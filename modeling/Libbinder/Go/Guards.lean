import Libbinder.Go.Action

/-!
# The guards of one goroutine

Neither a mutex nor the mutex inside a `sync.Once` is reentrant: a goroutine
that asks for a guard it holds waits for itself.  An action over the guards
that a goroutine holds fails with a guard exactly at such a wait.  A guard that
another goroutine holds only delays the action and is not seen here.

The rules say that a condition decides between the return of an action, with
the guards held as before, and such a wait.
-/

namespace Libbinder.Go

open Go.Action

/-- The guards a goroutine holds, and the rest of what it can see. -/
structure Holding (G σ : Type) where
  held : List G
  own : σ

abbrev GuardM (G σ α : Type) :=
  Action (Holding G σ) G α

namespace GuardM

variable {G σ α β : Type}

/-- The goroutine waits for a guard that it holds itself. -/
def Waits (action : GuardM G σ α) (s : Holding G σ) : Prop :=
  ∃ guard t, action s = .error (.error guard) t ∧ guard ∈ t.held

/-- The action returns a value and holds what it held before. -/
def Returns (inv : σ → Prop) (action : GuardM G σ α) (s : Holding G σ)
    (value : α) : Prop :=
  ∃ own, action s = .ok value ⟨s.held, own⟩ ∧ inv own

/-- A condition decides between the return of an action and a wait. -/
structure Decides (inv : σ → Prop) (condition : Prop)
    (action : GuardM G σ α) (s : Holding G σ) (value : α) : Prop where
  returns : condition → Returns inv action s value
  waits : ¬ condition → Waits action s

variable {inv after : σ → Prop} {condition other : Prop}
  {action : GuardM G σ α} {next : α → GuardM G σ β} {s : Holding G σ}
  {value : α} {result : β} {guard : G}

theorem Returns.decides (returns : Returns inv action s value) (holds : condition) :
    Decides inv condition action s value :=
  ⟨fun _ => returns, fun fails => absurd holds fails⟩

theorem Decides.of_iff (decides : Decides inv condition action s value) (same : condition ↔ other) :
    Decides inv other action s value :=
  ⟨fun holds => decides.returns (same.mpr holds), fun fails => decides.waits (mt same.mp fails)⟩

theorem Decides.not_waits_iff (decides : Decides inv condition action s value) :
    ¬ Waits action s ↔ condition := by
  refine ⟨fun free => by_contra fun fails => free (decides.waits fails), ?_⟩
  rintro holds ⟨guard, t, fails, -⟩
  rcases decides.returns holds with ⟨own, ran, -⟩
  rw [ran] at fails
  cases fails

theorem returns_pure (holds : inv s.own) : Returns inv (pure value : GuardM G σ α) s value :=
  ⟨s.own, rfl, holds⟩

theorem Decides.get
    {next : Holding G σ → GuardM G σ α} (body : Decides inv condition (next s) s value) :
    Decides inv condition (get >>= next) s value :=
  ⟨body.returns, body.waits⟩

theorem Waits.bind (waits : Waits action s) : Waits (action >>= next) s := by
  rcases waits with ⟨guard, t, fails, held⟩
  exact ⟨guard, t, bind_error fails, held⟩

theorem Returns.bind
    (first : Returns inv action s value)
    (second : ∀ own, inv own → Returns after (next value) ⟨s.held, own⟩ result) :
    Returns after (action >>= next) s result := by
  rcases first with ⟨own, ran, kept⟩
  rcases second own kept with ⟨last, ended, reached⟩
  exact ⟨last, (bind_ok ran).trans ended, reached⟩

/-- What comes after an action that returns decides. -/
theorem Returns.bind_decides
    (first : Returns inv action s value)
    (second : ∀ own, inv own → Decides after other (next value) ⟨s.held, own⟩ result) :
    Decides after other (action >>= next) s result where
  returns holds := first.bind fun own kept => (second own kept).returns holds
  waits := by
    intro fails
    rcases first with ⟨own, ran, kept⟩
    rcases (second own kept).waits fails with ⟨guard, t, waits, held⟩
    exact ⟨guard, t, (bind_ok ran).trans waits, held⟩

theorem Decides.bind
    (first : Decides inv condition action s value)
    (second : ∀ own, inv own → Decides after other (next value) ⟨s.held, own⟩ result) :
    Decides after (condition ∧ other) (action >>= next) s result where
  returns := by
    rintro ⟨holds, also⟩
    exact ((first.returns holds).bind_decides second).returns also
  waits := by
    intro fails
    by_cases holds : condition
    · exact ((first.returns holds).bind_decides second).waits fun also => fails ⟨holds, also⟩
    · exact (first.waits holds).bind

variable {round : α → GuardM G σ Unit}

/-- A loop returns if all its rounds do. -/
theorem Decides.forM
    {rounds : List α} {safe : α → Prop} (holds : inv s.own)
    (each : ∀ index ∈ rounds, ∀ own, inv own →
      Decides inv (safe index) (round index) ⟨s.held, own⟩ ()) :
    Decides inv (∀ index ∈ rounds, safe index) (rounds.forM round) s () := by
  induction rounds generalizing s with
  | nil => exact ⟨fun _ => returns_pure holds, fun fails => absurd (List.forall_mem_nil _) fails⟩
  | cons index rest ih =>
    rcases List.forall_mem_cons.mp each with ⟨first, others⟩
    have both :
        Decides inv (safe index ∧ ∀ later ∈ rest, safe later) ((index :: rest).forM round) s () :=
      (first s.own holds).bind fun own kept =>
        ih (s := ⟨s.held, own⟩) kept others
    exact both.of_iff List.forall_mem_cons.symm

theorem returns_forM
    {rounds : List α} (holds : inv s.own)
    (each : ∀ index own, inv own → Returns inv (round index) ⟨s.held, own⟩ ()) :
    Returns inv (rounds.forM round) s () :=
  (Decides.forM holds fun index _ own kept =>
    (each index own kept).decides trivial).returns fun _ _ => trivial

/-! ## Locks -/

variable [DecidableEq G]

/-- `Lock`. -/
def lock (guard : G) : GuardM G σ Unit := do
  if guard ∈ (← get).held then Action.fail guard
  else modify fun s => { s with held := guard :: s.held }

/-- `Unlock`. -/
def unlock (guard : G) : GuardM G σ Unit :=
  modify fun s => { s with held := s.held.erase guard }

/-- A body between `Lock` and `Unlock`. -/
def guarded (guard : G) (body : GuardM G σ α) : GuardM G σ α := do
  lock guard
  let result ← body
  unlock guard
  return result

/-- A guard is taken and given back. -/
def touch (guard : G) : GuardM G σ Unit :=
  guarded guard (return ())

theorem waits_guarded (held : guard ∈ s.held) : Waits (guarded guard action) s := by
  refine .bind ⟨guard, s, ?_, held⟩
  unfold lock
  rw [bind_run, get_run]
  simp only [if_pos held]
  rfl

theorem Decides.guarded
    (free : guard ∉ s.held) (body : Decides inv condition action ⟨guard :: s.held, s.own⟩ value) :
    Decides inv condition (guarded guard action) s value := by
  have locked : (lock guard : GuardM G σ Unit) s = .ok () ⟨guard :: s.held, s.own⟩ := by
    unfold lock
    rw [bind_run, get_run]
    simp only [if_neg free]
    rfl
  constructor
  · intro holds
    rcases body.returns holds with ⟨own, ran, kept⟩
    refine ⟨own, ?_, kept⟩
    have unlocked :
        (unlock guard : GuardM G σ Unit) ⟨guard :: s.held, own⟩ = .ok () ⟨s.held, own⟩ := by
      simp [unlock]
    rw [GuardM.guarded, bind_ok locked, bind_ok ran, bind_ok unlocked]
    rfl
  · intro fails
    rcases body.waits fails with ⟨wanted, t, waits, held⟩
    refine ⟨wanted, t, ?_, held⟩
    rw [GuardM.guarded, bind_ok locked, bind_error waits]

theorem returns_touch (free : guard ∉ s.held) (holds : inv s.own) :
    Returns inv (touch guard) s () := by
  have body : Returns inv (pure ()) ⟨guard :: s.held, s.own⟩ () := returns_pure holds
  exact (Decides.guarded free (body.decides trivial)).returns trivial

end GuardM

end Libbinder.Go
