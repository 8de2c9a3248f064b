import Mathlib.Tactic.Common

/-!
# Go actions: mutable receivers, errors and panics

A Go method with a pointer receiver and an error result changes its receiver
even when it fails, and it may panic.  Both are visible to its caller, so the
model runs such a method in `EStateM`, whose error results keep the state
reached before the failure.  A failure is either an error value or a panic.

The rules at the end are partial-correctness triples.  They fail on a panic,
so a triple is also a proof that the action cannot panic.
-/

namespace Libbinder.Go

/-- How a Go call can fail: with an error value, or by panicking. -/
inductive Fault (ε : Type) where
  | error (reason : ε)
  | panic
deriving DecidableEq, Repr

/-- A Go call on a mutable receiver of type `σ`. -/
abbrev Action (σ ε α : Type) :=
  EStateM (Fault ε) σ α

namespace Action

variable {σ ε α β : Type}

/-- Return an error value. -/
def fail (reason : ε) : Action σ ε α :=
  fun state => .error (.error reason) state

/-- Abort with a runtime panic. -/
def abort : Action σ ε α :=
  fun state => .error .panic state

/-- Use a pure fallible result inside an action. -/
def ofExcept : Except ε α → Action σ ε α
  | .ok value => fun state => .ok value state
  | .error reason => fail reason

/-- Use an optional result whose absence stands for a runtime panic. -/
def orPanic : Option α → Action σ ε α
  | some value => fun state => .ok value state
  | none => abort

/-- The state an action leaves behind, whether it returns or fails. -/
def reached (action : Action σ ε α) (state : σ) : σ :=
  match action state with
  | .ok _ next => next
  | .error _ next => next

/-- The results of a call, or nothing if it panics. -/
def outcome (action : Action σ ε α) (state : σ) : Option (Except ε α) :=
  match action state with
  | .ok value _ => some (.ok value)
  | .error (.error reason) _ => some (.error reason)
  | .error .panic _ => none

/-- `if err := action(); err != nil`: the error becomes a value. -/
def attempt (action : Action σ ε α) : Action σ ε (Except ε α) :=
  fun state =>
    match action state with
    | .ok value next => .ok (.ok value) next
    | .error (.error reason) next => .ok (.error reason) next
    | .error .panic next => .error .panic next

/--
`defer`: the cleanup runs however the body ends, and its own result is dropped.
-/
def deferring (cleanup : Action σ ε Unit) (body : Action σ ε α) : Action σ ε α :=
  fun state =>
    match body state with
    | .ok value next => .ok value (cleanup.reached next)
    | .error fault next => .error fault (cleanup.reached next)

@[simp]
theorem ofExcept_ok_run (value : α) (state : σ) :
    (ofExcept (.ok value) : Action σ ε α) state = .ok value state :=
  rfl

@[simp]
theorem orPanic_some_run (value : α) (state : σ) :
    (orPanic (some value) : Action σ ε α) state = .ok value state :=
  rfl

@[simp]
theorem pure_run (value : α) (state : σ) : (pure value : Action σ ε α) state = .ok value state :=
  rfl

@[simp]
theorem get_run (state : σ) : (get : Action σ ε σ) state = .ok state state :=
  rfl

@[simp]
theorem set_run (next state : σ) : (set next : Action σ ε PUnit) state = .ok () next :=
  rfl

@[simp]
theorem modify_run (change : σ → σ) (state : σ) :
    (modify change : Action σ ε PUnit) state = .ok () (change state) :=
  rfl

/-- Sequencing runs the continuation in the state reached by the first part. -/
theorem bind_run (first : Action σ ε α) (next : α → Action σ ε β) (state : σ) :
    (first >>= next) state =
      match first state with
      | .ok value reached => next value reached
      | .error fault reached => .error fault reached := by
  change EStateM.bind first next state = _
  unfold EStateM.bind
  cases first state <;> rfl

variable {first : Action σ ε α} {state reached : σ} {value : α}

theorem bind_ok {next : α → Action σ ε β} (returns : first state = .ok value reached) :
    (first >>= next) state = next value reached := by
  rw [bind_run, returns]

variable {fault : Fault ε}

theorem bind_error {next : α → Action σ ε β} (fails : first state = .error fault reached) :
    (first >>= next) state = .error fault reached := by
  rw [bind_run, fails]

/-- A sequence that returns: its first part returned before. -/
theorem of_bind_ok
    {next : α → Action σ ε β} {value : β} (returns : (first >>= next) state = .ok value reached) :
    ∃ result middle, first state = .ok result middle ∧ next result middle = .ok value reached := by
  rw [bind_run] at returns
  cases ran : first state with
  | ok result middle =>
    rw [ran] at returns
    exact ⟨result, middle, rfl, returns⟩
  | error fault middle =>
    rw [ran] at returns
    cases returns

variable {action : Action σ ε α} {next : σ}

theorem reached_of_ok (returns : action state = .ok value next) : action.reached state = next := by
  rw [reached, returns]

theorem reached_of_error (fails : action state = .error fault next) :
    action.reached state = next := by
  rw [reached, fails]

variable {second : Action σ ε α}

theorem reached_congr {other : σ} (same : first state = second other) :
    first.reached state = second.reached other := by
  rw [reached, reached, same]

theorem outcome_congr {other : σ} (same : first state = second other) :
    first.outcome state = second.outcome other := by
  rw [outcome, outcome, same]

variable {reason : ε}

theorem outcome_of_error (fails : action state = .error (.error reason) next) :
    action.outcome state = some (.error reason) := by
  rw [outcome, fails]

theorem attempt_of_ok (returns : action state = .ok value next) :
    action.attempt state = .ok (.ok value) next := by
  rw [attempt, returns]

theorem attempt_of_error (fails : action state = .error (.error reason) next) :
    action.attempt state = .ok (.error reason) next := by
  rw [attempt, fails]

variable {cleanup : Action σ ε Unit} {body : Action σ ε α}

theorem deferring_of_ok (returns : body state = .ok value next) :
    deferring cleanup body state = .ok value (cleanup.reached next) := by
  rw [deferring, returns]

theorem deferring_of_error (fails : body state = .error fault next) :
    deferring cleanup body state = .error fault (cleanup.reached next) := by
  rw [deferring, fails]

/-- A last part that leaves the state alone does not show in it. -/
theorem reached_bind_of_still
    {next : α → Action σ ε β} (still : ∀ value state, (next value).reached state = state)
    (state : σ) : (first >>= next).reached state = first.reached state := by
  cases ran : first state with
  | ok value middle =>
    rw [reached_of_ok ran, reached, bind_ok ran]
    exact still value middle
  | error fault middle => rw [reached_of_error ran, reached_of_error (bind_error ran)]

theorem reached_bind_ok
    {next : α → Action σ ε β} {middle : σ} (returns : first state = .ok value middle) :
    (first >>= next).reached state = (next value).reached middle := by
  rw [reached, bind_ok returns]
  rfl

/-! ## Outcomes -/

/-- The action returns some value, in this state. -/
def Returns (action : Action σ ε α) (state reached : σ) : Prop :=
  ∃ value, action state = .ok value reached

def Panics (action : Action σ ε α) (state : σ) : Prop :=
  ∃ reached, action state = .error .panic reached

theorem returns_pure : Returns (pure value : Action σ ε α) state reached ↔ reached = state := by
  constructor
  · rintro ⟨_, ran⟩
    cases ran
    rfl
  · rintro rfl
    exact ⟨value, rfl⟩

theorem not_panics_pure : ¬ Panics (pure value : Action σ ε α) state := by
  rintro ⟨_, broke⟩
  cases broke

theorem not_returns_fail : ¬ Returns (fail reason : Action σ ε α) state reached := by
  rintro ⟨_, ran⟩
  cases ran

theorem not_panics_fail : ¬ Panics (fail reason : Action σ ε α) state := by
  rintro ⟨_, broke⟩
  cases broke

theorem returns_bind {next : α → Action σ ε β} :
    Returns (first >>= next) state reached ↔
      ∃ value middle, first state = .ok value middle ∧ Returns (next value) middle reached := by
  constructor
  · rintro ⟨result, got⟩
    obtain ⟨value, middle, ran, rest⟩ := of_bind_ok got
    exact ⟨value, middle, ran, result, rest⟩
  · rintro ⟨value, middle, ran, result, rest⟩
    exact ⟨result, (bind_ok ran).trans rest⟩

theorem panics_bind {next : α → Action σ ε β} :
    Panics (first >>= next) state ↔
      Panics first state ∨
        ∃ value middle, first state = .ok value middle ∧ Panics (next value) middle := by
  unfold Panics
  rw [bind_run]
  cases first state with
  | ok | error => simp

variable {compute : α → β}

/-- A repackaged result returns where the result does. -/
theorem returns_map :
    Returns
        (do
          let value ← action
          return compute value) state reached ↔
      Returns action state reached := by
  rw [returns_bind]
  constructor
  · rintro ⟨value, _, ran, done⟩
    rw [returns_pure] at done
    subst done
    exact ⟨value, ran⟩
  · rintro ⟨value, ran⟩
    exact ⟨value, reached, ran, returns_pure.mpr rfl⟩

/-- A repackaged result panics where the result does. -/
theorem panics_map :
    Panics
        (do
          let value ← action
          return compute value) state ↔
      Panics action state := by
  rw [panics_bind]
  constructor
  · rintro (broke | ⟨_, _, _, done⟩)
    · exact broke
    · exact (not_panics_pure done).elim
  · exact .inl

/-- Where an action ended, if it returned. -/
def reached? (action : Action σ ε α) (state : σ) : Option σ :=
  match action state with
  | .ok _ reached => some reached
  | .error _ _ => none

theorem returns_of_reached? (ran : action.reached? state = some reached) :
    action.Returns state reached := by
  unfold reached? at ran
  split at ran
  · next value other result =>
    cases ran
    exact ⟨value, result⟩
  · cases ran

/-- Whether an action panics. -/
def panics? (action : Action σ ε α) (state : σ) : Bool :=
  match action state with
  | .error .panic _ => true
  | _ => false

theorem panics_of_panics? (broke : action.panics? state) : action.Panics state := by
  unfold panics? at broke
  split at broke
  · next reached result => exact ⟨reached, result⟩
  · cases broke

/-- The action returns from some state. -/
def CanReturn (action : Action σ ε α) : Prop :=
  ∃ state reached, Returns action state reached

namespace CanReturn

theorem not_fail : ¬ CanReturn (fail reason : Action σ ε α) := by
  rintro ⟨_, _, ran⟩
  exact not_returns_fail ran

theorem of_bind {next : α → Action σ ε β} (returns : CanReturn (first >>= next)) :
    CanReturn first ∧ ∃ value, CanReturn (next value) := by
  rcases returns with ⟨state, reached, got⟩
  rcases returns_bind.mp got with ⟨value, middle, ran, rest⟩
  exact ⟨⟨state, middle, value, ran⟩, value, middle, reached, rest⟩

/-- What follows a returning action can return. -/
theorem right {next : Action σ ε β} (returns : CanReturn (first >>= fun _ => next)) :
    CanReturn next := by
  rcases returns.of_bind.2 with ⟨_, rest⟩
  exact rest

/-- Every step of a loop that can return can return. -/
theorem forM
    {body : α → Action σ ε PUnit} {values : List α} (returns : CanReturn (values.forM body)) :
    ∀ value ∈ values, CanReturn (body value) := by
  induction values with
  | nil => simp
  | cons head tail ih =>
    rw [List.forM_eq_forM, List.forM_cons] at returns
    intro value mem
    rcases List.mem_cons.mp mem with rfl | later
    · exact returns.of_bind.1
    · exact ih returns.right value later

end CanReturn

/-! ## Triples -/

/--
From every state satisfying `pre`, the action returns a value satisfying
`post`, or fails with an error in a state satisfying `onError`.  It does not
panic.
-/
def Triple
    (pre : σ → Prop) (action : Action σ ε α)
    (post : α → σ → Prop) (onError : σ → Prop) : Prop :=
  ∀ state, pre state →
    match action state with
    | .ok value reached => post value reached
    | .error (.error _) reached => onError reached
    | .error .panic _ => False

namespace Triple

variable
    {pre : σ → Prop} {post mid : α → σ → Prop}
    {postNext : β → σ → Prop} {onError : σ → Prop}

theorem bind
    {next : α → Action σ ε β} (firstTriple : Triple pre first mid onError)
    (nextTriple : ∀ value, Triple (mid value) (next value) postNext onError) :
    Triple pre (first >>= next) postNext onError := by
  intro state holds
  have firstHolds := firstTriple state holds
  rw [bind_run]
  cases result : first state with
  | ok value reached =>
    rw [result] at firstHolds
    exact nextTriple value reached firstHolds
  | error fault reached =>
    rw [result] at firstHolds
    cases fault with
    | error | panic => exact firstHolds

/-- A triple rules out panics. -/
theorem not_panics (triple : Triple pre action post onError) (holds : pre state) :
    ¬ Panics action state := by
  rintro ⟨reached, broke⟩
  have := triple state holds
  rwa [broke] at this

theorem pure (value : α) (holds : ∀ state, pre state → post value state) :
    Triple pre (.pure value : Action σ ε α) post onError :=
  holds

theorem fail (reason : ε) (holds : ∀ state, pre state → onError state) :
    Triple pre (.fail reason : Action σ ε α) post onError :=
  holds

theorem ofExcept
    (result : Except ε α)
    (returns : ∀ value, result = .ok value → ∀ state, pre state → post value state)
    (fails : ∀ state, pre state → onError state) :
    Triple pre (.ofExcept result : Action σ ε α) post onError := by
  cases result with
  | ok value => exact returns value rfl
  | error reason => exact fails

end Triple

end Action

end Libbinder.Go
