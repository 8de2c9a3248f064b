import Libbinder.Rpc.Registrations

/-!
# Waiting for a service

Calls of `WaitService` beside the other users of the registry.  A call and the
watch it makes have one number.  The subscription of a call is closed by the
call itself, when it returns, or by the goroutine that waits for the context.
-/

namespace Libbinder.Rpc

open Go List Function

variable {B : Type}

/-- The errors of a call that gives up. -/
inductive WaitError where
  | noService
  | contextDone
deriving DecidableEq

/-- How far a call of `WaitService` has come; an absent binder is nil. -/
inductive WaitPhase (B : Type) where
  | idle
  | missed (name : GoString)
  | watching (name : GoString)
  | selecting (name : GoString)
  | returned (result : Except WaitError (Option B))
deriving DecidableEq

/-- The registry beside the calls of `WaitService`. -/
structure Waiting (B : Type) where
  registry : Registrations B
  phase : Nat → WaitPhase B
  /-- The context of the call has ended. -/
  cancelled : Nat → Bool

/-- The steps of the calls and of everything around them. -/
inductive WaitLabel (B : Type) where
  /-- Another user of the registry, or a callback. -/
  | registry (label : RegistryLabel B)
  /-- The first `CheckService`. -/
  | check (w : Nat) (name : GoString)
  /-- `WatchServiceRegistrations`, without the callback for an entry that is there. -/
  | subscribe (w : Nat)
  /-- The second `CheckService`, after that callback. -/
  | recheck (w : Nat)
  /-- The `select` takes what was found. -/
  | receive (w : Nat)
  /-- The `select` takes `ctx.Done` or `sub.Done`. -/
  | giveUp (w : Nat) (why : WaitError)
  /-- The context of the call ends. -/
  | cancel (w : Nat)
  /-- The subscription is closed, by the return of the call or after its context. -/
  | unsubscribe (w : Nat)

/-- The watch that a label makes or closes. -/
def RegistryLabel.subject : RegistryLabel B → Option Nat
  | .watch w _ => some w
  | .close w => some w
  | _ => none

/-- The name of the watch the call has made. -/
def WaitPhase.aim : WaitPhase B → Option GoString
  | .watching name => some name
  | .selecting name => some name
  | _ => none

namespace Waiting

def setPhase (s : Waiting B) (w : Nat) (phase : WaitPhase B) : Waiting B :=
  { s with phase := update s.phase w phase }

/-- `CheckService`, and where the call goes on if there is no service. -/
def look (s : Waiting B) (w : Nat) (name : GoString) (missed : WaitPhase B) : Waiting B :=
  s.setPhase w (match s.registry.services name with
    | none => missed
    | some entry => .returned (.ok (some entry.service)))

/-- The case of the `select` that ends a call with this error is ready. -/
def ends (s : Waiting B) (w : Nat) : WaitError → Bool
  | .contextDone => s.cancelled w
  | .noService => w ∉ s.registry.opened

def step [DecidableEq B] (s : Waiting B) : WaitLabel B → Option (Waiting B)
  | .registry label =>
    if ∀ w ∈ label.subject, s.phase w = .idle then
      (s.registry.step label).map fun registry => { s with registry := registry }
    else none
  | .check w name =>
    if s.phase w = .idle ∧ s.registry.watched w = none then some (s.look w name (.missed name))
    else none
  | .subscribe w =>
    match s.phase w with
    | .missed name =>
      (s.registry.step (.watch w name)).map fun registry =>
        { s.setPhase w (.watching name) with registry := registry }
    | _ => none
  | .recheck w =>
    match s.phase w with
    | .watching name =>
      if ∃ callback ∈ s.registry.pending, callback.watch = w ∧ callback.initial then none
      else some (s.look w name (.selecting name))
    | _ => none
  | .receive w =>
    match s.phase w, s.registry.delivered w with
    | .selecting _, entry :: _ => some (s.setPhase w (.returned (.ok (some entry.service))))
    | _, _ => none
  | .giveUp w why =>
    match s.phase w with
    | .selecting _ => if s.ends w why then some (s.setPhase w (.returned (.error why))) else none
    | _ => none
  | .cancel w => some { s with cancelled := update s.cancelled w true }
  | .unsubscribe w =>
    if s.cancelled w ∨ (s.phase w).aim = none then
      (s.registry.step (.close w)).map fun registry => { s with registry := registry }
    else none

/-- None of the three cases of the `select` is ready. -/
def Blocked (s : Waiting B) (w : Nat) : Prop :=
  s.registry.delivered w = [] ∧ s.cancelled w = false ∧ w ∈ s.registry.opened

/-- The watches of the calls are those of the registry, and no call returns nil. -/
structure Inv (s : Waiting B) : Prop where
  registry : s.registry.Inv
  aims : ∀ w name, (s.phase w).aim = some name → s.registry.watched w = some name
  answers : ∀ w, s.phase w ≠ .returned (.ok none)

variable {s t : Waiting B} {w : Nat}

namespace Inv

theorem setPhase
    {phase : WaitPhase B} (inv : Inv s)
    (aims : ∀ name, phase.aim = some name → s.registry.watched w = some name)
    (answers : phase ≠ .returned (.ok none)) : Inv (s.setPhase w phase) where
  registry := inv.registry
  aims := (forall_update_iff s.phase fun v now => ∀ name, now.aim = some name →
    s.registry.watched v = some name).mpr ⟨aims, fun v _ => inv.aims v⟩
  answers := (forall_update_iff s.phase fun _ now => now ≠ .returned (.ok none)).mpr
    ⟨answers, fun v _ => inv.answers v⟩

theorem look
    {missed : WaitPhase B} (inv : Inv s) (name : GoString)
    (aims : ∀ name, missed.aim = some name → s.registry.watched w = some name)
    (answers : missed ≠ .returned (.ok none)) : Inv (s.look w name missed) := by
  unfold Waiting.look
  split
  · exact inv.setPhase aims answers
  · exact inv.setPhase (by rintro _ ⟨⟩) (by rintro ⟨⟩)

variable [DecidableEq B]

/-- A step of the registry leaves the calls where they are. -/
theorem advance
    {label : RegistryLabel B} {registry : Registrations B} (inv : Inv s)
    (ran : s.registry.step label = some registry) : Inv { s with registry := registry } where
  registry := inv.registry.step ran
  aims := fun v name aimed => Registrations.watched_step (inv.aims v name aimed) ran
  answers := inv.answers

/-- Every step keeps the invariant. -/
theorem step {label : WaitLabel B} (inv : Inv s) (ran : s.step label = some t) : Inv t := by
  cases label
  all_goals simp only [Waiting.step] at ran
  case registry label =>
    split_ifs at ran
    rcases Option.map_eq_some_iff.mp ran with ⟨registry, moved, rfl⟩
    exact inv.advance moved
  case check w name =>
    split_ifs at ran
    cases ran
    exact inv.look name (by rintro _ ⟨⟩) (by rintro ⟨⟩)
  case subscribe w =>
    split at ran
    · next name now =>
      rcases Option.map_eq_some_iff.mp ran with ⟨registry, moved, rfl⟩
      refine (inv.advance moved).setPhase ?_ (by rintro ⟨⟩)
      rintro _ ⟨⟩
      simp only [Registrations.step] at moved
      split_ifs at moved
      cases moved
      exact update_self w _ _
    · cases ran
  case recheck w =>
    split at ran
    · next name now =>
      split_ifs at ran
      cases ran
      refine inv.look name ?_ (by rintro ⟨⟩)
      rintro _ ⟨⟩
      exact inv.aims w name (by rw [now]; rfl)
    · cases ran
  case receive w =>
    split at ran
    · cases ran
      exact inv.setPhase (by rintro _ ⟨⟩) (by rintro ⟨⟩)
    · cases ran
  case giveUp w why =>
    split at ran
    · split_ifs at ran
      cases ran
      exact inv.setPhase (by rintro _ ⟨⟩) (by rintro ⟨⟩)
    · cases ran
  case cancel w =>
    cases ran
    exact ⟨inv.registry, inv.aims, inv.answers⟩
  case unsubscribe w =>
    split_ifs at ran
    rcases Option.map_eq_some_iff.mp ran with ⟨registry, moved, rfl⟩
    exact inv.advance moved

end Inv

end Waiting

/-- All interleavings of waiting calls with the users of the registry. -/
def waiting (B : Type) [DecidableEq B] : System (Waiting B) (WaitLabel B) where
  init := ⟨.init, fun _ => .idle, fun _ => false⟩
  step := Waiting.step

namespace Waiting

/--
No call keeps waiting for a service that is registered, once the callbacks to
it have been called; and no call returns a nil binder without an error.
-/
theorem no_wakeup_lost
    [DecidableEq B] {s : Waiting B} {labels : List (WaitLabel B)}
    (ran : (waiting B).run labels (waiting B).init = some s) :
    (∀ w name, s.phase w = .selecting name → s.registry.services name ≠ none →
      s.registry.Quiet w → ¬ s.Blocked w) ∧
    ∀ w, s.phase w ≠ .returned (.ok none) := by
  have inv : Inv s := by
    refine System.run_invariant (fun _ _ _ inv stepped => Inv.step inv stepped) ?_ ran
    exact ⟨.init, fun _ _ aimed => (by cases aimed), fun _ done => (by cases done)⟩
  refine ⟨?_, inv.answers⟩
  rintro w name selecting registered quiet ⟨nothing, -, opened⟩
  rcases Option.ne_none_iff_exists'.mp registered with ⟨entry, found⟩
  have watches := inv.aims w name (by rw [selecting]; rfl)
  rcases inv.registry.told w name entry opened watches found with came | ⟨callback, due, aimed, -⟩
  · rw [nothing] at came
    cases came
  · exact quiet callback due aimed

/-- A call is told of a service that is registered while it waits. -/
def wokenUp : List (WaitLabel Nat) :=
  [.check 0 [97], .subscribe 0, .recheck 0, .registry (.add [97] (some 5)),
    .registry (.call ⟨0, false, ⟨5, 0⟩⟩)]

theorem woken_up : ∃ s, (waiting Nat).run wokenUp (waiting Nat).init = some s ∧
    s.phase 0 = .selecting [97] ∧ ¬ s.Blocked 0 :=
  ⟨_, rfl, rfl, (no_wakeup_lost (rfl : (waiting Nat).run wokenUp _ = some _)).1 0 [97] rfl
    (by rintro ⟨⟩) (by rintro _ ⟨⟩)⟩

end Waiting

end Libbinder.Rpc
