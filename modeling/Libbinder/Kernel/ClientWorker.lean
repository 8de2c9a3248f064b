import Libbinder.Go.Transition
import Mathlib.Data.List.Nodup

/-!
# Tasks of a client worker

One `ClientWorker` with the goroutines that call `Do` on it.  A call is named by
a number, which also names its task, its context and the `done` channel of the
task.  A `select` takes any of its cases that is ready.

A panic of a task ends the process and is left out, as is the `LastErr` of the
thread state, which the worker does not read.
-/

namespace Libbinder.Kernel.ClientWorker

open Go Function List Option

/-- The goroutine of `Start`; `waiting` is its `select`, and `exited` closes `done`. -/
inductive Worker (ε : Type) where
  | unstarted
  | waiting
  | running (task : Nat)
  | reporting (task : Nat) (err : ε)
  | exited
deriving DecidableEq

/-- What `Do` returns. -/
inductive Outcome (ε : Type) where
  | contextError
  | noClientWorker
  | result (err : ε)
deriving DecidableEq

/-- The progress of a call of `Do`: at its first or second `select`. -/
inductive DoPhase (ε : Type) where
  | idle
  | offering
  | awaiting
  | returned (outcome : Outcome ε)
deriving DecidableEq

/--
The worker and its callers.  `done` is what the channels of the tasks hold,
which have room for one value.  The tasks the worker received and the runs that
have ended are a history.
-/
structure State (ε : Type) where
  worker : Worker ε
  stopped : Bool
  calls : Nat → DoPhase ε
  cancelled : Nat → Bool
  done : Nat → Option ε
  accepted : List Nat
  ended : List (Nat × ε)

/-- The steps of `Do` and of the goroutine. -/
inductive Label (ε : Type) where
  /-- The goroutine of the worker starts. -/
  | start
  /-- `Do` is called. -/
  | call (n : Nat)
  /-- The worker receives the task. -/
  | hand (n : Nat)
  /-- The task returns. -/
  | finish (n : Nat) (err : ε)
  /-- The worker sends the result. -/
  | report (n : Nat) (err : ε)
  /-- `Do` returns the result. -/
  | receive (n : Nat) (err : ε)
  /-- `Do` takes `ctx.Done`. -/
  | contextDone (n : Nat)
  /-- `Do` takes `w.done`. -/
  | workerDone (n : Nat)
  /-- The context ends. -/
  | cancel (n : Nat)
  /-- `Close` of the worker. -/
  | close
  /-- The goroutine ends. -/
  | exit

variable {ε : Type}

def Worker.underWay : Worker ε → List Nat
  | .running task => [task]
  | _ => []

namespace State

def init : State ε where
  worker := .unstarted
  stopped := false
  calls := fun _ => .idle
  cancelled := fun _ => false
  done := fun _ => none
  accepted := []
  ended := []

def setCall (s : State ε) (n : Nat) (phase : DoPhase ε) : State ε :=
  { s with calls := update s.calls n phase }

/-- The call is at one of its `select` statements. -/
def selecting (s : State ε) (n : Nat) : Bool :=
  match s.calls n with
  | .offering | .awaiting => true
  | _ => false

/-- The tasks whose run has begun: the runs that have ended, and the present one. -/
def begun (s : State ε) : List Nat :=
  s.ended.map Prod.fst ++ s.worker.underWay

end State

/-- One atomic action. -/
def step [DecidableEq ε] (s : State ε) : Label ε → Option (State ε)
  | .start => if s.worker = .unstarted then some { s with worker := .waiting } else none
  | .call n => if s.calls n = .idle then some (s.setCall n .offering) else none
  | .hand n =>
    if s.calls n = .offering ∧ s.worker = .waiting then
      some { s.setCall n .awaiting with worker := .running n, accepted := s.accepted ++ [n] }
    else none
  | .finish n err =>
    if s.worker = .running n then
      some { s with worker := .reporting n err, ended := s.ended ++ [(n, err)] }
    else none
  | .report n err =>
    if s.worker = .reporting n err ∧ s.done n = none then
      some { s with worker := .waiting, done := update s.done n (some err) }
    else none
  | .receive n err =>
    if s.calls n = .awaiting ∧ s.done n = some err then
      some { s.setCall n (.returned (.result err)) with done := update s.done n none }
    else none
  | .contextDone n =>
    if s.selecting n ∧ s.cancelled n then some (s.setCall n (.returned .contextError)) else none
  | .workerDone n =>
    if s.selecting n ∧ s.worker = .exited then some (s.setCall n (.returned .noClientWorker))
    else none
  | .cancel n => some { s with cancelled := update s.cancelled n true }
  | .close => some { s with stopped := true }
  | .exit => if s.worker = .waiting ∧ s.stopped then some { s with worker := .exited } else none

/-- All runs of one worker. -/
def clientWorker (ε : Type) [DecidableEq ε] : System (State ε) (Label ε) where
  init := .init
  step := step

/-- The invariant of the worker. -/
structure Inv (s : State ε) : Prop where
  begun : s.begun = s.accepted
  once : s.accepted.Nodup
  fresh : ∀ n, s.calls n = .idle ∨ s.calls n = .offering → n ∉ s.accepted
  buffered : ∀ n err, s.done n = some err → (n, err) ∈ s.ended
  unsent : ∀ n err, s.worker = .reporting n err → s.done n = none ∧ (n, err) ∈ s.ended
  results : ∀ n err, s.calls n = .returned (.result err) → (n, err) ∈ s.ended

variable {s next : State ε} {n : Nat} {err : ε}

namespace Inv

variable (inv : Inv s)

include inv

theorem setCall
    {phase : DoPhase ε} (fresh : phase = .idle ∨ phase = .offering → n ∉ s.accepted)
    (results : ∀ err, phase = .returned (.result err) → (n, err) ∈ s.ended) :
    Inv (s.setCall n phase) :=
  { inv with
    fresh := (forall_update_iff s.calls fun m now =>
      now = .idle ∨ now = .offering → m ∉ s.accepted).mpr ⟨fresh, fun m _ => inv.fresh m⟩
    results := (forall_update_iff s.calls fun m now =>
      ∀ err, now = .returned (.result err) → (m, err) ∈ s.ended).mpr
        ⟨results, fun m _ => inv.results m⟩ }

theorem setDone
    {value : Option ε} (buffered : ∀ err, value = some err → (n, err) ∈ s.ended)
    (unsent : value = none ∨ ∀ err, s.worker ≠ .reporting n err) :
    Inv { s with done := update s.done n value } :=
  { inv with
    buffered := (forall_update_iff s.done fun m now =>
      ∀ err, now = some err → (m, err) ∈ s.ended).mpr ⟨buffered, fun m _ => inv.buffered m⟩
    unsent := (forall_update_iff s.done fun m now =>
      ∀ err, s.worker = .reporting m err → now = none ∧ (m, err) ∈ s.ended).mpr
        ⟨fun err reporting =>
          ⟨unsent.resolve_right fun other => other err reporting, (inv.unsent n err reporting).2⟩,
        fun m _ => inv.unsent m⟩ }

/-- The worker moves on between two runs. -/
theorem move
    {worker : Worker ε} (same : worker.underWay = s.worker.underWay)
    (quiet : ∀ n err, worker ≠ .reporting n err) : Inv { s with worker := worker } :=
  { inv with
    begun := (congrArg (s.ended.map Prod.fst ++ ·) same).trans inv.begun
    unsent := fun n err reporting => absurd reporting (quiet n err) }

/-- A task is handed over while its call is at the first `select`. -/
theorem hand (offering : s.calls n = .offering) (waits : s.worker = .waiting) :
    Inv { s.setCall n .awaiting with worker := .running n, accepted := s.accepted ++ [n] } := by
  have called : Inv (s.setCall n .awaiting) := inv.setCall (by simp) (by rintro _ ⟨⟩)
  have begun := inv.begun
  have once : (s.accepted ++ [n]).Nodup := by
    rw [← concat_eq_append, nodup_concat]
    exact ⟨inv.fresh n (.inr offering), inv.once⟩
  simp only [State.begun, waits, Worker.underWay, append_nil] at begun
  exact { called with
    begun := congrArg (· ++ [n]) begun
    once := once
    fresh := by
      intro m early mem
      rcases mem_append.mp mem with before | last
      · exact called.fresh m early before
      · cases mem_singleton.mp last
        simp [State.setCall] at early
    unsent := by rintro _ _ ⟨⟩ }

/-- A run ends: its task was not run before, so its channel is empty. -/
theorem finish (runs : s.worker = .running n) (err : ε) :
    Inv { s with worker := .reporting n err, ended := s.ended ++ [(n, err)] } := by
  have begun := inv.begun
  have once := inv.once
  rw [State.begun, runs, Worker.underWay] at begun
  rw [← begun, ← concat_eq_append, nodup_concat] at once
  exact { inv with
    begun := by simpa [State.begun, Worker.underWay] using begun
    buffered := fun m value sent => mem_append_left _ (inv.buffered m value sent)
    unsent := by
      rintro _ _ ⟨⟩
      refine ⟨?_, mem_append_right _ (mem_singleton_self _)⟩
      rw [eq_none_iff_forall_not_mem]
      exact fun value sent => once.1 (mem_map_of_mem (inv.buffered n value sent))
    results := fun m value ran => mem_append_left _ (inv.results m value ran) }

variable [DecidableEq ε]

/-- Every step keeps the invariant. -/
theorem step {label : Label ε} (ran : ClientWorker.step s label = some next) : Inv next := by
  cases label with
  | start =>
    rcases ite_none_right_eq_some.mp ran with ⟨unstarted, ⟨⟩⟩
    exact inv.move (by rw [unstarted]; rfl) (by rintro _ _ ⟨⟩)
  | call n =>
    rcases ite_none_right_eq_some.mp ran with ⟨idle, ⟨⟩⟩
    exact inv.setCall (fun _ => inv.fresh n (.inl idle)) (by rintro _ ⟨⟩)
  | hand n =>
    rcases ite_none_right_eq_some.mp ran with ⟨⟨offering, waits⟩, ⟨⟩⟩
    exact inv.hand offering waits
  | finish n err =>
    rcases ite_none_right_eq_some.mp ran with ⟨runs, ⟨⟩⟩
    exact inv.finish runs err
  | report n err =>
    rcases ite_none_right_eq_some.mp ran with ⟨⟨reporting, -⟩, ⟨⟩⟩
    have waits : Inv { s with worker := .waiting } :=
      inv.move (by rw [reporting]; rfl) (by rintro _ _ ⟨⟩)
    refine waits.setDone ?_ (.inr (by rintro _ ⟨⟩))
    rintro _ ⟨⟩
    exact (inv.unsent n err reporting).2
  | receive n err =>
    rcases ite_none_right_eq_some.mp ran with ⟨⟨-, sent⟩, ⟨⟩⟩
    have got : Inv (s.setCall n (.returned (.result err))) := by
      refine inv.setCall (by simp) ?_
      rintro _ ⟨⟩
      exact inv.buffered n err sent
    exact got.setDone (by rintro _ ⟨⟩) (.inl rfl)
  | contextDone n | workerDone n =>
    rcases ite_none_right_eq_some.mp ran with ⟨-, ⟨⟩⟩
    exact inv.setCall (by simp) (by rintro _ ⟨⟩)
  | cancel n | close =>
    cases ran
    exact { inv with }
  | exit =>
    rcases ite_none_right_eq_some.mp ran with ⟨⟨waits, -⟩, ⟨⟩⟩
    exact inv.move (by rw [waits]; rfl) (by rintro _ _ ⟨⟩)

end Inv

variable [DecidableEq ε]

/--
In every run the tasks that were received are those whose run has begun, in
this order and each of them once, so a task begins after the run before it has
ended, and a task that was not received never does.  The worker can always send
the result it has, and a call that returns a result returns that of its own
task.
-/
theorem tasks_run_once
    {labels : List (Label ε)} (ran : (clientWorker ε).run labels .init = some s) :
    s.begun = s.accepted ∧ s.accepted.Nodup ∧
      (∀ n err, s.worker = .reporting n err → (step s (.report n err)).isSome) ∧
      ∀ n err, s.calls n = .returned (.result err) → (n, err) ∈ s.ended := by
  have initially : Inv (.init : State ε) :=
    ⟨rfl, nodup_nil, fun _ _ => not_mem_nil, by rintro _ _ ⟨⟩, by rintro _ _ ⟨⟩, by rintro _ _ ⟨⟩⟩
  have inv : Inv s :=
    System.run_invariant (fun _ _ _ before stepped => before.step stepped) initially ran
  refine ⟨inv.begun, inv.once, ?_, inv.results⟩
  intro n err reporting
  rw [step, if_pos ⟨reporting, (inv.unsent n err reporting).1⟩]
  rfl

/-- The first call gives its task up; the worker runs it and the next one. -/
def abandoned : List (Label Nat) :=
  [.start, .call 0, .hand 0, .cancel 0, .contextDone 0, .finish 0 7, .report 0 7, .call 1,
    .hand 1, .finish 1 8, .report 1 8, .receive 1 8, .close, .exit]

theorem abandoned_task_runs :
    ∃ s, (clientWorker Nat).run abandoned .init = some s ∧
      s.ended = [(0, 7), (1, 8)] ∧ s.begun = s.accepted :=
  ⟨_, rfl, rfl, (tasks_run_once (rfl : (clientWorker Nat).run abandoned .init = _)).1⟩

end Libbinder.Kernel.ClientWorker
