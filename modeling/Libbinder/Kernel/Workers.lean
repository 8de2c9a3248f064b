import Libbinder.Go.Transition

/-!
# Client workers and nested calls

The goroutines around `ClientWorker.Do` as a transition system.  Every kernel
call of a process is a task for the first client worker, handed over on an
unbuffered channel and run on its goroutine.  A transaction that arrives while
the worker waits for its reply runs its handler there too, so a kernel call of
that handler offers a task to a worker that can only take it after the handler
has returned.

A goroutine is a stack of frames; only the code on top runs.  The empty stack
of a looper or client is its own loop, and that of any other goroutine the code
of the program.  What handlers do besides calling the kernel, local binders and
`Close` is left out, as are the driver and the time `Close` waits for loopers.
-/

namespace Libbinder.Kernel

open Go Function

namespace Workers

/-- Client workers are numbered in the order in which they were started. -/
inductive Goroutine where
  | client (worker : Nat)
  | looper (number : Nat)
  | user (number : Nat)
deriving DecidableEq

/--
The calls of the backend: `TransactHandle`, `AcquireHandle`, `ReleaseHandle`,
`requestDeathNotification` and `clearDeathNotification`.  Closing a proxy ends
in a release, watching for a death in an acquisition and a request.
-/
inductive KernelCall where
  | transact (handle : UInt32)
  | acquire (handle : UInt32)
  | release (handle : UInt32)
  | requestDeath (handle : UInt32)
  | clearDeath (handle : UInt32)
deriving DecidableEq

/-- Acquiring or releasing the handle zero returns before `Do`. -/
def KernelCall.submits : KernelCall → Bool
  | .acquire handle => handle != 0
  | .release handle => handle != 0
  | _ => true

/-- Only a transaction reads commands of the driver. -/
def KernelCall.listens : KernelCall → Bool
  | .transact _ => true
  | _ => false

/-- A `clientTask`; the number stands for its `done` channel. -/
structure ClientTask where
  number : Nat
  call : KernelCall
deriving DecidableEq

/--
What a goroutine is executing.  A context is `none` for `context.Background`,
which is never done.
-/
inductive Frame where
  | handler
  | offering (worker : Nat) (task : ClientTask) (ctx : Option Nat)
  | awaiting (worker : Nat) (task : Nat) (ctx : Option Nat)
  | running (task : ClientTask)
  | closing (workers : List Nat)
deriving DecidableEq

/-- The frame is the first `select` of `Do` on this worker. -/
def Frame.offersTo (worker : Nat) : Frame → Bool
  | .offering target _ _ => target == worker
  | _ => false

/--
The worker manager with its goroutines.  `stopped` and `exited` are the closed
`stop` and `done` channels of the workers, `finished` the tasks whose `done`
channel has the result.
-/
structure State where
  started : Bool
  clients : List Nat
  created : Nat
  tasks : Nat
  stopped : Nat → Bool
  exited : Nat → Bool
  finished : Nat → Bool
  cancelled : Nat → Bool
  stack : Goroutine → List Frame

/-- What the goroutines do. -/
inductive Label where
  | start (clientWorkers : Int)
  | call (g : Goroutine) (call : KernelCall) (ctx : Option Nat)
  | localCall (g : Goroutine)
  | hand (g : Goroutine)
  | incoming (g : Goroutine)
  | returnHandler (g : Goroutine)
  | complete (worker : Nat)
  | receive (g : Goroutine)
  | contextDone (g : Goroutine)
  | workerDone (g : Goroutine)
  | cancel (ctx : Nat)
  | close (g : Goroutine)
  | closeNext (g : Goroutine)
  | exit (worker : Nat)
deriving DecidableEq

namespace State

def init : State where
  started := false
  clients := []
  created := 0
  tasks := 0
  stopped := fun _ => false
  exited := fun _ => false
  finished := fun _ => false
  cancelled := fun _ => false
  stack := fun _ => []

def setStack (s : State) (g : Goroutine) (frames : List Frame) : State :=
  { s with stack := update s.stack g frames }

/-- `WorkerManager.Client`. -/
def client (s : State) : Option Nat :=
  s.clients.head?

/-- The goroutine executes code of the program or of a handler. -/
def active (s : State) (g : Goroutine) : Bool :=
  match g, s.stack g with
  | .user _, [] => true
  | _, .handler :: _ => true
  | _, _ => false

/-- The goroutine is at the `select` of `ClientWorker.Start`. -/
def idle (s : State) (worker : Nat) : Bool :=
  (s.stack (.client worker)).isEmpty && !s.exited worker

def done (s : State) : Option Nat → Bool
  | none => false
  | some ctx => s.cancelled ctx

/-- `WorkerManager.Start`; client workers do not fail to start. -/
def start (s : State) (clientWorkers : Int) : State :=
  let count := if clientWorkers ≤ 0 then 1 else clientWorkers.toNat
  { s with
    started := true
    clients := .range' s.created count
    created := s.created + count }

/-- The kernel calls up to the first `select` of `Do`. -/
def submit (s : State) (g : Goroutine) (call : KernelCall)
    (ctx : Option Nat) : State :=
  match call.submits, s.client with
  | true, some worker =>
    { s.setStack g
        (.offering worker { number := s.tasks, call := call } ctx :: s.stack g) with
      tasks := s.tasks + 1 }
  | _, _ => s

/-- The code of `WorkerManager.Close` for the next of its workers. -/
def closeNext (s : State) (g : Goroutine) (rest : List Frame) : List Nat → Option State
  | [] => some { s.setStack g rest with clients := [], started := false }
  | worker :: workers =>
    if !s.stopped worker then
      some { s with stopped := update s.stopped worker true }
    else if s.exited worker then
      some (s.setStack g (.closing workers :: rest))
    else
      none

end State

open State

/-- One atomic action. -/
def step (s : State) : Label → Option State
  | .start clientWorkers => if s.started then some s else some (s.start clientWorkers)
  | .call g call ctx => if s.active g then some (s.submit g call ctx) else none
  | .localCall g => if s.active g then some (s.setStack g (.handler :: s.stack g)) else none
  | .hand g =>
    match s.stack g with
    | .offering worker task ctx :: rest =>
      if s.idle worker then
        some ((s.setStack g (.awaiting worker task.number ctx :: rest)).setStack
          (.client worker) [.running task])
      else none
    | _ => none
  | .incoming g =>
    match g, s.stack g with
    | .looper _, [] => some (s.setStack g [.handler])
    | .client _, .running task :: rest =>
      if task.call.listens then
        some (s.setStack g (.handler :: .running task :: rest))
      else none
    | _, _ => none
  | .returnHandler g =>
    match s.stack g with
    | .handler :: rest => some (s.setStack g rest)
    | _ => none
  | .complete worker =>
    match s.stack (.client worker) with
    | [.running task] =>
      some { s.setStack (.client worker) [] with finished := update s.finished task.number true }
    | _ => none
  | .receive g =>
    match s.stack g with
    | .awaiting _ task _ :: rest => if s.finished task then some (s.setStack g rest) else none
    | _ => none
  | .contextDone g =>
    match s.stack g with
    | .offering _ _ ctx :: rest => if s.done ctx then some (s.setStack g rest) else none
    | .awaiting _ _ ctx :: rest => if s.done ctx then some (s.setStack g rest) else none
    | _ => none
  | .workerDone g =>
    match s.stack g with
    | .offering worker _ _ :: rest => if s.exited worker then some (s.setStack g rest) else none
    | .awaiting worker _ _ :: rest => if s.exited worker then some (s.setStack g rest) else none
    | _ => none
  | .cancel ctx => some { s with cancelled := update s.cancelled ctx true }
  | .close g =>
    if s.active g then
      some (s.setStack g (.closing s.clients :: s.stack g))
    else none
  | .closeNext g =>
    match s.stack g with
    | .closing workers :: rest => s.closeNext g rest workers
    | _ => none
  | .exit worker =>
    if s.idle worker && s.stopped worker then
      some { s with exited := update s.exited worker true }
    else none

def workers : System State Label where
  init := init
  step := step

/-- The goroutine of the worker waits to hand a task to the worker. -/
def State.awaitsItself (s : State) (worker : Nat) : Bool :=
  match s.stack (.client worker) with
  | frame :: _ => frame.offersTo worker
  | [] => false

/-- No client worker waits to hand a task to itself. -/
def Free (s : State) : Prop :=
  ∀ worker, s.awaitsItself worker = false

/--
A call through `Do` is not made on the goroutine of the worker that is to run
it.
-/
def outside (s : State) : Label → Bool
  | .call (.client worker) call _ =>
    !(s.active (.client worker) && call.submits && s.client == some worker)
  | _ => true

/-- The condition on a step. -/
def Outside (s : State) (label : Label) : Prop :=
  outside s label

instance Outside.decidable (s : State) (label : Label) : Decidable (Outside s label) :=
  inferInstanceAs (Decidable (_ = true))

variable {s next : State} {g : Goroutine} {label : Label}

/-! ## Frames a step adds -/

@[simp]
theorem State.setStack_stack_self (frames : List Frame) :
    (s.setStack g frames).stack g = frames := by
  simp [setStack]

theorem State.setStack_stack_of_ne {other : Goroutine} (apart : other ≠ g) (frames : List Frame) :
    (s.setStack g frames).stack other = s.stack other := by
  simp [setStack, apart]

/-- Every offer on a stack was there before. -/
def Quiet (s next : State) : Prop :=
  ∀ g frame worker, frame ∈ next.stack g → frame.offersTo worker → frame ∈ s.stack g

theorem Quiet.of_stack (same : next.stack = s.stack) : Quiet s next := by
  intro g frame worker mem _
  rwa [← same]

theorem Quiet.trans {middle : State} (first : Quiet s middle) (second : Quiet middle next) :
    Quiet s next := by
  intro g frame worker mem offers
  exact first g frame worker (second g frame worker mem offers) offers

variable {frames : List Frame}

theorem Quiet.setStack
    (known : ∀ frame ∈ frames, ∀ worker, frame.offersTo worker →
        frame ∈ s.stack g) : Quiet s (s.setStack g frames) := by
  intro other frame worker mem offers
  by_cases own : other = g
  · subst own
    rw [setStack_stack_self] at mem
    exact known frame mem worker offers
  · rwa [setStack_stack_of_ne own] at mem

variable {rest : List Frame} {frame : Frame}

theorem Quiet.push
    (silent : ∀ worker, frame.offersTo worker = false)
    (below : ∀ other ∈ rest, other ∈ s.stack g) : Quiet s (s.setStack g (frame :: rest)) := by
  apply Quiet.setStack
  intro other member worker offers
  rcases List.mem_cons.mp member with rfl | member
  · rw [silent] at offers
    cases offers
  · exact below other member

theorem Quiet.pop (top : s.stack g = frame :: rest) : Quiet s (s.setStack g rest) := by
  apply Quiet.setStack
  intro other mem _ _
  rw [top]
  exact List.mem_cons_of_mem frame mem

theorem Quiet.replace
    {top : Frame} (stacked : s.stack g = top :: rest)
    (silent : ∀ worker, frame.offersTo worker = false) :
    Quiet s (s.setStack g (frame :: rest)) := by
  apply Quiet.push silent
  intro other mem
  rw [stacked]
  exact List.mem_cons_of_mem top mem

/-- Whoever takes an incoming transaction runs its handler next. -/
theorem step_incoming (ran : step s (.incoming g) = some next) :
    next = s.setStack g (.handler :: s.stack g) := by
  simp only [step] at ran
  split at ran
  · next top =>
      cases ran
      rw [top]
  · next top =>
      rcases Option.ite_none_right_eq_some.mp ran with ⟨-, same⟩
      cases same
      rw [top]
  · cases ran

theorem Quiet.incoming (ran : step s (.incoming g) = some next) : Quiet s next := by
  rw [step_incoming ran]
  exact .push (fun _ => rfl) fun _ mem => mem

theorem Quiet.closeNext
    {workers left : List Nat} (top : s.stack g = .closing left :: rest)
    (ran : s.closeNext g rest workers = some next) : Quiet s next := by
  revert ran
  fun_cases State.closeNext s g rest workers <;> rintro ⟨⟩
  · exact .pop top
  · exact .of_stack rfl
  · exact .replace top fun _ => rfl

variable {call : KernelCall} {worker : Nat}

/-- A submitted call offers its task on top of the stack of its goroutine. -/
theorem submit_eq (ctx : Option Nat) (submits : call.submits) (found : s.client = some worker) :
    s.submit g call ctx =
      { s.setStack g
          (.offering worker { number := s.tasks, call := call } ctx :: s.stack g) with
        tasks := s.tasks + 1 } := by
  simp only [submit, submits, found]

theorem submit_stack_self
    (ctx : Option Nat) (submits : call.submits) (found : s.client = some worker) :
    (s.submit g call ctx).stack g =
      .offering worker { number := s.tasks, call := call } ctx :: s.stack g := by
  rw [submit_eq ctx submits found]
  exact setStack_stack_self _

theorem submit_quiet_or (g : Goroutine) (call : KernelCall) (ctx : Option Nat) :
    Quiet s (s.submit g call ctx) ∨ ∃ worker, call.submits ∧ s.client = some worker := by
  cases submits : call.submits with
  | false =>
    left
    simp only [submit, submits]
    exact .of_stack rfl
  | true =>
    cases found : s.client with
    | none =>
      left
      simp only [submit, submits, found]
      exact .of_stack rfl
    | some worker => exact .inr ⟨worker, rfl, rfl⟩

/-- Only a kernel call that goes through `Do` adds an offer. -/
theorem quiet_or_submits (ran : step s label = some next) :
    Quiet s next ∨
      ∃ g call ctx worker, label = .call g call ctx ∧ s.active g ∧
        call.submits ∧ s.client = some worker ∧
        next = s.submit g call ctx := by
  revert ran
  fun_cases step s label <;> intro ran <;> try cases ran
  · exact .inl (.of_stack rfl)
  · exact .inl (.of_stack rfl)
  · next g call ctx active =>
      rcases submit_quiet_or g call ctx with quiet | ⟨worker, submits, found⟩
      · exact .inl quiet
      · exact .inr ⟨g, call, ctx, worker, rfl, active, submits, found, rfl⟩
  · exact .inl (.push (fun _ => rfl) fun _ mem => mem)
  · next g worker task ctx rest top _ =>
      left
      have waits : Quiet s
          (s.setStack g (.awaiting worker task.number ctx :: rest)) :=
        .replace top fun _ => rfl
      exact waits.trans (.push (fun _ => rfl) (List.forall_mem_nil _))
  · exact .inl (.incoming ran)
  · exact .inl (.incoming ran)
  · exact .inl (.incoming ran)
  · exact .inl (.incoming ran)
  · next top => exact .inl (.pop top)
  · next top => exact .inl (.pop top)
  · next top _ => exact .inl (.pop top)
  · next top _ => exact .inl (.pop top)
  · next top _ => exact .inl (.pop top)
  · next top _ => exact .inl (.pop top)
  · next top _ => exact .inl (.pop top)
  · exact .inl (.of_stack rfl)
  · exact .inl (.push (fun _ => rfl) fun _ mem => mem)
  · next top => exact .inl (.closeNext top ran)
  · exact .inl (.of_stack rfl)

/-! ## Offers to the own worker -/

/-- No frame on the goroutine of a client worker offers a task to it. -/
def Unoffered (s : State) : Prop :=
  ∀ worker, ∀ frame ∈ s.stack (.client worker), frame.offersTo worker = false

theorem Unoffered.free (unoffered : Unoffered s) : Free s := by
  intro worker
  unfold awaitsItself
  split
  next frame rest top =>
    apply unoffered worker
    rw [top]
    exact List.mem_cons_self
  next => rfl

theorem Unoffered.of_quiet (unoffered : Unoffered s) (quiet : Quiet s next) : Unoffered next := by
  intro worker frame mem
  by_contra offers
  have offering : frame.offersTo worker := by simpa using offers
  rw [unoffered worker frame (quiet (.client worker) frame worker mem offering)] at offering
  cases offering

variable {ctx : Option Nat}

theorem outside_call_client :
    Outside s (.call (.client worker) call ctx) ↔
      ¬ (s.active (.client worker) ∧ call.submits ∧ s.client = some worker) := by
  simp only [Outside, outside, Bool.not_eq_true', Bool.and_eq_false_iff,
    beq_eq_false_iff_ne, not_and_or, Bool.not_eq_true, or_assoc, ne_eq]

theorem Unoffered.submit
    (unoffered : Unoffered s) (active : s.active g) (submits : call.submits)
    (found : s.client = some worker) (lawful : Outside s (.call g call ctx)) :
    Unoffered (s.submit g call ctx) := by
  rw [submit_eq ctx submits found]
  intro own frame member
  by_cases same : Goroutine.client own = g
  · subst same
    rw [setStack_stack_self] at member
    rcases List.mem_cons.mp member with rfl | member
    · have other : own ≠ worker := by
        rintro rfl
        exact outside_call_client.mp lawful ⟨active, submits, found⟩
      exact beq_eq_false_iff_ne.mpr other.symm
    · exact unoffered own frame member
  · rw [setStack_stack_of_ne same] at member
    exact unoffered own frame member

theorem Unoffered.step
    (unoffered : Unoffered s) (lawful : Outside s label) (ran : step s label = some next) :
    Unoffered next := by
  rcases quiet_or_submits ran with quiet | ⟨g, call, ctx, worker, rfl, active, submits, found, rfl⟩
  · exact unoffered.of_quiet quiet
  · exact unoffered.submit active submits found lawful

/-- A call on the goroutine of its own worker is stuck at once. -/
theorem not_free_of_step (refused : ¬ Outside s label) (ran : step s label = some next) :
    ¬ Free next := by
  cases label with
  | call g call ctx =>
    cases g with
    | client worker =>
      rw [outside_call_client, not_not] at refused
      rcases refused with ⟨active, submits, found⟩
      simp only [Workers.step, active, if_true] at ran
      cases ran
      intro free
      have awaits := free worker
      simp [awaitsItself, submit_stack_self ctx submits found, Frame.offersTo] at awaits
    | _ => exact absurd rfl refused
  | _ => exact absurd rfl refused

/--
In a run of the workers no client worker ever waits to hand a task to itself
exactly if no call through `Do` is made on the goroutine of the worker that is
to run it.
-/
theorem own_worker_never_awaited_iff
    (labels : List Label) (reached : State) (ran : workers.run labels init = some reached) :
    workers.Throughout Free labels init ↔ workers.Meets Outside labels init := by
  have initially : Unoffered init := by rintro _ _ ⟨⟩
  exact System.throughout_iff_meets_of_assumed (fun _ => Unoffered.free)
    (fun _ _ _ unoffered _ => unoffered.step) (fun _ _ _ _ _ => not_free_of_step) initially
    (System.meets_of_forall fun _ _ _ => trivial) ran

/-- A handler on a client worker makes no call, one on a looper makes one. -/
def looperRun : List Label :=
  [.start 1, .call (.user 0) (.transact 5) none, .hand (.user 0),
    .incoming (.client 0), .call (.client 0) (.release 0) none,
    .incoming (.looper 0), .call (.looper 0) (.transact 2) none,
    .returnHandler (.client 0), .complete 0, .hand (.looper 0)]

theorem looperRun_never_awaited : workers.Throughout Free looperRun init :=
  (own_worker_never_awaited_iff looperRun _ rfl).mpr (by decide)

/-! ## A worker that waits for itself -/

/--
The goroutine of a worker that is running offers a task to the worker in a
call without a deadline.
-/
structure Stuck (worker : Nat) (s : State) : Prop where
  alive : s.exited worker = false
  offers : ∃ task rest, s.stack (.client worker) = .offering worker task none :: rest

/-- The goroutine that takes the step, where the label names one. -/
def Label.goroutine : Label → Option Goroutine
  | .call g _ _ => some g
  | .localCall g => some g
  | .hand g => some g
  | .incoming g => some g
  | .returnHandler g => some g
  | .complete worker => some (.client worker)
  | .receive g => some g
  | .contextDone g => some g
  | .workerDone g => some g
  | .close g => some g
  | .closeNext g => some g
  | .exit worker => some (.client worker)
  | .start _ => none
  | .cancel _ => none

variable (stuck : Stuck worker s)

include stuck

theorem Stuck.awaitsItself : s.awaitsItself worker := by
  rcases stuck.offers with ⟨task, rest, top⟩
  simp [State.awaitsItself, top, Frame.offersTo]

theorem Stuck.of_stack
    (alive : next.exited worker = s.exited worker)
    (same : next.stack (.client worker) = s.stack (.client worker)) : Stuck worker next where
  alive := alive.trans stuck.alive
  offers := by
    rw [same]
    exact stuck.offers

theorem Stuck.not_active : s.active (.client worker) = false := by
  rcases stuck.offers with ⟨task, rest, top⟩
  simp [active, top]

theorem Stuck.not_idle : s.idle worker = false := by
  rcases stuck.offers with ⟨task, rest, top⟩
  simp [idle, top]

variable (other : Goroutine.client worker ≠ g)

include other

/-- Steps of other goroutines leave a stuck worker alone. -/
theorem Stuck.setStack : Stuck worker (s.setStack g frames) :=
  stuck.of_stack rfl (setStack_stack_of_ne other frames)

theorem Stuck.submit : Stuck worker (s.submit g call ctx) := by
  unfold State.submit
  split
  · exact (stuck.setStack other).of_stack rfl rfl
  · exact stuck

theorem Stuck.incoming (ran : step s (.incoming g) = some next) : Stuck worker next := by
  rw [step_incoming ran]
  exact stuck.setStack other

theorem Stuck.closeNext {workers : List Nat} (ran : s.closeNext g rest workers = some next) :
    Stuck worker next := by
  revert ran
  fun_cases State.closeNext s g rest workers <;> rintro ⟨⟩
  · exact (stuck.setStack other).of_stack rfl rfl
  · exact stuck.of_stack rfl rfl
  · exact stuck.setStack other

omit other

/-- A stuck worker takes no step. -/
theorem Stuck.step_none (own : label.goroutine = some (.client worker)) : step s label = none := by
  rcases stuck.offers with ⟨task, rest, top⟩
  cases label with
  | start | cancel => cases own
  | call | localCall | close =>
    cases own
    simp [step, stuck.not_active]
  | hand g =>
    cases own
    simp [step, top, stuck.not_idle]
  | exit exiting =>
    cases own
    simp [step, stuck.not_idle]
  | contextDone g =>
    cases own
    simp [step, top, done]
  | workerDone g =>
    cases own
    simp [step, top, stuck.alive]
  | _ =>
    cases own
    simp [step, top]

/-- No step of anybody frees a stuck worker. -/
theorem Stuck.step (ran : step s label = some next) : Stuck worker next := by
  have other (g : Goroutine) (acting : label.goroutine = some g) : Goroutine.client worker ≠ g := by
    rintro rfl
    rw [stuck.step_none acting] at ran
    cases ran
  revert ran other
  fun_cases Workers.step s label <;> intro ran other <;> try cases ran
  · exact stuck
  · exact stuck.of_stack rfl rfl
  · exact stuck.submit (other _ rfl)
  · exact stuck.setStack (other _ rfl)
  · next idle =>
      apply (stuck.setStack (other _ rfl)).setStack
      rintro ⟨⟩
      rw [stuck.not_idle] at idle
      cases idle
  · exact stuck.incoming (other _ rfl) ran
  · exact stuck.incoming (other _ rfl) ran
  · exact stuck.incoming (other _ rfl) ran
  · exact stuck.incoming (other _ rfl) ran
  · exact stuck.setStack (other _ rfl)
  · exact (stuck.setStack (other _ rfl)).of_stack rfl rfl
  · exact stuck.setStack (other _ rfl)
  · exact stuck.setStack (other _ rfl)
  · exact stuck.setStack (other _ rfl)
  · exact stuck.setStack (other _ rfl)
  · exact stuck.setStack (other _ rfl)
  · exact stuck.of_stack rfl rfl
  · exact stuck.setStack (other _ rfl)
  · exact stuck.closeNext (other _ rfl) ran
  · next exiting _ =>
      have apart : worker ≠ exiting := fun same =>
        other (.client exiting) rfl (congrArg Goroutine.client same)
      exact stuck.of_stack (update_of_ne apart _ _) rfl

/-- Whatever happens afterwards, a stuck worker stays stuck. -/
theorem Stuck.run {labels : List Label} {later : State} (ran : workers.run labels s = some later) :
    Stuck worker later :=
  System.run_invariant (fun _ _ _ => .step) stuck ran

omit stuck

/--
A handler that runs on the first client worker, for a transaction that arrived
while the worker waits for a reply, makes a kernel call.
-/
def nestedRun (call : KernelCall) : List Label :=
  [.start 1, .call (.user 0) (.transact 1) none, .hand (.user 0),
    .incoming (.client 0), .call (.client 0) call none]

/-- A nested call through `Do` leaves the worker stuck. -/
theorem nestedRun_stuck (submits : call.submits) :
    ∃ reached, workers.run (nestedRun call) .init = some reached ∧ Stuck 0 reached := by
  rcases ran : workers.run ((nestedRun call).take 4) .init with - | before
  · cases ran
  · refine ⟨before.submit (.client 0) call none, ?_, ?_⟩
    · cases ran
      rfl
    · have found : before.client = some 0 := by
        cases ran
        rfl
      constructor
      · rw [submit_eq none submits found]
        cases ran
        rfl
      · exact ⟨_, _, submit_stack_self none submits found⟩

/-- After the run the worker waits for itself, whatever happens then. -/
def BlocksForever (labels : List Label) : Prop :=
  ∃ reached, workers.run labels init = some reached ∧
    ∀ further later, workers.run further reached = some later → later.awaitsItself 0

theorem nestedRun_blocksForever (submits : call.submits) : BlocksForever (nestedRun call) := by
  rcases nestedRun_stuck submits with ⟨reached, ran, stuck⟩
  exact ⟨reached, ran, fun _ _ more => (stuck.run more).awaitsItself⟩

/--
A nested transaction, the release of a proxy and the request of a death
notification each block the worker on itself, for good.
-/
theorem nested_call_blocks_worker :
    BlocksForever (nestedRun (.transact 2)) ∧
      BlocksForever (nestedRun (.release 2)) ∧
      BlocksForever (nestedRun (.requestDeath 2)) :=
  ⟨nestedRun_blocksForever rfl, nestedRun_blocksForever rfl, nestedRun_blocksForever rfl⟩

end Workers

end Libbinder.Kernel
