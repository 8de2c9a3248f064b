import Libbinder.Kernel.Responses

/-!
# Faults on a looper

The goroutine of a looper reads a buffer, runs its loop over the commands and
starts again.  Any error of the loop ends the goroutine, whether the driver is
broken or a peer sent something bad.

As long as the driver itself works, three things end it: a command its switch
has no case for, among them the answers to its own replies; a oneway call whose
request cannot be decoded, since there is nobody to report that to; and a
handler that panics, since nothing between it and the goroutine recovers.
-/

namespace Libbinder.Kernel

open DriverEnv RawCommand DriverEvent

open Go List

/-- Reads and writes of the driver succeed. -/
structure DriverEnv.Works (env : DriverEnv) : Prop where
  reads : ∀ position, ∃ raws, env.reads position = .ok raws
  writes : ∀ phase position, env.writes phase position = .whole
  delivers : env.Delivers

/-- The commands of a read. -/
def DriverEnv.readAt (env : DriverEnv) (position : Nat) : List RawCommand :=
  match env.reads position with
  | .ok raws => raws
  | .error _ => []

/-- The commands of several reads. -/
def DriverEnv.delivered (env : DriverEnv) : Nat → Nat → List RawCommand
  | _, 0 => []
  | position, count + 1 => env.readAt position ++ env.delivered (position + 1) count

/-- A driver and handlers that may panic instead of returning. -/
structure LooperEnv extends DriverEnv where
  /-- The handler that is called for the command of a phase panics. -/
  panics : Nat → Bool

/--
The command is a call that reaches its handler: its request can be copied and
its objects are acquired.
-/
def dispatches (env : DriverEnv) (phase : Nat) : ReturnCommand → Bool
  | .transaction tx =>
    match copyTransactionPayload env.memory tx with
    | some (.ok (_, objects)) => acceptedAll (env.writes phase) 0 (acquisitions objects)
    | _ => false
  | _ => false

namespace LooperEnv

/-- A handler panics before the loop over the commands behind a phase ends. -/
def crashes (env : LooperEnv) : Nat → List RawCommand → Bool
  | _, [] => false
  | phase, raw :: rest =>
    env.panics (phase + 1) && dispatches env.toDriverEnv (phase + 1) (raw.interpret .looper) ||
      commandAccepted env.toDriverEnv (phase + 1) (raw.interpret .looper) &&
        env.crashes (phase + 1) rest

/-- One round of the goroutine; a panic of a handler ends the whole process. -/
def round (env : LooperEnv) : DriverM Unit :=
  fun t =>
    if env.crashes t.phase (env.readAt t.reads) then .error .panic t
    else LooperWorker.round env.toDriverEnv t

/-- The goroutine of a looper for a number of rounds; an error ends it. -/
def rounds (env : LooperEnv) : Nat → DriverM Unit
  | 0 => pure ()
  | count + 1 => do
    env.round
    env.rounds count

end LooperEnv

/--
The goroutine is running after the rounds, and has taken up every command that
was delivered to it once and in order.
-/
def Contains (env : LooperEnv) (t : BinderThread) (count : Nat) : Prop :=
  ∃ next events, env.rounds count t = .ok () next ∧
    next.log = t.log ++ events ∧
    tookUp events = (env.delivered t.reads count).map (interpret .looper)

/-- The request of a call can be copied and its objects parsed. -/
def decodes (memory : Mapping) (tx : BinderTransactionData) : Bool :=
  match copyTransactionPayload memory tx with
  | some (.ok _) => true
  | _ => false

/--
The switch of the looper has a case for the command, the handler of a call that
can be decoded does not panic, and a call that cannot be decoded is not oneway.
-/
def survivable (env : LooperEnv) (phase : Nat) (raw : RawCommand) : Bool :=
  match raw.interpret .looper with
  | .unsupported _ => false
  | .transaction tx => if decodes env.memory tx then !env.panics phase else !tx.oneWay
  | _ => true

/-- Every command behind a phase is survivable in its own phase. -/
def allSurvivable (env : LooperEnv) : Nat → List RawCommand → Bool
  | _, [] => true
  | phase, raw :: rest =>
    survivable env (phase + 1) raw && allSurvivable env (phase + 1) rest

variable {env : LooperEnv}

theorem allSurvivable_append (phase : Nat) (first second : List RawCommand) :
    allSurvivable env phase (first ++ second) =
      (allSurvivable env phase first && allSurvivable env (phase + first.length) second) := by
  induction first generalizing phase with
  | nil => simp [allSurvivable]
  | cons raw rest ih =>
    rw [cons_append, allSurvivable, allSurvivable, ih (phase + 1), Bool.and_assoc,
      length_cons, Nat.add_assoc, Nat.add_comm 1]

/-! ## One command -/

variable {t : BinderThread} (works : env.Works)

include works

theorem acceptedAll_of_works (phase start : Nat) (commands : List WriteCommand) :
    acceptedAll (env.writes phase) start commands := by
  induction commands generalizing start with
  | nil => rfl
  | cons command rest ih =>
    rw [acceptedAll, works.writes, ih]
    rfl

variable {tx : BinderTransactionData}

/-- On a working driver a call fails only if it is oneway and cannot be decoded. -/
theorem incomingAccepted_of_works (mapped : env.memory.Maps tx) (phase start : Nat) :
    incomingAccepted env.toDriverEnv phase start tx = (!tx.oneWay || decodes env.memory tx) := by
  rcases copyTransactionPayload_of_maps mapped with ⟨copied, copies⟩
  have answer (place : Nat) : replyAccepted env.toDriverEnv phase place := by
    rw [replyAccepted, works.writes]
    rfl
  unfold incomingAccepted decodes
  rw [copies]
  cases copied with
  | error err => simp [answer]
  | ok parts => simp [answer, acceptedAll_of_works works]

/-- On a working driver a call reaches its handler if it can be decoded. -/
theorem dispatches_of_works (mapped : env.memory.Maps tx) (phase : Nat) :
    dispatches env.toDriverEnv phase (.transaction tx) = decodes env.memory tx := by
  rcases copyTransactionPayload_of_maps mapped with ⟨copied, copies⟩
  simp only [dispatches, decodes, copies]
  cases copied with
  | error err => rfl
  | ok parts => exact acceptedAll_of_works works phase 0 _

theorem survivable_call_of_works (mapped : env.memory.Maps tx) (phase : Nat) :
    (if decodes env.memory tx then !env.panics phase else !tx.oneWay) =
      (incomingAccepted env.toDriverEnv phase 0 tx &&
        !(env.panics phase && dispatches env.toDriverEnv phase (.transaction tx))) := by
  rw [incomingAccepted_of_works works mapped, dispatches_of_works works mapped]
  cases decodes env.memory tx <;> simp

/-- A command is survivable if it is accepted and its handler does not panic. -/
theorem survivable_of_works {raw : RawCommand} (mapped : raw.Mapped env.memory) (phase : Nat) :
    survivable env phase raw =
      (commandAccepted env.toDriverEnv phase (raw.interpret .looper) &&
        !(env.panics phase && dispatches env.toDriverEnv phase (raw.interpret .looper))) := by
  have own := mapped.interpret .looper
  have quiet (accepted : Bool) : (accepted && !(env.panics phase && false)) = accepted := by simp
  unfold survivable interpret
  unfold interpret at own
  cases known : ReturnCode.ofCmd raw.cmd with
  | none => exact (quiet false).symm
  | some code =>
    rw [known] at own
    cases code with
    | transaction => exact survivable_call_of_works works (own.2 _ rfl) phase
    | incRefs | acquire =>
      refine ((quiet ((env.writes phase 0).accepts 20)).trans ?_).symm
      rw [works.writes]
      rfl
    | deadBinder =>
      refine ((quiet ((env.writes phase 0).accepts 12)).trans ?_).symm
      rw [works.writes]
      rfl
    | _ => exact (quiet _).symm

/-- The loop ends well and no handler panics exactly if all is survivable. -/
theorem allSurvivable_of_works
    {raws : List RawCommand} (mapped : ∀ raw ∈ raws, raw.Mapped env.memory) (phase : Nat) :
    allSurvivable env phase raws =
      (allAccepted env.toDriverEnv .looper phase raws && !env.crashes phase raws) := by
  induction raws generalizing phase with
  | nil => rfl
  | cons raw rest ih =>
    rw [allSurvivable, survivable_of_works works (mapped raw mem_cons_self),
      ih fun later mem => mapped later (mem_cons_of_mem raw mem), allAccepted, LooperEnv.crashes]
    cases commandAccepted env.toDriverEnv (phase + 1) (raw.interpret .looper) <;>
      simp [Bool.and_comm, Bool.and_assoc]

/-! ## Rounds -/

theorem reads_eq_readAt (start : Nat) : env.reads start = .ok (env.readAt start) := by
  rcases works.reads start with ⟨raws, sent⟩
  rw [readAt, sent]

/-- A round takes up the commands of its read, if all are survivable. -/
theorem round_ok (stays : allSurvivable env t.phase (env.readAt t.reads)) :
    ∃ middle events, env.round t = .ok () middle ∧
      middle.reads = t.reads + 1 ∧ middle.phase = t.phase + (env.readAt t.reads).length ∧
      middle.log = t.log ++ events ∧
      tookUp events = (env.readAt t.reads).map (interpret .looper) := by
  have delivered := reads_eq_readAt works t.reads
  have mapped := works.delivers t.reads _ delivered
  rcases actAll_runs .looper mapped (t.fetched (env.readAt t.reads)) with ⟨middle, events, runs⟩
  rw [allSurvivable_of_works works mapped, Bool.and_eq_true, Bool.not_eq_true'] at stays
  rcases stays with ⟨passed, quiet⟩
  refine ⟨middle, _, ?_, runs.reads, (runs.of_accepted passed).1, runs.log_fetched, ?_⟩
  · rw [LooperEnv.round, quiet, round_eq]
    exact (readAnd_eq _ _ delivered).trans (Action.bind_ok (runs.of_accepted passed).2)
  · have taken : tookUp events =
        (takenUp env.toDriverEnv .looper t.phase (env.readAt t.reads)).map
          (interpret .looper) := runs.tookUp
    rwa [takenUp_of_allAccepted passed] at taken

/-- A command that is not survivable ends the goroutine. -/
theorem round_error (dies : ¬ allSurvivable env t.phase (env.readAt t.reads)) :
    ∃ middle fault, env.round t = .error fault middle := by
  have delivered := reads_eq_readAt works t.reads
  have mapped := works.delivers t.reads _ delivered
  by_cases crash : env.crashes t.phase (env.readAt t.reads)
  · exact ⟨t, .panic, if_pos crash⟩
  rcases actAll_runs .looper mapped (t.fetched (env.readAt t.reads)) with ⟨middle, events, runs⟩
  rcases runs.result with ⟨taken, -, -⟩ | ⟨-, reason, failed⟩
  · refine absurd ?_ dies
    rw [allSurvivable_of_works works mapped, show allAccepted _ _ t.phase _ = true from taken]
    simpa using crash
  · refine ⟨middle, .error reason, ?_⟩
    rw [LooperEnv.round, if_neg crash, round_eq]
    exact (readAnd_eq _ _ delivered).trans (Action.bind_error failed)

theorem contains_of_survivable
    {count : Nat} (stays : allSurvivable env t.phase (env.delivered t.reads count)) :
    Contains env t count := by
  induction count generalizing t with
  | zero => exact ⟨t, [], rfl, (append_nil _).symm, rfl⟩
  | succ count ih =>
    rw [delivered, allSurvivable_append, Bool.and_eq_true] at stays
    rcases round_ok works stays.1 with ⟨middle, events, ran, nextRead, phase, log, taken⟩
    rw [← nextRead, ← phase] at stays
    rcases ih stays.2 with ⟨next, more, ended, later, others⟩
    refine ⟨next, events ++ more, ?_, ?_, ?_⟩
    · exact (Action.bind_ok ran).trans ended
    · rw [later, log, append_assoc]
    · rw [tookUp_append, taken, others, nextRead, delivered, map_append]

theorem survivable_of_running
    {next : BinderThread} {count : Nat} (runs : env.rounds count t = .ok () next) :
    allSurvivable env t.phase (env.delivered t.reads count) := by
  induction count generalizing t with
  | zero => rfl
  | succ count ih =>
    rw [delivered, allSurvivable_append, Bool.and_eq_true]
    by_cases stays : allSurvivable env t.phase (env.readAt t.reads)
    · rcases round_ok works stays with ⟨middle, events, ran, nextRead, phase, -, -⟩
      have rest : env.rounds count middle = .ok () next := (Action.bind_ok ran).symm.trans runs
      rw [← nextRead, ← phase]
      exact ⟨stays, ih rest⟩
    · rcases round_error works stays with ⟨middle, fault, failed⟩
      have ended : env.rounds (count + 1) t = .error fault middle := Action.bind_error failed
      cases ended.symm.trans runs

omit works

/--
On a working driver, a looper takes up every command delivered to it once and
in order and keeps running, exactly if every command is survivable.
-/
theorem looper_contains_faults_iff
    (env : LooperEnv) (works : env.Works) (t : BinderThread) (count : Nat) :
    Contains env t count ↔ allSurvivable env t.phase (env.delivered t.reads count) := by
  constructor
  · rintro ⟨next, events, running, -, -⟩
    exact survivable_of_running works running
  · intro survives
    exact contains_of_survivable works survives

/-- A working driver, and handlers that fail or, in some phases, panic. -/
def looperEnv (reads : Nat → List RawCommand) (panics : Nat → Bool) : LooperEnv where
  memory := { base := 4096, bytes := [], bounded := by decide }
  reads := fun position => .ok (reads position)
  writes := fun _ _ => .whole
  handlers := fun _ => .error (.leaf (.sentinel .permissionDenied))
  panics := panics

theorem looperEnv_works
    {reads : Nat → List RawCommand} {panics : Nat → Bool}
    (mapped : ∀ position, ∀ raw ∈ reads position,
      raw.Mapped (looperEnv reads panics).memory) : (looperEnv reads panics).Works where
  reads position := ⟨reads position, rfl⟩
  writes _ _ := rfl
  delivers := by
    intro position raws sent
    cases sent
    exact mapped position

/--
A call that cannot be decoded, a call whose handler fails and a wakeup, in
every read.  Only the first call of a read would meet a handler that panics.
-/
def faultyCalls : LooperEnv :=
  looperEnv (fun _ => [.transaction { dataSize := 4 }, .transaction {}, .plain .noop rfl])
    fun phase => phase % 3 == 1

theorem faulty_calls_contained : Contains faultyCalls {} 2 := by
  refine (looper_contains_faults_iff faultyCalls (looperEnv_works ?_) {} 2).mpr (by decide)
  intro position raw mem
  simp only [mem_cons, not_mem_nil, or_false] at mem
  rcases mem with rfl | rfl | rfl
  · exact transaction_mapped (by decide)
  · exact transaction_mapped (by decide)
  · exact plain_mapped _ rfl

/-- A driver that delivers a synchronous call and then refuses its replies. -/
def refusingReplies : LooperEnv :=
  looperEnv (fun position => if position = 0 then [.transaction {}] else [.plain .failedReply rfl])
    fun _ => false

theorem refusingReplies_works : refusingReplies.Works := by
  refine looperEnv_works fun position raw mem => ?_
  split at mem
  · rw [mem_singleton.mp mem]
    exact transaction_mapped (by decide)
  · rw [mem_singleton.mp mem]
    exact plain_mapped _ rfl

/-- The answer of the driver to a reply of its own ends the looper. -/
theorem failed_reply_ends_looper : refusingReplies.Works ∧ ¬ Contains refusingReplies {} 2 := by
  refine ⟨refusingReplies_works, ?_⟩
  rintro ⟨next, events, running, -, -⟩
  cases running

end Libbinder.Kernel
