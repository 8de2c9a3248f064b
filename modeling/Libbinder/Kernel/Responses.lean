import Libbinder.Kernel.Incoming

/-!
# The loops over a read buffer, and the calls that wait in them

A loop takes up one command after the other and ends at the first error.  An
outgoing call writes its transaction, runs a loop over what came with it, and
reads on until a loop has found a reply.  The client thread and the direct
driver path differ in their loop and in the number of further reads.

Whether a command is accepted depends on the command and on the environment in
its own phase, so the course of a loop can be read off the buffer.
-/

namespace Libbinder.Kernel

open RawCommand LooperWorker BinderThread

open DriverEvent

open Go List Action

def errDeadReply : GoError :=
  textError "kernel: binder dead reply"

def errFailedReply : GoError :=
  textError "kernel: binder failed reply"

def statusReplyError (payload : List UInt8) : GoError :=
  if payload.length < 4 then
    errFailedReply
  else
    .leaf (.status (UInt32.ofNat (littleEndianAt 4 payload 0)).toInt32)

namespace ReturnCommand

/-- The record of a reply. -/
def replyData : ReturnCommand → Option BinderTransactionData
  | .reply tx => some tx
  | _ => none

/-- The record of an incoming call. -/
def incomingData : ReturnCommand → Option BinderTransactionData
  | .transaction tx => some tx
  | _ => none

end ReturnCommand

variable (env : DriverEnv)

/-! ## The loops -/

/-- The method that handles an incoming call. -/
def ResponseLoop.incoming (loop : ResponseLoop)
    (tx : BinderTransactionData) : DriverM Unit :=
  match loop with
  | .looper => handleTransaction env tx
  | _ => Backend.handleIncomingTransaction env tx

/-- The switch over one command. -/
def act (loop : ResponseLoop) : ReturnCommand → DriverM Unit
  | .passive => pure ()
  | .error code => Action.fail (textError s!"kernel: BR_ERROR {code.toInt}")
  | .incRefs ptr cookie => writePtrCookieCommand env (.incRefsDone ptr cookie)
  | .acquire ptr cookie => writePtrCookieCommand env (.acquireDone ptr cookie)
  | .release _ _ => pure ()
  | .decRefs _ _ => pure ()
  | .deadBinder cookie => do
    modify fun t => t.record (.notifiedDead cookie)
    deadBinderDone env cookie
  | .clearDeathNotificationDone cookie => modify fun t => t.record (.notifiedCleared cookie)
  | .reply _ => pure ()
  | .transaction tx => loop.incoming env tx
  | .deadReply => Action.fail errDeadReply
  | .failedReply => Action.fail errFailedReply
  | .unsupported cmd => Action.fail (textError (loop.unsupported cmd))

/--
The loop from a position on, with the commands and the reply found so far.
Every command takes at least four bytes, so the length of the buffer bounds the
number of rounds.
-/
def responsesFrom (loop : ResponseLoop) :
    Nat → List UInt8 → List UInt32 → Option BinderTransactionData →
      DriverM (List UInt32 × Option BinderTransactionData)
  | 0, _, commands, reply => pure (commands, reply)
  | rounds + 1, buf, commands, reply =>
    if buf = [] then
      pure (commands, reply)
    else
      match readCommand loop buf with
      | .error err => Action.fail err
      | .ok (cmd, command, rest) => do
        takeUp command
        act env loop command
        responsesFrom loop rounds rest (commands ++ [cmd]) (command.replyData.or reply)

def responses (loop : ResponseLoop) (buf : List UInt8) :
    DriverM (List UInt32 × Option BinderTransactionData) :=
  responsesFrom env loop buf.length buf [] none

def Backend.handleDriverResponses (buf : List UInt8) :
    DriverM (List UInt32 × Option BinderTransactionData) :=
  responses env .client buf

def DriverManager.parseDriverResponses (buf : List UInt8) :
    DriverM (List UInt32 × Option BinderTransactionData) :=
  responses env .driver buf

def LooperWorker.handleCommands (buf : List UInt8) : DriverM Unit := do
  let _ ← responses env .looper buf

/-! ## Outgoing calls -/

/-- An outgoing call. -/
structure KernelCall where
  handle : UInt32 := 0
  code : UInt32 := 0
  payload : List UInt8 := []
  offsets : List UInt64 := []
  oneWay : Bool := false
deriving DecidableEq, Repr

/-- The record that a call writes. -/
def KernelCall.data (call : KernelCall) : OutgoingData where
  target := call.handle.toUInt64
  code := call.code
  flags := if call.oneWay then tfAcceptFD ||| tfOneWay else tfAcceptFD
  payload := call.payload
  offsets := call.offsets

/-- The further reads, as long as there is no reply. -/
def awaitReply (loop : ResponseLoop) :
    Nat → List UInt32 → Option BinderTransactionData →
      DriverM (List UInt32 × Option BinderTransactionData)
  | 0, commands, reply => pure (commands, reply)
  | reads + 1, commands, reply =>
    match reply with
    | some tx => pure (commands, some tx)
    | none => do
      let buf ← driverRead env
      let found ← responses env loop buf
      awaitReply loop reads (commands ++ found.1) found.2

/-- `if reply.DataBuffer != 0` around the release of the reply's buffer. -/
def releaseReply (reply : BinderTransactionData) : DriverM Unit :=
  if reply.dataBuffer ≠ 0 then freeBuffer env reply.dataBuffer else pure ()

/-- What becomes of the reply once it is copied. -/
def settleReply (reply : BinderTransactionData) (payload : List UInt8)
    (objects : List ParcelObject) : DriverM (List UInt8 × List ParcelObject) :=
  if reply.has tfStatus then do
    releaseReply env reply
    Action.fail (statusReplyError payload)
  else do
    acquireParcelObjects env objects
    releaseReply env reply
    pure (payload, objects)

/-- What becomes of the reply once it is found. -/
def completeReply (reply : BinderTransactionData) : DriverM (List UInt8 × List ParcelObject) := do
  modify nextPhase
  match copyTransactionPayload env.memory reply with
  | none => Action.abort
  | some (.error err) => Action.fail err
  | some (.ok (payload, objects)) => settleReply env reply payload objects

/-- The end of a synchronous call. -/
def concludeCall (commands : List UInt32) :
    Option BinderTransactionData → DriverM (List UInt8 × List ParcelObject)
  | none =>
    Action.fail (textError
      ("kernel: did not receive BR_REPLY, commands=[" ++
        String.intercalate " " (commandNames commands) ++ "]"))
  | some reply => completeReply env reply

/-- The common body of the two paths. -/
def transactParcel (loop : ResponseLoop) (furtherReads : Nat)
    (call : KernelCall) : DriverM (List UInt8 × List ParcelObject) := do
  let buf ← writeTransaction env call.data
  let first ← responses env loop buf
  if call.oneWay then
    pure ([], [])
  else do
    let found ← awaitReply env loop furtherReads first.1 first.2
    concludeCall env found.1 found.2

def Backend.transactHandleParcel (call : KernelCall) : DriverM (List UInt8 × List ParcelObject) :=
  transactParcel env .client 8 call

/-- The commands that it returns beside the reply are left out. -/
def DriverManager.transactHandleParcel (call : KernelCall) :
    DriverM (List UInt8 × List ParcelObject) :=
  transactParcel env .driver 3 call

/-- One round of the goroutine of a looper that is not being stopped. -/
def LooperWorker.round : DriverM Unit := do
  let buf ← driverRead env
  if buf = [] then pure () else handleCommands env buf

/-! ## Loops over well-formed commands -/

/-- The loop over the commands of a buffer. -/
def actAll (loop : ResponseLoop) : List RawCommand → DriverM Unit
  | [] => pure ()
  | raw :: rest => do
    takeUp (raw.interpret loop)
    act env loop (raw.interpret loop)
    actAll loop rest

/-- The reply that a loop has found behind the commands. -/
def replyIn (loop : ResponseLoop) (commands : List RawCommand)
    (reply : Option BinderTransactionData) : Option BinderTransactionData :=
  commands.foldl (fun found raw => (raw.interpret loop).replyData.or found) reply

/-- A loop has no case for a command, or treats it as the client does. -/
theorem interpret_cases (loop : ResponseLoop) (raw : RawCommand) :
    (∃ cmd, raw.interpret loop = .unsupported cmd) ∨
      raw.interpret loop = raw.interpret .client ∧ ∀ rest, raw.behind loop rest = rest := by
  unfold interpret behind
  cases ReturnCode.ofCmd raw.cmd with
  | none => exact .inl ⟨raw.cmd, rfl⟩
  | some code =>
    simp only
    split
    · exact .inr ⟨rfl, fun _ => rfl⟩
    · exact .inl ⟨raw.cmd, rfl⟩

variable {env}

theorem takeUp_run (command : ReturnCommand) (t : BinderThread) :
    takeUp command t = .ok () (t.nextPhase.record (.took command)) :=
  rfl

/-- On the commands that the driver writes, the loop is the list recursion. -/
theorem responsesFrom_stream
    (loop : ResponseLoop) (raws : List RawCommand) {rounds : Nat} (enough : raws.length ≤ rounds)
    (commands : List UInt32) (reply : Option BinderTransactionData) (t : BinderThread) :
    responsesFrom env loop rounds (stream raws) commands reply t =
      (actAll env loop raws >>= fun _ => pure
        (commands ++ raws.map cmd, replyIn loop raws reply)) t := by
  induction raws generalizing rounds commands reply t with
  | nil => cases rounds <;> simp [responsesFrom, stream, actAll, replyIn]
  | cons raw rest ih =>
    cases rounds with
    | zero => cases enough
    | succ rounds =>
      have someBytes : stream (raw :: rest) ≠ [] := by
        intro empty
        have := raw.four_le_length_bytes
        have lengths := congrArg List.length empty
        rw [stream_cons, length_append] at lengths
        simp only [length_nil] at lengths
        omega
      rw [responsesFrom, if_neg someBytes, stream_cons, readCommand_bytes]
      simp only [actAll, bind_assoc]
      rw [bind_ok (takeUp_run _ t), bind_ok (takeUp_run _ t), bind_run, bind_run]
      cases ran : act env loop (raw.interpret loop)
          (t.nextPhase.record (.took (raw.interpret loop))) with
      | error fault next => rfl
      | ok done next =>
        rcases interpret_cases loop raw with ⟨cmd, unsupported⟩ | ⟨-, behind⟩
        · rw [unsupported] at ran
          cases ran
        · simp only
          rw [behind, ih (Nat.le_of_succ_le_succ enough), append_assoc]
          rfl

/-! ## Accepted commands -/

variable (env)

/-- Whether a loop goes on behind the command, which it takes up in a phase. -/
def commandAccepted (phase : Nat) : ReturnCommand → Bool
  | .passive => true
  | .error _ => false
  | .incRefs _ _ => (env.writes phase 0).accepts 20
  | .acquire _ _ => (env.writes phase 0).accepts 20
  | .release _ _ => true
  | .decRefs _ _ => true
  | .deadBinder _ => (env.writes phase 0).accepts 12
  | .clearDeathNotificationDone _ => true
  | .reply _ => true
  | .transaction tx => incomingAccepted env phase 0 tx
  | .deadReply => false
  | .failedReply => false
  | .unsupported _ => false

/-- All the commands behind a phase are accepted. -/
def allAccepted (loop : ResponseLoop) : Nat → List RawCommand → Bool
  | _, [] => true
  | phase, raw :: rest =>
    commandAccepted env (phase + 1) (raw.interpret loop) && allAccepted loop (phase + 1) rest

/-- The commands that are taken up: those to the first that is not accepted. -/
def takenUp (loop : ResponseLoop) : Nat → List RawCommand → List RawCommand
  | _, [] => []
  | phase, raw :: rest =>
    if commandAccepted env (phase + 1) (raw.interpret loop) then
      raw :: takenUp loop (phase + 1) rest
    else
      [raw]

variable {env} {loop : ResponseLoop} {raws : List RawCommand}

theorem takenUp_of_allAccepted {phase : Nat} (taken : allAccepted env loop phase raws) :
    takenUp env loop phase raws = raws := by
  induction raws generalizing phase with
  | nil => rfl
  | cons raw rest ih =>
    rw [allAccepted, Bool.and_eq_true] at taken
    rw [takenUp, if_pos taken.1, ih taken.2]

theorem allAccepted_append (loop : ResponseLoop) (phase : Nat) (first second : List RawCommand) :
    allAccepted env loop phase (first ++ second) =
      (allAccepted env loop phase first && allAccepted env loop (phase + first.length) second) := by
  induction first generalizing phase with
  | nil => simp [allAccepted]
  | cons raw rest ih =>
    rw [cons_append, allAccepted, allAccepted, ih (phase + 1), Bool.and_assoc,
      length_cons, Nat.add_assoc, Nat.add_comm 1]

/-! ## Observations of a log -/

namespace DriverEvent

/-- The kernel buffers that a log gives back. -/
def freed (log : List DriverEvent) : List UInt64 :=
  (written log).filterMap fun command =>
    match command with
    | .freeBuffer ptr => some ptr
    | _ => none

/-- The commands that a log takes up. -/
def tookUp (log : List DriverEvent) : List ReturnCommand :=
  log.filterMap fun event =>
    match event with
    | .took command => some command
    | _ => none

/-- The buffers that were read in a log. -/
def fetches (log : List DriverEvent) : List (List RawCommand) :=
  log.filterMap fun event =>
    match event with
    | .read commands => some commands
    | _ => none

/-- Neither a read nor the start of a command. -/
def Inner : DriverEvent → Prop
  | .read _ => False
  | .took _ => False
  | _ => True

variable (first second : List DriverEvent)

@[simp]
theorem freed_append : freed (first ++ second) = freed first ++ freed second := by
  unfold freed
  rw [written_append, filterMap_append]

@[simp]
theorem tookUp_append : tookUp (first ++ second) = tookUp first ++ tookUp second :=
  filterMap_append

@[simp]
theorem fetches_append : fetches (first ++ second) = fetches first ++ fetches second :=
  filterMap_append

variable {events : List DriverEvent}

theorem freed_of_preparatory (ready : ∀ event ∈ events, event.Preparatory) : freed events = [] :=
  pick_of_preparatory (fun _ => rfl) (fun _ => rfl) ready

theorem tookUp_of_inner (inner : ∀ event ∈ events, event.Inner) : tookUp events = [] := by
  refine filterMap_eq_nil_iff.mpr fun event mem => ?_
  cases event with
  | took command => cases inner _ mem
  | _ => rfl

theorem fetches_of_inner (inner : ∀ event ∈ events, event.Inner) : fetches events = [] := by
  refine filterMap_eq_nil_iff.mpr fun event mem => ?_
  cases event with
  | read commands => cases inner _ mem
  | _ => rfl

theorem Preparatory.inner {event : DriverEvent} (preparatory : event.Preparatory) :
    event.Inner := by
  cases event with
  | read | took => exact preparatory
  | _ => trivial

end DriverEvent

open DriverEvent

/-! ## The course of a loop -/

/-- The records that a command brings lie in the mapping. -/
def ReturnCommand.Mapped (memory : Mapping) (command : ReturnCommand) : Prop :=
  (∀ tx ∈ command.replyData, memory.Maps tx) ∧ ∀ tx ∈ command.incomingData, memory.Maps tx

/-- The buffer that the switch gives back. -/
def ReturnCommand.servedBuffer (command : ReturnCommand) : Option UInt64 :=
  command.incomingData.bind BinderTransactionData.buffer

theorem incoming_eq (loop : ResponseLoop) (tx : BinderTransactionData) :
    loop.incoming env tx = Backend.handleIncomingTransaction env tx := by
  cases loop <;> rfl

variable (tx : BinderTransactionData)

theorem freed_answers (outcome : Except GoError (Option Parcel)) :
    freed (answers tx outcome) = [] := by
  unfold answers
  split <;> rfl

theorem freed_frees : freed (frees tx) = tx.buffer.toList := by
  unfold frees
  cases tx.buffer <;> rfl

/-- An action of one command: what it does is settled by its own phase. -/
structure Acts (action : DriverM Unit) (t : BinderThread) (good : Bool)
    (buffers : List UInt64) (events : List DriverEvent) : Prop where
  ends : Ends action t good events
  inner : ∀ event ∈ events, event.Inner
  freed : freed events = buffers

theorem size_incRefsDone (ptr cookie : UInt64) :
    (WriteCommand.incRefsDone ptr cookie).size = 20 := by
  change 4 + iocSize (WriteCommand.bc 8 16) = 20
  decide

theorem size_acquireDone (ptr cookie : UInt64) :
    (WriteCommand.acquireDone ptr cookie).size = 20 := by
  change 4 + iocSize (WriteCommand.bc 9 16) = 20
  decide

theorem size_deadBinderDone (cookie : UInt64) : (WriteCommand.deadBinderDone cookie).size = 12 := by
  change 4 + iocSize (WriteCommand.bc 16 8) = 12
  decide

namespace Acts

variable (t : BinderThread)

theorem idle : Acts (pure ()) t true [] [] where
  ends := ⟨t, .refl t, .inl ⟨rfl, (), rfl⟩⟩
  inner := forall_mem_nil _
  freed := rfl

theorem fails (reason : GoError) : Acts (.fail reason) t false [] [] where
  ends := ⟨t, .refl t, .inr ⟨rfl, reason, rfl⟩⟩
  inner := forall_mem_nil _
  freed := rfl

variable {event : DriverEvent}

theorem note (inner : event.Inner) (silent : written [event] = []) :
    Acts (modify fun s => s.record event) t true [] [event] where
  ends := ⟨t.record event, .record t silent, .inl ⟨rfl, (), rfl⟩⟩
  inner := forall_mem_singleton.mpr inner
  freed := by rw [DriverEvent.freed, silent]; rfl

/-- The first write of a phase, which is not the release of a buffer. -/
theorem write
    {t : BinderThread} (fresh : t.writes = 0) (label : String) {command : WriteCommand}
    {width : Nat} (size : command.size = width) (keeps : DriverEvent.freed [.wrote command] = []) :
    Acts (writeChecked env label command) t
      ((env.writes t.phase 0).accepts width) [] [.wrote command] where
  ends := fresh ▸ size ▸ .write env t label command
  inner := forall_mem_singleton.mpr trivial
  freed := keeps

/-- A note in front of an action. -/
theorem noted
    {t : BinderThread} (inner : event.Inner) (silent : written [event] = [])
    {rest : DriverM Unit} {good : Bool} {buffers : List UInt64} {events : List DriverEvent}
    (acts : Acts rest (t.record event) good buffers events) :
    Acts ((modify fun s => s.record event) >>= fun _ => rest) t good buffers (event :: events) where
  ends := by
    have noted : (modify fun s => s.record event : DriverM Unit) t = .ok () (t.record event) := rfl
    exact .after noted (.record t silent) acts.ends
  inner := forall_mem_cons.mpr ⟨inner, acts.inner⟩
  freed := by
    have none := (note t inner silent).freed
    rw [← singleton_append, freed_append, none, acts.freed]
    rfl

end Acts

variable {t : BinderThread} {command : ReturnCommand}

/-- What the switch does with a command in a phase of its own. -/
theorem act_acts (loop : ResponseLoop) (mapped : command.Mapped env.memory) (fresh : t.writes = 0) :
    ∃ events, Acts (act env loop command) t
      (commandAccepted env t.phase command) command.servedBuffer.toList
      events := by
  cases command with
  | passive | release | decRefs | reply => exact ⟨_, .idle t⟩
  | error | deadReply | failedReply | unsupported => exact ⟨_, .fails t _⟩
  | incRefs ptr cookie => exact ⟨_, .write fresh _ (size_incRefsDone ptr cookie) rfl⟩
  | acquire ptr cookie => exact ⟨_, .write fresh _ (size_acquireDone ptr cookie) rfl⟩
  | deadBinder cookie =>
    have inner : (notifiedDead cookie).Inner := trivial
    have stillFresh : (t.record (.notifiedDead cookie)).writes = 0 := fresh
    exact ⟨_, .noted inner rfl (.write stillFresh _ (size_deadBinderDone cookie) rfl)⟩
  | clearDeathNotificationDone cookie => exact ⟨_, .note t trivial rfl⟩
  | transaction tx =>
    rcases handleIncomingTransaction_ends (mapped.2 tx rfl) t with
      ⟨outcome, served, ready, -, preparatory, ends⟩
    refine ⟨ready ++ answers tx outcome ++ frees tx, ?_, ?_, ?_⟩
    · rw [fresh] at ends
      rwa [act, incoming_eq]
    · intro event member
      rcases mem_append.mp member with member | member
      · rcases mem_append.mp member with member | member
        · exact (preparatory event member).inner
        · unfold answers at member
          split at member
          · cases member
          · rw [mem_singleton.mp member]
            trivial
      · rcases mem_map.mp member with ⟨ptr, -, rfl⟩
        trivial
    · rw [freed_append, freed_append, freed_of_preparatory preparatory, freed_answers, freed_frees]
      rfl

/--
A loop over commands of the driver: it takes up the commands to the first that
is not accepted, gives back the buffers of the incoming calls among them, reads
nothing, and returns exactly if all the commands are accepted.
-/
structure Runs (env : DriverEnv) (loop : ResponseLoop)
    (raws : List RawCommand) (t next : BinderThread)
    (events : List DriverEvent) : Prop where
  log : next.log = t.log ++ events
  reads : next.reads = t.reads
  fetches : fetches events = []
  tookUp : tookUp events = (takenUp env loop t.phase raws).map (RawCommand.interpret loop)
  freed : freed events =
    (takenUp env loop t.phase raws).filterMap fun raw =>
      (raw.interpret loop).servedBuffer
  result : (allAccepted env loop t.phase raws ∧
        next.phase = t.phase + raws.length ∧
        actAll env loop raws t = .ok () next) ∨
      (allAccepted env loop t.phase raws = false ∧
        ∃ reason, actAll env loop raws t = .error (.error reason) next)

theorem runs_nil (loop : ResponseLoop) (t : BinderThread) : Runs env loop [] t t [] where
  log := (append_nil _).symm
  reads := rfl
  fetches := rfl
  tookUp := rfl
  freed := rfl
  result := .inl ⟨rfl, rfl, rfl⟩

/-- The driver maps what it delivers. -/
def RawCommand.Mapped (memory : Mapping) (raw : RawCommand) : Prop :=
  (raw.interpret .client).Mapped memory

variable {memory : Mapping} {raw : RawCommand}

theorem RawCommand.Mapped.interpret (mapped : raw.Mapped memory) (loop : ResponseLoop) :
    (raw.interpret loop).Mapped memory := by
  rcases interpret_cases loop raw with ⟨cmd, unsupported⟩ | ⟨same, -⟩
  · rw [unsupported]
    constructor
    · rintro _ ⟨⟩
    · rintro _ ⟨⟩
  · rwa [same]

theorem plain_mapped (memory : Mapping) {code : ReturnCode} (bare : code.payloadSize = 0) :
    (plain code bare).Mapped memory := by
  cases code <;> cases bare <;> constructor <;> intro tx found <;>
    cases found

variable {tx : BinderTransactionData}

theorem reply_mapped (maps : memory.Maps (.unmarshalBinary tx.marshalBinary)) :
    (reply tx).Mapped memory := by
  constructor
  · intro other found
    change other ∈ some (.unmarshalBinary tx.marshalBinary) at found
    rwa [← Option.mem_some_iff.mp found]
  · rintro _ ⟨⟩

theorem transaction_mapped (maps : memory.Maps (.unmarshalBinary tx.marshalBinary)) :
    (transaction tx).Mapped memory := by
  constructor
  · rintro _ ⟨⟩
  · intro other found
    change other ∈ some (.unmarshalBinary tx.marshalBinary) at found
    rwa [← Option.mem_some_iff.mp found]

/-- What taking up one command adds to the log. -/
structure Heads (t middle : BinderThread) (command : ReturnCommand)
    (events : List DriverEvent) : Prop where
  log : middle.log = t.log ++ events
  reads : middle.reads = t.reads
  phase : middle.phase = t.phase + 1
  fetches : fetches events = []
  tookUp : tookUp events = [command]
  freed : freed events = command.servedBuffer.toList

/-- The command is taken up and handled: it is accepted, or the loop fails. -/
theorem takeUp_act (loop : ResponseLoop) (mapped : command.Mapped env.memory) (t : BinderThread) :
    ∃ middle events, Heads t middle command events ∧
      ((commandAccepted env (t.phase + 1) command ∧
          (takeUp command >>= fun _ => act env loop command) t = .ok () middle) ∨
        (commandAccepted env (t.phase + 1) command = false ∧
          ∃ reason, (takeUp command >>= fun _ => act env loop command) t =
            .error (.error reason) middle)) := by
  have fresh : (t.nextPhase.record (.took command)).writes = 0 := rfl
  rcases act_acts loop mapped fresh with ⟨events, ⟨middle, adds, result⟩, inner, freed⟩
  refine ⟨middle, .took command :: events, ?_, ?_⟩
  · constructor
    · rw [adds.log]
      exact append_assoc _ _ _
    · exact adds.reads
    · exact adds.phase
    · show fetches events = []
      exact fetches_of_inner inner
    · exact congrArg (command :: ·) (tookUp_of_inner inner)
    · exact freed
  · rw [bind_ok (takeUp_run command t)]
    rcases result with ⟨good, done, ran⟩ | failed
    · exact .inl ⟨good, ran⟩
    · exact .inr failed

variable {middle next : BinderThread} {events : List DriverEvent}

theorem Runs.cons
    {rest : List RawCommand} {more : List DriverEvent}
    (heads : Heads t middle (raw.interpret loop) events)
    (taken : commandAccepted env (t.phase + 1) (raw.interpret loop))
    (ran : (takeUp (raw.interpret loop) >>= fun _ =>
      act env loop (raw.interpret loop)) t = .ok () middle)
    (runs : Runs env loop rest middle next more) :
    Runs env loop (raw :: rest) t next (events ++ more) where
  log := by rw [runs.log, heads.log, append_assoc]
  reads := runs.reads.trans heads.reads
  fetches := by
    rw [fetches_append, heads.fetches, runs.fetches]
    rfl
  tookUp := by
    rw [tookUp_append, heads.tookUp, runs.tookUp, heads.phase, takenUp, if_pos taken]
    rfl
  freed := by
    rw [freed_append, heads.freed, runs.freed, heads.phase, takenUp, if_pos taken, filterMap_cons]
    cases (raw.interpret loop).servedBuffer <;> rfl
  result := by
    have goesOn : actAll env loop (raw :: rest) t = actAll env loop rest middle := by
      rw [actAll, ← bind_assoc]
      exact bind_ok ran
    rw [allAccepted, taken, Bool.true_and, goesOn]
    rcases runs.result with ⟨all, phase, ended⟩ | failed
    · refine .inl ⟨heads.phase ▸ all, ?_, ended⟩
      rw [phase, heads.phase, length_cons]
      omega
    · rw [heads.phase] at failed
      exact .inr failed

variable {reason : GoError}

theorem Runs.stop
    (heads : Heads t middle (raw.interpret loop) events)
    (refused : commandAccepted env (t.phase + 1) (raw.interpret loop) = false)
    (failed : (takeUp (raw.interpret loop) >>= fun _ =>
      act env loop (raw.interpret loop)) t = .error (.error reason) middle)
    (rest : List RawCommand) : Runs env loop (raw :: rest) t middle events :=
  { heads with
    tookUp := by
      rw [heads.tookUp, takenUp, if_neg (Bool.eq_false_iff.mp refused)]
      rfl
    freed := by
      rw [heads.freed, takenUp, if_neg (Bool.eq_false_iff.mp refused), filterMap_cons]
      cases (raw.interpret loop).servedBuffer <;> rfl
    result := by
      refine .inr ⟨?_, reason, ?_⟩
      · rw [allAccepted, refused, Bool.false_and]
      · rw [actAll, ← bind_assoc]
        exact bind_error failed }

/-- The course of a loop over the commands of one read. -/
theorem actAll_runs
    (loop : ResponseLoop) (mapped : ∀ raw ∈ raws, raw.Mapped env.memory) (t : BinderThread) :
    ∃ next events, Runs env loop raws t next events := by
  induction raws generalizing t with
  | nil => exact ⟨t, [], runs_nil loop t⟩
  | cons raw rest ih =>
    have own := (mapped raw mem_cons_self).interpret loop
    rcases takeUp_act loop own t with
      ⟨middle, events, heads, ⟨taken, ran⟩ | ⟨refused, reason, failed⟩⟩
    · rcases ih (fun later mem => mapped later (mem_cons_of_mem raw mem))
        middle with ⟨next, more, runs⟩
      exact ⟨next, events ++ more, .cons heads taken ran runs⟩
    · exact ⟨middle, events, .stop heads refused failed rest⟩

theorem Runs.of_accepted
    (runs : Runs env loop raws t next events) (taken : allAccepted env loop t.phase raws) :
    next.phase = t.phase + raws.length ∧ actAll env loop raws t = .ok () next := by
  rcases runs.result with ⟨-, ended⟩ | ⟨refused, -⟩
  · exact ended
  · exact absurd taken (Bool.eq_false_iff.mp refused)

theorem Runs.log_fetched (runs : Runs env loop raws (t.fetched raws) next events) :
    next.log = t.log ++ (.read raws :: events) := by
  rw [runs.log]
  simp [fetched]

theorem actAll_append (loop : ResponseLoop) (first second : List RawCommand) :
    actAll env loop (first ++ second) =
      actAll env loop first >>= fun _ => actAll env loop second := by
  induction first with
  | nil => rfl
  | cons raw rest ih =>
    rw [cons_append, actAll, actAll, ih]
    simp only [bind_assoc]

/-! ## A read and its loop -/

/-- Everything that the driver delivers lies in the mapping. -/
def DriverEnv.Delivers (env : DriverEnv) : Prop :=
  ∀ position raws, env.reads position = .ok raws → ∀ raw ∈ raws, raw.Mapped env.memory

/-- What a thread has added to its log. -/
def BinderThread.added (t next : BinderThread) : List DriverEvent :=
  next.log.drop t.log.length

theorem added_eq (log : next.log = t.log ++ events) : t.added next = events := by
  rw [added, log]
  exact drop_left

/-- A read and the loop over it, with what is done with the result. -/
def readAnd {α : Type} (env : DriverEnv) (loop : ResponseLoop)
    (next : List UInt32 × Option BinderTransactionData → DriverM α) :
    DriverM α := do
  let buf ← driverRead env
  let found ← responses env loop buf
  next found

theorem driverRead_ok (sent : env.reads t.reads = .ok raws) :
    driverRead env t = .ok (stream raws) (t.fetched raws) := by
  rw [driverRead, sent]

theorem driverRead_error (failed : env.reads t.reads = .error reason) :
    driverRead env t = .error (.error reason) { t with reads := t.reads + 1 } := by
  rw [driverRead, failed]

theorem readAnd_eq
    {α : Type} (loop : ResponseLoop) (next : List UInt32 × Option BinderTransactionData → DriverM α)
    (sent : env.reads t.reads = .ok raws) :
    readAnd env loop next t =
      (actAll env loop raws >>= fun _ => next (raws.map cmd, replyIn loop raws none))
        (t.fetched raws) := by
  rw [readAnd, bind_ok (driverRead_ok sent), bind_run, responses,
    responsesFrom_stream loop raws (length_le_stream raws), nil_append, bind_run, bind_run]
  cases actAll env loop raws (t.fetched raws) <;> rfl

/-- The course of a read: the loop ends it, or what follows is in charge. -/
theorem reached_readAnd
    {α : Type} (loop : ResponseLoop) (next : List UInt32 × Option BinderTransactionData → DriverM α)
    (sent : env.reads t.reads = .ok raws) (mapped : ∀ raw ∈ raws, raw.Mapped env.memory) :
    ∃ middle events, Runs env loop raws (t.fetched raws) middle events ∧
      (readAnd env loop next).reached t =
        if allAccepted env loop t.phase raws then
          (next (raws.map cmd, replyIn loop raws none)).reached middle
        else
          middle := by
  rcases actAll_runs loop mapped (t.fetched raws) with ⟨middle, events, runs⟩
  refine ⟨middle, events, runs, ?_⟩
  rcases runs.result with ⟨taken, -, ran⟩ | ⟨refused, reason, failed⟩
  · have whole : allAccepted env loop t.phase raws := taken
    rw [Action.reached, readAnd_eq loop next sent, bind_ok ran, if_pos whole]
    rfl
  · have some : ¬ allAccepted env loop t.phase raws := Bool.eq_false_iff.mp refused
    rw [Action.reached, readAnd_eq loop next sent, bind_error failed, if_neg some]

/-- A round of a looper is a read with nothing behind it. -/
theorem round_eq : LooperWorker.round env = readAnd env .looper fun _ => pure () := by
  unfold LooperWorker.round readAnd
  refine bind_congr fun buf => ?_
  split
  · next empty =>
      subst empty
      rfl
  · rfl

end Libbinder.Kernel
