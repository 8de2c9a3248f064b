import Libbinder.Kernel.Driver

/-!
# Incoming calls

An incoming call is handled by two methods of the package: on a client thread
that waits for the reply to a call of its own, and on a looper.  Both copy the
request, acquire the objects in it, dispatch it and answer.

A synchronous call is answered by one reply: the parcel of the handler, or a
status if anything before it failed.  A oneway call is not answered.  The
kernel buffer of the request is freed last, in either case.
-/

namespace Libbinder.Kernel

open Go List Action DriverEvent

def statusCodeFromError (err : GoError) : Int32 :=
  match err.asStatus with
  | some code => code
  | none =>
    if err.is .unknownTransaction then -74
    else if err.is .permissionDenied then -1
    else if err.is .deadObject then -32
    else if err.is .badParcelable then -22
    else if err.is .unsupported then -38
    else -2147483646

/-- The payload and the offsets of the objects; nothing for a nil parcel. -/
def kernelWireData : Option Parcel → List UInt8 × List UInt64
  | none => ([], [])
  | some parcel => (parcel.buf, parcel.objects.map fun object => UInt64.ofInt object.offset)

/-- The handle `^uint32(0)` that a reply is sent to. -/
def replyTarget : UInt64 :=
  0xffffffff

/-- The record of a reply with a parcel. -/
def parcelReply (reply : Option Parcel) (flags : UInt32) : OutgoingData where
  target := replyTarget
  flags := flags
  payload := (kernelWireData reply).1
  offsets := (kernelWireData reply).2

/-- The record of a reply with a status. -/
def statusReply (code : Int32) (flags : UInt32) : OutgoingData where
  target := replyTarget
  flags := tfStatus ||| (flags &&& tfClearBuf)
  payload := leBytes 4 code.toUInt32.toNat
  offsets := []

variable (env : DriverEnv)

/-! ## The client thread -/

namespace Backend

def sendReply (reply : Option Parcel) (flags : UInt32) : DriverM Unit :=
  writeChecked env "BC_REPLY" (.reply (parcelReply reply flags))

def sendStatusReply (code : Int32) (flags : UInt32) : DriverM Unit :=
  writeChecked env "BC_REPLY(status)" (.reply (statusReply code flags))

/-- The end of the method: what is done with the result of the dispatch. -/
def finish (tx : BinderTransactionData)
    (result : Except GoError (Option Parcel)) : DriverM Unit :=
  if tx.oneWay then
    pure ()
  else
    match result with
    | .error err => sendStatusReply env (statusCodeFromError err) (tx.flags &&& tfClearBuf)
    | .ok reply => sendReply env reply (tx.flags &&& tfClearBuf)

/-- A request that could not be copied, or whose objects were not acquired. -/
def refuse (tx : BinderTransactionData) (err : GoError) : DriverM Unit :=
  if tx.oneWay then
    fail err
  else
    sendStatusReply env (statusCodeFromError err) (tx.flags &&& tfClearBuf)

/-- The method without its deferred call. -/
def serveTransaction (tx : BinderTransactionData) : DriverM Unit :=
  match copyTransactionPayload env.memory tx with
  | none => abort
  | some (.error err) => refuse env tx err
  | some (.ok (request, objects)) => do
    match ← (acquireParcelObjects env objects).attempt with
    | .error err => refuse env tx err
    | .ok () =>
      let result ← dispatchLocalTransaction env tx request objects
      finish env tx result

def handleIncomingTransaction (tx : BinderTransactionData) : DriverM Unit :=
  if tx.dataBuffer ≠ 0 then
    deferring (freeBuffer env tx.dataBuffer) (serveTransaction env tx)
  else
    serveTransaction env tx

end Backend

open Backend

/-! ## The looper -/

namespace LooperWorker

def sendReply (reply : Option Parcel) (flags : UInt32) : DriverM Unit :=
  writeChecked env "BC_REPLY" (.reply (parcelReply reply flags))

def sendStatusReply (code : Int32) (flags : UInt32) : DriverM Unit :=
  writeChecked env "BC_REPLY(status)" (.reply (statusReply code flags))

/-- The end of the method: what is done with the result of the dispatch. -/
def finish (tx : BinderTransactionData)
    (result : Except GoError (Option Parcel)) : DriverM Unit :=
  if tx.oneWay then
    pure ()
  else
    match result with
    | .error err => sendStatusReply env (statusCodeFromError err) (tx.flags &&& tfClearBuf)
    | .ok reply => sendReply env reply (tx.flags &&& tfClearBuf)

/-- A request that could not be copied, or whose objects were not acquired. -/
def refuse (tx : BinderTransactionData) (err : GoError) : DriverM Unit :=
  if tx.oneWay then
    fail err
  else
    sendStatusReply env (statusCodeFromError err) (tx.flags &&& tfClearBuf)

/-- The method without its deferred call. -/
def serveTransaction (tx : BinderTransactionData) : DriverM Unit :=
  match copyTransactionPayload env.memory tx with
  | none => abort
  | some (.error err) => refuse env tx err
  | some (.ok (request, objects)) => do
    match ← (acquireParcelObjects env objects).attempt with
    | .error err => refuse env tx err
    | .ok () =>
      let result ← dispatchLocalTransaction env tx request objects
      finish env tx result

def handleTransaction (tx : BinderTransactionData) : DriverM Unit :=
  if tx.dataBuffer ≠ 0 then
    deferring (freeBuffer env tx.dataBuffer) (serveTransaction env tx)
  else
    serveTransaction env tx

end LooperWorker

/-! ## What a call comes to -/

/--
The outcome of an incoming call before it is answered: the error of copying its
request, else the one of acquiring its objects, else what the dispatch returns.
-/
def incomingOutcome (tx : BinderTransactionData) : DriverM (Except GoError (Option Parcel)) :=
  match copyTransactionPayload env.memory tx with
  | none => abort
  | some (.error err) => pure (.error err)
  | some (.ok (request, objects)) => do
    match ← (acquireParcelObjects env objects).attempt with
    | .error err => pure (.error err)
    | .ok () => dispatchLocalTransaction env tx request objects

/-- The reply that an outcome stands for. -/
def answerTo (tx : BinderTransactionData) : Except GoError (Option Parcel) → OutgoingData
  | .error err => statusReply (statusCodeFromError err) (tx.flags &&& tfClearBuf)
  | .ok reply => parcelReply reply (tx.flags &&& tfClearBuf)

variable (tx : BinderTransactionData) (outcome : Except GoError (Option Parcel))

/-- Only an error is answered with the status flag. -/
theorem answerTo_status_iff :
    (answerTo tx outcome).flags &&& tfStatus ≠ 0 ↔ outcome.isOk = false := by
  have apart : ∀ flags : UInt32, flags &&& tfClearBuf &&& tfStatus = 0 := by
    intro flags
    rw [UInt32.and_assoc]
    exact UInt32.and_zero
  cases outcome with
  | error err =>
    have flagged : (answerTo tx (.error err)).flags &&& tfStatus = tfStatus :=
      uint32_or_and_self tfStatus _
    rw [flagged]
    exact ⟨fun _ => rfl, fun _ => by decide⟩
  | ok reply =>
    have unflagged : (answerTo tx (.ok reply)).flags &&& tfStatus = 0 := apart tx.flags
    rw [unflagged]
    exact ⟨fun differs => absurd rfl differs, fun failed => by cases failed⟩

/-! ## Handling a call, step by step -/

namespace DriverEvent

/-- The commands written in a log. -/
def written (log : List DriverEvent) : List WriteCommand :=
  log.filterMap fun event =>
    match event with
    | .wrote command => some command
    | _ => none

/-- The replies written in a log. -/
def replies (log : List DriverEvent) : List OutgoingData :=
  (written log).filterMap fun command =>
    match command with
    | .reply data => some data
    | _ => none

/-- The acquisition of an object, or the dispatch of a request. -/
def Preparatory : DriverEvent → Prop
  | .wrote (.incRefs _) => True
  | .wrote (.acquire _) => True
  | .dispatched _ _ _ _ _ => True
  | _ => False

variable (first second : List DriverEvent)

@[simp]
theorem written_append : written (first ++ second) = written first ++ written second :=
  filterMap_append

@[simp]
theorem written_map_wrote (commands : List WriteCommand) :
    written (commands.map .wrote) = commands := by
  induction commands with
  | nil => rfl
  | cons command rest ih => exact congrArg (command :: ·) ih

@[simp]
theorem replies_append : replies (first ++ second) = replies first ++ replies second := by
  unfold replies
  rw [written_append, filterMap_append]

/-- Preparatory events show nothing but acquisitions. -/
theorem pick_of_preparatory
    {β : Type} {pick : WriteCommand → Option β}
    (noIncRefs : ∀ handle, pick (.incRefs handle) = none)
    (noAcquire : ∀ handle, pick (.acquire handle) = none) {events : List DriverEvent}
    (ready : ∀ event ∈ events, event.Preparatory) : (written events).filterMap pick = [] := by
  refine filterMap_eq_nil_iff.mpr fun command mem => ?_
  rcases mem_filterMap.mp mem with ⟨event, logged, shown⟩
  have preparatory := ready event logged
  cases event with
  | wrote issued =>
    cases shown
    cases command with
    | incRefs handle => exact noIncRefs handle
    | acquire handle => exact noAcquire handle
    | _ => cases preparatory
  | _ => cases shown

end DriverEvent

open DriverEvent

/-- The thread has gone on within its phase, without a read. -/
structure BinderThread.Adds (t next : BinderThread)
    (events : List DriverEvent) : Prop where
  log : next.log = t.log ++ events
  writes : next.writes = t.writes + (written events).length
  phase : next.phase = t.phase
  reads : next.reads = t.reads

namespace BinderThread.Adds

variable {t middle next : BinderThread} {first second : List DriverEvent}

theorem refl (t : BinderThread) : t.Adds t [] where
  log := (append_nil _).symm
  writes := rfl
  phase := rfl
  reads := rfl

theorem trans (before : t.Adds middle first) (after : middle.Adds next second) :
    t.Adds next (first ++ second) where
  log := by rw [after.log, before.log, append_assoc]
  writes := by
    rw [after.writes, before.writes, written_append, length_append, Nat.add_assoc]
  phase := after.phase.trans before.phase
  reads := after.reads.trans before.reads

theorem issueAll (t : BinderThread) (commands : List WriteCommand) :
    t.Adds (t.issueAll commands) (commands.map .wrote) where
  log := rfl
  writes := by
    rw [written_map_wrote]
    rfl
  phase := rfl
  reads := rfl

theorem issue (t : BinderThread) (command : WriteCommand) :
    t.Adds (t.issue command) [.wrote command] := by
  rw [← t.issueAll_singleton]
  exact issueAll t [command]

/-- An event that is not a write. -/
theorem record (t : BinderThread) {event : DriverEvent} (silent : written [event] = []) :
    t.Adds (t.record event) [event] where
  log := rfl
  writes := by
    rw [silent]
    rfl
  phase := rfl
  reads := rfl

end BinderThread.Adds

/--
The action adds these events to the log and does not panic; it returns exactly
if it is `good`.
-/
def Ends {α : Type} (action : DriverM α) (t : BinderThread) (good : Bool)
    (events : List DriverEvent) : Prop :=
  ∃ next, t.Adds next events ∧
    ((good ∧ ∃ value, action t = .ok value next) ∨
      (good = false ∧ ∃ reason, action t = .error (.error reason) next))

namespace Ends

variable {t : BinderThread} {good : Bool} {events : List DriverEvent}

theorem reached {α : Type} {action : DriverM α} (ends : Ends action t good events) :
    t.Adds (action.reached t) events := by
  rcases ends with ⟨next, adds, ⟨-, value, ran⟩ | ⟨-, reason, failed⟩⟩
  · rwa [reached_of_ok ran]
  · rwa [reached_of_error failed]

theorem write (t : BinderThread) (label : String) (command : WriteCommand) :
    Ends (writeChecked env label command) t
      ((env.writes t.phase t.writes).accepts command.size)
      [.wrote command] := by
  refine ⟨t.issue command, .issue t command, ?_⟩
  by_cases taken : (env.writes t.phase t.writes).accepts command.size
  · exact .inl ⟨taken, (), writeChecked_ok taken⟩
  · exact .inr ⟨Bool.eq_false_iff.mpr taken, writeChecked_error label taken⟩

/-- A part that returns, and then the rest. -/
theorem after
    {α β : Type} {first : DriverM α} {rest : α → DriverM β} {middle : BinderThread} {value : α}
    {before : List DriverEvent} (ran : first t = .ok value middle)
    (adds : t.Adds middle before) (ends : Ends (rest value) middle good events) :
    Ends (first >>= rest) t good (before ++ events) := by
  rcases ends with ⟨next, added, result⟩
  refine ⟨next, adds.trans added, ?_⟩
  rwa [bind_ok ran]

theorem deferring
    {α : Type} {cleanup : DriverM Unit} {body : DriverM α}
    {last : List DriverEvent} (ends : Ends body t good events)
    (cleans : ∀ middle : BinderThread, middle.Adds (cleanup.reached middle) last) :
    Ends (.deferring cleanup body) t good (events ++ last) := by
  rcases ends with ⟨next, adds, ⟨yes, value, ran⟩ | ⟨no, reason, failed⟩⟩
  · exact ⟨_, adds.trans (cleans next), .inl ⟨yes, value, deferring_of_ok ran⟩⟩
  · exact ⟨_, adds.trans (cleans next), .inr ⟨no, reason, deferring_of_error failed⟩⟩

end Ends

/-- The reply of a synchronous call. -/
def answers (tx : BinderTransactionData)
    (outcome : Except GoError (Option Parcel)) : List DriverEvent :=
  if tx.oneWay then [] else [.wrote (.reply (answerTo tx outcome))]

/-- The release of the buffer of a request. -/
def frees (tx : BinderTransactionData) : List DriverEvent :=
  tx.buffer.toList.map fun ptr => .wrote (.freeBuffer ptr)

/-- The write of a reply is accepted. -/
def replyAccepted (phase position : Nat) : Bool :=
  (env.writes phase position).accepts 68

/--
Whether the handling of an incoming call returns without an error.  A oneway
call has to be copied and its objects acquired.  For a synchronous one only the
write of the reply counts, which comes behind those of the acquisitions.
-/
def incomingAccepted (phase position : Nat) (tx : BinderTransactionData) : Bool :=
  match copyTransactionPayload env.memory tx with
  | none => false
  | some (.error _) => !tx.oneWay && replyAccepted env phase position
  | some (.ok (_, objects)) =>
    let commands := acquisitions objects
    if acceptedAll (env.writes phase) position commands then
      tx.oneWay || replyAccepted env phase (position + commands.length)
    else
      !tx.oneWay && replyAccepted env phase
        (position + (upToRefused (env.writes phase) position commands).length)

variable {env}

theorem size_reply (data : OutgoingData) : (WriteCommand.reply data).size = 68 := by
  change 4 + iocSize (WriteCommand.bc 1 64) = 68
  decide

variable (t : BinderThread)

theorem reply_ends (label : String) (data : OutgoingData) :
    Ends (writeChecked env label (.reply data)) t
      (replyAccepted env t.phase t.writes) [.wrote (.reply data)] := by
  unfold replyAccepted
  rw [← size_reply data]
  exact .write env t label (.reply data)

theorem finish_ends :
    Ends (finish env tx outcome) t
      (tx.oneWay || replyAccepted env t.phase t.writes)
      (answers tx outcome) := by
  unfold finish answers
  by_cases oneWay : tx.oneWay
  · rw [if_pos oneWay, if_pos oneWay, oneWay, Bool.true_or]
    exact ⟨t, .refl t, .inl ⟨rfl, (), rfl⟩⟩
  · rw [if_neg oneWay, if_neg oneWay, Bool.eq_false_iff.mpr oneWay, Bool.false_or]
    cases outcome with
    | error err => exact reply_ends t "BC_REPLY(status)" _
    | ok reply => exact reply_ends t "BC_REPLY" _

theorem refuse_ends (err : GoError) (t : BinderThread) :
    Ends (refuse env tx err) t
      (!tx.oneWay && replyAccepted env t.phase t.writes)
      (answers tx (.error err)) := by
  unfold refuse answers
  by_cases oneWay : tx.oneWay
  · rw [if_pos oneWay, if_pos oneWay, oneWay]
    exact ⟨t, .refl t, .inr ⟨rfl, err, rfl⟩⟩
  · rw [if_neg oneWay, if_neg oneWay, Bool.eq_false_iff.mpr oneWay]
    exact reply_ends t "BC_REPLY(status)" _

theorem preparatory_acquisitions
    {objects : List ParcelObject} {commands : List WriteCommand}
    (wanted : commands ⊆ acquisitions objects) :
    ∀ event ∈ commands.map wrote, event.Preparatory := by
  intro event mem
  rcases mem_map.mp mem with ⟨command, issued, rfl⟩
  rcases mem_flatMap.mp (wanted issued) with ⟨object, -, chosen⟩
  split at chosen
  · rcases mem_cons.mp chosen with rfl | rest
    · trivial
    · rw [mem_singleton.mp rest]
      trivial
  · cases chosen

variable {tx : BinderTransactionData}

/-- The whole course of an incoming call, up to the release of its buffer. -/
theorem serveTransaction_ends (mapped : env.memory.Maps tx) (t : BinderThread) :
    ∃ outcome served prepared,
      incomingOutcome env tx t = .ok outcome served ∧
        (∀ event ∈ prepared, event.Preparatory) ∧
        Ends (serveTransaction env tx) t
          (incomingAccepted env t.phase t.writes tx)
          (prepared ++ answers tx outcome) := by
  rcases copyTransactionPayload_of_maps mapped with ⟨copied, copies⟩
  unfold incomingOutcome serveTransaction incomingAccepted
  rw [copies]
  cases copied with
  | error err => exact ⟨.error err, t, [], rfl, forall_mem_nil _, refuse_ends tx err t⟩
  | ok parts =>
    rcases parts with ⟨request, objects⟩
    simp only
    have row : WritesRow env _ _ := acquireParcelObjects_row objects
    rcases row.attempt t with ⟨result, attempted, taken⟩
    have acquired := preparatory_acquisitions
      (upToRefused_subset (env.writes t.phase) t.writes (acquisitions objects))
    have adds := BinderThread.Adds.issueAll t
      (upToRefused (env.writes t.phase) t.writes (acquisitions objects))
    rw [← taken]
    cases result with
    | error err =>
      refine ⟨.error err, _, _, bind_ok attempted, acquired, ?_⟩
      exact .after attempted adds (refuse_ends tx err _)
    | ok done =>
      rw [upToRefused_of_acceptedAll taken.symm] at attempted acquired adds
      refine ⟨env.handlers t.phase, _, (acquisitions objects).map .wrote ++
          [.dispatched tx.cookie tx.code tx.flags request objects], bind_ok attempted, ?_, ?_⟩
      · intro event mem
        rcases mem_append.mp mem with acquisition | dispatched
        · exact acquired event acquisition
        · rw [mem_singleton.mp dispatched]
          trivial
      · rw [append_assoc]
        exact .after attempted adds (.after rfl (.record _ rfl) (finish_ends tx _ _))

theorem reached_freeBuffer (ptr : UInt64) :
    t.Adds ((freeBuffer env ptr).reached t) [.wrote (.freeBuffer ptr)] := by
  rw [freeBuffer, reached_writeChecked]
  exact .issue t (.freeBuffer ptr)

/-- The whole course of an incoming call. -/
theorem handleIncomingTransaction_ends (mapped : env.memory.Maps tx) (t : BinderThread) :
    ∃ outcome served ready,
      incomingOutcome env tx t = .ok outcome served ∧
        (∀ event ∈ ready, event.Preparatory) ∧
        Ends (handleIncomingTransaction env tx) t
          (incomingAccepted env t.phase t.writes tx)
          (ready ++ answers tx outcome ++ frees tx) := by
  rcases serveTransaction_ends mapped t with ⟨outcome, served, ready, comes, preparatory, ends⟩
  refine ⟨outcome, served, ready, comes, preparatory, ?_⟩
  unfold handleIncomingTransaction frees BinderTransactionData.buffer
  by_cases null : tx.dataBuffer = 0
  · rw [if_neg (not_not_intro null), if_pos null]
    exact (append_nil (ready ++ answers tx outcome)).symm ▸ ends
  · rw [if_pos null, if_neg null]
    exact ends.deferring fun middle => reached_freeBuffer middle tx.dataBuffer

theorem replies_of_preparatory
    {events : List DriverEvent} (ready : ∀ event ∈ events, event.Preparatory) :
    replies events = [] :=
  pick_of_preparatory (fun _ => rfl) (fun _ => rfl) ready

theorem replies_answers :
    replies (answers tx outcome) = if tx.oneWay then [] else [answerTo tx outcome] := by
  unfold answers
  split <;> rfl

theorem replies_frees : replies (frees tx) = [] := by
  unfold frees
  cases tx.buffer <;> rfl

/--
A synchronous incoming call is answered once, by the parcel of the handler or,
if anything failed, by a status; a oneway call is not answered.  The looper
writes what the client thread writes.  Nothing is assumed of the writes: also a
reply that the driver refuses was the only one.
-/
theorem incoming_calls_answered_once
    (env : DriverEnv) (t : BinderThread) (tx : BinderTransactionData)
    (mapped : env.memory.Maps tx) :
    ∃ outcome served, incomingOutcome env tx t = .ok outcome served ∧
      replies
          ((handleIncomingTransaction env tx).reached t).log =
        replies t.log ++ (if tx.oneWay then [] else [answerTo tx outcome]) ∧
      ((answerTo tx outcome).flags &&& tfStatus ≠ 0 ↔ outcome.isOk = false) ∧
      written
          ((LooperWorker.handleTransaction env tx).reached t).log =
        written ((handleIncomingTransaction env tx).reached t).log := by
  rcases handleIncomingTransaction_ends mapped t with
    ⟨outcome, served, prepared, comes, preparatory, ends⟩
  refine ⟨outcome, served, comes, ?_, answerTo_status_iff tx outcome, ?_⟩
  · rw [ends.reached.log, replies_append, replies_append, replies_append,
      replies_of_preparatory preparatory, replies_answers, replies_frees, nil_append, append_nil]
  · rfl

/-- A mapping of four bytes, and a driver that accepts all writes. -/
def acceptingDriver : DriverEnv where
  memory := { base := 4096, bytes := [1, 2, 3, 4], bounded := by decide }
  reads := fun _ => .ok []
  writes := fun _ _ => .whole
  handlers := fun _ => .error (.leaf (.sentinel .permissionDenied))

theorem refused_call_answered :
    replies
        ((handleIncomingTransaction acceptingDriver
          { dataSize := 4, dataBuffer := 4096 }).reached {}).log =
      [statusReply (-1) 0] := by
  rcases incoming_calls_answered_once acceptingDriver {}
    { dataSize := 4, dataBuffer := 4096 } (by decide) with
    ⟨outcome, served, comes, replied, -, -⟩
  have denied : incomingOutcome acceptingDriver
      { dataSize := 4, dataBuffer := 4096 } {} =
      .ok (.error (.leaf (.sentinel .permissionDenied))) served := by
    rw [comes]
    cases comes
    rfl
  cases comes.symm.trans denied
  exact replied

end Libbinder.Kernel
