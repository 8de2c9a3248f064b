import Libbinder.Status.Exception

/-!
# The status decoder of the protocol package

`protocol.ReadStatus` reads the same header as `binder.ReadException` into a
record that keeps transport errors and remote exceptions apart.  The two
decoders are written out separately, as in the source, and shown to agree.
-/

namespace Libbinder

open Go

namespace Protocol

/-- The exception of a status. -/
structure RemoteException where
  code : ExceptionCode
  message : GoString
  serviceCode : Int32
deriving DecidableEq, Repr

/-- A transport failure, a remote exception, or neither. -/
structure Status where
  transportErr : Option BinderError
  remote : Option RemoteException
deriving DecidableEq, Repr

/-- The status of a successful reply. -/
def Status.ok : Status :=
  ⟨none, none⟩

open Parcel

def skipUnusedHeader : ParcelM Unit := do
  let p ← get
  let headerStart := p.pos
  let headerAvail := p.remaining
  let headerSize ← readInt32
  if headerSize < 0 ∨ headerSize.toInt > headerAvail then
    Action.fail (.badParcelable s!"invalid status header size {headerSize.toInt}")
  else
    setPosition (wrapInt (headerStart + headerSize.toInt))

/-- The code of the header, behind an app-ops header if there is one. -/
def readCode : ParcelM ExceptionCode := do
  let code ← readInt32
  if code = ExceptionCode.hasNotedAppOpsReplyHeader then do
    skipUnusedHeader
    readInt32
  else
    return code

/-- The message of an exception, with the stack trace behind it skipped. -/
def readMessage : ParcelM GoString := do
  let msg ← readNullableString
  let p ← get
  let stackTraceStart := p.pos
  let stackTraceAvail := p.remaining
  let stackTraceHeaderSize ← readInt32
  if stackTraceHeaderSize < 0 ∨ stackTraceHeaderSize.toInt > stackTraceAvail then
    Action.fail
      (.badParcelable s!"invalid remote stack trace header size {stackTraceHeaderSize.toInt}")
  else if stackTraceHeaderSize ≠ 0 then do
    setPosition (wrapInt (stackTraceStart + stackTraceHeaderSize.toInt))
    return msg.getD []
  else
    return msg.getD []

/-- The part of `ReadStatus` behind the exception code. -/
def decodeBody (exception : ExceptionCode) : ParcelM Status :=
  if exception = ExceptionCode.hasReplyHeader then do
    skipUnusedHeader
    return Status.ok
  else if exception = ExceptionCode.transactionFailed then
    Action.fail (.plain .failedTxn)
  else if exception = ExceptionCode.none then
    return Status.ok
  else do
    let message ← readMessage
    if exception = ExceptionCode.serviceSpecific then
      let serviceCode ← readInt32
      return ⟨none, some ⟨exception, message, serviceCode⟩⟩
    else if exception = ExceptionCode.parcelable then
      skipUnusedHeader
      return ⟨none, some ⟨exception, message, 0⟩⟩
    else
      return ⟨none, some ⟨exception, message, 0⟩⟩

/-- `ReadStatus` up to its error paths. -/
def decodeStatus : ParcelM Status := do
  let exception ← readCode
  decodeBody exception

/--
`ReadStatus`: the status and the error result.  Every error path returns the
error a second time as the transport error of the status.  Absent on a panic.
-/
def readStatus (p : Parcel) : Option (Status × Option BinderError × Parcel) :=
  match decodeStatus p with
  | .ok status reached => some (status, none, reached)
  | .error (.error reason) reached => some (⟨some reason, none⟩, some reason, reached)
  | .error .panic _ => none

end Protocol

open Protocol

/-! ## Agreement -/

/-- How a decoder classifies a header. -/
inductive HeaderClass where
  | success
  | exception (code : ExceptionCode) (message : GoString) (serviceCode : Int32)
  | decodingError (reason : BinderError)
deriving DecidableEq, Repr

/-- The class of a header for `ReadException`, and the parcel behind it. -/
def classifyException (p : Parcel) : Option (HeaderClass × Parcel) :=
  match Parcel.readException p with
  | .ok none reached => some (.success, reached)
  | .ok (some remote) reached =>
    some (.exception remote.code remote.message remote.serviceCode, reached)
  | .error (.error reason) reached => some (.decodingError reason, reached)
  | .error .panic _ => none

/-- The class of a header for `ReadStatus`, and the parcel behind it. -/
def classifyStatus (p : Parcel) : Option (HeaderClass × Parcel) :=
  (readStatus p).map fun (status, err, reached) =>
    match err, status.remote with
    | some reason, _ => (.decodingError reason, reached)
    | none, some remote => (.exception remote.code remote.message remote.serviceCode, reached)
    | none, none => (.success, reached)

namespace Protocol

open Parcel

/-- The status that stands for a decoded exception. -/
def Status.ofException : Option Libbinder.RemoteException → Status
  | none => Status.ok
  | some remote => ⟨none, some ⟨remote.code, remote.message, remote.serviceCode⟩⟩

theorem skipUnusedHeader_eq : skipUnusedHeader = skipExceptionHeader :=
  rfl

theorem readMessage_eq :
    readMessage =
      (do
        let msg ← readNullableString
        skipStackTrace
        return msg.getD []) := by
  rw [readMessage]
  congr 1
  funext msg
  rw [skipStackTrace]
  simp only [bind_assoc]
  congr 1
  funext p
  congr 1
  funext size
  split_ifs
  · rfl
  · rfl
  · rfl

theorem readCode_eq : readCode = readExceptionCode :=
  rfl

theorem decodeBody_eq (exception : ExceptionCode) :
    decodeBody exception =
      (do
        let remote ← readExceptionBody exception
        return .ofException remote) := by
  rw [decodeBody, readExceptionBody, skipUnusedHeader_eq, readMessage_eq]
  split_ifs with reply failed success service parcelable
  · simp only [bind_assoc, pure_bind]
    rfl
  · rfl
  · rfl
  · simp only [bind_assoc, pure_bind, readExceptionField, if_pos service]
    rfl
  · simp only [bind_assoc, pure_bind, readExceptionField, if_neg service, if_pos parcelable]
    rfl
  · simp only [bind_assoc, pure_bind, readExceptionField, if_neg service, if_neg parcelable]
    rfl

/-- The decoder of the protocol package, step by step the other one. -/
theorem decodeStatus_eq :
    decodeStatus =
      (do
        let remote ← readException
        return .ofException remote) := by
  rw [decodeStatus, readException, readCode_eq, bind_assoc]
  congr 1
  funext exception
  exact decodeBody_eq exception

theorem readStatus_eq (p : Parcel) :
    readStatus p =
      match readException p with
      | .ok remote reached => some (.ofException remote, none, reached)
      | .error (.error reason) reached => some (⟨some reason, none⟩, some reason, reached)
      | .error .panic _ => none := by
  rw [readStatus, decodeStatus_eq, Action.bind_run]
  cases readException p with
  | ok remote reached => rfl
  | error fault reached =>
    cases fault with
    | error | panic => rfl

end Protocol

/-- The two status decoders classify every parcel alike and stop alike. -/
theorem status_decoders_agree (p : Parcel) : classifyStatus p = classifyException p := by
  rw [classifyStatus, classifyException, readStatus_eq]
  cases Parcel.readException p with
  | ok remote reached =>
    cases remote with
    | none | some => rfl
  | error fault reached =>
    cases fault with
    | error | panic => rfl

/-! ## Replies of the service manager -/

/-- An error of the runtime: one of the two of the kernel package, or another. -/
inductive RuntimeError where
  | deadReply
  | failedReply
  | other (error : BinderError)

def mapRuntimeError : RuntimeError → BinderError
  | .deadReply => .plain .deadObject
  | .failedReply => .plain .failedTxn
  | .other error => error

/--
`decodeStatusReply` and the parcel behind the header.  The exception it builds
has a code and a message and leaves the service code at zero.
-/
def decodeStatusReply (reply : Parcel) : Option (HeaderClass × Parcel) :=
  (readStatus reply).map fun (status, err, reached) =>
    match err, status.transportErr, status.remote with
    | some reason, _, _ => (.decodingError (mapRuntimeError (.other reason)), reached)
    | none, some reason, _ => (.decodingError (mapRuntimeError (.other reason)), reached)
    | none, none, some remote => (.exception remote.code remote.message 0, reached)
    | none, none, none => (.success, reached)

/--
The service manager decodes a reply like `ReadException` exactly if that finds
no exception with a service code.
-/
theorem status_reply_decoded_iff (reply : Parcel) :
    decodeStatusReply reply = classifyException reply ↔
      ∀ code message serviceCode reached,
        classifyException reply = some (.exception code message serviceCode, reached) →
          serviceCode = 0 := by
  rw [decodeStatusReply, classifyException, readStatus_eq]
  cases Parcel.readException reply with
  | ok remote reached =>
    cases remote with
    | none => simp [Protocol.Status.ofException, Protocol.Status.ok]
    | some remote =>
      simp only [Protocol.Status.ofException, Option.map_some, Option.some.injEq, Prod.mk.injEq,
        HeaderClass.exception.injEq, true_and, and_true]
      constructor
      · rintro zero _ _ serviceCode _ ⟨⟨-, -, rfl⟩, -⟩
        exact zero.symm
      · intro zero
        exact (zero _ _ _ _ ⟨⟨rfl, rfl, rfl⟩, rfl⟩).symm
  | error fault reached =>
    cases fault with
    | error | panic => simp [mapRuntimeError]

/-- A service-specific exception without message whose service code is 7. -/
def serviceSpecificReply : Parcel :=
  { Parcel.new with buf := [248, 255, 255, 255, 255, 255, 255, 255, 0, 0, 0, 0, 7, 0, 0, 0] }

theorem serviceCode_dropped :
    (classifyException serviceSpecificReply).map Prod.fst = some (.exception (-8) [] 7) ∧
      (decodeStatusReply serviceSpecificReply).map Prod.fst = some (.exception (-8) [] 0) := by
  decide +kernel

end Libbinder
