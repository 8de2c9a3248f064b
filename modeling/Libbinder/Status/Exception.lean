import Libbinder.Parcel.Text

/-!
# Remote exceptions

The status header of a Binder reply.  `TryWriteException` turns an error of a
handler into a header, and `ReadException` reads one: an exception code, a
message, a stack trace that is skipped, and a field that depends on the code.
Three reserved codes stand for headers in front of the status and for a failed
transaction.
-/

namespace Libbinder

open Go Action Image

/-- The codes of remote exceptions. -/
abbrev ExceptionCode :=
  Int32

namespace ExceptionCode

def none : ExceptionCode :=
  0

def serviceSpecific : ExceptionCode :=
  -8

def parcelable : ExceptionCode :=
  -9

def hasNotedAppOpsReplyHeader : ExceptionCode :=
  -127

def hasReplyHeader : ExceptionCode :=
  -128

def transactionFailed : ExceptionCode :=
  -129

end ExceptionCode

/-- An exception returned by a remote service. -/
structure RemoteException where
  code : ExceptionCode
  message : GoString
  serviceCode : Int32
deriving DecidableEq, Repr

/-- A failure that a service defines. -/
structure ServiceSpecificError where
  code : Int32
  message : GoString
deriving DecidableEq, Repr

/-- One error of an error tree; pointers may be nil. -/
inductive ErrorNode where
  | remote (exception : Option RemoteException)
  | serviceSpecific (failure : Option ServiceSpecificError)
  | other (reason : BinderError)
deriving DecidableEq, Repr

/--
An error value: the errors of its tree in the order in which `errors.As` visits
them.  The nil error is the empty list.
-/
abbrev ErrorTree :=
  List ErrorNode

namespace ErrorTree

/-- `errors.As` for `*RemoteException`. -/
def asRemote (err : ErrorTree) : Option (Option RemoteException) :=
  err.findSome? fun node =>
    match node with
    | .remote exception => some exception
    | _ => none

/-- `errors.As` for `*ServiceSpecificError`. -/
def asServiceSpecific (err : ErrorTree) : Option (Option ServiceSpecificError) :=
  err.findSome? fun node =>
    match node with
    | .serviceSpecific failure => some failure
    | _ => none

end ErrorTree

namespace Parcel

/-! ## Writing -/

def writeNoException : ParcelM Unit :=
  writeInt32 ExceptionCode.none

/-- The field behind the stack trace that depends on the exception code. -/
def writeExceptionField (remote : RemoteException) : ParcelM Unit :=
  if remote.code = ExceptionCode.serviceSpecific then
    writeInt32 remote.serviceCode
  else if remote.code = ExceptionCode.parcelable then
    writeInt32 0
  else
    pure ()

def writeRemoteException : Option RemoteException → ParcelM Unit
  | none => writeNoException
  | some remote => do
    writeInt32 remote.code
    writeString remote.message
    writeInt32 0
    writeExceptionField remote

/-- The exception that stands for a service-specific error. -/
def serviceException (failure : ServiceSpecificError) : RemoteException where
  code := .serviceSpecific
  message := failure.message
  serviceCode := failure.code

/--
Whether the error was written as an exception.  A failing write is the error
of the action; `handled` is true there.  Using a nil `*ServiceSpecificError`
panics.
-/
def tryWriteException (err : ErrorTree) : ParcelM Bool :=
  match err.asRemote with
  | some remote => do
    writeRemoteException remote
    return true
  | none =>
    match err.asServiceSpecific with
    | some (some failure) => do
      writeRemoteException (some (serviceException failure))
      return true
    | some none => Action.abort
    | none => return false

/-! ## Reading -/

def skipExceptionHeader : ParcelM Unit := do
  let p ← get
  let headerStart := p.pos
  let headerAvail := p.remaining
  let headerSize ← readInt32
  if headerSize < 0 ∨ headerSize.toInt > headerAvail then
    Action.fail (.badParcelable s!"invalid status header size {headerSize.toInt}")
  else
    setPosition (wrapInt (headerStart + headerSize.toInt))

/-- The part of `ReadException` that steps over the stack trace. -/
def skipStackTrace : ParcelM Unit := do
  let p ← get
  let stackTraceStart := p.pos
  let stackTraceAvail := p.remaining
  let stackTraceHeaderSize ← readInt32
  if stackTraceHeaderSize < 0 ∨ stackTraceHeaderSize.toInt > stackTraceAvail then
    Action.fail
      (.badParcelable s!"invalid remote stack trace header size {stackTraceHeaderSize.toInt}")
  else if stackTraceHeaderSize ≠ 0 then
    setPosition (wrapInt (stackTraceStart + stackTraceHeaderSize.toInt))
  else
    pure ()

/-- The part of `ReadException` behind the stack trace. -/
def readExceptionField
    (exception : ExceptionCode) (message : GoString) : ParcelM RemoteException :=
  if exception = ExceptionCode.serviceSpecific then do
    let serviceCode ← readInt32
    return ⟨exception, message, serviceCode⟩
  else if exception = ExceptionCode.parcelable then do
    skipExceptionHeader
    return ⟨exception, message, 0⟩
  else
    return ⟨exception, message, 0⟩

/-- The code of the header, behind an app-ops header if there is one. -/
def readExceptionCode : ParcelM ExceptionCode := do
  let code ← readInt32
  if code = ExceptionCode.hasNotedAppOpsReplyHeader then do
    skipExceptionHeader
    readInt32
  else
    return code

/-- The part of `ReadException` behind the exception code. -/
def readExceptionBody (exception : ExceptionCode) : ParcelM (Option RemoteException) :=
  if exception = ExceptionCode.hasReplyHeader then do
    skipExceptionHeader
    return none
  else if exception = ExceptionCode.transactionFailed then
    Action.fail (.plain .failedTxn)
  else if exception = ExceptionCode.none then
    return none
  else do
    let msg ← readNullableString
    skipStackTrace
    let remote ← readExceptionField exception (msg.getD [])
    return some remote

/--
The exception of a reply, absent on success.  Errors other than remote
exceptions are those of the action.
-/
def readException : ParcelM (Option RemoteException) := do
  let exception ← readExceptionCode
  readExceptionBody exception

end Parcel

/-! ## Images -/

namespace Image

/-- The field of an exception that depends on its code. -/
def exceptionField (remote : RemoteException) : Image :=
  if remote.code = ExceptionCode.serviceSpecific then
    int32 remote.serviceCode
  else if remote.code = ExceptionCode.parcelable then
    int32 0
  else
    empty

def exception (remote : RemoteException) : Image :=
  int32 remote.code ++ (nullableString (some remote.message) ++ (int32 0 ++ exceptionField remote))

end Image

open Image

namespace Writes

open Parcel

theorem exceptionField (remote : RemoteException) :
    Writes (writeExceptionField remote) (.exceptionField remote) := by
  rw [writeExceptionField, Image.exceptionField]
  split_ifs
  · exact int32 _
  · exact int32 _
  · exact done

theorem remoteException {remote : RemoteException} (fits : StringFits remote.message) :
    Writes (writeRemoteException (some remote)) (.exception remote) :=
  seq (int32 _) (seq (string fits) (seq (int32 _) (exceptionField remote)))

end Writes

/-- What is left of an exception when its header is read. -/
def RemoteException.received (remote : RemoteException) : RemoteException :=
  { remote with
    serviceCode :=
      if remote.code = ExceptionCode.serviceSpecific then remote.serviceCode
      else 0 }

namespace Parcel

/-- The codes that a header uses for other things than an exception. -/
def IsReserved (code : ExceptionCode) : Prop :=
  code = ExceptionCode.none ∨
    code = ExceptionCode.hasNotedAppOpsReplyHeader ∨
    code = ExceptionCode.hasReplyHeader ∨
    code = ExceptionCode.transactionFailed

variable {p : Parcel}

theorem remaining_nonneg (fits : p.Bounded) : 0 ≤ p.remaining := by
  have nonneg := fits.nonneg
  have held : p.len ≤ 9223372036854775807 := fits.held
  rw [remaining]
  split_ifs with ended below
  · exact le_refl 0
  · exact absurd nonneg (by omega)
  · rw [wrapInt_eq]
    omega

theorem zero_fits (fits : p.Bounded) : ¬ ((0 : Int32) < 0 ∨ (0 : Int32).toInt > p.remaining) := by
  have enough := remaining_nonneg fits
  rintro (below | large)
  · exact absurd below (by decide)
  · change 0 > p.remaining at large
    omega

/-- A stack trace of size zero is stepped over. -/
theorem skipStackTrace_zero {owned : Bool} : Reads owned skipStackTrace (.int32 0) () := by
  intro p owner window
  rw [skipStackTrace, bind_ok (get_run p),
    bind_ok (Reads.int32 0 p owner window), if_neg (zero_fits window.bounded), if_neg (by decide)]
  rfl

/-- A header of size zero leaves the cursor in front of its size. -/
theorem skipExceptionHeader_zero (window : p.Window (.int32 0)) :
    skipExceptionHeader p = .ok () p := by
  have bounded := window.bounded
  have nonneg := bounded.nonneg
  have inside := bounded.inside
  have held : p.len ≤ 9223372036854775807 := bounded.held
  have start : wrapInt (p.pos + (0 : Int32).toInt) = p.pos := by
    change wrapInt (p.pos + 0) = p.pos
    rw [wrapInt_eq, add_zero]
  have moved : setPosition p.pos (p.advance (int32 0).size) = .ok () p := by
    have out : ¬ (p.pos < 0 ∨ p.pos > (p.advance (int32 0).size).len) := by
      change ¬ (p.pos < 0 ∨ p.pos > p.len)
      omega
    rw [setPosition, if_neg out]
    rfl
  rw [skipExceptionHeader, bind_ok (get_run p),
    bind_ok (Reads.int32 0 p rfl window), if_neg (zero_fits bounded), start, moved]

/-- How many bytes of an exception its reader steps over. -/
def consumed (remote : RemoteException) : Nat :=
  if remote.code = ExceptionCode.parcelable then
    (exception remote).size - 4
  else
    (exception remote).size

variable {remote : RemoteException}

theorem readExceptionField_written (window : p.Window (.exceptionField remote)) :
    readExceptionField remote.code remote.message p =
      .ok (remote.received)
        (p.advance
          (if remote.code = .parcelable then 0
            else (exceptionField remote).size)) := by
  rw [exceptionField] at window ⊢
  rw [readExceptionField]
  by_cases service : remote.code = .serviceSpecific
  · have other : remote.code ≠ .parcelable := by
      rw [service]
      decide
    rw [if_pos service] at window
    rw [if_pos service, if_neg other, if_pos service,
      bind_ok (Reads.int32 remote.serviceCode p rfl window)]
    simp only [RemoteException.received, if_pos service]
    rfl
  · rw [if_neg service] at window
    rw [if_neg service, if_neg service]
    by_cases parcelable : remote.code = .parcelable
    · rw [if_pos parcelable] at window
      rw [if_pos parcelable, if_pos parcelable,
        bind_ok (skipExceptionHeader_zero window), advance_zero]
      simp only [RemoteException.received, if_neg service]
      rfl
    · rw [if_neg parcelable, if_neg parcelable, if_neg parcelable, size_empty, advance_zero]
      simp only [RemoteException.received, if_neg service]
      rfl

/-- Reading a written exception. -/
theorem readException_written
    (lawful : ¬ IsReserved remote.code) (fits : StringFits remote.message)
    (window : p.Window (.exception remote)) :
    readException p = .ok (some (remote.received)) (p.advance (consumed remote)) := by
  rw [IsReserved, not_or, not_or, not_or] at lawful
  obtain ⟨isException, notNoted, notReply, notFailed⟩ := lawful
  have codeRead := Reads.int32 remote.code p rfl window.left
  have afterCode := window.right
  have message : ∀ s, some remote.message = some s → StringFits s := by
    rintro s ⟨⟩
    exact fits
  have messageRead := Reads.nullableString message _ rfl afterCode.left
  have afterMessage := afterCode.right
  have traceRead := skipStackTrace_zero _ rfl afterMessage.left
  have fieldRead := readExceptionField_written afterMessage.right
  have coded : readExceptionCode p = .ok remote.code (p.advance (int32 remote.code).size) := by
    rw [readExceptionCode, bind_ok codeRead, if_neg notNoted]
    rfl
  rw [readException, bind_ok coded, readExceptionBody, if_neg notReply, if_neg notFailed,
    if_neg isException, bind_ok messageRead, bind_ok traceRead, Option.getD_some,
    bind_ok fieldRead, pure_run]
  simp only [advance_advance]
  congr 2
  rw [consumed, exception]
  simp only [size_append]
  split_ifs with parcelable
  · have field : (exceptionField remote).size = 4 := by
      have other : remote.code ≠ .serviceSpecific := by
        rw [parcelable]
        decide
      rw [exceptionField, if_neg other, if_pos parcelable, size_int32]
    omega
  · omega

/-! ## The round trip -/

/-- The exception that `TryWriteException` finds in an error. -/
def Carries (err : ErrorTree) (remote : RemoteException) : Prop :=
  err.asRemote = some (some remote) ∨
    err.asRemote = none ∧
      ∃ failure, err.asServiceSpecific = some (some failure) ∧ remote = serviceException failure

theorem tryWriteException_of_carries {err : ErrorTree} (has : Carries err remote) :
    tryWriteException err =
      (do
        writeRemoteException (some remote)
        return true) := by
  rcases has with found | ⟨absent, failure, found, rfl⟩
  · rw [tryWriteException, found]
  · rw [tryWriteException, absent, found]

/--
The exception of an error and a payload behind it are written, and reading the
header again gives the exception and leaves the cursor at the payload.
-/
def RoundTrips
    (p : Parcel) (err : ErrorTree) (remote : RemoteException)
    (payload : ParcelM Unit) : Prop :=
  ∃ written complete received,
    tryWriteException err p = .ok true written ∧
      payload written = .ok () complete ∧
      readException { complete with pos := p.pos } =
        .ok (some received) { complete with pos := written.pos } ∧
      received.code = remote.code ∧
      received.message = remote.message ∧
      (remote.code = ExceptionCode.serviceSpecific → received.serviceCode = remote.serviceCode)

/-- The written exception lies where the parcel ended. -/
theorem window_of_exception
    (opened : p.Open) {image : Image}
    (fits : p.len + (exception remote).size + image.size ≤ maxInt) :
    ({ (p.push (.exception remote)).push image with
        pos := p.pos } : Parcel).Window (.exception remote) where
  layout := ⟨p.buf, image.bytes, rfl, by rw [opened.atEnd]; rfl⟩
  held := by
    change ((p.push (.exception remote)).push image).len ≤ maxInt
    rwa [len_push, len_push]
  objects := by
    have plain : (exception remote).objects = [] := by
      rw [exception, exceptionField]
      split_ifs <;> rfl
    intro offset object found
    rw [Image.objectAt, plain] at found
    cases found

/--
Exactly these exceptions make the round trip: those that are not parcelable
exceptions, whose message is not too long for its length field, and that fit
into a parcel together with the payload.
-/
theorem exception_round_trip_iff
    {p : Parcel} (opened : p.Open) {err : ErrorTree}
    {remote : RemoteException} (carries : Carries err remote) (allowed : ¬ IsReserved remote.code)
    (valid : Utf8.valid remote.message) {payload : ParcelM Unit} {image : Image}
    (payloadWrites : Writes payload image) :
    RoundTrips p err remote payload ↔
      remote.code ≠ ExceptionCode.parcelable ∧
        (Utf16.encode (Utf8.runes remote.message)).length ≤ maxInt32 ∧
        p.len + (exception remote).size + image.size ≤ maxInt := by
  have whole :
      StringFits remote.message →
        p.len + (exception remote).size + image.size ≤ maxInt →
        tryWriteException err p = .ok true (p.push (exception remote)) ∧
          payload (p.push (exception remote)) =
            .ok () ((p.push (exception remote)).push image) := by
    intro fits held
    have firstHeld : p.len + (exception remote).size ≤ maxInt := by
      omega
    refine ⟨?_, ?_⟩
    · rw [tryWriteException_of_carries carries,
        bind_ok ((Writes.remoteException fits).pushes p opened firstHeld)]
      rfl
    · apply payloadWrites.pushes _ (opened.push firstHeld)
      rw [len_push]
      exact held
  constructor
  · rintro ⟨written, complete, received, wrote, payloadWrote, read, -⟩
    have handled := wrote
    rw [tryWriteException_of_carries carries] at handled
    obtain ⟨_, afterException, exceptionWrote, returned⟩ := of_bind_ok handled
    have short : (Utf16.encode (Utf8.runes remote.message)).length ≤ maxInt32 := by
      obtain ⟨_, afterCode, _, rest⟩ := of_bind_ok exceptionWrote
      obtain ⟨_, afterMessage, messageWrote, _⟩ := of_bind_ok rest
      exact short_of_writeString messageWrote
    have fits : StringFits remote.message := ⟨valid, short⟩
    have held : p.len + (exception remote).size + image.size ≤ maxInt := by
      by_contra large
      have both := Writes.seq (Writes.remoteException fits) payloadWrites
      obtain ⟨reached, overflow⟩ :=
        both.overflows p opened (by
          rw [size_append]
          push_cast
          omega)
      have same : afterException = written := by
        cases returned
        rfl
      rw [bind_ok exceptionWrote, same, payloadWrote] at overflow
      cases overflow
    refine ⟨?_, short, held⟩
    intro parcelable
    obtain ⟨wroteWhole, payloadWhole⟩ := whole fits held
    rw [wrote] at wroteWhole
    cases wroteWhole
    rw [payloadWrote] at payloadWhole
    cases payloadWhole
    rw [readException_written allowed fits (window_of_exception opened held)] at read
    injection read with _ reached
    have cursors := congrArg Parcel.pos reached
    have size : 4 ≤ (exception remote).size := by
      rw [exception, size_append, size_int32]
      omega
    simp only [advance, push, consumed, if_pos parcelable] at cursors
    omega
  · rintro ⟨notParcelable, short, held⟩
    have fits : StringFits remote.message := ⟨valid, short⟩
    obtain ⟨wrote, payloadWrote⟩ := whole fits held
    refine ⟨_, _, remote.received, wrote, payloadWrote, ?_, rfl, rfl, ?_⟩
    · rw [readException_written allowed fits
        (window_of_exception opened held), consumed, if_neg notParcelable]
      rfl
    · intro service
      exact if_pos service

/-- A service-specific error wrapped in another error. -/
def wrappedFailure : ErrorTree :=
  [.other (.plain .failedTxn), .serviceSpecific (some ⟨7, ['n', 'o']⟩)]

theorem wrappedFailure_round_trips :
    Carries wrappedFailure (serviceException ⟨7, ['n'.toUInt8, 'o'.toUInt8]⟩) ∧
      RoundTrips new wrappedFailure
        (serviceException ⟨7, ['n'.toUInt8, 'o'.toUInt8]⟩)
        (writeInt32 5) := by
  have carries : Carries wrappedFailure (serviceException ⟨7, ['n'.toUInt8, 'o'.toUInt8]⟩) :=
    Or.inr ⟨rfl, _, rfl, rfl⟩
  refine ⟨carries, ?_⟩
  refine
    (exception_round_trip_iff ⟨rfl, by decide, rfl⟩ carries
      (by rw [IsReserved]; decide) (by decide +kernel)
      (.int32 5)).mpr
      ⟨by decide, by decide +kernel, by decide +kernel⟩

/-- A parcelable exception without a message. -/
def parcelableException : RemoteException :=
  ⟨.parcelable, [], 0⟩

/--
A parcelable exception is read back with the cursor in front of its last
word, four bytes before the payload.
-/
theorem parcelable_exception_rewinds :
    ∃ written complete reached,
      tryWriteException [.remote (some parcelableException)] new = .ok true written ∧
        writeInt32 5 written = .ok () complete ∧
        readException { complete with pos := new.pos } = .ok (some parcelableException) reached ∧
        reached.pos + 4 = written.pos := by
  have opened : new.Open := ⟨rfl, by decide, rfl⟩
  have fits : StringFits parcelableException.message := ⟨by decide, by decide⟩
  have allowed : ¬ IsReserved parcelableException.code := by
    rw [IsReserved]
    decide
  have held : new.len + (exception parcelableException).size + (int32 5).size ≤ maxInt := by
    decide +kernel
  have firstHeld : new.len + (exception parcelableException).size ≤ maxInt := by
    decide +kernel
  have wrote := (Writes.remoteException fits).pushes new opened firstHeld
  refine
    ⟨_, _, _, bind_ok wrote,
      (Writes.int32 5).pushes _ (opened.push firstHeld) ?_,
      readException_written allowed fits (window_of_exception opened held),
      ?_⟩
  · rwa [len_push]
  · decide +kernel

end Parcel

end Libbinder
