import Libbinder.Status.Exception

/-!
# Errors in reply frames and in recordings

An error of a handler is captured into a frame of the RPC transport, or into a
record of the transaction recorder, and replayed on the other side.  Both try
the classes of the public error model in the same order and keep the first one
that matches.

The class of an error is what `errors.Is` and `errors.As` can tell of it.  It
survives exactly when the error has one class only and the encoders carry that
class in full.
-/

namespace Libbinder

open Go

/-! ## Error values -/

/-- The bytes of a text. -/
def goText (text : String) : GoString :=
  text.toUTF8.toList

/-- The transport status codes that stand for a sentinel. -/
def Sentinel.statusCode : Sentinel → Option Int32
  | .deadObject => some (-32)
  | .failedTxn => some (-2147483646)
  | .badType => some (-2147483647)
  | .permissionDenied => some (-1)
  | .unknownTransaction => some (-74)
  | _ => none

/-- An error that wraps no other one. -/
inductive ErrorLeaf where
  | sentinel (reason : Sentinel)
  | status (code : Int32)
  | remote (exception : RemoteException)
  | serviceSpecific (failure : ServiceSpecificError)
  | text (message : GoString)
deriving DecidableEq, Repr

/--
An error value.  A wrapping error has a text of its own and wraps one error or
several, as `fmt.Errorf` with `%w` and `errors.Join` do.
-/
inductive GoError where
  | leaf (error : ErrorLeaf)
  | wrap (message : GoString) (inner : List GoError)

namespace ErrorLeaf

/-- Whether the leaf is the sentinel, or its method `Is` says so. -/
def is : ErrorLeaf → Sentinel → Bool
  | .sentinel reason, target => reason = target
  | .status code, target => target.statusCode = some code
  | _, _ => false

/-- The text after the code of an exception. -/
def described (text : String) (message : GoString) : GoString :=
  if message = [] then goText text else goText text ++ goText ": " ++ message

/-- The method `Error`. -/
def errorText : ErrorLeaf → GoString
  | .sentinel reason => goText reason.text
  | .status code => goText s!"binder: transport status {code.toInt}"
  | .remote exception =>
    described s!"binder: remote exception {exception.code.toInt}" exception.message
  | .serviceSpecific failure =>
    described s!"binder: service-specific error {failure.code.toInt}" failure.message
  | .text message => message

end ErrorLeaf

namespace GoError

mutual

/-- The leaves of an error in the order in which `errors.As` visits them. -/
def visited : GoError → List ErrorLeaf
  | .leaf error => [error]
  | .wrap _ inner => visitedAll inner

/-- The leaves of several errors. -/
def visitedAll : List GoError → List ErrorLeaf
  | [] => []
  | error :: rest => visited error ++ visitedAll rest

end

/-- The method `Error`. -/
def errorText : GoError → GoString
  | .leaf error => error.errorText
  | .wrap message _ => message

/-- `errors.Is` for a sentinel. -/
def is (err : GoError) (target : Sentinel) : Bool :=
  err.visited.any fun error => error.is target

/-- `errors.As` for `*StatusCodeError`. -/
def asStatus (err : GoError) : Option Int32 :=
  err.visited.findSome? fun error =>
    match error with
    | .status code => some code
    | _ => none

/-- `errors.As` for `*RemoteException`. -/
def asRemote (err : GoError) : Option RemoteException :=
  err.visited.findSome? fun error =>
    match error with
    | .remote exception => some exception
    | _ => none

/-- `errors.As` for `*ServiceSpecificError`. -/
def asServiceSpecific (err : GoError) : Option ServiceSpecificError :=
  err.visited.findSome? fun error =>
    match error with
    | .serviceSpecific failure => some failure
    | _ => none

end GoError

open GoError

/-! ## Capture and replay -/

/-- The string `Kind` of a captured error. -/
inductive ErrorKind where
  /-- `status_code` -/
  | statusCode
  /-- `remote_exception` -/
  | remoteException
  /-- `err_dead_object` and so on, one for each sentinel of the switch -/
  | sentinel (reason : Sentinel)
  /-- `text` -/
  | text
deriving DecidableEq, Repr

/-- The fields that a frame and a record have for an error. -/
structure CapturedError where
  kind : ErrorKind
  message : GoString := []
  statusCode : Int32 := 0
  exceptionCode : ExceptionCode := 0
deriving DecidableEq, Repr

/-- The sentinels of the switch, in its order. -/
def capturedSentinels : List Sentinel :=
  [.deadObject, .failedTxn, .badParcelable, .permissionDenied, .unsupported,
    .noService, .closed, .unknownTransaction]

/-- The common body of the two capture functions. -/
def captureError (err : GoError) : CapturedError :=
  match err.asStatus with
  | some code => { kind := .statusCode, statusCode := code }
  | none =>
    match err.asRemote with
    | some remote =>
      { kind := .remoteException, message := remote.message, exceptionCode := remote.code }
    | none =>
      match capturedSentinels.find? err.is with
      | some reason => { kind := .sentinel reason }
      | none => { kind := .text, message := err.errorText }

/-- The common body of the two replay functions. -/
def replayError (captured : CapturedError) : GoError :=
  match captured.kind with
  | .statusCode => .leaf (.status captured.statusCode)
  | .remoteException =>
    .leaf (.remote
      { code := captured.exceptionCode, message := captured.message, serviceCode := 0 })
  | .sentinel reason => .leaf (.sentinel reason)
  | .text => .leaf (.text captured.message)

namespace Rpc

def captureRPCFrameError (err : GoError) : CapturedError :=
  captureError err

/-- The method `replay` of `rpcFrameError`. -/
def replayRPCFrameError (captured : CapturedError) : GoError :=
  replayError captured

end Rpc

def captureRecordedError (err : GoError) : CapturedError :=
  captureError err

/-- The method `replay` of `RecordedError`. -/
def replayRecordedError (captured : CapturedError) : GoError :=
  replayError captured

/-! ## Classes -/

/-- The sentinels of the public error model. -/
def Sentinel.public (reason : Sentinel) : Prop :=
  reason ≠ .unexpectedEOF

instance (reason : Sentinel) : Decidable reason.public :=
  inferInstanceAs (Decidable (reason ≠ .unexpectedEOF))

theorem Sentinel.public_iff (reason : Sentinel) :
    reason.public ↔ reason ∈ capturedSentinels ∨ reason = .badType := by
  cases reason <;> simp [Sentinel.public, capturedSentinels]

/-- `errors.Is` and `errors.As` say the same of both errors. -/
structure SameClass (left right : GoError) : Prop where
  is : ∀ reason : Sentinel, reason.public → left.is reason = right.is reason
  status : left.asStatus = right.asStatus
  remote : left.asRemote = right.asRemote
  serviceSpecific : left.asServiceSpecific = right.asServiceSpecific

/--
The error has one class only, which capture keeps in full: a status code and
no other sentinel than those it stands for, a remote exception without a
service code, or at most one sentinel, which is not the one for a bad type.
-/
def Carried (err : GoError) : Prop :=
  err.asServiceSpecific = none ∧
    match err.asStatus, err.asRemote with
    | some code, remote =>
      remote = none ∧
        ∀ reason : Sentinel, reason.public → err.is reason → reason.statusCode = some code
    | none, some remote =>
      remote.serviceCode = 0 ∧ ∀ reason : Sentinel, reason.public → err.is reason = false
    | none, none =>
      err.is .badType = false ∧
        ∀ one other : Sentinel, one.public → other.public → err.is one → err.is other → one = other

namespace GoError

variable {err : GoError}

/-- A status code answers for the sentinels it stands for. -/
theorem is_of_asStatus
    {code : Int32} (found : err.asStatus = some code) {reason : Sentinel}
    (stands : reason.statusCode = some code) : err.is reason := by
  obtain ⟨error, mem, isStatus⟩ := List.exists_of_findSome?_eq_some found
  apply List.any_eq_true.mpr
  refine ⟨error, mem, ?_⟩
  cases error with
  | status other =>
    cases isStatus
    exact decide_eq_true stands
  | sentinel | remote | serviceSpecific | text => cases isStatus

end GoError

section Replay

variable {err : GoError}

theorem sameClass_status_iff {code : Int32} (found : err.asStatus = some code) :
    SameClass (.leaf (.status code)) err ↔ Carried err := by
  have answers :
      ∀ reason : Sentinel,
        (leaf (.status code)).is reason = decide (reason.statusCode = some code) := by
    intro reason
    simp [is, visited, ErrorLeaf.is]
  rw [Carried, found]
  constructor
  · intro same
    refine ⟨same.serviceSpecific.symm, same.remote.symm, ?_⟩
    intro reason isPublic isReason
    have agrees := same.is reason isPublic
    rw [isReason, answers] at agrees
    exact of_decide_eq_true agrees
  · rintro ⟨noService, noRemote, others⟩
    refine ⟨?_, found.symm, noRemote.symm, noService.symm⟩
    intro reason isPublic
    rw [answers, Bool.eq_iff_iff, decide_eq_true_iff]
    exact ⟨is_of_asStatus found, others reason isPublic⟩

section

variable (noStatus : err.asStatus = none)

include noStatus

theorem sameClass_remote_iff
    {exception : RemoteException} (found : err.asRemote = some exception) :
    SameClass (.leaf (.remote { exception with serviceCode := 0 })) err ↔ Carried err := by
  rw [Carried, noStatus, found]
  constructor
  · intro same
    have whole := same.remote
    rw [found] at whole
    refine ⟨same.serviceSpecific.symm, ?_, ?_⟩
    · exact (congrArg RemoteException.serviceCode (Option.some.inj whole)).symm
    · intro reason isPublic
      exact (same.is reason isPublic).symm
  · rintro ⟨noService, noCode, others⟩
    refine ⟨?_, noStatus.symm, ?_, noService.symm⟩
    · intro reason isPublic
      exact (others reason isPublic).symm
    · rw [found, ← noCode]
      rfl

theorem sameClass_sentinel_iff
    {reason : Sentinel} (noRemote : err.asRemote = none)
    (found : capturedSentinels.find? err.is = some reason) :
    SameClass (.leaf (.sentinel reason)) err ↔ Carried err := by
  have isReason : err.is reason := List.find?_some found
  have captured : reason ∈ capturedSentinels := List.mem_of_find?_eq_some found
  have answers :
      ∀ other : Sentinel,
        (leaf (.sentinel reason)).is other = decide (reason = other) := by
    intro other
    simp [is, visited, ErrorLeaf.is]
  rw [Carried, noStatus, noRemote]
  constructor
  · intro same
    have unique : ∀ other : Sentinel, other.public → err.is other → reason = other := by
      intro other isPublic isOther
      have agrees := same.is other isPublic
      rw [isOther, answers] at agrees
      exact of_decide_eq_true agrees
    refine ⟨same.serviceSpecific.symm, ?_, ?_⟩
    · by_contra isBadType
      rw [Bool.not_eq_false] at isBadType
      cases unique .badType (by decide) isBadType
      simp [capturedSentinels] at captured
    · intro one other onePublic otherPublic isOne isOther
      exact (unique one onePublic isOne).symm.trans (unique other otherPublic isOther)
  · rintro ⟨noService, _, unique⟩
    refine ⟨?_, noStatus.symm, noRemote.symm, noService.symm⟩
    intro other isPublic
    have reasonPublic : reason.public := (Sentinel.public_iff reason).mpr (.inl captured)
    rw [answers, Bool.eq_iff_iff, decide_eq_true_iff]
    constructor
    · rintro rfl
      exact isReason
    · exact unique reason other reasonPublic isPublic isReason

theorem sameClass_text_iff
    {message : GoString} (noRemote : err.asRemote = none)
    (missed : capturedSentinels.find? err.is = none) :
    SameClass (.leaf (.text message)) err ↔ Carried err := by
  rw [List.find?_eq_none] at missed
  rw [Carried, noStatus, noRemote]
  constructor
  · intro same
    have none : ∀ reason : Sentinel, reason.public → err.is reason = false :=
      fun reason isPublic => (same.is reason isPublic).symm
    refine ⟨same.serviceSpecific.symm, none .badType (by decide), ?_⟩
    intro one other onePublic _ isOne
    rw [none one onePublic] at isOne
    cases isOne
  · rintro ⟨noService, noBadType, _⟩
    refine ⟨?_, noStatus.symm, noRemote.symm, noService.symm⟩
    intro reason isPublic
    rcases (Sentinel.public_iff reason).mp isPublic with captured | rfl
    · have notReason := missed reason captured
      rw [Bool.not_eq_true] at notReason
      exact notReason.symm
    · exact noBadType.symm

end

/-- What is replayed has the class of the error exactly if it was carried. -/
theorem sameClass_replayError_iff (err : GoError) :
    SameClass (replayError (captureError err)) err ↔ Carried err := by
  unfold captureError
  cases status : err.asStatus with
  | some code => exact sameClass_status_iff status
  | none =>
    cases remote : err.asRemote with
    | some exception => exact sameClass_remote_iff status remote
    | none =>
      cases found : capturedSentinels.find? err.is with
      | some reason => exact sameClass_sentinel_iff status remote found
      | none => exact sameClass_text_iff status remote found

end Replay

/--
An error replayed from a frame has the class of the captured one exactly when
that class is carried, and the recorder replays the same error.
-/
theorem errors_survive_iff (err : GoError) :
    (SameClass (Rpc.replayRPCFrameError (Rpc.captureRPCFrameError err)) err ↔ Carried err) ∧
      replayRecordedError (captureRecordedError err) =
        Rpc.replayRPCFrameError (Rpc.captureRPCFrameError err) :=
  ⟨sameClass_replayError_iff err, rfl⟩

/-- A bad type is replayed as a text. -/
theorem badType_loses_class :
    (Rpc.replayRPCFrameError
          (Rpc.captureRPCFrameError (.leaf (.sentinel .badType)))).is
        .badType = false ∧
      ¬ SameClass
        (Rpc.replayRPCFrameError (Rpc.captureRPCFrameError (.leaf (.sentinel .badType))))
        (.leaf (.sentinel .badType)) := by
  constructor
  · rfl
  · intro same
    have agrees := same.is .badType (by decide)
    cases agrees

end Libbinder
