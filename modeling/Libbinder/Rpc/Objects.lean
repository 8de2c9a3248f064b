import Libbinder.Rpc.Identity
import Libbinder.Status.Capture

/-!
# Binders in the parcels of a session

A parcel that leaves an end carries the numbers of its binders and nothing
else.  `prepareRPCParcel` checks every object before the parcel is sent, and
`resolveRPCObject` turns a number back into a binder of the end that reads it.
-/

namespace Libbinder

/-- An error built by `fmt.Errorf`, or the sentinel itself. -/
def BinderError.toGoError (error : BinderError) : GoError :=
  match error.detail with
  | none => .leaf (.sentinel error.sentinel)
  | some _ => .wrap (goText error.text) [.leaf (.sentinel error.sentinel)]

namespace Rpc

variable {H : Type}

theorem Role.other_other (role : Role) : role.other.other = role := by
  cases role <;> rfl

theorem Role.eq_or_eq_other (role other : Role) : other = role ∨ other = role.other := by
  cases role <;> cases other <;> simp [Role.other]

theorem Role.other_ne (role : Role) : role.other ≠ role := by
  cases role <;> simp [Role.other]

/-- A binder of an RPC session, as one end holds it. -/
inductive BinderRef where
  /-- `rpcLocalBinder` of this end -/
  | localBinder (handle : UInt32) (stability : Int32)
  /-- `rpcRemoteBinder` of this end -/
  | remoteBinder (handle : UInt32)
deriving DecidableEq, Repr

namespace BinderRef

/-- The number `WriteBinderToParcelWithStability` writes. -/
def handle : BinderRef → UInt32
  | .localBinder handle _ => handle
  | .remoteBinder handle => handle

/-- The end that exports the binder, and its number there. -/
def denotes (role : Role) : BinderRef → Role × UInt32
  | .localBinder handle _ => (role, handle)
  | .remoteBinder handle => (role.other, handle)

end BinderRef

/-- `api.DefaultLocalStability` stands for an undeclared level. -/
def declaredStability (level : Int32) : Int32 :=
  if level ≠ stabilityUndeclared then level else stabilitySystem

namespace End

/-- `api.BinderStability`. -/
def binderStability (e : End H) : BinderRef → Int32
  | .localBinder _ stability => declaredStability stability
  | .remoteBinder handle => declaredStability ((e.imports handle).getD stabilityUndeclared)

/-- What the switch of `prepareRPCParcel` says about one object. -/
def checkObject (e : End H) (object : ParcelObject) : Except BinderError Unit :=
  match object.kind with
  | .fileDescriptor => .error (.unsupported "file descriptors are not supported over RPC")
  | .strongBinder =>
    if object.handle = 0 then
      .error (.unsupported "kernel-local binder objects are not supported over RPC")
    else if (e.lookupExport object.handle).isSome then
      .ok ()
    else if (e.imports object.handle).isSome then
      .ok ()
    else
      .error (.unsupported s!"binder handle {object.handle} does not belong to this RPC session")
  | _ => .ok ()

def prepareRPCParcel (e : End H) : List ParcelObject → Except BinderError Unit
  | [] => .ok ()
  | object :: rest => do
    e.checkObject object
    e.prepareRPCParcel rest

/-- The binder for a number, and the end with the proxy it may have made. -/
def resolveRPCObject
    (e : End H) (handle : UInt32) (stability : Int32) : BinderRef × End H :=
  match e.resolve handle with
  | .localBinder handle target => (.localBinder handle target.stability, e)
  | .remoteBinder handle => (.remoteBinder handle, e.remoteBinder handle stability)

/-! ## What the check lets pass -/

variable {e : End H}

theorem checkObject_strong_ok_iff {object : ParcelObject} (strong : object.kind = .strongBinder) :
    e.checkObject object = .ok () ↔ e.sendable object.handle := by
  simp only [checkObject, strong, sendable]
  by_cases zero : object.handle = 0
  · simp [zero]
  · by_cases owned : (e.lookupExport object.handle).isSome
    · simp [zero, owned]
    · by_cases known : (e.imports object.handle).isSome
      · simp [zero, owned, known]
      · simp [zero, owned, known]

/-- A parcel is sent exactly when every object passes. -/
theorem prepareRPCParcel_ok_iff {objects : List ParcelObject} :
    e.prepareRPCParcel objects = .ok () ↔ ∀ object ∈ objects, e.checkObject object = .ok () := by
  induction objects with
  | nil => simp [prepareRPCParcel]
  | cons object rest ih =>
    rw [List.forall_mem_cons, ← ih]
    simp only [prepareRPCParcel]
    cases checked : e.checkObject object with
    | error err =>
      constructor
      · rintro ⟨⟩
      · rintro ⟨passed, -⟩
        cases passed
    | ok done =>
      constructor
      · intro passed
        exact ⟨rfl, passed⟩
      · rintro ⟨-, passed⟩
        exact passed

/-! ## What a number is read as -/

variable {handle : UInt32} {target : Export H}

theorem resolveRPCObject_of_some (level : Int32) (owned : e.exports handle = some target) :
    e.resolveRPCObject handle level = (.localBinder handle target.stability, e) := by
  rw [resolveRPCObject, resolve_of_some owned]

theorem resolveRPCObject_of_none (level : Int32) (absent : e.exports handle = none) :
    e.resolveRPCObject handle level = (.remoteBinder handle, e.remoteBinder handle level) := by
  rw [resolveRPCObject, resolve_of_none absent]

variable {manager : Export H} {role : Role} (inv : End.Inv manager role e)

include inv

/-- An exported number is of the space of the end that exports it. -/
theorem Inv.own_of_exported (owned : e.exports handle = some target) : OwnSpace role handle := by
  rcases (inv.table handle target).mp owned with live | ⟨rfl, rfl, -⟩
  · exact (inv.spaced _ live.1).2.2
  · decide

theorem Inv.ne_zero_of_exported (owned : e.exports handle = some target) : handle ≠ 0 := by
  rcases (inv.table handle target).mp owned with live | ⟨-, rfl, -⟩
  · have above := (inv.spaced _ live.1).1
    have start : 2 ≤ role.exportStart.toNat := by
      cases role <;> decide
    rintro rfl
    have zero : (0 : UInt32).toNat = 0 := rfl
    simp only at above
    omega
  · decide

/-- The two ends never export the same number. -/
theorem Inv.not_exported_by_other
    {other : End H} (otherInv : End.Inv manager role.other other)
    (owned : e.exports handle = some target) : other.exports handle = none := by
  have own := inv.own_of_exported owned
  cases found : other.exports handle with
  | none => rfl
  | some otherTarget =>
    exact absurd (otherInv.own_of_exported found) (not_other_own_of_own own)

end End

end Rpc

end Libbinder
