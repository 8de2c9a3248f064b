import Libbinder.Parcel.Objects

/-!
# Objects of a received transaction

The driver hands over a payload and the offsets of the flat objects inside it.
A local binder is decoded like a remote one: its `Handle` is then the low half
of the node pointer.  The payload and the offset area are given as bytes, so
the nil-pointer checks of the source are left out.
-/

namespace Libbinder.Kernel

open Go

def binderFlatObjectSize : Int :=
  24

def binderTypeBinder : UInt32 :=
  0x73622a85

def binderTypeWeakBinder : UInt32 :=
  0x77622a85

def binderTypeHandle : UInt32 :=
  0x73682a85

def binderTypeWeakHandle : UInt32 :=
  0x77682a85

def binderTypeFD : UInt32 :=
  0x66642a85

/-- `binary.LittleEndian` at a position the caller has checked. -/
def littleEndianAt (width : Nat) (src : List UInt8) (position : Nat) : Nat :=
  leNat ((src.drop position).take width)

/-- The kind of a flat object type, local and remote binders alike. -/
def objectKind (typ : UInt32) : Except String ObjectKind :=
  if typ = binderTypeBinder then .ok .strongBinder
  else if typ = binderTypeWeakBinder then .ok .weakBinder
  else if typ = binderTypeHandle then .ok .strongBinder
  else if typ = binderTypeWeakHandle then .ok .weakBinder
  else if typ = binderTypeFD then .ok .fileDescriptor
  else
    .error ("kernel: parcel object transport is not implemented yet: " ++
      "unsupported binder object type " ++ Parcel.hexText typ.toNat)

def parseTransactionObject (payload : List UInt8) (offset : UInt64) : Except String ParcelObject :=
  let start := wrapInt offset.toNat
  if UInt64.ofInt start ≠ offset then
    .error s!"kernel: reply object offset out of range: {offset.toNat}"
  else if start < 0 ∨ start > wrapInt (payload.length - binderFlatObjectSize) then
    .error s!"kernel: reply object offset {offset.toNat} out of bounds"
  else
    let typ := UInt32.ofNat (littleEndianAt 4 payload start.toNat)
    let handle := UInt32.ofNat (littleEndianAt 4 payload (start.toNat + 8))
    match objectKind typ with
    | .error text => .error text
    | .ok kind =>
      .ok
        { kind := kind
          offset := start
          length := binderFlatObjectSize
          handle := handle
          stability := stabilityUndeclared }

/-- The loop of `parseTransactionObjects` over the remaining offsets. -/
def parseObjectsFrom (payload offsets : List UInt8) : Nat → Nat → Except String (List ParcelObject)
  | 0, _ => .ok []
  | remaining + 1, position => do
    let offset := UInt64.ofNat (littleEndianAt 8 offsets position)
    let object ← parseTransactionObject payload offset
    let rest ← parseObjectsFrom payload offsets remaining (position + 8)
    .ok (object :: rest)

def parseTransactionObjects (payload offsets : List UInt8) : Except String (List ParcelObject) :=
  if offsets.length % 8 ≠ 0 then
    .error s!"kernel: invalid transaction offsets size {offsets.length}"
  else
    parseObjectsFrom payload offsets (offsets.length / 8) 0

end Libbinder.Kernel
