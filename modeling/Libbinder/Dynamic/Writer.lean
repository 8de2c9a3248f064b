import Libbinder.Parcel.Patch
import Libbinder.Dynamic.Reader

/-!
# Writing dynamic values

The writer dispatches on the dynamic type of a Go `any`: first on a list of
exact types, then by reflection on its kind.  `GoValue` has one case for every
branch it can take; a value of any other type is `other`.  Values are finite
trees, so a pointer or a slice that contains itself is not one.

The entries of a map are listed in the order in which the runtime happens to
iterate over them.
-/

namespace Libbinder

open Go Parcel

/--
A Go value without nested dynamic values.  Floats are bit patterns and a nil
slice of an exact type is `none`; the last three are nil values that are only
recognised by reflection.
-/
inductive GoLeaf (Binder : Type) where
  | null
  | string (value : GoString)
  | stringPointer (value : Option GoString)
  | int (value : Int64)
  | int32 (value : Int32)
  | int16 (value : Int16)
  | int8 (value : Int8)
  | int64 (value : Int64)
  | uint16 (value : UInt16)
  | bool (value : Bool)
  | float32 (bits : UInt32)
  | float64 (bits : UInt64)
  | bytes (values : Option (List UInt8))
  | strings (values : Option (List GoString))
  | int32s (values : Option (List Int32))
  | int64s (values : Option (List Int64))
  | int16s (values : Option (List Int16))
  | uint16s (values : Option (List UInt16))
  | float32s (values : Option (List UInt32))
  | float64s (values : Option (List UInt64))
  | binder (value : Binder)
  | namedBytes (values : List UInt8)
  | nilMap
  | nilSlice
  | nilPointer

/-- A Go value of type `any`. -/
inductive GoValue (Binder : Type) where
  | leaf (value : GoLeaf Binder)
  | nilAnyMap
  | anyMap (entries : List (GoValue Binder × GoValue Binder))
  | map (entries : List (GoValue Binder × GoValue Binder))
  | slice (values : List (GoValue Binder))
  | array (values : List (GoValue Binder))
  | pointer (target : GoValue Binder)
  | other (typeName : String)

/-! ## Helpers -/

/-- The check and the count in front of the loops of the writers. -/
def writeCounted (what : String) (size : Nat) (loop : ParcelM Unit) : ParcelM Unit :=
  if size > maxInt32 then
    Action.fail (.badParcelable s!"{what} too large: {size}")
  else do
    writeInt32 (.ofInt size)
    loop

def dynamicValueLengthPrefixed : ValueTag → Bool
  | .map | .parcelable | .list => true
  | .leaf _ => false

def writeDynamicTagged (tag : ValueTag) (body : ParcelM Unit) : ParcelM Unit := do
  writeInt32 tag.code
  if dynamicValueLengthPrefixed tag then
    writeSized (fun _ bodyStart => bodyStart) body
  else
    body

def writeStringArray (values : Option (List GoString)) : ParcelM Unit :=
  writeSlice values writeString

def writeInt32Array (values : Option (List Int32)) : ParcelM Unit :=
  writeSlice values writeInt32

def writeInt64Array (values : Option (List Int64)) : ParcelM Unit :=
  writeSlice values writeInt64

def writeInt16Array (values : Option (List Int16)) : ParcelM Unit :=
  writeSlice values fun value => writeInt32 value.toInt32

def writeUint16Array (values : Option (List UInt16)) : ParcelM Unit :=
  writeSlice values fun value => writeInt32 value.toUInt32.toInt32

def writeFloat32Array (values : Option (List UInt32)) : ParcelM Unit :=
  writeSlice values writeFloat32

def writeFloat64Array (values : Option (List UInt64)) : ParcelM Unit :=
  writeSlice values writeFloat64

/-! ## The writer -/

section Writer

variable {Binder : Type} (writeBinder : Binder → ParcelM Unit)

/-- The null value. -/
def writeNull : ParcelM Unit :=
  writeInt32 (ValueTag.leaf .null).code

/-- A tag in front of a payload without nested values. -/
def writeLeafTagged (tag : LeafTag) (body : ParcelM Unit) : ParcelM Unit :=
  writeDynamicTagged (.leaf tag) body

/-- The cases of the writer without recursion. -/
def writeLeaf : GoLeaf Binder → ParcelM Unit
  | .null => writeNull
  | .string value => writeLeafTagged .string (writeString value)
  | .stringPointer none => writeNull
  | .stringPointer (some value) => writeLeafTagged .string (writeString value)
  | .int value =>
    if value ≥ -2147483648 ∧ value ≤ 2147483647 then
      writeLeafTagged .integer (writeInt32 value.toInt32)
    else
      writeLeafTagged .long (writeInt64 value)
  | .int32 value => writeLeafTagged .integer (writeInt32 value)
  | .int16 value => writeLeafTagged .short (writeInt32 value.toInt32)
  | .int8 value => writeLeafTagged .byte (writeInt32 value.toInt32)
  | .int64 value => writeLeafTagged .long (writeInt64 value)
  | .uint16 value => writeLeafTagged .char (writeInt32 value.toUInt32.toInt32)
  | .bool value => writeLeafTagged .boolean (writeBool value)
  | .float32 bits => writeLeafTagged .float (writeFloat32 bits)
  | .float64 bits => writeLeafTagged .double (writeFloat64 bits)
  | .bytes values => writeLeafTagged .byteArray (writeBytes values)
  | .strings values => writeLeafTagged .stringArray (writeStringArray values)
  | .int32s values => writeLeafTagged .intArray (writeInt32Array values)
  | .int64s values => writeLeafTagged .longArray (writeInt64Array values)
  | .int16s values => writeLeafTagged .shortArray (writeInt16Array values)
  | .uint16s values => writeLeafTagged .charArray (writeUint16Array values)
  | .float32s values => writeLeafTagged .floatArray (writeFloat32Array values)
  | .float64s values => writeLeafTagged .doubleArray (writeFloat64Array values)
  | .binder value => writeLeafTagged .iBinder (writeBinder value)
  | .namedBytes values => writeLeafTagged .byteArray (writeBytes (some values))
  | .nilMap | .nilSlice | .nilPointer => writeNull

mutual

def writeDynamicValue : GoValue Binder → ParcelM Unit
  | .leaf value => writeLeaf writeBinder value
  | .nilAnyMap => writeDynamicTagged .map (writeInt32 (-1))
  | .anyMap entries =>
    writeDynamicTagged .map (writeCounted "map" entries.length (writeEntries entries))
  | .map entries =>
    writeDynamicTagged .map (writeCounted "map" entries.length (writeEntries entries))
  | .slice values =>
    writeDynamicTagged .list (writeCounted "list" values.length (writeElements values))
  | .array values =>
    writeDynamicTagged .list (writeCounted "list" values.length (writeElements values))
  | .pointer target => writeDynamicValue target
  | .other typeName => Action.fail (.unsupported s!"unsupported dynamic value type {typeName}")

/-- The loop over the elements of a slice or an array. -/
def writeElements : List (GoValue Binder) → ParcelM Unit
  | [] => return ()
  | value :: rest => do
    writeDynamicValue value
    writeElements rest

/-- The loop over the entries of a map. -/
def writeEntries : List (GoValue Binder × GoValue Binder) → ParcelM Unit
  | [] => return ()
  | (key, value) :: rest => do
    writeDynamicValue key
    writeDynamicValue value
    writeEntries rest

end

theorem writeElements_eq (values : List (GoValue Binder)) :
    writeElements writeBinder values = values.forM (writeDynamicValue writeBinder) := by
  induction values with
  | nil => rfl
  | cons value rest ih =>
    rw [writeElements, ih]
    rfl

theorem writeEntries_eq (entries : List (GoValue Binder × GoValue Binder)) :
    writeEntries writeBinder entries =
      entries.forM (fun entry => do
        writeDynamicValue writeBinder entry.1
        writeDynamicValue writeBinder entry.2) := by
  induction entries with
  | nil => rfl
  | cons entry rest ih =>
    rw [writeEntries, ih, List.forM_eq_forM, List.forM_cons, bind_assoc]

end Writer

end Libbinder
