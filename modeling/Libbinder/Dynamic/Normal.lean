import Libbinder.Dynamic.Writer

/-!
# What dynamic values become

The image a Go value is written to, and the value that reading it back gives:
an `int` becomes an `int32` where it fits, pointers are followed, and slices,
arrays and maps that are not of an exact type become `[]any` and
`map[any]any`.

The conditions of the round trip are local: each is stated for one value and
asked of every value nested in the written one.
-/

namespace Libbinder

open Go List

/--
How the binders of the written values travel: `WriteStrongBinder` appends an
image, and reading that image resolves to a binder or to nil.
-/
structure BinderCodec (Binder : Type) {B : Type} (resolvers : Resolvers B)
    where
  write : Binder → ParcelM Unit
  image : Binder → Image
  resolved : Binder → Option B
  writes : ∀ binder, Writes (write binder) (image binder)
  reads :
    ∀ owned binder, Reads owned (Parcel.readStrongBinder resolvers) (image binder) (resolved binder)

namespace Image

/-- A tag in front of a payload. -/
def tagged (tag : ValueTag) (payload : Image) : Image :=
  int32 tag.code ++ payload

/-- A tag and a length in front of a body. -/
def framed (tag : ValueTag) (body : Image) : Image :=
  tagged tag (sized 0 body)

end Image

/-- The number of UTF-16 code units of a string. -/
def utf16Length (value : GoString) : Nat :=
  (Utf16.encode (Utf8.runes value)).length

/-- A length or a count that an `int32` can hold. -/
def FitsInt32 (size : Nat) : Prop :=
  (size : Int) ≤ maxInt32

instance (size : Nat) : Decidable (FitsInt32 size) :=
  inferInstanceAs (Decidable ((size : Int) ≤ maxInt32))

/-! ## Leaves -/

namespace GoLeaf

variable {Binder B : Type} {resolvers : Resolvers B}
  (codec : BinderCodec Binder resolvers)

/-- The wire form of a value without nested values. -/
def image : GoLeaf Binder → Image
  | .null | .stringPointer none | .nilMap | .nilSlice | .nilPointer =>
    Image.int32 (ValueTag.leaf .null).code
  | .string value | .stringPointer (some value) =>
    .tagged (.leaf .string) (.nullableString (some value))
  | .int value =>
    if value ≥ -2147483648 ∧ value ≤ 2147483647 then
      .tagged (.leaf .integer) (.int32 value.toInt32)
    else
      .tagged (.leaf .long) (.int64 value)
  | .int32 value => .tagged (.leaf .integer) (.int32 value)
  | .int16 value => .tagged (.leaf .short) (.int32 value.toInt32)
  | .int8 value => .tagged (.leaf .byte) (.int32 value.toInt32)
  | .int64 value => .tagged (.leaf .long) (.int64 value)
  | .uint16 value => .tagged (.leaf .char) (.int32 value.toUInt32.toInt32)
  | .bool value => .tagged (.leaf .boolean) (.bool value)
  | .float32 bits => .tagged (.leaf .float) (.uint32 bits)
  | .float64 bits => .tagged (.leaf .double) (.uint64 bits)
  | .bytes values => .tagged (.leaf .byteArray) (.byteSlice values)
  | .strings values =>
    .tagged (.leaf .stringArray) (.slice (fun value => .nullableString (some value)) values)
  | .int32s values => .tagged (.leaf .intArray) (.slice .int32 values)
  | .int64s values => .tagged (.leaf .longArray) (.slice .int64 values)
  | .int16s values =>
    .tagged (.leaf .shortArray) (.slice (fun value => .int32 value.toInt32) values)
  | .uint16s values =>
    .tagged (.leaf .charArray) (.slice (fun value => .int32 value.toUInt32.toInt32) values)
  | .float32s values => .tagged (.leaf .floatArray) (.slice .uint32 values)
  | .float64s values => .tagged (.leaf .doubleArray) (.slice .uint64 values)
  | .binder value => .tagged (.leaf .iBinder) (codec.image value)
  | .namedBytes values => .tagged (.leaf .byteArray) (.byteSlice (some values))

/-- What reading the value back gives. -/
def normal : GoLeaf Binder → Leaf B
  | .null | .stringPointer none | .nilMap | .nilSlice | .nilPointer => .null
  | .string value | .stringPointer (some value) => .string value
  | .int value =>
    if value ≥ -2147483648 ∧ value ≤ 2147483647 then
      .integer value.toInt32
    else
      .long value
  | .int32 value => .integer value
  | .int16 value => .short value
  | .int8 value => .byte value
  | .int64 value => .long value
  | .uint16 value => .char value
  | .bool value => .boolean value
  | .float32 bits => .float bits
  | .float64 bits => .double bits
  | .bytes values => .byteArray values
  | .strings values => .stringArray values
  | .int32s values => .intArray values
  | .int64s values => .longArray values
  | .int16s values => .shortArray values
  | .uint16s values => .charArray values
  | .float32s values => .floatArray values
  | .float64s values => .doubleArray values
  | .binder value => (codec.resolved value).elim .null .binder
  | .namedBytes values => .byteArray (some values)

/-- The strings of the value are valid UTF-8. -/
def Valid : GoLeaf Binder → Prop
  | .string value | .stringPointer (some value) => Utf8.valid value
  | .strings (some values) => ∀ value ∈ values, Utf8.valid value
  | _ => True

/-- The lengths and counts of the value fit an `int32`. -/
def Fits : GoLeaf Binder → Prop
  | .string value | .stringPointer (some value) => FitsInt32 (utf16Length value)
  | .bytes (some values) | .namedBytes values => FitsInt32 values.length
  | .strings (some values) =>
    FitsInt32 values.length ∧ ∀ value ∈ values, FitsInt32 (utf16Length value)
  | .int32s (some values) | .int64s (some values) | .int16s (some values) | .uint16s (some values)
  | .float32s (some values) | .float64s (some values) => FitsInt32 values.length
  | _ => True

end GoLeaf

/-! ## Values -/

namespace GoValue

variable {Binder : Type}

/-- Induction over a value and all values nested in it. -/
@[elab_as_elim]
theorem nested_induction
    {P : GoValue Binder → Prop} (leaf : ∀ value, P (.leaf value)) (nilAnyMap : P .nilAnyMap)
    (anyMap : ∀ entries, (∀ entry ∈ entries, P entry.1 ∧ P entry.2) → P (.anyMap entries))
    (map : ∀ entries, (∀ entry ∈ entries, P entry.1 ∧ P entry.2) → P (.map entries))
    (slice : ∀ values, (∀ value ∈ values, P value) → P (.slice values))
    (array : ∀ values, (∀ value ∈ values, P value) → P (.array values))
    (pointer : ∀ target, P target → P (.pointer target)) (other : ∀ typeName, P (.other typeName))
    (value : GoValue Binder) : P value :=
  @GoValue.rec Binder P
    (fun entries => ∀ entry ∈ entries, P entry.1 ∧ P entry.2)
    (fun values => ∀ value ∈ values, P value)
    (fun entry => P entry.1 ∧ P entry.2)
    leaf nilAnyMap anyMap map slice array pointer other
    (by simp)
    (fun _ _ first rest => forall_mem_cons.mpr ⟨first, rest⟩)
    (by simp)
    (fun _ _ first rest => forall_mem_cons.mpr ⟨first, rest⟩)
    (fun _ _ first second => ⟨first, second⟩)
    value

mutual

/-- The value and every value nested in it. -/
def nodes : GoValue Binder → List (GoValue Binder)
  | .leaf value => [.leaf value]
  | .nilAnyMap => [.nilAnyMap]
  | .anyMap entries => .anyMap entries :: nodesOfEntries entries
  | .map entries => .map entries :: nodesOfEntries entries
  | .slice values => .slice values :: nodesOfAll values
  | .array values => .array values :: nodesOfAll values
  | .pointer target => .pointer target :: nodes target
  | .other typeName => [.other typeName]

def nodesOfAll : List (GoValue Binder) → List (GoValue Binder)
  | [] => []
  | value :: rest => nodes value ++ nodesOfAll rest

def nodesOfEntries : List (GoValue Binder × GoValue Binder) → List (GoValue Binder)
  | [] => []
  | (key, value) :: rest => nodes key ++ nodes value ++ nodesOfEntries rest

end

theorem mem_nodes_self (value : GoValue Binder) : value ∈ value.nodes := by
  cases value <;> simp [nodes]

section Forall

variable {P : GoValue Binder → Prop}

theorem forall_nodesOfAll {values : List (GoValue Binder)} :
    (∀ node ∈ nodesOfAll values, P node) ↔ ∀ value ∈ values, ∀ node ∈ value.nodes, P node := by
  induction values with
  | nil => simp [nodesOfAll]
  | cons head tail ih =>
    rw [nodesOfAll, forall_mem_append, forall_mem_cons, ih]

theorem forall_nodesOfEntries {entries : List (GoValue Binder × GoValue Binder)} :
    (∀ node ∈ nodesOfEntries entries, P node) ↔
      ∀ entry ∈ entries, (∀ node ∈ entry.1.nodes, P node) ∧ ∀ node ∈ entry.2.nodes, P node := by
  induction entries with
  | nil => simp [nodesOfEntries]
  | cons head tail ih =>
    rw [nodesOfEntries, forall_mem_append, forall_mem_append, forall_mem_cons, ih]

end Forall

variable {B : Type} {resolvers : Resolvers B}
  (codec : BinderCodec Binder resolvers)

mutual

/-- The wire form of a value. -/
def image : GoValue Binder → Image
  | .leaf value => value.image codec
  | .nilAnyMap => .framed .map (.int32 (-1))
  | .anyMap entries => .framed .map (.count entries.length ++ imageOfEntries entries)
  | .map entries => .framed .map (.count entries.length ++ imageOfEntries entries)
  | .slice values => .framed .list (.count values.length ++ imageOfAll values)
  | .array values => .framed .list (.count values.length ++ imageOfAll values)
  | .pointer target => image target
  | .other _ => .empty

def imageOfAll : List (GoValue Binder) → Image
  | [] => .empty
  | value :: rest => image value ++ imageOfAll rest

def imageOfEntries : List (GoValue Binder × GoValue Binder) → Image
  | [] => .empty
  | (key, value) :: rest => (image key ++ image value) ++ imageOfEntries rest

end

mutual

/-- What reading the value back gives. -/
def normal : GoValue Binder → DynamicValue B
  | .leaf value => .leaf (value.normal codec)
  | .nilAnyMap => .map none
  | .anyMap entries => .map (some (normalEntries entries))
  | .map entries => .map (some (normalEntries entries))
  | .slice values => .list (some (normalAll values))
  | .array values => .list (some (normalAll values))
  | .pointer target => normal target
  | .other _ => .leaf .null

def normalAll : List (GoValue Binder) → List (DynamicValue B)
  | [] => []
  | value :: rest => normal value :: normalAll rest

def normalEntries : List (GoValue Binder × GoValue Binder) → List (DynamicValue B × DynamicValue B)
  | [] => []
  | (key, value) :: rest => (normal key, normal value) :: normalEntries rest

end

variable (values : List (GoValue Binder))

theorem imageOfAll_eq : imageOfAll codec values = .concat (values.map (image codec)) := by
  induction values with
  | nil => rfl
  | cons value rest ih =>
    rw [imageOfAll, ih]
    rfl

variable (entries : List (GoValue Binder × GoValue Binder))

theorem imageOfEntries_eq :
    imageOfEntries codec entries =
      .concat (entries.map fun entry =>
        image codec entry.1 ++ image codec entry.2) := by
  induction entries with
  | nil => rfl
  | cons entry rest ih =>
    rw [imageOfEntries, ih]
    rfl

theorem normalAll_eq : normalAll codec values = values.map (normal codec) := by
  induction values with
  | nil => rfl
  | cons value rest ih =>
    rw [normalAll, ih]
    rfl

theorem normalEntries_eq :
    normalEntries codec entries =
      entries.map fun entry =>
        (normal codec entry.1, normal codec entry.2) := by
  induction entries with
  | nil => rfl
  | cons entry rest ih =>
    rw [normalEntries, ih]
    rfl

/-! ## Conditions -/

/-- What a list or a map writes behind its length prefix. -/
def body? : GoValue Binder → Option Image
  | .nilAnyMap => some (.int32 (-1))
  | .anyMap entries | .map entries => some (.count entries.length ++ imageOfEntries codec entries)
  | .slice values | .array values => some (.count values.length ++ imageOfAll codec values)
  | .leaf _ | .pointer _ | .other _ => none

/-- The lengths and counts of the value itself fit an `int32`. -/
def Fits : GoValue Binder → Prop
  | .leaf value => value.Fits
  | .anyMap entries | .map entries => FitsInt32 entries.length
  | .slice values | .array values => FitsInt32 values.length
  | .nilAnyMap | .pointer _ | .other _ => True

/--
The value is of a supported type, its strings are valid, and the keys of a map
can be hashed and stay distinct when they are read back.
-/
def Supported [DecidableEq B] : GoValue Binder → Prop
  | .leaf value => value.Valid
  | .anyMap entries | .map entries =>
    (∀ entry ∈ entries, (normal codec entry.1).hashable) ∧
      entries.Pairwise fun earlier later =>
        (normal codec earlier.1).sameKey (normal codec later.1) = false
  | .nilAnyMap | .slice _ | .array _ | .pointer _ => True
  | .other _ => False

end GoValue

end Libbinder
