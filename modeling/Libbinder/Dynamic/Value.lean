import Libbinder.Parcel.Slices
import Libbinder.Go.Map

/-!
# Dynamic values

The values of `android.os.Parcel.writeValue`: a tag followed by a payload.
Scalars, strings, binders and typed arrays are leaves; a list and a map hold
further dynamic values behind a length prefix.

A decoded value is a Go `any`.  Its dynamic type decides whether it can be a
map key: storing under a slice or a map panics.
-/

namespace Libbinder

open Go

/-- The tags whose payload holds no further dynamic value. -/
inductive LeafTag where
  | null
  | string
  | integer
  | short
  | long
  | float
  | double
  | boolean
  | byteArray
  | stringArray
  | iBinder
  | intArray
  | longArray
  | byte
  | doubleArray
  | char
  | shortArray
  | charArray
  | floatArray
deriving DecidableEq, Repr

/-- The tags the reader knows. -/
inductive ValueTag where
  | leaf (tag : LeafTag)
  | map
  | parcelable
  | list
deriving DecidableEq, Repr

namespace ValueTag

def code : ValueTag → Int32
  | .leaf .null => -1
  | .leaf .string => 0
  | .leaf .integer => 1
  | .map => 2
  | .parcelable => 4
  | .leaf .short => 5
  | .leaf .long => 6
  | .leaf .float => 7
  | .leaf .double => 8
  | .leaf .boolean => 9
  | .list => 11
  | .leaf .byteArray => 13
  | .leaf .stringArray => 14
  | .leaf .iBinder => 15
  | .leaf .intArray => 18
  | .leaf .longArray => 19
  | .leaf .byte => 20
  | .leaf .doubleArray => 28
  | .leaf .char => 29
  | .leaf .shortArray => 30
  | .leaf .charArray => 31
  | .leaf .floatArray => 32

/-- Every tag, in the order of the source. -/
def all : List ValueTag :=
  [.leaf .null, .leaf .string, .leaf .integer, .map, .parcelable,
    .leaf .short, .leaf .long, .leaf .float, .leaf .double, .leaf .boolean,
    .list, .leaf .byteArray, .leaf .stringArray, .leaf .iBinder,
    .leaf .intArray, .leaf .longArray, .leaf .byte, .leaf .doubleArray,
    .leaf .char, .leaf .shortArray, .leaf .charArray, .leaf .floatArray]

/-- The case of the reader's switch that a tag on the wire selects. -/
def ofCode (code : Int32) : Option ValueTag :=
  all.find? fun tag => tag.code = code

@[simp]
theorem ofCode_code (tag : ValueTag) : ofCode tag.code = some tag := by
  cases tag with
  | leaf tag => cases tag <;> rfl
  | map | parcelable | list => rfl

end ValueTag

/-- The tags whose values are slices. -/
def LeafTag.hashable : LeafTag → Bool
  | .byteArray | .stringArray | .intArray | .longArray | .doubleArray
  | .shortArray | .charArray | .floatArray => false
  | _ => true

/-- A value of this tag can be stored as a map key. -/
def ValueTag.hashable : ValueTag → Bool
  | .leaf tag => tag.hashable
  | .map | .parcelable | .list => false

/--
A decoded value without nested values; floats are bit patterns and a nil slice
is `none`.  A nil binder is decoded as the nil value.
-/
inductive Leaf (B : Type) where
  | null
  | string (value : GoString)
  | integer (value : Int32)
  | short (value : Int16)
  | long (value : Int64)
  | float (bits : UInt32)
  | double (bits : UInt64)
  | boolean (value : Bool)
  | byteArray (values : Option (List UInt8))
  | stringArray (values : Option (List GoString))
  | binder (value : B)
  | intArray (values : Option (List Int32))
  | longArray (values : Option (List Int64))
  | byte (value : Int8)
  | doubleArray (values : Option (List UInt64))
  | char (value : UInt16)
  | shortArray (values : Option (List Int16))
  | charArray (values : Option (List UInt16))
  | floatArray (values : Option (List UInt32))
deriving DecidableEq, Repr

/-- Equality of `float32` values given by their bits. -/
def sameFloat32 (first second : UInt32) : Bool :=
  let magnitude := fun bits : UInt32 => bits &&& 0x7fffffff
  if magnitude first = 0 ∧ magnitude second = 0 then true
  else first = second ∧ magnitude first ≤ 0x7f800000

/-- Equality of `float64` values given by their bits. -/
def sameFloat64 (first second : UInt64) : Bool :=
  let magnitude := fun bits : UInt64 => bits &&& 0x7fffffffffffffff
  if magnitude first = 0 ∧ magnitude second = 0 then true
  else first = second ∧ magnitude first ≤ 0x7ff0000000000000

namespace Leaf

variable {B : Type}

/-- Whether hashing the value succeeds; a binder is a pointer. -/
def hashable : Leaf B → Bool
  | .byteArray _ | .stringArray _ | .intArray _ | .longArray _
  | .doubleArray _ | .shortArray _ | .charArray _ | .floatArray _ => false
  | _ => true

/-- Equality of map keys: the same dynamic type and equal values. -/
def sameKey [DecidableEq B] : Leaf B → Leaf B → Bool
  | .float first, .float second => sameFloat32 first second
  | .double first, .double second => sameFloat64 first second
  | first, second => first = second

end Leaf

/--
What reading a dynamic value returns.  A nil list or map is `none`; a map is
the list of its entries.
-/
inductive DynamicValue (B : Type) where
  | leaf (value : Leaf B)
  | list (values : Option (List (DynamicValue B)))
  | map (entries : Option (List (DynamicValue B × DynamicValue B)))

namespace DynamicValue

variable {B : Type}

def hashable : DynamicValue B → Bool
  | .leaf value => value.hashable
  | .list _ | .map _ => false

def sameKey [DecidableEq B] : DynamicValue B → DynamicValue B → Bool
  | .leaf first, .leaf second => first.sameKey second
  | _, _ => false

/-- `values[key] = value` on a `map[any]any`; absent where it panics. -/
def assign [DecidableEq B]
    (key value : DynamicValue B)
    (entries : List (DynamicValue B × DynamicValue B)) :
    Option (List (DynamicValue B × DynamicValue B)) :=
  if key.hashable then some (Go.assign sameKey key value entries) else none

end DynamicValue

end Libbinder
