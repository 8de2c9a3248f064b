import Libbinder.Parcel.Image

/-!
# Scalar accessors

Every scalar is a block of fixed width holding a little-endian number.  Floats
are carried as their bit patterns, which is what `math.Float32bits` and
`math.Float64bits` hand to the parcel.
-/

namespace Libbinder

open Go Action

namespace Parcel

/-- Write a number as a block of `width` little-endian bytes. -/
def writeUint (width value : Nat) : ParcelM Unit :=
  writeBlock width fun dst => putLE width dst 0 value

/-- Read a block of `width` little-endian bytes as a number. -/
def readUint (width : Nat) : ParcelM Nat := do
  let block ← readBlock width
  orPanic (getLE width block 0)

def writeInt32 (v : Int32) : ParcelM Unit :=
  writeUint 4 v.toUInt32.toNat

def writeUint32 (v : UInt32) : ParcelM Unit :=
  writeUint 4 v.toNat

def writeInt64 (v : Int64) : ParcelM Unit :=
  writeUint 8 v.toUInt64.toNat

def writeUint64 (v : UInt64) : ParcelM Unit :=
  writeUint 8 v.toNat

def writeBool (v : Bool) : ParcelM Unit :=
  if v then writeInt32 1 else writeInt32 0

def writeByte (v : Int8) : ParcelM Unit :=
  writeUint 1 v.toUInt8.toNat

def writeChar (v : UInt16) : ParcelM Unit :=
  writeUint 2 v.toNat

/-- `v` is the value's `math.Float32bits`. -/
def writeFloat32 (v : UInt32) : ParcelM Unit :=
  writeUint 4 v.toNat

/-- `v` is the value's `math.Float64bits`. -/
def writeFloat64 (v : UInt64) : ParcelM Unit :=
  writeUint 8 v.toNat

def readInt32 : ParcelM Int32 := do
  let v ← readUint 4
  return (UInt32.ofNat v).toInt32

def readUint32 : ParcelM UInt32 := do
  let v ← readUint 4
  return UInt32.ofNat v

def readInt64 : ParcelM Int64 := do
  let v ← readUint 8
  return (UInt64.ofNat v).toInt64

def readUint64 : ParcelM UInt64 := do
  let v ← readUint 8
  return UInt64.ofNat v

def readBool : ParcelM Bool := do
  let v ← readInt32
  return v ≠ 0

def readByte : ParcelM Int8 := do
  let v ← readUint 1
  return (UInt8.ofNat v).toInt8

def readChar : ParcelM UInt16 := do
  let v ← readUint 2
  return UInt16.ofNat v

def readFloat32 : ParcelM UInt32 := do
  let v ← readUint 4
  return UInt32.ofNat v

def readFloat64 : ParcelM UInt64 := do
  let v ← readUint 8
  return UInt64.ofNat v

end Parcel

/-! ## Images of scalars -/

namespace Image

/-- The image of a number of a fixed width. -/
def uint (width value : Nat) : Image :=
  ofBlock (leBytes width value)

@[simp]
theorem size_uint (width value : Nat) : (uint width value).size = Parcel.paddedLength width := by
  rw [uint, size_ofBlock, length_leBytes]

def int32 (v : Int32) : Image :=
  uint 4 v.toUInt32.toNat

@[simp]
theorem size_int32 (v : Int32) : (int32 v).size = 4 :=
  size_uint 4 _

def uint32 (v : UInt32) : Image :=
  uint 4 v.toNat

def int64 (v : Int64) : Image :=
  uint 8 v.toUInt64.toNat

def uint64 (v : UInt64) : Image :=
  uint 8 v.toNat

def bool (v : Bool) : Image :=
  int32 (if v then 1 else 0)

def byte (v : Int8) : Image :=
  uint 1 v.toUInt8.toNat

def char (v : UInt16) : Image :=
  uint 2 v.toNat

end Image

namespace Writes

open Parcel

theorem uint (width value : Nat) : Writes (writeUint width value) (.uint width value) := by
  have written :
      Writes
        (writeBlock (leBytes width value).length fun dst => putLE width dst 0 value)
        (.ofBlock (leBytes width value)) :=
    .ofBlock (putLE_whole (by simp) value)
  rwa [length_leBytes] at written

theorem int32 (v : Int32) : Writes (writeInt32 v) (.int32 v) :=
  uint 4 v.toUInt32.toNat

theorem uint32 (v : UInt32) : Writes (writeUint32 v) (.uint32 v) :=
  uint 4 v.toNat

theorem int64 (v : Int64) : Writes (writeInt64 v) (.int64 v) :=
  uint 8 v.toUInt64.toNat

theorem uint64 (v : UInt64) : Writes (writeUint64 v) (.uint64 v) :=
  uint 8 v.toNat

theorem bool (v : Bool) : Writes (writeBool v) (.bool v) := by
  cases v with
  | false => exact int32 0
  | true => exact int32 1

theorem byte (v : Int8) : Writes (writeByte v) (.byte v) :=
  uint 1 v.toUInt8.toNat

theorem char (v : UInt16) : Writes (writeChar v) (.char v) :=
  uint 2 v.toNat

theorem float32 (v : UInt32) : Writes (writeFloat32 v) (.uint32 v) :=
  uint 4 v.toNat

theorem float64 (v : UInt64) : Writes (writeFloat64 v) (.uint64 v) :=
  uint 8 v.toNat

end Writes

/-- Reading a number returns the one that is stored at the cursor. -/
theorem Parcel.readUint_ok_iff {p reached : Parcel} {width value : Nat} (fits : p.Bounded) :
    readUint width p = .ok value reached ↔
      value < 256 ^ width ∧ p.Stores (leBytes width value) ∧
        reached = p.advance (paddedLength width) := by
  constructor
  · intro ran
    rcases of_bind_ok ran with ⟨body, middle, read, fetched⟩
    rcases (readBlock_ok_iff fits).mp read with ⟨rfl, stored, rfl⟩
    have number : getLE body.length body 0 = some (leNat body) := by
      rw [getLE_eq_some, List.drop_zero, List.take_length]
    rw [number] at fetched
    cases fetched
    refine ⟨leNat_lt body, ?_, rfl⟩
    rwa [leBytes_leNat]
  · rintro ⟨small, stored, rfl⟩
    have read := (readBlock_ok_iff fits).mpr ⟨length_leBytes width value, stored, rfl⟩
    have fetched := getLE_middle small [] []
    simp only [List.nil_append, List.append_nil, List.length_nil] at fetched
    rw [readUint, bind_ok read, fetched]
    rfl

theorem Parcel.readInt32_ok_iff {p reached : Parcel} {v : Int32} (fits : p.Bounded) :
    readInt32 p = .ok v reached ↔
      p.Stores (leBytes 4 v.toUInt32.toNat) ∧ reached = p.advance 4 := by
  constructor
  · intro ran
    rcases of_bind_ok ran with ⟨value, middle, read, converted⟩
    rcases (readUint_ok_iff fits).mp read with ⟨small, stored, rfl⟩
    cases converted
    refine ⟨?_, rfl⟩
    have same : (UInt32.ofNat value).toInt32.toUInt32.toNat = value := by
      rw [UInt32.toUInt32_toInt32, UInt32.toNat_ofNat']
      exact Nat.mod_eq_of_lt small
    rwa [same]
  · rintro ⟨stored, rfl⟩
    have read := (readUint_ok_iff fits).mpr ⟨v.toUInt32.toNat_lt, stored, rfl⟩
    rw [readInt32, bind_ok read]
    simp
    rfl

namespace Reads

open Parcel

variable {owned : Bool}

theorem uint {width value : Nat} (small : value < 256 ^ width) :
    Reads owned (readUint width) (.uint width value) value := by
  intro p _ window
  rw [Image.size_uint]
  exact (readUint_ok_iff window.bounded).mpr ⟨small, window.stores, rfl⟩

theorem int32 (v : Int32) : Reads owned readInt32 (.int32 v) v := by
  apply map (uint v.toUInt32.toNat_lt)
  intro p
  simp

theorem uint32 (v : UInt32) : Reads owned readUint32 (.uint32 v) v := by
  apply map (uint v.toNat_lt)
  intro p
  simp

theorem int64 (v : Int64) : Reads owned readInt64 (.int64 v) v := by
  apply map (uint v.toUInt64.toNat_lt)
  intro p
  simp

theorem uint64 (v : UInt64) : Reads owned readUint64 (.uint64 v) v := by
  apply map (uint v.toNat_lt)
  intro p
  simp

theorem bool (v : Bool) : Reads owned readBool (.bool v) v := by
  apply map (int32 _)
  intro p
  cases v <;> rfl

theorem byte (v : Int8) : Reads owned readByte (.byte v) v := by
  apply map (uint v.toUInt8.toNat_lt)
  intro p
  simp

theorem char (v : UInt16) : Reads owned readChar (.char v) v := by
  apply map (uint v.toNat_lt)
  intro p
  simp

theorem float32 (v : UInt32) : Reads owned readFloat32 (.uint32 v) v := by
  apply map (uint v.toNat_lt)
  intro p
  simp

theorem float64 (v : UInt64) : Reads owned readFloat64 (.uint64 v) v := by
  apply map (uint v.toNat_lt)
  intro p
  simp

end Reads

open Reads

/-! ## Scalars on any parcel -/

namespace Parcel

theorem Blocks.writeUint (width value : Nat) : Blocks (writeUint width value) :=
  .write (.putLE value (by omega))

theorem Blocks.writeInt32 (v : Int32) : Blocks (writeInt32 v) :=
  .writeUint 4 v.toUInt32.toNat

namespace Safe

theorem readUint (width : Nat) : Safe (readUint width) := by
  apply Safe.readBlock_bind
  intro body sized
  exact .orPanic ⟨_, getLE_eq_some⟩

theorem readInt32 : Safe readInt32 :=
  .bind (readUint 4) fun _ => .pure _

theorem readUint32 : Safe readUint32 :=
  .bind (readUint 4) fun _ => .pure _

end Safe

end Parcel

end Libbinder
