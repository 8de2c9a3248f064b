import Libbinder.Parcel.Scalars
import Libbinder.Go.Utf16

/-!
# Strings, byte slices and the interface token

A Go string is its list of bytes; a nil pointer or nil slice is `none`.
-/

namespace Libbinder

open Go List Option Action Utf16 Utf8 Reads

/-- The bytes of a Go string. -/
abbrev GoString :=
  List UInt8

namespace Parcel

/-- The loop that stores UTF-16 units at consecutive offsets. -/
def putUnits : List UInt8 → Nat → List UInt16 → Option (List UInt8)
  | dst, _, [] => some dst
  | dst, offset, unit :: rest => do
    let next ← putLE 2 dst offset unit.toNat
    putUnits next (offset + 2) rest

/-- The loop that loads UTF-16 units from consecutive offsets. -/
def getUnits (block : List UInt8) : Nat → Nat → Option (List UInt16)
  | _, 0 => some []
  | offset, count + 1 => do
    let unit ← getLE 2 block offset
    let rest ← getUnits block (offset + 2) count
    return UInt16.ofNat unit :: rest

def validateUTF16 : List UInt16 → Except BinderError Unit
  | [] => .ok ()
  | [unit] =>
    if isHigh unit then
      .error (.badParcelable "unterminated UTF-16 surrogate pair")
    else if isLow unit then
      .error (.badParcelable "unexpected UTF-16 low surrogate")
    else
      .ok ()
  | unit :: next :: rest =>
    if isHigh unit then
      if ¬ isLow next then
        .error (.badParcelable "invalid UTF-16 surrogate pair")
      else
        validateUTF16 rest
    else if isLow unit then
      .error (.badParcelable "unexpected UTF-16 low surrogate")
    else
      validateUTF16 (next :: rest)

def writeNullableString : Option GoString → ParcelM Unit
  | none => writeInt32 (-1)
  | some v => do
    let units := encode (runes v)
    if units.length > maxInt32 then
      fail (.badParcelable s!"string too large: {units.length} code units")
    else if units.length > maxInt / 2 - 1 then
      fail (.badParcelable "string payload overflow")
    else
      writeInt32 (.ofInt units.length)
      writeBlock ((units.length + 1) * 2) fun dst => do
        let filled ← putUnits dst 0 units
        putLE 2 filled (units.length * 2) 0

def writeNullableString8 : Option GoString → ParcelM Unit
  | none => writeInt32 (-1)
  | some v =>
    if ¬ valid v then
      fail (.badParcelable "invalid utf-8 string")
    else if v.length > maxInt32 then
      fail (.badParcelable s!"string8 too large: {v.length} bytes")
    else if v.length > maxInt - 1 then
      fail (.badParcelable "string8 payload overflow")
    else do
      writeInt32 (.ofInt v.length)
      writeBlock (v.length + 1) fun dst =>
        putLE 1 (copyInto dst v) v.length 0

def writeString (v : GoString) : ParcelM Unit :=
  writeNullableString (some v)

def writeString8 (v : GoString) : ParcelM Unit :=
  writeNullableString8 (some v)

def writeBytes : Option (List UInt8) → ParcelM Unit
  | none => writeInt32 (-1)
  | some b =>
    if b.length > maxInt32 then
      fail (.badParcelable s!"byte slice too large: {b.length}")
    else do
      writeInt32 (.ofInt b.length)
      writeBlock b.length fun dst => some (copyInto dst b)

def writeRawBytes : Option (List UInt8) → ParcelM Unit
  | none => writeBlock 0 some
  | some b => writeBlock b.length fun dst => some (copyInto dst b)

def readNullableString : ParcelM (Option GoString) := do
  let size ← readInt32
  if size < 0 then
    return none
  else if size.toInt > maxInt / 2 - 1 then
    fail (.badParcelable "string payload overflow")
  else
    let block ← readBlock (wrapInt (wrapInt (size.toInt + 1) * 2))
    let terminator ← orPanic (getLE 2 block (size.toInt.toNat * 2))
    if terminator ≠ 0 then
      fail (.badParcelable "unterminated UTF-16 string")
    else
      let units ← orPanic (getUnits block 0 size.toInt.toNat)
      ofExcept (validateUTF16 units)
      return some (encodeRunes (decode units))

def readNullableString8 : ParcelM (Option GoString) := do
  let size ← readInt32
  if size < 0 then
    return none
  else if size.toInt > maxInt32 then
    fail (.badParcelable s!"string8 too large: {size} bytes")
  else if size.toInt > maxInt - 1 then
    fail (.badParcelable "string8 payload overflow")
  else
    let block ← readBlock (wrapInt (size.toInt + 1))
    if block.length = 0 then
      fail (.badParcelable "unterminated string8")
    else
      let last ← orPanic (index block (block.length - 1))
      if last ≠ 0 then
        fail (.badParcelable "unterminated string8")
      else
        let raw ← orPanic (slice block 0 (block.length - 1))
        if ¬ valid raw then
          fail (.badParcelable "invalid utf-8 string8 payload")
        else
          return some raw

def readString : ParcelM GoString := do
  match ← readNullableString with
  | none => fail (.badParcelable "unexpected null string")
  | some s => return s

def readString8 : ParcelM GoString := do
  match ← readNullableString8 with
  | none => fail (.badParcelable "unexpected null string8")
  | some s => return s

def readBytes : ParcelM (Option (List UInt8)) := do
  let size ← readInt32
  if size < 0 then
    return none
  else
    let block ← readBlock size.toInt
    return some (copyInto (.replicate block.length 0) block)

def readRawBytes (n : Int) : ParcelM (List UInt8) := do
  let block ← readBlock n
  return copyInto (.replicate block.length 0) block

/-- `packChars('S', 'Y', 'S', 'T')`. -/
def systHeader : UInt32 :=
  0x53595354

def writeInterfaceToken (descriptor : GoString) : ParcelM Unit := do
  writeUint32 0x80000000
  writeInt32 (-1)
  writeUint32 systHeader
  writeString descriptor

/-- The text of `%#x`. -/
def hexText (value : Nat) : String :=
  "0x" ++ String.ofList (Nat.toDigits 16 value)

def readInterfaceToken : ParcelM GoString := do
  let _ ← readUint32
  let _ ← readInt32
  let header ← readUint32
  if header ≠ systHeader then
    fail (.badParcelable ("invalid interface token header " ++ hexText header.toNat))
  else
    readString

/-! ## Unit loops -/

/-- The little-endian bytes of UTF-16 units. -/
def unitBytes (units : List UInt16) : List UInt8 :=
  units.flatMap fun unit => leBytes 2 unit.toNat

variable (units : List UInt16)

@[simp]
theorem length_unitBytes : (unitBytes units).length = units.length * 2 := by
  induction units with
  | nil => rfl
  | cons unit rest ih =>
    simp only [unitBytes, flatMap_cons, length_append, length_leBytes, length_cons] at ih ⊢
    omega

theorem putUnits_middle
    (before middle after : List UInt8) (sized : middle.length = units.length * 2) :
    putUnits (before ++ middle ++ after) before.length units =
      some (before ++ unitBytes units ++ after) := by
  induction units generalizing before middle with
  | nil =>
    have empty : middle = [] := eq_nil_of_length_eq_zero sized
    simp [putUnits, unitBytes, empty]
  | cons unit rest ih =>
    rw [length_cons] at sized
    obtain ⟨head, later, rfl, headSized⟩ :
        ∃ head later : List UInt8, middle = head ++ later ∧ head.length = 2 :=
      ⟨middle.take 2, middle.drop 2, by simp, by simp; omega⟩
    rw [length_append] at sized
    have stored := putLE_middle before head (later ++ after) unit.toNat
    rw [headSized] at stored
    have continued := ih (before ++ leBytes 2 unit.toNat) later (by omega)
    simp only [length_append, length_leBytes, append_assoc] at stored continued
    simp only [putUnits, append_assoc, stored, bind_eq_bind, bind_some, continued]
    simp [unitBytes]

theorem getUnits_middle (before after : List UInt8) :
    getUnits (before ++ unitBytes units ++ after) before.length units.length = some units := by
  induction units generalizing before with
  | nil => rfl
  | cons unit rest ih =>
    have layout :
        before ++ unitBytes (unit :: rest) ++ after =
          before ++ leBytes 2 unit.toNat ++ (unitBytes rest ++ after) := by
      simp [unitBytes]
    have small : unit.toNat < 256 ^ 2 := unit.toNat_lt
    have next := ih (before ++ leBytes 2 unit.toNat)
    rw [length_append, length_leBytes, append_assoc] at next
    rw [length_cons, getUnits, layout, getLE_middle small]
    simp only [bind_eq_bind, bind_some]
    rw [next]
    simp

/-- Filling a block with the units of a string and the unit behind them. -/
theorem putUnits_terminated {window : List UInt8} (sized : window.length = units.length * 2 + 2) :
    (putUnits window 0 units >>= fun filled => putLE 2 filled (units.length * 2) 0) =
      some (unitBytes units ++ leBytes 2 0) := by
  obtain ⟨front, back, rfl, frontSized, backSized⟩ :
      ∃ front back, window = front ++ back ∧ front.length = units.length * 2 ∧ back.length = 2 :=
    ⟨window.take (units.length * 2), window.drop (units.length * 2), by simp, by simp; omega,
      by simp; omega⟩
  have stored := putUnits_middle units [] front back frontSized
  have terminated := putLE_middle (unitBytes units) back [] 0
  simp only [nil_append, length_nil, append_nil, backSized, length_unitBytes] at stored terminated
  rwa [stored]

theorem getUnits_total
    (block : List UInt8) (count offset : Nat) (room : offset + count * 2 ≤ block.length) :
    ∃ units, getUnits block offset count = some units := by
  induction count generalizing offset with
  | zero => exact ⟨[], rfl⟩
  | succ count ih =>
    rcases ih (offset + 2) (by omega) with ⟨units, loaded⟩
    have unitLoaded := getLE_eq_some (by omega : offset + 2 ≤ block.length)
    simp only [getUnits, unitLoaded, loaded, bind_eq_bind, bind_some]
    exact ⟨_, rfl⟩

/-- Any bytes are those of some units, if there are enough of them. -/
theorem exists_unitBytes (count : Nat) (bytes : List UInt8) (sized : bytes.length = count * 2) :
    ∃ units : List UInt16, units.length = count ∧ unitBytes units = bytes := by
  induction count generalizing bytes with
  | zero => exact ⟨[], rfl, (eq_nil_of_length_eq_zero (by omega)).symm⟩
  | succ count ih =>
    have headSized : (bytes.take 2).length = 2 := length_take_of_le (by omega)
    have small := leNat_lt (bytes.take 2)
    have restored := leBytes_leNat (bytes.take 2)
    rw [headSized] at small restored
    rcases ih (bytes.drop 2) (by rw [length_drop]; omega) with ⟨units, counted, same⟩
    refine ⟨.ofNat (leNat (bytes.take 2)) :: units, by rw [length_cons, counted], ?_⟩
    change leBytes 2 (UInt16.ofNat (leNat (bytes.take 2))).toNat ++ unitBytes units = bytes
    rw [toNat_ofNat_of_lt _ small, restored, same, take_append_drop]

theorem validateUTF16_ok_iff {units : List UInt16} :
    validateUTF16 units = .ok () ↔ Utf16.Paired units := by
  constructor
  · intro valid
    fun_induction validateUTF16 units <;> grind [Utf16.Paired]
  · intro paired
    induction paired with
    | nil => rfl
    | @plain unit rest notHigh notLow _ ih =>
      cases rest with
      | nil => simp [validateUTF16, notHigh, notLow]
      | cons next rest => simp [validateUTF16, notHigh, notLow, ih]
    | pair highHolds lowHolds _ ih =>
      simp [validateUTF16, highHolds, lowHolds, ih]

end Parcel

/-! ## Images of text -/

namespace Image

open Parcel

/-- A length or count written as an `int32`. -/
def count (n : Nat) : Image :=
  int32 (.ofInt n)

def nullableString : Option GoString → Image
  | none => int32 (-1)
  | some v =>
    count (encode (runes v)).length ++ ofBlock (unitBytes (encode (runes v)) ++ leBytes 2 0)

def nullableString8 : Option GoString → Image
  | none => int32 (-1)
  | some v => count v.length ++ ofBlock (v ++ leBytes 1 0)

def byteSlice : Option (List UInt8) → Image
  | none => int32 (-1)
  | some b => count b.length ++ ofBlock b

def interfaceToken (descriptor : GoString) : Image :=
  uint32 0x80000000 ++ (int32 (-1) ++ (uint32 systHeader ++ nullableString (some descriptor)))

end Image

/-- A string the UTF-16 writer accepts and the reader returns unchanged. -/
structure StringFits (v : GoString) : Prop where
  valid : valid v
  short : (encode (runes v)).length ≤ maxInt32

/-- A string the UTF-8 writer accepts. -/
structure String8Fits (v : GoString) : Prop where
  valid : valid v
  short : v.length ≤ maxInt32

theorem toInt_ofInt_count {n : Nat} (short : (n : Int) ≤ maxInt32) : (Int32.ofInt n).toInt = n :=
  Int32.toInt_ofInt_of_le (by omega) (by unfold maxInt32 at short; omega)

theorem not_count_neg {n : Nat} (short : (n : Int) ≤ maxInt32) : ¬ Int32.ofInt n < 0 := by
  rw [Int32.lt_iff_toInt_lt, toInt_ofInt_count short]
  simp

theorem exists_count {size : Int32} (nonneg : ¬ size < 0) :
    ∃ count : Nat, (count : Int) ≤ maxInt32 ∧ size = .ofInt count := by
  rw [Int32.lt_iff_toInt_lt, Int32.toInt_zero, not_lt] at nonneg
  have upper : size.toInt < 2147483648 := size.toInt_lt
  refine ⟨size.toInt.toNat, ?_, ?_⟩
  · unfold maxInt32
    omega
  · rw [Int.toNat_of_nonneg nonneg, Int32.ofInt_toInt]

/-- The length and the terminated units of a string lie at the cursor. -/
structure Parcel.StoresUnits (p : Parcel) (units : List UInt16) : Prop where
  short : units.length ≤ maxInt32
  size : p.Stores (leBytes 4 (Int32.ofInt units.length).toUInt32.toNat)
  payload : (p.advance 4).Stores (unitBytes units ++ leBytes 2 0)

variable {p : Parcel}

theorem Parcel.Stores.bounded {value : Nat} (size : p.Stores (leBytes 4 value)) (fits : p.Bounded) :
    (p.advance 4).Bounded := by
  have nonneg := fits.nonneg
  have inside := size.1
  rw [length_leBytes] at inside
  exact ⟨by simp only [advance]; omega, inside, fits.held⟩

/-- The bytes that the reader of a string asks for. -/
theorem stringWidth {count : Nat} (short : (count : Int) ≤ maxInt32) :
    wrapInt (wrapInt ((count : Int) + 1) * 2) = (count * 2 + 2 : Nat) := by
  unfold maxInt32 at short
  have successor : wrapInt ((count : Int) + 1) = count + 1 := wrapInt_eq
  rw [successor, wrapInt_eq]
  push_cast
  ring

variable {units : List UInt16}

/-- Reading a string of which the length and the units are known. -/
theorem Parcel.readNullableString_run
    {last : Nat} (fits : p.Bounded) (short : units.length ≤ maxInt32)
    (size : p.Stores (leBytes 4 (Int32.ofInt units.length).toUInt32.toNat))
    (small : last < 256 ^ 2) (payload : (p.advance 4).Stores (unitBytes units ++ leBytes 2 last)) :
    readNullableString p =
      (if last ≠ 0 then .fail (.badParcelable "unterminated UTF-16 string")
        else do
          .ofExcept (validateUTF16 units)
          return some (encodeRunes (decode units)) : ParcelM (Option GoString))
        (p.advance (4 + paddedLength (units.length * 2 + 2))) := by
  have notOverflowing : ¬ (units.length : Int) > maxInt / 2 - 1 := by
    unfold maxInt32 at short
    unfold maxInt
    omega
  have sized : (unitBytes units ++ leBytes 2 last).length = units.length * 2 + 2 := by
    simp
  have sizeRead := (readInt32_ok_iff fits).mpr ⟨size, rfl⟩
  have blockRead := (readBlock_ok_iff (size.bounded fits)).mpr ⟨sized, payload, rfl⟩
  have terminator := getLE_middle small (unitBytes units) []
  have loaded := getUnits_middle units [] (leBytes 2 last)
  simp only [append_nil, length_unitBytes, nil_append, length_nil] at terminator loaded
  rw [readNullableString, bind_ok sizeRead, if_neg (not_count_neg short),
    toInt_ofInt_count short, if_neg notOverflowing, stringWidth short, bind_ok blockRead]
  simp only [Int.toNat_natCast, terminator, loaded, advance_advance]
  rfl

theorem Parcel.readNullableString_of_stores
    (fits : p.Bounded) (stored : p.StoresUnits units) (paired : Utf16.Paired units) :
    readNullableString p =
      .ok (some (encodeRunes (decode units)))
        (p.advance (4 + paddedLength (units.length * 2 + 2))) := by
  rw [readNullableString_run fits stored.short stored.size (by decide) stored.payload,
    if_neg (not_not_intro rfl), validateUTF16_ok_iff.mpr paired]
  rfl

/-- A string that is too long is not written. -/
theorem Parcel.short_of_writeString
    {reached : Parcel} {v : GoString} (written : writeString v p = .ok () reached) :
    (encode (runes v)).length ≤ maxInt32 := by
  by_contra long
  rw [writeString, writeNullableString] at written
  simp only [gt_iff_lt, if_pos (not_le.mp long)] at written
  cases written

/-- What the writer of a string that is short enough does. -/
theorem Parcel.writeString_run {v : GoString} (short : (encode (runes v)).length ≤ maxInt32) :
    let units := encode (runes v)
    writeString v =
      (writeInt32 (.ofInt units.length) >>= fun _ =>
        writeBlock (unitBytes units ++ leBytes 2 0).length fun dst =>
          putUnits dst 0 units >>= fun filled => putLE 2 filled (units.length * 2) 0) := by
  intro units
  change (units.length : Int) ≤ maxInt32 at short
  have notLarge : ¬ (units.length : Int) > maxInt32 := not_lt.mpr short
  have notOverflowing : ¬ (units.length : Int) > maxInt / 2 - 1 := by
    unfold maxInt32 at short
    unfold maxInt
    omega
  have width : ((unitBytes units ++ leBytes 2 0).length : Int) = (units.length + 1) * 2 := by
    simp
    ring
  rw [writeString, writeNullableString, if_neg notLarge, if_neg notOverflowing, width]

namespace Writes

open Parcel

theorem copied (b : List UInt8) :
    Writes (writeBlock b.length fun dst => some (copyInto dst b)) (.ofBlock b) := by
  apply ofBlock
  rw [copyInto_of_length_eq (by simp)]

variable {v : GoString}

theorem shortString (short : (encode (runes v)).length ≤ maxInt32) :
    Writes (writeString v) (.nullableString (some v)) := by
  rw [writeString_run short]
  apply seq (int32 _)
  apply ofBlock
  exact putUnits_terminated _ (by simp)

theorem nullableString {v : Option GoString} (fits : ∀ s, v = some s → StringFits s) :
    Writes (writeNullableString v) (.nullableString v) := by
  cases v with
  | none => exact int32 (-1)
  | some v => exact shortString (fits v rfl).short

theorem string (fits : StringFits v) : Writes (writeString v) (.nullableString (some v)) :=
  shortString fits.short

theorem nullableString8 {v : Option GoString} (fits : ∀ s, v = some s → String8Fits s) :
    Writes (writeNullableString8 v) (.nullableString8 v) := by
  cases v with
  | none => exact int32 (-1)
  | some v =>
    have short := (fits v rfl).short
    have notLarge : ¬ (v.length : Int) > maxInt32 := by
      omega
    have notOverflowing : ¬ (v.length : Int) > maxInt - 1 := by
      unfold maxInt32 at short
      unfold maxInt
      omega
    unfold writeNullableString8
    simp only [(fits v rfl).valid, not_true_eq_false, if_false,
      if_neg notLarge, if_neg notOverflowing]
    apply seq (int32 _)
    have copied : copyInto (.replicate (v ++ leBytes 1 0).length 0) v = v ++ [0] := by
      simp [copyInto, take_of_length_le]
    have written :
        Writes
          (writeBlock (v ++ leBytes 1 0).length fun dst => putLE 1 (copyInto dst v) v.length 0)
          (.ofBlock (v ++ leBytes 1 0)) := by
      apply ofBlock
      rw [copied]
      simpa using putLE_middle v [0] [] 0
    rwa [length_append, length_leBytes] at written

theorem string8 (fits : String8Fits v) : Writes (writeString8 v) (.nullableString8 (some v)) := by
  apply nullableString8
  rintro s ⟨⟩
  exact fits

theorem byteSlice
    {b : Option (List UInt8)} (short : ∀ c, b = some c → (c.length : Int) ≤ maxInt32) :
    Writes (writeBytes b) (.byteSlice b) := by
  cases b with
  | none => exact int32 (-1)
  | some b =>
    have notLarge : ¬ (b.length : Int) > maxInt32 := by
      have := short b rfl
      omega
    unfold writeBytes
    simp only [if_neg notLarge]
    exact .seq (int32 _) (copied b)

theorem rawBytes (b : Option (List UInt8)) : Writes (writeRawBytes b) (.ofBlock (b.getD [])) := by
  cases b with
  | none =>
    change Writes (writeBlock (List.length ([] : List UInt8)) some) (.ofBlock [])
    apply ofBlock
    rfl
  | some b => exact copied b

theorem interfaceToken {desc : GoString} (fits : StringFits desc) :
    Writes (writeInterfaceToken desc) (.interfaceToken desc) :=
  .seq (uint32 _) (.seq (int32 _) (.seq (uint32 _) (string fits)))

end Writes

open Writes

namespace Reads

open Parcel

variable {owned : Bool}

theorem nullableString {v : Option GoString} (fits : ∀ s, v = some s → StringFits s) :
    Reads owned readNullableString (.nullableString v) v := by
  cases v with
  | none =>
    apply map (int32 (-1))
    intro p
    rfl
  | some v =>
    rcases encodeRunes_runes (fits v rfl).valid with ⟨allScalar, read⟩
    rcases paired_encode allScalar with ⟨paired, ran⟩
    intro p _ window
    have size := window.left.stores
    have payload := window.right.stores
    rw [Image.count, Image.size_int32] at payload
    rw [readNullableString_of_stores window.bounded ⟨(fits v rfl).short, size, payload⟩ paired,
      ran, read]
    simp [Image.nullableString, Image.count]

theorem string {v : GoString} (fits : StringFits v) :
    Reads owned readString (.nullableString (some v)) v := by
  apply map
  · apply nullableString
    rintro s ⟨⟩
    exact fits
  · intro p
    rfl

theorem nullableString8 {v : Option GoString} (fits : ∀ s, v = some s → String8Fits s) :
    Reads owned readNullableString8 (.nullableString8 v) v := by
  cases v with
  | none =>
    apply map (int32 (-1))
    intro p
    rfl
  | some v =>
    have short := (fits v rfl).short
    have upper : (v.length : Int) ≤ 2147483647 := short
    have notLarge : ¬ (v.length : Int) > maxInt32 := by
      omega
    have notOverflowing : ¬ (v.length : Int) > maxInt - 1 := by
      unfold maxInt
      omega
    have width : wrapInt ((v.length : Int) + 1) = (v ++ leBytes 1 0).length := by
      rw [wrapInt_eq]
      simp
    apply seq (int32 _)
    simp only [not_count_neg short, if_false, toInt_ofInt_count short,
      notLarge, notOverflowing, width]
    apply map (.ofBlock _)
    intro p
    have last : index (v ++ leBytes 1 0) ((v ++ leBytes 1 0).length - 1 : Int) = some 0 := by
      simp [index, leBytes]
    have raw : slice (v ++ leBytes 1 0) 0 ((v ++ leBytes 1 0).length - 1 : Int) = some v := by
      simpa using slice_middle [] v (leBytes 1 0)
    have filled : (v ++ leBytes 1 0).length ≠ 0 := by
      simp
    simp only [bind_run, last, raw, filled, (fits v rfl).valid, orPanic_some_run,
      pure_run, ne_eq, not_true_eq_false, if_false]

theorem string8 {v : GoString} (fits : String8Fits v) :
    Reads owned readString8 (.nullableString8 (some v)) v := by
  apply map
  · apply nullableString8
    rintro s ⟨⟩
    exact fits
  · intro p
    rfl

theorem byteSlice
    {b : Option (List UInt8)} (short : ∀ c, b = some c → (c.length : Int) ≤ maxInt32) :
    Reads owned readBytes (.byteSlice b) b := by
  cases b with
  | none =>
    apply map (int32 (-1))
    intro p
    rfl
  | some b =>
    apply seq (int32 _)
    simp only [not_count_neg (short b rfl), if_false, toInt_ofInt_count (short b rfl)]
    apply map (.ofBlock b)
    intro p
    rw [copyInto_of_length_eq (by simp)]
    rfl

theorem rawBytes (b : List UInt8) : Reads owned (readRawBytes b.length) (.ofBlock b) b := by
  apply map (.ofBlock b)
  intro p
  rw [copyInto_of_length_eq (by simp)]
  rfl

theorem interfaceToken {descriptor : GoString} (fits : StringFits descriptor) :
    Reads owned readInterfaceToken (.interfaceToken descriptor) descriptor := by
  apply seq (uint32 _)
  apply seq (int32 _)
  apply seq (uint32 _)
  simp only [ne_eq, not_true_eq_false, if_false]
  exact string fits

end Reads

/-! ## Text on any parcel -/

namespace Parcel.Blocks

theorem writeCopy (b : List UInt8) :
    Blocks (Parcel.writeBlock b.length fun dst => some (copyInto dst b)) := by
  apply write
  intro window sized
  exact ⟨_, rfl, by simp [sized]⟩

theorem writeNullableString (v : Option GoString) : Blocks (writeNullableString v) := by
  cases v with
  | none => exact writeInt32 (-1)
  | some v =>
    rcases le_or_gt ((encode (runes v)).length : Int) maxInt32 with short | long
    · change Blocks (writeString v)
      rw [writeString_run short]
      refine bind (writeInt32 _) (write fun window sized => ⟨_, putUnits_terminated _ ?_, rfl⟩)
      rw [sized]
      simp
    · rw [Parcel.writeNullableString, if_pos long]
      exact fail _

theorem writeNullableString8 (v : Option GoString) : Blocks (writeNullableString8 v) := by
  cases v with
  | none => exact writeInt32 (-1)
  | some v =>
    simp only [Parcel.writeNullableString8]
    split_ifs
    · exact fail _
    · exact fail _
    · apply bind (writeInt32 _)
      apply write
      intro window sized
      have room : v.length + 1 ≤ (copyInto window v).length := by
        rw [length_copyInto, sized]
      have stored := putLE_eq_some room 0
      exact ⟨_, stored, (length_of_putLE stored).trans (by simp [sized])⟩
    · exact fail _

theorem writeBytes (b : Option (List UInt8)) : Blocks (writeBytes b) := by
  cases b with
  | none => exact writeInt32 (-1)
  | some b =>
    simp only [Parcel.writeBytes]
    split_ifs
    · exact fail _
    · exact bind (writeInt32 _) (writeCopy b)

theorem writeRawBytes (b : Option (List UInt8)) : Blocks (writeRawBytes b) := by
  cases b with
  | none =>
    apply write
    intro window sized
    exact ⟨window, rfl, sized⟩
  | some b => exact writeCopy b

theorem writeInterfaceToken (desc : GoString) : Blocks (writeInterfaceToken desc) := by
  apply bind (writeUint 4 _)
  apply bind (writeInt32 _)
  apply bind (writeUint 4 _)
  exact writeNullableString (some desc)

end Parcel.Blocks

namespace Parcel.Safe

theorem readNullableString : Safe readNullableString := by
  apply Safe.bind readInt32
  intro size
  split_ifs with below large
  · exact .pure _
  · exact .fail _
  · rcases exists_count below with ⟨count, short, rfl⟩
    rw [toInt_ofInt_count short, stringWidth short, Int.toNat_natCast]
    apply Safe.readBlock_bind
    intro payload sized
    have terminated := getLE_eq_some (by omega : count * 2 + 2 ≤ payload.length)
    apply Safe.bind (.orPanic ⟨_, terminated⟩)
    intro terminator
    split_ifs
    · exact .fail _
    · apply Safe.bind (.orPanic (getUnits_total payload count 0 (by omega)))
      intro units
      apply Safe.bind
      · exact .ofExcept _
      · intro _
        exact .pure _

theorem readNullableString8 : Safe readNullableString8 := by
  apply Safe.bind readInt32
  intro size
  split_ifs
  · exact .pure _
  · exact .fail _
  · exact .fail _
  · apply Safe.readBlock_bind
    intro payload sized
    split_ifs with empty
    · exact .fail _
    · have last : ∃ byte, index payload (payload.length - 1 : Int) = some byte := by
        have place : ((payload.length : Int) - 1).toNat < payload.length := by
          omega
        refine ⟨payload.get ⟨_, place⟩, ?_⟩
        rw [index, if_pos (by omega)]
        exact List.getElem?_eq_getElem place
      apply Safe.bind (.orPanic last)
      intro byte
      split_ifs
      · exact .fail _
      · apply Safe.bind (.orPanic ⟨_, slice_eq_some (by omega) (by omega) (by omega)⟩)
        intro raw
        split_ifs
        · exact .pure _
        · exact .fail _

theorem readString : Safe readString := by
  apply Safe.bind readNullableString
  intro s
  cases s with
  | none => exact .fail _
  | some s => exact .pure _

theorem readString8 : Safe readString8 := by
  apply Safe.bind readNullableString8
  intro s
  cases s with
  | none => exact .fail _
  | some s => exact .pure _

theorem readBytes : Safe readBytes := by
  apply Safe.bind readInt32
  intro size
  split_ifs
  · exact .pure _
  · apply Safe.readBlock_bind
    intro payload _
    exact .pure _

theorem readRawBytes (n : Int) : Safe (readRawBytes n) := by
  apply Safe.readBlock_bind
  intro payload _
  exact .pure _

theorem readInterfaceToken : Safe readInterfaceToken := by
  apply Safe.bind readUint32
  intro _
  apply Safe.bind readInt32
  intro _
  apply Safe.bind readUint32
  intro header
  split_ifs
  · exact .fail _
  · exact readString

end Parcel.Safe

/-! ## Strings at any position of any buffer -/

namespace Parcel

variable {p middle reached : Parcel} {payload bytes : List UInt8} {start : Int}

/-- A written block is stored where the cursor was. -/
theorem BlockWritten.stores (written : BlockWritten p payload reached) (fits : p.Bounded) :
    { reached with pos := p.pos }.Stores payload := by
  have nonneg := fits.nonneg
  have inside := fits.inside
  have layout := written.layout
  have startLength : (p.buf.take p.pos.toNat).length = p.pos.toNat := by
    rw [length_take_of_le]
    unfold len at inside
    omega
  constructor
  · exact written.advanced ▸ written.bounded.inside
  · simp only [layout, block, append_assoc, drop_left' startLength]
    simp

/-- A written block leaves what is stored before it. -/
theorem BlockWritten.keeps
    (written : BlockWritten middle payload reached) (fits : middle.Bounded)
    (stored : { middle with pos := start }.Stores bytes) (nonneg : 0 ≤ start)
    (before : start + paddedLength bytes.length ≤ middle.pos) :
    { reached with pos := start }.Stores bytes := by
  have padded := le_paddedLength bytes.length
  have ends : start.toNat + bytes.length ≤ middle.pos.toNat := by
    omega
  have inside := fits.inside
  unfold len at inside
  have layout := written.layout
  constructor
  · have later := written.bounded.inside
    have advanced := written.advanced
    change start + _ ≤ reached.len
    omega
  · change (reached.buf.drop start.toNat).take bytes.length = bytes
    rw [layout, append_assoc, take_drop, take_append_of_le_length (by simp; omega), take_take,
      Nat.min_eq_left ends, ← take_drop]
    exact stored.2

/-- A block that is always filled in the same way. -/
theorem blockWritten_of_writeBlock
    {fill : List UInt8 → Option (List UInt8)}
    (fills : ∀ window : List UInt8, window.length = payload.length → fill window = some payload)
    (fits : p.Bounded) (written : writeBlock payload.length fill p = .ok () reached) :
    BlockWritten p payload reached := by
  rcases writeBlock_spec (fun window sized => ⟨payload, fills window sized, rfl⟩) fits with
    ⟨_, failed⟩ | ⟨window, stored, _, succeeded, filled, sized, spec⟩
  · rw [failed] at written
    cases written
  · rw [succeeded] at written
    cases written
    rw [fills window sized] at filled
    cases filled
    exact spec

/-- A written string lies where the cursor was, at the end or over older bytes. -/
theorem storesUnits_of_writeString
    {v : GoString} (fits : p.Bounded) (written : writeString v p = .ok () reached) :
    reached.Bounded ∧ { reached with pos := p.pos }.StoresUnits (encode (runes v)) := by
  have short := short_of_writeString written
  rw [writeString_run short] at written
  rcases of_bind_ok written with ⟨_, middle, sizeWritten, payloadWritten⟩
  have size : BlockWritten p (leBytes 4 _) middle :=
    blockWritten_of_writeBlock (fun _ sized => putLE_whole sized _) fits sizeWritten
  have payload :=
    blockWritten_of_writeBlock (fun window sized => putUnits_terminated _ (by simpa using sized))
      size.bounded payloadWritten
  have advanced := size.advanced
  rw [length_leBytes] at advanced
  refine ⟨payload.bounded, short, ?_, ?_⟩
  · exact payload.keeps size.bounded (size.stores fits) fits.nonneg size.advanced.ge
  · have stored := payload.stores size.bounded
    rwa [advanced] at stored

theorem readNullableString_ok_iff {result : Option GoString} (fits : p.Bounded) :
    (∃ reached, readNullableString p = .ok result reached) ↔
      (result = none ∧ ∃ size : Int32, size < 0 ∧ p.Stores (leBytes 4 size.toUInt32.toNat)) ∨
        ∃ units, p.StoresUnits units ∧ Utf16.Paired units ∧
          result = some (encodeRunes (decode units)) := by
  constructor
  · rintro ⟨reached, ran⟩
    rcases of_bind_ok ran with ⟨size, _, sizeRead, rest⟩
    rcases (readInt32_ok_iff fits).mp sizeRead with ⟨stored, rfl⟩
    split_ifs at rest with below large
    · cases rest
      exact .inl ⟨rfl, size, below, stored⟩
    · cases rest
    · rcases exists_count below with ⟨count, short, rfl⟩
      rw [toInt_ofInt_count short, stringWidth short] at rest
      rcases of_bind_ok rest with ⟨block, _, blockRead, _⟩
      rcases (readBlock_ok_iff (stored.bounded fits)).mp blockRead with ⟨sized, payload, _⟩
      have lastSized : (block.drop (count * 2)).length = 2 := by
        rw [length_drop]
        omega
      have small := leNat_lt (block.drop (count * 2))
      have last := leBytes_leNat (block.drop (count * 2))
      rcases exists_unitBytes count (block.take (count * 2)) (by simp; omega) with
        ⟨units, rfl, front⟩
      rw [lastSized] at small last
      rw [← take_append_drop (units.length * 2) block, ← front, ← last] at payload
      rw [readNullableString_run fits short stored small payload] at ran
      split_ifs at ran with nonzero
      · cases ran
      · rw [not_not.mp nonzero] at payload
        rcases of_bind_ok ran with ⟨_, _, checked, ended⟩
        cases ended
        cases valid : validateUTF16 units with
        | error reason =>
          rw [valid] at checked
          cases checked
        | ok => exact .inr ⟨units, ⟨short, stored, payload⟩, validateUTF16_ok_iff.mp valid, rfl⟩
  · rintro (⟨rfl, size, below, stored⟩ | ⟨units, stored, paired, rfl⟩)
    · have sizeRead := (readInt32_ok_iff fits).mpr ⟨stored, rfl⟩
      refine ⟨p.advance 4, ?_⟩
      rw [readNullableString, bind_ok sizeRead, if_pos below]
      rfl
    · exact ⟨_, readNullableString_of_stores fits stored paired⟩

end Parcel

open Parcel in
/--
From any cursor, reading a string succeeds exactly if a length is there and
either is negative, which gives no string, or the padded payload is there, a
zero unit ends it and its surrogates are paired.  Encoding a string that was
read gives the units that were read, and a written string is read again.
-/
theorem nullable_string_codec {p : Parcel} (bounded : p.Bounded) :
    (∀ result, (∃ reached, readNullableString p = .ok result reached) ↔
      (result = none ∧ ∃ size : Int32, size < 0 ∧ p.Stores (leBytes 4 size.toUInt32.toNat)) ∨
        ∃ units, p.StoresUnits units ∧ Utf16.Paired units ∧
          result = some (encodeRunes (decode units))) ∧
    (∀ v reached, readNullableString p = .ok (some v) reached → p.StoresUnits (encode (runes v))) ∧
    ∀ v reached, valid v → writeNullableString (some v) p = .ok () reached →
      ∃ last, readNullableString { reached with pos := p.pos } = .ok (some v) last := by
  refine ⟨fun result => readNullableString_ok_iff bounded, ?_, ?_⟩
  · intro v reached returned
    rcases (readNullableString_ok_iff bounded).mp ⟨reached, returned⟩ with
      ⟨absurdity, _⟩ | ⟨units, stored, paired, same⟩
    · cases absurdity
    · cases same
      rcases paired.decoded with ⟨allScalar, encoded⟩
      rwa [runes_encodeRunes allScalar, encoded]
  · intro v reached valid written
    rcases encodeRunes_runes valid with ⟨allScalar, decoded⟩
    rcases paired_encode allScalar with ⟨paired, returned⟩
    rcases storesUnits_of_writeString bounded written with ⟨reachedBounded, stored⟩
    have inside : p.pos ≤ reached.len := by
      have := stored.size.1
      change p.pos + _ ≤ reached.len at this
      omega
    have again : { reached with pos := p.pos }.Bounded :=
      ⟨bounded.nonneg, inside, reachedBounded.held⟩
    have read := readNullableString_of_stores again stored paired
    rw [returned, decoded] at read
    exact ⟨_, read⟩

/-- A parcel with the string `é`, and its cursor in front of it. -/
def accented : Parcel :=
  { Parcel.new with buf := [1, 0, 0, 0, 0xE9, 0, 0, 0] }

theorem accented_read :
    ∃ reached, Parcel.readNullableString accented = .ok (some [0xC3, 0xA9]) reached := by
  refine ((nullable_string_codec ⟨by decide, by decide, by decide⟩).1 _).mpr (.inr ⟨[0xE9], ?_⟩)
  exact ⟨⟨by decide, ⟨by decide, by decide⟩, by decide, by decide⟩, .plain rfl rfl .nil, by decide⟩

end Libbinder
