import Mathlib.Tactic.Ring

/-!
# Byte slices

Slice expressions, `copy` and the fixed-width accessors of
`encoding/binary.LittleEndian`.  An absent result stands for the bounds panic
of the Go operation.
-/

namespace Libbinder.Go

open List

variable {α : Type}

/-- The slice expression `xs[low:high]`. -/
def slice (xs : List α) (low high : Int) : Option (List α) :=
  if 0 ≤ low ∧ low ≤ high ∧ high ≤ xs.length then
    some ((xs.drop low.toNat).take (high - low).toNat)
  else
    none

/-- The index expression `xs[index]`. -/
def index (xs : List α) (position : Int) : Option α :=
  if 0 ≤ position then xs[position.toNat]? else none

/-- The bytes of `dst` after `copy(dst, src)`. -/
def copyInto (dst src : List α) : List α :=
  src.take dst.length ++ dst.drop src.length

/-- The `width` low-order bytes of a number, least significant first. -/
def leBytes : Nat → Nat → List UInt8
  | 0, _ => []
  | width + 1, value => UInt8.ofNat value :: leBytes width (value / 256)

/-- The number written by little-endian bytes. -/
def leNat : List UInt8 → Nat
  | [] => 0
  | byte :: rest => byte.toNat + 256 * leNat rest

/-- Overwrite `width` bytes of `dst` at `offset`, as `PutUint16/32/64` do. -/
def putLE (width : Nat) (dst : List UInt8) (offset value : Nat) : Option (List UInt8) :=
  if offset + width ≤ dst.length then
    some (dst.take offset ++ leBytes width value ++ dst.drop (offset + width))
  else
    none

/-- Read `width` bytes of `src` at `offset`, as `Uint16/32/64` do. -/
def getLE (width : Nat) (src : List UInt8) (offset : Nat) : Option Nat :=
  if offset + width ≤ src.length then
    some (leNat ((src.drop offset).take width))
  else
    none

/-! ## Slices -/

theorem slice_eq_some
    {xs : List α} {low high : Int} (lowNonneg : 0 ≤ low) (sorted : low ≤ high)
    (fits : high ≤ xs.length) :
    slice xs low high = some ((xs.drop low.toNat).take (high - low).toNat) := by
  simp [slice, lowNonneg, sorted, fits]

/-- Slicing the middle part out of a concatenation. -/
theorem slice_middle (before middle after : List α) :
    slice (before ++ middle ++ after) before.length
        (before.length + middle.length) =
      some middle := by
  rw [slice_eq_some (by omega) (by omega) (by simp)]
  have width : ((before.length + middle.length : Int) - before.length).toNat = middle.length := by
    omega
  rw [width]
  simp

theorem length_of_slice
    {xs part : List α} {low high : Int} (sliced : slice xs low high = some part) :
    (part.length : Int) = high - low := by
  unfold slice at sliced
  split_ifs at sliced with bounds
  cases sliced
  simp only [length_take, length_drop]
  omega

@[simp]
theorem length_copyInto (dst src : List α) : (copyInto dst src).length = dst.length := by
  simp only [copyInto, length_append, length_take, length_drop]
  omega

theorem copyInto_of_length_eq {dst src : List α} (sameLength : dst.length = src.length) :
    copyInto dst src = src := by
  unfold copyInto
  rw [sameLength, take_length, ← sameLength, drop_length, append_nil]

/-! ## Little-endian numbers -/

@[simp]
theorem length_leBytes (width value : Nat) : (leBytes width value).length = width := by
  induction width generalizing value with
  | zero => rfl
  | succ width ih => simp [leBytes, ih]

theorem leNat_leBytes (width value : Nat) : leNat (leBytes width value) = value % 256 ^ width := by
  induction width generalizing value with
  | zero => simp [leBytes, leNat, Nat.mod_one]
  | succ width ih =>
    have lowByte : (UInt8.ofNat value).toNat = value % 256 := by
      simp
    rw [leBytes, leNat, ih, lowByte, Nat.pow_succ', Nat.mod_mul]

variable {width : Nat} {value : Nat}

theorem leNat_leBytes_of_lt (small : value < 256 ^ width) :
    leNat (leBytes width value) = value := by
  rw [leNat_leBytes, Nat.mod_eq_of_lt small]

theorem leBytes_leNat (bytes : List UInt8) : leBytes bytes.length (leNat bytes) = bytes := by
  induction bytes with
  | nil => rfl
  | cons byte rest ih =>
    have upper : byte.toNat < 256 := byte.toNat_lt
    have low : UInt8.ofNat (byte.toNat + 256 * leNat rest) = byte :=
      UInt8.toNat_inj.mp (by rw [UInt8.toNat_ofNat']; omega)
    have high : (byte.toNat + 256 * leNat rest) / 256 = leNat rest := by
      omega
    rw [length_cons, leNat, leBytes, low, high, ih]

theorem leNat_lt (bytes : List UInt8) : leNat bytes < 256 ^ bytes.length := by
  rw [← leBytes_leNat bytes, leNat_leBytes, leBytes_leNat]
  exact Nat.mod_lt _ (Nat.pow_pos (by decide))

/-! ## Fixed-width accessors -/

variable {dst : List UInt8} {offset : Nat}

theorem putLE_eq_some (fits : offset + width ≤ dst.length) (value : Nat) :
    putLE width dst offset value =
      some (dst.take offset ++ leBytes width value ++ dst.drop (offset + width)) := by
  simp [putLE, fits]

theorem putLE_whole (sized : dst.length = width) (value : Nat) :
    putLE width dst 0 value = some (leBytes width value) := by
  rw [putLE_eq_some (by omega), drop_of_length_le (by omega)]
  simp

theorem length_of_putLE
    {result : List UInt8}
    (written : putLE width dst offset value = some result) : result.length = dst.length := by
  unfold putLE at written
  split_ifs at written with fits
  cases written
  simp only [length_append, length_take, length_leBytes, length_drop]
  omega

/-- Overwriting exactly the middle part of a concatenation. -/
theorem putLE_middle (before middle after : List UInt8) (value : Nat) :
    putLE middle.length (before ++ middle ++ after) before.length value =
      some (before ++ leBytes middle.length value ++ after) := by
  rw [putLE_eq_some (by simp)]
  simp [drop_append]

theorem getLE_eq_some {src : List UInt8} (fits : offset + width ≤ src.length := by omega) :
    getLE width src offset = some (leNat ((src.drop offset).take width)) := by
  simp [getLE, fits]

/-- Reading a number that was laid out in the middle of a block. -/
theorem getLE_middle (small : value < 256 ^ width) (before after : List UInt8) :
    getLE width (before ++ leBytes width value ++ after) before.length = some value := by
  rw [getLE_eq_some (by simp)]
  have middle :
      ((before ++ leBytes width value ++ after).drop before.length).take
          width =
        leBytes width value := by
    simp
  rw [middle, leNat_leBytes_of_lt small]

end Libbinder.Go
