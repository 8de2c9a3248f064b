import Mathlib.Tactic.Common

/-!
# Machine integers

Go's `int` on the 64-bit targets is a two's complement integer.  Model values
are mathematical integers; every arithmetic result passes through `wrapInt`,
so an overflow would be visible in the model.
-/

namespace Libbinder.Go

/-- The largest `int`, the source's `int(^uint(0) >> 1)`. -/
def maxInt : Int :=
  9223372036854775807

/-- The largest `int32`, the source's `int(^uint32(0) >> 1)`. -/
def maxInt32 : Int :=
  2147483647

/-- Two's complement wrap-around of a 64-bit arithmetic result. -/
def wrapInt (value : Int) : Int :=
  (value + 9223372036854775808) % 18446744073709551616 - 9223372036854775808

/-- A result inside the 64-bit range is not changed by the wrap-around. -/
theorem wrapInt_eq
    {value : Int} (lower : -9223372036854775808 ≤ value := by omega)
    (upper : value ≤ 9223372036854775807 := by omega) : wrapInt value = value := by
  unfold wrapInt
  omega

theorem uint32_or_and_self (first second : UInt32) : (first ||| second) &&& first = first := by
  apply UInt32.toBitVec_inj.mp
  rw [UInt32.toBitVec_and, UInt32.toBitVec_or]
  ext index bound
  rw [BitVec.getElem_and, BitVec.getElem_or]
  cases first.toBitVec[index] <;> simp

end Libbinder.Go
