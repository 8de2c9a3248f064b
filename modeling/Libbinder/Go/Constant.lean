import Mathlib.Data.List.Induction
import Libbinder.Go.Scanner

/-!
# Constants of literals

`constant.MakeFromLiteral` on the literals the scanner accepts.  Integers are
of any size, as in `go/constant`, and strings are unquoted.
-/

namespace Libbinder.Go

open List

open Scanner (LiteralKind NumberPrefix)

/-- Constant values; a floating-point constant is kept as its literal. -/
inductive Constant where
  | int (value : Int)
  | float (literal : List UInt8)
  | string (contents : List UInt8)
  | bool (value : Bool)
  deriving DecidableEq, Repr

/-- The number that digits denote in a base; separators are skipped. -/
def digitsValue (base : Nat) (digits : List UInt8) : Nat :=
  (digits.filter fun byte => byte != '_'.toUInt8).foldl
    (fun value byte => value * base + digitVal byte) 0

/-- `big.Int.SetString(literal, 0)`. -/
def intLiteralValue (literal : List UInt8) : Nat :=
  let start := Scanner.scanPrefix literal
  digitsValue start.1.base start.2

/-- `strconv.Unquote` of a quoted literal; raw strings stand for themselves. -/
def unquote (literal : List UInt8) : Option (List UInt8) :=
  match literal with
  | [] => none
  | quote :: rest =>
    if quote = 0x60 then
      some (rest.dropLast.filter fun byte => byte != '\r')
    else
      Scanner.unquoteFrom quote .plain rest.dropLast

/-- `constant.MakeFromLiteral`. -/
def makeFromLiteral (kind : LiteralKind) (literal : List UInt8) : Option Constant :=
  match kind with
  | .int => some (.int (intLiteralValue literal))
  | .float => some (.float literal)
  | .imag => none
  | .char =>
    (unquote literal).bind fun bytes =>
      match bytes with
      | [byte] => some (.int byte.toNat)
      | _ => (Utf8.decodeRune bytes).map fun found => .int found.1
  | .string => (unquote literal).map .string

/-! ## The values of digits -/

theorem digitsValue_concat
    {base : Nat} {last : UInt8} (isDigit : last ≠ '_'.toUInt8) (digits : List UInt8) :
    digitsValue base (digits ++ [last]) = digitsValue base digits * base + digitVal last := by
  simp [digitsValue, filter_append, isDigit]

theorem digitsValue_cons_zero (base : Nat) (digits : List UInt8) :
    digitsValue base ('0'.toUInt8 :: digits) = digitsValue base digits := by
  have nonzero : ('0'.toUInt8 != '_'.toUInt8) := by decide
  have value : digitVal '0'.toUInt8 = 0 := by decide
  simp only [digitsValue, filter_cons, nonzero, if_true,
    foldl_cons, value, Nat.zero_mul, Nat.add_zero]

/-- A larger base does not make the value smaller. -/
theorem digitsValue_mono {small large : Nat} (le : small ≤ large) (digits : List UInt8) :
    digitsValue small digits ≤ digitsValue large digits := by
  induction digits using reverseRecOn with
  | nil => exact Nat.le_refl _
  | append_singleton digits last ih =>
    by_cases separator : last = '_'.toUInt8
    · simpa [digitsValue, filter_append, separator] using ih
    · rw [digitsValue_concat separator, digitsValue_concat separator]
      exact Nat.add_le_add_right (Nat.mul_le_mul ih le) _

variable {digits : List UInt8}

/-- Digits denote zero only when each of them does. -/
theorem digitsValue_eq_zero
    {base : Nat} (above : 0 < base) (isDigits : ∀ byte ∈ digits, byte ≠ '_'.toUInt8) :
    digitsValue base digits = 0 ↔ ∀ byte ∈ digits, digitVal byte = 0 := by
  induction digits using reverseRecOn with
  | nil => simp [digitsValue]
  | append_singleton digits last ih =>
    have others : ∀ byte ∈ digits, byte ≠ '_' :=
      fun byte inDigits => isDigits byte (by simp [inDigits])
    rw [digitsValue_concat (isDigits last (by simp)), Nat.add_eq_zero_iff,
      Nat.mul_eq_zero, ih others]
    have nonzero : base ≠ 0 := Nat.pos_iff_ne_zero.mp above
    simp [nonzero, or_imp, forall_and]

/-- Digits denote the same in two bases only when all but the last are zero. -/
theorem digitsValue_eq_iff
    {small large : Nat} (above : 0 < small) (less : small < large)
    (isDigits : ∀ byte ∈ digits, byte ≠ '_'.toUInt8) :
    digitsValue small digits = digitsValue large digits ↔
      ∀ byte ∈ digits.dropLast, digitVal byte = 0 := by
  induction digits using reverseRecOn with
  | nil => simp [digitsValue]
  | append_singleton digits last _ =>
    have isLast := isDigits last (by simp)
    have others : ∀ byte ∈ digits, byte ≠ '_' :=
      fun byte inDigits => isDigits byte (by simp [inDigits])
    have le := digitsValue_mono (Nat.le_of_lt less) digits
    rw [dropLast_concat, digitsValue_concat isLast, digitsValue_concat isLast,
      Nat.add_right_cancel_iff, ← digitsValue_eq_zero (Nat.lt_trans above less) others]
    constructor
    · intro equal
      by_contra nonzero
      have strict : digitsValue large digits * small < digitsValue large digits * large :=
        Nat.mul_lt_mul_of_pos_left less (Nat.pos_of_ne_zero nonzero)
      have weak := Nat.mul_le_mul_right small le
      omega
    · intro zero
      rw [zero] at le ⊢
      rw [Nat.le_zero.mp le, Nat.zero_mul, Nat.zero_mul]

end Libbinder.Go
