import Mathlib.Algebra.Field.Rat
import Mathlib.Data.Int.Bitwise
import Libbinder.Go.Constant

/-!
# Operations on constants

The values of `go/constant` and the operations `UnaryOp`, `BinaryOp`, `Shift`
and `Uint64Val` on them; an operation that panics has no result.  Numbers are
exact: the change to floating-point numbers of 512 bits, which the package
makes for very large and very small fractions, is not embedded.

The quotient of two integers is a fraction, and no operation turns a fraction
into an integer again.
-/

namespace Libbinder.Go

open Scanner (LiteralKind Operator)

/-! ## Values -/

/-- `constant.Value`. -/
inductive ConstantValue where
  | unknown
  | bool (value : Bool)
  | string (contents : List UInt8)
  | int (value : Int)
  | rat (value : ℚ)
  | complex (re im : ℚ)
  deriving DecidableEq

/-- The number of digits with at most one point among them. -/
def pointValue (base : Nat) (text : List UInt8) : ℚ :=
  let whole := text.takeWhile fun byte => byte != '.'.toUInt8
  let fraction := (text.drop (whole.length + 1)).filter fun byte => byte != '_'.toUInt8
  (digitsValue base (whole ++ fraction) : ℚ) / (base : ℚ) ^ fraction.length

/-- The number of an exponent with its sign. -/
def exponentValue (text : List UInt8) : Int :=
  if text.head? = some '-'.toUInt8 then -digitsValue 10 text.tail
  else digitsValue 10 (Scanner.skipSign text)

/-- A number in a base with an exponent after a mark. -/
def scaledValue (base : Nat) (mark : UInt8) (scale : ℚ)
    (text : List UInt8) : ℚ :=
  let mantissa := text.takeWhile fun byte => lower byte != mark
  pointValue base mantissa * scale ^ exponentValue (text.drop (mantissa.length + 1))

/-- The number of a floating-point literal. -/
def floatLiteralValue (literal : List UInt8) : ℚ :=
  match Scanner.scanPrefix literal with
  | (.hexadecimal, rest) => scaledValue 16 'p' 2 rest
  | (.octal, rest) => digitsValue 8 rest
  | (.binary, rest) => digitsValue 2 rest
  | _ => scaledValue 10 'e' 10 literal

namespace ConstantValue

/-- `constant.MakeFromLiteral`. -/
def ofLiteral (kind : LiteralKind) (literal : List UInt8) : ConstantValue :=
  match kind with
  | .float => .rat (floatLiteralValue literal)
  | .imag => .complex 0 (floatLiteralValue literal.dropLast)
  | _ =>
    match makeFromLiteral kind literal with
    | some (.int value) => .int value
    | some (.string contents) => .string contents
    | _ => .unknown

/-- The number of an integer or a fraction. -/
def rational : ConstantValue → Option ℚ
  | .int value => some value
  | .rat value => some value
  | _ => none

/-- The number of a numeric value. -/
def complexNumber : ConstantValue → Option (ℚ × ℚ)
  | .int value => some (value, 0)
  | .rat value => some (value, 0)
  | .complex re im => some (re, im)
  | _ => none

/-! ## Operations -/

/-- `constant.UnaryOp`, without a limit on the size. -/
def unaryOp : Operator → ConstantValue → Option ConstantValue
  | .add, .unknown | .sub, .unknown | .xor, .unknown | .not, .unknown => some .unknown
  | .add, .int value => some (.int value)
  | .add, .rat value => some (.rat value)
  | .add, .complex re im => some (.complex re im)
  | .sub, .int value => some (.int (-value))
  | .sub, .rat value => some (.rat (-value))
  | .sub, .complex re im => some (.complex (-re) (-im))
  | .xor, .int value => some (.int (.lnot value))
  | .not, .bool value => some (.bool !value)
  | _, _ => none

/-- `constant.BinaryOp` on integers. -/
def intOp (a : Int) (op : Operator) (b : Int) : Option ConstantValue :=
  match op with
  | .add => some (.int (a + b))
  | .sub => some (.int (a - b))
  | .mul => some (.int (a * b))
  | .quo => if b = 0 then none else some (.rat (a / b))
  | .rem => if b = 0 then none else some (.int (a.tmod b))
  | .and => some (.int (.land a b))
  | .or => some (.int (.lor a b))
  | .xor => some (.int (.xor a b))
  | .andNot => some (.int (.ldiff a b))
  | _ => none

/-- `constant.BinaryOp` on fractions. -/
def ratOp (a : ℚ) (op : Operator) (b : ℚ) : Option ConstantValue :=
  match op with
  | .add => some (.rat (a + b))
  | .sub => some (.rat (a - b))
  | .mul => some (.rat (a * b))
  | .quo => if b = 0 then none else some (.rat (a / b))
  | _ => none

/-- `constant.BinaryOp` on complex numbers. -/
def complexOp (a : ℚ × ℚ) (op : Operator) (b : ℚ × ℚ) : Option ConstantValue :=
  match op with
  | .add => some (.complex (a.1 + b.1) (a.2 + b.2))
  | .sub => some (.complex (a.1 - b.1) (a.2 - b.2))
  | .mul => some (.complex (a.1 * b.1 - a.2 * b.2) (a.2 * b.1 + a.1 * b.2))
  | .quo =>
    let size := b.1 * b.1 + b.2 * b.2
    if size = 0 then none
    else
      some (.complex ((a.1 * b.1 + a.2 * b.2) / size) ((a.2 * b.1 - a.1 * b.2) / size))
  | _ => none

/-- `constant.BinaryOp` on numbers of which one is no integer. -/
def numberOp (x : ConstantValue) (op : Operator) (y : ConstantValue) : Option ConstantValue :=
  match x.rational, y.rational with
  | some a, some b => ratOp a op b
  | _, _ =>
    match x.complexNumber, y.complexNumber with
    | some a, some b => complexOp a op b
    | _, _ => none

/-- `constant.BinaryOp`; values of kinds that do not match have no result. -/
def binaryOp (x : ConstantValue) (op : Operator) (y : ConstantValue) : Option ConstantValue :=
  match x, y with
  | .unknown, _ => some .unknown
  | _, .unknown => some .unknown
  | .bool a, .bool b =>
    match op with
    | .land => some (.bool (a && b))
    | .lor => some (.bool (a || b))
    | _ => none
  | .string a, .string b => if op = .add then some (.string (a ++ b)) else none
  | .int a, .int b => intOp a op b
  | x, y => numberOp x op y

/-- `constant.Shift`. -/
def shift (x : ConstantValue) (op : Operator) (count : UInt64) : Option ConstantValue :=
  match x with
  | .unknown => some .unknown
  | .int value =>
    match op with
    | .shl => some (.int (value * 2 ^ count.toNat))
    | .shr => some (.int (value / 2 ^ count.toNat))
    | _ => none
  | _ => none

/-- `constant.Uint64Val`: the value and whether it is exact. -/
def uint64Val : ConstantValue → Option (UInt64 × Bool)
  | .unknown => some (0, false)
  | .int value =>
    some
      (.ofNat (value % 2 ^ 64).toNat,
        decide (0 ≤ value ∧ value < 2 ^ 64))
  | _ => none

/-! ## Integer results -/

variable {op : Operator} {y : ConstantValue}

theorem unaryOp_eq_int {n : Int} (result : unaryOp op y = some (.int n)) :
    op ≠ .quo ∧ ∃ b, y = .int b := by
  unfold unaryOp at result
  split at result
  all_goals first
    | exact ⟨Operator.noConfusion, _, rfl⟩
    | cases result

theorem ratOp_ne_int (a : ℚ) (op : Operator) (b : ℚ) (n : Int) : ratOp a op b ≠ some (.int n) := by
  intro result
  unfold ratOp at result
  split at result
  case h_4 =>
    split_ifs at result
    cases result
  all_goals cases result

theorem complexOp_ne_int (a : ℚ × ℚ) (op : Operator) (b : ℚ × ℚ) (n : Int) :
    complexOp a op b ≠ some (.int n) := by
  intro result
  unfold complexOp at result
  split at result
  case h_4 =>
    dsimp only at result
    split_ifs at result
    cases result
  all_goals cases result

theorem numberOp_ne_int (x : ConstantValue) (op : Operator) (y : ConstantValue) (n : Int) :
    numberOp x op y ≠ some (.int n) := by
  intro result
  unfold numberOp at result
  split at result
  · exact ratOp_ne_int _ _ _ _ result
  · split at result
    · exact complexOp_ne_int _ _ _ _ result
    · cases result

/-- An integer comes from two integers that are not divided. -/
theorem binaryOp_eq_int {x : ConstantValue} {n : Int} (result : binaryOp x op y = some (.int n)) :
    op ≠ .quo ∧ (∃ a, x = .int a) ∧ ∃ b, y = .int b := by
  unfold binaryOp at result
  split at result
  · cases result
  · cases result
  · split at result
    all_goals cases result
  · split_ifs at result
    cases result
  · refine ⟨?_, ⟨_, rfl⟩, ⟨_, rfl⟩⟩
    rintro rfl
    unfold intOp at result
    dsimp only at result
    split_ifs at result
    cases result
  · exact absurd result (numberOp_ne_int _ _ _ _)

theorem shift_eq_int
    {x : ConstantValue} {count : UInt64} {n : Int} (result : shift x op count = some (.int n)) :
    ∃ a, x = .int a := by
  cases x with
  | int value => exact ⟨value, rfl⟩
  | _ => cases result

theorem uint64Val_exact {count : UInt64} (result : uint64Val y = some (count, true)) :
    ∃ b, y = .int b := by
  cases y with
  | int value => exact ⟨value, rfl⟩
  | _ => cases result

/-- A count in range is exact. -/
theorem uint64Val_int {value : Int} (nonnegative : 0 ≤ value) (small : value < 2 ^ 64) :
    uint64Val (.int value) = some (.ofNat value.toNat, true) := by
  rw [uint64Val, Int.emod_eq_of_lt nonnegative small, decide_eq_true ⟨nonnegative, small⟩]

end ConstantValue

end Libbinder.Go
