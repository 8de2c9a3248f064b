import Mathlib.Algebra.Order.Ring.Rat
import Libbinder.Aidl.Integers

/-!
# Panics of the evaluator

`Eval`, `EvalInt64` and `EvalBool` on every tree that `ParseExpr` may return.
The operations of `go/constant` panic on operators and kinds of operands that
they do not support, on kinds that do not match and on division by zero.  The
evaluator panics exactly on the trees in which an operator that it reaches is
applied to such operands.
-/

namespace Libbinder.Aidl

open Go ConstantValue ConstantKind
open Go.Scanner (bytesOf LiteralKind Operator)

/-! ## The entry points with any parser -/

namespace Node

section

variable {V : Type} (arithmetic : Arithmetic V) (parseExpr : List UInt8 → Option Node)

/-- `Parse`, with any behaviour of `goparser.ParseExpr`. -/
def parse (src : List UInt8) : Option Node :=
  let src := normalize src
  if src = [] then none else parseExpr src

/-- `Eval`. -/
def eval (src : Name) (env : Env V) : Except (Fault EvalError) V :=
  match parse parseExpr src with
  | none => .error (.error (.parse src))
  | some node => evalNode arithmetic env node

/-- `EvalInt64`. -/
def evalInt64 (src : Name) (env : Env V) : Except (Fault EvalError) Int64 := do
  let value ← eval arithmetic parseExpr src env
  toInt64 arithmetic value

/-- `EvalBool`. -/
def evalBool (src : Name) (env : Env V) : Except (Fault EvalError) Bool := do
  let value ← eval arithmetic parseExpr src env
  toBool arithmetic value

end

/-! ## The operator grammar -/

/-- `ParseExpr` on the operator grammar. -/
def parseOperators (text : List UInt8) : Option Node :=
  (parseExpr text).map ofExpr

/-- With the parser of the operator grammar this is the evaluator over it. -/
theorem eval_ofExpr {V : Type} (arithmetic : Arithmetic V) (env : Env V) (src : Name) :
    eval arithmetic parseOperators src env = Aidl.eval arithmetic src env := by
  rw [eval, Aidl.eval, parse, Aidl.parse, parseOperators]
  split_ifs with empty
  · rfl
  · cases parseExpr (normalize src) with
    | none | some => rfl

end Node

open Node

/-! ## What the operations support -/

/-- The kinds of numbers. -/
def ConstantKind.isNumeric : ConstantKind → Bool
  | .int | .float | .complex => true
  | _ => false

/-- The kinds that `Shift` and `Uint64Val` support. -/
def ConstantKind.isShiftable : ConstantKind → Bool
  | .unknown | .int => true
  | _ => false

/-- The operators and kinds that `UnaryOp` supports. -/
def supportsUnary (op : Operator) (kind : ConstantKind) : Bool :=
  match op with
  | .add | .sub => kind == .unknown || kind.isNumeric
  | .xor => kind == .unknown || kind == .int
  | .not => kind == .unknown || kind == .bool
  | _ => false

/-- The operators on integers that `BinaryOp` supports. -/
def isIntegerOperator : Operator → Bool
  | .add | .sub | .mul | .quo | .rem | .and | .or | .xor | .andNot => true
  | _ => false

/-- The operators on other numbers that `BinaryOp` supports. -/
def isFieldOperator : Operator → Bool
  | .add | .sub | .mul | .quo => true
  | _ => false

/-- The operators and matching kinds that `BinaryOp` supports. -/
def supportsBinary (x : ConstantKind) (op : Operator) (y : ConstantKind) : Bool :=
  match x, y with
  | .unknown, _ => true
  | _, .unknown => true
  | .bool, .bool => op == .land || op == .lor
  | .string, .string => op == .add
  | .int, .int => isIntegerOperator op
  | x, y => x.isNumeric && y.isNumeric && isFieldOperator op

section Supported

variable {V : Type} (arithmetic : Arithmetic V) (zero : V → Prop)

/-- `BinaryOp` supports the operands and does not divide by zero. -/
def SupportsOperands (x : V) (op : Operator) (y : V) : Prop :=
  supportsBinary (arithmetic.kind x) op (arithmetic.kind y) ∧
    (op = .quo ∨ op = .rem → arithmetic.kind x ≠ .unknown → ¬ zero y)

/--
The documented panics: on operators and kinds that are not supported, on kinds
that do not match, and on division by a value that is zero.
-/
structure Documented : Prop where
  unaryOp : ∀ op y, (arithmetic.unaryOp op y).isSome ↔ supportsUnary op (arithmetic.kind y)
  binaryOp : ∀ x op y, (arithmetic.binaryOp x op y).isSome ↔ SupportsOperands arithmetic zero x op y
  shift : ∀ x op count, op = .shl ∨ op = .shr →
      ((arithmetic.shift x op count).isSome ↔ (arithmetic.kind x).isShiftable)
  uint64Val : ∀ y, (arithmetic.uint64Val y).isSome ↔ (arithmetic.kind y).isShiftable

/-- The operands that the evaluator may give to a binary operator. -/
def Applicable (x : V) (op : Operator) (y : V) : Prop :=
  if op = .shl ∨ op = .shr then
    (arithmetic.kind y).isShiftable ∧
      ∀ count, arithmetic.uint64Val y = some (count, true) → (arithmetic.kind x).isShiftable
  else
    SupportsOperands arithmetic zero x op y

variable (env : Env V)

/-- The values of the nodes. -/
inductive Denotes : Node → V → Prop
  | literal (kind : LiteralKind) (value : List UInt8) :
      Denotes (.basicLit kind value) (arithmetic.makeFromLiteral kind value)
  | isTrue : Denotes (.ident (bytesOf "true")) (arithmetic.makeBool true)
  | isFalse : Denotes (.ident (bytesOf "false")) (arithmetic.makeBool false)
  | ident {name : Name} {value : V} (notTrue : name ≠ bytesOf "true")
      (notFalse : name ≠ bytesOf "false")
      (bound : env.lookup name = some value) : Denotes (.ident name) value
  | selector {x : Node} {sel name : Name} {value : V}
      (named : Node.selectorName x sel = some name)
      (bound : env.lookup name = some value) :
      Denotes (.selectorExpr x sel) value
  | paren {x : Node} {value : V} (inner : Denotes x value) : Denotes (.parenExpr x) value
  | unary {op : Operator} {x : Node} {a value : V} (operand : Denotes x a)
      (result : arithmetic.unaryOp op a = some value) :
      Denotes (.unaryExpr op x) value
  | binary {op : Operator} {x y : Node} {a b value : V}
      (notShift : ¬ (op = .shl ∨ op = .shr))
      (left : Denotes x a) (right : Denotes y b)
      (result : arithmetic.binaryOp a op b = some value) :
      Denotes (.binaryExpr x op y) value
  | shift {op : Operator} {x y : Node} {a b value : V} {count : UInt64}
      (isShift : op = .shl ∨ op = .shr)
      (left : Denotes x a) (right : Denotes y b)
      (counted : arithmetic.uint64Val b = some (count, true))
      (result : arithmetic.shift a op count = some value) :
      Denotes (.binaryExpr x op y) value

/--
Every operator that is reached is applied to operands it supports; the operand
on the right is reached when the one on the left has a value.
-/
def Node.Safe : Node → Prop
  | .basicLit _ _ | .ident _ | .selectorExpr _ _ | .other => True
  | .parenExpr x => x.Safe
  | .unaryExpr op x =>
    x.Safe ∧ ∀ a, Denotes arithmetic env x a → supportsUnary op (arithmetic.kind a)
  | .binaryExpr x op y =>
    x.Safe ∧ ∀ a, Denotes arithmetic env x a →
      y.Safe ∧ ∀ b, Denotes arithmetic env y b → Applicable arithmetic zero a op b

end Supported

/-! ## The trees on which the evaluator panics -/

section Safety

variable {V : Type} {arithmetic : Arithmetic V} {zero : V → Prop}
  {env : Env V} {node : Node}

variable {value : V}

theorem Denotes.evalNode (denotes : Denotes arithmetic env node value) :
    node.evalNode arithmetic env = .ok value := by
  induction denotes with
  | literal | isTrue | isFalse => rfl
  | ident notTrue notFalse bound => rw [Node.evalNode, if_neg notTrue, if_neg notFalse, bound]
  | selector named bound => simp only [Node.evalNode, named, bound]
  | paren inner ih => exact ih
  | unary operand result ih =>
    rw [Node.evalNode, ih]
    exact orPanic_eq_ok_iff.mpr result
  | binary notShift left right result leftIh rightIh =>
    rw [Node.evalNode, leftIh, rightIh]
    exact applyBinary_eq_ok_iff.mpr (.inr ⟨notShift, result⟩)
  | shift isShift left right counted result leftIh
      rightIh =>
    rw [Node.evalNode, leftIh, rightIh]
    exact applyBinary_eq_ok_iff.mpr (.inl ⟨isShift, _, counted, result⟩)

theorem Denotes.of_evalNode (ran : node.evalNode arithmetic env = .ok value) :
    Denotes arithmetic env node value := by
  induction node generalizing value with
  | basicLit kind literal =>
    cases ran
    exact .literal kind literal
  | ident name =>
    rw [Node.evalNode] at ran
    split_ifs at ran with isTrue isFalse
    · cases ran
      rw [isTrue]
      exact .isTrue
    · cases ran
      rw [isFalse]
      exact .isFalse
    · split at ran
      · cases ran
      · next found bound =>
          cases ran
          exact .ident isTrue isFalse bound
  | selectorExpr x sel =>
    rw [Node.evalNode] at ran
    split at ran
    · cases ran
    · next name named =>
        split at ran
        · cases ran
        · next found bound =>
            cases ran
            exact .selector named bound
  | parenExpr x ih => exact .paren (ih ran)
  | unaryExpr op x ih =>
    rw [Node.evalNode] at ran
    rcases bind_eq_ok_iff.mp ran with ⟨a, operand, result⟩
    exact .unary (ih operand) (orPanic_eq_ok_iff.mp result)
  | binaryExpr x op y leftIh rightIh =>
    rw [Node.evalNode] at ran
    rcases bind_eq_ok_iff.mp ran with ⟨a, left, rest⟩
    rcases bind_eq_ok_iff.mp rest with ⟨b, right, applied⟩
    rcases applyBinary_eq_ok_iff.mp applied with
      ⟨isShift, count, counted, result⟩ | ⟨notShift, result⟩
    · exact .shift isShift (leftIh left) (rightIh right) counted result
    · exact .binary notShift (leftIh left) (rightIh right) result
  | other => cases ran

theorem denotes_iff :
    Denotes arithmetic env node value ↔ node.evalNode arithmetic env = .ok value :=
  ⟨Denotes.evalNode, .of_evalNode⟩

/-- A sequence panics in its first part or in what follows. -/
theorem bind_ne_panic_iff
    {α β : Type} {first : Except (Fault EvalError) α} {next : α → Except (Fault EvalError) β} :
    (first >>= next) ≠ .error .panic ↔
      first ≠ .error .panic ∧ ∀ a, first = .ok a → next a ≠ .error .panic := by
  cases first with
  | error | ok => simp [bind, Except.bind]

theorem orPanic_ne_panic_iff {α : Type} {result : Option α} :
    orPanic result ≠ .error .panic ↔ result.isSome := by
  cases result with
  | none | some => simp [orPanic]

theorem applyBinary_ne_panic_iff
    (documented : Documented arithmetic zero) (x : V) (op : Operator) (y : V) :
    applyBinary arithmetic x op y ≠ .error .panic ↔ Applicable arithmetic zero x op y := by
  by_cases isShift : op = .shl ∨ op = .shr
  · rw [applyBinary, if_pos isShift, Applicable, if_pos isShift, ← documented.uint64Val]
    cases counted : arithmetic.uint64Val y with
    | none => simp [orPanic, bind, Except.bind]
    | some found =>
      rcases found with ⟨count, exact⟩
      cases exact with
      | false => simp [orPanic, bind, Except.bind]
      | true =>
        have supported := documented.shift x op count isShift
        rw [← orPanic_ne_panic_iff] at supported
        simpa [orPanic, bind, Except.bind] using supported
  · rw [applyBinary, if_neg isShift, Applicable, if_neg isShift, ← documented.binaryOp]
    exact orPanic_ne_panic_iff

/-- The evaluator panics exactly on the trees that are not safe. -/
theorem Node.evalNode_ne_panic_iff (documented : Documented arithmetic zero) (node : Node) :
    node.evalNode arithmetic env ≠ .error .panic ↔ node.Safe arithmetic zero env := by
  induction node with
  | basicLit kind value => simp [evalNode, Node.Safe]
  | ident name =>
    rw [evalNode, Node.Safe]
    split_ifs
    · simp
    · simp
    · cases env.lookup name with
      | none | some => simp
  | selectorExpr x sel =>
    rw [evalNode, Node.Safe]
    cases selectorName x sel with
    | none => simp
    | some name =>
      cases bound : env.lookup name with
      | none | some => simp [bound]
  | parenExpr x ih => exact ih
  | unaryExpr op x ih =>
    rw [Node.Safe, ← ih, evalNode, bind_ne_panic_iff]
    apply and_congr_right
    intro _
    apply forall_congr'
    intro a
    rw [denotes_iff, orPanic_ne_panic_iff, documented.unaryOp]
  | binaryExpr x op y leftIh rightIh =>
    rw [Node.Safe, ← leftIh, evalNode, bind_ne_panic_iff]
    apply and_congr_right
    intro _
    apply forall_congr'
    intro a
    rw [denotes_iff, ← rightIh, bind_ne_panic_iff]
    apply imp_congr_right
    intro _
    apply and_congr_right
    intro _
    apply forall_congr'
    intro b
    rw [denotes_iff, applyBinary_ne_panic_iff documented]
  | other => simp [evalNode, Node.Safe]

end Safety

/-! ## The panics of `go/constant` -/

/-- The numbers that are zero. -/
def IsZero : ConstantValue → Prop
  | .int value => value = 0
  | .rat value => value = 0
  | .complex re im => re = 0 ∧ im = 0
  | _ => False

theorem isSome_unaryOp (op : Operator) (y : ConstantValue) :
    (unaryOp op y).isSome = supportsUnary op (kindOfValue y) := by
  cases op <;> cases y <;> rfl

theorem isSome_intOp (a : Int) (op : Operator) (b : Int) :
    (intOp a op b).isSome ↔ isIntegerOperator op ∧ (op = .quo ∨ op = .rem → b ≠ 0) := by
  cases op with
  | quo | rem =>
    by_cases isZero : b = 0
    all_goals simp [intOp, isIntegerOperator, isZero]
  | _ => simp [intOp, isIntegerOperator]

theorem isSome_ratOp (a : ℚ) (op : Operator) (b : ℚ) :
    (ratOp a op b).isSome ↔ isFieldOperator op ∧ (op = .quo ∨ op = .rem → b ≠ 0) := by
  cases op with
  | quo =>
    by_cases isZero : b = 0
    all_goals simp [ratOp, isFieldOperator, isZero]
  | _ => simp [ratOp, isFieldOperator]

theorem isSome_complexOp (a : ℚ × ℚ) (op : Operator) (b : ℚ × ℚ) :
    (complexOp a op b).isSome ↔
      isFieldOperator op ∧ (op = .quo ∨ op = .rem → ¬ (b.1 = 0 ∧ b.2 = 0)) := by
  cases op with
  | quo =>
    rw [← mul_self_add_mul_self_eq_zero]
    by_cases isZero : b.1 * b.1 + b.2 * b.2 = 0
    all_goals simp [complexOp, isFieldOperator, isZero]
  | _ => simp [complexOp, isFieldOperator]

theorem isSome_boolOp (a : Bool) (op : Operator) (b : Bool) :
    (binaryOp (.bool a) op (.bool b)).isSome = (op == .land || op == .lor) := by
  cases op <;> rfl

theorem isSome_numberOp (x : ConstantValue) (op : Operator) (y : ConstantValue) :
    (numberOp x op y).isSome ↔
      (kindOfValue x).isNumeric ∧ (kindOfValue y).isNumeric ∧
        isFieldOperator op ∧ (op = .quo ∨ op = .rem → ¬ IsZero y) := by
  cases x <;> cases y <;>
    simp [numberOp, rational, complexNumber, kindOfValue,
      isNumeric, isSome_ratOp, isSome_complexOp, IsZero]

theorem isSome_binaryOp (x : ConstantValue) (op : Operator) (y : ConstantValue) :
    (binaryOp x op y).isSome ↔ SupportsOperands goArithmetic IsZero x op y := by
  change _ ↔
    supportsBinary (kindOfValue x) op (kindOfValue y) ∧
      (op = .quo ∨ op = .rem → kindOfValue x ≠ .unknown → ¬ IsZero y)
  cases x with
  | unknown => simp [binaryOp, supportsBinary, kindOfValue]
  | bool a =>
    cases y with
    | bool b => simp [isSome_boolOp, supportsBinary, kindOfValue, IsZero]
    | _ =>
      simp [binaryOp, supportsBinary, kindOfValue, isNumeric, isSome_numberOp, IsZero]
  | int a =>
    cases y with
    | int b => simp [binaryOp, supportsBinary, kindOfValue, isSome_intOp, IsZero]
    | _ =>
      simp [binaryOp, supportsBinary, kindOfValue, isNumeric, isSome_numberOp, IsZero]
  | string a | rat a | complex a b =>
    cases y <;>
      simp [binaryOp, supportsBinary, kindOfValue, isNumeric, isSome_numberOp, IsZero]

/-- `go/constant` panics as documented. -/
theorem goArithmetic_documented : Documented goArithmetic IsZero where
  unaryOp op y := by
    change (unaryOp op y).isSome ↔ _
    rw [isSome_unaryOp]
    rfl
  binaryOp := isSome_binaryOp
  shift x op count isShift := by
    cases x <;> rcases isShift with rfl | rfl <;> rfl
  uint64Val y := by
    cases y <;> rfl

/-! ## Evaluation without a panic -/

/--
`Eval`, `EvalInt64` and `EvalBool` return a value or an error, and do not
panic, exactly if the tree of the source is safe.
-/
theorem evaluation_never_panics_iff
    {V : Type} {arithmetic : Arithmetic V} {zero : V → Prop}
    (documented : Documented arithmetic zero)
    (parseExpr : List UInt8 → Option Node) (src : Name) (env : Env V) :
    (Node.eval arithmetic parseExpr src env ≠ .error .panic ∧
        Node.evalInt64 arithmetic parseExpr src env ≠ .error .panic ∧
        Node.evalBool arithmetic parseExpr src env ≠ .error .panic) ↔
      ∀ node, Node.parse parseExpr src = some node → node.Safe arithmetic zero env := by
  have whole :
      Node.eval arithmetic parseExpr src env ≠ .error .panic ↔
        ∀ node, Node.parse parseExpr src = some node → node.Safe arithmetic zero env := by
    rw [Node.eval]
    cases Node.parse parseExpr src with
    | none => simp
    | some node => simp [Node.evalNode_ne_panic_iff documented]
  rw [← whole]
  constructor
  · exact And.left
  · intro noPanic
    refine ⟨noPanic, ?_, ?_⟩
    · refine bind_ne_panic_iff.mpr ⟨noPanic, ?_⟩
      intro value _
      dsimp only [toInt64]
      split_ifs
      · simp
      · simp
      · simp
    · refine bind_ne_panic_iff.mpr ⟨noPanic, ?_⟩
      intro value _
      dsimp only [toBool]
      split_ifs
      · simp
      · simp

theorem evaluation_never_panics_shift :
    Documented goArithmetic IsZero ∧
      Node.eval goArithmetic Node.parseOperators (bytesOf "1<<3") [] ≠ .error .panic ∧
        Node.evalInt64 goArithmetic Node.parseOperators (bytesOf "1<<3") [] ≠ .error .panic ∧
        Node.evalBool goArithmetic Node.parseOperators (bytesOf "1<<3") [] ≠ .error .panic := by
  refine ⟨goArithmetic_documented,
      (evaluation_never_panics_iff goArithmetic_documented Node.parseOperators
        (bytesOf "1<<3") []).mpr ?_⟩
  have parsed :
      Node.parse Node.parseOperators (bytesOf "1<<3") =
        some (.binaryExpr (.basicLit .int (bytesOf "1")) .shl (.basicLit .int (bytesOf "3"))) := by
    decide +kernel
  intro node same
  rw [parsed] at same
  cases same
  refine ⟨trivial, ?_⟩
  intro a left
  refine ⟨trivial, ?_⟩
  intro b right
  cases denotes_iff.mp left
  cases denotes_iff.mp right
  exact ⟨rfl, fun _ _ => rfl⟩

/-- Division by zero, a negated string and a comparison panic. -/
theorem evaluation_panics :
    Node.eval goArithmetic Node.parseOperators (bytesOf "1/0") [] = .error .panic ∧
      Node.evalInt64 goArithmetic Node.parseOperators (bytesOf "-\"a\"") [] = .error .panic ∧
      Node.evalBool goArithmetic Node.parseOperators (bytesOf "1==1") [] = .error .panic := by
  exact ⟨rfl, rfl, rfl⟩

end Libbinder.Aidl
