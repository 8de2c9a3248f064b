import Libbinder.Aidl.Expr
import Libbinder.Aidl.Names
import Libbinder.Go.Action

/-!
# Evaluation of constant expressions

`Eval` and its variants of `internal/aidl/expr`.  The operations of
`go/constant` are a parameter, and those that panic on some operands say so
by an absent result.
-/

namespace Libbinder.Aidl

open Go
open Go.Scanner (bytesOf LiteralKind Operator)

/-! ## The operations of `go/constant` -/

/-- `constant.Kind`. -/
inductive ConstantKind where
  | unknown
  | bool
  | string
  | int
  | float
  | complex
  deriving DecidableEq, Repr

/-- The part of `go/constant` the evaluator uses, over its values. -/
structure Arithmetic (V : Type) where
  makeFromLiteral : LiteralKind → List UInt8 → V
  makeBool : Bool → V
  makeInt64 : Int64 → V
  kind : V → ConstantKind
  unaryOp : Operator → V → Option V
  binaryOp : V → Operator → V → Option V
  shift : V → Operator → UInt64 → Option V
  /-- The value and whether it is exact; absent for a panic. -/
  uint64Val : V → Option (UInt64 × Bool)
  /-- The value and whether it is exact, of an integer constant. -/
  int64Val : V → Int64 × Bool
  /-- The value of a boolean constant. -/
  boolVal : V → Bool

/-- The kind of the constant of a literal. -/
def kindOf : Option Constant → ConstantKind
  | none => .unknown
  | some (.int _) => .int
  | some (.float _) => .float
  | some (.string _) => .string
  | some (.bool _) => .bool

/--
`go/constant` on the constants of literals.  An operator has no result here,
so only expressions without one have a value.
-/
def literalArithmetic : Arithmetic (Option Constant) where
  makeFromLiteral := makeFromLiteral
  makeBool value := some (.bool value)
  makeInt64 value := some (.int value.toInt)
  kind := kindOf
  unaryOp _ _ := none
  binaryOp _ _ _ := none
  shift _ _ _ := none
  uint64Val _ := none
  int64Val
    | some (.int value) =>
      (.ofInt value,
        decide (-9223372036854775808 ≤ value ∧ value ≤ 9223372036854775807))
    | _ => (0, false)
  boolVal
    | some (.bool value) => value
    | _ => false

/-! ## The evaluator -/

/-- The errors of `Eval`, `EvalInt64` and `EvalBool`. -/
inductive EvalError where
  /-- `empty expression`, or the text of the Go parser. -/
  | parse (src : Name)
  /-- `unresolved identifier %q` -/
  | unresolvedIdentifier (name : Name)
  /-- `unsupported selector expression` -/
  | unsupportedSelector
  /-- `unresolved selector %q` -/
  | unresolvedSelector (name : Name)
  /-- `invalid shift count` -/
  | invalidShiftCount
  /-- `unsupported expression %T` -/
  | unsupportedExpression
  /-- `not an integer constant` -/
  | notAnInteger
  /-- `integer constant out of int64 range` -/
  | outOfRange
  /-- `not a boolean constant` -/
  | notABoolean
  deriving DecidableEq, Repr

/-- The constants in scope. -/
abbrev Env (V : Type) :=
  List (Name × V)

/-- `goast.Expr`; every node that the evaluator does not handle is `other`. -/
inductive Node where
  | basicLit (kind : LiteralKind) (value : List UInt8)
  | ident (name : Name)
  | selectorExpr (x : Node) (sel : Name)
  | parenExpr (x : Node)
  | unaryExpr (op : Operator) (x : Node)
  | binaryExpr (x : Node) (op : Operator) (y : Node)
  | other
  deriving DecidableEq, Repr

namespace Node

/-- `selectorName`: the parts of a chain of selectors on an identifier. -/
def selectorParts : Node → Option (List Name)
  | .ident name => some [name]
  | .selectorExpr x sel => (selectorParts x).map fun parts => parts ++ [sel]
  | _ => none

/-- `selectorName`. -/
def selectorName (x : Node) (sel : Name) : Option Name :=
  (selectorParts (.selectorExpr x sel)).map (join (bytesOf "."))

/-- The node of a tree of the operator grammar; a star is not handled. -/
def ofExpr : Expr → Node
  | .basicLit kind value => .basicLit kind value
  | .ident name => .ident name
  | .selectorExpr x sel => .selectorExpr (ofExpr x) sel
  | .parenExpr x => .parenExpr (ofExpr x)
  | .unaryExpr op x => if op = .mul then .other else .unaryExpr op (ofExpr x)
  | .binaryExpr x op y => .binaryExpr (ofExpr x) op (ofExpr y)

end Node

/-- `selectorName` and `selectorQName`. -/
def selectorName (x : Expr) (sel : Name) : Option Name :=
  Node.selectorName (.ofExpr x) sel

/-- A result of `go/constant` whose absence stands for a panic. -/
def orPanic {V : Type} : Option V → Except (Fault EvalError) V
  | some value => .ok value
  | none => .error .panic

section

variable {V : Type} (arithmetic : Arithmetic V)

/-- The operator of a binary node on the values of its operands. -/
def applyBinary (left : V) (op : Operator) (right : V) : Except (Fault EvalError) V :=
  if op = .shl ∨ op = .shr then do
    let (count, exact) ← orPanic (arithmetic.uint64Val right)
    if exact then orPanic (arithmetic.shift left op count)
    else .error (.error .invalidShiftCount)
  else
    orPanic (arithmetic.binaryOp left op right)

/-- `evalNode`. -/
def Node.evalNode (env : Env V) : Node → Except (Fault EvalError) V
  | .basicLit kind value => .ok (arithmetic.makeFromLiteral kind value)
  | .ident name =>
    if name = bytesOf "true" then .ok (arithmetic.makeBool true)
    else if name = bytesOf "false" then .ok (arithmetic.makeBool false)
    else
      match env.lookup name with
      | none => .error (.error (.unresolvedIdentifier name))
      | some value => .ok value
  | .selectorExpr x sel =>
    match x.selectorName sel with
    | none => .error (.error .unsupportedSelector)
    | some name =>
      match env.lookup name with
      | none => .error (.error (.unresolvedSelector name))
      | some value => .ok value
  | .parenExpr x => evalNode env x
  | .unaryExpr op x => do
    let value ← evalNode env x
    orPanic (arithmetic.unaryOp op value)
  | .binaryExpr x op y => do
    let left ← evalNode env x
    let right ← evalNode env y
    applyBinary arithmetic left op right
  | .other => .error (.error .unsupportedExpression)

/-- `evalNode` on a tree of the operator grammar. -/
def evalNode (env : Env V) (tree : Expr) : Except (Fault EvalError) V :=
  (Node.ofExpr tree).evalNode arithmetic env

/-- The end of `EvalInt64`. -/
def toInt64 (value : V) : Except (Fault EvalError) Int64 :=
  if arithmetic.kind value = .int then
    let (out, exact) := arithmetic.int64Val value
    if exact then .ok out else .error (.error .outOfRange)
  else
    .error (.error .notAnInteger)

/-- The end of `EvalBool`. -/
def toBool (value : V) : Except (Fault EvalError) Bool :=
  if arithmetic.kind value = .bool then .ok (arithmetic.boolVal value)
  else .error (.error .notABoolean)

/-- `Eval`. -/
def eval (src : Name) (env : Env V) : Except (Fault EvalError) V :=
  match parse src with
  | none => .error (.error (.parse src))
  | some node => evalNode arithmetic env node

/-- `EvalInt64`. -/
def evalInt64 (src : Name) (env : Env V) : Except (Fault EvalError) Int64 := do
  let value ← eval arithmetic src env
  toInt64 arithmetic value

/-- `EvalBool`. -/
def evalBool (src : Name) (env : Env V) : Except (Fault EvalError) Bool := do
  let value ← eval arithmetic src env
  toBool arithmetic value

end

/-! ## What a value comes from -/

section Values

variable {V : Type} {arithmetic : Arithmetic V} {env : Env V}

/-- A sequence returns what its second part does with the value of the first. -/
theorem bind_eq_ok_iff
    {α β : Type} {first : Except (Fault EvalError) α} {next : α → Except (Fault EvalError) β}
    {value : β} : first >>= next = .ok value ↔ ∃ a, first = .ok a ∧ next a = .ok value := by
  cases first with
  | error | ok => simp [bind, Except.bind]

theorem orPanic_eq_ok_iff {result : Option V} {value : V} :
    orPanic result = .ok value ↔ result = some value := by
  cases result with
  | none | some => simp [orPanic]

variable {op : Operator}

theorem applyBinary_eq_ok_iff {left right value : V} :
    applyBinary arithmetic left op right = .ok value ↔
      ((op = .shl ∨ op = .shr) ∧ ∃ count,
          arithmetic.uint64Val right = some (count, true) ∧
            arithmetic.shift left op count = some value) ∨
        (¬ (op = .shl ∨ op = .shr) ∧ arithmetic.binaryOp left op right = some value) := by
  by_cases isShift : op = .shl ∨ op = .shr
  · rw [applyBinary, if_pos isShift]
    cases counted : arithmetic.uint64Val right with
    | none => simp [orPanic, bind, Except.bind, isShift]
    | some found =>
      rcases found with ⟨count, exact⟩
      cases exact with
      | false => simp [orPanic, bind, Except.bind, isShift]
      | true =>
        change orPanic (arithmetic.shift left op count) = _ ↔ _
        rw [orPanic_eq_ok_iff]
        simp [isShift]
  · rw [applyBinary, if_neg isShift, orPanic_eq_ok_iff]
    simp [isShift]

variable {x y : Expr} {value : V}

theorem evalNode_unaryExpr (notStar : op ≠ .mul) :
    evalNode arithmetic env (.unaryExpr op x) =
      evalNode arithmetic env x >>= fun a => orPanic (arithmetic.unaryOp op a) := by
  rw [evalNode, Node.ofExpr, if_neg notStar]
  rfl

theorem evalNode_binaryExpr :
    evalNode arithmetic env (.binaryExpr x op y) =
      evalNode arithmetic env x >>= fun a =>
        evalNode arithmetic env y >>= fun b => applyBinary arithmetic a op b :=
  rfl

theorem evalNode_unary_eq_ok (ran : evalNode arithmetic env (.unaryExpr op x) = .ok value) :
    op ≠ .mul ∧ ∃ a, evalNode arithmetic env x = .ok a ∧ arithmetic.unaryOp op a = some value := by
  have notStar : op ≠ .mul := by
    rintro rfl
    cases ran
  rw [evalNode_unaryExpr notStar] at ran
  rcases bind_eq_ok_iff.mp ran with ⟨a, operand, result⟩
  exact ⟨notStar, a, operand, orPanic_eq_ok_iff.mp result⟩

theorem evalNode_binary_eq_ok (ran : evalNode arithmetic env (.binaryExpr x op y) = .ok value) :
    ∃ a b, evalNode arithmetic env x = .ok a ∧
      evalNode arithmetic env y = .ok b ∧
      applyBinary arithmetic a op b = .ok value := by
  rcases bind_eq_ok_iff.mp (evalNode_binaryExpr.symm.trans ran) with ⟨a, left, rest⟩
  rcases bind_eq_ok_iff.mp rest with ⟨b, right, applied⟩
  exact ⟨a, b, left, right, applied⟩

end Values

/-- `registerValueAliases`: the aliases of a name that are not yet taken. -/
def registerValueAliases {V : Type} (env : Env V) (full : Name) (value : V) : Env V :=
  (aliases full).foldl
    (fun env known =>
      if (env.lookup known).isSome then env else env ++ [(known, value)])
    env

end Libbinder.Aidl
