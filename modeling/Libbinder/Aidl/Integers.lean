import Libbinder.Aidl.Eval
import Libbinder.Aidl.Literals
import Libbinder.Go.ConstantOps
import Libbinder.Go.Grouping

/-!
# Integer expressions

The value of an integer expression in AIDL, and what `Eval` makes of it.  The
operators of AIDL bind as in C and Java, while `Eval` has the text grouped by
the Go parser and divides into fractions.  An expression keeps its value when
Go reads its tokens, its literals and its grouping as AIDL does and nothing is
divided.
-/

namespace Libbinder.Aidl

open BinaryOperator

open Go List Option Expression

/-! ## The values of expressions -/

/-- The numbers of a `long`. -/
def longValue (n : Int) : Option Int :=
  if -2 ^ 63 ≤ n ∧ n < 2 ^ 63 then some n else none

/-- The number of an integer literal. -/
def Literal.integer : Literal → Option Int
  | .decimal inner => some (digitsValue 10 inner.digits)
  | .hexadecimal inner => some (digitsValue 16 inner.digits)
  | _ => none

/-- The unary operators on integers. -/
def UnaryOperator.integer : UnaryOperator → Int → Option Int
  | .plus, a => some a
  | .minus, a => some (-a)
  | .complement, a => some (.lnot a)
  | .not, _ => none

/--
The binary operators on integers.  Division and remainder truncate towards
zero, and a shift count is a number of bits below the width.
-/
def BinaryOperator.integer : BinaryOperator → Int → Int → Option Int
  | .plus, a, b => some (a + b)
  | .minus, a, b => some (a - b)
  | .times, a, b => some (a * b)
  | .divide, a, b => if b = 0 then none else some (a.tdiv b)
  | .remainder, a, b => if b = 0 then none else some (a.tmod b)
  | .shiftLeft, a, b => if 0 ≤ b ∧ b < 64 then some (a * 2 ^ b.toNat) else none
  | .shiftRight, a, b => if 0 ≤ b ∧ b < 64 then some (a / 2 ^ b.toNat) else none
  | .bitAnd, a, b => some (.land a b)
  | .bitOr, a, b => some (.lor a b)
  | .bitXor, a, b => some (.xor a b)
  | _, _, _ => none

/-- The value of an integer expression, where it is defined. -/
def Expression.value : Expression → Option Int
  | .literal _ inner => inner.integer.bind longValue
  | .name _ _ _ => none
  | .paren _ inner _ => inner.value
  | .unary _ sign operand => operand.value.bind fun a => (sign.integer a).bind longValue
  | .binary left _ sign right =>
    left.value.bind fun a =>
      right.value.bind fun b => (sign.integer a b).bind longValue

/-! ## Grouping -/

/-- How tightly the operators of AIDL bind. -/
def aidlLevel : BinaryOperator → Nat
  | .logicalOr => 1
  | .logicalAnd => 2
  | .bitOr => 3
  | .bitXor => 4
  | .bitAnd => 5
  | .equal | .notEqual => 6
  | .less | .lessEqual | .greater | .greaterEqual => 7
  | .shiftLeft | .shiftRight => 8
  | .plus | .minus => 9
  | .times | .divide | .remainder => 10

/-- How tightly Go binds the operators. -/
def goLevel (sign : BinaryOperator) : Nat :=
  precedence sign.go

namespace Expression

/-- How tightly an expression binds; no operator binds like an operand. -/
def level (levels : BinaryOperator → Nat) : Expression → Nat
  | .binary _ _ sign _ => levels sign
  | _ => 11

/-- The binary operators are grouped by their levels, and to the left. -/
def GroupedBy (levels : BinaryOperator → Nat) : Expression → Prop
  | .literal _ _ => True
  | .name _ _ _ => True
  | .paren _ inner _ => inner.GroupedBy levels
  | .unary _ _ operand => operand.level levels = 11 ∧ operand.GroupedBy levels
  | .binary left _ sign right =>
    levels sign ≤ left.level levels ∧ levels sign < right.level levels ∧
      left.GroupedBy levels ∧ right.GroupedBy levels

/-- AIDL reads a text as an expression grouped by its levels. -/
structure ReadAs (source : List UInt8) (expression : Expression) : Prop where
  grouped : expression.GroupedBy aidlLevel
  isText : ∃ trailing, source = expression.text trailing

/-- No operator of the expression divides. -/
def Undivided (expression : Expression) : Prop :=
  ∀ placed ∈ expression.tokens, placed.2 ≠ .binary .divide

end Expression

open Expression

/-! ## The operations of the evaluator -/

/-- `Kind`. -/
def kindOfValue : ConstantValue → ConstantKind
  | .unknown => .unknown
  | .bool _ => .bool
  | .string _ => .string
  | .int _ => .int
  | .rat _ => .float
  | .complex _ _ => .complex

/-- `go/constant` on its values. -/
def goArithmetic : Arithmetic ConstantValue where
  makeFromLiteral := .ofLiteral
  makeBool := .bool
  makeInt64 value := .int value.toInt
  kind := kindOfValue
  unaryOp := ConstantValue.unaryOp
  binaryOp := ConstantValue.binaryOp
  shift := ConstantValue.shift
  uint64Val := ConstantValue.uint64Val
  int64Val
    | .int value => (.ofInt value, (longValue value).isSome)
    | _ => (0, false)
  boolVal
    | .bool value => value
    | _ => false

/-! ## The Go tree of an expression -/

/--
The Go tree with the grouping of an expression.  The complement right after an
`&` is part of the operator `&^`.
-/
inductive GoTree : Expression → Expr → Prop
  | literal {blanks : Blanks} {inner : Literal}
      {found : Scanner.LiteralKind × List UInt8}
      (go : inner.goLiteral = some found) :
      GoTree (.literal blanks inner) (.basicLit found.1 found.2)
  | paren {opening closing : Blanks} {inner : Expression} {x : Expr}
      (tree : GoTree inner x) :
      GoTree (.paren opening inner closing) (.parenExpr x)
  | unary {blanks : Blanks} {operand : Expression} {x : Expr}
      (sign : UnaryOperator) (tree : GoTree operand x) :
      GoTree (.unary blanks sign operand) (.unaryExpr sign.go x)
  | binary {blanks : Blanks} {left right : Expression} {x y : Expr}
      {sign : BinaryOperator}
      (alone : ∀ second ∈ right.tokens.head?, joinWith (.binary sign) second = none)
      (leftTree : GoTree left x) (rightTree : GoTree right y) :
      GoTree (.binary left blanks sign right) (.binaryExpr x sign.go y)
  | andNot {blanks joined : Blanks} {left operand : Expression} {x y : Expr}
      (adjacent : joined.val = [])
      (leftTree : GoTree left x) (operandTree : GoTree operand y) :
      GoTree
        (.binary left blanks .bitAnd (.unary joined .complement operand))
        (.binaryExpr x .andNot y)

variable {sign : BinaryOperator} {blanks : Blanks}

theorem lexemes_binary
    {rest : List (Blanks × Token)}
    (alone : ∀ second ∈ rest.head?, joinWith (.binary sign) second = none) :
    lexemes ((blanks, .binary sign) :: rest) = .token (.binary sign) :: lexemes rest := by
  cases rest with
  | nil => rfl
  | cons second others => simp only [lexemes, alone second rfl]

variable {expression : Expression} {tree : Expr}

/-- The Go tokens of an expression are those of its tree. -/
theorem GoTree.tokens (go : GoTree expression tree) (apart : Apart expression.tokens) :
    goTokens (lexemes expression.tokens) = some tree.flatten := by
  induction go with
  | literal go =>
    exact goTokens_token (map_eq_some_iff.mpr ⟨_, go, rfl⟩) rfl
  | @paren opening closing inner x tree ih =>
    rw [Expression.tokens, cons_append] at apart
    exact goTokens_paren opening closing (ih apart.of_cons.of_append.1)
  | unary sign tree ih =>
    rw [Expression.tokens, lexemes_unary apart]
    exact goTokens_token rfl (ih apart.of_cons)
  | @binary blanks left right x y sign alone _ _ leftIh
      rightIh =>
    rw [Expression.tokens] at apart
    have rightGo := rightIh apart.of_append.2.of_cons
    rw [Expression.tokens, lexemes_append _ (startsAfresh_binary blanks sign _)]
    apply goTokens_append (leftIh apart.of_append.1)
    rw [lexemes_binary alone]
    exact goTokens_token rfl rightGo
  | @andNot blanks joined left operand x y adjacent _ _ leftIh
      operandHypothesis =>
    rw [Expression.tokens] at apart
    have operandGo := operandHypothesis apart.of_append.2.of_cons.of_cons
    rw [Expression.tokens, lexemes_append _ (startsAfresh_binary blanks .bitAnd _)]
    apply goTokens_append (leftIh apart.of_append.1)
    simp [Expression.tokens, lexemes, joinWith, Token.join, adjacent, goTokens,
      Lexeme.go, operandGo]

theorem goLevel_pos (sign : BinaryOperator) : 1 ≤ goLevel sign := by
  cases sign <;> decide

/-- The Go tree is grouped when the expression is grouped by Go's levels. -/
theorem GoTree.grouped (go : GoTree expression tree) (grouped : expression.GroupedBy goLevel) :
    tree.Grouped ∧ tree.level = min 6 (expression.level goLevel) := by
  induction go with
  | literal go => exact ⟨trivial, rfl⟩
  | paren tree ih => exact ⟨(ih grouped).1, rfl⟩
  | unary sign tree ih =>
    rcases grouped with ⟨tight, inner⟩
    rcases ih inner with ⟨innerGrouped, level⟩
    rw [tight] at level
    have isUnarySign : isUnary sign.go := by cases sign <;> rfl
    exact ⟨⟨isUnarySign, level, innerGrouped⟩, rfl⟩
  | @binary blanks left right x y sign _ _ _ leftIh
      rightIh =>
    rcases grouped with ⟨leftTight, rightTight, leftInner, rightInner⟩
    rcases leftIh leftInner with ⟨leftGrouped, leftLevel⟩
    rcases rightIh rightInner with ⟨rightGrouped, rightLevel⟩
    have above : 1 ≤ precedence sign.go := goLevel_pos sign
    have low := precedence_le sign.go
    change precedence sign.go ≤ _ at leftTight
    change precedence sign.go < _ at rightTight
    refine ⟨⟨above, by omega, by omega, leftGrouped, rightGrouped⟩, ?_⟩
    change precedence sign.go = min 6 (precedence sign.go)
    omega
  | @andNot blanks joined left operand x y _ _ _ leftIh
      operandHypothesis =>
    rcases grouped with ⟨leftTight, -, leftInner, tight, operandInner⟩
    rcases leftIh leftInner with ⟨leftGrouped, leftLevel⟩
    rcases operandHypothesis operandInner with ⟨operandGrouped, operandLevel⟩
    change 5 ≤ _ at leftTight
    refine ⟨⟨Nat.le_of_ble_eq_true rfl, ?_, ?_, leftGrouped, operandGrouped⟩, rfl⟩
    · change 5 ≤ x.level
      omega
    · change 5 < y.level
      omega

/-! ## Values of Go trees -/

variable {n : Int}

theorem longValue_eq_some {result : Int} (defined : longValue n = some result) : result = n := by
  unfold longValue at defined
  split_ifs at defined
  exact (Option.some.inj defined).symm

theorem Expression.value_unary
    {sign : UnaryOperator} {operand : Expression}
    (defined : (unary blanks sign operand).value = some n) :
    ∃ a, operand.value = some a ∧ sign.integer a = some n := by
  rcases bind_eq_some_iff.mp defined with ⟨a, operandValue, rest⟩
  rcases bind_eq_some_iff.mp rest with ⟨result, used, inRange⟩
  rw [longValue_eq_some inRange]
  exact ⟨a, operandValue, used⟩

theorem Expression.value_binary
    {left right : Expression} (defined : (binary left blanks sign right).value = some n) :
    ∃ a b, left.value = some a ∧ right.value = some b ∧ sign.integer a b = some n := by
  rcases bind_eq_some_iff.mp defined with ⟨a, leftValue, rest⟩
  rcases bind_eq_some_iff.mp rest with ⟨b, rightValue, applies⟩
  rcases bind_eq_some_iff.mp applies with ⟨result, used, inRange⟩
  rw [longValue_eq_some inRange]
  exact ⟨a, b, leftValue, rightValue, used⟩

/-- The Go literal of a literal that survives is its number. -/
theorem Literal.ofLiteral_eq
    {literal : Literal} {found : Scanner.LiteralKind × List UInt8}
    (go : literal.goLiteral = some found) (stays : literal.Survives)
    (number : literal.integer = some n) : ConstantValue.ofLiteral found.1 found.2 = .int n := by
  rcases literal.survives_iff.mpr stays with ⟨other, otherGo, denotes⟩
  rw [go] at otherGo
  cases otherGo
  cases literal with
  | decimal inner =>
    rw [goLiteral] at go
    split_ifs at go
    cases go
    cases number
    simp only [ConstantValue.ofLiteral]
    rw [show makeFromLiteral .int inner.digits = _ from denotes]
  | hexadecimal inner =>
    cases go
    cases number
    simp only [ConstantValue.ofLiteral]
    rw [show makeFromLiteral .int _ = _ from denotes]
  | float | string | char => cases number

theorem UnaryOperator.unaryOp_go {sign : UnaryOperator} {a : Int} (used : sign.integer a = some n) :
    sign.go ≠ .mul ∧ ConstantValue.unaryOp sign.go (.int a) = some (.int n) := by
  cases sign with
  | plus | minus | complement =>
    cases used
    exact ⟨Scanner.Operator.noConfusion, rfl⟩
  | not => cases used

section Nodes

variable {env : Env ConstantValue} {x y : Expr} {a b n : Int} {op : Scanner.Operator}

/-- An operator other than a shift on two integers. -/
theorem evalNode_plain
    (left : evalNode goArithmetic env x = .ok (.int a))
    (right : evalNode goArithmetic env y = .ok (.int b)) (notShift : ¬ (op = .shl ∨ op = .shr))
    (result : ConstantValue.intOp a op b = some (.int n)) :
    evalNode goArithmetic env (.binaryExpr x op y) = .ok (.int n) := by
  rw [evalNode_binaryExpr, left, right]
  exact applyBinary_eq_ok_iff.mpr (.inr ⟨notShift, result⟩)

/-- A shift of an integer by a number of bits in range. -/
theorem evalNode_shift
    (left : evalNode goArithmetic env x = .ok (.int a))
    (right : evalNode goArithmetic env y = .ok (.int b))
    (isShift : op = .shl ∨ op = .shr) (range : 0 ≤ b ∧ b < 64)
    (result : ConstantValue.shift (.int a) op (.ofNat b.toNat) = some (.int n)) :
    evalNode goArithmetic env (.binaryExpr x op y) = .ok (.int n) := by
  have count : goArithmetic.uint64Val (.int b) = some (.ofNat b.toNat, true) :=
    ConstantValue.uint64Val_int range.1 (by omega)
  rw [evalNode_binaryExpr, left, right]
  exact applyBinary_eq_ok_iff.mpr (.inl ⟨isShift, _, count, result⟩)

theorem toNat_shiftCount (range : 0 ≤ b ∧ b < 64) : (UInt64.ofNat b.toNat).toNat = b.toNat := by
  apply UInt64.toNat_ofNat_of_lt'
  change b.toNat < 2 ^ 64
  omega

theorem evalNode_binary
    (left : evalNode goArithmetic env x = .ok (.int a))
    (right : evalNode goArithmetic env y = .ok (.int b))
    (used : sign.integer a b = some n) (undivided : sign ≠ .divide) :
    evalNode goArithmetic env (.binaryExpr x sign.go y) = .ok (.int n) := by
  cases sign with
  | plus | minus | times | bitAnd | bitOr | bitXor =>
    cases used
    exact evalNode_plain left right (by decide) rfl
  | remainder =>
    rw [integer] at used
    split_ifs at used with zero
    cases used
    exact evalNode_plain left right (by decide) (if_neg zero)
  | shiftLeft | shiftRight =>
    rw [integer] at used
    split_ifs at used with range
    cases used
    apply evalNode_shift left right (by decide) range
    simp only [BinaryOperator.go, ConstantValue.shift, toNat_shiftCount range]
  | divide => exact absurd rfl undivided
  | _ => cases used

theorem ldiff_eq_land_lnot (a b : Int) : Int.ldiff a b = .land a (.lnot b) := by
  cases a <;> cases b <;> rfl

end Nodes

/-- A token that means in Go what it means in AIDL. -/
def Token.Kept : Token → Prop
  | .literal inner => inner.Survives
  | .binary sign => sign ≠ .divide
  | _ => True

variable {tokens : List (Blanks × Token)}

theorem kept_of_survive
    (survive : ∀ literal ∈ literalsOf tokens, literal.Survives)
    (undivided : ∀ placed ∈ tokens, placed.2 ≠ .binary .divide) :
    ∀ placed ∈ tokens, placed.2.Kept := by
  rintro ⟨blanks, token⟩ mem
  cases token with
  | literal inner =>
    apply survive
    exact mem_filterMap.mpr ⟨(blanks, .literal inner), mem, rfl⟩
  | binary sign =>
    rintro rfl
    exact undivided _ mem rfl
  | _ => trivial

variable {env : Env ConstantValue}

/-- The value of a Go tree is that of the expression. -/
theorem GoTree.eval
    (go : GoTree expression tree) (kept : ∀ placed ∈ expression.tokens, placed.2.Kept)
    (defined : expression.value = some n) : evalNode goArithmetic env tree = .ok (.int n) := by
  induction go generalizing n with
  | @literal blanks inner found go =>
    rcases bind_eq_some_iff.mp defined with ⟨number, isNumber, inRange⟩
    rw [← longValue_eq_some inRange] at isNumber
    have stays : inner.Survives := kept _ (mem_singleton_self (blanks, Token.literal inner))
    exact congrArg Except.ok (Literal.ofLiteral_eq go stays isNumber)
  | paren tree ih =>
    apply ih _ defined
    intro placed mem
    apply kept
    simp [Expression.tokens, mem]
  | unary sign tree ih =>
    rcases value_unary defined with ⟨a, operandValue, used⟩
    have operandKept := (forall_mem_cons.mp kept).2
    rcases UnaryOperator.unaryOp_go used with ⟨notStar, result⟩
    rw [evalNode_unaryExpr notStar, ih operandKept operandValue]
    exact orPanic_eq_ok_iff.mpr result
  | binary _ _ _ leftIh rightIh =>
    rcases value_binary defined with ⟨a, b, leftValue, rightValue, used⟩
    rcases forall_mem_append.mp kept with ⟨leftKept, rest⟩
    rcases forall_mem_cons.mp rest with ⟨undivided, rightKept⟩
    exact evalNode_binary (leftIh leftKept leftValue) (rightIh rightKept rightValue) used undivided
  | andNot _ _ _ leftIh operandHypothesis =>
    rcases value_binary defined with ⟨a, b, leftValue, rightValue, used⟩
    rcases value_unary rightValue with ⟨c, operandValue, complemented⟩
    rcases forall_mem_append.mp kept with ⟨leftKept, rest⟩
    have operandKept := (forall_mem_cons.mp (forall_mem_cons.mp rest).2).2
    cases complemented
    cases used
    rw [← ldiff_eq_land_lnot]
    exact evalNode_plain (leftIh leftKept leftValue)
        (operandHypothesis operandKept operandValue) (by decide) rfl

/-! ## Every grouped expression has a Go tree -/

/-- A complement joined to an `&` is all of the operand on the right. -/
theorem Expression.of_joined
    {right : Expression} {second : Blanks × Token} (first : second ∈ right.tokens.head?)
    (joins : joinWith (.binary sign) second = some .andNot)
    (tight : goLevel sign < right.level goLevel) :
    sign = .bitAnd ∧ ∃ joined operand, joined.val = [] ∧
      right = .unary joined .complement operand := by
  rcases joinWith_eq_some joins with ⟨op, join, adjacent, unary⟩
  rcases join_andNot join with ⟨isAnd, rfl⟩
  cases isAnd
  refine ⟨rfl, ?_⟩
  cases right with
  | literal | name | paren =>
    cases first
    cases unary
  | unary joined other operand =>
    cases first
    cases unary
    exact ⟨joined, operand, adjacent, rfl⟩
  | binary left blanks other operand =>
    have low := precedence_le other.go
    change 5 < precedence other.go at tight
    omega

theorem GoTree.of_value
    (defined : expression.value = some n) (apart : Apart expression.tokens)
    (scans : Scannable expression.tokens) (grouped : expression.GroupedBy goLevel) :
    ∃ tree, GoTree expression tree := by
  induction expression generalizing n with
  | literal blanks inner =>
    have accepted := scans inner (mem_singleton_self _)
    rcases isSome_iff_exists.mp accepted with ⟨found, go⟩
    exact ⟨_, .literal go⟩
  | name blanks first others => cases defined
  | paren opening inner closing ih =>
    rw [Expression.tokens, cons_append] at apart scans
    rcases ih defined apart.of_cons.of_append.1 scans.of_cons.of_append.1 grouped with ⟨x, tree⟩
    exact ⟨_, .paren tree⟩
  | unary blanks sign operand ih =>
    rcases value_unary defined with ⟨a, operandValue, -⟩
    rcases ih operandValue apart.of_cons scans.of_cons grouped.2 with ⟨x, tree⟩
    exact ⟨_, .unary sign tree⟩
  | binary left blanks sign right leftIh rightIh =>
    rcases value_binary defined with ⟨a, b, leftValue, rightValue, -⟩
    rcases grouped with ⟨-, tight, leftGrouped, rightGrouped⟩
    rw [Expression.tokens] at apart scans
    rcases leftIh leftValue apart.of_append.1 scans.of_append.1 leftGrouped with ⟨x, leftTree⟩
    rcases rightIh rightValue apart.of_append.2.of_cons
        scans.of_append.2.of_cons rightGrouped with ⟨y, rightTree⟩
    by_cases alone : ∀ second ∈ right.tokens.head?, joinWith (.binary sign) second = none
    · exact ⟨_, .binary alone leftTree rightTree⟩
    · push Not at alone
      rcases alone with ⟨second, first, joins⟩
      rcases ne_none_iff_exists'.mp joins with ⟨op, joined⟩
      have isAndNot : op = .andNot := apart.of_append.2.rel_head? first op joined
      rw [isAndNot] at joined
      rcases of_joined first joined tight with ⟨rfl, blank, operand, adjacent, rfl⟩
      cases rightTree with
      | unary _ operandTree => exact ⟨_, .andNot adjacent leftTree operandTree⟩

/-! ## Texts of integer expressions -/

/-- An expression with a value names nothing. -/
theorem noKeywords_of_value (defined : expression.value = some n) :
    NoKeywords expression.tokens := by
  induction expression generalizing n with
  | literal blanks inner => exact forall_mem_singleton.mpr (by rintro word ⟨⟩)
  | name blanks first others => cases defined
  | paren opening inner closing ih =>
    refine forall_mem_append.mpr ⟨forall_mem_cons.mpr ⟨?_, ih defined⟩, forall_mem_singleton.mpr ?_⟩
    all_goals rintro word ⟨⟩
  | unary blanks sign operand ih =>
    rcases value_unary defined with ⟨a, operandValue, -⟩
    refine forall_mem_cons.mpr ⟨?_, ih operandValue⟩
    rintro word ⟨⟩
  | binary left blanks sign right leftIh rightIh =>
    rcases value_binary defined with ⟨a, b, leftValue, rightValue, -⟩
    refine forall_mem_append.mpr ⟨leftIh leftValue, forall_mem_cons.mpr ⟨?_, rightIh rightValue⟩⟩
    rintro word ⟨⟩

/-- `Parse` keeps the grouping of an expression that Go groups the same. -/
theorem GoTree.parse_text
    (go : GoTree expression tree) (plain : NoKeywords expression.tokens)
    (apart : Apart expression.tokens) (survive : ∀ literal ∈ expression.literals, literal.Survives)
    (grouped : expression.GroupedBy goLevel) (tail : Blanks) :
    parse (expression.text tail) = some tree := by
  have legal : Scanner.legalSource (normalizedText (unindent expression.tokens)) :=
    legal_normalizedText (by rwa [literalsOf_unindent])
  rcases Aidl.parse_text expression tail with ⟨ending, ended, text⟩
  rw [text, ended plain, if_pos legal, go.tokens apart, bind_some]
  exact (go.grouped grouped).1.parseTokens

theorem quo_notMem_selector
    {parts : List Name} (isSelector : (Node.ofExpr tree).selectorParts = some parts) :
    .operator .quo ∉ tree.flatten := by
  induction tree generalizing parts with
  | ident name => simp [Expr.flatten]
  | selectorExpr x sel ih =>
    rcases map_eq_some_iff.mp isSelector with ⟨front, inner, -⟩
    simp [Expr.flatten, ih inner]
  | unaryExpr op x =>
    rw [Node.ofExpr] at isSelector
    split_ifs at isSelector <;> cases isSelector
  | _ => cases isSelector

/-- A tree with an integer value holds no division. -/
theorem quo_notMem_of_int (value : evalNode goArithmetic env tree = .ok (.int n)) :
    .operator .quo ∉ tree.flatten := by
  induction tree generalizing n with
  | basicLit | ident => simp [Expr.flatten]
  | selectorExpr x sel ih =>
    rw [evalNode, Node.ofExpr, Node.evalNode] at value
    cases named : selectorName x sel with
    | none =>
      rw [← selectorName, named] at value
      cases value
    | some name =>
      rcases map_eq_some_iff.mp named with ⟨parts, isSelector, -⟩
      exact quo_notMem_selector isSelector
  | parenExpr x ih => simp [Expr.flatten, ih value]
  | unaryExpr op x ih =>
    rcases evalNode_unary_eq_ok value with ⟨-, operand, inner, result⟩
    rcases ConstantValue.unaryOp_eq_int result with ⟨notQuo, a, rfl⟩
    simp [Expr.flatten, ih inner, notQuo.symm]
  | binaryExpr x op y leftIh rightIh =>
    rcases evalNode_binary_eq_ok value with ⟨first, second, left, right, used⟩
    rcases applyBinary_eq_ok_iff.mp used with shifted | plain
    · rcases shifted with ⟨isShift, count, counted, result⟩
      rcases ConstantValue.shift_eq_int result with ⟨a, rfl⟩
      rcases ConstantValue.uint64Val_exact counted with ⟨b, rfl⟩
      have notQuo : op ≠ .quo := by
        rintro rfl
        rcases isShift with same | same
        · cases same
        · cases same
      simp [Expr.flatten, leftIh left, rightIh right, notQuo.symm]
    · rcases ConstantValue.binaryOp_eq_int plain.2 with ⟨notQuo, ⟨a, rfl⟩, ⟨b, rfl⟩⟩
      simp [Expr.flatten, leftIh left, rightIh right, notQuo.symm]

variable {found : List Scanner.Token}

theorem Scannable.of_goTokens (all : goTokens (lexemes tokens) = some found) :
    Scannable tokens := by
  have read := forall₂_literals all
  rw [Scannable]
  generalize literalsOf tokens = literals at read
  generalize tokenLiterals found = parsed at read
  induction read with
  | nil => exact forall_mem_nil _
  | cons go _ ih =>
    refine forall_mem_cons.mpr ⟨?_, ih⟩
    rw [go]
    rfl

/-- What an expression is like that `Eval` finds to be an integer. -/
theorem kept_of_eval_int
    {tail : Blanks} (value : eval goArithmetic (expression.text tail) env = .ok (.int n)) :
    Apart expression.tokens ∧ Scannable expression.tokens ∧ expression.Undivided := by
  rw [eval] at value
  cases parsed : parse (expression.text tail) with
  | none =>
    rw [parsed] at value
    cases value
  | some tree =>
    rw [parsed] at value
    have plain := noKeywords_of_parse parsed
    rcases Aidl.parse_text expression tail with ⟨ending, ended, text⟩
    rw [text, ended plain] at parsed
    split_ifs at parsed
    rcases bind_eq_some_iff.mp parsed with ⟨found, all, taken⟩
    have runs := run_of_parseTokens taken
    have divided := quo_notMem_of_int value
    rw [← flatten_eq taken] at runs divided
    refine ⟨apart_of_run expression.placed plain all runs, .of_goTokens all, ?_⟩
    rintro ⟨blanks, token⟩ mem rfl
    rcases mem_goTokens all rfl (by rintro sign ⟨⟩) mem with ⟨own, inFound, go⟩
    cases go
    exact divided inFound

/-! ## Groupings that change the value -/

theorem isDecimal_digit (value : Fin 10) : isDecimal (.ofNat (48 + value)) := by
  revert value
  decide

/-- The literal of one digit. -/
def digit (value : Fin 10) : Expression :=
  .literal noBlanks
    (.decimal
      ⟨[UInt8.ofNat (48 + value)],
        ⟨cons_ne_nil _ _, forall_mem_singleton.mpr (isDecimal_digit value)⟩,
        none⟩)

/-- The reading of `a first b second c` in AIDL. -/
def chain (first second : BinaryOperator) (a b c : Fin 10) : Expression :=
  if aidlLevel first < aidlLevel second then
    .binary (digit a) noBlanks first
      (.binary (digit b) noBlanks second (digit c))
  else
    .binary (.binary (digit a) noBlanks first (digit b)) noBlanks second (digit c)

/-! ## The value that `Eval` returns -/

/--
`Eval` returns the value of an integer expression whose operators stay apart,
whose literals survive, which Go groups like AIDL and in which nothing is
divided.  Unless the operators stay apart, the scanner accepts the literals
and nothing is divided, it does not return that value.
-/
theorem eval_integer_expression
    {source : List UInt8} {expression : Expression} {n : Int}
    (read : expression.ReadAs source) (defined : expression.value = some n)
    (env : Env ConstantValue) :
    (Apart expression.tokens →
        (∀ literal ∈ expression.literals, literal.Survives) →
        expression.GroupedBy goLevel → expression.Undivided →
        eval goArithmetic source env = .ok (.int n)) ∧
      (eval goArithmetic source env = .ok (.int n) →
        Apart expression.tokens ∧ Scannable expression.tokens ∧ expression.Undivided) := by
  rcases read.isText with ⟨trailing, rfl⟩
  have noKeywords := noKeywords_of_value defined
  constructor
  · intro apart survive grouped undivided
    rcases GoTree.of_value defined apart (.of_survive survive) grouped with ⟨tree, go⟩
    rw [eval, go.parse_text noKeywords apart survive grouped trailing]
    exact go.eval (kept_of_survive survive undivided) defined
  · exact kept_of_eval_int

/-- The expression `1|6&~3`. -/
def maskedSix : Expression :=
  .binary (digit 1) noBlanks .bitOr
    (.binary (digit 6) noBlanks .bitAnd (.unary noBlanks .complement (digit 3)))

theorem eval_maskedSix :
    maskedSix.ReadAs (maskedSix.text noBlanks) ∧
      maskedSix.value = some 5 ∧
      eval goArithmetic (maskedSix.text noBlanks) [] = .ok (.int 5) := by
  have read : maskedSix.ReadAs (maskedSix.text noBlanks) := by
    refine ⟨?_, noBlanks, rfl⟩
    simp [maskedSix, digit, Expression.GroupedBy, level, aidlLevel]
  have defined : maskedSix.value = some 5 := by decide +kernel
  refine ⟨read, defined, (eval_integer_expression read defined []).1 ?_ ?_ ?_ ?_⟩
  · simp [Apart, maskedSix, digit, tokens, joinWith, Token.join, noBlanks]
  · intro literal member
    simp only [literals, literalsOf, maskedSix, digit, tokens, cons_append,
      nil_append, filterMap_cons, filterMap_nil, mem_cons, not_mem_nil, or_false] at member
    rcases member with rfl | rfl | rfl
    all_goals exact .inl (by decide)
  · simp [maskedSix, digit, Expression.GroupedBy, level,
      goLevel, BinaryOperator.go, precedence]
  · simp [Expression.Undivided, maskedSix, digit, tokens]

/--
AIDL reads `1<<2+1` as a shift by three and `7/2` as three; `Eval` returns five
and a fraction.
-/
theorem shift_and_quotient_misevaluated :
    ((chain .shiftLeft .plus 1 2 1).ReadAs
          ((chain .shiftLeft .plus 1 2 1).text noBlanks) ∧
        (chain .shiftLeft .plus 1 2 1).value = some 8 ∧
        eval goArithmetic ((chain .shiftLeft .plus 1 2 1).text noBlanks) [] = .ok (.int 5)) ∧
      (binary (digit 7) noBlanks .divide (digit 2)).value = some 3 ∧
        eval goArithmetic
            ((binary (digit 7) noBlanks .divide (digit 2)).text noBlanks) [] =
          .ok (.rat (7 / 2)) := by
  refine ⟨⟨⟨?_, noBlanks, rfl⟩, ?_, ?_⟩, ?_, ?_⟩
  · simp [chain, digit, Expression.GroupedBy, level, aidlLevel]
  · decide +kernel
  · rfl
  · decide +kernel
  · rfl

end Libbinder.Aidl
