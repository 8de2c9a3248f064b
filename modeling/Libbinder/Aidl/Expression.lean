import Libbinder.Aidl.Suffixes

/-!
# The expression language

AIDL constant expressions as they are written: literals, qualified names,
parentheses and the unary and binary operators, with blanks before any token.
The trees carry no precedence, so that they derive every expression text, and
what a literal denotes is said here independently of the Go source that the
expression is turned into.
-/

namespace Libbinder.Aidl

open Go

/-! ## Literals -/

/-- The suffix of a `long` literal. -/
inductive LongSuffix where
  | upper
  | lower
  deriving DecidableEq, Repr

def LongSuffix.byte : LongSuffix → UInt8
  | .upper => 'L'
  | .lower => 'l'

/-- The text of an optional `long` suffix. -/
def longText (suffix : Option LongSuffix) : List UInt8 :=
  (suffix.map LongSuffix.byte).toList

/-- A decimal integer literal. -/
structure DecimalLiteral where
  digits : List UInt8
  wellFormed : Digits digits
  suffix : Option LongSuffix

/-- A hexadecimal integer literal. -/
structure HexLiteral where
  mark : UInt8
  isMark : isHexMark mark
  digits : List UInt8
  nonempty : digits ≠ []
  hexadecimal : ∀ byte ∈ digits, isHex byte
  suffix : Option LongSuffix

/-- The suffix of a floating-point literal. -/
inductive FloatSuffix where
  | upperFloat
  | lowerFloat
  | upperDouble
  | lowerDouble
  deriving DecidableEq, Repr

def FloatSuffix.byte : FloatSuffix → UInt8
  | .upperFloat => 'F'
  | .lowerFloat => 'f'
  | .upperDouble => 'D'
  | .lowerDouble => 'd'

/-- A floating-point literal: a point, an exponent or a suffix tells it apart. -/
structure FloatLiteral where
  mantissa : List UInt8
  isMantissa : IsMantissa mantissa
  exponent : List UInt8
  isExponent : IsExponent exponent
  suffix : Option FloatSuffix
  isFloat : '.'.toUInt8 ∈ mantissa ∨ exponent ≠ [] ∨ suffix.isSome

/--
A double-quoted string literal: legal text whose escape sequences are complete
and that holds no quote outside them.
-/
structure StringLiteral where
  body : List UInt8
  complete : (Scanner.unquoteFrom '"' .plain body).isSome = true
  legal : Scanner.legalSource body = true

/-- The string a literal denotes. -/
def StringLiteral.contents (literal : StringLiteral) : List UInt8 :=
  (Scanner.unquoteFrom '"' .plain literal.body).get
    literal.complete

/-- A printable byte other than the quote and the backslash. -/
def isCharByte (byte : UInt8) : Bool :=
  0x20 ≤ byte && byte < 0x7F && byte != '\'' && byte != '\\'

/-- A character literal. -/
structure CharLiteral where
  byte : UInt8
  isChar : isCharByte byte

/-- The literals of expressions. -/
inductive Literal where
  | decimal (literal : DecimalLiteral)
  | hexadecimal (literal : HexLiteral)
  | float (literal : FloatLiteral)
  | string (literal : StringLiteral)
  | char (literal : CharLiteral)

/-- The text of a literal. -/
def Literal.text : Literal → List UInt8
  | .decimal literal => literal.digits ++ longText literal.suffix
  | .hexadecimal literal => '0'.toUInt8 :: literal.mark :: literal.digits ++ longText literal.suffix
  | .float literal =>
    literal.mantissa ++ literal.exponent ++ (literal.suffix.map FloatSuffix.byte).toList
  | .string literal => '"'.toUInt8 :: literal.body ++ ['"'.toUInt8]
  | .char literal => ['\'', literal.byte, '\'']

/--
A Go literal is a constant with the value of an AIDL literal.  Nothing is asked
of floating-point and character literals.
-/
def Literal.Denotes (literal : Literal)
    (parsed : Scanner.LiteralKind × List UInt8) : Prop :=
  match literal with
  | .decimal inner => makeFromLiteral parsed.1 parsed.2 = some (.int (digitsValue 10 inner.digits))
  | .hexadecimal inner =>
    makeFromLiteral parsed.1 parsed.2 = some (.int (digitsValue 16 inner.digits))
  | .float _ => True
  | .string inner => makeFromLiteral parsed.1 parsed.2 = some (.string inner.contents)
  | .char _ => True

/-! ## Tokens -/

/-- An identifier. -/
structure Identifier where
  first : UInt8
  isFirst : isLetter first
  others : List UInt8
  continues : ∀ byte ∈ others, Scanner.isIdentifierByte byte

/-- The text of an identifier. -/
def Identifier.text (identifier : Identifier) : List UInt8 :=
  identifier.first :: identifier.others

/-- The unary operators. -/
inductive UnaryOperator where
  | plus
  | minus
  | not
  | complement
  deriving DecidableEq, Repr

/-- The binary operators. -/
inductive BinaryOperator where
  | logicalOr | logicalAnd
  | bitOr | bitXor | bitAnd
  | equal | notEqual
  | less | lessEqual | greater | greaterEqual
  | shiftLeft | shiftRight
  | plus | minus
  | times | divide | remainder
  deriving DecidableEq, Repr

/-- The text of a unary operator. -/
def UnaryOperator.text : UnaryOperator → List UInt8
  | .plus => ['+']
  | .minus => ['-']
  | .not => ['!']
  | .complement => ['~']

/-- The text of a binary operator. -/
def BinaryOperator.text : BinaryOperator → List UInt8
  | .logicalOr => ['|', '|']
  | .logicalAnd => ['&', '&']
  | .bitOr => ['|']
  | .bitXor => ['^']
  | .bitAnd => ['&']
  | .equal => ['=', '=']
  | .notEqual => ['!', '=']
  | .less => ['<']
  | .lessEqual => ['<', '=']
  | .greater => ['>']
  | .greaterEqual => ['>', '=']
  | .shiftLeft => ['<', '<']
  | .shiftRight => ['>', '>']
  | .plus => ['+']
  | .minus => ['-']
  | .times => ['*']
  | .divide => ['/']
  | .remainder => ['%']

/-- The tokens of expressions. -/
inductive Token where
  | literal (literal : Literal)
  | identifier (identifier : Identifier)
  | dot
  | opening
  | closing
  | unary (operator : UnaryOperator)
  | binary (operator : BinaryOperator)

/-- The text of a token. -/
def Token.text : Token → List UInt8
  | .literal inner => inner.text
  | .identifier inner => inner.text
  | .dot => ['.']
  | .opening => ['(']
  | .closing => [')']
  | .unary sign => sign.text
  | .binary sign => sign.text

/-- Blanks between tokens. -/
abbrev Blanks :=
  { text : List UInt8 // text.all Scanner.isBlank }

/-- The text of tokens, each after its blanks. -/
def tokensText (tokens : List (Blanks × Token)) : List UInt8 :=
  tokens.flatMap fun placed => placed.1.val ++ placed.2.text

/-- The literals among tokens. -/
def literalsOf (tokens : List (Blanks × Token)) : List Literal :=
  tokens.filterMap fun placed =>
    match placed.2 with
    | .literal inner => some inner
    | _ => none

/-! ## Expressions -/

/-- A further part of a qualified name, with the blanks before its tokens. -/
structure NamePart where
  beforeDot : Blanks
  beforeName : Blanks
  identifier : Identifier

/-- Expressions; each token carries the blanks before it. -/
inductive Expression where
  | literal (blanks : Blanks) (literal : Literal)
  | name (blanks : Blanks) (first : Identifier) (others : List NamePart)
  | paren (opening : Blanks) (inner : Expression) (closing : Blanks)
  | unary (blanks : Blanks) (operator : UnaryOperator) (operand : Expression)
  | binary (left : Expression) (blanks : Blanks) (operator : BinaryOperator) (right : Expression)

/-- The tokens of the further parts of a name. -/
def partTokens (parts : List NamePart) : List (Blanks × Token) :=
  parts.flatMap fun part =>
    [(part.beforeDot, .dot), (part.beforeName, .identifier part.identifier)]

namespace Expression

/-- The tokens of an expression. -/
def tokens : Expression → List (Blanks × Token)
  | .literal blanks inner => [(blanks, .literal inner)]
  | .name blanks first others => (blanks, .identifier first) :: partTokens others
  | .paren opening inner closing => (opening, .opening) :: inner.tokens ++ [(closing, .closing)]
  | .unary blanks operator operand => (blanks, .unary operator) :: operand.tokens
  | .binary left blanks operator right => left.tokens ++ (blanks, .binary operator) :: right.tokens

/-- The source text of an expression that blanks may follow. -/
def text (expression : Expression) (trailing : Blanks) : List UInt8 :=
  tokensText expression.tokens ++ trailing.val

/-- The literals of an expression in the order of the text. -/
def literals (expression : Expression) : List Literal :=
  literalsOf expression.tokens

end Expression

/-! ## The places of tokens -/

/-- What the text of an expression expects next. -/
inductive Position where
  | operand
  | afterOperand
  | afterName
  | selector
  deriving DecidableEq, Repr

/-- The position after a token, where the token may stand. -/
def Position.next : Position → Token → Option Position
  | .operand, .literal _ => some .afterOperand
  | .operand, .identifier _ => some .afterName
  | .operand, .opening => some .operand
  | .operand, .unary _ => some .operand
  | .afterOperand, .binary _ => some .operand
  | .afterOperand, .closing => some .afterOperand
  | .afterName, .binary _ => some .operand
  | .afterName, .closing => some .afterOperand
  | .afterName, .dot => some .selector
  | .selector, .identifier _ => some .afterName
  | _, _ => none

/-- The tokens may follow each other from a position to the end of an operand. -/
def Placed : Position → List (Blanks × Token) → Prop
  | position, [] => position = .afterOperand ∨ position = .afterName
  | position, placed :: rest => ∃ after, position.next placed.2 = some after ∧ Placed after rest

/-- The tokens lead from one position to another. -/
inductive Leads : Position → List (Blanks × Token) → Position → Prop
  | nil (position : Position) : Leads position [] position
  | cons {position after last : Position} {placed : Blanks × Token}
      {rest : List (Blanks × Token)}
      (next : position.next placed.2 = some after)
      (others : Leads after rest last) :
      Leads position (placed :: rest) last

theorem Leads.append
    {first middle last : Position} {left right : List (Blanks × Token)}
    (leftLeads : Leads first left middle) (rightLeads : Leads middle right last) :
    Leads first (left ++ right) last := by
  induction leftLeads with
  | nil position => exact rightLeads
  | cons next others ih => exact .cons next (ih rightLeads)

theorem Leads.placed
    {first last : Position} {tokens : List (Blanks × Token)} (leads : Leads first tokens last)
    (ends : last = .afterOperand ∨ last = .afterName) : Placed first tokens := by
  induction leads with
  | nil position => exact ends
  | cons next others ih => exact ⟨_, next, ih ends⟩

theorem leads_partTokens (parts : List NamePart) :
    Leads .afterName (partTokens parts) .afterName := by
  induction parts with
  | nil => exact .nil _
  | cons part others ih => exact .cons rfl (.cons rfl ih)

/-- An expression leads from an operand to the end of one. -/
theorem Expression.leads (expr : Expression) :
    ∃ last, Leads .operand expr.tokens last ∧ (last = .afterOperand ∨ last = .afterName) := by
  induction expr with
  | literal blanks literal => exact ⟨_, .cons rfl (.nil _), .inl rfl⟩
  | name blanks first others => exact ⟨_, .cons rfl (leads_partTokens others), .inr rfl⟩
  | paren opening inner closing ih =>
    obtain ⟨last, leads, ends⟩ := ih
    refine ⟨.afterOperand, ?_, .inl rfl⟩
    refine .cons rfl (leads.append ?_)
    rcases ends with rfl | rfl
    · exact .cons rfl (.nil _)
    · exact .cons rfl (.nil _)
  | unary blanks operator operand ih =>
    obtain ⟨last, leads, ends⟩ := ih
    exact ⟨last, .cons rfl leads, ends⟩
  | binary left blanks operator right leftIh rightIh =>
    obtain ⟨leftLast, leftLeads, leftEnds⟩ := leftIh
    obtain ⟨last, leads, ends⟩ := rightIh
    refine ⟨last, leftLeads.append ?_, ends⟩
    rcases leftEnds with rfl | rfl
    · exact .cons rfl leads
    · exact .cons rfl leads

theorem Expression.placed (expr : Expression) : Placed .operand expr.tokens := by
  obtain ⟨last, leads, ends⟩ := expr.leads
  exact leads.placed ends

end Libbinder.Aidl
