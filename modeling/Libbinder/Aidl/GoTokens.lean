import Libbinder.Aidl.StringLiterals

/-!
# The Go tokens of an expression

What the Go scanner reads in a normalized expression.  Each token of the
expression becomes one Go token, unless two operators that stand next to each
other make up a longer Go operator, and the scanner refuses an expression only
for a number with a leading zero and a digit above seven.
-/

namespace Libbinder.Aidl

open Go List Option Literal UnaryOperator
open Scanner (consumed countChars escapeStep hasDigit hasInvalidDigit isBlank
  isDigitOf isIdentifierByte isKeyword lookup nextIs scanDigits scanExponent
  scanFraction scanFrom scanFrom_blanks scanFrom_token scanIdentifier
  scanMantissa scanNumber scanOperator scanToken skipSign startsToken_of_apart
  switch2 switch3 switch4 unquoteFrom)

/-! ## Literals -/

/-- The Go literal of a literal; absent where the scanner refuses it. -/
def Literal.goLiteral : Literal → Option (Scanner.LiteralKind × List UInt8)
  | .decimal inner => if octalInvalid inner.digits then none else some (.int, inner.digits)
  | .hexadecimal inner => some (.int, (Literal.hexadecimal inner).normalized)
  | .float inner =>
    if '.'.toUInt8 ∈ inner.mantissa ∨ inner.exponent ≠ [] then
      some (.float, inner.mantissa ++ inner.exponent)
    else if octalInvalid inner.mantissa then
      none
    else
      some (.int, inner.mantissa)
  | .string inner => some (.string, (Literal.string inner).normalized)
  | .char inner => some (.char, (Literal.char inner).normalized)

/-- The scanner on a number is the number scanner. -/
theorem scanFrom_number
    {text : List UInt8} (starts : StartsNumber text) (semi : Bool) (rest : List UInt8) :
    scanFrom semi (text ++ rest) =
      (scanNumber (text ++ rest)).bind fun found =>
        (scanFrom true found.2).map
          (.literal found.1 (consumed (text ++ rest) found.2) ::
            ·) := by
  obtain ⟨first, others, rfl, begins⟩ := starts
  obtain ⟨apart, notLetter⟩ :=
    (by decide : ∀ byte, isDecimal byte ∨ byte = '.' →
      (isBlank byte = false ∧ byte ≠ '\n' ∧ byte ≠ '/') ∧ isLetter byte = false) first
      (begins.imp_right And.left)
  have number :
      (isDecimal first || (first == '.' && ((others ++ rest).head?.map isDecimal).getD false)) := by
    rcases begins with digit | ⟨rfl, digit, more, rfl, isDigit⟩
    · simp [digit]
    · simp [isDigit]
  rw [cons_append, scanFrom_token (startsToken_of_apart apart _)]
  simp only [scanToken, notLetter, Bool.false_eq_true, if_false, number, if_true]
  cases scanNumber (first :: (others ++ rest)) with
  | none | some => rfl

variable {rest : List UInt8}

/-! ## Floating-point literals -/

theorem endsDigits_point (rest : List UInt8) : EndsDigits ('.' :: rest) := by
  intro next atHead
  cases atHead
  decide

/-- The scanner on the mantissa of a literal. -/
theorem scanMantissa_mantissa
    {mantissa after : List UInt8} (isMantissa : IsMantissa mantissa) (ends : EndsDigits after)
    (notPoint : nextIs '.' after = false) :
    ∃ radix whole fraction,
      scanMantissa (mantissa ++ after) = ⟨radix, whole, fraction, after⟩ ∧
      (radix = .decimal ∨ radix = .leadingZero) ∧
      (radix = .leadingZero ∨ hasDigit whole ∨ hasDigit (fraction.getD [])) ∧
      (fraction.isSome ↔ '.'.toUInt8 ∈ mantissa) ∧
      ('.'.toUInt8 ∉ mantissa → hasInvalidDigit radix.base whole = octalInvalid mantissa) := by
  have fractionRun :
      ∀ (base : Nat) (fraction : List UInt8), base ≤ 10 →
        (∀ byte ∈ fraction, isDecimal byte) →
        scanDigits base (fraction ++ after) = (fraction, after) := by
    intro base fraction small decimals
    apply scanDigits_append
    · intro byte inFraction
      exact isDigitOf_of_isDecimal (decimals byte inFraction)
    · exact ends.notDecimal small
  rcases isMantissa with ⟨whole, fraction, rfl, digits, decimals⟩ | ⟨fraction, rfl, digits⟩ | digits
  · refine
      ⟨(decimalStart whole).1, (decimalStart whole).2, some fraction, ?_,
        decimalStart_base whole,
        (decimalStart_hasDigit digits.1 digits.2).imp_right .inl,
        by simp, fun absent => absurd (by simp) absent⟩
    rw [append_assoc, cons_append,
      scanMantissa_digits digits.1 digits.2 (endsDigits_point (fraction ++ after))]
    simp only [scanFraction, nextIs_cons, beq_self_eq_true, if_true, tail_cons,
      fractionRun _ fraction (decimalStart_base_le whole) decimals]
  · refine ⟨.decimal, [], some fraction, ?_, .inl rfl,
        .inr (.inr (hasDigit_of_decimal digits.1 digits.2)), by simp,
        fun absent => absurd (by simp) absent⟩
    simp only [cons_append, scanMantissa, nextIs_cons, beq_self_eq_true, if_true, scanFraction,
      tail_cons, fractionRun Scanner.NumberPrefix.decimal.base fraction (by decide) digits.2]
  · refine
      ⟨(decimalStart mantissa).1, (decimalStart mantissa).2, none, ?_,
        decimalStart_base mantissa,
        (decimalStart_hasDigit digits.1 digits.2).imp_right .inl, ?_,
        fun _ => rfl⟩
    · rw [scanMantissa_digits digits.1 digits.2 ends, scanFraction_none notPoint]
    · refine ⟨by rintro ⟨⟩, fun inside => ?_⟩
      exact absurd (digits.2 _ inside) (by decide)

/-- The scanner on the exponent of a literal. -/
theorem scanExponent_exponent
    {power : List UInt8} (isExponent : IsExponent power) (ends : EndsNumber rest)
    {radix : Scanner.NumberPrefix} (decimal : radix = .decimal ∨ radix = .leadingZero) :
    scanExponent radix (power ++ rest) = some (!power.isEmpty, rest) := by
  rcases isExponent with rfl | ⟨mark, sign, digits, rfl, isMark, signed, decimals⟩
  · exact scanExponent_none ends
  · have lowered := (by decide : ∀ byte, isExponentMark byte → lower byte = 'e'.toUInt8) mark isMark
    have run : scanDigits 10 (digits ++ rest) = (digits, rest) := by
      apply scanDigits_append
      · intro byte inDigits
        exact isDigitOf_of_isDecimal (decimals.2 byte inDigits)
      · intro next atHead
        exact isDigitOf_of_outside (ends next atHead).1
    have unsigned : skipSign (sign ++ digits ++ rest) = digits ++ rest := by
      rcases signed with rfl | ⟨byte, rfl, isSignByte⟩
      · obtain ⟨first, others, rfl, digit⟩ := Digits.head decimals
        have apart :=
          (by decide : ∀ byte, isDecimal byte → byte ≠ '+'.toUInt8 ∧ byte ≠ '-'.toUInt8) first digit
        simp [skipSign, nextIs, apart]
      · rw [isSign, Bool.or_eq_true, beq_iff_eq, beq_iff_eq] at isSignByte
        rcases isSignByte with rfl | rfl <;> simp [skipSign, nextIs]
    have notHex : ¬ (radix ≠ .decimal ∧ radix ≠ .leadingZero) := by
      tauto
    have present := hasDigit_of_decimal decimals.1 decimals.2
    have notHexMark : ¬ 'e'.toUInt8 = 'p'.toUInt8 := by decide
    simp only [cons_append, scanExponent, lowered, true_or, if_true, true_and, if_neg notHex,
      notHexMark, false_and, if_false, unsigned, run, present, isEmpty_cons, Bool.not_false]

/-- The scanner on a floating-point literal without its suffix. -/
theorem scanNumber_float (literal : FloatLiteral) (ends : EndsNumber rest) :
    scanNumber (literal.mantissa ++ literal.exponent ++ rest) =
      if '.'.toUInt8 ∈ literal.mantissa ∨ literal.exponent ≠ [] then
        some (.float, rest)
      else if octalInvalid literal.mantissa then
        none
      else
        some (.int, rest) := by
  have headMark :
      ∀ next ∈ (literal.exponent ++ rest).head?,
        isExponentMark next ∨ (isWordByte next = false ∧ next ≠ '.') := by
    intro next atHead
    rcases literal.isExponent with empty | ⟨mark, sign, digits, shape, isMark, -⟩
    · rw [empty, nil_append] at atHead
      exact .inr (ends next atHead)
    · rw [shape] at atHead
      cases atHead
      exact .inl isMark
  have endsDigits : EndsDigits (literal.exponent ++ rest) := by
    intro next atHead
    exact
      (by decide : ∀ byte, isExponentMark byte ∨ (isWordByte byte = false ∧ byte ≠ '.') →
        isDigitOf 10 byte = false ∧ lower byte ≠ 'x' ∧ lower byte ≠ 'o' ∧ lower byte ≠ 'b') next
        (headMark next atHead)
  have notPoint : nextIs '.' (literal.exponent ++ rest) = false := by
    apply nextIs_eq_false
    rintro next atHead rfl
    rcases headMark _ atHead with mark | ⟨-, apart⟩
    · exact absurd mark (by decide)
    · exact apart rfl
  obtain ⟨radix, whole, decimals, mantissa, decimal, digits, pointed, invalid⟩ :=
    scanMantissa_mantissa literal.isMantissa endsDigits notPoint
  have exponent := scanExponent_exponent literal.isExponent ends decimal
  have noSeparator :
      (consumed (literal.mantissa ++ literal.exponent ++ rest) rest).contains '_' = false := by
    rw [consumed_append]
    apply not_contains_separator
    rintro byte inText rfl
    exact absurd (literal.floatBytes _ inText) (by decide)
  rw [← append_assoc] at mantissa
  rw [scanNumber_eq mantissa exponent ends noSeparator digits (decimal.imp_right Or.inl)]
  have filled : (!literal.exponent.isEmpty) ↔ literal.exponent ≠ [] := by
    simp
  simp only [pointed, filled]
  by_cases float : '.'.toUInt8 ∈ literal.mantissa ∨ literal.exponent ≠ []
  · rw [if_pos float, if_pos float]
  · rw [if_neg float, if_neg float, invalid fun point => float (.inl point)]

/-! ## Literals up to what follows them -/

theorem HexLiteral.kept_digits (literal : HexLiteral) :
    literal.kept ≠ [] ∧ ∀ byte ∈ literal.kept, isHex byte := by
  rw [HexLiteral.kept]
  split_ifs with cut
  · rw [HexLiteral.cut, Bool.and_eq_true, Bool.and_eq_true, decide_eq_true_eq] at cut
    constructor
    · intro empty
      have lengths := congrArg List.length empty
      rw [length_dropLast, length_nil] at lengths
      omega
    · exact fun byte inKept =>
        literal.hexadecimal byte ((dropLast_sublist _).subset inKept)
  · exact ⟨literal.nonempty, literal.hexadecimal⟩

theorem scanFrom_string (literal : StringLiteral) (semi : Bool) (rest : List UInt8) :
    scanFrom semi ((string literal).normalized ++ rest) =
      (scanFrom true rest).map (.literal .string (string literal).normalized :: ·) := by
  obtain ⟨value, whole, -⟩ := literal.unquote_kept
  have body := scanQuoted_of_unquoteFrom whole rest
  have text :
      (string literal).normalized ++ rest =
        '"'.toUInt8 :: (literal.kept ++ '"'.toUInt8 :: rest) := by
    simp [normalized]
  have token :
      scanToken '"'.toUInt8
          (literal.kept ++ '"'.toUInt8 :: rest) =
        some (.literal .string (string literal).normalized, rest) := by
    have notLetter : isLetter '"'.toUInt8 = false := by decide
    have notDigit : isDecimal '"'.toUInt8 = false := by decide
    have notPoint : ('"'.toUInt8 == '.'.toUInt8) = false := by decide
    simp only [scanToken, notLetter, notDigit, notPoint, Bool.false_and, Bool.or_false,
      Bool.false_eq_true, if_false, if_true, body, map_some, normalized]
  rw [text, scanFrom_token (startsToken_of_apart (by decide) _), token]
  rfl

theorem scanFrom_char (literal : CharLiteral) (semi : Bool) (rest : List UInt8) :
    scanFrom semi ((char literal).normalized ++ rest) =
      (scanFrom true rest).map (.literal .char (char literal).normalized :: ·) := by
  have own :=
    (by decide : ∀ byte, isCharByte byte →
      caret byte ≠ '\''.toUInt8 ∧
        escapeStep '\''.toUInt8 .plain (caret byte) = some (.plain, [caret byte]) ∧
        caret byte &&& 0xC0 ≠ 0x80) literal.byte literal.isChar
  have whole :
      unquoteFrom '\''.toUInt8 .plain [caret literal.byte] = some [caret literal.byte] := by
    simp [unquoteFrom, own.1, own.2.1]
  have body := scanQuoted_of_unquoteFrom whole rest
  have count : countChars '\''.toUInt8 .plain [caret literal.byte] = 1 := by
    simp [countChars, own.2.1, own.2.2]
  have token :
      scanToken '\''.toUInt8
          ([caret literal.byte] ++ '\''.toUInt8 :: rest) =
        some (.literal .char (char literal).normalized, rest) := by
    have notLetter : isLetter '\''.toUInt8 = false := by decide
    have notDigit : isDecimal '\''.toUInt8 = false := by decide
    have notPoint : ('\''.toUInt8 == '.'.toUInt8) = false := by decide
    have notQuote : ¬ '\''.toUInt8 = '"'.toUInt8 := by decide
    simp only [scanToken, notLetter, notDigit, notPoint, Bool.false_and, Bool.or_false,
      Bool.false_eq_true, if_false, if_true, notQuote, body, count]
    rfl
  have text :
      (char literal).normalized ++ rest =
        '\''.toUInt8 :: ([caret literal.byte] ++ '\''.toUInt8 :: rest) := by
    simp [normalized]
  rw [text, scanFrom_token (startsToken_of_apart (by decide) _), token]
  rfl

/-- The scanner on a normalized literal. -/
theorem scanFrom_literal (literal : Literal) (ends : EndsNumber rest) (semi : Bool) :
    scanFrom semi (literal.normalized ++ rest) =
      literal.goLiteral.bind fun found =>
        (scanFrom true rest).map (.literal found.1 found.2 :: ·) := by
  cases literal with
  | decimal inner =>
    have scanned := scanNumber_decimal inner.wellFormed.1 inner.wellFormed.2 ends
    simp only [normalized, goLiteral, scanFrom_number inner.wellFormed.startsNumber, scanned]
    split_ifs with invalid
    · rfl
    · simp only [bind_some, consumed_append]
  | hexadecimal inner =>
    have marks :=
      (by decide : ∀ byte, isHexMark byte →
        lower byte = 'x'.toUInt8 ∧ byte ≠ '_'.toUInt8)
        inner.mark inner.isMark
    obtain ⟨filled, digits⟩ := inner.kept_digits
    have scanned : scanNumber ((hexadecimal inner).normalized ++ rest) = some (.int, rest) :=
      scanNumber_hexadecimal marks.1 marks.2 filled digits ends
    have starts : StartsNumber (hexadecimal inner).normalized := ⟨_, _, rfl, .inl (by decide)⟩
    rw [scanFrom_number starts, scanned]
    simp only [bind_some, consumed_append]
    rfl
  | float inner =>
    have starts : StartsNumber (inner.mantissa ++ inner.exponent) := inner.isMantissa.head.append _
    simp only [normalized, goLiteral, scanFrom_number starts, scanNumber_float inner ends]
    split_ifs with float invalid
    · simp only [bind_some, consumed_append]
    · rfl
    · obtain ⟨-, empty⟩ := not_or.mp float
      simp only [bind_some, consumed_append, not_not.mp empty, append_nil]
  | string inner => exact scanFrom_string inner semi rest
  | char inner => exact scanFrom_char inner semi rest

/-! ## Identifiers and operators -/

theorem scanFrom_identifier
    (word : Identifier) (ends : ∀ next ∈ rest.head?, isWordByte next = false) (semi : Bool) :
    scanFrom semi (word.text ++ rest) =
      (scanFrom (Scanner.lookup word.text).insertSemi rest).map
        (Scanner.lookup word.text :: ·) := by
  have apart :=
    (by decide : ∀ byte, isLetter byte →
      isBlank byte = false ∧ byte ≠ '\n' ∧ byte ≠ '/') _ word.isFirst
  have members : ∀ byte ∈ word.text, isIdentifierByte byte := by
    intro byte inText
    rcases mem_cons.mp inText with rfl | inOthers
    · simp [isIdentifierByte, word.isFirst]
    · exact word.continues byte inOthers
  have stops : ∀ next ∈ rest.head?, isIdentifierByte next = false :=
    fun next atHead =>
      (by decide : ∀ byte, isWordByte byte = false →
        isIdentifierByte byte = false) next (ends next atHead)
  obtain ⟨taken, gone⟩ := takeWhile_dropWhile_append members stops
  have shape : word.first :: (word.others ++ rest) = word.text ++ rest := rfl
  have token :
      scanToken word.first (word.others ++ rest) = some (Scanner.lookup word.text, rest) := by
    simp only [scanToken, word.isFirst, if_true, scanIdentifier, shape, taken, gone]
  rw [← shape, scanFrom_token (startsToken_of_apart apart _), token]
  rfl

/-- The bytes with which the operators and parentheses start. -/
def isSignByte (byte : UInt8) : Bool :=
  ['+'.toUInt8, '-'.toUInt8, '!'.toUInt8, '^'.toUInt8, '|'.toUInt8,
    '&'.toUInt8, '='.toUInt8, '<'.toUInt8, '>'.toUInt8, '*'.toUInt8,
    '/'.toUInt8, '%'.toUInt8, '('.toUInt8, ')'.toUInt8].contains byte

/-- The bytes that would lengthen an operator or start a comment. -/
def isTailByte (byte : UInt8) : Bool :=
  ['='.toUInt8, '|'.toUInt8, '&'.toUInt8, '<'.toUInt8, '>'.toUInt8,
    '*'.toUInt8, '/'.toUInt8].contains byte

theorem scanFrom_sign
    {byte : UInt8} (isSign : isSignByte byte) {others : List UInt8}
    (noComment :
      byte = '/'.toUInt8 → nextIs '/'.toUInt8 others = false ∧ nextIs '*'.toUInt8 others = false)
    {op : Scanner.Operator} (scanned : scanOperator byte others = some (op, rest)) (semi : Bool) :
    scanFrom semi (byte :: others) =
      (scanFrom (Scanner.Token.operator op).insertSemi rest).map (.operator op :: ·) := by
  obtain ⟨notBlank, notNewline, notLetter, notDigit, notPoint, notQuote,
      notApostrophe, notRaw⟩ :=
    (by decide : ∀ byte, isSignByte byte →
      isBlank byte = false ∧ byte ≠ '\n'.toUInt8 ∧
        isLetter byte = false ∧ isDecimal byte = false ∧
        (byte == '.'.toUInt8) = false ∧ byte ≠ '"'.toUInt8 ∧
        byte ≠ '\''.toUInt8 ∧ byte ≠ 0x60) byte isSign
  have token : scanToken byte others = some (.operator op, rest) := by
    simp only [scanToken, notLetter, notDigit, notPoint, Bool.false_and, Bool.or_false,
      Bool.false_eq_true, if_false, notQuote, notApostrophe, notRaw, scanned, map_some]
  rw [scanFrom_token ⟨notBlank, notNewline, noComment⟩, token]
  rfl

/-- The Go operator of a unary operator. -/
def UnaryOperator.go : UnaryOperator → Scanner.Operator
  | .plus => .add
  | .minus => .sub
  | .not => .not
  | .complement => .xor

/-- The Go operator of a binary operator. -/
def BinaryOperator.go : BinaryOperator → Scanner.Operator
  | .logicalOr => .lor
  | .logicalAnd => .land
  | .bitOr => .or
  | .bitXor => .xor
  | .bitAnd => .and
  | .equal => .eql
  | .notEqual => .neq
  | .less => .lss
  | .lessEqual => .leq
  | .greater => .gtr
  | .greaterEqual => .geq
  | .shiftLeft => .shl
  | .shiftRight => .shr
  | .plus => .add
  | .minus => .sub
  | .times => .mul
  | .divide => .quo
  | .remainder => .rem

/-- The unary operator that lengthens a token, and the Go operator made. -/
def Token.join : Token → Option (UnaryOperator × Scanner.Operator)
  | .unary .plus => some (.plus, .inc)
  | .unary .minus => some (.minus, .dec)
  | .binary .plus => some (.plus, .inc)
  | .binary .minus => some (.minus, .dec)
  | .binary .less => some (.minus, .arrow)
  | .binary .bitAnd => some (.complement, .andNot)
  | _ => none

/-- Nothing that lengthens an operator follows. -/
structure Separate (join : Option (UnaryOperator × Scanner.Operator))
    (rest : List UInt8) : Prop where
  tail : ∀ next ∈ rest.head?, isTailByte next = false
  apart : ∀ joined ∈ join, Scanner.nextIs joined.1.byte rest = false

theorem Separate.nextIs
    {join : Option (UnaryOperator × Scanner.Operator)} (apart : Separate join rest)
    {byte : UInt8} (tail : isTailByte byte) : nextIs byte rest = false := by
  apply nextIs_eq_false
  rintro next atHead rfl
  rw [apart.tail _ atHead] at tail
  cases tail

theorem scanOperator_unary (op : UnaryOperator) (separate : Separate (Token.unary op).join rest) :
    scanOperator op.byte rest = some (op.go, rest) := by
  cases op with
  | plus | minus =>
    have apart := separate.apart _ rfl
    simp only [byte] at apart
    simp +decide [scanOperator, go, switch3, separate.nextIs, apart]
  | not | complement => simp +decide [scanOperator, go, switch2, separate.nextIs]

theorem scanFrom_unary
    (op : UnaryOperator) (apart : Separate (Token.unary op).join rest) (semi : Bool) :
    scanFrom semi (op.byte :: rest) =
      (scanFrom (Scanner.Token.operator op.go).insertSemi rest).map (.operator op.go :: ·) := by
  have scanned := scanOperator_unary op apart
  have isSign : isSignByte op.byte := by
    cases op <;> decide
  have notSlash : op.byte ≠ '/'.toUInt8 := by
    cases op <;> decide
  exact scanFrom_sign isSign (fun slash => absurd slash notSlash) scanned semi

theorem scanOperator_binary
    (op : BinaryOperator) (separate : Separate (Token.binary op).join rest) :
    ∃ first others,
      op.text = first :: others ∧ isSignByte first ∧
      (first = '/'.toUInt8 → others = []) ∧
      scanOperator first (others ++ rest) = some (op.go, rest) := by
  cases op with
  | bitAnd | less | plus | minus =>
    have apart := separate.apart _ rfl
    simp only [byte] at apart
    refine ⟨_, _, rfl, by decide, by decide, ?_⟩
    simp +decide [scanOperator, BinaryOperator.go, switch3, switch4, separate.nextIs, apart]
  | logicalOr | logicalAnd | bitOr | bitXor | equal | notEqual | lessEqual
  | greater | greaterEqual | shiftLeft | shiftRight | times | divide
  | remainder =>
    refine ⟨_, _, rfl, by decide, by decide, ?_⟩
    simp +decide [scanOperator, BinaryOperator.go, switch2, switch3, switch4, separate.nextIs]

theorem scanFrom_binary
    (op : BinaryOperator) (apart : Separate (Token.binary op).join rest) (semi : Bool) :
    scanFrom semi (op.text ++ rest) =
      (scanFrom (Scanner.Token.operator op.go).insertSemi rest).map (.operator op.go :: ·) := by
  obtain ⟨first, others, text, isSign, slash, scanned⟩ := scanOperator_binary op apart
  have noComment :
      first = '/' →
        nextIs '/'.toUInt8 (others ++ rest) = false ∧
          nextIs '*'.toUInt8 (others ++ rest) = false := by
    intro isSlash
    rw [slash isSlash, nil_append]
    exact ⟨apart.nextIs (by decide), apart.nextIs (by decide)⟩
  rw [text, cons_append]
  exact scanFrom_sign isSign noComment scanned semi

variable {token : Token}

/-- Two operators that make up a longer Go operator. -/
theorem scanFrom_joined
    {op : UnaryOperator} {joined : Scanner.Operator} (joins : token.join = some (op, joined))
    (tail : ∀ next ∈ rest.head?, isTailByte next = false) (semi : Bool) :
    ∃ after,
      scanFrom semi (token.normalized ++ op.byte :: rest) =
        (scanFrom after rest).map (.operator joined :: ·) := by
  have separate : Separate none rest := ⟨tail, by simp⟩
  have scanned :
      ∃ first, token.normalized = [first] ∧ isSignByte first ∧
        first ≠ '/'.toUInt8 ∧
        scanOperator first (op.byte :: rest) = some (joined, rest) := by
    cases token with
    | unary sign =>
      cases sign with
      | plus | minus =>
        cases joins
        refine ⟨_, rfl, by decide, by decide, ?_⟩
        simp +decide [scanOperator, switch3]
      | not | complement => simp [Token.join] at joins
    | binary sign =>
      cases sign with
      | plus | minus | less | bitAnd =>
        cases joins
        refine ⟨_, rfl, by decide, by decide, ?_⟩
        simp +decide [scanOperator, switch2, switch3, separate.nextIs]
      | _ => simp [Token.join] at joins
    | _ => simp [Token.join] at joins
  obtain ⟨first, text, isSign, notSlash, operatorScanned⟩ := scanned
  refine ⟨(Scanner.Token.operator joined).insertSemi, ?_⟩
  rw [text]
  exact scanFrom_sign isSign (fun slash => absurd slash notSlash) operatorScanned semi

/-! ## What stands after a token -/

variable {tokens : List (Blanks × Token)}

/-- What follows a name. -/
theorem outside_normalizedText (placed : Placed .afterName tokens) :
    ∀ next ∈ (normalizedText tokens).head?, isWordByte next = false := by
  refine head_of_placed (by decide) ?_ placed
  intro token after lawful
  cases token with
  | binary operator => cases operator <;> decide
  | closing | dot => decide
  | _ => cases lawful

/-- A byte that neither lengthens an operator nor is a unary operator. -/
def isPlainStart (byte : UInt8) : Bool :=
  !isTailByte byte && !(['+'.toUInt8, '-'.toUInt8, '!'.toUInt8, '^'.toUInt8].contains byte)

variable {first : Blanks × Token} {rest : List (Blanks × Token)}

/--
What follows an operator: nothing that lengthens it, except for the sign of a
unary operator that stands right after it.
-/
theorem operand_normalizedText (placed : Placed .operand (first :: rest)) :
    ∀ next ∈ (normalizedText (first :: rest)).head?,
      isTailByte next = false ∧
        ∀ operator : UnaryOperator, operator.byte = next →
          first.1.val = [] ∧ first.2 = .unary operator := by
  intro next atHead
  obtain ⟨after, lawful, -⟩ := placed
  by_cases plain : isPlainStart next
  · constructor
    · rw [isPlainStart, Bool.and_eq_true, Bool.not_eq_true'] at plain
      exact plain.1
    · rintro operator rfl
      exact absurd plain (by cases operator <;> decide)
  rcases head_normalizedText atHead with blank | ⟨empty, own⟩
  · exact absurd ((by decide : ∀ byte, isBlank byte → isPlainStart byte) next blank) plain
  · obtain ⟨blanks, token⟩ := first
    cases token with
    | literal inner =>
      exact absurd ((by decide : ∀ byte, isLiteralStart byte → isPlainStart byte) next own) plain
    | identifier inner =>
      exact absurd ((by decide : ∀ byte, isLetter byte → isPlainStart byte) next own) plain
    | opening =>
      rw [show next = '('.toUInt8 from beq_iff_eq.mp own] at plain
      exact absurd (by decide) plain
    | unary sign =>
      rw [show next = sign.byte from beq_iff_eq.mp own]
      refine ⟨by cases sign <;> decide, fun operator equal => ⟨empty, ?_⟩⟩
      have same : operator = sign := by
        revert equal
        cases operator <;> cases sign <;> decide
      rw [same]
    | dot | closing | binary operator => cases lawful

/-! ## The tokens of an expression -/

/-- A token of the expression, or two of them read as one Go operator. -/
inductive Lexeme where
  | token (token : Token)
  | joined (operator : Scanner.Operator)

/-- The Go operator that a token makes up with the one right after it. -/
def joinWith (first : Token) (second : Blanks × Token) : Option Scanner.Operator :=
  match first.join, second.2 with
  | some (operator, joined), .unary sign =>
    if sign = operator ∧ second.1.val = [] then some joined else none
  | _, _ => none

/-- What the scanner takes for one token. -/
def lexemes : List (Blanks × Token) → List Lexeme
  | [] => []
  | [last] => [.token last.2]
  | first :: second :: rest =>
    match joinWith first.2 second with
    | some joined => .joined joined :: lexemes rest
    | none => .token first.2 :: lexemes (second :: rest)

/-- The Go token of a token; absent where the scanner refuses it. -/
def Token.go : Token → Option Scanner.Token
  | .literal inner => inner.goLiteral.map fun found => .literal found.1 found.2
  | .identifier inner => some (Scanner.lookup inner.text)
  | .dot => some (.operator .period)
  | .opening => some (.operator .lparen)
  | .closing => some (.operator .rparen)
  | .unary sign => some (.operator sign.go)
  | .binary sign => some (.operator sign.go)

/-- The Go token of what the scanner takes for one token. -/
def Lexeme.go : Lexeme → Option Scanner.Token
  | .token inner => inner.go
  | .joined operator => some (.operator operator)

/-- The Go tokens of an expression. -/
def goTokens : List Lexeme → Option (List Scanner.Token)
  | [] => some []
  | first :: rest => first.go.bind fun token => (goTokens rest).map (token :: ·)

theorem joinWith_of_join_none
    {first : Token} (alone : first.join = none) (second : Blanks × Token) :
    joinWith first second = none := by
  simp [joinWith, alone]

theorem lexemes_alone (alone : first.2.join = none) (rest : List (Blanks × Token)) :
    lexemes (first :: rest) = .token first.2 :: lexemes rest := by
  cases rest with
  | nil => rfl
  | cons second others => simp only [lexemes, joinWith_of_join_none alone]

variable {second : Blanks × Token}

theorem joinWith_eq_some
    {first : Token} {joined : Scanner.Operator} (joins : joinWith first second = some joined) :
    ∃ operator, first.join = some (operator, joined) ∧
      second.1.val = [] ∧ second.2 = .unary operator := by
  obtain ⟨blanks, token⟩ := second
  unfold joinWith at joins
  split at joins
  · rename_i operator other sign join unary
    split_ifs at joins with same
    refine ⟨operator, ?_, same.2, ?_⟩
    · rw [join, ← Option.some.inj joins]
    · rw [show token = .unary sign from unary, same.1]
  · simp at joins

/-- A token that the next one does not lengthen. -/
theorem separate_of_joinWith
    {first : Token} (alone : joinWith first second = none)
    (placed : Placed .operand (second :: rest)) :
    Separate first.join (normalizedText (second :: rest)) := by
  have heads := operand_normalizedText placed
  constructor
  · exact fun next atHead => (heads next atHead).1
  · rintro ⟨op, joined⟩ joins
    apply nextIs_eq_false
    rintro next atHead rfl
    obtain ⟨empty, unary⟩ := (heads _ atHead).2 op rfl
    simp [joinWith, show first.join = some (op, joined) from joins, unary, empty] at alone

/-- The expression names nothing that is a Go keyword. -/
def NoKeywords (tokens : List (Blanks × Token)) : Prop :=
  ∀ placed ∈ tokens, ∀ identifier,
    placed.2 = .identifier identifier → Scanner.isKeyword identifier.text = false

theorem NoKeywords.of_cons (plain : NoKeywords (first :: tokens)) : NoKeywords tokens :=
  (forall_mem_cons.mp plain).2

variable {after position : Position}

/-- The scanner on a token that no other one lengthens. -/
theorem scanFrom_alone
    (lawful : position.next token = some after) (placed : Placed after rest)
    (apart : after = .operand → token ≠ .opening → Separate token.join (normalizedText rest))
    (semi : Bool) :
    scanFrom semi (token.normalized ++ normalizedText rest) =
      token.go.bind fun found =>
        (scanFrom found.insertSemi (normalizedText rest)).map (found :: ·) := by
  obtain rfl := Position.next_eq lawful
  cases token with
  | literal inner =>
    change scanFrom semi (inner.normalized ++ _) = _
    rw [scanFrom_literal inner (endsNumber_normalizedText placed)]
    cases literal : inner.goLiteral with
    | none => simp [Token.go, literal]
    | some found => simp [Token.go, literal, Scanner.Token.insertSemi]
  | identifier inner => exact scanFrom_identifier inner (outside_normalizedText placed) semi
  | dot =>
    have heads := selector_normalizedText placed
    have noDigit : (((normalizedText rest).head?.map isDecimal).getD false) = false := by
      cases shape : (normalizedText rest).head? with
      | none => rfl
      | some byte => exact (heads byte shape).1
    have noPoint := nextIs_eq_false fun next atHead => (heads next atHead).2
    have scanned :
        scanToken '.' (normalizedText rest) = some (.operator .period, normalizedText rest) := by
      simp +decide [scanToken, noDigit, scanOperator, noPoint]
    change scanFrom semi ('.'.toUInt8 :: normalizedText rest) = _
    rw [scanFrom_token (startsToken_of_apart (by decide) _), scanned]
    rfl
  | opening =>
    have scanned : scanOperator '(' (normalizedText rest) = some (.lparen, normalizedText rest) :=
      rfl
    exact scanFrom_sign (by decide) (fun slash => absurd slash (by decide)) scanned semi
  | closing =>
    have scanned : scanOperator ')' (normalizedText rest) = some (.rparen, normalizedText rest) :=
      rfl
    exact scanFrom_sign (by decide) (fun slash => absurd slash (by decide)) scanned semi
  | unary op =>
    have text : (Token.unary op).normalized = [op.byte] := by
      cases op <;> rfl
    rw [text]
    exact scanFrom_unary op (apart rfl (by rintro ⟨⟩)) semi
  | binary op => exact scanFrom_binary op (apart rfl (by rintro ⟨⟩)) semi

theorem placed_operand_ne_nil (placed : Placed .operand tokens) : tokens ≠ [] := by
  rintro rfl
  rcases placed with absurd | absurd <;> simp at absurd

theorem next_of_join
    {join : UnaryOperator × Scanner.Operator} (joins : token.join = some join)
    (lawful : position.next token = some after) : after = .operand := by
  cases token with
  | unary | binary => cases position <;> simp_all [Position.next]
  | _ => simp [Token.join] at joins

/-- An operand may end a line, unless it is named by a keyword. -/
theorem insertSemi_of_placed_nil
    {found : Scanner.Token} (lawful : position.next token = some after) (placed : Placed after [])
    (notKeyword : ∀ identifier, token = .identifier identifier → isKeyword identifier.text = false)
    (go : token.go = some found) : found.insertSemi := by
  obtain rfl := Position.next_eq lawful
  cases token with
  | literal inner =>
    obtain ⟨literal, -, rfl⟩ := Option.map_eq_some_iff.mp go
    rfl
  | identifier inner =>
    cases go
    rw [Scanner.lookup, notKeyword inner rfl]
    rfl
  | closing =>
    cases go
    rfl
  | dot | opening | unary | binary => rcases placed with absurd | absurd <;> cases absurd

/--
What the scanner makes of the tokens of an expression.  The line ends in an
automatic semicolon, except after some keywords.
-/
def Scanned (tokens : List (Blanks × Token)) (semi : Bool) : Prop :=
  ∃ ending,
    (NoKeywords tokens → (tokens = [] → semi) → ending = [Scanner.Token.newline]) ∧
      scanFrom semi (normalizedText tokens) = (goTokens (lexemes tokens)).map (· ++ ending)

theorem Scanned.nil (semi : Bool) : Scanned [] semi := by
  cases semi with
  | false => exact ⟨[], fun _ ends => absurd (ends rfl) (by decide), rfl⟩
  | true => exact ⟨[.newline], fun _ _ => rfl, rfl⟩

theorem scanFrom_cons (first : Blanks × Token) (rest : List (Blanks × Token)) (semi : Bool) :
    scanFrom semi (normalizedText (first :: rest)) =
      scanFrom semi (first.2.normalized ++ normalizedText rest) := by
  rw [normalizedText, flatMap_cons, append_assoc, scanFrom_blanks first.1.property]
  rfl

/-- The step over a token that the next one does not lengthen. -/
theorem Scanned.alone
    (lawful : position.next first.2 = some after) (placed : Placed after rest)
    (apart : after = .operand → Separate first.2.join (normalizedText rest))
    (split : lexemes (first :: rest) = .token first.2 :: lexemes rest)
    (others : ∀ semi, Scanned rest semi) (semi : Bool) : Scanned (first :: rest) semi := by
  have step := scanFrom_alone lawful placed (fun inOperand _ => apart inOperand) semi
  rw [Scanned, scanFrom_cons, step, split]
  cases go : first.2.go with
  | none =>
    refine ⟨[.newline], fun _ _ => rfl, ?_⟩
    simp [goTokens, Lexeme.go, go]
  | some found =>
    obtain ⟨ending, ended, recursive⟩ := others found.insertSemi
    refine ⟨ending, ?_, ?_⟩
    · intro plain _
      refine ended plain.of_cons ?_
      rintro rfl
      exact insertSemi_of_placed_nil lawful placed (plain first (mem_cons_self ..)) go
    · simp only [goTokens, Lexeme.go, go, bind_some, recursive, Option.map_map]
      rfl

/-- The step over two tokens that make up a longer operator. -/
theorem Scanned.joined
    {joined : Scanner.Operator}
    (joins : joinWith first.2 second = some joined) (placed : Placed .operand (second :: rest))
    (others : ∀ semi, Placed .operand rest → Scanned rest semi) (semi : Bool) :
    Scanned (first :: second :: rest) semi := by
  obtain ⟨op, joinEq, empty, unary⟩ := joinWith_eq_some joins
  obtain ⟨after, lawful, placedRest⟩ := placed
  rw [unary] at lawful
  cases lawful
  have tail : ∀ next ∈ (normalizedText rest).head?, isTailByte next = false := by
    intro next atHead
    cases rest with
    | nil => cases atHead
    | cons third more => exact (operand_normalizedText placedRest next atHead).1
  have secondText : normalizedText (second :: rest) = op.byte :: normalizedText rest := by
    simp only [normalizedText, flatMap_cons, empty, unary, nil_append]
    cases op <;> rfl
  obtain ⟨flag, scanned⟩ := scanFrom_joined joinEq tail semi
  obtain ⟨ending, ended, recursive⟩ := others flag placedRest
  refine ⟨ending, ?_, ?_⟩
  · intro plain _
    exact ended plain.of_cons.of_cons fun isNil =>
      absurd isNil (placed_operand_ne_nil placedRest)
  · rw [scanFrom_cons, secondText, scanned, recursive]
    simp only [lexemes, joins, goTokens, Lexeme.go, bind_some, Option.map_map]
    rfl

/-- The scanner on the text of an expression. -/
theorem scanFrom_normalizedText (placed : Placed position tokens) (semi : Bool) :
    Scanned tokens semi := by
  induction tokens using lexemes.induct generalizing position semi with
  | case1 => exact .nil semi
  | case2 last =>
    obtain ⟨after, lawful, placedRest⟩ := placed
    refine .alone lawful placedRest (fun _ => ?_) rfl .nil semi
    exact ⟨by rintro next ⟨⟩, fun _ _ => rfl⟩
  | case3 first second rest joined joins ih =>
    obtain ⟨after, lawful, placedRest⟩ := placed
    obtain ⟨op, joinEq, -⟩ := joinWith_eq_some joins
    rw [next_of_join joinEq lawful] at placedRest
    exact .joined joins placedRest (fun flag placedOthers => ih placedOthers flag) semi
  | case4 first second rest alone ih =>
    obtain ⟨after, lawful, placedRest⟩ := placed
    refine .alone lawful placedRest (fun inOperand => ?_) ?_ (ih placedRest) semi
    · rw [inOperand] at placedRest
      exact separate_of_joinWith alone placedRest
    · simp only [lexemes, alone]

end Libbinder.Aidl
