import Libbinder.Aidl.GoTokens

/-!
# Literals through `Normalize` and `Parse`

Which expressions come out of `Parse` with the literals they were written with.
Two things get in the way.  The Go tokens of an expression may differ from its
own where two operators stand next to each other, and a literal may denote
something else in Go once `Normalize` has rewritten it.
-/

namespace Libbinder.Aidl

open Go List Scanner

/-! ## Literals that keep their value -/

/-- The value of a literal is that of its Go literal. -/
def Literal.Survives : Literal → Prop
  | .decimal inner =>
    inner.digits.head? ≠ some '0'.toUInt8 ∨
      (octalInvalid inner.digits = false ∧ ∀ byte ∈ inner.digits.dropLast, byte = '0')
  | .hexadecimal inner => inner.cut = false
  | .float inner =>
    '.'.toUInt8 ∈ inner.mantissa ∨ inner.exponent ≠ [] ∨ octalInvalid inner.mantissa = false
  | .string inner => inner.Untouched
  | .char _ => True

theorem digitVal_eq_zero_iff :
    ∀ {byte : UInt8}, isDecimal byte → (digitVal byte = 0 ↔ byte = '0') := by
  decide

variable {digits : List UInt8}

theorem octalInvalid_of_nonzero (nonzero : digits.head? ≠ some '0'.toUInt8) :
    octalInvalid digits = false := by
  cases digits with
  | nil => rfl
  | cons first others =>
    have apart : first ≠ '0' := by
      rintro rfl
      exact nonzero rfl
    rw [octalInvalid, decimalStart, if_neg apart, hasInvalidDigit]
    have small :
        ∀ byte, ¬ (isDecimal byte &&
          decide (10 ≤ byte.toNat - '0'.toNat)) := by
      decide
    rw [Bool.and_eq_false_iff, any_eq_false]
    exact .inr fun byte _ => small byte

/-- The value of the decimal digits of a literal in Go. -/
theorem intLiteralValue_decimal (wellFormed : Digits digits) :
    intLiteralValue digits = digitsValue 10 digits ↔
      digits.head? ≠ some '0'.toUInt8 ∨ ∀ byte ∈ digits.dropLast, byte = '0' := by
  obtain ⟨filled, decimals⟩ := wellFormed
  have ends : EndsDigits [] := by
    rintro next ⟨⟩
  have start := scanPrefix_decimal filled decimals ends
  rw [append_nil, append_nil] at start
  rw [intLiteralValue, start]
  cases digits with
  | nil => exact absurd rfl filled
  | cons first others =>
    by_cases zero : first = '0'
    · subst zero
      have isDigits : ∀ byte ∈ others, byte ≠ '_' := by
        rintro byte among rfl
        exact absurd (decimals _ (mem_cons_of_mem _ among)) (by decide)
      simp only [decimalStart, if_true, digitsValue_cons_zero, Scanner.NumberPrefix.base]
      rw [digitsValue_eq_iff (by decide) (by decide) isDigits]
      cases others with
      | nil => simp
      | cons second more =>
        have zeros :=
          forall₂_congr fun byte inMore =>
            digitVal_eq_zero_iff
              (decimals byte
                (mem_cons_of_mem _ ((dropLast_sublist (second :: more)).subset inMore)))
        rw [zeros, dropLast_cons_cons, forall_mem_cons]
        simp
    · have apart : (first :: others).head? ≠ some '0'.toUInt8 := by
        simpa using zero
      simp only [decimalStart, if_neg zero, Scanner.NumberPrefix.base]
      exact ⟨fun _ => .inl apart, fun _ => trivial⟩

/-- A hexadecimal literal loses a digit that is not zero. -/
theorem HexLiteral.value_kept (literal : HexLiteral) :
    digitsValue 16 literal.kept = digitsValue 16 literal.digits ↔ literal.cut = false := by
  cases cut : literal.cut with
  | false => simp [HexLiteral.kept, cut]
  | true =>
    obtain ⟨-, suffix⟩ := Bool.and_eq_true_iff.mp cut
    obtain ⟨front, final, shape⟩ :=
      eq_nil_or_concat' literal.digits |>.resolve_left literal.nonempty
    have isSuffix : isSuffixByte final := by
      simpa [shape] using suffix
    have isDigit := literal.hexadecimal final (by simp [shape])
    obtain ⟨above, digit⟩ :=
      (by decide : ∀ byte, isSuffixByte byte →
        isHex byte → 0 < digitVal byte ∧ byte ≠ '_') final isSuffix isDigit
    have gone : literal.kept = front := by
      simp [HexLiteral.kept, cut, shape]
    rw [gone, shape, digitsValue_concat digit]
    exact iff_of_false (by omega) Bool.noConfusion

theorem intLiteralValue_hexadecimal {mark : UInt8} (isMark : isHexMark mark) (digits : List UInt8) :
    intLiteralValue ('0' :: mark :: digits) = digitsValue 16 digits := by
  have lowered := (by decide : ∀ byte, isHexMark byte → lower byte = 'x') mark isMark
  simp only [intLiteralValue, scanPrefix, if_true, lowered]
  rfl

/-- The literals that the scanner accepts and that keep their value. -/
theorem Literal.survives_iff (literal : Literal) :
    (∃ parsed, literal.goLiteral = some parsed ∧ literal.Denotes parsed) ↔ literal.Survives := by
  cases literal with
  | decimal inner =>
    have value := intLiteralValue_decimal inner.wellFormed
    cases invalid : octalInvalid inner.digits with
    | true =>
      simp only [goLiteral, invalid, if_true]
      refine iff_of_false (by rintro ⟨_, ⟨⟩, _⟩) ?_
      rintro (apart | ⟨valid, -⟩)
      · rw [octalInvalid_of_nonzero apart] at invalid
        cases invalid
      · rw [invalid] at valid
        cases valid
    | false =>
      simp only [goLiteral, invalid, Bool.false_eq_true, if_false,
        Option.some.injEq, exists_eq_left']
      refine .trans ?_ (value.trans ?_)
      · simp only [Denotes, makeFromLiteral, Option.some.injEq, Constant.int.injEq, Int.ofNat_inj]
      · simp [Survives, invalid]
  | hexadecimal inner =>
    simp only [goLiteral, Option.some.injEq, exists_eq_left']
    refine .trans ?_ inner.value_kept
    simp only [Denotes, normalized, makeFromLiteral, intLiteralValue_hexadecimal inner.isMark,
      Option.some.injEq, Constant.int.injEq, Int.ofNat_inj]
  | float inner =>
    simp only [goLiteral, Survives]
    constructor
    · rintro ⟨parsed, taken, -⟩
      split_ifs at taken with float invalid
      · rcases float with point | exponent
        · exact .inl point
        · exact .inr (.inl exponent)
      · exact .inr (.inr (Bool.eq_false_iff.mpr invalid))
    · intro stays
      split_ifs with float invalid
      · exact ⟨_, rfl, trivial⟩
      · rw [not_or] at float
        rcases stays with point | exponent | valid
        · exact absurd point float.1
        · exact absurd exponent float.2
        · rw [valid] at invalid
          cases invalid
      · exact ⟨_, rfl, trivial⟩
  | string inner =>
    obtain ⟨value, whole, same⟩ := inner.unquote_kept
    have constant :
        makeFromLiteral .string
            ('"'.toUInt8 :: inner.kept ++ ['"'.toUInt8]) =
          some (.string value) := by
      have notRaw : ¬ '"'.toUInt8 = 0x60 := by decide
      simp only [makeFromLiteral, unquote, cons_append, if_neg notRaw,
        dropLast_concat, whole, Option.map_some]
    simp only [goLiteral, Option.some.injEq, exists_eq_left']
    refine .trans ?_ same
    simp only [Denotes, normalized, constant, Option.some.injEq, Constant.string.injEq]
  | char inner => exact ⟨fun _ => trivial, fun _ => ⟨_, rfl, trivial⟩⟩

/-! ## Operators that stay apart -/

/-- No two operators make up a Go operator of another meaning. -/
def Apart (tokens : List (Blanks × Token)) : Prop :=
  tokens.IsChain fun first second =>
    ∀ joined, joinWith first.2 second = some joined → joined = .andNot

/-- The Go parser expects an operand, an operator or a name. -/
def Position.place : Position → Place
  | .operand => .operand
  | .afterOperand => .operator
  | .afterName => .operator
  | .selector => .selector

variable {position : Position} {token : Token}

theorem Identifier.lookup_eq {word : Identifier} (notKeyword : isKeyword word.text = false) :
    Scanner.lookup word.text = .ident word.text :=
  if_neg (Bool.eq_false_iff.mp notKeyword)

/-- A token of an expression may stand where the Go parser is. -/
theorem Token.next_go
    {after : Position} {found : Scanner.Token} (lawful : position.next token = some after)
    (notKeyword : ∀ word, token = .identifier word → isKeyword word.text = false)
    (go : token.go = some found) : position.place.next found = some after.place := by
  cases token with
  | literal inner =>
    obtain ⟨literal, -, rfl⟩ := Option.map_eq_some_iff.mp go
    cases position with
    | operand => cases lawful; rfl
    | _ => simp [Position.next] at lawful
  | unary sign =>
    cases go
    cases position with
    | operand => cases lawful; cases sign <;> rfl
    | _ => simp [Position.next] at lawful
  | binary sign =>
    cases go
    cases position with
    | afterOperand | afterName => cases lawful; cases sign <;> rfl
    | _ => simp [Position.next] at lawful
  | identifier inner =>
    cases go
    rw [Identifier.lookup_eq (notKeyword inner rfl)]
    cases position <;> first
      | (cases lawful; rfl)
      | simp [Position.next] at lawful
  | dot | opening | closing =>
    cases go
    cases position <;> first
      | (cases lawful; rfl)
      | simp [Position.next] at lawful

variable {operator : UnaryOperator}

/-- The longer operators have no place in an expression but for `&^`. -/
theorem next_joined
    {after : Position} {joined : Scanner.Operator} (lawful : position.next token = some after)
    (joins : token.join = some (operator, joined)) :
    position.place.next (.operator joined) = if joined = .andNot then some .operand else none := by
  cases token with
  | unary sign =>
    cases position with
    | operand =>
      cases sign with
      | plus | minus => cases joins; rfl
      | not | complement => simp [Token.join] at joins
    | _ => simp [Position.next] at lawful
  | binary sign =>
    cases position with
    | afterOperand | afterName =>
      cases sign with
      | plus | minus | less | bitAnd => cases joins; rfl
      | _ => simp [Token.join] at joins
    | _ => simp [Position.next] at lawful
  | _ => simp [Token.join] at joins

theorem join_andNot (joins : token.join = some (operator, .andNot)) :
    token = .binary .bitAnd ∧ operator = .complement := by
  cases token with
  | unary sign => cases sign <;> simp [Token.join] at joins
  | binary sign =>
    cases sign with
    | bitAnd => cases joins; exact ⟨rfl, rfl⟩
    | _ => simp [Token.join] at joins
  | _ => simp [Token.join] at joins

theorem goTokens_cons
    {first : Lexeme} {rest : List Lexeme} {tokens : List Scanner.Token}
    (all : goTokens (first :: rest) = some tokens) :
    ∃ found others, first.go = some found ∧ goTokens rest = some others ∧
      tokens = found :: others := by
  obtain ⟨found, go, mapped⟩ := Option.bind_eq_some_iff.mp all
  obtain ⟨others, restGo, rfl⟩ := Option.map_eq_some_iff.mp mapped
  exact ⟨found, others, go, restGo, rfl⟩

variable {found : List Scanner.Token} {tokens : List (Blanks × Token)}

/-- The operators of an accepted expression stay apart. -/
theorem apart_of_run
    (placed : Placed position tokens) (plain : NoKeywords tokens)
    (all : goTokens (lexemes tokens) = some found) {last : Place}
    (runs : position.place.run found = some last) : Apart tokens := by
  induction tokens using lexemes.induct generalizing position found with
  | case1 => exact .nil
  | case2 final => exact .singleton _
  | case3 first second rest joined joins ih =>
    obtain ⟨after, lawful, afterSecond, allowedSecond, placedRest⟩ := placed
    obtain ⟨operator, join, -, unary⟩ := joinWith_eq_some joins
    rw [lexemes, joins] at all
    obtain ⟨token, others, go, restGo, rfl⟩ := goTokens_cons all
    cases go
    rw [Place.run, next_joined lawful join] at runs
    split_ifs at runs with andNot
    · subst andNot
      obtain ⟨-, complement⟩ := join_andNot join
      rw [next_of_join join lawful, unary] at allowedSecond
      cases allowedSecond
      have apartRest := ih placedRest plain.of_cons.of_cons restGo runs
      have alone : second.2.join = none := by
        rw [unary, complement]
        rfl
      refine isChain_cons_cons.mpr ⟨?_, ?_⟩
      · intro other same
        rw [joins] at same
        exact (Option.some.inj same).symm
      · cases rest with
        | nil => exact .singleton _
        | cons third more =>
          refine isChain_cons_cons.mpr ⟨?_, apartRest⟩
          intro other same
          rw [joinWith_of_join_none alone] at same
          cases same
    · cases runs
  | case4 first second rest alone ih =>
    obtain ⟨after, lawful, placedRest⟩ := placed
    rw [lexemes, alone] at all
    obtain ⟨token, others, go, restGo, rfl⟩ := goTokens_cons all
    rw [Place.run, Token.next_go lawful (plain first (mem_cons_self ..)) go, Option.bind_some]
      at runs
    refine isChain_cons_cons.mpr ⟨?_, ih placedRest plain.of_cons restGo runs⟩
    intro joined same
    rw [alone] at same
    cases same

/-! ## Expressions are accepted -/

/-- No token of a text may be read as part of the one before it. -/
def StartsAfresh : List (Blanks × Token) → Prop
  | [] => True
  | first :: _ => ∀ sign, first.2 ≠ .unary sign

theorem startsAfresh_binary
    (blanks : Blanks) (sign : BinaryOperator) (rest : List (Blanks × Token)) :
    StartsAfresh ((blanks, .binary sign) :: rest) := by
  rintro other ⟨⟩

variable {right : List (Blanks × Token)}

theorem lexemes_append (left : List (Blanks × Token)) (afresh : StartsAfresh right) :
    lexemes (left ++ right) = lexemes left ++ lexemes right := by
  induction left using lexemes.induct with
  | case1 => rfl
  | case2 final =>
    cases right with
    | nil => rfl
    | cons first rest =>
      have alone : joinWith final.2 first = none := by
        cases joins : joinWith final.2 first with
        | none => rfl
        | some joined =>
          obtain ⟨operator, -, -, unary⟩ := joinWith_eq_some joins
          exact absurd unary (afresh operator)
      simp only [cons_append, nil_append, lexemes, alone]
  | case3 first second rest joined joins ih =>
    simp only [cons_append, lexemes, joins, ih]
  | case4 first second rest alone ih =>
    simp only [cons_append] at ih
    simp only [cons_append, lexemes, alone, ih]

theorem goTokens_append
    {left right : List Lexeme} {leftFound rightFound : List Scanner.Token}
    (leftGo : goTokens left = some leftFound) (rightGo : goTokens right = some rightFound) :
    goTokens (left ++ right) = some (leftFound ++ rightFound) := by
  induction left generalizing leftFound with
  | nil =>
    cases leftGo
    exact rightGo
  | cons first rest ih =>
    obtain ⟨found, others, go, restGo, rfl⟩ := goTokens_cons leftGo
    simp only [cons_append, goTokens, go, Option.bind_some, ih restGo, Option.map_some]

theorem goTokens_token
    {own : Scanner.Token} {rest : List Lexeme} (go : token.go = some own)
    (restGo : goTokens rest = some found) :
    goTokens (.token token :: rest) = some (own :: found) := by
  simp only [goTokens, Lexeme.go, go, restGo, Option.bind_some, Option.map_some]

theorem goTokens_name
    {word : Identifier} {blanks : Blanks} {rest : List (Blanks × Token)}
    (plain : NoKeywords ((blanks, .identifier word) :: rest))
    (restGo : goTokens (lexemes rest) = some found) :
    goTokens (lexemes ((blanks, .identifier word) :: rest)) = some (.ident word.text :: found) := by
  have alone : (Token.identifier word).join = none := rfl
  have notKeyword := plain (blanks, .identifier word) (mem_cons_self ..) word rfl
  rw [lexemes_alone alone]
  exact goTokens_token (congrArg some (Identifier.lookup_eq notKeyword)) restGo

theorem goTokens_partTokens (parts : List NamePart) (plain : NoKeywords (partTokens parts)) :
    goTokens (lexemes (partTokens parts)) =
      some (selectorTokens (parts.map (·.identifier.text))) := by
  induction parts with
  | nil => rfl
  | cons part others ih =>
    have split :
        partTokens (part :: others) =
          (part.beforeDot, .dot) ::
            (part.beforeName, .identifier part.identifier) :: partTokens others := rfl
    have dotAlone : Token.dot.join = none := rfl
    rw [split] at plain
    rw [split, lexemes_alone dotAlone]
    exact goTokens_token rfl (goTokens_name plain.of_cons (ih plain.of_cons.of_cons))

/-- The scanner accepts every literal of the tokens. -/
def Scannable (tokens : List (Blanks × Token)) : Prop :=
  ∀ literal ∈ literalsOf tokens, literal.goLiteral.isSome = true

theorem Scannable.of_survive (survive : ∀ literal ∈ literalsOf tokens, literal.Survives) :
    Scannable tokens := by
  intro literal member
  obtain ⟨found, go, -⟩ := literal.survives_iff.mpr (survive literal member)
  rw [go]
  rfl

variable {left : List (Blanks × Token)}

theorem forall_literals_append
    {property : Literal → Prop} (all : ∀ literal ∈ literalsOf (left ++ right), property literal) :
    (∀ literal ∈ literalsOf left, property literal) ∧
      ∀ literal ∈ literalsOf right, property literal := by
  rw [literalsOf, filterMap_append] at all
  exact forall_mem_append.mp all

theorem Scannable.of_append (scans : Scannable (left ++ right)) :
    Scannable left ∧ Scannable right :=
  forall_literals_append scans

variable {rest : List (Blanks × Token)} {first : Blanks × Token}

theorem Scannable.of_cons (scans : Scannable (first :: rest)) : Scannable rest :=
  (@Scannable.of_append rest [first] scans).2

theorem NoKeywords.of_append (plain : NoKeywords (left ++ right)) :
    NoKeywords left ∧ NoKeywords right :=
  forall_mem_append.mp plain

theorem Apart.of_append (apart : Apart (left ++ right)) : Apart left ∧ Apart right := by
  have parts := isChain_append.mp apart
  exact ⟨parts.1, parts.2.1⟩

theorem Apart.of_cons (apart : Apart (first :: rest)) : Apart rest :=
  (@Apart.of_append rest [first] apart).2

variable {blanks : Blanks}

/-- The tokens after a unary operator start afresh when all stay apart. -/
theorem lexemes_unary {sign : UnaryOperator} (apart : Apart ((blanks, .unary sign) :: rest)) :
    lexemes ((blanks, .unary sign) :: rest) = .token (.unary sign) :: lexemes rest := by
  cases rest with
  | nil => rfl
  | cons second others =>
    have alone : joinWith (.unary sign) second = none := by
      cases joins : joinWith (.unary sign) second with
      | none => rfl
      | some joined =>
        have andNot := (isChain_cons_cons.mp apart).1 joined joins
        obtain ⟨operator, join, -, -⟩ := joinWith_eq_some joins
        rw [andNot] at join
        exact absurd (join_andNot join).1 (by simp)
    simp only [lexemes, alone]

theorem goTokens_paren
    (opening closing : Blanks) {inner : List (Blanks × Token)}
    (go : goTokens (lexemes inner) = some found) :
    goTokens
        (lexemes ((opening, .opening) :: inner ++ [(closing, .closing)])) =
      some (.operator .lparen :: found ++ [.operator .rparen]) := by
  have alone : Token.opening.join = none := rfl
  have afresh : StartsAfresh [(closing, Token.closing)] := by
    rintro sign ⟨⟩
  have closingGo : goTokens (lexemes [(closing, Token.closing)]) = some [.operator .rparen] := rfl
  rw [cons_append, lexemes_alone alone, lexemes_append _ afresh]
  exact goTokens_token rfl (goTokens_append go closingGo)

/-- The tokens after a binary operator, which may hide a complement. -/
theorem operands_binary
    {sign : BinaryOperator} (apart : Apart ((blanks, .binary sign) :: rest))
    (restGo : goTokens (lexemes rest) = some found) (operands : Operands found) :
    ∃ operator others, 1 ≤ precedence operator ∧ Operands others ∧
      goTokens (lexemes ((blanks, .binary sign) :: rest)) =
        some (.operator operator :: others) := by
  by_cases split : lexemes ((blanks, .binary sign) :: rest) = .token (.binary sign) :: lexemes rest
  · refine ⟨sign.go, found, by cases sign <;> decide, operands, ?_⟩
    rw [split]
    exact goTokens_token rfl restGo
  cases rest with
  | nil => exact absurd rfl split
  | cons second others =>
    cases joins : joinWith (.binary sign) second with
    | none => exact absurd (by simp only [lexemes, joins]) split
    | some joined =>
      cases (isChain_cons_cons.mp apart).1 joined joins
      obtain ⟨operator, join, -, unary⟩ := joinWith_eq_some joins
      obtain ⟨-, complement⟩ := join_andNot join
      have alone : second.2.join = none := by
        rw [unary, complement]
        rfl
      rw [lexemes_alone alone, unary] at restGo
      obtain ⟨token, more, go, othersGo, rfl⟩ := goTokens_cons restGo
      cases go
      have notParen : operator.go ≠ .lparen := by
        cases operator <;> decide
      refine ⟨.andNot, more, by decide, operands.of_unary notParen, ?_⟩
      simp only [lexemes, joins, goTokens, Lexeme.go, Option.bind_some, othersGo, Option.map_some]

/-- The Go tokens of an expression are those of operands and operators. -/
theorem Expression.operands
    {expr : Expression} (plain : NoKeywords expr.tokens) (apart : Apart expr.tokens)
    (scans : Scannable expr.tokens) :
    ∃ found, goTokens (lexemes expr.tokens) = some found ∧ Operands found := by
  induction expr with
  | literal blanks inner =>
    have accepted := scans inner (mem_cons_self ..)
    obtain ⟨literal, go⟩ := Option.isSome_iff_exists.mp accepted
    refine ⟨[.literal literal.1 literal.2], ?_, (Operand.literal literal.1 literal.2).operands⟩
    exact goTokens_token (Option.map_eq_some_iff.mpr ⟨literal, go, rfl⟩) rfl
  | name blanks first others =>
    refine ⟨_, ?_, (Operand.name first.text (others.map (·.identifier.text))).operands⟩
    exact goTokens_name plain (goTokens_partTokens others plain.of_cons)
  | paren opening inner closing ih =>
    rw [tokens, cons_append] at plain apart scans
    obtain ⟨found, go, operands⟩ :=
      ih plain.of_cons.of_append.1 apart.of_cons.of_append.1 scans.of_cons.of_append.1
    exact ⟨_, goTokens_paren opening closing go, operands.paren.operands⟩
  | unary blanks sign operand ih =>
    rw [tokens] at plain apart scans
    obtain ⟨found, go, operands⟩ := ih plain.of_cons apart.of_cons scans.of_cons
    have isUnarySign : isUnary sign.go := by cases sign <;> rfl
    refine ⟨_, ?_, operands.unary isUnarySign⟩
    rw [tokens, lexemes_unary apart]
    exact goTokens_token rfl go
  | binary left blanks sign right leftIh rightIh =>
    rw [tokens] at plain apart scans
    obtain ⟨leftFound, leftGo, leftOperands⟩ :=
      leftIh plain.of_append.1 apart.of_append.1 scans.of_append.1
    obtain ⟨rightFound, rightGo, rightOperands⟩ :=
      rightIh plain.of_append.2.of_cons apart.of_append.2.of_cons scans.of_append.2.of_cons
    obtain ⟨operator, others, isBinary, otherOperands, go⟩ :=
      operands_binary apart.of_append.2 rightGo rightOperands
    refine ⟨_, ?_, leftOperands.binary isBinary otherOperands⟩
    rw [tokens, lexemes_append _ (startsAfresh_binary blanks sign _)]
    exact goTokens_append leftGo go

/-! ## The literals of the Go tokens -/

theorem forall₂_literals (all : goTokens (lexemes tokens) = some found) :
    List.Forall₂ (fun literal parsed => literal.goLiteral = some parsed)
      (literalsOf tokens) (tokenLiterals found) := by
  have single :
      ∀ {first : Blanks × Token} {rest : List (Blanks × Token)}
        {token : Scanner.Token} {others : List Scanner.Token},
        first.2.go = some token →
        List.Forall₂ (fun literal parsed => literal.goLiteral = some parsed)
          (literalsOf rest) (tokenLiterals others) →
        List.Forall₂ (fun literal parsed => literal.goLiteral = some parsed)
          (literalsOf (first :: rest)) (tokenLiterals (token :: others)) := by
    rintro ⟨blanks, token⟩ rest _ others go related
    cases token with
    | literal inner =>
      obtain ⟨parsed, literal, rfl⟩ := Option.map_eq_some_iff.mp go
      exact .cons literal related
    | identifier inner =>
      cases go
      unfold Scanner.lookup
      split
      · exact related
      · exact related
    | _ =>
      cases go
      exact related
  induction tokens using lexemes.induct generalizing found with
  | case1 =>
    cases all
    exact .nil
  | case2 final =>
    obtain ⟨token, others, go, restGo, rfl⟩ := goTokens_cons all
    cases restGo
    exact single go .nil
  | case3 first second rest joined joins ih =>
    rw [lexemes, joins] at all
    obtain ⟨token, others, go, restGo, rfl⟩ := goTokens_cons all
    cases go
    obtain ⟨operator, join, -, unary⟩ := joinWith_eq_some joins
    obtain ⟨blanks, token⟩ := first
    obtain ⟨secondBlanks, secondToken⟩ := second
    cases unary
    have related := ih restGo
    cases token with
    | unary | binary => exact related
    | _ => simp [Token.join] at join
  | case4 first second rest alone ih =>
    rw [lexemes, alone] at all
    obtain ⟨token, others, go, restGo, rfl⟩ := goTokens_cons all
    exact single go (ih restGo)

/-- The Go literals denote the same when the literals survive. -/
theorem forall₂_denotes_iff
    {literals : List Literal} {parsed : List (Scanner.LiteralKind × List UInt8)}
    (read : List.Forall₂ (fun literal found => literal.goLiteral = some found) literals parsed) :
    List.Forall₂ Literal.Denotes literals parsed ↔ ∀ literal ∈ literals, literal.Survives := by
  induction read with
  | nil => simp
  | @cons literal found others rest go related ih =>
    have own : literal.Denotes found ↔ literal.Survives := by
      rw [← literal.survives_iff]
      constructor
      · exact fun denotes => ⟨found, go, denotes⟩
      · rintro ⟨other, otherGo, denotes⟩
        rw [go] at otherGo
        rwa [Option.some.inj otherGo]
    rw [forall₂_cons, own, ih, forall_mem_cons]

/-! ## Texts of expressions -/

theorem lexemes_unindent (tokens : List (Blanks × Token)) :
    lexemes (unindent tokens) = lexemes tokens := by
  cases tokens with
  | nil => rfl
  | cons first rest =>
    cases rest with
    | nil | cons => rfl

theorem literalsOf_unindent (tokens : List (Blanks × Token)) :
    literalsOf (unindent tokens) = literalsOf tokens := by
  cases tokens with
  | nil | cons => rfl

theorem noKeywords_unindent (plain : NoKeywords tokens) : NoKeywords (unindent tokens) := by
  cases tokens with
  | nil => exact plain
  | cons first rest =>
    obtain ⟨own, others⟩ := forall_mem_cons.mp plain
    exact forall_mem_cons.mpr ⟨own, others⟩

/-- A token that joins no other one is found among the Go tokens. -/
theorem mem_goTokens
    (all : goTokens (lexemes tokens) = some found) (alone : token.join = none)
    (notUnary : ∀ sign, token ≠ .unary sign) (mem : (blanks, token) ∈ tokens) :
    ∃ own ∈ found, token.go = some own := by
  induction tokens using lexemes.induct generalizing found with
  | case1 => cases mem
  | case2 final =>
    cases mem_singleton.mp mem
    obtain ⟨own, others, go, -, rfl⟩ := goTokens_cons all
    exact ⟨own, mem_cons_self, go⟩
  | case3 first second rest joined joins ih =>
    obtain ⟨operator, join, -, unary⟩ := joinWith_eq_some joins
    rw [lexemes, joins] at all
    obtain ⟨operatorToken, others, -, restGo, rfl⟩ := goTokens_cons all
    rcases mem_cons.mp mem with rfl | inRest
    · rw [alone] at join
      cases join
    · rcases mem_cons.mp inRest with rfl | inOthers
      · exact absurd unary (notUnary operator)
      · obtain ⟨own, inFound, go⟩ := ih restGo inOthers
        exact ⟨own, mem_cons_of_mem _ inFound, go⟩
  | case4 first second rest apart ih =>
    rw [lexemes, apart] at all
    obtain ⟨firstToken, others, firstGo, restGo, rfl⟩ := goTokens_cons all
    rcases mem_cons.mp mem with rfl | inRest
    · exact ⟨firstToken, mem_cons_self, firstGo⟩
    · obtain ⟨own, inFound, go⟩ := ih restGo inRest
      exact ⟨own, mem_cons_of_mem _ inFound, go⟩

/-- A byte of the ASCII range other than NUL. -/
def isAscii (byte : UInt8) : Bool :=
  byte != 0 && decide (byte < 0x80)

variable {text : List UInt8}

theorem legalSource_of_isAscii (ascii : ∀ byte ∈ text, isAscii byte) : legalSource text := by
  apply legalSource_ascii
  intro byte inText
  simpa [isAscii] using ascii byte inText

theorem legalSource_number (bytes : ∀ byte ∈ text, isNumberByte byte) : legalSource text :=
  legalSource_of_isAscii fun byte inText =>
    (by decide : ∀ byte, isNumberByte byte → isAscii byte) byte (bytes byte inText)

theorem legalSource_words (words : ∀ byte ∈ text, isWordByte byte) : legalSource text :=
  legalSource_number fun byte inText =>
    isNumberByte_of_isWordByte (words byte inText)

/-- An untouched string literal is kept as it is. -/
theorem StringLiteral.kept_eq {literal : StringLiteral} (untouched : literal.Untouched) :
    literal.kept = literal.body := by
  have unchanged : literal.body.map caret = literal.body := by
    apply map_caret
    rintro byte inBody rfl
    exact untouched.1 inBody
  rw [StringLiteral.kept, unchanged]
  exact Pattern.replaceFrom_of_free untouched.2

theorem Literal.legal_normalized {literal : Literal} (stays : literal.Survives) :
    legalSource literal.normalized := by
  cases literal with
  | decimal inner =>
    exact legalSource_words fun byte inText =>
      isWordByte_of_isDecimal (inner.wellFormed.2 byte inText)
  | hexadecimal inner =>
    exact legalSource_words (words_of_isHexMark inner.isMark inner.kept_digits.2)
  | float inner =>
    apply legalSource_number
    intro byte inText
    rw [isNumberByte, inner.floatBytes byte inText, Bool.or_true]
  | string inner =>
    have quote : legalSource ['"'] := by decide
    have body : legalSource inner.kept := by
      rw [StringLiteral.kept_eq stays]
      exact inner.legal
    exact legalSource_append (legalSource_append quote body) quote
  | char inner =>
    apply legalSource_of_isAscii
    have own := (by decide : ∀ byte, isCharByte byte → isAscii (caret byte)) inner.byte inner.isChar
    simp only [normalized, forall_mem_cons]
    exact ⟨by decide, own, by decide, forall_mem_nil _⟩

theorem Token.legal_normalized (stays : ∀ literal, token = .literal literal → literal.Survives) :
    legalSource token.normalized := by
  cases token with
  | literal inner => exact Literal.legal_normalized (stays inner rfl)
  | identifier inner => exact legalSource_words inner.words
  | unary sign | binary sign => cases sign <;> decide
  | dot | opening | closing => decide

/-- The Go source of an expression is legal when its literals survive. -/
theorem legal_normalizedText (survive : ∀ literal ∈ literalsOf tokens, literal.Survives) :
    legalSource (normalizedText tokens) := by
  induction tokens with
  | nil => decide
  | cons first rest ih =>
    obtain ⟨blanks, token⟩ := first
    have text :
        normalizedText ((blanks, token) :: rest) =
          blanks.val ++ token.normalized ++ normalizedText rest := by
      simp [normalizedText]
    have blank : legalSource blanks.val := legalSource_of_isAscii (blanks.all (by decide))
    have own : legalSource token.normalized := by
      apply Token.legal_normalized
      rintro literal rfl
      exact survive literal (mem_cons_self ..)
    have others : legalSource (normalizedText rest) :=
      ih (@forall_literals_append rest [(blanks, token)] _ survive).2
    rw [text]
    exact legalSource_append (legalSource_append blank own) others

/-- The first byte of an expression, which starts no byte order mark. -/
theorem Expression.head_normalized (expr : Expression) :
    ∃ first rest, normalizedText (unindent expr.tokens) = first :: rest ∧ first ≠ 0xEF := by
  cases shape : expr.tokens with
  | nil => exact absurd shape expr.tokens_ne_nil
  | cons head tail =>
    obtain ⟨blanks, token⟩ := head
    obtain ⟨first, rest, text, starts, -⟩ := token.head_normalized
    refine ⟨first, rest ++ normalizedText tail, ?_, ?_⟩
    · simp [normalizedText, unindent, text]
    · rintro rfl
      cases token with
      | unary sign | binary sign => cases sign <;> cases starts
      | _ => cases starts

/-- `Parse` on the text of an expression, up to the legality of the text. -/
theorem parse_text (expr : Expression) (tail : Blanks) :
    ∃ ending, (NoKeywords expr.tokens → ending = [.newline]) ∧
      parse (expr.text tail) =
        if legalSource
            (normalizedText (unindent expr.tokens)) then
          (goTokens (lexemes expr.tokens)).bind fun found =>
            parseTokens (found ++ ending)
        else
          none := by
  obtain ⟨first, rest, text, apart⟩ := expr.head_normalized
  have filled : normalizedText (unindent expr.tokens) ≠ [] := by
    rw [text]
    exact cons_ne_nil _ _
  have unmarked :
      withoutMark (normalizedText (unindent expr.tokens)) =
        normalizedText (unindent expr.tokens) := by
    rw [withoutMark, if_neg]
    rw [text]
    intro marked
    have coded : Utf8.encodeRune byteOrderMark = [0xEF, 0xBB, 0xBF] := by
      decide
    rw [coded, take_succ_cons] at marked
    exact apart (List.cons.inj marked).1
  obtain ⟨ending, ended, scanned⟩ := scanFrom_normalizedText (placed_unindent expr.placed) false
  refine ⟨ending, ?_, ?_⟩
  · intro plain
    exact ended (noKeywords_unindent plain) fun empty => absurd (by rw [empty]; rfl) filled
  rw [parse, normalize_text]
  simp only [if_neg filled, parseExpr, scan, unmarked]
  split_ifs with legal
  · rw [scanned, lexemes_unindent, Option.bind_map]
    rfl
  · rfl

/-- `Parse` accepts no expression that names a Go keyword. -/
theorem noKeywords_of_parse
    {expr : Expression} {tail : Blanks} {tree : Expr}
    (parsed : parse (expr.text tail) = some tree) : NoKeywords expr.tokens := by
  obtain ⟨ending, -, text⟩ := parse_text expr tail
  rw [text] at parsed
  split_ifs at parsed with legal
  obtain ⟨found, all, accepted⟩ := Option.bind_eq_some_iff.mp parsed
  rintro ⟨blanks, token⟩ mem word rfl
  obtain ⟨own, inFound, go⟩ := mem_goTokens all rfl (by rintro sign ⟨⟩) mem
  cases go
  by_contra isKeyword
  rw [Scanner.lookup, if_pos (eq_true_of_ne_false isKeyword)] at inFound
  have inAll : Scanner.Token.keyword word.text ∈ found ++ ending := mem_append_left _ inFound
  rcases flatten_of_parseTokens accepted with same | same
  · rw [same] at inAll
    exact tree.keyword_notMem_flatten _ inAll
  · rw [same] at inAll
    simp [tree.keyword_notMem_flatten] at inAll

/-- The tokens before the end of an accepted text are those of its tree. -/
theorem flatten_eq {tree : Expr} (taken : parseTokens (found ++ [.newline]) = some tree) :
    found = tree.flatten := by
  rcases flatten_of_parseTokens taken with ended | same
  · have runs := run_of_parseTokens taken
    rw [← ended, Place.run_append] at runs
    obtain ⟨place, -, last⟩ := Option.bind_eq_some_iff.mp runs
    cases place <;> simp [Place.run, Place.next] at last
  · exact append_cancel_right same

/--
Exactly these expressions come out of `Parse` with every integer and string
literal denoting what it denotes in AIDL: those that name no Go keyword, whose
operators stay apart and whose literals survive.
-/
theorem parse_preserves_literals_iff (expression : Expression) (trailing : Blanks) :
    (∃ tree, parse (expression.text trailing) = some tree ∧
        List.Forall₂ Literal.Denotes expression.literals tree.literals) ↔
      NoKeywords expression.tokens ∧ Apart expression.tokens ∧
        ∀ literal ∈ expression.literals, literal.Survives := by
  obtain ⟨ending, ended, text⟩ := parse_text expression trailing
  constructor
  · rintro ⟨tree, parsed, denote⟩
    have plain := noKeywords_of_parse parsed
    rw [text, ended plain] at parsed
    split_ifs at parsed with legal
    obtain ⟨found, all, accepted⟩ := Option.bind_eq_some_iff.mp parsed
    have runs := run_of_parseTokens accepted
    rw [Expr.literals_eq, ← flatten_eq accepted] at denote
    rw [← flatten_eq accepted] at runs
    exact ⟨plain, apart_of_run expression.placed plain all runs,
      (forall₂_denotes_iff (forall₂_literals all)).mp denote⟩
  · rintro ⟨plain, apart, survive⟩
    have legal : Scanner.legalSource (normalizedText (unindent expression.tokens)) :=
      legal_normalizedText (by rwa [literalsOf_unindent])
    obtain ⟨found, all, operands⟩ := expression.operands plain apart (.of_survive survive)
    obtain ⟨tree, accepted⟩ := operands.accepted
    refine ⟨tree, ?_, ?_⟩
    · rw [text, ended plain, if_pos legal, all, Option.bind_some, accepted]
    · rw [Expr.literals_eq, ← flatten_eq accepted]
      exact (forall₂_denotes_iff (forall₂_literals all)).mpr survive

/-- No blanks. -/
def noBlanks : Blanks :=
  ⟨[], all_nil⟩

/-- The hexadecimal literal `0x1F`. -/
def thirtyOne : HexLiteral :=
  ⟨'x', by decide, ['1', 'F'], by decide, all_eq_true.mp (by decide), none⟩

/-- `0x1F` denotes thirty-one, and it is parsed as `0x1`. -/
theorem parse_thirtyOne :
    digitsValue 16 thirtyOne.digits = 31 ∧
      parse
          ((Expression.literal noBlanks (.hexadecimal thirtyOne)).text noBlanks) =
        some (.basicLit .int ['0'.toUInt8, 'x'.toUInt8, '1'.toUInt8]) ∧
      makeFromLiteral .int ['0'.toUInt8, 'x'.toUInt8, '1'.toUInt8] = some (.int 1) := by
  refine ⟨by decide +kernel, by decide +kernel, by decide +kernel⟩

end Libbinder.Aidl
