import Libbinder.Aidl.Expression
import Mathlib.Data.Option.Basic

/-!
# Normalized expressions

What `Normalize` makes of the text of an expression.  The replacement is made
over the whole text, but no match reaches over the end of a token, so that it
acts on each token by itself: it drops the suffix of a number, the last digit
of some hexadecimal literals, and whatever it finds inside a string.
-/

namespace Libbinder.Aidl

open Go List Literal

/-! ## The normalized tokens -/

/-- The last digit of the literal is taken for a suffix. -/
def HexLiteral.cut (literal : HexLiteral) : Bool :=
  literal.suffix.isNone && decide (2 ≤ literal.digits.length) &&
    (literal.digits.getLast?.map isSuffixByte).getD false

/-- The digits that stay in a hexadecimal literal. -/
def HexLiteral.kept (literal : HexLiteral) : List UInt8 :=
  if literal.cut then literal.digits.dropLast else literal.digits

/-- The body that stays in a string literal. -/
def StringLiteral.kept (literal : StringLiteral) : List UInt8 :=
  numericLiteralSuffixRE.replaceFrom false (literal.body.map caret)

/-- The normalized text of a literal. -/
def Literal.normalized : Literal → List UInt8
  | .decimal inner => inner.digits
  | .hexadecimal inner => '0' :: inner.mark :: inner.kept
  | .float inner => inner.mantissa ++ inner.exponent
  | .string inner => '"'.toUInt8 :: inner.kept ++ ['"'.toUInt8]
  | .char inner => ['\'', caret inner.byte, '\'']

/-- The normalized text of a token. -/
def Token.normalized : Token → List UInt8
  | .literal inner => inner.normalized
  | .unary .complement => ['^']
  | other => other.text

/-- The normalized text of tokens. -/
def normalizedText (tokens : List (Blanks × Token)) : List UInt8 :=
  tokens.flatMap fun placed => placed.1.val ++ placed.2.normalized

/-! ## Copied texts -/

/-- The replacement that `Normalize` makes, from inside a text on. -/
abbrev stripFrom (inWord : Bool) (text : List UInt8) : List UInt8 :=
  numericLiteralSuffixRE.replaceFrom inWord text

theorem stripFrom_copy
    {inWord : Bool} {byte : UInt8} {rest : List UInt8}
    (misses : numericLiteralSuffixRE.runAt inWord (byte :: rest) = []) :
    stripFrom inWord (byte :: rest) = byte :: stripFrom (isWordByte byte) rest :=
  Pattern.replaceFrom_copy misses

/-- A byte at which no match starts. -/
def isQuiet (byte : UInt8) : Bool :=
  !isDecimal byte && byte != '.'

variable {text : List UInt8}

theorem replaceFrom_quiet
    (quiet : ∀ byte ∈ text, isQuiet byte) (inWord : Bool) (rest : List UInt8) :
    stripFrom inWord (text ++ rest) = text ++ stripFrom (endsWord inWord text) rest := by
  induction text generalizing inWord with
  | nil => rfl
  | cons byte others ih =>
    obtain ⟨first, quietOthers⟩ := forall_mem_cons.mp quiet
    rw [isQuiet, Bool.and_eq_true, Bool.not_eq_true', bne_iff_ne] at first
    rw [cons_append, stripFrom_copy (runAt_of_other _ _ first.1 first.2), ih quietOthers]
    rfl

/-- The rest of a word is copied. -/
theorem replaceFrom_word (word : ∀ byte ∈ text, isWordByte byte) (rest : List UInt8) :
    stripFrom true (text ++ rest) = text ++ stripFrom true rest := by
  induction text with
  | nil => rfl
  | cons byte others ih =>
    obtain ⟨first, wordOthers⟩ := forall_mem_cons.mp word
    have inside : numericLiteralSuffixRE.runAt true (byte :: (others ++ rest)) = [] :=
      runAt_of_same first.symm
    rw [cons_append, stripFrom_copy inside, first, ih wordOthers]
    rfl

variable {rest : List UInt8} {last : UInt8}

theorem endsNumber_apart (ends : EndsNumber rest) (notMark : isExponentMark last = false) :
    ∀ next ∈ rest.head?, ¬ Linked last next := by
  rintro next atHead (word | point | ⟨-, mark⟩)
  · rw [(ends next atHead).1] at word
    cases word
  · exact (ends next atHead).2 point
  · rw [notMark] at mark
    cases mark

/-- A text without suffix letters is copied. -/
theorem replaceFrom_plain
    (plain : ∀ byte ∈ text, isSuffixByte byte = false)
    (apart : ∀ last ∈ text.getLast?, ∀ next ∈ rest.head?, ¬ Linked last next) (inWord : Bool) :
    stripFrom inWord (text ++ rest) = text ++ stripFrom (endsWord inWord text) rest := by
  induction text generalizing inWord with
  | nil => rfl
  | cons byte others ih =>
    have misses : numericLiteralSuffixRE.runAt inWord (byte :: (others ++ rest)) = [] := by
      rw [eq_nil_iff_forall_not_mem]
      intro found fits
      rw [← cons_append] at fits
      obtain ⟨after, within, -⟩ := text_within fits (by simp) apart
      obtain ⟨suffix, -, whole, isSuffix, -⟩ := (mem_runAt_suffix ..).mp fits
      rw [plain suffix (by rw [within, whole]; simp)] at isSuffix
      cases isSuffix
    rw [cons_append, stripFrom_copy misses]
    cases others with
    | nil => rfl
    | cons second more =>
      rw [ih (forall_mem_cons.mp plain).2 (fun last atEnd => apart last (by simpa using atEnd))]
      rfl

/-! ## Numbers -/

variable {suffix : UInt8}

/-- The first suffix letter of a text ends its only suffixed part. -/
theorem split_at_suffix
    {number captured after : List UInt8} {other : UInt8}
    (plain : ∀ byte ∈ number, isSuffixByte byte = false) (otherIsSuffix : isSuffixByte other)
    (split : number ++ [suffix] = captured ++ [other] ++ after) :
    captured = number ∧ other = suffix ∧ after = [] := by
  rcases eq_nil_or_concat' after with rfl | ⟨more, last, rfl⟩
  · rw [append_nil] at split
    obtain ⟨same, last⟩ := append_inj' split rfl
    exact ⟨same.symm, (singleton_inj.mp last).symm, rfl⟩
  · rw [← append_assoc] at split
    have whole := (append_inj' split rfl).1
    rw [plain other (by rw [whole]; simp)] at otherIsSuffix
    cases otherIsSuffix

/-- The suffix of a number without other suffix letters is dropped. -/
theorem replaceFrom_suffixed
    {number : List UInt8} (isNumber : IsNumber number)
    (plain : ∀ byte ∈ number, isSuffixByte byte = false) (word : startsWord number)
    (isSuffix : isSuffixByte suffix) (ends : EndsNumber rest) :
    stripFrom false (number ++ [suffix] ++ rest) =
      number ++ stripFrom (endsWord false (number ++ [suffix])) rest := by
  have notMark : ∀ byte, isSuffixByte byte → isExponentMark byte = false := by
    decide
  have boundary : false ≠ startsWord (number ++ [suffix] ++ rest) := by
    cases number with
    | nil => cases word
    | cons first others =>
      intro same
      cases same.trans word
  let whole : Match := { text := number ++ [suffix], captured := number, rest := rest }
  have fits : whole ∈ numericLiteralSuffixRE.runAt false (number ++ [suffix] ++ rest) :=
    (mem_runAt_suffix ..).mpr ⟨suffix, rfl, rfl, isSuffix, boundary, ends.startsWord, isNumber⟩
  refine Pattern.replaceFrom_unique fits ?_
  intro other otherMatched
  obtain ⟨after, within, restEq⟩ :=
    text_within otherMatched (by simp)
      (by
        intro last atEnd
        rw [getLast?_append_of_ne_nil _ (by simp)] at atEnd
        cases atEnd
        exact endsNumber_apart ends (notMark suffix isSuffix))
  obtain ⟨otherSuffix, -, otherWhole, otherIsSuffix, -⟩ := (mem_runAt_suffix ..).mp otherMatched
  rw [otherWhole] at within
  obtain ⟨sameNumber, sameSuffix, nothing⟩ := split_at_suffix plain otherIsSuffix within
  rw [nothing, nil_append] at restEq
  cases other
  simp only at sameNumber restEq otherWhole
  simp only [whole, otherWhole, sameNumber, sameSuffix, restEq]

/-- Two ways to split a text at the end of its first word are one. -/
theorem word_unique
    {left right leftRest rightRest : List UInt8} (leftWord : ∀ byte ∈ left, isWordByte byte)
    (rightWord : ∀ byte ∈ right, isWordByte byte) (leftEnds : startsWord leftRest = false)
    (rightEnds : startsWord rightRest = false) (same : left ++ leftRest = right ++ rightRest) :
    left = right ∧ leftRest = rightRest := by
  have stops {tail : List UInt8} (ends : startsWord tail = false) :
      ∀ next ∈ tail.head?, isWordByte next = false := by
    cases tail with
    | nil => rintro next ⟨⟩
    | cons first others =>
      rintro next ⟨⟩
      exact ends
  obtain ⟨leftTaken, leftDropped⟩ := takeWhile_dropWhile_append leftWord (stops leftEnds)
  obtain ⟨rightTaken, rightDropped⟩ := takeWhile_dropWhile_append rightWord (stops rightEnds)
  rw [same] at leftTaken leftDropped
  exact ⟨leftTaken.symm.trans rightTaken, leftDropped.symm.trans rightDropped⟩

variable {mark : UInt8} (isMark : isHexMark mark)

include isMark

/-- After the mark of a hexadecimal literal only its digits are captured. -/
theorem hexadecimal_of_captured
    {captured after tail : List UInt8} (isSuffix : isSuffixByte suffix) (number : IsNumber captured)
    (split : captured ++ [suffix] ++ after = '0'.toUInt8 :: mark :: tail) :
    IsHexadecimal captured := by
  obtain ⟨notDecimal, notSuffix, notExponent, notPoint⟩ :=
    (by decide : ∀ byte, isHexMark byte →
      isDecimal byte = false ∧ isSuffixByte byte = false ∧
        isExponentMark byte = false ∧ byte ≠ '.'.toUInt8) mark isMark
  have second :
      ∀ digits rest : List UInt8, Digits digits →
        digits ++ rest = '0'.toUInt8 :: mark :: tail →
        rest.head? = some mark := by
    rintro digits rest ⟨filled, decimals⟩ same
    cases digits with
    | nil => exact absurd rfl filled
    | cons zero others =>
      cases others with
      | nil =>
        cases same
        rfl
      | cons digit more =>
        simp only [cons_append, cons.injEq] at same
        have decimal := decimals digit (by simp)
        rw [same.2.1, notDecimal] at decimal
        cases decimal
  rcases number with ⟨mantissa, power, rfl, isMantissa, isExponent⟩ | hexadecimal
  · exfalso
    rcases isMantissa with ⟨whole, fraction, rfl, digits, -⟩ | ⟨fraction, rfl, -⟩ | digits
    · have next :=
        second whole ('.'.toUInt8 :: fraction ++ power ++ [suffix] ++
          after) digits (by simpa using split)
      exact notPoint (Option.some.inj next).symm
    · exact absurd (cons.inj split).1 (by decide)
    · have next := second mantissa (power ++ [suffix] ++ after) digits (by simpa using split)
      rcases isExponent with rfl | ⟨exponentMark, sign, more, rfl, isE, -⟩
      · cases next
        cases isSuffix.symm.trans notSuffix
      · cases next
        cases isE.symm.trans notExponent
  · exact hexadecimal

variable {digits : List UInt8}

section

variable (digitsHex : ∀ byte ∈ digits, isHex byte)

include digitsHex

/-- A match at a hexadecimal literal is the whole literal. -/
theorem hexadecimal_match
    (lastWord : isWordByte last) (ends : startsWord rest = false) {found : Match}
    (fits : found ∈ numericLiteralSuffixRE.runAt false
        ('0'.toUInt8 :: mark :: digits ++ [last] ++ rest)) :
    found.captured = '0'.toUInt8 :: mark :: digits ∧
      found.text = '0'.toUInt8 :: mark :: digits ++ [last] ∧
      found.rest = rest ∧ isSuffixByte last ∧ digits ≠ [] := by
  obtain ⟨suffix, split, whole, isSuffix, -, restEnds, number⟩ := (mem_runAt_suffix ..).mp fits
  have shape :
      found.captured ++ [suffix] ++ found.rest =
        '0'.toUInt8 :: mark :: (digits ++ [last] ++ rest) := by
    rw [← whole, ← split]
    simp
  have hexadecimal := hexadecimal_of_captured isMark isSuffix number shape
  have textWord : ∀ byte ∈ found.text, isWordByte byte := by
    rw [whole]
    exact forall_mem_append.mpr ⟨hexadecimal.words,
      forall_mem_singleton.mpr (isWordByte_of_isSuffixByte isSuffix)⟩
  have literalWord : ∀ byte ∈ '0'.toUInt8 :: mark :: digits ++ [last], isWordByte byte :=
    forall_mem_append.mpr ⟨words_of_isHexMark isMark digitsHex, forall_mem_singleton.mpr lastWord⟩
  obtain ⟨sameText, sameRest⟩ := word_unique literalWord textWord ends restEnds split
  rw [whole] at sameText
  obtain ⟨sameCaptured, sameSuffix⟩ := append_inj' sameText rfl
  have sameLast : last = suffix := by simpa using sameSuffix
  refine ⟨sameCaptured.symm, by rw [whole, ← sameText], sameRest.symm,
      by rw [sameLast]; exact isSuffix, ?_⟩
  obtain ⟨otherMark, otherDigits, shape, -, filled, -⟩ := hexadecimal
  cases sameCaptured.trans shape
  exact filled

/-- The last byte of a hexadecimal literal is dropped as a suffix. -/
theorem replaceFrom_hexadecimal_cut
    (filled : digits ≠ []) (isSuffix : isSuffixByte last) (ends : startsWord rest = false) :
    stripFrom false ('0'.toUInt8 :: mark :: digits ++ [last] ++ rest) =
      '0'.toUInt8 :: mark :: digits ++
        stripFrom (endsWord false ('0'.toUInt8 :: mark :: digits ++ [last])) rest := by
  let whole : Match :=
    { text := '0'.toUInt8 :: mark :: digits ++ [last]
      captured := '0'.toUInt8 :: mark :: digits
      rest := rest }
  have fits :
      whole ∈ numericLiteralSuffixRE.runAt false
        ('0'.toUInt8 :: mark :: digits ++ [last] ++ rest) :=
    (mem_runAt_suffix ..).mpr
      ⟨last, rfl, rfl, isSuffix, Bool.noConfusion, ends,
        .inr ⟨mark, digits, rfl, isMark, filled, digitsHex⟩⟩
  refine Pattern.replaceFrom_unique fits ?_
  intro other otherMatched
  obtain ⟨captured, text, restEq, -⟩ :=
    hexadecimal_match isMark digitsHex (isWordByte_of_isSuffixByte isSuffix) ends otherMatched
  cases other
  simp only at captured text restEq
  simp only [whole, captured, text, restEq]

/-- A hexadecimal literal without a suffix letter at its end is copied. -/
theorem replaceFrom_hexadecimal_copy
    (lastHex : isHex last)
    (kept : isSuffixByte last = false ∨ digits = []) (ends : startsWord rest = false) :
    stripFrom false ('0'.toUInt8 :: mark :: digits ++ [last] ++ rest) =
      '0'.toUInt8 :: mark :: digits ++ [last] ++ stripFrom true rest := by
  have misses :
      numericLiteralSuffixRE.runAt false
        ('0'.toUInt8 :: mark :: digits ++ [last] ++ rest) = [] := by
    rw [eq_nil_iff_forall_not_mem]
    intro found fits
    obtain ⟨-, -, -, isSuffix, filled⟩ :=
      hexadecimal_match isMark digitsHex (isWordByte_of_isHex lastHex) ends fits
    rcases kept with notSuffix | empty
    · rw [isSuffix] at notSuffix
      cases notSuffix
    · exact filled empty
  have word : ∀ byte ∈ mark :: digits ++ [last], isWordByte byte :=
    forall_mem_append.mpr
      ⟨(forall_mem_cons.mp (words_of_isHexMark isMark digitsHex)).2,
        forall_mem_singleton.mpr (isWordByte_of_isHex lastHex)⟩
  have copied := replaceFrom_word word rest
  simp only [cons_append, append_assoc] at misses copied ⊢
  rw [stripFrom_copy misses, show isWordByte '0'.toUInt8 from by decide, copied]

end

omit isMark

/-! ## Literals -/

theorem map_caret (plain : ∀ byte ∈ text, byte ≠ '~') : text.map caret = text := by
  induction text with
  | nil => rfl
  | cons byte others ih =>
    obtain ⟨first, plainOthers⟩ := forall_mem_cons.mp plain
    rw [map_cons, caret, if_neg first, ih plainOthers]

theorem inert_quote : numericLiteralSuffixRE.Inert '"' := by
  simp only [Pattern.Inert, numericLiteralSuffixRE, mantissaRE, exponentRE,
    hexadecimalRE, Regex.many1, Regex.optional, Regex.Avoids]
  decide

/-- The bytes of a floating-point literal without its suffix. -/
def isFloatByte (byte : UInt8) : Bool :=
  isDecimal byte || byte == '.' || isExponentMark byte || isSign byte

theorem IsExponent.floatBytes (power : IsExponent text) : ∀ byte ∈ text, isFloatByte byte := by
  rcases power with rfl | ⟨mark, sign, digits, rfl, isMark, signed, decimals⟩
  · exact forall_mem_nil _
  · refine forall_mem_cons.mpr ⟨by simp [isFloatByte, isMark], ?_⟩
    refine forall_mem_append.mpr ⟨?_, fun byte inDigits => ?_⟩
    · rcases signed with rfl | ⟨signByte, rfl, isSignByte⟩
      · exact forall_mem_nil _
      · exact forall_mem_singleton.mpr (by simp [isFloatByte, isSignByte])
    · simp [isFloatByte, decimals.2 byte inDigits]

variable (literal : FloatLiteral)

theorem FloatLiteral.floatBytes :
    ∀ byte ∈ literal.mantissa ++ literal.exponent, isFloatByte byte := by
  refine forall_mem_append.mpr ⟨?_, literal.isExponent.floatBytes⟩
  intro byte inMantissa
  rcases literal.isMantissa.floatBytes byte inMantissa with decimal | point
  · simp [isFloatByte, decimal]
  · simp [isFloatByte, point]

theorem Digits.startsWord (isDigits : Digits digits) (rest : List UInt8) :
    startsWord (digits ++ rest) := by
  obtain ⟨first, others, rfl, digit⟩ := isDigits.head
  exact isWordByte_of_isDecimal digit

/-- A mantissa that starts no word starts with a point. -/
theorem IsMantissa.pointed
    {mantissa : List UInt8} (isMantissa : IsMantissa mantissa)
    (out : ¬ startsWord (mantissa ++ rest)) :
    ∃ fraction, mantissa = '.'.toUInt8 :: fraction ∧ Digits fraction := by
  rcases isMantissa with ⟨whole, fraction, rfl, digits, -⟩ | pointed | digits
  · rw [append_assoc] at out
    exact absurd (digits.startsWord _) out
  · exact pointed
  · exact absurd (digits.startsWord _) out

/-- A number ends with a digit or a point, never with an exponent mark. -/
theorem FloatLiteral.getLast_notMark :
    ∀ last ∈ (literal.mantissa ++ literal.exponent).getLast?, isExponentMark last = false := by
  have notMark : ∀ byte, isDecimal byte ∨ byte = '.' → isExponentMark byte = false := by
    decide
  intro last atEnd
  rcases literal.isExponent with empty | ⟨mark, sign, digits, shape, -, -, decimals⟩
  · rw [empty, append_nil] at atEnd
    exact notMark last (literal.isMantissa.floatBytes last (mem_of_getLast? atEnd))
  · have split :
        literal.mantissa ++ literal.exponent = literal.mantissa ++ mark :: sign ++ digits := by
      rw [shape]
      simp
    rw [split, getLast?_append_of_ne_nil _ decimals.1] at atEnd
    exact notMark last (.inl (decimals.2 last (mem_of_getLast? atEnd)))

theorem FloatSuffix.isSuffixByte (suffix : FloatSuffix) : isSuffixByte suffix.byte := by
  cases suffix <;> decide

theorem LongSuffix.isSuffixByte (suffix : LongSuffix) : isSuffixByte suffix.byte := by
  cases suffix <;> decide

theorem replaceFrom_hexadecimal (literal : HexLiteral) (ends : EndsNumber rest) :
    ∃ after,
      stripFrom false ((hexadecimal literal).text ++ rest) =
        (hexadecimal literal).normalized ++ stripFrom after rest := by
  obtain ⟨mark, isMark, digits, filled, digitsHex, suffix⟩ := literal
  cases suffix with
  | some suffix =>
    refine ⟨endsWord false ('0'.toUInt8 :: mark :: digits ++ [suffix.byte]), ?_⟩
    have cut :=
      replaceFrom_hexadecimal_cut isMark digitsHex filled suffix.isSuffixByte ends.startsWord
    simpa [text, longText, normalized, HexLiteral.kept, HexLiteral.cut] using cut
  | none =>
    rcases eq_nil_or_concat' digits with rfl | ⟨front, last, rfl⟩
    · exact absurd rfl filled
    · obtain ⟨frontHex, lastHex⟩ := forall_mem_append.mp digitsHex
      have kept :
          HexLiteral.kept
              ⟨mark, isMark, front ++ [last], filled, digitsHex, none⟩ =
            if isSuffixByte last ∧ front ≠ [] then front
            else front ++ [last] := by
        by_cases empty : front = [] <;>
          by_cases isSuffix : isSuffixByte last <;>
            simp [HexLiteral.kept, HexLiteral.cut, empty, isSuffix, Nat.one_le_iff_ne_zero]
      by_cases cut : isSuffixByte last ∧ front ≠ []
      · refine ⟨endsWord false ('0'.toUInt8 :: mark :: front ++ [last]), ?_⟩
        have replaced := replaceFrom_hexadecimal_cut isMark frontHex cut.2 cut.1 ends.startsWord
        rw [if_pos cut] at kept
        simpa [text, longText, normalized, kept] using replaced
      · refine ⟨true, ?_⟩
        rw [if_neg cut] at kept
        rw [not_and_or, Bool.not_eq_true, not_not] at cut
        have replaced :=
          replaceFrom_hexadecimal_copy isMark frontHex
            (lastHex last mem_cons_self) cut ends.startsWord
        simpa [text, longText, normalized, kept] using replaced

variable {suffix : Option UInt8}

/-- The suffix of a number is dropped. -/
theorem replaceFrom_number
    (isSuffix : ∀ byte ∈ suffix, isSuffixByte byte) (ends : EndsNumber rest) :
    ∃ after,
      stripFrom false (literal.mantissa ++ literal.exponent ++ suffix.toList ++ rest) =
        literal.mantissa ++ literal.exponent ++ stripFrom after rest := by
  have plain : ∀ byte ∈ literal.mantissa ++ literal.exponent, isSuffixByte byte = false :=
    fun byte inText =>
      (by decide : ∀ byte, isFloatByte byte →
        isSuffixByte byte = false) byte (literal.floatBytes byte inText)
  cases suffix with
  | none =>
    refine ⟨endsWord false (literal.mantissa ++ literal.exponent), ?_⟩
    rw [Option.toList_none, append_nil]
    exact
      replaceFrom_plain plain
        (fun last atEnd =>
          endsNumber_apart ends (literal.getLast_notMark last atEnd)) false
  | some suffix =>
    have dropped := isSuffix suffix rfl
    rw [Option.toList_some]
    by_cases word : startsWord (literal.mantissa ++ literal.exponent)
    · have number : IsNumber (literal.mantissa ++ literal.exponent) :=
        .inl ⟨_, _, rfl, literal.isMantissa, literal.isExponent⟩
      exact ⟨_, replaceFrom_suffixed number plain word dropped ends⟩
    · obtain ⟨decimals, shape, digits⟩ := literal.isMantissa.pointed word
      rw [shape] at plain ⊢
      have number : IsNumber (decimals ++ literal.exponent) :=
        .inl ⟨_, _, rfl, .inr (.inr digits), literal.isExponent⟩
      have replaced :=
        replaceFrom_suffixed number (forall_mem_cons.mp plain).2 (digits.startsWord _) dropped ends
      refine ⟨endsWord false (decimals ++ literal.exponent ++ [suffix]), ?_⟩
      simp only [cons_append] at replaced ⊢
      have out :
          false = startsWord
            ('.'.toUInt8 :: (decimals ++ literal.exponent ++ [suffix] ++ rest)) := by
        change false = isWordByte '.'.toUInt8
        decide
      rw [stripFrom_copy (runAt_of_same out),
        show isWordByte '.'.toUInt8 = false from by decide, replaced]

theorem replaceFrom_string (literal : StringLiteral) (inWord : Bool) (rest : List UInt8) :
    stripFrom inWord ((string literal).text.map caret ++ rest) =
      (string literal).normalized ++ stripFrom false rest := by
  have quoteQuiet : ∀ byte ∈ ['"'.toUInt8], isQuiet byte := all_eq_true.mp (by decide)
  have opened := replaceFrom_quiet quoteQuiet inWord (literal.body.map caret ++ '"'.toUInt8 :: rest)
  have closed := Pattern.replaceFrom_append inert_quote false (literal.body.map caret) rest
  have text :
      (string literal).text.map caret ++ rest =
        ['"'.toUInt8] ++ (literal.body.map caret ++ '"'.toUInt8 :: rest) := by
    simp [text, show caret '"'.toUInt8 = '"'.toUInt8 from by decide]
  rw [text, opened]
  change _ ++ numericLiteralSuffixRE.replaceFrom false _ = _
  rw [closed]
  simp [normalized, StringLiteral.kept]

theorem replaceFrom_char (literal : CharLiteral) (inWord : Bool) (rest : List UInt8) :
    stripFrom inWord ((char literal).text.map caret ++ rest) =
      (char literal).normalized ++ stripFrom false rest := by
  have quoteQuiet : ∀ byte ∈ ['\''.toUInt8], isQuiet byte := all_eq_true.mp (by decide)
  have fixed : caret '\''.toUInt8 = '\''.toUInt8 := by decide
  have text :
      (char literal).text.map caret ++ rest =
        ['\''.toUInt8] ++ ([caret literal.byte] ++ (['\''.toUInt8] ++ rest)) := by
    simp [text, fixed]
  have middle :
      stripFrom false ([caret literal.byte] ++ (['\''.toUInt8] ++ rest)) = [caret literal.byte] ++
          stripFrom (endsWord false [caret literal.byte]) (['\''.toUInt8] ++ rest) := by
    by_cases suffix : isSuffixByte (caret literal.byte)
    · apply replaceFrom_quiet
      intro byte inText
      rw [mem_singleton.mp inText]
      exact (by decide : ∀ byte, isSuffixByte byte → isQuiet byte) _ suffix
    · apply replaceFrom_plain
      · intro byte inText
        rw [mem_singleton.mp inText]
        exact Bool.eq_false_iff.mpr suffix
      · intro last _ next atHead
        cases atHead
        rintro (word | point | ⟨sign, -⟩)
        · exact absurd word (by decide)
        · exact absurd point (by decide)
        · exact absurd sign (by decide)
  rw [text, replaceFrom_quiet quoteQuiet]
  change _ ++ stripFrom false _ = _
  rw [middle, replaceFrom_quiet quoteQuiet]
  rfl

/-- A number, in contrast to a text in quotes. -/
def Literal.isNumber : Literal → Bool
  | .string _ => false
  | .char _ => false
  | _ => true

/-- The bytes of a number with its suffix. -/
def isNumberByte (byte : UInt8) : Bool :=
  isWordByte byte || isFloatByte byte

theorem isNumberByte_of_isWordByte : ∀ {byte : UInt8}, isWordByte byte → isNumberByte byte := by
  decide

theorem isNumberByte_of_isSuffixByte (isSuffix : ∀ byte ∈ suffix, isSuffixByte byte) :
    ∀ byte ∈ suffix.toList, isNumberByte byte := by
  intro byte inSuffix
  exact isNumberByte_of_isWordByte
    (isWordByte_of_isSuffixByte (isSuffix byte (Option.mem_toList.mp inSuffix)))

theorem isSuffixByte_longSuffix (suffix : Option LongSuffix) :
    ∀ byte ∈ suffix.map LongSuffix.byte, isSuffixByte byte :=
  Option.forall_mem_map.mpr fun inner _ => inner.isSuffixByte

theorem isSuffixByte_floatSuffix (suffix : Option FloatSuffix) :
    ∀ byte ∈ suffix.map FloatSuffix.byte, isSuffixByte byte :=
  Option.forall_mem_map.mpr fun inner _ => inner.isSuffixByte

theorem Literal.numberBytes {literal : Literal} (number : literal.isNumber) :
    ∀ byte ∈ literal.text, isNumberByte byte := by
  cases literal with
  | decimal inner =>
    refine forall_mem_append.mpr ⟨fun byte inDigits => ?_,
      isNumberByte_of_isSuffixByte (isSuffixByte_longSuffix inner.suffix)⟩
    exact isNumberByte_of_isWordByte (isWordByte_of_isDecimal (inner.wellFormed.2 byte inDigits))
  | hexadecimal inner =>
    refine forall_mem_append.mpr ⟨fun byte inLiteral => ?_,
      isNumberByte_of_isSuffixByte (isSuffixByte_longSuffix inner.suffix)⟩
    exact isNumberByte_of_isWordByte
      (words_of_isHexMark inner.isMark inner.hexadecimal byte inLiteral)
  | float inner =>
    refine forall_mem_append.mpr ⟨fun byte inNumber => ?_,
      isNumberByte_of_isSuffixByte (isSuffixByte_floatSuffix inner.suffix)⟩
    rw [isNumberByte, inner.floatBytes byte inNumber, Bool.or_true]
  | string | char => cases number

theorem map_caret_number (bytes : ∀ byte ∈ text, isNumberByte byte) : text.map caret = text := by
  apply map_caret
  rintro byte inText rfl
  exact absurd (bytes _ inText) (by decide)

/-- The replacement acts on a literal by itself. -/
theorem replaceFrom_literal (literal : Literal) (ends : EndsNumber rest) :
    ∃ after,
      stripFrom false (literal.text.map caret ++ rest) =
        literal.normalized ++ stripFrom after rest := by
  cases literal with
  | decimal inner =>
    rw [map_caret_number (numberBytes rfl)]
    let number : FloatLiteral :=
      ⟨inner.digits, .inr (.inr inner.wellFormed), [], .inl rfl, some .upperFloat, .inr (.inr rfl)⟩
    have replaced := replaceFrom_number number (isSuffixByte_longSuffix inner.suffix) ends
    simp only [number, append_nil] at replaced
    exact replaced
  | hexadecimal inner =>
    rw [map_caret_number (numberBytes rfl)]
    exact replaceFrom_hexadecimal inner ends
  | float inner =>
    rw [map_caret_number (numberBytes rfl)]
    exact replaceFrom_number inner (isSuffixByte_floatSuffix inner.suffix) ends
  | string inner => exact ⟨false, replaceFrom_string inner false rest⟩
  | char inner => exact ⟨false, replaceFrom_char inner false rest⟩

/-! ## Expressions -/

theorem Blanks.all
    {P : UInt8 → Prop} (holds : ∀ byte, Scanner.isBlank byte → P byte) (blanks : Blanks) :
    ∀ byte ∈ blanks.val, P byte :=
  fun byte inBlanks =>
    holds byte (all_eq_true.mp blanks.property byte inBlanks)

theorem isBlank_outside :
    ∀ {byte : UInt8}, Scanner.isBlank byte → isWordByte byte = false ∧ byte ≠ '.' := by
  decide

theorem Blanks.endsWord (blanks : Blanks) : endsWord false blanks.val = false := by
  obtain ⟨text, blank⟩ := blanks
  induction text with
  | nil => rfl
  | cons byte others ih =>
    rw [all_cons, Bool.and_eq_true] at blank
    change Go.endsWord (isWordByte byte) others = false
    rw [(isBlank_outside blank.1).1]
    exact ih blank.2

/-- The normalized byte of a unary operator. -/
def UnaryOperator.byte : UnaryOperator → UInt8
  | .plus => '+'
  | .minus => '-'
  | .not => '!'
  | .complement => '^'

/-- The bytes with which a literal starts. -/
def isLiteralStart (byte : UInt8) : Bool :=
  isDecimal byte || ['.'.toUInt8, '"'.toUInt8, '\''.toUInt8].contains byte

/-- The bytes with which the normalized text of a token may start. -/
def Token.startsWith : Token → UInt8 → Bool
  | .literal _, byte => isLiteralStart byte
  | .identifier _, byte => isLetter byte
  | .dot, byte => byte == '.'
  | .opening, byte => byte == '('
  | .closing, byte => byte == ')'
  | .unary sign, byte => byte == sign.byte
  | .binary sign, byte => sign.text.head? == some byte

/-- The first byte of a normalized token, which the replacement keeps. -/
theorem Token.head_normalized (token : Token) :
    ∃ first rest, token.normalized = first :: rest ∧
      token.startsWith first ∧
      (token.text.map caret).head? = some first := by
  cases token with
  | literal inner =>
    cases inner with
    | decimal inner =>
      obtain ⟨first, rest, shape, digit⟩ := inner.wellFormed.head
      refine ⟨first, rest, shape, by simp [startsWith, isLiteralStart, digit], ?_⟩
      rw [text, map_caret_number (numberBytes rfl)]
      simp [Literal.text, shape]
    | hexadecimal inner =>
      refine ⟨_, _, rfl, rfl, ?_⟩
      rw [text, map_caret_number (numberBytes rfl)]
      rfl
    | float inner =>
      obtain ⟨first, rest, shape, starts⟩ := inner.isMantissa.head
      refine
        ⟨first, rest ++ inner.exponent, by simp [normalized, Literal.normalized, shape], ?_, ?_⟩
      · rcases starts with digit | ⟨rfl, -⟩
        · simp [startsWith, isLiteralStart, digit]
        · rfl
      · rw [text, map_caret_number (numberBytes rfl)]
        simp [Literal.text, shape]
    | string | char => exact ⟨_, _, rfl, rfl, rfl⟩
  | identifier inner =>
    refine ⟨_, _, rfl, inner.isFirst, congrArg some ?_⟩
    exact (by decide : ∀ byte, isLetter byte → caret byte = byte) _ inner.isFirst
  | dot | opening | closing => exact ⟨_, _, rfl, rfl, rfl⟩
  | unary sign => cases sign <;> exact ⟨_, _, rfl, rfl, rfl⟩
  | binary sign => cases sign <;> exact ⟨_, _, rfl, rfl, rfl⟩

/-- The first byte of placed tokens is a blank or starts a token. -/
theorem head_normalizedText
    {placed : Blanks × Token} {rest : List (Blanks × Token)} {next : UInt8}
    (atHead : next ∈ (normalizedText (placed :: rest)).head?) :
    Scanner.isBlank next ∨ (placed.1.val = [] ∧ placed.2.startsWith next) := by
  obtain ⟨⟨blanks, blank⟩, token⟩ := placed
  obtain ⟨first, others, shape, starts, -⟩ := token.head_normalized
  cases blanks with
  | nil =>
    have same : first = next := by
      simpa [normalizedText, shape] using atHead
    exact .inr ⟨rfl, same ▸ starts⟩
  | cons byte others =>
    rw [all_cons, Bool.and_eq_true] at blank
    have same : byte = next := by simpa [normalizedText] using atHead
    exact .inl (same ▸ blank.1)

variable {tokens : List (Blanks × Token)} {position : Position}

/-- What holds of blanks and of the tokens that may stand at a position. -/
theorem head_of_placed
    {P : UInt8 → Prop} (blank : ∀ byte, Scanner.isBlank byte → P byte)
    (own : ∀ token after, position.next token = some after → ∀ byte, token.startsWith byte → P byte)
    (placed : Placed position tokens) : ∀ next ∈ (normalizedText tokens).head?, P next := by
  intro next atHead
  cases tokens with
  | nil => cases atHead
  | cons first rest =>
    obtain ⟨after, lawful, -⟩ := placed
    rcases head_normalizedText atHead with isBlank | ⟨-, starts⟩
    · exact blank next isBlank
    · exact own first.2 after lawful next starts

/-- What follows a literal or a closing parenthesis ends a number. -/
theorem endsNumber_normalizedText (placed : Placed .afterOperand tokens) :
    EndsNumber (normalizedText tokens) := by
  refine head_of_placed (by decide) ?_ placed
  intro token after lawful
  cases token with
  | binary operator => cases operator <;> decide
  | closing => decide
  | _ => cases lawful

/-- What follows the point of a qualified name. -/
theorem selector_normalizedText (placed : Placed .selector tokens) :
    ∀ next ∈ (normalizedText tokens).head?, isDecimal next = false ∧ next ≠ '.' := by
  refine head_of_placed (by decide) ?_ placed
  intro token after lawful
  cases token with
  | identifier inner =>
    exact (by decide : ∀ byte, isLetter byte → isDecimal byte = false ∧ byte ≠ '.')
  | _ => cases lawful

/-- The text of tokens starts as the normalized one does. -/
theorem head_tokensText (tokens : List (Blanks × Token)) :
    ((tokensText tokens).map caret).head? = (normalizedText tokens).head? := by
  cases tokens with
  | nil => rfl
  | cons placed rest =>
    obtain ⟨blanks, token⟩ := placed
    obtain ⟨first, others, shape, -, head⟩ := token.head_normalized
    rw [tokensText, normalizedText, flatMap_cons, flatMap_cons,
      map_append, map_append, map_caret (blanks.all (by decide))]
    simp only [append_assoc, head?_append, head, shape, cons_append, head?_cons, Option.some_or]

theorem Identifier.words (word : Identifier) : ∀ byte ∈ word.text, isWordByte byte :=
  forall_mem_cons.mpr
    ⟨(by decide : ∀ byte, isLetter byte → isWordByte byte) _
        word.isFirst,
      fun byte among =>
        (by decide : ∀ byte, Scanner.isIdentifierByte byte →
          isWordByte byte) byte (word.continues byte among)⟩

theorem replaceFrom_identifier (word : Identifier) (inWord : Bool) (rest : List UInt8) :
    stripFrom inWord (word.text.map caret ++ rest) = word.text ++ stripFrom true rest := by
  obtain ⟨firstWord, othersWord⟩ := forall_mem_cons.mp word.words
  have firstQuiet : ∀ byte ∈ [word.first], isQuiet byte :=
    forall_mem_singleton.mpr ((by decide : ∀ byte, isLetter byte → isQuiet byte) _ word.isFirst)
  rw [map_caret_number fun byte inText => isNumberByte_of_isWordByte (word.words byte inText)]
  change stripFrom inWord ([word.first] ++ (word.others ++ rest)) = _
  rw [replaceFrom_quiet firstQuiet]
  change _ ++ stripFrom (isWordByte word.first) _ = _
  rw [firstWord, replaceFrom_word othersWord]
  rfl

/-- The position after a token, wherever it may stand. -/
def Token.after : Token → Position
  | .literal _ => .afterOperand
  | .identifier _ => .afterName
  | .dot => .selector
  | .opening => .operand
  | .closing => .afterOperand
  | .unary _ => .operand
  | .binary _ => .operand

theorem Position.next_eq
    {after : Position} {token : Token} (lawful : position.next token = some after) :
    after = token.after := by
  cases position <;> cases token <;> cases lawful <;> rfl

/-- The replacement acts on each token by itself. -/
theorem replaceFrom_tokensText
    (placed : Placed position tokens) (inWord : Bool) (out : position = .operand → inWord = false) :
    stripFrom inWord ((tokensText tokens).map caret) = normalizedText tokens := by
  induction tokens generalizing position inWord with
  | nil => rfl
  | cons first rest ih =>
    obtain ⟨after, lawful, placedRest⟩ := placed
    obtain ⟨blanks, token⟩ := first
    have split :
        (tokensText ((blanks, token) :: rest)).map caret =
          blanks.val ++ (token.text.map caret ++ (tokensText rest).map caret) := by
      simp [tokensText, map_caret (blanks.all (by decide))]
    have normalizedSplit :
        normalizedText ((blanks, token) :: rest) =
          blanks.val ++ (token.normalized ++ normalizedText rest) := by
      simp [normalizedText]
    rw [split, normalizedSplit, replaceFrom_quiet (blanks.all (by decide))]
    congr 1
    have sign :
        ∀ normal : List UInt8,
          token.text.map caret = normal →
          normal.all isQuiet →
          endsWord true normal = false ∧ endsWord false normal = false →
          stripFrom (endsWord inWord blanks.val)
              (token.text.map caret ++ (tokensText rest).map caret) =
            normal ++ normalizedText rest := by
      intro normal same quiet ended
      have out : endsWord (endsWord inWord blanks.val) normal = false := by
        cases endsWord inWord blanks.val with
        | true => exact ended.1
        | false => exact ended.2
      rw [same, replaceFrom_quiet (all_eq_true.mp quiet), out, ih placedRest false fun _ => rfl]
    obtain rfl := Position.next_eq lawful
    cases token with
    | literal inner =>
      cases position with
      | operand =>
        rw [out rfl, blanks.endsWord]
        have ends : EndsNumber ((tokensText rest).map caret) := by
          rw [EndsNumber, head_tokensText]
          exact endsNumber_normalizedText placedRest
        obtain ⟨ended, replaced⟩ := replaceFrom_literal inner ends
        change stripFrom false (inner.text.map caret ++ _) = inner.normalized ++ _
        rw [replaced, ih placedRest ended (by rintro ⟨⟩)]
      | _ => cases lawful
    | identifier inner =>
      change stripFrom _ (inner.text.map caret ++ _) = inner.text ++ _
      rw [replaceFrom_identifier, ih placedRest true (by rintro ⟨⟩)]
    | dot =>
      have noDigit : ∀ next ∈ ((tokensText rest).map caret).head?, isDecimal next = false := by
        rw [head_tokensText]
        exact fun next atHead =>
          (selector_normalizedText placedRest next atHead).1
      change stripFrom _
        ('.'.toUInt8 :: (tokensText rest).map caret) = '.'.toUInt8 :: normalizedText rest
      rw [stripFrom_copy (runAt_of_point _ noDigit), ih placedRest _ (by rintro ⟨⟩)]
    | opening | closing => exact sign _ rfl (by decide) (by decide)
    | unary operator | binary operator =>
      cases operator <;> exact sign _ rfl (by decide) (by decide)

/-! ## The text without the blanks around it -/

/-- Tokens without the blanks before the first one. -/
def unindent : List (Blanks × Token) → List (Blanks × Token)
  | [] => []
  | first :: rest => (⟨[], rfl⟩, first.2) :: rest

/-- A text whose first and last bytes are visible. -/
def Edged (text : List UInt8) : Prop :=
  text ≠ [] ∧ (∀ byte ∈ text.head?, isVisible byte) ∧ ∀ byte ∈ text.getLast?, isVisible byte

theorem edged_of_all (filled : text ≠ []) (visible : ∀ byte ∈ text, isVisible byte) : Edged text :=
  ⟨filled,
    fun byte atHead => visible byte (mem_of_mem_head? atHead),
    fun byte atEnd => visible byte (mem_of_getLast? atEnd)⟩

theorem edged_quoted {quote : UInt8} (visible : isVisible quote) (body : List UInt8) :
    Edged (quote :: body ++ [quote]) := by
  refine ⟨by simp, ?_, ?_⟩
  · rintro byte ⟨⟩
    exact visible
  · intro byte atEnd
    rw [getLast?_append_of_ne_nil _ (by simp)] at atEnd
    cases atEnd
    exact visible

theorem edged_number (filled : text ≠ []) (bytes : ∀ byte ∈ text, isNumberByte byte) : Edged text :=
  edged_of_all filled fun byte inText =>
    (by decide : ∀ byte, isNumberByte byte → isVisible byte) byte (bytes byte inText)

theorem Literal.edged (literal : Literal) : Edged literal.text := by
  cases literal with
  | decimal inner => exact edged_number (by simp [text, inner.wellFormed.1]) (numberBytes rfl)
  | hexadecimal inner => exact edged_number (by simp [text]) (numberBytes rfl)
  | float inner =>
    obtain ⟨first, rest, shape, -⟩ := inner.isMantissa.head
    exact edged_number (by simp [text, shape]) (numberBytes rfl)
  | string inner => exact edged_quoted (by decide) inner.body
  | char inner => exact edged_quoted (by decide) [inner.byte]

theorem Token.edged (token : Token) : Edged token.text := by
  cases token with
  | literal inner => exact inner.edged
  | identifier inner =>
    exact edged_number (cons_ne_nil _ _) fun byte inText =>
      isNumberByte_of_isWordByte (inner.words byte inText)
  | dot | opening | closing => exact edged_of_all (by decide) (all_eq_true.mp (by decide))
  | unary operator | binary operator =>
    cases operator <;>
      exact edged_of_all (by decide) (all_eq_true.mp (by decide))

theorem getLast_tokensText (first : Blanks × Token) (rest : List (Blanks × Token)) :
    ∀ byte ∈ (tokensText (first :: rest)).getLast?, isVisible byte := by
  induction rest generalizing first with
  | nil =>
    intro byte atEnd
    have edged := first.2.edged
    have shape : tokensText [first] = first.1.val ++ first.2.text := by
      simp [tokensText]
    rw [shape, getLast?_append_of_ne_nil _ edged.1] at atEnd
    exact edged.2.2 byte atEnd
  | cons second others ih =>
    intro byte atEnd
    have filled : tokensText (second :: others) ≠ [] := by
      have edged := second.2.edged
      simp [tokensText, edged.1]
    have shape :
        tokensText (first :: second :: others) =
          first.1.val ++ first.2.text ++ tokensText (second :: others) := by
      simp [tokensText]
    rw [shape, getLast?_append_of_ne_nil _ filled] at atEnd
    exact ih second byte atEnd

theorem Blanks.spaces (blanks : Blanks) : blanks.val.all isSpaceByte := by
  rw [all_eq_true]
  exact blanks.all (by decide)

theorem placed_unindent (placed : Placed position tokens) : Placed position (unindent tokens) := by
  cases tokens with
  | nil | cons => exact placed

theorem Expression.tokens_ne_nil (expr : Expression) : expr.tokens ≠ [] := by
  cases expr <;> simp [tokens]

/-- `Normalize` on the text of an expression. -/
theorem normalize_text (expr : Expression) (tail : Blanks) :
    normalize (expr.text tail) = normalizedText (unindent expr.tokens) := by
  have placed := placed_unindent expr.placed
  have nonempty := expr.tokens_ne_nil
  rw [Expression.text]
  cases shape : expr.tokens with
  | nil => exact absurd shape nonempty
  | cons first rest =>
    rw [shape] at placed
    have split :
        tokensText (first :: rest) ++ tail.val =
          first.1.val ++ tokensText (unindent (first :: rest)) ++ tail.val := by
      simp [tokensText, unindent]
    have edged := first.2.edged
    have trimmed :
        trimSpace (tokensText (first :: rest) ++ tail.val) =
          tokensText (unindent (first :: rest)) := by
      rw [split]
      apply trimSpace_eq first.1.spaces tail.spaces
      · intro byte atHead
        apply edged.2.1 byte
        cases text : first.2.text with
        | nil => exact absurd text edged.1
        | cons head others => simpa [tokensText, unindent, text] using atHead
      · exact getLast_tokensText _ rest
      · simp [tokensText, unindent, edged.1]
    have visible : tokensText (unindent (first :: rest)) ≠ [] := by
      simp [tokensText, unindent, edged.1]
    rw [normalize]
    simp only [trimmed, if_neg visible]
    exact replaceFrom_tokensText placed false fun _ => rfl

end Libbinder.Aidl
