import Libbinder.Aidl.Expr
import Mathlib.Data.List.Chain

/-!
# Matches of the suffix pattern

What the matches of `numericLiteralSuffixRE` look like wherever the pattern is
applied: a match starts at the boundary of a word with a digit or a point, it
ends with a suffix letter at the end of a word, and between the two it crosses
a byte outside words only at a radix point or after an exponent mark.
-/

namespace Libbinder.Aidl

open Go List

/-! ## Byte classes -/

theorem isWordByte_of_isDecimal : ∀ {byte : UInt8}, isDecimal byte → isWordByte byte := by
  decide

theorem isWordByte_of_isHex : ∀ {byte : UInt8}, isHex byte → isWordByte byte := by
  decide

theorem isWordByte_of_isSuffixByte : ∀ {byte : UInt8}, isSuffixByte byte → isWordByte byte := by
  decide

theorem isWordByte_of_isExponentMark : ∀ {byte : UInt8}, isExponentMark byte → isWordByte byte := by
  decide

theorem isWordByte_of_isHexMark : ∀ {byte : UInt8}, isHexMark byte → isWordByte byte := by
  decide

/-! ## The texts of the group -/

/-- A run of decimal digits. -/
def Digits (text : List UInt8) : Prop :=
  text ≠ [] ∧ ∀ byte ∈ text, isDecimal byte

/-- The texts of `\d+\.\d*|\.\d+|\d+`. -/
def IsMantissa (text : List UInt8) : Prop :=
  (∃ whole fraction, text = whole ++ '.'.toUInt8 :: fraction ∧
    Digits whole ∧ ∀ byte ∈ fraction, isDecimal byte) ∨
  (∃ fraction, text = '.'.toUInt8 :: fraction ∧ Digits fraction) ∨
  Digits text

/-- The texts of `(?:[eE][+\-]?\d+)?`. -/
def IsExponent (text : List UInt8) : Prop :=
  text = [] ∨
  ∃ mark sign digits, text = mark :: (sign ++ digits) ∧
    isExponentMark mark ∧
    (sign = [] ∨ ∃ byte, sign = [byte] ∧ isSign byte) ∧
    Digits digits

/-- The texts of `0[xX][0-9a-fA-F]+`. -/
def IsHexadecimal (text : List UInt8) : Prop :=
  ∃ mark digits, text = '0'.toUInt8 :: mark :: digits ∧
    isHexMark mark ∧ digits ≠ [] ∧
    ∀ byte ∈ digits, isHex byte

/-- The texts of the capture group. -/
def IsNumber (text : List UInt8) : Prop :=
  (∃ mantissa exponent, text = mantissa ++ exponent ∧ IsMantissa mantissa ∧ IsExponent exponent) ∨
  IsHexadecimal text

variable (inWord : Bool) (text rest : List UInt8)

theorem accepts_mantissaRE : mantissaRE.Accepts inWord text rest ↔ IsMantissa text := by
  simp only [mantissaRE, Regex.Accepts, Regex.accepts_many1, IsMantissa]
  constructor
  · rintro (⟨whole, _, rfl, digits, _, fraction, rfl, ⟨byte, rfl, point⟩,
      decimals⟩ | ⟨_, fraction, rfl, ⟨byte, rfl, point⟩, digits⟩ | digits)
    · obtain rfl := beq_iff_eq.mp point
      exact .inl ⟨whole, fraction, rfl, digits, decimals⟩
    · obtain rfl := beq_iff_eq.mp point
      exact .inr (.inl ⟨fraction, rfl, digits⟩)
    · exact .inr (.inr digits)
  · rintro (⟨whole, fraction, rfl, digits, decimals⟩ | ⟨fraction, rfl, digits⟩ | digits)
    · exact .inl ⟨whole, _, rfl, digits, ['.'.toUInt8], fraction, rfl,
            ⟨_, rfl, by simp [exactly]⟩, decimals⟩
    · exact .inr (.inl ⟨['.'.toUInt8], fraction, rfl, ⟨_, rfl, by simp [exactly]⟩, digits⟩)
    · exact .inr (.inr digits)

theorem accepts_exponentRE : exponentRE.Accepts inWord text rest ↔ IsExponent text := by
  simp only [exponentRE, Regex.optional, Regex.Accepts, Regex.accepts_many1, IsExponent]
  constructor
  · rintro (⟨_, _, rfl, ⟨mark, rfl, isMark⟩, sign, digits, rfl, signed, decimals⟩ | empty)
    · exact .inr ⟨mark, sign, digits, rfl, isMark, signed.symm, decimals⟩
    · exact .inl empty
  · rintro (empty | ⟨mark, sign, digits, rfl, isMark, signed, decimals⟩)
    · exact .inr empty
    · exact .inl ⟨[mark], sign ++ digits, rfl, ⟨mark, rfl, isMark⟩, sign, digits,
            rfl, signed.symm, decimals⟩

theorem accepts_hexadecimalRE : hexadecimalRE.Accepts inWord text rest ↔ IsHexadecimal text := by
  simp only [hexadecimalRE, Regex.Accepts, Regex.accepts_many1, IsHexadecimal]
  constructor
  · rintro ⟨_, _, rfl, ⟨zero, rfl, isZero⟩, _, digits, rfl, ⟨mark, rfl, isMark⟩, decimals⟩
    obtain rfl := beq_iff_eq.mp isZero
    exact ⟨mark, digits, rfl, isMark, decimals⟩
  · rintro ⟨mark, digits, rfl, isMark, decimals⟩
    exact ⟨['0'.toUInt8], mark :: digits, rfl, ⟨_, rfl, by simp [exactly]⟩,
        [mark], digits, rfl, ⟨mark, rfl, isMark⟩, decimals⟩

/-- What a match of the suffix pattern is. -/
theorem mem_runAt_suffix (source : List UInt8) (found : Match) :
    found ∈ numericLiteralSuffixRE.runAt inWord source ↔
      ∃ suffix,
        source = found.text ++ found.rest ∧
        found.text = found.captured ++ [suffix] ∧
        isSuffixByte suffix ∧
        inWord ≠ startsWord source ∧
        startsWord found.rest = false ∧
        IsNumber found.captured := by
  rw [Pattern.mem_runAt]
  simp only [numericLiteralSuffixRE, Regex.Accepts, accepts_mantissaRE,
    accepts_exponentRE, accepts_hexadecimalRE]
  constructor
  · rintro ⟨lead, trail, split, whole, ⟨rfl, boundary⟩, number,
      left, right, rfl, ⟨suffix, rfl, isSuffix⟩, rfl, ends⟩
    rw [nil_append, append_nil] at whole
    refine ⟨suffix, split, whole, isSuffix, ?_, ?_, number⟩
    · rw [split, whole]
      simpa using boundary
    · change isWordByte suffix ≠ startsWord found.rest at ends
      rw [isWordByte_of_isSuffixByte isSuffix] at ends
      exact Bool.eq_false_iff.mpr fun starts => ends starts.symm
  · rintro ⟨suffix, split, whole, isSuffix, boundary, ends, number⟩
    refine ⟨[], [suffix], split, by rw [whole]; rfl, ⟨rfl, ?_⟩, number,
        [suffix], [], rfl, ⟨suffix, rfl, isSuffix⟩, rfl, ?_⟩
    · rw [split, whole] at boundary
      simpa using boundary
    · show isWordByte suffix ≠ startsWord found.rest
      rw [isWordByte_of_isSuffixByte isSuffix, ends]
      exact Bool.noConfusion

/-! ## Where a match starts -/

variable {text : List UInt8}

/-- A digit, or a point and a digit, at which a number starts. -/
def StartsNumber (text : List UInt8) : Prop :=
  ∃ first rest, text = first :: rest ∧
    (isDecimal first ∨
      (first = '.'.toUInt8 ∧ ∃ digit others, rest = digit :: others ∧ isDecimal digit))

theorem StartsNumber.append (starts : StartsNumber text) (rest : List UInt8) :
    StartsNumber (text ++ rest) := by
  obtain ⟨first, others, rfl, digit | ⟨point, digit, more, rfl, isDigit⟩⟩ := starts
  · exact ⟨first, _, rfl, .inl digit⟩
  · exact ⟨first, _, rfl, .inr ⟨point, digit, _, rfl, isDigit⟩⟩

theorem Digits.head (digits : Digits text) :
    ∃ first rest, text = first :: rest ∧ isDecimal first := by
  obtain ⟨filled, decimals⟩ := digits
  cases text with
  | nil => exact absurd rfl filled
  | cons first rest => exact ⟨first, rest, rfl, decimals first (mem_cons_self ..)⟩

theorem Digits.startsNumber (digits : Digits text) : StartsNumber text := by
  obtain ⟨first, rest, shape, digit⟩ := digits.head
  exact ⟨first, rest, shape, .inl digit⟩

theorem IsMantissa.head (mantissa : IsMantissa text) : StartsNumber text := by
  rcases mantissa with ⟨whole, decimals, rfl, digits, -⟩ | ⟨decimals, rfl, digits⟩ | digits
  · exact digits.startsNumber.append _
  · obtain ⟨digit, others, rfl, isDigit⟩ := digits.head
    exact ⟨_, _, rfl, .inr ⟨rfl, digit, others, rfl, isDigit⟩⟩
  · exact digits.startsNumber

/-- A number starts with a digit, or with a point and a digit. -/
theorem IsNumber.head (number : IsNumber text) : StartsNumber text := by
  rcases number with ⟨mantissa, power, rfl, isMantissa, -⟩ | ⟨mark, digits, rfl, -⟩
  · exact isMantissa.head.append power
  · exact ⟨_, _, rfl, .inl (by decide)⟩

variable {source : List UInt8}

/-- No match starts inside a word or between two bytes outside words. -/
theorem runAt_of_same {inWord : Bool} (same : inWord = startsWord source) :
    numericLiteralSuffixRE.runAt inWord source = [] := by
  rw [eq_nil_iff_forall_not_mem]
  intro found fits
  obtain ⟨suffix, -, -, -, boundary, -⟩ := (mem_runAt_suffix ..).mp fits
  exact boundary same

theorem runAt_of_not_startsNumber (absent : ¬ StartsNumber source) :
    numericLiteralSuffixRE.runAt inWord source = [] := by
  rw [eq_nil_iff_forall_not_mem]
  intro found fits
  obtain ⟨suffix, split, whole, -, -, -, number⟩ := (mem_runAt_suffix ..).mp fits
  rw [split, whole, append_assoc] at absent
  exact absent (number.head.append _)

/-- No match starts with a byte that is neither a digit nor a point. -/
theorem runAt_of_other
    {byte : UInt8} (rest : List UInt8) (notDigit : isDecimal byte = false)
    (notPoint : byte ≠ '.'.toUInt8) : numericLiteralSuffixRE.runAt inWord (byte :: rest) = [] := by
  apply runAt_of_not_startsNumber
  rintro ⟨first, others, ⟨⟩, digit | ⟨point, -⟩⟩
  · cases notDigit.symm.trans digit
  · exact notPoint point

/-- No match starts with a point that no digit follows. -/
theorem runAt_of_point {rest : List UInt8} (noDigit : ∀ byte ∈ rest.head?, isDecimal byte = false) :
    numericLiteralSuffixRE.runAt inWord ('.'.toUInt8 :: rest) = [] := by
  apply runAt_of_not_startsNumber
  rintro ⟨first, others, ⟨⟩, digit | ⟨-, digit, tail, rfl, isDigit⟩⟩
  · exact absurd digit (by decide)
  · cases isDigit.symm.trans (noDigit digit rfl)

/-! ## How far a match reaches -/

theorem linked_of_all (members : ∀ byte ∈ text, isWordByte byte ∨ byte = '.'.toUInt8) :
    text.IsChain Linked := by
  induction text with
  | nil => exact .nil
  | cons first rest ih =>
    obtain ⟨-, others⟩ := forall_mem_cons.mp members
    have linked := ih others
    cases rest with
    | nil => exact .singleton _
    | cons second more =>
      have next := others second (mem_cons_self ..)
      exact isChain_cons_cons.mpr ⟨next.imp_right .inl, linked⟩

/-- A mantissa has digits and points. -/
theorem IsMantissa.floatBytes (mantissa : IsMantissa text) :
    ∀ byte ∈ text, isDecimal byte ∨ byte = '.'.toUInt8 := by
  rcases mantissa with ⟨whole, fraction, rfl, digits, decimals⟩ | ⟨fraction, rfl, digits⟩ | digits
  · refine forall_mem_append.mpr ⟨fun byte inWhole => .inl (digits.2 byte inWhole), ?_⟩
    exact forall_mem_cons.mpr ⟨.inr rfl, fun byte inFraction => .inl (decimals byte inFraction)⟩
  · exact forall_mem_cons.mpr ⟨.inr rfl, fun byte inFraction => .inl (digits.2 byte inFraction)⟩
  · exact fun byte inText => .inl (digits.2 byte inText)

theorem IsMantissa.words (mantissa : IsMantissa text) :
    ∀ byte ∈ text, isWordByte byte ∨ byte = '.'.toUInt8 :=
  fun byte inText =>
    (mantissa.floatBytes byte inText).imp_left isWordByte_of_isDecimal

/-- The mark of a hexadecimal number and its digits belong to one word. -/
theorem words_of_isHexMark
    {mark : UInt8} (isMark : isHexMark mark) {digits : List UInt8}
    (digitsHex : ∀ byte ∈ digits, isHex byte) :
    ∀ byte ∈ '0'.toUInt8 :: mark :: digits, isWordByte byte := by
  refine forall_mem_cons.mpr ⟨by decide, ?_⟩
  exact forall_mem_cons.mpr ⟨isWordByte_of_isHexMark isMark,
      fun byte inDigits => isWordByte_of_isHex (digitsHex byte inDigits)⟩

theorem IsHexadecimal.words (hex : IsHexadecimal text) : ∀ byte ∈ text, isWordByte byte := by
  obtain ⟨mark, digits, rfl, isMark, -, digitsHex⟩ := hex
  exact words_of_isHexMark isMark digitsHex

/-- A match crosses a sign only after an exponent mark. -/
theorem IsNumber.linked (number : IsNumber text) {suffix : UInt8} (isSuffix : isSuffixByte suffix) :
    (text ++ [suffix]).IsChain Linked := by
  have joined :
      ∀ text : List UInt8,
        (∀ byte ∈ text, isWordByte byte ∨ byte = '.'.toUInt8) →
        (text ++ [suffix]).IsChain Linked := by
    intro text words
    apply linked_of_all
    refine forall_mem_append.mpr ⟨words, ?_⟩
    exact forall_mem_singleton.mpr (.inl (isWordByte_of_isSuffixByte isSuffix))
  rcases number with ⟨mantissa, power, rfl, isMantissa, isExponent⟩ | hexadecimal
  · rcases isExponent with rfl | ⟨mark, sign, digits, rfl, isMark, signed, decimals⟩
    · rw [append_nil]
      exact joined mantissa isMantissa.words
    · have markWord := isWordByte_of_isExponentMark isMark
      have digitsLinked : ∀ before : UInt8, (before :: (digits ++ [suffix])).IsChain Linked := by
        intro before
        have tail := joined digits fun byte inDigits =>
          .inl (isWordByte_of_isDecimal (decimals.2 byte inDigits))
        obtain ⟨digit, others, rfl, isDigit⟩ := decimals.head
        exact isChain_cons_cons.mpr ⟨.inl (isWordByte_of_isDecimal isDigit), tail⟩
      have exponentLinked : (mark :: (sign ++ digits) ++ [suffix]).IsChain Linked := by
        rcases signed with rfl | ⟨byte, rfl, isSignByte⟩
        · exact digitsLinked mark
        · exact isChain_cons_cons.mpr ⟨.inr (.inr ⟨isSignByte, isMark⟩), digitsLinked byte⟩
      have mantissaLinked := linked_of_all isMantissa.words
      rw [append_assoc]
      refine isChain_append.mpr ⟨mantissaLinked, exponentLinked, ?_⟩
      intro last atEnd first atStart
      cases atStart
      exact .inl markWord
  · exact joined text fun byte inText =>
      .inl (hexadecimal.words byte inText)

/-- A match does not cross two bytes that are not linked. -/
theorem text_within
    {inWord : Bool} {before rest : List UInt8} {found : Match}
    (fits : found ∈ numericLiteralSuffixRE.runAt inWord (before ++ rest)) (filled : before ≠ [])
    (apart : ∀ last ∈ before.getLast?, ∀ next ∈ rest.head?, ¬ Linked last next) :
    ∃ after, before = found.text ++ after ∧ found.rest = after ++ rest := by
  obtain ⟨suffix, split, whole, isSuffix, -, -, number⟩ := (mem_runAt_suffix ..).mp fits
  have linked := number.linked isSuffix
  rw [← whole] at linked
  rcases append_eq_append_iff.mp split with ⟨beyond, textEq, restEq⟩ | ⟨after, beforeEq, restEq⟩
  · cases beyond with
    | nil => exact ⟨[], by rw [textEq]; simp, by rw [restEq]; simp⟩
    | cons next others =>
      rw [textEq] at linked
      have pairs := (isChain_append.mp linked).2.2
      have atEnd := List.getLast?_eq_some_getLast filled
      have link := pairs _ atEnd next rfl
      have crossing := apart _ atEnd next (by rw [restEq]; rfl)
      exact absurd link crossing
  · exact ⟨after, beforeEq, restEq⟩

end Libbinder.Aidl
