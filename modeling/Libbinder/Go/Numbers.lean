import Libbinder.Go.Constant

/-!
# Scanning numbers

How the scanner reads a number that another text follows, and the value of its
digits.  A decimal literal with a leading zero is an octal one in Go: it is
refused when a digit is too large, and its value is the decimal one only when
at most its last digit counts.
-/

namespace Libbinder.Go

open List

open Scanner

/-- A text that does not go on with a number. -/
def EndsNumber (rest : List UInt8) : Prop :=
  ∀ next ∈ rest.head?, isWordByte next = false ∧ next ≠ '.'

variable {rest : List UInt8}

theorem EndsNumber.startsWord (ends : EndsNumber rest) : startsWord rest = false := by
  cases rest with
  | nil => rfl
  | cons next others => exact (ends next rfl).1

variable {byte : UInt8}

@[simp]
theorem nextIs_cons (byte other : UInt8) (rest : List UInt8) :
    nextIs byte (other :: rest) = (other == byte) :=
  rfl

theorem nextIs_eq_false (apart : ∀ next ∈ rest.head?, next ≠ byte) : nextIs byte rest = false := by
  rw [nextIs, beq_eq_false_iff_ne]
  exact fun atHead => apart byte atHead rfl

theorem EndsNumber.notPoint (ends : EndsNumber rest) : nextIs '.' rest = false :=
  nextIs_eq_false fun next atHead => (ends next atHead).2

variable {numberPrefix : NumberPrefix}

theorem scanFraction_none {whole : List UInt8} (notPoint : nextIs '.' rest = false) :
    scanFraction numberPrefix (whole, rest) = ⟨numberPrefix, whole, none, rest⟩ := by
  simp only [scanFraction, notPoint, Bool.false_eq_true, if_false]

/-! ## Runs of digits -/

variable {digits : List UInt8}

theorem takeWhile_dropWhile_append
    {mem : UInt8 → Bool} (members : ∀ byte ∈ digits, mem byte)
    (ends : ∀ next ∈ rest.head?, mem next = false) :
    (digits ++ rest).takeWhile mem = digits ∧ (digits ++ rest).dropWhile mem = rest := by
  rw [takeWhile_append_of_pos members, dropWhile_append_of_pos members]
  cases rest with
  | nil => simp
  | cons next others =>
    have stops : ¬ mem next := by
      rw [ends next rfl]
      exact Bool.false_ne_true
    rw [takeWhile_cons_of_neg stops, dropWhile_cons_of_neg stops, append_nil]
    exact ⟨rfl, rfl⟩

variable {base : Nat}

theorem scanDigits_append
    (members : ∀ byte ∈ digits, isDigitOf base byte)
    (ends : ∀ next ∈ rest.head?, isDigitOf base next = false) :
    scanDigits base (digits ++ rest) = (digits, rest) := by
  obtain ⟨taken, gone⟩ := takeWhile_dropWhile_append members ends
  rw [scanDigits, taken, gone]

theorem consumed_append (text rest : List UInt8) : consumed (text ++ rest) rest = text := by
  rw [consumed, length_append, Nat.add_sub_cancel, take_left]

theorem isDigitOf_of_isDecimal (decimal : isDecimal byte) : isDigitOf base byte := by
  rw [isDigitOf]
  split_ifs
  · rw [decimal, Bool.true_or]
  · rw [isHex, decimal]
    rfl

/-- Nothing that ends a number goes on with its digits. -/
theorem isDigitOf_of_outside (out : isWordByte byte = false) : isDigitOf base byte = false := by
  have apart :=
    (by decide : ∀ byte, isWordByte byte = false →
      isDecimal byte = false ∧ isHex byte = false ∧ (byte == '_') = false) byte out
  rw [isDigitOf, apart.1, apart.2.1, apart.2.2, ite_self, Bool.or_false]

/-- A mantissa and an exponent without separators make a number. -/
theorem scanNumber_eq
    {source : List UInt8} {mantissa : Mantissa} {hasExponent : Bool}
    (scanned : scanMantissa source = mantissa)
    (power : scanExponent mantissa.numberPrefix mantissa.rest = some (hasExponent, rest))
    (ends : EndsNumber rest) (noSeparator : (consumed source rest).contains '_' = false)
    (digits : mantissa.numberPrefix = .leadingZero ∨
        hasDigit mantissa.whole ∨
        hasDigit (mantissa.fraction.getD []))
    (radix : mantissa.numberPrefix = .decimal ∨
        mantissa.numberPrefix = .leadingZero ∨
        (mantissa.numberPrefix = .hexadecimal ∧ mantissa.fraction = none)) :
    scanNumber source =
      if mantissa.fraction.isSome ∨ hasExponent then
        some (.float, rest)
      else if hasInvalidDigit mantissa.numberPrefix.base
          mantissa.whole then
        none
      else
        some (.int, rest) := by
  have notImaginary : ¬ rest.head? = some 'i'.toUInt8 := by
    intro imaginary
    exact absurd (ends _ imaginary).1 (by decide)
  have pointRadix :
      ¬ (mantissa.fraction.isSome ∧
        (mantissa.numberPrefix = .octal ∨ mantissa.numberPrefix = .binary)) := by
    rcases radix with radix | radix | ⟨radix, -⟩ <;> simp [radix]
  have hexPoint :
      ¬ (mantissa.numberPrefix = .hexadecimal ∧ mantissa.fraction.isSome ∧ ¬ hasExponent) := by
    rcases radix with radix | radix | ⟨radix, whole⟩
    · simp [radix]
    · simp [radix]
    · simp [whole]
  simp only [scanNumber, scanned, if_neg pointRadix, digits, not_true, if_false, power,
    if_neg hexPoint, notImaginary, noSeparator, Bool.false_eq_true, false_and]
  by_cases float : mantissa.fraction.isSome ∨ hasExponent
  · simp [float]
  · simp [float]

theorem scanExponent_none (ends : EndsNumber rest) :
    scanExponent numberPrefix rest = some (false, rest) := by
  cases rest with
  | nil => rfl
  | cons next others =>
    have apart :=
      (by decide : ∀ byte, isWordByte byte = false →
        ¬ (lower byte = 'e' ∨ lower byte = 'p')) next (ends next rfl).1
    simp only [scanExponent, if_neg apart]

/-- A text that does not go on with the digits of a decimal number. -/
def EndsDigits (rest : List UInt8) : Prop :=
  ∀ next ∈ rest.head?,
    isDigitOf 10 next = false ∧ lower next ≠ 'x' ∧ lower next ≠ 'o' ∧ lower next ≠ 'b'

theorem EndsNumber.endsDigits (ends : EndsNumber rest) : EndsDigits rest := by
  intro next atHead
  have outside := (ends next atHead).1
  exact ⟨isDigitOf_of_outside outside, (by decide : ∀ byte, isWordByte byte = false →
        lower byte ≠ 'x' ∧ lower byte ≠ 'o' ∧ lower byte ≠ 'b') next outside⟩

/-- The base prefix and the digits after it of a decimal text. -/
def decimalStart : List UInt8 → NumberPrefix × List UInt8
  | [] => (.decimal, [])
  | first :: rest =>
    if first = '0' then
      (.leadingZero, rest)
    else
      (.decimal, first :: rest)

/-- A decimal text is an octal literal with a digit that is too large. -/
def octalInvalid (digits : List UInt8) : Bool :=
  hasInvalidDigit (decimalStart digits).1.base (decimalStart digits).2

theorem decimalStart_digits (decimals : ∀ byte ∈ digits, isDecimal byte) :
    ∀ byte ∈ (decimalStart digits).2, isDecimal byte := by
  cases digits with
  | nil => simp [decimalStart]
  | cons first others =>
    simp only [decimalStart]
    split_ifs
    · exact fun byte among =>
        decimals byte (mem_cons_of_mem _ among)
    · exact decimals

theorem decimalStart_base (digits : List UInt8) :
    (decimalStart digits).1 = .decimal ∨ (decimalStart digits).1 = .leadingZero := by
  cases digits with
  | nil => exact .inl rfl
  | cons first others =>
    simp only [decimalStart]
    split_ifs
    · exact .inr rfl
    · exact .inl rfl

theorem isDigitOf_small (small : base ≤ 10) (byte : UInt8) :
    isDigitOf base byte = isDigitOf 10 byte := by
  simp [isDigitOf, small]

theorem EndsDigits.notDecimal (ends : EndsDigits rest) (small : base ≤ 10) :
    ∀ next ∈ rest.head?, isDigitOf base next = false := by
  intro next atHead
  rw [isDigitOf_small small]
  exact (ends next atHead).1

theorem decimalStart_base_le (digits : List UInt8) : (decimalStart digits).1.base ≤ 10 := by
  rcases decimalStart_base digits with radix | radix <;> rw [radix] <;> decide

theorem not_contains_separator (other : ∀ byte ∈ digits, byte ≠ '_') :
    digits.contains '_' = false := by
  rw [Bool.eq_false_iff]
  intro contains
  exact other _ (contains_iff_mem.mp contains) rfl

theorem ne_separator_of_isDecimal (decimal : isDecimal byte) : byte ≠ '_' := by
  rintro rfl
  exact absurd decimal (by decide)

variable (filled : digits ≠ [])

include filled

theorem hasDigit_of_ne (other : ∀ byte ∈ digits, byte ≠ '_') : hasDigit digits := by
  cases digits with
  | nil => exact absurd rfl filled
  | cons first others =>
    rw [hasDigit, any_cons, bne_iff_ne.mpr (other first (mem_cons_self ..)), Bool.true_or]

section

variable (decimals : ∀ byte ∈ digits, isDecimal byte)

include decimals

theorem hasDigit_of_decimal : hasDigit digits :=
  hasDigit_of_ne filled fun byte mem => ne_separator_of_isDecimal (decimals byte mem)

/-! ## Decimal numbers -/

theorem scanPrefix_decimal (ends : EndsDigits rest) :
    scanPrefix (digits ++ rest) = ((decimalStart digits).1, (decimalStart digits).2 ++ rest) := by
  cases digits with
  | nil => exact absurd rfl filled
  | cons first others =>
    simp only [cons_append, scanPrefix, decimalStart]
    by_cases zero : first = '0'
    · rw [if_pos zero, if_pos zero]
      have noMark :
          ∀ next ∈ (others ++ rest).head?,
            lower next ≠ 'x' ∧ lower next ≠ 'o' ∧ lower next ≠ 'b' := by
        intro next atHead
        cases others with
        | nil => exact (ends next atHead).2
        | cons second more =>
          have same : second = next := by simpa using atHead
          rw [← same]
          exact (by decide : ∀ byte, isDecimal byte →
              lower byte ≠ 'x' ∧ lower byte ≠ 'o' ∧ lower byte ≠ 'b') second
              (decimals second (by simp))
      cases shape : others ++ rest with
      | nil => rfl
      | cons next more =>
        have apart := noMark next (by rw [shape]; rfl)
        simp only [if_neg apart.1, if_neg apart.2.1, if_neg apart.2.2]
    · rw [if_neg zero, if_neg zero]
      rfl

/-- The digits of a decimal number up to what follows them. -/
theorem scanMantissa_digits (ends : EndsDigits rest) :
    scanMantissa (digits ++ rest) =
      scanFraction (decimalStart digits).1 ((decimalStart digits).2, rest) := by
  have notPoint : nextIs '.' (digits ++ rest) = false := by
    cases digits with
    | nil => exact absurd rfl filled
    | cons first others =>
      have apart : first ≠ '.' := by
        rintro rfl
        exact absurd (decimals _ (mem_cons_self ..)) (by decide)
      simpa using apart
  have run :
      scanDigits (decimalStart digits).1.base
          ((decimalStart digits).2 ++ rest) =
        ((decimalStart digits).2, rest) := by
    apply scanDigits_append
    · intro byte inDigits
      exact isDigitOf_of_isDecimal (decimalStart_digits decimals byte inDigits)
    · exact ends.notDecimal (decimalStart_base_le digits)
  simp only [scanMantissa, notPoint, Bool.false_eq_true, if_false,
    scanPrefix_decimal filled decimals ends, run]

theorem decimalStart_hasDigit :
    (decimalStart digits).1 = .leadingZero ∨ hasDigit (decimalStart digits).2 := by
  cases digits with
  | nil => exact absurd rfl filled
  | cons first others =>
    simp only [decimalStart]
    split_ifs
    · exact .inl rfl
    · exact .inr (hasDigit_of_decimal (by simp) decimals)

/-- The scanner on a decimal integer. -/
theorem scanNumber_decimal (ends : EndsNumber rest) :
    scanNumber (digits ++ rest) = if octalInvalid digits then none else some (.int, rest) := by
  have mantissa :
      scanMantissa (digits ++ rest) =
        ⟨(decimalStart digits).1, (decimalStart digits).2, none, rest⟩ := by
    rw [scanMantissa_digits filled decimals ends.endsDigits, scanFraction_none ends.notPoint]
  have power : scanExponent (decimalStart digits).1 rest = some (false, rest) :=
    scanExponent_none ends
  have noSeparator : (consumed (digits ++ rest) rest).contains '_' = false := by
    rw [consumed_append]
    exact
      not_contains_separator fun byte inDigits =>
        ne_separator_of_isDecimal (decimals byte inDigits)
  rw [scanNumber_eq mantissa power ends noSeparator
    ((decimalStart_hasDigit filled decimals).imp_right Or.inl)
    ((decimalStart_base digits).imp_right Or.inl)]
  rfl

end

omit filled

/-! ## Hexadecimal numbers -/

/-- The scanner on a hexadecimal integer. -/
theorem scanNumber_hexadecimal
    {mark : UInt8} (isMark : lower mark = 'x') (notSeparator : mark ≠ '_')
    (filled : digits ≠ []) (hex : ∀ byte ∈ digits, isHex byte) (ends : EndsNumber rest) :
    scanNumber ('0'.toUInt8 :: mark :: digits ++ rest) = some (.int, rest) := by
  have notUnderscore : ∀ byte ∈ digits, byte ≠ '_' := by
    rintro byte inDigits rfl
    exact absurd (hex _ inDigits) (by decide)
  have run : scanDigits NumberPrefix.hexadecimal.base (digits ++ rest) = (digits, rest) := by
    apply scanDigits_append
    · intro byte inDigits
      have digit := hex byte inDigits
      simp [isDigitOf, NumberPrefix.base, digit]
    · intro next atHead
      exact isDigitOf_of_outside (ends next atHead).1
  have start :
      scanPrefix ('0'.toUInt8 :: mark :: digits ++ rest) = (.hexadecimal, digits ++ rest) := by
    simp only [cons_append, scanPrefix, if_true, if_pos isMark]
  have notPoint : nextIs '.' ('0'.toUInt8 :: mark :: digits ++ rest) = false := by
    rfl
  have mantissa :
      scanMantissa ('0'.toUInt8 :: mark :: digits ++ rest) =
        ⟨.hexadecimal, digits, none, rest⟩ := by
    simp only [scanMantissa, notPoint, Bool.false_eq_true, if_false, start,
      run, scanFraction_none ends.notPoint]
  have power : scanExponent .hexadecimal rest = some (false, rest) := scanExponent_none ends
  have noSeparator :
      (consumed ('0'.toUInt8 :: mark :: digits ++ rest) rest).contains '_' = false := by
    rw [consumed_append]
    apply not_contains_separator
    intro byte inText
    rcases mem_cons.mp inText with rfl | inRest
    · decide
    · rcases mem_cons.mp inRest with rfl | inDigits
      · exact notSeparator
      · exact notUnderscore byte inDigits
  rw [scanNumber_eq mantissa power ends noSeparator
    (.inr (.inl (hasDigit_of_ne filled notUnderscore))) (.inr (.inr ⟨rfl, rfl⟩))]
  rfl

end Libbinder.Go
