import Libbinder.Go.Utf8

/-!
# UTF-16 code units

The embedding of `utf16.Encode` and `utf16.Decode`.  Scalar values outside
the basic plane become surrogate pairs; unpaired surrogates decode to the
replacement rune.
-/

namespace Libbinder.Go.Utf16

open List

open Go.Utf8

/-- The code units of one rune. -/
def encodeRune (rune : Nat) : List UInt16 :=
  if rune < 0xD800 ∨ 0xE000 ≤ rune ∧ rune < 0x10000 then
    [UInt16.ofNat rune]
  else if 0x10000 ≤ rune ∧ rune ≤ 0x10FFFF then
    [UInt16.ofNat (0xD800 + (rune - 0x10000) / 1024),
      UInt16.ofNat (0xDC00 + (rune - 0x10000) % 1024)]
  else
    [0xFFFD]

/-- `utf16.Encode`. -/
def encode (runes : List Nat) : List UInt16 :=
  runes.flatMap encodeRune

/-- The unit starts a surrogate pair. -/
def isHigh (unit : UInt16) : Bool :=
  0xD800 ≤ unit.toNat && unit.toNat ≤ 0xDBFF

/-- The unit ends a surrogate pair. -/
def isLow (unit : UInt16) : Bool :=
  0xDC00 ≤ unit.toNat && unit.toNat ≤ 0xDFFF

/-- The rune of a surrogate pair. -/
def combine (high low : UInt16) : Nat :=
  (high.toNat - 0xD800) * 1024 + (low.toNat - 0xDC00) + 0x10000

/-- `utf16.Decode`. -/
def decode : List UInt16 → List Nat
  | [] => []
  | [unit] => [if isHigh unit || isLow unit then runeError else unit.toNat]
  | unit :: next :: rest =>
    if isHigh unit && isLow next then
      combine unit next :: decode rest
    else if isHigh unit || isLow unit then
      runeError :: decode (next :: rest)
    else
      unit.toNat :: decode (next :: rest)

theorem toNat_ofNat_of_lt (value : Nat) (small : value < 65536 := by omega) :
    (UInt16.ofNat value).toNat = value := by
  rw [UInt16.toNat_ofNat', Nat.mod_eq_of_lt small]

/-- A unit that is no surrogate decodes to itself. -/
theorem decode_cons_of_not_surrogate
    {unit : UInt16} (notHigh : isHigh unit = false) (notLow : isLow unit = false)
    (rest : List UInt16) : decode (unit :: rest) = unit.toNat :: decode rest := by
  cases rest with
  | nil | cons => simp [decode, notHigh, notLow]

/-- A correctly paired surrogate decodes to one rune. -/
theorem decode_cons_of_pair
    {high low : UInt16} (highHolds : isHigh high) (lowHolds : isLow low) (rest : List UInt16) :
    decode (high :: low :: rest) = combine high low :: decode rest := by
  simp [decode, highHolds, lowHolds]

/-- How one scalar value is laid out: one plain unit, or a surrogate pair. -/
theorem encodeRune_cases {rune : Nat} (scalar : IsScalar rune) :
    (∃ unit : UInt16,
      encodeRune rune = [unit] ∧ unit.toNat = rune ∧ isHigh unit = false ∧ isLow unit = false) ∨
    (∃ high low : UInt16,
      encodeRune rune = [high, low] ∧ combine high low = rune ∧ isHigh high ∧ isLow low) := by
  unfold IsScalar at scalar
  by_cases plain : rune < 0xD800 ∨ 0xE000 ≤ rune ∧ rune < 0x10000
  · have unitValue := toNat_ofNat_of_lt rune
    refine .inl ⟨.ofNat rune, ?_, unitValue, ?_, ?_⟩
    · rw [encodeRune, if_pos plain]
    · simp only [isHigh, unitValue, Bool.and_eq_false_iff, decide_eq_false_iff_not]
      omega
    · simp only [isLow, unitValue, Bool.and_eq_false_iff, decide_eq_false_iff_not]
      omega
  · have highValue := toNat_ofNat_of_lt (0xD800 + (rune - 0x10000) / 1024)
    have lowValue := toNat_ofNat_of_lt (0xDC00 + (rune - 0x10000) % 1024)
    refine .inr ⟨.ofNat (0xD800 + (rune - 0x10000) / 1024),
        .ofNat (0xDC00 + (rune - 0x10000) % 1024), ?_, ?_, ?_, ?_⟩
    · rw [encodeRune, if_neg plain, if_pos (by omega)]
    · simp only [combine, highValue, lowValue]
      omega
    · simp only [isHigh, highValue, Bool.and_eq_true, decide_eq_true_eq]
      omega
    · simp only [isLow, lowValue, Bool.and_eq_true, decide_eq_true_eq]
      omega

/-- Every surrogate is half of a pair. -/
inductive Paired : List UInt16 → Prop
  | nil : Paired []
  | plain {unit : UInt16} {rest : List UInt16} (notHigh : isHigh unit = false)
      (notLow : isLow unit = false) (others : Paired rest) : Paired (unit :: rest)
  | pair {high low : UInt16} {rest : List UInt16} (highHolds : isHigh high)
      (lowHolds : isLow low) (others : Paired rest) : Paired (high :: low :: rest)

/-- Encoding scalar values leaves no single surrogate, and decoding inverts it. -/
theorem paired_encode {scalars : List Nat} (allScalar : ∀ rune ∈ scalars, IsScalar rune) :
    Paired (encode scalars) ∧ decode (encode scalars) = scalars := by
  induction scalars with
  | nil => exact ⟨.nil, rfl⟩
  | cons rune rest ih =>
    rcases forall_mem_cons.mp allScalar with ⟨scalar, others⟩
    rcases ih others with ⟨tailPaired, tailDecoded⟩
    have split : encode (rune :: rest) = encodeRune rune ++ encode rest := flatMap_cons
    rw [split]
    rcases encodeRune_cases scalar with
      ⟨unit, layout, value, notHigh, notLow⟩ | ⟨high, low, layout, value, highHolds, lowHolds⟩
    · rw [layout, cons_append, nil_append,
        decode_cons_of_not_surrogate notHigh notLow, value, tailDecoded]
      exact ⟨.plain notHigh notLow tailPaired, rfl⟩
    · rw [layout, cons_append, cons_append, nil_append,
        decode_cons_of_pair highHolds lowHolds, value, tailDecoded]
      exact ⟨.pair highHolds lowHolds tailPaired, rfl⟩

/-- Paired units decode to scalar values, and encoding inverts that. -/
theorem Paired.decoded {units : List UInt16} (paired : Paired units) :
    (∀ rune ∈ decode units, IsScalar rune) ∧ encode (decode units) = units := by
  induction paired with
  | nil => exact ⟨by simp [decode], rfl⟩
  | @plain unit rest notHigh notLow _ ih =>
    rcases ih with ⟨allScalar, coded⟩
    rw [decode_cons_of_not_surrogate notHigh notLow]
    have upper : unit.toNat < 65536 := unit.toNat_lt
    simp only [isHigh, isLow, Bool.and_eq_false_iff, decide_eq_false_iff_not] at notHigh notLow
    have layout : encodeRune unit.toNat = [unit] := by
      rw [encodeRune, if_pos (by omega), UInt16.ofNat_toNat]
    refine ⟨forall_mem_cons.mpr ⟨?_, allScalar⟩, ?_⟩
    · unfold IsScalar
      omega
    · change encodeRune unit.toNat ++ encode (decode rest) = unit :: rest
      rw [layout, coded]
      rfl
  | @pair high low rest highHolds lowHolds _ ih =>
    rcases ih with ⟨allScalar, coded⟩
    rw [decode_cons_of_pair highHolds lowHolds]
    simp only [isHigh, isLow, Bool.and_eq_true, decide_eq_true_eq] at highHolds lowHolds
    have layout : encodeRune (combine high low) = [high, low] := by
      have first : 0xD800 + (combine high low - 0x10000) / 1024 = high.toNat := by
        unfold combine
        omega
      have second : 0xDC00 + (combine high low - 0x10000) % 1024 = low.toNat := by
        unfold combine
        omega
      rw [encodeRune, first, second, UInt16.ofNat_toNat, UInt16.ofNat_toNat]
      unfold combine
      rw [if_neg (by omega), if_pos (by omega)]
    refine ⟨forall_mem_cons.mpr ⟨?_, allScalar⟩, ?_⟩
    · unfold IsScalar combine
      omega
    · change encodeRune (combine high low) ++ encode (decode rest) = high :: low :: rest
      rw [layout, coded]
      rfl

end Libbinder.Go.Utf16
