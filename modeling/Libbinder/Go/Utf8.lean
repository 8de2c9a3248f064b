import Mathlib.Tactic.Common

/-!
# UTF-8 strings

A Go string is a byte sequence.  This module embeds the conversions between
strings and runes (`[]rune(s)`, `string(runes)`) and `utf8.Valid`, with Go's
treatment of malformed bytes: each one decodes to the replacement rune and
advances by one byte.

The main facts say that decoding inverts encoding on scalar values, and that
the valid strings are exactly the encodings of scalar values.
-/

namespace Libbinder.Go.Utf8

open List

/-- A character of ASCII as a byte. -/
instance byteOfChar : Coe Char UInt8 :=
  ⟨Char.toUInt8⟩

/-- `utf8.RuneError`, also the rune substituted for malformed input. -/
def runeError : Nat :=
  0xFFFD

/-- `utf8.ValidRune`: a Unicode scalar value. -/
def IsScalar (rune : Nat) : Prop :=
  rune < 0xD800 ∨ 0xDFFF < rune ∧ rune ≤ 0x10FFFF

instance (rune : Nat) : Decidable (IsScalar rune) :=
  inferInstanceAs (Decidable (_ ∨ _))

/-- The bytes of one rune, as appended by `utf8.AppendRune`. -/
def encodeRune (rune : Nat) : List UInt8 :=
  if rune ≤ 0x7F then
    [UInt8.ofNat rune]
  else if rune ≤ 0x7FF then
    [UInt8.ofNat (0xC0 + rune / 64), .ofNat (0x80 + rune % 64)]
  else if ¬ IsScalar rune then
    [0xEF, 0xBF, 0xBD]
  else if rune ≤ 0xFFFF then
    [UInt8.ofNat (0xE0 + rune / 4096),
      UInt8.ofNat (0x80 + rune / 64 % 64),
      UInt8.ofNat (0x80 + rune % 64)]
  else
    [UInt8.ofNat (0xF0 + rune / 262144),
      UInt8.ofNat (0x80 + rune / 4096 % 64),
      UInt8.ofNat (0x80 + rune / 64 % 64),
      UInt8.ofNat (0x80 + rune % 64)]

/-- `string(runes)`. -/
def encodeRunes (runes : List Nat) : List UInt8 :=
  runes.flatMap encodeRune

/-- A byte inside an inclusive range. -/
def within (low high : Nat) (byte : UInt8) : Bool :=
  low ≤ byte.toNat && byte.toNat ≤ high

/--
Decode one well-formed rune from the front of a string.  The ranges of the
second byte are those of the `acceptRanges` table: they exclude overlong
forms, surrogates and values above the last code point.
-/
def decodeRune : List UInt8 → Option (Nat × List UInt8)
  | [] => none
  | first :: rest =>
    let lead := first.toNat
    if lead < 0x80 then
      some (lead, rest)
    else if 0xC2 ≤ lead ∧ lead ≤ 0xDF then
      match rest with
      | second :: tail =>
        if within 0x80 0xBF second then
          some ((lead - 0xC0) * 64 + (second.toNat - 0x80), tail)
        else
          none
      | [] => none
    else if 0xE0 ≤ lead ∧ lead ≤ 0xEF then
      match rest with
      | second :: third :: tail =>
        if within (if lead = 0xE0 then 0xA0 else 0x80)
            (if lead = 0xED then 0x9F else 0xBF) second &&
            within 0x80 0xBF third then
          some ((lead - 0xE0) * 4096 + (second.toNat - 0x80) * 64 + (third.toNat - 0x80), tail)
        else
          none
      | _ => none
    else if 0xF0 ≤ lead ∧ lead ≤ 0xF4 then
      match rest with
      | second :: third :: fourth :: tail =>
        if within (if lead = 0xF0 then 0x90 else 0x80)
            (if lead = 0xF4 then 0x8F else 0xBF) second &&
            within 0x80 0xBF third && within 0x80 0xBF fourth then
          some ((lead - 0xF0) * 262144 + (second.toNat - 0x80) * 4096 +
            (third.toNat - 0x80) * 64 + (fourth.toNat - 0x80), tail)
        else
          none
      | _ => none
    else
      none

/-- Decode at most `fuel` runes. -/
def runesFuel : Nat → List UInt8 → List Nat
  | 0, _ => []
  | _ + 1, [] => []
  | fuel + 1, byte :: bytes =>
    match decodeRune (byte :: bytes) with
    | some (rune, rest) => rune :: runesFuel fuel rest
    | none => runeError :: runesFuel fuel bytes

/-- `[]rune(s)`. -/
def runes (bytes : List UInt8) : List Nat :=
  runesFuel bytes.length bytes

/-- Check at most `fuel` runes. -/
def validFuel : Nat → List UInt8 → Bool
  | _, [] => true
  | 0, _ :: _ => false
  | fuel + 1, byte :: bytes =>
    match decodeRune (byte :: bytes) with
    | some (_, rest) => validFuel fuel rest
    | none => false

/-- `utf8.Valid` and `utf8.ValidString`. -/
def valid (bytes : List UInt8) : Bool :=
  validFuel bytes.length bytes

/-! ## One rune -/

theorem encodeRune_ne_nil (rune : Nat) : encodeRune rune ≠ [] := by
  unfold encodeRune
  split_ifs <;> simp

variable {rune : Nat}

/-- Decoding reads back one encoded scalar value and stops after it. -/
theorem decodeRune_encodeRune (scalar : IsScalar rune) (rest : List UInt8) :
    decodeRune (encodeRune rune ++ rest) = some (rune, rest) := by
  unfold IsScalar at scalar
  unfold encodeRune
  split_ifs with one two isScalar three
  all_goals
    simp (disch := omega) only [cons_append, nil_append, decodeRune, within,
      UInt8.toNat_ofNat', Nat.mod_eq_of_lt]
  · rw [if_pos (by omega)]
  · rw [if_neg (by omega), if_pos (by omega), if_pos (by simp; omega)]
    simp only [Option.some.injEq, Prod.mk.injEq, and_true]
    omega
  · rw [if_neg (by omega), if_neg (by omega), if_pos (by omega)]
    rw [if_pos]
    · simp only [Option.some.injEq, Prod.mk.injEq, and_true]
      omega
    · simp only [Bool.and_eq_true, decide_eq_true_eq]
      split_ifs <;> omega
  · rw [if_neg (by omega), if_neg (by omega), if_neg (by omega), if_pos (by omega)]
    rw [if_pos]
    · simp only [Option.some.injEq, Prod.mk.injEq, and_true]
      omega
    · simp only [Bool.and_eq_true, decide_eq_true_eq]
      split_ifs <;> omega
  · exact (isScalar scalar).elim

theorem ofNat_eq_of_toNat (byte : UInt8) {value : Nat} (equal : value = byte.toNat := by omega) :
    .ofNat value = byte := by
  subst equal
  exact UInt8.ofNat_toNat

variable {bytes : List UInt8}

/-- Every decoded rune is a scalar value in its only encoding. -/
theorem eq_encodeRune_of_decodeRune
    {rest : List UInt8} (read : decodeRune bytes = some (rune, rest)) :
    IsScalar rune ∧ bytes = encodeRune rune ++ rest := by
  revert read
  unfold IsScalar encodeRune
  fun_cases decodeRune bytes
  all_goals
    simp only [Option.some.injEq, Prod.mk.injEq, reduceCtorEq, false_implies]
  all_goals rintro ⟨value, rfl⟩
  · next first tail lead one =>
      refine ⟨.inl (by omega), ?_⟩
      rw [if_pos (by omega), ofNat_eq_of_toNat first value.symm]
      rfl
  · next first lead one two second tail inside =>
      simp only [within, Bool.and_eq_true, decide_eq_true_eq] at inside
      refine ⟨.inl (by omega), ?_⟩
      rw [if_neg (by omega), if_pos (by omega), ofNat_eq_of_toNat first, ofNat_eq_of_toNat second]
      rfl
  · next first lead one two three second third tail inside =>
      simp only [within, Bool.and_eq_true, decide_eq_true_eq] at inside
      rcases inside with ⟨⟨low, high⟩, thirdRange⟩
      have secondRange : 0x80 ≤ second.toNat ∧ second.toNat ≤ 0xBF := by
        split_ifs at low high <;> omega
      have scalar : IsScalar rune := by
        unfold IsScalar
        split_ifs at low high <;> omega
      have large : 0x7FF < rune := by
        split_ifs at low <;> omega
      refine ⟨scalar, ?_⟩
      rw [if_neg (by omega), if_neg (by omega), if_neg (not_not.mpr scalar), if_pos (by omega),
        ofNat_eq_of_toNat first, ofNat_eq_of_toNat second, ofNat_eq_of_toNat third]
      rfl
  · next first lead one two three four second third fourth tail inside =>
      simp only [within, Bool.and_eq_true, decide_eq_true_eq] at inside
      rcases inside with ⟨⟨⟨low, high⟩, thirdRange⟩, fourthRange⟩
      have secondRange : 0x80 ≤ second.toNat ∧ second.toNat ≤ 0xBF := by
        split_ifs at low high <;> omega
      have large : 0xFFFF < rune ∧ rune ≤ 0x10FFFF := by
        split_ifs at low high <;> omega
      have scalar : IsScalar rune := .inr ⟨by omega, large.2⟩
      refine ⟨scalar, ?_⟩
      rw [if_neg (by omega), if_neg (by omega), if_neg (not_not.mpr scalar), if_neg (by omega),
        ofNat_eq_of_toNat first, ofNat_eq_of_toNat second,
        ofNat_eq_of_toNat third, ofNat_eq_of_toNat fourth]
      rfl

/-! ## Whole strings -/

theorem length_le_encodeRunes (scalars : List Nat) :
    scalars.length ≤ (encodeRunes scalars).length := by
  induction scalars with
  | nil => simp
  | cons rune rest ih =>
    have headLength : 0 < (encodeRune rune).length := length_pos_iff.mpr (encodeRune_ne_nil rune)
    simp only [encodeRunes, flatMap_cons, length_cons, length_append] at ih ⊢
    omega

variable {scalars : List Nat}

/-- The string of some runes starts with the first of them. -/
theorem encodeRunes_cons (scalar : IsScalar rune) (rest : List Nat) :
    ∃ byte bytes, encodeRunes (rune :: rest) = byte :: bytes ∧
      decodeRune (byte :: bytes) = some (rune, encodeRunes rest) := by
  have decoded := decodeRune_encodeRune scalar (encodeRunes rest)
  have split : encodeRunes (rune :: rest) = encodeRune rune ++ encodeRunes rest := by
    simp [encodeRunes]
  rw [split]
  cases coded : encodeRune rune ++ encodeRunes rest with
  | nil =>
    have empty := (append_eq_nil_iff.mp coded).1
    exact (encodeRune_ne_nil rune empty).elim
  | cons byte bytes =>
    rw [coded] at decoded
    exact ⟨byte, bytes, rfl, decoded⟩

theorem exists_of_validFuel {fuel : Nat} (isValid : validFuel fuel bytes) :
    ∃ scalars : List Nat, (∀ rune ∈ scalars, IsScalar rune) ∧ bytes = encodeRunes scalars := by
  induction fuel generalizing bytes with
  | zero =>
    cases bytes with
    | nil => exact ⟨[], by simp, rfl⟩
    | cons byte rest => simp [validFuel] at isValid
  | succ fuel ih =>
    cases bytes with
    | nil => exact ⟨[], by simp, rfl⟩
    | cons byte rest =>
      simp only [validFuel] at isValid
      cases read : decodeRune (byte :: rest) with
      | none => simp [read] at isValid
      | some result =>
        rcases result with ⟨rune, tail⟩
        simp only [read] at isValid
        rcases eq_encodeRune_of_decodeRune read with ⟨headScalar, headBytes⟩
        rcases ih isValid with ⟨scalars, tailScalar, tailBytes⟩
        refine ⟨rune :: scalars, forall_mem_cons.mpr ⟨headScalar, tailScalar⟩, ?_⟩
        rw [headBytes, tailBytes]
        simp [encodeRunes]

variable (allScalar : ∀ rune ∈ scalars, IsScalar rune)

include allScalar

theorem fuel_encodeRunes {fuel : Nat} (enough : scalars.length ≤ fuel) :
    runesFuel fuel (encodeRunes scalars) = scalars ∧ validFuel fuel (encodeRunes scalars) := by
  induction scalars generalizing fuel with
  | nil => cases fuel <;> exact ⟨rfl, rfl⟩
  | cons rune rest ih =>
    rcases forall_mem_cons.mp allScalar with ⟨scalar, others⟩
    rcases encodeRunes_cons scalar rest with ⟨byte, bytes, coded, read⟩
    cases fuel with
    | zero => simp at enough
    | succ fuel =>
      have tail := ih others (Nat.le_of_succ_le_succ enough)
      simp only [coded, runesFuel, validFuel, read, tail, and_self]

/-- Converting scalar values to a string and back returns them. -/
theorem runes_encodeRunes : runes (encodeRunes scalars) = scalars :=
  (fuel_encodeRunes allScalar (length_le_encodeRunes scalars)).1

/-- The encoding of scalar values is a valid string. -/
theorem valid_encodeRunes : valid (encodeRunes scalars) :=
  (fuel_encodeRunes allScalar (length_le_encodeRunes scalars)).2

omit allScalar

/-- A valid string is the encoding of its runes, which are scalar values. -/
theorem encodeRunes_runes (isValid : valid bytes) :
    (∀ rune ∈ runes bytes, IsScalar rune) ∧ encodeRunes (runes bytes) = bytes := by
  rcases exists_of_validFuel isValid with ⟨scalars, allScalar, rfl⟩
  rw [runes_encodeRunes allScalar]
  exact ⟨allScalar, rfl⟩

end Libbinder.Go.Utf8
