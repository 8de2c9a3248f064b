import Libbinder.Go.Utf8
import Mathlib.Data.List.Induction

/-!
# String functions

The functions of `strings` the development uses.  Strings are byte sequences,
and `TrimSpace` looks at whole runes.
-/

namespace Libbinder.Go

open List

/-- `unicode.IsSpace`. -/
def isSpace (rune : Nat) : Bool :=
  (9 ≤ rune && rune ≤ 13) || rune == 0x20 || rune == 0x85 || rune == 0xA0 ||
    rune == 0x1680 || (0x2000 ≤ rune && rune ≤ 0x200A) || rune == 0x2028 ||
    rune == 0x2029 || rune == 0x202F || rune == 0x205F || rune == 0x3000

/-- The text after its leading white space. -/
def trimLeftFuel : Nat → List UInt8 → List UInt8
  | 0, text => text
  | fuel + 1, text =>
    match Utf8.decodeRune text with
    | some (rune, rest) => if isSpace rune then trimLeftFuel fuel rest else text
    | none => text

/-- The last rune of a text and what stands before it. -/
def lastRune (text : List UInt8) : Option (Nat × List UInt8) :=
  [1, 2, 3, 4].findSome? fun width =>
    match Utf8.decodeRune (text.drop (text.length - width)) with
    | some (rune, []) => some (rune, text.take (text.length - width))
    | _ => none

/-- The text before its trailing white space. -/
def trimRightFuel : Nat → List UInt8 → List UInt8
  | 0, text => text
  | fuel + 1, text =>
    match lastRune text with
    | some (rune, before) => if isSpace rune then trimRightFuel fuel before else text
    | none => text

/-- `strings.TrimSpace`. -/
def trimSpace (text : List UInt8) : List UInt8 :=
  let left := trimLeftFuel text.length text
  trimRightFuel left.length left

/-- A byte that stands for itself and is no white space. -/
def isVisible (byte : UInt8) : Bool :=
  byte < 0x80 && !isSpace byte.toNat

/-- A byte that stands for itself and is white space. -/
def isSpaceByte (byte : UInt8) : Bool :=
  byte < 0x80 && isSpace byte.toNat

theorem decodeRune_ascii {byte : UInt8} (ascii : byte < 0x80) (rest : List UInt8) :
    Utf8.decodeRune (byte :: rest) = some (byte.toNat, rest) := by
  have small : byte.toNat < 128 := UInt8.lt_iff_toNat_lt.mp ascii
  simp only [Utf8.decodeRune, if_pos small]

theorem lastRune_ascii {byte : UInt8} (ascii : byte < 0x80) (before : List UInt8) :
    lastRune (before ++ [byte]) = some (byte.toNat, before) := by
  have width : (before ++ [byte]).length - 1 = before.length := by simp
  have gone : (before ++ [byte]).drop ((before ++ [byte]).length - 1) = [byte] := by
    rw [width]
    simp
  have taken : (before ++ [byte]).take ((before ++ [byte]).length - 1) = before := by
    rw [width]
    simp
  rw [lastRune, List.findSome?_cons]
  simp only [gone, taken, decodeRune_ascii ascii]

theorem trimLeftFuel_spaces
    (spaces text : List UInt8) (allSpaces : spaces.all isSpaceByte)
    (visible : ∀ byte ∈ text.head?, isVisible byte) (fuel : Nat) (enough : spaces.length ≤ fuel) :
    trimLeftFuel fuel (spaces ++ text) = text := by
  induction spaces generalizing fuel with
  | nil =>
    cases fuel with
    | zero => rfl
    | succ fuel =>
      cases text with
      | nil => rfl
      | cons byte rest =>
        have seen := visible byte rfl
        rw [isVisible, Bool.and_eq_true, decide_eq_true_eq, Bool.not_eq_true'] at seen
        simp only [nil_append, trimLeftFuel, decodeRune_ascii seen.1, seen.2,
          Bool.false_eq_true, if_false]
  | cons byte others ih =>
    rw [all_cons, Bool.and_eq_true] at allSpaces
    have space := allSpaces.1
    rw [isSpaceByte, Bool.and_eq_true, decide_eq_true_eq] at space
    cases fuel with
    | zero => simp at enough
    | succ fuel =>
      simp only [cons_append, trimLeftFuel, decodeRune_ascii space.1, space.2, if_true]
      exact ih allSpaces.2 fuel (by simpa using enough)

theorem trimRightFuel_spaces
    (text spaces : List UInt8) (allSpaces : spaces.all isSpaceByte)
    (visible : ∀ byte ∈ text.getLast?, isVisible byte) (fuel : Nat)
    (enough : spaces.length ≤ fuel) : trimRightFuel fuel (text ++ spaces) = text := by
  induction spaces using List.reverseRecOn generalizing fuel with
  | nil =>
    rw [append_nil]
    cases fuel with
    | zero => rfl
    | succ fuel =>
      rcases eq_nil_or_concat text with rfl | ⟨before, byte, rfl⟩
      · rfl
      · have seen := visible byte (by simp)
        rw [isVisible, Bool.and_eq_true, decide_eq_true_eq, Bool.not_eq_true'] at seen
        simp only [trimRightFuel, concat_eq_append,
          lastRune_ascii seen.1, seen.2, Bool.false_eq_true, if_false]
  | append_singleton others byte ih =>
    rw [all_append, Bool.and_eq_true] at allSpaces
    have space : isSpaceByte byte := by
      simpa using allSpaces.2
    rw [isSpaceByte, Bool.and_eq_true, decide_eq_true_eq] at space
    cases fuel with
    | zero => simp at enough
    | succ fuel =>
      rw [← append_assoc]
      simp only [trimRightFuel, lastRune_ascii space.1, space.2, if_true]
      exact ih allSpaces.1 fuel (by simpa using enough)

/-- Only the white space around a visible text is cut off. -/
theorem trimSpace_eq
    {before text after : List UInt8} (spacesBefore : before.all isSpaceByte)
    (spacesAfter : after.all isSpaceByte) (visibleFirst : ∀ byte ∈ text.head?, isVisible byte)
    (visibleLast : ∀ byte ∈ text.getLast?, isVisible byte) (filled : text ≠ []) :
    trimSpace (before ++ text ++ after) = text := by
  have left :
      trimLeftFuel (before ++ text ++ after).length (before ++ text ++ after) = text ++ after := by
    rw [append_assoc]
    apply trimLeftFuel_spaces _ _ spacesBefore
    · intro byte atHead
      rw [List.head?_append] at atHead
      cases text with
      | nil => exact absurd rfl filled
      | cons first rest => exact visibleFirst byte atHead
    · simp
  rw [trimSpace]
  simp only [left]
  exact trimRightFuel_spaces _ _ spacesAfter visibleLast _ (by simp)

end Libbinder.Go
