import Mathlib.Data.List.Basic

/-!
# Leftmost-first regular expressions

The part of `regexp` that a search-and-replace with one capture group needs:
classes, greedy repetition of a class, alternatives tried in order and the
ASCII word boundary.  A run lists the ways an expression matches at the cursor
in the order in which the matcher prefers them, so that its first entry is the
match of the package.
-/

namespace Libbinder.Go

open List

/-- The ASCII word bytes of `\b`. -/
def isWordByte (byte : UInt8) : Bool :=
  (0x30 ≤ byte && byte ≤ 0x39) || (0x41 ≤ byte && byte ≤ 0x5A) ||
    byte == 0x5F || (0x61 ≤ byte && byte ≤ 0x7A)

/-- Whether a property holds of the bytes of all pairs of hexadecimal digits. -/
def allBytes (check : UInt8 → Bool) : Bool :=
  (range 16).all fun high =>
    (range 16).all fun low => check (.ofNat (16 * high + low))

/-- A property that is checked on all bytes. -/
theorem forall_byte
    {P : UInt8 → Prop} [DecidablePred P]
    (checked : allBytes (fun byte => decide (P byte))) (byte : UInt8) : P byte := by
  have bound := byte.toNat_lt
  have highs := all_eq_true.mp checked (byte.toNat / 16) (mem_range.mpr (by omega))
  have holds := all_eq_true.mp highs (byte.toNat % 16) (mem_range.mpr (by omega))
  rw [Nat.div_add_mod, decide_eq_true_eq] at holds
  simpa using holds

/-- A property of all bytes is decided by checking each of them. -/
instance decidableForallByte
    (P : UInt8 → Prop) [DecidablePred P] : Decidable (∀ byte, P byte) :=
  decidable_of_iff (allBytes (fun byte => decide (P byte)))
    ⟨forall_byte, fun holds => by simp [allBytes, holds]⟩

/-- Whether the text to the right of the cursor starts with a word byte. -/
def startsWord : List UInt8 → Bool
  | [] => false
  | byte :: _ => isWordByte byte

/-- Whether the byte before the cursor is a word byte after reading a text. -/
def endsWord (inWord : Bool) : List UInt8 → Bool
  | [] => inWord
  | byte :: rest => endsWord (isWordByte byte) rest

/-- Expressions over bytes. -/
inductive Regex where
  /-- The empty text. -/
  | empty
  /-- One byte of a class. -/
  | byteIn (member : UInt8 → Bool)
  /-- Greedy repetition of a class, `[..]*`. -/
  | many (member : UInt8 → Bool)
  /-- The boundary `\b`. -/
  | boundary
  | seq (first second : Regex)
  /-- `first|second`, the first alternative preferred. -/
  | alt (first second : Regex)

namespace Regex

/-- Greedy repetition of a class at least once, `[..]+`. -/
def many1 (member : UInt8 → Bool) : Regex :=
  .seq (.byteIn member) (.many member)

/-- `(?:..)?`, with the longer choice preferred. -/
def optional (inner : Regex) : Regex :=
  .alt inner .empty

/-- The ways to split off a text of class members, the longest first. -/
def runMany (member : UInt8 → Bool) : List UInt8 → List (List UInt8 × List UInt8)
  | [] => [([], [])]
  | byte :: rest =>
    if member byte then
      (runMany member rest).map (fun found => (byte :: found.1, found.2)) ++ [([], byte :: rest)]
    else
      [([], byte :: rest)]

/--
The matches at a cursor as pairs of the matched and the remaining text, in the
order of preference.  `inWord` says whether the byte before the cursor is a
word byte.
-/
def run : Regex → Bool → List UInt8 → List (List UInt8 × List UInt8)
  | .empty, _, text => [([], text)]
  | .byteIn _, _, [] => []
  | .byteIn member, _, byte :: rest => if member byte then [([byte], rest)] else []
  | .many member, _, text => runMany member text
  | .boundary, inWord, text => if inWord != startsWord text then [([], text)] else []
  | .seq first second, inWord, text =>
    (run first inWord text).flatMap fun left =>
      (run second (endsWord inWord left.1) left.2).map fun right =>
        (left.1 ++ right.1, right.2)
  | .alt first second, inWord, text => run first inWord text ++ run second inWord text

/-- The texts an expression matches between two neighbours. -/
def Accepts : Regex → Bool → List UInt8 → List UInt8 → Prop
  | .empty, _, text, _ => text = []
  | .byteIn member, _, text, _ => ∃ byte, text = [byte] ∧ member byte
  | .many member, _, text, _ => ∀ byte ∈ text, member byte
  | .boundary, inWord, text, rest => text = [] ∧ inWord ≠ startsWord rest
  | .seq first second, inWord, text, rest =>
    ∃ left right, text = left ++ right ∧
      Accepts first inWord left (right ++ rest) ∧
      Accepts second (endsWord inWord left) right rest
  | .alt first second, inWord, text, rest =>
    Accepts first inWord text rest ∨ Accepts second inWord text rest

theorem accepts_many1 (mem : UInt8 → Bool) (inWord : Bool) (text rest : List UInt8) :
    (many1 mem).Accepts inWord text rest ↔ text ≠ [] ∧ ∀ byte ∈ text, mem byte := by
  simp only [many1, Accepts]
  constructor
  · rintro ⟨left, right, rfl, ⟨byte, rfl, taken⟩, others⟩
    exact ⟨cons_ne_nil _ _, forall_mem_cons.mpr ⟨taken, others⟩⟩
  · rintro ⟨filled, members⟩
    cases text with
    | nil => exact absurd rfl filled
    | cons byte others =>
      obtain ⟨own, rest⟩ := forall_mem_cons.mp members
      exact ⟨[byte], others, rfl, ⟨byte, rfl, own⟩, rest⟩

theorem mem_runMany (mem : UInt8 → Bool) (source : List UInt8) (text rest : List UInt8) :
    (text, rest) ∈ runMany mem source ↔ source = text ++ rest ∧ ∀ byte ∈ text, mem byte := by
  induction source generalizing text with
  | nil =>
    constructor
    · intro found
      cases mem_singleton.mp found
      exact ⟨rfl, forall_mem_nil _⟩
    · rintro ⟨split, -⟩
      obtain ⟨rfl, rfl⟩ := append_eq_nil_iff.mp split.symm
      exact mem_singleton_self _
  | cons byte tail ih =>
    by_cases taken : mem byte
    · simp only [runMany, if_pos taken, mem_append, mem_map, mem_singleton, Prod.mk.injEq]
      constructor
      · rintro (⟨⟨inner, after⟩, found, rfl, rfl⟩ | ⟨rfl, rfl⟩)
        · obtain ⟨split, members⟩ := (ih inner).mp found
          exact ⟨congrArg (byte :: ·) split, forall_mem_cons.mpr ⟨taken, members⟩⟩
        · exact ⟨rfl, by simp⟩
      · rintro ⟨split, members⟩
        cases text with
        | nil => exact .inr ⟨rfl, split.symm⟩
        | cons head inner =>
          obtain ⟨rfl, later⟩ := cons.inj split
          have found := (ih inner).mpr ⟨later, (forall_mem_cons.mp members).2⟩
          exact .inl ⟨(inner, rest), found, rfl, rfl⟩
    · simp only [runMany, if_neg taken, mem_singleton, Prod.mk.injEq]
      constructor
      · rintro ⟨rfl, rfl⟩
        exact ⟨rfl, by simp⟩
      · rintro ⟨split, members⟩
        cases text with
        | nil => exact ⟨rfl, split.symm⟩
        | cons head inner =>
          obtain ⟨rfl, -⟩ := cons.inj split
          exact absurd (members _ (mem_cons_self ..)) taken

/-- A run lists exactly the accepted texts. -/
theorem mem_run (expr : Regex) (inWord : Bool) (source text rest : List UInt8) :
    (text, rest) ∈ expr.run inWord source ↔
      source = text ++ rest ∧ expr.Accepts inWord text rest := by
  induction expr generalizing inWord source text rest with
  | empty =>
    simp only [run, Accepts, mem_singleton, Prod.mk.injEq]
    constructor
    · rintro ⟨rfl, rfl⟩
      exact ⟨rfl, rfl⟩
    · rintro ⟨split, rfl⟩
      exact ⟨rfl, split.symm⟩
  | byteIn mem =>
    cases source with
    | nil =>
      simp only [run, Accepts, not_mem_nil, false_iff]
      rintro ⟨split, byte, rfl, -⟩
      simp at split
    | cons head tail =>
      simp only [run, Accepts]
      by_cases taken : mem head
      · rw [if_pos taken, mem_singleton, Prod.mk.injEq]
        constructor
        · rintro ⟨rfl, rfl⟩
          exact ⟨rfl, head, rfl, taken⟩
        · rintro ⟨split, byte, rfl, -⟩
          obtain ⟨rfl, rfl⟩ := cons.inj split
          exact ⟨rfl, rfl⟩
      · rw [if_neg taken]
        simp only [not_mem_nil, false_iff]
        rintro ⟨split, byte, rfl, accepts⟩
        obtain ⟨rfl, -⟩ := cons.inj split
        exact taken accepts
  | many mem => exact mem_runMany mem source text rest
  | boundary =>
    simp only [run, Accepts]
    by_cases differs : (inWord != startsWord source)
    · rw [if_pos differs, mem_singleton, Prod.mk.injEq]
      constructor
      · rintro ⟨rfl, rfl⟩
        exact ⟨rfl, rfl, bne_iff_ne.mp differs⟩
      · rintro ⟨split, rfl, -⟩
        exact ⟨rfl, split.symm⟩
    · rw [if_neg differs]
      simp only [not_mem_nil, false_iff]
      rintro ⟨rfl, rfl, apart⟩
      exact differs (bne_iff_ne.mpr apart)
  | seq first second firstSpec secondSpec =>
    simp only [run, Accepts, mem_flatMap, mem_map, Prod.mk.injEq]
    constructor
    · rintro ⟨⟨left, after⟩, foundLeft, ⟨right, tail⟩, foundRight,
        rfl, rfl⟩
      obtain ⟨splitLeft, acceptsLeft⟩ := (firstSpec inWord source left after).mp foundLeft
      obtain ⟨splitRight, acceptsRight⟩ := (secondSpec _ after right tail).mp foundRight
      refine ⟨?_, left, right, rfl, ?_, acceptsRight⟩
      · rw [splitLeft, splitRight, append_assoc]
      · rwa [← splitRight]
    · rintro ⟨split, left, right, rfl, acceptsLeft, acceptsRight⟩
      refine ⟨(left, right ++ rest), ?_, (right, rest), ?_, rfl, rfl⟩
      · exact (firstSpec _ _ _ _).mpr ⟨by rw [split, append_assoc], acceptsLeft⟩
      · exact (secondSpec _ _ _ _).mpr ⟨rfl, acceptsRight⟩
  | alt first second firstSpec secondSpec =>
    simp only [run, Accepts, mem_append, firstSpec, secondSpec]
    tauto

/-! ## Bytes no class contains -/

/-- No class of the expression contains the byte. -/
def Avoids (byte : UInt8) : Regex → Prop
  | .empty => True
  | .byteIn member => member byte = false
  | .many member => member byte = false
  | .boundary => True
  | .seq first second => Avoids byte first ∧ Avoids byte second
  | .alt first second => Avoids byte first ∧ Avoids byte second

/-- A match extended to the right by a text it does not reach. -/
def extendRest (tail : List UInt8) (found : List UInt8 × List UInt8) : List UInt8 × List UInt8 :=
  (found.1, found.2 ++ tail)

theorem runMany_append
    {mem : UInt8 → Bool} {byte : UInt8} (avoided : mem byte = false) (source tail : List UInt8) :
    runMany mem (source ++ byte :: tail) =
      (runMany mem source).map (extendRest (byte :: tail)) := by
  induction source with
  | nil => simp [runMany, avoided, extendRest]
  | cons head rest ih =>
    by_cases taken : mem head
    · simp only [cons_append, runMany, if_pos taken, ih, map_append, map_map, map_cons, map_nil]
      rfl
    · simp only [cons_append, runMany, if_neg taken, map_cons, map_nil]
      rfl

/-- A byte outside every class and every word ends the text for a run. -/
theorem run_append
    {expr : Regex} {byte : UInt8} (avoided : expr.Avoids byte)
    (out : isWordByte byte = false) (inWord : Bool) (source tail : List UInt8) :
    expr.run inWord (source ++ byte :: tail) =
      (expr.run inWord source).map (extendRest (byte :: tail)) := by
  induction expr generalizing inWord source with
  | empty => rfl
  | byteIn mem =>
    cases source with
    | nil => exact if_neg (Bool.eq_false_iff.mp avoided)
    | cons head rest =>
      simp only [cons_append, run]
      split_ifs
      · rfl
      · rfl
  | many mem => exact runMany_append avoided source tail
  | boundary =>
    have same : startsWord (source ++ byte :: tail) = startsWord source := by
      cases source with
      | nil => exact out
      | cons head rest => rfl
    simp only [run, same]
    split_ifs
    · rfl
    · rfl
  | seq first second firstSpec secondSpec =>
    simp only [run, firstSpec avoided.1, flatMap_map, map_flatMap, map_map]
    congr 1
    funext left
    simp only [extendRest, secondSpec avoided.2, map_map]
    rfl
  | alt first second firstSpec secondSpec =>
    simp only [run, firstSpec avoided.1, secondSpec avoided.2, map_append]

end Regex

open Regex

/-! ## Search and replace -/

/--
A pattern with one capture group.  What follows the group is never empty, so
that a replacement always moves on.
-/
structure Pattern where
  /-- What stands before the group. -/
  lead : Regex
  /-- The capture group. -/
  group : Regex
  /-- What stands after the group. -/
  trail : Regex
  consumes : ∀ inWord text rest, trail.Accepts inWord text rest → text ≠ []

/-- One match: its text, what its group captured and what follows. -/
structure Match where
  text : List UInt8
  captured : List UInt8
  rest : List UInt8

namespace Pattern

/-- The matches that start at the cursor, in the order of preference. -/
def runAt (pattern : Pattern) (inWord : Bool) (source : List UInt8) : List Match :=
  (pattern.lead.run inWord source).flatMap fun lead =>
    (pattern.group.run (endsWord inWord lead.1) lead.2).flatMap fun group =>
      (pattern.trail.run (endsWord (endsWord inWord lead.1) group.1)
        group.2).map fun trail =>
          { text := lead.1 ++ group.1 ++ trail.1, captured := group.1, rest := trail.2 }

/-- `ReplaceAllString(source, "$1")` from the cursor on. -/
def replaceFuel (pattern : Pattern) : Nat → Bool → List UInt8 → List UInt8
  | 0, _, source => source
  | fuel + 1, inWord, source =>
    match (pattern.runAt inWord source).head? with
    | some found =>
      found.captured ++ replaceFuel pattern fuel (endsWord inWord found.text) found.rest
    | none =>
      match source with
      | [] => []
      | byte :: rest => byte :: replaceFuel pattern fuel (isWordByte byte) rest

/-- The replacement of a text that follows a word byte or another byte. -/
def replaceFrom (pattern : Pattern) (inWord : Bool) (source : List UInt8) : List UInt8 :=
  pattern.replaceFuel source.length inWord source

/-- `ReplaceAllString(source, "$1")`. -/
def replaceAll (pattern : Pattern) (source : List UInt8) : List UInt8 :=
  pattern.replaceFrom false source

variable {pattern : Pattern}

/-- What a match that starts at the cursor consists of. -/
theorem mem_runAt (inWord : Bool) (source : List UInt8) (found : Match) :
    found ∈ pattern.runAt inWord source ↔
      ∃ lead trail,
        source = found.text ++ found.rest ∧
        found.text = lead ++ found.captured ++ trail ∧
        pattern.lead.Accepts inWord lead (found.captured ++ trail ++ found.rest) ∧
        pattern.group.Accepts (endsWord inWord lead) found.captured (trail ++ found.rest) ∧
        pattern.trail.Accepts
          (endsWord (endsWord inWord lead) found.captured) trail
          found.rest := by
  simp only [runAt, mem_flatMap, mem_map]
  constructor
  · rintro ⟨⟨lead, afterLead⟩, foundLead, ⟨group, afterGroup⟩, foundGroup,
      ⟨trail, rest⟩, foundTrail, rfl⟩
    obtain ⟨splitLead, acceptsLead⟩ := (mem_run ..).mp foundLead
    obtain ⟨splitGroup, acceptsGroup⟩ := (mem_run ..).mp foundGroup
    obtain ⟨splitTrail, acceptsTrail⟩ := (mem_run ..).mp foundTrail
    simp only at splitGroup splitTrail
    subst splitTrail splitGroup
    refine ⟨lead, trail, ?_, rfl, ?_, acceptsGroup, acceptsTrail⟩
    · simp only [splitLead, append_assoc]
    · simpa only [append_assoc] using acceptsLead
  · rintro ⟨lead, trail, split, whole, acceptsLead, acceptsGroup, acceptsTrail⟩
    refine ⟨(lead, found.captured ++ trail ++ found.rest), ?_,
        (found.captured, trail ++ found.rest), ?_, (trail, found.rest), ?_, ?_⟩
    · exact (mem_run ..).mpr ⟨by simp only [split, whole, append_assoc], acceptsLead⟩
    · exact (mem_run ..).mpr ⟨by simp only [append_assoc], acceptsGroup⟩
    · exact (mem_run ..).mpr ⟨rfl, acceptsTrail⟩
    · cases found
      simp only at whole
      simp only [whole]

variable {inWord : Bool} {source : List UInt8} {found : Match}

/-- A match is a nonempty text at the cursor. -/
theorem source_of_mem_runAt (fits : found ∈ pattern.runAt inWord source) :
    source = found.text ++ found.rest ∧ found.rest.length < source.length := by
  obtain ⟨lead, trail, split, whole, -, -, acceptsTrail⟩ := (mem_runAt ..).mp fits
  refine ⟨split, ?_⟩
  have nonempty := length_pos_iff.mpr (pattern.consumes _ _ _ acceptsTrail)
  rw [split, whole]
  simp only [length_append]
  omega

theorem runAt_nil (inWord : Bool) : pattern.runAt inWord [] = [] := by
  rw [eq_nil_iff_forall_not_mem]
  intro found fits
  have shorter := (source_of_mem_runAt fits).2
  simp at shorter

theorem replaceFuel_eq_replaceFrom
    (fuel : Nat) (inWord : Bool) (source : List UInt8) (enough : source.length ≤ fuel) :
    pattern.replaceFuel fuel inWord source = pattern.replaceFrom inWord source := by
  induction fuel using Nat.strongRecOn generalizing inWord source with
  | ind fuel ih =>
    cases fuel with
    | zero =>
      have empty := length_eq_zero_iff.mp (Nat.le_zero.mp enough)
      rw [empty]
      rfl
    | succ fuel =>
      cases source with
      | nil =>
        simp only [replaceFuel, runAt_nil, head?_nil]
        rfl
      | cons byte rest =>
        have fits : rest.length ≤ fuel := by
          simpa using enough
        simp only [replaceFrom, length_cons, replaceFuel]
        cases first : (pattern.runAt inWord (byte :: rest)).head? with
        | none =>
          simp only
          rw [ih fuel (Nat.lt_succ_self _) _ rest fits]
          rfl
        | some found =>
          have shorter := (source_of_mem_runAt (mem_of_head? first)).2
          simp only [length_cons] at shorter
          simp only
          rw [ih fuel (Nat.lt_succ_self _) _ _ (by omega), ih rest.length (by omega) _ _ (by omega)]

variable {byte : UInt8}

/-- Without a match the byte at the cursor is copied. -/
theorem replaceFrom_copy {rest : List UInt8} (misses : pattern.runAt inWord (byte :: rest) = []) :
    pattern.replaceFrom inWord (byte :: rest) =
      byte :: pattern.replaceFrom (isWordByte byte) rest := by
  simp only [replaceFrom, length_cons, replaceFuel, misses, head?_nil]

/-- The preferred match is replaced by what its group captured. -/
theorem replaceFrom_match (first : (pattern.runAt inWord source).head? = some found) :
    pattern.replaceFrom inWord source =
      found.captured ++ pattern.replaceFrom (endsWord inWord found.text) found.rest := by
  have shorter := (source_of_mem_runAt (mem_of_head? first)).2
  cases source with
  | nil => simp at shorter
  | cons byte rest =>
    simp only [length_cons] at shorter
    rw [← replaceFuel_eq_replaceFrom rest.length _ found.rest (by omega)]
    simp only [replaceFrom, length_cons, replaceFuel, first]

/-- Where there is only one way to match, the matcher takes it. -/
theorem replaceFrom_unique
    (fits : found ∈ pattern.runAt inWord source)
    (unique : ∀ other ∈ pattern.runAt inWord source, other = found) :
    pattern.replaceFrom inWord source =
      found.captured ++ pattern.replaceFrom (endsWord inWord found.text) found.rest := by
  apply replaceFrom_match
  cases listed : pattern.runAt inWord source with
  | nil =>
    rw [listed] at fits
    cases fits
  | cons other others =>
    have same := unique other (by rw [listed]; exact mem_cons_self ..)
    rw [same, head?_cons]

/-- The pattern matches nowhere in a text. -/
def Free (pattern : Pattern) : Bool → List UInt8 → Prop
  | _, [] => True
  | inWord, byte :: rest =>
    pattern.runAt inWord (byte :: rest) = [] ∧ Free pattern (isWordByte byte) rest

/-- A text without a match is copied. -/
theorem replaceFrom_of_free (free : pattern.Free inWord source) :
    pattern.replaceFrom inWord source = source := by
  induction source generalizing inWord with
  | nil => rfl
  | cons byte rest ih => rw [replaceFrom_copy free.1, ih free.2]

/-! ## Independence of what a match cannot reach -/

/-- No class of the pattern contains the byte, and it belongs to no word. -/
def Inert (pattern : Pattern) (byte : UInt8) : Prop :=
  pattern.lead.Avoids byte ∧ pattern.group.Avoids byte ∧
    pattern.trail.Avoids byte ∧ isWordByte byte = false

theorem runAt_append (inert : pattern.Inert byte) (inWord : Bool) (source tail : List UInt8) :
    pattern.runAt inWord (source ++ byte :: tail) =
      (pattern.runAt inWord source).map fun found =>
        { found with rest := found.rest ++ byte :: tail } := by
  obtain ⟨avoidsLead, avoidsGroup, avoidsTrail, out⟩ := inert
  simp only [runAt, run_append avoidsLead out, flatMap_map, map_flatMap]
  congr 1
  funext lead
  simp only [extendRest, run_append avoidsGroup out, flatMap_map]
  congr 1
  funext group
  simp only [run_append avoidsTrail out, map_map]
  rfl

/-- The texts on both sides of an inert byte are replaced independently. -/
theorem replaceFrom_append (inert : pattern.Inert byte) (inWord : Bool) (source tail : List UInt8) :
    pattern.replaceFrom inWord (source ++ byte :: tail) =
      pattern.replaceFrom inWord source ++ byte :: pattern.replaceFrom false tail := by
  induction bound : source.length using Nat.strongRecOn generalizing inWord source with
  | ind length ih =>
    have extended := runAt_append inert inWord source tail
    cases first : (pattern.runAt inWord source).head? with
    | none =>
      have unmatched := head?_eq_none_iff.mp first
      rw [unmatched, map_nil] at extended
      cases source with
      | nil =>
        rw [nil_append] at extended ⊢
        rw [replaceFrom_copy extended, inert.2.2.2]
        rfl
      | cons head rest =>
        rw [cons_append] at extended ⊢
        rw [replaceFrom_copy extended, replaceFrom_copy unmatched,
          ih rest.length (by rw [← bound]; simp) _ _ rfl]
        rfl
    | some found =>
      have shorter := (source_of_mem_runAt (mem_of_head? first)).2
      have firstExtended :
          (pattern.runAt inWord (source ++ byte :: tail)).head? =
            some { found with rest := found.rest ++ byte :: tail } := by
        rw [extended, head?_map, first]
        rfl
      rw [replaceFrom_match firstExtended, replaceFrom_match first]
      simp only
      rw [ih found.rest.length (by omega) _ _ rfl, append_assoc]

end Pattern
end Libbinder.Go
