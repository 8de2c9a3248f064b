import Libbinder.Aidl.Normalized

/-!
# Normalized string literals

The replacement also runs over the text between quotes.  It never touches an
escape sequence: the letter it drops follows a number in the text, so it stands
for itself, and the string that the normalized literal denotes is shorter by
one byte for each match.
-/

namespace Libbinder.Aidl

open Go List Option
open Go.Scanner

/-! ## Runs over a part of a literal -/

/-- The state after a part of a quoted literal and the bytes it denotes. -/
def escapeRun (quote : UInt8) : EscapeState → List UInt8 → Option (EscapeState × List UInt8)
  | state, [] => some (state, [])
  | state, byte :: rest =>
    if state = .plain ∧ byte = quote then
      none
    else
      match escapeStep quote state byte with
      | none => none
      | some (next, denoted) =>
        (escapeRun quote next rest).map fun found =>
          (found.1, denoted ++ found.2)

theorem unquoteFrom_append (quote : UInt8) (state : EscapeState) (left right : List UInt8) :
    unquoteFrom quote state (left ++ right) =
      (escapeRun quote state left).bind fun found =>
        (unquoteFrom quote found.1 right).map (found.2 ++ ·) := by
  induction left generalizing state with
  | nil => simp [escapeRun]
  | cons byte rest ih =>
    simp only [cons_append, unquoteFrom, escapeRun]
    by_cases closing : state = .plain ∧ byte = quote
    · simp only [if_pos closing, bind_none]
    · simp only [if_neg closing]
      cases ran : escapeStep quote state byte with
      | none => rfl
      | some next =>
        simp only [ih]
        cases escapeRun quote next.1 rest with
        | none => rfl
        | some found =>
          simp only [bind_some, map_some]
          cases unquoteFrom quote found.1 right with
          | none => rfl
          | some denoted => simp

variable {state : EscapeState} {quote : UInt8} {denoted : List UInt8}
  {byte : UInt8} {rest : List UInt8}

theorem unquoteFrom_cons (whole : unquoteFrom quote state (byte :: rest) = some denoted) :
    ¬ (state = .plain ∧ byte = quote) ∧
      ∃ next tail, escapeStep quote state byte = some next ∧
        unquoteFrom quote next.1 rest = some tail ∧
        next.2 ++ tail = denoted := by
  simp only [unquoteFrom] at whole
  split_ifs at whole with closing
  split at whole
  · cases whole
  · next after own ran =>
      obtain ⟨tail, tailComplete, same⟩ := map_eq_some_iff.mp whole
      exact ⟨closing, (after, own), tail, ran, tailComplete, same⟩

variable {last : EscapeState × List UInt8}

theorem escapeRun_cons (ran : escapeRun quote state (byte :: rest) = some last) :
    ∃ next found, escapeStep quote state byte = some next ∧
      escapeRun quote next.1 rest = some found ∧ found.1 = last.1 := by
  simp only [escapeRun] at ran
  split_ifs at ran with closing
  split at ran
  · cases ran
  · next after own moved =>
      obtain ⟨found, tail, rfl⟩ := map_eq_some_iff.mp ran
      exact ⟨(after, own), found, moved, tail, rfl⟩

variable {body : List UInt8}

/-- The scanner reads a complete body up to the closing quote. -/
theorem scanQuoted_of_unquoteFrom
    (whole : unquoteFrom quote state body = some denoted) (rest : List UInt8) :
    scanQuoted quote state (body ++ quote :: rest) = some (body, rest) := by
  induction body generalizing state denoted with
  | nil => cases state <;> simp_all [unquoteFrom, scanQuoted]
  | cons byte others ih =>
    obtain ⟨closing, next, tail, ran, tailComplete, -⟩ := unquoteFrom_cons whole
    simp only [cons_append, scanQuoted, if_neg closing, ran, ih tailComplete, map_some]

/-! ## What the state says about the byte before the cursor -/

/--
The state agrees with the flag of the pattern matcher: a backslash belongs to
no word, and the digits of a numeric escape do.
-/
def Coherent (inWord : Bool) : EscapeState → Prop
  | .plain => True
  | .escape => inWord = false
  | .digits _ base _ _ _ => inWord ∧ base ≤ 16

theorem digitVal_word : ∀ {byte : UInt8}, digitVal byte < 16 → isWordByte byte := by
  decide

variable {next : EscapeState × List UInt8}

theorem escapeDigit_next
    {left base limit value : Nat} {asByte : Bool}
    (ran : escapeDigit left base limit value asByte byte = some next) :
    digitVal byte < base ∧
      (next.1 = .plain ∨ ∃ left value, next.1 = .digits left base limit value asByte) := by
  unfold escapeDigit at ran
  by_cases large : base ≤ digitVal byte
  · simp [if_pos large] at ran
  · rw [if_neg large] at ran
    refine ⟨Nat.lt_of_not_le large, ?_⟩
    match left with
    | 0 => simp at ran
    | 1 =>
      simp only at ran
      split_ifs at ran <;>
        (rw [← some.inj ran]
         exact .inl rfl)
    | more + 2 =>
      rw [← some.inj ran]
      exact .inr ⟨_, _, rfl⟩

variable {inWord : Bool}

/-- The state is outside escapes or inside an octal one. -/
def Octal : EscapeState → Prop
  | .plain => True
  | .escape => False
  | .digits _ base _ _ _ => base = 8

theorem Octal.step
    (octal : Octal state) (notBackslash : byte ≠ '\\')
    (ran : escapeStep quote state byte = some next) : Octal next.1 := by
  cases state with
  | plain =>
    simp only [escapeStep, if_neg notBackslash] at ran
    split_ifs at ran
    rw [← some.inj ran]
    trivial
  | escape => exact octal.elim
  | digits left base limit value asByte =>
    obtain ⟨-, plain | ⟨more, sum, digits⟩⟩ := escapeDigit_next ran
    · rw [plain]
      trivial
    · rwa [digits]

/-- Without a backslash no new escape starts. -/
theorem Octal.run
    {text : List UInt8} (noBackslash : ∀ byte ∈ text, byte ≠ '\\') (octal : Octal state)
    (ran : escapeRun quote state text = some last) : Octal last.1 := by
  induction text generalizing state last with
  | nil =>
    rwa [← some.inj ran]
  | cons byte rest ih =>
    obtain ⟨next, found, moved, tail, same⟩ := escapeRun_cons ran
    obtain ⟨first, others⟩ := forall_mem_cons.mp noBackslash
    rw [← same]
    exact ih others (octal.step first moved) tail

theorem IsNumber.ne_backslash {text : List UInt8} (number : IsNumber text) :
    ∀ byte ∈ text, byte ≠ '\\' := by
  have apart : ∀ byte : UInt8, isWordByte byte ∨ isFloatByte byte → byte ≠ '\\' := by
    rintro byte (word | float) rfl
    · exact absurd word (by decide)
    · exact absurd float (by decide)
  intro byte inText
  rcases number with ⟨mantissa, power, rfl, isMantissa, isExponent⟩ | hexadecimal
  · rcases mem_append.mp inText with inMantissa | inExponent
    · rcases isMantissa.floatBytes byte inMantissa with decimal | rfl
      · exact apart byte (.inl (isWordByte_of_isDecimal decimal))
      · decide
    · exact apart byte (.inr (isExponent.floatBytes byte inExponent))
  · exact apart byte (.inl (hexadecimal.words byte inText))

/-- A match that starts at a backslash escape starts an octal one. -/
theorem octal_first
    {first : UInt8} (notBackslash : first ≠ '\\') (digit : isDecimal first)
    (notQuote : first ≠ quote) (noBackslash : ∀ byte ∈ rest, byte ≠ '\\')
    (ran : escapeRun quote .escape (first :: rest) = some last) : Octal last.1 := by
  obtain ⟨others, letters⟩ :=
    (by decide : ∀ byte, isDecimal byte →
      (byte ≠ 'a' ∧ byte ≠ 'b' ∧ byte ≠ 'f' ∧ byte ≠ 'n' ∧ byte ≠ 'r' ∧ byte ≠ 't' ∧ byte ≠ 'v') ∧
      byte ≠ 'x' ∧ byte ≠ 'u' ∧ byte ≠ 'U')
      first digit
  have notSimple : simpleEscape quote first = none := by
    simp [simpleEscape, others, notBackslash, notQuote]
  obtain ⟨next, found, moved, tail, same⟩ := escapeRun_cons ran
  simp only [escapeStep, notSimple, letters.1, letters.2.1, letters.2.2, if_false] at moved
  split_ifs at moved with octal
  have octalNext := @Octal.step (.digits 3 8 255 0 true) quote first next rfl notBackslash moved
  rw [← same]
  exact .run noBackslash octalNext tail

variable (agrees : Coherent inWord state)

include agrees

theorem Coherent.step (ran : escapeStep quote state byte = some next) :
    Coherent (isWordByte byte) next.1 := by
  have numeric :
      ∀ {left base limit value : Nat} {asByte : Bool}, base ≤ 16 →
        escapeDigit left base limit value asByte byte = some next →
        Coherent (isWordByte byte) next.1 := by
    intro left base limit value asByte small digitStep
    obtain ⟨digit, plain | ⟨more, sum, digits⟩⟩ := escapeDigit_next digitStep
    · rw [plain]
      trivial
    · rw [digits]
      exact ⟨digitVal_word (by omega), small⟩
  cases state with
  | plain =>
    simp only [escapeStep] at ran
    split_ifs at ran with newline backslash
    · rw [← some.inj ran, backslash]
      exact (by decide : isWordByte '\\' = false)
    · rw [← some.inj ran]
      trivial
  | escape =>
    simp only [escapeStep] at ran
    split at ran
    · cases ran
      trivial
    · split_ifs at ran with octal mark mark mark
      · exact numeric (by omega) ran
      all_goals
        rw [← some.inj ran, mark]
        exact ⟨by decide, Nat.le_refl _⟩
  | digits left base limit value asByte => exact numeric agrees.2 ran

/-! ## Matches inside a literal -/

/-- The suffix of a match stands outside every escape sequence. -/
theorem plain_at_suffix
    {found : Match} (fits : found ∈ numericLiteralSuffixRE.runAt inWord body)
    (full : unquoteFrom '"' state body = some denoted) :
    ∃ suffix front back,
      found.text = found.captured ++ [suffix] ∧
      escapeRun '"' state found.captured = some (.plain, front) ∧
      unquoteFrom '"' .plain found.rest = some back ∧
      denoted = front ++ suffix :: back := by
  obtain ⟨suffix, split, whole, isSuffix, boundary, -, number⟩ := (mem_runAt_suffix ..).mp fits
  have notBackslash := number.ne_backslash
  rw [split, whole, append_assoc, unquoteFrom_append] at full
  obtain ⟨⟨last, front⟩, ran, tail⟩ := bind_eq_some_iff.mp full
  obtain ⟨back, tailComplete, rfl⟩ := map_eq_some_iff.mp tail
  obtain ⟨first, rest, shape, starts⟩ := number.head
  have octal : Octal last := by
    cases state with
    | plain =>
      have out : Octal .plain := trivial
      exact .run notBackslash out ran
    | escape =>
      have out : inWord = false := agrees
      have word : isWordByte first := by
        rw [split, whole, shape, out] at boundary
        exact Bool.eq_false_or_eq_true _ |>.resolve_right fun notWord => boundary notWord.symm
      have digit : isDecimal first := by
        rcases starts with digit | ⟨point, -⟩
        · exact digit
        · rw [point] at word
          exact absurd word (by decide)
      rw [shape] at ran notBackslash
      have notQuote : first ≠ '"' := by
        rintro rfl
        exact absurd digit (by decide)
      obtain ⟨own, others⟩ := forall_mem_cons.mp notBackslash
      exact octal_first own digit notQuote others ran
    | digits left base limit value asByte =>
      exfalso
      have notWord : isWordByte first = false := by
        rw [split, whole, shape, agrees.1] at boundary
        exact Bool.eq_false_or_eq_true _ |>.resolve_left fun word => boundary word.symm
      have point : first = '.' := by
        rcases starts with digit | ⟨point, -⟩
        · rw [isWordByte_of_isDecimal digit] at notWord
          cases notWord
        · exact point
      rw [shape, point] at ran
      have stuck : escapeDigit left base limit value asByte '.' = none := by
        have large : base ≤ digitVal '.' := Nat.le_trans agrees.2 (by decide)
        simp [escapeDigit, large]
      simp [escapeRun, escapeStep, stuck] at ran
  have notQuote : suffix ≠ '"' := by
    rintro rfl
    exact absurd isSuffix (by decide)
  have isPlain : last = .plain := by
    cases last with
    | plain => rfl
    | escape => exact octal.elim
    | digits left base limit value asByte =>
      exfalso
      have isOctal : base = 8 := octal
      have large : base ≤ digitVal suffix := by
        rw [isOctal]
        exact (by decide : ∀ byte, isSuffixByte byte → 8 ≤ digitVal byte) suffix isSuffix
      simp [unquoteFrom, escapeStep, escapeDigit, large] at tailComplete
  rw [isPlain] at ran tailComplete
  have ownByte : escapeStep '"' .plain suffix = some (.plain, [suffix]) := by
    have apart :=
      (by decide : ∀ byte, isSuffixByte byte → byte ≠ '\n' ∧ byte ≠ '\\') suffix isSuffix
    simp [escapeStep, apart]
  simp only [singleton_append, unquoteFrom, notQuote, and_false, if_false, ownByte] at tailComplete
  obtain ⟨after, restComplete, rfl⟩ := map_eq_some_iff.mp tailComplete
  exact ⟨suffix, front, after, whole, ran, restComplete, rfl⟩

/--
The replacement keeps the escape sequences of a literal, and it shortens the
string that the literal denotes where the pattern matches.
-/
theorem unquoteFrom_replaceFrom (full : unquoteFrom '"' state body = some denoted) :
    ∃ kept,
      unquoteFrom '"' state
          (numericLiteralSuffixRE.replaceFrom inWord body) = some kept ∧
      ((numericLiteralSuffixRE.Free inWord body ∧ kept = denoted) ∨
        (¬ numericLiteralSuffixRE.Free inWord body ∧ kept.length < denoted.length)) := by
  induction bound : body.length using Nat.strongRecOn generalizing inWord state body denoted with
  | ind length ih =>
    cases first : (numericLiteralSuffixRE.runAt inWord body).head? with
    | none =>
      have unmatched := List.head?_eq_none_iff.mp first
      cases body with
      | nil => exact ⟨denoted, full, .inl ⟨trivial, rfl⟩⟩
      | cons byte rest =>
        obtain ⟨closing, next, tail, moved, tailComplete, rfl⟩ := unquoteFrom_cons full
        obtain ⟨kept, keptComplete, outcome⟩ :=
          ih rest.length (by rw [← bound]; simp) (agrees.step moved) tailComplete rfl
        refine ⟨next.2 ++ kept, ?_, ?_⟩
        · rw [Pattern.replaceFrom_copy unmatched]
          simp only [unquoteFrom, if_neg closing, moved, keptComplete, map_some]
        · rcases outcome with ⟨free, same⟩ | ⟨notFree, less⟩
          · exact .inl ⟨⟨unmatched, free⟩, by rw [same]⟩
          · refine .inr ⟨fun free => notFree free.2, ?_⟩
            simp only [length_append]
            omega
    | some found =>
      have matched := mem_of_head? first
      obtain ⟨suffix, front, back, whole, ran, backComplete, rfl⟩ :=
        plain_at_suffix agrees matched full
      have shorterRest := (Pattern.source_of_mem_runAt matched).2
      obtain ⟨kept, keptComplete, outcome⟩ :=
        ih found.rest.length (by omega)
          (show Coherent (endsWord inWord found.text) .plain from
            trivial)
          backComplete rfl
      refine ⟨front ++ kept, ?_, .inr ⟨?_, ?_⟩⟩
      · rw [Pattern.replaceFrom_match first, unquoteFrom_append, ran]
        simp only [bind_some, keptComplete, map_some]
      · intro free
        cases body with
        | nil => simp [Pattern.runAt_nil] at first
        | cons byte rest =>
          rw [free.1] at first
          simp at first
      · have fits : kept.length ≤ back.length := by
          rcases outcome with ⟨-, same⟩ | ⟨-, less⟩
          · rw [same]
          · omega
        simp only [length_append, length_cons]
        omega

/-! ## The tilde -/

/-- A tilde stands for itself and is replaced. -/
theorem unquoteFrom_map_caret (whole : unquoteFrom '"'.toUInt8 state body = some denoted) :
    ∃ replaced,
      unquoteFrom '"'.toUInt8 state (body.map caret) = some replaced ∧
      replaced.length = denoted.length ∧
      (replaced = denoted ↔ '~'.toUInt8 ∉ body) := by
  induction body generalizing inWord state denoted with
  | nil => exact ⟨denoted, whole, rfl, by simp⟩
  | cons byte rest ih =>
    obtain ⟨closing, next, tail, ran, tailComplete, rfl⟩ := unquoteFrom_cons whole
    obtain ⟨replaced, replacedComplete, sameLength, same⟩ := ih (agrees.step ran) tailComplete
    by_cases tilde : byte = '~'.toUInt8
    · subst tilde
      obtain rfl : state = .plain := by
        cases state with
        | plain => rfl
        | escape => cases ran
        | digits left base limit value asByte =>
          have digit := (escapeDigit_next ran).1
          have large : 16 ≤ digitVal '~'.toUInt8 := by decide
          have small := agrees.2
          omega
      cases ran
      refine ⟨'^'.toUInt8 :: replaced, ?_, ?_, ?_⟩
      · have own : escapeStep '"'.toUInt8 .plain '^'.toUInt8 = some (.plain, ['^'.toUInt8]) := by
          decide
        have notQuote : '^'.toUInt8 ≠ '"'.toUInt8 := by decide
        simp only [map_cons, caret, if_true, unquoteFrom, notQuote, and_false, if_false, own,
          replacedComplete, map_some, singleton_append]
      · simp [sameLength]
      · constructor
        · intro equal
          simp only [singleton_append, List.cons.injEq] at equal
          exact absurd equal.1 (by decide)
        · intro absent
          exact absurd (mem_cons_self ..) absent
    · refine ⟨next.2 ++ replaced, ?_, ?_, ?_⟩
      · simp only [map_cons, caret, if_neg tilde, unquoteFrom, if_neg closing, ran]
        rw [replacedComplete]
        rfl
      · simp [sameLength]
      · rw [append_cancel_left_eq, same, mem_cons, not_or]
        exact ⟨fun absent => ⟨fun equal => tilde equal.symm, absent⟩, And.right⟩

omit agrees

/-! ## String literals -/

/-- The text of the literal holds nothing that `Normalize` replaces. -/
def StringLiteral.Untouched (literal : StringLiteral) : Prop :=
  '~'.toUInt8 ∉ literal.body ∧ numericLiteralSuffixRE.Free false literal.body

/-- A normalized literal is complete, and it denotes the same when untouched. -/
theorem StringLiteral.unquote_kept (literal : StringLiteral) :
    ∃ value,
      unquoteFrom '"' .plain literal.kept = some value ∧
      (value = literal.contents ↔ literal.Untouched) := by
  have agrees : Coherent false .plain := trivial
  have whole : unquoteFrom '"' .plain literal.body = some literal.contents := by
    rw [StringLiteral.contents, some_get]
  obtain ⟨replaced, replacedComplete, sameLength, same⟩ := unquoteFrom_map_caret agrees whole
  obtain ⟨value, valueComplete, outcome⟩ := unquoteFrom_replaceFrom agrees replacedComplete
  refine ⟨value, valueComplete, ?_⟩
  have unchanged : '~'.toUInt8 ∉ literal.body → literal.body.map caret = literal.body := by
    intro absent
    apply map_caret
    rintro byte inBody rfl
    exact absent inBody
  constructor
  · intro equal
    rcases outcome with ⟨free, sameValue⟩ | ⟨-, less⟩
    · have absent := same.mp (sameValue.symm.trans equal)
      rw [unchanged absent] at free
      exact ⟨absent, free⟩
    · rw [equal] at less
      omega
  · rintro ⟨absent, free⟩
    rcases outcome with ⟨-, sameValue⟩ | ⟨notFree, -⟩
    · exact sameValue.trans (same.mpr absent)
    · rw [unchanged absent] at notFree
      exact absurd free notFree

end Libbinder.Aidl
