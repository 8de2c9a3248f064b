import Libbinder.Go.Regex
import Libbinder.Go.Utf8
import Mathlib.Data.List.TakeWhile

/-!
# The Go scanner

`go/scanner` as `go/parser.ParseExpr` drives it: numbers, identifiers and
keywords, character and string literals, operators by longest match, comments
and the automatic semicolon.  An absent result stands for a reported error,
which makes the whole parse fail.

Letters beyond ASCII outside literals are refused, so that no Unicode table is
needed.
-/

namespace Libbinder.Go

open List Utf8

/-! ## Byte classes -/

/-- The decimal digits. -/
def isDecimal (byte : UInt8) : Bool :=
  '0' ≤ byte && byte ≤ '9'

/-- The hexadecimal digits. -/
def isHex (byte : UInt8) : Bool :=
  isDecimal byte || ('a' ≤ byte && byte ≤ 'f') || ('A' ≤ byte && byte ≤ 'F')

/-- The ASCII letters of `isLetter`. -/
def isLetter (byte : UInt8) : Bool :=
  ('a' ≤ byte && byte ≤ 'z') || ('A' ≤ byte && byte ≤ 'Z') || byte == '_'

/-- `lower`, which sets the bit of lower-case letters. -/
def lower (byte : UInt8) : UInt8 :=
  byte ||| 0x20

/-- `digitVal`: the value of a digit, 16 for another byte. -/
def digitVal (byte : UInt8) : Nat :=
  if isDecimal byte then
    byte.toNat - '0'.toNat
  else if isHex byte then
    (lower byte).toNat - 'a'.toNat + 10
  else
    16

namespace Scanner

/-! ## Tokens -/

/-- The kinds of basic literals. -/
inductive LiteralKind where
  | int
  | float
  | imag
  | char
  | string
  deriving DecidableEq, Repr

/-- Operators and delimiters. -/
inductive Operator where
  | add | sub | mul | quo | rem
  | and | or | xor | shl | shr | andNot
  | addAssign | subAssign | mulAssign | quoAssign | remAssign
  | andAssign | orAssign | xorAssign | shlAssign | shrAssign | andNotAssign
  | land | lor | arrow | inc | dec
  | eql | lss | gtr | assign | not | tilde
  | neq | leq | geq | define | ellipsis
  | lparen | lbrack | lbrace | comma | period
  | rparen | rbrack | rbrace | semicolon | colon
  deriving DecidableEq, Repr

/-- Tokens; `newline` is the automatic semicolon. -/
inductive Token where
  | ident (name : List UInt8)
  | keyword (name : List UInt8)
  | literal (kind : LiteralKind) (text : List UInt8)
  | operator (sign : Operator)
  | newline
  deriving DecidableEq, Repr

/-- The keywords after which a line may end a statement. -/
def statementKeywords : List String :=
  ["break", "continue", "fallthrough", "return"]

/-- The other keywords. -/
def plainKeywords : List String :=
  ["case", "chan", "const", "default", "defer", "else", "for", "func", "go",
    "goto", "if", "import", "interface", "map", "package", "range", "select",
    "struct", "switch", "type", "var"]

/-- The bytes of a source string. -/
def bytesOf (text : String) : List UInt8 :=
  text.toList.map Char.toUInt8

/-- `token.IsKeyword`. -/
def isKeyword (name : List UInt8) : Bool :=
  (statementKeywords ++ plainKeywords).any fun keyword =>
    bytesOf keyword == name

/-- Whether a newline after the token becomes a semicolon. -/
def Token.insertSemi : Token → Bool
  | .ident _ => true
  | .keyword name => statementKeywords.any fun keyword => bytesOf keyword == name
  | .literal _ _ => true
  | .operator sign =>
    sign == .inc || sign == .dec || sign == .rparen || sign == .rbrack || sign == .rbrace
  | .newline => false

/-- Whether the next byte is the given one. -/
def nextIs (byte : UInt8) (rest : List UInt8) : Bool :=
  rest.head? == some byte

/-! ## Identifiers -/

/-- The bytes an identifier goes on with. -/
def isIdentifierByte (byte : UInt8) : Bool :=
  isLetter byte || isDecimal byte

/-- The letters and digits at the front of a text, and what follows. -/
def scanIdentifier (source : List UInt8) : List UInt8 × List UInt8 :=
  (source.takeWhile isIdentifierByte, source.dropWhile isIdentifierByte)

/-- An identifier or a keyword. -/
def lookup (name : List UInt8) : Token :=
  if isKeyword name then .keyword name else .ident name

/-! ## Numbers -/

/-- The base prefix of a number. -/
inductive NumberPrefix where
  | decimal
  | leadingZero
  | hexadecimal
  | octal
  | binary
  deriving DecidableEq, Repr

/-- The base in which the digits after a prefix are read. -/
def NumberPrefix.base : NumberPrefix → Nat
  | .decimal => 10
  | .leadingZero => 8
  | .hexadecimal => 16
  | .octal => 8
  | .binary => 2

/-- The base prefix at the front of a number, and what follows. -/
def scanPrefix : List UInt8 → NumberPrefix × List UInt8
  | [] => (.decimal, [])
  | first :: rest =>
    if first = '0' then
      match rest with
      | [] => (.leadingZero, [])
      | mark :: tail =>
        if lower mark = 'x' then
          (.hexadecimal, tail)
        else if lower mark = 'o' then
          (.octal, tail)
        else if lower mark = 'b' then
          (.binary, tail)
        else
          (.leadingZero, mark :: tail)
    else
      (.decimal, first :: rest)

/-- A byte that `digits` accepts in a base. -/
def isDigitOf (base : Nat) (byte : UInt8) : Bool :=
  (if base ≤ 10 then isDecimal byte else isHex byte) || byte == '_'

/-- `digits`: a run of digits and separators, and what follows. -/
def scanDigits (base : Nat) (source : List UInt8) : List UInt8 × List UInt8 :=
  (source.takeWhile (isDigitOf base), source.dropWhile (isDigitOf base))

/-- Whether a run of digits and separators holds a digit. -/
def hasDigit (digits : List UInt8) : Bool :=
  digits.any fun byte => byte != '_'

/-- The text after an optional sign. -/
def skipSign (source : List UInt8) : List UInt8 :=
  if nextIs '+' source || nextIs '-' source then
    source.tail
  else
    source

/-- The exponent of a number: absent, malformed or a run of digits. -/
def scanExponent (numberPrefix : NumberPrefix) (source : List UInt8) : Option (Bool × List UInt8) :=
  match source with
  | [] => some (false, [])
  | mark :: rest =>
    if lower mark = 'e' ∨ lower mark = 'p' then
      if lower mark = 'e' ∧ numberPrefix ≠ .decimal ∧ numberPrefix ≠ .leadingZero then
        none
      else if lower mark = 'p' ∧ numberPrefix ≠ .hexadecimal then
        none
      else
        let digits := scanDigits 10 (skipSign rest)
        if hasDigit digits.1 then some (true, digits.2) else none
    else
      some (false, mark :: rest)

/--
`invalidSep`, from the class of the last byte read: whether each separator
stands between digits.
-/
def separatorsValid (hexadecimal : Bool) : (afterDigit afterSeparator : Bool) → List UInt8 → Bool
  | _, afterSeparator, [] => !afterSeparator
  | afterDigit, afterSeparator, byte :: rest =>
    if byte = '_' then
      afterDigit && separatorsValid hexadecimal false true rest
    else if isDecimal byte || (hexadecimal && isHex byte) then
      separatorsValid hexadecimal true false rest
    else
      !afterSeparator && separatorsValid hexadecimal false false rest

/-- `invalidSep`: a base prefix counts as a digit. -/
def validSeparators (text : List UInt8) : Bool :=
  match scanPrefix text with
  | (.hexadecimal, rest) => separatorsValid true true false rest
  | (.octal, rest) => separatorsValid false true false rest
  | (.binary, rest) => separatorsValid false true false rest
  | _ => separatorsValid false false false text

/-- The text between a cursor and a later one. -/
def consumed (source rest : List UInt8) : List UInt8 :=
  source.take (source.length - rest.length)

/-- The kind of a number, its digits before a point, and what follows. -/
structure Mantissa where
  numberPrefix : NumberPrefix
  whole : List UInt8
  /-- The digits after the radix point, when there is one. -/
  fraction : Option (List UInt8)
  rest : List UInt8

/-- The fractional part of a number, after the digits before it. -/
def scanFraction (numberPrefix : NumberPrefix)
    (whole : List UInt8 × List UInt8) : Mantissa :=
  if nextIs '.' whole.2 then
    let fraction := scanDigits numberPrefix.base whole.2.tail
    ⟨numberPrefix, whole.1, some fraction.1, fraction.2⟩
  else
    ⟨numberPrefix, whole.1, none, whole.2⟩

/-- The integer and the fractional part of a number. -/
def scanMantissa (source : List UInt8) : Mantissa :=
  if nextIs '.' source then
    scanFraction .decimal ([], source)
  else
    let start := scanPrefix source
    scanFraction start.1 (scanDigits start.1.base start.2)

/-- Whether a digit run holds a digit that its base does not have. -/
def hasInvalidDigit (base : Nat) (digits : List UInt8) : Bool :=
  decide (base ≤ 10) &&
    digits.any fun byte =>
      isDecimal byte && decide (base ≤ byte.toNat - '0'.toNat)

/-- `scanNumber`: the kind of the literal and what follows it. -/
def scanNumber (source : List UInt8) : Option (LiteralKind × List UInt8) :=
  let mantissa := scanMantissa source
  let radix := mantissa.numberPrefix
  let pointed := mantissa.fraction.isSome
  if pointed ∧ (radix = .octal ∨ radix = .binary) then
    none
  else if ¬ (radix = .leadingZero ∨ hasDigit mantissa.whole ∨
      hasDigit (mantissa.fraction.getD [])) then
    none
  else
    match scanExponent radix mantissa.rest with
    | none => none
    | some (hasExponent, rest) =>
      if radix = .hexadecimal ∧ pointed ∧ ¬ hasExponent then
        none
      else
        let imaginary := rest.head? = some 'i'.toUInt8
        let after := if imaginary then rest.tail else rest
        let kind : LiteralKind :=
          if imaginary then .imag
          else if pointed ∨ hasExponent then .float
          else .int
        let text := consumed source after
        if kind = .int ∧ hasInvalidDigit radix.base mantissa.whole then
          none
        else if text.contains '_' ∧ ¬ validSeparators text then
          none
        else
          some (kind, after)

/-! ## Quoted literals -/

/-- How far the reader of a quoted literal is inside an escape sequence. -/
inductive EscapeState where
  | plain
  /-- After the backslash. -/
  | escape
  /-- Inside a numeric escape, with the digits still to come. -/
  | digits (left base limit value : Nat) (asByte : Bool)
  deriving DecidableEq, Repr

/-- The byte of a one-letter escape. -/
def simpleEscape (quote byte : UInt8) : Option UInt8 :=
  if byte = 'a' then some 7
  else if byte = 'b' then some 8
  else if byte = 'f' then some 12
  else if byte = 'n' then some 10
  else if byte = 'r' then some 13
  else if byte = 't' then some 9
  else if byte = 'v' then some 11
  else if byte = '\\' then some byte
  else if byte = quote then some byte
  else none

/-- One digit of a numeric escape. -/
def escapeDigit (left base limit value : Nat) (asByte : Bool)
    (byte : UInt8) : Option (EscapeState × List UInt8) :=
  if base ≤ digitVal byte then
    none
  else
    let next := value * base + digitVal byte
    match left with
    | 0 => none
    | 1 =>
      if limit < next ∨ (0xD800 ≤ next ∧ next < 0xE000) then
        none
      else if asByte then
        some (.plain, [UInt8.ofNat next])
      else
        some (.plain, encodeRune next)
    | more + 2 => some (.digits (more + 1) base limit next asByte, [])

/--
One byte of a quoted literal, as `scanEscape` and `strconv.Unquote` read it:
the next state and the bytes that the literal denotes.
-/
def escapeStep (quote : UInt8) (state : EscapeState) (byte : UInt8) :
    Option (EscapeState × List UInt8) :=
  match state with
  | .plain =>
    if byte = '\n' then none
    else if byte = '\\' then some (.escape, [])
    else some (.plain, [byte])
  | .escape =>
    match simpleEscape quote byte with
    | some denoted => some (.plain, [denoted])
    | none =>
      if '0' ≤ byte ∧ byte ≤ '7' then
        escapeDigit 3 8 255 0 true byte
      else if byte = 'x' then
        some (.digits 2 16 255 0 true, [])
      else if byte = 'u' then
        some (.digits 4 16 0x10FFFF 0 false, [])
      else if byte = 'U' then
        some (.digits 8 16 0x10FFFF 0 false, [])
      else
        none
  | .digits left base limit value asByte => escapeDigit left base limit value asByte byte

/-- The body of a quoted literal up to its closing quote, and what follows. -/
def scanQuoted (quote : UInt8) : EscapeState → List UInt8 → Option (List UInt8 × List UInt8)
  | _, [] => none
  | state, byte :: rest =>
    if state = .plain ∧ byte = quote then
      some ([], rest)
    else
      match escapeStep quote state byte with
      | none => none
      | some (next, _) =>
        (scanQuoted quote next rest).map fun found =>
          (byte :: found.1, found.2)

/-- `strconv.Unquote` on the text between the quotes. -/
def unquoteFrom (quote : UInt8) : EscapeState → List UInt8 → Option (List UInt8)
  | .plain, [] => some []
  | _, [] => none
  | state, byte :: rest =>
    if state = .plain ∧ byte = quote then
      none
    else
      match escapeStep quote state byte with
      | none => none
      | some (next, denoted) => (unquoteFrom quote next rest).map (denoted ++ ·)

/-- The number of runes and escapes that start in the body of a literal. -/
def countChars (quote : UInt8) : EscapeState → List UInt8 → Nat
  | _, [] => 0
  | state, byte :: rest =>
    match escapeStep quote state byte with
    | none => 0
    | some (next, _) =>
      (if state = .plain ∧ byte &&& 0xC0 ≠ 0x80 then 1 else 0) + countChars quote next rest

/-! ## Operators -/

/-- `switch2`: an operator with an assignment form. -/
def switch2 (single assigned : Operator) (rest : List UInt8) : Operator × List UInt8 :=
  if nextIs '=' rest then (assigned, rest.tail) else (single, rest)

/-- `switch3`: an operator with an assignment form and a longer one. -/
def switch3 (single assigned : Operator) (second : UInt8)
    (double : Operator) (rest : List UInt8) : Operator × List UInt8 :=
  if nextIs '=' rest then (assigned, rest.tail)
  else if nextIs second rest then (double, rest.tail)
  else (single, rest)

/-- `switch4`: the shift operators and the comparisons. -/
def switch4 (single assigned : Operator) (second : UInt8)
    (double doubleAssigned : Operator) (rest : List UInt8) : Operator × List UInt8 :=
  if nextIs '=' rest then (assigned, rest.tail)
  else if nextIs second rest then switch2 double doubleAssigned rest.tail
  else (single, rest)

/-- The operator that starts with a byte, and what follows it. -/
def scanOperator (byte : UInt8) (rest : List UInt8) : Option (Operator × List UInt8) :=
  if byte = ':' then some (switch2 .colon .define rest)
  else if byte = '.' then
    if nextIs '.' rest && nextIs '.' rest.tail then
      some (.ellipsis, rest.tail.tail)
    else
      some (.period, rest)
  else if byte = ',' then some (.comma, rest)
  else if byte = ';' then some (.semicolon, rest)
  else if byte = '(' then some (.lparen, rest)
  else if byte = ')' then some (.rparen, rest)
  else if byte = '[' then some (.lbrack, rest)
  else if byte = ']' then some (.rbrack, rest)
  else if byte = 0x7B then some (.lbrace, rest)
  else if byte = 0x7D then some (.rbrace, rest)
  else if byte = '+' then
    some (switch3 .add .addAssign '+' .inc rest)
  else if byte = '-' then
    some (switch3 .sub .subAssign '-' .dec rest)
  else if byte = '*' then some (switch2 .mul .mulAssign rest)
  else if byte = '/' then some (switch2 .quo .quoAssign rest)
  else if byte = '%' then some (switch2 .rem .remAssign rest)
  else if byte = '^' then some (switch2 .xor .xorAssign rest)
  else if byte = '<' then
    if nextIs '-' rest then some (.arrow, rest.tail)
    else some (switch4 .lss .leq '<' .shl .shlAssign rest)
  else if byte = '>' then
    some (switch4 .gtr .geq '>' .shr .shrAssign rest)
  else if byte = '=' then some (switch2 .assign .eql rest)
  else if byte = '!' then some (switch2 .not .neq rest)
  else if byte = '&' then
    if nextIs '^' rest then
      some (switch2 .andNot .andNotAssign rest.tail)
    else
      some (switch3 .and .andAssign '&' .land rest)
  else if byte = '|' then
    some (switch3 .or .orAssign '|' .lor rest)
  else if byte = '~' then some (.tilde, rest)
  else none

/-! ## Scanning -/

/-- One token at the front of a text that starts with no blank. -/
def scanToken (byte : UInt8) (rest : List UInt8) : Option (Token × List UInt8) :=
  let source := byte :: rest
  if isLetter byte then
    let found := scanIdentifier source
    some (lookup found.1, found.2)
  else if isDecimal byte ||
      (byte == '.' && (rest.head?.map isDecimal).getD false) then
    (scanNumber source).map fun found =>
      (.literal found.1 (consumed source found.2), found.2)
  else if byte = '"' then
    (scanQuoted byte .plain rest).map fun found =>
      (.literal .string (byte :: found.1 ++ [byte]), found.2)
  else if byte = '\'' then
    match scanQuoted byte .plain rest with
    | none => none
    | some (body, after) =>
      if countChars byte .plain body = 1 then
        some (.literal .char (byte :: body ++ [byte]), after)
      else
        none
  else if byte = 0x60 then
    match rest.dropWhile fun inner => inner != byte with
    | [] => none
    | _ :: after =>
      some (.literal .string (byte :: rest.takeWhile (fun inner => inner != byte) ++ [byte]), after)
  else
    (scanOperator byte rest).map fun found => (.operator found.1, found.2)

/-- The rest of a general comment, and whether it held a newline. -/
def skipComment (newline : Bool) : List UInt8 → Option (Bool × List UInt8)
  | [] => none
  | byte :: rest =>
    if byte = '*' ∧ nextIs '/' rest then
      some (newline, rest.tail)
    else
      skipComment (newline || byte == '\n') rest

/--
The tokens of a text.  `semi` says whether a newline becomes a semicolon, and
the end of the text counts as a newline.
-/
def scanFuel : Nat → Bool → List UInt8 → Option (List Token)
  | 0, _, _ => none
  | _ + 1, semi, [] => some (if semi then [.newline] else [])
  | fuel + 1, semi, byte :: rest =>
    if byte = ' ' ∨ byte = '\t' ∨ byte = '\r' then
      scanFuel fuel semi rest
    else if byte = '\n' then
      (scanFuel fuel false rest).map fun tokens =>
        if semi then .newline :: tokens else tokens
    else if byte = '/' ∧ nextIs '/' rest then
      scanFuel fuel semi (rest.dropWhile fun inner => inner != '\n')
    else if byte = '/' ∧ nextIs '*' rest then
      match skipComment false rest.tail with
      | none => none
      | some (newline, after) =>
        (scanFuel fuel (semi && !newline) after).map fun tokens =>
          if semi && newline then .newline :: tokens else tokens
    else
      match scanToken byte rest with
      | none => none
      | some (token, after) => (scanFuel fuel token.insertSemi after).map (token :: ·)

/-- The tokens of a text after a token that may or may not end a statement. -/
def scanFrom (semi : Bool) (source : List UInt8) : Option (List Token) :=
  scanFuel (source.length + 1) semi source

/-- The rune of a byte order mark. -/
def byteOrderMark : Nat :=
  0xFEFF

/--
The checks `next` makes on each rune: a text is valid UTF-8 without the NUL
rune and without a byte order mark.
-/
def legalSource (source : List UInt8) : Bool :=
  valid source && (runes source).all fun rune => rune != 0 && rune != byteOrderMark

/-- The bytes of a byte order mark, which is ignored at the beginning. -/
def withoutMark (source : List UInt8) : List UInt8 :=
  if source.take 3 = encodeRune byteOrderMark then
    source.drop 3
  else
    source

/-- All tokens of a source text. -/
def scan (source : List UInt8) : Option (List Token) :=
  let text := withoutMark source
  if legalSource text then scanFrom false text else none

/-! ## Every token moves the cursor -/

theorem length_scanDigits_le (base : Nat) (source : List UInt8) :
    (scanDigits base source).2.length ≤ source.length :=
  length_dropWhile_le _ _

variable (source : List UInt8)

theorem length_tail_le : source.tail.length ≤ source.length := by
  simp

theorem length_scanPrefix_le (first : UInt8) (rest : List UInt8) :
    (scanPrefix (first :: rest)).2.length ≤ rest.length ∨
      scanPrefix (first :: rest) = (.decimal, first :: rest) := by
  simp only [scanPrefix]
  by_cases zero : first = '0'
  · left
    rw [if_pos zero]
    cases rest with
    | nil => exact Nat.le_refl _
    | cons mark tail =>
      simp only
      split_ifs <;> simp
  · right
    rw [if_neg zero]

theorem length_skipSign_le : (skipSign source).length ≤ source.length := by
  rw [skipSign]
  split_ifs
  · exact length_tail_le source
  · exact Nat.le_refl _

variable {rest : List UInt8}

theorem length_scanExponent_le
    {numberPrefix : NumberPrefix} {source : List UInt8} {hasExponent : Bool}
    (scanned : scanExponent numberPrefix source = some (hasExponent, rest)) :
    rest.length ≤ source.length := by
  cases source with
  | nil =>
    cases scanned
    exact Nat.le_refl _
  | cons mark tail =>
    simp only [scanExponent] at scanned
    split_ifs at scanned with isMark wrongBase wrongMark present
    · cases scanned
      have unsigned := length_skipSign_le tail
      exact Nat.le_trans (length_scanDigits_le _ _) (Nat.le_succ_of_le unsigned)
    · cases scanned
      exact Nat.le_refl _

/-- The first byte of a number is a digit or the radix point. -/
def startsNumber (byte : UInt8) : Prop :=
  isDecimal byte ∨ byte = '.'

theorem length_scanFraction_le (numberPrefix : NumberPrefix) (whole : List UInt8 × List UInt8) :
    (scanFraction numberPrefix whole).rest.length ≤ whole.2.length := by
  rw [scanFraction]
  split_ifs
  · exact Nat.le_trans (length_scanDigits_le _ _) (length_tail_le _)
  · exact Nat.le_refl _

variable {byte : UInt8}

theorem length_scanMantissa_le (starts : startsNumber byte) (rest : List UInt8) :
    (scanMantissa (byte :: rest)).rest.length ≤ rest.length := by
  by_cases point : byte = '.'
  · have leading : nextIs '.' (byte :: rest) := by
      simp [nextIs, point]
    simp only [scanMantissa, scanFraction, if_pos leading]
    exact length_scanDigits_le _ _
  · have digit := starts.resolve_right point
    have notLeading : ¬ nextIs '.' (byte :: rest) := by
      simpa [nextIs] using point
    simp only [scanMantissa, if_neg notLeading]
    refine Nat.le_trans (length_scanFraction_le _ _) ?_
    rcases length_scanPrefix_le byte rest with less | whole
    · exact Nat.le_trans (length_scanDigits_le _ _) less
    · rw [whole]
      have taken : isDigitOf NumberPrefix.decimal.base byte := by
        simp [isDigitOf, NumberPrefix.base, digit]
      simp only [scanDigits, dropWhile_cons_of_pos taken]
      exact length_dropWhile_le _ _

theorem length_scanNumber_le
    (starts : startsNumber byte) {after : List UInt8} {kind : LiteralKind}
    (scanned : scanNumber (byte :: rest) = some (kind, after)) : after.length ≤ rest.length := by
  have bounded := length_scanMantissa_le starts rest
  simp only [scanNumber] at scanned
  split_ifs at scanned
  split at scanned
  · cases scanned
  · next hasExponent tail power =>
      have shorter := length_scanExponent_le power
      have cut := length_tail_le tail
      split_ifs at scanned <;> cases scanned <;> omega

theorem length_scanQuoted_le
    {quote : UInt8} {state : EscapeState} {source body after : List UInt8}
    (scanned : scanQuoted quote state source = some (body, after)) :
    after.length ≤ source.length := by
  induction source generalizing state body after with
  | nil => cases scanned
  | cons byte rest ih =>
    simp only [scanQuoted] at scanned
    split_ifs at scanned with closing
    · cases scanned
      exact Nat.le_succ _
    · split at scanned
      · cases scanned
      · obtain ⟨⟨inner, tail⟩, found, same⟩ := Option.map_eq_some_iff.mp scanned
        cases same
        exact Nat.le_succ_of_le (ih found)

variable (single assigned : Operator)

theorem length_switch2_le (rest : List UInt8) :
    (switch2 single assigned rest).2.length ≤ rest.length := by
  rw [switch2]
  split_ifs <;> simp

theorem length_switch3_le (second : UInt8) (double : Operator) (rest : List UInt8) :
    (switch3 single assigned second double rest).2.length ≤ rest.length := by
  rw [switch3]
  split_ifs <;> simp

theorem length_switch4_le
    (second : UInt8) (double doubleAssigned : Operator) (rest : List UInt8) :
    (switch4 single assigned second double doubleAssigned rest).2.length ≤ rest.length := by
  rw [switch4]
  split_ifs
  · simp
  · exact Nat.le_trans (length_switch2_le _ _ _) (length_tail_le _)
  · exact Nat.le_refl _

/-- A scanned token leaves at most a given number of bytes. -/
def Leaves {α : Type} (limit : Nat)
    (result : Option (α × List UInt8)) : Prop :=
  ∀ found, result = some found → found.2.length ≤ limit

variable {limit : Nat} {α : Type}

theorem Leaves.ite
    {first second : Option (α × List UInt8)} (condition : Prop)
    [Decidable condition] (firstLeaves : Leaves limit first) (secondLeaves : Leaves limit second) :
    Leaves limit (if condition then first else second) := by
  split_ifs
  · exact firstLeaves
  · exact secondLeaves

theorem Leaves.some {found : α × List UInt8} (fits : found.2.length ≤ limit) :
    Leaves limit (some found) := by
  rintro other ⟨⟩
  exact fits

theorem Leaves.none (limit : Nat) : Leaves limit (none : Option (α × List UInt8)) := by
  rintro found ⟨⟩

theorem Leaves.map
    {β : Type} {result : Option (α × List UInt8)} {change : α × List UInt8 → β × List UInt8}
    (keeps : ∀ found, (change found).2 = found.2) (leaves : Leaves limit result) :
    Leaves limit (result.map change) := by
  intro found mapped
  obtain ⟨inner, present, rfl⟩ := Option.map_eq_some_iff.mp mapped
  rw [keeps]
  exact leaves inner present

theorem scanOperator_leaves (byte : UInt8) (rest : List UInt8) :
    Leaves rest.length (scanOperator byte rest) := by
  have tailLe := length_tail_le rest
  have tailTailLe := Nat.le_trans (length_tail_le rest.tail) tailLe
  have afterTail := Nat.le_trans (length_switch2_le .andNot .andNotAssign rest.tail) tailLe
  rw [scanOperator]
  repeat' apply Leaves.ite
  all_goals
    first
      | exact .none _
      | exact Leaves.some (Nat.le_refl _)
      | exact Leaves.some (length_switch2_le _ _ _)
      | exact Leaves.some (length_switch3_le _ _ _ _ _)
      | exact Leaves.some (length_switch4_le _ _ _ _ _ _)
      | exact Leaves.some tailLe
      | exact Leaves.some tailTailLe
      | exact Leaves.some afterTail

theorem scanIdentifier_leaves (letter : isLetter byte) (rest : List UInt8) :
    (scanIdentifier (byte :: rest)).2.length ≤ rest.length := by
  have taken : isIdentifierByte byte := by
    simp [isIdentifierByte, letter]
  simp only [scanIdentifier, dropWhile_cons_of_pos taken]
  exact length_dropWhile_le _ _

theorem scanToken_leaves (byte : UInt8) (rest : List UInt8) :
    Leaves rest.length (scanToken byte rest) := by
  simp only [scanToken]
  by_cases letter : isLetter byte
  · rw [if_pos letter]
    exact .some (scanIdentifier_leaves letter rest)
  rw [if_neg letter]
  by_cases number : (isDecimal byte || (byte == '.' && (rest.head?.map isDecimal).getD false))
  · rw [if_pos number]
    have starts : startsNumber byte := by
      rw [Bool.or_eq_true, Bool.and_eq_true, beq_iff_eq] at number
      exact number.imp_right And.left
    have scanned : Leaves rest.length (scanNumber (byte :: rest)) := by
      rintro ⟨kind, after⟩ found
      exact length_scanNumber_le starts found
    exact .map (fun _ => rfl) scanned
  rw [if_neg number]
  have quoted : Leaves rest.length (scanQuoted byte .plain rest) := by
    rintro ⟨body, after⟩ scanned
    exact length_scanQuoted_le scanned
  apply Leaves.ite
  · exact .map (fun _ => rfl) quoted
  apply Leaves.ite
  · cases scanned : scanQuoted byte .plain rest with
    | none => exact .none _
    | some found =>
      apply Leaves.ite
      · exact .some (quoted found scanned)
      · exact .none _
  apply Leaves.ite
  · cases gone : rest.dropWhile fun inner => inner != byte with
    | nil => exact .none _
    | cons closing after =>
      have shorter := length_dropWhile_le (fun inner => inner != byte) rest
      rw [gone] at shorter
      exact .some (Nat.le_of_succ_le shorter)
  · exact .map (fun _ => rfl) (scanOperator_leaves byte rest)

theorem skipComment_leaves (newline : Bool) (source : List UInt8) :
    Leaves source.length (skipComment newline source) := by
  induction source generalizing newline with
  | nil => exact .none _
  | cons byte rest ih =>
    rw [skipComment]
    apply Leaves.ite
    · exact .some (Nat.le_succ_of_le (length_tail_le rest))
    · intro found skipped
      exact Nat.le_succ_of_le (ih _ found skipped)

/-- More fuel than bytes changes nothing. -/
theorem scanFuel_eq_scanFrom
    (fuel : Nat) (semi : Bool) (source : List UInt8) (enough : source.length < fuel) :
    scanFuel fuel semi source = scanFrom semi source := by
  induction fuel using Nat.strongRecOn generalizing semi source with
  | ind fuel ih =>
    cases fuel with
    | zero => exact absurd enough (Nat.not_lt_zero _)
    | succ fuel =>
      cases source with
      | nil => rfl
      | cons byte rest =>
        have fits : rest.length < fuel := by
          simpa using enough
        have recursive :
            ∀ (semi : Bool) (after : List UInt8),
              after.length ≤ rest.length →
              scanFuel fuel semi after = scanFuel (rest.length + 1) semi after := by
          intro semi after shorter
          rw [ih fuel (Nat.lt_succ_self _) _ _ (by omega),
            ih (rest.length + 1) (by omega) _ _ (by omega)]
        have commentLine := length_dropWhile_le (fun inner : UInt8 => inner != '\n') rest
        rw [scanFrom, length_cons, scanFuel, scanFuel]
        simp only [recursive _ rest (Nat.le_refl _), recursive _ _ commentLine]
        cases comment : skipComment false rest.tail with
        | none =>
          cases token : scanToken byte rest with
          | none => rfl
          | some found => simp only [recursive _ _ (scanToken_leaves byte rest found token)]
        | some skipped =>
          have shorter := Nat.le_trans (skipComment_leaves _ _ _ comment) (length_tail_le rest)
          cases token : scanToken byte rest with
          | none => simp only [recursive _ _ shorter]
          | some found =>
            simp only [recursive _ _ shorter, recursive _ _
              (scanToken_leaves byte rest found token)]

/-! ## Steps of the scanner -/

/-- The blanks between tokens that never become a semicolon. -/
def isBlank (byte : UInt8) : Bool :=
  byte == ' ' || byte == '\t' || byte == '\r'

theorem scanFrom_blank (blank : isBlank byte) (semi : Bool) (rest : List UInt8) :
    scanFrom semi (byte :: rest) = scanFrom semi rest := by
  simp only [isBlank, Bool.or_eq_true, beq_iff_eq, or_assoc] at blank
  rw [scanFrom, length_cons, scanFuel, if_pos blank]
  rfl

theorem scanFrom_blanks
    {blanks : List UInt8} (allBlank : blanks.all isBlank) (semi : Bool) (rest : List UInt8) :
    scanFrom semi (blanks ++ rest) = scanFrom semi rest := by
  induction blanks with
  | nil => rfl
  | cons byte others ih =>
    rw [all_cons, Bool.and_eq_true] at allBlank
    rw [cons_append, scanFrom_blank allBlank.1, ih allBlank.2]

/-- A byte at which the scanner neither skips nor ends a line. -/
def startsToken (byte : UInt8) (rest : List UInt8) : Prop :=
  isBlank byte = false ∧ byte ≠ '\n' ∧
    (byte = '/' → nextIs '/' rest = false ∧ nextIs '*' rest = false)

theorem startsToken_of_apart
    (apart : isBlank byte = false ∧ byte ≠ '\n' ∧ byte ≠ '/') (rest : List UInt8) :
    startsToken byte rest :=
  ⟨apart.1, apart.2.1, fun slash => absurd slash apart.2.2⟩

/-- The step of the scanner over one token. -/
theorem scanFrom_token (starts : startsToken byte rest) (semi : Bool) :
    scanFrom semi (byte :: rest) =
      (scanToken byte rest).bind fun found =>
        (scanFrom found.1.insertSemi found.2).map (found.1 :: ·) := by
  obtain ⟨notBlank, notNewline, notComment⟩ := starts
  have visible : ¬ (byte = ' ' ∨ byte = '\t' ∨ byte = '\r') := by
    intro blank
    simp only [isBlank, Bool.or_eq_false_iff, beq_eq_false_iff_ne] at notBlank
    tauto
  have notLine : ¬ (byte = '/' ∧ nextIs '/' rest) := by
    rintro ⟨slash, next⟩
    exact Bool.eq_false_iff.mp (notComment slash).1 next
  have notGeneral : ¬ (byte = '/' ∧ nextIs '*' rest) := by
    rintro ⟨slash, next⟩
    exact Bool.eq_false_iff.mp (notComment slash).2 next
  rw [scanFrom, length_cons, scanFuel, if_neg visible,
    if_neg notNewline, if_neg notLine, if_neg notGeneral]
  cases token : scanToken byte rest with
  | none => rfl
  | some found =>
    have shorter := scanToken_leaves byte rest found token
    simp only [Option.bind_some]
    rw [scanFuel_eq_scanFrom _ _ _ (by omega)]

/-! ## Legal texts -/

/-- A rune that a source text may hold. -/
def LegalRune (rune : Nat) : Prop :=
  Utf8.IsScalar rune ∧ rune ≠ 0 ∧ rune ≠ byteOrderMark

theorem legalSource_iff :
    legalSource source ↔
      ∃ scalars, (∀ rune ∈ scalars, LegalRune rune) ∧ source = encodeRunes scalars := by
  rw [legalSource, Bool.and_eq_true, all_eq_true]
  constructor
  · rintro ⟨isValid, legal⟩
    obtain ⟨allScalar, coded⟩ := encodeRunes_runes isValid
    refine ⟨runes source, ?_, coded.symm⟩
    intro rune mem
    have checks := legal rune mem
    rw [Bool.and_eq_true, bne_iff_ne, bne_iff_ne] at checks
    exact ⟨allScalar rune mem, checks⟩
  · rintro ⟨scalars, legal, rfl⟩
    have allScalar : ∀ rune ∈ scalars, Utf8.IsScalar rune := fun rune mem => (legal rune mem).1
    refine ⟨valid_encodeRunes allScalar, ?_⟩
    rw [runes_encodeRunes allScalar]
    intro rune mem
    rw [Bool.and_eq_true, bne_iff_ne, bne_iff_ne]
    exact (legal rune mem).2

/-- Legal texts may be put together. -/
theorem legalSource_append
    {left right : List UInt8} (legalLeft : legalSource left) (legalRight : legalSource right) :
    legalSource (left ++ right) := by
  obtain ⟨leftScalars, leftLegal, rfl⟩ := (legalSource_iff _).mp legalLeft
  obtain ⟨rightScalars, rightLegal, rfl⟩ := (legalSource_iff _).mp legalRight
  refine (legalSource_iff _).mpr ⟨leftScalars ++ rightScalars, ?_, by simp [encodeRunes]⟩
  intro rune mem
  exact (mem_append.mp mem).elim (leftLegal rune) (rightLegal rune)

/-- An ASCII text without the NUL byte is legal. -/
theorem legalSource_ascii {text : List UInt8} (ascii : ∀ byte ∈ text, byte ≠ 0 ∧ byte < 0x80) :
    legalSource text := by
  induction text with
  | nil => decide
  | cons byte rest ih =>
    obtain ⟨nonzero, small⟩ := ascii byte (mem_cons_self ..)
    have single :=
      (by decide : ∀ byte : UInt8, byte ≠ 0 → byte < 0x80 → legalSource [byte]) byte nonzero small
    exact
      legalSource_append single
        (ih fun other inRest =>
          ascii other (mem_cons_of_mem _ inRest))

end Scanner
end Libbinder.Go
