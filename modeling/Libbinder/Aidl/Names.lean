import Libbinder.Aidl.Ast
import Libbinder.Go.Scanner

/-!
# Names

The name functions of `internal/aidl/gomodel`: qualified names are split and
joined at their dots, and Go names are made from the words of AIDL names.

Names are ASCII, as the scanner of expressions has them, so that no Unicode
table is needed.
-/

namespace Libbinder.Aidl

open Go List
open Go.Scanner (bytesOf isKeyword isIdentifierByte)

/-! ## Qualified names -/

/-- `strings.Split` at a byte. -/
def splitAt (separator : UInt8) : Name → List Name
  | [] => [[]]
  | byte :: rest =>
    if byte = separator then
      [] :: splitAt separator rest
    else
      match splitAt separator rest with
      | [] => [[byte]]
      | first :: others => (byte :: first) :: others

/-- `strings.Join`. -/
def join (separator : Name) : List Name → Name
  | [] => []
  | [part] => part
  | part :: rest => part ++ separator ++ join separator rest

/-- The parts of a qualified name. -/
def segments (name : Name) : List Name :=
  splitAt '.' name

/-- A name inside another one. -/
def qualify (outer name : Name) : Name :=
  outer ++ bytesOf "." ++ name

/-- `lastSegment`. -/
def lastSegment (name : Name) : Name :=
  (segments name).getLastD []

/-- The function `packageName`. -/
def packageOf (name : Name) : Name :=
  join (bytesOf ".") (segments name).dropLast

/-- `descriptorName`. -/
def descriptorName (pkg name : Name) : Name :=
  if pkg = [] then name else qualify pkg name

/-- `strings.TrimPrefix`. -/
def trimLeading (start name : Name) : Name :=
  if start.isPrefixOf name then name.drop start.length else name

/-- `strings.Trim` of double quotes. -/
def trimQuotes (text : Name) : Name :=
  let quoted (byte : UInt8) : Bool := byte == '"'
  ((text.dropWhile quoted).reverse.dropWhile quoted).reverse

/--
`registerAliases`: the name itself and what remains of it after each of its
dots, in this order.
-/
def aliases (full : Name) : List Name :=
  if full = [] then []
  else (segments full).tails.dropLast.map (join (bytesOf "."))

/-! ## Go names -/

/-- `unicode.IsUpper`. -/
def isUpper (byte : UInt8) : Bool :=
  'A' ≤ byte && byte ≤ 'Z'

/-- `unicode.IsLower`. -/
def isLower (byte : UInt8) : Bool :=
  'a' ≤ byte && byte ≤ 'z'

/-- `unicode.ToUpper`. -/
def toUpper (byte : UInt8) : UInt8 :=
  if isLower byte then byte - 0x20 else byte

/-- `unicode.ToLower`. -/
def toLower (byte : UInt8) : UInt8 :=
  if isUpper byte then byte + 0x20 else byte

/-- A letter or a digit. -/
def isWordPart (byte : UInt8) : Bool :=
  isUpper byte || isLower byte || isDecimal byte

/-- `strings.FieldsFunc`: the runs of letters and digits. -/
def words : Name → Name → List Name
  | current, [] => if current = [] then [] else [current]
  | current, byte :: rest =>
    if isWordPart byte then
      words (current ++ [byte]) rest
    else if current = [] then
      words [] rest
    else
      current :: words [] rest

/-- The words of a run, which start at its capitals, in lower case. -/
def camelWords : Name → Name → List Name
  | current, [] => if current = [] then [] else [current.map toLower]
  | current, byte :: rest =>
    if isUpper byte ∧ current ≠ [] then
      current.map toLower :: camelWords [byte] rest
    else
      camelWords (current ++ [byte]) rest

/-- `splitIdentifier`. -/
def splitIdentifier (name : Name) : List Name :=
  (words [] name).flatMap fun field =>
    if field = field.map toUpper then [field.map toLower]
    else camelWords [] field

/-- The first byte in upper case. -/
def capitalize : Name → Name
  | [] => []
  | byte :: rest => toUpper byte :: rest

/-- Put a text before a name that starts with a digit. -/
def guardDigit (guard name : Name) : Name :=
  if (name.head?.map isDecimal).getD false then guard ++ name else name

/-- `exportName`. -/
def exportName (name : Name) : Name :=
  match splitIdentifier name with
  | [] => bytesOf "X"
  | parts =>
    let out := (parts.map capitalize).flatten
    guardDigit (bytesOf "X") (if out = [] then bytesOf "X" else out)

/-- `isReservedGeneratedIdentifier`. -/
def isReservedGeneratedIdentifier (name : Name) : Bool :=
  ["binder", "context", "fmt", "errors", "sync", "ctx", "req", "resp",
    "reply", "parcel", "registrar", "err", "ret"].any fun reserved =>
      bytesOf reserved == name

/-- `lowerName`. -/
def lowerName (name : Name) : Name :=
  match exportName name with
  | [] => bytesOf "x"
  | first :: rest =>
    let out := toLower first :: rest
    if isKeyword out || isReservedGeneratedIdentifier out then
      out ++ bytesOf "_"
    else
      out

/-- `sanitizePackageName`. -/
def sanitizePackageName (name : Name) : Name :=
  let mapped :=
    (name.map toLower).map fun byte =>
      if isWordPart byte then byte else '_'
  let named := if mapped = [] then bytesOf "aidl" else mapped
  guardDigit (bytesOf "aidl_") (if isKeyword named then named ++ bytesOf "_aidl" else named)

/-- `customImportAlias`. -/
def customImportAlias (goPackage : Name) : Name :=
  let trimmed :=
    if goPackage.getLast? = some '/'.toUInt8 then goPackage.dropLast
    else goPackage
  match (splitAt '/' trimmed).reverse with
  | [] => bytesOf "customparcelable"
  | [part] => sanitizePackageName part
  | last :: before :: _ => sanitizePackageName (before ++ bytesOf "_" ++ last)

example : exportName (bytesOf "getHTTPName_v2") = bytesOf "GetHTTPNameV2" := by
  decide

example : lowerName (bytesOf "Type") = bytesOf "type_" := by
  decide

/-! ## Legal Go names -/

/-- A Go identifier: a letter, then letters and digits, and not a keyword. -/
def IsIdentifier (name : Name) : Prop :=
  name.head?.any isLetter ∧ (∀ byte ∈ name, isIdentifierByte byte) ∧ isKeyword name = false

/-- One more underscore in front, behind, or beside another one. -/
inductive Underscored : Name → Name → Prop
  | leading (name : Name) : Underscored name ('_'.toUInt8 :: name)
  | trailing (name : Name) : Underscored name (name ++ ['_'.toUInt8])
  | repeated (before after : Name) :
    Underscored (before ++ '_'.toUInt8 :: after) (before ++ '_'.toUInt8 :: '_'.toUInt8 :: after)

/-- Letters and digits, at least one. -/
def IsWord (part : Name) : Prop :=
  part ≠ [] ∧ ∀ byte ∈ part, isWordPart byte

variable {name current : Name}

theorem words_underscore (current before after : Name) :
    words current (before ++ '_'.toUInt8 :: after) = words current before ++ words [] after := by
  have apart : ¬ isWordPart '_' := by
    decide
  induction before generalizing current with
  | nil =>
    rw [nil_append, words, words, if_neg apart]
    split_ifs <;> rfl
  | cons byte rest ih =>
    rw [cons_append, words, words]
    split_ifs
    · exact ih _
    · exact ih _
    · rw [ih, cons_append]

theorem Underscored.words_eq {other : Name} (underscored : Underscored name other) :
    words [] other = words [] name := by
  cases underscored with
  | leading => exact words_underscore [] [] name
  | trailing =>
    rw [words_underscore]
    exact append_nil _
  | repeated before after =>
    rw [words_underscore, words_underscore]
    exact congrArg _ (words_underscore [] [] after)

theorem IsWord.of_words (given : ∀ byte ∈ current, isWordPart byte) :
    ∀ part ∈ words current name, IsWord part := by
  induction name generalizing current with
  | nil =>
    rw [words]
    split_ifs with blank
    · exact forall_mem_nil _
    · exact forall_mem_singleton.mpr ⟨blank, given⟩
  | cons byte rest ih =>
    rw [words]
    split_ifs with inside blank
    · exact ih (forall_mem_append.mpr ⟨given, forall_mem_singleton.mpr inside⟩)
    · exact ih (forall_mem_nil _)
    · exact forall_mem_cons.mpr ⟨⟨blank, given⟩, ih (forall_mem_nil _)⟩

theorem IsWord.lower (word : IsWord current) : IsWord (current.map toLower) :=
  ⟨mt map_eq_nil_iff.mp word.1, forall_mem_map.mpr fun byte mem =>
    (by decide : ∀ byte, isWordPart byte → isWordPart (toLower byte)) byte (word.2 byte mem)⟩

theorem IsWord.of_camelWords
    (given : ∀ byte ∈ current, isWordPart byte) (inside : ∀ byte ∈ name, isWordPart byte) :
    ∀ part ∈ camelWords current name, IsWord part := by
  induction name generalizing current with
  | nil =>
    rw [camelWords]
    split_ifs with blank
    · exact forall_mem_nil _
    · exact forall_mem_singleton.mpr (lower ⟨blank, given⟩)
  | cons byte rest ih =>
    rw [forall_mem_cons] at inside
    have alone : ∀ other ∈ [byte], isWordPart other := forall_mem_singleton.mpr inside.1
    rw [camelWords]
    split_ifs with starts
    · exact forall_mem_cons.mpr ⟨lower ⟨starts.2, given⟩, ih alone inside.2⟩
    · exact ih (forall_mem_append.mpr ⟨given, alone⟩) inside.2

theorem IsWord.of_splitIdentifier : ∀ part ∈ splitIdentifier name, IsWord part := by
  intro part mem
  rcases mem_flatMap.mp mem with ⟨field, among, inside⟩
  have word := IsWord.of_words (forall_mem_nil _) field among
  split_ifs at inside
  · rw [mem_singleton.mp inside]
    exact word.lower
  · exact IsWord.of_camelWords (forall_mem_nil _) word.2 part inside

theorem IsWord.capitalize (word : IsWord current) : IsWord (capitalize current) := by
  cases current with
  | nil => exact absurd rfl word.1
  | cons byte rest =>
    rcases forall_mem_cons.mp word.2 with ⟨first, others⟩
    have upper := (by decide : ∀ byte, isWordPart byte → isWordPart (toUpper byte)) byte first
    exact ⟨cons_ne_nil _ _, forall_mem_cons.mpr ⟨upper, others⟩⟩

/-- An exported name is a capital before letters and digits. -/
theorem exportName_eq (name : Name) :
    ∃ first rest, exportName name = first :: rest ∧ isUpper first ∧
      ∀ byte ∈ rest, isWordPart byte := by
  have parts := @IsWord.of_splitIdentifier name
  rw [exportName]
  generalize splitIdentifier name = found at parts ⊢
  rcases found with - | ⟨part, others⟩
  · exact ⟨_, [], rfl, by decide, forall_mem_nil _⟩
  · have inside : ∀ byte ∈ ((part :: others).map Aidl.capitalize).flatten, isWordPart byte := by
      intro byte mem
      rcases mem_flatten.mp mem with ⟨_, among, present⟩
      rcases mem_map.mp among with ⟨other, listed, rfl⟩
      exact (parts other listed).capitalize.2 byte present
    rcases part with - | ⟨byte, rest⟩
    · exact absurd rfl (parts [] mem_cons_self).1
    · rcases forall_mem_cons.mp inside with ⟨first, later⟩
      by_cases digit : isDecimal (toUpper byte)
      · exact ⟨'X', _, if_pos digit, by decide, inside⟩
      · refine ⟨_, _, if_neg digit, ?_, later⟩
        exact (by decide : ∀ byte, isWordPart (toUpper byte) → ¬ isDecimal (toUpper byte) →
          isUpper (toUpper byte)) byte first digit

/-- A name with a property that no listed text has is not listed. -/
theorem any_bytesOf_eq_false
    {listed : List String} {holds : Name → Bool} (has : holds name)
    (never : ∀ text ∈ listed, holds (bytesOf text) = false) :
    (listed.any fun text => bytesOf text == name) = false := by
  refine any_eq_false.mpr fun text mem same => ?_
  rw [← eq_of_beq same, never text mem] at has
  cases has

/--
Both name functions return legal Go names, whatever the bytes between the
words of a name are, and neither sees another underscore beside them.
-/
theorem names_legal (name : Name) :
    (IsIdentifier (exportName name) ∧ (exportName name).head?.any isUpper) ∧
      (IsIdentifier (lowerName name) ∧ isReservedGeneratedIdentifier (lowerName name) = false) ∧
      ∀ other, Underscored name other →
        exportName other = exportName name ∧ lowerName other = lowerName name := by
  rcases exportName_eq name with ⟨first, rest, exported, capital, inside⟩
  have later : ∀ byte ∈ rest, isIdentifierByte byte := fun byte member =>
    (by decide : ∀ byte, isWordPart byte → isIdentifierByte byte) byte (inside byte member)
  have head := (by decide : ∀ byte, isUpper byte → isIdentifierByte byte ∧ isLetter byte ∧
    isIdentifierByte (toLower byte) ∧ isLetter (toLower byte)) first capital
  refine ⟨?_, ?_, ?_⟩
  · rw [exported]
    refine ⟨⟨head.2.1, forall_mem_cons.mpr ⟨head.1, later⟩, ?_⟩, capital⟩
    exact @any_bytesOf_eq_false _ _ (fun text => text.head?.any isUpper) capital (by decide)
  · simp only [lowerName, exported]
    split_ifs with taken
    · have marked (listed : List String)
          (never : ∀ text ∈ listed, ((bytesOf text).getLast? == some '_'.toUInt8) = false) :
          (listed.any fun text =>
            bytesOf text == toLower first :: rest ++ ['_'.toUInt8]) = false :=
        @any_bytesOf_eq_false _ _ (fun text => text.getLast? == some '_'.toUInt8)
          (beq_iff_eq.mpr getLast?_concat) never
      refine ⟨⟨head.2.2.2, ?_, marked _ (by decide)⟩, marked _ (by decide)⟩
      exact forall_mem_append.mpr
        ⟨forall_mem_cons.mpr ⟨head.2.2.1, later⟩, forall_mem_singleton.mpr (by decide)⟩
    · rw [Bool.not_eq_true, Bool.or_eq_false_iff] at taken
      exact ⟨⟨head.2.2.2, forall_mem_cons.mpr ⟨head.2.2.1, later⟩, taken.1⟩, taken.2⟩
  · intro other underscored
    have same : exportName other = exportName name := by
      rw [exportName, exportName, splitIdentifier, splitIdentifier, underscored.words_eq]
    rw [lowerName, lowerName, same]
    exact ⟨rfl, rfl⟩

end Libbinder.Aidl
