import Libbinder.Go.Scanner

/-!
# Go expressions

The part of `go/parser.ParseExpr` that reads operands, selectors, parentheses
and operators by precedence.  Calls, index expressions, composite literals and
types end an expression here, so that a text holding one is refused.

The tree of an accepted text flattens to its tokens, and every token sequence
of the operator grammar is accepted.
-/

namespace Libbinder.Go

open List Option

open Scanner (Token Operator LiteralKind)

/-! ## Syntax trees -/

/-- The syntax trees of `go/ast`; `StarExpr` is the unary node of `*`. -/
inductive Expr where
  | basicLit (kind : LiteralKind) (value : List UInt8)
  | ident (name : List UInt8)
  | selectorExpr (x : Expr) (sel : List UInt8)
  | parenExpr (x : Expr)
  | unaryExpr (op : Operator) (x : Expr)
  | binaryExpr (x : Expr) (op : Operator) (y : Expr)
  deriving DecidableEq, Repr

namespace Expr

/-- The tokens of a tree in the order of the text. -/
def flatten : Expr → List Token
  | .basicLit kind value => [.literal kind value]
  | .ident name => [.ident name]
  | .selectorExpr x sel => x.flatten ++ [.operator .period, .ident sel]
  | .parenExpr x => .operator .lparen :: x.flatten ++ [.operator .rparen]
  | .unaryExpr op x => .operator op :: x.flatten
  | .binaryExpr x op y => x.flatten ++ .operator op :: y.flatten

/-- The literals of a tree in the order of the text. -/
def literals : Expr → List (LiteralKind × List UInt8)
  | .basicLit kind value => [(kind, value)]
  | .ident _ => []
  | .selectorExpr x _ => x.literals
  | .parenExpr x => x.literals
  | .unaryExpr _ x => x.literals
  | .binaryExpr x _ y => x.literals ++ y.literals

end Expr

/-- The literals among tokens. -/
def tokenLiterals : List Token → List (LiteralKind × List UInt8)
  | [] => []
  | .literal kind text :: rest => (kind, text) :: tokenLiterals rest
  | _ :: rest => tokenLiterals rest

@[simp]
theorem tokenLiterals_append (left right : List Token) :
    tokenLiterals (left ++ right) = tokenLiterals left ++ tokenLiterals right := by
  induction left with
  | nil => rfl
  | cons token rest ih => cases token <;> simp [tokenLiterals, ih]

theorem Expr.literals_eq (tree : Expr) : tree.literals = tokenLiterals tree.flatten := by
  induction tree with
  | basicLit | ident => rfl
  | selectorExpr _ _ ih | parenExpr _ ih
  | unaryExpr _ _ ih =>
    simp [literals, flatten, tokenLiterals, ih]
  | binaryExpr x op y leftIh rightIh =>
    simp [literals, flatten, tokenLiterals, leftIh, rightIh]

/-! ## The parser -/

/-- `Precedence`: zero for a token that is no binary operator. -/
def precedence : Operator → Nat
  | .lor => 1
  | .land => 2
  | .eql | .neq | .lss | .leq | .gtr | .geq => 3
  | .add | .sub | .or | .xor => 4
  | .mul | .quo | .rem | .shl | .shr | .and | .andNot => 5
  | _ => 0

/-- The operators with which `parseUnaryExpr` goes on. -/
def isUnary : Operator → Bool
  | .add | .sub | .not | .xor | .and | .tilde | .arrow | .mul => true
  | _ => false

/-- The selectors after an operand. -/
def parseSelectors (x : Expr) : List Token → Expr × List Token
  | .operator .period :: .ident sel :: rest => parseSelectors (.selectorExpr x sel) rest
  | tokens => (x, tokens)

/-- The binary operator of at least some precedence at the front. -/
def nextBinary (prec : Nat) : List Token → Option (Operator × List Token)
  | .operator op :: rest => if prec ≤ precedence op then some (op, rest) else none
  | _ => none

mutual

/-- `parseUnaryExpr` together with the operands and selectors it reads. -/
def parseUnary : Nat → List Token → Option (Expr × List Token)
  | 0, _ => none
  | _ + 1, [] => none
  | _ + 1, .literal kind text :: rest => some (parseSelectors (.basicLit kind text) rest)
  | _ + 1, .ident name :: rest => some (parseSelectors (.ident name) rest)
  | _ + 1, .keyword _ :: _ => none
  | _ + 1, .newline :: _ => none
  | fuel + 1, .operator op :: rest =>
    if isUnary op then
      (parseUnary fuel rest).map fun found =>
        (.unaryExpr op found.1, found.2)
    else if op = .lparen then
      match parseUnary fuel rest with
      | none => none
      | some (first, afterFirst) =>
        match parseTail fuel 1 first afterFirst with
        | some (x, .operator .rparen :: after) => some (parseSelectors (.parenExpr x) after)
        | _ => none
    else
      none

/--
The loop of `parseBinaryExpr` after its left operand: each operator of at
least the precedence is followed by an operand of a higher one.
-/
def parseTail : Nat → Nat → Expr → List Token → Option (Expr × List Token)
  | 0, prec, x, tokens =>
    match nextBinary prec tokens with
    | some _ => none
    | none => some (x, tokens)
  | fuel + 1, prec, x, tokens =>
    match nextBinary prec tokens with
    | none => some (x, tokens)
    | some (op, rest) =>
      match parseUnary fuel rest with
      | none => none
      | some (first, afterFirst) =>
        match parseTail fuel (precedence op + 1) first afterFirst with
        | none => none
        | some (y, after) => parseTail fuel prec (.binaryExpr x op y) after

end

/-- `parseBinaryExpr(nil, prec)`. -/
def parseBinary (fuel prec : Nat) (tokens : List Token) : Option (Expr × List Token) :=
  (parseUnary fuel tokens).bind fun found =>
    parseTail fuel prec found.1 found.2

/-- `ParseExpr` on the tokens of its text. -/
def parseTokens (tokens : List Token) : Option Expr :=
  match parseBinary tokens.length 1 tokens with
  | some (x, []) => some x
  | some (x, [.newline]) => some x
  | _ => none

/-- `goparser.ParseExpr`. -/
def parseExpr (source : List UInt8) : Option Expr :=
  (Scanner.scan source).bind parseTokens

/-! ## An accepted tree flattens to the text -/

/-- The operators of a tree are unary and binary operators. -/
def Expr.Operators : Expr → Prop
  | .basicLit _ _ => True
  | .ident _ => True
  | .selectorExpr x _ => x.Operators
  | .parenExpr x => x.Operators
  | .unaryExpr op x => isUnary op ∧ x.Operators
  | .binaryExpr x op y => x.Operators ∧ 1 ≤ precedence op ∧ y.Operators

theorem parseSelectors_flatten (x : Expr) (tokens : List Token) :
    (parseSelectors x tokens).1.flatten ++ (parseSelectors x tokens).2 = x.flatten ++ tokens := by
  fun_induction parseSelectors x tokens with
  | case1 x sel rest ih =>
    rw [ih]
    simp [Expr.flatten]
  | case2 x tokens noSelector => rfl

theorem parseSelectors_operators {x : Expr} (operators : x.Operators) (tokens : List Token) :
    (parseSelectors x tokens).1.Operators := by
  fun_induction parseSelectors x tokens with
  | case1 x sel rest ih => exact ih operators
  | case2 x tokens noSelector => exact operators

variable {tokens rest : List Token} {op : Operator}

theorem nextBinary_eq_some {prec : Nat} (next : nextBinary prec tokens = some (op, rest)) :
    tokens = .operator op :: rest ∧ prec ≤ precedence op := by
  unfold nextBinary at next
  split at next
  · split_ifs at next with fits
    cases next
    exact ⟨rfl, fits⟩
  · cases next

/-- What the two parts of the parser build and consume, with a given fuel. -/
structure Builds (fuel : Nat) : Prop where
  unary : ∀ tokens found, parseUnary fuel tokens = some found →
      found.1.flatten ++ found.2 = tokens ∧ found.1.Operators
  tail : ∀ prec x tokens found, 1 ≤ prec → x.Operators →
      parseTail fuel prec x tokens = some found →
        found.1.flatten ++ found.2 = x.flatten ++ tokens ∧ found.1.Operators

theorem builds (fuel : Nat) : Builds fuel := by
  induction fuel with
  | zero =>
    constructor
    · rintro _ _ ⟨⟩
    · intro prec x tokens found above operators parsed
      rw [parseTail] at parsed
      split at parsed
      · cases parsed
      · cases parsed
        exact ⟨rfl, operators⟩
  | succ fuel ih =>
    constructor
    · intro tokens found parsed
      cases tokens with
      | nil => cases parsed
      | cons token rest =>
        cases token with
        | literal | ident =>
          cases parsed
          rw [parseSelectors_flatten]
          exact ⟨rfl, parseSelectors_operators (by trivial) rest⟩
        | keyword | newline => cases parsed
        | operator op =>
          simp only [parseUnary] at parsed
          split_ifs at parsed with unary paren
          · obtain ⟨inner, present, rfl⟩ := map_eq_some_iff.mp parsed
            obtain ⟨consumed, operators⟩ := ih.unary rest inner present
            rw [← consumed]
            exact ⟨rfl, unary, operators⟩
          · split at parsed
            · cases parsed
            · next first afterFirst parsedFirst =>
                obtain ⟨consumedFirst, operators⟩ := ih.unary rest _ parsedFirst
                split at parsed
                · next x after parsedTail =>
                    obtain ⟨consumedTail, inner⟩ :=
                      ih.tail _ _ _ _ (Nat.le_refl 1) operators parsedTail
                    cases parsed
                    rw [parseSelectors_flatten, ← consumedFirst, ← consumedTail, paren]
                    exact ⟨by simp [Expr.flatten],
                      parseSelectors_operators (x := .parenExpr x) inner after⟩
                · cases parsed
    · intro prec x tokens found above operators parsed
      rw [parseTail] at parsed
      split at parsed
      · cases parsed
        exact ⟨rfl, operators⟩
      · next op rest next =>
          obtain ⟨rfl, fits⟩ := nextBinary_eq_some next
          split at parsed
          · cases parsed
          · next first afterFirst parsedFirst =>
              obtain ⟨consumedFirst, firstOperators⟩ := ih.unary rest _ parsedFirst
              split at parsed
              · cases parsed
              · next y after parsedRight =>
                  obtain ⟨consumedRight, rightOperators⟩ :=
                    ih.tail _ _ _ _ (by omega) firstOperators parsedRight
                  obtain ⟨consumedRest, joined⟩ :=
                    ih.tail _ (.binaryExpr x op y) _ _ above
                      ⟨operators, by omega, rightOperators⟩ parsed
                  rw [consumedRest, ← consumedFirst, ← consumedRight]
                  exact ⟨by simp [Expr.flatten], joined⟩

variable {tree : Expr}

/-- An accepted text is a tree of operators, maybe with a newline. -/
theorem builds_parseTokens (parsed : parseTokens tokens = some tree) :
    (tokens = tree.flatten ∨ tokens = tree.flatten ++ [.newline]) ∧ tree.Operators := by
  have built :
      ∀ found, parseBinary tokens.length 1 tokens = some found →
        found.1.flatten ++ found.2 = tokens ∧ found.1.Operators := by
    intro found binary
    obtain ⟨first, unary, tail⟩ := bind_eq_some_iff.mp binary
    obtain ⟨consumed, operators⟩ := (builds _).unary _ _ unary
    rw [← consumed]
    exact (builds _).tail _ _ _ _ (Nat.le_refl 1) operators tail
  unfold parseTokens at parsed
  split at parsed
  · rename_i x binary
    obtain ⟨consumed, operators⟩ := built _ binary
    cases parsed
    exact ⟨.inl (by simpa using consumed.symm), operators⟩
  · rename_i x binary
    obtain ⟨consumed, operators⟩ := built _ binary
    cases parsed
    exact ⟨.inr consumed.symm, operators⟩
  · cases parsed

/-- The tokens of an accepted text are those of its tree. -/
theorem flatten_of_parseTokens (parsed : parseTokens tokens = some tree) :
    tokens = tree.flatten ∨ tokens = tree.flatten ++ [.newline] :=
  (builds_parseTokens parsed).1

theorem Expr.keyword_notMem_flatten (tree : Expr) (name : List UInt8) :
    .keyword name ∉ tree.flatten := by
  induction tree <;> simp_all [flatten]

/-! ## The places of tokens in an expression -/

/-- What an expression expects next. -/
inductive Place where
  | operand
  | operator
  | selector
  deriving DecidableEq, Repr

/-- The place after a token, where the token may stand. -/
def Place.next : Place → Token → Option Place
  | .operand, .literal _ _ => some .operator
  | .operand, .ident _ => some .operator
  | .operand, .operator op => if isUnary op || op == .lparen then some .operand else none
  | .operator, .operator op =>
    if 1 ≤ precedence op then some .operand
    else if op = .rparen then some .operator
    else if op = .period then some .selector
    else none
  | .selector, .ident _ => some .operator
  | _, _ => none

/-- The place after several tokens. -/
def Place.run (place : Place) : List Token → Option Place
  | [] => some place
  | token :: rest => (place.next token).bind fun after => after.run rest

theorem Place.run_append (place : Place) (left right : List Token) :
    place.run (left ++ right) = (place.run left).bind fun after => after.run right := by
  induction left generalizing place with
  | nil => rfl
  | cons token rest ih =>
    simp only [cons_append, Place.run]
    cases place.next token with
    | none => rfl
    | some after => exact ih after

/-- A tree leads from an operand to the end of one. -/
theorem Expr.run_flatten (operators : tree.Operators) :
    Place.run .operand tree.flatten = some .operator := by
  induction tree with
  | basicLit | ident => rfl
  | selectorExpr x sel ih =>
    rw [flatten, Place.run_append, ih operators]
    rfl
  | parenExpr x ih =>
    rw [flatten, cons_append, Place.run]
    simp only [Place.next, isUnary, beq_self_eq_true, Bool.false_or, if_true, bind_some]
    rw [Place.run_append, ih operators]
    rfl
  | unaryExpr op x ih =>
    rw [flatten, Place.run]
    simp only [Place.next, operators.1, Bool.true_or, if_true, bind_some]
    exact ih operators.2
  | binaryExpr x op y leftIh rightIh =>
    rw [flatten, Place.run_append, leftIh operators.1, bind_some, Place.run]
    simp only [Place.next, if_pos operators.2.1, bind_some]
    exact rightIh operators.2.2

/-- Every token of an accepted text stands where an expression expects it. -/
theorem run_of_parseTokens (parsed : parseTokens tokens = some tree) :
    Place.run .operand tree.flatten = some .operator :=
  Expr.run_flatten (builds_parseTokens parsed).2

/-! ## The operator grammar is accepted -/

/-- The tokens of the selectors after an operand. -/
def selectorTokens (names : List (List UInt8)) : List Token :=
  names.flatMap fun name => [.operator .period, .ident name]

/-- The tokens of the operators and operands after a first operand. -/
def tailTokens (pairs : List (Operator × List Token)) : List Token :=
  pairs.flatMap fun pair => .operator pair.1 :: pair.2

/-- The token sequences of an operand with its unary operators. -/
inductive Operand : List Token → Prop
  | literal (kind : LiteralKind) (text : List UInt8) : Operand [.literal kind text]
  | name (first : List UInt8) (names : List (List UInt8)) :
      Operand (.ident first :: selectorTokens names)
  | paren {first : List Token} {pairs : List (Operator × List Token)}
      (operand : Operand first)
      (binary : ∀ pair ∈ pairs, 1 ≤ precedence pair.1)
      (operands : ∀ pair ∈ pairs, Operand pair.2) :
      Operand (.operator .lparen :: (first ++ tailTokens pairs) ++ [.operator .rparen])
  | unary {op : Operator} {tokens : List Token}
      (isUnaryOperator : isUnary op) (operand : Operand tokens) :
      Operand (.operator op :: tokens)

/-- The token sequences of operands joined by binary operators. -/
def Operands (tokens : List Token) : Prop :=
  ∃ first pairs,
    Operand first ∧
    (∀ pair ∈ pairs, 1 ≤ precedence pair.1 ∧ Operand pair.2) ∧
    tokens = first ++ tailTokens pairs

/-- A token sequence at which no operand goes on. -/
def EndsOperand : List Token → Prop
  | .operator .period :: _ => False
  | _ => True

/-- A token sequence at which no chain of operands goes on. -/
def EndsOperands : List Token → Prop
  | .operator op :: _ => precedence op = 0 ∧ op ≠ .period
  | _ => True

theorem parseSelectors_of_ends (x : Expr) (ends : EndsOperand rest) :
    parseSelectors x rest = (x, rest) := by
  unfold parseSelectors
  split
  · exact ends.elim
  · rfl

theorem parseSelectors_selectorTokens
    (names : List (List UInt8)) (x : Expr) (ends : EndsOperand rest) :
    ∃ tree, parseSelectors x (selectorTokens names ++ rest) = (tree, rest) := by
  induction names generalizing x with
  | nil => exact ⟨x, parseSelectors_of_ends x ends⟩
  | cons name others ih =>
    obtain ⟨tree, parsed⟩ := ih (.selectorExpr x name)
    refine ⟨tree, ?_⟩
    rw [← parsed]
    rfl

theorem nextBinary_of_ends {prec : Nat} (above : 1 ≤ prec) (ends : EndsOperands rest) :
    nextBinary prec rest = none := by
  unfold nextBinary
  split
  · rename_i op tail
    rw [if_neg]
    have zero := ends.1
    omega
  · rfl

theorem EndsOperands.endsOperand (ends : EndsOperands rest) : EndsOperand rest := by
  unfold EndsOperand
  split
  · exact ends.2 rfl
  · trivial

variable {pairs : List (Operator × List Token)}

theorem endsOperand_tailTokens
    (binary : ∀ pair ∈ pairs, 1 ≤ precedence pair.1) (ends : EndsOperands rest) :
    EndsOperand (tailTokens pairs ++ rest) := by
  cases pairs with
  | nil => exact ends.endsOperand
  | cons pair others =>
    have positive := binary pair (mem_cons_self ..)
    obtain ⟨op, operand⟩ := pair
    cases op <;> trivial

/-- An operand that the parser reads whatever follows it. -/
def Reads (tokens : List Token) : Prop :=
  ∀ fuel rest, tokens.length ≤ fuel → EndsOperand rest →
    ∃ tree, parseUnary fuel (tokens ++ rest) = some (tree, rest)

theorem nextBinary_tailTokens
    (prec : Nat) (op : Operator) (operand : List Token)
    (others : List (Operator × List Token)) (rest : List Token) :
    nextBinary prec (tailTokens ((op, operand) :: others) ++ rest) =
      if prec ≤ precedence op then
        some (op, operand ++ (tailTokens others ++ rest))
      else none := by
  simp [tailTokens, nextBinary]

theorem parseTail_of_stops {fuel prec : Nat} (x : Expr) (stops : nextBinary prec tokens = none) :
    parseTail fuel prec x tokens = some (x, tokens) := by
  cases fuel <;> simp only [parseTail, stops]

/--
The loop stops at the end of the operands or at an operator of a lower
precedence.
-/
theorem parseTail_tailTokens
    (pairs : List (Operator × List Token))
    (reads : ∀ pair ∈ pairs, 1 ≤ precedence pair.1 ∧ Reads pair.2) (ends : EndsOperands rest)
    (fuel prec : Nat) (above : 1 ≤ prec) (enough : (tailTokens pairs).length ≤ fuel) (x : Expr) :
    ∃ tree remaining,
      parseTail fuel prec x (tailTokens pairs ++ rest) = some (tree, tailTokens remaining ++ rest) ∧
      remaining <:+ pairs ∧
      ∀ pair ∈ remaining.head?, precedence pair.1 < prec := by
  cases pairs with
  | nil =>
    exact ⟨x, [], parseTail_of_stops x (nextBinary_of_ends above ends), suffix_refl _, by simp⟩
  | cons pair others =>
    cases fuel with
    | zero => simp [tailTokens] at enough
    | succ fuel =>
      obtain ⟨op, operand⟩ := pair
      obtain ⟨⟨-, readsOperand⟩, readsOthers⟩ := forall_mem_cons.mp reads
      have next := nextBinary_tailTokens prec op operand others rest
      split_ifs at next with stronger
      · have sizes : operand.length + (tailTokens others).length ≤ fuel := by
          simp only [tailTokens, flatMap_cons, length_append, length_cons] at enough ⊢
          omega
        obtain ⟨first, readFirst⟩ :=
          readsOperand fuel (tailTokens others ++ rest) (Nat.le_of_add_right_le sizes)
            (endsOperand_tailTokens (fun pair mem => (readsOthers pair mem).1) ends)
        obtain ⟨right, remaining, readRight, ⟨before, rfl⟩, -⟩ :=
          parseTail_tailTokens others readsOthers ends fuel (precedence op + 1)
            (by omega) (by omega) first
        have less : (tailTokens remaining).length ≤ fuel := by
          simp only [tailTokens, flatMap_append, length_append] at sizes ⊢
          omega
        obtain ⟨tree, left, readRest, suffix, weaker⟩ :=
          parseTail_tailTokens remaining
            (fun pair mem =>
              readsOthers pair (mem_append_right before mem))
            ends fuel prec above less (.binaryExpr x op right)
        refine ⟨tree, left, ?_, suffix.trans ⟨(op, operand) :: before, rfl⟩, weaker⟩
        simp only [parseTail, next, readFirst, readRight, readRest]
      · refine ⟨x, (op, operand) :: others, parseTail_of_stops x next, suffix_refl _, ?_⟩
        rintro pair ⟨⟩
        exact Nat.lt_of_not_le stronger

/-- At the lowest precedence the loop reads all operands. -/
theorem parseTail_all
    (reads : ∀ pair ∈ pairs, 1 ≤ precedence pair.1 ∧ Reads pair.2)
    (ends : EndsOperands rest) (fuel : Nat) (enough : (tailTokens pairs).length ≤ fuel) (x : Expr) :
    ∃ tree, parseTail fuel 1 x (tailTokens pairs ++ rest) = some (tree, rest) := by
  obtain ⟨tree, left, parsed, suffix, weaker⟩ :=
    parseTail_tailTokens pairs reads ends fuel 1 (Nat.le_refl 1) enough x
  cases left with
  | nil => exact ⟨tree, parsed⟩
  | cons pair others =>
    have lower := weaker pair rfl
    have positive := (reads pair (suffix.subset (mem_cons_self ..))).1
    omega

theorem reads_of_succ
    {token : Token}
    (reads : ∀ fuel rest, tokens.length ≤ fuel → EndsOperand rest →
      ∃ tree, parseUnary (fuel + 1) (token :: tokens ++ rest) =
        some (tree, rest)) : Reads (token :: tokens) := by
  intro fuel rest enough ends
  cases fuel with
  | zero => simp at enough
  | succ fuel => exact reads fuel rest (Nat.le_of_succ_le_succ enough) ends

/-- The parser reads every operand. -/
theorem Operand.reads (operand : Operand tokens) : Reads tokens := by
  induction operand with
  | literal kind text =>
    refine reads_of_succ fun fuel rest _ ends => ?_
    exact ⟨_, by
      simp only [cons_append, nil_append, parseUnary, parseSelectors_of_ends _ ends]
      rfl⟩
  | name first names =>
    refine reads_of_succ fun fuel rest _ ends => ?_
    obtain ⟨tree, chosen⟩ := parseSelectors_selectorTokens names (.ident first) ends
    exact ⟨tree, by simp only [cons_append, parseUnary, chosen]⟩
  | @paren first pairs operand binary operands readsFirst readsPairs =>
    rw [cons_append]
    refine reads_of_succ fun fuel rest enough ends => ?_
    simp only [length_append] at enough
    have closes : EndsOperands (.operator .rparen :: rest) := ⟨rfl, by decide⟩
    obtain ⟨left, readLeft⟩ :=
      readsFirst fuel (tailTokens pairs ++ .operator .rparen :: rest)
        (by omega) (endsOperand_tailTokens binary closes)
    obtain ⟨inner, readTail⟩ :=
      parseTail_all (fun pair mem => ⟨binary pair mem, readsPairs pair mem⟩)
        closes fuel (by omega) left
    refine ⟨.parenExpr inner, ?_⟩
    have shape :
        (.operator .lparen :: (first ++ tailTokens pairs ++
            [.operator .rparen]) ++ rest : List Token) =
          .operator .lparen :: (first ++ (tailTokens pairs ++ .operator .rparen :: rest)) := by
      simp
    rw [shape, parseUnary]
    simp only [isUnary, Bool.false_eq_true, if_false, if_true,
      readLeft, readTail, parseSelectors_of_ends _ ends]
  | @unary op tokens isUnaryOperator operand readsOperand =>
    refine reads_of_succ fun fuel rest enough ends => ?_
    obtain ⟨tree, parsed⟩ := readsOperand fuel rest enough ends
    refine ⟨.unaryExpr op tree, ?_⟩
    simp only [cons_append, parseUnary, if_pos isUnaryOperator, parsed, map_some]

/-- `ParseExpr` accepts every sequence of the operator grammar. -/
theorem Operands.accepted (operands : Operands tokens) :
    ∃ tree, parseTokens (tokens ++ [.newline]) = some tree := by
  obtain ⟨first, pairs, operand, others, rfl⟩ := operands
  have binary : ∀ pair ∈ pairs, 1 ≤ precedence pair.1 := fun pair mem => (others pair mem).1
  have ends : EndsOperands [Token.newline] := trivial
  rw [append_assoc]
  obtain ⟨left, readLeft⟩ :=
    operand.reads (first ++ (tailTokens pairs ++ [Token.newline])).length
      (tailTokens pairs ++ [Token.newline]) (by simp) (endsOperand_tailTokens binary ends)
  obtain ⟨tree, readTail⟩ :=
    parseTail_all (fun pair mem => ⟨binary pair mem, (others pair mem).2.reads⟩)
      ends (first ++ (tailTokens pairs ++ [Token.newline])).length (by simp; omega) left
  refine ⟨tree, ?_⟩
  simp only [parseTokens, parseBinary, readLeft, bind_some, readTail]

/-! ## Building operand sequences -/

theorem Operand.operands (operand : Operand tokens) : Operands tokens :=
  ⟨tokens, [], operand, by simp, by simp [tailTokens]⟩

theorem Operands.binary
    {left right : List Token} (leftOperands : Operands left) (isBinary : 1 ≤ precedence op)
    (rightOperands : Operands right) : Operands (left ++ .operator op :: right) := by
  obtain ⟨leftFirst, leftPairs, leftOperand, leftOthers, rfl⟩ := leftOperands
  obtain ⟨rightFirst, rightPairs, rightOperand, rightOthers, rfl⟩ := rightOperands
  refine
    ⟨leftFirst, leftPairs ++ (op, rightFirst) :: rightPairs, leftOperand, ?_, by simp [tailTokens]⟩
  intro pair mem
  rcases mem_append.mp mem with inLeft | inRight
  · exact leftOthers pair inLeft
  · rcases mem_cons.mp inRight with rfl | inOthers
    · exact ⟨isBinary, rightOperand⟩
    · exact rightOthers pair inOthers

theorem Operands.unary (isUnaryOperator : isUnary op) (operands : Operands tokens) :
    Operands (.operator op :: tokens) := by
  obtain ⟨first, pairs, operand, others, rfl⟩ := operands
  exact ⟨.operator op :: first, pairs, .unary isUnaryOperator operand, others, rfl⟩

theorem Operands.paren (operands : Operands tokens) :
    Operand (.operator .lparen :: tokens ++ [.operator .rparen]) := by
  obtain ⟨first, pairs, operand, others, rfl⟩ := operands
  exact .paren operand (fun pair mem => (others pair mem).1) (fun pair mem => (others pair mem).2)

/-- A unary operator can be taken off the front of a sequence. -/
theorem Operands.of_unary (notParen : op ≠ .lparen) (operands : Operands (.operator op :: tokens)) :
    Operands tokens := by
  obtain ⟨first, pairs, operand, others, whole⟩ := operands
  cases operand with
  | literal kind text => simp at whole
  | name name names => simp at whole
  | paren operand binary operands =>
    simp only [cons_append, List.cons.injEq, Token.operator.injEq] at whole
    exact absurd whole.1 notParen
  | @unary inner innerTokens isUnaryOperator operand =>
    rw [cons_append, List.cons.injEq] at whole
    exact ⟨innerTokens, pairs, operand, others, whole.2⟩

end Libbinder.Go
