import Libbinder.Go.ParseExpr

/-!
# Trees the parser builds

A tree is grouped when its operators stand in it as their precedences say:
a left operand binds at least as tightly as the operator, a right operand more
tightly, and the operand of a unary operator is no binary expression.  The
parser turns the tokens of a grouped tree back into the tree.
-/

namespace Libbinder.Go

open List

open Scanner (Token Operator LiteralKind)

namespace Expr

/-- How tightly an expression binds; binary operators bind below 6. -/
def level : Expr → Nat
  | .binaryExpr _ op _ => precedence op
  | _ => 6

/-- The operand of a selector. -/
def isPrimary : Expr → Bool
  | .unaryExpr _ _ => false
  | .binaryExpr _ _ _ => false
  | _ => true

/-- The operators group the operands by their precedences. -/
def Grouped : Expr → Prop
  | .basicLit _ _ => True
  | .ident _ => True
  | .selectorExpr x _ => x.isPrimary ∧ x.Grouped
  | .parenExpr x => x.Grouped
  | .unaryExpr op x => isUnary op ∧ x.level = 6 ∧ x.Grouped
  | .binaryExpr x op y =>
    1 ≤ precedence op ∧ precedence op ≤ x.level ∧ precedence op < y.level ∧ x.Grouped ∧ y.Grouped

end Expr

theorem precedence_le (op : Operator) : precedence op ≤ 5 := by
  cases op <;> decide

variable {tree : Expr}

theorem Expr.Grouped.level_pos (grouped : tree.Grouped) : 1 ≤ tree.level := by
  cases tree with
  | binaryExpr x op y => exact grouped.1
  | _ => exact Nat.le_of_ble_eq_true rfl

/-! ## Readings with enough fuel -/

/-- The operand at the front of the tokens, read with enough fuel. -/
def ReadsUnary (fuel : Nat) (tokens : List Token)
    (found : Expr × List Token) : Prop :=
  ∀ more, fuel ≤ more → parseUnary more tokens = some found

/-- The operators after an operand, read with enough fuel. -/
def ReadsTail (fuel prec : Nat) (x : Expr) (tokens : List Token)
    (found : Expr × List Token) : Prop :=
  ∀ more, fuel ≤ more → parseTail more prec x tokens = some found

section Readings

variable {fuel prec : Nat} {tokens rest after : List Token}

theorem ReadsUnary.literal (kind : LiteralKind) (text : List UInt8) :
    ReadsUnary 1 (.literal kind text :: rest) (parseSelectors (.basicLit kind text) rest) := by
  intro more enough
  cases more with
  | zero => cases enough
  | succ more => rw [parseUnary]

theorem ReadsUnary.ident (name : List UInt8) :
    ReadsUnary 1 (.ident name :: rest) (parseSelectors (.ident name) rest) := by
  intro more enough
  cases more with
  | zero => cases enough
  | succ more => rw [parseUnary]

theorem ReadsUnary.unary
    {op : Operator} {x : Expr} (isUnaryOperator : isUnary op)
    (reads : ReadsUnary fuel tokens (x, rest)) :
    ReadsUnary (fuel + 1) (.operator op :: tokens) (.unaryExpr op x, rest) := by
  intro more enough
  cases more with
  | zero => cases enough
  | succ more =>
    rw [parseUnary, if_pos isUnaryOperator, reads more (Nat.le_of_succ_le_succ enough)]
    rfl

variable {afterFirst : List Token}

theorem ReadsUnary.paren
    {first x : Expr} (readsFirst : ReadsUnary fuel tokens (first, afterFirst))
    (readsRest : ReadsTail fuel 1 first afterFirst (x, .operator .rparen :: after)) :
    ReadsUnary (fuel + 1) (.operator .lparen :: tokens) (parseSelectors (.parenExpr x) after) := by
  intro more enough
  cases more with
  | zero => cases enough
  | succ more =>
    have inner := Nat.le_of_succ_le_succ enough
    rw [parseUnary]
    simp only [isUnary, Bool.false_eq_true, if_false, if_true,
      readsFirst more inner, readsRest more inner]

theorem ReadsTail.stop (x : Expr) (stops : nextBinary prec tokens = none) :
    ReadsTail 0 prec x tokens (x, tokens) := by
  intro more _
  cases more with
  | zero | succ => rw [parseTail, stops]

variable {found : Expr × List Token}

theorem ReadsTail.step
    {x first y : Expr} {op : Operator} (next : nextBinary prec tokens = some (op, rest))
    (readsFirst : ReadsUnary fuel rest (first, afterFirst))
    (readsRight : ReadsTail fuel (precedence op + 1) first afterFirst (y, after))
    (readsRest : ReadsTail fuel prec (.binaryExpr x op y) after found) :
    ReadsTail (fuel + 1) prec x tokens found := by
  intro more enough
  cases more with
  | zero => cases enough
  | succ more =>
    have inner := Nat.le_of_succ_le_succ enough
    rw [parseTail, next]
    simp only [readsFirst more inner, readsRight more inner]
    exact readsRest more inner

theorem ReadsUnary.more {less : Nat} (reads : ReadsUnary less tokens found) (enough : less ≤ fuel) :
    ReadsUnary fuel tokens found :=
  fun more bound => reads more (Nat.le_trans enough bound)

theorem ReadsTail.more
    {x : Expr} {less : Nat} (reads : ReadsTail less prec x tokens found) (enough : less ≤ fuel) :
    ReadsTail fuel prec x tokens found :=
  fun more bound => reads more (Nat.le_trans enough bound)

theorem nextBinary_none_mono
    {higher : Nat} (stops : nextBinary prec tokens = none) (le : prec ≤ higher) :
    nextBinary higher tokens = none := by
  cases next : nextBinary higher tokens with
  | none => rfl
  | some found =>
    rcases nextBinary_eq_some next with ⟨rfl, fits⟩
    rw [nextBinary, if_pos (Nat.le_trans le fits)] at stops
    cases stops

theorem nextBinary_high (tokens : List Token) : nextBinary 6 tokens = none := by
  cases next : nextBinary 6 tokens with
  | none => rfl
  | some found =>
    have bounded := (nextBinary_eq_some next).2
    have high := precedence_le found.1
    omega

end Readings

/-! ## Grouped trees are read back -/

/--
An operand is read together with the selectors that may follow; the operators
after any other expression are read as if it had been read alone.
-/
structure Expr.ReadBack (tree : Expr) : Prop where
  primary : tree.isPrimary → ∀ rest,
      ReadsUnary tree.flatten.length (tree.flatten ++ rest) (parseSelectors tree rest)
  tail : ∀ rest prec fuel found, EndsOperand rest → prec ≤ tree.level →
      nextBinary (tree.level + 1) rest = none →
      ReadsTail fuel prec tree rest found →
      ∃ first after,
        ReadsUnary tree.flatten.length (tree.flatten ++ rest)
            (first, after) ∧
          ReadsTail (tree.flatten.length + fuel) prec first after found

theorem Expr.ReadBack.of_primary
    (primary : ∀ rest, ReadsUnary tree.flatten.length (tree.flatten ++ rest)
        (parseSelectors tree rest)) : tree.ReadBack := by
  constructor
  · intro _
    exact primary
  · intro rest prec fuel found ends _ _ reads
    have whole := primary rest
    rw [parseSelectors_of_ends tree ends] at whole
    exact ⟨tree, rest, whole, reads.more (Nat.le_add_left _ _)⟩

variable {x : Expr}

theorem Expr.ReadBack.selector (inner : x.ReadBack) (isPrimary : x.isPrimary) (sel : List UInt8) :
    (Expr.selectorExpr x sel).ReadBack := by
  apply of_primary
  intro rest
  have reads := inner.primary isPrimary (.operator .period :: .ident sel :: rest)
  rw [parseSelectors] at reads
  rw [flatten, append_assoc, length_append]
  exact reads.more (Nat.le_add_right _ _)

theorem Expr.ReadBack.paren (inner : x.ReadBack) (grouped : x.Grouped) :
    (Expr.parenExpr x).ReadBack := by
  apply of_primary
  intro rest
  have closes : EndsOperands (.operator .rparen :: rest) := ⟨rfl, Operator.noConfusion⟩
  rcases inner.tail (.operator .rparen :: rest) 1 0 _ closes.endsOperand
      grouped.level_pos
      (nextBinary_of_ends (Nat.le_add_left 1 _) closes)
      (.stop x (nextBinary_of_ends (Nat.le_refl 1) closes)) with
    ⟨first, after, readsFirst, readsRest⟩
  have reads := ReadsUnary.paren readsFirst readsRest
  rw [flatten, append_assoc, length_append]
  exact reads.more (Nat.le_add_right _ _)

variable {op : Operator}

theorem Expr.ReadBack.unary
    (isUnaryOperator : isUnary op) (inner : x.ReadBack) (tight : x.level = 6) :
    (Expr.unaryExpr op x).ReadBack := by
  constructor
  · rintro ⟨⟩
  · intro rest prec fuel found ends _ _ reads
    have stops := nextBinary_high rest
    rcases inner.tail rest 6 0 _ ends (Nat.le_of_eq tight.symm)
        (nextBinary_none_mono stops (by omega)) (.stop x stops) with
      ⟨first, after, readsFirst, readsRest⟩
    have alone : parseTail (x.flatten.length + 0) 6 first after = some (first, after) :=
      ReadsTail.stop first (nextBinary_high after) _ (Nat.zero_le _)
    cases (readsRest _ (Nat.le_refl _)).symm.trans alone
    exact ⟨_, _, .unary isUnaryOperator readsFirst, reads.more (Nat.le_add_left _ _)⟩

theorem endsOperand_binary (isBinary : 1 ≤ precedence op) (rest : List Token) :
    EndsOperand (.operator op :: rest) := by
  cases op <;> trivial

theorem Expr.ReadBack.binary
    {y : Expr} (left : x.ReadBack) (right : y.ReadBack) (isBinary : 1 ≤ precedence op)
    (leftTight : precedence op ≤ x.level) (rightTight : precedence op < y.level) :
    (Expr.binaryExpr x op y).ReadBack := by
  constructor
  · rintro ⟨⟩
  · intro rest prec fuel found ends fits stops reads
    change prec ≤ precedence op at fits
    change nextBinary (precedence op + 1) rest = none at stops
    rcases right.tail rest (precedence op + 1) 0 _ ends rightTight
        (nextBinary_none_mono stops (by omega)) (.stop y stops) with
      ⟨first, after, readsFirst, readsRight⟩
    have next :
        nextBinary prec (.operator op :: (y.flatten ++ rest)) =
          some (op, y.flatten ++ rest) := if_pos fits
    have weaker :
        nextBinary (x.level + 1) (.operator op :: (y.flatten ++ rest)) = none := if_neg (by omega)
    have readsTail :
        ReadsTail (y.flatten.length + fuel + 1) prec x
          (.operator op :: (y.flatten ++ rest)) found :=
      .step next (readsFirst.more (Nat.le_add_right _ _))
        (readsRight.more (Nat.le_add_right _ _))
        (reads.more (Nat.le_add_left _ _))
    rcases left.tail _ prec _ found (endsOperand_binary isBinary _)
        (Nat.le_trans fits leftTight) weaker readsTail with
      ⟨start, afterStart, readsStart, readsWhole⟩
    refine ⟨start, afterStart, ?_, ?_⟩
    · rw [flatten, append_assoc, length_append]
      exact readsStart.more (Nat.le_add_right _ _)
    · rw [flatten, length_append, length_cons]
      exact readsWhole.more (by omega)

theorem Expr.Grouped.readBack (grouped : tree.Grouped) : tree.ReadBack := by
  induction tree with
  | basicLit kind value => exact .of_primary fun _ => .literal kind value
  | ident name => exact .of_primary fun _ => .ident name
  | selectorExpr x sel ih =>
    rcases grouped with ⟨isPrimary, inner⟩
    exact (ih inner).selector isPrimary sel
  | parenExpr x ih => exact (ih grouped).paren grouped
  | unaryExpr op x ih =>
    rcases grouped with ⟨isUnaryOperator, tight, inner⟩
    exact .unary isUnaryOperator (ih inner) tight
  | binaryExpr x op y leftIh rightIh =>
    rcases grouped with ⟨isBinary, leftTight, rightTight, left, right⟩
    exact .binary (leftIh left) (rightIh right) isBinary leftTight rightTight

/-- `ParseExpr` turns the tokens of a grouped tree into the tree. -/
theorem Expr.Grouped.parseTokens (grouped : tree.Grouped) :
    parseTokens (tree.flatten ++ [.newline]) = some tree := by
  have ends : EndsOperands [Token.newline] := trivial
  rcases grouped.readBack.tail [.newline] 1 0 _ ends.endsOperand
      grouped.level_pos
      (nextBinary_of_ends (Nat.le_add_left 1 _) ends)
      (.stop tree (nextBinary_of_ends (Nat.le_refl 1) ends)) with
    ⟨first, after, readsFirst, readsRest⟩
  have enough : tree.flatten.length ≤ (tree.flatten ++ [Token.newline]).length := by
    simp
  simp only [Go.parseTokens, parseBinary, readsFirst _ enough, Option.bind_some,
    readsRest _ enough]

end Libbinder.Go
