import Libbinder.Aidl.Lower

/-!
# Lowering without diagnostics

Diagnostics are only ever added, so a run of lowering that ends without any
has none on its way: every type it looked at was lowered, and every value it
needed was there.  A description of an action says what its result is in such
a run, and which interfaces it may have added.
-/

namespace Libbinder.Aidl

open Go

variable {α β : Type} {coded : Interface → Prop}

/-- Diagnostics are added, and without any so are only such interfaces. -/
structure Lowered (coded : Interface → Prop) (s t : LowerState) : Prop where
  diags : s.diags <+: t.diags
  interfaces : t.diags = [] → ∀ iface ∈ t.interfaces, iface ∈ s.interfaces ∨ coded iface

/-- Where the action returns without diagnostics, its result is as described. -/
def Clean (coded : Interface → Prop) (action : LowerM α)
    (post : α → Prop) : Prop :=
  ∀ s value t, action s = .ok value t → Lowered coded s t ∧ (t.diags = [] → post value)

namespace Lowered

theorem of_same
    {s t : LowerState} (diags : t.diags = s.diags) (interfaces : t.interfaces = s.interfaces) :
    Lowered coded s t where
  diags := diags ▸ List.prefix_rfl
  interfaces := fun _ _ mem => .inl (interfaces ▸ mem)

theorem earlier {s t : LowerState} (lowered : Lowered coded s t) (none : t.diags = []) :
    s.diags = [] :=
  List.prefix_nil.mp (none ▸ lowered.diags)

theorem trans {s t u : LowerState} (first : Lowered coded s t) (second : Lowered coded t u) :
    Lowered coded s u where
  diags := first.diags.trans second.diags
  interfaces := by
    intro none iface mem
    rcases second.interfaces none iface mem with before | added
    · exact first.interfaces (second.earlier none) iface before
    · exact .inr added

end Lowered

/-! ## Rules -/

namespace Clean

theorem pure {value : α} {post : α → Prop} (holds : post value) :
    Clean coded (.pure value) post := by
  intro s result t ran
  cases ran
  exact ⟨.of_same rfl rfl, fun _ => holds⟩

variable {post : β → Prop}

theorem bind
    {first : LowerM α} {next : α → LowerM β} {middle : α → Prop}
    (firstClean : Clean coded first middle)
    (nextClean : ∀ value, Clean coded (next value) fun result => middle value → post result) :
    Clean coded (first >>= next) post := by
  intro s result u got
  obtain ⟨value, t, ran, rest⟩ := Action.of_bind_ok got
  have firstHolds := firstClean s value t ran
  have nextHolds := nextClean value t result u rest
  refine ⟨firstHolds.1.trans nextHolds.1, ?_⟩
  intro none
  exact nextHolds.2 none (firstHolds.2 (nextHolds.1.earlier none))

theorem weaken
    {action : LowerM α} {strong post : α → Prop} (clean : Clean coded action strong)
    (implies : ∀ value, strong value → post value) : Clean coded action post := by
  intro s value t ran
  have holds := clean s value t ran
  exact ⟨holds.1, fun none => implies value (holds.2 none)⟩

theorem report (diagnostic : Diagnostic) {post : Unit → Prop} :
    Clean coded (report diagnostic) post := by
  intro s value t ran
  cases ran
  constructor
  · constructor
    · exact List.prefix_append _ _
    · intro none
      simp at none
  · intro none
    simp at none

variable {next : Unit → LowerM β}

/-- What follows a diagnostic does not matter. -/
theorem report_bind {diagnostic : Diagnostic} (nextClean : Clean coded (next ()) fun _ => True) :
    Clean coded (Libbinder.Aidl.report diagnostic >>= next) post := by
  have reported : Clean coded (Libbinder.Aidl.report diagnostic) fun _ => False := report diagnostic
  exact bind reported fun _ =>
    nextClean.weaken fun _ _ impossible => impossible.elim

theorem reportIf (condition : Bool) (diagnostic : Diagnostic) :
    Clean coded (reportIf condition diagnostic) fun _ => True := by
  unfold Libbinder.Aidl.reportIf
  split
  next => exact report diagnostic
  next => exact pure trivial

theorem abort {post : α → Prop} : Clean coded (.abort : LowerM α) post := by rintro _ _ _ ⟨⟩

variable {change : LowerState → LowerState}

/-- A change of the lists that are neither diagnostics nor interfaces. -/
theorem modify
    {post : Unit → Prop} (diags : ∀ s, (change s).diags = s.diags)
    (interfaces : ∀ s, (change s).interfaces = s.interfaces) (holds : post ()) :
    Clean coded (modify change : LowerM Unit) post := by
  intro s value t ran
  cases ran
  exact ⟨.of_same (diags s) (interfaces s), fun _ => holds⟩

theorem modify_bind
    (diags : ∀ s, (change s).diags = s.diags)
    (interfaces : ∀ s, (change s).interfaces = s.interfaces)
    (nextClean : Clean coded (next ()) post) :
    Clean coded (modifyGet (fun s => ((), change s)) >>= next) post := by
  have new : Clean coded (modifyGet fun s => ((), change s)) fun _ => True :=
    modify diags interfaces trivial
  exact bind new fun _ => nextClean.weaken fun _ holds _ => holds

theorem foldlM
    {step : β → α → LowerM β} {values : List α}
    (stepClean : ∀ state value, Clean coded (step state value) fun _ => True) (start : β) :
    Clean coded (values.foldlM step start) fun _ => True := by
  induction values generalizing start with
  | nil => exact pure trivial
  | cons value rest ih =>
    rw [List.foldlM_cons]
    exact bind (stepClean start value) fun next =>
      (ih next).weaken fun _ _ _ => trivial

end Clean

open Clean

/-! ## Types and expressions -/

section Types

variable (context : LowerContext) (current : Option Nat)

theorem lowerSymbol_clean (sym : NamedSymbol) (nullable : Bool) :
    Clean coded (lowerSymbol context sym nullable) fun _ => True := by
  unfold lowerSymbol
  cases context.customOf sym with
  | some config =>
    cases nullable with
    | true =>
      exact .bind (.reportIf _ _) fun _ =>
        .pure fun _ => trivial
    | false => exact .pure trivial
  | none =>
    cases nullable with
    | true =>
      cases kind : sym.kind with
      | parcelable | union | interface => exact .pure trivial
      | enum => exact .report_bind (.pure trivial)
    | false => exact .pure trivial

theorem lowerNamed_clean (name : Name) (nullable : Bool) :
    Clean coded (lowerNamed context current name nullable) fun _ => True := by
  unfold lowerNamed
  cases builtinType name nullable with
  | some builtin => exact .pure trivial
  | none =>
    cases context.lookupType current name with
    | some sym => exact lowerSymbol_clean context sym nullable
    | none =>
      apply report_bind
      exact .modify_bind (fun _ => rfl) (fun _ => rfl) (.pure trivial)

/-- A type that is not lowered is reported. -/
theorem lowerType_clean :
    (ref : TypeRef) → Clean coded (lowerType context current ref) fun lowered => lowered.isSome
  | ⟨annotations, name, typeArgs, array, fixedArrayLen, nullable⟩ => by
    unfold lowerType
    split
    next => exact .report_bind (.pure trivial)
    next =>
      split
      next =>
        match typeArgs with
        | [] => exact .report_bind (.pure trivial)
        | [arg] =>
          apply bind (lowerType_clean arg)
          intro lowered
          cases lowered with
          | none => exact .pure id
          | some elem => exact .pure fun _ => rfl
        | _ :: _ :: _ => exact .report_bind (.pure trivial)
      next =>
        split
        next =>
          match typeArgs with
          | [] => exact .pure rfl
          | [_] => exact .report_bind (.pure trivial)
          | [keyArg, valueArg] =>
            apply bind (lowerType_clean keyArg)
            intro loweredKey
            cases loweredKey with
            | none => exact .pure id
            | some key =>
              apply bind (lowerType_clean valueArg)
              intro loweredValue
              cases loweredValue with
              | none => exact .pure fun none_ _ => none_
              | some value => exact .pure fun _ _ => rfl
          | _ :: _ :: _ :: _ => exact .report_bind (.pure trivial)
        next =>
          split
          next =>
            apply bind (lowerNamed_clean context current name false)
            intro elem
            cases fixedArrayLen with
            | none => exact .pure fun _ => rfl
            | some length =>
              exact .bind (.reportIf _ _) fun _ =>
                .pure fun _ _ => rfl
          next =>
            exact .bind (lowerNamed_clean context current name nullable)
                fun lowered => .pure fun _ => rfl

theorem lowerValueExpression_clean (src : Name) (names : List (Name × Name)) :
    Clean coded (lowerValueExpression context current src names) fun _ => True := by
  unfold lowerValueExpression
  split
  next => exact .pure trivial
  next =>
    split
    next => exact .report_bind (.pure trivial)
    next =>
      split
      next => exact .report_bind (.pure trivial)
      next => exact .pure trivial

theorem lowerValue_clean (src : Name) (names : List (Name × Name)) :
    Clean coded (lowerValue context current src names) fun _ => True := by
  apply bind (lowerValueExpression_clean context current src names)
  intro value
  split_ifs with none_
  · exact .pure fun _ => trivial
  · exact .pure fun _ => trivial

theorem lowerDefault_clean (src : Name) (names : List (Name × Name)) :
    Clean coded (lowerDefault context current src names) fun _ => True := by
  unfold lowerDefault
  split
  next => exact .pure trivial
  next => exact lowerValue_clean context current src names

/-- A handled evaluation has the value or the error it had. -/
theorem evaluated_clean (result : Except (Fault EvalError) α) :
    Clean coded (evaluated result) fun done =>
      match done with
      | .ok value => result = .ok value
      | .error reason => result = .error (.error reason) := by
  cases result with
  | ok value => exact .pure rfl
  | error fault =>
    cases fault with
    | error reason => exact .pure rfl
    | panic => exact .abort

end Types

/-! ## Members of declarations -/

section Members

variable {V : Type} (arithmetic : Arithmetic V) (context : LowerContext)
    (current : Option Nat)

/-- The constants in scope after a constant of a declaration. -/
def constantsAfter (aidlName : Name) (env : Env V) (decl : ConstDecl) : Env V :=
  match eval arithmetic decl.value env with
  | .ok value => registerValueAliases env (qualify aidlName decl.name) value
  | .error _ => env

theorem lowerConst_clean (sym : NamedSymbol) (constants : Constants V) (decl : ConstDecl) :
    Clean coded (lowerConst arithmetic context current sym constants decl)
      fun lowered => ∃ const known, lowered = some (const, known) ∧
        known.values = constantsAfter arithmetic sym.aidlName constants.values decl := by
  apply Clean.bind (lowerType_clean context current decl.type)
  intro lowered
  cases lowered with
  | none => exact .pure fun none_ => by cases none_
  | some type =>
    apply Clean.bind (lowerValue_clean context current decl.value _)
    intro value
    apply Clean.bind (evaluated_clean _)
    intro done
    cases done with
    | ok | error =>
      apply Clean.pure
      intro evaluates _ _
      refine ⟨_, _, rfl, ?_⟩
      simp only [constantsAfter, evaluates]

/-- The parameters do not change the code of a method. -/
theorem lowerArgs_clean (args : List Field) (method : Method) :
    Clean coded (lowerArgs context current method args)
      fun lowered => ∃ result, lowered = some result ∧
        result.transactionCode = method.transactionCode := by
  induction args generalizing method with
  | nil => exact .pure ⟨method, rfl, rfl⟩
  | cons arg rest ih =>
    apply bind (lowerType_clean context current _)
    intro lowered
    cases lowered with
    | none => exact .pure fun none_ => by cases none_
    | some type =>
      cases arg.direction with
      | unspecified | input | output | inout =>
        exact (ih _).weaken fun _ holds _ => holds

theorem lowerResult_clean (method : Method) (ref : TypeRef) :
    Clean coded (lowerResult context current method ref)
      fun lowered => ∃ result, lowered = some result ∧
        result.transactionCode = method.transactionCode := by
  unfold lowerResult
  split_ifs with isVoid
  · exact .pure ⟨method, rfl, rfl⟩
  · apply bind (lowerType_clean context current ref)
    intro lowered
    cases lowered with
    | none => exact .pure fun none_ => by cases none_
    | some type => exact .pure fun _ => ⟨_, rfl, rfl⟩

theorem lowerMethod_clean (iface : Interface) (decl : MethodDecl) (txCode : UInt32) :
    Clean coded (lowerMethod context current iface decl txCode)
      fun lowered => ∃ method, lowered = some method ∧ method.transactionCode = txCode := by
  apply Clean.bind (lowerResult_clean context current _ _)
  intro returning
  cases returning with
  | none =>
    apply Clean.pure
    rintro ⟨_, none_, _⟩
    cases none_
  | some begun =>
    apply Clean.bind (lowerArgs_clean context current _ begun)
    intro lowered
    cases lowered with
    | none =>
      apply Clean.pure
      rintro ⟨_, none_, _⟩
      cases none_
    | some method =>
      apply Clean.bind (.reportIf _ _)
      intro _
      apply Clean.bind (.reportIf _ _)
      intro _
      apply Clean.pure
      rintro _ _ ⟨_, same, code⟩ ⟨_, sameStart, startCode⟩
      cases same
      cases sameStart
      exact ⟨method, rfl, code.trans startCode⟩

end Members

/-! ## Declarations that hold no interface -/

section Declarations

variable {V : Type} (arithmetic : Arithmetic V) (context : LowerContext)

theorem enumBackingType_clean (annotations : List Annotation) :
    Clean coded (enumBackingType annotations) fun _ => True := by
  unfold enumBackingType
  dsimp only
  split
  next => exact .pure trivial
  next =>
    split
    next => exact .pure trivial
    next =>
      split
      next => exact .pure trivial
      next => exact .report_bind (.pure trivial)

variable (current : Option Nat) (sym : NamedSymbol)

theorem lowerEnumMember_clean (loop : EnumLoop V) (mem : EnumMember) :
    Clean coded (lowerEnumMember arithmetic context current sym loop mem) fun _ => True := by
  unfold lowerEnumMember
  split
  next =>
    split
    next => exact .report_bind (.pure trivial)
    next => exact .pure trivial
  next =>
    apply bind (lowerValue_clean context current _ _)
    intro value
    apply bind (evaluated_clean _)
    intro done
    cases done with
    | ok | error => exact .pure fun _ _ => trivial

theorem lowerEnum_clean (current : Nat) (decl : EnumDecl) :
    Clean coded (lowerEnum arithmetic context current decl) fun _ => True := by
  unfold lowerEnum
  split
  next => exact .pure trivial
  next sym _ =>
    apply Clean.bind (enumBackingType_clean decl.annotations)
    intro underlying
    apply Clean.bind (.foldlM (lowerEnumMember_clean arithmetic context (some current) sym) _)
    intro loop
    exact .modify (fun _ => rfl) (fun _ => rfl) fun _ _ => trivial

theorem lowerUnionFields_clean (given : List Field) (fields : List GoField) :
    Clean coded (lowerUnionFields context current fields given) fun _ => True := by
  induction given generalizing fields with
  | nil => exact .pure trivial
  | cons field rest ih =>
    apply bind (lowerType_clean context current _)
    intro lowered
    cases lowered with
    | none => exact .pure fun _ => trivial
    | some type => exact (ih _).weaken fun _ _ _ => trivial

theorem lowerUnion_clean (current : Nat) (decl : UnionDecl) :
    Clean coded (lowerUnion context current decl) fun _ => True := by
  unfold lowerUnion
  split
  next => exact .pure trivial
  next =>
    apply bind (lowerUnionFields_clean context _ decl.fields [])
    intro lowered
    cases lowered with
    | none => exact .pure fun _ => trivial
    | some fields => exact .modify (fun _ => rfl) (fun _ => rfl) fun _ => trivial

theorem lowerParcelableConsts_clean
    (given : List ConstDecl) (consts : List Const) (constants : Constants V) :
    Clean coded
      (lowerParcelableConsts arithmetic context current sym consts constants given)
      fun _ => True := by
  induction given generalizing consts constants with
  | nil => exact .pure trivial
  | cons decl rest ih =>
    apply bind (lowerConst_clean arithmetic context current sym constants decl)
    intro lowered
    cases lowered with
    | none => exact .pure fun _ => trivial
    | some found => exact (ih _ _).weaken fun _ _ _ => trivial

theorem lowerParcelableFields_clean
    (names : List (Name × Name)) (given : List Field) (fields : List GoField) :
    Clean coded (lowerParcelableFields context current names fields given) fun _ => True := by
  induction given generalizing fields with
  | nil => exact .pure trivial
  | cons field rest ih =>
    apply bind (lowerType_clean context current _)
    intro lowered
    cases lowered with
    | none => exact .pure fun _ => trivial
    | some type =>
      apply bind (lowerDefault_clean context current _ names)
      intro defaultValue
      exact (ih _).weaken fun _ _ _ _ => trivial

theorem lowerParcelableBody_clean
    (fieldScope : Nat) (annotations : List Annotation)
    (structured : Bool) (consts : List ConstDecl) (fields : List Field) :
    Clean coded
      (lowerParcelableBody arithmetic context sym fieldScope annotations structured consts fields)
      fun _ => True := by
  apply bind (lowerParcelableConsts_clean arithmetic context _ sym consts [] _)
  intro lowered
  cases lowered with
  | none => exact .pure fun _ => trivial
  | some found =>
    apply bind (lowerParcelableFields_clean context _ found.2.names fields [])
    intro loweredFields
    cases loweredFields with
    | none => exact .pure fun _ _ => trivial
    | some goFields =>
      exact .modify_bind (fun _ => rfl) (fun _ => rfl) (.pure fun _ _ => trivial)

end Declarations

end Libbinder.Aidl
