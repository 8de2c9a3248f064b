import Libbinder.Aidl.Clean
import Libbinder.Aidl.Resolve
import Mathlib.Data.List.Nodup

/-!
# Transaction codes

The codes `lowerInterface` gives to the methods of an interface.  When nothing
is reported they are a function of the transactions that the methods declare:
a method without one gets the counter, and a method with one gets the low half
of its value and moves the counter past it.

The codes are distinct and usable exactly when no declared code repeats an
earlier one, declared or counted, and all of them are inside the range.
-/

namespace Libbinder.Aidl

open Clean File

open Go List
open Go.Scanner (bytesOf LiteralKind)

/-! ## Codes of calls -/

def firstCallTransaction : Nat :=
  0x00000001

def lastCallTransaction : Nat :=
  0x00ffffff

def getInterfaceHashTransaction : Nat :=
  0x00fffffd

def getInterfaceVersionTransaction : Nat :=
  0x00fffffe

/-- A code in the range of calls that is not reserved. -/
structure Usable (code : Nat) : Prop where
  first : firstCallTransaction ≤ code
  last : code ≤ lastCallTransaction
  notHash : code ≠ getInterfaceHashTransaction
  notVersion : code ≠ getInterfaceVersionTransaction

instance (code : Nat) : Decidable (Usable code) :=
  decidable_of_iff
    (firstCallTransaction ≤ code ∧ code ≤ lastCallTransaction ∧
      code ≠ getInterfaceHashTransaction ∧
      code ≠ getInterfaceVersionTransaction)
    ⟨fun ⟨first, last, notHash, notVersion⟩ =>
      ⟨first, last, notHash, notVersion⟩,
      fun usable =>
        ⟨usable.first, usable.last, usable.notHash, usable.notVersion⟩⟩

/-- The codes of the methods of an interface. -/
def Interface.codes (iface : Interface) : List UInt32 :=
  iface.methods.map Method.transactionCode

/-- Distinct codes, all of them usable. -/
def CodesSafe (codes : List Nat) : Prop :=
  codes.Nodup ∧ ∀ code ∈ codes, Usable code

instance (codes : List Nat) : Decidable (CodesSafe codes) :=
  inferInstanceAs (Decidable (_ ∧ _))

/-! ## Declared transactions -/

/-- `uint32(value)`. -/
def declaredCode (value : Int64) : UInt32 :=
  value.toUInt64.toUInt32

section

variable {V : Type} (arithmetic : Arithmetic V)

/-- The transaction a method declares; zero when it has no value. -/
def declaredTransaction (env : Env V) (decl : MethodDecl) : Option Int64 :=
  if decl.transaction = [] then none
  else
    match evalInt64 arithmetic decl.transaction env with
    | .ok value => some value
    | .error _ => some 0

/-- The transactions the methods of an interface declare. -/
def declaredTransactions (aidlName : Name) : Env V → List InterfaceMember → List (Option Int64)
  | _, [] => []
  | env, .method decl :: rest =>
    declaredTransaction arithmetic env decl :: declaredTransactions aidlName env rest
  | env, .const decl :: rest =>
    declaredTransactions aidlName (constantsAfter arithmetic aidlName env decl) rest
  | env, _ :: rest => declaredTransactions aidlName env rest

end

/-- The code of a method at a value of the counter. -/
def codeAt (txCode : UInt32) : Option Int64 → UInt32
  | none => txCode
  | some value => declaredCode value

/-- The counter after a method. -/
def counterAfter (txCode : UInt32) : Option Int64 → UInt32
  | none => txCode + 1
  | some value =>
    if declaredCode value + 1 > txCode then declaredCode value + 1
    else txCode

/-- The codes given from a value of the counter on. -/
def assignCodes : UInt32 → List (Option Int64) → List UInt32
  | _, [] => []
  | txCode, transaction :: rest =>
    codeAt txCode transaction :: assignCodes (counterAfter txCode transaction) rest

/-! ## Numbering without overflow -/

/-- One more than the largest code given so far. -/
def nextCode (declared : List (Option Nat)) : Nat :=
  declared.foldl
    (fun next transaction =>
      match transaction with
      | none => next + 1
      | some code => max next (code + 1))
    1

/-- The code of a method after others. -/
def codeAfter (before : List (Option Nat)) : Option Nat → Nat
  | none => nextCode before
  | some code => code

/-- The codes given from a value of the counter on, as natural numbers. -/
def number : Nat → List (Option Nat) → List Nat
  | _, [] => []
  | next, none :: rest => next :: number (next + 1) rest
  | next, some code :: rest => code :: number (max next (code + 1)) rest

variable (before : List (Option Nat)) (last : Option Nat)

theorem nextCode_concat :
    nextCode (before ++ [last]) = max (nextCode before) (codeAfter before last + 1) := by
  cases last with
  | none | some => simp [nextCode, codeAfter]

theorem number_append (next : Nat) (before after : List (Option Nat)) :
    number next (before ++ after) =
      number next before ++
        number
          (before.foldl
            (fun next transaction =>
              match transaction with
              | none => next + 1
              | some code => max next (code + 1))
            next)
          after := by
  induction before generalizing next with
  | nil => rfl
  | cons transaction rest ih =>
    cases transaction with
    | none | some => simp [number, ih]

theorem number_concat :
    number 1 (before ++ [last]) = number 1 before ++ [codeAfter before last] := by
  rw [number_append]
  cases last with
  | none => rfl
  | some code => rfl

/-- The counter is past every code. -/
theorem number_lt_nextCode : ∀ code ∈ number 1 before, code < nextCode before := by
  induction before using List.reverseRecOn with
  | nil => simp [number]
  | append_singleton before last ih =>
    intro code mem
    rw [number_concat, mem_append, mem_singleton] at mem
    rw [nextCode_concat]
    rcases mem with past | rfl
    · exact Nat.lt_of_lt_of_le (ih code past) (Nat.le_max_left _ _)
    · exact Nat.lt_of_lt_of_le (Nat.lt_succ_self _) (Nat.le_max_right _ _)

/-- A code was declared, or it was the counter at a method without one. -/
theorem mem_number_iff (code : Nat) (before : List (Option Nat)) :
    code ∈ number 1 before ↔
      some code ∈ before ∨ ∃ left right, before = left ++ none :: right ∧ nextCode left = code := by
  induction before using List.reverseRecOn with
  | nil => simp [number]
  | append_singleton before last ih =>
    rw [number_concat, mem_append, mem_singleton, ih, mem_append, mem_singleton]
    constructor
    · rintro ((given | ⟨left, right, rfl, counted⟩) | rfl)
      · exact .inl (.inl given)
      · exact .inr ⟨left, right ++ [last], by simp, counted⟩
      · cases last with
        | none => exact .inr ⟨before, [], rfl, rfl⟩
        | some value => exact .inl (.inr rfl)
    · rintro ((given | rfl) | ⟨left, right, split, counted⟩)
      · exact .inl (.inl given)
      · exact .inr rfl
      · rcases eq_nil_or_concat right with rfl | ⟨middle, final, rfl⟩
        · have parts := append_inj' split rfl
          cases parts.1
          cases parts.2
          exact .inr counted.symm
        · have regrouped : before ++ [last] = (left ++ none :: middle) ++ [final] := by
            simpa using split
          have parts := append_inj' regrouped rfl
          exact .inl (.inr ⟨left, middle, parts.1, counted⟩)

/-! ## The condition -/

/-- A method may follow others: its code is usable and not yet taken. -/
def SoundAfter (before : List (Option Nat)) : Option Nat → Prop
  | none => Usable (nextCode before)
  | some code =>
    Usable code ∧ some code ∉ before ∧
      ∀ left right, before = left ++ none :: right → nextCode left ≠ code

/--
No declared code repeats an earlier one, declared or counted, and every code,
declared or counted, is usable.
-/
def Sound (declared : List (Option Nat)) : Prop :=
  ∀ before transaction after, declared = before ++ transaction :: after →
    SoundAfter before transaction

theorem sound_concat : Sound (before ++ [last]) ↔ Sound before ∧ SoundAfter before last := by
  constructor
  · intro sound
    constructor
    · intro left transaction right split
      exact sound left transaction (right ++ [last]) (by simp [split])
    · exact sound before last [] rfl
  · rintro ⟨sound, soundLast⟩ left transaction right split
    rcases eq_nil_or_concat right with rfl | ⟨middle, final, rfl⟩
    · have parts := append_inj' split rfl
      cases parts.1
      cases parts.2
      exact soundLast
    · have regrouped : before ++ [last] = (left ++ transaction :: middle) ++ [final] := by
        simpa using split
      exact sound left transaction middle (append_inj' regrouped rfl).1

theorem soundAfter_iff :
    SoundAfter before last ↔
      Usable (codeAfter before last) ∧ codeAfter before last ∉ number 1 before := by
  cases last with
  | none =>
    constructor
    · intro usable
      exact
        ⟨usable, fun mem =>
          absurd (number_lt_nextCode before _ mem) (Nat.lt_irrefl _)⟩
    · exact fun both => both.1
  | some code =>
    change Usable code ∧ _ ↔ Usable code ∧ code ∉ number 1 before
    rw [mem_number_iff]
    simp only [not_or, not_exists, not_and, ne_eq]

/-- The numbering is safe exactly under the condition. -/
theorem codesSafe_number_iff (declared : List (Option Nat)) :
    CodesSafe (number 1 declared) ↔ Sound declared := by
  induction declared using List.reverseRecOn with
  | nil => simp [CodesSafe, number, Sound]
  | append_singleton before last ih =>
    rw [sound_concat, ← ih, soundAfter_iff, number_concat, CodesSafe, CodesSafe, nodup_append_comm]
    simp only [singleton_append, nodup_cons, mem_append,
      mem_singleton, or_imp, forall_and, forall_eq]
    tauto

/-! ## The counter does not overflow -/

/-- The declared codes as natural numbers. -/
def declaredCodes (declared : List (Option Int64)) : List (Option Nat) :=
  declared.map (.map fun value => (declaredCode value).toNat)

theorem Usable.small {code : Nat} (usable : Usable code) : code < 0x1000000 :=
  Nat.lt_succ_of_le usable.last

theorem toNat_succ {code : UInt32} (usable : Usable code.toNat) :
    (code + 1).toNat = code.toNat + 1 := by
  have small := usable.small
  rw [UInt32.toNat_add]
  apply Nat.mod_eq_of_lt
  change code.toNat + 1 < 4294967296
  omega

/-- The counter after a declared code. -/
theorem toNat_raise {code txCode : UInt32} (usable : Usable code.toNat) :
    (if code + 1 > txCode then code + 1 else txCode).toNat = max txCode.toNat (code.toNat + 1) := by
  rw [← toNat_succ usable]
  split_ifs with greater
  · rw [gt_iff_lt, UInt32.lt_iff_toNat_lt] at greater
    exact (Nat.max_eq_right (Nat.le_of_lt greater)).symm
  · rw [gt_iff_lt, UInt32.lt_iff_toNat_lt, Nat.not_lt] at greater
    exact (Nat.max_eq_left greater).symm

theorem or_forall_mem_cons
    {α β : Type} {p : α → Prop} {q : β → Prop} {x : α} {y : β} {xs : List α}
    {ys : List β} (either : (∀ a ∈ x :: xs, p a) ∨ ∀ b ∈ y :: ys, q b) :
    (p x ∨ q y) ∧ ((∀ a ∈ xs, p a) ∨ ∀ b ∈ ys, q b) := by
  rw [forall_mem_cons, forall_mem_cons] at either
  tauto

/--
The codes are those of the numbering as soon as the codes of one of the two
are usable: up to the first other code the counters agree.
-/
theorem assignCodes_eq
    {txCode : UInt32} {given : List (Option Int64)}
    (usable : (∀ code ∈ assignCodes txCode given, Usable code.toNat) ∨
        ∀ code ∈ number txCode.toNat (declaredCodes given), Usable code) :
    (assignCodes txCode given).map UInt32.toNat = number txCode.toNat (declaredCodes given) := by
  induction given generalizing txCode with
  | nil => rfl
  | cons transaction rest ih =>
    cases transaction with
    | none =>
      rcases or_forall_mem_cons usable with ⟨head, later⟩
      have tail := @ih (txCode + 1)
      rw [toNat_succ (or_self_iff.mp head : Usable txCode.toNat)] at tail
      change txCode.toNat :: _ = txCode.toNat :: _
      congr 1
      exact tail later
    | some value =>
      rcases or_forall_mem_cons usable with ⟨head, later⟩
      have tail := @ih (counterAfter txCode (some value))
      rw [counterAfter, toNat_raise
        (or_self_iff.mp head : Usable (declaredCode value).toNat)] at tail
      change (declaredCode value).toNat :: _ = (declaredCode value).toNat :: _
      congr 1
      exact tail later

theorem codesSafe_assignCodes_iff (given : List (Option Int64)) :
    CodesSafe ((assignCodes 1 given).map UInt32.toNat) ↔ Sound (declaredCodes given) := by
  rw [← codesSafe_number_iff]
  constructor
  · intro safe
    have usable : ∀ code ∈ assignCodes 1 given, Usable code.toNat :=
      fun code mem => safe.2 _ (mem_map_of_mem mem)
    rwa [assignCodes_eq (.inl usable)] at safe
  · intro safe
    have agree : (assignCodes 1 given).map UInt32.toNat = number 1 (declaredCodes given) :=
      assignCodes_eq (.inr safe.2)
    rwa [agree]

/-! ## The loop over the members -/

section Loop

variable {V : Type} (arithmetic : Arithmetic V) (context : LowerContext)
    {coded : Interface → Prop}

/-- The codes of the interface when the loop ends, at a member of it. -/
def codesToCome (aidlName : Name) (loop : InterfaceLoop V)
    (rest : List InterfaceMember) : List UInt32 :=
  loop.iface.codes ++
    assignCodes loop.txCode (declaredTransactions arithmetic aidlName loop.constants.values rest)

/-- A member does not change which codes the interface will have. -/
structure Continues (owner : Name) (loop : InterfaceLoop V)
    (members : List InterfaceMember) (next : InterfaceLoop V)
    (rest : List InterfaceMember) : Prop where
  aidlName : next.iface.aidlName = loop.iface.aidlName
  descriptor : next.iface.descriptor = loop.iface.descriptor
  codes : codesToCome arithmetic owner next rest = codesToCome arithmetic owner loop members

theorem Continues.trans
    {owner : Name} {first second third : InterfaceLoop V}
    {members others rest : List InterfaceMember}
    (before : Continues arithmetic owner first members second others)
    (after : Continues arithmetic owner second others third rest) :
    Continues arithmetic owner first members third rest where
  aidlName := after.aidlName.trans before.aidlName
  descriptor := after.descriptor.trans before.descriptor
  codes := after.codes.trans before.codes

theorem methodTxCode_clean
    (now : Option Nat) (iface : Interface) (constants : Constants V)
    (decl : MethodDecl) (txCode : UInt32) :
    Clean coded
      (methodTxCode arithmetic context now iface constants decl txCode)
      fun codes =>
        codes.1 = codeAt txCode (declaredTransaction arithmetic constants.values decl) ∧
          (if decl.transaction = [] then codes.2 + 1 else codes.2) =
            counterAfter txCode (declaredTransaction arithmetic constants.values decl) := by
  unfold methodTxCode declaredTransaction
  split
  next => exact .pure ⟨rfl, rfl⟩
  next =>
    apply bind (lowerValue_clean context now _ _)
    intro valueExpr
    apply bind (evaluated_clean _)
    intro done
    cases done with
    | error reason => exact .report_bind (.pure trivial)
    | ok value =>
      dsimp only
      split
      next => exact .report_bind (.pure trivial)
      next =>
        apply Clean.pure
        intro evaluates _
        rw [evaluates]
        exact ⟨rfl, rfl⟩

end Loop

/-! ## Whole files -/

mutual

/-- The interfaces a declaration holds, itself included. -/
def interfacesOfDecl : Decl → List InterfaceDecl
  | .interface ⟨annotations, oneway, name, members⟩ =>
    ⟨annotations, oneway, name, members⟩ :: interfacesOfMembers members
  | .parcelable ⟨_, _, _, _, _, _, decls⟩ => interfacesOf decls
  | .enum _ => []
  | .union _ => []

/-- The interfaces of a list of declarations. -/
def interfacesOf : List Decl → List InterfaceDecl
  | [] => []
  | decl :: rest => interfacesOfDecl decl ++ interfacesOf rest

/-- The interfaces inside the members of an interface. -/
def interfacesOfMembers : List InterfaceMember → List InterfaceDecl
  | [] => []
  | member :: rest => interfacesOfMember member ++ interfacesOfMembers rest

/-- The interfaces inside one member of an interface. -/
def interfacesOfMember : InterfaceMember → List InterfaceDecl
  | .parcelable ⟨_, _, _, _, _, _, decls⟩ => interfacesOf decls
  | .method _ => []
  | .const _ => []
  | .enum _ => []
  | .union _ => []

end

section Files

variable {V : Type} (arithmetic : Arithmetic V) (context : LowerContext)
    (known : InterfaceDecl → Prop)

/-- The interface is one of the declared, with the codes of its methods. -/
def Coded (iface : Interface) : Prop :=
  ∃ decl, known decl ∧
    iface.descriptor = descriptorName context.file.packageName decl.name ∧
    iface.codes = assignCodes 1 (declaredTransactions arithmetic iface.aidlName [] decl.members)

variable {known}

mutual

theorem lowerDecl_clean (now : Nat) :
    (decl : Decl) → (∀ iface ∈ interfacesOfDecl decl, known iface) →
      Clean (Coded arithmetic context known) (lowerDecl arithmetic context now decl) fun _ => True
  | .interface decl, declared => lowerInterface_clean now decl declared
  | .parcelable decl, declared =>
    lowerParcelable_clean now decl fun iface inside =>
      declared iface (by cases decl; exact inside)
  | .enum decl, _ => lowerEnum_clean arithmetic context now decl
  | .union decl, _ => lowerUnion_clean context now decl

theorem lowerDecls_clean (now : Nat) :
    (decls : List Decl) → (∀ iface ∈ interfacesOf decls, known iface) →
      Clean (Coded arithmetic context known) (lowerDecls arithmetic context now decls) fun _ => True
  | [], _ => .pure trivial
  | decl :: rest, given =>
    .bind
      (lowerDecl_clean now decl fun iface mem =>
        given iface (mem_append_left _ mem))
      fun _ =>
        (lowerDecls_clean now rest fun iface mem =>
          given iface (mem_append_right _ mem)).weaken fun _ _ _ => trivial

theorem lowerParcelable_clean (now : Nat) :
    (decl : ParcelableDecl) →
      (∀ iface ∈ interfacesOf decl.decls, known iface) →
        Clean (Coded arithmetic context known)
          (lowerParcelable arithmetic context now decl) fun _ => True
  | ⟨annotations, name, typeParams, structured, consts, fields, decls⟩,
      declared => by
    unfold lowerParcelable
    split
    next => exact .pure trivial
    next sym _ =>
      apply bind
        (lowerParcelableBody_clean arithmetic context sym _ annotations structured consts fields)
      intro ended
      cases ended with
      | none => exact .pure fun _ => trivial
      | some _ => exact (lowerDecls_clean _ decls declared).weaken fun _ _ _ => trivial

theorem lowerInterface_clean (now : Nat) :
    (decl : InterfaceDecl) →
      (∀ iface ∈ interfacesOfDecl (.interface decl), known iface) →
        Clean (Coded arithmetic context known)
          (lowerInterface arithmetic context now decl) fun _ => True
  | ⟨annotations, oneway, name, members⟩, declared => by
    unfold lowerInterface
    split
    next => exact .pure trivial
    next sym _ =>
      have inside : ∀ iface ∈ interfacesOfMembers members, known iface :=
        fun iface mem =>
          declared iface (mem_cons_of_mem _ mem)
      intro s value t got
      obtain ⟨loop, u, ran, added⟩ := Action.of_bind_ok got
      have loopClean := lowerMembers_clean sym members _ inside s loop u ran
      cases added
      refine ⟨loopClean.1.trans ⟨prefix_rfl, ?_⟩, fun _ => trivial⟩
      intro none iface mem
      rcases mem_append.mp mem with before | last
      · exact .inl before
      · cases mem_singleton.mp last
        have continued := loopClean.2 none
        refine .inr ⟨⟨annotations, oneway, name, members⟩,
            declared _ (mem_cons_self ..), continued.descriptor, ?_⟩
        have codes := continued.codes
        simp only [codesToCome, declaredTransactions, assignCodes, append_nil] at codes
        rw [codes, continued.aidlName]
        rfl

theorem lowerMembers_clean (sym : NamedSymbol) :
    (members : List InterfaceMember) → (loop : InterfaceLoop V) →
      (∀ iface ∈ interfacesOfMembers members, known iface) →
        Clean (Coded arithmetic context known)
          (lowerMembers arithmetic context sym loop members)
          fun next =>
            Continues arithmetic sym.aidlName loop members next []
  | [], _, _ => .pure ⟨rfl, rfl, rfl⟩
  | member :: rest, loop, given =>
    .bind
      (lowerMember_clean sym member loop rest fun iface inside =>
        given iface (mem_append_left _ inside))
      fun next =>
        (lowerMembers_clean sym rest next fun iface inside =>
          given iface (mem_append_right _ inside)).weaken
            fun _ after before => before.trans arithmetic after

theorem lowerMember_clean (sym : NamedSymbol) :
    (mem : InterfaceMember) → (loop : InterfaceLoop V) →
      (rest : List InterfaceMember) →
      (∀ iface ∈ interfacesOfMember mem, known iface) →
        Clean (Coded arithmetic context known)
          (lowerMember arithmetic context sym loop mem)
          fun next =>
            Continues arithmetic sym.aidlName loop (mem :: rest) next rest
  | .const decl, loop, rest, _ => by
    apply bind (lowerConst_clean arithmetic context sym.scope sym loop.constants decl)
    intro lowered
    cases lowered with
    | none =>
      apply Clean.pure
      rintro ⟨_, _, none_, _⟩
      cases none_
    | some found =>
      apply Clean.pure
      rintro ⟨_, _, same, values⟩
      cases same
      constructor
      · rfl
      · rfl
      · simp only [codesToCome, Interface.codes, declaredTransactions, values]
  | .method decl, loop, rest, _ => by
    apply bind
      (methodTxCode_clean arithmetic context sym.scope loop.iface loop.constants decl loop.txCode)
    intro codes
    apply bind (lowerMethod_clean context sym.scope loop.iface decl codes.1)
    intro lowered
    cases lowered with
    | none =>
      apply Clean.pure
      rintro ⟨_, none_, _⟩
      cases none_
    | some method =>
      apply Clean.pure
      rintro ⟨_, same, given⟩ ⟨code, counter⟩
      cases same
      constructor
      · rfl
      · rfl
      · simp only [codesToCome, Interface.codes, map_append, map_cons, map_nil,
          declaredTransactions, assignCodes, given, code, counter, append_assoc, singleton_append]
  | .parcelable decl, loop, rest, declared => by
    unfold lowerMember
    split
    next => exact .abort
    next scope _ =>
      have inside : ∀ iface ∈ interfacesOf decl.decls, known iface := by
        cases decl
        exact declared
      exact .bind (lowerParcelable_clean scope decl inside) fun _ => .pure fun _ => ⟨rfl, rfl, rfl⟩
  | .enum decl, loop, rest, _ => by
    unfold lowerMember
    split
    next => exact .abort
    next scope _ =>
      exact .bind (lowerEnum_clean arithmetic context scope decl)
        fun _ => .pure fun _ => ⟨rfl, rfl, rfl⟩
  | .union decl, loop, rest, _ => by
    unfold lowerMember
    split
    next => exact .abort
    next scope _ =>
      exact .bind (lowerUnion_clean context scope decl) fun _ => .pure fun _ => ⟨rfl, rfl, rfl⟩

end

end Files

/--
When lowering reports nothing, every interface of the result is a declared
one, and the codes of its methods are distinct and usable exactly when the
declared transactions are sound.
-/
theorem transaction_codes
    {V : Type} (arithmetic : Arithmetic V) (file : File) (options : LowerOptions) (t : LowerState)
    (ran : lower arithmetic file options = .ok () t) (silent : t.diags = []) :
    ∀ iface ∈ t.interfaces, ∃ decl ∈ interfacesOf file.decls,
      iface.descriptor = descriptorName file.packageName decl.name ∧
      (CodesSafe (iface.codes.map UInt32.toNat) ↔
        Sound
          (declaredCodes (declaredTransactions arithmetic iface.aidlName [] decl.members))) := by
  intro iface member
  have clean :=
    lowerDecls_clean arithmetic
      ⟨file, options,
        options.dependencyFiles.foldl (collectTopLevel file.packageName)
          (collectTopLevel file.packageName .empty file)⟩
      SymbolTable.root file.decls (fun _ inside => inside) _ () t ran
  rcases clean.1.interfaces silent iface member with before | coded
  · cases before
  · obtain ⟨decl, inside, descriptor, codes⟩ := coded
    refine ⟨decl, inside, descriptor, ?_⟩
    rw [codes]
    exact codesSafe_assignCodes_iff _

/-! ## Examples -/

/-- The type `void`. -/
def voidRef : TypeRef where
  annotations := []
  name := bytesOf "void"
  typeArgs := []
  array := false
  fixedArrayLen := none
  nullable := false

/-- A method without parameters. -/
def plainMethod (name transaction : String) : InterfaceMember :=
  .method
    { annotations := [], oneway := false, result := voidRef,
      name := bytesOf name, args := [],
      transaction := bytesOf transaction }

/-- A file with one interface. -/
def interfaceFile (members : List InterfaceMember) : File where
  packageName := []
  imports := []
  decls :=
    [.interface { annotations := [], oneway := false, name := bytesOf "I", members := members }]

def noOptions : LowerOptions where
  customParcelables := []
  stableInterfaces := []
  dependencyFiles := []

/-- The codes of the interfaces of a file, if nothing was reported. -/
def silentCodes (file : File) : Option (List (List Nat)) :=
  match Resolve.validateFile literalArithmetic file,
      lower literalArithmetic file noOptions with
  | .ok () [], .ok () t =>
    if t.diags = [] then
      some (t.interfaces.map fun iface => iface.codes.map UInt32.toNat)
    else
      none
  | _, _ => none

theorem exists_of_silentCodes
    {file : File} {codes : List (List Nat)} (found : silentCodes file = some codes) :
    Resolve.validateFile literalArithmetic file = .ok () [] ∧
      ∃ t, lower literalArithmetic file noOptions = .ok () t ∧
        t.diags = [] ∧
        (t.interfaces.map fun iface => iface.codes.map UInt32.toNat) = codes := by
  unfold silentCodes at found
  split at found
  next t validated lowered =>
    split at found
    next silent =>
      cases found
      exact ⟨validated, t, lowered, silent, rfl⟩
    next => cases found
  next => cases found

/-- `interface I { void a(); void b() = 5; void c(); }` -/
def countedFile : File :=
  interfaceFile [plainMethod "a" "", plainMethod "b" "5", plainMethod "c" ""]

theorem silentCodes_countedFile : silentCodes countedFile = some [[1, 5, 6]] := by
  decide +kernel

theorem countedFile_codes :
    ∃ t, lower literalArithmetic countedFile noOptions = .ok () t ∧
      t.diags = [] ∧ t.interfaces ≠ [] ∧
      ∀ iface ∈ t.interfaces, ∃ decl ∈ interfacesOf countedFile.decls,
        iface.descriptor = descriptorName countedFile.packageName decl.name ∧
          (CodesSafe (iface.codes.map UInt32.toNat) ↔
            Sound
              (declaredCodes
                (declaredTransactions literalArithmetic iface.aidlName [] decl.members))) := by
  obtain ⟨-, t, ran, silent, codes⟩ := exists_of_silentCodes silentCodes_countedFile
  refine ⟨t, ran, silent, ?_,
    transaction_codes literalArithmetic countedFile noOptions t ran silent⟩
  rintro empty
  rw [empty] at codes
  cases codes

/-- `interface I { void a(); void b() = 1; }` -/
def repeatedFile : File :=
  interfaceFile [plainMethod "a" "", plainMethod "b" "1"]

theorem silentCodes_repeatedFile : silentCodes repeatedFile = some [[1, 1]] := by
  decide +kernel

/-- A declared code may repeat a counted one, and nothing is reported. -/
theorem repeatedFile_repeats_code :
    Resolve.validateFile literalArithmetic repeatedFile = .ok () [] ∧
      ∃ t, lower literalArithmetic repeatedFile noOptions = .ok () t ∧
        t.diags = [] ∧
        ∃ iface ∈ t.interfaces, ¬ CodesSafe (iface.codes.map UInt32.toNat) := by
  obtain ⟨validated, t, ran, silent, codes⟩ := exists_of_silentCodes silentCodes_repeatedFile
  have given : [1, 1] ∈ t.interfaces.map fun iface => iface.codes.map UInt32.toNat := by
    rw [codes]
    exact mem_singleton.mpr rfl
  obtain ⟨iface, member, same⟩ := mem_map.mp given
  refine ⟨validated, t, ran, silent, iface, member, ?_⟩
  rw [same]
  decide

/-! ## Later versions of a file -/

variable {V : Type} {arithmetic : Arithmetic V} {file later : File} {options newer : LowerOptions}
  {s t : LowerState}

theorem assignCodes_append
    (name : Name) (txCode : UInt32) (env : Env V) (members more : List InterfaceMember) :
    assignCodes txCode (declaredTransactions arithmetic name env members) <+:
      assignCodes txCode (declaredTransactions arithmetic name env (members ++ more)) := by
  induction members generalizing txCode env with
  | nil => exact nil_prefix
  | cons member rest ih =>
    cases member with
    | method decl => exact (prefix_cons_inj _).mpr (ih _ env)
    | const | parcelable | enum | union => exact ih _ _

theorem coded_of_lower
    (ran : lower arithmetic file options = .ok () t) (silent : t.diags = [])
    {iface : Interface} (mem : iface ∈ t.interfaces) :
    ∃ context, context.file = file ∧
      Coded arithmetic context (· ∈ interfacesOf file.decls) iface := by
  have clean := lowerDecls_clean arithmetic ⟨file, options, _⟩ SymbolTable.root file.decls
    (fun _ inside => inside) _ () t ran
  rcases clean.1.interfaces silent iface mem with before | coded
  · cases before
  · exact ⟨_, rfl, coded⟩

/-- The methods that an interface had keep their codes. -/
def CodesKept (olds news : List Interface) : Prop :=
  ∀ old ∈ olds, ∀ new ∈ news, old.descriptor = new.descriptor →
    old.aidlName = new.aidlName → old.codes <+: new.codes

/-- Members added at the end of an interface leave the codes of the others as they were. -/
theorem added_members_keep_codes
    (extended : ∀ old ∈ interfacesOf file.decls, ∀ new ∈ interfacesOf later.decls,
      descriptorName file.packageName old.name = descriptorName later.packageName new.name →
        old.members <+: new.members)
    (ran : lower arithmetic file options = .ok () s) (silent : s.diags = [])
    (reran : lower arithmetic later newer = .ok () t) (quiet : t.diags = []) :
    CodesKept s.interfaces t.interfaces := by
  intro old mem new newMem same name
  obtain ⟨_, rfl, decl, declared, described, codes⟩ := coded_of_lower ran silent mem
  obtain ⟨_, rfl, next, redeclared, redescribed, recodes⟩ := coded_of_lower reran quiet newMem
  rw [described, redescribed] at same
  obtain ⟨more, members⟩ := extended decl declared next redeclared same
  rw [codes, recodes, name, ← members]
  exact assignCodes_append _ _ _ _ _

/-- `interface I { void a(); void b() = 5; }`, the version before `countedFile`. -/
def firstFile : File :=
  interfaceFile [plainMethod "a" "", plainMethod "b" "5"]

theorem silentCodes_firstFile : silentCodes firstFile = some [[1, 5]] := by
  decide +kernel

theorem countedFile_keeps_code :
    ∃ s t, lower literalArithmetic firstFile noOptions = .ok () s ∧
      lower literalArithmetic countedFile noOptions = .ok () t ∧
      (s.interfaces.map fun iface => iface.codes.map UInt32.toNat) = [[1, 5]] ∧
      (t.interfaces.map fun iface => iface.codes.map UInt32.toNat) = [[1, 5, 6]] ∧
      CodesKept s.interfaces t.interfaces := by
  obtain ⟨-, s, ran, silent, codes⟩ := exists_of_silentCodes silentCodes_firstFile
  obtain ⟨-, t, reran, quiet, recodes⟩ := exists_of_silentCodes silentCodes_countedFile
  refine ⟨s, t, ran, reran, codes, recodes, added_members_keep_codes ?_ ran silent reran quiet⟩
  intro old mem new newMem _
  rw [mem_singleton.mp mem, mem_singleton.mp newMem]
  exact prefix_append [plainMethod "a" "", plainMethod "b" "5"] [plainMethod "c" ""]

end Libbinder.Aidl
