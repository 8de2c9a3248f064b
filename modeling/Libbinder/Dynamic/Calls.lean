import Libbinder.Dynamic.Reader

/-!
# The calls of a read

Reading a dynamic value makes a tree of calls: one for the value itself, and
one for every element, key and value nested in it.  `Reading` relates a parcel
to the tree of a successful read and to the parcel behind it, and `Clash` says
that the read comes to a complete map entry whose key cannot be hashed.  Both
are built by depth, without the decoded values.

The loops of the reader are taken apart here: `Steps` describes a loop's body
without its result, `Loops` the loop, and `Counts` the loop behind its count.
-/

namespace Libbinder

open Go Action Parcel.Forward Parcel.Safe

/--
Where a call began and where it returned, together with the calls nested in
it.  `declared` is the length on the wire of a list or a map.
-/
inductive Extent where
  | flat (start finish : Int)
  | framed (start declared finish : Int) (nested : List Extent)

namespace Extent

def start : Extent → Int
  | .flat start _ => start
  | .framed start _ _ _ => start

def finish : Extent → Int
  | .flat _ finish => finish
  | .framed _ _ finish _ => finish

/--
The call moved forward and ended inside the bound.  A list or a map ended its
declared length behind its tag and its length word, and everything nested in
it lies between them and that end.
-/
inductive Within : Int → Extent → Prop
  | flat {bound start finish : Int}
      (advanced : start < finish) (inside : finish ≤ bound) :
      Within bound (.flat start finish)
  | framed {bound start declared finish : Int} {nested : List Extent}
      (nonneg : 0 ≤ declared)
      (ended : finish = start + 8 + declared)
      (inside : finish ≤ bound)
      (behind : ∀ child ∈ nested, start + 8 < child.start)
      (contained : ∀ child ∈ nested, Within finish child) :
      Within bound (.framed start declared finish nested)

theorem Within.mono {bound larger : Int} {extent : Extent}
    (within : Within bound extent) (le : bound ≤ larger) : Within larger extent := by
  cases within with
  | flat moved inside => exact .flat moved (inside.trans le)
  | framed nonneg ended inside after contained =>
    exact .framed nonneg ended (inside.trans le) after contained

end Extent

/-! ## The relations -/

/-- The word at the cursor is this tag. -/
def TagAt (p : Parcel) (tag : ValueTag) (q : Parcel) : Prop :=
  ∃ code, Parcel.readInt32 p = .ok code q ∧ ValueTag.ofCode code = some tag

/-- The word at the cursor is the tag of a value that can be a map key. -/
def HashableAt (p : Parcel) : Prop :=
  ∃ tag q, TagAt p tag q ∧ tag.hashable

/-- A loop of steps, with the calls they make. -/
inductive Chain (step : Parcel → List Extent → Parcel → Prop) :
    Nat → Parcel → List Extent → Parcel → Prop
  | nil {p : Parcel} : Chain step 0 p [] p
  | cons {count : Nat} {p q r : Parcel} {first rest : List Extent}
      (head : step p first q) (tail : Chain step count q rest r) :
      Chain step (count + 1) p (first ++ rest) r

/-- One of the steps of a loop is reached and clashes. -/
inductive Stops
    (step : Parcel → List Extent → Parcel → Prop) (clash : Parcel → Prop) :
    Nat → Parcel → Prop
  | here {count : Nat} {p : Parcel} (clashes : clash p) : Stops step clash (count + 1) p
  | later {count : Nat} {p q : Parcel} {calls : List Extent}
      (head : step p calls q) (tail : Stops step clash count q) :
      Stops step clash (count + 1) p

section Layer

variable (reading : Parcel → Extent → Parcel → Prop) (clash : Parcel → Prop)

/-- An element of a list. -/
inductive Element : Parcel → List Extent → Parcel → Prop
  | mk {p q : Parcel} {extent : Extent} (read : reading p extent q) : Element p [extent] q

/-- An entry of a map whose key can be hashed. -/
inductive Entry : Parcel → List Extent → Parcel → Prop
  | mk {p q r : Parcel} {key value : Extent}
      (hashable : HashableAt p)
      (keyRead : reading p key q) (valueRead : reading q value r) :
      Entry p [key, value] r

/--
An entry that is not stored because of a clash: inside its key, inside its
value, or because both are complete and the key cannot be hashed.
-/
inductive EntryClash : Parcel → Prop
  | key {p : Parcel} (clashes : clash p) : EntryClash p
  | value {p q : Parcel} {key : Extent}
      (keyRead : reading p key q) (clashes : clash q) : EntryClash p
  | stored {p q r : Parcel} {key value : Extent}
      (unhashable : ¬ HashableAt p)
      (keyRead : reading p key q) (valueRead : reading q value r) :
      EntryClash p

variable {reading clash}

/-- A value with a length prefix and a count in front of a loop. -/
inductive Framed
    (tag : ValueTag) (loop : Nat → Parcel → List Extent → Parcel → Prop) :
    Parcel → Extent → Parcel → Prop
  | mk {p r s t u q : Parcel} {declared count : Int32} {limit : Int}
      {nested : List Extent}
      (tagged : TagAt p tag r)
      (sized : Parcel.readInt32 r = .ok declared s)
      (limited : readDynamicLengthPrefix r = .ok limit s)
      (counted : Parcel.readInt32 s = .ok count t)
      (looped : loop count.toInt.toNat t nested u)
      (finished : finishDynamicLengthPrefix limit u = .ok () q) :
      Framed tag loop p (.framed p.pos declared.toInt q.pos nested) q

/-- The loop behind the prefix and the count of such a value clashes. -/
inductive FramedClash
    (tag : ValueTag) (stops : Nat → Parcel → Prop) : Parcel → Prop
  | mk {p r s t : Parcel} {limit : Int} {count : Int32}
      (tagged : TagAt p tag r)
      (limited : readDynamicLengthPrefix r = .ok limit s)
      (counted : Parcel.readInt32 s = .ok count t)
      (stopped : stops count.toInt.toNat t) :
      FramedClash tag stops p

variable {B : Type} (resolvers : Resolvers B) (reading clash)

/-- One call, from the relation of the nested ones. -/
inductive Layered : Parcel → Extent → Parcel → Prop
  | leaf {p r q : Parcel} {tag : LeafTag} {value : Leaf B}
      (tagged : TagAt p (.leaf tag) r)
      (read : readLeaf resolvers tag r = .ok value q) :
      Layered p (.flat p.pos q.pos) q
  | list {p q : Parcel} {extent : Extent}
      (framed : Framed .list (Chain (Element reading)) p extent q) :
      Layered p extent q
  | map {p q : Parcel} {extent : Extent}
      (framed : Framed .map (Chain (Entry reading)) p extent q) :
      Layered p extent q

/-- A clash in one call, from those of the nested ones. -/
inductive LayeredClash : Parcel → Prop
  | list {p : Parcel}
      (clashes : FramedClash .list (Stops (Element reading) clash) p) :
      LayeredClash p
  | map {p : Parcel}
      (clashes : FramedClash .map (Stops (Entry reading) (EntryClash reading clash)) p) :
      LayeredClash p

end Layer

section Depth

variable {B : Type} (resolvers : Resolvers B)

/-- The call trees of successful reads, with calls nested to a depth. -/
def ReadingAt : Nat → Parcel → Extent → Parcel → Prop
  | 0 => fun _ _ _ => False
  | depth + 1 => Layered (ReadingAt depth) resolvers

/-- A read comes to a complete entry whose key cannot be hashed. -/
def ClashAt : Nat → Parcel → Prop
  | 0 => fun _ => False
  | depth + 1 => LayeredClash (ReadingAt resolvers depth) (ClashAt depth)

/-- The call tree of reading a dynamic value at the cursor. -/
def Reading (p : Parcel) (extent : Extent) (q : Parcel) : Prop :=
  ReadingAt resolvers p.depth p extent q

/-- Reading a dynamic value at the cursor comes to a clash. -/
def Clash (p : Parcel) : Prop :=
  ClashAt resolvers p.depth p

/-- Reading the entries of a raw map at the cursor comes to a clash. -/
def MapClash (p : Parcel) : Prop :=
  ∃ count q, Parcel.readInt32 p = .ok count q ∧
    Stops (Entry (Reading resolvers))
      (EntryClash (Reading resolvers) (Clash resolvers))
      count.toInt.toNat q

end Depth

/-! ## Loops -/

theorem TagAt.unique
    {p q other : Parcel} {tag otherTag : ValueTag} (first : TagAt p tag q)
    (second : TagAt p otherTag other) : otherTag = tag ∧ other = q := by
  rcases first with ⟨code, read, known⟩
  rcases second with ⟨otherCode, otherRead, otherKnown⟩
  rw [read] at otherRead
  cases otherRead
  rw [known] at otherKnown
  cases otherKnown
  exact ⟨rfl, rfl⟩

variable {p q : Parcel}

theorem TagAt.hashableAt_iff {tag : ValueTag} (tagged : TagAt p tag q) :
    HashableAt p ↔ tag.hashable := by
  constructor
  · rintro ⟨other, reached, otherTagged, hashable⟩
    rcases tagged.unique otherTagged with ⟨rfl, rfl⟩
    exact hashable
  · intro hashable
    exact ⟨tag, q, tagged, hashable⟩

theorem TagAt.moved {tag : ValueTag} (tagged : TagAt p tag q) (fits : p.Bounded) :
    Parcel.Moved p 4 q := by
  rcases tagged with ⟨code, read, known⟩
  exact readInt32 fits read

/-- What the body of a loop does, without its result. -/
structure Steps {α : Type}
    (step : Parcel → List Extent → Parcel → Prop) (clash : Parcel → Prop)
    (body : ParcelM α) : Prop where
  forward : Parcel.Forward 0 body
  returns : ∀ p : Parcel, p.Bounded → ∀ q, Action.Returns body p q ↔ ∃ calls, step p calls q
  panics : ∀ p : Parcel, p.Bounded → (Action.Panics body p ↔ clash p)

/-- What a loop does, without its result. -/
structure Loops {α : Type}
    (step : Parcel → List Extent → Parcel → Prop) (clash : Parcel → Prop)
    (count : Nat) (loop : ParcelM α) : Prop where
  returns :
    ∀ p : Parcel, p.Bounded → ∀ q, Action.Returns loop p q ↔ ∃ nested, Chain step count p nested q
  panics : ∀ p : Parcel, p.Bounded → (Action.Panics loop p ↔ Stops step clash count p)

namespace Loops

variable {α β : Type} {step : Parcel → List Extent → Parcel → Prop}
  {clash : Parcel → Prop} {count : Nat}

theorem zero (value : α) : Loops step clash 0 (pure value : ParcelM α) where
  returns := by
    intro p _ q
    rw [returns_pure]
    constructor
    · rintro rfl
      exact ⟨[], .nil⟩
    · rintro ⟨_, ⟨⟩⟩
      rfl
  panics := by
    intro p _
    constructor
    · intro broke
      exact (not_panics_pure broke).elim
    · rintro ⟨⟩

/-- One step in front of a loop. -/
theorem succ
    {body : ParcelM α} {next : α → ParcelM β} (steps : Steps step clash body)
    (loops : ∀ value, Loops step clash count (next value)) :
    Loops step clash (count + 1) (body >>= next) where
  returns := by
    intro p fits q
    rw [returns_bind]
    constructor
    · rintro ⟨value, middle, ran, rest⟩
      have middleBounded := (steps.forward fits ran).bounded fits
      rcases (steps.returns p fits middle).mp ⟨value, ran⟩ with ⟨calls, head⟩
      rcases ((loops value).returns middle middleBounded q).mp rest with ⟨nested, tail⟩
      exact ⟨calls ++ nested, .cons head tail⟩
    · rintro ⟨_, chain⟩
      cases chain with
      | cons head tail =>
        rcases (steps.returns p fits _).mpr ⟨_, head⟩ with ⟨value, ran⟩
        have middleBounded := (steps.forward fits ran).bounded fits
        exact ⟨value, _, ran, ((loops value).returns _ middleBounded q).mpr ⟨_, tail⟩⟩
  panics := by
    intro p fits
    rw [panics_bind, steps.panics p fits]
    constructor
    · rintro (clashes | ⟨value, middle, ran, rest⟩)
      · exact .here clashes
      · have middleBounded := (steps.forward fits ran).bounded fits
        rcases (steps.returns p fits middle).mp ⟨value, ran⟩ with ⟨calls, head⟩
        exact .later head (((loops value).panics middle middleBounded).mp rest)
    · intro stops
      cases stops with
      | here clashes => exact .inl clashes
      | later head tail =>
        rcases (steps.returns p fits _).mpr ⟨_, head⟩ with ⟨value, ran⟩
        have middleBounded := (steps.forward fits ran).bounded fits
        exact .inr ⟨value, _, ran, ((loops value).panics _ middleBounded).mpr tail⟩

/-- A loop whose result is only repackaged. -/
theorem map {loop : ParcelM α} (loops : Loops step clash count loop) (compute : α → β) :
    Loops step clash count (do
      let value ← loop
      return compute value) where
  returns := fun p fits q =>
    returns_map.trans (loops.returns p fits q)
  panics := fun p fits =>
    panics_map.trans (loops.panics p fits)

theorem readElems {body : ParcelM α} (steps : Steps step clash body) (count : Nat) :
    Loops step clash count (readElems body count) := by
  induction count with
  | zero => exact zero []
  | succ count ih => exact succ steps fun _ => ih.map _

theorem readEntries
    {assign : α → β → List (α × β) → Option (List (α × β))}
    {readKey : ParcelM α} {readValue : ParcelM β}
    (steps : ∀ values, Steps step clash (readEntry assign readKey readValue values))
    (count : Nat) (values : List (α × β)) :
    Loops step clash count (readEntries assign readKey readValue count values) := by
  induction count generalizing values with
  | zero => exact zero values
  | succ count ih => exact succ (steps values) ih

end Loops

/-- What a loop behind its count does, without its result. -/
structure Counts {α : Type}
    (step : Parcel → List Extent → Parcel → Prop) (clash : Parcel → Prop)
    (op : ParcelM α) : Prop where
  forward : Parcel.Forward 4 op
  returns : ∀ p : Parcel, p.Bounded → ∀ q,
      Action.Returns op p q ↔
        ∃ count r nested, Parcel.readInt32 p = .ok count r ∧ Chain step count.toInt.toNat r nested q
  panics : ∀ p : Parcel, p.Bounded →
      (Action.Panics op p ↔
        ∃ count r, Parcel.readInt32 p = .ok count r ∧ Stops step clash count.toInt.toNat r)

namespace Counts

variable {α β : Type} {step : Parcel → List Extent → Parcel → Prop}
  {clash : Parcel → Prop}

theorem mk_of_loops
    {next : Int32 → ParcelM α} (forward : ∀ count, Parcel.Forward 0 (next count))
    (loops : ∀ count, Loops step clash count.toInt.toNat (next count)) :
    Counts step clash (Parcel.readInt32 >>= next) where
  forward := readInt32.andThen forward
  returns := by
    intro p fits q
    rw [returns_bind]
    constructor
    · rintro ⟨count, r, read, rest⟩
      have rBounded := (readInt32 fits read).bounded fits
      rcases ((loops count).returns r rBounded q).mp rest with ⟨nested, chain⟩
      exact ⟨count, r, nested, read, chain⟩
    · rintro ⟨count, r, nested, read, chain⟩
      have rBounded := (readInt32 fits read).bounded fits
      exact ⟨count, r, read, ((loops count).returns r rBounded q).mpr ⟨nested, chain⟩⟩
  panics := by
    intro p fits
    rw [panics_bind]
    constructor
    · rintro (broke | ⟨count, r, read, rest⟩)
      · exact (readInt32.not_panics fits broke).elim
      · have rBounded := (readInt32 fits read).bounded fits
        exact ⟨count, r, read, ((loops count).panics r rBounded).mp rest⟩
    · rintro ⟨count, r, read, stops⟩
      have rBounded := (readInt32 fits read).bounded fits
      exact .inr ⟨count, r, read, ((loops count).panics r rBounded).mpr stops⟩

/-- A negative count is one of no elements. -/
theorem toNat_of_neg {count : Int32} (below : count < 0) : count.toInt.toNat = 0 := by
  rw [Int32.lt_iff_toInt_lt] at below
  have zero : (0 : Int32).toInt = 0 := rfl
  omega

theorem readSlice {body : ParcelM α} (steps : Steps step clash body) :
    Counts step clash (readSlice body) := by
  apply mk_of_loops
  · intro count
    split_ifs
    · exact .pure _
    · exact ((steps.forward.readElems _).weaken (Nat.zero_le _)).andThen fun _ => .pure _
  · intro count
    split_ifs with below
    · rw [toNat_of_neg below]
      exact .zero _
    · exact (Loops.readElems steps _).map _

theorem readMap
    {assign : α → β → List (α × β) → Option (List (α × β))} {readKey : ParcelM α}
    {readValue : ParcelM β} (keyForward : Parcel.Forward 0 readKey)
    (valueForward : Parcel.Forward 0 readValue)
    (steps : ∀ values, Steps step clash (readEntry assign readKey readValue values)) :
    Counts step clash (readMap assign readKey readValue) := by
  apply mk_of_loops
  · intro count
    split_ifs
    · exact .pure _
    · exact (Parcel.Forward.readEntries keyForward valueForward _ _).andThen fun _ => .pure _
  · intro count
    split_ifs with below
    · rw [toNat_of_neg below]
      exact .zero _
    · exact (Loops.readEntries steps _ _).map _

end Counts

/-! ## Length prefixes -/

theorem readDynamicLengthPrefix_ok {limit : Int} (read : readDynamicLengthPrefix p = .ok limit q) :
    ∃ given, Parcel.readInt32 p = .ok given q ∧
      0 ≤ given.toInt ∧ limit = wrapInt (q.pos + given.toInt) := by
  obtain ⟨given, middle, sized, rest⟩ := of_bind_ok read
  split_ifs at rest with below
  · cases rest
  · obtain ⟨start, reached, found, ran⟩ := of_bind_ok rest
    cases found
    cases ran
    rw [Int32.lt_iff_toInt_lt] at below
    exact ⟨given, sized, not_lt.mp below, rfl⟩

theorem Parcel.Safe.readDynamicLengthPrefix : Parcel.Safe Libbinder.readDynamicLengthPrefix := by
  apply readInt32.bind
  intro size
  split_ifs
  · exact .fail _
  · exact position.map

theorem Parcel.Safe.finishDynamicLengthPrefix (finish : Int) :
    Parcel.Safe (Libbinder.finishDynamicLengthPrefix finish) := by
  apply position.bind
  intro pos
  split_ifs
  · exact .fail _
  · exact .pure _
  · exact .setPosition _

section Prefixed

variable {α : Type} {body : ParcelM α}

theorem readPrefixed_returns {p q : Parcel} :
    Action.Returns (readPrefixed body) p q ↔
      ∃ limit s u, readDynamicLengthPrefix p = .ok limit s ∧
        Action.Returns body s u ∧
        finishDynamicLengthPrefix limit u = .ok () q := by
  rw [readPrefixed, returns_bind]
  constructor
  · rintro ⟨limit, s, small, rest⟩
    rw [returns_bind] at rest
    rcases rest with ⟨value, u, ran, rest⟩
    rw [returns_bind] at rest
    rcases rest with ⟨_, last, ended, done⟩
    rw [returns_pure] at done
    subst done
    exact ⟨limit, s, u, small, ⟨value, ran⟩, ended⟩
  · rintro ⟨limit, s, u, small, ⟨value, ran⟩, ended⟩
    refine ⟨limit, s, small, ?_⟩
    rw [returns_bind]
    refine ⟨value, u, ran, ?_⟩
    rw [returns_bind]
    exact ⟨(), q, ended, returns_pure.mpr rfl⟩

theorem readPrefixed_panics {p : Parcel} (fits : p.Bounded) (forward : Parcel.Forward 0 body) :
    Action.Panics (readPrefixed body) p ↔
      ∃ limit s, readDynamicLengthPrefix p = .ok limit s ∧ Action.Panics body s := by
  rw [readPrefixed, panics_bind]
  constructor
  · rintro (broke | ⟨limit, s, small, rest⟩)
    · exact (Parcel.Safe.readDynamicLengthPrefix.not_panics fits broke).elim
    · have sBounded := (Parcel.Forward.readDynamicLengthPrefix fits small).bounded fits
      rw [panics_bind] at rest
      rcases rest with broke | ⟨value, u, ran, rest⟩
      · exact ⟨limit, s, small, broke⟩
      · have uBounded := (forward sBounded ran).bounded sBounded
        rw [panics_bind] at rest
        rcases rest with broke | ⟨_, _, _, done⟩
        · exact ((Parcel.Safe.finishDynamicLengthPrefix limit).not_panics uBounded broke).elim
        · exact (not_panics_pure done).elim
  · rintro ⟨limit, s, small, broke⟩
    refine .inr ⟨limit, s, small, ?_⟩
    rw [panics_bind]
    exact .inl broke

end Prefixed

end Libbinder
