import Libbinder.Dynamic.Calls

/-!
# The calls describe the reader

`Describes` connects the two relations to a reader: it returns exactly when
there is a tree of calls, and it panics exactly on a clash.  One layer of the
reader is described by one layer of the relations, so by induction on the
depth the whole reader is.
-/

namespace Libbinder

open Go Action DynamicValue

/-- What a reader of dynamic values does, without the values. -/
structure Describes {B : Type}
    (reading : Parcel → Extent → Parcel → Prop) (clash : Parcel → Prop)
    (reader : ParcelM (DynamicValue B)) : Prop where
  forward : Parcel.Forward 4 reader
  returns : ∀ p : Parcel, p.Bounded → ∀ q, Action.Returns reader p q ↔ ∃ extent, reading p extent q
  panics : ∀ p : Parcel, p.Bounded → (Action.Panics reader p ↔ clash p)
  keyed : ∀ p : Parcel, p.Bounded → ∀ value q,
      reader p = .ok value q → (value.hashable ↔ HashableAt p)

namespace Describes

variable {B : Type}
  {reading : Parcel → Extent → Parcel → Prop} {clash : Parcel → Prop}
  {reader : ParcelM (DynamicValue B)} (describes : Describes reading clash reader)

include describes

variable {p q : Parcel}

variable {value : DynamicValue B}

theorem bounded_after (fits : p.Bounded) (ran : reader p = .ok value q) : q.Bounded :=
  (describes.forward fits ran).bounded fits

theorem of_reading {extent : Extent} (fits : p.Bounded) (read : reading p extent q) :
    ∃ value, reader p = .ok value q ∧ q.Bounded := by
  rcases (describes.returns p fits q).mpr ⟨extent, read⟩ with ⟨value, ran⟩
  exact ⟨value, ran, describes.bounded_after fits ran⟩

theorem to_reading (fits : p.Bounded) (ran : reader p = .ok value q) :
    ∃ extent, reading p extent q ∧ q.Bounded := by
  rcases (describes.returns p fits q).mp ⟨value, ran⟩ with ⟨extent, read⟩
  exact ⟨extent, read, describes.bounded_after fits ran⟩

/-- An element of a list makes one call. -/
theorem element : Steps (Element reading) clash reader where
  forward := describes.forward.weaken (Nat.zero_le _)
  returns := by
    intro p fits q
    rw [describes.returns p fits q]
    constructor
    · rintro ⟨extent, reads⟩
      exact ⟨[extent], .mk reads⟩
    · rintro ⟨_, ⟨reads⟩⟩
      exact ⟨_, reads⟩
  panics := describes.panics

theorem list_counts : Counts (Element reading) clash (readSlice reader) :=
  .readSlice describes.element

variable [DecidableEq B]

/-- Storing an entry under a key that was read at `p`. -/
theorem assign_cases
    {key : DynamicValue B} (fits : p.Bounded) (read : reader p = .ok key q)
    (value : DynamicValue B) (values : List (DynamicValue B × DynamicValue B)) :
    (HashableAt p ∧ ∃ stored, assign key value values = some stored) ∨
      (¬ HashableAt p ∧ assign key value values = none) := by
  have keyed := describes.keyed p fits key q read
  by_cases hashable : HashableAt p
  · exact .inl ⟨hashable, _, if_pos (keyed.mpr hashable)⟩
  · exact .inr ⟨hashable, if_neg fun holds => hashable (keyed.mp holds)⟩

variable (values : List (DynamicValue B × DynamicValue B))

theorem entry_returns {p : Parcel} (fits : p.Bounded) (q : Parcel) :
    Action.Returns
        (readEntry assign reader reader values) p q ↔
      ∃ calls, Entry reading p calls q := by
  rw [readEntry, returns_bind]
  constructor
  · rintro ⟨key, middle, keyRead, rest⟩
    rw [returns_bind] at rest
    rcases rest with ⟨value, last, valueRead, rest⟩
    rcases describes.to_reading fits keyRead with ⟨_, keyReads, middleBounded⟩
    rcases describes.to_reading middleBounded valueRead with ⟨_, valueReads, -⟩
    rcases describes.assign_cases fits keyRead value values with
      ⟨hashable, stored, assigned⟩ | ⟨_, refused⟩
    · rw [assigned] at rest
      rcases rest with ⟨_, ⟨⟩⟩
      exact ⟨_, .mk hashable keyReads valueReads⟩
    · rw [refused] at rest
      rcases rest with ⟨_, ⟨⟩⟩
  · rintro ⟨_, ⟨hashable, keyReads, valueReads⟩⟩
    rcases describes.of_reading fits keyReads with ⟨key, keyRead, middleBounded⟩
    rcases describes.of_reading middleBounded valueReads with ⟨value, valueRead, -⟩
    refine ⟨key, _, keyRead, ?_⟩
    rw [returns_bind]
    refine ⟨value, _, valueRead, ?_⟩
    rcases describes.assign_cases fits keyRead value values with
      ⟨_, stored, assigned⟩ | ⟨unhashable, _⟩
    · rw [assigned]
      exact ⟨stored, rfl⟩
    · exact (unhashable hashable).elim

theorem entry_panics {p : Parcel} (fits : p.Bounded) :
    Action.Panics (readEntry assign reader reader values) p ↔ EntryClash reading clash p := by
  rw [readEntry, panics_bind, describes.panics p fits]
  constructor
  · rintro (clashes | ⟨key, middle, keyRead, rest⟩)
    · exact .key clashes
    rcases describes.to_reading fits keyRead with ⟨_, keyReads, middleBounded⟩
    rw [panics_bind, describes.panics middle middleBounded] at rest
    rcases rest with clashes | ⟨value, last, valueRead, rest⟩
    · exact .value keyReads clashes
    rcases describes.to_reading middleBounded valueRead with ⟨_, valueReads, -⟩
    rcases describes.assign_cases fits keyRead value values with
      ⟨_, stored, assigned⟩ | ⟨unhashable, _⟩
    · rw [assigned] at rest
      rcases rest with ⟨_, ⟨⟩⟩
    · exact .stored unhashable keyReads valueReads
  · intro clashes
    cases clashes with
    | key clashes => exact .inl clashes
    | value keyReads clashes =>
      rcases describes.of_reading fits keyReads with ⟨key, keyRead, middleBounded⟩
      refine .inr ⟨key, _, keyRead, ?_⟩
      rw [panics_bind]
      exact .inl ((describes.panics _ middleBounded).mpr clashes)
    | stored unhashable keyReads valueReads =>
      rcases describes.of_reading fits keyReads with ⟨key, keyRead, middleBounded⟩
      rcases describes.of_reading middleBounded valueReads with ⟨value, valueRead, -⟩
      refine .inr ⟨key, _, keyRead, ?_⟩
      rw [panics_bind]
      refine .inr ⟨value, _, valueRead, ?_⟩
      rcases describes.assign_cases fits keyRead value values with ⟨hashable, _, _⟩ | ⟨_, refused⟩
      · exact (unhashable hashable).elim
      · rw [refused]
        exact ⟨_, rfl⟩

/-- An entry of a map makes two calls and stores one entry. -/
theorem entry :
    Steps (Entry reading) (EntryClash reading clash) (readEntry assign reader reader values) where
  forward :=
    .readEntry
      (describes.forward.weaken (Nat.zero_le _))
      (describes.forward.weaken (Nat.zero_le _)) values
  returns := fun _ fits q => describes.entry_returns values fits q
  panics := fun _ fits => describes.entry_panics values fits

end Describes

/-! ## One layer -/

section Layer

variable {B : Type} {resolvers : Resolvers B}

theorem Parcel.Safe.readLeaf (tag : LeafTag) : Parcel.Safe (Libbinder.readLeaf resolvers tag) := by
  cases tag with
  | null => exact pure _
  | string => exact readString.map
  | integer | short | byte | char => exact readInt32.map
  | long | double => exact (readUint 8).map.map
  | float => exact (readUint 4).map.map
  | boolean => exact readInt32.map.map
  | byteArray => exact readBytes.map
  | stringArray => exact readString.readSlice.map
  | iBinder => exact (readStrongBinder resolvers).map
  | intArray => exact readInt32.readSlice.map
  | longArray | doubleArray => exact (readUint 8).map.readSlice.map
  | shortArray | charArray => exact readInt32.map.readSlice.map
  | floatArray => exact (readUint 4).map.readSlice.map

variable {p q : Parcel}

/-- The tag alone decides whether a decoded leaf can be hashed. -/
theorem readLeaf_hashable
    {tag : LeafTag} {value : Leaf B} (read : readLeaf resolvers tag p = .ok value q) :
    value.hashable = tag.hashable := by
  cases tag with
  | null =>
    cases read
    rfl
  | iBinder =>
    obtain ⟨binder, _, _, ran⟩ := of_bind_ok read
    cases ran
    cases binder <;> rfl
  | _ =>
    obtain ⟨_, _, _, ran⟩ := of_bind_ok read
    cases ran
    rfl

variable [DecidableEq B] {quote : GoString → String}
  {nested : ParcelM (DynamicValue B)}

theorem readPayload_hashable
    {tag : ValueTag} {value : DynamicValue B}
    (read : readPayload resolvers quote nested tag p = .ok value q) :
    value.hashable = tag.hashable := by
  cases tag with
  | leaf tag =>
    obtain ⟨leaf, _, ran, got⟩ := of_bind_ok read
    cases got
    exact readLeaf_hashable ran
  | map | list =>
    obtain ⟨_, _, _, got⟩ := of_bind_ok read
    cases got
    rfl
  | parcelable =>
    obtain ⟨_, _, _, got⟩ := of_bind_ok read
    cases got

theorem readLayer_returns :
    Action.Returns (readLayer resolvers quote nested) p q ↔
      ∃ tag r, TagAt p tag r ∧ Action.Returns (readPayload resolvers quote nested tag) r q := by
  rw [readLayer, returns_bind]
  constructor
  · rintro ⟨code, r, read, rest⟩
    cases known : ValueTag.ofCode code with
    | none =>
      rw [known] at rest
      exact (not_returns_fail rest).elim
    | some tag =>
      rw [known] at rest
      exact ⟨tag, r, ⟨code, read, known⟩, rest⟩
  · rintro ⟨tag, r, ⟨code, read, known⟩, rest⟩
    refine ⟨code, r, read, ?_⟩
    rwa [known]

theorem readLayer_panics {p : Parcel} (fits : p.Bounded) :
    Action.Panics (readLayer resolvers quote nested) p ↔
      ∃ tag r, TagAt p tag r ∧ Action.Panics (readPayload resolvers quote nested tag) r := by
  rw [readLayer, panics_bind]
  constructor
  · rintro (broke | ⟨code, r, read, rest⟩)
    · exact (Parcel.Safe.readInt32.not_panics fits broke).elim
    · cases known : ValueTag.ofCode code with
      | none =>
        rw [known] at rest
        exact (not_panics_fail rest).elim
      | some tag =>
        rw [known] at rest
        exact ⟨tag, r, ⟨code, read, known⟩, rest⟩
  · rintro ⟨tag, r, ⟨code, read, known⟩, rest⟩
    refine .inr ⟨code, r, read, ?_⟩
    rwa [known]

section Frame

variable {α : Type} {step : Parcel → List Extent → Parcel → Prop}
  {clash : Parcel → Prop} {op : ParcelM α} {tag : ValueTag}

theorem framed_returns (counts : Counts step clash op) {p q : Parcel} (fits : p.Bounded) :
    (∃ r, TagAt p tag r ∧ Action.Returns (readPrefixed op) r q) ↔
      ∃ extent, Framed tag (Chain step) p extent q := by
  constructor
  · rintro ⟨r, tagged, got⟩
    have rBounded := (tagged.moved fits).bounded fits
    rw [readPrefixed_returns] at got
    rcases got with ⟨limit, s, u, small, ran, ended⟩
    have sBounded := (Parcel.Forward.readDynamicLengthPrefix rBounded small).bounded rBounded
    rcases readDynamicLengthPrefix_ok small with ⟨given, sized, _, _⟩
    rcases (counts.returns s sBounded u).mp ran with ⟨count, t, nested, counted, chain⟩
    exact ⟨_, .mk tagged sized small counted chain ended⟩
  · rintro ⟨_, framed⟩
    cases framed with
    | mk tagged sized small counted looped ended =>
      have rBounded := (tagged.moved fits).bounded fits
      have sBounded := (Parcel.Forward.readDynamicLengthPrefix rBounded small).bounded rBounded
      refine ⟨_, tagged, readPrefixed_returns.mpr ⟨_, _, _, small, ?_, ended⟩⟩
      exact (counts.returns _ sBounded _).mpr ⟨_, _, _, counted, looped⟩

theorem framed_panics (counts : Counts step clash op) {p : Parcel} (fits : p.Bounded) :
    (∃ r, TagAt p tag r ∧ Action.Panics (readPrefixed op) r) ↔
      FramedClash tag (Stops step clash) p := by
  have forward := counts.forward.weaken (Nat.zero_le 4)
  constructor
  · rintro ⟨r, tagged, broke⟩
    have rBounded := (tagged.moved fits).bounded fits
    rw [readPrefixed_panics rBounded forward] at broke
    rcases broke with ⟨limit, s, small, broke⟩
    have sBounded := (Parcel.Forward.readDynamicLengthPrefix rBounded small).bounded rBounded
    rcases (counts.panics s sBounded).mp broke with ⟨count, t, counted, stops⟩
    exact .mk tagged small counted stops
  · rintro ⟨tagged, small, counted, stops⟩
    have rBounded := (tagged.moved fits).bounded fits
    have sBounded := (Parcel.Forward.readDynamicLengthPrefix rBounded small).bounded rBounded
    refine ⟨_, tagged, (readPrefixed_panics rBounded forward).mpr ⟨_, _, small, ?_⟩⟩
    exact (counts.panics _ sBounded).mpr ⟨_, _, counted, stops⟩

end Frame

namespace Describes

variable {reading : Parcel → Extent → Parcel → Prop} {clash : Parcel → Prop}

variable (describes : Describes reading clash nested)

include describes

theorem map_counts :
    Counts (Entry reading) (EntryClash reading clash) (readMap assign nested nested) :=
  .readMap
    (describes.forward.weaken (Nat.zero_le _))
    (describes.forward.weaken (Nat.zero_le _))
    describes.entry

theorem layer_returns {p : Parcel} (fits : p.Bounded) (q : Parcel) :
    Action.Returns (readLayer resolvers quote nested) p q ↔
      ∃ extent, Layered reading resolvers p extent q := by
  rw [readLayer_returns]
  constructor
  · rintro ⟨tag, r, tagged, ran⟩
    cases tag with
    | leaf tag =>
      rcases returns_map.mp ran with ⟨value, read⟩
      exact ⟨_, .leaf tagged read⟩
    | map =>
      rcases (framed_returns describes.map_counts fits).mp
        ⟨r, tagged, returns_map.mp ran⟩ with ⟨extent, framed⟩
      exact ⟨extent, .map framed⟩
    | parcelable =>
      rcases returns_bind.mp ran with ⟨_, _, _, failed⟩
      exact (not_returns_fail failed).elim
    | list =>
      rcases (framed_returns describes.list_counts fits).mp
        ⟨r, tagged, returns_map.mp ran⟩ with ⟨extent, framed⟩
      exact ⟨extent, .list framed⟩
  · rintro ⟨extent, layered⟩
    cases layered with
    | leaf tagged read => exact ⟨_, _, tagged, returns_map.mpr ⟨_, read⟩⟩
    | list framed =>
      rcases (framed_returns describes.list_counts fits).mpr ⟨extent, framed⟩ with ⟨r, tagged, ran⟩
      exact ⟨_, r, tagged, returns_map.mpr ran⟩
    | map framed =>
      rcases (framed_returns describes.map_counts fits).mpr ⟨extent, framed⟩ with ⟨r, tagged, ran⟩
      exact ⟨_, r, tagged, returns_map.mpr ran⟩

theorem layer_panics {p : Parcel} (fits : p.Bounded) :
    Action.Panics (readLayer resolvers quote nested) p ↔ LayeredClash reading clash p := by
  rw [readLayer_panics fits]
  constructor
  · rintro ⟨tag, r, tagged, broke⟩
    have rBounded := (tagged.moved fits).bounded fits
    cases tag with
    | leaf tag =>
      exact ((Parcel.Safe.readLeaf tag).not_panics rBounded (panics_map.mp broke)).elim
    | map =>
      exact .map ((framed_panics describes.map_counts fits).mp ⟨r, tagged, panics_map.mp broke⟩)
    | parcelable =>
      rcases panics_bind.mp broke with broke | ⟨_, _, _, failed⟩
      · rw [readPrefixed_panics rBounded
          (Parcel.Forward.readString.weaken (Nat.zero_le _))] at broke
        rcases broke with ⟨limit, s, small, broke⟩
        have sBounded := (Parcel.Forward.readDynamicLengthPrefix rBounded small).bounded rBounded
        exact (Parcel.Safe.readString.not_panics sBounded broke).elim
      · exact (not_panics_fail failed).elim
    | list =>
      exact .list ((framed_panics describes.list_counts fits).mp ⟨r, tagged, panics_map.mp broke⟩)
  · intro clashes
    cases clashes with
    | list clashes =>
      rcases (framed_panics describes.list_counts fits).mpr clashes with ⟨r, tagged, broke⟩
      exact ⟨_, r, tagged, panics_map.mpr broke⟩
    | map clashes =>
      rcases (framed_panics describes.map_counts fits).mpr clashes with ⟨r, tagged, broke⟩
      exact ⟨_, r, tagged, panics_map.mpr broke⟩

/-- One layer is described by one layer of the relations. -/
theorem layer :
    Describes (Layered reading resolvers) (LayeredClash reading clash)
      (readLayer resolvers quote nested) where
  forward := .readLayer (describes.forward.weaken (Nat.zero_le _))
  returns := fun _ fits q => describes.layer_returns fits q
  panics := fun _ fits => describes.layer_panics fits
  keyed := by
    intro p fits value q ran
    obtain ⟨code, r, read, rest⟩ := of_bind_ok ran
    cases known : ValueTag.ofCode code with
    | none =>
      rw [known] at rest
      cases rest
    | some tag =>
      rw [known] at rest
      have tagged : TagAt p tag r := ⟨code, read, known⟩
      rw [readPayload_hashable rest, tagged.hashableAt_iff]

omit describes

/-- A reader that is exhausted with an error is described to its depth. -/
theorem readValue (reason : BinderError) (depth : Nat) :
    Describes (ReadingAt resolvers depth) (ClashAt resolvers depth)
      (Libbinder.readValue resolvers quote (.error reason) depth) := by
  induction depth with
  | zero =>
    refine ⟨.stop _, ?_, ?_, ?_⟩
    · intro p _ q
      constructor
      · rintro ⟨_, ⟨⟩⟩
      · rintro ⟨_, ⟨⟩⟩
    · intro p _
      constructor
      · rintro ⟨_, ⟨⟩⟩
      · rintro ⟨⟩
    · rintro p _ value q ⟨⟩
  | succ depth ih => exact ih.layer

/-- The reader is described by the relations at the depth of the parcel. -/
theorem readDynamicValue :
    Describes (Reading resolvers) (Clash resolvers)
      (Libbinder.readDynamicValue resolvers quote) := by
  have at_depth :
      ∀ p : Parcel, p.Bounded →
        Libbinder.readDynamicValue resolvers quote p =
          Libbinder.readValue resolvers quote (.error Parcel.sizeOverflow) p.depth p :=
    fun p fits =>
      (readValue_eq_readDynamicValue fits _ p.room_lt_depth).symm
  refine ⟨.readDynamicValue, ?_, ?_, ?_⟩
  · intro p fits q
    unfold Action.Returns
    rw [at_depth p fits]
    exact (readValue Parcel.sizeOverflow p.depth).returns p fits q
  · intro p fits
    unfold Action.Panics
    rw [at_depth p fits]
    exact (readValue Parcel.sizeOverflow p.depth).panics p fits
  · intro p fits value q ran
    rw [at_depth p fits] at ran
    exact (readValue Parcel.sizeOverflow p.depth).keyed p fits value q ran

end Describes

end Layer

end Libbinder
