import Libbinder.Dynamic.Containment

/-!
# Map keys that cannot be hashed

The key of a dynamic map is read by the same function as its value, so a peer
chooses its dynamic type.  A key whose tag is that of an array, a list or a
map is a Go slice or map, and storing it panics.  That is the only way for the
reader to panic.
-/

namespace Libbinder

open Go

section Typed

variable {K V : Type}
  {assign : K → V → List (K × V) → Option (List (K × V))}
  {readKey : ParcelM K} {readValue : ParcelM V}

variable (stores : ∀ key value values, ∃ stored, assign key value values = some stored)

include stores

theorem Parcel.Safe.readEntries
    (keySafe : Parcel.Safe readKey) (valueSafe : Parcel.Safe readValue)
    (count : Nat) (values : List (K × V)) :
    Parcel.Safe (Libbinder.readEntries assign readKey readValue count values) := by
  induction count generalizing values with
  | zero => exact pure _
  | succ count ih =>
    have entry : Parcel.Safe (readEntry assign readKey readValue values) :=
      keySafe.bind fun key => valueSafe.bind fun value =>
        orPanic (stores key value values)
    exact entry.bind ih

/-- A map whose keys can all be hashed is read without panicking. -/
theorem Parcel.Safe.readMap (keySafe : Parcel.Safe readKey) (valueSafe : Parcel.Safe readValue) :
    Parcel.Safe (Libbinder.readMap assign readKey readValue) := by
  apply readInt32.bind
  intro size
  split_ifs
  · exact pure _
  · exact (readEntries stores keySafe valueSafe _ _).map

end Typed

/--
Reading a dynamic value, or a map of dynamic values, does not panic exactly
when it comes to no complete entry whose key carries the tag of an array, a
list or a map.  A map with typed keys never panics.
-/
theorem dynamic_decoding_panics_iff
    {B : Type} [DecidableEq B] (resolvers : Resolvers B)
    (quote : GoString → String) (p : Parcel) (bounded : p.Bounded) :
    (¬ Action.Panics (readDynamicValue resolvers quote) p ↔ ¬ Clash resolvers p) ∧
      (¬ Action.Panics
          (readMap DynamicValue.assign
            (readDynamicValue resolvers quote)
            (readDynamicValue resolvers quote)) p ↔
        ¬ MapClash resolvers p) ∧
      ∀ (K V : Type)
        (assign : K → V → List (K × V) → Option (List (K × V)))
        (readKey : ParcelM K) (readValue : ParcelM V),
        (∀ key value values, ∃ stored, assign key value values = some stored) →
        Parcel.Safe readKey → Parcel.Safe readValue →
          ¬ Action.Panics (readMap assign readKey readValue) p := by
  have describes :
      Describes (Reading resolvers) (Clash resolvers) (readDynamicValue resolvers quote) :=
    Describes.readDynamicValue
  refine ⟨not_congr (describes.panics p bounded),
    not_congr (describes.map_counts.panics p bounded), ?_⟩
  intro K V assign readKey readValue stores keySafe valueSafe
  exact (Parcel.Safe.readMap stores keySafe valueSafe).not_panics bounded

/-- A map with one entry, whose key is an integer and whose value is a list. -/
def integerKeyMap : Parcel :=
  Parcel.newWire
    [2, 0, 0, 0, 32, 0, 0, 0, 1, 0, 0, 0, 1, 0, 0, 0, 7, 0, 0, 0,
      11, 0, 0, 0, 12, 0, 0, 0, 1, 0, 0, 0, 1, 0, 0, 0, 8, 0, 0, 0] []

theorem integerKeyMap_no_clash : ¬ Clash noResolvers integerKeyMap := by
  have bounded : integerKeyMap.Bounded := ⟨by decide, by decide, by decide⟩
  apply (dynamic_decoding_panics_iff noResolvers (fun _ => "") integerKeyMap bounded).1.mp
  rintro ⟨reached, panicked⟩
  have returned :
      Action.Returns (readDynamicValue noResolvers fun _ => "") integerKeyMap
        { integerKeyMap with pos := 40 } :=
    Action.returns_of_reached? (by decide +kernel)
  rcases returned with ⟨value, returned⟩
  rw [returned] at panicked
  cases panicked

/-- A map with one entry, whose key is an empty byte array. -/
def arrayKeyMap : Parcel :=
  Parcel.newWire
    [2, 0, 0, 0, 16, 0, 0, 0, 1, 0, 0, 0, 13, 0, 0, 0, 0, 0, 0, 0, 255, 255, 255, 255] []

/-- Twenty-four bytes from a peer make the reader panic. -/
theorem arrayKeyMap_panics :
    arrayKeyMap.Bounded ∧ Action.Panics (readDynamicValue noResolvers fun _ => "") arrayKeyMap := by
  constructor
  · exact ⟨by decide, by decide, by decide⟩
  · exact Action.panics_of_panics? (by decide +kernel)

end Libbinder
