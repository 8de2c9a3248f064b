import Libbinder.Parcel.Objects

/-!
# Slices

The generic helpers for variable-length and fixed-length arrays.  The element
codec is a parameter; a nil slice is `none`.
-/

namespace Libbinder

open Go Action

variable {α β : Type}

def writeSlice
    (values : Option (List α)) (writeElem : α → ParcelM Unit) : ParcelM Unit :=
  match values with
  | none => Parcel.writeInt32 (-1)
  | some values =>
    if values.length > maxInt32 then
      fail (.badParcelable s!"slice too large: {values.length}")
    else do
      Parcel.writeInt32 (Int32.ofInt values.length)
      values.forM writeElem

/-- The loop that reads a known number of elements. -/
def readElems (readElem : ParcelM α) : Nat → ParcelM (List α)
  | 0 => return []
  | count + 1 => do
    let v ← readElem
    let rest ← readElems readElem count
    return v :: rest

def readSlice (readElem : ParcelM α) : ParcelM (Option (List α)) := do
  let size ← Parcel.readInt32
  if size < 0 then
    return none
  else
    let values ← readElems readElem size.toInt.toNat
    return some values

def writeFixedSlice
    (values : Option (List α)) (size : Int)
    (writeElem : α → ParcelM Unit) : ParcelM Unit :=
  match values with
  | none => fail (.badParcelable "fixed slice is null")
  | some values =>
    if (values.length : Int) ≠ size then
      fail (.badParcelable s!"fixed slice length {values.length}, want {size}")
    else
      writeSlice (some values) writeElem

def readFixedSlice (size : Int) (readElem : ParcelM α) : ParcelM (List α) := do
  match ← readSlice readElem with
  | none => fail (.badParcelable "fixed slice is null")
  | some values =>
    if (values.length : Int) ≠ size then
      fail (.badParcelable s!"fixed slice length {values.length}, want {size}")
    else
      return values

/-- The image of a slice from those of its elements. -/
def Image.slice (image : α → Image) : Option (List α) → Image
  | none => Image.int32 (-1)
  | some values => Image.count values.length ++ Image.concat (values.map image)

namespace Writes

variable {writeElem : α → ParcelM Unit} {image : α → Image}

theorem slice
    {values : Option (List α)} (short : ∀ vs, values = some vs → (vs.length : Int) ≤ maxInt32)
    (writes : ∀ vs, values = some vs → ∀ v ∈ vs, Writes (writeElem v) (image v)) :
    Writes (writeSlice values writeElem) (.slice image values) := by
  cases values with
  | none => exact int32 (-1)
  | some values =>
    have notLarge : ¬ (values.length : Int) > maxInt32 := by
      have := short values rfl
      omega
    simp only [writeSlice, if_neg notLarge]
    exact .seq (int32 _) (.forM values (writes values rfl))

theorem fixedSlice
    {values : List α} (short : (values.length : Int) ≤ maxInt32)
    (writes : ∀ v ∈ values, Writes (writeElem v) (image v)) :
    Writes (writeFixedSlice (some values) values.length writeElem)
      (.slice image (some values)) := by
  simp only [writeFixedSlice, ne_eq, not_true_eq_false, if_false]
  apply slice
  · rintro _ ⟨⟩
    exact short
  · rintro _ ⟨⟩
    exact writes

end Writes

namespace Reads

variable {owned : Bool} {readElem : ParcelM β}
  {image : α → Image} {result : α → β}

theorem elems {values : List α} (reads : ∀ v ∈ values, Reads owned readElem (image v) (result v)) :
    Reads owned (readElems readElem values.length)
      (.concat (values.map image)) (values.map result) := by
  induction values with
  | nil => exact .done []
  | cons v rest ih =>
    apply seq (reads v (by simp))
    apply map
      (ih fun other mem =>
        reads other (by simp [mem]))
    intro p
    rfl

theorem slice
    {values : Option (List α)} (short : ∀ vs, values = some vs → (vs.length : Int) ≤ maxInt32)
    (reads : ∀ vs, values = some vs → ∀ v ∈ vs, Reads owned readElem (image v) (result v)) :
    Reads owned (readSlice readElem) (.slice image values) (values.map (.map result)) := by
  cases values with
  | none =>
    apply map (int32 (-1))
    intro p
    rfl
  | some values =>
    apply seq (int32 _)
    rw [if_neg (not_count_neg (short values rfl)),
      toInt_ofInt_count (short values rfl), Int.toNat_natCast]
    apply map (elems (reads values rfl))
    intro p
    rfl

theorem fixedSlice
    {values : List α} (short : (values.length : Int) ≤ maxInt32)
    (reads : ∀ v ∈ values, Reads owned readElem (image v) (result v)) :
    Reads owned (readFixedSlice values.length readElem)
      (.slice image (some values)) (values.map result) := by
  apply map
  · apply slice
    · rintro _ ⟨⟩
      exact short
    · rintro _ ⟨⟩
      exact reads
  · intro p
    simp only [Option.map_some, List.length_map, ne_eq, not_true_eq_false, if_false]
    rfl

end Reads

open Reads

namespace Parcel.Safe

variable {readElem : ParcelM α}

theorem readElems (safe : Safe readElem) (count : Nat) : Safe (readElems readElem count) := by
  induction count with
  | zero => exact pure _
  | succ count ih => exact safe.bind fun _ => ih.map

theorem readSlice (safe : Safe readElem) : Safe (readSlice readElem) := by
  apply readInt32.bind
  intro size
  split_ifs
  · exact pure _
  · exact (safe.readElems _).map

end Parcel.Safe

end Libbinder
