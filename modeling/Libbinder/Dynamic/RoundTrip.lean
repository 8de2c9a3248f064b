import Libbinder.Dynamic.Normal

/-!
# Dynamic values round trip

The writer appends the image of a value, and reading that image returns the
normal form of the value and steps over exactly the image, as long as every
length prefix can hold the length of its body.  The prefix is an `int32`, so a
list or a map whose body has 2 GiB or more is written with a truncated prefix
and cannot be read back.
-/

namespace Libbinder

open Go List Action Image Reads Parcel GoValue DynamicValue Action.CanReturn

/-! ## Leaves -/

section Leaf

variable {Binder B : Type} {resolvers : Resolvers B}
  {codec : BinderCodec Binder resolvers}

theorem StringFits.mk_of
    {value : GoString} (valid : Utf8.valid value) (fits : FitsInt32 (utf16Length value)) :
    StringFits value :=
  ⟨valid, fits⟩

variable {tag : LeafTag}

theorem Writes.leafTagged {body : ParcelM Unit} {image : Image} (writes : Writes body image) :
    Writes (writeLeafTagged tag body) (.tagged (.leaf tag) image) :=
  .seq (.int32 _) writes

variable {α : Type} {values : Option (List α)} {image : α → Image}

/-- A typed slice whose elements are always written. -/
theorem Writes.typedSlice
    {write : α → ParcelM Unit} (short : ∀ vs, values = some vs → FitsInt32 vs.length)
    (writes : ∀ value, Writes (write value) (image value)) :
    Writes (writeLeafTagged tag (writeSlice values write))
      (.tagged (.leaf tag) (.slice image values)) :=
  (Writes.slice short fun _ _ value _ => writes value).leafTagged

variable {value : GoLeaf Binder}

theorem GoLeaf.writes (valid : value.Valid) (fits : value.Fits) :
    Writes (writeLeaf codec.write value) (value.image codec) := by
  cases value with
  | null | nilMap | nilSlice | nilPointer => exact .int32 _
  | string value => exact (Writes.string (.mk_of valid fits)).leafTagged
  | stringPointer value =>
    cases value with
    | none => exact .int32 _
    | some value => exact (Writes.string (.mk_of valid fits)).leafTagged
  | int value =>
    by_cases small : value ≥ -2147483648 ∧ value ≤ 2147483647
    · simp only [writeLeaf, GoLeaf.image, if_pos small]
      exact (Writes.int32 _).leafTagged
    · simp only [writeLeaf, GoLeaf.image, if_neg small]
      exact (Writes.int64 _).leafTagged
  | int32 value | int16 value | int8 value | uint16 value => exact (Writes.int32 _).leafTagged
  | int64 value => exact (Writes.int64 _).leafTagged
  | bool value => exact (Writes.bool _).leafTagged
  | float32 bits => exact (Writes.float32 _).leafTagged
  | float64 bits => exact (Writes.float64 _).leafTagged
  | bytes values =>
    apply Writes.leafTagged
    apply Writes.byteSlice
    rintro bytes rfl
    exact fits
  | strings values =>
    apply Writes.leafTagged
    apply Writes.slice
    · rintro vs rfl
      exact fits.1
    · rintro vs rfl value mem
      exact .string (.mk_of (valid value mem) (fits.2 value mem))
  | int32s values | int16s values | uint16s values =>
    refine .typedSlice ?_ fun _ => .int32 _
    rintro vs rfl
    exact fits
  | int64s values =>
    refine .typedSlice ?_ fun _ => .int64 _
    rintro vs rfl
    exact fits
  | float32s values =>
    refine .typedSlice ?_ fun _ => .float32 _
    rintro vs rfl
    exact fits
  | float64s values =>
    refine .typedSlice ?_ fun _ => .float64 _
    rintro vs rfl
    exact fits
  | binder value => exact (codec.writes value).leafTagged
  | namedBytes values =>
    apply Writes.leafTagged
    apply Writes.byteSlice
    rintro bytes ⟨⟩
    exact fits

/-- A typed slice whose elements are always read back. -/
theorem Reads.typedSlice
    {owned : Bool} {read : ParcelM α} (short : ∀ vs, values = some vs → FitsInt32 vs.length)
    (reads : ∀ value, Reads owned read (image value) value) :
    Reads owned (readSlice read) (.slice image values) values := by
  have slice : Reads owned (readSlice read) (.slice image values) (values.map (.map id)) :=
    .slice short fun _ _ value _ => reads value
  rwa [map_id_fun, Option.map_id] at slice

variable [DecidableEq B] {quote : GoString → String} {owned : Bool}
  {nested : ParcelM (DynamicValue B)}

/-- A tag is followed by the payload it announces. -/
theorem Reads.tagged
    {tag : ValueTag} {body : Image} {value : DynamicValue B}
    (reads : Reads owned (readPayload resolvers quote nested tag) body value) :
    Reads owned (readLayer resolvers quote nested) (.tagged tag body) value := by
  apply seq (.int32 tag.code)
  rwa [ValueTag.ofCode_code]

/-- A leaf is read by its own reader. -/
theorem Reads.leafTagged
    {body : Image} {value : Leaf B} {first : ParcelM α} {found : α}
    {next : α → ParcelM (Leaf B)} (reads : Reads owned first body found)
    (reader : readLeaf resolvers tag = first >>= next) (computes : next found = pure value) :
    Reads owned (readLayer resolvers quote nested) (.tagged (.leaf tag) body) (.leaf value) := by
  have own : Reads owned (readLeaf resolvers tag) body value := by
    rw [reader]
    exact .map reads fun p => by rw [computes]; rfl
  exact .tagged (.map own fun _ => rfl)

theorem GoLeaf.reads_null :
    Reads owned (readLayer resolvers quote nested)
      (.int32 (ValueTag.leaf .null).code) (.leaf .null) := by
  apply Reads.map (.int32 _)
  intro p
  rw [ValueTag.ofCode_code]
  rfl

theorem GoLeaf.reads (valid : value.Valid) (fits : value.Fits) :
    Reads owned (readLayer resolvers quote nested) (value.image codec)
      (.leaf (value.normal codec)) := by
  cases value with
  | null | nilMap | nilSlice | nilPointer => exact reads_null
  | string value => exact .leafTagged (.string (.mk_of valid fits)) rfl rfl
  | stringPointer value =>
    cases value with
    | none => exact reads_null
    | some value => exact .leafTagged (.string (.mk_of valid fits)) rfl rfl
  | int value =>
    by_cases small : value ≥ -2147483648 ∧ value ≤ 2147483647
    · simp only [GoLeaf.image, GoLeaf.normal, if_pos small]
      exact .leafTagged (.int32 _) rfl rfl
    · simp only [GoLeaf.image, GoLeaf.normal, if_neg small]
      exact .leafTagged (.int64 _) rfl rfl
  | int32 value => exact .leafTagged (.int32 _) rfl rfl
  | int16 value =>
    refine .leafTagged (.int32 _) rfl ?_
    rw [Int16.toInt16_toInt32]
    rfl
  | int8 value =>
    refine .leafTagged (.int32 _) rfl ?_
    rw [Int8.toInt8_toInt32]
    rfl
  | uint16 value =>
    refine .leafTagged (.int32 _) rfl ?_
    rw [UInt32.toUInt32_toInt32, UInt16.toUInt16_toUInt32]
    rfl
  | int64 value => exact .leafTagged (.int64 _) rfl rfl
  | bool value => exact .leafTagged (.bool _) rfl rfl
  | float32 bits => exact .leafTagged (.float32 _) rfl rfl
  | float64 bits => exact .leafTagged (.float64 _) rfl rfl
  | bytes values =>
    refine .leafTagged (.byteSlice ?_) rfl rfl
    rintro bytes rfl
    exact fits
  | strings values =>
    have slice :
        Reads owned readStringArray
          (.slice (fun value => .nullableString (some value)) values)
          (values.map (.map id)) := by
      apply Reads.slice
      · rintro vs rfl
        exact fits.1
      · rintro vs rfl value mem
        exact .string (.mk_of (valid value mem) (fits.2 value mem))
    rw [map_id_fun, Option.map_id] at slice
    exact .leafTagged slice rfl rfl
  | int32s values =>
    refine .leafTagged (.typedSlice ?_ fun _ => .int32 _) rfl rfl
    rintro vs rfl
    exact fits
  | int16s values =>
    refine .leafTagged (.typedSlice ?_ fun _ => .map (.int32 _) ?_) rfl rfl
    · rintro vs rfl
      exact fits
    · intro p
      rw [Int16.toInt16_toInt32]
      rfl
  | uint16s values =>
    refine .leafTagged (.typedSlice ?_ fun _ => .map (.int32 _) ?_) rfl rfl
    · rintro vs rfl
      exact fits
    · intro p
      rw [UInt32.toUInt32_toInt32, UInt16.toUInt16_toUInt32]
      rfl
  | int64s values =>
    refine .leafTagged (.typedSlice ?_ fun _ => .int64 _) rfl rfl
    rintro vs rfl
    exact fits
  | float32s values =>
    refine .leafTagged (.typedSlice ?_ fun _ => .float32 _) rfl rfl
    rintro vs rfl
    exact fits
  | float64s values =>
    refine .leafTagged (.typedSlice ?_ fun _ => .float64 _) rfl rfl
    rintro vs rfl
    exact fits
  | binder value => exact .leafTagged (codec.reads owned value) rfl rfl
  | namedBytes values =>
    refine .leafTagged (.byteSlice ?_) rfl rfl
    rintro bytes ⟨⟩
    exact fits

end Leaf

/-! ## Frames -/

namespace Writes

theorem counted
    {what : String} {size : Nat} {loop : ParcelM Unit} {image : Image} (fits : FitsInt32 size)
    (writes : Writes loop image) : Writes (writeCounted what size loop) (.count size ++ image) := by
  have notLarge : ¬ (size : Int) > maxInt32 := not_lt.mpr fits
  rw [writeCounted, if_neg notLarge]
  exact .seq (int32 _) writes

theorem framed
    {tag : ValueTag} {body : ParcelM Unit} {image : Image}
    (lengthPrefixed : dynamicValueLengthPrefixed tag) (writes : Writes body image) :
    Writes (writeDynamicTagged tag body) (.framed tag image) := by
  rw [writeDynamicTagged, if_pos lengthPrefixed]
  apply Writes.seq (int32 _)
  refine .sized ?_ (by omega) writes
  intro start
  simp

end Writes

namespace Reads

/-- A body is read behind its length when the prefix holds the length. -/
theorem lengthPrefixed
    {owned : Bool} {α : Type} {op : ParcelM α} {image : Image} {value : α}
    (small : FitsInt32 image.size) (reads : Reads owned op image value) :
    Reads owned (readPrefixed op) (.sized 0 image) value := by
  intro p owner window
  have sized : Int32.ofInt (image.size + (0 : Nat)) = .ofInt image.size := by
    simp
  have bounded := window.bounded
  rw [Image.sized, sized] at window ⊢
  have inside : p.pos + 4 + image.size ≤ p.len := by
    rcases window.layout with ⟨before, after, layout, cursor⟩
    have total :
        p.len = before.length + (.int32 (.ofInt image.size) ++ image).size + after.length := by
      simp [len, layout, size]
      ring
    rw [size_append, size_int32] at total
    push_cast at total
    omega
  have held : p.len ≤ 9223372036854775807 := bounded.held
  have nonneg := bounded.nonneg
  have word := (int32 (.ofInt image.size)) p owner window.left
  have limited : readDynamicLengthPrefix p = .ok (p.pos + 4 + image.size) (p.advance 4) := by
    have found : position (p.advance 4) = .ok (p.pos + 4) (p.advance 4) := rfl
    rw [size_int32] at word
    rw [readDynamicLengthPrefix, bind_ok word, if_neg (not_count_neg small),
      bind_ok found, toInt_ofInt_count small, wrapInt_eq]
    rfl
  have behind : (p.advance 4).Window image := by
    have right := window.right
    rwa [size_int32] at right
  have body := reads (p.advance 4) owner behind
  have ended :
      finishDynamicLengthPrefix (p.pos + 4 + image.size)
          ((p.advance 4).advance image.size) =
        .ok () ((p.advance 4).advance image.size) := by
    have found :
        position ((p.advance 4).advance image.size) =
          .ok (p.pos + 4 + image.size) ((p.advance 4).advance image.size) :=
      rfl
    rw [finishDynamicLengthPrefix, bind_ok found, if_neg (lt_irrefl _), if_pos rfl]
    rfl
  rw [readPrefixed, bind_ok limited, bind_ok body, bind_ok ended,
    size_append, size_int32, advance_advance]
  rfl

variable {owned : Bool} {B : Type} [DecidableEq B]
  {reader : ParcelM (DynamicValue B)}

theorem entry
    {keyImage valueImage : Image} {key value : DynamicValue B}
    {values : List (DynamicValue B × DynamicValue B)} (keyReads : Reads owned reader keyImage key)
    (valueReads : Reads owned reader valueImage value) (hashable : key.hashable)
    (fresh : ∀ stored ∈ values, stored.1.sameKey key = false) :
    Reads owned (readEntry assign reader reader values)
      (keyImage ++ valueImage) (values ++ [(key, value)]) := by
  apply seq keyReads
  apply map valueReads
  intro p
  rw [DynamicValue.assign, if_pos hashable, assign_fresh fresh]
  rfl

/-- Entries with distinct keys are read into a map one after the other. -/
theorem entries
    {ι : Type} {keyImage valueImage : ι → Image} {key value : ι → DynamicValue B} {items : List ι}
    (keyReads : ∀ item ∈ items, Reads owned reader (keyImage item) (key item))
    (valueReads : ∀ item ∈ items, Reads owned reader (valueImage item) (value item))
    (hashable : ∀ item ∈ items, (key item).hashable)
    (distinct : items.Pairwise fun past later =>
        (key past).sameKey (key later) = false)
    (values : List (DynamicValue B × DynamicValue B))
    (fresh : ∀ stored ∈ values, ∀ item ∈ items, stored.1.sameKey (key item) = false) :
    Reads owned
      (readEntries assign reader reader items.length values)
      (.concat (items.map fun item => keyImage item ++ valueImage item))
      (values ++ items.map fun item => (key item, value item)) := by
  induction items generalizing values with
  | nil =>
    simp only [map_nil, append_nil]
    exact .done values
  | cons item rest ih =>
    rw [pairwise_cons] at distinct
    have first :=
      entry (keyReads item (by simp)) (valueReads item (by simp))
        (hashable item (by simp))
        (fun stored mem => fresh stored mem item (by simp))
    have later :=
      ih
        (fun other mem => keyReads other (by simp [mem]))
        (fun other mem => valueReads other (by simp [mem]))
        (fun other mem => hashable other (by simp [mem]))
        distinct.2 (values ++ [(key item, value item)])
        (by
          intro stored mem other later
          rcases mem_append.mp mem with old | new
          · exact fresh stored old other (by simp [later])
          · rw [mem_singleton] at new
            rw [new]
            exact distinct.1 other later)
    rw [append_assoc] at later
    exact .seq first later

end Reads

/-! ## Values -/

namespace GoValue

variable {Binder B : Type} {resolvers : Resolvers B}
  {codec : BinderCodec Binder resolvers} {values : List (GoValue Binder)}

variable {entries : List (GoValue Binder × GoValue Binder)} [DecidableEq B]

/-- What the round trip asks of one value, apart from its length prefix. -/
def Writable (codec : BinderCodec Binder resolvers) (value : GoValue Binder) : Prop :=
  value.Supported codec ∧ value.Fits

theorem writes (value : GoValue Binder) (writable : ∀ node ∈ value.nodes, node.Writable codec) :
    Writes (writeDynamicValue codec.write value) (value.image codec) := by
  induction value using nested_induction with
  | leaf value =>
    have holds := writable _ (mem_nodes_self _)
    exact GoLeaf.writes holds.1 holds.2
  | nilAnyMap => exact .framed rfl (.int32 _)
  | anyMap entries ih
  | map entries ih =>
    rw [nodes, forall_mem_cons, forall_nodesOfEntries] at writable
    rcases writable with ⟨holds, inside⟩
    refine .framed rfl (.counted holds.2 ?_)
    rw [writeEntries_eq, imageOfEntries_eq]
    refine .forM entries fun entry mem => .seq ?_ ?_
    · exact (ih entry mem).1 (inside entry mem).1
    · exact (ih entry mem).2 (inside entry mem).2
  | slice values ih
  | array values ih =>
    rw [nodes, forall_mem_cons, forall_nodesOfAll] at writable
    rcases writable with ⟨holds, inside⟩
    refine .framed rfl (.counted holds.2 ?_)
    rw [writeElements_eq, imageOfAll_eq]
    exact .forM values fun value mem => ih value mem (inside value mem)
  | pointer target ih =>
    exact ih fun node inside =>
      writable node (.tail _ inside)
  | other typeName => exact (writable _ (mem_nodes_self _)).1.elim

variable {quote : GoString → String} {owned : Bool}

/-- The recursion equation of the reader, at an image. -/
theorem reads_of_layer
    {image : Image} {value : DynamicValue B}
    (reads : Reads owned
        (readLayer resolvers quote (readDynamicValue resolvers quote))
        image value) : Reads owned (readDynamicValue resolvers quote) image value := by
  intro p owner window
  rw [readDynamicValue_eq window.bounded]
  exact reads p owner window

/-- The length prefix of a list or a map holds the length of its body. -/
def BodyFits (codec : BinderCodec Binder resolvers)
    (value : GoValue Binder) : Prop :=
  ∀ body, value.body? codec = some body → FitsInt32 body.size

theorem reads
    (value : GoValue Binder)
    (fits : ∀ node ∈ value.nodes, node.Writable codec ∧ node.BodyFits codec) :
    Reads owned (readDynamicValue resolvers quote) (value.image codec) (value.normal codec) := by
  induction value using nested_induction with
  | leaf value =>
    have holds := (fits _ (mem_nodes_self _)).1
    exact reads_of_layer (GoLeaf.reads holds.1 holds.2)
  | nilAnyMap =>
    have small := (fits _ (mem_nodes_self _)).2 _ rfl
    have body :
        Reads owned
          (readMap assign (readDynamicValue resolvers quote) (readDynamicValue resolvers quote))
          (.int32 (-1)) none :=
      .map (.int32 _) fun _ => rfl
    exact reads_of_layer (.tagged (.map (.lengthPrefixed small body) fun _ => rfl))
  | anyMap entries ih
  | map entries ih =>
    rw [nodes, forall_mem_cons, forall_nodesOfEntries] at fits
    rcases fits with ⟨⟨holds, small⟩, inside⟩
    have loop :=
      Reads.entries (fun entry mem => (ih entry mem).1 (inside entry mem).1)
        (fun entry mem => (ih entry mem).2 (inside entry mem).2)
        holds.1.1 holds.1.2 [] (by simp)
    rw [nil_append, ← imageOfEntries_eq, ← normalEntries_eq] at loop
    have wholeMap :
        Reads owned
          (readMap assign (readDynamicValue resolvers quote) (readDynamicValue resolvers quote))
          (.count entries.length ++ imageOfEntries codec entries)
          (some (normalEntries codec entries)) := by
      apply seq (.int32 _)
      rw [if_neg (not_count_neg holds.2), toInt_ofInt_count holds.2, Int.toNat_natCast]
      exact .map loop fun _ => rfl
    exact reads_of_layer (.tagged (.map (.lengthPrefixed (small _ rfl) wholeMap) fun _ => rfl))
  | slice values ih
  | array values ih =>
    rw [nodes, forall_mem_cons, forall_nodesOfAll] at fits
    rcases fits with ⟨⟨holds, small⟩, inside⟩
    have slice :
        Reads owned (readSlice (readDynamicValue resolvers quote))
          (.slice (image codec) (some values)) ((some values).map (.map (normal codec))) := by
      apply Reads.slice
      · rintro vs ⟨⟩
        exact holds.2
      · rintro vs ⟨⟩
        exact fun value mem => ih value mem (inside value mem)
    have fits := small _ rfl
    rw [imageOfAll_eq] at fits
    rw [image, normal, imageOfAll_eq, normalAll_eq]
    exact reads_of_layer (.tagged (.map (.lengthPrefixed fits slice) fun _ => rfl))
  | pointer target ih =>
    exact ih fun node inside => fits node (.tail _ inside)
  | other typeName => exact (fits _ (mem_nodes_self _)).1.1.elim

end GoValue

open GoValue

/-! ## What a writer that returns tells -/

section Returning

variable {Binder : Type} {writeBinder : Binder → ParcelM Unit}

theorem fitsInt32_of_writeString {value : GoString} (returns : (writeString value).CanReturn) :
    FitsInt32 (utf16Length value) := by
  by_contra large
  have tooLong : ((Utf16.encode (Utf8.runes value)).length : Int) > maxInt32 := not_le.mp large
  unfold writeString writeNullableString at returns
  simp only [if_pos tooLong] at returns
  exact not_fail returns

theorem fitsInt32_of_writeBytes
    {values : List UInt8} (returns : (writeBytes (some values)).CanReturn) :
    FitsInt32 values.length := by
  by_contra large
  have tooLong : (values.length : Int) > maxInt32 := not_le.mp large
  rw [writeBytes, if_pos tooLong] at returns
  exact not_fail returns

theorem of_writeSlice
    {α : Type} {values : List α} {write : α → ParcelM Unit}
    (returns : (writeSlice (some values) write).CanReturn) :
    FitsInt32 values.length ∧ ∀ value ∈ values, (write value).CanReturn := by
  by_cases large : (values.length : Int) > maxInt32
  · rw [writeSlice, if_pos large] at returns
    exact (not_fail returns).elim
  · rw [writeSlice, if_neg large] at returns
    exact ⟨not_lt.mp large, returns.right.forM⟩

theorem of_writeCounted
    {what : String} {size : Nat} {loop : ParcelM Unit}
    (returns : (writeCounted what size loop).CanReturn) : FitsInt32 size ∧ loop.CanReturn := by
  by_cases large : (size : Int) > maxInt32
  · rw [writeCounted, if_pos large] at returns
    exact (not_fail returns).elim
  · rw [writeCounted, if_neg large] at returns
    exact ⟨not_lt.mp large, returns.right⟩

variable {body : ParcelM Unit}

theorem of_writeSized
    {origin : Int → Int → Int} (returns : (writeSized origin body).CanReturn) : body.CanReturn := by
  rcases returns.of_bind.2 with ⟨start, afterStart⟩
  rcases afterStart.right.of_bind.2 with ⟨bodyStart, afterBodyStart⟩
  exact afterBodyStart.of_bind.1

theorem of_writeDynamicTagged {tag : ValueTag} (returns : (writeDynamicTagged tag body).CanReturn) :
    body.CanReturn := by
  have payload := returns.right
  split_ifs at payload
  · exact of_writeSized payload
  · exact payload

theorem GoLeaf.fits_of_canReturn
    {value : GoLeaf Binder} (returns : (writeLeaf writeBinder value).CanReturn) : value.Fits := by
  cases value with
  | string value => exact fitsInt32_of_writeString (of_writeDynamicTagged returns)
  | stringPointer value =>
    cases value with
    | none => exact trivial
    | some value => exact fitsInt32_of_writeString (of_writeDynamicTagged returns)
  | bytes values =>
    cases values with
    | none => exact trivial
    | some values => exact fitsInt32_of_writeBytes (of_writeDynamicTagged returns)
  | namedBytes values => exact fitsInt32_of_writeBytes (of_writeDynamicTagged returns)
  | strings values =>
    cases values with
    | none => exact trivial
    | some values =>
      rcases of_writeSlice (of_writeDynamicTagged returns) with ⟨count, elements⟩
      exact ⟨count, fun value mem =>
        fitsInt32_of_writeString (elements value mem)⟩
  | int32s values | int64s values | int16s values | uint16s values
  | float32s values | float64s values =>
    cases values with
    | none => exact trivial
    | some values => exact (of_writeSlice (of_writeDynamicTagged returns)).1
  | null | int _ | int32 _ | int16 _ | int8 _ | int64 _ | uint16 _ | bool _
  | float32 _ | float64 _ | binder _ | nilMap | nilSlice | nilPointer => exact trivial

namespace GoValue

theorem fits_of_canReturn
    (value : GoValue Binder) (returns : (writeDynamicValue writeBinder value).CanReturn) :
    ∀ node ∈ value.nodes, node.Fits := by
  induction value using nested_induction with
  | leaf value =>
    rw [nodes, forall_mem_singleton]
    exact GoLeaf.fits_of_canReturn returns
  | nilAnyMap =>
    rw [nodes, forall_mem_singleton]
    exact trivial
  | anyMap entries ih
  | map entries ih =>
    rw [writeDynamicValue] at returns
    rcases of_writeCounted (of_writeDynamicTagged returns) with ⟨count, loop⟩
    rw [writeEntries_eq] at loop
    rw [nodes, forall_mem_cons, forall_nodesOfEntries]
    refine ⟨count, fun entry found => ?_⟩
    have written := loop.forM entry found
    exact ⟨(ih entry found).1 written.of_bind.1, (ih entry found).2 written.right⟩
  | slice values ih
  | array values ih =>
    rw [writeDynamicValue] at returns
    rcases of_writeCounted (of_writeDynamicTagged returns) with ⟨count, loop⟩
    rw [writeElements_eq] at loop
    rw [nodes, forall_mem_cons, forall_nodesOfAll]
    refine ⟨count, fun value found => ?_⟩
    exact ih value found (loop.forM value found)
  | pointer target ih =>
    rw [writeDynamicValue] at returns
    rw [nodes, forall_mem_cons]
    exact ⟨trivial, ih returns⟩
  | other typeName =>
    rw [writeDynamicValue] at returns
    exact (not_fail returns).elim

end GoValue

end Returning

/-! ## The round trip -/

section RoundTrip

variable {Binder B : Type} {resolvers : Resolvers B}

/--
Writing the value at the end of a parcel appends its image, in which every
length prefix is the length of its body, and reading from where the writer
began returns the normal form and stops where the writer stopped.
-/
structure RoundTrips [DecidableEq B]
    (codec : BinderCodec Binder resolvers) (quote : GoString → String)
    (p : Parcel) (value : GoValue Binder) : Prop where
  written : writeDynamicValue codec.write value p = .ok () (p.push (value.image codec))
  prefixes : ∀ node ∈ value.nodes, ∀ body, node.body? codec = some body →
      (Int32.ofInt body.size).toInt = body.size
  read : readDynamicValue resolvers quote
        { p.push (value.image codec) with pos := p.pos } =
      .ok (value.normal codec) (p.push (value.image codec))

/--
A supported value round trips at the end of a parcel exactly when its strings,
slices and maps are short enough for the writer, every list and map has a body
of less than 2 GiB, and the whole fits into the parcel.
-/
theorem dynamic_round_trip_iff [DecidableEq B]
    (codec : BinderCodec Binder resolvers) (quote : GoString → String)
    (p : Parcel) (opened : p.Open) (objects : ∀ object ∈ p.objects, object.offset < p.len)
    (value : GoValue Binder) (supported : ∀ node ∈ value.nodes, node.Supported codec) :
    RoundTrips codec quote p value ↔
      (∀ node ∈ value.nodes, node.Fits ∧ node.BodyFits codec) ∧
        p.len + (value.image codec).size ≤ maxInt := by
  constructor
  · intro trips
    have returns : (writeDynamicValue codec.write value).CanReturn := ⟨p, _, (), trips.written⟩
    have fits := fits_of_canReturn value returns
    have writes :=
      value.writes fun node inside =>
        ⟨supported node inside, fits node inside⟩
    refine ⟨fun node inside => ⟨fits node inside, ?_⟩, ?_⟩
    · intro body isBody
      have exact := trips.prefixes node inside body isBody
      have bound := Int32.toInt_lt (Int32.ofInt body.size)
      rw [exact] at bound
      unfold FitsInt32 maxInt32
      omega
    · by_contra tooLarge
      rcases writes.overflows p opened (not_le.mp tooLarge) with ⟨reached, overflow⟩
      rw [trips.written] at overflow
      cases overflow
  · rintro ⟨fits, total⟩
    have writable : ∀ node ∈ value.nodes, node.Writable codec :=
      fun node inside => ⟨supported node inside, (fits node inside).1⟩
    have bodies : ∀ node ∈ value.nodes, node.BodyFits codec :=
      fun node inside => (fits node inside).2
    refine ⟨(value.writes writable).pushes p opened total, ?_, ?_⟩
    · intro node inside body isBody
      exact toInt_ofInt_count (bodies node inside body isBody)
    · have window := Parcel.window_of_push total objects
      rw [← opened.atEnd] at window
      exact value.reads (fun node inside => ⟨writable node inside, bodies node inside⟩) _ rfl window

end RoundTrip

/-- Values without binders need no codec for them. -/
def noBinders : BinderCodec Empty noResolvers where
  write := nofun
  image := nofun
  resolved := nofun
  writes := nofun
  reads := nofun

/-- A list of an `int` and of a map from a string to a boolean. -/
def mixedList : GoValue Empty :=
  .slice [.leaf (.int 5), .anyMap [(.leaf (.string [97]), .leaf (.bool true))]]

theorem mixedList_supported : ∀ node ∈ mixedList.nodes, node.Supported noBinders := by
  simp [mixedList, nodes, nodesOfAll, nodesOfEntries, GoValue.Supported,
    GoLeaf.Valid, normal, GoLeaf.normal, hashable, Leaf.hashable]
  decide

theorem mixedList_round_trips : RoundTrips noBinders (fun _ => "") Parcel.new mixedList := by
  refine (dynamic_round_trip_iff noBinders (fun _ => "") Parcel.new
      ⟨rfl, by decide, rfl⟩ (by intro object member; cases member) mixedList
      mixedList_supported).mpr ⟨?_, ?_⟩
  · simp [mixedList, nodes, nodesOfAll, nodesOfEntries, GoValue.Fits,
      GoLeaf.Fits, GoValue.BodyFits, body?]
    decide
  · decide

/-- A list of one byte array. -/
def listOfZeros (length : Nat) : GoValue Empty :=
  .slice [.leaf (.bytes (some (.replicate length 0)))]

/-- What the list writes behind its length prefix. -/
def bodyOfZeros (length : Nat) : Image :=
  .count 1 ++ imageOfAll noBinders [.leaf (.bytes (some (.replicate length 0)))]

theorem bodyOfZeros_size (length : Nat) : (bodyOfZeros length).size = paddedLength length + 12 := by
  simp [bodyOfZeros, imageOfAll, image, GoLeaf.image, Image.tagged, Image.byteSlice, Image.count]
  omega

theorem listOfZeros_image (length : Nat) :
    (listOfZeros length).image noBinders = .framed .list (bodyOfZeros length) :=
  rfl

theorem listOfZeros_writable {length : Nat} (taken : FitsInt32 length) :
    ∀ node ∈ (listOfZeros length).nodes, node.Writable noBinders := by
  simp [listOfZeros, nodes, nodesOfAll, GoValue.Writable,
    GoValue.Supported, GoValue.Fits, GoLeaf.Valid, GoLeaf.Fits, taken]
  decide

/-- A length prefix that was truncated to a negative number is refused. -/
theorem readDynamicValue_negative
    {p : Parcel} {body : Image} (window : p.Window (.framed .list body))
    (below : Int32.ofInt body.size < 0) :
    ∃ reason reached,
      readDynamicValue noResolvers (fun _ => "") p = .error (.error reason) reached := by
  have bounded := window.bounded
  rw [framed, Image.tagged, sized, Nat.cast_zero, add_zero] at window
  have tag := int32 ValueTag.list.code p rfl window.left
  have length := int32 (.ofInt body.size) _ rfl window.right.left
  have refused :
      ∃ reason reached,
        readDynamicLengthPrefix
            (p.advance (Image.int32 ValueTag.list.code).size) =
          .error (.error reason) reached := by
    rw [readDynamicLengthPrefix, bind_ok length, if_pos below]
    exact ⟨_, _, rfl⟩
  rcases refused with ⟨reason, reached, refused⟩
  refine ⟨reason, reached, ?_⟩
  rw [readDynamicValue_eq bounded, readLayer, bind_ok tag, ValueTag.ofCode_code]
  exact bind_error (bind_error refused)

/--
The writer accepts the list and fills in the length of its body truncated to
an `int32`; the reader refuses the negative length.
-/
theorem listOfZeros_cannot_be_read
    {length : Nat} (taken : FitsInt32 length) (long : 2147483648 ≤ paddedLength length + 12) :
    ∃ written reason reached,
      writeDynamicValue noBinders.write (listOfZeros length) .new = .ok () written ∧
        readDynamicValue noResolvers (fun _ => "")
            { written with pos := 0 } =
          .error (.error reason) reached := by
  have size := bodyOfZeros_size length
  have bound : paddedLength length + 12 < 4294967296 := by
    unfold FitsInt32 maxInt32 at taken
    unfold paddedLength
    omega
  have total : new.len + ((listOfZeros length).image noBinders).size ≤ maxInt := by
    rw [listOfZeros_image, framed, Image.tagged, sized,
      size_append, size_append, size, size_int32, size_int32]
    have fresh : new.len = 0 := rfl
    unfold maxInt
    push_cast
    omega
  have written :=
    ((listOfZeros length).writes (listOfZeros_writable taken)).pushes
      .new ⟨rfl, by decide, rfl⟩ total
  have window := window_of_push total (by intro object mem; cases mem)
  have below : Int32.ofInt (bodyOfZeros length).size < 0 := by
    have modulus : (Int32.size : Int) = 4294967296 := rfl
    rw [Int32.lt_iff_toInt_lt, Int32.toInt_ofInt, size, Int.bmod_def, modulus]
    change _ < (0 : Int)
    push_cast
    split_ifs <;> omega
  rcases readDynamicValue_negative window below with ⟨reason, reached, refused⟩
  exact ⟨_, reason, reached, written, refused⟩

/-- A list whose body has exactly 2 GiB is written and cannot be read back. -/
theorem twoGibibytes_cannot_be_read :
    ∃ written reason reached,
      writeDynamicValue noBinders.write (listOfZeros 2147483636)
          Parcel.new =
          .ok () written ∧
        readDynamicValue noResolvers (fun _ => "")
            { written with pos := 0 } =
          .error (.error reason) reached :=
  listOfZeros_cannot_be_read (by decide) (by decide)

end Libbinder
