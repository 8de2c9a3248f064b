import Libbinder.Go.Transition
import Libbinder.Kernel.Incoming
import Libbinder.Parcel.Hostile

/-!
# The object table of a parcel

A parcel records the offset of every binder and descriptor that is written to
it, and the driver is given these offsets.  As long as no write meets the bytes
of a recorded object, the offsets are distinct and the flat objects lie where
the table says.  A parcel that is rewound and written over keeps the old
entries.
-/

namespace Libbinder.Kernel

open ParcelObjectRef Image Parcel

open Go Parcel List

/-! ## Flat objects in bytes -/

/-- The little-endian word at an offset. -/
def HasWord (bytes : List UInt8) (offset : Int) (value : UInt32) : Prop :=
  ∃ before after, bytes = before ++ leBytes 4 value.toNat ++ after ∧ before.length = offset

/--
The words of the flat object of an entry, by their offset in it: a strong
binder is a local one or a handle.
-/
def flatWords (object : ParcelObjectRef) : List (List (Nat × UInt32)) :=
  match object.objectKind with
  | .strongBinder =>
    [[(0, flatTypeBinder), (24, object.stability.toUInt32)],
      [(0, flatTypeHandle), (8, object.handle), (24, object.stability.toUInt32)]]
  | .fileDescriptor => [[(0, flatTypeFD), (8, object.handle)]]
  | _ => []

/-- The bytes hold the object of an entry where the entry says. -/
structure Lies (bytes : List UInt8) (object : ParcelObjectRef) : Prop where
  inside : object.offset + object.length ≤ bytes.length
  words : ∃ words ∈ flatWords object, ∀ word ∈ words,
      word.1 + 4 ≤ object.length ∧ HasWord bytes (object.offset + word.1) word.2

namespace HasWord

variable {bytes : List UInt8} {offset : Int} {value : UInt32} (word : HasWord bytes offset value)

include word

theorem append_right (more : List UInt8) : HasWord (bytes ++ more) offset value := by
  rcases word with ⟨before, after, rfl, length⟩
  exact ⟨before, after ++ more, by simp, length⟩

theorem append_left (first : List UInt8) :
    HasWord (first ++ bytes) (offset + first.length) value := by
  rcases word with ⟨before, after, rfl, rfl⟩
  refine ⟨first ++ before, after, by simp, ?_⟩
  push_cast [length_append]
  ring

theorem take {n : Nat} (room : offset + 4 ≤ n) : HasWord (bytes.take n) offset value := by
  rcases word with ⟨before, after, rfl, rfl⟩
  have whole : (before ++ leBytes 4 value.toNat).length ≤ n := by
    rw [length_append, length_leBytes]
    omega
  rw [take_append, take_of_length_le whole]
  exact ⟨before, _, rfl, rfl⟩

variable {stored : List UInt8}

/-- A number that is stored later on behind a word leaves it alone. -/
theorem putLE
    {width place number : Nat}
    (stores : Go.putLE width bytes place number = some stored) (after : offset + 4 ≤ place) :
    HasWord stored offset value := by
  unfold Go.putLE at stores
  split_ifs at stores
  cases stores
  rw [append_assoc]
  exact (word.take after).append_right _

omit word

/-- A word behind the bytes that are replaced. -/
theorem replace {first other rest : List UInt8}
    (has : HasWord (first ++ rest) offset value) (same : other.length = first.length)
    (after : first.length ≤ offset) : HasWord (other ++ rest) offset value := by
  rcases has with ⟨before, tail, split, rfl⟩
  rw [append_assoc] at split
  rcases append_eq_append_iff.mp split with ⟨gap, rfl, rfl⟩ | ⟨gap, rfl, shape⟩
  · refine ⟨other ++ gap, tail, by simp, ?_⟩
    simp [same]
  · have empty : gap = [] := by
      rw [length_append] at after
      exact length_eq_zero_iff.mp (by omega)
    subst empty
    refine ⟨other, tail, ?_, ?_⟩
    · rw [← nil_append rest, ← shape, append_assoc]
    · simp [same]

theorem of_putLE {place : Nat}
    (stores : Go.putLE 4 bytes place value.toNat = some stored) :
    HasWord stored place value := by
  unfold Go.putLE at stores
  split_ifs at stores with room
  cases stores
  refine ⟨_, _, rfl, ?_⟩
  rw [length_take, min_eq_left (by omega)]

end HasWord

namespace Lies

variable {bytes other : List UInt8} {object : ParcelObjectRef} (lies : Lies bytes object)

include lies

theorem four_le_length : 4 ≤ object.length ∧ 0 ≤ object.offset := by
  rcases lies with ⟨inside, words, form, has⟩
  have type : ∃ value, (0, value) ∈ words := by
    unfold flatWords at form
    split at form <;> simp at form
    · rcases form with rfl | rfl <;> exact ⟨_, mem_cons_self⟩
    · rw [form]
      exact ⟨_, mem_cons_self⟩
  rcases type with ⟨value, first⟩
  rcases has _ first with ⟨room, before, after, -, length⟩
  simp only [Nat.cast_zero] at room length
  constructor <;> omega

theorem offset_bounds : 0 ≤ object.offset ∧ object.offset < bytes.length := by
  have size := lies.four_le_length
  have inside := lies.inside
  omega

/-- Only the words of the object matter. -/
theorem congr
    (words : ∀ offset value, object.offset ≤ offset →
        offset + 4 ≤ object.offset + object.length →
        HasWord bytes offset value → HasWord other offset value)
    (room : object.offset + object.length ≤ other.length) : Lies other object := by
  rcases lies with ⟨-, form, isForm, has⟩
  refine ⟨room, form, isForm, fun word mem => ?_⟩
  rcases has word mem with ⟨inside, here⟩
  exact ⟨inside, words _ _ (by omega) (by omega) here⟩

theorem append_right (more : List UInt8) : Lies (bytes ++ more) object := by
  refine lies.congr (fun offset value _ _ word => word.append_right more) ?_
  have := lies.inside
  rw [length_append]
  omega

theorem take {n : Nat} (room : object.offset + object.length ≤ n) : Lies (bytes.take n) object := by
  refine lies.congr (fun offset value _ inside word => word.take (by omega)) ?_
  have := lies.inside
  rw [length_take]
  omega

theorem append_left (first : List UInt8) : Lies (first ++ bytes) (object.shift first.length) := by
  rcases lies with ⟨inside, form, isForm, has⟩
  refine ⟨?_, form, isForm, fun word mem => ⟨(has word mem).1, ?_⟩⟩
  · simp only [shift, length_append]
    omega
  · have moved := (has word mem).2.append_left first
    rwa [add_right_comm] at moved

end Lies

/-! ## The table -/

/-- The offsets are distinct, and the objects lie where the table says. -/
structure TableHolds (p : Parcel) : Prop where
  distinct : (p.objects.map offset).Nodup
  lies : ∀ object ∈ p.objects, Lies p.buf object

/-- The bytes from one position to another are none of a recorded object. -/
def Clear (p : Parcel) (start finish : Int) : Prop :=
  ∀ object ∈ p.objects, object.offset + object.length ≤ start ∨ finish ≤ object.offset

instance Clear.decidable (p : Parcel) (start finish : Int) : Decidable (Clear p start finish) :=
  inferInstanceAs (Decidable (∀ object ∈ p.objects, _))

/-- An image was written from the cursor of a parcel on. -/
structure Wrote (origin : Parcel) (image : Image) (p : Parcel) : Prop where
  begun : origin.Bounded
  bounded : p.Bounded
  advanced : p.pos = origin.pos + image.size
  layout : p.buf = origin.buf.take origin.pos.toNat ++ image.bytes ++
    origin.buf.drop (origin.pos.toNat + image.size)
  objects : p.objects = origin.objects ++ image.objects.map (shift origin.pos)

/-- The objects of an image have distinct offsets and lie where it says. -/
structure Sound (image : Image) : Prop where
  distinct : (image.objects.map offset).Nodup
  lies : ∀ object ∈ image.objects, Lies image.bytes object

/-- All that was written since is a sound image at the old cursor. -/
def Tidy (origin p : Parcel) : Prop :=
  ∃ image, Wrote origin image p ∧ Sound image

variable {origin p reached : Parcel} {image next : Image}

theorem length_written (fits : p.Bounded) : (p.buf.take p.pos.toNat).length = p.pos.toNat := by
  have := fits.nonneg
  have := fits.inside
  unfold len at *
  rw [length_take]
  omega

theorem nodup_shift
    {objects : List ParcelObjectRef} (distinct : (objects.map offset).Nodup)
    (distance : Int) : (objects.map (offset ∘ shift distance)).Nodup := by
  have moved : offset ∘ shift distance = (· + distance) ∘ offset := rfl
  rw [moved, ← map_map]
  exact Pairwise.map _ (fun _ _ apart same => apart (add_right_cancel same)) distinct

theorem Sound.of_objects_nil (none : image.objects = []) : Sound image := by
  constructor <;> simp [none]

theorem Sound.append (first : Sound image) (second : Sound next) : Sound (image ++ next) := by
  constructor
  · rw [append_objects, map_append, map_map, nodup_append]
    refine ⟨first.distinct, nodup_shift second.distinct _, ?_⟩
    simp only [mem_map]
    rintro _ ⟨object, mem, rfl⟩ _ ⟨other, otherMem, rfl⟩
    have := image.inside object mem
    have := next.inside other otherMem
    simp only [Function.comp, shift]
    omega
  · intro object mem
    rw [append_bytes]
    rcases mem_append.mp mem with old | new
    · exact (first.lies object old).append_right _
    · rcases mem_map.mp new with ⟨own, ownMem, rfl⟩
      exact (second.lies own ownMem).append_left _

theorem Wrote.refl (fits : p.Bounded) : Wrote p .empty p := by
  refine ⟨fits, fits, ?_, ?_, ?_⟩ <;> simp [empty, size]

theorem Wrote.trans (first : Wrote origin image p) (second : Wrote p next reached) :
    Wrote origin (image ++ next) reached := by
  have start := first.begun.nonneg
  have cursor : p.pos.toNat = origin.pos.toNat + image.size := by
    have := first.advanced
    omega
  have front : (origin.buf.take origin.pos.toNat ++ image.bytes).length = p.pos.toNat := by
    rw [length_append, length_written first.begun, cursor]
    rfl
  refine ⟨first.begun, second.bounded, ?_, ?_, ?_⟩
  · rw [second.advanced, first.advanced, size_append]
    push_cast
    ring
  · rw [second.layout, first.layout, take_left' front, drop_append, front,
      drop_of_length_le (by omega), Nat.add_sub_cancel_left, drop_drop, nil_append,
      append_bytes, size_append, append_assoc _ image.bytes, Nat.add_assoc]
  · have moved : shift p.pos = shift origin.pos ∘ shift image.bytes.length := by
      funext object
      simp only [Function.comp, shift, first.advanced, size]
      congr 1
      ring
    rw [second.objects, first.objects, append_objects, map_append, map_map, moved,
      append_assoc]

theorem Tidy.refl (fits : p.Bounded) : Tidy p p :=
  ⟨.empty, .refl fits, .of_objects_nil rfl⟩

theorem Tidy.trans (first : Tidy origin p) (second : Tidy p reached) : Tidy origin reached := by
  rcases first with ⟨image, wrote, sound⟩
  rcases second with ⟨next, wroteNext, soundNext⟩
  exact ⟨image ++ next, wrote.trans wroteNext, sound.append soundNext⟩

/-- The table of a parcel after a write that meets no recorded object. -/
theorem TableHolds.of_tidy
    (holds : TableHolds p) (tidy : Tidy p reached) (clear : Clear p p.pos reached.pos) :
    TableHolds reached := by
  rcases tidy with ⟨image, wrote, sound⟩
  have nonneg := wrote.begun.nonneg
  have advanced : reached.pos = p.pos + image.bytes.length := wrote.advanced
  have front := length_written wrote.begun
  have size : (p.buf.take p.pos.toNat ++ image.bytes).length = p.pos.toNat + image.size := by
    rw [length_append, front]
    rfl
  constructor
  · rw [wrote.objects, map_append, map_map, nodup_append]
    refine ⟨holds.distinct, nodup_shift sound.distinct _, ?_⟩
    simp only [mem_map]
    rintro _ ⟨object, mem, rfl⟩ _ ⟨other, otherMem, rfl⟩
    have := (holds.lies object mem).four_le_length
    have := image.inside other otherMem
    have := clear object mem
    simp only [Function.comp, shift]
    omega
  · intro object mem
    rw [wrote.objects] at mem
    rw [wrote.layout]
    rcases mem_append.mp mem with old | new
    · have lies := holds.lies object old
      rcases clear object old with before | after
      · have kept : Lies (p.buf.take p.pos.toNat) object := lies.take (by omega)
        exact (kept.append_right _).append_right _
      · have whole := lies.inside
        have grown : p.pos.toNat + image.size ≤ p.buf.length := by
          have := lies.four_le_length
          unfold Image.size
          omega
        refine lies.congr (fun offset value inside _ word => ?_) ?_
        · rw [← take_append_drop (p.pos.toNat + image.size) p.buf] at word
          refine word.replace ?_ ?_
          · rw [size, length_take_of_le grown]
          · rw [length_take_of_le grown]
            unfold Image.size
            omega
        · rw [length_append, size, length_drop]
          omega
    · rcases mem_map.mp new with ⟨own, ownMem, rfl⟩
      have placed := (sound.lies own ownMem).append_left (p.buf.take p.pos.toNat)
      have same : ((p.buf.take p.pos.toNat).length : Int) = p.pos := by
        omega
      rw [same] at placed
      exact placed.append_right _

/-! ## Writes -/

variable {fill : List UInt8 → Option (List UInt8)} {op : ParcelM Unit}

theorem wrote_block
    {payload : List UInt8} (fits : p.Bounded) (written : BlockWritten p payload reached) :
    Wrote p (.ofBlock payload) reached := by
  refine ⟨fits, written.bounded, ?_, ?_, ?_⟩
  · rw [written.advanced, size_ofBlock]
  · rw [written.layout, size_ofBlock]
    rfl
  · simp [written.objects, ofBlock]

theorem writeBlock_wrote {n : Nat} (fills : Fills n fill) (sound : Sound image) :
    Action.Triple (Wrote origin image) (writeBlock n fill)
      (fun _ reached => ∃ window body, fill window = some body ∧
        window.length = n ∧ Wrote origin (image ++ .ofBlock body) reached)
      (Tidy origin) := by
  intro p wrote
  rcases writeBlock_spec fills wrote.bounded with
    ⟨reason, failed⟩ | ⟨window, body, reached, ran, filled, sized, written⟩
  · rw [failed]
    exact ⟨image, wrote, sound⟩
  · rw [ran]
    exact ⟨window, body, filled, sized, wrote.trans (wrote_block wrote.bounded written)⟩

/-- Whatever becomes of the call, it wrote a sound image at the cursor. -/
def Tidies (op : ParcelM Unit) : Prop :=
  ∀ origin, origin.Bounded → Action.Triple (origin = ·) op (fun _ => Tidy origin) (Tidy origin)

/-- A call after others. -/
theorem Tidies.after (tidies : Tidies op) (origin : Parcel) :
    Action.Triple (Tidy origin) op (fun _ => Tidy origin) (Tidy origin) := by
  intro p tidy
  have result := tidies p tidy.choose_spec.1.bounded p rfl
  split at result
  · exact tidy.trans result
  · exact tidy.trans result
  · exact result

theorem Tidies.bind {second : ParcelM Unit} (first : Tidies op) (next : Tidies second) :
    Tidies (op >>= fun _ => second) :=
  fun origin fits => (first origin fits).bind fun _ => next.after origin

theorem Tidies.fail (reason : BinderError) : Tidies (.fail reason) := by
  rintro origin fits _ rfl
  exact .refl fits

/-- Blocks that are no objects. -/
theorem tidies_blocks (blocks : Blocks op) : Tidies op := by
  induction blocks with
  | write fills =>
    rintro origin fits _ rfl
    have written := writeBlock_wrote fills (.of_objects_nil rfl) origin (.refl fits)
    split at written
    · rcases written with ⟨_, _, _, _, wrote⟩
      exact ⟨_, wrote, .of_objects_nil rfl⟩
    · exact written
    · cases written
  | fail reason => exact .fail reason
  | bind _ _ firstTidies secondTidies => exact firstTidies.bind secondTidies

/-! ## Objects -/

/--
On a block of `n` bytes that has some words, `fill` makes one that has others.
-/
def Stores (n : Nat) (old : List (Nat × UInt32))
    (fill : List UInt8 → Option (List UInt8)) (new : List (Nat × UInt32)) : Prop :=
  ∀ window : List UInt8, window.length = n →
    (∀ word ∈ old, HasWord window word.1 word.2) →
      ∃ payload, fill window = some payload ∧ payload.length = n ∧
        ∀ word ∈ new, HasWord payload word.1 word.2

namespace Stores

variable {n : Nat} {old middle new : List (Nat × UInt32)}

theorem bind
    {first next : List UInt8 → Option (List UInt8)} (firstStores : Stores n old first middle)
    (nextStores : Stores n middle next new) : Stores n old (fun dst => first dst >>= next) new := by
  intro window sized has
  rcases firstStores window sized has with ⟨between, filled, length, hasThen⟩
  rcases nextStores between length hasThen with ⟨body, stored, rest⟩
  refine ⟨body, ?_, rest⟩
  change (first window).bind next = some body
  rwa [filled]

variable {offset : Nat}

/-- A number behind the words. -/
theorem number {width : Nat} (room : offset + width ≤ n)
    (after : ∀ word ∈ old, word.1 + 4 ≤ offset) (value : Nat) :
    Stores n old (fun dst => putLE width dst offset value) old := by
  intro window sized has
  have stores := putLE_eq_some (by omega : offset + width ≤ window.length) value
  refine ⟨_, stores, (length_of_putLE stores).trans sized, ?_⟩
  intro word mem
  exact (has word mem).putLE stores (by exact_mod_cast after word mem)

/-- One more word behind the words. -/
theorem word (room : offset + 4 ≤ n) (after : ∀ word ∈ old, word.1 + 4 ≤ offset) (value : UInt32) :
    Stores n old (fun dst => putLE 4 dst offset value.toNat) (old ++ [(offset, value)]) := by
  intro window sized has
  rcases number room after value.toNat window sized has with ⟨body, stores, length, kept⟩
  refine ⟨body, stores, length, fun word mem => ?_⟩
  rcases mem_append.mp mem with past | last
  · exact kept word past
  · rw [mem_singleton.mp last]
    exact .of_putLE stores

theorem first (room : offset + 4 ≤ n) (value : UInt32) :
    Stores n [] (fun dst => putLE 4 dst offset value.toNat) [(offset, value)] :=
  word room (by simp) value

theorem fills {fill : List UInt8 → Option (List UInt8)} (stores : Stores n [] fill new) :
    Fills n fill := by
  intro window sized
  rcases stores window sized (by simp) with ⟨body, filled, length, -⟩
  exact ⟨body, filled, length⟩

end Stores

theorem stores_flat (type : UInt32) (flags : Nat) (handle : UInt32) :
    Stores flatObjectSize []
      (fun dst => do
        let dst ← putLE 4 dst 0 type.toNat
        let dst ← putLE 4 dst 4 flags
        putLE 4 dst 8 handle.toNat)
      [(0, type), (8, handle)] :=
  .bind (.first (by decide) type) (.bind (.number (by decide) (by simp) flags)
    (.word (by decide) (by simp) handle))

/-- The image that was just written has some words and no objects. -/
def Holding (origin : Parcel) (size : Nat) (words : List (Nat × UInt32))
    (p : Parcel) : Prop :=
  ∃ image, image.size = size ∧ image.objects = [] ∧
    (∀ word ∈ words, HasWord image.bytes word.1 word.2) ∧ Wrote origin image p

theorem writeBlock_holding
    {n : Nat} {new : List (Nat × UInt32)} (stores : Stores n [] fill new) (aligned : n % 4 = 0)
    (origin : Parcel) (size : Nat) (words : List (Nat × UInt32)) :
    Action.Triple (Holding origin size words) (writeBlock n fill)
      (fun _ => Holding origin (size + n)
        (words ++ new.map fun word => (word.1 + size, word.2))) (Tidy origin) := by
  rintro p ⟨image, sized, none, has, wrote⟩
  have written := writeBlock_wrote stores.fills (.of_objects_nil none) p wrote
  split at written
  · rcases written with ⟨window, payload, filled, length, reached⟩
    rcases stores window length (by simp) with ⟨same, again, whole, hasNew⟩
    rw [filled] at again
    cases again
    have unpadded : block payload = payload := by
      have : paddedLength n = n := by
        unfold paddedLength
        omega
      simp [block, whole, this]
    have bytes : (image ++ Image.ofBlock payload).bytes = image.bytes ++ payload :=
      congrArg (image.bytes ++ ·) unpadded
    refine ⟨_, ?_, ?_, fun word mem => ?_, reached⟩
    · rw [Image.size, bytes, length_append, whole, ← sized]
      rfl
    · simp [Image.append_objects, none, Image.ofBlock]
    · rw [bytes]
      rcases mem_append.mp mem with past | later
      · exact (has word past).append_right payload
      · rcases mem_map.mp later with ⟨own, isNew, rfl⟩
        rw [← sized]
        exact (hasNew own isNew).append_left image.bytes
  · exact written
  · cases written

theorem position_holding (fits : origin.Bounded) :
    Action.Triple (origin = ·) position
      (fun start p => start = origin.pos ∧ Holding origin 0 [] p) (Tidy origin) := by
  rintro _ rfl
  exact ⟨rfl, .empty, rfl, rfl, by simp, .refl fits⟩

variable {words : List (Nat × UInt32)}

/-- The words that were just written are those of an object. -/
theorem record_holding
    {ref : Int → ParcelObjectRef} {size : Nat} {start : Int} (atCursor : start = origin.pos)
    (moves : ref start = (ref 0).shift start)
    (atStart : (ref 0).offset = 0) (sized : (ref 0).length = size)
    (form : words ∈ flatWords (ref 0)) (inside : ∀ word ∈ words, word.1 + 4 ≤ size) :
    Action.Triple (Holding origin size words)
      (modify fun p => { p with objects := p.objects ++ [ref start] } : ParcelM Unit)
      (fun _ => Tidy origin) (Tidy origin) := by
  rintro p ⟨image, length, none, has, wrote⟩
  have lies : Lies image.bytes (ref 0) := by
    refine ⟨?_, words, form, fun word mem => ?_⟩
    · rw [atStart, sized, ← length]
      simp [Image.size]
    · have := inside word mem
      rw [atStart, zero_add, sized]
      exact ⟨by omega, has word mem⟩
  have nonempty : 0 < image.size := by
    have := lies.offset_bounds
    unfold Image.size
    omega
  refine ⟨image.tag (ref 0) atStart nonempty, ?_, ?_⟩
  · refine ⟨wrote.begun, ⟨wrote.bounded.nonneg, wrote.bounded.inside, wrote.bounded.held⟩,
      wrote.advanced, wrote.layout, ?_⟩
    change p.objects ++ [ref start] = _
    rw [wrote.objects, moves, atCursor]
    simp [Image.tag, none]
  · constructor
    · simp [Image.tag, none]
    · simpa [Image.tag, none] using lies

/-- A flat object, its stability and the entry for them. -/
theorem tidies_binder
    {handle : UInt32} {level : Int32} (stores : Stores flatObjectSize [] fill words)
    (form : words ++ [(24, level.toUInt32)] ∈ flatWords (strongBinderRef 0 handle level))
    (inside : ∀ word ∈ words, word.1 + 4 ≤ 24) :
    Tidies
      (do
        let start ← position
        (do
          writeBlock flatObjectSize fill
          writeInt32 level)
        modify fun p =>
          { p with objects := p.objects ++ [strongBinderRef start handle level] }) := by
  intro origin fits
  refine (position_holding fits).bind fun start => ?_
  rintro p ⟨atCursor, begun⟩
  have flat :
      Action.Triple (Holding origin 0 []) (writeBlock flatObjectSize fill)
        (fun _ => Holding origin 24 words) (Tidy origin) := by
    simpa [flatObjectSize] using writeBlock_holding stores rfl origin 0 []
  have label :
      Action.Triple (Holding origin 24 words) (writeInt32 level)
        (fun _ => Holding origin 28 (words ++ [(24, level.toUInt32)]))
        (Tidy origin) :=
    writeBlock_holding (.first (by decide) level.toUInt32) rfl _ _ _
  refine (flat.bind fun _ => label).bind (fun _ => ?_) p begun
  apply record_holding atCursor
  · simp [shift, strongBinderRef]
  · rfl
  · rfl
  · exact form
  · intro word mem
    rcases mem_append.mp mem with own | last
    · exact (inside word own).trans (by decide)
    · rw [mem_singleton.mp last]

theorem tidies_fileDescriptor (fd : FileDescriptor) : Tidies (writeFileDescriptor fd) := by
  intro origin fits
  have got : Action.Triple (origin = ·) (.get : ParcelM Parcel)
      (fun _ p => origin = p) (Tidy origin) :=
    fun _ same => same
  refine got.bind fun p => ?_
  split_ifs
  · exact Tidies.fail _ origin fits
  · exact Tidies.fail _ origin fits
  · refine (position_holding fits).bind fun start => ?_
    rintro p ⟨atCursor, begun⟩
    refine (writeBlock_holding (stores_flat flatTypeFD 0 (toUint32 fd.fd)) rfl _ _ _).bind
      (fun _ => ?_) p begun
    apply record_holding atCursor
    · simp [shift, fileDescriptorRef]
    · rfl
    · rfl
    · simp [flatWords, fileDescriptorRef]
    · simp [flatObjectSize]

/-! ## Runs -/

/-- A call that writes. -/
def writes : ParcelOp → Bool
  | .writeStrongBinderLocal _ _ _ => true
  | .writeStrongBinderHandle _ _ => true
  | .writeFileDescriptor _ => true
  | .writeParcelFileDescriptor _ => true
  | op => op.isPlain

variable {B : Type} (resolvers : Resolvers B) (write : Int → Except String Int)

/-- A change of the position. -/
def repositions : ParcelOp → Bool
  | .setPosition _ => true
  | _ => false

/--
A change of the position, or a write none of whose bytes, from the cursor to
where it ends, belongs to a recorded object.
-/
def Spares (p : Parcel) (op : ParcelOp) : Prop :=
  repositions op ∨ writes op ∧ ∀ reached ∈ op.step resolvers write p, Clear p p.pos reached.pos

instance Spares.decidable (p : Parcel) (op : ParcelOp) : Decidable (Spares resolvers write p op) :=
  inferInstanceAs (Decidable (_ ∨ _ ∧ _))

/-- Calls of the methods of a fresh parcel. -/
def parcels : System Parcel ParcelOp where
  init := .new
  step := ParcelOp.step resolvers write

variable {op : ParcelOp}

theorem tidies_exec (isWrite : writes op) : Tidies (op.exec resolvers write) := by
  cases op with
  | writeStrongBinderLocal ptr cookie stability =>
    refine tidies_binder (.bind (.first (by decide) _) (.bind (.number (by decide) (by simp) _)
      (.bind (.number (by decide) (by simp) _) (.number (by decide) (by simp) _)))) ?_ (by simp)
    simp [flatWords, strongBinderRef]
  | writeStrongBinderHandle handle stability =>
    refine tidies_binder (stores_flat flatTypeHandle 0 handle) ?_ (by simp)
    simp [flatWords, strongBinderRef]
  | writeFileDescriptor fd => exact tidies_fileDescriptor fd
  | writeParcelFileDescriptor fd =>
    exact (tidies_blocks (.writeInt32 0)).bind (tidies_fileDescriptor fd)
  | _ => exact tidies_blocks (ParcelOp.exec_blocks resolvers write isWrite)

variable {resolvers write}

theorem holds_after
    {before after : Parcel → Prop}
    (triple : Action.Triple before (op.exec resolvers write) (fun _ => after) after)
    (holds : before p) (ran : op.step resolvers write p = some reached) : after reached := by
  have result := triple p holds
  unfold ParcelOp.step at ran
  cases ended : op.exec resolvers write p with
  | ok value next =>
    rw [ended] at result ran
    cases ran
    exact result
  | error fault next =>
    rw [ended] at result ran
    cases fault with
    | error reason =>
      cases ran
      exact result
    | panic => cases ran

/-- One call. -/
theorem TableHolds.step
    (holds : TableHolds p) (fits : p.Bounded) (spares : Spares resolvers write p op)
    (ran : op.step resolvers write p = some reached) : TableHolds reached := by
  rcases spares with moves | ⟨isWrite, clear⟩
  · obtain ⟨pos, rfl⟩ : ∃ pos, op = .setPosition pos := by
      cases op with
      | setPosition pos => exact ⟨pos, rfl⟩
      | _ => cases moves
    have moved : Action.Triple (p = ·) (setPosition pos)
        (fun _ => TableHolds) TableHolds := by
      rintro _ rfl
      unfold setPosition
      split_ifs
      · exact holds
      · exact ⟨holds.distinct, holds.lies⟩
    exact holds_after moved rfl ran
  · have tidy := holds_after (tidies_exec resolvers write isWrite p fits) rfl ran
    exact holds.of_tidy tidy (clear reached ran)

/--
After any sequence of writes and changes of the position in which no write
meets the bytes of a recorded object, the table holds, and every offset that
the driver is given is that of an object.
-/
theorem recorded_objects_lie
    (reaches : (parcels resolvers write).Reaches (Spares resolvers write) p) :
    TableHolds p ∧
      ∀ offset ∈ (kernelWireData (some p)).2, ∃ object ∈ p.objects,
        offset.toNat = object.offset ∧ Lies p.buf object := by
  have invariant : p.Bounded ∧ TableHolds p := by
    refine @System.Reaches.invariant _ _ _ _
      (fun state => state.Bounded ∧ TableHolds state) ?_ ?_ p reaches
    · exact ⟨⟨le_refl _, le_refl _, (by decide : (0 : Int) ≤ maxInt)⟩,
        by simp [parcels, new], by simp [parcels, new]⟩
    · rintro state op next ⟨bounded, holds⟩ spares stepped
      exact ⟨holds_after (ParcelOp.exec_safe resolvers write op) bounded stepped,
        holds.step bounded spares stepped⟩
  rcases invariant with ⟨bounded, holds⟩
  refine ⟨holds, fun offset member => ?_⟩
  rcases mem_map.mp member with ⟨object, isObject, rfl⟩
  refine ⟨object, isObject, ?_, holds.lies object isObject⟩
  have := (holds.lies object isObject).offset_bounds
  have held : p.len ≤ 9223372036854775807 := bounded.held
  unfold len at held
  rw [UInt64.ofInt, UInt64.toNat_ofNat']
  omega

/-- A parcel that resolves no binder. -/
def unresolved : System Parcel ParcelOp :=
  parcels (⟨none, none, none, none⟩ : Resolvers Unit) .ok

/-- A length in front of a handle is written once the handle is there. -/
def patchedLength : List ParcelOp :=
  [.writeInt32 0, .writeStrongBinderHandle 1 0, .setPosition 0, .writeInt32 28,
    .setPosition 32, .writeStrongBinderHandle 2 0]

theorem recorded_objects_lie_patched :
    ∃ p, unresolved.run patchedLength new = some p ∧
      (kernelWireData (some p)).2 = [4, 32] ∧ TableHolds p := by
  have reaches : unresolved.Reaches
      (Spares (⟨none, none, none, none⟩ : Resolvers Unit) .ok) _ :=
    @System.Reaches.of_run _ _ _ _ _ patchedLength _ .start (by decide) rfl
  exact ⟨_, rfl, rfl, (recorded_objects_lie reaches).1⟩

/-- A parcel is rewound, and the handle is written once more. -/
theorem rewound_object_twice :
    ∃ p, unresolved.run
        [.writeStrongBinderHandle 1 0, .setPosition 0,
          .writeStrongBinderHandle 1 0] new = some p ∧
      (kernelWireData (some p)).2 = [0, 0] ∧ ¬ TableHolds p := by
  refine ⟨_, rfl, rfl, ?_⟩
  intro holds
  exact absurd holds.distinct (by decide)

end Libbinder.Kernel
