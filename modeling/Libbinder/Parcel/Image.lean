import Libbinder.Parcel.Basic

/-!
# Wire images

What a typed write contributes to a parcel is an `Image`: aligned bytes and
the binder objects inside them, at offsets relative to the image.  Two
predicates relate an operation to an image:

* `Writes op image`: at the end of a parcel, `op` appends exactly `image`, or
  fails because the parcel would become larger than Go can hold;
* `Reads owned op image value`: wherever `image` lies at the cursor, `op`
  returns `value` and steps over exactly that image.

Both compose along sequencing and image append, so the round trip of a
compound codec follows from those of its parts.
-/

namespace Libbinder

open Parcel List

open ParcelObjectRef

open Go List Action

/-- Move a table entry by a distance. -/
def ParcelObjectRef.shift
    (distance : Int) (object : ParcelObjectRef) : ParcelObjectRef :=
  { object with offset := object.offset + distance }

/-- The bytes and objects written by an operation. -/
@[ext]
structure Image where
  bytes : List UInt8
  objects : List ParcelObjectRef
  aligned : bytes.length % 4 = 0
  inside : ∀ object ∈ objects, 0 ≤ object.offset ∧ object.offset < bytes.length

namespace Image

def size (image : Image) : Nat :=
  image.bytes.length

/-- The image of an operation that writes nothing. -/
def empty : Image where
  bytes := []
  objects := []
  aligned := rfl
  inside := by simp

/-- A single padded block without objects. -/
def ofBlock (payload : List UInt8) : Image where
  bytes := Parcel.block payload
  objects := []
  aligned := by
    rw [Parcel.length_block]
    exact Parcel.paddedLength_mod payload.length
  inside := by simp

/-- One image after another. -/
def append (first second : Image) : Image where
  bytes := first.bytes ++ second.bytes
  objects := first.objects ++ second.objects.map (.shift first.bytes.length)
  aligned := by
    have := first.aligned
    have := second.aligned
    rw [length_append]
    omega
  inside := by
    intro object member
    rw [mem_append] at member
    rcases member with fromFirst | fromSecond
    · have := first.inside object fromFirst
      rw [length_append]
      omega
    · rw [mem_map] at fromSecond
      rcases fromSecond with ⟨original, member, rfl⟩
      have := second.inside original member
      simp only [ParcelObjectRef.shift, length_append]
      omega

instance : Append Image :=
  ⟨append⟩

/-- Images one after another. -/
def concat : List Image → Image
  | [] => empty
  | image :: rest => image ++ concat rest

variable (first second : Image)

theorem append_bytes : (first ++ second).bytes = first.bytes ++ second.bytes :=
  rfl

theorem append_objects :
    (first ++ second).objects = first.objects ++ second.objects.map (.shift first.bytes.length) :=
  rfl

@[simp]
theorem size_append : (first ++ second).size = first.size + second.size := by
  simp [size, append_bytes]

@[simp]
theorem size_empty : empty.size = 0 :=
  rfl

theorem size_concat_append (first second : List Image) :
    (concat (first ++ second)).size = (concat first).size + (concat second).size := by
  induction first with
  | nil => simp [concat]
  | cons image rest ih =>
    simp only [cons_append, concat, size_append, ih]
    ring

@[simp]
theorem size_ofBlock (body : List UInt8) : (ofBlock body).size = paddedLength body.length :=
  length_block body

/-- The object of the image at a relative offset. -/
def objectAt (image : Image) (offset : Int) : Option ParcelObjectRef :=
  image.objects.find? fun object => object.offset = offset

theorem find_shift (objects : List ParcelObjectRef) (distance offset : Int) :
    (objects.map (shift distance)).find?
        (fun object => object.offset = offset + distance) =
      (objects.find? fun object => object.offset = offset).map (shift distance) := by
  rw [find?_map]
  congr 2
  funext object
  simp [shift]

variable {object : ParcelObjectRef} {offset : Int}

theorem offset_nonneg_of_objectAt {image : Image} (found : image.objectAt offset = some object) :
    0 ≤ offset := by
  have mem : object ∈ image.objects := mem_of_find?_eq_some found
  have equal := find?_some found
  rw [decide_eq_true_eq] at equal
  rw [← equal]
  exact (image.inside object mem).1

/-- The objects of the second image are found behind the first. -/
theorem objectAt_append_right
    {second : Image} (found : second.objectAt offset = some object) (first : Image) :
    (first ++ second).objectAt (offset + first.size) = some (object.shift first.size) := by
  have nonneg := offset_nonneg_of_objectAt found
  have noEarlier : first.objects.find? (fun past => past.offset = offset + first.size) = none := by
    rw [find?_eq_none]
    intro past mem
    have := first.inside past mem
    rw [decide_eq_true_eq]
    unfold size
    omega
  have shifted := find_shift second.objects first.size offset
  unfold objectAt at found ⊢
  rw [found] at shifted
  rwa [append_objects, find?_append, noEarlier, Option.none_or]

/-- Register an object that starts where the image starts. -/
def tag
    (image : Image) (object : ParcelObjectRef)
    (atStart : object.offset = 0) (nonempty : 0 < image.size) : Image where
  bytes := image.bytes
  objects := image.objects ++ [object]
  aligned := image.aligned
  inside := by
    intro other member
    rw [mem_append, mem_singleton] at member
    rcases member with earlier | rfl
    · exact image.inside other earlier
    · unfold size at nonempty
      omega

end Image

open Image

namespace Parcel

/-! ## Writing images -/

/-- The parcel after an image was appended to it. -/
def push (p : Parcel) (image : Image) : Parcel :=
  { p with
    buf := p.buf ++ image.bytes
    pos := p.pos + image.size
    objects := p.objects ++ image.objects.map (.shift p.len) }

/-- A parcel being written: the cursor is at its end. -/
structure Open (p : Parcel) : Prop where
  atEnd : p.pos = p.len
  held : p.len ≤ maxInt
  descriptors : p.allowFDs

variable (p : Parcel)

theorem len_nonneg : 0 ≤ p.len := by
  simp [len]

theorem Open.bounded {p : Parcel} (opened : p.Open) : p.Bounded :=
  ⟨opened.atEnd ▸ p.len_nonneg, opened.atEnd.le, opened.held⟩

@[simp]
theorem len_push (image : Image) : (p.push image).len = p.len + image.size := by
  simp [len, push, size]

theorem push_empty : p.push .empty = p := by
  simp [push, empty, size]

theorem push_append (first second : Image) :
    p.push (first ++ second) = (p.push first).push second := by
  have shifts : shift p.len ∘ shift first.bytes.length = shift (p.push first).len := by
    funext object
    simp only [Function.comp, shift, len_push, size]
    congr 1
    ring
  simp only [push] at shifts ⊢
  simp only [append_bytes, append_objects, size_append,
    map_append, map_map, shifts, append_assoc]
  congr 1
  push_cast
  ring

theorem Open.push
    {p : Parcel} {image : Image} (opened : p.Open) (fits : p.len + image.size ≤ maxInt) :
    (p.push image).Open := by
  refine ⟨?_, ?_, opened.descriptors⟩
  · rw [len_push, ← opened.atEnd]
    rfl
  · rwa [len_push]

end Parcel

/-- At the end of a parcel the operation appends the image or overflows. -/
structure Writes (op : ParcelM Unit) (image : Image) : Prop where
  pushes : ∀ p : Parcel, p.Open → p.len + image.size ≤ maxInt → op p = .ok () (p.push image)
  overflows : ∀ p : Parcel, p.Open → maxInt < p.len + image.size →
      ∃ reached, op p = .error (.error Parcel.sizeOverflow) reached

namespace Writes

theorem done : Writes (pure ()) .empty where
  pushes := by
    intro p _ _
    rw [push_empty]
    rfl
  overflows := by
    intro p opened large
    have := opened.held
    simp at large
    omega

/-- Only the behaviour at the end of a parcel matters. -/
theorem congr
    {op other : ParcelM Unit} {image : Image} (same : ∀ p : Parcel, p.Open → op p = other p)
    (writes : Writes other image) : Writes op image where
  pushes := by
    intro p opened fits
    rw [same p opened]
    exact writes.pushes p opened fits
  overflows := by
    intro p opened large
    rw [same p opened]
    exact writes.overflows p opened large

theorem seq
    {first second : ParcelM Unit} {firstImage secondImage : Image}
    (firstWrites : Writes first firstImage) (secondWrites : Writes second secondImage) :
    Writes (first >>= fun _ => second) (firstImage ++ secondImage) where
  pushes := by
    intro p opened fits
    simp only [size_append, Nat.cast_add] at fits
    have firstFits : p.len + firstImage.size ≤ maxInt := by
      omega
    rw [bind_ok (firstWrites.pushes p opened firstFits), push_append]
    apply secondWrites.pushes _ (opened.push firstFits)
    rw [len_push]
    omega
  overflows := by
    intro p opened large
    simp only [size_append, Nat.cast_add] at large
    by_cases firstFits : p.len + firstImage.size ≤ maxInt
    · rw [bind_ok (firstWrites.pushes p opened firstFits)]
      apply secondWrites.overflows _ (opened.push firstFits)
      rw [len_push]
      omega
    · rcases firstWrites.overflows p opened (by omega) with ⟨reached, overflow⟩
      exact ⟨reached, bind_error overflow⟩

theorem forM
    {α : Type} {write : α → ParcelM Unit} {image : α → Image} (values : List α)
    (writes : ∀ value ∈ values, Writes (write value) (image value)) :
    Writes (values.forM write) (.concat (values.map image)) := by
  induction values with
  | nil => exact done
  | cons value rest ih =>
    exact seq (writes value (by simp))
      (ih fun other mem =>
        writes other (by simp [mem]))

theorem ofBlock
    {body : List UInt8} {fill : List UInt8 → Option (List UInt8)}
    (fills : fill (.replicate body.length 0) = some body) :
    Writes (writeBlock body.length fill) (.ofBlock body) where
  pushes := by
    intro p opened fits
    rw [Image.size_ofBlock, ← opened.atEnd] at fits
    have atEnd : p.pos.toNat = p.buf.length := by
      rw [opened.atEnd]
      rfl
    have fresh : p.window body.length = .replicate body.length 0 := by
      simp [window, atEnd]
    rw [writeBlock_inside opened.bounded fits (by rw [fresh, fills])]
    simp [push, Image.ofBlock, Image.size, atEnd]
  overflows := by
    intro p opened large
    rw [Image.size_ofBlock, ← opened.atEnd] at large
    exact ⟨p, writeBlock_overflow opened.bounded large⟩

/-- A write that registers an object where it started. -/
theorem tagged
    {body : ParcelM Unit} {image : Image} (writes : Writes body image) (object : ParcelObjectRef)
    (atStart : object.offset = 0) (nonempty : 0 < image.size) :
    Writes
      (do
        let start ← position
        body
        modify fun p =>
          { p with objects := p.objects ++ [{ object with offset := start }] })
      (image.tag object atStart nonempty) where
  pushes := by
    intro p opened fits
    have begun : position p = .ok p.pos p := rfl
    have placed : ({ object with offset := p.pos } : ParcelObjectRef) = object.shift p.len := by
      simp only [shift, atStart, zero_add, opened.atEnd]
    rw [bind_ok begun, bind_ok (writes.pushes p opened fits), modify_run, placed]
    simp [push, Image.tag, Image.size]
  overflows := by
    intro p opened large
    have begun : position p = .ok p.pos p := rfl
    rcases writes.overflows p opened large with ⟨reached, overflow⟩
    refine ⟨reached, ?_⟩
    rw [bind_ok begun, bind_error overflow]

end Writes

/-! ## Reading images -/

namespace Parcel

/-- The parcel with its cursor moved forward. -/
def advance (p : Parcel) (distance : Nat) : Parcel :=
  { p with pos := p.pos + distance }

/-- The image lies at the cursor, together with its objects. -/
structure Window (p : Parcel) (image : Image) : Prop where
  layout : ∃ before after, p.buf = before ++ image.bytes ++ after ∧ p.pos = before.length
  held : p.len ≤ maxInt
  objects : ∀ (offset : Int) (object : ParcelObjectRef),
      image.objectAt offset = some object → p.objectAt (offset + p.pos) = some (object.shift p.pos)

theorem advance_zero (p : Parcel) : p.advance 0 = p := by
  simp [advance]

theorem advance_advance (p : Parcel) (first second : Nat) :
    (p.advance first).advance second = p.advance (first + second) := by
  simp only [advance]
  congr 1
  push_cast
  ring

namespace Window

variable {p : Parcel} {first second : Image}

theorem left (window : p.Window (first ++ second)) : p.Window first where
  layout := by
    rcases window.layout with ⟨before, after, layout, cursor⟩
    refine ⟨before, second.bytes ++ after, ?_, cursor⟩
    rw [layout, Image.append_bytes]
    simp only [append_assoc]
  held := window.held
  objects := by
    intro offset object found
    refine window.objects offset object ?_
    unfold Image.objectAt at found ⊢
    rw [Image.append_objects, find?_append, found, Option.some_or]

theorem right (window : p.Window (first ++ second)) : (p.advance first.size).Window second where
  layout := by
    rcases window.layout with ⟨before, after, layout, cursor⟩
    refine ⟨before ++ first.bytes, after, ?_, ?_⟩
    · change p.buf = _
      rw [layout, append_bytes]
      simp only [append_assoc]
    · simp [advance, cursor, size]
  held := window.held
  objects := by
    intro offset object found
    have behind :=
      window.objects (offset + first.size) (object.shift first.size)
        (objectAt_append_right found first)
    have cursor : offset + (p.advance first.size).pos = offset + first.size + p.pos := by
      simp only [advance]
      ring
    have shifts :
        object.shift (p.advance first.size).pos = (object.shift first.size).shift p.pos := by
      simp only [shift, advance]
      congr 1
      ring
    rwa [cursor, shifts]

variable {image : Image}

/-- A parcel with an image at its cursor is bounded. -/
theorem bounded (window : p.Window image) : p.Bounded := by
  rcases window.layout with ⟨before, after, layout, cursor⟩
  refine ⟨by omega, ?_, window.held⟩
  rw [cursor, len, layout]
  simp only [length_append]
  omega

variable {object : ParcelObjectRef} {atStart : object.offset = 0} {nonempty : 0 < image.size}

/-- The bytes of a registered object, without its registration. -/
theorem untag (window : p.Window (image.tag object atStart nonempty)) : p.Window image :=
  { window with
    objects := by
      intro offset other found
      apply window.objects offset other
      unfold Image.objectAt at found ⊢
      rw [Image.tag, find?_append, found, Option.some_or] }

/-- The registration of an object over plain blocks is found at the cursor. -/
theorem tagged
    (plain : image.objects = []) (window : p.Window (image.tag object atStart nonempty)) :
    p.objectAt p.pos = some (object.shift p.pos) := by
  have found := window.objects 0 object
  rw [zero_add] at found
  apply found
  simp [Image.objectAt, Image.tag, plain, atStart]

end Window

/--
After an image was appended to a parcel whose objects all lie inside it,
moving the cursor back shows the image.
-/
theorem window_of_push
    {p : Parcel} {image : Image} (fits : p.len + image.size ≤ maxInt)
    (inside : ∀ object ∈ p.objects, object.offset < p.len) :
    ({ p.push image with pos := p.len } : Parcel).Window image where
  layout := ⟨p.buf, [], by simp [push], rfl⟩
  held := by
    change (p.push image).len ≤ maxInt
    rwa [len_push]
  objects := by
    intro offset object found
    have nonneg := Image.offset_nonneg_of_objectAt found
    have noEarlier : p.objects.find? (fun past => past.offset = offset + p.len) = none := by
      rw [find?_eq_none]
      intro past mem
      have := inside past mem
      rw [decide_eq_true_eq]
      omega
    have shifted := Image.find_shift image.objects p.len offset
    unfold Image.objectAt at found
    rw [found] at shifted
    simp only [objectAt, push, find?_append, noEarlier, Option.none_or]
    exact shifted

/-- The bytes lie at the cursor, and their padding behind them, whatever it is. -/
def Stores (p : Parcel) (bytes : List UInt8) : Prop :=
  p.pos + paddedLength bytes.length ≤ p.len ∧ (p.buf.drop p.pos.toNat).take bytes.length = bytes

/-- A block read returns what is stored at the cursor, and steps over it. -/
theorem readBlock_ok_iff {p reached : Parcel} {body : List UInt8} {n : Nat} (fits : p.Bounded) :
    readBlock n p = .ok body reached ↔
      body.length = n ∧ p.Stores body ∧ reached = p.advance (paddedLength n) := by
  constructor
  · intro ran
    rcases readBlock_spec fits n with ⟨_, failed⟩ | ⟨_, _, succeeded, read⟩
    · rw [failed] at ran
      cases ran
    · rw [succeeded] at ran
      cases ran
      have sized := Int.ofNat_inj.mp read.sized
      have inside : p.pos + paddedLength n ≤ p.len := read.inside
      rw [readBlock_inside fits inside] at succeeded
      cases succeeded
      refine ⟨sized, ⟨?_, ?_⟩, rfl⟩
      · rwa [sized]
      · rw [sized]
  · rintro ⟨rfl, ⟨inside, stored⟩, rfl⟩
    rw [readBlock_inside fits inside, stored]
    rfl

theorem Window.stores {p : Parcel} {payload : List UInt8} (window : p.Window (.ofBlock payload)) :
    p.Stores payload := by
  rcases window.layout with ⟨before, after, layout, cursor⟩
  simp only [Stores, len, layout, cursor, ofBlock, length_append, length_block]
  refine ⟨by omega, ?_⟩
  simp [block]

end Parcel

/--
Wherever the image lies at the cursor of a parcel whose descriptors are
`owned` or not, the operation returns the value and steps over the image.
-/
def Reads {α : Type}
    (owned : Bool) (op : ParcelM α) (image : Image) (value : α) : Prop :=
  ∀ p : Parcel, p.wireFDsOwned = owned → p.Window image → op p = .ok value (p.advance image.size)

namespace Reads

variable {α β : Type} {owned : Bool}

theorem done (value : α) : Reads owned (pure value) .empty value := by
  intro p _ _
  rw [size_empty, advance_zero]
  rfl

variable {next : α → ParcelM β}

theorem seq
    {first : ParcelM α} {firstImage secondImage : Image} {value : α}
    {result : β} (firstReads : Reads owned first firstImage value)
    (nextReads : Reads owned (next value) secondImage result) :
    Reads owned (first >>= next) (firstImage ++ secondImage) result := by
  intro p owner window
  rw [bind_ok (firstReads p owner window.left),
    nextReads (p.advance firstImage.size) owner window.right, size_append, advance_advance]

/-- A computation after a read that does not touch the parcel. -/
theorem map
    {first : ParcelM α} {image : Image} {value : α} {result : β}
    (firstReads : Reads owned first image value) (computes : ∀ p, next value p = .ok result p) :
    Reads owned (first >>= next) image result := by
  intro p owner window
  rw [bind_ok (firstReads p owner window), computes]

theorem ofBlock (payload : List UInt8) :
    Reads owned (readBlock payload.length) (.ofBlock payload) payload := by
  intro p _ window
  rw [(readBlock_ok_iff window.bounded).mpr ⟨rfl, window.stores, rfl⟩, Image.size_ofBlock]

end Reads

end Libbinder
