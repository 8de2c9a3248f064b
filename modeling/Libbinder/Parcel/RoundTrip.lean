import Libbinder.Parcel.Slices

/-!
# Parcel round trips

`ItemType` lists the typed accessors of a parcel, closed under slices and
fixed slices.  Each type has the values its writer takes, the results its
reader returns and the result expected for each value.  A list of typed values
written to a fresh parcel is read back unchanged.
-/

namespace Libbinder

open Go

/-- A binder that can be written to a parcel. -/
inductive WireBinder where
  | null
  | remote (handle : UInt32) (stability : Int32)
  | resident (ptr cookie : UInt64) (stability : Int32) (present : ptr ≠ 0 ∨ cookie ≠ 0)

/-- The typed accessors of a parcel. -/
inductive ItemType where
  | int32
  | uint32
  | int64
  | uint64
  | bool
  | byte
  | char
  | float32
  | float64
  | string
  | nullableString
  | string8
  | nullableString8
  | bytes
  | rawBytes (n : Nat)
  | interfaceToken
  | strongBinderHandle
  | strongBinder
  | fileDescriptor
  | parcelFileDescriptor
  | slice (elem : ItemType)
  | fixedSlice (size : Nat) (elem : ItemType)

namespace ItemType

/-- The values a writer takes: valid strings, lengths of 31 bits. -/
def Value : ItemType → Type
  | int32 => Int32
  | uint32 => UInt32
  | int64 => Int64
  | uint64 => UInt64
  | bool => Bool
  | byte => Int8
  | char => UInt16
  | float32 => UInt32
  | float64 => UInt64
  | string => { v : GoString // StringFits v }
  | nullableString => Option { v : GoString // StringFits v }
  | string8 => { v : GoString // String8Fits v }
  | nullableString8 => Option { v : GoString // String8Fits v }
  | bytes => Option { b : List UInt8 // (b.length : Int) ≤ maxInt32 }
  | rawBytes n => { b : Option (List UInt8) // (b.getD []).length = n }
  | interfaceToken => { v : GoString // StringFits v }
  | strongBinderHandle => Option (UInt32 × Int32)
  | strongBinder => WireBinder
  | fileDescriptor => { fd : FileDescriptor // 0 ≤ fd.fd }
  | parcelFileDescriptor => { fd : FileDescriptor // 0 ≤ fd.fd }
  | slice elem => Option { vs : List elem.Value // (vs.length : Int) ≤ maxInt32 }
  | fixedSlice size elem =>
    { vs : List elem.Value // vs.length = size ∧ (vs.length : Int) ≤ maxInt32 }

/-- The results a reader returns; binders are what the resolvers return. -/
def Result (B : Type) : ItemType → Type
  | int32 => Int32
  | uint32 => UInt32
  | int64 => Int64
  | uint64 => UInt64
  | bool => Bool
  | byte => Int8
  | char => UInt16
  | float32 => UInt32
  | float64 => UInt64
  | string => GoString
  | nullableString => Option GoString
  | string8 => GoString
  | nullableString8 => Option GoString
  | bytes => Option (List UInt8)
  | rawBytes _ => List UInt8
  | interfaceToken => GoString
  | strongBinderHandle => Option UInt32
  | strongBinder => Option B
  | fileDescriptor => FileDescriptor
  | parcelFileDescriptor => FileDescriptor
  | slice elem => Option (List (elem.Result B))
  | fixedSlice _ elem => List (elem.Result B)

/-- The writer of a type. -/
def write : (t : ItemType) → t.Value → ParcelM Unit
  | int32, v => Parcel.writeInt32 v
  | uint32, v => Parcel.writeUint32 v
  | int64, v => Parcel.writeInt64 v
  | uint64, v => Parcel.writeUint64 v
  | bool, v => Parcel.writeBool v
  | byte, v => Parcel.writeByte v
  | char, v => Parcel.writeChar v
  | float32, v => Parcel.writeFloat32 v
  | float64, v => Parcel.writeFloat64 v
  | string, v => Parcel.writeString v.val
  | nullableString, v => Parcel.writeNullableString (v.map Subtype.val)
  | string8, v => Parcel.writeString8 v.val
  | nullableString8, v => Parcel.writeNullableString8 (v.map Subtype.val)
  | bytes, v => Parcel.writeBytes (v.map Subtype.val)
  | rawBytes _, v => Parcel.writeRawBytes v.val
  | interfaceToken, v => Parcel.writeInterfaceToken v.val
  | strongBinderHandle, none => Parcel.writeNullStrongBinder
  | strongBinderHandle, some (handle, stability) =>
    Parcel.writeStrongBinderHandleWithStability handle stability
  | strongBinder, .null => Parcel.writeNullStrongBinder
  | strongBinder, .remote handle stability =>
    Parcel.writeStrongBinderHandleWithStability handle stability
  | strongBinder, .resident ptr cookie stability _ =>
    Parcel.writeStrongBinderLocalWithStability ptr cookie stability
  | fileDescriptor, fd => Parcel.writeFileDescriptor fd.val
  | parcelFileDescriptor, fd => Parcel.writeParcelFileDescriptor fd.val
  | slice elem, vs => writeSlice (vs.map Subtype.val) elem.write
  | fixedSlice size elem, vs => writeFixedSlice (some vs.val) size elem.write

section

variable {B : Type} (resolvers : Resolvers B)
  (ack : Int → Except String Int)

/-- The reader of a type. -/
def read : (t : ItemType) → ParcelM (t.Result B)
  | int32 => Parcel.readInt32
  | uint32 => Parcel.readUint32
  | int64 => Parcel.readInt64
  | uint64 => Parcel.readUint64
  | bool => Parcel.readBool
  | byte => Parcel.readByte
  | char => Parcel.readChar
  | float32 => Parcel.readFloat32
  | float64 => Parcel.readFloat64
  | string => Parcel.readString
  | nullableString => Parcel.readNullableString
  | string8 => Parcel.readString8
  | nullableString8 => Parcel.readNullableString8
  | bytes => Parcel.readBytes
  | rawBytes n => Parcel.readRawBytes n
  | interfaceToken => Parcel.readInterfaceToken
  | strongBinderHandle => Parcel.readStrongBinderHandle
  | strongBinder => Parcel.readStrongBinder resolvers
  | fileDescriptor => Parcel.readFileDescriptor
  | parcelFileDescriptor => Parcel.readParcelFileDescriptor ack
  | slice elem => readSlice elem.read
  | fixedSlice size elem => readFixedSlice size elem.read

end

section

variable {B : Type}
  (remote : UInt32 → Int32 → Option B) (resident : UInt64 → Int32 → Option B)

/--
The result that stands for a written value.  Descriptors are borrowed again;
a nil raw payload is an empty one; binders are what the resolvers make of
their handle or cookie.
-/
def expected : (t : ItemType) → t.Value → t.Result B
  | int32, v => v
  | uint32, v => v
  | int64, v => v
  | uint64, v => v
  | bool, v => v
  | byte, v => v
  | char, v => v
  | float32, v => v
  | float64, v => v
  | string, v => v.val
  | nullableString, v => v.map Subtype.val
  | string8, v => v.val
  | nullableString8, v => v.map Subtype.val
  | bytes, v => v.map Subtype.val
  | rawBytes _, v => v.val.getD []
  | interfaceToken, v => v.val
  | strongBinderHandle, v => v.map Prod.fst
  | strongBinder, .null => none
  | strongBinder, .remote handle stability => remote handle stability
  | strongBinder, .resident _ cookie stability _ => resident cookie stability
  | fileDescriptor, fd => { fd := fd.val.fd, owned := false }
  | parcelFileDescriptor, fd => { fd := fd.val.fd, owned := false }
  | slice elem, vs => vs.map fun values => values.val.map elem.expected
  | fixedSlice _ elem, vs => vs.val.map elem.expected

end

/-- The wire image of a value. -/
def image : (t : ItemType) → t.Value → Image
  | int32, v => Image.int32 v
  | uint32, v => Image.uint32 v
  | int64, v => Image.int64 v
  | uint64, v => Image.uint64 v
  | bool, v => Image.bool v
  | byte, v => Image.byte v
  | char, v => Image.char v
  | float32, v => Image.uint32 v
  | float64, v => Image.uint64 v
  | string, v => Image.nullableString (some v.val)
  | nullableString, v => Image.nullableString (v.map Subtype.val)
  | string8, v => Image.nullableString8 (some v.val)
  | nullableString8, v => Image.nullableString8 (v.map Subtype.val)
  | bytes, v => Image.byteSlice (v.map Subtype.val)
  | rawBytes _, v => Image.ofBlock (v.val.getD [])
  | interfaceToken, v => Image.interfaceToken v.val
  | strongBinderHandle, none => Image.nullStrongBinder
  | strongBinderHandle, some (handle, stability) => Image.strongBinderHandle handle stability
  | strongBinder, .null => Image.nullStrongBinder
  | strongBinder, .remote handle stability => Image.strongBinderHandle handle stability
  | strongBinder, .resident ptr cookie stability _ => Image.strongBinderLocal ptr cookie stability
  | fileDescriptor, fd => Image.fileDescriptor (toUint32 fd.val.fd)
  | parcelFileDescriptor, fd => Image.int32 0 ++ Image.fileDescriptor (toUint32 fd.val.fd)
  | slice elem, vs => Image.slice elem.image (vs.map Subtype.val)
  | fixedSlice _ elem, vs => Image.slice elem.image (some vs.val)

/-- Every file descriptor inside a value is below `2 ^ 31`. -/
def DescriptorsFit : (t : ItemType) → t.Value → Prop
  | fileDescriptor, fd => fd.val.fd < 2147483648
  | parcelFileDescriptor, fd => fd.val.fd < 2147483648
  | slice elem, vs => ∀ values, vs = some values → ∀ v ∈ values.val, elem.DescriptorsFit v
  | fixedSlice _ elem, vs => ∀ v ∈ vs.val, elem.DescriptorsFit v
  | _, _ => True

/-! ## One item -/

theorem fits_of_map {α : Type} {P : α → Prop} {v : Option { s : α // P s }} :
    ∀ s, v.map Subtype.val = some s → P s := by
  intro s equal
  rw [Option.map_eq_some_iff] at equal
  rcases equal with ⟨witness, _, rfl⟩
  exact witness.property

theorem writes (t : ItemType) (v : t.Value) : Writes (t.write v) (t.image v) := by
  induction t with
  | int32 => exact .int32 v
  | uint32 => exact .uint32 v
  | int64 => exact .int64 v
  | uint64 => exact .uint64 v
  | bool => exact .bool v
  | byte => exact .byte v
  | char => exact .char v
  | float32 => exact .float32 v
  | float64 => exact .float64 v
  | string => exact .string v.property
  | nullableString => exact .nullableString fits_of_map
  | string8 => exact .string8 v.property
  | nullableString8 => exact .nullableString8 fits_of_map
  | bytes => exact .byteSlice fits_of_map
  | rawBytes n => exact .rawBytes v.val
  | interfaceToken => exact .interfaceToken v.property
  | strongBinderHandle =>
    cases v with
    | none => exact .nullStrongBinder
    | some object => exact .strongBinderHandle object.1 object.2
  | strongBinder =>
    cases v with
    | null => exact .nullStrongBinder
    | remote handle stability => exact .strongBinderHandle handle stability
    | resident ptr cookie stability present => exact .strongBinderLocal ptr cookie stability
  | fileDescriptor => exact .fileDescriptor v.property
  | parcelFileDescriptor => exact .parcelFileDescriptor v.property
  | slice elem ih =>
    apply Writes.slice fits_of_map
    intro values _ mem _
    exact ih mem
  | fixedSlice size elem ih =>
    rcases v with ⟨values, rfl, short⟩
    apply Writes.fixedSlice short
    intro mem _
    exact ih mem

variable {B : Type} {resolvers : Resolvers B}
  {remote : UInt32 → Int32 → Option B} {resident : UInt64 → Int32 → Option B}

theorem reads
    (resolves : Resolves resolvers remote resident) (ack : Int → Except String Int) (t : ItemType)
    (v : t.Value) (fit : t.DescriptorsFit v) :
    Reads false (t.read resolvers ack) (t.image v) (t.expected remote resident v) := by
  induction t with
  | int32 => exact .int32 v
  | uint32 => exact .uint32 v
  | int64 => exact .int64 v
  | uint64 => exact .uint64 v
  | bool => exact .bool v
  | byte => exact .byte v
  | char => exact .char v
  | float32 => exact .float32 v
  | float64 => exact .float64 v
  | string => exact .string v.property
  | nullableString => exact .nullableString fits_of_map
  | string8 => exact .string8 v.property
  | nullableString8 => exact .nullableString8 fits_of_map
  | bytes => exact .byteSlice fits_of_map
  | rawBytes n =>
    rcases v with ⟨b, rfl⟩
    exact .rawBytes (b.getD [])
  | interfaceToken => exact .interfaceToken v.property
  | strongBinderHandle =>
    cases v with
    | none => exact .nullStrongBinderHandle
    | some object => exact .strongBinderHandle object.1 object.2
  | strongBinder =>
    cases v with
    | null => exact .nullStrongBinder resolvers
    | remote handle stability => exact .strongBinderRemote resolves handle stability
    | resident ptr cookie stability present =>
      exact .strongBinderLocal resolves present stability
  | fileDescriptor =>
    have number := toInt_toUint32 v.property fit
    have read := @Reads.fileDescriptor false (toUint32 v.val.fd)
    rwa [number] at read
  | parcelFileDescriptor =>
    have number := toInt_toUint32 v.property fit
    have read := @Reads.parcelFileDescriptor false ack (toUint32 v.val.fd)
    rwa [number] at read
  | slice elem ih =>
    cases v with
    | none => exact @Reads.slice _ _ _ _ _ (elem.expected remote resident) none nofun nofun
    | some stored =>
      apply Reads.slice fits_of_map
      rintro values ⟨⟩ mem membership
      exact ih mem (fit stored rfl mem membership)
  | fixedSlice size elem ih =>
    rcases v with ⟨values, rfl, short⟩
    apply Reads.fixedSlice short
    intro mem membership
    exact ih mem (fit mem membership)

end ItemType

/-! ## Sequences of items -/

/-- A typed value. -/
structure Item where
  type : ItemType
  value : type.Value

namespace Item

/-- Write typed values in order. -/
def writeAll (items : List Item) : ParcelM Unit :=
  items.forM fun item => item.type.write item.value

/-- The image of typed values in order. -/
def imageAll (items : List Item) : Image :=
  Image.concat (items.map fun item => item.type.image item.value)

section

variable {B : Type} (resolvers : Resolvers B)
  (ack : Int → Except String Int)

/-- Read values of the given types in order. -/
def readAll : List ItemType → ParcelM (List (Σ t : ItemType, t.Result B))
  | [] => return []
  | t :: rest => do
    let v ← t.read resolvers ack
    let later ← readAll rest
    return ⟨t, v⟩ :: later

end

theorem writeAll_writes (items : List Item) : Writes (writeAll items) (imageAll items) :=
  .forM items fun item _ => item.type.writes item.value

variable {B : Type} {resolvers : Resolvers B}
  {remote : UInt32 → Int32 → Option B} {resident : UInt64 → Int32 → Option B}

/-- The results that stand for written items. -/
def expectedAll
    (remote : UInt32 → Int32 → Option B)
    (resident : UInt64 → Int32 → Option B)
    (items : List Item) : List (Σ t : ItemType, t.Result B) :=
  items.map fun item =>
    ⟨item.type, item.type.expected remote resident item.value⟩

theorem readAll_reads
    (resolves : Resolves resolvers remote resident) (ack : Int → Except String Int)
    (items : List Item) (fit : ∀ item ∈ items, item.type.DescriptorsFit item.value) :
    Reads false (readAll resolvers ack (items.map type))
      (imageAll items) (expectedAll remote resident items) := by
  induction items with
  | nil => exact .done []
  | cons item rest ih =>
    apply Reads.seq (item.type.reads resolves ack item.value (fit item (by simp)))
    apply Reads.map
      (ih fun other mem =>
        fit other (by simp [mem]))
    intro p
    rfl

end Item

open Item

namespace Parcel

theorem new_open : new.Open :=
  ⟨rfl, by decide, rfl⟩

/-- An image pushed onto a fresh parcel leaves an aligned length. -/
theorem len_push_new_mod (image : Image) : (new.push image).len % 4 = 0 := by
  have aligned := image.aligned
  rw [len_push]
  change (0 + (image.bytes.length : Int)) % 4 = 0
  omega

/-- Rewinding a parcel that holds exactly one image, and reading it. -/
theorem rewind_reads
    {α : Type} {op : ParcelM α} {image : Image} {value : α}
    (held : (image.size : Int) ≤ maxInt) (reads : Reads false op image value) :
    ∃ q,
      (do
        setPosition 0
        op) (new.push image) = .ok value q ∧ q.remaining = 0 := by
  have total : (new.push image).len = image.size := by
    rw [len_push]
    exact zero_add _
  have rewound :
      setPosition 0 (new.push image) = .ok () { new.push image with pos := new.len } := by
    unfold setPosition
    rw [if_neg (by omega)]
    rfl
  have window : ({ new.push image with pos := new.len } : Parcel).Window image :=
    window_of_push (by change 0 + (image.size : Int) ≤ maxInt; omega)
      (by intro object mem; cases mem)
  refine ⟨_, (Action.bind_ok rewound).trans (reads _ rfl window), ?_⟩
  have ended : (0 : Int) + image.size ≥ (new.push image).len := by
    omega
  exact if_pos ended

end Parcel

/--
Typed values written to a fresh parcel and read back with the matching readers
after rewinding: the readers return the written values and consume the whole
parcel, and the length is a multiple of four after every write.  The only
way a write fails is that the payload outgrows an `int`, and then it says so.
-/
theorem parcel_round_trip
    {B : Type} {resolvers : Resolvers B} {remote : UInt32 → Int32 → Option B}
    {resident : UInt64 → Int32 → Option B} (resolves : Resolves resolvers remote resident)
    (ack : Int → Except String Int) (items : List Item)
    (fit : ∀ item ∈ items, item.type.DescriptorsFit item.value) :
    (((imageAll items).size : Int) ≤ maxInt →
      ∃ p q : Parcel,
        writeAll items Parcel.new = .ok () p ∧
          (do
            Parcel.setPosition 0
            readAll resolvers ack (items.map type)) p =
            .ok (expectedAll remote resident items) q ∧
          q.remaining = 0 ∧
          ∀ k, ∃ written : Parcel,
            writeAll (items.take k) Parcel.new = .ok () written ∧ written.len % 4 = 0) ∧
    (maxInt < ((imageAll items).size : Int) →
      ∃ p, writeAll items Parcel.new = .error (.error Parcel.sizeOverflow) p) := by
  have freshLength (size : Nat) : Parcel.new.len + size = size := zero_add _
  constructor
  · intro held
    have written :=
      (writeAll_writes items).pushes Parcel.new Parcel.new_open
        (by rw [freshLength]; exact held)
    rcases Parcel.rewind_reads held (readAll_reads resolves ack items fit) with
      ⟨q, read, consumed⟩
    refine ⟨_, q, written, read, consumed, ?_⟩
    intro k
    have split :
        (imageAll items).size =
          (imageAll (items.take k)).size + (imageAll (items.drop k)).size := by
      unfold imageAll
      rw [← Image.size_concat_append, ← List.map_append, List.take_append_drop]
    have prefixWritten :=
      (writeAll_writes (items.take k)).pushes Parcel.new
        Parcel.new_open (by rw [freshLength]; omega)
    exact ⟨_, prefixWritten, Parcel.len_push_new_mod _⟩
  · intro tooLarge
    exact (writeAll_writes items).overflows Parcel.new Parcel.new_open
      (by rw [freshLength]; exact tooLarge)

/-- Resolvers that return the identity of the binder they were asked for. -/
def identityResolvers : Resolvers (UInt64 × Int32) where
  binderResolver := none
  localBinderResolve := none
  binderObjectResolve := some fun object => some (object.handle.toUInt64, object.stability)
  localBinderObjectResolve := some fun object cookie => some (cookie, object.stability)

theorem identityResolvers_resolves :
    Resolves identityResolvers
      (fun handle level => some (handle.toUInt64, level))
      (fun cookie level => some (cookie, level)) :=
  ⟨fun _ => rfl, fun _ _ => rfl⟩

/-- A null string, a slice of bytes and a descriptor. -/
def mixedItems : List Item :=
  [⟨.nullableString, none⟩,
    ⟨.slice .byte, some ⟨([1, -1] : List Int8), by decide⟩⟩,
    ⟨.strongBinder, .resident 0 5 stabilitySystem (by decide)⟩,
    ⟨.fileDescriptor, ⟨{ fd := 3, owned := true }, by decide⟩⟩]

theorem mixedItems_fit : ∀ item ∈ mixedItems, item.type.DescriptorsFit item.value := by
  intro item mem
  simp only [mixedItems, List.mem_cons, List.not_mem_nil, or_false] at mem
  rcases mem with rfl | rfl | rfl | rfl
  · trivial
  · intro values _ v _
    trivial
  · trivial
  · change (3 : Int) < 2147483648
    decide

theorem parcel_round_trip_mixed :
    ∃ p q : Parcel,
      writeAll mixedItems Parcel.new = .ok () p ∧
        (do
          Parcel.setPosition 0
          readAll identityResolvers (fun _ => .ok 4) (mixedItems.map type)) p =
          .ok
            (expectedAll
              (fun handle stability => some (handle.toUInt64, stability))
              (fun cookie stability => some (cookie, stability))
              mixedItems) q ∧
        q.remaining = 0 := by
  rcases (parcel_round_trip identityResolvers_resolves (fun _ => .ok 4)
      mixedItems mixedItems_fit).1 (by decide) with ⟨p, q, written, read, consumed, _⟩
  exact ⟨p, q, written, read, consumed⟩

/--
A non-negative descriptor that needs more than 31 bits is accepted by the
writer and comes back as another number.
-/
theorem wide_descriptor_changes :
    ∃ p q : Parcel,
      Parcel.writeFileDescriptor { fd := 2147483648, owned := false }
          Parcel.new = .ok () p ∧
        (do
          Parcel.setPosition 0
          Parcel.readFileDescriptor) p =
          .ok { fd := -2147483648, owned := false } q :=
  ⟨_, _, rfl, rfl⟩

end Libbinder
