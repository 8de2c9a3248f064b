import Libbinder.Parcel.Text

/-!
# Binder objects and file descriptors

Flat binder objects are 24-byte blocks; binders carry a stability word after
them.  The object table of the parcel records where they are, and readers of
binders and descriptors check the table against the bytes.

A binder read from a parcel is whatever the configured resolvers return.
-/

namespace Libbinder

open Go Action Image ParcelObjectRef

def flatObjectSize : Nat :=
  24

def flatBinderObjectWireSize : Int :=
  28

/-- `'s' 'b' '*' 0x85`. -/
def flatTypeBinder : UInt32 :=
  0x73622a85

/-- `'w' 'b' '*' 0x85`. -/
def flatTypeWBinder : UInt32 :=
  0x77622a85

/-- `'s' 'h' '*' 0x85`. -/
def flatTypeHandle : UInt32 :=
  0x73682a85

/-- `'f' 'd' '*' 0x85`. -/
def flatTypeFD : UInt32 :=
  0x66642a85

/-- `flatBinderFlagAcceptsFDs | localBinderSchedBits`. -/
def localBinderFlags : Nat :=
  0x100 + 19

/-- The conversion `uint32(v)` of an `int`. -/
def toUint32 (v : Int) : UInt32 :=
  UInt32.ofNat (v % 4294967296).toNat

/-- A binder-transferred file descriptor. -/
structure FileDescriptor where
  fd : Int
  owned : Bool
deriving DecidableEq, Repr

/-- The resolver functions of a parcel; a nil function is `none`. -/
structure Resolvers (B : Type) where
  binderResolver : Option (UInt32 → Option B)
  localBinderResolve : Option (UInt64 → Option B)
  binderObjectResolve : Option (ParcelObject → Option B)
  localBinderObjectResolve : Option (ParcelObject → UInt64 → Option B)

def wireObjectLength (kind : ObjectKind) (length : Int) : Int :=
  match kind with
  | .strongBinder | .weakBinder | .nullBinder =>
    if length < flatBinderObjectWireSize then flatBinderObjectWireSize
    else length
  | _ => length

def objectKindToRef : ObjectKind → ParcelObjectKind
  | .strongBinder | .weakBinder | .nullBinder => .binder
  | .fileDescriptor => .fd
  | .unknown _ => .binder

namespace Parcel

def setWireData
    (p : Parcel) (b : List UInt8) (objects : List ParcelObject) : Parcel :=
  { p with
    buf := b
    pos := 0
    wireFDsOwned := true
    objects := objects.map fun object =>
      { kind := objectKindToRef object.kind
        objectKind := object.kind
        offset := object.offset
        length := wireObjectLength object.kind object.length
        handle := object.handle
        stability := object.stability } }

def newWire (b : List UInt8) (objects : List ParcelObject) : Parcel :=
  new.setWireData b objects

/-! ## Writing -/

/-- The table entry of a strong binder. -/
def strongBinderRef
    (offset : Int) (handle : UInt32) (stability : Int32) : ParcelObjectRef where
  kind := .binder
  objectKind := .strongBinder
  offset := offset
  length := flatBinderObjectWireSize
  handle := handle
  stability := stability

/-- The table entry of a file descriptor. -/
def fileDescriptorRef (offset : Int) (handle : UInt32) : ParcelObjectRef where
  kind := .fd
  objectKind := .fileDescriptor
  offset := offset
  length := flatObjectSize
  handle := handle
  stability := 0

def writeStrongBinderLocalWithStability
    (ptr cookie : UInt64) (stability : Int32) : ParcelM Unit := do
  let start ← position
  (do
    writeBlock flatObjectSize fun dst => do
      let dst ← putLE 4 dst 0 flatTypeBinder.toNat
      let dst ← putLE 4 dst 4 localBinderFlags
      let dst ← putLE 8 dst 8 ptr.toNat
      putLE 8 dst 16 cookie.toNat
    writeInt32 stability)
  modify fun p =>
    { p with objects := p.objects ++ [strongBinderRef start 0 stability] }

def writeStrongBinderLocal (ptr cookie : UInt64) : ParcelM Unit :=
  writeStrongBinderLocalWithStability ptr cookie stabilitySystem

def writeStrongBinderHandleWithStability
    (handle : UInt32) (stability : Int32) : ParcelM Unit := do
  let start ← position
  (do
    writeBlock flatObjectSize fun dst => do
      let dst ← putLE 4 dst 0 flatTypeHandle.toNat
      let dst ← putLE 4 dst 4 0
      putLE 4 dst 8 handle.toNat
    writeInt32 stability)
  modify fun p =>
    { p with objects := p.objects ++ [strongBinderRef start handle stability] }

def writeStrongBinderHandle (handle : UInt32) : ParcelM Unit :=
  writeStrongBinderHandleWithStability handle stabilitySystem

def writeNullStrongBinder : ParcelM Unit := do
  writeBlock flatObjectSize fun dst =>
    putLE 4 dst 0 flatTypeBinder.toNat
  writeInt32 stabilityUndeclared

def writeFileDescriptor (fd : FileDescriptor) : ParcelM Unit := do
  let p ← get
  if p.allowFDs = false then
    fail (.unsupported "file descriptors not allowed in parcel")
  else if fd.fd < 0 then
    fail (.badParcelable s!"invalid file descriptor {fd.fd}")
  else
    let start ← position
    writeBlock flatObjectSize fun dst => do
      let dst ← putLE 4 dst 0 flatTypeFD.toNat
      let dst ← putLE 4 dst 4 0
      putLE 4 dst 8 (toUint32 fd.fd).toNat
    modify fun p =>
      { p with objects := p.objects ++ [fileDescriptorRef start (toUint32 fd.fd)] }

def writeParcelFileDescriptor (fd : FileDescriptor) : ParcelM Unit := do
  writeInt32 0
  writeFileDescriptor fd

/-! ## Reading -/

/-- The fields at fixed offsets of a 24-byte object block. -/
def isNullBinderBlock (block : List UInt8) : Option Bool :=
  if block.length ≠ flatObjectSize then
    some false
  else do
    let typ ← getLE 4 block 0
    if typ ≠ flatTypeBinder.toNat ∧ typ ≠ flatTypeWBinder.toNat then
      return false
    else
      let ptr ← getLE 8 block 8
      let cookie ← getLE 8 block 16
      return ptr = 0 && cookie = 0

def readObject : ParcelM ParcelObject := do
  let p ← get
  let start := p.pos
  match p.objectAt start with
  | some ref =>
    let length := wireObjectLength ref.objectKind ref.length
    let block ← readBlock length
    if ref.objectKind = .strongBinder ∧ length ≥ flatBinderObjectWireSize then
      let field ← orPanic (slice block flatObjectSize (flatObjectSize + 4))
      let stability ← orPanic (getLE 4 field 0)
      return {
        kind := ref.objectKind
        offset := ref.offset
        length := length
        handle := ref.handle
        stability := (UInt32.ofNat stability).toInt32 }
    else
      return {
        kind := ref.objectKind
        offset := ref.offset
        length := length
        handle := ref.handle
        stability := ref.stability }
  | none =>
    let block ← readBlock flatObjectSize
    let isNull ← orPanic (isNullBinderBlock block)
    if ¬ isNull then
      fail (.badParcelable s!"expected parcel object at offset {start}")
    else
      let stability ← readInt32
      return {
        kind := .nullBinder
        offset := start
        length := flatBinderObjectWireSize
        handle := 0
        stability := stability }

/-- The part of `readStrongBinderObject` for an object that is not null. -/
def readTableBinder
    (start : Int) (typ : UInt32) (block : List UInt8) :
    ParcelM (ParcelObject × UInt32 × UInt64) := do
  let p ← get
  match p.objectAt start with
  | none => fail (.badParcelable s!"missing binder object table entry at offset {start}")
  | some ref =>
    if ref.objectKind ≠ .strongBinder then
      fail (.badParcelable s!"expected strong binder object, got {ref.objectKind.code}")
    else
      let stability ← readInt32
      let cookie ← orPanic (getLE 8 block 16)
      let wireHandle ← orPanic (getLE 4 block 8)
      return (
        { kind := ref.objectKind
          offset := ref.offset
          length := wireObjectLength ref.objectKind ref.length
          handle :=
            if typ = flatTypeHandle then UInt32.ofNat wireHandle
            else ref.handle
          stability := stability },
        typ, .ofNat cookie)

def readStrongBinderObject : ParcelM (ParcelObject × UInt32 × UInt64) := do
  let start ← position
  let block ← readBlock flatObjectSize
  let typ ← orPanic (getLE 4 block 0)
  let isNull ← orPanic (isNullBinderBlock block)
  if UInt32.ofNat typ = flatTypeBinder then
    if isNull then
      let stability ← readInt32
      return (
        { kind := .nullBinder
          offset := start
          length := flatBinderObjectWireSize
          handle := 0
          stability := stability },
        UInt32.ofNat typ, 0)
    else
      readTableBinder start (.ofNat typ) block
  else if UInt32.ofNat typ = flatTypeHandle then
    readTableBinder start (.ofNat typ) block
  else
    fail (.badParcelable s!"expected strong binder object at offset {start}")

def readStrongBinderHandle : ParcelM (Option UInt32) := do
  let (object, _, _) ← readStrongBinderObject
  if object.kind = .nullBinder then
    return none
  else
    return some object.handle

/-- How a remote object is resolved. -/
def resolveHandle {B : Type}
    (resolvers : Resolvers B) (object : ParcelObject) : Except BinderError (Option B) :=
  match resolvers.binderObjectResolve with
  | some resolve => .ok (resolve object)
  | none =>
    match resolvers.binderResolver with
    | none => .error (.unsupported "no binder handle resolver configured")
    | some resolve => .ok (resolve object.handle)

/-- How a local object is resolved. -/
def resolveLocal {B : Type}
    (resolvers : Resolvers B) (object : ParcelObject) (cookie : UInt64) :
    Except BinderError (Option B) :=
  match resolvers.localBinderObjectResolve with
  | some resolve => .ok (resolve object cookie)
  | none =>
    match resolvers.localBinderResolve with
    | none => .error (.unsupported "no local binder resolver configured")
    | some resolve => .ok (resolve cookie)

def readStrongBinder {B : Type} (resolvers : Resolvers B) : ParcelM (Option B) := do
  let (object, typ, cookie) ← readStrongBinderObject
  if object.kind = .nullBinder then
    return none
  else if typ = flatTypeHandle then
    ofExcept (resolveHandle resolvers object)
  else if typ = flatTypeBinder then
    ofExcept (resolveLocal resolvers object cookie)
  else
    fail (.badParcelable ("unsupported binder object type " ++ hexText typ.toNat))

def readFileDescriptorObject : ParcelM Int := do
  let start ← position
  let block ← readBlock flatObjectSize
  let typ ← orPanic (getLE 4 block 0)
  if typ ≠ flatTypeFD.toNat then
    fail (.badParcelable s!"expected file descriptor object at offset {start}")
  else
    let p ← get
    match p.objectAt start with
    | none =>
      fail (.badParcelable s!"missing file descriptor object table entry at offset {start}")
    | some ref =>
      if ref.objectKind ≠ .fileDescriptor then
        fail (.badParcelable s!"expected file descriptor object, got {ref.objectKind.code}")
      else
        let raw ← orPanic (getLE 4 block 8)
        return (UInt32.ofNat raw).toInt32.toInt

def readFileDescriptor : ParcelM FileDescriptor := do
  let fd ← readFileDescriptorObject
  let p ← get
  return { fd := fd, owned := p.wireFDsOwned }

/--
`write` is the outcome of `syscall.Write` on the communication descriptor: the
text of its error, or the number of bytes written.
-/
def acknowledgeDetachedParcelFileDescriptor
    (write : Int → Except String Int) (comm : FileDescriptor) : Except BinderError Unit :=
  if comm.fd < 0 then
    .error (.badParcelable s!"invalid ParcelFileDescriptor comm fd {comm.fd}")
  else
    match write comm.fd with
    | .error reason =>
      .error (.badParcelable ("failed to acknowledge detached ParcelFileDescriptor: " ++ reason))
    | .ok written =>
      if written ≠ 4 then
        .error (.badParcelable s!"short detached ParcelFileDescriptor ack {written}")
      else
        .ok ()

def readParcelFileDescriptor
    (write : Int → Except String Int) : ParcelM FileDescriptor := do
  let hasComm ← readInt32
  let fd ← readFileDescriptor
  if hasComm ≠ 0 then
    let comm ← readFileDescriptor
    ofExcept (acknowledgeDetachedParcelFileDescriptor write comm)
    return fd
  else
    return fd

/-! ## Object blocks -/

/-- The bytes of a flat object: type, flags and two 64-bit words. -/
def flatObject (typ flags first second : Nat) : List UInt8 :=
  leBytes 4 typ ++ leBytes 4 flags ++ leBytes 8 first ++ leBytes 8 second

@[simp]
theorem length_flatObject (typ flags first second : Nat) :
    (flatObject typ flags first second).length = flatObjectSize := by
  simp [flatObject, flatObjectSize]

theorem getLE_flatObject_type {typ : Nat} (small : typ < 256 ^ 4) (flags first second : Nat) :
    getLE 4 (flatObject typ flags first second) 0 = some typ := by
  have fetched := getLE_middle small [] (leBytes 4 flags ++ leBytes 8 first ++ leBytes 8 second)
  simpa [flatObject] using fetched

theorem getLE_flatObject_first {first : Nat} (small : first < 256 ^ 8) (typ flags second : Nat) :
    getLE 8 (flatObject typ flags first second) 8 = some first := by
  have fetched := getLE_middle small (leBytes 4 typ ++ leBytes 4 flags) (leBytes 8 second)
  simpa [flatObject] using fetched

theorem getLE_flatObject_second {second : Nat} (small : second < 256 ^ 8) (typ flags first : Nat) :
    getLE 8 (flatObject typ flags first second) 16 = some second := by
  have fetched := getLE_middle small (leBytes 4 typ ++ leBytes 4 flags ++ leBytes 8 first) []
  simpa [flatObject] using fetched

/-- A 64-bit word below `2 ^ 32` holds its value in its first half. -/
theorem leBytes_eight_of_small {value : Nat} (small : value < 256 ^ 4) :
    leBytes 8 value = leBytes 4 value ++ leBytes 4 0 := by
  have high : value / 256 / 256 / 256 / 256 = 0 := by
    omega
  simp [leBytes, high]

theorem getLE_flatObject_half {first : Nat} (small : first < 256 ^ 4) (typ flags second : Nat) :
    getLE 4 (flatObject typ flags first second) 8 = some first := by
  have fetched :=
    getLE_middle small (leBytes 4 typ ++ leBytes 4 flags) (leBytes 4 0 ++ leBytes 8 second)
  simpa [flatObject, leBytes_eight_of_small small] using fetched

theorem isNullBinderBlock_flatObject
    {typ first second : Nat} (typSmall : typ < 256 ^ 4) (low : first < 256 ^ 8)
    (secondSmall : second < 256 ^ 8) (flags : Nat) :
    isNullBinderBlock (flatObject typ flags first second) =
      some (decide
        ((typ = flatTypeBinder.toNat ∨ typ = flatTypeWBinder.toNat) ∧ first = 0 ∧ second = 0)) := by
  unfold isNullBinderBlock
  rw [if_neg (by simp), getLE_flatObject_type typSmall]
  simp only [Option.bind_eq_bind, Option.bind_some]
  by_cases binder : typ = flatTypeBinder.toNat ∨ typ = flatTypeWBinder.toNat
  · rw [if_neg (by tauto), getLE_flatObject_first low, getLE_flatObject_second secondSmall]
    simp [binder]
  · rw [if_pos (by tauto)]
    simp [binder]

end Parcel

/-! ## Images of objects -/

namespace Image

open Parcel

/-- A flat object followed by its stability word. -/
def binderObject
    (typ flags first second : Nat) (stability : Int32) : Image :=
  ofBlock (flatObject typ flags first second) ++ int32 stability

theorem binderObject_size (typ flags first second : Nat) (stability : Int32) :
    (binderObject typ flags first second stability).size = 28 := by
  rw [binderObject, size_append, size_ofBlock, length_flatObject, int32, size_uint]
  rfl

def strongBinderLocal
    (ptr cookie : UInt64) (stability : Int32) : Image :=
  (binderObject flatTypeBinder.toNat localBinderFlags ptr.toNat
      cookie.toNat stability).tag
    (strongBinderRef 0 0 stability)
    rfl (by rw [binderObject_size]; decide)

def strongBinderHandle (handle : UInt32) (stability : Int32) : Image :=
  (binderObject flatTypeHandle.toNat 0 handle.toNat 0 stability).tag
    (strongBinderRef 0 handle stability)
    rfl (by rw [binderObject_size]; decide)

@[simp]
theorem size_strongBinderLocal (ptr cookie : UInt64) (stability : Int32) :
    (strongBinderLocal ptr cookie stability).size = 28 :=
  binderObject_size _ _ _ _ stability

@[simp]
theorem size_strongBinderHandle (handle : UInt32) (stability : Int32) :
    (strongBinderHandle handle stability).size = 28 :=
  binderObject_size _ _ _ _ stability

def nullStrongBinder : Image :=
  binderObject flatTypeBinder.toNat 0 0 0 stabilityUndeclared

@[simp]
theorem size_nullStrongBinder : nullStrongBinder.size = 28 :=
  binderObject_size _ _ _ _ stabilityUndeclared

def fileDescriptor (handle : UInt32) : Image :=
  (ofBlock (flatObject flatTypeFD.toNat 0 handle.toNat 0)).tag
    (fileDescriptorRef 0 handle)
    rfl (by rw [size_ofBlock, length_flatObject]; decide)

@[simp]
theorem size_fileDescriptor (handle : UInt32) : (fileDescriptor handle).size = 24 := by
  change (ofBlock (flatObject flatTypeFD.toNat 0 handle.toNat 0)).size = 24
  rw [size_ofBlock, length_flatObject]
  rfl

end Image

namespace Writes

open Parcel

/-- A flat object block whose fill function lays out its fields. -/
theorem flatBlock
    {fill : List UInt8 → Option (List UInt8)} {typ flags first second : Nat}
    (fills : fill (.replicate 24 0) = some (flatObject typ flags first second)) :
    Writes (writeBlock flatObjectSize fill) (.ofBlock (flatObject typ flags first second)) := by
  have written :
      Writes
        (writeBlock (flatObject typ flags first second).length fill)
        (.ofBlock (flatObject typ flags first second)) := by
    apply Writes.ofBlock
    rwa [length_flatObject]
  rwa [length_flatObject] at written

theorem strongBinderLocal (ptr cookie : UInt64) (stability : Int32) :
    Writes (writeStrongBinderLocalWithStability ptr cookie stability)
      (.strongBinderLocal ptr cookie stability) := by
  refine .tagged (.seq (flatBlock ?_) (int32 stability)) (strongBinderRef 0 0 stability) rfl _
  simp [putLE, flatObject, leBytes, List.replicate]

theorem strongBinderHandle (handle : UInt32) (stability : Int32) :
    Writes (writeStrongBinderHandleWithStability handle stability)
      (.strongBinderHandle handle stability) := by
  refine .tagged (.seq (flatBlock ?_) (int32 stability)) (strongBinderRef 0 handle stability) rfl _
  rw [flatObject, leBytes_eight_of_small handle.toNat_lt]
  simp [putLE, leBytes, List.replicate]

theorem nullStrongBinder : Writes writeNullStrongBinder .nullStrongBinder := by
  refine .seq (flatBlock ?_) (int32 stabilityUndeclared)
  simp [putLE, flatObject, leBytes, List.replicate]

variable {fd : FileDescriptor}

theorem fileDescriptor (nonneg : 0 ≤ fd.fd) :
    Writes (writeFileDescriptor fd) (.fileDescriptor (toUint32 fd.fd)) := by
  have notNegative : ¬ fd.fd < 0 := by
    omega
  apply Writes.congr
  · intro p opened
    unfold writeFileDescriptor
    rw [bind_ok (get_run p), opened.descriptors, if_neg (by simp), if_neg notNegative]
  · refine .tagged (flatBlock ?_) (fileDescriptorRef 0 (toUint32 fd.fd)) rfl _
    rw [flatObject, leBytes_eight_of_small (toUint32 fd.fd).toNat_lt]
    simp [putLE, leBytes, List.replicate]

theorem parcelFileDescriptor (nonneg : 0 ≤ fd.fd) :
    Writes (writeParcelFileDescriptor fd) (.int32 0 ++ .fileDescriptor (toUint32 fd.fd)) :=
  .seq (int32 0) (fileDescriptor nonneg)

end Writes

namespace Parcel

theorem readTableBinder_found
    {p reached : Parcel} {start : Int} (typ : UInt32) {block : List UInt8} {ref : ParcelObjectRef}
    {stability : Int32} {cookie wireHandle : Nat} (found : p.objectAt start = some ref)
    (strong : ref.objectKind = .strongBinder) (stabilityRead : readInt32 p = .ok stability reached)
    (cookieRead : getLE 8 block 16 = some cookie) (handleRead : getLE 4 block 8 = some wireHandle) :
    readTableBinder start typ block p =
      .ok
        ({ kind := .strongBinder
           offset := ref.offset
           length := wireObjectLength .strongBinder ref.length
           handle :=
             if typ = flatTypeHandle then .ofNat wireHandle
             else ref.handle
           stability := stability },
          typ, .ofNat cookie)
        reached := by
  have notOther : ¬ ref.objectKind ≠ .strongBinder := by
    simp [strong]
  unfold readTableBinder
  rw [bind_ok (get_run p)]
  simp only [found, if_neg notOther]
  rw [bind_ok stabilityRead, cookieRead, handleRead, strong]
  rfl

section Windows

variable {p : Parcel} {stability : Int32}

/-- The block and the stability word of a binder object at the cursor. -/
theorem readBlock_binderObject
    {typ flags first second : Nat}
    (window : p.Window (.binderObject typ flags first second stability)) :
    readBlock flatObjectSize p = .ok (flatObject typ flags first second) (p.advance 24) ∧
      readInt32 (p.advance 24) = .ok stability (p.advance 28) := by
  have blockRead := Reads.ofBlock (flatObject typ flags first second) p rfl window.left
  have wordRead := Reads.int32 stability _ rfl window.right
  rw [size_ofBlock, length_flatObject] at blockRead
  rw [size_ofBlock, length_flatObject, advance_advance, Image.int32, size_uint] at wordRead
  exact ⟨blockRead, wordRead⟩

theorem readStrongBinderObject_handle
    {handle : UInt32} (window : p.Window (.strongBinderHandle handle stability)) :
    readStrongBinderObject p =
      .ok
        ({ kind := .strongBinder
           offset := p.pos
           length := flatBinderObjectWireSize
           handle := handle
           stability := stability },
          flatTypeHandle, 0)
        (p.advance 28) := by
  have found :
      (p.advance 24).objectAt p.pos = some ((strongBinderRef 0 handle stability).shift p.pos) :=
    window.tagged rfl
  rcases readBlock_binderObject window.untag with ⟨blockRead, wordRead⟩
  have handleSmall : handle.toNat < 256 ^ 4 := handle.toNat_lt
  have tableRead :=
    readTableBinder_found flatTypeHandle found rfl wordRead
      (getLE_flatObject_second (by decide : 0 < 256 ^ 8) flatTypeHandle.toNat 0 handle.toNat)
      (getLE_flatObject_half handleSmall _ _ _)
  have begun : position p = .ok p.pos p := rfl
  unfold readStrongBinderObject
  rw [bind_ok begun, bind_ok blockRead, getLE_flatObject_type (by decide),
    isNullBinderBlock_flatObject (by decide) (by omega : handle.toNat < 256 ^ 8) (by decide)]
  simp only [bind_run, orPanic_some_run, UInt32.ofNat_toNat]
  rw [if_neg (by decide), if_pos trivial, tableRead]
  simp [strongBinderRef, shift, wireObjectLength]

theorem readStrongBinderObject_local
    {ptr cookie : UInt64} (present : ptr ≠ 0 ∨ cookie ≠ 0)
    (window : p.Window (.strongBinderLocal ptr cookie stability)) :
    readStrongBinderObject p =
      .ok
        ({ kind := .strongBinder
           offset := p.pos
           length := flatBinderObjectWireSize
           handle := 0
           stability := stability },
          flatTypeBinder, cookie)
        (p.advance 28) := by
  have found : (p.advance 24).objectAt p.pos = some ((strongBinderRef 0 0 stability).shift p.pos) :=
    window.tagged rfl
  rcases readBlock_binderObject window.untag with ⟨blockRead, wordRead⟩
  have tableRead :=
    readTableBinder_found flatTypeBinder found rfl wordRead
      (getLE_flatObject_second cookie.toNat_lt flatTypeBinder.toNat localBinderFlags ptr.toNat)
      (getLE_eq_some (by rw [length_flatObject]; decide))
  have notNull :
      ¬ ((flatTypeBinder.toNat = flatTypeBinder.toNat ∨
            flatTypeBinder.toNat = flatTypeWBinder.toNat) ∧
          ptr.toNat = 0 ∧ cookie.toNat = 0) := by
    rintro ⟨_, ptrZero, cookieZero⟩
    rcases present with ptrPresent | cookiePresent
    · exact ptrPresent (UInt64.toNat_inj.mp ptrZero)
    · exact cookiePresent (UInt64.toNat_inj.mp cookieZero)
  have begun : position p = .ok p.pos p := rfl
  unfold readStrongBinderObject
  rw [bind_ok begun, bind_ok blockRead, getLE_flatObject_type (by decide),
    isNullBinderBlock_flatObject (by decide) ptr.toNat_lt cookie.toNat_lt, decide_eq_false notNull]
  simp only [bind_run, orPanic_some_run, UInt32.ofNat_toNat]
  rw [if_pos trivial, if_neg (by decide), tableRead]
  have otherType : ¬ flatTypeBinder = flatTypeHandle := by
    decide
  simp [strongBinderRef, shift, wireObjectLength, otherType]

theorem readStrongBinderObject_null (window : p.Window .nullStrongBinder) :
    readStrongBinderObject p =
      .ok
        ({ kind := .nullBinder
           offset := p.pos
           length := flatBinderObjectWireSize
           handle := 0
           stability := stabilityUndeclared },
          flatTypeBinder, 0)
        (p.advance 28) := by
  rcases readBlock_binderObject window with ⟨blockRead, wordRead⟩
  have begun : position p = .ok p.pos p := rfl
  unfold readStrongBinderObject
  rw [bind_ok begun, bind_ok blockRead, getLE_flatObject_type (by decide),
    isNullBinderBlock_flatObject (by decide) (by decide) (by decide)]
  simp only [bind_run, orPanic_some_run, UInt32.ofNat_toNat]
  rw [if_pos trivial, if_pos (by decide), bind_ok wordRead]
  rfl

end Windows

end Parcel

/--
The resolvers answer for every object, and their answer depends only on its
identity and stability, not on where it lies in the parcel.
-/
structure Resolves {B : Type}
    (resolvers : Resolvers B)
    (remote : UInt32 → Int32 → Option B)
    (resident : UInt64 → Int32 → Option B) : Prop where
  handle : ∀ object : ParcelObject,
      Parcel.resolveHandle resolvers object = .ok (remote object.handle object.stability)
  cookie : ∀ (object : ParcelObject) (cookie : UInt64),
      Parcel.resolveLocal resolvers object cookie = .ok (resident cookie object.stability)

namespace Reads

open Parcel

variable {owned : Bool} {B : Type} {resolvers : Resolvers B}
  {remote : UInt32 → Int32 → Option B} {resident : UInt64 → Int32 → Option B}

theorem strongBinderHandle (handle : UInt32) (stability : Int32) :
    Reads owned readStrongBinderHandle (.strongBinderHandle handle stability) (some handle) := by
  intro p _ window
  unfold readStrongBinderHandle
  rw [bind_ok (readStrongBinderObject_handle window), size_strongBinderHandle]
  rfl

theorem nullStrongBinderHandle : Reads owned readStrongBinderHandle .nullStrongBinder none := by
  intro p _ window
  unfold readStrongBinderHandle
  rw [bind_ok (readStrongBinderObject_null window), size_nullStrongBinder]
  rfl

theorem strongBinderRemote
    (resolves : Resolves resolvers remote resident) (handle : UInt32) (stability : Int32) :
    Reads owned (readStrongBinder resolvers)
      (.strongBinderHandle handle stability)
      (remote handle stability) := by
  intro p _ window
  unfold readStrongBinder
  rw [bind_ok (readStrongBinderObject_handle window)]
  simp only [if_neg (by decide : ¬ ObjectKind.strongBinder = .nullBinder),
    if_true, resolves.handle, size_strongBinderHandle]
  rfl

theorem strongBinderLocal
    (resolves : Resolves resolvers remote resident) {ptr cookie : UInt64}
    (present : ptr ≠ 0 ∨ cookie ≠ 0) (stability : Int32) :
    Reads owned (readStrongBinder resolvers)
      (.strongBinderLocal ptr cookie stability)
      (resident cookie stability) := by
  intro p _ window
  unfold readStrongBinder
  rw [bind_ok (readStrongBinderObject_local present window)]
  simp only [if_neg (by decide : ¬ ObjectKind.strongBinder = .nullBinder),
    if_neg (by decide : ¬ flatTypeBinder = flatTypeHandle), if_true,
    resolves.cookie, size_strongBinderLocal]
  rfl

theorem nullStrongBinder (resolvers : Resolvers B) :
    Reads owned (readStrongBinder resolvers) .nullStrongBinder none := by
  intro p _ window
  unfold readStrongBinder
  rw [bind_ok (readStrongBinderObject_null window), size_nullStrongBinder]
  rfl

theorem fileDescriptor (handle : UInt32) :
    Reads owned readFileDescriptor (.fileDescriptor handle)
      { fd := handle.toInt32.toInt, owned := owned } := by
  intro p owner window
  have found : (p.advance 24).objectAt p.pos = some ((fileDescriptorRef 0 handle).shift p.pos) :=
    window.tagged rfl
  have blockRead :
      readBlock flatObjectSize p =
        .ok (flatObject flatTypeFD.toNat 0 handle.toNat 0) (p.advance 24) := by
    have read := Reads.ofBlock _ p rfl window.untag
    rwa [size_ofBlock, length_flatObject] at read
  have begun : position p = .ok p.pos p := rfl
  have objectRead : readFileDescriptorObject p = .ok handle.toInt32.toInt (p.advance 24) := by
    unfold readFileDescriptorObject
    rw [bind_ok begun, bind_ok blockRead, getLE_flatObject_type (by decide),
      getLE_flatObject_half handle.toNat_lt]
    simp only [bind_run, orPanic_some_run, get_run, ne_eq, not_true_eq_false, if_false, found]
    rw [if_neg (by simp [shift, fileDescriptorRef])]
    simp only [bind_run, orPanic_some_run, UInt32.ofNat_toNat]
    rfl
  unfold readFileDescriptor
  rw [bind_ok objectRead, bind_ok (get_run _), size_fileDescriptor]
  subst owner
  rfl

theorem parcelFileDescriptor (write : Int → Except String Int) (handle : UInt32) :
    Reads owned (readParcelFileDescriptor write)
      (.int32 0 ++ .fileDescriptor handle)
      { fd := handle.toInt32.toInt, owned := owned } := by
  apply Reads.seq (int32 0)
  apply Reads.map (fileDescriptor handle)
  intro p
  rfl

end Reads

/-- A descriptor below `2 ^ 31` survives the conversion to 32 bits. -/
theorem toInt_toUint32 {fd : Int} (nonneg : 0 ≤ fd) (small : fd < 2147483648) :
    (toUint32 fd).toInt32.toInt = fd := by
  have remainder : (fd % 4294967296).toNat = fd.toNat := by
    omega
  have value : (fd.toNat : Int) = fd := by
    omega
  rw [toUint32, remainder, UInt32.toInt32_ofNat', Int32.toInt_ofNat_of_lt (by omega), value]

/-! ## Objects on any parcel -/

theorem Parcel.Blocks.writeNullStrongBinder : Blocks writeNullStrongBinder :=
  .bind (.write (.putLE _ (by decide))) (.writeInt32 stabilityUndeclared)

namespace Parcel.Safe

theorem writeStrongBinderLocalWithStability (ptr cookie : UInt64) (stability : Int32) :
    Safe (writeStrongBinderLocalWithStability ptr cookie stability) := by
  apply Safe.bind .position
  intro start
  apply Safe.bind
  · apply Safe.bind
    · apply Safe.writeBlock
      exact .bind (.putLE _ (by decide)) (.bind (.putLE _ (by decide))
            (.bind (.putLE _ (by decide)) (.putLE _ (by decide))))
    · intro _
      exact (Blocks.writeInt32 stability).safe
  · intro _
    exact .modify_objects (· ++ [strongBinderRef start 0 stability])

theorem writeStrongBinderHandleWithStability (handle : UInt32) (stability : Int32) :
    Safe (writeStrongBinderHandleWithStability handle stability) := by
  apply Safe.bind .position
  intro start
  apply Safe.bind
  · apply Safe.bind
    · apply Safe.writeBlock
      exact .bind (.putLE _ (by decide)) (.bind (.putLE _ (by decide)) (.putLE _ (by decide)))
    · intro _
      exact (Blocks.writeInt32 stability).safe
  · intro _
    exact .modify_objects (· ++ [strongBinderRef start handle stability])

theorem writeFileDescriptor (fd : FileDescriptor) : Safe (writeFileDescriptor fd) := by
  apply Safe.bind .get
  intro p
  split_ifs
  · exact .fail _
  · exact .fail _
  · apply Safe.bind .position
    intro start
    apply Safe.bind
    · apply Safe.writeBlock
      exact .bind (.putLE _ (by decide)) (.bind (.putLE _ (by decide)) (.putLE _ (by decide)))
    · intro _
      exact .modify_objects (· ++ [fileDescriptorRef start (toUint32 fd.fd)])

theorem isNullBinderBlock_total (block : List UInt8) :
    ∃ isNull, isNullBinderBlock block = some isNull := by
  unfold isNullBinderBlock
  by_cases sized : block.length ≠ flatObjectSize
  · rw [if_pos sized]
    exact ⟨false, rfl⟩
  · have length : block.length = 24 := by
      simpa [flatObjectSize] using sized
    rw [if_neg sized, getLE_eq_some, getLE_eq_some, getLE_eq_some]
    simp only [Option.bind_eq_bind, Option.bind_some]
    split_ifs
    · exact ⟨false, rfl⟩
    · exact ⟨_, rfl⟩

theorem readObject : Safe readObject := by
  apply Safe.bind .get
  intro p
  cases lookup : p.objectAt p.pos with
  | some ref =>
    simp only [lookup]
    apply Safe.readBlock_bind
    intro body sized
    split_ifs with labelled
    · have longEnough : (28 : Int) ≤ body.length := by
        rw [sized]
        exact labelled.2
      have fieldSliced :=
        slice_eq_some (by decide : (0 : Int) ≤ 24) (by decide : (24 : Int) ≤ 28) longEnough
      have fieldSized := length_of_slice fieldSliced
      apply Safe.orPanic_bind fieldSliced
      apply Safe.orPanic_bind getLE_eq_some
      exact .pure _
    · exact .pure _
  | none =>
    simp only [lookup]
    apply Safe.readBlock_bind
    intro body sized
    apply Safe.bind (.orPanic (isNullBinderBlock_total body))
    intro isNull
    split_ifs
    · apply Safe.bind readInt32
      intro stability
      exact .pure _
    · exact .fail _

theorem readTableBinder
    (start : Int) (typ : UInt32) {block : List UInt8}
    (sized : (block.length : Int) = flatObjectSize) : Safe (readTableBinder start typ block) := by
  have length : block.length = 24 := by
    exact_mod_cast sized
  apply Safe.bind .get
  intro p
  cases p.objectAt start with
  | none => exact .fail _
  | some ref =>
    simp only []
    by_cases other : ref.objectKind ≠ .strongBinder
    · rw [if_pos other]
      exact .fail _
    · rw [if_neg other]
      apply Safe.bind readInt32
      intro stability
      apply Safe.orPanic_bind getLE_eq_some
      apply Safe.orPanic_bind getLE_eq_some
      exact .pure _

theorem readStrongBinderObject : Safe readStrongBinderObject := by
  apply Safe.bind .position
  intro start
  apply Safe.readBlock_bind
  intro body sized
  have length : body.length = 24 := by
    exact_mod_cast sized
  apply Safe.orPanic_bind getLE_eq_some
  apply Safe.bind (.orPanic (isNullBinderBlock_total body))
  intro isNull
  split_ifs
  · apply Safe.bind readInt32
    intro stability
    exact .pure _
  · exact readTableBinder start _ sized
  · exact readTableBinder start _ sized
  · exact .fail _

theorem readStrongBinderHandle : Safe readStrongBinderHandle := by
  apply Safe.bind readStrongBinderObject
  rintro ⟨object, typ, cookie⟩
  simp only []
  split_ifs
  · exact .pure _
  · exact .pure _

theorem readStrongBinder {B : Type} (resolvers : Resolvers B) :
    Safe (readStrongBinder resolvers) := by
  apply Safe.bind readStrongBinderObject
  rintro ⟨object, typ, cookie⟩
  simp only []
  split_ifs
  · exact .pure _
  · exact .ofExcept _
  · exact .ofExcept _
  · exact .fail _

theorem readFileDescriptor : Safe readFileDescriptor := by
  apply Safe.bind
  · apply Safe.bind .position
    intro start
    apply Safe.readBlock_bind
    intro body sized
    have length : body.length = 24 := by
      exact_mod_cast sized
    apply Safe.orPanic_bind getLE_eq_some
    split_ifs
    · exact .fail _
    · apply Safe.bind .get
      intro p
      cases p.objectAt start with
      | none => exact .fail _
      | some ref =>
        simp only []
        split_ifs
        · exact .fail _
        · apply Safe.orPanic_bind getLE_eq_some
          exact .pure _
  · intro fd
    apply Safe.bind .get
    intro p
    exact .pure _

theorem readParcelFileDescriptor (write : Int → Except String Int) :
    Safe (readParcelFileDescriptor write) := by
  apply Safe.bind readInt32
  intro hasComm
  apply Safe.bind readFileDescriptor
  intro fd
  split_ifs
  · apply Safe.bind readFileDescriptor
    intro comm
    apply Safe.bind (.ofExcept _)
    intro _
    exact .pure _
  · exact .pure _

end Parcel.Safe

end Libbinder
