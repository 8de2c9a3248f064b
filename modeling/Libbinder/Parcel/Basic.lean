import Libbinder.Errors
import Libbinder.Go.Int
import Libbinder.Go.Bytes

/-!
# The parcel and its block layer

A `Parcel` is a byte buffer with a cursor and a table of the binder objects
embedded in it.  Every typed access goes through two primitives: `writeBlock`
reserves a block padded to four bytes at the cursor and fills it, `readBlock`
returns the unpadded part of such a block.

The receiver is never nil, so the `p == nil` guards of the source are left out,
as is the unused transport mode.  Resolver functions are passed to the readers
that use them.
-/

namespace Libbinder

open Go List Action

/--
The kind of an embedded object.  Tables received from a peer can hold any
`uint8`; the values without a name are kept as `unknown`.
-/
inductive ObjectKind where
  | nullBinder
  | strongBinder
  | weakBinder
  | fileDescriptor
  | unknown (code : UInt8)
deriving DecidableEq, Repr

/-- The numeric value of an object kind. -/
def ObjectKind.code : ObjectKind → UInt8
  | .nullBinder => 0
  | .strongBinder => 1
  | .weakBinder => 2
  | .fileDescriptor => 3
  | .unknown code => code

/-- The coarse kind kept in the parcel's own table. -/
inductive ParcelObjectKind where
  | binder
  | fd
deriving DecidableEq, Repr

/-- An entry of the parcel's object table. -/
structure ParcelObjectRef where
  kind : ParcelObjectKind
  objectKind : ObjectKind
  offset : Int
  length : Int
  handle : UInt32
  stability : Int32
deriving DecidableEq, Repr

/-- A decoded binder wire object, as handed to callers and resolvers. -/
structure ParcelObject where
  kind : ObjectKind
  offset : Int
  length : Int
  handle : UInt32
  stability : Int32
deriving DecidableEq, Repr

def stabilityUndeclared : Int32 :=
  0

def stabilitySystem : Int32 :=
  0b001100

/-- The payload container of a binder transaction. -/
structure Parcel where
  buf : List UInt8
  pos : Int
  objects : List ParcelObjectRef
  allowFDs : Bool
  wireFDsOwned : Bool
deriving DecidableEq, Repr

/-- A method of `*Parcel`. -/
abbrev ParcelM (α : Type) :=
  Action Parcel BinderError α

namespace Parcel

def new : Parcel where
  buf := []
  pos := 0
  objects := []
  allowFDs := true
  wireFDsOwned := false

/-- `len(p.buf)`. -/
def len (p : Parcel) : Int :=
  p.buf.length

def remaining (p : Parcel) : Int :=
  if p.pos ≥ p.len then 0
  else if p.pos < 0 then p.len
  else wrapInt (p.len - p.pos)

def setPosition (pos : Int) : ParcelM Unit :=
  fun p =>
    if pos < 0 ∨ pos > p.len then
      .error (.error (.badParcelable s!"invalid parcel position {pos}")) p
    else
      .ok () { p with pos := pos }

def position : ParcelM Int :=
  fun p => .ok p.pos p

/-- The first object table entry at an offset. -/
def objectAt (p : Parcel) (offset : Int) : Option ParcelObjectRef :=
  p.objects.find? fun object => object.offset = offset

/-- The size of a block rounded up to the parcel alignment of four bytes. -/
def padSize (n : Int) : Except BinderError Int :=
  if n < 0 then
    .error (.badParcelable s!"negative size {n}")
  else if n > maxInt - (4 - 1) then
    .error (.badParcelable "parcel size overflow")
  else
    .ok (wrapInt (n + 4 - 1) - wrapInt (n + 4 - 1) % 4)

/--
Make room for `n` bytes at the cursor, growing the buffer with zeros, and
move the cursor behind them.  The result is the window of the buffer that the
returned slice covers.
-/
def reserve (n : Int) : ParcelM (Int × Int) :=
  fun p =>
    if n < 0 then
      .error (.error (.badParcelable s!"negative reserve size {n}")) p
    else if p.pos < 0 ∨ p.pos > p.len then
      .error (.error (.badParcelable s!"invalid parcel position {p.pos}")) p
    else if p.pos > wrapInt (maxInt - n) then
      .error (.error (.badParcelable "parcel size overflow")) p
    else
      let finish := wrapInt (p.pos + n)
      let grown :=
        if finish > p.len then
          p.buf ++ List.replicate (wrapInt (finish - p.len)).toNat 0
        else
          p.buf
      match slice grown p.pos finish with
      | none => .error .panic { p with buf := grown }
      | some _ => .ok (p.pos, finish) { p with buf := grown, pos := finish }

/--
Reserve a padded block and let `fill` overwrite its payload in place.  The
padding is cleared.
-/
def writeBlock
    (payloadLen : Int)
    (fill : List UInt8 → Option (List UInt8)) : ParcelM Unit := do
  let paddedLen ← Action.ofExcept (padSize payloadLen)
  let (start, finish) ← reserve paddedLen
  let p ← get
  let block ← Action.orPanic (slice p.buf start finish)
  let payload ←
    Action.orPanic
      (if payloadLen > 0 then (slice block 0 payloadLen).bind fill
        else some [])
  let padding ← Action.orPanic (slice block payloadLen block.length)
  set { p with
    buf :=
      p.buf.take start.toNat ++
        (payload ++ List.replicate padding.length 0) ++
        p.buf.drop finish.toNat }

/-- Return the payload of the padded block at the cursor and step over it. -/
def readBlock (payloadLen : Int) : ParcelM (List UInt8) :=
  fun p =>
    if payloadLen < 0 then
      .error (.error (.badParcelable s!"negative read size {payloadLen}")) p
    else if p.pos < 0 ∨ p.pos > p.len then
      .error (.error (.badParcelable s!"invalid parcel position {p.pos}")) p
    else
      match padSize payloadLen with
      | .error reason => .error (.error reason) p
      | .ok paddedLen =>
        if p.pos > wrapInt (p.len - paddedLen) then
          .error (.error (.plain .unexpectedEOF)) p
        else
          match slice p.buf p.pos (wrapInt (p.pos + payloadLen)) with
          | none => .error .panic p
          | some block => .ok block { p with pos := wrapInt (p.pos + paddedLen) }

/-! ## Padding -/

/-- The length of a block of `n` bytes including its padding. -/
def paddedLength (n : Nat) : Nat :=
  (n + 3) / 4 * 4

theorem le_paddedLength (n : Nat) : n ≤ paddedLength n := by
  unfold paddedLength
  omega

theorem paddedLength_mod (n : Nat) : paddedLength n % 4 = 0 := by
  unfold paddedLength
  omega

/-- The error of every length check of the block layer that overflows. -/
def sizeOverflow : BinderError :=
  .badParcelable "parcel size overflow"

theorem padSize_natCast (n : Nat) :
    padSize n =
      if (n : Int) > maxInt - (4 - 1) then .error sizeOverflow
      else .ok (paddedLength n) := by
  have notNegative : ¬ (n : Int) < 0 := by
    omega
  rw [padSize, if_neg notNegative]
  by_cases large : (n : Int) > maxInt - (4 - 1)
  · rw [if_pos large, if_pos large]
    rfl
  · rw [if_neg large, if_neg large]
    have upper : (n : Int) ≤ 9223372036854775807 - 3 := by
      simpa [maxInt] using large
    rw [wrapInt_eq]
    congr 1
    unfold paddedLength
    omega

/-! ## Every access, from any state -/

/-- A block with its padding. -/
def block (payload : List UInt8) : List UInt8 :=
  payload ++ List.replicate (paddedLength payload.length - payload.length) 0

@[simp]
theorem length_block (payload : List UInt8) :
    (block payload).length = paddedLength payload.length := by
  have := le_paddedLength payload.length
  simp only [block, length_append, length_replicate]
  omega

/-- The cursor is inside the buffer, and the buffer is one Go can hold. -/
structure Bounded (p : Parcel) : Prop where
  nonneg : 0 ≤ p.pos
  inside : p.pos ≤ p.len
  held : p.len ≤ maxInt

/-- What a write of `n` bytes finds at the cursor; the buffer grows with zeros. -/
def window (p : Parcel) (n : Nat) : List UInt8 :=
  (p.buf.drop p.pos.toNat ++ List.replicate n 0).take n

@[simp]
theorem length_window (p : Parcel) (n : Nat) : (p.window n).length = n := by
  simp [window]

variable {p : Parcel} {n : Nat} {payload : List UInt8} {fill : List UInt8 → Option (List UInt8)}

theorem reserve_inside (bounded : p.Bounded) (fits : p.pos + n ≤ maxInt) :
    reserve n p =
      .ok (p.pos, p.pos + n)
        { p with
          buf := p.buf ++ .replicate (p.pos.toNat + n - p.buf.length) 0
          pos := p.pos + n } := by
  have cursorNonneg := bounded.nonneg
  have cursorInside := bounded.inside
  have held : p.len ≤ 9223372036854775807 := bounded.held
  have upper : p.pos + n ≤ 9223372036854775807 := fits
  have room : wrapInt (maxInt - n) = maxInt - n :=
    wrapInt_eq (by unfold maxInt; omega) (by unfold maxInt; omega)
  have finish : wrapInt (p.pos + n) = p.pos + n := wrapInt_eq
  have growth : wrapInt (p.pos + n - p.len) = p.pos + n - p.len := wrapInt_eq
  have grown :
      (if p.pos + n > p.len then p.buf ++ .replicate (p.pos + n - p.len).toNat 0
        else p.buf) =
        p.buf ++ .replicate (p.pos.toNat + n - p.buf.length) 0 := by
    unfold len at *
    split_ifs
    · congr 2
      omega
    · have nothing : p.pos.toNat + n - p.buf.length = 0 := by
        omega
      simp [nothing]
  unfold reserve
  rw [if_neg (by omega), if_neg (by omega), if_neg (by omega)]
  simp only [finish, growth, grown]
  rw [slice_eq_some cursorNonneg (by omega) (by simp; unfold len at *; omega)]

/-- A block that fits replaces what lies at the cursor. -/
theorem writeBlock_inside
    (bounded : p.Bounded) (fits : p.pos + paddedLength payload.length ≤ maxInt)
    (fills : fill (p.window payload.length) = some payload) :
    writeBlock payload.length fill p =
      .ok ()
        { p with
          buf := p.buf.take p.pos.toNat ++ block payload ++
            p.buf.drop (p.pos.toNat + paddedLength payload.length)
          pos := p.pos + paddedLength payload.length } := by
  have padded := le_paddedLength payload.length
  have cursorNonneg := bounded.nonneg
  have cursorInside : p.pos.toNat ≤ p.buf.length := by
    have := bounded.inside
    unfold len at this
    omega
  have small : ¬ (payload.length : Int) > maxInt - (4 - 1) := by
    unfold paddedLength at fits
    unfold maxInt at *
    omega
  have reserved := reserve_inside bounded fits
  have widthValue := padSize_natCast payload.length
  rw [if_neg small] at widthValue
  rw [block]
  generalize paddedLength payload.length = width at *
  have sliced :
      slice (p.buf ++ .replicate (p.pos.toNat + width - p.buf.length) 0) p.pos
          (p.pos + width) =
        some (p.window width) := by
    rw [slice_eq_some cursorNonneg (by omega) (by simp; omega),
      drop_append_of_le_length cursorInside]
    simp only [window, take_append, take_replicate, length_drop]
    congr 3 <;> omega
  have front : slice (p.window width) 0 payload.length = some (p.window payload.length) := by
    rw [slice_eq_some (by omega) (by omega) (by simp; omega)]
    simp only [window, Int.toNat_zero, drop_zero, take_take, take_append,
      take_replicate, length_take, length_drop]
    congr 3 <;> omega
  obtain ⟨rest, back⟩ : ∃ rest, slice (p.window width) payload.length (p.window width).length =
      some rest :=
    ⟨_, slice_eq_some (by omega) (by simp; omega) (by omega)⟩
  have restLength := length_of_slice back
  have filled :
      (if (payload.length : Int) > 0 then (slice (p.window width) 0 payload.length).bind fill
        else some []) =
        some payload := by
    by_cases empty : payload = []
    · subst empty
      rfl
    · rwa [if_pos (Int.natCast_pos.mpr (length_pos_iff.mpr empty)), front]
  have padding : rest.length = width - payload.length := by
    rw [length_window] at restLength
    omega
  have finish : (p.pos + width).toNat = p.pos.toNat + width := by
    omega
  unfold writeBlock
  simp only [widthValue, bind_run, ofExcept_ok_run, reserved, get_run, sliced,
    orPanic_some_run, filled, back, set_run]
  rw [padding, finish, take_append_of_le_length cursorInside, drop_append]
  simp

/-- A block that does not fit is refused before anything is written. -/
theorem writeBlock_overflow (fits : p.Bounded) (tooLarge : maxInt < p.pos + paddedLength n) :
    writeBlock n fill p = .error (.error sizeOverflow) p := by
  have cursorNonneg := fits.nonneg
  have cursorInside := fits.inside
  unfold writeBlock
  rw [padSize_natCast]
  by_cases large : (n : Int) > maxInt - (4 - 1)
  · rw [if_pos large]
    exact bind_error rfl
  · have room : wrapInt (maxInt - paddedLength n) = maxInt - paddedLength n := by
      unfold paddedLength maxInt at *
      exact wrapInt_eq
    have refused : reserve (paddedLength n) p = .error (.error sizeOverflow) p := by
      unfold reserve
      rw [if_neg (by omega), if_neg (by omega), if_pos (by omega)]
      rfl
    rw [if_neg large, bind_ok (ofExcept_ok_run _ _)]
    exact bind_error refused

/-- What a block read did to the parcel. -/
structure BlockRead
    (p : Parcel) (n : Int) (payload : List UInt8) (reached : Parcel) : Prop where
  nonneg : 0 ≤ n
  sized : (payload.length : Int) = n
  advanced : reached = { p with pos := p.pos + paddedLength n.toNat }
  inside : p.pos + paddedLength n.toNat ≤ p.len

/-- A padded block that lies inside the buffer is read, whatever its padding is. -/
theorem readBlock_inside (fits : p.Bounded) (inside : p.pos + paddedLength n ≤ p.len) :
    readBlock n p =
      .ok ((p.buf.drop p.pos.toNat).take n) { p with pos := p.pos + paddedLength n } := by
  have cursorNonneg := fits.nonneg
  have held : p.len ≤ 9223372036854775807 := fits.held
  have padded := le_paddedLength n
  have small : ¬ (n : Int) > maxInt - (4 - 1) := by
    unfold paddedLength at inside
    unfold maxInt
    omega
  have room : wrapInt (p.len - paddedLength n) = p.len - paddedLength n := wrapInt_eq
  have payloadEnd : wrapInt (p.pos + n) = p.pos + n := wrapInt_eq
  have blockEnd : wrapInt (p.pos + paddedLength n) = p.pos + paddedLength n := wrapInt_eq
  have sliced : slice p.buf p.pos (p.pos + n) = some ((p.buf.drop p.pos.toNat).take n) := by
    rw [slice_eq_some cursorNonneg (by omega) (by unfold len at *; omega)]
    simp
  unfold readBlock
  rw [if_neg (by omega), if_neg (by omega), padSize_natCast, if_neg small]
  simp only [room, payloadEnd, blockEnd, sliced]
  rw [if_neg (by omega)]

/--
A block read from a bounded parcel either fails with the parcel unchanged, or
returns a block of the requested length and moves the cursor forward by its
padded size.
-/
theorem readBlock_spec (fits : p.Bounded) (n : Int) :
    (∃ reason, readBlock n p = .error (.error reason) p) ∨
      ∃ payload reached, readBlock n p = .ok payload reached ∧ BlockRead p n payload reached := by
  by_cases below : n < 0
  · unfold readBlock
    rw [if_pos below]
    exact .inl ⟨_, rfl⟩
  obtain ⟨size, rfl⟩ : ∃ size : Nat, n = size := ⟨n.toNat, by omega⟩
  by_cases inside : p.pos + paddedLength size ≤ p.len
  · refine .inr ⟨_, _, readBlock_inside fits inside, by omega, ?_, rfl, inside⟩
    have padded := le_paddedLength size
    have cursorNonneg := fits.nonneg
    rw [length_take_of_le]
    rw [length_drop]
    unfold len at inside
    omega
  · have cursorNonneg := fits.nonneg
    have cursorInside := fits.inside
    have held : p.len ≤ 9223372036854775807 := fits.held
    unfold readBlock
    rw [if_neg below, if_neg (by omega), padSize_natCast]
    by_cases large : (size : Int) > maxInt - (4 - 1)
    · rw [if_pos large]
      exact .inl ⟨_, rfl⟩
    have upper : (paddedLength size : Int) ≤ 9223372036854775807 := by
      unfold paddedLength maxInt at *
      omega
    have room : wrapInt (p.len - paddedLength size) = p.len - paddedLength size := wrapInt_eq
    rw [if_neg large]
    simp only [room]
    rw [if_pos (by omega)]
    exact .inl ⟨_, rfl⟩

/-- A block read keeps the cursor inside the buffer. -/
theorem BlockRead.bounded
    {reached : Parcel} {n : Int} (read : BlockRead p n payload reached) (fits : p.Bounded) :
    reached.Bounded := by
  rw [read.advanced]
  have := fits.nonneg
  exact ⟨by simp only; omega, read.inside, fits.held⟩

/-- A fill function that overwrites a block of `n` bytes and never panics. -/
def Fills (n : Nat) (fill : List UInt8 → Option (List UInt8)) : Prop :=
  ∀ window : List UInt8, window.length = n →
    ∃ payload, fill window = some payload ∧ payload.length = n

theorem Fills.putLE {width offset : Nat} (value : Nat) (room : offset + width ≤ n) :
    Fills n fun dst => Go.putLE width dst offset value := by
  intro window sized
  have stored := putLE_eq_some (by omega : offset + width ≤ window.length) value
  exact ⟨_, stored, (length_of_putLE stored).trans sized⟩

theorem Fills.bind
    {first next : List UInt8 → Option (List UInt8)} (firstFills : Fills n first)
    (nextFills : Fills n next) : Fills n fun dst => first dst >>= next := by
  intro window sized
  rcases firstFills window sized with ⟨middle, firstFilled, middleSized⟩
  rcases nextFills middle middleSized with ⟨payload, filled, payloadSized⟩
  refine ⟨payload, ?_, payloadSized⟩
  change (first window).bind next = some payload
  rwa [firstFilled]

/--
What a block write did to the parcel: the block lies between the old cursor and
the new one, and nothing else has changed.
-/
structure BlockWritten (p : Parcel) (payload : List UInt8) (reached : Parcel) : Prop where
  bounded : reached.Bounded
  objects : reached.objects = p.objects
  advanced : reached.pos = p.pos + paddedLength payload.length
  layout : reached.buf = p.buf.take p.pos.toNat ++ block payload ++
    p.buf.drop (p.pos.toNat + paddedLength payload.length)

/--
A block written anywhere in a bounded parcel either fails with the parcel
unchanged, or stores what `fill` made of the old bytes.
-/
theorem writeBlock_spec (fills : Fills n fill) (bounded : p.Bounded) :
    (∃ reason, writeBlock n fill p = .error (.error reason) p) ∨
      ∃ window payload reached,
        writeBlock n fill p = .ok () reached ∧ fill window = some payload ∧
          window.length = n ∧ BlockWritten p payload reached := by
  rcases fills (p.window n) (length_window p n) with ⟨payload, filled, rfl⟩
  rcases le_or_gt (p.pos + paddedLength payload.length) maxInt with fits | tooLarge
  · refine .inr ⟨_, payload, _, writeBlock_inside bounded fits filled, filled,
      length_window p _, ?_⟩
    have cursorNonneg := bounded.nonneg
    have cursorInside := bounded.inside
    have held := bounded.held
    unfold len at cursorInside held
    refine ⟨?_, rfl, rfl, rfl⟩
    constructor <;> simp [len] <;> omega
  · exact .inl ⟨_, writeBlock_overflow bounded tooLarge⟩

/-! ## Safe operations -/

/--
From any bounded parcel the operation ends in a bounded parcel, whether it
succeeds or fails, and it does not panic.
-/
def Safe {α : Type} (op : ParcelM α) : Prop :=
  Action.Triple Bounded op (fun _ => Bounded) Bounded

namespace Safe

variable {α β : Type} {first : ParcelM α} {next : α → ParcelM β}

theorem bind (firstSafe : Safe first) (nextSafe : ∀ value, Safe (next value)) :
    Safe (first >>= next) :=
  Action.Triple.bind firstSafe nextSafe

theorem pure (value : α) : Safe (.pure value : ParcelM α) :=
  Action.Triple.pure value fun _ fits => fits

/-- A safe operation followed by a pure computation. -/
theorem map {compute : α → β} (firstSafe : Safe first) :
    Safe (do
      let value ← first
      return compute value) :=
  firstSafe.bind fun value => pure (compute value)

/-- A safe operation whose result is dropped. -/
theorem discard (firstSafe : Safe first) : Safe (first >>= fun _ => .pure ()) :=
  firstSafe.bind fun _ => pure ()

theorem fail (reason : BinderError) : Safe (.fail reason : ParcelM α) :=
  Action.Triple.fail reason fun _ fits => fits

theorem orPanic {result : Option α} (present : ∃ value, result = some value) :
    Safe (.orPanic result : ParcelM α) := by
  rcases present with ⟨value, rfl⟩
  exact pure value

theorem orPanic_bind
    {result : Option α} {value : α} (present : result = some value) (nextSafe : Safe (next value)) :
    Safe (.orPanic result >>= next) := by
  subst present
  exact nextSafe

theorem ofExcept (result : Except BinderError α) : Safe (.ofExcept result : ParcelM α) :=
  Action.Triple.ofExcept result (fun _ _ _ fits => fits) fun _ fits => fits

theorem get : Safe (.get : ParcelM Parcel) := by
  intro p fits
  exact fits

theorem position : Safe Parcel.position := by
  intro p fits
  exact fits

theorem setPosition (pos : Int) : Safe (Parcel.setPosition pos) := by
  intro p fits
  unfold Parcel.setPosition
  by_cases out : pos < 0 ∨ pos > p.len
  · rwa [if_pos out]
  · rw [if_neg out]
    exact ⟨by simp only; omega, by change pos ≤ p.len; omega, fits.held⟩

/-- Changing only the object table. -/
theorem modify_objects (change : List ParcelObjectRef → List ParcelObjectRef) :
    Safe (modify fun p => { p with objects := change p.objects } : ParcelM Unit) := by
  intro p fits
  exact ⟨fits.nonneg, fits.inside, fits.held⟩

theorem writeBlock (fills : Fills n fill) : Safe (Parcel.writeBlock n fill) := by
  intro p fits
  rcases writeBlock_spec fills fits with
    ⟨reason, failed⟩ | ⟨window, payload, reached, ran, -, -, written⟩
  · rwa [failed]
  · rw [ran]
    exact written.bounded

/--
A block read followed by a computation that is safe on every block of the
requested length.
-/
theorem readBlock_bind
    {n : Int} {next : List UInt8 → ParcelM β}
    (nextSafe : ∀ payload, (payload.length : Int) = n → Safe (next payload)) :
    Safe (readBlock n >>= next) := by
  intro p fits
  rcases readBlock_spec fits n with ⟨reason, failed⟩ | ⟨payload, reached, ran, read⟩
  · rwa [bind_error failed]
  · rw [bind_ok ran]
    exact nextSafe payload read.sized reached (read.bounded fits)

end Safe

/-- An operation that writes blocks and does nothing else. -/
inductive Blocks : ParcelM Unit → Prop where
  | write {n : Nat} {fill : List UInt8 → Option (List UInt8)}
      (fills : Fills n fill) : Blocks (writeBlock n fill)
  | fail (reason : BinderError) : Blocks (.fail reason)
  | bind {first second : ParcelM Unit} (firstBlocks : Blocks first)
      (secondBlocks : Blocks second) : Blocks (first >>= fun _ => second)

theorem Blocks.safe {op : ParcelM Unit} (blocks : Blocks op) : Safe op := by
  induction blocks with
  | write fills => exact Safe.writeBlock fills
  | fail reason => exact .fail reason
  | bind _ _ firstSafe secondSafe => exact firstSafe.bind fun _ => secondSafe

end Parcel

end Libbinder
