import Libbinder.Parcel.Objects

/-!
# Operations on hostile parcels

A parcel received from a peer holds arbitrary bytes and an arbitrary object
table.  This file runs arbitrary sequences of operations on it and shows that
none of them panics and that the cursor stays inside the buffer.
-/

namespace Libbinder

open Go

/-- The bytes of a Go slice: there are at most `maxInt` of them. -/
abbrev Buffer :=
  { bytes : List UInt8 // (bytes.length : Int) ≤ maxInt }

/-- One call of a method of a parcel. -/
inductive ParcelOp where
  | writeInt32 (v : Int32)
  | writeUint32 (v : UInt32)
  | writeInt64 (v : Int64)
  | writeUint64 (v : UInt64)
  | writeBool (v : Bool)
  | writeByte (v : Int8)
  | writeChar (v : UInt16)
  | writeFloat32 (v : UInt32)
  | writeFloat64 (v : UInt64)
  | writeNullableString (v : Option GoString)
  | writeNullableString8 (v : Option GoString)
  | writeBytes (b : Option (List UInt8))
  | writeRawBytes (b : Option (List UInt8))
  | writeInterfaceToken (descriptor : GoString)
  | writeStrongBinderLocal (ptr cookie : UInt64) (stability : Int32)
  | writeStrongBinderHandle (handle : UInt32) (stability : Int32)
  | writeNullStrongBinder
  | writeFileDescriptor (fd : FileDescriptor)
  | writeParcelFileDescriptor (fd : FileDescriptor)
  | readInt32
  | readUint32
  | readInt64
  | readUint64
  | readBool
  | readByte
  | readChar
  | readFloat32
  | readFloat64
  | readString
  | readNullableString
  | readString8
  | readNullableString8
  | readBytes
  | readRawBytes (n : Int)
  | readInterfaceToken
  | readObject
  | readStrongBinderHandle
  | readStrongBinder
  | readFileDescriptor
  | readParcelFileDescriptor
  | setPosition (pos : Int)

namespace ParcelOp

variable {B : Type}
  (resolvers : Resolvers B) (write : Int → Except String Int)

/-- The effect of the call on the parcel; its result is dropped. -/
def exec : ParcelOp → ParcelM Unit
  | writeInt32 v => Parcel.writeInt32 v
  | writeUint32 v => Parcel.writeUint32 v
  | writeInt64 v => Parcel.writeInt64 v
  | writeUint64 v => Parcel.writeUint64 v
  | writeBool v => Parcel.writeBool v
  | writeByte v => Parcel.writeByte v
  | writeChar v => Parcel.writeChar v
  | writeFloat32 v => Parcel.writeFloat32 v
  | writeFloat64 v => Parcel.writeFloat64 v
  | writeNullableString v => Parcel.writeNullableString v
  | writeNullableString8 v => Parcel.writeNullableString8 v
  | writeBytes b => Parcel.writeBytes b
  | writeRawBytes b => Parcel.writeRawBytes b
  | writeInterfaceToken descriptor => Parcel.writeInterfaceToken descriptor
  | writeStrongBinderLocal ptr cookie stability =>
    Parcel.writeStrongBinderLocalWithStability ptr cookie stability
  | writeStrongBinderHandle handle stability =>
    Parcel.writeStrongBinderHandleWithStability handle stability
  | writeNullStrongBinder => Parcel.writeNullStrongBinder
  | writeFileDescriptor fd => Parcel.writeFileDescriptor fd
  | writeParcelFileDescriptor fd => Parcel.writeParcelFileDescriptor fd
  | readInt32 => Parcel.readInt32 >>= fun _ => pure ()
  | readUint32 => Parcel.readUint32 >>= fun _ => pure ()
  | readInt64 => Parcel.readInt64 >>= fun _ => pure ()
  | readUint64 => Parcel.readUint64 >>= fun _ => pure ()
  | readBool => Parcel.readBool >>= fun _ => pure ()
  | readByte => Parcel.readByte >>= fun _ => pure ()
  | readChar => Parcel.readChar >>= fun _ => pure ()
  | readFloat32 => Parcel.readFloat32 >>= fun _ => pure ()
  | readFloat64 => Parcel.readFloat64 >>= fun _ => pure ()
  | readString => Parcel.readString >>= fun _ => pure ()
  | readNullableString => Parcel.readNullableString >>= fun _ => pure ()
  | readString8 => Parcel.readString8 >>= fun _ => pure ()
  | readNullableString8 => Parcel.readNullableString8 >>= fun _ => pure ()
  | readBytes => Parcel.readBytes >>= fun _ => pure ()
  | readRawBytes n => Parcel.readRawBytes n >>= fun _ => pure ()
  | readInterfaceToken => Parcel.readInterfaceToken >>= fun _ => pure ()
  | readObject => Parcel.readObject >>= fun _ => pure ()
  | readStrongBinderHandle => Parcel.readStrongBinderHandle >>= fun _ => pure ()
  | readStrongBinder => Parcel.readStrongBinder resolvers >>= fun _ => pure ()
  | readFileDescriptor => Parcel.readFileDescriptor >>= fun _ => pure ()
  | readParcelFileDescriptor => Parcel.readParcelFileDescriptor write >>= fun _ => pure ()
  | setPosition pos => Parcel.setPosition pos

/-- The parcel after a call, whether it failed or not; absent on a panic. -/
def step (p : Parcel) (op : ParcelOp) : Option Parcel :=
  match exec resolvers write op p with
  | .ok _ reached => some reached
  | .error (.error _) reached => some reached
  | .error .panic _ => none

/-- The parcel after a sequence of calls. -/
def run (p : Parcel) (ops : List ParcelOp) : Option Parcel :=
  ops.foldlM (step resolvers write) p

/-- A call that writes blocks and records no object. -/
def isPlain : ParcelOp → Bool
  | writeInt32 _ | writeUint32 _ | writeInt64 _ | writeUint64 _ | writeBool _
  | writeByte _ | writeChar _ | writeFloat32 _ | writeFloat64 _
  | writeNullableString _ | writeNullableString8 _ | writeBytes _
  | writeRawBytes _ | writeInterfaceToken _ | writeNullStrongBinder => true
  | _ => false

open Parcel in
theorem exec_blocks {op : ParcelOp} (plain : op.isPlain) : Blocks (exec resolvers write op) := by
  cases op with
  | writeInt32 v => exact .writeInt32 v
  | writeUint32 | writeFloat32 => exact .writeUint 4 _
  | writeInt64 | writeUint64 | writeFloat64 => exact .writeUint 8 _
  | writeBool v =>
    cases v with
    | false => exact .writeInt32 0
    | true => exact .writeInt32 1
  | writeByte v => exact .writeUint 1 _
  | writeChar v => exact .writeUint 2 _
  | writeNullableString v => exact .writeNullableString v
  | writeNullableString8 v => exact .writeNullableString8 v
  | writeBytes b => exact .writeBytes b
  | writeRawBytes b => exact .writeRawBytes b
  | writeInterfaceToken desc => exact .writeInterfaceToken desc
  | writeNullStrongBinder => exact .writeNullStrongBinder
  | _ => cases plain

open Parcel in
/-- Every operation is safe. -/
theorem exec_safe (op : ParcelOp) : Safe (exec resolvers write op) := by
  cases op with
  | writeStrongBinderLocal ptr cookie stability =>
    exact .writeStrongBinderLocalWithStability ptr cookie stability
  | writeStrongBinderHandle handle stability =>
    exact .writeStrongBinderHandleWithStability handle stability
  | writeFileDescriptor fd => exact .writeFileDescriptor fd
  | writeParcelFileDescriptor fd =>
    exact (Blocks.writeInt32 0).safe.bind fun _ => .writeFileDescriptor fd
  | readInt32 => exact Safe.readInt32.discard
  | readUint32 => exact Safe.readUint32.discard
  | readInt64 | readUint64 | readFloat64 => exact (Safe.readUint 8).map.discard
  | readBool => exact Safe.readInt32.map.discard
  | readByte => exact (Safe.readUint 1).map.discard
  | readChar => exact (Safe.readUint 2).map.discard
  | readFloat32 => exact (Safe.readUint 4).map.discard
  | readString => exact Safe.readString.discard
  | readNullableString => exact Safe.readNullableString.discard
  | readString8 => exact Safe.readString8.discard
  | readNullableString8 => exact Safe.readNullableString8.discard
  | readBytes => exact Safe.readBytes.discard
  | readRawBytes n => exact (Safe.readRawBytes n).discard
  | readInterfaceToken => exact Safe.readInterfaceToken.discard
  | readObject => exact Safe.readObject.discard
  | readStrongBinderHandle => exact Safe.readStrongBinderHandle.discard
  | readStrongBinder => exact (Safe.readStrongBinder resolvers).discard
  | readFileDescriptor => exact Safe.readFileDescriptor.discard
  | readParcelFileDescriptor => exact (Safe.readParcelFileDescriptor write).discard
  | setPosition pos => exact .setPosition pos
  | _ => exact (exec_blocks resolvers write rfl).safe

/-- One call keeps a parcel bounded and does not panic. -/
theorem step_bounded {p : Parcel} (fits : p.Bounded) (op : ParcelOp) :
    ∃ reached, step resolvers write p op = some reached ∧ reached.Bounded := by
  have safe := exec_safe resolvers write op p fits
  unfold step
  cases result : exec resolvers write op p with
  | ok value reached =>
    rw [result] at safe
    exact ⟨reached, rfl, safe⟩
  | error fault reached =>
    rw [result] at safe
    cases fault with
    | error reason => exact ⟨reached, rfl, safe⟩
    | panic => exact safe.elim

/-- A sequence of calls keeps a parcel bounded and does not panic. -/
theorem run_bounded {p : Parcel} (fits : p.Bounded) (ops : List ParcelOp) :
    ∃ reached, run resolvers write p ops = some reached ∧ reached.Bounded := by
  induction ops generalizing p with
  | nil => exact ⟨p, rfl, fits⟩
  | cons op rest ih =>
    rcases step_bounded resolvers write fits op with ⟨next, moved, nextBounded⟩
    rcases ih nextBounded with ⟨reached, ran, reachedBounded⟩
    refine ⟨reached, ?_, reachedBounded⟩
    unfold run at ran ⊢
    rwa [List.foldlM_cons, moved]

end ParcelOp

namespace Parcel

theorem newWire_bounded (buffer : Buffer) (objects : List ParcelObject) :
    (newWire buffer.val objects).Bounded := by
  refine ⟨le_refl _, ?_, buffer.property⟩
  exact Int.natCast_nonneg _

/--
Whatever bytes and object table a parcel was built from, and whatever calls
were made on it: no call panicked, the cursor is inside the buffer, and the
next block read either fails with the parcel unchanged or returns a block of
the requested length and moves the cursor forward by its padded size.
-/
theorem hostile_parcel_discipline
    {B : Type} (resolvers : Resolvers B) (write : Int → Except String Int)
    (buffer : Buffer) (objects : List ParcelObject) (ops : List ParcelOp) :
    ∃ p,
      ParcelOp.run resolvers write (newWire buffer.val objects) ops = some p ∧
        0 ≤ p.pos ∧ p.pos ≤ p.len ∧
        ∀ n : Int,
          (∃ reason, readBlock n p = .error (.error reason) p) ∨
            ∃ payload,
              0 ≤ n ∧ (payload.length : Int) = n ∧
                readBlock n p = .ok payload { p with pos := p.pos + paddedLength n.toNat } := by
  rcases ParcelOp.run_bounded resolvers write (newWire_bounded buffer objects) ops with
    ⟨p, ran, bounded⟩
  refine ⟨p, ran, bounded.nonneg, bounded.inside, ?_⟩
  intro n
  rcases readBlock_spec bounded n with failed | ⟨payload, reached, returned, read⟩
  · exact .inl failed
  · refine .inr ⟨payload, read.nonneg, read.sized, ?_⟩
    rw [returned, read.advanced]

end Parcel

end Libbinder
