import Libbinder.Parcel.Slices

/-!
# Reads move forward

A successful read changes nothing of a parcel but its cursor, which moves
forward by at least the size of what was read and stays inside the buffer.
The rules follow the structure of the readers, as those of `Safe` do.
-/

namespace Libbinder

open Go

namespace Parcel

/-- The parcel with its cursor moved forward inside the buffer. -/
structure Moved (p : Parcel) (least : Nat) (q : Parcel) : Prop where
  same : q = { p with pos := q.pos }
  ahead : p.pos + least ≤ q.pos
  inside : q.pos ≤ p.len

namespace Moved

variable {p q r : Parcel} {first second : Nat}

theorem len_eq (moved : Moved p first q) : q.len = p.len := by
  rw [moved.same]
  rfl

theorem bounded (moved : Moved p first q) (bounded : p.Bounded) : q.Bounded := by
  have nonneg := bounded.nonneg
  have ahead := moved.ahead
  refine ⟨by omega, ?_, ?_⟩
  · rw [moved.len_eq]
    exact moved.inside
  · rw [moved.len_eq]
    exact bounded.held

theorem refl (fits : p.Bounded) : Moved p 0 p :=
  ⟨rfl, by simp, fits.inside⟩

theorem trans (left : Moved p first q) (right : Moved q second r) : Moved p (first + second) r := by
  have leftAhead := left.ahead
  have rightAhead := right.ahead
  have rightInside := right.inside
  rw [left.len_eq] at rightInside
  refine ⟨?_, by push_cast; omega, rightInside⟩
  rw [right.same, left.same]

theorem weaken (moved : Moved p first q) (le : second ≤ first) : Moved p second q :=
  ⟨moved.same, by have := moved.ahead; omega, moved.inside⟩

end Moved

/-- A read that, where it succeeds, moves the cursor at least this far. -/
def Forward {α : Type} (least : Nat) (op : ParcelM α) : Prop :=
  ∀ ⦃p : Parcel⦄, p.Bounded → ∀ ⦃value : α⦄ ⦃q : Parcel⦄, op p = .ok value q → Moved p least q

namespace Forward

variable {α β : Type} {first second : Nat} {op : ParcelM α} {next : α → ParcelM β}

theorem bind (opForward : Forward first op) (nextForward : ∀ value, Forward second (next value)) :
    Forward (first + second) (op >>= next) := by
  intro p fits value q ran
  obtain ⟨middle, between, opReturned, nextReturned⟩ := Action.of_bind_ok ran
  have left := opForward fits opReturned
  exact left.trans (nextForward middle (left.bounded fits) nextReturned)

/-- What follows a read may stay where it is. -/
theorem andThen (opForward : Forward first op) (nextForward : ∀ value, Forward 0 (next value)) :
    Forward first (op >>= next) :=
  opForward.bind nextForward

theorem weaken (forward : Forward first op) (le : second ≤ first) : Forward second op :=
  fun _ fits _ _ ran => (forward fits ran).weaken le

theorem pure (value : α) : Forward 0 (.pure value : ParcelM α) := by
  intro p fits result q ran
  cases ran
  exact .refl fits

theorem fail (reason : BinderError) : Forward first (.fail reason : ParcelM α) := by
  intro p _ result q ran
  cases ran

/-- An action that fails everywhere. -/
theorem stop (fault : Fault BinderError) : Forward first (fun p => .error fault p : ParcelM α) := by
  intro p _ result q ran
  cases ran

theorem ofExcept (result : Except BinderError α) : Forward 0 (.ofExcept result : ParcelM α) := by
  cases result with
  | ok value => exact pure value
  | error reason => exact fail reason

theorem orPanic (result : Option α) : Forward 0 (.orPanic result : ParcelM α) := by
  cases result with
  | some value => exact pure value
  | none =>
    intro p _ value q ran
    cases ran

theorem get : Forward 0 (.get : ParcelM Parcel) := by
  intro p fits result q ran
  cases ran
  exact .refl fits

theorem position : Forward 0 Parcel.position := by
  intro p fits result q ran
  cases ran
  exact .refl fits

theorem readBlock (n : Int) : Forward (paddedLength n.toNat) (readBlock n) := by
  intro p fits body q ran
  rcases readBlock_spec fits n with ⟨reason, failed⟩ | ⟨other, reached, read, spec⟩
  · rw [failed] at ran
    cases ran
  · rw [read] at ran
    cases ran
    have advanced := spec.advanced
    have inside := spec.inside
    rw [advanced]
    exact ⟨rfl, le_refl _, inside⟩

theorem readUint (width : Nat) : Forward (paddedLength width) (readUint width) :=
  (readBlock width).andThen fun _ => orPanic _

theorem readInt32 : Forward 4 readInt32 :=
  (readUint 4).andThen fun _ => pure _

theorem readInt64 : Forward 8 readInt64 :=
  (readUint 8).andThen fun _ => pure _

theorem readFloat32 : Forward 4 readFloat32 :=
  (readUint 4).andThen fun _ => pure _

theorem readFloat64 : Forward 8 readFloat64 :=
  (readUint 8).andThen fun _ => pure _

theorem readBool : Forward 4 readBool :=
  readInt32.andThen fun _ => pure _

theorem readBlock_zero (n : Int) : Forward 0 (Parcel.readBlock n) :=
  (readBlock n).weaken (Nat.zero_le _)

theorem readNullableString : Forward 4 readNullableString := by
  apply readInt32.andThen
  intro size
  split_ifs
  · exact pure _
  · exact fail _
  · apply (readBlock_zero _).andThen
    intro block
    apply (orPanic _).andThen
    intro terminator
    split_ifs
    · exact fail _
    · apply (orPanic _).andThen
      intro units
      apply (ofExcept _).andThen
      intro _
      exact pure _

theorem readString : Forward 4 readString := by
  apply readNullableString.andThen
  intro s
  cases s with
  | none => exact fail _
  | some s => exact pure _

theorem readBytes : Forward 4 readBytes := by
  apply readInt32.andThen
  intro size
  split_ifs
  · exact pure _
  · exact (readBlock_zero _).andThen fun _ => pure _

theorem readTableBinder (start : Int) (typ : UInt32) (block : List UInt8) :
    Forward 0 (readTableBinder start typ block) := by
  apply get.andThen
  intro p
  cases p.objectAt start with
  | none => exact fail _
  | some ref =>
    simp only []
    split_ifs
    · exact fail _
    all_goals
      apply (readInt32.weaken (Nat.zero_le 4)).andThen
      intro level
      apply (orPanic _).andThen
      intro cookie
      exact (orPanic _).andThen fun _ => pure _

theorem readStrongBinderObject : Forward 24 readStrongBinderObject := by
  have whole : Forward (0 + 24) Parcel.readStrongBinderObject := by
    apply position.bind
    intro start
    apply (readBlock flatObjectSize).andThen
    intro block
    apply (orPanic _).andThen
    intro typ
    apply (orPanic _).andThen
    intro isNull
    split_ifs
    · exact (readInt32.weaken (Nat.zero_le 4)).andThen fun _ => pure _
    · exact readTableBinder _ _ _
    · exact readTableBinder _ _ _
    · exact fail _
  exact whole.weaken (by simp)

theorem readStrongBinder {B : Type} (resolvers : Resolvers B) :
    Forward 24 (readStrongBinder resolvers) := by
  apply readStrongBinderObject.andThen
  rintro ⟨object, typ, cookie⟩
  simp only []
  split_ifs
  · exact pure _
  · exact ofExcept _
  · exact ofExcept _
  · exact fail _

/-- A loop of reads. -/
theorem readElems (forward : Forward first op) (count : Nat) :
    Forward (count * first) (readElems op count) := by
  induction count with
  | zero =>
    rw [Nat.zero_mul]
    exact pure _
  | succ count ih =>
    have whole : Forward (first + (count * first + 0)) (Libbinder.readElems op (count + 1)) :=
      forward.bind fun _ => ih.bind fun _ => pure _
    exact whole.weaken (by rw [Nat.succ_mul]; omega)

theorem readSlice (forward : Forward first op) : Forward 4 (readSlice op) := by
  apply readInt32.andThen
  intro size
  split_ifs
  · exact pure _
  · exact
      ((forward.readElems _).weaken (Nat.zero_le _)).andThen fun _ =>
        pure _

end Forward

/-- A word moves the cursor by exactly four bytes. -/
theorem pos_readInt32
    {p q : Parcel} {value : Int32} (fits : p.Bounded) (read : readInt32 p = .ok value q) :
    q.pos = p.pos + 4 := by
  obtain ⟨_, middle, uint, ran⟩ := Action.of_bind_ok read
  cases ran
  obtain ⟨block, reached, blockRead, decoded⟩ := Action.of_bind_ok uint
  rcases readBlock_spec fits 4 with ⟨reason, failed⟩ | ⟨body, other, ran, spec⟩
  · exact absurd (blockRead.symm.trans failed) nofun
  · have same := ran.symm.trans blockRead
    cases same
    have sized := spec.sized
    rw [getLE_eq_some] at decoded
    cases decoded
    rw [spec.advanced]
    rfl

end Parcel

end Libbinder
