import Libbinder.Parcel.Objects

/-!
# The dump transaction

`DispatchLocalHandler` on a dump request: a descriptor, a count and as many
arguments are read, and the `Dump` method of the handler, if there is one, gets
the number of the descriptor.  A descriptor that came over the wire is owned by
whoever reads it.  The only one on this way that may close it is `Dump`.
-/

namespace Libbinder

open Go List Parcel

/-- `Dump`: the descriptors it closes, and its error. -/
abbrev Dumper :=
  Int → List GoString → List Int × Option BinderError

def readArgs : Nat → ParcelM (List GoString)
  | 0 => return []
  | count + 1 => do
    let arg ← readString
    let args ← readArgs count
    return arg :: args

def readDumpRequest : ParcelM (FileDescriptor × List GoString) := do
  let fd ← readFileDescriptor
  let count ← readInt32
  if count < 0 then
    Action.fail (.badParcelable s!"invalid dump arg count {count.toInt}")
  else
    let args ← readArgs count.toInt.toNat
    return (fd, args)

/-- The reply to a dump request, and the descriptors that were closed. -/
def dispatchDump (dumper : Option Dumper) (data : Parcel) :
    Except (Fault BinderError) Parcel × List Int :=
  match readDumpRequest data with
  | .error fault _ => (.error fault, [])
  | .ok (fd, args) _ =>
    match dumper with
    | none => (.ok .new, [])
    | some dump =>
      match dump fd.fd args with
      | (closed, some err) => (.error (.error err), closed)
      | (closed, none) => (.ok .new, closed)

/-- The descriptor that is decoded from a request. -/
def decodedDescriptor (data : Parcel) : Option FileDescriptor :=
  match readFileDescriptor data with
  | .ok fd _ => some fd
  | .error _ _ => none

/-- An owned descriptor was closed once, and a borrowed one is still open. -/
def DescriptorSettled (dumper : Option Dumper) (data : Parcel) (fd : FileDescriptor) : Prop :=
  (dispatchDump dumper data).2.count fd.fd = if fd.owned then 1 else 0

theorem decoded_of_readDumpRequest
    {data reached : Parcel} {fd : FileDescriptor} {args : List GoString}
    (request : readDumpRequest data = .ok (fd, args) reached) :
    decodedDescriptor data = some fd := by
  rcases Action.of_bind_ok request with ⟨first, after, read, counted⟩
  rcases Action.of_bind_ok counted with ⟨count, _, -, rest⟩
  split_ifs at rest
  · cases rest
  · rcases Action.of_bind_ok rest with ⟨_, _, -, last⟩
    cases last
    rw [decodedDescriptor, read]

/--
The descriptor of a dump request is settled exactly if `Dump` is called and
closes it itself, once, or if it is borrowed and `Dump` leaves it alone.
-/
theorem dump_descriptors_settled_iff (dumper : Option Dumper) (data : Parcel) :
    (∀ fd ∈ decodedDescriptor data, DescriptorSettled dumper data fd) ↔
      ∀ fd ∈ decodedDescriptor data,
        (fd.owned → ∃ dump args reached, dumper = some dump ∧
          readDumpRequest data = .ok (fd, args) reached ∧ (dump fd.fd args).1.count fd.fd = 1) ∧
        (fd.owned = false → ∀ dump args reached, dumper = some dump →
          readDumpRequest data = .ok (fd, args) reached → fd.fd ∉ (dump fd.fd args).1) := by
  refine forall₂_congr fun fd found => ?_
  rw [DescriptorSettled, dispatchDump]
  cases request : readDumpRequest data with
  | error fault reached => cases fd.owned <;> simp
  | ok result reached =>
    rcases result with ⟨first, args⟩
    cases (decoded_of_readDumpRequest request).symm.trans found
    cases dumper with
    | none => cases fd.owned <;> simp
    | some dump =>
      have closes : (match dump fd.fd args with
          | (closed, some err) =>
            ((.error (.error err), closed) : Except (Fault BinderError) Parcel × List Int)
          | (closed, none) => (.ok .new, closed)).2 = (dump fd.fd args).1 := by
        rcases dump fd.fd args with ⟨closed, - | err⟩ <;> rfl
      simp only [closes]
      cases fd.owned <;> simp [count_eq_zero]

/-- A request over the wire with descriptor 5 and no arguments. -/
def dumpRequest : Parcel :=
  .newWire (flatObject flatTypeFD.toNat 0 5 0 ++ leBytes 4 0) [⟨.fileDescriptor, 0, 24, 5, 0⟩]

theorem dump_descriptor_leaked :
    decodedDescriptor dumpRequest = some ⟨5, true⟩ ∧
      (dispatchDump none dumpRequest).1.isOk ∧ (dispatchDump none dumpRequest).2 = [] := by
  decide +kernel

end Libbinder
