import Libbinder.Kernel.Commands

/-!
# A thread at the driver

A thread does one `ioctl` after the other and keeps a log of them.  The mapped
memory, the contents of every read, the outcome of every write and the result
of every dispatched call are the environment of the model.

Writes are numbered within phases.  A thread opens a phase with every return
command it takes up, and one more when it turns to the reply of its own call,
so the environment can be described command by command.

A read returns well-formed commands.  `EINTR` is retried by `WriteRead`, and
the outcome is the one of the last try.
-/

namespace Libbinder.Kernel

open Go Action

/-! ## Mapped memory -/

/-- The part of the address space that holds the kernel buffers. -/
structure Mapping where
  base : Nat
  bytes : List UInt8
  bounded : base + bytes.length < 2 ^ 63

namespace Mapping

/-- `unsafe.Slice`; an access outside the mapping is a fault. -/
def slice (memory : Mapping) (address size : UInt64) : Option (List UInt8) :=
  if memory.base ≤ address.toNat ∧
      address.toNat + size.toNat ≤ memory.base + memory.bytes.length then
    some ((memory.bytes.drop (address.toNat - memory.base)).take size.toNat)
  else
    none

/-- The area is empty, has no address, or lies in the mapping. -/
def Covers (memory : Mapping) (address size : UInt64) : Prop :=
  size = 0 ∨ address = 0 ∨ (memory.slice address size).isSome

/-- The data and the offsets of a received record can be read. -/
def Maps (memory : Mapping) (tx : BinderTransactionData) : Prop :=
  memory.Covers tx.dataBuffer tx.dataSize ∧ memory.Covers tx.dataOffsets tx.offsetsSize

instance (memory : Mapping) (tx : BinderTransactionData) : Decidable (memory.Maps tx) :=
  inferInstanceAs (Decidable ((_ ∨ _ ∨ _) ∧ (_ ∨ _ ∨ _)))

theorem Covers.slice
    {memory : Mapping} {address size : UInt64} (covers : memory.Covers address size)
    (someBytes : size ≠ 0) (someAddress : address ≠ 0) : (memory.slice address size).isSome :=
  (covers.resolve_left someBytes).resolve_left someAddress

end Mapping

/--
The method `parseTransactionObjects` for a received record, with its payload
copied.  An absent result is a fault.
-/
def parseReceivedObjects (memory : Mapping) (payload : List UInt8)
    (tx : BinderTransactionData) : Option (Except GoError (List ParcelObject)) :=
  if tx.dataOffsets = 0 then
    some (.error (textError
      s!"kernel: transaction offsets pointer is nil for {tx.offsetsSize} bytes"))
  else if tx.offsetsSize % 8 ≠ 0 then
    some (.error (textError s!"kernel: invalid transaction offsets size {tx.offsetsSize}"))
  else
    (memory.slice tx.dataOffsets tx.offsetsSize).map fun offsets =>
      (parseObjectsFrom payload offsets (offsets.length / 8) 0).mapError textError

/--
The bytes and objects of a received record.  The conversions of its sizes to
`int` lose nothing for areas in the mapping, so their checks are left out.
-/
def copyTransactionPayload (memory : Mapping) (tx : BinderTransactionData) :
    Option (Except GoError (List UInt8 × List ParcelObject)) :=
  if tx.dataSize = 0 then
    some (.ok ([], []))
  else if tx.dataBuffer = 0 then
    some (.error (textError s!"kernel: transaction buffer pointer is nil for {tx.dataSize} bytes"))
  else
    match memory.slice tx.dataBuffer tx.dataSize with
    | none => none
    | some out =>
      if tx.offsetsSize = 0 then
        some (.ok (out, []))
      else
        (parseReceivedObjects memory out tx).map fun parsed =>
          parsed.map fun objects => (out, objects)

variable {tx : BinderTransactionData}

/-- Copying a record of the mapping does not fault. -/
theorem copyTransactionPayload_of_maps {memory : Mapping} (mapped : memory.Maps tx) :
    ∃ copied, copyTransactionPayload memory tx = some copied := by
  refine Option.isSome_iff_exists.mp ?_
  unfold copyTransactionPayload
  split
  · rfl
  · next someBytes =>
      split
      · rfl
      · next someAddress =>
          rcases Option.isSome_iff_exists.mp
            (mapped.1.slice someBytes someAddress) with ⟨out, sliced⟩
          rw [sliced]
          simp only
          split
          · rfl
          · next someOffsets =>
              rw [Option.isSome_map]
              unfold parseReceivedObjects
              split
              · rfl
              · next someObjects =>
                  split
                  · rfl
                  · rw [Option.isSome_map]
                    exact mapped.2.slice someOffsets someObjects

/-! ## Write commands -/

/-- The fields that the package sets in a record it sends. -/
structure OutgoingData where
  target : UInt64
  code : UInt32 := 0
  flags : UInt32
  payload : List UInt8
  offsets : List UInt64
deriving DecidableEq, Repr

/-- The commands that a thread writes. -/
inductive WriteCommand where
  | transaction (data : OutgoingData)
  | reply (data : OutgoingData)
  | freeBuffer (ptr : UInt64)
  | incRefs (handle : UInt32)
  | acquire (handle : UInt32)
  | release (handle : UInt32)
  | incRefsDone (ptr cookie : UInt64)
  | acquireDone (ptr cookie : UInt64)
  | deadBinderDone (cookie : UInt64)
deriving DecidableEq, Repr

namespace WriteCommand

/-- A code of the command protocol, of type `'c'`. -/
def bc (number size : UInt32) : UInt32 :=
  ioc 1 0x63 number size

/-- The `BC` constant of the command. -/
def cmd : WriteCommand → UInt32
  | .transaction _ => bc 0 64
  | .reply _ => bc 1 64
  | .freeBuffer _ => bc 3 8
  | .incRefs _ => bc 4 4
  | .acquire _ => bc 5 4
  | .release _ => bc 6 4
  | .incRefsDone _ _ => bc 8 16
  | .acquireDone _ _ => bc 9 16
  | .deadBinderDone _ => bc 16 8

/-- The bytes of the command with its code. -/
def size (command : WriteCommand) : Nat :=
  4 + iocSize command.cmd

end WriteCommand

/-- What the driver says to a write. -/
inductive WriteOutcome where
  | failed (reason : GoError)
  | whole
  | short (consumed : UInt64)

/-- The writer sees no error for a command of this size. -/
def WriteOutcome.accepts : WriteOutcome → Nat → Bool
  | .failed _, _ => false
  | .whole, _ => true
  | .short consumed, size => consumed.toNat = size

/-! ## The thread -/

/-- What the package has no influence on. -/
structure DriverEnv where
  memory : Mapping
  /-- What each read returns. -/
  reads : Nat → Except GoError (List RawCommand)
  /-- The outcome of each write of a phase. -/
  writes : Nat → Nat → WriteOutcome
  /-- What the handler of the call of a phase returns. -/
  handlers : Nat → Except GoError (Option Parcel)

/-- What a thread did. -/
inductive DriverEvent where
  | read (commands : List RawCommand)
  | took (command : ReturnCommand)
  | wrote (command : WriteCommand)
  | notifiedDead (cookie : UInt64)
  | notifiedCleared (cookie : UInt64)
  | dispatched (node : UInt64) (code flags : UInt32) (request : List UInt8)
      (objects : List ParcelObject)
deriving DecidableEq, Repr

/-- How far a thread is, and what it did. -/
structure BinderThread where
  reads : Nat := 0
  phase : Nat := 0
  writes : Nat := 0
  log : List DriverEvent := []
deriving DecidableEq, Repr

abbrev DriverM (α : Type) :=
  Action BinderThread GoError α

namespace BinderThread

def record (t : BinderThread) (event : DriverEvent) : BinderThread :=
  { t with log := t.log ++ [event] }

/-- The command is passed to `WriteCommand`. -/
def issue (t : BinderThread) (command : WriteCommand) : BinderThread :=
  { t with writes := t.writes + 1, log := t.log ++ [.wrote command] }

/-- The first write of the next phase comes next. -/
def nextPhase (t : BinderThread) : BinderThread :=
  { t with phase := t.phase + 1, writes := 0 }

/-- The read that comes next is over. -/
def fetched (t : BinderThread) (commands : List RawCommand) : BinderThread :=
  { t with reads := t.reads + 1, log := t.log ++ [.read commands] }

end BinderThread

open BinderThread

variable (env : DriverEnv)

/-- The common body of the methods that write one command. -/
def writeChecked (label : String) (command : WriteCommand) : DriverM Unit :=
  fun t =>
    match env.writes t.phase t.writes with
    | .failed reason => .error (.error reason) (t.issue command)
    | .whole => .ok () (t.issue command)
    | .short consumed =>
      if consumed.toNat = command.size then
        .ok () (t.issue command)
      else
        .error
          (.error (textError
            (s!"kernel: {label} consumed {consumed} bytes, want " ++ toString command.size)))
          (t.issue command)

def freeBuffer (ptr : UInt64) : DriverM Unit :=
  writeChecked env "BC_FREE_BUFFER" (.freeBuffer ptr)

def writeHandleCommand (command : WriteCommand) : DriverM Unit :=
  writeChecked env ("handle command " ++ Parcel.hexText command.cmd.toNat) command

def acquireHandle (handle : UInt32) : DriverM Unit := do
  writeHandleCommand env (.incRefs handle)
  writeHandleCommand env (.acquire handle)

def writePtrCookieCommand (command : WriteCommand) : DriverM Unit :=
  writeChecked env ("ptr/cookie command " ++ Parcel.hexText command.cmd.toNat) command

def writeCookieCommand (command : WriteCommand) : DriverM Unit :=
  writeChecked env ("cookie command " ++ Parcel.hexText command.cmd.toNat) command

def deadBinderDone (cookie : UInt64) : DriverM Unit :=
  writeCookieCommand env (.deadBinderDone cookie)

def acquireParcelObjects : List ParcelObject → DriverM Unit
  | [] => pure ()
  | object :: rest =>
    if object.kind = .strongBinder then do
      acquireHandle env object.handle
      acquireParcelObjects rest
    else
      acquireParcelObjects rest

/-- The method `Read` on the buffer of the thread. -/
def driverRead : DriverM (List UInt8) :=
  fun t =>
    match env.reads t.reads with
    | .error reason => .error (.error reason) { t with reads := t.reads + 1 }
    | .ok commands => .ok (RawCommand.stream commands) (t.fetched commands)

/-- `WriteCommand` of a transaction, which reads in the same call. -/
def writeTransaction (data : OutgoingData) : DriverM (List UInt8) := do
  modify fun t => t.issue (.transaction data)
  driverRead env

/--
The result of `dispatchLocalTransaction`: an error for an unknown node, or what
the handler returned.
-/
def dispatchLocalTransaction (tx : BinderTransactionData)
    (request : List UInt8) (objects : List ParcelObject) :
    DriverM (Except GoError (Option Parcel)) :=
  fun t =>
    .ok (env.handlers t.phase) (t.record (.dispatched tx.cookie tx.code tx.flags request objects))

/-- The loop takes up a command. -/
def takeUp (command : ReturnCommand) : DriverM Unit :=
  modify fun t => t.nextPhase.record (.took command)

/-! ## Single writes -/

variable {env} {command : WriteCommand}

theorem writeChecked_ok
    {t : BinderThread} {label : String}
    (taken : (env.writes t.phase t.writes).accepts command.size) :
    writeChecked env label command t = .ok () (t.issue command) := by
  unfold writeChecked
  cases outcome : env.writes t.phase t.writes with
  | failed reason =>
    rw [outcome] at taken
    cases taken
  | whole => rfl
  | short consumed =>
    rw [outcome] at taken
    simp only
    rw [if_pos (of_decide_eq_true taken)]

theorem writeChecked_error
    {t : BinderThread} (label : String)
    (refused : ¬ (env.writes t.phase t.writes).accepts command.size) :
    ∃ reason, writeChecked env label command t = .error (.error reason) (t.issue command) := by
  unfold writeChecked
  cases outcome : env.writes t.phase t.writes with
  | failed reason => exact ⟨reason, rfl⟩
  | whole =>
    rw [outcome] at refused
    exact absurd rfl refused
  | short consumed =>
    rw [outcome] at refused
    simp only
    rw [if_neg fun equal => refused (decide_eq_true equal)]
    exact ⟨_, rfl⟩

/-- A write is logged whatever the driver says to it. -/
theorem reached_writeChecked (t : BinderThread) (label : String) (command : WriteCommand) :
    (writeChecked env label command).reached t = t.issue command := by
  by_cases taken : (env.writes t.phase t.writes).accepts command.size
  · exact reached_of_ok (writeChecked_ok taken)
  · rcases writeChecked_error label taken with ⟨_, failed⟩
    exact reached_of_error failed

/-! ## Writes in a row -/

namespace BinderThread

/-- The thread has passed several commands to `WriteCommand`. -/
def issueAll (t : BinderThread) (commands : List WriteCommand) : BinderThread :=
  { t with
    writes := t.writes + commands.length
    log := t.log ++ commands.map .wrote }

variable (t : BinderThread)

@[simp]
theorem issueAll_nil : t.issueAll [] = t := by
  simp [issueAll]

theorem issueAll_cons (command : WriteCommand) (rest : List WriteCommand) :
    t.issueAll (command :: rest) = (t.issue command).issueAll rest := by
  simp [issueAll, issue, Nat.add_comm, Nat.add_left_comm]

theorem issueAll_singleton (command : WriteCommand) : t.issueAll [command] = t.issue command := by
  rw [issueAll_cons, issueAll_nil]

end BinderThread

/-- The outcomes from a position on accept all the commands. -/
def acceptedAll (outcomes : Nat → WriteOutcome) : Nat → List WriteCommand → Bool
  | _, [] => true
  | position, command :: rest =>
    (outcomes position).accepts command.size && acceptedAll outcomes (position + 1) rest

/-- The commands up to the first one that is not accepted. -/
def upToRefused (outcomes : Nat → WriteOutcome) : Nat → List WriteCommand → List WriteCommand
  | _, [] => []
  | position, command :: rest =>
    if (outcomes position).accepts command.size then
      command :: upToRefused outcomes (position + 1) rest
    else
      [command]

/-- The commands of `acquireParcelObjects`. -/
def acquisitions (objects : List ParcelObject) : List WriteCommand :=
  objects.flatMap fun object =>
    if object.kind = .strongBinder then
      [.incRefs object.handle, .acquire object.handle]
    else
      []

theorem upToRefused_of_acceptedAll
    {outcomes : Nat → WriteOutcome} {start : Nat} {commands : List WriteCommand}
    (taken : acceptedAll outcomes start commands) :
    upToRefused outcomes start commands = commands := by
  induction commands generalizing start with
  | nil => rfl
  | cons command rest ih =>
    rw [acceptedAll, Bool.and_eq_true] at taken
    rw [upToRefused, if_pos taken.1, ih taken.2]

theorem upToRefused_subset
    (outcomes : Nat → WriteOutcome) (start : Nat) (commands : List WriteCommand) :
    upToRefused outcomes start commands ⊆ commands := by
  induction commands generalizing start with
  | nil => exact .refl _
  | cons command rest ih =>
    rw [upToRefused]
    split
    · exact List.cons_subset_cons command (ih (start + 1))
    · exact List.cons_subset_cons command (List.nil_subset rest)

/--
Writing commands in a row: those up to the first refused one are issued, and
the row ends with an error exactly if there is a refused one.
-/
structure WritesRow (env : DriverEnv) (action : DriverM Unit)
    (commands : List WriteCommand) : Prop where
  accepted : ∀ t : BinderThread,
    acceptedAll (env.writes t.phase) t.writes commands → action t = .ok () (t.issueAll commands)
  refused : ∀ t : BinderThread,
    ¬ acceptedAll (env.writes t.phase) t.writes commands →
      ∃ reason, action t =
        .error (.error reason) (t.issueAll (upToRefused (env.writes t.phase) t.writes commands))

namespace WritesRow

theorem none : WritesRow env (pure ()) [] where
  accepted t _ := by
    rw [issueAll_nil]
    rfl
  refused _ refused := absurd rfl refused

variable {commands : List WriteCommand}

/-- One checked write in front of a row. -/
theorem cons
    {rest : DriverM Unit} (row : WritesRow env rest commands) (label : String)
    (command : WriteCommand) :
    WritesRow env (writeChecked env label command >>= fun _ => rest) (command :: commands) where
  accepted t accepted := by
    rw [acceptedAll, Bool.and_eq_true] at accepted
    rw [bind_ok (writeChecked_ok accepted.1), issueAll_cons]
    exact row.accepted (t.issue command) accepted.2
  refused t refused := by
    rw [acceptedAll, Bool.and_eq_true] at refused
    rw [upToRefused]
    by_cases first : (env.writes t.phase t.writes).accepts command.size
    · rw [if_pos first, bind_ok (writeChecked_ok first), issueAll_cons]
      exact row.refused (t.issue command) fun rest => refused ⟨first, rest⟩
    · rcases writeChecked_error label first with ⟨reason, failed⟩
      rw [if_neg first, bind_error failed, issueAll_singleton]
      exact ⟨reason, rfl⟩

/-- Whether it is refused or not, a row leaves the issued commands behind. -/
theorem attempt {action : DriverM Unit} (row : WritesRow env action commands) (t : BinderThread) :
    ∃ result, action.attempt t =
        .ok result (t.issueAll (upToRefused (env.writes t.phase) t.writes commands)) ∧
      result.isOk = acceptedAll (env.writes t.phase) t.writes commands := by
  by_cases taken : acceptedAll (env.writes t.phase) t.writes commands
  · rw [upToRefused_of_acceptedAll taken, taken, attempt_of_ok (row.accepted t taken)]
    exact ⟨.ok (), rfl, rfl⟩
  · rcases row.refused t taken with ⟨reason, failed⟩
    rw [attempt_of_error failed, Bool.eq_false_iff.mpr taken]
    exact ⟨.error reason, rfl, rfl⟩

end WritesRow

theorem acquireParcelObjects_row (objects : List ParcelObject) :
    WritesRow env (acquireParcelObjects env objects) (acquisitions objects) := by
  induction objects with
  | nil => exact .none
  | cons object rest ih =>
    unfold acquireParcelObjects acquisitions
    rw [List.flatMap_cons]
    split
    · rw [acquireHandle, bind_assoc]
      exact (ih.cons _ _).cons _ _
    · exact ih

end Libbinder.Kernel
