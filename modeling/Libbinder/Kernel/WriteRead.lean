import Libbinder.Go.Bytes

/-!
# Interrupted system calls

`WriteRead` repeats the `ioctl` as long as it is interrupted, each time with
the same `BinderWriteRead`.  The driver goes on where the counters of that
record stand: it takes further bytes of the write buffer, puts bytes behind
those it has already delivered, and counts both.

What an `ioctl` does within these rules and how many of them are interrupted is
up to the driver.  The manager may be closed by somebody else between two of
them.  The exchange logs the positions that the driver took and the bytes that
it delivered.
-/

namespace Libbinder.Kernel

open Go List

/-- `struct binder_write_read`; the sizes are those of the buffers. -/
structure BinderWriteRead where
  writeBuffer : List UInt8
  writeConsumed : Nat
  readBuffer : List UInt8
  readConsumed : Nat
  written : writeConsumed ≤ writeBuffer.length
  filled : readConsumed ≤ readBuffer.length

/-- The error numbers of a system call. -/
inductive Errno where
  | eintr
  | other (code : Nat)
  deriving DecidableEq, Repr

/--
What the driver does in one `ioctl`.  It reads only once everything is written,
and it succeeds only then.
-/
structure Pass (bwr : BinderWriteRead) where
  takes : Nat
  delivers : List UInt8
  errno : Option Errno
  writeBound : bwr.writeConsumed + takes ≤ bwr.writeBuffer.length
  readBound : bwr.readConsumed + delivers.length ≤ bwr.readBuffer.length
  readsLast : delivers ≠ [] → bwr.writeConsumed + takes = bwr.writeBuffer.length
  completes : errno = none → bwr.writeConsumed + takes = bwr.writeBuffer.length

/-- The driver updates the record. -/
def BinderWriteRead.after (bwr : BinderWriteRead) (pass : Pass bwr) : BinderWriteRead where
  writeBuffer := bwr.writeBuffer
  writeConsumed := bwr.writeConsumed + pass.takes
  readBuffer := bwr.readBuffer.take bwr.readConsumed ++ pass.delivers ++
    bwr.readBuffer.drop (bwr.readConsumed + pass.delivers.length)
  readConsumed := bwr.readConsumed + pass.delivers.length
  written := pass.writeBound
  filled := by
    have bound := pass.readBound
    simp only [length_append, length_take, length_drop]
    omega

/-- The manager at each look at it: whether it is open, and its driver. -/
structure DriverManager where
  opened : Nat → Bool
  driver : Nat → (bwr : BinderWriteRead) → Pass bwr

/-- The errors of the calls of the manager. -/
inductive DriverError where
  | driverClosed
  | emptyReadBuffer
  | errno (reason : Errno)
  deriving DecidableEq, Repr

/-- A record on its way through `ioctl` after `ioctl`. -/
structure Exchange where
  bwr : BinderWriteRead
  calls : Nat
  taken : List Nat
  delivered : List UInt8

namespace Exchange

/-- An exchange that has not begun. -/
def start (writeBuffer readBuffer : List UInt8) : Exchange where
  bwr := ⟨writeBuffer, 0, readBuffer, 0, Nat.zero_le _, Nat.zero_le _⟩
  calls := 0
  taken := []
  delivered := []

/-- The exchange after one pass of the driver. -/
def after (e : Exchange) (pass : Pass e.bwr) : Exchange where
  bwr := e.bwr.after pass
  calls := e.calls + 1
  taken := e.taken ++ List.range' e.bwr.writeConsumed pass.takes
  delivered := e.delivered ++ pass.delivers

end Exchange

namespace DriverManager

/-- `Ioctl`. -/
def ioctl (d : DriverManager) (e : Exchange) : Option DriverError × Exchange :=
  if d.opened (e.calls + 1) then
    let pass := d.driver e.calls e.bwr
    (pass.errno.map .errno, e.after pass)
  else
    (some .driverClosed, e)

/-- `WriteRead`, with at most a number of calls of `Ioctl`. -/
def writeRead (d : DriverManager) : Nat → Exchange → Option (Option DriverError × Exchange)
  | 0, _ => none
  | limit + 1, e =>
    if (d.ioctl e).1 = some (.errno .eintr) then d.writeRead limit (d.ioctl e).2
    else some (d.ioctl e)

/-- The bytes of a command. -/
def commandBytes (cmd : UInt32) (payload : List UInt8) : List UInt8 :=
  leBytes 4 cmd.toNat ++ payload

/-- `WriteCommand`; without a read buffer it only writes. -/
def writeCommand (d : DriverManager) (limit : Nat) (cmd : UInt32)
    (payload readBuf : List UInt8) : Option (Option DriverError × Exchange) :=
  if d.opened 0 then d.writeRead limit (.start (commandBytes cmd payload) readBuf)
  else some (some .driverClosed, .start [] [])

/-- `Read`. -/
def read (d : DriverManager) (limit : Nat) (readBuf : List UInt8) :
    Option (Option DriverError × Exchange) :=
  if ¬ d.opened 0 then some (some .driverClosed, .start [] [])
  else if readBuf.length = 0 then some (some .emptyReadBuffer, .start [] [])
  else d.writeRead limit (.start [] readBuf)

/-- The exchange after a number of calls of `Ioctl`. -/
def afterCalls (d : DriverManager) (e : Exchange) : Nat → Exchange
  | 0 => e
  | count + 1 => d.afterCalls (d.ioctl e).2 count

/-- So many calls are interrupted, and the next one is not. -/
def Interrupted (d : DriverManager) (e : Exchange) (count : Nat) : Prop :=
  (∀ earlier < count, (d.ioctl (d.afterCalls e earlier)).1 = some (.errno .eintr)) ∧
    (d.ioctl (d.afterCalls e count)).1 ≠ some (.errno .eintr)

end DriverManager

open DriverManager

/--
The driver took a first part of the write buffer, byte after byte, and the read
buffer starts with all it delivered.
-/
structure Exchange.Sound (e : Exchange) (writeBuffer : List UInt8) : Prop where
  sameBuffer : e.bwr.writeBuffer = writeBuffer
  taken : e.taken = List.range e.bwr.writeConsumed
  delivered : e.bwr.readBuffer.take e.bwr.readConsumed = e.delivered

variable {d : DriverManager} {e : Exchange} {writeBuffer : List UInt8} {count : Nat}

section

variable (sound : e.Sound writeBuffer)

include sound

theorem Exchange.Sound.after (pass : Pass e.bwr) : (e.after pass).Sound writeBuffer where
  sameBuffer := sound.sameBuffer
  taken := by
    change e.taken ++ _ = .range (e.bwr.writeConsumed + pass.takes)
    rw [sound.taken, range_eq_range', range_eq_range', ← List.range'_append_1, Nat.zero_add]
  delivered := by
    have size : (e.bwr.readBuffer.take e.bwr.readConsumed).length = e.bwr.readConsumed :=
      length_take_of_le e.bwr.filled
    change List.take _ (_ ++ pass.delivers ++ _) = e.delivered ++ pass.delivers
    rw [← sound.delivered, take_left']
    rw [length_append, size]
    rfl

theorem Exchange.Sound.ioctl : (d.ioctl e).2.Sound writeBuffer := by
  unfold DriverManager.ioctl
  split_ifs
  · exact sound.after _
  · exact sound

theorem Exchange.Sound.afterCalls (count : Nat) : (d.afterCalls e count).Sound writeBuffer := by
  induction count generalizing e with
  | zero => exact sound
  | succ count ih => exact ih sound.ioctl

end

/-- An `ioctl` that succeeds has written everything. -/
theorem writeConsumed_of_ioctl (succeeds : (d.ioctl e).1 = none) :
    (d.ioctl e).2.bwr.writeConsumed = e.bwr.writeBuffer.length := by
  unfold ioctl at succeeds ⊢
  split_ifs at succeeds ⊢
  exact (d.driver e.calls e.bwr).completes (Option.map_eq_none_iff.mp succeeds)

/-- After the first interrupted call there is one fewer to come. -/
theorem DriverManager.Interrupted.of_succ (interrupted : d.Interrupted e (count + 1)) :
    (d.ioctl e).1 = some (.errno .eintr) ∧ d.Interrupted (d.ioctl e).2 count := by
  refine ⟨interrupted.1 0 (Nat.succ_pos count), ?_, interrupted.2⟩
  intro past below
  exact interrupted.1 (past + 1) (Nat.succ_lt_succ below)

/-- `WriteRead` returns what the first `ioctl` returns that is not interrupted. -/
theorem writeRead_of_interrupted
    {limit : Nat} (interrupted : d.Interrupted e count) (enough : count < limit) :
    d.writeRead limit e = some (d.ioctl (d.afterCalls e count)) := by
  induction limit generalizing e count with
  | zero => cases enough
  | succ limit ih =>
    rw [writeRead]
    cases count with
    | zero => exact if_neg interrupted.2
    | succ count =>
      obtain ⟨first, later⟩ := interrupted.of_succ
      rw [if_pos first]
      exact ih later (Nat.lt_of_succ_lt_succ enough)

/-- An interrupted call was made on an open manager. -/
theorem calls_of_interrupted (interrupted : (d.ioctl e).1 = some (.errno .eintr)) :
    (d.ioctl e).2.calls = e.calls + 1 := by
  unfold ioctl at interrupted ⊢
  split_ifs at interrupted ⊢
  · rfl
  · cases interrupted

/-- Every interrupted call is one call of the driver. -/
theorem calls_afterCalls (interrupted : d.Interrupted e count) :
    (d.afterCalls e count).calls = e.calls + count := by
  induction count generalizing e with
  | zero => rfl
  | succ count ih =>
    obtain ⟨first, later⟩ := interrupted.of_succ
    rw [afterCalls, ih later, calls_of_interrupted first]
    omega

/--
A call began an exchange and went through interrupted calls of `Ioctl`.  It
returns what the next one returns, and each byte of the write buffer that the
driver counts was taken once.
-/
structure DriverManager.Ended
    (d : DriverManager) (begun : Exchange) (count : Nat)
    (result : Option DriverError) (e : Exchange) : Prop where
  last : (result, e) = d.ioctl (d.afterCalls begun count)
  notInterrupted : result ≠ some (.errno .eintr)
  calls : e.calls = if d.opened (count + 1) then count + 1 else count
  sound : e.Sound begun.bwr.writeBuffer
  complete : result = none → e.taken = List.range begun.bwr.writeBuffer.length

theorem ended_of_interrupted
    {readBuffer : List UInt8} (interrupted : d.Interrupted (.start writeBuffer readBuffer) count) :
    d.Ended (.start writeBuffer readBuffer) count
      (d.ioctl (d.afterCalls (.start writeBuffer readBuffer) count)).1
      (d.ioctl (d.afterCalls (.start writeBuffer readBuffer) count)).2 := by
  have begun : (Exchange.start writeBuffer readBuffer).Sound writeBuffer := ⟨rfl, rfl, rfl⟩
  have before : (d.afterCalls _ count).Sound writeBuffer := begun.afterCalls count
  refine ⟨rfl, interrupted.2, ?_, before.ioctl, ?_⟩
  · have calls := (calls_afterCalls interrupted).trans (Nat.zero_add count)
    rw [ioctl, calls]
    split_ifs
    · exact congrArg (· + 1) calls
    · exact calls
  · intro succeeds
    rw [before.ioctl.taken, writeConsumed_of_ioctl succeeds, before.sameBuffer]
    rfl

/--
However many system calls are interrupted, a write, a write with a read and a
read go on with the same record and end with the next call, which is not
interrupted.  Then the driver has taken the bytes of the command from the first
to the last one counted, each of them once, all of them if the call succeeded,
and the bytes reported as read are those it delivered.
-/
theorem commands_written_once
    (d : DriverManager) (opened : d.opened 0) (cmd : UInt32)
    (payload readBuf : List UInt8) (count limit : Nat) (enough : count < limit) :
    (d.Interrupted (.start (DriverManager.commandBytes cmd payload) readBuf) count →
      ∃ result e, d.writeCommand limit cmd payload readBuf = some (result, e) ∧
        d.Ended (.start (DriverManager.commandBytes cmd payload) readBuf) count result e) ∧
    (d.Interrupted (.start [] readBuf) count → readBuf ≠ [] →
      ∃ result e, d.read limit readBuf = some (result, e) ∧
        d.Ended (.start [] readBuf) count result e) := by
  constructor
  · intro interrupted
    refine ⟨_, _, ?_, ended_of_interrupted interrupted⟩
    rw [DriverManager.writeCommand, if_pos opened]
    exact writeRead_of_interrupted interrupted enough
  · intro interrupted nonempty
    refine ⟨_, _, ?_, ended_of_interrupted interrupted⟩
    rw [DriverManager.read, if_neg (not_not_intro opened),
      if_neg (mt length_eq_zero_iff.mp nonempty)]
    exact writeRead_of_interrupted interrupted enough

/-- A driver that is interrupted after two bytes, and then takes the others. -/
def interruptedOnce : DriverManager where
  opened _ := true
  driver call bwr :=
    { takes := min (bwr.writeBuffer.length - bwr.writeConsumed)
        (if call = 0 then 2 else bwr.writeBuffer.length)
      delivers := []
      errno := if call = 0 then some .eintr else none
      writeBound := by
        have := bwr.written
        omega
      readBound := bwr.filled
      readsLast := fun some => absurd rfl some
      completes := by
        have := bwr.written
        split_ifs
        · rintro ⟨⟩
        · omega }

theorem interrupted_command_written :
    ∃ result e, interruptedOnce.writeCommand 2 7 [] [] = some (result, e) ∧
      interruptedOnce.Ended (.start (commandBytes 7 []) []) 1 result e := by
  refine (commands_written_once interruptedOnce rfl 7 [] [] 1 2 (by decide)).1 ⟨?_, by decide⟩
  decide

end Libbinder.Kernel
