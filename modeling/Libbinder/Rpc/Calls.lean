import Libbinder.Go.Transition

/-!
# Concurrent calls on one RPC connection

The bookkeeping of `transactRemote`, `readLoop`, `clearPending`, `shutdown`
and the frame pool, as a transition system.  A label is one atomic action of
one goroutine: a critical section under `pendingMu`, a channel operation, or
an access to a frame.  Frames are shared objects: a call that has put its frame
back reads the `ID` field through its pointer later, when the frame may belong
to somebody else.

A reply is the frame read from the connection; its fields other than `ID` are
left abstract.  The reader's send and close of a channel are one action: the
only receiver is the call that owns the channel, and it receives once.
-/

namespace Libbinder.Rpc

open Go Function

/-- A reply frame as decoded by the reader. -/
structure ReplyFrame (β : Type) where
  id : UInt64
  body : β

/-- Who has a frame object at the moment. -/
inductive Owner where
  | unallocated
  | pool
  | dropped
  | call (c : Nat)
  | server
deriving DecidableEq

/-- Why a waiting call gives up. -/
inductive GiveUp where
  | contextDone
  | connectionClosed
deriving DecidableEq

/-- What `transactRemote` returned. -/
inductive CallResult (β : Type) where
  | refused
  | writeError
  | onewaySent
  | reply (frame : ReplyFrame β)
  | connectionError
  | contextError

/-- The program counter and local variables of a call. -/
inductive Phase (β : Type) where
  | idle
  | started (oneway : Bool)
  | framed (frame : Nat) (oneway : Bool)
  | numbered (frame : Nat) (oneway : Bool)
  | ready (frame : Nat) (oneway : Bool)
  | failed (frame : Nat)
  | failedClosing (frame : Nat) (channel : Option Nat)
  | failedClosed (frame : Nat)
  | sent (frame : Nat) (oneway : Bool)
  | waiting (frame : Nat)
  | givingUp (id : UInt64) (why : GiveUp)
  | givenUp (channel : Option Nat) (why : GiveUp)
  | returned (result : CallResult β)

/-- The reply channel of a call, of capacity one. -/
structure Channel (β : Type) where
  buffer : Option (ReplyFrame β)
  closed : Bool

/-- The progress of `shutdown`. -/
inductive Shutdown where
  | running
  | connClosed
  | closing (channels : List Nat)

/--
The connection with all its calls.  A pending entry names the call whose
channel it holds.  `requestId` records the identifier each call was given; no
code reads it.
-/
structure State (β : Type) where
  shutdown : Shutdown
  nextRequest : UInt64
  frameId : Nat → UInt64
  owner : Nat → Owner
  pending : List (UInt64 × Nat)
  channel : Nat → Channel β
  reader : Option (Nat × ReplyFrame β)
  phase : Nat → Phase β
  requestId : Nat → Option UInt64

/-- The steps of the calls, the reader and a shutdown. -/
inductive Label (β : Type) where
  | start (c : Nat) (oneway : Bool)
  | refuse (c : Nat)
  | getFrame (c : Nat) (frame : Nat)
  | number (c : Nat)
  | register (c : Nat)
  | writeFrame (c : Nat)
  | writeFails (c : Nat)
  | clearFailed (c : Nat)
  | closeFailed (c : Nat)
  | putFailed (c : Nat)
  | putSent (c : Nat)
  | receive (c : Nat)
  | giveUp (c : Nat) (why : GiveUp)
  | clear (c : Nat)
  | closeCleared (c : Nat)
  | arrive (frame : ReplyFrame β)
  | deliver
  | closeConn
  | swapPending
  | closeNext
  | serve (frame : Nat) (id : UInt64)
  | served (frame : Nat)
  | drop (frame : Nat)

namespace State

variable {β : Type}

def init : State β where
  shutdown := .running
  nextRequest := 0
  frameId := fun _ => 0
  owner := fun _ => .unallocated
  pending := []
  channel := fun _ => ⟨none, false⟩
  reader := none
  phase := fun _ => .idle
  requestId := fun _ => none

/-- The connection and the `closed` channel are closed. -/
def closed (s : State β) : Bool :=
  match s.shutdown with
  | .running => false
  | _ => true

def setPhase (s : State β) (c : Nat) (phase : Phase β) : State β :=
  { s with phase := update s.phase c phase }

/-- `c.framePool.Get`: a pooled frame or a newly allocated one. -/
def canGet (s : State β) (frame : Nat) : Bool :=
  s.owner frame = .pool ∨ s.owner frame = .unallocated

/-- `putFrame`: zero the frame and hand it to the pool. -/
def putFrame (s : State β) (frame : Nat) : State β :=
  { s with
    frameId := update s.frameId frame 0
    owner := update s.owner frame .pool }

/-- The channel stored under an identifier. -/
def lookup (s : State β) (id : UInt64) : Option Nat :=
  (s.pending.find? fun entry => entry.1 = id).map Prod.snd

/-- `delete(c.pending, id)`. -/
def delete (s : State β) (id : UInt64) : State β :=
  { s with pending := s.pending.filter fun entry => entry.1 ≠ id }

/-- `c.pending[id] = channel`. -/
def insert (s : State β) (id : UInt64) (c : Nat) : State β :=
  { s with pending := (id, c) :: s.pending.filter fun entry => entry.1 ≠ id }

/--
The critical section of `clearPending`; the channel it found is still to be
closed.
-/
def clearPending (s : State β) (id : UInt64) : State β × Option Nat :=
  if id = 0 then (s, none) else (s.delete id, s.lookup id)

/-- `if ch != nil { close(ch) }`. -/
def closeChannel (s : State β) : Option Nat → State β
  | none => s
  | some d =>
    { s with channel := update s.channel d { s.channel d with closed := true } }

end State

open State

variable {β : Type}

def GiveUp.result : GiveUp → CallResult β
  | .contextDone => .contextError
  | .connectionClosed => .connectionError

/-- One atomic action. -/
def step (s : State β) : Label β → Option (State β)
  | .start c oneway =>
    match s.phase c with
    | .idle => if s.closed then none else some (s.setPhase c (.started oneway))
    | _ => none
  | .refuse c =>
    match s.phase c with
    | .idle => some (s.setPhase c (.returned .refused))
    | _ => none
  | .getFrame c frame =>
    match s.phase c with
    | .started oneway =>
      if s.canGet frame then
        some ({ s with owner := update s.owner frame (.call c) }.setPhase c (.framed frame oneway))
      else none
    | _ => none
  | .number c =>
    match s.phase c with
    | .framed frame oneway =>
      some ({ s with
        nextRequest := s.nextRequest + 1
        frameId := update s.frameId frame (s.nextRequest + 1)
        requestId :=
          update s.requestId c (some (s.nextRequest + 1)) }.setPhase c
          (.numbered frame oneway))
    | _ => none
  | .register c =>
    match s.phase c with
    | .numbered frame true => some (s.setPhase c (.ready frame true))
    | .numbered frame false => some ((s.insert (s.frameId frame) c).setPhase c (.ready frame false))
    | _ => none
  | .writeFrame c =>
    match s.phase c with
    | .ready frame oneway => if s.closed then none else some (s.setPhase c (.sent frame oneway))
    | _ => none
  | .writeFails c =>
    match s.phase c with
    | .ready frame _ => some (s.setPhase c (.failed frame))
    | _ => none
  | .clearFailed c =>
    match s.phase c with
    | .failed frame =>
      let (cleared, channel) := s.clearPending (s.frameId frame)
      some (cleared.setPhase c (.failedClosing frame channel))
    | _ => none
  | .closeFailed c =>
    match s.phase c with
    | .failedClosing frame channel =>
      some ((s.closeChannel channel).setPhase c (.failedClosed frame))
    | _ => none
  | .putFailed c =>
    match s.phase c with
    | .failedClosed frame => some ((s.putFrame frame).setPhase c (.returned .writeError))
    | _ => none
  | .putSent c =>
    match s.phase c with
    | .sent frame true => some ((s.putFrame frame).setPhase c (.returned .onewaySent))
    | .sent frame false => some ((s.putFrame frame).setPhase c (.waiting frame))
    | _ => none
  | .receive c =>
    match s.phase c with
    | .waiting _ =>
      match (s.channel c).buffer with
      | some frame =>
        some ({ s with
          channel := update s.channel c
            { s.channel c with buffer := none } }.setPhase c (.returned (.reply frame)))
      | none =>
        if (s.channel c).closed then
          some (s.setPhase c (.returned .connectionError))
        else none
    | _ => none
  | .giveUp c why =>
    match s.phase c with
    | .waiting frame =>
      if why = .connectionClosed ∧ s.closed = false then none
      else some (s.setPhase c (.givingUp (s.frameId frame) why))
    | _ => none
  | .clear c =>
    match s.phase c with
    | .givingUp id why =>
      let (cleared, channel) := s.clearPending id
      some (cleared.setPhase c (.givenUp channel why))
    | _ => none
  | .closeCleared c =>
    match s.phase c with
    | .givenUp channel why => some ((s.closeChannel channel).setPhase c (.returned why.result))
    | _ => none
  | .arrive frame =>
    match s.reader with
    | none =>
      some { s.delete frame.id with reader := (s.lookup frame.id).map fun d => (d, frame) }
    | some _ => none
  | .deliver =>
    match s.reader with
    | some (d, frame) =>
      some { s with
        reader := none
        channel := update s.channel d ⟨some frame, true⟩ }
    | none => none
  | .closeConn =>
    match s.shutdown with
    | .running => some { s with shutdown := .connClosed }
    | _ => none
  | .swapPending =>
    match s.shutdown with
    | .connClosed =>
      some { s with
        shutdown := .closing (s.pending.map Prod.snd)
        pending := [] }
    | _ => none
  | .closeNext =>
    match s.shutdown with
    | .closing (d :: rest) => some { s.closeChannel (some d) with shutdown := .closing rest }
    | _ => none
  | .serve frame id =>
    if s.canGet frame then
      some { s with
        owner := update s.owner frame .server
        frameId := update s.frameId frame id }
    else none
  | .served frame => if s.owner frame = .server then some (s.putFrame frame) else none
  | .drop frame =>
    if s.owner frame = .pool then
      some { s with owner := update s.owner frame .dropped }
    else none

/-- All runs of any number of calls on one connection. -/
def calls (β : Type) : System (State β) (Label β) where
  init := State.init
  step := step

end Libbinder.Rpc
