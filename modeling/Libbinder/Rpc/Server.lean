import Libbinder.Rpc.Objects

/-!
# Replies of a server

Every transact frame is handled by a goroutine of its own.  They share the pool
of frames and the encoder with the goroutines that make calls or send
obituaries.  A frame of the pool is a cell of memory: whoever holds it writes
its fields one after another, and the encoder reads the head before the body.

A goroutine that makes calls may write anything into the frame it holds.  The
tables of the session may change between the checks of two objects of a reply,
so each check comes with the tables it finds.

What was written is recorded with the goroutine that wrote it, and the phase of
a goroutine remembers its request, the result of the handler and what the reply
is to say; no code reads these records.
-/

namespace Libbinder.Rpc

open Go Function

variable {H : Type}

/-! ## Frames -/

inductive FrameKind where
  | transact
  | reply
  | obituary
deriving DecidableEq, Repr

/-- `rpcFrame`; a zero `Kind` is none of the three. -/
structure Frame where
  kind : Option FrameKind := none
  id : UInt64 := 0
  handle : UInt32 := 0
  code : UInt32 := 0
  flags : UInt32 := 0
  payload : List UInt8 := []
  objects : List ParcelObject := []
  err : Option CapturedError := none

/-- The frame the encoder has read: first the head, later the body. -/
def Frame.encoded (head body : Frame) : Frame :=
  { head with
    payload := body.payload
    objects := body.objects
    err := body.err }

/-- The parcel a handler returned. -/
structure ReplyParcel where
  payload : List UInt8
  objects : List ParcelObject

/-- What `dispatchExport` returned. -/
abbrev Outcome :=
  Except GoError ReplyParcel

/-- What the reply is to say. -/
inductive ReplyBody where
  | failed (err : CapturedError)
  | sent (reply : ReplyParcel)

def ReplyBody.frame (id : UInt64) : ReplyBody → Frame
  | .failed err => { kind := some .reply, id := id, err := some err }
  | .sent reply =>
    { kind := some .reply, id := id, payload := reply.payload, objects := reply.objects }

/-- The parts of a transact frame that decide about its reply. -/
structure TransactFrame where
  id : UInt64
  handle : UInt32
  oneway : Bool

/-- `dispatchExport`: the handler runs if there is an export. -/
def dispatchOutcome
    (tables : End H) (request : TransactFrame)
    (handled : Except GoError (Option ReplyParcel)) : Outcome :=
  match tables.lookupExport request.handle with
  | none => .error (.leaf (.sentinel .noService))
  | some _ =>
    match handled with
    | .error err => .error err
    | .ok none => .ok { payload := [], objects := [] }
    | .ok (some reply) => .ok reply

/-! ## Goroutines -/

/-- How far a goroutine is. -/
inductive ServePhase where
  | idle
  | dispatching (request : TransactFrame)
  /-- a oneway frame was handled -/
  | ignored (request : TransactFrame)
  | replying (request : TransactFrame) (outcome : Outcome)
  | framed (request : TransactFrame) (outcome : Outcome) (cell : Nat)
  | tagged (request : TransactFrame) (outcome : Outcome) (cell : Nat)
  | checking (request : TransactFrame) (reply : ReplyParcel) (cell : Nat) (rest : List ParcelObject)
  | filled (request : TransactFrame) (outcome : Outcome) (cell : Nat) (body : ReplyBody)
  | ready (request : TransactFrame) (outcome : Outcome) (cell : Nat) (body : ReplyBody)
  | encoding (request : TransactFrame) (outcome : Outcome) (cell : Nat)
      (body : ReplyBody) (head : Frame)
  | written (request : TransactFrame) (outcome : Outcome) (cell : Nat) (body : ReplyBody)
  | cleared (request : TransactFrame) (outcome : Outcome) (cell : Nat) (body : ReplyBody)
  | replied (request : TransactFrame) (outcome : Outcome) (body : ReplyBody)
  /-- another user of the pool holds a frame -/
  | holding (cell : Nat)
  | sending (cell : Nat) (head : Frame)
  | sent (cell : Nat)
  | dropping (cell : Nat)
  | finished

/-- The frame a goroutine holds. -/
def ServePhase.cell : ServePhase → Option Nat
  | .framed _ _ cell | .tagged _ _ cell | .checking _ _ cell _ | .filled _ _ cell _
  | .ready _ _ cell _ | .encoding _ _ cell _ _ | .written _ _ cell _ | .cleared _ _ cell _
  | .holding cell | .sending cell _ | .sent cell | .dropping cell => some cell
  | _ => none

/-- The goroutine is inside `Encode`. -/
def ServePhase.encodes : ServePhase → Bool
  | .encoding _ _ _ _ _ => true
  | .sending _ _ => true
  | _ => false

/-- The connection: frames, their holders, goroutines and the encoder. -/
structure Server where
  cells : Nat → Frame
  /-- The goroutine that has a frame; none if it is in the pool or not made. -/
  holder : Nat → Option Nat
  phase : Nat → ServePhase
  writeMu : Option Nat
  closed : Bool
  wire : List (Nat × Frame)

namespace Server

def init : Server where
  cells := fun _ => {}
  holder := fun _ => none
  phase := fun _ => .idle
  writeMu := none
  closed := false
  wire := []

def setPhase (s : Server) (user : Nat) (phase : ServePhase) : Server :=
  { s with phase := update s.phase user phase }

def store (s : Server) (cell : Nat) (frame : Frame) : Server :=
  { s with cells := update s.cells cell frame }

def setHolder (s : Server) (cell : Nat) (holder : Option Nat) : Server :=
  { s with holder := update s.holder cell holder }

def setLock (s : Server) (lock : Option Nat) : Server :=
  { s with writeMu := lock }

def emit (s : Server) (user : Nat) (frame : Frame) : Server :=
  { s with wire := (user, frame) :: s.wire }

def close (s : Server) : Server :=
  { s with closed := true }

/-- What a goroutine has written, the latest frame first. -/
def sentBy (s : Server) (user : Nat) : List Frame :=
  (s.wire.filter fun entry => entry.1 = user).map Prod.snd

end Server

/-- The steps of `handleTransactFrame`. -/
inductive ServeLabel (H : Type) where
  /-- `go c.handleTransactFrame(frame)` -/
  | spawn (user : Nat) (request : TransactFrame)
  | dispatch (user : Nat) (tables : End H) (handled : Except GoError (Option ReplyParcel))
  | getFrame (user : Nat) (cell : Nat)
  /-- one object of the reply is checked -/
  | check (user : Nat) (tables : End H)
  /-- the next action of the goroutine, where there is only one -/
  | advance (user : Nat)
  /-- `Encode` fails, and the connection is shut down -/
  | encodeFails (user : Nat)
  /-- another user of the pool writes into its frame -/
  | fill (user : Nat) (frame : Frame)
  /-- another user of the pool finds the connection closed -/
  | abandon (user : Nat)
  | shutdown

namespace Server

/-- `putFrame` without the pool: the frame is zeroed. -/
def clear (s : Server) (cell : Nat) : Server :=
  s.store cell {}

/-- The actions that depend on nothing but the state. -/
def advance (s : Server) (user : Nat) : Option Server :=
  match s.phase user with
  | .framed request outcome cell =>
    some ((s.store cell
      { s.cells cell with kind := some .reply, id := request.id }).setPhase
        user (.tagged request outcome cell))
  | .tagged request (.error err) cell =>
    some ((s.store cell
      { s.cells cell with err := some (captureRPCFrameError err) }).setPhase
        user (.filled request (.error err) cell (.failed (captureRPCFrameError err))))
  | .tagged request (.ok reply) cell =>
    some (s.setPhase user (.checking request reply cell reply.objects))
  | .checking request reply cell [] =>
    some ((s.store cell
      { s.cells cell with
        payload := reply.payload
        objects := reply.objects }).setPhase user (.filled request (.ok reply) cell (.sent reply)))
  | .filled request outcome cell body =>
    some (s.setPhase user
      (if s.closed then .written request outcome cell body
        else .ready request outcome cell body))
  | .ready request outcome cell body =>
    if s.writeMu = none then
      some ((s.setLock (some user)).setPhase user
        (.encoding request outcome cell body (s.cells cell)))
    else none
  | .encoding request outcome cell body head =>
    some (((s.emit user (head.encoded (s.cells cell))).setLock none).setPhase
      user (.written request outcome cell body))
  | .written request outcome cell body =>
    some ((s.clear cell).setPhase user (.cleared request outcome cell body))
  | .cleared request outcome cell body =>
    some ((s.setHolder cell none).setPhase user (.replied request outcome body))
  | .holding cell =>
    if s.writeMu = none then
      some ((s.setLock (some user)).setPhase user (.sending cell (s.cells cell)))
    else none
  | .sending cell head =>
    some (((s.emit user (head.encoded (s.cells cell))).setLock none).setPhase user (.sent cell))
  | .sent cell => some ((s.clear cell).setPhase user (.dropping cell))
  | .dropping cell => some ((s.setHolder cell none).setPhase user .finished)
  | _ => none

/-- One action. -/
def step (s : Server) : ServeLabel H → Option Server
  | .spawn user request =>
    match s.phase user with
    | .idle => some (s.setPhase user (.dispatching request))
    | _ => none
  | .dispatch user tables handled =>
    match s.phase user with
    | .dispatching request =>
      some (s.setPhase user
        (if request.oneway then .ignored request
          else
            .replying request (dispatchOutcome tables request handled)))
    | _ => none
  | .getFrame user cell =>
    if s.holder cell = none then
      match s.phase user with
      | .replying request outcome =>
        some ((s.setHolder cell (some user)).setPhase user (.framed request outcome cell))
      | .idle => some ((s.setHolder cell (some user)).setPhase user (.holding cell))
      | _ => none
    else none
  | .check user tables =>
    match s.phase user with
    | .checking request reply cell (object :: rest) =>
      match tables.checkObject object with
      | .ok _ => some (s.setPhase user (.checking request reply cell rest))
      | .error err =>
        some ((s.store cell
          { s.cells cell with err := some (captureRPCFrameError err.toGoError) }).setPhase
          user (.filled request (.ok reply) cell (.failed (captureRPCFrameError err.toGoError))))
    | _ => none
  | .advance user => s.advance user
  | .encodeFails user =>
    match s.phase user with
    | .encoding request outcome cell body _ =>
      some ((s.close.setLock none).setPhase user (.written request outcome cell body))
    | .sending cell _ => some ((s.close.setLock none).setPhase user (.sent cell))
    | _ => none
  | .fill user frame =>
    match s.phase user with
    | .holding cell => some (s.store cell frame)
    | _ => none
  | .abandon user =>
    match s.phase user with
    | .holding cell => some (s.setPhase user (.sent cell))
    | _ => none
  | .shutdown => some s.close

end Server

/-- All runs of the goroutines of a connection. -/
def serving (H : Type) : System Server (ServeLabel H) where
  init := Server.init
  step := Server.step

end Libbinder.Rpc
