import Libbinder.Rpc.Requests

/-!
# Delivery of replies

The reply channels with the rules of Go channels: a send on a closed channel
and a second close panic, and a send on a full channel blocks.  The goroutine
that reads frames sends a reply and closes the channel in two actions; all
other actions are those of the calls.

The record beside the state says of every channel whether it was pending, who
took it out, and how often it was sent on and closed; no code reads it.
-/

namespace Libbinder.Rpc

open Go Function

/-- What becomes of an operation on a channel. -/
inductive Attempt (α : Type) where
  | panics
  | blocks
  | done (value : α)

namespace Channel

variable {β : Type}

/-- `ch <- frame` on a channel of capacity one. -/
def send (channel : Channel β) (frame : ReplyFrame β) : Attempt (Channel β) :=
  if channel.closed then .panics
  else
    match channel.buffer with
    | some _ => .blocks
    | none => .done { channel with buffer := some frame }

/-- `close(ch)`. -/
def close (channel : Channel β) : Attempt (Channel β) :=
  if channel.closed then .panics else .done { channel with closed := true }

end Channel

/-- Who took a channel out of the pending map. -/
inductive Party where
  | reader
  | call (c : Nat)
  | shutdown
deriving DecidableEq

/-- The calls, what the reading goroutine has done, and the record. -/
structure Delivery (β : Type) where
  calls : State β
  /-- The reply in hand is in the channel, which is still to be closed. -/
  sent : Bool
  /-- Some goroutine has panicked. -/
  panicked : Bool
  /-- How many request identifiers were given out. -/
  numbered : Nat
  entered : Nat → Bool
  takers : Nat → List Party
  sends : Nat → Nat
  closes : Nat → Nat

/-- An action of the calls other than the delivery of a reply, or half of it. -/
inductive DeliveryAction (β : Type) where
  | call (label : Label β)
  | send
  | closeReply

/-- The channel `clearPending` finds for a call. -/
def State.cleared {β : Type} (s : State β) (c : Nat) : Option Nat :=
  match s.phase c with
  | .failed frame => (s.clearPending (s.frameId frame)).2
  | .givingUp id _ => (s.clearPending id).2
  | _ => none

namespace Delivery

variable {β : Type}

def init : Delivery β where
  calls := .init
  sent := false
  panicked := false
  numbered := 0
  entered := fun _ => false
  takers := fun _ => []
  sends := fun _ => 0
  closes := fun _ => 0

def enter (s : Delivery β) (c : Nat) : Delivery β :=
  match s.calls.phase c with
  | .numbered _ false => { s with entered := update s.entered c true }
  | _ => s

def take (s : Delivery β) (party : Party) (channels : List Nat) : Delivery β :=
  { s with
    takers := fun d =>
      if d ∈ channels then party :: s.takers d else s.takers d }

/-- A goroutine other than the reader closes a channel. -/
def close (s : Delivery β) : Option Nat → Delivery β
  | none => s
  | some d =>
    match (s.calls.channel d).close with
    | .panics => { s with panicked := true }
    | _ => { s with closes := update s.closes d (s.closes d + 1) }

/-- What an action of the calls does to channels. -/
def record (s : Delivery β) : Label β → Delivery β
  | .number _ => { s with numbered := s.numbered + 1 }
  | .register c => s.enter c
  | .clearFailed c => s.take (.call c) (s.calls.cleared c).toList
  | .clear c => s.take (.call c) (s.calls.cleared c).toList
  | .closeFailed c => s.close (s.calls.phase c).closingChannel
  | .closeCleared c => s.close (s.calls.phase c).closingChannel
  | .arrive frame => s.take .reader (s.calls.lookup frame.id).toList
  | .swapPending => s.take .shutdown (s.calls.pending.map Prod.snd)
  | .closeNext => s.close s.calls.shutdown.remaining.head?
  | _ => s

def setChannel (s : Delivery β) (d : Nat) (channel : Channel β) : Delivery β :=
  { s with calls := { s.calls with channel := update s.calls.channel d channel } }

/-- One atomic action.  A blocked send is not enabled. -/
def step (s : Delivery β) : DeliveryAction β → Option (Delivery β)
  | .call .deliver => none
  | .call label =>
    (Rpc.step s.calls label).map fun calls =>
      { s.record label with calls := calls }
  | .send =>
    match s.calls.reader, s.sent with
    | some (d, frame), false =>
      match (s.calls.channel d).send frame with
      | .panics => some { s with panicked := true }
      | .blocks => none
      | .done channel =>
        some { s.setChannel d channel with
          sent := true
          sends := update s.sends d (s.sends d + 1) }
    | _, _ => none
  | .closeReply =>
    match s.calls.reader, s.sent with
    | some (d, _), true =>
      match (s.calls.channel d).close with
      | .panics => some { s with panicked := true }
      | .blocks => none
      | .done channel =>
        some { s with
          calls := { s.calls with
            channel := update s.calls.channel d channel
            reader := none }
          sent := false
          closes := update s.closes d (s.closes d + 1) }
    | _, _ => none

end Delivery

/-- All runs of any number of calls on one connection. -/
def delivery (β : Type) : System (Delivery β) (DeliveryAction β) where
  init := .init
  step := Delivery.step

end Libbinder.Rpc
