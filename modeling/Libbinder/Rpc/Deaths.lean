import Libbinder.Rpc.Session
import Mathlib.Data.List.AList

/-!
# Proxies and death subscriptions of an RPC connection

One end of a session as a transition system: the proxies with their `dead` and
`closed` flags, the death subscriptions, the goroutine that reads obituaries
and the one that shuts the connection down.  A label is one critical section
under `exportsMu` or `deathMu`, one store of a flag, or one `finish` of a
subscription.

Proxies are objects named by numbers in the order they are made.  The target
of the service manager of a client is a proxy that was never in the table; the
other end sends no obituary for its handle.  A `WatchDeath` call and the
subscription it makes share a number.

`begun`, `swept` and `processed` record the handles whose obituaries have come
so far; no code reads them.
-/

namespace Libbinder.Rpc

open Go Function

/-- The progress of `noteRemoteDeath` in the goroutine that reads frames. -/
inductive Obituary where
  | idle
  | taken (handle : UInt32) (remote : Option Nat)
  | marked (handle : UInt32)
  | finishing (handle : UInt32) (subs : List Nat)
deriving DecidableEq

/-- The proxy that is about to be marked dead. -/
def Obituary.inHand : Obituary → Option Nat
  | .taken _ remote => remote
  | _ => none

def Obituary.toFinish : Obituary → List Nat
  | .finishing _ subs => subs
  | _ => []

/-- The progress of `shutdown`, up to the closing of the `closed` channel. -/
inductive Draining where
  | running
  | marking (remotes : List Nat)
  | finishing (subs : List Nat)
  | drained
  | closed
deriving DecidableEq

def Draining.toMark : Draining → List Nat
  | .marking remotes => remotes
  | _ => []

def Draining.toFinish : Draining → List Nat
  | .finishing subs => subs
  | _ => []

/-- The progress of one `WatchDeath` call. -/
inductive WatchPhase where
  | idle
  | created (handle : UInt32)
  | checked (handle : UInt32)
  | returned (handle : UInt32)
deriving DecidableEq

def WatchPhase.handle? : WatchPhase → Option UInt32
  | .idle => none
  | .created handle => some handle
  | .checked handle => some handle
  | .returned handle => some handle

/-- The death tables of one end. -/
structure Deaths where
  imports : AList fun _ : UInt32 => Nat
  /-- How many proxies were made. -/
  made : Nat
  handle : Nat → UInt32
  /-- The `closed` flag of a proxy. -/
  shut : Nat → Bool
  /-- The `dead` flag of a proxy. -/
  dead : Nat → Bool
  deathWatches : List (UInt32 × Nat)
  watch : Nat → WatchPhase
  /-- `Close` of the subscription has removed it and not closed `done` yet. -/
  closing : Nat → Bool
  /-- The `done` channel is closed, and `Err` returns this error. -/
  done : Nat → Option (Option Sentinel)
  obituary : Obituary
  draining : Draining
  begun : List UInt32
  swept : List UInt32
  processed : List UInt32

/-- The critical sections. -/
inductive DeathAction where
  /-- A handle is read from a parcel. -/
  | resolve (handle : UInt32)
  /-- `Close` of a proxy. -/
  | closeBinder (o : Nat)
  /-- `WatchDeath` passes `checkOpen`. -/
  | watchDeath (w : Nat) (o : Nat)
  /-- It looks at the `closed` channel. -/
  | checkClosed (w : Nat)
  /-- It enters the table. -/
  | insertWatch (w : Nat)
  /-- `Close` removes a subscription. -/
  | closeSub (w : Nat)
  /-- It closes `done`. -/
  | subClosed (w : Nat)
  /-- An obituary removes the proxy. -/
  | obituary (handle : UInt32)
  /-- It marks that proxy. -/
  | markDead
  /-- It takes the subscriptions. -/
  | takeWatches
  /-- It finishes one of them. -/
  | finishTaken
  /-- It returns. -/
  | processed
  /-- The shutdown takes the proxies. -/
  | swapImports
  /-- It marks one of them. -/
  | markSwapped
  /-- It takes the subscriptions. -/
  | swapWatches
  /-- It finishes one of them. -/
  | finishSwapped
  /-- It has finished them all. -/
  | drained
  /-- It closes the `closed` channel. -/
  | closeConn
deriving DecidableEq

namespace Deaths

/-- A client holds a proxy of the service manager outside its table. -/
def init (role : Role) : Deaths where
  imports := ∅
  made :=
    match role with
    | .client => 1
    | .server => 0
  handle := fun _ => rpcServerServiceManagerHandle
  shut := fun _ => false
  dead := fun _ => false
  deathWatches := []
  watch := fun _ => .idle
  closing := fun _ => false
  done := fun _ => none
  obituary := .idle
  draining := .running
  begun := []
  swept := []
  processed := []

/-- The `closed` channel of the connection is closed. -/
def closed (s : Deaths) : Bool :=
  s.draining = .closed

/-- The error `checkOpen` returns for a proxy. -/
def checkOpen (s : Deaths) (o : Nat) : Option Sentinel :=
  if s.shut o then some .closed
  else if s.dead o then some .deadObject
  else if s.closed then some .closed
  else none

/-- `remoteBinder`: the proxy of the table, or a new one. -/
def remoteBinder (s : Deaths) (handle : UInt32) : Deaths :=
  match s.imports.lookup handle with
  | some _ => s
  | none =>
    { s with
      imports := s.imports.insert handle s.made
      made := s.made + 1
      handle := update s.handle s.made handle
      shut := update s.shut s.made false
      dead := update s.dead s.made false }

def setWatch (s : Deaths) (w : Nat) (phase : WatchPhase) : Deaths :=
  { s with watch := update s.watch w phase }

/--
`sub.finish(ErrDeadObject)`.  It waits for a `Close` that has begun and does
nothing when the subscription is done.
-/
def finish (s : Deaths) (w : Nat) : Option Deaths :=
  if s.closing w then none
  else if (s.done w).isSome then some s
  else some { s with done := update s.done w (some (some .deadObject)) }

/-- `remote.dead.Store(true)`. -/
def markDead (s : Deaths) (o : Nat) : Deaths :=
  { s with dead := update s.dead o true }

/-- One atomic action. -/
def step (s : Deaths) : DeathAction → Option Deaths
  | .resolve handle => some (s.remoteBinder handle)
  | .closeBinder o =>
    if o < s.made then
      some { s with shut := update s.shut o true }
    else none
  | .watchDeath w o =>
    if s.watch w = .idle ∧ o < s.made ∧ s.handle o ≠ 0 ∧
        (s.checkOpen o = none ∨ s.checkOpen o = some .deadObject) then
      some (s.setWatch w (.created (s.handle o)))
    else none
  | .checkClosed w =>
    match s.watch w with
    | .created handle =>
      if s.closed then
        (s.finish w).map fun finished =>
          finished.setWatch w (.returned handle)
      else some (s.setWatch w (.checked handle))
    | _ => none
  | .insertWatch w =>
    match s.watch w with
    | .checked handle =>
      some { s.setWatch w (.returned handle) with deathWatches := (handle, w) :: s.deathWatches }
    | _ => none
  | .closeSub w =>
    match (s.watch w).handle? with
    | some handle =>
      if s.closing w = false ∧ s.done w = none then
        some { s with
          deathWatches := s.deathWatches.filter fun entry => entry ≠ (handle, w)
          closing := update s.closing w true }
      else none
    | none => none
  | .subClosed w =>
    if s.closing w then
      some { s with
        closing := update s.closing w false
        done := update s.done w (some none) }
    else none
  | .obituary handle =>
    if s.obituary = .idle ∧ handle ≠ rpcServerServiceManagerHandle then
      if handle = 0 then some s
      else some { s with
        obituary := .taken handle (s.imports.lookup handle)
        imports := s.imports.erase handle
        begun := handle :: s.begun }
    else none
  | .markDead =>
    match s.obituary with
    | .taken handle none => some { s with obituary := .marked handle }
    | .taken handle (some o) => some { s.markDead o with obituary := .marked handle }
    | _ => none
  | .takeWatches =>
    match s.obituary with
    | .marked handle =>
      some { s with
        obituary := .finishing handle
          ((s.deathWatches.filter fun entry => entry.1 = handle).map Prod.snd)
        deathWatches := s.deathWatches.filter fun entry => entry.1 ≠ handle
        swept := handle :: s.swept }
    | _ => none
  | .finishTaken =>
    match s.obituary with
    | .finishing handle (w :: rest) =>
      (s.finish w).map fun finished =>
        { finished with obituary := .finishing handle rest }
    | _ => none
  | .processed =>
    match s.obituary with
    | .finishing handle [] =>
      some { s with
        obituary := .idle
        processed := handle :: s.processed }
    | _ => none
  | .swapImports =>
    match s.draining with
    | .running =>
      some { s with
        draining := .marking (s.imports.entries.map Sigma.snd)
        imports := ∅ }
    | _ => none
  | .markSwapped =>
    match s.draining with
    | .marking (o :: rest) => some { s.markDead o with draining := .marking rest }
    | _ => none
  | .swapWatches =>
    match s.draining with
    | .marking [] =>
      some { s with
        draining := .finishing (s.deathWatches.map Prod.snd)
        deathWatches := [] }
    | _ => none
  | .finishSwapped =>
    match s.draining with
    | .finishing (w :: rest) =>
      (s.finish w).map fun finished =>
        { finished with draining := .finishing rest }
    | _ => none
  | .drained =>
    match s.draining with
    | .finishing [] => some { s with draining := .drained }
    | _ => none
  | .closeConn =>
    match s.draining with
    | .drained => some { s with draining := .closed }
    | _ => none

end Deaths

/-- All runs of one end of a session. -/
def deaths (role : Role) : System Deaths DeathAction where
  init := Deaths.init role
  step := Deaths.step

end Libbinder.Rpc
