import Libbinder.Go.Tally
import Libbinder.Go.Transition
import Libbinder.Kernel.Transact
import Libbinder.Runtime.RefTracker

/-!
# References to remote handles

Binders, death watches and transactions share the driver's strong reference of
a handle through the tracker.  The goroutines in progress are a list of stages;
a label is one critical section of the tracker, one command to the driver, or
one choice of a `select`.  `acquires` and `releases` count the strong acquire
and release commands that the driver has accepted.

A driver command runs on the client worker.  A caller whose context ends leaves
`ClientWorker.Do` at once; a command the worker has accepted is run all the
same.
-/

namespace Libbinder.Runtime

open Go

/-- Why `ensureHandleAcquired` was called. -/
inductive Purpose where
  | transact
  | watch
deriving DecidableEq

/-- How far a goroutine has come. -/
inductive RefStage where
  /-- An open `remoteBinder`. -/
  | bound (handle : UInt32)
  /-- `resolveBinderObject` between `markHandleAcquired` and `retainBinder`. -/
  | marked (handle : UInt32)
  /-- About to call `BeginAcquire`. -/
  | starting (handle : UInt32) (purpose : Purpose)
  /-- Waiting for another goroutine's acquire. -/
  | waiting (handle : UInt32) (channel : Nat) (purpose : Purpose)
  /-- The acquire command is offered to the worker. -/
  | offered (handle : UInt32) (purpose : Purpose)
  /-- The worker runs the acquire command. -/
  | accepted (handle : UInt32) (purpose : Purpose)
  /-- The result of the acquire command is in the `done` channel. -/
  | ran (handle : UInt32) (ok : Bool) (purpose : Purpose)
  /-- About to call `FinishAcquire`. -/
  | finishing (handle : UInt32) (ok : Bool) (purpose : Purpose)
  /-- `ensureHandleAcquired` has returned nil. -/
  | ready (handle : UInt32) (purpose : Purpose)
  /-- `watchDeath` after `retainWatch`. -/
  | watching (handle : UInt32)
  /-- A tracked subscription that is not done. -/
  | subscribed (handle : UInt32)
  /-- `releaseKernelHandle` before the worker has accepted the command. -/
  | releasing (handle : UInt32) (purpose : Option Purpose)
  /-- The worker runs the release command. -/
  | releaseAccepted (handle : UInt32) (purpose : Option Purpose)
  /-- An accepted acquire command whose caller has left. -/
  | orphan (handle : UInt32)
  /-- The loop of `acquireParcelObjects`. -/
  | receiving (objects : List ParcelObject)
deriving DecidableEq

/-- The tracker, its users and the driver's counts. -/
structure RefState where
  tracker : RefTracker
  stages : List RefStage
  acquires : UInt32 → Nat
  releases : UInt32 → Nat

namespace RefState

def init : RefState where
  tracker := .newRefTracker
  stages := []
  acquires := fun _ => 0
  releases := fun _ => 0

/-- A stage is replaced by its successors, if it is there. -/
def advance (s : RefState) (old : RefStage) (successors : List RefStage) : Option RefState :=
  if old ∈ s.stages then
    some { s with stages := advanceStage s.stages old successors }
  else none

/-- The driver accepts a strong acquire. -/
def countAcquire (s : RefState) (handle : UInt32) : RefState :=
  { s with acquires := Function.update s.acquires handle (s.acquires handle + 1) }

/-- The driver accepts a strong release. -/
def countRelease (s : RefState) (handle : UInt32) : RefState :=
  { s with releases := Function.update s.releases handle (s.releases handle + 1) }

/-- `releaseBinder` and `releaseWatch` up to the driver release. -/
def dropRef (s : RefState) (old : RefStage) (handle : UInt32)
    (binder : Bool) : Option RefState :=
  let dropped := s.tracker.release handle binder
  { s with tracker := dropped.1 }.advance old (if dropped.2 then [.releasing handle none] else [])

/-- What follows `ensureHandleAcquired` when it returns nil. -/
def resume (handle : UInt32) : Option Purpose → List RefStage
  | none => []
  | some purpose => [.ready handle purpose]

end RefState

/-- The steps of the users of handles. -/
inductive RefLabel where
  | openBinder (handle : UInt32)
  | closeBinder (handle : UInt32)
  | ensure (handle : UInt32) (purpose : Purpose)
  | beginAcquire (handle : UInt32) (purpose : Purpose)
  | wake (handle : UInt32) (channel : Nat) (purpose : Purpose)
  | cancelWait (handle : UInt32) (channel : Nat) (purpose : Purpose)
  | refuse (handle : UInt32) (purpose : Purpose)
  | accept (handle : UInt32) (purpose : Purpose)
  | run (handle : UInt32) (purpose : Purpose) (ok : Bool)
  | collect (handle : UInt32) (ok : Bool) (purpose : Purpose)
  | abandon (handle : UInt32) (purpose : Purpose)
  | discard (handle : UInt32) (ok : Bool) (purpose : Purpose)
  | runOrphan (handle : UInt32) (ok : Bool)
  | finishAcquire (handle : UInt32) (ok : Bool) (purpose : Purpose)
  | transact (handle : UInt32)
  | retainWatch (handle : UInt32)
  | watchResult (handle : UInt32) (ok : Bool)
  | subscriptionDone (handle : UInt32)
  | acceptRelease (handle : UInt32) (purpose : Option Purpose)
  | dropRelease (handle : UInt32) (purpose : Option Purpose)
  | runRelease (handle : UInt32) (purpose : Option Purpose) (released ok : Bool)
  | deliver (payload offsets : List UInt8)
  | receive (objects : List ParcelObject) (ok : Bool)
  | markAcquired (handle : UInt32)
  | bindMarked (handle : UInt32)

open RefState

/-- One atomic action. -/
def refStep (s : RefState) : RefLabel → Option RefState
  | .openBinder handle =>
    some { s with
      tracker := s.tracker.retainBinder handle
      stages := .bound handle :: s.stages }
  | .closeBinder handle => s.dropRef (.bound handle) handle true
  | .ensure handle purpose =>
    some { s with
      stages :=
        (if handle = 0 then .ready handle purpose
        else .starting handle purpose) :: s.stages }
  | .beginAcquire handle purpose =>
    let begun := s.tracker.beginAcquire handle
    { s with tracker := begun.1 }.advance (.starting handle purpose)
      (match begun.2 with
      | .wait (some channel) => [.waiting handle channel purpose]
      | .wait none => [.ready handle purpose]
      | .nothing => [.ready handle purpose]
      | .acquire => [.offered handle purpose])
  | .wake handle channel purpose =>
    if s.tracker.closed channel then
      s.advance (.waiting handle channel purpose) [.starting handle purpose]
    else none
  | .cancelWait handle channel purpose => s.advance (.waiting handle channel purpose) []
  | .refuse handle purpose => s.advance (.offered handle purpose) [.finishing handle false purpose]
  | .accept handle purpose => s.advance (.offered handle purpose) [.accepted handle purpose]
  | .run handle purpose ok =>
    (if ok then s.countAcquire handle else s).advance
      (.accepted handle purpose) [.ran handle ok purpose]
  | .collect handle ok purpose => s.advance (.ran handle ok purpose) [.finishing handle ok purpose]
  | .abandon handle purpose =>
    s.advance (.accepted handle purpose) [.finishing handle false purpose, .orphan handle]
  | .discard handle ok purpose =>
    s.advance (.ran handle ok purpose) [.finishing handle false purpose]
  | .runOrphan handle ok => (if ok then s.countAcquire handle else s).advance (.orphan handle) []
  | .finishAcquire handle ok purpose =>
    let finished := s.tracker.finishAcquire handle ok
    { s with tracker := finished.1 }.advance (.finishing handle ok purpose)
      (if ok then
        if finished.2 then [.releasing handle (some purpose)]
        else [.ready handle purpose]
      else [])
  | .transact handle => s.advance (.ready handle .transact) []
  | .retainWatch handle =>
    { s with tracker := s.tracker.retainWatch handle }.advance
      (.ready handle .watch) [.watching handle]
  | .watchResult handle ok =>
    if ok then s.advance (.watching handle) [.subscribed handle]
    else s.dropRef (.watching handle) handle false
  | .subscriptionDone handle => s.dropRef (.subscribed handle) handle false
  | .acceptRelease handle purpose =>
    s.advance (.releasing handle purpose) [.releaseAccepted handle purpose]
  | .dropRelease handle purpose => s.advance (.releasing handle purpose) []
  | .runRelease handle purpose released ok =>
    (if released then s.countRelease handle else s).advance
      (.releaseAccepted handle purpose)
      (if ok then resume handle purpose else [])
  | .deliver payload offsets =>
    match Kernel.parseTransactionObjects payload offsets with
    | .error _ => some s
    | .ok objects => some { s with stages := .receiving objects :: s.stages }
  | .receive objects ok =>
    match objects with
    | [] => s.advance (.receiving []) []
    | object :: rest =>
      if object.kind ≠ .strongBinder then
        s.advance (.receiving objects) [.receiving rest]
      else if ok then
        (s.countAcquire object.handle).advance (.receiving objects) [.receiving rest]
      else s.advance (.receiving objects) []
  | .markAcquired handle =>
    some { s with
      tracker := s.tracker.markAcquired handle
      stages := .marked handle :: s.stages }
  | .bindMarked handle =>
    { s with tracker := s.tracker.retainBinder handle }.advance (.marked handle) [.bound handle]

/-- All runs of one connection's references. -/
def references : System RefState RefLabel where
  init := .init
  step := refStep

end Libbinder.Runtime
