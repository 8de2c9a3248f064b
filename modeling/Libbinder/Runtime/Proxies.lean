import Libbinder.Go.Tally
import Libbinder.Go.Transition
import Libbinder.Runtime.RefTracker

/-!
# Proxies and watches

A proxy retains its handle when it is made and releases it at most once, closed
by any number of goroutines or by its finalizer: the flag `closed` is set by a
compare-and-swap and only the goroutine that set it releases.  A watch retains
its handle before the kernel is asked, releases it when the kernel refuses, and
otherwise when the goroutine of the subscription sees that it is done.

Proxies and watches are kept for ever, with a flag that says whether they have
released.  The tracker is used in between by everybody else who acquires
handles, at any time and with any result.
-/

namespace Libbinder.Runtime

open Go

/-- A `remoteBinder` and whether it has called `ReleaseBinder`. -/
structure Proxy where
  handle : UInt32
  closed : Bool
  released : Bool
deriving DecidableEq, Repr

inductive WatchStage where
  /-- `watchDeath` after `retainWatch` -/
  | retained
  /-- a tracked subscription -/
  | subscribed
  /-- the inner subscription is done -/
  | ended
  | released
deriving DecidableEq, Repr

structure Watch where
  handle : UInt32
  stage : WatchStage
deriving DecidableEq, Repr

structure Holders where
  tracker : RefTracker
  proxies : List Proxy
  watches : List Watch

inductive HolderLabel where
  /-- `newRemoteBinderWithStability` -/
  | create (handle : UInt32)
  /-- the compare-and-swap of `close`, by a caller or the finalizer -/
  | close (index : Nat)
  /-- `releaseBinder` of the goroutine that closed the proxy -/
  | releaseBinder (index : Nat)
  /-- `watchDeath` after `ensureHandleAcquired` -/
  | watch (handle : UInt32)
  /-- what the kernel says -/
  | watchResult (index : Nat) (ok : Bool)
  /-- the inner subscription ends -/
  | finish (index : Nat)
  /-- `release` of the tracked subscription -/
  | releaseWatch (index : Nat)
  | beginAcquire (handle : UInt32)
  | finishAcquire (handle : UInt32) (ok : Bool)
  | markAcquired (handle : UInt32)

namespace Holders

def init : Holders where
  tracker := .newRefTracker
  proxies := []
  watches := []

def setTracker (s : Holders) (tracker : RefTracker) : Holders :=
  { s with tracker := tracker }

def setProxy (s : Holders) (index : Nat) (proxy : Proxy) : Holders :=
  { s with proxies := s.proxies.set index proxy }

def setWatch (s : Holders) (index : Nat) (watch : Watch) : Holders :=
  { s with watches := s.watches.set index watch }

/-- One action.  The driver release that may follow changes no count. -/
def step (s : Holders) : HolderLabel → Option Holders
  | .create handle =>
    some { s with
      tracker := s.tracker.retainBinder handle
      proxies := s.proxies ++ [{ handle := handle, closed := false, released := false }] }
  | .close index =>
    match s.proxies[index]? with
    | none => none
    | some proxy =>
      if proxy.closed then some s
      else some (s.setProxy index { proxy with closed := true })
  | .releaseBinder index =>
    match s.proxies[index]? with
    | none => none
    | some proxy =>
      if proxy.closed ∧ ¬ proxy.released then
        some ((s.setTracker (s.tracker.releaseBinder proxy.handle).1).setProxy
          index { proxy with released := true })
      else none
  | .watch handle =>
    some { s with
      tracker := s.tracker.retainWatch handle
      watches := s.watches ++ [{ handle := handle, stage := .retained }] }
  | .watchResult index ok =>
    match s.watches[index]? with
    | some { handle, stage := .retained } =>
      if ok then
        some (s.setWatch index { handle := handle, stage := .subscribed })
      else
        some ((s.setTracker (s.tracker.releaseWatch handle).1).setWatch
          index { handle := handle, stage := .released })
    | _ => none
  | .finish index =>
    match s.watches[index]? with
    | some { handle, stage := .subscribed } =>
      some (s.setWatch index { handle := handle, stage := .ended })
    | _ => none
  | .releaseWatch index =>
    match s.watches[index]? with
    | some { handle, stage := .ended } =>
      some ((s.setTracker (s.tracker.releaseWatch handle).1).setWatch
        index { handle := handle, stage := .released })
    | some { handle := _, stage := .released } => some s
    | _ => none
  | .beginAcquire handle => some (s.setTracker (s.tracker.beginAcquire handle).1)
  | .finishAcquire handle ok => some (s.setTracker (s.tracker.finishAcquire handle ok).1)
  | .markAcquired handle => some (s.setTracker (s.tracker.markAcquired handle))

end Holders

/-- All runs of the proxies and watches of a connection. -/
def holders : System Holders HolderLabel where
  init := .init
  step := Holders.step

end Libbinder.Runtime
