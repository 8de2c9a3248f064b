import Libbinder.Go.Transition
import Mathlib.Data.List.AList

/-!
# The death registry

The registry of death watches as a transition system.  A label is one critical
section under `mu`, one outcome of a driver call, or one `finish` of a
subscription, so what the source does after `mu.Unlock()` is interleaved with
the other goroutines.

Watches and subscriptions are objects named by numbers, and a subscription also
names the `Watch` call that creates it.  The registry is built with a clear
function, so the `r.clear == nil` branch is left out.  The maps `subs` and
`closingSubs` of a watch become nil only after the watch has left `byHandle`,
so nil and empty are not told apart.

`granted` and `cleared` record which cookies had a successful request and which
were given to the clear function.  A clear-done notification answers a clear
command; a dead-binder notification may come at any time.
-/

namespace Libbinder.Kernel

open Go Function

/-- `deathWatch`. -/
structure DeathWatch where
  handle : UInt32
  cookie : UInt64
  subs : List Nat
  closingSubs : List Nat
deriving DecidableEq

/-- The error a subscription was finished with. -/
inductive FinishError where
  | none
  | deadObject
deriving DecidableEq

/-- The progress of one `Watch` call. -/
inductive WatchPhase where
  | idle
  | requesting
  | granted
  | refused
  | joined
  | returned
  | failed
deriving DecidableEq

/-- The progress of `Close`. -/
inductive ClosePhase where
  | idle
  | finishing (subs : List Nat)
  | returned
deriving DecidableEq

/-- The registry with its watches and subscriptions. -/
structure DeathRegistry where
  nextCookie : UInt64
  closed : Bool
  byHandle : AList fun _ : UInt32 => Nat
  byCookie : AList fun _ : UInt64 => Nat
  watchCount : Nat
  watch : Nat → DeathWatch
  /-- The watch of a subscription. -/
  target : Nat → Nat
  phase : Nat → WatchPhase
  /-- Somebody called `Close` on the subscription. -/
  closeCalled : Nat → Bool
  /-- The `done` channel is closed, with this error. -/
  done : Nat → Option FinishError
  /-- Calls of `finish` that goroutines have still to make. -/
  finishers : List (Nat × FinishError)
  /-- Watches whose clear function is about to be called. -/
  clearing : List Nat
  close : ClosePhase
  /-- Some call of `Close` has returned. -/
  closeReturned : Bool
  granted : UInt64 → Bool
  cleared : UInt64 → Bool

namespace DeathRegistry

def init : DeathRegistry where
  nextCookie := 0
  closed := false
  byHandle := ∅
  byCookie := ∅
  watchCount := 0
  watch := fun _ => ⟨0, 0, [], []⟩
  target := fun _ => 0
  phase := fun _ => .idle
  closeCalled := fun _ => false
  done := fun _ => none
  finishers := []
  clearing := []
  close := .idle
  closeReturned := false
  granted := fun _ => false
  cleared := fun _ => false

def setPhase (r : DeathRegistry) (sub : Nat) (phase : WatchPhase) : DeathRegistry :=
  { r with phase := update r.phase sub phase }

def setWatch (r : DeathRegistry) (w : Nat) (watch : DeathWatch) : DeathRegistry :=
  { r with watch := update r.watch w watch }

/-- `if current := r.byHandle[watch.handle]; current == watch { delete }`. -/
def dropHandle (r : DeathRegistry) (w : Nat) : DeathRegistry :=
  if r.byHandle.lookup (r.watch w).handle = some w then
    { r with byHandle := r.byHandle.erase (r.watch w).handle }
  else r

/-- The same for `byCookie`. -/
def dropCookie (r : DeathRegistry) (w : Nat) : DeathRegistry :=
  if r.byCookie.lookup (r.watch w).cookie = some w then
    { r with byCookie := r.byCookie.erase (r.watch w).cookie }
  else r

/-- `attach`, on behalf of the `Watch` call that makes subscription `sub`. -/
def attach (r : DeathRegistry) (handle : UInt32) (sub : Nat) : DeathRegistry :=
  if r.closed then
    r.setPhase sub .failed
  else
    match r.byHandle.lookup handle with
    | some w =>
      { r.setWatch w
          { r.watch w with subs := sub :: (r.watch w).subs } with
        target := update r.target sub w }.setPhase sub .joined
    | none =>
      let cookie := r.nextCookie + 1
      let w := r.watchCount
      { r.setWatch w ⟨handle, cookie, [sub], []⟩ with
        nextCookie := cookie
        watchCount := r.watchCount + 1
        byHandle := r.byHandle.insert handle w
        byCookie := r.byCookie.insert cookie w
        target := update r.target sub w }.setPhase sub .requesting

def rollback (r : DeathRegistry) (w : Nat) : DeathRegistry :=
  (r.dropHandle w).dropCookie w

/-- The critical section of `removeSub`. -/
def removeSub (r : DeathRegistry) (sub : Nat) : DeathRegistry :=
  let w := r.target sub
  let watch := r.watch w
  if r.byHandle.lookup watch.handle ≠ some w then
    { r with finishers := (sub, .none) :: r.finishers }
  else
    let subs := watch.subs.filter fun other => other ≠ sub
    if subs ≠ [] then
      { r.setWatch w { watch with subs := subs } with
        finishers := (sub, .none) :: r.finishers }
    else
      { (r.setWatch w
          { watch with
            subs := subs
            closingSubs := sub :: watch.closingSubs }).dropHandle w with
        clearing := w :: r.clearing }

def notifyDead (r : DeathRegistry) (cookie : UInt64) : DeathRegistry :=
  match r.byCookie.lookup cookie with
  | none => r
  | some w =>
    let watch := r.watch w
    let dropped := { r with byCookie := r.byCookie.erase cookie }.dropHandle w
    { dropped.setWatch w { watch with subs := [], closingSubs := [] } with
      finishers := (watch.subs ++ watch.closingSubs).map (·, .deadObject) ++ r.finishers }

/-- `finishClearing(cookie, nil)`. -/
def finishClearing (r : DeathRegistry) (cookie : UInt64) : DeathRegistry :=
  match r.byCookie.lookup cookie with
  | none => r
  | some w =>
    let watch := r.watch w
    let dropped := { r with byCookie := r.byCookie.erase cookie }.dropHandle w
    { dropped.setWatch w { watch with closingSubs := [] } with
      finishers := watch.closingSubs.map (·, .none) ++ r.finishers }

/-- The subscriptions `Close` collects. -/
def collect (r : DeathRegistry) : List Nat :=
  r.byHandle.entries.flatMap fun entry =>
    (r.watch entry.2).subs ++ (r.watch entry.2).closingSubs

/-- The critical section of the first `Close`. -/
def closeRegistry (r : DeathRegistry) : DeathRegistry :=
  { r with
    closed := true
    close := .finishing r.collect
    byHandle := ∅
    byCookie := ∅ }

/-- `sub.finish(err)`: only the first call has an effect. -/
def finish (r : DeathRegistry) (sub : Nat) (err : FinishError) : DeathRegistry :=
  match r.done sub with
  | some _ => r
  | none => { r with done := update r.done sub (some err) }

end DeathRegistry

/-- The critical sections and the driver's answers. -/
inductive DeathLabel where
  /-- `Watch` fails before it enters the registry. -/
  | reject (sub : Nat)
  | attach (handle : UInt32) (sub : Nat)
  /-- The request function succeeds. -/
  | grant (sub : Nat)
  /-- The request function returns an error. -/
  | refuse (sub : Nat)
  /-- `Watch` takes its subscription back. -/
  | rollback (sub : Nat)
  | return_ (sub : Nat)
  | closeSub (sub : Nat)
  /-- A goroutine behind the lock calls `finish`. -/
  | finish (sub : Nat) (err : FinishError)
  /-- The clear function is called. -/
  | issueClear (watch : Nat)
  /-- The clear function returns an error. -/
  | clearFails (watch : Nat)
  | notifyDead (cookie : UInt64)
  | notifyCleared (cookie : UInt64)
  | close
  /-- `Close` finishes the next subscription. -/
  | closeFinish
  /-- `Close` returns. -/
  | closeReturn
  /-- A later `Close` returns. -/
  | closeAgain

open DeathRegistry

/-- One atomic action. -/
def deathStep (r : DeathRegistry) : DeathLabel → Option DeathRegistry
  | .reject sub => if r.phase sub = .idle then some (r.setPhase sub .failed) else none
  | .attach handle sub => if r.phase sub = .idle then some (r.attach handle sub) else none
  | .grant sub =>
    if r.phase sub = .requesting then
      some ({ r with
        granted := update r.granted (r.watch (r.target sub)).cookie true }.setPhase sub .granted)
    else none
  | .refuse sub =>
    if r.phase sub = .requesting then some (r.setPhase sub .refused)
    else none
  | .rollback sub =>
    if r.phase sub = .refused then
      some ((r.rollback (r.target sub)).setPhase sub .failed)
    else none
  | .return_ sub =>
    if r.phase sub = .granted ∨ r.phase sub = .joined then
      some (r.setPhase sub .returned)
    else none
  | .closeSub sub =>
    if r.phase sub = .returned then
      some { r.removeSub sub with closeCalled := update r.closeCalled sub true }
    else none
  | .finish sub err =>
    if (sub, err) ∈ r.finishers then
      some { r.finish sub err with finishers := r.finishers.erase (sub, err) }
    else none
  | .issueClear w =>
    if w ∈ r.clearing then
      some { r with
        clearing := r.clearing.erase w
        cleared := update r.cleared (r.watch w).cookie true }
    else none
  | .clearFails w =>
    if r.cleared (r.watch w).cookie then
      some (r.finishClearing (r.watch w).cookie)
    else none
  | .notifyDead cookie => some (r.notifyDead cookie)
  | .notifyCleared cookie =>
    if r.cleared cookie then some (r.finishClearing cookie)
    else none
  | .close => if r.closed then none else some r.closeRegistry
  | .closeFinish =>
    match r.close with
    | .finishing (sub :: rest) => some { r.finish sub .none with close := .finishing rest }
    | _ => none
  | .closeReturn =>
    match r.close with
    | .finishing [] => some { r with close := .returned, closeReturned := true }
    | _ => none
  | .closeAgain => if r.closed then some { r with closeReturned := true } else none

/-- All runs of one registry. -/
def deaths : System DeathRegistry DeathLabel where
  init := DeathRegistry.init
  step := deathStep

end Libbinder.Kernel
