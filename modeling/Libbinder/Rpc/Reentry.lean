import Libbinder.Go.Guards

/-!
# The guards of a shutdown

`shutdown` runs inside `closeOnce`, after a failed frame write also under
`writeMu`, and calls the client watches of the registry before the connection
is marked as closed.  A callback is code of the user: it may close the
connection, send requests, call local handlers and close subscriptions.

The model follows the guards that the goroutine of the shutdown takes, from
each of the three places that start one.  Whether a frame can be encoded and
which subscriptions others have finished is given.
-/

namespace Libbinder.Rpc

open Go
open GuardM

inductive Guard where
  | closeOnce
  | writeMu
  | errMu
  | pendingMu
  | exportsMu
  | deathMu
  | registryMu
  | handlerMu
  | subOnce (sub : Nat)
  | subMu (sub : Nat)
  | serial (exported : Nat)
  deriving DecidableEq, Repr

/-- `closed`, whether `closeOnce` is done, and the finished subscriptions. -/
structure ConnFlags where
  closed : Bool
  done : Bool
  finished : List Nat

abbrev ConnM (α : Type) :=
  GuardM Guard ConnFlags α

/-- `managedSubscription.once.Do`, whose body ends with the result. -/
def subscriptionDo (sub : Nat) (body : ConnM Unit) : ConnM Unit := do
  if sub ∈ (← get).own.finished then return ()
  else
    guarded (.subOnce sub) do
      body
      touch (.subMu sub)
      modify fun s =>
        { s with own := { s.own with finished := sub :: s.own.finished } }

/-- `connectionError`. -/
def connectionError : ConnM Unit :=
  touch .errMu

/-- `writeFrame`; the result says whether the frame was written. -/
def writeFrame (shutdown : ConnM Unit) (encodes : Bool) : ConnM Bool := do
  if (← get).own.closed then
    connectionError
    return false
  else
    guarded .writeMu do
      if encodes then return true
      else
        shutdown
        connectionError
        return false

/-- How the wait for a reply ends. -/
inductive Ending where
  | reply
  | noReply
  | contextDone
  | connectionClosed

/--
A call of `rpcRemoteBinder.Transact`: it is refused when the proxy is closed or
dead, as all proxies imported before the shutdown are, or when its stability
does not suffice.
-/
structure RemoteCall where
  refused : Bool
  objects : Nat
  prepared : Bool
  oneway : Bool
  encodes : Bool
  ending : Ending

/-- The entry in `pending`, which a oneway request does not have. -/
def addPending (oneway : Bool) : ConnM Unit :=
  if oneway then return () else touch .pendingMu

/-- The end of `transactRemote`; only a oneway request does not wait. -/
def awaitReply : Bool → Ending → ConnM Unit
  | true, _ => return ()
  | false, .reply => return ()
  | false, .noReply => connectionError
  | false, .contextDone => touch .pendingMu
  | false, .connectionClosed => do
    touch .pendingMu
    connectionError

/-- `rpcRemoteBinder.Transact` and `transactRemote`. -/
def transactRemote (shutdown : ConnM Unit) (call : RemoteCall) : ConnM Unit := do
  if call.refused || (← get).own.closed then return ()
  else
    (List.range call.objects).forM fun _ => touch .exportsMu
    if call.prepared then
      addPending call.oneway
      if ← writeFrame shutdown call.encodes then
        awaitReply call.oneway call.ending
      else touch .pendingMu

/-- The mutex of the table that a subscription is in. -/
inductive Subscribed where
  | service
  | death

def Subscribed.guard : Subscribed → Guard
  | .service => .registryMu
  | .death => .deathMu

/-- What a callback does with the connection, in this order. -/
inductive Call where
  | close
  | transact (call : RemoteCall)
  | dispatch (serial : Option Nat) (handler : List Call)
  | closeSubscription (table : Subscribed) (sub : Nat)

mutual

def Call.run (shutdown : ConnM Unit) : Call → ConnM Unit
  | .close => do
    shutdown
    connectionError
  | .transact call => transactRemote shutdown call
  | .dispatch none handler => do
    touch .exportsMu
    runCalls shutdown handler
  | .dispatch (some exported) handler => do
    touch .exportsMu
    guarded (.serial exported) (runCalls shutdown handler)
  | .closeSubscription table sub => subscriptionDo sub (touch table.guard)

def runCalls (shutdown : ConnM Unit) : List Call → ConnM Unit
  | [] => return ()
  | call :: rest => do
    call.run shutdown
    runCalls shutdown rest

end

/-- What `shutdown` finds; a client connection has no handler. -/
structure Registered where
  deathWatches : List Nat
  services : List (Bool × List (Option (List Call)))
  remoteSubscriptions : Option (List Nat)

/-- The callbacks of the services that have clients. -/
def Registered.callbacks (found : Registered) : List (List Call) :=
  (found.services.filter Prod.fst).flatMap fun entry =>
    entry.2.filterMap id

/-- `noteAllRemoteDeaths`. -/
def noteAllRemoteDeaths (found : Registered) : ConnM Unit := do
  touch .exportsMu
  touch .deathMu
  found.deathWatches.forM fun sub => subscriptionDo sub (return ())

/-- `clearClientState`. -/
def clearClientState (shutdown : ConnM Unit) (found : Registered) : ConnM Unit := do
  touch .registryMu
  found.callbacks.forM (runCalls shutdown)

/-- `closeAllRemoteSubscriptions`. -/
def closeAllRemoteSubscriptions : Option (List Nat) → ConnM Unit
  | none => return ()
  | some subs => do
    touch .handlerMu
    subs.forM fun sub => subscriptionDo sub (touch .registryMu)

/-- `shutdown`; calls of it inside one another are followed to a depth. -/
def shutdown (found : Registered) : Nat → ConnM Unit
  | 0 => Action.abort
  | depth + 1 => do
    if (← get).own.done then return ()
    else
      guarded .closeOnce do
        noteAllRemoteDeaths found
        clearClientState (shutdown found depth) found
        closeAllRemoteSubscriptions found.remoteSubscriptions
        touch .errMu
        modify fun s => { s with own := { s.own with closed := true } }
        touch .pendingMu
        modify fun s => { s with own := { s.own with done := true } }

inductive Trigger where
  | close
  | readError
  | writeError
  deriving DecidableEq, Repr

/-- A failed frame write starts the shutdown under `writeMu`. -/
def Trigger.writing : Trigger → Bool
  | .writeError => true
  | _ => false

def Trigger.run (found : Registered) (depth : Nat) : Trigger → ConnM Unit
  | .close => do
    shutdown found depth
    connectionError
  | .readError => shutdown found depth
  | .writeError => do
    let _ ← writeFrame (shutdown found depth) false

/-- An open connection, seen by a goroutine inside some serial handlers. -/
def openInside (serials finished : List Nat) : Holding Guard ConnFlags where
  held := serials.map .serial
  own := ⟨false, false, finished⟩

/-! ## Safe callbacks -/

mutual

/-- The call does not need a guard that the goroutine holds. -/
def Call.Safe (writing : Bool) (serials : List Nat) : Call → Prop
  | .close => False
  | .transact call =>
    call.refused ∨ call.prepared = false ∨ writing = false ∧ call.encodes
  | .dispatch none handler => SafeCalls writing serials handler
  | .dispatch (some exported) handler =>
    exported ∉ serials ∧ SafeCalls writing (exported :: serials) handler
  | .closeSubscription _ _ => True

def SafeCalls (writing : Bool) (serials : List Nat) : List Call → Prop
  | [] => True
  | call :: rest => call.Safe writing serials ∧ SafeCalls writing serials rest

end

/-- The connection is open. -/
def Running (own : ConnFlags) : Prop :=
  own.closed = false ∧ own.done = false

/-- What the goroutine holds while a callback runs. -/
def HeldInside (writing : Bool) (serials : List Nat) (held : List Guard) : Prop :=
  ∀ guard, guard ∈ held ↔
    guard = .closeOnce ∨ guard = .writeMu ∧ writing ∨ ∃ exported ∈ serials, guard = .serial exported

/-- The guard is neither `closeOnce` nor `writeMu` nor that of an export. -/
def Guard.plain : Guard → Bool
  | .closeOnce => false
  | .writeMu => false
  | .serial _ => false
  | _ => true

variable {s : Holding Guard ConnFlags} {writing : Bool} {serials : List Nat}

theorem HeldInside.free
    {guard : Guard} {held : List Guard} (inside : HeldInside writing serials held)
    (plain : guard.plain) : guard ∉ held := by
  rw [inside guard]
  rintro (rfl | ⟨rfl, -⟩ | ⟨owned, -, rfl⟩) <;> cases plain

theorem HeldInside.cons
    {held : List Guard} (inside : HeldInside writing serials held) (owned : Nat) :
    HeldInside writing (owned :: serials) (.serial owned :: held) := by
  intro guard
  simp only [List.mem_cons, inside guard, exists_eq_or_imp]
  tauto

theorem heldInside_open (serials : List Nat) :
    HeldInside false serials (.closeOnce :: serials.map .serial) := by
  intro guard
  simp [eq_comm]

theorem heldInside_write (serials : List Nat) :
    HeldInside true serials (.closeOnce :: .writeMu :: serials.map .serial) := by
  intro guard
  simp [eq_comm]

section Calls

variable {shutdown : ConnM Unit} (inside : HeldInside writing serials s.held)
  (running : Running s.own)

/-- A shutdown inside the shutdown waits for `closeOnce`. -/
def Blocks (shutdown : ConnM Unit) : Prop :=
  ∀ s : Holding Guard ConnFlags, Running s.own → .closeOnce ∈ s.held → Waits shutdown s

include inside running

theorem subscriptionDo_returns
    {body : ConnM Unit} {sub : Nat}
    (returns : Returns Running body ⟨.subOnce sub :: s.held, s.own⟩ ()) :
    Returns Running (subscriptionDo sub body) s () := by
  have result : .subMu sub ∉ .subOnce sub :: s.held := by
    simpa using inside.free rfl
  suffices decided : Decides Running True (subscriptionDo sub body) s () from
    decided.returns trivial
  refine .get ?_
  split_ifs
  · exact Returns.decides (returns_pure running) trivial
  · refine .guarded (inside.free rfl) (Returns.decides ?_ trivial)
    refine returns.bind fun own kept => ?_
    refine (returns_touch result kept).bind fun last also => ?_
    exact ⟨_, rfl, also⟩

theorem closeSubscription_returns (table : Subscribed) (sub : Nat) :
    Returns Running (subscriptionDo sub (touch table.guard)) s () := by
  have free : table.guard ∉ .subOnce sub :: s.held := by
    cases table <;> simpa [Subscribed.guard] using inside.free rfl
  exact subscriptionDo_returns inside running (returns_touch free running)

theorem writeFrame_decides (blocks : Blocks shutdown) (encodes : Bool) :
    Decides Running (writing = false ∧ encodes) (writeFrame shutdown encodes) s true := by
  refine .get ?_
  rw [if_neg (by simp [running.1])]
  cases writing with
  | true =>
    have held := (inside .writeMu).mpr (.inr (.inl ⟨rfl, rfl⟩))
    exact ⟨by rintro ⟨⟨⟩, -⟩, fun _ => waits_guarded held⟩
  | false =>
    have free : .writeMu ∉ s.held := by
      rw [inside]
      simp
    refine .guarded free ?_
    cases encodes with
    | true => exact Returns.decides (returns_pure running) ⟨rfl, rfl⟩
    | false =>
      have nested : Waits shutdown ⟨.writeMu :: s.held, s.own⟩ :=
        blocks _ running (List.mem_cons_of_mem _ ((inside .closeOnce).mpr (.inl rfl)))
      exact ⟨by rintro ⟨-, ⟨⟩⟩, fun _ => nested.bind⟩

theorem transactRemote_decides (blocks : Blocks shutdown) (call : RemoteCall) :
    Decides Running (Call.Safe writing serials (.transact call))
      (transactRemote shutdown call) s () := by
  have touched (guard : Guard) (plain : guard.plain) (own : ConnFlags)
      (kept : Running own) : Returns Running (touch guard) ⟨s.held, own⟩ () :=
    returns_touch (inside.free plain) kept
  have added (own : ConnFlags) (kept : Running own) :
      Returns Running (addPending call.oneway) ⟨s.held, own⟩ () := by
    cases call.oneway with
    | true => exact returns_pure kept
    | false => exact touched .pendingMu rfl own kept
  have ended (own : ConnFlags) (kept : Running own) :
      Returns Running (awaitReply call.oneway call.ending) ⟨s.held, own⟩ () := by
    fun_cases awaitReply call.oneway call.ending with
    | case1 | case2 => exact returns_pure kept
    | case3 => exact touched .errMu rfl own kept
    | case4 => exact touched .pendingMu rfl own kept
    | case5 => exact (touched .pendingMu rfl own kept).bind (touched .errMu rfl)
  refine .get ?_
  cases refused : call.refused with
  | true => exact (returns_pure running).decides (.inl refused)
  | false =>
    rw [if_neg (by simp [running.1])]
    refine (returns_forM running fun _ => touched .exportsMu rfl).bind_decides fun own kept => ?_
    cases ready : call.prepared with
    | false => exact (returns_pure kept).decides (.inr (.inl ready))
    | true =>
      refine (added own kept).bind_decides fun own kept => ?_
      have written := writeFrame_decides (s := ⟨s.held, own⟩) inside kept blocks call.encodes
      refine .of_iff (written.bind fun own kept =>
        Returns.decides (ended own kept) trivial) ?_
      simp [Call.Safe, refused, ready]

end Calls

mutual

variable {shutdown : ConnM Unit}

theorem Call.decides
    (blocks : Blocks shutdown) (call : Call) {serials : List Nat} {s : Holding Guard ConnFlags}
    (inside : HeldInside writing serials s.held) (running : Running s.own) :
    Decides Running (call.Safe writing serials) (call.run shutdown) s () := by
  have exports : Returns Running (touch .exportsMu) s () := returns_touch (inside.free rfl) running
  match call with
  | .close =>
    have nested := blocks s running ((inside .closeOnce).mpr (.inl rfl))
    exact ⟨False.elim, fun _ => nested.bind⟩
  | .transact call => exact transactRemote_decides inside running blocks call
  | .dispatch none handler =>
    exact exports.bind_decides fun own kept =>
      runCalls_decides blocks handler (s := ⟨s.held, own⟩) inside kept
  | .dispatch (some owned) handler =>
    refine exports.bind_decides fun own kept => ?_
    by_cases came : owned ∈ serials
    · have held := (inside (.serial owned)).mpr (.inr (.inr ⟨owned, came, rfl⟩))
      exact ⟨fun safe => absurd came safe.1, fun _ => waits_guarded held⟩
    · have free : .serial owned ∉ s.held := by
        rw [inside]
        simpa using came
      refine .of_iff (.guarded free (runCalls_decides blocks handler (inside.cons owned) kept)) ?_
      simp [Call.Safe, came]
  | .closeSubscription table sub =>
    exact Returns.decides (closeSubscription_returns inside running table sub) trivial

theorem runCalls_decides
    (blocks : Blocks shutdown) (calls : List Call)
    {serials : List Nat} {s : Holding Guard ConnFlags}
    (inside : HeldInside writing serials s.held) (running : Running s.own) :
    Decides Running (SafeCalls writing serials calls) (runCalls shutdown calls) s () := by
  match calls with
  | [] => exact Returns.decides (returns_pure running) trivial
  | call :: rest =>
    exact (call.decides blocks inside running).bind fun own kept =>
      runCalls_decides blocks rest (s := ⟨s.held, own⟩) inside kept

end

/-! ## Shutdown -/

variable (found : Registered) (depth : Nat)

theorem shutdown_blocks : Blocks (shutdown found (depth + 1)) := by
  intro s running held
  have decided : Decides Running False (shutdown found (depth + 1)) s () := by
    refine .get ?_
    rw [if_neg (by simp [running.2])]
    exact ⟨False.elim, fun _ => waits_guarded held⟩
  exact decided.waits id

/-- The unsafe callbacks of a shutdown are what makes it wait. -/
theorem shutdown_decides
    (running : Running s.own)
    (inside : HeldInside writing serials (.closeOnce :: s.held)) (fresh : .closeOnce ∉ s.held) :
    Decides (fun _ => True)
      (∀ callback ∈ found.callbacks, SafeCalls writing serials callback)
      (shutdown found (depth + 2)) s () := by
  have plain {inv : ConnFlags → Prop} {own : ConnFlags} (guard : Guard)
      (free : guard.plain) (kept : inv own) :
      Returns inv (touch guard) ⟨.closeOnce :: s.held, own⟩ () :=
    returns_touch (inside.free free) kept
  refine .get ?_
  rw [if_neg (by simp [running.2])]
  refine .guarded fresh ?_
  have noted : Returns Running (noteAllRemoteDeaths found)
      ⟨.closeOnce :: s.held, s.own⟩ () :=
    (plain .exportsMu rfl running).bind fun own kept =>
      (plain .deathMu rfl kept).bind fun own kept =>
        returns_forM kept fun sub own kept =>
          subscriptionDo_returns (s := ⟨_, own⟩) inside kept (returns_pure kept)
  refine noted.bind_decides fun own kept => ?_
  have called : Decides Running
      (∀ callback ∈ found.callbacks, SafeCalls writing serials callback)
      (clearClientState (shutdown found (depth + 1)) found)
      ⟨.closeOnce :: s.held, own⟩ () :=
    (plain .registryMu rfl kept).bind_decides fun own kept =>
      .forM kept fun callback _ own kept =>
        runCalls_decides (shutdown_blocks found depth) callback (s := ⟨_, own⟩) inside kept
  refine .of_iff (called.bind fun own kept =>
    Returns.decides ?_ trivial) (and_iff_left trivial)
  have closed : Returns Running
      (closeAllRemoteSubscriptions found.remoteSubscriptions)
      ⟨.closeOnce :: s.held, own⟩ () := by
    cases found.remoteSubscriptions with
    | none => exact returns_pure kept
    | some subs =>
      exact (plain .handlerMu rfl kept).bind fun own kept =>
        returns_forM kept fun sub own kept =>
          closeSubscription_returns (s := ⟨_, own⟩) inside kept .service sub
  refine closed.bind fun own kept => ?_
  refine (plain .errMu rfl kept).bind fun own kept => ?_
  have marked (own : ConnFlags) :
      Returns (fun _ => True) (touch .pendingMu) ⟨.closeOnce :: s.held, own⟩ () :=
    plain _ rfl trivial
  refine .bind (⟨_, rfl, trivial⟩ : Returns (fun _ => True) _ _ _) fun own _ => ?_
  exact (marked own).bind fun _ _ => ⟨_, rfl, trivial⟩

theorem connectionError_returns (free : .errMu ∉ s.held) :
    Returns (fun _ => True) connectionError s () :=
  returns_touch free trivial

theorem Trigger.decides (trigger : Trigger) (serials ended : List Nat) :
    Decides (fun _ => True)
      (∀ callback ∈ found.callbacks, SafeCalls trigger.writing serials callback)
      (trigger.run found (depth + 2)) (openInside serials ended) () := by
  have opened : Running (openInside serials ended).own := ⟨rfl, rfl⟩
  have decided := shutdown_decides found depth opened (heldInside_open serials)
    (by simp [openInside])
  cases trigger with
  | readError => exact decided
  | close =>
    refine .of_iff (decided.bind fun own _ =>
      Returns.decides (connectionError_returns ?_) trivial)
      (and_iff_left trivial)
    simp [openInside]
  | writeError =>
    have free : .writeMu ∉ (openInside serials ended).held := by
      simp [openInside]
    have nested := shutdown_decides
      (s := ⟨.writeMu :: (openInside serials ended).held, _⟩) found depth
      opened (heldInside_write serials) (by simp [openInside])
    have written : Decides (fun _ => True)
        (∀ callback ∈ found.callbacks, SafeCalls true serials callback)
        (writeFrame (shutdown found (depth + 2)) false)
        (openInside serials ended) false := by
      refine .get (.guarded free ?_)
      refine .of_iff (nested.bind fun own _ =>
        Returns.decides ((connectionError_returns ?_).bind
          fun own _ => returns_pure trivial) trivial) (and_iff_left trivial)
      simp [openInside]
    exact .of_iff (written.bind fun own _ =>
      Returns.decides (returns_pure trivial) trivial) (and_iff_left trivial)

/--
From every open connection and every place that starts a shutdown, its
goroutine never waits for a guard that it holds exactly if every callback of a
service with clients is safe; and then the shutdown returns.
-/
theorem shutdown_never_waits_iff
    (found : Registered) (trigger : Trigger) (serials finished : List Nat) (depth : Nat) :
    (¬ Waits (trigger.run found (depth + 2)) (openInside serials finished) ↔
      ∀ callback ∈ found.callbacks, SafeCalls trigger.writing serials callback) ∧
    (¬ Waits (trigger.run found (depth + 2)) (openInside serials finished) →
      ∃ t, trigger.run found (depth + 2) (openInside serials finished) = .ok () t) := by
  have decides := trigger.decides found depth serials finished
  refine ⟨decides.not_waits_iff, fun never => ?_⟩
  rcases decides.returns (decides.not_waits_iff.mp never) with ⟨own, returned, -⟩
  exact ⟨_, returned⟩

/-- A service with clients has one watch. -/
def watchedBy (callback : List Call) : Registered where
  deathWatches := []
  services := [(true, [some callback])]
  remoteSubscriptions := some []

/--
A callback that closes the connection waits for `closeOnce`, and one that sends
a request after a failed frame write waits for `writeMu`.
-/
theorem callbacks_wait_for_themselves :
    Waits (Trigger.close.run (watchedBy [.close]) 2) (openInside [] []) ∧
      Waits (Trigger.writeError.run
        (watchedBy [.transact ⟨false, 0, true, true, true, .reply⟩]) 2)
        (openInside [] []) :=
  ⟨⟨.closeOnce, _, rfl, by decide⟩, ⟨.writeMu, _, rfl, by decide⟩⟩

end Libbinder.Rpc
