import Libbinder.Kernel.DeathBacking
import Libbinder.Runtime.Holding

/-!
# Watches on a connection

The references of a connection together with its death registry.  A call of
`watchDeath` is followed from `retainWatch` on: it goes through the registry,
returns a tracked subscription or releases again, and the goroutine of the
tracked subscription releases once the subscription is done.  The number of the
call in the list is the number of its subscription in the registry.
-/

namespace Libbinder.Kernel.DeathRegistry

open Go Function

/-! ## What the registry does to a subscription -/

section Links

variable {r t : DeathRegistry}

/-- A subscription after a step: its link is the old one. -/
structure Linked (r t : DeathRegistry) (sub : Nat) : Prop where
  attached : (r.phase sub).attached
  handle : (t.watch (t.target sub)).handle = (r.watch (r.target sub)).handle
  done : t.done sub = none → r.done sub = none

theorem Keeps.linked (same : Keeps r t) {sub : Nat} (attached : (t.phase sub).attached) :
    Linked r t sub where
  attached := by
    rwa [same.phase] at attached
  handle := by
    rw [same.target]
    exact same.handle _
  done := same.done sub

/-- A `Watch` call moves on without a new subscription. -/
theorem Linked.setPhase
    {sub other : Nat} {phase : WatchPhase} (same : Keeps r t)
    (begun : phase.attached → (r.phase sub).attached)
    (attached : ((t.setPhase sub phase).phase other).attached) :
    Linked r (t.setPhase sub phase) other where
  attached := by
    rw [phase_setPhase] at attached
    split_ifs at attached with this
    · rw [this]
      exact begun attached
    · rwa [same.phase] at attached
  handle := by
    change (t.watch (t.target other)).handle = _
    rw [same.target]
    exact same.handle _
  done := same.done other

/-- `attach` links the new subscription with a watch of its handle. -/
theorem linked_attach
    {handle : UInt32} {sub other : Nat} (indexed : Indexed r)
    (tied : ((r.attach handle sub).phase other).attached) :
    other = sub ∧
        ((r.attach handle sub).watch ((r.attach handle sub).target other)).handle = handle ∨
      Linked r (r.attach handle sub) other := by
  unfold DeathRegistry.attach at tied ⊢
  by_cases closed : r.closed
  · rw [if_pos closed] at tied ⊢
    exact .inr (.setPhase (.refl r) nofun tied)
  · rw [if_neg closed] at tied ⊢
    cases found : r.byHandle.lookup handle with
    | some w =>
      simp only [found] at tied ⊢
      by_cases same : other = sub
      · left
        refine ⟨same, ?_⟩
        change ((r.setWatch w _).watch (update r.target sub w other)).handle = handle
        rw [same, update_self, handle_setWatch]
        · exact (indexed.handles handle w found).2
        · rfl
      · right
        rw [phase_setPhase, if_neg same] at tied
        refine ⟨tied, ?_, id⟩
        change ((r.setWatch w _).watch (update r.target sub w other)).handle = _
        rw [update_of_ne same, handle_setWatch]
        rfl
    | none =>
      simp only [found] at tied ⊢
      by_cases same : other = sub
      · left
        refine ⟨same, ?_⟩
        change ((r.grow handle [sub]).watch
          (update r.target sub r.watchCount other)).handle = handle
        rw [same, update_self, watch_grow, if_pos rfl]
      · right
        rw [phase_setPhase, if_neg same] at tied
        refine ⟨tied, ?_, id⟩
        change ((r.grow handle [sub]).watch (update r.target sub r.watchCount other)).handle = _
        rw [update_of_ne same, watch_grow, if_neg (Nat.ne_of_lt (indexed.targets other tied))]

/-- A step makes no subscription but by `attach`. -/
theorem linked_step
    {label : DeathLabel} {other : Nat} (indexed : Indexed r) (ran : deathStep r label = some t)
    (tied : (t.phase other).attached) :
    (∃ handle, label = .attach handle other ∧ (t.watch (t.target other)).handle = handle) ∨
      Linked r t other := by
  cases effect_step ran with
  | keeps same => exact .inr (same.linked tied)
  | moves same begun _ => exact .inr (.setPhase same begun tied)
  | grant asks =>
    right
    refine ⟨?_, rfl, id⟩
    rw [phase_setPhase] at tied
    split_ifs at tied with this
    · rw [this, asks]
      rfl
    · exact tied
  | attach idle =>
    rcases linked_attach indexed tied with ⟨rfl, same⟩ | linked
    · exact .inl ⟨_, rfl, same⟩
    · exact .inr linked

end Links

end Libbinder.Kernel.DeathRegistry

namespace Libbinder.Runtime

open Go Option
open Kernel

/-! ## The connection -/

/-- References and deaths side by side. -/
structure Connection where
  references : RefState
  deaths : DeathRegistry
  /-- The calls of `watchDeath` from `retainWatch` on. -/
  calls : List Watch

/-- The label belongs to a call of `watchDeath`. -/
def RefLabel.ofWatch : RefLabel → Bool
  | .retainWatch _ => true
  | .watchResult _ _ => true
  | .subscriptionDone _ => true
  | _ => false

inductive ConnectionLabel where
  /-- everything before `retainWatch` and outside `watchDeath` -/
  | references (label : RefLabel)
  | retainWatch (handle : UInt32)
  | deaths (label : DeathLabel)
  /-- `watchDeath` returns the tracked subscription -/
  | watchReturns (sub : Nat)
  /-- `watchDeath` releases after an error of the registry -/
  | watchFails (sub : Nat)
  /-- `release` of the tracked subscription, once it is done -/
  | release (sub : Nat)

namespace Connection

def init : Connection where
  references := .init
  deaths := .init
  calls := []

/-- The registry is called by `watchDeath` after `retainWatch`. -/
def admits (c : Connection) : DeathLabel → Bool
  | .attach handle sub => c.calls[sub]? = some ⟨handle, .retained⟩
  | .reject sub => (c.calls[sub]?).isSome
  | _ => true

/-- The call moves on and the references follow. -/
def moveCall (c : Connection) (sub : Nat) (label : RefLabel)
    (call : Watch) : Option Connection :=
  (refStep c.references label).map fun next =>
    { c with references := next, calls := c.calls.set sub call }

end Connection

open Connection

/-- One atomic action. -/
def connectionStep (c : Connection) : ConnectionLabel → Option Connection
  | .references label =>
    if label.ofWatch then none
    else
      (refStep c.references label).map fun next =>
        { c with references := next }
  | .retainWatch handle =>
    (refStep c.references (.retainWatch handle)).map fun next =>
      { c with
        references := next
        calls := c.calls ++ [⟨handle, .retained⟩] }
  | .deaths label =>
    if c.admits label then
      (deathStep c.deaths label).map fun next => { c with deaths := next }
    else none
  | .watchReturns sub =>
    match c.calls[sub]? with
    | some ⟨handle, .retained⟩ =>
      if c.deaths.phase sub = .returned then
        c.moveCall sub (.watchResult handle true) ⟨handle, .subscribed⟩
      else none
    | _ => none
  | .watchFails sub =>
    match c.calls[sub]? with
    | some ⟨handle, .retained⟩ =>
      if c.deaths.phase sub = .failed then
        c.moveCall sub (.watchResult handle false) ⟨handle, .released⟩
      else none
    | _ => none
  | .release sub =>
    match c.calls[sub]? with
    | some ⟨handle, .subscribed⟩ =>
      if c.deaths.done sub = none then none
      else
        c.moveCall sub (.subscriptionDone handle) ⟨handle, .released⟩
    | _ => none

/-- All runs of one connection. -/
def connections : System Connection ConnectionLabel where
  init := .init
  step := connectionStep

namespace RefState

variable {s t : RefState} {handle : UInt32} {successors : List RefStage} {old : RefStage}

/-- A stage moves on, whatever becomes of the rest of the state. -/
theorem watches_change
    {before : RefState} (moved : before.advance old successors = some t)
    (stages : before.stages = s.stages) :
    (t.uses handle).watches =
      (s.uses handle).watches - old.watchUse handle +
        total (RefStage.watchUse handle) successors := by
  rcases advance_eq_some.mp moved with ⟨mem, rfl⟩
  unfold uses
  rw [← stages]
  exact total_advanceStage _ _ mem

theorem watches_advance
    {before : RefState} (moved : before.advance old successors = some t)
    (stages : before.stages = s.stages)
    (same : total (RefStage.watchUse handle) successors = old.watchUse handle) :
    (t.uses handle).watches = (s.uses handle).watches := by
  rw [watches_change moved stages, same, Int.sub_add_cancel]

/-- Only the labels of `watchDeath` change the number of watches. -/
theorem watches_step
    {label : RefLabel} (other : label.ofWatch = false) (ran : refStep s label = some t) :
    (t.uses handle).watches = (s.uses handle).watches := by
  cases label with
  | openBinder | markAcquired =>
    cases ran
    exact Int.zero_add _
  | closeBinder | finishAcquire =>
    refine watches_advance ran rfl ?_
    split_ifs <;> rfl
  | ensure _ _ =>
    cases ran
    simp only [uses, total_cons]
    split_ifs <;> exact Int.zero_add _
  | beginAcquire _ _ =>
    refine watches_advance ran rfl ?_
    split <;> rfl
  | wake _ _ _ =>
    rcases ite_none_right_eq_some.mp ran with ⟨_, moved⟩
    exact watches_advance moved rfl rfl
  | cancelWait | refuse | accept | collect | abandon | discard | transact
  | acceptRelease | dropRelease | bindMarked => exact watches_advance ran rfl rfl
  | run _ _ ok | runOrphan _ ok =>
    cases ok with
    | false | true => exact watches_advance ran rfl rfl
  | retainWatch | watchResult | subscriptionDone => cases other
  | runRelease freed purpose ok _ =>
    cases ok with
    | false | true =>
      refine watches_advance ran rfl ?_
      cases purpose <;> split_ifs <;> rfl
  | deliver _ _ =>
    simp only [refStep] at ran
    split at ran
    · cases ran
      rfl
    · cases ran
      exact Int.zero_add _
  | receive objects _ =>
    cases objects with
    | nil => exact watches_advance ran rfl rfl
    | cons object rest =>
      simp only [refStep] at ran
      split_ifs at ran
      · exact watches_advance ran rfl rfl
      · exact watches_advance ran rfl rfl
      · exact watches_advance ran rfl rfl

theorem watches_dropRef
    {freed : UInt32} {binder : Bool} (gone : s.dropRef old freed binder = some t) :
    (t.uses handle).watches = (s.uses handle).watches - old.watchUse handle := by
  unfold dropRef at gone
  rw [watches_change gone rfl]
  split_ifs <;> exact Int.add_zero _

end RefState

open RefState

namespace Connection

/-- The watch of a subscription. -/
def watchOf (c : Connection) (sub : Nat) : DeathWatch :=
  c.deaths.watch (c.deaths.target sub)

/--
The subscription is not finished and the driver has the registration of its
watch.
-/
def Registered (c : Connection) (sub : Nat) : Prop :=
  (c.deaths.phase sub).attached ∧ c.deaths.done sub = none ∧
    c.deaths.granted (c.watchOf sub).cookie ∧
    c.deaths.cleared (c.watchOf sub).cookie = false

/-- The process holds a reference on every handle it watches. -/
def WatchedHeld (c : Connection) : Prop :=
  ∀ sub, c.Registered sub → (c.watchOf sub).handle ≠ 0 →
    c.references.releases (c.watchOf sub).handle < c.references.acquires (c.watchOf sub).handle

/--
A watch is retained while its handle is recorded as acquired, a handle is
marked while the process holds a reference for it, and no counter overflows.
-/
def Guarded (c : Connection) : ConnectionLabel → Prop
  | .references label => c.references.Backed label
  | .retainWatch handle => c.references.Backed (.retainWatch handle)
  | .deaths label => DeathRegistry.Fresh c.deaths label
  | _ => True

instance decidableGuarded (c : Connection) (label : ConnectionLabel) :
    Decidable (Guarded c label) := by
  unfold Guarded
  cases label <;> infer_instance

/-- The invariant behind watched handles. -/
structure Connected (c : Connection) : Prop where
  held : c.references.Held
  indexed : c.deaths.Indexed
  uses : ∀ handle, (c.references.uses handle).watches = total (Watch.weight handle) c.calls
  linked : ∀ sub, (c.deaths.phase sub).attached →
      ∃ call, c.calls[sub]? = some call ∧
        (c.watchOf sub).handle = call.handle ∧
        (c.deaths.done sub = none → call.stage ≠ .released)

theorem Connected.init : Connected .init where
  held := .init
  indexed := .init
  uses := fun _ => rfl
  linked := by rintro _ ⟨⟩

section Changes

variable {c : Connection} {handle : UInt32} {next : RefState} {sub : Nat}

/-- A call moves on; an unfinished subscription keeps it unreleased. -/
theorem Connected.moveCall
    {before after : WatchStage} (connected : Connected c)
    (found : c.calls[sub]? = some ⟨handle, before⟩) (held : next.Held)
    (uses : ∀ other,
        (next.uses other).watches =
          (c.references.uses other).watches -
            Watch.weight other ⟨handle, before⟩ +
            Watch.weight other ⟨handle, after⟩)
    (unfreed : (c.deaths.phase sub).attached → c.deaths.done sub = none → after ≠ .released) :
    Connected { c with
      references := next
      calls := c.calls.set sub ⟨handle, after⟩ } where
  held := held
  indexed := connected.indexed
  uses := by
    intro other
    rw [total_set _ _ found, uses other, connected.uses other]
  linked := by
    intro other tied
    rcases connected.linked other tied with ⟨call, known, sameHandle, alive⟩
    by_cases same : other = sub
    · subst same
      rw [found] at known
      cases known
      refine ⟨⟨handle, after⟩, ?_, sameHandle, unfreed tied⟩
      rw [List.getElem?_set_self]
      exact (List.getElem?_eq_some_iff.mp found).1
    · refine ⟨call, ?_, sameHandle, alive⟩
      rwa [List.getElem?_set_ne (.symm same)]

theorem Connected.retainWatch
    (connected : Connected c) (backed : c.references.Backed (.retainWatch handle))
    (ran : refStep c.references (.retainWatch handle) = some next) :
    Connected { c with
      references := next
      calls := c.calls ++ [⟨handle, .retained⟩] } where
  held := connected.held.step backed ran
  indexed := connected.indexed
  uses := by
    intro other
    have change :
        (next.uses other).watches =
          (c.references.uses other).watches - 0 +
            total (RefStage.watchUse other) [.watching handle] :=
      watches_change ran rfl
    rw [total_append, ← connected.uses other, change]
    simp [RefStage.watchUse, Watch.weight, indicator]
  linked := by
    intro other tied
    rcases connected.linked other tied with ⟨call, known, rest⟩
    refine ⟨call, ?_, rest⟩
    rwa [List.getElem?_append_left (List.getElem?_eq_some_iff.mp known).1]

theorem Connected.deaths
    {label : DeathLabel} {next : DeathRegistry} (connected : Connected c)
    (admitted : c.admits label) (fresh : DeathRegistry.Fresh c.deaths label)
    (ran : deathStep c.deaths label = some next) : Connected { c with deaths := next } :=
  { connected with
    indexed := connected.indexed.step fresh ran
    linked := by
      intro sub tied
      rcases DeathRegistry.linked_step connected.indexed ran tied with ⟨handle, rfl, same⟩ | linked
      · refine ⟨_, of_decide_eq_true admitted, same, ?_⟩
        intro _
        exact nofun
      · rcases connected.linked sub linked.attached with ⟨call, known, sameHandle, alive⟩
        exact ⟨call, known, linked.handle.trans sameHandle,
          fun still => alive (linked.done still)⟩ }

theorem Connected.watchReturns
    (linked : Connected c) (found : c.calls[sub]? = some ⟨handle, .retained⟩)
    (ran : refStep c.references (.watchResult handle true) = some next) :
    Connected { c with
      references := next
      calls := c.calls.set sub ⟨handle, .subscribed⟩ } := by
  have backed : c.references.Backed (.watchResult handle true) := trivial
  refine linked.moveCall found (linked.held.step backed ran) ?_ fun _ _ => nofun
  intro other
  have same : (next.uses other).watches = (c.references.uses other).watches :=
    watches_advance ran rfl (Int.add_zero _)
  simp [same, Watch.weight]

/-- A call releases the handle; its subscription is finished or was none. -/
theorem Connected.releases
    {before : WatchStage} {old : RefStage} (linked : Connected c)
    (found : c.calls[sub]? = some ⟨handle, before⟩) (unfreed : before ≠ .released)
    (held : next.Held) (gone : c.references.dropRef old handle false = some next)
    (use : ∀ other, old.watchUse other = indicator handle other)
    (ended : (c.deaths.phase sub).attached → c.deaths.done sub ≠ none) :
    Connected { c with
      references := next
      calls := c.calls.set sub ⟨handle, .released⟩ } := by
  refine linked.moveCall found held ?_ ?_
  · intro other
    rw [watches_dropRef gone, use other]
    simp [Watch.weight, indicator, unfreed]
  · intro tied still
    exact absurd still (ended tied)

end Changes

/-! ## Whole runs -/

/-- Every guarded step keeps the watches connected. -/
theorem Connected.step
    {c d : Connection} {label : ConnectionLabel} (linked : Connected c)
    (guarded : c.Guarded label) (ran : connectionStep c label = some d) : Connected d := by
  cases label with
  | references label =>
    rcases ite_none_left_eq_some.mp ran with ⟨other, moved⟩
    rcases map_eq_some_iff.mp moved with ⟨next, acted, rfl⟩
    exact { linked with
      held := linked.held.step guarded acted
      uses := by
        intro handle
        refine (watches_step ?_ acted).trans (linked.uses handle)
        exact Bool.eq_false_iff.mpr other }
  | retainWatch handle =>
    rcases map_eq_some_iff.mp ran with ⟨next, acted, rfl⟩
    exact linked.retainWatch guarded acted
  | deaths label =>
    rcases ite_none_right_eq_some.mp ran with ⟨admitted, moved⟩
    rcases map_eq_some_iff.mp moved with ⟨next, acted, rfl⟩
    exact linked.deaths admitted guarded acted
  | watchReturns sub =>
    simp only [connectionStep] at ran
    split at ran
    · rename_i handle found
      rcases ite_none_right_eq_some.mp ran with ⟨-, moved⟩
      rcases map_eq_some_iff.mp moved with ⟨next, acted, rfl⟩
      exact linked.watchReturns found acted
    · cases ran
  | watchFails sub =>
    simp only [connectionStep] at ran
    split at ran
    · rename_i handle found
      rcases ite_none_right_eq_some.mp ran with ⟨failed, moved⟩
      rcases map_eq_some_iff.mp moved with ⟨next, acted, rfl⟩
      have backed : c.references.Backed (.watchResult handle false) := trivial
      refine linked.releases found nofun (linked.held.step backed acted) acted (fun _ => rfl) ?_
      intro tied
      rw [failed] at tied
      cases tied
    · cases ran
  | release sub =>
    simp only [connectionStep] at ran
    split at ran
    · rename_i handle found
      rcases ite_none_left_eq_some.mp ran with ⟨ended, moved⟩
      rcases map_eq_some_iff.mp moved with ⟨next, acted, rfl⟩
      have backed : c.references.Backed (.subscriptionDone handle) := trivial
      exact linked.releases found nofun (linked.held.step backed acted) acted (fun _ => rfl)
        fun _ => ended
    · cases ran

/-- An unreleased call keeps a reference of its handle. -/
theorem Connected.reference
    {c : Connection} {sub : Nat} {call : Watch} (linked : Connected c)
    (found : c.calls[sub]? = some call) (alive : call.stage ≠ .released)
    (nonzero : call.handle ≠ 0) :
    c.references.releases call.handle < c.references.acquires call.handle := by
  have watched : 0 < (c.references.uses call.handle).watches := by
    have below := weight_le_total (Watch.weight_nonneg call.handle) (List.mem_of_getElem? found)
    rw [Watch.weight_live alive, indicator_self] at below
    rwa [linked.uses]
  have acquired := linked.held.kept call.handle nonzero watched
  have covered := linked.held.covered call.handle
  have inFlight := RefStage.weight_nonneg call.handle c.references.stages
  rw [acquired, Bool.toInt_true] at covered
  omega

/--
In every state reached by guarded steps, the process holds a reference, not yet
released to the driver, on every non-zero handle whose death watch is
registered on behalf of an unfinished subscription.
-/
theorem guarded_watched_handles_held
    {c : Connection} (reaches : connections.Reaches Guarded c) : c.WatchedHeld := by
  have connected : Connected c :=
    System.Reaches.invariant Connected.init
      (fun _ _ _ connected guarded stepped =>
        connected.step guarded stepped) reaches
  rintro sub ⟨attached, unfinished, -, -⟩ nonzero
  rcases connected.linked sub attached with ⟨call, found, sameHandle, alive⟩
  rw [sameHandle] at nonzero ⊢
  exact connected.reference found (alive unfinished) nonzero

/-- A proxy is open and its handle is acquired for a watch. -/
def acquiredRun : List ConnectionLabel :=
  [.references (.openBinder 7), .references (.ensure 7 .watch),
    .references (.beginAcquire 7 .watch), .references (.accept 7 .watch),
    .references (.run 7 .watch true), .references (.collect 7 true .watch),
    .references (.finishAcquire 7 true .watch)]

/-- The proxy is closed only after the watch has retained its handle. -/
def watchedRun : List ConnectionLabel :=
  acquiredRun ++ [.retainWatch 7, .references (.closeBinder 7), .deaths (.attach 7 0),
    .deaths (.grant 0), .deaths (.return_ 0), .watchReturns 0]

theorem watchedRun_meets : connections.Meets Guarded watchedRun .init := by
  decide +kernel

theorem guarded_watched_handles_held_closed :
    ∃ c : Connection,
      connections.run watchedRun Connection.init = some c ∧
        c.Registered 0 ∧ (c.watchOf 0).handle = 7 ∧ c.WatchedHeld := by
  refine ⟨_, rfl, ⟨rfl, rfl, rfl, rfl⟩, rfl, ?_⟩
  exact guarded_watched_handles_held (System.Reaches.start.of_run watchedRun_meets rfl)

/--
The proxy is closed between the acquire and `retainWatch`, and the driver
carries the release out.
-/
def closedBetweenRun : List ConnectionLabel :=
  acquiredRun ++ [.references (.closeBinder 7), .references (.acceptRelease 7 none),
    .references (.runRelease 7 none true true), .retainWatch 7,
    .deaths (.attach 7 0), .deaths (.grant 0), .deaths (.return_ 0), .watchReturns 0]

/-- The watch is registered for a subscription and no reference is left. -/
theorem watched_handle_released :
    ∃ c : Connection,
      connections.run closedBetweenRun Connection.init = some c ∧
        c.Registered 0 ∧ (c.watchOf 0).handle = 7 ∧
        c.references.acquires 7 = 1 ∧ c.references.releases 7 = 1 :=
  ⟨_, rfl, ⟨rfl, rfl, rfl, rfl⟩, rfl, rfl, rfl⟩

end Connection

end Libbinder.Runtime
