import Libbinder.Kernel.DeathShutdown

/-!
# Requests and clears at the driver

Which watches the driver has a registration for, over the interleavings of
`Watch` and of `Close` on subscriptions: from the moment the driver grants the
request until it takes the clear; a clear it refuses changes nothing.  Deaths
and the shutdown of the registry are left out.

The request function hands the request to the client worker and waits for it.
When the context of `Watch` ends first, `Watch` returns an error although the
driver may still grant the request.

The last `Close` of a watch takes it out of `byHandle` and releases the lock
before it calls the clear function.  A `Watch` of the same handle that comes
in between finds no watch and requests another registration.
-/

namespace Libbinder.Kernel

open WatchPhase

open Go Option Function
open DeathRegistry

/-- What the driver has of the request of a watch. -/
inductive Request where
  /-- Nothing: it was not granted, or the driver took the clear. -/
  | none
  /-- The request function returned an error, and the request is still on its way. -/
  | abandoned
  /-- The driver granted it and took no clear. -/
  | registered
  deriving DecidableEq

/-- The registry and what the driver keeps for it. -/
structure Registrations where
  registry : DeathRegistry
  request : Nat → Request

/-- The actions of the registry and of the driver. -/
inductive RegistrationLabel where
  /-- An action of the registry; a refusal is one by the driver. -/
  | act (label : DeathLabel)
  /-- The context ends while the request is on its way. -/
  | abandon (sub : Nat)
  /-- The driver grants a request that its `Watch` has given up. -/
  | lateGrant (watch : Nat)
  /-- The driver is given the clear of a watch and refuses it. -/
  | clearRefused (watch : Nat)

/-- The actions of `Watch` and of `Close` on a subscription. -/
def DeathLabel.watching : DeathLabel → Bool
  | .notifyDead _ => false
  | .close => false
  | .closeFinish => false
  | .closeReturn => false
  | .closeAgain => false
  | _ => true

namespace Registrations

/-- Nothing is watched. -/
def init : Registrations where
  registry := .init
  request := fun _ => .none

/-- The requests after an action of the registry. -/
def requestAfter (s : Registrations) : DeathLabel → Nat → Request
  | .grant sub => update s.request (s.registry.target sub) .registered
  | .issueClear w => update s.request w .none
  | _ => s.request

end Registrations

open Registrations

/--
One atomic action.  A grant whose `Watch` gives up before it learns of it is a
late one: until then its watch is the current one of the handle in any case.
-/
def registrationStep (s : Registrations) : RegistrationLabel → Option Registrations
  | .act label =>
    if label.watching then
      (deathStep s.registry label).map fun next => ⟨next, s.requestAfter label⟩
    else none
  | .abandon sub =>
    (deathStep s.registry (.refuse sub)).map fun next =>
      ⟨next, update s.request (s.registry.target sub) .abandoned⟩
  | .lateGrant w =>
    if s.request w = .abandoned then some { s with request := update s.request w .registered }
    else none
  | .clearRefused w =>
    (deathStep s.registry (.issueClear w)).map fun next => { s with registry := next }

/-- The runs of `Watch` and of `Close` on subscriptions. -/
def registrations : System Registrations RegistrationLabel where
  init := init
  step := registrationStep

/-- The request of the watch may be at the driver, or it was refused. -/
def WatchPhase.asking : WatchPhase → Bool
  | .requesting => true
  | .refused => true
  | _ => false

theorem WatchPhase.attached_of_asking {phase : WatchPhase} (asking : phase.asking) :
    phase.attached := by
  cases phase <;> first | rfl | cases asking

/-- The request function was called for the watch and has not returned. -/
def DeathRegistry.Requesting (r : DeathRegistry) (w : Nat) : Prop :=
  ∃ sub, r.phase sub = .requesting ∧ r.target sub = w

namespace Registrations

/-- The cookie counter does not wrap around. -/
def Fresh (s : Registrations) : RegistrationLabel → Prop
  | .act label => DeathRegistry.Fresh s.registry label
  | _ => True

/-- Every other watch of the handle is neither registered nor being requested. -/
def Alone (s : Registrations) (w : Nat) : Prop :=
  ∀ v, v < s.registry.watchCount → v ≠ w →
    (s.registry.watch v).handle = (s.registry.watch w).handle →
    s.request v ≠ .registered ∧ ¬ s.registry.Requesting v

/--
While a watch is registered, no other watch of its handle is registered or
being requested.
-/
def SingleRegistration (s : Registrations) : Prop :=
  ∀ w, w < s.registry.watchCount → s.request w = .registered → s.Alone w

/--
A `Watch` that makes a new watch does so when no earlier watch of the handle is
registered any more, and a request that its `Watch` has given up is granted
only when no other watch of the handle is registered or being requested.
-/
def AfterClear (s : Registrations) : RegistrationLabel → Prop
  | .act (.attach handle _) =>
    s.registry.byHandle.lookup handle = none →
      ∀ v, v < s.registry.watchCount → (s.registry.watch v).handle = handle →
        s.request v ≠ .registered
  | .lateGrant w => s.Alone w
  | _ => True

/-- The invariant behind single registrations. -/
structure Requested (s : Registrations) : Prop where
  indexed : Indexed s.registry
  stillOpen : s.registry.closed = false
  /-- The watch of a request stays the current one of its handle. -/
  listed : ∀ sub, (s.registry.phase sub).asking → s.registry.Listed (s.registry.target sub)
  /-- Only the `Watch` that made a watch requests it. -/
  unique : ∀ sub other, (s.registry.phase sub).asking →
      (s.registry.phase other).asking →
      s.registry.target sub = s.registry.target other → sub = other
  known : ∀ v, s.request v ≠ .none → v < s.registry.watchCount
  single : s.SingleRegistration

theorem Requested.init : Requested .init where
  indexed := .init
  stillOpen := rfl
  listed := by rintro _ ⟨⟩
  unique := by rintro _ _ ⟨⟩
  known := fun _ requested => absurd rfl requested
  single := by rintro _ ⟨⟩

section Changes

variable {r t : DeathRegistry} {live now : Nat → Request} {sub : Nat} {handle : UInt32}

theorem attach_eq_grow (alive : r.closed = false) (none_ : r.byHandle.lookup handle = none) :
    r.attach handle sub =
      { r.grow handle [sub] with
        target := update r.target sub r.watchCount }.setPhase sub .requesting := by
  unfold DeathRegistry.attach
  rw [alive, none_]
  rfl

theorem asking_of_requesting (asks : r.phase sub = .requesting) : (r.phase sub).asking := by
  rw [asks]
  rfl

variable (requested : Requested ⟨r, live⟩)

include requested

/-- One request of a handle is being made at a time. -/
theorem Requested.target_eq
    {v : Nat} (asks : r.phase sub = .requesting) (askedToo : r.Requesting v)
    (same : (r.watch v).handle = (r.watch (r.target sub)).handle) : v = r.target sub := by
  obtain ⟨other, otherAsks, rfl⟩ := askedToo
  have listed := requested.listed sub (asking_of_requesting asks)
  have listedOther := requested.listed other (asking_of_requesting otherAsks)
  unfold Listed at listed listedOther
  rw [same] at listedOther
  exact Option.some.inj (listedOther.symm.trans listed)

/-- A step that makes no watch and neither asks for one nor registers one. -/
theorem Requested.keep
    (indexed : Indexed t) (closed : t.closed = r.closed) (watchCount : t.watchCount = r.watchCount)
    (handle : ∀ v, (t.watch v).handle = (r.watch v).handle)
    (asking : ∀ sub, (t.phase sub).asking →
        (r.phase sub).asking ∧ t.target sub = r.target sub ∧ t.Listed (t.target sub))
    (requesting : ∀ sub, t.phase sub = .requesting → r.phase sub = .requesting)
    (known : ∀ v, now v ≠ .none → v < r.watchCount)
    (fewer : ∀ v, now v = .registered → live v = .registered) :
    Requested ⟨t, now⟩ where
  indexed := indexed
  stillOpen := closed.trans requested.stillOpen
  listed := fun sub now => (asking sub now).2.2
  unique := by
    intro sub other now nowOther same
    rcases asking sub now with ⟨was, target, -⟩
    rcases asking other nowOther with ⟨wasOther, targetOther, -⟩
    refine requested.unique sub other was wasOther ?_
    rwa [← target, ← targetOther]
  known := by
    rwa [watchCount]
  single := by
    intro w below registered v belowV apart same
    rw [watchCount] at below belowV
    rw [handle, handle] at same
    rcases requested.single w below (fewer w registered) v belowV apart same with ⟨free, unasked⟩
    refine ⟨fun also => free (fewer v also), ?_⟩
    rintro ⟨sub, asks, aimed⟩
    refine unasked ⟨sub, requesting sub asks, ?_⟩
    rwa [← (asking sub (asking_of_requesting asks)).2.1]

/-- A `Watch` call moves on, and requests nothing. -/
theorem Requested.setPhase
    {phase : WatchPhase} (indexed : Indexed (r.setPhase sub phase)) (quiet : phase ≠ .requesting)
    (was : phase.asking → (r.phase sub).asking) : Requested ⟨r.setPhase sub phase, live⟩ := by
  refine requested.keep indexed rfl rfl (fun _ => rfl) ?_ ?_ requested.known fun _ => id
  · intro other now
    rw [phase_setPhase] at now
    split_ifs at now with same
    · rw [same]
      exact ⟨was now, rfl, requested.listed sub (was now)⟩
    · exact ⟨now, rfl, requested.listed other now⟩
  · intro other now
    rw [phase_setPhase] at now
    split_ifs at now with same
    · exact absurd now quiet
    · exact now

variable {w : Nat}

/-- The driver has less of a watch than before. -/
theorem Requested.unregister
    {left : Request} (below : w < r.watchCount) (ended : left ≠ .registered) :
    Requested ⟨r, update live w left⟩ := by
  refine requested.keep requested.indexed rfl rfl (fun _ => rfl)
    (fun sub now => ⟨now, rfl, requested.listed sub now⟩) (fun _ => id) ?_ ?_
  · intro v present
    rw [update_apply] at present
    split_ifs at present with same
    · rwa [same]
    · exact requested.known v present
  · intro v registered
    rw [update_apply] at registered
    split_ifs at registered with same
    · exact absurd registered ended
    · exact registered

/-- A watch is registered beside which no other one of its handle is. -/
theorem Requested.register (below : w < r.watchCount) (alone : Alone ⟨r, live⟩ w) :
    Requested ⟨r, update live w .registered⟩ :=
  { requested with
    known := by
      intro v present
      simp only [update_apply] at present
      split_ifs at present with same
      · rwa [same]
      · exact requested.known v present
    single := by
      intro v belowV registered u belowU apart same
      simp only [update_apply] at registered ⊢
      split_ifs at registered ⊢ with isU isV isV
      · exact absurd (isU.trans isV.symm) apart
      · rw [isU] at same
        exact absurd registered (alone v belowV isV same.symm).1
      · rw [isV] at same
        exact alone u belowU isU same
      · exact requested.single v belowV registered u belowU apart same }

/-- The driver grants the request of a watch. -/
theorem Requested.grant
    (asks : r.phase sub = .requesting)
    (after : t = { r with
        granted := update r.granted (r.watch (r.target sub)).cookie true }.setPhase sub .granted)
    (indexed : Indexed t) : Requested ⟨t, update live (r.target sub) .registered⟩ := by
  subst after
  have below := requested.indexed.targets sub (attached_of_asking (asking_of_requesting asks))
  have logged : Requested
      ⟨{ r with granted := update r.granted (r.watch (r.target sub)).cookie true }, live⟩ :=
    { requested with indexed := { requested.indexed with } }
  refine (logged.setPhase indexed (by decide) (by rintro ⟨⟩)).register below ?_
  intro v belowV apart same
  refine ⟨fun registered => ?_, ?_⟩
  · exact (requested.single v belowV registered _ below (.symm apart) same.symm).2
      ⟨sub, asks, rfl⟩
  · rintro ⟨other, now, aimed⟩
    rw [phase_setPhase] at now
    split_ifs at now
    exact apart (requested.target_eq asks ⟨other, now, aimed⟩ same)

/-- A subscription joins the current watch of its handle. -/
theorem Requested.join
    (indexed : Indexed (r.attach handle sub)) (found : r.byHandle.lookup handle = some w) :
    Requested ⟨r.attach handle sub, live⟩ := by
  have tied :
      r.attach handle sub =
        { r.setWatch w
            { r.watch w with subs := sub :: (r.watch w).subs } with
          target := update r.target sub w }.setPhase sub .joined := by
    unfold DeathRegistry.attach
    rw [requested.stillOpen, found]
    rfl
  rw [tied] at indexed ⊢
  refine requested.keep indexed rfl rfl (fun v => handle_setWatch (by rfl) v) ?_ ?_
    requested.known fun _ => id
  · intro other now
    rw [phase_setPhase] at now
    split_ifs at now with same
    · cases now
    · have target : update r.target sub w other = r.target other := update_of_ne same _ _
      refine ⟨now, target, ?_⟩
      change r.byHandle.lookup ((r.setWatch w _).watch (update r.target sub w other)).handle =
        some (update r.target sub w other)
      rw [target, handle_setWatch]
      · exact requested.listed other now
      · rfl
  · intro other now
    rw [phase_setPhase] at now
    split_ifs at now
    exact now

/-- A handle without a current watch gets a new one. -/
theorem Requested.make
    (indexed : Indexed (r.attach handle sub)) (none_ : r.byHandle.lookup handle = none)
    (clear : ∀ v, v < r.watchCount → (r.watch v).handle = handle → live v ≠ .registered) :
    Requested ⟨r.attach handle sub, live⟩ := by
  rw [attach_eq_grow requested.stillOpen none_] at indexed ⊢
  have target {other : Nat} (apart : other ≠ sub) :
      update r.target sub r.watchCount other = r.target other :=
    update_of_ne apart _ _
  have old {v : Nat} (below : v < r.watchCount) : (r.grow handle [sub]).watch v = r.watch v := by
    rw [watch_grow, if_neg (Nat.ne_of_lt below)]
  have new : (r.grow handle [sub]).watch r.watchCount = ⟨handle, r.nextCookie + 1, [sub], []⟩ := by
    rw [watch_grow, if_pos rfl]
  have below {other : Nat}
      (asking : (r.phase other).asking) :
      r.target other < r.watchCount :=
    requested.indexed.targets other (attached_of_asking asking)
  have stillListed {other : Nat}
      (asking : (r.phase other).asking) :
      (r.grow handle [sub]).Listed (r.target other) := by
    have was := requested.listed other asking
    unfold Listed at was ⊢
    rw [old (below asking), lookup_grow, if_neg]
    · exact was
    · intro same
      rw [same, none_] at was
      cases was
  exact {
    indexed := indexed
    stillOpen := requested.stillOpen
    listed := by
      intro other now
      rw [phase_setPhase] at now
      change (r.grow handle [sub]).Listed (update r.target sub r.watchCount other)
      split_ifs at now with same
      · rw [same, update_self]
        exact listed_grow _ _ _
      · rw [target same]
        exact stillListed now
    unique := by
      intro other another now nowAnother aimed
      rw [phase_setPhase] at now nowAnother
      change update r.target sub r.watchCount other =
          update r.target sub r.watchCount another at aimed
      split_ifs at now nowAnother with same sameAnother sameAnother
      · rw [same, sameAnother]
      · rw [same, update_self, target sameAnother] at aimed
        exact absurd aimed.symm (Nat.ne_of_lt (below nowAnother))
      · rw [sameAnother, update_self, target same] at aimed
        exact absurd aimed (Nat.ne_of_lt (below now))
      · rw [target same, target sameAnother] at aimed
        exact requested.unique other another now nowAnother aimed
    known := fun v present => Nat.lt_succ_of_lt (requested.known v present)
    single := by
      intro w _ registered v belowV apart same
      have belowW : w < r.watchCount :=
        requested.known w fun none => by cases registered.symm.trans none
      have belowV : v < r.watchCount + 1 := belowV
      change ((r.grow handle [sub]).watch v).handle = ((r.grow handle [sub]).watch w).handle at same
      rw [old belowW] at same
      by_cases own : v = r.watchCount
      · rw [own, new] at same
        exact absurd registered (clear w belowW same.symm)
      · have belowV : v < r.watchCount := by omega
        rw [old belowV] at same
        rcases requested.single w belowW registered v belowV apart same with ⟨free, unasked⟩
        refine ⟨free, ?_⟩
        rintro ⟨other, asks, aimed⟩
        rw [phase_setPhase] at asks
        change update r.target sub r.watchCount other = v at aimed
        split_ifs at asks with isSub
        · rw [isSub, update_self] at aimed
          exact own aimed.symm
        · rw [target isSub] at aimed
          exact unasked ⟨other, asks, aimed⟩ }

/-! ### Watches that leave their handle -/

/-- A watch leaves its handle that no `Watch` call asks for afterwards. -/
theorem Requested.unlist
    (indexed : Indexed t) (closed : t.closed = r.closed) (watchCount : t.watchCount = r.watchCount)
    (handle : ∀ v, (t.watch v).handle = (r.watch v).handle) (target : t.target = r.target)
    (byHandle : t.byHandle = (r.dropHandle w).byHandle)
    (asking : ∀ sub, (t.phase sub).asking → t.phase sub = r.phase sub ∧ r.target sub ≠ w) :
    Requested ⟨t, live⟩ := by
  refine requested.keep indexed closed watchCount handle ?_ ?_ requested.known fun _ => id
  · intro sub now
    rcases asking sub now with ⟨phase, apart⟩
    rw [phase] at now
    refine ⟨now, by rw [target], ?_⟩
    unfold Listed
    rw [target, handle, byHandle, lookup_dropHandle]
    exact ⟨requested.listed sub now, apart⟩
  · intro sub now
    rwa [← (asking sub (asking_of_requesting now)).1]

theorem Requested.rollback
    (refused : r.phase sub = .refused)
    (indexed : Indexed ((r.rollback (r.target sub)).setPhase sub .failed)) :
    Requested ⟨(r.rollback (r.target sub)).setPhase sub .failed, live⟩ := by
  rw [rollback_eq] at indexed ⊢
  refine requested.unlist indexed rfl rfl (fun _ => rfl) rfl rfl fun other now => ?_
  rw [phase_setPhase] at now ⊢
  split_ifs at now ⊢ with same
  · cases now
  · refine ⟨rfl, fun aimed => same (requested.unique other sub now ?_ aimed)⟩
    rw [refused]
    rfl

theorem Requested.closeSub (ran : r.phase sub = .returned) :
    Requested
      ⟨{ r.removeSub sub with closeCalled := update r.closeCalled sub true },
        live⟩ := by
  have indexed := requested.indexed.removeSub ran
  rcases removeSub_cases r sub with ⟨watch, byHandle, enders, clearing, cut, handles, -, effect⟩
  rw [cut] at indexed ⊢
  rcases effect with same | ⟨gone, only⟩
  · refine requested.keep indexed rfl rfl handles (fun other now => ⟨now, rfl, ?_⟩) (fun _ => id)
      requested.known fun _ => id
    unfold Listed
    rw [handles, same]
    exact requested.listed other now
  · refine requested.unlist indexed rfl rfl handles rfl gone fun other now => ⟨rfl, fun aimed => ?_⟩
    have asking : (r.phase other).asking := now
    have unreturned : r.phase other ≠ .returned := by
      intro returned
      rw [returned] at asking
      cases asking
    have member :=
      requested.indexed.members other (attached_of_asking asking)
        (requested.indexed.idle other unreturned) (requested.listed other asking)
    rw [aimed] at member
    rw [only other member, ran] at asking
    cases asking

theorem Requested.finishClearing {cookie : UInt64} (isCleared : r.cleared cookie) :
    Requested ⟨r.finishClearing cookie, live⟩ := by
  have indexed := requested.indexed.finishClearing cookie
  cases found : r.byCookie.lookup cookie with
  | none =>
    unfold DeathRegistry.finishClearing
    rwa [found]
  | some w =>
    have unlisted := requested.indexed.unlisted_of_cleared isCleared found
    rw [finishClearing_eq found] at indexed ⊢
    refine requested.unlist indexed rfl rfl (fun v => handle_setWatch (by rfl) v) rfl rfl ?_
    intro sub now
    refine ⟨rfl, ?_⟩
    rintro rfl
    exact unlisted (requested.listed sub now)

end Changes

/-! ## Whole runs -/

variable {label : RegistrationLabel}

/-- A permitted action keeps the invariant. -/
theorem Requested.step
    {s t : Registrations} (requested : Requested s) (fresh : s.Fresh label)
    (afterClear : s.AfterClear label) (ran : registrationStep s label = some t) : Requested t := by
  cases label with
  | lateGrant w =>
    rcases ite_none_right_eq_some.mp ran with ⟨abandoned, result⟩
    cases result
    refine requested.register (requested.known w ?_) afterClear
    rw [abandoned]
    decide
  | clearRefused w =>
    rcases map_eq_some_iff.mp ran with ⟨next, acted, rfl⟩
    have indexed := @Indexed.step _ _ (.issueClear w) requested.indexed trivial acted
    rcases ite_none_right_eq_some.mp acted with ⟨-, result⟩
    cases result
    exact { requested with indexed := indexed }
  | abandon sub =>
    rcases map_eq_some_iff.mp ran with ⟨next, acted, rfl⟩
    have indexed := @Indexed.step _ _ (.refuse sub) requested.indexed trivial acted
    rcases ite_none_right_eq_some.mp acted with ⟨asks, result⟩
    cases result
    have below := requested.indexed.targets sub (attached_of_asking (asking_of_requesting asks))
    have refused := requested.setPhase indexed (by decide) fun _ => asking_of_requesting asks
    exact refused.unregister below (by decide)
  | act label =>
    rcases ite_none_right_eq_some.mp ran with ⟨watching, moved⟩
    rcases map_eq_some_iff.mp moved with ⟨next, acted, rfl⟩
    have indexed := requested.indexed.step fresh acted
    revert acted
    fun_cases deathStep s.registry label <;> rintro ⟨⟩ <;> try cases watching
    · exact requested.setPhase indexed (by decide) (by rintro ⟨⟩)
    · next handle sub _ =>
        cases found : s.registry.byHandle.lookup handle with
        | none => exact requested.make indexed found (afterClear found)
        | some w => exact requested.join indexed found
    · next asks => exact requested.grant asks rfl indexed
    · next asks =>
        exact requested.setPhase indexed (by decide) fun _ => asking_of_requesting asks
    · next refused => exact requested.rollback refused indexed
    · exact requested.setPhase indexed (by decide) (by rintro ⟨⟩)
    · next got => exact requested.closeSub got
    · next sub err _ =>
        rcases exists_finish s.registry sub err with ⟨done, ended⟩
        rw [ended] at indexed ⊢
        exact { requested with indexed := indexed }
    · next w inClearing =>
        have below := (requested.indexed.clearing w inClearing).1
        have issued : Requested { s with registry := _ } := { requested with indexed := indexed }
        exact issued.unregister below (by decide)
    · next isCleared => exact requested.finishClearing isCleared
    · next isCleared => exact requested.finishClearing isCleared

/-- Any other action breaks the property at once. -/
theorem not_single_of_not_afterClear
    {s t : Registrations} (requested : Requested s) (early : ¬ s.AfterClear label)
    (ran : registrationStep s label = some t) : ¬ t.SingleRegistration := by
  cases label with
  | clearRefused | abandon => exact absurd trivial early
  | lateGrant w =>
    rcases ite_none_right_eq_some.mp ran with ⟨abandoned, result⟩
    cases result
    intro single
    refine early fun v below apart same => ?_
    have known : w < s.registry.watchCount := requested.known w (by rw [abandoned]; decide)
    have alone := single w known (update_self ..) v below apart same
    simp only [update_of_ne apart] at alone
    exact alone
  | act label =>
    rcases ite_none_right_eq_some.mp ran with ⟨-, moved⟩
    rcases map_eq_some_iff.mp moved with ⟨next, acted, rfl⟩
    cases label with
    | attach handle sub =>
      rcases ite_none_right_eq_some.mp acted with ⟨-, result⟩
      cases result
      simp only [AfterClear, not_forall, not_not] at early
      rcases early with ⟨none_, v, below, same, known⟩
      intro single
      rw [attach_eq_grow requested.stillOpen none_] at single
      have apart : v ≠ s.registry.watchCount := Nat.ne_of_lt below
      refine (single v (Nat.lt_succ_of_lt below) known s.registry.watchCount
        (Nat.lt_succ_self _) apart.symm ?_).2 ⟨sub, ?_, update_self ..⟩
      · change ((s.registry.grow handle [sub]).watch s.registry.watchCount).handle =
          ((s.registry.grow handle [sub]).watch v).handle
        rw [watch_grow, watch_grow, if_neg apart, if_pos rfl]
        exact same.symm
      · rw [phase_setPhase, if_pos rfl]
    | _ => exact absurd trivial early

/--
In a run of `Watch` and `Close` calls in which the cookie counter does not wrap
around, no watch is registered while another one of its handle is registered or
being requested, exactly if every new watch is made when the earlier ones of
its handle are not registered any more, and no request that was given up is
granted beside another watch of its handle.
-/
theorem single_registration_iff
    {labels : List RegistrationLabel} {s : Registrations}
    (fresh : registrations.Meets Registrations.Fresh labels init)
    (ran : registrations.run labels init = some s) :
    registrations.Throughout SingleRegistration labels init ↔
      registrations.Meets AfterClear labels init :=
  System.throughout_iff_meets_of_assumed
    (fun _ requested => Requested.single requested)
    (fun _ _ _ requested fresh afterClear stepped =>
      Requested.step requested fresh afterClear stepped)
    (fun _ _ _ requested _ early stepped =>
      not_single_of_not_afterClear requested early stepped)
    Requested.init fresh ran

instance decidableFresh (s : Registrations) (label : RegistrationLabel) :
    Decidable (s.Fresh label) :=
  match label with
  | .act label => DeathRegistry.decidableFresh s.registry label
  | .abandon _ | .lateGrant _ | .clearRefused _ => isTrue trivial

/--
A request for the handle 8 is granted after its `Watch` has given up, and the
handle 7 is watched again after the clear of its first watch.
-/
def rewatchedRun : List RegistrationLabel :=
  [.act (.attach 8 0), .abandon 0, .act (.rollback 0), .lateGrant 0,
    .act (.attach 7 1), .act (.grant 1), .act (.return_ 1), .act (.closeSub 1),
    .act (.issueClear 1), .act (.attach 7 2), .act (.grant 2)]

theorem rewatchedRun_afterClear : registrations.Meets AfterClear rewatchedRun .init := by
  refine ⟨by rintro - v ⟨⟩, ?_⟩
  iterate 2
    rintro _ ⟨⟩
    refine ⟨trivial, ?_⟩
  rintro _ ⟨⟩
  refine ⟨fun v below apart => absurd (Nat.lt_one_iff.mp below) apart, ?_⟩
  rintro _ ⟨⟩
  refine ⟨fun _ => by decide +kernel, ?_⟩
  iterate 4
    rintro _ ⟨⟩
    refine ⟨trivial, ?_⟩
  rintro _ ⟨⟩
  refine ⟨fun _ => by decide +kernel, ?_⟩
  rintro _ ⟨⟩
  exact ⟨trivial, fun _ _ => trivial⟩

theorem single_registration_rewatched :
    (registrations.run rewatchedRun init).isSome ∧
      registrations.Throughout SingleRegistration rewatchedRun init := by
  refine ⟨rfl, (single_registration_iff (s := _) ?_ rfl).mpr rewatchedRun_afterClear⟩
  decide +kernel

/-- The handle is watched again before the clear of its first watch. -/
def overlappingRun : List RegistrationLabel :=
  [.act (.attach 7 0), .act (.grant 0), .act (.return_ 0),
    .act (.closeSub 0), .act (.attach 7 1), .act (.grant 1)]

/--
The driver grants the request of a second watch of the handle while the first
one is registered; its clear was not even given to the driver.
-/
theorem two_registrations_of_handle :
    ∃ s : Registrations,
      registrations.run overlappingRun init = some s ∧
        (s.registry.watch 0).handle = (s.registry.watch 1).handle ∧
        (s.registry.watch 0).cookie ≠ (s.registry.watch 1).cookie ∧
        s.request 0 = .registered ∧ s.request 1 = .registered ∧
        s.registry.clearing = [0] ∧ ¬ s.SingleRegistration := by
  refine ⟨_, rfl, rfl, ?_, rfl, rfl, rfl, ?_⟩
  · decide
  · intro single
    exact (single 0 (by decide) rfl 1 (by decide) (by decide) rfl).1 rfl

end Registrations

end Libbinder.Kernel
