import Libbinder.Kernel.DeathIndex

/-!
# Subscriptions are backed by a kernel request

A subscription that `Watch` returned belongs to a watch whose request has
succeeded and whose cookie was not cleared, as long as nobody closed it.  This
holds in runs in which `Watch` never joins a watch whose request is still in
flight, and in which the cookie counter does not wrap around.
-/

namespace Libbinder.Kernel

open Go Function
open DeathRegistry

/-- `Watch` relies on a request of the watch that has succeeded. -/
def WatchPhase.confirmed : WatchPhase → Bool
  | .granted => true
  | .joined => true
  | .returned => true
  | _ => false

theorem WatchPhase.attached_of_confirmed {phase : WatchPhase} (sure : phase.confirmed) :
    phase.attached := by
  cases phase with
  | granted | joined | returned => rfl
  | idle | requesting | refused | failed => cases sure

namespace DeathRegistry

/--
The condition under which subscriptions are backed: a `Watch` that finds a
watch for its handle finds one whose request has succeeded, and a new watch
gets a cookie that was never used.
-/
def Patient (r : DeathRegistry) : DeathLabel → Prop
  | .attach handle _ =>
    match r.byHandle.lookup handle with
    | some w => r.granted (r.watch w).cookie
    | none => r.nextCookie.toNat + 1 < 2 ^ 64
  | _ => True

instance decidablePatient (r : DeathRegistry) (label : DeathLabel) : Decidable (Patient r label) :=
  match label with
  | .attach handle _ =>
    match found : r.byHandle.lookup handle with
    | some w => decidable_of_iff (r.granted (r.watch w).cookie) (by simp only [Patient, found])
    | none => decidable_of_iff (r.nextCookie.toNat + 1 < 2 ^ 64) (by simp only [Patient, found])
  | .reject _ | .grant _ | .refuse _ | .rollback _ | .return_ _ | .closeSub _ | .finish _ _
  | .issueClear _ | .clearFails _ | .notifyDead _ | .notifyCleared _ | .close
  | .closeFinish | .closeReturn | .closeAgain => isTrue trivial

variable {r : DeathRegistry}

theorem Patient.fresh {label : DeathLabel} (patient : Patient r label) : Fresh r label := by
  cases label with
  | attach handle sub =>
    intro none_
    simp only [Patient, none_] at patient
    exact patient
  | _ => trivial

/-- Every confirmed subscription belongs to a granted watch. -/
def Confirmed (r : DeathRegistry) : Prop :=
  ∀ sub, (r.phase sub).confirmed → r.granted (r.watch (r.target sub)).cookie

/-! ## What the actions leave alone -/

/-- The subscriptions keep their watches, and those their keys. -/
structure Keeps (r t : DeathRegistry) : Prop where
  handle : ∀ w, (t.watch w).handle = (r.watch w).handle
  cookie : ∀ w, (t.watch w).cookie = (r.watch w).cookie
  granted : t.granted = r.granted
  target : t.target = r.target
  phase : t.phase = r.phase
  done : ∀ sub, t.done sub = none → r.done sub = none

section Frames

variable {r t : DeathRegistry}

theorem Keeps.refl (r : DeathRegistry) : Keeps r r :=
  ⟨fun _ => rfl, fun _ => rfl, rfl, rfl, rfl, fun _ => id⟩

theorem Keeps.rollback (r : DeathRegistry) (w : Nat) : Keeps r (r.rollback w) := by
  rw [rollback_eq]
  exact { Keeps.refl r with }

theorem Keeps.removeSub (r : DeathRegistry) (sub : Nat) : Keeps r (r.removeSub sub) := by
  rcases removeSub_cases r sub with ⟨watch, byHandle, enders, clearing, gone, handles, cookies, -⟩
  rw [gone]
  exact { Keeps.refl r with handle := handles, cookie := cookies }

theorem Keeps.withdraw
    (r : DeathRegistry) (cookie : UInt64) (w : Nat)
    (subs closingSubs : List Nat) (finishers : List (Nat × FinishError)) :
    Keeps r (r.withdraw cookie w subs closingSubs finishers) :=
  { Keeps.refl r with
    handle := handle_setWatch rfl
    cookie := cookie_setWatch rfl }

theorem Keeps.notifyDead (r : DeathRegistry) (cookie : UInt64) : Keeps r (r.notifyDead cookie) := by
  cases found : r.byCookie.lookup cookie with
  | none =>
    unfold DeathRegistry.notifyDead
    rw [found]
    exact .refl r
  | some w =>
    rw [notifyDead_eq found]
    exact .withdraw ..

theorem Keeps.finishClearing (r : DeathRegistry) (cookie : UInt64) :
    Keeps r (r.finishClearing cookie) := by
  cases found : r.byCookie.lookup cookie with
  | none =>
    unfold DeathRegistry.finishClearing
    rw [found]
    exact .refl r
  | some w =>
    rw [finishClearing_eq found]
    exact .withdraw ..

theorem Keeps.finish (r : DeathRegistry) (sub : Nat) (err : FinishError) :
    Keeps r (r.finish sub err) := by
  unfold DeathRegistry.finish
  cases found : r.done sub with
  | some prior => exact .refl r
  | none =>
    exact { Keeps.refl r with
      done := by
        intro other still
        by_cases same : other = sub
        · rwa [same]
        · simp only [update_of_ne same] at still
          exact still }

/-- What a step does to the subscriptions. -/
inductive Effect (r : DeathRegistry) : DeathLabel → DeathRegistry → Prop where
  | keeps {label : DeathLabel} {t : DeathRegistry} (same : Keeps r t) : Effect r label t
  /-- A `Watch` call moves on. -/
  | moves {label : DeathLabel} {t : DeathRegistry} {sub : Nat}
      {phase : WatchPhase} (same : Keeps r t)
      (started : phase.attached → (r.phase sub).attached)
      (justified : phase.confirmed → (r.phase sub).confirmed) :
      Effect r label (t.setPhase sub phase)
  | grant {sub : Nat} (requesting : r.phase sub = .requesting) :
      Effect r (.grant sub)
        ({ r with
          granted := update r.granted (r.watch (r.target sub)).cookie true }.setPhase sub .granted)
  | attach {handle : UInt32} {sub : Nat} (idle : r.phase sub = .idle) :
      Effect r (.attach handle sub) (r.attach handle sub)

theorem effect_step {label : DeathLabel} (ran : deathStep r label = some t) : Effect r label t := by
  revert ran
  fun_cases deathStep r label <;> rintro ⟨⟩
  · exact .moves (.refl r) (by rintro ⟨⟩) (by rintro ⟨⟩)
  · next idle => exact .attach idle
  · next asks => exact .grant asks
  · next asks =>
      exact .moves (.refl r) (fun _ => by rw [asks]; rfl) (by rintro ⟨⟩)
  · exact .moves (.rollback r _) (by rintro ⟨⟩) (by rintro ⟨⟩)
  · next ready =>
      rcases ready with granted | joined
      · refine .moves (.refl r) ?_ ?_ <;> rw [granted] <;> exact fun _ => rfl
      · refine .moves (.refl r) ?_ ?_ <;> rw [joined] <;> exact fun _ => rfl
  · exact .keeps { Keeps.removeSub r _ with }
  · exact .keeps { Keeps.finish r _ _ with }
  · exact .keeps { Keeps.refl r with }
  · exact .keeps (.finishClearing r _)
  · exact .keeps (.notifyDead r _)
  · exact .keeps (.finishClearing r _)
  · exact .keeps { Keeps.refl r with }
  · exact .keeps { Keeps.finish r _ _ with }
  · exact .keeps { Keeps.refl r with }
  · exact .keeps { Keeps.refl r with }

theorem Keeps.confirmed (same : Keeps r t) (sure : Confirmed r) : Confirmed t := by
  intro sub now
  rw [same.granted, same.target, same.cookie]
  rw [same.phase] at now
  exact sure sub now

/-! ## What confirms a subscription -/

variable (sure : Confirmed r)

include sure

variable {sub : Nat}

/-- A `Watch` call moves on to a phase its watch justifies. -/
theorem Confirmed.setPhase
    {phase : WatchPhase}
    (justified : phase.confirmed →
        r.granted (r.watch (r.target sub)).cookie) : Confirmed (r.setPhase sub phase) := by
  intro other now
  rw [phase_setPhase] at now
  split_ifs at now with same
  · rw [same]
    exact justified now
  · exact sure other now

/-- A new subscription gets a watch that exists. -/
theorem Confirmed.enter
    {w : Nat} {phase : WatchPhase} (idle : r.phase sub = .idle)
    (justified : phase.confirmed → r.granted (r.watch w).cookie) :
    Confirmed ({ r with target := update r.target sub w }.setPhase sub phase) := by
  have retargeted : Confirmed { r with target := update r.target sub w } := by
    intro other now
    have apart : other ≠ sub := by
      rintro rfl
      simp only [idle] at now
      cases now
    simp only [update_of_ne apart]
    exact sure other now
  refine retargeted.setPhase ?_
  intro now
  simp only [update_self]
  exact justified now

theorem Confirmed.attach
    {handle : UInt32} (indexed : Indexed r)
    (patient : Patient r (.attach handle sub)) (idle : r.phase sub = .idle) :
    Confirmed (r.attach handle sub) := by
  unfold DeathRegistry.attach
  split_ifs with closed
  · exact sure.setPhase nofun
  · cases found : r.byHandle.lookup handle with
    | some w =>
      simp only [Patient, found] at patient
      have added : Keeps r (r.setWatch w { r.watch w with subs := sub :: (r.watch w).subs }) :=
        { Keeps.refl r with
          handle := handle_setWatch rfl
          cookie := cookie_setWatch rfl }
      apply (added.confirmed sure).enter idle
      intro _
      rwa [added.cookie]
    | none =>
      have grown : Confirmed (r.grow handle [sub]) := by
        intro other now
        have below := indexed.targets other (WatchPhase.attached_of_confirmed now)
        change r.granted ((r.grow handle [sub]).watch (r.target other)).cookie
        rw [watch_grow, if_neg (Nat.ne_of_lt below)]
        exact sure other now
      exact grown.enter idle nofun

theorem Confirmed.grant :
    Confirmed
      ({ r with
        granted :=
          update r.granted (r.watch (r.target sub)).cookie true }.setPhase sub .granted) := by
  refine .setPhase ?_ fun _ => update_self _ _ _
  intro other now
  have was := sure other now
  simp only [update_apply]
  split_ifs with same
  · rfl
  · exact was

end Frames

/-! ## Whole runs -/

/-- Every patient step keeps subscriptions confirmed. -/
theorem Confirmed.step
    {t : DeathRegistry} {label : DeathLabel} (sure : Confirmed r) (indexed : Indexed r)
    (patient : Patient r label) (ran : deathStep r label = some t) : Confirmed t := by
  cases effect_step ran with
  | keeps same => exact same.confirmed sure
  | moves same _ justified =>
    refine (same.confirmed sure).setPhase ?_
    intro now
    have was := sure _ (justified now)
    rwa [same.granted, same.target, same.cookie]
  | grant => exact sure.grant
  | attach idle => exact sure.attach indexed patient idle

/-- `Watch` returned the subscription and it is neither closed nor finished. -/
def Live (r : DeathRegistry) (sub : Nat) : Prop :=
  r.phase sub = .returned ∧ r.closeCalled sub = false ∧ r.done sub = none

/-- The request for the cookie of the watch succeeded and was not cleared. -/
def BackedByKernel (r : DeathRegistry) (sub : Nat) : Prop :=
  r.granted (r.watch (r.target sub)).cookie ∧ r.cleared (r.watch (r.target sub)).cookie = false

/-- A cleared cookie belongs to a watch without open subscriptions. -/
theorem Indexed.not_cleared
    {sub : Nat} (indexed : Indexed r) (tied : (r.phase sub).attached)
    (open_ : r.closeCalled sub = false) : r.cleared (r.watch (r.target sub)).cookie = false := by
  rw [← Bool.not_eq_true]
  intro isCleared
  rcases indexed.cleared _ isCleared with ⟨w, below, same, retired⟩
  have aimed : r.target sub = w := indexed.distinct _ _ (indexed.targets sub tied) below same.symm
  have called := retired.2 sub tied aimed
  rw [open_] at called
  cases called

/--
In every state of a run in which no `Watch` joins a watch before its request
has succeeded, the live subscriptions are backed by the kernel.
-/
theorem patient_subscriptions_backed
    {r : DeathRegistry} (reaches : deaths.Reaches Patient r)
    {sub : Nat} (live : r.Live sub) : r.BackedByKernel sub := by
  have invariant : Indexed r ∧ Confirmed r := by
    refine @System.Reaches.invariant _ _ _ _
      (fun state => Indexed state ∧ Confirmed state) ?_ ?_ r reaches
    · exact ⟨.init, nofun⟩
    · rintro state label next ⟨indexed, confirmed⟩ patient stepped
      exact ⟨indexed.step patient.fresh stepped, confirmed.step indexed patient stepped⟩
  rcases invariant with ⟨indexed, allConfirmed⟩
  rcases live with ⟨returned, open_, _⟩
  have attached : (r.phase sub).attached := by
    rw [returned]
    rfl
  have confirmed : (r.phase sub).confirmed := by
    rw [returned]
    rfl
  exact ⟨allConfirmed sub confirmed, indexed.not_cleared attached open_⟩

/-- Two subscriptions of one handle, the first of which is closed. -/
def sharedRun : List DeathLabel :=
  [.attach 5 0, .grant 0, .return_ 0, .attach 5 1, .return_ 1, .closeSub 0]

theorem sharedRun_meets : deaths.Meets Patient sharedRun .init := by
  decide +kernel

theorem patient_subscriptions_backed_shared :
    ∃ r : DeathRegistry,
      deaths.run sharedRun DeathRegistry.init = some r ∧ r.Live 1 ∧ r.BackedByKernel 1 := by
  refine ⟨_, rfl, ⟨rfl, rfl, rfl⟩, ?_⟩
  exact patient_subscriptions_backed
    (System.Reaches.start.of_run sharedRun_meets rfl) ⟨rfl, rfl, rfl⟩

/-- A second `Watch` joins and returns before the request of the first fails. -/
def hastyRun : List DeathLabel :=
  [.attach 5 0, .attach 5 1, .return_ 1, .refuse 0, .rollback 0]

theorem joined_subscription_unbacked :
    ∃ r : DeathRegistry,
      deaths.run hastyRun DeathRegistry.init = some r ∧ r.Live 1 ∧ ¬ r.BackedByKernel 1 := by
  refine ⟨_, rfl, ⟨rfl, rfl, rfl⟩, ?_⟩
  rintro ⟨granted, _⟩
  cases granted

end DeathRegistry

end Libbinder.Kernel
