import Libbinder.Kernel.DeathShutdown

/-!
# Consistency of the registry and delivery of deaths

The registry with what the plain model leaves out: which subscription sets of
a watch are nil, and, as a history no code reads, which subscriptions were
attached and unfinished when `NotifyDead` was processed for their watch.
`NotifyCleared` may come here for any cookie at any time.

A goroutine in `NotifyDead` calls `finish` after it has released the lock.  A
`Close` of the subscription that gets in between finishes it without an error.
-/

namespace Libbinder.Kernel

open Go List Option Function AList
open DeathRegistry

/-- The registry with its nil maps and the history of deaths. -/
structure ObservedRegistry where
  registry : DeathRegistry
  /-- `watch.subs` is nil. -/
  subsNil : Nat → Bool
  /-- `watch.closingSubs` is nil. -/
  closingSubsNil : Nat → Bool
  /-- Attached and unfinished when a death of its watch was processed. -/
  notified : Nat → Bool

namespace ObservedRegistry

def init : ObservedRegistry where
  registry := .init
  subsNil := fun _ => false
  closingSubsNil := fun _ => false
  notified := fun _ => false

/-- The subscription is in one of the sets of the watch. -/
def attachedTo (r : DeathRegistry) (w sub : Nat) : Bool :=
  (r.watch w).subs.contains sub || (r.watch w).closingSubs.contains sub

/-- `NotifyDead` with what it does to the sets of the watch. -/
def notifyDead (s : ObservedRegistry) (cookie : UInt64) : ObservedRegistry :=
  match s.registry.byCookie.lookup cookie with
  | none => s
  | some w =>
    { registry := s.registry.notifyDead cookie
      subsNil := update s.subsNil w true
      closingSubsNil := update s.closingSubsNil w true
      notified := fun sub =>
        s.notified sub || attachedTo s.registry w sub && (s.registry.done sub).isNone }

/-- `finishClearing` with what it does to the sets of the watch. -/
def finishClearing (s : ObservedRegistry) (cookie : UInt64) : ObservedRegistry :=
  match s.registry.byCookie.lookup cookie with
  | none => s
  | some w =>
    { s with
      registry := s.registry.finishClearing cookie
      closingSubsNil := update s.closingSubsNil w true }

end ObservedRegistry

open ObservedRegistry

open ObservedRegistry

/-- The label takes the subscriptions of a watch away. -/
def DeathLabel.reports : DeathLabel → Bool
  | .notifyDead _ => true
  | .notifyCleared _ => true
  | .clearFails _ => true
  | _ => false

/-- One atomic action. -/
def observedStep (s : ObservedRegistry) : DeathLabel → Option ObservedRegistry
  | .notifyDead cookie => some (s.notifyDead cookie)
  | .notifyCleared cookie => some (s.finishClearing cookie)
  | .clearFails w =>
    if s.registry.cleared (s.registry.watch w).cookie then
      some (s.finishClearing (s.registry.watch w).cookie)
    else none
  | label =>
    (deathStep s.registry label).map fun next =>
      { s with registry := next }

/-- All runs of one registry. -/
def observedDeaths : System ObservedRegistry DeathLabel where
  init := init
  step := observedStep

namespace ObservedRegistry

/-- The cookie counter does not wrap around. -/
def Fresh (s : ObservedRegistry) (label : DeathLabel) : Prop :=
  DeathRegistry.Fresh s.registry label

/-- The invariant behind the delivery of deaths. -/
structure Tracked (s : ObservedRegistry) : Prop where
  members : ∀ w sub,
      sub ∈ (s.registry.watch w).subs ∨ sub ∈ (s.registry.watch w).closingSubs →
        w < s.registry.watchCount ∧ s.registry.target sub = w ∧ s.registry.phase sub ≠ .idle
  called : ∀ w sub, sub ∈ (s.registry.watch w).closingSubs → s.registry.closeCalled sub
  populated : ∀ w, s.registry.Listed w → (s.registry.watch w).subs ≠ []
  usable : ∀ w, s.registry.Listed w → s.subsNil w = false ∧ s.closingSubsNil w = false
  unused : ∀ w, s.registry.watchCount ≤ w → s.subsNil w = false ∧ s.closingSubsNil w = false
  shut : s.registry.closed → ∀ cookie, s.registry.byCookie.lookup cookie = none
  closers : ∀ sub, (sub, .none) ∈ s.registry.finishers → s.registry.closeCalled sub
  messengers : ∀ sub, (sub, .deadObject) ∈ s.registry.finishers →
      s.notified sub ∨ s.registry.done sub ≠ none
  gone : ∀ sub, s.notified sub →
      s.registry.phase sub ≠ .idle ∧
        s.registry.target sub < s.registry.watchCount ∧
        ¬ s.registry.Listed (s.registry.target sub)
  finishing : ∀ subs, s.registry.close = .finishing subs → s.registry.closed
  collected : ∀ subs sub, s.registry.close = .finishing subs → sub ∈ subs → s.notified sub = false
  dead : ∀ sub, s.registry.done sub = some .deadObject → s.notified sub
  delivered : ∀ sub, s.notified sub →
      s.registry.done sub ≠ none ∨ (sub, .deadObject) ∈ s.registry.finishers
  forestalled : ∀ sub, s.notified sub → s.registry.done sub = some .none →
      s.registry.closeCalled sub

theorem Tracked.init : Tracked .init where
  members := by rintro _ _ (member | member) <;> cases member
  called := by rintro _ _ ⟨⟩
  populated := by rintro _ ⟨⟩
  usable := by rintro _ ⟨⟩
  unused := fun _ _ => ⟨rfl, rfl⟩
  shut := by rintro ⟨⟩
  closers := by rintro _ ⟨⟩
  messengers := by rintro _ ⟨⟩
  gone := by rintro _ ⟨⟩
  finishing := by rintro _ ⟨⟩
  collected := by rintro _ _ ⟨⟩
  dead := by rintro _ ⟨⟩
  delivered := by rintro _ ⟨⟩
  forestalled := by rintro _ ⟨⟩

/-! ## Changes that keep the invariant -/

section Changes

variable {r : DeathRegistry} {noSubs noClosing knows : Nat → Bool} {sub : Nat} {cookie : UInt64}

theorem lookup_dropCookie_none (w : Nat) (none_ : r.byCookie.lookup cookie = none) :
    (r.dropCookie w).byCookie.lookup cookie = none := by
  unfold dropCookie
  split_ifs
  · by_cases same : cookie = (r.watch w).cookie
    · rw [same]
      exact lookup_erase _ _
    · exact (lookup_erase_ne same).trans none_
  · exact none_

theorem listed_withdraw
    (r : DeathRegistry) (cookie : UInt64) (w : Nat) (subs closingSubs : List Nat)
    (finishers : List (Nat × FinishError)) :
    ¬ (r.withdraw cookie w subs closingSubs finishers).Listed w := by
  unfold Listed
  rw [withdraw, watch_setWatch, if_pos rfl]
  exact not_lookup_dropHandle r w

variable {w : Nat}

theorem attachedTo_eq_true :
    attachedTo r w sub ↔ sub ∈ (r.watch w).subs ++ (r.watch w).closingSubs := by
  simp [attachedTo]

theorem done_finish (r : DeathRegistry) (sub other : Nat) (err : FinishError) :
    (r.finish sub err).done other =
      if other = sub ∧ r.done sub = none then some err
      else r.done other := by
  unfold finish
  cases found : r.done sub with
  | some prior => simp
  | none => simp [update_apply]

theorem finish_eq (r : DeathRegistry) (sub : Nat) (err : FinishError) :
    r.finish sub err = { r with done := (r.finish sub err).done } := by
  unfold finish
  cases r.done sub with
  | some | none => rfl

theorem done_finish_ne_none
    {other : Nat} (sub : Nat) (err : FinishError) (ended : r.done other ≠ none) :
    (r.finish sub err).done other ≠ none := by
  rw [done_finish]
  split_ifs
  · exact some_ne_none err
  · exact ended

theorem done_finish_self (r : DeathRegistry) (sub : Nat) (err : FinishError) :
    (r.finish sub err).done sub ≠ none := by
  rw [done_finish]
  split_ifs with unfinished
  · exact some_ne_none err
  · exact fun still => unfinished ⟨rfl, still⟩

theorem of_mem_collect (indexed : Indexed r) (mem : sub ∈ r.collect) :
    ∃ w, r.Listed w ∧ (sub ∈ (r.watch w).subs ∨ sub ∈ (r.watch w).closingSubs) := by
  rcases mem_flatMap.mp mem with ⟨entry, listed, among⟩
  have found : r.byHandle.lookup entry.1 = some entry.2 := mem_lookup_iff.mpr listed
  refine ⟨entry.2, ?_, mem_append.mp among⟩
  unfold Listed
  rwa [(indexed.handles _ _ found).2]

theorem removeSub_callClose (r : DeathRegistry) (sub : Nat) (closeCalled : Nat → Bool) :
    ({ r with closeCalled := closeCalled } : DeathRegistry).removeSub sub =
      { r.removeSub sub with closeCalled := closeCalled } := by
  have gone (w : Nat) :
      (({ r with closeCalled := closeCalled } :
        DeathRegistry).dropHandle w).byHandle = (r.dropHandle w).byHandle := by
    unfold dropHandle
    split_ifs <;> rfl
  unfold removeSub
  simp only [dropHandle_setWatch, gone]
  split_ifs <;> rfl

theorem mem_finishers
    {subs : List Nat} {finishers : List (Nat × FinishError)} {given err : FinishError} :
    (sub, err) ∈ subs.map (·, given) ++ finishers ↔
      given = err ∧ sub ∈ subs ∨ (sub, err) ∈ finishers := by
  simp [and_comm]

variable (tracked : Tracked ⟨r, noSubs, noClosing, knows⟩)

include tracked

variable {phase : WatchPhase}

/-- A `Watch` call moves on. -/
theorem Tracked.retarget
    {target : Nat → Nat} (aimed : ∀ other, r.phase other ≠ .idle → target other = r.target other)
    (begun : phase ≠ .idle) :
    Tracked
      ⟨({ r with target := target } : DeathRegistry).setPhase sub phase,
        noSubs, noClosing, knows⟩ := by
  have kept {other : Nat} (was : r.phase other ≠ .idle) :
      (({ r with target := target } : DeathRegistry).setPhase sub phase).phase other ≠ .idle := by
    rw [phase_setPhase]
    split_ifs
    · exact begun
    · exact was
  exact { tracked with
    members := by
      intro v other mem
      rcases tracked.members v other mem with ⟨below, before, was⟩
      exact ⟨below, (aimed other was).trans before, kept was⟩
    gone := by
      intro other told
      rcases tracked.gone other told with ⟨was, below, off⟩
      refine ⟨kept was, ?_, ?_⟩
      · change target other < _
        rwa [aimed other was]
      · change ¬ r.Listed (target other)
        rw [aimed other was]
        exact off }

theorem Tracked.setPhase (begun : phase ≠ .idle) :
    Tracked ⟨r.setPhase sub phase, noSubs, noClosing, knows⟩ :=
  tracked.retarget (fun _ _ => rfl) begun

/-- A change of the parts the invariant does not mention. -/
theorem Tracked.record
    (clearing : List Nat) (granted cleared : UInt64 → Bool) (closeReturned : Bool) :
    Tracked ⟨{ r with
        clearing := clearing
        granted := granted
        cleared := cleared
        closeReturned := closeReturned }, noSubs, noClosing, knows⟩ :=
  { tracked with }

/-- Watches leave the indices. -/
theorem Tracked.shrink
    (byHandle : AList fun _ : UInt32 => Nat) (byCookie : AList fun _ : UInt64 => Nat)
    (listed : ∀ w, byHandle.lookup (r.watch w).handle = some w → r.Listed w)
    (cookies : ∀ cookie, r.byCookie.lookup cookie = none → byCookie.lookup cookie = none) :
    Tracked ⟨{ r with
        byHandle := byHandle
        byCookie := byCookie }, noSubs, noClosing, knows⟩ :=
  { tracked with
    populated := fun w now => tracked.populated w (listed w now)
    usable := fun w now => tracked.usable w (listed w now)
    shut := fun closed cookie => cookies cookie (tracked.shut closed cookie)
    gone := by
      intro sub told
      rcases tracked.gone sub told with ⟨was, below, off⟩
      exact ⟨was, below, fun now => off (listed _ now)⟩ }

theorem Tracked.rollback (w : Nat) : Tracked ⟨r.rollback w, noSubs, noClosing, knows⟩ := by
  rw [rollback_eq]
  exact tracked.shrink _ _ (fun _ => lookup_of_dropHandle) fun _ => lookup_dropCookie_none w

/-- `Close` is called on a subscription. -/
theorem Tracked.callClose (sub : Nat) :
    Tracked ⟨{ r with
        closeCalled := update r.closeCalled sub true }, noSubs, noClosing, knows⟩ := by
  have kept {other : Nat} (was : r.closeCalled other) : update r.closeCalled sub true other := by
    rw [update_apply]
    split_ifs
    · rfl
    · exact was
  exact { tracked with
    called := fun w other mem => kept (tracked.called w other mem)
    closers := fun other mem => kept (tracked.closers other mem)
    forestalled := fun other told done =>
      kept (tracked.forestalled other told done) }

/-- A goroutine is about to finish closed subscriptions. -/
theorem Tracked.addClosers {subs : List Nat} (called : ∀ sub ∈ subs, r.closeCalled sub) :
    Tracked ⟨{ r with
        finishers := subs.map (·, .none) ++ r.finishers }, noSubs, noClosing, knows⟩ :=
  { tracked with
    closers := by
      intro other mem
      rcases mem_finishers.mp mem with ⟨-, listed⟩ | earlier
      · exact called other listed
      · exact tracked.closers other earlier
    messengers := by
      intro other mem
      rcases mem_finishers.mp mem with ⟨⟨⟩, -⟩ | earlier
      exact tracked.messengers other earlier
    delivered := by
      intro other told
      rcases tracked.delivered other told with done | pending
      · exact .inl done
      · exact .inr (mem_append_right _ pending) }

/-- The sets of one watch change; a listed watch keeps a subscription. -/
theorem Tracked.setSets
    (w : Nat) (subs closingSubs : List Nat)
    (members : ∀ sub, sub ∈ subs ∨ sub ∈ closingSubs →
        w < r.watchCount ∧ r.target sub = w ∧ r.phase sub ≠ .idle)
    (called : ∀ sub ∈ closingSubs, r.closeCalled sub) (populated : r.Listed w → subs ≠ []) :
    Tracked ⟨r.setWatch w
        { r.watch w with
          subs := subs
          closingSubs := closingSubs }, noSubs, noClosing, knows⟩ := by
  have wasListed {v : Nat}
      (now : (r.setWatch w
        { r.watch w with subs := subs, closingSubs := closingSubs }).Listed v) :
      r.Listed v :=
    listed_of_setWatch (by rfl) now
  exact { tracked with
    members := by
      intro v sub mem
      simp only [watch_setWatch] at mem
      split_ifs at mem with same
      · rw [same]
        exact members sub mem
      · exact tracked.members v sub mem
    called := by
      intro v sub mem
      simp only [watch_setWatch] at mem
      split_ifs at mem with same
      · exact called sub mem
      · exact tracked.called v sub mem
    populated := by
      intro v now
      simp only [watch_setWatch]
      split_ifs with same
      · exact populated (by rw [← same]; exact wasListed now)
      · exact tracked.populated v (wasListed now)
    usable := fun v now => tracked.usable v (wasListed now)
    gone := by
      intro sub told
      rcases tracked.gone sub told with ⟨was, below, off⟩
      exact ⟨was, below, fun now => off (wasListed now)⟩ }

theorem Tracked.dropHandle (w : Nat) :
    Tracked ⟨{ r with byHandle := (r.dropHandle w).byHandle }, noSubs, noClosing, knows⟩ :=
  tracked.shrink _ r.byCookie (fun _ => lookup_of_dropHandle) fun _ => id

theorem Tracked.removeSub
    (below : r.target sub < r.watchCount) (begun : r.phase sub ≠ .idle)
    (called : r.closeCalled sub) : Tracked ⟨r.removeSub sub, noSubs, noClosing, knows⟩ := by
  unfold DeathRegistry.removeSub
  simp only []
  generalize aimed : r.target sub = w at below ⊢
  have kept (other : Nat)
      (member : other ∈ (r.watch w).subs.filter fun other => other ≠ sub) :
      other ∈ (r.watch w).subs :=
    (mem_filter.mp member).1
  generalize (r.watch w).subs.filter (fun other => other ≠ sub) = others at kept ⊢
  by_cases gone : r.byHandle.lookup (r.watch w).handle ≠ some w
  · rw [if_pos gone]
    exact tracked.addClosers (forall_mem_singleton.mpr called)
  · rw [if_neg gone]
    by_cases some_ : others ≠ []
    · rw [if_pos some_]
      have left :
          Tracked ⟨r.setWatch w
              { r.watch w with subs := others }, noSubs, noClosing, knows⟩ := by
        refine tracked.setSets _ _ _ ?_ (tracked.called _) fun _ => some_
        rintro other (member | member)
        · exact tracked.members _ other (.inl (kept other member))
        · exact tracked.members _ other (.inr member)
      exact left.addClosers (forall_mem_singleton.mpr called)
    · rw [if_neg some_, dropHandle_setWatch]
      have moved :=
        (tracked.dropHandle w).setSets w others (sub :: (r.watch w).closingSubs)
          ?_ ?_ fun listed => absurd listed (not_lookup_dropHandle r w)
      · exact moved.record _ _ _ _
      · rintro other (member | member)
        · exact tracked.members _ other (.inl (kept other member))
        · rcases mem_cons.mp member with rfl | earlier
          · exact ⟨below, aimed, begun⟩
          · exact tracked.members _ other (.inr earlier)
      · intro other member
        rcases mem_cons.mp member with rfl | earlier
        · exact called
        · exact tracked.called _ other earlier

/-- A `Watch` call that has not attached yet gets its watch. -/
theorem Tracked.enter (w : Nat) (idle : r.phase sub = .idle) (begun : phase ≠ .idle) :
    Tracked
      ⟨({ r with target := update r.target sub w } : DeathRegistry).setPhase sub phase,
        noSubs, noClosing, knows⟩ := by
  refine tracked.retarget ?_ begun
  intro other was
  refine update_of_ne ?_ _ _
  rintro rfl
  exact was idle

/-- A handle without a watch gets a new one. -/
theorem Tracked.grow
    {handle : UInt32} (alive : r.closed = false) (aimed : r.target sub = r.watchCount)
    (begun : r.phase sub ≠ .idle) :
    Tracked ⟨r.grow handle [sub], noSubs, noClosing, knows⟩ := by
  have new : (r.grow handle [sub]).watch r.watchCount = ⟨handle, r.nextCookie + 1, [sub], []⟩ := by
    rw [watch_grow, if_pos rfl]
  have old {v : Nat} (apart : v ≠ r.watchCount) : (r.grow handle [sub]).watch v = r.watch v := by
    rw [watch_grow, if_neg apart]
  have wasListed {v : Nat} (apart : v ≠ r.watchCount) (now : (r.grow handle [sub]).Listed v) :
      r.Listed v := by
    unfold Listed at now
    rw [old apart, lookup_grow] at now
    split_ifs at now with same
    · exact absurd (Option.some.inj now).symm apart
    · exact now
  exact { tracked with
    members := by
      intro v other member
      simp only at member
      by_cases same : v = r.watchCount
      · rw [same, new] at member
        rcases member with member | member
        · cases mem_singleton.mp member
          rw [same]
          exact ⟨Nat.lt_succ_self _, aimed, begun⟩
        · cases member
      · rw [old same] at member
        rcases tracked.members v other member with ⟨below, target, was⟩
        exact ⟨Nat.lt_succ_of_lt below, target, was⟩
    called := by
      intro v other member
      simp only at member
      by_cases same : v = r.watchCount
      · rw [same, new] at member
        cases member
      · rw [old same] at member
        exact tracked.called v other member
    populated := by
      intro v now
      simp only
      by_cases same : v = r.watchCount
      · rw [same, new]
        exact cons_ne_nil _ _
      · rw [old same]
        exact tracked.populated v (wasListed same now)
    usable := by
      intro v now
      by_cases same : v = r.watchCount
      · rw [same]
        exact tracked.unused _ (Nat.le_refl _)
      · exact tracked.usable v (wasListed same now)
    unused := fun v above => tracked.unused v (Nat.le_of_succ_le above)
    shut := by
      intro closed
      rw [show r.closed from closed] at alive
      cases alive
    gone := by
      intro other told
      rcases tracked.gone other told with ⟨was, below, off⟩
      refine ⟨was, Nat.lt_succ_of_lt below, fun now => off ?_⟩
      exact wasListed (Nat.ne_of_lt below) now }

/-- The sets of a watch that is not listed become nil. -/
theorem Tracked.markNil
    (below : w < r.watchCount) (gone : ¬ r.Listed w)
    (subsNil closingSubsNil : Nat → Bool) (subs : ∀ v, v ≠ w → subsNil v = noSubs v)
    (closingSubs : ∀ v, v ≠ w → closingSubsNil v = noClosing v) :
    Tracked ⟨r, subsNil, closingSubsNil, knows⟩ :=
  { tracked with
    usable := by
      intro v listed
      have apart : v ≠ w := by
        rintro rfl
        exact gone listed
      simp only [subs v apart, closingSubs v apart]
      exact tracked.usable v listed
    unused := by
      intro v above
      have apart : v ≠ w := by
        rintro rfl
        exact absurd below (Nat.not_lt.mpr above)
      simp only [subs v apart, closingSubs v apart]
      exact tracked.unused v above }

/-- A watch is withdrawn and its sets change. -/
theorem Tracked.withdraw
    (cookie : UInt64) (w : Nat)
    (subs closingSubs : List Nat) (fewer : ∀ sub ∈ subs, sub ∈ (r.watch w).subs)
    (fewerClosing : ∀ sub ∈ closingSubs, sub ∈ (r.watch w).closingSubs) :
    Tracked ⟨r.withdraw cookie w subs closingSubs r.finishers, noSubs, noClosing, knows⟩ := by
  refine (tracked.shrink _ _ (fun _ => lookup_of_dropHandle) fun other none_ => ?_).setSets
    w subs closingSubs ?_ ?_ ?_
  · by_cases same : other = cookie
    · rw [same]
      exact lookup_erase _ _
    · exact (lookup_erase_ne same).trans none_
  · rintro sub (member | member)
    · exact tracked.members w sub (.inl (fewer sub member))
    · exact tracked.members w sub (.inr (fewerClosing sub member))
  · intro sub member
    exact tracked.called w sub (fewerClosing sub member)
  · intro listed
    exact absurd listed (not_lookup_dropHandle r w)

/-- A goroutine is about to report a death to the subscriptions of a watch. -/
theorem Tracked.deliver
    {subs : List Nat} (alive : r.closed = false) (below : w < r.watchCount) (off : ¬ r.Listed w)
    (members : ∀ sub ∈ subs, r.target sub = w ∧ r.phase sub ≠ .idle) (notified : Nat → Bool)
    (marked : ∀ sub, notified sub ↔ knows sub ∨ sub ∈ subs ∧ r.done sub = none) :
    Tracked ⟨{ r with
        finishers := subs.map (·, .deadObject) ++ r.finishers }, noSubs, noClosing, notified⟩ :=
  { tracked with
    closers := by
      intro sub mem
      rcases mem_finishers.mp mem with ⟨⟨⟩, -⟩ | earlier
      exact tracked.closers sub earlier
    messengers := by
      intro sub mem
      rcases mem_finishers.mp mem with ⟨-, listed⟩ | earlier
      · by_cases still : r.done sub = none
        · exact .inl ((marked sub).mpr (.inr ⟨listed, still⟩))
        · exact .inr still
      · rcases tracked.messengers sub earlier with was | finished
        · exact .inl ((marked sub).mpr (.inl was))
        · exact .inr finished
    gone := by
      intro sub now
      rcases (marked sub).mp now with was | ⟨mem, -⟩
      · exact tracked.gone sub was
      · rcases members sub mem with ⟨aimed, begun⟩
        refine ⟨begun, ?_, ?_⟩
        · change r.target sub < _
          rwa [aimed]
        · change ¬ r.Listed (r.target sub)
          rwa [aimed]
    collected := by
      intro subs sub ending
      have closed : r.closed := tracked.finishing subs ending
      rw [alive] at closed
      cases closed
    dead := fun sub done => (marked sub).mpr (.inl (tracked.dead sub done))
    delivered := by
      intro sub now
      rcases (marked sub).mp now with was | ⟨mem, -⟩
      · rcases tracked.delivered sub was with finished | pending
        · exact .inl finished
        · exact .inr (mem_append_right _ pending)
      · exact .inr (mem_append_left _ (mem_map.mpr ⟨sub, mem, rfl⟩))
    forestalled := by
      intro sub now done
      rcases (marked sub).mp now with was | ⟨-, still⟩
      · exact tracked.forestalled sub was done
      · rw [show r.done sub = some .none from done] at still
        cases still }

theorem Tracked.stillOpen (found : r.byCookie.lookup cookie = some w) : r.closed = false := by
  by_contra closed
  have missing := tracked.shut (Bool.eq_true_of_not_eq_false closed) cookie
  rw [found] at missing
  cases missing

/-- Subscriptions are finished and the goroutines have less left to do. -/
theorem Tracked.settle
    (done : Nat → Option FinishError) (finishers : List (Nat × FinishError))
    (close : ClosePhase) (fewer : ∀ entry ∈ finishers, entry ∈ r.finishers)
    (lost : ∀ sub, (sub, .deadObject) ∈ r.finishers →
        done sub ≠ none ∨ (sub, .deadObject) ∈ finishers)
    (ended : ∀ sub, r.done sub ≠ none → done sub ≠ none)
    (dead : ∀ sub, done sub = some .deadObject → knows sub)
    (forestalled : ∀ sub, knows sub → done sub = some .none → r.closeCalled sub)
    (closing : ∀ subs, close = .finishing subs →
        ∃ earlier, r.close = .finishing earlier ∧ ∀ sub ∈ subs, sub ∈ earlier) :
    Tracked ⟨{ r with
        done := done
        finishers := finishers
        close := close }, noSubs, noClosing, knows⟩ :=
  { tracked with
    closers := fun sub mem => tracked.closers sub (fewer _ mem)
    messengers := by
      intro sub mem
      rcases tracked.messengers sub (fewer _ mem) with told | earlier
      · exact .inl told
      · exact .inr (ended sub earlier)
    finishing := by
      intro subs finishing
      rcases closing subs finishing with ⟨earlier, was, -⟩
      exact tracked.finishing earlier was
    collected := by
      intro subs sub finishing mem
      rcases closing subs finishing with ⟨earlier, was, among⟩
      exact tracked.collected earlier sub was (among sub mem)
    dead := dead
    delivered := by
      intro sub told
      rcases tracked.delivered sub told with earlier | pending
      · exact .inl (ended sub earlier)
      · exact lost sub pending
    forestalled := forestalled }

theorem Tracked.finish {err : FinishError} (pending : (sub, err) ∈ r.finishers) :
    Tracked ⟨{ r.finish sub err with
        finishers := r.finishers.erase (sub, err) }, noSubs, noClosing, knows⟩ := by
  rw [finish_eq]
  refine tracked.settle _ _ r.close (fun entry => mem_of_mem_erase) ?_
    (fun other => done_finish_ne_none sub err) ?_ ?_ fun subs same => ⟨subs, same, fun _ mem => mem⟩
  · intro other waits
    by_cases same : (other, .deadObject) = (sub, err)
    · cases same
      exact .inl (done_finish_self _ _ _)
    · exact .inr ((mem_erase_of_ne same).mpr waits)
  · intro other done
    rw [done_finish] at done
    split_ifs at done with first
    · cases done
      rcases first with ⟨rfl, still⟩
      exact (tracked.messengers _ pending).resolve_right fun ended => ended still
    · exact tracked.dead other done
  · intro other told done
    rw [done_finish] at done
    split_ifs at done with first
    · cases done
      rcases first with ⟨rfl, -⟩
      exact tracked.closers _ pending
    · exact tracked.forestalled other told done

theorem Tracked.closeFinish {rest : List Nat} (ending : r.close = .finishing (sub :: rest)) :
    Tracked ⟨{ r.finish sub .none with close := .finishing rest }, noSubs, noClosing, knows⟩ := by
  have unnotified : knows sub = false := tracked.collected _ sub ending mem_cons_self
  rw [finish_eq]
  refine tracked.settle _ r.finishers _ (fun _ mem => mem)
    (fun _ waits => .inr waits) (fun other => done_finish_ne_none sub _) ?_ ?_ ?_
  · intro other done
    rw [done_finish] at done
    split_ifs at done with first
    · cases done
    · exact tracked.dead other done
  · intro other told done
    rw [done_finish] at done
    split_ifs at done with first
    · rw [first.1, unnotified] at told
      cases told
    · exact tracked.forestalled other told done
  · intro subs same
    cases same
    exact ⟨_, ending, fun _ => mem_cons_of_mem sub⟩

variable (indexed : Indexed r)

include indexed

theorem Tracked.attach
    {handle : UInt32} (fresh : DeathRegistry.Fresh r (.attach handle sub))
    (idle : r.phase sub = .idle) : Tracked ⟨r.attach handle sub, noSubs, noClosing, knows⟩ := by
  unfold DeathRegistry.attach
  by_cases closed : r.closed
  · rw [if_pos closed]
    exact tracked.setPhase nofun
  · rw [if_neg closed]
    cases found : r.byHandle.lookup handle with
    | some w =>
      rcases indexed.handles handle w found with ⟨below, -⟩
      have inside :
          Tracked ⟨({ r with
                target := update r.target sub w } :
                  DeathRegistry).setPhase sub .joined, noSubs, noClosing, knows⟩ :=
        tracked.enter w idle nofun
      refine inside.setSets w (sub :: (r.watch w).subs)
        (r.watch w).closingSubs ?_ (inside.called w) fun _ => cons_ne_nil _ _
      rintro other (member | member)
      · rcases mem_cons.mp member with rfl | earlier
        · refine ⟨below, update_self _ _ _, ?_⟩
          rw [phase_setPhase, if_pos rfl]
          exact nofun
        · exact inside.members w other (.inl earlier)
      · exact inside.members w other (.inr member)
    | none =>
      have inside :
          Tracked ⟨({ r with
                target :=
                  update r.target sub r.watchCount } :
                  DeathRegistry).setPhase sub .requesting, noSubs, noClosing, knows⟩ :=
        tracked.enter r.watchCount idle nofun
      refine inside.grow (Bool.eq_false_iff.mpr closed) (update_self _ _ _) ?_
      rw [phase_setPhase, if_pos rfl]
      exact nofun

/-! ### Watches that are given up -/

theorem Tracked.notifyDead (cookie : UInt64) :
    Tracked (.notifyDead ⟨r, noSubs, noClosing, knows⟩ cookie) := by
  unfold ObservedRegistry.notifyDead
  cases found : r.byCookie.lookup cookie with
  | none => exact tracked
  | some w =>
    have below := (indexed.cookies cookie w found).1
    have unlisted := listed_withdraw r cookie w [] [] r.finishers
    have delivered :=
      (tracked.withdraw cookie w [] [] nofun nofun).deliver (tracked.stillOpen found) below unlisted
        (fun sub mem => (tracked.members w sub (mem_append.mp mem)).2)
        (fun sub => knows sub || attachedTo r w sub && (r.done sub).isNone)
        (fun sub => by
          rw [Bool.or_eq_true, Bool.and_eq_true, attachedTo_eq_true, isNone_iff_eq_none]
          rfl)
    simp only [notifyDead_eq found]
    exact delivered.markNil below unlisted _ _ (fun v apart => update_of_ne apart _ _)
      (fun v apart => update_of_ne apart _ _)

theorem Tracked.finishClearing (cookie : UInt64) :
    Tracked (.finishClearing ⟨r, noSubs, noClosing, knows⟩ cookie) := by
  unfold ObservedRegistry.finishClearing
  cases found : r.byCookie.lookup cookie with
  | none => exact tracked
  | some w =>
    have below := (indexed.cookies cookie w found).1
    have unlisted := listed_withdraw r cookie w (r.watch w).subs [] r.finishers
    have left := tracked.withdraw cookie w (r.watch w).subs [] (fun _ mem => mem) nofun
    simp only [finishClearing_eq found]
    exact (left.addClosers (tracked.called w)).markNil below unlisted _ _ (fun v _ => rfl)
      (fun v apart => update_of_ne apart _ _)

/-! ### Subscriptions that are finished -/

theorem Tracked.closeRegistry : Tracked ⟨r.closeRegistry, noSubs, noClosing, knows⟩ :=
  { tracked with
    populated := by rintro _ ⟨⟩
    usable := by rintro _ ⟨⟩
    shut := fun _ cookie => lookup_empty cookie
    gone := by
      intro sub told
      rcases tracked.gone sub told with ⟨was, below, -⟩
      refine ⟨was, below, ?_⟩
      intro listed
      cases listed
    finishing := fun _ _ => rfl
    collected := by
      intro subs sub finishing mem
      cases finishing
      rcases of_mem_collect indexed mem with ⟨w, listed, among⟩
      by_contra told
      rcases tracked.gone sub (Bool.eq_true_of_not_eq_false told) with ⟨-, -, off⟩
      rw [(tracked.members w sub among).2.1] at off
      exact off listed }

theorem Tracked.closeSub (ran : r.phase sub = .returned) :
    Tracked ⟨{ r.removeSub sub with
        closeCalled := update r.closeCalled sub true }, noSubs, noClosing, knows⟩ := by
  rw [← removeSub_callClose]
  refine (tracked.callClose sub).removeSub ?_ ?_ (update_self _ _ _)
  · refine indexed.targets sub ?_
    rw [ran]
    rfl
  · change r.phase sub ≠ .idle
    rw [ran]
    exact nofun

end Changes

/-! ## Whole runs -/

section Runs

variable {s t : ObservedRegistry} {label : DeathLabel}

theorem registry_notifyDead (s : ObservedRegistry) (cookie : UInt64) :
    (s.notifyDead cookie).registry = s.registry.notifyDead cookie := by
  unfold notifyDead
  cases found : s.registry.byCookie.lookup cookie with
  | none =>
    unfold DeathRegistry.notifyDead
    rw [found]
  | some w => rfl

theorem registry_finishClearing (s : ObservedRegistry) (cookie : UInt64) :
    (s.finishClearing cookie).registry = s.registry.finishClearing cookie := by
  unfold finishClearing
  cases found : s.registry.byCookie.lookup cookie with
  | none =>
    unfold DeathRegistry.finishClearing
    rw [found]
  | some w => rfl

/-- A step either reports to a watch or is one of the plain registry. -/
theorem observedStep_cases (ran : observedStep s label = some t) :
    (∃ cookie, t = s.notifyDead cookie) ∨
      (∃ cookie, t = s.finishClearing cookie) ∨
      label.reports = false ∧
        ∃ next, deathStep s.registry label = some next ∧ t = { s with registry := next } := by
  cases label with
  | notifyDead cookie =>
    cases ran
    exact .inl ⟨cookie, rfl⟩
  | notifyCleared cookie =>
    cases ran
    exact .inr (.inl ⟨cookie, rfl⟩)
  | clearFails w =>
    rcases ite_none_right_eq_some.mp ran with ⟨-, result⟩
    cases result
    exact .inr (.inl ⟨_, rfl⟩)
  | _ =>
    rcases map_eq_some_iff.mp ran with ⟨next, moved, result⟩
    exact .inr (.inr ⟨rfl, next, moved, result.symm⟩)

theorem indexed_observedStep
    (indexed : Indexed s.registry) (fresh : s.Fresh label) (ran : observedStep s label = some t) :
    Indexed t.registry := by
  rcases observedStep_cases ran with ⟨cookie, rfl⟩ | ⟨cookie, rfl⟩ | ⟨-, next, moved, rfl⟩
  · rw [registry_notifyDead]
    exact indexed.notifyDead cookie
  · rw [registry_finishClearing]
    exact indexed.finishClearing cookie
  · exact indexed.step fresh moved

/-- The steps of the plain registry that report nothing to a watch. -/
theorem Tracked.plainStep
    {next : DeathRegistry} (tracked : Tracked s) (indexed : Indexed s.registry)
    (fresh : s.Fresh label) (plain : label.reports = false)
    (ran : deathStep s.registry label = some next) : Tracked { s with registry := next } := by
  revert ran
  fun_cases deathStep s.registry label <;> rintro ⟨⟩ <;> try cases plain
  · exact tracked.setPhase (by rintro ⟨⟩)
  · next idle => exact tracked.attach indexed fresh idle
  · exact (tracked.record _ _ _ _).setPhase (by rintro ⟨⟩)
  · exact tracked.setPhase (by rintro ⟨⟩)
  · exact (tracked.rollback _).setPhase (by rintro ⟨⟩)
  · exact tracked.setPhase (by rintro ⟨⟩)
  · next got => exact tracked.closeSub indexed got
  · next pending => exact tracked.finish pending
  · exact tracked.record _ _ _ _
  · exact tracked.closeRegistry indexed
  · next progress => exact tracked.closeFinish progress
  · have settled : Tracked { s with registry := { s.registry with close := .returned } } :=
      tracked.settle _ _ _ (fun _ mem => mem)
        (fun _ waits => .inr waits) (fun _ past => past)
        tracked.dead tracked.forestalled (by rintro _ ⟨⟩)
    exact settled.record _ _ _ _
  · exact tracked.record _ _ _ _

/-- Every step keeps the subscriptions tracked. -/
theorem Tracked.step
    (tracked : Tracked s) (indexed : Indexed s.registry) (fresh : s.Fresh label)
    (ran : observedStep s label = some t) : Tracked t := by
  rcases observedStep_cases ran with ⟨cookie, rfl⟩ | ⟨cookie, rfl⟩ | ⟨plain, next, moved, rfl⟩
  · exact tracked.notifyDead indexed cookie
  · exact tracked.finishClearing indexed cookie
  · exact tracked.plainStep indexed fresh plain moved

end Runs

/-- What holds of the registry between two atomic actions. -/
structure Consistent (s : ObservedRegistry) : Prop where
  /-- No two watches ever get the same cookie. -/
  cookies : ∀ v w, v < s.registry.watchCount → w < s.registry.watchCount →
      (s.registry.watch v).cookie = (s.registry.watch w).cookie → v = w
  /-- The two indices agree, and the sets of a listed watch can be used. -/
  listed : ∀ handle w, s.registry.byHandle.lookup handle = some w →
      (s.registry.watch w).handle = handle ∧
        s.registry.byCookie.lookup (s.registry.watch w).cookie = some w ∧
        (s.registry.watch w).subs ≠ [] ∧
        s.subsNil w = false ∧ s.closingSubsNil w = false
  /-- A reported death arrives unless the subscription was closed. -/
  delivery : ∀ sub, s.notified sub →
      s.registry.done sub = some .deadObject ∨
        s.registry.done sub = none ∧ (sub, .deadObject) ∈ s.registry.finishers ∨
        s.registry.done sub = some .none ∧ s.registry.closeCalled sub
  /-- Nothing else finishes a subscription with a death. -/
  deaths : ∀ sub, s.registry.done sub = some .deadObject → s.notified sub

/--
In every state reached by any interleaving in which the cookie counter does
not wrap around, the registry is consistent and every death that was processed
is delivered, is about to be delivered, or was forestalled by a `Close` of the
subscription.
-/
theorem registry_consistent_deaths_delivered
    {s : ObservedRegistry}
    (reaches : observedDeaths.Reaches ObservedRegistry.Fresh s) : Consistent s := by
  have invariant : Indexed s.registry ∧ Tracked s := by
    refine @System.Reaches.invariant _ _ _ _
      (fun state => Indexed state.registry ∧ Tracked state) ?_ ?_ s reaches
    · exact ⟨.init, .init⟩
    · rintro state label next ⟨indexed, tracked⟩ fresh stepped
      exact ⟨indexed_observedStep indexed fresh stepped, tracked.step indexed fresh stepped⟩
  rcases invariant with ⟨indexed, tracked⟩
  refine ⟨indexed.distinct, ?_, ?_, tracked.dead⟩
  · intro handle w found
    have same := (indexed.handles handle w found).2
    have current : s.registry.Listed w := by
      unfold Listed
      rwa [same]
    exact ⟨same, indexed.paired w current, tracked.populated w current, tracked.usable w current⟩
  · intro sub notified
    cases done : s.registry.done sub with
    | none =>
      refine .inr (.inl ⟨rfl, ?_⟩)
      exact (tracked.delivered sub notified).resolve_left fun finished => finished done
    | some err =>
      cases err with
      | none => exact .inr (.inr ⟨rfl, tracked.forestalled sub notified done⟩)
      | deadObject => exact .inl rfl

instance decidableFresh (s : ObservedRegistry) (label : DeathLabel) : Decidable (s.Fresh label) :=
  inferInstanceAs (Decidable (DeathRegistry.Fresh s.registry label))

/-- Two subscriptions share a watch whose binder dies. -/
def deathRun : List DeathLabel :=
  [.attach 7 0, .grant 0, .return_ 0, .attach 7 1, .return_ 1, .notifyDead 1, .finish 0 .deadObject]

theorem deathRun_meets : observedDeaths.Meets ObservedRegistry.Fresh deathRun .init := by
  decide +kernel

theorem registry_consistent_deaths_delivered_shared :
    ∃ s : ObservedRegistry,
      observedDeaths.run deathRun init = some s ∧ s.notified 0 ∧ s.notified 1 ∧ Consistent s := by
  refine ⟨_, rfl, rfl, rfl, ?_⟩
  exact registry_consistent_deaths_delivered (System.Reaches.start.of_run deathRun_meets rfl)

/-- `Close` of the subscription comes before the goroutine's `finish`. -/
def forestalledRun : List DeathLabel :=
  [.attach 7 0, .grant 0, .return_ 0, .notifyDead 1, .closeSub 0,
    .finish 0 .none, .finish 0 .deadObject]

/--
The subscription was attached and unfinished when the death was processed; all
goroutines are done and it is finished without an error.
-/
theorem death_forestalled_by_close :
    ∃ s : ObservedRegistry,
      observedDeaths.run forestalledRun init = some s ∧
        s.notified 0 ∧ s.registry.finishers = [] ∧
        s.registry.done 0 = some .none :=
  ⟨_, rfl, rfl, rfl, rfl⟩

end ObservedRegistry

end Libbinder.Kernel
