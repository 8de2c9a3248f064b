import Libbinder.Kernel.DeathRegistry

/-!
# The two indices of the registry

The invariant that ties `byHandle`, `byCookie` and the subscription sets
together: an index entry names a watch with that key, cookies are not shared,
an open subscription is in the set of its watch while the watch is listed, and
a cookie is cleared only after every subscription of its watch was closed.  It
holds in every run in which the cookie counter does not wrap around.
-/

namespace Libbinder.Kernel

open Go List Function AList
open DeathRegistry

/-- The subscription was added to its watch and its `Watch` did not fail. -/
def WatchPhase.attached : WatchPhase → Bool
  | .idle => false
  | .failed => false
  | _ => true

namespace DeathRegistry

/-- The watch is the current one of its handle. -/
def Listed (r : DeathRegistry) (w : Nat) : Prop :=
  r.byHandle.lookup (r.watch w).handle = some w

/-- The watch left `byHandle` after all its subscriptions were closed. -/
def Retired (r : DeathRegistry) (w : Nat) : Prop :=
  ¬ r.Listed w ∧ ∀ sub, (r.phase sub).attached → r.target sub = w → r.closeCalled sub

/-- The invariant of the two indices. -/
structure Indexed (r : DeathRegistry) : Prop where
  handles :
    ∀ handle w, r.byHandle.lookup handle = some w → w < r.watchCount ∧ (r.watch w).handle = handle
  cookies :
    ∀ cookie w, r.byCookie.lookup cookie = some w → w < r.watchCount ∧ (r.watch w).cookie = cookie
  bounded : ∀ w, w < r.watchCount → (r.watch w).cookie.toNat ≤ r.nextCookie.toNat
  paired : ∀ w, r.Listed w → r.byCookie.lookup (r.watch w).cookie = some w
  distinct :
    ∀ v w, v < r.watchCount → w < r.watchCount → (r.watch v).cookie = (r.watch w).cookie → v = w
  targets : ∀ sub, (r.phase sub).attached → r.target sub < r.watchCount
  members : ∀ sub, (r.phase sub).attached → r.closeCalled sub = false →
      r.Listed (r.target sub) → sub ∈ (r.watch (r.target sub)).subs
  clearing : ∀ w ∈ r.clearing, w < r.watchCount ∧ r.Retired w
  cleared : ∀ cookie, r.cleared cookie →
      ∃ w, w < r.watchCount ∧ (r.watch w).cookie = cookie ∧ r.Retired w
  idle : ∀ sub, r.phase sub ≠ .returned → r.closeCalled sub = false

theorem Indexed.init : Indexed .init where
  handles := by rintro _ _ ⟨⟩
  cookies := by rintro _ _ ⟨⟩
  bounded := by rintro _ ⟨⟩
  paired := by rintro _ ⟨⟩
  distinct := by rintro _ _ ⟨⟩
  targets := by rintro _ ⟨⟩
  members := by rintro _ ⟨⟩
  clearing := by rintro _ ⟨⟩
  cleared := by rintro _ ⟨⟩
  idle := fun _ _ => rfl

/-- A new watch gets a cookie that was never used. -/
def Fresh (r : DeathRegistry) : DeathLabel → Prop
  | .attach handle _ => r.byHandle.lookup handle = none → r.nextCookie.toNat + 1 < 2 ^ 64
  | _ => True

instance decidableFresh (r : DeathRegistry) (label : DeathLabel) : Decidable (Fresh r label) := by
  cases label with
  | attach handle sub =>
    exact inferInstanceAs
      (Decidable (r.byHandle.lookup handle = none → r.nextCookie.toNat + 1 < 2 ^ 64))
  | _ => exact instDecidableTrue

/-! ## Changes that keep the invariant -/

section Changes

variable {r t : DeathRegistry}

theorem phase_setPhase (r : DeathRegistry) (sub other : Nat) (phase : WatchPhase) :
    (r.setPhase sub phase).phase other = if other = sub then phase else r.phase other := by
  simp [setPhase, update_apply]

variable {sub : Nat} {w : Nat}

theorem lookup_erase_some
    {κ : Type} [DecidableEq κ] {key other : κ} {map : AList fun _ : κ => Nat}
    (found : (map.erase key).lookup other = some w) : map.lookup other = some w := by
  by_cases same : other = key
  · subst same
    rw [lookup_erase] at found
    cases found
  · rwa [lookup_erase_ne same] at found

theorem watch_setWatch (r : DeathRegistry) (w v : Nat) (watch : DeathWatch) :
    (r.setWatch w watch).watch v = if v = w then watch else r.watch v := by
  simp [setWatch, update_apply]

variable {watch : DeathWatch}

theorem handle_setWatch (sameHandle : watch.handle = (r.watch w).handle) (v : Nat) :
    ((r.setWatch w watch).watch v).handle = (r.watch v).handle := by
  rw [watch_setWatch]
  split_ifs with same
  · rw [same, sameHandle]
  · rfl

theorem cookie_setWatch (sameCookie : watch.cookie = (r.watch w).cookie) (v : Nat) :
    ((r.setWatch w watch).watch v).cookie = (r.watch v).cookie := by
  rw [watch_setWatch]
  split_ifs with same
  · rw [same, sameCookie]
  · rfl

variable {v : Nat}

theorem listed_of_setWatch
    (same : watch.handle = (r.watch w).handle) (now : (r.setWatch w watch).Listed v) :
    r.Listed v := by
  unfold Listed at now
  rwa [handle_setWatch same] at now

theorem dropHandle_of_listed (listed : r.Listed w) :
    r.dropHandle w = { r with byHandle := r.byHandle.erase (r.watch w).handle } :=
  if_pos listed

theorem listed_setWatch (same : watch.handle = (r.watch w).handle) (listed : r.Listed w) :
    (r.setWatch w watch).Listed w := by
  unfold Listed
  rwa [watch_setWatch, if_pos rfl, same]

theorem dropHandle_eq (r : DeathRegistry) (w : Nat) :
    r.dropHandle w = { r with byHandle := (r.dropHandle w).byHandle } := by
  unfold dropHandle
  split_ifs <;> rfl

theorem dropHandle_byCookie (r : DeathRegistry) (byCookie : AList fun _ : UInt64 => Nat) (w : Nat) :
    ({ r with byCookie := byCookie } : DeathRegistry).dropHandle w =
      { r with
        byHandle := (r.dropHandle w).byHandle
        byCookie := byCookie } := by
  unfold dropHandle
  split_ifs <;> rfl

theorem dropHandle_setWatch (r : DeathRegistry) (w : Nat) (subs closingSubs : List Nat) :
    (r.setWatch w
        { r.watch w with subs := subs, closingSubs := closingSubs }).dropHandle w =
      ({ r with byHandle := (r.dropHandle w).byHandle } :
        DeathRegistry).setWatch w { r.watch w with subs := subs, closingSubs := closingSubs } := by
  unfold dropHandle
  rw [watch_setWatch, if_pos rfl]
  change (if r.byHandle.lookup (r.watch w).handle = some w then _ else _) = _
  split_ifs
  · rfl
  · rfl

theorem lookup_dropHandle :
    (r.dropHandle w).byHandle.lookup (r.watch v).handle = some v ↔ r.Listed v ∧ v ≠ w := by
  by_cases gone : r.byHandle.lookup (r.watch w).handle = some w
  · rw [dropHandle_of_listed gone]
    change (r.byHandle.erase (r.watch w).handle).lookup (r.watch v).handle = some v ↔ _
    by_cases sameKey : (r.watch v).handle = (r.watch w).handle
    · rw [sameKey, lookup_erase]
      constructor
      · rintro ⟨⟩
      · rintro ⟨listed, apart⟩
        unfold Listed at listed
        rw [sameKey, gone] at listed
        exact absurd (Option.some.inj listed).symm apart
    · rw [lookup_erase_ne sameKey]
      constructor
      · intro listed
        refine ⟨listed, ?_⟩
        rintro rfl
        exact sameKey rfl
      · intro both
        exact both.1
  · rw [dropHandle, if_neg gone]
    constructor
    · intro listed
      refine ⟨listed, ?_⟩
      rintro rfl
      exact gone listed
    · intro both
      exact both.1

theorem not_lookup_dropHandle (r : DeathRegistry) (w : Nat) :
    ¬ (r.dropHandle w).byHandle.lookup (r.watch w).handle = some w := by
  rw [lookup_dropHandle]
  exact fun both => both.2 rfl

theorem lookup_of_dropHandle
    {key : UInt32} (found : (r.dropHandle w).byHandle.lookup key = some v) :
    r.byHandle.lookup key = some v := by
  unfold dropHandle at found
  split_ifs at found
  · exact lookup_erase_some found
  · exact found

theorem lookup_erase_of_ne
    {map : AList fun _ : UInt64 => Nat} {key other : UInt64}
    (found : map.lookup other = some v) (erased : map.lookup key = some w) (apart : v ≠ w) :
    (map.erase key).lookup other = some v := by
  have keys : other ≠ key := by
    rintro rfl
    rw [found] at erased
    exact apart (Option.some.inj erased)
  rwa [lookup_erase_ne keys]

theorem lookup_dropCookie (apart : v ≠ w) (found : r.byCookie.lookup (r.watch v).cookie = some v) :
    (r.dropCookie w).byCookie.lookup (r.watch v).cookie = some v := by
  unfold dropCookie
  split_ifs with gone
  · exact lookup_erase_of_ne found gone apart
  · exact found

theorem lookup_of_dropCookie
    {key : UInt64} (found : (r.dropCookie w).byCookie.lookup key = some v) :
    r.byCookie.lookup key = some v := by
  unfold dropCookie at found
  split_ifs at found
  · exact lookup_erase_some found
  · exact found

/-- What `removeSub` changes. -/
theorem removeSub_cases (r : DeathRegistry) (sub : Nat) :
    ∃ watch byHandle finishers clearing,
      r.removeSub sub =
          { r with
            watch := watch
            byHandle := byHandle
            finishers := finishers
            clearing := clearing } ∧
        (∀ v, (watch v).handle = (r.watch v).handle) ∧
        (∀ v, (watch v).cookie = (r.watch v).cookie) ∧
        (byHandle = r.byHandle ∨
          byHandle = (r.dropHandle (r.target sub)).byHandle ∧
            ∀ other ∈ (r.watch (r.target sub)).subs, other = sub) := by
  unfold removeSub
  simp only []
  generalize r.target sub = w
  by_cases gone : r.byHandle.lookup (r.watch w).handle ≠ some w
  · rw [if_pos gone]
    exact ⟨_, _, _, _, rfl, fun _ => rfl, fun _ => rfl, .inl rfl⟩
  · rw [if_neg gone]
    by_cases others : (r.watch w).subs.filter (fun other => other ≠ sub) ≠ []
    · rw [if_pos others]
      exact ⟨_, _, _, _, rfl, handle_setWatch rfl, cookie_setWatch rfl, .inl rfl⟩
    · rw [if_neg others, dropHandle_setWatch]
      refine ⟨_, _, _, _, rfl, handle_setWatch rfl, cookie_setWatch rfl, .inr ⟨rfl, ?_⟩⟩
      intro other mem
      by_contra apart
      exact not_mem_nil (of_not_not others ▸ mem_filter.mpr ⟨mem, decide_eq_true apart⟩)

/-- The registry with a new watch, before a subscription refers to it. -/
def grow (r : DeathRegistry) (handle : UInt32) (subs : List Nat) : DeathRegistry :=
  { r.setWatch r.watchCount ⟨handle, r.nextCookie + 1, subs, []⟩ with
    nextCookie := r.nextCookie + 1
    watchCount := r.watchCount + 1
    byHandle := r.byHandle.insert handle r.watchCount
    byCookie := r.byCookie.insert (r.nextCookie + 1) r.watchCount }

theorem watch_grow (r : DeathRegistry) (handle : UInt32) (subs : List Nat) (v : Nat) :
    (r.grow handle subs).watch v =
      if v = r.watchCount then ⟨handle, r.nextCookie + 1, subs, []⟩
      else r.watch v :=
  watch_setWatch r r.watchCount v _

theorem lookup_grow (r : DeathRegistry) (handle key : UInt32) (subs : List Nat) :
    (r.grow handle subs).byHandle.lookup key =
      if key = handle then some r.watchCount
      else r.byHandle.lookup key := by
  split_ifs with same
  · subst same
    exact lookup_insert _
  · exact lookup_insert_ne same

theorem lookupCookie_grow (r : DeathRegistry) (handle : UInt32) (key : UInt64) (subs : List Nat) :
    (r.grow handle subs).byCookie.lookup key =
      if key = r.nextCookie + 1 then some r.watchCount
      else r.byCookie.lookup key := by
  split_ifs with same
  · subst same
    exact lookup_insert _
  · exact lookup_insert_ne same

variable {handle : UInt32}

theorem listed_of_grow
    {subs : List Nat} (below : v < r.watchCount) (now : (r.grow handle subs).Listed v) :
    r.Listed v := by
  unfold Listed at now
  rw [lookup_grow, watch_grow, if_neg (by omega : ¬ v = r.watchCount)] at now
  split_ifs at now with same
  · cases now
    omega
  · exact now

theorem listed_grow (r : DeathRegistry) (handle : UInt32) (subs : List Nat) :
    (r.grow handle subs).Listed r.watchCount := by
  unfold Listed
  rw [lookup_grow, watch_grow, if_pos rfl, if_pos rfl]

theorem toNat_nextCookie (noWrap : r.nextCookie.toNat + 1 < 2 ^ 64) :
    (r.nextCookie + 1).toNat = r.nextCookie.toNat + 1 := by
  rw [UInt64.toNat_add]
  simp
  omega

theorem rollback_eq (r : DeathRegistry) (w : Nat) :
    r.rollback w =
      { r with
        byHandle := (r.dropHandle w).byHandle
        byCookie := (r.dropCookie w).byCookie } := by
  unfold rollback
  rw [dropHandle_eq]
  unfold dropCookie
  split_ifs <;> rfl

theorem rollback_phase (r : DeathRegistry) (w : Nat) : (r.rollback w).phase = r.phase := by
  rw [rollback_eq]

/-- A watch leaves both maps, and subscriptions of it go to a goroutine. -/
def withdraw
    (r : DeathRegistry) (cookie : UInt64) (w : Nat)
    (subs closingSubs : List Nat) (finishers : List (Nat × FinishError)) : DeathRegistry :=
  { r.setWatch w { r.watch w with subs := subs, closingSubs := closingSubs } with
    byHandle := (r.dropHandle w).byHandle
    byCookie := r.byCookie.erase cookie
    finishers := finishers }

variable {cookie : UInt64}

theorem notifyDead_eq (found : r.byCookie.lookup cookie = some w) :
    r.notifyDead cookie =
      r.withdraw cookie w [] []
        (((r.watch w).subs ++ (r.watch w).closingSubs).map (·, .deadObject) ++ r.finishers) := by
  simp only [notifyDead, found, dropHandle_byCookie]
  rfl

theorem finishClearing_eq (found : r.byCookie.lookup cookie = some w) :
    r.finishClearing cookie =
      r.withdraw cookie w (r.watch w).subs []
        ((r.watch w).closingSubs.map (·, .none) ++ r.finishers) := by
  simp only [finishClearing, found, dropHandle_byCookie]
  rfl

variable (indexed : Indexed r)

include indexed

/-- A change under which retired watches stay retired, with their cookies. -/
theorem Indexed.clears
    (watchCount : r.watchCount ≤ t.watchCount)
    (clearing : t.clearing = r.clearing) (clear : t.cleared = r.cleared)
    (cookie : ∀ w, w < r.watchCount → (t.watch w).cookie = (r.watch w).cookie)
    (retired : ∀ w, w < r.watchCount → r.Retired w → t.Retired w) :
    (∀ w ∈ t.clearing, w < t.watchCount ∧ t.Retired w) ∧
      ∀ key, t.cleared key → ∃ w, w < t.watchCount ∧ (t.watch w).cookie = key ∧ t.Retired w := by
  rw [clearing, clear]
  refine ⟨?_, ?_⟩
  · intro w mem
    rcases indexed.clearing w mem with ⟨below, was⟩
    exact ⟨below.trans_le watchCount, retired w below was⟩
  · intro key isCleared
    rcases indexed.cleared key isCleared with ⟨w, below, same, was⟩
    exact ⟨w, below.trans_le watchCount, (cookie w below).trans same, retired w below was⟩

/-- A `Watch` call moves on without leaving or entering its watch. -/
theorem Indexed.setPhase
    {phase : WatchPhase} (tied : phase.attached → (r.phase sub).attached)
    (before : r.phase sub ≠ .returned) : Indexed (r.setPhase sub phase) := by
  have wasAttached {other : Nat}
      (now : ((r.setPhase sub phase).phase other).attached) :
      (r.phase other).attached := by
    rw [phase_setPhase] at now
    split_ifs at now with same
    · rw [same]
      exact tied now
    · exact now
  have clears :=
    @Indexed.clears r (r.setPhase sub phase) indexed le_rfl rfl rfl
      (fun _ _ => rfl) fun _ _ was =>
        ⟨was.1, fun other now => was.2 other (wasAttached now)⟩
  exact { indexed with
    targets := fun other now => indexed.targets other (wasAttached now)
    members := fun other now => indexed.members other (wasAttached now)
    clearing := clears.1
    cleared := clears.2
    idle := by
      intro other busy
      rw [phase_setPhase] at busy
      split_ifs at busy with same
      · rw [same]
        exact indexed.idle sub before
      · exact indexed.idle other busy }

/-- Removing watches from the indices keeps the invariant. -/
theorem Indexed.shrink
    (byHandle : AList fun _ : UInt32 => Nat) (byCookie : AList fun _ : UInt64 => Nat)
    (fewer : ∀ handle w, byHandle.lookup handle = some w → r.byHandle.lookup handle = some w)
    (fewerCookies : ∀ cookie w, byCookie.lookup cookie = some w → r.byCookie.lookup cookie = some w)
    (paired : ∀ w, byHandle.lookup (r.watch w).handle = some w →
      byCookie.lookup (r.watch w).cookie = some w) :
    Indexed { r with byHandle := byHandle, byCookie := byCookie } := by
  have clears :=
    @Indexed.clears r { r with byHandle := byHandle, byCookie := byCookie }
      indexed le_rfl rfl rfl (fun _ _ => rfl) fun _ _ was =>
        ⟨fun now => was.1 (fewer _ _ now), was.2⟩
  exact { indexed with
    handles := fun handle w found => indexed.handles handle w (fewer handle w found)
    cookies := fun cookie w found => indexed.cookies cookie w (fewerCookies cookie w found)
    paired := paired
    members := fun sub tied notCalled now =>
      indexed.members sub tied notCalled (fewer _ _ now)
    clearing := clears.1
    cleared := clears.2 }

theorem Indexed.dropHandle (w : Nat) : Indexed (r.dropHandle w) := by
  rw [dropHandle_eq]
  exact indexed.shrink _ _ (fun _ _ => lookup_of_dropHandle) (fun _ _ => id)
    fun v now => indexed.paired v (lookup_dropHandle.mp now).1

theorem Indexed.rollback (w : Nat) : Indexed (r.rollback w) := by
  rw [rollback_eq]
  refine indexed.shrink _ _ (fun _ _ => lookup_of_dropHandle) (fun _ _ => lookup_of_dropCookie) ?_
  intro v now
  rcases lookup_dropHandle.mp now with ⟨listed, apart⟩
  exact lookup_dropCookie apart (indexed.paired v listed)

theorem Indexed.setFinishers (finishers : List (Nat × FinishError)) :
    Indexed { r with finishers := finishers } :=
  { indexed with }

/-- Changing the subscription sets of one watch. -/
theorem Indexed.setWatch
    (sameHandle : watch.handle = (r.watch w).handle)
    (sameCookie : watch.cookie = (r.watch w).cookie)
    (members : ∀ sub, (r.phase sub).attached → r.closeCalled sub = false →
        r.target sub = w → r.Listed w → sub ∈ watch.subs) : Indexed (r.setWatch w watch) := by
  have handle := handle_setWatch sameHandle
  have cookie := cookie_setWatch sameCookie
  have listed {v : Nat} (now : (r.setWatch w watch).Listed v) : r.Listed v :=
    listed_of_setWatch sameHandle now
  have clears :=
    @Indexed.clears r (r.setWatch w watch) indexed le_rfl rfl rfl
      (fun v _ => cookie v) fun _ _ was =>
        ⟨fun now => was.1 (listed now), was.2⟩
  exact { indexed with
    handles := by
      intro key v found
      rw [handle]
      exact indexed.handles key v found
    cookies := by
      intro key v found
      rw [cookie]
      exact indexed.cookies key v found
    bounded := by
      intro v below
      rw [cookie]
      exact indexed.bounded v below
    paired := by
      intro v now
      rw [cookie]
      exact indexed.paired v (listed now)
    distinct := by
      intro u v belowU belowV equal
      rw [cookie, cookie] at equal
      exact indexed.distinct u v belowU belowV equal
    members := by
      intro sub tied notCalled now
      have wasListed := listed now
      rw [watch_setWatch]
      split_ifs with same
      · exact members sub tied notCalled same (by rw [← same]; exact wasListed)
      · exact indexed.members sub tied notCalled wasListed
    clearing := clears.1
    cleared := clears.2 }

/-- A new subscription enters a listed watch. -/
theorem Indexed.enter
    {phase : WatchPhase} (idle : r.phase sub = .idle)
    (below : w < r.watchCount) (mem : sub ∈ (r.watch w).subs) (listed : r.Listed w) :
    Indexed ({ r with target := update r.target sub w }.setPhase sub phase) := by
  have notCalled : r.closeCalled sub = false := indexed.idle sub (by rw [idle]; decide)
  have targetOf (other : Nat) :
      ({ r with target := update r.target sub w }.setPhase sub
          phase).target other =
        if other = sub then w else r.target other := by
    simp [DeathRegistry.setPhase, update_apply]
  have phaseOf := phase_setPhase { r with target := update r.target sub w } sub
  have clears :=
    @Indexed.clears r
      ({ r with target := update r.target sub w }.setPhase sub phase)
      indexed le_rfl rfl rfl (fun _ _ => rfl) fun v _ was => by
        refine ⟨was.1, ?_⟩
        intro other tied aimed
        rw [phaseOf] at tied
        rw [targetOf] at aimed
        split_ifs at tied aimed with same
        · subst aimed
          exact absurd listed was.1
        · exact was.2 other tied aimed
  exact { indexed with
    targets := by
      intro other tied
      rw [phaseOf] at tied
      rw [targetOf]
      split_ifs at tied ⊢ with same
      · exact below
      · exact indexed.targets other tied
    members := by
      intro other tied open_ nowListed
      rw [phaseOf] at tied
      rw [targetOf] at nowListed ⊢
      split_ifs at tied nowListed ⊢ with same
      · rwa [same]
      · exact indexed.members other tied open_ nowListed
    clearing := clears.1
    cleared := clears.2
    idle := by
      intro other busy
      rw [phaseOf] at busy
      split_ifs at busy with same
      · rwa [same]
      · exact indexed.idle other busy }

theorem Indexed.cookie_ne_next
    (noWrap : r.nextCookie.toNat + 1 < 2 ^ 64) (below : v < r.watchCount) :
    (r.watch v).cookie ≠ r.nextCookie + 1 := by
  intro equal
  have bound := indexed.bounded v below
  rw [equal, toNat_nextCookie noWrap] at bound
  omega

/-- A handle without a watch gets a new one, under a new cookie. -/
theorem Indexed.grow {subs : List Nat} (noWrap : r.nextCookie.toNat + 1 < 2 ^ 64) :
    Indexed (r.grow handle subs) := by
  have next := toNat_nextCookie noWrap
  have old {v : Nat} (below : v < r.watchCount) : (r.grow handle subs).watch v = r.watch v := by
    rw [watch_grow, if_neg (by omega)]
  have fresh {v : Nat} (below : v < r.watchCount) : (r.watch v).cookie ≠ r.nextCookie + 1 :=
    indexed.cookie_ne_next noWrap below
  have clears :=
    @Indexed.clears r (r.grow handle subs) indexed (Nat.le_succ _) rfl rfl
      (fun _ below => by rw [old below]) fun _ below was =>
        ⟨fun now => was.1 (listed_of_grow below now), was.2⟩
  exact {
    handles := by
      intro key w found
      rw [lookup_grow] at found
      rw [watch_grow]
      split_ifs at found with same
      · cases found
        rw [if_pos rfl]
        exact ⟨Nat.lt_succ_self _, same.symm⟩
      · rcases indexed.handles key w found with ⟨below, handleIs⟩
        rw [if_neg (by omega)]
        exact ⟨Nat.lt_succ_of_lt below, handleIs⟩
    cookies := by
      intro key w found
      rw [lookupCookie_grow] at found
      rw [watch_grow]
      split_ifs at found with same
      · cases found
        rw [if_pos rfl]
        exact ⟨Nat.lt_succ_self _, same.symm⟩
      · rcases indexed.cookies key w found with ⟨below, cookieIs⟩
        rw [if_neg (by omega)]
        exact ⟨Nat.lt_succ_of_lt below, cookieIs⟩
    bounded := by
      intro w below
      change _ ≤ (r.nextCookie + 1).toNat
      rw [watch_grow]
      split_ifs with isNew
      · exact Nat.le_refl _
      · have below' : w < r.watchCount + 1 := below
        have := indexed.bounded w (by omega)
        omega
    paired := by
      intro v now
      by_cases isNew : v = r.watchCount
      · rw [watch_grow, if_pos isNew, lookupCookie_grow, if_pos rfl, isNew]
      · unfold Listed at now
        rw [watch_grow, if_neg isNew, lookup_grow] at now
        split_ifs at now with same
        · exact absurd (Option.some.inj now).symm isNew
        · have below := (indexed.handles _ v now).1
          rw [old below, lookupCookie_grow, if_neg (fresh below)]
          exact indexed.paired v now
    distinct := by
      intro v w belowV belowW equal
      have belowV' : v < r.watchCount + 1 := belowV
      have belowW' : w < r.watchCount + 1 := belowW
      rw [watch_grow, watch_grow] at equal
      split_ifs at equal with newV newW newW
      · omega
      · exact absurd equal.symm (fresh (by omega))
      · exact absurd equal (fresh (by omega))
      · exact indexed.distinct v w (by omega) (by omega) equal
    targets := by
      intro sub tied
      exact Nat.lt_succ_of_lt (indexed.targets sub tied)
    members := by
      intro sub tied open_ now
      have below := indexed.targets sub tied
      change sub ∈ ((r.grow handle subs).watch (r.target sub)).subs
      rw [old below]
      exact indexed.members sub tied open_ (listed_of_grow below now)
    clearing := clears.1
    cleared := clears.2
    idle := indexed.idle }

/-! ## Every action -/

theorem Indexed.attach (fresh : Fresh r (.attach handle sub)) (idle : r.phase sub = .idle) :
    Indexed (r.attach handle sub) := by
  have busy : r.phase sub ≠ .returned := by
    rw [idle]
    decide
  unfold DeathRegistry.attach
  split_ifs with closed
  · exact indexed.setPhase (by simp [WatchPhase.attached]) busy
  · cases found : r.byHandle.lookup handle with
    | some w =>
      rcases indexed.handles handle w found with ⟨below, handleIs⟩
      have listed : r.Listed w := by
        unfold Listed
        rwa [handleIs]
      have added : Indexed (r.setWatch w { r.watch w with subs := sub :: (r.watch w).subs }) :=
        indexed.setWatch rfl rfl fun other tied open_ aimed _ => by
          subst aimed
          exact mem_cons_of_mem _ (indexed.members other tied open_ listed)
      apply added.enter idle below
      · rw [watch_setWatch, if_pos rfl]
        exact mem_cons_self
      · exact listed_setWatch rfl listed
    | none =>
      apply (indexed.grow (fresh found)).enter idle (Nat.lt_succ_self _)
      · rw [watch_grow, if_pos rfl]
        exact mem_cons_self
      · exact listed_grow r handle [sub]

/-- `Close` is called on a returned subscription. -/
theorem Indexed.callClose (ran : r.phase sub = .returned) :
    Indexed { r with closeCalled := update r.closeCalled sub true } := by
  have wasOpen {other : Nat}
      (open_ : update r.closeCalled sub true other = false) : r.closeCalled other = false := by
    rw [update_apply] at open_
    split_ifs at open_
    exact open_
  have nowCalled {other : Nat} (called : r.closeCalled other) :
      update r.closeCalled sub true other := by
    rw [update_apply]
    split_ifs
    · rfl
    · exact called
  have clears :=
    @Indexed.clears r
      { r with closeCalled := update r.closeCalled sub true }
      indexed le_rfl rfl rfl (fun _ _ => rfl) fun _ _ was =>
        ⟨was.1, fun other tied aimed =>
          nowCalled (was.2 other tied aimed)⟩
  exact { indexed with
    members := fun other tied open_ listed =>
      indexed.members other tied (wasOpen open_) listed
    clearing := clears.1
    cleared := clears.2
    idle := by
      intro other busy
      have apart : other ≠ sub := by
        rintro rfl
        exact busy ran
      simp only [update_of_ne apart]
      exact indexed.idle other busy }

/-- A watch all of whose subscriptions are closed is retired. -/
theorem Indexed.retire
    (below : w < r.watchCount)
    (called : ∀ sub, (r.phase sub).attached → r.target sub = w → r.closeCalled sub) :
    Indexed { r.dropHandle w with clearing := w :: (r.dropHandle w).clearing } := by
  have dropped := indexed.dropHandle w
  rw [dropHandle_eq] at dropped ⊢
  exact { dropped with
    clearing := by
      intro v mem
      rcases mem_cons.mp mem with rfl | earlier
      · exact ⟨below, not_lookup_dropHandle r v, called⟩
      · exact dropped.clearing v earlier }

theorem Indexed.removeSub (ran : r.phase sub = .returned) :
    Indexed
      { r.removeSub sub with closeCalled := update r.closeCalled sub true } := by
  have called := indexed.callClose ran
  have below : r.target sub < r.watchCount := by
    refine indexed.targets sub ?_
    rw [ran]
    rfl
  unfold DeathRegistry.removeSub
  simp only []
  generalize r.target sub = w at below ⊢
  have left {other : Nat}
      (otherAttached : (r.phase other).attached)
      (open_ : update r.closeCalled sub true other = false)
      (aimed : r.target other = w) (listed : r.Listed w) :
      other ∈ (r.watch w).subs.filter fun other => other ≠ sub := by
    have apart : other ≠ sub := by
      rintro rfl
      simp at open_
    rw [update_of_ne apart] at open_
    have member := indexed.members other otherAttached open_ (by rw [aimed]; exact listed)
    rw [aimed] at member
    exact mem_filter.mpr ⟨member, by simpa using apart⟩
  generalize (r.watch w).subs.filter (fun other => other ≠ sub) = kept at left ⊢
  by_cases gone : r.byHandle.lookup (r.watch w).handle ≠ some w
  · rw [if_pos gone]
    exact { called with }
  · have listed : r.Listed w := by
      simpa [Listed] using gone
    rw [if_neg gone]
    by_cases others : kept ≠ []
    · rw [if_pos others]
      refine (called.setWatch (w := w) (by rfl) (by rfl) ?_).setFinishers _
      intro other otherAttached open_ aimed _
      exact left otherAttached open_ aimed listed
    · rw [if_neg others]
      have alone (other : Nat)
          (otherAttached : (r.phase other).attached)
          (aimed : r.target other = w) : update r.closeCalled sub true other := by
        rcases Bool.eq_false_or_eq_true (update r.closeCalled sub true other) with done | open_
        · exact done
        · have member := left otherAttached open_ aimed listed
          rw [of_not_not others] at member
          cases member
      have emptied :
          Indexed (({ r with
            closeCalled := update r.closeCalled sub true } : DeathRegistry).setWatch w
            { r.watch w with
              subs := kept
              closingSubs := sub :: (r.watch w).closingSubs }) :=
        called.setWatch rfl rfl
          fun other otherAttached open_ aimed _ =>
            left otherAttached open_ aimed listed
      have retired := emptied.retire below alone
      rw [dropHandle_of_listed] at retired ⊢
      · exact retired
      · exact listed_setWatch rfl listed
      · exact listed_setWatch rfl listed

/-- The clear function is called for a retired watch. -/
theorem Indexed.issueClear (mem : w ∈ r.clearing) :
    Indexed
      { r with
        clearing := r.clearing.erase w
        cleared := update r.cleared (r.watch w).cookie true } :=
  { indexed with
    clearing := fun v inErased =>
      indexed.clearing v (mem_of_mem_erase inErased)
    cleared := by
      intro cookie isCleared
      by_cases same : cookie = (r.watch w).cookie
      · rcases indexed.clearing w mem with ⟨below, retired⟩
        exact ⟨w, below, same.symm, retired⟩
      · simp only [update_of_ne same] at isCleared
        exact indexed.cleared cookie isCleared }

theorem Indexed.withdraw
    (found : r.byCookie.lookup cookie = some w)
    (subs closingSubs : List Nat) (finishers : List (Nat × FinishError)) :
    Indexed (r.withdraw cookie w subs closingSubs finishers) := by
  have shrunk := indexed.shrink (r.dropHandle w).byHandle (r.byCookie.erase cookie)
    (fun _ _ => lookup_of_dropHandle) (fun _ _ => lookup_erase_some) fun v now => by
      rcases lookup_dropHandle.mp now with ⟨listed, apart⟩
      exact lookup_erase_of_ne (indexed.paired v listed) found apart
  refine (shrunk.setWatch (w := w) (by rfl) (by rfl) ?_).setFinishers _
  exact fun _ _ _ _ listed => absurd listed (not_lookup_dropHandle r w)

theorem Indexed.notifyDead (cookie : UInt64) : Indexed (r.notifyDead cookie) := by
  cases found : r.byCookie.lookup cookie with
  | none =>
    unfold DeathRegistry.notifyDead
    rwa [found]
  | some w =>
    rw [notifyDead_eq found]
    exact indexed.withdraw found _ _ _

theorem Indexed.finishClearing (cookie : UInt64) : Indexed (r.finishClearing cookie) := by
  cases found : r.byCookie.lookup cookie with
  | none =>
    unfold DeathRegistry.finishClearing
    rwa [found]
  | some w =>
    rw [finishClearing_eq found]
    exact indexed.withdraw found _ _ _

theorem Indexed.closeRegistry : Indexed r.closeRegistry := by
  have emptied : Indexed { r with byHandle := ∅, byCookie := ∅ } :=
    indexed.shrink ∅ ∅ (by rintro _ _ ⟨⟩) (by rintro _ _ ⟨⟩) (by rintro _ ⟨⟩)
  exact { emptied with }

omit indexed

theorem exists_finish (r : DeathRegistry) (sub : Nat) (err : FinishError) :
    ∃ done, r.finish sub err = { r with done := done } := by
  unfold finish
  split
  · exact ⟨r.done, rfl⟩
  · exact ⟨_, rfl⟩

end Changes

/-- Every step that does not reuse a cookie keeps the invariant. -/
theorem Indexed.step
    {r t : DeathRegistry} {label : DeathLabel} (indexed : Indexed r)
    (fresh : Fresh r label) (ran : deathStep r label = some t) : Indexed t := by
  revert ran
  fun_cases deathStep r label <;> rintro ⟨⟩
  · next idle => exact indexed.setPhase (by rintro ⟨⟩) (by rw [idle]; decide)
  · next idle => exact indexed.attach fresh idle
  · next sub asks =>
      have logged :
          Indexed
            { r with granted := update r.granted (r.watch (r.target sub)).cookie true } :=
        { indexed with }
      refine logged.setPhase ?_ ?_
      · intro _
        change (r.phase sub).attached
        rw [asks]
        rfl
      · change r.phase sub ≠ .returned
        rw [asks]
        decide
  · next asks =>
      exact indexed.setPhase (fun _ => by rw [asks]; rfl) (by rw [asks]; decide)
  · next refused =>
      exact (indexed.rollback _).setPhase (by rintro ⟨⟩) (by rw [rollback_phase, refused]; decide)
  · next ready =>
      rcases ready with granted | joined
      · exact indexed.setPhase (fun _ => by rw [granted]; rfl) (by rw [granted]; decide)
      · exact indexed.setPhase (fun _ => by rw [joined]; rfl) (by rw [joined]; decide)
  · next got => exact indexed.removeSub got
  · next sub err _ =>
      rcases exists_finish r sub err with ⟨done, ended⟩
      rw [ended]
      exact { indexed with }
  · next mem => exact indexed.issueClear mem
  · exact indexed.finishClearing _
  · exact indexed.notifyDead _
  · exact indexed.finishClearing _
  · exact indexed.closeRegistry
  · next sub _ _ =>
      rcases exists_finish r sub .none with ⟨done, ended⟩
      rw [ended]
      exact { indexed with }
  · exact { indexed with }
  · exact { indexed with }

end DeathRegistry

end Libbinder.Kernel
