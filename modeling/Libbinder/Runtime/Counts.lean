import Libbinder.Runtime.Proxies

/-!
# Counts and live objects

The tracker deletes an entry when both counts are zero and makes it again on
demand, so the counts are best read through `ensure`: a missing entry counts
nothing.  Every method of the tracker then changes one count by one, or no
count at all, and the counts are those of the proxies and watches that have
not released.
-/

namespace Libbinder.Runtime

open Go Holders Watch HandleRef

/-! ## What the tracker does to the counts -/

/-- The two counts of a handle. -/
structure HandleCounts where
  binders : Int
  watches : Int

namespace HandleCounts

/-- Counts that stay far from the limits of `int`. -/
structure Small (counts : HandleCounts) : Prop where
  binders : 0 ≤ counts.binders ∧ counts.binders < 2 ^ 62
  watches : 0 ≤ counts.watches ∧ counts.watches < 2 ^ 62

/-- The count of the binders or of the watches. -/
def of (counts : HandleCounts) (binder : Bool) : Int :=
  if binder then counts.binders else counts.watches

/-- So many binders or watches more. -/
def add (counts : HandleCounts) (binder : Bool) (more : Int) : HandleCounts :=
  if binder then { counts with binders := counts.binders + more }
  else { counts with watches := counts.watches + more }

variable {counts : HandleCounts} {binder : Bool}

theorem add_zero (counts : HandleCounts) (binder : Bool) : counts.add binder 0 = counts := by
  cases binder <;> simp [add]

variable (small : counts.Small)

include small

theorem Small.of (binder : Bool) : 0 ≤ counts.of binder ∧ counts.of binder < 2 ^ 62 := by
  cases binder with
  | true => exact small.binders
  | false => exact small.watches

theorem Small.add
    {more : Int} (nonneg : 0 ≤ counts.of binder + more)
    (room : counts.of binder + more < 2 ^ 62) : (counts.add binder more).Small := by
  cases binder with
  | true => exact ⟨⟨nonneg, room⟩, small.watches⟩
  | false => exact ⟨small.binders, nonneg, room⟩

variable {handle other : UInt32}

theorem Small.retain (room : other = handle → counts.of binder + 1 < 2 ^ 62) :
    (counts.add binder (indicator handle other)).Small := by
  by_cases same : other = handle
  · subst same
    rw [indicator_self]
    exact small.add (Int.add_nonneg (small.of binder).1 (by decide)) (room rfl)
  · rwa [indicator_of_ne same, add_zero]

theorem Small.release (above : other = handle → 0 < counts.of binder) :
    (counts.add binder (-indicator handle other)).Small := by
  by_cases same : other = handle
  · subst same
    have bounds := small.of binder
    have more := above rfl
    rw [indicator_self]
    exact small.add (by omega) (by omega)
  · rwa [indicator_of_ne same, Int.neg_zero, add_zero]

end HandleCounts

open HandleCounts

/-- The two counts of an entry. -/
def HandleRef.counts (ref : HandleRef) : HandleCounts where
  binders := ref.binderRefs
  watches := ref.watchRefs

/-- `release` counts one binder or watch less, where there is one. -/
theorem HandleRef.counts_dropped
    {old : HandleRef} {binder : Bool} (small : old.counts.Small)
    (above : 0 < old.counts.of binder) :
    (old.dropped binder).counts = old.counts.add binder (-1) := by
  cases binder with
  | true =>
    change 0 < old.binderRefs at above
    have upper : old.binderRefs < 2 ^ 62 := small.binders.2
    rw [dropped, if_pos rfl, if_pos above, wrapInt_eq]
    rfl
  | false =>
    change 0 < old.watchRefs at above
    have upper : old.watchRefs < 2 ^ 62 := small.watches.2
    rw [dropped, if_neg Bool.false_ne_true, if_pos above, wrapInt_eq]
    rfl

/-- An entry whose counts add up to zero counts nothing. -/
theorem HandleRef.counts_of_unused
    {ref : HandleRef} (small : ref.counts.Small) (unused : ref.users ≤ 0) :
    ref.counts = ⟨0, 0⟩ := by
  obtain ⟨binders, watches⟩ := small
  dsimp only [counts] at binders watches
  rw [users, wrapInt_eq] at unused
  rw [counts, HandleCounts.mk.injEq]
  omega

namespace RefTracker

def counts (r : RefTracker) (handle : UInt32) : HandleCounts where
  binders := (r.ensure handle).binderRefs
  watches := (r.ensure handle).watchRefs

variable (r : RefTracker) (handle other : UInt32)

theorem counts_put (ref : HandleRef) :
    (r.put handle ref).counts other = if other = handle then ref.counts else r.counts other := by
  unfold counts
  rw [ensure_put]
  split <;> rfl

theorem counts_delete :
    (r.delete handle).counts other = if other = handle then ⟨0, 0⟩ else r.counts other := by
  unfold counts
  rw [ensure_delete]
  split <;> rfl

theorem counts_closeWait (wait : Option Nat) :
    (r.closeWait wait).counts other = r.counts other := by
  unfold counts
  rw [ensure_closeWait]

variable {r handle} in
theorem counts_of_found {ref : HandleRef} (found : r.handles handle = some ref) :
    r.counts handle = ref.counts := by
  rw [counts, ensure_of_found found]
  rfl

/-- A change of an entry that keeps its counts. -/
theorem counts_put_same {ref : HandleRef} (same : ref.counts = r.counts handle) :
    (r.put handle ref).counts other = r.counts other := by
  rw [counts_put, same]
  split
  · next equal => rw [equal]
  · rfl

theorem counts_beginAcquire : (r.beginAcquire handle).1.counts other = r.counts other := by
  unfold beginAcquire
  dsimp only
  split_ifs
  · rfl
  · exact counts_put_same r handle other rfl
  · exact counts_put_same r handle other rfl
  · exact counts_put_same r handle other rfl

theorem counts_markAcquired : (r.markAcquired handle).counts other = r.counts other := by
  unfold markAcquired
  dsimp only
  split_ifs
  · rfl
  · rw [counts_closeWait]
    exact counts_put_same r handle other rfl
  · exact counts_put_same r handle other rfl

theorem counts_finishAcquire (ok : Bool) (small : handle ≠ 0 → (r.counts handle).Small) :
    (r.finishAcquire handle ok).1.counts other = r.counts other := by
  by_cases zero : handle = 0
  · rw [finishAcquire, if_pos zero]
  cases found : r.handles handle with
  | none => rw [finishAcquire_missing found]
  | some old =>
    have counted := counts_of_found found
    rcases finishAcquire_found zero found ok with ⟨unused, cut⟩ | stored
    · have nothing := counts_of_unused (counted ▸ small zero) (Int.le_of_eq unused)
      rw [cut, counts_closeWait, counts_delete]
      split
      · next same => rw [same, counted, nothing]
      · rfl
    · rw [stored, counts_closeWait]
      exact counts_put_same r handle other counted.symm

/-- A retained handle is counted once more; the handle 0 is not counted. -/
theorem counts_retain
    {count : HandleRef → HandleRef} {binder : Bool}
    (counted : handle ≠ 0 → (count (r.ensure handle)).counts = (r.counts handle).add binder 1)
    (nonzero : other ≠ 0) :
    (r.retain handle count).counts other =
      (r.counts other).add binder (indicator handle other) := by
  unfold retain
  by_cases same : other = handle
  · subst same
    rw [if_neg nonzero, counts_put, if_pos rfl, indicator_self]
    exact counted nonzero
  · rw [indicator_of_ne same, add_zero]
    split
    · rfl
    · rw [counts_put, if_neg same]

theorem counts_retainBinder (small : handle ≠ 0 → (r.counts handle).Small) (nonzero : other ≠ 0) :
    (r.retainBinder handle).counts other = (r.counts other).add true (indicator handle other) := by
  refine r.counts_retain handle other ?_ nonzero
  intro counted
  have bounds := (small counted).binders
  dsimp only [counts] at bounds
  rw [counts, wrapInt_eq]
  rfl

theorem counts_retainWatch (small : handle ≠ 0 → (r.counts handle).Small) (nonzero : other ≠ 0) :
    (r.retainWatch handle).counts other = (r.counts other).add false (indicator handle other) := by
  refine r.counts_retain handle other ?_ nonzero
  intro counted
  have bounds := (small counted).watches
  dsimp only [counts] at bounds
  rw [counts, wrapInt_eq]
  rfl

/-- `release` of a binder or a watch that is counted. -/
theorem counts_release
    (binder : Bool) (small : handle ≠ 0 → (r.counts handle).Small)
    (above : handle ≠ 0 → 0 < (r.counts handle).of binder) (nonzero : other ≠ 0) :
    (r.release handle binder).1.counts other =
      (r.counts other).add binder (-indicator handle other) := by
  by_cases zero : handle = 0
  · rw [release_zero zero, zero, indicator_of_ne nonzero, Int.neg_zero, add_zero]
  cases found : r.handles handle with
  | none =>
    have counted := above zero
    rw [counts, ensure_of_missing found] at counted
    cases binder <;> cases counted
  | some old =>
    have counted := counts_of_found found
    rw [counted] at small above
    have fewer := counts_dropped (small zero) (above zero)
    have after (next : RefTracker)
        (left : next.counts other =
            if other = handle then (old.dropped binder).counts
            else r.counts other) :
        next.counts other = (r.counts other).add binder (-indicator handle other) := by
      rw [left, fewer]
      split
      · next same => rw [same, counted, indicator_self]
      · next apart =>
          rw [indicator_of_ne apart, Int.neg_zero, add_zero]
    rw [release_found zero found]
    split_ifs with used busy
    · exact after _ (counts_put r handle other _)
    · exact after _ (counts_put r handle other _)
    · refine after _ ?_
      have smaller : (old.dropped binder).counts.Small := by
        have bounds := (small zero).of binder
        have more := above zero
        rw [fewer]
        exact (small zero).add (by omega) (by omega)
      rw [counts_delete, counts_of_unused smaller (Int.not_lt.mp used)]

end RefTracker

/-! ## Objects that have not released -/

/-- One for a proxy of the handle that has not released. -/
def Proxy.weight (handle : UInt32) (proxy : Proxy) : Int :=
  if proxy.handle = handle ∧ proxy.released = false then 1 else 0

/-- One for a watch of the handle that has not released. -/
def Watch.weight (handle : UInt32) (watch : Watch) : Int :=
  if watch.handle = handle ∧ watch.stage ≠ .released then 1 else 0

theorem Proxy.weight_nonneg (handle : UInt32) (proxy : Proxy) : 0 ≤ proxy.weight handle := by
  unfold Proxy.weight
  split <;> decide

theorem Watch.weight_nonneg (handle : UInt32) (watch : Watch) : 0 ≤ watch.weight handle := by
  unfold weight
  split <;> decide

theorem Proxy.weight_live {proxy : Proxy} (held : proxy.released = false) (other : UInt32) :
    proxy.weight other = indicator proxy.handle other := by
  simp only [Proxy.weight, held, and_true]
  rfl

theorem Watch.weight_live {watch : Watch} (held : watch.stage ≠ .released) (other : UInt32) :
    watch.weight other = indicator watch.handle other := by
  simp only [weight, held, ne_eq, not_false_eq_true, and_true]
  rfl

theorem Proxy.weight_released {proxy : Proxy} (freed : proxy.released) (other : UInt32) :
    proxy.weight other = 0 := by
  simp [Proxy.weight, freed]

theorem Watch.weight_released {watch : Watch} (freed : watch.stage = .released) (other : UInt32) :
    watch.weight other = 0 := by
  simp [weight, freed]

namespace Holders

/-- The proxies and the watches of a handle that have not released. -/
def live (s : Holders) (handle : UInt32) : HandleCounts where
  binders := total (Proxy.weight handle) s.proxies
  watches := total (Watch.weight handle) s.watches

/--
A process has room for fewer than 2^62 proxies, and as many watches, of one
handle at a time.
-/
def Room (s : Holders) : HolderLabel → Prop
  | .create handle => (s.live handle).binders + 1 < 2 ^ 62
  | .watch handle => (s.live handle).watches + 1 < 2 ^ 62
  | _ => True

instance (s : Holders) : (label : HolderLabel) → Decidable (Room s label)
  | .create _ => Int.decLt _ _
  | .watch _ => Int.decLt _ _
  | .close _ | .releaseBinder _ | .watchResult _ _ | .finish _ | .releaseWatch _ | .beginAcquire _
  | .finishAcquire _ _ | .markAcquired _ => instDecidableTrue

/-- The tracker counts what has not released. -/
structure Counted (s : Holders) : Prop where
  matched : ∀ handle, handle ≠ 0 → s.tracker.counts handle = s.live handle
  small : ∀ handle, handle ≠ 0 → (s.live handle).Small

theorem Counted.init : Counted .init where
  matched := fun _ _ => rfl
  small := by
    intro handle _
    constructor
    · change (0 : Int) ≤ 0 ∧ (0 : Int) < 2 ^ 62
      decide
    · change (0 : Int) ≤ 0 ∧ (0 : Int) < 2 ^ 62
      decide

variable {s : Holders} {handle : UInt32} {t : Holders} {index : Nat} {proxy : Proxy}

/-- A proxy that has not released is counted. -/
theorem live_binders_pos (found : s.proxies[index]? = some proxy) (held : proxy.released = false) :
    0 < (s.live proxy.handle).binders := by
  have below := weight_le_total (Proxy.weight_nonneg proxy.handle) (List.mem_of_getElem? found)
  rwa [Proxy.weight_live held, indicator_self] at below

/-- A watch that has not released is counted. -/
theorem live_watches_pos
    {stage : WatchStage} (found : s.watches[index]? = some ⟨handle, stage⟩)
    (held : stage ≠ .released) : 0 < (s.live handle).watches := by
  have below := weight_le_total (weight_nonneg handle) (List.mem_of_getElem? found)
  rwa [weight_live held, indicator_self] at below

variable (counted : Counted s)

include counted

theorem Counted.tracker_small (nonzero : handle ≠ 0) : (s.tracker.counts handle).Small := by
  rw [counted.matched handle nonzero]
  exact counted.small handle nonzero

/-- Somebody else uses the tracker. -/
theorem Counted.setTracker
    {tracker : RefTracker}
    (same : ∀ handle, handle ≠ 0 → tracker.counts handle = s.tracker.counts handle) :
    Counted (s.setTracker tracker) where
  matched := by
    intro handle nonzero
    exact (same handle nonzero).trans (counted.matched handle nonzero)
  small := counted.small

/-- Nothing that is counted changes. -/
theorem Counted.keep
    (tracker : t.tracker = s.tracker) (objects : ∀ other, t.live other = s.live other) :
    Counted t where
  matched := by
    intro other nonzero
    rw [tracker, objects]
    exact counted.matched other nonzero
  small := by
    intro other nonzero
    rw [objects]
    exact counted.small other nonzero

/-- An object retains its handle. -/
theorem Counted.retain
    (binder : Bool) (room : (s.live handle).of binder + 1 < 2 ^ 62)
    (tracker : ∀ other, other ≠ 0 →
        t.tracker.counts other = (s.tracker.counts other).add binder (indicator handle other))
    (objects : ∀ other, t.live other = (s.live other).add binder (indicator handle other)) :
    Counted t where
  matched := by
    intro other nonzero
    rw [tracker other nonzero, objects, counted.matched other nonzero]
  small := by
    intro other nonzero
    rw [objects]
    refine (counted.small other nonzero).retain ?_
    rintro rfl
    exact room

/-- An object releases its handle. -/
theorem Counted.release
    (binder : Bool) (above : 0 < (s.live handle).of binder)
    (tracker : t.tracker = (s.tracker.release handle binder).1)
    (objects : ∀ other, t.live other = (s.live other).add binder (-indicator handle other)) :
    Counted t where
  matched := by
    intro other nonzero
    rw [tracker, objects, ← counted.matched other nonzero]
    refine s.tracker.counts_release handle other binder counted.tracker_small ?_ nonzero
    intro counts
    rwa [counted.matched handle counts]
  small := by
    intro other nonzero
    rw [objects]
    refine (counted.small other nonzero).release ?_
    rintro rfl
    exact above

/-! ### Proxies -/

/-- A proxy is made. -/
theorem Counted.create (room : (s.live handle).binders + 1 < 2 ^ 62) :
    Counted
      { s with
        tracker := s.tracker.retainBinder handle
        proxies := s.proxies ++ [⟨handle, false, false⟩] } := by
  refine counted.retain true room ?_ ?_
  · intro other nonzero
    exact s.tracker.counts_retainBinder handle other counted.tracker_small nonzero
  · intro other
    unfold live
    rw [total_append, total_cons, total_nil, Int.add_zero, Proxy.weight_live rfl]
    rfl

/-- The flag of a proxy is set; nothing is counted. -/
theorem Counted.close (found : s.proxies[index]? = some proxy) :
    Counted (s.setProxy index { proxy with closed := true }) := by
  refine counted.keep rfl ?_
  intro other
  unfold live setProxy
  rw [total_set (Proxy.weight other) _ found]
  exact congrArg (HandleCounts.mk · _) (Int.sub_add_cancel _ _)

/-- A proxy releases. -/
theorem Counted.releaseBinder
    (found : s.proxies[index]? = some proxy) (held : proxy.released = false) :
    Counted
      ((s.setTracker (s.tracker.releaseBinder proxy.handle).1).setProxy index
        { proxy with released := true }) := by
  refine counted.release true (live_binders_pos found held) rfl ?_
  intro other
  unfold live setProxy Holders.setTracker
  rw [total_set (Proxy.weight other) _ found, Proxy.weight_live held,
    Proxy.weight_released rfl, Int.add_zero]
  rfl

/-! ### Watches -/

/-- A watch is begun. -/
theorem Counted.watch (room : (s.live handle).watches + 1 < 2 ^ 62) :
    Counted
      { s with
        tracker := s.tracker.retainWatch handle
        watches := s.watches ++ [⟨handle, .retained⟩] } := by
  have held : WatchStage.retained ≠ .released := by decide
  refine counted.retain false room ?_ ?_
  · intro other nonzero
    exact s.tracker.counts_retainWatch handle other counted.tracker_small nonzero
  · intro other
    unfold live
    rw [total_append, total_cons, total_nil, Int.add_zero, weight_live held]
    rfl

/-- A watch moves on without releasing. -/
theorem Counted.setWatch
    {before after : WatchStage} (found : s.watches[index]? = some ⟨handle, before⟩)
    (held : before ≠ .released) (stillUnreleased : after ≠ .released) :
    Counted (s.setWatch index ⟨handle, after⟩) := by
  refine counted.keep rfl ?_
  intro other
  unfold live Holders.setWatch
  rw [total_set (weight other) _ found, weight_live held,
    weight_live stillUnreleased, Int.sub_add_cancel]

/-- A watch releases. -/
theorem Counted.releaseWatch
    {stage : WatchStage} (found : s.watches[index]? = some ⟨handle, stage⟩)
    (held : stage ≠ .released) :
    Counted
      ((s.setTracker (s.tracker.releaseWatch handle).1).setWatch index ⟨handle, .released⟩) := by
  refine counted.release false (live_watches_pos found held) rfl ?_
  intro other
  unfold live Holders.setWatch Holders.setTracker
  rw [total_set (weight other) _ found, weight_live held, weight_released rfl, Int.add_zero]
  rfl

/-! ### Runs -/

/-- Every step keeps the counts while there is room. -/
theorem Counted.step {label : HolderLabel} (room : Room s label) (ran : s.step label = some t) :
    Counted t := by
  cases label
  all_goals simp only [Holders.step] at ran
  case create handle =>
    cases ran
    exact counted.create room
  case close index =>
    split at ran
    · cases ran
    · next proxy found =>
        split at ran
        · cases ran
          exact counted
        · cases ran
          exact counted.close found
  case releaseBinder index =>
    split at ran
    · cases ran
    · next proxy found =>
        rcases Option.ite_none_right_eq_some.mp ran with ⟨⟨-, held⟩, same⟩
        cases same
        exact counted.releaseBinder found (Bool.eq_false_iff.mpr held)
  case watch handle =>
    cases ran
    exact counted.watch room
  case watchResult index ok =>
    split at ran
    · next handle found =>
        split at ran
        · cases ran
          exact counted.setWatch found (by decide) (by decide)
        · cases ran
          exact counted.releaseWatch found (by decide)
    · cases ran
  case finish index =>
    split at ran
    · next handle found =>
        cases ran
        exact counted.setWatch found (by decide) (by decide)
    · cases ran
  case releaseWatch index =>
    split at ran
    · next handle found =>
        cases ran
        exact counted.releaseWatch found (by decide)
    · cases ran
      exact counted
    · cases ran
  case beginAcquire handle =>
    cases ran
    exact counted.setTracker fun other _ => s.tracker.counts_beginAcquire handle other
  case finishAcquire handle ok =>
    cases ran
    exact counted.setTracker fun other _ =>
      s.tracker.counts_finishAcquire handle other ok counted.tracker_small
  case markAcquired handle =>
    cases ran
    exact counted.setTracker fun other _ => s.tracker.counts_markAcquired handle other

omit counted

theorem Counted.of_reaches (path : holders.Reaches Room s) : Counted s := by
  refine path.invariant .init ?_
  intro state label reached counted room ran
  exact counted.step room ran

end Holders

open Holders

/--
In every state the counts of a handle are the numbers of its proxies and of its
watches that have not released, and each of those that has still to release
finds its count positive.
-/
theorem counts_match_live_objects {s : Holders} (reaches : holders.Reaches Holders.Room s) :
    (∀ handle, handle ≠ 0 →
        (s.tracker.ensure handle).binderRefs = total (Proxy.weight handle) s.proxies ∧
          (s.tracker.ensure handle).watchRefs = total (Watch.weight handle) s.watches) ∧
      (∀ proxy ∈ s.proxies, proxy.handle ≠ 0 → proxy.released = false →
        0 < (s.tracker.ensure proxy.handle).binderRefs) ∧
      ∀ watch ∈ s.watches, watch.handle ≠ 0 → watch.stage ≠ .released →
        0 < (s.tracker.ensure watch.handle).watchRefs := by
  have counted := Holders.Counted.of_reaches reaches
  have matched (handle : UInt32) (nonzero : handle ≠ 0) :
      (s.tracker.ensure handle).binderRefs = total (Proxy.weight handle) s.proxies ∧
        (s.tracker.ensure handle).watchRefs = total (Watch.weight handle) s.watches := by
    have same := counted.matched handle nonzero
    exact ⟨congrArg HandleCounts.binders same, congrArg HandleCounts.watches same⟩
  refine ⟨matched, ?_, ?_⟩
  · intro proxy member nonzero unreleased
    rcases List.getElem?_of_mem member with ⟨index, found⟩
    rw [(matched proxy.handle nonzero).1]
    exact live_binders_pos found unreleased
  · intro watch member nonzero unreleased
    rcases List.getElem?_of_mem member with ⟨index, found⟩
    rw [(matched watch.handle nonzero).2]
    exact live_watches_pos found unreleased

/--
Two proxies of a handle, the first of which is closed twice and releases once,
and a watch.
-/
def closedTwice : List HolderLabel :=
  [.create 7, .create 7, .watch 7, .close 0, .close 0, .releaseBinder 0, .watchResult 0 true]

theorem closedTwice_counts :
    ∃ s, holders.run closedTwice init = some s ∧
      total (Proxy.weight 7) s.proxies = 1 ∧
        (s.tracker.ensure 7).binderRefs = total (Proxy.weight 7) s.proxies ∧
          (s.tracker.ensure 7).watchRefs = total (Watch.weight 7) s.watches := by
  refine ⟨_, rfl, by decide, ?_⟩
  have meets : holders.Meets Holders.Room closedTwice init := by
    decide
  exact (counts_match_live_objects (System.Reaches.start.of_run meets rfl)).1 7 (by decide)

end Libbinder.Runtime
