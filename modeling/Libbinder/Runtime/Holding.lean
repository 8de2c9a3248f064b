import Libbinder.Runtime.Accounting
import Libbinder.Runtime.Counts

/-!
# References that are held

The driver's references of a handle cover what the tracker records and what the
goroutines in progress have still to give back; acquires nobody records only
make the difference larger.  A handle that is recorded as acquired when a watch
retains it stays so until the watch releases it, since the tracker drops an
entry only when nobody uses it.

Two steps can go wrong.  `watchDeath` retains the watch after
`ensureHandleAcquired` has returned, when the handle may be released again.
`markHandleAcquired` records a reference without looking whether there is one.
-/

namespace Libbinder.Runtime

open RefStage HandleCounts

open Go

namespace RefTracker

variable (r : RefTracker) (handle other : UInt32)

/-- `release` keeps the flag of an entry it does not delete. -/
theorem acquired_release (binder : Bool) :
    (r.release handle binder).1.acquired other = r.acquired other ∨
      (r.release handle binder).1.counts other = ⟨0, 0⟩ := by
  by_cases zero : handle = 0
  · rw [release_zero zero]
    exact .inl rfl
  cases found : r.handles handle with
  | none =>
    rw [release_missing found]
    exact .inl rfl
  | some old =>
    obtain ⟨held, busy, -⟩ := old.dropped_flags binder
    rw [← ensure_of_found found] at held busy
    rw [release_found zero found, ← ensure_of_found found]
    split_ifs
    · exact .inl (r.flags_put handle other held busy).1
    · refine .inl (r.flags_put handle other ?_ ?_).1
      · exact held
      · exact busy
    · rw [counts_delete, acquired, acquired, ensure_delete]
      split_ifs
      · exact .inr rfl
      · exact .inl rfl

/-- `FinishAcquire` with whatever the entry holds by then. -/
theorem acquired_finishAcquire (ok : Bool) :
    (((r.finishAcquire handle ok).1.acquired other).toInt +
        (r.finishAcquire handle ok).2.toInt * indicator handle other ≤
      (r.acquired other).toInt + ok.toInt * indicator handle other) ∧
      (r.acquired other →
        (r.finishAcquire handle ok).1.acquired other ∨
          (r.finishAcquire handle ok).1.counts other = ⟨0, 0⟩) := by
  have nonneg : 0 ≤ ok.toInt * indicator handle other :=
    Int.mul_nonneg (by cases ok <;> decide) (indicator_nonneg _ _)
  by_cases zero : handle = 0
  · rw [finishAcquire, if_pos zero]
    refine ⟨?_, .inl⟩
    simp only [Bool.toInt_false, Int.zero_mul]
    omega
  cases found : r.handles handle with
  | none =>
    rw [finishAcquire_missing found]
    refine ⟨?_, .inl⟩
    simp only [Bool.toInt_false, Int.zero_mul]
    omega
  | some old =>
    unfold acquired
    rcases finishAcquire_found zero found ok with ⟨-, cut⟩ | stored
    · rw [cut, ensure_closeWait, ensure_delete, counts_closeWait, counts_delete]
      split_ifs with same
      · refine ⟨?_, fun _ => .inr rfl⟩
        cases (r.ensure other).acquired <;> simp [HandleRef.empty]
      · rw [indicator_of_ne same]
        exact ⟨by simp, .inl⟩
    · rw [stored, ensure_closeWait, ensure_put]
      split_ifs with same
      · rw [same, ensure_of_found found, indicator_self]
        refine ⟨?_, fun was => .inl (by rw [HandleRef.finished, was]; rfl)⟩
        change (old.acquired || ok).toInt + 0 * 1 ≤ _
        cases old.acquired <;> cases ok <;> decide
      · rw [indicator_of_ne same]
        exact ⟨by simp, .inl⟩

theorem acquired_beginAcquire : (r.beginAcquire handle).1.acquired other = r.acquired other := by
  rcases r.beginAcquire_spec handle with ⟨-, -, -, -, flags⟩ | ⟨-, flags⟩
  · exact (flags other).1
  · exact (flags other).1

theorem acquired_markAcquired (nonzero : handle ≠ 0) :
    (r.markAcquired handle).acquired other = if other = handle then true else r.acquired other := by
  unfold markAcquired acquired
  rw [if_neg nonzero]
  dsimp only
  split_ifs with busy same same
  · rw [ensure_closeWait, ensure_put, if_pos same]
  · rw [ensure_closeWait, ensure_put, if_neg same]
  · rw [ensure_put, if_pos same]
  · rw [ensure_put, if_neg same]

end RefTracker

/-! ## Uses of a handle -/

namespace RefStage

/-- One for an open proxy of the handle. -/
def binderUse (other : UInt32) : RefStage → Int
  | .bound handle => indicator handle other
  | _ => 0

/-- One for a watch of the handle that has not released it. -/
def watchUse (other : UInt32) : RefStage → Int
  | .watching handle => indicator handle other
  | .subscribed handle => indicator handle other
  | _ => 0

variable (other : UInt32)

theorem weight_nonneg (stages : List RefStage) : 0 ≤ total (weight other) stages := by
  refine total_nonneg ?_ stages
  intro stage
  unfold weight indicator
  split <;> first | exact Int.le_refl 0 | split_ifs <;> decide

theorem binderUse_nonneg (stage : RefStage) : 0 ≤ stage.binderUse other := by
  unfold binderUse
  split
  · exact indicator_nonneg _ other
  · exact Int.le_refl 0

theorem watchUse_nonneg (stage : RefStage) : 0 ≤ stage.watchUse other := by
  unfold watchUse
  split
  · exact indicator_nonneg _ other
  · exact indicator_nonneg _ other
  · exact Int.le_refl 0

end RefStage

open RefStage

namespace RefState

/-- The proxies and watches that use a handle. -/
def uses (s : RefState) (handle : UInt32) : HandleCounts where
  binders := total (binderUse handle) s.stages
  watches := total (watchUse handle) s.stages

/-- What is recorded and what some stages have in flight, over what the driver holds. -/
def debt (s : RefState) (stages : List RefStage) (handle : UInt32) : Int :=
  (s.tracker.acquired handle).toInt + total (weight handle) stages -
    ((s.acquires handle : Int) - s.releases handle)

/-- The invariant behind held references. -/
structure Held (s : RefState) : Prop where
  /-- The driver's references cover what is recorded and in flight. -/
  covered : ∀ handle,
      (s.tracker.acquired handle).toInt + total (weight handle) s.stages ≤
        (s.acquires handle : Int) - s.releases handle
  counted : ∀ handle, handle ≠ 0 → s.tracker.counts handle = s.uses handle
  small : ∀ handle, handle ≠ 0 → (s.uses handle).Small
  /-- A handle with a watch is recorded as acquired. -/
  kept : ∀ handle, handle ≠ 0 → 0 < (s.uses handle).watches → s.tracker.acquired handle

/--
The conditions on a step: a watch is retained while its handle is recorded as
acquired, a handle is marked while the process holds a reference of it that
nobody accounts for or that is recorded already, and there is room for the
counts.
-/
def Backed (s : RefState) : RefLabel → Prop
  | .openBinder handle => (s.uses handle).binders + 1 < 2 ^ 62
  | .bindMarked handle => (s.uses handle).binders + 1 < 2 ^ 62
  | .retainWatch handle =>
    (handle = 0 ∨ s.tracker.acquired handle) ∧ (s.uses handle).watches + 1 < 2 ^ 62
  | .markAcquired handle =>
    handle = 0 ∨ s.tracker.acquired handle ∨
      total (weight handle) s.stages < (s.acquires handle : Int) - s.releases handle
  | _ => True

instance decidableBacked (s : RefState) (label : RefLabel) : Decidable (s.Backed label) := by
  unfold Backed
  cases label <;> infer_instance

theorem Held.init : Held RefState.init where
  covered := fun _ => Int.le_refl 0
  counted := fun _ _ => rfl
  small := fun _ _ =>
    ⟨(by decide : (0 : Int) ≤ 0 ∧ (0 : Int) < 2 ^ 62),
      (by decide : (0 : Int) ≤ 0 ∧ (0 : Int) < 2 ^ 62)⟩
  kept := by rintro _ _ ⟨⟩

section Changes

variable {s t : RefState}

/-- Some stages are replaced by others. -/
def Exchanges (s t : RefState) (removed added : List RefStage) : Prop :=
  ∀ weight : RefStage → Int,
    total weight t.stages = total weight s.stages - total weight removed + total weight added

variable {successors : List RefStage} {old : RefStage}

theorem Exchanges.advance
    (mem : old ∈ s.stages) (stages : t.stages = advanceStage s.stages old successors) :
    Exchanges s t [old] successors := by
  intro weight
  rw [stages, total_advanceStage _ _ mem, total_cons, total_nil, Int.add_zero]

variable {stage : RefStage}

theorem Exchanges.spawn (stages : t.stages = stage :: s.stages) : Exchanges s t [] [stage] := by
  intro weight
  rw [stages, total_cons, total_cons, total_nil]
  omega

variable {removed : List RefStage} {handle : UInt32} {purpose : Purpose} (held : Held s)

include held

variable {added : List RefStage}

/-- Goroutines move on. -/
theorem Held.exchange
    (stages : Exchanges s t removed added)
    (covered : ∀ handle, t.debt added handle ≤ s.debt removed handle)
    (counts : ∀ handle, handle ≠ 0 →
        t.tracker.counts handle =
          ⟨(s.tracker.counts handle).binders -
              total (binderUse handle) removed +
              total (binderUse handle) added,
            (s.tracker.counts handle).watches -
              total (watchUse handle) removed +
              total (watchUse handle) added⟩)
    (small : ∀ handle, handle ≠ 0 → (t.tracker.counts handle).Small)
    (kept : ∀ handle, handle ≠ 0 → 0 < (t.tracker.counts handle).watches →
        t.tracker.acquired handle) : Held t := by
  have counted (handle : UInt32) (nonzero : handle ≠ 0) :
      t.tracker.counts handle = t.uses handle := by
    rw [counts handle nonzero, held.counted handle nonzero]
    unfold uses
    rw [stages, stages]
  exact {
    covered := by
      intro handle
      have before := held.covered handle
      have change := covered handle
      unfold debt at change
      rw [stages]
      omega
    counted := counted
    small := by
      intro handle nonzero
      rw [← counted handle nonzero]
      exact small handle nonzero
    kept := by
      intro handle nonzero above
      rw [← counted handle nonzero] at above
      exact kept handle nonzero above }

theorem Held.tracker_small (nonzero : handle ≠ 0) : (s.tracker.counts handle).Small := by
  rw [held.counted handle nonzero]
  exact held.small handle nonzero

theorem Held.tracker_kept (nonzero : handle ≠ 0) (above : 0 < (s.tracker.counts handle).watches) :
    s.tracker.acquired handle := by
  rw [held.counted handle nonzero] at above
  exact held.kept handle nonzero above

/-- Goroutines move on and the uses of all handles stay. -/
theorem Held.move
    (stages : Exchanges s t removed added)
    (binders : ∀ handle, total (binderUse handle) added = total (binderUse handle) removed)
    (watches : ∀ handle, total (watchUse handle) added = total (watchUse handle) removed)
    (counts : ∀ handle, handle ≠ 0 → t.tracker.counts handle = s.tracker.counts handle)
    (acquired : ∀ handle, s.tracker.acquired handle →
        t.tracker.acquired handle ∨ t.tracker.counts handle = ⟨0, 0⟩)
    (covered : ∀ handle, t.debt added handle ≤ s.debt removed handle) : Held t := by
  refine held.exchange stages covered ?_ ?_ ?_
  · intro handle nonzero
    rw [counts handle nonzero, binders, watches]
    simp only [Int.sub_add_cancel]
  · intro handle nonzero
    rw [counts handle nonzero]
    exact held.tracker_small nonzero
  · intro handle nonzero above
    have before := above
    rw [counts handle nonzero] at before
    rcases acquired handle (held.tracker_kept nonzero before) with still | deleted
    · exact still
    · rw [deleted] at above
      cases above

/-- A stage moves on without the tracker and without losing a reference. -/
theorem Held.pass
    (moved : s.advance old successors = some t)
    (binders : ∀ handle, total (binderUse handle) successors =
        total (binderUse handle) [old] := by exact fun _ => rfl)
    (watches : ∀ handle, total (watchUse handle) successors =
        total (watchUse handle) [old] := by exact fun _ => rfl)
    (weight : ∀ handle, total (weight handle) successors ≤
        total (weight handle) [old] := by exact fun _ => Int.le_refl _) : Held t := by
  rcases advance_eq_some.mp moved with ⟨mem, rfl⟩
  refine held.move (.advance mem rfl) binders watches (fun _ _ => rfl) (fun _ was => .inl was) ?_
  intro handle
  have fewer := weight handle
  simp only [debt]
  omega

/-- The driver takes an acquire. -/
theorem Held.countAcquire (handle : UInt32) : Held (s.countAcquire handle) :=
  { held with
    covered := by
      intro other
      have before := held.covered other
      have count := raised s.acquires handle other
      have nonneg := indicator_nonneg handle other
      simp only [RefState.countAcquire, count]
      omega }

/-- A proxy or a watch retains its handle. -/
theorem Held.retain
    (binder : Bool) (stages : Exchanges s t removed [stage])
    (flags : ∀ other, t.tracker.acquired other = s.tracker.acquired other)
    (counts : ∀ other, other ≠ 0 →
        t.tracker.counts other = (s.tracker.counts other).add binder (indicator handle other))
    (acquires : t.acquires = s.acquires) (releases : t.releases = s.releases)
    (unused : ∀ other,
        total (binderUse other) removed = 0 ∧
          total (watchUse other) removed = 0 ∧ total (weight other) removed = stage.weight other)
    (binders : ∀ other, stage.binderUse other = if binder then indicator handle other else 0)
    (watches : ∀ other, stage.watchUse other = if binder then 0 else indicator handle other)
    (room : (s.uses handle).of binder + 1 < 2 ^ 62)
    (kept : binder = false → handle ≠ 0 → s.tracker.acquired handle) : Held t := by
  refine held.exchange stages ?_ ?_ ?_ ?_
  · intro other
    rw [debt, debt, flags, acquires, releases, (unused other).2.2, total_cons, total_nil,
      Int.add_zero]
  · intro other nonzero
    obtain ⟨noBinders, noWatches, -⟩ := unused other
    rw [counts other nonzero, noBinders, noWatches, total_cons, total_cons, binders, watches]
    cases binder <;> simp [add]
  · intro other nonzero
    rw [counts other nonzero]
    refine (held.tracker_small nonzero).retain ?_
    rintro rfl
    rwa [held.counted other nonzero]
  · intro other nonzero above
    rw [counts other nonzero] at above
    rw [flags]
    cases binder with
    | true => exact held.tracker_kept nonzero above
    | false =>
      by_cases same : other = handle
      · subst same
        exact kept rfl nonzero
      · rw [indicator_of_ne same, add_zero] at above
        exact held.tracker_kept nonzero above

theorem Held.retainBinder
    (stages : Exchanges s t removed [.bound handle])
    (tracker : t.tracker = s.tracker.retainBinder handle)
    (acquires : t.acquires = s.acquires) (releases : t.releases = s.releases)
    (unused : ∀ other,
        total (binderUse other) removed = 0 ∧
          total (watchUse other) removed = 0 ∧ total (weight other) removed = 0)
    (room : (s.uses handle).binders + 1 < 2 ^ 62) : Held t := by
  refine held.retain true stages ?_ ?_ acquires releases unused
    (fun _ => rfl) (fun _ => rfl) room nofun
  · intro other
    rw [tracker]
    exact (s.tracker.flags_retain handle other rfl rfl).1
  · intro other nonzero
    rw [tracker]
    exact s.tracker.counts_retainBinder handle other held.tracker_small nonzero

theorem Held.retainWatch
    (backed : s.Backed (.retainWatch handle)) (ran : refStep s (.retainWatch handle) = some t) :
    Held t := by
  rcases backed with ⟨acquired, room⟩
  rcases advance_eq_some.mp ran with ⟨mem, rfl⟩
  refine held.retain false (.advance mem rfl) ?_ ?_ rfl rfl
    (fun _ => ⟨rfl, rfl, rfl⟩) (fun _ => rfl) (fun _ => rfl) room (fun _ => acquired.resolve_left)
  · intro other
    exact (s.tracker.flags_retain handle other rfl rfl).1
  · intro other nonzero
    exact s.tracker.counts_retainWatch handle other held.tracker_small nonzero

/-- A proxy or a watch releases its handle. -/
theorem Held.dropRef
    {binder : Bool} (gone : s.dropRef old handle binder = some t)
    (binders : ∀ other, old.binderUse other = if binder then indicator handle other else 0)
    (watches : ∀ other, old.watchUse other = if binder then 0 else indicator handle other)
    (weight : ∀ other, old.weight other = 0) : Held t := by
  rcases advance_eq_some.mp gone with ⟨mem, rfl⟩
  have above (nonzero : handle ≠ 0) : 0 < (s.tracker.counts handle).of binder := by
    rw [held.counted handle nonzero]
    have binderUses := weight_le_total (binderUse_nonneg handle) mem
    have watchUses := weight_le_total (watchUse_nonneg handle) mem
    rw [binders handle, indicator_self] at binderUses
    rw [watches handle, indicator_self] at watchUses
    cases binder with
    | true => exact Int.lt_of_lt_of_le Int.zero_lt_one binderUses
    | false => exact Int.lt_of_lt_of_le Int.zero_lt_one watchUses
  have counts (other : UInt32) (nonzero : other ≠ 0) :=
    s.tracker.counts_release handle other binder held.tracker_small above nonzero
  refine held.exchange (.advance mem rfl) ?_ ?_ ?_ ?_
  · intro other
    have balance := release_balance s.tracker handle other binder
    simp only [debt, total_cons, total_nil, weight other]
    omega
  · intro other nonzero
    have unused (use : RefStage → Int)
        (zero : use (.releasing handle none) = 0) :
        total use
          (if (s.tracker.release handle binder).2 then
            [.releasing handle none] else []) = 0 := by
      split_ifs
      · rw [total_cons, total_nil, zero]
        rfl
      · rfl
    simp only [counts other nonzero, total_cons, total_nil, binders other, watches other,
      unused (binderUse other) rfl, unused (watchUse other) rfl, Int.add_zero]
    cases binder <;> simp [add, Int.sub_eq_add_neg]
  · intro other nonzero
    simp only [counts other nonzero]
    refine (held.tracker_small nonzero).release ?_
    rintro rfl
    exact above nonzero
  · intro other nonzero left
    rcases s.tracker.acquired_release handle other binder with same | deleted
    · refine same.trans (held.tracker_kept nonzero ?_)
      simp only [counts other nonzero] at left
      have nonneg := indicator_nonneg handle other
      cases binder with
      | true => exact left
      | false =>
        change 0 < (s.tracker.counts other).watches + _ at left
        omega
    · simp only [deleted] at left
      cases left

/-- A goroutine starts that uses nothing. -/
theorem Held.spawn
    (binders : ∀ handle, stage.binderUse handle = 0) (watches : ∀ handle, stage.watchUse handle = 0)
    (weight : ∀ handle, stage.weight handle = 0) : Held { s with stages := stage :: s.stages } := by
  refine held.move (.spawn rfl) ?_ ?_ (fun _ _ => rfl) (fun _ was => .inl was) ?_
  · intro handle
    rw [total_cons, total_nil, binders handle]
    rfl
  · intro handle
    rw [total_cons, total_nil, watches handle]
    rfl
  · intro handle
    rw [debt, total_cons, weight handle]
    exact Int.le_refl _

theorem Held.beginAcquire (ran : refStep s (.beginAcquire handle purpose) = some t) : Held t := by
  rcases advance_eq_some.mp ran with ⟨mem, rfl⟩
  refine held.move (.advance mem rfl) ?_ ?_ ?_ ?_ ?_
  · intro other
    split <;> rfl
  · intro other
    split <;> rfl
  · intro other _
    exact s.tracker.counts_beginAcquire handle other
  · intro other was
    exact .inl ((s.tracker.acquired_beginAcquire handle other).trans was)
  · intro other
    simp only [debt, s.tracker.acquired_beginAcquire handle other]
    split <;> exact Int.le_refl _

variable {ok : Bool}

theorem Held.finishAcquire
    (ran : refStep s (.finishAcquire handle ok purpose) = some t) : Held t := by
  rcases advance_eq_some.mp ran with ⟨mem, rfl⟩
  refine held.move (.advance mem rfl) ?_ ?_ ?_ ?_ ?_
  · intro other
    split_ifs <;> rfl
  · intro other
    split_ifs <;> rfl
  · intro other _
    exact s.tracker.counts_finishAcquire handle other ok held.tracker_small
  · intro other was
    exact (s.tracker.acquired_finishAcquire handle other ok).2 was
  · intro other
    have bound := (s.tracker.acquired_finishAcquire handle other ok).1
    have given :
        total (weight other)
            (if ok then
              if (s.tracker.finishAcquire handle ok).2 then
                [.releasing handle (some purpose)]
              else [.ready handle purpose]
            else []) ≤
          (s.tracker.finishAcquire handle ok).2.toInt * indicator handle other := by
      have nonneg := indicator_nonneg handle other
      cases ok <;> cases (s.tracker.finishAcquire handle _).2 <;>
        simp [weight, nonneg]
    have taken :
        total (weight other) [.finishing handle ok purpose] =
          ok.toInt * indicator handle other := by
      cases ok <;> simp [weight]
    simp only [debt] at given ⊢
    omega

/-- The worker has run the acquire command for a waiting caller. -/
theorem Held.run (ran : refStep s (.run handle purpose ok) = some t) : Held t := by
  cases ok with
  | false => exact held.pass ran
  | true =>
    rcases advance_eq_some.mp ran with ⟨mem, rfl⟩
    refine held.move (.advance mem rfl) (fun _ => rfl) (fun _ => rfl)
      (fun _ _ => rfl) (fun _ was => .inl was) ?_
    intro other
    have count := raised s.acquires handle other
    simp only [debt, if_true, RefState.countAcquire, count, total_cons, total_nil, weight]
    omega

/-- The worker has run the release command. -/
theorem Held.runRelease
    {purpose : Option Purpose} {freed : Bool}
    (ran : refStep s (.runRelease handle purpose freed ok) = some t) : Held t := by
  rcases advance_eq_some.mp ran with ⟨mem, rfl⟩
  cases freed
  all_goals
    refine held.move (.advance mem rfl) (fun other => total_resume _ fun _ => rfl)
      (fun other => total_resume _ fun _ => rfl) (fun _ _ => rfl) (fun _ was => .inl was) ?_
    intro other
    have taken := indicator_nonneg handle other
    have count := raised s.releases handle other
    simp only [debt, Bool.false_eq_true, if_false, if_true, countRelease, count,
      total_resume (weight other) fun _ => rfl, total_cons, total_nil, weight]
    omega

theorem Held.receive
    {objects : List ParcelObject} (ran : refStep s (.receive objects ok) = some t) :
    Held t := by
  cases objects with
  | nil => exact held.pass ran
  | cons object rest =>
    simp only [refStep] at ran
    split_ifs at ran
    · exact held.pass ran
    · exact (held.countAcquire object.handle).pass ran
    · exact held.pass ran

/-- A handle read from a parcel is recorded as acquired. -/
theorem Held.markAcquired (backed : s.Backed (.markAcquired handle)) :
    Held { s with tracker := s.tracker.markAcquired handle } := by
  by_cases zero : handle = 0
  · rwa [RefTracker.markAcquired, if_pos zero]
  · have acquired (other : UInt32) := s.tracker.acquired_markAcquired handle other zero
    have counts := s.tracker.counts_markAcquired handle
    exact {
      covered := by
        intro other
        have before := held.covered other
        simp only [acquired other]
        split_ifs with same
        · subst same
          rcases backed with isZero | recorded | spare
          · exact absurd isZero zero
          · rwa [recorded] at before
          · simp only [Bool.toInt_true]
            omega
        · exact before
      counted := by
        intro other nonzero
        rw [counts other]
        exact held.counted other nonzero
      small := held.small
      kept := by
        intro other nonzero above
        simp only [acquired other]
        split_ifs
        · rfl
        · exact held.kept other nonzero above }

end Changes

/-! ## Whole runs -/

/-- Every backed step keeps the references. -/
theorem Held.step
    {s t : RefState} {label : RefLabel} (held : Held s) (backed : s.Backed label)
    (ran : refStep s label = some t) : Held t := by
  cases label with
  | openBinder handle =>
    cases ran
    exact held.retainBinder (.spawn rfl) rfl rfl rfl (fun _ => ⟨rfl, rfl, rfl⟩) backed
  | closeBinder | subscriptionDone =>
    exact held.dropRef ran (fun _ => rfl) (fun _ => rfl) (fun _ => rfl)
  | ensure handle purpose =>
    cases ran
    refine held.spawn ?_ ?_ ?_
    · intro other
      split_ifs <;> rfl
    · intro other
      split_ifs <;> rfl
    · intro other
      split_ifs <;> rfl
  | beginAcquire handle purpose => exact held.beginAcquire ran
  | wake handle channel purpose =>
    rcases Option.ite_none_right_eq_some.mp ran with ⟨_, moved⟩
    exact held.pass moved
  | cancelWait | refuse | accept | abandon | transact | acceptRelease =>
    exact held.pass ran
  | run handle purpose ok => exact held.run ran
  | collect handle ok purpose =>
    refine held.pass ran (fun _ => rfl) (fun _ => rfl) ?_
    intro other
    cases ok <;> exact Int.le_refl _
  | discard | dropRelease =>
    exact held.pass ran (fun _ => rfl) (fun _ => rfl) (fun other => weight_nonneg other [_])
  | runOrphan handle ok =>
    cases ok with
    | false => exact held.pass ran
    | true =>
      exact (held.countAcquire handle).pass ran
  | finishAcquire handle ok purpose => exact held.finishAcquire ran
  | retainWatch handle => exact held.retainWatch backed ran
  | watchResult handle ok =>
    cases ok with
    | false => exact held.dropRef ran (fun _ => rfl) (fun _ => rfl) (fun _ => rfl)
    | true => exact held.pass ran
  | runRelease handle purpose freed ok => exact held.runRelease ran
  | deliver body offsets =>
    simp only [refStep] at ran
    split at ran
    · cases ran
      exact held
    · cases ran
      exact held.spawn (fun _ => rfl) (fun _ => rfl) (fun _ => rfl)
  | receive objects ok => exact held.receive ran
  | markAcquired handle =>
    cases ran
    exact (held.markAcquired backed).spawn (fun _ => rfl) (fun _ => rfl) (fun _ => rfl)
  | bindMarked handle =>
    rcases advance_eq_some.mp ran with ⟨mem, rfl⟩
    exact held.retainBinder (.advance mem rfl) rfl rfl rfl (fun _ => ⟨rfl, rfl, rfl⟩) backed

end RefState

end Libbinder.Runtime
