import Libbinder.Go.Int

/-!
# The reference tracker

`RefTracker` counts, for every remote handle, the binders and the death
watches that use it, and remembers whether a strong reference is held in the
driver or is being acquired.  Every method runs under the tracker's mutex and
is one function here.  A wait channel is a number; `closed` records which of
them were closed.
-/

namespace Libbinder.Runtime

open Go Function

structure HandleRef where
  binderRefs : Int
  watchRefs : Int
  acquired : Bool
  acquiring : Bool
  releaseAfterAcquire : Bool
  wait : Option Nat
deriving DecidableEq, Repr

/-- `&HandleRef{}`. -/
def HandleRef.empty : HandleRef where
  binderRefs := 0
  watchRefs := 0
  acquired := false
  acquiring := false
  releaseAfterAcquire := false
  wait := none

/-- `ref.BinderRefs+ref.WatchRefs`. -/
def HandleRef.users (ref : HandleRef) : Int :=
  wrapInt (ref.binderRefs + ref.watchRefs)

/-- One for the handle itself, zero for every other handle. -/
def indicator (handle other : UInt32) : Int :=
  if handle = other then 1 else 0

theorem indicator_self (handle : UInt32) : indicator handle handle = 1 :=
  if_pos rfl

theorem indicator_of_ne {handle other : UInt32} (apart : other ≠ handle) :
    indicator handle other = 0 :=
  if_neg apart.symm

theorem indicator_eq (handle other : UInt32) :
    indicator handle other = if other = handle then 1 else 0 := by
  unfold indicator
  split_ifs <;> grind

theorem indicator_nonneg (handle other : UInt32) : 0 ≤ indicator handle other := by
  unfold indicator
  split_ifs <;> decide

/-- The entry that `release` leaves before it looks at the users. -/
def HandleRef.dropped (old : HandleRef) (binder : Bool) : HandleRef :=
  if binder then
    if old.binderRefs > 0 then
      { old with binderRefs := wrapInt (old.binderRefs - 1) }
    else old
  else if old.watchRefs > 0 then
    { old with watchRefs := wrapInt (old.watchRefs - 1) }
  else old

theorem HandleRef.dropped_flags (old : HandleRef) (binder : Bool) :
    (old.dropped binder).acquired = old.acquired ∧
      (old.dropped binder).acquiring = old.acquiring ∧ (old.dropped binder).wait = old.wait := by
  unfold HandleRef.dropped
  split_ifs <;> exact ⟨rfl, rfl, rfl⟩

/-- The entry that `FinishAcquire` leaves before it looks at the users. -/
def HandleRef.finished (old : HandleRef) (ok : Bool) : HandleRef :=
  { old with wait := none, acquiring := false, acquired := old.acquired || ok }

structure RefTracker where
  handles : UInt32 → Option HandleRef
  /-- The number of wait channels made so far. -/
  channels : Nat
  closed : Nat → Bool

namespace RefTracker

def newRefTracker : RefTracker where
  handles := fun _ => none
  channels := 0
  closed := fun _ => false

/-- `r.handles[handle] = ref`. -/
def put (r : RefTracker) (handle : UInt32) (ref : HandleRef) : RefTracker :=
  { r with handles := update r.handles handle (some ref) }

/-- `delete(r.handles, handle)`. -/
def delete (r : RefTracker) (handle : UInt32) : RefTracker :=
  { r with handles := update r.handles handle none }

/-- `if wait != nil { close(wait) }`. -/
def closeWait (r : RefTracker) : Option Nat → RefTracker
  | none => r
  | some channel => { r with closed := update r.closed channel true }

/-- The entry `ensure` returns; the callers store it. -/
def ensure (r : RefTracker) (handle : UInt32) : HandleRef :=
  (r.handles handle).getD HandleRef.empty

/-- The common body of `RetainBinder` and `RetainWatch`. -/
def retain (r : RefTracker) (handle : UInt32)
    (count : HandleRef → HandleRef) : RefTracker :=
  if handle = 0 then r
  else
    r.put handle { count (r.ensure handle) with releaseAfterAcquire := false }

def retainBinder (r : RefTracker) (handle : UInt32) : RefTracker :=
  r.retain handle fun ref =>
    { ref with binderRefs := wrapInt (ref.binderRefs + 1) }

def retainWatch (r : RefTracker) (handle : UInt32) : RefTracker :=
  r.retain handle fun ref =>
    { ref with watchRefs := wrapInt (ref.watchRefs + 1) }

/-- What `BeginAcquire` tells its caller. -/
inductive BeginResult where
  | nothing
  | wait (channel : Option Nat)
  | acquire
deriving DecidableEq, Repr

def beginAcquire (r : RefTracker) (handle : UInt32) : RefTracker × BeginResult :=
  if handle = 0 then (r, .nothing)
  else
    let ref := r.ensure handle
    if ref.acquired then (r.put handle ref, .nothing)
    else if ref.acquiring then (r.put handle ref, .wait ref.wait)
    else
      ({ r.put handle
          { ref with acquiring := true, wait := some r.channels } with
        channels := r.channels + 1 }, .acquire)

def finishAcquire (r : RefTracker) (handle : UInt32) (ok : Bool) : RefTracker × Bool :=
  if handle = 0 then (r, false)
  else
    match r.handles handle with
    | none => (r, false)
    | some old =>
      let ref := old.finished ok
      if ref.releaseAfterAcquire ∧ ref.users = 0 then
        ((r.delete handle).closeWait old.wait, ok)
      else if ref.acquired = false ∧ ref.users = 0 then
        ((r.delete handle).closeWait old.wait, false)
      else
        ((r.put handle ref).closeWait old.wait, false)

def markAcquired (r : RefTracker) (handle : UInt32) : RefTracker :=
  if handle = 0 then r
  else
    let ref := r.ensure handle
    if ref.acquiring then
      (r.put handle
        { ref with
          acquired := true
          acquiring := false
          wait := none }).closeWait ref.wait
    else
      r.put handle { ref with acquired := true }

/-- `release`, for a binder or a watch. -/
def release (r : RefTracker) (handle : UInt32) (binder : Bool) : RefTracker × Bool :=
  if handle = 0 then (r, false)
  else
    match r.handles handle with
    | none => (r, false)
    | some old =>
      let ref := old.dropped binder
      if ref.users > 0 then (r.put handle ref, false)
      else if ref.acquiring then
        (r.put handle { ref with releaseAfterAcquire := true }, false)
      else (r.delete handle, ref.acquired)

def releaseBinder (r : RefTracker) (handle : UInt32) : RefTracker × Bool :=
  r.release handle true

def releaseWatch (r : RefTracker) (handle : UInt32) : RefTracker × Bool :=
  r.release handle false

/-! ## What the tracker records -/

/-- The tracker records the handle as acquired. -/
def acquired (r : RefTracker) (handle : UInt32) : Bool :=
  (r.ensure handle).acquired

/-- The tracker records that the handle is being acquired. -/
def acquiring (r : RefTracker) (handle : UInt32) : Bool :=
  (r.ensure handle).acquiring

section Records

variable (r : RefTracker) (handle other : UInt32)

@[simp]
theorem ensure_put (ref : HandleRef) :
    (r.put handle ref).ensure other = if other = handle then ref else r.ensure other := by
  simp only [ensure, put, update_apply]
  split_ifs <;> rfl

@[simp]
theorem ensure_delete :
    (r.delete handle).ensure other = if other = handle then .empty else r.ensure other := by
  simp only [ensure, delete, update_apply]
  split_ifs <;> rfl

@[simp]
theorem ensure_closeWait (wait : Option Nat) :
    (r.closeWait wait).ensure other = r.ensure other := by
  cases wait <;> rfl

theorem ensure_of_found
    {r : RefTracker} {handle : UInt32} {ref : HandleRef} (found : r.handles handle = some ref) :
    r.ensure handle = ref := by
  rw [ensure, found]
  rfl

theorem ensure_of_missing {r : RefTracker} {handle : UInt32} (none_ : r.handles handle = none) :
    r.ensure handle = .empty := by
  rw [ensure, none_]
  rfl

/-- A change of one entry that keeps its two flags. -/
theorem flags_put
    {ref : HandleRef} (sameAcquired : ref.acquired = r.acquired handle)
    (sameAcquiring : ref.acquiring = r.acquiring handle) :
    (r.put handle ref).acquired other = r.acquired other ∧
      (r.put handle ref).acquiring other = r.acquiring other := by
  unfold acquired acquiring
  rw [ensure_put]
  split_ifs with same
  · rw [same]
    exact ⟨sameAcquired, sameAcquiring⟩
  · exact ⟨rfl, rfl⟩

theorem flags_retain
    {count : HandleRef → HandleRef}
    (sameAcquired : (count (r.ensure handle)).acquired = r.acquired handle)
    (sameAcquiring : (count (r.ensure handle)).acquiring = r.acquiring handle) :
    (r.retain handle count).acquired other = r.acquired other ∧
      (r.retain handle count).acquiring other = r.acquiring other := by
  unfold retain
  split_ifs with zero
  · exact ⟨rfl, rfl⟩
  · exact r.flags_put handle other sameAcquired sameAcquiring

/-- `BeginAcquire` starts an acquire only for a handle nobody acquires. -/
theorem beginAcquire_spec :
    ((r.beginAcquire handle).2 = .acquire ∧ handle ≠ 0 ∧
        r.acquired handle = false ∧ r.acquiring handle = false ∧
        ∀ other,
          (r.beginAcquire handle).1.acquired other = r.acquired other ∧
            (r.beginAcquire handle).1.acquiring other =
              if other = handle then true else r.acquiring other) ∨
      ((r.beginAcquire handle).2 ≠ .acquire ∧
        ∀ other,
          (r.beginAcquire handle).1.acquired other = r.acquired other ∧
            (r.beginAcquire handle).1.acquiring other = r.acquiring other) := by
  by_cases zero : handle = 0
  · right
    rw [beginAcquire, if_pos zero]
    exact ⟨nofun, fun _ => ⟨rfl, rfl⟩⟩
  rw [beginAcquire, if_neg zero]
  by_cases held : (r.ensure handle).acquired
  · right
    rw [if_pos held]
    exact ⟨nofun, fun other => r.flags_put handle other rfl rfl⟩
  rw [if_neg held]
  by_cases busy : (r.ensure handle).acquiring
  · right
    rw [if_pos busy]
    exact ⟨nofun, fun other => r.flags_put handle other rfl rfl⟩
  left
  rw [if_neg busy]
  refine ⟨rfl, zero, Bool.eq_false_iff.mpr held, Bool.eq_false_iff.mpr busy, ?_⟩
  intro other
  change ((r.put handle _).ensure other).acquired = (r.ensure other).acquired ∧
      ((r.put handle _).ensure other).acquiring = _
  rw [ensure_put]
  split_ifs with same
  · rw [same]
    exact ⟨rfl, rfl⟩
  · exact ⟨rfl, rfl⟩

variable {r handle} in
theorem finishAcquire_missing (none_ : r.handles handle = none) (ok : Bool) :
    r.finishAcquire handle ok = (r, false) := by
  simp only [finishAcquire, none_, ite_self]

variable {r handle} in
/-- `FinishAcquire` deletes an entry that nobody uses, or stores it. -/
theorem finishAcquire_found
    {old : HandleRef} (nonzero : handle ≠ 0) (found : r.handles handle = some old) (ok : Bool) :
    (old.users = 0 ∧ r.finishAcquire handle ok = ((r.delete handle).closeWait old.wait, ok)) ∨
      r.finishAcquire handle ok = ((r.put handle (old.finished ok)).closeWait old.wait, false) := by
  simp only [finishAcquire, if_neg nonzero, found]
  split_ifs with drained idle
  · exact .inl ⟨drained.2, rfl⟩
  · rw [(Bool.or_eq_false_iff.mp idle.1).2]
    exact .inl ⟨idle.2, rfl⟩
  · exact .inr rfl

/-- `FinishAcquire` of the handle that is being acquired. -/
theorem finishAcquire_spec
    (ok : Bool) (nonzero : handle ≠ 0) (busy : r.acquiring handle)
    (unheld : r.acquired handle = false) :
    ((r.finishAcquire handle ok).2 → ok) ∧
      ∀ other,
        (r.finishAcquire handle ok).1.acquired other =
            (if other = handle then ok && !(r.finishAcquire handle ok).2
            else r.acquired other) ∧
          (r.finishAcquire handle ok).1.acquiring other =
            if other = handle then false else r.acquiring other := by
  cases found : r.handles handle with
  | none =>
    rw [acquiring, ensure_of_missing found] at busy
    cases busy
  | some old =>
    rw [acquired, ensure_of_found found] at unheld
    unfold acquired acquiring
    rcases finishAcquire_found nonzero found ok with ⟨-, cut⟩ | stored
    · rw [cut]
      refine ⟨id, ?_⟩
      intro other
      rw [ensure_closeWait, ensure_delete, Bool.and_not_self]
      split_ifs <;> exact ⟨rfl, rfl⟩
    · rw [stored]
      refine ⟨nofun, ?_⟩
      intro other
      rw [ensure_closeWait, ensure_put, HandleRef.finished, unheld]
      split_ifs
      · exact ⟨(Bool.and_true ok).symm, rfl⟩
      · exact ⟨rfl, rfl⟩

/-- `MarkAcquired` of a handle that is recorded already. -/
theorem flags_markAcquired (held : r.acquired handle) (notBusy : r.acquiring handle = false) :
    (r.markAcquired handle).acquired other = r.acquired other ∧
      (r.markAcquired handle).acquiring other = r.acquiring other := by
  by_cases zero : handle = 0
  · rw [markAcquired, if_pos zero]
    exact ⟨rfl, rfl⟩
  · have idle : ¬ (r.ensure handle).acquiring := Bool.eq_false_iff.mp notBusy
    rw [markAcquired, if_neg zero]
    simp only [if_neg idle]
    exact r.flags_put handle other held.symm rfl

variable {r handle} in
theorem release_zero (zero : handle = 0) (binder : Bool) : r.release handle binder = (r, false) :=
  if_pos zero

variable {r handle} in
theorem release_missing (none_ : r.handles handle = none) (binder : Bool) :
    r.release handle binder = (r, false) := by
  simp only [release, none_, ite_self]

variable {r handle} in
theorem release_found
    {old : HandleRef} (nonzero : handle ≠ 0) (found : r.handles handle = some old) (binder : Bool) :
    r.release handle binder =
      if (old.dropped binder).users > 0 then
        (r.put handle (old.dropped binder), false)
      else if (old.dropped binder).acquiring then
        (r.put handle { old.dropped binder with releaseAfterAcquire := true }, false)
      else (r.delete handle, (old.dropped binder).acquired) := by
  simp only [release, if_neg nonzero, found]

/-- `release` asks for a driver release exactly when it forgets a reference. -/
theorem release_spec (binder : Bool) :
    ((r.release handle binder).2 → r.acquired handle) ∧
      ∀ other,
        (r.release handle binder).1.acquired other =
            (if other = handle then
              r.acquired handle && !(r.release handle binder).2
            else r.acquired other) ∧
          (r.release handle binder).1.acquiring other = r.acquiring other := by
  have still (next : RefTracker)
      (flags : ∀ other, next.acquired other = r.acquired other ∧
          next.acquiring other = r.acquiring other) (other : UInt32) :
      next.acquired other =
          (if other = handle then r.acquired handle && !false
          else r.acquired other) ∧
        next.acquiring other = r.acquiring other := by
    refine ⟨?_, (flags other).2⟩
    rw [(flags other).1]
    split_ifs with same
    · rw [same]
      exact (Bool.and_true _).symm
    · rfl
  by_cases zero : handle = 0
  · rw [release_zero zero]
    exact ⟨nofun, still r fun _ => ⟨rfl, rfl⟩⟩
  cases found : r.handles handle with
  | none =>
    rw [release_missing found]
    exact ⟨nofun, still r fun _ => ⟨rfl, rfl⟩⟩
  | some old =>
    obtain ⟨held, busy, -⟩ := old.dropped_flags binder
    rw [← ensure_of_found found] at held busy
    rw [release_found zero found, ← ensure_of_found found]
    split_ifs with used isBusy
    · exact ⟨nofun, still _ fun other => r.flags_put handle other held busy⟩
    · exact ⟨nofun, still _ fun other => r.flags_put handle other held busy⟩
    · rw [busy] at isBusy
      refine ⟨held.symm.trans, ?_⟩
      intro other
      unfold acquired acquiring
      rw [ensure_delete]
      split_ifs with same
      · rw [held, same, Bool.eq_false_iff.mpr isBusy, Bool.and_not_self]
        exact ⟨rfl, rfl⟩
      · exact ⟨rfl, rfl⟩

end Records

end RefTracker

end Libbinder.Runtime
