import Libbinder.Go.Transition
import Libbinder.Runtime.RefTracker

/-!
# Calls of the reference tracker

Any goroutine may call any method of the tracker with any handle, in any
order.  A call changes the entry of its own handle only, and it does so in one
of four ways: nothing changes, the entry is stored with the same acquire in
progress, an acquire begins with a new channel, or the acquire is over and its
channel is closed.  All else follows from that.
-/

namespace Libbinder.Runtime

open Go

/-- The methods that change the tracker. -/
inductive RefMethod where
  | retainBinder
  | retainWatch
  | beginAcquire
  | finishAcquire (ok : Bool)
  | markAcquired
  | releaseBinder
  | releaseWatch
deriving DecidableEq

structure RefCall where
  handle : UInt32
  method : RefMethod

namespace RefTracker

/-- One call, and whether it tells its caller to release the handle. -/
def call (r : RefTracker) (c : RefCall) : RefTracker × Bool :=
  match c.method with
  | .retainBinder => (r.retainBinder c.handle, false)
  | .retainWatch => (r.retainWatch c.handle, false)
  | .beginAcquire => ((r.beginAcquire c.handle).1, false)
  | .finishAcquire ok => r.finishAcquire c.handle ok
  | .markAcquired => (r.markAcquired c.handle, false)
  | .releaseBinder => r.releaseBinder c.handle
  | .releaseWatch => r.releaseWatch c.handle

/-- The channel that a call closes. -/
def closes (r : RefTracker) (c : RefCall) : Option Nat :=
  match c.method with
  | .finishAcquire _ => if c.handle = 0 then none else (r.ensure c.handle).wait
  | .markAcquired =>
    if c.handle = 0 then none
    else if r.acquiring c.handle then (r.ensure c.handle).wait
    else none
  | _ => none

/-- The entry with the references that remain when a call has given up its own. -/
def remaining (r : RefTracker) (c : RefCall) : HandleRef :=
  match c.method with
  | .releaseBinder => (r.ensure c.handle).dropped true
  | .releaseWatch => (r.ensure c.handle).dropped false
  | _ => r.ensure c.handle

end RefTracker

/-- All runs of one tracker. -/
def trackerCalls : System RefTracker RefCall where
  init := .newRefTracker
  step := fun r c => some (r.call c).1

/-- A retain finds fewer references to the handle than `int` can count. -/
def RefCall.HasRoom (r : RefTracker) (c : RefCall) : Prop :=
  c.method = .retainBinder ∨ c.method = .retainWatch →
    (r.ensure c.handle).binderRefs + (r.ensure c.handle).watchRefs < maxInt
deriving Decidable

/-- The counts of an entry and their sum are in the range of `int`. -/
structure HandleRef.Counted (ref : HandleRef) : Prop where
  binders : 0 ≤ ref.binderRefs
  watches : 0 ≤ ref.watchRefs
  sum : ref.binderRefs + ref.watchRefs ≤ maxInt

/-- An entry whose counts add up to zero counts nothing. -/
theorem HandleRef.Counted.unused
    {ref : HandleRef} (counted : ref.Counted) (unused : ref.users ≤ 0) :
    ref.binderRefs = 0 ∧ ref.watchRefs = 0 := by
  obtain ⟨binders, watches, sum⟩ := counted
  unfold maxInt at sum
  rw [HandleRef.users, wrapInt_eq] at unused
  omega

theorem HandleRef.Counted.empty : HandleRef.empty.Counted := by
  constructor <;> decide

theorem HandleRef.Counted.dropped {old : HandleRef} (counted : old.Counted) (binder : Bool) :
    (old.dropped binder).Counted := by
  have limit : maxInt = 9223372036854775807 := rfl
  obtain ⟨binders, watches, sum⟩ := counted
  unfold HandleRef.dropped
  split_ifs with releasesBinder above above
  · rw [wrapInt_eq]
    constructor <;> dsimp only <;> omega
  · exact ⟨binders, watches, sum⟩
  · rw [wrapInt_eq]
    constructor <;> dsimp only <;> omega
  · exact ⟨binders, watches, sum⟩

namespace RefTracker

/-- What holds between the calls. -/
structure Sound (r : RefTracker) : Prop where
  counted : ∀ handle, (r.ensure handle).Counted
  waits : ∀ handle, (r.ensure handle).wait.isSome = r.acquiring handle
  waitOpen : ∀ handle channel, (r.ensure handle).wait = some channel →
    channel < r.channels ∧ r.closed channel = false
  fresh : ∀ channel, r.channels ≤ channel → r.closed channel = false
  apart : ∀ first second channel,
    (r.ensure first).wait = some channel → (r.ensure second).wait = some channel → first = second

/--
What becomes of the wait channel of the entry a call changes: its channel
before and after the call, the channel closed, and how many channels there are.
-/
inductive Turn (channels : Nat) : Option Nat → Option Nat → Option Nat → Nat → Prop where
  | keep (wait : Option Nat) : Turn channels wait wait none channels
  | start : Turn channels none (some channels) none (channels + 1)
  | settle (wait : Option Nat) : Turn channels wait none wait channels

namespace Turn

variable {channels grown channel : Nat} {before after closing : Option Nat}

variable (turn : Turn channels before after closing grown)

include turn

theorem wait_cases (waits : after = some channel) :
    (before = some channel ∧ closing = none) ∨
      (channel = channels ∧ closing = none ∧ grown = channels + 1) := by
  cases turn with
  | keep => exact .inl ⟨waits, rfl⟩
  | start => exact .inr ⟨(Option.some.inj waits).symm, rfl, rfl⟩
  | settle => cases waits

theorem channels_le : channels ≤ grown := by
  cases turn with
  | keep | settle => exact Nat.le_refl _
  | start => exact Nat.le_succ _

/-- The channel closed is the one in use, and it is no longer used. -/
theorem closing_eq (closes : closing = some channel) : before = some channel ∧ after = none := by
  cases turn with
  | keep | start => cases closes
  | settle => exact ⟨closes, rfl⟩

/-- A channel that is no longer used is closed. -/
theorem closing_of_ended (waits : before = some channel) (ended : after.isSome = false) :
    closing = some channel := by
  cases turn with
  | keep =>
    rw [waits] at ended
    cases ended
  | start => cases waits
  | settle => exact waits

end Turn

/-- A call leaves `ref` for its handle and closes `closing`. -/
structure Changed (r : RefTracker) (handle : UInt32) (ref : HandleRef)
    (closing : Option Nat) (next : RefTracker) : Prop where
  entries : ∀ other,
    next.ensure other = if other = handle then ref else r.ensure other
  counted : ref.Counted
  waits : ref.wait.isSome = ref.acquiring
  closed : next.closed = (r.closeWait closing).closed
  turn : Turn r.channels (r.ensure handle).wait ref.wait closing next.channels

section Changes

variable {r next : RefTracker} {handle : UInt32} {ref : HandleRef}
  {closing : Option Nat}

theorem closed_closeWait (channel : Nat) :
    (r.closeWait closing).closed channel ↔ closing = some channel ∨ r.closed channel := by
  cases closing with
  | none => simp [closeWait]
  | some closed =>
    by_cases same : channel = closed
    · simp [closeWait, same]
    · simp [closeWait, same, Ne.symm same]

section

variable (new : Changed r handle ref closing next)

include new

theorem Changed.ensure_self : next.ensure handle = ref := by
  rw [new.entries, if_pos rfl]

theorem Changed.ensure_other {other : UInt32} (apart : other ≠ handle) :
    next.ensure other = r.ensure other := by
  rw [new.entries, if_neg apart]

/-- A channel in use after a call was in use before it or is new. -/
theorem Changed.wait_cases
    {other : UInt32} {channel : Nat} (waits : (next.ensure other).wait = some channel) :
    ((r.ensure other).wait = some channel ∧ (other = handle → closing = none)) ∨
      (other = handle ∧ channel = r.channels ∧ closing = none ∧
        next.channels = r.channels + 1) := by
  by_cases same : other = handle
  · subst same
    rw [new.ensure_self] at waits
    rcases new.turn.wait_cases waits with ⟨before, notClosing⟩ | ⟨isNew, notClosing, more⟩
    · exact .inl ⟨before, fun _ => notClosing⟩
    · exact .inr ⟨rfl, isNew, notClosing, more⟩
  · rw [new.ensure_other same] at waits
    exact .inl ⟨waits, fun equal => absurd equal same⟩

end

/-- Every change keeps the invariant. -/
theorem Sound.changed (sound : r.Sound) (new : Changed r handle ref closing next) : next.Sound where
  counted := by
    intro other
    rw [new.entries]
    split_ifs
    · exact new.counted
    · exact sound.counted other
  waits := by
    intro other
    rw [acquiring, new.entries]
    split_ifs
    · exact new.waits
    · exact sound.waits other
  waitOpen := by
    intro other channel waiting
    rw [new.closed, ← Bool.not_eq_true, closed_closeWait]
    rcases new.wait_cases waiting with ⟨before, notClosing⟩ | ⟨-, rfl, notClosing, more⟩
    · obtain ⟨bounded, opened⟩ := sound.waitOpen other channel before
      refine ⟨Nat.lt_of_lt_of_le bounded new.turn.channels_le, ?_⟩
      rintro (closes | closed)
      · have own := (new.turn.closing_eq closes).1
        rw [notClosing (sound.apart _ _ _ before own)] at closes
        cases closes
      · rw [opened] at closed
        cases closed
    · refine ⟨by omega, ?_⟩
      rw [notClosing, sound.fresh _ (Nat.le_refl _)]
      rintro (closes | closed)
      · cases closes
      · cases closed
  fresh := by
    intro channel beyond
    have unused := Nat.le_trans new.turn.channels_le beyond
    rw [new.closed, ← Bool.not_eq_true, closed_closeWait, sound.fresh _ unused]
    rintro (closes | closed)
    · have bounded := (sound.waitOpen _ _ (new.turn.closing_eq closes).1).1
      omega
    · cases closed
  apart := by
    intro first second channel firstWaits secondWaits
    rcases new.wait_cases firstWaits with ⟨firstBefore, -⟩ | ⟨firstSame, firstNew, -⟩
    · rcases new.wait_cases secondWaits with ⟨secondBefore, -⟩ | ⟨-, secondNew, -⟩
      · exact sound.apart _ _ _ firstBefore secondBefore
      · have bounded := (sound.waitOpen _ _ firstBefore).1
        omega
    · rcases new.wait_cases secondWaits with ⟨secondBefore, -⟩ | ⟨secondSame, -⟩
      · have bounded := (sound.waitOpen _ _ secondBefore).1
        omega
      · rw [firstSame, secondSame]

/-- A call closes exactly the channel of the acquire that it ends. -/
theorem Changed.ends_iff
    (sound : r.Sound) (new : Changed r handle ref closing next) (channel : Nat) :
    closing = some channel ↔
      ∃ other, (r.ensure other).wait = some channel ∧ next.acquiring other = false := by
  constructor
  · intro closes
    obtain ⟨own, waitless⟩ := new.turn.closing_eq closes
    refine ⟨handle, own, ?_⟩
    rw [acquiring, new.ensure_self, ← new.waits, waitless]
    rfl
  · rintro ⟨other, waits, ended⟩
    have busy := sound.waits other
    rw [waits] at busy
    by_cases same : other = handle
    · subst same
      rw [acquiring, new.ensure_self, ← new.waits] at ended
      exact new.turn.closing_of_ended waits ended
    · rw [acquiring, new.ensure_other same] at ended
      cases busy.trans ended

end Changes

/-! ## The methods -/

section Methods

variable {r : RefTracker} {handle : UInt32} {ref : HandleRef}

/-- The entry is stored and the acquire is over. -/
theorem Changed.settle
    (counted : ref.Counted) (idle : ref.acquiring = false) (waitless : ref.wait = none) :
    Changed r handle ref (r.ensure handle).wait
      ((r.put handle ref).closeWait (r.ensure handle).wait) where
  entries := by
    intro other
    rw [ensure_closeWait, ensure_put]
  counted := counted
  waits := by rw [waitless, idle]; rfl
  closed := by cases (r.ensure handle).wait <;> rfl
  turn := by
    rw [waitless]
    cases (r.ensure handle).wait <;> exact .settle _

/-- The entry is deleted. -/
theorem Changed.delete :
    Changed r handle .empty (r.ensure handle).wait
      ((r.delete handle).closeWait (r.ensure handle).wait) where
  entries := by
    intro other
    rw [ensure_closeWait, ensure_delete]
  counted := .empty
  waits := rfl
  closed := by cases (r.ensure handle).wait <;> rfl
  turn := by cases (r.ensure handle).wait <;> exact .settle _

theorem users_of_release {binder : Bool} (told : (r.release handle binder).2) :
    ((r.ensure handle).dropped binder).users ≤ 0 := by
  by_cases zero : handle = 0
  · rw [release_zero zero] at told
    cases told
  cases found : r.handles handle with
  | none =>
    rw [release_missing found] at told
    cases told
  | some old =>
    rw [release_found zero found] at told
    rw [ensure_of_found found]
    split_ifs at told with used
    exact Int.not_lt.mp used

theorem users_of_finishAcquire {ok : Bool} (told : (r.finishAcquire handle ok).2) :
    (r.ensure handle).users ≤ 0 := by
  by_cases zero : handle = 0
  · rw [finishAcquire, if_pos zero] at told
    cases told
  cases found : r.handles handle with
  | none =>
    rw [finishAcquire_missing found] at told
    cases told
  | some old =>
    rcases finishAcquire_found zero found ok with ⟨unused, -⟩ | stored
    · rw [ensure_of_found found]
      exact Int.le_of_eq unused
    · rw [stored] at told
      cases told

theorem handles_markAcquired (nonzero : handle ≠ 0) :
    (r.markAcquired handle).handles handle ≠ none := by
  unfold markAcquired
  rw [if_neg nonzero]
  dsimp only
  split_ifs
  · cases (r.ensure handle).wait <;> simp [closeWait, RefTracker.put]
  · simp [RefTracker.put]

variable (sound : r.Sound)

include sound

theorem Sound.wait_of_idle (idle : ¬ r.acquiring handle) : (r.ensure handle).wait = none := by
  rw [← sound.waits] at idle
  exact Option.not_isSome_iff_eq_none.mp idle

theorem Changed.same : Changed r handle (r.ensure handle) none r where
  entries := by
    intro other
    split_ifs with equal
    · rw [equal]
    · rfl
  counted := sound.counted handle
  waits := sound.waits handle
  closed := rfl
  turn := .keep _

/-- The entry is stored and the acquire goes on. -/
theorem Changed.put
    (counted : ref.Counted) (sameAcquiring : ref.acquiring = r.acquiring handle)
    (sameWait : ref.wait = (r.ensure handle).wait) :
    Changed r handle ref none (r.put handle ref) where
  entries := fun other => r.ensure_put handle other ref
  counted := counted
  waits := by rw [sameWait, sameAcquiring, sound.waits]
  closed := rfl
  turn := by
    rw [sameWait]
    exact .keep _

theorem changed_beginAcquire : ∃ ref, Changed r handle ref none (r.beginAcquire handle).1 := by
  have counted := sound.counted handle
  unfold beginAcquire
  dsimp only
  split_ifs with zero held busy
  · exact ⟨_, .same sound⟩
  · exact ⟨_, .put sound counted rfl rfl⟩
  · exact ⟨_, .put sound counted rfl rfl⟩
  · refine ⟨{ r.ensure handle with acquiring := true, wait := some r.channels }, ?_⟩
    exact {
      entries := fun other => r.ensure_put handle other _
      counted := ⟨counted.1, counted.2, counted.3⟩
      waits := rfl
      closed := rfl
      turn := by
        rw [sound.wait_of_idle busy]
        exact .start }

theorem changed_finishAcquire (ok : Bool) :
    ∃ ref, Changed r handle ref (r.closes ⟨handle, .finishAcquire ok⟩)
      (r.finishAcquire handle ok).1 := by
  unfold closes
  by_cases zero : handle = 0
  · simp only [finishAcquire, if_pos zero]
    exact ⟨_, .same sound⟩
  simp only [if_neg zero]
  cases found : r.handles handle with
  | none =>
    rw [finishAcquire_missing found, ensure_of_missing found]
    exact ⟨_, .same sound⟩
  | some old =>
    have counted := sound.counted handle
    rcases finishAcquire_found zero found ok with ⟨-, cut⟩ | stored
    · rw [cut, ← ensure_of_found found]
      exact ⟨_, .delete⟩
    · rw [stored, ← ensure_of_found found]
      exact ⟨_, .settle ⟨counted.1, counted.2, counted.3⟩ rfl rfl⟩

theorem changed_markAcquired :
    ∃ ref, Changed r handle ref (r.closes ⟨handle, .markAcquired⟩) (r.markAcquired handle) := by
  have counted := sound.counted handle
  unfold markAcquired closes acquiring
  dsimp only
  split_ifs with zero busy
  · exact ⟨_, .same sound⟩
  · exact ⟨_, .settle ⟨counted.1, counted.2, counted.3⟩ rfl rfl⟩
  · exact ⟨_, .put sound ⟨counted.1, counted.2, counted.3⟩ rfl rfl⟩

theorem changed_release (binder : Bool) :
    ∃ ref, Changed r handle ref none (r.release handle binder).1 := by
  by_cases zero : handle = 0
  · rw [release_zero zero]
    exact ⟨_, .same sound⟩
  cases found : r.handles handle with
  | none =>
    rw [release_missing found]
    exact ⟨_, .same sound⟩
  | some old =>
    have counted := (sound.counted handle).dropped binder
    obtain ⟨-, sameAcquiring, sameWait⟩ := (r.ensure handle).dropped_flags binder
    rw [release_found zero found, ← ensure_of_found found]
    split_ifs with used busy
    · exact ⟨_, .put sound counted sameAcquiring sameWait⟩
    · exact ⟨_, .put sound ⟨counted.1, counted.2, counted.3⟩ sameAcquiring sameWait⟩
    · have cut : Changed r handle _ _ _ := .delete
      rw [sameAcquiring] at busy
      rw [sound.wait_of_idle busy] at cut
      exact ⟨_, cut⟩

variable {c : RefCall}

/-- Every call is a change of the entry of its handle. -/
theorem changed_call (room : c.HasRoom r) :
    ∃ ref, Changed r c.handle ref (r.closes c) (r.call c).1 := by
  obtain ⟨handle, method⟩ := c
  have limit : maxInt = 9223372036854775807 := rfl
  obtain ⟨binders, watches, sum⟩ := sound.counted handle
  cases method with
  | retainBinder | retainWatch =>
    have more := room (by simp)
    dsimp only [call, retainBinder, retainWatch, retain] at more ⊢
    split_ifs
    · exact ⟨_, .same sound⟩
    · refine ⟨_, .put sound ?_ rfl rfl⟩
      rw [wrapInt_eq]
      constructor <;> dsimp only <;> omega
  | beginAcquire => exact changed_beginAcquire sound
  | finishAcquire ok => exact changed_finishAcquire sound ok
  | markAcquired => exact changed_markAcquired sound
  | releaseBinder => exact changed_release sound true
  | releaseWatch => exact changed_release sound false

/-- A call that tells its caller to release has left no reference. -/
theorem remaining_of_told (told : (r.call c).2) :
    (r.remaining c).binderRefs = 0 ∧ (r.remaining c).watchRefs = 0 := by
  have counted := sound.counted c.handle
  obtain ⟨handle, method⟩ := c
  cases method with
  | retainBinder | retainWatch | beginAcquire | markAcquired => cases told
  | finishAcquire ok => exact counted.unused (users_of_finishAcquire told)
  | releaseBinder => exact (counted.dropped true).unused (users_of_release told)
  | releaseWatch => exact (counted.dropped false).unused (users_of_release told)

/-- The entry of an acquire is deleted by the end of the acquire only. -/
theorem finish_of_deleted
    (room : c.HasRoom r) (busy : r.acquiring handle) (cut : (r.call c).1.handles handle = none) :
    ∃ ok, c = ⟨handle, .finishAcquire ok⟩ := by
  obtain ⟨ref, new⟩ := changed_call sound room
  have waits := sound.waits handle
  rw [busy] at waits
  obtain ⟨channel, waiting⟩ := Option.isSome_iff_exists.mp waits
  have closing := (new.ends_iff sound channel).mpr
    ⟨handle, waiting, by rw [acquiring, ensure_of_missing cut]; rfl⟩
  have same : handle = c.handle := sound.apart _ _ _ waiting (new.turn.closing_eq closing).1
  subst same
  obtain ⟨handle, method⟩ := c
  cases method with
  | retainBinder | retainWatch | beginAcquire | releaseBinder | releaseWatch => cases closing
  | finishAcquire ok => exact ⟨ok, rfl⟩
  | markAcquired =>
    refine absurd cut (handles_markAcquired ?_)
    rintro rfl
    cases closing

end Methods

/-! ## Runs -/

theorem Sound.init : newRefTracker.Sound where
  counted := fun _ => .empty
  waits := fun _ => rfl
  waitOpen := by rintro _ _ ⟨⟩
  fresh := fun _ _ => rfl
  apart := by rintro _ _ _ ⟨⟩

theorem sound_of_reaches {r : RefTracker} (path : trackerCalls.Reaches (fun r c => c.HasRoom r) r) :
    r.Sound := by
  refine path.invariant .init ?_
  intro state c reached sound room ran
  obtain ⟨ref, new⟩ := changed_call sound room
  cases ran
  exact sound.changed new

/-- What a call does in a state where entries wait exactly while acquiring. -/
structure CallKeeps (r : RefTracker) (c : RefCall) : Prop where
  /-- Only the end of an acquire deletes the entry it was for. -/
  deleted : ∀ handle, r.acquiring handle →
    (r.call c).1.handles handle = none → ∃ ok, c = ⟨handle, .finishAcquire ok⟩
  /-- A channel is closed by the call that ends its acquire. -/
  closes : ∀ channel, r.closes c = some channel ↔
    ∃ handle, (r.ensure handle).wait = some channel ∧ (r.call c).1.acquiring handle = false
  /-- A channel is not closed twice. -/
  once : ∀ channel, r.closes c = some channel → r.closed channel = false
  closed : ∀ channel, (r.call c).1.closed channel ↔ r.closes c = some channel ∨ r.closed channel
  /-- The caller is told to release only a handle without references. -/
  told : (r.call c).2 → (r.remaining c).binderRefs = 0 ∧ (r.remaining c).watchRefs = 0

/-- The discipline of a tracker's state and of the calls made in it. -/
structure Disciplined (r : RefTracker) : Prop where
  counts : ∀ handle ref, r.handles handle = some ref → 0 ≤ ref.binderRefs ∧ 0 ≤ ref.watchRefs
  waits : ∀ handle ref, r.handles handle = some ref → (ref.wait.isSome ↔ ref.acquiring)
  calls : ∀ c : RefCall, c.HasRoom r → r.CallKeeps c

end RefTracker

open RefTracker

/-- Every run in which no retain finds the references used up keeps to it. -/
theorem tracker_disciplined
    {r : RefTracker}
    (reaches : trackerCalls.Reaches (fun r c => c.HasRoom r) r) : r.Disciplined := by
  have sound := sound_of_reaches reaches
  refine ⟨?_, ?_, ?_⟩
  · intro handle ref found
    have counted := sound.counted handle
    rw [ensure_of_found found] at counted
    exact ⟨counted.binders, counted.watches⟩
  · intro handle ref found
    have waits := sound.waits handle
    rw [acquiring, ensure_of_found found] at waits
    rw [waits]
  · intro c room
    obtain ⟨ref, changed⟩ := changed_call sound room
    refine ⟨fun handle => finish_of_deleted sound room,
      changed.ends_iff sound, ?_, ?_, remaining_of_told sound⟩
    · intro channel closing
      exact (sound.waitOpen _ _ (changed.turn.closing_eq closing).1).2
    · intro channel
      rw [changed.closed, closed_closeWait]

theorem tracker_disciplined_acquiring :
    ((newRefTracker.call ⟨1, .retainBinder⟩).1.call ⟨1, .beginAcquire⟩).1.Disciplined := by
  have retained :
      trackerCalls.Reaches (fun r c => c.HasRoom r) (newRefTracker.call ⟨1, .retainBinder⟩).1 :=
    .next .start (by decide) rfl
  exact tracker_disciplined (retained.next (by decide) rfl)

theorem binderRefs_retainBinder (r : RefTracker) :
    ((r.retainBinder 1).ensure 1).binderRefs = wrapInt ((r.ensure 1).binderRefs + 1) :=
  rfl

/-- A handle can be retained until its count is the largest `int`. -/
theorem reaches_retained (count : Nat) (small : count ≤ maxInt) :
    ∃ r, trackerCalls.Reaches (fun _ _ => True) r ∧ (r.ensure 1).binderRefs = count := by
  have limit : maxInt = 9223372036854775807 := rfl
  induction count with
  | zero => exact ⟨_, .start, rfl⟩
  | succ count ih =>
    obtain ⟨r, path, counted⟩ := ih (by omega)
    have retained : trackerCalls.step r ⟨1, .retainBinder⟩ = some (r.retainBinder 1) := rfl
    refine ⟨_, path.next trivial retained, ?_⟩
    rw [binderRefs_retainBinder, counted, wrapInt_eq]
    rfl

theorem retained_too_often :
    ∃ r, trackerCalls.Reaches (fun _ _ => True) r ∧
      ∃ ref, r.handles 1 = some ref ∧ ref.binderRefs < 0 := by
  obtain ⟨r, reaches, counted⟩ := reaches_retained 9223372036854775807 (Int.le_refl _)
  have retained : trackerCalls.step r ⟨1, .retainBinder⟩ = some (r.retainBinder 1) := rfl
  refine ⟨_, reaches.next trivial retained, _, rfl, ?_⟩
  change wrapInt ((r.ensure 1).binderRefs + 1) < 0
  rw [counted]
  decide

end Libbinder.Runtime
