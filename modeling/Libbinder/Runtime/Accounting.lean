import Libbinder.Runtime.References

/-!
# The balance of acquires and releases

The accepted acquires of a handle, less its accepted releases, are what the
tracker records plus what the goroutines in progress have still to record or to
give back.  Every step keeps the balance except those at which the driver and
the tracker part: the acquire of a received object, an acquire whose caller has
left, a release that does not reach the driver, and a handle that is marked
without an acquire.
-/

namespace Libbinder.Runtime

open Go Function RefStage

namespace RefStage

/-- The strong references a stage holds outside the tracker. -/
def weight (other : UInt32) : RefStage → Int
  | .ran handle true _ | .finishing handle true _ | .releasing handle _
  | .releaseAccepted handle _ => indicator handle other
  | _ => 0

/-- The stage is between `BeginAcquire` and `FinishAcquire`. -/
def claim (other : UInt32) : RefStage → Int
  | .offered handle _ | .accepted handle _ | .ran handle _ _ | .finishing handle _ _ =>
    indicator handle other
  | _ => 0

/-- An acquire or a release of the handle is in flight. -/
def inFlight (other : UInt32) : RefStage → Bool
  | .offered handle _ | .accepted handle _ | .ran handle _ _ | .finishing handle _ _
  | .releasing handle _ | .releaseAccepted handle _ | .orphan handle => handle = other
  | _ => false

theorem claim_nonneg (other : UInt32) (stage : RefStage) : 0 ≤ stage.claim other := by
  unfold claim indicator
  split <;> first | exact Int.le_refl 0 | split_ifs <;> decide

theorem weight_of_quiet {other : UInt32} {stage : RefStage} (quiet : stage.inFlight other = false) :
    stage.weight other = 0 := by
  unfold weight
  split <;> first
    | rfl
    | exact if_neg (of_decide_eq_false quiet)

end RefStage

namespace RefState

/-- The invariant of the accounts. -/
structure Accounts (s : RefState) : Prop where
  balance : ∀ handle,
      (s.acquires handle : Int) - s.releases handle =
        (s.tracker.acquired handle).toInt + total (RefStage.weight handle) s.stages
  claims : ∀ handle, total (RefStage.claim handle) s.stages = (s.tracker.acquiring handle).toInt
  exclusive : ∀ handle, s.tracker.acquiring handle → s.tracker.acquired handle = false
  zero : s.tracker.acquiring 0 = false

theorem Accounts.init : Accounts .init where
  balance := fun _ => rfl
  claims := fun _ => rfl
  exclusive := by rintro _ ⟨⟩
  zero := rfl

/--
The condition under which the accounts balance: the driver accepts no acquire
of a received object, no acquire whose caller has left succeeds, every release
reaches the driver, and only recorded handles are marked.
-/
def Counted (s : RefState) : RefLabel → Prop
  | .discard _ ok _ => ok = false
  | .runOrphan _ ok => ok = false
  | .dropRelease _ _ => False
  | .runRelease _ _ released _ => released
  | .receive objects ok =>
    match objects with
    | [] => True
    | object :: _ => object.kind ≠ .strongBinder ∨ ok = false
  | .markAcquired handle => handle = 0 ∨ s.tracker.acquired handle
  | _ => True

/-! ## Changes that keep the accounts -/

section Changes

variable {s t : RefState} {old : RefStage} {successors : List RefStage}

theorem advance_eq_some :
    s.advance old successors = some t ↔
      old ∈ s.stages ∧ t = { s with stages := advanceStage s.stages old successors } := by
  unfold advance
  constructor
  · intro moved
    rcases Option.ite_none_right_eq_some.mp moved with ⟨mem, result⟩
    exact ⟨mem, (Option.some.inj result).symm⟩
  · rintro ⟨mem, rfl⟩
    exact if_pos mem

/-- The tracker keeps its flags. -/
def SameFlags (r t : RefTracker) : Prop :=
  ∀ handle, t.acquired handle = r.acquired handle ∧ t.acquiring handle = r.acquiring handle

theorem SameFlags.refl (r : RefTracker) : SameFlags r r :=
  fun _ => ⟨rfl, rfl⟩

variable {handle : UInt32}

/-- A counter that is raised at one handle. -/
theorem raised (count : UInt32 → Nat) (handle other : UInt32) :
    (update count handle (count handle + 1) other : Int) =
      count other + indicator handle other := by
  rw [update_apply, indicator_eq]
  split_ifs with same
  · rw [same]
    rfl
  · exact (Int.add_zero _).symm

/-- What `release` forgets, the goroutine has to give back. -/
theorem release_balance (r : RefTracker) (handle other : UInt32) (binder : Bool) :
    ((r.release handle binder).1.acquired other).toInt +
        total (weight other)
          (if (r.release handle binder).2 then [.releasing handle none]
          else []) =
      (r.acquired other).toInt := by
  rcases r.release_spec handle binder with ⟨held, flags⟩
  rw [(flags other).1]
  cases asked : (r.release handle binder).2 with
  | false =>
    simp only [Bool.not_false, Bool.and_true, Bool.false_eq_true, if_false, total_nil, Int.add_zero]
    split_ifs with same
    · rw [same]
    · rfl
  | true =>
    simp only [Bool.not_true, Bool.and_false, if_true, total_cons, total_nil, weight, indicator_eq]
    split_ifs with same
    · rw [same, held asked]
      simp
    · simp

variable {purpose : Purpose} {ok : Bool}

/-- A stage that goes on after a release holds nothing. -/
theorem total_resume
    {purpose : Option Purpose} (weight : RefStage → Int)
    (zero : ∀ purpose, weight (.ready handle purpose) = 0) :
    total weight (if ok then resume handle purpose else []) = 0 := by
  split_ifs
  · cases purpose with
    | none => rfl
    | some purpose =>
      change weight (.ready handle purpose) + 0 = 0
      rw [zero]
      rfl
  · rfl

variable (accounts : Accounts s)

include accounts

/-- One stage moves on; what it takes and leaves balances. -/
theorem Accounts.advance
    (mem : old ∈ s.stages) (stages : t.stages = advanceStage s.stages old successors)
    (balance : ∀ handle,
        (t.acquires handle : Int) - t.releases handle -
            (t.tracker.acquired handle).toInt -
            total (weight handle) successors =
          (s.acquires handle : Int) - s.releases handle -
            (s.tracker.acquired handle).toInt - old.weight handle)
    (claims : ∀ handle,
        (t.tracker.acquiring handle).toInt -
            total (claim handle) successors =
          (s.tracker.acquiring handle).toInt - old.claim handle)
    (exclusive : ∀ handle, t.tracker.acquiring handle → t.tracker.acquired handle = false)
    (zero : t.tracker.acquiring 0 = false) : Accounts t where
  balance := by
    intro handle
    have before := accounts.balance handle
    have change := balance handle
    rw [stages, total_advanceStage _ _ mem]
    omega
  claims := by
    intro handle
    have before := accounts.claims handle
    have change := claims handle
    rw [stages, total_advanceStage _ _ mem]
    omega
  exclusive := exclusive
  zero := zero

variable {tracker : RefTracker}

/-- One stage moves on and neither driver nor flags are involved. -/
theorem Accounts.move
    (flags : SameFlags s.tracker tracker)
    (moved : ({ s with tracker := tracker } : RefState).advance old successors = some t)
    (weight : ∀ handle, total (weight handle) successors = old.weight handle := by
      exact fun _ => rfl)
    (claim : ∀ handle, total (claim handle) successors = old.claim handle := by
      exact fun _ => rfl) : Accounts t := by
  rcases advance_eq_some.mp moved with ⟨mem, rfl⟩
  refine accounts.advance mem rfl ?_ ?_ ?_ ?_
  · intro handle
    simp only [(flags handle).1, weight handle]
  · intro handle
    simp only [(flags handle).2, claim handle]
  · intro handle busy
    rw [(flags handle).2] at busy
    rw [(flags handle).1]
    exact accounts.exclusive handle busy
  · rw [(flags 0).2]
    exact accounts.zero

/-- A goroutine starts that holds nothing. -/
theorem Accounts.spawn
    {stage : RefStage} (flags : SameFlags s.tracker tracker)
    (weight : ∀ handle, stage.weight handle = 0) (claim : ∀ handle, stage.claim handle = 0) :
    Accounts { s with tracker := tracker, stages := stage :: s.stages } where
  balance := by
    intro handle
    rw [(flags handle).1, total_cons, weight handle, Int.zero_add]
    exact accounts.balance handle
  claims := by
    intro handle
    rw [(flags handle).2, total_cons, claim handle, Int.zero_add]
    exact accounts.claims handle
  exclusive := by
    intro handle busy
    rw [(flags handle).2] at busy
    rw [(flags handle).1]
    exact accounts.exclusive handle busy
  zero := by
    rw [(flags 0).2]
    exact accounts.zero

/-- Somebody between `BeginAcquire` and `FinishAcquire` is recorded. -/
theorem Accounts.acquiring_of_claim
    {stage : RefStage} (mem : stage ∈ s.stages) (claims : stage.claim handle = 1) :
    s.tracker.acquiring handle := by
  have below := weight_le_total (claim_nonneg handle) mem
  rw [claims, accounts.claims handle] at below
  cases busy : s.tracker.acquiring handle with
  | true => rfl
  | false =>
    rw [busy] at below
    cases below

/-- The tracker forgets a user of the handle. -/
theorem Accounts.dropRef
    {binder : Bool} (gone : s.dropRef old handle binder = some t)
    (weight : ∀ other, old.weight other = 0) (claim : ∀ other, old.claim other = 0) :
    Accounts t := by
  rcases s.tracker.release_spec handle binder with ⟨-, flags⟩
  rcases advance_eq_some.mp gone with ⟨mem, rfl⟩
  refine accounts.advance mem rfl ?_ ?_ ?_ ?_
  · intro other
    have balance := release_balance s.tracker handle other binder
    simp only [weight other]
    omega
  · intro other
    simp only [(flags other).2, claim other]
    split_ifs <;> simp [RefStage.claim]
  · intro other busy
    rw [(flags other).2] at busy
    rw [(flags other).1, accounts.exclusive other busy]
    split_ifs with same
    · rw [← same, accounts.exclusive other busy]
      rfl
    · rfl
  · rw [(flags 0).2]
    exact accounts.zero

/-- A goroutine begins to acquire a handle. -/
theorem Accounts.beginAcquire (ran : refStep s (.beginAcquire handle purpose) = some t) :
    Accounts t := by
  rcases s.tracker.beginAcquire_spec handle with
    ⟨begun, nonzero, unheld, idle, flags⟩ | ⟨notBegun, flags⟩
  · rcases advance_eq_some.mp ran with ⟨mem, rfl⟩
    refine accounts.advance mem rfl ?_ ?_ ?_ ?_
    · intro other
      simp only [begun, (flags other).1]
      simp [weight]
    · intro other
      simp only [begun, (flags other).2, total_cons, total_nil, claim, indicator_eq]
      split_ifs with same
      · rw [same, idle]
        rfl
      · rfl
    · intro other busy
      rw [(flags other).1]
      rw [(flags other).2] at busy
      split_ifs at busy with same
      · rwa [same]
      · exact accounts.exclusive other busy
    · rw [(flags 0).2, if_neg nonzero.symm]
      exact accounts.zero
  · refine accounts.move flags ran ?_ ?_
    · intro other
      split <;> rfl
    · intro other
      split <;> first | rfl | exact absurd ‹_› notBegun

/-- The worker has run the acquire command for a waiting caller. -/
theorem Accounts.run (ran : refStep s (.run handle purpose ok) = some t) : Accounts t := by
  cases ok with
  | false => exact accounts.move (.refl _) ran (fun _ => rfl) (fun _ => Int.add_zero _)
  | true =>
    rcases advance_eq_some.mp ran with ⟨mem, rfl⟩
    refine accounts.advance mem rfl ?_ ?_ accounts.exclusive accounts.zero
    · intro other
      have count := raised s.acquires handle other
      simp only [if_true, countAcquire, count, total_cons, total_nil, weight]
      omega
    · intro other
      simp [countAcquire, claim]

/-- The acquirer reports its result to the tracker. -/
theorem Accounts.finishAcquire (ran : refStep s (.finishAcquire handle ok purpose) = some t) :
    Accounts t := by
  rcases advance_eq_some.mp ran with ⟨mem, rfl⟩
  have busy : s.tracker.acquiring handle := accounts.acquiring_of_claim mem (if_pos rfl)
  have unheld := accounts.exclusive handle busy
  have nonzero : handle ≠ 0 := by
    rintro rfl
    rw [accounts.zero] at busy
    cases busy
  rcases s.tracker.finishAcquire_spec handle ok nonzero busy unheld with ⟨succeeded, flags⟩
  refine accounts.advance mem rfl ?_ ?_ ?_ ?_
  · intro other
    simp only [(flags other).1]
    cases ok with
    | false =>
      simp only [Bool.false_and, Bool.false_eq_true, if_false, total_nil, weight]
      split_ifs with same
      · rw [same, unheld]
      · rfl
    | true =>
      cases asked : (s.tracker.finishAcquire handle true).2
      all_goals
        simp only [Bool.not_false, Bool.not_true, Bool.and_self, Bool.and_false, Bool.false_eq_true,
          if_true, if_false, total_cons, total_nil, weight, indicator_eq]
        split_ifs with same
        · rw [same, unheld]
          simp
        · simp
  · intro other
    have none :
        total (claim other)
          (if ok then
            if (s.tracker.finishAcquire handle ok).2 then
              [releasing handle (some purpose)]
            else [ready handle purpose]
          else []) = 0 := by
      split_ifs <;> rfl
    simp only [(flags other).2, none, claim, indicator_eq]
    split_ifs with same
    · rw [same, busy]
      rfl
    · simp
  · intro other nowBusy
    rw [(flags other).2] at nowBusy
    rw [(flags other).1]
    split_ifs at nowBusy with same
    rw [if_neg same]
    exact accounts.exclusive other nowBusy
  · rw [(flags 0).2, if_neg nonzero.symm]
    exact accounts.zero

/-- The driver has accepted a release. -/
theorem Accounts.runRelease
    {purpose : Option Purpose} (ran : refStep s (.runRelease handle purpose true ok) = some t) :
    Accounts t := by
  rcases advance_eq_some.mp ran with ⟨mem, rfl⟩
  refine accounts.advance mem rfl ?_ ?_ accounts.exclusive accounts.zero
  · intro other
    have count := raised s.releases handle other
    simp only [if_true, countRelease, count, weight, total_resume (weight other) fun _ => rfl]
    omega
  · intro other
    simp only [if_true, countRelease, claim, total_resume (claim other) fun _ => rfl]

/-- `acquireParcelObjects` passes over an object without an acquire. -/
theorem Accounts.receive
    {objects : List ParcelObject} (counted : Counted s (.receive objects ok))
    (ran : refStep s (.receive objects ok) = some t) : Accounts t := by
  cases objects with
  | nil => exact accounts.move (.refl _) ran
  | cons object rest =>
    simp only [refStep] at ran
    split_ifs at ran with other succeeded
    · exact accounts.move (.refl _) ran
    · rcases counted with notStrong | failed
      · exact absurd notStrong other
      · rw [succeeded] at failed
        cases failed
    · exact accounts.move (.refl _) ran

end Changes

/-! ## Whole runs -/

/-- Every counted step keeps the accounts. -/
theorem Accounts.step
    {s t : RefState} {label : RefLabel} (accounts : Accounts s)
    (counted : Counted s label) (ran : refStep s label = some t) : Accounts t := by
  cases label with
  | openBinder handle =>
    cases ran
    exact accounts.spawn (s.tracker.flags_retain handle · rfl rfl) (fun _ => rfl) (fun _ => rfl)
  | closeBinder | subscriptionDone => exact accounts.dropRef ran (fun _ => rfl) (fun _ => rfl)
  | ensure handle purpose =>
    cases ran
    refine accounts.spawn (.refl _) ?_ ?_
    · intro other
      split_ifs <;> rfl
    · intro other
      split_ifs <;> rfl
  | beginAcquire handle purpose => exact accounts.beginAcquire ran
  | wake handle channel purpose =>
    rcases Option.ite_none_right_eq_some.mp ran with ⟨_, moved⟩
    exact accounts.move (.refl _) moved
  | cancelWait | transact =>
    exact accounts.move (.refl _) ran
  | refuse | accept | abandon =>
    exact accounts.move (.refl _) ran (fun _ => rfl) (fun _ => Int.add_zero _)
  | run handle purpose ok => exact accounts.run ran
  | collect handle ok purpose =>
    refine accounts.move (.refl _) ran ?_ ?_
    · intro other
      cases ok with
      | false => rfl
      | true => exact Int.add_zero _
    · intro other
      exact Int.add_zero _
  | discard handle ok purpose =>
    cases counted
    exact accounts.move (.refl _) ran (fun _ => rfl) (fun _ => Int.add_zero _)
  | runOrphan handle ok =>
    cases counted
    exact accounts.move (.refl _) ran
  | finishAcquire handle ok purpose => exact accounts.finishAcquire ran
  | retainWatch handle | bindMarked handle =>
    exact accounts.move (s.tracker.flags_retain handle · rfl rfl) ran (fun _ => rfl) (fun _ => rfl)
  | watchResult handle ok =>
    cases ok with
    | false => exact accounts.dropRef ran (fun _ => rfl) (fun _ => rfl)
    | true => exact accounts.move (.refl _) ran
  | acceptRelease handle purpose =>
    exact accounts.move (.refl _) ran (fun _ => Int.add_zero _) (fun _ => rfl)
  | dropRelease handle purpose => exact counted.elim
  | runRelease handle purpose freed ok =>
    cases counted
    exact accounts.runRelease ran
  | deliver body offsets =>
    simp only [refStep] at ran
    split at ran
    · cases ran
      exact accounts
    · cases ran
      exact accounts.spawn (.refl _) (fun _ => rfl) (fun _ => rfl)
  | receive objects ok => exact accounts.receive counted ran
  | markAcquired handle =>
    cases ran
    have flags : SameFlags s.tracker (s.tracker.markAcquired handle) := by
      rcases counted with rfl | held
      · exact .refl _
      · have idle : s.tracker.acquiring handle = false := by
          rw [← Bool.not_eq_true]
          intro busy
          rw [accounts.exclusive handle busy] at held
          cases held
        exact fun other =>
          s.tracker.flags_markAcquired handle other held idle
    exact accounts.spawn flags (fun _ => rfl) (fun _ => rfl)

/-- No acquire or release of the handle is in flight. -/
def Quiet (s : RefState) (handle : UInt32) : Prop :=
  ∀ stage ∈ s.stages, stage.inFlight handle = false

/-- The accepted acquires less releases are what the tracker records. -/
def Accounted (s : RefState) (handle : UInt32) : Prop :=
  (s.acquires handle : Int) - s.releases handle = if s.tracker.acquired handle then 1 else 0

theorem Accounts.quiet_balance
    {s : RefState} {handle : UInt32} (accounts : Accounts s) (quiet : s.Quiet handle) :
    s.Accounted handle := by
  have nothing : total (weight handle) s.stages = 0 :=
    total_eq_zero fun stage mem =>
      weight_of_quiet (quiet stage mem)
  unfold Accounted
  rw [accounts.balance handle, nothing]
  cases s.tracker.acquired handle <;> rfl

/-- The acquire of a received object upsets the account of its handle. -/
theorem Accounts.receive_breaks
    {s t : RefState} {object : ParcelObject} {rest : List ParcelObject} (accounts : Accounts s)
    (quiet : s.Quiet object.handle) (strong : object.kind = .strongBinder)
    (ran : refStep s (.receive (object :: rest) true) = some t) :
    t.Quiet object.handle ∧ ¬ t.Accounted object.handle := by
  have before := accounts.quiet_balance quiet
  simp only [refStep, strong, ne_eq, not_true_eq_false, if_false, if_true] at ran
  rcases advance_eq_some.mp ran with ⟨_, rfl⟩
  constructor
  · intro stage mem
    rcases List.mem_append.mp mem with added | kept
    · rw [List.mem_singleton.mp added]
      rfl
    · exact quiet stage (List.mem_of_mem_erase kept)
  · intro after
    have count := raised s.acquires object.handle object.handle
    change
      (update s.acquires object.handle
          (s.acquires object.handle + 1) object.handle : Int) -
          s.releases object.handle =
        if s.tracker.acquired object.handle then 1 else 0 at after
    unfold Accounted at before
    rw [count, ← before, indicator, if_pos rfl] at after
    omega

/--
In every state of a run in which the driver and the tracker never part, the
accepted acquires of a handle less its accepted releases are one while the
tracker records it as acquired and zero otherwise, whenever no acquire or
release of the handle is in flight.  A received binder object that is acquired
in such a state always breaks the account of its handle.
-/
theorem counted_references_balance {s : RefState} (reaches : references.Reaches Counted s) :
    (∀ handle, s.Quiet handle → s.Accounted handle) ∧
      ∀ object rest t, object.kind = .strongBinder →
        s.Quiet object.handle →
        refStep s (.receive (object :: rest) true) = some t →
          t.Quiet object.handle ∧ ¬ t.Accounted object.handle := by
  have accounts : Accounts s :=
    reaches.invariant Accounts.init fun _ _ _ kept counted stepped =>
      kept.step counted stepped
  constructor
  · intro handle quiet
    exact accounts.quiet_balance quiet
  · intro object rest t strong quiet stepped
    exact accounts.receive_breaks quiet strong stepped

/-- A binder is opened and its handle acquired for a transaction. -/
def acquiredRun : List RefLabel :=
  [.openBinder 7, .ensure 7 .transact, .beginAcquire 7 .transact,
    .accept 7 .transact, .run 7 .transact true, .collect 7 true .transact,
    .finishAcquire 7 true .transact, .transact 7]

theorem acquiredRun_meets : references.Meets Counted acquiredRun .init := by
  apply System.meets_of_forall
  simp [acquiredRun, Counted]

theorem counted_references_balance_acquired :
    ∃ s : RefState,
      references.run acquiredRun init = some s ∧
        s.tracker.acquired 7 ∧ s.acquires 7 = 1 ∧ s.Quiet 7 ∧
        s.Accounted 7 := by
  have quiet : ∀ stage ∈ [RefStage.bound 7], stage.inFlight 7 = false := by
    decide
  refine ⟨_, rfl, rfl, rfl, quiet, ?_⟩
  exact (counted_references_balance (System.Reaches.start.of_run acquiredRun_meets rfl)).1 7 quiet

/-- The flat object of handle 7. -/
def handlePayload : List UInt8 :=
  [0x85, 0x2a, 0x68, 0x73, 0, 0, 0, 0, 7, 0, 0, 0, 0, 0, 0, 0, 0, 0, 0, 0, 0, 0, 0, 0]

def receivedObject : ParcelObject where
  kind := .strongBinder
  offset := 0
  length := 24
  handle := 7
  stability := 0

/-- The reply of the transaction carries the acquired handle again. -/
def receivedRun : List RefLabel :=
  acquiredRun ++
    [.deliver handlePayload [0, 0, 0, 0, 0, 0, 0, 0],
      .receive [receivedObject] true, .receive [] true]

/-- The context ends while the worker runs the acquire command. -/
def abandonedRun : List RefLabel :=
  [.openBinder 7, .ensure 7 .transact, .beginAcquire 7 .transact,
    .accept 7 .transact, .abandon 7 .transact,
    .finishAcquire 7 false .transact, .runOrphan 7 true]

/-- What a run leaves behind for one handle. -/
def view (handle : UInt32) (s : RefState) : List RefStage × Bool × Nat × Nat :=
  (s.stages, s.tracker.acquired handle, s.acquires handle, s.releases handle)

theorem exists_of_view
    {labels : List RefLabel} {acquired : Bool} {acquires releases : Nat}
    (shown : (references.run labels .init).map (view 7) =
        some ([.bound 7], acquired, acquires, releases))
    (apart : (acquires : Int) - releases ≠ if acquired then 1 else 0) :
    ∃ s : RefState, references.run labels .init = some s ∧ s.Quiet 7 ∧ ¬ s.Accounted 7 := by
  rcases Option.map_eq_some_iff.mp shown with ⟨s, ran, seen⟩
  simp only [view, Prod.mk.injEq] at seen
  rcases seen with ⟨stages, logged, acquired, freed⟩
  refine ⟨s, ran, ?_, ?_⟩
  · unfold Quiet
    rw [stages]
    decide
  · unfold Accounted
    rwa [logged, acquired, freed]

/--
A received handle is acquired twice and recorded once, and an acquire whose
caller has left is not recorded at all.
-/
theorem received_and_abandoned_acquires_uncounted :
    (∃ s : RefState,
      references.run receivedRun init = some s ∧ s.Quiet 7 ∧ ¬ s.Accounted 7) ∧
    ∃ s : RefState,
      references.run abandonedRun init = some s ∧ s.Quiet 7 ∧ ¬ s.Accounted 7 := by
  have received :
      (references.run receivedRun init).map (view 7) = some ([.bound 7], true, 2, 0) := by
    decide +kernel
  have abandoned :
      (references.run abandonedRun init).map (view 7) =
        some ([.bound 7], false, 1, 0) := by
    decide +kernel
  exact ⟨exists_of_view received (by decide), exists_of_view abandoned (by decide)⟩

end RefState

open RefState

end Libbinder.Runtime
