import Libbinder.Rpc.Tracking

/-!
# Obituaries

An obituary is final for what it found.  What is made for its handle later is
not told: a parcel that is read late makes a new proxy that is alive, and a
late `WatchDeath` call registers a subscription nobody finishes.  Without such
latecomers, and with no obituary between the two halves of a shutdown, every
proxy of a handle whose obituary was processed is dead and every subscription
on it is finished.
-/

namespace Libbinder.Rpc

open Go List Function Draining

/-- No shutdown is between taking proxies or subscriptions and telling them. -/
def Draining.quiet : Draining → Bool
  | .marking _ => false
  | .finishing _ => false
  | _ => true

/-- A subscription that is about to be registered is on none of the handles. -/
def WatchPhase.InsertsOutside (handles : List UInt32) : WatchPhase → Prop
  | .checked handle => handle ∉ handles
  | _ => True

instance (handles : List UInt32) : (phase : WatchPhase) → Decidable (phase.InsertsOutside handles)
  | .idle => instDecidableTrue
  | .created _ => instDecidableTrue
  | .checked handle => inferInstanceAs (Decidable (handle ∉ handles))
  | .returned _ => instDecidableTrue

/-- The handle whose obituary is being processed. -/
def Obituary.current : Obituary → Option UInt32
  | .idle => none
  | .taken handle _ => some handle
  | .marked handle => some handle
  | .finishing handle _ => some handle

namespace Deaths

variable {s reached : Deaths}

/--
No proxy is asked for after the obituary of its handle has begun, no
subscription is registered after the obituary has taken those of its handle,
and obituaries and shutdown do not overlap.
-/
def Timely (s : Deaths) : DeathAction → Prop
  | .resolve handle => handle ∉ s.begun
  | .insertWatch w => (s.watch w).InsertsOutside s.swept
  | .obituary _ => s.draining.quiet
  | .swapWatches => s.obituary = .idle
  | _ => True

instance (s : Deaths) : (action : DeathAction) → Decidable (Timely s action)
  | .resolve handle => inferInstanceAs (Decidable (handle ∉ s.begun))
  | .insertWatch w => inferInstanceAs (Decidable ((s.watch w).InsertsOutside s.swept))
  | .obituary _ => inferInstanceAs (Decidable (s.draining.quiet))
  | .swapWatches => inferInstanceAs (Decidable (s.obituary = .idle))
  | .closeBinder _ | .watchDeath _ _ | .checkClosed _ | .closeSub _ | .subClosed _ | .markDead
  | .takeWatches | .finishTaken | .processed | .swapImports | .markSwapped | .finishSwapped
  | .drained | .closeConn => instDecidableTrue

/-! ## The order of an obituary -/

/-- An obituary is begun, swept and processed. -/
structure Ordered (s : Deaths) : Prop where
  processed : ∀ handle ∈ s.processed, handle ∈ s.swept
  swept : ∀ handle ∈ s.swept, handle ∈ s.begun
  current : ∀ handle, s.obituary.current = some handle → handle ∈ s.begun
  sweeping : ∀ handle subs, s.obituary = .finishing handle subs → handle ∈ s.swept
  manager : rpcServerServiceManagerHandle ∉ s.begun

variable {action : DeathAction}

theorem Ordered.step (sorted : Ordered s) (ran : s.step action = some reached) :
    Ordered reached := by
  cases moves_of_step ran with
  | resolve handle =>
    unfold remoteBinder
    split <;> exact ⟨sorted.1, sorted.2, sorted.3, sorted.4, sorted.5⟩
  | obituary handle idle foreign =>
    refine ⟨sorted.processed, ?_, ?_, ?_, ?_⟩
    · intro other mem
      exact mem_cons_of_mem _ (sorted.swept other mem)
    · rintro other ⟨⟩
      exact mem_cons_self
    · rintro other subs ⟨⟩
    · intro mem
      rcases mem_cons.mp mem with same | earlier
      · exact foreign same.symm
      · exact sorted.manager earlier
  | markNone handle taken | markDead handle _ taken =>
    refine ⟨sorted.processed, sorted.swept, ?_, ?_, sorted.manager⟩
    · rintro other ⟨⟩
      exact sorted.current handle (by rw [taken]; rfl)
    · rintro other subs ⟨⟩
  | takeWatches handle marked =>
    have begun := sorted.current handle (by rw [marked]; rfl)
    refine ⟨?_, ?_, ?_, ?_, sorted.manager⟩
    · intro other mem
      exact mem_cons_of_mem _ (sorted.processed other mem)
    · intro other mem
      rcases mem_cons.mp mem with rfl | earlier
      · exact begun
      · exact sorted.swept other earlier
    · rintro other ⟨⟩
      exact begun
    · rintro other subs ⟨⟩
      exact mem_cons_self
  | finishTaken handle w rest ending done finishes =>
    refine ⟨sorted.processed, sorted.swept, ?_, ?_, sorted.manager⟩
    · rintro other ⟨⟩
      exact sorted.current handle (by rw [ending]; rfl)
    · rintro other subs ⟨⟩
      exact sorted.sweeping handle _ ending
  | processed handle ending =>
    refine ⟨?_, sorted.swept, ?_, ?_, sorted.manager⟩
    · intro other mem
      rcases mem_cons.mp mem with rfl | earlier
      · exact sorted.sweeping other _ ending
      · exact sorted.processed other earlier
    · rintro other ⟨⟩
    · rintro other subs ⟨⟩
  | _ => exact ⟨sorted.1, sorted.2, sorted.3, sorted.4, sorted.5⟩

/-! ## No proxy of a dead handle -/

/-- No table holds a proxy of a dead handle. -/
structure Unproxied (s : Deaths) : Prop where
  imports : ∀ handle ∈ s.begun, s.imports.lookup handle = none
  inHand : ∀ o, s.obituary.inHand = some o → o < s.made ∧ s.handle o ∉ s.processed
  toMark : ∀ o ∈ s.draining.toMark, o < s.made ∧ s.handle o ∉ s.begun

variable {handle : UInt32}

/-- A proxy for a handle without an obituary. -/
theorem Unproxied.remoteBinder (bare : Unproxied s) (early : handle ∉ s.begun) :
    Unproxied (s.remoteBinder handle) := by
  unfold Deaths.remoteBinder
  split
  · exact bare
  · have old : ∀ o, o < s.made → update s.handle s.made handle o = s.handle o := by
      intro o below
      exact update_of_ne (by omega) _ _
    refine ⟨?_, ?_, ?_⟩
    · intro other mem
      change (s.imports.insert handle s.made).lookup other = none
      rw [AList.lookup_insert_ne]
      · exact bare.imports other mem
      · rintro rfl
        exact early mem
    · intro o inHand
      rcases bare.inHand o inHand with ⟨below, unprocessed⟩
      refine ⟨Nat.lt_succ_of_lt below, ?_⟩
      change update s.handle s.made handle o ∉ s.processed
      rwa [old o below]
    · intro o mem
      rcases bare.toMark o mem with ⟨below, unbegun⟩
      refine ⟨Nat.lt_succ_of_lt below, ?_⟩
      change update s.handle s.made handle o ∉ s.begun
      rwa [old o below]

theorem Unproxied.step
    (bare : Unproxied s) (kept : ProxiesKept s) (sorted : Ordered s)
    (timely : Timely s action) (ran : s.step action = some reached) : Unproxied reached := by
  cases moves_of_step ran with
  | resolve handle => exact bare.remoteBinder timely
  | obituary handle idle foreign =>
    refine ⟨?_, ?_, ?_⟩
    · intro other mem
      change (s.imports.erase handle).lookup other = none
      by_cases same : other = handle
      · rw [same, AList.lookup_erase]
      · rw [AList.lookup_erase_ne same]
        exact bare.imports other (mem_of_ne_of_mem same mem)
    · intro o found
      change s.imports.lookup handle = some o at found
      rcases kept.imported handle o found with ⟨below, named⟩
      refine ⟨below, ?_⟩
      change s.handle o ∉ s.processed
      rw [named]
      intro processed
      have begun := sorted.swept handle (sorted.processed handle processed)
      rw [bare.imports handle begun] at found
      cases found
    · intro o mem
      change o ∈ s.draining.toMark at mem
      change s.draining.quiet at timely
      cases phase : s.draining <;>
        simp [phase, Draining.quiet, Draining.toMark] at timely mem
  | markNone | takeWatches | finishTaken | processed =>
    refine ⟨bare.imports, ?_, bare.toMark⟩
    rintro o ⟨⟩
  | markDead handle o taken =>
    refine ⟨bare.imports, ?_, bare.toMark⟩
    rintro p ⟨⟩
  | swapImports runs =>
    refine ⟨fun _ _ => rfl, bare.inHand, ?_⟩
    intro o mem
    rcases mem_map.mp mem with ⟨⟨handle, _⟩, entry, rfl⟩
    have found := AList.mem_lookup_iff.mpr entry
    rcases kept.imported handle _ found with ⟨below, named⟩
    refine ⟨below, ?_⟩
    change s.handle _ ∉ s.begun
    rw [named]
    intro begun
    rw [bare.imports handle begun] at found
    cases found
  | markSwapped o rest marking =>
    refine ⟨bare.imports, bare.inHand, ?_⟩
    intro p mem
    refine bare.toMark p ?_
    rw [marking]
    exact mem_cons_of_mem _ mem
  | swapWatches | finishSwapped | drained | closeConn =>
    refine ⟨bare.imports, bare.inHand, ?_⟩
    rintro o ⟨⟩
  | _ => exact ⟨bare.1, bare.2, bare.3⟩

/-! ## No subscription on a dead handle -/

/-- No watch is left behind by its obituary. -/
structure Unwatched (s : Deaths) : Prop where
  registered : ∀ handle w, (handle, w) ∈ s.deathWatches → s.watch w = .returned handle
  watches : ∀ handle ∈ s.swept, ∀ w, (handle, w) ∉ s.deathWatches
  taken : ∀ w ∈ s.obituary.toFinish, ∃ handle, s.watch w = .returned handle ∧ handle ∉ s.processed
  swapped : ∀ w ∈ s.draining.toFinish, ∃ handle, s.watch w = .returned handle ∧ handle ∉ s.swept
  alone : ∀ subs, s.draining = .finishing subs → s.obituary = .idle

variable (unwatched : Unwatched s)

include unwatched

/-- Another `WatchDeath` call than those that have returned goes on. -/
theorem Unwatched.setWatch
    {w : Nat} (phase : WatchPhase) (runs : ∀ handle, s.watch w ≠ .returned handle) :
    Unwatched (s.setWatch w phase) := by
  have old :
      ∀ v handle, s.watch v = .returned handle → update s.watch w phase v = .returned handle := by
    intro v handle ran
    rw [update_of_ne]
    · exact ran
    · rintro rfl
      exact runs handle ran
  refine ⟨?_, unwatched.watches, ?_, ?_, unwatched.alone⟩
  · intro handle v mem
    exact old v handle (unwatched.registered handle v mem)
  · intro v mem
    rcases unwatched.taken v mem with ⟨handle, ran, unprocessed⟩
    exact ⟨handle, old v handle ran, unprocessed⟩
  · intro v mem
    rcases unwatched.swapped v mem with ⟨handle, ran, unswept⟩
    exact ⟨handle, old v handle ran, unswept⟩

/-- Subscriptions leave the table. -/
theorem Unwatched.fewer (keep : UInt32 × Nat → Bool) (closing : Nat → Bool) :
    Unwatched { s with
      deathWatches := s.deathWatches.filter keep
      closing := closing } :=
  { unwatched with
    registered := by
      intro handle w mem
      exact unwatched.registered handle w (mem_filter.mp mem).1
    watches := by
      intro handle swept w mem
      exact unwatched.watches handle swept w (mem_filter.mp mem).1 }

theorem Unwatched.insertWatch
    {w : Nat} (checked : s.watch w = .checked handle) (early : handle ∉ s.swept) :
    Unwatched { s.setWatch w (.returned handle) with
      deathWatches := (handle, w) :: s.deathWatches } := by
  have ran : Unwatched (s.setWatch w (.returned handle)) := by
    refine unwatched.setWatch _ ?_
    rw [checked]
    rintro other ⟨⟩
  refine ⟨?_, ?_, ran.taken, ran.swapped, ran.alone⟩
  · intro other v mem
    rcases mem_cons.mp mem with same | earlier
    · cases same
      exact update_self _ _ _
    · exact ran.registered other v earlier
  · intro other swept v mem
    rcases mem_cons.mp mem with same | earlier
    · cases same
      exact early swept
    · exact unwatched.watches other swept v earlier

/-- The obituary takes the subscriptions of its handle. -/
theorem Unwatched.takeWatches (sorted : Ordered s) (marked : s.obituary = .marked handle) :
    Unwatched { s with
      obituary := .finishing handle
        ((s.deathWatches.filter fun entry => entry.1 = handle).map Prod.snd)
      deathWatches := s.deathWatches.filter fun entry => entry.1 ≠ handle
      swept := handle :: s.swept } where
  registered := by
    intro other w mem
    exact unwatched.registered other w (mem_filter.mp mem).1
  watches := by
    intro other swept w mem
    rcases mem_filter.mp mem with ⟨stored, apart⟩
    rcases mem_cons.mp swept with rfl | earlier
    · simp at apart
    · exact unwatched.watches other earlier w stored
  taken := by
    intro w mem
    rcases mem_map.mp mem with ⟨⟨other, _⟩, entry, rfl⟩
    rcases mem_filter.mp entry with ⟨stored, same⟩
    refine ⟨other, unwatched.registered other _ stored, ?_⟩
    intro done
    exact unwatched.watches other (sorted.processed other done) _ stored
  swapped := by
    intro w mem
    change w ∈ s.draining.toFinish at mem
    cases phase : s.draining with
    | finishing subs =>
      have idle := unwatched.alone subs phase
      rw [marked] at idle
      cases idle
    | _ =>
      rw [phase] at mem
      cases mem
  alone := by
    intro subs finishing
    have idle := unwatched.alone subs finishing
    rw [marked] at idle
    cases idle

theorem Unwatched.swapWatches (idle : s.obituary = .idle) :
    Unwatched { s with
      draining := .finishing (s.deathWatches.map Prod.snd)
      deathWatches := [] } where
  registered := by
    rintro handle w ⟨⟩
  watches := by
    rintro handle swept w ⟨⟩
  taken := unwatched.taken
  swapped := by
    intro w mem
    rcases mem_map.mp mem with ⟨⟨handle, _⟩, stored, rfl⟩
    refine ⟨handle, unwatched.registered handle _ stored, ?_⟩
    intro swept
    exact unwatched.watches handle swept _ stored
  alone := fun _ _ => idle

theorem Unwatched.step
    (sorted : Ordered s) (timely : Timely s action) (ran : s.step action = some reached) :
    Unwatched reached := by
  rcases unwatched with ⟨known, watches, taken, turned, alone⟩
  have unwatched : Unwatched s := ⟨known, watches, taken, turned, alone⟩
  cases moves_of_step ran with
  | resolve handle =>
    unfold Deaths.remoteBinder
    split <;> exact ⟨known, watches, taken, turned, alone⟩
  | watchDeath w o idle =>
    refine unwatched.setWatch _ ?_
    rw [idle]
    rintro handle ⟨⟩
  | openSeen w handle created =>
    refine unwatched.setWatch _ ?_
    rw [created]
    rintro other ⟨⟩
  | closedSeen w handle created done finishes =>
    have got : Unwatched (s.setWatch w (.returned handle)) := by
      refine unwatched.setWatch _ ?_
      rw [created]
      rintro other ⟨⟩
    exact ⟨got.registered, watches, got.taken, got.swapped, alone⟩
  | insertWatch w handle checked =>
    change (s.watch w).InsertsOutside s.swept at timely
    rw [checked] at timely
    exact unwatched.insertWatch checked timely
  | closeSub w handle => exact unwatched.fewer _ _
  | obituary handle idle foreign =>
    refine ⟨known, watches, ?_, turned, ?_⟩
    · rintro w ⟨⟩
    · intro subs ending
      change s.draining = .finishing subs at ending
      change s.draining.quiet at timely
      rw [ending] at timely
      cases timely
  | markNone _ marking | markDead _ _ marking =>
    refine ⟨known, watches, ?_, turned, ?_⟩
    · rintro w ⟨⟩
    · intro subs ending
      have idle := alone subs ending
      rw [marking] at idle
      cases idle
  | takeWatches handle marked => exact unwatched.takeWatches sorted marked
  | finishTaken handle w rest ending done finishes =>
    refine ⟨known, watches, ?_, turned, ?_⟩
    · intro v mem
      refine taken v ?_
      rw [ending]
      exact mem_cons_of_mem _ mem
    · intro subs drains
      have idle := alone subs drains
      rw [ending] at idle
      cases idle
  | processed handle ending =>
    refine ⟨known, watches, ?_, turned, fun _ _ => rfl⟩
    rintro w ⟨⟩
  | swapImports | markSwapped | drained | closeConn =>
    refine ⟨known, watches, taken, ?_, ?_⟩
    · rintro w ⟨⟩
    · rintro subs ⟨⟩
  | swapWatches marking => exact unwatched.swapWatches timely
  | finishSwapped w rest ending done finishes =>
    refine ⟨known, watches, taken, ?_, ?_⟩
    · intro v mem
      refine turned v ?_
      rw [ending]
      exact mem_cons_of_mem _ mem
    · rintro subs ⟨⟩
      exact alone _ ending
  | _ => exact ⟨known, watches, taken, turned, alone⟩

omit unwatched

/-! ## Runs -/

/-- The invariant of runs without latecomers. -/
structure Final (s : Deaths) : Prop where
  proxies : ProxiesKept s
  subscriptions : SubscriptionsKept s
  ordered : Ordered s
  unproxied : Unproxied s
  unwatched : Unwatched s

theorem Final.of_reaches {role : Role} (path : (deaths role).Reaches Timely s) : Final s := by
  refine path.invariant ?_ ?_
  · have initial : (deaths role).Reaches Timely (deaths role).init := .start
    refine ⟨.of_reaches initial, .of_reaches initial, ?_, ?_, ?_⟩
    · constructor <;> simp [deaths, Deaths.init, Obituary.current]
    · constructor <;> simp [deaths, Deaths.init, Obituary.inHand, toMark]
    · constructor <;> simp [deaths, Deaths.init, Obituary.toFinish, toFinish]
  · intro state action next final timely ran
    exact {
      proxies := final.proxies.step ran
      subscriptions := final.subscriptions.step ran
      ordered := final.ordered.step ran
      unproxied := final.unproxied.step final.proxies final.ordered timely ran
      unwatched := final.unwatched.step final.ordered timely ran }

theorem Final.dead
    (final : Final s) {o : Nat} (made : o < s.made) (done : s.handle o ∈ s.processed) :
    s.dead o := by
  have begun := final.ordered.swept _ (final.ordered.processed _ done)
  by_contra alive
  rw [Bool.not_eq_true] at alive
  rcases final.proxies.alive o made alive with found | inHand | toMark | manager
  · rw [final.unproxied.imports _ begun] at found
    cases found
  · exact (final.unproxied.inHand o inHand).2 done
  · exact (final.unproxied.toMark o toMark).2 begun
  · rw [manager] at begun
    exact final.ordered.manager begun

theorem Final.finished
    (final : Final s) {w : Nat} (ran : s.watch w = .returned handle)
    (active : s.closing w = false) (done : handle ∈ s.processed) : (s.done w).isSome := by
  have swept := final.ordered.processed _ done
  by_contra unfinished
  rw [Option.not_isSome_iff_eq_none] at unfinished
  rcases final.subscriptions w handle ran active unfinished with stored | taken | swapped
  · exact final.unwatched.watches handle swept w stored
  · rcases final.unwatched.taken w taken with ⟨other, same, unprocessed⟩
    rw [ran] at same
    cases same
    exact unprocessed done
  · rcases final.unwatched.swapped w swapped with ⟨other, same, unswept⟩
    rw [ran] at same
    cases same
    exact unswept swept

/--
In a run without latecomers, once the obituary of a handle was processed every
proxy for it that its user has not closed reports `ErrDeadObject`, and every
subscription on it that its user is not closing is finished.
-/
theorem obituaries_final
    {role : Role} (reaches : (deaths role).Reaches Timely s)
    {handle : UInt32} (processed : handle ∈ s.processed) :
    (∀ o < s.made, s.handle o = handle → s.shut o = false → s.checkOpen o = some .deadObject) ∧
      ∀ w, s.watch w = .returned handle → s.closing w = false → (s.done w).isSome := by
  have final := Final.of_reaches reaches
  constructor
  · intro o made named unshut
    subst named
    simp [checkOpen, unshut, final.dead made processed]
  · intro w returned active
    exact final.finished returned active processed

/-- A watched proxy whose handle dies. -/
def watchedDeath : List DeathAction :=
  [.resolve 3, .watchDeath 0 0, .checkClosed 0, .insertWatch 0, .obituary 3,
    .markDead, .takeWatches, .finishTaken, .processed]

theorem watchedDeath_final :
    ∃ s, (deaths .server).run watchedDeath (init .server) = some s ∧
      s.processed = [3] ∧ s.checkOpen 0 = some .deadObject ∧
      s.done 0 = some (some .deadObject) ∧ (s.done 0).isSome := by
  refine ⟨_, rfl, rfl, rfl, rfl, ?_⟩
  have meets : (deaths .server).Meets Timely watchedDeath (init .server) := by
    decide
  exact (obituaries_final (System.Reaches.start.of_run meets rfl) mem_cons_self).2 0 rfl rfl

/-- A late `WatchDeath` and a late read of the handle. -/
def latecomers : List DeathAction :=
  [.watchDeath 1 0, .checkClosed 1, .insertWatch 1, .resolve 3]

theorem latecomers_are_not_told :
    ∃ s, (deaths .server).run (watchedDeath ++ latecomers) (init .server) = some s ∧
      s.processed = [3] ∧ s.obituary = .idle ∧
      (s.watch 1 = .returned 3 ∧ s.closing 1 = false ∧ s.done 1 = none) ∧
      (1 < s.made ∧ s.handle 1 = 3 ∧ s.shut 1 = false ∧ s.checkOpen 1 = none) := by
  refine ⟨_, rfl, rfl, rfl, ⟨rfl, rfl, rfl⟩, ?_⟩
  exact ⟨by decide, rfl, rfl, rfl⟩

/-! ## Outcomes are final -/

/-- What was done has kept its error, and what is being closed is not done. -/
structure Settled (before s : Deaths) : Prop where
  kept : ∀ w err, before.done w = some err → s.done w = some err
  apart : ∀ w, s.closing w → s.done w = none

namespace Settled

variable {before : Deaths} (settled : Settled before s)

include settled

theorem finish {w : Nat} (ended : s.finish w = some reached) : Settled before reached := by
  obtain ⟨kept, apart⟩ := settled
  unfold Deaths.finish at ended
  split_ifs at ended with closing already
  · cases ended
    exact ⟨kept, apart⟩
  · cases ended
    constructor <;> grind

theorem step {action : DeathAction} (ran : s.step action = some reached) :
    Settled before reached := by
  have kept := settled.kept
  have apart := settled.apart
  revert ran
  fun_cases Deaths.step s action <;> intro ran <;> try cases ran
  case case1 =>
    unfold remoteBinder
    split <;> exact ⟨kept, apart⟩
  case case6 | case24 | case34 =>
    obtain ⟨t, ended, rfl⟩ := Option.map_eq_some_iff.mp ran
    exact ⟨(settled.finish ended).kept, (settled.finish ended).apart⟩
  case case11 | case14 => constructor <;> grind
  all_goals exact ⟨kept, apart⟩

end Settled

variable {role : Role} {actions more : List DeathAction}

/-- Whatever happens later, a subscription keeps the outcome it has. -/
theorem outcomes_final
    (ran : (deaths role).run actions (init role) = some s)
    (later : (deaths role).run more s = some reached) : Settled s reached := by
  have start : Settled (init role) (init role) := by
    refine ⟨fun _ _ => id, ?_⟩
    intro w closing
    cases closing
  have before := System.run_invariant (fun _ _ _ settled => settled.step) start ran
  exact System.run_invariant (fun _ _ _ settled => settled.step)
    ⟨fun _ _ => id, before.apart⟩ later

theorem watchedDeath_outcome_final :
    ∃ s reached, (deaths .server).run watchedDeath (init .server) = some s ∧
      (deaths .server).run [.swapImports] s = some reached ∧
      reached.done 0 = some (some .deadObject) :=
  ⟨_, _, rfl, rfl, (@outcomes_final _ _ .server watchedDeath [.swapImports] rfl rfl).kept 0 _ rfl⟩

/-- With no obituary and no shutdown under way, what is alive is in the tables. -/
theorem live_objects_in_tables
    (ran : (deaths role).run actions (init role) = some s) (calm : s.obituary = .idle)
    (running : s.draining = .running) :
    (∀ o < s.made, s.dead o = false → s.handle o ≠ rpcServerServiceManagerHandle →
        s.imports.lookup (s.handle o) = some o) ∧
      ∀ w handle, s.watch w = .returned handle → s.closing w = false → s.done w = none →
        (handle, w) ∈ s.deathWatches := by
  have path : (deaths role).Reaches (fun _ _ => True) s :=
    .of_run .start (System.meets_of_forall fun _ _ _ => trivial) ran
  constructor
  · intro o made alive foreign
    have awaits := (ProxiesKept.of_reaches path).alive o made alive
    simpa [AwaitsDeath, calm, running, Obituary.inHand, toMark, foreign] using awaits
  · intro w handle returned active undone
    have awaits := SubscriptionsKept.of_reaches path w handle returned active undone
    simpa [AwaitsFinish, calm, running, Obituary.toFinish, toFinish] using awaits

theorem watched_in_tables :
    ∃ s, (deaths .server).run (watchedDeath.take 4) (init .server) = some s ∧
      s.imports.lookup 3 = some 0 ∧ (3, 0) ∈ s.deathWatches := by
  have tables := @live_objects_in_tables _ .server (watchedDeath.take 4) rfl rfl rfl
  exact ⟨_, rfl, tables.1 0 (by decide) rfl (by decide), tables.2 0 3 rfl rfl rfl⟩

end Deaths

end Libbinder.Rpc
