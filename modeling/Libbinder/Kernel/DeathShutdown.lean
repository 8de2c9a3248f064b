import Libbinder.Kernel.DeathIndex

/-!
# No subscription survives `Close`

A subscription whose `done` channel is still open is always in one of three
places: in the set of a listed watch, in the closing set of a watch that waits
for its clear, or in the hands of a goroutine that is about to finish it.
`Close` collects the first place only.  When the other two hold finished
subscriptions only, every subscription is finished before `Close` returns.
-/

namespace Libbinder.Kernel

open Go List Function AList
open DeathRegistry

namespace DeathRegistry

/-- The subscription can still be returned by `Watch` and is not finished. -/
def Alive (r : DeathRegistry) (sub : Nat) : Prop :=
  (r.phase sub).attached ∧ r.done sub = none

/-- Where the registry keeps a subscription that is not finished. -/
inductive Place (r : DeathRegistry) (sub : Nat) : Prop where
  | listed (listed : r.Listed (r.target sub)) (member : sub ∈ (r.watch (r.target sub)).subs)
  | clearing
      (found : r.byCookie.lookup (r.watch (r.target sub)).cookie = some (r.target sub))
      (member : sub ∈ (r.watch (r.target sub)).closingSubs)
  | finishing (err : FinishError) (member : (sub, err) ∈ r.finishers)

/-- The invariant behind the shutdown of the registry. -/
structure Placed (r : DeathRegistry) : Prop where
  place : r.closed = false → ∀ sub, r.Alive sub → r.Place sub
  closing : r.closed → ∀ sub, r.Alive sub → ∃ subs, r.close = .finishing subs ∧ sub ∈ subs
  idle : r.closed = false → r.close = .idle
  closed : r.closeReturned → r.closed
  returned : r.closeReturned → r.close = .finishing [] ∨ r.close = .returned

/--
The condition under which `Close` leaves no orphan.  The cookie counter does
not wrap around; a watch is rolled back only while no other subscription has
joined it; when `Close` is called, the subscriptions that wait for a clear or
for a goroutine are finished; and a second `Close` is called only after the
first one has finished its list.
-/
def Orderly (r : DeathRegistry) : DeathLabel → Prop
  | .attach handle _ => r.byHandle.lookup handle = none → r.nextCookie.toNat + 1 < 2 ^ 64
  | .rollback sub =>
    ∀ other,
      other ∈ (r.watch (r.target sub)).subs ∨
        other ∈ (r.watch (r.target sub)).closingSubs → other = sub
  | .close =>
    (∀ cookie w sub, r.byCookie.lookup cookie = some w →
      sub ∈ (r.watch w).closingSubs → r.done sub ≠ none) ∧
    ∀ sub err, (sub, err) ∈ r.finishers → r.done sub ≠ none
  | .closeAgain => r.close = .finishing [] ∨ r.close = .returned
  | _ => True

theorem Orderly.fresh {r : DeathRegistry} {label : DeathLabel} (orderly : Orderly r label) :
    Fresh r label := by
  cases label with
  | attach handle sub => exact orderly
  | _ => trivial

theorem Placed.init : Placed .init where
  place := by rintro _ _ ⟨⟨⟩, -⟩
  closing := by rintro ⟨⟩
  idle := fun _ => rfl
  closed := by rintro ⟨⟩
  returned := by rintro ⟨⟩

/-! ## Changes that keep the invariant -/

section Changes

variable {r t : DeathRegistry} {sub : Nat} {phase : WatchPhase} {other : Nat}

theorem alive_setPhase
    (tied : phase.attached → (r.phase sub).attached)
    (alive : (r.setPhase sub phase).Alive other) : r.Alive other := by
  rcases alive with ⟨now, still⟩
  rw [phase_setPhase] at now
  split_ifs at now with same
  · rw [same] at still ⊢
    exact ⟨tied now, still⟩
  · exact ⟨now, still⟩

theorem alive_of_failed (alive : (r.setPhase sub .failed).Alive other) :
    r.Alive other ∧ other ≠ sub := by
  refine ⟨alive_setPhase (fun attached => by cases attached) alive, ?_⟩
  rintro rfl
  have attached := alive.1
  rw [phase_setPhase, if_pos rfl] at attached
  cases attached

/-- A place survives where its watch is as before and still in the indices. -/
theorem Place.mono
    (place : r.Place sub) (target : t.target sub = r.target sub)
    (watch : t.watch (r.target sub) = r.watch (r.target sub))
    (listed :
      r.Listed (r.target sub) → sub ∈ (r.watch (r.target sub)).subs → t.Listed (r.target sub))
    (clearing : r.byCookie.lookup (r.watch (r.target sub)).cookie = some (r.target sub) →
        sub ∈ (r.watch (r.target sub)).closingSubs →
          t.byCookie.lookup (r.watch (r.target sub)).cookie = some (r.target sub))
    (finishers : ∀ err, (sub, err) ∈ r.finishers → (sub, err) ∈ t.finishers) : t.Place sub := by
  rw [← watch, ← target] at listed clearing
  cases place with
  | listed isListed mem =>
    rw [← target] at isListed
    rw [← watch, ← target] at mem
    exact .listed (listed isListed mem) mem
  | clearing found mem =>
    rw [← watch, ← target] at found mem
    exact .clearing (clearing found mem) mem
  | finishing err mem => exact .finishing err (finishers err mem)

variable {w : Nat} {cookie : UInt64} {finishers : List (Nat × FinishError)}

/-- A watch whose cookie was cleared is not listed any more. -/
theorem Indexed.unlisted_of_cleared
    (indexed : Indexed r) (isCleared : r.cleared cookie)
    (found : r.byCookie.lookup cookie = some w) : ¬ r.Listed w := by
  rcases indexed.cleared cookie isCleared with ⟨v, below, same, retired⟩
  rcases indexed.cookies cookie w found with ⟨belowW, sameW⟩
  have equal : w = v := indexed.distinct w v belowW below (sameW.trans same.symm)
  rw [equal]
  exact retired.1

theorem alive_finish {err : FinishError} (alive : (r.finish sub err).Alive other) :
    r.Alive other ∧ other ≠ sub := by
  unfold finish at alive
  cases already : r.done sub with
  | some prior =>
    rw [already] at alive
    refine ⟨alive, ?_⟩
    rintro rfl
    have unfinished := alive.2
    rw [already] at unfinished
    cases unfinished
  | none =>
    rw [already] at alive
    have unfinished : update r.done sub (some err) other = none := alive.2
    have apart : other ≠ sub := by
      rintro rfl
      rw [update_self] at unfinished
      cases unfinished
    rw [update_of_ne apart] at unfinished
    exact ⟨⟨alive.1, unfinished⟩, apart⟩

theorem mem_collect (listed : r.Listed (r.target sub)) (mem : sub ∈ (r.watch (r.target sub)).subs) :
    sub ∈ r.collect := by
  refine mem_flatMap.mpr ⟨⟨(r.watch (r.target sub)).handle, r.target sub⟩, ?_, ?_⟩
  · exact mem_lookup_iff.mp listed
  · exact mem_append_left _ mem

variable (placed : Placed r)

include placed

/-- A step other than those of `Close`. -/
theorem Placed.keep
    (closed : t.closed = r.closed) (close : t.close = r.close)
    (closeReturned : t.closeReturned = r.closeReturned)
    (alive : r.closed → ∀ sub, t.Alive sub → r.Alive sub)
    (place : ∀ sub, t.Alive sub → (r.Alive sub → r.Place sub) → t.Place sub) : Placed t where
  place := by
    intro open_ sub isAlive
    rw [closed] at open_
    exact place sub isAlive (placed.place open_ sub)
  closing := by
    intro isClosed sub isAlive
    rw [closed] at isClosed
    rw [close]
    exact placed.closing isClosed sub (alive isClosed sub isAlive)
  idle := by
    rw [closed, close]
    exact placed.idle
  closed := by
    rw [closed, closeReturned]
    exact placed.closed
  returned := by
    rw [close, closeReturned]
    exact placed.returned

/-- A change that keeps watches and indices and makes nothing alive. -/
theorem Placed.mono
    (closed : t.closed = r.closed) (close : t.close = r.close)
    (closeReturned : t.closeReturned = r.closeReturned) (byHandle : t.byHandle = r.byHandle)
    (byCookie : t.byCookie = r.byCookie) (watch : t.watch = r.watch) (target : t.target = r.target)
    (alive : ∀ sub, t.Alive sub → r.Alive sub)
    (finishers :
      ∀ sub err, t.Alive sub → (sub, err) ∈ r.finishers → (sub, err) ∈ t.finishers) : Placed t := by
  have sameListed : t.Listed = r.Listed := by
    funext w
    unfold Listed
    rw [byHandle, watch]
  refine placed.keep closed close closeReturned (fun _ => alive) fun sub isAlive place => ?_
  refine (place (alive sub isAlive)).mono (by rw [target]) (by rw [watch])
    ?_ ?_ fun err => finishers sub err isAlive
  · rw [sameListed]
    exact fun listed _ => listed
  · rw [byCookie]
    exact fun found _ => found

theorem Placed.setPhase (tied : phase.attached → (r.phase sub).attached) :
    Placed (r.setPhase sub phase) :=
  placed.mono rfl rfl rfl rfl rfl rfl rfl (fun _ => alive_setPhase tied) fun _ _ _ => id

/-! ## Indices without a watch -/

/-- The subscriptions of a watch that is withdrawn go to a goroutine. -/
theorem Placed.withdraw
    (found : r.byCookie.lookup cookie = some w) (subs closingSubs : List Nat)
    (kept : ∀ entry ∈ r.finishers, entry ∈ finishers)
    (members : r.Listed w → ∀ sub ∈ (r.watch w).subs, ∃ err, (sub, err) ∈ finishers)
    (leaving : ∀ sub ∈ (r.watch w).closingSubs, ∃ err, (sub, err) ∈ finishers) :
    Placed (r.withdraw cookie w subs closingSubs finishers) := by
  refine placed.keep rfl rfl rfl (fun _ _ => id) fun sub alive place => ?_
  by_cases same : r.target sub = w
  · cases place alive with
    | listed listed mem =>
      rw [same] at listed mem
      rcases members listed sub mem with ⟨err, entry⟩
      exact .finishing err entry
    | clearing _ mem =>
      rw [same] at mem
      rcases leaving sub mem with ⟨err, entry⟩
      exact .finishing err entry
    | finishing err mem => exact .finishing err (kept _ mem)
  · have other := update_of_ne same
      { r.watch w with subs := subs, closingSubs := closingSubs } r.watch
    refine (place alive).mono rfl other ?_ (fun known _ => ?_) fun _ => kept _
    · intro listed _
      change (r.dropHandle w).byHandle.lookup
        (update r.watch w _ (r.target sub)).handle = some (r.target sub)
      rw [other, lookup_dropHandle]
      exact ⟨listed, same⟩
    · exact lookup_erase_of_ne known found same

theorem Placed.notifyDead (cookie : UInt64) : Placed (r.notifyDead cookie) := by
  cases found : r.byCookie.lookup cookie with
  | none =>
    unfold DeathRegistry.notifyDead
    rwa [found]
  | some w =>
    rw [notifyDead_eq found]
    refine placed.withdraw found [] [] (fun _ => mem_append_right _) ?_ ?_
    · exact fun _ sub mem =>
        ⟨.deadObject, mem_append_left _ (mem_map_of_mem (mem_append_left _ mem))⟩
    · exact fun sub mem =>
        ⟨.deadObject, mem_append_left _ (mem_map_of_mem (mem_append_right _ mem))⟩

theorem Placed.finishClearing (indexed : Indexed r) (isCleared : r.cleared cookie) :
    Placed (r.finishClearing cookie) := by
  cases found : r.byCookie.lookup cookie with
  | none =>
    unfold DeathRegistry.finishClearing
    rwa [found]
  | some w =>
    rw [finishClearing_eq found]
    refine placed.withdraw found _ [] (fun _ => mem_append_right _) ?_ ?_
    · exact fun listed => absurd listed (indexed.unlisted_of_cleared isCleared found)
    · exact fun sub mem => ⟨.none, mem_append_left _ (mem_map_of_mem mem)⟩

/-- A watch is rolled back that nobody else has joined. -/
theorem Placed.rollback (orderly : Orderly r (.rollback sub)) :
    Placed ((r.rollback (r.target sub)).setPhase sub .failed) := by
  rw [rollback_eq]
  refine placed.keep rfl rfl rfl (fun _ _ alive => (alive_of_failed alive).1) ?_
  intro other alive place
  rcases alive_of_failed alive with ⟨wasAlive, apart⟩
  refine (place wasAlive).mono rfl rfl ?_ ?_ fun _ => id
  · intro listed mem
    refine lookup_dropHandle.mpr ⟨listed, ?_⟩
    intro same
    rw [same] at mem
    exact apart (orderly other (.inl mem))
  · intro found mem
    refine lookup_dropCookie ?_ found
    intro same
    rw [same] at mem
    exact apart (orderly other (.inr mem))

/-- The subscription sets of a watch in `byCookie` change. -/
theorem Placed.setWatch
    {watch : DeathWatch} (sameHandle : watch.handle = (r.watch w).handle)
    (sameCookie : watch.cookie = (r.watch w).cookie)
    (found : r.byCookie.lookup (r.watch w).cookie = some w)
    (kept : ∀ entry ∈ r.finishers, entry ∈ finishers)
    (members : ∀ sub ∈ (r.watch w).subs,
        sub ∈ watch.subs ∨ sub ∈ watch.closingSubs ∨ ∃ err, (sub, err) ∈ finishers)
    (leaving : ∀ sub ∈ (r.watch w).closingSubs, sub ∈ watch.closingSubs) :
    Placed { r.setWatch w watch with finishers := finishers } := by
  have listedIff (v : Nat) :
      ({ r.setWatch w watch with finishers := finishers } : DeathRegistry).Listed v ↔
        r.Listed v := by
    unfold Listed
    rw [← handle_setWatch sameHandle v]
    exact .rfl
  refine placed.keep rfl rfl rfl (fun _ _ => id) fun sub alive place => ?_
  by_cases same : r.target sub = w
  · have now : update r.watch w watch (r.target sub) = watch := by
      rw [same, update_self]
    have inClosing (mem : sub ∈ watch.closingSubs) :
        Place { r.setWatch w watch with finishers := finishers } sub := by
      refine .clearing ?_ ?_
      · change r.byCookie.lookup (update r.watch w watch (r.target sub)).cookie =
          some (r.target sub)
        rwa [now, sameCookie, same]
      · change sub ∈ (update r.watch w watch (r.target sub)).closingSubs
        rwa [now]
    cases place alive with
    | listed listed mem =>
      rw [same] at mem
      rcases members sub mem with still | moved | ⟨err, entry⟩
      · refine .listed ((listedIff _).mpr listed) ?_
        change sub ∈ (update r.watch w watch (r.target sub)).subs
        rwa [now]
      · exact inClosing moved
      · exact .finishing err entry
    | clearing _ mem =>
      rw [same] at mem
      exact inClosing (leaving sub mem)
    | finishing err mem => exact .finishing err (kept _ mem)
  · exact (place alive).mono rfl (update_of_ne same _ _)
      (fun listed _ => (listedIff _).mpr listed) (fun known _ => known) fun _ => kept _

/-- A watch without subscriptions leaves `byHandle`. -/
theorem Placed.dropHandle (none : (r.watch w).subs = []) : Placed (r.dropHandle w) := by
  rw [dropHandle_eq]
  refine placed.keep rfl rfl rfl (fun _ _ => id) fun sub alive place => ?_
  refine (place alive).mono rfl rfl (fun listed mem => ?_) (fun found _ => found) fun _ => id
  refine lookup_dropHandle.mpr ⟨listed, ?_⟩
  intro same
  rw [same, none] at mem
  cases mem

theorem Placed.removeSub (indexed : Indexed r) (sub : Nat) : Placed (r.removeSub sub) := by
  unfold DeathRegistry.removeSub
  simp only []
  generalize r.target sub = w
  have divided (other : Nat) (mem : other ∈ (r.watch w).subs) :
      other = sub ∨ other ∈ (r.watch w).subs.filter fun other => other ≠ sub := by
    by_cases same : other = sub
    · exact .inl same
    · exact .inr (mem_filter.mpr ⟨mem, by simpa using same⟩)
  generalize (r.watch w).subs.filter (fun other => other ≠ sub) = kept at divided ⊢
  by_cases gone : r.byHandle.lookup (r.watch w).handle ≠ some w
  · rw [if_pos gone]
    exact placed.mono rfl rfl rfl rfl rfl rfl rfl (fun _ => id) fun _ _ _ => mem_cons_of_mem _
  · have paired := indexed.paired w (of_not_not gone)
    rw [if_neg gone]
    by_cases others : kept ≠ []
    · rw [if_pos others]
      refine placed.setWatch rfl rfl paired ?_ ?_ ?_
      · intro entry mem
        exact mem_cons_of_mem _ mem
      · intro other mem
        rcases divided other mem with rfl | still
        · exact .inr (.inr ⟨.none, mem_cons_self⟩)
        · exact .inl still
      · intro other mem
        exact mem
    · rw [if_neg others]
      have moved :
          Placed (r.setWatch w
            { r.watch w with
              subs := kept
              closingSubs := sub :: (r.watch w).closingSubs }) := by
        refine placed.setWatch (by rfl) (by rfl) paired (fun _ mem => mem) ?_ ?_
        · intro other mem
          rcases divided other mem with rfl | still
          · exact .inr (.inl mem_cons_self)
          · exact .inl still
        · intro other mem
          exact mem_cons_of_mem _ mem
      have dropped :=
        moved.dropHandle (w := w) (by rw [watch_setWatch, if_pos rfl]; exact of_not_not others)
      exact dropped.mono rfl rfl rfl rfl rfl rfl rfl (fun _ => id) fun _ _ _ => id

/-- A new subscription enters a listed watch. -/
theorem Placed.enter
    (idle : r.phase sub = .idle) (alive : r.closed = false)
    (listed : r.Listed w) (mem : sub ∈ (r.watch w).subs) :
    Placed ({ r with target := update r.target sub w }.setPhase sub phase) := by
  refine placed.keep rfl rfl rfl ?_ ?_
  · intro isClosed
    rw [alive] at isClosed
    cases isClosed
  · intro other isAlive place
    by_cases same : other = sub
    · subst same
      have aimed :
          ({ r with target := update r.target other w }.setPhase other phase).target other = w :=
        update_self _ _ _
      refine .listed ?_ ?_
      · rwa [aimed]
      · rwa [aimed]
    · have wasAlive : r.Alive other := by
        refine ⟨?_, isAlive.2⟩
        have attached := isAlive.1
        rwa [phase_setPhase, if_neg same] at attached
      exact (place wasAlive).mono (update_of_ne same _ _) rfl
        (fun listed _ => listed) (fun found _ => found) fun _ => id

/-- A handle without a watch gets a new one. -/
theorem Placed.grow
    {handle : UInt32} {subs : List Nat} (indexed : Indexed r)
    (none_ : r.byHandle.lookup handle = none) (noWrap : r.nextCookie.toNat + 1 < 2 ^ 64) :
    Placed (r.grow handle subs) := by
  have old {v : Nat} (below : v < r.watchCount) : (r.grow handle subs).watch v = r.watch v := by
    rw [watch_grow, if_neg (Nat.ne_of_lt below)]
  refine placed.keep rfl rfl rfl (fun _ _ => id) fun sub alive place => ?_
  have below := indexed.targets sub alive.1
  refine (place alive).mono rfl (old below) ?_ ?_ fun _ => id
  · intro listed _
    unfold Listed at listed ⊢
    rw [old below, lookup_grow]
    split_ifs with same
    · rw [same, none_] at listed
      cases listed
    · exact listed
  · intro found _
    rwa [lookupCookie_grow, if_neg (indexed.cookie_ne_next noWrap below)]

theorem Placed.attach
    {handle : UInt32} (indexed : Indexed r) (fresh : Fresh r (.attach handle sub))
    (idle : r.phase sub = .idle) : Placed (r.attach handle sub) := by
  unfold DeathRegistry.attach
  split_ifs with closed
  · exact placed.setPhase nofun
  · have alive : r.closed = false := by
      simpa using closed
    cases found : r.byHandle.lookup handle with
    | some w =>
      have handleIs := (indexed.handles handle w found).2
      have listed : r.Listed w := by
        unfold Listed
        rwa [handleIs]
      have added : Placed (r.setWatch w { r.watch w with subs := sub :: (r.watch w).subs }) :=
        placed.setWatch (by rfl) (by rfl) (indexed.paired w listed) (fun _ entry => entry)
          (fun other mem => .inl (mem_cons_of_mem _ mem))
          fun other mem => mem
      refine added.enter idle alive (listed_setWatch rfl listed) ?_
      rw [watch_setWatch, if_pos rfl]
      exact mem_cons_self
    | none =>
      have grown : Placed (r.grow handle [sub]) := placed.grow indexed found (fresh found)
      refine grown.enter idle alive (listed_grow r handle [sub]) ?_
      rw [watch_grow, if_pos rfl]
      exact mem_cons_self

/-- A goroutine finishes a subscription. -/
theorem Placed.finish (sub : Nat) (err : FinishError) :
    Placed
      { r.finish sub err with finishers := r.finishers.erase (sub, err) } := by
  have alive {other : Nat} (isAlive : (r.finish sub err).Alive other) :
      r.Alive other ∧ other ≠ sub :=
    alive_finish isAlive
  rcases exists_finish r sub err with ⟨done, ended⟩
  rw [ended] at alive ⊢
  refine placed.mono rfl rfl rfl rfl rfl rfl rfl (fun _ isAlive => (alive isAlive).1) ?_
  intro other otherErr isAlive entry
  refine (mem_erase_of_ne ?_).mpr entry
  intro same
  exact (alive isAlive).2 (congrArg Prod.fst same)

/-! ## The steps of `Close` -/

/-- `Close` collects every subscription that is not finished. -/
theorem Placed.closeRegistry (orderly : Orderly r .close) (alive : r.closed = false) :
    Placed r.closeRegistry where
  place := by rintro ⟨⟩
  closing := by
    intro _ sub isAlive
    refine ⟨r.collect, rfl, ?_⟩
    cases placed.place alive sub isAlive with
    | listed listed mem => exact mem_collect listed mem
    | clearing found mem => exact absurd isAlive.2 (orderly.1 _ _ sub found mem)
    | finishing err entry => exact absurd isAlive.2 (orderly.2 sub err entry)
  idle := by rintro ⟨⟩
  closed := fun _ => rfl
  returned := by
    intro returned
    have closed := placed.closed returned
    rw [alive] at closed
    cases closed

/-- `Close` finishes one of the subscriptions it has collected. -/
theorem Placed.closeFinish {rest : List Nat} (progress : r.close = .finishing (sub :: rest)) :
    Placed { r.finish sub .none with close := .finishing rest } := by
  have alive {other : Nat} (isAlive : (r.finish sub .none).Alive other) :
      r.Alive other ∧ other ≠ sub :=
    alive_finish isAlive
  rcases exists_finish r sub .none with ⟨done, ended⟩
  rw [ended] at alive ⊢
  exact { placed with
    place := fun open_ other isAlive =>
      (placed.place open_ other (alive isAlive).1).mono rfl rfl
        (fun listed _ => listed) (fun found _ => found) fun _ => id
    closing := by
      intro closed other isAlive
      rcases alive isAlive with ⟨wasAlive, apart⟩
      rcases placed.closing closed other wasAlive with ⟨subs, same, mem⟩
      rw [progress] at same
      cases same
      rcases mem_cons.mp mem with head | inRest
      · exact absurd head apart
      · exact ⟨rest, rfl, inRest⟩
    idle := by
      intro open_
      have idle := placed.idle open_
      rw [progress] at idle
      cases idle
    returned := by
      intro returned
      rcases placed.returned returned with empty | finishedAll
      · rw [progress] at empty
        cases empty
      · rw [progress] at finishedAll
        cases finishedAll }

theorem Placed.noneAlive
    (closed : r.closed) (ended : r.close = .finishing [] ∨ r.close = .returned) (sub : Nat) :
    ¬ r.Alive sub := by
  intro alive
  rcases placed.closing closed sub alive with ⟨subs, same, mem⟩
  rcases ended with empty | returned
  · rw [empty] at same
    cases same
    cases mem
  · rw [returned] at same
    cases same

theorem Placed.closed_of_finishing {subs : List Nat} (progress : r.close = .finishing subs) :
    r.closed := by
  rw [← Bool.not_eq_false]
  intro alive
  have idle := placed.idle alive
  rw [progress] at idle
  cases idle

/-- A call of `Close` returns after everything was finished. -/
theorem Placed.closeReturn
    {close : ClosePhase} (closed : r.closed) (ended : r.close = .finishing [] ∨ r.close = .returned)
    (now : close = .finishing [] ∨ close = .returned) :
    Placed { r with close := close, closeReturned := true } where
  place := fun alive => by cases closed.symm.trans alive
  closing := by
    intro _ sub isAlive
    exact absurd isAlive (placed.noneAlive closed ended sub)
  idle := fun alive => by cases closed.symm.trans alive
  closed := fun _ => closed
  returned := fun _ => now

end Changes

/-! ## Whole runs -/

/-- Every orderly step keeps the invariant. -/
theorem Placed.step
    {r t : DeathRegistry} {label : DeathLabel} (placed : Placed r) (indexed : Indexed r)
    (orderly : Orderly r label) (ran : deathStep r label = some t) : Placed t := by
  revert ran
  fun_cases deathStep r label <;> rintro ⟨⟩
  · exact placed.setPhase (by rintro ⟨⟩)
  · next idle => exact placed.attach indexed orderly idle
  · next sub asks =>
      have logged :
          Placed
            { r with granted := update r.granted (r.watch (r.target sub)).cookie true } :=
        placed.mono rfl rfl rfl rfl rfl rfl rfl (fun _ => id) fun _ _ _ => id
      refine logged.setPhase ?_
      intro _
      change (r.phase sub).attached
      rw [asks]
      rfl
  · next asks => exact placed.setPhase fun _ => by rw [asks]; rfl
  · exact placed.rollback orderly
  · next ready =>
      refine placed.setPhase ?_
      intro _
      rcases ready with granted | joined
      · rw [granted]
        rfl
      · rw [joined]
        rfl
  · exact (placed.removeSub indexed _).mono rfl rfl rfl rfl rfl rfl rfl (fun _ => id)
      fun _ _ _ => id
  · exact placed.finish _ _
  · exact placed.mono rfl rfl rfl rfl rfl rfl rfl (fun _ => id) fun _ _ _ => id
  · next isCleared => exact placed.finishClearing indexed isCleared
  · exact placed.notifyDead _
  · next isCleared => exact placed.finishClearing indexed isCleared
  · next notClosed =>
      exact placed.closeRegistry orderly (Bool.eq_false_iff.mpr notClosed)
  · next progress => exact placed.closeFinish progress
  · next progress =>
      exact placed.closeReturn (placed.closed_of_finishing progress) (.inl progress) (.inr rfl)
  · next closed => exact placed.closeReturn closed orderly orderly

/--
In every state of an orderly run in which a call of `Close` has returned,
every subscription that `Watch` returned is finished.
-/
theorem orderly_close_finishes_subscriptions
    {r : DeathRegistry} (reaches : deaths.Reaches Orderly r) (closeReturned : r.closeReturned)
    {sub : Nat} (returned : r.phase sub = .returned) : r.done sub ≠ none := by
  have invariant : Indexed r ∧ Placed r := by
    refine @System.Reaches.invariant _ _ _ _
      (fun state => Indexed state ∧ Placed state) ?_ ?_ r reaches
    · exact ⟨.init, .init⟩
    · rintro state label next ⟨indexed, placed⟩ orderly stepped
      exact ⟨indexed.step orderly.fresh stepped, placed.step indexed orderly stepped⟩
  rcases invariant with ⟨_, placed⟩
  intro unfinished
  refine placed.noneAlive (placed.closed closeReturned)
    (placed.returned closeReturned) sub ⟨?_, unfinished⟩
  rw [returned]
  rfl

/-- A subscription is returned and the registry is closed. -/
def closedRun : List DeathLabel :=
  [.attach 5 0, .grant 0, .return_ 0, .close, .closeFinish, .closeReturn]

theorem closedRun_meets : deaths.Meets Orderly closedRun .init := by
  refine ⟨fun _ => (by decide : (0 : UInt64).toNat + 1 < 2 ^ 64), ?_⟩
  rintro _ ⟨⟩
  refine ⟨trivial, ?_⟩
  rintro _ ⟨⟩
  refine ⟨trivial, ?_⟩
  rintro _ ⟨⟩
  refine ⟨⟨?_, nofun⟩, ?_⟩
  · intro cookie w sub found mem
    have known : ((∅ : AList fun _ : UInt64 => Nat).insert 1 0).lookup cookie = some w := found
    have isFirst : w = 0 := by
      by_cases same : cookie = 1
      · rw [same, lookup_insert] at known
        exact (Option.some.inj known).symm
      · rw [lookup_insert_ne same] at known
        cases known
    subst isFirst
    cases mem
  rintro _ ⟨⟩
  refine ⟨trivial, ?_⟩
  rintro _ ⟨⟩
  refine ⟨trivial, ?_⟩
  intro _ _
  trivial

theorem orderly_close_finishes_subscriptions_single :
    ∃ r : DeathRegistry,
      deaths.run closedRun DeathRegistry.init = some r ∧
        r.closeReturned ∧ r.phase 0 = .returned ∧
        r.done 0 ≠ none := by
  refine ⟨_, rfl, rfl, rfl, ?_⟩
  exact orderly_close_finishes_subscriptions
    (System.Reaches.start.of_run closedRun_meets rfl) rfl rfl

/--
The last subscription of a watch is closed and waits for the clear when
`Close` is called.
-/
def orphanRun : List DeathLabel :=
  [.attach 5 0, .grant 0, .return_ 0, .closeSub 0, .issueClear 0, .close, .closeReturn]

/--
`Close` returns, the subscription is not finished, and no later clear-done or
death notification for its cookie changes anything.
-/
theorem close_orphans_clearing_subscription :
    ∃ r : DeathRegistry,
      deaths.run orphanRun DeathRegistry.init = some r ∧
        r.closeReturned ∧ r.phase 0 = .returned ∧
        r.done 0 = none ∧
        deaths.step r (.notifyCleared 1) = some r ∧
        deaths.step r (.notifyDead 1) = some r :=
  ⟨_, rfl, rfl, rfl, rfl, rfl, rfl⟩

end DeathRegistry

end Libbinder.Kernel
