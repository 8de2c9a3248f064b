import Libbinder.Rpc.Deaths

/-!
# Nothing alive is lost

Every proxy that is not marked dead is in the table or in the hands of the
goroutine that is about to mark it, and every unfinished subscription a
`WatchDeath` call has returned is in the table or in the hands of the
goroutine that is about to finish it.  This holds in every run.
-/

namespace Libbinder.Rpc.Deaths

open Go List Function AList

variable {s reached : Deaths}

/-- Somebody can still mark the proxy dead. -/
def AwaitsDeath (s : Deaths) (o : Nat) : Prop :=
  s.imports.lookup (s.handle o) = some o ∨ s.obituary.inHand = some o ∨
    o ∈ s.draining.toMark ∨ s.handle o = rpcServerServiceManagerHandle

/-- Somebody can still finish the subscription. -/
def AwaitsFinish (s : Deaths) (handle : UInt32) (w : Nat) : Prop :=
  (handle, w) ∈ s.deathWatches ∨ w ∈ s.obituary.toFinish ∨ w ∈ s.draining.toFinish

/-- The proxies: those in the table are what it says, those alive are kept. -/
structure ProxiesKept (s : Deaths) : Prop where
  imported : ∀ handle o, s.imports.lookup handle = some o → o < s.made ∧ s.handle o = handle
  alive : ∀ o < s.made, s.dead o = false → s.AwaitsDeath o

/-- The subscriptions that are neither finished nor being closed are kept. -/
def SubscriptionsKept (s : Deaths) : Prop :=
  ∀ w handle, s.watch w = .returned handle → s.closing w = false →
    s.done w = none → s.AwaitsFinish handle w

/-! ## What a step does -/

/-- `finish` of a subscription has set its error, if it had none. -/
structure Finishes (s : Deaths) (w : Nat)
    (done : Nat → Option (Option Sentinel)) : Prop where
  finished : (done w).isSome
  others : ∀ v, v ≠ w → done v = s.done v

theorem finish_map_spec
    {w : Nat} {next : Deaths → Deaths} (ended : (s.finish w).map next = some reached) :
    ∃ done, reached = next { s with done := done } ∧ Finishes s w done := by
  unfold finish at ended
  split_ifs at ended with closing already
  · cases ended
  · cases ended
    exact ⟨s.done, rfl, already, fun _ _ => rfl⟩
  · cases ended
    refine ⟨_, rfl, ?_, ?_⟩
    · rw [update_self]
      rfl
    · intro v apart
      rw [update_of_ne apart]

/-- The outcomes of the actions. -/
inductive Moves (s : Deaths) : DeathAction → Deaths → Prop where
  | resolve (handle : UInt32) : Moves s (.resolve handle) (s.remoteBinder handle)
  | closeBinder (o : Nat) : Moves s (.closeBinder o) { s with shut := update s.shut o true }
  | watchDeath (w o : Nat) (idle : s.watch w = .idle) :
      Moves s (.watchDeath w o) (s.setWatch w (.created (s.handle o)))
  | openSeen (w : Nat) (handle : UInt32) (created : s.watch w = .created handle) :
      Moves s (.checkClosed w) (s.setWatch w (.checked handle))
  | closedSeen (w : Nat) (handle : UInt32)
      (created : s.watch w = .created handle)
      (done : Nat → Option (Option Sentinel)) (finishes : Finishes s w done) :
      Moves s (.checkClosed w) ({ s with done := done }.setWatch w (.returned handle))
  | insertWatch (w : Nat) (handle : UInt32)
      (checked : s.watch w = .checked handle) :
      Moves s (.insertWatch w)
        { s.setWatch w (.returned handle) with deathWatches := (handle, w) :: s.deathWatches }
  | closeSub (w : Nat) (handle : UInt32) :
      Moves s (.closeSub w)
        { s with
          deathWatches := s.deathWatches.filter fun entry => entry ≠ (handle, w)
          closing := update s.closing w true }
  | subClosed (w : Nat) :
      Moves s (.subClosed w)
        { s with
          closing := update s.closing w false
          done := update s.done w (some none) }
  | nullObituary : Moves s (.obituary 0) s
  | obituary (handle : UInt32) (idle : s.obituary = .idle)
      (foreign : handle ≠ rpcServerServiceManagerHandle) :
      Moves s (.obituary handle)
        { s with
          obituary := .taken handle (s.imports.lookup handle)
          imports := s.imports.erase handle
          begun := handle :: s.begun }
  | markNone (handle : UInt32) (taken : s.obituary = .taken handle none) :
      Moves s .markDead { s with obituary := .marked handle }
  | markDead (handle : UInt32) (o : Nat)
      (taken : s.obituary = .taken handle (some o)) :
      Moves s .markDead { s.markDead o with obituary := .marked handle }
  | takeWatches (handle : UInt32) (marked : s.obituary = .marked handle) :
      Moves s .takeWatches
        { s with
          obituary := .finishing handle
            ((s.deathWatches.filter fun entry => entry.1 = handle).map Prod.snd)
          deathWatches := s.deathWatches.filter fun entry => entry.1 ≠ handle
          swept := handle :: s.swept }
  | finishTaken (handle : UInt32) (w : Nat) (rest : List Nat)
      (finishing : s.obituary = .finishing handle (w :: rest))
      (done : Nat → Option (Option Sentinel)) (finishes : Finishes s w done) :
      Moves s .finishTaken { s with done := done, obituary := .finishing handle rest }
  | processed (handle : UInt32) (finishing : s.obituary = .finishing handle []) :
      Moves s .processed { s with obituary := .idle, processed := handle :: s.processed }
  | swapImports (running : s.draining = .running) :
      Moves s .swapImports
        { s with
          draining := .marking (s.imports.entries.map Sigma.snd)
          imports := ∅ }
  | markSwapped (o : Nat) (rest : List Nat)
      (marking : s.draining = .marking (o :: rest)) :
      Moves s .markSwapped { s.markDead o with draining := .marking rest }
  | swapWatches (marking : s.draining = .marking []) :
      Moves s .swapWatches
        { s with
          draining := .finishing (s.deathWatches.map Prod.snd)
          deathWatches := [] }
  | finishSwapped (w : Nat) (rest : List Nat)
      (finishing : s.draining = .finishing (w :: rest))
      (done : Nat → Option (Option Sentinel)) (finishes : Finishes s w done) :
      Moves s .finishSwapped { s with done := done, draining := .finishing rest }
  | drained (finishing : s.draining = .finishing []) :
      Moves s .drained { s with draining := .drained }
  | closeConn (drained : s.draining = .drained) : Moves s .closeConn { s with draining := .closed }

variable {action : DeathAction}

theorem moves_of_step (ran : s.step action = some reached) : Moves s action reached := by
  revert ran
  fun_cases step s action <;> intro ran <;> try cases ran
  · exact .resolve _
  · exact .closeBinder _
  · next valid => exact .watchDeath _ _ valid.1
  · next created _ =>
      rcases finish_map_spec ran with ⟨done, rfl, finishes⟩
      exact .closedSeen _ _ created done finishes
  · next created _ => exact .openSeen _ _ created
  · next checked => exact .insertWatch _ _ checked
  · exact .closeSub _ _
  · exact .subClosed _
  · exact .nullObituary
  · next valid _ => exact .obituary _ valid.1 valid.2
  · next taken => exact .markNone _ taken
  · next taken => exact .markDead _ _ taken
  · next marked => exact .takeWatches _ marked
  · next ending =>
      rcases finish_map_spec ran with ⟨done, rfl, finishes⟩
      exact .finishTaken _ _ _ ending done finishes
  · next ending => exact .processed _ ending
  · next runs => exact .swapImports runs
  · next marking => exact .markSwapped _ _ marking
  · next marking => exact .swapWatches marking
  · next ending =>
      rcases finish_map_spec ran with ⟨done, rfl, finishes⟩
      exact .finishSwapped _ _ ending done finishes
  · next ending => exact .drained ending
  · next drained => exact .closeConn drained

/-! ## Proxies -/

section

variable (kept : ProxiesKept s)

include kept

theorem ProxiesKept.remoteBinder (handle : UInt32) : ProxiesKept (s.remoteBinder handle) := by
  unfold Deaths.remoteBinder
  split
  · exact kept
  · rename_i absent
    refine ⟨?_, ?_⟩
    · intro other o found
      simp only at found ⊢
      by_cases same : other = handle
      · subst same
        rw [lookup_insert] at found
        cases found
        simp
      · rw [lookup_insert_ne same] at found
        rcases kept.imported other o found with ⟨known, named⟩
        refine ⟨by omega, ?_⟩
        rwa [update_of_ne (by omega)]
    · intro o below alive
      simp only [AwaitsDeath] at below alive ⊢
      by_cases same : o = s.made
      · subst same
        left
        rw [update_self, lookup_insert]
      · rw [update_of_ne same] at alive ⊢
        rcases kept.alive o (by omega) alive with found | rest
        · left
          rw [lookup_insert_ne]
          · exact found
          · intro clash
            rw [clash, absent] at found
            cases found
        · exact .inr rest

/-- Only the table, the flags and what is in hand play a part. -/
theorem ProxiesKept.of_same
    (imports : reached.imports = s.imports) (made : reached.made = s.made)
    (handle : reached.handle = s.handle) (dead : reached.dead = s.dead)
    (inHand : reached.obituary.inHand = s.obituary.inHand)
    (toMark : reached.draining.toMark = s.draining.toMark) : ProxiesKept reached where
  imported := by
    rw [imports, made, handle]
    exact kept.imported
  alive := by
    intro o below alive
    rw [made] at below
    rw [dead] at alive
    have awaits := kept.alive o below alive
    unfold AwaitsDeath at awaits ⊢
    rwa [imports, handle, inHand, toMark]

/-- A proxy is marked and is no longer in hand; the others are kept. -/
theorem ProxiesKept.markDead
    {o : Nat} (obituary : Obituary) (draining : Draining)
    (others : ∀ p, p ≠ o → s.AwaitsDeath p →
        { s with obituary := obituary, draining := draining }.AwaitsDeath p) :
    ProxiesKept { s.markDead o with obituary := obituary, draining := draining } where
  imported := kept.imported
  alive := by
    intro p below alive
    change update s.dead o true p = false at alive
    by_cases same : p = o
    · subst same
      rw [update_self] at alive
      cases alive
    · rw [update_of_ne same] at alive
      exact others p same (kept.alive p below alive)

/-- The obituary takes the proxy of its handle out of the table. -/
theorem ProxiesKept.obituary (idle : s.obituary = .idle) (handle : UInt32) (begun : List UInt32) :
    ProxiesKept { s with
      obituary := .taken handle (s.imports.lookup handle)
      imports := s.imports.erase handle
      begun := begun } where
  imported := by
    intro other o found
    by_cases same : other = handle
    · rw [same, lookup_erase] at found
      cases found
    · rw [lookup_erase_ne same] at found
      exact kept.imported other o found
  alive := by
    intro o below alive
    rcases kept.alive o below alive with found | inHand | rest
    · by_cases same : s.handle o = handle
      · right
        left
        rwa [same] at found
      · left
        change (s.imports.erase handle).lookup (s.handle o) = some o
        rwa [lookup_erase_ne same]
    · rw [idle] at inHand
      cases inHand
    · exact .inr (.inr rest)

/-- The shutdown takes all proxies out of the table. -/
theorem ProxiesKept.swapImports (runs : s.draining = .running) :
    ProxiesKept { s with
      draining := .marking (s.imports.entries.map Sigma.snd)
      imports := ∅ } where
  imported := by rintro _ _ ⟨⟩
  alive := by
    intro o below alive
    rcases kept.alive o below alive with found | inHand | toMark | manager
    · right
      right
      left
      have member := mem_lookup_iff.mp found
      exact mem_map_of_mem member
    · exact .inr (.inl inHand)
    · rw [runs] at toMark
      cases toMark
    · exact .inr (.inr (.inr manager))

/-- No step loses a live proxy. -/
theorem ProxiesKept.step (ran : s.step action = some reached) : ProxiesKept reached := by
  cases moves_of_step ran with
  | resolve handle => exact kept.remoteBinder handle
  | closeBinder | watchDeath | openSeen | closedSeen | insertWatch | closeSub
  | subClosed => exact ⟨kept.imported, kept.alive⟩
  | nullObituary => exact kept
  | obituary handle idle foreign => exact kept.obituary idle handle _
  | markNone _ now | takeWatches _ now | finishTaken _ _ _ now
  | processed _ now => exact kept.of_same rfl rfl rfl rfl (by rw [now]; rfl) rfl
  | markDead handle o taken =>
    refine kept.markDead _ _ ?_
    rintro p apart (found | inHand | rest)
    · exact .inl found
    · rw [taken] at inHand
      exact absurd (Option.some.inj inHand).symm apart
    · exact .inr (.inr rest)
  | swapImports runs => exact kept.swapImports runs
  | markSwapped o rest marking =>
    refine kept.markDead _ _ ?_
    rintro p apart (found | inHand | toMark | manager)
    · exact .inl found
    · exact .inr (.inl inHand)
    · rw [marking] at toMark
      rcases mem_cons.mp toMark with same | later
      · exact absurd same apart
      · exact .inr (.inr (.inl later))
    · exact .inr (.inr (.inr manager))
  | swapWatches now | finishSwapped _ _ now | drained now
  | closeConn now => exact kept.of_same rfl rfl rfl rfl rfl (by rw [now]; rfl)

end

variable {allowed : Deaths → DeathAction → Prop}

theorem ProxiesKept.of_reaches {role : Role} (path : (deaths role).Reaches allowed s) :
    ProxiesKept s := by
  refine path.invariant ?_ ?_
  · refine ⟨?_, ?_⟩
    · rintro _ _ ⟨⟩
    · intro o below alive
      exact .inr (.inr (.inr rfl))
  · intro state action next kept _ ran
    exact kept.step ran

/-! ## Subscriptions -/

variable (kept : SubscriptionsKept s)

include kept

/-- The subscriptions are as before and those awaited are still awaited. -/
theorem SubscriptionsKept.of_awaits
    (watch : reached.watch = s.watch)
    (closing : reached.closing = s.closing) (done : reached.done = s.done)
    (awaits : ∀ w handle, s.AwaitsFinish handle w → reached.AwaitsFinish handle w) :
    SubscriptionsKept reached := by
  intro w handle ran active still
  rw [watch] at ran
  rw [closing] at active
  rw [done] at still
  exact awaits w handle (kept w handle ran active still)

/-- Only the table, the subscriptions and what is in hand play a part. -/
theorem SubscriptionsKept.of_same
    (watch : reached.watch = s.watch) (closing : reached.closing = s.closing)
    (done : reached.done = s.done) (watches : reached.deathWatches = s.deathWatches)
    (taken : reached.obituary.toFinish = s.obituary.toFinish)
    (turned : reached.draining.toFinish = s.draining.toFinish) : SubscriptionsKept reached := by
  refine kept.of_awaits watch closing done ?_
  intro w handle awaits
  unfold AwaitsFinish
  rwa [watches, taken, turned]

/-- All subscriptions but one are as before. -/
theorem SubscriptionsKept.of_others
    {w : Nat}
    (one : ∀ handle, reached.watch w = .returned handle →
        reached.closing w = false → reached.done w = none →
        reached.AwaitsFinish handle w)
    (others : ∀ v, v ≠ w → reached.watch v = s.watch v ∧
        reached.closing v = s.closing v ∧ reached.done v = s.done v)
    (awaits : ∀ v, v ≠ w → ∀ handle, s.AwaitsFinish handle v →
        reached.AwaitsFinish handle v) : SubscriptionsKept reached := by
  intro v handle ran active still
  by_cases same : v = w
  · subst same
    exact one handle ran active still
  · rcases others v same with ⟨watch, closing, done⟩
    rw [watch] at ran
    rw [closing] at active
    rw [done] at still
    exact awaits v same handle (kept v handle ran active still)

/-- A `WatchDeath` call goes on without returning. -/
theorem SubscriptionsKept.setWatch
    (w : Nat) {phase : WatchPhase} (runs : ∀ handle, phase ≠ .returned handle) :
    SubscriptionsKept (s.setWatch w phase) := by
  refine kept.of_others (w := w) ?_ ?_ ?_
  · intro handle ran
    change update s.watch w phase w = _ at ran
    rw [update_self] at ran
    exact absurd ran (runs handle)
  · intro v apart
    exact ⟨update_of_ne apart _ _, rfl, rfl⟩
  · intro v _ handle awaits
    exact awaits

/-- A subscription is finished and may leave the list it was taken from. -/
theorem SubscriptionsKept.finish
    {w : Nat} {done : Nat → Option (Option Sentinel)} {watch : Nat → WatchPhase}
    (finishes : Finishes s w done) (obituary : Obituary)
    (draining : Draining) (runs : ∀ v, v ≠ w → watch v = s.watch v)
    (awaits : ∀ v, v ≠ w → ∀ handle, s.AwaitsFinish handle v →
        { s with obituary := obituary, draining := draining }.AwaitsFinish handle v) :
    SubscriptionsKept { s with
      watch := watch, done := done, obituary := obituary,
      draining := draining } := by
  refine kept.of_others (w := w) ?_ ?_ awaits
  · intro handle _ _ still
    have finished := finishes.finished
    change done w = none at still
    rw [still] at finished
    cases finished
  · intro v apart
    exact ⟨runs v apart, rfl, finishes.others v apart⟩

theorem SubscriptionsKept.remoteBinder (handle : UInt32) :
    SubscriptionsKept (s.remoteBinder handle) := by
  unfold Deaths.remoteBinder
  split <;> exact kept

/-- No step loses a subscription. -/
theorem SubscriptionsKept.step (ran : s.step action = some reached) :
    SubscriptionsKept reached := by
  cases moves_of_step ran with
  | resolve handle => exact kept.remoteBinder handle
  | closeBinder | nullObituary => exact kept
  | watchDeath w | openSeen w =>
    refine kept.setWatch w ?_
    rintro handle ⟨⟩
  | closedSeen w handle created done finishes =>
    refine kept.finish finishes _ _ ?_ ?_
    · intro v apart
      exact update_of_ne apart _ _
    · intro v _ other awaits
      exact awaits
  | insertWatch w handle checked =>
    refine kept.of_others (w := w) ?_ ?_ ?_
    · intro other got _ _
      change update s.watch w (.returned handle) w = _ at got
      rw [update_self] at got
      cases got
      exact .inl mem_cons_self
    · intro v apart
      exact ⟨update_of_ne apart _ _, rfl, rfl⟩
    · rintro v _ other (mem | rest)
      · exact .inl (mem_cons_of_mem _ mem)
      · exact .inr rest
  | closeSub w handle =>
    refine kept.of_others (w := w) ?_ ?_ ?_
    · intro other _ active
      change update s.closing w true w = false at active
      rw [update_self] at active
      cases active
    · intro v apart
      exact ⟨rfl, update_of_ne apart _ _, rfl⟩
    · rintro v apart other (mem | rest)
      · left
        refine mem_filter.mpr ⟨mem, ?_⟩
        simp [apart]
      · exact .inr rest
  | subClosed w =>
    refine kept.of_others (w := w) ?_ ?_ ?_
    · intro other _ _ still
      change update s.done w (some none) w = none at still
      rw [update_self] at still
      cases still
    · intro v apart
      exact ⟨rfl, update_of_ne apart _ _, update_of_ne apart _ _⟩
    · intro v _ other awaits
      exact awaits
  | obituary _ now | markNone _ now | markDead _ _ now
  | processed _ now => exact kept.of_same rfl rfl rfl rfl (by rw [now]; rfl) rfl
  | takeWatches handle marked =>
    refine kept.of_awaits rfl rfl rfl ?_
    rintro w other (mem | inHand | rest)
    · by_cases same : other = handle
      · subst same
        right
        left
        refine mem_map.mpr ⟨(other, w), ?_, rfl⟩
        exact mem_filter.mpr ⟨mem, by simp⟩
      · left
        exact mem_filter.mpr ⟨mem, by simp [same]⟩
    · rw [marked] at inHand
      cases inHand
    · exact .inr (.inr rest)
  | finishTaken handle w rest ending done finishes =>
    refine kept.finish finishes _ _ (fun _ _ => rfl) ?_
    rintro v apart other (mem | inHand | later)
    · exact .inl mem
    · rw [ending] at inHand
      rcases mem_cons.mp inHand with same | remaining
      · exact absurd same apart
      · exact .inr (.inl remaining)
    · exact .inr (.inr later)
  | swapImports now | markSwapped _ _ now | drained now
  | closeConn now => exact kept.of_same rfl rfl rfl rfl rfl (by rw [now]; rfl)
  | swapWatches marking =>
    refine kept.of_awaits rfl rfl rfl ?_
    rintro w other (mem | inHand | later)
    · exact .inr (.inr (mem_map_of_mem mem))
    · exact .inr (.inl inHand)
    · rw [marking] at later
      cases later
  | finishSwapped w rest ending done finishes =>
    refine kept.finish finishes _ _ (fun _ _ => rfl) ?_
    rintro v apart other (mem | inHand | later)
    · exact .inl mem
    · exact .inr (.inl inHand)
    · rw [ending] at later
      rcases mem_cons.mp later with same | remaining
      · exact absurd same apart
      · exact .inr (.inr remaining)

omit kept

theorem SubscriptionsKept.of_reaches {role : Role} (path : (deaths role).Reaches allowed s) :
    SubscriptionsKept s := by
  refine path.invariant ?_ ?_
  · rintro _ _ ⟨⟩
  · intro state action next kept _ ran
    exact kept.step ran

end Libbinder.Rpc.Deaths
