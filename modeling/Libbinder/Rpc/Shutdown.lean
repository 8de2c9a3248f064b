import Libbinder.Rpc.Requests
import Libbinder.Rpc.Tracking

/-!
# Shutdown of a connection

Calls and death subscriptions share one `closed` channel.  `shutdown` drains
the proxies and subscriptions, then closes the connection and the channel, and
then takes the pending calls.  A call that registers its channel after that
cannot write its frame and takes its entry out again.  A `WatchDeath` call that
looked at the `closed` channel before has no such second look: its subscription
stays in the table.
-/

namespace Libbinder.Rpc

open Go Function Requests

/-- The calls and the subscriptions of one connection. -/
structure Connection (β : Type) where
  calls : State β
  deaths : Deaths

/-- An action of a call, of a subscription or proxy, or the closing of both. -/
inductive ConnectionAction (β : Type) where
  | call (label : Label β)
  | death (action : DeathAction)
  | closeConn

namespace Connection

variable {β : Type}

def init (role : Role) : Connection β where
  calls := .init
  deaths := .init role

/-- The connection is closed for both at once, when `shutdown` gets there. -/
def step (s : Connection β) : ConnectionAction β → Option (Connection β)
  | .call .closeConn => none
  | .call label => (Rpc.step s.calls label).map fun calls => { s with calls := calls }
  | .death .closeConn => none
  | .death action => (s.deaths.step action).map fun deaths => { s with deaths := deaths }
  | .closeConn =>
    match Rpc.step s.calls .closeConn, s.deaths.step .closeConn with
    | some calls, some deaths => some ⟨calls, deaths⟩
    | _, _ => none

end Connection

/-- All runs of one connection. -/
def connection (β : Type) (role : Role) : System (Connection β) (ConnectionAction β) where
  init := .init role
  step := Connection.step

/-! ## Calls -/

section Calls

variable {β : Type} {s t : State β}

/-- The call has registered its channel and has not written its frame. -/
def Phase.unsent : Phase β → Bool
  | .ready _ false => true
  | .failed _ => true
  | _ => false

/-- The pending calls were taken. -/
def Shutdown.swapped : Shutdown → Bool
  | .closing _ => true
  | _ => false

/-- After the pending calls were taken, only unsent calls have entries. -/
def OnlyUnsent (s : State β) : Prop :=
  s.shutdown.swapped → ∀ id c, (id, c) ∈ s.pending → (s.phase c).unsent

theorem OnlyUnsent.setPhase
    {c : Nat} {phase : Phase β} (only : OnlyUnsent s)
    (keeps : s.shutdown.swapped → (s.phase c).unsent →
        phase.unsent) : OnlyUnsent (s.setPhase c phase) := by
  intro turned id d mem
  have before := only turned id d mem
  rw [phase_setPhase]
  split_ifs with same
  · subst same
    exact keeps turned before
  · exact before

theorem OnlyUnsent.of_fewer
    (only : OnlyUnsent s) (shutdown : t.shutdown.swapped → s.shutdown.swapped)
    (phase : t.phase = s.phase) (pending : ∀ entry ∈ t.pending, entry ∈ s.pending) :
    OnlyUnsent t := by
  intro turned id c mem
  rw [phase]
  exact only (shutdown turned) id c (pending _ mem)

theorem OnlyUnsent.closeChannel (only : OnlyUnsent s) (channel : Option Nat) :
    OnlyUnsent (s.closeChannel channel) := by
  cases channel with
  | none | some => exact only

/-- A call that failed to write takes its own entry out. -/
theorem Requests.not_mem_clearPending
    {c frame : Nat} (requests : Requests s) (now : s.phase c = .failed frame) (id : UInt64) :
    (id, c) ∉ (s.clearPending (s.frameId frame)).1.pending := by
  intro mem
  have given := requests.labelled_of now rfl rfl
  have nonzero := (requests.bounded c _ given).1
  rw [State.clearPending, if_neg nonzero] at mem
  rcases List.mem_filter.mp mem with ⟨stored, apart⟩
  have own := (requests.entries id c stored).1
  rw [given] at own
  cases own
  simp at apart

theorem OnlyUnsent.step
    {label : Label β} (only : OnlyUnsent s) (requests : Requests s)
    (ran : Rpc.step s label = some t) : OnlyUnsent t := by
  cases acts_of_step ran with
  | start _ _ now | refuse _ now | registerOneway _ _ now
  | receiveClosed _ _ now | giveUp _ _ _ now =>
    exact only.setPhase (by simp [now, Phase.unsent])
  | getFrame _ _ _ now | number _ _ _ now | putFailed _ _ now
  | putOneway _ _ now | putSent _ _ now
  | receiveReply _ _ _ now =>
    exact (only.setPhase (by simp [now, Phase.unsent])).of_fewer id rfl (fun _ mem => mem)
  | register c frame now =>
    have moved : OnlyUnsent (s.setPhase c (.ready frame false)) := only.setPhase (fun _ _ => rfl)
    intro turned id d mem
    rcases List.mem_cons.mp mem with same | earlier
    · cases same
      rw [phase_setPhase, if_pos rfl]
      rfl
    · exact moved turned id d (List.mem_filter.mp earlier).1
  | writeFrame c frame oneway now linked =>
    refine only.setPhase ?_
    intro turned
    cases phase : s.shutdown <;>
      simp [State.closed, Shutdown.swapped, phase] at linked turned
  | writeFails c frame oneway now => exact only.setPhase (fun _ _ => rfl)
  | clearFailed c frame now =>
    intro turned id d mem
    have apart : d ≠ c := by
      rintro rfl
      exact requests.not_mem_clearPending now id mem
    rw [phase_setPhase, if_neg apart, phase_clearPending]
    refine only ?_ id d (mem_of_mem_clearPending mem)
    rwa [← shutdown_clearPending s (s.frameId frame)]
  | closeFailed _ _ channel now | closeCleared _ channel _ now =>
    refine (only.closeChannel channel).setPhase ?_
    simp [phase_closeChannel, now, Phase.unsent]
  | clear c id why now =>
    have fewer : OnlyUnsent (s.clearPending id).1 :=
      only.of_fewer (by rw [shutdown_clearPending]; exact fun h => h)
        (phase_clearPending s id)
        (fun _ mem => mem_of_mem_clearPending mem)
    refine fewer.setPhase ?_
    simp [phase_clearPending, now, Phase.unsent]
  | arrive frame idle =>
    exact only.of_fewer (fun turned => turned) rfl (fun _ mem => (List.mem_filter.mp mem).1)
  | deliver | serve | served | drop => exact only
  | closeConn runs =>
    intro turned
    cases turned
  | swapPending connClosed =>
    intro _ id c mem
    cases mem
  | closeNext d rest closing =>
    refine only.of_fewer ?_ rfl (fun _ mem => mem)
    intro _
    rw [closing]
    rfl

end Calls

/-! ## Subscriptions -/

/-- The subscriptions were not taken yet. -/
def Draining.unswapped : Draining → Bool
  | .running => true
  | .marking _ => true
  | _ => false

namespace Deaths

/-- No subscription is registered after the shutdown took them. -/
def Punctual (s : Deaths) : DeathAction → Prop
  | .insertWatch _ => s.draining.unswapped
  | _ => True

instance (s : Deaths) (action : DeathAction) : Decidable (Punctual s action) := by
  cases action with
  | insertWatch w => exact inferInstanceAs (Decidable (_ = true))
  | _ => exact instDecidableTrue

/-- Nothing is registered after the shutdown took the subscriptions. -/
def Emptied (s : Deaths) : Prop :=
  s.draining.unswapped = false → s.deathWatches = []

theorem Emptied.filter
    {s t : Deaths} (emptied : Emptied s) (keep : UInt32 × Nat → Bool)
    (draining : t.draining = s.draining) (watches : t.deathWatches = s.deathWatches.filter keep) :
    Emptied t := by
  intro turned
  rw [draining] at turned
  rw [watches, emptied turned]
  rfl

theorem Emptied.step
    {s reached : Deaths} {action : DeathAction} (emptied : Emptied s)
    (punctual : Punctual s action) (ran : s.step action = some reached) : Emptied reached := by
  cases moves_of_step ran with
  | resolve handle =>
    unfold remoteBinder
    split <;> exact emptied
  | insertWatch w handle checked =>
    intro turned
    change s.draining.unswapped = false at turned
    change s.draining.unswapped at punctual
    rw [punctual] at turned
    cases turned
  | closeSub | takeWatches => exact emptied.filter _ rfl rfl
  | swapImports | markSwapped =>
    intro turned
    cases turned
  | swapWatches marking => exact fun _ => rfl
  | finishSwapped _ _ ending | drained ending =>
    exact fun _ => emptied (by rw [ending]; rfl)
  | closeConn drained => exact fun _ => emptied (by rw [drained]; rfl)
  | _ => exact emptied

end Deaths

open Deaths

/-! ## The connection -/

namespace Connection

variable {β : Type} {role : Role} {s : Connection β}

/--
The request counter does not wrap around, and no subscription is registered
after the shutdown took them.
-/
def Punctual (s : Connection β) : ConnectionAction β → Prop
  | .call label => Unwrapped s.calls label
  | .death action => s.deaths.Punctual action
  | .closeConn => True

instance (s : Connection β) : (action : ConnectionAction β) → Decidable (Punctual s action)
  | .call label => inferInstanceAs (Decidable (Unwrapped s.calls label))
  | .death action => inferInstanceAs (Decidable (s.deaths.Punctual action))
  | .closeConn => instDecidableTrue

/--
The shutdown is complete, no call is between registering its channel and
taking it out again, and no `WatchDeath` call is about to register its
subscription.
-/
structure Settled (s : Connection β) : Prop where
  completed : s.calls.shutdown = .closing []
  sent : ∀ c, (s.calls.phase c).unsent = false
  inserted : ∀ w handle, s.deaths.watch w ≠ .checked handle

/-- The invariant of runs with punctual registrations. -/
structure Inv (s : Connection β) : Prop where
  requests : Requests s.calls
  onlyUnsent : OnlyUnsent s.calls
  subscriptions : s.deaths.SubscriptionsKept
  emptied : s.deaths.Emptied
  agree : s.calls.closed = s.deaths.closed

/-- Only the closing of the connection closes it for the calls. -/
theorem closed_calls
    {calls reached : State β} {label : Label β} (acts : Acts calls label reached)
    (other : label ≠ .closeConn) : reached.closed = calls.closed := by
  cases acts with
  | clearFailed | clear => simp [State.closed, State.setPhase, shutdown_clearPending]
  | closeFailed _ _ channel | closeCleared _ channel => cases channel <;> rfl
  | closeConn runs => exact absurd rfl other
  | swapPending connClosed => simp [State.closed, connClosed]
  | closeNext d rest closing => simp [State.closed, closing]
  | _ => rfl

variable {action : DeathAction}

/-- Only the closing of the connection closes it for the subscriptions. -/
theorem closed_deaths
    {deaths reached : Deaths} (moves : deaths.Moves action reached)
    (other : action ≠ .closeConn) : reached.closed = deaths.closed := by
  cases moves with
  | resolve handle =>
    unfold remoteBinder
    split <;> rfl
  | swapImports runs => simp [closed, runs]
  | markSwapped _ _ marking | swapWatches marking => simp [closed, marking]
  | finishSwapped _ _ ending | drained ending => simp [closed, ending]
  | closeConn drained => exact absurd rfl other
  | _ => rfl

variable {reached : Connection β}

theorem step_call {label : Label β} (ran : s.step (.call label) = some reached) :
    label ≠ .closeConn ∧
      ∃ calls, Rpc.step s.calls label = some calls ∧ reached = { s with calls := calls } := by
  cases label with
  | closeConn => cases ran
  | _ =>
    simp only [step, Option.map_eq_some_iff] at ran
    rcases ran with ⟨calls, moved, rfl⟩
    refine ⟨?_, calls, moved, rfl⟩
    rintro ⟨⟩

theorem step_death (ran : s.step (.death action) = some reached) :
    action ≠ .closeConn ∧
      ∃ deaths, s.deaths.step action = some deaths ∧ reached = { s with deaths := deaths } := by
  cases action with
  | closeConn => cases ran
  | _ =>
    simp only [step, Option.map_eq_some_iff] at ran
    rcases ran with ⟨deaths, moved, rfl⟩
    refine ⟨?_, deaths, moved, rfl⟩
    rintro ⟨⟩

theorem Inv.init (role : Role) : Inv (.init role : Connection β) where
  requests := .init
  onlyUnsent := by rintro ⟨⟩
  subscriptions := by rintro _ _ ⟨⟩
  emptied := fun _ => rfl
  agree := rfl

/-- Every punctual step keeps the invariant. -/
theorem Inv.step
    {action : ConnectionAction β} (inv : Inv s) (punctual : Punctual s action)
    (ran : s.step action = some reached) : Inv reached := by
  cases action with
  | call label =>
    rcases step_call ran with ⟨other, calls, moved, rfl⟩
    exact { inv with
      requests := inv.requests.step punctual moved
      onlyUnsent := inv.onlyUnsent.step inv.requests moved
      agree := (closed_calls (acts_of_step moved) other).trans inv.agree }
  | death action =>
    rcases step_death ran with ⟨other, deaths, moved, rfl⟩
    exact { inv with
      subscriptions := inv.subscriptions.step moved
      emptied := inv.emptied.step punctual moved
      agree := inv.agree.trans (closed_deaths (moves_of_step moved) other).symm }
  | closeConn =>
    simp only [Connection.step] at ran
    split at ran
    · rename_i calls deaths called died
      cases ran
      have unwrapped : Unwrapped s.calls .closeConn := trivial
      have drains : s.deaths.Punctual .closeConn := trivial
      exact {
        requests := inv.requests.step unwrapped called
        onlyUnsent := inv.onlyUnsent.step inv.requests called
        subscriptions := inv.subscriptions.step died
        emptied := inv.emptied.step drains died
        agree := by
          cases acts_of_step called
          cases moves_of_step died
          rfl }
    · cases ran

theorem Inv.of_reaches (path : (connection β role).Reaches Punctual s) : Inv s := by
  refine path.invariant (.init role) ?_
  intro state action next inv punctual ran
  exact inv.step punctual ran

/-- A connection that is closed has drained its subscriptions. -/
theorem Inv.draining_closed
    (inv : Inv s) {channels : List Nat} (completed : s.calls.shutdown = .closing channels) :
    s.deaths.draining = .closed := by
  have closed : s.calls.closed := by
    simp [State.closed, completed]
  rw [inv.agree] at closed
  exact of_decide_eq_true closed

/-- A call whose frame could not be written has no entry afterwards. -/
theorem Inv.clears (inv : Inv s) {c frame : Nat} (now : s.calls.phase c = .failed frame) :
    ∃ reached, s.step (.call (.clearFailed c)) = some reached ∧
      ∀ id, (id, c) ∉ reached.calls.pending := by
  have moved :
      s.step (.call (.clearFailed c)) =
        some ⟨(s.calls.clearPending (s.calls.frameId frame)).1.setPhase c
          (.failedClosing frame (s.calls.clearPending (s.calls.frameId frame)).2), s.deaths⟩ := by
    change (Rpc.step s.calls (.clearFailed c)).map _ = _
    rw [Rpc.step, now]
    rfl
  refine ⟨_, moved, ?_⟩
  intro id
  exact inv.requests.not_mem_clearPending now id

/--
In a run in which no subscription is registered after the shutdown took them:
once the shutdown is complete, every entry of the pending map belongs to a
call that cannot write its frame any more and whose next actions take the
entry out, and nothing is in the table of subscriptions; every subscription
that was returned is finished, unless its user is closing it or an obituary is
just finishing it.  With no such call left the pending map is empty.
-/
theorem shutdown_leaves_nothing_waiting
    (reaches : (connection β role).Reaches Punctual s)
    (completed : s.calls.shutdown = .closing []) :
    (∀ id c, (id, c) ∈ s.calls.pending →
        (s.calls.phase c).unsent ∧ s.step (.call (.writeFrame c)) = none) ∧
      (∀ c frame, s.calls.phase c = .failed frame →
        ∃ reached, s.step (.call (.clearFailed c)) = some reached ∧
          ∀ id, (id, c) ∉ reached.calls.pending) ∧
      s.deaths.deathWatches = [] ∧
      (∀ w handle, s.deaths.watch w = .returned handle →
        s.deaths.closing w = false → w ∉ s.deaths.obituary.toFinish → (s.deaths.done w).isSome) ∧
      (Settled s → s.calls.pending = []) := by
  have inv := Inv.of_reaches reaches
  have drained := inv.draining_closed completed
  have empty : s.deaths.deathWatches = [] := inv.emptied (by rw [drained]; rfl)
  have unsent : ∀ id c, (id, c) ∈ s.calls.pending → (s.calls.phase c).unsent :=
    inv.onlyUnsent (by rw [completed]; rfl)
  refine ⟨?_, fun c frame current => inv.clears current, empty, ?_, ?_⟩
  · intro id c member
    refine ⟨unsent id c member, ?_⟩
    have closed : s.calls.closed := by
      simp [State.closed, completed]
    simp only [step, Rpc.step, Option.map_eq_none_iff]
    split
    · rw [if_pos closed]
    · rfl
  · intro w handle returned active untaken
    by_contra unfinished
    rw [Option.not_isSome_iff_eq_none] at unfinished
    rcases inv.subscriptions w handle returned active unfinished with stored | taken | swapped
    · rw [empty] at stored
      cases stored
    · exact untaken taken
    · rw [drained] at swapped
      cases swapped
  · intro settled
    rw [List.eq_nil_iff_forall_not_mem]
    rintro ⟨id, c⟩ member
    have sent := settled.sent c
    rw [unsent id c member] at sent
    cases sent

/-- The whole shutdown with one proxy and no pending call. -/
def shutdownRun (finishes : List (ConnectionAction Unit)) : List (ConnectionAction Unit) :=
  [.death .swapImports, .death .markSwapped, .death .swapWatches] ++ finishes ++
    [.death .drained, .closeConn, .call .swapPending]

/--
A watched proxy and a call that registers its channel after the shutdown took
the pending ones.
-/
def lateCall : List (ConnectionAction Unit) :=
  [.death (.resolve 3), .death (.watchDeath 0 0), .death (.checkClosed 0),
    .death (.insertWatch 0), .call (.start 0 false), .call (.getFrame 0 7),
    .call (.number 0)] ++
    shutdownRun [.death .finishSwapped] ++
    [.call (.register 0), .call (.writeFails 0), .call (.clearFailed 0)]

theorem lateCall_leaves_nothing_waiting :
    ∃ s, (connection Unit .server).run lateCall (.init .server) = some s ∧
      s.calls.shutdown = .closing [] ∧
      s.calls.phase 0 = .failedClosing 7 (some 0) ∧
      (s.deaths.done 0).isSome ∧ s.deaths.deathWatches = [] := by
  refine ⟨_, rfl, rfl, rfl, rfl, ?_⟩
  have meets : (connection Unit .server).Meets Punctual lateCall (.init .server) := by
    decide
  exact (shutdown_leaves_nothing_waiting (System.Reaches.start.of_run meets rfl) rfl).2.2.1

/--
A `WatchDeath` call that finds the connection open and registers its
subscription after the shutdown.
-/
def lateWatch : List (ConnectionAction Unit) :=
  [.death (.resolve 3), .death (.watchDeath 0 0), .death (.checkClosed 0)] ++
    shutdownRun [] ++ [.death (.insertWatch 0)]

theorem lateWatch_waits_forever :
    ∃ s, (connection Unit .server).run lateWatch (.init .server) = some s ∧
      Settled s ∧ s.deaths.draining = .closed ∧
      s.deaths.deathWatches = [(3, 0)] ∧
      s.deaths.watch 0 = .returned 3 ∧ s.deaths.closing 0 = false ∧
      s.deaths.done 0 = none := by
  refine ⟨_, rfl, ⟨rfl, fun _ => rfl, ?_⟩, rfl, rfl, rfl, rfl, rfl⟩
  intro w handle
  by_cases first : w = 0
  · subst first
    rintro ⟨⟩
  · change update _ 0 _ w ≠ _
    rw [update_of_ne first]
    change update _ 0 _ w ≠ _
    rw [update_of_ne first]
    change update _ 0 _ w ≠ _
    rw [update_of_ne first]
    rintro ⟨⟩

end Connection

end Libbinder.Rpc
