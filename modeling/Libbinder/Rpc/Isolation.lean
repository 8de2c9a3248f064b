import Libbinder.Rpc.Requests

/-!
# Isolation of concurrent calls

Every action keeps the invariant, with one exception.  A call that gives up
after its frame went back to the pool reads the identifier from that frame,
and the invariant survives only when what it reads does no harm; `Careful`
says when.
-/

namespace Libbinder.Rpc

open Go List Function Requests
open State

variable {β : Type}

/-! ## The condition -/

/--
The condition under which the bookkeeping works: the request counter does not
wrap around, and a call that gives up after a successful send has read its own
identifier from the recycled frame, or has no entry any more and has read the
identifier of no entry.
-/
def Careful (s : State β) : Label β → Prop
  | .number _ => s.nextRequest.toNat + 1 < 2 ^ 64
  | .clear c =>
    ∀ id why, s.phase c = .givingUp id why →
      s.requestId c = some id ∨ (∀ own, (own, c) ∉ s.pending) ∧ ∀ d, (id, d) ∉ s.pending
  | _ => True

/-! ## The invariant -/

/-- The call may still have an entry in the pending map. -/
def Phase.mayBePending : Phase β → Bool
  | .ready _ false => true
  | .failed _ => true
  | .sent _ false => true
  | .waiting _ => true
  | .givingUp _ _ => true
  | _ => false

/-- The channel was registered and is no longer in the pending map. -/
def Gone (s : State β) (d : Nat) : Prop :=
  (s.phase d).registered ∧ ∀ id, (id, d) ∉ s.pending

/-- Somebody has the channel in hand, or has already closed it. -/
def Taken (s : State β) (d : Nat) : Prop :=
  (∃ frame, s.reader = some (d, frame)) ∨
    (s.channel d).closed ∨
    d ∈ s.shutdown.remaining ∨
    ∃ c, (s.phase c).closingChannel = some d

/-- The invariant of the call bookkeeping. -/
structure Inv (s : State β) : Prop extends Requests s where
  unfinished : ∀ id c, (id, c) ∈ s.pending → (s.phase c).mayBePending
  delivering : ∀ d frame, s.reader = some (d, frame) → s.requestId d = some frame.id
  buffered : ∀ d frame, (s.channel d).buffer = some frame →
      s.requestId d = some frame.id ∧ (s.channel d).closed
  taken : ∀ d, Taken s d → Gone s d
  replied : ∀ c frame, s.phase c = .returned (.reply frame) → s.requestId c = some frame.id

theorem Inv.init : Inv (.init : State β) where
  toRequests := .init
  unfinished := by rintro _ _ ⟨⟩
  delivering := by rintro _ _ ⟨⟩
  buffered := by rintro _ _ ⟨⟩
  taken := by
    rintro d (⟨frame, reading⟩ | closed | remaining | ⟨c, closing⟩)
    · cases reading
    · cases closed
    · cases remaining
    · cases closing
  replied := by rintro _ _ ⟨⟩

/-! ## Every action -/

section Actions

variable {s t : State β} {c : Nat} {label : Label β}

theorem Careful.unwrapped (careful : Careful s label) : Unwrapped s label := by
  cases label with
  | number c => exact careful
  | _ => trivial

variable {id : UInt64} {d : Nat}

/-- A number that was given stays given. -/
theorem Requests.given_step
    (requests : Requests s) (ran : Rpc.step s label = some t)
    (given : s.requestId d = some id) : t.requestId d = some id := by
  cases acts_of_step ran with
  | number c frame oneway now => exact requests.given_assign now given
  | clearFailed | clear =>
    rwa [clearPending_fst]
  | closeFailed _ _ channel | closeCleared _ channel => cases channel <;> exact given
  | _ => exact given

variable {new : Phase β} {frame : Nat}

theorem Gone.mono
    (gone : Gone s d) (known : (s.phase d).registered → (t.phase d).registered)
    (pending : ∀ entry ∈ t.pending, entry ∈ s.pending) : Gone t d :=
  ⟨known gone.1, fun id mem => gone.2 id (pending _ mem)⟩

/-- What an action takes, closes or keeps in hand was gone or is gone now. -/
theorem Inv.taken_of
    (inv : Inv s) (gone : ∀ d, Gone s d → Gone t d)
    (reading : ∀ d frame, t.reader = some (d, frame) → s.reader = some (d, frame) ∨ Gone t d)
    (closed : ∀ d, (t.channel d).closed → (s.channel d).closed ∨ Gone t d)
    (left : ∀ d ∈ t.shutdown.remaining, d ∈ s.shutdown.remaining ∨ Gone t d)
    (closing : ∀ c d, (t.phase c).closingChannel = some d →
        (s.phase c).closingChannel = some d ∨ Gone t d) : ∀ d, Taken t d → Gone t d := by
  rintro d (⟨frame, inHand⟩ | isClosed | left_ | ⟨c, inHand⟩)
  · rcases reading d frame inHand with before | now
    · exact gone d (inv.taken d (.inl ⟨frame, before⟩))
    · exact now
  · rcases closed d isClosed with before | now
    · exact gone d (inv.taken d (.inr (.inl before)))
    · exact now
  · rcases left d left_ with before | now
    · exact gone d (inv.taken d (.inr (.inr (.inl before))))
    · exact now
  · rcases closing c d inHand with before | now
    · exact gone d (inv.taken d (.inr (.inr (.inr ⟨c, before⟩))))
    · exact now

theorem closed_of_receive
    (now : s.phase c = .waiting frame) (ran : step s (.receive c) = some t)
    (got : t.phase c = .returned .connectionError) : (s.channel c).closed := by
  simp only [step, now] at ran
  split at ran
  · cases ran
    simp [State.setPhase] at got
  · split_ifs at ran with closed
    exact closed

variable {reply : ReplyFrame β} (inv : Inv s)

include inv

/-- After deleting its identifier a call has no entry. -/
theorem Inv.not_mem_delete (given : s.requestId c = some id) (other : UInt64) :
    (other, c) ∉ (s.delete id).pending := by
  intro mem
  rcases mem_filter.mp mem with ⟨stored, apart⟩
  have otherGiven := (inv.entries other c stored).1
  rw [given] at otherGiven
  cases otherGiven
  simp at apart

/-- A channel that was taken out by its identifier is gone. -/
theorem Inv.gone_of_lookup (found : s.lookup id = some d) :
    s.requestId d = some id ∧ Gone (s.delete id) d := by
  rcases inv.entries id d (mem_of_lookup found) with ⟨given, passed⟩
  exact ⟨given, passed, inv.not_mem_delete given⟩

/--
What is left to show of an action: identifiers and frames are in order after
it.
-/
theorem Inv.rebuild
    (careful : Careful s label) (ran : step s label = some t)
    (unfinished : ∀ id d, (id, d) ∈ t.pending → (t.phase d).mayBePending)
    (delivering : ∀ d frame, t.reader = some (d, frame) → s.requestId d = some frame.id)
    (buffered : ∀ d frame, (t.channel d).buffer = some frame →
        s.requestId d = some frame.id ∧ (t.channel d).closed)
    (taken : ∀ d, Taken t d → Gone t d)
    (replied :
      ∀ d frame, t.phase d = .returned (.reply frame) → s.requestId d = some frame.id) : Inv t := by
  have kept {d : Nat} {id : UInt64} (given : s.requestId d = some id) :=
    inv.toRequests.given_step ran given
  exact { inv.toRequests.step careful.unwrapped ran with
    unfinished := unfinished
    delivering := fun d frame reading => kept (delivering d frame reading)
    buffered := by
      intro d frame stored
      rcases buffered d frame stored with ⟨given, closed⟩
      exact ⟨kept given, closed⟩
    taken := taken
    replied := fun d frame got => kept (replied d frame got) }

variable {old : Phase β}

/-- A call moves on; entries disappear at most and channels are closed. -/
theorem Inv.advance
    (careful : Careful s label) (ran : step s label = some t) (now : s.phase c = old)
    (phase : t.phase = update s.phase c new) (reader : t.reader = s.reader)
    (shutdown : t.shutdown = s.shutdown) (pending : ∀ entry ∈ t.pending, entry ∈ s.pending)
    (own : ∀ id, (id, c) ∈ t.pending → new.mayBePending) (known : old.registered → new.registered)
    (buffer : ∀ d frame, (t.channel d).buffer = some frame →
        (s.channel d).buffer = some frame ∧ ((s.channel d).closed → (t.channel d).closed))
    (closed : ∀ d, (t.channel d).closed → (s.channel d).closed ∨ Gone s d)
    (closing : ∀ d, new.closingChannel = some d → Gone t d)
    (answer : ∀ frame, new = .returned (.reply frame) → s.requestId c = some frame.id) : Inv t := by
  subst now
  have phaseAt (d : Nat) : t.phase d = if d = c then new else s.phase d := by
    rw [phase, update_apply]
  have gone (d : Nat) (wasGone : Gone s d) : Gone t d := by
    refine wasGone.mono ?_ pending
    rw [phaseAt]
    split_ifs with same
    · subst same
      exact known
    · exact id
  refine inv.rebuild careful ran ?_ ?_ ?_ (inv.taken_of gone ?_ ?_ ?_ ?_) ?_
  · intro id d mem
    rw [phaseAt]
    split_ifs with same
    · subst same
      exact own id mem
    · exact inv.unfinished id d (pending _ mem)
  · rw [reader]
    exact inv.delivering
  · intro d frame stored
    rcases buffer d frame stored with ⟨before, stays⟩
    rcases inv.buffered d frame before with ⟨given, wasClosed⟩
    exact ⟨given, stays wasClosed⟩
  · rw [reader]
    exact fun _ _ => .inl
  · exact fun d isClosed => (closed d isClosed).imp_right (gone d)
  · rw [shutdown]
    exact fun _ => .inl
  · intro e d inHand
    rw [phaseAt] at inHand
    split_ifs at inHand with same
    · exact .inr (closing d inHand)
    · exact .inl inHand
  · intro d frame got
    rw [phaseAt] at got
    split_ifs at got with same
    · subst same
      exact answer frame got
    · exact inv.replied d frame got

/-- A call moves on and touches neither entries nor channels. -/
theorem Inv.moveOn
    (careful : Careful s label) (ran : step s label = some t) (now : s.phase c = old)
    (phase : t.phase = update s.phase c new) (reader : t.reader = s.reader)
    (shutdown : t.shutdown = s.shutdown) (pending : t.pending = s.pending)
    (channel : t.channel = s.channel) (alive : old.mayBePending → new.mayBePending)
    (known : old.registered → new.registered) (closing : new.closingChannel = none)
    (answer : ∀ frame, new ≠ .returned (.reply frame)) : Inv t := by
  refine inv.advance careful ran now phase reader shutdown ?_ ?_ known ?_ ?_ ?_ ?_
  · rw [pending]
    exact fun _ => id
  · intro id mem
    rw [pending] at mem
    apply alive
    rw [← now]
    exact inv.unfinished id c mem
  · rw [channel]
    exact fun _ _ stored => ⟨stored, id⟩
  · rw [channel]
    exact fun _ => .inl
  · rw [closing]
    rintro d ⟨⟩
  · intro frame got
    exact absurd got (answer frame)

/-- A call registers its channel under its own identifier. -/
theorem Inv.register
    (careful : Careful s (.register c)) (now : s.phase c = .numbered frame false)
    (ran : step s (.register c) = some t)
    (same : t = (s.insert (s.frameId frame) c).setPhase c (.ready frame false)) : Inv t := by
  have before {id : UInt64} {d : Nat} (apart : d ≠ c)
      (mem : (id, d) ∈ (s.insert (s.frameId frame) c).pending) : (id, d) ∈ s.pending := by
    rcases mem_cons.mp mem with equal | stored
    · cases equal
      exact absurd rfl apart
    · exact (mem_filter.mp stored).1
  have gone (d : Nat) (wasGone : Gone s d) : Gone t d := by
    subst same
    have apart : d ≠ c := by
      rintro rfl
      have registered := wasGone.1
      rw [now] at registered
      cases registered
    refine ⟨?_, fun id mem => wasGone.2 id (before apart mem)⟩
    rw [phase_setPhase, if_neg apart]
    exact wasGone.1
  subst same
  refine inv.rebuild careful ran ?_ inv.delivering inv.buffered
    (inv.taken_of gone (fun _ _ => .inl) (fun _ => .inl) (fun _ => .inl) ?_) ?_
  · intro id d mem
    rw [phase_setPhase]
    split_ifs with same
    · rfl
    · exact inv.unfinished id d (before same mem)
  · intro e d inHand
    rw [phase_setPhase] at inHand
    split_ifs at inHand with same
    · cases inHand
    · exact .inl inHand
  · intro d reply got
    rw [phase_setPhase] at got
    split_ifs at got with same
    exact inv.replied d reply got

/-- `clearPending` with the identifier of the call itself. -/
theorem Inv.clearOwn (given : s.requestId c = some id) :
    s.clearPending id = (s.delete id, s.lookup id) := by
  have nonzero := (inv.bounded c id given).1
  rw [State.clearPending, if_neg nonzero]

/-- A call takes entries out of the pending map, its own among them. -/
theorem Inv.clears
    {left : List (UInt64 × Nat)} (careful : Careful s label)
    (ran : step s label = some ({ s with pending := left }.setPhase c new))
    (fewer : ∀ entry ∈ left, entry ∈ s.pending)
    (absent : ∀ id, (id, c) ∉ left) (known : new.registered)
    (gone : ∀ d, new.closingChannel = some d → Gone { s with pending := left } d)
    (answer : ∀ frame, new ≠ .returned (.reply frame)) :
    Inv ({ s with pending := left }.setPhase c new) := by
  refine inv.advance careful ran rfl rfl rfl rfl fewer
    (fun id mem => absurd mem (absent id)) (fun _ => known)
    (fun _ _ stored => ⟨stored, id⟩) (fun _ => .inl) ?_
    (fun frame same => absurd same (answer frame))
  intro d inHand
  refine (gone d inHand).mono ?_ (fun _ => id)
  rw [phase_setPhase]
  split_ifs with same
  · exact fun _ => known
  · exact id

/-- What a careful `clearPending` leaves behind. -/
theorem Inv.cleared
    {why : GiveUp} (now : s.phase c = .givingUp id why) (careful : Careful s (.clear c)) :
    (∀ other, (other, c) ∉ (s.clearPending id).1.pending) ∧
      ∀ d, (s.clearPending id).2 = some d → Gone (s.clearPending id).1 d := by
  rcases careful id why now with given | ⟨absent, _⟩
  · rw [inv.clearOwn given]
    exact ⟨inv.not_mem_delete given, fun _ found =>
      (inv.gone_of_lookup found).2⟩
  · refine ⟨?_, ?_⟩
    · intro other mem
      exact absent other (mem_of_mem_clearPending mem)
    · unfold State.clearPending
      split_ifs with zero
      · rintro d ⟨⟩
      · exact fun _ found => (inv.gone_of_lookup found).2

/-- A call closes the channel it took out. -/
theorem Inv.closes
    {channel : Option Nat} (careful : Careful s label)
    (ran : step s label = some ((s.closeChannel channel).setPhase c new))
    (now : s.phase c = old) (inHand : old.closingChannel = channel)
    (clear : old.mayBePending = false) (known : new.registered)
    (closing : new.closingChannel = none) (answer : ∀ frame, new ≠ .returned (.reply frame)) :
    Inv ((s.closeChannel channel).setPhase c new) := by
  cases channel with
  | none =>
    exact inv.moveOn careful ran now rfl rfl rfl rfl rfl
      (by rw [clear]; rintro ⟨⟩) (fun _ => known) closing answer
  | some d =>
    subst now
    have gone := inv.taken d (.inr (.inr (.inr ⟨c, inHand⟩)))
    refine inv.advance careful ran rfl rfl rfl rfl (fun _ => id) ?_
      (fun _ => known) ?_ ?_ (by rw [closing]; rintro _ ⟨⟩)
      (fun frame same => absurd same (answer frame))
    · intro id mem
      rw [inv.unfinished id c mem] at clear
      cases clear
    · intro e frame stored
      by_cases same : e = d
      · subst same
        simpa [State.closeChannel, State.setPhase] using stored
      · simpa [State.closeChannel, State.setPhase, same] using stored
    · intro e closed
      by_cases same : e = d
      · rw [same]
        exact .inr gone
      · left
        simpa [State.closeChannel, State.setPhase, same] using closed

theorem Inv.receiveReply
    (careful : Careful s (.receive c)) (now : s.phase c = .waiting frame)
    (stored : (s.channel c).buffer = some reply) (ran : step s (.receive c) = some t)
    (same : t =
      { s with
        channel := update s.channel c { s.channel c with buffer := none } }.setPhase c
        (.returned (.reply reply))) : Inv t := by
  subst same
  rcases inv.buffered c reply stored with ⟨given, closed⟩
  have gone := inv.taken c (.inr (.inl closed))
  refine inv.advance careful ran now rfl rfl rfl (fun _ => id)
    (fun id mem => absurd mem (gone.2 id)) (fun _ => rfl) ?_ ?_
    (by rintro _ ⟨⟩) (by rintro _ ⟨⟩; exact given)
  · intro d other found
    by_cases own : d = c
    · simp [own, State.setPhase] at found
    · simpa [State.setPhase, own] using found
  · intro d isClosed
    by_cases own : d = c
    · rw [own]
      exact .inr gone
    · left
      simpa [State.setPhase, own] using isClosed

theorem Inv.arrive
    (careful : Careful s (.arrive reply)) (ran : step s (.arrive reply) = some t)
    (same : t =
      { s.delete reply.id with
        reader := (s.lookup reply.id).map fun d => (d, reply) }) : Inv t := by
  have found {d : Nat} {frame : ReplyFrame β}
      (reading : t.reader = some (d, frame)) : s.lookup reply.id = some d ∧ frame = reply := by
    rw [same, Option.map_eq_some_iff] at reading
    rcases reading with ⟨e, located, equal⟩
    cases equal
    exact ⟨located, rfl⟩
  have fewer (entry : UInt64 × Nat) (mem : entry ∈ t.pending) : entry ∈ s.pending := by
    rw [same] at mem
    exact (mem_filter.mp mem).1
  refine inv.rebuild careful ran ?_ ?_ ?_ (inv.taken_of ?_ ?_ ?_ ?_ ?_) ?_
  · intro id d mem
    rw [same]
    exact inv.unfinished id d (fewer _ mem)
  · intro d frame reading
    rcases found reading with ⟨located, rfl⟩
    exact (inv.gone_of_lookup located).1
  · rw [same]
    exact inv.buffered
  · intro d gone
    exact gone.mono (by rw [same]; exact id) fewer
  · intro d frame reading
    rw [same]
    exact .inr (inv.gone_of_lookup (found reading).1).2
  all_goals rw [same]
  · exact fun _ => .inl
  · exact fun _ => .inl
  · exact fun _ _ => .inl
  · exact inv.replied

theorem Inv.deliver
    (careful : Careful s .deliver) (reading : s.reader = some (d, reply))
    (ran : step s .deliver = some t)
    (same : t =
      { s with
        reader := none
        channel := update s.channel d ⟨some reply, true⟩ }) : Inv t := by
  subst same
  have gone := inv.taken d (.inl ⟨reply, reading⟩)
  refine inv.rebuild careful ran inv.unfinished (by rintro _ _ ⟨⟩) ?_
    (inv.taken_of (fun _ => id) (by rintro _ _ ⟨⟩) ?_ (fun _ => .inl) (fun _ _ => .inl)) inv.replied
  · intro e frame stored
    by_cases own : e = d
    · subst own
      simp only [update_self] at stored ⊢
      cases stored
      exact ⟨inv.delivering e reply reading, trivial⟩
    · simp only [update_of_ne own] at stored ⊢
      exact inv.buffered e frame stored
  · intro e closed
    by_cases own : e = d
    · rw [own]
      exact .inr gone
    · simp only [update_of_ne own] at closed
      exact .inl closed

theorem Inv.swapPending
    (careful : Careful s .swapPending) (ran : step s .swapPending = some t)
    (same : t =
      { s with
        shutdown := .closing (s.pending.map Prod.snd)
        pending := [] }) : Inv t := by
  subst same
  refine inv.rebuild careful ran (by rintro _ _ ⟨⟩) inv.delivering
    inv.buffered (inv.taken_of ?_ (fun _ _ => .inl) (fun _ => .inl) ?_
      (fun _ _ => .inl)) inv.replied
  · exact fun d gone => gone.mono id (by rintro _ ⟨⟩)
  · intro d left
    rcases mem_map.mp left with ⟨⟨id, e⟩, mem, rfl⟩
    exact .inr ⟨(inv.entries id e mem).2, by rintro _ ⟨⟩⟩

theorem Inv.closeNext
    {rest : List Nat} (careful : Careful s .closeNext)
    (progress : s.shutdown = .closing (d :: rest)) (ran : step s .closeNext = some t)
    (same : t = { s.closeChannel (some d) with shutdown := .closing rest }) : Inv t := by
  subst same
  have gone (e : Nat) (mem : e ∈ d :: rest) : Gone s e := by
    refine inv.taken e (.inr (.inr (.inl ?_)))
    rwa [progress]
  refine inv.rebuild careful ran inv.unfinished inv.delivering ?_
    (inv.taken_of (fun _ => id) (fun _ _ => .inl) ?_
      (fun e left_ => .inr (gone e (mem_cons_of_mem d left_))) (fun _ _ => .inl)) inv.replied
  · intro e frame stored
    by_cases own : e = d
    · subst own
      simp only [State.closeChannel, update_self] at stored ⊢
      exact ⟨(inv.buffered e frame stored).1, trivial⟩
    · simp only [State.closeChannel, update_of_ne own] at stored ⊢
      exact inv.buffered e frame stored
  · intro e closed
    by_cases own : e = d
    · exact .inr (gone e (by rw [own]; exact mem_cons_self))
    · simp only [State.closeChannel, update_of_ne own] at closed
      exact .inl closed

/-- Every careful action keeps the invariant. -/
theorem Inv.step (careful : Careful s label) (ran : step s label = some t) : Inv t := by
  cases acts_of_step ran with
  | start _ _ now | refuse _ now | getFrame _ _ _ now
  | number _ _ _ now | registerOneway _ _ now =>
    exact inv.moveOn careful ran now rfl rfl rfl rfl rfl
      (by rintro ⟨⟩) (by rintro ⟨⟩) rfl (by rintro _ ⟨⟩)
  | register c frame now => exact inv.register careful now ran rfl
  | writeFrame c frame oneway now linked =>
    exact inv.moveOn careful ran now rfl rfl rfl rfl rfl
      (by cases oneway <;> exact id) (fun _ => rfl) rfl (by rintro _ ⟨⟩)
  | writeFails _ _ _ now | putSent _ _ now | giveUp _ _ _ now =>
    exact inv.moveOn careful ran now rfl rfl rfl rfl rfl
      (fun _ => rfl) (fun _ => rfl) rfl (by rintro _ ⟨⟩)
  | clearFailed c frame now =>
    have given := inv.labelled_of now rfl rfl
    rw [inv.clearOwn given] at ran ⊢
    exact inv.clears careful ran (fun _ mem => (mem_filter.mp mem).1)
      (inv.not_mem_delete given) rfl (fun _ found => (inv.gone_of_lookup found).2) (by rintro _ ⟨⟩)
  | closeFailed c frame channel now =>
    exact inv.closes careful ran now rfl rfl rfl rfl (by rintro _ ⟨⟩)
  | putFailed _ _ now | putOneway _ _ now =>
    exact inv.moveOn careful ran now rfl rfl rfl rfl rfl
      (by rintro ⟨⟩) (fun _ => rfl) rfl (by rintro _ ⟨⟩)
  | receiveReply c frame reply now stored =>
    exact inv.receiveReply careful now stored ran rfl
  | receiveClosed c frame now =>
    have closed := closed_of_receive now ran (by rw [phase_setPhase, if_pos rfl])
    have gone := inv.taken c (.inr (.inl closed))
    exact inv.advance careful ran now rfl rfl rfl (fun _ => id)
      (fun id mem => absurd mem (gone.2 id)) (fun _ => rfl)
      (fun _ _ stored => ⟨stored, id⟩) (fun _ => .inl) (by rintro _ ⟨⟩) (by rintro _ ⟨⟩)
  | clear c id why now =>
    rcases inv.cleared now careful with ⟨absent, gone⟩
    rw [clearPending_fst] at ran gone ⊢
    exact inv.clears careful ran (fun _ => mem_of_mem_clearPending) absent rfl gone (by rintro _ ⟨⟩)
  | closeCleared c channel why now =>
    exact inv.closes careful ran now rfl rfl rfl rfl (by cases why <;> rintro _ ⟨⟩)
  | arrive frame idle => exact inv.arrive careful ran rfl
  | deliver d frame reading => exact inv.deliver careful reading ran rfl
  | closeConn runs =>
    exact inv.rebuild careful ran inv.unfinished inv.delivering inv.buffered
      (inv.taken_of (fun _ => id) (fun _ _ => .inl) (fun _ => .inl)
        (by rintro _ ⟨⟩) (fun _ _ => .inl)) inv.replied
  | swapPending connClosed => exact inv.swapPending careful ran rfl
  | closeNext d rest closing => exact inv.closeNext careful closing ran rfl
  | serve | served | drop =>
    exact inv.rebuild careful ran inv.unfinished inv.delivering inv.buffered inv.taken inv.replied

/-- Deleting the identifier of a call removes exactly the entry of that call. -/
theorem Inv.mem_delete_own (given : s.requestId c = some id) (entry : UInt64 × Nat) :
    entry ∈ (s.delete id).pending ↔ entry ∈ s.pending ∧ entry.2 ≠ c := by
  rcases entry with ⟨key, d⟩
  constructor
  · intro mem
    refine ⟨(mem_filter.mp mem).1, ?_⟩
    rintro rfl
    exact inv.not_mem_delete given key mem
  · rintro ⟨stored, apart⟩
    apply mem_filter.mpr
    refine ⟨stored, ?_⟩
    rw [decide_eq_true_eq]
    rintro rfl
    exact apart (inv.distinct d c _ (inv.entries _ d stored).1 given)

theorem Inv.clearFailed_exact (ran : Rpc.step s (.clearFailed c) = some t) (entry : UInt64 × Nat) :
    entry ∈ t.pending ↔ entry ∈ s.pending ∧ entry.2 ≠ c := by
  cases acts_of_step ran with
  | clearFailed c frame now =>
    have given := inv.labelled_of now rfl rfl
    rw [inv.clearOwn given]
    exact inv.mem_delete_own given entry

theorem Inv.clear_exact
    (careful : Careful s (.clear c)) (ran : Rpc.step s (.clear c) = some t) (entry : UInt64 × Nat) :
    entry ∈ t.pending ↔ entry ∈ s.pending ∧ entry.2 ≠ c := by
  cases acts_of_step ran with
  | clear c id why now =>
    change entry ∈ (s.clearPending id).1.pending ↔ _
    rcases careful id why now with given | ⟨absent, strangers⟩
    · rw [inv.clearOwn given]
      exact inv.mem_delete_own given entry
    · rcases entry with ⟨key, d⟩
      have apart (stored : (key, d) ∈ s.pending) : d ≠ c := by
        rintro rfl
        exact absent key stored
      constructor
      · intro mem
        have stored := mem_of_mem_clearPending mem
        exact ⟨stored, apart stored⟩
      · rintro ⟨stored, _⟩
        unfold State.clearPending
        split_ifs with zero
        · exact stored
        · refine mem_filter.mpr ⟨stored, ?_⟩
          rw [decide_eq_true_eq]
          rintro rfl
          exact strangers d stored

end Actions

/-! ## Isolation -/

/-- Returned calls got their own reply and left no entry behind. -/
structure Isolated (s : State β) : Prop where
  ownReply : ∀ c frame, s.phase c = .returned (.reply frame) → s.requestId c = some frame.id
  noEntry : ∀ c result, s.phase c = .returned result → ∀ id, (id, c) ∉ s.pending

theorem Inv.isolated {s : State β} (inv : Inv s) : Isolated s where
  ownReply := inv.replied
  noEntry := by
    intro c result ran id mem
    have open_ := inv.unfinished id c mem
    rw [ran] at open_
    cases open_

/--
In every run whose steps are careful, every returned call got the reply with
its own identifier and left no pending entry, and a call that is cancelled or
fails removes exactly its own entry.
-/
theorem careful_calls_isolated {s : State β} (reaches : (calls β).Reaches Careful s) :
    Isolated s ∧
      ∀ c label t,
        label = .clear c ∨ label = .clearFailed c →
          Careful s label → (calls β).step s label = some t →
            ∀ entry, entry ∈ t.pending ↔ entry ∈ s.pending ∧ entry.2 ≠ c := by
  have inv : Inv s :=
    reaches.invariant Inv.init fun _ _ _ kept careful stepped =>
      kept.step careful stepped
  refine ⟨inv.isolated, ?_⟩
  rintro c label t (rfl | rfl) careful stepped
  · exact inv.clear_exact careful stepped
  · exact inv.clearFailed_exact stepped

/-- The condition as a test on the entries of the pending map. -/
def carefulNow (s : State β) : Label β → Bool
  | .number _ => s.nextRequest.toNat + 1 < 2 ^ 64
  | .clear c =>
    match s.phase c with
    | .givingUp id _ =>
      s.requestId c = some id ∨ ∀ entry ∈ s.pending, entry.2 ≠ c ∧ entry.1 ≠ id
    | _ => true
  | _ => true

theorem carefulNow_iff {s : State β} {label : Label β} : carefulNow s label ↔ Careful s label := by
  cases label with
  | number c => exact decide_eq_true_iff
  | clear c =>
    unfold carefulNow Careful
    cases now : s.phase c with
    | givingUp id why =>
      simp only [now, decide_eq_true_iff, Phase.givingUp.injEq, and_imp]
      constructor
      · rintro passes _ _ rfl rfl
        exact passes.imp_right fun none =>
          ⟨fun id mem => (none _ mem).1 rfl, fun d mem => (none _ mem).2 rfl⟩
      · intro careful
        refine (careful id why rfl rfl).imp_right ?_
        rintro ⟨absent, strangers⟩ ⟨key, d⟩ mem
        exact ⟨fun own => absent key (own ▸ mem), fun read => strangers d (read ▸ mem)⟩
    | _ => simp [now]
  | _ => exact iff_of_true rfl trivial

instance Careful.decidable (s : State β) (label : Label β) : Decidable (Careful s label) :=
  decidable_of_iff (carefulNow s label) carefulNow_iff

/--
Two calls at the same time.  The first is cancelled when the reader has already
taken its entry, so that the identifier of its zeroed frame clears nothing; the
second still waits then and receives its reply later.
-/
def concurrentRun : List (Label Unit) :=
  [.start 0 false, .getFrame 0 7, .number 0, .register 0, .start 1 false, .getFrame 1 8,
    .number 1, .register 1, .writeFrame 1, .writeFrame 0, .putSent 0, .putSent 1,
    .arrive ⟨1, ()⟩, .deliver, .giveUp 0 .contextDone, .clear 0, .closeCleared 0,
    .arrive ⟨2, ()⟩, .deliver, .receive 1]

theorem concurrentRun_meets : (calls Unit).Meets Careful concurrentRun .init := by
  decide

theorem concurrent_calls_isolated :
    ∃ s : State Unit,
      (calls Unit).run concurrentRun State.init = some s ∧
        s.phase 0 = .returned .contextError ∧
        s.phase 1 = .returned (.reply ⟨2, ()⟩) ∧ Isolated s := by
  refine ⟨_, rfl, rfl, rfl, ?_⟩
  exact (careful_calls_isolated (System.Reaches.start.of_run concurrentRun_meets rfl)).1

/-- One call that sends its request and is cancelled before a reply. -/
def cancelledRun : List (Label Unit) :=
  [.start 0 false, .getFrame 0 7, .number 0, .register 0, .writeFrame 0,
    .putSent 0, .giveUp 0 .contextDone, .clear 0, .closeCleared 0]

/--
A call that is cancelled after another call took over its frame: the second
call is still waiting for its reply.
-/
def recycledRun : List (Label Unit) :=
  [.start 0 false, .getFrame 0 7, .number 0, .register 0, .writeFrame 0,
    .putSent 0, .start 1 false, .getFrame 1 7, .number 1, .register 1,
    .writeFrame 1, .giveUp 0 .contextDone, .clear 0, .closeCleared 0]

/--
A cancelled call returns and its entry stays in the pending map; when its
frame was taken over, the entry of the other call is removed instead.
-/
theorem cancelled_call_breaks_pending :
    (∃ s : State Unit,
      (calls Unit).run cancelledRun State.init = some s ∧
        s.phase 0 = .returned .contextError ∧ s.pending = [(1, 0)]) ∧
    ∃ s : State Unit,
      (calls Unit).run recycledRun State.init = some s ∧
        s.phase 0 = .returned .contextError ∧ s.phase 1 = .sent 7 false ∧
        s.pending = [(1, 0)] :=
  ⟨⟨_, rfl, rfl, rfl⟩, ⟨_, rfl, rfl, rfl, rfl⟩⟩

end Libbinder.Rpc
