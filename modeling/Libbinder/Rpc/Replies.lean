import Libbinder.Rpc.Ownership

/-!
# Safety of reply delivery

Every action keeps the ownership of the reply channels, so the goroutine that
reads frames can always send the reply it has and close the channel.  As long
as the request counter has not wrapped around, no entry of the pending map is
overwritten, and a channel that was put into the map and is not there any more
was taken by exactly one party.
-/

namespace Libbinder.Rpc.Delivery

open Go
open State

variable {β : Type} {s t : Delivery β}

/-! ## Ownership in every run -/

variable {label : Label β}

theorem step_call (ran : s.step (.call label) = some t) :
    ∃ calls, Rpc.step s.calls label = some calls ∧ t = { s.record label with calls := calls } := by
  cases label with
  | deliver => cases ran
  | _ =>
    simp only [step, Option.map_eq_some_iff] at ran
    rcases ran with ⟨calls, moved, rfl⟩
    exact ⟨calls, moved, rfl⟩

variable {calls : State β}

theorem Quiet.advance
    {c : Nat} {old new : Phase β} {reached : State β}
    (phase : reached.phase = (calls.setPhase c new).phase)
    (pending : reached.pending = calls.pending) (channel : reached.channel = calls.channel)
    (reader : reached.reader = calls.reader)
    (left : reached.shutdown.remaining = calls.shutdown.remaining) (now : calls.phase c = old)
    (closing : new.closingChannel = old.closingChannel) (known : old.registered → new.registered) :
    Quiet calls reached := by
  have moved := Quiet.setPhase now closing known
  refine ⟨pending, channel, reader, left, ?_, ?_⟩
  · rw [phase]
    exact moved.closing
  · rw [phase]
    exact moved.registered

section Record

variable {c frame : Nat}

theorem record_registerOneway (now : s.calls.phase c = .numbered frame true) :
    s.record (.register c) = s := by
  simp [record, enter, now]

theorem record_register (now : s.calls.phase c = .numbered frame false) :
    s.record (.register c) = { s with entered := Function.update s.entered c true } := by
  simp [record, enter, now]

theorem record_clearFailed (now : s.calls.phase c = .failed frame) :
    s.record (.clearFailed c) =
      s.take (.call c) (s.calls.clearPending (s.calls.frameId frame)).2.toList := by
  simp [record, State.cleared, now]

theorem record_clear {id : UInt64} {why : GiveUp} (now : s.calls.phase c = .givingUp id why) :
    s.record (.clear c) = s.take (.call c) (s.calls.clearPending id).2.toList := by
  simp [record, State.cleared, now]

end Record

theorem Owned.call (owned : Owned s) (acts : Acts s.calls label calls) (other : label ≠ .deliver) :
    Owned { s.record label with calls := calls } := by
  cases acts with
  | start _ _ now | refuse _ now | getFrame _ _ _ now
  | number _ _ _ now =>
    exact owned.quiet (.advance rfl rfl rfl rfl rfl now rfl (by rintro ⟨⟩)) rfl rfl rfl rfl rfl
  | registerOneway c frame now =>
    rw [record_registerOneway now]
    exact owned.quiet (.setPhase now rfl (fun _ => rfl)) rfl rfl rfl rfl rfl
  | register c frame now =>
    rw [record_register now]
    exact owned.register now _ _
  | writeFrame _ _ _ now | writeFails _ _ _ now
  | putFailed _ _ now | putOneway _ _ now | putSent _ _ now
  | receiveClosed _ _ now | giveUp _ _ _ now =>
    exact owned.quiet (.advance rfl rfl rfl rfl rfl now rfl (fun _ => rfl)) rfl rfl rfl rfl rfl
  | clearFailed c frame now =>
    rw [record_clearFailed now]
    exact owned.clear now (fun channel => .failedClosing frame channel)
      rfl (fun _ => rfl) (fun _ => rfl)
  | closeFailed _ _ _ now | closeCleared _ _ _ now =>
    simp only [record, now]
    exact owned.closeCleared now rfl rfl
  | receiveReply c frame reply now stored => exact owned.receive now stored rfl
  | clear c id why now =>
    rw [record_clear now]
    exact owned.clear now (fun channel => .givenUp channel why) rfl (fun _ => rfl) (fun _ => rfl)
  | arrive frame idle => exact owned.arrive idle frame
  | deliver d frame reads => exact absurd rfl other
  | closeConn runs =>
    refine owned.quiet ⟨rfl, rfl, rfl, ?_, fun _ => rfl, fun _ => id⟩ rfl rfl rfl rfl rfl
    rw [runs]
    rfl
  | swapPending connClosed => exact owned.swapPending rfl
  | closeNext d rest closing =>
    have logged : s.record .closeNext = s.close (some d) := by
      simp [record, closing, Shutdown.remaining]
    rw [logged]
    exact owned.closeNext closing
  | serve | served | drop =>
    exact owned.quiet ⟨rfl, rfl, rfl, rfl, fun _ => rfl, fun _ => id⟩ rfl rfl rfl rfl rfl

/-- The reader sends and closes what it has in hand. -/
theorem reader_of_send (ran : s.step .send = some t) :
    ∃ d frame, s.calls.reader = some (d, frame) ∧ s.sent = false := by
  simp only [step] at ran
  split at ran
  · rename_i d frame reads unsent
    exact ⟨d, frame, reads, unsent⟩
  · cases ran

theorem reader_of_closeReply (ran : s.step .closeReply = some t) :
    ∃ d frame, s.calls.reader = some (d, frame) ∧ s.sent := by
  simp only [step] at ran
  split at ran
  · rename_i d frame reads sent
    exact ⟨d, frame, reads, sent⟩
  · cases ran

variable {action : DeliveryAction β}

/-- Every step keeps the channels owned. -/
theorem Owned.step (owned : Owned s) (ran : s.step action = some t) : Owned t := by
  cases action with
  | call label =>
    rcases step_call ran with ⟨calls, moved, rfl⟩
    refine owned.call (acts_of_step moved) ?_
    rintro rfl
    cases ran
  | send =>
    rcases reader_of_send ran with ⟨d, frame, reads, unsent⟩
    rw [owned.send_eq reads unsent] at ran
    cases ran
    exact owned.send reads unsent
  | closeReply =>
    rcases reader_of_closeReply ran with ⟨d, frame, reads, sent⟩
    rw [owned.closeReply_eq reads sent] at ran
    cases ran
    exact owned.closeReply reads sent

/-! ## No channel is lost -/

/--
A channel that was put into the pending map and that nobody took is still
there.
-/
def NoneLost (s : Delivery β) : Prop :=
  ∀ d, s.entered d → s.takers d = [] → ∃ id, (id, d) ∈ s.calls.pending

theorem pending_closeChannel (calls : State β) (channel : Option Nat) :
    (calls.closeChannel channel).pending = calls.pending := by
  cases channel <;> rfl

variable (none_ : NoneLost s)

include none_

/-- Taking what an identifier finds takes all that stands under it. -/
theorem NoneLost.take
    {id : UInt64} {party : Party} (requests : Requests s.calls)
    (pending : calls.pending = (s.calls.delete id).pending) :
    NoneLost { s.take party (s.calls.lookup id).toList with calls := calls } := by
  intro d inside free
  by_cases found : s.calls.lookup id = some d
  · simp [Delivery.take, found] at free
  · have before : s.takers d = [] := by
      simpa [Delivery.take, found] using free
    rcases none_ d inside before with ⟨other, stored⟩
    refine ⟨other, ?_⟩
    change (other, d) ∈ calls.pending
    rw [pending]
    refine List.mem_filter.mpr ⟨stored, ?_⟩
    rw [decide_eq_true_eq]
    rintro rfl
    cases located : s.calls.lookup other with
    | none =>
      have kept := delete_of_lookup_none located
      rw [← kept] at stored
      simpa using (List.mem_filter.mp stored).2
    | some e =>
      have first := (requests.entries other d stored).1
      have second := (requests.entries other e (mem_of_lookup located)).1
      cases requests.distinct d e other first second
      exact found located

/-- Clearing the identifier zero finds and deletes nothing. -/
theorem NoneLost.clear {c : Nat} {id : UInt64} {phase : Phase β} (requests : Requests s.calls) :
    NoneLost { s.take (.call c) (s.calls.clearPending id).2.toList with
      calls := (s.calls.clearPending id).1.setPhase c phase } := by
  unfold State.clearPending
  split_ifs with zero
  · intro d inside free
    refine none_ d inside ?_
    rwa [← takers_take_nil s (.call c)]
  · exact none_.take requests rfl

theorem NoneLost.register
    {c frame : Nat} (requests : Requests s.calls) (now : s.calls.phase c = .numbered frame false) :
    NoneLost { s with
      entered := Function.update s.entered c true
      calls := (s.calls.insert (s.calls.frameId frame) c).setPhase c (.ready frame false) } := by
  intro d entered free
  change ∃ id, (id, d) ∈ (s.calls.insert (s.calls.frameId frame) c).pending
  rw [requests.insert_eq now]
  by_cases same : d = c
  · subst same
    exact ⟨_, List.mem_cons_self⟩
  · have before : s.entered d := by
      simpa [same] using entered
    rcases none_ d before free with ⟨id, stored⟩
    exact ⟨id, List.mem_cons_of_mem _ stored⟩

theorem NoneLost.swapPending (calls : State β) :
    NoneLost { s.take .shutdown (s.calls.pending.map Prod.snd) with calls := calls } := by
  intro d inside free
  by_cases mem : d ∈ s.calls.pending.map Prod.snd
  · simp only [Delivery.take, if_pos mem] at free
    cases free
  · simp only [Delivery.take, if_neg mem] at free
    rcases none_ d inside free with ⟨id, stored⟩
    exact absurd (List.mem_map_of_mem stored) mem

/-- Closing a channel takes none out of the map. -/
theorem NoneLost.close (channel : Option Nat) (pending : calls.pending = s.calls.pending) :
    NoneLost { s.close channel with calls := calls } := by
  cases channel with
  | none =>
    intro d inside free
    change ∃ id, (id, d) ∈ calls.pending
    rw [pending]
    exact none_ d inside free
  | some e =>
    intro d inside free
    change ∃ id, (id, d) ∈ calls.pending
    rw [pending]
    unfold Delivery.close at inside free
    cases closes : (s.calls.channel e).close <;>
      (simp only [closes] at inside free
       exact none_ d inside free)

theorem NoneLost.call (requests : Requests s.calls) (acts : Acts s.calls label calls) :
    NoneLost { s.record label with calls := calls } := by
  cases acts with
  | registerOneway c frame now =>
    rwa [record_registerOneway now]
  | register c frame now =>
    rw [record_register now]
    exact none_.register requests now
  | clearFailed c frame now =>
    rw [record_clearFailed now]
    exact none_.clear requests
  | clear c id why now =>
    rw [record_clear now]
    exact none_.clear requests
  | closeFailed _ _ channel | closeCleared _ channel =>
    exact none_.close _ (pending_closeChannel s.calls channel)
  | arrive frame idle => exact none_.take requests rfl
  | swapPending connClosed => exact none_.swapPending _
  | closeNext d rest closing => exact none_.close _ rfl
  | _ => exact none_

omit none_

/-- As long as the request counter has not wrapped around. -/
structure Accounted (s : Delivery β) : Prop where
  counter : s.calls.nextRequest.toNat = s.numbered
  requests : Requests s.calls
  noneLost : NoneLost s

theorem Accounted.init : Accounted (.init : Delivery β) where
  counter := rfl
  requests := .init
  noneLost := by rintro _ ⟨⟩

/-- Only the actions that number a request move the counter. -/
theorem nextRequest_of_acts
    {reached : State β} (acts : Acts calls label reached) (other : ∀ c, label ≠ .number c) :
    reached.nextRequest = calls.nextRequest := by
  cases acts with
  | number c frame oneway now => exact absurd rfl (other c)
  | clearFailed | clear =>
    unfold State.clearPending
    split_ifs <;> rfl
  | closeFailed _ _ channel | closeCleared _ channel => cases channel <;> rfl
  | _ => rfl

theorem numbered_record (label : Label β) (other : ∀ c, label ≠ .number c) :
    (s.record label).numbered = s.numbered := by
  have entering (c : Nat) : (s.enter c).numbered = s.numbered := by
    unfold enter
    split <;> rfl
  have closing (channel : Option Nat) : (s.close channel).numbered = s.numbered := by
    cases channel with
    | none => rfl
    | some d =>
      simp only [Delivery.close]
      split <;> rfl
  cases label with
  | number c => exact absurd rfl (other c)
  | register c => exact entering c
  | closeFailed | closeCleared | closeNext => exact closing _
  | _ => rfl

theorem Accounted.call
    (accounted : Accounted s) (moved : Rpc.step s.calls label = some calls)
    (few : (s.record label).numbered < 2 ^ 64) :
    Accounted { s.record label with calls := calls } := by
  have acts := acts_of_step moved
  have counter := accounted.counter
  have noneLost := accounted.noneLost.call accounted.requests acts
  by_cases numbers : ∃ c, label = .number c
  · rcases numbers with ⟨c, rfl⟩
    change s.numbered + 1 < 2 ^ 64 at few
    have unwrapped : Unwrapped s.calls (.number c) := by
      change s.calls.nextRequest.toNat + 1 < 2 ^ 64
      omega
    refine ⟨?_, accounted.requests.step unwrapped moved, noneLost⟩
    cases acts
    change (s.calls.nextRequest + 1).toNat = s.numbered + 1
    rw [UInt64.toNat_add, counter]
    exact Nat.mod_eq_of_lt few
  · have other : ∀ c, label ≠ .number c := fun c same => numbers ⟨c, same⟩
    refine ⟨?_, accounted.requests.step (unwrapped_of_ne other) moved, noneLost⟩
    change calls.nextRequest.toNat = (s.record label).numbered
    rwa [nextRequest_of_acts acts other, numbered_record label other]

/-- The reader's own actions leave requests and the pending map alone. -/
theorem Accounted.of_same
    (accounted : Accounted s) (nextRequest : t.calls.nextRequest = s.calls.nextRequest)
    (requestId : t.calls.requestId = s.calls.requestId) (phase : t.calls.phase = s.calls.phase)
    (owner : t.calls.owner = s.calls.owner) (frameId : t.calls.frameId = s.calls.frameId)
    (pending : t.calls.pending = s.calls.pending) (numbered : t.numbered = s.numbered)
    (inside : t.entered = s.entered) (takers : t.takers = s.takers) : Accounted t where
  counter := by
    rw [nextRequest, numbered]
    exact accounted.counter
  requests := by
    refine accounted.requests.of_fewer nextRequest requestId phase owner frameId ?_
    rw [pending]
    exact fun _ mem => mem
  noneLost := by
    unfold NoneLost
    rw [inside, takers, pending]
    exact accounted.noneLost

/-- The invariant of every run. -/
structure Inv (s : Delivery β) : Prop where
  owned : Owned s
  accounted : s.numbered < 2 ^ 64 → Accounted s

theorem numbered_le_record (label : Label β) : s.numbered ≤ (s.record label).numbered := by
  cases label with
  | number c => exact Nat.le_succ _
  | _ => exact Nat.le_of_eq (numbered_record _ (by rintro c ⟨⟩)).symm

theorem Inv.step (inv : Inv s) (ran : s.step action = some t) : Inv t := by
  refine ⟨inv.owned.step ran, ?_⟩
  intro few
  cases action with
  | call label =>
    rcases step_call ran with ⟨calls, moved, rfl⟩
    have before := Nat.lt_of_le_of_lt (numbered_le_record label) few
    exact (inv.accounted before).call moved few
  | send =>
    rcases reader_of_send ran with ⟨d, frame, reads, unsent⟩
    rw [inv.owned.send_eq reads unsent] at ran
    cases ran
    exact (inv.accounted few).of_same rfl rfl rfl rfl rfl rfl rfl rfl rfl
  | closeReply =>
    rcases reader_of_closeReply ran with ⟨d, frame, reads, sent⟩
    rw [inv.owned.closeReply_eq reads sent] at ran
    cases ran
    exact (inv.accounted few).of_same rfl rfl rfl rfl rfl rfl rfl rfl rfl

theorem Inv.of_reaches
    {lawful : Delivery β → DeliveryAction β → Prop} (path : (delivery β).Reaches lawful s) :
    Inv s := by
  refine path.invariant ⟨.init, fun _ => .init⟩ ?_
  intro state action next inv _ ran
  exact inv.step ran

/--
In every run: nobody panics on a channel; a channel is taken out of the
pending map at most once, receives at most one frame and is closed at most
once; a channel in the map was not taken; one that was put into the map and is
not there any more was taken by exactly one party, as long as the request
counter has not wrapped around; and the reader can always send the reply it
has, and then close the channel, without a panic and without blocking.
-/
theorem reply_delivery_safe (reaches : (delivery β).Reaches (fun _ _ => True) s) (d : Nat) :
    s.panicked = false ∧
      ((s.takers d).length ≤ 1 ∧ s.sends d ≤ 1 ∧ s.closes d ≤ 1) ∧
      (∀ id, (id, d) ∈ s.calls.pending → s.takers d = []) ∧
      (s.numbered < 2 ^ 64 → s.entered d →
        (∀ id, (id, d) ∉ s.calls.pending) → (s.takers d).length = 1) ∧
      ∀ frame, s.calls.reader = some (d, frame) →
        (s.sent = false →
          ∃ t, s.step .send = some t ∧ t.panicked = false ∧
            t.calls.channel d = ⟨some frame, false⟩) ∧
        (s.sent →
          ∃ t, s.step .closeReply = some t ∧ t.panicked = false ∧ (t.calls.channel d).closed) := by
  have inv := Inv.of_reaches reaches
  have owned := inv.owned
  have once := owned.once d
  refine ⟨owned.calm, ⟨once.takers, ?_, ?_⟩, ?_, ?_, ?_⟩
  · exact Nat.le_trans once.sends once.takers
  · exact Nat.le_trans once.closes once.takers
  · intro id member
    exact congrArg Track.takers (owned.tracks d _ (.pending member))
  · intro few entered absent
    refine Nat.le_antisymm once.takers ?_
    rw [Nat.one_le_iff_ne_zero]
    intro untaken
    rcases (inv.accounted few).noneLost d entered
      (List.eq_nil_of_length_eq_zero untaken) with ⟨id, stored⟩
    exact absent id stored
  · intro frame reads
    refine ⟨?_, ?_⟩
    · intro unsent
      refine ⟨_, owned.send_eq reads unsent, owned.calm, ?_⟩
      simp [replied, setChannel]
    · intro sent
      refine ⟨_, owned.closeReply_eq reads sent, owned.calm, ?_⟩
      simp [replyClosed]

/--
A call that gets a reply, with a duplicate and a forged reply, and a call that
is cancelled.
-/
def forgedReplies : List (DeliveryAction Unit) :=
  [.call (.start 0 false), .call (.getFrame 0 7), .call (.number 0),
    .call (.register 0), .call (.writeFrame 0), .call (.start 1 false),
    .call (.getFrame 1 8), .call (.number 1), .call (.register 1),
    .call (.writeFrame 1), .call (.putSent 1), .call (.arrive ⟨1, ()⟩), .send,
    .closeReply, .call (.arrive ⟨1, ()⟩), .call (.arrive ⟨9, ()⟩),
    .call (.giveUp 1 .contextDone), .call (.clear 1)]

theorem forgedReplies_safe :
    ∃ s, (delivery Unit).run forgedReplies Delivery.init = some s ∧
      s.takers 0 = [.reader] ∧ s.sends 0 = 1 ∧ s.closes 0 = 1 ∧
      s.calls.pending = [(2, 1)] ∧ s.panicked = false := by
  refine ⟨_, rfl, rfl, rfl, rfl, rfl, ?_⟩
  have meets : (delivery Unit).Meets (fun _ _ => True) forgedReplies Delivery.init := by
    decide
  exact (reply_delivery_safe (System.Reaches.start.of_run meets rfl) 0).1

end Libbinder.Rpc.Delivery
