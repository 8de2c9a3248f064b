import Libbinder.Rpc.Delivery
import Mathlib.Data.List.Nodup

/-!
# Ownership of reply channels

A reply channel is fresh while it is in the pending map.  Whoever takes it out
has it alone until it is closed: the reader, which first sends the reply, the
call whose identifier was cleared, or the shutdown.  So no channel is sent on
after it was closed and none is closed twice.  This does not depend on whose
identifier a call reads from a frame it has given back.
-/

namespace Libbinder.Rpc

open Go List Function
open State

variable {β : Type}

/-- A channel and what was done with it. -/
@[ext]
structure Track (β : Type) where
  takers : List Party
  sends : Nat
  closes : Nat
  channel : Channel β

namespace Track

/-- Nobody has taken the channel. -/
def fresh : Track β where
  takers := []
  sends := 0
  closes := 0
  channel := ⟨none, false⟩

/-- Somebody has taken the channel and not used it yet. -/
def held (party : Party) : Track β :=
  { fresh with takers := [party] }

/-- The reader has sent a reply, which may have been received. -/
def sent (buffer : Option (ReplyFrame β)) : Track β where
  takers := [.reader]
  sends := 1
  closes := 0
  channel := ⟨buffer, false⟩

/-- The channel was taken, sent on and closed at most once. -/
structure Once (track : Track β) : Prop where
  takers : track.takers.length ≤ 1
  sends : track.sends ≤ track.takers.length
  closes : track.closes ≤ track.takers.length

theorem once_fresh : Once (fresh : Track β) :=
  ⟨Nat.zero_le _, Nat.le_refl _, Nat.le_refl _⟩

theorem once_held (party : Party) : Once (held party : Track β) :=
  ⟨Nat.le_refl _, Nat.zero_le _, Nat.zero_le _⟩

end Track

open Track

/-- How far a channel has come. -/
inductive Stage where
  | fresh
  | held (party : Party)
  /-- The reader has sent the reply and is to close the channel. -/
  | sent

namespace Stage

/-- What was done with a channel in a stage. -/
def Fits (track : Track β) : Stage → Prop
  | .fresh => track = .fresh
  | .held party => track = .held party
  | .sent => ∃ buffer, track = .sent buffer

/-- Who has taken the channel, and how often it was sent on. -/
def mark : Stage → List Party × Nat
  | .fresh => ([], 0)
  | .held party => ([party], 0)
  | .sent => ([.reader], 1)

variable {track : Track β} {stage other : Stage}

theorem Fits.mark (fits : stage.Fits track) : (track.takers, track.sends) = stage.mark := by
  cases stage with
  | fresh | held =>
    rw [show track = _ from fits]
    rfl
  | sent =>
    rcases fits with ⟨buffer, rfl⟩
    rfl

/-- A channel is in one stage at most. -/
theorem Fits.unique (fits : stage.Fits track) :
    ∀ other : Stage, other.Fits track → other = stage := by
  intro other also
  have same := also.mark.symm.trans fits.mark
  cases stage <;> cases other <;> cases same <;> rfl

/-- Only the reader fills a channel. -/
theorem Fits.sent_of_buffer {reply : ReplyFrame β} (stored : track.channel.buffer = some reply) :
    ∀ stage : Stage, stage.Fits track → stage = .sent := by
  intro stage fits
  cases stage with
  | fresh | held =>
    rw [show track = _ from fits] at stored
    cases stored
  | sent => rfl

end Stage

namespace Delivery

variable {s t : Delivery β}

/-- What was done with a channel. -/
def track (s : Delivery β) (d : Nat) : Track β :=
  ⟨s.takers d, s.sends d, s.closes d, s.calls.channel d⟩

/-- Who has a channel, and what stage of it they rely on. -/
inductive Claims (s : Delivery β) (d : Nat) : Stage → Prop where
  | pending {id : UInt64} (stored : (id, d) ∈ s.calls.pending) : Claims s d .fresh
  | early (early : (s.calls.phase d).registered = false) : Claims s d .fresh
  | reading {frame : ReplyFrame β} (reads : s.calls.reader = some (d, frame))
      (unsent : s.sent = false) : Claims s d (.held .reader)
  | sending {frame : ReplyFrame β} (reads : s.calls.reader = some (d, frame))
      (sent : s.sent) : Claims s d .sent
  | clearing {c : Nat} (clears : (s.calls.phase c).closingChannel = some d) :
      Claims s d (.held (.call c))
  | remaining (left : d ∈ s.calls.shutdown.remaining) : Claims s d (.held .shutdown)

/-- The invariant of the channels. -/
structure Owned (s : Delivery β) : Prop where
  tracks : ∀ d stage, s.Claims d stage → stage.Fits (s.track d)
  registered : ∀ id d, (id, d) ∈ s.calls.pending → (s.calls.phase d).registered
  single : (s.calls.pending.map Prod.snd).Nodup
  remainingSingle : s.calls.shutdown.remaining.Nodup
  once : ∀ d, (s.track d).Once
  calm : s.panicked = false
  unsent : s.calls.reader = none → s.sent = false

theorem Owned.init : Owned (.init : Delivery β) where
  tracks := by
    intro d stage claim
    cases claim with
    | early => rfl
    | pending none | reading none | sending none | clearing none | remaining none => cases none
  registered := by rintro _ _ ⟨⟩
  single := nodup_nil
  remainingSingle := nodup_nil
  once := fun _ => once_fresh
  calm := rfl
  unsent := fun _ => rfl

variable {d : Nat} {e : Nat} {track : Track β}

/-- What a known history says of the records. -/
theorem fields_of_track (now : s.track d = track) :
    s.takers d = track.takers ∧ s.sends d = track.sends ∧
      s.closes d = track.closes ∧ s.calls.channel d = track.channel := by
  subst now
  exact ⟨rfl, rfl, rfl, rfl⟩

/-- The pending map, the channels and those who hold them are as before. -/
structure Quiet (s : State β) (t : State β) : Prop where
  pending : t.pending = s.pending
  channel : t.channel = s.channel
  reader : t.reader = s.reader
  remaining : t.shutdown.remaining = s.shutdown.remaining
  closing : ∀ c, (t.phase c).closingChannel = (s.phase c).closingChannel
  registered : ∀ c, (s.phase c).registered → (t.phase c).registered

/-- A call that has not registered its channel had not done so before. -/
theorem unregistered_of_grown
    {before after : Phase β} (known : before.registered → after.registered)
    (early : after.registered = false) : before.registered = false := by
  rw [← Bool.not_eq_true] at early ⊢
  exact fun was => early (known was)

variable {calls : State β} {c : Nat}

theorem Quiet.setPhase
    {old new : Phase β} (now : calls.phase c = old)
    (closing : new.closingChannel = old.closingChannel)
    (registered : old.registered → new.registered) :
    Quiet calls (calls.setPhase c new) where
  pending := rfl
  channel := rfl
  reader := rfl
  remaining := rfl
  closing := by
    intro d
    rw [phase_setPhase]
    split_ifs with same
    · rw [same, now, closing]
    · rfl
  registered := by
    intro d passed
    rw [phase_setPhase]
    split_ifs with same
    · rw [same, now] at passed
      exact registered passed
    · exact passed

variable {id : UInt64}

/-- An identifier that finds nothing deletes nothing. -/
theorem delete_of_lookup_none (none_ : calls.lookup id = none) :
    (calls.delete id).pending = calls.pending := by
  change calls.pending.filter _ = calls.pending
  rw [filter_eq_self]
  intro entry mem
  have differs := List.find?_eq_none.mp (Option.map_eq_none_iff.mp none_)
  have distinct := differs entry mem
  simp only [decide_eq_true_eq] at distinct ⊢
  exact distinct

theorem takers_take_nil (s : Delivery β) (party : Party) : (s.take party []).takers = s.takers := by
  funext d
  simp [take]

theorem track_take_of_ne
    (party : Party) (apart : e ≠ d) (channel : calls.channel = s.calls.channel) :
    ({ s.take party [d] with calls := calls } : Delivery β).track e = s.track e := by
  simp [track, take, apart, channel]

theorem track_take_self
    (party : Party) (fresh : s.track d = .fresh) (channel : calls.channel = s.calls.channel) :
    ({ s.take party [d] with calls := calls } : Delivery β).track d = .held party := by
  rcases fields_of_track fresh with ⟨takers, sends, closes, channels⟩
  simp [track, take, Track.held, Track.fresh, takers, sends, closes, channel, channels]

variable {frame : ReplyFrame β} {party : Party}

theorem channel_of_held (held : s.track d = .held party) : s.calls.channel d = ⟨none, false⟩ :=
  congrArg Track.channel held

/-- The one who holds a channel closes it without a panic. -/
theorem close_of_held (held : s.track d = .held party) :
    s.close (some d) = { s with closes := update s.closes d (s.closes d + 1) } := by
  simp [close, Channel.close, channel_of_held held]

/-- Nobody has a channel who did not have it before. -/
theorem Quiet.claims
    {stage : Stage} (quiet : Quiet s.calls t.calls) (sent : t.sent = s.sent)
    (claim : t.Claims d stage) : s.Claims d stage := by
  cases claim with
  | pending stored => exact .pending (quiet.pending ▸ stored)
  | early early => exact .early (unregistered_of_grown (quiet.registered d) early)
  | reading reads unsent => exact .reading (quiet.reader ▸ reads) (sent ▸ unsent)
  | sending reads sends => exact .sending (quiet.reader ▸ reads) (sent ▸ sends)
  | clearing clears => exact .clearing (quiet.closing _ ▸ clears)
  | remaining left => exact .remaining (quiet.remaining ▸ left)

variable (owned : Owned s)

include owned

/-- An action that touches no channel keeps the invariant. -/
theorem Owned.quiet
    (quiet : Quiet s.calls t.calls) (takers : t.takers = s.takers) (sends : t.sends = s.sends)
    (closes : t.closes = s.closes) (sent : t.sent = s.sent) (broke : t.panicked = s.panicked) :
    Owned t := by
  have tracks : t.track = s.track := by
    funext d
    simp only [track, quiet.channel, takers, sends, closes]
  exact {
    tracks := by
      rw [tracks]
      exact fun d stage claim => owned.tracks d stage (quiet.claims sent claim)
    registered := by
      rw [quiet.pending]
      exact fun id d stored => quiet.registered d (owned.registered id d stored)
    single := by
      rw [quiet.pending]
      exact owned.single
    remainingSingle := by
      rw [quiet.remaining]
      exact owned.remainingSingle
    once := by
      rw [tracks]
      exact owned.once
    calm := broke.trans owned.calm
    unsent := by
      rw [quiet.reader, sent]
      exact owned.unsent }

/--
One channel changes hands.  The others are as before, so what is left to show
is who has the one channel now.
-/
theorem Owned.change
    (old : Stage) (before : ∀ stage, stage.Fits (s.track d) → stage = old)
    (others : ∀ e, e ≠ d → t.track e = s.track e) (once : (t.track d).Once)
    (claims : ∀ e stage, t.Claims e stage →
        stage.Fits (t.track e) ∨ s.Claims e stage ∧ (e = d → stage ≠ old))
    (registered : ∀ id e, (id, e) ∈ t.calls.pending → (t.calls.phase e).registered)
    (single : (t.calls.pending.map Prod.snd).Nodup)
    (remainingSingle : t.calls.shutdown.remaining.Nodup) (calm : t.panicked = false)
    (unsent : t.calls.reader = none → t.sent = false) : Owned t where
  tracks := by
    intro e stage claim
    rcases claims e stage claim with fits | ⟨was, apart⟩
    · exact fits
    · have fits := owned.tracks e stage was
      rw [others e]
      · exact fits
      · rintro rfl
        exact apart rfl (before stage fits)
  registered := registered
  single := single
  remainingSingle := remainingSingle
  once := by
    intro e
    by_cases same : e = d
    · rwa [same]
    · rw [others e same]
      exact owned.once e
  calm := calm
  unsent := unsent

/-- Something happens to a channel that only the reader has had. -/
theorem Owned.touch
    (old : Stage) (before : ∀ stage, stage.Fits (s.track d) → stage = old)
    (read : old.mark.1 = [.reader])
    (others : ∀ e, e ≠ d → t.track e = s.track e) (once : (t.track d).Once)
    (pending : t.calls.pending = s.calls.pending) (phase : t.calls.phase = s.calls.phase)
    (shutdown : t.calls.shutdown = s.calls.shutdown)
    (reading :
      ∀ e frame, t.calls.reader = some (e, frame) → t.sent = false → t.track e = .held .reader)
    (sending : ∀ e frame, t.calls.reader = some (e, frame) → t.sent →
        ∃ buffer, t.track e = .sent buffer)
    (calm : t.panicked = false) (unsent : t.calls.reader = none → t.sent = false) : Owned t := by
  have apart {stage : Stage} (other : stage.mark.1 ≠ [.reader]) : stage ≠ old := by
    rintro rfl
    exact other read
  refine owned.change old before others once (fun e stage claim => ?_) ?_ ?_ ?_ calm unsent
  · cases claim with
    | pending stored => exact .inr ⟨.pending (pending ▸ stored), fun _ => apart (by decide)⟩
    | early early => exact .inr ⟨.early (phase ▸ early), fun _ => apart (by decide)⟩
    | reading reads unsent => exact .inl (reading e _ reads unsent)
    | sending reads sent => exact .inl (sending e _ reads sent)
    | clearing clears => exact .inr ⟨.clearing (phase ▸ clears), fun _ => apart (by rintro ⟨⟩)⟩
    | remaining left => exact .inr ⟨.remaining (shutdown ▸ left), fun _ => apart (by decide)⟩
  · rw [pending, phase]
    exact owned.registered
  · rw [pending]
    exact owned.single
  · rw [shutdown]
    exact owned.remainingSingle

/-- What an identifier finds is fresh, and nobody finds it again. -/
theorem Owned.found (found : s.calls.lookup id = some d) :
    (s.calls.phase d).registered ∧ s.track d = .fresh ∧
      ∀ other e, (other, e) ∈ (s.calls.delete id).pending →
        e ≠ d ∧ (other, e) ∈ s.calls.pending := by
  have stored := mem_of_lookup found
  refine ⟨owned.registered id d stored, owned.tracks d _ (.pending stored), ?_⟩
  intro other e mem
  rcases mem_filter.mp mem with ⟨before, apart⟩
  refine ⟨?_, before⟩
  rintro rfl
  have same : (other, e) = (id, e) := inj_on_of_nodup_map owned.single before stored rfl
  cases same
  simp at apart

theorem Owned.single_delete (id : UInt64) : ((s.calls.delete id).pending.map Prod.snd).Nodup :=
  owned.single.sublist (filter_sublist.map Prod.snd)

/-- Somebody takes the channel an identifier finds. -/
theorem Owned.take
    (found : s.calls.lookup id = some d) (pending : calls.pending = (s.calls.delete id).pending)
    (channel : calls.channel = s.calls.channel) (shutdown : calls.shutdown = s.calls.shutdown)
    (known : ∀ c, (s.calls.phase c).registered → (calls.phase c).registered)
    (reading : ∀ e frame, calls.reader = some (e, frame) → s.sent = false →
        (e = d ∧ party = .reader) ∨ s.calls.reader = some (e, frame))
    (sending :
      ∀ e frame, calls.reader = some (e, frame) → s.sent → s.calls.reader = some (e, frame))
    (clearing : ∀ c e, (calls.phase c).closingChannel = some e →
        (e = d ∧ party = .call c) ∨ (s.calls.phase c).closingChannel = some e)
    (unsent : calls.reader = none → s.sent = false) :
    Owned { s.take party [d] with calls := calls } := by
  rcases owned.found found with ⟨passed, fresh, fewer⟩
  rw [← pending] at fewer
  have mine := track_take_self party fresh channel
  refine owned.change (d := d) .fresh (Stage.Fits.unique fresh)
    (fun e apart => track_take_of_ne party apart channel) (by rw [mine]; exact once_held party)
    (fun e stage claim => ?_) ?_ ?_ ?_ owned.calm unsent
  · cases claim with
    | pending stored =>
      rcases fewer _ e stored with ⟨apart, was⟩
      exact .inr ⟨.pending was, fun same => absurd same apart⟩
    | early early =>
      refine .inr ⟨.early (unregistered_of_grown (known e) early), ?_⟩
      rintro rfl
      cases (known e passed).symm.trans early
    | reading reads waits =>
      rcases reading e _ reads waits with ⟨rfl, rfl⟩ | was
      · exact .inl mine
      · exact .inr ⟨.reading was waits, by rintro - ⟨⟩⟩
    | sending reads sent => exact .inr ⟨.sending (sending e _ reads sent) sent, by rintro - ⟨⟩⟩
    | clearing clears =>
      rcases clearing _ e clears with ⟨rfl, rfl⟩ | was
      · exact .inl mine
      · exact .inr ⟨.clearing was, by rintro - ⟨⟩⟩
    | remaining left => exact .inr ⟨.remaining (shutdown ▸ left), by rintro - ⟨⟩⟩
  · exact fun other e stored => known e (owned.registered other e (fewer other e stored).2)
  · change (calls.pending.map Prod.snd).Nodup
    rw [pending]
    exact owned.single_delete id
  · change calls.shutdown.remaining.Nodup
    rw [shutdown]
    exact owned.remainingSingle

/-- A call clears the identifier it has, and takes what it finds. -/
theorem Owned.clear
    {old : Phase β} (now : s.calls.phase c = old)
    (next : Option Nat → Phase β) (none_ : old.closingChannel = none)
    (closing : ∀ channel, (next channel).closingChannel = channel)
    (passed : ∀ channel, (next channel).registered) :
    Owned { s.take (.call c) (s.calls.clearPending id).2.toList with
      calls := (s.calls.clearPending id).1.setPhase c (next (s.calls.clearPending id).2) } := by
  have stays (calls : State β) (same : calls.phase = s.calls.phase) :
      Quiet calls (calls.setPhase c (next none)) := by
    refine .setPhase (same ▸ now) ?_ (fun _ => passed none)
    rw [closing, none_]
  unfold State.clearPending
  split_ifs with zero
  · exact owned.quiet (stays s.calls rfl) (takers_take_nil s (.call c)) rfl rfl rfl rfl
  · cases found : s.calls.lookup id with
    | none =>
      have moved := stays (s.calls.delete id) rfl
      refine owned.quiet ?_ (takers_take_nil s (.call c)) rfl rfl rfl rfl
      exact { moved with pending := moved.pending.trans (delete_of_lookup_none found) }
    | some d =>
      refine owned.take found rfl rfl rfl ?_ ?_ ?_ ?_ owned.unsent
      · intro b was
        rw [phase_setPhase]
        split_ifs
        · exact passed _
        · exact was
      · exact fun e frame reads _ => .inr reads
      · exact fun e frame reads _ => reads
      · intro b e closes
        rw [phase_setPhase] at closes
        split_ifs at closes with same
        · rw [closing] at closes
          cases closes
          exact .inl ⟨rfl, by rw [same]⟩
        · exact .inr closes

/-- The reader takes what the identifier of a reply finds. -/
theorem Owned.arrive (idle : s.calls.reader = none) (frame : ReplyFrame β) :
    Owned { s.take .reader (s.calls.lookup frame.id).toList with
      calls := { s.calls.delete frame.id with
        reader := (s.calls.lookup frame.id).map fun d => (d, frame) } } := by
  have unsent := owned.unsent idle
  cases found : s.calls.lookup frame.id with
  | none =>
    refine owned.quiet ?_ (takers_take_nil s .reader) rfl rfl rfl rfl
    exact {
      pending := delete_of_lookup_none found
      channel := rfl
      reader := idle.symm
      remaining := rfl
      closing := fun _ => rfl
      registered := fun _ passed => passed }
  | some d =>
    refine owned.take found rfl rfl rfl (fun _ passed => passed) ?_ ?_
      (fun _ _ closes => .inr closes) ?_
    · rintro e other ⟨⟩ _
      exact .inl ⟨rfl, rfl⟩
    · intro e other _ sent
      rw [unsent] at sent
      cases sent
    · rintro ⟨⟩

/-- A call or the shutdown closes the channel it holds. -/
theorem Owned.close
    (held : s.track d = .held party)
    (foreign : party ≠ .reader) (pending : calls.pending = s.calls.pending)
    (channel : calls.channel = update s.calls.channel d ⟨none, true⟩)
    (reader : calls.reader = s.calls.reader)
    (known : ∀ c, (s.calls.phase c).registered → (calls.phase c).registered)
    (clearing : ∀ c e, (calls.phase c).closingChannel = some e →
        (s.calls.phase c).closingChannel = some e ∧ (e = d → party ≠ .call c))
    (left : ∀ e ∈ calls.shutdown.remaining,
        e ∈ s.calls.shutdown.remaining ∧ (e = d → party ≠ .shutdown))
    (remainingSingle : calls.shutdown.remaining.Nodup) :
    Owned { s.close (some d) with calls := calls } := by
  rw [close_of_held held]
  have unlike {other : Party} (apart : party ≠ other) : Stage.held other ≠ .held party :=
    fun same => apart (Stage.held.inj same).symm
  refine owned.change (d := d) (.held party) (Stage.Fits.unique held) ?_ ?_
    (fun e stage claim => ?_) ?_ ?_ remainingSingle owned.calm ?_
  · intro e apart
    simp [track, channel, apart]
  · rcases fields_of_track held with ⟨takers, sends, closes, -⟩
    constructor <;>
      simp [track, takers, sends, closes, Track.held, Track.fresh]
  · refine .inr ?_
    cases claim with
    | pending stored => exact ⟨.pending (pending ▸ stored), by rintro - ⟨⟩⟩
    | early early => exact ⟨.early (unregistered_of_grown (known e) early), by rintro - ⟨⟩⟩
    | reading reads waits => exact ⟨.reading (reader ▸ reads) waits, fun _ => unlike foreign⟩
    | sending reads sent => exact ⟨.sending (reader ▸ reads) sent, by rintro - ⟨⟩⟩
    | clearing clears =>
      rcases clearing _ e clears with ⟨was, apart⟩
      exact ⟨.clearing was, fun same => unlike (apart same)⟩
    | remaining mem =>
      rcases left e mem with ⟨was, apart⟩
      exact ⟨.remaining was, fun same => unlike (apart same)⟩
  · intro id e stored
    exact known e (owned.registered id e (pending ▸ stored))
  · change (calls.pending.map Prod.snd).Nodup
    rw [pending]
    exact owned.single
  · change calls.reader = none → s.sent = false
    rw [reader]
    exact owned.unsent

/-- A call closes what it has cleared. -/
theorem Owned.closeCleared
    {old new : Phase β} (now : s.calls.phase c = old)
    (closed : new.closingChannel = none) (passed : new.registered) :
    Owned { s.close old.closingChannel with
      calls := (s.calls.closeChannel old.closingChannel).setPhase c new } := by
  cases clears : old.closingChannel with
  | none =>
    refine owned.quiet (.setPhase now ?_ (fun _ => passed)) rfl rfl rfl rfl rfl
    rw [closed, clears]
  | some d =>
    have held : s.track d = .held (.call c) := owned.tracks d _ (.clearing (by rw [now, clears]))
    refine owned.close held (by rintro ⟨⟩) rfl ?_ rfl ?_ ?_ ?_ owned.remainingSingle
    · change update s.calls.channel d { s.calls.channel d with closed := true } = _
      rw [channel_of_held held]
    · intro b was
      rw [phase_setPhase]
      split_ifs
      · exact passed
      · exact was
    · intro b e closes
      rw [phase_setPhase] at closes
      split_ifs at closes with same
      · rw [closed] at closes
        cases closes
      · exact ⟨closes, fun _ equal => same (Party.call.inj equal).symm⟩
    · exact fun e mem => ⟨mem, by rintro - ⟨⟩⟩

/-- The shutdown closes the next of the channels it took. -/
theorem Owned.closeNext {rest : List Nat} (closing : s.calls.shutdown = .closing (d :: rest)) :
    Owned { s.close (some d) with
      calls := { s.calls.closeChannel (some d) with shutdown := .closing rest } } := by
  have single : (d :: rest).Nodup := by
    have all := owned.remainingSingle
    rwa [closing] at all
  have held : s.track d = .held .shutdown := by
    refine owned.tracks d _ (.remaining ?_)
    rw [closing]
    exact mem_cons_self
  refine owned.close held (by rintro ⟨⟩) rfl ?_ rfl (fun _ was => was)
    (fun c e closes => ⟨closes, by rintro - ⟨⟩⟩) ?_ (nodup_cons.mp single).2
  · change update s.calls.channel d { s.calls.channel d with closed := true } = _
    rw [channel_of_held held]
  · intro e mem
    refine ⟨?_, ?_⟩
    · rw [closing]
      exact mem_cons_of_mem _ mem
    · rintro rfl
      exact absurd mem (nodup_cons.mp single).1

/-- The shutdown takes all channels of the pending map. -/
theorem Owned.swapPending
    (after : t = { s.take .shutdown (s.calls.pending.map Prod.snd) with
      calls := { s.calls with
        shutdown := .closing (s.calls.pending.map Prod.snd)
        pending := [] } }) : Owned t := by
  have others : ∀ e, e ∉ s.calls.pending.map Prod.snd → t.track e = s.track e := by
    intro e absent
    subst after
    simp only [Delivery.track, Delivery.take, if_neg absent]
  have taken :
      ∀ e, e ∈ s.calls.pending.map Prod.snd →
        Stage.fresh.Fits (s.track e) ∧ (s.calls.phase e).registered ∧
          t.track e = .held .shutdown := by
    intro e mem
    subst after
    rcases mem_map.mp mem with ⟨⟨id, _⟩, stored, rfl⟩
    have fresh := owned.tracks _ _ (.pending stored)
    refine ⟨fresh, owned.registered id _ stored, ?_⟩
    rcases fields_of_track fresh with ⟨takers, sends, closes, channel⟩
    simp only [Delivery.track, Delivery.take, if_pos mem, takers, sends, closes, channel]
    rfl
  have kept {e : Nat} {stage : Stage} (claim : s.Claims e stage) (used : stage ≠ .fresh) :
      stage.Fits (t.track e) := by
    have fits := owned.tracks e stage claim
    rw [others e]
    · exact fits
    · exact fun mem => used (Stage.Fits.unique (taken e mem).1 stage fits)
  subst after
  exact { owned with
    tracks := by
      intro e stage claim
      cases claim with
      | pending stored => cases stored
      | early early =>
        have fresh := owned.tracks e _ (.early early)
        rw [others e]
        · exact fresh
        · exact fun mem => by cases (taken e mem).2.1.symm.trans early
      | reading reads waits => exact kept (.reading reads waits) (by rintro ⟨⟩)
      | sending reads sent => exact kept (.sending reads sent) (by rintro ⟨⟩)
      | clearing clears => exact kept (.clearing clears) (by rintro ⟨⟩)
      | remaining left => exact (taken e left).2.2
    registered := by rintro _ _ ⟨⟩
    single := nodup_nil
    remainingSingle := owned.single
    once := by
      intro e
      by_cases mem : e ∈ s.calls.pending.map Prod.snd
      · rw [(taken e mem).2.2]
        exact once_held _
      · rw [others e mem]
        exact owned.once e }

/-- A call puts its own channel into the pending map. -/
theorem Owned.register
    {frame : Nat} (now : s.calls.phase c = .numbered frame false)
    (id : UInt64) (entered : Nat → Bool) :
    Owned { s with
      entered := entered
      calls := (s.calls.insert id c).setPhase c (.ready frame false) } := by
  have fresh : s.track c = .fresh := owned.tracks c _ (.early (by rw [now]; rfl))
  have passed : (((s.calls.insert id c).setPhase c (.ready frame false)).phase c).registered := by
    rw [phase_setPhase, if_pos rfl]
    rfl
  have moved : Owned { s with calls := s.calls.setPhase c (.ready frame false) } :=
    owned.quiet (.setPhase now rfl (fun _ => rfl)) rfl rfl rfl rfl rfl
  exact { moved with
    tracks := by
      intro d stage claim
      cases claim with
      | pending stored =>
        rcases mem_cons.mp stored with same | earlier
        · cases same
          exact fresh
        · exact moved.tracks d _ (.pending (mem_filter.mp earlier).1)
      | early early => exact moved.tracks d _ (.early early)
      | reading reads waits => exact moved.tracks d _ (.reading reads waits)
      | sending reads sent => exact moved.tracks d _ (.sending reads sent)
      | clearing clears => exact moved.tracks d _ (.clearing clears)
      | remaining left => exact moved.tracks d _ (.remaining left)
    registered := by
      intro other d stored
      rcases mem_cons.mp stored with same | earlier
      · cases same
        exact passed
      · exact moved.registered other d (mem_filter.mp earlier).1
    single := by
      change (c :: (s.calls.delete id).pending.map Prod.snd).Nodup
      rw [nodup_cons]
      refine ⟨?_, owned.single_delete id⟩
      intro mem
      rcases mem_map.mp mem with ⟨⟨other, _⟩, stored, rfl⟩
      have was := owned.registered other _ (mem_filter.mp stored).1
      rw [now] at was
      cases was }

/-- A call receives the reply in its channel. -/
theorem Owned.receive
    {frame : Nat} {reply : ReplyFrame β} (now : s.calls.phase c = .waiting frame)
    (stored : (s.calls.channel c).buffer = some reply)
    (after : t = { s with
      calls := { s.calls with
        channel := update s.calls.channel c { s.calls.channel c with buffer := none } }.setPhase c
        (.returned (.reply reply)) }) : Owned t := by
  have moved : Owned { s with calls := s.calls.setPhase c (.returned (.reply reply)) } :=
    owned.quiet (.setPhase now rfl (fun _ => rfl)) rfl rfl rfl rfl rfl
  have sent : ∀ stage : Stage, stage.Fits (s.track c) → stage = .sent :=
    Stage.Fits.sent_of_buffer stored
  have others : ∀ e, e ≠ c → t.track e = s.track e := by
    intro e apart
    subst after
    simp [track, State.setPhase, apart]
  subst after
  refine moved.touch (d := c) .sent sent rfl others
    ⟨(owned.once c).takers, (owned.once c).sends, (owned.once c).closes⟩
    rfl rfl rfl ?_ ?_ moved.calm moved.unsent
  · intro e other reads waits
    have held := owned.tracks e _ (.reading reads waits)
    rw [others e]
    · exact held
    · rintro rfl
      cases sent _ held
  · intro e other reads sent
    rcases owned.tracks e _ (.sending reads sent) with ⟨buffer, sending⟩
    by_cases same : e = c
    · subst same
      refine ⟨none, ?_⟩
      rcases fields_of_track sending with ⟨takers, sends, closes, channel⟩
      simp [track, State.setPhase, Track.sent, takers, sends, closes, channel]
    · exact ⟨buffer, (others e same).trans sending⟩

/-- The reader has sent the reply. -/
def replied (s : Delivery β) (d : Nat) (frame : ReplyFrame β) : Delivery β :=
  { s.setChannel d ⟨some frame, false⟩ with
    sent := true
    sends := update s.sends d (s.sends d + 1) }

/-- The reader has closed the channel it sent on. -/
def replyClosed (s : Delivery β) (d : Nat) : Delivery β :=
  { s with
    calls := { s.calls with
      channel := update s.calls.channel d { s.calls.channel d with closed := true }
      reader := none }
    sent := false
    closes := update s.closes d (s.closes d + 1) }

variable (reads : s.calls.reader = some (d, frame))

include reads

theorem Owned.send_eq (unsent : s.sent = false) : s.step .send = some (s.replied d frame) := by
  have channel := channel_of_held (owned.tracks d _ (.reading reads unsent))
  simp [step, reads, unsent, Channel.send, channel, replied]

theorem Owned.closeReply_eq (sent : s.sent) :
    s.step .closeReply = some (s.replyClosed d) := by
  rcases owned.tracks d _ (.sending reads sent) with ⟨buffer, sending⟩
  have channel : s.calls.channel d = ⟨buffer, false⟩ := congrArg Track.channel sending
  simp [step, reads, sent, Channel.close, channel, replyClosed]

theorem Owned.send (unsent : s.sent = false) : Owned (s.replied d frame) := by
  have held : s.track d = .held .reader := owned.tracks d _ (.reading reads unsent)
  rcases fields_of_track held with ⟨takers, sends, closes, -⟩
  have others : ∀ e, e ≠ d → (s.replied d frame).track e = s.track e := by
    intro e apart
    simp [track, replied, setChannel, apart]
  have mine : (s.replied d frame).track d = .sent (some frame) := by
    simp [track, replied, setChannel, Track.sent, Track.held, Track.fresh, takers, sends, closes]
  refine owned.touch (d := d) (.held .reader) (Stage.Fits.unique held) rfl others ?_
    rfl rfl rfl (by rintro e other _ ⟨⟩) ?_ owned.calm ?_
  · rw [mine]
    exact ⟨Nat.le_refl _, Nat.le_refl _, Nat.zero_le _⟩
  · intro e other again _
    cases reads.symm.trans again
    exact ⟨_, mine⟩
  · intro idle
    cases reads.symm.trans idle

theorem Owned.closeReply (sent : s.sent) : Owned (s.replyClosed d) := by
  have sending := owned.tracks d _ (.sending reads sent)
  rcases id sending with ⟨buffer, now⟩
  rcases fields_of_track now with ⟨takers, sends, closes, -⟩
  refine owned.touch (d := d) .sent (Stage.Fits.unique sending) rfl ?_ ?_ rfl rfl
    rfl (by rintro e other ⟨⟩) (by rintro e other ⟨⟩) owned.calm (fun _ => rfl)
  · intro e apart
    simp [track, replyClosed, apart]
  · constructor <;> simp [track, replyClosed, Track.sent, takers, sends, closes]

end Delivery

open Delivery

end Libbinder.Rpc
