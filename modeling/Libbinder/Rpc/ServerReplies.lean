import Libbinder.Rpc.Server

/-!
# One reply for every synchronous frame

A frame of the pool has at most one holder, and only the holder writes it.  So
from the moment a goroutine takes a frame until the encoder has read all of it
the frame contains what that goroutine put there.  The invariant says so for
every goroutine: which frame it holds, what the frame contains, and what it
has written to the connection so far.
-/

namespace Libbinder.Rpc

open Go Function Server Option

variable {H : Type}

/-- The tables of an end that has no binder at all. -/
def End.empty (H : Type) : End H where
  nextExportID := 0
  exports := fun _ => none
  imports := fun _ => none
  issued := []
  removed := []

/-- Whatever the tables contain, an object is refused for one reason only. -/
theorem End.checkObject_empty
    {e : End H} {object : ParcelObject} {refusal : BinderError}
    (refused : e.checkObject object = .error refusal) :
    (End.empty Unit).checkObject object = .error refusal := by
  unfold End.checkObject at refused ⊢
  split at refused
  · exact refused
  · split at refused
    · next zero =>
        rwa [if_pos zero]
    · next nonzero =>
        rw [if_neg nonzero]
        split at refused
        · cases refused
        · split at refused
          · cases refused
          · exact refused
  · cases refused

/--
The reply says what the handler returned, or that it failed, or that an object
of its parcel cannot be sent.
-/
def Outcome.Allows (outcome : Outcome) (body : ReplyBody) : Prop :=
  match outcome with
  | .error err => body = .failed (captureRPCFrameError err)
  | .ok reply =>
    body = .sent reply ∨
      ∃ object ∈ reply.objects, ∃ refusal,
        (End.empty Unit).checkObject object = .error refusal ∧
          body = .failed (captureRPCFrameError refusal.toGoError)

namespace ServePhase

/-- What the frame of the goroutine contains, where that is fixed. -/
def content : ServePhase → Option Frame
  | .framed _ _ _ => some {}
  | .tagged request _ _ => some { kind := some .reply, id := request.id }
  | .checking request _ _ _ => some { kind := some .reply, id := request.id }
  | .filled request _ _ body | .ready request _ _ body | .encoding request _ _ body _ =>
    some (body.frame request.id)
  | .cleared _ _ _ _ => some {}
  | .dropping _ => some {}
  | _ => none

/-- The goroutine handles a transact frame and has not come to the encoder. -/
def unsent : ServePhase → Bool
  | .idle | .dispatching _ | .ignored _ | .replying _ _ | .framed _ _ _ | .tagged _ _ _
  | .checking _ _ _ _ | .filled _ _ _ _ | .ready _ _ _ _ | .encoding _ _ _ _ _ => true
  | _ => false

/-- The reply the goroutine has brought to the encoder. -/
def reply : ServePhase → Option Frame
  | .written request _ _ body | .cleared request _ _ body | .replied request _ body =>
    some (body.frame request.id)
  | _ => none

/-- What the records of a phase say about each other. -/
def Sound : ServePhase → Prop
  | .ignored request => request.oneway
  | .replying request _ => request.oneway = false
  | .framed request _ _ => request.oneway = false
  | .tagged request _ _ => request.oneway = false
  | .checking request reply _ rest =>
    request.oneway = false ∧ ∀ object ∈ rest, object ∈ reply.objects
  | .filled request outcome _ body => request.oneway = false ∧ outcome.Allows body
  | .ready request outcome _ body => request.oneway = false ∧ outcome.Allows body
  | .encoding request outcome _ body head =>
    (request.oneway = false ∧ outcome.Allows body) ∧ head = body.frame request.id
  | .written request outcome _ body | .cleared request outcome _ body
  | .replied request outcome body => request.oneway = false ∧ outcome.Allows body
  | _ => True

end ServePhase

/-- The frame a goroutine handles. -/
def ServePhase.request : ServePhase → Option TransactFrame
  | .dispatching request | .ignored request | .replying request _ | .framed request _ _
  | .tagged request _ _ | .checking request _ _ _ | .filled request _ _ _ | .ready request _ _ _
  | .encoding request _ _ _ _ | .written request _ _ _ | .cleared request _ _ _
  | .replied request _ _ => some request
  | _ => none

/-- What the handler returned for it. -/
def ServePhase.outcome : ServePhase → Option Outcome
  | .replying _ outcome => some outcome
  | .framed _ outcome _ => some outcome
  | .tagged _ outcome _ => some outcome
  | .checking _ reply _ _ => some (.ok reply)
  | .filled _ outcome _ _ | .ready _ outcome _ _ | .encoding _ outcome _ _ _
  | .written _ outcome _ _ | .cleared _ outcome _ _ | .replied _ outcome _ => some outcome
  | _ => none

/-- The goroutine has returned. -/
def ServePhase.ended : ServePhase → Bool
  | .ignored _ => true
  | .replied _ _ _ => true
  | _ => false

/-- How often the objects of a reply are looked at. -/
def Outcome.checks : Outcome → Nat
  | .ok reply => reply.objects.length + 1
  | .error _ => 0

/-- How many actions a goroutine whose handler has returned is from its end. -/
def ServePhase.remaining : ServePhase → Nat
  | .replying _ outcome => outcome.checks + 8
  | .framed _ outcome _ => outcome.checks + 7
  | .tagged _ outcome _ => outcome.checks + 6
  | .checking _ _ _ rest => rest.length + 6
  | .filled _ _ _ _ => 5
  | .ready _ _ _ _ => 4
  | .encoding _ _ _ _ _ => 3
  | .written _ _ _ _ => 2
  | .cleared _ _ _ _ => 1
  | _ => 0

/-! ## The invariant -/

namespace Server

/-- What holds of one goroutine. -/
structure UserInv (s : Server) (user : Nat) : Prop where
  holds : ∀ cell, (s.phase user).cell = some cell → s.holder cell = some user
  contains : ∀ cell frame, (s.phase user).cell = some cell →
      (s.phase user).content = some frame → s.cells cell = frame
  locks : (s.phase user).encodes → s.writeMu = some user
  sound : (s.phase user).Sound
  silent : (s.phase user).unsent → s.sentBy user = []
  replied : ∀ frame, (s.phase user).reply = some frame →
      s.sentBy user = [frame] ∨ s.sentBy user = [] ∧ s.closed

/-- Every cell and the lock have one user. -/
structure Inv (s : Server) : Prop where
  users : ∀ user, s.UserInv user
  zero : ∀ cell, s.holder cell = none → s.cells cell = {}
  locked : ∀ user, s.writeMu = some user → (s.phase user).encodes
  supply : ∃ count, ∀ cell, count ≤ cell → s.holder cell = none

/-- What a step of another goroutine leaves as it was. -/
structure Unchanged (s t : Server) (user : Nat) : Prop where
  phase : t.phase user = s.phase user
  cells :
    ∀ cell, s.holder cell = some user → t.holder cell = some user ∧ t.cells cell = s.cells cell
  lock : s.writeMu = some user → t.writeMu = some user
  sent : t.sentBy user = s.sentBy user
  closed : s.closed → t.closed

variable {s t : Server} {user other cell : Nat}

theorem UserInv.unchanged (inv : s.UserInv user) (same : Unchanged s t user) : t.UserInv user where
  holds := by
    intro cell held
    rw [same.phase] at held
    exact (same.cells cell (inv.holds cell held)).1
  contains := by
    intro cell frame held text
    rw [same.phase] at held text
    rw [(same.cells cell (inv.holds cell held)).2]
    exact inv.contains cell frame held text
  locks := by
    intro encodes
    rw [same.phase] at encodes
    exact same.lock (inv.locks encodes)
  sound := by
    rw [same.phase]
    exact inv.sound
  silent := by
    intro unsent
    rw [same.phase] at unsent
    rw [same.sent]
    exact inv.silent unsent
  replied := by
    intro frame reply
    rw [same.phase] at reply
    rw [same.sent]
    rcases inv.replied frame reply with once | ⟨never, closed⟩
    · exact .inl once
    · exact .inr ⟨never, same.closed closed⟩

@[simp]
theorem setPhase_phase_self (s : Server) (user : Nat) (phase : ServePhase) :
    (s.setPhase user phase).phase user = phase :=
  update_self _ _ _

theorem setPhase_phase_of_ne (s : Server) (phase : ServePhase) (apart : other ≠ user) :
    (s.setPhase user phase).phase other = s.phase other :=
  update_of_ne apart _ _

theorem sentBy_emit_self (s : Server) (user : Nat) (frame : Frame) :
    (s.emit user frame).sentBy user = frame :: s.sentBy user := by
  simp [sentBy, emit]

theorem sentBy_emit_of_ne (s : Server) (frame : Frame) (apart : other ≠ user) :
    (s.emit user frame).sentBy other = s.sentBy other := by
  have elsewhere : user ≠ other := apart.symm
  simp [sentBy, emit, elsewhere]

/-- What a goroutine outside `Encode` may do next. -/
structure Onward (s : Server) (before phase : ServePhase) : Prop where
  encodes : phase.encodes = false
  coded : before.encodes = false
  sound : phase.Sound
  silent : phase.unsent → before.unsent
  answer : ∀ frame, phase.reply = some frame → before.reply = some frame ∨ before.unsent ∧ s.closed

namespace Inv

theorem init : Inv .init where
  users := by
    intro user
    constructor
    · rintro _ ⟨⟩
    · rintro _ _ ⟨⟩
    · rintro ⟨⟩
    · trivial
    · intro _
      rfl
    · rintro _ ⟨⟩
  zero := fun _ _ => rfl
  locked := by rintro _ ⟨⟩
  supply := ⟨0, fun _ _ => rfl⟩

variable {phase : ServePhase}

/-- What holds of a goroutine that has come to a phase. -/
theorem userInv_setPhase
    (holds : ∀ held, phase.cell = some held → t.holder held = some user)
    (contains :
      ∀ held frame, phase.cell = some held → phase.content = some frame → t.cells held = frame)
    (locks : phase.encodes → t.writeMu = some user) (sound : phase.Sound)
    (silent : phase.unsent → t.sentBy user = [])
    (answer : ∀ frame, phase.reply = some frame →
        t.sentBy user = [frame] ∨ t.sentBy user = [] ∧ t.closed) :
    (t.setPhase user phase).UserInv user := by
  constructor
  all_goals rw [setPhase_phase_self]
  · exact holds
  · exact contains
  · exact locks
  · exact sound
  · exact silent
  · exact answer

variable {before : ServePhase} (inv : Inv s)

include inv

/-- No two goroutines hold one frame. -/
theorem exclusive
    (held : (s.phase user).cell = some cell) (alsoHeld : (s.phase other).cell = some cell) :
    user = other := by
  have holder := (inv.users user).holds cell held
  rw [(inv.users other).holds cell alsoHeld] at holder
  exact (some.inj holder).symm

theorem ne_of_locked (locked : s.writeMu = some other) (coded : (s.phase user).encodes = false) :
    other ≠ user := by
  rintro rfl
  rw [inv.locked other locked] at coded
  cases coded

/-- One goroutine moves, and the others notice nothing of it. -/
theorem move
    (own : (t.setPhase user phase).UserInv user) (phases : t.phase = s.phase)
    (cells : ∀ other held, other ≠ user → s.holder held = some other →
        t.holder held = some other ∧ t.cells held = s.cells held)
    (lock : ∀ other, other ≠ user → s.writeMu = some other → t.writeMu = some other)
    (sent : ∀ other, other ≠ user → t.sentBy other = s.sentBy other) (closed : s.closed → t.closed)
    (zero : ∀ held, t.holder held = none → t.cells held = {})
    (locked : ∀ other, t.writeMu = some other →
        if other = user then phase.encodes
        else s.writeMu = some other)
    (supply : ∃ count, ∀ held, count ≤ held → t.holder held = none) :
    Inv (t.setPhase user phase) where
  users := by
    intro other
    by_cases same : other = user
    · rwa [same]
    · refine (inv.users other).unchanged
        ⟨?_, fun held => cells other held same, lock other same, sent other same, closed⟩
      rw [setPhase_phase_of_ne t phase same, phases]
  zero := zero
  locked := by
    intro other locks
    have before := locked other locks
    split_ifs at before with same
    · rwa [same, setPhase_phase_self]
    · rw [setPhase_phase_of_ne t phase same, phases]
      exact inv.locked other before
  supply := supply

/-- Nobody else has the frame that a goroutine holds. -/
theorem ne_of_held
    {held : Nat} (holds : (s.phase user).cell = some cell) (apart : other ≠ user)
    (taken : s.holder held = some other) : held ≠ cell := by
  rintro rfl
  rw [(inv.users user).holds held holds] at taken
  exact apart (some.inj taken).symm

variable (now : s.phase user = before)

include now

/-- A goroutine moves on outside `Encode`, and frames change hands or contents. -/
theorem onward
    {cells : Nat → Frame} {holder : Nat → Option Nat} (onward : s.Onward before phase)
    (holds : ∀ held, phase.cell = some held → holder held = some user)
    (contains :
      ∀ held frame, phase.cell = some held → phase.content = some frame → cells held = frame)
    (others : ∀ other held, other ≠ user → s.holder held = some other →
        holder held = some other ∧ cells held = s.cells held)
    (zero : ∀ held, holder held = none → cells held = {})
    (supply : ∃ count, ∀ held, count ≤ held → holder held = none) :
    Inv ({ s with cells := cells, holder := holder }.setPhase user phase) := by
  have own := inv.users user
  subst now
  refine inv.move (userInv_setPhase holds contains ?_ onward.sound ?_ ?_) rfl
    others (fun _ _ => id) (fun _ _ => rfl) id zero ?_ supply
  · rw [onward.encodes]
    exact Bool.noConfusion
  · exact fun unsent => own.silent (onward.silent unsent)
  · intro frame reply
    rcases onward.answer frame reply with past | ⟨unsent, closed⟩
    · exact own.replied frame past
    · exact .inr ⟨own.silent unsent, closed⟩
  · intro other locked
    rwa [if_neg (inv.ne_of_locked locked onward.coded)]

/-- A goroutine moves on without touching anything else. -/
theorem setPhase
    (onward : s.Onward before phase) (cell : phase.cell = before.cell)
    (text : ∀ frame, phase.content = some frame → before.content = some frame) :
    Inv (s.setPhase user phase) := by
  have own := inv.users user
  subst now
  refine inv.onward rfl onward ?_ ?_ (fun _ _ _ held => ⟨held, rfl⟩) inv.zero inv.supply
  · rw [cell]
    exact own.holds
  · rw [cell]
    intro held frame holds contains
    exact own.contains held frame holds (text frame contains)

variable {frame : Frame}

/-- A goroutine writes the frame it holds and moves on. -/
theorem storeOwn
    (onward : s.Onward before phase) (held : before.cell = some cell)
    (cellAfter : phase.cell = some cell)
    (text : ∀ after, phase.content = some after → frame = after) :
    Inv ((s.store cell frame).setPhase user phase) := by
  have own := inv.users user
  subst now
  refine inv.onward rfl onward ?_ ?_ ?_ ?_ inv.supply
  · rw [cellAfter, ← held]
    exact own.holds
  · rw [cellAfter]
    rintro wanted after ⟨⟩ contains
    rw [← text after contains]
    exact update_self _ _ _
  · intro other wanted apart taken
    exact ⟨taken, update_of_ne (inv.ne_of_held held apart taken) _ _⟩
  · intro wanted free
    have apart : wanted ≠ cell := by
      rintro rfl
      cases (own.holds wanted held).symm.trans free
    exact (update_of_ne apart _ _).trans (inv.zero wanted free)

/-- A goroutine takes a frame from the pool, or a new one. -/
theorem take
    (onward : s.Onward before phase) (free : s.holder cell = none)
    (cellAfter : phase.cell = some cell) (text : ∀ after, phase.content = some after → after = {}) :
    Inv ((s.setHolder cell (some user)).setPhase user phase) := by
  refine inv.onward now onward ?_ ?_ ?_ ?_ ?_
  · rw [cellAfter]
    rintro wanted ⟨⟩
    exact update_self _ _ _
  · rw [cellAfter]
    rintro wanted after ⟨⟩ contains
    rw [text after contains]
    exact inv.zero cell free
  · intro other wanted _ taken
    have apart : wanted ≠ cell := by
      rintro rfl
      cases free.symm.trans taken
    exact ⟨(update_of_ne apart _ _).trans taken, rfl⟩
  · intro wanted unheld
    by_cases same : wanted = cell
    · rw [same]
      exact inv.zero cell free
    · exact inv.zero wanted ((update_of_ne same _ _).symm.trans unheld)
  · rcases inv.supply with ⟨count, unheld⟩
    refine ⟨max count (cell + 1), ?_⟩
    intro wanted above
    have apart : wanted ≠ cell := by
      have := le_of_max_le_right above
      omega
    exact (update_of_ne apart _ _).trans (unheld wanted (le_of_max_le_left above))

/-- A goroutine gives its cleared frame back. -/
theorem give
    (onward : s.Onward before phase) (held : before.cell = some cell)
    (clear : before.content = some {}) (cellAfter : phase.cell = none) :
    Inv ((s.setHolder cell none).setPhase user phase) := by
  have own := inv.users user
  subst now
  refine inv.onward rfl onward ?_ ?_ ?_ ?_ ?_
  · rw [cellAfter]
    rintro _ ⟨⟩
  · rw [cellAfter]
    rintro _ _ ⟨⟩
  · intro other wanted apart taken
    have elsewhere := inv.ne_of_held held apart taken
    exact ⟨(update_of_ne elsewhere _ _).trans taken, rfl⟩
  · intro wanted unheld
    by_cases same : wanted = cell
    · rw [same]
      exact own.contains cell {} held clear
    · exact inv.zero wanted ((update_of_ne same _ _).symm.trans unheld)
  · rcases inv.supply with ⟨count, unheld⟩
    refine ⟨count, ?_⟩
    intro wanted above
    by_cases same : wanted = cell
    · rw [same]
      exact update_self _ _ _
    · exact (update_of_ne same _ _).trans (unheld wanted above)

/-- A goroutine enters `Encode` and reads the head of its frame. -/
theorem enter
    (unlocked : s.writeMu = none) (sameCell : phase.cell = before.cell)
    (text : ∀ frame, phase.content = some frame → before.content = some frame)
    (encodes : phase.encodes) (sound : phase.Sound) (silent : phase.unsent → before.unsent)
    (answer : phase.reply = none) : Inv ((s.setLock (some user)).setPhase user phase) := by
  have own := inv.users user
  subst now
  refine inv.move (userInv_setPhase ?_ ?_ (fun _ => rfl) sound ?_ ?_) rfl
    (fun _ _ _ held => ⟨held, rfl⟩) ?_ (fun _ _ => rfl) id inv.zero ?_ inv.supply
  · rw [sameCell]
    exact own.holds
  · rw [sameCell]
    intro held frame holds contains
    exact own.contains held frame holds (text frame contains)
  · exact fun unsent => own.silent (silent unsent)
  · rw [answer]
    rintro _ ⟨⟩
  · intro other _ locked
    rw [unlocked] at locked
    cases locked
  · intro other locked
    rwa [if_pos (some.inj locked).symm]

/--
A goroutine leaves `Encode`: it has written a frame, or the connection was shut
down.
-/
theorem leave
    (coded : before.encodes) (sameCell : phase.cell = before.cell) (text : phase.content = none)
    (encodes : phase.encodes = false) (sound : phase.Sound) (silent : phase.unsent = false)
    (phases : t.phase = s.phase) (cells : t.cells = s.cells) (holder : t.holder = s.holder)
    (elsewhere : ∀ other, other ≠ user → t.sentBy other = s.sentBy other)
    (closed : s.closed → t.closed)
    (answer : ∀ frame, phase.reply = some frame →
        t.sentBy user = [frame] ∨ t.sentBy user = [] ∧ t.closed) :
    Inv ((t.setLock none).setPhase user phase) := by
  have own := inv.users user
  subst now
  refine inv.move (userInv_setPhase ?_ ?_ ?_ sound ?_ answer) phases ?_ ?_ elsewhere closed ?_ ?_ ?_
  · rw [sameCell]
    change ∀ held, _ → t.holder held = some user
    rw [holder]
    exact own.holds
  · rw [text]
    rintro _ _ _ ⟨⟩
  · rw [encodes]
    exact Bool.noConfusion
  · rw [silent]
    exact Bool.noConfusion
  · intro other wanted _ held
    change t.holder wanted = some other ∧ t.cells wanted = s.cells wanted
    rw [holder, cells]
    exact ⟨held, rfl⟩
  · intro other apart locked
    rw [own.locks coded] at locked
    exact absurd (some.inj locked).symm apart
  · change ∀ held, t.holder held = none → t.cells held = {}
    rw [holder, cells]
    exact inv.zero
  · rintro _ ⟨⟩
  · change ∃ count, ∀ held, count ≤ held → t.holder held = none
    rw [holder]
    exact inv.supply

omit now

theorem close : Inv s.close :=
  { inv with
    users := by
      intro user
      refine (inv.users user).unchanged ⟨rfl, ?_, id, rfl, fun _ => rfl⟩
      exact fun _ held => ⟨held, rfl⟩ }

/-! ## Steps -/

/-- What the invariant says of a goroutine whose phase is known. -/
theorem contains_of_phase
    (now : s.phase user = phase) (held : phase.cell = some cell)
    (text : phase.content = some frame) : s.cells cell = frame := by
  subst now
  exact (inv.users user).contains cell frame held text

theorem sound_of_phase (now : s.phase user = phase) : phase.Sound := by
  subst now
  exact (inv.users user).sound

theorem silent_of_phase (now : s.phase user = phase) (unsent : phase.unsent) :
    s.sentBy user = [] := by
  subst now
  exact (inv.users user).silent unsent

theorem advance (moved : s.advance user = some t) : Inv t := by
  unfold Server.advance at moved
  split at moved
  · next request outcome cell now =>
      cases moved
      have zero := inv.contains_of_phase now rfl rfl
      have sound := inv.sound_of_phase now
      refine inv.storeOwn now ⟨rfl, rfl, sound, fun _ => rfl, by rintro _ ⟨⟩⟩ rfl rfl ?_
      rintro after ⟨⟩
      rw [zero]
  · next request err cell now =>
      cases moved
      have tagged := inv.contains_of_phase now rfl rfl
      refine inv.storeOwn now
        ⟨rfl, rfl, ⟨inv.sound_of_phase now, rfl⟩, fun _ => rfl, by rintro _ ⟨⟩⟩ rfl rfl ?_
      rintro after ⟨⟩
      rw [tagged]
      rfl
  · next request reply cell now =>
      cases moved
      exact inv.setPhase now
        ⟨rfl, rfl, ⟨inv.sound_of_phase now, fun _ => id⟩, fun _ => rfl, by rintro _ ⟨⟩⟩
        rfl fun _ => id
  · next request reply cell now =>
      cases moved
      have tagged := inv.contains_of_phase now rfl rfl
      have sound := inv.sound_of_phase now
      refine inv.storeOwn now
        ⟨rfl, rfl, ⟨sound.1, .inl rfl⟩, fun _ => rfl, by rintro _ ⟨⟩⟩ rfl rfl ?_
      rintro after ⟨⟩
      rw [tagged]
      rfl
  · next request outcome cell body now =>
      cases moved
      have sound := inv.sound_of_phase now
      cases closed : s.closed with
      | true =>
        rw [if_pos rfl]
        exact inv.setPhase now ⟨rfl, rfl, sound, by rintro ⟨⟩, fun _ _ => .inr ⟨rfl, closed⟩⟩
          rfl (by rintro _ ⟨⟩)
      | false =>
        rw [if_neg Bool.false_ne_true]
        exact inv.setPhase now ⟨rfl, rfl, sound, fun _ => rfl, by rintro _ ⟨⟩⟩ rfl fun _ => id
  · next request outcome cell body now =>
      rcases ite_none_right_eq_some.mp moved with ⟨unlocked, same⟩
      cases same
      have content := inv.contains_of_phase now rfl rfl
      exact inv.enter now unlocked rfl (fun _ => id) rfl
        ⟨inv.sound_of_phase now, content⟩ (fun _ => rfl) rfl
  · next request outcome cell body head now =>
      cases moved
      have content := inv.contains_of_phase now rfl rfl
      have sound := inv.sound_of_phase now
      refine inv.leave now rfl rfl rfl rfl sound.1 rfl rfl rfl rfl
        (fun _ => sentBy_emit_of_ne s _) id ?_
      rintro frame ⟨⟩
      refine .inl ?_
      rw [sentBy_emit_self, inv.silent_of_phase now rfl, content, sound.2]
      cases body <;> rfl
  · next request outcome cell body now =>
      cases moved
      have sound := inv.sound_of_phase now
      exact inv.storeOwn now ⟨rfl, rfl, sound, by rintro ⟨⟩, fun _ => .inl⟩ rfl rfl
        (by rintro _ ⟨⟩; rfl)
  · next request outcome cell body now =>
      cases moved
      have sound := inv.sound_of_phase now
      exact inv.give now ⟨rfl, rfl, sound, by rintro ⟨⟩, fun _ => .inl⟩ rfl rfl rfl
  · next cell now =>
      rcases ite_none_right_eq_some.mp moved with ⟨unlocked, same⟩
      cases same
      exact inv.enter now unlocked rfl (by rintro _ ⟨⟩) rfl trivial (by rintro ⟨⟩) rfl
  · next cell head now =>
      cases moved
      exact inv.leave now rfl rfl rfl rfl trivial rfl rfl rfl rfl
        (fun _ => sentBy_emit_of_ne s _) id (by rintro _ ⟨⟩)
  · next cell now =>
      cases moved
      exact inv.storeOwn now ⟨rfl, rfl, trivial, by rintro ⟨⟩, by rintro _ ⟨⟩⟩ rfl rfl
        (by rintro _ ⟨⟩; rfl)
  · next cell now =>
      cases moved
      exact inv.give now ⟨rfl, rfl, trivial, by rintro ⟨⟩, by rintro _ ⟨⟩⟩ rfl rfl rfl
  · cases moved

theorem spawn {request : TransactFrame} (ran : s.step (.spawn (H := H) user request) = some t) :
    Inv t := by
  simp only [step] at ran
  split at ran
  · next now =>
      cases ran
      exact inv.setPhase now ⟨rfl, rfl, trivial, fun _ => rfl, by rintro _ ⟨⟩⟩ rfl (by rintro _ ⟨⟩)
  · cases ran

theorem dispatch
    {tables : End H} {done : Except GoError (Option ReplyParcel)}
    (ran : s.step (.dispatch user tables done) = some t) : Inv t := by
  simp only [step] at ran
  split at ran
  · next request now =>
      cases ran
      cases oneway : request.oneway with
      | true | false =>
        exact inv.setPhase now ⟨rfl, rfl, oneway, fun _ => rfl, by rintro _ ⟨⟩⟩
          rfl (by rintro _ ⟨⟩)
  · cases ran

theorem getFrame (ran : s.step (.getFrame (H := H) user cell) = some t) : Inv t := by
  simp only [step] at ran
  rcases ite_none_right_eq_some.mp ran with ⟨free, taken⟩
  split at taken
  · next request outcome now =>
      cases taken
      have sound := inv.sound_of_phase now
      exact inv.take now ⟨rfl, rfl, sound, fun _ => rfl, by rintro _ ⟨⟩⟩ free rfl
        (by rintro _ ⟨⟩; rfl)
  · next now =>
      cases taken
      exact inv.take now ⟨rfl, rfl, trivial, by rintro ⟨⟩, by rintro _ ⟨⟩⟩ free rfl (by rintro _ ⟨⟩)
  · cases taken

theorem check {tables : End H} (ran : s.step (.check user tables) = some t) : Inv t := by
  simp only [step] at ran
  split at ran
  · next request reply cell object rest now =>
      have sound := inv.sound_of_phase now
      have tagged := inv.contains_of_phase now rfl rfl
      split at ran
      · cases ran
        exact inv.setPhase now
          ⟨rfl, rfl, ⟨sound.1, fun other mem => sound.2 other (List.mem_cons_of_mem _ mem)⟩,
            fun _ => rfl, by rintro _ ⟨⟩⟩ rfl fun _ => id
      · next refusal refused =>
          cases ran
          have lawful :
              Outcome.Allows (.ok reply) (.failed (captureRPCFrameError refusal.toGoError)) :=
            .inr ⟨object, sound.2 object List.mem_cons_self, refusal,
              End.checkObject_empty refused, rfl⟩
          refine inv.storeOwn now
            ⟨rfl, rfl, ⟨sound.1, lawful⟩, fun _ => rfl, by rintro _ ⟨⟩⟩ rfl rfl ?_
          rintro after ⟨⟩
          rw [tagged]
          rfl
  · cases ran

theorem encodeFails (ran : s.step (.encodeFails (H := H) user) = some t) : Inv t := by
  simp only [step] at ran
  split at ran
  · next request outcome cell body head now =>
      cases ran
      exact inv.leave now rfl rfl rfl rfl (inv.sound_of_phase now).1
        rfl rfl rfl rfl (fun _ _ => rfl) (fun _ => rfl)
        (fun _ _ => .inr ⟨inv.silent_of_phase now rfl, rfl⟩)
  · next cell head now =>
      cases ran
      exact inv.leave now rfl rfl rfl rfl trivial rfl rfl rfl rfl
        (fun _ _ => rfl) (fun _ => rfl) (by rintro _ ⟨⟩)
  · cases ran

theorem fill (ran : s.step (.fill (H := H) user frame) = some t) : Inv t := by
  simp only [step] at ran
  split at ran
  · next cell now =>
      cases ran
      have phases : update s.phase user (.holding cell) = s.phase := by
        rw [← now]
        exact update_eq_self user s.phase
      have same : (s.store cell frame).setPhase user (.holding cell) = s.store cell frame :=
        congrArg (fun phase => { s.store cell frame with phase := phase }) phases
      rw [← same]
      exact inv.storeOwn now ⟨rfl, rfl, trivial, by rintro ⟨⟩, by rintro _ ⟨⟩⟩ rfl rfl
        (by rintro _ ⟨⟩)
  · cases ran

theorem abandon (ran : s.step (.abandon (H := H) user) = some t) : Inv t := by
  simp only [step] at ran
  split at ran
  · next cell now =>
      cases ran
      exact inv.setPhase now ⟨rfl, rfl, trivial, by rintro ⟨⟩, by rintro _ ⟨⟩⟩ rfl (by rintro _ ⟨⟩)
  · cases ran

/-- Every step keeps the invariant. -/
theorem step {label : ServeLabel H} (ran : s.step label = some t) : Inv t := by
  cases label with
  | spawn user request => exact inv.spawn ran
  | dispatch user tables done => exact inv.dispatch ran
  | getFrame user cell => exact inv.getFrame ran
  | check user tables => exact inv.check ran
  | advance user => exact inv.advance ran
  | encodeFails user => exact inv.encodeFails ran
  | fill user frame => exact inv.fill ran
  | abandon user => exact inv.abandon ran
  | shutdown =>
    cases ran
    exact inv.close

omit inv

theorem of_reaches {lawful : Server → ServeLabel H → Prop} (path : (serving H).Reaches lawful s) :
    Inv s := by
  refine path.invariant init ?_
  intro state label reached inv _ ran
  exact inv.step ran

end Inv

/-! ## Every reply is written -/

/--
The goroutine can be brought to its end on an open connection, whatever the
other goroutines are doing.
-/
def Finishes
    (H : Type) (s : Server) (user : Nat) (request : TransactFrame)
    (outcome : Outcome) : Prop :=
  ∃ (labels : List (ServeLabel H)) (t : Server) (body : ReplyBody),
    (serving H).run labels s = some t ∧ t.closed = false ∧
      t.phase user = .replied request outcome body

variable {request : TransactFrame} {outcome : Outcome} {body : ReplyBody}

theorem Finishes.step
    {label : ServeLabel H} (moved : s.step label = some t)
    (finishes : Finishes H t user request outcome) : Finishes H s user request outcome := by
  rcases finishes with ⟨labels, reached, body, ran, alive, answer⟩
  refine ⟨label :: labels, reached, body, ?_, alive, answer⟩
  have taken : (serving H).step s label = some t := moved
  simp only [System.run, taken]
  exact ran

/-- Whoever is inside `Encode` can leave it. -/
theorem advance_of_encodes (encodes : (s.phase other).encodes) :
    ∃ frame phase,
      s.advance other = some (((s.emit other frame).setLock none).setPhase other phase) := by
  cases now : s.phase other with
  | encoding request outcome cell body head =>
    refine ⟨head.encoded (s.cells cell), .written request outcome cell body, ?_⟩
    simp only [advance, now]
  | sending cell head =>
    refine ⟨head.encoded (s.cells cell), .sent cell, ?_⟩
    simp only [advance, now]
  | _ =>
    rw [now] at encodes
    cases encodes

/-- Some action brings the goroutine nearer to its end. -/
def Nears (H : Type) (s : Server) (user : Nat) (phase : ServePhase) : Prop :=
  ∃ (label : ServeLabel H) (t : Server),
    s.step label = some t ∧ t.closed = false ∧
      ∃ next, t.phase user = next ∧ next.request = phase.request ∧
        next.outcome = phase.outcome ∧ next.remaining < phase.remaining

variable {phase : ServePhase}

theorem Inv.nears
    (inv : Inv s) (alive : s.closed = false) (now : s.phase user = phase)
    (ran : phase.outcome = some outcome) (unended : phase.ended = false)
    (unlocked : phase.encodes = false → s.writeMu = none) : s.Nears H user phase := by
  cases phase with
  | replying request outcome =>
    rcases inv.supply with ⟨count, free⟩
    refine ⟨.getFrame user count, ?_⟩
    simp only [Server.step, if_pos (free count (Nat.le_refl count)), now]
    exact ⟨_, rfl, alive, _, setPhase_phase_self _ _ _, rfl, rfl, Nat.lt_succ_self _⟩
  | tagged request outcome cell =>
    refine ⟨.advance user, ?_⟩
    cases outcome
    all_goals
      simp only [Server.step, Server.advance, now]
      exact ⟨_, rfl, alive, _, setPhase_phase_self _ _ _, rfl, rfl, Nat.lt_succ_self _⟩
  | checking request reply cell rest =>
    cases rest with
    | nil =>
      refine ⟨.advance user, ?_⟩
      simp only [Server.step, Server.advance, now]
      exact ⟨_, rfl, alive, _, setPhase_phase_self _ _ _, rfl, rfl, Nat.lt_succ_self _⟩
    | cons object rest =>
      refine ⟨.check user (.empty H), ?_⟩
      cases checked : (End.empty H).checkObject object
      all_goals
        simp only [Server.step, now, checked]
        refine ⟨_, rfl, alive, _, setPhase_phase_self _ _ _, rfl, rfl, ?_⟩
        simp only [ServePhase.remaining, List.length_cons]
        omega
  | ready request outcome cell body =>
    refine ⟨.advance user, ?_⟩
    simp only [Server.step, Server.advance, now, if_pos (unlocked rfl)]
    exact ⟨_, rfl, alive, _, setPhase_phase_self _ _ _, rfl, rfl, Nat.lt_succ_self _⟩
  | framed | filled | encoding | written | cleared =>
    refine ⟨.advance user, ?_⟩
    simp only [Server.step, Server.advance, now, alive, if_neg Bool.false_ne_true]
    exact ⟨_, rfl, alive, _, setPhase_phase_self _ _ _, rfl, rfl, Nat.lt_succ_self _⟩
  | replied => cases unended
  | _ => cases ran

/-- Once the handler has returned, the reply gets written. -/
theorem Inv.finishes
    (inv : Inv s) (alive : s.closed = false) (now : s.phase user = phase)
    (done : phase.request = some request) (got : phase.outcome = some outcome) :
    Finishes H s user request outcome := by
  induction left : phase.remaining using Nat.strong_induction_on generalizing s phase with
  | _ left ih =>
    have onwards (u : Server) (inv : Inv u) (nears : u.Nears H user phase) :
        Finishes H u user request outcome := by
      rcases nears with ⟨label, t, ran, alive, next, now, sameRequest, sameOutcome, fewer⟩
      rw [left] at fewer
      exact .step ran (ih _ fewer (inv.step ran) alive now
          (sameRequest.trans done) (sameOutcome.trans got) rfl)
    cases ended : phase.ended with
    | true =>
      cases phase <;> cases ended <;> cases got
      cases done
      exact ⟨[], s, _, rfl, alive, now⟩
    | false =>
      cases locked : s.writeMu with
      | none => exact onwards s inv (inv.nears alive now got ended fun _ => locked)
      | some other =>
        cases encodes : phase.encodes with
        | true =>
          refine onwards s inv (inv.nears alive now got ended ?_)
          rw [encodes]
          rintro ⟨⟩
        | false =>
          rcases advance_of_encodes (inv.locked other locked) with ⟨frame, after, moved⟩
          have apart : user ≠ other := by
            refine (inv.ne_of_locked locked ?_).symm
            rwa [now]
          have ran : s.step (.advance (H := H) other) = _ := moved
          have left := inv.step ran
          refine .step ran (onwards _ left (left.nears alive ?_ got ended fun _ => rfl))
          rwa [setPhase_phase_of_ne _ after apart]

end Server

/-- What the peer gets for one transact frame. -/
structure Server.Served
    (s : Server) (user : Nat) (request : TransactFrame) : Prop where
  oneway : request.oneway → s.sentBy user = []
  once : (s.sentBy user).length ≤ 1
  answered : request.oneway = false → (s.phase user).ended → s.closed = false →
      ∃ outcome body,
        (s.phase user).outcome = some outcome ∧ outcome.Allows body ∧
          s.sentBy user = [body.frame request.id]

namespace Server

variable {s : Server} {user : Nat} {request : TransactFrame}

theorem served_of_unsent
    (inv : Inv s) (unsent : (s.phase user).unsent) (done : (s.phase user).request = some request) :
    s.Served user request := by
  have silent := (inv.users user).silent unsent
  refine ⟨fun _ => silent, ?_, ?_⟩
  · rw [silent]
    exact Nat.zero_le 1
  · intro sync ended
    cases now : s.phase user with
    | ignored other =>
      have sound := inv.sound_of_phase now
      rw [now] at done
      cases done
      rw [show request.oneway from sound] at sync
      cases sync
    | replied other outcome body =>
      rw [now] at unsent
      cases unsent
    | _ =>
      rw [now] at ended
      cases ended

variable {phase : ServePhase}

theorem Inv.served
    (inv : Inv s) (now : s.phase user = phase) (done : phase.request = some request) :
    s.Served user request := by
  have sound := inv.sound_of_phase now
  cases phase with
  | written _ outcome _ body | cleared _ outcome _ body | replied _ outcome body =>
    cases done
    have wrote := (inv.users user).replied (body.frame request.id) (by rw [now]; rfl)
    refine ⟨?_, ?_, ?_⟩
    · intro oneway
      rw [sound.1] at oneway
      cases oneway
    · rcases wrote with once | ⟨never, -⟩
      · rw [once]
        exact Nat.le_refl 1
      · rw [never]
        exact Nat.zero_le 1
    · intro _ _ alive
      rcases wrote with once | ⟨-, closed⟩
      · exact ⟨outcome, body, by rw [now]; rfl, sound.2, once⟩
      · rw [alive] at closed
        cases closed
  | _ =>
    refine served_of_unsent inv ?_ (by rw [now, done])
    rw [now]
    first
      | rfl
      | cases done

end Server

/--
In every run no two goroutines hold one frame.  A oneway frame never gets a
reply.  A synchronous frame gets at most one, and when its goroutine has
returned on an open connection exactly one, with the identifier of the frame
and the payload and objects of what its handler returned, or an error.  On an
open connection a goroutine whose handler has returned can always be brought
to its end.
-/
theorem replies_written_once {s : Server} (reaches : (serving H).Reaches (fun _ _ => True) s) :
    (∀ user other cell, (s.phase user).cell = some cell →
        (s.phase other).cell = some cell → user = other) ∧
      ∀ user request, (s.phase user).request = some request →
        s.Served user request ∧
          ∀ outcome, (s.phase user).outcome = some outcome →
            s.closed = false → Server.Finishes H s user request outcome := by
  have inv := Server.Inv.of_reaches reaches
  refine ⟨fun _ _ _ => inv.exclusive, ?_⟩
  intro user request handled
  refine ⟨inv.served rfl handled, ?_⟩
  intro outcome returned stillOpen
  exact inv.finishes stillOpen rfl handled returned

/-- A call of the handler with number 3. -/
def sampleRequest (id : UInt64) : TransactFrame where
  id := id
  handle := 3
  oneway := false

/-- The handler with number 3 returns a payload. -/
def sampleDispatch (user : Nat) (payload : List UInt8) : ServeLabel Nat :=
  .dispatch user ((End.init (sampleExport 0) .server).registerLocalHandler (sampleExport 10))
    (.ok (some { payload := payload, objects := [] }))

/-- Two goroutines handle a call each, step by step beside each other. -/
def servedCalls : List (ServeLabel Nat) :=
  [.spawn 0 (sampleRequest 7), .spawn 1 (sampleRequest 8), sampleDispatch 1 [3],
    sampleDispatch 0 [1, 2], .getFrame 0 0, .getFrame 1 1] ++
  [0, 1, 1, 0, 0, 1, 1, 0, 1, 1, 1, 0, 0, 0, 1, 0].map .advance

theorem servedCalls_replied :
    ∃ s,
      (serving Nat).run servedCalls Server.init = some s ∧
        s.sentBy 0 = [{ kind := some .reply, id := 7, payload := [1, 2] }] ∧
        s.sentBy 1 = [{ kind := some .reply, id := 8, payload := [3] }] ∧
        s.Served 0 (sampleRequest 7) ∧ s.Served 1 (sampleRequest 8) := by
  have meets : (serving Nat).Meets (fun _ _ => True) servedCalls Server.init := by
    decide
  have replied := (replies_written_once (System.Reaches.start.of_run meets rfl)).2
  exact ⟨_, rfl, rfl, rfl, (replied 0 (sampleRequest 7) rfl).1, (replied 1 (sampleRequest 8) rfl).1⟩

end Libbinder.Rpc
