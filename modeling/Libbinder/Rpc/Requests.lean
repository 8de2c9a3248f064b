import Libbinder.Rpc.Calls

/-!
# Request identifiers

What every run keeps about identifiers and frames as long as the counter does
not wrap around, whatever a call reads from a frame it has given back: the
identifiers of the calls are distinct and not zero, a frame in use carries the
identifier of its call, and an entry of the pending map stands under the
identifier of the call it belongs to.
-/

namespace Libbinder.Rpc

open Go Function
open State

variable {β : Type} {s t : State β}

/-! ## The phases of a call -/

namespace Phase

/-- The frame a call holds exclusively. -/
def heldFrame : Phase β → Option Nat
  | .framed frame _ | .numbered frame _ | .ready frame _ | .failed frame | .failedClosing frame _
  | .failedClosed frame | .sent frame _ => some frame
  | _ => none

/-- The call has no request identifier yet. -/
def unnumbered : Phase β → Bool
  | .idle => true
  | .started _ => true
  | .framed _ _ => true
  | _ => false

/-- The call has passed the registration of its channel. -/
def registered : Phase β → Bool
  | .idle => false
  | .started _ => false
  | .framed _ _ => false
  | .numbered _ _ => false
  | _ => true

/-- The channel the call took out of the pending map and will close. -/
def closingChannel : Phase β → Option Nat
  | .failedClosing _ channel => channel
  | .givenUp channel _ => channel
  | _ => none

end Phase

attribute [simp] Phase.heldFrame Phase.unnumbered Phase.registered

/-- The channels `shutdown` still has to close. -/
def Shutdown.remaining : Shutdown → List Nat
  | .closing channels => channels
  | _ => []

theorem phase_setPhase (s : State β) (c d : Nat) (phase : Phase β) :
    (s.setPhase c phase).phase d = if d = c then phase else s.phase d := by
  simp [setPhase, Function.update_apply]

theorem mem_of_lookup {id : UInt64} {d : Nat} (found : s.lookup id = some d) :
    (id, d) ∈ s.pending := by
  unfold lookup at found
  rw [Option.map_eq_some_iff] at found
  rcases found with ⟨⟨key, owner⟩, located, rfl⟩
  have member := List.mem_of_find?_eq_some located
  have equal := List.find?_some located
  rw [decide_eq_true_eq] at equal
  cases equal
  exact member

/-! ## What an action does -/

/-- The state after a call took the next request identifier. -/
def assign (s : State β) (c frame : Nat) (oneway : Bool) : State β :=
  { s with
    nextRequest := s.nextRequest + 1
    frameId := update s.frameId frame (s.nextRequest + 1)
    requestId := update s.requestId c (some (s.nextRequest + 1)) }.setPhase c
    (.numbered frame oneway)

/-- The outcomes of the actions. -/
inductive Acts (s : State β) : Label β → State β → Prop where
  | start (c : Nat) (oneway : Bool) (current : s.phase c = .idle) :
      Acts s (.start c oneway) (s.setPhase c (.started oneway))
  | refuse (c : Nat) (current : s.phase c = .idle) :
      Acts s (.refuse c) (s.setPhase c (.returned .refused))
  | getFrame (c frame : Nat) (oneway : Bool)
      (current : s.phase c = .started oneway)
      (available : s.canGet frame) :
      Acts s (.getFrame c frame)
        ({ s with owner := update s.owner frame (.call c) }.setPhase c (.framed frame oneway))
  | number (c frame : Nat) (oneway : Bool)
      (current : s.phase c = .framed frame oneway) :
      Acts s (.number c) (assign s c frame oneway)
  | registerOneway (c frame : Nat) (current : s.phase c = .numbered frame true) :
      Acts s (.register c) (s.setPhase c (.ready frame true))
  | register (c frame : Nat) (current : s.phase c = .numbered frame false) :
      Acts s (.register c) ((s.insert (s.frameId frame) c).setPhase c (.ready frame false))
  | writeFrame (c frame : Nat) (oneway : Bool)
      (current : s.phase c = .ready frame oneway)
      (connected : s.closed = false) :
      Acts s (.writeFrame c) (s.setPhase c (.sent frame oneway))
  | writeFails (c frame : Nat) (oneway : Bool)
      (current : s.phase c = .ready frame oneway) :
      Acts s (.writeFails c) (s.setPhase c (.failed frame))
  | clearFailed (c frame : Nat) (current : s.phase c = .failed frame) :
      Acts s (.clearFailed c)
        ((s.clearPending (s.frameId frame)).1.setPhase c
          (.failedClosing frame (s.clearPending (s.frameId frame)).2))
  | closeFailed (c frame : Nat) (channel : Option Nat)
      (current : s.phase c = .failedClosing frame channel) :
      Acts s (.closeFailed c) ((s.closeChannel channel).setPhase c (.failedClosed frame))
  | putFailed (c frame : Nat) (current : s.phase c = .failedClosed frame) :
      Acts s (.putFailed c) ((s.putFrame frame).setPhase c (.returned .writeError))
  | putOneway (c frame : Nat) (current : s.phase c = .sent frame true) :
      Acts s (.putSent c) ((s.putFrame frame).setPhase c (.returned .onewaySent))
  | putSent (c frame : Nat) (current : s.phase c = .sent frame false) :
      Acts s (.putSent c) ((s.putFrame frame).setPhase c (.waiting frame))
  | receiveReply (c frame : Nat) (reply : ReplyFrame β)
      (current : s.phase c = .waiting frame)
      (stored : (s.channel c).buffer = some reply) :
      Acts s (.receive c)
        ({ s with
          channel := update s.channel c { s.channel c with buffer := none } }.setPhase c
          (.returned (.reply reply)))
  | receiveClosed (c frame : Nat) (current : s.phase c = .waiting frame) :
      Acts s (.receive c) (s.setPhase c (.returned .connectionError))
  | giveUp (c frame : Nat) (why : GiveUp)
      (current : s.phase c = .waiting frame) :
      Acts s (.giveUp c why) (s.setPhase c (.givingUp (s.frameId frame) why))
  | clear (c : Nat) (id : UInt64) (why : GiveUp)
      (current : s.phase c = .givingUp id why) :
      Acts s (.clear c) ((s.clearPending id).1.setPhase c (.givenUp (s.clearPending id).2 why))
  | closeCleared (c : Nat) (channel : Option Nat) (why : GiveUp)
      (current : s.phase c = .givenUp channel why) :
      Acts s (.closeCleared c) ((s.closeChannel channel).setPhase c (.returned why.result))
  | arrive (frame : ReplyFrame β) (idle : s.reader = none) :
      Acts s (.arrive frame)
        { s.delete frame.id with reader := (s.lookup frame.id).map fun d => (d, frame) }
  | deliver (d : Nat) (frame : ReplyFrame β)
      (reading : s.reader = some (d, frame)) :
      Acts s .deliver
        { s with
          reader := none
          channel := update s.channel d ⟨some frame, true⟩ }
  | closeConn (running : s.shutdown = .running) :
      Acts s .closeConn { s with shutdown := .connClosed }
  | swapPending (connClosed : s.shutdown = .connClosed) :
      Acts s .swapPending
        { s with
          shutdown := .closing (s.pending.map Prod.snd)
          pending := [] }
  | closeNext (d : Nat) (rest : List Nat)
      (closing : s.shutdown = .closing (d :: rest)) :
      Acts s .closeNext { s.closeChannel (some d) with shutdown := .closing rest }
  | serve (frame : Nat) (id : UInt64) (available : s.canGet frame) :
      Acts s (.serve frame id)
        { s with
          owner := update s.owner frame .server
          frameId := update s.frameId frame id }
  | served (frame : Nat) (held : s.owner frame = .server) :
      Acts s (.served frame) (s.putFrame frame)
  | drop (frame : Nat) (pooled : s.owner frame = .pool) :
      Acts s (.drop frame) { s with owner := update s.owner frame .dropped }

theorem acts_of_step {label : Label β} (ran : step s label = some t) : Acts s label t := by
  revert ran
  fun_cases step s label <;> rintro ⟨⟩
  · next now _ => exact .start _ _ now
  · next now => exact .refuse _ now
  · next now room => exact .getFrame _ _ _ now room
  · next now => exact .number _ _ _ now
  · next now => exact .registerOneway _ _ now
  · next now => exact .register _ _ now
  · next now closed =>
      exact .writeFrame _ _ _ now (by simpa using closed)
  · next now => exact .writeFails _ _ _ now
  · next now _ _ clear =>
      have acts := Acts.clearFailed _ _ now
      rwa [clear] at acts
  · next now => exact .closeFailed _ _ _ now
  · next now => exact .putFailed _ _ now
  · next now => exact .putOneway _ _ now
  · next now => exact .putSent _ _ now
  · next now _ stored => exact .receiveReply _ _ _ now stored
  · next now _ _ => exact .receiveClosed _ _ now
  · next now _ => exact .giveUp _ _ _ now
  · next now _ _ clear =>
      have acts := Acts.clear _ _ _ now
      rwa [clear] at acts
  · next now => exact .closeCleared _ _ _ now
  · next idle => exact .arrive _ idle
  · next reading => exact .deliver _ _ reading
  · next runs => exact .closeConn runs
  · next connClosed => exact .swapPending connClosed
  · next closing => exact .closeNext _ _ closing
  · next room => exact .serve _ _ room
  · next held => exact .served _ held
  · next pooled => exact .drop _ pooled

/-! ## The identifiers -/

/-- The request counter does not wrap around. -/
def Unwrapped (s : State β) : Label β → Prop
  | .number _ => s.nextRequest.toNat + 1 < 2 ^ 64
  | _ => True

theorem unwrapped_of_ne {label : Label β} (other : ∀ c, label ≠ .number c) : Unwrapped s label := by
  cases label with
  | number c => exact absurd rfl (other c)
  | _ => trivial

instance (s : State β) (label : Label β) : Decidable (Unwrapped s label) := by
  cases label with
  | number c => exact Nat.decLt _ _
  | _ => exact instDecidableTrue

/-- Request ids and frames belong to one call each. -/
structure Requests (s : State β) : Prop where
  bounded : ∀ c id, s.requestId c = some id → id ≠ 0 ∧ id.toNat ≤ s.nextRequest.toNat
  distinct : ∀ c d id, s.requestId c = some id → s.requestId d = some id → c = d
  unnumbered : ∀ c, (s.phase c).unnumbered → s.requestId c = none
  owned : ∀ c frame, (s.phase c).heldFrame = some frame → s.owner frame = .call c
  labelled : ∀ c frame, (s.phase c).heldFrame = some frame →
      (s.phase c).unnumbered = false → s.requestId c = some (s.frameId frame)
  entries : ∀ id c, (id, c) ∈ s.pending → s.requestId c = some id ∧ (s.phase c).registered

namespace Requests

theorem init : Requests (.init : State β) where
  bounded := by rintro _ _ ⟨⟩
  distinct := by rintro _ _ _ ⟨⟩
  unnumbered := by
    intro c _
    rfl
  owned := by rintro _ _ ⟨⟩
  labelled := by rintro _ _ ⟨⟩
  entries := by rintro _ _ ⟨⟩

variable {c frame : Nat} (requests : Requests s)

include requests

/-- A frame in use carries the identifier of its call. -/
theorem labelled_of
    {old : Phase β} (now : s.phase c = old) (held : old.heldFrame = some frame)
    (later : old.unnumbered = false) : s.requestId c = some (s.frameId frame) := by
  subst now
  exact requests.labelled c frame held later

/-- Only calls, frames and the pending map play a part. -/
theorem of_fewer
    (nextRequest : t.nextRequest = s.nextRequest)
    (requestId : t.requestId = s.requestId) (phase : t.phase = s.phase) (owner : t.owner = s.owner)
    (frameId : t.frameId = s.frameId) (pending : ∀ entry ∈ t.pending, entry ∈ s.pending) :
    Requests t where
  bounded := by
    rw [requestId, nextRequest]
    exact requests.bounded
  distinct := by
    rw [requestId]
    exact requests.distinct
  unnumbered := by
    rw [requestId, phase]
    exact requests.unnumbered
  owned := by
    rw [phase, owner]
    exact requests.owned
  labelled := by
    rw [requestId, phase, frameId]
    exact requests.labelled
  entries := by
    rw [requestId, phase]
    intro id c mem
    exact requests.entries id c (pending _ mem)

theorem setPhase
    {phase : Phase β} (unnumbered : phase.unnumbered → s.requestId c = none)
    (owned : ∀ frame, phase.heldFrame = some frame → s.owner frame = .call c)
    (labelled : ∀ frame, phase.heldFrame = some frame → phase.unnumbered = false →
        s.requestId c = some (s.frameId frame))
    (known : (s.phase c).registered → phase.registered) : Requests (s.setPhase c phase) :=
  { requests with
    unnumbered := by
      intro d early
      rw [phase_setPhase] at early
      split_ifs at early with same
      · subst same
        exact unnumbered early
      · exact requests.unnumbered d early
    owned := by
      intro d frame held
      rw [phase_setPhase] at held
      split_ifs at held with same
      · subst same
        exact owned frame held
      · exact requests.owned d frame held
    labelled := by
      intro d frame held later
      rw [phase_setPhase] at held later
      split_ifs at held later with same
      · subst same
        exact labelled frame held later
      · exact requests.labelled d frame held later
    entries := by
      intro id d mem
      rcases requests.entries id d mem with ⟨given, passed⟩
      refine ⟨given, ?_⟩
      rw [phase_setPhase]
      split_ifs with same
      · subst same
        exact known passed
      · exact passed }

/-- A call goes on with the frame it has, or without one. -/
theorem advance
    {old new : Phase β} (now : s.phase c = old) (unnumbered : new.unnumbered → old.unnumbered)
    (held : ∀ frame, new.heldFrame = some frame →
        old.heldFrame = some frame ∧ (new.unnumbered = false → old.unnumbered = false))
    (known : old.registered → new.registered) : Requests (s.setPhase c new) := by
  subst now
  refine requests.setPhase ?_ ?_ ?_ known
  · intro early
    exact requests.unnumbered c (unnumbered early)
  · intro frame holds
    exact requests.owned c frame (held frame holds).1
  · intro frame holds later
    exact requests.labelled c frame (held frame holds).1 ((held frame holds).2 later)

/-- A frame no call holds may be changed and handed to anybody. -/
theorem setFrame (free : ∀ c, (s.phase c).heldFrame ≠ some frame) (owner : Owner) (id : UInt64) :
    Requests { s with
      owner := update s.owner frame owner
      frameId := update s.frameId frame id } :=
  { requests with
    owned := by
      intro c other held
      have apart : other ≠ frame := by
        rintro rfl
        exact free c held
      simp only [update_of_ne apart]
      exact requests.owned c other held
    labelled := by
      intro c other held later
      have apart : other ≠ frame := by
        rintro rfl
        exact free c held
      simp only [update_of_ne apart]
      exact requests.labelled c other held later }

theorem free_of_owner (elsewhere : ∀ c, s.owner frame ≠ .call c) (c : Nat) :
    (s.phase c).heldFrame ≠ some frame := by
  intro held
  exact elsewhere c (requests.owned c frame held)

theorem free_of_canGet (room : s.canGet frame) (c : Nat) : (s.phase c).heldFrame ≠ some frame := by
  refine requests.free_of_owner ?_ c
  intro d taken
  simp [canGet, taken] at room

/-- A call gives its frame back and goes on without one. -/
theorem putFrame
    {new : Phase β} (held : (s.phase c).heldFrame = some frame) (passed : new.unnumbered = false)
    (freed : new.heldFrame = none) (known : (s.phase c).registered → new.registered) :
    Requests ((s.putFrame frame).setPhase c new) := by
  have mine := requests.owned c frame held
  have moved : Requests (s.setPhase c new) := by
    refine requests.setPhase ?_ ?_ ?_ known
    · intro early
      rw [passed] at early
      cases early
    · intro other holds
      rw [freed] at holds
      cases holds
    · intro other holds
      rw [freed] at holds
      cases holds
  refine moved.setFrame ?_ .pool 0
  intro d holds
  rw [phase_setPhase] at holds
  split_ifs at holds with same
  · rw [freed] at holds
    cases holds
  · have other := requests.owned d frame holds
    rw [mine] at other
    cases other
    exact same rfl

theorem getFrame {oneway : Bool} (now : s.phase c = .started oneway) (room : s.canGet frame) :
    Requests
      ({ s with owner := update s.owner frame (.call c) }.setPhase c (.framed frame oneway)) := by
  have handed := requests.setFrame (requests.free_of_canGet room) (.call c) (s.frameId frame)
  rw [update_eq_self] at handed
  refine handed.setPhase ?_ ?_ ?_ ?_
  · intro _
    exact requests.unnumbered c (by simp [now])
  · rintro other ⟨⟩
    simp
  · intro other _ later
    simp at later
  · simp [now]

end Requests

theorem requestId_assign (s : State β) (c frame d : Nat) (oneway : Bool) :
    (assign s c frame oneway).requestId d =
      if d = c then some (s.nextRequest + 1) else s.requestId d := by
  simp [assign, State.setPhase, update_apply]

theorem phase_assign (s : State β) (c frame d : Nat) (oneway : Bool) :
    (assign s c frame oneway).phase d = if d = c then .numbered frame oneway else s.phase d := by
  simp [assign, State.setPhase, update_apply]

namespace Requests

section Assign

variable {c frame : Nat} {oneway : Bool} (requests : Requests s)

include requests

variable (now : s.phase c = .framed frame oneway)

include now

/-- A call that has a number is not the one that takes the next. -/
theorem ne_of_given {d : Nat} {id : UInt64} (given : s.requestId d = some id) : d ≠ c := by
  rintro rfl
  have none := requests.unnumbered d (by simp [now])
  rw [none] at given
  cases given

/-- A number that was given stays given. -/
theorem given_assign
    {d : Nat} {id : UInt64}
    (given : s.requestId d = some id) : (Rpc.assign s c frame oneway).requestId d = some id := by
  rwa [requestId_assign, if_neg (requests.ne_of_given now given)]

theorem assign
    (noWrap : s.nextRequest.toNat + 1 < 2 ^ 64) : Requests (Rpc.assign s c frame oneway) := by
  have next : (s.nextRequest + 1).toNat = s.nextRequest.toNat + 1 := by
    rw [UInt64.toNat_add]
    simp
    omega
  have fresh {d : Nat} {id : UInt64} (given : s.requestId d = some id) :
      id ≠ s.nextRequest + 1 := by
    rintro rfl
    have := (requests.bounded d _ given).2
    omega
  have mine : s.owner frame = .call c := requests.owned c frame (by rw [now]; rfl)
  exact {
    bounded := by
      intro d id given
      change id ≠ 0 ∧ id.toNat ≤ (s.nextRequest + 1).toNat
      rw [requestId_assign] at given
      split_ifs at given with same
      · cases given
        refine ⟨?_, Nat.le_refl _⟩
        intro zero
        rw [zero] at next
        simp at next
      · have := requests.bounded d id given
        exact ⟨this.1, by omega⟩
    distinct := by
      intro d e id givenD givenE
      rw [requestId_assign] at givenD givenE
      split_ifs at givenD givenE with sameD sameE sameE
      · rw [sameD, sameE]
      · cases givenD
        exact absurd rfl (fresh givenE)
      · cases givenE
        exact absurd rfl (fresh givenD)
      · exact requests.distinct d e id givenD givenE
    unnumbered := by
      intro d early
      rw [phase_assign] at early
      split_ifs at early with same
      · simp at early
      · rw [requestId_assign, if_neg same]
        exact requests.unnumbered d early
    owned := by
      intro d held holds
      rw [phase_assign] at holds
      split_ifs at holds with same
      · cases holds
        rwa [same]
      · exact requests.owned d held holds
    labelled := by
      intro d held holds later
      rw [phase_assign] at holds later
      split_ifs at holds later with same
      · cases holds
        rw [requestId_assign, if_pos same]
        simp [Rpc.assign, State.setPhase]
      · have apart : held ≠ frame := by
          rintro rfl
          rw [requests.owned d held holds] at mine
          cases mine
          exact same rfl
        rw [requestId_assign, if_neg same]
        simp only [Rpc.assign, State.setPhase, update_of_ne apart]
        exact requests.labelled d held holds later
    entries := by
      intro id d mem
      rcases requests.entries id d mem with ⟨given, passed⟩
      refine ⟨requests.given_assign now given, ?_⟩
      rw [phase_assign, if_neg (requests.ne_of_given now given)]
      exact passed }

end Assign

theorem mem_of_mem_clearPending
    {id : UInt64} {entry : UInt64 × Nat} (mem : entry ∈ (s.clearPending id).1.pending) :
    entry ∈ s.pending := by
  unfold State.clearPending at mem
  split_ifs at mem with zero
  · exact mem
  · exact (List.mem_filter.mp mem).1

/-- `clearPending` touches the pending map only. -/
theorem clearPending_fst (s : State β) (id : UInt64) :
    (s.clearPending id).1 = { s with pending := (s.clearPending id).1.pending } := by
  unfold State.clearPending
  split_ifs <;> rfl

theorem phase_clearPending (s : State β) (id : UInt64) : (s.clearPending id).1.phase = s.phase := by
  rw [clearPending_fst]

theorem shutdown_clearPending (s : State β) (id : UInt64) :
    (s.clearPending id).1.shutdown = s.shutdown := by
  rw [clearPending_fst]

theorem phase_closeChannel (s : State β) (channel : Option Nat) :
    (s.closeChannel channel).phase = s.phase := by
  cases channel <;> rfl

variable (requests : Requests s)

include requests

/-- A call that registers its channel has no entry and displaces none. -/
theorem insert_eq {c frame : Nat} (now : s.phase c = .numbered frame false) :
    (s.insert (s.frameId frame) c).pending = (s.frameId frame, c) :: s.pending := by
  have given := requests.labelled_of now rfl rfl
  change (s.frameId frame, c) :: s.pending.filter _ = _
  congr 1
  rw [List.filter_eq_self]
  rintro ⟨id, d⟩ mem
  rcases requests.entries id d mem with ⟨other, passed⟩
  rw [decide_eq_true_eq]
  rintro rfl
  cases requests.distinct d c _ other given
  rw [now] at passed
  cases passed

theorem register {c frame : Nat} (now : s.phase c = .numbered frame false) :
    Requests ((s.insert (s.frameId frame) c).setPhase c (.ready frame false)) := by
  have ready : Requests (s.setPhase c (.ready frame false)) :=
    requests.advance now (by simp) (by simp) (by simp)
  have given := requests.labelled_of now rfl rfl
  refine ⟨ready.bounded, ready.distinct, ready.unnumbered, ready.owned, ready.labelled, ?_⟩
  intro id d mem
  rcases List.mem_cons.mp mem with same | earlier
  · cases same
    refine ⟨given, ?_⟩
    rw [phase_setPhase, if_pos rfl]
    rfl
  · exact ready.entries id d (List.mem_filter.mp earlier).1

theorem clearPending (id : UInt64) : Requests (s.clearPending id).1 := by
  unfold State.clearPending
  split_ifs with zero
  · exact requests
  · exact requests.of_fewer rfl rfl rfl rfl rfl (fun _ mem => (List.mem_filter.mp mem).1)

theorem closeChannel (channel : Option Nat) : Requests (s.closeChannel channel) := by
  cases channel with
  | none => exact requests
  | some d => exact requests.of_fewer rfl rfl rfl rfl rfl (fun _ mem => mem)

/-- Every step keeps the requests while the counter has room. -/
theorem step {label : Label β} (unwrapped : Unwrapped s label) (ran : Rpc.step s label = some t) :
    Requests t := by
  cases acts_of_step ran with
  | start _ _ now | refuse _ now | receiveClosed _ _ now
  | giveUp _ _ _ now | registerOneway _ _ now
  | writeFrame _ _ _ now | writeFails _ _ _ now =>
    exact requests.advance now (by simp) (by simp) (by simp)
  | getFrame c frame oneway now room => exact requests.getFrame now room
  | number c frame oneway now => exact requests.assign now unwrapped
  | register c frame now => exact requests.register now
  | clearFailed _ _ now | clear _ _ _ now =>
    have still (id : UInt64) := (congrFun (phase_clearPending s id) _).trans now
    exact (requests.clearPending _).advance (still _) (by simp) (by simp) (by simp)
  | closeFailed _ _ channel now | closeCleared _ channel _ now =>
    rw [← phase_closeChannel s channel] at now
    exact (requests.closeChannel channel).advance now (by simp) (by simp) (by simp)
  | putFailed _ _ now | putOneway _ _ now | putSent _ _ now =>
    exact requests.putFrame (by rw [now]; rfl) rfl rfl (fun _ => rfl)
  | receiveReply c frame reply now stored =>
    have same : Requests (s.setPhase c (.returned (.reply reply))) :=
      requests.advance now (by simp) (by simp) (by simp)
    exact same.of_fewer rfl rfl rfl rfl rfl (fun _ mem => mem)
  | arrive frame idle =>
    exact requests.of_fewer rfl rfl rfl rfl rfl (fun _ mem => (List.mem_filter.mp mem).1)
  | deliver | closeConn | closeNext =>
    exact requests.of_fewer rfl rfl rfl rfl rfl (fun _ mem => mem)
  | swapPending connClosed =>
    refine requests.of_fewer rfl rfl rfl rfl rfl ?_
    intro entry mem
    cases mem
  | serve frame id room =>
    exact requests.setFrame (requests.free_of_canGet room) .server id
  | served frame held =>
    refine requests.setFrame (requests.free_of_owner ?_) .pool 0
    intro c
    rw [held]
    rintro ⟨⟩
  | drop frame pooled =>
    have room : s.canGet frame := by
      simp [canGet, pooled]
    have free := requests.setFrame (requests.free_of_canGet room) .dropped (s.frameId frame)
    rwa [update_eq_self] at free

end Requests

end Libbinder.Rpc
