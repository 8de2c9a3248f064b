import Libbinder.Rpc.Objects

/-!
# Binders of several sessions

A process may hold binders of any number of RPC sessions and of the kernel
connection.  Each can be written into a parcel, which records its number only,
and the parcel can be sent over any session.

A parcel on its way keeps the binder that was written into it; no code reads
that record.  Whoever reads the number obtains a binder of the session it came
over, so a binder of another session is either refused by `prepareRPCParcel` or
taken for an object of this one.
-/

namespace Libbinder.Rpc

open Go List Function

variable {H : Type}

/-- A binder some part of the program holds. -/
inductive AnyBinder where
  /-- a binder of one end of a session -/
  | rpc (index : Nat) (role : Role) (ref : BinderRef)
  /-- `remoteBinder` of the kernel connection -/
  | kernelRemote (handle : UInt32)
  /-- `localBinder` of the kernel connection -/
  | kernelLocal (node : UInt64)
deriving DecidableEq, Repr

/-- What a binder stands for. -/
inductive BinderTarget where
  | exported (index : Nat) (role : Role) (handle : UInt32)
  | kernelHandle (handle : UInt32)
  | kernelNode (node : UInt64)
deriving DecidableEq, Repr

namespace AnyBinder

def target : AnyBinder → BinderTarget
  | .rpc index role ref => .exported index (ref.denotes role).1 (ref.denotes role).2
  | .kernelRemote handle => .kernelHandle handle
  | .kernelLocal node => .kernelNode node

/-- The object `WriteStrongBinder` adds to the parcel; a node has no number. -/
def object (binder : AnyBinder) (stability : Int32) : ParcelObject where
  kind := .strongBinder
  offset := 0
  length := 28
  handle :=
    match binder with
    | .rpc _ _ ref => ref.handle
    | .kernelRemote handle => handle
    | .kernelLocal _ => 0
  stability := stability

/-- The binder is one of the session. -/
def BelongsTo (index : Nat) : AnyBinder → Prop
  | .rpc own _ _ => own = index
  | .kernelRemote _ => False
  | .kernelLocal _ => False

end AnyBinder

/-- A strong binder in a parcel that was sent over a session. -/
structure Flight where
  index : Nat
  sender : Role
  binder : AnyBinder
  object : ParcelObject
deriving DecidableEq

/-- All sessions, the binders made for them, and the binders sent. -/
structure Sessions (H : Type) where
  session : Nat → Session H
  made : List (Nat × Role × BinderRef)
  flights : List Flight

inductive SessionsAction (H : Type) where
  | act (index : Nat) (action : SessionAction H)
  | send (index : Nat) (role : Role) (binder : AnyBinder) (stability : Int32)

def SessionAction.isSend : SessionAction H → Bool
  | .send _ _ => true
  | _ => false

/-- The binder an action returns to the program. -/
def Session.makes (s : Session H) : SessionAction H → Option (Role × BinderRef)
  | .register role target => some (role, .localBinder (s.ends role).nextExportID target.stability)
  | .lookup role handle =>
    match (s.ends role).resolve handle with
    | .localBinder handle target => some (role, .localBinder handle target.stability)
    | .remoteBinder _ => none
  | .makeProxy role handle _ => some (role, .remoteBinder handle)
  | _ => none

namespace Sessions

def init (manager : Nat → Export H) : Sessions H where
  session := fun index => Session.init (manager index)
  made := []
  flights := []

/-- The program can only write binders that were made. -/
def Has (s : Sessions H) : AnyBinder → Prop
  | .rpc index role ref => (index, role, ref) ∈ s.made
  | _ => True

instance (s : Sessions H) (binder : AnyBinder) : Decidable (s.Has binder) :=
  match binder with
  | .rpc index role ref => inferInstanceAs (Decidable ((index, role, ref) ∈ s.made))
  | .kernelRemote _ => instDecidableTrue
  | .kernelLocal _ => instDecidableTrue

/-- An action of one session, with the binder it may make. -/
def act (s : Sessions H) (index : Nat) (action : SessionAction H) : Option (Sessions H) :=
  match (s.session index).step action with
  | none => none
  | some next =>
    some { s with
      session := update s.session index next
      made :=
        match (s.session index).makes action with
        | none => s.made
        | some (role, ref) => (index, role, ref) :: s.made }

/-- A parcel with one binder is sent, unless it is refused. -/
def send (s : Sessions H) (index : Nat) (role : Role) (binder : AnyBinder)
    (object : ParcelObject) : Option (Sessions H) :=
  match ((s.session index).ends role).prepareRPCParcel [object] with
  | .error _ => some s
  | .ok _ =>
    match (s.session index).step (.send role object.handle) with
    | none => none
    | some next =>
      some { s with
        session := update s.session index next
        flights :=
          { index := index, sender := role, binder := binder, object := object } :: s.flights }

/-- One action.  What a session sends is always a binder some part wrote. -/
def step (s : Sessions H) : SessionsAction H → Option (Sessions H)
  | .act index action => if action.isSend then none else s.act index action
  | .send index role binder stability =>
    if s.Has binder then
      s.send index role binder (binder.object stability)
    else none

end Sessions

/-- All runs of all sessions of a program. -/
def sessions {H : Type} (manager : Nat → Export H) : System (Sessions H) (SessionsAction H) where
  init := Sessions.init manager
  step := Sessions.step

/-- The binder the receiver of a parcel obtains when it reads the object now. -/
def Sessions.obtained (s : Sessions H) (flight : Flight) : AnyBinder :=
  .rpc flight.index flight.sender.other
    (((s.session flight.index).ends flight.sender.other).resolveRPCObject
      flight.object.handle flight.object.stability).1

/-- The receiver obtains a binder for what was written. -/
def Sessions.Delivers (s : Sessions H) (flight : Flight) : Prop :=
  (s.obtained flight).target = flight.binder.target

/-- The receiver still has the export, if the number is one of its own. -/
def Sessions.Readable (s : Sessions H) (flight : Flight) : Prop :=
  OwnSpace flight.sender.other flight.object.handle →
    (((s.session flight.index).ends flight.sender.other).lookupExport flight.object.handle).isSome

/-- Every action of a session meets the condition of the session. -/
def SessionsResolvable (s : Sessions H) : SessionsAction H → Prop
  | .act index action => Resolvable (s.session index) action
  | .send _ _ _ _ => True

instance (s : Sessions H) : (action : SessionsAction H) → Decidable (SessionsResolvable s action)
  | .act index action => inferInstanceAs (Decidable (Resolvable (s.session index) action))
  | .send _ _ _ _ => instDecidableTrue

/-! ## Spaces -/

theorem own_or_other_own (role : Role) (handle : UInt32) :
    OwnSpace role handle ∨ OwnSpace role.other handle := by
  have parity : handle.toNat % 2 = 0 ∨ handle.toNat % 2 = 1 := by omega
  cases role with
  | client => exact parity
  | server => exact parity.symm

variable {role : Role}

/-- A number of the space of two ends is of one end. -/
theorem role_eq_of_own
    {other : Role} {handle : UInt32} (own : OwnSpace role handle)
    (otherOwn : OwnSpace other handle) : other = role := by
  cases role with
  | client =>
    cases other with
    | client => rfl
    | server => exact absurd otherOwn (not_other_own_of_own own)
  | server =>
    cases other with
    | client => exact absurd otherOwn (not_other_own_of_own own)
    | server => rfl

/-! ## The invariant -/

/-- The number of a binder is of the space of the end that exports it. -/
def BinderRef.Placed (role : Role) (ref : BinderRef) : Prop :=
  OwnSpace (ref.denotes role).1 ref.handle

/-- Every session is in order. -/
structure Sessions.Inv (manager : Nat → Export H) (s : Sessions H) : Prop where
  ends : ∀ index, Session.Inv (manager index) (s.session index)
  foreign : ∀ index, Foreign (s.session index)
  placed : ∀ index role ref, (index, role, ref) ∈ s.made → ref.Placed role
  written : ∀ flight ∈ s.flights,
      s.Has flight.binder ∧ ∃ stability, flight.object = flight.binder.object stability

variable {manager : Nat → Export H}

theorem Session.makes_placed
    {m : Export H} {s next : Session H} (inv : Session.Inv m s) (foreign : Foreign s)
    {action : SessionAction H} {ref : BinderRef} (ran : s.step action = some next)
    (makes : s.makes action = some (role, ref)) : ref.Placed role := by
  cases action with
  | register role target =>
    cases makes
    exact (inv role).next_own
  | lookup role handle =>
    cases found : (s.ends role).lookupExport handle with
    | some target =>
      simp only [Session.makes, End.resolve_of_some found] at makes
      cases makes
      exact (inv role).own_of_exported found
    | none =>
      simp only [Session.makes, End.resolve_of_none found] at makes
      cases makes
  | makeProxy role handle stability =>
    cases makes
    rcases Option.ite_none_right_eq_some.mp ran with ⟨wanted, -⟩
    rcases own_or_other_own role handle with own | otherOwn
    · exact absurd own (foreign.importing role handle wanted)
    · exact otherOwn
  | _ => cases makes

namespace Sessions.Inv

variable {s : Sessions H}

theorem init (manager : Nat → Export H) : Inv manager (.init manager) where
  ends := fun index role => .init (manager index) role
  foreign := fun _ =>
    ⟨fun _ _ _ => rfl, fun _ _ mem => absurd mem not_mem_nil⟩
  placed := by rintro _ _ _ ⟨⟩
  written := by rintro _ ⟨⟩

variable {index : Nat} {action : SessionAction H} {reached : Sessions H} (inv : Inv manager s)

include inv

/-- One session takes a step that meets its condition. -/
theorem advance
    {next : Session H} (known : Resolvable (s.session index) action)
    (ran : (s.session index).step action = some next) :
    Inv manager { s with session := update s.session index next } :=
  { inv with
    ends := (forall_update_iff s.session fun other => Session.Inv (manager other)).mpr
      ⟨(inv.ends index).step known.few ran, fun other _ => inv.ends other⟩
    foreign := (forall_update_iff s.session fun _ => Foreign).mpr
      ⟨(inv.foreign index).step known ran, fun other _ => inv.foreign other⟩ }

theorem withMade {ref : BinderRef} (placed : ref.Placed role) :
    Inv manager { s with made := (index, role, ref) :: s.made } :=
  { inv with
    placed := by
      intro other otherRole otherRef mem
      rcases mem_cons.mp mem with same | earlier
      · cases same
        exact placed
      · exact inv.placed other otherRole otherRef earlier
    written := by
      intro flight mem
      rcases inv.written flight mem with ⟨has, written⟩
      refine ⟨?_, written⟩
      cases binder : flight.binder with
      | rpc own otherRole otherRef =>
        rw [binder] at has
        exact mem_cons_of_mem _ has
      | kernelRemote handle => trivial
      | kernelLocal node => trivial }

theorem withFlight
    {flight : Flight} (has : s.Has flight.binder) {level : Int32}
    (written : flight.object = flight.binder.object level) :
    Inv manager { s with flights := flight :: s.flights } :=
  { inv with
    written := by
      intro other mem
      rcases mem_cons.mp mem with rfl | earlier
      · exact ⟨has, level, written⟩
      · exact inv.written other earlier }

theorem act
    (known : Resolvable (s.session index) action) (acted : s.act index action = some reached) :
    Inv manager reached := by
  unfold Sessions.act at acted
  split at acted
  · cases acted
  · next next ran =>
    cases acted
    have advanced := inv.advance known ran
    cases makes : (s.session index).makes action with
    | none => exact advanced
    | some binder =>
      exact advanced.withMade (Session.makes_placed (inv.ends index) (inv.foreign index) ran makes)

theorem send
    {binder : AnyBinder} {level : Int32} (has : s.Has binder)
    (sent : s.send index role binder (binder.object level) = some reached) :
    Inv manager reached := by
  unfold Sessions.send at sent
  split at sent
  · cases sent
    exact inv
  · split at sent
    · cases sent
    · next next ran =>
        cases sent
        have known : Resolvable (s.session index) (.send role (binder.object level).handle) :=
          trivial
        have advanced := inv.advance known ran
        exact advanced.withFlight has rfl

theorem step
    {action : SessionsAction H} (known : SessionsResolvable s action)
    (ran : s.step action = some reached) : Inv manager reached := by
  cases action with
  | act index action =>
    rcases Option.ite_none_left_eq_some.mp ran with ⟨-, acted⟩
    exact inv.act known acted
  | send index role binder stability =>
    rcases Option.ite_none_right_eq_some.mp ran with ⟨has, sent⟩
    exact inv.send has sent

omit inv in
theorem of_reaches (path : (sessions manager).Reaches SessionsResolvable s) : Inv manager s := by
  refine path.invariant (init manager) ?_
  intro state action reached inv known ran
  exact inv.step known ran

/-! ## What the receiver obtains -/

/-- A number that the receiver exports, or that is not of its space. -/
theorem owner_of_obtained
    (flight : Flight) {owner : Role} (own : OwnSpace owner flight.object.handle) :
    (s.obtained flight).target = .exported flight.index owner flight.object.handle ↔
      s.Readable flight := by
  unfold Sessions.obtained Sessions.Readable
  cases found :
      ((s.session flight.index).ends flight.sender.other).exports flight.object.handle with
  | some target =>
    have exported := (inv.ends flight.index flight.sender.other).own_of_exported found
    have same := role_eq_of_own exported own
    subst same
    rw [End.resolveRPCObject_of_some _ found]
    constructor
    · intro _ _
      exact Option.isSome_iff_exists.mpr ⟨target, found⟩
    · intro _
      rfl
  | none =>
    rw [End.resolveRPCObject_of_none _ found]
    change
      BinderTarget.exported flight.index flight.sender.other.other
          flight.object.handle = _ ↔
        (OwnSpace flight.sender.other flight.object.handle →
          (((s.session flight.index).ends flight.sender.other).exports flight.object.handle).isSome)
    rw [found, Role.other_other]
    constructor
    · intro same otherOwn
      injection same with _ owner
      subst owner
      exact absurd otherOwn (not_other_own_of_own own)
    · intro reads
      rcases Role.eq_or_eq_other flight.sender owner with same | same
      · rw [same]
      · subst same
        cases reads own

theorem delivers_iff {flight : Flight} (sent : flight ∈ s.flights) :
    s.Delivers flight ↔ flight.binder.BelongsTo flight.index ∧ s.Readable flight := by
  rcases inv.written flight sent with ⟨has, level, written⟩
  unfold Sessions.Delivers
  cases binder : flight.binder with
  | rpc own role ref =>
    rw [binder] at has written
    have placed := inv.placed own role ref has
    have handle : flight.object.handle = ref.handle := by
      rw [written]
      rfl
    have target :
        (AnyBinder.rpc own role ref).target =
          .exported own (ref.denotes role).1 flight.object.handle := by
      rw [handle]
      cases ref <;> rfl
    have owned : OwnSpace (ref.denotes role).1 flight.object.handle := by
      rwa [handle]
    rw [← inv.owner_of_obtained flight owned, target]
    constructor
    · intro same
      have index : own = flight.index := by
        injection same with index
        exact index.symm
      refine ⟨index, ?_⟩
      rwa [← index]
    · rintro ⟨rfl, same⟩
      exact same
  | kernelRemote | kernelLocal =>
    constructor
    · rintro ⟨⟩
    · rintro ⟨belongs, -⟩
      cases belongs

end Sessions.Inv

/-! ## Sends -/

/--
A binder whose number the sending end does not know is refused and nothing is
sent.  Any other binder is sent, and whoever reads it obtains a binder for
exactly what was written if and only if it belongs to the session, and the
receiver still has the export in case the number is one of its own.
-/
theorem binder_delivered_iff
    {s : Sessions H} (reaches : (sessions manager).Reaches SessionsResolvable s) :
    (∀ (index : Nat) (role : Role) (binder : AnyBinder) (stability : Int32),
      s.Has binder →
        if ((s.session index).ends role).sendable
            (binder.object stability).handle then
          ∃ t, s.step (.send index role binder stability) = some t ∧
            { index := index
              sender := role
              binder := binder
              object := binder.object stability } ∈ t.flights
        else s.step (.send index role binder stability) = some s) ∧
      ∀ flight ∈ s.flights,
        s.Delivers flight ↔ flight.binder.BelongsTo flight.index ∧ s.Readable flight := by
  constructor
  · intro index role binder stability has
    split
    · next known =>
        have passed :
            ((s.session index).ends role).prepareRPCParcel [binder.object stability] = .ok () := by
          rw [End.prepareRPCParcel_ok_iff]
          intro object mem
          rw [mem_singleton.mp mem]
          exact (End.checkObject_strong_ok_iff rfl).mpr known
        simp only [Sessions.step, if_pos has, Sessions.send, passed, Session.step, if_pos known]
        exact ⟨_, rfl, mem_cons_self⟩
    · next unknown =>
        simp only [Sessions.step, if_pos has, Sessions.send]
        split
        · rfl
        · next passed =>
            have checked := End.prepareRPCParcel_ok_iff.mp passed _ (mem_singleton_self _)
            exact absurd ((End.checkObject_strong_ok_iff rfl).mp checked) unknown
  · intro flight sent
    exact (Sessions.Inv.of_reaches reaches).delivers_iff sent

/-- Two sessions whose servers both export a handler under number 3. -/
def twoSessions : List (SessionsAction Nat) :=
  [.act 0 (.register .server (sampleExport 10)), .act 1 (.register .server (sampleExport 20))]

def ownFlight : Flight where
  index := 0
  sender := .server
  binder := .rpc 0 .server (.localBinder 3 0)
  object := AnyBinder.object (.rpc 0 .server (.localBinder 3 0)) 12

/-- The binder of the first session is sent over the first session. -/
theorem own_binder_delivered :
    ∃ s,
      (sessions fun _ => sampleExport 0).run
          (twoSessions ++ [.send 0 .server (.rpc 0 .server (.localBinder 3 0)) 12])
          (Sessions.init fun _ => sampleExport 0) = some s ∧
        ownFlight ∈ s.flights ∧ s.Delivers ownFlight := by
  refine ⟨_, rfl, by decide, ?_⟩
  have meets :
      (sessions fun _ => sampleExport 0).Meets SessionsResolvable
        (twoSessions ++ [.send 0 .server (.rpc 0 .server (.localBinder 3 0)) 12])
        (Sessions.init fun _ => sampleExport 0) := by
    decide
  have iff := (binder_delivered_iff (System.Reaches.start.of_run meets rfl)).2 ownFlight (by decide)
  refine iff.mpr ⟨rfl, ?_⟩
  intro own
  exact absurd own (by decide)

def strayFlight : Flight where
  index := 0
  sender := .server
  binder := .rpc 1 .server (.localBinder 3 0)
  object := AnyBinder.object (.rpc 1 .server (.localBinder 3 0)) 12

/--
The binder of the second session is sent over the first one.  It is accepted,
and the client of the first session obtains a proxy for the handler that the
server of the first session exports under that number.
-/
theorem stray_binder_confused :
    ∃ s,
      (sessions fun _ => sampleExport 0).run
          (twoSessions ++ [.send 0 .server (.rpc 1 .server (.localBinder 3 0)) 12])
          (Sessions.init fun _ => sampleExport 0) = some s ∧
        strayFlight ∈ s.flights ∧
          s.obtained strayFlight = .rpc 0 .client (.remoteBinder 3) ∧ ¬ s.Delivers strayFlight := by
  refine ⟨_, rfl, by decide, rfl, ?_⟩
  intro delivers
  cases delivers

end Libbinder.Rpc
