import Libbinder.Rpc.Services

/-!
# Service lookups agree with registrations

The registry always holds the latest registration of a name.  A cache entry is
only replaced or dropped by calls on the manager it belongs to, so it goes
stale as soon as the other end registers the name again or removes it.

As long as no end changes a name that the other one has cached, and names are
not empty and travel unchanged, every entry of a cache and of the registry
stands for the latest registration, and a lookup at either end returns it.
-/

namespace Libbinder.Rpc

open Registry Role BinderRef ServiceEntry

open Go Option Function Services End

variable {H : Type} {manager : Export H}

/-! ## The condition -/

/-- The name under which the registry sees a call, if it sees it. -/
def Caller.received (name : GoString) : Caller → Option GoString
  | .server => some name
  | .client (.refused _) => none
  | .client _ =>
    match Services.receivedName name with
    | .error _ => none
    | .ok received => some received

/-- The caller waits for the outcome. -/
def Caller.waits : Caller → Bool
  | .server => true
  | .client .answered => true
  | .client _ => false

/-- What a change of the registry under a name needs. -/
structure Services.Changeable
    (s : Services H) (caller : Caller) (name received : GoString) : Prop where
  waits : caller.waits
  same : received = name
  uncached : s.cache caller.role.other name = none

/-- The binder `tryUnregister` compares with the registered one. -/
def Services.arriving (s : Services H) (service : Option ServiceArg) : Caller → Option ServiceArg
  | .server => service
  | .client _ =>
    service.bind fun arg =>
      let written := arg.written (s.ends .client)
      if (s.ends .client).sendable written.1 then
        some (.own ((s.ends .server).resolveRPCObject written.1 written.2).1)
      else none

/--
The condition on a call.  A lookup that is not answered from the cache reaches
the registry under its name and is waited for.  A registration that reaches
the registry has a name there.  A call that changes the registry does so under
the name it was given, the other end has not cached that name, and the caller
waits for the outcome.
-/
def Coherent (s : Services H) : ServiceCall H → Prop
  | .check caller name =>
    s.cachedService caller.role name = none → caller.waits ∧ caller.received name = some name
  | .add caller name handler declared =>
    ∀ target, handler = some target →
      (s.ends caller.role).issued.length + 1 < 2 ^ 30 ∧
        ∀ received, caller.received name = some received →
          received ≠ [] ∧
            (undeclaredVINTF (declaredStability target.stability) declared = false →
              s.Changeable caller name received)
  | .tryUnregister caller name service =>
    ∀ received, caller.received name = some received →
      ∀ registry,
        s.registry.tryUnregister received (s.arriving service caller) = .ok registry →
          s.Changeable caller name received

/-! ## The invariant -/

/-- The end has the binder in one of its tables. -/
def Held (e : End H) : BinderRef → Prop
  | .localBinder handle _ => (e.exports handle).isSome
  | .remoteBinder handle => (e.imports handle).isSome

/-- The tables of an end have everything they had. -/
structure Extends (e later : End H) : Prop where
  exports : ∀ handle, (e.exports handle).isSome → (later.exports handle).isSome
  imports : ∀ handle, (e.imports handle).isSome → (later.imports handle).isSome

theorem Held.extends
    {e later : End H} {service : BinderRef} (held : Held e service) (grown : Extends e later) :
    Held later service := by
  cases service with
  | localBinder handle stability => exact grown.exports handle held
  | remoteBinder handle => exact grown.imports handle held

/-- Registry and caches stand for the latest registrations. -/
structure Services.Inv (manager : Export H) (s : Services H) : Prop where
  ends : ∀ role, End.Inv manager role (s.ends role)
  imported : ∀ role handle, ((s.ends role).imports handle).isSome →
      ((s.ends role.other).exports handle).isSome
  registered :
    ∀ name, s.latest name = (s.registry name).map fun entry => entry.service.denotes .server
  known : ∀ name entry, s.registry name = some entry → Held (s.ends .server) entry.service
  named : s.registry [] = none
  cached : ∀ role name service, s.cache role name = some service →
      s.latest name = some (service.denotes role)

/-- `storeService` and `deleteService` on the entry of a name. -/
def Services.putCache
    (s : Services H) (role : Role) (name : GoString)
    (entry : Option BinderRef) : Services H :=
  if name = [] then s
  else
    { s with cache := update s.cache role (update (s.cache role) name entry) }

variable (s : Services H)

theorem Services.putCache_eq (role : Role) (name : GoString) (entry : Option BinderRef) :
    s.putCache role name entry = { s with cache := (s.putCache role name entry).cache } := by
  unfold putCache
  split <;> rfl

theorem Services.cache_putCache
    (role other : Role) (name wanted : GoString) (entry : Option BinderRef) :
    (s.putCache role name entry).cache other wanted =
      if name ≠ [] ∧ other = role ∧ wanted = name then entry
      else s.cache other wanted := by
  unfold putCache
  by_cases empty : name = []
  · rw [if_pos empty, if_neg (fun own => own.1 empty)]
  · rw [if_neg empty]
    by_cases sameRole : other = role
    · subst sameRole
      simp [update_apply, empty]
    · simp [sameRole]

theorem End.extends_registerLocalHandler (e : End H) (target : Export H) :
    Extends e (e.registerLocalHandler target) where
  exports := by
    intro handle owned
    change (update e.exports e.nextExportID (some target) handle).isSome
    by_cases same : handle = e.nextExportID
    · rw [same, update_self]
      rfl
    · rwa [update_of_ne same]
  imports := fun _ known => known

theorem End.isSome_imports_remoteBinder {e : End H} {made handle : UInt32} {stability : Int32} :
    ((e.remoteBinder made stability).imports handle).isSome ↔
      handle = made ∨ (e.imports handle).isSome := by
  by_cases same : handle = made
  · subst same
    simp [End.remoteBinder]
  · rw [imports_remoteBinder_of_ne e stability same]
    simp [same]

theorem End.extends_remoteBinder (e : End H) (handle : UInt32) (stability : Int32) :
    Extends e (e.remoteBinder handle stability) where
  exports := fun _ owned => owned
  imports := fun _ known =>
    isSome_imports_remoteBinder.mpr (.inr known)

namespace Services.Inv

variable {s t : Services H}

theorem init (manager : Export H) : Inv manager (.init manager) where
  ends := .init manager
  imported := by rintro _ _ ⟨⟩
  registered := fun _ => rfl
  known := by rintro _ _ ⟨⟩
  named := rfl
  cached := by rintro _ _ _ ⟨⟩

/-! ### The ends -/

variable {role : Role}

theorem held_resolved (e : End H) (handle : UInt32) (stability : Int32) :
    Held (e.resolveRPCObject handle stability).2 (e.resolveRPCObject handle stability).1 := by
  cases found : e.exports handle with
  | some target =>
    rw [resolveRPCObject_of_some stability found]
    change (e.exports handle).isSome
    rw [found]
    rfl
  | none =>
    rw [resolveRPCObject_of_none stability found]
    exact isSome_imports_remoteBinder.mpr (.inl rfl)

variable {name : GoString} (inv : Inv manager s)

include inv

/-- An end that grows by proxies for exports of the other one. -/
theorem setEnd
    {e : End H} (inOrder : End.Inv manager role e) (grown : Extends (s.ends role) e)
    (backed : ∀ handle, (e.imports handle).isSome →
        ((s.ends role.other).exports handle).isSome) : Inv manager (s.setEnd role e) :=
  { inv with
    ends := (forall_update_iff s.ends (End.Inv manager)).mpr
      ⟨inOrder, fun other _ => inv.ends other⟩
    imported := by
      intro other handle
      change ((update s.ends role e other).imports handle).isSome →
          ((update s.ends role e other.other).exports handle).isSome
      rcases eq_or_eq_other role other with rfl | rfl
      · rw [update_self, update_of_ne (other_ne other)]
        exact backed handle
      · rw [other_other, update_self, update_of_ne (other_ne role)]
        intro imported
        have exported := inv.imported role.other handle imported
        rw [other_other] at exported
        exact grown.exports handle exported
    known := by
      intro name entry found
      have held := inv.known name entry found
      change Held (update s.ends role e .server) entry.service
      by_cases same : server = role
      · rw [← same] at grown ⊢
        rw [update_self]
        exact held.extends grown
      · rw [update_of_ne same]
        exact held }

theorem register (more : (s.ends role).issued.length + 1 < 2 ^ 30) (target : Export H) :
    Inv manager (s.setEnd role ((s.ends role).registerLocalHandler target)) :=
  inv.setEnd ((inv.ends role).register more target)
    (extends_registerLocalHandler _ target) (inv.imported role)

/-- A number one end may send is exported by one of the two. -/
theorem exported_of_sendable
    {handle : UInt32} (sendable : (s.ends role.other).sendable handle)
    (absent : (s.ends role).exports handle = none) :
    ((s.ends role.other).exports handle).isSome := by
  simp only [End.sendable, decide_eq_true_eq] at sendable
  rcases sendable.2 with exported | imported
  · exact exported
  · have exported := inv.imported role.other handle imported
    rw [other_other, absent] at exported
    cases exported

/-- Reading a number that the other end was allowed to send. -/
theorem resolve
    {handle : UInt32} (stability : Int32) (sendable : (s.ends role.other).sendable handle) :
    Inv manager (s.setEnd role ((s.ends role).resolveRPCObject handle stability).2) := by
  cases found : (s.ends role).exports handle with
  | some target =>
    rw [resolveRPCObject_of_some stability found]
    exact inv.setEnd (inv.ends role) ⟨fun _ => id, fun _ => id⟩ (inv.imported role)
  | none =>
    rw [resolveRPCObject_of_none stability found]
    refine inv.setEnd ((inv.ends role).withImports _) (extends_remoteBinder _ handle stability) ?_
    intro other imported
    rcases isSome_imports_remoteBinder.mp imported with rfl | imported
    · exact inv.exported_of_sendable sendable found
    · exact inv.imported role other imported

variable {service : BinderRef}

/-- What one end holds is read by the other end as the same binder. -/
theorem denotes_resolved
    (role : Role) (held : Held (s.ends role.other) service) (stability : Int32) :
    ((s.ends role).resolveRPCObject service.handle stability).1.denotes role =
      service.denotes role.other := by
  cases service with
  | localBinder handle level =>
    change ((s.ends role.other).exports handle).isSome at held
    rcases isSome_iff_exists.mp held with ⟨target, exported⟩
    have absent : (s.ends role).exports handle = none := by
      refine (inv.ends role.other).not_exported_by_other ?_ exported
      rw [other_other]
      exact inv.ends role
    change ((s.ends role).resolveRPCObject handle stability).1.denotes role = _
    rw [resolveRPCObject_of_none stability absent]
    rfl
  | remoteBinder handle =>
    have exported := inv.imported role.other handle held
    rw [other_other] at exported
    rcases isSome_iff_exists.mp exported with ⟨target, found⟩
    change ((s.ends role).resolveRPCObject handle stability).1.denotes role = _
    rw [resolveRPCObject_of_some stability found]
    change (role, handle) = (role.other.other, handle)
    rw [other_other]

/-! ### The caches -/

/-- A cache entry that is stored or dropped. -/
theorem putCache
    {entry : Option BinderRef}
    (now : ∀ service, entry = some service → s.latest name = some (service.denotes role)) :
    Inv manager (s.putCache role name entry) := by
  rw [s.putCache_eq]
  refine ⟨inv.ends, inv.imported, inv.registered, inv.known, inv.named, ?_⟩
  intro other wanted found
  change (s.putCache role name entry).cache other wanted = some found → _
  rw [cache_putCache]
  split_ifs with own
  · rcases own with ⟨-, rfl, rfl⟩
    exact now found
  · exact inv.cached other wanted found

/-! ### The registry -/

theorem markClientActive (name : GoString) :
    Inv manager (s.setRegistry (s.registry.markClientActive name)) := by
  have same :
      ∀ other,
        ((s.registry.markClientActive name) other).map service =
          (s.registry other).map service := by
    intro other
    unfold Registry.markClientActive
    split
    · rfl
    · cases found : s.registry name with
      | none => rfl
      | some entry =>
        change (update s.registry name (some { entry with hasClients := true }) other).map _ = _
        rw [update_apply]
        split_ifs with sameName
        · rw [sameName, found]
          rfl
        · rfl
  refine ⟨inv.ends, inv.imported, ?_, ?_, ?_, inv.cached⟩
  · intro other
    have registered := inv.registered other
    change s.latest other =
        ((s.registry.markClientActive name) other).map
          ((denotes .server) ∘ service)
    rwa [← map_map, same other, map_map]
  · intro other entry found
    have service := same other
    change (s.registry.markClientActive name) other = some entry at found
    rw [found] at service
    rcases map_eq_some_iff.mp service.symm with ⟨before, was, equal⟩
    have held := inv.known other before was
    rwa [equal] at held
  · have service := same []
    rw [inv.named] at service
    exact map_eq_none_iff.mp service

/--
A registration or a removal by one end under a name that the other one has not
cached: the registry, the cache of the end and the record follow.
-/
theorem change
    (known stored : Option BinderRef)
    (named : name = [] → known = none) (uncached : s.cache role.other name = none)
    (held : ∀ service, known = some service → Held (s.ends .server) service)
    (same : stored.map (denotes role) = known.map (denotes .server)) :
    Inv manager
      (((s.setRegistry (update s.registry name
        (known.map fun service => ⟨service, false⟩))).putCache role name
          stored).setLatest name (stored.map (denotes role))) := by
  rw [putCache_eq]
  refine ⟨inv.ends, inv.imported, ?_, ?_, ?_, ?_⟩ <;> dsimp only [setRegistry, setLatest]
  · intro other
    by_cases sameName : other = name
    · rw [sameName, update_self, update_self, same, map_map]
      rfl
    · rw [update_of_ne sameName, update_of_ne sameName]
      exact inv.registered other
  · intro other entry found
    by_cases sameName : other = name
    · rw [sameName, update_self] at found
      rcases map_eq_some_iff.mp found with ⟨service, is, rfl⟩
      exact held service is
    · rw [update_of_ne sameName] at found
      exact inv.known other entry found
  · by_cases empty : name = []
    · rw [empty, update_self, named empty]
      rfl
    · rw [update_of_ne (.symm empty)]
      exact inv.named
  · intro other wanted service found
    rw [cache_putCache] at found
    split_ifs at found with own
    · rcases own with ⟨-, rfl, rfl⟩
      rw [update_self, found]
      rfl
    · have latest := inv.cached other wanted service found
      have otherName : wanted ≠ name := by
        rintro rfl
        rcases eq_or_eq_other role other with rfl | rfl
        · have empty : wanted = [] := by
            by_contra isNamed
            exact own ⟨isNamed, rfl, rfl⟩
          rw [inv.registered, empty, inv.named] at latest
          cases latest
        · rw [uncached] at found
          cases found
      rwa [update_of_ne otherName]

theorem publish
    {known stored : BinderRef} (named : name ≠ []) (uncached : s.cache role.other name = none)
    (held : Held (s.ends .server) known) (same : stored.denotes role = known.denotes .server) :
    Inv manager
      (((s.setRegistry (update s.registry name
        (some ⟨known, false⟩))).storeService role name stored).setLatest
          name (some (stored.denotes role))) :=
  inv.change (some known) (some stored) (fun empty => absurd empty named)
    uncached (by rintro service ⟨⟩; exact held) (congrArg some same)

/-! ### What is held can be sent -/

theorem sendable_of_held (held : Held (s.ends role) service) :
    (s.ends role).sendable service.handle := by
  simp only [End.sendable, decide_eq_true_eq]
  cases service with
  | localBinder handle stability =>
    rcases isSome_iff_exists.mp held with ⟨target, owned⟩
    exact ⟨(inv.ends role).ne_zero_of_exported owned, .inl held⟩
  | remoteBinder handle =>
    rcases isSome_iff_exists.mp (inv.imported role handle held) with ⟨target, owned⟩
    exact ⟨(inv.ends role.other).ne_zero_of_exported owned, .inr held⟩

end Services.Inv

/-! ## Requests of the client -/

namespace Services

variable {s : Services H} {handle : UInt32} {stability : Int32}

theorem sendable_of_prepared
    {e : End H} (ready : e.prepareRPCParcel [strongObject handle stability] = .ok ()) :
    e.sendable handle :=
  (checkObject_strong_ok_iff rfl).mp
    (prepareRPCParcel_ok_iff.mp ready _ (List.mem_singleton_self _))

theorem prepared_of_sendable {e : End H} (stability : Int32) (sendable : e.sendable handle) :
    e.prepareRPCParcel [strongObject handle stability] = .ok () := by
  rw [prepareRPCParcel_ok_iff]
  intro object mem
  rw [List.mem_singleton.mp mem]
  exact (checkObject_strong_ok_iff rfl).mpr sendable

/-- The state after a request, given what the client does on success. -/
def afterwards
    (reply : Except GoError Unit × Services H)
    (done : Services H → Services H) : Services H :=
  match reply with
  | (.error _, t) => t
  | (.ok _, t) => done t

variable {name : GoString}

theorem received_of_sent
    {received : GoString} {fate : RequestFate} (sent : ∀ reason, fate ≠ .refused reason)
    (travels : receivedName name = .ok received) :
    Caller.received name (.client fate) = some received := by
  cases fate with
  | refused reason => exact absurd rfl (sent reason)
  | abandoned | answered => simp only [Caller.received, travels]

end Services

/-! ## Lookups -/

/-- A lookup returns the registered binder, or says that there is none. -/
def Answers (role : Role) (registered : Option (Role × UInt32))
    (result : Except GoError BinderRef) : Prop :=
  match registered with
  | some binder => ∃ service, result = .ok service ∧ service.denotes role = binder
  | none => result = .error (.leaf (.sentinel .noService))

variable {name : GoString}

namespace Services.Inv

variable {s : Services H} {name : GoString}

theorem transact_answered {α : Type} (s : Services H) {reply : α} {later : Services H} :
    s.transact [] .answered (.ok reply, later) = (.ok reply, later) :=
  rfl

theorem replyWithService_of_absent (absent : s.registry name = none) :
    s.replyWithService name = (.ok none, s) := by
  simp only [replyWithService, check, absent, map_none]

variable (inv : Inv manager s)

include inv

theorem answers_of_cached
    {role : Role} {service : BinderRef} (found : s.cachedService role name = some service) :
    Answers role (s.latest name) (.ok service) := by
  unfold cachedService at found
  split at found
  · cases found
  rw [inv.cached role name service found]
  exact ⟨service, rfl, rfl⟩

theorem latest_of_absent (absent : s.registry name = none) : s.latest name = none := by
  rw [inv.registered, absent]
  rfl

theorem latest_of_entry {entry : ServiceEntry} (found : s.registry name = some entry) :
    s.latest name = some (entry.service.denotes .server) := by
  rw [inv.registered, found]
  rfl

theorem localCheckService (name : GoString) :
    Inv manager (s.localCheckService name).2 ∧
      Answers .server (s.latest name) (s.localCheckService name).1 := by
  unfold Services.localCheckService
  cases hit : s.cachedService .server name with
  | some service => exact ⟨inv, inv.answers_of_cached hit⟩
  | none =>
    cases found : s.registry name with
    | none =>
      simp only [check, found, map_none]
      rw [inv.latest_of_absent found]
      exact ⟨inv, rfl⟩
    | some entry =>
      have latest := inv.latest_of_entry found
      simp only [check, found, map_some]
      rw [latest]
      exact ⟨inv.putCache (by rintro _ ⟨⟩; exact latest), entry.service, rfl, rfl⟩

/-- A lookup of the client that is sent and answered. -/
theorem remoteCheckService_answered
    (missed : s.cachedService .client name = none) (travels : receivedName name = .ok name) :
    Inv manager (s.remoteCheckService name .answered).2 ∧
      Answers .client (s.latest name) (s.remoteCheckService name .answered).1 := by
  unfold remoteCheckService
  cases found : s.registry name with
  | none =>
    simp only [missed, travels, replyWithService_of_absent found, transact_answered]
    rw [inv.latest_of_absent found]
    exact ⟨inv, rfl⟩
  | some entry =>
    have marked := inv.markClientActive name
    have held := inv.known name entry found
    have prepared :=
      prepared_of_sendable
        (((s.setRegistry (s.registry.markClientActive name)).ends .server).binderStability
          entry.service) (marked.sendable_of_held held)
    simp only [missed, travels, replyWithService, check, found, map_some, prepared,
      transact_answered]
    have read :=
      marked.denotes_resolved .client held ((s.ends .server).binderStability entry.service)
    have now :
        s.latest name =
          some ((((s.ends .client).resolveRPCObject entry.service.handle
            ((s.ends .server).binderStability entry.service)).1).denotes .client) := by
      rw [inv.latest_of_entry found]
      exact congrArg some read.symm
    constructor
    · refine .putCache ?_ (by rintro _ ⟨⟩; exact now)
      exact marked.resolve _ (inv.sendable_of_held held)
    · rw [now]
      exact ⟨_, rfl, rfl⟩

/-- Every lookup the condition admits. -/
theorem checkService {caller : Caller} (agrees : Coherent s (.check caller name)) :
    Inv manager (s.checkService name caller).2 ∧
      Answers caller.role (s.latest name) (s.checkService name caller).1 := by
  cases caller with
  | server => exact inv.localCheckService name
  | client fate =>
    change Inv manager (s.remoteCheckService name fate).2 ∧
        Answers .client (s.latest name) (s.remoteCheckService name fate).1
    cases hit : s.cachedService .client name with
    | some service =>
      simp only [remoteCheckService, hit]
      exact ⟨inv, inv.answers_of_cached hit⟩
    | none =>
      rcases agrees hit with ⟨waits, got⟩
      cases fate with
      | refused | abandoned => cases waits
      | answered =>
        refine inv.remoteCheckService_answered hit ?_
        simp only [Caller.received] at got
        split at got
        · cases got
        · next travels =>
            cases got
            exact travels

end Services.Inv

/-! ## Registrations -/

theorem declaredStability_ne (level : Int32) : declaredStability level ≠ 0 := by
  unfold declaredStability
  split
  · next declared => exact declared
  · decide

namespace Services.Inv

variable {s : Services H} {handler : Option (Export H)} {declared : Bool}

/-- The stability of the proxy made for a binder that was read. -/
theorem binderStability_remoteBinder
    (e : End H) (handle : UInt32) {stability : Int32}
    (isDeclared : stability ≠ stabilityUndeclared) :
    (e.remoteBinder handle stability).binderStability (.remoteBinder handle) = stability := by
  have nonzero : stability ≠ 0 := isDeclared
  have stored : (e.remoteBinder handle stability).imports handle = some stability := by
    simp only [End.remoteBinder, update_self]
    cases e.imports handle with
    | none => rfl
    | some known => simp only [if_pos nonzero]
  simp only [End.binderStability, stored, getD_some, declaredStability, if_pos isDeclared]

variable {fate : RequestFate} (inv : Inv manager s)

include inv

/-- The server registers a handler of its own. -/
theorem localAddService (agrees : Coherent s (.add .server name handler declared)) :
    Inv manager (s.step (.add .server name handler declared)) := by
  cases handler with
  | none => exact inv
  | some target =>
    rcases agrees target rfl with ⟨few, changes⟩
    rcases changes name rfl with ⟨named, changeable⟩
    have registered := inv.register few target
    simp only [Services.step, Services.addService, Services.localAddService,
      Registry.add, if_neg named, End.binderStability]
    by_cases undeclared : undeclaredVINTF (declaredStability target.stability) declared
    · simp only [undeclared, if_true]
      exact registered
    · simp only [undeclared]
      refine registered.publish named (changeable (eq_false_of_ne_true undeclared)).uncached ?_ rfl
      simp [Held, Services.setEnd, Caller.role, End.registerLocalHandler]

/-- What is left of a request of the client after it came back. -/
theorem finish
    {objects : List ParcelObject} {served : Except GoError Unit × Services H}
    {done : Services H → Services H}
    (outcome : (∀ reason, fate ≠ .refused reason) →
        (s.ends .client).prepareRPCParcel objects = .ok () →
          (∃ cause, served.1 = .error cause ∧ Inv manager served.2) ∨
            served.1 = .ok () ∧ Caller.waits (.client fate) ∧ Inv manager (done served.2)) :
    Inv manager (.afterwards (s.transact objects fate served) done) := by
  cases ready : (s.ends .client).prepareRPCParcel objects with
  | error err =>
    cases fate with
    | refused | abandoned | answered =>
      simp only [transact, ready]
      exact inv
  | ok prepared =>
    cases fate with
    | refused reason => exact inv
    | abandoned reason =>
      simp only [transact, ready]
      rcases outcome (by rintro _ ⟨⟩) ready with ⟨cause, -, kept⟩ | ⟨-, waits, -⟩
      · exact kept
      · cases waits
    | answered =>
      rcases served with ⟨result, later⟩
      simp only [transact, ready]
      rcases outcome (by rintro _ ⟨⟩) ready with ⟨cause, rfl, kept⟩ | ⟨rfl, -, ended⟩
      · exact kept
      · exact ended

/-- What is left of a registration after the request came back. -/
theorem finishAdd
    {got : GoString} {handle : UInt32} {target : Export H}
    (owned : (s.ends .client).exports handle = some target)
    (changes : (∀ reason, fate ≠ .refused reason) →
        got ≠ [] ∧
          (undeclaredVINTF (declaredStability target.stability) declared = false →
            s.Changeable (.client fate) name got)) :
    Inv manager
      (.afterwards
        (s.transact
          [strongObject handle (declaredStability target.stability)]
          fate
          (s.handleAdd got handle (declaredStability target.stability) declared))
        fun t =>
          (t.storeService .client name
            (.localBinder handle target.stability)).setLatest name (some (.client, handle))) := by
  refine inv.finish fun sent ready => ?_
  rcases changes sent with ⟨named, changeable⟩
  have absent : (s.ends .server).exports handle = none :=
    (inv.ends .client).not_exported_by_other (inv.ends .server) owned
  have read : Inv manager (s.setEnd .server _) :=
    inv.resolve (declaredStability target.stability) (sendable_of_prepared ready)
  rw [resolveRPCObject_of_none _ absent] at read
  simp only [handleAdd, resolveRPCObject_of_none _ absent, Registry.add, if_neg named,
    Services.setEnd, update_self,
    binderStability_remoteBinder _ handle (declaredStability_ne target.stability)]
  by_cases undeclared : undeclaredVINTF (declaredStability target.stability) declared
  · simp only [undeclared, if_true]
    exact .inl ⟨_, rfl, read⟩
  · rcases changeable (eq_false_of_ne_true undeclared) with ⟨waits, rfl, uncached⟩
    simp only [undeclared]
    refine .inr ⟨rfl, waits, read.publish named uncached ?_ rfl⟩
    have held := held_resolved (s.ends .server) handle (declaredStability target.stability)
    simp only [Services.setEnd, update_self]
    rwa [resolveRPCObject_of_none _ absent] at held

/-- The client registers a handler of its own with the server. -/
theorem remoteAddService (agrees : Coherent s (.add (.client fate) name handler declared)) :
    Inv manager (s.step (.add (.client fate) name handler declared)) := by
  cases handler with
  | none => exact inv
  | some target =>
    rcases agrees target rfl with ⟨few, changes⟩
    have known : Inv manager (s.setEnd .client ((s.ends .client).registerLocalHandler target)) :=
      inv.register few target
    have owned :
        ((s.setEnd .client ((s.ends .client).registerLocalHandler
          target)).ends .client).exports (s.ends .client).nextExportID = some target := by
      simp [Services.setEnd, End.registerLocalHandler]
    simp only [Services.step, Services.addService, Services.remoteAddService, Caller.role]
    cases travels : Services.receivedName name with
    | error err => exact known
    | ok got =>
      have finished :=
        known.finishAdd owned
          (by
            intro sent
            rcases changes got (received_of_sent sent travels) with ⟨named, changeable⟩
            refine ⟨named, fun undeclared => ?_⟩
            have change := changeable undeclared
            exact ⟨change.waits, change.same, change.uncached⟩)
      simp only [End.binderStability]
      generalize Services.transact _ _ _ _ = reply at finished ⊢
      rcases reply with ⟨_ | _, later⟩ <;> exact finished

end Services.Inv

/-! ## Removals -/

theorem Registry.eq_of_tryUnregister
    {registry later : Registry} {service : Option ServiceArg}
    (gone : registry.tryUnregister name service = .ok later) :
    later = update registry name none := by
  unfold tryUnregister at gone
  split at gone
  · cases gone
  · split at gone
    · cases gone
    · split at gone
      · cases gone
      · split at gone
        · cases gone
        · cases gone
          rfl

theorem Services.deleteService_setRegistry (role : Role) (name : GoString) (registry : Registry) :
    (s.setRegistry registry).deleteService role name =
      (s.deleteService role name).setRegistry registry := by
  unfold deleteService
  split <;> rfl

namespace Services.Inv

variable {s : Services H} {service : Option ServiceArg} (inv : Inv manager s)

include inv

/-- The server removes a service. -/
theorem localTryUnregisterService (agrees : Coherent s (.tryUnregister .server name service)) :
    Inv manager (s.step (.tryUnregister .server name service)) := by
  have kept : (s.deleteService .server name).registry = s.registry := by
    unfold deleteService
    split <;> rfl
  simp only [Services.step, Services.tryUnregisterService, Services.localTryUnregisterService, kept]
  cases gone : s.registry.tryUnregister name service with
  | error err => exact inv.putCache (by rintro service ⟨⟩)
  | ok registry =>
    have change := agrees name rfl registry gone
    rw [eq_of_tryUnregister gone]
    dsimp only
    rw [← deleteService_setRegistry]
    exact inv.change none none (fun _ => rfl) change.uncached (by rintro _ ⟨⟩) rfl

/-- What is left of a removal after the request came back. -/
theorem finishTryUnregister
    {got : GoString} (handle : UInt32) (stability : Int32) {fate : RequestFate}
    (changeable : (∀ reason, fate ≠ .refused reason) →
        (s.ends .client).sendable handle →
          ∀ registry,
            s.registry.tryUnregister got
                (some (.own ((s.ends .server).resolveRPCObject handle stability).1)) =
              .ok registry →
            s.Changeable (.client fate) name got) :
    Inv manager
      (afterwards
        (s.transact [strongObject handle stability] fate
          (s.handleTryUnregister got handle stability))
        fun t => (t.deleteService .client name).setLatest name none) := by
  refine inv.finish fun sent ready => ?_
  have sendable := sendable_of_prepared ready
  have read :
      Inv manager (s.setEnd .server ((s.ends .server).resolveRPCObject handle stability).2) :=
    inv.resolve _ sendable
  cases gone :
      s.registry.tryUnregister got
        (some (.own ((s.ends .server).resolveRPCObject handle stability).1)) with
  | error err =>
    simp only [handleTryUnregister, Services.setEnd, gone]
    exact .inl ⟨err, rfl, read⟩
  | ok registry =>
    rcases changeable sent sendable registry gone with ⟨waits, rfl, uncached⟩
    simp only [handleTryUnregister, Services.setEnd, gone]
    rw [eq_of_tryUnregister gone]
    exact .inr ⟨trivial, waits, read.change none none (fun _ => rfl) uncached (by rintro _ ⟨⟩) rfl⟩

/-- The client asks the server to remove a service. -/
theorem remoteTryUnregisterService
    {fate : RequestFate} (agrees : Coherent s (.tryUnregister (.client fate) name service)) :
    Inv manager (s.step (.tryUnregister (.client fate) name service)) := by
  cases service with
  | none => exact inv
  | some service =>
    simp only [step, tryUnregisterService, remoteTryUnregisterService]
    cases travels : receivedName name with
    | error err => exact inv
    | ok got =>
      have finished :=
        inv.finishTryUnregister (service.written (s.ends .client)).1
          (service.written (s.ends .client)).2
          (by
            intro sent sendable registry gone
            refine agrees got (received_of_sent sent travels) registry ?_
            simp only [arriving, bind_some, if_pos sendable]
            exact gone)
      dsimp only
      generalize transact _ _ _ _ = reply at finished ⊢
      rcases reply with ⟨_ | _, later⟩ <;> exact finished

/-! ## Runs -/

/-- One call. -/
theorem step {call : ServiceCall H} (agrees : Coherent s call) : Inv manager (s.step call) := by
  cases call with
  | check caller name => exact (inv.checkService agrees).1
  | add caller name handler declared =>
    cases caller with
    | server => exact inv.localAddService agrees
    | client fate => exact inv.remoteAddService agrees
  | tryUnregister caller name service =>
    cases caller with
    | server => exact inv.localTryUnregisterService agrees
    | client fate => exact inv.remoteTryUnregisterService agrees

omit inv

theorem of_reaches (path : (services manager).Reaches Coherent s) : Inv manager s := by
  refine path.invariant (init manager) ?_
  intro state call reached inv agrees ran
  cases ran
  exact inv.step agrees

end Services.Inv

/--
Whatever calls were made before, a lookup at either end returns the binder of
the latest successful registration of the name, and `ErrNoService` if that was
removed or there never was one.
-/
theorem lookup_returns_latest
    {s : Services H} (reaches : (services manager).Reaches Coherent s)
    {caller : Caller} {name : GoString} (coherent : Coherent s (.check caller name)) :
    Answers caller.role (s.latest name) (s.checkService name caller).1 :=
  ((Services.Inv.of_reaches reaches).checkService coherent).2

/-- The name `a`. -/
def letterName : GoString :=
  [0x61]

/-- The server registers a handler under `a`. -/
def registration (handler : Nat) : ServiceCall Nat :=
  .add .server letterName (some (sampleExport handler)) false

/-- The server may register as long as the client has not looked the name up. -/
theorem coherent_registration
    {s : Services Nat} (few : (s.ends .server).issued.length + 1 < 2 ^ 30)
    (uncached : s.cache .client letterName = none) (handler : Nat) :
    Coherent s (registration handler) := by
  rintro target ⟨⟩
  refine ⟨few, ?_⟩
  rintro received ⟨⟩
  exact ⟨by decide, fun _ => ⟨rfl, rfl, uncached⟩⟩

/-- Two registrations, with lookups of both ends between them. -/
def renewal : List (ServiceCall Nat) :=
  [registration 7, .check .server letterName, .check (.client .answered) [0x62], registration 8]

theorem renewal_meets :
    (services (sampleExport 0)).Meets Coherent renewal (services (sampleExport 0)).init := by
  refine ⟨coherent_registration (by decide) rfl 7, ?_⟩
  rintro _ ⟨⟩
  refine ⟨fun _ => ⟨rfl, rfl⟩, ?_⟩
  rintro _ ⟨⟩
  refine ⟨fun _ => ⟨rfl, rfl⟩, ?_⟩
  rintro _ ⟨⟩
  exact ⟨coherent_registration (by decide) rfl 8, fun _ _ => trivial⟩

/-- The client looks `a` up after the server has registered it twice. -/
theorem lookup_after_renewal :
    ∃ s,
      (services (sampleExport 0)).run renewal (services (sampleExport 0)).init = some s ∧
        s.latest letterName = some (.server, 5) ∧
          Answers .client (s.latest letterName)
            (s.checkService letterName (.client .answered)).1 := by
  have looksUp (s : Services Nat) : Coherent s (.check (.client .answered) letterName) :=
    fun _ => ⟨rfl, rfl⟩
  exact ⟨_, rfl, rfl, lookup_returns_latest (.of_run .start renewal_meets rfl) (looksUp _)⟩

/--
The client looks `a` up, and then the server registers another handler under
that name.  The next lookup of the client still returns the first one.
-/
theorem renewed_service_is_stale :
    ∃ s,
      (services (sampleExport 0)).run
          [registration 7, .check (.client .answered) letterName, registration 8]
          (services (sampleExport 0)).init = some s ∧
        s.latest letterName = some (.server, 5) ∧
          (s.checkService letterName (.client .answered)).1 = .ok (.remoteBinder 3) ∧
          ¬ Answers .client (s.latest letterName)
            (s.checkService letterName (.client .answered)).1 := by
  refine ⟨_, rfl, rfl, rfl, ?_⟩
  rintro ⟨service, returned, denotes⟩
  have stale : remoteBinder 3 = service := Except.ok.inj returned
  subst stale
  exact absurd denotes (by decide)

end Libbinder.Rpc
