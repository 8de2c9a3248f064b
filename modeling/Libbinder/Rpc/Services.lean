import Libbinder.Rpc.Objects

/-!
# The service managers of a session

The server keeps the registry.  Its own manager reads and changes it directly;
the manager of the client sends its requests to the server.  Both have a cache
of the services they have looked up or added.

Calls are made one after another, so a call is one action, together with what
the server does for it.  A call of the client may fail before anything is
sent, and the client may stop waiting for the answer after it was sent.

`latest` records the binder of the latest successful registration of each
name, by the end that exports it and its number there.  No code reads it.
-/

namespace Libbinder.Rpc

open Go Function

variable {H : Type}

/-! ## The registry -/

def stabilityVINTF : Int32 :=
  0b111111

def statusInvalidOperation : Int32 :=
  -38

/-- A binder given to a manager by its caller. -/
inductive ServiceArg where
  | own (service : BinderRef)
  /-- a binder of another connection -/
  | foreign (handle : UInt32) (stability : Int32)
  /-- a type of binder `binderKey` does not know -/
  | custom (handle : UInt32) (stability : Int32)
deriving DecidableEq, Repr

/-- The identity of a binder; `elsewhere` has another owner. -/
inductive BinderIdentity where
  | remote (handle : UInt32)
  | exported (handle : UInt32)
  | elsewhere (handle : UInt32)
deriving DecidableEq, Repr

def BinderRef.binderKey : BinderRef → BinderIdentity
  | .localBinder handle _ => .exported handle
  | .remoteBinder handle => .remote handle

def ServiceArg.binderKey : ServiceArg → Option BinderIdentity
  | .own service => some service.binderKey
  | .foreign handle _ => some (.elsewhere handle)
  | .custom _ _ => none

/-- The number and the stability of a binder in a request of the client. -/
def ServiceArg.written (e : End H) : ServiceArg → UInt32 × Int32
  | .own service => (service.handle, e.binderStability service)
  | .foreign handle stability => (handle, stability)
  | .custom handle stability => (handle, stability)

structure ServiceEntry where
  service : BinderRef
  hasClients : Bool
deriving DecidableEq, Repr

/-- The map `services` of the registry. -/
abbrev Registry :=
  GoString → Option ServiceEntry

/-- A service that declares VINTF stability must be a declared one. -/
def undeclaredVINTF (stability : Int32) (declared : Bool) : Bool :=
  stability = stabilityVINTF ∧ ¬ declared

/-- The error of `add`; the name is shown without escapes. -/
def undeclaredError (name : GoString) : GoError :=
  .wrap
    ((ErrorLeaf.status (-2147483647)).errorText ++
      goText ": vintf service \"" ++ name ++ goText "\" must be declared")
    [.leaf (.status (-2147483647))]

namespace Registry

def check (registry : Registry) (name : GoString) : Option BinderRef :=
  (registry name).map ServiceEntry.service

def add
    (registry : Registry) (name : GoString) (service : BinderRef)
    (stability : Int32) (declared : Bool) : Except GoError Registry :=
  if name = [] then
    .ok registry
  else if undeclaredVINTF stability declared then
    .error (undeclaredError name)
  else
    .ok (update registry name (some { service := service, hasClients := false }))

def tryUnregister
    (registry : Registry) (name : GoString) (service : Option ServiceArg) :
    Except GoError Registry :=
  match service.bind ServiceArg.binderKey with
  | none => .error (.leaf (.sentinel .unsupported))
  | some key =>
    match registry name with
    | none => .error (.leaf (.sentinel .noService))
    | some entry =>
      if entry.service.binderKey ≠ key then
        .error (.leaf (.sentinel .unsupported))
      else if entry.hasClients then
        .error (.leaf (.status statusInvalidOperation))
      else
        .ok (update registry name none)

def markClientActive (registry : Registry) (name : GoString) : Registry :=
  if name = [] then registry
  else
    match registry name with
    | none => registry
    | some entry => update registry name (some { entry with hasClients := true })

end Registry

/-! ## Both ends, the registry and the two caches -/

/-- A session, its registry and its caches. -/
structure Services (H : Type) where
  ends : Role → End H
  registry : Registry
  cache : Role → GoString → Option BinderRef
  latest : GoString → Option (Role × UInt32)

/-- What becomes of a request of the client. -/
inductive RequestFate where
  /-- The request could not be written or was not let through. -/
  | refused (reason : GoError)
  /-- The server handled it, but the caller had stopped waiting. -/
  | abandoned (reason : GoError)
  | answered

/-- The manager that is called. -/
inductive Caller where
  | server
  | client (fate : RequestFate)

def Caller.role : Caller → Role
  | .server => .server
  | .client _ => .client

namespace Services

def init (manager : Export H) : Services H where
  ends := .init manager
  registry := fun _ => none
  cache := fun _ _ => none
  latest := fun _ => none

def setEnd (s : Services H) (role : Role) (e : End H) : Services H :=
  { s with ends := update s.ends role e }

def setRegistry (s : Services H) (registry : Registry) : Services H :=
  { s with registry := registry }

def cachedService
    (s : Services H) (role : Role) (name : GoString) : Option BinderRef :=
  if name = [] then none else s.cache role name

def storeService
    (s : Services H) (role : Role) (name : GoString) (service : BinderRef) : Services H :=
  if name = [] then s
  else
    { s with cache := update s.cache role (update (s.cache role) name (some service)) }

def deleteService (s : Services H) (role : Role) (name : GoString) : Services H :=
  if name = [] then s
  else
    { s with cache := update s.cache role (update (s.cache role) name none) }

/-! ## The manager of the server -/

def localCheckService (s : Services H) (name : GoString) : Except GoError BinderRef × Services H :=
  match s.cachedService .server name with
  | some service => (.ok service, s)
  | none =>
    match s.registry.check name with
    | none => (.error (.leaf (.sentinel .noService)), s)
    | some service => (.ok service, s.storeService .server name service)

def localAddService
    (s : Services H) (name : GoString) (handler : Option (Export H))
    (declared : Bool) : Except GoError Unit × Services H :=
  match handler with
  | none => (.error (.leaf (.sentinel .unsupported)), s)
  | some target =>
    let service := .localBinder (s.ends .server).nextExportID target.stability
    let s := s.setEnd .server ((s.ends .server).registerLocalHandler target)
    match s.registry.add name service ((s.ends .server).binderStability service) declared with
    | .error err => (.error err, s)
    | .ok registry => (.ok (), (s.setRegistry registry).storeService .server name service)

def localTryUnregisterService
    (s : Services H) (name : GoString) (service : Option ServiceArg) :
    Except GoError Unit × Services H :=
  let s := s.deleteService .server name
  match s.registry.tryUnregister name service with
  | .error err => (.error err, s)
  | .ok registry => (.ok (), s.setRegistry registry)

/-! ## The handler of the server -/

def strongObject (handle : UInt32) (stability : Int32) : ParcelObject where
  kind := .strongBinder
  offset := 0
  length := 28
  handle := handle
  stability := stability

/-- The binder in the reply to a lookup, with its stability. -/
def replyWithService (s : Services H) (name : GoString) :
    Except GoError (Option (UInt32 × Int32)) × Services H :=
  match s.registry.check name with
  | none => (.ok none, s)
  | some service =>
    let s := s.setRegistry (s.registry.markClientActive name)
    let stability := (s.ends .server).binderStability service
    match (s.ends .server).prepareRPCParcel [strongObject service.handle stability] with
    | .error err => (.error err.toGoError, s)
    | .ok _ => (.ok (some (service.handle, stability)), s)

/-- The case `addServiceTransactionID`, after the name and the binder. -/
def handleAdd
    (s : Services H) (name : GoString) (handle : UInt32) (stability : Int32)
    (declared : Bool) : Except GoError Unit × Services H :=
  let resolved := (s.ends .server).resolveRPCObject handle stability
  let s := s.setEnd .server resolved.2
  match s.registry.add name resolved.1 ((s.ends .server).binderStability resolved.1) declared with
  | .error err => (.error err, s)
  | .ok registry => (.ok (), s.setRegistry registry)

/-- The case `tryUnregisterServiceTxID`, after the name and the binder. -/
def handleTryUnregister
    (s : Services H) (name : GoString) (handle : UInt32) (stability : Int32) :
    Except GoError Unit × Services H :=
  let resolved := (s.ends .server).resolveRPCObject handle stability
  let s := s.setEnd .server resolved.2
  match s.registry.tryUnregister name (some (.own resolved.1)) with
  | .error err => (.error err, s)
  | .ok registry => (.ok (), s.setRegistry registry)

/-! ## The manager of the client -/

/-- The name that the server reads from what `WriteString` wrote. -/
def receivedName (name : GoString) : Except GoError GoString :=
  let units := Utf16.encode (Utf8.runes name)
  if units.length > maxInt32 then
    .error (BinderError.toGoError (.badParcelable s!"string too large: {units.length} code units"))
  else
    .ok (Utf8.encodeRunes (Utf16.decode units))

/-- `transactRemote` of a request with some binders. -/
def transact
    {α : Type} (s : Services H) (objects : List ParcelObject)
    (fate : RequestFate)
    (handled : Except GoError α × Services H) : Except GoError α × Services H :=
  match fate with
  | .refused reason => (.error reason, s)
  | fate =>
    match (s.ends .client).prepareRPCParcel objects with
    | .error err => (.error err.toGoError, s)
    | .ok _ =>
      match fate, handled with
      | .abandoned reason, (_, s) => (.error reason, s)
      | _, (.error err, s) => (.error (replayRPCFrameError (captureRPCFrameError err)), s)
      | _, (.ok reply, s) => (.ok reply, s)

def remoteCheckService
    (s : Services H) (name : GoString) (fate : RequestFate) :
    Except GoError BinderRef × Services H :=
  match s.cachedService .client name with
  | some service => (.ok service, s)
  | none =>
    match receivedName name with
    | .error err => (.error err, s)
    | .ok received =>
      match s.transact [] fate (s.replyWithService received) with
      | (.error err, s) => (.error err, s)
      | (.ok none, s) => (.error (.leaf (.sentinel .noService)), s)
      | (.ok (some (handle, stability)), s) =>
        let resolved := (s.ends .client).resolveRPCObject handle stability
        (.ok resolved.1, (s.setEnd .client resolved.2).storeService .client name resolved.1)

def remoteAddService
    (s : Services H) (name : GoString) (handler : Option (Export H))
    (declared : Bool) (fate : RequestFate) : Except GoError Unit × Services H :=
  match handler with
  | none => (.error (.leaf (.sentinel .unsupported)), s)
  | some target =>
    let handle := (s.ends .client).nextExportID
    let service := .localBinder handle target.stability
    let s := s.setEnd .client ((s.ends .client).registerLocalHandler target)
    match receivedName name with
    | .error err => (.error err, s)
    | .ok received =>
      let stability := (s.ends .client).binderStability service
      match s.transact [strongObject handle stability] fate
          (s.handleAdd received handle stability declared) with
      | (.error err, s) => (.error err, s)
      | (.ok _, s) => (.ok (), s.storeService .client name service)

def remoteTryUnregisterService
    (s : Services H) (name : GoString) (service : Option ServiceArg)
    (fate : RequestFate) : Except GoError Unit × Services H :=
  match service with
  | none => (.error (.leaf (.sentinel .unsupported)), s)
  | some service =>
    match receivedName name with
    | .error err => (.error err, s)
    | .ok received =>
      let written := service.written (s.ends .client)
      match s.transact [strongObject written.1 written.2] fate
          (s.handleTryUnregister received written.1 written.2) with
      | (.error err, s) => (.error err, s)
      | (.ok _, s) => (.ok (), s.deleteService .client name)

/-! ## Calls -/

def checkService (s : Services H) (name : GoString) : Caller → Except GoError BinderRef × Services H
  | .server => s.localCheckService name
  | .client fate => s.remoteCheckService name fate

def addService
    (s : Services H) (name : GoString) (handler : Option (Export H))
    (declared : Bool) : Caller → Except GoError Unit × Services H
  | .server => s.localAddService name handler declared
  | .client fate => s.remoteAddService name handler declared fate

def tryUnregisterService
    (s : Services H) (name : GoString) (service : Option ServiceArg) :
    Caller → Except GoError Unit × Services H
  | .server => s.localTryUnregisterService name service
  | .client fate => s.remoteTryUnregisterService name service fate

def setLatest
    (s : Services H) (name : GoString) (binder : Option (Role × UInt32)) : Services H :=
  { s with latest := update s.latest name binder }

end Services

inductive ServiceCall (H : Type) where
  | check (caller : Caller) (name : GoString)
  | add (caller : Caller) (name : GoString) (handler : Option (Export H)) (declared : Bool)
  | tryUnregister (caller : Caller) (name : GoString) (service : Option ServiceArg)

/-- A call, with the record of what succeeded. -/
def Services.step (s : Services H) : ServiceCall H → Services H
  | .check caller name => (s.checkService name caller).2
  | .add caller name handler declared =>
    match s.addService name handler declared caller with
    | (.error _, t) => t
    | (.ok _, t) => t.setLatest name (some (caller.role, (s.ends caller.role).nextExportID))
  | .tryUnregister caller name service =>
    match s.tryUnregisterService name service caller with
    | (.error _, t) => t
    | (.ok _, t) => t.setLatest name none

/-- All sequences of calls on the two managers of a session. -/
def services {H : Type} (manager : Export H) : System (Services H) (ServiceCall H) where
  init := .init manager
  step := fun s call => some (s.step call)

end Libbinder.Rpc
