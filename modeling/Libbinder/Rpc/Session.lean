import Libbinder.Go.Transition
import Libbinder.Errors

/-!
# The two ends of an RPC session

Each end numbers the handlers it exports and keeps a table of the proxies it
has made for handles of the other end.  A binder travels as a bare number, and
the table that contains the number decides what it means.

Every critical section under `exportsMu` is one action.  A parcel can be read
late and more than once, so the handles mentioned to an end are only ever added
to.  Both ends run this code: a number is only sent by an end that has it in
one of its tables.  The parcel of a call to a binder of the same end is not
checked, so it may mention any number.

What was exported, in order, and what was removed is recorded; no code reads
these records.
-/

namespace Libbinder.Rpc

open Go Function

inductive Role where
  | client
  | server
deriving DecidableEq, Repr

def Role.other : Role → Role
  | .client => .server
  | .server => .client

def rpcServerServiceManagerHandle : UInt32 :=
  1

def rpcClientExportStart : UInt32 :=
  2

def rpcServerExportStart : UInt32 :=
  3

def Role.exportStart : Role → UInt32
  | .client => rpcClientExportStart
  | .server => rpcServerExportStart

/-- An exported handler; `serial` calls take the lock of the export. -/
structure Export (H : Type) where
  handler : H
  stability : Int32
  serial : Bool
deriving DecidableEq

/-- What `resolveRPCObject` returns. -/
inductive Resolved (H : Type) where
  | localBinder (handle : UInt32) (target : Export H)
  | remoteBinder (handle : UInt32)

/-- One end of the session. -/
structure End (H : Type) where
  nextExportID : UInt32
  exports : UInt32 → Option (Export H)
  imports : UInt32 → Option Int32
  issued : List (UInt32 × Export H)
  removed : List UInt32

namespace End

variable {H : Type}

/-- `newRPCConn`: the server exports its service manager. -/
def init (manager : Export H) (role : Role) : End H where
  nextExportID := role.exportStart
  exports :=
    match role with
    | .client => fun _ => none
    | .server => update (fun _ => none) rpcServerServiceManagerHandle (some manager)
  imports := fun _ => none
  issued := []
  removed := []

def registerLocalHandler (e : End H) (target : Export H) : End H :=
  { e with
    nextExportID := e.nextExportID + 2
    exports := update e.exports e.nextExportID (some target)
    issued := (e.nextExportID, target) :: e.issued }

/-- The handles `unregisterLocalHandle` ignores. -/
def keeps (handle : UInt32) : Bool :=
  handle = 0 ∨ handle = rpcServerServiceManagerHandle

def unregisterLocalHandle (e : End H) (handle : UInt32) : End H :=
  if keeps handle then e
  else
    { e with
      exports := update e.exports handle none
      removed := handle :: e.removed }

def lookupExport (e : End H) (handle : UInt32) : Option (Export H) :=
  e.exports handle

/-- A proxy for a handle, made if there is none; a stability is kept. -/
def remoteBinder (e : End H) (handle : UInt32) (stability : Int32) : End H :=
  { e with
    imports := update e.imports handle
      (some (match e.imports handle with
        | none => stability
        | some known => if stability ≠ 0 then stability else known)) }

/-- The table entry `noteRemoteDeath` deletes. -/
def forget (e : End H) (handle : UInt32) : End H :=
  if handle = 0 then e
  else { e with imports := update e.imports handle none }

/-- The table `noteAllRemoteDeaths` swaps. -/
def forgetAll (e : End H) : End H :=
  { e with imports := fun _ => none }

/-- What the first half of `resolveRPCObject` decides. -/
def resolve (e : End H) (handle : UInt32) : Resolved H :=
  match e.lookupExport handle with
  | some target => .localBinder handle target
  | none => .remoteBinder handle

/-- The handler `dispatchExport` runs for a transact frame. -/
def dispatchExport (e : End H) (handle : UInt32) : Except Sentinel H :=
  match e.lookupExport handle with
  | none => .error .noService
  | some target => .ok target.handler

/-- `prepareRPCParcel` lets the handle of a strong binder pass. -/
def sendable (e : End H) (handle : UInt32) : Bool :=
  handle ≠ 0 ∧ ((e.lookupExport handle).isSome ∨ (e.imports handle).isSome)

end End

/--
Both ends, the handles and obituaries each was sent, and the handles whose
lookup at an end missed and that are about to be made into proxies there.
-/
structure Session (H : Type) where
  ends : Role → End H
  mentioned : Role → List UInt32
  obituaries : Role → List UInt32
  importing : Role → List UInt32

/-- One critical section or frame of one end. -/
inductive SessionAction (H : Type) where
  | register (role : Role) (target : Export H)
  | unregister (role : Role) (handle : UInt32)
  | send (role : Role) (handle : UInt32)
  | callLocal (role : Role) (handle : UInt32)
  | lookup (role : Role) (handle : UInt32)
  | makeProxy (role : Role) (handle : UInt32) (stability : Int32)
  | noteDeath (role : Role) (handle : UInt32)
  | noteAllDeaths (role : Role)

namespace Session

variable {H : Type}

def init (manager : Export H) : Session H where
  ends := End.init manager
  mentioned := fun _ => []
  obituaries := fun _ => []
  importing := fun _ => []

def setEnd (s : Session H) (role : Role) (e : End H) : Session H :=
  { s with ends := update s.ends role e }

/-- One action.  An end only removes handles it was given. -/
def step (s : Session H) : SessionAction H → Option (Session H)
  | .register role target => some (s.setEnd role ((s.ends role).registerLocalHandler target))
  | .unregister role handle =>
    if handle ∈ (s.ends role).issued.map Prod.fst then
      some { s.setEnd role ((s.ends role).unregisterLocalHandle handle) with
        obituaries := update s.obituaries role.other
          (if End.keeps handle then s.obituaries role.other
            else handle :: s.obituaries role.other) }
    else none
  | .send role handle =>
    if (s.ends role).sendable handle then
      some { s with mentioned := update s.mentioned role.other (handle :: s.mentioned role.other) }
    else none
  | .callLocal role handle =>
    some { s with mentioned := update s.mentioned role (handle :: s.mentioned role) }
  | .lookup role handle =>
    if handle ∈ s.mentioned role then
      match (s.ends role).resolve handle with
      | .localBinder _ _ => some s
      | .remoteBinder handle =>
        some { s with
          importing := update s.importing role
            (handle :: s.importing role) }
    else none
  | .makeProxy role handle stability =>
    if handle ∈ s.importing role then
      some { s.setEnd role
          ((s.ends role).remoteBinder handle stability) with
        importing := update s.importing role
          ((s.importing role).erase handle) }
    else none
  | .noteDeath role handle =>
    if handle ∈ s.obituaries role then
      some (s.setEnd role ((s.ends role).forget handle))
    else none
  | .noteAllDeaths role => some (s.setEnd role (s.ends role).forgetAll)

end Session

/-- All runs of a session between two ends. -/
def session {H : Type} (manager : Export H) : System (Session H) (SessionAction H) where
  init := Session.init manager
  step := Session.step

end Libbinder.Rpc
