import Libbinder.Parcel.Objects
import Libbinder.Status.Capture

/-!
# Recorded transactions

A recording binder writes down every call and what its target answered, and a
replay binder gives the recorded answers to the same calls again.  Parcels are
written down as two slices, and a copied slice without elements is nil, so an
empty reply comes back as none.

A recording is faithful exactly if no call returned an empty reply, or a reply
next to an error, or an error whose class is not carried.
-/

namespace Libbinder

open Parcel

open Go

/-! ## Slices of parcels -/

/-- The elements of a slice; the nil slice is absent. -/
def elements {α : Type} (slice : Option (List α)) : List α :=
  slice.getD []

/-- `append([]T(nil), values...)`. -/
def appendNil {α : Type} : List α → Option (List α)
  | [] => none
  | values => some values

/-- The method `Objects`; the nil slice stands for an empty table. -/
def Parcel.objectTable (p : Parcel) : List ParcelObject :=
  p.objects.map fun ref =>
    { kind := ref.objectKind
      offset := ref.offset
      length := wireObjectLength ref.objectKind ref.length
      handle := ref.handle
      stability := ref.stability }

def cloneParcel : Option Parcel → Option (List UInt8) × Option (List ParcelObject)
  | none => (none, none)
  | some p => (appendNil p.buf, appendNil p.objectTable)

/-! ## Records -/

structure TransactionRecord where
  descriptor : GoString
  code : UInt32
  flags : UInt32
  requestBytes : Option (List UInt8)
  requestObjects : Option (List ParcelObject)
  replyBytes : Option (List UInt8)
  replyObjects : Option (List ParcelObject)
  error : Option CapturedError

def cloneTransactionRecord (record : TransactionRecord) : TransactionRecord :=
  { record with
    requestBytes := appendNil (elements record.requestBytes)
    requestObjects := appendNil (elements record.requestObjects)
    replyBytes := appendNil (elements record.replyBytes)
    replyObjects := appendNil (elements record.replyObjects) }

/-- The arguments of `Transact`. -/
structure Request where
  code : UInt32
  data : Option Parcel
  flags : UInt32

/-- The results of `Transact`. -/
structure Outcome where
  reply : Option Parcel
  err : Option GoError

/-- `ErrUnsupported` without a reply. -/
def Outcome.unsupported : Outcome :=
  ⟨none, some (.leaf (.sentinel .unsupported))⟩

/-! ## Recording -/

/-- The binder that is recorded, over its own states. -/
structure Target (τ : Type) where
  transact : τ → Request → Outcome × τ
  descriptor : τ → (GoString × Option GoError) × τ

/-- What the recorder writes down of a call. -/
def TransactionRecord.ofCall (descriptor : GoString) (request : Request)
    (outcome : Outcome) : TransactionRecord where
  descriptor := descriptor
  code := request.code
  flags := request.flags
  requestBytes := (cloneParcel request.data).1
  requestObjects := (cloneParcel request.data).2
  replyBytes := (cloneParcel outcome.reply).1
  replyObjects := (cloneParcel outcome.reply).2
  error := outcome.err.map captureRecordedError

/--
The method `Transact` of a recording binder, whose target may be nil, and what
it adds to the records.
-/
def RecordingBinder.transact {τ : Type} (target : Option (Target τ))
    (state : τ) (request : Request) : (Outcome × Option TransactionRecord) × τ :=
  match target with
  | none => ((.unsupported, none), state)
  | some target =>
    let answered := target.transact state request
    let described := target.descriptor answered.2
    ((answered.1, some (.ofCall described.1.1 request answered.1)), described.2)

/-- The results and the records of calls one after the other. -/
def RecordingBinder.transactAll {τ : Type} (target : Option (Target τ)) :
    τ → List Request → List (Outcome × Option TransactionRecord)
  | _, [] => []
  | state, request :: rest =>
    let answered := transact target state request
    answered.1 :: transactAll target answered.2 rest

/-! ## Replaying -/

/-- The records are those from the index on. -/
structure ReplayBinder where
  descriptor : GoString
  records : List TransactionRecord

/-- `NewReplayBinder`. -/
def ReplayBinder.new (records : List TransactionRecord) : ReplayBinder where
  descriptor :=
    ((records.map TransactionRecord.descriptor).find? fun text =>
      text ≠ []).getD (goText "replay")
  records := records.map cloneTransactionRecord

/-- What a record answers to the call it was made of. -/
def TransactionRecord.outcome (record : TransactionRecord) : Outcome :=
  match record.error with
  | some captured => ⟨none, some (replayRecordedError captured)⟩
  | none =>
    if record.replyBytes = none ∧ record.replyObjects = none then
      ⟨none, none⟩
    else
      ⟨some (.newWire (elements record.replyBytes) (elements record.replyObjects)), none⟩

/-- What a record answers to a call. -/
def TransactionRecord.answer (record : TransactionRecord)
    (descriptor : GoString) (request : Request) : Outcome :=
  if record.code ≠ request.code ∨ record.flags ≠ request.flags ∨
      elements record.requestBytes ≠ elements (cloneParcel request.data).1 ∨
      elements record.requestObjects ≠ elements (cloneParcel request.data).2 then
    ⟨none,
      some (.wrap
        (goText "binder: bad parcelable: replay mismatch for " ++
          descriptor ++ goText s!" code={request.code.toNat}")
        [.leaf (.sentinel .badParcelable)])⟩
  else
    record.outcome

namespace ReplayBinder

/-- The method `Transact` of a replay binder. -/
def transact (b : ReplayBinder) (request : Request) : Outcome × ReplayBinder :=
  match b.records with
  | [] => (.unsupported, b)
  | record :: rest =>
    ((cloneTransactionRecord record).answer b.descriptor request, { b with records := rest })

/-- The results of calls one after the other. -/
def transactAll : ReplayBinder → List Request → List Outcome
  | _, [] => []
  | b, request :: rest =>
    let answered := b.transact request
    answered.1 :: transactAll answered.2 rest

/-- The binder that replays what `Records` returns after the calls. -/
def ofCalls (calls : List (Outcome × Option TransactionRecord)) : ReplayBinder :=
  .new ((calls.filterMap Prod.snd).map cloneTransactionRecord)

end ReplayBinder

open ReplayBinder

/-! ## Faithful answers -/

/-- The bytes and the objects of a parcel. -/
def Parcel.contents (p : Parcel) : List UInt8 × List ParcelObject :=
  (p.buf, p.objectTable)

/-- No error on both sides, or two errors of the same class. -/
def SameError : Option GoError → Option GoError → Prop
  | none, none => True
  | some original, some replayed => SameClass replayed original
  | _, _ => False

/-- The replayed call returned what the original one did. -/
structure Faithful (original replayed : Outcome) : Prop where
  reply : replayed.reply.map Parcel.contents = original.reply.map Parcel.contents
  err : SameError original.err replayed.err

/-- A call whose results a record keeps. -/
def Kept (outcome : Outcome) : Prop :=
  match outcome.err with
  | some err => outcome.reply = none ∧ Carried err
  | none => ∀ p, outcome.reply = some p → p.buf ≠ [] ∨ p.objects ≠ []

/-- The two requests differ in their code, flags, bytes or objects. -/
def Request.Differs (request other : Request) : Prop :=
  request.code ≠ other.code ∨ request.flags ≠ other.flags ∨
    elements (cloneParcel request.data).1 ≠ elements (cloneParcel other.data).1 ∨
    elements (cloneParcel request.data).2 ≠ elements (cloneParcel other.data).2

/-- The call failed for want of a fitting record. -/
def Outcome.Rejected (outcome : Outcome) : Prop :=
  outcome.reply = none ∧ ∃ err, outcome.err = some err ∧
    (err.is .badParcelable ∨ err.is .unsupported)

/--
The requests and results of a recording beside those of its replay: the same
request returns what it returned, and a differing one or a further one is
rejected.
-/
def Agrees : List Request → List Outcome → List Request → List Outcome → Prop
  | _, _, [], [] => True
  | request :: requests, original :: originals, other :: others,
      replayed :: more =>
    (request.Differs other → replayed.Rejected) ∧
      (¬ request.Differs other → Faithful original replayed) ∧
      Agrees requests originals others more
  | [], [], _ :: others, replayed :: more => replayed.Rejected ∧ Agrees [] [] others more
  | _, _, _, _ => False

/-! ## Copies -/

section Copies

variable {α : Type}

@[simp]
theorem elements_appendNil (values : List α) : elements (appendNil values) = values := by
  cases values <;> rfl

theorem appendNil_eq_none_iff (values : List α) : appendNil values = none ↔ values = [] := by
  cases values <;> simp [appendNil]

end Copies

/-- A copy of a copy is the copy itself. -/
theorem appendNil_cloneParcel (data : Option Parcel) :
    appendNil (elements (cloneParcel data).1) = (cloneParcel data).1 ∧
      appendNil (elements (cloneParcel data).2) = (cloneParcel data).2 := by
  cases data with
  | none => exact ⟨rfl, rfl⟩
  | some p => simp [cloneParcel]

@[simp]
theorem cloneTransactionRecord_ofCall (desc : GoString) (request : Request) (outcome : Outcome) :
    cloneTransactionRecord (.ofCall desc request outcome) = .ofCall desc request outcome := by
  simp [cloneTransactionRecord, TransactionRecord.ofCall, appendNil_cloneParcel]

theorem objectTable_newWire (body : List UInt8) (p : Parcel) :
    (newWire body p.objectTable).objectTable = p.objectTable := by
  have idempotent (kind : ObjectKind) (length : Int) :
      wireObjectLength kind (wireObjectLength kind length) = wireObjectLength kind length := by
    unfold wireObjectLength
    cases kind <;> grind
  simp [newWire, setWireData, objectTable, idempotent]

/-! ## One call -/

theorem answer_ofCall
    {request other : Request} (same : ¬ request.Differs other)
    (desc text : GoString) (outcome : Outcome) :
    (TransactionRecord.ofCall desc request outcome).answer text other =
      (TransactionRecord.ofCall desc request outcome).outcome := by
  rwa [TransactionRecord.answer, if_neg]

/-- A replayed call is faithful exactly if the record keeps its results. -/
theorem faithful_ofCall_iff (desc : GoString) (request : Request) (outcome : Outcome) :
    Faithful outcome (TransactionRecord.ofCall desc request outcome).outcome ↔ Kept outcome := by
  obtain ⟨reply, err⟩ := outcome
  cases err with
  | some err =>
    have error := sameClass_replayError_iff err
    constructor
    · rintro ⟨same, class_⟩
      exact ⟨Option.map_eq_none_iff.mp same.symm, error.mp class_⟩
    · rintro ⟨rfl, carried⟩
      exact ⟨rfl, error.mpr carried⟩
  | none =>
    cases reply with
    | none => exact ⟨fun _ _ => by rintro ⟨⟩, fun _ => ⟨rfl, trivial⟩⟩
    | some p =>
      have nil :
          appendNil p.buf = none ∧ appendNil p.objectTable = none ↔
            p.buf = [] ∧ p.objects = [] := by
        simp [appendNil_eq_none_iff, objectTable]
      change Faithful _ (if appendNil p.buf = none ∧
        appendNil p.objectTable = none then _ else _) ↔ _
      by_cases empty : p.buf = [] ∧ p.objects = []
      · rw [if_pos (nil.mpr empty)]
        constructor
        · rintro ⟨⟨⟩, -⟩
        · intro kept
          have some := kept p rfl
          simp [empty] at some
      · rw [if_neg (mt nil.mp empty)]
        refine ⟨?_, fun _ => ⟨?_, trivial⟩⟩
        · rintro - other ⟨⟩
          exact not_and_or.mp empty
        · change some (newWire (elements (appendNil p.buf))
            (elements (appendNil p.objectTable))).contents = _
          rw [elements_appendNil, elements_appendNil]
          exact congrArg (fun table => some (p.buf, table)) (objectTable_newWire p.buf p)

/-! ## Whole runs -/

theorem rejected_unsupported : Outcome.unsupported.Rejected :=
  ⟨rfl, _, rfl, .inr rfl⟩

theorem not_differs (request : Request) : ¬ request.Differs request := by
  simp [Request.Differs]

theorem agrees_exhausted (text : GoString) (others : List Request) :
    Agrees [] [] others (transactAll ⟨text, []⟩ others) := by
  induction others with
  | nil => trivial
  | cons other rest ih => exact ⟨rejected_unsupported, ih⟩

variable {τ : Type}

/-- The records of the calls, which are copies already. -/
theorem clones_transactAll (target : Option (Target τ)) (state : τ) (requests : List Request) :
    ((RecordingBinder.transactAll target state requests).filterMap
        Prod.snd).map cloneTransactionRecord =
      (RecordingBinder.transactAll target state requests).filterMap Prod.snd := by
  induction requests generalizing state with
  | nil => rfl
  | cons request rest ih =>
    cases target with
    | none => exact ih state
    | some target =>
      exact congrArg₂ List.cons (cloneTransactionRecord_ofCall _ _ _) (ih _)

theorem agrees_iff (target : Target τ) (text : GoString) (state : τ) (requests : List Request) :
    (∀ others, Agrees requests
        ((RecordingBinder.transactAll (some target) state requests).map Prod.fst)
        others
        (transactAll
          ⟨text, (RecordingBinder.transactAll (some target) state
            requests).filterMap Prod.snd⟩ others)) ↔
      ∀ call ∈ RecordingBinder.transactAll (some target) state requests, Kept call.1 := by
  induction requests generalizing state with
  | nil => exact ⟨fun _ => List.forall_mem_nil _, fun _ => agrees_exhausted text⟩
  | cons request rest ih =>
    rw [RecordingBinder.transactAll, List.forall_mem_cons, ← ih]
    constructor
    · intro agrees
      refine ⟨?_, fun others => (agrees (request :: others)).2.2⟩
      have faithful := (agrees [request]).2.1 (not_differs request)
      change Faithful _ ((cloneTransactionRecord (.ofCall ..)).answer ..) at faithful
      rw [cloneTransactionRecord_ofCall, answer_ofCall (not_differs request)] at faithful
      exact (faithful_ofCall_iff ..).mp faithful
    · rintro ⟨kept, agrees⟩ others
      cases others with
      | nil => trivial
      | cons other more =>
        change (_ → ((cloneTransactionRecord (.ofCall ..)).answer ..).Rejected) ∧
          (_ → Faithful _ ((cloneTransactionRecord (.ofCall ..)).answer ..)) ∧ _
        rw [cloneTransactionRecord_ofCall]
        refine ⟨?_, ?_, agrees more⟩
        · intro apart
          rw [TransactionRecord.answer, if_pos]
          · exact ⟨rfl, _, rfl, .inl rfl⟩
          · exact apart
        · intro same
          rw [answer_ofCall same]
          exact (faithful_ofCall_iff ..).mpr kept

theorem faithful_unsupported : Faithful .unsupported .unsupported :=
  ⟨rfl, fun _ _ => rfl, rfl, rfl, rfl⟩

/-- Without a target nothing is recorded, and everything is unsupported. -/
theorem transactAll_nil (state : τ) (requests : List Request) :
    RecordingBinder.transactAll (none : Option (Target τ)) state requests =
      requests.map fun _ => (.unsupported, none) := by
  induction requests with
  | nil => rfl
  | cons request rest ih =>
    rw [RecordingBinder.transactAll]
    exact congrArg _ ih

theorem agrees_unsupported (text : GoString) (requests others : List Request) :
    Agrees requests (requests.map fun _ => .unsupported) others
      (transactAll ⟨text, []⟩ others) := by
  induction others generalizing requests with
  | nil => cases requests <;> trivial
  | cons other rest ih =>
    cases requests with
    | nil => exact agrees_exhausted text (other :: rest)
    | cons request more =>
      exact ⟨fun _ => rejected_unsupported, fun _ => faithful_unsupported, ih more⟩

/--
The calls to any target, recorded and then replayed with any requests: the
replay agrees with the recording exactly if a record keeps all the results.
-/
theorem replay_faithful_iff
    {τ : Type} (target : Option (Target τ)) (state : τ) (requests : List Request) :
    (∀ others, Agrees requests
        ((RecordingBinder.transactAll target state requests).map Prod.fst)
        others
        ((ReplayBinder.ofCalls
          (RecordingBinder.transactAll target state requests)).transactAll others)) ↔
      ∀ call ∈ RecordingBinder.transactAll target state requests, Kept call.1 := by
  rw [ReplayBinder.ofCalls, clones_transactAll, ReplayBinder.new, clones_transactAll]
  cases target with
  | none =>
    rw [transactAll_nil, List.map_map, List.filterMap_map]
    refine iff_of_true (fun others => ?_) ?_
    · rw [show requests.filterMap (Prod.snd ∘ _) = [] by simp]
      exact agrees_unsupported _ requests others
    · refine List.forall_mem_map.mpr fun request _ => ?_
      exact (faithful_ofCall_iff [] request .unsupported).mp faithful_unsupported
  | some target => exact agrees_iff target _ state requests

/-- A target that answers every call with an empty parcel. -/
def emptyAnswers : Target Unit where
  transact _ _ := (⟨some Parcel.new, none⟩, ())
  descriptor _ := ((goText "empty", none), ())

/-- An empty reply is replayed as none. -/
theorem empty_reply_lost :
    (RecordingBinder.transactAll (some emptyAnswers) ()
        [⟨1, none, 0⟩]).map Prod.fst = [⟨some Parcel.new, none⟩] ∧
      (ofCalls
        (RecordingBinder.transactAll (some emptyAnswers) ()
          [⟨1, none, 0⟩])).transactAll [⟨1, none, 0⟩] = [⟨none, none⟩] :=
  ⟨rfl, rfl⟩

end Libbinder
