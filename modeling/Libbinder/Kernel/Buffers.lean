import Libbinder.Kernel.Responses
import Mathlib.Data.List.Perm.Lattice
import Mathlib.Data.List.Perm.Subperm

/-!
# Ownership of kernel buffers

A reply or an incoming call comes with a kernel buffer, which the thread has to
give back.  The buffer of an incoming call is given back by the method that
handles the call, however that ends.  The buffer of a reply is given back at
the end of the call that waits for it, and only there: an error in between, a
second reply or a reply to a oneway call leaves it behind.
-/

namespace Libbinder.Kernel

open RawCommand DriverEvent

open Go List Action DriverEvent

/-! ## Received and freed -/

namespace RawCommand

/-- The buffer of an incoming call. -/
def callBuffer (raw : RawCommand) : Option UInt64 :=
  (raw.interpret .client).servedBuffer

/-- The record of a reply. -/
def replyRecord (raw : RawCommand) : Option BinderTransactionData :=
  (raw.interpret .client).replyData

/-- The buffer of a reply. -/
def replyBuffer (raw : RawCommand) : Option UInt64 :=
  raw.replyRecord.bind BinderTransactionData.buffer

/-- The buffer that comes with a command. -/
def buffer (raw : RawCommand) : Option UInt64 :=
  raw.callBuffer.or raw.replyBuffer

end RawCommand

/-- The buffers that come with the reads of a log. -/
def DriverEvent.received (log : List DriverEvent) : List UInt64 :=
  (fetches log).flatMap fun raws => raws.filterMap RawCommand.buffer

/-- Every buffer received between the two states is freed once between them. -/
def Balanced (t next : BinderThread) : Prop :=
  (received (t.added next)).Perm (freed (t.added next))

/-- The operations that receive buffers. -/
inductive BufferPath where
  /-- A call on a client thread. -/
  | client (call : KernelCall)
  /-- A call on the direct driver path. -/
  | driver (call : KernelCall)
  /-- One round of a looper. -/
  | looper
deriving DecidableEq, Repr

/-- The operation of a path. -/
def BufferPath.operation (env : DriverEnv) : BufferPath → DriverM Unit
  | .client call => do
    let _ ← Backend.transactHandleParcel env call
  | .driver call => do
    let _ ← DriverManager.transactHandleParcel env call
  | .looper => LooperWorker.round env

/-! ## When nothing is left behind -/

variable (env : DriverEnv)

/-- The objects of a reply are acquired, or the reply is a status. -/
def objectsTaken (phase : Nat) (reply : BinderTransactionData)
    (objects : List ParcelObject) : Bool :=
  reply.has tfStatus || acceptedAll (env.writes phase) 0 (acquisitions objects)

/-- A reply is copied, and its objects are taken. -/
def replyReleased (phase : Nat) (reply : BinderTransactionData) : Bool :=
  match copyTransactionPayload env.memory reply with
  | some (.ok (_, objects)) => objectsTaken env phase reply objects
  | _ => false

/-- Every incoming call with a buffer is taken up. -/
def CallsTaken (loop : ResponseLoop) (phase : Nat)
    (raws : List RawCommand) : Prop :=
  ∀ before raw, before ++ [raw] <+: raws → raw.callBuffer.isSome →
    loop.switch .transaction ∧ allAccepted env loop phase before

/--
A reply with a buffer is the only one behind which no other reply comes, no
command of its read fails, the call is waiting for it, and it is released.
-/
def ReplyTaken (loop : ResponseLoop) (oneWay : Bool) (phase : Nat)
    (raws : List RawCommand) : Prop :=
  ∀ raw after, raw :: after <:+ raws →
    ∀ reply ∈ raw.replyRecord, reply.buffer.isSome →
      (oneWay = false ∧ loop.switch .reply ∧ allAccepted env loop phase raws) ∧
        (∀ later ∈ after, later.replyRecord = none) ∧
        replyReleased env (phase + raws.length + 1) reply

/--
The reads of an operation leave nothing behind: at most `reads` of them, where
a read is followed by another one if it has no reply and no failing command.
-/
def Settles (loop : ResponseLoop) (oneWay : Bool) : Nat → Nat → Nat → Prop
  | 0, _, _ => True
  | reads + 1, position, phase =>
    ∀ raws, env.reads position = .ok raws →
      CallsTaken env loop phase raws ∧
        ReplyTaken env loop oneWay phase raws ∧
        (allAccepted env loop phase raws →
          (∀ raw ∈ raws, raw.replyRecord = none) →
          Settles loop oneWay reads (position + 1) (phase + raws.length))

/-- The operation of a path leaves nothing behind. -/
def BufferPath.Settled : BufferPath → BinderThread → Prop
  | .client call, t =>
    Settles env .client call.oneWay (if call.oneWay then 1 else 9) t.reads t.phase
  | .driver call, t =>
    Settles env .driver call.oneWay (if call.oneWay then 1 else 4) t.reads t.phase
  | .looper, t => Settles env .looper true 1 t.reads t.phase

variable {env}

/-! ## Incoming calls of one read -/

/-- A loop with a case for calls sees those that the driver sent. -/
theorem servedBuffer_interpret (loop : ResponseLoop) (raw : RawCommand) :
    (raw.interpret loop).servedBuffer =
      if loop.switch .transaction then raw.callBuffer else none := by
  unfold callBuffer interpret
  cases ReturnCode.ofCmd raw.cmd with
  | none => cases loop <;> rfl
  | some code => cases loop <;> cases code <;> rfl

/-- A loop with a case for replies sees those that the driver sent. -/
theorem replyData_interpret (loop : ResponseLoop) (raw : RawCommand) :
    (raw.interpret loop).replyData = if loop.switch .reply then raw.replyRecord else none := by
  unfold replyRecord interpret
  cases ReturnCode.ofCmd raw.cmd with
  | none => cases loop <;> rfl
  | some code => cases loop <;> cases code <;> rfl

variable {loop : ResponseLoop} {raw : RawCommand} {phase : Nat}

/-- A loop without a case for calls fails at a call. -/
theorem switch_of_commandAccepted
    (taken : commandAccepted env phase (raw.interpret loop)) (call : raw.callBuffer.isSome) :
    loop.switch .transaction := by
  unfold callBuffer at call
  unfold interpret at taken call
  cases known : ReturnCode.ofCmd raw.cmd with
  | none =>
    rw [known] at call
    cases call
  | some code =>
    rw [known] at taken call
    cases loop with
    | client => rfl
    | looper => rfl
    | driver =>
      cases code with
      | transaction => cases taken
      | _ => cases call

/-- The buffers that a loop gives back while it runs. -/
def servedBuffers (env : DriverEnv) (loop : ResponseLoop) (phase : Nat)
    (raws : List RawCommand) : List UInt64 :=
  (takenUp env loop phase raws).filterMap fun raw =>
    (raw.interpret loop).servedBuffer

variable {α : Type}

theorem filterMap_cons_toList {β : Type} (f : α → Option β) (head : α) (rest : List α) :
    (head :: rest).filterMap f = (f head).toList ++ rest.filterMap f := by
  rw [filterMap_cons]
  cases f head <;> rfl

theorem servedBuffers_cons
    (loop : ResponseLoop) (phase : Nat) (raw : RawCommand) (rest : List RawCommand) :
    servedBuffers env loop phase (raw :: rest) =
      (raw.interpret loop).servedBuffer.toList ++
        if commandAccepted env (phase + 1) (raw.interpret loop) then
          servedBuffers env loop (phase + 1) rest
        else
          [] := by
  unfold servedBuffers
  rw [takenUp]
  split
  · exact filterMap_cons_toList _ raw _
  · exact filterMap_cons_toList _ raw []

theorem served_sublist (loop : ResponseLoop) (raw : RawCommand) :
    List.Sublist (raw.interpret loop).servedBuffer.toList raw.callBuffer.toList := by
  rw [servedBuffer_interpret]
  split
  · exact .refl _
  · exact nil_sublist _

theorem servedBuffers_sublist (loop : ResponseLoop) (phase : Nat) (raws : List RawCommand) :
    List.Sublist (servedBuffers env loop phase raws) (raws.filterMap callBuffer) := by
  induction raws generalizing phase with
  | nil => exact .refl _
  | cons raw rest ih =>
    rw [servedBuffers_cons, filterMap_cons_toList]
    refine (served_sublist loop raw).append ?_
    split
    · exact ih (phase + 1)
    · exact nil_sublist _

/-- Two parts that each keep some of their elements keep them all together. -/
theorem append_eq_append_iff_of_sublist
    {first second first' second' : List α} (left : List.Sublist first first')
    (right : List.Sublist second second') :
    first ++ second = first' ++ second' ↔ first = first' ∧ second = second' := by
  constructor
  · intro equal
    have lengths := congrArg List.length equal
    rw [length_append, length_append] at lengths
    have leftLength := left.length_le
    have rightLength := right.length_le
    exact ⟨left.eq_of_length (by omega), right.eq_of_length (by omega)⟩
  · rintro ⟨rfl, rfl⟩
    rfl

theorem served_eq_iff (loop : ResponseLoop) (raw : RawCommand) :
    (raw.interpret loop).servedBuffer.toList = raw.callBuffer.toList ↔
      (raw.callBuffer.isSome → loop.switch .transaction) := by
  rw [servedBuffer_interpret]
  cases loop.switch .transaction with
  | true => exact ⟨fun _ _ => rfl, fun _ => rfl⟩
  | false => cases raw.callBuffer <;> simp

variable {raws : List RawCommand}

theorem mem_isSome_prefix (mem : raw ∈ raws) : ∃ before, before ++ [raw] <+: raws := by
  rcases append_of_mem mem with ⟨before, after, rfl⟩
  exact ⟨before, after, by simp⟩

theorem callsTaken_cons {rest : List RawCommand} :
    CallsTaken env loop phase (raw :: rest) ↔
      (raw.callBuffer.isSome → loop.switch .transaction) ∧
        if commandAccepted env (phase + 1) (raw.interpret loop) then
          CallsTaken env loop (phase + 1) rest
        else
          rest.filterMap callBuffer = [] := by
  constructor
  · intro taken
    have later : ∀ before other, before ++ [other] <+: rest →
        other.callBuffer.isSome → loop.switch .transaction ∧
          allAccepted env loop phase (raw :: before) := by
      intro before other part has
      exact taken (raw :: before) other (cons_prefix_cons.mpr ⟨rfl, part⟩) has
    refine ⟨fun has => (taken [] raw (by simp) has).1, ?_⟩
    split
    · intro before other part has
      rcases later before other part has with ⟨done, accepted⟩
      rw [allAccepted, Bool.and_eq_true] at accepted
      exact ⟨done, accepted.2⟩
    · next refused =>
        refine filterMap_eq_nil_iff.mpr fun other mem => ?_
        rcases mem_isSome_prefix mem with ⟨before, part⟩
        refine Option.not_isSome_iff_eq_none.mp fun has => ?_
        have accepted := (later before other part has).2
        rw [allAccepted, Bool.and_eq_true] at accepted
        exact refused accepted.1
  · rintro ⟨head, tail⟩ before other part has
    cases before with
    | nil =>
      cases (cons_prefix_cons.mp part).1
      exact ⟨head has, rfl⟩
    | cons first before =>
      rcases cons_prefix_cons.mp part with ⟨rfl, inRest⟩
      split at tail
      · next accepted =>
          rcases tail before other inRest has with ⟨done, others⟩
          rw [allAccepted, accepted, others]
          exact ⟨done, rfl⟩
      · have mem : other ∈ rest := inRest.subset (mem_append_right before mem_cons_self)
        have none := filterMap_eq_nil_iff.mp tail other mem
        rw [none] at has
        cases has

/-- A loop gives back the buffers of all calls exactly if it takes up all. -/
theorem servedBuffers_eq_iff (loop : ResponseLoop) (phase : Nat) (raws : List RawCommand) :
    servedBuffers env loop phase raws = raws.filterMap callBuffer ↔
      CallsTaken env loop phase raws := by
  induction raws generalizing phase with
  | nil =>
    refine ⟨fun _ before other part => ?_, fun _ => rfl⟩
    have empty := prefix_nil.mp part
    simp at empty
  | cons raw rest ih =>
    rw [servedBuffers_cons, filterMap_cons_toList, callsTaken_cons]
    have tail : List.Sublist
        (if commandAccepted env (phase + 1) (raw.interpret loop) then
          servedBuffers env loop (phase + 1) rest
        else
          [])
        (rest.filterMap callBuffer) := by
      split
      · exact servedBuffers_sublist loop (phase + 1) rest
      · exact nil_sublist _
    rw [append_eq_append_iff_of_sublist (served_sublist loop raw) tail, served_eq_iff]
    refine and_congr_right fun _ => ?_
    split
    · exact ih (phase + 1)
    · exact eq_comm

/-! ## Replies of one read -/

theorem replyIn_cons
    (loop : ResponseLoop) (raw : RawCommand) (rest : List RawCommand)
    (found : Option BinderTransactionData) :
    replyIn loop (raw :: rest) found =
      replyIn loop rest ((raw.interpret loop).replyData.or found) :=
  rfl

theorem replyIn_of_none
    (none : ∀ raw ∈ raws, (raw.interpret loop).replyData = none)
    (found : Option BinderTransactionData) : replyIn loop raws found = found := by
  induction raws generalizing found with
  | nil => rfl
  | cons raw rest ih =>
    rw [replyIn_cons, none raw mem_cons_self, Option.none_or]
    exact ih (fun later mem => none later (mem_cons_of_mem raw mem)) found

/-- The reply of a loop is the last one in the read. -/
theorem replyIn_cases
    (loop : ResponseLoop) (raws : List RawCommand) (found : Option BinderTransactionData) :
    (∀ raw ∈ raws, (raw.interpret loop).replyData = none) ∨
      ∃ before raw after reply, raws = before ++ raw :: after ∧
        (raw.interpret loop).replyData = some reply ∧
        (∀ later ∈ after, (later.interpret loop).replyData = none) ∧
        replyIn loop raws found = some reply := by
  induction raws generalizing found with
  | nil => exact .inl (forall_mem_nil _)
  | cons raw rest ih =>
    rcases ih ((raw.interpret loop).replyData.or found) with
      none | ⟨before, other, after, reply, split, found, last, result⟩
    · cases own : (raw.interpret loop).replyData with
      | none => exact .inl (forall_mem_cons.mpr ⟨own, none⟩)
      | some reply =>
        refine .inr ⟨[], raw, rest, reply, rfl, own, none, ?_⟩
        rw [replyIn_cons, own, replyIn_of_none none]
        rfl
    · refine .inr ⟨raw :: before, other, after, reply, ?_, found, last, ?_⟩
      · rw [split]
        rfl
      · rwa [replyIn_cons]

theorem suffix_append_cases
    {head : α} {tail before rest : List α} (suffix : head :: tail <:+ before ++ rest) :
    head ∈ before ∨ head :: tail <:+ rest := by
  induction before with
  | nil => exact .inr suffix
  | cons first before ih =>
    rcases suffix_cons_iff.mp suffix with whole | inner
    · cases whole
      exact .inl mem_cons_self
    · rcases ih inner with mem | later
      · exact .inl (mem_cons_of_mem first mem)
      · exact .inr later

variable {reply : BinderTransactionData}

theorem replyBuffer_of_record (record : raw.replyRecord = some reply) :
    raw.replyBuffer = reply.buffer := by
  rw [replyBuffer, record]
  rfl

theorem replyRecord_of_buffer (has : raw.replyBuffer ≠ none) :
    ∃ reply, raw.replyRecord = some reply ∧ reply.buffer.isSome := by
  cases record : raw.replyRecord with
  | none =>
    rw [replyBuffer, record] at has
    exact absurd rfl has
  | some reply =>
    rw [replyBuffer_of_record record] at has
    exact ⟨reply, rfl, Option.isSome_iff_ne_none.mpr has⟩

/-- Nobody waits for the reply: none may come with a buffer. -/
theorem replyTaken_iff_of_not_waiting
    {oneWay : Bool}
    (lost : ¬ (oneWay = false ∧ loop.switch .reply ∧ allAccepted env loop phase raws)) :
    ReplyTaken env loop oneWay phase raws ↔ raws.filterMap replyBuffer = [] := by
  constructor
  · intro taken
    refine filterMap_eq_nil_iff.mpr fun raw mem => ?_
    by_contra carries
    rcases replyRecord_of_buffer carries with ⟨reply, record, some⟩
    rcases append_of_mem mem with ⟨before, after, rfl⟩
    exact lost (taken raw after (suffix_append before _) reply record some).1
  · intro empty raw after suffix reply record some
    have none := filterMap_eq_nil_iff.mp empty raw (suffix.subset mem_cons_self)
    rw [replyBuffer_of_record record] at none
    rw [none] at some
    cases some

variable {before : List RawCommand}

/-- The last reply of the read is the one that the call waits for. -/
theorem replyTaken_iff_of_last
    {after : List RawCommand} (done : loop.switch .reply) (passed : allAccepted env loop phase raws)
    (split : raws = before ++ raw :: after) (record : raw.replyRecord = some reply)
    (last : ∀ later ∈ after, later.replyRecord = none) :
    ReplyTaken env loop false phase raws ↔
      (raws.filterMap replyBuffer).Perm
        (if replyReleased env (phase + raws.length + 1) reply then reply.buffer.toList
          else []) := by
  subst split
  have others : after.filterMap replyBuffer = [] := by
    refine filterMap_eq_nil_iff.mpr fun later mem => ?_
    rw [replyBuffer, last later mem]
    rfl
  have buffers :
      (before ++ raw :: after).filterMap replyBuffer =
        before.filterMap replyBuffer ++ reply.buffer.toList := by
    rw [filterMap_append, filterMap_cons_toList, others, replyBuffer_of_record record, append_nil]
  rw [buffers]
  constructor
  · intro taken
    have first : before.filterMap replyBuffer = [] := by
      refine filterMap_eq_nil_iff.mpr fun other mem => ?_
      by_contra has
      rcases replyRecord_of_buffer has with ⟨past, found, some⟩
      rcases append_of_mem mem with ⟨front, back, rfl⟩
      have alone := (taken other (back ++ raw :: after)
        ⟨front, by simp⟩ past found some).2.1 raw
        (mem_append_right back mem_cons_self)
      rw [record] at alone
      cases alone
    rw [first, nil_append]
    cases carried : reply.buffer with
    | none => split <;> exact .refl _
    | some ptr =>
      have released := (taken raw after (suffix_append before _) reply
        record (by rw [carried]; rfl)).2.2
      rw [if_pos released]
  · intro permuted other tail suffix past found some
    have lengths := permuted.length_eq
    rw [length_append] at lengths
    have first : before.filterMap replyBuffer = [] := by
      apply eq_nil_of_length_eq_zero
      split at lengths
      · omega
      · rw [length_nil] at lengths
        omega
    have has : other.replyBuffer ≠ none := by
      rw [replyBuffer_of_record found]
      exact Option.isSome_iff_ne_none.mp some
    rcases suffix_append_cases suffix with mem | later
    · exact absurd (filterMap_eq_nil_iff.mp first other mem) has
    · rcases suffix_cons_iff.mp later with whole | behind
      · cases whole
        cases record.symm.trans found
        refine ⟨⟨rfl, done, passed⟩, last, ?_⟩
        by_contra refused
        rw [if_neg refused, first, nil_append] at permuted
        rcases Option.isSome_iff_exists.mp some with ⟨ptr, carried⟩
        rw [carried] at permuted
        cases permuted.length_eq
      · have none := filterMap_eq_nil_iff.mp others other (behind.subset mem_cons_self)
        exact absurd none has

/-! ## The end of a call -/

theorem reached_releaseReply (t : BinderThread) (reply : BinderTransactionData) :
    t.Adds ((releaseReply env reply).reached t) (frees reply) := by
  unfold releaseReply frees BinderTransactionData.buffer
  by_cases null : reply.dataBuffer = 0
  · rw [if_neg (not_not_intro null), if_pos null]
    exact .refl t
  · rw [if_pos null, if_neg null]
    exact reached_freeBuffer t reply.dataBuffer

/-- What follows in a phase without reads. -/
structure Continues (t next : BinderThread) (buffers : List UInt64) : Prop where
  added : ∃ events, next.log = t.log ++ events ∧ fetches events = [] ∧ freed events = buffers
  reads : next.reads = t.reads

theorem Continues.refl (t : BinderThread) : Continues t t [] where
  added := ⟨[], (append_nil _).symm, rfl, rfl⟩
  reads := rfl

theorem fetches_map_wrote (commands : List WriteCommand) : fetches (commands.map .wrote) = [] := by
  refine fetches_of_inner fun event mem => ?_
  rcases mem_map.mp mem with ⟨command, -, rfl⟩
  trivial

theorem fetches_frees (reply : BinderTransactionData) : fetches (frees reply) = [] := by
  unfold frees
  cases reply.buffer <;> rfl

theorem freed_acquisitions
    {objects : List ParcelObject} {commands : List WriteCommand}
    (wanted : commands ⊆ acquisitions objects) : freed (commands.map .wrote) = [] :=
  freed_of_preparatory (preparatory_acquisitions wanted)

variable {t : BinderThread}

theorem settleReply_continues
    (fresh : t.writes = 0) (reply : BinderTransactionData)
    (body : List UInt8) (objects : List ParcelObject) :
    Continues t ((settleReply env reply body objects).reached t)
      (if objectsTaken env t.phase reply objects then reply.buffer.toList
      else []) := by
  have release (s : BinderThread) : s.Adds ((releaseReply env reply).reached s) (frees reply) :=
    reached_releaseReply s reply
  have row : WritesRow env _ _ := acquireParcelObjects_row objects
  unfold settleReply objectsTaken
  by_cases status : reply.has tfStatus
  · rw [if_pos status, status, Bool.true_or, if_pos rfl, reached_bind_of_still fun _ _ => rfl]
    exact ⟨⟨frees reply, (release t).log, fetches_frees reply,
      freed_frees reply⟩, (release t).reads⟩
  · rw [if_neg status, Bool.eq_false_iff.mpr status, Bool.false_or]
    by_cases taken : acceptedAll (env.writes t.phase) 0 (acquisitions objects)
    · rw [if_pos taken, reached_bind_ok (row.accepted t (fresh ▸ taken)),
        reached_bind_of_still fun _ _ => rfl]
      have adds := (BinderThread.Adds.issueAll t (acquisitions objects)).trans (release _)
      refine ⟨⟨_, adds.log, ?_, ?_⟩, adds.reads⟩
      · rw [fetches_append, fetches_map_wrote, fetches_frees]
        rfl
      · rw [freed_append, freed_frees, freed_acquisitions (.refl _)]
        rfl
    · rcases row.refused t (fresh ▸ taken) with ⟨reason, failed⟩
      rw [if_neg taken, reached_of_error (bind_error failed)]
      exact ⟨⟨_, (BinderThread.Adds.issueAll t _).log, fetches_map_wrote _,
        freed_acquisitions (upToRefused_subset _ _ _)⟩, rfl⟩

/-- The buffer of a reply is freed exactly if the reply is released. -/
theorem completeReply_continues (mapped : env.memory.Maps reply) (t : BinderThread) :
    Continues t ((completeReply env reply).reached t)
      (if replyReleased env (t.phase + 1) reply then reply.buffer.toList
      else []) := by
  rcases copyTransactionPayload_of_maps mapped with ⟨copied, copies⟩
  have opened : (modify .nextPhase : DriverM Unit) t = .ok () t.nextPhase := rfl
  unfold completeReply
  rw [reached_bind_ok opened]
  cases copied with
  | error err =>
    have kept : replyReleased env (t.phase + 1) reply = false := by
      rw [replyReleased, copies]
    rw [kept, copies]
    exact ⟨⟨[], (append_nil _).symm, rfl, rfl⟩, rfl⟩
  | ok parts =>
    rcases parts with ⟨body, objects⟩
    have freed : replyReleased env (t.phase + 1) reply =
        objectsTaken env (t.phase + 1) reply objects := by
      rw [replyReleased, copies]
    have fresh : t.nextPhase.writes = 0 := rfl
    have settled :
        Continues t.nextPhase ((settleReply env reply body objects).reached t.nextPhase) _ :=
      settleReply_continues fresh reply body objects
    rw [freed, copies]
    exact ⟨settled.added, settled.reads⟩

/-! ## One read -/

theorem replyBuffer_of_callBuffer (call : raw.callBuffer ≠ none) : raw.replyBuffer = none := by
  unfold callBuffer at call
  unfold replyBuffer replyRecord
  cases interpreted : raw.interpret .client with
  | reply tx =>
    rw [interpreted] at call
    exact absurd rfl call
  | _ => rfl

/-- The buffers of a read are those of its calls and those of its replies. -/
theorem buffers_perm (raws : List RawCommand) :
    (raws.filterMap buffer).Perm (raws.filterMap callBuffer ++ raws.filterMap replyBuffer) := by
  induction raws with
  | nil => exact .refl _
  | cons raw rest ih =>
    rw [filterMap_cons_toList, filterMap_cons_toList, filterMap_cons_toList]
    unfold buffer
    cases call : raw.callBuffer with
    | none =>
      rw [Option.none_or]
      exact (ih.append_left _).trans (perm_append_comm_assoc _ _ _)
    | some ptr =>
      have none : raw.replyBuffer = none :=
        replyBuffer_of_callBuffer (by rw [call]; exact Option.some_ne_none _)
      rw [none]
      exact ih.cons ptr

/-- Parts that give back at most what they got balance one by one. -/
theorem perm_append_iff_of_parts
    {calls served replies released : List α} (some : List.Sublist served calls)
    (few : released.length ≤ replies.length) :
    (calls ++ replies).Perm (served ++ released) ↔ served = calls ∧ replies.Perm released := by
  constructor
  · intro permuted
    have lengths := permuted.length_eq
    rw [length_append, length_append] at lengths
    have sublength := some.length_le
    have same : served = calls := some.eq_of_length (by omega)
    subst same
    exact ⟨rfl, (perm_append_left_iff served).mp permuted⟩
  · rintro ⟨rfl, permuted⟩
    exact permuted.append_left served

theorem received_append (first second : List DriverEvent) :
    received (first ++ second) = received first ++ received second := by
  unfold received
  rw [fetches_append, flatMap_append]

variable {events : List DriverEvent}

theorem received_of_fetches (none : fetches events = []) : received events = [] := by
  rw [received, none]
  rfl

variable {middle final : BinderThread}

/-- The account of a read that is not followed by another one. -/
theorem balanced_iff_of_continues
    {released : List UInt64} (runs : Runs env loop raws (t.fetched raws) middle events)
    (continues : Continues middle final released)
    (few : released.length ≤ (raws.filterMap replyBuffer).length) :
    Balanced t final ↔ CallsTaken env loop t.phase raws ∧
      (raws.filterMap replyBuffer).Perm released := by
  rcases continues.added with ⟨more, log, silent, freed⟩
  have added : t.added final = [.read raws] ++ (events ++ more) := by
    apply added_eq
    rw [log, runs.log_fetched, append_assoc]
    rfl
  have got : received (t.added final) = raws.filterMap buffer := by
    rw [added, received_append, received_append,
      received_of_fetches runs.fetches, received_of_fetches silent]
    simp [received, fetches]
  have given : DriverEvent.freed (t.added final) =
      servedBuffers env loop t.phase raws ++ released := by
    rw [added, freed_append, freed_append, runs.freed, freed]
    rfl
  rw [Balanced, got, given, List.Perm.congr_left (buffers_perm raws),
    perm_append_iff_of_parts (servedBuffers_sublist loop t.phase raws) few, servedBuffers_eq_iff]

/-! ## The operations -/

/-- The log only grows, and the account is balanced under a condition. -/
structure Accounts (t final : BinderThread) (condition : Prop) : Prop where
  grows : ∃ events, final.log = t.log ++ events
  balanced : Balanced t final ↔ condition

variable {condition : Prop}

theorem accounts_still (log : final.log = t.log) (holds : condition) :
    Accounts t final condition where
  grows := ⟨[], by rw [log, append_nil]⟩
  balanced := by
    have nothing : t.added final = [] := added_eq (by rw [log, append_nil])
    rw [Balanced, nothing]
    exact ⟨fun _ => holds, fun _ => .refl _⟩

theorem Accounts.congr
    {other : Prop} (accounts : Accounts t final condition) (same : condition ↔ other) :
    Accounts t final other :=
  ⟨accounts.grows, accounts.balanced.trans same⟩

/-- A balanced part in front does not change the account. -/
theorem Accounts.after
    {first : List DriverEvent} (log : middle.log = t.log ++ first)
    (balanced : Balanced t middle) (rest : Accounts middle final condition) :
    Accounts t final condition where
  grows := by
    rcases rest.grows with ⟨second, later⟩
    exact ⟨first ++ second, by rw [later, log, append_assoc]⟩
  balanced := by
    rcases rest.grows with ⟨second, later⟩
    have whole : t.added final = first ++ second := added_eq (by rw [later, log, append_assoc])
    rw [Balanced, added_eq log] at balanced
    rw [← rest.balanced, Balanced, Balanced, whole, added_eq later, received_append, freed_append,
      List.Perm.congr_left (balanced.append_right _), perm_append_left_iff]

/-- The account of a read after which nobody waits for a reply. -/
theorem accounts_of_lost
    (oneWay : Bool) (runs : Runs env loop raws (t.fetched raws) middle events)
    (lost : ¬ (oneWay = false ∧ loop.switch .reply ∧ allAccepted env loop t.phase raws)) :
    Accounts t middle
      (CallsTaken env loop t.phase raws ∧ ReplyTaken env loop oneWay t.phase raws) where
  grows := ⟨_, runs.log_fetched⟩
  balanced := by
    rw [balanced_iff_of_continues runs (.refl middle) (Nat.zero_le _),
      perm_nil, replyTaken_iff_of_not_waiting lost]

theorem callsTaken_of_allAccepted (taken : allAccepted env loop phase raws) :
    CallsTaken env loop phase raws := by
  rintro before raw ⟨after, rfl⟩ has
  rw [allAccepted_append, allAccepted_append, Bool.and_eq_true, Bool.and_eq_true] at taken
  rcases taken with ⟨⟨front, own⟩, -⟩
  rw [allAccepted, Bool.and_eq_true] at own
  exact ⟨switch_of_commandAccepted own.1 has, front⟩

theorem settles_succ_iff {oneWay : Bool} {reads start : Nat} (sent : env.reads start = .ok raws) :
    Settles env loop oneWay (reads + 1) start phase ↔
      CallsTaken env loop phase raws ∧
        ReplyTaken env loop oneWay phase raws ∧
        (allAccepted env loop phase raws →
          (∀ raw ∈ raws, raw.replyRecord = none) →
          Settles env loop oneWay reads (start + 1) (phase + raws.length)) := by
  constructor
  · intro settles
    exact settles raws sent
  · intro settled others also
    cases sent.symm.trans also
    exact settled

/-- The account of a read that ends with the reply of the call. -/
theorem accounts_of_reply
    (runs : Runs env loop raws (t.fetched raws) middle events)
    (mapped : ∀ raw ∈ raws, raw.Mapped env.memory) (done : loop.switch .reply)
    (taken : allAccepted env loop t.phase raws) {after : List RawCommand}
    (split : raws = before ++ raw :: after) (record : raw.replyRecord = some reply)
    (last : ∀ later ∈ after, later.replyRecord = none) :
    Accounts t ((completeReply env reply).reached middle)
      (CallsTaken env loop t.phase raws ∧ ReplyTaken env loop false t.phase raws) := by
  have mem : raw ∈ raws := by
    rw [split]
    exact mem_append_right before mem_cons_self
  have continues : Continues middle ((completeReply env reply).reached middle) _ :=
    completeReply_continues ((mapped raw mem).1 reply record) middle
  have few :
      (if replyReleased env (middle.phase + 1) reply then
        reply.buffer.toList
      else
        []).length ≤ (raws.filterMap replyBuffer).length := by
    have own : List.Sublist reply.buffer.toList
        (raws.filterMap replyBuffer) := by
      rw [split, filterMap_append, filterMap_cons_toList, replyBuffer_of_record record]
      exact (sublist_append_left _ _).trans (sublist_append_right _ _)
    split
    · exact own.length_le
    · exact Nat.zero_le _
  constructor
  · rcases continues.added with ⟨more, log, -, -⟩
    refine ⟨.read raws :: events ++ more, ?_⟩
    rw [log, runs.log_fetched, append_assoc]
  · have phase : middle.phase = t.phase + raws.length := (runs.of_accepted taken).1
    rw [balanced_iff_of_continues runs continues few, phase,
      replyTaken_iff_of_last done taken split record last]

/-- The search for a reply, with nothing found so far. -/
def searchReply (env : DriverEnv) (loop : ResponseLoop) (reads : Nat)
    (commands : List UInt32) : DriverM (List UInt8 × List ParcelObject) := do
  let found ← awaitReply env loop reads commands none
  concludeCall env found.1 found.2

/-- What follows a read of the search. -/
def afterRead (env : DriverEnv) (loop : ResponseLoop) (reads : Nat)
    (commands : List UInt32)
    (found : List UInt32 × Option BinderTransactionData) :
    DriverM (List UInt8 × List ParcelObject) := do
  let found ← awaitReply env loop reads (commands ++ found.1) found.2
  concludeCall env found.1 found.2

theorem searchReply_succ (loop : ResponseLoop) (reads : Nat) (commands : List UInt32) :
    searchReply env loop (reads + 1) commands =
      readAnd env loop (afterRead env loop reads commands) := by
  unfold searchReply readAnd afterRead
  rw [awaitReply]
  simp only [bind_assoc]

theorem afterRead_some
    (loop : ResponseLoop) (reads : Nat) (commands more : List UInt32)
    (reply : BinderTransactionData) :
    afterRead env loop reads commands (more, some reply) = completeReply env reply := by
  cases reads <;> rfl

/-- The account of a read without a reply is that of the reads behind it. -/
theorem accounts_of_none
    {reads : Nat} (sent : env.reads t.reads = .ok raws)
    (runs : Runs env loop raws (t.fetched raws) middle events)
    (done : loop.switch .reply) (passed : allAccepted env loop t.phase raws)
    (absent : ∀ raw ∈ raws, (raw.interpret loop).replyData = none)
    (later : Accounts middle final (Settles env loop false reads middle.reads middle.phase)) :
    Accounts t final (Settles env loop false (reads + 1) t.reads t.phase) := by
  simp only [replyData_interpret, done, if_true] at absent
  have silent : raws.filterMap replyBuffer = [] := by
    refine filterMap_eq_nil_iff.mpr fun raw mem => ?_
    rw [replyBuffer, absent raw mem]
    rfl
  have taken := callsTaken_of_allAccepted passed
  have balanced : Balanced t middle := by
    rw [balanced_iff_of_continues runs (.refl middle) (Nat.zero_le _), silent]
    exact ⟨taken, .refl _⟩
  have replies : ReplyTaken env loop false t.phase raws := by
    intro raw after suffix reply record
    rw [absent raw (suffix.subset mem_cons_self)] at record
    cases record
  have nextRead : middle.reads = t.reads + 1 := runs.reads
  have phase : middle.phase = t.phase + raws.length := (runs.of_accepted passed).1
  rw [nextRead, phase] at later
  refine (later.after runs.log_fetched balanced).congr ?_
  rw [settles_succ_iff sent]
  constructor
  · intro settles
    exact ⟨taken, replies, fun _ _ => settles⟩
  · rintro ⟨-, -, settles⟩
    exact settles passed absent

/-- Nothing is left over by a read that fails. -/
theorem accounts_of_error
    {reason : GoError} (sent : env.reads t.reads = .error reason)
    (next : List UInt32 × Option BinderTransactionData → DriverM α) {oneWay : Bool} {reads : Nat} :
    Accounts t ((readAnd env loop next).reached t)
      (Settles env loop oneWay (reads + 1) t.reads t.phase) := by
  have failed := driverRead_error sent
  refine accounts_still ?_ fun raws also => ?_
  · rw [readAnd, reached_of_error (bind_error failed)]
  · cases sent.symm.trans also

/-- The account of the reads up to the reply. -/
theorem accounts_readAnd
    (done : loop.switch .reply) (sends : env.Delivers) {reads : Nat} (commands : List UInt32)
    (later : ∀ (more : List UInt32) (middle : BinderThread),
      Accounts middle ((searchReply env loop reads more).reached middle)
        (Settles env loop false reads middle.reads middle.phase))
    (t : BinderThread) :
    Accounts t
      ((readAnd env loop (afterRead env loop reads commands)).reached t)
      (Settles env loop false (reads + 1) t.reads t.phase) := by
  cases sent : env.reads t.reads with
  | error reason => exact accounts_of_error sent _
  | ok raws =>
    have mapped := sends t.reads raws sent
    rcases reached_readAnd loop (afterRead env loop reads commands) sent
      mapped with ⟨middle, events, runs, reached⟩
    rw [reached]
    by_cases taken : allAccepted env loop t.phase raws
    · rw [if_pos taken]
      rcases replyIn_cases loop raws none with
        absent | ⟨before, raw, after, reply, parts, record, last, found⟩
      · rw [replyIn_of_none absent]
        exact accounts_of_none sent runs done taken absent (later _ middle)
      · rw [found, afterRead_some, settles_succ_iff sent]
        simp only [replyData_interpret, done, if_true] at record last
        refine (accounts_of_reply runs mapped done taken parts record last).congr ?_
        refine and_congr_right fun _ => (and_iff_left fun _ nothing => ?_).symm
        have absent := nothing raw (parts ▸ mem_append_right before mem_cons_self)
        rw [record] at absent
        cases absent
    · rw [if_neg taken, settles_succ_iff sent]
      refine (accounts_of_lost false runs fun waits =>
        taken waits.2.2).congr ?_
      exact and_congr_right fun _ =>
        (and_iff_left fun all => absurd all taken).symm

theorem accounts_searchReply
    (done : loop.switch .reply) (sends : env.Delivers) (reads : Nat)
    (commands : List UInt32) (t : BinderThread) :
    Accounts t ((searchReply env loop reads commands).reached t)
      (Settles env loop false reads t.reads t.phase) := by
  induction reads generalizing commands t with
  | zero => exact accounts_still rfl trivial
  | succ reads ih =>
    rw [searchReply_succ]
    exact accounts_readAnd done sends commands (fun more middle => ih more middle) t

/-- The account of a single read whose loop is followed by nothing. -/
theorem accounts_single
    (sends : env.Delivers) {next : List UInt32 × Option BinderTransactionData → DriverM α}
    (still : ∀ found middle, (next found).reached middle = middle) (t : BinderThread) :
    Accounts t ((readAnd env loop next).reached t) (Settles env loop true 1 t.reads t.phase) := by
  cases sent : env.reads t.reads with
  | error reason => exact accounts_of_error sent _
  | ok raws =>
    rcases reached_readAnd loop next sent (sends t.reads raws sent)
      with ⟨middle, events, runs, reached⟩
    have ended : (readAnd env loop next).reached t = middle := by
      rw [reached, still, ite_self]
    rw [settles_succ_iff sent, ended]
    refine (accounts_of_lost true runs fun waits => ?_).congr ?_
    · cases waits.1
    · exact and_congr_right fun _ =>
        (and_iff_left fun _ _ => trivial).symm

theorem balanced_issue (t : BinderThread) (data : OutgoingData) :
    Balanced t (t.issue (.transaction data)) := by
  have added : t.added (t.issue (.transaction data)) = [.wrote (.transaction data)] := added_eq rfl
  rw [Balanced, added]
  exact .refl _

/-- The account of an outgoing call. -/
theorem accounts_transactParcel
    (done : loop.switch .reply) (sends : env.Delivers)
    (furtherReads : Nat) (call : KernelCall) (t : BinderThread) :
    Accounts t ((transactParcel env loop furtherReads call).reached t)
      (Settles env loop call.oneWay
        (if call.oneWay then 1 else furtherReads + 1) t.reads t.phase) := by
  have issued : (modify fun s => s.issue (.transaction call.data) :
      DriverM Unit) t = .ok () (t.issue (.transaction call.data)) := rfl
  have balanced := balanced_issue t call.data
  unfold transactParcel writeTransaction
  rw [bind_assoc, reached_bind_ok issued]
  cases oneWay : call.oneWay with
  | true => exact .after rfl balanced (accounts_single sends (fun _ _ => rfl) _)
  | false =>
    exact .after rfl balanced
      (accounts_readAnd done sends [] (accounts_searchReply done sends furtherReads) _)

/--
Everything an operation receives is freed once by the time it ends, exactly if
its reads leave nothing behind.
-/
theorem buffers_freed_once_iff
    (env : DriverEnv) (delivers : env.Delivers) (path : BufferPath)
    (t : BinderThread) : Balanced t ((path.operation env).reached t) ↔ path.Settled env t := by
  cases path with
  | client call | driver call =>
    unfold BufferPath.operation
    rw [reached_bind_of_still fun _ _ => rfl]
    exact (accounts_transactParcel rfl delivers _ call t).balanced
  | looper =>
    unfold BufferPath.operation
    rw [round_eq]
    exact (accounts_single delivers (fun _ _ => rfl) t).balanced

instance (t next : BinderThread) : Decidable (Balanced t next) :=
  inferInstanceAs (Decidable (List.Perm _ _))

/-- A reply whose buffer is at the start of the mapping. -/
def bufferedReply : BinderTransactionData where
  dataSize := 4
  dataBuffer := 4096

theorem firstRead_bounded : 4096 + ([1, 2, 3, 4] : List UInt8).length < 2 ^ 63 := by
  decide

/-- A driver whose first read is given, and whose other reads are empty. -/
def firstRead (commands : List RawCommand) : DriverEnv where
  memory := { base := 4096, bytes := [1, 2, 3, 4], bounded := firstRead_bounded }
  reads := fun position => if position = 0 then .ok commands else .ok []
  writes := fun _ _ => .whole
  handlers := fun _ => .ok none

theorem firstRead_delivers
    {commands : List RawCommand} (mapped : ∀ raw ∈ commands, raw.Mapped (firstRead []).memory) :
    (firstRead commands).Delivers := by
  intro start raws sent
  change (if start = 0 then _ else _) = Except.ok raws at sent
  split at sent
  · cases sent
    exact mapped
  · cases sent
    exact forall_mem_nil _

theorem bufferedReply_mapped : (RawCommand.reply bufferedReply).Mapped (firstRead []).memory :=
  reply_mapped (by decide)

/-- A single reply is freed by the call that waits for it. -/
theorem single_reply_settled :
    (BufferPath.client {}).Settled (firstRead [.reply bufferedReply]) {} := by
  have delivers : (firstRead [.reply bufferedReply]).Delivers :=
    firstRead_delivers (forall_mem_singleton.mpr bufferedReply_mapped)
  exact (buffers_freed_once_iff _ delivers _ _).mp (by decide +kernel)

/-- A command behind the reply fails, and the reply is left behind. -/
theorem failing_read_leaks :
    ¬ Balanced {} ((BufferPath.operation
      (firstRead [.reply bufferedReply, .plain .failedReply rfl])
      (.client {})).reached {}) := by
  decide +kernel

end Libbinder.Kernel
