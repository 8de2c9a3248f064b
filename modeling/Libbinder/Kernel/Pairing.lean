import Libbinder.Kernel.Buffers

/-!
# Replies and the calls they answer

A client thread makes one call after the other, and the driver answers each
synchronous one once.  The commands of the driver do not say which call they
answer: a call takes the first answer it finds.  So a call that gives up before
its answer has come hands that answer to the next call.

Which call a command answers is known to the driver only: a function on the
places of the stream of commands, which the thread does not see.
-/

namespace Libbinder.Kernel

open Go List Action Backend RawCommand

/-! ## Calls in a row -/

/-- A call of a thread, with the states around it and its results. -/
structure CallRecord where
  call : KernelCall
  before : BinderThread
  result : Option (Except GoError (List UInt8 × List ParcelObject))
  after : BinderThread

/-- The calls of a client thread, one after the other. -/
def runCalls (env : DriverEnv) : List KernelCall → BinderThread → List CallRecord
  | [], _ => []
  | call :: rest, t =>
    { call := call
      before := t
      result := (transactHandleParcel env call).outcome t
      after := (transactHandleParcel env call).reached t } ::
      runCalls env rest ((transactHandleParcel env call).reached t)

/-- The synchronous calls, which are numbered in this order. -/
def synchronous (records : List CallRecord) : List CallRecord :=
  records.filter fun record => !record.call.oneWay

/-- The command at a place of the stream. -/
def DriverEnv.commandAt (env : DriverEnv) (position index : Nat) : Option RawCommand :=
  match env.reads position with
  | .ok raws => raws[index]?
  | .error _ => none

/-- The commands that answer a call. -/
def RawCommand.isAnswer (raw : RawCommand) : Bool :=
  match raw.interpret .client with
  | .reply _ => true
  | .deadReply => true
  | .failedReply => true
  | _ => false

/-- No two places answer the same call. -/
def OwnedOnce (owner : Nat → Nat → Option Nat) : Prop :=
  ∀ position index position' index' number,
    owner position index = some number →
      owner position' index' = some number → position = position' ∧ index = index'

/--
The driver answers calls: a command answers at most one of them, a call has at
most one answer, not before it was made, and a reply is always an answer.
-/
structure Answers (env : DriverEnv) (owner : Nat → Nat → Option Nat)
    (records : List CallRecord) : Prop where
  once : OwnedOnce owner
  later : ∀ position index number, owner position index = some number →
    ∃ record, (synchronous records)[number]? = some record ∧ record.before.reads ≤ position
  answer : ∀ position index number raw,
    owner position index = some number → env.commandAt position index = some raw → raw.isAnswer
  replies : ∀ position index raw,
    env.commandAt position index = some raw → raw.replyRecord ≠ none → owner position index ≠ none

/-- The results of a call are what an answer stands for. -/
def AnswerResult (env : DriverEnv) (raw : RawCommand)
    (result : Option (Except GoError (List UInt8 × List ParcelObject))) : Prop :=
  match raw.interpret .client with
  | .reply tx => ∃ s, result = (completeReply env tx).outcome s
  | .deadReply => result = some (.error errDeadReply)
  | .failedReply => result = some (.error errFailedReply)
  | _ => False

/-- The call with this number and its results belong together. -/
def Paired (env : DriverEnv) (owner : Nat → Nat → Option Nat)
    (number : Nat) (record : CallRecord) : Prop :=
  ∃ position index raw, owner position index = some number ∧
    env.commandAt position index = some raw ∧
    AnswerResult env raw record.result

/--
The answer comes within a number of reads, and nothing fails before it.  If it
is a reply, nothing in its read fails behind it either.
-/
def Arrives (env : DriverEnv) (owner : Nat → Nat → Option Nat)
    (number : Nat) : Nat → Nat → Nat → Prop
  | 0, _, _ => False
  | reads + 1, position, phase =>
    ∃ raws, env.reads position = .ok raws ∧
      ((∃ before raw after, raws = before ++ raw :: after ∧
          owner position before.length = some number ∧
          allAccepted env .client phase before ∧
          (raw.replyRecord ≠ none → allAccepted env .client phase raws)) ∨
        (allAccepted env .client phase raws ∧
          Arrives env owner number reads (position + 1) (phase + raws.length)))

variable {env : DriverEnv} {owner : Nat → Nat → Option Nat} {number : Nat}

/-! ## Places -/

variable {position : Nat} {raws : List RawCommand}

theorem commandAt_of_reads (sent : env.reads position = .ok raws) (index : Nat) :
    env.commandAt position index = raws[index]? := by
  rw [DriverEnv.commandAt, sent]

variable {before after : List RawCommand} {raw : RawCommand}

theorem commandAt_of_split (sent : env.reads position = .ok (before ++ raw :: after)) :
    env.commandAt position before.length = some raw := by
  rw [commandAt_of_reads sent]
  simp

/-- An answer that arrives has a place behind the start of the search. -/
theorem Arrives.place
    {reads phase : Nat} (arrives : Arrives env owner number reads position phase) :
    ∃ place index, owner place index = some number ∧ position ≤ place := by
  induction reads generalizing position phase with
  | zero => cases arrives
  | succ reads ih =>
    rcases arrives with ⟨raws, -, ⟨before, raw, after, -, owned, -, -⟩ | ⟨-, later⟩⟩
    · exact ⟨position, before.length, owned, Nat.le_refl _⟩
    · rcases ih later with ⟨place, index, owned, behind⟩
      exact ⟨place, index, owned, by omega⟩

/-! ## Numbers of reads -/

theorem mapped_replyIn {loop : ResponseLoop} (mapped : ∀ raw ∈ raws, raw.Mapped env.memory) :
    ∀ tx ∈ replyIn loop raws none, env.memory.Maps tx := by
  intro tx found
  rcases replyIn_cases loop raws none with
    absent | ⟨before, raw, after, reply, parts, record, -, result⟩
  · rw [replyIn_of_none absent] at found
    cases found
  · rw [result] at found
    cases found
    have mem : raw ∈ raws := parts ▸ mem_append_right before mem_cons_self
    exact ((mapped raw mem).interpret loop).1 tx record

/-- A read counts, whatever follows it. -/
theorem reads_lt_readAnd
    {α : Type} (sends : env.Delivers)
    {next : List UInt32 × Option BinderTransactionData → DriverM α}
    (onward : ∀ found middle,
      (∀ tx ∈ found.2, env.memory.Maps tx) → middle.reads ≤ ((next found).reached middle).reads)
    (t : BinderThread) : t.reads < ((readAnd env .client next).reached t).reads := by
  cases sent : env.reads t.reads with
  | error reason =>
    have failed := driverRead_error sent
    rw [readAnd, reached_of_error (bind_error failed)]
    exact Nat.lt_succ_self _
  | ok raws =>
    have mapped := sends t.reads raws sent
    rcases reached_readAnd .client next sent mapped with ⟨middle, events, runs, reached⟩
    have fetched : middle.reads = t.reads + 1 := runs.reads
    rw [reached]
    split
    · have goesOn := onward (raws.map cmd, replyIn .client raws none) middle (mapped_replyIn mapped)
      omega
    · omega

theorem reads_le_afterRead
    {reads : Nat}
    (search : ∀ (commands : List UInt32) (t : BinderThread),
      t.reads ≤ ((searchReply env .client reads commands).reached t).reads)
    (commands : List UInt32) (found : List UInt32 × Option BinderTransactionData)
    (middle : BinderThread) (mapped : ∀ tx ∈ found.2, env.memory.Maps tx) :
    middle.reads ≤ ((afterRead env .client reads commands found).reached middle).reads := by
  rcases found with ⟨more, reply⟩
  cases reply with
  | none => exact search (commands ++ more) middle
  | some tx =>
    rw [afterRead_some]
    exact Nat.le_of_eq (completeReply_continues (mapped tx rfl) middle).reads.symm

theorem reads_le_searchReply
    (sends : env.Delivers) (reads : Nat) (commands : List UInt32) (t : BinderThread) :
    t.reads ≤ ((searchReply env .client reads commands).reached t).reads := by
  induction reads generalizing commands t with
  | zero => exact Nat.le_refl _
  | succ reads ih =>
    rw [searchReply_succ]
    exact Nat.le_of_lt (reads_lt_readAnd sends (reads_le_afterRead ih commands) t)

/-! ## One call -/

/-- The replies among the reads of an action answer this call. -/
def OwnReplies (env : DriverEnv) (owner : Nat → Nat → Option Nat)
    (number first last : Nat) : Prop :=
  ∀ position index raw, first ≤ position → position < last →
    env.commandAt position index = some raw → raw.replyRecord ≠ none →
      owner position index = some number

/-- The answer of the call was read, and it is what the call returns. -/
def Answered (env : DriverEnv) (owner : Nat → Nat → Option Nat)
    (number last : Nat)
    (result : Option (Except GoError (List UInt8 × List ParcelObject))) : Prop :=
  ∃ position index raw, owner position index = some number ∧
    position < last ∧ env.commandAt position index = some raw ∧
    AnswerResult env raw result

/-- The only reply of a read is the one that its loop finds. -/
theorem replyIn_of_only
    {reply : BinderTransactionData} (parts : raws = before ++ raw :: after)
    (record : raw.replyRecord = some reply)
    (only : ∀ index other, raws[index]? = some other →
      other.replyRecord ≠ none → index = before.length) :
    replyIn .client raws none = some reply := by
  rcases replyIn_cases .client raws none with
    absent | ⟨front, other, back, found, split, logged, -, result⟩
  · have mem : raw ∈ raws := parts ▸ mem_append_right before mem_cons_self
    rw [replyRecord, absent raw mem] at record
    cases record
  · have place : raws[front.length]? = some other := by
      rw [split]
      simp
    have isReply : other.replyRecord ≠ none := by
      rw [replyRecord, logged]
      exact Option.some_ne_none _
    have same := only front.length other place isReply
    rw [same, parts] at place
    have own : raw = other := by simpa using place
    rwa [result, ← logged, ← own]

variable {t : BinderThread}

/-- A read that has the answer of the call ends it with that answer. -/
theorem answered_of_here
    (sends : env.Delivers) (once : OwnedOnce owner)
    {next : List UInt32 × Option BinderTransactionData → DriverM (List UInt8 × List ParcelObject)}
    (completes : ∀ commands reply,
      next (commands, some reply) = completeReply env reply)
    (sent : env.reads t.reads = .ok (before ++ raw :: after))
    (owned : owner t.reads before.length = some number) (answer : raw.isAnswer)
    (taken : allAccepted env .client t.phase before)
    (whole : raw.replyRecord ≠ none → allAccepted env .client t.phase (before ++ raw :: after))
    {last : Nat} (read : t.reads < last) (own : OwnReplies env owner number t.reads last) :
    Answered env owner number last ((readAnd env .client next).outcome t) := by
  have mapped := sends t.reads _ sent
  have front : ∀ other ∈ before, other.Mapped env.memory :=
    fun other mem => mapped other (mem_append_left _ mem)
  have fetchedPhase :
      allAccepted env .client (t.fetched (before ++ raw :: after)).phase before := taken
  refine ⟨t.reads, before.length, raw, owned, read, commandAt_of_split sent, ?_⟩
  have failing {reason : GoError}
      (fails : act env .client (raw.interpret .client) = .fail reason) :
      (readAnd env .client next).outcome t = some (.error reason) := by
    rcases actAll_runs .client front (t.fetched (before ++ raw :: after)) with ⟨middle, _, runs⟩
    apply outcome_of_error
    rw [readAnd_eq _ next sent, actAll_append, bind_assoc,
      bind_ok (runs.of_accepted fetchedPhase).2, actAll, bind_assoc,
      bind_ok (takeUp_run _ middle), fails]
    rfl
  unfold AnswerResult
  unfold isAnswer at answer
  cases interpreted : raw.interpret .client with
  | reply tx =>
    have record : raw.replyRecord = some tx := by
      rw [replyRecord, interpreted]
      rfl
    have all := whole (record ▸ Option.some_ne_none tx)
    rcases actAll_runs .client mapped
      (t.fetched (before ++ raw :: after)) with ⟨middle, events, runs⟩
    have found : replyIn .client (before ++ raw :: after) none = some tx := by
      refine replyIn_of_only rfl record fun index other place isReply => ?_
      have here : env.commandAt t.reads index = some other := by
        rwa [commandAt_of_reads sent]
      exact (once _ _ _ _ _ owned
        (own t.reads index other (Nat.le_refl _) read here isReply)).2.symm
    refine ⟨middle, ?_⟩
    apply outcome_congr
    rw [readAnd_eq _ next sent, bind_ok (runs.of_accepted all).2, found, completes]
  | deadReply | failedReply =>
    refine failing ?_
    rw [interpreted]
    rfl
  | _ =>
    rw [interpreted] at answer
    cases answer

variable {records : List CallRecord}

theorem answered_of_arrives
    (sends : env.Delivers) (answers : Answers env owner records) {reads : Nat} {t : BinderThread}
    (commands : List UInt32) (arrives : Arrives env owner number (reads + 1) t.reads t.phase)
    (own : OwnReplies env owner number t.reads
      ((readAnd env .client (afterRead env .client reads commands)).reached t).reads) :
    Answered env owner number
      ((readAnd env .client (afterRead env .client reads commands)).reached t).reads
      ((readAnd env .client (afterRead env .client reads commands)).outcome t) := by
  have counted := reads_lt_readAnd sends (reads_le_afterRead
    (reads_le_searchReply sends reads) commands) t
  rcases arrives with ⟨raws, sent, ⟨before, raw, after, rfl, owned, taken, whole⟩ | ⟨taken, later⟩⟩
  · exact answered_of_here sends answers.once (fun _ _ => afterRead_some _ _ _ _ _) sent owned
      (answers.answer _ _ _ _ owned (commandAt_of_split sent)) taken whole counted own
  · cases reads with
    | zero => cases later
    | succ reads =>
      have mapped := sends t.reads raws sent
      have absent : ∀ raw ∈ raws, raw.replyRecord = none := by
        intro raw mem
        by_contra isReply
        rcases List.getElem?_of_mem mem with ⟨index, place⟩
        have here : env.commandAt t.reads index = some raw := by
          rwa [commandAt_of_reads sent]
        rcases later.place with ⟨position, behind, owned, beyond⟩
        have same := answers.once _ _ _ _ _ owned
          (own t.reads index raw (Nat.le_refl _) counted here isReply)
        omega
      rcases actAll_runs .client mapped (t.fetched raws) with ⟨middle, events, runs⟩
      rcases runs.of_accepted taken with ⟨phase, ran⟩
      have goesOn :
          readAnd env .client (afterRead env .client (reads + 1) commands) t =
            readAnd env .client (afterRead env .client reads (commands ++ raws.map cmd))
              middle := by
        rw [readAnd_eq _ _ sent, bind_ok ran, replyIn_of_none absent, ← searchReply_succ]
        rfl
      have nextRead : middle.reads = t.reads + 1 := runs.reads
      have nextPhase : middle.phase = t.phase + raws.length := phase
      rw [← nextRead, ← nextPhase] at later
      rw [reached_congr goesOn] at own
      rw [reached_congr goesOn, outcome_congr goesOn]
      refine answered_of_arrives sends answers _ later fun position index raw first => ?_
      exact own position index raw (by omega)

/-! ## Whole calls -/

variable {call : KernelCall}

theorem transactHandleParcel_eq (call : KernelCall) (t : BinderThread) :
    transactHandleParcel env call t = readAnd env .client
      (if call.oneWay then fun _ => pure ([], []) else afterRead env .client 8 [])
      (t.issue (.transaction call.data)) := by
  have issued : (modify fun s => s.issue (.transaction call.data) :
      DriverM Unit) t = .ok () (t.issue (.transaction call.data)) := rfl
  unfold transactHandleParcel transactParcel writeTransaction
  rw [bind_assoc, bind_ok issued]
  cases call.oneWay <;> rfl

/-- A call reads at least once. -/
theorem reads_lt_transactHandleParcel
    (sends : env.Delivers) (call : KernelCall) (t : BinderThread) :
    t.reads < ((transactHandleParcel env call).reached t).reads := by
  rw [reached_congr (transactHandleParcel_eq call t)]
  cases call.oneWay with
  | true =>
    exact reads_lt_readAnd sends (fun _ _ _ => Nat.le_refl _) (t.issue (.transaction call.data))
  | false =>
    exact reads_lt_readAnd sends (reads_le_afterRead (reads_le_searchReply sends 8) [])
      (t.issue (.transaction call.data))

/-! ## Runs -/

variable {calls : List KernelCall} {record : CallRecord}

theorem reads_le_of_mem_runCalls (sends : env.Delivers) (mem : record ∈ runCalls env calls t) :
    t.reads ≤ record.before.reads := by
  induction calls generalizing t with
  | nil => cases mem
  | cons call rest ih =>
    rcases mem_cons.mp mem with rfl | later
    · exact Nat.le_refl _
    · exact Nat.le_of_lt (Nat.lt_of_lt_of_le (reads_lt_transactHandleParcel sends call t)
        (ih later))

theorem synchronous_cons_oneWay (oneWay : record.call.oneWay) (rest : List CallRecord) :
    synchronous (record :: rest) = synchronous rest := by
  simp [synchronous, oneWay]

theorem synchronous_cons_sync (sync : record.call.oneWay = false) (rest : List CallRecord) :
    synchronous (record :: rest) = record :: synchronous rest := by
  simp [synchronous, sync]

variable {index : Nat}

theorem mem_of_synchronous (found : (synchronous records)[index]? = some record) :
    record ∈ records :=
  mem_of_mem_filter (mem_of_getElem? found)

/--
The answers of the driver, seen from the middle of a run: those of the calls
before it have been read, the others come after their calls.
-/
structure AnswersFrom (env : DriverEnv) (owner : Nat → Nat → Option Nat)
    (base : Nat) (calls : List KernelCall) (t : BinderThread) : Prop where
  past : ∀ position index number, owner position index = some number →
    number < base → position < t.reads
  later : ∀ position index number, owner position index = some number →
    number < base ∨ ∃ further record, number = base + further ∧
      (synchronous (runCalls env calls t))[further]? = some record ∧
      record.before.reads ≤ position

variable {rest : List KernelCall} {base : Nat}

/-- Behind a oneway call the view of the answers is the same. -/
theorem AnswersFrom.oneWay
    (sends : env.Delivers) (view : AnswersFrom env owner base (call :: rest) t)
    (oneWay : call.oneWay) :
    AnswersFrom env owner base rest ((transactHandleParcel env call).reached t) where
  past position index number owned before :=
    (view.past position index number owned before).trans
      (reads_lt_transactHandleParcel sends call t)
  later position index number owned := by
    rcases view.later position index number owned with before | ⟨more, record, equal, found, reads⟩
    · exact .inl before
    · rw [runCalls, synchronous_cons_oneWay oneWay] at found
      exact .inr ⟨more, record, equal, found, reads⟩

/-- The replies that a synchronous call reads are its own. -/
theorem AnswersFrom.own
    (sends : env.Delivers) (answers : Answers env owner records)
    (view : AnswersFrom env owner base (call :: rest) t) (sync : call.oneWay = false) :
    OwnReplies env owner base t.reads ((transactHandleParcel env call).reached t).reads := by
  intro position index raw first last command isReply
  rcases Option.ne_none_iff_exists'.mp
    (answers.replies position index raw command isReply) with ⟨number, owned⟩
  rcases view.later position index number owned with before | ⟨more, record, equal, found, reads⟩
  · have := view.past position index number owned before
    omega
  · rw [runCalls, synchronous_cons_sync sync] at found
    cases more with
    | zero =>
      rw [owned, equal]
      rfl
    | succ more =>
      rw [List.getElem?_cons_succ] at found
      have := reads_le_of_mem_runCalls sends (mem_of_synchronous found)
      omega

/-- Behind a synchronous call that was answered, its answer has been read. -/
theorem AnswersFrom.sync
    (sends : env.Delivers) (once : OwnedOnce owner)
    (view : AnswersFrom env owner base (call :: rest) t) (sync : call.oneWay = false)
    (answered : Answered env owner base
      ((transactHandleParcel env call).reached t).reads
      ((transactHandleParcel env call).outcome t)) :
    AnswersFrom env owner (base + 1) rest ((transactHandleParcel env call).reached t) where
  past position index number owned before := by
    rcases Nat.lt_succ_iff_lt_or_eq.mp before with prior | rfl
    · exact (view.past position index number owned prior).trans
        (reads_lt_transactHandleParcel sends call t)
    · rcases answered with ⟨place, behind, raw, own, read, -, -⟩
      rwa [(once _ _ _ _ _ owned own).1]
  later position index number owned := by
    rcases view.later position index number owned with before | ⟨more, record, equal, found, reads⟩
    · exact .inl (Nat.lt_succ_of_lt before)
    · rw [runCalls, synchronous_cons_sync sync] at found
      cases more with
      | zero => exact .inl (by omega)
      | succ more =>
        rw [List.getElem?_cons_succ] at found
        exact .inr ⟨more, record, by omega, found, reads⟩

/-- From a thread that has all answers before it, every call gets its own. -/
theorem paired_from
    (sends : env.Delivers) (answers : Answers env owner records)
    (view : AnswersFrom env owner base calls t)
    (arrive : ∀ further record,
      (synchronous (runCalls env calls t))[further]? = some record →
        Arrives env owner (base + further) 9 record.before.reads record.before.phase) :
    ∀ further record,
      (synchronous (runCalls env calls t))[further]? = some record →
        Paired env owner (base + further) record := by
  induction calls generalizing base t with
  | nil =>
    intro further record found
    cases found
  | cons call rest ih =>
    cases oneWay : call.oneWay with
    | true =>
      rw [runCalls, synchronous_cons_oneWay oneWay] at arrive ⊢
      exact ih (view.oneWay sends oneWay) arrive
    | false =>
      have own := view.own sends answers oneWay
      rw [runCalls, synchronous_cons_sync oneWay] at arrive ⊢
      have answered :
          Answered env owner base ((transactHandleParcel env call).reached t).reads
            ((transactHandleParcel env call).outcome t) := by
        have same : transactHandleParcel env call t = _ := transactHandleParcel_eq call t
        rw [oneWay] at same
        rw [reached_congr same] at own
        rw [reached_congr same, outcome_congr same]
        exact answered_of_arrives sends answers [] (arrive 0 _ rfl) own
      intro further record found
      cases further with
      | zero =>
        cases found
        rcases answered with ⟨position, index, raw, owned, -, command, result⟩
        exact ⟨position, index, raw, owned, command, result⟩
      | succ further =>
        have shifted : base + (further + 1) = base + 1 + further := by
          omega
        rw [shifted]
        refine ih (view.sync sends answers.once oneWay answered) ?_ further record found
        intro later other place
        have arrives := arrive (later + 1) other place
        rwa [show base + (later + 1) = base + 1 + later by omega] at arrives

/--
In a run whose synchronous calls all get their answers in time, every
synchronous call returns what the driver answered to it.
-/
theorem replies_paired
    (env : DriverEnv) (delivers : env.Delivers)
    (owner : Nat → Nat → Option Nat) (calls : List KernelCall) (t : BinderThread)
    (answers : Answers env owner (runCalls env calls t))
    (arrive : ∀ number record,
      (synchronous (runCalls env calls t))[number]? = some record →
        Arrives env owner number 9 record.before.reads record.before.phase) :
    ∀ number record,
      (synchronous (runCalls env calls t))[number]? = some record →
        Paired env owner number record := by
  have view : AnswersFrom env owner 0 calls t := by
    constructor
    · intro position index number _ before
      omega
    · intro position index number owned
      rcases answers.later position index number owned with ⟨record, found, reads⟩
      exact .inr ⟨number, record, by omega, found, reads⟩
  intro number record found
  have paired := paired_from delivers answers view
    (fun further other place => by
      rw [Nat.zero_add]
      exact arrive further other place) number record found
  rwa [Nat.zero_add] at paired

/-! ## Two calls in a row -/

/-- The reply to the first call. -/
def lateReply : BinderTransactionData where
  dataSize := 4
  dataBuffer := 4096

/-- The reply to the second call. -/
def nextReply : BinderTransactionData where
  dataSize := 4
  dataBuffer := 4100

/-- The memory of the two replies. -/
def replyMemory : Mapping where
  base := 4096
  bytes := [1, 2, 3, 4, 5, 6, 7, 8]
  bounded := by decide

theorem lateReply_mapped : (RawCommand.reply lateReply).Mapped replyMemory :=
  reply_mapped (by decide)

theorem nextReply_mapped : (RawCommand.reply nextReply).Mapped replyMemory :=
  reply_mapped (by decide)

/--
A driver that delivers nothing of interest in a number of reads, then the reply
to the first call and then the one to the second.
-/
def delayingDriver (delay : Nat) : DriverEnv where
  memory := replyMemory
  reads := fun position =>
    if position = delay then .ok [.reply lateReply]
    else if position = delay + 1 then .ok [.reply nextReply]
    else .ok [.plain .noop noop_bare]
  writes := fun _ _ => .whole
  handlers := fun _ => .ok none

/-- The calls that the two replies of the driver answer. -/
def delayedOwner (delay position index : Nat) : Option Nat :=
  if position = delay ∧ index = 0 then some 0
  else if position = delay + 1 ∧ index = 0 then some 1
  else none

variable {delay : Nat}

theorem of_delayedOwner (owned : delayedOwner delay position index = some number) :
    (position = delay ∧ index = 0 ∧ number = 0) ∨
      (position = delay + 1 ∧ index = 0 ∧ number = 1) := by
  unfold delayedOwner at owned
  split at owned
  · next here =>
      cases owned
      exact .inl ⟨here.1, here.2, rfl⟩
  · split at owned
    · next here =>
        cases owned
        exact .inr ⟨here.1, here.2, rfl⟩
    · cases owned

theorem delayingDriver_reads (delay position : Nat) :
    (position = delay ∧ (delayingDriver delay).reads position = .ok [.reply lateReply]) ∨
      (position = delay + 1 ∧ (delayingDriver delay).reads position = .ok [.reply nextReply]) ∨
      (delayingDriver delay).reads position = .ok [.plain .noop rfl] := by
  by_cases late : position = delay
  · exact .inl ⟨late, if_pos late⟩
  · by_cases next : position = delay + 1
    · exact .inr (.inl ⟨next, (if_neg late).trans (if_pos next)⟩)
    · exact .inr (.inr ((if_neg late).trans (if_neg next)))

theorem delayingDriver_delivers (delay : Nat) : (delayingDriver delay).Delivers := by
  intro position raws sent
  rcases delayingDriver_reads delay position with ⟨-, late⟩ | ⟨-, next⟩ | noop
  · cases late.symm.trans sent
    exact forall_mem_singleton.mpr lateReply_mapped
  · cases next.symm.trans sent
    exact forall_mem_singleton.mpr nextReply_mapped
  · cases noop.symm.trans sent
    exact forall_mem_singleton.mpr (plain_mapped _ rfl)

theorem delayingDriver_late (delay : Nat) :
    (delayingDriver delay).reads delay = .ok [.reply lateReply] :=
  if_pos rfl

theorem delayingDriver_next (delay : Nat) :
    (delayingDriver delay).reads (delay + 1) = .ok [.reply nextReply] :=
  (if_neg (Nat.succ_ne_self delay)).trans (if_pos rfl)

/-- Two calls in a row. -/
def delayedRun (delay : Nat) : List CallRecord :=
  runCalls (delayingDriver delay) [{}, {}] {}

/-- The owners are right, if the second call starts before its reply is delivered. -/
theorem delayedRun_answers
    {first second : CallRecord} (calls : synchronous (delayedRun delay) = [first, second])
    (started : first.before.reads ≤ delay) (follows : second.before.reads ≤ delay + 1) :
    Answers (delayingDriver delay) (delayedOwner delay) (delayedRun delay) where
  once position index position' index' number owned also := by
    rcases of_delayedOwner owned with ⟨rfl, rfl, rfl⟩ | ⟨rfl, rfl, rfl⟩
    · rcases of_delayedOwner also with ⟨rfl, rfl, -⟩ | ⟨-, -, apart⟩
      · exact ⟨rfl, rfl⟩
      · cases apart
    · rcases of_delayedOwner also with ⟨-, -, apart⟩ | ⟨rfl, rfl, -⟩
      · cases apart
      · exact ⟨rfl, rfl⟩
  later position index number owned := by
    rw [calls]
    rcases of_delayedOwner owned with ⟨rfl, rfl, rfl⟩ | ⟨rfl, rfl, rfl⟩
    · exact ⟨first, rfl, started⟩
    · exact ⟨second, rfl, follows⟩
  answer position index number raw owned found := by
    rcases of_delayedOwner owned with ⟨rfl, rfl, rfl⟩ | ⟨rfl, rfl, rfl⟩
    · rw [commandAt_of_reads (delayingDriver_late _)] at found
      cases found
      rfl
    · rw [commandAt_of_reads (delayingDriver_next _)] at found
      cases found
      rfl
  replies position index raw found isReply := by
    rcases delayingDriver_reads delay position with ⟨rfl, late⟩ | ⟨rfl, next⟩ | noop
    · rw [commandAt_of_reads late] at found
      cases index with
      | zero => simp [delayedOwner]
      | succ index => cases found
    · rw [commandAt_of_reads next] at found
      cases index with
      | zero => simp [delayedOwner]
      | succ index => cases found
    · rw [commandAt_of_reads noop] at found
      cases index with
      | zero =>
        cases found
        exact absurd rfl isReply
      | succ index => cases found

/-- Both calls are answered in time, the first one by its second read. -/
theorem calls_in_row_paired :
    ∃ first second, synchronous (delayedRun 1) = [first, second] ∧
      first.result = some (.ok ([1, 2, 3, 4], [])) ∧
      second.result = some (.ok ([5, 6, 7, 8], [])) ∧
      Paired (delayingDriver 1) (delayedOwner 1) 0 first ∧
      Paired (delayingDriver 1) (delayedOwner 1) 1 second := by
  have paired := replies_paired (delayingDriver 1) (delayingDriver_delivers 1) (delayedOwner 1)
    [{}, {}] {} (delayedRun_answers rfl (by decide) (by decide +kernel)) ?_
  · exact ⟨_, _, rfl, rfl, rfl, paired 0 _ rfl, paired 1 _ rfl⟩
  intro number record found
  match number with
  | 0 =>
    cases found
    exact ⟨_, rfl, .inr ⟨rfl, _, rfl,
      .inl ⟨[], .reply lateReply, [], rfl, rfl, rfl, fun _ => rfl⟩⟩⟩
  | 1 =>
    cases found
    exact ⟨_, rfl, .inl ⟨[], .reply nextReply, [], rfl, rfl, rfl, fun _ => rfl⟩⟩
  | number + 2 => cases found

/-! ## A late reply -/

/-- The state of the thread when the first call has given up. -/
def givenUp : BinderThread :=
  (transactHandleParcel (delayingDriver 9) {}).reached {}

theorem second_call_result :
    (transactHandleParcel (delayingDriver 9) {}).outcome givenUp =
      some (.ok ([1, 2, 3, 4], [])) := by
  rfl

theorem nextReply_result (s : BinderThread) :
    (completeReply (delayingDriver 9)
      (.unmarshalBinary nextReply.marshalBinary)).outcome s = some (.ok ([5, 6, 7, 8], [])) := by
  rfl

/-- The first call gives up after nine reads, and the second one returns its reply. -/
theorem late_reply_mispaired :
    (delayingDriver 9).Delivers ∧
      Answers (delayingDriver 9) (delayedOwner 9) (delayedRun 9) ∧
      ∃ record, (synchronous (delayedRun 9))[1]? = some record ∧
        record.result = some (.ok ([1, 2, 3, 4], [])) ∧
        ¬ Paired (delayingDriver 9) (delayedOwner 9) 1 record := by
  refine ⟨delayingDriver_delivers 9, delayedRun_answers rfl (by decide) (by decide +kernel),
    _, rfl, second_call_result, ?_⟩
  rintro ⟨position, index, raw, owned, found, result⟩
  rcases of_delayedOwner owned with ⟨-, -, differs⟩ | ⟨rfl, rfl, -⟩
  · cases differs
  · cases found
    rcases result with ⟨s, same⟩
    cases (second_call_result.symm.trans same).trans (nextReply_result s)

end Libbinder.Kernel
