import Libbinder.Kernel.Transact
import Libbinder.Status.Capture

/-!
# Return commands of the driver

A read fills the buffer of a thread with return commands.  Each one is a code
and a payload whose size is part of the code.  Three loops of the package read
such a buffer: the loop of a client thread, the one of the direct driver path
and the one of a looper.  They differ in the codes their switch has a case for;
a code without a case is an error, and the rest of the buffer is lost.
-/

namespace Libbinder.Kernel

open Go List Parcel

/-- An error that is nothing but a text. -/
def textError (text : String) : GoError :=
  .leaf (.text (goText text))

/-! ## Transaction data -/

def tfOneWay : UInt32 :=
  0x01

def tfStatus : UInt32 :=
  0x08

def tfAcceptFD : UInt32 :=
  0x10

def tfClearBuf : UInt32 :=
  0x20

def binderTransactionDataSize : Nat :=
  64

/-- The driver's record of a transaction or a reply. -/
structure BinderTransactionData where
  target : UInt64 := 0
  cookie : UInt64 := 0
  code : UInt32 := 0
  flags : UInt32 := 0
  senderPID : Int32 := 0
  senderEUID : UInt32 := 0
  dataSize : UInt64 := 0
  offsetsSize : UInt64 := 0
  dataBuffer : UInt64 := 0
  dataOffsets : UInt64 := 0
deriving DecidableEq, Repr

namespace BinderTransactionData

def marshalBinary (tx : BinderTransactionData) : List UInt8 :=
  leBytes 8 tx.target.toNat ++ leBytes 8 tx.cookie.toNat ++
    leBytes 4 tx.code.toNat ++ leBytes 4 tx.flags.toNat ++
    leBytes 4 tx.senderPID.toUInt32.toNat ++
    leBytes 4 tx.senderEUID.toNat ++
    leBytes 8 tx.dataSize.toNat ++ leBytes 8 tx.offsetsSize.toNat ++
    leBytes 8 tx.dataBuffer.toNat ++ leBytes 8 tx.dataOffsets.toNat

/-- The record in the first 64 bytes, which the caller has checked. -/
def unmarshalBinary (data : List UInt8) : BinderTransactionData where
  target := .ofNat (littleEndianAt 8 data 0)
  cookie := .ofNat (littleEndianAt 8 data 8)
  code := .ofNat (littleEndianAt 4 data 16)
  flags := .ofNat (littleEndianAt 4 data 20)
  senderPID := (UInt32.ofNat (littleEndianAt 4 data 24)).toInt32
  senderEUID := .ofNat (littleEndianAt 4 data 28)
  dataSize := .ofNat (littleEndianAt 8 data 32)
  offsetsSize := .ofNat (littleEndianAt 8 data 40)
  dataBuffer := .ofNat (littleEndianAt 8 data 48)
  dataOffsets := .ofNat (littleEndianAt 8 data 56)

/-- `tx.Flags&flag != 0`. -/
def has (tx : BinderTransactionData) (flag : UInt32) : Bool :=
  tx.flags &&& flag ≠ 0

/-- The transaction wants no reply. -/
abbrev oneWay (tx : BinderTransactionData) : Bool :=
  tx.has tfOneWay

/-- The kernel buffer that comes with the record, if there is one. -/
def buffer (tx : BinderTransactionData) : Option UInt64 :=
  if tx.dataBuffer = 0 then none else some tx.dataBuffer

theorem length_marshalBinary (tx : BinderTransactionData) :
    tx.marshalBinary.length = binderTransactionDataSize := by
  simp [marshalBinary, binderTransactionDataSize]

end BinderTransactionData

/-! ## Codes -/

/-- `_IOC`: direction, type, number and payload size of a command. -/
def ioc (direction typ number size : UInt32) : UInt32 :=
  direction <<< 30 ||| typ <<< 8 ||| number ||| size <<< 16

/-- The payload size that is part of a command code. -/
def iocSize (cmd : UInt32) : Nat :=
  ((cmd >>> 16) &&& 0x3fff).toNat

/-- The return commands that have a name in the package. -/
inductive ReturnCode where
  | error
  | transaction
  | reply
  | deadReply
  | transactionComplete
  | incRefs
  | acquire
  | release
  | decRefs
  | noop
  | spawnLooper
  | finished
  | deadBinder
  | clearDeathNotificationDone
  | failedReply
deriving DecidableEq, Repr

namespace ReturnCode

/-- A code of the return protocol, of type `'r'`. -/
def br (number size : UInt32) : UInt32 :=
  ioc (if size = 0 then 0 else 2) 0x72 number size

/-- The `BR` constant of the code. -/
def cmd : ReturnCode → UInt32
  | .error => br 0 4
  | .transaction => br 2 64
  | .reply => br 3 64
  | .deadReply => br 5 0
  | .transactionComplete => br 6 0
  | .incRefs => br 7 16
  | .acquire => br 8 16
  | .release => br 9 16
  | .decRefs => br 10 16
  | .noop => br 12 0
  | .spawnLooper => br 13 0
  | .finished => br 14 0
  | .deadBinder => br 15 8
  | .clearDeathNotificationDone => br 16 8
  | .failedReply => br 17 0

def all : List ReturnCode :=
  [.error, .transaction, .reply, .deadReply, .transactionComplete, .incRefs,
    .acquire, .release, .decRefs, .noop, .spawnLooper, .finished, .deadBinder,
    .clearDeathNotificationDone, .failedReply]

/-- The case of a switch over the codes. -/
def ofCmd (cmd : UInt32) : Option ReturnCode :=
  all.find? fun code => code.cmd = cmd

/-- The payload length that the loops check before they read. -/
def payloadSize : ReturnCode → Nat
  | .error => 4
  | .transaction | .reply => binderTransactionDataSize
  | .incRefs | .acquire | .release | .decRefs => 16
  | .deadBinder | .clearDeathNotificationDone => 8
  | _ => 0

/-- The text for a payload that is too short. -/
def shortPayload (code : ReturnCode) (available : Nat) : String :=
  match code with
  | .error => "kernel: short BR_ERROR payload"
  | .reply =>
    s!"kernel: short BR_REPLY payload: have {available} want " ++ toString binderTransactionDataSize
  | .transaction =>
    s!"kernel: short BR_TRANSACTION payload: have {available} want " ++
      toString binderTransactionDataSize
  | .deadBinder | .clearDeathNotificationDone =>
    "kernel: short cookie payload for " ++ hexText code.cmd.toNat
  | _ => "kernel: short ptr/cookie payload for " ++ hexText code.cmd.toNat

theorem iocSize_cmd (code : ReturnCode) : iocSize code.cmd = code.payloadSize := by
  cases code <;> decide

theorem cmd_of_ofCmd {cmd : UInt32} {code : ReturnCode} (known : ofCmd cmd = some code) :
    code.cmd = cmd := by
  have found := List.find?_some known
  simpa using found

/-- The entry of `commandNames` for a code. -/
def name : ReturnCode → Option String
  | .noop => some "BR_NOOP"
  | .transactionComplete => some "BR_TRANSACTION_COMPLETE"
  | .incRefs => some "BR_INCREFS"
  | .acquire => some "BR_ACQUIRE"
  | .release => some "BR_RELEASE"
  | .decRefs => some "BR_DECREFS"
  | .spawnLooper => some "BR_SPAWN_LOOPER"
  | .finished => some "BR_FINISHED"
  | .deadBinder => some "BR_DEAD_BINDER"
  | .clearDeathNotificationDone => some "BR_CLEAR_DEATH_NOTIFICATION_DONE"
  | .reply => some "BR_REPLY"
  | .error => some "BR_ERROR"
  | .deadReply => some "BR_DEAD_REPLY"
  | .failedReply => some "BR_FAILED_REPLY"
  | .transaction => none

end ReturnCode

open ReturnCode

def commandNames (commands : List UInt32) : List String :=
  commands.map fun cmd =>
    ((ofCmd cmd).bind name).getD (hexText cmd.toNat)

/-! ## Commands as the loops see them -/

/-- A return command with its payload read. -/
inductive ReturnCommand where
  /-- The commands that every loop passes over. -/
  | passive
  | error (code : Int32)
  | incRefs (ptr cookie : UInt64)
  | acquire (ptr cookie : UInt64)
  | release (ptr cookie : UInt64)
  | decRefs (ptr cookie : UInt64)
  | deadBinder (cookie : UInt64)
  | clearDeathNotificationDone (cookie : UInt64)
  | reply (tx : BinderTransactionData)
  | transaction (tx : BinderTransactionData)
  | deadReply
  | failedReply
  /-- A code that the switch of the loop has no case for. -/
  | unsupported (cmd : UInt32)
deriving DecidableEq, Repr

/-- Read the payload of a code. -/
def ReturnCode.read (code : ReturnCode) (payload : List UInt8) : ReturnCommand :=
  let first := .ofNat (littleEndianAt 8 payload 0)
  let second := .ofNat (littleEndianAt 8 payload 8)
  match code with
  | .error => .error (UInt32.ofNat (littleEndianAt 4 payload 0)).toInt32
  | .transaction => .transaction (.unmarshalBinary payload)
  | .reply => .reply (.unmarshalBinary payload)
  | .deadReply => .deadReply
  | .failedReply => .failedReply
  | .incRefs => .incRefs first second
  | .acquire => .acquire first second
  | .release => .release first second
  | .decRefs => .decRefs first second
  | .deadBinder => .deadBinder first
  | .clearDeathNotificationDone => .clearDeathNotificationDone first
  | .transactionComplete | .noop | .spawnLooper | .finished => .passive

/-- The three loops over a read buffer. -/
inductive ResponseLoop where
  /-- `Backend.handleDriverResponses` -/
  | client
  /-- `DriverManager.parseDriverResponses` -/
  | driver
  /-- `LooperWorker.handleCommands` -/
  | looper
deriving DecidableEq, Repr

namespace ResponseLoop

/-- Whether the switch of the loop has a case for the code. -/
def switch : ResponseLoop → ReturnCode → Bool
  | .client, _ => true
  | .driver, .transaction => false
  | .driver, _ => true
  | .looper, .error => false
  | .looper, .reply => false
  | .looper, .deadReply => false
  | .looper, .failedReply => false
  | .looper, _ => true

def shortTail : ResponseLoop → Nat → String
  | .looper, length => s!"kernel: short looper command buffer tail: {length}"
  | _, length => s!"kernel: short command buffer tail: {length}"

def unsupported : ResponseLoop → UInt32 → String
  | .looper, cmd => "kernel: unsupported looper command " ++ hexText cmd.toNat
  | _, cmd => "kernel: unsupported binder response command " ++ hexText cmd.toNat

end ResponseLoop

/--
The head of a loop's body: the next command of the buffer and the bytes behind
it.  Nothing is read behind a code without a case, which ends the loop.
-/
def readCommand (loop : ResponseLoop) (buf : List UInt8) :
    Except GoError (UInt32 × ReturnCommand × List UInt8) :=
  if buf.length < 4 then
    .error (textError (loop.shortTail buf.length))
  else
    let cmd := .ofNat (littleEndianAt 4 buf 0)
    let rest := buf.drop 4
    match ofCmd cmd with
    | none => .ok (cmd, .unsupported cmd, rest)
    | some code =>
      if loop.switch code then
        if rest.length < code.payloadSize then
          .error (textError (code.shortPayload rest.length))
        else
          .ok (cmd, code.read (rest.take code.payloadSize), rest.drop code.payloadSize)
      else
        .ok (cmd, .unsupported cmd, rest)

/-! ## Well-formed commands -/

/-- A command as the driver writes it: the payload has the size of its code. -/
structure RawCommand where
  cmd : UInt32
  payload : List UInt8
  sized : payload.length = iocSize cmd
deriving DecidableEq, Repr

namespace RawCommand

def bytes (raw : RawCommand) : List UInt8 :=
  leBytes 4 raw.cmd.toNat ++ raw.payload

/-- The contents of a read buffer. -/
def stream (commands : List RawCommand) : List UInt8 :=
  commands.flatMap bytes

/-- What a loop makes of the command. -/
def interpret (loop : ResponseLoop) (raw : RawCommand) : ReturnCommand :=
  match ofCmd raw.cmd with
  | none => .unsupported raw.cmd
  | some code =>
    if loop.switch code then code.read raw.payload
    else .unsupported raw.cmd

/-- The bytes that a loop finds behind the command. -/
def behind (loop : ResponseLoop) (raw : RawCommand) (rest : List UInt8) : List UInt8 :=
  match ofCmd raw.cmd with
  | none => raw.payload ++ rest
  | some code => if loop.switch code then rest else raw.payload ++ rest

/-- A command without a payload. -/
def plain (code : ReturnCode) (bare : code.payloadSize = 0) : RawCommand where
  cmd := code.cmd
  payload := []
  sized := by rw [code.iocSize_cmd, bare]; rfl

theorem noop_bare : ReturnCode.noop.payloadSize = 0 := rfl

def reply (tx : BinderTransactionData) : RawCommand where
  cmd := ReturnCode.reply.cmd
  payload := tx.marshalBinary
  sized := by
    rw [tx.length_marshalBinary, iocSize_cmd]
    rfl

def transaction (tx : BinderTransactionData) : RawCommand where
  cmd := ReturnCode.transaction.cmd
  payload := tx.marshalBinary
  sized := by
    rw [tx.length_marshalBinary, iocSize_cmd]
    rfl

variable (raw : RawCommand)

theorem four_le_length_bytes : 4 ≤ raw.bytes.length := by
  simp [bytes]

theorem littleEndianAt_bytes (rest : List UInt8) :
    .ofNat (littleEndianAt 4 (raw.bytes ++ rest) 0) = raw.cmd := by
  have head : ((raw.bytes ++ rest).drop 0).take 4 = leBytes 4 raw.cmd.toNat := by
    rw [drop_zero, bytes, append_assoc]
    exact take_left' (length_leBytes 4 _)
  have small : raw.cmd.toNat < 256 ^ 4 := raw.cmd.toNat_lt
  rw [littleEndianAt, head, leNat_leBytes_of_lt small]
  exact UInt32.ofNat_toNat

theorem drop_bytes (rest : List UInt8) : (raw.bytes ++ rest).drop 4 = raw.payload ++ rest := by
  rw [bytes, append_assoc]
  exact drop_left' (length_leBytes 4 _)

theorem length_payload {raw : RawCommand} {code : ReturnCode} (known : ofCmd raw.cmd = some code) :
    raw.payload.length = code.payloadSize := by
  rw [raw.sized, ← cmd_of_ofCmd known, iocSize_cmd]

/-- A loop reads a well-formed command as what it makes of it. -/
theorem readCommand_bytes (loop : ResponseLoop) (raw : RawCommand) (rest : List UInt8) :
    readCommand loop (raw.bytes ++ rest) =
      .ok (raw.cmd, raw.interpret loop, raw.behind loop rest) := by
  have long : ¬ (raw.bytes ++ rest).length < 4 := by
    have := raw.four_le_length_bytes
    rw [length_append]
    omega
  unfold readCommand interpret behind
  rw [if_neg long]
  simp only [littleEndianAt_bytes, drop_bytes]
  cases known : ofCmd raw.cmd with
  | none => rfl
  | some code =>
    have width := length_payload known
    have enough : ¬ (raw.payload ++ rest).length < code.payloadSize := by
      rw [length_append, width]
      omega
    simp only
    by_cases done : loop.switch code
    · simp only [done, if_true]
      rw [if_neg enough, take_left' width, drop_left' width]
    · simp only [done, if_false, Bool.false_eq_true]

theorem stream_cons (rest : List RawCommand) : stream (raw :: rest) = raw.bytes ++ stream rest :=
  flatMap_cons

theorem length_le_stream (commands : List RawCommand) :
    commands.length ≤ (stream commands).length := by
  induction commands with
  | nil => exact Nat.zero_le _
  | cons raw rest ih =>
    have := raw.four_le_length_bytes
    rw [stream_cons, length_append, length_cons]
    omega

end RawCommand

end Libbinder.Kernel
