import Libbinder.Parcel.Forward
import Libbinder.Dynamic.Value

/-!
# Reading dynamic values

`ReadDynamicValue` calls itself for the elements of lists and the entries of
maps.  Its body is `readLayer`, with the nested calls as a parameter, and
`readValue` unrolls it to a given depth.  Every call consumes at least its
tag, so a depth that covers the rest of the buffer is never exhausted and the
result is the same for every larger depth.

The text of `%q` is a parameter.  The memory of the decoded value and the
stack of the goroutine are not limited in the model.
-/

namespace Libbinder

open Go Action

/-! ## Maps -/

section Map

variable {K V : Type}

/-- The body of the loop of `ReadMap`. -/
def readEntry
    (assign : K → V → List (K × V) → Option (List (K × V)))
    (readKey : ParcelM K) (readValue : ParcelM V)
    (values : List (K × V)) : ParcelM (List (K × V)) := do
  let key ← readKey
  let value ← readValue
  orPanic (assign key value values)

/-- The loop that reads a known number of entries into a map. -/
def readEntries
    (assign : K → V → List (K × V) → Option (List (K × V)))
    (readKey : ParcelM K) (readValue : ParcelM V) :
    Nat → List (K × V) → ParcelM (List (K × V))
  | 0, values => return values
  | count + 1, values => do
    let values ← readEntry assign readKey readValue values
    readEntries assign readKey readValue count values

/--
`ReadMap`; `assign` is the assignment to a map with keys of this type, absent
where it panics.
-/
def readMap
    (assign : K → V → List (K × V) → Option (List (K × V)))
    (readKey : ParcelM K) (readValue : ParcelM V) :
    ParcelM (Option (List (K × V))) := do
  let size ← Parcel.readInt32
  if size < 0 then
    return none
  else
    let values ← readEntries assign readKey readValue size.toInt.toNat []
    return some values

end Map

/-! ## Length prefixes -/

/-- Read a length and return the position it points to. -/
def readDynamicLengthPrefix : ParcelM Int := do
  let size ← Parcel.readInt32
  if size < 0 then
    fail (.badParcelable s!"negative dynamic value length {size.toInt}")
  else
    let start ← Parcel.position
    return wrapInt (start + size.toInt)

/-- Refuse a payload that went past its end, and skip what it left. -/
def finishDynamicLengthPrefix (finish : Int) : ParcelM Unit := do
  let pos ← Parcel.position
  if pos > finish then
    fail (.badParcelable s!"dynamic value length overrun: pos={pos} end={finish}")
  else if pos = finish then
    return ()
  else
    Parcel.setPosition finish

/-- A payload behind a length prefix. -/
def readPrefixed {α : Type} (body : ParcelM α) : ParcelM α := do
  let finish ← readDynamicLengthPrefix
  let value ← body
  finishDynamicLengthPrefix finish
  return value

/-! ## The reader -/

def readStringArray : ParcelM (Option (List GoString)) :=
  readSlice Parcel.readString

def readInt32Array : ParcelM (Option (List Int32)) :=
  readSlice Parcel.readInt32

def readInt64Array : ParcelM (Option (List Int64)) :=
  readSlice Parcel.readInt64

def readInt16Array : ParcelM (Option (List Int16)) :=
  readSlice do
    let value ← Parcel.readInt32
    return value.toInt16

def readUint16Array : ParcelM (Option (List UInt16)) :=
  readSlice do
    let value ← Parcel.readInt32
    return value.toUInt32.toUInt16

def readFloat32Array : ParcelM (Option (List UInt32)) :=
  readSlice Parcel.readFloat32

def readFloat64Array : ParcelM (Option (List UInt64)) :=
  readSlice Parcel.readFloat64

section Reader

variable {B : Type} [DecidableEq B] (resolvers : Resolvers B)
  (quote : GoString → String)

/-- The payload of a tag without nested values. -/
def readLeaf : LeafTag → ParcelM (Leaf B)
  | .null => return .null
  | .string => return .string (← Parcel.readString)
  | .integer => return .integer (← Parcel.readInt32)
  | .short => return .short (← Parcel.readInt32).toInt16
  | .long => return .long (← Parcel.readInt64)
  | .float => return .float (← Parcel.readFloat32)
  | .double => return .double (← Parcel.readFloat64)
  | .boolean => return .boolean (← Parcel.readBool)
  | .byteArray => return .byteArray (← Parcel.readBytes)
  | .stringArray => return .stringArray (← readStringArray)
  | .iBinder => return (← Parcel.readStrongBinder resolvers).elim .null .binder
  | .intArray => return .intArray (← readInt32Array)
  | .longArray => return .longArray (← readInt64Array)
  | .byte => return .byte (← Parcel.readInt32).toInt8
  | .doubleArray => return .doubleArray (← readFloat64Array)
  | .char => return .char (← Parcel.readInt32).toUInt32.toUInt16
  | .shortArray => return .shortArray (← readInt16Array)
  | .charArray => return .charArray (← readUint16Array)
  | .floatArray => return .floatArray (← readFloat32Array)

/-- The payload of a known tag. -/
def readPayload (nested : ParcelM (DynamicValue B)) : ValueTag → ParcelM (DynamicValue B)
  | .leaf tag => return .leaf (← readLeaf resolvers tag)
  | .map => return .map (← readPrefixed (readMap DynamicValue.assign nested nested))
  | .parcelable => do
    let name ← readPrefixed Parcel.readString
    fail (.unsupported ("dynamic parcelable " ++ quote name ++ " requires a typed codec"))
  | .list => return .list (← readPrefixed (readSlice nested))

/-- The body of `ReadDynamicValue`, reading nested values with `nested`. -/
def readLayer (nested : ParcelM (DynamicValue B)) : ParcelM (DynamicValue B) := do
  let code ← Parcel.readInt32
  match ValueTag.ofCode code with
  | some tag => readPayload resolvers quote nested tag
  | none => fail (.unsupported s!"unsupported dynamic value tag {code.toInt}")

/-- The reader with its calls nested to a depth. -/
def readValue (exhausted : Fault BinderError) : Nat → ParcelM (DynamicValue B)
  | 0 => fun p => .error exhausted p
  | depth + 1 => readLayer resolvers quote (readValue exhausted depth)

/-- The bytes between the cursor and the end of the buffer. -/
def Parcel.room (p : Parcel) : Nat :=
  (p.len - p.pos).toNat

/-- A depth that the tags in the rest of the buffer cannot exceed. -/
def Parcel.depth (p : Parcel) : Nat :=
  p.room / 4 + 1

def readDynamicValue : ParcelM (DynamicValue B) :=
  fun p => readValue resolvers quote .panic p.depth p

end Reader

/-! ## Reads move forward -/

namespace Parcel.Forward

variable {B : Type} {K V : Type} {least : Nat}

theorem setPosition
    {p : Parcel} {pos : Int} (ahead : p.pos ≤ pos) {q : Parcel}
    (ran : Parcel.setPosition pos p = .ok () q) : Moved p 0 q := by
  unfold Parcel.setPosition at ran
  split_ifs at ran with out
  cases ran
  exact ⟨rfl, by simpa using ahead, by change pos ≤ p.len; omega⟩

theorem readDynamicLengthPrefix : Forward 4 Libbinder.readDynamicLengthPrefix := by
  apply readInt32.andThen
  intro size
  split_ifs
  · exact fail _
  · exact position.andThen fun _ => pure _

theorem finishDynamicLengthPrefix (finish : Int) :
    Forward 0 (Libbinder.finishDynamicLengthPrefix finish) := by
  intro p fits value q ran
  have found : Parcel.position p = .ok p.pos p := rfl
  unfold Libbinder.finishDynamicLengthPrefix at ran
  rw [bind_ok found] at ran
  split_ifs at ran with overrun exact
  · cases ran
  · cases ran
    exact .refl fits
  · exact setPosition (by omega) ran

theorem readPrefixed {α : Type} {body : ParcelM α} (forward : Forward 0 body) :
    Forward 4 (Libbinder.readPrefixed body) :=
  readDynamicLengthPrefix.andThen fun finish =>
    forward.andThen fun _ =>
      (finishDynamicLengthPrefix finish).andThen fun _ => pure _

variable {assign : K → V → List (K × V) → Option (List (K × V))} {readKey : ParcelM K}

section

variable (keyForward : Forward 0 readKey)

include keyForward

variable {readValue : ParcelM V}

theorem readEntry
    (valueForward : Forward 0 readValue)
    (values : List (K × V)) : Forward 0 (Libbinder.readEntry assign readKey readValue values) :=
  keyForward.andThen fun _ => valueForward.andThen fun _ => orPanic _

theorem readEntries (valueForward : Forward 0 readValue) (count : Nat) (values : List (K × V)) :
    Forward 0 (Libbinder.readEntries assign readKey readValue count values) := by
  induction count generalizing values with
  | zero => exact pure _
  | succ count ih =>
    exact (readEntry keyForward valueForward values).andThen ih

theorem readMap (valueForward : Forward 0 readValue) :
    Forward 4 (Libbinder.readMap assign readKey readValue) := by
  apply readInt32.andThen
  intro size
  split_ifs
  · exact pure _
  · exact (readEntries keyForward valueForward _ _).andThen fun _ => pure _

end

/-- A read whose result is only repackaged. -/
theorem repackage {α β : Type} {op : ParcelM α} {compute : α → β} (forward : Forward least op) :
    Forward 0 (do
      let value ← op
      return compute value) :=
  (forward.andThen fun _ => pure _).weaken (Nat.zero_le _)

theorem readLeaf (resolvers : Resolvers B) (tag : LeafTag) :
    Forward 0 (Libbinder.readLeaf resolvers tag) := by
  cases tag with
  | null => exact pure _
  | string => exact readString.repackage
  | integer | short | byte | char => exact readInt32.repackage
  | long => exact readInt64.repackage
  | float => exact readFloat32.repackage
  | double => exact readFloat64.repackage
  | boolean => exact readBool.repackage
  | byteArray => exact readBytes.repackage
  | stringArray => exact (readSlice readString).repackage
  | iBinder => exact (readStrongBinder resolvers).repackage
  | intArray => exact (readSlice readInt32).repackage
  | longArray => exact (readSlice readInt64).repackage
  | doubleArray => exact (readSlice readFloat64).repackage
  | shortArray | charArray => exact (readSlice (readInt32.andThen fun _ => pure _)).repackage
  | floatArray => exact (readSlice readFloat32).repackage

variable [DecidableEq B] {resolvers : Resolvers B} {quote : GoString → String}
  {nested : ParcelM (DynamicValue B)}

theorem readPayload (forward : Forward 0 nested) (tag : ValueTag) :
    Forward 0 (Libbinder.readPayload resolvers quote nested tag) := by
  cases tag with
  | leaf tag => exact (readLeaf resolvers tag).repackage
  | map => exact (readPrefixed ((readMap forward forward).weaken (Nat.zero_le _))).repackage
  | parcelable =>
    exact ((readPrefixed
        (readString.weaken (Nat.zero_le _))).weaken (Nat.zero_le _)).andThen fun _ => fail _
  | list => exact (readPrefixed ((readSlice forward).weaken (Nat.zero_le _))).repackage

/-- Every call consumes at least its tag. -/
theorem readLayer (forward : Forward 0 nested) :
    Forward 4 (Libbinder.readLayer resolvers quote nested) := by
  apply readInt32.andThen
  intro code
  cases ValueTag.ofCode code with
  | none => exact fail _
  | some tag => exact readPayload forward tag

theorem readValue (spent : Fault BinderError) (depth : Nat) :
    Forward 4 (Libbinder.readValue resolvers quote spent depth) := by
  induction depth with
  | zero => exact stop spent
  | succ depth ih => exact readLayer (ih.weaken (Nat.zero_le _))

theorem readDynamicValue : Forward 4 (Libbinder.readDynamicValue resolvers quote) :=
  fun _ fits _ _ ran => readValue _ _ fits ran

end Parcel.Forward

/-! ## The depth is enough -/

namespace Parcel

/-- The two reads agree wherever fewer than `budget` bytes are left. -/
def Agree {α : Type} (budget : Nat) (first second : ParcelM α) : Prop :=
  ∀ ⦃p : Parcel⦄, p.Bounded → p.room < budget → first p = second p

namespace Agree

variable {α β : Type} {budget smaller least : Nat}

theorem refl (op : ParcelM α) : Agree budget op op :=
  fun _ _ _ => rfl

variable {firstNext secondNext : α → ParcelM β}

theorem bind
    {first second : ParcelM α} (agree : Agree budget first second) (forward : Forward least first)
    (agreeNext : ∀ value, Agree (budget - least) (firstNext value) (secondNext value)) :
    Agree budget (first >>= firstNext) (second >>= secondNext) := by
  intro p fits inside
  have same := agree fits inside
  cases ran : first p with
  | error fault q => rw [bind_error ran, bind_error (same.symm.trans ran)]
  | ok value q =>
    have moved := forward fits ran
    have ahead := moved.ahead
    have within := moved.inside
    rw [bind_ok ran, bind_ok (same.symm.trans ran)]
    apply agreeNext value (moved.bounded fits)
    unfold room at inside ⊢
    rw [moved.len_eq]
    omega

/-- The same read before two that agree. -/
theorem after
    {op : ParcelM α} (forward : Forward least op)
    (agreeNext : ∀ value, Agree (budget - least) (firstNext value) (secondNext value)) :
    Agree budget (op >>= firstNext) (op >>= secondNext) :=
  (refl op).bind forward agreeNext

section Parts

variable {first second : ParcelM α} (agree : Agree budget first second)
  (forward : Forward 0 first)

include agree forward

/-- Two reads that agree before the same continuation. -/
theorem before {next : α → ParcelM β} : Agree budget (first >>= next) (second >>= next) :=
  agree.bind forward fun _ => refl _

theorem readElems (count : Nat) :
    Agree budget (readElems first count) (readElems second count) := by
  induction count with
  | zero => exact refl _
  | succ count ih =>
    exact agree.bind forward fun _ =>
      ih.before ((forward.readElems count).weaken (Nat.zero_le _))

theorem readSlice : Agree budget (readSlice first) (readSlice second) := by
  apply after (Forward.readInt32.weaken (Nat.zero_le _))
  intro size
  split_ifs
  · exact refl _
  · exact (agree.readElems forward _).before ((forward.readElems _).weaken (Nat.zero_le _))

variable {assign : α → α → List (α × α) → Option (List (α × α))}

theorem readEntries (count : Nat) (values : List (α × α)) :
    Agree budget
      (readEntries assign first first count values)
      (readEntries assign second second count values) := by
  induction count generalizing values with
  | zero => exact refl _
  | succ count ih =>
    have entry :
        Agree budget (readEntry assign first first values)
          (readEntry assign second second values) :=
      agree.bind forward fun _ => agree.before forward
    exact entry.bind (Forward.readEntry forward forward values) ih

theorem readMap : Agree budget (readMap assign first first) (readMap assign second second) := by
  apply after (Forward.readInt32.weaken (Nat.zero_le _))
  intro size
  split_ifs
  · exact refl _
  · exact (agree.readEntries forward _ _).before (Forward.readEntries forward forward _ _)

theorem readPrefixed : Agree budget (readPrefixed first) (readPrefixed second) :=
  after (Forward.readDynamicLengthPrefix.weaken (Nat.zero_le _)) fun _ =>
    agree.before forward

end Parts

variable {B : Type} [DecidableEq B] {resolvers : Resolvers B}
  {quote : GoString → String}
  {first second : ParcelM (DynamicValue B)} (agree : Agree budget first second)
  (forward : Forward 0 first)

include agree forward

theorem readPayload (tag : ValueTag) :
    Agree budget (readPayload resolvers quote first tag)
      (readPayload resolvers quote second tag) := by
  cases tag with
  | leaf | parcelable => exact refl _
  | map =>
    have mapForward : Forward 0 (Libbinder.readMap DynamicValue.assign first first) :=
      (Forward.readMap forward forward).weaken (Nat.zero_le _)
    exact ((agree.readMap forward).readPrefixed mapForward).before
      ((Forward.readPrefixed mapForward).weaken (Nat.zero_le _))
  | list =>
    have listForward : Forward 0 (Libbinder.readSlice first) :=
      (Forward.readSlice forward).weaken (Nat.zero_le _)
    exact ((agree.readSlice forward).readPrefixed listForward).before
      ((Forward.readPrefixed listForward).weaken (Nat.zero_le _))

/-- Behind its tag, a value has four bytes less to read nested values from. -/
theorem readLayer :
    Agree (budget + 4) (readLayer resolvers quote first) (readLayer resolvers quote second) := by
  apply after .readInt32
  intro code
  rw [Nat.add_sub_cancel]
  cases ValueTag.ofCode code with
  | none => exact refl _
  | some tag => exact agree.readPayload forward tag

omit agree forward in
/-- Where fewer than four bytes per level are left, more depth changes nothing. -/
theorem readValue (spent other : Fault BinderError) {depth deeper : Nat} (le : depth ≤ deeper) :
    Agree (4 * depth) (readValue resolvers quote spent depth)
      (readValue resolvers quote other deeper) := by
  induction depth generalizing deeper with
  | zero =>
    intro p _ impossible
    omega
  | succ depth ih =>
    obtain ⟨rest, rfl⟩ : ∃ rest, deeper = rest + 1 := ⟨deeper - 1, by omega⟩
    exact readLayer (ih (by omega)) ((Forward.readValue spent depth).weaken (Nat.zero_le _))

end Agree

theorem room_lt_depth (p : Parcel) : p.room < 4 * p.depth := by
  unfold depth
  omega

end Parcel

section Stability

variable {B : Type} [DecidableEq B] {resolvers : Resolvers B}
  {quote : GoString → String}

/-- Every depth that covers the rest of the buffer reads the same. -/
theorem readValue_eq_readDynamicValue
    {p : Parcel} (fits : p.Bounded) (spent : Fault BinderError)
    {depth : Nat} (enough : p.room < 4 * depth) :
    readValue resolvers quote spent depth p = readDynamicValue resolvers quote p := by
  rcases le_total depth p.depth with shallow | deep
  · exact Parcel.Agree.readValue spent .panic shallow fits enough
  · exact (Parcel.Agree.readValue .panic spent deep fits p.room_lt_depth).symm

/-- The recursion equation of `ReadDynamicValue`. -/
theorem readDynamicValue_eq {p : Parcel} (fits : p.Bounded) :
    readDynamicValue resolvers quote p =
      readLayer resolvers quote (readDynamicValue resolvers quote) p := by
  have covered := p.room_lt_depth
  have deeper : p.room < 4 * (p.depth + 1) := by
    omega
  have unrolled :
      readDynamicValue resolvers quote p =
        readLayer resolvers quote (readValue resolvers quote .panic p.depth) p :=
    (readValue_eq_readDynamicValue fits .panic deeper).symm
  have agree :
      Parcel.Agree p.room (readValue resolvers quote .panic p.depth)
        (readDynamicValue resolvers quote) := by
    intro q qFits inside
    exact readValue_eq_readDynamicValue qFits .panic (by omega)
  rw [unrolled]
  exact agree.readLayer ((Parcel.Forward.readValue _ _).weaken (Nat.zero_le _)) fits (by omega)

end Stability

/-- A parcel without resolvers. -/
def noResolvers : Resolvers Unit :=
  ⟨none, none, none, none⟩

end Libbinder
