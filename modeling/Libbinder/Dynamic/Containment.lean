import Libbinder.Dynamic.Layers

/-!
# Nested values stay inside their frames

A list or a map is only checked against its declared length after everything
in it was read.  Since reads move forward, the check at the end covers every
call nested inside, so by induction over the layers no call of a successful
read ended behind the end declared by a value around it.
-/

namespace Libbinder

open Go Parcel

/-- What a call did, and everything nested in it. -/
structure Contained (p : Parcel) (extent : Extent) (q : Parcel) : Prop where
  moved : Parcel.Moved p 4 q
  starts : extent.start = p.pos
  ends : extent.finish = q.pos
  within : extent.Within q.pos

/-- The calls of a step lie between its two cursors. -/
structure StepContained
    (p : Parcel) (calls : List Extent) (q : Parcel) : Prop where
  moved : Parcel.Moved p 0 q
  behind : ∀ call ∈ calls, p.pos ≤ call.start
  within : ∀ call ∈ calls, call.Within q.pos

namespace StepContained

variable {p q r : Parcel} {first second : List Extent}

theorem append (left : StepContained p first q) (right : StepContained q second r) :
    StepContained p (first ++ second) r := by
  have leftAhead := left.moved.ahead
  have rightAhead := right.moved.ahead
  refine ⟨left.moved.trans right.moved, ?_, ?_⟩
  · intro call mem
    rcases List.mem_append.mp mem with inFirst | inSecond
    · exact left.behind call inFirst
    · have := right.behind call inSecond
      omega
  · intro call mem
    rcases List.mem_append.mp mem with inFirst | inSecond
    · exact (left.within call inFirst).mono (by omega)
    · exact right.within call inSecond

theorem single {extent : Extent} (contained : Contained p extent q) :
    StepContained p [extent] q := by
  refine ⟨contained.moved.weaken (Nat.zero_le _), ?_, ?_⟩
  · intro call mem
    rw [List.mem_singleton] at mem
    rw [mem, contained.starts]
  · intro call mem
    rw [List.mem_singleton] at mem
    rw [mem]
    exact contained.within

theorem chain
    {step : Parcel → List Extent → Parcel → Prop} {count : Nat} {nested : List Extent}
    (steps : ∀ p calls q, p.Bounded → step p calls q → StepContained p calls q)
    (fits : p.Bounded) (looped : Chain step count p nested q) : StepContained p nested q := by
  induction looped with
  | nil => exact ⟨.refl fits, by simp, by simp⟩
  | cons head tail ih =>
    have headContained := steps _ _ _ fits head
    exact headContained.append (ih (headContained.moved.bounded fits))

end StepContained

variable {p q : Parcel}

/-- A payload that passes its final check ends where its length said. -/
theorem finishDynamicLengthPrefix_ok
    {limit : Int} (ended : finishDynamicLengthPrefix limit p = .ok () q) :
    q.pos = limit ∧ p.pos ≤ limit := by
  have found : position p = .ok p.pos p := rfl
  unfold finishDynamicLengthPrefix at ended
  rw [Action.bind_ok found] at ended
  split_ifs at ended with overrun exact
  · cases ended
  · cases ended
    exact ⟨exact, exact.le⟩
  · unfold setPosition at ended
    split_ifs at ended
    cases ended
    exact ⟨rfl, by omega⟩

variable {extent : Extent}

theorem Framed.contained
    {tag : ValueTag} {step : Parcel → List Extent → Parcel → Prop}
    (steps : ∀ p calls q, p.Bounded → step p calls q → StepContained p calls q)
    (fits : p.Bounded) (framed : Framed tag (Chain step) p extent q) : Contained p extent q := by
  cases framed with
  | @mk r s t u _ declared count limit nested tagged sized limited counted
      looped finished =>
    have rMoved := tagged.moved fits
    have rBounded := rMoved.bounded fits
    have sMoved := Parcel.Forward.readInt32 rBounded sized
    have sBounded := sMoved.bounded rBounded
    have tMoved := Parcel.Forward.readInt32 sBounded counted
    have tBounded := tMoved.bounded sBounded
    have loop := StepContained.chain steps tBounded looped
    have uBounded := loop.moved.bounded tBounded
    have qMoved := Parcel.Forward.finishDynamicLengthPrefix limit uBounded finished
    have whole : Parcel.Moved p 4 q :=
      ((((rMoved.trans sMoved).trans tMoved).trans loop.moved).trans qMoved).weaken (by omega)
    rcases finishDynamicLengthPrefix_ok finished with ⟨ended, uInside⟩
    rcases readDynamicLengthPrefix_ok limited with ⟨other, otherSized, nonneg, limitIs⟩
    have same := sized.symm.trans otherSized
    cases same
    have rPos : r.pos = p.pos + 4 := by
      rcases tagged with ⟨code, read, _⟩
      exact pos_readInt32 fits read
    have sPos := pos_readInt32 rBounded sized
    have tPos := pos_readInt32 sBounded counted
    have limitExact : limit = s.pos + declared.toInt := by
      have sInside := sBounded.inside
      have sHeld : s.len ≤ 9223372036854775807 := sBounded.held
      have small := Int32.toInt_lt declared
      have uNonneg := uBounded.nonneg
      have sNonneg := sBounded.nonneg
      unfold wrapInt at limitIs
      omega
    have loopAhead := loop.moved.ahead
    refine ⟨whole, rfl, rfl, .framed nonneg (by omega) le_rfl ?_ ?_⟩
    · intro child mem
      have := loop.behind child mem
      omega
    · intro child mem
      exact (loop.within child mem).mono (by omega)

theorem Layered.contained
    {reading : Parcel → Extent → Parcel → Prop} {B : Type} {resolvers : Resolvers B}
    (nested : ∀ p extent q, p.Bounded → reading p extent q → Contained p extent q)
    (fits : p.Bounded) (layered : Layered reading resolvers p extent q) : Contained p extent q := by
  cases layered with
  | leaf tagged read =>
    have rMoved := tagged.moved fits
    have qMoved := Parcel.Forward.readLeaf resolvers _ (rMoved.bounded fits) read
    have whole : Parcel.Moved p 4 q := rMoved.trans qMoved
    have ahead := whole.ahead
    exact ⟨whole, rfl, rfl, .flat (by omega) le_rfl⟩
  | list framed =>
    refine framed.contained ?_ fits
    rintro a _ b aBounded ⟨read⟩
    exact .single (nested _ _ _ aBounded read)
  | map framed =>
    refine framed.contained ?_ fits
    rintro a _ b aBounded ⟨_, keyRead, valueRead⟩
    have key := nested _ _ _ aBounded keyRead
    have value := nested _ _ _ (key.moved.bounded aBounded) valueRead
    exact (StepContained.single key).append (.single value)

theorem ReadingAt.contained
    {B : Type} {resolvers : Resolvers B} {depth : Nat} (fits : p.Bounded)
    (read : ReadingAt resolvers depth p extent q) : Contained p extent q := by
  induction depth generalizing p extent q with
  | zero => exact read.elim
  | succ depth ih =>
    exact Layered.contained (fun _ _ _ innerBounded => ih innerBounded) fits read

/--
Reading a dynamic value from any buffer terminates: the recursion never
reaches the depth given by the bytes left, and every larger depth gives the
same result.  A successful read moved the cursor forward, and in every tree of
calls it made, each list and map ended its declared length behind its own
start, and no call ended behind the end of a value around it or behind the
buffer.
-/
theorem readDynamicValue_contained
    {B : Type} [DecidableEq B] (resolvers : Resolvers B)
    (quote : GoString → String) (p : Parcel) (bounded : p.Bounded) :
    (∀ (exhausted : Fault BinderError) (depth : Nat), p.depth ≤ depth →
        readValue resolvers quote exhausted depth p = readDynamicValue resolvers quote p) ∧
      (∀ q, Action.Returns (readDynamicValue resolvers quote) p q ↔
        ∃ extent, Reading resolvers p extent q) ∧
      ∀ extent q, Reading resolvers p extent q →
        p.pos < q.pos ∧ q.pos ≤ p.len ∧
          extent.start = p.pos ∧ extent.finish = q.pos ∧
          extent.Within p.len := by
  have describes :
      Describes (Reading resolvers) (Clash resolvers) (readDynamicValue resolvers quote) :=
    Describes.readDynamicValue
  refine ⟨?_, describes.returns p bounded, ?_⟩
  · intro exhausted depth deep
    have covered := p.room_lt_depth
    exact readValue_eq_readDynamicValue bounded exhausted (by omega)
  · intro extent q read
    have contained := ReadingAt.contained bounded read
    have ahead := contained.moved.ahead
    exact ⟨by omega, contained.moved.inside, contained.starts, contained.ends,
        contained.within.mono contained.moved.inside⟩

/-- A list of one integer inside a list, with four bytes left over. -/
def nestedList : Parcel :=
  newWire
    [11, 0, 0, 0, 24, 0, 0, 0, 1, 0, 0, 0,
      11, 0, 0, 0, 12, 0, 0, 0, 1, 0, 0, 0, 1, 0, 0, 0, 7, 0, 0, 0,
      0, 0, 0, 0] []

theorem nestedList_contained :
    ∃ extent, Reading noResolvers nestedList extent
        { nestedList with pos := 32 } ∧
      extent.Within 36 := by
  have bounded : nestedList.Bounded := ⟨by decide, by decide, by decide⟩
  have result := readDynamicValue_contained noResolvers (fun _ => "") nestedList bounded
  have returned :
      Action.Returns (readDynamicValue noResolvers fun _ => "") nestedList
        { nestedList with pos := 32 } :=
    Action.returns_of_reached? (by decide +kernel)
  rcases (result.2.1 _).mp returned with ⟨extent, read⟩
  exact ⟨extent, read, (result.2.2 extent _ read).2.2.2.2⟩

end Libbinder
