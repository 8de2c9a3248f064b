import Libbinder.Parcel.Slices

/-!
# Back-patched sizes

Some writers leave room for a size, write a body of unknown length, and then
move the cursor back to fill the size in.  At the end of a parcel that is the
same as writing the size first: `Writes.sized` gives the image of such a
writer from the image of its body.
-/

namespace Libbinder

open Go Action Image

namespace Parcel

/-- Overwriting a word inside the buffer. -/
theorem writeInt32_middle
    {p : Parcel} {before after : List UInt8} {old : Int32}
    (layout : p.buf = before ++ (Image.int32 old).bytes ++ after)
    (cursor : p.pos = before.length) (held : p.len ≤ maxInt) (value : Int32) :
    writeInt32 value p =
      .ok () { p with
        buf := before ++ (Image.int32 value).bytes ++ after
        pos := p.pos + 4 } := by
  have oldSize : (Image.int32 old).bytes.length = 4 := size_int32 old
  have total : p.len = before.length + 4 + after.length := by
    simp only [len, layout, List.length_append, oldSize]
    push_cast
    ring
  have start : p.pos.toNat = before.length := by
    omega
  have written :
      writeBlock (leBytes 4 value.toUInt32.toNat).length
          (fun dst => putLE 4 dst 0 value.toUInt32.toNat) p = _ :=
    writeBlock_inside ⟨by omega, by omega, held⟩
      (by rw [length_leBytes]; unfold paddedLength; omega) (putLE_whole (by simp) _)
  rw [length_leBytes] at written
  rw [writeInt32, writeUint, written, start, layout]
  simp [paddedLength, oldSize]
  rfl

end Parcel

open Parcel

/--
Leave room for a size, write a body, and fill the size in.  `origin` selects
where the size is counted from: the size word itself or the byte behind it.
-/
def writeSized (origin : Int → Int → Int) (body : ParcelM Unit) : ParcelM Unit := do
  let start ← position
  writeInt32 0
  let bodyStart ← position
  body
  let finish ← position
  setPosition start
  writeInt32 (.ofInt (wrapInt (finish - origin start bodyStart)))
  setPosition finish

/-- The body behind a word with its size. -/
def Image.sized (extra : Nat) (image : Image) : Image :=
  Image.int32 (.ofInt (image.size + extra)) ++ image

namespace Writes

open Parcel

/-- A back-patched size is written in front of the body. -/
theorem sized
    {origin : Int → Int → Int} {extra : Nat} {body : ParcelM Unit} {image : Image}
    (from_origin : ∀ start, origin start (start + 4) + extra = start + 4) (small : extra ≤ 4)
    (writes : Writes body image) : Writes (writeSized origin body) (.sized extra image) where
  pushes := by
    intro p opened fits
    simp only [Image.sized, size_append, size_int32, Nat.cast_add] at fits
    have atEnd := opened.atEnd
    have upper : p.len + (4 + image.size) ≤ 9223372036854775807 := fits
    have nonneg := p.len_nonneg
    have wordFits : p.len + (Image.int32 0).size ≤ maxInt := by
      rw [size_int32]
      omega
    have wordWritten := (Writes.int32 0).pushes p opened wordFits
    have wordOpen := opened.push wordFits
    have bodyFits : (p.push (.int32 0)).len + image.size ≤ maxInt := by
      rw [len_push, size_int32]
      omega
    have bodyWritten := writes.pushes _ wordOpen bodyFits
    generalize written : (p.push (.int32 0)).push image = q at bodyWritten
    have qPos : q.pos = p.pos + 4 + image.size := by
      rw [← written]
      rfl
    have qLen : q.len = p.len + 4 + image.size := by
      rw [← written, len_push, len_push, size_int32]
      rfl
    have size : wrapInt (q.pos - origin p.pos (p.push (.int32 0)).pos) = image.size + extra := by
      have counted := from_origin p.pos
      have wordPos : (p.push (.int32 0)).pos = p.pos + 4 := rfl
      rw [wordPos, qPos, wrapInt_eq]
      omega
    have rewound : setPosition p.pos q = .ok () { q with pos := p.pos } := by
      unfold setPosition
      rw [if_neg (by omega)]
    have layout :
        ({ q with pos := p.pos } : Parcel).buf = p.buf ++ (Image.int32 0).bytes ++ image.bytes := by
      rw [← written]
      rfl
    have patched :=
      writeInt32_middle layout (by simp [atEnd, len])
        (by change q.len ≤ maxInt; unfold maxInt; omega)
        (.ofInt (image.size + extra))
    have result :
        p.push (.sized extra image) =
          { q with
            buf := p.buf ++ (Image.int32 (.ofInt (image.size + extra))).bytes ++ image.bytes } := by
      have sameLen (word : Int32) : (p.push (.int32 word)).len = (p.push (.int32 0)).len := by
        rw [len_push, len_push, size_int32, size_int32]
      rw [Image.sized, push_append, ← written, push, sameLen]
      rfl
    unfold writeSized
    have found (parcel : Parcel) : position parcel = .ok parcel.pos parcel := rfl
    rw [bind_ok (found p), bind_ok wordWritten, bind_ok (found _), bind_ok bodyWritten,
      bind_ok (found q), bind_ok rewound, size, bind_ok patched, result]
    unfold setPosition
    rw [if_neg]
    change ¬ (q.pos < 0 ∨ q.pos > (List.length _ : Int))
    simp only [List.length_append, Nat.cast_add]
    have wordSize : ((Image.int32 (.ofInt (image.size + extra))).bytes.length : Int) = 4 :=
      congrArg Nat.cast (size_int32 _)
    have bodySize : (image.bytes.length : Int) = image.size := rfl
    have bufSize : (p.buf.length : Int) = p.len := rfl
    omega
  overflows := by
    intro p opened large
    simp only [Image.sized, size_append, size_int32, Nat.cast_add] at large
    have found (parcel : Parcel) : position parcel = .ok parcel.pos parcel := rfl
    unfold writeSized
    rw [bind_ok (found p)]
    by_cases wordFits : p.len + (Image.int32 0).size ≤ maxInt
    · have wordWritten := (Writes.int32 0).pushes p opened wordFits
      have bodyOverflows : maxInt < (p.push (.int32 0)).len + image.size := by
        rw [len_push, size_int32]
        omega
      rcases writes.overflows _ (opened.push wordFits) bodyOverflows with ⟨reached, overflow⟩
      refine ⟨reached, ?_⟩
      rw [bind_ok wordWritten, bind_ok (found _), bind_error overflow]
    · rcases (Writes.int32 0).overflows p opened (by omega) with ⟨reached, overflow⟩
      exact ⟨reached, bind_error overflow⟩

end Writes

end Libbinder
