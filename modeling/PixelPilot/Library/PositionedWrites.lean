import Mathlib.Data.List.Basic

/-!
# Files that are written at positions

A write puts its data at an offset of a file, over what is there.  A gap between the end of the
file and the offset is filled.

Main results:

- Definition `overwrite`: the file after a write.
- Theorems `overwrite_end`, `overwrite_gap`, `overwrite_inside` and `overwrite_past`: a write at
  the end, beyond it, over some data and over all data from the offset on.
- Theorem `getElem?_overwrite`: everything outside the data stays.
-/

namespace PositionedWrites

universe u

variable {α : Type u}

/-- The content of a file after `data` was written at an offset; a gap is filled with `z`. -/
def overwrite (z : α) (offset : Nat) (data content : List α) : List α :=
  content.take offset ++ List.replicate (offset - content.length) z ++ data ++
    content.drop (offset + data.length)

/-- A write behind the end fills the gap. -/
theorem overwrite_gap (z : α) {offset : Nat} (data : List α) {content : List α}
    (h : content.length ≤ offset) :
    overwrite z offset data content =
      content ++ List.replicate (offset - content.length) z ++ data := by
  have hnothing : content.drop (offset + data.length) = [] :=
    List.drop_of_length_le (Nat.le_trans h (Nat.le_add_right offset data.length))
  rw [overwrite, List.take_of_length_le h, hnothing, List.append_nil]

/-- A write at the end appends. -/
theorem overwrite_end (z : α) (data content : List α) :
    overwrite z content.length data content = content ++ data := by
  rw [overwrite_gap z data (Nat.le_refl _), Nat.sub_self, List.replicate_zero, List.append_nil]

/-- A write over data of the same length. -/
theorem overwrite_inside (z : α) {front old data back : List α} (h : data.length = old.length) :
    overwrite z front.length data (front ++ old ++ back) = front ++ data ++ back := by
  have hgap : front.length - (front ++ old ++ back).length = 0 := by simp
  have hback : (front ++ old ++ back).drop (front.length + data.length) = back := by
    rw [h, ← List.length_append, List.drop_left]
  rw [overwrite, hgap, hback, List.append_assoc front old back, List.take_left,
    List.replicate_zero, List.append_nil]

/-- A write over the end of the file. -/
theorem overwrite_past (z : α) {front old data : List α} (h : old.length ≤ data.length) :
    overwrite z front.length data (front ++ old) = front ++ data := by
  have hgap : front.length - (front ++ old).length = 0 := by simp
  have hback : (front ++ old).drop (front.length + data.length) = [] :=
    List.drop_of_length_le (by simp [h])
  rw [overwrite, hgap, hback, List.take_left, List.replicate_zero, List.append_nil,
    List.append_nil]

/-- What is outside the data stays. -/
theorem getElem?_overwrite (z : α) {i offset : Nat} {data content : List α} {a : α}
    (hi : i < offset ∨ offset + data.length ≤ i) (ha : content[i]? = some a) :
    (overwrite z offset data content)[i]? = some a := by
  have hlength : i < content.length := (List.getElem?_eq_some_iff.mp ha).1
  unfold overwrite
  rcases hi with hi | hi
  · rw [List.append_assoc, List.append_assoc, List.getElem?_append_left,
      List.getElem?_take_of_lt hi, ha]
    rw [List.length_take]
    omega
  · have hgap : offset - content.length = 0 := by omega
    have htake : (content.take offset).length = offset := by
      rw [List.length_take]
      omega
    rw [hgap, List.replicate_zero, List.append_nil, List.getElem?_append_right, List.length_append,
      htake, List.getElem?_drop, Nat.add_sub_cancel' hi, ha]
    rw [List.length_append, htake]
    exact hi

end PositionedWrites
