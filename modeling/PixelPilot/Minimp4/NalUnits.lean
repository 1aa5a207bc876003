import PixelPilot.Library.ByteStream
import PixelPilot.Minimp4.Mux

/-!
# The NAL units of an access unit

`find_start_code` looks for a run of zeros that a one follows, `find_nal_unit` cuts the bytes
between two start codes out, and the loop of `mp4_h26x_write_nal` goes on one byte behind the
beginning of the last NAL unit, until it finds an empty one.

Main results:

- Theorem `findNalUnit_stream`: what `find_nal_unit` finds in a byte stream.
- Theorem `nalUnits_splits`: the NAL units that the writer visits are those of the byte stream,
  up to the first empty one.
-/

namespace PixelPilot
namespace Minimp4

open ByteStream

/-! ## Start codes -/

/-- A string without a start code that does not end in a zero is passed over. -/
theorem findStartCode_append {zeroCnt : Nat} {unit : Bytes}
    (hstart : ¬ [0, 0, 1] <:+: List.replicate zeroCnt 0 ++ unit) (hne : unit ≠ [])
    (hlast : unit.getLast? ≠ some 0) (rest : Bytes) :
    findStartCode zeroCnt (unit ++ rest) = findStartCode 0 rest := by
  induction unit generalizing zeroCnt with
  | nil => exact absurd rfl hne
  | cons byte unit ih =>
      have hother : ¬ [0, 0, 1] <:+: List.replicate 0 0 ++ unit := by
        intro hinside
        exact hstart (hinside.trans ((List.suffix_cons byte unit).trans
          (List.suffix_append _ _)).isInfix)
      rw [List.cons_append, findStartCode]
      by_cases hzero : byte = 0
      · subst hzero
        have hunit : unit ≠ [] := by
          rintro rfl
          exact hlast rfl
        have hmore : ¬ [0, 0, 1] <:+: List.replicate (zeroCnt + 1) 0 ++ unit := by
          rwa [List.replicate_succ', List.append_assoc]
        rw [if_pos rfl]
        refine ih hmore hunit ?_
        cases unit with
        | nil => exact absurd rfl hunit
        | cons b unit => rwa [List.getLast?_cons_cons] at hlast
      · have hcode : ¬ (2 ≤ zeroCnt ∧ byte = 1) := by
          rintro ⟨hzeros, rfl⟩
          apply hstart
          obtain ⟨k, rfl⟩ : ∃ k, zeroCnt = k + 2 := ⟨zeroCnt - 2, by omega⟩
          refine ⟨List.replicate k 0, unit, ?_⟩
          rw [List.replicate_add, List.append_assoc, List.append_assoc]
          rfl
        rw [if_neg hzero, if_neg hcode]
        cases unit with
        | nil => rfl
        | cons b unit =>
            rw [List.getLast?_cons_cons] at hlast
            exact ih hother (List.cons_ne_nil b unit) hlast

/-- The search runs over a clean unit. -/
theorem findStartCode_clean {unit : Bytes} (h : Clean unit) (rest : Bytes) :
    findStartCode 0 (unit ++ rest) = findStartCode 0 rest := by
  by_cases hnil : unit = []
  · rw [hnil, List.nil_append]
  · have hstart : ¬ [0, 0, 1] <:+: List.replicate 0 0 ++ unit := h.start
    exact findStartCode_append hstart hnil h.last rest

/-- The search counts the zeros. -/
theorem findStartCode_zeros (zeroCnt k : Nat) (rest : Bytes) :
    findStartCode zeroCnt (List.replicate k 0 ++ rest) = findStartCode (zeroCnt + k) rest := by
  induction k generalizing zeroCnt with
  | zero => rfl
  | succ k ih =>
      rw [List.replicate_succ, List.cons_append, findStartCode, if_pos rfl, ih]
      congr 1
      omega

/-- A start code is found, with its zeros. -/
theorem findStartCode_startCode (zeros : Nat) (rest : Bytes) :
    findStartCode 0 (startCode zeros ++ rest) = (rest, zeros + 3) := by
  have hone : findStartCode (0 + (zeros + 2)) (1 :: rest) = (rest, zeros + 3) := by
    rw [findStartCode, if_neg (by decide), if_pos ⟨by omega, rfl⟩]
    simp only [Nat.zero_add]
  rw [startCode, List.append_assoc, findStartCode_zeros]
  exact hone

/-- Only zeros are left. -/
theorem findStartCode_trailing (trailing : Nat) :
    findStartCode 0 (List.replicate trailing 0) = ([], 0) := by
  have hzeros := findStartCode_zeros 0 trailing []
  rw [List.append_nil] at hzeros
  rw [hzeros, findStartCode]

/-! ## NAL units -/

/-- The zeros at the end are cut off. -/
theorem dropWhile_zeros {unit : Bytes} (h : unit.getLast? ≠ some 0) (trailing : Nat) :
    (((unit ++ List.replicate trailing 0).reverse.dropWhile fun byte => byte = 0).reverse) =
      unit := by
  rw [List.reverse_append, List.reverse_replicate]
  have hzeros : (List.replicate trailing (0 : UInt8) ++ unit.reverse).dropWhile
      (fun byte => byte = 0) = unit.reverse.dropWhile fun byte => byte = 0 := by
    induction trailing with
    | zero => rfl
    | succ trailing ih =>
        rw [List.replicate_succ, List.cons_append, List.dropWhile_cons, if_pos (by decide)]
        exact ih
  rw [hzeros, ← List.head?_reverse] at *
  cases hunit : unit.reverse with
  | nil => simpa using hunit
  | cons byte rest =>
      rw [hunit, List.head?_cons, ne_eq, Option.some.injEq] at h
      rw [List.dropWhile_cons, if_neg (by simpa using h), ← hunit, List.reverse_reverse]

/-- No NAL unit is left. -/
theorem findNalUnit_none {front : Bytes} (h : Clean front) (trailing : Nat) :
    findNalUnit (front ++ List.replicate trailing 0) = ([], 0) := by
  have hnone : findStartCode 0 (front ++ List.replicate trailing 0) = ([], 0) := by
    rw [findStartCode_clean h, findStartCode_trailing]
  unfold findNalUnit
  rw [hnone]
  rfl

/-- The first NAL unit of a byte stream, and what stands behind its start code. -/
theorem findNalUnit_stream {front unit : Bytes} {chunks : List (Nat × Bytes)} {zeros : Nat}
    (hfront : Clean front) (hunit : Clean unit) (trailing : Nat) :
    findNalUnit (front ++ (stream ((zeros, unit) :: chunks) ++ List.replicate trailing 0)) =
      (unit ++ (stream chunks ++ List.replicate trailing 0), unit.length) := by
  have hstart : findStartCode 0
      (front ++ (stream ((zeros, unit) :: chunks) ++ List.replicate trailing 0)) =
      (unit ++ (stream chunks ++ List.replicate trailing 0), zeros + 3) := by
    rw [findStartCode_clean hfront, stream_cons, List.append_assoc, findStartCode_startCode,
      List.append_assoc]
  unfold findNalUnit
  rw [hstart]
  simp only [findStartCode_clean hunit]
  rcases chunks with _ | ⟨⟨zeros', unit'⟩, chunks⟩
  · -- the last NAL unit: the zeros at the end do not count
    rw [stream_nil, List.nil_append, findStartCode_trailing]
    simp only [List.length_nil, Nat.sub_zero, List.take_length, dropWhile_zeros hunit.last]
  · -- the bytes up to the end of the next start code, which does not end in a zero
    rw [stream_cons, List.append_assoc, findStartCode_startCode]
    simp only
    generalize unit' ++ stream chunks ++ List.replicate trailing 0 = rest
    have htake : (unit ++ (startCode zeros' ++ rest)).take
        ((unit ++ (startCode zeros' ++ rest)).length - rest.length) = unit ++ startCode zeros' := by
      rw [← List.append_assoc, List.length_append, Nat.add_sub_cancel, List.take_left]
    have hcode : (unit ++ startCode zeros').getLast? ≠ some 0 := by
      rw [startCode, ← List.append_assoc, List.getLast?_concat]
      decide
    have htrimmed := dropWhile_zeros hcode 0
    rw [List.replicate_zero, List.append_nil] at htrimmed
    have hlength : (startCode zeros').length = zeros' + 3 := by
      rw [startCode, List.length_append, List.length_replicate]
      rfl
    rw [htake, htrimmed, List.length_append, hlength, Nat.add_sub_cancel]

/-- The loop of `mp4_h26x_write_nal`, from a byte behind which a byte stream begins. -/
theorem nalUnitsFrom_stream {front : Bytes} {chunks : List (Nat × Bytes)} (trailing : Nat)
    {fuel : Nat} (hfront : Clean front) (hchunks : ∀ chunk ∈ chunks, Clean chunk.2)
    (hfuel : chunks.length < fuel) :
    nalUnitsFrom fuel (front ++ (stream chunks ++ List.replicate trailing 0)) =
      (chunks.map Prod.snd).takeWhile fun unit => unit ≠ [] := by
  induction chunks generalizing front fuel with
  | nil =>
      obtain ⟨fuel, rfl⟩ : ∃ k, fuel = k + 1 := ⟨fuel - 1, by simp at hfuel; omega⟩
      rw [stream_nil, List.nil_append, nalUnitsFrom, findNalUnit_none hfront]
      rfl
  | cons chunk chunks ih =>
      rcases chunk with ⟨zeros, unit⟩
      have hunit := hchunks (zeros, unit) List.mem_cons_self
      rw [List.length_cons] at hfuel
      obtain ⟨fuel, rfl⟩ : ∃ k, fuel = k + 1 := ⟨fuel - 1, by omega⟩
      rw [nalUnitsFrom, findNalUnit_stream hfront hunit]
      cases unit with
      | nil => simp
      | cons byte unit =>
          have hrest : nalUnitsFrom fuel (unit ++ (stream chunks ++ List.replicate trailing 0)) =
              (chunks.map Prod.snd).takeWhile fun unit => unit ≠ [] :=
            ih hunit.tail (fun chunk hchunk => hchunks chunk (List.mem_cons_of_mem _ hchunk))
              (by omega)
          simp [hrest]

/-- Every access unit is a byte stream, and the NAL units that the writer visits are those of the
byte stream, up to the first empty one. -/
theorem nalUnits_splits (data : Bytes) :
    (∃ units, Splits data units) ∧
      ∀ units, Splits data units → nalUnits data = units.takeWhile fun unit => unit ≠ [] := by
  refine ⟨exists_splits data, ?_⟩
  rintro _ ⟨front, chunks, trailing, hfront, hchunks, rfl, rfl⟩
  refine nalUnitsFrom_stream trailing hfront hchunks ?_
  have hlength : chunks.length ≤ (stream chunks).length := by
    induction chunks with
    | nil => exact Nat.le_refl _
    | cons chunk chunks ih =>
        have hrest := ih fun chunk hchunk => hchunks chunk (List.mem_cons_of_mem _ hchunk)
        rcases chunk with ⟨zeros, unit⟩
        rw [stream_cons, startCode]
        simp only [List.length_append, List.length_cons, List.length_nil]
        omega
  simp only [List.length_append]
  omega

/-- Behind an empty NAL unit the writer sees nothing any more. -/
theorem nalUnits_splits_empty :
    nalUnits [0, 0, 1, 0x40, 1, 0, 0, 1, 0, 0, 0, 1, 0x42, 1, 0] = [[0x40, 1]] :=
  (nalUnits_splits [0, 0, 1, 0x40, 1, 0, 0, 1, 0, 0, 0, 1, 0x42, 1, 0]).2
    [[0x40, 1], [], [0x42, 1]]
    ⟨[], [(0, [0x40, 1]), (0, []), (1, [0x42, 1])], 1, .nil, by
      intro chunk hchunk
      simp only [List.mem_cons, List.not_mem_nil, or_false] at hchunk
      rcases hchunk with rfl | rfl | rfl <;> exact ⟨by decide, by decide⟩, by decide, rfl⟩

end Minimp4
end PixelPilot
