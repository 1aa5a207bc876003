import PixelPilot.Minimp4.Playback

/-!
# The buffer of the index

`mp4e_flush_index` puts the index together in a buffer.  It reckons the size of the buffer before
from the number of the samples and from the bytes of the parameter sets, the VPS left out, and
compares the two only in an assertion at its end.

Main results:

- Definition `IndexFits`: the assertion.
- Theorem `indexFits_iff`: the index of a track fits if and only if its VPS take no more than
  what the estimate leaves over.
- Theorem `indexFits_of_few`: 129 bytes are left over at least, whatever the samples are.
- Theorems `Finished.fits` and `Finished.fits_iff`: the same for the index of a finished file.
-/

namespace PixelPilot
namespace Minimp4

open MediaFile

/-- `FILE_HEADER_BYTES`. -/
def fileHeaderBytes : Nat := 256

/-- `TRACK_HEADER_BYTES`. -/
def trackHeaderBytes : Nat := 512

/-- What a track adds to `index_bytes`. -/
def trackBytes (tr : Track) : Nat :=
  trackHeaderBytes +
    tr.smpl.data.length * sizeofSample * (sizeofSample + 4 + 4) / sizeofSample +
    tr.vsps.data.length + tr.vpps.data.length

/-- `index_bytes` of `mp4e_flush_index`, a number of 32 bits. -/
def indexBytes (tracks : List Track) : Nat :=
  tracks.foldl (fun bytes tr => (bytes + trackBytes tr) % 2 ^ 32) fileHeaderBytes

/-- The assertion at the end of `mp4e_flush_index`: the index is not longer than its buffer. -/
def IndexFits (enableFragmentation : Bool) (tracks : List Track) : Prop :=
  (boxMoov enableFragmentation tracks).length ≤ indexBytes tracks

instance (enableFragmentation : Bool) (tracks : List Track) :
    Decidable (IndexFits enableFragmentation tracks) :=
  inferInstanceAs (Decidable (_ ≤ _))

/-- What is counted for a track: the VPS is not. -/
theorem trackBytes_eq (tr : Track) :
    trackBytes tr =
      512 + 32 * tr.smpl.data.length + tr.vsps.data.length + tr.vpps.data.length := by
  unfold trackBytes trackHeaderBytes sizeofSample
  omega

/-- The size of the buffer for one track, as long as it has 32 bits. -/
theorem indexBytes_single {tr : Track} (h : 256 + trackBytes tr < 2 ^ 32) :
    indexBytes [tr] = 256 + trackBytes tr := by
  change (256 + trackBytes tr) % 2 ^ 32 = _
  exact Nat.mod_eq_of_lt h

/-- The index of a track fits if and only if its VPS take no more than what is left over: 129
bytes, and what the estimate counts too much for the samples. -/
theorem indexFits_iff (enableFragmentation : Bool) (tr : Track)
    (hbytes : 256 + trackBytes tr < 2 ^ 32) :
    IndexFits enableFragmentation [tr] ↔
      if enableFragmentation then tr.vvps.data.length ≤ 129 + 32 * tr.smpl.data.length
      else tr.smpl.data = [] ∨
        tr.vvps.data.length + tableBytes tr.smpl.data ≤ 173 + 32 * tr.smpl.data.length := by
  unfold IndexFits
  rw [indexBytes_single hbytes, trackBytes_eq, boxMoov_length]
  cases enableFragmentation with
  | true =>
      rw [boxTrak_length (by simp), Track.setBytes]
      simp only [if_true]
      omega
  | false =>
      simp only [Bool.false_eq_true, if_false]
      by_cases hnone : tr.smpl.data = []
      · rw [boxTrak_empty hnone]
        simp only [hnone, List.length_nil, true_or, iff_true]
        omega
      · rw [boxTrak_length fun _ => hnone, Track.setBytes]
        simp only [Bool.false_eq_true, if_false, hnone, false_or]
        omega

/-- The tables leave eight bytes over for each sample. -/
theorem indexFits_of_samples {tr : Track} (hbytes : 256 + trackBytes tr < 2 ^ 32)
    (h : tr.vvps.data.length ≤ 161 + 8 * tr.smpl.data.length) : IndexFits false [tr] := by
  have htables := tableBytes_le tr.smpl.data
  rw [indexFits_iff false tr hbytes]
  simp only [Bool.false_eq_true, if_false]
  right
  omega

/-- VPS of at most 129 bytes fit into every index. -/
theorem indexFits_of_few (enableFragmentation : Bool) {tracks : List Track}
    (hone : tracks.length ≤ 1) (hbytes : 256 + trackBytes (tracks.getD 0 {}) < 2 ^ 32)
    (h : (tracks.getD 0 {}).vvps.data.length ≤ 129) : IndexFits enableFragmentation tracks := by
  rcases tracks with _ | ⟨tr, _ | ⟨_, _⟩⟩
  · unfold IndexFits
    rw [boxMoov_length_nil]
    cases enableFragmentation <;> decide
  · change tr.vvps.data.length ≤ 129 at h
    cases enableFragmentation with
    | true =>
        rw [indexFits_iff true tr hbytes, if_pos rfl]
        omega
    | false => exact indexFits_of_samples hbytes (by omega)
  · simp at hone

/-- The track of a finished file is not too large for the size of its buffer. -/
theorem trackBytes_lt {sets : ParameterSet → Bytes} {tr : Track} {n : Nat} (hholds : tr.Holds sets)
    (hlength : tr.smpl.data.length = n) (hbytes : 32 * n + bytesOfSets sets + 1000 < 2 ^ 32) :
    256 + trackBytes tr < 2 ^ 32 := by
  have hsets := hholds.setBytes
  unfold Track.setBytes at hsets
  rw [trackBytes_eq]
  omega

/-- The index of a fragmented file fits into its buffer if the VPS take at most 129 bytes: it has
no more parameter sets than the stream. -/
theorem fits_fragmented {sets : ParameterSet → Bytes} {file : Bytes} {ss : List MediaSample}
    {tr : Track} (hnone : tr.smpl.data = [])
    (hfew : ∀ kind, (tr.parameterSets kind).data.length ≤ (sets kind).length)
    (hfile : file = boxFtyp ++ fragmentedPart tr ss) (hne : ss ≠ [])
    (hbytes : bytesOfSets sets + 1000 < 2 ^ 32) (hvps : (sets .vps).length ≤ 129) :
    ∃ tracks front rest, file = front ++ boxMoov true tracks ++ rest ∧ IndexFits true tracks := by
  have hempty : ss.isEmpty = false := by
    simpa using hne
  have hsets : tr.setBytes ≤ bytesOfSets sets :=
    Nat.add_le_add (Nat.add_le_add (hfew .vps) (hfew .sps)) (hfew .pps)
  have htrack : 256 + trackBytes tr < 2 ^ 32 := by
    unfold Track.setBytes at hsets
    rw [trackBytes_eq, hnone, List.length_nil]
    omega
  rw [fragmentedPart, hempty, if_neg Bool.false_ne_true, ← List.append_assoc] at hfile
  exact ⟨[tr], boxFtyp, fragments 1 ss, hfile,
    indexFits_of_few true (Nat.le_refl [tr].length) htrack ((hfew .vps).trans hvps)⟩

/-- A finished file with samples, standard or sequential, has one track in its index. -/
theorem Finished.track {sets : ParameterSet → Bytes} {file : Bytes} {ss : List MediaSample}
    (h : Finished sets file ss false) (hne : ss ≠ []) :
    ∃ tr front gap pos, file = front ++ boxMoov false [tr] ∧ tr.Holds sets ∧
      tr.smpl.data = descriptors gap pos ss ∧ (gap = 0 ∧ pos = 40 ∨ gap = 8 ∧ pos = 24) := by
  have hone : ∀ (tracks : List Track) (gap pos : Nat), tracks.length ≤ 1 →
      (tracks.getD 0 {}).smpl.data = descriptors gap pos ss → ∃ tr, tracks = [tr] := by
    intro tracks gap pos hfew hdescriptors
    rcases tracks with _ | ⟨tr, _ | ⟨_, _⟩⟩
    · have hlength := descriptors_length gap pos ss
      rw [← hdescriptors] at hlength
      exact absurd (List.length_eq_zero_iff.mp hlength.symm) hne
    · exact ⟨tr, rfl⟩
    · simp at hfew
  cases h with
  | standard tracks hfew hholds hdescriptors hfile =>
      rcases hone tracks 0 40 hfew hdescriptors with ⟨tr, rfl⟩
      exact ⟨tr, _, 0, 40, hfile, hholds, hdescriptors, Or.inl ⟨rfl, rfl⟩⟩
  | sequential tracks hfew hholds hdescriptors hfile =>
      rcases hone tracks 8 24 hfew hdescriptors with ⟨tr, rfl⟩
      exact ⟨tr, _, 8, 24, hfile, hholds, hdescriptors, Or.inr ⟨rfl, rfl⟩⟩

/-- The index of a finished file fits into its buffer if the VPS take at most 129 bytes. -/
theorem Finished.fits {sets : ParameterSet → Bytes} {file : Bytes} {ss : List MediaSample}
    {fragmentation : Bool} (h : Finished sets file ss fragmentation) (hne : ss ≠ [])
    (hbytes : 32 * ss.length + bytesOfSets sets + 1000 < 2 ^ 32)
    (hvps : (sets .vps).length ≤ 129) :
    ∃ tracks front rest, file = front ++ boxMoov fragmentation tracks ++ rest ∧
      IndexFits fragmentation tracks := by
  cases fragmentation with
  | false =>
      rcases h.track hne with ⟨tr, front, gap, pos, hfile, hholds, hdescriptors, -⟩
      have hcount : tr.smpl.data.length = ss.length := by
        rw [hdescriptors, descriptors_length]
      have hsame : tr.vvps.data.length = (sets .vps).length := congrArg List.length (hholds .vps)
      refine ⟨[tr], front, [], by rw [hfile, List.append_nil], ?_⟩
      exact indexFits_of_few false (Nat.le_refl [tr].length) (trackBytes_lt hholds hcount hbytes)
        (hsame.trans_le hvps)
  | true =>
      cases h with
      | fragmented tr hnone hfew hfile =>
          exact fits_fragmented hnone hfew hfile hne (by omega) hvps

/-- The index of a finished file with samples, standard or sequential, fits into its buffer if
and only if the VPS take no more than what is left over. -/
theorem Finished.fits_iff {sets : ParameterSet → Bytes} {file : Bytes} {ss : List MediaSample}
    (h : Finished sets file ss false) (hne : ss ≠ [])
    (hbytes : 32 * ss.length + bytesOfSets sets + 1000 < 2 ^ 32) :
    ∃ tracks front gap pos, file = front ++ boxMoov false tracks ∧
      (gap = 0 ∧ pos = 40 ∨ gap = 8 ∧ pos = 24) ∧
      (IndexFits false tracks ↔
        (sets .vps).length + tableBytes (descriptors gap pos ss) ≤ 173 + 32 * ss.length) := by
  rcases h.track hne with ⟨tr, front, gap, pos, hfile, hholds, hdescriptors, hmode⟩
  have hcount : tr.smpl.data.length = ss.length := by
    rw [hdescriptors, descriptors_length]
  have hvps : tr.vvps.data.length = (sets .vps).length := congrArg List.length (hholds .vps)
  have hsome : descriptors gap pos ss ≠ [] := by
    intro hnone
    rw [hdescriptors, hnone] at hcount
    exact hne (List.length_eq_zero_iff.mp hcount.symm)
  refine ⟨[tr], front, gap, pos, hfile, hmode, ?_⟩
  rw [indexFits_iff false tr (trackBytes_lt hholds hcount hbytes), if_neg Bool.false_ne_true,
    hvps, hcount, hdescriptors]
  simp only [hsome, false_or]

end Minimp4
end PixelPilot
