import PixelPilot.Minimp4.Layout

/-!
# The tables of an index

What the tables that `mp4e_flush_index` writes say to a player: each of them is read back from
its box, whatever the samples, as long as the box can have its size.

Main results:

- Theorem `write4_eq` and `atom_eq`: the muxer's numbers and boxes are those of the format.
- Theorem `expand_sttsEntries`: the runs of equal durations stand for all durations.
- Theorems `stts_read`, `stsz_read`, `stsc_read`, `stco_read` and `stss_read`: each table, read
  back.
- Theorem `indexedSamples_trak`: the samples that the index of a track leads to.
-/

namespace PixelPilot
namespace Minimp4

open ByteReader ByteReader.Reader BoxFile MediaFile

/-! ## Numbers and boxes -/

/-- The writer's four bytes are those of the number. -/
theorem write4_eq (x : Nat) : write4 x = bigEndian 4 x := by
  simp only [write4, write2, write1, bigEndian, Nat.shiftRight_eq_div_pow, List.nil_append,
    List.append_assoc, Nat.div_div_eq_div_mul]

/-- Two writes of four bytes make eight. -/
theorem write8_eq (x : Nat) : write4 (x >>> 32) ++ write4 x = bigEndian 8 x := by
  simp only [write4_eq, bigEndian, Nat.shiftRight_eq_div_pow, List.nil_append,
    List.append_assoc, Nat.div_div_eq_div_mul]

/-- Boxes of the muxer are boxes of the format. -/
theorem atom_eq (name : Nat) (content : Bytes) : atom name content = boxed name content := by
  rw [atom, boxed, write4_eq, write4_eq, List.append_assoc]

/-- A table of the muxer: version and flags, and then the entries behind their count. -/
theorem atomFull_eq (name flag : Nat) (content : Bytes) :
    atomFull name flag content = boxed name (write4 flag ++ content) := by
  rw [atomFull, atom_eq]

/-! ## Durations -/

/-- The runs of equal durations stand for all durations. -/
theorem expand_sttsEntries (cnt : Nat) (s : Sample) (samples : List Sample) :
    expand (sttsEntries (cnt + 1) (s :: samples)) =
      List.replicate cnt s.duration ++ (s :: samples).map Sample.duration := by
  induction samples generalizing cnt s with
  | nil => simp [sttsEntries, expand, List.replicate_succ']
  | cons t rest ih =>
      rw [sttsEntries]
      split
      · rename_i hsame
        rw [ih (cnt + 1) t, hsame, List.replicate_succ', List.append_assoc]
        simp [hsame]
      · have hrest := ih 0 t
        rw [List.replicate_zero, List.nil_append, Nat.zero_add] at hrest
        simp only [expand, List.flatMap_cons] at hrest ⊢
        rw [hrest, List.replicate_succ', List.append_assoc]
        rfl

/-- The run lengths of `stts` expand to the durations. -/
theorem expand_stts (samples : List Sample) :
    expand (sttsEntries 1 samples) = samples.map Sample.duration := by
  cases samples with
  | nil => rfl
  | cons s rest => exact expand_sttsEntries 0 s rest

/-- A run has a duration of the track, and the runs together are as long as the track. -/
theorem sttsEntries_bounds {cnt : Nat} {samples : List Sample} {e : Nat × Nat}
    (h : e ∈ sttsEntries cnt samples) :
    e.1 < cnt + samples.length ∧ ∃ s ∈ samples, e.2 = s.duration := by
  induction samples generalizing cnt with
  | nil => exact absurd h List.not_mem_nil
  | cons s rest ih =>
      cases rest with
      | nil =>
          rw [sttsEntries, List.mem_singleton] at h
          rw [h]
          exact ⟨Nat.lt_succ_self cnt, s, List.mem_cons_self, rfl⟩
      | cons t rest =>
          rw [sttsEntries] at h
          split at h
          · rcases ih h with ⟨hlt, r, hr, heq⟩
            simp only [List.length_cons] at hlt ⊢
            exact ⟨by omega, r, List.mem_cons_of_mem s hr, heq⟩
          · rcases List.mem_cons.mp h with rfl | h
            · simp only [List.length_cons]
              exact ⟨by omega, s, List.mem_cons_self, rfl⟩
            · rcases ih h with ⟨hlt, r, hr, heq⟩
              simp only [List.length_cons] at hlt ⊢
              exact ⟨by omega, r, List.mem_cons_of_mem s hr, heq⟩

theorem sttsEntries_length_le (cnt : Nat) (samples : List Sample) :
    (sttsEntries cnt samples).length ≤ samples.length := by
  induction samples generalizing cnt with
  | nil => exact Nat.le_refl _
  | cons s rest ih =>
      cases rest with
      | nil => exact Nat.le_refl _
      | cons t rest =>
          rw [sttsEntries]
          split
          · exact (ih _).trans (Nat.le_succ _)
          · have hrest := ih 1
            rw [List.length_cons, List.length_cons]
            omega

/-! ## The tables -/

/-- The numbers of the descriptors have four bytes. -/
structure Fits (samples : List Sample) : Prop where
  count : samples.length < 256 ^ 4
  size : ∀ s ∈ samples, s.size < 256 ^ 4
  duration : ∀ s ∈ samples, s.duration < 256 ^ 4

/-- What `BOX_stts` holds. -/
def sttsContent (samples : List Sample) : Bytes :=
  write4 0 ++ (write4 (sttsEntries 1 samples).length ++
    (sttsEntries 1 samples).flatMap fun e => write4 e.1 ++ write4 e.2)

/-- What `BOX_stsc` holds. -/
def stscContent (enableFragmentation : Bool) : Bytes :=
  write4 0 ++ (if enableFragmentation then write4 0
    else write4 1 ++ write4 1 ++ write4 1 ++ write4 1)

/-- What `BOX_stsz` holds. -/
def stszContent (samples : List Sample) : Bytes :=
  write4 0 ++ (write4 0 ++ write4 samples.length ++ samples.flatMap fun s => write4 s.size)

/-- What `BOX_stco` holds. -/
def stcoContent (samples : List Sample) : Bytes :=
  write4 0 ++ (write4 samples.length ++ samples.flatMap fun s => write4 s.offset)

/-- What `BOX_co64` holds. -/
def co64Content (samples : List Sample) : Bytes :=
  write4 0 ++ (write4 samples.length ++
    samples.flatMap fun s => write4 (s.offset >>> 32) ++ write4 s.offset)

/-- The numbers of the random access points. -/
def syncNumbers (samples : List Sample) : List Nat :=
  (samples.zipIdx.filter fun s => s.1.flagRandomAccess).map fun s => s.2 + 1

/-- What `BOX_stss` holds. -/
def stssContent (samples : List Sample) : Bytes :=
  write4 0 ++ (write4 (samples.countP Sample.flagRandomAccess) ++
    samples.zipIdx.flatMap fun s => if s.1.flagRandomAccess then write4 (s.2 + 1) else [])

variable {samples : List Sample}

/-- The table of the durations is read back. -/
theorem stts_read (h : Fits samples) :
    run timeToSample (sttsContent samples) = some (sttsEntries 1 samples) := by
  have hcount : (sttsEntries 1 samples).length < 256 ^ 4 :=
    Nat.lt_of_le_of_lt (sttsEntries_length_le 1 samples) h.count
  have hentry : ∀ e ∈ sttsEntries 1 samples,
      Reads twoNumbers (write4 e.1 ++ write4 e.2) e := by
    intro e he
    rcases sttsEntries_bounds he with ⟨hlt, s, hs, heq⟩
    have hduration := h.duration s hs
    have hcount := h.count
    rw [write4_eq, write4_eq]
    exact reads_twoNumbers (by omega) (by omega)
  have htable : Reads timeToSample
      (bigEndian 4 0 ++ (bigEndian 4 (sttsEntries 1 samples).length ++
        (sttsEntries 1 samples).flatMap fun e => write4 e.1 ++ write4 e.2))
      ((sttsEntries 1 samples).map fun e => e) :=
    reads_table (by decide) hcount hentry
  rw [List.map_id'] at htable
  rw [sttsContent, write4_eq, write4_eq]
  exact htable.run

/-- The table of the chunks is read back: one sample in each. -/
theorem stsc_read : run sampleToChunk (stscContent false) = some [(1, 1)] := by
  have hcontent : stscContent false = bigEndian 4 0 ++ (bigEndian 4 1 ++
      (bigEndian 4 1 ++ bigEndian 4 1 ++ bigEndian 4 1)) := by
    simp only [stscContent, Bool.false_eq_true, if_false, write4_eq, List.append_assoc]
  rw [hcontent]
  exact reads_sampleToChunk.run

/-- The table of the sizes is read back. -/
theorem stsz_read (h : Fits samples) :
    run sampleSizes (stszContent samples) = some (samples.map Sample.size) := by
  have hcontent : stszContent samples = bigEndian 4 0 ++ (bigEndian 4 0 ++
      (bigEndian 4 samples.length ++ samples.flatMap fun s => bigEndian 4 s.size)) := by
    simp only [stszContent, write4_eq, List.append_assoc]
  rw [hcontent]
  exact (reads_sampleSizes h.count h.size).run

/-- Offsets of four bytes are read back. -/
theorem stco_read (h : Fits samples) (hoffset : ∀ s ∈ samples, s.offset < 256 ^ 4) :
    run (chunkOffsets 4) (stcoContent samples) = some (samples.map Sample.offset) := by
  have htable : Reads (chunkOffsets 4) (bigEndian 4 0 ++ (bigEndian 4 samples.length ++
      samples.flatMap fun s => bigEndian 4 s.offset)) (samples.map Sample.offset) :=
    reads_table (by decide) h.count fun s hs => reads_uint (hoffset s hs)
  simp only [stcoContent, write4_eq]
  exact htable.run

/-- Offsets of eight bytes are read back. -/
theorem co64_read (h : Fits samples) (hoffset : ∀ s ∈ samples, s.offset < 256 ^ 8) :
    run (chunkOffsets 8) (co64Content samples) = some (samples.map Sample.offset) := by
  have htable : Reads (chunkOffsets 8) (bigEndian 4 0 ++ (bigEndian 4 samples.length ++
      samples.flatMap fun s => bigEndian 8 s.offset)) (samples.map Sample.offset) :=
    reads_table (by decide) h.count fun s hs => reads_uint (hoffset s hs)
  have hentry : (fun s : Sample => write4 (s.offset >>> 32) ++ write4 s.offset) =
      fun s => bigEndian 8 s.offset := by
    ext1 s
    exact write8_eq s.offset
  rw [co64Content, hentry, write4_eq, write4_eq]
  exact htable.run

theorem flatMap_filter_eq {α β : Type} (p : α → Bool) (f : α → List β) (l : List α) :
    (l.flatMap fun a => if p a then f a else []) = (l.filter p).flatMap f := by
  induction l with
  | nil => rfl
  | cons a l ih =>
      rw [List.flatMap_cons, ih]
      by_cases h : p a = true
      · rw [if_pos h, List.filter_cons_of_pos h, List.flatMap_cons]
      · rw [if_neg h, List.filter_cons_of_neg h, List.nil_append]

/-- The sync numbers count the random access samples from 1. -/
theorem mem_syncNumbers {n : Nat} :
    n ∈ syncNumbers samples ↔
      ∃ s i, samples[i]? = some s ∧ s.flagRandomAccess = true ∧ n = i + 1 := by
  simp only [syncNumbers, List.mem_map, List.mem_filter, List.mem_zipIdx_iff_getElem?]
  constructor
  · rintro ⟨⟨s, i⟩, ⟨hget, hsync⟩, rfl⟩
    exact ⟨s, i, hget, hsync, rfl⟩
  · rintro ⟨s, i, hget, hsync, rfl⟩
    exact ⟨(s, i), ⟨hget, hsync⟩, rfl⟩

theorem syncNumbers_length :
    (syncNumbers samples).length = samples.countP Sample.flagRandomAccess := by
  rw [syncNumbers, List.length_map, ← List.countP_eq_length_filter]
  have hcount := List.countP_map (p := Sample.flagRandomAccess) (f := Prod.fst)
    (l := samples.zipIdx)
  rw [List.zipIdx_map_fst] at hcount
  exact hcount.symm

/-- The table of the sync samples is read back. -/
theorem stss_read (h : Fits samples) :
    run syncSamples (stssContent samples) = some (syncNumbers samples) := by
  have hlimit := h.count
  have hfew : (syncNumbers samples).length < 256 ^ 4 := by
    have hle := List.countP_le_length (p := Sample.flagRandomAccess) (l := samples)
    rw [syncNumbers_length]
    omega
  have hsmall : ∀ n ∈ syncNumbers samples, n < 256 ^ 4 := by
    intro n hn
    rcases mem_syncNumbers.mp hn with ⟨s, i, hget, -, rfl⟩
    rcases List.getElem?_eq_some_iff.mp hget with ⟨hi, -⟩
    omega
  have htable : Reads syncSamples (bigEndian 4 0 ++
      (bigEndian 4 (syncNumbers samples).length ++ (syncNumbers samples).flatMap (bigEndian 4)))
      ((syncNumbers samples).map fun n => n) :=
    reads_table (by decide) hfew fun n hn => reads_uint (hsmall n hn)
  have hcontent : stssContent samples = bigEndian 4 0 ++
      (bigEndian 4 (syncNumbers samples).length ++
        (syncNumbers samples).flatMap (bigEndian 4)) := by
    rw [stssContent, flatMap_filter_eq, syncNumbers_length, syncNumbers, List.flatMap_map]
    simp only [write4_eq]
  rw [List.map_id'] at htable
  rw [hcontent]
  exact htable.run

/-- A sample is marked if its number is in `BOX_stss`. -/
theorem syncNumbers_contains {i : Nat} {s : Sample} (h : samples[i]? = some s) :
    (syncNumbers samples).contains (i + 1) = s.flagRandomAccess := by
  rw [Bool.eq_iff_iff, List.contains_iff_mem, mem_syncNumbers]
  constructor
  · rintro ⟨t, j, hget, hsync, heq⟩
    rw [Nat.succ.inj heq, hget] at h
    cases h
    exact hsync
  · intro hsync
    exact ⟨s, i, h, hsync, rfl⟩

/-! ## The way to the tables -/

/-- A box whose content does not matter. -/
def other (name : Nat) (bytes : Bytes) : Box :=
  ⟨name, bytes.drop 8⟩

/-- `BOX_stco` or `BOX_co64`. -/
def offsetsBox (samples : List Sample) : Box :=
  if samples.getLast?.any fun s => 0xffffffff < s.offset then
    ⟨fourCharInt 'c' 'o' '6' '4', co64Content samples⟩
  else ⟨fourCharInt 's' 't' 'c' 'o', stcoContent samples⟩

/-- `BOX_stss`, if it is there. -/
def syncBoxes (samples : List Sample) : List Box :=
  if samples.countP Sample.flagRandomAccess = samples.length then []
  else [⟨fourCharInt 's' 't' 's' 's', stssContent samples⟩]

/-- The boxes in `BOX_stbl`. -/
def tableBoxes (enableFragmentation : Bool) (samples : List Sample) (tr : Track) : List Box :=
  [other (fourCharInt 's' 't' 's' 'd') (boxStsd tr),
    ⟨fourCharInt 's' 't' 't' 's', sttsContent samples⟩,
    ⟨fourCharInt 's' 't' 's' 'c', stscContent enableFragmentation⟩,
    ⟨fourCharInt 's' 't' 's' 'z', stszContent samples⟩, offsetsBox samples] ++ syncBoxes samples

theorem atom_drop (name : Nat) (content : Bytes) : (atom name content).drop 8 = content := by
  let header := write4 (content.length + 8) ++ write4 name
  have hdrop : (header ++ content).drop header.length = content := List.drop_left
  exact hdrop

/-- A box of the code is a box of the reader, with its content behind the head. -/
theorem spell_other (name : Nat) (content : Bytes) :
    boxed name ((atom name content).drop 8) = atom name content := by
  rw [atom_drop, atom_eq]

/-- `stbl` is spelled by the boxes of the tables. -/
theorem boxStbl_eq (enableFragmentation : Bool) (samples : List Sample) (tr : Track) :
    boxStbl enableFragmentation samples tr =
      boxed (fourCharInt 's' 't' 'b' 'l') (spell (tableBoxes enableFragmentation samples tr)) := by
  have hstsd : boxed (fourCharInt 's' 't' 's' 'd') ((boxStsd tr).drop 8) = boxStsd tr :=
    spell_other _ _
  have hstco : boxed (offsetsBox samples).name (offsetsBox samples).content = boxStco samples := by
    unfold offsetsBox boxStco
    split
    · exact (atomFull_eq _ _ _).symm
    · exact (atomFull_eq _ _ _).symm
  have hstss : spell (syncBoxes samples) = boxStss samples := by
    unfold syncBoxes boxStss
    by_cases hall : samples.countP Sample.flagRandomAccess = samples.length
    · rw [if_pos hall]
      exact (if_pos hall).symm
    · have hbox : boxed (fourCharInt 's' 't' 's' 's') (stssContent samples) =
          atomFull (fourCharInt 's' 't' 's' 's') 0
            (write4 (samples.countP Sample.flagRandomAccess) ++ samples.zipIdx.flatMap fun s =>
              if s.1.flagRandomAccess then write4 (s.2 + 1) else []) :=
        (atomFull_eq _ _ _).symm
      rw [if_neg hall, spell_cons, spell_nil, List.append_nil, hbox]
      exact (if_neg hall).symm
  rw [boxStbl, atom_eq, tableBoxes, spell_append, hstss]
  simp only [spell_cons, spell_nil, other, hstsd, hstco, List.append_nil, List.append_assoc]
  simp only [boxStts, boxStsc, boxStsz, atomFull_eq, sttsContent, stscContent, stszContent,
    List.append_assoc]

/-- The content of a track's box. -/
def trakContent (enableFragmentation : Bool) (ntr : Nat) (samples : List Sample) (tr : Track) :
    Bytes :=
  boxTkhd ntr tr ++ atom (fourCharInt 'm' 'd' 'i' 'a')
    (boxMdhd tr ++ boxHdlr ++ boxMinf enableFragmentation samples tr)

/-- The boxes in `BOX_minf`. -/
def minfBoxes (enableFragmentation : Bool) (samples : List Sample) (tr : Track) : List Box :=
  [other (fourCharInt 'v' 'm' 'h' 'd')
      (atomFull (fourCharInt 'v' 'm' 'h' 'd') 1 (write2 0 ++ write2 0 ++ write2 0 ++ write2 0)),
    other (fourCharInt 'd' 'i' 'n' 'f') (atom (fourCharInt 'd' 'i' 'n' 'f')
      (atomFull (fourCharInt 'd' 'r' 'e' 'f') 0
        (write4 1 ++ atomFull (fourCharInt 'u' 'r' 'l' ' ') 1 []))),
    ⟨fourCharInt 's' 't' 'b' 'l', spell (tableBoxes enableFragmentation samples tr)⟩]

/-- The boxes in `BOX_mdia`. -/
def mdiaBoxes (enableFragmentation : Bool) (samples : List Sample) (tr : Track) : List Box :=
  [other (fourCharInt 'm' 'd' 'h' 'd') (boxMdhd tr), other (fourCharInt 'h' 'd' 'l' 'r') boxHdlr,
    ⟨fourCharInt 'm' 'i' 'n' 'f', spell (minfBoxes enableFragmentation samples tr)⟩]

/-- The boxes in `BOX_trak`. -/
def trakBoxes (enableFragmentation : Bool) (ntr : Nat) (samples : List Sample) (tr : Track) :
    List Box :=
  [other (fourCharInt 't' 'k' 'h' 'd') (boxTkhd ntr tr),
    ⟨fourCharInt 'm' 'd' 'i' 'a', spell (mdiaBoxes enableFragmentation samples tr)⟩]

/-- `minf` is spelled by its boxes. -/
theorem boxMinf_eq (enableFragmentation : Bool) (samples : List Sample) (tr : Track) :
    boxMinf enableFragmentation samples tr = boxed (fourCharInt 'm' 'i' 'n' 'f')
      (spell (minfBoxes enableFragmentation samples tr)) := by
  rw [boxMinf, atom_eq, minfBoxes, boxStbl_eq]
  simp only [spell_cons, spell_nil, other, atomFull, spell_other, List.append_nil,
    List.append_assoc]

/-- The content of `trak` is spelled by its boxes. -/
theorem trakContent_eq (enableFragmentation : Bool) (ntr : Nat) (samples : List Sample)
    (tr : Track) :
    trakContent enableFragmentation ntr samples tr =
      spell (trakBoxes enableFragmentation ntr samples tr) := by
  have htkhd : boxed (fourCharInt 't' 'k' 'h' 'd') ((boxTkhd ntr tr).drop 8) = boxTkhd ntr tr :=
    spell_other _ _
  have hmdhd : boxed (fourCharInt 'm' 'd' 'h' 'd') ((boxMdhd tr).drop 8) = boxMdhd tr :=
    spell_other _ _
  have hhdlr : boxed (fourCharInt 'h' 'd' 'l' 'r') (boxHdlr.drop 8) = boxHdlr :=
    spell_other _ _
  rw [trakContent, trakBoxes, mdiaBoxes, atom_eq, boxMinf_eq]
  simp only [spell_cons, spell_nil, other, htkhd, hmdhd, hhdlr, List.append_nil,
    List.append_assoc]

theorem named_tableBoxes (enableFragmentation : Bool) (samples : List Sample) (tr : Track) :
    Named (tableBoxes enableFragmentation samples tr) := by
  refine Named.append ?_ ?_
  · unfold offsetsBox
    split
    · rfl
    · rfl
  · unfold syncBoxes
    split
    · rfl
    · rfl

/-- The path from a track leads to its tables. -/
theorem descend_tables {enableFragmentation : Bool} {ntr : Nat} {samples : List Sample}
    {tr : Track} (hsize : (trakContent enableFragmentation ntr samples tr).length < 256 ^ 4) :
    descend tablesPath (trakContent enableFragmentation ntr samples tr) =
        some (spell (tableBoxes enableFragmentation samples tr)) ∧
      (spell (tableBoxes enableFragmentation samples tr)).length < 256 ^ 4 := by
  rw [trakContent_eq] at hsize ⊢
  have hmdia : (spell (mdiaBoxes enableFragmentation samples tr)).length < 256 ^ 4 := by
    simp only [trakBoxes, spell_cons, spell_nil, List.length_append, boxed_length] at hsize
    omega
  have hminf : (spell (minfBoxes enableFragmentation samples tr)).length < 256 ^ 4 := by
    simp only [mdiaBoxes, spell_cons, spell_nil, List.length_append, boxed_length] at hmdia
    omega
  have hstbl : (spell (tableBoxes enableFragmentation samples tr)).length < 256 ^ 4 := by
    simp only [minfBoxes, spell_cons, spell_nil, List.length_append, boxed_length] at hminf
    omega
  refine ⟨?_, hstbl⟩
  have htrak : descend tablesPath (spell (trakBoxes enableFragmentation ntr samples tr)) =
      descend (tablesPath.drop 1) (spell (mdiaBoxes enableFragmentation samples tr)) :=
    descend_spell rfl hsize rfl
  have hmdia' : descend (tablesPath.drop 1) (spell (mdiaBoxes enableFragmentation samples tr)) =
      descend (tablesPath.drop 2) (spell (minfBoxes enableFragmentation samples tr)) :=
    descend_spell rfl hmdia rfl
  have hminf' : descend (tablesPath.drop 2) (spell (minfBoxes enableFragmentation samples tr)) =
      descend [] (spell (tableBoxes enableFragmentation samples tr)) :=
    descend_spell rfl hminf rfl
  rw [htrak, hmdia', hminf']
  rfl

/-! ## The samples that the tables lead to -/

/-- The descriptors have the sizes of the samples. -/
theorem descriptors_sizes (gap pos : Nat) (ss : List MediaSample) :
    (descriptors gap pos ss).map Sample.size = ss.map fun s => s.data.length := by
  induction ss generalizing pos with
  | nil => rfl
  | cons s ss ih => rw [descriptors, List.map_cons, ih, List.map_cons]

/-- The descriptors have the durations of the samples. -/
theorem descriptors_durations (gap pos : Nat) (ss : List MediaSample) :
    (descriptors gap pos ss).map Sample.duration = ss.map MediaSample.duration := by
  induction ss generalizing pos with
  | nil => rfl
  | cons s ss ih => rw [descriptors, List.map_cons, ih, List.map_cons]

/-- The number of a sample is that of its descriptor. -/
theorem descriptors_getElem? (gap pos : Nat) {i : Nat} {ss : List MediaSample} {s : MediaSample}
    (h : ss[i]? = some s) :
    ∃ offset, (descriptors gap pos ss)[i]? = some ⟨s.data.length, offset, s.duration, s.sync⟩ := by
  induction ss generalizing pos i with
  | nil => simp at h
  | cons a ss ih =>
      cases i with
      | zero =>
          rw [List.getElem?_cons_zero, Option.some_inj] at h
          rw [h]
          exact ⟨pos + gap, rfl⟩
      | succ i =>
          rw [List.getElem?_cons_succ] at h
          rcases ih (pos + gap + a.data.length) h with ⟨offset, hget⟩
          exact ⟨offset, hget⟩

/-- What a descriptor says of its sample. -/
theorem mem_descriptors {gap pos : Nat} {ss : List MediaSample} {d : Sample}
    (h : d ∈ descriptors gap pos ss) :
    (∃ s ∈ ss, d.size = s.data.length ∧ d.duration = s.duration) ∧
      d.offset ≤ pos + span gap ss := by
  induction ss generalizing pos with
  | nil => exact absurd h List.not_mem_nil
  | cons s ss ih =>
      have hspan : span gap (s :: ss) = gap + s.data.length + span gap ss := by
        simp [span]
      rw [descriptors] at h
      rcases List.mem_cons.mp h with rfl | h
      · exact ⟨⟨s, List.mem_cons_self, rfl, rfl⟩, by simp only; omega⟩
      · rcases ih h with ⟨⟨t, ht, hsize, hduration⟩, hhigh⟩
        exact ⟨⟨t, List.mem_cons_of_mem s ht, hsize, hduration⟩, by omega⟩

/-- No sample lies behind the last one. -/
theorem descriptors_last {gap pos : Nat} {ss : List MediaSample} {d last : Sample}
    (h : d ∈ descriptors gap pos ss) (hlast : (descriptors gap pos ss).getLast? = some last) :
    d.offset ≤ last.offset := by
  rcases List.eq_nil_or_concat ss with rfl | ⟨front, s, hconcat⟩
  · exact absurd h List.not_mem_nil
  · rw [List.concat_eq_append] at hconcat
    subst hconcat
    rw [descriptors_concat] at h hlast
    rw [List.getLast?_concat, Option.some_inj] at hlast
    rw [← hlast]
    rcases List.mem_append.mp h with h | h
    · have hhigh := (mem_descriptors h).2
      simp only
      omega
    · rw [List.mem_singleton.mp h]

/-- Samples behind headers of the same length are where their descriptors say. -/
theorem bytesAt_descriptors {gap : Nat} {header : MediaSample → Bytes}
    (hgap : ∀ s, (header s).length = gap) (back : Bytes) (ss : List MediaSample)
    {front file : Bytes}
    (hfile : file = front ++ ((ss.flatMap fun s => header s ++ s.data) ++ back)) :
    List.Forall₂ (fun o s => bytesAt file (o, s.data.length) = some s.data)
      ((descriptors gap front.length ss).map Sample.offset) ss := by
  induction ss generalizing front with
  | nil => exact .nil
  | cons s ss ih =>
      let rest := (ss.flatMap fun s => header s ++ s.data) ++ back
      have hhead : bytesAt file (front.length + gap, s.data.length) = some s.data := by
        have hsplit : file = (front ++ header s) ++ (s.data ++ rest) := by
          rw [hfile, List.flatMap_cons]
          simp only [rest, List.append_assoc]
        have hlength : (front ++ header s).length = front.length + gap := by
          rw [List.length_append, hgap]
        rw [hsplit, ← hlength]
        exact bytesAt_between _ _ _
      have hnext : (front ++ header s ++ s.data).length = front.length + gap + s.data.length := by
        rw [List.length_append, List.length_append, hgap]
      have hsplit : file = (front ++ header s ++ s.data) ++ rest := by
        rw [hfile, List.flatMap_cons]
        simp only [rest, List.append_assoc]
      have htail := ih hsplit
      rw [hnext] at htail
      exact .cons hhead htail

/-- The descriptors of a track whose index can have its size. -/
theorem fits_descriptors {gap pos : Nat} {ss : List MediaSample} {enableFragmentation : Bool}
    {tr : Track}
    (hsize : (spell (tableBoxes enableFragmentation (descriptors gap pos ss) tr)).length < 256 ^ 4)
    (hsamples : ∀ s ∈ ss, s.data.length < 256 ^ 4 ∧ s.duration < 256 ^ 4) :
    Fits (descriptors gap pos ss) where
  count := by
    have hsizes : (stszContent (descriptors gap pos ss)).length =
        12 + 4 * (descriptors gap pos ss).length := by
      simp [stszContent, List.length_flatMap]
      omega
    simp only [tableBoxes, List.cons_append, spell_cons, List.length_append, boxed_length,
      hsizes] at hsize
    omega
  size d hd := by
    rcases mem_descriptors hd with ⟨⟨s, hs, hlength, -⟩, -⟩
    rw [hlength]
    exact (hsamples s hs).1
  duration d hd := by
    rcases mem_descriptors hd with ⟨⟨s, hs, -, hduration⟩, -⟩
    rw [hduration]
    exact (hsamples s hs).2

/-- Without `BOX_stss` there are the other tables. -/
theorem content_tables {name : Nat} (enableFragmentation : Bool) (samples : List Sample)
    (tr : Track) (hname : name ≠ fourCharInt 's' 't' 's' 's') :
    content name (placed 0 (tableBoxes enableFragmentation samples tr)) =
      ((tableBoxes enableFragmentation samples tr).take 5 |>.find? fun b => b.name = name).map
        Box.content := by
  have hnone : (syncBoxes samples).find? (fun b => decide (b.name = name)) = none := by
    unfold syncBoxes
    split
    · rfl
    · rw [List.find?_cons, decide_eq_false (Ne.symm hname)]
      rfl
  rw [content_placed, tableBoxes, List.find?_append, hnone, Option.or_none]
  rfl

/-- The offsets in either table. -/
theorem offsetsOf_tables {enableFragmentation : Bool} (gap pos : Nat) (ss : List MediaSample)
    {tr : Track} (hfits : Fits (descriptors gap pos ss)) (hend : pos + span gap ss < 256 ^ 8) :
    offsetsOf (placed 0 (tableBoxes enableFragmentation (descriptors gap pos ss) tr)) =
      some ((descriptors gap pos ss).map Sample.offset) := by
  let samples := descriptors gap pos ss
  unfold offsetsOf
  rw [content_tables _ _ _ (by decide), content_tables _ _ _ (by decide), tableBoxes]
  by_cases hbig : (samples.getLast?.any fun s => 0xffffffff < s.offset) = true
  · have hbox : offsetsBox samples = ⟨fourCharInt 'c' 'o' '6' '4', co64Content samples⟩ :=
      if_pos hbig
    rw [hbox]
    refine co64_read hfits ?_
    intro s hs
    exact Nat.lt_of_le_of_lt (mem_descriptors hs).2 hend
  · have hbox : offsetsBox samples = ⟨fourCharInt 's' 't' 'c' 'o', stcoContent samples⟩ :=
      if_neg hbig
    rw [hbox]
    refine stco_read hfits ?_
    intro s hs
    cases hlast : samples.getLast? with
    | none =>
        rw [List.getLast?_eq_none_iff.mp hlast] at hs
        exact absurd hs List.not_mem_nil
    | some last =>
        have hle := descriptors_last hs hlast
        rw [hlast] at hbig
        simp only [Option.any_some, decide_eq_true_eq] at hbig
        omega

/-- The marks of the samples. -/
theorem syncOf_tables (enableFragmentation : Bool) {samples : List Sample} (tr : Track)
    (hfits : Fits samples) :
    ∃ sync, syncOf (placed 0 (tableBoxes enableFragmentation samples tr)) = some sync ∧
      ∀ i s, samples[i]? = some s → sync (i + 1) = s.flagRandomAccess := by
  have hfirst : ((tableBoxes enableFragmentation samples tr).take 5).find?
      (fun b => decide (b.name = code 's' 't' 's' 's')) = none := by
    unfold tableBoxes offsetsBox
    split
    · rfl
    · rfl
  have hcontent : content (code 's' 't' 's' 's')
      (placed 0 (tableBoxes enableFragmentation samples tr)) =
      ((syncBoxes samples).find? fun b => b.name = code 's' 't' 's' 's').map Box.content := by
    have hsplit : tableBoxes enableFragmentation samples tr =
        (tableBoxes enableFragmentation samples tr).take 5 ++ syncBoxes samples := rfl
    rw [content_placed, hsplit, List.find?_append, hfirst, Option.none_or]
  unfold syncOf
  rw [hcontent]
  by_cases hall : samples.countP Sample.flagRandomAccess = samples.length
  · have hnone : syncBoxes samples = [] := if_pos hall
    rw [hnone]
    refine ⟨fun _ => true, rfl, ?_⟩
    intro i s hget
    exact (List.countP_eq_length.mp hall s (List.mem_of_getElem? hget)).symm
  · have hbox : syncBoxes samples = [⟨fourCharInt 's' 't' 's' 's', stssContent samples⟩] :=
      if_neg hall
    rw [hbox]
    refine ⟨fun n => (syncNumbers samples).contains n, ?_, fun i s => syncNumbers_contains⟩
    change (run syncSamples (stssContent samples)).map _ = _
    rw [stss_read hfits]
    rfl

/-- The samples that the index of a track leads to. -/
theorem indexedSamples_trak {gap ntr : Nat} {header : MediaSample → Bytes}
    (hgap : ∀ s, (header s).length = gap) {front back file : Bytes} {ss : List MediaSample}
    (hfile : file = front ++ ((ss.flatMap fun s => header s ++ s.data) ++ back))
    (hlength : file.length < 256 ^ 8)
    (hsamples : ∀ s ∈ ss, s.data.length < 256 ^ 4 ∧ s.duration < 256 ^ 4) {tr : Track}
    (hsize : (trakContent false ntr (descriptors gap front.length ss) tr).length < 256 ^ 4) :
    indexedSamples file (trakContent false ntr (descriptors gap front.length ss) tr) =
      some ss := by
  let samples := descriptors gap front.length ss
  rcases descend_tables hsize with ⟨hpath, htables⟩
  have hfits : Fits samples := fits_descriptors htables hsamples
  have hend : front.length + span gap ss < 256 ^ 8 := by
    have hspan : span gap ss = (ss.flatMap fun s => header s ++ s.data).length := by
      simp only [span, List.length_flatMap, List.length_append, hgap]
    rw [hfile, List.length_append, List.length_append] at hlength
    omega
  rcases syncOf_tables false tr hfits with ⟨sync, hsync, hmarks⟩
  let bs := placed 0 (tableBoxes false samples tr)
  have hstts : content (code 's' 't' 't' 's') bs = some (sttsContent samples) :=
    (content_tables false samples tr (by decide)).trans rfl
  have hstsz : content (code 's' 't' 's' 'z') bs = some (stszContent samples) :=
    (content_tables false samples tr (by decide)).trans rfl
  have hstsc : content (code 's' 't' 's' 'c') bs = some (stscContent false) :=
    (content_tables false samples tr (by decide)).trans rfl
  have hruns : (content (code 's' 't' 't' 's') bs).bind (run timeToSample) =
      some (sttsEntries 1 samples) := by
    rw [hstts, Option.bind_some, stts_read hfits]
  have hentries : (content (code 's' 't' 's' 'c') bs).bind (run sampleToChunk) =
      some [(1, 1)] := by
    rw [hstsc, Option.bind_some, stsc_read]
  refine indexedSamples_eq hpath (spells_spell (named_tableBoxes _ _ _) htables 0) hruns ?_ ?_
    hentries ?_ (offsetsOf_tables gap front.length ss hfits hend) hsync ?_
    (bytesAt_descriptors hgap back ss hfile)
  · rw [expand_stts, descriptors_durations]
  · rw [hstsz, Option.bind_some, stsz_read hfits, descriptors_sizes]
  · intro i _
    exact samplesInChunk_one (Nat.succ_le_succ (Nat.zero_le i))
  · intro i s hget
    rcases descriptors_getElem? gap front.length hget with ⟨offset, hdescriptor⟩
    exact hmarks i _ hdescriptor

end Minimp4
end PixelPilot
