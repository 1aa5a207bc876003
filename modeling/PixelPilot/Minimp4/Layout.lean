import PixelPilot.Library.MediaFile
import PixelPilot.Library.PositionedWrites
import PixelPilot.Minimp4.Timeline

/-!
# The layout of a recording

What the file of a muxer holds after any number of samples, and what the muxer knows about
it: in standard mode the data of the samples one behind the other, in sequential mode a box
for each sample but the last, and in fragmented mode an index of no samples and two boxes for
each sample.

The callback stores what it is given and there is memory; the samples go to the only track.

Main results:

- Definition `Layout`: the file of a muxer that was given some samples.
- Theorem `mp4eOpen_layout`: a new muxer was given none.
- Theorem `Layout.put`: `MP4E_put_sample` completes, and the layout has one sample more.
- Theorem `Layout.writeNals`: an access unit adds a sample for each NAL unit but the parameter
  sets, unless it is refused.
- Theorem `Layout.close`: `MP4E_close` completes and leaves a finished file.
-/

namespace PixelPilot
namespace Minimp4

open Fallible PositionedWrites MediaFile

/-! ## Files -/

/-- The data of samples one behind the other. -/
def dataOf (ss : List MediaSample) : Bytes :=
  ss.flatMap MediaSample.data

/-- Sample data in a box of their own. -/
def mdat (data : Bytes) : Bytes :=
  atom (fourCharInt 'm' 'd' 'a' 't') data

/-- Samples in boxes of their own. -/
def chunks (ss : List MediaSample) : Bytes :=
  ss.flatMap fun s => mdat s.data

/-- The kind of a sample. -/
def kindOf (sync : Bool) : SampleKind :=
  if sync then .randomAccess else .default

/-- The boxes of the samples numbered from `n` on. -/
def fragments : Nat → List MediaSample → Bytes
  | _, [] => []
  | n, s :: ss =>
      boxMoof n 0 s.data.length s.duration (kindOf s.sync) ++ mdat s.data ++ fragments (n + 1) ss

/-- The descriptors of samples from the position `pos` on, with `gap` bytes in front of each. -/
def descriptors (gap : Nat) : Nat → List MediaSample → List Sample
  | _, [] => []
  | pos, s :: ss =>
      { size := s.data.length, offset := pos + gap, duration := s.duration,
        flagRandomAccess := s.sync } ::
        descriptors gap (pos + gap + s.data.length) ss

@[simp]
theorem dataOf_append (ss ss' : List MediaSample) :
    dataOf (ss ++ ss') = dataOf ss ++ dataOf ss' :=
  List.flatMap_append

@[simp]
theorem chunks_append (ss ss' : List MediaSample) :
    chunks (ss ++ ss') = chunks ss ++ chunks ss' :=
  List.flatMap_append

@[simp]
theorem dataOf_singleton (s : MediaSample) : dataOf [s] = s.data := by
  simp [dataOf]

@[simp]
theorem chunks_singleton (s : MediaSample) : chunks [s] = mdat s.data := by
  simp [chunks]

@[simp]
theorem mdat_length (data : Bytes) : (mdat data).length = data.length + 8 :=
  atom_length _ _

/-- One sample more is one fragment more, at the end. -/
theorem fragments_concat (n : Nat) (ss : List MediaSample) (s : MediaSample) :
    fragments n (ss ++ [s]) =
      fragments n ss ++
        (boxMoof (n + ss.length) 0 s.data.length s.duration (kindOf s.sync) ++ mdat s.data) := by
  induction ss generalizing n with
  | nil => simp [fragments]
  | cons a ss ih =>
      have hnumber : n + (ss.length + 1) = n + 1 + ss.length := by omega
      simp only [List.cons_append, fragments, ih, List.length_cons, hnumber, List.append_assoc]

/-- The fragments of more samples follow. -/
theorem fragments_append (n : Nat) (ss ss' : List MediaSample) :
    fragments n (ss ++ ss') = fragments n ss ++ fragments (n + ss.length) ss' := by
  induction ss generalizing n with
  | nil => rfl
  | cons a ss ih =>
      have hnumber : n + (ss.length + 1) = n + 1 + ss.length := by omega
      simp only [List.cons_append, fragments, ih, List.length_cons, hnumber, List.append_assoc]

/-- The number of bytes that the descriptors of samples cover. -/
def span (gap : Nat) (ss : List MediaSample) : Nat :=
  (ss.map fun s => gap + s.data.length).sum

/-- Its descriptor follows those before it. -/
theorem descriptors_concat (gap pos : Nat) (ss : List MediaSample) (s : MediaSample) :
    descriptors gap pos (ss ++ [s]) =
      descriptors gap pos ss ++
        [{ size := s.data.length, offset := pos + span gap ss + gap, duration := s.duration,
           flagRandomAccess := s.sync }] := by
  induction ss generalizing pos with
  | nil => simp [descriptors, span]
  | cons a ss ih =>
      have hnext : pos + gap + a.data.length + span gap ss = pos + span gap (a :: ss) := by
        simp only [span, List.map_cons, List.sum_cons]
        omega
      simp only [List.cons_append, descriptors, ih, hnext]

@[simp]
theorem descriptors_length (gap pos : Nat) (ss : List MediaSample) :
    (descriptors gap pos ss).length = ss.length := by
  induction ss generalizing pos with
  | nil => rfl
  | cons s ss ih => simp only [descriptors, List.length_cons, ih]

/-- Without boxes the samples take as many bytes as they have. -/
theorem span_zero (ss : List MediaSample) : span 0 ss = (dataOf ss).length := by
  simp [span, dataOf, List.length_flatMap]

/-- With a box each they take those of the boxes. -/
theorem span_eight (ss : List MediaSample) : span 8 ss = (chunks ss).length := by
  simp only [span, chunks, List.length_flatMap, mdat_length, Nat.add_comm]

/-- `dataOf` of samples that are not there yet. -/
@[simp]
theorem dataOf_nil : dataOf [] = [] :=
  rfl

@[simp]
theorem chunks_nil : chunks [] = [] :=
  rfl

/-! ## Memory -/

/-- There is memory for whatever comes. -/
def Ample (allocs : List Bool) : Prop :=
  ∀ answer ∈ allocs, answer = true

theorem Ample.head {allocs : List Bool} (h : Ample allocs) : allocs.headD true = true := by
  cases allocs with
  | nil => rfl
  | cons answer rest => exact h answer List.mem_cons_self

theorem Ample.tail {allocs : List Bool} (h : Ample allocs) : Ample allocs.tail :=
  fun answer hmem => h answer (List.mem_of_mem_tail hmem)

/-- A vector that was never allocated has no elements. -/
def Vec.Sound {α : Type} (v : Vec α) : Prop :=
  v.allocated = false → v.data = []

theorem Vec.Sound.of_allocated {α : Type} {v : Vec α} (h : v.allocated = true) : v.Sound :=
  fun hfalse => absurd (h.symm.trans hfalse) (by decide)

/-- With enough memory an allocation is granted. -/
theorem malloc_ample {allocs : List Bool} (h : Ample allocs) :
    malloc allocs = (true, allocs.tail) := by
  rw [malloc, h.head]

/-- With memory a vector grows. -/
theorem minimp4VectorGrow_ample {α : Type} (v : Vec α) (bytes : Nat) {allocs : List Bool}
    (h : Ample allocs) :
    ∃ capacity, minimp4VectorGrow v bytes allocs =
      ((true, { v with capacity := capacity }), allocs.tail) := by
  have hrun : minimp4VectorGrow v bytes allocs =
      (((malloc allocs).1,
        if (malloc allocs).1 then
          { v with capacity :=
            if v.capacity * 2 + 1024 < v.capacity + bytes then v.capacity + bytes + 1024
            else v.capacity * 2 + 1024 }
        else v), (malloc allocs).2) := rfl
  rw [hrun, malloc_ample h]
  exact ⟨_, rfl⟩

/-- With memory there is room. -/
theorem minimp4VectorAllocTail_ample {α : Type} (sizeof bytes : Nat) {v : Vec α}
    (hv : v.Sound) {allocs : List Bool} (h : Ample allocs) :
    ∃ capacity allocs', minimp4VectorAllocTail sizeof v bytes allocs =
      ((true, { data := v.data, allocated := true, capacity := capacity }), allocs') ∧
      Ample allocs' := by
  by_cases hallocated : v.allocated = true
  · have hrun : minimp4VectorAllocTail sizeof v bytes allocs =
        (if v.capacity - v.data.length * sizeof < bytes then minimp4VectorGrow v bytes
          else pure (true, v) : Alloc (Bool × Vec α)) allocs := by
      unfold minimp4VectorAllocTail
      rw [hallocated, if_pos rfl]
      rfl
    have hsame : v = { data := v.data, allocated := true, capacity := v.capacity } := by
      rw [← hallocated]
    rw [hrun]
    split
    · rcases minimp4VectorGrow_ample v bytes h with ⟨capacity, hgrow⟩
      rw [hallocated] at hgrow
      exact ⟨capacity, allocs.tail, hgrow, h.tail⟩
    · refine ⟨v.capacity, allocs, ?_, h⟩
      rw [← hsame]
      rfl
  · -- a new vector has room for twice the bytes
    rw [Bool.not_eq_true] at hallocated
    let r : (Bool × Vec α) × List Bool :=
      (((malloc allocs).1,
        { data := [], allocated := (malloc allocs).1, capacity := 2 * bytes + 1024 }),
        (malloc allocs).2)
    have hrun : minimp4VectorAllocTail sizeof v bytes allocs =
        (if !r.1.1 then pure r.1
          else if r.1.2.capacity - r.1.2.data.length * sizeof < bytes then
            minimp4VectorGrow r.1.2 bytes
          else pure r.1 : Alloc (Bool × Vec α)) r.2 := by
      unfold minimp4VectorAllocTail
      rw [hallocated, if_neg Bool.false_ne_true]
      rfl
    have hr : r = ((true, { data := [], allocated := true, capacity := 2 * bytes + 1024 }),
        allocs.tail) := by
      simp only [r, malloc_ample h]
    have hroom : ¬ 2 * bytes + 1024 - 0 * sizeof < bytes := by omega
    rw [hrun, hr, hv hallocated]
    simp only [Bool.not_true, Bool.false_eq_true, if_false, List.length_nil, hroom]
    exact ⟨_, allocs.tail, rfl, h.tail⟩

/-- With memory elements are appended. -/
theorem minimp4VectorPut_ample {α : Type} (sizeof : Nat) {v : Vec α} (hv : v.Sound)
    (buf : List α) {allocs : List Bool} (h : Ample allocs) :
    ∃ capacity allocs', minimp4VectorPut sizeof v buf allocs =
      ((true, { data := v.data ++ buf, allocated := true, capacity := capacity }), allocs') ∧
      Ample allocs' := by
  let r := minimp4VectorAllocTail sizeof v (buf.length * sizeof) allocs
  have hrun : minimp4VectorPut sizeof v buf allocs =
      ((r.1.1, if r.1.1 then { r.1.2 with data := r.1.2.data ++ buf } else r.1.2), r.2) := rfl
  rcases minimp4VectorAllocTail_ample sizeof (buf.length * sizeof) hv h with
    ⟨capacity, allocs', htail, hample⟩
  have hr : r = ((true, { data := v.data, allocated := true, capacity := capacity }),
    allocs') := htail
  refine ⟨capacity, allocs', ?_, hample⟩
  rw [hrun, hr]
  rfl

/-! ## Writes that succeed -/

section Callback

variable {τ : Type} {writeCallback : Nat → Bytes → τ → Int × τ}
variable {content : τ → Bytes} {good : τ → Prop} {fragmentation : Bool}

/-- From a good token on, the callback stores what it is given. -/
structure Stores (writeCallback : Nat → Bytes → τ → Int × τ) (content : τ → Bytes)
    (good : τ → Prop) : Prop where
  returns : ∀ {t}, good t → ∀ offset buffer, (writeCallback offset buffer t).1 = 0
  stays : ∀ {t}, good t → ∀ offset buffer, good (writeCallback offset buffer t).2
  stored : ∀ {t}, good t → ∀ offset buffer,
    content (writeCallback offset buffer t).2 = overwrite 0 offset buffer (content t)

/-- Nothing will fail. -/
structure Fair (good : τ → Prop) (s : Muxing τ) : Prop where
  token : good s.token
  allocs : Ample s.allocs

/-- The state after a write at `write_pos`. -/
def Muxing.wrote (writeCallback : Nat → Bytes → τ → Int × τ) (buffer : Bytes) (s : Muxing τ) :
    Muxing τ :=
  { s with token := (writeCallback s.mux.writePos buffer s.token).2 }.advance buffer.length

/-- On a good stream the callback fails no write. -/
theorem callback_good (h : Stores writeCallback content good) {s : Muxing τ}
    (hgood : good s.token) (offset : Nat) (buffer : Bytes) :
    callback writeCallback offset buffer s =
      .ok ⟨⟩ { s with token := (writeCallback offset buffer s.token).2 } := by
  unfold callback
  simp only [h.returns hgood, if_true]

/-- On a good stream a write that others follow succeeds. -/
theorem writeNext_good (h : Stores writeCallback content good) {s : Muxing τ}
    (hgood : good s.token) (buffer : Bytes) :
    writeNext writeCallback buffer s = .ok ⟨⟩ (s.wrote writeCallback buffer) := by
  have hrun : writeNext writeCallback buffer s =
      (callback writeCallback s.mux.writePos buffer >>= fun _ =>
        modify fun s => s.advance buffer.length : Mp4 τ PUnit) s := rfl
  rw [hrun, bind_ok (callback_good h hgood _ _)]
  rfl

/-- On a good stream the last write of a box succeeds. -/
theorem writeLast_good (h : Stores writeCallback content good) {s : Muxing τ}
    (hgood : good s.token) (buffer : Bytes) :
    writeLast writeCallback buffer s = .ok ⟨⟩ (s.wrote writeCallback buffer) := by
  unfold writeLast
  rw [callback_good h hgood]
  rfl

/-- A write at the end of the file. -/
theorem content_wrote (h : Stores writeCallback content good) {s : Muxing τ}
    (hgood : good s.token) (hend : s.mux.writePos = (content s.token).length)
    (buffer : Bytes) :
    content (s.wrote writeCallback buffer).token = content s.token ++ buffer ∧
      (s.wrote writeCallback buffer).mux.writePos =
        (content (s.wrote writeCallback buffer).token).length := by
  have hcontent : content (s.wrote writeCallback buffer).token = content s.token ++ buffer := by
    have hstored := h.stored hgood s.mux.writePos buffer
    rw [hend, overwrite_end, ← hend] at hstored
    exact hstored
  refine ⟨hcontent, ?_⟩
  rw [hcontent, List.length_append, ← hend]
  rfl

/-! ## Layouts -/

/-- What stands behind `ftyp` in standard mode: a part of a header that the index will
overwrite. -/
def opening (ss : List MediaSample) : Bytes :=
  if ss.isEmpty then boxFtyp.take 8 else boxFtyp.take 8 ++ List.replicate 8 0

/-- Standard mode: the data of the samples are one behind the other. -/
structure StandardLayout (mux : Mux) (file : Bytes) (ss : List MediaSample) : Prop where
  sequentialModeFlag : mux.sequentialModeFlag = false
  enableFragmentation : mux.enableFragmentation = false
  writePos : mux.writePos = 40 + (dataOf ss).length
  samples : (mux.track 0).smpl.data = descriptors 0 40 ss
  pending : (mux.track 0).pendingSample.data = []
  file : file = boxFtyp ++ opening ss ++ dataOf ss

/-- The descriptor of the sample that is kept back, at the place its box will take. -/
def provisional (pos : Nat) (s : MediaSample) : Sample :=
  { size := s.data.length, offset := pos, duration := s.duration, flagRandomAccess := s.sync }

/-- Sequential mode: each sample has its box, but the last may still be kept back. -/
structure SequentialLayout (mux : Mux) (file : Bytes) (done : List MediaSample)
    (last : Option MediaSample) : Prop where
  sequentialModeFlag : mux.sequentialModeFlag = true
  enableFragmentation : mux.enableFragmentation = false
  writePos : mux.writePos = 24 + (chunks done).length
  samples : (mux.track 0).smpl.data =
    descriptors 8 24 done ++ last.toList.map (provisional mux.writePos)
  pending : (mux.track 0).pendingSample.data = dataOf last.toList
  nonempty : ∀ s ∈ last, s.data ≠ []
  file : file = boxFtyp ++ chunks done

/-- The bytes of the parameter sets of a track. -/
def Track.setBytes (tr : Track) : Nat :=
  tr.vvps.data.length + tr.vsps.data.length + tr.vpps.data.length

/-- The one track has no longer parameter sets than the other. -/
def Track.Smaller (tr tr' : Track) : Prop :=
  ∀ kind, (tr.parameterSets kind).data.length ≤ (tr'.parameterSets kind).data.length

theorem Track.Smaller.refl (tr : Track) : tr.Smaller tr :=
  fun _ => Nat.le_refl _

theorem Track.Smaller.trans {tr tr' tr'' : Track} (h : tr.Smaller tr') (h' : tr'.Smaller tr'') :
    tr.Smaller tr'' :=
  fun kind => (h kind).trans (h' kind)

/-- A smaller track has no more bytes of parameter sets. -/
theorem Track.Smaller.setBytes {tr tr' : Track} (h : tr.Smaller tr') :
    tr.setBytes ≤ tr'.setBytes := by
  have hvps := h .vps
  have hsps := h .sps
  have hpps := h .pps
  simp only [Track.parameterSets] at hvps hsps hpps
  unfold Track.setBytes
  omega

/-- What stands behind `ftyp` in fragmented mode: with the first sample comes the index of an
empty track. -/
def fragmentedPart (tr : Track) (ss : List MediaSample) : Bytes :=
  if ss.isEmpty then [] else boxMoov true [tr] ++ fragments 1 ss

/-- Fragmented mode: each sample has two boxes. -/
structure FragmentedLayout (mux : Mux) (file : Bytes) (ss : List MediaSample) : Prop where
  sequentialModeFlag : mux.sequentialModeFlag = true
  enableFragmentation : mux.enableFragmentation = true
  fragmentsCount : mux.fragmentsCount = ss.length
  writePos : mux.writePos = file.length
  samples : (mux.track 0).smpl.data = []
  pending : (mux.track 0).pendingSample.data = []
  file : ∃ tr : Track, tr.smpl.data = [] ∧ tr.Smaller (mux.track 0) ∧
    file = boxFtyp ++ fragmentedPart tr ss

/-- The file of a muxer that was given the samples, with or without fragmentation. -/
inductive Layout (mux : Mux) (file : Bytes) : Bool → List MediaSample → Prop
  | standard {ss : List MediaSample} : StandardLayout mux file ss → Layout mux file false ss
  | sequential {done : List MediaSample} {last : Option MediaSample} :
      SequentialLayout mux file done last → Layout mux file false (done ++ last.toList)
  | fragmented {ss : List MediaSample} : FragmentedLayout mux file ss → Layout mux file true ss

/-- The only track, as `mp4_h26x_write_init` adds it and the samples leave it. -/
structure OnlyTrack (mux : Mux) (tr : Track) : Prop where
  tracks : mux.tracks = [tr]
  smpl : tr.smpl.allocated = true
  pendingSample : tr.pendingSample.Sound
  sets : ∀ kind, (tr.parameterSets kind).Sound

/-- Track 0 is the only one. -/
theorem OnlyTrack.track {mux : Mux} {tr : Track} (h : OnlyTrack mux tr) : mux.track 0 = tr := by
  rw [Mux.track, h.tracks]
  rfl

/-- The parameter sets of a track. -/
def Track.Holds (tr : Track) (sets : ParameterSet → Bytes) : Prop :=
  ∀ kind, (tr.parameterSets kind).data = sets kind

/-- The bytes that parameter sets take in the index. -/
def bytesOfSets (sets : ParameterSet → Bytes) : Nat :=
  (sets .vps).length + (sets .sps).length + (sets .pps).length

/-- The bytes that are kept are those of the parameter sets. -/
theorem Track.Holds.setBytes {tr : Track} {sets : ParameterSet → Bytes} (h : tr.Holds sets) :
    tr.setBytes = bytesOfSets sets := by
  rw [bytesOfSets, ← h .vps, ← h .sps, ← h .pps]
  rfl

/-- Nothing will fail, and there is one track, with these parameter sets. -/
structure Working (good : τ → Prop) (sets : ParameterSet → Bytes) (writer : H26xWriter)
    (s : Muxing τ) : Prop where
  fair : Fair good s
  track : ∃ tr, OnlyTrack s.mux tr ∧ tr.Holds sets
  writer : s.writer = writer

/-- What a layout depends on. -/
theorem Layout.congr {mux mux' : Mux} {file : Bytes} {ss : List MediaSample}
    (hlayout : Layout mux file fragmentation ss)
    (hsequential : mux'.sequentialModeFlag = mux.sequentialModeFlag)
    (hfragmented : mux'.enableFragmentation = mux.enableFragmentation)
    (hcount : mux'.fragmentsCount = mux.fragmentsCount) (hpos : mux'.writePos = mux.writePos)
    (hsmpl : (mux'.track 0).smpl.data = (mux.track 0).smpl.data)
    (hpending : (mux'.track 0).pendingSample.data = (mux.track 0).pendingSample.data)
    (hsets : (mux.track 0).Smaller (mux'.track 0)) :
    Layout mux' file fragmentation ss := by
  cases hlayout with
  | standard hlayout =>
      exact .standard ⟨hsequential.trans hlayout.sequentialModeFlag,
        hfragmented.trans hlayout.enableFragmentation, hpos.trans hlayout.writePos,
        hsmpl.trans hlayout.samples, hpending.trans hlayout.pending, hlayout.file⟩
  | sequential hlayout =>
      exact .sequential ⟨hsequential.trans hlayout.sequentialModeFlag,
        hfragmented.trans hlayout.enableFragmentation, hpos.trans hlayout.writePos,
        by rw [hsmpl, hpos]; exact hlayout.samples, hpending.trans hlayout.pending,
        hlayout.nonempty, hlayout.file⟩
  | fragmented hlayout =>
      rcases hlayout.file with ⟨tr, hnone, hsmaller, hfile⟩
      exact .fragmented ⟨hsequential.trans hlayout.sequentialModeFlag,
        hfragmented.trans hlayout.enableFragmentation, hcount.trans hlayout.fragmentsCount,
        hpos.trans hlayout.writePos, hsmpl.trans hlayout.samples,
        hpending.trans hlayout.pending, tr, hnone, hsmaller.trans hsets, hfile⟩

/-! ## Opening -/

/-- A new muxer was given no samples. -/
theorem mp4eOpen_layout (h : Stores writeCallback content good)
    (sequentialModeFlag enableFragmentation : Bool) {token : τ} {allocs : List Bool}
    (hgood : good token) (hample : Ample allocs) (hempty : content token = []) :
    ∃ mux token', mp4eOpen writeCallback sequentialModeFlag enableFragmentation token allocs =
        (some mux, token', allocs.tail) ∧
      Layout mux (content token') enableFragmentation [] ∧ mux.tracks = [] ∧ good token' := by
  let token₁ := (writeCallback 0 boxFtyp token).2
  have hgood₁ : good token₁ := h.stays hgood _ _
  have hftyp : content token₁ = boxFtyp := by
    have hstored := h.stored hgood 0 boxFtyp
    rw [hempty] at hstored
    exact hstored
  let mux : Mux :=
    { writePos := boxFtyp.length, sequentialModeFlag := sequentialModeFlag || enableFragmentation,
      enableFragmentation := enableFragmentation }
  unfold mp4eOpen
  simp only [h.returns hgood, ne_eq, not_true_eq_false, if_false, malloc_ample hample,
    Bool.not_true, Bool.false_eq_true]
  by_cases hmode : (sequentialModeFlag || enableFragmentation) = true
  · have hlayout : Layout mux (content token₁) enableFragmentation [] := by
      rw [hftyp]
      cases hfragmented : enableFragmentation with
      | true =>
          exact .fragmented ⟨hmode, hfragmented, rfl, rfl, rfl, rfl, {}, rfl,
            .refl {}, rfl⟩
      | false =>
          have hsequential : SequentialLayout mux boxFtyp [] none :=
            ⟨hmode, hfragmented, rfl, rfl, rfl, fun _ hnone => absurd hnone (by simp), rfl⟩
          exact .sequential hsequential
    rw [if_neg (by simp [hmode])]
    exact ⟨mux, token₁, rfl, hlayout, rfl, hgood₁⟩
  · rw [Bool.not_eq_true] at hmode
    have hfiller := h.stored hgood₁ boxFtyp.length (boxFtyp.take 8)
    have hflags := hmode
    rw [Bool.or_eq_false_iff] at hflags
    rw [hftyp, overwrite_end] at hfiller
    rw [if_pos (by simp [hmode])]
    rw [if_neg (not_not.mpr (h.returns hgood₁ _ _))]
    rw [hflags.2] at hmode ⊢
    refine ⟨_, _, rfl, .standard ⟨hmode, rfl, rfl, rfl, rfl, ?_⟩, rfl, h.stays hgood₁ _ _⟩
    exact hfiller.trans (List.append_nil _).symm

/-- The only track, when it is new. -/
theorem mp4H26xWriteInit_layout {mux : Mux} {file : Bytes} {ss : List MediaSample}
    (hlayout : Layout mux file fragmentation ss) (htracks : mux.tracks = []) (width height : Nat) :
    Layout (mp4H26xWriteInit mux width height).2.2 file fragmentation ss ∧
      ∃ tr, OnlyTrack (mp4H26xWriteInit mux width height).2.2 tr ∧ tr.Holds fun _ => [] := by
  let tr : Track :=
    { width := width, height := height, smpl := { allocated := true, capacity := 256 } }
  have hnew : (mp4H26xWriteInit mux width height).2.2 = { mux with tracks := [tr] } := by
    simp [mp4H26xWriteInit, mp4eAddTrack, htracks, tr]
  have hnone : mux.track 0 = {} := by
    rw [Mux.track, htracks]
    rfl
  rw [hnew]
  refine ⟨hlayout.congr rfl rfl rfl rfl ?_ ?_ ?_, tr, ⟨rfl, rfl, fun _ => rfl, ?_⟩, ?_⟩
  · rw [hnone]
    rfl
  · rw [hnone]
    rfl
  · rw [hnone]
    exact .refl {}
  · intro kind _
    cases kind <;> rfl
  · intro kind
    cases kind <;> rfl

/-! ## Putting a sample -/

/-- The state with another only track. -/
def Muxing.withTrack (tr : Track) (s : Muxing τ) : Muxing τ :=
  { s with mux := { s.mux with tracks := [tr] } }

/-- A change of track 0 changes the only track. -/
theorem mapTrack_only {s : Muxing τ} {tr : Track} (h : s.mux.tracks = [tr])
    (f : Track → Track) : s.mapTrack 0 f = s.withTrack (f tr) := by
  simp [Muxing.mapTrack, Muxing.withTrack, h]

/-- The track with one descriptor more. -/
def Track.described (smp : Sample) (capacity : Nat) (tr : Track) : Track :=
  { tr with smpl :=
    { data := tr.smpl.data ++ [smp], allocated := true, capacity := capacity } }

/-- A new descriptor in the only track. -/
theorem addSampleDescriptor_fair {s : Muxing τ} {tr : Track} (hs : Fair good s)
    (htrack : OnlyTrack s.mux tr) (bytes d : Nat) (sync : Bool) :
    ∃ capacity allocs, Ample allocs ∧
      addSampleDescriptor 0 bytes d (kindOf sync) s =
        .ok true ({ s with allocs := allocs }.withTrack
          (tr.described ⟨bytes, s.mux.writePos, d, sync⟩ capacity)) := by
  let smp : Sample :=
    { size := bytes, offset := s.mux.writePos, duration := if d ≠ 0 then d else defaultDuration,
      flagRandomAccess := kindOf sync = .randomAccess }
  have hsmp : smp = ⟨bytes, s.mux.writePos, d, sync⟩ := by
    have hduration : (if d ≠ 0 then d else defaultDuration) = d := by
      split
      · rfl
      · rename_i hzero
        simpa [defaultDuration] using (not_not.mp hzero).symm
    cases sync <;> simp [smp, hduration, kindOf]
  have hsound : tr.smpl.Sound := .of_allocated htrack.smpl
  rcases minimp4VectorPut_ample sizeofSample hsound [smp] hs.allocs with
    ⟨capacity, allocs, hput, hample⟩
  refine ⟨capacity, allocs, hample, ?_⟩
  rw [← hsmp]
  have hrun : addSampleDescriptor 0 bytes d (kindOf sync) s =
      (lift (minimp4VectorPut sizeofSample (s.mux.track 0).smpl [smp]) >>= fun r => do
        modify fun s => s.mapTrack 0 fun tr => { tr with smpl := r.2 }
        pure r.1 : Mp4 τ Bool) s := rfl
  have hlift : (lift (minimp4VectorPut sizeofSample (s.mux.track 0).smpl [smp]) :
      Mp4 τ (Bool × Vec Sample)) s = .ok (true,
        { data := tr.smpl.data ++ [smp], allocated := true, capacity := capacity })
        { s with allocs := allocs } := by
    rw [htrack.track, lift, hput]
  have hmap := mapTrack_only (s := { s with allocs := allocs }) htrack.tracks fun tr₁ =>
    { tr₁ with smpl :=
      { data := tr.smpl.data ++ [smp], allocated := true, capacity := capacity } }
  rw [hrun, bind_ok hlift]
  exact congrArg (EStateM.Result.ok true) hmap

/-- `putDescriptor` once the pending sample is out of the way. -/
theorem putDescriptor_eq (data : Bytes) (d : Nat) (sync : Bool) (s : Muxing τ) :
    putDescriptor writeCallback 0 data d (kindOf sync) s =
      (do
        onlyIf s.mux.sequentialModeFlag (writePendingData writeCallback 0)
        let ok ← addSampleDescriptor 0 data.length d (kindOf sync)
        onlyIf (ok = false) (throw mp4eStatusNoMemory) : Mp4 τ PUnit) s := by
  have hkind : kindOf sync ≠ .continuation := by
    cases sync <;> decide
  change (if kindOf sync ≠ .continuation then _ else _ : Mp4 τ PUnit) s = _
  rw [if_pos hkind]

/-- `MP4E_put_sample` of a file without fragments. -/
theorem mp4ePutSample_indexed {s : Muxing τ} (hmode : s.mux.enableFragmentation = false)
    (data : Bytes) (d : Nat) (kind : SampleKind) :
    mp4ePutSample writeCallback 0 data d kind s =
      (putDescriptor writeCallback 0 data d kind >>= fun _ =>
        putData writeCallback 0 data : Mp4 τ PUnit) s := by
  change (if s.mux.enableFragmentation then _ else _ : Mp4 τ PUnit) s = _
  rw [hmode, if_neg Bool.false_ne_true]

/-- The data of a sample more, where standard mode writes them. -/
theorem overwrite_standard (ss : List MediaSample) (s : MediaSample) :
    overwrite 0 (40 + (dataOf ss).length) s.data (boxFtyp ++ opening ss ++ dataOf ss) =
      boxFtyp ++ opening (ss ++ [s]) ++ dataOf (ss ++ [s]) := by
  have hlater : opening (ss ++ [s]) = boxFtyp.take 8 ++ List.replicate 8 0 := by
    simp [opening]
  rw [hlater, dataOf_append, dataOf_singleton]
  cases ss with
  | nil =>
      -- the gap in front of the first sample is filled
      have hgap : overwrite 0 40 s.data (boxFtyp ++ boxFtyp.take 8) =
          boxFtyp ++ boxFtyp.take 8 ++ List.replicate 8 0 ++ s.data :=
        overwrite_gap 0 s.data (by decide)
      rw [List.append_assoc boxFtyp] at hgap
      exact hgap
  | cons a ss =>
      have hlength : (boxFtyp ++ opening (a :: ss) ++ dataOf (a :: ss)).length =
          40 + (dataOf (a :: ss)).length := by
        have hfront : (boxFtyp ++ opening (a :: ss)).length = 40 := rfl
        rw [List.length_append, hfront]
      have hend := overwrite_end 0 s.data (boxFtyp ++ opening (a :: ss) ++ dataOf (a :: ss))
      rw [hlength] at hend
      rw [hend, List.append_assoc]
      rfl

/-- A sample more in standard mode. -/
theorem StandardLayout.put (h : Stores writeCallback content good) {s : Muxing τ}
    {sets : ParameterSet → Bytes} {writer : H26xWriter} {ss : List MediaSample}
    (hlayout : StandardLayout s.mux (content s.token) ss) (hs : Working good sets writer s)
    (smp : MediaSample) :
    ∃ t, mp4ePutSample writeCallback 0 smp.data smp.duration (kindOf smp.sync) s = .ok ⟨⟩ t ∧
      StandardLayout t.mux (content t.token) (ss ++ [smp]) ∧ Working good sets writer t := by
  rcases hs.track with ⟨tr, htrack, hsets⟩
  rcases addSampleDescriptor_fair hs.fair htrack smp.data.length smp.duration smp.sync with
    ⟨capacity, allocs, hample, hadd⟩
  let tr' := tr.described ⟨smp.data.length, s.mux.writePos, smp.duration, smp.sync⟩ capacity
  let t : Muxing τ := { s with allocs := allocs }.withTrack tr'
  have hdescriptor : putDescriptor writeCallback 0 smp.data smp.duration (kindOf smp.sync) s =
      .ok ⟨⟩ t := by
    have hno : ¬ s.mux.sequentialModeFlag = true := by
      rw [hlayout.sequentialModeFlag]
      exact Bool.false_ne_true
    rw [putDescriptor_eq, onlyIf_of_not hno, pure_bind, bind_ok hadd]
    rfl
  have hdata : putData writeCallback 0 smp.data t =
      .ok ⟨⟩ (t.wrote writeCallback smp.data) := by
    change (if t.mux.sequentialModeFlag then _ else writeNext writeCallback smp.data :
      Mp4 τ PUnit) t = _
    have hmode : t.mux.sequentialModeFlag = false := hlayout.sequentialModeFlag
    rw [hmode, if_neg Bool.false_ne_true]
    exact writeNext_good (s := t) h hs.fair.token smp.data
  refine ⟨t.wrote writeCallback smp.data, ?_, ?_, ⟨h.stays hs.fair.token _ _, hample⟩,
    ⟨tr', ⟨rfl, rfl, htrack.pendingSample, htrack.sets⟩, hsets⟩, hs.writer⟩
  · rw [mp4ePutSample_indexed hlayout.enableFragmentation, bind_ok hdescriptor, hdata]
  · refine ⟨hlayout.sequentialModeFlag, hlayout.enableFragmentation, ?_, ?_, ?_, ?_⟩
    · change s.mux.writePos + smp.data.length = _
      rw [hlayout.writePos, dataOf_append, dataOf_singleton, List.length_append]
      omega
    · have hsamples := hlayout.samples
      rw [htrack.track] at hsamples
      change tr.smpl.data ++ [_] = _
      rw [descriptors_concat, hsamples, hlayout.writePos, span_zero]
      rfl
    · have hpending := hlayout.pending
      rw [htrack.track] at hpending
      exact hpending
    · have hstored := h.stored hs.fair.token s.mux.writePos smp.data
      rw [hlayout.file, hlayout.writePos, overwrite_standard] at hstored
      rw [← hstored, ← hlayout.writePos]
      rfl

/-! ## Sequential mode -/

/-- A change at the last index changes the last element. -/
theorem modify_last {α : Type} (f : α → α) (l : List α) (a : α) :
    (l ++ [a]).modify l.length f = l ++ [f a] := by
  induction l with
  | nil => rfl
  | cons b l ih => simp [ih]

/-- Size and offset are entered in the last descriptor. -/
theorem completeLast_concat (size offset : Nat) (samples : List Sample) (smp : Sample) :
    completeLast size offset (samples ++ [smp]) =
      samples ++ [{ smp with size := size, offset := offset }] := by
  have hlast : (samples ++ [smp]).length - 1 = samples.length := by simp
  rw [completeLast, hlast]
  exact modify_last _ samples smp

/-- The header of the box of a pending sample. -/
def pendingHeader (data : Bytes) : Bytes :=
  write4 (data.length + 8) ++ write4 (fourCharInt 'm' 'd' 'a' 't')

/-- The track with its last descriptor completed. -/
def Track.completed (size pos : Nat) (tr : Track) : Track :=
  { tr with smpl := { tr.smpl with data := completeLast size pos tr.smpl.data } }

/-- The track without its pending sample. -/
def Track.emptied (tr : Track) : Track :=
  { tr with pendingSample := { tr.pendingSample with data := [] } }

/-- The state after the pending sample of the only track was written. -/
def Muxing.released (writeCallback : Nat → Bytes → τ → Int × τ) (tr : Track) (s : Muxing τ) :
    Muxing τ :=
  ((s.wrote writeCallback (pendingHeader tr.pendingSample.data)).wrote writeCallback
    tr.pendingSample.data).withTrack
      (tr.completed tr.pendingSample.data.length (s.mux.writePos + 8)).emptied

/-- The sample kept back is written and let go. -/
theorem writePendingData_good (h : Stores writeCallback content good) {s : Muxing τ}
    {tr : Track} (htrack : s.mux.tracks = [tr]) (hgood : good s.token)
    (hpending : tr.pendingSample.data ≠ []) (hsamples : tr.smpl.data ≠ []) :
    writePendingData writeCallback 0 s = .ok ⟨⟩ (s.released writeCallback tr) := by
  let size := tr.pendingSample.data.length
  let s₁ := s.wrote writeCallback (pendingHeader tr.pendingSample.data)
  let tr₁ := tr.completed size s₁.mux.writePos
  let s₂ := (s₁.withTrack tr₁).wrote writeCallback tr.pendingSample.data
  have htr : s.mux.track 0 = tr := by
    rw [Mux.track, htrack]
    rfl
  have hrun : writePendingData writeCallback 0 s =
      (onlyIf (0 < (s.mux.track 0).pendingSample.data.length ∧
          sizeofSample ≤ (s.mux.track 0).smpl.data.length * sizeofSample) do
        writeNext writeCallback (pendingHeader (s.mux.track 0).pendingSample.data)
        modify fun t => t.mapTrack 0
          (Track.completed (s.mux.track 0).pendingSample.data.length t.mux.writePos)
        writeNext writeCallback (s.mux.track 0).pendingSample.data
        modify fun t => t.mapTrack 0 Track.emptied : Mp4 τ PUnit) s := rfl
  have hfull : 0 < tr.pendingSample.data.length ∧
      sizeofSample ≤ tr.smpl.data.length * sizeofSample := by
    have hlength := List.length_pos_iff.mpr hpending
    have hcount := List.length_pos_iff.mpr hsamples
    unfold sizeofSample
    omega
  have hcomplete : (modify fun t : Muxing τ =>
      t.mapTrack 0 (Track.completed size t.mux.writePos) : Mp4 τ PUnit) s₁ =
      .ok ⟨⟩ (s₁.withTrack tr₁) :=
    congrArg (EStateM.Result.ok PUnit.unit) (mapTrack_only (s := s₁) htrack _)
  have hdata : writeNext writeCallback tr.pendingSample.data (s₁.withTrack tr₁) = .ok ⟨⟩ s₂ :=
    writeNext_good (s := s₁.withTrack tr₁) h (h.stays hgood _ _) _
  have htracks : s₂.mux.tracks = [tr₁] := rfl
  rw [hrun, htr, onlyIf_of hfull, bind_ok (writeNext_good h hgood _), bind_ok hcomplete,
    bind_ok hdata]
  exact congrArg (EStateM.Result.ok PUnit.unit) (mapTrack_only htracks Track.emptied)

/-- With no sample kept back there is nothing to write. -/
theorem writePendingData_none {s : Muxing τ} {trackNum : Nat}
    (h : (s.mux.track trackNum).pendingSample.data = []) :
    writePendingData writeCallback trackNum s = .ok ⟨⟩ s := by
  change onlyIf (0 < (s.mux.track trackNum).pendingSample.data.length ∧ _) _ s = _
  rw [h, onlyIf_of_not (by simp)]
  rfl

/-- The sample kept back gets its box. -/
theorem SequentialLayout.writePending (h : Stores writeCallback content good) {s : Muxing τ}
    {sets : ParameterSet → Bytes} {writer : H26xWriter} {done : List MediaSample}
    {last : Option MediaSample}
    (hlayout : SequentialLayout s.mux (content s.token) done last)
    (hs : Working good sets writer s) :
    ∃ t, writePendingData writeCallback 0 s = .ok ⟨⟩ t ∧
      SequentialLayout t.mux (content t.token) (done ++ last.toList) none ∧
      Working good sets writer t := by
  rcases hs.track with ⟨tr, htrack, hsets⟩
  have hsamples := hlayout.samples
  have hpending := hlayout.pending
  rw [htrack.track] at hsamples hpending
  cases last with
  | none =>
      rw [Option.toList_none, List.append_nil]
      exact ⟨s, writePendingData_none hlayout.pending, hlayout, hs⟩
  | some x =>
      rw [Option.toList_some] at hpending hsamples ⊢
      rw [dataOf_singleton] at hpending
      have hgood := hs.fair.token
      have hend : s.mux.writePos = (content s.token).length := by
        rw [hlayout.writePos, hlayout.file, List.length_append]
        rfl
      rcases content_wrote h hgood hend (pendingHeader x.data) with ⟨hheader, hend₁⟩
      rcases content_wrote h (h.stays hgood _ _) hend₁ x.data with ⟨hdata, hend₂⟩
      have hrun := writePendingData_good h htrack.tracks hgood
        (by rw [hpending]; exact hlayout.nonempty x rfl) (by simp [hsamples])
      refine ⟨_, hrun, ⟨hlayout.sequentialModeFlag, hlayout.enableFragmentation, ?_, ?_, rfl,
        fun _ hnone => absurd hnone (by simp), ?_⟩, ⟨⟨?_, hs.fair.allocs⟩, ?_, hs.writer⟩⟩
      · change s.mux.writePos + 8 + tr.pendingSample.data.length = _
        rw [hpending, hlayout.writePos, chunks_append, chunks_singleton, List.length_append,
          mdat_length]
        omega
      · change completeLast tr.pendingSample.data.length (s.mux.writePos + 8) tr.smpl.data = _
        rw [hpending, hsamples, List.map_singleton, completeLast_concat, descriptors_concat,
          span_eight, hlayout.writePos]
        simp [provisional]
      · change content ((s.wrote writeCallback (pendingHeader tr.pendingSample.data)).wrote
          writeCallback tr.pendingSample.data).token = _
        rw [hpending, hdata, hheader, hlayout.file, chunks_append, chunks_singleton,
          List.append_assoc, List.append_assoc]
        rfl
      · exact h.stays (h.stays hgood _ _) _ _
      · exact ⟨_, ⟨rfl, htrack.smpl, fun _ => rfl, htrack.sets⟩, hsets⟩

variable (writeCallback) in
/-- The data of a sample are kept back. -/
theorem putData_kept {s : Muxing τ} {tr : Track} (hs : Fair good s)
    (htrack : OnlyTrack s.mux tr) (hmode : s.mux.sequentialModeFlag = true) (data : Bytes) :
    ∃ capacity allocs, Ample allocs ∧
      putData writeCallback 0 data s = .ok ⟨⟩ ({ s with allocs := allocs }.withTrack
        { tr with pendingSample :=
          { data := tr.pendingSample.data ++ data
            allocated := true
            capacity := capacity } }) := by
  rcases minimp4VectorPut_ample 1 htrack.pendingSample data hs.allocs with
    ⟨capacity, allocs, hput, hample⟩
  refine ⟨capacity, allocs, hample, ?_⟩
  have hrun : putData writeCallback 0 data s =
      (if s.mux.sequentialModeFlag then
        lift (minimp4VectorPut 1 (s.mux.track 0).pendingSample data) >>= fun r => do
          modify fun s => s.mapTrack 0 fun tr => { tr with pendingSample := r.2 }
          onlyIf (r.1 = false) (throw mp4eStatusNoMemory)
      else writeNext writeCallback data : Mp4 τ PUnit) s := rfl
  have hlift : (lift (minimp4VectorPut 1 (s.mux.track 0).pendingSample data) :
      Mp4 τ (Bool × Vec UInt8)) s = .ok (true,
        { data := tr.pendingSample.data ++ data, allocated := true, capacity := capacity })
        { s with allocs := allocs } := by
    rw [htrack.track, lift, hput]
  have hmap := mapTrack_only (s := { s with allocs := allocs }) htrack.tracks fun tr₁ =>
    { tr₁ with pendingSample :=
      { data := tr.pendingSample.data ++ data, allocated := true, capacity := capacity } }
  rw [hrun, if_pos hmode, bind_ok hlift]
  exact congrArg (EStateM.Result.ok PUnit.unit) hmap

/-- A sample more in sequential mode. -/
theorem SequentialLayout.put (h : Stores writeCallback content good) {s : Muxing τ}
    {sets : ParameterSet → Bytes}
    {writer : H26xWriter} {done : List MediaSample} {last : Option MediaSample}
    (hlayout : SequentialLayout s.mux (content s.token) done last)
    (hs : Working good sets writer s) {smp : MediaSample} (hne : smp.data ≠ []) :
    ∃ t, mp4ePutSample writeCallback 0 smp.data smp.duration (kindOf smp.sync) s = .ok ⟨⟩ t ∧
      SequentialLayout t.mux (content t.token) (done ++ last.toList) (some smp) ∧
      Working good sets writer t := by
  rcases hlayout.writePending h hs with ⟨t, hwrite, hsettled, ht⟩
  rcases ht.track with ⟨tr, htrack, hsets⟩
  have hsamples := hsettled.samples
  have hpending := hsettled.pending
  rw [htrack.track] at hsamples hpending
  rcases addSampleDescriptor_fair ht.fair htrack smp.data.length smp.duration smp.sync with
    ⟨capacity, allocs, hample, hadd⟩
  let tr₁ := tr.described ⟨smp.data.length, t.mux.writePos, smp.duration, smp.sync⟩ capacity
  let t₁ : Muxing τ := { t with allocs := allocs }.withTrack tr₁
  have hdescriptor : putDescriptor writeCallback 0 smp.data smp.duration (kindOf smp.sync) s =
      .ok ⟨⟩ t₁ := by
    rw [putDescriptor_eq, onlyIf_of hlayout.sequentialModeFlag, bind_ok hwrite, bind_ok hadd]
    rfl
  have htrack₁ : OnlyTrack t₁.mux tr₁ := ⟨rfl, rfl, htrack.pendingSample, htrack.sets⟩
  have hfair₁ : Fair good t₁ := ⟨ht.fair.token, hample⟩
  rcases putData_kept writeCallback hfair₁ htrack₁
    hsettled.sequentialModeFlag smp.data with ⟨capacity', allocs', hample', hdata⟩
  let tr₂ : Track :=
    { tr₁ with pendingSample :=
      { data := tr₁.pendingSample.data ++ smp.data, allocated := true, capacity := capacity' } }
  let t₂ : Muxing τ := { t₁ with allocs := allocs' }.withTrack tr₂
  refine ⟨t₂, ?_, ⟨hsettled.sequentialModeFlag, hsettled.enableFragmentation, hsettled.writePos,
    ?_, ?_, ?_, hsettled.file⟩, ⟨ht.fair.token, hample'⟩, ⟨tr₂, ⟨rfl, rfl, ?_, htrack.sets⟩, hsets⟩,
    ht.writer⟩
  · rw [mp4ePutSample_indexed hlayout.enableFragmentation, bind_ok hdescriptor, hdata]
  · change tr.smpl.data ++ [_] = _
    rw [hsamples]
    simp [provisional, t₂, t₁, Muxing.withTrack]
  · change tr.pendingSample.data ++ smp.data = _
    rw [hpending]
    simp [dataOf]
  · intro x hx
    cases hx
    exact hne
  · intro hfalse
    contradiction

/-! ## The index -/

/-- The state after the header that standard mode writes over the opening. -/
def Muxing.patched (writeCallback : Nat → Bytes → τ → Int × τ) (s : Muxing τ) : Muxing τ :=
  if s.mux.sequentialModeFlag then s
  else { s with token :=
    (writeCallback boxFtyp.length (mdatHeader s.mux.writePos) s.token).2 }

/-- The state after the index was written. -/
def Muxing.indexed (writeCallback : Nat → Bytes → τ → Int × τ) (s : Muxing τ) : Muxing τ :=
  (({ s with allocs := s.allocs.tail }.patched writeCallback).wrote writeCallback
    (boxMoov s.mux.enableFragmentation s.mux.tracks))

/-- `mp4e_flush_index` once the pending samples are written. -/
theorem mp4eFlushIndex_good (h : Stores writeCallback content good) {s t : Muxing τ}
    (hpending : (List.range s.mux.tracks.length).forM (writePendingData writeCallback) s =
      .ok ⟨⟩ t) (ht : Fair good t) :
    mp4eFlushIndex writeCallback s = .ok ⟨⟩ (t.indexed writeCallback) := by
  let t₁ : Muxing τ := { t with allocs := t.allocs.tail }
  have hrun : mp4eFlushIndex writeCallback s =
      ((List.range s.mux.tracks.length).forM (writePendingData writeCallback) >>= fun _ =>
        lift malloc >>= fun base =>
          if !base then throw mp4eStatusNoMemory
          else get >>= fun s =>
            onlyIf (s.mux.sequentialModeFlag = false)
              (callback writeCallback boxFtyp.length (mdatHeader s.mux.writePos)) >>= fun _ =>
                writeLast writeCallback (boxMoov s.mux.enableFragmentation s.mux.tracks) :
        Mp4 τ PUnit) s := rfl
  have hmalloc : (lift malloc : Mp4 τ Bool) t = .ok true t₁ := by
    rw [lift, malloc_ample ht.allocs]
  have hpatch : onlyIf (t₁.mux.sequentialModeFlag = false)
      (callback writeCallback boxFtyp.length (mdatHeader t₁.mux.writePos)) t₁ =
      .ok ⟨⟩ (t₁.patched writeCallback) := by
    unfold Muxing.patched
    by_cases hmode : t₁.mux.sequentialModeFlag = true
    · rw [onlyIf_of_not (by simp [hmode]), if_pos hmode]
      rfl
    · rw [onlyIf_of (by simpa using hmode), if_neg hmode]
      exact callback_good (s := t₁) h ht.token _ _
  have hgood : good (t₁.patched writeCallback).token := by
    unfold Muxing.patched
    split
    · exact ht.token
    · exact h.stays ht.token _ _
  rw [hrun, bind_ok hpending, bind_ok hmalloc, Bool.not_true, if_neg Bool.false_ne_true,
    bind_ok (rfl : (get : Mp4 τ (Muxing τ)) t₁ = .ok t₁ t₁), bind_ok hpatch,
    writeLast_good h hgood]
  rfl

/-! ## Fragmented mode -/

/-- The pending samples of the only track. -/
theorem forM_pending {s t : Muxing τ} {tr : Track} (htracks : s.mux.tracks = [tr])
    (h : writePendingData writeCallback 0 s = .ok ⟨⟩ t) :
    (List.range s.mux.tracks.length).forM (writePendingData writeCallback) s = .ok ⟨⟩ t := by
  have hrange : List.range s.mux.tracks.length = [0] := by
    rw [htracks]
    rfl
  rw [hrange, forM_cons_ok h]
  rfl

/-- The state after a fragment was written. -/
def Muxing.fragment (writeCallback : Nat → Bytes → τ → Int × τ) (smp : MediaSample)
    (s : Muxing τ) : Muxing τ :=
  let moof := boxMoof s.mux.fragmentsCount 0 smp.data.length smp.duration (kindOf smp.sync)
  let t := s.wrote writeCallback moof
  let t : Muxing τ := { t with mux :=
    { t.mux with fragmentDurations := t.mux.fragmentDurations ++ [smp.duration] } }
  (t.wrote writeCallback (pendingHeader smp.data)).wrote writeCallback smp.data

/-- The index in front of the first fragment. -/
theorem FragmentedLayout.index (h : Stores writeCallback content good) {s : Muxing τ}
    {sets : ParameterSet → Bytes} {writer : H26xWriter} {ss : List MediaSample}
    (hlayout : FragmentedLayout s.mux (content s.token) ss) (hs : Working good sets writer s) :
    ∃ t, onlyIf (s.mux.fragmentsCount = 0) (mp4eFlushIndex writeCallback)
          { s with mux := { s.mux with fragmentsCount := s.mux.fragmentsCount + 1 } } = .ok ⟨⟩ t ∧
      t.mux.sequentialModeFlag = true ∧ t.mux.enableFragmentation = true ∧
      t.mux.fragmentsCount = ss.length + 1 ∧ t.mux.writePos = (content t.token).length ∧
      t.mux.tracks = s.mux.tracks ∧
      (∃ tr : Track, tr.smpl.data = [] ∧ tr.Smaller (s.mux.track 0) ∧
        content t.token = boxFtyp ++ (boxMoov true [tr] ++ fragments 1 ss)) ∧
      Working good sets writer t := by
  rcases hs.track with ⟨tr, htrack, hsets⟩
  let s₁ : Muxing τ :=
    { s with mux := { s.mux with fragmentsCount := s.mux.fragmentsCount + 1 } }
  have hs₁ : Working good sets writer s₁ := ⟨⟨hs.fair.token, hs.fair.allocs⟩,
    ⟨tr, ⟨htrack.tracks, htrack.smpl, htrack.pendingSample, htrack.sets⟩, hsets⟩, hs.writer⟩
  have hcount : s₁.mux.fragmentsCount = ss.length + 1 := by
    change s.mux.fragmentsCount + 1 = _
    rw [hlayout.fragmentsCount]
  cases ss with
  | nil =>
      have hfirst : s.mux.fragmentsCount = 0 := hlayout.fragmentsCount
      have hfile : content s.token = boxFtyp := by
        rcases hlayout.file with ⟨_, -, -, hfile⟩
        rw [hfile]
        rfl
      have hflush : mp4eFlushIndex writeCallback s₁ = .ok ⟨⟩ (s₁.indexed writeCallback) :=
        mp4eFlushIndex_good h (forM_pending htrack.tracks (writePendingData_none hlayout.pending))
          hs₁.fair
      have hstate : s₁.indexed writeCallback =
          ({ s₁ with allocs := s₁.allocs.tail }.wrote writeCallback
            (boxMoov s₁.mux.enableFragmentation s₁.mux.tracks)) := by
        unfold Muxing.indexed Muxing.patched
        rw [if_pos hlayout.sequentialModeFlag]
      have hindex := content_wrote (s := { s₁ with allocs := s₁.allocs.tail }) h hs.fair.token
        hlayout.writePos (boxMoov s₁.mux.enableFragmentation s₁.mux.tracks)
      rw [← hstate] at hindex
      rw [onlyIf_of hfirst]
      refine ⟨_, hflush, ?_⟩
      rw [hstate] at hindex ⊢
      refine ⟨hlayout.sequentialModeFlag, hlayout.enableFragmentation, hcount, hindex.2, rfl,
        ⟨tr, ?_, ?_, ?_⟩, ⟨⟨h.stays hs.fair.token _ _, hs.fair.allocs.tail⟩,
          ⟨tr, ⟨htrack.tracks, htrack.smpl, htrack.pendingSample, htrack.sets⟩, hsets⟩, hs.writer⟩⟩
      · rw [← htrack.track]
        exact hlayout.samples
      · rw [htrack.track]
        exact .refl tr
      · rw [hindex.1]
        change content s.token ++ boxMoov s.mux.enableFragmentation s.mux.tracks = _
        rw [hfile, hlayout.enableFragmentation, htrack.tracks]
        simp [fragments]
  | cons smp ss =>
      have hlater : ¬ s.mux.fragmentsCount = 0 := by
        rw [hlayout.fragmentsCount]
        simp
      rw [onlyIf_of_not hlater]
      exact ⟨s₁, rfl, hlayout.sequentialModeFlag, hlayout.enableFragmentation, hcount,
        hlayout.writePos, rfl, hlayout.file, hs₁⟩

/-- The two boxes of a fragment. -/
theorem putFragment_good (h : Stores writeCallback content good) {s t : Muxing τ}
    (smp : MediaSample)
    (hindex : onlyIf (s.mux.fragmentsCount = 0) (mp4eFlushIndex writeCallback)
      { s with mux := { s.mux with fragmentsCount := s.mux.fragmentsCount + 1 } } = .ok ⟨⟩ t)
    (hgood : good t.token) :
    putFragment writeCallback 0 smp.data smp.duration (kindOf smp.sync) s =
      .ok ⟨⟩ (t.fragment writeCallback smp) := by
  let s₁ : Muxing τ :=
    { s with mux := { s.mux with fragmentsCount := s.mux.fragmentsCount + 1 } }
  let moof := boxMoof t.mux.fragmentsCount 0 smp.data.length smp.duration (kindOf smp.sync)
  let t₁ := t.wrote writeCallback moof
  let t₂ : Muxing τ := { t₁ with mux :=
    { t₁.mux with fragmentDurations := t₁.mux.fragmentDurations ++ [smp.duration] } }
  have hrun : putFragment writeCallback 0 smp.data smp.duration (kindOf smp.sync) s =
      (onlyIf (s.mux.fragmentsCount = 0) (mp4eFlushIndex writeCallback) >>= fun _ =>
        mp4eWriteFragmentHeader writeCallback 0 smp.data.length smp.duration (kindOf smp.sync)
          >>= fun _ => writeNext writeCallback (pendingHeader smp.data) >>= fun _ =>
            writeNext writeCallback smp.data : Mp4 τ PUnit) s₁ := rfl
  have hheader : mp4eWriteFragmentHeader writeCallback 0 smp.data.length smp.duration
      (kindOf smp.sync) t = .ok ⟨⟩ t₂ := by
    have hwrite : writeNext writeCallback moof t = .ok ⟨⟩ t₁ := writeNext_good h hgood moof
    exact (bind_ok hwrite).trans rfl
  have hbox : writeNext writeCallback (pendingHeader smp.data) t₂ =
      .ok ⟨⟩ (t₂.wrote writeCallback (pendingHeader smp.data)) :=
    writeNext_good (s := t₂) h (h.stays hgood _ _) _
  rw [hrun, bind_ok hindex, bind_ok hheader, bind_ok hbox,
    writeNext_good h (h.stays (h.stays hgood _ _) _ _)]
  rfl

/-- A sample more in fragmented mode. -/
theorem FragmentedLayout.put (h : Stores writeCallback content good) {s : Muxing τ}
    {sets : ParameterSet → Bytes} {writer : H26xWriter} {ss : List MediaSample}
    (hlayout : FragmentedLayout s.mux (content s.token) ss) (hs : Working good sets writer s)
    (smp : MediaSample) :
    ∃ t, mp4ePutSample writeCallback 0 smp.data smp.duration (kindOf smp.sync) s = .ok ⟨⟩ t ∧
      FragmentedLayout t.mux (content t.token) (ss ++ [smp]) ∧ Working good sets writer t := by
  rcases hlayout.index h hs with
    ⟨t, hindex, hmode, hfragmented, hcount, hend, htracks,
      ⟨tr₀, hnone, hsmaller, hfile⟩, ht⟩
  rcases ht.track with ⟨tr, htrack, hsets⟩
  have hgood := ht.fair.token
  let moof := boxMoof t.mux.fragmentsCount 0 smp.data.length smp.duration (kindOf smp.sync)
  rcases content_wrote h hgood hend moof with ⟨hmoof, hend₁⟩
  rcases content_wrote h (h.stays hgood _ _) hend₁ (pendingHeader smp.data) with ⟨hheader, hend₂⟩
  rcases content_wrote h (h.stays (h.stays hgood _ _) _ _) hend₂ smp.data with ⟨hdata, hend₃⟩
  have hrun : mp4ePutSample writeCallback 0 smp.data smp.duration (kindOf smp.sync) s =
      putFragment writeCallback 0 smp.data smp.duration (kindOf smp.sync) s := by
    change (if s.mux.enableFragmentation then _ else _ : Mp4 τ PUnit) s = _
    rw [if_pos hlayout.enableFragmentation]
  refine ⟨t.fragment writeCallback smp, hrun.trans (putFragment_good h smp hindex hgood),
    ⟨hmode, hfragmented, ?_, hend₃, ?_, ?_, tr₀, hnone, ?_, ?_⟩,
    ⟨⟨h.stays (h.stays (h.stays hgood _ _) _ _) _ _, ht.fair.allocs⟩,
      ⟨tr, ⟨htrack.tracks, htrack.smpl, htrack.pendingSample, htrack.sets⟩, hsets⟩, ht.writer⟩⟩
  · change t.mux.fragmentsCount = _
    rw [hcount, List.length_append]
    rfl
  · have hsamples := hlayout.samples
    rw [Mux.track, ← htracks] at hsamples
    exact hsamples
  · have hpending := hlayout.pending
    rw [Mux.track, ← htracks] at hpending
    exact hpending
  · rw [Mux.track, ← htracks] at hsmaller
    exact hsmaller
  · change content (((t.wrote writeCallback moof).wrote writeCallback
      (pendingHeader smp.data)).wrote writeCallback smp.data).token = _
    have hnumber : moof =
        boxMoof (1 + ss.length) 0 smp.data.length smp.duration (kindOf smp.sync) := by
      rw [Nat.add_comm, ← hcount]
    have hpart : fragmentedPart tr₀ (ss ++ [smp]) =
        boxMoov true [tr₀] ++ (fragments 1 ss ++ (moof ++ mdat smp.data)) := by
      rw [fragmentedPart, if_neg (by simp), fragments_concat, ← hnumber]
    have hbox : mdat smp.data = pendingHeader smp.data ++ smp.data := rfl
    rw [hdata, hheader, hmoof, hfile, hpart, hbox]
    simp only [List.append_assoc]

/-! ## Access units -/

/-- A sample more, in every mode. -/
theorem Layout.put (h : Stores writeCallback content good) {s : Muxing τ}
    {sets : ParameterSet → Bytes} {writer : H26xWriter} {ss : List MediaSample}
    (hlayout : Layout s.mux (content s.token) fragmentation ss)
    (hs : Working good sets writer s) {smp : MediaSample} (hne : smp.data ≠ []) :
    ∃ t, mp4ePutSample writeCallback 0 smp.data smp.duration (kindOf smp.sync) s = .ok ⟨⟩ t ∧
      Layout t.mux (content t.token) fragmentation (ss ++ [smp]) ∧ Working good sets writer t := by
  cases hlayout with
  | standard hlayout =>
      rcases hlayout.put h hs smp with ⟨t, hrun, hlayout', ht⟩
      exact ⟨t, hrun, .standard hlayout', ht⟩
  | @sequential done last hlayout =>
      rcases hlayout.put h hs hne with ⟨t, hrun, hlayout', ht⟩
      exact ⟨t, hrun, .sequential hlayout', ht⟩
  | fragmented hlayout =>
      rcases hlayout.put h hs smp with ⟨t, hrun, hlayout', ht⟩
      exact ⟨t, hrun, .fragmented hlayout', ht⟩

/-- The vector after `append_mem`. -/
def appended (mem data : Bytes) : Bytes :=
  if appendMemFinds mem data.length data then data else data ++ write2 mem.length ++ mem

/-- With enough memory a parameter set is kept. -/
theorem appendMem_ample {v : Vec UInt8} (hv : v.Sound) (mem : Bytes) {allocs : List Bool}
    (h : Ample allocs) :
    ∃ w allocs', appendMem v mem allocs = ((true, w), allocs') ∧ w.data = appended mem v.data ∧
      w.Sound ∧ Ample allocs' := by
  unfold appendMem appended
  split
  · exact ⟨v, allocs, rfl, rfl, hv, h⟩
  · rcases minimp4VectorPut_ample 1 hv (write2 mem.length) h with ⟨c₁, a₁, hfirst, hample₁⟩
    rcases minimp4VectorPut_ample 1
      (v := { data := v.data ++ write2 mem.length, allocated := true, capacity := c₁ })
      (.of_allocated rfl) mem hample₁ with ⟨c₂, a₂, hsecond, hample₂⟩
    refine ⟨{ data := v.data ++ write2 mem.length ++ mem, allocated := true, capacity := c₂ },
      a₂, ?_, rfl, .of_allocated rfl, hample₂⟩
    change (if (minimp4VectorPut 1 v (write2 mem.length) allocs).1.1 then
        minimp4VectorPut 1 (minimp4VectorPut 1 v (write2 mem.length) allocs).1.2 mem
      else pure (minimp4VectorPut 1 v (write2 mem.length) allocs).1 : Alloc (Bool × Vec UInt8))
        (minimp4VectorPut 1 v (write2 mem.length) allocs).2 = _
    rw [hfirst]
    exact hsecond

/-- Keeping a parameter set loses no byte. -/
theorem appended_length_ge (mem data : Bytes) : data.length ≤ (appended mem data).length := by
  unfold appended
  split
  · exact Nat.le_refl _
  · simp only [List.length_append]
    omega

/-- The track whose vector of a kind holds other parameter sets. -/
theorem parameterSets_setParameterSets (tr : Track) (v : Vec UInt8) (kind other : ParameterSet) :
    (tr.setParameterSets v kind).parameterSets other =
      if other = kind then v else tr.parameterSets other := by
  cases kind <;> cases other <;> rfl

/-- A parameter set is stored. -/
theorem Layout.setParameterSet {s : Muxing τ} {sets : ParameterSet → Bytes}
    {writer : H26xWriter} {ss : List MediaSample}
    (hlayout : Layout s.mux (content s.token) fragmentation ss)
    (hs : Working good sets writer s) (kind : ParameterSet) (item : Bytes) :
    ∃ v t, mp4eSetParameterSet kind 0 item s = .ok v t ∧
      Layout t.mux (content t.token) fragmentation ss ∧
      Working good (Function.update sets kind (appended item (sets kind))) writer t := by
  rcases hs.track with ⟨tr, htrack, hsets⟩
  rcases appendMem_ample (htrack.sets kind) item hs.fair.allocs with
    ⟨v, allocs, happend, hdata, hsound, hample⟩
  let tr₁ := tr.setParameterSets v kind
  let t : Muxing τ := { s with allocs := allocs }.withTrack tr₁
  have hrun : mp4eSetParameterSet kind 0 item s = .ok mp4eStatusOk t := by
    have hlift : (lift (appendMem ((s.mux.track 0).parameterSets kind) item) :
        Mp4 τ (Bool × Vec UInt8)) s = .ok (true, v) { s with allocs := allocs } := by
      rw [htrack.track, lift, happend]
    have hmap := mapTrack_only (s := { s with allocs := allocs }) htrack.tracks fun tr =>
      tr.setParameterSets v kind
    have hbind : mp4eSetParameterSet kind 0 item s =
        (lift (appendMem ((s.mux.track 0).parameterSets kind) item) >>= fun r => do
          modify fun s => s.mapTrack 0 fun tr => tr.setParameterSets r.2 kind
          pure (if r.1 then mp4eStatusOk else mp4eStatusNoMemory) : Mp4 τ Int) s := rfl
    rw [hbind, bind_ok hlift]
    exact congrArg (EStateM.Result.ok mp4eStatusOk) hmap
  have hlonger : tr.Smaller tr₁ := by
    intro other
    rw [parameterSets_setParameterSets]
    split
    · next hsame =>
        rw [hsame, hdata]
        exact appended_length_ge item _
    · exact Nat.le_refl _
  have htr₁ : t.mux.track 0 = tr₁ := rfl
  refine ⟨mp4eStatusOk, t, hrun, hlayout.congr rfl rfl rfl rfl ?_ ?_ ?_,
    ⟨⟨hs.fair.token, hample⟩, ⟨tr₁, ⟨rfl, ?_, ?_, ?_⟩, ?_⟩, hs.writer⟩⟩
  · rw [htr₁, htrack.track]
    cases kind <;> rfl
  · rw [htr₁, htrack.track]
    cases kind <;> rfl
  · rw [htr₁, htrack.track]
    exact hlonger
  · cases kind <;> exact htrack.smpl
  · cases kind <;> exact htrack.pendingSample
  · intro other
    rw [parameterSets_setParameterSets]
    split
    · exact hsound
    · exact htrack.sets other
  · intro other
    rw [parameterSets_setParameterSets, Function.update_apply, ← hsets kind, ← hdata]
    split
    · rfl
    · exact hsets other

/-- The sample of a NAL unit. -/
def nalSample (d : Nat) (nal : Bytes) : MediaSample :=
  { data := write4 nal.length ++ nal, duration := d, sync := isIntra nal }

/-- The samples of NAL units: parameter sets are none. -/
def samplesOf (d : Nat) (units : List Bytes) : List MediaSample :=
  (units.filter fun nal => !isParameterSet nal).map (nalSample d)

/-- The kind of parameter set that a NAL unit is. -/
def setKind (nal : Bytes) : Option ParameterSet :=
  if payloadType nal = hevcNalVps then some .vps
  else if payloadType nal = hevcNalSps then some .sps
  else if payloadType nal = hevcNalPps then some .pps
  else none

/-- The units of a kind are the parameter sets. -/
theorem setKind_isSome (nal : Bytes) : (setKind nal).isSome = isParameterSet nal := by
  unfold setKind isParameterSet
  split
  · simp [*]
  · split
    · simp [*]
    · split
      · simp [*]
      · simp [*]

/-- The parameter sets of a track after a NAL unit. -/
def stored (sets : ParameterSet → Bytes) (nal : Bytes) : ParameterSet → Bytes :=
  match setKind nal with
  | some kind => Function.update sets kind (appended nal (sets kind))
  | none => sets

/-- The NAL units a writer looks at: none behind one it refuses. -/
def H26xWriter.visited (h : H26xWriter) : List Bytes → List Bytes
  | [] => []
  | nal :: rest => nal :: if (h.visit nal).2 then [] else visited (h.visit nal).1 rest

/-- A sample made of a NAL unit is never empty. -/
theorem nalSample_ne (d : Nat) (nal : Bytes) : (nalSample d nal).data ≠ [] := by
  simp [nalSample, write4, write2, write1]

/-- A visit does not change the track of the writer. -/
theorem visit_muxTrackId (writer : H26xWriter) (nal : Bytes) :
    (writer.visit nal).1.muxTrackId = writer.muxTrackId := by
  have hsaw := sawIntra_muxTrackId writer (isIntra nal)
  unfold H26xWriter.visit
  split
  · exact hsaw
  · split
    · exact hsaw
    · split
      · exact hsaw
      · exact hsaw

/-- A change of the writer alone keeps the mux working. -/
theorem Working.mapWriter {s : Muxing τ} {sets : ParameterSet → Bytes} {writer : H26xWriter}
    (hs : Working good sets writer s) (f : H26xWriter → H26xWriter) :
    Working good sets (f writer) (s.mapWriter f) :=
  ⟨⟨hs.fair.token, hs.fair.allocs⟩, hs.track, by rw [← hs.writer]; rfl⟩

variable (writeCallback) in
/-- A NAL unit that is a parameter set. -/
theorem Layout.writeSet (d : Nat) {s : Muxing τ} {sets : ParameterSet → Bytes}
    {writer : H26xWriter} {ss : List MediaSample}
    (hlayout : Layout s.mux (content s.token) fragmentation ss)
    (hs : Working good sets writer s) (hid : writer.muxTrackId = 0) {nal : Bytes}
    (hset : isParameterSet nal = true) :
    ∃ t, mp4H265WriteNal writeCallback d nal s = .ok ⟨⟩ t ∧
      Layout t.mux (content t.token) fragmentation ss ∧
      Working good (stored sets nal) (writer.visit nal).1 t := by
  have hstored : ∀ (kind : ParameterSet) (f : H26xWriter → H26xWriter),
      ∃ t, (mp4eSetParameterSet kind writer.muxTrackId nal >>= fun _ =>
        modify fun s => s.mapWriter f : Mp4 τ PUnit) s = .ok ⟨⟩ t ∧
        Layout t.mux (content t.token) fragmentation ss ∧
        Working good (Function.update sets kind (appended nal (sets kind))) (f writer) t := by
    intro kind f
    rcases hlayout.setParameterSet hs kind nal with ⟨v, t, hrun, hlayout', ht⟩
    rw [hid]
    exact ⟨t.mapWriter f, bind_ok hrun, hlayout', ht.mapWriter f⟩
  have hintra := H26xWriter.isIntra_of_parameterSet hset
  have hsame : (s.mapWriter fun h => h.sawIntra false) = s := rfl
  unfold isParameterSet at hset
  simp only [Bool.or_eq_true, decide_eq_true_eq] at hset
  rw [mp4H265WriteNal_eq, hintra, hs.writer, H26xWriter.sawIntra_false, hsame]
  unfold H26xWriter.visit stored setKind
  simp only [hintra, H26xWriter.sawIntra_false]
  by_cases hvps : payloadType nal = hevcNalVps
  · rw [if_pos hvps, if_pos hvps, if_pos hvps]
    exact hstored .vps _
  · rw [if_neg hvps, if_neg hvps, if_neg hvps]
    by_cases hsps : payloadType nal = hevcNalSps
    · rw [if_pos hsps, if_pos hsps, if_pos hsps]
      exact hstored .sps _
    · have hpps : payloadType nal = hevcNalPps := by
        rcases hset with (h | h) | h
        · exact absurd h hvps
        · exact absurd h hsps
        · exact h
      rw [if_neg hsps, if_pos hpps, if_neg hsps, if_pos hpps, if_neg hsps, if_pos hpps]
      exact hstored .pps _

/-- A NAL unit that becomes a sample, unless the writer refuses it. -/
theorem Layout.writeSlice (h : Stores writeCallback content good) {s : Muxing τ} {d : Nat}
    {sets : ParameterSet → Bytes} {writer : H26xWriter} {ss : List MediaSample}
    (hlayout : Layout s.mux (content s.token) fragmentation ss)
    (hs : Working good sets writer s) (hid : writer.muxTrackId = 0) {nal : Bytes}
    (hsample : isParameterSet nal = false) :
    ∃ t, mp4H265WriteNal writeCallback d nal s =
        (if (writer.visit nal).2 then .error mp4eStatusBadArguments t else .ok ⟨⟩ t) ∧
      Layout t.mux (content t.token) fragmentation
        (ss ++ if (writer.visit nal).2 then [] else [nalSample d nal]) ∧
      Working good sets (writer.visit nal).1 t := by
  let s₁ := s.mapWriter fun h => h.sawIntra (isIntra nal)
  have hs₁ : Working good sets (writer.sawIntra (isIntra nal)) s₁ :=
    hs.mapWriter fun h => h.sawIntra (isIntra nal)
  have hid₁ : s₁.writer.muxTrackId = 0 := by
    rw [hs₁.writer, sawIntra_muxTrackId, hid]
  rw [mp4H265WriteNal_sample writeCallback hsample s, H26xWriter.visit_sample hsample]
  by_cases hlacks : (writer.sawIntra (isIntra nal)).lacks = true
  · simp only [hlacks, if_true, List.append_nil]
    refine ⟨s₁, writeSample_refused writeCallback ?_, hlayout, hs₁⟩
    rw [hs₁.writer]
    exact hlacks
  · rw [Bool.not_eq_true] at hlacks
    let s₂ : Muxing τ := { s₁ with allocs := s₁.allocs.tail }
    have hs₂ : Working good sets (writer.sawIntra (isIntra nal)) s₂ :=
      ⟨⟨hs₁.fair.token, hs₁.fair.allocs.tail⟩, hs₁.track, hs₁.writer⟩
    have hrun : writeSample writeCallback nal d s₁ =
        mp4ePutSample writeCallback 0 (nalSample d nal).data d (kindOf (nalSample d nal).sync)
          s₂ := by
      have hmalloc : (lift malloc : Mp4 τ Bool) s₁ = .ok true s₂ := by
        rw [lift, malloc_ample hs₁.fair.allocs]
      have hwrite : writeSample writeCallback nal d s₁ =
          (if s₁.writer.lacks then throw mp4eStatusBadArguments
          else lift malloc >>= fun tmp =>
            if !tmp then throw mp4eStatusNoMemory
            else mp4ePutSample writeCallback s₁.writer.muxTrackId (write4 nal.length ++ nal) d
              (kindOf (isIntra nal)) : Mp4 τ PUnit) s₁ := rfl
      have hstarted : s₁.writer.lacks = false := by
        rw [hs₁.writer]
        exact hlacks
      rw [hwrite, hstarted, if_neg Bool.false_ne_true, bind_ok hmalloc, hid₁]
      rfl
    rcases hlayout.put (s := s₂) h hs₂ (nalSample_ne d nal) with ⟨t, hput, hlayout', ht⟩
    simp only [hlacks, Bool.false_eq_true, if_false]
    exact ⟨t, hrun.trans hput, hlayout', ht⟩

/-- The NAL units of an access unit: each but the parameter sets is a sample more, unless the
writer refuses one of them. -/
theorem Layout.writeNals (h : Stores writeCallback content good) {d : Nat} (units : List Bytes)
    {s : Muxing τ} {sets : ParameterSet → Bytes} {writer : H26xWriter} {ss : List MediaSample}
    (hlayout : Layout s.mux (content s.token) fragmentation ss) (hs : Working good sets writer s)
    (hid : writer.muxTrackId = 0) :
    ∃ t, units.forM (mp4H265WriteNal writeCallback d) s =
        (if (writer.scan units).2 then .error mp4eStatusBadArguments t else .ok ⟨⟩ t) ∧
      Layout t.mux (content t.token) fragmentation
        (ss ++ if (writer.scan units).2 then [] else samplesOf d units) ∧
      Working good ((writer.visited units).foldl stored sets) (writer.scan units).1 t := by
  induction units generalizing s sets writer ss with
  | nil =>
      refine ⟨s, rfl, ?_, hs⟩
      simpa [H26xWriter.scan, samplesOf] using hlayout
  | cons nal rest ih =>
      have hid' : (writer.visit nal).1.muxTrackId = 0 := (visit_muxTrackId writer nal).trans hid
      unfold H26xWriter.scan H26xWriter.visited
      by_cases hset : isParameterSet nal = true
      · have hgoes := H26xWriter.visit_parameterSet (h := writer) hset
        rcases hlayout.writeSet writeCallback d hs hid hset with ⟨t, hrun, hlayout', ht⟩
        rcases ih hlayout' ht hid' with ⟨u, hrest, hlater, hu⟩
        have hsamples : samplesOf d (nal :: rest) = samplesOf d rest := by
          simp [samplesOf, hset]
        rw [hgoes, if_neg Bool.false_ne_true, if_neg Bool.false_ne_true, forM_cons_ok hrun,
          hsamples]
        exact ⟨u, hrest, hlater, hu⟩
      · rw [Bool.not_eq_true] at hset
        rcases hlayout.writeSlice h (d := d) hs hid hset with ⟨t, hrun, hlayout', ht⟩
        have hsame : stored sets nal = sets := by
          have hnone := setKind_isSome nal
          rw [hset, Option.isSome_eq_false_iff, Option.isNone_iff_eq_none] at hnone
          rw [stored, hnone]
        have hsamples : samplesOf d (nal :: rest) = nalSample d nal :: samplesOf d rest := by
          simp [samplesOf, hset]
        by_cases hrefused : (writer.visit nal).2 = true
        · simp only [hrefused, if_true] at hrun hlayout' ⊢
          refine ⟨t, forM_cons_error hrun, hlayout', ?_⟩
          rw [List.foldl_cons, hsame]
          exact ht
        · rw [Bool.not_eq_true] at hrefused
          have hstarted : (writer.visit nal).1.lacks = false := by
            rw [H26xWriter.visit_sample hset] at hrefused ⊢
            exact hrefused
          simp only [hrefused, Bool.false_eq_true, if_false] at hrun hlayout' ⊢
          rcases ih hlayout' ht hid' with ⟨u, hrest, hlater, hu⟩
          rw [H26xWriter.scan_started hstarted] at hrest hlater hu ⊢
          simp only [Bool.false_eq_true, if_false] at hrest hlater ⊢
          rw [forM_cons_ok hrun, hsamples, List.foldl_cons, hsame]
          refine ⟨u, hrest, ?_, hu⟩
          rw [List.append_assoc] at hlater
          exact hlater

/-! ## The end -/

/-- The file of a closed muxer that was given the samples and the parameter sets; a fragmented
file may lack some of the latter. -/
inductive Finished (sets : ParameterSet → Bytes) (file : Bytes) (ss : List MediaSample) :
    Bool → Prop
  | standard (tracks : List Track) (one : tracks.length ≤ 1)
      (holds : (tracks.getD 0 {}).Holds sets)
      (samples : (tracks.getD 0 {}).smpl.data = descriptors 0 40 ss)
      (bytes : file =
        boxFtyp ++ mdatHeader (40 + (dataOf ss).length) ++ dataOf ss ++ boxMoov false tracks) :
      Finished sets file ss false
  | sequential (tracks : List Track) (one : tracks.length ≤ 1)
      (holds : (tracks.getD 0 {}).Holds sets)
      (samples : (tracks.getD 0 {}).smpl.data = descriptors 8 24 ss)
      (bytes : file = boxFtyp ++ chunks ss ++ boxMoov false tracks) : Finished sets file ss false
  | fragmented (tr : Track) (none : tr.smpl.data = [])
      (few : ∀ kind, (tr.parameterSets kind).data.length ≤ (sets kind).length)
      (bytes : file = boxFtyp ++ fragmentedPart tr ss) : Finished sets file ss true

/-- Nothing will fail, and there is at most one track. -/
structure Closable (good : τ → Prop) (sets : ParameterSet → Bytes) (s : Muxing τ) : Prop where
  fair : Fair good s
  track : s.mux.tracks = [] ∧ (sets = fun _ => []) ∨ ∃ tr, OnlyTrack s.mux tr ∧ tr.Holds sets

/-- A mux that works can be closed. -/
theorem Working.closable {s : Muxing τ} {sets : ParameterSet → Bytes} {writer : H26xWriter}
    (hs : Working good sets writer s) : Closable good sets s :=
  ⟨hs.fair, Or.inr hs.track⟩

theorem Closable.one {s : Muxing τ} {sets : ParameterSet → Bytes} (hs : Closable good sets s) :
    s.mux.tracks.length ≤ 1 ∧ (s.mux.track 0).Holds sets := by
  rcases hs.track with ⟨hnone, hempty⟩ | ⟨tr, htrack, hsets⟩
  · rw [Mux.track, hnone, hempty]
    refine ⟨Nat.zero_le _, ?_⟩
    intro kind
    cases kind <;> rfl
  · rw [htrack.track, htrack.tracks]
    exact ⟨Nat.le_refl _, hsets⟩

/-- Without tracks there is nothing to write before the index. -/
theorem forM_pending_none {s : Muxing τ} (h : s.mux.tracks = []) :
    (List.range s.mux.tracks.length).forM (writePendingData writeCallback) s = .ok ⟨⟩ s := by
  rw [h]
  rfl

@[simp]
theorem mdatHeader_length (writePos : Nat) : (mdatHeader writePos).length = 16 := by
  unfold mdatHeader
  simp only
  split
  · rfl
  · rfl

/-- The header over the opening. -/
theorem overwrite_opening (ss : List MediaSample) (writePos : Nat) :
    overwrite 0 boxFtyp.length (mdatHeader writePos) (boxFtyp ++ opening ss ++ dataOf ss) =
      boxFtyp ++ mdatHeader writePos ++ dataOf ss := by
  cases ss with
  | nil =>
      have hold : (boxFtyp.take 8).length ≤ (mdatHeader writePos).length := by
        rw [mdatHeader_length]
        decide
      have hpast : overwrite 0 boxFtyp.length (mdatHeader writePos) (boxFtyp ++ boxFtyp.take 8) =
          boxFtyp ++ mdatHeader writePos := overwrite_past 0 hold
      rw [dataOf_nil, List.append_nil, List.append_nil]
      exact hpast
  | cons s ss =>
      have hlength : (mdatHeader writePos).length = (opening (s :: ss)).length := by
        rw [mdatHeader_length]
        rfl
      exact overwrite_inside 0 hlength

/-- The index in standard mode. -/
theorem StandardLayout.flush (h : Stores writeCallback content good) {s : Muxing τ}
    {sets : ParameterSet → Bytes}
    {ss : List MediaSample} (hlayout : StandardLayout s.mux (content s.token) ss)
    (hs : Closable good sets s) :
    ∃ t, mp4eFlushIndex writeCallback s = .ok ⟨⟩ t ∧ Finished sets (content t.token) ss false := by
  have hpending : (List.range s.mux.tracks.length).forM (writePendingData writeCallback) s =
      .ok ⟨⟩ s := by
    rcases hs.track with ⟨hnone, -⟩ | ⟨tr, htrack, -⟩
    · exact forM_pending_none hnone
    · exact forM_pending htrack.tracks (writePendingData_none hlayout.pending)
  refine ⟨_, mp4eFlushIndex_good h hpending hs.fair, .standard s.mux.tracks hs.one.1 hs.one.2
    hlayout.samples ?_⟩
  let token := (writeCallback boxFtyp.length (mdatHeader s.mux.writePos) s.token).2
  let t : Muxing τ := { s with allocs := s.allocs.tail, token := token }
  have hno : ¬ s.mux.sequentialModeFlag = true := by
    rw [hlayout.sequentialModeFlag]
    exact Bool.false_ne_true
  have hstate : s.indexed writeCallback =
      t.wrote writeCallback (boxMoov s.mux.enableFragmentation s.mux.tracks) := by
    unfold Muxing.indexed Muxing.patched
    rw [if_neg hno]
  have hpatched : content t.token =
      boxFtyp ++ mdatHeader (40 + (dataOf ss).length) ++ dataOf ss := by
    have hstored := h.stored hs.fair.token boxFtyp.length (mdatHeader s.mux.writePos)
    rw [hlayout.file, overwrite_opening, hlayout.writePos] at hstored
    rw [← hstored, ← hlayout.writePos]
  have hend : t.mux.writePos = (content t.token).length := by
    change s.mux.writePos = _
    rw [hpatched, hlayout.writePos]
    simp only [List.length_append, mdatHeader_length]
    rfl
  have hindex := content_wrote (s := t) h (h.stays hs.fair.token _ _) hend
    (boxMoov s.mux.enableFragmentation s.mux.tracks)
  rw [hstate, hindex.1, hpatched, hlayout.enableFragmentation]

/-- The index in sequential mode. -/
theorem SequentialLayout.flush (h : Stores writeCallback content good) {s : Muxing τ}
    {sets : ParameterSet → Bytes} {done : List MediaSample} {last : Option MediaSample}
    (hlayout : SequentialLayout s.mux (content s.token) done last) (hs : Closable good sets s) :
    ∃ t, mp4eFlushIndex writeCallback s = .ok ⟨⟩ t ∧
      Finished sets (content t.token) (done ++ last.toList) false := by
  have hsettled : ∃ t, (List.range s.mux.tracks.length).forM (writePendingData writeCallback) s =
      .ok ⟨⟩ t ∧ SequentialLayout t.mux (content t.token) (done ++ last.toList) none ∧
      Closable good sets t := by
    rcases hs.track with ⟨hnone, -⟩ | ⟨tr, htrack, hsets⟩
    · have hlast : last = none := by
        have hpending := hlayout.pending
        rw [Mux.track, hnone] at hpending
        cases last with
        | none => rfl
        | some x =>
            rw [Option.toList_some, dataOf_singleton] at hpending
            exact absurd hpending.symm (hlayout.nonempty x rfl)
      subst hlast
      rw [Option.toList_none, List.append_nil]
      exact ⟨s, forM_pending_none hnone, hlayout, hs⟩
    · rcases hlayout.writePending h ⟨hs.fair, ⟨tr, htrack, hsets⟩, rfl⟩ with
        ⟨t, hrun, hsettled, ht⟩
      exact ⟨t, forM_pending htrack.tracks hrun, hsettled, ht.closable⟩
  rcases hsettled with ⟨t, hpending, hsettled, ht⟩
  refine ⟨_, mp4eFlushIndex_good h hpending ht.fair, .sequential t.mux.tracks ht.one.1 ht.one.2
    ?_ ?_⟩
  · have hsamples := hsettled.samples
    rw [Option.toList_none, List.map_nil, List.append_nil] at hsamples
    exact hsamples
  · have hend : t.mux.writePos = (content t.token).length := by
      rw [hsettled.writePos, hsettled.file, List.length_append]
      rfl
    have hindex := content_wrote (s := { t with allocs := t.allocs.tail }) h ht.fair.token hend
      (boxMoov t.mux.enableFragmentation t.mux.tracks)
    unfold Muxing.indexed Muxing.patched
    rw [if_pos hsettled.sequentialModeFlag, hindex.1]
    change content t.token ++ boxMoov t.mux.enableFragmentation t.mux.tracks = _
    rw [hsettled.file, hsettled.enableFragmentation]

/-- `MP4E_close` completes and leaves a finished file. -/
theorem Layout.close (h : Stores writeCallback content good) {s : Muxing τ}
    {sets : ParameterSet → Bytes}
    {ss : List MediaSample} (hlayout : Layout s.mux (content s.token) fragmentation ss)
    (hs : Closable good sets s) :
    ∃ t, mp4eClose writeCallback s = .ok ⟨⟩ t ∧
      Finished sets (content t.token) ss fragmentation := by
  have hrun : mp4eClose writeCallback s =
      (onlyIf (s.mux.enableFragmentation = false) (mp4eFlushIndex writeCallback) :
        Mp4 τ PUnit) s := rfl
  rw [hrun]
  cases hlayout with
  | standard hlayout =>
      rw [onlyIf_of hlayout.enableFragmentation]
      exact hlayout.flush h hs
  | sequential hlayout =>
      rw [onlyIf_of hlayout.enableFragmentation]
      exact hlayout.flush h hs
  | fragmented hlayout =>
      rcases hlayout.file with ⟨tr, hnone, hsmaller, hfile⟩
      rw [onlyIf_of_not (by simp [hlayout.enableFragmentation])]
      refine ⟨s, rfl, .fragmented tr hnone ?_ hfile⟩
      intro kind
      rw [← hs.one.2 kind]
      exact hsmaller kind

end Callback

end Minimp4
end PixelPilot
