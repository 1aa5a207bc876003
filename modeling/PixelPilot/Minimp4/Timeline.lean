import Mathlib.Data.List.TakeWhile
import PixelPilot.Minimp4.Waiting

/-!
# The timeline of a track

A sample is in the track once its descriptor, or in a fragmented file its fragment
header, is in place: from then on the file is longer by its duration, whether its
data are written or not.

Main results:

- Definition `Mux.timeline`: the ticks of the samples in a track.
- Theorem `mp4ePutSample_eq`: putting a sample, cut where it enters the track.
- Theorem `beginPut_grows`: what the first part adds to the timeline.
- Theorem `writeNals_grows`: the NAL units of a started writer add one sample each,
  parameter sets excepted.
-/

namespace PixelPilot
namespace Minimp4

open Fallible Fallible.Discipline

/-! ## Ticks -/

/-- The ticks of the sample descriptors of a track. -/
def Track.ticks (tr : Track) : Nat := (tr.smpl.data.map Sample.duration).sum

/-- The ticks of the samples in the track numbered `n`. -/
def Mux.timeline (mux : Mux) (n : Nat) : Nat :=
  if mux.enableFragmentation then mux.fragmentDurations.sum else (mux.track n).ticks

/-- The track exists and has its vector of sample descriptors. -/
def Mux.TrackReady (mux : Mux) (n : Nat) : Prop :=
  n < mux.tracks.length ∧ (mux.track n).smpl.allocated = true

/-- Changing the fields of one entry that the result does not read. -/
theorem map_modify_eq {α β : Type} (g : α → β) (f : α → α) (h : ∀ a, g (f a) = g a)
    (l : List α) (i : Nat) : (l.modify i f).map g = l.map g := by
  apply List.ext_getElem?
  intro j
  rw [List.getElem?_map, List.getElem?_map, List.getElem?_modify]
  by_cases hij : i = j
  · cases l[j]? with
    | none => simp
    | some a => simp [hij, h]
  · simp [hij]

/-- A change of one track that keeps what is read of it keeps it for all tracks. -/
theorem track_modify {β : Type} (g : Track → β) (f : Track → Track)
    (h : ∀ tr, g (f tr) = g tr) (tracks : List Track) (i n : Nat) :
    g ((tracks.modify i f).getD n {}) = g (tracks.getD n {}) := by
  rw [List.getD_eq_getElem?_getD, List.getD_eq_getElem?_getD, List.getElem?_modify]
  by_cases hin : i = n
  · cases tracks[n]? with
    | none => simp
    | some tr => simp [hin, h]
  · simp [hin]

/-- Growing a vector keeps its elements. -/
theorem minimp4VectorAllocTail_data {α : Type} (sizeof : Nat) {h : Vec α} (bytes : Nat)
    (allocs : List Bool) (halloc : h.allocated = true) :
    (minimp4VectorAllocTail sizeof h bytes allocs).1.2.data = h.data ∧
      (minimp4VectorAllocTail sizeof h bytes allocs).1.2.allocated = true := by
  have hrun : minimp4VectorAllocTail sizeof h bytes allocs =
      (if h.capacity - h.data.length * sizeof < bytes then minimp4VectorGrow h bytes
        else pure (true, h) : Alloc (Bool × Vec α)) allocs := by
    unfold minimp4VectorAllocTail
    rw [halloc, if_pos rfl]
    rfl
  rw [hrun]
  split
  · have hgrow : (minimp4VectorGrow h bytes allocs).1.2 =
        if (malloc allocs).1 then
          { h with capacity :=
            if h.capacity * 2 + 1024 < h.capacity + bytes then h.capacity + bytes + 1024
            else h.capacity * 2 + 1024 }
        else h := rfl
    rw [hgrow]
    split
    · exact ⟨rfl, halloc⟩
    · exact ⟨rfl, halloc⟩
  · exact ⟨rfl, halloc⟩

/-- Putting elements into an allocated vector appends them, or leaves the vector
alone. -/
theorem minimp4VectorPut_data {α : Type} (sizeof : Nat) {h : Vec α} (buf : List α)
    (allocs : List Bool) (halloc : h.allocated = true) :
    (minimp4VectorPut sizeof h buf allocs).1.2.data =
        (if (minimp4VectorPut sizeof h buf allocs).1.1 then h.data ++ buf else h.data) ∧
      (minimp4VectorPut sizeof h buf allocs).1.2.allocated = true := by
  rcases minimp4VectorAllocTail_data sizeof (buf.length * sizeof) allocs halloc with
    ⟨hdata, hstill⟩
  have hrun : (minimp4VectorPut sizeof h buf allocs).1 =
      let r := (minimp4VectorAllocTail sizeof h (buf.length * sizeof) allocs).1
      (r.1, if r.1 then { r.2 with data := r.2.data ++ buf } else r.2) := rfl
  rw [hrun]
  simp only
  split
  · exact ⟨by rw [hdata], hstill⟩
  · exact ⟨hdata, hstill⟩

section Callback

variable {τ : Type} (writeCallback : Nat → Bytes → τ → Int × τ)

/-! ## Steps that leave the timeline alone -/

/-- The timeline of track `n` is the same in both states. -/
structure SameTimeline (n : Nat) (s t : Muxing τ) : Prop where
  timeline : t.mux.timeline n = s.mux.timeline n
  ready : s.mux.TrackReady n → t.mux.TrackReady n
  fragmented : t.mux.enableFragmentation = s.mux.enableFragmentation
  writer : t.writer = s.writer

theorem SameTimeline.refl (n : Nat) (s : Muxing τ) : SameTimeline n s s :=
  ⟨rfl, id, rfl, rfl⟩

theorem SameTimeline.trans {n : Nat} {s t u : Muxing τ} (h : SameTimeline n s t)
    (h' : SameTimeline n t u) : SameTimeline n s u where
  timeline := h'.timeline.trans h.timeline
  ready := h'.ready ∘ h.ready
  fragmented := h'.fragmented.trans h.fragmented
  writer := h'.writer.trans h.writer

/-- Completed or failed, a run leaves the timeline alone. -/
def keepsTimeline (n : Nat) : Discipline Int (Muxing τ) where
  done s t := SameTimeline n s t
  fails _ s t := SameTimeline n s t
  refl s := SameTimeline.refl n s
  trans h h' := h.trans h'
  after h h' := h.trans h'

/-- A state that differs in nothing the timeline depends on. -/
theorem SameTimeline.of_mux {n : Nat} {s t : Muxing τ} (htracks : t.mux.tracks = s.mux.tracks)
    (hfragments : t.mux.fragmentDurations = s.mux.fragmentDurations)
    (hmode : t.mux.enableFragmentation = s.mux.enableFragmentation)
    (hwriter : t.writer = s.writer) : SameTimeline n s t where
  timeline := by
    unfold Mux.timeline Mux.track
    rw [htracks, hfragments, hmode]
  ready h := by
    unfold Mux.TrackReady Mux.track at h ⊢
    rw [htracks]
    exact h
  fragmented := hmode
  writer := hwriter

/-- A change of a track that keeps its ticks. -/
theorem SameTimeline.mapTrack {n i : Nat} {f : Track → Track} (s : Muxing τ)
    (hticks : ∀ tr, (f tr).ticks = tr.ticks)
    (halloc : ∀ tr, (f tr).smpl.allocated = tr.smpl.allocated) :
    SameTimeline n s (s.mapTrack i f) where
  timeline := by
    unfold Mux.timeline Mux.track Muxing.mapTrack
    rw [track_modify Track.ticks f hticks]
  ready h := by
    unfold Mux.TrackReady Mux.track Muxing.mapTrack at *
    rw [track_modify (fun tr => tr.smpl.allocated) f halloc, List.length_modify]
    exact h
  fragmented := rfl
  writer := rfl

/-- A write leaves the timeline of track `n` as it is. -/
theorem callback_timeline (n offset : Nat) (buffer : Bytes) :
    (keepsTimeline n).Follows (callback writeCallback offset buffer) := by
  intro s
  unfold FollowsFrom callback
  by_cases hzero : (writeCallback offset buffer s.token).1 = 0
  · simp only [hzero, if_true]
    exact SameTimeline.of_mux rfl rfl rfl rfl
  · simp only [hzero, if_false]
    exact SameTimeline.of_mux rfl rfl rfl rfl

theorem writeNext_timeline (n : Nat) (buffer : Bytes) :
    (keepsTimeline n).Follows (writeNext writeCallback buffer) := by
  intro s
  apply followsFrom_get_bind
  refine Follows.bind (callback_timeline writeCallback n _ _) ?_ s
  intro _
  exact Follows.modify fun _ => SameTimeline.of_mux rfl rfl rfl rfl

theorem writeLast_timeline (n : Nat) (buffer : Bytes) :
    (keepsTimeline n).Follows (writeLast writeCallback buffer) := by
  intro s
  have hwrite := callback_timeline writeCallback n s.mux.writePos buffer s
  have hadvance : ∀ t : Muxing τ, SameTimeline n t (t.advance buffer.length) :=
    fun _ => SameTimeline.of_mux rfl rfl rfl rfl
  unfold FollowsFrom writeLast
  cases hrun : callback writeCallback s.mux.writePos buffer s with
  | ok _ t =>
      have hsame : SameTimeline n s t := hwrite.ok hrun
      exact hsame.trans (hadvance t)
  | error e t =>
      have hsame : SameTimeline n s t := hwrite.error hrun
      exact hsame.trans (hadvance t)

theorem lift_timeline {α : Type} (n : Nat) (m : Alloc α) :
    (keepsTimeline n).Follows (lift m : Mp4 τ α) :=
  fun _ => SameTimeline.of_mux rfl rfl rfl rfl

theorem throw_timeline {α : Type} (n : Nat) (e : Int) :
    (keepsTimeline n).Follows (throw e : Mp4 τ α) :=
  fun s => followsFrom_throw (SameTimeline.refl n s)

/-- Completing the last sample descriptor keeps its duration. -/
theorem completeLast_durations (size offset : Nat) (samples : List Sample) :
    (completeLast size offset samples).map Sample.duration = samples.map Sample.duration := by
  unfold completeLast
  rw [map_modify_eq]
  intro _
  rfl

/-- Writing the sample kept back leaves the timeline as it is. -/
theorem writePendingData_timeline (n trackNum : Nat) :
    (keepsTimeline n).Follows (writePendingData writeCallback trackNum) := by
  intro s
  apply followsFrom_get_bind
  refine Follows.onlyIf ?_ s
  apply Follows.bind (writeNext_timeline writeCallback n _)
  intro _
  apply Follows.bind
  · apply Follows.modify
    intro s
    apply SameTimeline.mapTrack
    · intro tr
      simp only [Track.ticks, completeLast_durations]
    · intro tr
      rfl
  intro _
  apply Follows.bind (writeNext_timeline writeCallback n _)
  intro _
  apply Follows.modify
  intro s
  exact SameTimeline.mapTrack s (fun _ => rfl) (fun _ => rfl)

/-- Writing the index leaves the timeline as it is. -/
theorem mp4eFlushIndex_timeline (n : Nat) :
    (keepsTimeline n).Follows (mp4eFlushIndex writeCallback) := by
  intro s
  apply followsFrom_get_bind
  refine Follows.bind
    (Follows.forM fun i _ => writePendingData_timeline writeCallback n i) ?_ s
  intro _
  apply Follows.bind (lift_timeline n malloc)
  intro base
  apply Follows.ite (throw_timeline n _)
  intro t
  apply followsFrom_get_bind
  refine Follows.bind (Follows.onlyIf (callback_timeline writeCallback n _ _)) ?_ t
  intro _
  exact writeLast_timeline writeCallback n _

/-- Keeping the data of a sample leaves the timeline as it is. -/
theorem putData_timeline (n trackNum : Nat) (data : Bytes) :
    (keepsTimeline n).Follows (putData writeCallback trackNum data) := by
  intro s
  apply followsFrom_get_bind
  refine Follows.ite ?_ (writeNext_timeline writeCallback n _) s
  apply Follows.bind (lift_timeline n _)
  intro _
  apply Follows.bind
  · apply Follows.modify
    intro s
    exact SameTimeline.mapTrack s (fun _ => rfl) (fun _ => rfl)
  intro _
  exact Follows.onlyIf (throw_timeline n _)

/-- Keeping a parameter set leaves the timeline as it is. -/
theorem mp4eSetParameterSet_timeline (n : Nat) (kind : ParameterSet) (trackId : Nat)
    (item : Bytes) :
    (keepsTimeline n).Follows (mp4eSetParameterSet kind trackId item : Mp4 τ Int) := by
  intro s
  apply followsFrom_get_bind
  refine Follows.bind (lift_timeline n _) ?_ s
  intro _
  apply Follows.bind
  · apply Follows.modify
    intro s
    apply SameTimeline.mapTrack
    · intro tr
      cases kind <;> rfl
    · intro tr
      cases kind <;> rfl
  intro _
  exact Follows.pure _

/-! ## A sample enters the track -/

/-- `MP4E_put_sample` up to the sample's descriptor or fragment header. -/
def beginPut (trackNum : Nat) (data : Bytes) (duration : Nat) (kind : SampleKind) :
    Mp4 τ PUnit := do
  let s ← get
  if s.mux.enableFragmentation then do
    modify fun s => { s with mux := { s.mux with fragmentsCount := s.mux.fragmentsCount + 1 } }
    onlyIf (s.mux.fragmentsCount = 0) (mp4eFlushIndex writeCallback)
    mp4eWriteFragmentHeader writeCallback trackNum data.length duration kind
  else putDescriptor writeCallback trackNum data duration kind

/-- The rest of `MP4E_put_sample`: the data of the sample. -/
def endPut (fragmented : Bool) (trackNum : Nat) (data : Bytes) : Mp4 τ PUnit :=
  if fragmented then do
    mp4eWriteMdatBox writeCallback (data.length + 8)
    writeNext writeCallback data
  else putData writeCallback trackNum data

/-- A run that goes on after a completed one. -/
theorem bind_ok {σ α β : Type} {m : EStateM Int σ α} {f : α → EStateM Int σ β} {s t : σ} {a : α}
    (h : m s = .ok a t) : (m >>= f) s = f a t := by
  change EStateM.bind m f s = _
  unfold EStateM.bind
  rw [h]

/-- A run that stops at a failed one. -/
theorem bind_error {σ α β : Type} {m : EStateM Int σ α} {f : α → EStateM Int σ β} {s t : σ}
    {e : Int} (h : m s = .error e t) : (m >>= f) s = .error e t := by
  change EStateM.bind m f s = _
  unfold EStateM.bind
  rw [h]

/-- `MP4E_put_sample`, cut where the sample enters the track. -/
theorem mp4ePutSample_eq (trackNum : Nat) (data : Bytes) (duration : Nat) (kind : SampleKind)
    (s : Muxing τ) :
    mp4ePutSample writeCallback trackNum data duration kind s =
      (beginPut writeCallback trackNum data duration kind >>= fun _ =>
        endPut writeCallback s.mux.enableFragmentation trackNum data) s := by
  have hbegin : (beginPut writeCallback trackNum data duration kind >>= fun _ =>
        endPut writeCallback s.mux.enableFragmentation trackNum data) s =
      ((if s.mux.enableFragmentation then do
        modify fun s =>
          { s with mux := { s.mux with fragmentsCount := s.mux.fragmentsCount + 1 } }
        onlyIf (s.mux.fragmentsCount = 0) (mp4eFlushIndex writeCallback)
        mp4eWriteFragmentHeader writeCallback trackNum data.length duration kind
      else putDescriptor writeCallback trackNum data duration kind) >>= fun _ =>
        endPut writeCallback s.mux.enableFragmentation trackNum data : Mp4 τ PUnit) s := rfl
  have hput : mp4ePutSample writeCallback trackNum data duration kind s =
      (if s.mux.enableFragmentation then putFragment writeCallback trackNum data duration kind
      else do
        putDescriptor writeCallback trackNum data duration kind
        putData writeCallback trackNum data : Mp4 τ PUnit) s := rfl
  rw [hbegin, hput]
  by_cases hmode : s.mux.enableFragmentation = true
  · rw [if_pos hmode, if_pos hmode]
    simp only [endPut, hmode, if_true, bind_assoc]
    rfl
  · simp only [endPut, hmode, if_false, Bool.false_eq_true]

/-- The state `t` is `s` with a sample of `d` ticks more in track `n`. -/
structure Longer (n d : Nat) (s t : Muxing τ) : Prop where
  timeline : t.mux.timeline n = s.mux.timeline n + d
  ready : t.mux.TrackReady n
  fragmented : t.mux.enableFragmentation = s.mux.enableFragmentation
  writer : t.writer = s.writer

/-- A completed run makes the timeline longer, a failed one leaves it alone. -/
def Grows (n d : Nat) (s : Muxing τ) : EStateM.Result Int (Muxing τ) PUnit → Prop
  | .ok _ t => Longer n d s t
  | .error _ t => SameTimeline n s t

/-- Steps before that leave the timeline alone. -/
theorem Grows.after {α : Type} {n d : Nat} {s : Muxing τ} {m : Mp4 τ α} {f : α → Mp4 τ PUnit}
    (hfirst : (keepsTimeline n).FollowsFrom s m)
    (hrest : ∀ a t, SameTimeline n s t → Grows n d t (f a t)) : Grows n d s ((m >>= f) s) := by
  cases hm : m s with
  | error e t =>
      rw [bind_error hm]
      exact hfirst.error hm
  | ok a t =>
      have hsame : SameTimeline n s t := hfirst.ok hm
      have hgrows := hrest a t hsame
      rw [bind_ok hm]
      cases hf : f a t with
      | ok b u =>
          rw [hf] at hgrows
          exact ⟨by rw [hgrows.timeline, hsame.timeline], hgrows.ready,
            hgrows.fragmented.trans hsame.fragmented, hgrows.writer.trans hsame.writer⟩
      | error e u =>
          rw [hf] at hgrows
          exact hsame.trans hgrows

/-- A new sample descriptor. -/
theorem addSampleDescriptor_grows {n d : Nat} (bytes : Nat) (kind : SampleKind) {s : Muxing τ}
    (hmode : s.mux.enableFragmentation = false) (hready : s.mux.TrackReady n) (hpos : d ≠ 0) :
    ∃ ok t, (addSampleDescriptor n bytes d kind : Mp4 τ Bool) s = .ok ok t ∧
      (ok = true → Longer n d s t) ∧ (ok = false → SameTimeline n s t) := by
  rcases hready with ⟨hlt, halloc⟩
  let smp : Sample :=
    { size := bytes, offset := s.mux.writePos, duration := if d ≠ 0 then d else defaultDuration,
      flagRandomAccess := kind = .randomAccess }
  rcases minimp4VectorPut_data sizeofSample [smp] s.allocs halloc with ⟨hdata, hstill⟩
  let r := minimp4VectorPut sizeofSample (s.mux.track n).smpl [smp] s.allocs
  let t : Muxing τ := { s with allocs := r.2 }
  have htrack : (t.mapTrack n fun tr => { tr with smpl := r.1.2 }).mux.track n =
      { s.mux.track n with smpl := r.1.2 } := by
    unfold Muxing.mapTrack Mux.track
    rw [List.getD_eq_getElem?_getD, List.getD_eq_getElem?_getD, List.getElem?_modify_eq,
      List.getElem?_eq_getElem hlt]
    rfl
  refine ⟨r.1.1, t.mapTrack n fun tr => { tr with smpl := r.1.2 }, rfl, ?_, ?_⟩
  · intro hok
    have hticks : r.1.2.data = (s.mux.track n).smpl.data ++ [smp] := by
      rw [hdata, if_pos hok]
    refine ⟨?_, ⟨?_, ?_⟩, rfl, rfl⟩
    · have hmode' : (t.mapTrack n fun tr => { tr with smpl := r.1.2 }).mux.enableFragmentation =
        false := hmode
      unfold Mux.timeline
      rw [hmode', hmode, htrack, if_neg Bool.false_ne_true, if_neg Bool.false_ne_true]
      simp only [Track.ticks, hticks, List.map_append, List.map_cons, List.map_nil,
        List.sum_append, List.sum_cons, List.sum_nil, smp, if_pos hpos, Nat.add_zero]
    · simp only [Muxing.mapTrack, List.length_modify]
      exact hlt
    · rw [htrack]
      exact hstill
  · intro hfull
    have hticks : r.1.2.data = (s.mux.track n).smpl.data := by
      rw [hdata, if_neg (by rw [hfull]; exact Bool.false_ne_true)]
    refine ⟨?_, ?_, rfl, rfl⟩
    · unfold Mux.timeline
      rw [htrack]
      simp only [Track.ticks, hticks]
      rfl
    · intro _
      refine ⟨?_, ?_⟩
      · simp only [Muxing.mapTrack, List.length_modify]
        exact hlt
      · rw [htrack]
        exact hstill

theorem get_timeline (n : Nat) (s : Muxing τ) :
    (keepsTimeline n).FollowsFrom s (get : Mp4 τ (Muxing τ)) :=
  SameTimeline.refl n s

/-- A new fragment header. -/
theorem mp4eWriteFragmentHeader_grows {n bytes d : Nat} {kind : SampleKind} {s : Muxing τ}
    (hmode : s.mux.enableFragmentation = true) (hready : s.mux.TrackReady n) :
    Grows n d s (mp4eWriteFragmentHeader writeCallback n bytes d kind s) := by
  apply Grows.after (get_timeline n s)
  intro _ t ht
  apply Grows.after (writeNext_timeline writeCallback n _ t)
  intro _ u hu
  have hmode' := (ht.trans hu).fragmented.trans hmode
  have hready' := (ht.trans hu).ready hready
  refine ⟨?_, hready', rfl, rfl⟩
  unfold Mux.timeline
  simp only [hmode', if_true, List.sum_append, List.sum_cons, List.sum_nil, Nat.add_zero]

/-- The descriptor of a sample that is no continuation. -/
theorem putDescriptor_grows {n d : Nat} (data : Bytes) {kind : SampleKind} {s : Muxing τ}
    (hmode : s.mux.enableFragmentation = false) (hready : s.mux.TrackReady n)
    (hkind : kind ≠ .continuation) (hpos : d ≠ 0) :
    Grows n d s (putDescriptor writeCallback n data d kind s) := by
  have hrun : putDescriptor writeCallback n data d kind s =
      (do
        onlyIf s.mux.sequentialModeFlag (writePendingData writeCallback n)
        let ok ← addSampleDescriptor n data.length d kind
        onlyIf (ok = false) (throw mp4eStatusNoMemory) : Mp4 τ PUnit) s := by
    change (if kind ≠ .continuation then _ else _ : Mp4 τ PUnit) s = _
    rw [if_pos hkind]
  rw [hrun]
  apply Grows.after (Follows.onlyIf (writePendingData_timeline writeCallback n n) s)
  intro _ t ht
  rcases addSampleDescriptor_grows data.length kind
    (ht.fragmented.trans hmode) (ht.ready hready) hpos with ⟨ok, u, hadd, hlonger, hsame⟩
  rw [bind_ok hadd]
  cases ok with
  | true => exact hlonger rfl
  | false => exact hsame rfl

/-- The first part of putting a sample makes the timeline longer if it completes. -/
theorem beginPut_grows {n d : Nat} (data : Bytes) {kind : SampleKind} {s : Muxing τ}
    (hready : s.mux.TrackReady n) (hkind : kind ≠ .continuation) (hpos : d ≠ 0) :
    Grows n d s (beginPut writeCallback n data d kind s) := by
  by_cases hmode : s.mux.enableFragmentation = true
  · have hrun : beginPut writeCallback n data d kind s =
        (do
          modify fun s =>
            { s with mux := { s.mux with fragmentsCount := s.mux.fragmentsCount + 1 } }
          onlyIf (s.mux.fragmentsCount = 0) (mp4eFlushIndex writeCallback)
          mp4eWriteFragmentHeader writeCallback n data.length d kind : Mp4 τ PUnit) s := by
      change (if s.mux.enableFragmentation then _ else _ : Mp4 τ PUnit) s = _
      rw [if_pos hmode]
    rw [hrun]
    apply Grows.after (followsFrom_modify (SameTimeline.of_mux rfl rfl rfl rfl))
    intro _ t ht
    apply Grows.after (Follows.onlyIf (mp4eFlushIndex_timeline writeCallback n) t)
    intro _ u hu
    exact mp4eWriteFragmentHeader_grows writeCallback
      ((ht.trans hu).fragmented.trans hmode) ((ht.trans hu).ready hready)
  · rw [Bool.not_eq_true] at hmode
    have hrun : beginPut writeCallback n data d kind s =
        putDescriptor writeCallback n data d kind s := by
      change (if s.mux.enableFragmentation then _ else _ : Mp4 τ PUnit) s = _
      rw [hmode, if_neg Bool.false_ne_true]
    rw [hrun]
    exact putDescriptor_grows writeCallback data hmode hready hkind hpos

/-- The data of a sample do not touch the timeline. -/
theorem endPut_timeline (n : Nat) (fragmented : Bool) (trackNum : Nat) (data : Bytes) :
    (keepsTimeline n).Follows (endPut writeCallback fragmented trackNum data) := by
  unfold endPut
  apply Follows.ite
  · apply Follows.bind (writeNext_timeline writeCallback n _)
    intro _
    exact writeNext_timeline writeCallback n _
  · exact putData_timeline writeCallback n trackNum data

/-! ## NAL units -/

/-- The default case of `mp4_h265_write_nal`, up to the sample's descriptor or
fragment header. -/
def beginSample (nal : Bytes) (timeStamp90kHzNext : Nat) : Mp4 τ PUnit := do
  let s ← get
  let tmp ← lift malloc
  if !tmp then throw mp4eStatusNoMemory
  else
    beginPut writeCallback s.writer.muxTrackId (write4 nal.length ++ nal) timeStamp90kHzNext
      (if isIntra nal then .randomAccess else .default)

/-- The rest of the default case. -/
def endSample (fragmented : Bool) (trackNum : Nat) (nal : Bytes) : Mp4 τ PUnit :=
  endPut writeCallback fragmented trackNum (write4 nal.length ++ nal)

/-- A sample of a writer that has started, cut where it enters the track. -/
theorem writeSample_eq {nal : Bytes} {timeStamp90kHzNext : Nat} {s : Muxing τ}
    (hstarted : s.writer.lacks = false) :
    writeSample writeCallback nal timeStamp90kHzNext s =
      (beginSample writeCallback nal timeStamp90kHzNext >>= fun _ =>
        endSample writeCallback s.mux.enableFragmentation s.writer.muxTrackId nal) s := by
  let t : Muxing τ := { s with allocs := (malloc s.allocs).2 }
  have hwrite : writeSample writeCallback nal timeStamp90kHzNext s =
      (if !(malloc s.allocs).1 then throw mp4eStatusNoMemory
        else mp4ePutSample writeCallback s.writer.muxTrackId (write4 nal.length ++ nal)
          timeStamp90kHzNext (if isIntra nal then .randomAccess else .default) :
        Mp4 τ PUnit) t := by
    change (if s.writer.lacks then throw mp4eStatusBadArguments else _ : Mp4 τ PUnit) s = _
    rw [hstarted, if_neg Bool.false_ne_true]
    rfl
  have hbegin : beginSample writeCallback nal timeStamp90kHzNext s =
      (if !(malloc s.allocs).1 then throw mp4eStatusNoMemory
        else beginPut writeCallback s.writer.muxTrackId (write4 nal.length ++ nal)
          timeStamp90kHzNext (if isIntra nal then .randomAccess else .default) :
        Mp4 τ PUnit) t := rfl
  rw [hwrite]
  by_cases hmemory : (malloc s.allocs).1 = true
  · rw [hmemory, Bool.not_true, if_neg Bool.false_ne_true] at hbegin ⊢
    rw [mp4ePutSample_eq]
    cases hrun : beginPut writeCallback s.writer.muxTrackId (write4 nal.length ++ nal)
        timeStamp90kHzNext (if isIntra nal then .randomAccess else .default) t with
    | ok _ u =>
        rw [bind_ok hrun, bind_ok (hbegin.trans hrun)]
        rfl
    | error e u => rw [bind_error hrun, bind_error (hbegin.trans hrun)]
  · rw [Bool.not_eq_true] at hmemory
    rw [hmemory, Bool.not_false, if_pos rfl] at hbegin ⊢
    exact (bind_error hbegin).symm

/-- Whether a run completed. -/
def completes {σ : Type} : EStateM.Result Int σ PUnit → Bool
  | .ok _ _ => true
  | .error _ _ => false

/-- A sample that begins grows the timeline by its duration, unless it is refused. -/
theorem beginSample_grows {d : Nat} (nal : Bytes) {s : Muxing τ}
    (hready : s.mux.TrackReady s.writer.muxTrackId) (hpos : d ≠ 0) :
    Grows s.writer.muxTrackId d s (beginSample writeCallback nal d s) := by
  have hkind : (if isIntra nal then SampleKind.randomAccess else .default) ≠ .continuation := by
    split
    · decide
    · decide
  have hrun : beginSample writeCallback nal d s =
      (lift malloc >>= fun tmp =>
        if !tmp then throw mp4eStatusNoMemory
        else
          beginPut writeCallback s.writer.muxTrackId (write4 nal.length ++ nal) d
            (if isIntra nal then .randomAccess else .default) : Mp4 τ PUnit) s := rfl
  rw [hrun]
  apply Grows.after (lift_timeline s.writer.muxTrackId malloc s)
  intro tmp t ht
  cases tmp with
  | true => exact beginPut_grows writeCallback _ (ht.ready hready) hkind hpos
  | false => exact SameTimeline.refl _ t

/-- The state `t` is `s` with `k` samples of `d` ticks more in the writer's track. -/
structure Extends (k d : Nat) (s t : Muxing τ) : Prop where
  timeline : t.mux.timeline t.writer.muxTrackId = s.mux.timeline s.writer.muxTrackId + k * d
  ready : t.mux.TrackReady t.writer.muxTrackId

/-- Extensions add up. -/
theorem Extends.trans {k l d : Nat} {s t u : Muxing τ} (h : Extends k d s t)
    (h' : Extends l d t u) : Extends (k + l) d s u where
  timeline := by
    rw [h'.timeline, h.timeline, Nat.add_mul]
    omega
  ready := h'.ready

/-- A timeline that stays is extended by no sample. -/
theorem SameTimeline.extends {d : Nat} {s t : Muxing τ}
    (h : SameTimeline s.writer.muxTrackId s t)
    (hready : s.mux.TrackReady s.writer.muxTrackId) : Extends 0 d s t where
  timeline := by
    rw [h.writer, h.timeline]
    omega
  ready := by
    rw [h.writer]
    exact h.ready hready

/-- A timeline that grows is extended by one sample. -/
theorem Longer.extends {d : Nat} {s t : Muxing τ} (h : Longer s.writer.muxTrackId d s t) :
    Extends 1 d s t where
  timeline := by
    rw [h.writer, h.timeline]
    omega
  ready := by
    rw [h.writer]
    exact h.ready

/-- Flags of the writer do not matter. -/
theorem mapWriter_extends {d : Nat} {s : Muxing τ} {f : H26xWriter → H26xWriter}
    (hid : ∀ h, (f h).muxTrackId = h.muxTrackId)
    (hready : s.mux.TrackReady s.writer.muxTrackId) : Extends 0 d s (s.mapWriter f) where
  timeline := by
    simp only [Muxing.mapWriter, hid]
    omega
  ready := by
    simp only [Muxing.mapWriter, hid]
    exact hready

/-- A sample of a writer that has started: it fails before it is in the track, or it
is in the track and its data may fail. -/
theorem writeSample_extends {d : Nat} (nal : Bytes) {s : Muxing τ}
    (hstarted : s.writer.lacks = false) (hready : s.mux.TrackReady s.writer.muxTrackId)
    (hpos : d ≠ 0) :
    Extends (if completes (beginSample writeCallback nal d s) then 1 else 0) d s
        (status (writeSample writeCallback nal d s)).2 ∧
      (completes (beginSample writeCallback nal d s) = false →
        completes (writeSample writeCallback nal d s) = false) ∧
      (status (writeSample writeCallback nal d s)).2.writer = s.writer := by
  have hgrows := beginSample_grows writeCallback nal hready hpos
  rw [writeSample_eq writeCallback hstarted]
  cases hbegin : beginSample writeCallback nal d s with
  | error e t =>
      rw [hbegin] at hgrows
      rw [bind_error hbegin]
      exact ⟨hgrows.extends hready, fun _ => rfl, hgrows.writer⟩
  | ok _ t =>
      rw [hbegin] at hgrows
      rw [bind_ok hbegin]
      have hend := endPut_timeline writeCallback t.writer.muxTrackId s.mux.enableFragmentation
        s.writer.muxTrackId (write4 nal.length ++ nal) t
      have hready' := hgrows.extends.ready
      cases hrest : endSample writeCallback s.mux.enableFragmentation s.writer.muxTrackId nal t with
      | ok _ u =>
          have hsame : SameTimeline t.writer.muxTrackId t u := hend.ok hrest
          exact ⟨hgrows.extends.trans (hsame.extends hready'), fun h => Bool.noConfusion h,
            hsame.writer.trans hgrows.writer⟩
      | error e u =>
          have hsame : SameTimeline t.writer.muxTrackId t u := hend.error hrest
          exact ⟨hgrows.extends.trans (hsame.extends hready'), fun h => Bool.noConfusion h,
            hsame.writer.trans hgrows.writer⟩

/-- A NAL unit that is no parameter set. -/
theorem mp4H265WriteNal_sample {d : Nat} {nal : Bytes} (hsample : isParameterSet nal = false)
    (s : Muxing τ) :
    mp4H265WriteNal writeCallback d nal s =
      writeSample writeCallback nal d
        (s.mapWriter fun h => h.sawIntra (isIntra nal)) := by
  unfold isParameterSet at hsample
  simp only [Bool.or_eq_false_iff, decide_eq_false_iff_not] at hsample
  rcases hsample with ⟨⟨hvps, hsps⟩, hpps⟩
  rw [mp4H265WriteNal_eq, if_neg hvps, if_neg hsps, if_neg hpps]

theorem sawIntra_muxTrackId (h : H26xWriter) (intra : Bool) :
    (h.sawIntra intra).muxTrackId = h.muxTrackId := by
  unfold H26xWriter.sawIntra
  split
  · rfl
  · rfl

/-- A parameter set is no sample. -/
theorem mp4H265WriteNal_parameterSet {d : Nat} {nal : Bytes}
    (hset : isParameterSet nal = true) {s : Muxing τ}
    (hready : s.mux.TrackReady s.writer.muxTrackId) :
    ∃ t, mp4H265WriteNal writeCallback d nal s = .ok ⟨⟩ t ∧ Extends 0 d s t := by
  have hstored : ∀ (kind : ParameterSet) (f : H26xWriter → H26xWriter),
      (∀ h, (f h).muxTrackId = h.muxTrackId) →
      ∃ t, (mp4eSetParameterSet kind s.writer.muxTrackId nal >>= fun _ =>
        modify fun s => s.mapWriter f : Mp4 τ PUnit) s = .ok ⟨⟩ t ∧ Extends 0 d s t := by
    intro kind f hid
    have hfollows := mp4eSetParameterSet_timeline s.writer.muxTrackId kind s.writer.muxTrackId
      nal s
    cases hrun : mp4eSetParameterSet kind s.writer.muxTrackId nal s with
    | error e t => cases hrun
    | ok v t =>
        have hsame : SameTimeline s.writer.muxTrackId s t := hfollows.ok hrun
        have hextends := hsame.extends (d := d) hready
        exact ⟨_, bind_ok hrun, hextends.trans (mapWriter_extends hid hextends.ready)⟩
  have hintra := H26xWriter.isIntra_of_parameterSet hset
  unfold isParameterSet at hset
  simp only [Bool.or_eq_true, decide_eq_true_eq] at hset
  rw [mp4H265WriteNal_eq, hintra]
  by_cases hvps : payloadType nal = hevcNalVps
  · rw [if_pos hvps]
    exact hstored .vps _ fun _ => rfl
  · rw [if_neg hvps]
    by_cases hsps : payloadType nal = hevcNalSps
    · rw [if_pos hsps]
      exact hstored .sps _ fun _ => rfl
    · have hpps : payloadType nal = hevcNalPps := by
        rcases hset with (h | h) | h
        · exact absurd h hvps
        · exact absurd h hsps
        · exact h
      rw [if_neg hsps, if_pos hpps]
      exact hstored .pps _ fun _ => rfl

/-- Parameter sets are stored, one after another. -/
theorem writeSets_extends {d : Nat} {sets : List Bytes}
    (hsets : ∀ nal ∈ sets, isParameterSet nal = true) {s : Muxing τ}
    (hready : s.mux.TrackReady s.writer.muxTrackId) :
    ∃ t, sets.forM (mp4H265WriteNal writeCallback d) s = .ok ⟨⟩ t ∧ Extends 0 d s t := by
  induction sets generalizing s with
  | nil =>
      refine ⟨s, rfl, ?_, hready⟩
      omega
  | cons nal rest ih =>
      rcases mp4H265WriteNal_parameterSet writeCallback (d := d) (hsets nal List.mem_cons_self)
        hready with ⟨t, hrun, hfirst⟩
      rcases ih (fun other hmem => hsets other (List.mem_cons_of_mem nal hmem)) hfirst.ready with
        ⟨u, hrest, hlater⟩
      exact ⟨u, (forM_cons_ok hrun).trans hrest, hfirst.trans hlater⟩

/-- The number of NAL units that become samples. -/
def sampleCount (units : List Bytes) : Nat :=
  (units.filter fun nal => !isParameterSet nal).length

/-- The NAL units of a writer that has started add one sample each, parameter sets
excepted, as long as none fails. -/
theorem writeNals_grows {d : Nat} (units : List Bytes) {s : Muxing τ}
    (hstarted : s.writer.lacks = false) (hready : s.mux.TrackReady s.writer.muxTrackId)
    (hpos : d ≠ 0) :
    ∃ k, Extends k d s (status (units.forM (mp4H265WriteNal writeCallback d) s)).2 ∧
      (completes (units.forM (mp4H265WriteNal writeCallback d) s) = true →
        k = sampleCount units) := by
  induction units generalizing s with
  | nil =>
      refine ⟨0, ⟨?_, hready⟩, fun _ => rfl⟩
      rw [Nat.zero_mul, Nat.add_zero]
      rfl
  | cons nal rest ih =>
      have hends := mp4H265WriteNal_visit writeCallback d nal s
      rw [H26xWriter.visit_started hstarted] at hends
      by_cases hset : isParameterSet nal = true
      · rcases mp4H265WriteNal_parameterSet writeCallback (d := d) hset hready with
          ⟨t, hrun, hfirst⟩
        rw [hrun] at hends
        have hstarted' : t.writer.lacks = false := by
          rw [hends.2]
          exact hstarted
        rcases ih hstarted' hfirst.ready with ⟨k, hextends, hcount⟩
        rw [forM_cons_ok hrun]
        refine ⟨0 + k, hfirst.trans hextends, ?_⟩
        intro hcompletes
        rw [hcount hcompletes, Nat.zero_add]
        simp only [sampleCount, List.filter_cons, hset, Bool.not_true, Bool.false_eq_true,
          if_false]
      · rw [Bool.not_eq_true] at hset
        have hsame : (s.mapWriter fun h => h.sawIntra (isIntra nal)) = s := by
          simp only [Muxing.mapWriter, H26xWriter.sawIntra_started hstarted]
        rcases writeSample_extends writeCallback nal hstarted hready hpos with
          ⟨hextends, hbegin, hwriter⟩
        have hrun := mp4H265WriteNal_sample writeCallback (d := d) hset s
        rw [hsame] at hrun
        cases hwrite : writeSample writeCallback nal d s with
        | error e t =>
            rw [hwrite] at hextends
            rw [forM_cons_error (hrun.trans hwrite)]
            exact ⟨_, hextends, fun h => Bool.noConfusion h⟩
        | ok _ t =>
            rw [hwrite] at hextends hbegin hwriter
            have hentered : completes (beginSample writeCallback nal d s) = true := by
              by_contra hnot
              exact absurd (hbegin (by simpa using hnot)) (by simp [completes])
            rw [hentered, if_pos rfl] at hextends
            have hstarted' : t.writer.lacks = false := by
              exact (congrArg H26xWriter.lacks hwriter).trans hstarted
            rcases ih hstarted' hextends.ready with ⟨k, hlater, hcount⟩
            rw [forM_cons_ok (hrun.trans hwrite)]
            refine ⟨1 + k, hextends.trans hlater, ?_⟩
            intro hcompletes
            rw [hcount hcompletes]
            simp only [sampleCount, List.filter_cons, hset, Bool.not_false, if_true,
              List.length_cons]
            omega

/-! ## Access units -/

/-- The state in which the writer meets the first NAL unit that is no parameter
set. -/
def atSample (d : Nat) (units : List Bytes) (nal : Bytes) (s : Muxing τ) : Muxing τ :=
  (status ((units.takeWhile isParameterSet).forM (mp4H265WriteNal writeCallback d) s)).2.mapWriter
    fun h => h.sawIntra (isIntra nal)

/-- The NAL units have a first one that becomes a sample, and the writer refuses it, or
fails before it is in the track, or writes it and meets only parameter sets after
it. -/
def AddsOnce (d : Nat) (units : List Bytes) (s : Muxing τ) : Prop :=
  ∃ nal rest, units.dropWhile isParameterSet = nal :: rest ∧
    (s.writer.admits units = false ∨
      completes (beginSample writeCallback nal d (atSample writeCallback d units nal s)) = false ∨
      completes (writeSample writeCallback nal d (atSample writeCallback d units nal s)) = true ∧
        rest.all isParameterSet = true)

instance (d : Nat) (units : List Bytes) (s : Muxing τ) :
    Decidable (AddsOnce writeCallback d units s) :=
  match h : units.dropWhile isParameterSet with
  | [] => .isFalse (by
      rintro ⟨nal, rest, hcons, -⟩
      rw [h] at hcons
      contradiction)
  | nal :: rest =>
      decidable_of_iff (s.writer.admits units = false ∨
        completes (beginSample writeCallback nal d (atSample writeCallback d units nal s)) = false ∨
        completes (writeSample writeCallback nal d (atSample writeCallback d units nal s)) = true ∧
          rest.all isParameterSet = true) (by
        constructor
        · exact fun hcases => ⟨nal, rest, h, hcases⟩
        · rintro ⟨nal', rest', hcons, hcases⟩
          rw [h, List.cons.injEq] at hcons
          rcases hcons with ⟨rfl, rfl⟩
          exact hcases)

/-- No sample is made exactly if all units are parameter sets. -/
theorem sampleCount_eq_zero (units : List Bytes) :
    sampleCount units = 0 ↔ units.all isParameterSet = true := by
  unfold sampleCount
  rw [List.length_eq_zero_iff, List.filter_eq_nil_iff, List.all_eq_true]
  simp

/-- The first NAL unit that is no parameter set. -/
theorem not_parameterSet_of_dropWhile {units rest : List Bytes} {nal : Bytes}
    (h : units.dropWhile isParameterSet = nal :: rest) : isParameterSet nal = false := by
  have hhead := List.head?_dropWhile_not isParameterSet units
  rw [h] at hhead
  exact hhead

/-- A NAL unit that a writer refuses ends the access unit before any sample. -/
theorem writeSample_refused {d : Nat} {nal : Bytes} {s : Muxing τ}
    (hlacks : s.writer.lacks = true) :
    writeSample writeCallback nal d s = .error mp4eStatusBadArguments s := by
  change (if s.writer.lacks then throw mp4eStatusBadArguments else _ : Mp4 τ PUnit) s = _
  rw [if_pos hlacks]
  rfl

/-- From the first NAL unit on that is no parameter set: the samples added are those
counted exactly when it is refused, fails early, or is the only one and is
written. -/
theorem writeSamples_adds_iff {d : Nat} {nal : Bytes} (rest : List Bytes) {s : Muxing τ}
    (hsample : isParameterSet nal = false) (hready : s.mux.TrackReady s.writer.muxTrackId)
    (hpos : d ≠ 0) :
    let t := s.mapWriter fun h => h.sawIntra (isIntra nal)
    ∃ k, Extends k d s (status ((nal :: rest).forM (mp4H265WriteNal writeCallback d) s)).2 ∧
      ((k = if completes ((nal :: rest).forM (mp4H265WriteNal writeCallback d) s) then 1
          else 0) ↔
        t.writer.lacks = true ∨ completes (beginSample writeCallback nal d t) = false ∨
          completes (writeSample writeCallback nal d t) = true ∧
            rest.all isParameterSet = true) ∧
      (t.writer.lacks = false →
        (status ((nal :: rest).forM (mp4H265WriteNal writeCallback d) s)).2.writer.lacks =
          false) := by
  intro t
  have hflags : Extends 0 d s t :=
    mapWriter_extends (fun h => sawIntra_muxTrackId h (isIntra nal)) hready
  have hrun : mp4H265WriteNal writeCallback d nal s = writeSample writeCallback nal d t :=
    mp4H265WriteNal_sample writeCallback hsample s
  by_cases hlacks : t.writer.lacks = true
  · rw [forM_cons_error (hrun.trans (writeSample_refused writeCallback hlacks))]
    refine ⟨0, hflags, ?_, ?_⟩
    · exact ⟨fun _ => Or.inl hlacks, fun _ => rfl⟩
    · intro hstarted
      exact absurd (hlacks.symm.trans hstarted) (by decide)
  · rw [Bool.not_eq_true] at hlacks
    rcases writeSample_extends writeCallback nal hlacks hflags.ready hpos with
      ⟨hextends, hbegin, hwriter⟩
    cases hwrite : writeSample writeCallback nal d t with
    | error e u =>
        rw [hwrite] at hextends hwriter
        rw [forM_cons_error (hrun.trans hwrite)]
        refine ⟨_, hflags.trans hextends, ?_, fun _ => ?_⟩
        · cases completes (beginSample writeCallback nal d t) with
          | false => simp [completes]
          | true => simp [completes, hlacks]
        · exact (congrArg H26xWriter.lacks hwriter).trans hlacks
    | ok _ u =>
        rw [hwrite] at hextends hwriter hbegin
        have hentered : completes (beginSample writeCallback nal d t) = true := by
          by_contra hnot
          exact absurd (hbegin (by simpa using hnot)) (by simp [completes])
        rw [hentered, if_pos rfl] at hextends
        have hready' : u.mux.TrackReady u.writer.muxTrackId := hextends.ready
        have hstarted : u.writer.lacks = false :=
          (congrArg H26xWriter.lacks hwriter).trans hlacks
        rcases writeNals_grows writeCallback rest hstarted hready' hpos with
          ⟨k, hlater, hcount⟩
        have hends := writeNals_scan writeCallback rest d u
        rw [H26xWriter.scan_started hstarted] at hends
        rw [forM_cons_ok (hrun.trans hwrite)]
        refine ⟨0 + (1 + k), hflags.trans (hextends.trans hlater), ?_, fun _ => ?_⟩
        · have hzero : k = 0 ∧ completes (rest.forM (mp4H265WriteNal writeCallback d) u) = true ↔
              rest.all isParameterSet = true := by
            constructor
            · rintro ⟨hk, hcompletes⟩
              rw [hcount hcompletes] at hk
              exact (sampleCount_eq_zero rest).mp hk
            · intro hall
              have hsets : ∀ other ∈ rest, isParameterSet other = true :=
                List.all_eq_true.mp hall
              rcases writeSets_extends writeCallback (d := d) hsets hready' with
                ⟨v, hrest, -⟩
              have hcompletes :
                  completes (rest.forM (mp4H265WriteNal writeCallback d) u) = true := by
                rw [hrest]
                rfl
              refine ⟨?_, hcompletes⟩
              rw [hcount hcompletes]
              exact (sampleCount_eq_zero rest).mpr hall
          rw [← hzero, hentered, hlacks]
          cases completes (rest.forM (mp4H265WriteNal writeCallback d) u) with
          | true => simp [completes]
          | false => simp
        · rw [hends.writer]
          exact hstarted

/-- The timeline grows by what is counted for the access unit exactly when it adds one
sample or is not written. -/
theorem writeNals_adds_iff {d : Nat} (units : List Bytes) {s : Muxing τ}
    (hready : s.mux.TrackReady s.writer.muxTrackId) (hpos : d ≠ 0) :
    ∃ k, Extends k d s (status (units.forM (mp4H265WriteNal writeCallback d) s)).2 ∧
      ((k = if completes (units.forM (mp4H265WriteNal writeCallback d) s) then 1 else 0) ↔
        AddsOnce writeCallback d units s) := by
  have hsets : ∀ nal ∈ units.takeWhile isParameterSet, isParameterSet nal = true :=
    fun nal hnal => List.mem_takeWhile_imp hnal
  rcases writeSets_extends writeCallback (d := d) hsets hready with ⟨t, hrun, hfirst⟩
  have hsplit : units = units.takeWhile isParameterSet ++ units.dropWhile isParameterSet :=
    (List.takeWhile_append_dropWhile).symm
  have hforM : units.forM (mp4H265WriteNal writeCallback d) s =
      (units.dropWhile isParameterSet).forM (mp4H265WriteNal writeCallback d) t := by
    have happend : (units.takeWhile isParameterSet ++ units.dropWhile isParameterSet).forM
          (mp4H265WriteNal writeCallback d) =
        (units.takeWhile isParameterSet).forM (mp4H265WriteNal writeCallback d) >>= fun _ =>
          (units.dropWhile isParameterSet).forM (mp4H265WriteNal writeCallback d) :=
      List.forM_append
    rw [← hsplit] at happend
    rw [happend]
    exact bind_ok hrun
  have hscan := writeNals_scan writeCallback units d s
  rw [hforM] at hscan ⊢
  cases hdrop : units.dropWhile isParameterSet with
  | nil =>
      refine ⟨0, ⟨hfirst.timeline, hfirst.ready⟩, ?_⟩
      constructor
      · intro h
        exact absurd h (by simp [completes, pure, EStateM.pure])
      · rintro ⟨nal, rest, hcons, -⟩
        rw [hdrop] at hcons
        contradiction
  | cons nal rest =>
      rw [hdrop] at hscan
      have hsample := not_parameterSet_of_dropWhile hdrop
      rcases writeSamples_adds_iff writeCallback rest hsample hfirst.ready hpos with
        ⟨k, hextends, hiff, hwriter⟩
      have hat : atSample writeCallback d units nal s =
          t.mapWriter fun h => h.sawIntra (isIntra nal) := by
        unfold atSample
        rw [hrun]
        rfl
      have hadmits : s.writer.admits units = false ↔
          (t.mapWriter fun h => h.sawIntra (isIntra nal)).writer.lacks = true := by
        have hrefused := H26xWriter.scan_refused s.writer units
        constructor
        · intro hadmits
          rw [hadmits, Bool.not_false] at hrefused
          have hlacks := H26xWriter.scan_refused_lacks hrefused
          by_contra hnot
          rw [Bool.not_eq_true] at hnot
          have hstarted := hwriter hnot
          rw [hscan.writer, hlacks] at hstarted
          contradiction
        · intro hlacks
          have hstops := (mp4H265WriteNal_sample writeCallback (d := d) hsample t).trans
            (writeSample_refused writeCallback hlacks)
          rw [forM_cons_error hstops] at hscan
          rcases hscan with ⟨hsame, ⟨hyes, -⟩ | ⟨-, hstarted⟩⟩
          · rw [hyes] at hrefused
            simpa using hrefused.symm
          · rw [← hsame, hlacks] at hstarted
            contradiction
      refine ⟨0 + k, hfirst.trans hextends, ?_⟩
      rw [Nat.zero_add, hiff]
      unfold AddsOnce
      constructor
      · intro h
        refine ⟨nal, rest, hdrop, ?_⟩
        rw [hadmits, hat]
        exact h
      · rintro ⟨nal', rest', hcons, h⟩
        rw [hdrop, List.cons.injEq] at hcons
        rcases hcons with ⟨rfl, rfl⟩
        rw [hadmits, hat] at h
        exact h

end Callback

end Minimp4
end PixelPilot
