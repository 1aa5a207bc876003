import PixelPilot.Minimp4.Timeline
import PixelPilot.Recorder.SampleFlow

/-!
# The media duration and the file's timeline

`emit_pending` counts the duration of an access unit once if the writer returns
`MP4E_STATUS_OK`.  The writer puts a sample into the track for every NAL unit that is
no parameter set, and keeps the samples it has put when a later step fails.

Main results:

- Definition `TimelineAgrees`: after every call the total is the length of the
  recorder's track.
- Theorem `emitBefore_agrees`: one call keeps them equal exactly when the access unit
  adds one sample or none is counted.
- Theorem `timeline_agrees_iff`: the same for the life of a recorder.
- Theorem `two_slices_counted_once`: a picture of two slices is counted once and lasts
  twice as long in the file.
-/

namespace PixelPilot
namespace Recorder

open Minimp4 Fallible Fallible.Discipline

/-! ## Errors are not zero -/

/-- Failed runs return a status other than 0. -/
def nonzeroErrors {τ : Type} : Discipline Int τ where
  done _ _ := True
  fails e _ _ := e ≠ mp4eStatusOk
  refl _ := trivial
  trans _ _ := trivial
  after _ h := h

/-- The status of an access unit is `MP4E_STATUS_OK` exactly if its write completed. -/
theorem mp4H26xWriteNal_ok_iff {τ : Type} (writeCallback : Nat → Bytes → τ → Int × τ)
    (data : Bytes) (duration90k : Nat) (s : Muxing τ) :
    (status (mp4H26xWriteNal writeCallback data duration90k s)).1 = mp4eStatusOk ↔
      completes (mp4H26xWriteNal writeCallback data duration90k s) = true := by
  have hcallback : CallbackFollows writeCallback (nonzeroErrors : Discipline Int τ) :=
    fun _ _ _ => ⟨fun _ => trivial, fun hne => hne⟩
  have hfollows := mp4H26xWriteNal_follows hcallback data duration90k s
  cases hrun : mp4H26xWriteNal writeCallback data duration90k s with
  | ok _ t => exact ⟨fun _ => rfl, fun _ => rfl⟩
  | error e t =>
      have hne : e ≠ mp4eStatusOk := by
        rcases hfollows.error hrun with ⟨hfails, -⟩ | ⟨rfl, -⟩ | ⟨rfl, -⟩
        · exact hfails
        · decide
        · decide
      exact ⟨fun h => absurd h hne, fun h => Bool.noConfusion h⟩

/-! ## One access unit -/

/-- The ticks of the samples in the recorder's track. -/
def VideoRecorder.timeline (rec : VideoRecorder) : Nat :=
  match rec.mux with
  | none => 0
  | some mux => mux.timeline rec.writer.muxTrackId

/-- What is counted is as long as the file. -/
def VideoRecorder.Agrees (rec : VideoRecorder) : Prop :=
  rec.totalDuration90k = rec.timeline

/-- The recorder has its track, and its pending sample has a buffer. -/
structure Tracked (rec : VideoRecorder) : Prop where
  enabled : rec.enabled = true
  initialized : rec.writerInitialized = true
  pending : rec.pending.valid = rec.pending.buffer.isSome
  mux : ∃ mux, rec.mux = some mux ∧ mux.TrackReady rec.writer.muxTrackId

/-- The muxer, the writer, the callback's token and the allocator as the write of an
access unit finds them. -/
def VideoRecorder.muxing (rec : VideoRecorder) (mux : Mux) (w : World) : Muxing Token :=
  { mux := mux, writer := rec.writer, token := rec.token w, allocs := w.allocs }

/-- If the pending sample is handed to the writer, its access unit adds one sample, or
none if it is not written. -/
def EmitsOnce (rec : VideoRecorder) (w : World) (nextPts : ClockTime) : Prop :=
  ∀ mux b, rec.failed = false → rec.mux = some mux → rec.pending.buffer = some b →
    b.writable = true → w.maps.headD true = true →
    AddsOnce recorderWriteCallback
      (computeDuration90k rec rec.pending.pts rec.pending.duration nextPts).1
      (nalUnits b.data) (rec.muxing mux { w with maps := w.maps.tail })

instance (rec : VideoRecorder) (w : World) (nextPts : ClockTime) :
    Decidable (EmitsOnce rec w nextPts) :=
  match hmux : rec.mux, hbuffer : rec.pending.buffer with
  | some mux, some b =>
      decidable_of_iff (rec.failed = false → b.writable = true → w.maps.headD true = true →
        AddsOnce recorderWriteCallback
          (computeDuration90k rec rec.pending.pts rec.pending.duration nextPts).1
          (nalUnits b.data) (rec.muxing mux { w with maps := w.maps.tail })) (by
        constructor
        · intro hadds mux' b' hworks hmux' hbuffer'
          rw [hmux] at hmux'
          rw [hbuffer] at hbuffer'
          cases hmux'
          cases hbuffer'
          exact hadds hworks
        · exact fun hemits hworks => hemits mux b hworks hmux hbuffer)
  | none, _ => .isTrue fun _ _ _ hmux' => by
      rw [hmux] at hmux'
      contradiction
  | some _, none => .isTrue fun _ _ _ _ hbuffer' => by
      rw [hbuffer] at hbuffer'
      contradiction

/-- The recorder the write of an access unit leaves. -/
theorem writeUnit_rec (mux : Mux) (data : Bytes) (duration90k : Nat) (rec : VideoRecorder)
    (w : World) :
    let r := status (mp4H26xWriteNal recorderWriteCallback data duration90k (rec.muxing mux w))
    (writeUnit mux data duration90k rec w).1.totalDuration90k =
        rec.totalDuration90k + (if r.1 = mp4eStatusOk then duration90k else 0) ∧
      (writeUnit mux data duration90k rec w).1.mux = some r.2.mux ∧
      (writeUnit mux data duration90k rec w).1.writer = r.2.writer ∧
      (writeUnit mux data duration90k rec w).1.enabled = rec.enabled ∧
      (writeUnit mux data duration90k rec w).1.writerInitialized = rec.writerInitialized := by
  intro r
  have hr : status (mp4H26xWriteNal recorderWriteCallback data duration90k
      { mux := mux, writer := rec.writer, token := rec.token w, allocs := w.allocs }) = r := rfl
  -- What the writer returns is opaque from here on.
  clear_value r
  unfold VideoRecorder.token at hr
  simp only [writeUnit, callMux, pendingReset, hr]
  let rec' : VideoRecorder :=
    { rec with
      mux := some r.2.mux, writer := r.2.writer, bytesWritten := r.2.token.bytesWritten }
  rcases classify_frame r.1 duration90k rec' with ⟨henabled, -, hmux, hwriter⟩
  have hinit := (classify_initialized r.1 duration90k rec').1
  exact ⟨classify_total r.1 duration90k rec', hmux, hwriter, henabled, hinit⟩

/-- The write of an access unit keeps the total and the timeline equal exactly when it
adds one sample, or none if it is not written. -/
theorem writeUnit_agrees {rec : VideoRecorder} {mux : Mux} (data : Bytes) {duration90k : Nat}
    (w : World) (hmux : rec.mux = some mux) (hready : mux.TrackReady rec.writer.muxTrackId)
    (hagrees : rec.Agrees) (hpos : 1 ≤ duration90k) :
    ((writeUnit mux data duration90k rec w).1.Agrees ↔
      AddsOnce recorderWriteCallback duration90k (nalUnits data) (rec.muxing mux w)) ∧
      ∃ mux', (writeUnit mux data duration90k rec w).1.mux = some mux' ∧
        mux'.TrackReady (writeUnit mux data duration90k rec w).1.writer.muxTrackId := by
  have hready' : (rec.muxing mux w).mux.TrackReady (rec.muxing mux w).writer.muxTrackId := hready
  have hok := mp4H26xWriteNal_ok_iff recorderWriteCallback data duration90k (rec.muxing mux w)
  rcases writeNals_adds_iff recorderWriteCallback (nalUnits data) hready'
    (Nat.pos_iff_ne_zero.mp hpos) with ⟨k, hextends, hiff⟩
  rcases writeUnit_rec mux data duration90k rec w with ⟨htotal, hmux', hwriter', -, -⟩
  have htimeline : rec.timeline = mux.timeline rec.writer.muxTrackId := by
    unfold VideoRecorder.timeline
    rw [hmux]
  refine ⟨?_, _, hmux', ?_⟩
  · have hlonger : (writeUnit mux data duration90k rec w).1.timeline =
        rec.timeline + k * duration90k := by
      rw [htimeline]
      unfold VideoRecorder.timeline
      rw [hmux', hwriter']
      exact hextends.timeline
    have hcounted : (writeUnit mux data duration90k rec w).1.totalDuration90k =
        rec.timeline + (if completes (mp4H26xWriteNal recorderWriteCallback data duration90k
          (rec.muxing mux w)) then 1 else 0) * duration90k := by
      rw [htotal, hagrees]
      by_cases hcase : completes (mp4H26xWriteNal recorderWriteCallback data duration90k
          (rec.muxing mux w)) = true
      · rw [if_pos (hok.mpr hcase), if_pos hcase, Nat.one_mul]
      · rw [if_neg (fun h => hcase (hok.mp h)), if_neg hcase, Nat.zero_mul]
    unfold VideoRecorder.Agrees
    rw [hcounted, hlonger, Nat.add_left_cancel_iff, Nat.mul_left_inj (Nat.pos_iff_ne_zero.mp hpos),
      eq_comm]
    exact hiff
  · rw [hwriter']
    exact hextends.ready

/-- A recorder whose total, muxer and writer are unchanged. -/
theorem VideoRecorder.Agrees.congr {rec rec' : VideoRecorder}
    (htotal : rec'.totalDuration90k = rec.totalDuration90k) (hmux : rec'.mux = rec.mux)
    (hwriter : rec'.writer = rec.writer) : rec'.Agrees ↔ rec.Agrees := by
  unfold VideoRecorder.Agrees VideoRecorder.timeline
  rw [htotal, hmux, hwriter]

/-- Giving the pending sample back changes neither. -/
theorem Tracked.pendingReset {rec : VideoRecorder} (h : Tracked rec) (w : World) :
    Tracked (pendingReset rec w).1 :=
  ⟨h.enabled, h.initialized, rfl, h.mux⟩

/-- `emit_pending` keeps the total and the timeline equal exactly when the access unit
it writes adds one sample, or none if it is not written. -/
theorem emitPending_agrees {rec : VideoRecorder} (h : Tracked rec) (hagrees : rec.Agrees)
    (w : World) {duration90k : Nat} (hpos : 1 ≤ duration90k) :
    ((emitPending rec w duration90k).1.Agrees ↔
      ∀ mux b, rec.failed = false → rec.mux = some mux → rec.pending.buffer = some b →
        b.writable = true → w.maps.headD true = true →
        AddsOnce recorderWriteCallback duration90k (nalUnits b.data)
          (rec.muxing mux { w with maps := w.maps.tail })) ∧
      Tracked (emitPending rec w duration90k).1 := by
  rcases h.mux with ⟨mux, hmux, hready⟩
  have hreset : ∀ w', ((Recorder.pendingReset rec w').1.Agrees ↔ rec.Agrees) :=
    fun w' => VideoRecorder.Agrees.congr rfl rfl rfl
  cases hbuffer : rec.pending.buffer with
  | none =>
      have hidle : rec.pending.valid = false := by
        rw [h.pending, hbuffer]
        rfl
      have hrun : emitPending rec w duration90k = (rec, w) := by
        unfold emitPending
        rw [hidle, Bool.not_false, if_pos rfl]
      rw [hrun]
      refine ⟨⟨fun _ _ b _ _ hnone => ?_, fun _ => hagrees⟩, h⟩
      contradiction
  | some b =>
      have hholding : Holding (some b) rec := by
        refine ⟨h.enabled, by rw [hmux]; rfl, hbuffer, ?_, fun _ => h.initialized⟩
        rw [h.pending, hbuffer]
      by_cases hfailed : rec.failed = true
      · have hrun : emitPending rec w duration90k = Recorder.pendingReset rec w := by
          have hvalid : rec.pending.valid = true := hholding.valid
          unfold emitPending
          simp only [hvalid, hmux, hbuffer, hfailed, Bool.not_true, Bool.true_or,
            Bool.false_eq_true, if_false, if_true]
        rw [hrun]
        refine ⟨⟨fun _ _ _ hworks => ?_, fun _ => (hreset w).mpr hagrees⟩, h.pendingReset w⟩
        exact absurd (hfailed.symm.trans hworks) (by decide)
      · rw [Bool.not_eq_true] at hfailed
        rw [hholding.emit_eq hfailed hmux]
        by_cases hwritable : b.writable = true
        · rw [if_pos hwritable]
          by_cases hmap : w.maps.headD true = true
          · rw [if_pos hmap]
            rcases writeUnit_agrees b.data { w with maps := w.maps.tail } hmux hready hagrees
              hpos with ⟨hiff, hmux'⟩
            rcases writeUnit_rec mux b.data duration90k rec { w with maps := w.maps.tail } with
              ⟨-, -, -, henabled, hinit⟩
            refine ⟨⟨fun hafter mux₁ b₁ _ hm hb _ _ => ?_, fun honce => ?_⟩,
              henabled.trans h.enabled, hinit.trans h.initialized, rfl, hmux'⟩
            · cases hb
              cases hmux.symm.trans hm
              exact hiff.mp hafter
            · exact hiff.mpr (honce mux b hfailed hmux rfl hwritable hmap)
          · rw [if_neg hmap]
            refine ⟨⟨fun _ _ b' _ _ _ _ hmapped => absurd hmapped hmap,
              fun _ => (hreset _).mpr hagrees⟩, h.pendingReset _⟩
        · rw [if_neg hwritable]
          refine ⟨⟨fun _ _ b' _ _ hb' hwritable' => ?_, fun _ => (hreset _).mpr hagrees⟩,
            h.pendingReset _⟩
          cases hb'
          exact absurd hwritable' hwritable

/-! ## The calls -/

/-- Writing the pending sample keeps the total and the timeline equal exactly when it is
emitted once. -/
theorem emitBefore_agrees {rec : VideoRecorder} (h : Tracked rec) (hagrees : rec.Agrees)
    (w : World) (nextPts : ClockTime) :
    ((emitBefore nextPts rec w).1.Agrees ↔ EmitsOnce rec w nextPts) ∧
      Tracked (emitBefore nextPts rec w).1 := by
  let r := computeDuration90k rec rec.pending.pts rec.pending.duration nextPts
  have hpos := (computeDuration90k_bounds rec rec.pending.pts rec.pending.duration nextPts).1
  have htimed : Tracked r.2 := ⟨h.enabled, h.initialized, h.pending, h.mux⟩
  have hstill : r.2.Agrees := hagrees
  have hemit := emitPending_agrees htimed hstill w hpos
  by_cases hvalid : rec.pending.valid = true
  · unfold emitBefore
    rw [if_pos hvalid]
    exact hemit
  · unfold emitBefore
    rw [if_neg hvalid]
    refine ⟨⟨fun _ _ b _ _ hb => ?_, fun _ => hagrees⟩, h⟩
    rw [h.pending, hb] at hvalid
    exact absurd rfl hvalid

/-- What one sample does to a recorder that has its track. -/
theorem handleSample_agrees {args : SampleArgs} {rec : VideoRecorder} (h : Tracked rec)
    (hagrees : rec.Agrees) (w : World) (hbuffer : args.buffer.isSome = true) :
    ((videoRecorderHandleSample args rec w).1.Agrees ↔
      EmitsOnce rec w (sampleTimes args).1) ∧
      Tracked (videoRecorderHandleSample args rec w).1 := by
  by_cases hfailed : rec.failed = true
  · rw [handleSample_failed args hfailed]
    refine ⟨⟨fun _ _ _ hworks => ?_, fun _ => hagrees⟩, h⟩
    exact absurd (hfailed.symm.trans hworks) (by decide)
  · rw [Bool.not_eq_true] at hfailed
    rcases Option.isSome_iff_exists.mp hbuffer with ⟨b, hb⟩
    have hensured := ensureWriterInitialized_initialized args.sample h.initialized
    have hok : (ensureWriterInitialized rec args.sample).1 = true := by
      rw [hensured]
    rcases emitBefore_agrees h hagrees w (sampleTimes args).1 with ⟨hiff, htracked⟩
    rw [handleSample_eq h.enabled hfailed hok hb, hensured]
    refine ⟨?_, htracked.enabled, htracked.initialized, rfl, htracked.mux⟩
    rw [← hiff]
    exact VideoRecorder.Agrees.congr rfl rfl rfl

/-- The flush. -/
theorem videoRecorderFlush_agrees {rec : VideoRecorder} (h : Tracked rec)
    (hagrees : rec.Agrees) (w : World) :
    (videoRecorderFlush rec w).1.Agrees ↔ EmitsOnce rec w gstClockTimeNone := by
  unfold videoRecorderFlush
  by_cases hfailed : rec.failed = true
  · rw [hfailed, Bool.or_true, if_pos rfl]
    refine ⟨fun _ _ _ hworks => ?_, fun _ => hagrees⟩
    exact absurd (hfailed.symm.trans hworks) (by decide)
  · rw [Bool.not_eq_true] at hfailed
    rw [hfailed, h.enabled, Bool.not_true, Bool.or_self, if_neg Bool.false_ne_true]
    exact (emitBefore_agrees h hagrees w gstClockTimeNone).1

/-- The track of a muxer without samples is empty. -/
theorem timeline_empty {mux : Mux} {n : Nat} (hsamples : (mux.track n).smpl.data = [])
    (hfragments : mux.fragmentDurations = []) : mux.timeline n = 0 := by
  unfold Mux.timeline Track.ticks
  rw [hsamples, hfragments]
  split
  · rfl
  · rfl

/-- A fresh recorder has no ticks yet. -/
theorem Fresh.agrees {rec : VideoRecorder} (h : Fresh rec) : rec.Agrees := by
  rcases h.mux with ⟨mux, hmux, htracks, hfragments⟩
  have hsamples : (mux.track rec.writer.muxTrackId).smpl.data = [] := by
    unfold Mux.track
    rw [htracks]
    rfl
  unfold VideoRecorder.Agrees VideoRecorder.timeline
  rw [hmux, h.total]
  exact (timeline_empty hsamples hfragments).symm

/-- The first sample of a new recorder is only kept: its track is empty. -/
theorem Fresh.tracked {args : SampleArgs} {rec : VideoRecorder} (h : Fresh rec) (w : World)
    (hbuffer : args.buffer.isSome = true) :
    (videoRecorderHandleSample args rec w).1.Agrees ∧
      Tracked (videoRecorderHandleSample args rec w).1 := by
  rcases Option.isSome_iff_exists.mp hbuffer with ⟨b, hb⟩
  rcases h.mux with ⟨mux, hmux, htracks, hfragments⟩
  have hsome : rec.mux.isSome = true := by
    rw [hmux]
    rfl
  have hok := (ensureWriterInitialized_ok rec args.sample hsome).1
  rcases ensureWriterInitialized_frame rec args.sample hsome with
    ⟨henabled, -, hpending, htotal, hinit⟩
  have htrack : ∃ mux', (ensureWriterInitialized rec args.sample).2.mux = some mux' ∧
      (ensureWriterInitialized rec args.sample).2.writer.muxTrackId = 0 ∧
      mux'.TrackReady 0 ∧ mux'.timeline 0 = 0 := by
    unfold ensureWriterInitialized
    rw [h.uninitialized, hmux]
    simp only [mp4H26xWriteInit, mp4eAddTrack, htracks, List.length_nil, List.nil_append]
    exact ⟨_, rfl, rfl, ⟨Nat.zero_lt_one, rfl⟩, timeline_empty rfl hfragments⟩
  rcases htrack with ⟨mux', hmux', hid, hready, hzero⟩
  have hidle : (ensureWriterInitialized rec args.sample).2.pending.valid = false := by
    rw [hpending, h.pending]
  rw [handleSample_eq h.enabled h.failed hok hb]
  unfold emitBefore
  rw [hidle, if_neg Bool.false_ne_true]
  refine ⟨?_, henabled.trans h.enabled, hinit, rfl, mux', hmux', ?_⟩
  · unfold VideoRecorder.Agrees VideoRecorder.timeline
    simp only [hmux', hid, hzero]
    exact htotal.trans h.total
  · simp only [hid]
    exact hready

/-- A new recorder has nothing to emit. -/
theorem Fresh.emitsOnce {rec : VideoRecorder} (h : Fresh rec) (w : World)
    (nextPts : ClockTime) : EmitsOnce rec w nextPts := by
  intro mux b _ _ hb
  rw [h.pending] at hb
  contradiction

/-! ## The life of a recorder -/

/-- After every call of the samples and the flush the total is the length of the
recorder's track. -/
def TimelineAgrees : List SampleArgs → VideoRecorder → World → Prop
  | [], rec, w => (videoRecorderFlush rec w).1.Agrees
  | args :: rest, rec, w =>
      (videoRecorderHandleSample args rec w).1.Agrees ∧
        TimelineAgrees rest (videoRecorderHandleSample args rec w).1
          (videoRecorderHandleSample args rec w).2

/-- Of every access unit that the calls hand to the writer, the first NAL unit that is no
parameter set is refused, or is not put into the track because a write or an allocation fails, or
is written in full and has only parameter sets behind it. -/
def AllEmitOnce : List SampleArgs → VideoRecorder → World → Prop
  | [], rec, w => EmitsOnce rec w gstClockTimeNone
  | args :: rest, rec, w =>
      EmitsOnce rec w (sampleTimes args).1 ∧
        AllEmitOnce rest (videoRecorderHandleSample args rec w).1
          (videoRecorderHandleSample args rec w).2

instance decidableAllEmitOnce : (samples : List SampleArgs) → (rec : VideoRecorder) → (w : World) →
    Decidable (AllEmitOnce samples rec w)
  | [], rec, w => inferInstanceAs (Decidable (EmitsOnce rec w gstClockTimeNone))
  | args :: rest, rec, w =>
      have := decidableAllEmitOnce rest (videoRecorderHandleSample args rec w).1
        (videoRecorderHandleSample args rec w).2
      inferInstanceAs (Decidable (_ ∧ _))

/-- Over samples with buffers the total stays that of the timeline exactly under `AllEmitOnce`. -/
theorem Tracked.timelineAgrees_iff {rec : VideoRecorder} (h : Tracked rec)
    (hagrees : rec.Agrees) (w : World) {samples : List SampleArgs}
    (hbuffer : ∀ args ∈ samples, args.buffer.isSome = true) :
    TimelineAgrees samples rec w ↔ AllEmitOnce samples rec w := by
  induction samples generalizing rec w with
  | nil => exact videoRecorderFlush_agrees h hagrees w
  | cons args samples ih =>
      have hrest : ∀ other ∈ samples, other.buffer.isSome = true := by
        intro other hmem
        exact hbuffer other (List.mem_cons_of_mem args hmem)
      rcases handleSample_agrees h hagrees w (hbuffer args List.mem_cons_self) with
        ⟨hiff, htracked⟩
      constructor
      · intro hall
        exact ⟨hiff.mp hall.1, (ih htracked hall.1 _ hrest).mp hall.2⟩
      · intro honce
        have hafter := hiff.mpr honce.1
        exact ⟨hafter, (ih htracked hafter _ hrest).mpr honce.2⟩

/-- In the life of a recorder the total is the length of the track after every call
exactly when every access unit handed to the writer adds one sample, or none if it is
not written. -/
theorem timeline_agrees_iff (cfg : RecordCfg) (answers : NewAnswers) (samples : List SampleArgs)
    (w w₁ : World) (rec : VideoRecorder) (hnew : videoRecorderNew cfg answers w = (some rec, w₁))
    (hbuffer : ∀ args ∈ samples, args.buffer.isSome = true) :
    TimelineAgrees samples rec w₁ ↔ AllEmitOnce samples rec w₁ := by
  have hfresh := videoRecorderNew_fresh hnew
  cases samples with
  | nil =>
      have hidle : rec.pending.valid = false := by
        rw [hfresh.pending]
      have hflush : (videoRecorderFlush rec w₁).1 = rec := by
        unfold videoRecorderFlush emitBefore
        rw [hfresh.enabled, hfresh.failed, hidle]
        rfl
      unfold TimelineAgrees AllEmitOnce
      rw [hflush]
      exact ⟨fun _ => hfresh.emitsOnce w₁ _, fun _ => hfresh.agrees⟩
  | cons args samples =>
      have hrest : ∀ other ∈ samples, other.buffer.isSome = true := by
        intro other hmem
        exact hbuffer other (List.mem_cons_of_mem args hmem)
      rcases hfresh.tracked w₁ (hbuffer args List.mem_cons_self) with
        ⟨hagrees, htracked⟩
      have hiff := htracked.timelineAgrees_iff hagrees
        (videoRecorderHandleSample args rec w₁).2 hrest
      unfold TimelineAgrees AllEmitOnce
      rw [hiff]
      exact ⟨fun h => ⟨hfresh.emitsOnce w₁ _, h.2⟩, fun h => ⟨hagrees, h.2⟩⟩

/-- A stream of pictures of one slice each. -/
theorem timeline_agrees_iff_noon :
    TimelineAgrees [sampleOf idrUnit, sampleOf sliceUnit] (noonRecorder .fragmented {}).1
      (noonRecorder .fragmented {}).2 :=
  (timeline_agrees_iff (mediaCfg .fragmented) { timestamp := noon }
    [sampleOf idrUnit, sampleOf sliceUnit] {} (noonRecorder .fragmented {}).2
    (noonRecorder .fragmented {}).1 (noonRecorder_new (by decide +kernel)) (by decide)).mpr
    (by decide +kernel)

/-- A picture of two slices is counted once and lasts twice as long in the file. -/
theorem two_slices_counted_once :
    ¬ ∀ (cfg : RecordCfg) (answers : NewAnswers) (samples : List SampleArgs) (w w₁ : World)
      (rec : VideoRecorder), videoRecorderNew cfg answers w = (some rec, w₁) →
      (∀ args ∈ samples, args.buffer.isSome = true) → TimelineAgrees samples rec w₁ := by
  intro hall
  have hagrees := hall (mediaCfg .standard) { timestamp := noon }
    [sampleOf (idrUnit ++ [0, 0, 1, 0x26, 1])] {} (noonRecorder .standard {}).2
    (noonRecorder .standard {}).1 (noonRecorder_new (by decide +kernel)) (by decide)
  have hflush := hagrees.2
  unfold TimelineAgrees VideoRecorder.Agrees at hflush
  exact absurd hflush (by decide +kernel)

end Recorder
end PixelPilot
