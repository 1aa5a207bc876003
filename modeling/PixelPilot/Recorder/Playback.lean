import PixelPilot.Minimp4.IndexBuffer
import PixelPilot.Recorder.SyncStart

/-!
# Playing a recording

As long as no write fails and there is memory, the file of a recorder holds the access units
its writer accepted, and a player reads them back from it: the NAL units but the parameter sets,
in order, with the durations they were written with.  The file is the bytes handed to its
stream: before `fclose` the last of them may still be in the buffer of the stream.

Main results:

- Definition `recorded`: the samples of the accepted access units.
- Definition `Recording`: what a recorder knows of its file.
- Theorem `Recording.run`: the calls of `video_recorder_handle_sample` keep it.
- Definition `Shows`: the recording is read back from a file, within its limits.
- Theorem `recording_plays`: after `video_recorder_free` the recording is read back.
- Theorem `fragmented_plays`: a fragmented file can be read back at any time, also when its last
  fragments are lost.
-/

namespace PixelPilot
namespace Recorder

open Minimp4 Fallible PositionedWrites MediaFile

/-! ## What is recorded -/

/-- The samples a writer makes of access units: none of a unit it refuses. -/
def recorded : H26xWriter → List Emission → List MediaSample
  | _, [] => []
  | h, e :: rest =>
      (if (h.scan (nalUnits e.data)).2 then [] else samplesOf e.duration90k (nalUnits e.data)) ++
        recorded (h.scan (nalUnits e.data)).1 rest

/-- The NAL units of access units that a writer looks at. -/
def visitedUnits : H26xWriter → List Emission → List Bytes
  | _, [] => []
  | h, e :: rest =>
      h.visited (nalUnits e.data) ++ visitedUnits (h.scan (nalUnits e.data)).1 rest

/-- The parameter sets of access units, as the track keeps them. -/
def setsOf (es : List Emission) : ParameterSet → Bytes :=
  (visitedUnits newWriter es).foldl stored fun _ => []

/-- A NAL unit is not longer than its access unit. -/
theorem nalUnits_length_le (data : Bytes) :
    ∀ nal ∈ nalUnits data, nal.length ≤ data.length := by
  suffices hstep : ∀ (fuel : Nat) (rest : Bytes), rest.length ≤ data.length →
      ∀ nal ∈ nalUnitsFrom fuel rest, nal.length ≤ data.length from
    hstep (data.length + 1) data (Nat.le_refl _)
  intro fuel
  induction fuel with
  | zero =>
      intro rest _ nal hnal
      exact absurd hnal List.not_mem_nil
  | succ fuel ih =>
      intro rest hrest nal hnal
      have hstart : (findNalUnit rest).1.length ≤ rest.length := findStartCode_length_le 0 rest
      rw [nalUnitsFrom] at hnal
      split at hnal
      · exact absurd hnal List.not_mem_nil
      · rcases List.mem_cons.mp hnal with rfl | hnal
        · have htake := List.length_take_le (findNalUnit rest).2 (findNalUnit rest).1
          rw [List.length_take]
          omega
        · refine ih _ ?_ nal hnal
          rw [List.length_drop]
          omega

/-- What one emission more adds to the recording. -/
theorem recorded_concat (h : H26xWriter) (es : List Emission) (e : Emission) :
    recorded h (es ++ [e]) = recorded h es ++
      if ((h.after (es.map Emission.data)).scan (nalUnits e.data)).2 then []
      else samplesOf e.duration90k (nalUnits e.data) := by
  induction es generalizing h with
  | nil => exact List.append_nil _
  | cons a es ih =>
      rw [List.cons_append, recorded, recorded, ih, List.append_assoc, List.map_cons,
        H26xWriter.after_cons]

/-- The samples fit into their boxes. -/
theorem recorded_limits (h : H26xWriter) {es : List Emission}
    (hlimits : ∀ e ∈ es, e.data.length ≤ intMax ∧ e.duration90k ≤ 0xffffffff) :
    ∀ s ∈ recorded h es, s.data.length + 8 < 256 ^ 4 ∧ s.duration < 256 ^ 4 := by
  induction es generalizing h with
  | nil =>
      intro s hs
      exact absurd hs List.not_mem_nil
  | cons e es ih =>
      intro s hs
      rcases List.mem_append.mp hs with hs | hs
      · split at hs
        · exact absurd hs List.not_mem_nil
        · rcases List.mem_map.mp hs with ⟨nal, hnal, rfl⟩
          rcases hlimits e List.mem_cons_self with ⟨hdata, hduration⟩
          have hnal := nalUnits_length_le e.data nal (List.mem_of_mem_filter hnal)
          have hprefix : (write4 nal.length).length = 4 := rfl
          unfold intMax at hdata
          simp only [nalSample, List.length_append, hprefix]
          omega
      · exact ih _ (fun e' he' => hlimits e' (List.mem_cons_of_mem e he')) s hs

/-- The units it adds to those visited. -/
theorem visitedUnits_concat (h : H26xWriter) (es : List Emission) (e : Emission) :
    visitedUnits h (es ++ [e]) =
      visitedUnits h es ++ (h.after (es.map Emission.data)).visited (nalUnits e.data) := by
  induction es generalizing h with
  | nil => exact List.append_nil _
  | cons a es ih =>
      rw [List.cons_append, visitedUnits, visitedUnits, ih, List.append_assoc, List.map_cons,
        H26xWriter.after_cons]

/-- The parameter sets it adds. -/
theorem setsOf_concat (es : List Emission) (e : Emission) :
    setsOf (es ++ [e]) =
      ((newWriter.after (es.map Emission.data)).visited (nalUnits e.data)).foldl stored
        (setsOf es) := by
  rw [setsOf, visitedUnits_concat, List.foldl_append]
  rfl

theorem after_concat (h : H26xWriter) (es : List Emission) (e : Emission) :
    h.after ((es ++ [e]).map Emission.data) =
      ((h.after (es.map Emission.data)).scan (nalUnits e.data)).1 := by
  rw [List.map_append, H26xWriter.after_append]
  rfl

/-! ## The file behind the callback -/

/-- Every write succeeds. -/
def AllComplete (writes : List WriteAnswer) : Prop :=
  ∀ answer ∈ writes, answer = .complete

/-- The token writes to the file at `path`, and every write succeeds. -/
structure Token.Writable (path : Path) (t : Token) : Prop where
  fp : t.fp = some path
  writes : AllComplete t.world.writes

/-- The bytes of the file at `path`. -/
def World.bytesOf (path : Path) (w : World) : Bytes :=
  (w.files path).getD []

/-- A write that completes. -/
theorem recorderWriteCallback_complete {path : Path} {t : Token} (h : t.Writable path)
    (offset : Nat) (buffer : Bytes) :
    recorderWriteCallback offset buffer t =
      (0, { t with
        bytesWritten := t.bytesWritten + buffer.length
        world := ({ t.world with writes := t.world.writes.tail } : World).write path offset
          buffer }) := by
  have hanswer : t.world.writes.headD .complete = .complete := by
    cases hwrites : t.world.writes with
    | nil => rfl
    | cons answer rest =>
        exact h.writes answer (by rw [hwrites]; exact List.mem_cons_self)
  unfold recorderWriteCallback
  simp only [h.fp, hanswer]

/-- The callback stores what it is given. -/
theorem recorderWriteCallback_stores (path : Path) :
    Stores recorderWriteCallback (fun t => t.world.bytesOf path) (Token.Writable path) where
  returns h offset buffer := by
    rw [recorderWriteCallback_complete h]
  stays h offset buffer := by
    rw [recorderWriteCallback_complete h]
    exact ⟨h.fp, fun answer hmem => h.writes answer (List.mem_of_mem_tail hmem)⟩
  stored h offset buffer := by
    rw [recorderWriteCallback_complete h]
    simp only [World.bytesOf, World.write, Function.update_self, Option.getD_some]
    rfl

/-! ## Recorders and their files -/

/-- The recorder has recorded `es`, its file shows it, and nothing is about to fail. -/
structure Recording (path : Path) (fragmentation : Bool) (es : List Emission)
    (rec : VideoRecorder) (w : World) : Prop where
  fp : rec.fp = some path
  failed : rec.failed = false
  writes : AllComplete w.writes
  allocs : Ample w.allocs
  limits : ∀ e ∈ es, e.data.length ≤ intMax ∧ e.duration90k ≤ 0xffffffff
  layout : ∃ mux, rec.mux = some mux ∧
    Layout mux (w.bytesOf path) fragmentation (recorded newWriter es) ∧
    if rec.writerInitialized then
      rec.writer = newWriter.after (es.map Emission.data) ∧
        ∃ tr, OnlyTrack mux tr ∧ tr.Holds (setsOf es)
    else mux.tracks = [] ∧ es = []

section Runs

variable {path : Path} {fragmentation : Bool} {w : World} {es : List Emission}
variable {rec : VideoRecorder}

/-- Only the pending sample and the coming answers have changed. -/
theorem Recording.congr {rec' : VideoRecorder} {w' : World}
    (h : Recording path fragmentation es rec w) (hfp : rec'.fp = rec.fp)
    (hfailed : rec'.failed = rec.failed) (hmux : rec'.mux = rec.mux)
    (hwriter : rec'.writer = rec.writer)
    (hinit : rec'.writerInitialized = rec.writerInitialized) (hwrites : AllComplete w'.writes)
    (hallocs : Ample w'.allocs) (hbytes : w'.bytesOf path = w.bytesOf path) :
    Recording path fragmentation es rec' w' where
  fp := hfp.trans h.fp
  failed := hfailed.trans h.failed
  writes := hwrites
  allocs := hallocs
  limits := h.limits
  layout := by
    rw [hmux, hwriter, hinit, hbytes]
    exact h.layout

theorem scan_muxTrackId (writer : H26xWriter) (units : List Bytes) :
    (writer.scan units).1.muxTrackId = writer.muxTrackId := by
  induction units generalizing writer with
  | nil => rfl
  | cons nal rest ih =>
      unfold H26xWriter.scan
      split
      · exact visit_muxTrackId writer nal
      · exact (ih _).trans (visit_muxTrackId writer nal)

/-- The writer keeps its track. -/
theorem after_muxTrackId (writer : H26xWriter) (units : List Bytes) :
    (writer.after units).muxTrackId = writer.muxTrackId := by
  induction units generalizing writer with
  | nil => rfl
  | cons data units ih =>
      rw [H26xWriter.after_cons, ih]
      exact scan_muxTrackId writer (nalUnits data)

/-- The call of the writer for one access unit. -/
theorem Recording.writeUnit (h : Recording path fragmentation es rec w) {mux : Mux}
    (hmux : rec.mux = some mux) (hinit : rec.writerInitialized = true) {data : Bytes} {d : Nat}
    (hdata : data.length ≤ intMax) (hd : d ≤ 0xffffffff) :
    ∃ e, (writeUnit mux data d rec w).2.emissions = w.emissions ++ [e] ∧
      Recording path fragmentation (es ++ [e]) (writeUnit mux data d rec w).1
        (writeUnit mux data d rec w).2 := by
  rcases h.layout with ⟨mux', hmux', hlayout, htrack⟩
  rw [hmux, Option.some_inj] at hmux'
  subst hmux'
  rw [hinit, if_pos rfl] at htrack
  rcases htrack with ⟨hwriter, tr, htrack, hsets⟩
  have hid : rec.writer.muxTrackId = 0 := by
    rw [hwriter]
    exact after_muxTrackId newWriter _
  let s : Muxing Token :=
    { mux := mux, writer := rec.writer, token := rec.token w, allocs := w.allocs }
  have hs : Working (Token.Writable path) (setsOf es) rec.writer s :=
    ⟨⟨⟨h.fp, h.writes⟩, h.allocs⟩, ⟨tr, htrack, hsets⟩, rfl⟩
  rcases hlayout.writeNals (s := s) (recorderWriteCallback_stores path) (d := d) (nalUnits data)
    hs hid with ⟨t, hrun, hlayout', ht⟩
  let err := if (rec.writer.scan (nalUnits data)).2 then mp4eStatusBadArguments else mp4eStatusOk
  let rec' : VideoRecorder := { rec with
    mux := some t.mux, writer := t.writer, bytesWritten := t.token.bytesWritten }
  let w' : World := { t.token.world with allocs := t.allocs }
  have hcall : callMux (mp4H26xWriteNal recorderWriteCallback data d) mux rec w =
      (err, rec', w') := by
    have hstatus : status (mp4H26xWriteNal recorderWriteCallback data d s) = (err, t) := by
      change status ((nalUnits data).forM (mp4H265WriteNal recorderWriteCallback d) s) = _
      rw [hrun]
      cases hrefused : (rec.writer.scan (nalUnits data)).2 <;> simp [err, hrefused, status]
    unfold callMux
    simp only [s, VideoRecorder.token] at hstatus
    rw [hstatus]
  have hkept := (writeNal_outcome data d mux rec w hcall).1
  let e := emissionOf data d err w w' (classify err d rec')
  have hworks : (classify err d rec').failed = false := by
    rw [classify_failed err d rec' h.failed]
    simp only [err]
    split <;> decide
  rcases classify_frame err d rec' with ⟨-, hfp, hmux', hwriter'⟩
  rcases classify_initialized err d rec' with ⟨hinit', -⟩
  have hset : (classify err d rec').writerInitialized = true := hinit'.trans hinit
  have hemissions : w'.emissions = w.emissions := hkept.emissions
  refine ⟨e, ?_⟩
  unfold Recorder.writeUnit
  rw [hcall]
  refine ⟨?_, hfp.trans h.fp, hworks, ht.fair.token.writes, ht.fair.allocs, ?_, t.mux, hmux', ?_,
    ?_⟩
  · change w'.emissions ++ [e] = _
    rw [hemissions]
  · intro e' he'
    rcases List.mem_append.mp he' with he' | he'
    · exact h.limits e' he'
    · rw [List.mem_singleton.mp he']
      exact ⟨hdata, hd⟩
  · rw [recorded_concat, ← hwriter]
    exact hlayout'
  · change if (classify err d rec').writerInitialized = true then
      (classify err d rec').writer = _ ∧ _ else _
    rw [if_pos hset, hwriter', setsOf_concat, after_concat, ← hwriter]
    rcases ht.track with ⟨tr', htrack', hsets'⟩
    exact ⟨ht.writer, tr', htrack', hsets'⟩

/-! ## The calls -/

/-- Since the world `w` the recorder has recorded some access units more. -/
def Continues (path : Path) (fragmentation : Bool) (es : List Emission) (w : World)
    (rec' : VideoRecorder) (w' : World) : Prop :=
  ∃ es', w'.emissions = w.emissions ++ es' ∧ Recording path fragmentation (es ++ es') rec' w'

/-- What emits nothing continues the recording. -/
theorem Recording.continues {w' : World} (h : Recording path fragmentation es rec w')
    (hemissions : w'.emissions = w.emissions) : Continues path fragmentation es w rec w' := by
  refine ⟨[], ?_, ?_⟩
  · rw [List.append_nil]
    exact hemissions
  · rw [List.append_nil]
    exact h

/-- Dropping the pending buffer continues the recording. -/
theorem Recording.reset (h : Recording path fragmentation es rec w) (maps : List Bool) :
    Continues path fragmentation es w (pendingReset rec { w with maps := maps }).1
      (pendingReset rec { w with maps := maps }).2 := by
  have hreset : Recording path fragmentation es (pendingReset rec { w with maps := maps }).1
      (pendingReset rec { w with maps := maps }).2 :=
    h.congr rfl rfl rfl rfl rfl h.writes h.allocs rfl
  exact hreset.continues rfl

/-- Writing the pending buffer continues the recording. -/
theorem Recording.emitPending (h : Recording path fragmentation es rec w) {d : Nat}
    (hd : d ≤ 0xffffffff) :
    Continues path fragmentation es w (emitPending rec w d).1 (emitPending rec w d).2 := by
  unfold Recorder.emitPending
  split
  · exact h.continues rfl
  · split
    · rename_i mux buffer hmux hbuffer
      split
      · exact h.reset w.maps
      · rename_i hready
        split
        · exact h.reset w.maps
        · rename_i hsize
          split
          · exact h.reset w.maps.tail
          · have hinit : rec.writerInitialized = true := by
              simp only [Bool.or_eq_true, Bool.not_eq_true', not_or,
                Bool.not_eq_false] at hready
              exact hready.2
            have hshort : buffer.data.length ≤ intMax := by omega
            have hmapped : Recording path fragmentation es rec
                { w with maps := w.maps.tail } :=
              h.congr rfl rfl rfl rfl rfl h.writes h.allocs rfl
            rcases hmapped.writeUnit hmux hinit hshort hd with ⟨e, hemissions, hnext⟩
            exact ⟨[e], hemissions, hnext⟩
    · exact h.reset w.maps

/-- Writing the pending buffer before the next sample continues the recording. -/
theorem Recording.emitBefore (h : Recording path fragmentation es rec w)
    (nextPts : ClockTime) :
    Continues path fragmentation es w (emitBefore nextPts rec w).1
      (emitBefore nextPts rec w).2 := by
  unfold Recorder.emitBefore
  split
  · have htimed : Recording path fragmentation es
        (computeDuration90k rec rec.pending.pts rec.pending.duration nextPts).2 w :=
      h.congr rfl rfl rfl rfl rfl h.writes h.allocs rfl
    exact htimed.emitPending (computeDuration90k_bounds _ _ _ _).2
  · exact h.continues rfl

/-- The writer gets its track. -/
theorem Recording.initialize (h : Recording path fragmentation es rec w)
    (sample : Option GstSample) :
    Recording path fragmentation es (ensureWriterInitialized rec sample).2 w := by
  rcases h.layout with ⟨mux, hmux, hlayout, htrack⟩
  cases hinit : rec.writerInitialized with
  | true =>
      rw [ensureWriterInitialized_initialized sample hinit]
      exact h
  | false =>
      rw [hinit, if_neg Bool.false_ne_true] at htrack
      rcases htrack with ⟨hnone, hempty⟩
      unfold ensureWriterInitialized
      simp only [hinit, hmux]
      have hstatus : ∀ width height, (mp4H26xWriteInit mux width height).1 = mp4eStatusOk :=
        fun _ _ => rfl
      simp only [hstatus, ne_eq, not_true_eq_false, if_false]
      rcases mp4H26xWriteInit_layout hlayout hnone
        (positiveField ((sample.bind GstSample.caps).bind GstCaps.width))
        (positiveField ((sample.bind GstSample.caps).bind GstCaps.height)) with
        ⟨hlayout', tr, htrack', hsets⟩
      refine ⟨h.fp, h.failed, h.writes, h.allocs, h.limits, _, rfl, hlayout', ?_⟩
      rw [if_pos rfl]
      rw [hempty]
      refine ⟨?_, tr, htrack', hsets⟩
      simp only [mp4H26xWriteInit, mp4eAddTrack, hnone]
      rfl

/-- Taking a buffer writes nothing. -/
theorem pendingBuffer_frame (args : SampleArgs) (hallocs : Ample w.allocs) :
    (pendingBuffer args w).2.writes = w.writes ∧ Ample (pendingBuffer args w).2.allocs ∧
      (pendingBuffer args w).2.emissions = w.emissions ∧
      (pendingBuffer args w).2.files = w.files := by
  unfold pendingBuffer
  split
  · exact ⟨rfl, hallocs, rfl, rfl⟩
  · simp only
    split
    · exact ⟨rfl, hallocs, rfl, rfl⟩
    · split
      · exact ⟨rfl, hallocs.tail, rfl, rfl⟩
      · split
        · exact ⟨rfl, hallocs.tail, rfl, rfl⟩
        · exact ⟨rfl, hallocs.tail, rfl, rfl⟩

/-- `video_recorder_handle_sample` keeps the recording going. -/
theorem Recording.handleSample (h : Recording path fragmentation es rec w)
    (args : SampleArgs) :
    Continues path fragmentation es w (videoRecorderHandleSample args rec w).1
      (videoRecorderHandleSample args rec w).2 := by
  have hinit := h.initialize args.sample
  unfold videoRecorderHandleSample
  split
  · exact h.continues rfl
  · split
    · exact h.continues rfl
    · simp only
      split
      · exact hinit.continues rfl
      · rcases hinit.emitBefore (sampleTimes args).1 with ⟨es', hmore, hemitted⟩
        rcases pendingBuffer_frame args hemitted.allocs with
          ⟨hwrites, hallocs, hemissions, hfiles⟩
        have hcomplete : AllComplete (pendingBuffer args
            (Recorder.emitBefore (sampleTimes args).1
              (ensureWriterInitialized rec args.sample).2 w).2).2.writes := by
          rw [hwrites]
          exact hemitted.writes
        have hbytes : (pendingBuffer args
            (Recorder.emitBefore (sampleTimes args).1
              (ensureWriterInitialized rec args.sample).2 w).2).2.bytesOf path =
            (Recorder.emitBefore (sampleTimes args).1
              (ensureWriterInitialized rec args.sample).2 w).2.bytesOf path := by
          rw [World.bytesOf, hfiles]
          rfl
        split
        · exact ⟨es', hemissions.trans hmore,
            hemitted.congr rfl rfl rfl rfl rfl hcomplete hallocs hbytes⟩
        · exact ⟨es', hemissions.trans hmore,
            hemitted.congr rfl rfl rfl rfl rfl hcomplete hallocs hbytes⟩

/-- The calls of `video_recorder_handle_sample` in a run. -/
theorem Recording.run (h : Recording path fragmentation es rec w)
    (samples : List SampleArgs) :
    Continues path fragmentation es w (handleSamples samples rec w).1
      (handleSamples samples rec w).2 := by
  induction samples generalizing es rec w with
  | nil => exact h.continues rfl
  | cons args samples ih =>
      rcases h.handleSample args with ⟨es₁, hemissions₁, hfirst⟩
      rcases ih hfirst with ⟨es₂, hemissions₂, hrest⟩
      refine ⟨es₁ ++ es₂, ?_, ?_⟩
      · rw [← List.append_assoc, ← hemissions₁]
        exact hemissions₂
      · rw [← List.append_assoc]
        exact hrest

/-- The flush continues the recording. -/
theorem Recording.flush (h : Recording path fragmentation es rec w) :
    Continues path fragmentation es w (videoRecorderFlush rec w).1
      (videoRecorderFlush rec w).2 := by
  unfold videoRecorderFlush
  split
  · exact h.reset w.maps
  · exact h.emitBefore gstClockTimeNone

/-- The close in `video_recorder_free` finishes the file. -/
theorem Recording.close (h : Recording path fragmentation es (videoRecorderFlush rec w).1
    (videoRecorderFlush rec w).2) :
    Finished (setsOf es) ((videoRecorderFree rec w).bytesOf path) (recorded newWriter es)
      fragmentation := by
  rcases h.layout with ⟨mux, hmux, hlayout, htrack⟩
  let rec' := mp4H26xWriteClose (videoRecorderFlush rec w).1
  let w' := (videoRecorderFlush rec w).2
  have hmux' : rec'.mux = some mux := by
    simp only [rec', mp4H26xWriteClose]
    split
    · exact hmux
    · exact hmux
  have hfp : rec'.fp = some path := by
    simp only [rec', mp4H26xWriteClose]
    split
    · exact h.fp
    · exact h.fp
  let s : Muxing Token :=
    { mux := mux, writer := rec'.writer, token := rec'.token w', allocs := w'.allocs }
  have hs : Closable (Token.Writable path) (setsOf es) s := by
    refine ⟨⟨⟨hfp, h.writes⟩, h.allocs⟩, ?_⟩
    split at htrack
    · exact Or.inr htrack.2
    · refine Or.inl ⟨htrack.1, ?_⟩
      rw [htrack.2]
      rfl
  rcases hlayout.close (s := s) (recorderWriteCallback_stores path) hs with ⟨t, hrun, hfinished⟩
  have hcall : (callMux (mp4eClose recorderWriteCallback) mux rec' w').2.2 =
      { t.token.world with allocs := t.allocs } := by
    unfold callMux
    simp only [s, VideoRecorder.token] at hrun
    rw [hrun]
    rfl
  have hfree : (videoRecorderFree rec w).files =
      (callMux (mp4eClose recorderWriteCallback) mux rec' w').2.2.files := by
    unfold videoRecorderFree
    simp only [rec'] at hmux'
    simp only [hmux']
    rfl
  rw [World.bytesOf, hfree, hcall]
  exact hfinished

/-- The index and the fragments of a fragmented file, and what is known of its track. -/
theorem Recording.fragmentedFile (h : Recording path true es rec w)
    (hne : recorded newWriter es ≠ []) :
    ∃ tr : Track, tr.smpl.data = [] ∧
      (∀ kind, (tr.parameterSets kind).data.length ≤ (setsOf es kind).length) ∧
      w.bytesOf path = boxFtyp ++ fragmentedPart tr (recorded newWriter es) := by
  rcases h.layout with ⟨mux, -, hlayout, htrack⟩
  have hinit : rec.writerInitialized = true := by
    by_contra hnot
    rw [if_neg hnot] at htrack
    rw [htrack.2] at hne
    exact hne rfl
  rw [if_pos hinit] at htrack
  rcases htrack with ⟨-, tr, htrack, hsets⟩
  cases hlayout with
  | fragmented hlayout =>
      rcases hlayout.file with ⟨tr₀, hnone, hsmaller, hfile⟩
      rw [htrack.track] at hsmaller
      refine ⟨tr₀, hnone, ?_, hfile⟩
      intro kind
      have hkind := hsmaller kind
      rwa [hsets kind] at hkind

/-- Cut behind any of its fragments, a fragmented file shows the samples up to there. -/
theorem Recording.playsFragmented (h : Recording path true es rec w)
    {front back : List MediaSample} (hsplit : recorded newWriter es = front ++ back)
    (hfront : front ≠ []) (hindex : bytesOfSets (setsOf es) + 1000 < 256 ^ 4) :
    samples ((w.bytesOf path).take
      ((w.bytesOf path).length - (fragments (front.length + 1) back).length)) = some front := by
  have hne : recorded newWriter es ≠ [] := by
    rw [hsplit]
    exact List.append_ne_nil_of_left_ne_nil hfront back
  rcases h.fragmentedFile hne with ⟨tr, -, hfew, hfile⟩
  have hempty : (recorded newWriter es).isEmpty = false := by
    simpa using hne
  have hmoov := boxMoov_length_le true 0 (Nat.le_refl [tr].length)
    (fun hfalse => by contradiction)
  have hsets : ([tr].getD 0 {}).setBytes ≤ bytesOfSets (setsOf es) :=
    Nat.add_le_add (Nat.add_le_add (hfew .vps) (hfew .sps)) (hfew .pps)
  have hcut : w.bytesOf path = boxFtyp ++ (boxMoov true [tr] ++ fragments 1 front) ++
      fragments (front.length + 1) back := by
    rw [hfile, fragmentedPart, hempty, if_neg Bool.false_ne_true, hsplit, fragments_append,
      Nat.add_comm 1 front.length]
    simp only [List.append_assoc]
  rw [hcut, List.length_append, Nat.add_sub_cancel, List.take_left]
  refine samples_fragmented rfl ?_ (by omega)
  intro s hs
  refine recorded_limits newWriter h.limits s ?_
  rw [hsplit]
  exact List.mem_append_left back hs

end Runs

/-! ## Recordings -/

/-- A recorder that was just created has an empty recording. -/
theorem Recording.start {cfg : RecordCfg} {answers : NewAnswers} {w w₁ : World}
    {rec : VideoRecorder} (hnew : videoRecorderNew cfg answers w = (some rec, w₁))
    (hwrites : AllComplete w.writes) (hallocs : Ample w.allocs) :
    Recording (newOutputPath cfg answers) (modeFlags cfg.mode).2 [] rec w₁ := by
  unfold videoRecorderNew at hnew
  split at hnew
  · cases hnew
  · simp only at hnew
    split at hnew
    · cases hnew
    · split at hnew
      · cases hnew
      · unfold openMux at hnew
        simp only at hnew
        let path := newOutputPath cfg answers
        let w' : World := { w with fileOps :=
          w.fileOps ++ (mkdirTarget path).toList.map .mkdirWithParents }
        let token : Token := { fp := some path, bytesWritten := 0, world := w'.create path }
        have hempty : token.world.bytesOf path = [] := by
          simp only [token, World.create, World.bytesOf, Function.update_self,
            Option.getD_some]
        have hwritable : token.Writable path := ⟨rfl, hwrites⟩
        rcases mp4eOpen_layout (recorderWriteCallback_stores path) (modeFlags cfg.mode).1
          (modeFlags cfg.mode).2 hwritable hallocs hempty with
          ⟨mux, token', hopen, hlayout, htracks, hgood⟩
        simp only [token, w', path] at hopen
        rw [hopen, Prod.mk.injEq, Option.some.injEq] at hnew
        rw [← hnew.1, ← hnew.2]
        refine ⟨rfl, rfl, hgood.writes, hallocs.tail, ?_, mux, rfl, hlayout, ?_⟩
        · intro e he
          exact absurd he List.not_mem_nil
        · rw [if_neg Bool.false_ne_true]
          exact ⟨htracks, rfl⟩

/-- The recording of the buffers of a run that did not fail. -/
theorem Recording.buffers {w₁ : World} {rec : VideoRecorder} {path : Path}
    {fragmentation : Bool} {calls : List SampleArgs} {es : List Emission} (hfresh : Fresh rec)
    (hbuffer : ∀ args ∈ calls, args.buffer.isSome = true)
    (h : Recording path fragmentation es (handleSamples calls rec w₁).1
      (handleSamples calls rec w₁).2) :
    Flow w₁ (calls.filterMap SampleArgs.buffer) (handleSamples calls rec w₁).1
      (handleSamples calls rec w₁).2 := by
  have hflow := (hfresh.flow w₁).run hbuffer
  rw [List.nil_append, (taken_first calls rec w₁).2 h.failed] at hflow
  exact hflow

/-- As long as nothing fails, the file of a recorder that was freed holds the access units of all
buffers that can be written. -/
theorem recording_finished {cfg : RecordCfg} {answers : NewAnswers} {calls : List SampleArgs}
    {w w₁ : World} {rec : VideoRecorder} (hnew : videoRecorderNew cfg answers w = (some rec, w₁))
    (hbuffer : ∀ args ∈ calls, args.buffer.isSome = true) (hwrites : AllComplete w.writes)
    (hallocs : Ample w.allocs) :
    let w' := videoRecorderFree (handleSamples calls rec w₁).1 (handleSamples calls rec w₁).2
    ∃ es, w'.emissions = w₁.emissions ++ es ∧
      es.map Emission.data = written w₁.maps (calls.filterMap SampleArgs.buffer) ∧
      (∀ s ∈ recorded newWriter es, s.data.length + 8 < 256 ^ 4 ∧ s.duration < 256 ^ 4) ∧
      Finished (setsOf es) (w'.bytesOf (newOutputPath cfg answers)) (recorded newWriter es)
        (modeFlags cfg.mode).2 := by
  rcases (Recording.start hnew hwrites hallocs).run calls with ⟨es₁, hemissions₁, hrun⟩
  rcases hrun.flush with ⟨es₂, hemissions₂, hflush⟩
  rcases (hrun.buffers (videoRecorderNew_fresh hnew) hbuffer).flush with
    ⟨-, -, es, hemissions, hhanded⟩
  have hes : [] ++ es₁ ++ es₂ = es := by
    rw [hemissions₁, List.append_assoc] at hemissions₂
    exact List.append_cancel_left (hemissions₂.symm.trans hemissions)
  rw [hes] at hflush
  refine ⟨es, (videoRecorderFree_emissions _ _).trans hemissions, ?_,
    recorded_limits newWriter hflush.limits, hflush.close⟩
  rw [hhanded.data, hrun.failed, if_neg Bool.false_ne_true]

/-- Something is recorded, the sizes fit into their fields, and the VPS, which the size of the
buffer of the index leaves out, fit into what it has left over. -/
structure WithinLimits (file : Bytes) (es : List Emission) : Prop where
  some : recorded newWriter es ≠ []
  file : file.length < 256 ^ 8
  index : 32 * (recorded newWriter es).length + bytesOfSets (setsOf es) + 1000 < 256 ^ 4
  vps : (setsOf es .vps).length ≤ 129

/-- Within the limits, the index in the file did fit into its buffer and the file shows the
recording of the access units. -/
def Shows (fragmentation : Bool) (file : Bytes) (es : List Emission) : Prop :=
  WithinLimits file es →
    (∃ tracks front rest, file = front ++ boxMoov fragmentation tracks ++ rest ∧
      IndexFits fragmentation tracks) ∧
    samples file = some (recorded newWriter es)

/-- A finished file shows its recording. -/
theorem shows_of_finished {file : Bytes} {es : List Emission} {fragmentation : Bool}
    (hlimits : ∀ s ∈ recorded newWriter es, s.data.length + 8 < 256 ^ 4 ∧ s.duration < 256 ^ 4)
    (hfinished : Finished (setsOf es) file (recorded newWriter es) fragmentation) :
    Shows fragmentation file es := by
  intro hwithin
  have hindex := hwithin.index
  exact ⟨hfinished.fits hwithin.some hindex hwithin.vps,
    hfinished.plays hwithin.some hwithin.file hlimits (by omega)⟩

/-- In fragmented mode the file shows at any time the access units of all buffers that can be
written but the one that came last; and what is left of it when it is cut behind a fragment shows
the samples up to there. -/
theorem fragmented_plays (cfg : RecordCfg) (answers : NewAnswers) (calls : List SampleArgs)
    (w w₁ : World) (rec : VideoRecorder) (hmode : cfg.mode = .fragmented)
    (hnew : videoRecorderNew cfg answers w = (some rec, w₁))
    (hbuffer : ∀ args ∈ calls, args.buffer.isSome = true) (hwrites : AllComplete w.writes)
    (hallocs : Ample w.allocs) :
    let w' := (handleSamples calls rec w₁).2
    ∃ es, w'.emissions = w₁.emissions ++ es ∧
      es.map Emission.data = written w₁.maps (calls.filterMap SampleArgs.buffer).dropLast ∧
      (WithinLimits (w'.bytesOf (newOutputPath cfg answers)) es →
        (∃ tracks front rest, w'.bytesOf (newOutputPath cfg answers) =
          front ++ boxMoov true tracks ++ rest ∧ IndexFits true tracks) ∧
        ∀ front back, recorded newWriter es = front ++ back → front ≠ [] →
          samples ((w'.bytesOf (newOutputPath cfg answers)).take
            ((w'.bytesOf (newOutputPath cfg answers)).length -
              (fragments (front.length + 1) back).length)) = some front) := by
  rcases (Recording.start hnew hwrites hallocs).run calls with ⟨es₁, hemissions₁, hrun⟩
  have hflags : (modeFlags cfg.mode).2 = true := by
    rw [hmode]
    rfl
  rcases (hrun.buffers (videoRecorderNew_fresh hnew) hbuffer).handed with
    ⟨es, hemissions, hhanded⟩
  have hes : [] ++ es₁ = es :=
    List.append_cancel_left (hemissions₁.symm.trans hemissions)
  rw [hes, hflags] at hrun
  refine ⟨es, hemissions, hhanded.data, ?_⟩
  intro hwithin
  have hindex := hwithin.index
  refine ⟨?_, fun front back hsplit hfront => hrun.playsFragmented hsplit hfront (by omega)⟩
  rcases hrun.fragmentedFile hwithin.some with ⟨tr, hnone, hfew, hfile⟩
  exact fits_fragmented hnone hfew hfile hwithin.some (by omega) hwithin.vps

/-- An IDR and two slices, recorded in fragmented mode: before the recorder is freed, the IDR can
be read back from a file whose last fragment is lost. -/
theorem fragmented_plays_noon :
    let file := (handleSamples [sampleOf idrUnit, sampleOf sliceUnit, sampleOf sliceUnit]
      (noonRecorder .fragmented {}).1 (noonRecorder .fragmented {}).2).2.bytesOf
        (newOutputPath (mediaCfg .fragmented) { timestamp := noon })
    samples (file.take (file.length - (fragments 2 [nalSample 3000 [0x02, 1]]).length)) =
      some [nalSample 3000 [0x26, 1]] := by
  let calls := [sampleOf idrUnit, sampleOf sliceUnit, sampleOf sliceUnit]
  rcases fragmented_plays (mediaCfg .fragmented) { timestamp := noon } calls {}
    (noonRecorder .fragmented {}).2 (noonRecorder .fragmented {}).1 rfl
    (noonRecorder_new (by decide +kernel)) (by decide)
    (fun _ hanswer => absurd hanswer List.not_mem_nil)
    (fun _ hanswer => absurd hanswer List.not_mem_nil) with ⟨es, hemissions, -, hshows⟩
  have hnone : (noonRecorder .fragmented {}).2.emissions = [] := by
    decide +kernel
  rw [hnone, List.nil_append] at hemissions
  subst hemissions
  exact (hshows ⟨by decide +kernel, by decide +kernel, by decide +kernel, by decide +kernel⟩).2
    [nalSample 3000 [0x26, 1]] [nalSample 3000 [0x02, 1]] (by decide +kernel) (by decide)

end Recorder
end PixelPilot
