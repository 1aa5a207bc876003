import PixelPilot.Recorder.VideoRecorder

/-!
# What the calls of a recorder change

Every call on a recorder writes some access units, each with one of four
outcomes, and leaves the recorder's file and muxer open until
`video_recorder_free`.  No call but `video_recorder_new` opens a file.

Main results:

- Definition `Emission.Outcome`: the four ways the write of an access unit ends
  and how `emit_pending` takes each of them.
- Theorem `videoRecorderHandleSample_step` and `videoRecorderFlush_step`: what a
  call may change in the recorder and in the world.
- Theorem `videoRecorderFree_step` and `videoRecorderNew_outcome`: the same for
  the end and the start of a recorder.
- Definition `recorderRun`: the life of one recorder.
- Theorem `recorderRun_emissions`: every access unit of such a life ends in one
  of the four ways.
-/

namespace PixelPilot
namespace Recorder

open Minimp4 Fallible

/-! ## Outcomes -/

/-- How the write of an access unit ended, and what `emit_pending` made of it. -/
inductive Emission.Outcome (e : Emission) : Prop
  | written (err : e.err = mp4eStatusOk) (writeFailed : e.writeFailed = false)
      (awaitingSync : e.awaitingSync = false) (failed : e.failed = false)
  | ioError (err : e.err = -1) (writeFailed : e.writeFailed = true)
      (awaitingSync : e.awaitingSync = true) (failed : e.failed = false)
  | noMemory (err : e.err = mp4eStatusNoMemory) (writeFailed : e.writeFailed = false)
      (awaitingSync : e.awaitingSync = false) (failed : e.failed = true)
      (active : e.active = false)
  | refused (err : e.err = mp4eStatusBadArguments) (writeFailed : e.writeFailed = false)
      (awaitingSync : e.awaitingSync = true) (failed : e.failed = false)
      (lacks : e.lacks = true)

/-- The access units written between two worlds, each with its outcome. -/
def World.Emits (w w' : World) : Prop :=
  ∃ es : List Emission, w'.emissions = w.emissions ++ es ∧ ∀ e ∈ es, e.Outcome

theorem World.Emits.of_eq {w w' : World} (h : w'.emissions = w.emissions) : w.Emits w' := by
  refine ⟨[], ?_, ?_⟩
  · simpa using h
  · intro e he
    exact absurd he List.not_mem_nil

/-- Emissions add up. -/
theorem World.Emits.trans {w w' w'' : World} (h : w.Emits w') (h' : w'.Emits w'') :
    w.Emits w'' := by
  rcases h with ⟨es, heq, hall⟩
  rcases h' with ⟨es', heq', hall'⟩
  refine ⟨es ++ es', ?_, ?_⟩
  · rw [heq', heq, List.append_assoc]
  · intro e he
    rcases List.mem_append.mp he with he | he
    · exact hall e he
    · exact hall' e he

/-- What a call on a recorder may change: it writes access units to the
recorder's own file, opens no file, and keeps what makes the recorder accept
samples except that it may fail. -/
structure Step (rec : VideoRecorder) (w : World) (rec' : VideoRecorder) (w' : World) :
    Prop where
  emits : w.Emits w'
  sessions : w'.sessions = w.sessions
  fileOps : w.fileOps <+: w'.fileOps
  files : ∀ path, rec.fp ≠ some path → w'.files path = w.files path
  enabled : rec'.enabled = rec.enabled
  fp : rec'.fp = rec.fp
  mux : rec'.mux.isSome = rec.mux.isSome

/-- A call that leaves the files alone and writes no access unit. -/
theorem Step.idle {rec rec' : VideoRecorder} {w w' : World}
    (hemissions : w'.emissions = w.emissions) (hsessions : w'.sessions = w.sessions)
    (hops : w'.fileOps = w.fileOps) (hfiles : w'.files = w.files)
    (henabled : rec'.enabled = rec.enabled) (hfp : rec'.fp = rec.fp)
    (hmux : rec'.mux.isSome = rec.mux.isSome) : Step rec w rec' w' where
  emits := World.Emits.of_eq hemissions
  sessions := hsessions
  fileOps := by simp only [hops, List.prefix_rfl]
  files path _ := by rw [hfiles]
  enabled := henabled
  fp := hfp
  mux := hmux

theorem Step.refl (rec : VideoRecorder) (w : World) : Step rec w rec w :=
  Step.idle rfl rfl rfl rfl rfl rfl rfl

/-- Steps compose. -/
theorem Step.trans {rec rec' rec'' : VideoRecorder} {w w' w'' : World}
    (h : Step rec w rec' w') (h' : Step rec' w' rec'' w'') : Step rec w rec'' w'' where
  emits := h.emits.trans h'.emits
  sessions := h'.sessions.trans h.sessions
  fileOps := h.fileOps.trans h'.fileOps
  files path hne := (h'.files path (by rwa [h.fp])).trans (h.files path hne)
  enabled := h'.enabled.trans h.enabled
  fp := h'.fp.trans h.fp
  mux := h'.mux.trans h.mux

/-! ## One access unit -/

/-- Dropping the pending buffer is a step. -/
theorem pendingReset_step (rec : VideoRecorder) (w : World) :
    Step rec w (pendingReset rec w).1 (pendingReset rec w).2 :=
  Step.idle rfl rfl rfl rfl rfl rfl rfl

/-- Classifying an error leaves file, mux and writer alone. -/
theorem classify_frame (err : Int) (duration90k : Nat) (rec : VideoRecorder) :
    (classify err duration90k rec).enabled = rec.enabled ∧
      (classify err duration90k rec).fp = rec.fp ∧
      (classify err duration90k rec).mux = rec.mux ∧
      (classify err duration90k rec).writer = rec.writer := by
  unfold classify
  split
  · exact ⟨rfl, rfl, rfl, rfl⟩
  · split
    · exact ⟨rfl, rfl, rfl, rfl⟩
    · exact ⟨rfl, rfl, rfl, rfl⟩

/-- Only a status other than `MP4E_STATUS_BAD_ARGUMENTS` makes the recorder
fail. -/
theorem classify_failed (err : Int) (duration90k : Nat) (rec : VideoRecorder)
    (h : rec.failed = false) :
    (classify err duration90k rec).failed =
      decide (err ≠ mp4eStatusBadArguments ∧ err ≠ mp4eStatusOk) := by
  unfold classify
  by_cases hbad : err = mp4eStatusBadArguments
  · simp [hbad, h]
  · by_cases hok : err = mp4eStatusOk
    · subst hok
      simp [mp4eStatusOk, mp4eStatusBadArguments, h]
    · simp [hbad, hok]

/-- The status of the writer, the failed writes and the classification agree. -/
theorem emissionOf_outcome (data : Bytes) (duration90k : Nat) (err : Int) (w w' : World)
    (rec : VideoRecorder) (hfailed : rec.failed = false)
    (hcase : err = mp4eStatusOk ∧ w'.writeFailures = w.writeFailures ∨
      err = -1 ∧ w'.writeFailures = w.writeFailures + 1 ∨
      err = mp4eStatusNoMemory ∧ w'.writeFailures = w.writeFailures ∨
      err = mp4eStatusBadArguments ∧ w'.writeFailures = w.writeFailures ∧
        rec.writer.lacks = true) :
    (emissionOf data duration90k err w w' (classify err duration90k rec)).Outcome := by
  have hclass := classify_failed err duration90k rec hfailed
  rcases hcase with ⟨rfl, hsame⟩ | ⟨rfl, hmore⟩ | ⟨rfl, hsame⟩ | ⟨rfl, hsame, hlacks⟩
  · refine .written rfl ?_ rfl hclass
    simp [emissionOf, hsame]
  · refine .ioError rfl ?_ rfl hclass
    simp [emissionOf, hmore]
  · refine .noMemory rfl ?_ rfl hclass ?_
    · simp [emissionOf, hsame]
    · have hfails : (classify mp4eStatusNoMemory duration90k rec).failed = true := hclass
      simp [emissionOf, VideoRecorder.active, hfails]
  · refine .refused rfl ?_ rfl hclass ?_
    · simp [emissionOf, hsame]
    · have hwriter := (classify_frame mp4eStatusBadArguments duration90k rec).2.2.2
      simp only [emissionOf, hwriter, hlacks]

/-- The call of the writer ends with one of the four outcomes. -/
theorem writeUnit_step (mux : Mux) (data : Bytes) (duration90k : Nat) (rec : VideoRecorder)
    (w : World) (hmux : rec.mux.isSome) (hfailed : rec.failed = false) :
    Step rec w (writeUnit mux data duration90k rec w).1
      (writeUnit mux data duration90k rec w).2 := by
  rcases hcall : callMux (mp4H26xWriteNal recorderWriteCallback data duration90k) mux rec w with
    ⟨err, rec', w'⟩
  rcases writeNal_outcome data duration90k mux rec w hcall with ⟨hworld, hkept, hcase⟩
  have hrec : rec'.enabled = rec.enabled ∧ rec'.fp = rec.fp ∧ rec'.mux.isSome = true := by
    unfold callMux at hcall
    cases hcall
    exact ⟨rfl, rfl, rfl⟩
  rcases hrec with ⟨henabled, hfp, hsome⟩
  rcases classify_frame err duration90k rec' with ⟨henabled', hfp', hmux', -⟩
  let emission := emissionOf data duration90k err w w' (classify err duration90k rec')
  unfold writeUnit
  rw [hcall]
  refine ⟨⟨[emission], ?_, ?_⟩, hworld.sessions, hworld.fileOps, hworld.files,
    henabled'.trans henabled, hfp'.trans hfp, ?_⟩
  · simp only [pendingReset, hworld.emissions, emission]
  · intro e he
    rw [List.mem_singleton] at he
    subst he
    exact emissionOf_outcome data duration90k err w w' rec' (hkept.trans hfailed) hcase
  · simp only [pendingReset]
    rw [hmux', hsome, hmux]

/-- Writing the pending buffer is a step. -/
theorem emitPending_step (rec : VideoRecorder) (w : World) (duration90k : Nat) :
    Step rec w (emitPending rec w duration90k).1 (emitPending rec w duration90k).2 := by
  have hmaps : ∀ maps, Step rec w rec { w with maps := maps } :=
    fun _ => Step.idle rfl rfl rfl rfl rfl rfl rfl
  unfold emitPending
  split
  · exact Step.refl rec w
  · split
    · rename_i mux buffer hmux hbuffer
      split
      · exact pendingReset_step rec w
      · rename_i hready
        split
        · exact pendingReset_step rec w
        · split
          · exact (hmaps _).trans (pendingReset_step rec _)
          · apply (hmaps w.maps.tail).trans
            apply writeUnit_step
            · simp [hmux]
            · simp only [Bool.or_eq_true, not_or, Bool.not_eq_true] at hready
              exact hready.1
    · exact pendingReset_step rec w

/-! ## The calls -/

/-- Writing the pending buffer before the next sample is a step. -/
theorem emitBefore_step (nextPts : ClockTime) (rec : VideoRecorder) (w : World) :
    Step rec w (emitBefore nextPts rec w).1 (emitBefore nextPts rec w).2 := by
  unfold emitBefore
  split
  · refine Step.trans ?_ (emitPending_step _ w _)
    exact Step.idle rfl rfl rfl rfl rfl rfl rfl
  · exact Step.refl rec w

/-- Preparing the writer is a step. -/
theorem ensureWriterInitialized_step (rec : VideoRecorder) (sample : Option GstSample)
    (w : World) : Step rec w (ensureWriterInitialized rec sample).2 w := by
  unfold ensureWriterInitialized
  split
  · exact Step.refl rec w
  · exact Step.refl rec w
  · rename_i mux _ hmux
    simp only
    split
    · exact Step.idle rfl rfl rfl rfl rfl rfl (by simp [hmux])
    · exact Step.idle rfl rfl rfl rfl rfl rfl (by simp [hmux])

/-- A recorder with a muxer is always given a writer. -/
theorem ensureWriterInitialized_ok (rec : VideoRecorder) (sample : Option GstSample)
    (hmux : rec.mux.isSome) :
    (ensureWriterInitialized rec sample).1 = true ∧
      (ensureWriterInitialized rec sample).2.failed = rec.failed := by
  unfold ensureWriterInitialized
  split
  · exact ⟨rfl, rfl⟩
  · rename_i hnone
    simp [hnone] at hmux
  · exact ⟨rfl, rfl⟩

/-- Taking the buffer of a sample is a step. -/
theorem pendingBuffer_step (args : SampleArgs) (rec : VideoRecorder) (w : World) :
    Step rec w rec (pendingBuffer args w).2 := by
  unfold pendingBuffer
  split
  · exact Step.idle rfl rfl rfl rfl rfl rfl rfl
  · simp only
    split
    · exact Step.refl rec w
    · split
      · exact Step.idle rfl rfl rfl rfl rfl rfl rfl
      · split
        · exact Step.idle rfl rfl rfl rfl rfl rfl rfl
        · exact Step.idle rfl rfl rfl rfl rfl rfl rfl

/-- What `video_recorder_handle_sample` may change. -/
theorem videoRecorderHandleSample_step (args : SampleArgs) (rec : VideoRecorder) (w : World) :
    Step rec w (videoRecorderHandleSample args rec w).1
      (videoRecorderHandleSample args rec w).2 := by
  unfold videoRecorderHandleSample
  split
  · exact Step.refl rec w
  · split
    · exact Step.refl rec w
    · have hinit := ensureWriterInitialized_step rec args.sample w
      simp only
      split
      · exact hinit
      · have hemit := emitBefore_step (sampleTimes args).1
          (ensureWriterInitialized rec args.sample).2 w
        have hkeep := (hinit.trans hemit).trans (pendingBuffer_step args _ _)
        split
        · exact hkeep
        · exact hkeep.trans (Step.idle rfl rfl rfl rfl rfl rfl rfl)

/-- What `video_recorder_flush` may change. -/
theorem videoRecorderFlush_step (rec : VideoRecorder) (w : World) :
    Step rec w (videoRecorderFlush rec w).1 (videoRecorderFlush rec w).2 := by
  unfold videoRecorderFlush
  split
  · exact pendingReset_step rec w
  · exact emitBefore_step _ rec w

/-- Closing the muxer writes to the open file and nothing else. -/
theorem callMux_close_kept (mux : Mux) (rec : VideoRecorder) (w : World) :
    World.Kept rec.fp w (callMux (mp4eClose recorderWriteCallback) mux rec w).2.2 := by
  have hfollows := mp4eClose_follows recorderWriteCallback_follows
    { mux := mux, writer := rec.writer, token := rec.token w, allocs := w.allocs }
  unfold callMux
  cases hrun : mp4eClose recorderWriteCallback
      { mux := mux, writer := rec.writer, token := rec.token w, allocs := w.allocs } with
  | ok _ t =>
      have hkept := (hfollows.ok hrun).1.1
      simp only [VideoRecorder.token] at hrun hkept
      rw [hrun]
      exact hkept.world t.allocs
  | error e t =>
      have hkept : (rec.token w).Kept t.token := by
        rcases (hfollows.error hrun).2 with hfails | ⟨_, hdone⟩
        · exact hfails.1
        · exact hdone.1
      simp only [VideoRecorder.token] at hrun hkept
      rw [hrun]
      exact hkept.world t.allocs

/-- `video_recorder_free` may write the pending access unit and the index to the
recorder's own file; it opens no file. -/
theorem videoRecorderFree_step (rec : VideoRecorder) (w : World) :
    Step rec w rec (videoRecorderFree rec w) := by
  have hflush := videoRecorderFlush_step rec w
  have hfp : (mp4H26xWriteClose (videoRecorderFlush rec w).1).fp = rec.fp := by
    rw [← hflush.fp]
    unfold mp4H26xWriteClose
    split
    · rfl
    · rfl
  unfold videoRecorderFree
  simp only
  split
  · exact ⟨hflush.emits, hflush.sessions, hflush.fileOps, hflush.files, rfl, rfl, rfl⟩
  · rename_i mux _
    have hclose := callMux_close_kept mux (mp4H26xWriteClose (videoRecorderFlush rec w).1)
      (videoRecorderFlush rec w).2
    rw [hfp] at hclose
    refine ⟨hflush.emits.trans (World.Emits.of_eq hclose.emissions),
      hclose.sessions.trans hflush.sessions, hflush.fileOps.trans hclose.fileOps, ?_,
      rfl, rfl, rfl⟩
    intro path hne
    exact (hclose.files path hne).trans (hflush.files path hne)

/-! ## The start -/

/-- What a call of `video_recorder_new` did: it opened no file, or it opened and
emptied the file of its output path, and then either returned no recorder or
one that accepts samples. -/
inductive NewOutcome (cfg : RecordCfg) (answers : NewAnswers) (w : World) :
    Option VideoRecorder → World → Prop
  | unopened {w' : World} (emissions : w'.emissions = w.emissions)
      (sessions : w'.sessions = w.sessions) (files : w'.files = w.files) :
      NewOutcome cfg answers w none w'
  | opened {r : Option VideoRecorder} {w' : World} (enable : cfg.enable = true)
      (emissions : w'.emissions = w.emissions)
      (sessions : w'.sessions = w.sessions ++ [sessionOf cfg answers r.isSome])
      (created : .create (newOutputPath cfg answers) ∈ w'.fileOps)
      (touched : (w.fileOps.filter FileOp.touchesFile).length <
        (w'.fileOps.filter FileOp.touchesFile).length)
      (files : ∀ path, path ≠ newOutputPath cfg answers → w'.files path = w.files path)
      (accepts : ∀ rec ∈ r, rec.enabled = true ∧ rec.failed = false ∧
        rec.fp = some (newOutputPath cfg answers) ∧ rec.mux.isSome = true) :
      NewOutcome cfg answers w r w'

/-- A new recorder has emitted nothing. -/
theorem NewOutcome.emissions {cfg : RecordCfg} {answers : NewAnswers} {w w' : World}
    {r : Option VideoRecorder} (h : NewOutcome cfg answers w r w') :
    w'.emissions = w.emissions := by
  cases h with
  | unopened emissions sessions files => exact emissions
  | opened enable emissions sessions created touched files accepts => exact emissions

/-- A new recorder adds one session at most. -/
theorem NewOutcome.sessions {cfg : RecordCfg} {answers : NewAnswers} {w w' : World}
    {r : Option VideoRecorder} (h : NewOutcome cfg answers w r w') :
    w'.sessions = w.sessions ∨
      w'.sessions = w.sessions ++ [sessionOf cfg answers r.isSome] := by
  cases h with
  | unopened emissions sessions files => exact Or.inl sessions
  | opened enable emissions sessions created touched files accepts => exact Or.inr sessions

/-- The outcome once the directory is there. -/
theorem openMux_outcome (cfg : RecordCfg) (answers : NewAnswers) (w w₀ : World)
    (henable : cfg.enable = true) (hemissions : w.emissions = w₀.emissions)
    (hsessions : w.sessions = w₀.sessions) (hops : w₀.fileOps <+: w.fileOps)
    (hfiles : w.files = w₀.files) :
    NewOutcome cfg answers w₀ (openMux cfg answers w).1 (openMux cfg answers w).2 := by
  let path := newOutputPath cfg answers
  let token : Token := { fp := some path, bytesWritten := 0, world := w.create path }
  rcases hopen : mp4eOpen recorderWriteCallback (modeFlags cfg.mode).1 (modeFlags cfg.mode).2
      token w.allocs with ⟨mux, token', allocs⟩
  have hkept : token.Kept token' := by
    have hfollows := mp4eOpen_follows recorderWriteCallback_follows (modeFlags cfg.mode).1
      (modeFlags cfg.mode).2 token w.allocs
    rw [hopen] at hfollows
    rcases hfollows with hdone | ⟨e, hfails⟩
    · exact hdone.1
    · exact hfails.1
  have hcreate : (w.create path).fileOps <+: token'.world.fileOps := hkept.fileOps
  have hnew : FileOp.create path ∈ token'.world.fileOps := by
    apply hcreate.subset
    simp [World.create]
  have htouched : (w₀.fileOps.filter FileOp.touchesFile).length <
      (token'.world.fileOps.filter FileOp.touchesFile).length := by
    have hgrown := (hcreate.filter FileOp.touchesFile).length_le
    have hbefore := (hops.filter FileOp.touchesFile).length_le
    have hone : [FileOp.create path].filter FileOp.touchesFile = [.create path] := rfl
    simp only [World.create, List.filter_append, hone, List.length_append,
      List.length_singleton] at hgrown
    omega
  have hother : ∀ p, p ≠ path → token'.world.files p = w₀.files p := by
    intro p hp
    rw [hkept.files p (by simpa [token] using Ne.symm hp)]
    simp only [token, World.create, Function.update_of_ne hp, hfiles]
  have hlog : token'.world.sessions = w₀.sessions := hkept.sessions.trans hsessions
  have hunits : token'.world.emissions = w₀.emissions := hkept.emissions.trans hemissions
  unfold openMux
  simp only [token, path] at hopen
  simp only [hopen]
  cases mux with
  | none =>
      refine .opened henable hunits ?_ hnew htouched hother ?_
      · simp [hlog]
      · simp
  | some mux =>
      refine .opened henable hunits ?_ hnew htouched hother ?_
      · simp [hlog]
      · simp

/-- What `video_recorder_new` may do. -/
theorem videoRecorderNew_outcome (cfg : RecordCfg) (answers : NewAnswers) (w : World) :
    NewOutcome cfg answers w (videoRecorderNew cfg answers w).1
      (videoRecorderNew cfg answers w).2 := by
  unfold videoRecorderNew
  split
  · exact .unopened rfl rfl rfl
  · rename_i henable
    simp only
    split
    · exact .unopened rfl rfl rfl
    · split
      · exact .unopened rfl rfl rfl
      · exact openMux_outcome cfg answers _ w (by simpa using henable) rfl rfl
          (List.prefix_append _ _) rfl

/-! ## A whole run -/

/-- The calls of `video_recorder_handle_sample` in a run. -/
def handleSamples (samples : List SampleArgs) (rec : VideoRecorder) (w : World) :
    VideoRecorder × World :=
  samples.foldl (fun r args => videoRecorderHandleSample args r.1 r.2) (rec, w)

/-- The life of one recorder: it is created, takes the samples and is freed. -/
def recorderRun (cfg : RecordCfg) (answers : NewAnswers) (samples : List SampleArgs)
    (w : World) : World :=
  match videoRecorderNew cfg answers w with
  | (none, w) => w
  | (some rec, w) =>
      let r := handleSamples samples rec w
      videoRecorderFree r.1 r.2

/-- All samples together are a step. -/
theorem handleSamples_step (samples : List SampleArgs) (rec : VideoRecorder) (w : World) :
    Step rec w (handleSamples samples rec w).1 (handleSamples samples rec w).2 := by
  induction samples generalizing rec w with
  | nil => exact Step.refl rec w
  | cons args samples ih =>
      have hfirst := videoRecorderHandleSample_step args rec w
      exact hfirst.trans (ih _ _)

/-- Every access unit written in the life of a recorder ends in one of the four
ways. -/
theorem recorderRun_emissions (cfg : RecordCfg) (answers : NewAnswers)
    (samples : List SampleArgs) (w : World) : w.Emits (recorderRun cfg answers samples w) := by
  have hemissions := (videoRecorderNew_outcome cfg answers w).emissions
  unfold recorderRun
  split
  · rename_i w' hcall
    rw [hcall] at hemissions
    exact World.Emits.of_eq hemissions
  · rename_i rec w' hcall
    rw [hcall] at hemissions
    apply (World.Emits.of_eq hemissions).trans
    apply (handleSamples_step samples rec w').emits.trans
    exact (videoRecorderFree_step _ _).emits

/-! ## Inputs of concrete runs -/

/-- VPS, SPS, PPS and an IDR slice, each behind a start code. -/
def idrUnit : Bytes :=
  [0, 0, 1, 0x40, 1, 0, 0, 1, 0x42, 1, 0, 0, 1, 0x44, 1, 0, 0, 1, 0x26, 1]

/-- A trailing slice. -/
def sliceUnit : Bytes := [0, 0, 1, 0x02, 1]

/-- The arguments the appsink thread passes for an access unit. -/
def sampleOf (data : Bytes) : SampleArgs :=
  { sample := some { buffer := some { data := data } }, buffer := some { data := data } }

/-- A recording configuration. -/
def mediaCfg (mode : RecordMode) : RecordCfg :=
  { enable := true, outputPath := "/media/v.mp4".toList, mode := mode }

/-- Noon of the first of January. -/
def noon : Timestamp := ⟨"20250101-120000".toList, by decide⟩

end Recorder
end PixelPilot
