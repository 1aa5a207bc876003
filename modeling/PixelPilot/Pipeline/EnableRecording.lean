import PixelPilot.Pipeline.Sessions

/-!
# Enabling a recording

`pipeline_enable_recording` creates a complete recorder before it looks at
`ps->recorder`, and it looks only at whether there is a recorder, not at whether
it has failed.

Main results:

- Definition `Ignored`: what the call should be while a recording is active.
- Theorem `enable_not_ignored`: the call never is.
- Theorem `enable_keeps_active`: it leaves the active recorder alone, and its file
  unless the new recorder has the same one.
- Definition `Installs`: what the return value should promise.
- Theorem `enable_installs_iff`: it does so exactly when no failed recorder is
  installed that the call would leave there.
-/

namespace PixelPilot
namespace Pipeline

open Minimp4 Recorder Transition

/-! ## A second enable -/

/-- The call returned 0 and did nothing: it touched no file, left the active
recorder and its file alone, and makes no difference to the file whatever calls
follow. -/
structure Ignored (s : Recording) (r : Int × Recording) : Prop where
  returns : r.1 = 0
  untouched : r.2.world.fileOps.filter FileOp.touchesFile =
    s.world.fileOps.filter FileOp.touchesFile
  recorder : r.2.recorder = s.recorder
  contents : ∀ rec, s.recorder = some rec →
    r.2.world.files rec.outputPath = s.world.files rec.outputPath
  afterwards : ∀ rec, s.recorder = some rec → ∀ calls : List Call,
    (finish calls r.2).world.files rec.outputPath =
      (finish calls s).world.files rec.outputPath

/-- A call that returns 0 has created and written a file. -/
theorem enable_touches_file {cfg : RecordCfg} {answers : NewAnswers} {s : Recording}
    (h : (pipelineEnableRecording cfg answers s).1 = 0) :
    (s.world.fileOps.filter FileOp.touchesFile).length <
      ((pipelineEnableRecording cfg answers s).2.world.fileOps.filter
        FileOp.touchesFile).length := by
  have hnew := videoRecorderNew_outcome { cfg with enable := true } answers s.world
  unfold pipelineEnableRecording at h ⊢
  split at h
  · contradiction
  · rename_i hpath
    rw [if_neg hpath]
    rcases hcall : videoRecorderNew { cfg with enable := true } answers s.world with ⟨r, w⟩
    rw [hcall] at hnew h
    cases r with
    | none => contradiction
    | some rec =>
        cases hnew with
        | opened enable emissions sessions created touched files accepts =>
            simp only [installRecorder]
            split
            · have hfree := (videoRecorderFree_step rec w).fileOps
              exact Nat.lt_of_lt_of_le touched (hfree.filter _).length_le
            · exact touched

/-- The call leaves the active recorder alone, and every file but that of the
recorder it creates. -/
theorem enable_keeps_active {cfg : RecordCfg} {answers : NewAnswers} {s : Recording}
    {active : VideoRecorder} (hactive : s.recorder = some active) (path : Path)
    (hpath : path ≠ newOutputPath { cfg with enable := true } answers) :
    (pipelineEnableRecording cfg answers s).2.recorder = some active ∧
      (pipelineEnableRecording cfg answers s).2.world.files path = s.world.files path := by
  have hnew := videoRecorderNew_outcome { cfg with enable := true } answers s.world
  unfold pipelineEnableRecording
  split
  · exact ⟨hactive, rfl⟩
  · rcases hcall : videoRecorderNew { cfg with enable := true } answers s.world with ⟨r, w⟩
    rw [hcall] at hnew
    cases hnew with
    | unopened emissions sessions files => exact ⟨hactive, congrFun files path⟩
    | opened enable emissions sessions created touched files accepts =>
        cases r with
        | none => exact ⟨hactive, files path hpath⟩
        | some rec =>
            simp only [installRecorder, hactive, true_and]
            rw [(videoRecorderFree_step rec w).files path ?_]
            · exact files path hpath
            · rw [(accepts rec rfl).2.2.1]
              intro heq
              exact hpath (Option.some.inj heq).symm

/-- Enabling a recording is never ignored: a call that returns 0 has touched a
file. -/
theorem enable_not_ignored (cfg : RecordCfg) (answers : NewAnswers) (s : Recording) :
    ¬ Ignored s (pipelineEnableRecording cfg answers s) := by
  intro h
  have htouched := enable_touches_file h.returns
  rw [h.untouched] at htouched
  exact Nat.lt_irrefl _ htouched

/-- A call of `pipeline_enable_recording` that the system answers with success. -/
def enableAt (mode : RecordMode) (timestamp : Timestamp) : Call :=
  { op := .enable (mediaCfg mode) { timestamp := timestamp } }

/-- A sample whose access unit the system lets through. -/
def sampleCall (data : Bytes) : Call :=
  { op := .sample (sampleOf data) }

/-- A recording that is active, with three access units. -/
def activeRecording : Recording :=
  finish [enableAt .sequential noon, sampleCall idrUnit, sampleCall sliceUnit,
    sampleCall sliceUnit] {}

/-- The file of that recording. -/
def noonFile : Path := "/media/v-20250101-120000.mp4".toList

theorem activeRecording_file :
    ∃ rec, activeRecording.recorder = some rec ∧ rec.outputPath = noonFile := by
  have hmap : activeRecording.recorder.map VideoRecorder.outputPath = some noonFile := by
    decide +kernel
  rw [Option.map_eq_some_iff] at hmap
  exact hmap

/-- A second SIGUSR1 within the second in which the recording began empties its
file: the call returns 0, and neither the content of the file at once nor the one
after SIGUSR2 is what it would have been without it. -/
theorem second_enable_truncates :
    recording.Reachable activeRecording ∧
      activeRecording.recorder.map VideoRecorder.active = some true ∧
      (pipelineEnableRecording (mediaCfg .sequential) { timestamp := noon }
        activeRecording).1 = 0 ∧
      (finish [{ op := .disable }] (pipelineEnableRecording (mediaCfg .sequential)
          { timestamp := noon } activeRecording).2).world.files noonFile ≠
        (finish [{ op := .disable }] activeRecording).world.files noonFile ∧
      ¬ Ignored activeRecording (pipelineEnableRecording (mediaCfg .sequential)
        { timestamp := noon } activeRecording) := by
  refine ⟨?_, ?_, ?_, ?_, ?_⟩
  · exact reachableUnder_finish (.init ⟨rfl, rfl⟩) _ fun _ _ _ => trivial
  · decide +kernel
  · decide +kernel
  · decide +kernel
  · intro h
    rcases activeRecording_file with ⟨rec, hrec, hpath⟩
    have hcontents := h.contents rec hrec
    rw [hpath] at hcontents
    revert hcontents
    decide +kernel

/-! ## The return value -/

/-- The recorder keeps every sample it is given as its pending sample. -/
def Accepts (rec : VideoRecorder) : Prop :=
  ∀ (args : SampleArgs) (b : GstBuffer) (w : World), args.buffer = some b →
    (videoRecorderHandleSample args rec w).1.pending.buffer = some b

/-- With return value 0 an active recorder that accepts samples is installed; with
-1 the recorder is what it was. -/
structure Installs (s : Recording) (r : Int × Recording) : Prop where
  active : r.1 = 0 → ∃ rec, r.2.recorder = some rec ∧ rec.failed = false ∧
    rec.fp.isSome = true ∧ rec.mux.isSome = true ∧ Accepts rec
  unchanged : r.1 = -1 → r.2.recorder = s.recorder

/-- An open recorder that has not failed accepts samples. -/
theorem Open.accepts {rec : VideoRecorder} (h : Open rec) (hfailed : rec.failed = false) :
    Accepts rec := by
  intro args b w hb
  have hinit := ensureWriterInitialized_ok rec args.sample h.mux
  unfold videoRecorderHandleSample pendingBuffer
  simp [h.enabled, hfailed, hb, hinit.1]

/-- The call keeps its promise exactly when no failed recorder is installed, or
the call fails: the path is empty or no recorder can be created. -/
theorem enable_installs_iff (cfg : RecordCfg) (answers : NewAnswers) (s : Recording)
    (hs : recording.Reachable s) (writes : List WriteAnswer) (allocs maps : List Bool) :
    Installs s (pipelineEnableRecording cfg answers
        (s.before { op := .enable cfg answers, writes, allocs, maps })) ↔
      ¬ ((∃ rec, s.recorder = some rec ∧ rec.failed = true) ∧ cfg.outputPath ≠ [] ∧
        creationAllowed { cfg with enable := true } answers
          (s.before { op := .enable cfg answers, writes, allocs, maps }).world = true) := by
  have hinv := recordingInv hs
  have hallowed := videoRecorderNew_isSome { cfg with enable := true } answers
    (s.before { op := .enable cfg answers, writes, allocs, maps }).world rfl
  have hrecorder : (s.before { op := .enable cfg answers, writes, allocs, maps }).recorder =
      s.recorder := rfl
  generalize s.before { op := .enable cfg answers, writes, allocs, maps } = t at *
  unfold pipelineEnableRecording
  by_cases hpath : cfg.outputPath = []
  · rw [if_pos hpath]
    constructor
    · rintro - ⟨-, hne, -⟩
      exact hne hpath
    · intro _
      refine ⟨?_, ?_⟩
      · intro hzero
        contradiction
      · intro _
        exact hrecorder
  rw [if_neg hpath, ← hallowed]
  rcases hcall : videoRecorderNew { cfg with enable := true } answers t.world with ⟨r, w⟩
  cases r with
  | none =>
      constructor
      · rintro - ⟨-, -, hsome⟩
        contradiction
      · intro _
        refine ⟨?_, ?_⟩
        · intro hzero
          contradiction
        · intro _
          exact hrecorder
  | some rec =>
      rcases hinstalled : s.recorder with _ | old
      · rw [hinstalled] at hrecorder
        simp only [installRecorder, hrecorder]
        constructor
        · rintro - ⟨⟨old, hold, -⟩, -⟩
          contradiction
        · intro _
          rcases videoRecorderNew_open hcall with ⟨hopen, hfailed⟩
          refine ⟨?_, ?_⟩
          · intro _
            exact ⟨rec, rfl, hfailed, hopen.fp, hopen.mux, hopen.accepts hfailed⟩
          · intro hminus
            contradiction
      · have hopen := hinv.isOpen old hinstalled
        rw [hinstalled] at hrecorder
        simp only [installRecorder, hrecorder]
        constructor
        · rintro hinstalls ⟨⟨rec', hrec', hfailed⟩, -⟩
          rcases hinstalls.active rfl with ⟨kept, hkept, hactive, -⟩
          cases hrec'
          cases hkept
          rw [hfailed] at hactive
          contradiction
        · intro hnot
          have hfailed : old.failed = false := by
            by_contra hfails
            exact hnot ⟨⟨old, rfl, by simpa using hfails⟩, hpath, rfl⟩
          refine ⟨?_, ?_⟩
          · intro _
            exact ⟨old, rfl, hfailed, hopen.fp, hopen.mux, hopen.accepts hfailed⟩
          · intro hminus
            contradiction

/-- Enabling the recording again returns 0 and keeps the active recorder, which has three access
units. -/
theorem enable_installs_again :
    (pipelineEnableRecording (mediaCfg .sequential) { timestamp := afterNoon }
        (activeRecording.before
          { op := .enable (mediaCfg .sequential) { timestamp := afterNoon },
            writes := [], allocs := [], maps := [] })).1 = 0 ∧
      Installs activeRecording (pipelineEnableRecording (mediaCfg .sequential)
        { timestamp := afterNoon }
        (activeRecording.before
          { op := .enable (mediaCfg .sequential) { timestamp := afterNoon },
            writes := [], allocs := [], maps := [] })) := by
  refine ⟨by decide +kernel, ?_⟩
  refine (enable_installs_iff (mediaCfg .sequential) { timestamp := afterNoon } activeRecording
    (reachableUnder_finish (.init ⟨rfl, rfl⟩) _ fun _ _ _ => trivial) [] [] []).mpr ?_
  rintro ⟨⟨rec, hrec, hfailed⟩, -⟩
  have hactive : activeRecording.recorder.map VideoRecorder.failed = some false := by
    decide +kernel
  rw [hrec, Option.map_some, hfailed] at hactive
  contradiction

/-- A recorder that ran out of memory while it wrote its first access unit. -/
def failedRecording : Recording :=
  finish [enableAt .sequential noon, sampleCall idrUnit,
    { sampleCall sliceUnit with allocs := [true, true, true, false] }] {}

/-- Enabling the recording again returns 0 and leaves the failed recorder
installed. -/
theorem failed_recorder_stays :
    recording.Reachable failedRecording ∧
      ¬ Installs failedRecording (pipelineEnableRecording (mediaCfg .sequential)
        { timestamp := noon } (failedRecording.before
          { op := .enable (mediaCfg .sequential) { timestamp := noon },
            writes := [], allocs := [], maps := [] })) := by
  have hreach : recording.Reachable failedRecording :=
    reachableUnder_finish (.init ⟨rfl, rfl⟩) _ fun _ _ _ => trivial
  have hresult : (pipelineEnableRecording (mediaCfg .sequential) { timestamp := noon }
      (failedRecording.before
        { op := .enable (mediaCfg .sequential) { timestamp := noon },
          writes := [], allocs := [], maps := [] })).1 = 0 ∧
      (pipelineEnableRecording (mediaCfg .sequential) { timestamp := noon }
        (failedRecording.before
          { op := .enable (mediaCfg .sequential) { timestamp := noon },
            writes := [], allocs := [], maps := [] })).2.recorder.map VideoRecorder.failed =
        some true := by
    decide +kernel
  refine ⟨hreach, ?_⟩
  intro hinstalls
  rcases hinstalls.active hresult.1 with ⟨rec, hrec, hfailed, -⟩
  rw [hrec] at hresult
  have hfails : rec.failed = true := Option.some.inj hresult.2
  rw [hfailed] at hfails
  contradiction

end Pipeline
end PixelPilot
