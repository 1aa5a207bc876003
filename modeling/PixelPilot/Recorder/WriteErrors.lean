import PixelPilot.Recorder.Steps

/-!
# Write failures while an access unit is written

`recorder_write_callback` fails with -1, which is also the value of
`MP4E_STATUS_BAD_ARGUMENTS`.  The muxer hands it up unchanged, so `emit_pending`
takes every failed write for a writer that still waits for its parameter sets
and first IDR, and the recorder goes on.

Main results:

- Definition `Emission.Classified`: a failed write stops the recorder, and only a
  writer that lacks something makes it wait.
- Theorem `Emission.Outcome.classified_iff`: an access unit is classified so
  exactly when no write failed in it.
- Theorem `write_failures_classified`: the same for whole runs of a recorder.
-/

namespace PixelPilot
namespace Recorder

open Minimp4

/-- If the write callback failed then the recorder has failed, its statistics
report it inactive and the failure was not taken for a missing parameter set or
IDR; the recorder waits for these only if one is missing. -/
structure Emission.Classified (e : Emission) : Prop where
  stops : e.writeFailed = true →
    e.failed = true ∧ e.active = false ∧ e.awaitingSync = false
  waits : e.awaitingSync = true → e.lacks = true

/-- An access unit is classified as it should be exactly when none of its writes
failed. -/
theorem Emission.Outcome.classified_iff {e : Emission} (h : e.Outcome) :
    e.Classified ↔ e.writeFailed = false := by
  cases h with
  | written err writeFailed awaitingSync failed =>
      refine ⟨fun _ => writeFailed, fun _ => ⟨?_, ?_⟩⟩
      · simp [writeFailed]
      · simp [awaitingSync]
  | ioError err writeFailed awaitingSync failed =>
      constructor
      · intro hclassified
        have hstops := hclassified.stops writeFailed
        rw [failed] at hstops
        exact absurd hstops.1 (by decide)
      · intro hnone
        rw [writeFailed] at hnone
        contradiction
  | noMemory err writeFailed awaitingSync failed active =>
      refine ⟨fun _ => writeFailed, fun _ => ⟨?_, ?_⟩⟩
      · simp [writeFailed]
      · simp [awaitingSync]
  | refused err writeFailed awaitingSync failed lacks =>
      refine ⟨fun _ => writeFailed, fun _ => ⟨?_, ?_⟩⟩
      · simp [writeFailed]
      · intro _
        exact lacks

/-- A world in which nothing has been recorded yet. -/
def startWorld (files : Path → Option Bytes) (writes : List WriteAnswer)
    (allocs maps : List Bool) : World :=
  { files := files, writes := writes, allocs := allocs, maps := maps }

/-- A run of a recorder classifies all its access units as it should exactly when
no call of the write callback fails while an access unit is written. -/
theorem write_failures_classified (cfg : RecordCfg) (answers : NewAnswers)
    (samples : List SampleArgs) (files : Path → Option Bytes) (writes : List WriteAnswer)
    (allocs maps : List Bool) :
    (∀ e ∈ (recorderRun cfg answers samples
        (startWorld files writes allocs maps)).emissions, e.Classified) ↔
      ∀ e ∈ (recorderRun cfg answers samples
        (startWorld files writes allocs maps)).emissions, e.writeFailed = false := by
  rcases recorderRun_emissions cfg answers samples (startWorld files writes allocs maps) with
    ⟨es, heq, houtcome⟩
  have hrun : (recorderRun cfg answers samples
      (startWorld files writes allocs maps)).emissions = es := heq
  rw [hrun]
  constructor
  · intro hall e he
    exact (houtcome e he).classified_iff.mp (hall e he)
  · intro hall e he
    exact (houtcome e he).classified_iff.mpr (hall e he)

/-! ## A failed write -/

/-- A failed write that leaves the recorder running is not classified as it
should be. -/
theorem not_classified_of_any {es : List Emission}
    (h : (es.any fun e => e.writeFailed && !e.failed) = true) :
    ¬ ∀ e ∈ es, e.Classified := by
  intro hall
  rcases List.any_eq_true.mp h with ⟨e, he, hfields⟩
  rw [Bool.and_eq_true, Bool.not_eq_true'] at hfields
  have hfails := ((hall e he).stops hfields.1).1
  rw [hfields.2] at hfails
  contradiction

/-- With its parameter sets and IDR written, a recorder in sequential mode meets a
seek error in its second access unit and does not fail. -/
theorem seek_error_ignored :
    ¬ ∀ e ∈ (recorderRun (mediaCfg .sequential) { timestamp := noon }
        [sampleOf idrUnit, sampleOf sliceUnit, sampleOf sliceUnit]
        (startWorld (fun _ => none) [.complete, .seekFailed] [] [])).emissions,
      e.Classified := by
  apply not_classified_of_any
  decide +kernel

end Recorder
end PixelPilot
