import PixelPilot.Library.Ledger
import PixelPilot.Pipeline.Model
import PixelPilot.Pipeline.SharedRecorder

/-!
# The main loop and the signal thread

`signal_thread_func` turns signals into flags, and the main loop polls the flags,
clears them and acts on them.  One step is one access of a flag, or one call that
the two threads do not share anything with.

Main results:

- Definitions `signalNext` and `mainNext`: the steps of `signal_thread_func` and of
  `main` after its set-up.
- Definition `mainLoop`: the transition system of all runs.
- Theorems `recorderCall_enable`, `recorderCall_free` and `recorderCall_sample`:
  when a call leaves a recorder installed.
- Theorem `mainNext_outside`: only four steps of the main thread write a counter or
  `cfg.record`.

Current gaps:

- The record flags do not wrap around: more than `INT_MAX` signals within one turn
  of the loop are not modelled.
- Of the pipeline only the state and the recorder are kept here; its threads are
  the subject of `Pipeline.Model`.
- The forced exit of the process five seconds into the last `pipeline_stop` is
  left out.
-/

namespace PixelPilot
namespace Main

open Minimp4 Recorder Pipeline Transition

/-! ## Control points -/

/-- The signals in `g_signal_mask`. -/
inductive Signal
  | int
  | term
  | hup
  | usr1
  | usr2
deriving DecidableEq, Repr

/-- The two counters of recording requests. -/
inductive RecordFlag
  /-- `g_start_record_flag`. -/
  | start
  /-- `g_stop_record_flag`. -/
  | stop
deriving DecidableEq, Repr

/-- The counter of the opposite request. -/
def RecordFlag.other : RecordFlag → RecordFlag
  | .start => .stop
  | .stop => .start

/-- The counter that a signal increments. -/
def Signal.recordFlag : Signal → Option RecordFlag
  | .usr1 => some .start
  | .usr2 => some .stop
  | .int | .term | .hup => none

/-- Where the signal thread stands. -/
inductive SignalPc
  /-- In `sigwaitinfo`. -/
  | waiting
  /-- At `switch (sig)`. -/
  | taken (sig : Signal)
  /-- In an increment, between the load and the store of the counter. -/
  | loaded (flag : RecordFlag) (value : Nat)
  /-- After the `break` for `SIGTERM`. -/
  | ended
deriving DecidableEq, Repr

/-- Where the main thread stands. -/
inductive MainPc
  /-- At the first `pipeline_start`. -/
  | start
  /-- At `if (cfg.record.enable)` before the loop. -/
  | startRecording
  /-- At the head of the loop. -/
  | poll
  | checkExit
  | checkStart
  | clearStart
  /-- After `g_start_record_flag = 0`. -/
  | enable
  | checkStop
  | clearStop
  /-- After `g_stop_record_flag = 0`. -/
  | disable
  | checkRestart
  | clearRestart
  /-- At the `pipeline_stop` of a restart. -/
  | restartStop
  /-- At the `pipeline_start` of a restart. -/
  | restartStart
  /-- At the `pipeline_enable_recording` of a restart. -/
  | restartRecording
  | pollChild
  /-- At `if (ps.state == PIPELINE_STOPPED)`. -/
  | checkStopped
  /-- At the last `pipeline_stop`. -/
  | leaving
  | exited
deriving DecidableEq, Repr

/-! ## The state -/

/-- The installed recorder: its number, and the number of the pipeline for which it
was created. -/
structure Installed where
  recorder : Nat
  pipeline : Nat
deriving DecidableEq, Repr

/-- The flags, `cfg.record`, `ps->state` and `ps->recorder`.  The last five fields
only record what happened: the record signals taken, how many pipelines were
started and how many recorders created, which of them is installed, and when the
recorders were created and freed. -/
structure State where
  exitFlag : Bool := false
  restartFlag : Bool := false
  startRecordFlag : Nat := 0
  stopRecordFlag : Nat := 0
  record : RecordCfg
  psState : PipelineStateEnum := .stopped
  recording : Recording
  signalPc : SignalPc := .waiting
  mainPc : MainPc := .start
  taken : List RecordFlag := []
  pipelines : Nat := 0
  created : Nat := 0
  installed : Option Installed := none
  recorders : List (Ledger.Event Nat) := []

/-- What the environment answers during a step of the main thread. -/
structure Answers where
  /-- `pipeline_start` returns 0. -/
  started : Bool := true
  /-- The bus thread has ended when `pipeline_poll_child` looks. -/
  finished : Bool := false
  new : NewAnswers
  io : Io := {}

namespace State

/-- The value of a counter. -/
def flag (s : State) : RecordFlag → Nat
  | .start => s.startRecordFlag
  | .stop => s.stopRecordFlag

/-- Store a value in a counter. -/
def setFlag (s : State) (f : RecordFlag) (value : Nat) : State :=
  match f with
  | .start => { s with startRecordFlag := value }
  | .stop => { s with stopRecordFlag := value }

/-- The main thread goes on to `pc`. -/
def goto (s : State) (pc : MainPc) : State :=
  { s with mainPc := pc }

/-! ## The calls of the main thread -/

/-- A call on the recorder with the system's answers during it. -/
def recorderCall (s : State) (op : Op) (io : Io) : Recording :=
  recordingNext s.recording
    { op := op, writes := io.writes, allocs := io.allocs, maps := io.maps }

/-- `video_recorder_new` returns a recorder in the coming
`pipeline_enable_recording`. -/
def creates (s : State) (answers : Answers) : Bool :=
  s.record.outputPath ≠ [] &&
    (videoRecorderNew { s.record with enable := true } answers.new
      (answering answers.io s.recording.world)).1.isSome

/-- What the last fields record when `video_recorder_new` returns a recorder: it is
installed, or freed again if one is installed already. -/
def logCreation (s : State) : State :=
  match s.installed with
  | some _ =>
      { s with
        created := s.created + 1
        recorders := s.recorders ++ [.acquired s.created] ++ [.released s.created] }
  | none =>
      { s with
        created := s.created + 1
        recorders := s.recorders ++ [.acquired s.created]
        installed := some { recorder := s.created, pipeline := s.pipelines } }

/-- `pipeline_enable_recording(&ps, &cfg.record)`. -/
def enableRecording (s : State) (answers : Answers) : State :=
  { if s.creates answers then s.logCreation else s with
    recording := s.recorderCall (.enable s.record answers.new) answers.io }

/-- `ps->recorder` is cleared and the recorder freed. -/
def freeRecorder (s : State) (op : Op) (io : Io) : State :=
  { s with
    recording := s.recorderCall op io
    recorders := s.recorders ++ s.installed.toList.map fun i => .released i.recorder
    installed := none }

/-- `pipeline_disable_recording(&ps)`. -/
def disableRecording (s : State) (io : Io) : State :=
  s.freeRecorder .disable io

/-- `pipeline_start`: what it returns and leaves. -/
def pipelineStart (s : State) (answers : Answers) : Int × State :=
  if s.psState ≠ .stopped then (-1, s)
  else if answers.started then
    (0, { s with psState := .running, pipelines := s.pipelines + 1 })
  else (-1, s.freeRecorder .cleanup answers.io)

/-- `pipeline_stop`. -/
def pipelineStop (s : State) (io : Io) : State :=
  if s.psState = .stopped then s
  else { s.freeRecorder .cleanup io with psState := .stopped }

/-- `pipeline_poll_child`; `ps->bus_thread` is NULL unless the pipeline runs. -/
def pipelinePollChild (s : State) (answers : Answers) : State :=
  if s.psState = .running && answers.finished then
    { s.freeRecorder .cleanup answers.io with psState := .stopped }
  else s

end State

/-! ## Steps -/

/-- `sigwaitinfo` returns a signal. -/
def takeSignal (s : State) (sig : Signal) : Option State :=
  if s.signalPc = .waiting then
    some { s with signalPc := .taken sig, taken := s.taken ++ sig.recordFlag.toList }
  else none

/-- One step of the signal thread after `sigwaitinfo`. -/
def signalNext (s : State) : Option State :=
  match s.signalPc with
  | .taken .int => some { s with exitFlag := true, signalPc := .waiting }
  | .taken .term => some { s with exitFlag := true, signalPc := .ended }
  | .taken .hup => some { s with restartFlag := true, signalPc := .waiting }
  | .taken .usr1 => some { s with signalPc := .loaded .start s.startRecordFlag }
  | .taken .usr2 => some { s with signalPc := .loaded .stop s.stopRecordFlag }
  | .loaded f value => some { s.setFlag f (value + 1) with signalPc := .waiting }
  | .waiting | .ended => none

/-- One step of `main`. -/
def mainNext (s : State) (answers : Answers) : Option State :=
  match s.mainPc with
  | .start =>
      let r := s.pipelineStart answers
      some (r.2.goto (if r.1 = 0 then .startRecording else .exited))
  | .startRecording =>
      some ((if s.record.enable then s.enableRecording answers else s).goto .poll)
  | .poll => some (s.goto .checkExit)
  | .checkExit => some (s.goto (if s.exitFlag then .leaving else .checkStart))
  | .checkStart => some (s.goto (if 0 < s.startRecordFlag then .clearStart else .checkStop))
  | .clearStart => some ((s.setFlag .start 0).goto .enable)
  | .enable =>
      let t : State := { s with record := { s.record with enable := true } }
      some ((if s.psState = .running then t.enableRecording answers else t).goto .checkStop)
  | .checkStop => some (s.goto (if 0 < s.stopRecordFlag then .clearStop else .checkRestart))
  | .clearStop => some ((s.setFlag .stop 0).goto .disable)
  | .disable =>
      let t : State := { s with record := { s.record with enable := false } }
      some ((if s.psState = .running then t.disableRecording answers.io else t).goto
        .checkRestart)
  | .checkRestart => some (s.goto (if s.restartFlag then .clearRestart else .pollChild))
  | .clearRestart => some ({ s with restartFlag := false }.goto .restartStop)
  | .restartStop => some ((s.pipelineStop answers.io).goto .restartStart)
  | .restartStart =>
      let r := s.pipelineStart answers
      if r.1 ≠ 0 then some ({ r.2 with exitFlag := true }.goto .pollChild)
      else some (r.2.goto (if s.record.enable then .restartRecording else .pollChild))
  | .restartRecording => some ((s.enableRecording answers).goto .pollChild)
  | .pollChild => some ((s.pipelinePollChild answers).goto .checkStopped)
  | .checkStopped =>
      if s.psState = .stopped then some ({ s with exitFlag := true }.goto .leaving)
      else some (s.goto .poll)
  | .leaving => some ((s.pipelineStop answers.io).goto .exited)
  | .exited => none

/-- The appsink thread hands a sample to the recorder. -/
def sampleNext (s : State) (args : SampleArgs) (io : Io) : Option State :=
  if s.psState = .running then some { s with recording := s.recorderCall (.sample args) io }
  else none

/-- An action: whose step it is, and what the environment answers. -/
inductive Act
  | signal (sig : Signal)
  /-- The signal thread acts on the signal it took. -/
  | count
  | main (answers : Answers)
  | sample (args : SampleArgs) (io : Io)

/-- One step of the program. -/
def next (s : State) : Act → Option State
  | .signal sig => takeSignal s sig
  | .count => signalNext s
  | .main answers => mainNext s answers
  | .sample args io => sampleNext s args io

/-- The program before the first `pipeline_start`. -/
def State.initial (record : RecordCfg) (w : World) : State where
  record := record
  recording := { world := w }

/-- All runs, for any configuration and any files. -/
def mainLoop : System State Act where
  init s := ∃ record w, w.sessions = [] ∧ s = State.initial record w
  next := next

/-! ## What the calls do to the recorder -/

/-- After a free no recorder is installed. -/
theorem recorderCall_free (s : State) {op : Op} (io : Io)
    (hop : op = .disable ∨ op = .cleanup) : (s.recorderCall op io).recorder = none := by
  have hcleanup : ∀ r : Recording, (cleanupRecorder r).recorder = none := by
    intro r
    unfold cleanupRecorder
    split
    · assumption
    · rfl
  rcases hop with rfl | rfl
  · exact hcleanup _
  · exact hcleanup _

/-- A sample neither installs nor removes the recorder. -/
theorem recorderCall_sample (s : State) (args : SampleArgs) (io : Io) :
    (s.recorderCall (.sample args) io).recorder.isSome = s.recording.recorder.isSome := by
  unfold State.recorderCall recordingNext handleRecorderSample
  simp only [Recording.before]
  split
  · rename_i hnone
    rw [hnone]
  · rename_i rec hrec
    rw [hrec]
    rfl

/-- `pipeline_enable_recording` installs a recorder if it creates one and none is
installed. -/
theorem recorderCall_enable (s : State) (answers : Answers) :
    (s.recorderCall (.enable s.record answers.new) answers.io).recorder.isSome =
      (s.recording.recorder.isSome || s.creates answers) := by
  unfold State.recorderCall State.creates recordingNext pipelineEnableRecording
  simp only [Recording.before, answering]
  by_cases hpath : s.record.outputPath = []
  · simp [hpath]
  · simp only [hpath, if_false]
    split
    · rename_i w hnew
      simp [hnew]
    · rename_i rec w hnew
      unfold installRecorder
      split
      · rename_i installed hinstalled
        simp only at hinstalled
        simp [hinstalled]
      · simp [hnew, hpath]

/-- Freeing the recorder empties the slot. -/
theorem freeRecorder_recorder (s : State) {op : Op} (io : Io)
    (hop : op = .disable ∨ op = .cleanup) : (s.freeRecorder op io).recording.recorder = none :=
  recorderCall_free s io hop

/-! ## What the calls leave alone -/

/-- The call leaves the flags, `cfg.record` and both threads as they were. -/
structure Outside (s t : State) : Prop where
  exitFlag : t.exitFlag = s.exitFlag
  restartFlag : t.restartFlag = s.restartFlag
  flag : ∀ f, t.flag f = s.flag f
  record : t.record = s.record
  signalPc : t.signalPc = s.signalPc
  mainPc : t.mainPc = s.mainPc
  taken : t.taken = s.taken

theorem Outside.refl (s : State) : Outside s s :=
  ⟨rfl, rfl, fun _ => rfl, rfl, rfl, rfl, rfl⟩

/-- Freeing the recorder leaves the flags of the main loop and both threads alone. -/
theorem freeRecorder_outside (s : State) (op : Op) (io : Io) :
    Outside s (s.freeRecorder op io) :=
  ⟨rfl, rfl, fun f => by cases f <;> rfl, rfl, rfl, rfl, rfl⟩

/-- Enabling a recording leaves these and the state of the pipeline alone. -/
theorem enableRecording_outside (s : State) (answers : Answers) :
    Outside s (s.enableRecording answers) ∧
      (s.enableRecording answers).psState = s.psState := by
  unfold State.enableRecording State.logCreation
  split
  · split
    · exact ⟨⟨rfl, rfl, fun f => by cases f <;> rfl, rfl, rfl, rfl, rfl⟩, rfl⟩
    · exact ⟨⟨rfl, rfl, fun f => by cases f <;> rfl, rfl, rfl, rfl, rfl⟩, rfl⟩
  · exact ⟨⟨rfl, rfl, fun f => by cases f <;> rfl, rfl, rfl, rfl, rfl⟩, rfl⟩

/-- A start leaves the flags of the main loop and both threads alone. -/
theorem pipelineStart_outside (s : State) (answers : Answers) :
    Outside s (s.pipelineStart answers).2 := by
  unfold State.pipelineStart
  split
  · exact .refl s
  · split
    · exact ⟨rfl, rfl, fun f => by cases f <;> rfl, rfl, rfl, rfl, rfl⟩
    · exact freeRecorder_outside s _ _

/-- A stop leaves the flags of the main loop and both threads alone. -/
theorem pipelineStop_outside (s : State) (io : Io) : Outside s (s.pipelineStop io) := by
  unfold State.pipelineStop
  split
  · exact .refl s
  · exact ⟨rfl, rfl, fun f => by cases f <;> rfl, rfl, rfl, rfl, rfl⟩

/-- A poll leaves the flags of the main loop and both threads alone. -/
theorem pipelinePollChild_outside (s : State) (answers : Answers) :
    Outside s (s.pipelinePollChild answers) := by
  unfold State.pipelinePollChild
  split
  · exact ⟨rfl, rfl, fun f => by cases f <;> rfl, rfl, rfl, rfl, rfl⟩
  · exact .refl s

/-- Where the main thread writes a flag or `cfg.record`: everywhere else its steps
leave them alone, and the signal thread too. -/
theorem mainNext_outside {s t : State} {answers : Answers}
    (hnext : mainNext s answers = some t) (hstart : s.mainPc ≠ .clearStart)
    (hstop : s.mainPc ≠ .clearStop) (henable : s.mainPc ≠ .enable)
    (hdisable : s.mainPc ≠ .disable) :
    (∀ f, t.flag f = s.flag f) ∧ t.record = s.record ∧ t.signalPc = s.signalPc ∧
      t.taken = s.taken := by
  have hkeep : ∀ {u : State} (pc : MainPc), Outside s u →
      (∀ f, (u.goto pc).flag f = s.flag f) ∧ (u.goto pc).record = s.record ∧
        (u.goto pc).signalPc = s.signalPc ∧ (u.goto pc).taken = s.taken := by
    intro u pc hu
    refine ⟨?_, hu.record, hu.signalPc, hu.taken⟩
    intro f
    rw [← hu.flag f]
    cases f <;> rfl
  have hsame := Outside.refl s
  unfold mainNext at hnext
  split at hnext <;> rename_i hpc
  case h_1 =>
    cases hnext
    exact hkeep _ (pipelineStart_outside s answers)
  case h_2 =>
    cases hnext
    split
    · exact hkeep _ (enableRecording_outside s answers).1
    · exact hkeep _ hsame
  case h_6 => exact absurd hpc hstart
  case h_7 => exact absurd hpc henable
  case h_9 => exact absurd hpc hstop
  case h_10 => exact absurd hpc hdisable
  case h_12 =>
    cases hnext
    exact ⟨fun f => by cases f <;> rfl, rfl, rfl, rfl⟩
  case h_13 =>
    cases hnext
    exact hkeep _ (pipelineStop_outside s answers.io)
  case h_14 =>
    have hcall := hkeep .pollChild (pipelineStart_outside s answers)
    by_cases hzero : (s.pipelineStart answers).1 = 0
    · simp only [hzero, ne_eq, not_true_eq_false, if_false] at hnext
      cases hnext
      exact hkeep _ (pipelineStart_outside s answers)
    · simp only [hzero, ne_eq, not_false_eq_true, if_true] at hnext
      cases hnext
      refine ⟨?_, hcall.2⟩
      intro f
      rw [← hcall.1 f]
      cases f <;> rfl
  case h_15 =>
    cases hnext
    exact hkeep _ (enableRecording_outside s answers).1
  case h_16 =>
    cases hnext
    exact hkeep _ (pipelinePollChild_outside s answers)
  case h_17 =>
    split at hnext
    · cases hnext
      exact ⟨fun f => by cases f <;> rfl, rfl, rfl, rfl⟩
    · cases hnext
      exact hkeep _ hsame
  case h_18 =>
    cases hnext
    exact hkeep _ (pipelineStop_outside s answers.io)
  case h_19 => contradiction
  all_goals
    cases hnext
    exact hkeep _ hsame

end Main
end PixelPilot
