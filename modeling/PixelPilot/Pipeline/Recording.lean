import PixelPilot.Library.Transition
import PixelPilot.Recorder.Steps

/-!
# Recording in the pipeline

The functions of `pipeline.c` that create, use and free the recorder in
`ps->recorder`, one call at a time.  What the system answers during a call is part
of the call.

Main results:

- Definitions `pipelineEnableRecording`, `pipelineDisableRecording`,
  `cleanupRecorder`, `handleRecorderSample` and `pipelineGetRecordingStats`.
- Definition `recording`: the transition system of a run's calls.
- Theorem `recordingInv`: in every reachable state the installed recorder has its
  file and muxer open, and every session of the run wrote the file its path and
  timestamp determine.
- Theorem `videoRecorderNew_isSome`: when the system lets a recorder be created.

Current gaps:

- The calls of different threads do not interleave here.
-/

namespace PixelPilot
namespace Pipeline

open Minimp4 Recorder Transition

/-! ## The calls -/

/-- `ps->recorder` and the world around the pipeline. -/
structure Recording where
  recorder : Option VideoRecorder := none
  world : World := {}

/-- The end of `pipeline_enable_recording`, for a recorder that was created: it is
installed, or freed again if one is installed already. -/
def installRecorder (rec : VideoRecorder) (w : World) (s : Recording) : Int × Recording :=
  match s.recorder with
  | some installed => (0, { recorder := some installed, world := videoRecorderFree rec w })
  | none => (0, { recorder := some rec, world := w })

/-- `pipeline_enable_recording`. -/
def pipelineEnableRecording (cfg : RecordCfg) (answers : NewAnswers) (s : Recording) :
    Int × Recording :=
  if cfg.outputPath = [] then (-1, s)
  else
    match videoRecorderNew { cfg with enable := true } answers s.world with
    | (none, w) => (-1, { s with world := w })
    | (some rec, w) => installRecorder rec w s

/-- The recorder part of `cleanup_pipeline`: take the recorder out and free it. -/
def cleanupRecorder (s : Recording) : Recording :=
  match s.recorder with
  | none => s
  | some rec => { recorder := none, world := videoRecorderFree rec s.world }

/-- `pipeline_disable_recording`. -/
def pipelineDisableRecording (s : Recording) : Recording :=
  cleanupRecorder s

/-- The recorder part of one turn of `appsink_thread_func`. -/
def handleRecorderSample (args : SampleArgs) (s : Recording) : Recording :=
  match s.recorder with
  | none => s
  | some rec =>
      let r := videoRecorderHandleSample args rec s.world
      { recorder := some r.1, world := r.2 }

/-- `pipeline_get_recording_stats` at a reading of the monotonic clock. -/
def pipelineGetRecordingStats (s : Recording) (monotonicTime : Nat) : VideoRecorderStats :=
  match s.recorder with
  | none => {}
  | some rec => videoRecorderGetStats rec monotonicTime

/-! ## Runs -/

/-- The calls that reach the recorder. -/
inductive Op
  | enable (cfg : RecordCfg) (answers : NewAnswers)
  | disable
  | cleanup
  | sample (args : SampleArgs)

/-- A call and the system's answers during it. -/
structure Call where
  op : Op
  writes : List WriteAnswer := []
  allocs : List Bool := []
  maps : List Bool := []

/-- The state in which a call begins: the answers to come are its own. -/
def Recording.before (s : Recording) (call : Call) : Recording :=
  { s with world :=
    { s.world with writes := call.writes, allocs := call.allocs, maps := call.maps } }

/-- One call. -/
def recordingNext (s : Recording) (call : Call) : Recording :=
  match call.op with
  | .enable cfg answers => (pipelineEnableRecording cfg answers (s.before call)).2
  | .disable => pipelineDisableRecording (s.before call)
  | .cleanup => cleanupRecorder (s.before call)
  | .sample args => handleRecorderSample args (s.before call)

/-- Runs start without a recorder, with any files. -/
def recording : System Recording Call where
  init s := s.recorder = none ∧ s.world.sessions = []
  next s call := some (recordingNext s call)

/-- The state after some calls. -/
def finish (calls : List Call) (s : Recording) : Recording :=
  calls.foldl recordingNext s

/-- Further calls lead from reachable states to reachable states. -/
theorem reachableUnder_finish {ok : Recording → Call → Prop} {s : Recording}
    (hs : recording.ReachableUnder ok s) (calls : List Call)
    (hok : ∀ t, ∀ call ∈ calls, ok t call) :
    recording.ReachableUnder ok (finish calls s) := by
  induction calls generalizing s with
  | nil => exact hs
  | cons call calls ih =>
      apply ih
      · exact .step hs (hok s call List.mem_cons_self) rfl
      · intro t c hc
        exact hok t c (List.mem_cons_of_mem call hc)

/-! ## When a recorder can be created -/

/-- A write of `n` bytes completes. -/
def completes (answer : WriteAnswer) (n : Nat) : Bool :=
  match answer with
  | .complete => true
  | .seekFailed => false
  | .short written => n ≤ written

/-- The system's answers let `video_recorder_new` create a recorder: the directory
is there, the file opens, the muxer is allocated and the header is written. -/
def creationAllowed (cfg : RecordCfg) (answers : NewAnswers) (w : World) : Bool :=
  !((mkdirTarget (newOutputPath cfg answers)).isSome && answers.mkdirFails) &&
    answers.fopenOk && completes (w.writes.headD .complete) boxFtyp.length &&
    w.allocs.headD true &&
    (cfg.mode ≠ .standard || completes (w.writes.tail.headD .complete) 8)

/-- A write through the callback succeeds exactly when the system completes it. -/
theorem recorderWriteCallback_iff {t : Token} {fp : Path} (hfp : t.fp = some fp)
    (offset : Nat) (buffer : Bytes) :
    ((recorderWriteCallback offset buffer t).1 = 0 ↔
      completes (t.world.writes.headD .complete) buffer.length = true) ∧
    (recorderWriteCallback offset buffer t).2.fp = some fp ∧
    (recorderWriteCallback offset buffer t).2.world.writes = t.world.writes.tail := by
  unfold recorderWriteCallback completes
  rw [hfp]
  simp only
  cases t.world.writes.headD .complete with
  | seekFailed =>
      refine ⟨?_, rfl, rfl⟩
      simp
  | complete =>
      refine ⟨?_, rfl, rfl⟩
      simp
  | short written =>
      by_cases hshort : written < buffer.length
      · have hnot : ¬ buffer.length ≤ written := by omega
        simp [hshort, hnot, World.write]
      · have hle : buffer.length ≤ written := by omega
        simp [hshort, hle, World.write]

/-- `video_recorder_new` returns a recorder exactly when the system's answers allow
it. -/
theorem videoRecorderNew_isSome (cfg : RecordCfg) (answers : NewAnswers) (w : World)
    (henable : cfg.enable = true) :
    (videoRecorderNew cfg answers w).1.isSome = creationAllowed cfg answers w := by
  have hopen : ∀ ops, (openMux cfg answers { w with fileOps := ops }).1.isSome =
      (completes (w.writes.headD .complete) boxFtyp.length && w.allocs.headD true &&
        (cfg.mode ≠ .standard || completes (w.writes.tail.headD .complete) 8)) := by
    intro ops
    let token : Token :=
      { fp := some (newOutputPath cfg answers), bytesWritten := 0,
        world := World.create { w with fileOps := ops } (newOutputPath cfg answers) }
    have hftyp := recorderWriteCallback_iff (t := token) rfl 0 boxFtyp
    have hfiller := recorderWriteCallback_iff hftyp.2.1 boxFtyp.length (boxFtyp.take 8)
    rw [hftyp.2.2] at hfiller
    have hwrites : token.world.writes = w.writes := rfl
    rw [hwrites] at hftyp hfiller
    have heq : ∀ r : Option Mux × Token × List Bool,
        mp4eOpen recorderWriteCallback (modeFlags cfg.mode).1 (modeFlags cfg.mode).2
          token w.allocs = r →
        (openMux cfg answers { w with fileOps := ops }).1.isSome = r.1.isSome := by
      rintro ⟨mux, token', allocs⟩ hrun
      unfold openMux
      simp only [token] at hrun
      simp only [hrun]
      cases mux with
      | none => rfl
      | some mux => rfl
    rw [heq _ rfl]
    unfold mp4eOpen malloc
    have hlength : (boxFtyp.take 8).length = 8 := rfl
    rw [hlength] at hfiller
    cases hhead : completes (w.writes.headD .complete) boxFtyp.length <;>
      cases halloc : w.allocs.headD true <;>
        cases hnext : completes (w.writes.tail.headD .complete) 8 <;>
          cases hmode : cfg.mode <;>
            simp_all [modeFlags]
  unfold videoRecorderNew creationAllowed
  simp only [henable]
  cases hmkdir : (mkdirTarget (newOutputPath cfg answers)).isSome && answers.mkdirFails
  · cases hfopen : answers.fopenOk
    · simp
    · simp [hopen]
  · simp

/-! ## Invariants of the runs -/

/-- The recorder has what `video_recorder_handle_sample` needs, except that it may
have failed. -/
structure Open (rec : VideoRecorder) : Prop where
  enabled : rec.enabled = true
  fp : rec.fp.isSome = true
  mux : rec.mux.isSome = true

/-- An open recorder stays open. -/
theorem Open.step {rec rec' : VideoRecorder} {w w' : World} (h : Open rec)
    (hstep : Step rec w rec' w') : Open rec' := by
  refine ⟨?_, ?_, ?_⟩
  · rw [hstep.enabled, h.enabled]
  · rw [hstep.fp, h.fp]
  · rw [hstep.mux, h.mux]

/-- A recorder that was created is open and has not failed. -/
theorem videoRecorderNew_open {cfg : RecordCfg} {answers : NewAnswers} {w w' : World}
    {rec : VideoRecorder} (h : videoRecorderNew cfg answers w = (some rec, w')) :
    Open rec ∧ rec.failed = false := by
  have houtcome := videoRecorderNew_outcome cfg answers w
  rw [h] at houtcome
  cases houtcome with
  | opened enable emissions sessions created touched files accepts =>
      rcases accepts rec rfl with ⟨henabled, hfailed, hfp, hmux⟩
      exact ⟨⟨henabled, by rw [hfp]; rfl, hmux⟩, hfailed⟩

/-- The installed recorder is open, and the sessions of the run wrote the files
their paths and timestamps determine. -/
structure RecordingInv (s : Recording) : Prop where
  isOpen : ∀ rec, s.recorder = some rec → Open rec
  sessions : ∀ session ∈ s.world.sessions, session.path =
    buildTimestampedOutputPath session.requested session.isDir session.timestamp

/-- What `pipeline_enable_recording` adds to the sessions. -/
theorem pipelineEnableRecording_sessions (cfg : RecordCfg) (answers : NewAnswers)
    (s : Recording) :
    (pipelineEnableRecording cfg answers s).2.world.sessions = s.world.sessions ∨
      ∃ returned, (pipelineEnableRecording cfg answers s).2.world.sessions =
        s.world.sessions ++ [sessionOf { cfg with enable := true } answers returned] := by
  have hnew := (videoRecorderNew_outcome { cfg with enable := true } answers s.world).sessions
  unfold pipelineEnableRecording
  split
  · exact Or.inl rfl
  · rcases hcall : videoRecorderNew { cfg with enable := true } answers s.world with ⟨r, w⟩
    rw [hcall] at hnew
    have hfinal : ∀ w' : World, w'.sessions = w.sessions → w'.sessions = s.world.sessions ∨
        ∃ returned, w'.sessions =
          s.world.sessions ++ [sessionOf { cfg with enable := true } answers returned] := by
      intro w' hw'
      rw [hw']
      rcases hnew with hsame | hmore
      · exact Or.inl hsame
      · exact Or.inr ⟨_, hmore⟩
    cases r with
    | none => exact hfinal w rfl
    | some rec =>
        simp only [installRecorder]
        split
        · exact hfinal _ (videoRecorderFree_step rec w).sessions
        · exact hfinal w rfl

/-- `pipeline_enable_recording` keeps the invariant. -/
theorem RecordingInv.enable {s : Recording} (h : RecordingInv s) (cfg : RecordCfg)
    (answers : NewAnswers) : RecordingInv (pipelineEnableRecording cfg answers s).2 := by
  constructor
  · intro installed hinstalled
    unfold pipelineEnableRecording at hinstalled
    split at hinstalled
    · exact h.isOpen installed hinstalled
    · rcases hcall : videoRecorderNew { cfg with enable := true } answers s.world with ⟨r, w⟩
      rw [hcall] at hinstalled
      cases r with
      | none => exact h.isOpen installed hinstalled
      | some rec =>
          simp only [installRecorder] at hinstalled
          split at hinstalled
          · rename_i old hold
            exact h.isOpen installed (hold.trans hinstalled)
          · cases hinstalled
            exact (videoRecorderNew_open hcall).1
  · intro session hsession
    rcases pipelineEnableRecording_sessions cfg answers s with hsame | ⟨returned, hmore⟩
    · rw [hsame] at hsession
      exact h.sessions session hsession
    · rw [hmore] at hsession
      rcases List.mem_append.mp hsession with hold | hnew
      · exact h.sessions session hold
      · rw [List.mem_singleton] at hnew
        rw [hnew]
        rfl

/-- The end of a recording keeps the invariant. -/
theorem RecordingInv.cleanup {s : Recording} (h : RecordingInv s) :
    RecordingInv (cleanupRecorder s) := by
  unfold cleanupRecorder
  split
  · exact h
  · rename_i rec _
    refine ⟨?_, ?_⟩
    · intro installed hinstalled
      contradiction
    · intro session hsession
      rw [(videoRecorderFree_step rec s.world).sessions] at hsession
      exact h.sessions session hsession

/-- A sample keeps the invariant. -/
theorem RecordingInv.sample {s : Recording} (h : RecordingInv s) (args : SampleArgs) :
    RecordingInv (handleRecorderSample args s) := by
  unfold handleRecorderSample
  split
  · exact h
  · rename_i rec hrec
    have hstep := videoRecorderHandleSample_step args rec s.world
    refine ⟨?_, ?_⟩
    · intro installed hinstalled
      cases hinstalled
      exact (h.isOpen rec hrec).step hstep
    · intro session hsession
      rw [hstep.sessions] at hsession
      exact h.sessions session hsession

theorem RecordingInv.before {s : Recording} (h : RecordingInv s) (call : Call) :
    RecordingInv (s.before call) :=
  ⟨h.isOpen, h.sessions⟩

/-- Every call keeps the invariant. -/
theorem RecordingInv.next {s : Recording} (h : RecordingInv s) (call : Call) :
    RecordingInv (recordingNext s call) := by
  have hbefore := h.before call
  unfold recordingNext
  split
  · exact hbefore.enable _ _
  · exact hbefore.cleanup
  · exact hbefore.cleanup
  · exact hbefore.sample _

/-- The invariant holds in every state of every run. -/
theorem recordingInv {ok : Recording → Call → Prop} {s : Recording}
    (h : recording.ReachableUnder ok s) : RecordingInv s := by
  apply h.invariant
  · rintro s ⟨hnone, hsessions⟩
    refine ⟨?_, ?_⟩
    · intro rec hrec
      rw [hnone] at hrec
      contradiction
    · intro session hsession
      rw [hsessions] at hsession
      contradiction
  · intro s t call hinv _ hnext
    cases hnext
    exact hinv.next call

end Pipeline
end PixelPilot
