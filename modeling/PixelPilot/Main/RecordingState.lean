import PixelPilot.Main.Loop

/-!
# The recorder and the wish to record

`cfg.record.enable` says whether a recording is wanted, `ps.recorder` whether there
is one, and `ps.state` whether there is a pipeline to record from.  The calls of the
main loop change them one at a time.

Main results:

- Theorem `loopInv`: in every reachable state a recorder is installed only for the
  running pipeline and only while a recording is wanted, and every other recorder
  that was created has been freed.
- Theorem `recording_refines`: the recorder of the main loop makes a run of the
  calls of `Pipeline.Recording`.
- Theorem `recorder_follows_enable`: what this says at the head of the loop, after
  SIGUSR2 and after a restart.
-/

namespace PixelPilot
namespace Main

open Minimp4 Recorder Pipeline Transition

/-! ## The invariant -/

/-- The recorders that were created and not freed: at most the installed one. -/
def State.live (s : State) : Multiset Nat :=
  match s.installed with
  | none => 0
  | some i => {i.recorder}

/-- Recorders are not parts of one another. -/
def unowned (_ : Nat) : Option Nat :=
  none

/-- A recorder is installed only for the running pipeline and only while a recording
is wanted, and the others have been freed. -/
structure RecorderInv (s : State) : Prop where
  settled : s.psState ≠ .stopping
  installed : s.recording.recorder.isSome = s.installed.isSome
  enabled : s.installed.isSome = true → s.record.enable = true
  running : s.installed.isSome = true → s.psState = .running
  current : ∀ i, s.installed = some i → i.pipeline = s.pipelines
  older : ∀ i, s.installed = some i → i.recorder < s.created
  accounts : Ledger.Accounts unowned s.recorders s.live

theorem running_of_ne {p : PipelineStateEnum} (hstopped : p ≠ .stopped)
    (hstopping : p ≠ .stopping) : p = .running := by
  cases p with
  | stopped => contradiction
  | running => rfl
  | stopping => contradiction

/-- Without a recorder the pipeline and the configuration may change. -/
theorem RecorderInv.of_none {s t : State} (h : RecorderInv s) (hnone : s.installed = none)
    (hsettled : t.psState ≠ .stopping) (hrecorder : t.recording.recorder = none)
    (hinstalled : t.installed = none) (hlog : t.recorders = s.recorders) : RecorderInv t where
  settled := hsettled
  installed := by rw [hrecorder, hinstalled]; rfl
  enabled hsome := by
    rw [hinstalled] at hsome
    contradiction
  running hsome := by
    rw [hinstalled] at hsome
    contradiction
  current i hi := by
    rw [hinstalled] at hi
    contradiction
  older i hi := by
    rw [hinstalled] at hi
    contradiction
  accounts := by
    have hlive : t.live = s.live := by
      unfold State.live
      rw [hinstalled, hnone]
    rw [hlog, hlive]
    exact h.accounts

/-- The flags and the control points are not part of the invariant. -/
theorem RecorderInv.congr {s t : State} (h : RecorderInv s)
    (hrecorder : t.recording.recorder.isSome = s.recording.recorder.isSome)
    (hrecord : t.record = s.record) (hps : t.psState = s.psState)
    (hpipelines : t.pipelines = s.pipelines) (hcreated : t.created = s.created)
    (hinstalled : t.installed = s.installed) (hlog : t.recorders = s.recorders) :
    RecorderInv t where
  settled := by
    rw [hps]
    exact h.settled
  installed := by rw [hrecorder, hinstalled, h.installed]
  enabled hsome := by
    rw [hrecord]
    exact h.enabled (hinstalled ▸ hsome)
  running hsome := by
    rw [hps]
    exact h.running (hinstalled ▸ hsome)
  current i hi := by
    rw [hpipelines]
    exact h.current i (hinstalled ▸ hi)
  older i hi := by
    rw [hcreated]
    exact h.older i (hinstalled ▸ hi)
  accounts := by
    have hlive : t.live = s.live := by
      unfold State.live
      rw [hinstalled]
    rw [hlog, hlive]
    exact h.accounts

/-- A free leaves nothing installed, and everything that was created freed. -/
theorem RecorderInv.freeRecorder {s : State} (h : RecorderInv s) {op : Op} (io : Io)
    (hop : op = .disable ∨ op = .cleanup) :
    RecorderInv (s.freeRecorder op io) ∧ (s.freeRecorder op io).installed = none := by
  have hrecorder := freeRecorder_recorder s io hop
  have haccounts : Ledger.Accounts unowned (s.freeRecorder op io).recorders 0 := by
    have hbefore := h.accounts
    unfold State.live at hbefore
    cases hi : s.installed with
    | none =>
        rw [hi] at hbefore
        simpa [State.freeRecorder, hi] using hbefore
    | some i =>
        rw [hi] at hbefore
        have hafter := hbefore.release (by intro o ho; contradiction)
        simpa [State.freeRecorder, hi] using hafter
  refine ⟨?_, rfl⟩
  constructor
  · exact h.settled
  · rw [hrecorder]
    rfl
  · intro hsome
    contradiction
  · intro hsome
    contradiction
  · intro i hi
    contradiction
  · intro i hi
    contradiction
  · exact haccounts

/-- `pipeline_enable_recording` is called with the wish to record, on a running
pipeline. -/
theorem RecorderInv.enableRecording {s : State} (h : RecorderInv s) (answers : Answers)
    (henable : s.record.enable = true) (hrunning : s.psState = .running) :
    RecorderInv (s.enableRecording answers) := by
  have hrecorder := recorderCall_enable s answers
  have hfresh : s.created ∉ s.live := by
    unfold State.live
    split
    · exact Multiset.notMem_zero _
    · rename_i i hi
      have holder := h.older i hi
      rw [Multiset.mem_singleton]
      omega
  have hacquired := h.accounts.acquire hfresh (by intro o ho; contradiction)
  unfold State.enableRecording
  by_cases hcreates : s.creates answers = true
  · rw [if_pos hcreates]
    rw [hcreates, Bool.or_true] at hrecorder
    unfold State.logCreation
    split
    · rename_i i hi
      have hreleased := hacquired.release (by intro o ho; contradiction)
      constructor
      · exact h.settled
      · rw [hrecorder, hi]
        rfl
      · intro _
        exact henable
      · intro _
        exact hrunning
      · intro j hj
        exact h.current j hj
      · intro j hj
        exact Nat.lt_succ_of_lt (h.older j hj)
      · unfold State.live
        simpa only [State.live, hi] using hreleased
    · rename_i hi
      have hlive : s.live = 0 := by
        unfold State.live
        rw [hi]
      rw [hlive] at hacquired
      constructor
      · exact h.settled
      · exact hrecorder
      · intro _
        exact henable
      · intro _
        exact hrunning
      · intro j hj
        cases hj
        rfl
      · intro j hj
        cases hj
        exact Nat.lt_succ_self _
      · exact hacquired
  · rw [if_neg hcreates]
    have hno : s.creates answers = false := by simpa using hcreates
    rw [hno, Bool.or_false] at hrecorder
    exact h.congr hrecorder rfl rfl rfl rfl rfl rfl

/-! ## Runs -/

/-- What is known of the pipeline at a control point. -/
def MainPc.Holds (s : State) : MainPc → Prop
  | .startRecording | .poll | .checkExit | .checkStart | .clearStart | .enable | .checkStop
  | .clearStop | .disable | .checkRestart | .clearRestart | .restartStop =>
      s.psState = .running
  | .restartRecording => s.psState = .running ∧ s.record.enable = true
  | .start | .restartStart | .pollChild | .checkStopped | .leaving | .exited => True

/-- The invariant of the main loop. -/
structure LoopInv (s : State) : Prop where
  recorder : RecorderInv s
  holds : s.mainPc.Holds s

/-- `pipeline_start` either starts a pipeline without a recorder, or fails and leaves
no new one. -/
theorem RecorderInv.pipelineStart {s : State} (h : RecorderInv s) (answers : Answers) :
    RecorderInv (s.pipelineStart answers).2 ∧
      (s.pipelineStart answers).2.record = s.record ∧
      ((s.pipelineStart answers).1 = 0 → (s.pipelineStart answers).2.psState = .running) := by
  unfold State.pipelineStart
  by_cases hstopped : s.psState = .stopped
  · have hnone : s.installed = none := by
      by_contra hsome
      have hrunning := h.running (Option.isSome_iff_ne_none.mpr hsome)
      rw [hstopped] at hrunning
      contradiction
    rw [if_neg (not_not_intro hstopped)]
    by_cases hstarted : answers.started = true
    · rw [if_pos hstarted]
      refine ⟨?_, rfl, fun _ => rfl⟩
      have hrecorder : s.recording.recorder = none := by
        rw [← Option.not_isSome_iff_eq_none, h.installed, hnone]
        exact Bool.false_ne_true
      exact h.of_none hnone (by simp) hrecorder hnone rfl
    · rw [if_neg hstarted]
      refine ⟨(h.freeRecorder answers.io (.inr rfl)).1, rfl, ?_⟩
      intro hzero
      contradiction
  · rw [if_pos hstopped]
    refine ⟨h, rfl, ?_⟩
    intro hzero
    contradiction

/-- A stop keeps the invariant. -/
theorem RecorderInv.pipelineStop {s : State} (h : RecorderInv s) (io : Io) :
    RecorderInv (s.pipelineStop io) ∧ (s.pipelineStop io).record = s.record := by
  unfold State.pipelineStop
  split
  · exact ⟨h, rfl⟩
  · have hfree := h.freeRecorder io (.inr rfl)
    refine ⟨?_, rfl⟩
    exact hfree.1.of_none hfree.2 (by simp) (freeRecorder_recorder s io (.inr rfl)) rfl rfl

/-- A poll keeps the invariant. -/
theorem RecorderInv.pipelinePollChild {s : State} (h : RecorderInv s) (answers : Answers) :
    RecorderInv (s.pipelinePollChild answers) := by
  unfold State.pipelinePollChild
  split
  · have hfree := h.freeRecorder answers.io (.inr rfl)
    exact hfree.1.of_none hfree.2 (by simp)
      (freeRecorder_recorder s answers.io (.inr rfl)) rfl rfl
  · exact h

/-- Going on to another control point keeps the recorder's part. -/
theorem RecorderInv.goto {s : State} (h : RecorderInv s) {pc : MainPc} (hpc : pc.Holds s) :
    LoopInv (s.goto pc) := by
  refine ⟨h.congr rfl rfl rfl rfl rfl rfl rfl, ?_⟩
  cases pc <;> exact hpc

/-- Setting a flag keeps the invariant. -/
theorem RecorderInv.setFlag {s : State} (h : RecorderInv s) (f : RecordFlag) (value : Nat) :
    RecorderInv (s.setFlag f value) ∧ (s.setFlag f value).psState = s.psState := by
  cases f
  · exact ⟨h.congr rfl rfl rfl rfl rfl rfl rfl, rfl⟩
  · exact ⟨h.congr rfl rfl rfl rfl rfl rfl rfl, rfl⟩

/-- Handling SIGUSR1. -/
theorem RecorderInv.handleStart {s : State} (h : RecorderInv s) (answers : Answers)
    (hrunning : s.psState = .running) :
    RecorderInv
      (State.enableRecording { s with record := { s.record with enable := true } } answers) := by
  have hinv : RecorderInv { s with record := { s.record with enable := true } } :=
    ⟨h.settled, h.installed, fun _ => rfl, h.running, h.current, h.older, h.accounts⟩
  exact hinv.enableRecording answers rfl hrunning

/-- Handling SIGUSR2. -/
theorem RecorderInv.handleStop {s : State} (h : RecorderInv s) (io : Io) :
    RecorderInv
      (State.disableRecording { s with record := { s.record with enable := false } } io) := by
  have hfree := h.freeRecorder io (.inl rfl)
  exact hfree.1.of_none hfree.2 h.settled (recorderCall_free s io (.inl rfl)) rfl rfl

/-- One step of the main thread keeps the invariant. -/
theorem LoopInv.mainNext {s t : State} (h : LoopInv s) {answers : Answers}
    (hnext : mainNext s answers = some t) : LoopInv t := by
  have hinv := h.recorder
  have hholds := h.holds
  have hstart := hinv.pipelineStart answers
  have hstop := hinv.pipelineStop answers.io
  unfold Main.mainNext at hnext
  split at hnext <;> rename_i hpc <;> rw [hpc] at hholds
  case h_1 =>
    cases hnext
    apply hstart.1.goto
    split
    · rename_i hzero
      exact hstart.2.2 hzero
    · trivial
  case h_2 =>
    cases hnext
    split
    · rename_i henable
      apply (hinv.enableRecording answers henable hholds).goto
      exact (enableRecording_outside s answers).2.trans hholds
    · exact hinv.goto hholds
  case h_3 =>
    cases hnext
    exact hinv.goto hholds
  case h_4 =>
    cases hnext
    apply hinv.goto
    split
    · trivial
    · exact hholds
  case h_5 =>
    cases hnext
    apply hinv.goto
    split <;> exact hholds
  case h_6 =>
    cases hnext
    apply (hinv.setFlag .start 0).1.goto
    exact hholds
  case h_7 =>
    cases hnext
    have hrunning : s.psState = .running := hholds
    rw [if_pos hrunning]
    apply (hinv.handleStart answers hrunning).goto
    exact (enableRecording_outside _ answers).2.trans hholds
  case h_8 =>
    cases hnext
    apply hinv.goto
    split <;> exact hholds
  case h_9 =>
    cases hnext
    apply (hinv.setFlag .stop 0).1.goto
    exact hholds
  case h_10 =>
    cases hnext
    have hrunning : s.psState = .running := hholds
    rw [if_pos hrunning]
    exact (hinv.handleStop answers.io).goto hholds
  case h_11 =>
    cases hnext
    apply hinv.goto
    split
    · exact hholds
    · trivial
  case h_12 =>
    cases hnext
    have hcleared : RecorderInv { s with restartFlag := false } :=
      hinv.congr rfl rfl rfl rfl rfl rfl rfl
    exact hcleared.goto hholds
  case h_13 =>
    cases hnext
    exact hstop.1.goto trivial
  case h_14 =>
    by_cases hzero : (s.pipelineStart answers).1 = 0
    · simp only [hzero, ne_eq, not_true_eq_false, if_false] at hnext
      cases hnext
      have hrunning := hstart.2.2 hzero
      apply hstart.1.goto
      split
      · rename_i henable
        refine ⟨hrunning, ?_⟩
        rw [hstart.2.1]
        exact henable
      · trivial
    · simp only [hzero, ne_eq, not_false_eq_true, if_true] at hnext
      cases hnext
      have hexit : RecorderInv { (s.pipelineStart answers).2 with exitFlag := true } :=
        hstart.1.congr rfl rfl rfl rfl rfl rfl rfl
      exact hexit.goto trivial
  case h_15 =>
    cases hnext
    exact (hinv.enableRecording answers hholds.2 hholds.1).goto trivial
  case h_16 =>
    cases hnext
    exact (hinv.pipelinePollChild answers).goto trivial
  case h_17 =>
    split at hnext
    · cases hnext
      have hexit : RecorderInv { s with exitFlag := true } :=
        hinv.congr rfl rfl rfl rfl rfl rfl rfl
      exact hexit.goto trivial
    · rename_i hstopped
      cases hnext
      exact hinv.goto (running_of_ne hstopped hinv.settled)
  case h_18 =>
    cases hnext
    exact hstop.1.goto trivial
  case h_19 =>
    contradiction

/-- The other threads leave the main thread's data alone. -/
theorem LoopInv.congr {s t : State} (h : LoopInv s) (hpc : t.mainPc = s.mainPc)
    (hrecorder : t.recording.recorder.isSome = s.recording.recorder.isSome)
    (hrecord : t.record = s.record) (hps : t.psState = s.psState)
    (hpipelines : t.pipelines = s.pipelines) (hcreated : t.created = s.created)
    (hinstalled : t.installed = s.installed) (hlog : t.recorders = s.recorders) :
    LoopInv t := by
  refine ⟨h.recorder.congr hrecorder hrecord hps hpipelines hcreated hinstalled hlog, ?_⟩
  have hholds := h.holds
  rw [hpc]
  revert hholds
  cases s.mainPc <;> simp only [MainPc.Holds, hps, hrecord] <;> exact id

/-- A step of the signal thread keeps the invariant. -/
theorem LoopInv.signalNext {s t : State} (h : LoopInv s) (hnext : signalNext s = some t) :
    LoopInv t := by
  unfold Main.signalNext at hnext
  split at hnext
  case h_6 f value _ =>
    cases hnext
    cases f
    · exact h.congr rfl rfl rfl rfl rfl rfl rfl rfl
    · exact h.congr rfl rfl rfl rfl rfl rfl rfl rfl
  all_goals try contradiction
  all_goals
    cases hnext
    exact h.congr rfl rfl rfl rfl rfl rfl rfl rfl

/-- One step keeps the invariant. -/
theorem LoopInv.next {s t : State} (h : LoopInv s) {a : Act} (hnext : next s a = some t) :
    LoopInv t := by
  cases a with
  | signal sig =>
      simp only [Main.next, takeSignal] at hnext
      split at hnext
      · cases hnext
        exact h.congr rfl rfl rfl rfl rfl rfl rfl rfl
      · contradiction
  | count => exact h.signalNext hnext
  | main answers => exact h.mainNext hnext
  | sample args io =>
      simp only [Main.next, sampleNext] at hnext
      split at hnext
      · cases hnext
        exact h.congr rfl (recorderCall_sample s args io) rfl rfl rfl rfl rfl rfl
      · contradiction

/-- The invariant holds in every reachable state. -/
theorem loopInv {s : State} (h : mainLoop.Reachable s) : LoopInv s := by
  apply h.invariant
  · rintro s ⟨record, w, -, rfl⟩
    refine ⟨⟨by simp [State.initial], rfl, ?_, ?_, ?_, ?_, .nil⟩, trivial⟩
    · intro hsome
      contradiction
    · intro hsome
      contradiction
    · intro i hi
      contradiction
    · intro i hi
      contradiction
  · intro s t a hinv _ hnext
    exact hinv.next hnext

/-! ## The recorder's own runs -/

/-- The step makes no call on the recorder, or one. -/
def Calls (s t : State) : Prop :=
  t.recording = s.recording ∨ ∃ call, t.recording = recordingNext s.recording call

theorem Calls.of_call {s t : State} (op : Op) (io : Io)
    (h : t.recording = s.recorderCall op io) : Calls s t :=
  .inr ⟨_, h⟩

/-- A start makes the recording calls of its branch. -/
theorem pipelineStart_calls (s : State) (answers : Answers) :
    Calls s (s.pipelineStart answers).2 := by
  unfold State.pipelineStart
  split
  · exact .inl rfl
  · split
    · exact .inl rfl
    · exact .of_call .cleanup answers.io rfl

theorem pipelineStop_calls (s : State) (io : Io) : Calls s (s.pipelineStop io) := by
  unfold State.pipelineStop
  split
  · exact .inl rfl
  · exact .of_call .cleanup io rfl

/-- A step of the main loop makes one recording call at most. -/
theorem mainNext_calls {s t : State} {answers : Answers}
    (hnext : mainNext s answers = some t) : Calls s t := by
  have hstart := pipelineStart_calls s answers
  have hstop := pipelineStop_calls s answers.io
  unfold Main.mainNext at hnext
  split at hnext
  case h_1 =>
    cases hnext
    exact hstart
  case h_2 =>
    cases hnext
    split
    · exact .of_call (.enable s.record answers.new) answers.io rfl
    · exact .inl rfl
  case h_7 =>
    cases hnext
    split
    · exact .of_call (.enable { s.record with enable := true } answers.new) answers.io rfl
    · exact .inl rfl
  case h_10 =>
    cases hnext
    split
    · exact .of_call .disable answers.io rfl
    · exact .inl rfl
  case h_13 =>
    cases hnext
    exact hstop
  case h_14 =>
    by_cases hzero : (s.pipelineStart answers).1 = 0
    · simp only [hzero, ne_eq, not_true_eq_false, if_false] at hnext
      cases hnext
      exact hstart
    · simp only [hzero, ne_eq, not_false_eq_true, if_true] at hnext
      cases hnext
      exact hstart
  case h_15 =>
    cases hnext
    exact .of_call (.enable s.record answers.new) answers.io rfl
  case h_16 =>
    cases hnext
    unfold State.pipelinePollChild
    split
    · exact .of_call .cleanup answers.io rfl
    · exact .inl rfl
  case h_17 =>
    split at hnext
    · cases hnext
      exact .inl rfl
    · cases hnext
      exact .inl rfl
  case h_18 =>
    cases hnext
    exact hstop
  case h_19 => contradiction
  all_goals
    cases hnext
    exact .inl rfl

/-- A step of either thread makes one recording call at most. -/
theorem next_calls {s t : State} {a : Act} (hnext : next s a = some t) : Calls s t := by
  cases a with
  | signal sig =>
      simp only [Main.next, takeSignal] at hnext
      split at hnext
      · cases hnext
        exact .inl rfl
      · contradiction
  | count =>
      simp only [Main.next, Main.signalNext] at hnext
      split at hnext
      case h_6 f _ _ =>
        cases hnext
        cases f <;> exact .inl rfl
      all_goals try contradiction
      all_goals
        cases hnext
        exact .inl rfl
  | main answers => exact mainNext_calls hnext
  | sample args io =>
      simp only [Main.next, sampleNext] at hnext
      split at hnext
      · cases hnext
        exact .of_call (.sample args) io rfl
      · contradiction

/-- The recorder of the main loop makes a run of the recording calls, so that what
`Pipeline.Recording` proves of those runs holds here. -/
theorem recording_refines {s : State} (h : mainLoop.Reachable s) :
    recording.Reachable s.recording := by
  apply h.invariant fun s : State => recording.Reachable s.recording
  · rintro s ⟨record, w, hsessions, rfl⟩
    exact .init ⟨rfl, hsessions⟩
  · intro s t a hs _ hnext
    rcases next_calls hnext with hsame | ⟨call, hcall⟩
    · rw [hsame]
      exact hs
    · rw [hcall]
      exact System.ReachableUnder.step (a := call) hs trivial rfl

/-! ## After SIGUSR2 -/

/-- Without the wish to record nothing is installed, and every recorder that was
created has been freed. -/
theorem LoopInv.unwanted {s : State} (h : LoopInv s) (henable : s.record.enable = false) :
    s.recording.recorder = none ∧ Ledger.Accounts unowned s.recorders 0 := by
  have hnone : s.installed = none := by
    by_contra hsome
    have hwanted := h.recorder.enabled (Option.isSome_iff_ne_none.mpr hsome)
    rw [henable] at hwanted
    contradiction
  have hlive : s.live = 0 := by
    unfold State.live
    rw [hnone]
  refine ⟨?_, hlive ▸ h.recorder.accounts⟩
  rw [← Option.not_isSome_iff_eq_none, h.recorder.installed, hnone]
  exact Bool.false_ne_true

/-- The step does not handle SIGUSR1. -/
def NoStart (s : State) (a : Act) : Prop :=
  ∀ answers, a = .main answers → s.mainPc ≠ .enable

/-- Only the handling of SIGUSR1 makes a recording wanted. -/
theorem enable_kept {s t : State} {a : Act} (hnext : next s a = some t) (hok : NoStart s a)
    (henable : s.record.enable = false) : t.record.enable = false := by
  cases a with
  | signal sig =>
      simp only [Main.next, takeSignal] at hnext
      split at hnext
      · cases hnext
        exact henable
      · contradiction
  | count =>
      simp only [Main.next, Main.signalNext] at hnext
      split at hnext
      case h_6 f _ _ =>
        cases hnext
        cases f <;> exact henable
      all_goals try contradiction
      all_goals
        cases hnext
        exact henable
  | sample args io =>
      simp only [Main.next, sampleNext] at hnext
      split at hnext
      · cases hnext
        exact henable
      · contradiction
  | main answers =>
      have hnot := hok answers rfl
      by_cases hstart : s.mainPc = .clearStart
      · simp only [Main.next, Main.mainNext, hstart] at hnext
        cases hnext
        exact henable
      by_cases hstop : s.mainPc = .clearStop
      · simp only [Main.next, Main.mainNext, hstop] at hnext
        cases hnext
        exact henable
      by_cases hdisable : s.mainPc = .disable
      · simp only [Main.next, Main.mainNext, hdisable] at hnext
        cases hnext
        split <;> rfl
      · rw [(mainNext_outside hnext hstart hstop hnot hdisable).2.1]
        exact henable

/-- Until the next SIGUSR1 is handled nothing is recorded and nothing is left
unfinished, also across restarts. -/
theorem nothing_after_stop {s t u : State} {answers : Answers} (h : mainLoop.Reachable s)
    (hpc : s.mainPc = .disable) (hnext : next s (.main answers) = some t)
    (hu : (mainLoop.startingAt t).ReachableUnder NoStart u) :
    u.recording.recorder = none ∧ Ledger.Accounts unowned u.recorders 0 := by
  have hunwanted : t.record.enable = false := by
    simp only [Main.next, Main.mainNext, hpc] at hnext
    cases hnext
    split <;> rfl
  have hkept : u.record.enable = false := by
    apply hu.invariant fun v => v.record.enable = false
    · intro v hv
      rw [hv]
      exact hunwanted
    · intro v w a hv hok hstep
      exact enable_kept hstep hok hv
  have ht : mainLoop.Reachable t :=
    System.ReachableUnder.step (a := Act.main answers) h trivial hnext
  exact (loopInv (ht.startingAt hu)).unwanted hkept

/-! ## The main result -/

/-- What the main loop keeps, whatever the signals and the answers of the pipeline.
At the head of the loop a recorder is installed only while one is wanted, on the
running pipeline it was created for.  After the handling of SIGUSR2, up to that of
the next SIGUSR1, none is installed and every recorder that was created has been
freed once.  A restart with a recording wanted that creates a recorder installs it. -/
theorem recorder_follows_enable (s : State) (h : mainLoop.Reachable s) :
    (s.mainPc = .poll → s.recording.recorder.isSome = true →
      s.record.enable = true ∧ s.psState = .running ∧
        ∃ i, s.installed = some i ∧ i.pipeline = s.pipelines) ∧
    (∀ answers t u, s.mainPc = .disable → next s (.main answers) = some t →
      (mainLoop.startingAt t).ReachableUnder NoStart u →
      u.recording.recorder = none ∧ Ledger.Accounts unowned u.recorders 0) ∧
    (∀ answers t, s.mainPc = .restartStart → s.record.enable = true →
      (s.pipelineStart answers).1 = 0 → next s (.main answers) = some t →
      t.mainPc = .restartRecording) ∧
    (∀ answers t, s.mainPc = .restartRecording → s.creates answers = true →
      next s (.main answers) = some t → t.recording.recorder.isSome = true) := by
  have hinv := loopInv h
  refine ⟨?_, ?_, ?_, ?_⟩
  · intro _ hsome
    rw [hinv.recorder.installed] at hsome
    rcases Option.isSome_iff_exists.mp hsome with ⟨i, hi⟩
    exact ⟨hinv.recorder.enabled hsome, hinv.recorder.running hsome, i, hi,
      hinv.recorder.current i hi⟩
  · intro answers t u hpc hnext hu
    exact nothing_after_stop h hpc hnext hu
  · intro answers t hpc henable hzero hnext
    simp only [Main.next, Main.mainNext, hpc, hzero, ne_eq, not_true_eq_false, if_false] at hnext
    cases hnext
    simp [State.goto, henable]
  · intro answers t hpc hcreates hnext
    simp only [Main.next, Main.mainNext, hpc] at hnext
    cases hnext
    have hrecorder := recorderCall_enable s answers
    rw [hcreates, Bool.or_true] at hrecorder
    exact hrecorder

/-- The program records from the start. -/
def recordingAtNoon : State :=
  State.initial (mediaCfg .sequential) {}

/-- A step of the main thread at noon, in which every call succeeds. -/
def atNoon : Act :=
  .main { new := { timestamp := noon } }

/-- SIGHUP in the first turn of the loop. -/
def hangup : List Act :=
  [atNoon, atNoon, .signal .hup, .count] ++ List.replicate 11 atNoon

/-- After a restart the recorder is one of the second pipeline. -/
theorem recorder_follows_enable_hangup : ∃ s, mainLoop.Reachable s ∧ s.pipelines = 2 ∧
    s.recording.recorder.isSome = true ∧ s.record.enable = true ∧ s.psState = .running ∧
      ∃ i, s.installed = some i ∧ i.pipeline = s.pipelines := by
  have hrun : ((mainLoop.exec recordingAtNoon hangup).any fun s =>
      s.mainPc = .poll && s.pipelines = 2 && s.recording.recorder.isSome) = true := by
    decide +kernel
  rcases (Option.any_eq_true _ _).mp hrun with ⟨s, hs, hfields⟩
  simp only [Bool.and_eq_true, decide_eq_true_eq] at hfields
  have hreach : mainLoop.Reachable s :=
    Transition.System.reachable_of_exec ⟨mediaCfg .sequential, {}, rfl, rfl⟩ hs
  exact ⟨s, hreach, hfields.1.2, hfields.2,
    (recorder_follows_enable s hreach).1 hfields.1.1 hfields.2⟩

end Main
end PixelPilot
