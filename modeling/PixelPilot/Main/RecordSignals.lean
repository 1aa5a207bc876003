import PixelPilot.Main.RecordingState

/-!
# The last recording request

SIGUSR1 asks for a recording and SIGUSR2 ends it.  Between the signal thread and the
main loop the requests are two counters, which lose the order in which the signals
came; the loop looks at the one for SIGUSR1 first.

Main results:

- Definition `InOrder`: the main loop does not clear the counter of the last signal
  while the other one is still set.
- Theorem `last_signal_decides`: when all steps of a run are of this kind, the last
  signal decides whether the drained loop records; and every other step can be
  continued, without a further signal, to a drained loop for which it does not.
-/

namespace PixelPilot
namespace Main

open Minimp4 Recorder Pipeline Transition

/-! ## The property -/

/-- Recording is enabled: it is wanted and a recorder is installed. -/
def State.isRecording (s : State) : Bool :=
  s.record.enable && s.recording.recorder.isSome

/-- The loop is at its head, all signals taken are counted, and the counters are
drained. -/
structure Drained (s : State) : Prop where
  head : s.mainPc = .poll
  waiting : s.signalPc = .waiting
  flags : ∀ f, s.flag f = 0

/-- The last signal taken decides whether the program records. -/
def LastDecides (s : State) : Prop :=
  ∀ f, s.taken.getLast? = some f → (s.isRecording = true ↔ f = .start)

/-- Only SIGUSR1 and SIGUSR2 arrive, the pipeline runs, and recorders can be
created. -/
def steady (s : State) : Act → Bool
  | .signal sig => sig.recordFlag.isSome
  | .count | .sample _ _ => true
  | .main answers => answers.started && !answers.finished && s.creates answers

/-- The counter that a step of the main thread clears. -/
def MainPc.clears : MainPc → Option RecordFlag
  | .clearStart => some .start
  | .clearStop => some .stop
  | _ => none

/-- Main does not clear the counter of the last signal taken, completely counted,
while the other counter is set. -/
def InOrder (s : State) (a : Act) : Prop :=
  ∀ f answers, a = .main answers → s.mainPc.clears = some f → 0 < s.flag f.other →
    s.taken.getLast? = some f → s.signalPc ≠ .waiting

/-! ## Steps of steady runs -/

/-- What the main thread does after it cleared a counter. -/
def RecordFlag.handler : RecordFlag → MainPc
  | .start => .enable
  | .stop => .disable

/-- The control points of steady runs between the actions of the main thread. -/
def MainPc.between : MainPc → Bool
  | .poll | .checkExit | .checkStart | .clearStart | .checkStop | .clearStop | .checkRestart
  | .pollChild | .checkStopped => true
  | .start | .startRecording | .enable | .disable | .clearRestart | .restartStop
  | .restartStart | .restartRecording | .leaving | .exited => false

/-- The steps of the main thread in a steady run. -/
inductive SteadyStep (s : State) (answers : Answers) : State → Prop
  | started (hpc : s.mainPc = .start) :
      SteadyStep s answers
        (State.goto { s with psState := .running, pipelines := s.pipelines + 1 } .startRecording)
  | begun (hpc : s.mainPc = .startRecording) :
      SteadyStep s answers
        ((if s.record.enable then s.enableRecording answers else s).goto .poll)
  | clear (f : RecordFlag) (hpc : s.mainPc.clears = some f) :
      SteadyStep s answers ((s.setFlag f 0).goto f.handler)
  | enable (hpc : s.mainPc = .enable) :
      SteadyStep s answers
        ((State.enableRecording { s with record := { s.record with enable := true } }
          answers).goto .checkStop)
  | disable (hpc : s.mainPc = .disable) :
      SteadyStep s answers
        ((State.disableRecording { s with record := { s.record with enable := false } }
          answers.io).goto .checkRestart)
  | move (pc : MainPc) (hfrom : s.mainPc.between = true) (hnone : s.mainPc.clears = none)
      (hto : pc.between = true) (hclears : ∀ f, pc.clears = some f → 0 < s.flag f) :
      SteadyStep s answers (s.goto pc)

/-- What holds in steady runs: after the start the program records exactly while it
is wanted. -/
structure SteadyInv (s : State) : Prop where
  loop : LoopInv s
  exit : s.exitFlag = false
  restart : s.restartFlag = false
  begun : s.mainPc = .start → s.psState = .stopped
  running : s.mainPc ≠ .start → s.psState = .running
  pc : s.mainPc.between = true ∨ s.mainPc = .start ∨ s.mainPc = .startRecording ∨
    s.mainPc = .enable ∨ s.mainPc = .disable
  clearing : ∀ f, s.mainPc.clears = some f → 0 < s.flag f
  wanted : s.mainPc ≠ .start → s.mainPc ≠ .startRecording →
    s.record.enable = s.recording.recorder.isSome

/-- What the main thread does in a steady run. -/
theorem mainNext_steady {s t : State} {answers : Answers} (h : SteadyInv s)
    (hok : steady s (.main answers) = true) (hnext : mainNext s answers = some t) :
    SteadyStep s answers t := by
  simp only [steady, Bool.and_eq_true, Bool.not_eq_true'] at hok
  have hpcs := h.pc
  have hrunning := h.running
  unfold mainNext at hnext
  split at hnext <;> rename_i hpc <;> rw [hpc] at hpcs hrunning
  case h_1 =>
    have hstopped := h.begun hpc
    simp only [State.pipelineStart, hstopped, ne_eq, not_true_eq_false, if_false, hok.1.1,
      if_true] at hnext
    cases hnext
    exact .started hpc
  case h_2 =>
    cases hnext
    exact .begun hpc
  case h_3 =>
    cases hnext
    exact .move .checkExit (by rw [hpc]; rfl) (by rw [hpc]; rfl) rfl (by simp [MainPc.clears])
  case h_4 =>
    rw [h.exit] at hnext
    cases hnext
    exact .move .checkStart (by rw [hpc]; rfl) (by rw [hpc]; rfl) rfl (by simp [MainPc.clears])
  case h_5 =>
    cases hnext
    split
    · rename_i hflag
      refine .move .clearStart (by rw [hpc]; rfl) (by rw [hpc]; rfl) rfl ?_
      intro f hf
      cases hf
      exact hflag
    · exact .move .checkStop (by rw [hpc]; rfl) (by rw [hpc]; rfl) rfl
        (by simp [MainPc.clears])
  case h_6 =>
    cases hnext
    exact .clear .start (by rw [hpc]; rfl)
  case h_7 =>
    cases hnext
    rw [if_pos (hrunning (by simp))]
    exact .enable hpc
  case h_8 =>
    cases hnext
    split
    · rename_i hflag
      refine .move .clearStop (by rw [hpc]; rfl) (by rw [hpc]; rfl) rfl ?_
      intro f hf
      cases hf
      exact hflag
    · exact .move .checkRestart (by rw [hpc]; rfl) (by rw [hpc]; rfl) rfl
        (by simp [MainPc.clears])
  case h_9 =>
    cases hnext
    exact .clear .stop (by rw [hpc]; rfl)
  case h_10 =>
    cases hnext
    rw [if_pos (hrunning (by simp))]
    exact .disable hpc
  case h_11 =>
    rw [h.restart] at hnext
    cases hnext
    exact .move .pollChild (by rw [hpc]; rfl) (by rw [hpc]; rfl) rfl (by simp [MainPc.clears])
  case h_16 =>
    simp only [State.pipelinePollChild, hok.1.2, Bool.and_false, Bool.false_eq_true,
      if_false] at hnext
    cases hnext
    exact .move .checkStopped (by rw [hpc]; rfl) (by rw [hpc]; rfl) rfl
      (by simp [MainPc.clears])
  case h_17 =>
    simp only [hrunning (by simp), reduceCtorEq, if_false] at hnext
    cases hnext
    exact .move .poll (by rw [hpc]; rfl) (by rw [hpc]; rfl) rfl (by simp [MainPc.clears])
  all_goals simp [MainPc.between] at hpcs

theorem SteadyStep.outside {s t : State} {answers : Answers} (h : SteadyStep s answers t) :
    t.exitFlag = s.exitFlag ∧ t.restartFlag = s.restartFlag ∧ t.signalPc = s.signalPc ∧
      t.taken = s.taken := by
  cases h with
  | started => exact ⟨rfl, rfl, rfl, rfl⟩
  | begun =>
      have hcall := (enableRecording_outside s answers).1
      split
      · exact ⟨hcall.exitFlag, hcall.restartFlag, hcall.signalPc, hcall.taken⟩
      · exact ⟨rfl, rfl, rfl, rfl⟩
  | clear f => cases f <;> exact ⟨rfl, rfl, rfl, rfl⟩
  | enable =>
      have hcall := (enableRecording_outside
        { s with record := { s.record with enable := true } } answers).1
      exact ⟨hcall.exitFlag, hcall.restartFlag, hcall.signalPc, hcall.taken⟩
  | disable => exact ⟨rfl, rfl, rfl, rfl⟩
  | move => exact ⟨rfl, rfl, rfl, rfl⟩

/-- A flag that is set changes nothing else. -/
theorem setFlag_fields (s : State) (f : RecordFlag) (value : Nat) :
    (s.setFlag f value).record = s.record ∧ (s.setFlag f value).recording = s.recording ∧
      (s.setFlag f value).psState = s.psState ∧ (s.setFlag f value).signalPc = s.signalPc ∧
      (s.setFlag f value).mainPc = s.mainPc := by
  cases f <;> exact ⟨rfl, rfl, rfl, rfl, rfl⟩

@[simp]
theorem flag_setFlag_self (s : State) (f : RecordFlag) (value : Nat) :
    (s.setFlag f value).flag f = value := by
  cases f <;> rfl

@[simp]
theorem flag_setFlag_other (s : State) (f : RecordFlag) (value : Nat) :
    (s.setFlag f value).flag f.other = s.flag f.other := by
  cases f <;> rfl

@[simp]
theorem flag_goto (s : State) (pc : MainPc) (f : RecordFlag) :
    (s.goto pc).flag f = s.flag f := by
  cases f <;> rfl

/-- The handling of a request leaves the program recording as requested. -/
theorem recorder_enabled {s : State} {answers : Answers} (hcreates : s.creates answers = true) :
    (s.enableRecording answers).recording.recorder.isSome = true := by
  have hrecorder := recorderCall_enable s answers
  rw [hcreates, Bool.or_true] at hrecorder
  exact hrecorder

/-- Before the loop a recorder is installed if one is wanted. -/
theorem recorder_begun {s : State} {answers : Answers} (h : LoopInv s)
    (hcreates : s.creates answers = true) :
    s.record.enable =
      (if s.record.enable then s.enableRecording answers else s).recording.recorder.isSome := by
  cases henable : s.record.enable with
  | false =>
      have hnone := (h.unwanted henable).1
      simp [hnone]
  | true => simp [recorder_enabled hcreates]

/-- The main thread keeps the invariant of steady runs. -/
theorem SteadyInv.step {s t : State} {answers : Answers} (h : SteadyInv s)
    (hok : steady s (.main answers) = true) (hnext : mainNext s answers = some t) :
    SteadyInv t := by
  have hstep := mainNext_steady h hok hnext
  have hcreates : s.creates answers = true := by
    simp only [steady, Bool.and_eq_true] at hok
    exact hok.2
  have hout := hstep.outside
  have hloop := h.loop.mainNext hnext
  have hexit : t.exitFlag = false := hout.1.trans h.exit
  have hrestart : t.restartFlag = false := hout.2.1.trans h.restart
  cases hstep with
  | started hpc =>
      refine ⟨hloop, hexit, hrestart, ?_, fun _ => rfl, by simp [State.goto], ?_, ?_⟩
      · intro hstart
        contradiction
      · intro f hf
        contradiction
      · intro _ hne
        contradiction
  | begun hpc =>
      have hrunning := h.running (by simp [hpc])
      refine ⟨hloop, hexit, hrestart, ?_, ?_, .inl rfl, ?_, ?_⟩
      · intro hstart
        contradiction
      · intro _
        simp only [State.goto]
        split
        · exact (enableRecording_outside s answers).2.trans hrunning
        · exact hrunning
      · intro f hf
        contradiction
      · intro _ _
        have hrecord : (if s.record.enable then s.enableRecording answers else s).record =
            s.record := by
          split
          · exact (enableRecording_outside s answers).1.record
          · rfl
        simp only [State.goto, hrecord]
        exact recorder_begun h.loop hcreates
  | clear f hpc =>
      have hfields := setFlag_fields s f 0
      have hne : s.mainPc ≠ .start ∧ s.mainPc ≠ .startRecording := by
        refine ⟨?_, ?_⟩
        · intro hstart
          rw [hstart] at hpc
          contradiction
        · intro hstart
          rw [hstart] at hpc
          contradiction
      refine ⟨hloop, hexit, hrestart, ?_, ?_, ?_, ?_, ?_⟩
      · intro hstart
        cases f <;> contradiction
      · intro _
        exact hfields.2.2.1.trans (h.running hne.1)
      · cases f <;> simp [State.goto, RecordFlag.handler]
      · intro g hg
        cases f <;> contradiction
      · intro _ _
        simp only [State.goto, hfields.1, hfields.2.1]
        exact h.wanted hne.1 hne.2
  | enable hpc =>
      have hrunning := h.running (by simp [hpc])
      have hcall := enableRecording_outside
        { s with record := { s.record with enable := true } } answers
      refine ⟨hloop, hexit, hrestart, ?_, ?_, .inl rfl, ?_, ?_⟩
      · intro hstart
        contradiction
      · intro _
        exact hcall.2.trans hrunning
      · intro f hf
        contradiction
      · intro _ _
        simp only [State.goto, hcall.1.record]
        exact (recorder_enabled hcreates).symm
  | disable hpc =>
      have hrunning := h.running (by simp [hpc])
      refine ⟨hloop, hexit, hrestart, ?_, fun _ => hrunning, .inl rfl, ?_, ?_⟩
      · intro hstart
        contradiction
      · intro f hf
        contradiction
      · intro _ _
        have hnone := freeRecorder_recorder
          { s with record := { s.record with enable := false } } answers.io (.inl rfl)
        simp only [State.goto, State.disableRecording, hnone]
        rfl
  | move pc hfrom hnone hto hclears =>
      have hne : s.mainPc ≠ .start ∧ s.mainPc ≠ .startRecording := by
        refine ⟨?_, ?_⟩
        · intro hstart
          rw [hstart] at hfrom
          contradiction
        · intro hstart
          rw [hstart] at hfrom
          contradiction
      refine ⟨hloop, hexit, hrestart, ?_, fun _ => h.running hne.1, .inl hto, ?_, ?_⟩
      · intro hstart
        simp only [State.goto] at hstart
        rw [hstart] at hto
        contradiction
      · intro f hf
        rw [flag_goto]
        exact hclears f hf
      · intro _ _
        exact h.wanted hne.1 hne.2

/-! ## Steps of the signal thread -/

/-- The request that was taken and is not counted yet. -/
def State.counting (s : State) : Option RecordFlag :=
  match s.signalPc with
  | .taken sig => sig.recordFlag
  | .loaded f _ => some f
  | .waiting | .ended => none

/-- In steady runs the signal thread lives, every signal taken is a request, and the
one being counted is the last. -/
structure SignalInv (s : State) : Prop where
  alive : s.signalPc ≠ .ended
  requests : ∀ sig, s.signalPc = .taken sig → sig.recordFlag.isSome = true
  counting : ∀ f, s.counting = some f → s.taken.getLast? = some f

/-- The steps of the signal thread with a request in its hands. -/
inductive CountStep (s : State) : State → Prop
  | load (f : RecordFlag) (hcounting : s.counting = some f) :
      CountStep s { s with signalPc := .loaded f (s.flag f) }
  | store (f : RecordFlag) (value : Nat) (hcounting : s.counting = some f) :
      CountStep s { s.setFlag f (value + 1) with signalPc := .waiting }

/-- With a request in its hands the signal thread loads or stores. -/
theorem signalNext_count {s t : State} (h : SignalInv s) (hnext : signalNext s = some t) :
    CountStep s t := by
  unfold signalNext at hnext
  split at hnext <;> rename_i hpc
  case h_4 =>
    cases hnext
    exact .load .start (by simp [State.counting, hpc, Signal.recordFlag])
  case h_5 =>
    cases hnext
    exact .load .stop (by simp [State.counting, hpc, Signal.recordFlag])
  case h_6 f value =>
    cases hnext
    exact .store f value (by simp [State.counting, hpc])
  case h_7 => contradiction
  case h_8 => contradiction
  all_goals
    have hrequest := h.requests _ hpc
    contradiction

/-- The steps of the other threads keep the invariant of steady runs. -/
theorem SteadyInv.congr {s t : State} (h : SteadyInv s) (hloop : LoopInv t)
    (hexit : t.exitFlag = s.exitFlag) (hrestart : t.restartFlag = s.restartFlag)
    (hps : t.psState = s.psState) (hpc : t.mainPc = s.mainPc)
    (hflag : ∀ f, s.flag f ≤ t.flag f ∨ 0 < t.flag f) (hrecord : t.record = s.record)
    (hrecorder : t.recording.recorder.isSome = s.recording.recorder.isSome) :
    SteadyInv t := by
  refine ⟨hloop, by rw [hexit, h.exit], by rw [hrestart, h.restart], ?_, ?_, ?_, ?_, ?_⟩
  · rw [hpc, hps]
    exact h.begun
  · rw [hpc, hps]
    exact h.running
  · rw [hpc]
    exact h.pc
  · intro f hf
    have hbefore := h.clearing f (hpc ▸ hf)
    rcases hflag f with hle | hpos
    · omega
    · exact hpos
  · rw [hpc, hrecord, hrecorder]
    exact h.wanted

/-- A step of the signal thread only raises a counter. -/
theorem CountStep.steady {s t : State} (hstep : CountStep s t) (h : SteadyInv s)
    (hloop : LoopInv t) : SteadyInv t := by
  cases hstep with
  | load f => exact h.congr hloop rfl rfl rfl rfl (fun g => .inl (by cases g <;> rfl)) rfl rfl
  | store f value =>
      have hfields := setFlag_fields s f (value + 1)
      refine h.congr hloop ?_ ?_ hfields.2.2.1 hfields.2.2.2.2 ?_ hfields.1
        (by rw [hfields.2.1])
      · cases f <;> rfl
      · cases f <;> rfl
      · intro g
        cases f <;> cases g <;> simp [State.flag, State.setFlag]

/-- What every steady run keeps. -/
theorem steadyInv {ok : State → Act → Prop} {s : State}
    (h : mainLoop.ReachableUnder (fun s a => steady s a = true ∧ ok s a) s) :
    SteadyInv s ∧ SignalInv s := by
  apply h.invariant fun s => SteadyInv s ∧ SignalInv s
  · rintro s ⟨record, w, hsessions, rfl⟩
    refine ⟨⟨loopInv (.init ⟨record, w, hsessions, rfl⟩), rfl, rfl, fun _ => rfl, ?_,
      .inr (.inl rfl), ?_, ?_⟩, by simp [State.initial], ?_, ?_⟩
    · intro hne
      contradiction
    · intro f hf
      contradiction
    · intro hne
      contradiction
    · intro sig hsig
      contradiction
    · intro f hf
      contradiction
  · intro s t a hinv hok hnext
    rcases hinv with ⟨hsteady, hsignal⟩
    have hloop := hsteady.loop.next hnext
    cases a with
    | signal sig =>
        have hrequest : sig.recordFlag.isSome = true := hok.1
        simp only [mainLoop, next, takeSignal] at hnext
        split at hnext
        · cases hnext
          refine ⟨hsteady.congr hloop rfl rfl rfl rfl (fun g => .inl (by cases g <;> rfl))
            rfl rfl, by simp, ?_, ?_⟩
          · intro other hother
            cases hother
            exact hrequest
          · intro f hf
            simp only [State.counting] at hf
            simp [hf]
        · contradiction
    | count =>
        have hstep := signalNext_count hsignal hnext
        refine ⟨hstep.steady hsteady hloop, ?_⟩
        cases hstep with
        | load f hcounting =>
            refine ⟨by simp, ?_, ?_⟩
            · intro sig hsig
              contradiction
            · intro g hg
              simp only [State.counting, Option.some.injEq] at hg
              subst hg
              exact hsignal.counting f hcounting
        | store f value =>
            refine ⟨by simp, ?_, ?_⟩
            · intro sig hsig
              contradiction
            · intro g hg
              contradiction
    | main answers =>
        have hout := (mainNext_steady hsteady hok.1 hnext).outside
        refine ⟨hsteady.step hok.1 hnext, ?_, ?_, ?_⟩
        · rw [hout.2.2.1]
          exact hsignal.alive
        · rw [hout.2.2.1]
          exact hsignal.requests
        · unfold State.counting
          rw [hout.2.2.1, hout.2.2.2]
          exact hsignal.counting
    | sample args io =>
        simp only [mainLoop, next, sampleNext] at hnext
        split at hnext
        · cases hnext
          refine ⟨hsteady.congr hloop rfl rfl rfl rfl (fun g => .inl (by cases g <;> rfl))
            rfl (recorderCall_sample s args io), ?_, ?_, ?_⟩
          · exact hsignal.alive
          · exact hsignal.requests
          · exact hsignal.counting
        · contradiction

/-! ## Runs in order -/

/-- What the program will record when the action of the main thread in progress, if
there is one, is done; before the loop it is still open. -/
def State.heading (s : State) (f : RecordFlag) : Prop :=
  match s.mainPc with
  | .start | .startRecording => False
  | .enable => f = .start
  | .disable => f = .stop
  | _ => s.isRecording = true ↔ f = .start

/-- Where the main loop is heading between two polls. -/
theorem heading_between {s : State} (h : s.mainPc.between = true) (f : RecordFlag) :
    s.heading f ↔ (s.isRecording = true ↔ f = .start) := by
  unfold State.heading
  cases hpc : s.mainPc <;> rw [hpc] at h <;> first | rfl | contradiction

/-- The request is counted and not cleared yet, or being counted. -/
def State.pending (s : State) (f : RecordFlag) : Prop :=
  0 < s.flag f ∨ s.counting = some f

/-- The last request is pending, or the loop is heading for it and no other request
is pending. -/
def Ordered (s : State) : Prop :=
  ∀ f, s.taken.getLast? = some f → s.pending f ∨ s.heading f ∧ s.flag f.other = 0

/-- While the signal thread is not in `sigwaitinfo` it counts the last request. -/
theorem SignalInv.counting_last {s : State} (h : SignalInv s) {f : RecordFlag}
    (hlast : s.taken.getLast? = some f) (hbusy : s.signalPc ≠ .waiting) :
    s.counting = some f := by
  have hsome : ∃ g, s.counting = some g := by
    unfold State.counting
    cases hpc : s.signalPc with
    | waiting => exact absurd hpc hbusy
    | ended => exact absurd hpc h.alive
    | taken sig => exact Option.isSome_iff_exists.mp (h.requests sig hpc)
    | loaded g value => exact ⟨g, rfl⟩
  rcases hsome with ⟨g, hg⟩
  have hlast' := h.counting g hg
  rw [hlast] at hlast'
  cases hlast'
  exact hg

/-- Clearing a counter in order. -/
theorem Ordered.clear {s : State} (h : Ordered s) (hsignal : SignalInv s) {f : RecordFlag}
    (hclears : s.mainPc.clears = some f) (hset : 0 < s.flag f)
    (hok : ∀ g, s.mainPc.clears = some g → 0 < s.flag g.other →
      s.taken.getLast? = some g → s.signalPc ≠ .waiting) :
    Ordered ((s.setFlag f 0).goto f.handler) := by
  have hcounting : ((s.setFlag f 0).goto f.handler).counting = s.counting := by
    unfold State.counting State.goto
    rw [(setFlag_fields s f 0).2.2.2.1]
  intro g hg
  have hlast : s.taken.getLast? = some g := by
    cases f <;> exact hg
  by_cases hsame : g = f
  · subst hsame
    by_cases hbusy : s.signalPc = .waiting
    · right
      refine ⟨by cases g <;> rfl, ?_⟩
      rw [flag_goto, flag_setFlag_other]
      by_contra hother
      exact hok g hclears (Nat.pos_of_ne_zero hother) hlast hbusy
    · left
      right
      rw [hcounting]
      exact hsignal.counting_last hlast hbusy
  · have hother : g.other = f := by
      cases g <;> cases f <;> first | rfl | contradiction
    rcases h g hlast with hpending | ⟨-, hzero⟩
    · left
      rcases hpending with hpos | hcount
      · left
        rw [flag_goto]
        have hg' : g = f.other := by
          rw [← hother]
          cases g <;> rfl
        rw [hg', flag_setFlag_other, ← hg']
        exact hpos
      · right
        rw [hcounting]
        exact hcount
    · rw [hother] at hzero
      omega

/-- A step that takes, counts and clears nothing. -/
theorem Ordered.carry {s t : State} (h : Ordered s) (hflag : ∀ f, t.flag f = s.flag f)
    (hsignal : t.signalPc = s.signalPc) (htaken : t.taken = s.taken)
    (hheading : ∀ f, s.heading f → t.heading f) : Ordered t := by
  intro f hf
  rw [htaken] at hf
  have hcounting : t.counting = s.counting := by
    unfold State.counting
    rw [hsignal]
  unfold State.pending
  rw [hflag, hflag, hcounting]
  rcases h f hf with hpending | ⟨hhead, hzero⟩
  · exact .inl hpending
  · exact .inr ⟨hheading f hhead, hzero⟩

/-- One step in order. -/
theorem Ordered.next {s t : State} {a : Act} (h : Ordered s) (hsteady : SteadyInv s)
    (hsignal : SignalInv s) (hok : steady s a = true) (horder : InOrder s a)
    (hnext : next s a = some t) : Ordered t := by
  cases a with
  | signal sig =>
      simp only [Main.next, takeSignal] at hnext
      split at hnext
      · cases hnext
        rcases Option.isSome_iff_exists.mp hok with ⟨f, hf⟩
        intro g hg
        have hlast : f = g := by simpa [hf] using hg
        left
        right
        rw [← hlast]
        exact hf
      · contradiction
  | count =>
      have hstep := signalNext_count hsignal hnext
      intro g hg
      cases hstep with
      | load f hcounting =>
          have hlast := hsignal.counting f hcounting
          simp only at hg
          rw [hlast] at hg
          cases hg
          left
          right
          rfl
      | store f value hcounting =>
          have hlast := hsignal.counting f hcounting
          have htaken : (s.setFlag f (value + 1)).taken = s.taken := by cases f <;> rfl
          simp only [htaken] at hg
          rw [hlast] at hg
          cases hg
          left
          left
          cases g <;> exact Nat.succ_pos value
  | sample args io =>
      simp only [Main.next, sampleNext] at hnext
      split at hnext
      · cases hnext
        intro g hg
        rcases h g hg with hpending | ⟨hheading, hzero⟩
        · exact .inl (by cases g <;> exact hpending)
        · refine .inr ⟨?_, by cases g <;> exact hzero⟩
          have hrec : State.isRecording { s with recording := s.recorderCall (.sample args) io } =
              s.isRecording := by
            unfold State.isRecording
            rw [recorderCall_sample]
          revert hheading
          unfold State.heading
          rw [hrec]
          cases s.mainPc <;> exact id
      · contradiction
  | main answers =>
      have hstep := mainNext_steady hsteady hok hnext
      have hafter := hsteady.step hok hnext
      have hout := hstep.outside
      cases hstep with
      | started hpc =>
          refine h.carry (fun f => by cases f <;> rfl) hout.2.2.1 hout.2.2.2 ?_
          intro f hf
          simp only [State.heading, hpc] at hf
      | begun hpc =>
          refine h.carry ?_ hout.2.2.1 hout.2.2.2 ?_
          · intro f
            rw [flag_goto]
            split
            · exact (enableRecording_outside s answers).1.flag f
            · rfl
          · intro f hf
            simp only [State.heading, hpc] at hf
      | clear f hpc =>
          apply h.clear hsignal hpc (hsteady.clearing f hpc)
          intro g hg hpos hlast
          exact horder g answers rfl hg hpos hlast
      | enable hpc =>
          have hcall := (enableRecording_outside
            { s with record := { s.record with enable := true } } answers).1
          refine h.carry ?_ hout.2.2.1 hout.2.2.2 ?_
          · intro f
            rw [flag_goto, hcall.flag f]
            cases f <;> rfl
          · intro f hf
            simp only [State.heading, hpc] at hf
            have hwanted := hafter.wanted (by simp [State.goto]) (by simp [State.goto])
            have hon : State.isRecording ((State.enableRecording
                { s with record := { s.record with enable := true } } answers).goto
                  .checkStop) = true := by
              unfold State.isRecording
              rw [← hwanted]
              simp [State.goto, hcall.record]
            rw [heading_between rfl, hon, hf]
            simp
      | disable hpc =>
          refine h.carry (fun f => by cases f <;> rfl) hout.2.2.1 hout.2.2.2 ?_
          intro f hf
          simp only [State.heading, hpc] at hf
          rw [heading_between rfl, hf]
          simp [State.isRecording, State.goto, State.disableRecording, State.freeRecorder]
      | move pc hfrom hnone hto hclears =>
          refine h.carry (fun f => by cases f <;> rfl) rfl rfl ?_
          intro f hf
          rw [heading_between hfrom] at hf
          rw [heading_between hto]
          exact hf

/-- In runs in order the last signal decides. -/
theorem lastDecides_of_inOrder {s : State}
    (h : mainLoop.ReachableUnder (fun s a => steady s a = true ∧ InOrder s a) s)
    (hdrained : Drained s) : LastDecides s := by
  have hordered : Ordered s := by
    apply h.invariant_on (fun s => SteadyInv s ∧ SignalInv s) Ordered
    · intro s hs
      exact steadyInv hs
    · rintro s ⟨record, w, -, rfl⟩ f hf
      contradiction
    · intro s t a hinv hs hok hnext
      exact hs.next hinv.1 hinv.2 hok.1 hok.2 hnext
  intro f hf
  have hbetween : s.mainPc.between = true := by
    rw [hdrained.head]
    rfl
  rcases hordered f hf with (hpos | hcount) | ⟨hheading, -⟩
  · rw [hdrained.flags f] at hpos
    contradiction
  · simp only [State.counting, hdrained.waiting] at hcount
    contradiction
  · exact (heading_between hbetween f).mp hheading

/-! ## The main loop alone -/

/-- The answers of a system in which every call succeeds at noon. -/
def goodAnswers : Answers :=
  { new := { timestamp := noon } }

/-- A configured path is all that the creation of a recorder needs then. -/
theorem creates_good {s : State} (hpath : s.record.outputPath ≠ []) :
    s.creates goodAnswers = true := by
  unfold State.creates
  rw [videoRecorderNew_isSome _ _ _ rfl]
  simp [hpath, creationAllowed, goodAnswers, answering, Pipeline.completes]

/-- The main thread alone goes on from `t` to `u`. -/
def Alone (t u : State) : Prop :=
  (mainLoop.startingAt t).ReachableUnder
    (fun v a => steady v a = true ∧ ∃ answers, a = .main answers) u

/-- The control point of the main thread, the two counters and the wish to record. -/
structure LoopPoint where
  pc : MainPc
  start : Nat
  stop : Nat
  enable : Bool

/-- One step of a main loop that no signal and no failure disturbs. -/
def LoopPoint.next (p : LoopPoint) : LoopPoint :=
  match p.pc with
  | .poll => { p with pc := .checkExit }
  | .checkExit => { p with pc := .checkStart }
  | .checkStart => { p with pc := if 0 < p.start then .clearStart else .checkStop }
  | .clearStart => { p with pc := .enable, start := 0 }
  | .enable => { p with pc := .checkStop, enable := true }
  | .checkStop => { p with pc := if 0 < p.stop then .clearStop else .checkRestart }
  | .clearStop => { p with pc := .disable, stop := 0 }
  | .disable => { p with pc := .checkRestart, enable := false }
  | .checkRestart => { p with pc := .pollChild }
  | .pollChild => { p with pc := .checkStopped }
  | .checkStopped => { p with pc := .poll }
  | _ => p

/-- Where the main loop stands. -/
def State.point (s : State) : LoopPoint :=
  { pc := s.mainPc, start := s.startRecordFlag, stop := s.stopRecordFlag,
    enable := s.record.enable }

/-- The main loop, left alone since `t`, stands at `p`. -/
structure AloneAt (t u : State) (p : LoopPoint) : Prop where
  alone : Alone t u
  inv : SteadyInv u
  inLoop : u.mainPc ≠ .start ∧ u.mainPc ≠ .startRecording
  signalPc : u.signalPc = t.signalPc
  taken : u.taken = t.taken
  path : u.record.outputPath ≠ []
  point : u.point = p

theorem Outside.point {s t : State} (h : Outside s t) (pc : MainPc) :
    (t.goto pc).point = { s.point with pc := pc } := by
  have hstart : t.startRecordFlag = s.startRecordFlag := h.flag .start
  have hstop : t.stopRecordFlag = s.stopRecordFlag := h.flag .stop
  simp only [State.point, State.goto, hstart, hstop, h.record]

/-- What the next step of an undisturbed loop does. -/
theorem mainNext_point {s : State} (h : SteadyInv s) (hstart : s.mainPc ≠ .start)
    (hbegun : s.mainPc ≠ .startRecording) :
    ∃ t, mainNext s goodAnswers = some t ∧ t.point = s.point.next ∧
      t.record.outputPath = s.record.outputPath ∧
      t.mainPc ≠ .start ∧ t.mainPc ≠ .startRecording := by
  have hrunning := h.running hstart
  have hpcs := h.pc
  unfold mainNext State.point LoopPoint.next
  cases hpc : s.mainPc
  case start => exact absurd hpc hstart
  case startRecording => exact absurd hpc hbegun
  case enable =>
    refine ⟨_, rfl, ?_, ?_, by simp [State.goto], by simp [State.goto]⟩
    · rw [if_pos hrunning]
      exact (enableRecording_outside _ goodAnswers).1.point _
    · rw [if_pos hrunning]
      simp only [State.goto, (enableRecording_outside _ goodAnswers).1.record]
  case disable =>
    refine ⟨_, rfl, ?_, ?_, by simp [State.goto], by simp [State.goto]⟩
    · rw [if_pos hrunning]
      rfl
    · rw [if_pos hrunning]
      rfl
  case checkExit =>
    rw [h.exit]
    exact ⟨_, rfl, rfl, rfl, by simp [State.goto], by simp [State.goto]⟩
  case checkRestart =>
    rw [h.restart]
    exact ⟨_, rfl, rfl, rfl, by simp [State.goto], by simp [State.goto]⟩
  case pollChild =>
    refine ⟨_, rfl, ?_, ?_, by simp [State.goto], by simp [State.goto]⟩
    · simp [State.pipelinePollChild, goodAnswers, State.goto]
    · simp [State.pipelinePollChild, goodAnswers, State.goto]
  case checkStopped =>
    simp only [hrunning, reduceCtorEq, if_false]
    exact ⟨_, rfl, rfl, rfl, by simp [State.goto], by simp [State.goto]⟩
  case checkStart =>
    refine ⟨_, rfl, rfl, rfl, ?_, ?_⟩
    · simp only [State.goto]
      split <;> simp
    · simp only [State.goto]
      split <;> simp
  case checkStop =>
    refine ⟨_, rfl, rfl, rfl, ?_, ?_⟩
    · simp only [State.goto]
      split <;> simp
    · simp only [State.goto]
      split <;> simp
  all_goals try
    rw [hpc] at hpcs
    simp [MainPc.between] at hpcs
    done
  all_goals exact ⟨_, rfl, rfl, rfl, by simp [State.goto], by simp [State.goto]⟩

/-- The undisturbed loop makes the steps of `LoopPoint.next`. -/
theorem AloneAt.next {t u : State} {p : LoopPoint} (h : AloneAt t u p) :
    ∃ v, AloneAt t v p.next := by
  rcases mainNext_point h.inv h.inLoop.1 h.inLoop.2 with ⟨v, hnext, hpoint, hpath, hin⟩
  have hsteady : steady u (.main goodAnswers) = true := by
    simp [steady, goodAnswers]
    exact creates_good h.path
  have hout := (mainNext_steady h.inv hsteady hnext).outside
  refine ⟨v, ?_, h.inv.step hsteady hnext, hin, ?_, ?_, ?_, ?_⟩
  · exact System.ReachableUnder.step (a := Act.main goodAnswers) h.alone
      ⟨hsteady, goodAnswers, rfl⟩ hnext
  · exact hout.2.2.1.trans h.signalPc
  · exact hout.2.2.2.trans h.taken
  · rw [hpath]
    exact h.path
  · rw [hpoint, h.point]

/-- Undisturbed, the main loop goes from point to point. -/
theorem AloneAt.iterate {t u : State} {p : LoopPoint} (h : AloneAt t u p) (n : Nat) :
    ∃ v, AloneAt t v (Nat.iterate LoopPoint.next n p) := by
  induction n generalizing u p with
  | zero => exact ⟨u, h⟩
  | succ n ih =>
      rcases h.next with ⟨v, hv⟩
      exact ih hv

/-- At the head of the loop with drained counters the wish decides. -/
theorem AloneAt.drained {t u : State} {enable : Bool}
    (h : AloneAt t u { pc := .poll, start := 0, stop := 0, enable := enable })
    (hwaiting : t.signalPc = .waiting) : Drained u ∧ u.isRecording = enable := by
  have hpoint := h.point
  simp only [State.point, LoopPoint.mk.injEq] at hpoint
  rcases hpoint with ⟨hpc, hstart, hstop, henable⟩
  have hwanted := h.inv.wanted h.inLoop.1 h.inLoop.2
  refine ⟨⟨hpc, h.signalPc.trans hwaiting, ?_⟩, ?_⟩
  · intro f
    cases f
    · exact hstart
    · exact hstop
  · unfold State.isRecording
    rw [← hwanted, Bool.and_self, henable]

/-- Where the loop stands after it cleared one counter, the other one being set. -/
def clearedPoint (f : RecordFlag) (other : Nat) (enable : Bool) : LoopPoint :=
  match f with
  | .start => { pc := .enable, start := 0, stop := other, enable := enable }
  | .stop => { pc := .disable, start := other, stop := 0, enable := enable }

/-- The undisturbed loop then handles the other counter too, and goes by that. -/
theorem iterate_clearedPoint (f : RecordFlag) (other : Nat) (enable : Bool)
    (hother : 0 < other) :
    ∃ n, Nat.iterate LoopPoint.next n (clearedPoint f other enable) =
      { pc := .poll, start := 0, stop := 0, enable := decide (f = .stop) } := by
  cases f with
  | start =>
      refine ⟨7, ?_⟩
      simp [Function.iterate_succ_apply, LoopPoint.next, clearedPoint, hother]
  | stop =>
      refine ⟨13, ?_⟩
      simp [Function.iterate_succ_apply, LoopPoint.next, clearedPoint, hother]

/-- Clearing the counter of the last signal while the other one is set decides
against the last signal. -/
theorem outOfOrder_continues {s t : State} {a : Act} (hinv : SteadyInv s)
    (hok : steady s a = true) (hnext : next s a = some t) (hbad : ¬ InOrder s a) :
    ∃ u, Alone t u ∧ Drained u ∧ ¬ LastDecides u := by
  unfold InOrder at hbad
  simp only [not_forall, exists_prop, ne_eq, not_not] at hbad
  rcases hbad with ⟨f, answers, rfl, hclears, hother, hlast, hwaiting⟩
  have hinv' := hinv.step hok hnext
  have hpath : s.record.outputPath ≠ [] := by
    have hcreates : s.creates answers = true := by
      simp only [steady, Bool.and_eq_true] at hok
      exact hok.2
    intro hnil
    simp [State.creates, hnil] at hcreates
  have ht : t = (s.setFlag f 0).goto f.handler := by
    have hpc : s.mainPc = .clearStart ∧ f = .start ∨ s.mainPc = .clearStop ∧ f = .stop := by
      unfold MainPc.clears at hclears
      split at hclears
      · rename_i hpc
        cases hclears
        exact .inl ⟨hpc, rfl⟩
      · rename_i hpc
        cases hclears
        exact .inr ⟨hpc, rfl⟩
      · contradiction
    rcases hpc with ⟨hpc, rfl⟩ | ⟨hpc, rfl⟩
    · simp only [next, mainNext, hpc] at hnext
      cases hnext
      rfl
    · simp only [next, mainNext, hpc] at hnext
      cases hnext
      rfl
  have hat : AloneAt t t (clearedPoint f (s.flag f.other) s.record.enable) := by
    subst ht
    refine ⟨.init rfl, hinv', ?_, rfl, rfl, ?_, ?_⟩
    · cases f <;> simp [State.goto, RecordFlag.handler]
    · cases f <;> exact hpath
    · cases f <;> rfl
  rcases iterate_clearedPoint f (s.flag f.other) s.record.enable hother with ⟨n, hn⟩
  rcases hat.iterate n with ⟨u, hu⟩
  rw [hn] at hu
  have htwaiting : t.signalPc = .waiting := by
    rw [ht]
    cases f <;> exact hwaiting
  rcases hu.drained htwaiting with ⟨hdrained, hrecording⟩
  refine ⟨u, hu.alone, hdrained, ?_⟩
  intro hdecides
  have hulast : u.taken.getLast? = some f := by
    rw [hu.taken, ht]
    cases f <;> exact hlast
  have hiff := hdecides f hulast
  rw [hrecording] at hiff
  cases f <;> simp at hiff

/-! ## The main result -/

/-- In the runs whose steps are all in order the last signal decides whether the
drained loop records.  A step out of order in such a run can be continued, by the main
thread alone, to a drained loop for which the last signal does not decide. -/
theorem last_signal_decides (s : State) :
    (mainLoop.ReachableUnder (fun v a => steady v a = true ∧ InOrder v a) s → Drained s →
      LastDecides s) ∧
    (∀ a t, mainLoop.ReachableUnder (fun v a => steady v a = true ∧ InOrder v a) s →
      steady s a = true → mainLoop.next s a = some t → ¬ InOrder s a →
      ∃ u, Alone t u ∧ Drained u ∧ ¬ LastDecides u) := by
  refine ⟨lastDecides_of_inOrder, ?_⟩
  intro a t h hok hnext hbad
  exact outOfOrder_continues (steadyInv h).1 hok hnext hbad

/-! ## Concrete runs -/

/-- The program does not record at the start, but knows where it would. -/
def notRecordingAtNoon : State :=
  State.initial { mediaCfg .sequential with enable := false } {}

theorem notRecordingAtNoon_init : mainLoop.init notRecordingAtNoon :=
  ⟨{ mediaCfg .sequential with enable := false }, {}, rfl, rfl⟩

/-- A signal is taken and counted. -/
def counted (sig : Signal) : List Act :=
  [.signal sig, .count, .count]

/-- The loop is drained, and these signals were taken. -/
def drainedAfter (taken : List RecordFlag) (s : State) : Bool :=
  s.mainPc = .poll && s.signalPc = .waiting && s.startRecordFlag = 0 && s.stopRecordFlag = 0 &&
    s.taken = taken

/-- What the check says. -/
theorem drained_of_drainedAfter {taken : List RecordFlag} {s : State}
    (h : drainedAfter taken s = true) : Drained s ∧ s.taken = taken := by
  simp only [drainedAfter, Bool.and_eq_true, decide_eq_true_eq] at h
  refine ⟨⟨h.1.1.1.1, h.1.1.1.2, ?_⟩, h.2⟩
  intro f
  cases f
  · exact h.1.1.2
  · exact h.1.2

/-- SIGUSR2 and then SIGUSR1, each drained on its own. -/
theorem last_signal_decides_drained :
    ∃ s, Drained s ∧ s.taken = [.stop, .start] ∧ LastDecides s := by
  have hrun : ((mainLoop.execChecked
      (fun s a => steady s a && s.mainPc.clears.all fun f => s.flag f.other = 0)
      notRecordingAtNoon
      ([atNoon, atNoon] ++ counted .usr2 ++ List.replicate 9 atNoon ++ counted .usr1 ++
        List.replicate 9 atNoon)).any (drainedAfter [.stop, .start])) = true := by
    decide +kernel
  rcases (Option.any_eq_true _ _).mp hrun with ⟨s, hs, hfields⟩
  rcases drained_of_drainedAfter hfields with ⟨hdrained, htaken⟩
  have hreach : mainLoop.ReachableUnder (fun v a => steady v a = true ∧ InOrder v a) s := by
    apply Transition.System.ReachableUnder.execChecked ?_ (.init notRecordingAtNoon_init) hs
    intro v a hcheck
    rw [Bool.and_eq_true] at hcheck
    refine ⟨hcheck.1, ?_⟩
    intro f answers _ hclears hother
    have hzero := hcheck.2
    rw [hclears] at hzero
    simp only [Option.all_some, decide_eq_true_eq] at hzero
    omega
  exact ⟨s, hdrained, htaken, (last_signal_decides s).1 hreach hdrained⟩

/-- SIGUSR2 and then SIGUSR1 in one turn of the loop: SIGUSR1 is handled first, and
recording ends disabled. -/
theorem last_signal_lost :
    ¬ ∀ s, mainLoop.ReachableUnder (fun v a => steady v a = true) s → Drained s →
      LastDecides s := by
  intro hall
  have hrun : ((mainLoop.execChecked steady notRecordingAtNoon
      ([atNoon, atNoon] ++ counted .usr2 ++ counted .usr1 ++ List.replicate 11 atNoon)).any
      fun s => drainedAfter [.stop, .start] s && !s.isRecording) = true := by
    decide +kernel
  rcases (Option.any_eq_true _ _).mp hrun with ⟨s, hs, hfields⟩
  rw [Bool.and_eq_true, Bool.not_eq_true'] at hfields
  rcases drained_of_drainedAfter hfields.1 with ⟨hdrained, htaken⟩
  have hreach : mainLoop.ReachableUnder (fun v a => steady v a = true) s :=
    Transition.System.ReachableUnder.execChecked (fun _ _ h => h)
      (.init notRecordingAtNoon_init) hs
  have hdecides := hall s hreach hdrained .start (by rw [htaken]; rfl)
  rw [hfields.2] at hdecides
  simp at hdecides

end Main
end PixelPilot
