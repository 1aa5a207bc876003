import PixelPilot.Pipeline.AppsinkJoin

/-!
# The fields of the pipeline

What the fields of `PipelineState` hold at each control point of the main thread:
`pipeline_start` fills them one after the other, and three teardown paths end in
`cleanup_pipeline`, which clears them one after the other.

Main results:

- Definitions `Cleaned` and `Built`: the fields that are cleared, or set, at a stage.
- Definitions `FieldsInv`, `DecoderInv` and `ReceiverInv`: the fields at every control
  point, and when the decoder and the receiver have threads.
- Theorem `PipelineInv.next`: every step keeps them, together with the invariants of
  the bus thread and of the appsink thread.
-/

namespace PixelPilot
namespace Pipeline

/-! ## Stages -/

/-- How far `cleanup_pipeline` has got. -/
@[simp]
def MainPc.cleanStage : MainPc → Nat
  | .cleanAppsink _ | .cleanAppsinkJoin _ => 1
  | .cleanBus _ | .cleanBusJoin _ => 2
  | .cleanUdp _ | .cleanDestroy _ => 3
  | .udpEnter u | .udpJoin u | .udpLeave u => if u.inCleanup then 3 else 0
  | .cleanPipeline _ => 4
  | .cleanDecoder _ => 5
  | .decoderStop _ inDeinit | .decoderJoinFrame _ inDeinit
  | .decoderJoinDisplay _ inDeinit => if inDeinit then 6 else 5
  | .cleanDeinit _ => 6
  | .cleanFree _ => 7
  | .cleanDone _ => 8
  | _ => 0

/-- How far `pipeline_start` has got. -/
@[simp]
def MainPc.startStage : MainPc → Nat
  | .startElements _ => 1
  | .startUdp _ => 2
  | .startPlaying _ | .startDecoderNew _ => 3
  | .startDecoderInit _ => 4
  | .startFrame _ => 5
  | .startDisplay _ | .startDisplayFail _ => 6
  | .startRunning _ => 7
  | .startAppsink _ => 8
  | .startBus _ => 9
  | .startDone _ => 10
  | _ => 0

/-- Outside the calls, or in one that has not written a field yet. -/
@[simp]
def MainPc.between : MainPc → Bool
  | .loop | .pollChild | .pollFlag | .pollJoin | .checkStopped | .stopEnter _
  | .startEnter _ | .exited => true
  | _ => false

@[simp]
def Cleanup.ofStart : Cleanup → Bool
  | .start _ => true
  | .stop _ | .poll => false

/-- Inside `pipeline_start`, after its test of the state. -/
@[simp]
def MainPc.inStart : MainPc → Bool
  | .startElements _ | .startUdp _ | .startPlaying _ | .startDecoderNew _
  | .startDecoderInit _ | .startFrame _ | .startDisplay _ | .startDisplayFail _
  | .startRunning _ | .startAppsink _ | .startBus _ | .startDone _ => true
  | .cleanAppsink c | .cleanAppsinkJoin c | .cleanBus c | .cleanBusJoin c | .cleanUdp c
  | .cleanDestroy c | .cleanPipeline c | .cleanDecoder c | .decoderStop c _
  | .decoderJoinFrame c _ | .decoderJoinDisplay c _ | .cleanDeinit c | .cleanFree c
  | .cleanDone c => c.ofStart
  | .udpEnter (.cleanup c) | .udpJoin (.cleanup c) | .udpLeave (.cleanup c) => c.ofStart
  | _ => false

/-- The fields that are cleared at a stage of `cleanup_pipeline`. -/
def Cleaned (n : Nat) (s : State) : Prop :=
  (2 ≤ n → s.appsinkThread = false) ∧
  (3 ≤ n → s.busThread = false) ∧
  (4 ≤ n → s.udpReceiver.isSome = false) ∧
  (5 ≤ n → s.pipeline.isSome = false ∧ s.appsink = false) ∧
  (6 ≤ n → s.decoderRunning = false) ∧
  (7 ≤ n → s.decoderInitialized = false) ∧
  (8 ≤ n → s.decoder = false)

/-- The fields that are set at a stage of `pipeline_start`. -/
def Built (n : Nat) (s : State) : Prop :=
  (2 ≤ n → s.pipeline.isSome = true ∧ s.appsink = true ∧ s.udpReceiver.isSome = true) ∧
  (4 ≤ n → s.decoder = true) ∧
  (8 ≤ n → s.decoderRunning = true) ∧
  (9 ≤ n → s.appsinkThread = true)

/-- All fields are cleared. -/
abbrev Blank (s : State) : Prop :=
  Cleaned 8 s

/-- All fields but the handle of the bus thread are set. -/
abbrev Complete (s : State) : Prop :=
  Built 10 s

/-- Outside the calls the pipeline is stopped and blank, or running and complete. -/
def Between (s : State) : Prop :=
  s.state ≠ .stopping ∧ (s.state = .stopped → Blank s) ∧ (s.state = .running → Complete s)

/-- The fields of `ps` at every control point. -/
def FieldsInv (s : State) : Prop :=
  if s.mainPc.between then Between s
  else if s.mainPc.startStage = 1 then Blank s
  else Cleaned s.mainPc.cleanStage s ∧ Built s.mainPc.startStage s

theorem Cleaned.zero (s : State) : Cleaned 0 s := by
  simp [Cleaned]

theorem Cleaned.one (s : State) : Cleaned 1 s := by
  simp [Cleaned]

theorem Built.zero (s : State) : Built 0 s := by
  simp [Built]

/-! ## Steps of the main thread -/

/-- Between two calls the pipeline is stopped and blank, or running and complete. -/
theorem FieldsInv.between {s : State} (hs : FieldsInv s) (hpc : s.mainPc.between = true) :
    Between s := by
  unfold FieldsInv at hs
  rw [if_pos hpc] at hs
  exact hs

/-- Inside `cleanup_pipeline` the fields of the stages passed are cleared. -/
theorem FieldsInv.cleaned {s : State} (hs : FieldsInv s) (hpc : s.mainPc.between = false)
    (hstage : s.mainPc.startStage = 0) : Cleaned s.mainPc.cleanStage s := by
  unfold FieldsInv at hs
  rw [hpc, hstage] at hs
  exact hs.1

/-- Inside `pipeline_start` those of the stages passed are set. -/
theorem FieldsInv.built {s : State} (hs : FieldsInv s) (hpc : s.mainPc.between = false)
    (hstage : s.mainPc.startStage ≠ 1) : Built s.mainPc.startStage s := by
  unfold FieldsInv at hs
  rw [hpc, if_neg Bool.false_ne_true, if_neg hstage] at hs
  exact hs.2

/-- A turn of the main loop keeps the invariant. -/
theorem FieldsInv.loopNext {s t : State} {c : MainChoice} (hs : FieldsInv s)
    (h : loopNext s c = some t) : FieldsInv t := by
  unfold Pipeline.loopNext at h
  split at h <;> rename_i hpc
  all_goals try split at h
  all_goals try contradiction
  all_goals
    cases h
    have hbetween := hs.between (by rw [hpc]; rfl)
    first
      | exact hbetween
      | exact ⟨Cleaned.one _, Built.zero _⟩

/-- A step of `pipeline_stop` keeps the invariant. -/
theorem FieldsInv.stopNext {s t : State} {c : MainChoice} (hs : FieldsInv s)
    (h : stopNext s c = some t) : FieldsInv t := by
  unfold Pipeline.stopNext at h
  split at h <;> rename_i hpc
  all_goals try split at h
  all_goals try contradiction
  all_goals cases h
  all_goals try exact ⟨Cleaned.zero _, Built.zero _⟩
  all_goals try exact ⟨Cleaned.one _, Built.zero _⟩
  -- `pipeline_stop` of a stopped pipeline returns at once.
  have hbetween := hs.between (by rw [hpc]; rfl)
  cases ‹StopFor› <;> exact hbetween

/-- A step of `udp_receiver_stop` keeps the invariant. -/
theorem FieldsInv.udpNext {s t : State} {r : Receiver} {c : MainChoice} (hs : FieldsInv s)
    (h : udpNext s r c = some t) : FieldsInv t := by
  unfold Pipeline.udpNext at h
  split at h <;> rename_i hpc
  all_goals try cases ‹UdpStop›
  all_goals try split at h
  all_goals try split at h
  all_goals try contradiction
  all_goals
    cases h
    have hcleaned := hs.cleaned (by rw [hpc]; rfl) (by rw [hpc]; rfl)
    refine ⟨?_, Built.zero _⟩
    simp_all [Cleaned, afterUdpStop]

/-- At the end of `cleanup_pipeline` all fields are cleared. -/
theorem FieldsInv.afterCleanup {s : State} {c : Cleanup} (hs : FieldsInv s)
    (hstopped : s.mainPc.inStart = true → s.state = .stopped)
    (hpc : s.mainPc = .cleanDone c) : FieldsInv (s.afterCleanup c) := by
  have hblank := hs.cleaned (by rw [hpc]; rfl) (by rw [hpc]; rfl)
  rw [hpc] at hblank hstopped
  cases c with
  | stop f =>
      cases f <;>
        exact ⟨by simp [State.afterCleanup], fun _ => hblank, fun hrun => by contradiction⟩
  | poll =>
      exact ⟨by simp [State.afterCleanup], fun _ => hblank, fun hrun => by contradiction⟩
  | start f =>
      have hstate := hstopped rfl
      have hbetween : Between (s.afterCleanup (.start f)) := by
        refine ⟨?_, fun _ => hblank, ?_⟩
        · simp [State.afterCleanup, hstate]
        · simp [State.afterCleanup, hstate]
      cases f <;> exact hbetween

/-- A step of `cleanup_pipeline` keeps the invariant. -/
theorem FieldsInv.cleanNext {s t : State} {c : MainChoice} (hs : FieldsInv s)
    (hstopped : s.mainPc.inStart = true → s.state = .stopped)
    (h : cleanNext s c = some t) : FieldsInv t := by
  unfold Pipeline.cleanNext at h
  split at h <;> rename_i hpc
  all_goals try split at h
  all_goals try split at h
  all_goals try contradiction
  all_goals cases h
  all_goals try exact hs.afterCleanup hstopped hpc
  all_goals
    have hcleaned := hs.cleaned (by rw [hpc]; rfl) (by rw [hpc]; rfl)
    refine ⟨?_, Built.zero _⟩
    simp_all [Cleaned]

/-- `pipeline_start` up to its first stores: it is refused, or finds a blank `ps`. -/
theorem FieldsInv.startEnter {s : State} {f : StartFor} (hs : FieldsInv s)
    (hpc : s.mainPc = .startEnter f) :
    FieldsInv { s with mainPc := afterFailedStart f } ∧
      (s.state = .stopped → FieldsInv { s.resetFields with mainPc := .startElements f }) := by
  have hbetween := hs.between (by rw [hpc]; rfl)
  constructor
  · cases f <;> exact hbetween
  · intro hstopped
    have hblank := hbetween.2.1 hstopped
    have hreset : Blank { s.resetFields with mainPc := .startElements f } := by
      simp_all [Cleaned, State.resetFields]
    exact hreset

/-- The end of `pipeline_start`. -/
theorem FieldsInv.startDone {s : State} {f : StartFor} (hs : FieldsInv s)
    (hpc : s.mainPc = .startDone f) :
    FieldsInv { s with state := .running, mainPc := afterStart f } := by
  have hcomplete := hs.built (by rw [hpc]; rfl) (by rw [hpc]; simp)
  rw [hpc] at hcomplete
  have hbetween : Between { s with state := .running, mainPc := afterStart f } :=
    ⟨by simp, fun hstopped => by contradiction, fun _ => hcomplete⟩
  cases f <;> exact hbetween

/-- A step of `pipeline_start` keeps the invariant. -/
theorem FieldsInv.startNext {s t : State} {c : MainChoice} (hs : FieldsInv s)
    (h : startNext s c = some t) : FieldsInv t := by
  unfold Pipeline.startNext at h
  split at h <;> rename_i hpc
  case h_1 =>
    split at h
    · cases h
      exact (hs.startEnter hpc).1
    · rename_i hstate
      cases h
      exact (hs.startEnter hpc).2 (not_not.mp hstate)
  all_goals try split at h
  all_goals try contradiction
  all_goals cases h
  all_goals try exact ⟨Cleaned.one _, Built.zero _⟩
  all_goals try exact hs.startDone hpc
  case h_3.refl => exact ⟨Cleaned.zero _, by simp [Built]⟩
  all_goals
    have hbuilt := hs.built (by rw [hpc]; rfl) (by rw [hpc]; simp)
    refine ⟨Cleaned.zero _, ?_⟩
    simp_all [Built]

/-- The caller of `cleanup_pipeline` is done, too. -/
@[simp]
theorem afterCleanup_inStart (s : State) (c : Cleanup) :
    (s.afterCleanup c).mainPc.inStart = false := by
  cases c with
  | stop f | start f => cases f <;> rfl
  | poll => rfl

/-- `pipeline_start` runs, with its cleanup, while the pipeline is stopped. -/
theorem inStart_mainNext {s t : State} {c : MainChoice}
    (hs : s.mainPc.inStart = true → s.state = .stopped) (h : mainNext s c = some t)
    (hin : t.mainPc.inStart = true) : t.state = .stopped := by
  rcases mainNext_cases h with hloop | hstop | ⟨r, -, hudp⟩ | hclean | hstart
  · unfold loopNext at hloop
    split at hloop <;> rename_i hpc
    all_goals try split at hloop
    all_goals cases hloop
    all_goals simp at hin
  · unfold stopNext at hstop
    split at hstop <;> rename_i hpc
    all_goals try split at hstop
    all_goals cases hstop
    all_goals try cases ‹StopFor›
    all_goals simp [afterStop] at hin
  · unfold udpNext at hudp
    split at hudp <;> rename_i hpc
    all_goals try cases ‹UdpStop›
    all_goals try split at hudp
    all_goals try split at hudp
    all_goals cases hudp
    all_goals simp_all [afterUdpStop]
  · unfold cleanNext at hclean
    split at hclean <;> rename_i hpc
    all_goals try split at hclean
    all_goals try split at hclean
    all_goals cases hclean
    case h_13.refl =>
      rw [afterCleanup_inStart] at hin
      contradiction
    all_goals simp_all
  · unfold startNext at hstart
    split at hstart <;> rename_i hpc
    all_goals try split at hstart
    all_goals cases hstart
    all_goals try cases ‹StartFor›
    all_goals simp_all [State.resetFields, afterStart, afterFailedStart]

/-! ## Steps of the other threads -/

/-- A step that keeps the control point of the main thread and which of the fields are
set. -/
theorem FieldsInv.congr {s t : State} (hs : FieldsInv s) (hpc : t.mainPc = s.mainPc)
    (hstate : t.state = s.state) (hpipeline : t.pipeline.isSome = s.pipeline.isSome)
    (happsink : t.appsink = s.appsink)
    (hreceiver : t.udpReceiver.isSome = s.udpReceiver.isSome)
    (hbus : t.busThread = s.busThread) (hthread : t.appsinkThread = s.appsinkThread)
    (hdecoder : t.decoder = s.decoder) (hinit : t.decoderInitialized = s.decoderInitialized)
    (hrunning : t.decoderRunning = s.decoderRunning) : FieldsInv t := by
  simp only [FieldsInv, Between, Blank, Complete, Cleaned, Built, hpc, hstate, hpipeline,
    happsink, hreceiver, hbus, hthread, hdecoder, hinit, hrunning] at hs ⊢
  exact hs

/-- Every step keeps the invariant. -/
theorem FieldsInv.next {s t : State} {a : Act} (hs : FieldsInv s)
    (hstopped : s.mainPc.inStart = true → s.state = .stopped) (h : next s a = some t) :
    FieldsInv t := by
  cases a with
  | main c =>
      rcases mainNext_cases h with hloop | hstop | ⟨r, -, hudp⟩ | hclean | hstart
      · exact hs.loopNext hloop
      · exact hs.stopNext hstop
      · exact hs.udpNext hudp
      · exact hs.cleanNext hstopped hclean
      · exact hs.startNext hstart
  | bus c =>
      obtain ⟨-, -, -, pc, flag, stop, error, rfl, -⟩ := busNext_frame h
      exact hs.congr rfl rfl rfl rfl rfl rfl rfl rfl rfl rfl
  | appsink c =>
      obtain ⟨-, -, pc, flag, rfl⟩ := appsinkNext_frame h
      exact hs.congr rfl rfl rfl rfl rfl rfl rfl rfl rfl rfl
  | receiver c =>
      obtain ⟨r, u, hr, -, rfl⟩ := receiverNext_frame h
      exact hs.congr rfl rfl rfl rfl (by rw [hr]; rfl) rfl rfl rfl rfl rfl
  | frame c =>
      obtain ⟨vd, -, rfl⟩ := frameNext_frame h
      exact hs.congr rfl rfl rfl rfl rfl rfl rfl rfl rfl rfl
  | display c =>
      obtain ⟨vd, -, rfl⟩ := displayNext_frame h
      exact hs.congr rfl rfl rfl rfl rfl rfl rfl rfl rfl rfl
  | gst c =>
      simp only [Pipeline.next, gstNext] at h
      split at h
      · rename_i hplaying
        cases c with
        | stall =>
            cases h
            exact hs.congr rfl rfl (by rw [hplaying]; rfl) rfl rfl rfl rfl rfl rfl rfl
        | consume =>
            cases h
            exact hs.congr rfl rfl rfl rfl (by simp) rfl rfl rfl rfl rfl
      · contradiction

/-! ## The threads of the receiver and of the decoder -/

/-- The decoder has no threads. -/
def Threadless (vd : Decoder.State) : Prop :=
  vd.framePc = .absent ∧ vd.displayPc = .absent

/-- Only an initialised decoder has threads; the right-hand side of each case is what
`pipeline_start` or the two joins rely on. -/
def DecoderInv (s : State) : Prop :=
  (s.decoderInitialized = false → Threadless s.vd) ∧
    match s.mainPc with
    | .startElements _ | .startUdp _ | .startPlaying _ | .startDecoderNew _
    | .startDecoderInit _ => s.decoderInitialized = false
    | .startFrame _ => s.decoderInitialized = true ∧ Threadless s.vd
    | .startDisplay _ => s.decoderInitialized = true ∧ s.vd.displayPc = .absent
    | .startDisplayFail _ => s.decoderInitialized = true
    | .decoderJoinDisplay _ _ => s.vd.framePc = .absent
    | _ => True

/-- Only a running receiver has a thread, and none once `udp_receiver_stop` has joined
it. -/
def ReceiverInv (s : State) : Prop :=
  (∀ r, s.udpReceiver = some r → r.running = false → r.thread = false) ∧
    match s.mainPc with
    | .startUdp _ | .udpLeave _ | .cleanDestroy _ =>
        s.udpReceiver.any Receiver.thread = false
    | _ => True

@[simp]
theorem wake_eq_absent (pc : Decoder.DisplayPc) : Decoder.wake pc = .absent ↔ pc = .absent := by
  cases pc <;> simp [Decoder.wake]

theorem Threadless.stopSection {vd : Decoder.State} (h : Threadless vd) :
    Threadless vd.stopSection :=
  ⟨h.1, (wake_eq_absent _).mpr h.2⟩

/-- A turn of the main loop leaves the decoder alone. -/
theorem DecoderInv.loopNext {s t : State} {c : MainChoice} (hs : DecoderInv s)
    (h : loopNext s c = some t) : DecoderInv t := by
  unfold Pipeline.loopNext at h
  split at h
  all_goals try split at h
  all_goals cases h
  all_goals exact ⟨hs.1, trivial⟩

/-- A step of `pipeline_stop` keeps the invariant of the decoder. -/
theorem DecoderInv.stopNext {s t : State} {c : MainChoice} (hs : DecoderInv s)
    (h : stopNext s c = some t) : DecoderInv t := by
  unfold Pipeline.stopNext at h
  split at h
  all_goals try split at h
  all_goals cases h
  all_goals try exact ⟨hs.1, trivial⟩
  cases ‹StopFor› <;> exact ⟨hs.1, trivial⟩

theorem DecoderInv.udpNext {s t : State} {r : Receiver} {c : MainChoice} (hs : DecoderInv s)
    (h : udpNext s r c = some t) : DecoderInv t := by
  unfold Pipeline.udpNext at h
  split at h
  all_goals try cases ‹UdpStop›
  all_goals try split at h
  all_goals try split at h
  all_goals cases h
  all_goals exact ⟨hs.1, trivial⟩

/-- The return of `cleanup_pipeline` keeps the invariant of the decoder. -/
theorem DecoderInv.afterCleanup {s : State} (hs : DecoderInv s) (c : Cleanup) :
    DecoderInv (s.afterCleanup c) := by
  cases c with
  | stop f | start f => cases f <;> exact ⟨hs.1, trivial⟩
  | poll => exact ⟨hs.1, trivial⟩

/-- `video_decoder_stop` has joined the frame thread when it joins the display
thread. -/
theorem DecoderInv.frameJoined {s : State} {c : Cleanup} {inDeinit : Bool} (hs : DecoderInv s)
    (hpc : s.mainPc = .decoderJoinDisplay c inDeinit) : s.vd.framePc = .absent := by
  have hjoined := hs.2
  rw [hpc] at hjoined
  exact hjoined

/-- A step of `cleanup_pipeline` keeps the invariant of the decoder. -/
theorem DecoderInv.cleanNext {s t : State} {c : MainChoice} (hs : DecoderInv s)
    (h : cleanNext s c = some t) : DecoderInv t := by
  unfold Pipeline.cleanNext at h
  split at h <;> rename_i hpc
  all_goals try split at h
  all_goals try split at h
  all_goals cases h
  all_goals try exact ⟨hs.1, trivial⟩
  all_goals try exact hs.afterCleanup _
  case h_8.refl => exact ⟨fun hinit => (hs.1 hinit).stopSection, trivial⟩
  case h_9.isTrue.refl => exact ⟨fun hinit => ⟨rfl, (hs.1 hinit).2⟩, rfl⟩
  case h_10.isTrue.isTrue.refl => exact ⟨fun _ => ⟨hs.frameJoined hpc, rfl⟩, trivial⟩
  case h_10.isTrue.isFalse.refl => exact ⟨fun hinit => ⟨(hs.1 hinit).1, rfl⟩, trivial⟩

/-- `pipeline_start` finds no decoder that is still initialised. -/
theorem FieldsInv.uninitialized {s : State} {f : StartFor} (hs : FieldsInv s)
    (hpc : s.mainPc = .startEnter f) (hstopped : s.state = .stopped) :
    s.decoderInitialized = false := by
  have hblank := (hs.between (by rw [hpc]; rfl)).2.1 hstopped
  exact hblank.2.2.2.2.2.1 (by omega)

/-- A step of `pipeline_start` keeps the invariant of the decoder. -/
theorem DecoderInv.startNext {s t : State} {c : MainChoice} (hs : DecoderInv s)
    (hfields : FieldsInv s) (h : startNext s c = some t) : DecoderInv t := by
  unfold Pipeline.startNext at h
  split at h <;> rename_i hpc
  case h_1 =>
    split at h
    · cases h
      cases ‹StartFor› <;> exact ⟨hs.1, trivial⟩
    · rename_i hstate
      cases h
      exact ⟨hs.1, hfields.uninitialized hpc (not_not.mp hstate)⟩
  all_goals try split at h
  all_goals try contradiction
  all_goals cases h
  all_goals have hstage := hs.2
  all_goals rw [hpc] at hstage
  all_goals try exact ⟨hs.1, trivial⟩
  all_goals try exact ⟨hs.1, hstage⟩
  case h_11.refl => exact ⟨fun hinit => by contradiction, rfl, rfl, rfl⟩
  case h_13.refl =>
    refine ⟨fun hinit => ?_, hstage.1, hstage.2.2⟩
    exact absurd hinit (by simp [hstage.1])
  case h_14.refl => exact ⟨hs.1, hstage.1⟩
  case h_15.refl =>
    refine ⟨fun hinit => ?_, trivial⟩
    exact absurd hinit (by simp [hstage.1])
  case h_16.isTrue.refl =>
    refine ⟨fun hinit => ?_, trivial⟩
    exact absurd hinit (by simp [show s.decoderInitialized = true from hstage])
  case h_22.refl => cases ‹StartFor› <;> exact ⟨hs.1, trivial⟩

/-! ## The decoder's own steps -/

theorem dispatch_ne_absent (vd : Decoder.State) (f : Decoder.MppFrame) :
    vd.dispatch f ≠ .absent := by
  unfold Decoder.State.dispatch
  split
  · simp
  · split
    · simp
    · split <;> simp

/-- The frame thread exists before and after each of its steps. -/
theorem decoder_frame_alive {vd vd' : Decoder.State} {c : Decoder.FrameChoice}
    (h : Decoder.frameNext vd c = some vd') : vd.framePc ≠ .absent ∧ vd'.framePc ≠ .absent := by
  unfold Decoder.frameNext at h
  split at h <;> rename_i hpc
  all_goals try split at h
  all_goals try contradiction
  all_goals cases h
  all_goals refine ⟨by rw [hpc]; simp, ?_⟩
  all_goals try exact dispatch_ne_absent _ _
  all_goals try simp
  all_goals split <;> simp

/-- The frame thread at most wakes the display thread. -/
theorem decoder_frame_display {vd vd' : Decoder.State} {c : Decoder.FrameChoice}
    (h : Decoder.frameNext vd c = some vd') :
    vd'.displayPc = .absent ↔ vd.displayPc = .absent := by
  cases Decoder.frameNext_effect h with
  | quiet _ _ _ hdisplay => rw [hdisplay]
  | post f i _ ht =>
      subst ht
      exact wake_eq_absent _
  | eos f _ ht =>
      subst ht
      rfl
  | finish _ ht =>
      subst ht
      exact wake_eq_absent _

theorem displayEnter_ne_absent (vd : Decoder.State) : vd.displayEnter.displayPc ≠ .absent := by
  rcases Decoder.displayEnter_cases vd with ⟨-, -, ht⟩ | ⟨-, ht⟩ | ⟨-, -, ht⟩ <;> simp [ht]

/-- The display thread exists before and after each of its steps. -/
theorem decoder_display_alive {vd vd' : Decoder.State} {c : Decoder.DisplayChoice}
    (h : Decoder.displayNext vd c = some vd') :
    vd.displayPc ≠ .absent ∧ vd'.displayPc ≠ .absent := by
  unfold Decoder.displayNext at h
  split at h <;> rename_i hpc
  all_goals try split at h
  all_goals try contradiction
  all_goals cases h
  all_goals refine ⟨by rw [hpc]; simp, ?_⟩
  all_goals try exact displayEnter_ne_absent vd
  all_goals try simp
  all_goals cases ‹Bool› <;> simp [Decoder.afterCommit]

/-- The display thread leaves the frame thread alone. -/
theorem decoder_display_frame {vd vd' : Decoder.State} {c : Decoder.DisplayChoice}
    (h : Decoder.displayNext vd c = some vd') : vd'.framePc = vd.framePc := by
  cases Decoder.displayNext_effect h with
  | wait _ _ ht | take _ ht | leave _ _ ht | commit _ _ _ ht => rw [ht]

/-- A step of one of the decoder's threads leaves the other's existence alone. -/
theorem DecoderInv.vdNext {s : State} {vd : Decoder.State} (hs : DecoderInv s)
    (hframe : vd.framePc = .absent ↔ s.vd.framePc = .absent)
    (hdisplay : vd.displayPc = .absent ↔ s.vd.displayPc = .absent) :
    DecoderInv { s with vd := vd } := by
  unfold DecoderInv Threadless at *
  simp only [hframe, hdisplay]
  exact hs

/-- A step of any thread keeps the invariant of the decoder. -/
theorem DecoderInv.next {s t : State} {a : Act} (hs : DecoderInv s) (hfields : FieldsInv s)
    (h : next s a = some t) : DecoderInv t := by
  cases a with
  | main c =>
      rcases mainNext_cases h with hloop | hstop | ⟨r, -, hudp⟩ | hclean | hstart
      · exact hs.loopNext hloop
      · exact hs.stopNext hstop
      · exact hs.udpNext hudp
      · exact hs.cleanNext hclean
      · exact hs.startNext hfields hstart
  | bus c =>
      obtain ⟨-, -, -, pc, flag, stop, error, rfl, -⟩ := busNext_frame h
      exact hs
  | appsink c =>
      obtain ⟨-, -, pc, flag, rfl⟩ := appsinkNext_frame h
      exact hs
  | receiver c =>
      obtain ⟨r, u, -, -, rfl⟩ := receiverNext_frame h
      exact hs
  | frame c =>
      obtain ⟨vd, hvd, rfl⟩ := frameNext_frame h
      have halive := decoder_frame_alive hvd
      exact hs.vdNext (by simp [halive]) (decoder_frame_display hvd)
  | display c =>
      obtain ⟨vd, hvd, rfl⟩ := displayNext_frame h
      have halive := decoder_display_alive hvd
      exact hs.vdNext (by rw [decoder_display_frame hvd]) (by simp [halive])
  | gst c =>
      obtain ⟨-, p, u, rfl, -⟩ := gstNext_frame h
      exact hs

/-! ## The receiver's thread -/

/-- The receiver's thread changes neither `running` nor the handle. -/
theorem receiver_handle {gst : Gst} {r u : Receiver} {c : ReceiverChoice}
    (h : r.next gst c = some u) : u.running = r.running ∧ u.thread = r.thread := by
  unfold Receiver.next at h
  split at h
  all_goals try split at h
  all_goals try contradiction
  all_goals cases h
  all_goals try exact ⟨rfl, rfl⟩
  all_goals
    unfold Receiver.ensureStep Receiver.ensureBufferPool
    cases r.pool <;> cases r.poolActive <;> exact ⟨rfl, rfl⟩

/-- A receiver without a thread satisfies the invariant anywhere. -/
theorem ReceiverInv.of_threadless {s : State}
    (h : s.udpReceiver.any Receiver.thread = false) : ReceiverInv s := by
  refine ⟨fun r hr _ => ?_, ?_⟩
  · rw [hr] at h
    exact h
  · split
    all_goals first | exact h | trivial

theorem ReceiverInv.loopNext {s t : State} {c : MainChoice} (hs : ReceiverInv s)
    (h : loopNext s c = some t) : ReceiverInv t := by
  unfold Pipeline.loopNext at h
  split at h
  all_goals try split at h
  all_goals cases h
  all_goals exact ⟨hs.1, trivial⟩

/-- A pipeline set to NULL changes neither `running` nor the handle. -/
theorem ReceiverInv.setNull {s : State} (hs : ReceiverInv s) (f : StopFor) :
    ReceiverInv { s.setNull with mainPc := .stopUdp f } := by
  refine ⟨fun u hu hrunning => ?_, trivial⟩
  obtain ⟨r, hr, rfl⟩ := Option.map_eq_some_iff.mp hu
  exact hs.1 r hr hrunning

theorem ReceiverInv.stopNext {s t : State} {c : MainChoice} (hs : ReceiverInv s)
    (h : stopNext s c = some t) : ReceiverInv t := by
  unfold Pipeline.stopNext at h
  split at h
  all_goals try split at h
  all_goals cases h
  all_goals try exact ⟨hs.1, trivial⟩
  all_goals try exact hs.setNull _
  cases ‹StopFor› <;> exact ⟨hs.1, trivial⟩

/-- A stop of a receiver that is not running finds no thread, and one of a running
receiver has joined it. -/
theorem ReceiverInv.udpNext {s t : State} {r : Receiver} {c : MainChoice} (hs : ReceiverInv s)
    (hr : s.udpReceiver = some r) (h : udpNext s r c = some t) : ReceiverInv t := by
  have hany : s.udpReceiver.any Receiver.thread = r.thread := by
    rw [hr]
    rfl
  have hstage := hs.2
  unfold Pipeline.udpNext at h
  split at h <;> rename_i hpc
  all_goals try rw [hpc] at hstage
  all_goals try split at h
  all_goals try split at h
  all_goals cases h
  case h_1.isTrue.refl hrunning =>
    refine ⟨fun u hu hstopped => ?_, trivial⟩
    cases hu
    rw [hrunning] at hstopped
    contradiction
  case h_1.isFalse.refl hrunning =>
    refine .of_threadless (hany.trans ?_)
    exact hs.1 r hr (by simpa using hrunning)
  case h_2.isTrue.isTrue.refl => exact .of_threadless rfl
  case h_2.isFalse.refl hthread =>
    exact .of_threadless (hany.trans (by simpa using hthread))
  case h_3.refl => exact .of_threadless (hany.symm.trans hstage)
  case h_4.refl => exact .of_threadless rfl

theorem ReceiverInv.cleanNext {s t : State} {c : MainChoice} (hs : ReceiverInv s)
    (h : cleanNext s c = some t) : ReceiverInv t := by
  unfold Pipeline.cleanNext at h
  split at h <;> rename_i hpc
  all_goals try split at h
  all_goals try split at h
  all_goals cases h
  all_goals try exact ⟨hs.1, trivial⟩
  rename_i c
  cases c with
  | stop f | start f => cases f <;> exact ⟨hs.1, trivial⟩
  | poll => exact ⟨hs.1, trivial⟩

theorem ReceiverInv.startNext {s t : State} {c : MainChoice} (hs : ReceiverInv s)
    (h : startNext s c = some t) : ReceiverInv t := by
  unfold Pipeline.startNext at h
  split at h <;> rename_i hpc
  all_goals try split at h
  all_goals try contradiction
  all_goals cases h
  all_goals try exact ⟨hs.1, trivial⟩
  all_goals try exact .of_threadless rfl
  case h_1.isTrue.refl => cases ‹StartFor› <;> exact ⟨hs.1, trivial⟩
  case h_5.refl =>
    refine ⟨fun u hu hstopped => ?_, trivial⟩
    obtain ⟨r, -, rfl⟩ := Option.map_eq_some_iff.mp hu
    contradiction
  case h_22.refl => cases ‹StartFor› <;> exact ⟨hs.1, trivial⟩

/-- The receivers before and after a step agree on `running` and the handle. -/
theorem ReceiverInv.congr {s t : State} (hs : ReceiverInv s) (hpc : t.mainPc = s.mainPc)
    (hthread : t.udpReceiver.map Receiver.thread = s.udpReceiver.map Receiver.thread)
    (hrunning : t.udpReceiver.map Receiver.running = s.udpReceiver.map Receiver.running) :
    ReceiverInv t := by
  have hany : t.udpReceiver.any Receiver.thread = s.udpReceiver.any Receiver.thread := by
    cases ht : t.udpReceiver <;> cases hsr : s.udpReceiver <;> simp_all
  refine ⟨fun u hu hstopped => ?_, ?_⟩
  · rw [hu, Option.map_some] at hthread hrunning
    obtain ⟨r, hr, hsame⟩ := Option.map_eq_some_iff.mp hthread.symm
    rw [hr, Option.map_some, Option.some.injEq] at hrunning
    rw [← hsame]
    exact hs.1 r hr (hrunning.symm.trans hstopped)
  · rw [hpc, hany]
    exact hs.2

/-- A step of any thread keeps the invariant of the receiver. -/
theorem ReceiverInv.next {s t : State} {a : Act} (hs : ReceiverInv s) (h : next s a = some t) :
    ReceiverInv t := by
  cases a with
  | main c =>
      rcases mainNext_cases h with hloop | hstop | ⟨r, hr, hudp⟩ | hclean | hstart
      · exact hs.loopNext hloop
      · exact hs.stopNext hstop
      · exact hs.udpNext hr hudp
      · exact hs.cleanNext hclean
      · exact hs.startNext hstart
  | bus c =>
      obtain ⟨-, -, -, pc, flag, stop, error, rfl, -⟩ := busNext_frame h
      exact hs
  | appsink c =>
      obtain ⟨-, -, pc, flag, rfl⟩ := appsinkNext_frame h
      exact hs
  | receiver c =>
      obtain ⟨r, u, hr, hu, rfl⟩ := receiverNext_frame h
      obtain ⟨hrunning, hthread⟩ := receiver_handle hu
      exact hs.congr rfl (by simp [hr, hthread]) (by simp [hr, hrunning])
  | frame c =>
      obtain ⟨vd, -, rfl⟩ := frameNext_frame h
      exact hs
  | display c =>
      obtain ⟨vd, -, rfl⟩ := displayNext_frame h
      exact hs
  | gst c =>
      simp only [Pipeline.next, gstNext] at h
      split at h
      · cases c with
        | stall =>
            cases h
            exact hs
        | consume =>
            cases h
            refine hs.congr rfl ?_ ?_ <;> cases s.udpReceiver <;> rfl
      · contradiction

/-! ## All invariants together -/

/-- The invariants of the threads and the fields. -/
structure PipelineInv (s : State) : Prop where
  bus : BusInv s
  appsink : AppsinkInv s
  fields : FieldsInv s
  starting : s.mainPc.inStart = true → s.state = .stopped
  decoder : DecoderInv s
  receiver : ReceiverInv s

/-- Only the main thread writes `ps->state`. -/
theorem next_state {s t : State} {a : Act} (h : next s a = some t) :
    (∃ c, a = .main c ∧ mainNext s c = some t) ∨
      t.mainPc = s.mainPc ∧ t.state = s.state := by
  cases a with
  | main c => exact .inl ⟨c, rfl, h⟩
  | bus c =>
      obtain ⟨-, -, -, pc, flag, stop, error, rfl, -⟩ := busNext_frame h
      exact .inr ⟨rfl, rfl⟩
  | appsink c =>
      obtain ⟨-, -, pc, flag, rfl⟩ := appsinkNext_frame h
      exact .inr ⟨rfl, rfl⟩
  | receiver c =>
      obtain ⟨r, u, -, -, rfl⟩ := receiverNext_frame h
      exact .inr ⟨rfl, rfl⟩
  | frame c =>
      obtain ⟨vd, -, rfl⟩ := frameNext_frame h
      exact .inr ⟨rfl, rfl⟩
  | display c =>
      obtain ⟨vd, -, rfl⟩ := displayNext_frame h
      exact .inr ⟨rfl, rfl⟩
  | gst c =>
      obtain ⟨-, p, u, rfl, -⟩ := gstNext_frame h
      exact .inr ⟨rfl, rfl⟩

/-- A step of any thread keeps the three invariants together. -/
theorem PipelineInv.next {s t : State} {a : Act} (hs : PipelineInv s)
    (h : next s a = some t) : PipelineInv t := by
  refine ⟨hs.bus.next h, hs.appsink.next h, hs.fields.next hs.starting h, ?_,
    hs.decoder.next hs.fields h, hs.receiver.next h⟩
  intro hin
  rcases next_state h with ⟨c, -, hmain⟩ | ⟨hpc, hstate⟩
  · exact inStart_mainNext hs.starting hmain hin
  · rw [hpc] at hin
    rw [hstate]
    exact hs.starting hin

end Pipeline
end PixelPilot
