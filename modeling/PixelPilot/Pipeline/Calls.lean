import PixelPilot.Library.Ledger
import PixelPilot.Pipeline.EnableRecording
import PixelPilot.Pipeline.Fields
import PixelPilot.Pipeline.Start

/-!
# Sequences of calls

One thread calls `pipeline_start`, `pipeline_stop`, `pipeline_poll_child`,
`pipeline_enable_recording` and `pipeline_disable_recording` in any order, while the
threads of the pipeline run.  A log records which threads were created and joined, and
numbers tell which start they belong to and which pipeline a flag was raised for.

Main results:

- Definition `calls`: the transition system of all such sequences.
- Theorem `threadStep`: a step creates a thread that does not exist, joins one that
  does, or leaves all threads alone.
- Theorem `calls_contract`: what holds of `ps` after each call, that every thread has
  been joined once before the next start, and whose flags a thread can see.

Current gaps:

- The calls on the recorder are single steps; `Pipeline.SharedRecorder` has their
  critical sections.
-/

namespace PixelPilot
namespace Pipeline

open Transition

/-! ## The threads of a pipeline -/

/-- The thread exists: it was created and not joined yet. -/
def State.alive (s : State) : PipelineThread → Bool
  | .receiver => s.udpReceiver.any Receiver.thread
  | .frame => s.vd.framePc != .absent
  | .display => s.vd.displayPc != .absent
  | .appsink => s.appsinkPc != .absent
  | .bus => s.busPc != .absent

/-- The thread that a step of the main thread joins, if it exists. -/
def MainPc.joinedThread : MainPc → Option PipelineThread
  | .pollJoin | .stopBusJoin _ | .cleanBusJoin _ => some .bus
  | .stopAppsinkJoin _ | .cleanAppsinkJoin _ => some .appsink
  | .udpJoin _ => some .receiver
  | .startDisplayFail _ | .decoderJoinFrame _ _ => some .frame
  | .decoderJoinDisplay _ _ => some .display
  | _ => none

/-- The thread that a step of the main thread creates, if the call succeeds. -/
def MainPc.createdThread : MainPc → Option PipelineThread
  | .startUdp _ => some .receiver
  | .startFrame _ => some .frame
  | .startDisplay _ => some .display
  | .startAppsink _ => some .appsink
  | .startBus _ => some .bus
  | _ => none

/-- The creation or the join that a step performs. -/
def State.threadEvent (s : State) : Act → Option (Ledger.Event PipelineThread)
  | .main .go =>
      match s.mainPc.createdThread with
      | some k => some (.acquired k)
      | none => (s.mainPc.joinedThread.filter fun k => s.alive k).map .released
  | _ => none

/-- What a step does to the threads of the pipeline. -/
inductive ThreadStep (s t : State) : Option (Ledger.Event PipelineThread) → Prop
  | quiet (halive : ∀ k, t.alive k = s.alive k) : ThreadStep s t none
  | created (k : PipelineThread) (hnew : s.alive k = false) (hk : t.alive k = true)
      (hothers : ∀ j, j ≠ k → t.alive j = s.alive j) : ThreadStep s t (some (.acquired k))
  | joined (k : PipelineThread) (hold : s.alive k = true) (hk : t.alive k = false)
      (hothers : ∀ j, j ≠ k → t.alive j = s.alive j) : ThreadStep s t (some (.released k))

/-- A step that creates and joins no thread. -/
theorem threadStep_quiet {s t : State} {c : MainChoice} (hcreated : s.mainPc.createdThread = none)
    (hjoined : s.mainPc.joinedThread = none) (halive : ∀ k, t.alive k = s.alive k) :
    ThreadStep s t (s.threadEvent (.main c)) := by
  have hevent : s.threadEvent (.main c) = none := by
    cases c <;> simp [State.threadEvent, hcreated, hjoined]
  rw [hevent]
  exact .quiet halive

/-- A call that was to create a thread and failed. -/
theorem threadStep_fail {s t : State} (halive : ∀ k, t.alive k = s.alive k) :
    ThreadStep s t (s.threadEvent (.main .fail)) :=
  .quiet halive

/-- A step at which the main thread joins a thread, if it exists. -/
theorem threadStep_join {s t : State} {k : PipelineThread}
    (hcreated : s.mainPc.createdThread = none) (hjoined : s.mainPc.joinedThread = some k)
    (hk : t.alive k = false) (hothers : ∀ j, j ≠ k → t.alive j = s.alive j) :
    ThreadStep s t (s.threadEvent (.main .go)) := by
  cases halive : s.alive k with
  | true =>
      have hevent : s.threadEvent (.main .go) = some (.released k) := by
        simp [State.threadEvent, hcreated, hjoined, halive]
      rw [hevent]
      exact .joined k halive hk hothers
  | false =>
      have hevent : s.threadEvent (.main .go) = none := by
        simp [State.threadEvent, hcreated, hjoined, halive]
      rw [hevent]
      refine .quiet fun j => ?_
      by_cases hj : j = k
      · rw [hj, hk, halive]
      · exact hothers j hj

/-- A step at which the main thread creates a thread. -/
theorem threadStep_create {s t : State} {k : PipelineThread}
    (hcreated : s.mainPc.createdThread = some k) (hnew : s.alive k = false)
    (hk : t.alive k = true) (hothers : ∀ j, j ≠ k → t.alive j = s.alive j) :
    ThreadStep s t (s.threadEvent (.main .go)) := by
  have hevent : s.threadEvent (.main .go) = some (.acquired k) := by
    simp [State.threadEvent, hcreated]
  rw [hevent]
  exact .created k hnew hk hothers

/-- What a turn of the main loop does to the threads. -/
theorem threadStep_loopNext {s t : State} {c : MainChoice} (h : loopNext s c = some t) :
    ThreadStep s t (s.threadEvent (.main c)) := by
  unfold loopNext at h
  split at h <;> rename_i hpc
  all_goals try split at h
  all_goals try contradiction
  all_goals cases h
  case h_6.isTrue.refl =>
    exact threadStep_join (by rw [hpc]; rfl) (by rw [hpc]; rfl) rfl
      fun j hj => by cases j <;> trivial
  all_goals
    exact threadStep_quiet (by rw [hpc]; rfl) (by rw [hpc]; rfl) fun k => by cases k <;> rfl

/-- A pipeline set to NULL keeps its threads. -/
theorem alive_setNull (s : State) (f : StopFor) (k : PipelineThread) :
    State.alive { s.setNull with mainPc := .stopUdp f } k = s.alive k := by
  cases k with
  | receiver =>
      change Option.any Receiver.thread (Option.map _ s.udpReceiver) = _
      unfold State.alive
      cases s.udpReceiver <;> rfl
  | frame | display | appsink | bus => rfl

/-- What a step of `pipeline_stop` does. -/
theorem threadStep_stopNext {s t : State} {c : MainChoice} (h : stopNext s c = some t) :
    ThreadStep s t (s.threadEvent (.main c)) := by
  unfold stopNext at h
  split at h <;> rename_i hpc
  all_goals try split at h
  all_goals try contradiction
  all_goals cases h
  case h_2.refl => exact threadStep_quiet (by rw [hpc]; rfl) (by rw [hpc]; rfl) (alive_setNull s _)
  case h_5.isTrue.refl | h_9.isTrue.refl =>
    exact threadStep_join (by rw [hpc]; rfl) (by rw [hpc]; rfl) rfl
      fun j hj => by cases j <;> trivial
  all_goals
    exact threadStep_quiet (by rw [hpc]; rfl) (by rw [hpc]; rfl) fun k => by cases k <;> rfl

/-- What a step of `udp_receiver_stop` does. -/
theorem threadStep_udpNext {s t : State} {r : Receiver} {c : MainChoice} (hs : ReceiverInv s)
    (hr : s.udpReceiver = some r) (h : udpNext s r c = some t) :
    ThreadStep s t (s.threadEvent (.main c)) := by
  have halive : s.alive .receiver = r.thread := by
    simp [State.alive, hr]
  have hstage := hs.2
  unfold udpNext at h
  split at h <;> rename_i hpc
  all_goals try rw [hpc] at hstage
  all_goals try split at h
  all_goals try split at h
  all_goals cases h
  case h_2.isTrue.isTrue.refl =>
    exact threadStep_join (by rw [hpc]; rfl) (by rw [hpc]; rfl) rfl
      fun j hj => by cases j <;> trivial
  case h_2.isFalse.refl hthread =>
    refine threadStep_join (by rw [hpc]; rfl) (by rw [hpc]; rfl) ?_
      fun j hj => by cases j <;> trivial
    exact halive.trans (by simpa using hthread)
  all_goals
    refine threadStep_quiet (by rw [hpc]; rfl) (by rw [hpc]; rfl) fun k => ?_
    cases k with
    | receiver => first | exact halive.symm | exact hstage.symm | rfl
    | frame | display | appsink | bus => rfl

theorem alive_afterCleanup (s : State) (c : Cleanup) (k : PipelineThread) :
    (s.afterCleanup c).alive k = s.alive k := by
  cases c <;> cases k <;> rfl

/-- `video_decoder_stop` may wake the display thread. -/
theorem alive_stopSection (s : State) (pc : MainPc) (k : PipelineThread) :
    State.alive { s with vd := s.vd.stopSection, mainPc := pc } k = s.alive k := by
  cases k with
  | display =>
      change (Decoder.wake s.vd.displayPc != .absent) = (s.vd.displayPc != .absent)
      cases s.vd.displayPc <;> rfl
  | receiver | frame | appsink | bus => rfl

/-- What a step of `cleanup_pipeline` does. -/
theorem threadStep_cleanNext {s t : State} {c : MainChoice} (h : cleanNext s c = some t) :
    ThreadStep s t (s.threadEvent (.main c)) := by
  unfold cleanNext at h
  split at h <;> rename_i hpc
  all_goals try split at h
  all_goals try split at h
  all_goals try contradiction
  all_goals cases h
  case h_8.refl =>
    exact threadStep_quiet (by rw [hpc]; rfl) (by rw [hpc]; rfl) (alive_stopSection s _)
  case h_13.refl =>
    exact threadStep_quiet (by rw [hpc]; rfl) (by rw [hpc]; rfl) (alive_afterCleanup s _)
  case h_2.isTrue.refl | h_4.isTrue.refl | h_9.isTrue.refl | h_10.isTrue.isTrue.refl
      | h_10.isTrue.isFalse.refl =>
    exact threadStep_join (by rw [hpc]; rfl) (by rw [hpc]; rfl) rfl
      fun j hj => by cases j <;> trivial
  all_goals
    exact threadStep_quiet (by rw [hpc]; rfl) (by rw [hpc]; rfl) fun k => by cases k <;> rfl

/-- A blank pipeline has no receiver to lose. -/
theorem alive_resetFields {s : State} (hblank : Blank s) (pc : MainPc) (k : PipelineThread) :
    State.alive { s.resetFields with mainPc := pc } k = s.alive k := by
  cases k with
  | receiver =>
      have hnone : s.udpReceiver = none := by
        simpa using hblank.2.2.1 (by omega)
      simp [State.alive, State.resetFields, hnone]
  | frame | display | appsink | bus => rfl

/-- The receiver that `pipeline_start` has stored replaces none. -/
theorem alive_startElements {s : State} {f : StartFor} (hs : FieldsInv s)
    (hpc : s.mainPc = .startElements f) : s.alive .receiver = false := by
  unfold FieldsInv at hs
  rw [hpc] at hs
  have hnone : s.udpReceiver = none := by
    simpa using hs.2.2.1 (by omega)
  simp [State.alive, hnone]

/-- Inside `pipeline_start` there is no bus thread before it is created. -/
theorem bus_absent {s : State} {f : StartFor} (hs : BusInv s) (hpc : s.mainPc = .startBus f) :
    s.busPc = .absent := by
  have hstopped := hs.starting (by rw [hpc]; rfl)
  refine (hs.stopped hstopped).resolve_right ?_
  rw [hpc]
  simp

/-- What a step of `pipeline_start` does. -/
theorem threadStep_startNext {s t : State} {c : MainChoice} (hs : PipelineInv s)
    (h : startNext s c = some t) : ThreadStep s t (s.threadEvent (.main c)) := by
  have hdecoder := hs.decoder.2
  have hreceiver := hs.receiver.2
  unfold startNext at h
  split at h <;> rename_i hpc
  all_goals try rw [hpc] at hdecoder hreceiver
  all_goals try split at h
  all_goals try contradiction
  all_goals cases h
  case h_1.isFalse.refl hstate =>
    have hblank := (hs.fields.between (by rw [hpc]; rfl)).2.1 (not_not.mp hstate)
    exact threadStep_quiet (by rw [hpc]; rfl) (by rw [hpc]; rfl) (alive_resetFields hblank _)
  case h_3.refl =>
    refine threadStep_quiet (by rw [hpc]; rfl) (by rw [hpc]; rfl) fun k => ?_
    cases k with
    | receiver => exact (alive_startElements hs.fields hpc).symm
    | frame | display | appsink | bus => rfl
  case h_5.refl =>
    have hsome := ((hs.fields.built (by rw [hpc]; rfl) (by rw [hpc]; simp)).1
      (by rw [hpc]; simp)).2.2
    obtain ⟨r, hr⟩ := Option.isSome_iff_exists.mp hsome
    have hnew : s.alive .receiver = false := hreceiver
    refine threadStep_create (by rw [hpc]; rfl) hnew ?_ fun j hj => by cases j <;> trivial
    simp [State.alive, hr]
  case h_11.refl =>
    have hthreadless := hs.decoder.1 hdecoder
    refine threadStep_quiet (by rw [hpc]; rfl) (by rw [hpc]; rfl) fun k => ?_
    cases k with
    | frame => simp [State.alive, hthreadless.1, decoderInit]
    | display => simp [State.alive, hthreadless.2, decoderInit]
    | receiver | appsink | bus => rfl
  case h_13.refl =>
    exact threadStep_create (by rw [hpc]; rfl) (by simp [State.alive, hdecoder.2.1]) rfl
      fun j hj => by cases j <;> trivial
  case h_15.refl =>
    exact threadStep_create (by rw [hpc]; rfl) (by simp [State.alive, hdecoder.2]) rfl
      fun j hj => by cases j <;> trivial
  case h_16.isTrue.refl =>
    exact threadStep_join (by rw [hpc]; rfl) (by rw [hpc]; rfl) rfl
      fun j hj => by cases j <;> trivial
  case h_19.refl =>
    have habsent := hs.appsink.gone (by rw [hpc]; rfl)
    exact threadStep_create (by rw [hpc]; rfl) (by simp [State.alive, habsent]) rfl
      fun j hj => by cases j <;> trivial
  case h_21.refl =>
    have habsent := bus_absent hs.bus hpc
    exact threadStep_create (by rw [hpc]; rfl) (by simp [State.alive, habsent]) rfl
      fun j hj => by cases j <;> trivial
  case h_4.refl | h_12.refl | h_14.refl | h_18.refl | h_20.refl =>
    exact threadStep_fail fun k => by cases k <;> rfl
  all_goals
    exact threadStep_quiet (by rw [hpc]; rfl) (by rw [hpc]; rfl) fun k => by cases k <;> rfl

/-- Two control points of which both or none are the same third one. -/
theorem bne_congr {α : Type} [DecidableEq α] {a b c : α} (h : a = c ↔ b = c) :
    (a != c) = (b != c) := by
  rw [Bool.eq_iff_iff]
  simp [h]

/-- The threads of the pipeline create and join nothing themselves. -/
theorem threadStep_other {s t : State} {a : Act} (h : next s a = some t)
    (ha : ∀ c, a ≠ .main c) : ThreadStep s t (s.threadEvent a) := by
  cases a with
  | main c => exact absurd rfl (ha c)
  | bus c =>
      obtain ⟨hbefore, -, hafter, pc, flag, stop, error, rfl, -⟩ := busNext_frame h
      refine .quiet fun k => ?_
      cases k with
      | bus => exact bne_congr (by simp [hbefore, hafter])
      | receiver | frame | display | appsink => rfl
  | appsink c =>
      obtain ⟨hbefore, hafter, pc, flag, rfl⟩ := appsinkNext_frame h
      refine .quiet fun k => ?_
      cases k with
      | appsink => exact bne_congr (by simp [hbefore, hafter])
      | receiver | frame | display | bus => rfl
  | receiver c =>
      obtain ⟨r, u, hr, hu, rfl⟩ := receiverNext_frame h
      refine .quiet fun k => ?_
      cases k with
      | receiver => simp [State.alive, hr, (receiver_handle hu).2]
      | frame | display | appsink | bus => rfl
  | frame c =>
      obtain ⟨vd, hvd, rfl⟩ := frameNext_frame h
      have hframe := decoder_frame_alive hvd
      have hdisplay := decoder_frame_display hvd
      refine .quiet fun k => ?_
      cases k with
      | frame => exact bne_congr (by simp [hframe])
      | display => exact bne_congr hdisplay
      | receiver | appsink | bus => rfl
  | display c =>
      obtain ⟨vd, hvd, rfl⟩ := displayNext_frame h
      have hdisplay := decoder_display_alive hvd
      refine .quiet fun k => ?_
      cases k with
      | frame => simp [State.alive, decoder_display_frame hvd]
      | display => exact bne_congr (by simp [hdisplay])
      | receiver | appsink | bus => rfl
  | gst c =>
      simp only [next, gstNext] at h
      split at h
      · cases c with
        | stall =>
            cases h
            exact .quiet fun k => by cases k <;> rfl
        | consume =>
            cases h
            refine .quiet fun k => ?_
            cases k with
            | receiver => cases hr : s.udpReceiver <;> simp [State.alive, hr]
            | frame | display | appsink | bus => rfl
      · contradiction

/-- A step creates a thread that does not exist, joins one that does, or leaves all
threads alone. -/
theorem threadStep {s t : State} {a : Act} (hs : PipelineInv s) (h : next s a = some t) :
    ThreadStep s t (s.threadEvent a) := by
  by_cases ha : ∃ c, a = .main c
  · obtain ⟨c, rfl⟩ := ha
    rcases mainNext_cases h with hloop | hstop | ⟨r, hr, hudp⟩ | hclean | hstart
    · exact threadStep_loopNext hloop
    · exact threadStep_stopNext hstop
    · exact threadStep_udpNext hs.receiver hr hudp
    · exact threadStep_cleanNext hclean
    · exact threadStep_startNext hs hstart
  · exact threadStep_other h fun c hc => ha ⟨c, hc⟩

/-! ## Calls -/

/-- Outside the calls: before the first one, or after one has returned. -/
@[simp]
def MainPc.idle : MainPc → Bool
  | .loop | .checkStopped | .exited => true
  | _ => false

/-- `ps` with its recorder, and what happened so far: how many calls of
`pipeline_start` were not refused, which of them created a thread, the creations and
joins, and for which start `stop_requested` and `encountered_error` were last set. -/
structure Calls where
  ps : State
  recording : Recording
  starts : Nat := 0
  startOf : PipelineThread → Nat := fun _ => 0
  threads : List (Ledger.Event (Nat × PipelineThread)) := []
  stopFor : Nat := 0
  errorFor : Nat := 0

/-- A call, or a step of the program while no call begins. -/
inductive CallAct
  | start
  | stop
  | poll
  /-- A call on the recorder, by the caller, the appsink thread or `cleanup_pipeline`. -/
  | record (call : Call)
  | step (a : Act)

/-- The number of starts after a step: only a start of a stopped pipeline counts. -/
def Calls.startsAfter (c : Calls) : Act → Nat
  | .main .go =>
      match c.ps.mainPc with
      | .startEnter _ => if c.ps.state = .stopped then c.starts + 1 else c.starts
      | _ => c.starts
  | _ => c.starts

/-- For which start a step sets `stop_requested`: `pipeline_stop` stops the last one,
the bus thread the one that created it. -/
def Calls.stopForAfter (c : Calls) : Act → Nat
  | .main .go =>
      match c.ps.mainPc with
      | .stopEnter _ => if c.ps.state = .stopped then c.stopFor else c.starts
      | _ => c.stopFor
  | .bus .go =>
      match c.ps.busPc with
      | .onError | .onEos => c.startOf .bus
      | _ => c.stopFor
  | _ => c.stopFor

/-- For which start a step sets `encountered_error`. -/
def Calls.errorForAfter (c : Calls) : Act → Nat
  | .bus .go =>
      match c.ps.busPc with
      | .noBus | .onError => c.startOf .bus
      | _ => c.errorFor
  | _ => c.errorFor

/-- The threads that a step creates belong to the last start, and a join is one of the
thread that was created last. -/
def Calls.log (c : Calls) : Option (Ledger.Event PipelineThread) → Calls
  | none => c
  | some (.acquired k) =>
      { c with
        startOf := fun j => if j = k then c.starts else c.startOf j
        threads := c.threads ++ [.acquired (c.starts, k)] }
  | some (.released k) => { c with threads := c.threads ++ [.released (c.startOf k, k)] }

/-- One step of the program. -/
def Calls.advance (c : Calls) (a : Act) : Option Calls :=
  (next c.ps a).map fun ps =>
    { c.log (c.ps.threadEvent a) with
      ps := ps
      starts := c.startsAfter a
      stopFor := c.stopForAfter a
      errorFor := c.errorForAfter a }

/-- At a step of the program that calls the recorder. -/
def State.recorderStep (s : State) : Act → Bool
  | .main .go =>
      match s.mainPc with
      | .cleanDone _ => true
      | _ => false
  | .appsink .go => s.appsinkPc == .record
  | _ => false

/-- One call, or one step. -/
def callsNext (c : Calls) : CallAct → Option Calls
  | .start =>
      if c.ps.mainPc.idle then some { c with ps := { c.ps with mainPc := .startEnter .first } }
      else none
  | .stop =>
      if c.ps.mainPc.idle then some { c with ps := { c.ps with mainPc := .stopEnter .exit } }
      else none
  | .poll =>
      if c.ps.mainPc.idle then some { c with ps := { c.ps with mainPc := .pollChild } }
      else none
  | .record call =>
      let recorded := { c with recording := recordingNext c.recording call }
      match call.op with
      -- `main` enables a recording only while the pipeline is running.
      | .enable _ _ =>
          if c.ps.mainPc.idle && c.ps.state == .running then some recorded else none
      | .disable => if c.ps.mainPc.idle then some recorded else none
      | .cleanup => if c.ps.recorderStep (.main .go) then recorded.advance (.main .go) else none
      | .sample _ =>
          if c.ps.recorderStep (.appsink .go) then recorded.advance (.appsink .go) else none
  | .step a =>
      if c.ps.recorderStep a then none
      else
        match a with
        | .main choice => if c.ps.mainPc.idle then none else c.advance (.main choice)
        | a => c.advance a

/-- All sequences of calls, from the `ps` that `main` sets up. -/
def calls : System Calls CallAct where
  init c := ∃ vidPt modeW modeH world,
    c = { ps := { State.initial vidPt modeW modeH with mainPc := .loop },
          recording := { recorder := none, world := world } }
  next := callsNext

/-! ## What a step does to the flags -/

/-- The main thread sets `stop_requested` only in `pipeline_stop`, and never sets
`encountered_error`. -/
theorem mainNext_flags {s t : State} {c : MainChoice} (h : mainNext s c = some t) :
    (t.stopRequested = s.stopRequested ∨ t.stopRequested = false ∨
        c = .go ∧ s.state ≠ .stopped ∧ ∃ f, s.mainPc = .stopEnter f) ∧
      (t.encounteredError = s.encounteredError ∨ t.encounteredError = false) := by
  rcases mainNext_cases h with hloop | hstop | ⟨r, -, hudp⟩ | hclean | hstart
  · unfold loopNext at hloop
    split at hloop
    all_goals try split at hloop
    all_goals cases hloop
    all_goals exact ⟨.inl rfl, .inl rfl⟩
  · unfold stopNext at hstop
    split at hstop <;> rename_i hpc
    case h_1 =>
      split at hstop
      · cases hstop
        exact ⟨.inl rfl, .inl rfl⟩
      · rename_i hstate
        cases hstop
        exact ⟨.inr (.inr ⟨rfl, hstate, _, hpc⟩), .inl rfl⟩
    all_goals try split at hstop
    all_goals cases hstop
    all_goals exact ⟨.inl rfl, .inl rfl⟩
  · unfold udpNext at hudp
    split at hudp
    all_goals try split at hudp
    all_goals try split at hudp
    all_goals cases hudp
    all_goals exact ⟨.inl rfl, .inl rfl⟩
  · unfold cleanNext at hclean
    split at hclean
    all_goals try split at hclean
    all_goals try split at hclean
    all_goals cases hclean
    case h_13.refl =>
      cases ‹Cleanup› <;> exact ⟨.inl rfl, .inl rfl⟩
    all_goals exact ⟨.inl rfl, .inl rfl⟩
  · unfold startNext at hstart
    split at hstart
    all_goals try split at hstart
    all_goals cases hstart
    case h_1.isFalse.refl => exact ⟨.inr (.inl rfl), .inr rfl⟩
    all_goals exact ⟨.inl rfl, .inl rfl⟩

/-- The bus thread sets the two flags only at the steps that the record follows. -/
theorem busNext_flags {s t : State} {c : BusChoice} (h : busNext s c = some t) :
    (t.stopRequested = s.stopRequested ∨
        c = .go ∧ (s.busPc = .onError ∨ s.busPc = .onEos)) ∧
      (t.encounteredError = s.encounteredError ∨
        c = .go ∧ (s.busPc = .noBus ∨ s.busPc = .onError)) := by
  unfold busNext at h
  split at h <;> rename_i hpc
  all_goals cases h
  all_goals simp [hpc]

/-- The bus thread and the main thread are the only ones that write the flags. -/
theorem next_flags {s t : State} {a : Act} (h : next s a = some t)
    (hmain : ∀ c, a ≠ .main c) (hbus : ∀ c, a ≠ .bus c) :
    t.stopRequested = s.stopRequested ∧ t.encounteredError = s.encounteredError := by
  cases a with
  | main c => exact absurd rfl (hmain c)
  | bus c => exact absurd rfl (hbus c)
  | appsink c =>
      obtain ⟨-, -, pc, flag, rfl⟩ := appsinkNext_frame h
      exact ⟨rfl, rfl⟩
  | receiver c =>
      obtain ⟨r, u, -, -, rfl⟩ := receiverNext_frame h
      exact ⟨rfl, rfl⟩
  | frame c =>
      obtain ⟨vd, -, rfl⟩ := frameNext_frame h
      exact ⟨rfl, rfl⟩
  | display c =>
      obtain ⟨vd, -, rfl⟩ := displayNext_frame h
      exact ⟨rfl, rfl⟩
  | gst c =>
      obtain ⟨-, p, u, rfl, -⟩ := gstNext_frame h
      exact ⟨rfl, rfl⟩

/-! ## The invariant of the calls -/

/-- The log accounts for the threads that exist, these belong to the last start, and so
does a flag that is set. -/
structure CallsInv (c : Calls) : Prop where
  pipeline : PipelineInv c.ps
  sound : Ledger.Sound (fun _ => none) c.threads
  held : ∀ r, r ∈ Ledger.held c.threads ↔ c.ps.alive r.2 = true ∧ r.1 = c.startOf r.2
  current : ∀ k, c.ps.alive k = true → c.startOf k = c.starts
  stop : c.ps.stopRequested = true → c.stopFor = c.starts
  error : c.ps.encounteredError = true → c.errorFor = c.starts

/-- A stopped pipeline has no threads, outside the calls and where a start begins. -/
theorem stopped_threadless {s : State} (hs : PipelineInv s) (hbetween : s.mainPc.between = true)
    (hstopped : s.state = .stopped) (k : PipelineThread) : s.alive k = false := by
  have hblank := (hs.fields.between hbetween).2.1 hstopped
  have hthreadless := hs.decoder.1 (hblank.2.2.2.2.2.1 (by omega))
  have hreceiver : s.udpReceiver = none := by
    simpa using hblank.2.2.1 (by omega)
  cases k with
  | receiver => simp [State.alive, hreceiver]
  | frame => simp [State.alive, hthreadless.1]
  | display => simp [State.alive, hthreadless.2]
  | appsink =>
      have habsent : s.appsinkPc = .absent := by
        have hthread := hblank.1 (by omega)
        by_contra halive
        simp [hs.appsink.handle.mpr halive] at hthread
      simp [State.alive, habsent]
  | bus =>
      have habsent : s.busPc = .absent := by
        have hthread := hblank.2.1 (by omega)
        by_contra halive
        simp [hs.bus.handle.mpr halive] at hthread
      simp [State.alive, habsent]

/-- A start is counted where it enters with the state stopped. -/
theorem startsAfter_cases (c : Calls) (a : Act) :
    c.startsAfter a = c.starts ∨
      a = .main .go ∧ c.startsAfter a = c.starts + 1 ∧ c.ps.state = .stopped ∧
        ∃ f, c.ps.mainPc = .startEnter f := by
  unfold Calls.startsAfter
  split
  · split
    · split
      · exact .inr ⟨rfl, rfl, ‹_›, _, ‹_›⟩
      · exact .inl rfl
    · exact .inl rfl
  · exact .inl rfl

/-- Whose stop request is standing. -/
theorem stopForAfter_cases (c : Calls) (a : Act) :
    c.stopForAfter a = c.stopFor ∨ c.stopForAfter a = c.starts ∨
      (∃ choice, a = .bus choice) ∧ c.stopForAfter a = c.startOf .bus := by
  unfold Calls.stopForAfter
  split
  · split
    · split <;> simp
    · simp
  · split <;> simp
  · simp

/-- Whose error is standing. -/
theorem errorForAfter_cases (c : Calls) (a : Act) :
    c.errorForAfter a = c.errorFor ∨
      (∃ choice, a = .bus choice) ∧ c.errorForAfter a = c.startOf .bus := by
  unfold Calls.errorForAfter
  split
  · split <;> simp
  · simp

/-- The thread that the bus thread's own step shows to exist. -/
theorem bus_alive {s t : State} {choice : BusChoice} (h : next s (.bus choice) = some t) :
    s.alive .bus = true := by
  simp [State.alive, (busNext_frame h).1]

/-- When `stop_requested` is set after a step that starts no pipeline, it was set for the
last start. -/
theorem CallsInv.stop_next {c : Calls} {t : State} {a : Act} (hc : CallsInv c)
    (h : next c.ps a = some t) (hstop : t.stopRequested = true) :
    c.stopForAfter a = c.starts := by
  have hbefore : c.ps.stopRequested = true → c.stopForAfter a = c.starts := by
    intro hset
    rcases stopForAfter_cases c a with hsame | hlast | ⟨⟨choice, rfl⟩, hbus⟩
    · rw [hsame, hc.stop hset]
    · exact hlast
    · rw [hbus, hc.current .bus (bus_alive h)]
  by_cases hmain : ∃ choice, a = .main choice
  · obtain ⟨choice, rfl⟩ := hmain
    rcases (mainNext_flags h).1 with hsame | hcleared | ⟨rfl, hstate, f, hpc⟩
    · exact hbefore (hsame ▸ hstop)
    · rw [hcleared] at hstop
      contradiction
    · simp [Calls.stopForAfter, hpc, hstate]
  by_cases hbus : ∃ choice, a = .bus choice
  · obtain ⟨choice, rfl⟩ := hbus
    have hcurrent := hc.current .bus (bus_alive h)
    rcases (busNext_flags h).1 with hsame | ⟨rfl, hpc | hpc⟩
    · exact hbefore (hsame ▸ hstop)
    · simp [Calls.stopForAfter, hpc, hcurrent]
    · simp [Calls.stopForAfter, hpc, hcurrent]
  · have hflags := next_flags h (fun choice ha => hmain ⟨choice, ha⟩)
      fun choice ha => hbus ⟨choice, ha⟩
    exact hbefore (hflags.1 ▸ hstop)

/-- The same for `encountered_error`. -/
theorem CallsInv.error_next {c : Calls} {t : State} {a : Act} (hc : CallsInv c)
    (h : next c.ps a = some t) (herror : t.encounteredError = true) :
    c.errorForAfter a = c.starts := by
  have hbefore : c.ps.encounteredError = true → c.errorForAfter a = c.starts := by
    intro hset
    rcases errorForAfter_cases c a with hsame | ⟨⟨choice, rfl⟩, hbus⟩
    · rw [hsame, hc.error hset]
    · rw [hbus, hc.current .bus (bus_alive h)]
  by_cases hmain : ∃ choice, a = .main choice
  · obtain ⟨choice, rfl⟩ := hmain
    rcases (mainNext_flags h).2 with hsame | hcleared
    · exact hbefore (hsame ▸ herror)
    · rw [hcleared] at herror
      contradiction
  by_cases hbus : ∃ choice, a = .bus choice
  · obtain ⟨choice, rfl⟩ := hbus
    have hcurrent := hc.current .bus (bus_alive h)
    rcases (busNext_flags h).2 with hsame | ⟨rfl, hpc | hpc⟩
    · exact hbefore (hsame ▸ herror)
    · simp [Calls.errorForAfter, hpc, hcurrent]
    · simp [Calls.errorForAfter, hpc, hcurrent]
  · have hflags := next_flags h (fun choice ha => hmain ⟨choice, ha⟩)
      fun choice ha => hbus ⟨choice, ha⟩
    exact hbefore (hflags.2 ▸ herror)

/-- A step that starts no pipeline keeps the account of the threads. -/
theorem CallsInv.log_next {c : Calls} {t : State} {e : Option (Ledger.Event PipelineThread)}
    (hc : CallsInv c) (h : ThreadStep c.ps t e) :
    Ledger.Sound (fun _ => none) (c.log e).threads ∧
      (∀ r, r ∈ Ledger.held (c.log e).threads ↔
        t.alive r.2 = true ∧ r.1 = (c.log e).startOf r.2) ∧
      (∀ k, t.alive k = true → (c.log e).startOf k = c.starts) := by
  cases h with
  | quiet halive =>
      refine ⟨hc.sound, fun r => ?_, fun k hk => ?_⟩
      · rw [halive]
        exact hc.held r
      · exact hc.current k (halive k ▸ hk)
  | created k hnew hk hothers =>
      have hfresh : (c.starts, k) ∉ Ledger.held c.threads := by
        rw [hc.held]
        simp [hnew]
      refine ⟨.concat hc.sound ⟨hfresh, fun o ho => by contradiction⟩, fun r => ?_, fun j hj => ?_⟩
      · obtain ⟨n, j⟩ := r
        simp only [Calls.log, Ledger.held_concat, Ledger.hold, Multiset.mem_cons, hc.held,
          Prod.mk.injEq]
        by_cases hj : j = k
        · subst hj
          simp [hnew, hk]
        · simp [hj, hothers j hj]
      · by_cases hjk : j = k
        · simp [Calls.log, hjk]
        · simp only [Calls.log, hjk, if_false]
          exact hc.current j (hothers j hjk ▸ hj)
  | joined k hold hk hothers =>
      have hheld : (c.startOf k, k) ∈ Ledger.held c.threads := by
        rw [hc.held]
        exact ⟨hold, rfl⟩
      refine ⟨.concat hc.sound ⟨hheld, fun o ho => by contradiction⟩, fun r => ?_, fun j hj => ?_⟩
      · obtain ⟨n, j⟩ := r
        simp only [Calls.log, Ledger.held_concat, Ledger.hold, hc.sound.nodup.mem_erase_iff,
          hc.held, ne_eq, Prod.mk.injEq]
        by_cases hj : j = k
        · subst hj
          simp only [hk, Bool.false_eq_true, false_and, iff_false]
          rintro ⟨hne, -, hn⟩
          exact hne ⟨hn, trivial⟩
        · simp [hj, hothers j hj]
      · by_cases hjk : j = k
        · rw [hjk, hk] at hj
          contradiction
        · exact hc.current j (hothers j hjk ▸ hj)

/-- Every step of the program keeps the invariant. -/
theorem CallsInv.advance {c d : Calls} {a : Act} (hc : CallsInv c)
    (h : c.advance a = some d) : CallsInv d := by
  obtain ⟨t, hnext, rfl⟩ := Option.map_eq_some_iff.mp h
  have hstep := threadStep hc.pipeline hnext
  have hpipeline := hc.pipeline.next hnext
  obtain ⟨hsound, hheld, hcurrent⟩ := hc.log_next hstep
  rcases startsAfter_cases c a with hsame | ⟨rfl, hmore, hstopped, f, hpc⟩
  · refine ⟨hpipeline, hsound, hheld, fun k hk => ?_, fun hstop => ?_, fun herror => ?_⟩
    · exact (hcurrent k hk).trans hsame.symm
    · exact (hc.stop_next hnext hstop).trans hsame.symm
    · exact (hc.error_next hnext herror).trans hsame.symm
  · -- A start of a stopped pipeline: no thread is left, and both flags are cleared.
    have ht : t = { c.ps.resetFields with mainPc := .startElements f } := by
      simpa [next, mainNext, startNext, hpc, hstopped] using hnext.symm
    subst ht
    have hblank := (hc.pipeline.fields.between (by rw [hpc]; rfl)).2.1 hstopped
    have hnone := stopped_threadless hc.pipeline (by rw [hpc]; rfl) hstopped
    refine ⟨hpipeline, hsound, hheld, fun k hk => ?_, fun hstop => ?_, fun herror => ?_⟩
    · rw [alive_resetFields hblank, hnone] at hk
      contradiction
    · contradiction
    · contradiction

/-! ## Calls keep the invariant -/

/-- The main thread enters a call. -/
theorem PipelineInv.enter {s : State} {pc : MainPc} (hs : PipelineInv s)
    (hidle : s.mainPc.idle = true)
    (hpc : pc = .startEnter .first ∨ pc = .stopEnter .exit ∨ pc = .pollChild) :
    PipelineInv { s with mainPc := pc } := by
  have hbetween : Between s := by
    refine hs.fields.between ?_
    cases hmain : s.mainPc <;> simp_all
  have hbus : s.mainPc.busStarted = false := by
    cases hmain : s.mainPc <;> simp_all
  have happsink : s.mainPc.appsinkStarted = false := by
    cases hmain : s.mainPc <;> simp_all
  obtain ⟨bus, appsink, fields, starting, decoder, receiver⟩ := hs
  rcases hpc with rfl | rfl | rfl
  all_goals
    refine ⟨?_, ?_, hbetween, fun hin => by contradiction, ⟨decoder.1, trivial⟩,
      ⟨receiver.1, trivial⟩⟩
    · refine ⟨bus.handle, bus.flag, fun hpoll => by contradiction, fun hstopped => ?_,
        fun hgone => by contradiction, fun hin => by contradiction⟩
      exact .inl ((bus.stopped hstopped).resolve_right (by rw [hbus]; simp))
    · refine ⟨appsink.handle, appsink.alive, fun hbuilt => by contradiction,
        fun hallocated => by contradiction, fun hgone => by contradiction, fun hstopped => ?_⟩
      exact .inl ((appsink.stopped hstopped).resolve_right (by rw [happsink]; simp))

theorem CallsInv.enter {c : Calls} {pc : MainPc} (hc : CallsInv c)
    (hidle : c.ps.mainPc.idle = true)
    (hpc : pc = .startEnter .first ∨ pc = .stopEnter .exit ∨ pc = .pollChild) :
    CallsInv { c with ps := { c.ps with mainPc := pc } } := by
  have halive : ∀ k, State.alive { c.ps with mainPc := pc } k = c.ps.alive k := by
    intro k
    cases k <;> rfl
  refine ⟨hc.pipeline.enter hidle hpc, hc.sound, fun r => ?_, fun k hk => ?_, hc.stop, hc.error⟩
  · simp only [halive]
    exact hc.held r
  · exact hc.current k (halive k ▸ hk)

/-- The recorder is no part of the invariant. -/
theorem CallsInv.record {c : Calls} (hc : CallsInv c) (r : Recording) :
    CallsInv { c with recording := r } :=
  ⟨hc.pipeline, hc.sound, hc.held, hc.current, hc.stop, hc.error⟩

/-- A step keeps the invariant. -/
theorem CallsInv.next {c d : Calls} {a : CallAct} (hc : CallsInv c)
    (h : callsNext c a = some d) : CallsInv d := by
  unfold callsNext at h
  split at h
  case h_1 | h_2 | h_3 =>
    split at h
    · rename_i hidle
      cases h
      exact hc.enter hidle (by simp)
    · contradiction
  case h_4 =>
    split at h
    all_goals split at h
    all_goals try contradiction
    · cases h
      exact hc.record _
    · cases h
      exact hc.record _
    · exact (hc.record _).advance h
    · exact (hc.record _).advance h
  case h_5 =>
    split at h
    · contradiction
    · split at h
      · split at h
        · contradiction
        · exact hc.advance h
      · exact hc.advance h

/-- In every run of calls the invariant holds. -/
theorem callsInv {c : Calls} (h : calls.Reachable c) : CallsInv c := by
  refine h.invariant CallsInv ?_ ?_
  · rintro c ⟨vidPt, modeW, modeH, world, rfl⟩
    have hnone : ∀ k, State.alive { State.initial vidPt modeW modeH with mainPc := .loop } k =
        false := by
      intro k
      cases k <;> rfl
    refine ⟨⟨?_, ?_, ?_, ?_, ?_, ?_⟩, .nil, fun r => ?_, fun k hk => ?_, ?_, ?_⟩
    · constructor <;> simp [State.initial]
    · constructor <;> simp [State.initial]
    · refine ⟨by simp [State.initial], fun _ => ?_, fun hrun => by contradiction⟩
      simp [Cleaned, State.initial]
    · intro hin
      contradiction
    · exact ⟨fun _ => ⟨rfl, rfl⟩, trivial⟩
    · exact ⟨fun r hr => by contradiction, trivial⟩
    · simp [hnone]
    · simp [hnone] at hk
    · intro hstop
      contradiction
    · intro herror
      contradiction
  · intro c d a hc _ hnext
    exact hc.next hnext

/-! ## The recorder -/

/-- The pipeline becomes stopped only where `cleanup_pipeline` has freed the recorder. -/
theorem mainNext_stopped {s t : State} {c : MainChoice} (h : mainNext s c = some t)
    (ht : t.state = .stopped) :
    s.state = .stopped ∨ c = .go ∧ s.recorderStep (.main .go) = true := by
  rcases mainNext_cases h with hloop | hstop | ⟨r, -, hudp⟩ | hclean | hstart
  · unfold loopNext at hloop
    split at hloop
    all_goals try split at hloop
    all_goals cases hloop
    all_goals exact .inl ht
  · unfold stopNext at hstop
    split at hstop
    all_goals try split at hstop
    all_goals cases hstop
    all_goals first | exact .inl ht | contradiction
  · unfold udpNext at hudp
    split at hudp
    all_goals try split at hudp
    all_goals try split at hudp
    all_goals cases hudp
    all_goals exact .inl ht
  · unfold cleanNext at hclean
    split at hclean <;> rename_i hpc
    all_goals try split at hclean
    all_goals try split at hclean
    all_goals cases hclean
    case h_13.refl => exact .inr ⟨rfl, by simp [State.recorderStep, hpc]⟩
    all_goals exact .inl ht
  · unfold startNext at hstart
    split at hstart
    all_goals try split at hstart
    all_goals cases hstart
    all_goals first | exact .inl ht | contradiction

theorem cleanupRecorder_recorder (s : Recording) : (cleanupRecorder s).recorder = none := by
  unfold cleanupRecorder
  split
  · assumption
  · rfl

/-- A stopped pipeline has no recorder. -/
def RecorderInv (c : Calls) : Prop :=
  c.ps.state = .stopped → c.recording.recorder = none

/-- A step of the program that does not call the recorder. -/
theorem RecorderInv.advance {c d : Calls} {a : Act} (hc : RecorderInv c)
    (hstep : c.ps.recorderStep a = true → c.recording.recorder = none)
    (h : c.advance a = some d) : RecorderInv d := by
  obtain ⟨t, hnext, rfl⟩ := Option.map_eq_some_iff.mp h
  intro ht
  have hrecording : (c.log (c.ps.threadEvent a)).recording = c.recording := by
    unfold Calls.log
    split <;> rfl
  rw [hrecording]
  rcases next_state hnext with ⟨choice, rfl, hmain⟩ | ⟨-, hstate⟩
  · rcases mainNext_stopped hmain ht with hstopped | ⟨rfl, hcleanup⟩
    · exact hc hstopped
    · exact hstep hcleanup
  · exact hc (hstate.symm.trans ht)

/-- A step keeps the invariant of the recorder. -/
theorem RecorderInv.next {c d : Calls} {a : CallAct} (hc : RecorderInv c)
    (h : callsNext c a = some d) : RecorderInv d := by
  unfold callsNext at h
  split at h
  case h_1 | h_2 | h_3 =>
    split at h
    · cases h
      exact hc
    · contradiction
  case h_4 call =>
    split at h <;> rename_i hop
    all_goals split at h <;> rename_i hwhen
    all_goals try contradiction
    · cases h
      intro hstopped
      simp only [Bool.and_eq_true, beq_iff_eq] at hwhen
      rw [hwhen.2] at hstopped
      contradiction
    · cases h
      intro _
      simp only [recordingNext, hop]
      exact cleanupRecorder_recorder _
    · have hnone : (recordingNext c.recording call).recorder = none := by
        simp only [recordingNext, hop]
        exact cleanupRecorder_recorder _
      have hafter : RecorderInv { c with recording := recordingNext c.recording call } :=
        fun _ => hnone
      exact hafter.advance (fun _ => hnone) h
    · have hkept : c.recording.recorder = none →
          (recordingNext c.recording call).recorder = none := by
        intro hnone
        simp only [recordingNext, hop, handleRecorderSample, Recording.before, hnone]
      have hafter : RecorderInv { c with recording := recordingNext c.recording call } :=
        fun hstopped => hkept (hc hstopped)
      obtain ⟨t, hnext, rfl⟩ := Option.map_eq_some_iff.mp h
      intro ht
      rcases next_state hnext with ⟨choice, ha, -⟩ | ⟨-, hstate⟩
      · contradiction
      · exact hafter (hstate.symm.trans ht)
  case h_5 =>
    split at h
    · contradiction
    · rename_i hquiet
      split at h
      · split at h
        · contradiction
        · exact hc.advance (fun hstep => absurd hstep hquiet) h
      · exact hc.advance (fun hstep => absurd hstep hquiet) h

/-- In every run of calls a stopped pipeline has no recorder. -/
theorem recorderInv {c : Calls} (h : calls.Reachable c) : RecorderInv c := by
  refine h.invariant RecorderInv ?_ ?_
  · rintro c ⟨vidPt, modeW, modeH, world, rfl⟩ _
    rfl
  · intro c d a hc _ hnext
    exact hc.next hnext

/-! ## The contract of the calls -/

/-- What a caller finds in `ps` when a call has returned. -/
structure Returned (c : Calls) : Prop where
  settled : c.ps.state = .stopped ∨ c.ps.state = .running
  stopped : c.ps.state = .stopped → c.ps.pipeline = none ∧ c.ps.appsink = false ∧
    c.ps.udpReceiver = none ∧ c.ps.busThread = false ∧ c.ps.appsinkThread = false ∧
    c.ps.decoder = false ∧ c.recording.recorder = none ∧ c.ps.decoderInitialized = false ∧
    c.ps.decoderRunning = false
  running : c.ps.state = .running → c.ps.pipeline.isSome = true ∧ c.ps.appsink = true ∧
    c.ps.udpReceiver.isSome = true ∧ c.ps.decoder = true ∧ c.ps.appsinkThread = true ∧
    c.ps.decoderRunning = true

/-- Every thread that a start created has been joined, as often as it was created. -/
def AllJoined (c : Calls) : Prop :=
  ∀ r, c.threads.count (.released r) = c.threads.count (.acquired r)

/-- The flags were not set for an earlier start than the one that created the thread. -/
def OwnFlags (c : Calls) (k : PipelineThread) : Prop :=
  (c.ps.stopRequested = true → c.stopFor = c.startOf k) ∧
    (c.ps.encounteredError = true → c.errorFor = c.startOf k)

/-- Where a call has returned the contract holds. -/
theorem CallsInv.returned {c : Calls} (hc : CallsInv c) (hrec : RecorderInv c)
    (hidle : c.ps.mainPc.idle = true) : Returned c := by
  obtain ⟨hsettled, hblank, hcomplete⟩ : Between c.ps := by
    refine hc.pipeline.fields.between ?_
    cases hmain : c.ps.mainPc <;> simp_all
  refine ⟨?_, fun hstopped => ?_, fun hrunning => ?_⟩
  · cases hstate : c.ps.state with
    | stopped => exact .inl rfl
    | running => exact .inr rfl
    | stopping => exact absurd hstate hsettled
  · have hrecorder := hrec hstopped
    have hcleaned := hblank hstopped
    simp only [Cleaned, Nat.reduceLeDiff, true_imp_iff, Option.isSome_eq_false_iff,
      Option.isNone_iff_eq_none] at hcleaned
    obtain ⟨hthread, hbus, hreceiver, ⟨hpipeline, happsink⟩, hrun, hinit, hdecoder⟩ := hcleaned
    exact ⟨hpipeline, happsink, hreceiver, hbus, hthread, hdecoder, hrecorder, hinit, hrun⟩
  · have hbuilt := hcomplete hrunning
    simp only [Built, Nat.reduceLeDiff, true_imp_iff] at hbuilt
    obtain ⟨⟨hpipeline, happsink, hreceiver⟩, hdecoder, hrun, hthread⟩ := hbuilt
    exact ⟨hpipeline, happsink, hreceiver, hdecoder, hthread, hrun⟩

/-- With no thread left, every creation has had its join. -/
theorem CallsInv.allJoined {c : Calls} (hc : CallsInv c)
    (hbetween : c.ps.mainPc.between = true) (hstopped : c.ps.state = .stopped) :
    AllJoined c := by
  have hnone : Ledger.held c.threads = 0 := by
    rw [Multiset.eq_zero_iff_forall_notMem]
    intro r hr
    rw [hc.held, stopped_threadless hc.pipeline hbetween hstopped] at hr
    exact Bool.false_ne_true hr.1
  have haccounts : Ledger.Accounts (fun _ => none) c.threads 0 := ⟨hc.sound, hnone⟩
  exact haccounts.released_once

/-- In every run of calls: `ps` is as described after each call; threads are created
only while they do not exist and joined only while they do; all are joined when a
stopped pipeline is started; and a thread that exists never finds a flag of an earlier
pipeline. -/
theorem calls_contract (c : Calls) (h : calls.Reachable c) :
    (c.ps.mainPc.idle = true → Returned c) ∧
      Ledger.Sound (fun _ => none) c.threads ∧
      (∀ f, c.ps.mainPc = .startEnter f → c.ps.state = .stopped → AllJoined c) ∧
      (∀ k, c.ps.alive k = true → OwnFlags c k) := by
  have hc := callsInv h
  refine ⟨fun hidle => hc.returned (recorderInv h) hidle, hc.sound, ?_, ?_⟩
  · intro f hpc hstopped
    exact hc.allJoined (by rw [hpc]; rfl) hstopped
  · intro k hk
    have hcurrent := hc.current k hk
    exact ⟨fun hstop => (hc.stop hstop).trans hcurrent.symm,
      fun herror => (hc.error herror).trans hcurrent.symm⟩

/-! ## A run of calls -/

/-- Steps of the program during a call. -/
def steps (as : List Act) : List CallAct :=
  as.map .step

/-- A start in which every call succeeds, and one whose elements cannot be created. -/
def startCalls : List CallAct :=
  .start :: steps startSchedule

def failedStartCalls : List CallAct :=
  .start :: steps ([Act.main .go, .main .fail] ++ List.replicate 7 (Act.main .go)) ++
    [CallAct.record { op := .cleanup }]

/-- The threads run up to their loops, and the pipeline is stopped. -/
def stopCalls : List CallAct :=
  steps [.bus .go, .bus .go, .appsink .go, .appsink .go, .receiver .go] ++
  CallAct.stop :: steps (List.replicate 4 (Act.main .go) ++ [Act.receiver .go] ++
    List.replicate 3 (Act.main .go) ++ List.replicate 3 (Act.appsink .go) ++
    List.replicate 2 (Act.main .go) ++ List.replicate 3 (Act.bus .go) ++
    List.replicate 10 (Act.main .go) ++
    [Act.frame .go, .frame .go, .main .go, .display .go] ++
    List.replicate 6 (Act.main .go)) ++
  [CallAct.record { op := .cleanup }]

/-- A pipeline is started, records, and is stopped; a start fails; the next one succeeds,
and its bus thread reports an error. -/
def callsSchedule : List CallAct :=
  startCalls ++ [.record (enableAt .sequential Recorder.noon)] ++ stopCalls ++ failedStartCalls ++
    startCalls ++ [.step (.bus .go), .step (.bus .go), .step (.bus .error), .step (.bus .go)]

theorem calls_contract_restart :
    ∃ c, (c.ps.mainPc.idle = true ∧ c.ps.state = .running ∧ c.starts = 3 ∧
        c.ps.alive .bus = true ∧ c.ps.encounteredError = true) ∧
      Returned c ∧ OwnFlags c .bus := by
  have hrun : (calls.exec
      { ps := { State.initial 97 1920 1080 with mainPc := .loop },
        recording := { recorder := none, world := {} } } callsSchedule).any
      (fun c => c.ps.mainPc.idle && c.ps.state == .running && c.starts == 3 &&
        c.ps.alive .bus && c.ps.encounteredError) = true := by
    decide +kernel
  obtain ⟨c, hexec, hc⟩ := (Option.any_eq_true _ _).mp hrun
  simp only [Bool.and_eq_true, beq_iff_eq, and_assoc] at hc
  have hreach : calls.Reachable c := System.reachable_of_exec ⟨97, 1920, 1080, {}, rfl⟩ hexec
  obtain ⟨hreturned, -, -, hflags⟩ := calls_contract c hreach
  exact ⟨c, hc, hreturned hc.1, hflags .bus hc.2.2.2.1⟩

end Pipeline
end PixelPilot
