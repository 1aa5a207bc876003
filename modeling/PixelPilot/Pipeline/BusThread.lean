import PixelPilot.Pipeline.Model

/-!
# Polling the bus thread

`pipeline_poll_child` takes `bus_thread_running == FALSE` for the end of the
bus thread and joins it.  The flag is FALSE before the thread has run, too: it is
the new thread itself that sets it.

Main results:

- Theorem `busInv`: what the flag says about the bus thread in every run.
- Theorem `early_join`: a restart after which the main thread joins a bus thread
  that has not run yet.
- Theorem `poll_joins_finished`: the join meets a finished bus thread in every
  run in which the poll reads the flag after the thread's first critical section,
  and in no other.
-/

namespace PixelPilot
namespace Pipeline

open Transition

/-! ## What the flag tells -/

/-- The bus thread is between its stores `bus_thread_running = TRUE` and `= FALSE`. -/
def BusPc.looping : BusPc → Bool
  | .pop | .readStop | .onError | .onEos | .finish => true
  | _ => false

/-- The bus thread has executed its first critical section. -/
def BusPc.started : BusPc → Bool
  | .created | .noBus | .gotBus => false
  | _ => true

/-- The call comes from `cleanup_pipeline`. -/
@[simp]
def UdpStop.inCleanup : UdpStop → Bool
  | .stop _ => false
  | .cleanup _ => true

/-- `cleanup_pipeline` has joined the bus thread. -/
@[simp]
def MainPc.busGone : MainPc → Bool
  | .udpEnter u | .udpJoin u | .udpLeave u => u.inCleanup
  | .cleanUdp _ | .cleanDestroy _ | .cleanPipeline _ | .cleanDecoder _ | .decoderStop _ _
  | .decoderJoinFrame _ _ | .decoderJoinDisplay _ _ | .cleanDeinit _ | .cleanFree _
  | .cleanDone _ => true
  | _ => false

/-- Inside `pipeline_start`, after its test of the state. -/
@[simp]
def MainPc.starting : MainPc → Bool
  | .startElements _ | .startUdp _ | .startPlaying _ | .startDecoderNew _ | .startDecoderInit _
  | .startFrame _ | .startDisplay _ | .startDisplayFail _ | .startRunning _ | .startAppsink _
  | .startBus _ | .startDone _ => true
  | _ => false

/-- Inside `pipeline_start`, after the bus thread was created. -/
@[simp]
def MainPc.busStarted : MainPc → Bool
  | .startDone _ => true
  | _ => false

@[simp]
theorem afterStop_spec (f : StopFor) :
    (afterStop f).busGone = false ∧ (afterStop f).starting = false ∧
      afterStop f ≠ .pollFlag := by
  cases f <;> simp [afterStop]

@[simp]
theorem afterStart_spec (f : StartFor) :
    (afterStart f).busGone = false ∧ (afterStart f).starting = false ∧
      afterStart f ≠ .pollFlag := by
  cases f <;> simp [afterStart]

@[simp]
theorem afterFailedStart_spec (f : StartFor) :
    (afterFailedStart f).busGone = false ∧ (afterFailedStart f).starting = false ∧
      afterFailedStart f ≠ .pollFlag := by
  cases f <;> simp [afterFailedStart]

@[simp]
theorem looping_spec : BusPc.absent.looping = false ∧ BusPc.created.looping = false ∧
    BusPc.exited.looping = false :=
  ⟨rfl, rfl, rfl⟩

/-- The bus thread, its handle, its flag and the state of the pipeline. -/
structure BusInv (s : State) : Prop where
  handle : s.busThread = true ↔ s.busPc ≠ .absent
  flag : s.busThreadRunning = s.busPc.looping
  polled : s.mainPc = .pollFlag → s.busThread = true
  stopped : s.state = .stopped → s.busPc = .absent ∨ s.mainPc.busStarted = true
  gone : s.mainPc.busGone = true → s.busPc = .absent
  starting : s.mainPc.starting = true → s.state = .stopped

/-! ## Steps of the main thread -/

/-- A turn of the main loop keeps the invariant. -/
theorem BusInv.loopNext {s t : State} {c : MainChoice} (hs : BusInv s)
    (h : loopNext s c = some t) : BusInv t := by
  obtain ⟨handle, flag, polled, stopped, gone, starting⟩ := hs
  unfold Pipeline.loopNext at h
  split at h <;> rename_i hpc
  all_goals try split at h
  all_goals try contradiction
  all_goals
    cases h
    constructor <;> simp_all

theorem BusInv.stopNext {s t : State} {c : MainChoice} (hs : BusInv s)
    (h : stopNext s c = some t) : BusInv t := by
  obtain ⟨handle, flag, polled, stopped, gone, starting⟩ := hs
  unfold Pipeline.stopNext at h
  split at h <;> rename_i hpc
  all_goals try split at h
  all_goals try contradiction
  all_goals
    cases h
    constructor <;> simp_all [State.setNull]

theorem BusInv.udpNext {s t : State} {r : Receiver} {c : MainChoice} (hs : BusInv s)
    (h : udpNext s r c = some t) : BusInv t := by
  obtain ⟨handle, flag, polled, stopped, gone, starting⟩ := hs
  unfold Pipeline.udpNext at h
  split at h <;> rename_i hpc
  all_goals try cases ‹UdpStop›
  all_goals try split at h
  all_goals try split at h
  all_goals try contradiction
  all_goals
    cases h
    constructor <;> simp_all [afterUdpStop]

/-- At the end of `cleanup_pipeline` there is no bus thread. -/
theorem BusInv.afterCleanup {s : State} (hs : BusInv s) (hgone : s.busPc = .absent)
    (c : Cleanup) : BusInv (s.afterCleanup c) := by
  have hthread : s.busThread = false := by
    simpa [hgone] using hs.handle
  have hflag : s.busThreadRunning = false := by
    rw [hs.flag, hgone]
    rfl
  cases c with
  | poll => constructor <;> simp_all [State.afterCleanup]
  | stop f | start f =>
      cases f <;> constructor <;> simp_all [State.afterCleanup, afterStop, afterFailedStart]

/-- A step of `cleanup_pipeline` keeps the invariant. -/
theorem BusInv.cleanNext {s t : State} {c : MainChoice} (hs : BusInv s)
    (h : cleanNext s c = some t) : BusInv t := by
  have hdone := hs.afterCleanup
  obtain ⟨handle, flag, polled, stopped, gone, starting⟩ := hs
  unfold Pipeline.cleanNext at h
  split at h <;> rename_i hpc
  all_goals try split at h
  all_goals try split at h
  all_goals try contradiction
  all_goals cases h
  all_goals try exact hdone (gone (by rw [hpc]; rfl)) _
  all_goals constructor <;> simp_all

/-- A step of `pipeline_start` keeps the invariant. -/
theorem BusInv.startNext {s t : State} {c : MainChoice} (hs : BusInv s)
    (h : startNext s c = some t) : BusInv t := by
  obtain ⟨handle, flag, polled, stopped, gone, starting⟩ := hs
  unfold Pipeline.startNext at h
  split at h <;> rename_i hpc
  all_goals try cases ‹StartFor›
  all_goals try split at h
  all_goals try contradiction
  all_goals
    cases h
    constructor <;> simp_all [State.resetFields, afterStart, afterFailedStart]

/-- A step of the main thread keeps the invariant. -/
theorem BusInv.mainNext {s t : State} {c : MainChoice} (hs : BusInv s)
    (h : mainNext s c = some t) : BusInv t := by
  rcases mainNext_cases h with hloop | hstop | ⟨r, -, hudp⟩ | hclean | hstart
  · exact hs.loopNext hloop
  · exact hs.stopNext hstop
  · exact hs.udpNext hudp
  · exact hs.cleanNext hclean
  · exact hs.startNext hstart

/-! ## Steps of the other threads -/

/-- The bus thread clears the flag where it leaves its loop. -/
theorem busNext_flag {s t : State} {c : BusChoice} (h : busNext s c = some t)
    (hflag : s.busThreadRunning = s.busPc.looping) :
    t.busThreadRunning = t.busPc.looping := by
  unfold busNext at h
  split at h <;> rename_i hpc
  all_goals try contradiction
  all_goals cases h
  all_goals cases hstop : s.stopRequested <;> simp_all [BusPc.looping]

/-- A step of the bus thread keeps the invariant. -/
theorem BusInv.busNext {s t : State} {c : BusChoice} (hs : BusInv s)
    (h : busNext s c = some t) : BusInv t := by
  have hflag := busNext_flag h hs.flag
  obtain ⟨halive, -, hstays, pc, flag, stop, error, rfl, -⟩ := busNext_frame h
  refine ⟨?_, hflag, hs.polled, ?_, ?_, hs.starting⟩
  · simp only [hstays, ne_eq, not_false_eq_true, iff_true]
    exact hs.handle.mpr halive
  · intro hstopped
    exact .inr ((hs.stopped hstopped).resolve_left halive)
  · intro hgone
    exact absurd (hs.gone hgone) halive

/-- A step of any thread keeps the invariant. -/
theorem BusInv.next {s t : State} {a : Act} (hs : BusInv s) (h : next s a = some t) :
    BusInv t := by
  cases a with
  | main c => exact hs.mainNext h
  | bus c => exact hs.busNext h
  | appsink c =>
      obtain ⟨-, -, pc, flag, rfl⟩ := appsinkNext_frame h
      exact ⟨hs.handle, hs.flag, hs.polled, hs.stopped, hs.gone, hs.starting⟩
  | receiver c =>
      obtain ⟨r, u, -, -, rfl⟩ := receiverNext_frame h
      exact ⟨hs.handle, hs.flag, hs.polled, hs.stopped, hs.gone, hs.starting⟩
  | frame c =>
      obtain ⟨vd, -, rfl⟩ := frameNext_frame h
      exact ⟨hs.handle, hs.flag, hs.polled, hs.stopped, hs.gone, hs.starting⟩
  | display c =>
      obtain ⟨vd, -, rfl⟩ := displayNext_frame h
      exact ⟨hs.handle, hs.flag, hs.polled, hs.stopped, hs.gone, hs.starting⟩
  | gst c =>
      obtain ⟨-, p, u, rfl, -⟩ := gstNext_frame h
      exact ⟨hs.handle, hs.flag, hs.polled, hs.stopped, hs.gone, hs.starting⟩

/-- In every run the flag and the handle say where the bus thread is. -/
theorem busInv {s : State} (h : pixelPilot.Reachable s) : BusInv s := by
  refine h.invariant BusInv ?_ ?_
  · rintro s ⟨vidPt, modeW, modeH, rfl⟩
    constructor <;> simp [State.initial]
  · intro s t a hs _ hnext
    exact hs.next hnext

/-! ## The join of pipeline_poll_child -/

/-- While `pipeline_poll_child` is blocked in its join, the bus thread has
executed its final store, or left early for a missing bus. -/
def State.JoinsFinished (s : State) : Prop :=
  s.mainPc = .pollJoin → s.busPc = .exited

/-- The step condition: `pipeline_poll_child` reads the flag only after the bus
thread has executed its first critical section. -/
def PollsStarted (s : State) (a : Act) : Prop :=
  a = .main .go → s.mainPc = .pollFlag → s.busPc.started = true

/-- Under the condition a step joins no bus thread but a finished one. -/
theorem JoinsFinished.next {s t : State} {a : Act} (hbus : BusInv s) (hs : s.JoinsFinished)
    (hok : PollsStarted s a) (h : next s a = some t) : t.JoinsFinished := by
  intro hjoin
  cases a with
  | main c =>
      obtain ⟨rfl, hcall⟩ := joinCall_of_mainNext h (j := .poll) (by rw [hjoin]; rfl)
      cases hcall with
      | poll hpc hflag ht =>
          have hstarted := hok rfl hpc
          have halive := hbus.handle.mp (hbus.polled hpc)
          have hnot : s.busPc.looping = false := hbus.flag.symm.trans hflag
          subst ht
          -- Started, alive and out of its loop: the thread has exited.
          cases hbuspc : s.busPc <;> simp_all [BusPc.started, BusPc.looping]
  | bus c =>
      obtain ⟨-, hlive, -, pc, flag, stop, error, rfl, -⟩ := busNext_frame h
      exact absurd (hs hjoin) hlive
  | appsink c =>
      obtain ⟨-, -, pc, flag, rfl⟩ := appsinkNext_frame h
      exact hs hjoin
  | receiver c =>
      obtain ⟨r, u, -, -, rfl⟩ := receiverNext_frame h
      exact hs hjoin
  | frame c =>
      obtain ⟨vd, -, rfl⟩ := frameNext_frame h
      exact hs hjoin
  | display c =>
      obtain ⟨vd, -, rfl⟩ := displayNext_frame h
      exact hs hjoin
  | gst c =>
      obtain ⟨-, p, u, rfl, -⟩ := gstNext_frame h
      exact hs hjoin

/-- A run whose polls find the bus thread started joins no other bus thread. -/
theorem joinsFinished {s : State} (h : pixelPilot.ReachableUnder PollsStarted s) :
    s.JoinsFinished := by
  refine h.invariant_on BusInv State.JoinsFinished (fun s hs => busInv hs.reachable) ?_ ?_
  · rintro s ⟨vidPt, modeW, modeH, rfl⟩ hjoin
    simp [State.initial] at hjoin
  · intro s t a hbus hs hok hnext
    exact JoinsFinished.next hbus hs hok hnext

/-- A poll that reads the flag too early joins a bus thread that has not
finished. -/
theorem early_poll_joins {s t : State} {a : Act} (hs : BusInv s) (h : next s a = some t)
    (hbad : ¬ PollsStarted s a) : ¬ t.JoinsFinished := by
  unfold PollsStarted at hbad
  push Not at hbad
  obtain ⟨rfl, hpc, hstarted⟩ := hbad
  have hflag : s.busThreadRunning = false := by
    rw [hs.flag]
    cases hbuspc : s.busPc <;> simp_all [BusPc.started, BusPc.looping]
  simp only [next, mainNext, hpc, loopNext, hflag, Bool.false_eq_true, if_false,
    Option.some.injEq] at h
  subst h
  intro hjoins
  have hexited := hjoins rfl
  simp only at hexited
  simp [hexited, BusPc.started] at hstarted

/-! ## The early join -/

/-- The threads of a started pipeline run up to their loops, and a SIGHUP stops it
again. -/
def restartSchedule : List Act :=
  [Act.bus .go, .bus .go, .appsink .go, .appsink .go, .receiver .go, .main .restart] ++
  List.replicate 4 (Act.main .go) ++ [Act.receiver .go] ++
  List.replicate 3 (Act.main .go) ++ List.replicate 3 (Act.appsink .go) ++
  List.replicate 2 (Act.main .go) ++ List.replicate 3 (Act.bus .go) ++
  List.replicate 10 (Act.main .go) ++ [Act.frame .go, .frame .go, .main .go, .display .go] ++
  List.replicate 7 (Act.main .go)

/-- The bus thread of the restarted pipeline has not run when
`pipeline_poll_child` takes it for finished. -/
theorem early_join : ∃ s, pixelPilot.Reachable s ∧ ¬ s.JoinsFinished := by
  have hrun : (pixelPilot.exec (State.initial 97 1920 1080)
      (startSchedule ++ restartSchedule ++ startSchedule ++ [.main .go, .main .go])).map
      (fun s => (s.mainPc, s.busPc)) = some (.pollJoin, .created) := by
    rfl
  rw [Option.map_eq_some_iff] at hrun
  obtain ⟨s, hexec, hstate⟩ := hrun
  obtain ⟨hpc, hbus⟩ := Prod.mk.inj hstate
  refine ⟨s, System.reachable_of_exec ⟨_, _, _, rfl⟩ hexec, fun hjoins => ?_⟩
  have hexited := hjoins hpc
  simp [hbus] at hexited

/-! ## Polls and joins -/

/-- The join of `pipeline_poll_child` meets a finished bus thread in every run in
which each poll reads the flag after the thread's first critical section, and a
poll that reads it earlier joins a bus thread that has not finished. -/
theorem poll_joins_finished (s : State) :
    (pixelPilot.ReachableUnder PollsStarted s → s.JoinsFinished) ∧
      (∀ t a, pixelPilot.Reachable s → pixelPilot.next s a = some t →
        ¬ PollsStarted s a → ¬ t.JoinsFinished) :=
  ⟨fun h => joinsFinished h, fun _ _ hs h hbad => early_poll_joins (busInv hs) h hbad⟩

/-- A pipeline error that is polled after the bus thread is done, and the early
join. -/
theorem poll_joins_finished_runs :
    (∃ s : State, s.mainPc = .pollJoin ∧ s.busPc = .exited) ∧
      (∃ s t : State, pixelPilot.next s (.main .go) = some t ∧ ¬ t.JoinsFinished) := by
  constructor
  · have hrun : (pixelPilot.execChecked (fun s _ => s.busPc.started || s.mainPc != .pollFlag)
        (State.initial 97 1920 1080)
        (startSchedule ++ [.gst .stall, .bus .go, .bus .go, .bus .error, .bus .go, .bus .go] ++
          List.replicate 3 (.main .go))).map State.mainPc = some .pollJoin := by
      rfl
    rw [Option.map_eq_some_iff] at hrun
    obtain ⟨s, hexec, hpc⟩ := hrun
    have hinit : pixelPilot.ReachableUnder PollsStarted (State.initial 97 1920 1080) :=
      .init ⟨97, 1920, 1080, rfl⟩
    have hreach : pixelPilot.ReachableUnder PollsStarted s := by
      refine hinit.execChecked ?_ hexec
      intro s a hcheck _ hflag
      simpa [hflag] using hcheck
    exact ⟨s, hpc, (poll_joins_finished s).1 hreach hpc⟩
  · have hrun : (pixelPilot.exec (State.initial 97 1920 1080)
        (startSchedule ++ restartSchedule ++ startSchedule ++ [.main .go])).map
        (fun s => (s.mainPc, s.busPc, s.busThreadRunning)) =
        some (.pollFlag, .created, false) := by
      rfl
    rw [Option.map_eq_some_iff] at hrun
    obtain ⟨s, hexec, hstate⟩ := hrun
    simp only [Prod.mk.injEq] at hstate
    obtain ⟨hpc, hbus, hflag⟩ := hstate
    have hreach : pixelPilot.Reachable s :=
      System.reachable_of_exec ⟨97, 1920, 1080, rfl⟩ hexec
    have hnext : pixelPilot.next s (.main .go) = some { s with mainPc := .pollJoin } := by
      simp [pixelPilot, next, mainNext, loopNext, hpc, hflag]
    refine ⟨s, _, hnext, (poll_joins_finished s).2 _ _ hreach hnext ?_⟩
    intro hstarted
    have hearly := hstarted rfl hpc
    simp [hbus, BusPc.started] at hearly

end Pipeline
end PixelPilot
