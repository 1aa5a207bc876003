import PixelPilot.Decoder.Mailbox
import PixelPilot.Pipeline.BusThread

/-!
# Joining the appsink thread

The appsink thread is in its sample loop, which ends on `stop_requested` or
`!decoder_running`, or inside it in the retry loop of `video_decoder_feed`,
which ends on `!vd->running`.  `pipeline_stop` and `cleanup_pipeline` join the
thread before they call `video_decoder_stop`, and two of the paths to
`cleanup_pipeline` have not set `stop_requested`.

Main results:

- Theorem `feed_blocks_join`: a stop during a stalled `decode_put_packet` waits
  for a thread whose exit depends on a step after the join.
- Theorem `appsink_join_ends`: every wait for the appsink thread ends by itself
  in the runs whose join calls find the thread released, and a call that does not
  can be continued to a wait that does not.
-/

namespace PixelPilot
namespace Pipeline

open Transition

/-! ## What the wait depends on -/

/-- Inside the sample loop of `appsink_thread_func`. -/
def AppsinkPc.inSamples : AppsinkPc → Bool
  | .check | .pull | .record | .feedGuard | .feedCheck | .feedPut => true
  | _ => false

/-- Inside the retry loop of `video_decoder_feed`. -/
def AppsinkPc.inFeed : AppsinkPc → Bool
  | .feedCheck | .feedPut => true
  | _ => false

/-- Past the sample loop, or on the way out without it. -/
def AppsinkPc.leftSamples : AppsinkPc → Bool
  | .noAppsink | .sendEos _ | .exitSection | .exited => true
  | _ => false

/-- The exit condition of the sample loop. -/
def State.samplesEnd (s : State) : Bool :=
  s.stopRequested || !s.decoderRunning

/-- The appsink thread can still get into the retry loop before it tests the exit
condition of its sample loop again. -/
def State.feedAhead (s : State) : Bool :=
  match s.appsinkPc with
  | .record | .feedGuard | .feedCheck | .feedPut => true
  | .pull => s.sampling
  | _ => false

/-- Where the main thread is blocked in a join of the appsink thread, the exit
condition of each loop that thread is in already holds. -/
def State.JoinEnds (s : State) : Prop :=
  s.mainPc.joining = some .appsink →
    (s.appsinkPc.inSamples = true → s.samplesEnd = true) ∧
      (s.appsinkPc.inFeed = true → s.vd.running = false)

/-- Nothing keeps the appsink thread: it has left its sample loop, or the exit
condition of that loop holds and no feed can meet a running decoder. -/
def State.Released (s : State) : Prop :=
  s.appsinkPc.leftSamples = true ∨
    s.samplesEnd = true ∧ (s.feedAhead = true → s.vd.running = false)

/-- The step condition: a join of the appsink thread finds it released. -/
def JoinsReleased (s : State) (a : Act) : Prop :=
  a = .main .go → s.mainPc.calling = some .appsink → s.appsinkThread = true → s.Released

/-- Where the appsink thread was released the join ends. -/
theorem State.Released.joinEnds {s : State} (hs : s.Released) : s.JoinEnds := by
  intro _
  rcases hs with hleft | ⟨hend, hfeed⟩
  · cases hpc : s.appsinkPc <;> simp_all [AppsinkPc.leftSamples, AppsinkPc.inSamples,
      AppsinkPc.inFeed]
  · refine ⟨fun _ => hend, fun hin => hfeed ?_⟩
    unfold State.feedAhead
    cases hpc : s.appsinkPc <;> simp_all [AppsinkPc.inFeed]

/-! ## Release is kept -/

theorem leftSamples_afterSamples (s : State) : s.afterSamples.leftSamples = true := by
  unfold State.afterSamples
  split <;> rfl

/-- A released appsink thread stays released through its own steps: outside the
sample loop it only gets nearer to its exit, and inside it no step leads to a feed
that was not ahead before. -/
theorem State.Released.appsinkNext {s t : State} {c : AppsinkChoice} (hs : s.Released)
    (h : appsinkNext s c = some t) : t.Released := by
  unfold Pipeline.appsinkNext at h
  split at h <;> rename_i hpc
  all_goals try split at h
  all_goals try contradiction
  all_goals cases h
  all_goals try exact .inl (leftSamples_afterSamples s)
  all_goals simp only [State.Released, State.feedAhead, hpc, AppsinkPc.leftSamples] at hs
  all_goals simp_all [State.Released, State.feedAhead, AppsinkPc.leftSamples, State.samplesEnd,
    State.sampling]

/-- The decoder's threads never set `running`. -/
theorem decoder_running_of_frame {vd vd' : Decoder.State} {c : Decoder.FrameChoice}
    (h : Decoder.frameNext vd c = some vd') (hrun : vd'.running = true) :
    vd.running = true := by
  cases Decoder.frameNext_effect h with
  | quiet _ _ _ _ hrunning => rwa [hrunning] at hrun
  | post f i _ ht => rwa [ht] at hrun
  | eos f _ ht => rwa [ht] at hrun
  | finish _ ht => simp [ht] at hrun

/-- The display thread never sets the flag of the decoder. -/
theorem decoder_running_of_display {vd vd' : Decoder.State} {c : Decoder.DisplayChoice}
    (h : Decoder.displayNext vd c = some vd') (hrun : vd'.running = true) :
    vd.running = true := by
  cases Decoder.displayNext_effect h with
  | wait _ _ ht | take _ ht | leave _ _ ht | commit _ _ _ ht => rwa [ht] at hrun

/-- A released appsink thread stays released through steps of other threads that
do not start the decoder or the pipeline. -/
theorem State.Released.congr {s t : State} (hs : s.Released) (hpc : t.appsinkPc = s.appsinkPc)
    (hend : s.samplesEnd = true → t.samplesEnd = true)
    (hsampling : t.sampling = true → s.sampling = true)
    (hrun : t.vd.running = true → s.vd.running = true) : t.Released := by
  unfold State.Released at *
  rw [hpc]
  rcases hs with hleft | ⟨hsend, hfeed⟩
  · exact .inl hleft
  · refine .inr ⟨hend hsend, fun hahead => ?_⟩
    have hbefore : s.feedAhead = true := by
      unfold State.feedAhead at *
      rw [hpc] at hahead
      cases happsink : s.appsinkPc <;> simp_all
    have hstopped := hfeed hbefore
    by_contra hrunning
    simp [hrun (by simpa using hrunning)] at hstopped

/-- While the main thread waits for it, a released appsink thread stays released. -/
theorem released_next {s t : State} {a : Act}
    (hs : s.mainPc.joining = some .appsink → s.Released) (hok : JoinsReleased s a)
    (h : next s a = some t) (hjoin : t.mainPc.joining = some .appsink) : t.Released := by
  cases a with
  | main c =>
      obtain ⟨rfl, hcall⟩ := joinCall_of_mainNext h hjoin
      cases hcall with
      | appsink pc hpc hthread ht =>
          subst ht
          exact (hok rfl hpc hthread).congr rfl id id id
  | bus c =>
      obtain ⟨-, -, -, pc, flag, stop, error, rfl, hstop⟩ := busNext_frame h
      refine (hs hjoin).congr rfl ?_ id id
      intro hend
      simp only [State.samplesEnd, Bool.or_eq_true] at hend ⊢
      exact hend.imp_left hstop
  | appsink c =>
      have hkept := h
      obtain ⟨-, -, pc, flag, rfl⟩ := appsinkNext_frame h
      exact (hs hjoin).appsinkNext hkept
  | receiver c =>
      obtain ⟨r, u, -, -, rfl⟩ := receiverNext_frame h
      exact (hs hjoin).congr rfl id id id
  | frame c =>
      obtain ⟨vd, hvd, rfl⟩ := frameNext_frame h
      exact (hs hjoin).congr rfl id id (decoder_running_of_frame hvd)
  | display c =>
      obtain ⟨vd, hvd, rfl⟩ := displayNext_frame h
      exact (hs hjoin).congr rfl id id (decoder_running_of_display hvd)
  | gst c =>
      obtain ⟨hplaying, p, u, rfl, -⟩ := gstNext_frame h
      refine (hs hjoin).congr rfl id (fun _ => ?_) id
      simp [State.sampling, hplaying]

/-- In every run whose join calls find the appsink thread released, it is
released throughout every wait. -/
theorem released_while_joining {s : State} (h : pixelPilot.ReachableUnder JoinsReleased s)
    (hjoin : s.mainPc.joining = some .appsink) : s.Released := by
  refine h.invariant (fun s => s.mainPc.joining = some .appsink → s.Released) ?_ ?_ hjoin
  · rintro s ⟨vidPt, modeW, modeH, rfl⟩ hjoin
    simp [State.initial, MainPc.joining] at hjoin
  · intro s t a hs hok hnext hjoin
    exact released_next hs hok hnext hjoin

/-! ## The appsink thread's handle and data -/

/-- Inside `pipeline_start`, after the elements were stored. -/
@[simp]
def MainPc.built : MainPc → Bool
  | .startUdp _ | .startPlaying _ | .startDecoderNew _ | .startDecoderInit _ | .startFrame _
  | .startDisplay _ | .startDisplayFail _ | .startRunning _ | .startAppsink _ | .startBus _
  | .startDone _ => true
  | _ => false

/-- Inside `pipeline_start`, after the decoder was allocated. -/
@[simp]
def MainPc.allocated : MainPc → Bool
  | .startDecoderInit _ | .startFrame _ | .startDisplay _ | .startDisplayFail _
  | .startRunning _ | .startAppsink _ | .startBus _ | .startDone _ => true
  | _ => false

/-- `cleanup_pipeline` has joined the appsink thread, or `pipeline_start` has not
created it yet. -/
@[simp]
def MainPc.appsinkGone : MainPc → Bool
  | .udpEnter u | .udpJoin u | .udpLeave u => u.inCleanup
  | .cleanBus _ | .cleanBusJoin _ | .cleanUdp _ | .cleanDestroy _ | .cleanPipeline _
  | .cleanDecoder _ | .decoderStop _ _ | .decoderJoinFrame _ _ | .decoderJoinDisplay _ _
  | .cleanDeinit _ | .cleanFree _ | .cleanDone _ | .startElements _ | .startUdp _
  | .startPlaying _ | .startDecoderNew _ | .startDecoderInit _ | .startFrame _
  | .startDisplay _ | .startDisplayFail _ | .startRunning _ | .startAppsink _ => true
  | _ => false

/-- The appsink thread was created by the `pipeline_start` that is still going on. -/
@[simp]
def MainPc.appsinkStarted : MainPc → Bool
  | .startBus _ | .startDone _ | .cleanAppsink (.start _) | .cleanAppsinkJoin (.start _) => true
  | _ => false

/-- An appsink thread has a handle, an appsink and a decoder. -/
structure AppsinkInv (s : State) : Prop where
  handle : s.appsinkThread = true ↔ s.appsinkPc ≠ .absent
  alive : s.appsinkPc ≠ .absent → s.appsink = true ∧ s.decoder = true
  built : s.mainPc.built = true → s.appsink = true
  allocated : s.mainPc.allocated = true → s.decoder = true
  gone : s.mainPc.appsinkGone = true → s.appsinkPc = .absent
  stopped : s.state = .stopped → s.appsinkPc = .absent ∨ s.mainPc.appsinkStarted = true

/-- A turn of the main loop keeps the invariant. -/
theorem AppsinkInv.loopNext {s t : State} {c : MainChoice} (hs : AppsinkInv s)
    (h : loopNext s c = some t) : AppsinkInv t := by
  obtain ⟨handle, alive, built, allocated, gone, stopped⟩ := hs
  unfold Pipeline.loopNext at h
  split at h <;> rename_i hpc
  all_goals try split at h
  all_goals try contradiction
  all_goals
    cases h
    constructor <;> simp_all

theorem AppsinkInv.stopNext {s t : State} {c : MainChoice} (hs : AppsinkInv s)
    (h : stopNext s c = some t) : AppsinkInv t := by
  obtain ⟨handle, alive, built, allocated, gone, stopped⟩ := hs
  unfold Pipeline.stopNext at h
  split at h <;> rename_i hpc
  all_goals try cases ‹StopFor›
  all_goals try split at h
  all_goals try contradiction
  all_goals
    cases h
    constructor <;> simp_all [State.setNull, afterStop]

theorem AppsinkInv.udpNext {s t : State} {r : Receiver} {c : MainChoice} (hs : AppsinkInv s)
    (h : udpNext s r c = some t) : AppsinkInv t := by
  obtain ⟨handle, alive, built, allocated, gone, stopped⟩ := hs
  unfold Pipeline.udpNext at h
  split at h <;> rename_i hpc
  all_goals try cases ‹UdpStop›
  all_goals try split at h
  all_goals try split at h
  all_goals try contradiction
  all_goals
    cases h
    constructor <;> simp_all [afterUdpStop]

/-- At the end of `cleanup_pipeline` there is no appsink thread. -/
theorem AppsinkInv.afterCleanup {s : State} (hs : AppsinkInv s) (hgone : s.appsinkPc = .absent)
    (c : Cleanup) : AppsinkInv (s.afterCleanup c) := by
  have hthread : s.appsinkThread = false := by
    simpa [hgone] using hs.handle
  cases c with
  | poll => constructor <;> simp_all [State.afterCleanup]
  | stop f => cases f <;> constructor <;> simp_all [State.afterCleanup, afterStop]
  | start f => cases f <;> constructor <;> simp_all [State.afterCleanup, afterFailedStart]

theorem AppsinkInv.cleanNext {s t : State} {c : MainChoice} (hs : AppsinkInv s)
    (h : cleanNext s c = some t) : AppsinkInv t := by
  have hdone := hs.afterCleanup
  obtain ⟨handle, alive, built, allocated, gone, stopped⟩ := hs
  unfold Pipeline.cleanNext at h
  split at h <;> rename_i hpc
  all_goals try split at h
  all_goals try split at h
  all_goals try contradiction
  all_goals cases h
  all_goals try exact hdone (gone (by rw [hpc]; rfl)) _
  all_goals cases ‹Cleanup› <;> constructor <;> simp_all

theorem AppsinkInv.startNext {s t : State} {c : MainChoice} (hs : AppsinkInv s)
    (h : startNext s c = some t) : AppsinkInv t := by
  obtain ⟨handle, alive, built, allocated, gone, stopped⟩ := hs
  unfold Pipeline.startNext at h
  split at h <;> rename_i hpc
  all_goals try cases ‹StartFor›
  all_goals try split at h
  all_goals try contradiction
  all_goals
    cases h
    constructor <;> simp_all [State.resetFields, afterStart, afterFailedStart]

/-- A step of the appsink thread keeps the invariant. -/
theorem AppsinkInv.appsinkNext {s t : State} {c : AppsinkChoice} (hs : AppsinkInv s)
    (h : appsinkNext s c = some t) : AppsinkInv t := by
  obtain ⟨hbefore, hafter, pc, flag, rfl⟩ := appsinkNext_frame h
  refine ⟨?_, fun _ => hs.alive hbefore, hs.built, hs.allocated, ?_, ?_⟩
  · simp only [hafter, ne_eq, not_false_eq_true, iff_true]
    exact hs.handle.mpr hbefore
  · intro hgone
    exact absurd (hs.gone hgone) hbefore
  · intro hstopped
    exact .inr ((hs.stopped hstopped).resolve_left hbefore)

/-- A step of any thread keeps the invariant. -/
theorem AppsinkInv.next {s t : State} {a : Act} (hs : AppsinkInv s) (h : next s a = some t) :
    AppsinkInv t := by
  cases a with
  | main c =>
      rcases mainNext_cases h with hloop | hstop | ⟨r, -, hudp⟩ | hclean | hstart
      · exact hs.loopNext hloop
      · exact hs.stopNext hstop
      · exact hs.udpNext hudp
      · exact hs.cleanNext hclean
      · exact hs.startNext hstart
  | bus c =>
      obtain ⟨-, -, -, pc, flag, stop, error, rfl, -⟩ := busNext_frame h
      exact ⟨hs.handle, hs.alive, hs.built, hs.allocated, hs.gone, hs.stopped⟩
  | appsink c => exact hs.appsinkNext h
  | receiver c =>
      obtain ⟨r, u, -, -, rfl⟩ := receiverNext_frame h
      exact ⟨hs.handle, hs.alive, hs.built, hs.allocated, hs.gone, hs.stopped⟩
  | frame c =>
      obtain ⟨vd, -, rfl⟩ := frameNext_frame h
      exact ⟨hs.handle, hs.alive, hs.built, hs.allocated, hs.gone, hs.stopped⟩
  | display c =>
      obtain ⟨vd, -, rfl⟩ := displayNext_frame h
      exact ⟨hs.handle, hs.alive, hs.built, hs.allocated, hs.gone, hs.stopped⟩
  | gst c =>
      obtain ⟨-, p, u, rfl, -⟩ := gstNext_frame h
      exact ⟨hs.handle, hs.alive, hs.built, hs.allocated, hs.gone, hs.stopped⟩

/-- In every run an appsink thread has a handle, an appsink and a decoder. -/
theorem appsinkInv {s : State} (h : pixelPilot.Reachable s) : AppsinkInv s := by
  refine h.invariant AppsinkInv ?_ ?_
  · rintro s ⟨vidPt, modeW, modeH, rfl⟩
    constructor <;> simp [State.initial]
  · intro s t a hs _ hnext
    exact hs.next hnext

/-! ## Joins of a thread that is not released -/

/-- Some continuation of the run reaches a wait that does not end by itself. -/
def State.Stuck (s : State) : Prop :=
  ∃ as t, pixelPilot.exec s as = some t ∧ ¬ t.JoinEnds

/-- One step of the appsink thread on the way to such a wait. -/
theorem stuck_of_appsink {s t : State} (c : AppsinkChoice) (h : appsinkNext s c = some t)
    (ht : t.Stuck) : s.Stuck := by
  obtain ⟨as, u, hexec, hwaits⟩ := ht
  have hnext : pixelPilot.next s (.appsink c) = some t := h
  exact ⟨.appsink c :: as, u, (System.exec_cons_of_next hnext).trans hexec, hwaits⟩

/-- A thread in the sample loop whose exit condition does not hold. -/
theorem stuck_of_samples {s : State} (hjoin : s.mainPc.joining = some .appsink)
    (hpc : s.appsinkPc.inSamples = true) (hend : s.samplesEnd = false) : s.Stuck := by
  refine ⟨[], s, rfl, fun hends => ?_⟩
  simp [(hends hjoin).1 hpc] at hend

/-- A thread in the retry loop of a running decoder. -/
theorem stuck_of_feed {s : State} (hjoin : s.mainPc.joining = some .appsink)
    (hpc : s.appsinkPc.inFeed = true) (hrun : s.vd.running = true) : s.Stuck := by
  refine ⟨[], s, rfl, fun hends => ?_⟩
  simp [(hends hjoin).2 hpc] at hrun

/-- A sample loop that does not end yet is reached from before it, too. -/
theorem stuck_of_not_end {s : State} (hjoin : s.mainPc.joining = some .appsink)
    (halive : s.appsinkPc ≠ .absent) (happsink : s.appsink = true)
    (hleft : s.appsinkPc.leftSamples = false) (hend : s.samplesEnd = false) : s.Stuck := by
  have hcheck : State.Stuck { s with appsinkPc := .check, appsinkThreadRunning := true } :=
    stuck_of_samples hjoin rfl hend
  have hset : State.Stuck { s with appsinkPc := .setRunning } :=
    stuck_of_appsink .go rfl hcheck
  cases hpc : s.appsinkPc with
  | absent => exact absurd hpc halive
  | created =>
      refine stuck_of_appsink .go ?_ hset
      simp [Pipeline.appsinkNext, hpc, happsink]
  | setRunning =>
      refine stuck_of_appsink .go ?_ hcheck
      simp [Pipeline.appsinkNext, hpc]
  | noAppsink | sendEos | exitSection | exited => simp [hpc, AppsinkPc.leftSamples] at hleft
  | check | pull | record | feedGuard | feedCheck | feedPut =>
      exact stuck_of_samples hjoin (by rw [hpc]; rfl) hend

/-- A feed ahead of a running decoder can get into the retry loop. -/
theorem stuck_of_feedAhead {s : State} (hjoin : s.mainPc.joining = some .appsink)
    (hdecoder : s.decoder = true) (hahead : s.feedAhead = true) (hrun : s.vd.running = true) :
    s.Stuck := by
  have hcheck : State.Stuck { s with appsinkPc := .feedCheck } :=
    stuck_of_feed hjoin rfl hrun
  have hguard : State.Stuck { s with appsinkPc := .feedGuard } := by
    refine stuck_of_appsink .go ?_ hcheck
    simp [Pipeline.appsinkNext, hdecoder, hrun]
  have hrecord : State.Stuck { s with appsinkPc := .record } :=
    stuck_of_appsink .go rfl hguard
  unfold State.feedAhead at hahead
  cases hpc : s.appsinkPc with
  | pull =>
      refine stuck_of_appsink .sample ?_ hrecord
      simp only [hpc] at hahead
      simp [Pipeline.appsinkNext, hpc, hahead]
  | record =>
      refine stuck_of_appsink .go ?_ hguard
      simp [Pipeline.appsinkNext, hpc]
  | feedGuard =>
      refine stuck_of_appsink .go ?_ hcheck
      simp [Pipeline.appsinkNext, hpc, hdecoder, hrun]
  | feedCheck | feedPut => exact stuck_of_feed hjoin (by rw [hpc]; rfl) hrun
  | absent | created | noAppsink | setRunning | check | sendEos | exitSection | exited =>
      simp [hpc] at hahead

/-- The call of a join on an existing appsink thread blocks the main thread. -/
theorem mainNext_callAppsink {s t : State} (h : mainNext s .go = some t)
    (hcall : s.mainPc.calling = some .appsink) (hthread : s.appsinkThread = true) :
    ∃ pc, pc.joining = some .appsink ∧ t = { s with mainPc := pc } := by
  cases hpc : s.mainPc <;> simp only [hpc, MainPc.calling, reduceCtorEq, Option.some.injEq] at hcall
  · simp only [mainNext, hpc, Pipeline.stopNext] at h
    rw [if_pos hthread] at h
    cases h
    exact ⟨_, rfl, rfl⟩
  · simp only [mainNext, hpc, Pipeline.cleanNext] at h
    rw [if_pos hthread] at h
    cases h
    exact ⟨_, rfl, rfl⟩

/-- A join of an appsink thread that is not released can get stuck. -/
theorem unreleased_join_stuck {s t : State} {a : Act} (hs : AppsinkInv s)
    (h : next s a = some t) (hbad : ¬ JoinsReleased s a) : t.Stuck := by
  unfold JoinsReleased at hbad
  push Not at hbad
  obtain ⟨rfl, hcall, hthread, hreleased⟩ := hbad
  obtain ⟨pc, hjoin, rfl⟩ := mainNext_callAppsink h hcall hthread
  have halive := hs.handle.mp hthread
  obtain ⟨happsink, hdecoder⟩ := hs.alive halive
  unfold State.Released at hreleased
  push Not at hreleased
  obtain ⟨hleft, hreleased⟩ := hreleased
  cases hend : s.samplesEnd with
  | false => exact stuck_of_not_end hjoin halive happsink (by simpa using hleft) hend
  | true =>
      obtain ⟨hahead, hrun⟩ := hreleased hend
      exact stuck_of_feedAhead hjoin hdecoder hahead (by simpa using hrun)

/-! ## The stalled decoder -/

/-- MPP refuses the format of the stream and takes no packet any more: the appsink
thread retries its first packet. -/
def stalledFeed : List Act :=
  startSchedule ++
  [.frame .go, .frame (.frame { infoChange := true, fmt := .other }), .frame .go, .frame .go,
    .receiver .go, .bus .go, .bus .go] ++
  List.replicate 3 (.appsink .go) ++ [.appsink .sample] ++ List.replicate 3 (.appsink .go) ++
  [.appsink .fail]

/-- The shutdown that follows, up to the call of `stop_appsink_thread`. -/
def shutdown : List Act :=
  [.main .exit] ++ List.replicate 4 (.main .go) ++ [.receiver .go] ++
  List.replicate 2 (.main .go)

/-- `pipeline_stop` waits for the retry loop of a decoder that it stops only
after the wait. -/
theorem feed_blocks_join : ∃ s, pixelPilot.Reachable s ∧ ¬ s.JoinEnds := by
  have hrun : (pixelPilot.exec (State.initial 97 1920 1080)
      (stalledFeed ++ shutdown ++ [.main .go])).map
      (fun s => (s.mainPc, s.appsinkPc, s.vd.running)) =
      some (.stopAppsinkJoin .exit, .feedCheck, true) := by
    rfl
  rw [Option.map_eq_some_iff] at hrun
  obtain ⟨s, hexec, hstate⟩ := hrun
  simp only [Prod.mk.injEq] at hstate
  obtain ⟨hpc, happsink, hrunning⟩ := hstate
  refine ⟨s, System.reachable_of_exec ⟨_, _, _, rfl⟩ hexec, fun hends => ?_⟩
  have hstopped := (hends (by rw [hpc]; rfl)).2 (by rw [happsink]; rfl)
  simp [hrunning] at hstopped

/-! ## Joins of the appsink thread -/

/-- Every wait for the appsink thread ends by itself in the runs whose join calls
find it released, and a call that does not can be continued to a wait that does
not. -/
theorem appsink_join_ends (s : State) :
    (pixelPilot.ReachableUnder JoinsReleased s → s.JoinEnds) ∧
      (∀ t a, pixelPilot.Reachable s → pixelPilot.next s a = some t → ¬ JoinsReleased s a →
        ∃ as u, pixelPilot.exec t as = some u ∧ ¬ u.JoinEnds) :=
  ⟨fun h hjoin => (released_while_joining h hjoin).joinEnds hjoin,
    fun _ _ hs h hbad => unreleased_join_stuck (appsinkInv hs) h hbad⟩

/-- A shutdown while the appsink thread waits for a sample, and one while its
decoder stalls. -/
theorem appsink_join_ends_shutdowns :
    (∃ s : State, s.mainPc = .stopAppsinkJoin .exit ∧ s.appsinkPc = .pull ∧ s.JoinEnds) ∧
      (∃ s t : State, pixelPilot.exec (State.initial 97 1920 1080) (stalledFeed ++ shutdown) =
        some s ∧ pixelPilot.next s (.main .go) = some t ∧
        ∃ as u, pixelPilot.exec t as = some u ∧ ¬ u.JoinEnds) := by
  constructor
  · have hrun : (pixelPilot.execChecked
        (fun s _ => s.mainPc.calling != some .appsink || s.samplesEnd && !s.feedAhead)
        (State.initial 97 1920 1080)
        (startSchedule ++ .receiver .go :: List.replicate 3 (.appsink .go) ++ shutdown ++
          [.main .go])).map (fun s => (s.mainPc, s.appsinkPc)) =
        some (.stopAppsinkJoin .exit, .pull) := by
      rfl
    rw [Option.map_eq_some_iff] at hrun
    obtain ⟨s, hexec, hstate⟩ := hrun
    obtain ⟨hpc, happsink⟩ := Prod.mk.inj hstate
    have hinit : pixelPilot.ReachableUnder JoinsReleased (State.initial 97 1920 1080) :=
      .init ⟨97, 1920, 1080, rfl⟩
    have hreach : pixelPilot.ReachableUnder JoinsReleased s := by
      refine hinit.execChecked ?_ hexec
      intro s a hcheck _ hcall _
      simp only [hcall, bne_self_eq_false, Bool.false_or, Bool.and_eq_true,
        Bool.not_eq_true'] at hcheck
      exact .inr ⟨hcheck.1, by simp [hcheck.2]⟩
    exact ⟨s, hpc, happsink, (appsink_join_ends s).1 hreach⟩
  · have hrun : (pixelPilot.exec (State.initial 97 1920 1080) (stalledFeed ++ shutdown)).map
        (fun s => (s.mainPc, s.appsinkPc, s.appsinkThread, s.vd.running)) =
        some (.stopAppsink .exit, .feedCheck, true, true) := by
      rfl
    rw [Option.map_eq_some_iff] at hrun
    obtain ⟨s, hexec, hstate⟩ := hrun
    simp only [Prod.mk.injEq] at hstate
    obtain ⟨hpc, happsink, hthread, hrunning⟩ := hstate
    have hreach : pixelPilot.Reachable s :=
      System.reachable_of_exec ⟨97, 1920, 1080, rfl⟩ hexec
    obtain ⟨t, hnext⟩ : ∃ t, pixelPilot.next s (.main .go) = some t := by
      simp [pixelPilot, next, mainNext, Pipeline.stopNext, hpc, hthread]
    refine ⟨s, t, hexec, hnext, (appsink_join_ends s).2 t _ hreach hnext ?_⟩
    intro hok
    have hreleased := hok rfl (by rw [hpc]; rfl) hthread
    simp [State.Released, State.feedAhead, happsink, AppsinkPc.leftSamples, hrunning]
      at hreleased

end Pipeline
end PixelPilot
