import PixelPilot.Decoder.Model
import PixelPilot.Pipeline.UdpReceiver

/-!
# The pipeline and its threads

The main thread starts the pipeline, runs the main loop, and stops and cleans
the pipeline up; the bus thread watches the GStreamer bus; the appsink thread
feeds samples to the decoder; the UDP receiver thread feeds the pipeline; and
the decoder has its frame and display threads.  The shutdown paths end in joins
of these threads, in different orders.

One step is one critical section of `ps->lock`, of `ur->lock` or of `vd->lock`,
one access of a flag that is read or written without a lock, or one call that
may block.  Joining a thread takes two steps, the call and the return, and the
main thread is blocked between them.

Main results:

- Definition `mainNext`: `main`, `pipeline_start`, `pipeline_stop`,
  `pipeline_poll_child`, `cleanup_pipeline` and the join, stop and destroy
  functions they call.
- Definitions `busNext` and `appsinkNext`: `bus_thread_func`, and
  `appsink_thread_func` with `video_decoder_feed` and `video_decoder_send_eos`.
- Definition `pixelPilot`: the transition system of one run of the program.

Current gaps:

- Recording is not part of this model: no step below depends on `ps->recorder`,
  and `recorder_lock` is only held for bounded times.
- The forced exit of the process five seconds into the last `pipeline_stop` is
  left out.
-/

namespace PixelPilot
namespace Pipeline

/-! ## Control points -/

/-- `PipelineStateEnum`. -/
inductive PipelineStateEnum
  | stopped
  | running
  | stopping
deriving DecidableEq, Repr

/-- What the main loop does after `pipeline_stop`. -/
inductive StopFor
  | restart
  | exit
deriving DecidableEq, Repr

/-- Which call of `pipeline_start` this is: the one before the main loop, or the
one of a restart. -/
inductive StartFor
  | first
  | restart
deriving DecidableEq, Repr

/-- Who called `cleanup_pipeline`. -/
inductive Cleanup
  | stop (f : StopFor)
  | poll
  | start (f : StartFor)
deriving DecidableEq, Repr

/-- Who called `udp_receiver_stop`. -/
inductive UdpStop
  | stop (f : StopFor)
  /-- By way of `udp_receiver_destroy`. -/
  | cleanup (c : Cleanup)
deriving DecidableEq, Repr

/-- Where the main thread stands. -/
inductive MainPc
  /-- At the top of the main loop. -/
  | loop
  /-- At the start of `pipeline_poll_child`. -/
  | pollChild
  /-- Before the critical section of `pipeline_poll_child`. -/
  | pollFlag
  /-- Blocked in the join of `pipeline_poll_child`. -/
  | pollJoin
  /-- At `if (ps.state == PIPELINE_STOPPED)` in the main loop. -/
  | checkStopped
  /-- At the start of `pipeline_stop`. -/
  | stopEnter (f : StopFor)
  | stopNull (f : StopFor)
  | stopUdp (f : StopFor)
  /-- At `stop_appsink_thread`. -/
  | stopAppsink (f : StopFor)
  | stopAppsinkJoin (f : StopFor)
  /-- At `stop_bus_thread`. -/
  | stopBus (f : StopFor)
  | stopBusWait (f : StopFor)
  | stopBusJoin (f : StopFor)
  /-- In `udp_receiver_stop`, before its first critical section. -/
  | udpEnter (u : UdpStop)
  | udpJoin (u : UdpStop)
  | udpLeave (u : UdpStop)
  /-- At the start of `cleanup_pipeline`. -/
  | cleanAppsink (c : Cleanup)
  | cleanAppsinkJoin (c : Cleanup)
  | cleanBus (c : Cleanup)
  | cleanBusJoin (c : Cleanup)
  | cleanUdp (c : Cleanup)
  /-- In `udp_receiver_destroy`, after `udp_receiver_stop`. -/
  | cleanDestroy (c : Cleanup)
  | cleanPipeline (c : Cleanup)
  | cleanDecoder (c : Cleanup)
  /-- In `video_decoder_stop`, called by `video_decoder_deinit` if `inDeinit`. -/
  | decoderStop (c : Cleanup) (inDeinit : Bool)
  | decoderJoinFrame (c : Cleanup) (inDeinit : Bool)
  | decoderJoinDisplay (c : Cleanup) (inDeinit : Bool)
  | cleanDeinit (c : Cleanup)
  | cleanFree (c : Cleanup)
  /-- After the last step of `cleanup_pipeline`. -/
  | cleanDone (c : Cleanup)
  /-- At the start of `pipeline_start`. -/
  | startEnter (f : StartFor)
  | startElements (f : StartFor)
  | startUdp (f : StartFor)
  | startPlaying (f : StartFor)
  | startDecoderNew (f : StartFor)
  | startDecoderInit (f : StartFor)
  /-- In `video_decoder_start`. -/
  | startFrame (f : StartFor)
  | startDisplay (f : StartFor)
  | startDisplayFail (f : StartFor)
  | startRunning (f : StartFor)
  | startAppsink (f : StartFor)
  | startBus (f : StartFor)
  | startDone (f : StartFor)
  | exited
deriving DecidableEq, Repr

/-- Where the bus thread stands. -/
inductive BusPc
  /-- Not created, or its handle was already joined. -/
  | absent
  | created
  /-- Before the critical section of the early exit for a missing bus. -/
  | noBus
  /-- Before the store `bus_thread_running = TRUE`. -/
  | gotBus
  /-- In `gst_bus_timed_pop`. -/
  | pop
  | readStop
  | onError
  | onEos
  /-- Before the store `bus_thread_running = FALSE`. -/
  | finish
  | exited
deriving DecidableEq, Repr

/-- Where the appsink thread stands. -/
inductive AppsinkPc
  /-- Not created, or its handle was already joined. -/
  | absent
  | created
  /-- Before the critical section of the early exit without an appsink. -/
  | noAppsink
  | setRunning
  /-- Before the critical section at the top of the sample loop. -/
  | check
  /-- In `gst_app_sink_try_pull_sample`. -/
  | pull
  /-- Before the critical section that gives the sample to the recorder. -/
  | record
  /-- In `video_decoder_feed`, before its first test of `running`. -/
  | feedGuard
  /-- At the loop condition of `video_decoder_feed`. -/
  | feedCheck
  /-- In `decode_put_packet`, called by `video_decoder_feed`. -/
  | feedPut
  /-- In `video_decoder_send_eos`, after `attempts` failed attempts. -/
  | sendEos (attempts : Nat)
  | exitSection
  | exited
deriving DecidableEq, Repr

/-! ## The state of the program -/

/-- The fields of `PipelineState`, where a Boolean for a pointer tells whether it
is not NULL, the threads with their own data, and the configuration. -/
structure State where
  state : PipelineStateEnum
  pipeline : Option Gst
  appsink : Bool
  udpReceiver : Option Receiver
  busThread : Bool
  appsinkThread : Bool
  busThreadRunning : Bool
  stopRequested : Bool
  encounteredError : Bool
  decoder : Bool
  decoderInitialized : Bool
  decoderRunning : Bool
  appsinkThreadRunning : Bool
  vd : Decoder.State
  mainPc : MainPc
  busPc : BusPc
  appsinkPc : AppsinkPc
  vidPt : Int
deriving DecidableEq, Repr

/-- The decoder as `video_decoder_init` leaves it. -/
def decoderInit (modeW modeH : Nat) : Decoder.State :=
  { Decoder.start modeW modeH with
    running := false
    framePc := .absent
    displayPc := .absent }

/-- The program right before the first `pipeline_start`. -/
def State.initial (vidPt : Int) (modeW modeH : Nat) : State where
  state := .stopped
  pipeline := none
  appsink := false
  udpReceiver := none
  busThread := false
  appsinkThread := false
  busThreadRunning := false
  stopRequested := false
  encounteredError := false
  decoder := false
  decoderInitialized := false
  decoderRunning := false
  appsinkThreadRunning := false
  vd := decoderInit modeW modeH
  mainPc := .startEnter .first
  busPc := .absent
  appsinkPc := .absent
  vidPt := vidPt

/-- What the environment answers to a step of the main thread, and which signal
the top of the main loop finds. -/
inductive MainChoice
  | go
  /-- The call fails, or the wait reaches its deadline. -/
  | fail
  | restart
  | exit
deriving DecidableEq, Repr

/-- What the environment answers to a step of the bus thread: `go` also stands
for no message. -/
inductive BusChoice
  | go
  | fail
  | error
  | eos
  | other
deriving DecidableEq, Repr

/-- What the environment answers to a step of the appsink thread: `sample` is a
sample whose buffer can be mapped and has an admitted size. -/
inductive AppsinkChoice
  | go
  | fail
  | sample
deriving DecidableEq, Repr

/-- What the GStreamer pipeline does by itself. -/
inductive GstChoice
  /-- It fails or reaches EOS, and stops consuming. -/
  | stall
  /-- It returns one buffer to the pool. -/
  | consume
deriving DecidableEq, Repr

/-- An action: whose step it is and what the environment answers. -/
inductive Act
  | main (c : MainChoice)
  | bus (c : BusChoice)
  | appsink (c : AppsinkChoice)
  | receiver (c : ReceiverChoice)
  | frame (c : Decoder.FrameChoice)
  | display (c : Decoder.DisplayChoice)
  | gst (c : GstChoice)
deriving DecidableEq, Repr

/-! ## Steps of the main thread -/

/-- Where the main thread goes after `pipeline_stop`. -/
def afterStop : StopFor → MainPc
  | .restart => .startEnter .restart
  | .exit => .exited

/-- Where the main thread goes after `pipeline_start` returned 0. -/
def afterStart : StartFor → MainPc
  | .first => .loop
  | .restart => .pollChild

/-- Where the main thread goes after `pipeline_start` returned -1. -/
def afterFailedStart : StartFor → MainPc
  | .first => .exited
  | .restart => .pollChild

/-- Where the main thread goes after `udp_receiver_stop`. -/
def afterUdpStop : UdpStop → MainPc
  | .stop f => .stopAppsink f
  | .cleanup c => .cleanDestroy c

/-- `gst_element_set_state(ps->pipeline, GST_STATE_NULL)`: the pool gets its
buffers back. -/
def State.setNull (s : State) : State :=
  { s with
    pipeline := s.pipeline.map fun _ => .null
    udpReceiver := s.udpReceiver.map fun r => { r with held := 0 } }

/-- The end of `cleanup_pipeline` and what its caller does next. -/
def State.afterCleanup (s : State) : Cleanup → State
  | .stop f => { s with state := .stopped, mainPc := afterStop f }
  | .poll => { s with state := .stopped, mainPc := .checkStopped }
  | .start f => { s with mainPc := afterFailedStart f }

/-- The assignments at the start of `pipeline_start`. -/
def State.resetFields (s : State) : State :=
  { s with
    pipeline := none
    appsink := false
    udpReceiver := none
    busThread := false
    appsinkThread := false
    busThreadRunning := false
    appsinkThreadRunning := false
    stopRequested := false
    encounteredError := false }

/-- One step of `udp_receiver_stop` and `udp_receiver_destroy`. -/
def udpNext (s : State) (r : Receiver) (c : MainChoice) : Option State :=
  match s.mainPc, c with
  | .udpEnter u, .go =>
      if r.running then
        some
          { s with udpReceiver := some { r with stopRequested := true }, mainPc := .udpJoin u }
      else some { s with mainPc := afterUdpStop u }
  | .udpJoin u, .go =>
      if r.thread then
        if r.pc = .exited then
          some
            { s with
              udpReceiver := some { r with thread := false, pc := .absent }
              mainPc := .udpLeave u }
        else none
      else some { s with mainPc := .udpLeave u }
  | .udpLeave u, .go =>
      some
        { s with
          udpReceiver := some { r with running := false, stopRequested := false }
          mainPc := afterUdpStop u }
  | .cleanDestroy c, .go => some { s with udpReceiver := none, mainPc := .cleanPipeline c }
  | _, _ => none

/-- One step of `pipeline_start` and `video_decoder_start`. -/
def startNext (s : State) (c : MainChoice) : Option State :=
  match s.mainPc, c with
  | .startEnter f, .go =>
      if s.state ≠ .stopped then some { s with mainPc := afterFailedStart f }
      else some { s.resetFields with mainPc := .startElements f }
  | .startElements f, .fail => some { s with mainPc := .cleanAppsink (.start f) }
  | .startElements f, .go =>
      some
        { s with
          pipeline := some .ready
          appsink := true
          udpReceiver := some { vidPt := s.vidPt }
          mainPc := .startUdp f }
  | .startUdp f, .fail => some { s with mainPc := .cleanAppsink (.start f) }
  | .startUdp f, .go =>
      some
        { s with
          udpReceiver := s.udpReceiver.map fun r =>
            { r with running := true, stopRequested := false, thread := true, pc := .created }
          mainPc := .startPlaying f }
  | .startPlaying f, .fail =>
      some { s with pipeline := some .stalled, mainPc := .cleanAppsink (.start f) }
  | .startPlaying f, .go =>
      some { s with pipeline := some .playing, mainPc := .startDecoderNew f }
  | .startDecoderNew f, .fail =>
      if s.decoder then none else some { s with mainPc := .cleanAppsink (.start f) }
  | .startDecoderNew f, .go => some { s with decoder := true, mainPc := .startDecoderInit f }
  | .startDecoderInit f, .fail => some { s with mainPc := .cleanAppsink (.start f) }
  | .startDecoderInit f, .go =>
      some
        { s with
          vd := decoderInit s.vd.modeW s.vd.modeH
          decoderInitialized := true
          mainPc := .startFrame f }
  | .startFrame f, .fail =>
      some
        { s with
          vd := { s.vd with running := false }
          mainPc := .cleanAppsink (.start f) }
  | .startFrame f, .go =>
      some
        { s with
          vd := { s.vd with running := true, framePc := .check }
          mainPc := .startDisplay f }
  | .startDisplay f, .fail =>
      some { s with vd := { s.vd with running := false }, mainPc := .startDisplayFail f }
  | .startDisplay f, .go =>
      some { s with vd := { s.vd with displayPc := .lock }, mainPc := .startRunning f }
  | .startDisplayFail f, .go =>
      if s.vd.framePc = .exited then
        some
          { s with
            vd := { s.vd with framePc := .absent }
            mainPc := .cleanAppsink (.start f) }
      else none
  | .startRunning f, .go => some { s with decoderRunning := true, mainPc := .startAppsink f }
  | .startAppsink f, .fail => some { s with mainPc := .cleanAppsink (.start f) }
  | .startAppsink f, .go =>
      some { s with appsinkThread := true, appsinkPc := .created, mainPc := .startBus f }
  | .startBus f, .fail => some { s with mainPc := .cleanAppsink (.start f) }
  | .startBus f, .go =>
      some { s with busThread := true, busPc := .created, mainPc := .startDone f }
  | .startDone f, .go => some { s with state := .running, mainPc := afterStart f }
  | _, _ => none

/-- One step of `pipeline_stop` up to its call of `cleanup_pipeline`. -/
def stopNext (s : State) (c : MainChoice) : Option State :=
  match s.mainPc, c with
  | .stopEnter f, .go =>
      if s.state = .stopped then some { s with mainPc := afterStop f }
      else some { s with state := .stopping, stopRequested := true, mainPc := .stopNull f }
  | .stopNull f, .go => some { s.setNull with mainPc := .stopUdp f }
  | .stopUdp f, .go =>
      if s.udpReceiver.isSome then some { s with mainPc := .udpEnter (.stop f) }
      else some { s with mainPc := .stopAppsink f }
  | .stopAppsink f, .go =>
      if s.appsinkThread then some { s with mainPc := .stopAppsinkJoin f }
      else some { s with mainPc := .stopBus f }
  | .stopAppsinkJoin f, .go =>
      if s.appsinkPc = .exited then
        some { s with appsinkThread := false, appsinkPc := .absent, mainPc := .stopBus f }
      else none
  | .stopBus f, .go =>
      if s.busThread then some { s with mainPc := .stopBusWait f }
      else some { s with mainPc := .cleanAppsink (.stop f) }
  | .stopBusWait f, .go =>
      if s.busThreadRunning then none else some { s with mainPc := .stopBusJoin f }
  | .stopBusWait f, .fail => some { s with mainPc := .stopBusJoin f }
  | .stopBusJoin f, .go =>
      if s.busPc = .exited then
        some
          { s with
            busThread := false
            busPc := .absent
            mainPc := .cleanAppsink (.stop f) }
      else none
  | _, _ => none

/-- One step of `cleanup_pipeline` and of the decoder functions it calls. -/
def cleanNext (s : State) (c : MainChoice) : Option State :=
  match s.mainPc, c with
  | .cleanAppsink c, .go =>
      if s.appsinkThread then some { s with mainPc := .cleanAppsinkJoin c }
      else some { s with mainPc := .cleanBus c }
  | .cleanAppsinkJoin c, .go =>
      if s.appsinkPc = .exited then
        some { s with appsinkThread := false, appsinkPc := .absent, mainPc := .cleanBus c }
      else none
  | .cleanBus c, .go =>
      if s.busThread then some { s with mainPc := .cleanBusJoin c }
      else some { s with mainPc := .cleanUdp c }
  | .cleanBusJoin c, .go =>
      if s.busPc = .exited then
        some { s with busThread := false, busPc := .absent, mainPc := .cleanUdp c }
      else none
  | .cleanUdp c, .go =>
      if s.udpReceiver.isSome then some { s with mainPc := .udpEnter (.cleanup c) }
      else some { s with mainPc := .cleanPipeline c }
  | .cleanPipeline c, .go =>
      some
        { s with
          pipeline := none
          appsink := false
          mainPc := .cleanDecoder c }
  | .cleanDecoder c, .go =>
      if s.decoderRunning then some { s with mainPc := .decoderStop c false }
      else some { s with mainPc := .cleanDeinit c }
  -- The EOS packet and the reset of MPP that follow take a bounded time.
  | .decoderStop c inDeinit, .go =>
      some { s with vd := s.vd.stopSection, mainPc := .decoderJoinFrame c inDeinit }
  | .decoderJoinFrame c inDeinit, .go =>
      if s.vd.framePc = .absent ∨ s.vd.framePc = .exited then
        some
          { s with
            vd := { s.vd with framePc := .absent }
            mainPc := .decoderJoinDisplay c inDeinit }
      else none
  | .decoderJoinDisplay c inDeinit, .go =>
      if s.vd.displayPc = .absent ∨ s.vd.displayPc = .exited then
        if inDeinit then
          some
            { s with
              vd := { s.vd with displayPc := .absent }
              decoderInitialized := false
              mainPc := .cleanFree c }
        else
          some
            { s with
              vd := { s.vd with displayPc := .absent }
              decoderRunning := false
              mainPc := .cleanDeinit c }
      else none
  | .cleanDeinit c, .go =>
      if s.decoderInitialized then some { s with mainPc := .decoderStop c true }
      else some { s with mainPc := .cleanFree c }
  | .cleanFree c, .go => some { s with decoder := false, mainPc := .cleanDone c }
  | .cleanDone c, .go => some (s.afterCleanup c)
  | _, _ => none

/-- One step of the main loop and of `pipeline_poll_child`. -/
def loopNext (s : State) (c : MainChoice) : Option State :=
  match s.mainPc, c with
  | .loop, .go => some { s with mainPc := .pollChild }
  | .loop, .restart => some { s with mainPc := .stopEnter .restart }
  | .loop, .exit => some { s with mainPc := .stopEnter .exit }
  | .pollChild, .go =>
      if s.busThread then some { s with mainPc := .pollFlag }
      else some { s with mainPc := .checkStopped }
  | .pollFlag, .go =>
      if s.busThreadRunning then some { s with mainPc := .checkStopped }
      else some { s with mainPc := .pollJoin }
  | .pollJoin, .go =>
      if s.busPc = .exited then
        some { s with busThread := false, busPc := .absent, mainPc := .cleanAppsink .poll }
      else none
  | .checkStopped, .go =>
      if s.state = .stopped then some { s with mainPc := .stopEnter .exit }
      else some { s with mainPc := .loop }
  | _, _ => none

/-- One step of the main thread. -/
def mainNext (s : State) (c : MainChoice) : Option State :=
  match s.mainPc with
  | .loop | .pollChild | .pollFlag | .pollJoin | .checkStopped => loopNext s c
  | .stopEnter _ | .stopNull _ | .stopUdp _ | .stopAppsink _ | .stopAppsinkJoin _ | .stopBus _
  | .stopBusWait _ | .stopBusJoin _ => stopNext s c
  | .udpEnter _ | .udpJoin _ | .udpLeave _ | .cleanDestroy _ =>
      match s.udpReceiver with
      | none => none
      | some r => udpNext s r c
  | .cleanAppsink _ | .cleanAppsinkJoin _ | .cleanBus _ | .cleanBusJoin _ | .cleanUdp _
  | .cleanPipeline _ | .cleanDecoder _ | .decoderStop _ _ | .decoderJoinFrame _ _
  | .decoderJoinDisplay _ _ | .cleanDeinit _ | .cleanFree _ | .cleanDone _ => cleanNext s c
  | .startEnter _ | .startElements _ | .startUdp _ | .startPlaying _ | .startDecoderNew _
  | .startDecoderInit _ | .startFrame _ | .startDisplay _ | .startDisplayFail _
  | .startRunning _ | .startAppsink _ | .startBus _ | .startDone _ => startNext s c
  | .exited => none

/-- A step of the main thread is a step of one of its five parts. -/
theorem mainNext_cases {s t : State} {c : MainChoice} (h : mainNext s c = some t) :
    loopNext s c = some t ∨ stopNext s c = some t ∨
      (∃ r, s.udpReceiver = some r ∧ udpNext s r c = some t) ∨ cleanNext s c = some t ∨
      startNext s c = some t := by
  unfold mainNext at h
  split at h
  all_goals try simp only [h, true_or, or_true]
  all_goals try contradiction
  all_goals
    split at h
    · contradiction
    · rename_i r hr
      exact .inr (.inr (.inl ⟨r, hr, h⟩))

/-! ## Steps of the bus thread and the appsink thread -/

/-- One step of `bus_thread_func`. -/
def busNext (s : State) (c : BusChoice) : Option State :=
  match s.busPc, c with
  | .created, .fail => some { s with busPc := .noBus }
  | .created, .go => some { s with busPc := .gotBus }
  | .noBus, .go =>
      some { s with encounteredError := true, busThreadRunning := false, busPc := .exited }
  | .gotBus, .go => some { s with busThreadRunning := true, busPc := .pop }
  | .pop, .go => some { s with busPc := .readStop }
  | .pop, .error => some { s with busPc := .onError }
  | .pop, .eos => some { s with busPc := .onEos }
  | .pop, .other => some { s with busPc := .pop }
  | .readStop, .go => some { s with busPc := if s.stopRequested then .finish else .pop }
  | .onError, .go =>
      some { s with encounteredError := true, stopRequested := true, busPc := .finish }
  | .onEos, .go => some { s with stopRequested := true, busPc := .finish }
  | .finish, .go => some { s with busThreadRunning := false, busPc := .exited }
  | _, _ => none

/-- Does the pipeline give samples to the appsink? -/
def State.sampling (s : State) : Bool :=
  s.pipeline == some .playing || s.pipeline == some .stalled

/-- Where `appsink_thread_func` goes when its sample loop ends. -/
def State.afterSamples (s : State) : AppsinkPc :=
  if s.decoder then .sendEos 0 else .exitSection

/-- One step of `appsink_thread_func`. -/
def appsinkNext (s : State) (c : AppsinkChoice) : Option State :=
  match s.appsinkPc, c with
  | .created, .go => some { s with appsinkPc := if s.appsink then .setRunning else .noAppsink }
  | .noAppsink, .go => some { s with appsinkThreadRunning := false, appsinkPc := .exited }
  | .setRunning, .go => some { s with appsinkThreadRunning := true, appsinkPc := .check }
  | .check, .go =>
      if s.stopRequested || !s.decoderRunning then some { s with appsinkPc := s.afterSamples }
      else some { s with appsinkPc := .pull }
  | .pull, .go => some { s with appsinkPc := .check }
  | .pull, .sample => if s.sampling then some { s with appsinkPc := .record } else none
  | .record, .go => some { s with appsinkPc := .feedGuard }
  -- `fail` stands for a packet that is larger than the packet buffer.
  | .feedGuard, .go =>
      some { s with appsinkPc := if s.decoder && s.vd.running then .feedCheck else .check }
  | .feedGuard, .fail => some { s with appsinkPc := .check }
  | .feedCheck, .go => some { s with appsinkPc := if s.vd.running then .feedPut else .check }
  | .feedPut, .go => some { s with appsinkPc := .check }
  | .feedPut, .fail => some { s with appsinkPc := .feedCheck }
  | .sendEos _, .go => some { s with appsinkPc := .exitSection }
  | .sendEos attempts, .fail =>
      some
        { s with
          appsinkPc := if attempts + 1 > 50 then .exitSection else .sendEos (attempts + 1) }
  | .exitSection, .go => some { s with appsinkThreadRunning := false, appsinkPc := .exited }
  | _, _ => none

/-! ## Steps of the receiver thread, the decoder and GStreamer -/

/-- One step of the receiver thread. -/
def receiverNext (s : State) (c : ReceiverChoice) : Option State :=
  match s.udpReceiver with
  | none => none
  | some r =>
      (r.next (s.pipeline.getD .null) c).map fun r => { s with udpReceiver := some r }

/-- One step of the frame thread. -/
def frameNext (s : State) (c : Decoder.FrameChoice) : Option State :=
  (Decoder.frameNext s.vd c).map fun vd => { s with vd := vd }

/-- One step of the display thread. -/
def displayNext (s : State) (c : Decoder.DisplayChoice) : Option State :=
  (Decoder.displayNext s.vd c).map fun vd => { s with vd := vd }

/-- One step of the GStreamer pipeline, which acts only while it is playing. -/
def gstNext (s : State) (c : GstChoice) : Option State :=
  if s.pipeline = some .playing then
    match c with
    | .stall => some { s with pipeline := some .stalled }
    | .consume =>
        some
          { s with
            udpReceiver := s.udpReceiver.map fun r => { r with held := r.held - 1 } }
  else none

/-- One step of the program. -/
def next (s : State) : Act → Option State
  | .main c => mainNext s c
  | .bus c => busNext s c
  | .appsink c => appsinkNext s c
  | .receiver c => receiverNext s c
  | .frame c => frameNext s c
  | .display c => displayNext s c
  | .gst c => gstNext s c

/-! ## Calls of a join -/

/-- The joins of the shutdown paths on threads that run in the pipeline. -/
inductive Join
  /-- Of the bus thread in `pipeline_poll_child`. -/
  | poll
  /-- Of the appsink thread, on any path. -/
  | appsink
  /-- Of the receiver thread in `udp_receiver_stop`, on any path. -/
  | receiver
deriving DecidableEq, Repr

/-- The join the main thread is blocked in. -/
def MainPc.joining : MainPc → Option Join
  | .pollJoin => some .poll
  | .stopAppsinkJoin _ | .cleanAppsinkJoin _ => some .appsink
  | .udpJoin _ => some .receiver
  | _ => none

/-- The join the main thread is about to call. -/
def MainPc.calling : MainPc → Option Join
  | .pollFlag => some .poll
  | .stopAppsink _ | .cleanAppsink _ => some .appsink
  | .udpEnter _ => some .receiver
  | _ => none

/-- The call of a join, from the state before to the state in which the main
thread is blocked. -/
inductive JoinCall (s t : State) : Join → Prop
  | poll (hpc : s.mainPc = .pollFlag) (hflag : s.busThreadRunning = false)
      (ht : t = { s with mainPc := .pollJoin }) : JoinCall s t .poll
  | appsink (pc : MainPc) (hpc : s.mainPc.calling = some .appsink)
      (hthread : s.appsinkThread = true) (ht : t = { s with mainPc := pc }) :
      JoinCall s t .appsink
  | receiver (u : UdpStop) (r : Receiver) (hpc : s.mainPc = .udpEnter u)
      (hr : s.udpReceiver = some r) (hrunning : r.running = true)
      (ht : t = { s with
        udpReceiver := some { r with stopRequested := true }, mainPc := .udpJoin u }) :
      JoinCall s t .receiver

/-- A join that a turn of the main loop enters. -/
theorem joinCall_of_loopNext {s t : State} {c : MainChoice} {j : Join}
    (h : loopNext s c = some t) (hj : t.mainPc.joining = some j) :
    c = .go ∧ JoinCall s t j := by
  unfold loopNext at h
  split at h <;> rename_i hpc
  all_goals try split at h
  all_goals cases h
  all_goals simp only [MainPc.joining, reduceCtorEq, Option.some.injEq] at hj
  rename_i hflag
  subst hj
  exact ⟨rfl, .poll hpc (by simpa using hflag) rfl⟩

/-- A join that `pipeline_stop` enters. -/
theorem joinCall_of_stopNext {s t : State} {c : MainChoice} {j : Join}
    (h : stopNext s c = some t) (hj : t.mainPc.joining = some j) :
    c = .go ∧ JoinCall s t j := by
  unfold stopNext at h
  split at h <;> rename_i hpc
  all_goals try cases ‹StopFor›
  all_goals try split at h
  all_goals cases h
  all_goals simp only [afterStop, MainPc.joining, reduceCtorEq, Option.some.injEq] at hj
  all_goals
    rename_i hthread
    subst hj
    exact ⟨rfl, .appsink _ (by rw [hpc]; rfl) hthread rfl⟩

/-- A join that `udp_receiver_stop` enters. -/
theorem joinCall_of_udpNext {s t : State} {r : Receiver} {c : MainChoice} {j : Join}
    (hr : s.udpReceiver = some r) (h : udpNext s r c = some t)
    (hj : t.mainPc.joining = some j) : c = .go ∧ JoinCall s t j := by
  unfold udpNext at h
  split at h <;> rename_i hpc
  all_goals try cases ‹UdpStop›
  all_goals try split at h
  all_goals try split at h
  all_goals cases h
  all_goals simp only [afterUdpStop, MainPc.joining, reduceCtorEq, Option.some.injEq] at hj
  all_goals
    rename_i hrunning
    subst hj
    exact ⟨rfl, .receiver _ r hpc hr hrunning rfl⟩

/-- A join that `cleanup_pipeline` enters. -/
theorem joinCall_of_cleanNext {s t : State} {c : MainChoice} {j : Join}
    (h : cleanNext s c = some t) (hj : t.mainPc.joining = some j) :
    c = .go ∧ JoinCall s t j := by
  unfold cleanNext at h
  split at h <;> rename_i hpc
  all_goals try split at h
  all_goals try split at h
  all_goals cases h
  all_goals try simp only [MainPc.joining, reduceCtorEq, Option.some.injEq] at hj
  · rename_i hthread
    subst hj
    exact ⟨rfl, .appsink _ (by rw [hpc]; rfl) hthread rfl⟩
  · rename_i d
    rcases d with f | _ | f
    · cases f <;> simp [State.afterCleanup, afterStop] at hj
    · simp [State.afterCleanup] at hj
    · cases f <;> simp [State.afterCleanup, afterFailedStart] at hj

/-- `pipeline_start` joins nothing itself. -/
theorem joining_of_startNext {s t : State} {c : MainChoice} (h : startNext s c = some t) :
    t.mainPc.joining = none := by
  unfold startNext at h
  split at h
  all_goals try cases ‹StartFor›
  all_goals try split at h
  all_goals cases h
  all_goals rfl

/-- The main thread gets into a join only by calling it. -/
theorem joinCall_of_mainNext {s t : State} {c : MainChoice} {j : Join}
    (h : mainNext s c = some t) (hj : t.mainPc.joining = some j) :
    c = .go ∧ JoinCall s t j := by
  rcases mainNext_cases h with hloop | hstop | ⟨r, hr, hudp⟩ | hclean | hstart
  · exact joinCall_of_loopNext hloop hj
  · exact joinCall_of_stopNext hstop hj
  · exact joinCall_of_udpNext hr hudp hj
  · exact joinCall_of_cleanNext hclean hj
  · rw [joining_of_startNext hstart] at hj
    contradiction

/-! ## What each thread writes -/

/-- The bus thread exists and has not exited when it takes a step; it writes only
its flags, and never clears `stop_requested`. -/
theorem busNext_frame {s t : State} {c : BusChoice} (h : busNext s c = some t) :
    s.busPc ≠ .absent ∧ s.busPc ≠ .exited ∧ t.busPc ≠ .absent ∧
      (∃ pc flag stop error, t = { s with
        busPc := pc
        busThreadRunning := flag
        stopRequested := stop
        encounteredError := error } ∧ (s.stopRequested = true → stop = true)) := by
  unfold busNext at h
  split at h <;> rename_i hpc
  all_goals try contradiction
  all_goals
    cases h
    refine ⟨by simp [hpc], by simp [hpc], ?_, _, _, _, _, rfl, by simp⟩
  all_goals simp
  split <;> simp

/-- The appsink thread exists when it takes a step, and writes only its own flag. -/
theorem appsinkNext_frame {s t : State} {c : AppsinkChoice} (h : appsinkNext s c = some t) :
    s.appsinkPc ≠ .absent ∧ t.appsinkPc ≠ .absent ∧
      ∃ pc flag, t = { s with appsinkPc := pc, appsinkThreadRunning := flag } := by
  unfold appsinkNext at h
  split at h <;> rename_i hpc
  all_goals try split at h
  all_goals try contradiction
  all_goals
    cases h
    refine ⟨by simp [hpc], ?_, _, _, rfl⟩
  all_goals try simp
  all_goals try unfold State.afterSamples
  all_goals split <;> simp

/-- The receiver thread writes only its own data. -/
theorem receiverNext_frame {s t : State} {c : ReceiverChoice} (h : receiverNext s c = some t) :
    ∃ r u, s.udpReceiver = some r ∧ r.next (s.pipeline.getD .null) c = some u ∧
      t = { s with udpReceiver := some u } := by
  unfold receiverNext at h
  split at h
  · contradiction
  · rename_i r hr
    rw [Option.map_eq_some_iff] at h
    obtain ⟨u, hu, rfl⟩ := h
    exact ⟨r, u, hr, hu, rfl⟩

/-- The decoder's threads write only the decoder. -/
theorem frameNext_frame {s t : State} {c : Decoder.FrameChoice} (h : frameNext s c = some t) :
    ∃ vd, Decoder.frameNext s.vd c = some vd ∧ t = { s with vd := vd } := by
  unfold frameNext at h
  rw [Option.map_eq_some_iff] at h
  obtain ⟨vd, hvd, rfl⟩ := h
  exact ⟨vd, hvd, rfl⟩

theorem displayNext_frame {s t : State} {c : Decoder.DisplayChoice}
    (h : displayNext s c = some t) :
    ∃ vd, Decoder.displayNext s.vd c = some vd ∧ t = { s with vd := vd } := by
  unfold displayNext at h
  rw [Option.map_eq_some_iff] at h
  obtain ⟨vd, hvd, rfl⟩ := h
  exact ⟨vd, hvd, rfl⟩

/-- The GStreamer pipeline acts only while it is playing. -/
theorem gstNext_frame {s t : State} {c : GstChoice} (h : gstNext s c = some t) :
    s.pipeline = some .playing ∧ ∃ p u, t = { s with pipeline := some p, udpReceiver := u } ∧
      (p = .playing ∨ p = .stalled) := by
  unfold gstNext at h
  split at h
  · rename_i hplaying
    refine ⟨hplaying, ?_⟩
    cases c with
    | stall =>
        cases h
        exact ⟨_, _, rfl, .inr rfl⟩
    | consume =>
        cases h
        refine ⟨.playing, s.udpReceiver.map fun r => { r with held := r.held - 1 }, ?_, .inl rfl⟩
        rw [← hplaying]
  · contradiction

/-- All runs of the program, for any configuration and display mode. -/
def pixelPilot : Transition.System State Act where
  init s := ∃ vidPt modeW modeH, s = State.initial vidPt modeW modeH
  next := next

/-! ## Schedules -/

/-- A `pipeline_start` in which every call succeeds. -/
def startSchedule : List Act :=
  List.replicate 12 (.main .go)

end Pipeline
end PixelPilot
