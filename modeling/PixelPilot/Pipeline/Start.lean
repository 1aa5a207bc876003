import PixelPilot.Decoder.Resources
import PixelPilot.Pipeline.Model

/-!
# What a start acquires

`pipeline_start` with the functions it calls and the `cleanup_pipeline` behind its
label `fail`, as one call.  What the system answers, and what the created threads do
before they are joined, is part of the call; a log records what was acquired and
released.

Main results:

- Definitions `createUdpAppSource`, `udpReceiverStart`, `udpReceiverDestroy`,
  `videoDecoderStart` and `cleanupPipeline`.
- Definition `pipelineStart`: the whole call, which may wait for a thread for ever.

Current gaps:

- A call has no result when the system hands out what is already in use.
- The frame thread ends when `running` is cleared: `decode_get_frame` returns.
- `ps->recorder` is left out: no call of `pipeline_start` installs a recorder.
-/

namespace PixelPilot
namespace Pipeline

/-! ## Resources -/

/-- The elements between the source and the sink, both included. -/
inductive Element
  | appsrc
  | queue
  | depay
  | parser
  | capsfilter
  | appsink
deriving DecidableEq, Repr

/-- The threads that belong to a pipeline. -/
inductive PipelineThread
  | receiver
  | frame
  | display
  | appsink
  | bus
deriving DecidableEq, Repr

/-- What a call of `pipeline_start` acquires, but for what the decoder acquires. -/
inductive StartResource
  | pipeline
  | element (e : Element)
  | appsrcCaps
  | rawCaps
  | receiver
  /-- The reference that `udp_receiver_create` takes. -/
  | appsrcRef
  | socket
  | pool
  | decoder
  | thread (t : PipelineThread)
deriving DecidableEq, Repr

abbrev StartLog := List (Ledger.Event StartResource)

/-- The elements created after the source. -/
def laterElements : List Element :=
  [.queue, .depay, .parser, .capsfilter, .appsink]

/-! ## The state of a call -/

/-- `struct UdpReceiver`: whether its socket, thread and pool are there. -/
structure UdpReceiver where
  running : Bool := false
  sockfd : Bool := false
  thread : Bool := false
  pool : Bool := false
deriving DecidableEq, Repr

/-- `struct VideoDecoder` with its two thread handles. -/
structure DecoderObject where
  vd : Decoder.VideoDecoder := Decoder.videoDecoderNew
  frameThread : Bool := false
  displayThread : Bool := false
deriving DecidableEq, Repr

/-- `PipelineState`, where a Boolean for a pointer tells whether it is not NULL. -/
structure PipelineState where
  state : PipelineStateEnum := .stopped
  pipeline : Bool := false
  appsink : Bool := false
  udpReceiver : Option UdpReceiver := none
  busThread : Bool := false
  appsinkThread : Bool := false
  decoder : Option DecoderObject := none
  decoderInitialized : Bool := false
  decoderRunning : Bool := false
  stopRequested : Bool := false
deriving DecidableEq, Repr

/-- `ps` during a call, with what the call acquired and released; `decoderLog` is the
log of the decoder that was freed. -/
structure StartCall where
  ps : PipelineState := {}
  log : StartLog := []
  decoderLog : Decoder.Log := []
deriving DecidableEq, Repr

namespace StartCall

/-- Record an acquisition. -/
def acquire (c : StartCall) (r : StartResource) : StartCall :=
  { c with log := c.log ++ [.acquired r] }

/-- Record a release. -/
def release (c : StartCall) (r : StartResource) : StartCall :=
  { c with log := c.log ++ [.released r] }

/-- Record the release of what is there. -/
def releaseIf (c : StartCall) (b : Bool) (r : StartResource) : StartCall :=
  if b then c.release r else c

end StartCall

/-- `GstStateChangeReturn`. -/
inductive GstStateChangeReturn
  | failure
  | success
  | async
  | noPreroll
deriving DecidableEq, Repr

/-- An info-change frame with what the system answers while its buffers are set up. -/
structure FrameAnswers where
  frame : Decoder.MppFrame
  group : Option Nat
  slots : List Decoder.SlotAnswers
deriving DecidableEq, Repr

/-- What the system answers during a call.  A Boolean tells whether the call of that
name succeeds. -/
structure StartAnswers where
  pipelineNew : Bool := true
  element : Element → Bool := fun _ => true
  appsrcCaps : Bool := true
  receiverCreate : Bool := true
  rawCaps : Bool := true
  link : Bool := true
  socket : Bool := true
  bind : Bool := true
  receiverThread : Bool := true
  /-- The receiver thread creates its pool before it ends. -/
  pool : Bool := false
  /-- The receiver thread gets into `gst_buffer_pool_acquire_buffer` while the pipeline
  holds every buffer of the pool. -/
  poolExhausted : Bool := false
  setState : GstStateChangeReturn := .success
  getState : GstStateChangeReturn := .success
  decoderNew : Bool := true
  init : Decoder.InitAnswers := {}
  frameThread : Bool := true
  displayThread : Bool := true
  /-- The info-change frames that the frame thread gets before it ends. -/
  frames : List FrameAnswers := []
  appsinkThread : Bool := true
  busThread : Bool := true

/-! ## The functions called -/

/-- `create_udp_app_source`: whether it returns the source and a receiver. -/
def createUdpAppSource (answers : StartAnswers) (c : StartCall) : Bool × StartCall :=
  if !answers.element .appsrc then (false, c)
  else
    let c := c.acquire (.element .appsrc)
    if !answers.appsrcCaps then (false, c.release (.element .appsrc))
    else
      let c := (c.acquire .appsrcCaps).release .appsrcCaps
      if !answers.receiverCreate then (false, c.release (.element .appsrc))
      else (true, (c.acquire .receiver).acquire .appsrcRef)

/-- `gst_element_factory_make` for a list of elements. -/
def createElements (answers : StartAnswers) : List Element → StartCall → StartCall
  | [], c => c
  | e :: rest, c =>
      createElements answers rest (if answers.element e then c.acquire (.element e) else c)

/-- `udp_receiver_start`. -/
def udpReceiverStart (answers : StartAnswers) (ur : UdpReceiver) (c : StartCall) :
    Int × UdpReceiver × StartCall :=
  if ur.running then (0, ur, c)
  else if !answers.socket then (-1, ur, c)
  else
    let c := c.acquire .socket
    if !answers.bind then (-1, ur, c.release .socket)
    else if !answers.receiverThread then
      (-1, { ur with running := false, sockfd := false }, c.release .socket)
    else
      (0, { ur with running := true, sockfd := true, thread := true },
        c.acquire (.thread .receiver))

/-- The join of the receiver thread in `udp_receiver_stop`. -/
def joinReceiver (answers : StartAnswers) (ur : UdpReceiver) (c : StartCall) :
    UdpReceiver × StartCall :=
  if !ur.thread then (ur, c)
  else if answers.pool && !ur.pool then
    ({ ur with thread := false, pool := true },
      (c.acquire .pool).release (.thread .receiver))
  else ({ ur with thread := false }, c.release (.thread .receiver))

/-- `udp_receiver_stop`. -/
def udpReceiverStop (answers : StartAnswers) (ur : UdpReceiver) (c : StartCall) :
    UdpReceiver × StartCall :=
  if !ur.running then (ur, c)
  else
    let joined := joinReceiver answers ur c
    ({ joined.1 with sockfd := false, running := false },
      joined.2.releaseIf joined.1.sockfd .socket)

/-- `udp_receiver_destroy`. -/
def udpReceiverDestroy (answers : StartAnswers) (ur : UdpReceiver) (c : StartCall) :
    StartCall :=
  let stopped := udpReceiverStop answers ur c
  ((stopped.2.release .appsrcRef).releaseIf stopped.1.pool .pool).release .receiver

/-- What the frame thread does to the decoder before it is joined. -/
def runFrameThread : List FrameAnswers → Decoder.VideoDecoder → Option Decoder.VideoDecoder
  | [], vd => some vd
  | f :: rest, vd =>
      (Decoder.setupExternalBuffers f.frame f.group f.slots vd).bind (runFrameThread rest)

/-- `running` is cleared and the frame thread joined. -/
def joinFrameThread (answers : StartAnswers) (d : DecoderObject) (c : StartCall) :
    Option (DecoderObject × StartCall) :=
  if !d.frameThread then some ({ d with vd := { d.vd with running := false } }, c)
  else
    (runFrameThread answers.frames d.vd).map fun vd =>
      ({ d with vd := { vd with running := false }, frameThread := false },
        c.release (.thread .frame))

/-- `video_decoder_start`. -/
def videoDecoderStart (answers : StartAnswers) (d : DecoderObject) (c : StartCall) :
    Option (Int × DecoderObject × StartCall) :=
  if !d.vd.initialized then some (-1, d, c)
  else if d.vd.running then some (0, d, c)
  else if !answers.frameThread then
    some (-1, { d with vd := { d.vd with running := false } }, c)
  else
    let d : DecoderObject :=
      { d with vd := { d.vd with running := true }, frameThread := true }
    let c := c.acquire (.thread .frame)
    if !answers.displayThread then
      (joinFrameThread answers d c).map fun joined => (-1, joined.1, joined.2)
    else some (0, { d with displayThread := true }, c.acquire (.thread .display))

/-- `video_decoder_stop`. -/
def videoDecoderStop (answers : StartAnswers) (d : DecoderObject) (c : StartCall) :
    Option (DecoderObject × StartCall) :=
  (joinFrameThread answers d c).map fun joined =>
    ({ joined.1 with displayThread := false },
      joined.2.releaseIf joined.1.displayThread (.thread .display))

/-- `video_decoder_deinit`. -/
def videoDecoderDeinit (answers : StartAnswers) (d : DecoderObject) (c : StartCall) :
    Option (DecoderObject × StartCall) :=
  (videoDecoderStop answers d c).map fun stopped =>
    ({ stopped.1 with vd := Decoder.videoDecoderDeinit stopped.1.vd }, stopped.2)

/-- `video_decoder_free`. -/
def videoDecoderFree (answers : StartAnswers) (d : DecoderObject) (c : StartCall) :
    Option StartCall :=
  (videoDecoderDeinit answers d c).map fun ended =>
    { ended.2.release .decoder with decoderLog := ended.1.vd.log }

/-! ## cleanup_pipeline -/

/-- `gst_object_unref` on the pipeline, which holds the last reference to its elements
but for that of the receiver. -/
def unrefPipeline (c : StartCall) : StartCall :=
  ((.appsrc :: laterElements).foldl (fun c e => c.release (.element e)) c).release .pipeline

/-- The appsink thread does not leave its sample loop: nothing writes `stop_requested`
or `decoder_running` while `cleanup_pipeline` waits for it. -/
def PipelineState.appsinkLoops (ps : PipelineState) : Bool :=
  ps.appsinkThread && ps.appsink && !ps.stopRequested && ps.decoderRunning

/-- The receiver thread does not get its buffer: `cleanup_pipeline` sets the pipeline to
`GST_STATE_NULL` only after it has waited for the thread. -/
def PipelineState.receiverBlocks (ps : PipelineState) (answers : StartAnswers) : Bool :=
  answers.pool && answers.poolExhausted && ps.udpReceiver.any fun ur => ur.running && ur.thread

/-- The joins of the appsink thread and the bus thread in `cleanup_pipeline`. -/
def joinThreads (c : StartCall) : StartCall :=
  let ps := c.ps
  let c := c.releaseIf ps.appsinkThread (.thread .appsink)
  let c := c.releaseIf ps.busThread (.thread .bus)
  { c with ps := { ps with appsinkThread := false, busThread := false } }

/-- The part of `cleanup_pipeline` between these joins and the decoder. -/
def cleanupGst (answers : StartAnswers) (c : StartCall) : StartCall :=
  let ps := c.ps
  let c :=
    match ps.udpReceiver with
    | none => c
    | some ur => udpReceiverDestroy answers ur c
  let c := if ps.pipeline then unrefPipeline c else c
  { c with ps := { ps with udpReceiver := none, pipeline := false, appsink := false } }

/-- `video_decoder_stop`, `video_decoder_deinit` and `video_decoder_free` in
`cleanup_pipeline`. -/
def cleanupDecoder (answers : StartAnswers) (d : DecoderObject) (c : StartCall) :
    Option StartCall :=
  let stopped := if c.ps.decoderRunning then videoDecoderStop answers d c else some (d, c)
  let ended := stopped.bind fun r =>
    if c.ps.decoderInitialized then videoDecoderDeinit answers r.1 r.2 else some r
  ended.bind fun r => videoDecoderFree answers r.1 r.2

/-- `cleanup_pipeline`: the thread that it waits for without end, if there is one, and
what the call has acquired and released by then. -/
def cleanupPipeline (answers : StartAnswers) (c : StartCall) :
    Option (Option PipelineThread × StartCall) :=
  if c.ps.appsinkLoops then some (some .appsink, c)
  else
    let c := joinThreads c
    if c.ps.receiverBlocks answers then some (some .receiver, c)
    else
      let c := cleanupGst answers c
      let cleaned :=
        match c.ps.decoder with
        | none => some c
        | some d => cleanupDecoder answers d c
      cleaned.map fun c =>
        (none, { c with ps :=
          { c.ps with decoderRunning := false, decoderInitialized := false, decoder := none } })

/-! ## pipeline_start -/

/-- From `gst_pipeline_new` to `gst_element_link_many`.  What is created up to there is
in local variables. -/
def startElements (answers : StartAnswers) (c : StartCall) : Bool × StartCall :=
  if !answers.pipelineNew then (false, c)
  else
    let source := createUdpAppSource answers (c.acquire .pipeline)
    if !source.1 then (false, source.2)
    else
      let c := createElements answers laterElements source.2
      if !laterElements.all answers.element then (false, c)
      else if !answers.rawCaps then (false, c)
      else (answers.link, (c.acquire .rawCaps).release .rawCaps)

/-- From the stores to `ps` to the start of the receiver. -/
def startReceiver (answers : StartAnswers) (c : StartCall) : Bool × StartCall :=
  let started := udpReceiverStart answers {} c
  (started.1 = 0, { started.2.2 with ps :=
    { c.ps with pipeline := true, appsink := true, udpReceiver := some started.2.1 } })

/-- `gst_element_set_state` and the wait for an asynchronous change. -/
def startPlaying (answers : StartAnswers) : Bool :=
  match answers.setState with
  | .failure => false
  | .async => answers.getState ≠ .failure
  | .success | .noPreroll => true

/-- `video_decoder_new`, unless there is a decoder already. -/
def ensureDecoder (answers : StartAnswers) (c : StartCall) : Option (DecoderObject × StartCall) :=
  match c.ps.decoder with
  | some d => some (d, c)
  | none => if answers.decoderNew then some ({}, c.acquire .decoder) else none

/-- `video_decoder_init` and `video_decoder_start`. -/
def startDecoder (answers : StartAnswers) (d : DecoderObject) (c : StartCall) :
    Option (Bool × StartCall) :=
  (Decoder.videoDecoderInit answers.init d.vd).bind fun init =>
    let d : DecoderObject := { vd := init.2 }
    if init.1 ≠ 0 then some (false, { c with ps := { c.ps with decoder := some d } })
    else
      (videoDecoderStart answers d c).map fun started =>
        (started.1 = 0, { started.2.2 with ps :=
          { c.ps with
            decoder := some started.2.1
            decoderInitialized := true
            decoderRunning := started.1 = 0 } })

/-- The appsink thread and the bus thread. -/
def startThreads (answers : StartAnswers) (c : StartCall) : Bool × StartCall :=
  if !answers.appsinkThread then (false, c)
  else
    let c := { c.acquire (.thread .appsink) with ps := { c.ps with appsinkThread := true } }
    if !answers.busThread then (false, c)
    else (true, { c.acquire (.thread .bus) with ps := { c.ps with busThread := true } })

/-- From the start of the receiver on. -/
def startRunning (answers : StartAnswers) (c : StartCall) : Option (Bool × StartCall) :=
  let received := startReceiver answers c
  if !received.1 then some received
  else if !startPlaying answers then some (false, received.2)
  else
    match ensureDecoder answers received.2 with
    | none => some (false, received.2)
    | some (d, c) =>
        (startDecoder answers d c).map fun decoded =>
          if !decoded.1 then decoded else startThreads answers decoded.2

/-- The assignments at the start of `pipeline_start`. -/
def PipelineState.resetFields (ps : PipelineState) : PipelineState :=
  { ps with
    pipeline := false
    appsink := false
    udpReceiver := none
    busThread := false
    appsinkThread := false
    stopRequested := false }

/-- How a call of `pipeline_start` ends. -/
inductive StartEnd
  | returned (ret : Int)
  /-- `cleanup_pipeline` waits for a thread that does not end. -/
  | waits (t : PipelineThread)
deriving DecidableEq, Repr

/-- The label `fail` of `pipeline_start`. -/
def failStart (answers : StartAnswers) (c : StartCall) : Option (StartEnd × StartCall) :=
  (cleanupPipeline answers c).map fun cleaned =>
    (cleaned.1.elim (.returned (-1)) .waits, cleaned.2)

/-- `pipeline_start`; its arguments are not NULL. -/
def pipelineStart (answers : StartAnswers) (ps : PipelineState) :
    Option (StartEnd × StartCall) :=
  if ps.state ≠ .stopped then some (.returned (-1), { ps := ps })
  else
    let built := startElements answers { ps := ps.resetFields }
    if !built.1 then failStart answers built.2
    else
      (startRunning answers built.2).bind fun started =>
        if !started.1 then failStart answers started.2
        else
          some (.returned 0, { started.2 with ps := { started.2.ps with state := .running } })

end Pipeline
end PixelPilot
