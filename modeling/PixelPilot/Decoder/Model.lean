import PixelPilot.Library.Transition

/-!
# The video decoder's frame and display threads

`video_decoder_start` creates two threads.  The frame thread takes decoded
frames from MPP, re-allocates the external buffers on an info-change frame and
posts framebuffers to a one-slot mailbox (`pending_fb`); the display thread
takes them out and commits them to the plane.  `video_decoder_stop` clears
`running` from a third thread.

One step is one `vd->lock` critical section, one DRM add, remove or commit
call, or one access of the unlocked fields `vd->src_w` and `vd->src_h`.  What
MPP and the DRM device answer is part of the action.

Main results:

- Definition `frameNext`: the steps of `frame_thread_func`, with
  `setup_external_buffers`, `release_frame_group` and its own `commit_plane`.
- Definition `displayNext`: the steps of `display_thread_func` and of the
  `commit_plane` call in it.
- Definition `decoder`: the transition system of one decoder run.

Current gaps:

- The sizes, strides and offsets handed to the DRM and MPP calls are left out:
  nothing in the threads reads them back.
- The destination rectangle of `commit_plane` is computed in `Decoder.destination`.
-/

namespace PixelPilot
namespace Decoder

/-! ## Data of the decoder -/

/-- `DECODER_MAX_FRAMES`. -/
def decoderMaxFrames : Nat := 24

/-- `struct FrameSlot`. -/
structure FrameSlot where
  primeFd : Int := -1
  fbId : Nat := 0
  handle : Nat := 0
deriving DecidableEq, Repr

/-- `reset_frame_map`. -/
def resetFrameMap : List FrameSlot :=
  List.replicate decoderMaxFrames {}

/-- A framebuffer registered with the DRM device.  The kernel may issue the id
of a removed framebuffer again; `serial` tells the two apart. -/
structure Framebuffer where
  id : Nat
  serial : Nat
  width : Nat
  height : Nat
deriving DecidableEq, Repr

/-- The framebuffer that currently owns an id. -/
def lookupFb (fbs : List Framebuffer) (id : Nat) : Option Framebuffer :=
  fbs.find? fun fb => fb.id == id

/-- The mailbox fields `pending_fb` and `pending_pts`, where framebuffer 0 means
empty.  `number` and `serial` only record which post this is and which
framebuffer owned the id when it was posted. -/
structure Post where
  fb : Nat := 0
  pts : Int := 0
  number : Nat := 0
  serial : Nat := 0
deriving DecidableEq, Repr

/-- The frame formats `setup_external_buffers` tells apart. -/
inductive MppFrameFormat
  | yuv420sp
  | yuv420sp10bit
  | other
deriving DecidableEq, Repr

/-- The answers of the accessors of one `MppFrame`.  `bufferFd` is the file
descriptor `mpp_buffer_info_get` reports, if there is a buffer and it succeeds. -/
structure MppFrame where
  infoChange : Bool := false
  width : Nat := 0
  height : Nat := 0
  fmt : MppFrameFormat := .yuv420sp
  errinfo : Bool := false
  discard : Bool := false
  bufferFd : Option Int := none
  pts : Int := 0
  eos : Bool := false
deriving DecidableEq, Repr

/-- How far the allocation of one slot gets in `setup_external_buffers`. -/
inductive SlotResult
  | createFailed
  | exportFailed (handle : Nat)
  | commitFailed (handle : Nat)
  | addFailed (handle : Nat) (fd : Int)
  | added (handle : Nat) (fd : Int) (id : Nat)
deriving DecidableEq, Repr

/-! ## Control points -/

/-- Where the frame thread stands. -/
inductive FramePc
  /-- Not created, or its handle was already joined. -/
  | absent
  /-- At `if (!vd->running) break`. -/
  | check
  /-- In `decode_get_frame`. -/
  | getFrame
  /-- At the start of `setup_external_buffers`. -/
  | setup (f : MppFrame)
  /-- In the loop of `release_frame_group`, at slot `i`. -/
  | release (f : MppFrame) (i : Nat)
  | clearSrcW (f : MppFrame)
  | clearSrcH (f : MppFrame)
  /-- At `mpp_buffer_group_get_external`. -/
  | groupGet (f : MppFrame)
  /-- In the allocation loop, at slot `i`. -/
  | alloc (f : MppFrame) (i : Nat)
  | setSrcW (f : MppFrame)
  | setSrcH (f : MppFrame)
  /-- In the `commit_plane` call that ends `setup_external_buffers`. -/
  | commitSrcW (f : MppFrame)
  | commitSrcH (f : MppFrame)
  | commitFlip (f : MppFrame)
  /-- Before the critical section that posts slot `i`. -/
  | post (f : MppFrame) (i : Nat)
  /-- At `vd->eos_received = mpp_frame_get_eos(frame)`. -/
  | eosTest (f : MppFrame)
  /-- Before the final critical section. -/
  | finish
  | exited
deriving DecidableEq, Repr

/-- Where the display thread stands.  `still` is the local `still_running`. -/
inductive DisplayPc
  /-- Not created, or its handle was already joined. -/
  | absent
  /-- Before its critical section. -/
  | lock
  /-- Blocked in `g_cond_wait`; `woken` when a wake-up is pending. -/
  | waiting (woken : Bool)
  /-- In `commit_plane`, before `vd->src_w` is read. -/
  | srcW (p : Post) (still : Bool)
  | srcH (p : Post) (still : Bool) (w : Nat)
  /-- In `commit_plane`, before the atomic commit. -/
  | flip (p : Post) (still : Bool) (w h : Nat)
  | exited
deriving DecidableEq, Repr

/-- One decoder run: the shared fields of `VideoDecoder`, the DRM device, the
control points, and a record of what was posted and committed. -/
structure State where
  running : Bool
  srcW : Nat
  srcH : Nat
  modeW : Nat
  modeH : Nat
  frmGrp : Bool
  frameMap : List FrameSlot
  pending : Post
  framePc : FramePc
  displayPc : DisplayPc
  fbs : List Framebuffer
  nextSerial : Nat
  posts : List Post
  commits : List Post
  /-- Has a `video_decoder_stop` critical section run? -/
  stopped : Bool
  /-- Did an EOS frame end the frame loop before any `video_decoder_stop`? -/
  endedByEos : Bool
deriving DecidableEq, Repr

/-- The decoder as `video_decoder_init` and `video_decoder_start` leave it. -/
def start (modeW modeH : Nat) : State where
  running := true
  srcW := 0
  srcH := 0
  modeW := modeW
  modeH := modeH
  frmGrp := false
  frameMap := resetFrameMap
  pending := {}
  framePc := .check
  displayPc := .lock
  fbs := []
  nextSerial := 0
  posts := []
  commits := []
  stopped := false
  endedByEos := false

/-- What the environment answers to a step of the frame thread. -/
inductive FrameChoice
  /-- The step succeeds, or asks nothing. -/
  | go
  /-- The external call of the step fails. -/
  | fail
  | frame (f : MppFrame)
  | slot (r : SlotResult)
deriving DecidableEq, Repr

/-- What the environment answers to a step of the display thread. -/
inductive DisplayChoice
  | go
  /-- `drmModeAtomicAlloc` fails. -/
  | fail
  /-- `g_cond_wait` returns without a wake-up. -/
  | spurious
deriving DecidableEq, Repr

/-- An action: whose step it is and what the environment answers. -/
inductive Act
  | frame (c : FrameChoice)
  | display (c : DisplayChoice)
  /-- The critical section of `video_decoder_stop`, in any other thread. -/
  | stop
deriving DecidableEq, Repr

/-! ## Steps of the frame thread -/

/-- `g_cond_signal` and `g_cond_broadcast`: only the display thread waits. -/
def wake : DisplayPc → DisplayPc
  | .waiting _ => .waiting true
  | pc => pc

/-- The source size `commit_plane` uses for an argument, the remembered value
and the mode. -/
def commitSrc (arg remembered mode : Nat) : Nat :=
  if arg = 0 then if remembered ≠ 0 then remembered else mode else arg

/-- The slot `release_frame_group` leaves behind. -/
def releasedSlot : FrameSlot := {}

/-- The slot after the allocation steps that succeeded. -/
def SlotResult.slot : SlotResult → FrameSlot
  | .createFailed => {}
  | .exportFailed handle | .commitFailed handle => { handle := handle }
  | .addFailed handle fd => { primeFd := fd, handle := handle }
  | .added handle fd id => { primeFd := fd, fbId := id, handle := handle }

/-- The DRM device accepts a framebuffer only with a non-empty size, and issues
a non-zero id that no live framebuffer has. -/
def SlotResult.possible (r : SlotResult) (f : MppFrame) (fbs : List Framebuffer) : Bool :=
  match r with
  | .added _ _ id =>
      decide (id ≠ 0) && (lookupFb fbs id).isNone && decide (f.width ≠ 0) &&
        decide (f.height ≠ 0)
  | _ => true

/-- `drmModeAddFB2`, when the allocation gets that far. -/
def State.addFb (s : State) (f : MppFrame) : SlotResult → State
  | .added _ _ id =>
      { s with
        fbs := ⟨id, s.nextSerial, f.width, f.height⟩ :: s.fbs
        nextSerial := s.nextSerial + 1 }
  | _ => s

/-- One slot of the loop in `release_frame_group`. -/
def State.releaseSlot (s : State) (i : Nat) : State :=
  let slot := s.frameMap.getD i {}
  { s with
    fbs := if slot.fbId ≠ 0 then s.fbs.filter (fun fb => fb.id ≠ slot.fbId) else s.fbs
    frameMap := s.frameMap.set i releasedSlot }

/-- The critical section that posts a slot of the frame map. -/
def State.postSlot (s : State) (f : MppFrame) (i : Nat) : State :=
  let fb := (s.frameMap.getD i {}).fbId
  let p : Post :=
    { fb := fb
      pts := f.pts
      number := s.posts.length
      serial := ((lookupFb s.fbs fb).map Framebuffer.serial).getD 0 }
  { s with
    pending := p
    posts := s.posts ++ [p]
    displayPc := wake s.displayPc }

/-- The first slot whose `prime_fd` is the one of the frame's buffer. -/
def State.slotOf (s : State) (f : MppFrame) : Option Nat :=
  match f.bufferFd with
  | none => none
  | some fd => s.frameMap.findIdx? fun slot => slot.primeFd == fd

/-- Where `frame_thread_func` goes with a frame from `decode_get_frame`. -/
def State.dispatch (s : State) (f : MppFrame) : FramePc :=
  if f.infoChange then .setup f
  else if f.errinfo || f.discard then .eosTest f
  else
    match s.slotOf f with
    | none => .eosTest f
    | some i => .post f i

/-- One step of `frame_thread_func`. -/
def frameNext (s : State) (c : FrameChoice) : Option State :=
  match s.framePc, c with
  | .check, .go => some { s with framePc := if s.running then .getFrame else .finish }
  | .getFrame, .fail => some { s with framePc := .check }
  | .getFrame, .frame f => some { s with framePc := s.dispatch f }
  -- An unsupported format returns before anything is released.
  | .setup f, .go =>
      if f.fmt = .other then some { s with framePc := .eosTest f }
      else some { s with framePc := if s.frmGrp then .release f 0 else .groupGet f }
  | .release f i, .go =>
      if i < decoderMaxFrames then
        some { s.releaseSlot i with framePc := .release f (i + 1) }
      else some { s with frmGrp := false, framePc := .clearSrcW f }
  | .clearSrcW f, .go => some { s with srcW := 0, framePc := .clearSrcH f }
  | .clearSrcH f, .go => some { s with srcH := 0, framePc := .groupGet f }
  | .groupGet f, .fail => some { s with framePc := .eosTest f }
  | .groupGet f, .go =>
      some { s with frmGrp := true, frameMap := resetFrameMap, framePc := .alloc f 0 }
  | .alloc f i, .slot r =>
      if i < decoderMaxFrames && r.possible f s.fbs then
        some
          { s.addFb f r with
            frameMap := s.frameMap.set i r.slot
            framePc := .alloc f (i + 1) }
      else none
  | .alloc f i, .go =>
      if i < decoderMaxFrames then none else some { s with framePc := .setSrcW f }
  | .setSrcW f, .go => some { s with srcW := f.width, framePc := .setSrcH f }
  | .setSrcH f, .go => some { s with srcH := f.height, framePc := .commitSrcW f }
  | .commitSrcW f, .fail => some { s with framePc := .eosTest f }
  | .commitSrcW f, .go =>
      some
        { s with
          srcW := if f.width = 0 then s.srcW else f.width
          framePc := .commitSrcH f }
  | .commitSrcH f, .go =>
      some
        { s with
          srcH := if f.height = 0 then s.srcH else f.height
          framePc := .commitFlip f }
  | .commitFlip f, .go => some { s with framePc := .eosTest f }
  | .post f i, .go => some { s.postSlot f i with framePc := .eosTest f }
  | .eosTest f, .go =>
      if f.eos then some { s with framePc := .finish, endedByEos := !s.stopped }
      else some { s with framePc := .check }
  | .finish, .go =>
      some { s with running := false, displayPc := wake s.displayPc, framePc := .exited }
  | _, _ => none

/-! ## Steps of the display thread and of video_decoder_stop -/

/-- Where `display_thread_func` goes after `commit_plane` returned. -/
def afterCommit (still : Bool) : DisplayPc :=
  if still then .lock else .exited

/-- The critical section of `display_thread_func`, from the test of the wait
condition on, and the exits that follow it. -/
def State.displayEnter (s : State) : State :=
  if s.running && s.pending.fb == 0 then { s with displayPc := .waiting false }
  else
    let p := s.pending
    let still := s.running
    let s := { s with pending := { p with fb := 0 } }
    if !still && p.fb == 0 then { s with displayPc := .exited }
    else if p.fb ≠ 0 then
      { s with displayPc := .srcW p still, commits := s.commits ++ [p] }
    else { s with displayPc := afterCommit still }

/-- One step of `display_thread_func`, whose `commit_plane` gets no source size. -/
def displayNext (s : State) (c : DisplayChoice) : Option State :=
  match s.displayPc, c with
  | .lock, .go => some s.displayEnter
  | .waiting woken, .go => if woken then some s.displayEnter else none
  | .waiting _, .spurious => some s.displayEnter
  | .srcW _ still, .fail => some { s with displayPc := afterCommit still }
  | .srcW p still, .go =>
      some { s with displayPc := .srcH p still (commitSrc 0 s.srcW s.modeW) }
  | .srcH p still w, .go =>
      some { s with displayPc := .flip p still w (commitSrc 0 s.srcH s.modeH) }
  | .flip _ still _ _, .go => some { s with displayPc := afterCommit still }
  | _, _ => none

/-- The critical section of `video_decoder_stop`. -/
def State.stopSection (s : State) : State :=
  { s with running := false, displayPc := wake s.displayPc, stopped := true }

/-- One step of the decoder. -/
def next (s : State) : Act → Option State
  | .frame c => frameNext s c
  | .display c => displayNext s c
  | .stop => some s.stopSection

/-- All runs of one decoder, for any display mode. -/
def decoder : Transition.System State Act where
  init s := ∃ modeW modeH, s = start modeW modeH
  next := next

end Decoder
end PixelPilot
