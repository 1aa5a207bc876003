import PixelPilot.Decoder.Model
import PixelPilot.Library.Ledger

/-!
# What the decoder acquires

`video_decoder_init`, `setup_external_buffers` and `video_decoder_deinit` with the
resources they acquire and release, one call at a time.  What the system hands out is
part of the call; a log records what was acquired and released.

Main results:

- Definitions `setupBlackBackground`, `teardownBackground`, `setupExternalBuffers`,
  `releaseFrameGroup`, `videoDecoderInit` and `videoDecoderDeinit`.
- Theorem `setupSlot_result`: a slot is filled as in the model of the frame thread.

Current gaps:

- The mutex and the condition variable of the decoder are not resources here.
- The sizes, the DRM property ids and the atomic requests are left out, as is what
  MPP is told about the buffer group.
- `mpp_buffer_commit` neither takes the descriptor over nor changes `info.fd`.
-/

namespace PixelPilot
namespace Decoder

/-! ## Resources -/

/-- What the decoder acquires.  DRM objects belong to the descriptor on which they
were created. -/
inductive Resource
  | packetBuf (address : Nat)
  | fd (number : Int)
  | ctx (address : Nat)
  | packet (address : Nat)
  | group (address : Nat)
  | handle (drmFd : Int) (number : Nat)
  | framebuffer (drmFd : Int) (id : Nat)
  | mapping (address : Nat)
deriving DecidableEq, Repr

/-- The descriptor that has to be open to release the resource. -/
def Resource.owner : Resource → Option Resource
  | .handle drmFd _ | .framebuffer drmFd _ => some (.fd drmFd)
  | .packetBuf _ | .fd _ | .ctx _ | .packet _ | .group _ | .mapping _ => none

/-- The system never hands out the values that stand for nothing. -/
def Resource.possible : Resource → Bool
  | .fd number => 0 ≤ number
  | .handle _ number => number ≠ 0
  | .framebuffer _ id => id ≠ 0
  | .packetBuf _ | .ctx _ | .packet _ | .group _ | .mapping _ => true

/-- The resources acquired and released so far. -/
abbrev Log := List (Ledger.Event Resource)

/-- The system hands out a resource. -/
def acquire (log : Log) (r : Resource) : Option Log :=
  if r.possible then Ledger.acquire log r else none

/-! ## The decoder -/

/-- `struct DumbFB`. -/
structure DumbFb where
  fbId : Nat := 0
  handle : Nat := 0
  map : Option Nat := none
deriving DecidableEq, Repr

/-- The fields of `VideoDecoder` that resources are kept in, and the log.  The
defaults are those of `memset`. -/
structure VideoDecoder where
  initialized : Bool := false
  running : Bool := false
  drmFd : Int := 0
  backgroundFb : DumbFb := {}
  backgroundInitialized : Bool := false
  ctx : Option Nat := none
  frmGrp : Option Nat := none
  frameMap : List FrameSlot :=
    List.replicate decoderMaxFrames { primeFd := 0, fbId := 0, handle := 0 }
  packetBuf : Option Nat := none
  packet : Option Nat := none
  log : Log := []
deriving DecidableEq, Repr

/-- `video_decoder_new`. -/
def videoDecoderNew : VideoDecoder := {}

/-! ## The background -/

/-- The framebuffer in a `DumbFB`, if there is one. -/
def DumbFb.framebuffer (fb : DumbFb) (fd : Int) : Option Resource :=
  if fb.fbId ≠ 0 then some (.framebuffer fd fb.fbId) else none

/-- The handle in a `DumbFB`, if there is one. -/
def DumbFb.dumbHandle (fb : DumbFb) (fd : Int) : Option Resource :=
  if fb.handle ≠ 0 then some (.handle fd fb.handle) else none

/-- What the system answers in `create_argb_fb`. -/
structure ArgbAnswers where
  createDumb : Option Nat := none
  addFb : Option Nat := none
  mapDumb : Bool := true
  mmap : Option Nat := none
deriving DecidableEq, Repr

/-- `create_argb_fb`: the framebuffer, if it is created. -/
def createArgbFb (fd : Int) (answers : ArgbAnswers) (log : Log) :
    Option (Option DumbFb × Log) :=
  match answers.createDumb with
  | none => some (none, log)
  | some handle =>
      (acquire log (.handle fd handle)).bind fun log =>
        match answers.addFb with
        | none => some (none, log ++ [.released (.handle fd handle)])
        | some id =>
            (acquire log (.framebuffer fd id)).bind fun log =>
              let failed : Log :=
                log ++ [.released (.framebuffer fd id)] ++ [.released (.handle fd handle)]
              if !answers.mapDumb then some (none, failed)
              else
                match answers.mmap with
                | none => some (none, failed)
                | some address =>
                    (acquire log (.mapping address)).bind fun log =>
                      some (some { fbId := id, handle := handle, map := some address }, log)

/-- `destroy_dumb_fb`. -/
def destroyDumbFb (fd : Int) (fb : DumbFb) (log : Log) : Log :=
  Ledger.releaseOption (fb.dumbHandle fd)
    (Ledger.releaseOption (fb.framebuffer fd)
      (Ledger.releaseOption (fb.map.map .mapping) log))

/-- What the system answers in `setup_black_background`. -/
structure BackgroundAnswers where
  /-- A primary plane other than the video plane is found on the CRTC. -/
  planeFound : Bool := false
  argb : ArgbAnswers := {}
  props : Bool := true
  atomicAlloc : Bool := true
  commit : Bool := true
deriving DecidableEq, Repr

/-- `setup_black_background`. -/
def setupBlackBackground (answers : BackgroundAnswers) (vd : VideoDecoder) :
    Option VideoDecoder :=
  if vd.backgroundInitialized then some vd
  else if !answers.planeFound then some vd
  else
    (createArgbFb vd.drmFd answers.argb vd.log).bind fun created =>
      match created.1 with
      | none => some { vd with backgroundFb := {}, log := created.2 }
      | some fb =>
          -- The three failures after this point end alike.
          if answers.props && answers.atomicAlloc && answers.commit then
            some { vd with
              backgroundFb := fb, backgroundInitialized := true, log := created.2 }
          else
            some { vd with
              backgroundFb := {}, log := destroyDumbFb vd.drmFd fb created.2 }

/-- `teardown_background`. -/
def teardownBackground (vd : VideoDecoder) : VideoDecoder :=
  if !vd.backgroundInitialized && vd.backgroundFb.fbId = 0 then vd
  else if vd.backgroundFb.fbId ≠ 0 then
    { vd with
      backgroundFb := {}
      backgroundInitialized := false
      log := destroyDumbFb vd.drmFd vd.backgroundFb vd.log }
  else { vd with backgroundInitialized := false }

/-! ## The frame buffers -/

/-- The framebuffer of a slot, if there is one. -/
def FrameSlot.framebuffer (slot : FrameSlot) (fd : Int) : Option Resource :=
  if slot.fbId ≠ 0 then some (.framebuffer fd slot.fbId) else none

/-- The exported descriptor of a slot, if there is one. -/
def FrameSlot.exported (slot : FrameSlot) : Option Resource :=
  if 0 ≤ slot.primeFd then some (.fd slot.primeFd) else none

/-- The handle of a slot, if there is one. -/
def FrameSlot.dumbHandle (slot : FrameSlot) (fd : Int) : Option Resource :=
  if slot.handle ≠ 0 then some (.handle fd slot.handle) else none

/-- One turn of the loop in `release_frame_group`. -/
def releaseSlot (fd : Int) (slot : FrameSlot) (log : Log) : FrameSlot × Log :=
  ({ primeFd := if 0 ≤ slot.primeFd then -1 else slot.primeFd, fbId := 0, handle := 0 },
    Ledger.releaseOption (slot.dumbHandle fd)
      (Ledger.releaseOption slot.exported
        (Ledger.releaseOption (slot.framebuffer fd) log)))

/-- The loop in `release_frame_group`. -/
def releaseSlots (fd : Int) : List FrameSlot → Log → List FrameSlot × Log
  | [], log => ([], log)
  | slot :: rest, log =>
      let released := releaseSlot fd slot log
      let others := releaseSlots fd rest released.2
      (released.1 :: others.1, others.2)

/-- `release_frame_group`. -/
def releaseFrameGroup (vd : VideoDecoder) : VideoDecoder :=
  match vd.frmGrp with
  | none => vd
  | some group =>
      let released := releaseSlots vd.drmFd vd.frameMap vd.log
      { vd with
        frmGrp := none
        frameMap := released.1
        log := released.2 ++ [.released (.group group)] }

/-- What the system answers during one turn of the loop in
`setup_external_buffers`. -/
structure SlotAnswers where
  createDumb : Option Nat := none
  exported : Option Int := none
  committed : Bool := true
  addFb : Option Nat := none
deriving DecidableEq, Repr

/-- One turn of the loop in `setup_external_buffers`. -/
def setupSlot (fd : Int) (slot : FrameSlot) (answers : SlotAnswers) (log : Log) :
    Option (FrameSlot × Log) :=
  match answers.createDumb with
  | none => some (slot, log)
  | some handle =>
      (acquire log (.handle fd handle)).bind fun log =>
        let slot : FrameSlot := { slot with handle := handle }
        match answers.exported with
        | none => some (slot, log)
        | some prime =>
            (acquire log (.fd prime)).bind fun log =>
              if !answers.committed then some (slot, log ++ [.released (.fd prime)])
              else
                let slot : FrameSlot := { slot with primeFd := prime }
                match answers.addFb with
                | none => some (slot, log)
                | some id =>
                    (acquire log (.framebuffer fd id)).bind fun log =>
                      some ({ slot with fbId := id }, log)

/-- The loop in `setup_external_buffers`. -/
def setupSlots (fd : Int) : List FrameSlot → List SlotAnswers → Log →
    Option (List FrameSlot × Log)
  | [], _, log => some ([], log)
  | slot :: rest, answers, log =>
      (setupSlot fd slot (answers.headD {}) log).bind fun filled =>
        (setupSlots fd rest answers.tail filled.2).bind fun others =>
          some (filled.1 :: others.1, others.2)

/-- `setup_external_buffers`. -/
def setupExternalBuffers (frame : MppFrame) (group : Option Nat) (answers : List SlotAnswers)
    (vd : VideoDecoder) : Option VideoDecoder :=
  if frame.fmt = .other then some vd
  else
    let vd := releaseFrameGroup vd
    match group with
    | none => some vd
    | some group =>
        (acquire vd.log (.group group)).bind fun log =>
          (setupSlots vd.drmFd resetFrameMap answers log).bind fun filled =>
            some { vd with frmGrp := some group, frameMap := filled.1, log := filled.2 }

/-! ## Initialisation and the end -/

/-- `mpp_packet_deinit` in `video_decoder_deinit`. -/
def deinitPacket (vd : VideoDecoder) : VideoDecoder :=
  { vd with packet := none, log := Ledger.releaseOption (vd.packet.map .packet) vd.log }

/-- `mpp_destroy` in `video_decoder_deinit`. -/
def destroyCtx (vd : VideoDecoder) : VideoDecoder :=
  { vd with ctx := none, log := Ledger.releaseOption (vd.ctx.map .ctx) vd.log }

/-- `g_free` in `video_decoder_deinit`. -/
def freePacketBuf (vd : VideoDecoder) : VideoDecoder :=
  { vd with
    packetBuf := none
    log := Ledger.releaseOption (vd.packetBuf.map .packetBuf) vd.log }

/-- The descriptor in `drm_fd`, if it is open. -/
def VideoDecoder.openFd (vd : VideoDecoder) : Option Resource :=
  if 0 ≤ vd.drmFd then some (.fd vd.drmFd) else none

/-- `close` in `video_decoder_deinit`. -/
def closeDrmFd (vd : VideoDecoder) : VideoDecoder :=
  { vd with
    drmFd := if 0 ≤ vd.drmFd then -1 else vd.drmFd
    log := Ledger.releaseOption vd.openFd vd.log }

/-- `video_decoder_deinit`; the threads are joined already. -/
def videoDecoderDeinit (vd : VideoDecoder) : VideoDecoder :=
  let stopped := deinitPacket { vd with running := false }
  let released := teardownBackground (releaseFrameGroup (destroyCtx stopped))
  { closeDrmFd (freePacketBuf released) with initialized := false }

/-- What the system answers in `video_decoder_init`. -/
structure InitAnswers where
  packetBuf : Option Nat := none
  dupFd : Option Int := none
  props : Bool := true
  background : BackgroundAnswers := {}
  mppCreate : Option Nat := none
  packetInit : Option Nat := none
  mppInit : Bool := true
deriving DecidableEq, Repr

/-- `video_decoder_init` from `mpp_create` on. -/
def initMpp (answers : InitAnswers) (vd : VideoDecoder) : Option (Int × VideoDecoder) :=
  match answers.mppCreate with
  | none => some (-1, videoDecoderDeinit vd)
  | some ctx =>
      (acquire vd.log (.ctx ctx)).bind fun log =>
        let vd : VideoDecoder := { vd with ctx := some ctx, log := log }
        match answers.packetInit with
        | none => some (-1, videoDecoderDeinit vd)
        | some packet =>
            (acquire vd.log (.packet packet)).bind fun log =>
              let vd : VideoDecoder := { vd with packet := some packet, log := log }
              if !answers.mppInit then some (-1, videoDecoderDeinit vd)
              else
                some (0, { vd with
                  frmGrp := none, frameMap := resetFrameMap, initialized := true })

/-- `video_decoder_init`; the arguments are not NULL, as its caller has checked. -/
def videoDecoderInit (answers : InitAnswers) (vd : VideoDecoder) :
    Option (Int × VideoDecoder) :=
  let vd : VideoDecoder := { drmFd := -1, log := vd.log }
  match answers.packetBuf with
  | none => some (-1, vd)
  | some address =>
      (acquire vd.log (.packetBuf address)).bind fun log =>
        match answers.dupFd with
        | none => some (-1, { vd with log := log ++ [.released (.packetBuf address)] })
        | some fd =>
            (acquire log (.fd fd)).bind fun log =>
              let vd : VideoDecoder :=
                { vd with packetBuf := some address, drmFd := fd, log := log }
              if !answers.props then some (-1, videoDecoderDeinit vd)
              else (setupBlackBackground answers.background vd).bind (initMpp answers)

/-! ## The slots of the frame thread -/

/-- How far the allocation of a slot gets with these answers. -/
def SlotAnswers.result (answers : SlotAnswers) : SlotResult :=
  match answers.createDumb with
  | none => .createFailed
  | some handle =>
      match answers.exported with
      | none => .exportFailed handle
      | some prime =>
          if !answers.committed then .commitFailed handle
          else
            match answers.addFb with
            | none => .addFailed handle prime
            | some id => .added handle prime id

/-- A slot is filled as the model of the frame thread says. -/
theorem setupSlot_result {fd : Int} {answers : SlotAnswers} {log log' : Log}
    {slot : FrameSlot} (h : setupSlot fd {} answers log = some (slot, log')) :
    slot = answers.result.slot := by
  unfold setupSlot at h
  unfold SlotAnswers.result
  split at h
  · cases h
    rfl
  · rename_i handle hcreate
    rcases Option.bind_eq_some_iff.mp h with ⟨log₁, -, h⟩
    split at h
    · cases h
      rfl
    · rename_i prime hexport
      rcases Option.bind_eq_some_iff.mp h with ⟨log₂, -, h⟩
      split at h
      · rename_i hcommit
        cases h
        simp only [hcommit, if_true]
        rfl
      · rename_i hcommit
        simp only [hcommit]
        split at h
        · cases h
          rfl
        · rename_i id hadd
          rcases Option.bind_eq_some_iff.mp h with ⟨log₃, -, h⟩
          cases h
          rfl

end Decoder
end PixelPilot
