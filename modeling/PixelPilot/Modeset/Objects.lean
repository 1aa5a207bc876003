import PixelPilot.Library.Custody
import PixelPilot.Modeset.Model

/-!
# The objects of a mode setting

`atomic_modeset_maxhz` and `create_argb_fb` once more, with the objects that they get from
libdrm and the kernel: each call that returns an object, each access to one and each call that
gives one back.

Main results:

- Definitions `createArgbFb` and `destroyDumbFb`.
- Definitions `findCrtc`, `connectorLoop` and `commit`: the parts of `atomic_modeset_maxhz`
  with their cleanups.
- Definition `Objects.atomicModesetMaxhz`: the whole call.

Current gaps:

- The property objects inside `drm_get_prop_id` are not followed: its answer is part of `Drm`.
- Calls that get no object and whose failure is ignored are left out, such as
  `drmSetClientCap` and `drmModeAtomicAddProperty`.
-/

namespace PixelPilot
namespace Modeset
namespace Objects

open Custody (Ptr get create touch destroy)

/-- What `atomic_modeset_maxhz` gets hold of. -/
inductive Kind
  | resources
  | connector
  | encoder
  | crtc
  | request
  | modeBlob
  | dumbBuffer
  | framebuffer
  | mapping
deriving DecidableEq, Repr

abbrev Program := Custody.Program Kind

abbrev Ptr (β : Type) := Custody.Ptr Kind β

/-- Give back what a pointer that may be null points to. -/
def freeOption {β : Type} : Option (Ptr β) → Program PUnit
  | none => pure ⟨⟩
  | some p => p.free

/-- Give back an object that passes a test. -/
def destroyIf (c : Prop) [Decidable c] (o : Custody.Object Kind) : Program PUnit :=
  if c then destroy o else pure ⟨⟩

/-! ## The framebuffer -/

/-- `struct drm_mode_create_dumb`, as the kernel fills it. -/
structure CreateDumb where
  handle : UInt32
  pitch : UInt32
  size : UInt64
deriving DecidableEq, Repr

/-- `MAP_FAILED`. -/
def mapFailed : UInt64 := 0xFFFFFFFFFFFFFFFF

/-- The answers to the calls in `create_argb_fb`. -/
structure FbAnswers where
  createDumb : Option CreateDumb
  addFb2 : Option UInt32
  /-- The offset that `DRM_IOCTL_MODE_MAP_DUMB` gives. -/
  mapDumb : Option UInt64
  /-- The address that `mmap` returns. -/
  mmap : UInt64
deriving DecidableEq, Repr

/-- `struct DumbFB`; an id or an address is a pointer to what it stands for. -/
structure DumbFB where
  fbId : Ptr UInt32
  handle : Ptr UInt32
  pitch : UInt32
  size : UInt64
  map : Ptr UInt64
  w : Int
  h : Int

/-- `create_argb_fb`, without the pixels that it writes. -/
def createArgbFb (answers : FbAnswers) (w h : Int) : Program (Option DumbFB) := do
  match ← get .dumbBuffer answers.createDumb with
  | none => pure none
  | some creq =>
      touch creq.obj
      match ← get .framebuffer answers.addFb2 with
      | none =>
          destroy creq.obj
          pure none
      | some fbId =>
          touch creq.obj
          match answers.mapDumb with
          | none =>
              destroy fbId.obj
              destroy creq.obj
              pure none
          | some _ =>
              touch creq.obj
              match ← get .mapping (if answers.mmap = mapFailed then none else some answers.mmap)
                with
              | none =>
                  destroy fbId.obj
                  destroy creq.obj
                  pure none
              | some map =>
                  touch map.obj
                  pure (some
                    { fbId
                      handle := ⟨creq.obj, creq.val.handle⟩
                      pitch := creq.val.pitch
                      size := creq.val.size
                      map
                      w
                      h })

/-- `destroy_dumb_fb`. -/
def destroyDumbFb (fb : DumbFB) : Program PUnit := do
  destroyIf (fb.map.val ≠ 0 ∧ fb.map.val ≠ mapFailed) fb.map.obj
  destroyIf (fb.fbId.val ≠ 0) fb.fbId.obj
  destroyIf (fb.handle.val ≠ 0) fb.handle.obj

/-! ## The search -/

/-- The variables `crtc` and `crtc_id`. -/
structure CrtcVars where
  crtc : Option (Ptr Crtc)
  crtcId : Int

/-- `crtc = drmModeGetCrtc(..)`, and `crtc_id` from it if it is there. -/
def getCrtc (answer : Option Crtc) (crtcId : Int) : Program CrtcVars := do
  match ← get .crtc answer with
  | none => pure { crtc := none, crtcId }
  | some crtc =>
      let c ← crtc.read
      pure { crtc := some crtc, crtcId := toInt c.crtcId }

/-- The loop over the CRTCs, from number `ci` on. -/
def crtcLoop (drm : Drm) (res : Ptr Resources) (i e : Nat) (e2 : Ptr Encoder) :
    Nat → List UInt32 → CrtcVars → Program CrtcVars
  | _, [], s => do
      touch res.obj
      pure s
  | ci, id :: crtcs, s => do
      touch res.obj
      let enc ← e2.read
      if enc.possibleCrtcs &&& (1 <<< UInt32.ofNat ci) ≠ 0 then
        let t ← getCrtc (drm.getCrtc (.possible i e ci) id) s.crtcId
        if t.crtc.isSome then pure t else crtcLoop drm res i e e2 (ci + 1) crtcs t
      else crtcLoop drm res i e e2 (ci + 1) crtcs s

/-- The loop over the encoders of a connector, from number `e` on. -/
def encoderLoop (drm : Drm) (res : Ptr Resources) (i : Nat) (c : Ptr Connector) :
    Nat → List UInt32 → CrtcVars → Program CrtcVars
  | _, [], s => do
      touch c.obj
      pure s
  | e, id :: encoders, s => do
      touch c.obj
      if s.crtcId < 0 then
        match ← get .encoder (drm.getEncoder (.listed i e) id) with
        | none => encoderLoop drm res i c (e + 1) encoders s
        | some e2 =>
            let t ← crtcLoop drm res i e e2 0 res.val.crtcs s
            e2.free
            encoderLoop drm res i c (e + 1) encoders t
      else pure s

/-- `enc`: the current encoder of a connector. -/
def getCurrent (drm : Drm) (i : Nat) (c : Ptr Connector) : Program (Option (Ptr Encoder)) := do
  let conn ← c.read
  if conn.encoderId ≠ 0 then get .encoder (drm.getEncoder (.current i) conn.encoderId)
  else pure none

/-- The CRTC that the current encoder drives. -/
def getDriven (drm : Drm) (i : Nat) (crtc : Option (Ptr Crtc)) :
    Option (Ptr Encoder) → Program CrtcVars
  | none => pure { crtc, crtcId := -1 }
  | some enc => do
      let e ← enc.read
      if e.crtcId ≠ 0 then getCrtc (drm.getCrtc (.driven i) e.crtcId) (-1)
      else pure { crtc, crtcId := -1 }

/-- The search for a CRTC of connector `i`; `crtc` is what an earlier connector has left. -/
def findCrtc (drm : Drm) (res : Ptr Resources) (i : Nat) (c : Ptr Connector)
    (crtc : Option (Ptr Crtc)) : Program CrtcVars := do
  let enc ← getCurrent drm i c
  let s ← getDriven drm i crtc enc
  let t ← (if s.crtcId < 0 then encoderLoop drm res i c 0 c.val.encoders s else pure s)
  freeOption enc
  pure t

/-- The variables `conn`, `crtc` and `best`. -/
structure Found where
  conn : Option (Ptr Connector)
  crtc : Option (Ptr Crtc)
  best : ModeInfo

/-- The loop over the connectors, from number `i` on. -/
def connectorLoop (hz : UInt32 → UInt16 → UInt16 → Int) (drm : Drm) (cfg : Config.AppCfg)
    (res : Ptr Resources) : Nat → List UInt32 → Found → Program Found
  | _, [], s => do
      touch res.obj
      pure s
  | i, id :: connectors, s => do
      touch res.obj
      match ← get .connector (drm.getConnector i id) with
      | none => connectorLoop hz drm cfg res (i + 1) connectors s
      | some c =>
          let conn ← c.read
          if matchesName cfg conn then
            let best := bestMode hz conn.modes.tail (conn.modes.headD s.best)
            let found ← findCrtc drm res i c s.crtc
            if found.crtcId ≥ 0 ∧ found.crtc.isSome then
              pure { conn := some c, crtc := found.crtc, best }
            else do
              c.free
              connectorLoop hz drm cfg res (i + 1) connectors { s with crtc := found.crtc, best }
          else do
            c.free
            connectorLoop hz drm cfg res (i + 1) connectors s

/-! ## The commit -/

/-- The last lines of every exit behind the search. -/
def freeSelection (res : Ptr Resources) (conn : Ptr Connector) (crtc : Ptr Crtc) :
    Program PUnit := do
  conn.free
  crtc.free
  res.free

/-- The request; `conn`, `crtc`, the framebuffer and the mode are named in it. -/
def buildRequest (drm : Drm) (cfg : Config.AppCfg) (best : ModeInfo) (conn : Ptr Connector)
    (crtc : Ptr Crtc) (fb : DumbFB) (modeBlob : Ptr UInt32) (req : Ptr PUnit) :
    Program ModesetReq := do
  let k ← crtc.read
  let blob ← modeBlob.read
  touch req.obj
  let c ← conn.read
  touch crtc.obj
  touch req.obj
  let fbId ← fb.fbId.read
  touch crtc.obj
  touch req.obj
  pure (modesetRequest drm cfg c k best fbId blob)

/-- What the call leaves behind. -/
structure ModesetRun where
  ret : Int
  found : Found
  request : Option ModesetReq
  /-- What is written to `*out`. -/
  out : Option ModesetResult

/-- What an exit with an error leaves behind. -/
def failed (found : Found) (ret : Int) (request : Option ModesetReq) : ModesetRun :=
  { ret, found, request, out := none }

/-- The part of `atomic_modeset_maxhz` after the search; `hasOut` tells whether `out` is not
NULL. -/
def commit (hz : UInt32 → UInt16 → UInt16 → Int) (drm : Drm) (answers : FbAnswers)
    (cfg : Config.AppCfg) (hasOut : Bool) (res : Ptr Resources) (found : Found)
    (conn : Ptr Connector) (crtc : Ptr Crtc) : Program ModesetRun := do
  touch conn.obj
  touch crtc.obj
  let w : Int := found.best.hdisplay.toNat
  let h : Int := found.best.vdisplay.toNat
  match ← createArgbFb answers w h with
  | none =>
      freeSelection res conn crtc
      pure (failed found (-3) none)
  | some fb =>
      match ← get .modeBlob (drm.createPropertyBlob found.best) with
      | none =>
          destroyDumbFb fb
          freeSelection res conn crtc
          pure (failed found (-4) none)
      | some modeBlob =>
          match ← get .request (if drm.atomicAlloc then some PUnit.unit else none) with
          | none =>
              modeBlob.free
              destroyDumbFb fb
              freeSelection res conn crtc
              pure (failed found (-5) none)
          | some req =>
              let request ← buildRequest drm cfg found.best conn crtc fb modeBlob req
              -- The kernel looks up the mode and the framebuffer.
              touch req.obj
              touch modeBlob.obj
              touch fb.fbId.obj
              if drm.atomicCommit ≠ 0 then
                req.free
                modeBlob.free
                destroyDumbFb fb
                freeSelection res conn crtc
                pure (failed found (-9) (some request))
              else
                req.free
                modeBlob.free
                destroyDumbFb fb
                let c ← conn.read
                let k ← crtc.read
                freeSelection res conn crtc
                pure
                  { ret := 0
                    found
                    request := some request
                    out :=
                      if hasOut then
                        some
                          { connectorId := c.connectorId
                            crtcId := k.crtcId
                            modeW := w
                            modeH := h
                            modeHz := vrefresh hz found.best }
                      else none }

/-- `atomic_modeset_maxhz`. -/
def atomicModesetMaxhz (hz : UInt32 → UInt16 → UInt16 → Int) (drm : Drm) (answers : FbAnswers)
    (cfg : Config.AppCfg) (hasOut : Bool) : Program ModesetRun := do
  let start : Found := { conn := none, crtc := none, best := .zero }
  match ← get .resources drm.getResources with
  | none => pure (failed start (-1) none)
  | some res =>
      let found ← connectorLoop hz drm cfg res 0 res.val.connectors start
      match found.conn, found.crtc with
      | some conn, some crtc => commit hz drm answers cfg hasOut res found conn crtc
      -- `crtc` is NULL: the call would crash, with everything left as it is.
      | some _, none => pure (failed found (-2) none)
      | none, _ =>
          res.free
          pure (failed found (-2) none)

end Objects
end Modeset
end PixelPilot
