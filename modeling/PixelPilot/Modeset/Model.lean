import PixelPilot.Config.Model
import PixelPilot.Library.Search

/-!
# Setting the mode of a display

`atomic_modeset_maxhz` looks for a connected connector with a CRTC, picks its best mode and
commits both.  What the DRM device answers to a call is given for each call of its own, so
one call may fail where another one for the same object succeeds.

Main results:

- Definitions `vrefresh` and `betterMode`: the order of the modes.
- Definitions `crtcLoop`, `encoderLoop` and `connectorLoop`: the nested searches, with the
  variables they share.
- Definition `atomicModesetMaxhz`: the whole call.

Current gaps:

- The `double` expression in `vrefresh` is a parameter.
- Which objects are freed is the subject of `Modeset.Objects`; log messages are left out.
-/

namespace PixelPilot
namespace Modeset

/-! ## What the device describes -/

/-- The types `conn_type_str` knows. -/
inductive ConnectorType
  | hdmiA
  | hdmiB
  | displayPort
  | eDP
  | vga
  | other (t : UInt32)
deriving DecidableEq, Repr

/-- `drmModeConnection`. -/
inductive Connection
  | connected
  | disconnected
  | unknown
deriving DecidableEq, Repr

/-- `drmModeModeInfo`. -/
structure ModeInfo where
  clock : UInt32
  hdisplay : UInt16
  hsyncStart : UInt16
  hsyncEnd : UInt16
  htotal : UInt16
  hskew : UInt16
  vdisplay : UInt16
  vsyncStart : UInt16
  vsyncEnd : UInt16
  vtotal : UInt16
  vscan : UInt16
  vrefresh : UInt32
  flags : UInt32
  type : UInt32
  name : Config.Text
deriving DecidableEq, Repr

/-- A mode of zeros. -/
def ModeInfo.zero : ModeInfo where
  clock := 0
  hdisplay := 0
  hsyncStart := 0
  hsyncEnd := 0
  htotal := 0
  hskew := 0
  vdisplay := 0
  vsyncStart := 0
  vsyncEnd := 0
  vtotal := 0
  vscan := 0
  vrefresh := 0
  flags := 0
  type := 0
  name := []

/-- `drmModeEncoder`. -/
structure Encoder where
  crtcId : UInt32
  possibleCrtcs : UInt32
deriving DecidableEq, Repr

/-- `drmModeCrtc`. -/
structure Crtc where
  crtcId : UInt32
deriving DecidableEq, Repr

/-- `drmModeConnector`. -/
structure Connector where
  connectorId : UInt32
  encoderId : UInt32
  connectorType : ConnectorType
  connectorTypeId : UInt32
  connection : Connection
  modes : List ModeInfo
  encoders : List UInt32
deriving DecidableEq, Repr

/-- `drmModeRes`. -/
structure Resources where
  crtcs : List UInt32
  connectors : List UInt32
deriving DecidableEq, Repr

/-- The calls of `drmModeGetEncoder` for connector `i`. -/
inductive EncoderCall
  /-- For `c->encoder_id`. -/
  | current (i : Nat)
  /-- For `c->encoders[e]`. -/
  | listed (i e : Nat)
deriving DecidableEq, Repr

/-- The calls of `drmModeGetCrtc` for connector `i`. -/
inductive CrtcCall
  /-- For the CRTC of the current encoder. -/
  | driven (i : Nat)
  /-- For `res->crtcs[ci]`, allowed by encoder `e`. -/
  | possible (i e ci : Nat)
deriving DecidableEq, Repr

/-- The answers of the device; a call without an object has failed. -/
structure Drm where
  getResources : Option Resources
  /-- The answer to the call for connector `i`. -/
  getConnector : Nat → UInt32 → Option Connector
  getEncoder : EncoderCall → UInt32 → Option Encoder
  getCrtc : CrtcCall → UInt32 → Option Crtc
  /-- `create_argb_fb`: the framebuffer it makes. -/
  createArgbFb : Int → Int → Option UInt32
  createPropertyBlob : ModeInfo → Option UInt32
  atomicAlloc : Bool
  /-- `drm_get_prop_id`: the property of an object, or 0. -/
  propId : UInt32 → String → UInt32
  /-- `drm_get_prop_id_and_range_ci` for `ZPOS`: the property, and the end of its range. -/
  zpos : Option (UInt32 × UInt64)
  atomicCommit : Int

/-! ## Modes -/

/-- A 32-bit number as an `int`. -/
def toInt (n : UInt32) : Int :=
  Config.toInt n.toNat

/-- `DRM_MODE_TYPE_PREFERRED`. -/
def drmModeTypePreferred : UInt32 := 8

/-- `vrefresh`; `hz` is the `double` expression of a clock and a total size. -/
def vrefresh (hz : UInt32 → UInt16 → UInt16 → Int) (m : ModeInfo) : Int :=
  if m.vrefresh ≠ 0 then toInt m.vrefresh
  else if m.htotal ≠ 0 ∧ m.vtotal ≠ 0 then hz m.clock m.htotal m.vtotal
  else 0

/-- `better_mode`. -/
def betterMode (hz : UInt32 → UInt16 → UInt16 → Int) (a b : ModeInfo) : Bool :=
  let ahz := vrefresh hz a
  let bhz := vrefresh hz b
  if ahz ≠ bhz then ahz > bhz
  else
    let aa := a.hdisplay.toNat * a.vdisplay.toNat
    let bb := b.hdisplay.toNat * b.vdisplay.toNat
    if aa ≠ bb then aa > bb
    else
      let ap := if a.type &&& drmModeTypePreferred ≠ 0 then 1 else 0
      let bp := if b.type &&& drmModeTypePreferred ≠ 0 then 1 else 0
      if ap ≠ bp then ap > bp
      else a.clock > b.clock

/-! ## The search -/

/-- `conn_type_str`. -/
def connTypeStr : ConnectorType → String
  | .hdmiA => "HDMI-A"
  | .hdmiB => "HDMI-B"
  | .displayPort => "DP"
  | .eDP => "eDP"
  | .vga => "VGA"
  | .other _ => "UNKNOWN"

/-- The name of a connector, as `snprintf` writes it to 32 characters. -/
def cname (c : Connector) : Config.Text :=
  ((connTypeStr c.connectorType).toList ++ '-' ::
    Nat.toDigits 10 c.connectorTypeId.toNat).take 31

/-- The variables that the loops share: `crtc` and `crtc_id`. -/
structure CrtcVars where
  crtc : Option Crtc
  crtcId : Int
deriving DecidableEq, Repr

/-- The loop over the CRTCs, from number `ci` on. -/
def crtcLoop (drm : Drm) (i e : Nat) (enc : Encoder) : Nat → List UInt32 → CrtcVars → CrtcVars
  | _, [], s => s
  | ci, id :: crtcs, s =>
      if enc.possibleCrtcs &&& (1 <<< UInt32.ofNat ci) ≠ 0 then
        match drm.getCrtc (.possible i e ci) id with
        | some crtc => { crtc := some crtc, crtcId := toInt crtc.crtcId }
        | none => crtcLoop drm i e enc (ci + 1) crtcs { s with crtc := none }
      else crtcLoop drm i e enc (ci + 1) crtcs s

/-- The loop over the encoders of a connector, from number `e` on. -/
def encoderLoop (drm : Drm) (res : Resources) (i : Nat) :
    Nat → List UInt32 → CrtcVars → CrtcVars
  | _, [], s => s
  | e, id :: encoders, s =>
      if s.crtcId < 0 then
        match drm.getEncoder (.listed i e) id with
        | none => encoderLoop drm res i (e + 1) encoders s
        | some e2 =>
            encoderLoop drm res i (e + 1) encoders (crtcLoop drm i e e2 0 res.crtcs s)
      else s

/-- The search for a CRTC of connector `i`; `crtc` is what an earlier connector has left. -/
def findCrtc (drm : Drm) (res : Resources) (i : Nat) (c : Connector) (crtc : Option Crtc) :
    CrtcVars :=
  let enc := if c.encoderId ≠ 0 then drm.getEncoder (.current i) c.encoderId else none
  let s : CrtcVars :=
    match enc with
    | none => { crtc, crtcId := -1 }
    | some enc =>
        if enc.crtcId ≠ 0 then
          match drm.getCrtc (.driven i) enc.crtcId with
          | none => { crtc := none, crtcId := -1 }
          | some crtc => { crtc := some crtc, crtcId := toInt crtc.crtcId }
        else { crtc, crtcId := -1 }
  if s.crtcId < 0 then encoderLoop drm res i 0 c.encoders s else s

/-- The variables `conn`, `crtc` and `best`. -/
structure Found where
  conn : Option Connector
  crtc : Option Crtc
  best : ModeInfo
deriving DecidableEq, Repr

/-- A connector is looked at. -/
def matchesName (cfg : Config.AppCfg) (c : Connector) : Prop :=
  c.connection = .connected ∧ c.modes ≠ [] ∧
    (cfg.connectorName.chars = [] ∨ cfg.connectorName.chars = cname c)

instance (cfg : Config.AppCfg) (c : Connector) : Decidable (matchesName cfg c) :=
  inferInstanceAs (Decidable (_ ∧ _ ∧ _))

/-- The loop over the modes of a connector. -/
def bestMode (hz : UInt32 → UInt16 → UInt16 → Int) : List ModeInfo → ModeInfo → ModeInfo
  | [], best => best
  | m :: modes, best => bestMode hz modes (if betterMode hz m best then m else best)

/-- The loop over the connectors, from number `i` on. -/
def connectorLoop (hz : UInt32 → UInt16 → UInt16 → Int) (drm : Drm) (cfg : Config.AppCfg)
    (res : Resources) : Nat → List UInt32 → Found → Found
  | _, [], s => s
  | i, id :: connectors, s =>
      match drm.getConnector i id with
      | none => connectorLoop hz drm cfg res (i + 1) connectors s
      | some c =>
          if matchesName cfg c then
            let best := bestMode hz c.modes.tail (c.modes.headD s.best)
            let found := findCrtc drm res i c s.crtc
            if found.crtcId ≥ 0 ∧ found.crtc.isSome then
              { conn := some c, crtc := found.crtc, best }
            else
              connectorLoop hz drm cfg res (i + 1) connectors { s with crtc := found.crtc, best }
          else connectorLoop hz drm cfg res (i + 1) connectors s

/-! ## The commit -/

/-- `ModesetResult`. -/
structure ModesetResult where
  connectorId : UInt32
  crtcId : UInt32
  modeW : Int
  modeH : Int
  modeHz : Int
deriving DecidableEq, Repr

/-- The entries of a request: the object, the property and the value. -/
abbrev ModesetReq := List (UInt32 × UInt32 × UInt64)

/-- The request of `atomic_modeset_maxhz`. -/
def modesetRequest (drm : Drm) (cfg : Config.AppCfg) (conn : Connector) (crtc : Crtc)
    (best : ModeInfo) (fb modeBlob : UInt32) : ModesetReq :=
  let plane := UInt32.ofInt cfg.planeId
  let w := best.hdisplay.toUInt64
  let h := best.vdisplay.toUInt64
  [(crtc.crtcId, drm.propId crtc.crtcId "ACTIVE", 1),
    (crtc.crtcId, drm.propId crtc.crtcId "MODE_ID", modeBlob.toUInt64),
    (conn.connectorId, drm.propId conn.connectorId "CRTC_ID", crtc.crtcId.toUInt64),
    (plane, drm.propId plane "FB_ID", fb.toUInt64),
    (plane, drm.propId plane "CRTC_ID", crtc.crtcId.toUInt64),
    (plane, drm.propId plane "CRTC_X", 0),
    (plane, drm.propId plane "CRTC_Y", 0),
    (plane, drm.propId plane "CRTC_W", w),
    (plane, drm.propId plane "CRTC_H", h),
    (plane, drm.propId plane "SRC_X", 0),
    (plane, drm.propId plane "SRC_Y", 0),
    (plane, drm.propId plane "SRC_W", w <<< 16),
    (plane, drm.propId plane "SRC_H", h <<< 16)] ++
  (drm.zpos.toList.map fun (property, zmax) => (plane, property, zmax))

/-- What the call leaves behind: its result, the variables of the search, the request that
was committed, and `*out`. -/
structure ModesetRun where
  ret : Int
  found : Found
  request : Option ModesetReq
  out : Option ModesetResult

/-- The part of `atomic_modeset_maxhz` after the search. -/
def commit (hz : UInt32 → UInt16 → UInt16 → Int) (drm : Drm) (cfg : Config.AppCfg)
    (found : Found) : ModesetRun :=
  match found.conn, found.crtc with
  | some conn, some crtc =>
      let w : Int := found.best.hdisplay.toNat
      let h : Int := found.best.vdisplay.toNat
      match drm.createArgbFb w h with
      | none => { ret := -3, found, request := none, out := none }
      | some fb =>
          match drm.createPropertyBlob found.best with
          | none => { ret := -4, found, request := none, out := none }
          | some modeBlob =>
              if !drm.atomicAlloc then { ret := -5, found, request := none, out := none }
              else
                let request := modesetRequest drm cfg conn crtc found.best fb modeBlob
                if drm.atomicCommit ≠ 0 then
                  { ret := -9, found, request := some request, out := none }
                else
                  { ret := 0
                    found
                    request := some request
                    out := some
                      { connectorId := conn.connectorId
                        crtcId := crtc.crtcId
                        modeW := w
                        modeH := h
                        modeHz := vrefresh hz found.best } }
  | _, _ => { ret := -2, found, request := none, out := none }

/-- `atomic_modeset_maxhz`. -/
def atomicModesetMaxhz (hz : UInt32 → UInt16 → UInt16 → Int) (drm : Drm)
    (cfg : Config.AppCfg) : ModesetRun :=
  let start : Found := { conn := none, crtc := none, best := .zero }
  match drm.getResources with
  | none => { ret := -1, found := start, request := none, out := none }
  | some res => commit hz drm cfg (connectorLoop hz drm cfg res 0 res.connectors start)

end Modeset
end PixelPilot
