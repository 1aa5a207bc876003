import Mathlib.Data.Nat.Bitwise
import PixelPilot.Modeset.Modes

/-!
# Which connector, CRTC and mode are set

The searches of `atomic_modeset_maxhz` share variables that survive a rejected connector.
Each search is one through a list, whatever the variables hold before it.

Main results:

- Definition `reachableCrtc`: the CRTC that a connector gets.
- Theorem `findCrtc_holds`: the search for a CRTC finds it, whatever was left behind.
- Theorem `connectorLoop_found`: the loop takes the first connector that gets a CRTC.
- Theorem `atomicModesetMaxhz_selects`: what is selected and what is committed.
-/

namespace PixelPilot
namespace Modeset

open Search (IsFirst firstSome firstSome_eq_some_iff firstSome_eq_none_iff)

variable {drm : Drm} {res : Resources} {cfg : Config.AppCfg}

/-! ## The CRTC of a connector -/

/-- The readable CRTC of an encoder that drives connector `i`. -/
def encoderCrtc (drm : Drm) (i : Nat) (enc : Encoder) : Option Crtc :=
  if enc.crtcId ≠ 0 then drm.getCrtc (.driven i) enc.crtcId else none

/-- The readable CRTC that the current encoder of connector `i` drives. -/
def drivenCrtc (drm : Drm) (i : Nat) (c : Connector) : Option Crtc :=
  if c.encoderId ≠ 0 then
    (drm.getEncoder (.current i) c.encoderId).bind (encoderCrtc drm i)
  else none

/-- CRTC number `ci`, if encoder `e` allows it and it is readable. -/
def allowedCrtc (drm : Drm) (i e : Nat) (enc : Encoder) (ci : Nat) (id : UInt32) :
    Option Crtc :=
  if enc.possibleCrtcs.toNat.testBit ci then drm.getCrtc (.possible i e ci) id else none

/-- The first readable CRTC that encoder `e` allows. -/
def offeredCrtc (drm : Drm) (res : Resources) (i e : Nat) (id : UInt32) : Option Crtc :=
  (drm.getEncoder (.listed i e) id).bind fun enc =>
    firstSome (allowedCrtc drm i e enc) 0 res.crtcs

/-- The CRTC that connector `i` gets. -/
def reachableCrtc (drm : Drm) (res : Resources) (i : Nat) (c : Connector) : Option Crtc :=
  (drivenCrtc drm i c).or (firstSome (offeredCrtc drm res i) 0 c.encoders)

/-- The ids of CRTCs fit into an `int`. -/
def Drm.SmallIds (drm : Drm) : Prop :=
  ∀ call id crtc, drm.getCrtc call id = some crtc → crtc.crtcId.toNat < 2 ^ 31

theorem toInt_nonneg {n : UInt32} (hn : n.toNat < 2 ^ 31) : 0 ≤ toInt n := by
  unfold toInt Config.toInt
  rw [Int.bmod_def]
  omega

/-- The bit test of the code. -/
theorem mask_ne_zero (mask : UInt32) {ci : Nat} (hci : ci < 32) :
    mask &&& (1 <<< UInt32.ofNat ci) ≠ 0 ↔ mask.toNat.testBit ci = true := by
  have hshift : (UInt32.ofNat ci).toNat % 32 = ci := by
    rw [UInt32.toNat_ofNat']
    omega
  have hpow : 2 ^ ci % 2 ^ 32 = 2 ^ ci :=
    Nat.mod_eq_of_lt (Nat.pow_lt_pow_right (by omega) hci)
  rw [ne_eq, ← UInt32.toNat_inj, UInt32.toNat_and, UInt32.toNat_shiftLeft, UInt32.toNat_zero,
    hshift, UInt32.toNat_one, Nat.shiftLeft_eq, Nat.one_mul, hpow, Nat.and_two_pow]
  cases mask.toNat.testBit ci with
  | false => simp
  | true => simp

/-- What a search leaves in the shared variables. -/
structure CrtcVars.Holds (s : CrtcVars) (crtc : Option Crtc) : Prop where
  some : ∀ c, crtc = some c → s = { crtc := .some c, crtcId := toInt c.crtcId }
  none : crtc = .none → s.crtcId = -1

theorem holds_some (c : Crtc) :
    CrtcVars.Holds { crtc := some c, crtcId := toInt c.crtcId } (some c) where
  some _ h := by
    cases h
    rfl
  none h := by contradiction

theorem holds_none {s : CrtcVars} (hs : s.crtcId = -1) : s.Holds none where
  some _ h := by contradiction
  none _ := hs

/-- The loop over the CRTCs selects the first one allowed. -/
theorem crtcLoop_holds {i e : Nat} {enc : Encoder} {ci : Nat} {crtcs : List UInt32}
    {s : CrtcVars} (hs : s.crtcId = -1) (hci : ci + crtcs.length ≤ 32) :
    (crtcLoop drm i e enc ci crtcs s).Holds
      (firstSome (allowedCrtc drm i e enc) ci crtcs) := by
  induction crtcs generalizing ci s with
  | nil => exact holds_none hs
  | cons id crtcs ih =>
      rw [List.length_cons] at hci
      unfold crtcLoop firstSome allowedCrtc
      by_cases hbit : enc.possibleCrtcs.toNat.testBit ci = true
      · rw [if_pos ((mask_ne_zero _ (by omega)).mpr hbit), if_pos hbit]
        cases hcrtc : drm.getCrtc (.possible i e ci) id with
        | none => exact ih hs (by omega)
        | some crtc => exact holds_some crtc
      · rw [if_neg (mt (mask_ne_zero _ (by omega)).mp hbit), if_neg hbit]
        exact ih hs (by omega)

/-- Once a CRTC is found, the encoders that are left are not asked. -/
theorem encoderLoop_found {i e : Nat} {encoders : List UInt32} {crtc : Option Crtc} {n : Int}
    (hn : 0 ≤ n) :
    encoderLoop drm res i e encoders { crtc, crtcId := n } = { crtc, crtcId := n } := by
  cases encoders with
  | nil => rfl
  | cons id encoders =>
      unfold encoderLoop
      rw [if_neg (Int.not_lt.mpr hn)]

/-- What the searches find is readable. -/
theorem allowedCrtc_small (hsmall : drm.SmallIds) {i e : Nat} {enc : Encoder}
    {crtcs : List UInt32} {c : Crtc}
    (h : firstSome (allowedCrtc drm i e enc) 0 crtcs = some c) : 0 ≤ toInt c.crtcId := by
  obtain ⟨ci, hfirst⟩ := firstSome_eq_some_iff.mp h
  obtain ⟨id, -, hallowed⟩ := hfirst.found
  unfold allowedCrtc at hallowed
  split at hallowed
  · exact toInt_nonneg (hsmall _ _ _ hallowed)
  · contradiction

/-- The loop over the encoders selects the first one offered. -/
theorem encoderLoop_holds (hsmall : drm.SmallIds) (hcrtcs : res.crtcs.length ≤ 32)
    {i e : Nat} {encoders : List UInt32} {s : CrtcVars} (hs : s.crtcId = -1) :
    (encoderLoop drm res i e encoders s).Holds
      (firstSome (offeredCrtc drm res i) e encoders) := by
  induction encoders generalizing e s with
  | nil => exact holds_none hs
  | cons id encoders ih =>
      unfold encoderLoop firstSome offeredCrtc
      rw [if_pos (by omega)]
      cases hencoder : drm.getEncoder (.listed i e) id with
      | none => exact ih hs
      | some enc =>
          have hloop : (crtcLoop drm i e enc 0 res.crtcs s).Holds
              (firstSome (allowedCrtc drm i e enc) 0 res.crtcs) :=
            crtcLoop_holds hs (Nat.le_trans (Nat.le_of_eq (Nat.zero_add _)) hcrtcs)
          simp only [Option.bind_some]
          cases hfirst : firstSome (allowedCrtc drm i e enc) 0 res.crtcs with
          | none => exact ih (hloop.none hfirst)
          | some c =>
              simp only
              rw [hloop.some c hfirst, encoderLoop_found (allowedCrtc_small hsmall hfirst)]
              exact holds_some c

/-- The id of a CRTC is not negative as an `int`. -/
theorem encoderCrtc_small (hsmall : drm.SmallIds) {i : Nat} {enc : Encoder} {c : Crtc}
    (h : encoderCrtc drm i enc = some c) : 0 ≤ toInt c.crtcId := by
  unfold encoderCrtc at h
  split at h
  · exact toInt_nonneg (hsmall _ _ _ h)
  · contradiction

/-- The search for a CRTC finds it, whatever an earlier connector has left behind. -/
theorem findCrtc_holds (hsmall : drm.SmallIds) (hcrtcs : res.crtcs.length ≤ 32) (i : Nat)
    (c : Connector) (crtc : Option Crtc) :
    (findCrtc drm res i c crtc).Holds (reachableCrtc drm res i c) := by
  -- Without a CRTC of the current encoder the listed encoders are asked.
  have hlisted : ∀ s : CrtcVars, s.crtcId = -1 → drivenCrtc drm i c = none →
      (if s.crtcId < 0 then encoderLoop drm res i 0 c.encoders s else s).Holds
        (reachableCrtc drm res i c) := by
    intro s hs hdriven
    rw [if_pos (by omega), reachableCrtc, hdriven, Option.none_or]
    exact encoderLoop_holds hsmall hcrtcs hs
  unfold findCrtc
  by_cases hid : c.encoderId ≠ 0
  · rw [if_pos hid]
    cases henc : drm.getEncoder (.current i) c.encoderId with
    | none =>
        refine hlisted _ rfl ?_
        rw [drivenCrtc, if_pos hid, henc]
        rfl
    | some enc =>
        have hdriven : drivenCrtc drm i c = encoderCrtc drm i enc := by
          rw [drivenCrtc, if_pos hid, henc]
          rfl
        simp only
        by_cases hcrtc : enc.crtcId ≠ 0
        · rw [if_pos hcrtc]
          cases hget : drm.getCrtc (.driven i) enc.crtcId with
          | none =>
              refine hlisted _ rfl ?_
              rw [hdriven, encoderCrtc, if_pos hcrtc, hget]
          | some d =>
              have hfound : encoderCrtc drm i enc = some d := by
                rw [encoderCrtc, if_pos hcrtc, hget]
              have hpos := encoderCrtc_small hsmall hfound
              rw [if_neg (by simp only; omega), reachableCrtc, hdriven, hfound, Option.some_or]
              exact holds_some d
        · rw [if_neg hcrtc]
          refine hlisted _ rfl ?_
          rw [hdriven, encoderCrtc, if_neg hcrtc]
  · rw [if_neg hid]
    refine hlisted _ rfl ?_
    rw [drivenCrtc, if_neg hid]

/-- What the two nested searches mean. -/
theorem reachableCrtc_eq_some {i : Nat} {c : Connector} {crtc : Crtc}
    (h : reachableCrtc drm res i c = some crtc) :
    drivenCrtc drm i c = some crtc ∨ drivenCrtc drm i c = none ∧
      ∃ e, IsFirst (offeredCrtc drm res i) c.encoders e crtc ∧
        ∃ id enc ci, c.encoders[e]? = some id ∧ drm.getEncoder (.listed i e) id = some enc ∧
          IsFirst (allowedCrtc drm i e enc) res.crtcs ci crtc := by
  unfold reachableCrtc at h
  rcases Option.or_eq_some_iff.mp h with hdriven | ⟨hdriven, hlisted⟩
  · exact .inl hdriven
  · obtain ⟨e, hfirst⟩ := firstSome_eq_some_iff.mp hlisted
    obtain ⟨id, hid, hoffered⟩ := hfirst.found
    obtain ⟨enc, henc, hallowed⟩ := Option.bind_eq_some_iff.mp hoffered
    obtain ⟨ci, hci⟩ := firstSome_eq_some_iff.mp hallowed
    exact .inr ⟨hdriven, e, hfirst, id, enc, ci, hid, henc, hci⟩

theorem reachableCrtc_small (hsmall : drm.SmallIds) {i : Nat} {c : Connector} {crtc : Crtc}
    (h : reachableCrtc drm res i c = some crtc) : 0 ≤ toInt crtc.crtcId := by
  rcases reachableCrtc_eq_some h with hdriven | ⟨-, e, -, id, enc, ci, -, -, hallowed⟩
  · unfold drivenCrtc at hdriven
    split at hdriven
    · obtain ⟨enc, -, hcrtc⟩ := Option.bind_eq_some_iff.mp hdriven
      exact encoderCrtc_small hsmall hcrtc
    · contradiction
  · exact allowedCrtc_small hsmall (firstSome_eq_some_iff.mpr ⟨ci, hallowed⟩)

/-! ## The connector -/

/-- What is found once the loop over the connectors ends early. -/
structure Selection where
  conn : Connector
  crtc : Crtc
  best : ModeInfo

/-- What connector `i` leads to. -/
def selectable (hz : UInt32 → UInt16 → UInt16 → Int) (drm : Drm) (cfg : Config.AppCfg)
    (res : Resources) (i : Nat) (id : UInt32) : Option Selection :=
  (drm.getConnector i id).bind fun c =>
    if matchesName cfg c then
      (reachableCrtc drm res i c).map fun crtc =>
        { conn := c, crtc, best := bestMode hz c.modes.tail (c.modes.headD .zero) }
    else none

variable {hz : UInt32 → UInt16 → UInt16 → Int}

/-- The loop takes the first connector that leads to a selection, with its own CRTC and
mode. -/
theorem connectorLoop_found (hz : UInt32 → UInt16 → UInt16 → Int) (cfg : Config.AppCfg)
    (hsmall : drm.SmallIds) (hcrtcs : res.crtcs.length ≤ 32) (i : Nat)
    (connectors : List UInt32) (s : Found) (hs : s.conn = none) :
    (∀ sel, firstSome (selectable hz drm cfg res) i connectors = some sel →
      connectorLoop hz drm cfg res i connectors s =
        { conn := some sel.conn, crtc := some sel.crtc, best := sel.best }) ∧
    (firstSome (selectable hz drm cfg res) i connectors = none →
      (connectorLoop hz drm cfg res i connectors s).conn = none) := by
  induction connectors generalizing i s with
  | nil => exact ⟨fun sel h => by contradiction, fun _ => hs⟩
  | cons id connectors ih =>
      unfold connectorLoop firstSome selectable
      cases hconn : drm.getConnector i id with
      | none => exact ih (i + 1) _ hs
      | some c =>
          simp only [Option.bind_some]
          by_cases hmatches : matchesName cfg c
          · rw [if_pos hmatches, if_pos hmatches]
            have hmode : ∀ best, c.modes.headD best = c.modes.headD .zero := by
              intro best
              cases hmodes : c.modes with
              | nil => exact absurd hmodes hmatches.2.1
              | cons m modes => rfl
            have hfound := findCrtc_holds hsmall hcrtcs i c s.crtc
            cases hcrtc : reachableCrtc drm res i c with
            | none =>
                have hid := hfound.none hcrtc
                rw [if_neg (by omega)]
                exact ih (i + 1) _ hs
            | some crtc =>
                have hpos := reachableCrtc_small hsmall hcrtc
                have hvars := hfound.some crtc hcrtc
                generalize toInt crtc.crtcId = n at hvars hpos
                rw [hvars, if_pos ⟨hpos, rfl⟩]
                refine ⟨fun sel hsel => ?_, fun h => by contradiction⟩
                cases hsel
                rw [hmode]
          · rw [if_neg hmatches, if_neg hmatches]
            exact ih (i + 1) _ hs

/-- What was found is a connector, a CRTC of it and its best mode. -/
structure Selected (hz : UInt32 → UInt16 → UInt16 → Int) (drm : Drm) (cfg : Config.AppCfg)
    (res : Resources) (i : Nat) (c : Connector) (crtc : Crtc) (best : ModeInfo) : Prop where
  connector : ∃ id, res.connectors[i]? = some id ∧ drm.getConnector i id = some c
  suitable : matchesName cfg c
  /-- No connector before it is suitable and gets a CRTC. -/
  first : ∀ j < i, ∀ id c', res.connectors[j]? = some id → drm.getConnector j id = some c' →
    matchesName cfg c' → reachableCrtc drm res j c' = none
  /-- The CRTC of the current encoder, or else the first one that is allowed by the first
  encoder that allows one. -/
  crtc : drivenCrtc drm i c = some crtc ∨ drivenCrtc drm i c = none ∧
    ∃ e, IsFirst (offeredCrtc drm res i) c.encoders e crtc ∧
      ∃ id enc ci, c.encoders[e]? = some id ∧ drm.getEncoder (.listed i e) id = some enc ∧
        IsFirst (allowedCrtc drm i e enc) res.crtcs ci crtc
  mode : IsBest hz c.modes best

/-- A connector is passed over if it is another one or reaches no CRTC. -/
theorem selectable_eq_none {i : Nat} {id : UInt32} :
    selectable hz drm cfg res i id = none ↔ ∀ c, drm.getConnector i id = some c →
      matchesName cfg c → reachableCrtc drm res i c = none := by
  unfold selectable
  cases hconn : drm.getConnector i id with
  | none => simp
  | some c =>
      simp only [Option.bind_some, Option.some.injEq, forall_eq']
      by_cases hmatches : matchesName cfg c
      · simp [hmatches]
      · simp [hmatches]

/-- The first selectable connector is the one selected. -/
theorem selected_of_first {i : Nat} {sel : Selection}
    (h : IsFirst (selectable hz drm cfg res) res.connectors i sel) :
    Selected hz drm cfg res i sel.conn sel.crtc sel.best := by
  obtain ⟨id, hid, hselectable⟩ := h.found
  obtain ⟨c, hconn, hsel⟩ := Option.bind_eq_some_iff.mp hselectable
  split at hsel
  · rename_i hmatches
    obtain ⟨crtc, hcrtc, rfl⟩ := Option.map_eq_some_iff.mp hsel
    refine ⟨⟨id, hid, hconn⟩, hmatches, ?_, reachableCrtc_eq_some hcrtc, ?_⟩
    · intro j hj id' c' hid' hconn' hmatches'
      exact selectable_eq_none.mp (h.before j hj id' hid') c' hconn' hmatches'
    · cases hmodes : c.modes with
      | nil => exact absurd hmodes hmatches.2.1
      | cons m modes => exact bestMode_best hz m modes
  · contradiction

/-- What is committed, once a connector is found. -/
structure Committed (hz : UInt32 → UInt16 → UInt16 → Int) (drm : Drm) (cfg : Config.AppCfg)
    (c : Connector) (crtc : Crtc) (run : ModesetRun) : Prop where
  ret : run.ret ≠ -2
  request : ∀ req, run.request = some req → ∃ fb modeBlob,
    drm.createPropertyBlob run.found.best = some modeBlob ∧
      req = modesetRequest drm cfg c crtc run.found.best fb modeBlob
  out : ∀ out, run.out = some out → out =
    { connectorId := c.connectorId
      crtcId := crtc.crtcId
      modeW := run.found.best.hdisplay.toNat
      modeH := run.found.best.vdisplay.toNat
      modeHz := vrefresh hz run.found.best }

/-- Without a connector the call returns -2. -/
theorem commit_none (hz : UInt32 → UInt16 → UInt16 → Int) (drm : Drm) (cfg : Config.AppCfg)
    {found : Found} (h : found.conn = none) :
    (commit hz drm cfg found).ret = -2 := by
  unfold commit
  rw [h]

/-- A run that stops before the commit. -/
theorem committed_of_none {c : Connector} {crtc : Crtc} {run : ModesetRun} {n : Int}
    (hret : run.ret = n) (hn : n ≠ -2) (hrequest : run.request = none) (hout : run.out = none) :
    Committed hz drm cfg c crtc run where
  ret := by
    rw [hret]
    exact hn
  request req h := by
    rw [hrequest] at h
    contradiction
  out out h := by
    rw [hout] at h
    contradiction

/-- With one it commits to what was found. -/
theorem commit_some (hz : UInt32 → UInt16 → UInt16 → Int) (drm : Drm) (cfg : Config.AppCfg)
    (c : Connector) (crtc : Crtc) (best : ModeInfo) :
    (commit hz drm cfg { conn := some c, crtc := some crtc, best }).found =
        { conn := some c, crtc := some crtc, best } ∧
      Committed hz drm cfg c crtc
        (commit hz drm cfg { conn := some c, crtc := some crtc, best }) := by
  unfold commit
  simp only
  cases hfb : drm.createArgbFb best.hdisplay.toNat best.vdisplay.toNat with
  | none => exact ⟨rfl, committed_of_none rfl (by decide : (-3 : Int) ≠ -2) rfl rfl⟩
  | some fb =>
      cases hblob : drm.createPropertyBlob best with
      | none => exact ⟨rfl, committed_of_none rfl (by decide : (-4 : Int) ≠ -2) rfl rfl⟩
      | some modeBlob =>
          simp only
          by_cases halloc : (!drm.atomicAlloc) = true
          · rw [if_pos halloc]
            exact ⟨rfl, committed_of_none rfl (by decide : (-5 : Int) ≠ -2) rfl rfl⟩
          · rw [if_neg halloc]
            by_cases hcommit : drm.atomicCommit ≠ 0
            · rw [if_pos hcommit]
              refine ⟨rfl, (by decide : (-9 : Int) ≠ -2), fun req h => ?_,
                fun out h => by contradiction⟩
              cases h
              exact ⟨fb, modeBlob, hblob, rfl⟩
            · rw [if_neg hcommit]
              refine ⟨rfl, (by decide : (0 : Int) ≠ -2), fun req h => ?_, fun out h => ?_⟩
              · cases h
                exact ⟨fb, modeBlob, hblob, rfl⟩
              · cases h
                rfl

/-- The call commits the mode and the CRTC of one connector, the first one that gets a CRTC. -/
theorem atomicModesetMaxhz_selects (hz : UInt32 → UInt16 → UInt16 → Int) (drm : Drm)
    (cfg : Config.AppCfg) (hsmall : drm.SmallIds)
    (hcrtcs : ∀ res, drm.getResources = some res → res.crtcs.length ≤ 32) :
    IsStrictWeakOrder ModeInfo (fun a b => betterMode hz a b = true) ∧
      (drm.getResources = none → (atomicModesetMaxhz hz drm cfg).ret = -1) ∧
      ∀ res, drm.getResources = some res →
        ((atomicModesetMaxhz hz drm cfg).ret = -2 ↔
          ∀ i id c, res.connectors[i]? = some id → drm.getConnector i id = some c →
            matchesName cfg c → reachableCrtc drm res i c = none) ∧
        ((atomicModesetMaxhz hz drm cfg).ret ≠ -2 → ∃ i c crtc best,
          (atomicModesetMaxhz hz drm cfg).found =
            { conn := some c, crtc := some crtc, best } ∧
          Selected hz drm cfg res i c crtc best ∧
          Committed hz drm cfg c crtc (atomicModesetMaxhz hz drm cfg)) := by
  refine ⟨betterMode_strictWeakOrder hz, ?_, ?_⟩
  · intro hres
    unfold atomicModesetMaxhz
    rw [hres]
  · intro res hres
    let start : Found := { conn := none, crtc := none, best := .zero }
    have hrun : atomicModesetMaxhz hz drm cfg =
        commit hz drm cfg (connectorLoop hz drm cfg res 0 res.connectors start) := by
      unfold atomicModesetMaxhz
      rw [hres]
    obtain ⟨hsome, hnone⟩ := connectorLoop_found hz cfg hsmall
      (hcrtcs res hres) 0 res.connectors start rfl
    rw [hrun]
    cases hfirst : firstSome (selectable hz drm cfg res) 0 res.connectors with
    | none =>
        have hret := commit_none hz drm cfg (hnone hfirst)
        refine ⟨⟨fun _ i id c hid => ?_, fun _ => hret⟩, fun hne => absurd hret hne⟩
        exact selectable_eq_none.mp (firstSome_eq_none_iff.mp hfirst i id hid) c
    | some sel =>
        obtain ⟨hfound, hcommitted⟩ := commit_some hz drm cfg sel.conn sel.crtc sel.best
        obtain ⟨i, hi⟩ := firstSome_eq_some_iff.mp hfirst
        rw [hsome sel hfirst]
        refine ⟨⟨fun hret => absurd hret hcommitted.ret, fun hnever => ?_⟩, fun _ => ?_⟩
        · have hnothing : firstSome (selectable hz drm cfg res) 0 res.connectors = none :=
            firstSome_eq_none_iff.mpr fun i id hid =>
              selectable_eq_none.mpr fun c => hnever i id c hid
          rw [hfirst] at hnothing
          contradiction
        · exact ⟨i, sel.conn, sel.crtc, sel.best, hfound, selected_of_first hi, hcommitted⟩

/-- The `double` expression of `vrefresh` without rounding errors. -/
def exactHz (clock : UInt32) (htotal vtotal : UInt16) : Int :=
  let total := htotal.toNat * vtotal.toNat
  (2 * clock.toNat * 1000 + total) / (2 * total)

/-- A mode of 1920 by 1080 pixels. -/
def fullHd (clock vrefresh : UInt32) : ModeInfo :=
  { ModeInfo.zero with
    clock, hdisplay := 1920, htotal := 2200, vdisplay := 1080, vtotal := 1125, vrefresh }

/-- A display without an encoder, and one whose current encoder and first CRTC cannot be
read. -/
def twoDisplays : Drm where
  getResources := some { crtcs := [51, 52], connectors := [71, 72] }
  getConnector i id := some
    { connectorId := id
      encoderId := if i = 0 then 0 else 61
      connectorType := .hdmiA
      connectorTypeId := 1
      connection := .connected
      modes := [fullHd 148500 60, fullHd 297000 0, fullHd 297000 120]
      encoders := if i = 0 then [] else [61] }
  getEncoder call _ := if call = .current 1 then none else some { crtcId := 0, possibleCrtcs := 3 }
  getCrtc _ id := if id = 52 then some { crtcId := 52 } else none
  createArgbFb _ _ := some 81
  createPropertyBlob _ := some 91
  atomicAlloc := true
  propId _ _ := 7
  zpos := some (9, 3)
  atomicCommit := 0

theorem twoDisplays_small : twoDisplays.SmallIds := by
  intro call id crtc hcrtc
  unfold twoDisplays at hcrtc
  simp only at hcrtc
  split at hcrtc
  · cases hcrtc
    decide
  · contradiction

/-- The second display gets the second CRTC and its second mode. -/
theorem atomicModesetMaxhz_selects_second : ∃ i c crtc best,
    ((atomicModesetMaxhz exactHz twoDisplays Config.cfgDefaults).found =
        { conn := some c, crtc := some crtc, best } ∧
      Selected exactHz twoDisplays Config.cfgDefaults
        { crtcs := [51, 52], connectors := [71, 72] } i c crtc best ∧
      Committed exactHz twoDisplays Config.cfgDefaults c crtc
        (atomicModesetMaxhz exactHz twoDisplays Config.cfgDefaults)) ∧
      c.connectorId = 72 ∧ crtc.crtcId = 52 ∧ best = fullHd 297000 0 := by
  have hcrtcs : ∀ res, twoDisplays.getResources = some res → res.crtcs.length ≤ 32 := by
    intro res hres
    cases hres
    decide
  have hret : (atomicModesetMaxhz exactHz twoDisplays Config.cfgDefaults).ret ≠ -2 := by
    decide +kernel
  have hfields : (atomicModesetMaxhz exactHz twoDisplays Config.cfgDefaults).found.best =
        fullHd 297000 0 ∧
      (atomicModesetMaxhz exactHz twoDisplays Config.cfgDefaults).found.crtc =
        some { crtcId := 52 } ∧
      (atomicModesetMaxhz exactHz twoDisplays Config.cfgDefaults).found.conn.map
        Connector.connectorId = some 72 := by
    decide +kernel
  obtain ⟨-, -, hselects⟩ :=
    atomicModesetMaxhz_selects exactHz twoDisplays Config.cfgDefaults twoDisplays_small hcrtcs
  obtain ⟨i, c, crtc, best, hfound, hselected, hcommitted⟩ := (hselects _ rfl).2 hret
  rw [hfound] at hfields
  obtain ⟨hbest, hcrtc, hconn⟩ := hfields
  cases Option.some.inj hcrtc
  exact ⟨i, c, _, best, ⟨hfound, hselected, hcommitted⟩, Option.some.inj hconn, rfl, hbest⟩

end Modeset
end PixelPilot
