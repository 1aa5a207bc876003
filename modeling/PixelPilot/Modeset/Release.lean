import PixelPilot.Decoder.Resources
import PixelPilot.Modeset.Objects
import PixelPilot.Modeset.Selection

/-!
# What a mode setting gives back

Each exit of `atomic_modeset_maxhz` has its own list of what it frees.  A specification for
each part of the call says what it owns on each way out.

Main results:

- Theorems `createArgbFb_spec` and `destroyDumbFb_spec`: the framebuffer.
- Theorem `createArgbFb_decoder`: it is the one of the model of the decoder's background.
- Theorems `encoderLoop_spec`, `findCrtc_spec` and `connectorLoop_spec`: the search keeps the
  connector and the CRTC that it selects, and does what the model without objects does.
- Theorem `atomicModesetMaxhz_frees`: the call frees all it got, once, and uses nothing after
  that.
- Theorem `atomicModesetMaxhz_vals`: but for the objects, it is the call of `Modeset.Model`.
-/

namespace PixelPilot
namespace Modeset
namespace Objects

open Custody (Spec Balanced held)

variable {now before : Multiset (Custody.Object Kind)} {drm : Drm} {answers : FbAnswers}

/-! ## The framebuffer -/

/-- The kernel's ids begin with 1, and it maps nothing to address 0. -/
structure FbAnswers.Nonzero (answers : FbAnswers) : Prop where
  handle : ∀ creq, answers.createDumb = some creq → creq.handle ≠ 0
  fbId : ∀ id, answers.addFb2 = some id → id ≠ 0
  map : answers.mmap ≠ 0

/-- The id of the framebuffer that `create_argb_fb` makes. -/
def FbAnswers.fb (answers : FbAnswers) : Option UInt32 :=
  if answers.createDumb.isSome ∧ answers.mapDumb.isSome ∧ answers.mmap ≠ mapFailed then
    answers.addFb2
  else none

/-- The framebuffer, its buffer and its mapping are there, beside `now`. -/
structure DumbFB.Owned (fb : DumbFB) (now after : Multiset (Custody.Object Kind)) : Prop where
  after_eq : after = fb.map.obj ::ₘ fb.fbId.obj ::ₘ fb.handle.obj ::ₘ now
  map : fb.map.val ≠ 0 ∧ fb.map.val ≠ mapFailed
  fbId : fb.fbId.val ≠ 0
  handle : fb.handle.val ≠ 0

/-- A framebuffer that is made is owned, and after a failure nothing is. -/
theorem createArgbFb_spec (hnonzero : answers.Nonzero) (w h : Int) :
    Spec now (createArgbFb answers w h) fun r after =>
      r = none ∧ answers.fb = none ∧ after = now ∨
        ∃ fb, r = some fb ∧ answers.fb = some fb.fbId.val ∧ fb.Owned now after := by
  unfold createArgbFb FbAnswers.fb
  refine (Spec.get _ _).bind ?_
  rintro _ _ (⟨rfl, hcreate, rfl⟩ | ⟨creq, rfl, hcreate, rfl⟩)
  · exact .pure (.inl ⟨rfl, by simp [hcreate], rfl⟩)
  refine Spec.touch_bind (by simp) ((Spec.get _ _).bind ?_)
  rintro _ _ (⟨rfl, hadd, rfl⟩ | ⟨fbId, rfl, hadd, rfl⟩)
  · exact Spec.destroy_bind rfl (.pure (.inl ⟨rfl, by simp [hadd], rfl⟩))
  refine Spec.touch_bind (by simp) ?_
  cases hmap : answers.mapDumb with
  | none =>
      exact Spec.destroy_bind rfl (Spec.destroy_bind rfl (.pure (.inl ⟨rfl, by simp, rfl⟩)))
  | some offset =>
      refine Spec.touch_bind (by simp) ((Spec.get _ _).bind ?_)
      rintro _ _ (⟨rfl, hmmap, rfl⟩ | ⟨map, rfl, hmmap, rfl⟩)
      · have hfailed : answers.mmap = mapFailed := by
          by_contra hne
          simp [hne] at hmmap
        refine Spec.destroy_bind rfl (Spec.destroy_bind rfl (.pure (.inl ⟨rfl, ?_, rfl⟩)))
        simp [hfailed]
      · have hgood : answers.mmap ≠ mapFailed := by
          intro hfailed
          simp [hfailed] at hmmap
        rw [if_neg hgood] at hmmap
        have hmapped : map.val = answers.mmap := (Option.some.inj hmmap).symm
        refine Spec.touch_bind (by simp) (.pure (.inr ⟨_, rfl, ?_, rfl, ?_, ?_, ?_⟩))
        · simp [hcreate, hadd, hgood]
        · rw [hmapped]
          exact ⟨hnonzero.map, hgood⟩
        · exact hnonzero.fbId _ hadd
        · exact hnonzero.handle _ hcreate

/-- The same answers, as the model of the decoder's background takes them. -/
def FbAnswers.argb (answers : FbAnswers) : Decoder.ArgbAnswers where
  createDumb := answers.createDumb.map fun creq => creq.handle.toNat
  addFb := answers.addFb2.map UInt32.toNat
  mapDumb := answers.mapDumb.isSome
  mmap := if answers.mmap = mapFailed then none else some answers.mmap.toNat

/-- Both models of `create_argb_fb` make the same framebuffer. -/
theorem createArgbFb_decoder {answers : FbAnswers} {fd : Int} {log log' : Decoder.Log}
    {fb : Option Decoder.DumbFb}
    (h : Decoder.createArgbFb fd answers.argb log = some (fb, log')) :
    fb.map Decoder.DumbFb.fbId = answers.fb.map UInt32.toNat := by
  unfold Decoder.createArgbFb FbAnswers.argb at h
  unfold FbAnswers.fb
  cases hcreate : answers.createDumb with
  | none =>
      simp only [hcreate, Option.map_none] at h
      cases h
      simp
  | some creq =>
      simp only [hcreate, Option.map_some] at h
      obtain ⟨log, -, h⟩ := Option.bind_eq_some_iff.mp h
      cases hadd : answers.addFb2 with
      | none =>
          simp only [hadd, Option.map_none] at h
          cases h
          simp
      | some id =>
          simp only [hadd, Option.map_some] at h
          obtain ⟨log, -, h⟩ := Option.bind_eq_some_iff.mp h
          cases hmap : answers.mapDumb with
          | none =>
              simp only [hmap] at h
              cases h
              simp
          | some offset =>
              by_cases hmmap : answers.mmap = mapFailed
              · simp only [hmap, hmmap] at h
                cases h
                simp [hmmap]
              · simp only [hmap, hmmap] at h
                obtain ⟨log, -, h⟩ := Option.bind_eq_some_iff.mp h
                cases h
                simp [hmmap]

/-- What is destroyed when it is there. -/
theorem destroyIf_spec {c : Prop} [Decidable c] (hc : c) (o : Custody.Object Kind) :
    Spec (o ::ₘ now) (destroyIf c o) fun _ after => after = now := by
  unfold destroyIf
  rw [if_pos hc]
  exact Spec.destroy o now

/-- A framebuffer gives back all it owns. -/
theorem destroyDumbFb_spec {fb : DumbFB} (hfb : fb.Owned now before) :
    Spec before (destroyDumbFb fb) fun _ after => after = now := by
  unfold destroyDumbFb
  rw [hfb.after_eq]
  refine (destroyIf_spec hfb.map _).bind ?_
  rintro _ _ rfl
  refine (destroyIf_spec hfb.fbId _).bind ?_
  rintro _ _ rfl
  exact destroyIf_spec hfb.handle _

/-! ## The CRTC -/

/-- The variables without the objects. -/
def CrtcVars.vals (s : CrtcVars) : Modeset.CrtcVars where
  crtc := s.crtc.map Custody.Ptr.val
  crtcId := s.crtcId

/-- No CRTC is there, or the one in `crtc`, which has an id. -/
structure CrtcVars.Owned (s : CrtcVars) (now after : Multiset (Custody.Object Kind)) : Prop where
  after_eq : after = held s.crtc + now
  none : s.crtc = .none → s.crtcId = -1
  some : s.crtc ≠ .none → 0 ≤ s.crtcId

/-- Before a CRTC is found. -/
def CrtcVars.empty : CrtcVars where
  crtc := none
  crtcId := -1

theorem CrtcVars.owned_empty : CrtcVars.empty.Owned now now where
  after_eq := (Multiset.zero_add now).symm
  none _ := rfl
  some h := absurd rfl h

/-- A negative `crtc_id` tells that there is no CRTC. -/
theorem CrtcVars.Owned.eq_empty {s : CrtcVars} (hs : s.Owned now before) (h : s.crtcId < 0) :
    s = .empty ∧ before = now := by
  have hnone : s.crtc = .none := by
    by_contra hsome
    exact absurd (hs.some hsome) (Int.not_le.mpr h)
  obtain ⟨crtc, crtcId⟩ := s
  obtain rfl : crtc = .none := hnone
  obtain rfl : crtcId = -1 := hs.none rfl
  exact ⟨rfl, hs.after_eq.trans (Multiset.zero_add now)⟩

/-- A CRTC that is found is owned. -/
theorem getCrtc_spec {answer : Option Crtc}
    (hsmall : ∀ c, answer = some c → c.crtcId.toNat < 2 ^ 31) :
    Spec now (getCrtc answer (-1)) fun s after => s.Owned now after ∧
      s.vals = answer.elim { crtc := none, crtcId := -1 } fun c =>
        { crtc := some c, crtcId := toInt c.crtcId } := by
  unfold getCrtc
  refine (Spec.get _ _).bind ?_
  rintro _ _ (⟨rfl, rfl, rfl⟩ | ⟨crtc, rfl, rfl, rfl⟩)
  · exact .pure ⟨CrtcVars.owned_empty, rfl⟩
  · have hpos := toInt_nonneg (hsmall _ rfl)
    refine Spec.read_bind (by simp) ?_
    rw [Option.elim_some]
    generalize toInt crtc.val.crtcId = crtcId at hpos ⊢
    exact .pure ⟨⟨rfl, fun h => by contradiction, fun _ => hpos⟩, rfl⟩

/-- The loop over the CRTCs owns what it selects. -/
theorem crtcLoop_spec (hsmall : drm.SmallIds) {res : Ptr Resources} {e2 : Ptr Encoder}
    (hres : res.obj ∈ now) (he2 : e2.obj ∈ now) (i e ci : Nat) (crtcs : List UInt32) :
    Spec now (crtcLoop drm res i e e2 ci crtcs .empty) fun s after => s.Owned now after ∧
      s.vals = Modeset.crtcLoop drm i e e2.val ci crtcs CrtcVars.empty.vals := by
  induction crtcs generalizing ci with
  | nil => exact Spec.touch_bind hres (.pure ⟨CrtcVars.owned_empty, rfl⟩)
  | cons id crtcs ih =>
      unfold crtcLoop Modeset.crtcLoop
      refine Spec.touch_bind hres (Spec.read_bind he2 ?_)
      split
      · refine (getCrtc_spec (hsmall _ id)).bind ?_
        rintro t after ⟨ht, hvals⟩
        cases hcrtc : drm.getCrtc (.possible i e ci) id with
        | none =>
            rw [hcrtc] at hvals
            have hid : t.crtcId = -1 := congrArg Modeset.CrtcVars.crtcId hvals
            obtain ⟨rfl, rfl⟩ := ht.eq_empty (by omega)
            exact ih (ci + 1)
        | some crtc =>
            rw [hcrtc] at hvals
            have hthere : t.crtc.isSome = true := by
              have h := congrArg (fun v => v.crtc.isSome) hvals
              simpa [CrtcVars.vals] using h
            rw [if_pos hthere]
            exact .pure ⟨ht, hvals⟩
      · exact ih (ci + 1)

/-- The loop over the encoders owns what it selects. -/
theorem encoderLoop_spec (hsmall : drm.SmallIds) {res : Ptr Resources} {c : Ptr Connector}
    (hres : res.obj ∈ now) (hc : c.obj ∈ now) (i e : Nat) (encoders : List UInt32)
    {s : CrtcVars} (hs : s.Owned now before) :
    Spec before (encoderLoop drm res i c e encoders s) fun t after => t.Owned now after ∧
      t.vals = Modeset.encoderLoop drm res.val i e encoders s.vals := by
  have hconn : ∀ {t : CrtcVars} {n}, t.Owned now n → c.obj ∈ n := by
    intro t n ht
    rw [ht.after_eq]
    exact Multiset.mem_add.mpr (.inr hc)
  induction encoders generalizing e before s with
  | nil => exact Spec.touch_bind (hconn hs) (.pure ⟨hs, rfl⟩)
  | cons id encoders ih =>
      unfold encoderLoop Modeset.encoderLoop
      refine Spec.touch_bind (hconn hs) ?_
      by_cases hid : s.crtcId < 0
      · obtain ⟨rfl, rfl⟩ := hs.eq_empty hid
        rw [if_pos hid, if_pos (show CrtcVars.empty.vals.crtcId < 0 from hid)]
        refine (Spec.get _ _).bind ?_
        rintro _ _ (⟨rfl, hget, rfl⟩ | ⟨e2, rfl, hget, rfl⟩)
        · rw [hget]
          exact ih (e + 1) hs
        · rw [hget]
          refine (crtcLoop_spec hsmall (Multiset.mem_cons_of_mem hres)
            (Multiset.mem_cons_self e2.obj _) i e 0 res.val.crtcs).bind ?_
          rintro t after ⟨ht, hvals⟩
          have hafter := ht.after_eq
          rw [Multiset.add_cons] at hafter
          refine Spec.destroy_bind hafter ?_
          simp only
          rw [← hvals]
          exact ih (e + 1) ⟨rfl, ht.none, ht.some⟩
      · rw [if_neg hid, if_neg (show ¬ s.vals.crtcId < 0 from hid)]
        exact .pure ⟨hs, rfl⟩

/-! ## The connector -/

/-- Freeing an object that may not be there. -/
theorem freeOption_spec {β : Type} (p : Option (Ptr β)) :
    Spec (held p + now) (freeOption p) fun _ after => after = now := by
  cases p with
  | none => exact .pure (Multiset.zero_add now)
  | some p => exact Spec.destroy p.obj now

/-- The current encoder of connector `i`. -/
def currentEncoder (drm : Drm) (i : Nat) (c : Connector) : Option Encoder :=
  if c.encoderId ≠ 0 then drm.getEncoder (.current i) c.encoderId else none

/-- The variables for a CRTC that may be there. -/
def varsOf (crtc : Option Crtc) : Modeset.CrtcVars :=
  crtc.elim { crtc := none, crtcId := -1 } fun c => { crtc := some c, crtcId := toInt c.crtcId }

/-- The search for a CRTC, in two steps. -/
theorem findCrtc_eq (drm : Drm) (res : Resources) (i : Nat) (c : Connector) :
    Modeset.findCrtc drm res i c none =
      let s := varsOf ((currentEncoder drm i c).bind (encoderCrtc drm i))
      if s.crtcId < 0 then Modeset.encoderLoop drm res i 0 c.encoders s else s := by
  unfold Modeset.findCrtc currentEncoder
  cases (if c.encoderId ≠ 0 then drm.getEncoder (.current i) c.encoderId else none) with
  | none => rfl
  | some enc =>
      rw [Option.bind_some, encoderCrtc]
      by_cases hdrives : enc.crtcId ≠ 0
      · simp only [if_pos hdrives]
        cases drm.getCrtc (.driven i) enc.crtcId with
        | none => rfl
        | some crtc => rfl
      · simp only [if_neg hdrives]
        rfl

/-- The current encoder is held. -/
theorem getCurrent_spec {c : Ptr Connector} (hc : c.obj ∈ now) (i : Nat) :
    Spec now (getCurrent drm i c) fun enc after => after = held enc + now ∧
      enc.map Custody.Ptr.val = currentEncoder drm i c.val := by
  unfold getCurrent currentEncoder
  refine Spec.read_bind hc ?_
  split
  · refine (Spec.get _ _).weaken ?_
    rintro _ _ (⟨rfl, hget, rfl⟩ | ⟨enc, rfl, hget, rfl⟩)
    · exact ⟨(Multiset.zero_add _).symm, hget.symm⟩
    · exact ⟨rfl, hget.symm⟩
  · exact .pure ⟨(Multiset.zero_add now).symm, rfl⟩

/-- The CRTC that the current encoder drives is owned. -/
theorem getDriven_spec (hsmall : drm.SmallIds) (i : Nat) (enc : Option (Ptr Encoder)) :
    Spec (held enc + now) (getDriven drm i none enc) fun s after =>
      s.Owned (held enc + now) after ∧
        s.vals = varsOf ((enc.map Custody.Ptr.val).bind (encoderCrtc drm i)) := by
  cases enc with
  | none => exact .pure ⟨CrtcVars.owned_empty, rfl⟩
  | some enc =>
      have hthere : enc.obj ∈ held (some enc) + now := Multiset.mem_add.mpr (.inl (by simp [held]))
      unfold getDriven
      refine Spec.read_bind hthere ?_
      rw [Option.map_some, Option.bind_some, encoderCrtc]
      split
      · exact getCrtc_spec (hsmall _ _)
      · exact .pure ⟨CrtcVars.owned_empty, rfl⟩

/-- The search owns the CRTC it selects, and that only. -/
theorem findCrtc_spec (hsmall : drm.SmallIds) {res : Ptr Resources} {c : Ptr Connector}
    (hres : res.obj ∈ now) (hc : c.obj ∈ now) (i : Nat) :
    Spec now (findCrtc drm res i c none) fun t after => t.Owned now after ∧
      t.vals = Modeset.findCrtc drm res.val i c.val none := by
  unfold findCrtc
  refine (getCurrent_spec hc i).bind ?_
  rintro enc _ ⟨rfl, henc⟩
  refine (getDriven_spec hsmall i enc).bind ?_
  rintro s n ⟨hs, hvals⟩
  have hsearch : Spec n
      (if s.crtcId < 0 then encoderLoop drm res i c 0 c.val.encoders s else pure s)
      fun t after => t.Owned (held enc + now) after ∧
        t.vals = if s.vals.crtcId < 0 then
          Modeset.encoderLoop drm res.val i 0 c.val.encoders s.vals else s.vals := by
    by_cases hid : s.crtcId < 0
    · rw [if_pos hid, if_pos (show s.vals.crtcId < 0 from hid)]
      exact encoderLoop_spec hsmall (Multiset.mem_add.mpr (.inr hres))
        (Multiset.mem_add.mpr (.inr hc)) i 0 c.val.encoders hs
    · rw [if_neg hid, if_neg (show ¬ s.vals.crtcId < 0 from hid)]
      exact .pure ⟨hs, rfl⟩
  refine hsearch.bind ?_
  rintro t after ⟨ht, htvals⟩
  have hafter := ht.after_eq
  rw [← Multiset.add_assoc, Multiset.add_comm (held t.crtc), Multiset.add_assoc] at hafter
  rw [hafter]
  refine (freeOption_spec enc).bind ?_
  rintro _ _ rfl
  refine .pure ⟨⟨rfl, ht.none, ht.some⟩, ?_⟩
  rw [findCrtc_eq, ← henc, htvals, hvals]

/-- The variables without the objects. -/
def Found.vals (s : Found) : Modeset.Found where
  conn := s.conn.map Custody.Ptr.val
  crtc := s.crtc.map Custody.Ptr.val
  best := s.best

/-- A connector and a CRTC are there beside `now`, or neither. -/
def Found.Owned (s : Found) (now after : Multiset (Custody.Object Kind)) : Prop :=
  s.conn = none ∧ s.crtc = none ∧ after = now ∨
    ∃ conn crtc, s.conn = some conn ∧ s.crtc = some crtc ∧
      after = conn.obj ::ₘ crtc.obj ::ₘ now

/-- A connector that is not selected leaves no CRTC behind. -/
theorem connectorLoop_spec (hz : UInt32 → UInt16 → UInt16 → Int) (hsmall : drm.SmallIds)
    (cfg : Config.AppCfg) {res : Ptr Resources} (hres : res.obj ∈ now) (i : Nat)
    (connectors : List UInt32) (best : ModeInfo) :
    Spec now (connectorLoop hz drm cfg res i connectors { conn := none, crtc := none, best })
      fun s after => s.Owned now after ∧
        s.vals = Modeset.connectorLoop hz drm cfg res.val i connectors
          { conn := none, crtc := none, best } := by
  induction connectors generalizing i best with
  | nil => exact Spec.touch_bind hres (.pure ⟨.inl ⟨rfl, rfl, rfl⟩, rfl⟩)
  | cons id connectors ih =>
      unfold connectorLoop Modeset.connectorLoop
      refine Spec.touch_bind hres ((Spec.get _ _).bind ?_)
      rintro _ _ (⟨rfl, hget, rfl⟩ | ⟨c, rfl, hget, rfl⟩)
      · rw [hget]
        exact ih (i + 1) best
      · rw [hget]
        refine Spec.read_bind (Multiset.mem_cons_self c.obj now) ?_
        simp only
        by_cases hmatch : matchesName cfg c.val
        · rw [if_pos hmatch, if_pos hmatch]
          refine (findCrtc_spec hsmall (Multiset.mem_cons_of_mem hres)
            (Multiset.mem_cons_self c.obj now) i).bind ?_
          rintro t after ⟨ht, hvals⟩
          rw [← hvals]
          by_cases hfound : t.crtcId ≥ 0 ∧ t.crtc.isSome = true
          · have hselected : t.vals.crtcId ≥ 0 ∧ t.vals.crtc.isSome = true :=
              ⟨hfound.1, by rw [CrtcVars.vals, Option.isSome_map, hfound.2]⟩
            rw [if_pos hfound, if_pos hselected]
            obtain ⟨crtc, hcrtc⟩ := Option.isSome_iff_exists.mp hfound.2
            refine .pure ⟨.inr ⟨c, crtc, rfl, hcrtc, ?_⟩, rfl⟩
            rw [ht.after_eq, hcrtc, held, Multiset.singleton_add, Multiset.cons_swap]
          · have hrejected : ¬ (t.vals.crtcId ≥ 0 ∧ t.vals.crtc.isSome = true) := by
              rwa [CrtcVars.vals, Option.isSome_map]
            rw [if_neg hfound, if_neg hrejected]
            have hid : t.crtcId < 0 := by
              by_contra hpos
              have hnone : t.crtc = none := by
                by_contra hsome
                exact hfound ⟨Int.not_lt.mp hpos, Option.isSome_iff_ne_none.mpr hsome⟩
              have hminus := ht.none hnone
              omega
            obtain ⟨rfl, rfl⟩ := ht.eq_empty hid
            exact Spec.destroy_bind rfl (ih (i + 1) _)
        · rw [if_neg hmatch, if_neg hmatch]
          exact Spec.destroy_bind rfl (ih (i + 1) best)

/-! ## The commit -/

/-- The end of the call frees what was selected. -/
theorem freeSelection_spec (res : Ptr Resources) (conn : Ptr Connector) (crtc : Ptr Crtc) :
    Spec (conn.obj ::ₘ crtc.obj ::ₘ res.obj ::ₘ now) (freeSelection res conn crtc)
      fun _ after => after = now :=
  Spec.destroy_bind rfl (Spec.destroy_bind rfl (Spec.destroy res.obj now))

/-- The run without the objects. -/
def ModesetRun.vals (run : ModesetRun) : Modeset.ModesetRun where
  ret := run.ret
  found := run.found.vals
  request := run.request
  out := run.out

/-- The model without objects describes the same call. -/
structure Agrees (drm : Drm) (answers : FbAnswers) (hasOut : Bool) : Prop where
  fb : drm.createArgbFb = fun _ _ => answers.fb
  out : hasOut = true

/-- All is given back, `*out` is written only with the result 0, and the call has done what
the model without objects does. -/
structure Done (run : ModesetRun) (result : Modeset.ModesetRun) (agrees : Prop)
    (after : Multiset (Custody.Object Kind)) : Prop where
  after_eq : after = 0
  out : run.out ≠ none → run.ret = 0
  vals : agrees → run.vals = result

/-- Building the request uses live objects only. -/
theorem buildRequest_spec (cfg : Config.AppCfg) (best : ModeInfo) {conn : Ptr Connector}
    {crtc : Ptr Crtc} {fb : DumbFB} {modeBlob : Ptr UInt32} {req : Ptr PUnit}
    (hconn : conn.obj ∈ now) (hcrtc : crtc.obj ∈ now) (hfb : fb.fbId.obj ∈ now)
    (hblob : modeBlob.obj ∈ now) (hreq : req.obj ∈ now) :
    Spec now (buildRequest drm cfg best conn crtc fb modeBlob req) fun request after =>
      request = modesetRequest drm cfg conn.val crtc.val best fb.fbId.val modeBlob.val ∧
        after = now := by
  unfold buildRequest
  refine Spec.read_bind hcrtc (Spec.read_bind hblob (Spec.touch_bind hreq ?_))
  refine Spec.read_bind hconn (Spec.touch_bind hcrtc (Spec.touch_bind hreq ?_))
  refine Spec.read_bind hfb (Spec.touch_bind hcrtc (Spec.touch_bind hreq ?_))
  exact .pure ⟨rfl, rfl⟩

section Exits

variable {res : Ptr Resources} {conn : Ptr Connector} {crtc : Ptr Crtc} {found : Found}
  {ret : Int} {request : Option ModesetReq} {result : Modeset.ModesetRun} {agrees : Prop}

/-- An exit with an error, without a framebuffer. -/
theorem failed_spec
    (hvals : agrees → result = { ret, found := found.vals, request, out := none }) :
    Spec (conn.obj ::ₘ crtc.obj ::ₘ res.obj ::ₘ 0)
      (freeSelection res conn crtc >>= fun _ => pure (failed found ret request))
      fun run after => Done run result agrees after := by
  refine (freeSelection_spec res conn crtc).bind ?_
  rintro _ _ rfl
  exact .pure ⟨rfl, fun h => absurd rfl h, fun h => (hvals h).symm⟩

/-- An exit with an error, with a framebuffer. -/
theorem failed_spec_fb {fb : DumbFB}
    (hfb : fb.Owned (conn.obj ::ₘ crtc.obj ::ₘ res.obj ::ₘ 0) before)
    (hvals : agrees → result = { ret, found := found.vals, request, out := none }) :
    Spec before
      (destroyDumbFb fb >>= fun _ =>
        freeSelection res conn crtc >>= fun _ => pure (failed found ret request))
      fun run after => Done run result agrees after := by
  refine (destroyDumbFb_spec hfb).bind ?_
  rintro _ _ rfl
  exact failed_spec hvals

end Exits

/-- Behind the selection every object is given back, but those handed out. -/
theorem commit_spec (hz : UInt32 → UInt16 → UInt16 → Int) (hnonzero : answers.Nonzero)
    (cfg : Config.AppCfg) (hasOut : Bool) {res : Ptr Resources} {found : Found}
    {conn : Ptr Connector} {crtc : Ptr Crtc}
    (hconn : found.conn = some conn) (hcrtc : found.crtc = some crtc) :
    Spec (conn.obj ::ₘ crtc.obj ::ₘ res.obj ::ₘ 0)
      (commit hz drm answers cfg hasOut res found conn crtc) fun run after =>
        Done run (Modeset.commit hz drm cfg found.vals) (Agrees drm answers hasOut) after := by
  have hconnVal : found.vals.conn = some conn.val := by simp [Found.vals, hconn]
  have hcrtcVal : found.vals.crtc = some crtc.val := by simp [Found.vals, hcrtc]
  have hbest : found.vals.best = found.best := rfl
  unfold commit
  refine Spec.touch_bind (by simp) (Spec.touch_bind (by simp) ?_)
  refine (createArgbFb_spec hnonzero _ _).bind ?_
  rintro _ _ (⟨rfl, hargb, rfl⟩ | ⟨fb, rfl, hargb, hfb⟩)
  · refine failed_spec fun hagrees => ?_
    simp only [Modeset.commit, hconnVal, hcrtcVal, hagrees.fb, hargb]
  refine (Spec.get _ _).bind ?_
  rintro _ _ (⟨rfl, hblob, rfl⟩ | ⟨modeBlob, rfl, hblob, rfl⟩)
  · refine failed_spec_fb hfb fun hagrees => ?_
    simp only [Modeset.commit, hconnVal, hcrtcVal, hbest, hagrees.fb, hargb, hblob]
  refine (Spec.get _ _).bind ?_
  rintro _ _ (⟨rfl, halloc, rfl⟩ | ⟨req, rfl, halloc, rfl⟩)
  · refine Spec.destroy_bind rfl (failed_spec_fb hfb fun hagrees => ?_)
    have hnone : drm.atomicAlloc = false := by simpa using halloc
    simp [Modeset.commit, hconnVal, hcrtcVal, hbest, hagrees.fb, hargb, hblob, hnone]
  have hsome : drm.atomicAlloc = true := by
    by_contra hnone
    simp [hnone] at halloc
  refine (buildRequest_spec cfg found.best ?_ ?_ ?_ ?_ ?_).bind ?_
  · simp [hfb.after_eq]
  · simp [hfb.after_eq]
  · simp [hfb.after_eq]
  · simp
  · simp
  rintro _ _ ⟨rfl, rfl⟩
  refine Spec.touch_bind (by simp) (Spec.touch_bind (by simp) ?_)
  refine Spec.touch_bind (by simp [hfb.after_eq]) ?_
  by_cases hcommit : drm.atomicCommit ≠ 0
  · rw [if_pos hcommit]
    refine Spec.destroy_bind rfl (Spec.destroy_bind rfl (failed_spec_fb hfb fun hagrees => ?_))
    simp [Modeset.commit, hconnVal, hcrtcVal, hbest, hagrees.fb, hargb, hblob, hsome, hcommit]
  · rw [if_neg hcommit]
    refine Spec.destroy_bind rfl (Spec.destroy_bind rfl ?_)
    refine (destroyDumbFb_spec hfb).bind ?_
    rintro _ _ rfl
    refine Spec.read_bind (by simp) (Spec.read_bind (by simp) ?_)
    refine (freeSelection_spec res conn crtc).bind ?_
    rintro _ _ rfl
    refine .pure ⟨rfl, fun _ => rfl, fun hagrees => ?_⟩
    simp [Modeset.commit, ModesetRun.vals, hconnVal, hcrtcVal, hbest, hagrees.fb, hagrees.out,
      hargb, hblob, hsome, hcommit]

/-! ## The call -/

/-- The call gives back every object but those it hands out. -/
theorem atomicModesetMaxhz_spec (hz : UInt32 → UInt16 → UInt16 → Int) (hsmall : drm.SmallIds)
    (hnonzero : answers.Nonzero) (cfg : Config.AppCfg) (hasOut : Bool) :
    Spec 0 (atomicModesetMaxhz hz drm answers cfg hasOut) fun run after =>
      Done run (Modeset.atomicModesetMaxhz hz drm cfg) (Agrees drm answers hasOut) after := by
  unfold atomicModesetMaxhz Modeset.atomicModesetMaxhz
  refine (Spec.get _ _).bind ?_
  rintro _ _ (⟨rfl, hget, rfl⟩ | ⟨res, rfl, hget, rfl⟩)
  · rw [hget]
    exact .pure ⟨rfl, fun h => absurd rfl h, fun _ => rfl⟩
  · rw [hget]
    refine (connectorLoop_spec hz hsmall cfg (Multiset.mem_cons_self _ _) 0 _ _).bind ?_
    rintro found after ⟨howned, hvals⟩
    simp only
    rw [← hvals]
    rcases howned with ⟨hconn, hcrtc, rfl⟩ | ⟨conn, crtc, hconn, hcrtc, rfl⟩
    · rw [hconn]
      refine Spec.destroy_bind rfl (.pure ⟨rfl, fun h => absurd rfl h, fun _ => ?_⟩)
      simp [Modeset.commit, ModesetRun.vals, failed, Found.vals, hconn]
    · rw [hconn, hcrtc]
      exact commit_spec hz hnonzero cfg hasOut hconn hcrtc

/-- Whatever the device answers, each object of the call is freed once and not used after
that, and `*out` is written only when the call returns 0. -/
theorem atomicModesetMaxhz_frees (hz : UInt32 → UInt16 → UInt16 → Int) (drm : Drm)
    (answers : FbAnswers) (cfg : Config.AppCfg) (hasOut : Bool) (hsmall : drm.SmallIds)
    (hnonzero : answers.Nonzero) :
    Balanced (atomicModesetMaxhz hz drm answers cfg hasOut []).2 ∧
      ((atomicModesetMaxhz hz drm answers cfg hasOut []).1.out ≠ none →
        (atomicModesetMaxhz hz drm answers cfg hasOut []).1.ret = 0) :=
  Spec.balanced ((atomicModesetMaxhz_spec hz hsmall hnonzero cfg hasOut).weaken
    fun _ _ hdone => ⟨hdone.out, hdone.after_eq⟩)

/-- A framebuffer of 1920 by 1080 pixels. -/
def framebuffer : FbAnswers where
  createDumb := some { handle := 1, pitch := 7680, size := 8294400 }
  addFb2 := some 81
  mapDumb := some 0x10000000
  mmap := 0x7f0000000000

/-- Ten objects for the second of two displays. -/
theorem atomicModesetMaxhz_frees_second :
    (Balanced (atomicModesetMaxhz exactHz twoDisplays framebuffer Config.cfgDefaults true []).2 ∧
      ((atomicModesetMaxhz exactHz twoDisplays framebuffer Config.cfgDefaults true []).1.out ≠
          none →
        (atomicModesetMaxhz exactHz twoDisplays framebuffer Config.cfgDefaults true []).1.ret =
          0)) ∧
      ((atomicModesetMaxhz exactHz twoDisplays framebuffer Config.cfgDefaults true []).2.filter
        fun a => a.needs.isNone).length = 10 := by
  have hnonzero : framebuffer.Nonzero := by
    refine ⟨fun creq h => ?_, fun id h => ?_, by decide⟩
    · cases h
      decide
    · cases h
      decide
  exact ⟨atomicModesetMaxhz_frees exactHz twoDisplays framebuffer Config.cfgDefaults true
    twoDisplays_small hnonzero, by decide +kernel⟩

/-- The call does what the model without objects does. -/
theorem atomicModesetMaxhz_vals (hz : UInt32 → UInt16 → UInt16 → Int) (drm : Drm)
    (answers : FbAnswers) (cfg : Config.AppCfg) (hsmall : drm.SmallIds)
    (hnonzero : answers.Nonzero) (hfb : drm.createArgbFb = fun _ _ => answers.fb) :
    (atomicModesetMaxhz hz drm answers cfg true []).1.vals =
      Modeset.atomicModesetMaxhz hz drm cfg :=
  (Spec.balanced ((atomicModesetMaxhz_spec hz hsmall hnonzero cfg true).weaken
    fun _ _ hdone => ⟨hdone.vals ⟨hfb, rfl⟩, hdone.after_eq⟩)).2

end Objects
end Modeset
end PixelPilot
