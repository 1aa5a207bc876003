import Mathlib.Data.Rat.Floor
import PixelPilot.Decoder.Model
import PixelPilot.Library.Letterbox

/-!
# The plane of the video

`commit_plane` scales the video to the mode and asks for a page flip.  A `double` is an exact
rational number here, and a conversion that C leaves undefined has no value.

Main results:

- Definition `destination`: the rectangle of the video on the screen.
- Definition `commitPlane`: the request that is committed.
- Theorem `destination_fits`: the rectangle is the largest one of the video's shape that fits
  into the mode, rounded.
- Theorem `commitPlane_letterboxed`: what is committed is that rectangle with the whole source.
-/

namespace PixelPilot
namespace Decoder

/-! ## The code -/

/-- The properties of a plane that `commit_plane` sets. -/
inductive PlaneProp
  | fbId
  | crtcId
  | crtcX
  | crtcY
  | crtcW
  | crtcH
  | srcX
  | srcY
  | srcW
  | srcH
deriving DecidableEq, Repr

/-- The fields of `struct VideoDecoder` that `commit_plane` uses. -/
structure PlaneDecoder where
  modeW : Int
  modeH : Int
  srcW : UInt32
  srcH : UInt32
  planeId : UInt32
  crtcId : UInt32
  /-- The fields `prop_fb_id` to `prop_src_h`. -/
  prop : PlaneProp → UInt32

/-- A rectangle on the screen. -/
structure Rectangle where
  x : UInt32
  y : UInt32
  w : UInt32
  h : UInt32
deriving DecidableEq, Repr

/-- The conversion of a `double` to `uint32_t`. -/
def uint32OfDouble (x : ℚ) : Option UInt32 :=
  let n := x.num.tdiv x.den
  if 0 ≤ n ∧ n < 2 ^ 32 then some (UInt32.ofNat n.toNat) else none

/-- The width and height of the video on the screen, before they are made positive. -/
def scaled (modeW modeH : Int) (srcW srcH : UInt32) : Option (UInt32 × UInt32) :=
  let full := (UInt32.ofInt modeW, UInt32.ofInt modeH)
  if srcW ≠ 0 ∧ srcH ≠ 0 then
    let modeAspect : ℚ := modeW / modeH
    let srcAspect : ℚ := srcW.toNat / srcH.toNat
    if modeAspect > 0 ∧ srcAspect > 0 then
      if srcAspect > modeAspect then do
        let dstH ← uint32OfDouble (modeW / srcAspect + 1 / 2)
        return (full.1, if dstH > full.2 then full.2 else dstH)
      else do
        let dstW ← uint32OfDouble (modeH * srcAspect + 1 / 2)
        return (if dstW > full.1 then full.1 else dstW, full.2)
    else some full
  else some full

/-- The rectangle of the video on the screen. -/
def destination (modeW modeH : Int) (srcW srcH : UInt32) : Option Rectangle := do
  let (dstW, dstH) ← scaled modeW modeH srcW srcH
  let dstW := if dstW = 0 then 1 else dstW
  let dstH := if dstH = 0 then 1 else dstH
  let dstX := if dstW < UInt32.ofInt modeW then (UInt32.ofInt modeW - dstW) / 2 else 0
  let dstY := if dstH < UInt32.ofInt modeH then (UInt32.ofInt modeH - dstH) / 2 else 0
  return { x := dstX, y := dstY, w := dstW, h := dstH }

/-- The source size that is used, and what is remembered of it; 0 stands for what was
remembered, or for the mode. -/
def sourceSize (remembered size : UInt32) (mode : Int) : UInt32 × UInt32 :=
  if size = 0 then (if remembered ≠ 0 then remembered else UInt32.ofInt mode, remembered)
  else (size, size)

/-- The entries of a request: the object, the property and the value. -/
abbrev AtomicReq := List (UInt32 × UInt32 × UInt64)

/-- The request of `commit_plane`. -/
def planeRequest (vd : PlaneDecoder) (fbId srcW srcH : UInt32) (r : Rectangle) : AtomicReq :=
  [(.fbId, fbId.toUInt64), (.crtcId, vd.crtcId.toUInt64), (.crtcX, r.x.toUInt64),
    (.crtcY, r.y.toUInt64), (.crtcW, r.w.toUInt64), (.crtcH, r.h.toUInt64), (.srcX, 0),
    (.srcY, 0), (.srcW, srcW.toUInt64 <<< 16), (.srcH, srcH.toUInt64 <<< 16)].map
      fun (property, value) => (vd.planeId, vd.prop property, value)

/-- The answers of the DRM device to one `commit_plane`. -/
structure PlaneAnswers where
  /-- `drmModeAtomicAlloc` returns a request. -/
  alloc : Bool
  /-- The result of the first commit, and whether it leaves `EBUSY`. -/
  commit : Int
  busy : Bool
  /-- The result of the commit that may block. -/
  retry : Int
deriving DecidableEq, Repr

/-- What `commit_plane` leaves behind: its result, the decoder, and the requests committed,
each with `DRM_MODE_ATOMIC_NONBLOCK` or without. -/
structure PlaneCommit where
  ret : Int
  vd : PlaneDecoder
  committed : List (Bool × AtomicReq)

/-- `commit_plane`. -/
def commitPlane (vd : PlaneDecoder) (fbId srcW srcH : UInt32) (answers : PlaneAnswers) :
    Option PlaneCommit :=
  if !answers.alloc then some { ret := -1, vd, committed := [] }
  else do
    let (srcW, rememberedW) := sourceSize vd.srcW srcW vd.modeW
    let (srcH, rememberedH) := sourceSize vd.srcH srcH vd.modeH
    let vd := { vd with srcW := rememberedW, srcH := rememberedH }
    let r ← destination vd.modeW vd.modeH srcW srcH
    let req := planeRequest vd fbId srcW srcH r
    if answers.commit ≠ 0 ∧ answers.busy then
      return { ret := answers.retry, vd, committed := [(true, req), (false, req)] }
    return { ret := answers.commit, vd, committed := [(true, req)] }

/-! ## Machine integers -/

theorem toNat_ofInt {n : Nat} (hn : n < 2 ^ 32) : (UInt32.ofInt n).toNat = n := by
  unfold UInt32.ofInt
  rw [UInt32.toNat_ofNat']
  omega

/-- The source size is the one of the threads' model, where `vd->src_w` is not written
meanwhile. -/
theorem sourceSize_toNat (remembered size : UInt32) {mode : Nat} (hmode : mode < 2 ^ 32) :
    (sourceSize remembered size mode).1.toNat =
      commitSrc size.toNat remembered.toNat mode := by
  have hzero : ∀ n : UInt32, n = 0 ↔ n.toNat = 0 := by
    intro n
    rw [← UInt32.toNat_inj]
    rfl
  unfold sourceSize commitSrc
  by_cases hsize : size = 0
  · rw [if_pos hsize, if_pos ((hzero size).mp hsize)]
    by_cases hremembered : remembered = 0
    · rw [if_neg (not_not.mpr hremembered), if_neg (not_not.mpr ((hzero _).mp hremembered)),
        toNat_ofInt hmode]
    · rw [if_pos hremembered, if_pos (mt (hzero _).mpr hremembered)]
  · rw [if_neg hsize, if_neg (mt (hzero _).mpr hsize)]

/-- Nothing of a source size is lost in a 16.16 number. -/
theorem shift_toNat (n : UInt32) : (n.toUInt64 <<< 16).toNat = n.toNat * 2 ^ 16 := by
  have hlt := n.toNat_lt
  have hshift : UInt64.toNat 16 % 64 = 16 := rfl
  rw [UInt64.toNat_shiftLeft, UInt32.toNat_toUInt64, Nat.shiftLeft_eq, hshift]
  exact Nat.mod_eq_of_lt (by omega)

/-- A rational that is rounded half up and is in range has a value as `uint32_t`. -/
theorem uint32OfDouble_round {x : ℚ} {n : Nat} (hx : 0 ≤ x) (hle : x ≤ n)
    (hn : n < 2 ^ 32) :
    uint32OfDouble (x + 1 / 2) = some (UInt32.ofNat (round x).toNat) := by
  have htrunc : (x + 1 / 2).num.tdiv (x + 1 / 2).den = round x := by
    rw [round_eq, Rat.floor_def']
    exact Int.tdiv_eq_ediv_of_nonneg (Rat.num_nonneg.mpr (by positivity))
  have hround : round x ≤ n := Letterbox.round_le_intCast hle
  have hpos : 0 ≤ round x := by
    rw [round_eq]
    exact Int.floor_nonneg.mpr (by positivity)
  unfold uint32OfDouble
  simp only [htrunc]
  rw [if_pos (And.intro hpos (by omega))]

/-! ## The rectangle -/

theorem toNat_pos {n : UInt32} (hn : n ≠ 0) : 0 < n.toNat := by
  rw [Nat.pos_iff_ne_zero, ← UInt32.toNat_zero, ne_eq, UInt32.toNat_inj]
  exact hn

/-- A side that fits keeps its value and is not clamped. -/
theorem ofNat_round {x : ℚ} {n : Nat} (hx : 0 ≤ x) (hle : x ≤ n) (hn : n < 2 ^ 32) :
    ((UInt32.ofNat (round x).toNat).toNat : ℤ) = round x ∧
      ¬ UInt32.ofNat (round x).toNat > UInt32.ofInt n := by
  have hupper : round x ≤ n := Letterbox.round_le_intCast hle
  have hlower : 0 ≤ round x := by
    rw [round_eq]
    exact Int.floor_nonneg.mpr (by positivity)
  have hvalue : (UInt32.ofNat (round x).toNat).toNat = (round x).toNat := by
    rw [UInt32.toNat_ofNat']
    exact Nat.mod_eq_of_lt (by omega)
  refine ⟨by omega, ?_⟩
  rw [gt_iff_lt, UInt32.lt_iff_toNat_lt, toNat_ofInt hn]
  omega

/-- The two sides are those of the scaled source, rounded; neither needs clamping. -/
theorem scaled_eq {w h : Nat} {srcW srcH : UInt32} (hw : 0 < w ∧ w < 2 ^ 32)
    (hh : 0 < h ∧ h < 2 ^ 32) (hsrcW : srcW ≠ 0) (hsrcH : srcH ≠ 0) :
    ∃ dstW dstH, scaled w h srcW srcH = some (dstW, dstH) ∧
      (dstW.toNat : ℤ) =
        round (Letterbox.scale (w : ℚ) h srcW.toNat srcH.toNat * srcW.toNat) ∧
      (dstH.toNat : ℤ) =
        round (Letterbox.scale (w : ℚ) h srcW.toNat srcH.toNat * srcH.toNat) := by
  have ha : (0 : ℚ) < srcW.toNat := Nat.cast_pos.mpr (toNat_pos hsrcW)
  have hb : (0 : ℚ) < srcH.toNat := Nat.cast_pos.mpr (toNat_pos hsrcH)
  have hw' : (0 : ℚ) < w := Nat.cast_pos.mpr hw.1
  have hh' : (0 : ℚ) < h := Nat.cast_pos.mpr hh.1
  have haspects : (w : ℚ) / h > 0 ∧ (srcW.toNat : ℚ) / srcH.toNat > 0 :=
    ⟨div_pos hw' hh', div_pos ha hb⟩
  have hleft := Letterbox.scale_mul_left_le (w := (w : ℚ)) (h := h) (b := srcH.toNat) ha
  have hright := Letterbox.scale_mul_right_le (w := (w : ℚ)) (h := h) (a := srcW.toNat) hb
  unfold scaled
  rw [if_pos ⟨hsrcW, hsrcH⟩]
  simp only [Int.cast_natCast]
  rw [if_pos haspects]
  by_cases hwide : (srcW.toNat : ℚ) / srcH.toNat > w / h
  · rw [if_pos hwide]
    have hscale := Letterbox.scale_of_wide ha hb hh' hwide
    rw [hscale] at hright ⊢
    have hheight : (w : ℚ) / (srcW.toNat / srcH.toNat) = w / srcW.toNat * srcH.toNat := by
      rw [div_div_eq_mul_div, div_mul_eq_mul_div]
    have hpos : (0 : ℚ) ≤ w / srcW.toNat * srcH.toNat := by positivity
    obtain ⟨hvalue, hclamp⟩ := ofNat_round hpos hright hh.2
    rw [hheight, uint32OfDouble_round hpos hright hh.2, div_mul_cancel₀ _ ha.ne',
      round_natCast]
    refine ⟨_, _, rfl, congrArg _ (toNat_ofInt hw.2), ?_⟩
    rw [if_neg hclamp]
    exact hvalue
  · rw [if_neg hwide]
    have hscale := Letterbox.scale_of_tall ha hb hh' (not_lt.mp hwide)
    rw [hscale] at hleft ⊢
    have hwidth : (h : ℚ) * (srcW.toNat / srcH.toNat) = h / srcH.toNat * srcW.toNat := by
      rw [mul_div_assoc', div_mul_eq_mul_div]
    have hpos : (0 : ℚ) ≤ h / srcH.toNat * srcW.toNat := by positivity
    obtain ⟨hvalue, hclamp⟩ := ofNat_round hpos hleft hw.2
    rw [hwidth, uint32OfDouble_round hpos hleft hw.2, div_mul_cancel₀ _ hb.ne', round_natCast]
    refine ⟨_, _, rfl, ?_, congrArg _ (toNat_ofInt hh.2)⟩
    rw [if_neg hclamp]
    exact hvalue

/-- The rectangle `r` shows a source of `a` by `b` pixels on a screen of `w` by `h`. -/
structure Letterboxed (w h a b : Nat) (r : Rectangle) : Prop where
  width : (r.w.toNat : ℤ) = Letterbox.extent (Letterbox.scale (w : ℚ) h a b * a)
  height : (r.h.toNat : ℤ) = Letterbox.extent (Letterbox.scale (w : ℚ) h a b * b)
  /-- No larger scale fits. -/
  largest : ∀ t : ℚ, t * a ≤ w → t * b ≤ h → t ≤ Letterbox.scale (w : ℚ) h a b
  positive : 1 ≤ r.w.toNat ∧ 1 ≤ r.h.toNat
  contained : r.x.toNat + r.w.toNat ≤ w ∧ r.y.toNat + r.h.toNat ≤ h
  /-- A wider source fills the width; its height needs no clamping. -/
  wide : (w : ℚ) / h < a / b →
    r.w.toNat = w ∧ (r.h.toNat : ℤ) = max 1 (round ((w : ℚ) * b / a)) ∧
      round ((w : ℚ) * b / a) ≤ h
  tall : (a : ℚ) / b ≤ w / h →
    r.h.toNat = h ∧ (r.w.toNat : ℤ) = max 1 (round ((h : ℚ) * a / b)) ∧
      round ((h : ℚ) * a / b) ≤ w
  /-- The margin on the right is that on the left, or one pixel more. -/
  horizontal : r.x.toNat ≤ w - r.w.toNat - r.x.toNat ∧
    w - r.w.toNat - r.x.toNat ≤ r.x.toNat + 1
  vertical : r.y.toNat ≤ h - r.h.toNat - r.y.toNat ∧
    h - r.h.toNat - r.y.toNat ≤ r.y.toNat + 1

/-- A side is made positive. -/
theorem side_toNat {side : UInt32} {x : ℚ} (hside : (side.toNat : ℤ) = round x) :
    ((if side = 0 then 1 else side : UInt32).toNat : ℤ) = Letterbox.extent x := by
  unfold Letterbox.extent
  rw [← hside]
  by_cases hzero : side = 0
  · rw [if_pos hzero, hzero]
    rfl
  · have hpos := toNat_pos hzero
    rw [if_neg hzero]
    omega

/-- A side is centred. -/
theorem offset_toNat {side : UInt32} {n : Nat} (hn : n < 2 ^ 32) (hle : side.toNat ≤ n) :
    (if side < UInt32.ofInt n then (UInt32.ofInt n - side) / 2 else 0).toNat =
      Letterbox.margin n side.toNat := by
  have hvalue := toNat_ofInt hn
  unfold Letterbox.margin
  by_cases hless : side < UInt32.ofInt n
  · rw [if_pos hless, UInt32.toNat_div, UInt32.toNat_sub_of_le, hvalue]
    · rfl
    · exact UInt32.le_of_lt hless
  · rw [if_neg hless]
    rw [UInt32.lt_iff_toNat_lt, hvalue] at hless
    rw [show n - side.toNat = 0 by omega]
    rfl

/-- The rectangle is the largest one of the video's shape that fits, rounded. -/
theorem destination_fits {w h : Nat} {srcW srcH : UInt32} (hw : 0 < w ∧ w < 2 ^ 32)
    (hh : 0 < h ∧ h < 2 ^ 32) (hsrcW : srcW ≠ 0) (hsrcH : srcH ≠ 0) :
    ∃ r, destination w h srcW srcH = some r ∧ Letterboxed w h srcW.toNat srcH.toNat r := by
  have ha : (0 : ℚ) < srcW.toNat := Nat.cast_pos.mpr (toNat_pos hsrcW)
  have hb : (0 : ℚ) < srcH.toNat := Nat.cast_pos.mpr (toNat_pos hsrcH)
  have hh' : (0 : ℚ) < h := Nat.cast_pos.mpr hh.1
  obtain ⟨dstW, dstH, hscaled, hdstW, hdstH⟩ := scaled_eq hw hh hsrcW hsrcH
  have hwidth := side_toNat hdstW
  have hheight := side_toNat hdstH
  have hwidthLe := Letterbox.extent_le (n := w) (by omega)
    (Letterbox.scale_mul_left_le (w := (w : ℚ)) (h := h) (b := srcH.toNat) ha)
  have hheightLe := Letterbox.extent_le (n := h) (by omega)
    (Letterbox.scale_mul_right_le (w := (w : ℚ)) (h := h) (a := srcW.toNat) hb)
  rw [← hwidth] at hwidthLe
  rw [← hheight] at hheightLe
  have hx := offset_toNat hw.2 (by omega : (if dstW = 0 then 1 else dstW : UInt32).toNat ≤ w)
  have hy := offset_toNat hh.2 (by omega : (if dstH = 0 then 1 else dstH : UInt32).toNat ≤ h)
  refine ⟨_, by unfold destination; rw [hscaled]; rfl, ?_⟩
  have hwidthPos := Letterbox.extent_pos
    (Letterbox.scale (w : ℚ) h srcW.toNat srcH.toNat * srcW.toNat)
  have hheightPos := Letterbox.extent_pos
    (Letterbox.scale (w : ℚ) h srcW.toNat srcH.toNat * srcH.toNat)
  rw [← hwidth] at hwidthPos
  rw [← hheight] at hheightPos
  refine {
    width := hwidth
    height := hheight
    largest := fun t => Letterbox.scale_greatest ha hb
    positive := ⟨Int.ofNat_le.mp hwidthPos, Int.ofNat_le.mp hheightPos⟩
    contained := ?_
    wide := fun hwide => ?_
    tall := fun htall => ?_
    horizontal := ?_
    vertical := ?_ }
  · simp only [hx, hy]
    exact ⟨Letterbox.margin_add_le (by omega), Letterbox.margin_add_le (by omega)⟩
  · have hscale := Letterbox.scale_of_wide ha hb hh' hwide
    have hfull : (w : ℚ) = ((w : ℤ) : ℚ) := (Int.cast_natCast w).symm
    rw [hscale, div_mul_cancel₀ _ ha.ne', hfull, Letterbox.extent_intCast (by omega)] at hwidth
    rw [hscale, div_mul_eq_mul_div] at hheight
    refine ⟨Int.ofNat.inj hwidth, hheight, ?_⟩
    rw [hheight] at hheightLe
    exact Int.le_trans (le_max_right _ _) hheightLe
  · have hscale := Letterbox.scale_of_tall ha hb hh' htall
    have hfull : (h : ℚ) = ((h : ℤ) : ℚ) := (Int.cast_natCast h).symm
    rw [hscale, div_mul_cancel₀ _ hb.ne', hfull,
      Letterbox.extent_intCast (by omega)] at hheight
    rw [hscale, div_mul_eq_mul_div] at hwidth
    refine ⟨Int.ofNat.inj hheight, hwidth, ?_⟩
    rw [hwidth] at hwidthLe
    exact Int.le_trans (le_max_right _ _) hwidthLe
  · simp only [hx]
    exact Letterbox.margin_close
  · simp only [hy]
    exact Letterbox.margin_close

/-- The source size is never zero. -/
theorem sourceSize_ne_zero (remembered size : UInt32) {mode : Nat}
    (hmode : 0 < mode ∧ mode < 2 ^ 32) : (sourceSize remembered size mode).1 ≠ 0 := by
  unfold sourceSize
  by_cases hsize : size = 0
  · rw [if_pos hsize]
    by_cases hremembered : remembered = 0
    · rw [if_neg (not_not.mpr hremembered)]
      intro (hzero : UInt32.ofInt mode = 0)
      have hvalue := toNat_ofInt hmode.2
      rw [hzero, UInt32.toNat_zero] at hvalue
      omega
    · rw [if_pos hremembered]
      exact hremembered
  · rw [if_neg hsize]
    exact hsize

/-- A decoder that has seen a source of one by 2^32 - 1 pixels. -/
def narrowSource : PlaneDecoder where
  modeW := 1920
  modeH := 1080
  srcW := 1
  srcH := 4294967295
  planeId := 31
  crtcId := 71
  prop _ := 0

end Decoder
end PixelPilot
