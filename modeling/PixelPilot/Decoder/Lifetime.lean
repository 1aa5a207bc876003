import Mathlib.Algebra.Order.Group.Multiset
import PixelPilot.Decoder.Resources
import PixelPilot.Library.Transition

/-!
# The lifetime of a decoder

A decoder as its caller treats it: allocated, initialised with any failure, started,
stopped and started again while the frame thread sets its buffers up, and ended by any
number of `video_decoder_deinit` calls and `video_decoder_free`.

Main results:

- Definition `VideoDecoder.places`: the resources the fields refer to.
- Definition `Sane`: the log leaves exactly these resources held.
- Theorems `setupExternalBuffers_sane`, `videoDecoderInit_sane` and
  `videoDecoderDeinit_accounts`: what each function does to the account.
- Definition `lifetime`: the transition system of all lifetimes.
- Theorem `resources_released_once`: every resource is released exactly once by the end
  of the first `video_decoder_deinit`.

Current gaps:

- The display thread acquires nothing and is left out, but for the failure to create it.
-/

namespace PixelPilot
namespace Decoder

open Ledger Transition

/-! ## What the fields refer to -/

/-- The resources of a slot, in the order in which they are released. -/
def slotPlaces (fd : Int) (slot : FrameSlot) : Multiset Resource :=
  heldOption (slot.framebuffer fd) +
    (heldOption slot.exported + heldOption (slot.dumbHandle fd))

/-- The resources of a list of slots. -/
def slotsPlaces (fd : Int) : List FrameSlot → Multiset Resource
  | [] => 0
  | slot :: rest => slotPlaces fd slot + slotsPlaces fd rest

/-- The resources of a `DumbFB`. -/
def dumbFbPlaces (fd : Int) (fb : DumbFb) : Multiset Resource :=
  heldOption (fb.map.map .mapping) +
    (heldOption (fb.framebuffer fd) + heldOption (fb.dumbHandle fd))

/-- The buffer group and, only if there is one, the slots. -/
def VideoDecoder.groupPlaces (vd : VideoDecoder) : Multiset Resource :=
  match vd.frmGrp with
  | none => 0
  | some group => slotsPlaces vd.drmFd vd.frameMap + {.group group}

/-- What is left of the resources when the context and the group are gone. -/
def VideoDecoder.basePlaces (vd : VideoDecoder) : Multiset Resource :=
  dumbFbPlaces vd.drmFd vd.backgroundFb +
    (heldOption (vd.packetBuf.map .packetBuf) + heldOption vd.openFd)

/-- The resources the decoder refers to. -/
def VideoDecoder.places (vd : VideoDecoder) : Multiset Resource :=
  heldOption (vd.packet.map .packet) +
    (heldOption (vd.ctx.map .ctx) + (vd.groupPlaces + vd.basePlaces))

/-- The log leaves what the fields refer to held, and what belongs to the DRM
descriptor is there only while it is open. -/
structure Sane (vd : VideoDecoder) : Prop where
  accounts : Accounts Resource.owner vd.log vd.places
  background : vd.backgroundFb.fbId = 0 → vd.backgroundFb = {}
  backgroundOpen : vd.backgroundFb.fbId ≠ 0 → 0 ≤ vd.drmFd
  groupOpen : vd.frmGrp ≠ none → 0 ≤ vd.drmFd

variable {fd : Int} {log log' : Log} {now : Multiset Resource}

/-- An open descriptor is still there when only the packet buffer and it are left. -/
theorem fd_mem_last {vd : VideoDecoder} (hopen : 0 ≤ vd.drmFd) :
    .fd vd.drmFd ∈ heldOption (vd.packetBuf.map .packetBuf) + heldOption vd.openFd := by
  have hfd : vd.openFd = some (.fd vd.drmFd) := by
    unfold VideoDecoder.openFd
    rw [if_pos hopen]
  rw [hfd]
  apply Multiset.mem_add.mpr
  right
  exact Multiset.mem_singleton_self _

/-- It is among the resources that are not the group's. -/
theorem fd_mem_basePlaces {vd : VideoDecoder} (hopen : 0 ≤ vd.drmFd) :
    .fd vd.drmFd ∈ vd.basePlaces := by
  unfold VideoDecoder.basePlaces
  apply Multiset.mem_add.mpr
  right
  exact fd_mem_last hopen

/-! ## Acquiring -/

/-- What the system hands out is possible and joins what is held. -/
theorem acquire_accounts {r : Resource} (h : Accounts Resource.owner log now)
    (hacquire : acquire log r = some log') (howner : ∀ o, r.owner = some o → o ∈ now) :
    r.possible = true ∧ Accounts Resource.owner log' (r ::ₘ now) := by
  unfold acquire at hacquire
  split at hacquire
  · rename_i hpossible
    exact ⟨hpossible, h.of_acquire hacquire howner⟩
  · contradiction

/-- What belongs to the DRM descriptor, or to none, has its owner while that is open. -/
theorem owner_mem {r : Resource} (hr : r.owner = some (.fd fd) ∨ r.owner = none)
    (hfd : .fd fd ∈ now) (o : Resource) (ho : r.owner = some o) : o ∈ now := by
  rcases hr with hr | hr
  · rw [hr] at ho
    cases ho
    exact hfd
  · rw [hr] at ho
    contradiction

/-- What belongs to no descriptor needs none. -/
theorem unowned_mem {r : Resource} (hr : r.owner = none) (o : Resource)
    (ho : r.owner = some o) : o ∈ now := by
  rw [hr] at ho
  contradiction

/-- The same for what a field may refer to. -/
theorem releaseOption_accounts {r : Option Resource}
    (h : Accounts Resource.owner log (heldOption r + now))
    (hr : ∀ q, r = some q → q.owner = some (.fd fd) ∨ q.owner = none)
    (hfd : .fd fd ∈ now) : Accounts Resource.owner (releaseOption r log) now := by
  apply h.releaseOption
  intro q o hq ho
  exact owner_mem (hr q hq) hfd o ho

/-- What belongs to no descriptor is released at any time. -/
theorem releaseOption_unowned {r : Option Resource}
    (h : Accounts Resource.owner log (heldOption r + now))
    (hr : ∀ q, r = some q → q.owner = none) :
    Accounts Resource.owner (releaseOption r log) now := by
  apply h.releaseOption
  intro q o hq ho
  exact unowned_mem (hr q hq) o ho

/-- A framebuffer belongs to the device. -/
theorem FrameSlot.framebuffer_owner {slot : FrameSlot} {q : Resource}
    (h : slot.framebuffer fd = some q) : q.owner = some (.fd fd) := by
  unfold FrameSlot.framebuffer at h
  split at h
  · cases h
    rfl
  · contradiction

/-- An exported buffer belongs to no device. -/
theorem FrameSlot.exported_owner {slot : FrameSlot} {q : Resource}
    (h : slot.exported = some q) : q.owner = none := by
  unfold FrameSlot.exported at h
  split at h
  · cases h
    rfl
  · contradiction

/-- A dumb buffer belongs to the device. -/
theorem FrameSlot.dumbHandle_owner {slot : FrameSlot} {q : Resource}
    (h : slot.dumbHandle fd = some q) : q.owner = some (.fd fd) := by
  unfold FrameSlot.dumbHandle at h
  split at h
  · cases h
    rfl
  · contradiction

theorem DumbFb.framebuffer_owner {fb : DumbFb} {q : Resource}
    (h : fb.framebuffer fd = some q) : q.owner = some (.fd fd) := by
  unfold DumbFb.framebuffer at h
  split at h
  · cases h
    rfl
  · contradiction

theorem DumbFb.dumbHandle_owner {fb : DumbFb} {q : Resource}
    (h : fb.dumbHandle fd = some q) : q.owner = some (.fd fd) := by
  unfold DumbFb.dumbHandle at h
  split at h
  · cases h
    rfl
  · contradiction

/-! ## The frame buffers -/

/-- Releasing a slot gives back what it holds. -/
theorem releaseSlot_accounts {slot : FrameSlot}
    (h : Accounts Resource.owner log (slotPlaces fd slot + now)) (hfd : .fd fd ∈ now) :
    Accounts Resource.owner (releaseSlot fd slot log).2 now := by
  unfold slotPlaces at h
  rw [Multiset.add_assoc, Multiset.add_assoc] at h
  have hrest : .fd fd ∈ heldOption (slot.dumbHandle fd) + now :=
    Multiset.mem_add.mpr (Or.inr hfd)
  have hframebuffer := releaseOption_accounts h
    (fun q hq => Or.inl (FrameSlot.framebuffer_owner hq))
    (Multiset.mem_add.mpr (Or.inr hrest))
  have hexported := releaseOption_unowned hframebuffer
    fun q hq => FrameSlot.exported_owner hq
  exact releaseOption_accounts hexported
    (fun q hq => Or.inl (FrameSlot.dumbHandle_owner hq)) hfd

/-- Releasing the slots gives back what they hold. -/
theorem releaseSlots_accounts (slots : List FrameSlot) {log : Log}
    (h : Accounts Resource.owner log (slotsPlaces fd slots + now)) (hfd : .fd fd ∈ now) :
    Accounts Resource.owner (releaseSlots fd slots log).2 now := by
  induction slots generalizing log with
  | nil =>
      rw [slotsPlaces, Multiset.zero_add] at h
      exact h
  | cons slot rest ih =>
      rw [slotsPlaces, Multiset.add_assoc] at h
      apply ih
      exact releaseSlot_accounts h (Multiset.mem_add.mpr (Or.inr hfd))

/-- `release_frame_group` gives back the group and what the slots hold. -/
theorem releaseFrameGroup_accounts {vd : VideoDecoder}
    (h : Accounts Resource.owner vd.log (vd.groupPlaces + now))
    (hfd : vd.frmGrp ≠ none → .fd vd.drmFd ∈ now) :
    Accounts Resource.owner (releaseFrameGroup vd).log now := by
  unfold releaseFrameGroup
  unfold VideoDecoder.groupPlaces at h
  cases hgroup : vd.frmGrp with
  | none =>
      simp only [hgroup] at h
      rw [Multiset.zero_add] at h
      exact h
  | some group =>
      simp only [hgroup] at h
      rw [Multiset.add_assoc, Multiset.singleton_add] at h
      have hopen : .fd vd.drmFd ∈ now := hfd (by rw [hgroup]; simp)
      have hslots := releaseSlots_accounts vd.frameMap h (Multiset.mem_cons_of_mem hopen)
      exact hslots.release (unowned_mem rfl)

/-- `release_frame_group` touches the group and the slots only. -/
theorem releaseFrameGroup_frame (vd : VideoDecoder) :
    releaseFrameGroup vd = { vd with
      frmGrp := none
      frameMap := (releaseFrameGroup vd).frameMap
      log := (releaseFrameGroup vd).log } := by
  unfold releaseFrameGroup
  split
  · rename_i hnone
    rw [← hnone]
  · rfl

@[simp]
theorem releaseFrameGroup_frmGrp (vd : VideoDecoder) : (releaseFrameGroup vd).frmGrp = none := by
  rw [releaseFrameGroup_frame]

@[simp]
theorem releaseFrameGroup_drmFd (vd : VideoDecoder) :
    (releaseFrameGroup vd).drmFd = vd.drmFd := by
  rw [releaseFrameGroup_frame]

@[simp]
theorem releaseFrameGroup_backgroundFb (vd : VideoDecoder) :
    (releaseFrameGroup vd).backgroundFb = vd.backgroundFb := by
  rw [releaseFrameGroup_frame]

/-- `release_frame_group` keeps the background, the packet buffer and the descriptor. -/
theorem releaseFrameGroup_basePlaces (vd : VideoDecoder) :
    (releaseFrameGroup vd).basePlaces = vd.basePlaces := by
  rw [releaseFrameGroup_frame]
  rfl

/-- A slot keeps what it acquired, however far its allocation gets. -/
theorem setupSlot_accounts {answers : SlotAnswers} {slot : FrameSlot}
    (h : Accounts Resource.owner log now) (hfd : .fd fd ∈ now)
    (hsetup : setupSlot fd {} answers log = some (slot, log')) :
    Accounts Resource.owner log' (slotPlaces fd slot + now) := by
  unfold setupSlot at hsetup
  split at hsetup
  · cases hsetup
    simpa [slotPlaces, FrameSlot.framebuffer, FrameSlot.exported, FrameSlot.dumbHandle,
      heldOption] using h
  · rename_i handle _
    rcases Option.bind_eq_some_iff.mp hsetup with ⟨log₁, hhandle, hsetup⟩
    have h₁ := acquire_accounts h hhandle (owner_mem (Or.inl rfl) hfd)
    have hne : handle ≠ 0 := of_decide_eq_true h₁.1
    split at hsetup
    · cases hsetup
      simpa [slotPlaces, FrameSlot.framebuffer, FrameSlot.exported, FrameSlot.dumbHandle,
        heldOption, hne] using h₁.2
    · rename_i prime _
      rcases Option.bind_eq_some_iff.mp hsetup with ⟨log₂, hprime, hsetup⟩
      have h₂ := acquire_accounts h₁.2 hprime (unowned_mem rfl)
      have hpos : 0 ≤ prime := of_decide_eq_true h₂.1
      split at hsetup
      · cases hsetup
        -- `mpp_buffer_commit` fails, and the descriptor is closed at once.
        have hclosed := h₂.2.release (unowned_mem rfl)
        simpa [slotPlaces, FrameSlot.framebuffer, FrameSlot.exported, FrameSlot.dumbHandle,
          heldOption, hne] using hclosed
      · split at hsetup
        · cases hsetup
          simpa [slotPlaces, FrameSlot.framebuffer, FrameSlot.exported,
            FrameSlot.dumbHandle, heldOption, hne, hpos] using h₂.2
        · rename_i id _
          rcases Option.bind_eq_some_iff.mp hsetup with ⟨log₃, hid, hsetup⟩
          have hopen : .fd fd ∈ .fd prime ::ₘ .handle fd handle ::ₘ now :=
            Multiset.mem_cons_of_mem (Multiset.mem_cons_of_mem hfd)
          have h₃ := acquire_accounts h₂.2 hid (owner_mem (Or.inl rfl) hopen)
          have hidne : id ≠ 0 := of_decide_eq_true h₃.1
          cases hsetup
          simp only [slotPlaces, FrameSlot.framebuffer, FrameSlot.exported,
            FrameSlot.dumbHandle, heldOption, hne, hpos, hidne, ne_eq, not_false_eq_true,
            if_true, Multiset.singleton_add, Multiset.cons_add]
          exact h₃.2

/-- Filling them takes what they hold. -/
theorem setupSlots_accounts (slots : List FrameSlot) {answers : List SlotAnswers}
    {filled : List FrameSlot} {log : Log} {now : Multiset Resource}
    (hempty : ∀ slot ∈ slots, slot = {}) (h : Accounts Resource.owner log now)
    (hfd : .fd fd ∈ now) (hsetup : setupSlots fd slots answers log = some (filled, log')) :
    Accounts Resource.owner log' (slotsPlaces fd filled + now) := by
  induction slots generalizing answers filled log now with
  | nil =>
      cases hsetup
      rw [slotsPlaces, Multiset.zero_add]
      exact h
  | cons slot rest ih =>
      rcases Option.bind_eq_some_iff.mp hsetup with ⟨⟨slot', log₁⟩, hslot, hsetup⟩
      rcases Option.bind_eq_some_iff.mp hsetup with ⟨⟨others, log₂⟩, hrest, hsetup⟩
      cases hsetup
      rw [hempty slot (List.mem_cons_self ..)] at hslot
      have hone := setupSlot_accounts h hfd hslot
      have hall := ih (fun s hs => hempty s (List.mem_cons_of_mem _ hs)) hone
        (Multiset.mem_add.mpr (Or.inr hfd)) hrest
      rw [slotsPlaces, Multiset.add_comm (slotPlaces fd slot'), Multiset.add_assoc]
      exact hall

/-- `setup_external_buffers` replaces what the old group held. -/
theorem setupExternalBuffers_accounts {frame : MppFrame} {group : Option Nat}
    {answers : List SlotAnswers} {vd vd' : VideoDecoder}
    (h : Accounts Resource.owner vd.log (vd.groupPlaces + now)) (hfd : .fd vd.drmFd ∈ now)
    (hsetup : setupExternalBuffers frame group answers vd = some vd') :
    Accounts Resource.owner vd'.log (vd'.groupPlaces + now) := by
  unfold setupExternalBuffers at hsetup
  split at hsetup
  · cases hsetup
    exact h
  · have hreleased := releaseFrameGroup_accounts h fun _ => hfd
    split at hsetup
    · cases hsetup
      rw [VideoDecoder.groupPlaces, releaseFrameGroup_frmGrp]
      rw [Multiset.zero_add]
      exact hreleased
    · rename_i group
      rcases Option.bind_eq_some_iff.mp hsetup with ⟨log₁, hgroup, hsetup⟩
      rcases Option.bind_eq_some_iff.mp hsetup with ⟨⟨slots, log₂⟩, hslots, hsetup⟩
      cases hsetup
      have hacquired := acquire_accounts hreleased hgroup (unowned_mem rfl)
      have hopen : .fd (releaseFrameGroup vd).drmFd ∈ .group group ::ₘ now := by
        rw [releaseFrameGroup_drmFd]
        exact Multiset.mem_cons_of_mem hfd
      have hfilled := setupSlots_accounts resetFrameMap
        (fun slot hs => List.eq_of_mem_replicate hs) hacquired.2 hopen hslots
      simp only [VideoDecoder.groupPlaces]
      rw [Multiset.add_assoc, Multiset.singleton_add]
      exact hfilled

/-! ## The background -/

@[simp]
theorem dumbFbPlaces_empty (fd : Int) : dumbFbPlaces fd {} = 0 :=
  rfl

/-- `destroy_dumb_fb` gives back what the `DumbFB` holds. -/
theorem destroyDumbFb_accounts {fb : DumbFb}
    (h : Accounts Resource.owner log (dumbFbPlaces fd fb + now)) (hfd : .fd fd ∈ now) :
    Accounts Resource.owner (destroyDumbFb fd fb log) now := by
  unfold dumbFbPlaces at h
  rw [Multiset.add_assoc, Multiset.add_assoc] at h
  have hmapping := releaseOption_unowned h fun q hq => by
    rcases Option.map_eq_some_iff.mp hq with ⟨address, -, rfl⟩
    rfl
  have hframebuffer := releaseOption_accounts hmapping
    (fun q hq => Or.inl (DumbFb.framebuffer_owner hq))
    (Multiset.mem_add.mpr (Or.inr hfd))
  exact releaseOption_accounts hframebuffer
    (fun q hq => Or.inl (DumbFb.dumbHandle_owner hq)) hfd

/-- With nothing created, nothing is added to what is held. -/
theorem accounts_uncreated (h : Accounts Resource.owner log now) :
    Accounts Resource.owner log (dumbFbPlaces fd {} + now) := by
  rw [dumbFbPlaces_empty, Multiset.zero_add]
  exact h

/-- `create_argb_fb` leaves nothing behind when it fails, and fills the `DumbFB`
completely when it succeeds. -/
theorem createArgbFb_accounts {answers : ArgbAnswers} {created : Option DumbFb}
    (h : Accounts Resource.owner log now) (hfd : .fd fd ∈ now)
    (hcreate : createArgbFb fd answers log = some (created, log')) :
    Accounts Resource.owner log' (dumbFbPlaces fd (created.getD {}) + now) ∧
      ∀ fb, created = some fb → fb.fbId ≠ 0 := by
  unfold createArgbFb at hcreate
  split at hcreate
  · cases hcreate
    exact ⟨accounts_uncreated h, fun fb hfb => by contradiction⟩
  · rename_i handle _
    rcases Option.bind_eq_some_iff.mp hcreate with ⟨log₁, hhandle, hcreate⟩
    have h₁ := acquire_accounts h hhandle (owner_mem (Or.inl rfl) hfd)
    have hne : handle ≠ 0 := of_decide_eq_true h₁.1
    split at hcreate
    · cases hcreate
      have hdestroyed := h₁.2.release (owner_mem (Or.inl rfl) hfd)
      exact ⟨accounts_uncreated hdestroyed, fun fb hfb => by contradiction⟩
    · rename_i id _
      rcases Option.bind_eq_some_iff.mp hcreate with ⟨log₂, hid, hcreate⟩
      have hopen : .fd fd ∈ .handle fd handle ::ₘ now := Multiset.mem_cons_of_mem hfd
      have h₂ := acquire_accounts h₁.2 hid (owner_mem (Or.inl rfl) hopen)
      have hidne : id ≠ 0 := of_decide_eq_true h₂.1
      -- What the failures of the mapping leave.
      have hremoved := h₂.2.release (owner_mem (Or.inl rfl) hopen)
      have hdestroyed := hremoved.release (owner_mem (Or.inl rfl) hfd)
      split at hcreate
      · cases hcreate
        exact ⟨accounts_uncreated hdestroyed, fun fb hfb => by contradiction⟩
      · split at hcreate
        · cases hcreate
          exact ⟨accounts_uncreated hdestroyed, fun fb hfb => by contradiction⟩
        · rename_i address _
          rcases Option.bind_eq_some_iff.mp hcreate with ⟨log₃, hmap, hcreate⟩
          have h₃ := acquire_accounts h₂.2 hmap (unowned_mem rfl)
          cases hcreate
          constructor
          · simp only [Option.getD_some, dumbFbPlaces, DumbFb.framebuffer,
              DumbFb.dumbHandle, Option.map_some, heldOption, hne, hidne, ne_eq,
              not_false_eq_true, if_true, Multiset.singleton_add, Multiset.cons_add]
            exact h₃.2
          · intro fb hfb
            cases hfb
            exact hidne

/-- `setup_black_background` touches only the fields of the background. -/
theorem setupBlackBackground_frame {answers : BackgroundAnswers} {vd vd' : VideoDecoder}
    (hsetup : setupBlackBackground answers vd = some vd') :
    vd' = { vd with
      backgroundFb := vd'.backgroundFb
      backgroundInitialized := vd'.backgroundInitialized
      log := vd'.log } := by
  unfold setupBlackBackground at hsetup
  split at hsetup
  · cases hsetup
    rfl
  · split at hsetup
    · cases hsetup
      rfl
    · rcases Option.bind_eq_some_iff.mp hsetup with ⟨created, -, hsetup⟩
      split at hsetup
      · cases hsetup
        rfl
      · split at hsetup
        · cases hsetup
          rfl
        · cases hsetup
          rfl

/-- `setup_black_background` keeps the framebuffer it has enabled and nothing else. -/
theorem setupBlackBackground_accounts {answers : BackgroundAnswers} {vd vd' : VideoDecoder}
    (h : Accounts Resource.owner vd.log now) (hfd : .fd vd.drmFd ∈ now)
    (hempty : vd.backgroundFb = {})
    (hsetup : setupBlackBackground answers vd = some vd') :
    Accounts Resource.owner vd'.log (dumbFbPlaces vd.drmFd vd'.backgroundFb + now) ∧
      (vd'.backgroundFb.fbId = 0 → vd'.backgroundFb = {}) := by
  unfold setupBlackBackground at hsetup
  have hsame : Accounts Resource.owner vd.log (dumbFbPlaces vd.drmFd vd.backgroundFb + now) ∧
      (vd.backgroundFb.fbId = 0 → vd.backgroundFb = {}) := by
    rw [hempty]
    exact ⟨accounts_uncreated h, fun _ => rfl⟩
  split at hsetup
  · cases hsetup
    exact hsame
  · split at hsetup
    · cases hsetup
      exact hsame
    · rcases Option.bind_eq_some_iff.mp hsetup with ⟨⟨created, log₁⟩, hcreate, hsetup⟩
      have hcreated := createArgbFb_accounts h hfd hcreate
      split at hsetup
      · rename_i hnone
        cases hsetup
        simp only at hnone
        rw [hnone] at hcreated
        exact ⟨hcreated.1, fun _ => rfl⟩
      · rename_i fb hsome
        simp only at hsome
        rw [hsome] at hcreated
        split at hsetup
        · cases hsetup
          exact ⟨hcreated.1, fun hzero => absurd hzero (hcreated.2 fb rfl)⟩
        · cases hsetup
          exact ⟨accounts_uncreated (destroyDumbFb_accounts hcreated.1 hfd), fun _ => rfl⟩

/-- `teardown_background` gives the background framebuffer back. -/
theorem teardownBackground_accounts {vd : VideoDecoder}
    (h : Accounts Resource.owner vd.log (dumbFbPlaces vd.drmFd vd.backgroundFb + now))
    (hempty : vd.backgroundFb.fbId = 0 → vd.backgroundFb = {})
    (hfd : vd.backgroundFb.fbId ≠ 0 → .fd vd.drmFd ∈ now) :
    Accounts Resource.owner (teardownBackground vd).log now := by
  unfold teardownBackground
  by_cases hzero : vd.backgroundFb.fbId = 0
  · rw [hempty hzero, dumbFbPlaces_empty, Multiset.zero_add] at h
    split
    · exact h
    · rw [if_neg (fun hne => hne hzero)]
      exact h
  · rw [if_neg (by simp [hzero]), if_pos hzero]
    exact destroyDumbFb_accounts h (hfd hzero)

/-- The background is torn down. -/
theorem teardownBackground_backgroundFb {vd : VideoDecoder}
    (hempty : vd.backgroundFb.fbId = 0 → vd.backgroundFb = {}) :
    (teardownBackground vd).backgroundFb = {} := by
  unfold teardownBackground
  by_cases hzero : vd.backgroundFb.fbId = 0
  · split
    · exact hempty hzero
    · rw [if_neg (fun hne => hne hzero)]
      exact hempty hzero
  · rw [if_neg (by simp [hzero]), if_pos hzero]

/-- `teardown_background` touches the fields of the background only. -/
theorem teardownBackground_frame (vd : VideoDecoder) :
    teardownBackground vd = { vd with
      backgroundFb := (teardownBackground vd).backgroundFb
      backgroundInitialized := (teardownBackground vd).backgroundInitialized
      log := (teardownBackground vd).log } := by
  unfold teardownBackground
  split
  · rfl
  · split <;> rfl

@[simp]
theorem teardownBackground_drmFd (vd : VideoDecoder) :
    (teardownBackground vd).drmFd = vd.drmFd := by
  rw [teardownBackground_frame]

@[simp]
theorem teardownBackground_packetBuf (vd : VideoDecoder) :
    (teardownBackground vd).packetBuf = vd.packetBuf := by
  rw [teardownBackground_frame]

/-! ## The end -/

/-- The fields refer to nothing any more. -/
structure Empty (vd : VideoDecoder) : Prop where
  packet : vd.packet = none
  ctx : vd.ctx = none
  frmGrp : vd.frmGrp = none
  backgroundFb : vd.backgroundFb = {}
  packetBuf : vd.packetBuf = none
  drmFd : ¬ 0 ≤ vd.drmFd

/-- The last calls of `video_decoder_deinit`: the background, the packet buffer and the
descriptor. -/
theorem closing_accounts {vd : VideoDecoder}
    (h : Accounts Resource.owner vd.log vd.basePlaces)
    (hempty : vd.backgroundFb.fbId = 0 → vd.backgroundFb = {})
    (hopen : vd.backgroundFb.fbId ≠ 0 → 0 ≤ vd.drmFd) :
    Accounts Resource.owner
      (closeDrmFd (freePacketBuf (teardownBackground vd))).log 0 := by
  have hbackground := teardownBackground_accounts h hempty
    fun hne => fd_mem_last (hopen hne)
  have hbuffer : Accounts Resource.owner (freePacketBuf (teardownBackground vd)).log
      (heldOption vd.openFd + 0) := by
    rw [Multiset.add_zero]
    unfold freePacketBuf
    rw [teardownBackground_packetBuf]
    apply releaseOption_unowned hbackground
    intro q hq
    rcases Option.map_eq_some_iff.mp hq with ⟨address, -, rfl⟩
    rfl
  have hfd : (freePacketBuf (teardownBackground vd)).openFd = vd.openFd := by
    unfold freePacketBuf VideoDecoder.openFd
    simp only [teardownBackground_drmFd]
  unfold closeDrmFd
  rw [hfd]
  apply releaseOption_unowned hbuffer
  intro q hq
  unfold VideoDecoder.openFd at hq
  split at hq
  · cases hq
    rfl
  · contradiction

/-- `video_decoder_deinit` gives back everything. -/
theorem videoDecoderDeinit_accounts {vd : VideoDecoder} (h : Sane vd) :
    Accounts Resource.owner (videoDecoderDeinit vd).log 0 := by
  have hpacket : Accounts Resource.owner (deinitPacket vd).log
      (heldOption (vd.ctx.map .ctx) + (vd.groupPlaces + vd.basePlaces)) := by
    apply releaseOption_unowned h.accounts
    intro q hq
    rcases Option.map_eq_some_iff.mp hq with ⟨packet, -, rfl⟩
    rfl
  have hctx : Accounts Resource.owner (destroyCtx (deinitPacket vd)).log
      (vd.groupPlaces + vd.basePlaces) := by
    apply releaseOption_unowned hpacket
    intro q hq
    rcases Option.map_eq_some_iff.mp hq with ⟨ctx, -, rfl⟩
    rfl
  let stopped := destroyCtx (deinitPacket { vd with running := false })
  have hgroup : Accounts Resource.owner (releaseFrameGroup stopped).log
      (releaseFrameGroup stopped).basePlaces := by
    rw [releaseFrameGroup_basePlaces]
    exact releaseFrameGroup_accounts hctx
      fun hne => fd_mem_basePlaces (h.groupOpen hne)
  apply closing_accounts hgroup
  · rw [releaseFrameGroup_backgroundFb]
    exact h.background
  · rw [releaseFrameGroup_backgroundFb, releaseFrameGroup_drmFd]
    exact h.backgroundOpen

/-- The decoder before the last calls of `video_decoder_deinit`. -/
def beforeClosing (vd : VideoDecoder) : VideoDecoder :=
  teardownBackground
    (releaseFrameGroup (destroyCtx (deinitPacket { vd with running := false })))

theorem beforeClosing_packet (vd : VideoDecoder) : (beforeClosing vd).packet = none := by
  unfold beforeClosing
  rw [teardownBackground_frame, releaseFrameGroup_frame]
  rfl

theorem beforeClosing_ctx (vd : VideoDecoder) : (beforeClosing vd).ctx = none := by
  unfold beforeClosing
  rw [teardownBackground_frame, releaseFrameGroup_frame]
  rfl

theorem beforeClosing_frmGrp (vd : VideoDecoder) : (beforeClosing vd).frmGrp = none := by
  unfold beforeClosing
  rw [teardownBackground_frame, releaseFrameGroup_frame]

/-- After `video_decoder_deinit` the fields refer to nothing. -/
theorem videoDecoderDeinit_empty {vd : VideoDecoder}
    (hempty : vd.backgroundFb.fbId = 0 → vd.backgroundFb = {}) :
    Empty (videoDecoderDeinit vd) := by
  constructor
  case packet => exact beforeClosing_packet vd
  case ctx => exact beforeClosing_ctx vd
  case frmGrp => exact beforeClosing_frmGrp vd
  case backgroundFb =>
    apply teardownBackground_backgroundFb
    rw [releaseFrameGroup_backgroundFb]
    exact hempty
  case packetBuf => rfl
  case drmFd =>
    have hfd : (videoDecoderDeinit vd).drmFd =
        if 0 ≤ (beforeClosing vd).drmFd then -1 else (beforeClosing vd).drmFd := rfl
    rw [hfd]
    split <;> omega

/-- `video_decoder_deinit` of a decoder that refers to nothing does nothing. -/
theorem videoDecoderDeinit_of_empty {vd : VideoDecoder} (h : Empty vd) :
    videoDecoderDeinit vd = { vd with
      running := false, backgroundInitialized := false, initialized := false } := by
  rcases vd with ⟨initialized, running, drmFd, backgroundFb, backgroundInitialized, ctx,
    frmGrp, frameMap, packetBuf, packet, log⟩
  have hpacket := h.packet
  have hctx := h.ctx
  have hgroup := h.frmGrp
  have hbackground := h.backgroundFb
  have hbuffer := h.packetBuf
  have hfd := h.drmFd
  simp only at hpacket hctx hgroup hbackground hbuffer hfd
  subst hpacket hctx hgroup hbackground hbuffer
  cases backgroundInitialized <;>
    simp [videoDecoderDeinit, deinitPacket, destroyCtx, releaseFrameGroup,
      teardownBackground, freePacketBuf, closeDrmFd, VideoDecoder.openFd, releaseOption, hfd]

/-- After `video_decoder_deinit` nothing is held, whether or not it was called before. -/
theorem videoDecoderDeinit_ended {vd : VideoDecoder}
    (h : Sane vd ∨ Accounts Resource.owner vd.log 0 ∧ Empty vd) :
    Accounts Resource.owner (videoDecoderDeinit vd).log 0 ∧ Empty (videoDecoderDeinit vd) := by
  rcases h with hsane | ⟨haccounts, hempty⟩
  · exact ⟨videoDecoderDeinit_accounts hsane, videoDecoderDeinit_empty hsane.background⟩
  · rw [videoDecoderDeinit_of_empty hempty]
    exact ⟨haccounts, hempty.packet, hempty.ctx, hempty.frmGrp, hempty.backgroundFb,
      hempty.packetBuf, hempty.drmFd⟩

/-! ## Initialisation -/

/-- The outcome of an initialisation: a decoder that refers to what it acquired, or one
that refers to nothing. -/
def Outcome (r : Int) (vd : VideoDecoder) : Prop :=
  (r = 0 ∧ Sane vd ∧ 0 ≤ vd.drmFd) ∨
    (r = -1 ∧ Accounts Resource.owner vd.log 0 ∧ Empty vd)

/-- A failure after the descriptor is stored gives everything back. -/
theorem Sane.outcome_deinit {vd : VideoDecoder} (h : Sane vd) :
    Outcome (-1) (videoDecoderDeinit vd) :=
  Or.inr ⟨rfl, videoDecoderDeinit_accounts h, videoDecoderDeinit_empty h.background⟩

/-- `mpp_create` adds the context. -/
theorem Sane.withCtx {vd : VideoDecoder} {ctx : Nat} (h : Sane vd) (hctx : vd.ctx = none)
    (hpacket : vd.packet = none) (hacquire : acquire vd.log (.ctx ctx) = some log') :
    Sane { vd with ctx := some ctx, log := log' } := by
  have haccounts := h.accounts
  simp only [VideoDecoder.places, hctx, hpacket, Option.map_none, heldOption,
    Multiset.zero_add] at haccounts
  have hacquired := (acquire_accounts haccounts hacquire (unowned_mem rfl)).2
  constructor
  case accounts =>
    simp only [VideoDecoder.places, hpacket, Option.map_none, Option.map_some, heldOption,
      Multiset.zero_add, Multiset.singleton_add]
    exact hacquired
  case background => exact h.background
  case backgroundOpen => exact h.backgroundOpen
  case groupOpen => exact h.groupOpen

/-- `mpp_packet_init` adds the packet. -/
theorem Sane.withPacket {vd : VideoDecoder} {packet : Nat} (h : Sane vd)
    (hpacket : vd.packet = none) (hacquire : acquire vd.log (.packet packet) = some log') :
    Sane { vd with packet := some packet, log := log' } := by
  have haccounts := h.accounts
  simp only [VideoDecoder.places, hpacket, Option.map_none, heldOption,
    Multiset.zero_add] at haccounts
  have hacquired := (acquire_accounts haccounts hacquire (unowned_mem rfl)).2
  constructor
  case accounts =>
    simp only [VideoDecoder.places, Option.map_some, heldOption, Multiset.singleton_add]
    exact hacquired
  case background => exact h.background
  case backgroundOpen => exact h.backgroundOpen
  case groupOpen => exact h.groupOpen

/-- `reset_frame_map` loses nothing while there is no group. -/
theorem Sane.reset {vd : VideoDecoder} (h : Sane vd) (hgroup : vd.frmGrp = none) :
    Sane { vd with frmGrp := none, frameMap := resetFrameMap, initialized := true } := by
  have haccounts := h.accounts
  simp only [VideoDecoder.places, VideoDecoder.groupPlaces, hgroup] at haccounts
  constructor
  case accounts =>
    simp only [VideoDecoder.places, VideoDecoder.groupPlaces]
    exact haccounts
  case background => exact h.background
  case backgroundOpen => exact h.backgroundOpen
  case groupOpen => exact fun hne => absurd rfl hne

/-- The second half of `video_decoder_init`. -/
theorem initMpp_outcome {answers : InitAnswers} {vd vd' : VideoDecoder} {r : Int}
    (h : Sane vd) (hopen : 0 ≤ vd.drmFd) (hctx : vd.ctx = none) (hpacket : vd.packet = none)
    (hgroup : vd.frmGrp = none) (hinit : initMpp answers vd = some (r, vd')) :
    Outcome r vd' := by
  unfold initMpp at hinit
  split at hinit
  · cases hinit
    exact h.outcome_deinit
  · rename_i ctx _
    rcases Option.bind_eq_some_iff.mp hinit with ⟨log₁, hcreate, hinit⟩
    have h₁ := h.withCtx hctx hpacket hcreate
    split at hinit
    · cases hinit
      exact h₁.outcome_deinit
    · rename_i packet _
      rcases Option.bind_eq_some_iff.mp hinit with ⟨log₂, hpacketInit, hinit⟩
      have h₂ := h₁.withPacket hpacket hpacketInit
      split at hinit
      · cases hinit
        exact h₂.outcome_deinit
      · cases hinit
        exact Or.inl ⟨rfl, h₂.reset hgroup, hopen⟩

/-- The decoder once the descriptor is stored. -/
theorem sane_of_background {vd : VideoDecoder}
    (h : Accounts Resource.owner vd.log vd.basePlaces)
    (hempty : vd.backgroundFb.fbId = 0 → vd.backgroundFb = {}) (hopen : 0 ≤ vd.drmFd)
    (hctx : vd.ctx = none) (hpacket : vd.packet = none) (hgroup : vd.frmGrp = none) :
    Sane vd := by
  constructor
  case accounts =>
    simp only [VideoDecoder.places, VideoDecoder.groupPlaces, hctx, hpacket, hgroup,
      Option.map_none, heldOption, Multiset.zero_add]
    exact h
  case background => exact hempty
  case backgroundOpen => exact fun _ => hopen
  case groupOpen => exact fun _ => hopen

/-- `setup_black_background` in `video_decoder_init`. -/
theorem setupBlackBackground_sane {answers : BackgroundAnswers} {vd vd' : VideoDecoder}
    (h : Accounts Resource.owner vd.log
      (heldOption (vd.packetBuf.map .packetBuf) + heldOption vd.openFd))
    (hempty : vd.backgroundFb = {}) (hopen : 0 ≤ vd.drmFd) (hctx : vd.ctx = none)
    (hpacket : vd.packet = none) (hgroup : vd.frmGrp = none)
    (hsetup : setupBlackBackground answers vd = some vd') :
    Sane vd' ∧ 0 ≤ vd'.drmFd ∧ vd'.ctx = none ∧ vd'.packet = none ∧ vd'.frmGrp = none := by
  have hbackground := setupBlackBackground_accounts h (fd_mem_last hopen) hempty hsetup
  rcases vd' with ⟨initialized, running, drmFd, backgroundFb, backgroundInitialized, ctx,
    frmGrp, frameMap, packetBuf, packet, log'⟩
  have hframe := setupBlackBackground_frame hsetup
  simp only [VideoDecoder.mk.injEq] at hframe
  rcases hframe with ⟨rfl, rfl, rfl, -, -, rfl, rfl, rfl, rfl, rfl, -⟩
  exact ⟨sane_of_background hbackground.1 hbackground.2 hopen hctx hpacket hgroup, hopen,
    hctx, hpacket, hgroup⟩

/-- `video_decoder_init` of a new decoder. -/
theorem videoDecoderInit_outcome {answers : InitAnswers} {vd vd' : VideoDecoder} {r : Int}
    (h : vd.log = []) (hinit : videoDecoderInit answers vd = some (r, vd')) :
    Outcome r vd' := by
  unfold videoDecoderInit at hinit
  rw [h] at hinit
  split at hinit
  · cases hinit
    refine Or.inr ⟨rfl, .nil, ?_⟩
    constructor <;> simp
  · rename_i address _
    rcases Option.bind_eq_some_iff.mp hinit with ⟨log₁, hbuffer, hinit⟩
    have h₁ := (acquire_accounts .nil hbuffer (unowned_mem rfl)).2
    split at hinit
    · cases hinit
      refine Or.inr ⟨rfl, h₁.release (unowned_mem rfl), ?_⟩
      constructor <;> simp
    · rename_i fd _
      rcases Option.bind_eq_some_iff.mp hinit with ⟨log₂, hdup, hinit⟩
      have h₂ := acquire_accounts h₁ hdup (unowned_mem rfl)
      have hopen : 0 ≤ fd := of_decide_eq_true h₂.1
      have hlast : Accounts Resource.owner log₂
          (heldOption (some (.packetBuf address)) +
            heldOption (VideoDecoder.openFd { packetBuf := some address, drmFd := fd })) := by
        rw [VideoDecoder.openFd, if_pos hopen]
        have hswap := h₂.2
        rw [Multiset.cons_swap] at hswap
        exact hswap
      split at hinit
      · cases hinit
        exact (sane_of_background (accounts_uncreated hlast) (fun _ => rfl) hopen rfl rfl
          rfl).outcome_deinit
      · rcases Option.bind_eq_some_iff.mp hinit with ⟨vd₁, hsetup, hinit⟩
        rcases setupBlackBackground_sane hlast rfl hopen rfl rfl rfl hsetup with
          ⟨hsane, hopen₁, hctx, hpacket, hgroup⟩
        exact initMpp_outcome hsane hopen₁ hctx hpacket hgroup hinit

/-- Every step of `video_decoder_init` that can make it fail succeeds. -/
def InitAnswers.succeeds (answers : InitAnswers) : Bool :=
  answers.packetBuf.isSome && answers.dupFd.isSome && answers.props &&
    (answers.mppCreate.isSome && answers.packetInit.isSome && answers.mppInit)

/-- From `mpp_create` on, `video_decoder_init` returns 0 if no step fails. -/
theorem initMpp_succeeds {answers : InitAnswers} {vd vd' : VideoDecoder} {r : Int}
    (hinit : initMpp answers vd = some (r, vd')) :
    (r = 0 ↔ (answers.mppCreate.isSome && answers.packetInit.isSome && answers.mppInit) = true) ∧
      (r = 0 → vd'.initialized = true ∧ vd'.running = vd.running) := by
  unfold initMpp at hinit
  split at hinit
  · rename_i hcreate
    cases hinit
    simp [hcreate]
  · rename_i ctx hcreate
    rcases Option.bind_eq_some_iff.mp hinit with ⟨log₁, -, hinit⟩
    simp only at hinit
    split at hinit
    · rename_i hpacket
      cases hinit
      simp [hpacket]
    · rename_i packet hpacket
      rcases Option.bind_eq_some_iff.mp hinit with ⟨log₂, -, hinit⟩
      split at hinit
      · rename_i hmpp
        rw [Bool.not_eq_true'] at hmpp
        cases hinit
        simp [hmpp]
      · rename_i hmpp
        rw [Bool.not_eq_true', Bool.not_eq_false] at hmpp
        cases hinit
        simp [hcreate, hpacket, hmpp]

/-- `video_decoder_init` returns 0 if no step fails, with a decoder that does not run. -/
theorem videoDecoderInit_succeeds {answers : InitAnswers} {vd vd' : VideoDecoder} {r : Int}
    (hinit : videoDecoderInit answers vd = some (r, vd')) :
    (r = 0 ↔ answers.succeeds = true) ∧
      (r = 0 → vd'.initialized = true ∧ vd'.running = false) := by
  unfold videoDecoderInit at hinit
  unfold InitAnswers.succeeds
  simp only at hinit
  split at hinit
  · rename_i hbuffer
    cases hinit
    simp [hbuffer]
  · rename_i address hbuffer
    rcases Option.bind_eq_some_iff.mp hinit with ⟨log₁, -, hinit⟩
    split at hinit
    · rename_i hdup
      cases hinit
      simp [hdup]
    · rename_i fd hdup
      rcases Option.bind_eq_some_iff.mp hinit with ⟨log₂, -, hinit⟩
      split at hinit
      · rename_i hprops
        rw [Bool.not_eq_true'] at hprops
        cases hinit
        simp [hprops]
      · rename_i hprops
        rw [Bool.not_eq_true', Bool.not_eq_false] at hprops
        rcases Option.bind_eq_some_iff.mp hinit with ⟨vd₁, hsetup, hinit⟩
        have hmpp := initMpp_succeeds hinit
        have hrunning : vd₁.running = false :=
          congrArg VideoDecoder.running (setupBlackBackground_frame hsetup)
        rw [hrunning] at hmpp
        simp only [hbuffer, hdup, hprops, Option.isSome_some, Bool.true_and]
        exact hmpp

/-! ## Runs -/

/-- `setup_external_buffers` touches the group and the slots only. -/
theorem setupExternalBuffers_frame {frame : MppFrame} {group : Option Nat}
    {answers : List SlotAnswers} {vd vd' : VideoDecoder}
    (hsetup : setupExternalBuffers frame group answers vd = some vd') :
    vd' = { vd with frmGrp := vd'.frmGrp, frameMap := vd'.frameMap, log := vd'.log } := by
  unfold setupExternalBuffers at hsetup
  split at hsetup
  · cases hsetup
    rfl
  · split at hsetup
    · cases hsetup
      rw [releaseFrameGroup_frame]
    · rcases Option.bind_eq_some_iff.mp hsetup with ⟨log₁, -, hsetup⟩
      rcases Option.bind_eq_some_iff.mp hsetup with ⟨filled, -, hsetup⟩
      cases hsetup
      rw [releaseFrameGroup_frame]

/-- The resources of a decoder, those of the group first. -/
theorem VideoDecoder.places_eq (vd : VideoDecoder) :
    vd.places = vd.groupPlaces +
      (heldOption (vd.packet.map .packet) +
        (heldOption (vd.ctx.map .ctx) + vd.basePlaces)) := by
  unfold VideoDecoder.places
  rw [add_left_comm (heldOption (vd.ctx.map Resource.ctx)),
    add_left_comm (heldOption (vd.packet.map Resource.packet))]

/-- An info-change frame keeps the account. -/
theorem setupExternalBuffers_sane {frame : MppFrame} {group : Option Nat}
    {answers : List SlotAnswers} {vd vd' : VideoDecoder} (h : Sane vd)
    (hopen : 0 ≤ vd.drmFd)
    (hsetup : setupExternalBuffers frame group answers vd = some vd') :
    Sane vd' ∧ 0 ≤ vd'.drmFd := by
  have hfd : .fd vd.drmFd ∈ heldOption (vd.packet.map Resource.packet) +
      (heldOption (vd.ctx.map .ctx) + vd.basePlaces) := by
    apply Multiset.mem_add.mpr
    right
    apply Multiset.mem_add.mpr
    right
    exact fd_mem_basePlaces hopen
  have haccounts := h.accounts
  rw [vd.places_eq] at haccounts
  have haccounts' := setupExternalBuffers_accounts haccounts hfd hsetup
  have hframe := setupExternalBuffers_frame hsetup
  rcases vd' with ⟨initialized, running, drmFd, backgroundFb, backgroundInitialized, ctx,
    frmGrp, frameMap, packetBuf, packet, log'⟩
  simp only [VideoDecoder.mk.injEq] at hframe
  rcases hframe with ⟨rfl, rfl, rfl, rfl, rfl, rfl, -, -, rfl, rfl, -⟩
  constructor
  · constructor
    case accounts =>
      rw [VideoDecoder.places_eq]
      exact haccounts'
    case background => exact h.background
    case backgroundOpen => exact fun _ => hopen
    case groupOpen => exact fun _ => hopen
  · exact hopen

/-- What the caller has done with the decoder. -/
inductive Phase
  | allocated
  /-- Initialised; no call is in progress. -/
  | ready
  /-- In `video_decoder_start`, with the frame thread created. -/
  | starting
  /-- Before the `g_thread_join` of the frame thread. -/
  | joining
  /-- The initialisation failed, or `video_decoder_deinit` has returned. -/
  | closed
  | freed
deriving DecidableEq, Repr

/-- Where the frame thread is. -/
inductive FrameThread
  | absent
  /-- At the test of `running`. -/
  | check
  /-- Past the test, with the next frame to come. -/
  | frame
deriving DecidableEq, Repr

/-- A decoder, its caller and its frame thread. -/
structure Lifetime where
  vd : VideoDecoder := videoDecoderNew
  phase : Phase := .allocated
  frameThread : FrameThread := .absent
deriving DecidableEq, Repr

/-- The steps of the caller and of the frame thread. -/
inductive LifetimeAction
  | init (answers : InitAnswers)
  /-- `video_decoder_start` up to the creation of the frame thread. -/
  | start (created : Bool)
  /-- The creation of the display thread in `video_decoder_start`. -/
  | startDisplay (created : Bool)
  /-- `video_decoder_stop` up to the join. -/
  | stop
  /-- The join returns. -/
  | join
  /-- The rest of `video_decoder_deinit`, whose `video_decoder_stop` has returned. -/
  | deinit
  | free
  /-- The frame thread tests `running`. -/
  | checkRunning
  /-- The frame thread has got a frame, or none. -/
  | turn (frame : Option MppFrame) (group : Option Nat) (slots : List SlotAnswers)
deriving DecidableEq, Repr

/-- The frame thread returns. -/
def Lifetime.endFrameThread (s : Lifetime) : Lifetime :=
  { s with frameThread := .absent, vd := { s.vd with running := false } }

/-- The frame thread after a frame: it ends with the stream. -/
def Lifetime.nextFrame (s : Lifetime) (frame : MppFrame) : Lifetime :=
  if frame.eos then s.endFrameThread else { s with frameThread := .check }

/-- The enabled steps and their effects. -/
def lifetimeNext (s : Lifetime) : LifetimeAction → Option Lifetime
  | .init answers =>
      if s.phase = .allocated then
        (videoDecoderInit answers s.vd).bind fun result =>
          some { s with
            vd := result.2
            phase := if result.1 = 0 then .ready else .closed }
      else none
  | .start created =>
      if s.phase ≠ .ready then none
      else if s.vd.running then some s
      else if created then
        some { s with
          vd := { s.vd with running := true }, phase := .starting, frameThread := .check }
      else some s
  | .startDisplay created =>
      if s.phase ≠ .starting then none
      else if created then some { s with phase := .ready }
      else some { s with vd := { s.vd with running := false }, phase := .joining }
  | .stop =>
      if s.phase ≠ .ready then none
      else some { s with vd := { s.vd with running := false }, phase := .joining }
  | .join =>
      if s.phase = .joining ∧ s.frameThread = .absent then some { s with phase := .ready }
      else none
  | .deinit =>
      if s.phase = .closed ∨ s.phase = .ready ∧ s.frameThread = .absent then
        some { s with vd := videoDecoderDeinit s.vd, phase := .closed }
      else none
  | .free =>
      if s.phase = .closed ∨ s.phase = .ready ∧ s.frameThread = .absent then
        some { s with vd := videoDecoderDeinit s.vd, phase := .freed }
      else none
  | .checkRunning =>
      if s.frameThread ≠ .check then none
      else if s.vd.running then some { s with frameThread := .frame }
      else some s.endFrameThread
  | .turn frame group slots =>
      if s.frameThread ≠ .frame then none
      else
        match frame with
        | none => some { s with frameThread := .check }
        | some frame =>
            if frame.infoChange then
              (setupExternalBuffers frame group slots s.vd).bind fun vd =>
                some (Lifetime.nextFrame { s with vd := vd } frame)
            else some (s.nextFrame frame)

/-- All lifetimes of a decoder. -/
def lifetime : System Lifetime LifetimeAction where
  init s := s = {}
  next := lifetimeNext

/-- The decoder is initialised. -/
def Phase.live : Phase → Bool
  | .ready | .starting | .joining => true
  | .allocated | .closed | .freed => false

/-- The first `video_decoder_deinit` has returned, or the initialisation failed. -/
def Phase.ended : Phase → Bool
  | .closed | .freed => true
  | .allocated | .ready | .starting | .joining => false

/-- What holds between any two steps. -/
structure LifetimeInv (s : Lifetime) : Prop where
  allocated : s.phase = .allocated → s.vd = videoDecoderNew
  live : s.phase.live = true → Sane s.vd ∧ 0 ≤ s.vd.drmFd
  ended : s.phase.ended = true → Accounts Resource.owner s.vd.log 0 ∧ Empty s.vd
  thread : s.frameThread ≠ .absent → s.phase.live = true

/-- `running` is no resource. -/
theorem Sane.withRunning {vd : VideoDecoder} (h : Sane vd) (running : Bool) :
    Sane { vd with running := running } :=
  ⟨h.accounts, h.background, h.backgroundOpen, h.groupOpen⟩

/-- A step between live phases that keeps the decoder sane. -/
theorem LifetimeInv.of_live {s : Lifetime} (hlive : s.phase.live = true)
    (hsane : Sane s.vd ∧ 0 ≤ s.vd.drmFd) : LifetimeInv s := by
  constructor
  case allocated =>
    intro hphase
    rw [hphase] at hlive
    contradiction
  case live => exact fun _ => hsane
  case ended =>
    intro hended
    cases hphase : s.phase <;> rw [hphase] at hlive hended <;> contradiction
  case thread => exact fun _ => hlive

/-- A step to an ended phase. -/
theorem LifetimeInv.of_ended {s : Lifetime} (hended : s.phase.ended = true)
    (hthread : s.frameThread = .absent)
    (haccounts : Accounts Resource.owner s.vd.log 0 ∧ Empty s.vd) : LifetimeInv s := by
  constructor
  case allocated =>
    intro hphase
    rw [hphase] at hended
    contradiction
  case live =>
    intro hlive
    cases hphase : s.phase <;> rw [hphase] at hlive hended <;> contradiction
  case ended => exact fun _ => haccounts
  case thread => exact fun hne => absurd hthread hne

/-- `video_decoder_deinit` while no frame thread exists. -/
theorem LifetimeInv.deinit {s : Lifetime} (h : LifetimeInv s)
    (hphase : s.phase = .closed ∨ s.phase = .ready ∧ s.frameThread = .absent) :
    s.frameThread = .absent ∧ Accounts Resource.owner (videoDecoderDeinit s.vd).log 0 ∧
      Empty (videoDecoderDeinit s.vd) := by
  rcases hphase with hclosed | ⟨hready, habsent⟩
  · have hended := h.ended (by rw [hclosed]; rfl)
    have habsent : s.frameThread = .absent := by
      by_contra hne
      have hlive := h.thread hne
      rw [hclosed] at hlive
      contradiction
    exact ⟨habsent, videoDecoderDeinit_ended (Or.inr hended)⟩
  · have hsane := (h.live (by rw [hready]; rfl)).1
    exact ⟨habsent, videoDecoderDeinit_ended (Or.inl hsane)⟩

/-- The end of the frame thread keeps the invariant. -/
theorem Lifetime.endFrameThread_inv {s : Lifetime} (hlive : s.phase.live = true)
    (hsane : Sane s.vd ∧ 0 ≤ s.vd.drmFd) : LifetimeInv s.endFrameThread :=
  .of_live hlive ⟨hsane.1.withRunning false, hsane.2⟩

/-- A frame keeps the invariant. -/
theorem Lifetime.nextFrame_inv {s : Lifetime} (hlive : s.phase.live = true)
    (hsane : Sane s.vd ∧ 0 ≤ s.vd.drmFd) (frame : MppFrame) :
    LifetimeInv (s.nextFrame frame) := by
  unfold Lifetime.nextFrame
  split
  · exact endFrameThread_inv hlive hsane
  · exact .of_live hlive hsane

/-- Every step keeps the invariant. -/
theorem lifetimeNext_inv {s t : Lifetime} {a : LifetimeAction} (h : LifetimeInv s)
    (hnext : lifetimeNext s a = some t) : LifetimeInv t := by
  cases a with
  | init answers =>
      simp only [lifetimeNext] at hnext
      split at hnext
      · rename_i hphase
        rcases Option.bind_eq_some_iff.mp hnext with ⟨⟨r, vd⟩, hinit, hnext⟩
        cases hnext
        have hnew := h.allocated hphase
        have habsent : s.frameThread = .absent := by
          by_contra hne
          have hlive := h.thread hne
          rw [hphase] at hlive
          contradiction
        have hlog : s.vd.log = [] := by
          rw [hnew]
          rfl
        rcases videoDecoderInit_outcome hlog hinit with ⟨rfl, hsane⟩ | ⟨rfl, hempty⟩
        · exact .of_live rfl hsane
        · exact .of_ended rfl habsent hempty
      · contradiction
  | start created =>
      simp only [lifetimeNext] at hnext
      split at hnext
      · contradiction
      · rename_i hphase
        have hready : s.phase = .ready := not_not.mp hphase
        split at hnext
        · cases hnext
          exact h
        · split at hnext
          · cases hnext
            have hsane := h.live (by rw [hready]; rfl)
            exact .of_live rfl ⟨hsane.1.withRunning true, hsane.2⟩
          · cases hnext
            exact h
  | startDisplay created =>
      simp only [lifetimeNext] at hnext
      split at hnext
      · contradiction
      · rename_i hphase
        have hstarting : s.phase = .starting := not_not.mp hphase
        have hsane := h.live (by rw [hstarting]; rfl)
        split at hnext
        · cases hnext
          exact .of_live rfl hsane
        · cases hnext
          exact .of_live rfl ⟨hsane.1.withRunning false, hsane.2⟩
  | stop =>
      simp only [lifetimeNext] at hnext
      split at hnext
      · contradiction
      · rename_i hphase
        have hready : s.phase = .ready := not_not.mp hphase
        have hsane := h.live (by rw [hready]; rfl)
        cases hnext
        exact .of_live rfl ⟨hsane.1.withRunning false, hsane.2⟩
  | join =>
      simp only [lifetimeNext] at hnext
      split at hnext
      · rename_i hjoin
        cases hnext
        exact .of_live rfl (h.live (by rw [hjoin.1]; rfl))
      · contradiction
  | deinit =>
      simp only [lifetimeNext] at hnext
      split at hnext
      · rename_i hphase
        cases hnext
        have hdeinit := h.deinit hphase
        exact .of_ended rfl hdeinit.1 hdeinit.2
      · contradiction
  | free =>
      simp only [lifetimeNext] at hnext
      split at hnext
      · rename_i hphase
        cases hnext
        have hdeinit := h.deinit hphase
        exact .of_ended rfl hdeinit.1 hdeinit.2
      · contradiction
  | checkRunning =>
      simp only [lifetimeNext] at hnext
      split at hnext
      · contradiction
      · rename_i hcheck
        have hlive := h.thread (by rw [not_not.mp hcheck]; simp)
        split at hnext
        · cases hnext
          exact .of_live hlive (h.live hlive)
        · cases hnext
          exact Lifetime.endFrameThread_inv hlive (h.live hlive)
  | turn frame group slots =>
      simp only [lifetimeNext] at hnext
      split at hnext
      · contradiction
      · rename_i hframe
        have hlive := h.thread (by rw [not_not.mp hframe]; simp)
        have hsane := h.live hlive
        split at hnext
        · cases hnext
          exact .of_live hlive hsane
        · rename_i frame
          split at hnext
          · rcases Option.bind_eq_some_iff.mp hnext with ⟨vd, hsetup, hnext⟩
            cases hnext
            have hsane' := setupExternalBuffers_sane hsane.1 hsane.2 hsetup
            exact Lifetime.nextFrame_inv (s := { s with vd := vd }) hlive hsane' frame
          · cases hnext
            exact Lifetime.nextFrame_inv hlive hsane frame

/-- The invariant holds in every reachable state. -/
theorem lifetime_inv {s : Lifetime} (h : lifetime.Reachable s) : LifetimeInv s := by
  apply h.invariant LifetimeInv
  · intro s hinit
    rw [show s = {} from hinit]
    constructor <;> intro hphase
    · rfl
    · contradiction
    · contradiction
    · contradiction
  · intro s t a hinv _ hnext
    exact lifetimeNext_inv hinv hnext

/-- Resources are only acquired when they are not held, only released when they are, and
both only while their descriptor is open. -/
theorem LifetimeInv.sound {s : Lifetime} (h : LifetimeInv s) :
    Sound Resource.owner s.vd.log := by
  cases hphase : s.phase with
  | allocated =>
      rw [h.allocated hphase]
      exact .nil
  | ready | starting | joining =>
      exact (h.live (by rw [hphase]; rfl)).1.accounts.sound
  | closed | freed => exact (h.ended (by rw [hphase]; rfl)).1.sound

/-- After the end every further call leaves the log alone. -/
theorem LifetimeInv.quiet {s t : Lifetime} {a : LifetimeAction} (h : LifetimeInv s)
    (hended : s.phase.ended = true) (hnext : lifetimeNext s a = some t) :
    t.vd.log = s.vd.log ∧ t.phase.ended = true := by
  have habsent : s.frameThread = .absent := by
    by_contra hne
    have hlive := h.thread hne
    cases hphase : s.phase <;> rw [hphase] at hlive hended <;> contradiction
  have hclosed : s.phase = .closed ∨ s.phase = .freed := by
    cases hphase : s.phase <;> rw [hphase] at hended <;> simp_all [Phase.ended]
  have hdeinit := videoDecoderDeinit_of_empty (h.ended hended).2
  cases a with
  | deinit =>
      simp only [lifetimeNext] at hnext
      split at hnext
      · cases hnext
        simp only [hdeinit]
        exact ⟨trivial, rfl⟩
      · contradiction
  | free =>
      simp only [lifetimeNext] at hnext
      split at hnext
      · cases hnext
        simp only [hdeinit]
        exact ⟨trivial, rfl⟩
      · contradiction
  | _ =>
      rcases hclosed with hphase | hphase <;>
        simp [lifetimeNext, hphase, habsent] at hnext

/-- In every lifetime of a decoder, resources are released only while they are held and
their DRM descriptor is open.  Once the initialisation has failed or the first
`video_decoder_deinit` has returned, every resource has been released as often as it was
acquired, nothing is held, and further calls release nothing. -/
theorem resources_released_once {s : Lifetime} (h : lifetime.Reachable s) :
    Sound Resource.owner s.vd.log ∧
      (s.phase.ended = true →
        held s.vd.log = 0 ∧
        (∀ r, s.vd.log.count (.released r) = s.vd.log.count (.acquired r)) ∧
        ∀ a t, lifetime.next s a = some t →
          t.vd.log = s.vd.log ∧ t.phase.ended = true) := by
  have hinv := lifetime_inv h
  constructor
  · exact hinv.sound
  · intro hended
    have haccounts := (hinv.ended hended).1
    refine ⟨haccounts.held_eq, haccounts.released_once, ?_⟩
    intro a t hnext
    exact hinv.quiet hended hnext

/-- An info-change frame. -/
def infoChange : MppFrame := { infoChange := true, width := 1920, height := 1080 }

/-- Two resolutions with one buffer for each way the allocation of a slot can end, a
restart in between, and three calls at the end. -/
def twoResolutions : List LifetimeAction :=
  let argb : ArgbAnswers := { createDumb := some 1, addFb := some 2, mmap := some 3 }
  let background : BackgroundAnswers := { planeFound := true, argb := argb }
  [.init
      { packetBuf := some 1, dupFd := some 7, background := background,
        mppCreate := some 4, packetInit := some 5 },
    .start true, .startDisplay true, .checkRunning,
    .turn (some infoChange) (some 6)
      [{ createDumb := some 10, exported := some 20, addFb := some 30 }, {},
        { createDumb := some 11 },
        { createDumb := some 12, exported := some 21, committed := false },
        { createDumb := some 13, exported := some 21 }],
    .stop, .checkRunning, .join, .start true, .startDisplay true, .checkRunning,
    .turn (some infoChange) (some 8)
      [{ createDumb := some 10, exported := some 20, addFb := some 30 }],
    .stop, .checkRunning, .join, .deinit, .deinit, .free]

/-- A lifetime with two resolutions ends with 20 acquisitions and as many releases. -/
theorem resources_released_once_twoResolutions : ∃ s, lifetime.Reachable s ∧
    s.phase = .freed ∧ s.vd.log.length = 40 ∧ Sound Resource.owner s.vd.log ∧
      held s.vd.log = 0 := by
  have hrun : ((lifetime.exec {} twoResolutions).any fun s =>
      s.phase = .freed && s.vd.log.length = 40) = true := by
    decide +kernel
  rcases (Option.any_eq_true _ _).mp hrun with ⟨s, hs, hfields⟩
  simp only [Bool.and_eq_true, decide_eq_true_eq] at hfields
  have hreach : lifetime.Reachable s := System.reachable_of_exec rfl hs
  have hreleased := resources_released_once hreach
  exact ⟨s, hreach, hfields.1, hfields.2, hreleased.1,
    (hreleased.2 (by rw [hfields.1]; rfl)).1⟩

end Decoder
end PixelPilot
