import PixelPilot.Decoder.Mailbox

/-!
# Framebuffers across resolution changes

An info-change frame makes `setup_external_buffers` remove every framebuffer of
the old group and reset `src_w` and `src_h`, without the lock and without
clearing the mailbox.  Whether the display thread then commits a removed
framebuffer depends on a single thing: whether one of the removed framebuffers
was still waiting in the mailbox or in the display thread's hands.

Main results:

- Theorem `stale_commit`: a schedule in which a removed framebuffer is committed.
- Theorem `commits_live_framebuffers`: commits are safe in every run in which
  each removed framebuffer is unused, and one removal of a used framebuffer is
  enough to reach an unsafe commit.
-/

namespace PixelPilot
namespace Decoder

open Transition

/-! ## What a safe commit is -/

/-- The post the display thread has taken and not yet committed. -/
def DisplayPc.held : DisplayPc → Option Post
  | .srcW p _ | .srcH p _ _ | .flip p _ _ _ => some p
  | _ => none

/-- The framebuffer that owned the id when `p` was posted still owns it, and has
the size `w` by `h`. -/
def LiveAs (fbs : List Framebuffer) (p : Post) (w h : Nat) : Prop :=
  ∃ fb, lookupFb fbs p.fb = some fb ∧ fb.serial = p.serial ∧ fb.width = w ∧ fb.height = h

/-- Where the display thread is about to commit, the framebuffer is live and the
source size is the one it was created for. -/
def State.CommitSafe (s : State) : Prop :=
  ∀ p still w h, s.displayPc = .flip p still w h → LiveAs s.fbs p w h

/-- Posts the display thread may still commit: the one in its hands, and the one
in the mailbox unless it leaves without looking there again. -/
def State.Outstanding (s : State) (p : Post) : Prop :=
  s.displayPc.held = some p ∨ (s.pending = p ∧ p.fb ≠ 0 ∧ ¬ s.displayPc.Leaving)

/-- The step condition: no framebuffer that `release_frame_group` removes belongs
to an outstanding post. -/
def RemovesUnused (s : State) (a : Act) : Prop :=
  ∀ f i, s.framePc = .release f i → i < decoderMaxFrames → a = .frame .go →
    (s.frameMap.getD i {}).fbId ≠ 0 →
      ∀ p, s.Outstanding p → p.fb ≠ (s.frameMap.getD i {}).fbId

/-! ## The framebuffer table -/

theorem lookupFb_cons_of_ne {fbs : List Framebuffer} {fb : Framebuffer} {id : Nat}
    (hne : fb.id ≠ id) : lookupFb (fb :: fbs) id = lookupFb fbs id := by
  simp [lookupFb, hne]

/-- A framebuffer is found once it is added. -/
theorem lookupFb_cons_self (fbs : List Framebuffer) (fb : Framebuffer) :
    lookupFb (fb :: fbs) fb.id = some fb := by
  simp [lookupFb]

/-- Removing one framebuffer leaves the lookup of other ids alone. -/
theorem lookupFb_filter_of_ne {fbs : List Framebuffer} {id other : Nat} (hne : other ≠ id) :
    lookupFb (fbs.filter fun fb => fb.id ≠ id) other = lookupFb fbs other := by
  induction fbs with
  | nil => rfl
  | cons fb fbs ih =>
      by_cases hid : fb.id = id
      · have hother : fb.id ≠ other := fun h => hne (h.symm.trans hid)
        rw [lookupFb_cons_of_ne hother, ← ih]
        simp [hid]
      · rw [List.filter_cons_of_pos (by simpa using hid)]
        by_cases hother : fb.id = other
        · subst hother
          rw [lookupFb_cons_self, lookupFb_cons_self]
        · rw [lookupFb_cons_of_ne hother, lookupFb_cons_of_ne hother, ih]

/-- A removed id belongs to no framebuffer. -/
theorem lookupFb_filter_self (fbs : List Framebuffer) (id : Nat) :
    lookupFb (fbs.filter fun fb => fb.id ≠ id) id = none := by
  unfold lookupFb
  rw [List.find?_eq_none]
  intro fb hfb
  have hne := (List.mem_filter.mp hfb).2
  simpa using hne

/-- A post stays live where another framebuffer is removed. -/
theorem LiveAs.remove {fbs : List Framebuffer} {p : Post} {w h : Nat}
    (hlive : LiveAs fbs p w h) {id : Nat} (hne : p.fb ≠ id) :
    LiveAs (fbs.filter fun fb => fb.id ≠ id) p w h := by
  obtain ⟨found, hfound, hrest⟩ := hlive
  exact ⟨found, by rw [lookupFb_filter_of_ne hne, hfound], hrest⟩

/-! ## The frame map -/

/-- Every framebuffer of the frame map is live with the size `w` by `h`. -/
def State.SlotsLive (s : State) (w h : Nat) : Prop :=
  ∀ slot ∈ s.frameMap, slot.fbId ≠ 0 →
    ∃ fb, lookupFb s.fbs slot.fbId = some fb ∧ fb.width = w ∧ fb.height = h ∧ w ≠ 0 ∧ h ≠ 0

/-- No slot of the frame map has a framebuffer. -/
def State.Released (s : State) : Prop :=
  ∀ slot ∈ s.frameMap, slot.fbId = 0

/-- The post names a framebuffer of the frame map. -/
def State.InMap (s : State) (p : Post) : Prop :=
  ∃ slot ∈ s.frameMap, slot.fbId = p.fb

/-- Without framebuffers in the frame map there is nothing to be live. -/
theorem State.Released.slotsLive {s : State} (hs : s.Released) (w h : Nat) : s.SlotsLive w h :=
  fun slot hslot hne => absurd (hs slot hslot) hne

/-- After a reset no slot has a framebuffer. -/
theorem resetFrameMap_fbId {slot : FrameSlot} (h : slot ∈ resetFrameMap) : slot.fbId = 0 := by
  rw [List.eq_of_mem_replicate h]

/-- Registering the framebuffer of slot `i` keeps the map live. -/
theorem slotsLive_alloc {s : State} {f : MppFrame} {r : SlotResult} {i : Nat}
    (hs : s.SlotsLive f.width f.height) (hr : r.possible f s.fbs = true) :
    State.SlotsLive { s.addFb f r with
      frameMap := s.frameMap.set i r.slot, framePc := .alloc f (i + 1) }
      f.width f.height := by
  intro slot hslot hne
  rcases List.mem_or_eq_of_mem_set hslot with hold | hnew
  · obtain ⟨fb, hfb, hrest⟩ := hs slot hold hne
    refine ⟨fb, ?_, hrest⟩
    cases r with
    | added handle fd id =>
        simp only [SlotResult.possible, Bool.and_eq_true, Option.isNone_iff_eq_none] at hr
        have hother : id ≠ slot.fbId := by
          intro heq
          rw [heq, hfb] at hr
          simp at hr
        exact (lookupFb_cons_of_ne hother).trans hfb
    | _ => exact hfb
  · subst hnew
    cases r with
    | added handle fd id =>
        simp only [SlotResult.possible, Bool.and_eq_true, decide_eq_true_eq] at hr
        exact ⟨_, lookupFb_cons_self _ _, rfl, rfl, hr.1.2, hr.2⟩
    | _ => exact absurd rfl hne

/-! ## The invariant -/

/-- The part of `setup_external_buffers` in which the old framebuffers are gone
and no frame has been posted from the new ones. -/
def FramePc.Reallocating : FramePc → Prop
  | .clearSrcW _ | .clearSrcH _ | .groupGet _ | .alloc _ _ | .setSrcW _ | .setSrcH _
  | .commitSrcW _ | .commitSrcH _ | .commitFlip _ => True
  | _ => False

/-- What the frame map holds at each control point of the frame thread. -/
def State.MapInv (s : State) : Prop :=
  match s.framePc with
  | .release _ i => ∀ j, j < i → (s.frameMap.getD j {}).fbId = 0
  | .clearSrcW _ | .clearSrcH _ | .groupGet _ => s.Released
  | .alloc f _ => s.frmGrp = true ∧ s.SlotsLive f.width f.height
  | .setSrcW f => s.SlotsLive f.width f.height
  | .setSrcH f => s.SlotsLive f.width f.height ∧ s.srcW = f.width
  | .commitSrcW f | .commitSrcH f | .commitFlip f =>
      s.SlotsLive f.width f.height ∧ s.srcW = f.width ∧ s.srcH = f.height
  | _ => s.SlotsLive s.srcW s.srcH

/-- The source size read so far by the display thread is the remembered one. -/
def State.ReadInv (s : State) : Prop :=
  match s.displayPc with
  | .srcH _ _ w => w = s.srcW
  | .flip _ _ w h => w = s.srcW ∧ h = s.srcH
  | _ => True

/-- An outstanding post names a live framebuffer of the frame map, whose size is
the remembered one. -/
structure State.PostLive (s : State) (p : Post) : Prop where
  inMap : s.InMap p
  live : LiveAs s.fbs p s.srcW s.srcH
  fb_ne : p.fb ≠ 0
  srcW_ne : s.srcW ≠ 0
  srcH_ne : s.srcH ≠ 0

/-- The invariant of the runs in which removed framebuffers are unused. -/
structure FbInv (s : State) : Prop where
  size : s.frameMap.length = decoderMaxFrames
  noGroup : s.frmGrp = false → s.Released
  map : s.MapInv
  outstanding : ∀ p, s.Outstanding p → s.PostLive p
  idle : s.framePc.Reallocating → ∀ p, ¬ s.Outstanding p
  read : s.ReadInv

theorem getD_mem {frameMap : List FrameSlot} {i : Nat}
    (h : (frameMap.getD i {}).fbId ≠ 0) : frameMap.getD i {} ∈ frameMap := by
  rw [List.getD_eq_getElem?_getD] at *
  cases hslot : frameMap[i]? with
  | none => simp [hslot] at h
  | some slot => exact List.mem_of_getElem? hslot

/-- Clearing slot `i` keeps every framebuffer of the map that is not in slot `i`. -/
theorem mem_set_released {frameMap : List FrameSlot} {i : Nat} {slot : FrameSlot}
    (hslot : slot ∈ frameMap) (hne : slot.fbId ≠ (frameMap.getD i {}).fbId) :
    slot ∈ frameMap.set i releasedSlot := by
  obtain ⟨j, hj, rfl⟩ := List.mem_iff_getElem.mp hslot
  have hij : i ≠ j := by
    rintro rfl
    simp [hj] at hne
  rw [List.mem_iff_getElem]
  exact ⟨j, by simpa using hj, by rw [List.getElem_set_ne hij]⟩

/-- A post outstanding for a released map cannot name a framebuffer of it. -/
theorem FbInv.idle_of_released {s : State} (hs : FbInv s) (hreleased : s.Released) (p : Post) :
    ¬ s.Outstanding p := by
  intro hout
  have hlive := hs.outstanding p hout
  obtain ⟨slot, hslot, hfb⟩ := hlive.inMap
  exact hlive.fb_ne (hfb.symm.trans (hreleased slot hslot))

/-- A step that moves the frame thread only keeps the invariant if the frame map
fits the new control point. -/
theorem FbInv.move {s : State} (hs : FbInv s) {pc : FramePc} {ended : Bool}
    (hmap : State.MapInv { s with framePc := pc, endedByEos := ended })
    (hidle : pc.Reallocating → ∀ p, ¬ s.Outstanding p) :
    FbInv { s with framePc := pc, endedByEos := ended } where
  size := hs.size
  noGroup := hs.noGroup
  map := hmap
  outstanding p hout :=
    have hlive := hs.outstanding p hout
    ⟨hlive.inMap, hlive.live, hlive.fb_ne, hlive.srcW_ne, hlive.srcH_ne⟩
  idle := hidle
  read := hs.read

/-- While no post is outstanding the frame thread may rebuild everything. -/
theorem FbInv.of_idle {s t : State} (hidle : ∀ p, ¬ s.Outstanding p)
    (hpending : t.pending = s.pending) (hdisplay : t.displayPc = s.displayPc)
    (hsize : t.frameMap.length = decoderMaxFrames) (hgroup : t.frmGrp = false → t.Released)
    (hmap : t.MapInv) : FbInv t := by
  have hnone : ∀ p, ¬ t.Outstanding p := by
    intro p hout
    refine hidle p ?_
    unfold State.Outstanding at *
    rw [← hpending, ← hdisplay]
    exact hout
  refine ⟨hsize, hgroup, hmap, fun p hout => absurd hout (hnone p), fun _ => hnone, ?_⟩
  unfold State.ReadInv
  split
  · rename_i p still w hpc
    exact absurd (.inl (by simp [hpc, DisplayPc.held])) (hnone p)
  · rename_i p still w height hpc
    exact absurd (.inl (by simp [hpc, DisplayPc.held])) (hnone p)
  · trivial

@[simp]
theorem wake_held (pc : DisplayPc) : (wake pc).held = pc.held := by
  cases pc <;> rfl

theorem wake_leaving_iff (pc : DisplayPc) : (wake pc).Leaving ↔ pc.Leaving := by
  cases pc <;> simp [wake, DisplayPc.Leaving]

/-- Waking the display thread does not change what is outstanding. -/
theorem outstanding_wake {s t : State} {p : Post} (h : t.Outstanding p)
    (hpc : t.displayPc = wake s.displayPc) (hpending : t.pending = s.pending) :
    s.Outstanding p := by
  unfold State.Outstanding at *
  rwa [hpc, hpending, wake_held, wake_leaving_iff] at h

/-- Waking the display thread does not touch what it has read. -/
theorem readInv_wake {s t : State} (hs : s.ReadInv) (hpc : t.displayPc = wake s.displayPc)
    (hw : t.srcW = s.srcW) (hh : t.srcH = s.srcH) : t.ReadInv := by
  unfold State.ReadInv at *
  rw [hpc, hw, hh]
  cases hdisplay : s.displayPc <;> simp_all [wake]

/-! ## Steps of the frame thread -/

/-- Releasing one slot: its framebuffer was not outstanding, so the outstanding
posts name other slots of the map and stay live. -/
theorem FbInv.release {s : State} (hs : FbInv s) {f : MppFrame} {i : Nat}
    (hpc : s.framePc = .release f i) (hi : i < decoderMaxFrames)
    (hok : RemovesUnused s (.frame .go)) :
    FbInv { s.releaseSlot i with framePc := .release f (i + 1) } := by
  have hunused := hok f i hpc hi rfl
  have hlength : i < s.frameMap.length := hs.size ▸ hi
  refine ⟨by simpa [State.releaseSlot] using hs.size, ?_, ?_, ?_, fun h => h.elim, hs.read⟩
  · intro hgroup slot hslot
    rcases List.mem_or_eq_of_mem_set hslot with hold | hnew
    · exact hs.noGroup hgroup slot hold
    · rw [hnew]
      rfl
  · have hmap := hs.map
    unfold State.MapInv at *
    rw [hpc] at hmap
    intro j hj
    change ((s.frameMap.set i releasedSlot).getD j {}).fbId = 0
    by_cases hij : j = i
    · subst hij
      simp [hlength, releasedSlot]
    · have hbefore := hmap j (by omega)
      rw [List.getD_eq_getElem?_getD] at *
      rw [List.getElem?_set_ne (Ne.symm hij)]
      exact hbefore
  · intro p hout
    have hlive := hs.outstanding p hout
    have hne : p.fb ≠ (s.frameMap.getD i {}).fbId := by
      by_cases hslot : (s.frameMap.getD i {}).fbId = 0
      · rw [hslot]
        exact hlive.fb_ne
      · exact hunused hslot p hout
    obtain ⟨slot, hslot, hfb⟩ := hlive.inMap
    refine ⟨⟨slot, mem_set_released hslot (hfb ▸ hne), hfb⟩, ?_, hlive.fb_ne, hlive.srcW_ne,
      hlive.srcH_ne⟩
    simp only [State.releaseSlot]
    split
    · exact hlive.live.remove hne
    · exact hlive.live

/-- Posting a slot: the frame map is live, and so is what is posted from it. -/
theorem FbInv.post {s : State} (hs : FbInv s) {f : MppFrame} {i : Nat}
    (hpc : s.framePc = .post f i) :
    FbInv { s.postSlot f i with framePc := .eosTest f } := by
  have hslots : s.SlotsLive s.srcW s.srcH := by
    have hmap := hs.map
    unfold State.MapInv at hmap
    rwa [hpc] at hmap
  refine ⟨hs.size, hs.noGroup, hslots, ?_, fun h => h.elim, readInv_wake hs.read rfl rfl rfl⟩
  intro p hout
  rcases hout with hheld | ⟨rfl, hne, -⟩
  · have hlive := hs.outstanding p (.inl ((wake_held _).symm.trans hheld))
    exact ⟨hlive.inMap, hlive.live, hlive.fb_ne, hlive.srcW_ne, hlive.srcH_ne⟩
  · have hmem := getD_mem hne
    obtain ⟨fb, hfb, hwidth, hheight, hw, hh⟩ := hslots _ hmem hne
    have hserial : fb.serial = (s.postSlot f i).pending.serial := by
      simp only [State.postSlot, hfb]
      rfl
    exact ⟨⟨_, hmem, rfl⟩, ⟨fb, hfb, hserial, hwidth, hheight⟩, hne, hw, hh⟩

/-- Allocating a slot: no post is outstanding, and the map stays live. -/
theorem FbInv.alloc {s : State} (hs : FbInv s) {f : MppFrame} {i : Nat} {r : SlotResult}
    (hpc : s.framePc = .alloc f i) (hgroup : s.frmGrp = true)
    (hslots : s.SlotsLive f.width f.height) (hr : r.possible f s.fbs = true) :
    FbInv { s.addFb f r with
      frameMap := s.frameMap.set i r.slot, framePc := .alloc f (i + 1) } := by
  obtain ⟨fbs, serial, hadd⟩ := addFb_eq s f r
  have hpending : (s.addFb f r).pending = s.pending := by rw [hadd]
  have hdisplay : (s.addFb f r).displayPc = s.displayPc := by rw [hadd]
  have hkept : (s.addFb f r).frmGrp = true := by rw [hadd, hgroup]
  have hsize : (s.frameMap.set i r.slot).length = decoderMaxFrames := by
    rw [List.length_set, hs.size]
  refine .of_idle (hs.idle (hpc ▸ trivial)) hpending hdisplay hsize ?_
    ⟨hkept, slotsLive_alloc hslots hr⟩
  intro hfalse
  exact absurd (hkept.symm.trans hfalse) (by simp)

/-- The control points `frame_thread_func` goes to with a frame. -/
theorem dispatch_cases (s : State) (f : MppFrame) :
    s.dispatch f = .setup f ∨ s.dispatch f = .eosTest f ∨ ∃ i, s.dispatch f = .post f i := by
  unfold State.dispatch
  split
  · exact .inl rfl
  · split
    · exact .inr (.inl rfl)
    · split
      · exact .inr (.inl rfl)
      · exact .inr (.inr ⟨_, rfl⟩)

/-- A frame from `decode_get_frame` finds a live frame map. -/
theorem FbInv.dispatch {s : State} (hs : FbInv s) (hslots : s.SlotsLive s.srcW s.srcH)
    (f : MppFrame) : FbInv { s with framePc := s.dispatch f } := by
  rcases dispatch_cases s f with hpc | hpc | ⟨i, hpc⟩ <;> rw [hpc]
  all_goals exact hs.move hslots fun h => h.elim

/-- After the last slot of `release_frame_group` no slot has a framebuffer. -/
theorem FbInv.released {s : State} (hs : FbInv s) {f : MppFrame} {i : Nat}
    (hpc : s.framePc = .release f i) (hi : ¬ i < decoderMaxFrames) : s.Released := by
  have hmap := hs.map
  unfold State.MapInv at hmap
  rw [hpc] at hmap
  intro slot hslot
  obtain ⟨j, hj, rfl⟩ := List.mem_iff_getElem.mp hslot
  have hsize := hs.size
  have hfb := hmap j (by omega)
  simpa [hj] using hfb

/-- Every step of the frame thread that removes no used framebuffer keeps the
invariant. -/
theorem FbInv.frameNext {s t : State} {c : FrameChoice} (hs : FbInv s)
    (hok : RemovesUnused s (.frame c)) (h : frameNext s c = some t) : FbInv t := by
  have hmap := hs.map
  have hidle := hs.idle
  unfold State.MapInv at hmap
  cases hpc : s.framePc with
  | absent | exited => cases c <;> simp [Decoder.frameNext, hpc] at h
  | check =>
      cases c <;> simp only [Decoder.frameNext, hpc, Option.some.injEq, reduceCtorEq] at h hmap
      subst h
      split
      · exact hs.move hmap fun h => h.elim
      · exact hs.move hmap fun h => h.elim
  | getFrame =>
      cases c <;> simp only [Decoder.frameNext, hpc, Option.some.injEq, reduceCtorEq] at h hmap
      · subst h
        exact hs.move hmap fun h => h.elim
      · subst h
        exact hs.dispatch hmap _
  | setup f =>
      cases c <;> simp only [Decoder.frameNext, hpc, reduceCtorEq] at h hmap
      split at h
      · cases h
        exact hs.move hmap fun h => h.elim
      · cases h
        split
        · exact hs.move (fun j hj => absurd hj (Nat.not_lt_zero j)) fun h => h.elim
        · rename_i hgroup
          have hreleased := hs.noGroup (by simpa using hgroup)
          exact hs.move hreleased fun _ => hs.idle_of_released hreleased
  | release f i =>
      cases c <;> simp only [Decoder.frameNext, hpc, reduceCtorEq] at h
      split at h
      · rename_i hi
        cases h
        exact hs.release hpc hi hok
      · rename_i hi
        cases h
        have hreleased := hs.released hpc hi
        exact .of_idle (hs.idle_of_released hreleased) rfl rfl hs.size (fun _ => hreleased)
          hreleased
  | eosTest f =>
      cases c <;> simp only [Decoder.frameNext, hpc, reduceCtorEq] at h hmap
      split at h
      · cases h
        exact hs.move hmap fun h => h.elim
      · cases h
        exact hs.move hmap fun h => h.elim
  | post f i =>
      cases c <;> simp only [Decoder.frameNext, hpc, Option.some.injEq, reduceCtorEq] at h
      subst h
      exact hs.post hpc
  | finish =>
      cases c <;> simp only [Decoder.frameNext, hpc, Option.some.injEq, reduceCtorEq] at h hmap
      subst h
      refine ⟨hs.size, hs.noGroup, hmap, ?_, fun h => h.elim, readInv_wake hs.read rfl rfl rfl⟩
      intro p hout
      have hlive := hs.outstanding p (outstanding_wake hout rfl rfl)
      exact ⟨hlive.inMap, hlive.live, hlive.fb_ne, hlive.srcW_ne, hlive.srcH_ne⟩
  -- From here to the end of `setup_external_buffers` no post is outstanding.
  | clearSrcW f | clearSrcH f =>
      cases c <;> simp only [Decoder.frameNext, hpc, Option.some.injEq, reduceCtorEq] at h hmap
      subst h
      exact .of_idle (hidle (hpc ▸ trivial)) rfl rfl hs.size hs.noGroup hmap
  | groupGet f =>
      cases c <;> simp only [Decoder.frameNext, hpc, Option.some.injEq, reduceCtorEq] at h hmap
      · subst h
        exact .of_idle (hidle (hpc ▸ trivial)) rfl rfl List.length_replicate
          (fun hgroup => by simp at hgroup)
          ⟨rfl, State.Released.slotsLive (fun _ hslot => resetFrameMap_fbId hslot) _ _⟩
      · subst h
        exact hs.move (State.Released.slotsLive hmap _ _) fun h => h.elim
  | alloc f i =>
      cases c <;> simp only [Decoder.frameNext, hpc, reduceCtorEq] at h hmap
      · split at h
        · contradiction
        · cases h
          exact hs.move hmap.2 fun _ => hidle (hpc ▸ trivial)
      · rename_i r
        split at h
        · rename_i hslot
          rw [Bool.and_eq_true] at hslot
          cases h
          exact hs.alloc hpc hmap.1 hmap.2 hslot.2
        · contradiction
  | setSrcW f =>
      cases c <;> simp only [Decoder.frameNext, hpc, Option.some.injEq, reduceCtorEq] at h hmap
      subst h
      exact .of_idle (hidle (hpc ▸ trivial)) rfl rfl hs.size hs.noGroup ⟨hmap, rfl⟩
  | setSrcH f =>
      cases c <;> simp only [Decoder.frameNext, hpc, Option.some.injEq, reduceCtorEq] at h hmap
      subst h
      exact .of_idle (hidle (hpc ▸ trivial)) rfl rfl hs.size hs.noGroup ⟨hmap.1, hmap.2, rfl⟩
  | commitSrcW f =>
      cases c <;> simp only [Decoder.frameNext, hpc, Option.some.injEq, reduceCtorEq] at h hmap
      all_goals obtain ⟨hslots, hw, hh⟩ := hmap
      · subst h
        refine .of_idle (hidle (hpc ▸ trivial)) rfl rfl hs.size hs.noGroup ⟨hslots, ?_, hh⟩
        simp [hw]
      · subst h
        refine hs.move ?_ fun h => h.elim
        rw [← hw, ← hh] at hslots
        exact hslots
  | commitSrcH f =>
      cases c <;> simp only [Decoder.frameNext, hpc, Option.some.injEq, reduceCtorEq] at h hmap
      obtain ⟨hslots, hw, hh⟩ := hmap
      subst h
      refine .of_idle (hidle (hpc ▸ trivial)) rfl rfl hs.size hs.noGroup ⟨hslots, hw, ?_⟩
      simp [hh]
  | commitFlip f =>
      cases c <;> simp only [Decoder.frameNext, hpc, Option.some.injEq, reduceCtorEq] at h hmap
      obtain ⟨hslots, hw, hh⟩ := hmap
      subst h
      refine hs.move ?_ fun h => h.elim
      rw [← hw, ← hh] at hslots
      exact hslots

/-! ## Steps of the display thread -/

/-- A step that makes no new post outstanding keeps the invariant if the source
size it has read so far is the remembered one. -/
theorem FbInv.display {s : State} (hs : FbInv s) {pc : DisplayPc} {pending : Post}
    {commits : List Post}
    (hout : ∀ p, State.Outstanding
      { s with pending := pending, displayPc := pc, commits := commits } p → s.Outstanding p)
    (hread : State.ReadInv
      { s with pending := pending, displayPc := pc, commits := commits }) :
    FbInv { s with pending := pending, displayPc := pc, commits := commits } where
  size := hs.size
  noGroup := hs.noGroup
  map := hs.map
  outstanding p h :=
    have hlive := hs.outstanding p (hout p h)
    ⟨hlive.inMap, hlive.live, hlive.fb_ne, hlive.srcW_ne, hlive.srcH_ne⟩
  idle hpc p h := hs.idle hpc p (hout p h)
  read := hread

/-- Entering the display loop keeps the invariant. -/
theorem FbInv.displayEnter {s : State} (hs : FbInv s) (hstays : ¬ s.displayPc.Leaving) :
    FbInv s.displayEnter := by
  rcases displayEnter_cases s with ⟨-, hempty, ht⟩ | ⟨hfull, ht⟩ | ⟨-, hempty, ht⟩
  · rw [ht]
    refine hs.display ?_ trivial
    rintro p (hheld | ⟨rfl, hne, -⟩)
    · simp [DisplayPc.held] at hheld
    · exact absurd hempty hne
  · rw [ht]
    refine hs.display ?_ trivial
    rintro p (hheld | ⟨rfl, hne, -⟩)
    · simp only [DisplayPc.held, Option.some.injEq] at hheld
      subst hheld
      exact .inr ⟨rfl, hfull, hstays⟩
    · exact absurd rfl hne
  · rw [ht]
    refine hs.display ?_ trivial
    rintro p (hheld | ⟨rfl, hne, -⟩)
    · simp [DisplayPc.held] at hheld
    · exact absurd hempty hne

/-- Returning from `commit_plane` gives up the post in hand. -/
theorem FbInv.afterCommit {s : State} (hs : FbInv s) {still : Bool}
    (hleaving : s.displayPc.Leaving → still = false) :
    FbInv { s with displayPc := afterCommit still } := by
  refine hs.display ?_ ?_
  · rintro p (hheld | ⟨hpending, hne, hstays⟩)
    · cases still <;> simp [Decoder.afterCommit, DisplayPc.held] at hheld
    · refine .inr ⟨hpending, hne, fun h => hstays ?_⟩
      simp [hleaving h, Decoder.afterCommit, DisplayPc.Leaving]
  · cases still <;> trivial

/-- `commit_plane` with no source size uses the remembered one. -/
theorem commitSrc_zero {remembered mode : Nat} (h : remembered ≠ 0) :
    commitSrc 0 remembered mode = remembered := by
  simp [commitSrc, h]

/-- Every step of the display thread keeps the invariant. -/
theorem FbInv.displayNext {s t : State} {c : DisplayChoice} (hs : FbInv s)
    (h : displayNext s c = some t) : FbInv t := by
  have hread := hs.read
  unfold State.ReadInv at hread
  cases hpc : s.displayPc with
  | absent | exited => cases c <;> simp [Decoder.displayNext, hpc] at h
  | lock =>
      cases c <;> simp only [Decoder.displayNext, hpc, Option.some.injEq, reduceCtorEq] at h
      exact h ▸ hs.displayEnter (by simp [hpc, DisplayPc.Leaving])
  | waiting woken =>
      have hstays : ¬ s.displayPc.Leaving := by simp [hpc, DisplayPc.Leaving]
      cases c <;> simp only [Decoder.displayNext, hpc, Option.some.injEq, reduceCtorEq] at h
      · split at h
        · cases h
          exact hs.displayEnter hstays
        · contradiction
      · exact h ▸ hs.displayEnter hstays
  | srcW p still =>
      have hlive := hs.outstanding p (.inl (by simp [hpc, DisplayPc.held]))
      cases c <;> simp only [Decoder.displayNext, hpc, Option.some.injEq, reduceCtorEq] at h
      · subst h
        refine hs.display ?_ (commitSrc_zero hlive.srcW_ne)
        intro q hout
        simpa [State.Outstanding, hpc, DisplayPc.held, DisplayPc.Leaving] using hout
      · subst h
        exact hs.afterCommit (by simp [hpc, DisplayPc.Leaving])
  | srcH p still w =>
      have hlive := hs.outstanding p (.inl (by simp [hpc, DisplayPc.held]))
      cases c <;> simp only [Decoder.displayNext, hpc, Option.some.injEq, reduceCtorEq] at h hread
      subst h
      refine hs.display ?_ ⟨hread, commitSrc_zero hlive.srcH_ne⟩
      intro q hout
      simpa [State.Outstanding, hpc, DisplayPc.held, DisplayPc.Leaving] using hout
  | flip p still w height =>
      cases c <;> simp only [Decoder.displayNext, hpc, Option.some.injEq, reduceCtorEq] at h
      subst h
      exact hs.afterCommit (by simp [hpc, DisplayPc.Leaving])

/-! ## Runs -/

/-- The invariant holds at the start. -/
theorem fbInv_start (modeW modeH : Nat) : FbInv (start modeW modeH) where
  size := List.length_replicate
  noGroup _ _ hslot := resetFrameMap_fbId hslot
  map := State.Released.slotsLive (fun _ hslot => resetFrameMap_fbId hslot) _ _
  outstanding p h := by
    rcases h with hheld | ⟨rfl, hne, -⟩
    · simp [start, DisplayPc.held] at hheld
    · exact absurd rfl hne
  idle h := h.elim
  read := trivial

/-- A step that removes no framebuffer in use keeps it. -/
theorem FbInv.next {s t : State} {a : Act} (hs : FbInv s) (hok : RemovesUnused s a)
    (h : next s a = some t) : FbInv t := by
  cases a with
  | frame c => exact hs.frameNext hok h
  | display c => exact hs.displayNext h
  | stop =>
      simp only [Decoder.next, Option.some.injEq] at h
      subst h
      refine ⟨hs.size, hs.noGroup, hs.map, ?_, ?_, readInv_wake hs.read rfl rfl rfl⟩
      · intro p hout
        have hlive := hs.outstanding p (outstanding_wake hout rfl rfl)
        exact ⟨hlive.inMap, hlive.live, hlive.fb_ne, hlive.srcW_ne, hlive.srcH_ne⟩
      · intro hpc p hout
        exact hs.idle hpc p (outstanding_wake hout rfl rfl)

/-- The invariant holds in every run that removes no framebuffer in use. -/
theorem fbInv {s : State} (h : decoder.ReachableUnder RemovesUnused s) : FbInv s := by
  refine h.invariant FbInv ?_ ?_
  · rintro s ⟨modeW, modeH, rfl⟩
    exact fbInv_start modeW modeH
  · intro s t a hs hok hnext
    exact hs.next hok hnext

/-- Under the invariant a commit is safe. -/
theorem FbInv.commitSafe {s : State} (hs : FbInv s) : s.CommitSafe := by
  intro p still w height hpc
  have hlive := hs.outstanding p (.inl (by simp [hpc, DisplayPc.held]))
  have hread := hs.read
  unfold State.ReadInv at hread
  rw [hpc] at hread
  obtain ⟨rfl, rfl⟩ := hread
  exact hlive.live

/-! ## A used framebuffer that is removed -/

/-- Some continuation of the run reaches an unsafe commit. -/
def State.Doomed (s : State) : Prop :=
  ∃ as t, decoder.exec s as = some t ∧ ¬ t.CommitSafe

/-- One step of the display thread on the way to an unsafe commit. -/
theorem doomed_of_display {s t : State} (c : DisplayChoice) (h : displayNext s c = some t)
    (ht : t.Doomed) : s.Doomed := by
  obtain ⟨as, u, hexec, hunsafe⟩ := ht
  have hnext : decoder.next s (.display c) = some t := h
  exact ⟨.display c :: as, u, (System.exec_cons_of_next hnext).trans hexec, hunsafe⟩

/-- A post in the display thread's hands whose framebuffer is gone is committed
all the same. -/
theorem held_gone_doomed {s : State} {p : Post} (hheld : s.displayPc.held = some p)
    (hgone : lookupFb s.fbs p.fb = none) : s.Doomed := by
  have hflip : ∀ still w h, State.Doomed { s with displayPc := .flip p still w h } := by
    intro still w h
    refine ⟨[], _, rfl, fun hsafe => ?_⟩
    obtain ⟨fb, hfb, -⟩ := hsafe p still w h rfl
    simp [hgone] at hfb
  have hsrcH : ∀ still w, State.Doomed { s with displayPc := .srcH p still w } :=
    fun still w => doomed_of_display .go rfl (hflip still w _)
  cases hpc : s.displayPc with
  | srcW q still =>
      obtain rfl : q = p := by simpa [hpc, DisplayPc.held] using hheld
      refine doomed_of_display .go ?_ (hsrcH still (commitSrc 0 s.srcW s.modeW))
      simp [displayNext, hpc]
  | srcH q still w =>
      obtain rfl : q = p := by simpa [hpc, DisplayPc.held] using hheld
      simpa [← hpc] using hsrcH still w
  | flip q still w height =>
      obtain rfl : q = p := by simpa [hpc, DisplayPc.held] using hheld
      simpa [← hpc] using hflip still w height
  | absent | lock | waiting | exited => simp [hpc, DisplayPc.held] at hheld

/-- A display thread in its critical section takes what is in the mailbox. -/
theorem pending_gone_doomed {s : State} (hne : s.pending.fb ≠ 0)
    (hgone : lookupFb s.fbs s.pending.fb = none) : s.displayEnter.Doomed := by
  rcases displayEnter_cases s with ⟨-, hempty, -⟩ | ⟨-, henter⟩ | ⟨-, hempty, -⟩
  · exact absurd hempty hne
  · rw [henter]
    exact held_gone_doomed rfl hgone
  · exact absurd hempty hne

/-- An outstanding post whose framebuffer is gone is committed in some
continuation of the run. -/
theorem outstanding_gone_doomed {s : State} {p : Post} (hout : s.Outstanding p)
    (hgone : lookupFb s.fbs p.fb = none) : s.Doomed := by
  rcases hout with hheld | ⟨rfl, hne, hstays⟩
  · exact held_gone_doomed hheld hgone
  · have hlock : State.Doomed { s with displayPc := .lock } :=
      doomed_of_display .go rfl (pending_gone_doomed hne hgone)
    have hflip : ∀ q w h, State.Doomed { s with displayPc := .flip q true w h } :=
      fun q w h => doomed_of_display .go rfl hlock
    cases hpc : s.displayPc with
    | absent | exited => simp [hpc, DisplayPc.Leaving] at hstays
    | lock => simpa [← hpc] using hlock
    | waiting woken =>
        refine doomed_of_display .spurious ?_ (pending_gone_doomed hne hgone)
        simp [displayNext, hpc]
    -- The commit of an earlier post comes first.
    | srcW q still =>
        have hstill : still = true := by simpa [hpc, DisplayPc.Leaving] using hstays
        refine doomed_of_display .fail ?_ hlock
        simp [displayNext, hpc, hstill, afterCommit]
    | srcH q still w =>
        have hstill : still = true := by simpa [hpc, DisplayPc.Leaving] using hstays
        refine doomed_of_display .go ?_ (hflip q w (commitSrc 0 s.srcH s.modeH))
        simp [displayNext, hpc, hstill]
    | flip q still w height =>
        have hstill : still = true := by simpa [hpc, DisplayPc.Leaving] using hstays
        simpa [← hpc, ← hstill] using hflip q w height

/-- Removing a framebuffer of an outstanding post dooms the run. -/
theorem used_removal_doomed {s t : State} {a : Act} (hnext : next s a = some t)
    (hbad : ¬ RemovesUnused s a) : t.Doomed := by
  unfold RemovesUnused at hbad
  push Not at hbad
  obtain ⟨f, i, hpc, hi, rfl, hslot, p, hout, hfb⟩ := hbad
  simp only [next, frameNext, hpc, hi, if_true, Option.some.injEq] at hnext
  subst hnext
  refine outstanding_gone_doomed (p := p) hout ?_
  simp only [State.releaseSlot, hslot, if_true, ne_eq, not_false_eq_true]
  rw [hfb]
  exact lookupFb_filter_self _ _

/-! ## The stale commit -/

/-- From the start of a run: an info-change frame whose first buffer becomes
framebuffer 31, and one decoded frame in that buffer. -/
def firstFrame : List Act :=
  [.frame .go, .frame (.frame { infoChange := true, width := 1920, height := 1080 }),
    .frame .go, .frame .go, .frame (.slot (.added 1 7 31))] ++
  List.replicate 23 (.frame (.slot .createFailed)) ++
  List.replicate 8 (.frame .go) ++
  [.frame (.frame { bufferFd := some 7 }), .frame .go]

/-- A second info-change frame, up to the release of slot 0. -/
def secondInfoChange : List Act :=
  firstFrame ++
  [.frame .go, .frame .go,
    .frame (.frame { infoChange := true, width := 1280, height := 720 }), .frame .go]

/-- Framebuffer 31 is removed while it waits in the mailbox; then the display
thread takes it. -/
def staleSchedule : List Act :=
  secondInfoChange ++ [.frame .go, .display .go, .display .go, .display .go]

/-- A reachable state in which the display thread is about to commit a
framebuffer that was removed. -/
theorem stale_commit : ∃ s, decoder.Reachable s ∧ ¬ s.CommitSafe := by
  have hrun : (decoder.exec (start 1920 1080) staleSchedule).map
      (fun s => (s.displayPc, s.fbs)) =
      some (.flip { fb := 31 } true 1920 1080, []) := by
    rfl
  rw [Option.map_eq_some_iff] at hrun
  obtain ⟨s, hexec, hstate⟩ := hrun
  obtain ⟨hpc, hfbs⟩ := Prod.mk.inj hstate
  refine ⟨s, System.reachable_of_exec ⟨_, _, rfl⟩ hexec, fun hsafe => ?_⟩
  obtain ⟨fb, hfb, -⟩ := hsafe _ _ _ _ hpc
  simp [hfbs, lookupFb] at hfb

/-! ## Commits and removals -/

/-- Commits are safe in every run in which each removed framebuffer is unused;
and where a removed framebuffer is used, the run can go on to an unsafe commit. -/
theorem commits_live_framebuffers (s : State) :
    (decoder.ReachableUnder RemovesUnused s → s.CommitSafe) ∧
      (∀ t a, decoder.next s a = some t → ¬ RemovesUnused s a →
        ∃ as u, decoder.exec t as = some u ∧ ¬ u.CommitSafe) :=
  ⟨fun h => (fbInv h).commitSafe, fun _ _ hnext hbad => used_removal_doomed hnext hbad⟩

/-- The safe run is the one up to the first commit, the doomed one goes on to the
second info-change frame while the first post waits. -/
theorem commits_live_framebuffers_stream :
    (∃ s : State, s.displayPc = .flip { fb := 31 } true 1920 1080 ∧ s.CommitSafe) ∧
      (∃ s t : State, decoder.exec (start 1920 1080) secondInfoChange = some s ∧
        decoder.next s (.frame .go) = some t ∧
        ∃ as u, decoder.exec t as = some u ∧ ¬ u.CommitSafe) := by
  constructor
  · have hrun : (decoder.execChecked
        (fun s _ => match s.framePc with | .release _ _ => false | _ => true)
        (start 1920 1080) (firstFrame ++ List.replicate 3 (.display .go))).map
          State.displayPc = some (.flip { fb := 31 } true 1920 1080) := by
      rfl
    rw [Option.map_eq_some_iff] at hrun
    obtain ⟨s, hexec, hpc⟩ := hrun
    have hreach : decoder.ReachableUnder RemovesUnused s := by
      refine .execChecked ?_ (.init ⟨1920, 1080, rfl⟩) hexec
      intro s a hcheck f i hrelease
      simp [hrelease] at hcheck
    exact ⟨s, hpc, (commits_live_framebuffers s).1 hreach⟩
  · have hrun : (decoder.exec (start 1920 1080) secondInfoChange).map
        (fun s => (s.framePc, (s.frameMap.getD 0 {}).fbId, s.pending, s.displayPc)) =
        some (.release { infoChange := true, width := 1280, height := 720 } 0, 31,
          { fb := 31 }, .lock) := by
      rfl
    rw [Option.map_eq_some_iff] at hrun
    obtain ⟨s, hexec, hstate⟩ := hrun
    simp only [Prod.mk.injEq] at hstate
    obtain ⟨hpc, hslot, hpending, hdisplay⟩ := hstate
    obtain ⟨t, hnext⟩ : ∃ t, decoder.next s (.frame .go) = some t := by
      simp [decoder, next, frameNext, hpc, decoderMaxFrames]
    refine ⟨s, t, hexec, hnext, (commits_live_framebuffers s).2 t _ hnext ?_⟩
    intro hunused
    have hpost : s.Outstanding { fb := 31 } :=
      .inr ⟨hpending, by simp, by simp [hdisplay, DisplayPc.Leaving]⟩
    have hne : (s.frameMap.getD 0 {}).fbId ≠ 0 := by
      rw [hslot]
      decide
    exact hunused _ 0 hpc (by decide) rfl hne _ hpost hslot.symm

end Decoder
end PixelPilot
