import PixelPilot.Minimp4.Waiting

/-!
# What the muxer writes over

The muxer writes at its write position and moves on when the write succeeded.  Only the header
of `mdat` in a standard file lies in front of that position: `mp4e_flush_index` writes it when the
file is closed.

Main results:

- Definition `Appends`: what stands in front of the write position has stayed there.
- Theorem `mp4H26xWriteNal_appends`: writing an access unit does not write over earlier data,
  whichever write or allocation fails.
- Theorem `mp4eClose_appends`: closing writes over the header only.
-/

namespace PixelPilot
namespace Minimp4

open Fallible Fallible.Discipline

variable {τ : Type} {writeCallback : Nat → Bytes → τ → Int × τ} {content : τ → Bytes}
variable {hole : Nat → Prop}

/-- A call of the callback changes no byte outside of the range it is asked to write, whether it
succeeds or not. -/
def WritesInside (writeCallback : Nat → Bytes → τ → Int × τ) (content : τ → Bytes) : Prop :=
  ∀ (offset : Nat) (buffer : Bytes) (token : τ) (i : Nat) (byte : UInt8),
    i < offset ∨ offset + buffer.length ≤ i → (content token)[i]? = some byte →
    (content (writeCallback offset buffer token).2)[i]? = some byte

/-- The muxer has stayed in its mode, its write position has not moved back, and the bytes in
front of it have stayed, those in the hole excepted. -/
structure Appends (hole : Nat → Prop) (content : τ → Bytes) (s t : Muxing τ) : Prop where
  sequentialModeFlag : t.mux.sequentialModeFlag = s.mux.sequentialModeFlag
  enableFragmentation : t.mux.enableFragmentation = s.mux.enableFragmentation
  writePos : s.mux.writePos ≤ t.mux.writePos
  kept : ∀ i byte, i < s.mux.writePos → ¬ hole i → (content s.token)[i]? = some byte →
    (content t.token)[i]? = some byte

theorem Appends.refl (s : Muxing τ) : Appends hole content s s :=
  ⟨rfl, rfl, Nat.le_refl _, fun _ _ _ _ h => h⟩

theorem Appends.trans {s t u : Muxing τ} (h : Appends hole content s t)
    (h' : Appends hole content t u) : Appends hole content s u where
  sequentialModeFlag := h'.sequentialModeFlag.trans h.sequentialModeFlag
  enableFragmentation := h'.enableFragmentation.trans h.enableFragmentation
  writePos := Nat.le_trans h.writePos h'.writePos
  kept i byte hi hout hbyte :=
    h'.kept i byte (Nat.lt_of_lt_of_le hi h.writePos) hout (h.kept i byte hi hout hbyte)

/-- Neither the token nor what the relation reads of the muxer has changed. -/
theorem Appends.of_eq {s t : Muxing τ} (htoken : t.token = s.token)
    (hsequential : t.mux.sequentialModeFlag = s.mux.sequentialModeFlag)
    (hfragmented : t.mux.enableFragmentation = s.mux.enableFragmentation)
    (hpos : s.mux.writePos ≤ t.mux.writePos) : Appends hole content s t where
  sequentialModeFlag := hsequential
  enableFragmentation := hfragmented
  writePos := hpos
  kept i byte _ _ hbyte := by rwa [htoken]

/-- Runs that do not write over earlier data, completed or failed. -/
def appending (hole : Nat → Prop) (content : τ → Bytes) : Discipline Int (Muxing τ) where
  done := Appends hole content
  fails _ := Appends hole content
  refl := Appends.refl
  trans := Appends.trans
  after := Appends.trans

/-! ## Steps that do not write -/

/-- A change that leaves stream and modes alone only appends. -/
theorem modify_appends {f : Muxing τ → Muxing τ} (htoken : ∀ s, (f s).token = s.token)
    (hmux : ∀ s, (f s).mux.sequentialModeFlag = s.mux.sequentialModeFlag ∧
      (f s).mux.enableFragmentation = s.mux.enableFragmentation ∧
      s.mux.writePos ≤ (f s).mux.writePos) :
    (appending hole content).Follows (modify f : Mp4 τ PUnit) :=
  Follows.modify fun s => .of_eq (htoken s) (hmux s).1 (hmux s).2.1 (hmux s).2.2

/-- Changing a track. -/
theorem mapTrack_appends (trackNum : Nat) (f : Track → Track) :
    (appending hole content).Follows (modify (fun s => s.mapTrack trackNum f) : Mp4 τ PUnit) :=
  modify_appends (fun _ => rfl) fun _ => ⟨rfl, rfl, Nat.le_refl _⟩

theorem mapWriter_appends (f : H26xWriter → H26xWriter) :
    (appending hole content).Follows (modify (fun s => s.mapWriter f) : Mp4 τ PUnit) :=
  modify_appends (fun _ => rfl) fun _ => ⟨rfl, rfl, Nat.le_refl _⟩

/-- An allocation writes nothing. -/
theorem lift_appends {α : Type} (m : Alloc α) :
    (appending hole content).Follows (lift m : Mp4 τ α) :=
  fun _ => .of_eq rfl rfl rfl (Nat.le_refl _)

theorem throw_appends {α : Type} (e : Int) :
    (appending hole content).Follows (throw e : Mp4 τ α) :=
  fun s => followsFrom_throw (Appends.refl s)

/-- A descriptor writes nothing. -/
theorem addSampleDescriptor_appends (trackNum dataBytes duration : Nat) (kind : SampleKind) :
    (appending hole content).Follows
      (addSampleDescriptor trackNum dataBytes duration kind : Mp4 τ Bool) := by
  intro s
  apply followsFrom_get_bind
  refine Follows.bind (lift_appends _) ?_ s
  intro _
  apply Follows.bind (mapTrack_appends _ _)
  intro _
  exact Follows.pure _

/-- A parameter set writes nothing. -/
theorem mp4eSetParameterSet_appends (kind : ParameterSet) (trackId : Nat) (item : Bytes) :
    (appending hole content).Follows (mp4eSetParameterSet kind trackId item : Mp4 τ Int) := by
  intro s
  apply followsFrom_get_bind
  refine Follows.bind (lift_appends _) ?_ s
  intro _
  apply Follows.bind (mapTrack_appends _ _)
  intro _
  exact Follows.pure _

/-! ## Writing -/

section Callback

variable (h : WritesInside writeCallback content)
include h

/-- A write that touches nothing in front of the write position but the hole. -/
theorem callback_appends {s : Muxing τ} {offset : Nat} {buffer : Bytes}
    (hoffset : ∀ i, i < s.mux.writePos → ¬ hole i → i < offset ∨ offset + buffer.length ≤ i) :
    (appending hole content).FollowsFrom s (callback writeCallback offset buffer) := by
  have happends : Appends hole content s
      { s with token := (writeCallback offset buffer s.token).2 } :=
    ⟨rfl, rfl, Nat.le_refl _, fun i byte hi hout hbyte =>
      h offset buffer s.token i byte (hoffset i hi hout) hbyte⟩
  unfold FollowsFrom callback
  by_cases hzero : (writeCallback offset buffer s.token).1 = 0
  · simp only [hzero, if_true]
    exact happends
  · simp only [hzero, if_false]
    exact happends

/-- A write at the end of the file appends. -/
theorem writeNext_appends (buffer : Bytes) :
    (appending hole content).Follows (writeNext writeCallback buffer) := by
  intro s
  apply followsFrom_get_bind
  refine FollowsFrom.bind (callback_appends h fun i hi _ => Or.inl hi) ?_
  intro _ t _
  exact followsFrom_modify (Appends.of_eq rfl rfl rfl (Nat.le_add_right _ _))

theorem writeLast_appends (buffer : Bytes) :
    (appending hole content).Follows (writeLast writeCallback buffer) := by
  intro s
  have hwrite : (appending hole content).FollowsFrom s
      (callback writeCallback s.mux.writePos buffer) :=
    callback_appends h fun i hi _ => Or.inl hi
  have hmore : ∀ t : Muxing τ, Appends hole content t (t.advance buffer.length) :=
    fun t => .of_eq rfl rfl rfl (Nat.le_add_right _ _)
  unfold FollowsFrom writeLast
  cases hrun : callback writeCallback s.mux.writePos buffer s with
  | ok _ t => exact Appends.trans (hwrite.ok hrun) (hmore t)
  | error e t => exact Appends.trans (hwrite.error hrun) (hmore t)

/-- The sample kept back is appended. -/
theorem writePendingData_appends (trackNum : Nat) :
    (appending hole content).Follows (writePendingData writeCallback trackNum) := by
  intro s
  apply followsFrom_get_bind
  refine Follows.onlyIf ?_ s
  apply Follows.bind (writeNext_appends h _)
  intro _
  apply Follows.bind
  · exact modify_appends (fun _ => rfl) fun _ => ⟨rfl, rfl, Nat.le_refl _⟩
  intro _
  apply Follows.bind (writeNext_appends h _)
  intro _
  exact mapTrack_appends _ _

/-- The index is written at the end, and outside sequential mode the header in the hole. -/
theorem mp4eFlushIndex_appends {s : Muxing τ}
    (hhole : s.mux.sequentialModeFlag = false → ∀ i, 24 ≤ i → i < 40 → hole i) :
    (appending hole content).FollowsFrom s (mp4eFlushIndex writeCallback) := by
  have hheader : ∀ writePos, (mdatHeader writePos).length = 16 := by
    intro writePos
    unfold mdatHeader
    simp only
    split <;> rfl
  have hftyp : boxFtyp.length = 24 := rfl
  have hpending : (appending hole content).Follows
      ((List.range s.mux.tracks.length).forM (writePendingData writeCallback)) :=
    Follows.forM fun n _ => writePendingData_appends h n
  have hmalloc : (appending hole content).Follows (lift malloc : Mp4 τ Bool) :=
    lift_appends malloc
  apply followsFrom_get_bind
  refine FollowsFrom.bind (hpending s) ?_
  intro _ t hrun
  refine FollowsFrom.bind (hmalloc t) ?_
  intro base u hrun'
  have hsu : Appends hole content s u := ((hpending s).ok hrun).trans ((hmalloc t).ok hrun')
  cases base with
  | false => exact followsFrom_throw (Appends.refl u)
  | true =>
      change (appending hole content).FollowsFrom u (get >>= _)
      apply followsFrom_get_bind
      refine FollowsFrom.bind ?_ fun _ v _ => writeLast_appends h _ v
      by_cases hmode : u.mux.sequentialModeFlag = false
      · rw [onlyIf_of hmode]
        apply callback_appends h
        intro i _ hout
        rw [hheader, hftyp]
        by_contra hin
        rw [hsu.sequentialModeFlag] at hmode
        exact hout (hhole hmode i (by omega) (by omega))
      · rw [onlyIf_of_not hmode]
        exact followsFrom_pure u _

/-- The header of a fragment is appended. -/
theorem mp4eWriteFragmentHeader_appends (trackNum dataBytes duration : Nat)
    (kind : SampleKind) :
    (appending hole content).Follows
      (mp4eWriteFragmentHeader writeCallback trackNum dataBytes duration kind) := by
  intro s
  apply followsFrom_get_bind
  refine Follows.bind (writeNext_appends h _) ?_ s
  intro _
  exact modify_appends (fun _ => rfl) fun _ => ⟨rfl, rfl, Nat.le_refl _⟩

/-- A fragment, and in front of the first one the index of an empty file. -/
theorem putFragment_appends (trackNum : Nat) (data : Bytes) (duration : Nat) (kind : SampleKind)
    {s : Muxing τ} (hmode : s.mux.sequentialModeFlag = true) :
    (appending hole content).FollowsFrom s
      (putFragment writeCallback trackNum data duration kind) := by
  apply followsFrom_get_bind
  let f : Muxing τ → Muxing τ := fun s =>
    { s with mux := { s.mux with fragmentsCount := s.mux.fragmentsCount + 1 } }
  have hcount : (appending hole content).Follows (modify f : Mp4 τ PUnit) :=
    modify_appends (fun _ => rfl) fun _ => ⟨rfl, rfl, Nat.le_refl _⟩
  refine FollowsFrom.bind (hcount s) ?_
  intro _ t hrun
  have hmode' : t.mux.sequentialModeFlag = true := by
    rw [((hcount s).ok hrun).sequentialModeFlag, hmode]
  refine FollowsFrom.bind (m := onlyIf _ _) ?_ ?_
  · unfold onlyIf
    split
    · exact mp4eFlushIndex_appends h fun hfalse => by
        rw [hmode'] at hfalse
        exact Bool.noConfusion hfalse
    · exact followsFrom_pure t _
  · intro _ u _
    refine Follows.bind (mp4eWriteFragmentHeader_appends h _ _ _ _) ?_ u
    intro _
    apply Follows.bind (writeNext_appends h _)
    intro _
    exact writeNext_appends h _

/-- The data of a sample with a descriptor are appended. -/
theorem putDescriptor_appends (trackNum : Nat) (data : Bytes) (duration : Nat)
    (kind : SampleKind) :
    (appending hole content).Follows
      (putDescriptor writeCallback trackNum data duration kind) := by
  intro s
  apply followsFrom_get_bind
  refine Follows.ite ?_
    (Follows.ite (Follows.ite (throw_appends _) (mapTrack_appends _ _)) (Follows.pure _)) s
  apply Follows.bind (Follows.onlyIf (writePendingData_appends h _))
  intro _
  apply Follows.bind (addSampleDescriptor_appends _ _ _ _)
  intro _
  exact Follows.onlyIf (throw_appends _)

/-- Data kept in memory change nothing in the file. -/
theorem putData_appends (trackNum : Nat) (data : Bytes) :
    (appending hole content).Follows (putData writeCallback trackNum data) := by
  intro s
  apply followsFrom_get_bind
  refine Follows.ite ?_ (writeNext_appends h _) s
  apply Follows.bind (lift_appends _)
  intro _
  apply Follows.bind (mapTrack_appends _ _)
  intro _
  exact Follows.onlyIf (throw_appends _)

end Callback

/-- A fragmented file is a sequential one. -/
def Mux.ModesAgree (mux : Mux) : Prop :=
  mux.enableFragmentation = true → mux.sequentialModeFlag = true

/-- The modes stay. -/
theorem Appends.modesAgree {s t : Muxing τ} (h : Appends hole content s t)
    (hs : s.mux.ModesAgree) : t.mux.ModesAgree := by
  unfold Mux.ModesAgree at hs ⊢
  rwa [h.enableFragmentation, h.sequentialModeFlag]

section Callback

variable (h : WritesInside writeCallback content)
include h

/-- A sample is appended in every mode. -/
theorem mp4ePutSample_appends (trackNum : Nat) (data : Bytes) (duration : Nat)
    (kind : SampleKind) {s : Muxing τ} (hs : s.mux.ModesAgree) :
    (appending hole content).FollowsFrom s
      (mp4ePutSample writeCallback trackNum data duration kind) := by
  apply followsFrom_get_bind
  by_cases hmode : s.mux.enableFragmentation = true
  · rw [if_pos hmode]
    exact putFragment_appends h trackNum data duration kind (hs hmode)
  · rw [if_neg hmode]
    refine Follows.bind (putDescriptor_appends h _ _ _ _) ?_ s
    intro _
    exact putData_appends h _ _

/-- A sample that the writer makes is appended. -/
theorem writeSample_appends (nal : Bytes) (timeStamp90kHzNext : Nat) {s : Muxing τ}
    (hs : s.mux.ModesAgree) :
    (appending hole content).FollowsFrom s (writeSample writeCallback nal timeStamp90kHzNext) := by
  apply followsFrom_get_bind
  by_cases hlacks : s.writer.lacks
  · rw [if_pos hlacks]
    exact throw_appends _ s
  · rw [if_neg hlacks]
    have hmalloc : (appending hole content).Follows (lift malloc : Mp4 τ Bool) :=
      lift_appends malloc
    refine FollowsFrom.bind (hmalloc s) ?_
    intro tmp t hrun
    cases tmp with
    | false => exact throw_appends _ t
    | true => exact mp4ePutSample_appends h _ _ _ _ (((hmalloc s).ok hrun).modesAgree hs)

/-- What a NAL unit leads to is appended. -/
theorem mp4H265WriteNal_appends (timeStamp90kHzNext : Nat) (nal : Bytes) {s : Muxing τ}
    (hs : s.mux.ModesAgree) :
    (appending hole content).FollowsFrom s
      (mp4H265WriteNal writeCallback timeStamp90kHzNext nal) := by
  have hwriter : (appending hole content).Follows
      (modify (fun s => s.mapWriter fun h => h.sawIntra (isIntra nal)) : Mp4 τ PUnit) :=
    mapWriter_appends _
  have hparameter : ∀ (kind : ParameterSet) (trackId : Nat) (f : H26xWriter → H26xWriter),
      (appending hole content).Follows (mp4eSetParameterSet kind trackId nal >>= fun _ =>
        modify fun s => s.mapWriter f : Mp4 τ PUnit) :=
    fun kind trackId f =>
      Follows.bind (mp4eSetParameterSet_appends _ _ _) fun _ => mapWriter_appends f
  refine FollowsFrom.bind (hwriter s) ?_
  intro _ t hrun
  have ht := ((hwriter s).ok hrun).modesAgree hs
  apply followsFrom_get_bind
  split
  · exact hparameter .vps _ _ t
  · split
    · exact hparameter .sps _ _ t
    · split
      · exact hparameter .pps _ _ t
      · exact writeSample_appends h nal timeStamp90kHzNext ht

/-- Writing an access unit does not write over earlier data. -/
theorem mp4H26xWriteNal_appends (data : Bytes) (timeStamp90kHzNext : Nat) {s : Muxing τ}
    (hs : s.mux.ModesAgree) :
    (appending hole content).FollowsFrom s
      (mp4H26xWriteNal writeCallback data timeStamp90kHzNext) := by
  unfold mp4H26xWriteNal
  induction nalUnits data generalizing s with
  | nil => exact followsFrom_pure s _
  | cons nal units ih =>
      have hnal : (appending hole content).FollowsFrom s
          (mp4H265WriteNal writeCallback timeStamp90kHzNext nal) :=
        mp4H265WriteNal_appends h timeStamp90kHzNext nal hs
      change (appending hole content).FollowsFrom s
        (mp4H265WriteNal writeCallback timeStamp90kHzNext nal >>= fun _ => units.forM _)
      refine FollowsFrom.bind hnal ?_
      intro _ t hrun
      exact ih ((hnal.ok hrun).modesAgree hs)

/-- Closing the file writes over the header of `mdat` at most. -/
theorem mp4eClose_appends {s : Muxing τ}
    (hhole : s.mux.sequentialModeFlag = false → ∀ i, 24 ≤ i → i < 40 → hole i) :
    (appending hole content).FollowsFrom s (mp4eClose writeCallback) := by
  apply followsFrom_get_bind
  unfold onlyIf
  split
  · exact mp4eFlushIndex_appends h hhole
  · exact followsFrom_pure s _

end Callback

end Minimp4
end PixelPilot
