import PixelPilot.Minimp4.Mux

/-!
# What a failed write of the muxer returns

`ERR` hands the value of a failed callback up unchanged, through every chain of
calls that ends in a write.  The callback is arbitrary here: all that is known of
it is a discipline of its own, which says what its calls do to the token.

Main results:

- Definition `CallbackFollows`: a callback whose calls follow a discipline.
- Theorem `mp4ePutSample_follows`: writing a sample does to the token what the
  callback's discipline says, and fails with the value of a failed callback or
  for lack of memory.
- Theorem `mp4H26xWriteNal_follows`: writing an access unit fails with
  `MP4E_STATUS_BAD_ARGUMENTS` of its own accord only when a parameter set or the
  first IDR is missing.
-/

namespace PixelPilot
namespace Minimp4

open Fallible Fallible.Discipline

variable {τ : Type} {writeCallback : Nat → Bytes → τ → Int × τ}
variable {D : Discipline Int τ}

/-- What a call of the callback does to its token: a call that returns 0 is a
completed run of the discipline, any other call a run that fails with the value
returned. -/
def CallbackFollows (writeCallback : Nat → Bytes → τ → Int × τ) (D : Discipline Int τ) :
    Prop :=
  ∀ offset buffer t,
    ((writeCallback offset buffer t).1 = 0 → D.done t (writeCallback offset buffer t).2) ∧
    ((writeCallback offset buffer t).1 ≠ 0 →
      D.fails (writeCallback offset buffer t).1 t (writeCallback offset buffer t).2)

/-! ## The muxer below the writer -/

/-- Completed calls contain completed calls of the callback only.  A failed call
has the value of the failed callback that ended it, or lacks memory. -/
def muxErrors (D : Discipline Int τ) : Discipline Int (Muxing τ) where
  done s t := D.done s.token t.token ∧ t.writer = s.writer
  fails e s t := t.writer = s.writer ∧
    (D.fails e s.token t.token ∨ e = mp4eStatusNoMemory ∧ D.done s.token t.token)
  refl s := ⟨D.refl _, rfl⟩
  trans h h' := ⟨D.trans h.1 h'.1, h'.2.trans h.2⟩
  after h h' := by
    rcases h with ⟨hdone, hwriter⟩
    rcases h' with ⟨hwriter', hfails | ⟨hmemory, hdone'⟩⟩
    · exact ⟨hwriter'.trans hwriter, Or.inl (D.after hdone hfails)⟩
    · exact ⟨hwriter'.trans hwriter, Or.inr ⟨hmemory, D.trans hdone hdone'⟩⟩

/-- An allocation calls no callback. -/
theorem lift_follows {α : Type} (m : Alloc α) :
    (muxErrors D).Follows (lift m : Mp4 τ α) :=
  fun s => ⟨D.refl s.token, rfl⟩

/-- A change that leaves token and writer alone is no call either. -/
theorem modify_follows {f : Muxing τ → Muxing τ} (htoken : ∀ s, (f s).token = s.token)
    (hwriter : ∀ s, (f s).writer = s.writer) :
    (muxErrors D).Follows (modify f : Mp4 τ PUnit) := by
  apply Follows.modify
  intro s
  refine ⟨?_, hwriter s⟩
  rw [htoken]
  exact D.refl _

theorem throw_noMemory_follows {α : Type} :
    (muxErrors D).Follows (throw mp4eStatusNoMemory : Mp4 τ α) :=
  fun _ => followsFrom_throw ⟨rfl, Or.inr ⟨rfl, D.refl _⟩⟩

section Callback

variable (h : CallbackFollows writeCallback D)
include h

/-- A call of the callback completes or fails as it does. -/
theorem callback_follows (offset : Nat) (buffer : Bytes) :
    (muxErrors D).Follows (callback writeCallback offset buffer) := by
  intro s
  unfold FollowsFrom callback
  have hcall := h offset buffer s.token
  by_cases hzero : (writeCallback offset buffer s.token).1 = 0
  · simp only [hzero, if_true]
    exact ⟨hcall.1 hzero, rfl⟩
  · simp only [hzero, if_false]
    exact ⟨rfl, Or.inl (hcall.2 hzero)⟩

theorem writeNext_follows (buffer : Bytes) :
    (muxErrors D).Follows (writeNext writeCallback buffer) := by
  intro s
  apply followsFrom_get_bind
  refine Follows.bind (callback_follows h _ _) ?_ s
  intro _
  exact modify_follows (fun _ => rfl) (fun _ => rfl)

theorem writeLast_follows (buffer : Bytes) :
    (muxErrors D).Follows (writeLast writeCallback buffer) := by
  intro s
  have hwrite := callback_follows h s.mux.writePos buffer s
  unfold FollowsFrom writeLast
  cases hrun : callback writeCallback s.mux.writePos buffer s with
  | ok _ t =>
      have hdone := hwrite.ok hrun
      exact hdone
  | error e t =>
      have hfails := hwrite.error hrun
      exact hfails

/-- `write_pending_data` fails with one of its writes. -/
theorem writePendingData_follows (trackNum : Nat) :
    (muxErrors D).Follows (writePendingData writeCallback trackNum) := by
  intro s
  apply followsFrom_get_bind
  refine Follows.onlyIf ?_ s
  apply Follows.bind (writeNext_follows h _)
  intro _
  apply Follows.bind
  · exact modify_follows (fun _ => rfl) (fun _ => rfl)
  intro _
  apply Follows.bind (writeNext_follows h _)
  intro _
  exact modify_follows (fun _ => rfl) (fun _ => rfl)

/-- `mp4e_flush_index` fails with one of its writes, or for want of memory. -/
theorem mp4eFlushIndex_follows :
    (muxErrors D).Follows (mp4eFlushIndex writeCallback) := by
  intro s
  apply followsFrom_get_bind
  refine Follows.bind (Follows.forM fun n _ => writePendingData_follows h n) ?_ s
  intro _
  apply Follows.bind (lift_follows malloc)
  intro base
  apply Follows.ite throw_noMemory_follows
  intro t
  apply followsFrom_get_bind
  refine Follows.bind (Follows.onlyIf (callback_follows h _ _)) ?_ t
  intro _
  exact writeLast_follows h _

/-- The header of a fragment fails with its write. -/
theorem mp4eWriteFragmentHeader_follows (trackNum dataBytes duration : Nat)
    (kind : SampleKind) :
    (muxErrors D).Follows
      (mp4eWriteFragmentHeader writeCallback trackNum dataBytes duration kind) := by
  intro s
  apply followsFrom_get_bind
  refine Follows.bind (writeNext_follows h _) ?_ s
  intro _
  exact modify_follows (fun _ => rfl) (fun _ => rfl)

/-- A sample of a fragment fails with one of its writes. -/
theorem putFragment_follows (trackNum : Nat) (data : Bytes) (duration : Nat)
    (kind : SampleKind) :
    (muxErrors D).Follows
      (putFragment writeCallback trackNum data duration kind) := by
  intro s
  apply followsFrom_get_bind
  refine Follows.bind ?_ ?_ s
  · exact modify_follows (fun _ => rfl) (fun _ => rfl)
  intro _
  apply Follows.bind (Follows.onlyIf (mp4eFlushIndex_follows h))
  intro _
  apply Follows.bind (mp4eWriteFragmentHeader_follows h _ _ _ _)
  intro _
  apply Follows.bind (writeNext_follows h _)
  intro _
  exact writeNext_follows h _

omit h in
/-- The descriptor of a sample calls no callback. -/
theorem addSampleDescriptor_follows (trackNum dataBytes duration : Nat) (kind : SampleKind) :
    (muxErrors D).Follows
      (addSampleDescriptor trackNum dataBytes duration kind : Mp4 τ Bool) := by
  intro s
  apply followsFrom_get_bind
  refine Follows.bind (lift_follows _) ?_ s
  intro _
  apply Follows.bind
  · exact modify_follows (fun _ => rfl) (fun _ => rfl)
  intro _
  exact Follows.pure _

theorem putDescriptor_follows (trackNum : Nat) (data : Bytes) (duration : Nat)
    (kind : SampleKind) :
    (muxErrors D).Follows
      (putDescriptor writeCallback trackNum data duration kind) := by
  intro s
  apply followsFrom_get_bind
  refine Follows.ite ?_ (Follows.ite (Follows.ite throw_noMemory_follows ?_) (Follows.pure _)) s
  · apply Follows.bind (Follows.onlyIf (writePendingData_follows h _))
    intro _
    apply Follows.bind (addSampleDescriptor_follows _ _ _ _)
    intro _
    exact Follows.onlyIf throw_noMemory_follows
  · exact modify_follows (fun _ => rfl) (fun _ => rfl)

theorem putData_follows (trackNum : Nat) (data : Bytes) :
    (muxErrors D).Follows (putData writeCallback trackNum data) := by
  intro s
  apply followsFrom_get_bind
  refine Follows.ite ?_ (writeNext_follows h _) s
  apply Follows.bind (lift_follows _)
  intro _
  apply Follows.bind
  · exact modify_follows (fun _ => rfl) (fun _ => rfl)
  intro _
  exact Follows.onlyIf throw_noMemory_follows

/-- Writing a sample fails with the value of a failed callback or for lack of
memory. -/
theorem mp4ePutSample_follows (trackNum : Nat) (data : Bytes) (duration : Nat)
    (kind : SampleKind) :
    (muxErrors D).Follows
      (mp4ePutSample writeCallback trackNum data duration kind) := by
  intro s
  apply followsFrom_get_bind
  refine Follows.ite (putFragment_follows h _ _ _ _) ?_ s
  apply Follows.bind (putDescriptor_follows h _ _ _ _)
  intro _
  exact putData_follows h _ _

/-- `MP4E_close` fails with its flush. -/
theorem mp4eClose_follows : (muxErrors D).Follows (mp4eClose writeCallback) := by
  intro s
  apply followsFrom_get_bind
  exact Follows.onlyIf (mp4eFlushIndex_follows h) s

/-- Opening a muxer does to the token what the callback's discipline says, and
completes if it returns a muxer. -/
theorem mp4eOpen_follows (sequentialModeFlag enableFragmentation : Bool) (token : τ)
    (allocs : List Bool) :
    D.done token (mp4eOpen writeCallback sequentialModeFlag enableFragmentation
        token allocs).2.1 ∨
      ∃ e, D.fails e token (mp4eOpen writeCallback sequentialModeFlag enableFragmentation
        token allocs).2.1 := by
  have hftyp := h 0 boxFtyp token
  have hfiller := h boxFtyp.length (boxFtyp.take 8) (writeCallback 0 boxFtyp token).2
  unfold mp4eOpen
  by_cases hzero : (writeCallback 0 boxFtyp token).1 = 0
  · simp only [hzero, ne_eq, not_true_eq_false, if_false]
    split
    · exact Or.inl (hftyp.1 hzero)
    · split
      · split
        · rename_i hne
          exact Or.inr ⟨_, D.after (hftyp.1 hzero) (hfiller.2 hne)⟩
        · rename_i heq
          exact Or.inl (D.trans (hftyp.1 hzero) (hfiller.1 (not_not.mp heq)))
      · exact Or.inl (hftyp.1 hzero)
  · simp only [hzero, ne_eq, not_false_eq_true, if_true]
    exact Or.inr ⟨_, hftyp.2 hzero⟩

end Callback

/-! ## The writer -/

/-- As `muxErrors`, and a writer that lacks a parameter set or the first IDR may
refuse a unit with `MP4E_STATUS_BAD_ARGUMENTS`. -/
def writerErrors (D : Discipline Int τ) : Discipline Int (Muxing τ) where
  done s t := D.done s.token t.token
  fails e s t :=
    D.fails e s.token t.token ∧ t.writer.lacks = false ∨
      e = mp4eStatusNoMemory ∧ D.done s.token t.token ∨
      e = mp4eStatusBadArguments ∧ D.done s.token t.token ∧ t.writer.lacks = true
  refl s := D.refl _
  trans h h' := D.trans h h'
  after h h' := by
    rcases h' with ⟨hfails, hlacks⟩ | ⟨hmemory, hdone⟩ | ⟨hbad, hdone, hlacks⟩
    · exact Or.inl ⟨D.after h hfails, hlacks⟩
    · exact Or.inr (Or.inl ⟨hmemory, D.trans h hdone⟩)
    · exact Or.inr (Or.inr ⟨hbad, D.trans h hdone, hlacks⟩)

/-- Below a writer that has everything it needs, the muxer's errors are the
writer's. -/
theorem writerErrors_of_muxErrors {α : Type} {s : Muxing τ} {m : Mp4 τ α}
    (h : (muxErrors D).FollowsFrom s m) (hlacks : s.writer.lacks = false) :
    (writerErrors D).FollowsFrom s m := by
  apply h.weaken
  · intro t ht
    exact ht.1
  · intro e t ht
    rcases ht with ⟨hwriter, hfails | ⟨hmemory, hdone⟩⟩
    · left
      refine ⟨hfails, ?_⟩
      rw [hwriter]
      exact hlacks
    · right
      left
      exact ⟨hmemory, hdone⟩

/-- A change of the writer alone calls no callback. -/
theorem mapWriter_follows (f : H26xWriter → H26xWriter) :
    (writerErrors D).Follows
      (modify (fun s => s.mapWriter f) : Mp4 τ PUnit) :=
  Follows.modify fun s => D.refl s.token

theorem lift_writer_follows {α : Type} (m : Alloc α) :
    (writerErrors D).Follows (lift m : Mp4 τ α) :=
  fun s => D.refl s.token

/-- Keeping a parameter set calls no callback. -/
theorem mp4eSetParameterSet_follows (kind : ParameterSet) (trackId : Nat) (item : Bytes) :
    (writerErrors D).Follows
      (mp4eSetParameterSet kind trackId item : Mp4 τ Int) := by
  intro s
  apply followsFrom_get_bind
  refine Follows.bind (lift_writer_follows _) ?_ s
  intro _
  apply Follows.bind
  · exact Follows.modify fun s => D.refl s.token
  intro _
  exact Follows.pure _

section Callback

variable (h : CallbackFollows writeCallback D)
include h

/-- A sample fails with one of its calls. -/
theorem writeSample_follows (nal : Bytes) (timeStamp90kHzNext : Nat) :
    (writerErrors D).Follows
      (writeSample writeCallback nal timeStamp90kHzNext) := by
  intro s
  apply followsFrom_get_bind
  by_cases hlacks : s.writer.lacks
  · rw [if_pos hlacks]
    apply followsFrom_throw
    right
    right
    exact ⟨rfl, D.refl _, hlacks⟩
  · rw [if_neg hlacks]
    apply writerErrors_of_muxErrors _ (by simpa using hlacks)
    refine Follows.bind (lift_follows malloc) ?_ s
    intro _
    exact Follows.ite throw_noMemory_follows (mp4ePutSample_follows h _ _ _ _)

/-- An access unit fails with one of its samples. -/
theorem mp4H265WriteNal_follows (timeStamp90kHzNext : Nat) (nal : Bytes) :
    (writerErrors D).Follows
      (mp4H265WriteNal writeCallback timeStamp90kHzNext nal) := by
  apply Follows.bind (mapWriter_follows _)
  intro _ s
  apply followsFrom_get_bind
  have hparameter : ∀ (kind : ParameterSet) (f : H26xWriter → H26xWriter),
      (writerErrors D).Follows
        (mp4eSetParameterSet kind s.writer.muxTrackId nal >>= fun _ =>
          modify fun s => s.mapWriter f : Mp4 τ PUnit) := by
    intro kind f
    exact Follows.bind (mp4eSetParameterSet_follows _ _ _) fun _ => mapWriter_follows f
  refine Follows.ite (hparameter .vps _) ?_ s
  refine Follows.ite (hparameter .sps _) ?_
  exact Follows.ite (hparameter .pps _) (writeSample_follows h _ _)

/-- Writing an access unit fails in three ways: with the value of a failed
callback, for lack of memory, or because a parameter set or the first IDR is
missing. -/
theorem mp4H26xWriteNal_follows (data : Bytes) (timeStamp90kHzNext : Nat) :
    (writerErrors D).Follows
      (mp4H26xWriteNal writeCallback data timeStamp90kHzNext) :=
  Follows.forM fun nal _ => mp4H265WriteNal_follows h timeStamp90kHzNext nal

end Callback

end Minimp4
end PixelPilot
