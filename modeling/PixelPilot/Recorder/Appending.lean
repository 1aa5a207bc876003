import PixelPilot.Minimp4.Appending
import PixelPilot.Recorder.Playback

/-!
# What a recorder writes over

Whichever seeks, writes, allocations and mappings fail in the life of a recorder, what has been
written in front of its write position stays there: the recorder goes on behind it after a failed
write, and `video_recorder_free` writes over the header of `mdat` in a standard file only.

Main results:

- Definition `FileKept`: a call on a recorder has kept its file.
- Theorem `videoRecorderHandleSample_keeps` and `videoRecorderFree_keeps`: the calls do.
- Theorem `recorded_bytes_kept`: bytes once in front of the write position are in the file from
  then on.
-/

namespace PixelPilot
namespace Recorder

open Minimp4 Fallible PositionedWrites

/-! ## The callback -/

/-- A write to a file leaves the bytes outside its range, in this and in all other files. -/
theorem getElem?_write (w : World) {path fp : Path} {offset i : Nat} {buffer : Bytes} {byte : UInt8}
    (hi : i < offset ∨ offset + buffer.length ≤ i) (hbyte : (w.bytesOf path)[i]? = some byte) :
    ((w.write fp offset buffer).bytesOf path)[i]? = some byte := by
  by_cases hsame : path = fp
  · subst hsame
    have hwritten : (w.write path offset buffer).bytesOf path =
        overwrite 0 offset buffer (w.bytesOf path) := by
      simp only [World.bytesOf, World.write, Function.update_self, Option.getD_some]
      rfl
    rw [hwritten]
    exact getElem?_overwrite 0 hi hbyte
  · have hother : (w.write fp offset buffer).bytesOf path = w.bytesOf path := by
      simp only [World.bytesOf, World.write, Function.update_of_ne hsame]
    rwa [hother]

/-- A call of the callback that fails may have written a part of its buffer. -/
theorem recorderWriteCallback_inside (path : Path) :
    WritesInside recorderWriteCallback fun t => t.world.bytesOf path := by
  intro offset buffer t i byte hi hbyte
  unfold recorderWriteCallback
  simp only
  split
  · exact hbyte
  · split
    · exact hbyte
    · exact getElem?_write _ hi hbyte
    · split
      · refine getElem?_write _ ?_ hbyte
        rw [List.length_take]
        omega
      · exact getElem?_write _ hi hbyte

/-! ## The calls -/

/-- The recorder has kept its muxer and its mode, the write position has not moved back, and the
bytes of the file in front of it have stayed, those in the hole excepted. -/
def FileKept (path : Path) (hole : Nat → Prop) (rec : VideoRecorder) (w : World)
    (rec' : VideoRecorder) (w' : World) : Prop :=
  ∀ mux, rec.mux = some mux → mux.ModesAgree →
    ∃ mux', rec'.mux = some mux' ∧ mux'.ModesAgree ∧
      mux'.sequentialModeFlag = mux.sequentialModeFlag ∧ mux.writePos ≤ mux'.writePos ∧
      ∀ i byte, i < mux.writePos → ¬ hole i → (w.bytesOf path)[i]? = some byte →
        (w'.bytesOf path)[i]? = some byte

section Calls

variable {path : Path} {hole : Nat → Prop} {rec rec' rec'' : VideoRecorder} {w w' w'' : World}

/-- A call that leaves the muxer and the files alone. -/
theorem FileKept.idle (hmux : rec'.mux = rec.mux) (hfiles : w'.files = w.files) :
    FileKept path hole rec w rec' w' := by
  intro mux hsome hmodes
  refine ⟨mux, hmux.trans hsome, hmodes, rfl, Nat.le_refl _, ?_⟩
  intro i byte _ _ hbyte
  rwa [World.bytesOf, hfiles]

theorem FileKept.trans (h : FileKept path hole rec w rec' w')
    (h' : FileKept path hole rec' w' rec'' w'') : FileKept path hole rec w rec'' w'' := by
  intro mux hmux hmodes
  rcases h mux hmux hmodes with ⟨mux', hmux', hmodes', hflag, hpos, hkept⟩
  rcases h' mux' hmux' hmodes' with ⟨mux'', hmux'', hmodes'', hflag', hpos', hkept'⟩
  refine ⟨mux'', hmux'', hmodes'', hflag'.trans hflag, hpos.trans hpos', ?_⟩
  intro i byte hi hout hbyte
  exact hkept' i byte (by omega) hout (hkept i byte hi hout hbyte)

/-- A call of the muxer that does not write over earlier data. -/
theorem callMux_keeps {m : Mp4 Token PUnit} {mux : Mux} (hmux : rec.mux = some mux)
    (hm : mux.ModesAgree →
      (appending hole fun t : Token => t.world.bytesOf path).FollowsFrom
        { mux := mux, writer := rec.writer, token := rec.token w, allocs := w.allocs } m) :
    FileKept path hole rec w (callMux m mux rec w).2.1 (callMux m mux rec w).2.2 := by
  intro mux' hmux' hmodes
  rw [hmux, Option.some.injEq] at hmux'
  subst hmux'
  let s : Muxing Token :=
    { mux := mux, writer := rec.writer, token := rec.token w, allocs := w.allocs }
  have happends : Appends hole (fun t : Token => t.world.bytesOf path) s (status (m s)).2 := by
    cases hrun : m s with
    | ok _ t => exact (hm hmodes).ok hrun
    | error e t => exact (hm hmodes).error hrun
  exact ⟨_, rfl, happends.modesAgree hmodes, happends.sequentialModeFlag, happends.writePos,
    happends.kept⟩

/-- The call of the writer keeps what is in the file. -/
theorem writeUnit_keeps {mux : Mux} (hmux : rec.mux = some mux) (data : Bytes)
    (duration90k : Nat) (w : World) :
    FileKept path hole rec w (writeUnit mux data duration90k rec w).1
      (writeUnit mux data duration90k rec w).2 := by
  have hcall : FileKept path hole rec w
      (callMux (mp4H26xWriteNal recorderWriteCallback data duration90k) mux rec w).2.1
      (callMux (mp4H26xWriteNal recorderWriteCallback data duration90k) mux rec w).2.2 :=
    callMux_keeps hmux fun hmodes =>
      mp4H26xWriteNal_appends (recorderWriteCallback_inside path) data duration90k hmodes
  refine hcall.trans (.idle ?_ rfl)
  exact (classify_frame _ _ _).2.2.1

/-- Writing the pending buffer keeps what is in the file. -/
theorem emitPending_keeps (rec : VideoRecorder) (w : World) (duration90k : Nat) :
    FileKept path hole rec w (emitPending rec w duration90k).1
      (emitPending rec w duration90k).2 := by
  unfold emitPending
  split
  · exact .idle rfl rfl
  · split
    · rename_i mux buffer hmux hbuffer
      split
      · exact .idle rfl rfl
      · split
        · exact .idle rfl rfl
        · split
          · exact .idle rfl rfl
          · exact FileKept.trans (.idle rfl rfl) (writeUnit_keeps hmux _ _ _)
    · exact .idle rfl rfl

theorem emitBefore_keeps (nextPts : ClockTime) (rec : VideoRecorder) (w : World) :
    FileKept path hole rec w (emitBefore nextPts rec w).1 (emitBefore nextPts rec w).2 := by
  unfold emitBefore
  split
  · refine FileKept.trans ?_ (emitPending_keeps _ w _)
    exact .idle rfl rfl
  · exact .idle rfl rfl

/-- A new track does not touch the file. -/
theorem ensureWriterInitialized_keeps (rec : VideoRecorder) (sample : Option GstSample)
    (w : World) : FileKept path hole rec w (ensureWriterInitialized rec sample).2 w := by
  unfold ensureWriterInitialized
  split
  · exact .idle rfl rfl
  · exact .idle rfl rfl
  · rename_i mux _ hmux
    intro mux' hmux' hmodes
    rw [hmux, Option.some.injEq] at hmux'
    subst hmux'
    simp only
    split
    · exact ⟨_, rfl, hmodes, rfl, Nat.le_refl _, fun _ _ _ _ hbyte => hbyte⟩
    · exact ⟨_, rfl, hmodes, rfl, Nat.le_refl _, fun _ _ _ _ hbyte => hbyte⟩

theorem pendingBuffer_files (args : SampleArgs) (w : World) :
    (pendingBuffer args w).2.files = w.files := by
  unfold pendingBuffer
  split
  · rfl
  · simp only
    split
    · rfl
    · split
      · rfl
      · split <;> rfl

/-- What `video_recorder_handle_sample` writes lies behind the write position. -/
theorem videoRecorderHandleSample_keeps (args : SampleArgs) (rec : VideoRecorder) (w : World) :
    FileKept path hole rec w (videoRecorderHandleSample args rec w).1
      (videoRecorderHandleSample args rec w).2 := by
  unfold videoRecorderHandleSample
  split
  · exact .idle rfl rfl
  · split
    · exact .idle rfl rfl
    · have hinit : FileKept path hole rec w (ensureWriterInitialized rec args.sample).2 w :=
        ensureWriterInitialized_keeps rec args.sample w
      simp only
      split
      · exact hinit
      · have hkeep := hinit.trans (emitBefore_keeps (sampleTimes args).1 _ w)
        split
        · exact hkeep.trans (.idle rfl (pendingBuffer_files args _))
        · exact hkeep.trans (.idle rfl (pendingBuffer_files args _))

/-- All samples together keep what is in the file. -/
theorem handleSamples_keeps (samples : List SampleArgs) (rec : VideoRecorder) (w : World) :
    FileKept path hole rec w (handleSamples samples rec w).1 (handleSamples samples rec w).2 := by
  induction samples generalizing rec w with
  | nil => exact .idle rfl rfl
  | cons args samples ih =>
      exact (videoRecorderHandleSample_keeps args rec w).trans (ih _ _)

/-- The flush keeps what is in the file. -/
theorem videoRecorderFlush_keeps (rec : VideoRecorder) (w : World) :
    FileKept path hole rec w (videoRecorderFlush rec w).1 (videoRecorderFlush rec w).2 := by
  unfold videoRecorderFlush
  split
  · exact .idle rfl rfl
  · exact emitBefore_keeps _ rec w

/-- `video_recorder_free` writes over the header of `mdat` at most. -/
theorem videoRecorderFree_keeps {mux : Mux} (hmux : rec.mux = some mux)
    (hmodes : mux.ModesAgree)
    (hhole : mux.sequentialModeFlag = false → ∀ i, 24 ≤ i → i < 40 → hole i) (w : World)
    {i : Nat} {byte : UInt8} (hi : i < mux.writePos) (hout : ¬ hole i)
    (hbyte : (w.bytesOf path)[i]? = some byte) :
    ((videoRecorderFree rec w).bytesOf path)[i]? = some byte := by
  have hflush : FileKept path hole rec w (videoRecorderFlush rec w).1
      (videoRecorderFlush rec w).2 :=
    videoRecorderFlush_keeps rec w
  rcases hflush mux hmux hmodes with ⟨mux', hmux', hmodes', hflag, hpos, hkept⟩
  let flushed := mp4H26xWriteClose (videoRecorderFlush rec w).1
  have hflushed : flushed.mux = some mux' := by
    simp only [flushed, mp4H26xWriteClose]
    split
    · exact hmux'
    · exact hmux'
  have hclose : FileKept path hole flushed (videoRecorderFlush rec w).2
      (callMux (mp4eClose recorderWriteCallback) mux' flushed (videoRecorderFlush rec w).2).2.1
      (callMux (mp4eClose recorderWriteCallback) mux' flushed (videoRecorderFlush rec w).2).2.2 :=
    callMux_keeps hflushed fun _ =>
      mp4eClose_appends (recorderWriteCallback_inside path) fun hfalse =>
        hhole (hflag.symm.trans hfalse)
  rcases hclose mux' hflushed hmodes' with ⟨_, -, -, -, -, hkept'⟩
  have hfree : (videoRecorderFree rec w).files =
      (callMux (mp4eClose recorderWriteCallback) mux' flushed
        (videoRecorderFlush rec w).2).2.2.files := by
    unfold videoRecorderFree
    simp only [flushed] at hflushed ⊢
    simp only [hflushed]
    rfl
  rw [World.bytesOf, hfree]
  exact hkept' i byte (Nat.lt_of_lt_of_le hi hpos) hout (hkept i byte hi hout hbyte)

end Calls

/-! ## Recorders -/

/-- The muxer of a recorder that was just created has the flags of its mode. -/
theorem videoRecorderNew_mux {cfg : RecordCfg} {answers : NewAnswers} {w w₁ : World}
    {rec : VideoRecorder} (hnew : videoRecorderNew cfg answers w = (some rec, w₁)) :
    ∃ mux, rec.mux = some mux ∧ mux.ModesAgree ∧
      (mux.sequentialModeFlag = false → cfg.mode = .standard) := by
  have hopened : ∀ (sequential fragmentation : Bool) (token : Token) (allocs : List Bool)
      (mux : Mux),
      (mp4eOpen recorderWriteCallback sequential fragmentation token allocs).1 = some mux →
        mux.sequentialModeFlag = (sequential || fragmentation) ∧
          mux.enableFragmentation = fragmentation := by
    intro sequential fragmentation token allocs mux hopen
    unfold mp4eOpen at hopen
    simp only at hopen
    split at hopen
    · contradiction
    · split at hopen
      · contradiction
      · split at hopen
        · split at hopen
          · contradiction
          · cases hopen
            exact ⟨rfl, rfl⟩
        · cases hopen
          exact ⟨rfl, rfl⟩
  unfold videoRecorderNew at hnew
  split at hnew
  · cases hnew
  · simp only at hnew
    split at hnew
    · cases hnew
    · split at hnew
      · cases hnew
      · unfold openMux at hnew
        simp only at hnew
        split at hnew
        · cases hnew
        · rename_i mux hopen
          rw [Prod.mk.injEq, Option.some.injEq] at hnew
          rcases hopened _ _ _ _ mux hopen with ⟨hsequential, hfragmented⟩
          refine ⟨mux, by rw [← hnew.1], ?_, ?_⟩
          · intro hmode
            rw [hsequential, ← hfragmented, hmode, Bool.or_true]
          · intro hflag
            rw [hsequential] at hflag
            cases hmode : cfg.mode with
            | standard => rfl
            | sequential => rw [hmode] at hflag; cases hflag
            | fragmented => rw [hmode] at hflag; cases hflag

end Recorder
end PixelPilot
