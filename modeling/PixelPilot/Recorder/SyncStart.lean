import PixelPilot.Minimp4.Waiting
import PixelPilot.Recorder.SampleFlow

/-!
# When recording starts

The recorder hands whole access units to a writer that looks at one NAL unit after
another, and drops an access unit if the writer refuses any of its NAL units.  So
an access unit with everything the writer waits for is dropped all the same when
an access unit delimiter or an SEI message comes before its parameter sets.

Main results:

- Definition `StartsInTime`: from the first complete access unit on none is dropped
  to wait for parameter sets and an IDR.
- Theorem `recorderLife_waits`: which access units of a recorder's life are dropped.
- Theorem `starts_in_time_iff`: recording starts in time exactly when nothing but
  parameter sets precedes the intra slice in the first complete access unit and no
  write fails from there on.
- Theorem `delimiter_delays_start`: an access unit delimiter keeps it from starting.
-/

namespace PixelPilot
namespace Recorder

open Minimp4 Fallible

/-! ## Which access units are dropped -/

/-- The access units are dropped to wait for parameter sets and an IDR exactly when
the writer refuses them or a write fails in them. -/
def Waits : H26xWriter → List Emission → Prop
  | _, [] => True
  | h, e :: rest =>
      e.awaitingSync = ((h.scan (nalUnits e.data)).2 || e.writeFailed) ∧
        Waits (h.scan (nalUnits e.data)).1 rest

/-- A wait through two parts, one behind the other. -/
theorem Waits.append {h : H26xWriter} {es es' : List Emission} (hfirst : Waits h es)
    (hrest : Waits (h.after (es.map Emission.data)) es') : Waits h (es ++ es') := by
  induction es generalizing h with
  | nil => exact hrest
  | cons e es ih => exact ⟨hfirst.1, ih hfirst.2 hrest⟩

/-- The access unit in the middle. -/
theorem Waits.middle {h : H26xWriter} {before after : List Emission} {e : Emission}
    (hwaits : Waits h (before ++ e :: after)) :
    e.awaitingSync =
      (((h.after (before.map Emission.data)).scan (nalUnits e.data)).2 || e.writeFailed) := by
  induction before generalizing h with
  | nil => exact hwaits.1
  | cons a before ih => exact ih hwaits.2

/-- What the access units written between two worlds do to the writer. -/
structure SyncStep (rec : VideoRecorder) (w : World) (rec' : VideoRecorder) (w' : World) :
    Prop where
  initialized : rec'.writerInitialized = rec.writerInitialized
  emissions : ∃ es, w'.emissions = w.emissions ++ es ∧
    rec'.writer = rec.writer.after (es.map Emission.data) ∧ Waits rec.writer es

/-- A call that writes nothing leaves the writer alone. -/
theorem SyncStep.idle {rec rec' : VideoRecorder} {w w' : World}
    (hinit : rec'.writerInitialized = rec.writerInitialized) (hwriter : rec'.writer = rec.writer)
    (hemissions : w'.emissions = w.emissions) : SyncStep rec w rec' w' where
  initialized := hinit
  emissions := by
    refine ⟨[], ?_, hwriter, trivial⟩
    rw [hemissions, List.append_nil]

/-- Such steps compose. -/
theorem SyncStep.trans {rec rec' rec'' : VideoRecorder} {w w' w'' : World}
    (h : SyncStep rec w rec' w') (h' : SyncStep rec' w' rec'' w'') :
    SyncStep rec w rec'' w'' where
  initialized := h'.initialized.trans h.initialized
  emissions := by
    rcases h.emissions with ⟨es, hworld, hwriter, hwaits⟩
    rcases h'.emissions with ⟨es', hworld', hwriter', hwaits'⟩
    refine ⟨es ++ es', ?_, ?_, ?_⟩
    · rw [hworld', hworld, List.append_assoc]
    · rw [hwriter', hwriter, List.map_append, H26xWriter.after_append]
    · rw [hwriter] at hwaits'
      exact hwaits.append hwaits'

/-- An access unit is dropped exactly when it is refused or a write fails in it. -/
theorem Emission.Outcome.waits {e : Emission} (h : e.Outcome) {refused : Bool}
    (hrefused : refused = true → e.err = mp4eStatusBadArguments)
    (hstarted : refused = false → e.err ≠ mp4eStatusOk → e.lacks = false) :
    e.awaitingSync = (refused || e.writeFailed) := by
  cases h with
  | written err writeFailed awaitingSync failed =>
      cases refused with
      | false => rw [awaitingSync, writeFailed, Bool.or_false]
      | true => exact absurd (err.symm.trans (hrefused rfl)) (by decide)
  | ioError err writeFailed awaitingSync failed =>
      rw [awaitingSync, writeFailed, Bool.or_true]
  | noMemory err writeFailed awaitingSync failed active =>
      cases refused with
      | false => rw [awaitingSync, writeFailed, Bool.or_false]
      | true => exact absurd (err.symm.trans (hrefused rfl)) (by decide)
  | refused err writeFailed awaitingSync failed lacks =>
      cases refused with
      | true => rw [awaitingSync, Bool.true_or]
      | false =>
          have hnot := hstarted rfl (by rw [err]; decide)
          rw [lacks] at hnot
          contradiction

/-- The call of the writer. -/
theorem writeUnit_sync (mux : Mux) (data : Bytes) (duration90k : Nat) (rec : VideoRecorder)
    (w : World) (hfailed : rec.failed = false) :
    SyncStep rec w (writeUnit mux data duration90k rec w).1
      (writeUnit mux data duration90k rec w).2 := by
  rcases hcall : callMux (mp4H26xWriteNal recorderWriteCallback data duration90k) mux rec w with
    ⟨err, rec', w'⟩
  rcases writeNal_outcome data duration90k mux rec w hcall with ⟨hworld, hkept, hcase⟩
  have hends := mp4H26xWriteNal_scan recorderWriteCallback data duration90k
    { mux := mux, writer := rec.writer, token := rec.token w, allocs := w.allocs }
  have hscan : rec'.writer = (rec.writer.scan (nalUnits data)).1 ∧
      ((rec.writer.scan (nalUnits data)).2 = true → err = mp4eStatusBadArguments) ∧
      ((rec.writer.scan (nalUnits data)).2 = false → err ≠ mp4eStatusOk →
        rec'.writer.lacks = false) ∧ rec'.writerInitialized = rec.writerInitialized := by
    unfold callMux at hcall
    simp only [VideoRecorder.token] at hends
    cases hrun : mp4H26xWriteNal recorderWriteCallback data duration90k
        { mux := mux, writer := rec.writer,
          token := { fp := rec.fp, bytesWritten := rec.bytesWritten, world := w },
          allocs := w.allocs } with
    | ok _ t =>
        rw [hrun] at hcall hends
        cases hcall
        refine ⟨hends.2, ?_, ?_, rfl⟩
        · intro hrefused
          exact absurd (hends.1.symm.trans hrefused) (by decide)
        · intro _ hne
          exact absurd rfl hne
    | error e t =>
        rw [hrun] at hcall hends
        cases hcall
        rcases hends with ⟨hwriter, ⟨hrefused, hbad⟩ | ⟨hgoes, hstarted⟩⟩
        · refine ⟨hwriter, fun _ => hbad, ?_, rfl⟩
          intro hnot
          exact absurd (hnot.symm.trans hrefused) (by decide)
        · refine ⟨hwriter, ?_, ?_, rfl⟩
          · intro hrefused
            exact absurd (hgoes.symm.trans hrefused) (by decide)
          · intro _ _
            exact (congrArg H26xWriter.lacks hwriter).trans hstarted
  rcases hscan with ⟨hwriter, hrefused, hstarted, hinit⟩
  have hclass := (classify_frame err duration90k rec').2.2.2
  have houtcome := emissionOf_outcome data duration90k err w w' rec' (hkept.trans hfailed) hcase
  unfold writeUnit
  rw [hcall]
  refine ⟨(classify_initialized err duration90k rec').1.trans hinit,
    [emissionOf data duration90k err w w' (classify err duration90k rec')], ?_, ?_, ?_, trivial⟩
  · simp only [pendingReset, hworld.emissions]
  · simp only [pendingReset]
    exact hclass.trans hwriter
  · apply houtcome.waits hrefused
    intro hgoes hne
    have hlacks := hstarted hgoes hne
    rw [← hclass] at hlacks
    exact hlacks

/-- Writing the pending buffer is such a step. -/
theorem emitPending_sync (rec : VideoRecorder) (w : World) (duration90k : Nat) :
    SyncStep rec w (emitPending rec w duration90k).1 (emitPending rec w duration90k).2 := by
  unfold emitPending
  split
  · exact SyncStep.idle rfl rfl rfl
  · split
    · split
      · exact SyncStep.idle rfl rfl rfl
      · rename_i hready
        split
        · exact SyncStep.idle rfl rfl rfl
        · split
          · exact SyncStep.idle rfl rfl rfl
          · have hmaps : SyncStep rec w rec { w with maps := w.maps.tail } :=
              SyncStep.idle rfl rfl rfl
            apply hmaps.trans
            apply writeUnit_sync
            simp only [Bool.or_eq_true, not_or, Bool.not_eq_true] at hready
            exact hready.1
    · exact SyncStep.idle rfl rfl rfl

/-- Writing the pending buffer before the next sample is such a step. -/
theorem emitBefore_sync (nextPts : ClockTime) (rec : VideoRecorder) (w : World) :
    SyncStep rec w (emitBefore nextPts rec w).1 (emitBefore nextPts rec w).2 := by
  unfold emitBefore
  split
  · have hcompute : SyncStep rec w
        (computeDuration90k rec rec.pending.pts rec.pending.duration nextPts).2 w :=
      SyncStep.idle rfl rfl rfl
    exact hcompute.trans (emitPending_sync _ w _)
  · exact SyncStep.idle rfl rfl rfl

/-- The flush is such a step. -/
theorem videoRecorderFlush_sync (rec : VideoRecorder) (w : World) :
    SyncStep rec w (videoRecorderFlush rec w).1 (videoRecorderFlush rec w).2 := by
  unfold videoRecorderFlush
  split
  · exact SyncStep.idle rfl rfl rfl
  · exact emitBefore_sync _ rec w

/-! ## The life of a recorder -/

/-- The writer as `mp4_h26x_write_init` leaves it, for the first track. -/
def newWriter : H26xWriter :=
  { needVps := true, needSps := true, needPps := true, needIdr := true }

/-- A recorder that has its writer goes on from where it is. -/
theorem handleSample_sync (args : SampleArgs) {rec : VideoRecorder} {w : World}
    (hinit : rec.writerInitialized = true) :
    SyncStep rec w (videoRecorderHandleSample args rec w).1
      (videoRecorderHandleSample args rec w).2 := by
  have hensured := ensureWriterInitialized_initialized args.sample hinit
  have hkeeps : ∀ (r : VideoRecorder × World),
      SyncStep r.1 r.2 r.1 (pendingBuffer args r.2).2 := by
    intro r
    apply SyncStep.idle rfl rfl
    unfold pendingBuffer
    split
    · rfl
    · simp only
      split
      · rfl
      · split
        · rfl
        · split
          · rfl
          · rfl
  unfold videoRecorderHandleSample
  split
  · exact SyncStep.idle rfl rfl rfl
  · split
    · exact SyncStep.idle rfl rfl rfl
    · rw [hensured]
      simp only [Bool.not_true, Bool.false_eq_true, if_false]
      have hemit := emitBefore_sync (sampleTimes args).1 rec w
      have hboth := hemit.trans (hkeeps (emitBefore (sampleTimes args).1 rec w))
      split
      · exact hboth
      · exact hboth.trans (SyncStep.idle rfl rfl rfl)

/-- All samples together are such a step. -/
theorem handleSamples_sync (samples : List SampleArgs) {rec : VideoRecorder} {w : World}
    (hinit : rec.writerInitialized = true) :
    SyncStep rec w (handleSamples samples rec w).1 (handleSamples samples rec w).2 := by
  induction samples generalizing rec w with
  | nil => exact SyncStep.idle rfl rfl rfl
  | cons args samples ih =>
      rw [handleSamples_cons]
      have hfirst := handleSample_sync args (w := w) hinit
      exact hfirst.trans (ih (hfirst.initialized.trans hinit))

/-- The first sample is given to a new writer. -/
theorem Fresh.firstSample {args : SampleArgs} {rec : VideoRecorder} (h : Fresh rec) (w : World)
    (hbuffer : args.buffer.isSome = true) :
    (videoRecorderHandleSample args rec w).1.writer = newWriter ∧
      (videoRecorderHandleSample args rec w).1.writerInitialized = true ∧
      (videoRecorderHandleSample args rec w).2.emissions = w.emissions := by
  rcases Option.isSome_iff_exists.mp hbuffer with ⟨b, hb⟩
  rcases h.mux with ⟨mux, hmux, htracks, -⟩
  have hsome : rec.mux.isSome = true := by
    rw [hmux]
    rfl
  have hok := (ensureWriterInitialized_ok rec args.sample hsome).1
  rcases ensureWriterInitialized_frame rec args.sample hsome with ⟨-, -, hpending, -, hinit⟩
  have hwriter : (ensureWriterInitialized rec args.sample).2.writer = newWriter := by
    unfold ensureWriterInitialized
    rw [h.uninitialized, hmux]
    simp only [mp4H26xWriteInit, mp4eAddTrack, htracks, List.length_nil]
    rfl
  have hidle : (ensureWriterInitialized rec args.sample).2.pending.valid = false := by
    rw [hpending, h.pending]
  rw [handleSample_eq h.enabled h.failed hok hb]
  unfold emitBefore
  rw [hidle, if_neg Bool.false_ne_true]
  exact ⟨hwriter, hinit, rfl⟩

/-- The access units of a recorder's life are dropped as the scans of a new writer
say. -/
theorem recorderLife_waits {rec : VideoRecorder} (h : Fresh rec) (w : World)
    (samples : List SampleArgs) (hbuffer : ∀ args ∈ samples, args.buffer.isSome = true) :
    ∃ es, (videoRecorderFree (handleSamples samples rec w).1
        (handleSamples samples rec w).2).emissions = w.emissions ++ es ∧
      Waits newWriter es := by
  rw [videoRecorderFree_emissions]
  cases samples with
  | nil =>
      refine ⟨[], ?_, trivial⟩
      rw [List.append_nil]
      unfold videoRecorderFlush emitBefore
      have hidle : rec.pending.valid = false := by
        rw [h.pending]
      simp only [handleSamples, List.foldl_nil, hidle, Bool.false_eq_true, if_false]
      split
      · rfl
      · rfl
  | cons args samples =>
      rcases h.firstSample w (hbuffer args List.mem_cons_self) with ⟨hwriter, hinit, hnone⟩
      rw [handleSamples_cons]
      have hsamples := handleSamples_sync samples (w := (videoRecorderHandleSample args rec w).2)
        hinit
      have hrun := hsamples.trans (videoRecorderFlush_sync _ _)
      rcases hrun.emissions with ⟨es, hworld, -, hwaits⟩
      rw [hwriter] at hwaits
      rw [hnone] at hworld
      exact ⟨es, hworld, hwaits⟩

/-! ## Starting in time -/

/-- The NAL unit is a slice of a random access picture. -/
def isIrap (nal : Bytes) : Bool :=
  hevcNalBlaWLp ≤ payloadType nal && payloadType nal ≤ 23

/-- The NAL units have a VPS, an SPS and a PPS and then a random access slice. -/
def Complete (units : List Bytes) : Prop :=
  ∃ before irap after, units = before ++ irap :: after ∧ isIrap irap = true ∧
    ∀ kind ∈ [hevcNalVps, hevcNalSps, hevcNalPps], ∃ nal ∈ before, payloadType nal = kind

/-- No access unit is dropped to wait for parameter sets and an IDR from the first
complete one on. -/
def StartsInTime (es : List Emission) : Prop :=
  ∀ before e after, es = before ++ e :: after →
    (∃ a ∈ before ++ [e], Complete (nalUnits a.data)) → e.awaitingSync = false

/-- The writer admits the first complete access unit, and no write fails in it or in a
later one. -/
def AdmitsFirst (es : List Emission) : Prop :=
  ∀ before e after, es = before ++ e :: after →
    Complete (nalUnits e.data) → (∀ a ∈ before, ¬ Complete (nalUnits a.data)) →
      (newWriter.after (before.map Emission.data)).admits (nalUnits e.data) = true ∧
        ∀ a ∈ e :: after, a.writeFailed = false

/-- A random access picture is no parameter set. -/
theorem isIrap_not_parameterSet {nal : Bytes} (h : isIrap nal = true) :
    isParameterSet nal = false := by
  unfold isIrap at h
  unfold isParameterSet
  simp only [Bool.and_eq_true, decide_eq_true_eq] at h
  simp only [Bool.or_eq_false_iff, decide_eq_false_iff_not]
  unfold hevcNalBlaWLp at h
  unfold hevcNalVps hevcNalSps hevcNalPps
  omega

/-- A complete access unit has a slice. -/
theorem Complete.sample {units : List Bytes} (h : Complete units) :
    ∃ nal ∈ units, isParameterSet nal = false := by
  rcases h with ⟨before, irap, after, rfl, hirap, -⟩
  exact ⟨irap, List.mem_append_right before List.mem_cons_self, isIrap_not_parameterSet hirap⟩

/-- The first access unit with a property. -/
theorem first_of_exists {es : List Emission} {P : Emission → Prop} (h : ∃ a ∈ es, P a) :
    ∃ before e after, es = before ++ e :: after ∧ P e ∧ ∀ a ∈ before, ¬ P a := by
  induction es with
  | nil =>
      rcases h with ⟨a, ha, -⟩
      exact absurd ha List.not_mem_nil
  | cons e es ih =>
      by_cases he : P e
      · refine ⟨[], e, es, rfl, he, ?_⟩
        intro a ha
        exact absurd ha List.not_mem_nil
      · have hrest : ∃ a ∈ es, P a := by
          rcases h with ⟨a, ha, hP⟩
          rcases List.mem_cons.mp ha with rfl | hmem
          · exact absurd hP he
          · exact ⟨a, hmem, hP⟩
        rcases ih hrest with ⟨before, f, after, rfl, hf, hnone⟩
        refine ⟨e :: before, f, after, rfl, hf, ?_⟩
        intro a ha
        rcases List.mem_cons.mp ha with rfl | hmem
        · exact he
        · exact hnone a hmem

/-- What the scans of a new writer make of the first complete access unit. -/
theorem Waits.starts_iff {es : List Emission} (h : Waits newWriter es) :
    StartsInTime es ↔ AdmitsFirst es := by
  constructor
  · intro hstarts before e after heq hcomplete _
    have hnot := hstarts before e after heq ⟨e, by simp, hcomplete⟩
    rw [heq] at h
    have hwaits := h.middle
    rw [hnot, eq_comm, Bool.or_eq_false_iff, H26xWriter.scan_refused,
      Bool.not_eq_false'] at hwaits
    refine ⟨hwaits.1, ?_⟩
    intro a ha
    rcases List.mem_cons.mp ha with rfl | hlater
    · exact hwaits.2
    · rcases List.append_of_mem hlater with ⟨between, rest, hsplit⟩
      have heq' : es = (before ++ e :: between) ++ a :: rest := by
        rw [heq, hsplit, List.append_assoc]
        rfl
      have hnot' := hstarts _ a rest heq' ⟨e, by simp, hcomplete⟩
      rw [← heq, heq'] at h
      have hwaits' := h.middle
      rw [hnot', eq_comm, Bool.or_eq_false_iff] at hwaits'
      exact hwaits'.2
  · intro hadmits before e after heq hexists
    rcases first_of_exists hexists with ⟨before', f, after', hsplit, hcomplete, hnone⟩
    have heq' : es = before' ++ f :: (after' ++ after) := by
      have hfront : es = (before ++ [e]) ++ after := by
        rw [heq, List.append_assoc]
        rfl
      rw [hfront, hsplit, List.append_assoc]
      rfl
    rcases hadmits before' f (after' ++ after) heq' hcomplete hnone with ⟨hopens, hworks⟩
    have haccepted : ((newWriter.after (before'.map Emission.data)).scan
        (nalUnits f.data)).2 = false := by
      rw [H26xWriter.scan_refused, hopens, Bool.not_true]
    have hstarted := H26xWriter.scan_accepted haccepted hcomplete.sample
    rw [heq] at h
    rw [h.middle, Bool.or_eq_false_iff]
    rcases List.eq_nil_or_concat after' with hnil | ⟨between, last, hconcat⟩
    · subst hnil
      rcases List.append_inj' hsplit rfl with ⟨rfl, hlast⟩
      rw [List.cons.injEq] at hlast
      rw [hlast.1]
      exact ⟨haccepted, hworks f List.mem_cons_self⟩
    · rw [List.concat_eq_append] at hconcat
      subst hconcat
      have hends : before ++ [e] = (before' ++ f :: between) ++ [last] := by
        rw [hsplit, List.append_assoc]
        rfl
      rcases List.append_inj' hends rfl with ⟨rfl, hlast⟩
      rw [List.cons.injEq] at hlast
      rw [hlast.1, List.map_append, H26xWriter.after_append, List.map_cons, H26xWriter.after_cons,
        H26xWriter.after_started hstarted, H26xWriter.scan_started hstarted]
      exact ⟨rfl, hworks last (by simp)⟩

/-! ## The life of a recorder -/

/-- Recording starts in time exactly when the writer admits the first complete access
unit and no write fails from there on. -/
theorem starts_in_time_iff (cfg : RecordCfg) (answers : NewAnswers) (samples : List SampleArgs)
    (w w₁ : World) (rec : VideoRecorder) (hnew : videoRecorderNew cfg answers w = (some rec, w₁))
    (hbuffer : ∀ args ∈ samples, args.buffer.isSome = true) (es : List Emission)
    (hes : (videoRecorderFree (handleSamples samples rec w₁).1
      (handleSamples samples rec w₁).2).emissions = w₁.emissions ++ es) :
    StartsInTime es ↔ AdmitsFirst es := by
  rcases recorderLife_waits (videoRecorderNew_fresh hnew) w₁ samples hbuffer with
    ⟨es', hes', hwaits⟩
  rw [List.append_cancel_left (hes.symm.trans hes')]
  exact hwaits.starts_iff

/-- An access unit delimiter. -/
def delimiter : Bytes := [0, 0, 1, 0x46, 1]

/-- The NAL units of a delimited IDR access unit. -/
theorem delimited_units : nalUnits (delimiter ++ idrUnit) =
    [[0x46, 1], [0x40, 1], [0x42, 1], [0x44, 1], [0x26, 1]] := by
  decide +kernel

/-- The access unit is complete: its IDR slice follows all parameter sets. -/
theorem delimited_complete : Complete (nalUnits (delimiter ++ idrUnit)) := by
  rw [delimited_units]
  exact ⟨[[0x46, 1], [0x40, 1], [0x42, 1], [0x44, 1]], [0x26, 1], [], rfl, by decide, by decide⟩

/-- The access units written in the life of the recorder created at noon. -/
def noonEmissions (samples : List SampleArgs) : List Emission :=
  (videoRecorderFree
    (handleSamples samples (noonRecorder .standard {}).1 (noonRecorder .standard {}).2).1
    (handleSamples samples (noonRecorder .standard {}).1 (noonRecorder .standard {}).2).2).emissions

theorem noonEmissions_eq (samples : List SampleArgs) :
    (videoRecorderFree
      (handleSamples samples (noonRecorder .standard {}).1 (noonRecorder .standard {}).2).1
      (handleSamples samples (noonRecorder .standard {}).1
        (noonRecorder .standard {}).2).2).emissions =
      (noonRecorder .standard {}).2.emissions ++ noonEmissions samples := by
  have hnone : (noonRecorder .standard {}).2.emissions = [] := by
    decide +kernel
  rw [hnone]
  rfl

/-- The writer admits the IDR access unit that a stream opens with. -/
theorem noon_admitsFirst :
    AdmitsFirst (noonEmissions [sampleOf idrUnit, sampleOf sliceUnit]) := by
  have hdata : (noonEmissions [sampleOf idrUnit, sampleOf sliceUnit]).map Emission.data =
      [idrUnit, sliceUnit] := by
    decide +kernel
  have hwritten : ∀ a ∈ noonEmissions [sampleOf idrUnit, sampleOf sliceUnit],
      a.writeFailed = false := by
    decide +kernel
  have hunits : nalUnits idrUnit = [[0x40, 1], [0x42, 1], [0x44, 1], [0x26, 1]] := by
    decide +kernel
  have hcomplete : Complete (nalUnits idrUnit) := by
    rw [hunits]
    exact ⟨[[0x40, 1], [0x42, 1], [0x44, 1]], [0x26, 1], [], rfl, by decide, by decide⟩
  intro before e after hes _ hnone
  rw [hes] at hdata hwritten
  refine ⟨?_, fun a ha => hwritten a (List.mem_append_right before ha)⟩
  cases before with
  | nil =>
      have he : e.data = idrUnit := (List.cons_eq_cons.mp hdata).1
      rw [he]
      decide +kernel
  | cons a before =>
      have ha : a.data = idrUnit := (List.cons_eq_cons.mp hdata).1
      have hfirst := hnone a List.mem_cons_self
      rw [ha] at hfirst
      exact absurd hcomplete hfirst

/-- A stream that opens with an IDR access unit starts in time. -/
theorem starts_in_time_iff_noon :
    StartsInTime (noonEmissions [sampleOf idrUnit, sampleOf sliceUnit]) :=
  (starts_in_time_iff (mediaCfg .standard) { timestamp := noon }
    [sampleOf idrUnit, sampleOf sliceUnit] {} (noonRecorder .standard {}).2
    (noonRecorder .standard {}).1 (noonRecorder_new (by decide +kernel)) (by decide) _
    (noonEmissions_eq _)).mpr noon_admitsFirst

/-- A delimiter in front of its parameter sets has a complete access unit dropped. -/
theorem delimiter_delays_start :
    ¬ ∀ (cfg : RecordCfg) (answers : NewAnswers) (samples : List SampleArgs) (w w₁ : World)
      (rec : VideoRecorder), videoRecorderNew cfg answers w = (some rec, w₁) →
      (∀ args ∈ samples, args.buffer.isSome = true) → ∀ es : List Emission,
      (videoRecorderFree (handleSamples samples rec w₁).1
        (handleSamples samples rec w₁).2).emissions = w₁.emissions ++ es → StartsInTime es := by
  intro hall
  have hstarts := hall (mediaCfg .standard) { timestamp := noon }
    [sampleOf (delimiter ++ idrUnit)] {} (noonRecorder .standard {}).2
    (noonRecorder .standard {}).1 (noonRecorder_new (by decide +kernel)) (by decide) _
    (noonEmissions_eq _)
  have hdropped : (noonEmissions [sampleOf (delimiter ++ idrUnit)]).map
      (fun e => (e.data, e.awaitingSync)) = [(delimiter ++ idrUnit, true)] := by
    decide +kernel
  rcases List.map_eq_singleton_iff.mp hdropped with ⟨e, he, hfields⟩
  rw [Prod.mk.injEq] at hfields
  have hcomplete : Complete (nalUnits e.data) := by
    rw [hfields.1]
    exact delimited_complete
  have hnot := hstarts [] e [] he ⟨e, by simp, hcomplete⟩
  exact absurd (hfields.2.symm.trans hnot) (by decide)

end Recorder
end PixelPilot
