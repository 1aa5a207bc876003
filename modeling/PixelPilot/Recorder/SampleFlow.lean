import PixelPilot.Recorder.WriteErrors

/-!
# The way of a sample through the recorder

`video_recorder_handle_sample` keeps the sample it is given and hands the one it
kept before to the writer: only then is its duration known.  The last one is
handed over by `video_recorder_flush`.

Main results:

- Definition `written`: the access units the writer is given for a list of
  buffers, with the answers of the coming buffer mappings.
- Theorem `emitPending_handed`: what `emit_pending` does with the sample kept.
- Definition `Flow`: what the recorder has done with the buffers taken so far.
- Theorem `samples_accounted`: the life of a recorder hands the writer every
  writable sample in the order of arrival, up to the one it failed with.

Current gaps:

- Only calls with a buffer are covered, as the appsink thread makes them.
-/

namespace PixelPilot
namespace Recorder

open Minimp4

/-! ## What should reach the writer -/

/-- The size of the buffer is one `emit_pending` accepts. -/
def GstBuffer.writable (b : GstBuffer) : Bool :=
  0 < b.data.length && b.data.length ≤ intMax

/-- The access units handed to the writer for the buffers, `maps` being the coming
answers of `gst_buffer_map`: a buffer is left out if its size is not accepted or
if it cannot be mapped. -/
def written : List Bool → List GstBuffer → List Bytes
  | _, [] => []
  | maps, b :: rest =>
      if b.writable then
        if maps.headD true then b.data :: written maps.tail rest else written maps.tail rest
      else written maps rest

/-- The answers of `gst_buffer_map` left after the buffers. -/
def mapsLeft : List Bool → List GstBuffer → List Bool
  | maps, [] => maps
  | maps, b :: rest => mapsLeft (if b.writable then maps.tail else maps) rest

@[simp] theorem written_nil (maps : List Bool) : written maps [] = [] := rfl

@[simp] theorem mapsLeft_nil (maps : List Bool) : mapsLeft maps [] = maps := rfl

/-- One more buffer: its access unit comes last. -/
theorem written_concat (maps : List Bool) (bs : List GstBuffer) (b : GstBuffer) :
    written maps (bs ++ [b]) = written maps bs ++ written (mapsLeft maps bs) [b] := by
  induction bs generalizing maps with
  | nil => simp
  | cons a bs ih =>
      by_cases ha : a.writable
      · by_cases hmap : maps.headD true
        · simp only [List.cons_append, written, mapsLeft, ha, hmap, if_true, ih maps.tail]
        · simp only [List.cons_append, written, mapsLeft, ha, hmap, if_true, Bool.false_eq_true,
            if_false, ih maps.tail]
      · simp only [List.cons_append, written, mapsLeft, ha, Bool.false_eq_true, if_false, ih maps]

theorem mapsLeft_concat (maps : List Bool) (bs : List GstBuffer) (b : GstBuffer) :
    mapsLeft maps (bs ++ [b]) = mapsLeft (mapsLeft maps bs) [b] := by
  induction bs generalizing maps with
  | nil => simp
  | cons a bs ih => simp only [List.cons_append, mapsLeft, ih]

/-- The access units come in the order of the buffers, each at most once. -/
theorem written_sublist (maps : List Bool) (bs : List GstBuffer) :
    (written maps bs).Sublist (bs.map GstBuffer.data) := by
  induction bs generalizing maps with
  | nil => simp
  | cons b bs ih =>
      unfold written
      split
      · split
        · exact (ih maps.tail).cons_cons b.data
        · exact (ih maps.tail).cons b.data
      · exact (ih maps).cons b.data

/-! ## Durations -/

/-- A duration handed to the writer is positive and fits in 32 bits. -/
theorem computeDuration90k_bounds (rec : VideoRecorder) (prevPts prevDuration nextPts : ClockTime) :
    1 ≤ (computeDuration90k rec prevPts prevDuration nextPts).1 ∧
      (computeDuration90k rec prevPts prevDuration nextPts).1 ≤ 0xffffffff := by
  unfold computeDuration90k
  simp only
  generalize (if gstClockTimeIsValid prevDuration then gstTimeTo90k prevDuration
    else if gstClockTimeIsValid prevPts && gstClockTimeIsValid nextPts &&
        decide (prevPts < nextPts) then
      gstTimeTo90k (nextPts - prevPts)
    else 0) = duration
  split
  · split
    · omega
    · split
      · omega
      · omega
  · omega

/-- The ticks of the access units the writer accepted. -/
def acceptedTicks (es : List Emission) : Nat :=
  ((es.filter fun e => e.err = mp4eStatusOk).map Emission.duration90k).sum

/-- An emission adds its ticks if it was accepted. -/
theorem acceptedTicks_concat (es : List Emission) (e : Emission) :
    acceptedTicks (es ++ [e]) =
      acceptedTicks es + if e.err = mp4eStatusOk then e.duration90k else 0 := by
  by_cases hok : e.err = mp4eStatusOk
  · simp [acceptedTicks, hok]
  · simp [acceptedTicks, hok]

theorem acceptedTicks_single (e : Emission) :
    acceptedTicks [e] = if e.err = mp4eStatusOk then e.duration90k else 0 := by
  have hconcat := acceptedTicks_concat [] e
  rw [List.nil_append] at hconcat
  rw [hconcat]
  exact Nat.zero_add _

/-! ## One sample -/

/-- A recorder that accepts samples and keeps the buffer `held`, if any. -/
structure Holding (held : Option GstBuffer) (rec : VideoRecorder) : Prop where
  enabled : rec.enabled = true
  mux : rec.mux.isSome = true
  buffer : rec.pending.buffer = held
  valid : rec.pending.valid = held.isSome
  initialized : held.isSome = true → rec.writerInitialized = true

/-- A buffer can be written unless it is empty or too long. -/
theorem Holding.writable_iff (b : GstBuffer) :
    b.writable = true ↔ ¬ (b.data.length = 0 ∨ intMax < b.data.length) := by
  unfold GstBuffer.writable
  rw [Bool.and_eq_true, decide_eq_true_eq, decide_eq_true_eq]
  omega

/-- What `emit_pending` does with the buffer kept. -/
theorem Holding.emit_eq {b : GstBuffer} {rec : VideoRecorder} {mux : Mux}
    (h : Holding (some b) rec) (hfailed : rec.failed = false) (hmux : rec.mux = some mux)
    (w : World) (duration90k : Nat) :
    emitPending rec w duration90k =
      if b.writable then
        if w.maps.headD true then
          writeUnit mux b.data duration90k rec { w with maps := w.maps.tail }
        else pendingReset rec { w with maps := w.maps.tail }
      else pendingReset rec w := by
  have hvalid : rec.pending.valid = true := h.valid
  have hinit : rec.writerInitialized = true := h.initialized rfl
  have hbuffer : rec.pending.buffer = some b := h.buffer
  unfold emitPending
  simp only [hvalid, hmux, hbuffer, hfailed, hinit, Bool.not_true, Bool.or_self,
    Bool.false_eq_true, if_false]
  by_cases hwritable : b.writable = true
  · rw [if_neg ((Holding.writable_iff b).mp hwritable), if_pos hwritable]
    by_cases hmap : w.maps.headD true = true
    · simp only [hmap, Bool.not_true, Bool.false_eq_true, if_false, if_true]
    · simp only [hmap, Bool.not_false, Bool.false_eq_true, if_false, if_true]
  · have hsize : b.data.length = 0 ∨ intMax < b.data.length := by
      by_contra hnot
      exact hwritable ((Holding.writable_iff b).mpr hnot)
    rw [if_pos hsize, if_neg hwritable]

/-- What a call that hands the buffer `b` to the writer changes: the buffer is
given back, and if it was writable and could be mapped then there is one
emission more, whose status decides about the total and about the failure. -/
structure Handed (b : GstBuffer) (duration90k : Nat) (rec : VideoRecorder) (w : World)
    (rec' : VideoRecorder) (w' : World) : Prop where
  enabled : rec'.enabled = rec.enabled
  mux : rec'.mux.isSome = rec.mux.isSome
  initialized : rec'.writerInitialized = rec.writerInitialized
  pending : rec'.pending = {}
  maps : w'.maps = mapsLeft w.maps [b]
  refs : w'.refs = w.refs ++ [.unref b]
  emissions : ∃ es, w'.emissions = w.emissions ++ es ∧
    es.map Emission.data = written w.maps [b] ∧
    (∀ e ∈ es, e.duration90k = duration90k) ∧
    rec'.totalDuration90k = rec.totalDuration90k + acceptedTicks es ∧
    (rec'.failed = true → ∃ e ∈ es.getLast?, e.failed = true ∧ e.err ≠ mp4eStatusOk)

/-- A call of the writer keeps the answers of `gst_buffer_map` and the
references. -/
theorem callMux_writeNal_frame (mux : Mux) (data : Bytes) (duration90k : Nat)
    (rec : VideoRecorder) (w : World) :
    (callMux (mp4H26xWriteNal recorderWriteCallback data duration90k) mux rec w).2.2.maps =
      w.maps := by
  have hfollows := mp4H26xWriteNal_follows recorderWriteCallback_follows data duration90k
    { mux := mux, writer := rec.writer, token := rec.token w, allocs := w.allocs }
  unfold callMux
  simp only [VideoRecorder.token] at hfollows
  cases hrun : mp4H26xWriteNal recorderWriteCallback data duration90k
      { mux := mux, writer := rec.writer,
        token := { fp := rec.fp, bytesWritten := rec.bytesWritten, world := w },
        allocs := w.allocs } with
  | ok _ t => exact (hfollows.ok hrun).1.maps
  | error e t =>
      rcases hfollows.error hrun with ⟨hfails, -⟩ | ⟨-, hdone⟩ | ⟨-, hdone, -⟩
      · exact hfails.1.maps
      · exact hdone.1.maps
      · exact hdone.1.maps

/-- The total grows by the ticks of what was written. -/
theorem classify_total (err : Int) (duration90k : Nat) (rec : VideoRecorder) :
    (classify err duration90k rec).totalDuration90k =
      rec.totalDuration90k + if err = mp4eStatusOk then duration90k else 0 := by
  unfold classify
  by_cases hok : err = mp4eStatusOk
  · subst hok
    simp [mp4eStatusOk, mp4eStatusBadArguments]
  · by_cases hbad : err = mp4eStatusBadArguments
    · rw [if_pos hbad, if_neg hok]
      rfl
    · rw [if_neg hbad, if_pos hok, if_neg hok]
      rfl

/-- Classifying an error leaves the pending buffer alone. -/
theorem classify_initialized (err : Int) (duration90k : Nat) (rec : VideoRecorder) :
    (classify err duration90k rec).writerInitialized = rec.writerInitialized ∧
      (classify err duration90k rec).pending = rec.pending := by
  unfold classify
  split
  · exact ⟨rfl, rfl⟩
  · split
    · exact ⟨rfl, rfl⟩
    · exact ⟨rfl, rfl⟩

/-- What the call of the writer leaves of the recorder that made it. -/
theorem callMux_frame (m : Mp4 Token PUnit) (mux : Mux) (rec : VideoRecorder) (w : World) :
    (callMux m mux rec w).2.1.enabled = rec.enabled ∧
      (callMux m mux rec w).2.1.failed = rec.failed ∧
      (callMux m mux rec w).2.1.mux.isSome = true ∧
      (callMux m mux rec w).2.1.writerInitialized = rec.writerInitialized ∧
      (callMux m mux rec w).2.1.pending = rec.pending ∧
      (callMux m mux rec w).2.1.totalDuration90k = rec.totalDuration90k :=
  ⟨rfl, rfl, rfl, rfl, rfl, rfl⟩

/-- The call of the writer hands over the buffer kept. -/
theorem writeUnit_handed {b : GstBuffer} {mux : Mux} {duration90k : Nat} {rec : VideoRecorder}
    {w : World} (hbuffer : rec.pending.buffer = some b) (hmux : rec.mux.isSome = true)
    (hfailed : rec.failed = false) (hwritable : b.writable = true)
    (hmap : w.maps.headD true = true) :
    Handed b duration90k rec w
      (writeUnit mux b.data duration90k rec { w with maps := w.maps.tail }).1
      (writeUnit mux b.data duration90k rec { w with maps := w.maps.tail }).2 := by
  let w₁ : World := { w with maps := w.maps.tail }
  rcases hcall : callMux (mp4H26xWriteNal recorderWriteCallback b.data duration90k) mux rec w₁
    with ⟨err, rec', w'⟩
  have hframe := callMux_frame (mp4H26xWriteNal recorderWriteCallback b.data duration90k)
    mux rec w₁
  have hmaps := callMux_writeNal_frame mux b.data duration90k rec w₁
  have hkept := (writeNal_outcome b.data duration90k mux rec w₁ hcall).1
  have hworks := (writeNal_outcome b.data duration90k mux rec w₁ hcall).2.1.trans hfailed
  rw [hcall] at hframe hmaps
  simp only at hframe hmaps
  rcases hframe with ⟨henabled, -, hsome, hinit, hpending, htotal⟩
  rcases classify_frame err duration90k rec' with ⟨henabled', -, hmux', -⟩
  rcases classify_initialized err duration90k rec' with ⟨hinit', hpending'⟩
  let e := emissionOf b.data duration90k err w₁ w' (classify err duration90k rec')
  have hticks : acceptedTicks [e] = if err = mp4eStatusOk then duration90k else 0 :=
    acceptedTicks_single e
  unfold writeUnit
  simp only [w₁] at hcall
  rw [hcall]
  refine ⟨henabled'.trans henabled, ?_, hinit'.trans hinit, rfl, ?_, ?_, [e], ?_, ?_, ?_, ?_, ?_⟩
  · rw [hmux]
    exact (congrArg Option.isSome hmux').trans hsome
  · rw [mapsLeft, hwritable, if_pos rfl]
    exact hmaps
  · simp only [pendingReset, hpending', hpending, hbuffer, hkept.refs]
    rfl
  · simp only [pendingReset, hkept.emissions]
    rfl
  · simp only [e, emissionOf, List.map_cons, List.map_nil, written, hwritable, hmap, if_true]
  · intro e' he'
    rw [List.mem_singleton.mp he']
    rfl
  · rw [hticks]
    exact (classify_total err duration90k rec').trans (by rw [htotal])
  · intro hfails
    have hclass := classify_failed err duration90k rec' hworks
    have hdecide := hclass.symm.trans hfails
    rw [decide_eq_true_eq] at hdecide
    exact ⟨e, rfl, hfails, hdecide.2⟩

/-- A buffer that the writer is not given is only given back. -/
theorem pendingReset_handed {b : GstBuffer} {duration90k : Nat} {rec : VideoRecorder}
    {w w' : World} (hbuffer : rec.pending.buffer = some b) (hfailed : rec.failed = false)
    (hwritten : written w.maps [b] = []) (hmaps : w'.maps = mapsLeft w.maps [b])
    (hrefs : w'.refs = w.refs) (hemissions : w'.emissions = w.emissions) :
    Handed b duration90k rec w (pendingReset rec w').1 (pendingReset rec w').2 where
  enabled := rfl
  mux := rfl
  initialized := rfl
  pending := rfl
  maps := hmaps
  refs := by simp only [pendingReset, hbuffer, hrefs, Option.toList_some, List.map_cons,
    List.map_nil]
  emissions := by
    refine ⟨[], ?_, ?_, ?_, rfl, ?_⟩
    · simp only [pendingReset, hemissions, List.append_nil]
    · rw [hwritten]
      rfl
    · intro e he
      exact absurd he List.not_mem_nil
    · intro hfails
      exact absurd (hfailed.symm.trans hfails) (by decide)

/-- `emit_pending` hands over the buffer kept. -/
theorem emitPending_handed {b : GstBuffer} {rec : VideoRecorder} (h : Holding (some b) rec)
    (hfailed : rec.failed = false) (w : World) (duration90k : Nat) :
    Handed b duration90k rec w (emitPending rec w duration90k).1
      (emitPending rec w duration90k).2 := by
  rcases Option.isSome_iff_exists.mp h.mux with ⟨mux, hmux⟩
  rw [h.emit_eq hfailed hmux]
  by_cases hwritable : b.writable = true
  · rw [if_pos hwritable]
    by_cases hmap : w.maps.headD true = true
    · rw [if_pos hmap]
      exact writeUnit_handed h.buffer h.mux hfailed hwritable hmap
    · rw [if_neg hmap]
      have hnone : written w.maps [b] = [] := by
        simp only [written, hwritable, if_true, hmap, Bool.false_eq_true, if_false]
      have hleft : w.maps.tail = mapsLeft w.maps [b] := by
        simp only [mapsLeft, hwritable, if_true]
      exact pendingReset_handed h.buffer hfailed hnone hleft rfl rfl
  · rw [if_neg hwritable]
    have hnone : written w.maps [b] = [] := by
      simp only [written, hwritable, Bool.false_eq_true, if_false]
    have hleft : w.maps = mapsLeft w.maps [b] := by
      simp only [mapsLeft, hwritable, Bool.false_eq_true, if_false]
    exact pendingReset_handed h.buffer hfailed hnone hleft rfl rfl

/-- The sample kept is handed over with the duration up to its successor. -/
theorem emitBefore_handed {b : GstBuffer} {rec : VideoRecorder} (h : Holding (some b) rec)
    (hfailed : rec.failed = false) (w : World) (nextPts : ClockTime) :
    Handed b (computeDuration90k rec rec.pending.pts rec.pending.duration nextPts).1 rec w
      (emitBefore nextPts rec w).1 (emitBefore nextPts rec w).2 := by
  have hvalid : rec.pending.valid = true := h.valid
  let r := computeDuration90k rec rec.pending.pts rec.pending.duration nextPts
  have htimed : Holding (some b) r.2 :=
    ⟨h.enabled, h.mux, h.buffer, h.valid, h.initialized⟩
  have hstep : Handed b r.1 r.2 w (emitPending r.2 w r.1).1 (emitPending r.2 w r.1).2 :=
    emitPending_handed htimed hfailed w r.1
  unfold emitBefore
  rw [hvalid, if_pos rfl]
  exact ⟨hstep.enabled, hstep.mux, hstep.initialized, hstep.pending, hstep.maps, hstep.refs,
    hstep.emissions⟩

/-! ## The samples of a run -/

/-- The buffers of the samples that arrive before the recorder has failed. -/
def taken : List SampleArgs → VideoRecorder → World → List GstBuffer
  | [], _, _ => []
  | args :: rest, rec, w =>
      let r := videoRecorderHandleSample args rec w
      (if rec.failed then [] else args.buffer.toList) ++ taken rest r.1 r.2

/-- What has been handed to the writer for the buffers `bs`: their access units in
order with sound durations.  A failed recorder failed with the last of them. -/
structure HandedOver (maps : List Bool) (bs : List GstBuffer) (es : List Emission)
    (rec : VideoRecorder) : Prop where
  data : es.map Emission.data = written maps bs
  durations : ∀ e ∈ es, 1 ≤ e.duration90k ∧ e.duration90k ≤ 0xffffffff
  total : rec.totalDuration90k = acceptedTicks es
  failed : rec.failed = true → ∃ e ∈ es.getLast?, e.failed = true

/-- One more buffer is handed over. -/
theorem HandedOver.next {maps : List Bool} {bs : List GstBuffer} {es : List Emission}
    {b : GstBuffer} {duration90k : Nat} {rec rec' : VideoRecorder} {w w' : World}
    (h : HandedOver maps bs es rec) (hmaps : w.maps = mapsLeft maps bs) (hpos : 1 ≤ duration90k)
    (hmax : duration90k ≤ 0xffffffff) (hstep : Handed b duration90k rec w rec' w') :
    ∃ es', w'.emissions = w.emissions ++ es' ∧
      HandedOver maps (bs ++ [b]) (es ++ es') rec' := by
  rcases hstep.emissions with ⟨es', hworld, hdata, hticks, htotal, hfails⟩
  refine ⟨es', hworld, ?_, ?_, ?_, ?_⟩
  · rw [List.map_append, h.data, hdata, hmaps, written_concat]
  · intro e he
    rcases List.mem_append.mp he with he | he
    · exact h.durations e he
    · rw [hticks e he]
      exact ⟨hpos, hmax⟩
  · rw [htotal, h.total]
    simp only [acceptedTicks, List.filter_append, List.map_append, List.sum_append]
  · intro hfailed'
    rcases hfails hfailed' with ⟨e, he, hlast, -⟩
    refine ⟨e, ?_, hlast⟩
    rw [List.getLast?_append, he]
    rfl

/-- The recorder has taken the buffers `bs` since the world `w₀`: it keeps the
last, the others have been handed over, and only the last has not been given
back. -/
structure Flow (w₀ : World) (bs : List GstBuffer) (rec : VideoRecorder) (w : World) :
    Prop where
  holding : Holding bs.getLast? rec
  maps : w.maps = mapsLeft w₀.maps bs.dropLast
  refs : w.refs ++ bs.getLast?.toList.map .unref =
    w₀.refs ++ bs.flatMap fun b => [.ref b, .unref b]
  handed : ∃ es, w.emissions = w₀.emissions ++ es ∧ HandedOver w₀.maps bs.dropLast es rec

/-- A recorder without a pending sample has taken nothing. -/
theorem Flow.start {rec : VideoRecorder} {w : World} (henabled : rec.enabled = true)
    (hmux : rec.mux.isSome = true) (hpending : rec.pending = {})
    (htotal : rec.totalDuration90k = 0) (hfailed : rec.failed = false) :
    Flow w [] rec w where
  holding := by
    refine ⟨henabled, hmux, ?_, ?_, ?_⟩
    · rw [hpending]
      rfl
    · rw [hpending]
      rfl
    · intro hnone
      contradiction
  maps := rfl
  refs := rfl
  handed := by
    refine ⟨[], (List.append_nil _).symm, rfl, ?_, htotal, ?_⟩
    · intro e he
      exact absurd he List.not_mem_nil
    · intro hfails
      exact absurd (hfailed.symm.trans hfails) (by decide)

/-- A recorder with a muxer has a writer afterwards, and nothing else is changed in
what it keeps and counts. -/
theorem ensureWriterInitialized_frame (rec : VideoRecorder) (sample : Option GstSample)
    (hmux : rec.mux.isSome = true) :
    (ensureWriterInitialized rec sample).2.enabled = rec.enabled ∧
      (ensureWriterInitialized rec sample).2.mux.isSome = true ∧
      (ensureWriterInitialized rec sample).2.pending = rec.pending ∧
      (ensureWriterInitialized rec sample).2.totalDuration90k = rec.totalDuration90k ∧
      (ensureWriterInitialized rec sample).2.writerInitialized = true := by
  unfold ensureWriterInitialized
  split
  · rename_i hinit
    exact ⟨rfl, hmux, rfl, rfl, hinit⟩
  · rename_i hnone
    simp [hnone] at hmux
  · exact ⟨rfl, rfl, rfl, rfl, rfl⟩

/-- A writer that is prepared stays as it is. -/
theorem ensureWriterInitialized_initialized {rec : VideoRecorder} (sample : Option GstSample)
    (h : rec.writerInitialized = true) : ensureWriterInitialized rec sample = (true, rec) := by
  unfold ensureWriterInitialized
  rw [h]

/-- The sample kept is handed over when its successor arrives or at the end. -/
theorem Flow.handOver {w₀ : World} {bs : List GstBuffer} {rec : VideoRecorder} {w : World}
    (h : Flow w₀ bs rec w) (hfailed : rec.failed = false) (nextPts : ClockTime) :
    Holding none (emitBefore nextPts rec w).1 ∧
      (emitBefore nextPts rec w).1.writerInitialized = rec.writerInitialized ∧
      (emitBefore nextPts rec w).2.maps = mapsLeft w₀.maps bs ∧
      (emitBefore nextPts rec w).2.refs = w₀.refs ++ bs.flatMap (fun b => [.ref b, .unref b]) ∧
      ∃ es, (emitBefore nextPts rec w).2.emissions = w₀.emissions ++ es ∧
        HandedOver w₀.maps bs es (emitBefore nextPts rec w).1 := by
  have hholding := h.holding
  have hmaps := h.maps
  have hrefs := h.refs
  rcases h.handed with ⟨es, hworld, hhanded⟩
  rcases List.eq_nil_or_concat bs with hnil | ⟨front, b, hconcat⟩
  · subst hnil
    have hvalid : rec.pending.valid = false := hholding.valid
    unfold emitBefore
    rw [hvalid, if_neg Bool.false_ne_true]
    refine ⟨⟨hholding.enabled, hholding.mux, hholding.buffer, hvalid, ?_⟩, rfl, hmaps, ?_, es,
      hworld, hhanded⟩
    · intro hnone
      contradiction
    · simpa using hrefs
  · rw [List.concat_eq_append] at hconcat
    subst hconcat
    rw [List.getLast?_concat] at hholding hrefs
    rw [List.dropLast_concat] at hmaps hhanded
    rcases computeDuration90k_bounds rec rec.pending.pts rec.pending.duration nextPts with
      ⟨hpos, hmax⟩
    have hstep := emitBefore_handed hholding hfailed w nextPts
    rcases hhanded.next hmaps hpos hmax hstep with ⟨es', hworld', hhanded'⟩
    refine ⟨⟨hstep.enabled.trans hholding.enabled, hstep.mux.trans hholding.mux, ?_, ?_, ?_⟩,
      hstep.initialized, ?_, ?_, es ++ es', ?_, hhanded'⟩
    · rw [hstep.pending]
    · rw [hstep.pending]
      rfl
    · intro hnone
      contradiction
    · rw [hstep.maps, hmaps, mapsLeft_concat]
    · rw [hstep.refs]
      exact hrefs
    · rw [hworld', hworld, List.append_assoc]

/-- The call hands over the sample kept and keeps the new one. -/
theorem handleSample_eq {args : SampleArgs} {b : GstBuffer} {rec : VideoRecorder} {w : World}
    (henabled : rec.enabled = true) (hfailed : rec.failed = false)
    (hok : (ensureWriterInitialized rec args.sample).1 = true)
    (hbuffer : args.buffer = some b) :
    videoRecorderHandleSample args rec w =
      let r := emitBefore (sampleTimes args).1 (ensureWriterInitialized rec args.sample).2 w
      ({ r.1 with pending :=
          { buffer := some b, pts := (sampleTimes args).1, duration := (sampleTimes args).2,
            valid := true } },
        { r.2 with refs := r.2.refs ++ [.ref b] }) := by
  unfold videoRecorderHandleSample pendingBuffer
  simp only [henabled, hfailed, hok, hbuffer, Bool.not_true, Bool.or_self, Bool.false_eq_true,
    if_false, Option.isNone_some, Bool.false_and]

/-- The recorder takes a sample. -/
theorem Flow.take {w₀ : World} {bs : List GstBuffer} {rec : VideoRecorder} {w : World}
    (h : Flow w₀ bs rec w) (hfailed : rec.failed = false) {args : SampleArgs} {b : GstBuffer}
    (hbuffer : args.buffer = some b) :
    Flow w₀ (bs ++ [b]) (videoRecorderHandleSample args rec w).1
      (videoRecorderHandleSample args rec w).2 := by
  rcases ensureWriterInitialized_ok rec args.sample h.holding.mux with ⟨hok, hsame⟩
  rcases ensureWriterInitialized_frame rec args.sample h.holding.mux with
    ⟨henabled, hmux, hpending, htotal, hinit⟩
  rcases h.handed with ⟨es, hworld, hhanded⟩
  have hready : Flow w₀ bs (ensureWriterInitialized rec args.sample).2 w := by
    refine ⟨⟨henabled.trans h.holding.enabled, hmux, ?_, ?_, fun _ => hinit⟩, h.maps, h.refs, es,
      hworld, hhanded.data, hhanded.durations, htotal.trans hhanded.total, ?_⟩
    · rw [hpending]
      exact h.holding.buffer
    · rw [hpending]
      exact h.holding.valid
    · rw [hsame]
      exact hhanded.failed
  rcases hready.handOver (hsame.trans hfailed) (sampleTimes args).1 with
    ⟨hheld, hstill, hmaps, hrefs, es', hworld', hhanded'⟩
  rw [handleSample_eq h.holding.enabled hfailed hok hbuffer]
  refine ⟨⟨hheld.enabled, hheld.mux, ?_, ?_, ?_⟩, ?_, ?_, es', hworld', ?_⟩
  · rw [List.getLast?_concat]
  · rw [List.getLast?_concat]
    rfl
  · intro _
    exact hstill.trans hinit
  · rw [List.dropLast_concat]
    exact hmaps
  · simp only [hrefs, List.getLast?_concat, Option.toList_some, List.map_cons, List.map_nil,
      List.append_assoc, List.cons_append, List.nil_append, List.flatMap_append,
      List.flatMap_cons, List.flatMap_nil, List.append_nil]
  · rw [List.dropLast_concat]
    exact ⟨hhanded'.data, hhanded'.durations, hhanded'.total, hhanded'.failed⟩

/-- A failed recorder takes no more samples. -/
theorem handleSample_failed (args : SampleArgs) {rec : VideoRecorder} {w : World}
    (hfailed : rec.failed = true) : videoRecorderHandleSample args rec w = (rec, w) := by
  unfold videoRecorderHandleSample
  rw [hfailed, Bool.or_true, if_pos rfl]

/-- The run goes on after its first sample. -/
theorem handleSamples_cons (args : SampleArgs) (samples : List SampleArgs) (rec : VideoRecorder)
    (w : World) :
    handleSamples (args :: samples) rec w =
      handleSamples samples (videoRecorderHandleSample args rec w).1
        (videoRecorderHandleSample args rec w).2 :=
  rfl

/-- A recorder that failed takes no sample. -/
theorem handleSamples_failed (samples : List SampleArgs) {rec : VideoRecorder} {w : World}
    (hfailed : rec.failed = true) :
    handleSamples samples rec w = (rec, w) ∧ taken samples rec w = [] := by
  induction samples with
  | nil => exact ⟨rfl, rfl⟩
  | cons args samples ih =>
      have hsame := handleSample_failed args (w := w) hfailed
      refine ⟨?_, ?_⟩
      · rw [handleSamples_cons, hsame]
        exact ih.1
      · simp only [taken, hfailed, if_true, hsame, ih.2, List.append_nil]

/-- The samples of a run flow through the recorder. -/
theorem Flow.run {w₀ : World} {bs : List GstBuffer} {rec : VideoRecorder} {w : World}
    (h : Flow w₀ bs rec w) {samples : List SampleArgs}
    (hbuffer : ∀ args ∈ samples, args.buffer.isSome = true) :
    Flow w₀ (bs ++ taken samples rec w) (handleSamples samples rec w).1
      (handleSamples samples rec w).2 := by
  induction samples generalizing bs rec w with
  | nil =>
      simp only [taken, List.append_nil]
      exact h
  | cons args samples ih =>
      by_cases hfailed : rec.failed = true
      · rcases handleSamples_failed (args :: samples) (w := w) hfailed with ⟨hsame, hnone⟩
        rw [hsame, hnone, List.append_nil]
        exact h
      · rw [Bool.not_eq_true] at hfailed
        rcases Option.isSome_iff_exists.mp (hbuffer args List.mem_cons_self) with ⟨b, hb⟩
        have hrest : ∀ other ∈ samples, other.buffer.isSome = true := by
          intro other hmem
          exact hbuffer other (List.mem_cons_of_mem args hmem)
        have hnext := ih (h.take hfailed hb) hrest
        rw [handleSamples_cons]
        simpa only [taken, hfailed, hb, Bool.false_eq_true, if_false, Option.toList_some,
          List.append_assoc] using hnext

/-- The samples taken are the first ones, and all of them until the recorder
fails. -/
theorem taken_first (samples : List SampleArgs) (rec : VideoRecorder) (w : World) :
    taken samples rec w <+: samples.filterMap SampleArgs.buffer ∧
      ((handleSamples samples rec w).1.failed = false →
        taken samples rec w = samples.filterMap SampleArgs.buffer) := by
  induction samples generalizing rec w with
  | nil => exact ⟨List.prefix_rfl, fun _ => rfl⟩
  | cons args samples ih =>
      by_cases hfailed : rec.failed = true
      · rcases handleSamples_failed (args :: samples) (w := w) hfailed with ⟨hsame, hnone⟩
        rw [hsame, hnone]
        refine ⟨List.nil_prefix, ?_⟩
        intro hworks
        exact absurd (hfailed.symm.trans hworks) (by decide)
      · rw [Bool.not_eq_true] at hfailed
        rcases ih (videoRecorderHandleSample args rec w).1
          (videoRecorderHandleSample args rec w).2 with ⟨hfirst, hall⟩
        have htaken : taken (args :: samples) rec w =
            args.buffer.toList ++ taken samples (videoRecorderHandleSample args rec w).1
              (videoRecorderHandleSample args rec w).2 := by
          simp only [taken, hfailed, Bool.false_eq_true, if_false]
        have hfilter : (args :: samples).filterMap SampleArgs.buffer =
            args.buffer.toList ++ samples.filterMap SampleArgs.buffer := by
          cases hb : args.buffer with
          | none => simp [hb]
          | some b => simp [hb]
        rw [htaken, hfilter, handleSamples_cons]
        refine ⟨(List.prefix_append_right_inj _).mpr hfirst, ?_⟩
        intro hworks
        rw [hall hworks]

/-! ## The life of a recorder -/

/-- What becomes of the samples `bs` that arrive in the life of a recorder; those
in `held` are referenced by it. -/
structure Accounted (bs held : List GstBuffer) (maps : List Bool) (rec : VideoRecorder)
    (refs : List RefEvent) (es : List Emission) : Prop where
  order : (es.map Emission.data).Sublist (bs.map GstBuffer.data)
  upTo : ∃ n, es.map Emission.data = written maps (bs.take n)
  complete : rec.failed = false → es.map Emission.data = written maps bs
  stopped : rec.failed = true → ∃ e ∈ es.getLast?, e.failed = true
  durations : ∀ e ∈ es, 1 ≤ e.duration90k ∧ e.duration90k ≤ 0xffffffff
  total : rec.totalDuration90k = acceptedTicks es
  references : ∀ b, refs.count (.ref b) = held.count b ∧ refs.count (.unref b) = held.count b

/-- The samples of a recorder's life, from the world `w` to `video_recorder_free`, are
accounted for, the recorder referencing the buffers in `held`. -/
def LifeAccounted (samples : List SampleArgs) (held : List GstBuffer) (rec : VideoRecorder)
    (w : World) : Prop :=
  let r := handleSamples samples rec w
  ∃ es refs,
    (videoRecorderFree r.1 r.2).emissions = w.emissions ++ es ∧
    (videoRecorderFree r.1 r.2).refs = w.refs ++ refs ∧
    Accounted (samples.filterMap SampleArgs.buffer) held w.maps (videoRecorderFlush r.1 r.2).1
      refs es

/-- In a log that takes and gives back each buffer, every buffer is referenced as
often as it occurs, and given back as often. -/
theorem count_balanced (bs : List GstBuffer) (b : GstBuffer) :
    (bs.flatMap fun b => [RefEvent.ref b, RefEvent.unref b]).count (.ref b) = bs.count b ∧
      (bs.flatMap fun b => [RefEvent.ref b, RefEvent.unref b]).count (.unref b) =
        bs.count b := by
  induction bs with
  | nil => exact ⟨rfl, rfl⟩
  | cons a bs ih =>
      by_cases hab : a = b
      · subst hab
        simp [ih.1, ih.2]
      · simp [ih.1, ih.2, hab]

/-- A recorder as `video_recorder_new` returns it. -/
structure Fresh (rec : VideoRecorder) : Prop where
  enabled : rec.enabled = true
  failed : rec.failed = false
  pending : rec.pending = {}
  total : rec.totalDuration90k = 0
  uninitialized : rec.writerInitialized = false
  fp : rec.fp.isSome = true
  mux : ∃ mux, rec.mux = some mux ∧ mux.tracks = [] ∧ mux.fragmentDurations = []

/-- The muxer has no track and no fragment when it is opened. -/
theorem mp4eOpen_empty {τ : Type} (writeCallback : Nat → Bytes → τ → Int × τ)
    (sequentialModeFlag enableFragmentation : Bool) (token : τ) (allocs : List Bool) {mux : Mux}
    (hopen : (mp4eOpen writeCallback sequentialModeFlag enableFragmentation token allocs).1 =
      some mux) : mux.tracks = [] ∧ mux.fragmentDurations = [] := by
  unfold mp4eOpen at hopen
  simp only at hopen
  split at hopen
  · contradiction
  · split at hopen
    · contradiction
    · split at hopen
      · split at hopen
        · contradiction
        · cases hopen
          exact ⟨rfl, rfl⟩
      · cases hopen
        exact ⟨rfl, rfl⟩

/-- A new recorder is fresh. -/
theorem videoRecorderNew_fresh {cfg : RecordCfg} {answers : NewAnswers} {w w₁ : World}
    {rec : VideoRecorder} (hnew : videoRecorderNew cfg answers w = (some rec, w₁)) :
    Fresh rec := by
  unfold videoRecorderNew at hnew
  split at hnew
  · cases hnew
  · simp only at hnew
    split at hnew
    · cases hnew
    · split at hnew
      · cases hnew
      · unfold openMux at hnew
        simp only at hnew
        split at hnew
        · cases hnew
        · rename_i mux hopen
          rw [Prod.mk.injEq, Option.some.injEq] at hnew
          rw [← hnew.1]
          exact ⟨rfl, rfl, rfl, rfl, rfl, rfl, mux, rfl, mp4eOpen_empty _ _ _ _ _ hopen⟩

/-- A recorder that was just created has taken nothing yet. -/
theorem Fresh.flow {rec : VideoRecorder} (h : Fresh rec) (w : World) : Flow w [] rec w := by
  rcases h.mux with ⟨mux, hmux, -⟩
  apply Flow.start h.enabled _ h.pending h.total h.failed
  rw [hmux]
  rfl

/-- After the flush `video_recorder_free` writes no access unit. -/
theorem videoRecorderFree_emissions (rec : VideoRecorder) (w : World) :
    (videoRecorderFree rec w).emissions = (videoRecorderFlush rec w).2.emissions := by
  unfold videoRecorderFree
  simp only
  split
  · rfl
  · exact (callMux_close_kept _ _ _).emissions

/-- After the flush `video_recorder_free` holds no reference any more. -/
theorem videoRecorderFree_refs (rec : VideoRecorder) (w : World)
    (hpending : (videoRecorderFlush rec w).1.pending.buffer = none) :
    (videoRecorderFree rec w).refs = (videoRecorderFlush rec w).2.refs := by
  have hclosed : (mp4H26xWriteClose (videoRecorderFlush rec w).1).pending.buffer = none := by
    unfold mp4H26xWriteClose
    split
    · exact hpending
    · exact hpending
  unfold videoRecorderFree
  simp only
  split
  · simp only [pendingReset, hclosed, Option.toList_none, List.map_nil, List.append_nil]
  · rename_i mux _
    have hkept := callMux_close_kept mux (mp4H26xWriteClose (videoRecorderFlush rec w).1)
      (videoRecorderFlush rec w).2
    have hframe := callMux_frame (mp4eClose recorderWriteCallback) mux
      (mp4H26xWriteClose (videoRecorderFlush rec w).1) (videoRecorderFlush rec w).2
    simp only [pendingReset, hframe.2.2.2.2.1, hclosed, Option.toList_none, List.map_nil,
      List.append_nil]
    exact hkept.refs

/-- The flush gives back the last buffer and hands it over if the recorder has not
failed. -/
theorem Flow.flush {w₀ : World} {bs : List GstBuffer} {rec : VideoRecorder} {w : World}
    (h : Flow w₀ bs rec w) :
    (videoRecorderFlush rec w).1.pending.buffer = none ∧
      (videoRecorderFlush rec w).2.refs =
        w₀.refs ++ bs.flatMap (fun b => [.ref b, .unref b]) ∧
      ∃ es, (videoRecorderFlush rec w).2.emissions = w₀.emissions ++ es ∧
        HandedOver w₀.maps (if rec.failed then bs.dropLast else bs) es
          (videoRecorderFlush rec w).1 := by
  unfold videoRecorderFlush
  by_cases hfailed : rec.failed = true
  · rcases h.handed with ⟨es, hworld, hhanded⟩
    rw [hfailed, Bool.or_true, if_pos rfl, if_pos rfl]
    refine ⟨rfl, ?_, es, hworld, hhanded.data, hhanded.durations, hhanded.total, hhanded.failed⟩
    simp only [pendingReset, h.holding.buffer]
    exact h.refs
  · rw [Bool.not_eq_true] at hfailed
    rcases h.handOver hfailed gstClockTimeNone with ⟨hheld, -, -, hrefs, hhanded⟩
    rw [hfailed, h.holding.enabled, Bool.not_true, Bool.or_self, if_neg Bool.false_ne_true,
      if_neg Bool.false_ne_true]
    exact ⟨hheld.buffer, hrefs, hhanded⟩

/-- The samples in the life of a recorder are accounted for; the ones that arrive
after it has failed are not referenced. -/
theorem samples_accounted (cfg : RecordCfg) (answers : NewAnswers) (samples : List SampleArgs)
    (w w₁ : World) (rec : VideoRecorder) (hnew : videoRecorderNew cfg answers w = (some rec, w₁))
    (hbuffer : ∀ args ∈ samples, args.buffer.isSome = true) :
    LifeAccounted samples (taken samples rec w₁) rec w₁ := by
  have hflow := ((videoRecorderNew_fresh hnew).flow w₁).run hbuffer
  rw [List.nil_append] at hflow
  rcases taken_first samples rec w₁ with ⟨hfirst, hall⟩
  rcases hflow.flush with ⟨hnone, hrefs, es, hemissions, hhanded⟩
  refine ⟨es, (taken samples rec w₁).flatMap fun b => [.ref b, .unref b],
    (videoRecorderFree_emissions _ _).trans hemissions,
    (videoRecorderFree_refs _ _ hnone).trans hrefs, ?_⟩
  have hupTo : ∃ n, es.map Emission.data =
      written w₁.maps ((samples.filterMap SampleArgs.buffer).take n) := by
    have hshorter : (if (handleSamples samples rec w₁).1.failed then
        (taken samples rec w₁).dropLast else taken samples rec w₁) <+:
        samples.filterMap SampleArgs.buffer := by
      split
      · exact (List.dropLast_prefix _).trans hfirst
      · exact hfirst
    have hcut := List.prefix_iff_eq_take.mp hshorter
    exact ⟨_, hhanded.data.trans (congrArg (written w₁.maps) hcut)⟩
  refine ⟨?_, hupTo, ?_, hhanded.failed, hhanded.durations, hhanded.total, count_balanced _⟩
  · rcases hupTo with ⟨n, hn⟩
    rw [hn]
    exact (written_sublist _ _).trans ((List.take_sublist n _).map GstBuffer.data)
  · intro hworks
    have hbefore : (handleSamples samples rec w₁).1.failed = false := by
      by_contra hfailed
      rw [Bool.not_eq_false] at hfailed
      unfold videoRecorderFlush at hworks
      rw [hfailed, Bool.or_true, if_pos rfl] at hworks
      exact absurd (hfailed.symm.trans hworks) (by decide)
    rw [hhanded.data, hbefore, if_neg Bool.false_ne_true, hall hbefore]

/-! ## A sample that arrives too late -/

/-- The recorder created at noon, and the world it is created in. -/
def noonRecorder (mode : RecordMode) (w : World) : VideoRecorder × World :=
  let r := videoRecorderNew (mediaCfg mode) { timestamp := noon } w
  (r.1.getD {}, r.2)

theorem noonRecorder_new {mode : RecordMode} {w : World}
    (h : (videoRecorderNew (mediaCfg mode) { timestamp := noon } w).1.isSome = true) :
    videoRecorderNew (mediaCfg mode) { timestamp := noon } w =
      (some (noonRecorder mode w).1, (noonRecorder mode w).2) := by
  rcases Option.isSome_iff_exists.mp h with ⟨rec, hrec⟩
  apply Prod.ext
  · simp only [noonRecorder, hrec, Option.getD_some]
  · simp only [noonRecorder]

/-- An IDR and a slice are recorded and accounted for. -/
theorem samples_accounted_noon :
    LifeAccounted [sampleOf idrUnit, sampleOf sliceUnit]
      (taken [sampleOf idrUnit, sampleOf sliceUnit] (noonRecorder .standard {}).1
        (noonRecorder .standard {}).2)
      (noonRecorder .standard {}).1 (noonRecorder .standard {}).2 :=
  samples_accounted (mediaCfg .standard) { timestamp := noon }
    [sampleOf idrUnit, sampleOf sliceUnit] {} (noonRecorder .standard {}).2
    (noonRecorder .standard {}).1 (noonRecorder_new (by decide +kernel)) (by decide)

/-- Memory runs out while the first access unit is written, so the third sample
comes to a recorder that has failed: it is never referenced. -/
theorem late_sample_unreferenced :
    ¬ ∀ (cfg : RecordCfg) (answers : NewAnswers) (samples : List SampleArgs) (w w₁ : World)
      (rec : VideoRecorder), videoRecorderNew cfg answers w = (some rec, w₁) →
      (∀ args ∈ samples, args.buffer.isSome = true) →
      LifeAccounted samples (samples.filterMap SampleArgs.buffer) rec w₁ := by
  intro hall
  let w : World := { allocs := [true, false, false, false, false] }
  let samples := [sampleOf idrUnit, sampleOf sliceUnit, sampleOf sliceUnit]
  rcases hall (mediaCfg .standard) { timestamp := noon } samples w
    (noonRecorder .standard w).2 (noonRecorder .standard w).1
    (noonRecorder_new (by decide +kernel)) (by decide) with ⟨es, refs, -, hrefs, haccounted⟩
  have hlog : (videoRecorderFree
      (handleSamples samples (noonRecorder .standard w).1 (noonRecorder .standard w).2).1
      (handleSamples samples (noonRecorder .standard w).1 (noonRecorder .standard w).2).2).refs =
        [.ref { data := idrUnit }, .unref { data := idrUnit }, .ref { data := sliceUnit },
          .unref { data := sliceUnit }] := by
    decide +kernel
  have hnone : (noonRecorder .standard w).2.refs = [] := by
    decide +kernel
  rw [hlog, hnone, List.nil_append] at hrefs
  have hcount := (haccounted.references { data := sliceUnit }).1
  rw [← hrefs] at hcount
  exact absurd hcount (by decide +kernel)

end Recorder
end PixelPilot
