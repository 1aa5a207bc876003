import Mathlib.Algebra.BigOperators.Ring.List
import Mathlib.Algebra.Ring.Nat
import Mathlib.Data.List.Chain
import PixelPilot.Library.Rounding
import PixelPilot.Recorder.SampleFlow

/-!
# Durations against time stamps

The duration of a sample is the gap to the next PTS, in whole ticks of 90 kHz.
Each gap is rounded down by itself, so what the roundings leave out adds up and
the recording falls behind the clock of the stream.

Main results:

- Definition `countTicks`: the ticks counted for a gap between two samples.
- Theorem `Clocked.run`: the total after any number of samples is the sum of the
  ticks of their gaps.
- Theorem `rounding_bounded_iff`: the total is within one tick of the real
  interval exactly when all roundings together lose less than two ticks.
- Theorem `thirty_fps_drifts`: at 30 frames a second the third gap already loses
  the second tick.
-/

namespace PixelPilot
namespace Recorder

open Minimp4 Rounding

/-! ## A steady stream -/

/-- Every sample has a valid PTS, no duration and a size that is recorded, and each
PTS is at least a tick after the one before. -/
structure Steady (bs : List GstBuffer) : Prop where
  valid : ∀ b ∈ bs, gstClockTimeIsValid b.pts = true
  noDuration : ∀ b ∈ bs, b.duration = gstClockTimeNone
  writable : ∀ b ∈ bs, b.writable = true
  apart : bs.IsChain fun a b => a.pts < b.pts ∧ 1 ≤ gstTimeTo90k (b.pts - a.pts)

theorem Steady.tail {b : GstBuffer} {bs : List GstBuffer} (h : Steady (b :: bs)) :
    Steady bs where
  valid a ha := h.valid a (List.mem_cons_of_mem b ha)
  noDuration a ha := h.noDuration a (List.mem_cons_of_mem b ha)
  writable a ha := h.writable a (List.mem_cons_of_mem b ha)
  apart := (List.isChain_cons.mp h.apart).2

theorem Steady.firstTwo {a b : GstBuffer} {bs : List GstBuffer} (h : Steady (a :: b :: bs)) :
    Steady [a, b] where
  valid c hc := h.valid c (List.mem_of_mem_take (i := 2) hc)
  noDuration c hc := h.noDuration c (List.mem_of_mem_take (i := 2) hc)
  writable c hc := h.writable c (List.mem_of_mem_take (i := 2) hc)
  apart := List.isChain_pair.mpr (List.isChain_cons_cons.mp h.apart).1

/-- The PTS of the samples, in nanoseconds. -/
def ptsTimes (bs : List GstBuffer) : List Nat := bs.map fun b => b.pts.toNat

/-- The ticks counted for a gap of so many nanoseconds. -/
def countTicks (gap : Nat) : Nat := min (gap * 90000 / gstSecond) 0xffffffff

/-- The part of the gaps that their counts leave out, in units of 1/90000 of a
nanosecond. -/
def lostInGaps (bs : List GstBuffer) : Nat :=
  lost gstSecond (fun gap => gap * 90000) countTicks (gaps (ptsTimes bs))

/-- Two lengths in ticks differ by at most one. -/
def WithinTick (total real : Nat) : Prop := total ≤ real + 1 ∧ real ≤ total + 1

instance (total real : Nat) : Decidable (WithinTick total real) :=
  inferInstanceAs (Decidable (_ ∧ _))

/-- A gap is never counted for more than it is. -/
theorem countTicks_le (gap : Nat) : gstSecond * countTicks gap ≤ gap * 90000 := by
  have hdiv := Nat.mul_div_le (gap * 90000) gstSecond
  have hmin : countTicks gap ≤ gap * 90000 / gstSecond := Nat.min_le_left _ _
  exact (Nat.mul_le_mul_left gstSecond hmin).trans hdiv

/-- A difference of valid time stamps is valid itself. -/
theorem gstTimeTo90k_sub {a b : ClockTime} (h : a ≤ b) (hvalid : gstClockTimeIsValid b = true) :
    gstTimeTo90k (b - a) = (b.toNat - a.toNat) * 90000 / gstSecond := by
  have hsub : (b - a).toNat = b.toNat - a.toNat := UInt64.toNat_sub_of_le b a h
  have hne : b ≠ gstClockTimeNone := by
    simpa [gstClockTimeIsValid] using hvalid
  have hdiff : gstClockTimeIsValid (b - a) = true := by
    simp only [gstClockTimeIsValid, ne_eq, decide_eq_true_eq]
    intro heq
    apply hne
    apply UInt64.toNat_inj.mp
    have hbound := b.toNat_lt
    have hnone : gstClockTimeNone.toNat = 18446744073709551615 := rfl
    rw [heq] at hsub
    omega
  unfold gstTimeTo90k
  rw [if_pos hdiff, hsub]

/-- The duration of a sample without one of its own is the gap to its successor. -/
theorem computeDuration90k_gap {a b : ClockTime} (rec : VideoRecorder)
    (ha : gstClockTimeIsValid a = true) (hb : gstClockTimeIsValid b = true) (hlt : a < b)
    (hgap : 1 ≤ gstTimeTo90k (b - a)) :
    (computeDuration90k rec a gstClockTimeNone b).1 = countTicks (b.toNat - a.toNat) := by
  have hnone : gstClockTimeIsValid gstClockTimeNone = false := by decide
  have hne : gstTimeTo90k (b - a) ≠ 0 := Nat.pos_iff_ne_zero.mp hgap
  unfold computeDuration90k countTicks
  simp only [hnone, ha, hb, hlt, hne, Bool.false_eq_true, if_false, decide_true, Bool.and_self,
    if_true]
  rw [gstTimeTo90k_sub (UInt64.le_of_lt hlt) hb]

/-! ## The clock of a recorder -/

/-- The recorder works, keeps `b` with its PTS and no duration, and has counted
`ticks`; all buffers still to come can be mapped. -/
structure Clocked (ticks : Nat) (b : GstBuffer) (rec : VideoRecorder) (w : World) : Prop where
  holding : Holding (some b) rec
  works : rec.failed = false
  pts : rec.pending.pts = b.pts
  duration : rec.pending.duration = gstClockTimeNone
  total : rec.totalDuration90k = ticks
  maps : ∀ m ∈ w.maps, m = true

/-- All access units the writer was given between two worlds were written. -/
def AllWritten (w w' : World) : Prop :=
  ∃ es, w'.emissions = w.emissions ++ es ∧ ∀ e ∈ es, e.err = mp4eStatusOk

/-- The units written in a run were written in its parts. -/
theorem AllWritten.split {w w' w'' : World} (h : AllWritten w w'') (hfirst : w.Emits w')
    (hrest : w'.Emits w'') : AllWritten w w' ∧ AllWritten w' w'' := by
  rcases h with ⟨es, heq, hall⟩
  rcases hfirst with ⟨es₁, heq₁, -⟩
  rcases hrest with ⟨es₂, heq₂, -⟩
  have hsplit : es = es₁ ++ es₂ := by
    rw [heq₁, List.append_assoc] at heq₂
    exact List.append_cancel_left (heq.symm.trans heq₂)
  subst hsplit
  refine ⟨⟨es₁, heq₁, ?_⟩, es₂, heq₂, ?_⟩
  · intro e he
    exact hall e (List.mem_append_left es₂ he)
  · intro e he
    exact hall e (List.mem_append_right es₁ he)

/-- A valid time is taken from the buffer. -/
theorem sampleTimes_steady {args : SampleArgs} {b : GstBuffer} (hbuffer : args.buffer = some b)
    (hvalid : gstClockTimeIsValid b.pts = true) : sampleTimes args = (b.pts, b.duration) := by
  simp [sampleTimes, hbuffer, hvalid]

/-- The first sample is only kept. -/
theorem Fresh.clocked {args : SampleArgs} {b : GstBuffer} {rec : VideoRecorder} {w : World}
    (h : Fresh rec) (hbuffer : args.buffer = some b) (hvalid : gstClockTimeIsValid b.pts = true)
    (hnone : b.duration = gstClockTimeNone) (hmaps : ∀ m ∈ w.maps, m = true) :
    Clocked 0 b (videoRecorderHandleSample args rec w).1
      (videoRecorderHandleSample args rec w).2 := by
  rcases h.mux with ⟨mux, hmux, -⟩
  have hsome : rec.mux.isSome = true := by
    rw [hmux]
    rfl
  rcases ensureWriterInitialized_ok rec args.sample hsome with ⟨hok, hsame⟩
  rcases ensureWriterInitialized_frame rec args.sample hsome with
    ⟨henabled, hmux', hpending, htotal, hinit⟩
  have hidle : (ensureWriterInitialized rec args.sample).2.pending.valid = false := by
    rw [hpending, h.pending]
  rw [handleSample_eq h.enabled h.failed hok hbuffer, sampleTimes_steady hbuffer hvalid]
  unfold emitBefore
  rw [hidle, if_neg Bool.false_ne_true]
  exact ⟨⟨henabled.trans h.enabled, hmux', rfl, rfl, fun _ => hinit⟩, hsame.trans h.failed, rfl,
    hnone, htotal.trans h.total, hmaps⟩

/-- The next sample: the gap before it is counted. -/
theorem Clocked.next {ticks : Nat} {a b : GstBuffer} {args : SampleArgs} {rec : VideoRecorder}
    {w : World} (h : Clocked ticks a rec w) (hsteady : Steady [a, b])
    (hbuffer : args.buffer = some b)
    (hwritten : AllWritten w (videoRecorderHandleSample args rec w).2) :
    Clocked (ticks + countTicks (b.pts.toNat - a.pts.toNat))
      b (videoRecorderHandleSample args rec w).1 (videoRecorderHandleSample args rec w).2 := by
  have ha := hsteady.valid a List.mem_cons_self
  have hb := hsteady.valid b (List.mem_cons_of_mem a List.mem_cons_self)
  rcases List.isChain_pair.mp hsteady.apart with ⟨hlt, hgap⟩
  have htimes := sampleTimes_steady hbuffer hb
  have hinit := h.holding.initialized rfl
  have hensured := ensureWriterInitialized_initialized args.sample hinit
  have hok : (ensureWriterInitialized rec args.sample).1 = true := by
    rw [hensured]
  rw [handleSample_eq h.holding.enabled h.works hok hbuffer] at hwritten ⊢
  rw [hensured, htimes] at hwritten ⊢
  have hstep := emitBefore_handed h.holding h.works w b.pts
  rw [h.pts, h.duration, computeDuration90k_gap rec ha hb hlt hgap] at hstep
  rcases hstep.emissions with ⟨es, hworld, hdata, hticks, htotal, hfails⟩
  have hmap : w.maps.headD true = true := by
    cases hcase : w.maps with
    | nil => rfl
    | cons m rest =>
        apply h.maps
        rw [hcase]
        exact List.mem_cons_self
  rw [written, hsteady.writable a List.mem_cons_self, if_pos rfl, hmap, if_pos rfl, written_nil]
    at hdata
  rcases List.map_eq_singleton_iff.mp hdata with ⟨e, rfl, -⟩
  have hone : e.err = mp4eStatusOk := by
    rcases hwritten with ⟨es, heq, hall⟩
    have hlog := hworld.symm.trans heq
    rw [List.append_cancel_left_eq] at hlog
    rw [← hlog] at hall
    exact hall e List.mem_cons_self
  refine ⟨⟨hstep.enabled.trans h.holding.enabled, hstep.mux.trans h.holding.mux, rfl, rfl,
    fun _ => hstep.initialized.trans hinit⟩, ?_, rfl,
    hsteady.noDuration b (List.mem_cons_of_mem a List.mem_cons_self), ?_, ?_⟩
  · by_contra hfailed
    rw [Bool.not_eq_false] at hfailed
    rcases hfails hfailed with ⟨e', he', -, hne⟩
    rw [List.getLast?_singleton, Option.mem_some_iff] at he'
    subst he'
    exact hne hone
  · rw [acceptedTicks_single, if_pos hone, hticks e List.mem_cons_self, h.total] at htotal
    exact htotal
  · intro m hm
    have hleft : m ∈ (if a.writable then w.maps.tail else w.maps) := by
      rw [hstep.maps] at hm
      exact hm
    rw [hsteady.writable a List.mem_cons_self, if_pos rfl] at hleft
    exact h.maps m (List.mem_of_mem_tail hleft)

/-- After any number of samples the total is the sum of the ticks of their gaps. -/
theorem Clocked.run {ticks : Nat} {b : GstBuffer} {rest : List GstBuffer}
    {samples : List SampleArgs} {rec : VideoRecorder} {w : World} (h : Clocked ticks b rec w)
    (hsteady : Steady (b :: rest))
    (hsamples : samples.map SampleArgs.buffer = rest.map some)
    (hwritten : AllWritten w (handleSamples samples rec w).2) :
    (handleSamples samples rec w).1.totalDuration90k =
      ticks + ((gaps (ptsTimes (b :: rest))).map countTicks).sum := by
  induction samples generalizing ticks b rest rec w with
  | nil =>
      have hrest : rest = [] := by
        simpa using hsamples.symm
      subst hrest
      exact h.total
  | cons args samples ih =>
      cases rest with
      | nil => simp at hsamples
      | cons c rest =>
          simp only [List.map_cons, List.cons.injEq] at hsamples
          rcases hsamples with ⟨hbuffer, hsamples⟩
          rw [handleSamples_cons] at hwritten ⊢
          rcases hwritten.split (videoRecorderHandleSample_step args rec w).emits
            (handleSamples_step samples _ _).emits with ⟨hfirst, hlater⟩
          have hpair : Steady [b, c] := hsteady.firstTwo
          have hnext := ih (h.next hpair hbuffer hfirst) hsteady.tail hsamples hlater
          rw [hnext]
          simp only [ptsTimes, List.map_cons, gaps, List.sum_cons]
          omega

/-! ## The length of a recording -/

/-- The PTS ascend. -/
theorem Steady.ascending {bs : List GstBuffer} (h : Steady bs) :
    (ptsTimes bs).IsChain (· ≤ ·) := by
  unfold ptsTimes
  rw [List.isChain_map]
  apply h.apart.imp
  intro a b hab
  exact Nat.le_of_lt (UInt64.lt_iff_toNat_lt.mp hab.1)

/-- The gaps make up the real interval. -/
theorem Steady.interval {first : GstBuffer} {rest : List GstBuffer}
    (h : Steady (first :: rest)) :
    gstTimeTo90k (((first :: rest).getLast (List.cons_ne_nil first rest)).pts - first.pts) =
      ((gaps (ptsTimes (first :: rest))).map fun gap => gap * 90000).sum / gstSecond := by
  have hsum : first.pts.toNat + (gaps (ptsTimes (first :: rest))).sum =
      (ptsTimes (first :: rest)).getLast (by simp [ptsTimes]) := sum_gaps h.ascending
  have hlast : (ptsTimes (first :: rest)).getLast (by simp [ptsTimes]) =
      ((first :: rest).getLast (List.cons_ne_nil first rest)).pts.toNat := by
    simp only [ptsTimes, List.getLast_map]
  have hle : first.pts ≤ ((first :: rest).getLast (List.cons_ne_nil first rest)).pts := by
    rw [UInt64.le_iff_toNat_le]
    omega
  rw [gstTimeTo90k_sub hle (h.valid _ (List.getLast_mem _)), List.sum_map_mul_right]
  congr 2
  simp only [List.map_id']
  omega

/-- The total of a recorded stream is within one tick of the real interval exactly
when less than two ticks are lost in its gaps. -/
theorem rounding_bounded_iff (cfg : RecordCfg) (answers : NewAnswers) (w w₁ : World)
    (rec : VideoRecorder) (hnew : videoRecorderNew cfg answers w = (some rec, w₁))
    (samples : List SampleArgs) (first : GstBuffer) (rest : List GstBuffer)
    (hsamples : samples.map SampleArgs.buffer = (first :: rest).map some)
    (hsteady : Steady (first :: rest)) (hmaps : ∀ m ∈ w₁.maps, m = true)
    (hwritten : AllWritten w₁ (handleSamples samples rec w₁).2) :
    WithinTick (handleSamples samples rec w₁).1.totalDuration90k
        (gstTimeTo90k
          (((first :: rest).getLast (List.cons_ne_nil first rest)).pts - first.pts)) ↔
      lostInGaps (first :: rest) < 2 * gstSecond := by
  have hpos : 0 < gstSecond := by decide
  have hle : ∀ gap ∈ gaps (ptsTimes (first :: rest)), gstSecond * countTicks gap ≤ gap * 90000 :=
    fun gap _ => countTicks_le gap
  have htotal : (handleSamples samples rec w₁).1.totalDuration90k =
      ((gaps (ptsTimes (first :: rest))).map countTicks).sum := by
    cases samples with
    | nil => simp at hsamples
    | cons args samples =>
        simp only [List.map_cons, List.cons.injEq] at hsamples
        rcases hsamples with ⟨hbuffer, hsamples⟩
        rw [handleSamples_cons] at hwritten ⊢
        have hclocked := (videoRecorderNew_fresh hnew).clocked (w := w₁) hbuffer
          (hsteady.valid first List.mem_cons_self) (hsteady.noDuration first List.mem_cons_self)
          hmaps
        rcases hwritten.split (videoRecorderHandleSample_step args rec w₁).emits
          (handleSamples_step samples _ _).emits with ⟨-, hlater⟩
        rw [hclocked.run hsteady hsamples hlater, Nat.zero_add]
  have hbehind := sum_div_le_iff hpos hle 1
  have hnever := counts_le hpos hle
  rw [htotal, hsteady.interval]
  unfold WithinTick lostInGaps
  constructor
  · intro hwithin
    exact hbehind.mp hwithin.2
  · intro hlost
    exact ⟨by omega, hbehind.mpr hlost⟩

/-! ## Thirty frames a second -/

/-- A stream of four frames, a thirtieth of a second apart. -/
def thirtyFps : List GstBuffer :=
  [{ data := idrUnit, pts := 0 }, { data := sliceUnit, pts := 33333333 },
    { data := sliceUnit, pts := 66666666 }, { data := sliceUnit, pts := 100000000 }]

/-- The calls that record the stream. -/
def thirtyFpsSamples : List SampleArgs :=
  thirtyFps.map fun b => { sample := none, buffer := some b }

theorem thirtyFps_steady : Steady thirtyFps where
  valid := by decide
  noDuration := by decide
  writable := by decide
  apart := by
    simp only [thirtyFps, List.isChain_cons_cons, List.isChain_singleton, and_true]
    decide

/-- All frames of the stream are written. -/
theorem thirtyFps_written :
    AllWritten (noonRecorder .standard {}).2
      (handleSamples thirtyFpsSamples (noonRecorder .standard {}).1
        (noonRecorder .standard {}).2).2 := by
  have hnone : (noonRecorder .standard {}).2.emissions = [] := by
    decide +kernel
  refine ⟨(handleSamples thirtyFpsSamples (noonRecorder .standard {}).1
    (noonRecorder .standard {}).2).2.emissions, ?_, ?_⟩
  · rw [hnone, List.nil_append]
  · decide +kernel

/-- The first three of the frames lose a little less than two ticks. -/
theorem rounding_bounded_iff_thirty :
    WithinTick
      (handleSamples (thirtyFpsSamples.take 3) (noonRecorder .standard {}).1
        (noonRecorder .standard {}).2).1.totalDuration90k
      (gstTimeTo90k 66666666) := by
  have hnone : (noonRecorder .standard {}).2.emissions = [] := by
    decide +kernel
  have hsteady : Steady (thirtyFps.take 3) := by
    refine ⟨by decide, by decide, by decide, ?_⟩
    exact thirtyFps_steady.apart.take 3
  have hwritten : AllWritten (noonRecorder .standard {}).2
      (handleSamples (thirtyFpsSamples.take 3) (noonRecorder .standard {}).1
        (noonRecorder .standard {}).2).2 := by
    refine ⟨(handleSamples (thirtyFpsSamples.take 3) (noonRecorder .standard {}).1
      (noonRecorder .standard {}).2).2.emissions, ?_, ?_⟩
    · rw [hnone, List.nil_append]
    · decide +kernel
  exact (rounding_bounded_iff (mediaCfg .standard) { timestamp := noon } {}
    (noonRecorder .standard {}).2 (noonRecorder .standard {}).1
    (noonRecorder_new (by decide +kernel)) (thirtyFpsSamples.take 3)
    { data := idrUnit, pts := 0 } _ rfl hsteady (by decide +kernel) hwritten).mpr (by decide)

/-- At 30 frames a second the recording is two ticks behind after three gaps. -/
theorem thirty_fps_drifts :
    ¬ ∀ (cfg : RecordCfg) (answers : NewAnswers) (w w₁ : World) (rec : VideoRecorder),
      videoRecorderNew cfg answers w = (some rec, w₁) →
      ∀ (samples : List SampleArgs) (first : GstBuffer) (rest : List GstBuffer),
        samples.map SampleArgs.buffer = (first :: rest).map some →
        Steady (first :: rest) → (∀ m ∈ w₁.maps, m = true) →
        AllWritten w₁ (handleSamples samples rec w₁).2 →
        WithinTick (handleSamples samples rec w₁).1.totalDuration90k
          (gstTimeTo90k
            (((first :: rest).getLast (List.cons_ne_nil first rest)).pts - first.pts)) := by
  intro hall
  have hwithin := hall (mediaCfg .standard) { timestamp := noon } {}
    (noonRecorder .standard {}).2 (noonRecorder .standard {}).1
    (noonRecorder_new (by decide +kernel)) thirtyFpsSamples { data := idrUnit, pts := 0 } _ rfl
    thirtyFps_steady (by decide +kernel) thirtyFps_written
  exact absurd hwithin (by decide +kernel)

end Recorder
end PixelPilot
