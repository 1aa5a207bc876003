import PixelPilot.Minimp4.Errors

/-!
# What the HEVC writer waits for

A new writer refuses every NAL unit but parameter sets until it has seen a VPS, an
SPS and a PPS and then an intra slice.  Whether it refuses an access unit depends
on the types of its NAL units and on what the writer has seen before: the
allocator and the files have no say in it.

Main results:

- Definition `H26xWriter.scan`: what the writer has seen after some NAL units, and
  whether it refused the last of them.
- Theorem `mp4H26xWriteNal_scan`: the writer of the program is the one of the
  scan, and `MP4E_STATUS_BAD_ARGUMENTS` is what a refused scan returns.
- Theorem `scan_refused_iff`: an access unit is refused exactly when its first NAL
  unit other than a parameter set comes too early.
-/

namespace PixelPilot
namespace Minimp4

open Fallible Fallible.Discipline

/-! ## The scan -/

/-- The NAL unit is a VPS, an SPS or a PPS. -/
def isParameterSet (nal : Bytes) : Bool :=
  payloadType nal = hevcNalVps || payloadType nal = hevcNalSps || payloadType nal = hevcNalPps

namespace H26xWriter

/-- The writer after one NAL unit, and whether it refused it. -/
def visit (h : H26xWriter) (nal : Bytes) : H26xWriter × Bool :=
  let seen := h.sawIntra (isIntra nal)
  if payloadType nal = hevcNalVps then ({ seen with needVps := false }, false)
  else if payloadType nal = hevcNalSps then ({ seen with needSps := false }, false)
  else if payloadType nal = hevcNalPps then ({ seen with needPps := false }, false)
  else (seen, seen.lacks)

/-- The writer after NAL units that stop at the first one refused, and whether one
was. -/
def scan : H26xWriter → List Bytes → H26xWriter × Bool
  | h, [] => (h, false)
  | h, nal :: rest => if (h.visit nal).2 then h.visit nal else scan (h.visit nal).1 rest

/-- The writer after access units. -/
def after (h : H26xWriter) (units : List Bytes) : H26xWriter :=
  units.foldl (fun h data => (h.scan (nalUnits data)).1) h

@[simp] theorem after_nil (h : H26xWriter) : h.after [] = h := rfl

theorem after_cons (h : H26xWriter) (data : Bytes) (units : List Bytes) :
    h.after (data :: units) = ((h.scan (nalUnits data)).1).after units := rfl

/-- Access units are seen one behind the other. -/
theorem after_append (h : H26xWriter) (units units' : List Bytes) :
    h.after (units ++ units') = (h.after units).after units' :=
  List.foldl_append

/-- Only intra slices are of a type below the parameter sets' that ends the wait. -/
theorem isIntra_of_parameterSet {nal : Bytes} (h : isParameterSet nal = true) :
    isIntra nal = false := by
  unfold isParameterSet at h
  unfold isIntra
  simp only [Bool.or_eq_true, decide_eq_true_eq] at h
  simp only [Bool.and_eq_false_iff, decide_eq_false_iff_not]
  unfold hevcNalVps hevcNalSps hevcNalPps at h
  unfold hevcNalBlaWLp hevcNalCraNut
  omega

theorem sawIntra_false (h : H26xWriter) : h.sawIntra false = h := rfl

/-- A writer that lacks nothing stays as it is. -/
theorem sawIntra_started {h : H26xWriter} (hstarted : h.lacks = false) (intra : Bool) :
    h.sawIntra intra = h := by
  unfold sawIntra
  split
  · unfold lacks at hstarted
    simp only [Bool.or_eq_false_iff] at hstarted
    rw [← hstarted.2]
  · rfl

/-- Once recording has started a unit changes nothing. -/
theorem visit_started {h : H26xWriter} (hstarted : h.lacks = false) (nal : Bytes) :
    h.visit nal = (h, false) := by
  have hsaw := sawIntra_started hstarted (isIntra nal)
  have hflags := hstarted
  unfold lacks at hflags
  simp only [Bool.or_eq_false_iff] at hflags
  rcases hflags with ⟨⟨⟨hvps, hsps⟩, hpps⟩, -⟩
  unfold visit
  simp only [hsaw]
  split
  · rw [← hvps]
  · split
    · rw [← hsps]
    · split
      · rw [← hpps]
      · rw [hstarted]

/-- Once started, a writer refuses nothing. -/
theorem scan_started {h : H26xWriter} (hstarted : h.lacks = false) (units : List Bytes) :
    h.scan units = (h, false) := by
  induction units with
  | nil => rfl
  | cons nal rest ih =>
      unfold scan
      rw [visit_started hstarted, if_neg Bool.false_ne_true]
      exact ih

/-- Once recording has started a whole stream changes nothing. -/
theorem after_started {h : H26xWriter} (hstarted : h.lacks = false) (units : List Bytes) :
    h.after units = h := by
  induction units with
  | nil => rfl
  | cons data rest ih =>
      rw [after_cons, scan_started hstarted]
      exact ih

/-- A NAL unit that is neither a parameter set nor refused finds the writer
started. -/
theorem visit_sample {h : H26xWriter} {nal : Bytes} (hsample : isParameterSet nal = false) :
    h.visit nal = (h.sawIntra (isIntra nal), (h.sawIntra (isIntra nal)).lacks) := by
  unfold isParameterSet at hsample
  simp only [Bool.or_eq_false_iff, decide_eq_false_iff_not] at hsample
  rcases hsample with ⟨⟨hvps, hsps⟩, hpps⟩
  unfold visit
  rw [if_neg hvps, if_neg hsps, if_neg hpps]

/-- A parameter set is never a sample. -/
theorem visit_parameterSet {h : H26xWriter} {nal : Bytes} (hset : isParameterSet nal = true) :
    (h.visit nal).2 = false := by
  unfold isParameterSet at hset
  unfold visit
  split
  · rfl
  · split
    · rfl
    · split
      · rfl
      · simp_all

/-- The kinds of parameter sets found among NAL units. -/
def missesAfter (h : H26xWriter) (sets : List Bytes) : Bool :=
  h.needVps && !sets.any (fun nal => payloadType nal = hevcNalVps) ||
    h.needSps && !sets.any (fun nal => payloadType nal = hevcNalSps) ||
    h.needPps && !sets.any (fun nal => payloadType nal = hevcNalPps)

/-- The NAL units may be written: the first one that is not a parameter set follows
all kinds of parameter sets, in the same access unit or an earlier one, and is
itself an intra slice or follows one. -/
def admits (h : H26xWriter) (units : List Bytes) : Bool :=
  match units.dropWhile isParameterSet with
  | [] => true
  | nal :: _ =>
      !h.missesAfter (units.takeWhile isParameterSet) && (isIntra nal || !h.needIdr)

/-- What a parameter set leaves missing, and that it leaves the wait for an IDR. -/
theorem missesAfter_cons (h : H26xWriter) {nal : Bytes} (hset : isParameterSet nal = true)
    (sets : List Bytes) :
    h.missesAfter (nal :: sets) = (h.visit nal).1.missesAfter sets ∧
      (h.visit nal).1.needIdr = h.needIdr := by
  have hintra := isIntra_of_parameterSet hset
  unfold isParameterSet at hset
  simp only [Bool.or_eq_true, decide_eq_true_eq] at hset
  unfold missesAfter visit
  rw [hintra, sawIntra_false]
  rcases hset with (hvps | hsps) | hpps
  · simp [hvps, hevcNalVps, hevcNalSps, hevcNalPps]
  · simp [hsps, hevcNalVps, hevcNalSps, hevcNalPps]
  · simp [hpps, hevcNalVps, hevcNalSps, hevcNalPps]

/-- The first NAL unit that is not a parameter set decides. -/
theorem lacks_sawIntra (h : H26xWriter) (intra : Bool) :
    (h.sawIntra intra).lacks = !(!h.missesAfter [] && (intra || !h.needIdr)) := by
  rcases h with ⟨trackId, needVps, needSps, needPps, needIdr⟩
  cases intra <;> cases needVps <;> cases needSps <;> cases needPps <;> cases needIdr <;> rfl

/-- An access unit is refused exactly when its first NAL unit other than a parameter
set comes too early. -/
theorem scan_refused (h : H26xWriter) (units : List Bytes) :
    (h.scan units).2 = !h.admits units := by
  induction units generalizing h with
  | nil => rfl
  | cons nal rest ih =>
      unfold scan
      by_cases hset : isParameterSet nal = true
      · rw [visit_parameterSet hset, if_neg Bool.false_ne_true, ih]
        unfold admits
        rw [List.dropWhile_cons_of_pos hset, List.takeWhile_cons_of_pos hset]
        rcases missesAfter_cons h hset (rest.takeWhile isParameterSet) with ⟨hmisses, hidr⟩
        rw [hmisses, hidr]
      · have hsample : isParameterSet nal = false := by
          simpa using hset
        rw [visit_sample hsample]
        unfold admits
        rw [List.dropWhile_cons_of_neg hset, List.takeWhile_cons_of_neg hset,
          ← lacks_sawIntra]
        simp only
        by_cases hlacks : (h.sawIntra (isIntra nal)).lacks = true
        · rw [hlacks, if_pos rfl]
        · rw [Bool.not_eq_true] at hlacks
          rw [hlacks, if_neg Bool.false_ne_true, scan_started hlacks]

/-- A writer that refuses a NAL unit still lacks something. -/
theorem scan_refused_lacks {h : H26xWriter} {units : List Bytes}
    (hrefused : (h.scan units).2 = true) : (h.scan units).1.lacks = true := by
  induction units generalizing h with
  | nil => exact absurd hrefused Bool.false_ne_true
  | cons nal rest ih =>
      unfold scan at hrefused ⊢
      by_cases hset : isParameterSet nal = true
      · rw [visit_parameterSet hset, if_neg Bool.false_ne_true] at hrefused ⊢
        exact ih hrefused
      · have hnot : isParameterSet nal = false := by
          simpa using hset
        rw [visit_sample hnot] at hrefused ⊢
        by_cases hlacks : (h.sawIntra (isIntra nal)).lacks = true
        · simp only [hlacks, if_true]
        · rw [Bool.not_eq_true] at hlacks
          simp only [hlacks, Bool.false_eq_true, if_false] at hrefused
          rw [scan_started hlacks] at hrefused
          contradiction

/-- A writer that has accepted a NAL unit other than a parameter set has started. -/
theorem scan_accepted {h : H26xWriter} {units : List Bytes}
    (haccepted : (h.scan units).2 = false) (hsample : ∃ nal ∈ units, isParameterSet nal = false) :
    (h.scan units).1.lacks = false := by
  induction units generalizing h with
  | nil =>
      rcases hsample with ⟨nal, hnal, -⟩
      exact absurd hnal List.not_mem_nil
  | cons nal rest ih =>
      unfold scan at haccepted ⊢
      by_cases hset : isParameterSet nal = true
      · rw [visit_parameterSet hset, if_neg Bool.false_ne_true] at haccepted ⊢
        apply ih haccepted
        rcases hsample with ⟨other, hother, hnot⟩
        rcases List.mem_cons.mp hother with rfl | hmem
        · exact absurd (hset.symm.trans hnot) (by decide)
        · exact ⟨other, hmem, hnot⟩
      · have hnot : isParameterSet nal = false := by
          simpa using hset
        rw [visit_sample hnot] at haccepted ⊢
        by_cases hlacks : (h.sawIntra (isIntra nal)).lacks = true
        · simp only [hlacks, if_true] at haccepted
          contradiction
        · rw [Bool.not_eq_true] at hlacks
          simp only [hlacks, Bool.false_eq_true, if_false]
          rw [scan_started hlacks]
          exact hlacks

end H26xWriter

/-! ## The program follows the scan -/

section Callback

variable {τ : Type} (writeCallback : Nat → Bytes → τ → Int × τ)

/-- A discipline that says nothing. -/
def anyErrors : Discipline Int τ where
  done _ _ := True
  fails _ _ _ := True
  refl _ := trivial
  trans _ _ := trivial
  after _ _ := trivial

theorem anyErrors_follows : CallbackFollows writeCallback (anyErrors : Discipline Int τ) :=
  fun _ _ _ => ⟨fun _ => trivial, fun _ => trivial⟩

/-- Writing a sample leaves the writer alone. -/
theorem mp4ePutSample_writer (trackNum : Nat) (data : Bytes) (duration : Nat)
    (kind : SampleKind) (s : Muxing τ) :
    (status (mp4ePutSample writeCallback trackNum data duration kind s)).2.writer = s.writer := by
  have hfollows := mp4ePutSample_follows (anyErrors_follows writeCallback) trackNum data duration
    kind s
  cases hrun : mp4ePutSample writeCallback trackNum data duration kind s with
  | ok _ t => exact (hfollows.ok hrun).2
  | error e t => exact (hfollows.error hrun).1

/-- A run of the writer ends as the scan says: refused with
`MP4E_STATUS_BAD_ARGUMENTS`, or else with an error only once the writer has
started. -/
def EndsAs (seen : H26xWriter × Bool) : EStateM.Result Int (Muxing τ) PUnit → Prop
  | .ok _ t => seen.2 = false ∧ t.writer = seen.1
  | .error e t =>
      t.writer = seen.1 ∧
        (seen.2 = true ∧ e = mp4eStatusBadArguments ∨ seen.2 = false ∧ seen.1.lacks = false)

/-- The writer that a result leaves. -/
theorem EndsAs.writer {seen : H26xWriter × Bool} {r : EStateM.Result Int (Muxing τ) PUnit}
    (h : EndsAs seen r) : (status r).2.writer = seen.1 := by
  cases r with
  | ok _ t => exact h.2
  | error e t => exact h.1

/-- A sample leaves the writer as it is, whether it is written or not. -/
theorem writeSample_endsAs (nal : Bytes) (timeStamp90kHzNext : Nat) (s : Muxing τ) :
    EndsAs (s.writer, s.writer.lacks) (writeSample writeCallback nal timeStamp90kHzNext s) := by
  by_cases hlacks : s.writer.lacks = true
  · have hrun : writeSample writeCallback nal timeStamp90kHzNext s =
        .error mp4eStatusBadArguments s := by
      change (if s.writer.lacks then throw mp4eStatusBadArguments else _ : Mp4 τ PUnit) s = _
      rw [if_pos hlacks]
      rfl
    rw [hrun]
    exact ⟨rfl, Or.inl ⟨hlacks, rfl⟩⟩
  · rw [Bool.not_eq_true] at hlacks
    let s₁ : Muxing τ := { s with allocs := (malloc s.allocs).2 }
    have hrun : writeSample writeCallback nal timeStamp90kHzNext s =
        (if !(malloc s.allocs).1 then throw mp4eStatusNoMemory
          else mp4ePutSample writeCallback s.writer.muxTrackId (write4 nal.length ++ nal)
            timeStamp90kHzNext (if isIntra nal then .randomAccess else .default) :
          Mp4 τ PUnit) s₁ := by
      change (if s.writer.lacks then throw mp4eStatusBadArguments else _ : Mp4 τ PUnit) s = _
      rw [hlacks, if_neg Bool.false_ne_true]
      rfl
    rw [hrun, hlacks]
    by_cases hmemory : (malloc s.allocs).1 = true
    · rw [hmemory, Bool.not_true, if_neg Bool.false_ne_true]
      have hwriter := mp4ePutSample_writer writeCallback s.writer.muxTrackId
        (write4 nal.length ++ nal) timeStamp90kHzNext
        (if isIntra nal then .randomAccess else .default) s₁
      cases hput : mp4ePutSample writeCallback s.writer.muxTrackId (write4 nal.length ++ nal)
          timeStamp90kHzNext (if isIntra nal then .randomAccess else .default) s₁ with
      | ok _ t =>
          rw [hput] at hwriter
          exact ⟨rfl, hwriter⟩
      | error e t =>
          rw [hput] at hwriter
          exact ⟨hwriter, Or.inr ⟨rfl, hlacks⟩⟩
    · rw [Bool.not_eq_true] at hmemory
      rw [hmemory, Bool.not_false, if_pos rfl]
      exact ⟨rfl, Or.inr ⟨rfl, hlacks⟩⟩

/-- The cases of `mp4_h265_write_nal`, once the NAL unit's type has been looked at. -/
theorem mp4H265WriteNal_eq (timeStamp90kHzNext : Nat) (nal : Bytes) (s : Muxing τ) :
    mp4H265WriteNal writeCallback timeStamp90kHzNext nal s =
      (if payloadType nal = hevcNalVps then
        mp4eSetParameterSet .vps (s.writer.sawIntra (isIntra nal)).muxTrackId nal >>= fun _ =>
          modify fun s => s.mapWriter fun h => { h with needVps := false }
      else if payloadType nal = hevcNalSps then
        mp4eSetParameterSet .sps (s.writer.sawIntra (isIntra nal)).muxTrackId nal >>= fun _ =>
          modify fun s => s.mapWriter fun h => { h with needSps := false }
      else if payloadType nal = hevcNalPps then
        mp4eSetParameterSet .pps (s.writer.sawIntra (isIntra nal)).muxTrackId nal >>= fun _ =>
          modify fun s => s.mapWriter fun h => { h with needPps := false }
      else writeSample writeCallback nal timeStamp90kHzNext : Mp4 τ PUnit)
        (s.mapWriter fun h => h.sawIntra (isIntra nal)) := rfl

/-- One NAL unit. -/
theorem mp4H265WriteNal_visit (timeStamp90kHzNext : Nat) (nal : Bytes) (s : Muxing τ) :
    EndsAs (s.writer.visit nal) (mp4H265WriteNal writeCallback timeStamp90kHzNext nal s) := by
  rw [mp4H265WriteNal_eq]
  unfold H26xWriter.visit
  by_cases hvps : payloadType nal = hevcNalVps
  · rw [if_pos hvps, if_pos hvps]
    exact ⟨rfl, rfl⟩
  · rw [if_neg hvps, if_neg hvps]
    by_cases hsps : payloadType nal = hevcNalSps
    · rw [if_pos hsps, if_pos hsps]
      exact ⟨rfl, rfl⟩
    · rw [if_neg hsps, if_neg hsps]
      by_cases hpps : payloadType nal = hevcNalPps
      · rw [if_pos hpps, if_pos hpps]
        exact ⟨rfl, rfl⟩
      · rw [if_neg hpps, if_neg hpps]
        exact writeSample_endsAs writeCallback nal timeStamp90kHzNext _

/-- A loop whose first turn completed goes on. -/
theorem forM_cons_ok {α σ : Type} {f : α → EStateM Int σ PUnit} {a : α} {rest : List α}
    {s t : σ} (h : f a s = .ok ⟨⟩ t) : (a :: rest).forM f s = rest.forM f t := by
  change EStateM.bind (f a) (fun _ => rest.forM f) s = _
  unfold EStateM.bind
  rw [h]

/-- A loop whose first turn failed has failed. -/
theorem forM_cons_error {α σ : Type} {f : α → EStateM Int σ PUnit} {a : α} {rest : List α}
    {s t : σ} {e : Int} (h : f a s = .error e t) : (a :: rest).forM f s = .error e t := by
  change EStateM.bind (f a) (fun _ => rest.forM f) s = _
  unfold EStateM.bind
  rw [h]

/-- The writer of the program is the one of the scan, and only a refused scan
returns before the writer has started. -/
theorem writeNals_scan (units : List Bytes) (timeStamp90kHzNext : Nat) (s : Muxing τ) :
    EndsAs (s.writer.scan units)
      (units.forM (mp4H265WriteNal writeCallback timeStamp90kHzNext) s) := by
  induction units generalizing s with
  | nil => exact ⟨rfl, rfl⟩
  | cons nal rest ih =>
      have hfirst := mp4H265WriteNal_visit writeCallback timeStamp90kHzNext nal s
      unfold H26xWriter.scan
      cases hrun : mp4H265WriteNal writeCallback timeStamp90kHzNext nal s with
      | ok _ t =>
          rw [hrun] at hfirst
          rw [forM_cons_ok hrun]
          rcases hfirst with ⟨hgoes, hwriter⟩
          rw [hgoes, if_neg Bool.false_ne_true, ← hwriter]
          exact ih t
      | error e t =>
          rw [hrun] at hfirst
          rw [forM_cons_error hrun]
          rcases hfirst with ⟨hwriter, ⟨hrefused, hbad⟩ | ⟨hgoes, hstarted⟩⟩
          · rw [if_pos hrefused]
            exact ⟨hwriter, Or.inl ⟨hrefused, hbad⟩⟩
          · rw [hgoes, if_neg Bool.false_ne_true, H26xWriter.scan_started hstarted]
            exact ⟨hwriter, Or.inr ⟨rfl, hstarted⟩⟩

/-- A whole access unit. -/
theorem mp4H26xWriteNal_scan (data : Bytes) (timeStamp90kHzNext : Nat) (s : Muxing τ) :
    EndsAs (s.writer.scan (nalUnits data))
      (mp4H26xWriteNal writeCallback data timeStamp90kHzNext s) :=
  writeNals_scan writeCallback (nalUnits data) timeStamp90kHzNext s

end Callback

end Minimp4
end PixelPilot
