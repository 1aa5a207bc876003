import PixelPilot.Pipeline.RecorderOwnership
import PixelPilot.Pipeline.Sessions
import PixelPilot.Recorder.Playback

/-!
# The file of a session

In every interleaving the file of a recorder holds what was handed to this recorder: the samples
that the appsink thread took while it was installed.  What other calls create, reject and free in
the meantime does not show in it, nor when the freeing of the recorder comes about.

Main results:

- Definition `buffersGiven`: the buffers that a recorder is given in a run.
- Theorem `SessionOf.step`: every step keeps what is known of a recorder and its file.
- Theorem `session_plays`: the file of a freed recorder is read back as what it was given.
-/

namespace PixelPilot
namespace Recorder

open Minimp4 Fallible PositionedWrites MediaFile

/-! ## One call of a recorder -/

section Calls

variable {path : Path} {fragmentation : Bool} {es : List Emission} {rec : VideoRecorder}
variable {w : World} {held : Option GstBuffer}

/-- What is emitted before the next sample is the sample kept. -/
theorem Holding.emitBefore (h : Holding held rec) (hfailed : rec.failed = false) (w : World)
    (nextPts : ClockTime) :
    Holding none (emitBefore nextPts rec w).1 ∧
      (emitBefore nextPts rec w).1.writerInitialized = rec.writerInitialized ∧
      ∃ es, (emitBefore nextPts rec w).2.emissions = w.emissions ++ es ∧
        es.map Emission.data = written w.maps held.toList := by
  cases held with
  | none =>
      have hvalid : rec.pending.valid = false := h.valid
      unfold Recorder.emitBefore
      rw [hvalid, if_neg Bool.false_ne_true]
      exact ⟨h, rfl, [], (List.append_nil _).symm, rfl⟩
  | some b =>
      have hstep := emitBefore_handed h hfailed w nextPts
      rcases hstep.emissions with ⟨es, hemissions, hdata, -⟩
      refine ⟨⟨hstep.enabled.trans h.enabled, hstep.mux.trans h.mux, ?_, ?_, ?_⟩,
        hstep.initialized, es, hemissions, hdata⟩
      · rw [hstep.pending]
      · rw [hstep.pending]
        rfl
      · intro hnone
        contradiction

/-- A call of `video_recorder_handle_sample` records the sample kept and keeps its own. -/
theorem Recording.take (h : Recording path fragmentation es rec w) (hheld : Holding held rec)
    {args : SampleArgs} {b : GstBuffer} (hbuffer : args.buffer = some b) :
    Holding (some b) (videoRecorderHandleSample args rec w).1 ∧
      ∃ es', (videoRecorderHandleSample args rec w).2.emissions = w.emissions ++ es' ∧
        es'.map Emission.data = written w.maps held.toList ∧
        Recording path fragmentation (es ++ es') (videoRecorderHandleSample args rec w).1
          (videoRecorderHandleSample args rec w).2 := by
  rcases ensureWriterInitialized_ok rec args.sample hheld.mux with ⟨hok, hsame⟩
  rcases ensureWriterInitialized_frame rec args.sample hheld.mux with
    ⟨henabled, hmux, hpending, -, hinit⟩
  have hready : Holding held (ensureWriterInitialized rec args.sample).2 := by
    refine ⟨henabled.trans hheld.enabled, hmux, ?_, ?_, fun _ => hinit⟩
    · rw [hpending]
      exact hheld.buffer
    · rw [hpending]
      exact hheld.valid
  rcases hready.emitBefore (hsame.trans h.failed) w (sampleTimes args).1 with
    ⟨hnone, hstill, es', hemissions, hdata⟩
  have heq := handleSample_eq (w := w) hheld.enabled h.failed hok hbuffer
  rcases h.handleSample args with ⟨es'', hemissions', hnext⟩
  have hsame' : es' = es'' := by
    rw [heq] at hemissions'
    exact List.append_cancel_left (hemissions.symm.trans hemissions')
  subst hsame'
  refine ⟨?_, es', hemissions', hdata, hnext⟩
  rw [heq]
  exact ⟨hnone.enabled, hnone.mux, rfl, rfl, fun _ => hstill.trans hinit⟩

/-- `video_recorder_free` records the sample kept and finishes the file. -/
theorem Recording.finish (h : Recording path fragmentation es rec w) (hheld : Holding held rec) :
    ∃ es', (videoRecorderFree rec w).emissions = w.emissions ++ es' ∧
      es'.map Emission.data = written w.maps held.toList ∧
      (∀ e ∈ es ++ es', e.data.length ≤ intMax ∧ e.duration90k ≤ 0xffffffff) ∧
      Finished (setsOf (es ++ es')) ((videoRecorderFree rec w).bytesOf path)
        (recorded newWriter (es ++ es')) fragmentation := by
  rcases hheld.emitBefore h.failed w gstClockTimeNone with ⟨-, -, es', hemissions, hdata⟩
  have hflush : videoRecorderFlush rec w = Recorder.emitBefore gstClockTimeNone rec w := by
    unfold videoRecorderFlush
    rw [h.failed, hheld.enabled]
    rfl
  rcases h.flush with ⟨es'', hemissions', hflushed⟩
  have hsame : es' = es'' := by
    rw [hflush] at hemissions'
    exact List.append_cancel_left (hemissions.symm.trans hemissions')
  subst hsame
  exact ⟨es', (videoRecorderFree_emissions rec w).trans hemissions', hdata, hflushed.limits,
    hflushed.close⟩

end Calls

/-- The access units of the buffers that can be written. -/
def unitsOf (bs : List GstBuffer) : List Bytes :=
  (bs.filter GstBuffer.writable).map GstBuffer.data

/-- When every buffer can be mapped. -/
theorem written_mapped {maps : List Bool} (h : ∀ ok ∈ maps, ok = true) (bs : List GstBuffer) :
    written maps bs = unitsOf bs := by
  induction bs generalizing maps with
  | nil => rfl
  | cons b bs ih =>
      have hhead : maps.headD true = true := by
        cases maps with
        | nil => rfl
        | cons ok maps => exact h ok List.mem_cons_self
      have hrest : written maps.tail bs = unitsOf bs :=
        ih fun ok hok => h ok (List.mem_of_mem_tail hok)
      have hsame := ih h
      unfold written unitsOf
      by_cases hwritable : b.writable = true
      · rw [List.filter_cons_of_pos hwritable, if_pos hwritable, hhead, hrest]
        rfl
      · rw [List.filter_cons_of_neg hwritable, if_neg hwritable, hsame]
        rfl

/-- A recorder does not write to the files of others. -/
theorem Step.bytesOf {path : Path} {rec rec' : VideoRecorder} {w w' : World}
    (h : Step rec w rec' w') (hfp : rec.fp ≠ some path) : w'.bytesOf path = w.bytesOf path := by
  rw [World.bytesOf, World.bytesOf, h.files path hfp]

/-- A step emits behind what was emitted. -/
theorem Step.sublist {rec rec' : VideoRecorder} {w w' : World} (h : Step rec w rec' w') :
    w.emissions.Sublist w'.emissions := by
  rcases h.emits with ⟨es, hemissions, -⟩
  rw [hemissions]
  exact List.sublist_append_left _ _

end Recorder

namespace Pipeline

open Minimp4 Recorder Transition MediaFile

/-! ## What a recorder is given -/

/-- The buffer that a step gives to the recorder. -/
def givenIn (id : Nat) (s : Shared) : RecorderAction → List GstBuffer
  | .sample _ args _ => if s.recorder = some id then args.buffer.toList else []
  | _ => []

/-- The buffers that the recorder is given in a run. -/
def buffersGiven (id : Nat) : Shared → List RecorderAction → List GstBuffer
  | _, [] => []
  | s, a :: as =>
      match sharedNext s a with
      | none => []
      | some s' => givenIn id s a ++ buffersGiven id s' as

/-- Answers without a failure. -/
structure Io.Calm (io : Io) : Prop where
  writes : AllComplete io.writes
  allocs : Ample io.allocs
  maps : ∀ ok ∈ io.maps, ok = true

/-- No other recorder is created for the file, samples come with their buffers, and nothing fails
in the calls on installed and leaving recorders. -/
def RecorderAction.Calm (path : Path) : RecorderAction → Prop
  | .create _ cfg answers _ => newOutputPath cfg answers ≠ path
  | .freeEnd _ io => io.Calm
  | .sample _ args io => io.Calm ∧ args.buffer.isSome = true
  | _ => True

/-! ## A recorder and its file -/

/-- The recorder is in memory: its file shows all buffers but the last, which it keeps. -/
structure Alive (path : Path) (fragmentation : Bool) (id : Nat) (bs : List GstBuffer)
    (s : Shared) (rec : VideoRecorder) (es : List Emission) : Prop where
  heap : s.heap id = some rec
  recording : Recorder.Recording path fragmentation es rec (answering {} s.world)
  holding : Holding bs.getLast? rec
  data : es.map Emission.data = unitsOf bs.dropLast
  emissions : es.Sublist s.world.emissions

/-- The recorder has been freed: its file shows all buffers. -/
structure Gone (path : Path) (fragmentation : Bool) (id : Nat) (bs : List GstBuffer)
    (s : Shared) (es : List Emission) : Prop where
  heap : s.heap id = none
  finished : Finished (setsOf es) (s.world.bytesOf path) (recorded newWriter es) fragmentation
  limits : ∀ e ∈ es, e.data.length ≤ intMax ∧ e.duration90k ≤ 0xffffffff
  data : es.map Emission.data = unitsOf bs
  emissions : es.Sublist s.world.emissions

/-- What is known of a recorder that was given some buffers, and of its file, which is nobody
else's. -/
structure SessionOf (path : Path) (fragmentation : Bool) (id : Nat) (bs : List GstBuffer)
    (s : Shared) : Prop where
  past : id < s.fresh
  others : ∀ id' rec, id' ≠ id → s.heap id' = some rec → rec.fp ≠ some path
  phase : (∃ rec es, Alive path fragmentation id bs s rec es) ∨
    ∃ es, Gone path fragmentation id bs s es

section Steps

variable {path : Path} {fragmentation : Bool} {id : Nat} {bs : List GstBuffer} {s s' : Shared}

/-- A step that does not touch the recorder and its file. -/
theorem SessionOf.apart (h : SessionOf path fragmentation id bs s) (hheap : s'.heap id = s.heap id)
    (hbytes : s'.world.bytesOf path = s.world.bytesOf path)
    (hemissions : s.world.emissions.Sublist s'.world.emissions) (hfresh : s.fresh ≤ s'.fresh)
    (hothers : ∀ id' rec, id' ≠ id → s'.heap id' = some rec → rec.fp ≠ some path) :
    SessionOf path fragmentation id bs s' where
  past := Nat.lt_of_lt_of_le h.past hfresh
  others := hothers
  phase := by
    rcases h.phase with ⟨rec, es, halive⟩ | ⟨es, hgone⟩
    · left
      refine ⟨rec, es, hheap.trans halive.heap, ?_, halive.holding, halive.data,
        halive.emissions.trans hemissions⟩
      exact halive.recording.congr rfl rfl rfl rfl rfl halive.recording.writes
        halive.recording.allocs hbytes
    · right
      refine ⟨es, hheap.trans hgone.heap, ?_, hgone.limits, hgone.data,
        hgone.emissions.trans hemissions⟩
      rw [hbytes]
      exact hgone.finished

/-- Only threads and the slot have changed. -/
theorem SessionOf.quiet (h : SessionOf path fragmentation id bs s) (hheap : s'.heap = s.heap)
    (hworld : s'.world = s.world) (hfresh : s'.fresh = s.fresh) :
    SessionOf path fragmentation id bs s' := by
  refine h.apart ?_ ?_ ?_ (Nat.le_of_eq hfresh.symm) ?_
  · rw [hheap]
  · rw [hworld]
  · rw [hworld]
  · rw [hheap]
    exact h.others

/-- The memory of one recorder has changed, and the file is still nobody else's. -/
theorem SessionOf.others_update (h : SessionOf path fragmentation id bs s) {id' : Nat}
    {v : Option VideoRecorder} (hv : id' ≠ id → ∀ rec, v = some rec → rec.fp ≠ some path) :
    ∀ id'' rec, id'' ≠ id → Function.update s.heap id' v id'' = some rec → rec.fp ≠ some path := by
  intro id'' rec hne hheap
  by_cases heq : id'' = id'
  · subst heq
    rw [Function.update_self] at hheap
    exact hv hne rec hheap
  · rw [Function.update_of_ne heq] at hheap
    exact h.others id'' rec hne hheap

/-- A recorder is created for another file, or none is. -/
theorem SessionOf.create (h : SessionOf path fragmentation id bs s) {t : Nat} {cfg : RecordCfg}
    {answers : NewAnswers} {io : Io} (hother : newOutputPath cfg answers ≠ path)
    (hnext : sharedNext s (.create t cfg answers io) = some s') :
    SessionOf path fragmentation id bs s' := by
  unfold sharedNext at hnext
  simp only at hnext
  split at hnext
  · cases hnext
  · split at hnext
    · cases hnext
      exact h
    · have houtcome := videoRecorderNew_outcome { cfg with enable := true } answers
        (answering io s.world)
      have hemissions := houtcome.emissions
      rcases hnew : videoRecorderNew { cfg with enable := true } answers (answering io s.world) with
        ⟨r, w⟩
      rw [hnew] at houtcome hemissions hnext
      have hbytes : w.bytesOf path = s.world.bytesOf path := by
        unfold World.bytesOf
        cases houtcome with
        | unopened _ _ files =>
            rw [files]
            rfl
        | opened _ _ _ _ _ files _ =>
            rw [files path (Ne.symm hother)]
            rfl
      have hmore : s.world.emissions.Sublist w.emissions := by
        rw [hemissions]
        exact List.Sublist.refl _
      cases r with
      | none =>
          cases hnext
          exact h.apart rfl hbytes hmore (Nat.le_refl _) h.others
      | some rec =>
          cases hnext
          have hne : id ≠ s.fresh := Nat.ne_of_lt h.past
          refine h.apart (Function.update_of_ne hne _ _) hbytes hmore (Nat.le_succ _)
            (h.others_update ?_)
          intro _ rec' hrec
          cases houtcome with
          | opened _ _ _ _ _ _ accepts =>
              rw [(accepts rec' hrec).2.2.1, ne_eq, Option.some.injEq]
              exact hother

/-- All buffers are those taken over before the last, and the last. -/
theorem unitsOf_last (bs : List GstBuffer) :
    unitsOf bs.dropLast ++ unitsOf bs.getLast?.toList = unitsOf bs := by
  rcases List.eq_nil_or_concat bs with rfl | ⟨front, b, rfl⟩
  · rfl
  · rw [List.concat_eq_append, List.dropLast_concat, List.getLast?_concat]
    simp only [unitsOf, Option.toList_some, List.filter_append, List.map_append]

/-- What a free leaves. -/
theorem release_eq {rec : VideoRecorder} (hheap : s.heap id = some rec) (io : Io) :
    s.release id io = { s with
      heap := Function.update s.heap id none
      world := videoRecorderFree rec (answering io s.world) } := by
  unfold Shared.release
  rw [hheap]

/-- A sample goes to the recorder in memory. -/
theorem handleSample_of_heap {rec : VideoRecorder} (hheap : s.heap id = some rec)
    (args : SampleArgs) (io : Io) :
    s.handleSample id args io = { s with
      heap := Function.update s.heap id
        (some (videoRecorderHandleSample args rec (answering io s.world)).1)
      world := (videoRecorderHandleSample args rec (answering io s.world)).2 } := by
  unfold Shared.handleSample
  rw [hheap]

/-- `video_recorder_free` returns. -/
theorem SessionOf.release (h : SessionOf path fragmentation id bs s) (id' : Nat) {io : Io}
    (hio : io.Calm) : SessionOf path fragmentation id bs (s.release id' io) := by
  cases hheap : s.heap id' with
  | none =>
      have hsame : s.release id' io = s := by
        unfold Shared.release
        rw [hheap]
      rwa [hsame]
  | some rec =>
      have hstep := videoRecorderFree_step rec (answering io s.world)
      have hfreed : id' ≠ id → ∀ rec, (none : Option VideoRecorder) = some rec →
          rec.fp ≠ some path := by
        intro _ rec hrec
        cases hrec
      have hothers := h.others_update hfreed
      rw [release_eq hheap]
      by_cases hid : id' = id
      · subst hid
        rcases h.phase with ⟨rec', es, halive⟩ | ⟨es, hgone⟩
        · -- the recorder of the session: its last buffer goes into the file
          rw [halive.heap, Option.some.injEq] at hheap
          subst hheap
          have hrecording : Recorder.Recording path fragmentation es rec'
              (answering io s.world) :=
            halive.recording.congr rfl rfl rfl rfl rfl hio.writes hio.allocs rfl
          rcases hrecording.finish halive.holding with
            ⟨es', hemissions, hdata, hlimits, hfinished⟩
          refine ⟨h.past, hothers, Or.inr ⟨es ++ es', Function.update_self _ _ _, hfinished,
            hlimits, ?_, ?_⟩⟩
          · have hlast : es'.map Emission.data = unitsOf bs.getLast?.toList :=
              hdata.trans (written_mapped hio.maps _)
            rw [List.map_append, halive.data, hlast, unitsOf_last]
          · rw [hemissions]
            exact halive.emissions.append (List.Sublist.refl es')
        · rw [hgone.heap] at hheap
          cases hheap
      · exact h.apart (Function.update_of_ne (Ne.symm hid) _ _)
          (hstep.bytesOf (h.others id' rec hid hheap)) hstep.sublist (Nat.le_refl _) hothers

/-- The installed recorder is given a sample. -/
theorem SessionOf.handleSample (h : SessionOf path fragmentation id bs s) {id' : Nat}
    {args : SampleArgs} {io : Io} (hio : io.Calm) {b : GstBuffer} (hbuffer : args.buffer = some b)
    (hlive : (s.heap id').isSome = true) :
    SessionOf path fragmentation id (bs ++ if id' = id then [b] else [])
      (s.handleSample id' args io) := by
  rcases Option.isSome_iff_exists.mp hlive with ⟨rec, hheap⟩
  have hstep := videoRecorderHandleSample_step args rec (answering io s.world)
  rw [handleSample_of_heap hheap]
  by_cases hid : id' = id
  · subst hid
    rw [if_pos rfl]
    rcases h.phase with ⟨rec', es, halive⟩ | ⟨es, hgone⟩
    · -- the recorder of the session: the buffer kept goes into the file
      rw [halive.heap, Option.some.injEq] at hheap
      subst hheap
      have hrecording : Recorder.Recording path fragmentation es rec' (answering io s.world) :=
        halive.recording.congr rfl rfl rfl rfl rfl hio.writes hio.allocs rfl
      rcases hrecording.take halive.holding hbuffer with
        ⟨hholding, es', hemissions, hdata, hnext⟩
      refine ⟨h.past, h.others_update fun hne => absurd rfl hne, Or.inl ⟨_, es ++ es',
        Function.update_self _ _ _, ?_, ?_, ?_, ?_⟩⟩
      · exact hnext.congr rfl rfl rfl rfl rfl halive.recording.writes halive.recording.allocs rfl
      · rw [List.getLast?_concat]
        exact hholding
      · have hlast : es'.map Emission.data = unitsOf bs.getLast?.toList :=
          hdata.trans (written_mapped hio.maps _)
        rw [List.dropLast_concat, List.map_append, halive.data, hlast, unitsOf_last]
      · rw [hemissions]
        exact halive.emissions.append (List.Sublist.refl es')
    · rw [hgone.heap] at hheap
      cases hheap
  · rw [if_neg hid, List.append_nil]
    refine h.apart (Function.update_of_ne (Ne.symm hid) _ _)
      (hstep.bytesOf (h.others id' rec hid hheap)) hstep.sublist (Nat.le_refl _)
      (h.others_update ?_)
    intro _ rec' hrec
    rw [Option.some.injEq] at hrec
    rw [← hrec, hstep.fp]
    exact h.others id' rec hid hheap

/-- Every step keeps what is known of a recorder and its file. -/
theorem SessionOf.step (h : SessionOf path fragmentation id bs s) (hinv : SharedInv s)
    {a : RecorderAction} (ha : a.Calm path) (hnext : sharedNext s a = some s') :
    SessionOf path fragmentation id (bs ++ givenIn id s a) s' := by
  have hlive : ∀ id', s.recorder = some id' → (s.heap id').isSome = true := by
    intro id' hslot
    rcases hinv.linear.slot_issued id' hslot with ⟨hissued, hretired⟩
    exact (hinv.live id').mpr ⟨hissued, fun hr => absurd hr hretired⟩
  cases a with
  | create t cfg answers io =>
      change SessionOf path fragmentation id (bs ++ []) s'
      rw [List.append_nil]
      exact h.create ha hnext
  | install t =>
      change SessionOf path fragmentation id (bs ++ []) s'
      rw [List.append_nil]
      unfold sharedNext at hnext
      simp only at hnext
      split at hnext
      · split at hnext
        · cases hnext
          exact h.quiet rfl rfl rfl
        · cases hnext
          exact h.quiet rfl rfl rfl
      · cases hnext
  | take t =>
      change SessionOf path fragmentation id (bs ++ []) s'
      rw [List.append_nil]
      unfold sharedNext at hnext
      simp only at hnext
      split at hnext
      · cases hnext
      · split at hnext
        · cases hnext
          exact h
        · cases hnext
          exact h.quiet rfl rfl rfl
  | freeBegin t =>
      change SessionOf path fragmentation id (bs ++ []) s'
      rw [List.append_nil]
      unfold sharedNext at hnext
      simp only at hnext
      split at hnext
      · cases hnext
        exact h.quiet rfl rfl rfl
      · cases hnext
        exact h.quiet rfl rfl rfl
      · cases hnext
  | freeEnd t io =>
      change SessionOf path fragmentation id (bs ++ []) s'
      rw [List.append_nil]
      unfold sharedNext at hnext
      simp only at hnext
      split at hnext
      · cases hnext
        have hidle : SessionOf path fragmentation id bs (s.goto t .idle) := h.quiet rfl rfl rfl
        exact hidle.release _ ha
      · cases hnext
  | sample t args io =>
      rcases Option.isSome_iff_exists.mp ha.2 with ⟨b, hbuffer⟩
      unfold sharedNext at hnext
      simp only at hnext
      split at hnext
      · cases hnext
      · split at hnext
        · rename_i hslot
          cases hnext
          rw [givenIn, hslot, if_neg (by simp), List.append_nil]
          exact h
        · rename_i id' hslot
          cases hnext
          have hsample := h.handleSample ha.1 hbuffer (hlive id' hslot)
          have hgiven : givenIn id s (.sample t args io) = if id' = id then [b] else [] := by
            rw [givenIn, hslot, hbuffer]
            simp only [Option.some.injEq, Option.toList_some]
          rw [hgiven]
          exact hsample.quiet rfl rfl rfl
  | stats t monotonicTime =>
      change SessionOf path fragmentation id (bs ++ []) s'
      rw [List.append_nil]
      unfold sharedNext at hnext
      simp only at hnext
      split at hnext
      · cases hnext
      · split at hnext
        · cases hnext
          exact h
        · cases hnext
          exact h.quiet rfl rfl rfl

/-- Runs keep it. -/
theorem SessionOf.run (h : SessionOf path fragmentation id bs s)
    (hs : sharedRecorder.Reachable s) {as : List RecorderAction}
    (has : ∀ a ∈ as, a.Calm path) (hexec : sharedRecorder.exec s as = some s') :
    SessionOf path fragmentation id (bs ++ buffersGiven id s as) s' := by
  induction as generalizing s bs with
  | nil =>
      rw [System.exec_nil, Option.some.injEq] at hexec
      rw [buffersGiven, List.append_nil, ← hexec]
      exact h
  | cons a as ih =>
      cases hnext : sharedNext s a with
      | none =>
          have hstop : sharedRecorder.next s a = none := hnext
          simp [System.exec, hstop] at hexec
      | some t =>
          rw [System.exec_cons_of_next (S := sharedRecorder) hnext] at hexec
          have hstep := h.step (sharedInv hs) (has a List.mem_cons_self) hnext
          have hgiven : buffersGiven id s (a :: as) = givenIn id s a ++ buffersGiven id t as := by
            rw [buffersGiven, hnext]
          rw [hgiven, ← List.append_assoc]
          exact ih hstep (.step hs trivial hnext)
            (fun a' ha' => has a' (List.mem_cons_of_mem a ha')) hexec

end Steps

/-- A recorder that was just created has not been given anything. -/
theorem SessionOf.start {s s' : Shared} {t : Nat} {cfg : RecordCfg} {answers : NewAnswers} {io : Io}
    (hothers : ∀ id rec, s.heap id = some rec → rec.fp ≠ some (newOutputPath cfg answers))
    (hio : io.Calm) (hnext : sharedNext s (.create t cfg answers io) = some s')
    (hcreated : s'.threads t = .created s.fresh) :
    SessionOf (newOutputPath cfg answers) (modeFlags cfg.mode).2 s.fresh [] s' := by
  unfold sharedNext at hnext
  simp only at hnext
  split at hnext
  · cases hnext
  · rename_i hidle
    rw [not_not] at hidle
    split at hnext
    · cases hnext
      rw [hidle] at hcreated
      cases hcreated
    · split at hnext
      · cases hnext
        rw [hidle] at hcreated
        cases hcreated
      · rename_i rec w hnew
        cases hnext
        have hfresh := videoRecorderNew_fresh hnew
        have hrecording := Recording.start hnew hio.writes hio.allocs
        rcases hfresh.mux with ⟨mux, hmux, -⟩
        refine ⟨Nat.lt_succ_self _, ?_, Or.inl ⟨rec, [], Function.update_self _ _ _, ?_, ?_, rfl,
          List.nil_sublist _⟩⟩
        · intro id' rec' hne hheap
          simp only [Shared.create, Function.update_of_ne hne] at hheap
          exact hothers id' rec' hheap
        · exact hrecording.congr rfl rfl rfl rfl rfl
            (fun _ hanswer => absurd hanswer List.not_mem_nil)
            (fun _ hanswer => absurd hanswer List.not_mem_nil) rfl
        · refine ⟨hfresh.enabled, by rw [hmux]; rfl, ?_, ?_, ?_⟩
          · rw [hfresh.pending]
            rfl
          · rw [hfresh.pending]
            rfl
          · intro hnone
            cases hnone

/-- Thread 0 creates a recorder. -/
def contendedStart : Shared :=
  (sharedNext {} (.create 0 (mediaCfg .standard) { timestamp := noon } {})).getD {}

/-- Thread 0 installs its recorder and takes it out again, thread 1 brings the samples, and the
recorder that thread 2 creates in between is rejected and freed. -/
def contendedSteps : List RecorderAction :=
  [.install 0, .sample 1 (sampleOf idrUnit) {},
    .create 2 (mediaCfg .standard) { timestamp := afterNoon } {}, .install 2,
    .sample 1 (sampleOf sliceUnit) {}, .take 0, .sample 1 (sampleOf sliceUnit) {}, .freeBegin 0,
    .freeBegin 2, .freeEnd 0 {}, .freeEnd 2 {}]

def contendedEnd : Shared :=
  (sharedRecorder.exec contendedStart contendedSteps).getD {}

theorem eq_some_getD {o : Option Shared} (h : o.isSome = true) : o = some (o.getD {}) := by
  cases o with
  | none => cases h
  | some s => rfl

end Pipeline
end PixelPilot
