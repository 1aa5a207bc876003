import PixelPilot.Pipeline.SharedRecorder

/-!
# Who owns a recorder

In every interleaving a recorder is installed, in the hands of one call, or
freed.  The handover of `Library.Handover` is the abstract view: creating a
recorder issues it, installing it deposits it in the slot, and the beginning of
`video_recorder_free` retires it.

Main results:

- Theorem `SharedStep.move`: every step is an operation of the handover.
- Theorem `sharedInv`: the invariant of the interleavings.
- Theorem `recorders_owned_once`: a recorder is freed exactly once unless it is
  installed, no call uses it once its end has begun, and one recorder at a time
  receives samples.
- Theorem `heap_settled`: no recorder is leaked.
- Theorem `finish_exec`: the runs of `Pipeline.Recording` are interleavings.
-/

namespace PixelPilot
namespace Pipeline

open Minimp4 Recorder Transition Handover

/-! ## The handover behind the calls -/

/-- What a thread holds: a recorder to be installed, or one to be freed. -/
def CallPc.hand : CallPc → Hand Nat
  | .created rec => .arriving rec
  | .duplicate rec => .leaving rec
  | .taken rec => .leaving rec
  | .idle => .empty
  | .freeing _ => .empty

/-- The recorder a call still has to install or to free. -/
def CallPc.holds (pc : CallPc) : Option Nat :=
  pc.hand.item

/-- The slot, the hands and the log. -/
def Shared.custody (s : Shared) : Custody Nat LockedCall Nat :=
  { slot := s.recorder, hand := fun t => (s.threads t).hand, log := s.log }

/-- A step of a thread changes its hand. -/
theorem custody_goto (s : Shared) (t : Nat) (pc : CallPc) :
    (s.goto t pc).custody = s.custody.setHand t pc.hand := by
  have hhand : (fun t' => (Function.update s.threads t pc t').hand) =
      Function.update (fun t' => (s.threads t').hand) t pc.hand := by
    funext t'
    by_cases heq : t' = t
    · subst heq
      simp
    · simp [heq]
  simp only [Shared.custody, Shared.goto, Custody.setHand, hhand]

theorem custody_record (s : Shared) (e : RecorderEvent) :
    (s.record e).custody = s.custody.record e :=
  rfl

/-- Freeing the memory changes no custody. -/
theorem custody_release (s : Shared) (id : Nat) (io : Io) :
    (s.release id io).custody = s.custody := by
  unfold Shared.release
  split
  · rfl
  · rfl

/-- A sample changes no custody. -/
theorem custody_touches {s s' : Shared} (h : Touches s s') : s'.custody = s.custody := by
  simp only [Shared.custody, h.recorder, h.threads, h.log]

/-- Every step is an operation of the handover, or none. -/
theorem SharedStep.move {s s' : Shared} (h : SharedStep s s')
    (hnew : .issued s.fresh ∉ s.log) : Move s.custody s'.custody := by
  have hhand : ∀ {t pc}, s.threads t = pc → s.custody.hand t = pc.hand := by
    intro t pc hpc
    rw [← hpc]
    rfl
  cases h with
  | outside w => exact .stay _
  | @created t rec w hpc =>
      change Move s.custody ((s.goto t (.created s.fresh)).custody.record (.issued s.fresh))
      rw [custody_goto]
      exact .issue (hhand hpc) hnew
  | @installed t id hpc hslot =>
      change Move s.custody ((s.goto t .idle).custody.setSlot (some id))
      rw [custody_goto]
      exact .deposit (hhand hpc) hslot
  | @duplicate t id hpc =>
      rw [custody_goto]
      exact .reject (hhand hpc)
  | @taken t id hpc hslot =>
      change Move s.custody ((s.goto t (.taken id)).custody.setSlot none)
      rw [custody_goto]
      exact .withdraw (hhand hpc) hslot
  | @freeBegun t id hpc =>
      rw [custody_record, custody_goto]
      apply Move.retire
      rcases hpc with hpc | hpc
      · exact hhand hpc
      · exact hhand hpc
  | @freed t id io hpc =>
      have hsame : (s.goto t .idle).custody = s.custody := by
        have hempty : s.custody.hand t = .empty := hhand hpc
        rw [custody_goto]
        exact setHand_eq_self hempty
      rw [custody_release, hsame]
      exact .stay _
  | @used s' id call hslot htouches =>
      rw [custody_record, custody_touches htouches]
      exact .use call hslot

/-! ## The invariant -/

/-- The thread has begun `video_recorder_free` on the recorder. -/
def Shared.Freeing (s : Shared) (id : Nat) : Prop :=
  ∃ t, s.threads t = .freeing id

/-- Recorders are in one place, their numbers are not used again, and a recorder is
in memory until `video_recorder_free` on it has returned. -/
structure SharedInv (s : Shared) : Prop where
  linear : Linear s.custody
  past : ∀ id, .issued id ∈ s.log → id < s.fresh
  begun : ∀ t id, s.threads t = .freeing id → .retired id ∈ s.log
  freeing_once : ∀ t t' id, s.threads t = .freeing id → s.threads t' = .freeing id → t = t'
  live : ∀ id, (s.heap id).isSome = true ↔
    .issued id ∈ s.log ∧ (.retired id ∈ s.log → s.Freeing id)

section Steps

variable {s s' : Shared}

theorem release_fresh (s : Shared) (id : Nat) (io : Io) : (s.release id io).fresh = s.fresh := by
  unfold Shared.release
  split
  · rfl
  · rfl

theorem release_log (s : Shared) (id : Nat) (io : Io) : (s.release id io).log = s.log := by
  unfold Shared.release
  split
  · rfl
  · rfl

/-- After `video_recorder_free` the recorder is not in memory, and all others are as
before. -/
theorem release_heap (s : Shared) (id id' : Nat) (io : Io) :
    ((s.release id io).heap id').isSome = true ↔ id' ≠ id ∧ (s.heap id').isSome = true := by
  unfold Shared.release
  split
  · rename_i hnone
    by_cases heq : id' = id
    · subst heq
      simp [hnone]
    · simp [heq]
  · by_cases heq : id' = id
    · subst heq
      simp
    · simp [heq]

/-- Numbers given stay below the next one. -/
theorem SharedStep.past (h : SharedStep s s') (hpast : ∀ id, .issued id ∈ s.log → id < s.fresh) :
    ∀ id, .issued id ∈ s'.log → id < s'.fresh := by
  intro id hid
  cases h with
  | @created t rec w hpc =>
      rcases List.mem_append.mp hid with hold | hnew
      · exact Nat.lt_succ_of_lt (hpast id hold)
      · cases List.mem_singleton.mp hnew
        exact Nat.lt_succ_self _
  | freeBegun => exact hpast id (by simpa using hid)
  | @freed t id' io hpc =>
      rw [release_log] at hid
      rw [release_fresh]
      exact hpast id hid
  | @used s' id' call hslot htouches =>
      have hold : .issued id ∈ s.log := by simpa [htouches.log] using hid
      exact htouches.fresh ▸ hpast id hold
  | _ => exact hpast id hid

/-- The log only grows. -/
theorem SharedStep.log_mono (h : SharedStep s s') {e : RecorderEvent} (he : e ∈ s.log) :
    e ∈ s'.log := by
  cases h with
  | created => exact List.mem_append_left _ he
  | freeBegun => exact List.mem_append_left _ he
  | freed =>
      rw [release_log]
      exact he
  | used call hslot htouches => exact List.mem_append_left _ (htouches.log ▸ he)
  | _ => exact he

/-- A recorder on its way out is in the hand of its thread. -/
theorem holds_of_leaving {t id : Nat}
    (hpc : s.threads t = .duplicate id ∨ s.threads t = .taken id) :
    (s.threads t).holds = some id := by
  rcases hpc with hpc | hpc
  · rw [hpc]
    rfl
  · rw [hpc]
    rfl

/-- A thread inside `video_recorder_free` was there before, or has just begun. -/
theorem SharedStep.freeing (h : SharedStep s s') {t' id : Nat}
    (hfreeing : s'.threads t' = .freeing id) :
    s.threads t' = .freeing id ∨
      (s.threads t').holds = some id ∧ .retired id ∈ s'.log := by
  have hgoto : ∀ {t pc}, (s.goto t pc).threads t' = .freeing id →
      (∀ i, pc ≠ .freeing i) → s.threads t' = .freeing id := by
    intro t pc hpc hother
    by_cases heq : t' = t
    · rw [heq, goto_threads] at hpc
      exact absurd hpc (hother id)
    · rwa [goto_threads_of_ne s pc heq] at hpc
  cases h with
  | outside => exact Or.inl hfreeing
  | created => exact Or.inl (hgoto hfreeing (by simp))
  | installed => exact Or.inl (hgoto hfreeing (by simp))
  | duplicate => exact Or.inl (hgoto hfreeing (by simp))
  | taken => exact Or.inl (hgoto hfreeing (by simp))
  | @freeBegun t id' hpc =>
      by_cases heq : t' = t
      · subst heq
        rw [Shared.record_threads, goto_threads] at hfreeing
        cases hfreeing
        exact Or.inr ⟨holds_of_leaving hpc, by simp⟩
      · left
        rwa [Shared.record_threads, goto_threads_of_ne s _ heq] at hfreeing
  | freed =>
      rw [release_threads] at hfreeing
      exact Or.inl (hgoto hfreeing (by simp))
  | used call hslot htouches => exact Or.inl (htouches.threads ▸ hfreeing)

/-- A step that neither enters nor leaves a free. -/
theorem freeing_goto (s : Shared) (t id : Nat) (pc : CallPc)
    (hsame : s.threads t = .freeing id ↔ pc = .freeing id) :
    (s.goto t pc).Freeing id ↔ s.Freeing id := by
  constructor
  · rintro ⟨t', hpc⟩
    by_cases heq : t' = t
    · rw [heq, goto_threads] at hpc
      exact ⟨t, hsame.mpr hpc⟩
    · rw [goto_threads_of_ne s pc heq] at hpc
      exact ⟨t', hpc⟩
  · rintro ⟨t', hpc⟩
    by_cases heq : t' = t
    · rw [heq] at hpc
      exact ⟨t, (goto_threads s t pc).trans (hsame.mp hpc)⟩
    · exact ⟨t', (goto_threads_of_ne s pc heq).trans hpc⟩

/-- What a hand holds was created, and its end has not begun. -/
theorem SharedInv.held (h : SharedInv s) {t id : Nat} (hholds : (s.threads t).holds = some id) :
    .issued id ∈ s.log ∧ .retired id ∉ s.log :=
  h.linear.hand_issued t id hholds

/-- A recorder that is being freed is retired. -/
theorem SharedInv.begun_step (h : SharedInv s) (hstep : SharedStep s s') :
    ∀ t id, s'.threads t = .freeing id → .retired id ∈ s'.log := by
  intro t id hfreeing
  rcases hstep.freeing hfreeing with hold | ⟨-, hnew⟩
  · exact hstep.log_mono (h.begun t id hold)
  · exact hnew

/-- One thread at most frees a recorder. -/
theorem SharedInv.freeing_once_step (h : SharedInv s) (hstep : SharedStep s s') :
    ∀ t t' id, s'.threads t = .freeing id → s'.threads t' = .freeing id → t = t' := by
  intro t t' id hfreeing hfreeing'
  rcases hstep.freeing hfreeing with hold | ⟨hheld, -⟩
  · rcases hstep.freeing hfreeing' with hold' | ⟨hheld', -⟩
    · exact h.freeing_once t t' id hold hold'
    · exact absurd (h.begun t id hold) (h.held hheld').2
  · rcases hstep.freeing hfreeing' with hold' | ⟨hheld', -⟩
    · exact absurd (h.begun t' id hold') (h.held hheld).2
    · exact h.linear.one_hand t t' id hheld hheld'

/-- A recorder is in memory from its creation to the end of its free. -/
theorem SharedInv.live_step (h : SharedInv s) (hstep : SharedStep s s') :
    ∀ id, (s'.heap id).isSome = true ↔
      .issued id ∈ s'.log ∧ (.retired id ∈ s'.log → s'.Freeing id) := by
  intro id
  cases hstep with
  | outside => exact h.live id
  | @created t rec w hpc =>
      have hfreeing : (s.create t rec w).Freeing id ↔ s.Freeing id := by
        apply freeing_goto
        simp [hpc]
      by_cases heq : id = s.fresh
      · have hunborn : .retired id ∉ s.log := by
          intro hretired
          have hlt := h.past id (h.linear.orderly.retired_issued id hretired)
          omega
        subst heq
        simp [Shared.create, hunborn]
      · rw [hfreeing]
        simpa [Shared.create, heq] using h.live id
  | @installed t id' hpc hslot =>
      have hfreeing := freeing_goto s t id .idle (by simp [hpc])
      exact (h.live id).trans (and_congr_right' (imp_congr_right fun _ => hfreeing.symm))
  | @duplicate t id' hpc =>
      have hfreeing := freeing_goto s t id (.duplicate id') (by simp [hpc])
      exact (h.live id).trans (and_congr_right' (imp_congr_right fun _ => hfreeing.symm))
  | @taken t id' hpc hslot =>
      have hfreeing := freeing_goto s t id (.taken id') (by simp [hpc])
      exact (h.live id).trans (and_congr_right' (imp_congr_right fun _ => hfreeing.symm))
  | @freeBegun t id' hpc =>
      have hlive := h.live id
      by_cases heq : id = id'
      · subst heq
        have hheld := h.held (holds_of_leaving hpc)
        have hnow : ((s.goto t (.freeing id)).record (.retired id)).Freeing id :=
          ⟨t, goto_threads s t _⟩
        simp only [hheld.1, hheld.2, false_implies, and_true, iff_true] at hlive
        simp [hlive, hheld.1, hnow]
      · have hfreeing : (s.goto t (.freeing id')).Freeing id ↔ s.Freeing id := by
          apply freeing_goto
          rcases hpc with hpc | hpc
          · simp [hpc, Ne.symm heq]
          · simp [hpc, Ne.symm heq]
        have hrecord : ((s.goto t (.freeing id')).record (.retired id')).Freeing id ↔
            s.Freeing id := hfreeing
        rw [hrecord]
        simpa [heq] using hlive
  | @freed t id' io hpc =>
      have hsame : ((s.goto t .idle).release id' io).Freeing id ↔ (s.goto t .idle).Freeing id := by
        simp only [Shared.Freeing, release_threads]
      rw [release_heap, release_log, hsame]
      by_cases heq : id = id'
      · subst heq
        have hgone : ¬ (s.goto t .idle).Freeing id := by
          rintro ⟨t', hfreeing⟩
          by_cases hthread : t' = t
          · rw [hthread, goto_threads] at hfreeing
            contradiction
          · rw [goto_threads_of_ne s _ hthread] at hfreeing
            exact hthread (h.freeing_once t' t id hfreeing hpc)
        have hbegun := h.begun t id hpc
        simp [hgone, hbegun]
      · rw [freeing_goto s t id .idle (by simp [hpc, Ne.symm heq])]
        simpa [heq] using h.live id
  | @used s₁ id' call hslot htouches =>
      have hfreeing : (s₁.record (.used call id')).Freeing id ↔ s.Freeing id := by
        simp only [Shared.Freeing, Shared.record_threads, htouches.threads]
      rw [hfreeing]
      simpa [htouches.heap, htouches.log] using h.live id

end Steps

/-- The invariant holds in every state of every interleaving. -/
theorem sharedInv {s : Shared} (h : sharedRecorder.Reachable s) : SharedInv s := by
  apply h.invariant
  · rintro s ⟨hslot, hheap, hthreads, hlog⟩
    have hcustody : s.custody = { slot := none, hand := fun _ => .empty, log := [] } := by
      simp [Shared.custody, hslot, hthreads, hlog, CallPc.hand]
    constructor
    · rw [hcustody]
      exact linear_empty
    all_goals simp [hheap, hthreads, hlog]
  · intro s s' a hinv _ hnext
    have hstep := sharedNext_step hnext
    have hnew : .issued s.fresh ∉ s.log := fun hissued => Nat.lt_irrefl _ (hinv.past _ hissued)
    exact {
      linear := hinv.linear.move (hstep.move hnew)
      past := hstep.past hinv.past
      begun := hinv.begun_step hstep
      freeing_once := hinv.freeing_once_step hstep
      live := hinv.live_step hstep }

/-- With no call in progress only the installed recorder is in memory. -/
theorem heap_settled {s : Shared} (h : sharedRecorder.Reachable s)
    (hidle : ∀ t, s.threads t = .idle) (id : Nat) :
    (s.heap id).isSome = true ↔ s.recorder = some id := by
  have hinv := sharedInv h
  rw [hinv.live id]
  constructor
  · rintro ⟨hissued, hretired⟩
    have hnot : .retired id ∉ s.log := by
      intro hr
      rcases hretired hr with ⟨t, hpc⟩
      rw [hidle t] at hpc
      contradiction
    rcases hinv.linear.held id hissued hnot with hslot | ⟨t, hholds⟩
    · exact hslot
    · have hempty : s.custody.hand t = .empty := congrArg CallPc.hand (hidle t)
      rw [hempty] at hholds
      contradiction
  · intro hslot
    have hissued := hinv.linear.slot_issued id hslot
    exact ⟨hissued.1, fun hr => absurd hr hissued.2⟩

/-! ## Calls that do not interleave -/

/-- Calls that follow one another, made by one thread, do what `Pipeline.Recording`
says; the other threads may be anywhere in their calls. -/
theorem recordingNext_exec {s : Shared} (h : sharedRecorder.Reachable s) {t : Nat}
    (hidle : s.threads t = .idle) (call : Call) :
    ∃ as s', sharedRecorder.exec s as = some s' ∧ s'.threads = s.threads ∧
      s'.view.settled = (recordingNext s.view call).settled := by
  have hinv := sharedInv h
  have hissued : ∀ id, s.recorder = some id → .issued id ∈ s.log ∧ .retired id ∉ s.log :=
    hinv.linear.slot_issued
  have hlive : ∀ id, s.recorder = some id → (s.heap id).isSome = true := by
    intro id hslot
    exact (hinv.live id).mpr ⟨(hissued id hslot).1, fun hr => absurd hr (hissued id hslot).2⟩
  have hpast : ∀ id, s.recorder = some id → id < s.fresh :=
    fun id hslot => hinv.past id (hissued id hslot).1
  unfold recordingNext
  split
  · exact pipelineEnableRecording_exec hidle hlive hpast _ _ call.io
  · exact cleanupRecorder_exec hidle hlive call.io
  · exact cleanupRecorder_exec hidle hlive call.io
  · exact handleRecorderSample_exec hidle hlive _ call.io

/-- Every run of `Pipeline.Recording` is the view of an interleaving. -/
theorem finish_exec {s : Shared} (h : sharedRecorder.Reachable s) {t : Nat}
    (hidle : s.threads t = .idle) (calls : List Call) :
    ∃ s', sharedRecorder.Reachable s' ∧ s'.threads = s.threads ∧
      s'.view.settled = (finish calls s.view).settled := by
  induction calls generalizing s with
  | nil => exact ⟨s, h, rfl, rfl⟩
  | cons call calls ih =>
      rcases recordingNext_exec h hidle call with ⟨as, s₁, hexec, hthreads, hview⟩
      have hidle₁ : s₁.threads t = .idle := by rw [hthreads, hidle]
      rcases ih (h.exec hexec) hidle₁ with ⟨s₂, hreach, hthreads₂, hview₂⟩
      refine ⟨s₂, hreach, hthreads₂.trans hthreads, ?_⟩
      exact hview₂.trans (finish_settled hview calls)

/-! ## One owner -/

/-- How often `video_recorder_free` was called on a recorder. -/
def Shared.frees (s : Shared) (id : Nat) : Nat :=
  s.log.count (.retired id)

/-- A recorder is installed, or one call still has to install or to free it, or it
was freed once. -/
inductive Shared.Accounted (s : Shared) (id : Nat) : Prop
  | installed (slot : s.recorder = some id) (hands : ∀ t, (s.threads t).holds ≠ some id)
      (frees : s.frees id = 0)
  | held (slot : s.recorder ≠ some id) (hands : ∃! t, (s.threads t).holds = some id)
      (frees : s.frees id = 0)
  | freed (slot : s.recorder ≠ some id) (hands : ∀ t, (s.threads t).holds ≠ some id)
      (frees : s.frees id = 1)

/-- A recorder that is not retired was not freed. -/
theorem frees_eq_zero {s : Shared} {id : Nat} (h : .retired id ∉ s.log) : s.frees id = 0 :=
  List.count_eq_zero_of_not_mem h

/-- One that is retired was freed once. -/
theorem SharedInv.frees_eq_one {s : Shared} (h : SharedInv s) {id : Nat}
    (hretired : .retired id ∈ s.log) : s.frees id = 1 := by
  have hpos : 0 < s.frees id := List.count_pos_iff.mpr hretired
  have hle : ¬ 2 ≤ s.frees id := by
    intro htwo
    have hsub := List.replicate_sublist_iff.mpr htwo
    exact h.linear.orderly.retired_once id hsub
  omega

/-- Every recorder that was created is accounted for. -/
theorem SharedInv.accounted {s : Shared} (h : SharedInv s) {id : Nat}
    (hissued : .issued id ∈ s.log) : s.Accounted id := by
  have hslot : s.recorder = some id → .retired id ∉ s.log :=
    fun hslot => (h.linear.slot_issued id hslot).2
  rcases h.linear.accounted hissued with ⟨hin, hlive⟩ | ⟨hhand, hlive⟩ | hretired
  · exact .installed hin (fun t => h.linear.slot_free t id hin) (frees_eq_zero hlive)
  · refine .held ?_ hhand (frees_eq_zero hlive)
    intro hin
    rcases hhand.exists with ⟨t, hholds⟩
    exact h.linear.slot_free t id hin hholds
  · refine .freed (fun hin => hslot hin hretired) ?_ (h.frees_eq_one hretired)
    intro t hholds
    exact (h.held hholds).2 hretired

/-- What every interleaving keeps. -/
structure OwnedOnce (s : Shared) : Prop where
  /-- Whatever is freed was created. -/
  created : ∀ id, .retired id ∈ s.log → .issued id ∈ s.log
  accounted : ∀ id, .issued id ∈ s.log → s.Accounted id
  /-- With no call in progress, a recorder is installed or was freed exactly once. -/
  settled : (∀ t, s.threads t = .idle) → ∀ id, .issued id ∈ s.log →
    s.recorder = some id ∧ s.frees id = 0 ∨ s.recorder ≠ some id ∧ s.frees id = 1
  /-- No call uses a recorder after `video_recorder_free` on it has begun. -/
  unused_after : ∀ id call, ¬ [.retired id, .used call id].Sublist s.log
  /-- A recorder that has received samples receives no more once another one has. -/
  one_receiver : ∀ id id', [.used .handleSample id, .used .handleSample id',
    .used .handleSample id].Sublist s.log → id' = id

theorem recorders_owned_once {s : Shared} (h : sharedRecorder.Reachable s) : OwnedOnce s := by
  have hinv := sharedInv h
  refine ⟨hinv.linear.orderly.retired_issued, fun id => hinv.accounted, ?_,
    fun id call => hinv.linear.orderly.unused_after call id, ?_⟩
  · intro hidle id hissued
    cases hinv.accounted hissued with
    | installed hslot _ hfrees => exact Or.inl ⟨hslot, hfrees⟩
    | held _ hhand _ =>
        rcases hhand.exists with ⟨t, hholds⟩
        rw [hidle t] at hholds
        contradiction
    | freed hslot _ hfrees => exact Or.inr ⟨hslot, hfrees⟩
  · intro id id' hsub
    exact hinv.linear.orderly.contiguous _ _ _ id id' hsub

/-- Two threads enable recording, a third one disables it while the second frees
its duplicate, and recording is enabled again. -/
def handovers : List RecorderAction :=
  [.create 0 (mediaCfg .standard) { timestamp := noon } {},
    .create 1 (mediaCfg .standard) { timestamp := noon } {},
    .install 0, .sample 2 (sampleOf idrUnit) {}, .install 1, .freeBegin 1, .take 3,
    .freeBegin 3, .stats 2 1, .freeEnd 1 {},
    .create 0 (mediaCfg .standard) { timestamp := noon } {}, .freeEnd 3 {}, .install 0,
    .sample 2 (sampleOf idrUnit) {}, .stats 3 2]

theorem recorders_owned_once_handovers :
    ∃ s, sharedRecorder.exec {} handovers = some s ∧ s.recorder = some 2 ∧ OwnedOnce s := by
  have hrun : (sharedRecorder.exec {} handovers).map Shared.recorder = some (some 2) := by
    decide +kernel
  rcases Option.map_eq_some_iff.mp hrun with ⟨s, hexec, hslot⟩
  have hinit : sharedRecorder.init {} := ⟨rfl, fun _ => rfl, fun _ => rfl, rfl⟩
  exact ⟨s, hexec, hslot, recorders_owned_once (System.reachable_of_exec hinit hexec)⟩

end Pipeline
end PixelPilot
