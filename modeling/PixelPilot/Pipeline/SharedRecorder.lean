import PixelPilot.Library.Handover
import PixelPilot.Library.Transition
import PixelPilot.Pipeline.Recording

/-!
# The recorder between threads

The calls of `Pipeline.Recording`, cut at the critical sections of
`recorder_lock`.  What a call does before and after its critical section
interleaves with the calls of other threads: `video_recorder_new` comes before
the lock is taken and `video_recorder_free` after it is released.

Main results:

- Definition `sharedRecorder`: the transition system of all interleavings.
- Theorem `sharedNext_step`: what one step can do.
- Theorem `call_returns`: a thread inside a call can return from it.
- Theorems `pipelineEnableRecording_exec`, `cleanupRecorder_exec` and
  `handleRecorderSample_exec`: a call that is not interrupted does what
  `Pipeline.Recording` says.

Current gaps:

- Any idle thread may take the appsink thread's critical section; when that
  thread exists is the subject of `Pipeline.AppsinkJoin`.
-/

namespace PixelPilot
namespace Pipeline

open Minimp4 Recorder Transition

/-! ## Threads -/

/-- Where a thread is in `pipeline_enable_recording`, `pipeline_disable_recording`
or `cleanup_pipeline`; outside of their critical sections, which are one step. -/
inductive CallPc
  | idle
  /-- `video_recorder_new` has returned, and `recorder_lock` is not yet taken. -/
  | created (rec : Nat)
  /-- Another recorder was installed, and the lock is released. -/
  | duplicate (rec : Nat)
  /-- `ps->recorder` was cleared, and the lock is released. -/
  | taken (rec : Nat)
  /-- Inside `video_recorder_free`. -/
  | freeing (rec : Nat)
deriving DecidableEq

/-- The calls made on the installed recorder under the lock. -/
inductive LockedCall
  | handleSample
  | getStats (stats : VideoRecorderStats)
deriving DecidableEq

/-- `issued` for a recorder that `video_recorder_new` returned, `used` for the calls
under the lock, and `retired` for the beginning of `video_recorder_free`. -/
abbrev RecorderEvent := Handover.Event LockedCall Nat

/-- `ps->recorder`, the recorders in memory, the threads and the world.  A recorder
is named by the number of recorders before it, never by a reused address. -/
structure Shared where
  recorder : Option Nat := none
  heap : Nat → Option VideoRecorder := fun _ => none
  threads : Nat → CallPc := fun _ => .idle
  world : World := {}
  fresh : Nat := 0
  log : List RecorderEvent := []

namespace Shared

/-- Thread `t` goes on to `pc`. -/
def goto (s : Shared) (t : Nat) (pc : CallPc) : Shared :=
  { s with threads := Function.update s.threads t pc }

/-- Append to the log. -/
def record (s : Shared) (e : RecorderEvent) : Shared :=
  { s with log := s.log ++ [e] }

end Shared

/-- The system's answers during a step. -/
structure Io where
  writes : List WriteAnswer := []
  allocs : List Bool := []
  maps : List Bool := []

/-- The world in which these answers are to come. -/
def answering (io : Io) (w : World) : World :=
  { w with writes := io.writes, allocs := io.allocs, maps := io.maps }

/-! ## Steps -/

/-- The steps of thread `t`. -/
inductive RecorderAction
  /-- `pipeline_enable_recording` up to the return of `video_recorder_new`. -/
  | create (t : Nat) (cfg : RecordCfg) (answers : NewAnswers) (io : Io)
  /-- The critical section of `pipeline_enable_recording`. -/
  | install (t : Nat)
  /-- The critical section of `pipeline_disable_recording` and `cleanup_pipeline`. -/
  | take (t : Nat)
  | freeBegin (t : Nat)
  | freeEnd (t : Nat) (io : Io)
  /-- The critical section of `appsink_thread_func`. -/
  | sample (t : Nat) (args : SampleArgs) (io : Io)
  /-- The critical section of `pipeline_get_recording_stats`. -/
  | stats (t : Nat) (monotonicTime : Nat)

/-- The recorder just created is in memory, and in the hands of thread `t`. -/
def Shared.create (s : Shared) (t : Nat) (rec : VideoRecorder) (w : World) : Shared :=
  { s.goto t (.created s.fresh) with
    heap := Function.update s.heap s.fresh (some rec)
    world := w
    fresh := s.fresh + 1
    log := s.log ++ [.issued s.fresh] }

/-- `video_recorder_free` has returned. -/
def Shared.release (s : Shared) (id : Nat) (io : Io) : Shared :=
  match s.heap id with
  | none => s
  | some rec =>
      { s with
        heap := Function.update s.heap id none
        world := videoRecorderFree rec (answering io s.world) }

/-- `video_recorder_handle_sample` on the recorder `id`. -/
def Shared.handleSample (s : Shared) (id : Nat) (args : SampleArgs) (io : Io) : Shared :=
  match s.heap id with
  | none => s
  | some rec =>
      let r := videoRecorderHandleSample args rec (answering io s.world)
      { s with heap := Function.update s.heap id (some r.1), world := r.2 }

/-- `video_recorder_get_stats` on the recorder `id`. -/
def Shared.getStats (s : Shared) (id : Nat) (monotonicTime : Nat) : VideoRecorderStats :=
  match s.heap id with
  | none => {}
  | some rec => videoRecorderGetStats rec monotonicTime

/-- The enabled steps and their effects.  The log records a call on a recorder
whether or not the recorder is still in memory. -/
def sharedNext (s : Shared) : RecorderAction → Option Shared
  | .create t cfg answers io =>
      if s.threads t ≠ .idle then none
      else if cfg.outputPath = [] then some s
      else
        match videoRecorderNew { cfg with enable := true } answers (answering io s.world) with
        | (none, w) => some { s with world := w }
        | (some rec, w) => some (s.create t rec w)
  | .install t =>
      match s.threads t with
      | .created id =>
          match s.recorder with
          | some _ => some (s.goto t (.duplicate id))
          | none => some { s.goto t .idle with recorder := some id }
      | _ => none
  | .take t =>
      if s.threads t ≠ .idle then none
      else
        match s.recorder with
        | none => some s
        | some id => some { s.goto t (.taken id) with recorder := none }
  | .freeBegin t =>
      match s.threads t with
      | .duplicate id => some ((s.goto t (.freeing id)).record (.retired id))
      | .taken id => some ((s.goto t (.freeing id)).record (.retired id))
      | _ => none
  | .freeEnd t io =>
      match s.threads t with
      | .freeing id => some ((s.goto t .idle).release id io)
      | _ => none
  | .sample t args io =>
      if s.threads t ≠ .idle then none
      else
        match s.recorder with
        | none => some s
        | some id => some ((s.handleSample id args io).record (.used .handleSample id))
  | .stats t monotonicTime =>
      if s.threads t ≠ .idle then none
      else
        match s.recorder with
        | none => some s
        | some id => some (s.record (.used (.getStats (s.getStats id monotonicTime)) id))

/-- Runs start without a recorder, with no thread inside a call. -/
def sharedRecorder : System Shared RecorderAction where
  init s := s.recorder = none ∧ (∀ id, s.heap id = none) ∧ (∀ t, s.threads t = .idle) ∧
    s.log = []
  next := sharedNext

section Fields

variable (s : Shared) (t : Nat) (pc : CallPc) (e : RecorderEvent)

@[simp]
theorem Shared.goto_heap : (s.goto t pc).heap = s.heap := rfl

@[simp]
theorem Shared.goto_log : (s.goto t pc).log = s.log := rfl

@[simp]
theorem Shared.record_threads : (s.record e).threads = s.threads := rfl

@[simp]
theorem Shared.record_heap : (s.record e).heap = s.heap := rfl

@[simp]
theorem Shared.record_log : (s.record e).log = s.log ++ [e] := rfl

end Fields

@[simp]
theorem goto_threads (s : Shared) (t : Nat) (pc : CallPc) :
    (s.goto t pc).threads t = pc := by
  simp [Shared.goto]

/-- The other threads stay where they are. -/
theorem goto_threads_of_ne (s : Shared) {t t' : Nat} (pc : CallPc) (hne : t' ≠ t) :
    (s.goto t pc).threads t' = s.threads t' := by
  simp [Shared.goto, hne]

/-- A step that reads or writes the memory of one recorder at most. -/
structure Touches (s s' : Shared) : Prop where
  recorder : s'.recorder = s.recorder
  threads : s'.threads = s.threads
  fresh : s'.fresh = s.fresh
  log : s'.log = s.log
  heap : ∀ id', (s'.heap id').isSome = (s.heap id').isSome

/-- A sample touches one recorder at most. -/
theorem handleSample_touches (s : Shared) (id : Nat) (args : SampleArgs) (io : Io) :
    Touches s (s.handleSample id args io) := by
  unfold Shared.handleSample
  split
  · exact ⟨rfl, rfl, rfl, rfl, fun _ => rfl⟩
  · rename_i rec hrec
    refine ⟨rfl, rfl, rfl, rfl, ?_⟩
    intro id'
    by_cases heq : id' = id
    · subst heq
      simp [hrec]
    · simp [heq]

/-- What one step can do. -/
inductive SharedStep (s : Shared) : Shared → Prop
  | outside (w : World) : SharedStep s { s with world := w }
  | created {t : Nat} (rec : VideoRecorder) (w : World) (pc : s.threads t = .idle) :
      SharedStep s (s.create t rec w)
  | installed {t id : Nat} (pc : s.threads t = .created id) (slot : s.recorder = none) :
      SharedStep s { s.goto t .idle with recorder := some id }
  | duplicate {t id : Nat} (pc : s.threads t = .created id) :
      SharedStep s (s.goto t (.duplicate id))
  | taken {t id : Nat} (pc : s.threads t = .idle) (slot : s.recorder = some id) :
      SharedStep s { s.goto t (.taken id) with recorder := none }
  | freeBegun {t id : Nat} (pc : s.threads t = .duplicate id ∨ s.threads t = .taken id) :
      SharedStep s ((s.goto t (.freeing id)).record (.retired id))
  | freed {t id : Nat} (io : Io) (pc : s.threads t = .freeing id) :
      SharedStep s ((s.goto t .idle).release id io)
  | used {s' : Shared} {id : Nat} (call : LockedCall) (slot : s.recorder = some id)
      (touches : Touches s s') : SharedStep s (s'.record (.used call id))

/-- What a step does. -/
theorem sharedNext_step {s s' : Shared} {a : RecorderAction} (h : sharedNext s a = some s') :
    SharedStep s s' := by
  unfold sharedNext at h
  split at h
  · rename_i t cfg answers io
    split at h
    · contradiction
    · rename_i hidle
      split at h
      · cases h
        exact .outside s.world
      · split at h
        · cases h
          exact .outside _
        · cases h
          exact .created _ _ (not_not.mp hidle)
  · split at h
    · rename_i t id hpc
      split at h
      · cases h
        exact .duplicate hpc
      · rename_i hslot
        cases h
        exact .installed hpc hslot
    · contradiction
  · split at h
    · contradiction
    · rename_i hidle
      split at h
      · cases h
        exact .outside s.world
      · rename_i hslot
        cases h
        exact .taken (not_not.mp hidle) hslot
  · split at h
    · rename_i hpc
      cases h
      exact .freeBegun (Or.inl hpc)
    · rename_i hpc
      cases h
      exact .freeBegun (Or.inr hpc)
    · contradiction
  · split at h
    · rename_i hpc
      cases h
      exact .freed _ hpc
    · contradiction
  · split at h
    · contradiction
    · split at h
      · cases h
        exact .outside s.world
      · rename_i hslot
        cases h
        exact .used .handleSample hslot (handleSample_touches s _ _ _)
  · split at h
    · contradiction
    · split at h
      · cases h
        exact .outside s.world
      · rename_i hslot
        cases h
        exact .used _ hslot ⟨rfl, rfl, rfl, rfl, fun _ => rfl⟩

/-! ## Returning from a call -/

theorem exec_cons {s s' s'' : Shared} {a : RecorderAction} {as : List RecorderAction}
    (h : sharedNext s a = some s') (hrest : sharedRecorder.exec s' as = some s'') :
    sharedRecorder.exec s (a :: as) = some s'' :=
  (System.exec_cons_of_next h).trans hrest

theorem exec_single {s s' : Shared} {a : RecorderAction} (h : sharedNext s a = some s') :
    sharedRecorder.exec s [a] = some s' :=
  exec_cons h rfl

@[simp]
theorem release_threads (s : Shared) (id : Nat) (io : Io) :
    (s.release id io).threads = s.threads := by
  unfold Shared.release
  split
  · rfl
  · rfl

/-- `video_recorder_free` after the critical section. -/
def Shared.afterFree (s : Shared) (t id : Nat) (io : Io) : Shared :=
  (((s.goto t (.freeing id)).record (.retired id)).goto t .idle).release id io

/-- A free runs to its end. -/
theorem free_exec {s : Shared} {t id : Nat} (io : Io)
    (pc : s.threads t = .duplicate id ∨ s.threads t = .taken id) :
    sharedRecorder.exec s [.freeBegin t, .freeEnd t io] = some (s.afterFree t id io) := by
  have hbegin : sharedNext s (.freeBegin t) =
      some ((s.goto t (.freeing id)).record (.retired id)) := by
    rcases pc with hpc | hpc
    · simp only [sharedNext, hpc]
    · simp only [sharedNext, hpc]
  have hthread : ((s.goto t (.freeing id)).record (.retired id)).threads t = .freeing id :=
    goto_threads s t (.freeing id)
  have hend : sharedNext ((s.goto t (.freeing id)).record (.retired id)) (.freeEnd t io) =
      some (s.afterFree t id io) := by
    simp only [sharedNext, hthread]
    rfl
  exact exec_cons hbegin (exec_single hend)

@[simp]
theorem afterFree_threads (s : Shared) (t id : Nat) (io : Io) :
    (s.afterFree t id io).threads = Function.update s.threads t .idle := by
  simp [Shared.afterFree, Shared.goto, Shared.record]

/-- A thread inside a call can return from it, whatever the other threads do. -/
theorem call_returns (s : Shared) (t : Nat) :
    ∃ as s', sharedRecorder.exec s as = some s' ∧
      s'.threads = Function.update s.threads t .idle := by
  cases hpc : s.threads t with
  | idle =>
      refine ⟨[], s, rfl, ?_⟩
      rw [← hpc, Function.update_eq_self]
  | created id =>
      cases hslot : s.recorder with
      | none =>
          refine ⟨[.install t], { s.goto t .idle with recorder := some id }, ?_, rfl⟩
          simp [System.exec, sharedRecorder, sharedNext, hpc, hslot]
      | some installed =>
          have hinstall : sharedNext s (.install t) = some (s.goto t (.duplicate id)) := by
            simp only [sharedNext, hpc, hslot]
          have hfree := free_exec {} (Or.inl (goto_threads s t (.duplicate id)))
          refine ⟨_, _, exec_cons hinstall hfree, ?_⟩
          simp [Shared.goto]
  | duplicate id => exact ⟨_, _, free_exec {} (Or.inl hpc), by simp⟩
  | taken id => exact ⟨_, _, free_exec {} (Or.inr hpc), by simp⟩
  | freeing id =>
      refine ⟨[.freeEnd t {}], (s.goto t .idle).release id {}, ?_, ?_⟩
      · simp [System.exec, sharedRecorder, sharedNext, hpc]
      · simp [Shared.goto]

/-! ## Calls that do not interleave -/

/-- The state as `Pipeline.Recording` has it. -/
def Shared.view (s : Shared) : Recording :=
  { recorder := s.recorder.bind s.heap, world := s.world }

/-- The statistics are those of the recorder in view. -/
theorem getStats_view {s : Shared} {id : Nat} (h : s.recorder = some id) (monotonicTime : Nat) :
    s.getStats id monotonicTime = pipelineGetRecordingStats s.view monotonicTime := by
  unfold Shared.getStats pipelineGetRecordingStats Shared.view
  rw [h]
  rfl

/-- Forget the answers still to come. -/
def Recording.settled (s : Recording) : Recording :=
  { s with world := answering {} s.world }

/-- The answers still to come do not matter to the next call. -/
theorem recordingNext_settled (s : Recording) (call : Call) :
    recordingNext s.settled call = recordingNext s call :=
  rfl

/-- The answers still to come do not matter to a run of calls. -/
theorem finish_settled {s s' : Recording} (h : s.settled = s'.settled) (calls : List Call) :
    (finish calls s).settled = (finish calls s').settled := by
  induction calls generalizing s s' with
  | nil => exact h
  | cons call calls ih =>
      apply ih
      rw [← recordingNext_settled s, h, recordingNext_settled s']

/-- The system's answers during a call. -/
def Call.io (call : Call) : Io :=
  { writes := call.writes, allocs := call.allocs, maps := call.maps }

/-- The answers still to come in a world. -/
def Io.rest (w : World) : Io :=
  { writes := w.writes, allocs := w.allocs, maps := w.maps }

/-- Freeing a recorder that is not installed leaves the installed one alone. -/
theorem afterFree_view {s : Shared} {t id : Nat} {rec : VideoRecorder} (io : Io)
    (hheap : s.heap id = some rec) (hslot : s.recorder ≠ some id) :
    (s.afterFree t id io).view =
      { recorder := s.view.recorder, world := videoRecorderFree rec (answering io s.world) } := by
  have hview : s.recorder.bind (Function.update s.heap id none) = s.recorder.bind s.heap := by
    cases hrec : s.recorder with
    | none => rfl
    | some id' =>
        have hne : id' ≠ id := by
          intro heq
          exact hslot (hrec.trans (congrArg some heq))
        simp [hne]
  simp only [Shared.view, Shared.afterFree, Shared.release, Shared.goto, Shared.record, hheap,
    hview]

section Uninterrupted

variable {s : Shared} {t : Nat} (hidle : s.threads t = .idle)
  (hlive : ∀ id, s.recorder = some id → (s.heap id).isSome = true)
  (hpast : ∀ id, s.recorder = some id → id < s.fresh)
include hidle hlive

/-- `pipeline_disable_recording` or `cleanup_pipeline` without interruption. -/
theorem cleanupRecorder_exec (io : Io) :
    ∃ as s', sharedRecorder.exec s as = some s' ∧ s'.threads = s.threads ∧
      s'.view.settled =
        (cleanupRecorder { s.view with world := answering io s.world }).settled := by
  cases hslot : s.recorder with
  | none =>
      refine ⟨[], s, rfl, rfl, ?_⟩
      simp [Recording.settled, cleanupRecorder, Shared.view, hslot, answering]
  | some id =>
      rcases Option.isSome_iff_exists.mp (hlive id hslot) with ⟨rec, hrec⟩
      let taken : Shared := { s.goto t (.taken id) with recorder := none }
      have htake : sharedNext s (.take t) = some taken := by
        simp [sharedNext, hidle, hslot, taken]
      have hpc : taken.threads t = .taken id := goto_threads s t (.taken id)
      have hfree := free_exec io (Or.inr hpc)
      refine ⟨_, _, exec_cons htake hfree, ?_, ?_⟩
      · simp [taken, Shared.goto, ← hidle]
      · have hview := afterFree_view (s := taken) (t := t) io hrec (by simp [taken])
        rw [hview]
        simp only [cleanupRecorder, Shared.view, hslot, Option.bind_some, hrec]
        rfl

/-- The recorder part of a turn of `appsink_thread_func`. -/
theorem handleRecorderSample_exec (args : SampleArgs) (io : Io) :
    ∃ as s', sharedRecorder.exec s as = some s' ∧ s'.threads = s.threads ∧
      s'.view.settled =
        (handleRecorderSample args { s.view with world := answering io s.world }).settled := by
  cases hslot : s.recorder with
  | none =>
      refine ⟨[], s, rfl, rfl, ?_⟩
      simp [Recording.settled, handleRecorderSample, Shared.view, hslot, answering]
  | some id =>
      rcases Option.isSome_iff_exists.mp (hlive id hslot) with ⟨rec, hrec⟩
      have hnext : sharedNext s (.sample t args io) =
          some ((s.handleSample id args io).record (.used .handleSample id)) := by
        simp [sharedNext, hidle, hslot]
      refine ⟨[.sample t args io], _, exec_single hnext, ?_, ?_⟩
      · exact (handleSample_touches s id args io).threads
      · simp [Shared.view, Shared.handleSample, Shared.record, handleRecorderSample, hrec, hslot]

include hpast

/-- The critical section of `pipeline_enable_recording` and what follows. -/
theorem installRecorder_exec (rec : VideoRecorder) (w : World) :
    ∃ as s', sharedRecorder.exec (s.create t rec w) as = some s' ∧ s'.threads = s.threads ∧
      s'.view = (installRecorder rec w s.view).2 := by
  have hpc : (s.create t rec w).threads t = .created s.fresh := goto_threads s t _
  cases hslot : s.recorder with
  | none =>
      have hinstall : sharedNext (s.create t rec w) (.install t) =
          some { (s.create t rec w).goto t .idle with recorder := some s.fresh } := by
        simp only [sharedNext, hpc]
        simp [Shared.create, Shared.goto, hslot]
      refine ⟨_, _, exec_single hinstall, ?_, ?_⟩
      · simp [Shared.create, Shared.goto, ← hidle]
      · simp [installRecorder, Shared.view, hslot, Shared.create, Shared.goto]
  | some id =>
      rcases Option.isSome_iff_exists.mp (hlive id hslot) with ⟨installed, hinstalled⟩
      have hne : id ≠ s.fresh := Nat.ne_of_lt (hpast id hslot)
      let dup := (s.create t rec w).goto t (.duplicate s.fresh)
      have hinstall : sharedNext (s.create t rec w) (.install t) = some dup := by
        simp only [sharedNext, hpc]
        simp [Shared.create, Shared.goto, hslot, dup]
      have hdup : dup.threads t = .duplicate s.fresh := goto_threads (s.create t rec w) t _
      have hrec : dup.heap s.fresh = some rec := by
        simp [dup, Shared.create, Shared.goto]
      have hother : dup.recorder ≠ some s.fresh := by
        simp [dup, Shared.create, Shared.goto, hslot, hne]
      have hview := afterFree_view (t := t) (Io.rest w) hrec hother
      refine ⟨_, _, exec_cons hinstall (free_exec (Io.rest w) (Or.inl hdup)), ?_, ?_⟩
      · simp [dup, Shared.create, Shared.goto, ← hidle]
      · rw [hview]
        simp [installRecorder, Shared.view, hslot, hinstalled, dup, Shared.create, Shared.goto,
          hne, answering, Io.rest]

/-- `pipeline_enable_recording` without interruption. -/
theorem pipelineEnableRecording_exec (cfg : RecordCfg) (answers : NewAnswers) (io : Io) :
    ∃ as s', sharedRecorder.exec s as = some s' ∧ s'.threads = s.threads ∧
      s'.view.settled =
        (pipelineEnableRecording cfg answers
          { s.view with world := answering io s.world }).2.settled := by
  by_cases hpath : cfg.outputPath = []
  · refine ⟨[], s, rfl, rfl, ?_⟩
    simp only [pipelineEnableRecording, hpath, if_pos]
    rfl
  · unfold pipelineEnableRecording
    simp only [if_neg hpath]
    rcases hnew : videoRecorderNew { cfg with enable := true } answers (answering io s.world) with
      ⟨_ | rec, w⟩
    · have hnext : sharedNext s (.create t cfg answers io) = some { s with world := w } := by
        simp [sharedNext, hidle, hpath, hnew]
      exact ⟨_, _, exec_single hnext, rfl, rfl⟩
    · have hnext : sharedNext s (.create t cfg answers io) = some (s.create t rec w) := by
        simp [sharedNext, hidle, hpath, hnew]
      rcases installRecorder_exec hidle hlive hpast rec w with ⟨as, s', hexec, hthreads, hview⟩
      refine ⟨_, s', exec_cons hnext hexec, hthreads, ?_⟩
      rw [hview]
      rfl

end Uninterrupted

end Pipeline
end PixelPilot
