import PixelPilot.Pipeline.Recording

/-!
# One file for each recording session

A session is a call of `video_recorder_new` that opened its file, which `fopen`
with mode `"wb"` empties.  Only the timestamp, which has a resolution of one
second, tells the files of the sessions of a run apart.

Main results:

- Definition `DistinctFiles`: no session opens the file of an earlier recorder.
- Theorem `sessions_distinct_iff`: this holds exactly when no session has the
  timestamp of an earlier recorder, the file test of the configured path
  answering alike.
-/

namespace PixelPilot
namespace Pipeline

open Minimp4 Recorder Transition

/-- The program enables recordings with one configured path. -/
def usesPath (requested : Path) (_ : Recording) (call : Call) : Prop :=
  match call.op with
  | .enable cfg _ => cfg.outputPath = requested
  | _ => True

/-- No session opens the file of an earlier recorder. -/
def DistinctFiles (sessions : List Session) : Prop :=
  sessions.Pairwise fun earlier later =>
    earlier.returned = true → earlier.path ≠ later.path

/-- The local time a session read, and whether its path was taken for a
directory. -/
def sessionKey (session : Session) : Path × Bool :=
  (session.timestamp.text,
    pathLooksLikeDirectory (basePath session.requested) session.isDir)

/-- No session has the timestamp of an earlier recorder for the same kind of
path. -/
def DistinctTimestamps (sessions : List Session) : Prop :=
  sessions.Pairwise fun earlier later =>
    earlier.returned = true → sessionKey earlier ≠ sessionKey later

/-- All sessions of a run have the configured path. -/
theorem session_requested {requested : Path} {s : Recording}
    (h : recording.ReachableUnder (usesPath requested) s) :
    ∀ session ∈ s.world.sessions, session.requested = requested := by
  apply h.invariant fun s : Recording =>
    ∀ session ∈ s.world.sessions, session.requested = requested
  · rintro s ⟨-, hsessions⟩ session hsession
    rw [hsessions] at hsession
    contradiction
  · intro s t call hinv hok hnext session hsession
    cases hnext
    unfold recordingNext at hsession
    have hcleanup : ∀ u : Recording, (cleanupRecorder u).world.sessions = u.world.sessions := by
      intro u
      unfold cleanupRecorder
      split
      · rfl
      · exact (videoRecorderFree_step _ _).sessions
    split at hsession
    · rename_i cfg answers hop
      have hpath : cfg.outputPath = requested := by
        simpa [usesPath, hop] using hok
      rcases pipelineEnableRecording_sessions cfg answers (s.before call) with
        hsame | ⟨returned, hmore⟩
      · rw [hsame] at hsession
        exact hinv session hsession
      · rw [hmore] at hsession
        rcases List.mem_append.mp hsession with hold | hnew
        · exact hinv session hold
        · rw [List.mem_singleton] at hnew
          rw [hnew]
          exact hpath
    · rw [pipelineDisableRecording, hcleanup] at hsession
      exact hinv session hsession
    · rw [hcleanup] at hsession
      exact hinv session hsession
    · rename_i args _
      have hsample : (handleRecorderSample args (s.before call)).world.sessions =
          (s.before call).world.sessions := by
        unfold handleRecorderSample
        split
        · rfl
        · exact (videoRecorderHandleSample_step _ _ _).sessions
      rw [hsample] at hsession
      exact hinv session hsession

/-- Two sessions of a run have the same file exactly when they have the same
key. -/
theorem session_path_iff {requested : Path} {s : Recording}
    (h : recording.ReachableUnder (usesPath requested) s) {a b : Session}
    (ha : a ∈ s.world.sessions) (hb : b ∈ s.world.sessions) :
    a.path = b.path ↔ sessionKey a = sessionKey b := by
  have hinv := recordingInv h
  have hreqa := session_requested h a ha
  have hreqb := session_requested h b hb
  rw [hinv.sessions a ha, hinv.sessions b hb, hreqa, hreqb, buildTimestampedOutputPath_inj]
  unfold sessionKey
  rw [Prod.mk.injEq, hreqa, hreqb]

/-- In every run with one configured path the sessions have files of their own
exactly when no session repeats the timestamp of an earlier recorder. -/
theorem sessions_distinct_iff (requested : Path) (s : Recording)
    (h : recording.ReachableUnder (usesPath requested) s) :
    DistinctFiles s.world.sessions ↔ DistinctTimestamps s.world.sessions := by
  unfold DistinctFiles DistinctTimestamps
  apply List.Pairwise.iff_of_mem
  intro a b ha hb
  have hiff := session_path_iff h ha hb
  constructor
  · intro hpath hreturned hkey
    exact hpath hreturned (hiff.mpr hkey)
  · intro hkey hreturned hpath
    exact hkey hreturned (hiff.mp hpath)

/-! ## Concrete runs -/

/-- One second after noon. -/
def afterNoon : Timestamp := ⟨"20250101-120001".toList, by decide⟩

/-- SIGUSR1, SIGUSR2 and SIGUSR1 again, at two local times. -/
def twoSessions (first second : Timestamp) : List Call :=
  [{ op := .enable (mediaCfg .sequential) { timestamp := first } },
    { op := .disable },
    { op := .enable (mediaCfg .sequential) { timestamp := second } }]

/-- Both sessions record to one path. -/
theorem twoSessions_usesPath (first second : Timestamp) (s : Recording) :
    ∀ call ∈ twoSessions first second, usesPath (mediaCfg .sequential).outputPath s call := by
  intro call hcall
  simp only [twoSessions, List.mem_cons, List.not_mem_nil, or_false] at hcall
  rcases hcall with rfl | rfl | rfl
  · rfl
  · trivial
  · rfl

theorem twoSessions_reachable (first second : Timestamp) :
    recording.ReachableUnder (usesPath (mediaCfg .sequential).outputPath)
      (finish (twoSessions first second) {}) :=
  reachableUnder_finish (.init ⟨rfl, rfl⟩) _ fun s => twoSessions_usesPath first second s

/-- A recording stopped and started again a second later gets a file of its
own. -/
theorem sessions_distinct_later :
    DistinctFiles (finish (twoSessions noon afterNoon) {}).world.sessions := by
  apply (sessions_distinct_iff (mediaCfg .sequential).outputPath _
    (twoSessions_reachable noon afterNoon)).mpr
  unfold DistinctTimestamps
  decide +kernel

/-- A recording stopped and started again within a second empties the file of the
first one. -/
theorem sessions_collide :
    recording.ReachableUnder (usesPath (mediaCfg .sequential).outputPath)
        (finish (twoSessions noon noon) {}) ∧
      ¬ DistinctFiles (finish (twoSessions noon noon) {}).world.sessions := by
  refine ⟨twoSessions_reachable noon noon, ?_⟩
  unfold DistinctFiles
  decide +kernel

end Pipeline
end PixelPilot
