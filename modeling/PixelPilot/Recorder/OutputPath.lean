import Mathlib.Data.List.DropRight

/-!
# The recorder's output path

`build_timestamped_output_path` puts a one-second local timestamp into the
configured path.  Paths are character lists; `g_path_get_dirname`,
`g_path_get_basename` and `g_build_filename` are modelled as GLib documents them,
the last one for a second element that is a file name.

Main results:

- Definition `buildTimestampedOutputPath`.
- Theorem `buildTimestampedOutputPath_inj`: for one configured path the output
  path determines the timestamp and whether the path was taken for a directory.

Current gaps:

- Two paths that differ are two files: links and mount points are not modelled.
-/

namespace PixelPilot
namespace Recorder

abbrev Path := List Char

/-! ## Splitting at the last occurrence -/

/-- What precedes the last `c`. -/
def beforeLast (c : Char) (p : Path) : Path :=
  (p.rdropWhile (· ≠ c)).dropLast

/-- What follows the last `c`. -/
def afterLast (c : Char) (p : Path) : Path :=
  p.rtakeWhile (· ≠ c)

/-- There is no `c` behind the last one. -/
theorem afterLast_notMem (c : Char) (p : Path) : c ∉ afterLast c p := by
  intro hmem
  have himp := List.mem_rtakeWhile_imp hmem
  simp at himp

theorem afterLast_append {c : Char} {u v : Path} (h : c ∉ v) :
    afterLast c (u ++ c :: v) = v := by
  have hall : ∀ x ∈ v.reverse, decide (x ≠ c) = true := by
    intro x hx
    have hne : x ≠ c := by
      rintro rfl
      exact h (List.mem_reverse.mp hx)
    simpa using hne
  rw [afterLast, List.rtakeWhile, List.reverse_append, List.reverse_cons, List.append_assoc,
    List.takeWhile_append_of_pos hall]
  simp

/-- There is one way to cut a path at its last `c`. -/
theorem cut_last_inj {c : Char} {u u' v v' : Path} (h : c ∉ v) (h' : c ∉ v')
    (heq : u ++ c :: v = u' ++ c :: v') : u = u' ∧ v = v' := by
  have hv : v = v' := by
    have hafter := congrArg (afterLast c) heq
    rwa [afterLast_append h, afterLast_append h'] at hafter
  subst hv
  exact ⟨List.append_cancel_right heq, rfl⟩

/-- What is before the last `c` is shorter. -/
theorem beforeLast_length_lt {c : Char} {p : Path} (h : c ∈ p) :
    (beforeLast c p).length < p.length := by
  have hprefix := (List.rdropWhile_prefix (fun x => decide (x ≠ c)) p).length_le
  have hpos : 0 < p.length := List.length_pos_of_mem h
  rw [beforeLast, List.length_dropLast]
  omega

/-! ## GLib path functions -/

/-- `g_path_get_dirname`. -/
def gPathGetDirname (fileName : Path) : Path :=
  if '/' ∈ fileName then
    let dir := (beforeLast '/' fileName).rdropWhile (· = '/')
    if dir = [] then ['/'] else dir
  else ['.']

/-- `g_path_get_basename`. -/
def gPathGetBasename (fileName : Path) : Path :=
  if fileName = [] then ['.']
  else
    let stripped := fileName.rdropWhile (· = '/')
    if stripped = [] then ['/'] else afterLast '/' stripped

/-- `g_build_filename`, for a second element that is a non-empty file name without
separators: the separators between the elements become one, and those in front
of the first element stay. -/
def gBuildFilename (dir file : Path) : Path :=
  let leading := dir.takeWhile (· = '/')
  let body := (dir.dropWhile (· = '/')).rdropWhile (· = '/')
  if body = [] then leading ++ file else leading ++ body ++ '/' :: file

/-! ## The output path -/

/-- The text `recorder_timestamp_string` returns: `%Y%m%d-%H%M%S` of the local
time, or zeros.  All that is known of it is that it contains no separator. -/
structure Timestamp where
  text : Path
  noSeparator : '/' ∉ text

/-- `path_looks_like_directory`; `isDir` is what `g_file_test` answers. -/
def pathLooksLikeDirectory (path : Path) (isDir : Bool) : Bool :=
  path = [] || path.getLast? = some '/' || isDir

/-- The base path: `/media` when none is requested. -/
def basePath (requested : Path) : Path :=
  if requested ≠ [] then requested else "/media".toList

/-- The file name used inside a directory. -/
def directoryFilename (timestamp : Timestamp) : Path :=
  "pixelpilot_stripped_rk-".toList ++ timestamp.text ++ ".mp4".toList

/-- The base name with the timestamp in front of its extension. -/
def withTimestamp (basename : Path) (timestamp : Timestamp) : Path :=
  if '.' ∈ basename ∧ beforeLast '.' basename ≠ [] then
    beforeLast '.' basename ++ "-".toList ++ timestamp.text ++ '.' :: afterLast '.' basename
  else basename ++ "-".toList ++ timestamp.text ++ ".mp4".toList

/-- `build_timestamped_output_path`. -/
def buildTimestampedOutputPath (requested : Path) (isDir : Bool) (timestamp : Timestamp) :
    Path :=
  let base := basePath requested
  if pathLooksLikeDirectory base isDir then
    gBuildFilename base (directoryFilename timestamp)
  else
    let dir := gPathGetDirname base
    let name := withTimestamp (gPathGetBasename base) timestamp
    if dir ≠ [] ∧ dir ≠ ['.'] then gBuildFilename dir name else name

/-! ## Distinct sessions -/

/-- There is always a path to start from. -/
theorem basePath_ne_nil (requested : Path) : basePath requested ≠ [] := by
  unfold basePath
  split
  · assumption
  · decide

/-- Names in a directory differ with the timestamp. -/
theorem directoryFilename_inj {s t : Timestamp}
    (h : directoryFilename s = directoryFilename t) : s.text = t.text := by
  unfold directoryFilename at h
  exact List.append_cancel_left (List.append_cancel_right h)

/-- Names with a timestamp put in differ with the timestamp. -/
theorem withTimestamp_inj {basename : Path} {s t : Timestamp}
    (h : withTimestamp basename s = withTimestamp basename t) : s.text = t.text := by
  unfold withTimestamp at h
  split at h
  · exact List.append_cancel_left (List.append_cancel_right h)
  · exact List.append_cancel_left (List.append_cancel_right h)

/-- Paths into one directory differ with the name of the file. -/
theorem gBuildFilename_inj {dir file file' : Path}
    (h : gBuildFilename dir file = gBuildFilename dir file') : file = file' := by
  simp only [gBuildFilename] at h
  split at h
  · exact List.append_cancel_left h
  · simpa using List.append_cancel_left h

/-- The name holds no separator. -/
theorem directoryFilename_noSeparator (t : Timestamp) : '/' ∉ directoryFilename t := by
  have hstem : '/' ∉ "pixelpilot_stripped_rk-".toList := by decide
  have hext : '/' ∉ ".mp4".toList := by decide
  intro hmem
  rcases List.mem_append.mp hmem with hmem | hmem
  · rcases List.mem_append.mp hmem with hmem | hmem
    · exact hstem hmem
    · exact t.noSeparator hmem
  · exact hext hmem

theorem beforeLast_subset {c : Char} {p : Path} : beforeLast c p ⊆ p := by
  intro x hx
  exact (List.rdropWhile_prefix (fun x => decide (x ≠ c)) p).subset
    (List.dropLast_subset _ hx)

theorem afterLast_subset {c : Char} {p : Path} : afterLast c p ⊆ p :=
  (List.rtakeWhile_suffix (fun x => decide (x ≠ c)) p).subset

/-- A timestamp puts no separator into a name. -/
theorem withTimestamp_noSeparator {basename : Path} (t : Timestamp)
    (h : '/' ∉ basename) : '/' ∉ withTimestamp basename t := by
  have htime := t.noSeparator
  have hbefore : '/' ∉ beforeLast '.' basename := fun hmem => h (beforeLast_subset hmem)
  have hafter : '/' ∉ afterLast '.' basename := fun hmem => h (afterLast_subset hmem)
  unfold withTimestamp
  split
  · simp [hbefore, hafter, htime]
  · simp [h, htime]

/-- The base name of a path that does not end in a separator contains none. -/
theorem gPathGetBasename_noSeparator {p : Path} (hp : p ≠ []) (h : p.getLast? ≠ some '/') :
    '/' ∉ gPathGetBasename p := by
  have hstripped : p.rdropWhile (· = '/') = p := by
    rw [List.rdropWhile_eq_self_iff]
    intro hne hlast
    apply h
    rw [List.getLast?_eq_getLast_of_ne_nil hne]
    simpa using hlast
  simp only [gPathGetBasename, hp, if_false, hstripped]
  exact afterLast_notMem '/' p

/-- A directory that does not end in a separator is prefixed as it is. -/
theorem gBuildFilename_of_getLast {dir file : Path} (hne : dir ≠ [])
    (h : dir.getLast? ≠ some '/') : gBuildFilename dir file = dir ++ '/' :: file := by
  have hlast : dir.getLast hne ≠ '/' := by
    intro hsep
    apply h
    rw [List.getLast?_eq_getLast_of_ne_nil hne, hsep]
  have hbody : dir.dropWhile (· = '/') ≠ [] := by
    rw [Ne, List.dropWhile_eq_nil_iff]
    intro hall
    exact hlast (by simpa using hall _ (List.getLast_mem hne))
  have hstripped : (dir.dropWhile (· = '/')).rdropWhile (· = '/') =
      dir.dropWhile (· = '/') := by
    rw [List.rdropWhile_eq_self_iff]
    intro hne' hsep
    apply hlast
    have hsuffix := List.dropWhile_suffix (l := dir) (fun x => decide (x = '/'))
    rw [← hsuffix.getLast hne']
    simpa using hsep
  simp only [gBuildFilename, hstripped, hbody, if_false]
  rw [List.takeWhile_append_dropWhile]

/-- A path inside the directory `base` is none beside `base`. -/
theorem directory_path_ne {base name file : Path} (hne : base ≠ []) (hname : '/' ∉ name)
    (hfile : '/' ∉ file) :
    base ++ '/' :: file ≠
      if gPathGetDirname base ≠ [] ∧ gPathGetDirname base ≠ ['.'] then
        gBuildFilename (gPathGetDirname base) name
      else name := by
  intro heq
  split at heq
  · rename_i hdir
    by_cases hsep : '/' ∈ base
    · have hless := beforeLast_length_lt hsep
      simp only [gPathGetDirname, hsep, if_true] at heq hdir
      by_cases hroot : (beforeLast '/' base).rdropWhile (· = '/') = []
      · simp only [hroot, if_true] at heq
        have htop : base ++ '/' :: file = [] ++ '/' :: name := by
          simpa [gBuildFilename] using heq
        exact hne (cut_last_inj hfile hname htop).1
      · simp only [hroot, if_false] at heq
        rw [gBuildFilename_of_getLast hroot] at heq
        · have hcut := cut_last_inj hfile hname heq
          have hprefix := (List.rdropWhile_prefix (fun x => decide (x = '/'))
            (beforeLast '/' base)).length_le
          rw [← hcut.1] at hprefix
          omega
        · intro hends
          have hnot := List.rdropWhile_last_not (fun x => decide (x = '/')) _ hroot
          rw [List.getLast?_eq_getLast_of_ne_nil hroot] at hends
          simp at hends
          simp [hends] at hnot
    · simp [gPathGetDirname, hsep] at hdir
  · apply hname
    rw [← heq]
    simp

/-- Two recordings of one configured path have the same output path exactly when
they have the same timestamp and agree on whether the path is a directory. -/
theorem buildTimestampedOutputPath_inj (requested : Path) (isDir isDir' : Bool)
    (s t : Timestamp) :
    buildTimestampedOutputPath requested isDir s =
        buildTimestampedOutputPath requested isDir' t ↔
      s.text = t.text ∧ pathLooksLikeDirectory (basePath requested) isDir =
        pathLooksLikeDirectory (basePath requested) isDir' := by
  have hne := basePath_ne_nil requested
  have hbeside : ∀ {d : Bool}, pathLooksLikeDirectory (basePath requested) d = false →
      (basePath requested).getLast? ≠ some '/' := by
    intro d hd hlast
    simp [pathLooksLikeDirectory, hlast] at hd
  constructor
  · intro heq
    simp only [buildTimestampedOutputPath] at heq
    cases hd : pathLooksLikeDirectory (basePath requested) isDir <;>
      cases hd' : pathLooksLikeDirectory (basePath requested) isDir'
    · refine ⟨?_, rfl⟩
      simp only [hd, hd', Bool.false_eq_true, if_false] at heq
      split at heq
      · exact withTimestamp_inj (gBuildFilename_inj heq)
      · exact withTimestamp_inj heq
    · exfalso
      have hlast := hbeside hd
      have hname := withTimestamp_noSeparator s (gPathGetBasename_noSeparator hne hlast)
      simp only [hd, hd', Bool.false_eq_true, if_false, if_true] at heq
      rw [gBuildFilename_of_getLast hne hlast] at heq
      exact directory_path_ne hne hname (directoryFilename_noSeparator t) heq.symm
    · exfalso
      have hlast := hbeside hd'
      have hname := withTimestamp_noSeparator t (gPathGetBasename_noSeparator hne hlast)
      simp only [hd, hd', Bool.false_eq_true, if_false, if_true] at heq
      rw [gBuildFilename_of_getLast hne hlast] at heq
      exact directory_path_ne hne hname (directoryFilename_noSeparator s) heq
    · refine ⟨?_, rfl⟩
      simp only [hd, hd', if_true] at heq
      exact directoryFilename_inj (gBuildFilename_inj heq)
  · rintro ⟨htext, hdir⟩
    rcases s with ⟨text, hs⟩
    rcases t with ⟨text', ht⟩
    obtain rfl : text = text' := htext
    simp only [buildTimestampedOutputPath, hdir]

end Recorder
end PixelPilot
