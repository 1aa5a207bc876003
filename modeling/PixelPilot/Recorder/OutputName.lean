import PixelPilot.Recorder.OutputPath

/-!
# The name of a recording

A requested path that is not taken for a directory names the directory of the recording and,
but for the timestamp, its base name.

Main results:

- Definition `NameParts`: a base name and its extension.
- Theorem `outputIn_splits`: the directory and the base name that an output path is put
  together from can be read off again.
- Theorem `buildTimestampedOutputPath_names`: where a recording is and what it is called.
-/

namespace PixelPilot
namespace Recorder

/-! ## Cutting at the last occurrence -/

/-- What is before the last `c`. -/
theorem beforeLast_append {c : Char} {u v : Path} (h : c ∉ v) :
    beforeLast c (u ++ c :: v) = u := by
  have hall : ∀ x ∈ v.reverse, decide (x ≠ c) = true := by
    intro x hx
    have hne : x ≠ c := by
      rintro rfl
      exact h (List.mem_reverse.mp hx)
    simpa using hne
  rw [beforeLast, List.rdropWhile, List.reverse_append, List.reverse_cons, List.append_assoc,
    List.dropWhile_append_of_pos hall]
  simp

/-- A path with a `c` is cut at the last one. -/
theorem exists_cut_last {c : Char} {p : Path} (h : c ∈ p) :
    ∃ u v, p = u ++ c :: v ∧ c ∉ v := by
  induction p with
  | nil => exact absurd h List.not_mem_nil
  | cons x p ih =>
      by_cases hrest : c ∈ p
      · obtain ⟨u, v, rfl, hv⟩ := ih hrest
        exact ⟨x :: u, v, rfl, hv⟩
      · obtain rfl : c = x := (List.mem_cons.mp h).resolve_right hrest
        exact ⟨[], p, rfl, hrest⟩

/-! ## Reading directory and base name off a path -/

/-- The directory is what is before the last separator, without those at its end. -/
theorem gPathGetDirname_append {u v : Path} (h : '/' ∉ v) :
    gPathGetDirname (u ++ '/' :: v) =
      if u.rdropWhile (· = '/') = [] then ['/'] else u.rdropWhile (· = '/') := by
  have hmem : '/' ∈ u ++ '/' :: v := List.mem_append_right u List.mem_cons_self
  simp only [gPathGetDirname, hmem, if_true, beforeLast_append h]

/-- A path without separator is in the current directory. -/
theorem gPathGetDirname_of_notMem {p : Path} (h : '/' ∉ p) : gPathGetDirname p = ['.'] := by
  simp only [gPathGetDirname, h, if_false]

theorem rdropWhile_of_getLast {p : Path} (h : p.getLast? ≠ some '/') :
    p.rdropWhile (· = '/') = p := by
  rw [List.rdropWhile_eq_self_iff]
  intro hne hlast
  apply h
  rw [List.getLast?_eq_getLast_of_ne_nil hne]
  simpa using hlast

theorem getLast_ne_of_notMem {v : Path} (h : '/' ∉ v) : v.getLast? ≠ some '/' :=
  fun hlast => h (List.mem_of_getLast? hlast)

theorem getLast_append_ne {u v : Path} (hv : v ≠ []) (h : '/' ∉ v) :
    (u ++ '/' :: v).getLast? ≠ some '/' := by
  rw [List.append_cons, List.getLast?_append_of_ne_nil _ hv]
  exact getLast_ne_of_notMem h

/-- The base name is what is behind the last separator. -/
theorem gPathGetBasename_append {u v : Path} (hv : v ≠ []) (h : '/' ∉ v) :
    gPathGetBasename (u ++ '/' :: v) = v := by
  simp only [gPathGetBasename, rdropWhile_of_getLast (getLast_append_ne hv h)]
  rw [if_neg (by simp), if_neg (by simp)]
  exact afterLast_append h

theorem afterLast_of_notMem {c : Char} {p : Path} (h : c ∉ p) : afterLast c p = p := by
  rw [afterLast, List.rtakeWhile_eq_self_iff]
  intro x hx
  have hne : x ≠ c := by
    rintro rfl
    exact h hx
  simpa using hne

/-- A path without separator is its own base name. -/
theorem gPathGetBasename_of_notMem {p : Path} (hp : p ≠ []) (h : '/' ∉ p) :
    gPathGetBasename p = p := by
  simp only [gPathGetBasename, hp, if_false]
  rw [rdropWhile_of_getLast (getLast_ne_of_notMem h), if_neg hp]
  exact afterLast_of_notMem h

/-! ## Putting a path together -/

/-- The output path for a directory and a file name. -/
def outputIn (dir name : Path) : Path :=
  if dir ≠ [] ∧ dir ≠ ['.'] then gBuildFilename dir name else name

/-- A path is a file name in a directory. -/
structure Splits (path dir name : Path) : Prop where
  dirname : gPathGetDirname path = dir
  basename : gPathGetBasename path = name
  /-- It does not look like a directory. -/
  file : pathLooksLikeDirectory path false = false

/-- A path that does not end in a separator is no directory by its looks. -/
theorem not_looksLikeDirectory {path : Path} (hne : path ≠ [])
    (hlast : path.getLast? ≠ some '/') : pathLooksLikeDirectory path false = false := by
  simp [pathLooksLikeDirectory, hne, hlast]

/-- A name alone splits into the current directory and itself. -/
theorem splits_of_notMem {name : Path} (hname : name ≠ []) (h : '/' ∉ name) :
    Splits name ['.'] name where
  dirname := gPathGetDirname_of_notMem h
  basename := gPathGetBasename_of_notMem hname h
  file := not_looksLikeDirectory hname (getLast_ne_of_notMem h)

/-- A path splits at its last separator. -/
theorem splits_append {u name : Path} (hname : name ≠ []) (h : '/' ∉ name) :
    Splits (u ++ '/' :: name)
      (if u.rdropWhile (· = '/') = [] then ['/'] else u.rdropWhile (· = '/')) name where
  dirname := gPathGetDirname_append h
  basename := gPathGetBasename_append hname h
  file := not_looksLikeDirectory (by simp) (getLast_append_ne hname h)

/-- What `g_path_get_dirname` returns can be put in front of a file name and read off
again. -/
theorem outputIn_splits (path : Path) {name : Path} (hname : name ≠ []) (h : '/' ∉ name) :
    Splits (outputIn (gPathGetDirname path) name) (gPathGetDirname path) name := by
  unfold outputIn
  by_cases hsep : '/' ∈ path
  · obtain ⟨u, v, rfl, hv⟩ := exists_cut_last hsep
    rw [gPathGetDirname_append hv]
    by_cases hroot : u.rdropWhile (· = '/') = []
    · -- The file is in the root directory.
      rw [if_pos hroot, if_pos ⟨by simp, by simp⟩]
      exact splits_append (u := []) hname h
    · rw [if_neg hroot]
      have hnot := List.rdropWhile_last_not (fun x => decide (x = '/')) u hroot
      have hlast : (u.rdropWhile (· = '/')).getLast? ≠ some '/' := by
        rw [List.getLast?_eq_getLast_of_ne_nil hroot]
        simpa using hnot
      by_cases hdot : u.rdropWhile (· = '/') = ['.']
      · rw [hdot, if_neg (by simp)]
        exact splits_of_notMem hname h
      · rw [if_pos ⟨hroot, hdot⟩, gBuildFilename_of_getLast hroot hlast]
        have hsplits := splits_append (u := u.rdropWhile (· = '/')) hname h
        rwa [rdropWhile_of_getLast hlast, if_neg hroot] at hsplits
  · rw [gPathGetDirname_of_notMem hsep, if_neg (by simp)]
    exact splits_of_notMem hname h

/-! ## The base name -/

/-- A base name is a stem and an extension: it is cut at its last dot, unless that is its
first character; without an extension there is `.mp4`. -/
inductive NameParts (basename : Path) : Path → Path → Prop
  | dotted {stem rest : Path} : basename = stem ++ '.' :: rest → '.' ∉ rest → stem ≠ [] →
      NameParts basename stem ('.' :: rest)
  | plain : '.' ∉ basename.tail → NameParts basename basename ".mp4".toList

/-- A base name has one stem and one extension. -/
theorem NameParts.unique {basename stem stem' ext ext' : Path}
    (h : NameParts basename stem ext) (h' : NameParts basename stem' ext') :
    stem = stem' ∧ ext = ext' := by
  have hnot : ∀ {stem rest : Path}, stem ≠ [] → '.' ∈ (stem ++ '.' :: rest).tail := by
    intro stem rest hstem
    rw [List.tail_append_of_ne_nil hstem]
    exact List.mem_append_right _ List.mem_cons_self
  cases h with
  | dotted hcut hrest hstem =>
      cases h' with
      | dotted hcut' hrest' _ =>
          obtain ⟨rfl, rfl⟩ := cut_last_inj hrest hrest' (hcut.symm.trans hcut')
          exact ⟨rfl, rfl⟩
      | plain hplain => exact absurd (hcut ▸ hnot hstem) hplain
  | plain hplain =>
      cases h' with
      | dotted hcut' _ hstem' => exact absurd (hcut' ▸ hnot hstem') hplain
      | plain _ => exact ⟨rfl, rfl⟩

/-- The timestamp stands between the stem and the extension. -/
theorem withTimestamp_parts (basename : Path) (timestamp : Timestamp) :
    ∃ stem ext, NameParts basename stem ext ∧
      withTimestamp basename timestamp = stem ++ '-' :: timestamp.text ++ ext := by
  by_cases hdot : '.' ∈ basename
  · obtain ⟨stem, rest, rfl, hrest⟩ := exists_cut_last hdot
    by_cases hstem : stem = []
    · subst hstem
      refine ⟨_, _, .plain hrest, ?_⟩
      rw [withTimestamp, beforeLast_append hrest, if_neg (by simp)]
      simp
    · refine ⟨stem, '.' :: rest, .dotted rfl hrest hstem, ?_⟩
      rw [withTimestamp, beforeLast_append hrest, afterLast_append hrest, if_pos ⟨hdot, hstem⟩]
      simp
  · refine ⟨basename, _, .plain fun htail => hdot (List.mem_of_mem_tail htail), ?_⟩
    rw [withTimestamp, if_neg fun h => hdot h.1]
    simp

theorem withTimestamp_ne_nil (basename : Path) (timestamp : Timestamp) :
    withTimestamp basename timestamp ≠ [] := by
  obtain ⟨stem, ext, -, hname⟩ := withTimestamp_parts basename timestamp
  rw [hname]
  simp

/-! ## Where a recording is -/

/-- A recording is in the directory of the requested path; its name is the stem of the
requested base name, the timestamp and the extension.  Each timestamp has its own path. -/
theorem buildTimestampedOutputPath_names (requested : Path) (isDir : Bool)
    (timestamp : Timestamp) (hne : requested ≠ [])
    (hfile : pathLooksLikeDirectory requested isDir = false) :
    (∃ stem ext, NameParts (gPathGetBasename requested) stem ext ∧
      Splits (buildTimestampedOutputPath requested isDir timestamp) (gPathGetDirname requested)
        (stem ++ '-' :: timestamp.text ++ ext)) ∧
      ∀ other, buildTimestampedOutputPath requested isDir timestamp =
        buildTimestampedOutputPath requested isDir other → timestamp.text = other.text := by
  have hbase : basePath requested = requested := if_pos hne
  have houtput : buildTimestampedOutputPath requested isDir timestamp =
      outputIn (gPathGetDirname requested)
        (withTimestamp (gPathGetBasename requested) timestamp) := by
    simp only [buildTimestampedOutputPath, hbase, hfile, Bool.false_eq_true, if_false, outputIn]
  constructor
  · have hlast : requested.getLast? ≠ some '/' := by
      intro hlast
      simp [pathLooksLikeDirectory, hlast] at hfile
    obtain ⟨stem, ext, hparts, hname⟩ :=
      withTimestamp_parts (gPathGetBasename requested) timestamp
    refine ⟨stem, ext, hparts, ?_⟩
    rw [houtput, ← hname]
    exact outputIn_splits requested (withTimestamp_ne_nil _ timestamp)
      (withTimestamp_noSeparator timestamp (gPathGetBasename_noSeparator hne hlast))
  · intro other heq
    exact ((buildTimestampedOutputPath_inj requested isDir isDir timestamp other).mp heq).1

/-- A hidden directory with a dot in its name, and a base name with two dots. -/
theorem buildTimestampedOutputPath_names_nested : ∃ requested : Path, requested ≠ [] ∧
    pathLooksLikeDirectory requested false = false ∧ ∃ stem ext,
      NameParts (gPathGetBasename requested) stem ext ∧
      Splits (buildTimestampedOutputPath requested false ⟨"20240102-030405".toList, by decide⟩)
        (gPathGetDirname requested) (stem ++ '-' :: "20240102-030405".toList ++ ext) := by
  have hne : "//.cache.d//a.b.mkv".toList ≠ [] := by decide
  have hfile : pathLooksLikeDirectory "//.cache.d//a.b.mkv".toList false = false := by decide
  exact ⟨_, hne, hfile,
    (buildTimestampedOutputPath_names _ false ⟨"20240102-030405".toList, by decide⟩ hne hfile).1⟩

example : buildTimestampedOutputPath "//.cache.d//a.b.mkv".toList false
    ⟨"20240102-030405".toList, by decide⟩ = "//.cache.d/a.b-20240102-030405.mkv".toList := by
  decide

end Recorder
end PixelPilot
