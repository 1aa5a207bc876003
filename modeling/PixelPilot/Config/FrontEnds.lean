import PixelPilot.Config.CommandLine

/-!
# Options and keys for the same setting

A value can be given on the command line or in a file.  The two ways have their own
tokenizers and their own copies of the parsers.

Main results:

- Definition `sharedSettings`: the settings with an option and a key.
- Definition `PlainValue`: a text that both tokenizers leave alone.
- Theorem `cfgLoadFile_oneLine`: what a file with one setting does.
- Theorem `front_ends_agree`: the option and the key do the same.
-/

namespace PixelPilot
namespace Config

open Assignments ArgumentLoop Terminated

/-- A setting that has an option and a key in a section. -/
structure Setting where
  field : Field
  optionName : Text
  sectionName : Text
  key : Text
deriving DecidableEq, Repr

/-- The settings that have both, with the sections of the documentation. -/
def sharedSettings : List Setting :=
  [⟨.cardPath, "--card".toList, "video".toList, "card_path".toList⟩,
    ⟨.connectorName, "--connector".toList, "video".toList, "connector".toList⟩,
    ⟨.planeId, "--plane-id".toList, "video".toList, "plane_id".toList⟩,
    ⟨.udpPort, "--udp-port".toList, "video".toList, "udp_port".toList⟩,
    ⟨.vidPt, "--vid-pt".toList, "video".toList, "vid_pt".toList⟩,
    ⟨.appsinkMaxBuffers, "--appsink-max-buffers".toList, "video".toList,
      "appsink_max_buffers".toList⟩,
    ⟨.recordPath, "--record-video".toList, "record".toList, "output_path".toList⟩,
    ⟨.recordMode, "--record-mode".toList, "record".toList, "mode".toList⟩]

/-- The line with the value. -/
def settingLine (t : Setting) (value : Text) : Text :=
  t.key ++ '=' :: value

/-- The line with the section. -/
def sectionLine (t : Setting) : Text :=
  '[' :: t.sectionName ++ [']']

/-- The file with one setting in its section. -/
def oneLineFile (t : Setting) (value : Text) : Text :=
  sectionLine t ++ '\n' :: (settingLine t value ++ ['\n'])

/-- A value that is no option for the first pass, that has no blanks at its ends and no
character with a meaning in a file, and that fits on a line. -/
structure PlainValue (t : Setting) (value : Text) : Prop where
  noNul : '\x00' ∉ value
  noNewline : '\n' ∉ value
  noComment : ∀ c ∈ value, isComment c = false
  front : ∀ c ∈ value.head?, Main.isspace c = false
  back : ∀ c ∈ value.getLast?, Main.isspace c = false
  quiet : Quiet value
  path : t.field = .recordPath → isPath value = true
  short : (settingLine t value ++ ['\n']).length ≤ maxIniLine - 1

/-! ## The line of a file -/

/-- What the names of a setting are good for. -/
structure WellNamed (t : Setting) : Prop where
  front : ∃ c rest, t.key = c :: rest ∧ Main.isspace c = false ∧ c ≠ '['
  back : ∀ c ∈ t.key.getLast?, Main.isspace c = false
  plain : ∀ c ∈ t.key, isComment c = false ∧ c ≠ '=' ∧ c ≠ '\n' ∧ c ≠ '\x00'
  sectionPlain : ∀ c ∈ sectionLine t, c ≠ '\n' ∧ c ≠ '\x00'
  sectionShort : (sectionLine t).length ≤ maxIniLine - 1
  denotes : denoted (sectionKeys t.sectionName) t.key = some t.field
  opens : ∀ s, interpretLine (sectionLine t) s = { s with sectionName := t.sectionName }

/-- What holds of all elements can be computed. -/
theorem forall_mem_of_all {α : Type} {p : α → Prop} [DecidablePred p] {l : List α}
    (h : (l.all fun a => decide (p a)) = true) : ∀ a ∈ l, p a :=
  fun a ha => of_decide_eq_true (List.all_eq_true.mp h a ha)

theorem forall_mem_option {α : Type} {p : α → Prop} {o : Option α}
    (h : ∀ a ∈ o.toList, p a) : ∀ a ∈ o, p a :=
  fun a ha => h a (Option.mem_toList.mpr ha)

/-- All shared settings are well named. -/
theorem wellNamed_of_mem {t : Setting} (h : t ∈ sharedSettings) : WellNamed t := by
  simp only [sharedSettings, List.mem_cons, List.not_mem_nil, or_false] at h
  rcases h with rfl | rfl | rfl | rfl | rfl | rfl | rfl | rfl
  all_goals
    exact ⟨⟨_, _, rfl, by decide, by decide⟩, forall_mem_option (forall_mem_of_all (by decide)),
      forall_mem_of_all (by decide), forall_mem_of_all (by decide), by decide, by decide,
      fun s => rfl⟩

variable {t : Setting} {value : Text}

/-- The line of a setting does not end in white space. -/
theorem settingLine_getLast (hvalue : PlainValue t value) :
    ∀ c ∈ (settingLine t value).getLast?, Main.isspace c = false := by
  intro c hc
  unfold settingLine at hc
  rw [List.getLast?_append_of_ne_nil _ (List.cons_ne_nil _ _), List.getLast?_cons,
    Option.mem_some_iff] at hc
  cases hlast : value.getLast? with
  | none =>
      rw [hlast] at hc
      rw [← hc]
      decide
  | some last =>
      rw [hlast] at hc
      rw [← hc]
      exact hvalue.back last hlast

/-- Key and value come out of the line as they are. -/
theorem interpretLine_setting (ht : WellNamed t) (hvalue : PlainValue t value)
    (s : Interpreter) :
    interpretLine (settingLine t value) s =
      { s with cfg := (dispatch s.sectionName t.key value s.cfg).2 } := by
  obtain ⟨c, rest, hkey, hspace, hbracket⟩ := ht.front
  have hline : settingLine t value = c :: (rest ++ '=' :: value) := by
    rw [settingLine, hkey]
    rfl
  have hplain : ∀ a ∈ settingLine t value, isComment a = false := by
    intro a ha
    rcases List.mem_append.mp ha with hfront | hback
    · exact (ht.plain a hfront).1
    · rcases List.mem_cons.mp hback with rfl | hin
      · decide
      · exact hvalue.noComment a hin
  have hblank : (settingLine t value).dropWhile Main.isspace = settingLine t value := by
    rw [hline, List.dropWhile_cons, hspace, if_neg Bool.false_ne_true]
  have hcut : (settingLine t value).takeWhile (fun c => !isComment c) = settingLine t value := by
    rw [List.takeWhile_eq_self_iff]
    intro a ha
    rw [hplain a ha]
    rfl
  have htrim : trim Main.isspace (settingLine t value) = settingLine t value := by
    refine trim_eq_self ?_ (settingLine_getLast hvalue)
    intro a ha
    rw [hline, List.head?_cons, Option.mem_some_iff] at ha
    rw [← ha]
    exact hspace
  have hcomment : isComment c = false := by
    refine hplain c ?_
    rw [hline]
    exact List.mem_cons_self
  have hfirst : interpretText (settingLine t value) s = interpretKey (settingLine t value) s := by
    rw [hline]
    unfold interpretText
    split
    · contradiction
    · rename_i heq
      exact absurd (List.cons.inj heq).1 hbracket
    · rfl
  have hwhole : interpretLine (settingLine t value) s = interpretKey (settingLine t value) s := by
    unfold interpretLine
    rw [hblank]
    conv_lhs => rw [hline]
    simp only
    rw [hcomment, if_neg Bool.false_ne_true, ← hline, hcut, htrim, hfirst]
  have hkeyText : (settingLine t value).takeWhile (fun c => c != '=') = t.key := by
    unfold settingLine
    rw [List.takeWhile_append_of_pos fun a ha => bne_iff_ne.mpr (ht.plain a ha).2.1]
    simp
  have hvalueText : ((settingLine t value).dropWhile fun c => c != '=').drop 1 = value := by
    unfold settingLine
    rw [List.dropWhile_append_of_pos fun a ha => bne_iff_ne.mpr (ht.plain a ha).2.1]
    simp
  have hkeyTrim : trim Main.isspace t.key = t.key := by
    refine trim_eq_self ?_ ht.back
    intro a ha
    rw [hkey, List.head?_cons, Option.mem_some_iff] at ha
    rw [← ha]
    exact hspace
  have hmem : '=' ∈ settingLine t value := by
    simp [settingLine]
  have hne : t.key ≠ [] := by
    rw [hkey]
    exact List.cons_ne_nil _ _
  rw [hwhole, interpretKey, if_pos hmem]
  simp only [hkeyText, hvalueText, hkeyTrim, trim_eq_self hvalue.front hvalue.back, if_neg hne]

/-! ## A file with one setting -/

/-- The line of a setting holds no newline. -/
theorem noNewline_settingLine (ht : WellNamed t) (hvalue : PlainValue t value) :
    '\n' ∉ settingLine t value := by
  intro hmem
  rcases List.mem_append.mp hmem with hfront | hback
  · exact (ht.plain _ hfront).2.2.1 rfl
  · rcases List.mem_cons.mp hback with heq | hin
    · contradiction
    · exact hvalue.noNewline hin

/-- The file holds no NUL. -/
theorem noNul_oneLineFile (ht : WellNamed t) (hvalue : PlainValue t value) :
    '\x00' ∉ oneLineFile t value := by
  unfold oneLineFile settingLine
  simp only [List.mem_append, List.mem_cons, List.not_mem_nil, or_false, not_or]
  refine ⟨fun hmem => (ht.sectionPlain _ hmem).2 rfl, by decide, ⟨fun hmem => ?_, by decide,
    hvalue.noNul⟩, by decide⟩
  exact (ht.plain _ hmem).2.2.2 rfl

/-- The lines of the file. -/
theorem fileLines_oneLineFile (ht : WellNamed t) (hvalue : PlainValue t value) :
    fileLines (oneLineFile t value) = [sectionLine t, settingLine t value, []] := by
  unfold oneLineFile
  have hopen : '\n' ∉ sectionLine t := fun hmem => (ht.sectionPlain _ hmem).1 rfl
  rw [fileLines_cons hopen, fileLines_cons (noNewline_settingLine ht hvalue)]
  rfl

/-- The file does what the dispatch does with the value. -/
theorem cfgLoadFile_oneLine (ht : WellNamed t) (hvalue : PlainValue t value) (cfg : AppCfg) :
    cfgLoadFile (some (oneLineFile t value)) cfg =
      (0, (dispatch t.sectionName t.key value cfg).2) := by
  have hlines := fileLines_oneLineFile ht hvalue
  have hshort : Short (oneLineFile t value) := by
    unfold Short
    rw [hlines]
    have hline := hvalue.short
    rw [List.length_append] at hline
    simp only [List.forall_mem_cons, List.not_mem_nil, false_implies, implies_true, and_true]
    exact ⟨ht.sectionShort, by omega, by decide⟩
  rw [hshort.matchesReference (noNul_oneLineFile ht hvalue) cfg, interpret, hlines]
  simp only [List.foldl_cons, List.foldl_nil, ht.opens, interpretLine_setting ht hvalue,
    interpretLine_nil]

/-- The key denotes the field of the setting. -/
theorem handleSectionKey_setting (ht : WellNamed t) (value : Text) (cfg : AppCfg) :
    handleSectionKey t.sectionName t.key value cfg = store t.field value cfg := by
  rw [handleSectionKey_eq, storeKey, ht.denotes]

/-- The key of a shared setting reaches the handler of its section. -/
theorem dispatch_setting {t : Setting} (ht : t ∈ sharedSettings) (value : Text) (cfg : AppCfg) :
    dispatch t.sectionName t.key value cfg = handleSectionKey t.sectionName t.key value cfg := by
  have hne : ∀ t ∈ sharedSettings, t.sectionName ≠ [] := by decide
  rw [dispatch, if_pos (hne t ht)]

/-! ## A command line with one option -/

/-- A shared setting is in the table, or is the path of the recording. -/
theorem optionName_cases {t : Setting} (ht : t ∈ sharedSettings) :
    valueOptions.lookup t.optionName = some t.field ∨
      (t.field = .recordPath ∧ t.optionName = "--record-video".toList) := by
  have hall : ∀ t ∈ sharedSettings, valueOptions.lookup t.optionName = some t.field ∨
      (t.field = .recordPath ∧ t.optionName = "--record-video".toList) := by
    decide
  exact hall t ht

/-- What the second pass does with the option. -/
theorem run_option (ht : t ∈ sharedSettings) (hvalue : PlainValue t value) (s : Cli) :
    (t.field.read value = none ∧ run secondTurn [t.optionName, value] s = (some (-1), s)) ∨
      ∃ v s', t.field.read value = some v ∧
        run secondTurn [t.optionName, value] s = (none, s') ∧ s'.cfg.get t.field = v := by
  rcases optionName_cases ht with hlookup | ⟨hfield, hvideo⟩
  · have hturn := secondTurn_of_lookup hlookup [value] s
    rw [valueTurn, List.head?_cons, Option.bind_some] at hturn
    cases hread : t.field.read value with
    | none =>
        rw [hread] at hturn
        exact Or.inl ⟨rfl, run_of_exit hturn⟩
    | some v =>
        rw [hread] at hturn
        exact Or.inr ⟨v, _, rfl, run_of_next hturn, AppCfg.get_set_self⟩
  · right
    have hpath := hvalue.path hfield
    have hturn := secondTurn_recordVideo hvideo [value] s
    have hoption : optionOf t.optionName [value] = ⟨t.optionName, some value⟩ := by
      rw [optionOf, hvideo, optionValue_recordVideo, List.head?_cons, Option.filter_some,
        if_pos hpath]
    have hwidth : secondWidth t.optionName [value] = 1 := by
      rw [secondWidth, hvideo, optionValue_recordVideo, List.head?_cons, Option.filter_some,
        if_pos hpath]
      rfl
    have hsettings : CliOption.settings ⟨t.optionName, some value⟩ =
        some [⟨.recordEnable, (1 : Int)⟩, ⟨.recordPath, copyString pathCapacity value⟩] := by
      rw [settings_of_not_lookup (lookup_of_flag (by simp [hvideo])), CliOption.flagSettings,
        if_pos hvideo]
      rfl
    have hverbose : t.optionName ≠ "--verbose".toList := by
      rw [hvideo]
      decide
    rw [hoption, hwidth, apply_of_settings hsettings hverbose] at hturn
    rw [hfield]
    exact ⟨copyString pathCapacity value, _, rfl, run_of_next hturn, rfl⟩

/-! ## Both ways -/

/-- A command line that returns `code` and leaves `after` does for the field of the setting
what the file does, or both reject the value and leave the field as it is in `cfg`. -/
def SameEffect (t : Setting) (value : Text) (cfg : AppCfg) (code : Int) (after : AppCfg) : Prop :=
  (code = 0 ∧ (handleSectionKey t.sectionName t.key value cfg).1 = 0 ∧
      after.get t.field = (cfgLoadFile (some (oneLineFile t value)) cfg).2.get t.field) ∨
    (code = -1 ∧ (handleSectionKey t.sectionName t.key value cfg).1 = -1 ∧
      after.get t.field = cfg.get t.field ∧
      (cfgLoadFile (some (oneLineFile t value)) cfg).2.get t.field = cfg.get t.field)

/-- The second pass does what the file does. -/
theorem sameEffect_run (ht : t ∈ sharedSettings) (hvalue : PlainValue t value) (s : Cli) :
    SameEffect t value s.cfg ((run secondTurn [t.optionName, value] s).1.getD 0)
      (run secondTurn [t.optionName, value] s).2.cfg := by
  have hnamed := wellNamed_of_mem ht
  have hfile := cfgLoadFile_oneLine hnamed hvalue s.cfg
  rw [dispatch_setting ht, handleSectionKey_setting hnamed] at hfile
  unfold SameEffect
  rw [hfile, handleSectionKey_setting hnamed]
  rcases run_option ht hvalue s with ⟨hread, hrun⟩ | ⟨v, s', hread, hrun, hget⟩
  · right
    rw [hrun, store, hread]
    exact ⟨rfl, rfl, rfl, rfl⟩
  · left
    rw [hrun, store, hread]
    refine ⟨rfl, rfl, hget.trans ?_⟩
    exact (AppCfg.get_set_self (a := ⟨t.field, v⟩)).symm

/-- A setting has the same effect through its option and through its key. -/
theorem front_ends_agree (ht : t ∈ sharedSettings) (hvalue : PlainValue t value) :
    (∀ s : Cli,
        SameEffect t value s.cfg ((run secondTurn [t.optionName, value] s).1.getD 0)
          (run secondTurn [t.optionName, value] s).2.cfg) ∧
      ∀ files (s : Cli),
        SameEffect t value cfgDefaults (parseCli files s [t.optionName, value]).1
          (parseCli files s [t.optionName, value]).2.cfg := by
  refine ⟨sameEffect_run ht hvalue, fun files s => ?_⟩
  have hname : Quiet t.optionName := by
    have hall : ∀ t ∈ sharedSettings, Quiet t.optionName := by decide
    exact hall t ht
  have hfirst : run (firstTurn files) [t.optionName, value] { s with cfg := cfgDefaults } =
      (none, { s with cfg := cfgDefaults }) := by
    rw [run_firstTurn_quiet hname, run_firstTurn_quiet hvalue.quiet]
    rfl
  have hsame := sameEffect_run ht hvalue { s with cfg := cfgDefaults }
  unfold parseCli
  rw [hfirst]
  simp only
  cases hrun : run secondTurn [t.optionName, value] { s with cfg := cfgDefaults } with
  | mk result out =>
      rw [hrun] at hsame
      cases result with
      | none =>
          simp only [cfg_maybeEnableGstLog]
          exact hsame
      | some code => exact hsame

theorem front_ends_agree_vid_pt :
    (parseCli (fun _ => none) Cli.empty ["--vid-pt".toList, "+96".toList]).2.cfg.vidPt = 96 ∧
      SameEffect ⟨.vidPt, "--vid-pt".toList, "video".toList, "vid_pt".toList⟩ "+96".toList
        cfgDefaults (parseCli (fun _ => none) Cli.empty ["--vid-pt".toList, "+96".toList]).1
        (parseCli (fun _ => none) Cli.empty ["--vid-pt".toList, "+96".toList]).2.cfg := by
  refine ⟨by decide +kernel, (front_ends_agree (by decide) ?_).2 (fun _ => none) Cli.empty⟩
  exact ⟨by decide, by decide, forall_mem_of_all (by decide),
    forall_mem_option (forall_mem_of_all (by decide)),
    forall_mem_option (forall_mem_of_all (by decide)), by decide, by decide, by decide⟩

end Config
end PixelPilot
