import PixelPilot.Config.CommandLine

/-!
# The two passes side by side

Each pass of `parse_cli` divides the command line by itself.  The first knows that
`--config` has a value, the second knows it of every option.  A place of the command line
is given by the arguments from there on.

Main results:

- Definitions `loadedPlaces` and `skippedPlaces`: what each pass takes for `--config`.
- Definition `TakenAsValue`: the second pass takes an argument as the value of an option.
- Theorem `mem_visits_secondTurn`: where the second pass looks for an option.
- Theorem `passes_agree_iff`: when the passes agree.
- Theorem `passes_disagree`: command lines on which they do not.
-/

namespace PixelPilot
namespace Config

open Assignments ArgumentLoop Terminated

/-- `--config` with a path, for which `cfg_load_file` is called. -/
def loadsFile : List Text → Bool
  | arg :: path :: _ =>
      arg == "--config".toList && decide ((cliCopyString pathCapacity path).chars ≠ [])
  | _ => false

def isConfigPlace (place : List Text) : Bool :=
  place.head? == some "--config".toList

def isHelpPlace (place : List Text) : Bool :=
  place.head? == some "--help".toList || place.head? == some "-h".toList

/-- The places for which the first pass loads a file. -/
def loadedPlaces (files : Text → Option Text) (s : Cli) (args : List Text) : List (List Text) :=
  (visits (firstTurn files) args s.start).filter loadsFile

/-- The places that the second pass skips as `--config`. -/
def skippedPlaces (files : Text → Option Text) (s : Cli) (args : List Text) : List (List Text) :=
  (visits secondTurn args (run (firstTurn files) args s.start).2).filter isConfigPlace

/-- The place for which the first pass returns 1. -/
def HelpAt (files : Text → Option Text) (s : Cli) (args place : List Text) : Prop :=
  place ∈ visits (firstTurn files) args s.start ∧ isHelpPlace place = true

/-- The second pass takes the argument at a place as the value of the option in front of
it. -/
def TakenAsValue (args place : List Text) : Prop :=
  ∃ name, name :: place ∈ heads secondWidth args ∧ (optionValue name place).isSome

/-- The passes see different files for this option: it takes `--config` as its value, or
it is `--config` with an empty path. -/
def Confusing (o : CliOption) : Prop :=
  (o.isConfig = false ∧ o.value = some "--config".toList) ∨
    (o.isConfig = true ∧ ∃ path, o.value = some path ∧ (cliCopyString pathCapacity path).chars = [])

instance (o : CliOption) : Decidable (Confusing o) :=
  have : Decidable (∃ path, o.value = some path ∧ (cliCopyString pathCapacity path).chars = []) :=
    decidable_of_iff (o.value.any fun path => (cliCopyString pathCapacity path).chars = []) (by
      rw [Option.any_eq_true]
      simp only [decide_eq_true_eq])
  inferInstanceAs (Decidable ((_ ∧ _) ∨ (_ ∧ _)))

variable {files : Text → Option Text}

/-! ## Widths -/

/-- What a turn of the first pass skips. -/
theorem skips_firstTurn : Skips (firstTurn files) firstWidth := by
  intro arg rest s skip s' hturn
  unfold firstTurn at hturn
  split at hturn
  · cases hturn
  · unfold firstWidth
    split at hturn
    · rw [if_pos ‹_›]
      cases rest with
      | nil => cases hturn
      | cons path rest =>
          simp only at hturn
          split at hturn
          · cases hturn
          · cases hturn
            rfl
    · rw [if_neg ‹_›]
      cases hturn
      rfl

/-- What a turn of the second pass skips. -/
theorem skips_secondTurn : Skips secondTurn secondWidth := by
  intro arg rest s skip s' hturn
  by_cases hsettings : (optionOf arg rest).settings = none
  · obtain ⟨s'', hexit⟩ := secondTurn_rejected hsettings s
    rw [hturn] at hexit
    cases hexit
  · obtain ⟨skip', hnext, hskip⟩ := secondTurn_accepted hsettings s
    rw [hturn] at hnext
    cases hnext
    exact hskip

/-- The second pass skips the value of an option. -/
theorem secondWidth_eq_one {name : Text} {rest : List Text} :
    secondWidth name rest = 1 ↔ (optionValue name rest).isSome := by
  unfold secondWidth
  cases optionValue name rest <;> simp

theorem secondWidth_le_one (name : Text) (rest : List Text) : secondWidth name rest ≤ 1 := by
  unfold secondWidth
  cases optionValue name rest <;> simp

/-! ## Where the second pass looks for an option -/

/-- At the options, up to the first that is rejected. -/
theorem mem_visits_secondTurn {args place : List Text} {s : Cli} :
    place ∈ visits secondTurn args s ↔
      place ∈ heads secondWidth args ∧
        ∀ front ∈ heads secondWidth args, place.length < front.length →
          (optionAt front).settings ≠ none := by
  induction args using dropInduction generalizing s with
  | nil => simp
  | cons name rest ih =>
      have hbound : ∀ front ∈ heads secondWidth (name :: rest),
          ¬ (name :: rest).length < front.length := by
        intro front hfront
        have hlength := length_of_mem_heads hfront
        omega
      have hlater : ∀ front ∈ heads secondWidth (rest.drop (secondWidth name rest)),
          front.length < (name :: rest).length := by
        intro front hfront
        have hlength := length_of_mem_heads hfront
        rw [List.length_drop] at hlength
        rw [List.length_cons]
        omega
      rw [heads_cons] at hbound ⊢
      by_cases hsettings : (optionOf name rest).settings = none
      · obtain ⟨s', hturn⟩ := secondTurn_rejected hsettings s
        rw [visits_of_exit hturn, List.mem_singleton]
        constructor
        · rintro rfl
          exact ⟨List.mem_cons_self, fun front hfront hlt => absurd hlt (hbound front hfront)⟩
        · rintro ⟨hplace, haccepted⟩
          rcases List.mem_cons.mp hplace with heq | hmem
          · exact heq
          · exact absurd hsettings (haccepted _ List.mem_cons_self (hlater place hmem))
      · obtain ⟨skip, hturn, hskip⟩ := secondTurn_accepted hsettings s
        rw [visits_of_next hturn, hskip, List.mem_cons, ih]
        constructor
        · rintro (rfl | ⟨hmem, haccepted⟩)
          · exact ⟨List.mem_cons_self, fun front hfront hlt => absurd hlt (hbound front hfront)⟩
          · refine ⟨List.mem_cons_of_mem _ hmem, fun front hfront hlt => ?_⟩
            rcases List.mem_cons.mp hfront with rfl | hbehind
            · exact hsettings
            · exact haccepted front hbehind hlt
        · rintro ⟨hplace, haccepted⟩
          rcases List.mem_cons.mp hplace with heq | hmem
          · exact Or.inl heq
          · exact Or.inr ⟨hmem, fun front hfront => haccepted front (List.mem_cons_of_mem _ hfront)⟩

/-- An argument is an option unless it is taken as a value. -/
theorem mem_heads_secondWidth {args place : List Text} (hplace : place <:+ args)
    (hne : place ≠ []) : place ∈ heads secondWidth args ↔ ¬ TakenAsValue args place := by
  rw [mem_heads_iff secondWidth_le_one hplace hne]
  unfold TakenAsValue
  simp only [secondWidth_eq_one]

/-- The place where help is asked for is one of the arguments. -/
theorem HelpAt.suffix {s : Cli} {args place : List Text} (h : HelpAt files s args place) :
    place <:+ args ∧ place ≠ [] := by
  refine ⟨visits_suffix h.1, ?_⟩
  rintro rfl
  exact absurd h.2 (by decide)

/-! ## What the passes take for `--config` -/

/-- The places of `--config` with a path, for the widths of the first pass. -/
def loadedHeads (args : List Text) : List (List Text) :=
  (heads firstWidth args).filter loadsFile

/-- The places of `--config`, for the widths of the second pass. -/
def skippedHeads (args : List Text) : List (List Text) :=
  (heads secondWidth args).filter isConfigPlace

theorem length_of_mem_loadedHeads {args place : List Text} (h : place ∈ loadedHeads args) :
    place.length ≤ args.length :=
  length_of_mem_heads (List.mem_filter.mp h).1

theorem length_of_mem_skippedHeads {args place : List Text} (h : place ∈ skippedHeads args) :
    place.length ≤ args.length :=
  length_of_mem_heads (List.mem_filter.mp h).1

/-- Only `--config` loads a file. -/
theorem loadedHeads_cons_of_ne {arg : Text} (h : arg ≠ "--config".toList) (rest : List Text) :
    loadedHeads (arg :: rest) = loadedHeads rest := by
  have hno : loadsFile (arg :: rest) = false := by
    cases rest with
    | nil => rfl
    | cons path rest =>
        rw [loadsFile, beq_eq_false_iff_ne.mpr h, Bool.false_and]
  unfold loadedHeads
  rw [heads_cons, List.filter_cons, hno, firstWidth, if_neg h]
  rfl

/-- Only `--config` is skipped with its path. -/
theorem skippedHeads_cons_of_ne {name : Text} (h : name ≠ "--config".toList)
    (rest : List Text) :
    skippedHeads (name :: rest) = skippedHeads (rest.drop (secondWidth name rest)) := by
  have hno : isConfigPlace (name :: rest) = false := by
    unfold isConfigPlace
    rw [List.head?_cons, beq_eq_false_iff_ne, ne_eq, Option.some.injEq]
    exact h
  unfold skippedHeads
  rw [heads_cons, List.filter_cons, hno]
  rfl

/-- The first pass takes a path for a file unless it is empty. -/
theorem loadedHeads_cons_config {arg path : Text} (h : arg = "--config".toList)
    (rest : List Text) :
    loadedHeads (arg :: path :: rest) =
      if (cliCopyString pathCapacity path).chars = [] then loadedHeads rest
      else (arg :: path :: rest) :: loadedHeads rest := by
  have hloads : loadsFile (arg :: path :: rest) =
      decide ((cliCopyString pathCapacity path).chars ≠ []) := by
    rw [loadsFile, beq_iff_eq.mpr h, Bool.true_and]
  unfold loadedHeads
  rw [heads_cons, List.filter_cons, hloads, firstWidth, if_pos h]
  by_cases hempty : (cliCopyString pathCapacity path).chars = []
  · rw [if_pos hempty, if_neg (by simp [hempty])]
    rfl
  · rw [if_neg hempty, if_pos (by simp [hempty])]
    rfl

theorem skippedHeads_cons_config {name path : Text} (h : name = "--config".toList)
    (rest : List Text) :
    skippedHeads (name :: path :: rest) = (name :: path :: rest) :: skippedHeads rest := by
  have hyes : isConfigPlace (name :: path :: rest) = true := by
    unfold isConfigPlace
    rw [List.head?_cons, h]
    exact beq_self_eq_true _
  unfold skippedHeads
  rw [heads_cons, List.filter_cons, hyes, if_pos rfl, secondWidth, optionValue,
    if_pos (Or.inl h)]
  rfl

/-- A first pass that goes on has found no `--help`. -/
theorem quiet_of_run {arg : Text} {rest : List Text} {s s' : Cli}
    (h : run (firstTurn files) (arg :: rest) s = (none, s')) (hconfig : arg ≠ "--config".toList) :
    Quiet arg := by
  refine ⟨hconfig, not_or.mp fun hhelp => ?_⟩
  have hturn : firstTurn files arg rest s = .exit 1 s := by
    unfold firstTurn
    rw [if_pos hhelp]
  rw [run_of_exit hturn] at h
  cases h

/-- A first pass that goes on has found a path behind `--config`. -/
theorem path_of_run {arg : Text} {rest : List Text} {s s' : Cli}
    (h : run (firstTurn files) (arg :: rest) s = (none, s')) (hconfig : arg = "--config".toList) :
    ∃ path rest' s₁, rest = path :: rest' ∧ run (firstTurn files) rest' s₁ = (none, s') := by
  cases rest with
  | nil =>
      rw [run_of_exit (firstTurn_config_nil hconfig s)] at h
      cases h
  | cons path rest =>
      have hturn := firstTurn_config files hconfig path rest s
      split at hturn
      · rw [run_of_exit hturn] at h
        cases h
      · rw [run_of_next hturn] at h
        exact ⟨path, rest, _, rfl, h⟩

/-- The name of an option is no empty path. -/
theorem chars_ne_nil_of_settings {name : Text} {rest : List Text}
    (h : (optionOf name rest).settings ≠ none) :
    (cliCopyString pathCapacity name).chars ≠ [] := by
  have hnames : ∀ name ∈ optionNames, (cliCopyString pathCapacity name).chars ≠ [] := by
    decide
  exact hnames _ (name_mem_of_settings h)

theorem optionValue_eq_some {name value : Text} {rest : List Text}
    (h : optionValue name rest = some value) : ∃ rest', rest = value :: rest' := by
  rcases optionValue_cases name rest with hnone | hhead
  · rw [hnone] at h
    contradiction
  · rw [hhead] at h
    exact List.head?_eq_some_iff.mp h

/-- A value `--config` of another option is a file for the first pass only. -/
theorem loadedHeads_ne_of_value {value : Text} {rest : List Text} {s s' : Cli}
    (hvalue : value = "--config".toList)
    (hrun : run (firstTurn files) (value :: rest) s = (none, s'))
    (hsettings : ∀ o ∈ options rest, o.settings ≠ none) :
    loadedHeads (value :: rest) ≠ skippedHeads rest := by
  obtain ⟨path, rest, s₁, rfl, -⟩ := path_of_run hrun hvalue
  rw [options_cons] at hsettings
  have hpath := chars_ne_nil_of_settings (hsettings _ List.mem_cons_self)
  rw [loadedHeads_cons_config hvalue, if_neg hpath]
  intro heq
  have hmem : value :: path :: rest ∈ skippedHeads (path :: rest) := by
    rw [← heq]
    exact List.mem_cons_self
  have hlength := length_of_mem_skippedHeads hmem
  rw [List.length_cons, List.length_cons] at hlength
  omega

/-- The passes see the same files unless an option is confusing. -/
theorem loadedHeads_eq_iff {args : List Text} {s s' : Cli}
    (hrun : run (firstTurn files) args s = (none, s'))
    (hsettings : ∀ o ∈ options args, o.settings ≠ none) :
    loadedHeads args = skippedHeads args ↔ ∀ o ∈ options args, ¬ Confusing o := by
  induction args using dropInduction generalizing s with
  | nil => simp [options, loadedHeads, skippedHeads]
  | cons name rest ih =>
      rw [options_cons] at hsettings ⊢
      have hlater := fun o ho => hsettings o (List.mem_cons_of_mem _ ho)
      rw [List.forall_mem_cons]
      by_cases hconfig : name = "--config".toList
      · obtain ⟨path, rest, s₁, rfl, hrest⟩ := path_of_run hrun hconfig
        have hvalue : optionValue name (path :: rest) = some path := by
          rw [optionValue, if_pos (Or.inl hconfig)]
          rfl
        have hwidth : secondWidth name (path :: rest) = 1 := by
          rw [secondWidth, hvalue]
          rfl
        rw [hwidth] at hlater ⊢
        have hsame := ih 1 hrest hlater
        rw [loadedHeads_cons_config hconfig, skippedHeads_cons_config hconfig]
        by_cases hempty : (cliCopyString pathCapacity path).chars = []
        · rw [if_pos hempty]
          refine iff_of_false (fun heq => ?_) fun h => h.1 ?_
          · have hmem : name :: path :: rest ∈ loadedHeads rest := by
              rw [heq]
              exact List.mem_cons_self
            have hlength := length_of_mem_loadedHeads hmem
            rw [List.length_cons, List.length_cons] at hlength
            omega
          · exact Or.inr ⟨beq_iff_eq.mpr hconfig, path, hvalue, hempty⟩
        · rw [if_neg hempty, List.cons.injEq]
          have hclear : ¬ Confusing (optionOf name (path :: rest)) := by
            rintro (⟨hno, -⟩ | ⟨-, path', hpath, hnil⟩)
            · exact isConfig_eq_false.mp hno hconfig
            · have heq : some path = some path' := hvalue.symm.trans hpath
              rw [← Option.some.inj heq] at hnil
              exact hempty hnil
          simp only [true_and, hclear, not_false_eq_true]
          exact hsame
      · have hquiet := quiet_of_run hrun hconfig
        rw [run_firstTurn_quiet hquiet] at hrun
        rw [loadedHeads_cons_of_ne hconfig, skippedHeads_cons_of_ne hconfig]
        have hnot : ¬ (optionOf name rest).isConfig = true := fun h => hconfig (beq_iff_eq.mp h)
        cases hvalue : optionValue name rest with
        | none =>
            have hwidth : secondWidth name rest = 0 := by
              rw [secondWidth, hvalue]
              rfl
            have hclear : ¬ Confusing (optionOf name rest) := by
              rintro (⟨-, hsome⟩ | ⟨hyes, -⟩)
              · cases hvalue.symm.trans hsome
              · exact hnot hyes
            rw [hwidth] at hlater ⊢
            simp only [hclear, not_false_eq_true, true_and]
            exact ih 0 hrun hlater
        | some value =>
            obtain ⟨rest, rfl⟩ := optionValue_eq_some hvalue
            have hwidth : secondWidth name (value :: rest) = 1 := by
              rw [secondWidth, hvalue]
              rfl
            rw [hwidth] at hlater ⊢
            by_cases hfile : value = "--config".toList
            · refine iff_of_false (loadedHeads_ne_of_value hfile hrun hlater) fun h => h.1 ?_
              exact Or.inl ⟨isConfig_eq_false.mpr hconfig, by rw [← hfile]; exact hvalue⟩
            · have hclear : ¬ Confusing (optionOf name (value :: rest)) := by
                rintro (⟨-, hsome⟩ | ⟨hyes, -⟩)
                · exact hfile (Option.some.inj (hvalue.symm.trans hsome))
                · exact hnot hyes
              rw [run_firstTurn_quiet (quiet_of_run hrun hfile)] at hrun
              rw [loadedHeads_cons_of_ne hfile]
              simp only [hclear, not_false_eq_true, true_and]
              exact ih 1 hrun hlater

/-- The first pass loads a file for exactly the places that the second pass skips, unless
an option is confusing. -/
theorem loadedPlaces_eq_iff {s out : Cli} {args : List Text}
    (h : parseCli files s args = (0, out)) :
    loadedPlaces files s args = skippedPlaces files s args ↔
      ∀ o ∈ options args, ¬ Confusing o := by
  obtain ⟨loaded, hrun, hsettings, -⟩ := parseCli_eq_zero.mp h
  have hloaded : loadedPlaces files s args = loadedHeads args := by
    unfold loadedPlaces loadedHeads
    rw [visits_eq_heads skips_firstTurn hrun]
  have hskipped : skippedPlaces files s args = skippedHeads args := by
    unfold skippedPlaces skippedHeads
    rw [visits_eq_heads skips_secondTurn (run_secondTurn hsettings _)]
  rw [hloaded, hskipped]
  exact loadedHeads_eq_iff hrun hsettings

/-- The first pass returns 1 there. -/
theorem HelpAt.run_eq {s : Cli} {args place : List Text} (h : HelpAt files s args place) :
    ∃ s', run (firstTurn files) args s.start = (some 1, s') := by
  obtain ⟨hplace, hhelp⟩ := h
  generalize s.start = s₁ at hplace ⊢
  induction args using dropInduction generalizing s₁ with
  | nil => cases hplace
  | cons arg rest ih =>
      cases hturn : firstTurn files arg rest s₁ with
      | next skip s₂ =>
          rw [visits_of_next hturn, List.mem_cons] at hplace
          rw [run_of_next hturn]
          rcases hplace with rfl | hlater
          · unfold isHelpPlace at hhelp
            rw [List.head?_cons, Bool.or_eq_true, beq_iff_eq, beq_iff_eq, Option.some.injEq,
              Option.some.injEq] at hhelp
            unfold firstTurn at hturn
            rw [if_pos hhelp] at hturn
            cases hturn
          · exact ih _ _ hlater
      | exit code s₂ =>
          rw [visits_of_exit hturn, List.mem_singleton] at hplace
          rw [run_of_exit hturn]
          subst hplace
          unfold isHelpPlace at hhelp
          rw [List.head?_cons, Bool.or_eq_true, beq_iff_eq, beq_iff_eq, Option.some.injEq,
            Option.some.injEq] at hhelp
          unfold firstTurn at hturn
          rw [if_pos hhelp] at hturn
          cases hturn
          exact ⟨_, rfl⟩

/-- When the passes agree on the options.  The files: no option but `--config` has the
value `--config`, and no path is empty.  The help: `--help` and `-h` are not the value of
the option in front, and for the second pass to get there, no option in front is
rejected. -/
theorem passes_agree_iff (files : Text → Option Text) (s : Cli) (args : List Text) :
    (∀ out, parseCli files s args = (0, out) →
        (loadedPlaces files s args = skippedPlaces files s args ↔
          ∀ o ∈ options args, ¬ Confusing o)) ∧
      ∀ place, HelpAt files s args place →
        (place ∈ heads secondWidth args ↔ ¬ TakenAsValue args place) ∧
          ∀ s', place ∈ visits secondTurn args s' ↔
            ¬ TakenAsValue args place ∧
              ∀ front ∈ heads secondWidth args, place.length < front.length →
                (optionAt front).settings ≠ none := by
  refine ⟨fun out h => loadedPlaces_eq_iff h, fun place hhelp => ?_⟩
  obtain ⟨hplace, hne⟩ := hhelp.suffix
  have hheads := mem_heads_secondWidth hplace hne
  refine ⟨hheads, fun s' => ?_⟩
  rw [mem_visits_secondTurn, hheads]

/-- The passes agree on a command line with a file between two options, and on `-h` behind
them. -/
theorem passes_agree_iff_configured :
    let files := oneFile "/etc/p.ini".toList "vid_pt=96\n".toList
    let args := ["--udp-port".toList, "5700".toList, "--config".toList, "/etc/p.ini".toList,
      "--gst-log".toList]
    loadedPlaces files Cli.empty args = skippedPlaces files Cli.empty args ∧
      ["-h".toList] ∈ heads secondWidth (args ++ ["-h".toList]) := by
  let files := oneFile "/etc/p.ini".toList "vid_pt=96\n".toList
  let args := ["--udp-port".toList, "5700".toList, "--config".toList, "/etc/p.ini".toList,
    "--gst-log".toList]
  constructor
  · refine ((passes_agree_iff files Cli.empty args).1 (parseCli files Cli.empty args).2 ?_).mpr ?_
    · exact Prod.ext (by decide +kernel) rfl
    · decide +kernel
  · have hhelp : HelpAt files Cli.empty (args ++ ["-h".toList]) ["-h".toList] :=
      ⟨by decide +kernel, by decide +kernel⟩
    refine ((passes_agree_iff files Cli.empty (args ++ ["-h".toList])).2 _ hhelp).1.mpr ?_
    rintro ⟨name, hplace, hvalue⟩
    have hnames : ∀ place ∈ heads secondWidth (args ++ ["-h".toList]), place.tail = ["-h".toList] →
        place.head? = some "--gst-log".toList := by
      decide +kernel
    have hname := Option.some.inj (hnames _ hplace rfl)
    rw [hname] at hvalue
    revert hvalue
    decide +kernel

/-- A value that looks like an option is one for the first pass: a file is loaded for the
value of `--card`, and the value of `--card` asks for help. -/
theorem passes_disagree :
    (parseCli (oneFile "--gst-log".toList "vid_pt=9\n".toList) Cli.empty
        ["--card".toList, "--config".toList, "--gst-log".toList]).1 = 0 ∧
      loadedPlaces (oneFile "--gst-log".toList "vid_pt=9\n".toList) Cli.empty
          ["--card".toList, "--config".toList, "--gst-log".toList] =
        [["--config".toList, "--gst-log".toList]] ∧
      skippedPlaces (oneFile "--gst-log".toList "vid_pt=9\n".toList) Cli.empty
          ["--card".toList, "--config".toList, "--gst-log".toList] = [] ∧
      HelpAt (fun _ => none) Cli.empty ["--card".toList, "-h".toList] ["-h".toList] ∧
      ["-h".toList] ∉ heads secondWidth ["--card".toList, "-h".toList] := by
  refine ⟨by decide +kernel, by decide +kernel, by decide +kernel, ⟨?_, by decide⟩,
    by decide +kernel⟩
  decide +kernel

end Config
end PixelPilot
