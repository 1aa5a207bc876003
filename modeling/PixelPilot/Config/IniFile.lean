import PixelPilot.Config.Model

/-!
# Configuration files

`cfg_load_file` reads a file piece by piece into a buffer of 512 characters and cuts
keys and values out of it in place.  Beside it stands the interpreter that the format
of the file suggests: one line after the other, of any length.

Main results:

- Definition `cfgLoadFile`: the function with its buffer, indices and stored
  terminators.
- Definition `interpret`: the reference interpreter.
- Theorem `loadLine_eq`: on a piece the function does what the interpreter does on a
  line.
- Theorem `load_reference`: both agree on all files up to a line length exactly when
  that is at most 511.

Current gaps:

- A read error ends a file like its end does, and is not told apart from it here.
-/

namespace PixelPilot
namespace Config

open Terminated

/-! ## Reading -/

/-- `MAX_INI_LINE`. -/
def maxIniLine : Nat := 512

/-- What `fgets` puts into a buffer with room for `n` characters, and what is left of
the input. -/
def fgets : Nat → Text → Text × Text
  | 0, input => ([], input)
  | _ + 1, [] => ([], [])
  | n + 1, c :: rest =>
      if c = '\n' then ([c], rest)
      else ((c :: (fgets n rest).1), (fgets n rest).2)

/-- The local variable `section` and the configuration. -/
structure Loader where
  sectionName : CString 31
  cfg : AppCfg
deriving DecidableEq, Repr

/-- `begin = line`, moved over the blanks in front. -/
def lineBegin (line : Text) : Nat :=
  skipFront '\x00' Main.isspace line line.length 0

def isComment (c : Char) : Bool :=
  c = '#' || c = ';'

/-- `*comment = '\0'`, where there is a comment. -/
def cutComment (line : Text) (first : Nat) : Text :=
  match find '\x00' isComment line first with
  | none => line
  | some comment => line.set comment '\x00'

/-- The end of a string is found with `strlen`; then `trim_whitespace`. -/
def trimWhitespace (line : Text) (first : Nat) : Text × Nat :=
  trimAt '\x00' Main.isspace line first (str '\x00' line first).length

/-- The dispatch at the end of a turn of the loop. -/
def dispatch (sectionName : Text) (key value : Text) (cfg : AppCfg) : Int × AppCfg :=
  if sectionName ≠ [] then handleSectionKey sectionName key value cfg
  else handleGlobalKey key value cfg

/-- A line that starts with a bracket. -/
def loadSection (line : Text) (first : Nat) (s : Loader) : Loader :=
  match find '\x00' (· == ']') line first with
  | none => s
  | some close =>
      let line := line.set close '\x00'
      { s with sectionName := copyString 31 (str '\x00' line (first + 1)) }

/-- The call of the dispatch for any other line, if there is one. -/
def keyCall (line : Text) (first : Nat) (s : Loader) : Option (Int × AppCfg) :=
  match find '\x00' (· == '=') line first with
  | none => none
  | some equals =>
      let line := line.set equals '\x00'
      let trimmedKey := trimWhitespace line first
      let key := trimmedKey.2
      let trimmedValue := trimWhitespace trimmedKey.1 (equals + 1)
      let line := trimmedValue.1
      let value := trimmedValue.2
      if peek '\x00' line key = '\x00' then none
      else some (dispatch s.sectionName.chars (str '\x00' line key) (str '\x00' line value) s.cfg)

/-- Any other line: the return code of the call is ignored. -/
def loadKey (line : Text) (first : Nat) (s : Loader) : Loader :=
  match keyCall line first s with
  | none => s
  | some call => { s with cfg := call.2 }

/-- One turn of the loop of `cfg_load_file`. -/
def loadLine (line : Text) (s : Loader) : Loader :=
  let first := lineBegin line
  let c := peek '\x00' line first
  if c = '\x00' || c = '#' || c = ';' then s
  else
    let trimmed := trimWhitespace (cutComment line first) first
    let c := peek '\x00' trimmed.1 trimmed.2
    if c = '\x00' then s
    else if c = '[' then loadSection trimmed.1 trimmed.2 s
    else loadKey trimmed.1 trimmed.2 s

/-- The loop of `cfg_load_file`; each turn reads at least one character. -/
def loadLines : Nat → Text → Loader → Loader
  | 0, _, s => s
  | turns + 1, input, s =>
      if input = [] then s
      else
        let piece := fgets (maxIniLine - 1) input
        loadLines turns piece.2 (loadLine piece.1 s)

/-- `cfg_load_file`, for the content of the file or none if it cannot be opened. -/
def cfgLoadFile (content : Option Text) (cfg : AppCfg) : Int × AppCfg :=
  match content with
  | none => (-1, cfg)
  | some text => (0, (loadLines text.length text { sectionName := copyString 31 [], cfg }).cfg)

/-! ## The reference interpreter -/

/-- The section in force, of any length, and the configuration. -/
structure Interpreter where
  sectionName : Text
  cfg : AppCfg
deriving DecidableEq, Repr

/-- The text behind a bracket names a section up to the bracket that closes it. -/
def interpretSection (rest : Text) (s : Interpreter) : Interpreter :=
  if ']' ∈ rest then { s with sectionName := rest.takeWhile fun c => c != ']' } else s

/-- A key and a value stand around the first equals sign. -/
def interpretKey (text : Text) (s : Interpreter) : Interpreter :=
  if '=' ∈ text then
    let key := trim Main.isspace (text.takeWhile fun c => c != '=')
    let value := trim Main.isspace ((text.dropWhile fun c => c != '=').drop 1)
    if key = [] then s else { s with cfg := (dispatch s.sectionName key value s.cfg).2 }
  else s

/-- What a line that is trimmed and has no comment does. -/
def interpretText (text : Text) (s : Interpreter) : Interpreter :=
  match text with
  | [] => s
  | '[' :: rest => interpretSection rest s
  | text => interpretKey text s

/-- What one line does: blanks in front are skipped, comment lines and empty lines are
ignored, and the rest is cut at the first comment and trimmed. -/
def interpretLine (line : Text) (s : Interpreter) : Interpreter :=
  match line.dropWhile Main.isspace with
  | [] => s
  | c :: rest =>
      if isComment c then s
      else interpretText (trim Main.isspace ((c :: rest).takeWhile fun c => !isComment c)) s

/-- All lines of a file, without their newlines. -/
def fileLines (text : Text) : List Text :=
  text.splitOn '\n'

/-- The configuration after all lines of a file. -/
def interpret (text : Text) (cfg : AppCfg) : AppCfg :=
  ((fileLines text).foldl (fun s line => interpretLine line s) { sectionName := [], cfg }).cfg

/-! ## One line -/

/-- The loader has what fits of the interpreter's section. -/
structure Agrees (l : Loader) (s : Interpreter) : Prop where
  cfg : l.cfg = s.cfg
  sectionName : l.sectionName.chars = s.sectionName.take 31

theorem isspace_nul : Main.isspace '\x00' = false := by
  decide

/-- Texts that are the same but for their case are of one length. -/
theorem sameNoCase_length {a b : Text} (h : sameNoCase a b = true) : a.length = b.length := by
  unfold sameNoCase at h
  rw [beq_iff_eq] at h
  simpa using congrArg List.length h

/-- A name that is cut off was none of those that are compared. -/
theorem sameNoCase_take {name : Text} (sectionName : Text) (hname : name.length < 31) :
    sameNoCase (sectionName.take 31) name = sameNoCase sectionName name := by
  by_cases hfits : sectionName.length ≤ 31
  · rw [List.take_of_length_le hfits]
  · have hcut : sameNoCase (sectionName.take 31) name = false := by
      by_contra h
      have hlength := sameNoCase_length (Bool.of_not_eq_false h)
      rw [List.length_take] at hlength
      omega
    have hfull : sameNoCase sectionName name = false := by
      by_contra h
      have hlength := sameNoCase_length (Bool.of_not_eq_false h)
      omega
    rw [hcut, hfull]

/-- No section has a name too long for its buffer. -/
theorem dispatch_take (sectionName key value : Text) (cfg : AppCfg) :
    dispatch (sectionName.take 31) key value cfg = dispatch sectionName key value cfg := by
  have hempty : (sectionName.take 31 = []) ↔ sectionName = [] := by
    simp
  unfold dispatch handleSectionKey
  rw [sameNoCase_take _ (by decide), sameNoCase_take _ (by decide)]
  simp only [ne_eq, hempty]

/-- A line with a bracket sets what fits of the section. -/
theorem loadSection_eq {line rest : Text} {first : Nat} {l : Loader} {s : Interpreter}
    (h : Agrees l s) (hline : str '\x00' line first = '[' :: rest) :
    Agrees (loadSection line first l) (interpretSection rest s) := by
  unfold loadSection interpretSection
  cases hclose : find '\x00' (· == ']') line first with
  | none =>
      rw [find_beq_eq_none_iff, hline] at hclose
      simp only [List.mem_cons, Char.reduceEq, false_or] at hclose
      simp only [hclose, if_false]
      exact h
  | some close =>
      obtain ⟨n, rfl, hlt, htake, -⟩ := find_eq_some hclose
      have hmem : ']' ∈ str '\x00' line first := by
        by_contra hnone
        rw [← find_beq_eq_none_iff, hclose] at hnone
        contradiction
      rw [hline] at htake hmem
      simp only [List.mem_cons, Char.reduceEq, false_or] at hmem
      -- The bracket that opens the line is not the one that was found.
      cases n with
      | zero => simp at htake
      | succ n =>
          have hname : rest.take n = rest.takeWhile fun c => c != ']' := by
            simpa [bne] using htake
          have hcut : str '\x00' (line.set (first + (n + 1)) '\x00') (first + 1) =
              rest.take n := by
            rw [← Nat.add_assoc, Nat.add_right_comm, str_set, str_succ hline]
          have hzero : '\x00' ∉ rest.take n := by
            rw [← hcut]
            exact nul_notMem_str
          simp only [hmem, if_true, hcut]
          refine ⟨h.cfg, ?_⟩
          simp only [copyString, str_zero, ← hname]
          rw [List.takeWhile_eq_self_iff.mpr]
          intro c hc
          simpa using fun heq : c = '\x00' => hzero (heq ▸ hc)

/-- What is behind the first element that satisfies a test. -/
theorem drop_dropWhile {text : Text} {n : Nat} {p : Char → Bool} (hlt : n < text.length)
    (htake : text.take n = text.takeWhile p) :
    text.drop (n + 1) = (text.dropWhile p).drop 1 := by
  have hlength : (text.takeWhile p).length = n := by
    rw [← htake, List.length_take]
    omega
  have hdrop : text.dropWhile p = text.drop n := by
    conv_rhs => rw [← List.takeWhile_append_dropWhile (p := p) (l := text), ← hlength]
    rw [List.drop_left]
  rw [hdrop, List.drop_drop]

/-- `trim_whitespace` trims the string it is given. -/
theorem str_trimWhitespace (line : Text) (first : Nat) :
    str '\x00' (trimWhitespace line first).1 (trimWhitespace line first).2 =
      trim Main.isspace (str '\x00' line first) :=
  str_trimAt isspace_nul rfl

/-- Key and value are trimmed in one buffer, neither harming the other. -/
theorem trim_key_value (line : Text) (first equals : Nat)
    (hequals : first + (str '\x00' line first).length ≤ equals) :
    let key := trimWhitespace line first
    let value := trimWhitespace key.1 (equals + 1)
    str '\x00' value.1 key.2 = trim Main.isspace (str '\x00' line first) ∧
      str '\x00' value.1 value.2 = trim Main.isspace (str '\x00' line (equals + 1)) := by
  intro key value
  have hend : key.2 + (str '\x00' key.1 key.2).length ≤
      first + (str '\x00' line first).length := trimAt_end_le isspace_nul rfl
  have hbehind : str '\x00' key.1 (equals + 1) = str '\x00' line (equals + 1) :=
    str_trimAt_of_lt isspace_nul rfl (by omega)
  have hfront : str '\x00' value.1 key.2 = str '\x00' key.1 key.2 :=
    str_trimAt_of_le (by omega)
  constructor
  · rw [hfront]
    exact str_trimWhitespace line first
  · rw [← hbehind]
    exact str_trimWhitespace key.1 (equals + 1)

/-- Any other line is cut at its first equals sign. -/
theorem loadKey_eq {line : Text} {first : Nat} {l : Loader} {s : Interpreter} (h : Agrees l s) :
    Agrees (loadKey line first l) (interpretKey (str '\x00' line first) s) := by
  unfold loadKey keyCall interpretKey
  cases hequals : find '\x00' (· == '=') line first with
  | none =>
      rw [find_beq_eq_none_iff] at hequals
      simp only [hequals, if_false]
      exact h
  | some equals =>
      have hmem : '=' ∈ str '\x00' line first := by
        by_contra hnone
        rw [← find_beq_eq_none_iff, hequals] at hnone
        contradiction
      obtain ⟨n, rfl, hlt, htake, hbehind⟩ := find_eq_some hequals
      have hkey : str '\x00' (line.set (first + n) '\x00') first =
          (str '\x00' line first).takeWhile fun c => c != '=' := by
        rw [str_set, htake]
        rfl
      have hvalue : str '\x00' (line.set (first + n) '\x00') (first + n + 1) =
          ((str '\x00' line first).dropWhile fun c => c != '=').drop 1 := by
        rw [str_set_of_lt (by omega), hbehind]
        exact drop_dropWhile hlt htake
      have hlength : (str '\x00' (line.set (first + n) '\x00') first).length ≤ n := by
        rw [str_set, List.length_take]
        omega
      obtain ⟨hleft, hright⟩ := trim_key_value (line.set (first + n) '\x00') first (first + n)
        (by omega)
      rw [hkey] at hleft
      rw [hvalue] at hright
      simp only [hmem, if_true, peek_eq_nul_iff, hleft, hright]
      by_cases hempty : trim Main.isspace ((str '\x00' line first).takeWhile fun c => c != '=') = []
      · rw [if_pos hempty, if_pos hempty]
        exact h
      · rw [if_neg hempty, if_neg hempty]
        refine ⟨?_, h.sectionName⟩
        simp only [h.cfg, h.sectionName, dispatch_take]

/-- A piece without a comment. -/
theorem str_cutComment (line : Text) (first : Nat) :
    str '\x00' (cutComment line first) first =
      (str '\x00' line first).takeWhile fun c => !isComment c := by
  unfold cutComment
  cases hcomment : find '\x00' isComment line first with
  | none =>
      rw [find_eq_none_iff] at hcomment
      rw [List.takeWhile_eq_self_iff.mpr]
      intro c hc
      rw [hcomment c hc]
      rfl
  | some comment =>
      obtain ⟨n, rfl, -, htake, -⟩ := find_eq_some hcomment
      simp only
      rw [str_set, htake]

theorem str_lineBegin (line : Text) :
    str '\x00' line (lineBegin line) = (str '\x00' line 0).dropWhile Main.isspace := by
  refine str_skipFront isspace_nul ?_
  unfold str
  rw [List.drop_zero]
  exact (List.takeWhile_prefix _).length_le

/-- The end of a turn of the loop. -/
theorem loadText_eq {line : Text} {first : Nat} {l : Loader} {s : Interpreter}
    (h : Agrees l s) :
    Agrees
      (if peek '\x00' line first = '\x00' then l
        else if peek '\x00' line first = '[' then loadSection line first l
        else loadKey line first l)
      (interpretText (str '\x00' line first) s) := by
  cases htext : str '\x00' line first with
  | nil =>
      rw [peek_of_str_nil htext, if_pos rfl]
      exact h
  | cons c rest =>
      have hne : c ≠ '\x00' := by
        intro heq
        have hmem : c ∈ str '\x00' line first := by
          rw [htext]
          exact List.mem_cons_self
        exact nul_notMem_str (heq ▸ hmem)
      rw [peek_of_str_cons htext, if_neg hne]
      by_cases hbracket : c = '['
      · rw [if_pos hbracket]
        subst hbracket
        exact loadSection_eq h htext
      · have hkey : interpretText (c :: rest) s = interpretKey (c :: rest) s := by
          unfold interpretText
          split
          · contradiction
          · rename_i heq
            exact absurd (List.cons.inj heq).1 hbracket
          · rfl
        rw [if_neg hbracket, hkey, ← htext]
        exact loadKey_eq h

/-- One turn of the loop does what the interpreter does with the string in the buffer. -/
theorem loadLine_eq {line : Text} {l : Loader} {s : Interpreter} (h : Agrees l s) :
    Agrees (loadLine line l) (interpretLine (str '\x00' line 0) s) := by
  unfold loadLine interpretLine
  rw [← str_lineBegin line]
  cases hline : str '\x00' line (lineBegin line) with
  | nil =>
      simp only [peek_of_str_nil hline, decide_true, Bool.true_or, if_true]
      exact h
  | cons c rest =>
      have hne : c ≠ '\x00' := by
        intro heq
        have hmem : c ∈ str '\x00' line (lineBegin line) := by
          rw [hline]
          exact List.mem_cons_self
        exact nul_notMem_str (heq ▸ hmem)
      simp only [peek_of_str_cons hline, hne, decide_false, Bool.false_or]
      have hsame : (decide (c = '#') || decide (c = ';')) = isComment c := rfl
      rw [hsame]
      by_cases hcomment : isComment c = true
      · rw [if_pos hcomment, if_pos hcomment]
        exact h
      · have htext := str_trimWhitespace (cutComment line (lineBegin line)) (lineBegin line)
        rw [str_cutComment, hline] at htext
        rw [if_neg hcomment, if_neg hcomment, ← htext]
        exact loadText_eq h

/-! ## Pieces of a file -/

/-- The pieces `fgets` cuts a file into. -/
def pieces : Nat → Text → List Text
  | 0, _ => []
  | turns + 1, input =>
      if input = [] then []
      else (fgets (maxIniLine - 1) input).1 :: pieces turns (fgets (maxIniLine - 1) input).2

/-- The pieces of a whole file. -/
def filePieces (text : Text) : List Text :=
  pieces text.length text

/-- The loop runs over the pieces. -/
theorem loadLines_eq (turns : Nat) (input : Text) (s : Loader) :
    loadLines turns input s = (pieces turns input).foldl (fun s line => loadLine line s) s := by
  induction turns generalizing input s with
  | zero => rfl
  | succ turns ih =>
      unfold loadLines pieces
      split
      · rfl
      · rw [ih, List.foldl_cons]

/-- `fgets` cuts its input in two. -/
theorem fgets_append (n : Nat) (input : Text) : (fgets n input).1 ++ (fgets n input).2 = input := by
  induction n generalizing input with
  | zero => rfl
  | succ n ih =>
      cases input with
      | nil => rfl
      | cons c rest =>
          unfold fgets
          split
          · rfl
          · rw [List.cons_append, ih]

/-- `fgets` takes a character at least. -/
theorem fgets_ne_nil {n : Nat} {input : Text} (hinput : input ≠ []) :
    (fgets (n + 1) input).1 ≠ [] := by
  cases input with
  | nil => contradiction
  | cons c rest =>
      unfold fgets
      split <;> simp

/-- Each turn reads at least one character. -/
theorem fgets_rest_lt {input : Text} (hinput : input ≠ []) :
    (fgets (maxIniLine - 1) input).2.length < input.length := by
  have happend := congrArg List.length (fgets_append (maxIniLine - 1) input)
  have hread := List.length_pos_iff.mpr (fgets_ne_nil (n := maxIniLine - 2) hinput)
  have hsize : maxIniLine - 2 + 1 = maxIniLine - 1 := rfl
  rw [hsize] at hread
  rw [List.length_append] at happend
  omega

/-- More turns than characters change nothing. -/
theorem pieces_congr {m n : Nat} {input : Text} (hm : input.length ≤ m)
    (hn : input.length ≤ n) : pieces m input = pieces n input := by
  induction m generalizing n input with
  | zero =>
      have hnil : input = [] := List.eq_nil_of_length_eq_zero (by omega)
      cases n <;> simp [pieces, hnil]
  | succ m ih =>
      cases n with
      | zero =>
          have hnil : input = [] := List.eq_nil_of_length_eq_zero (by omega)
          simp [pieces, hnil]
      | succ n =>
          unfold pieces
          by_cases hinput : input = []
          · simp [hinput]
          · have hlt := fgets_rest_lt hinput
            rw [if_neg hinput, if_neg hinput, ih (n := n) (by omega) (by omega)]

theorem filePieces_nil : filePieces [] = [] :=
  rfl

/-- A file is its first piece and the pieces of the rest. -/
theorem filePieces_of_ne_nil {text : Text} (h : text ≠ []) :
    filePieces text = (fgets (maxIniLine - 1) text).1 ::
      filePieces (fgets (maxIniLine - 1) text).2 := by
  have hlt := fgets_rest_lt h
  have hfirst : filePieces text = pieces (text.length - 1 + 1) text := by
    unfold filePieces
    rw [Nat.sub_add_cancel (by omega)]
  rw [hfirst, pieces, if_neg h, pieces_congr (by omega) (Nat.le_refl _)]
  rfl

/-- The configuration after all pieces of a file. -/
theorem cfgLoadFile_some (text : Text) (cfg : AppCfg) :
    cfgLoadFile (some text) cfg =
      (0, ((filePieces text).foldl (fun s line => loadLine line s)
        { sectionName := copyString 31 [], cfg }).cfg) := by
  simp only [cfgLoadFile, loadLines_eq, filePieces]

/-! ## Short lines -/

/-- A line that fits is read with its newline. -/
theorem fgets_of_lt {n : Nat} {line rest : Text} (hline : '\n' ∉ line) (h : line.length < n) :
    fgets n (line ++ '\n' :: rest) = (line ++ ['\n'], rest) := by
  induction line generalizing n with
  | nil =>
      cases n with
      | zero => contradiction
      | succ n => simp [fgets]
  | cons c line ih =>
      rw [List.mem_cons, not_or] at hline
      cases n with
      | zero => contradiction
      | succ n =>
          rw [List.length_cons] at h
          rw [List.cons_append, fgets, if_neg (Ne.symm hline.1), ih hline.2 (by omega)]
          rfl

/-- A line as long as the buffer leaves its newline for the next piece. -/
theorem fgets_of_eq {n : Nat} {line rest : Text} (hline : '\n' ∉ line) (h : line.length = n) :
    fgets n (line ++ rest) = (line, rest) := by
  induction line generalizing n with
  | nil =>
      subst h
      rfl
  | cons c line ih =>
      rw [List.mem_cons, not_or] at hline
      cases n with
      | zero => contradiction
      | succ n =>
          rw [List.length_cons] at h
          rw [List.cons_append, fgets, if_neg (Ne.symm hline.1), ih hline.2 (by omega)]

/-- The last line of a file may have no newline. -/
theorem fgets_of_le {n : Nat} {line : Text} (hline : '\n' ∉ line) (h : line.length ≤ n) :
    fgets n line = (line, []) := by
  induction line generalizing n with
  | nil => cases n <;> rfl
  | cons c line ih =>
      rw [List.mem_cons, not_or] at hline
      cases n with
      | zero => contradiction
      | succ n =>
          rw [List.length_cons] at h
          rw [fgets, if_neg (Ne.symm hline.1), ih hline.2 (by omega)]

/-- A newline at the end of a line is a blank. -/
theorem interpretLine_newline (line : Text) (s : Interpreter) :
    interpretLine (line ++ ['\n']) s = interpretLine line s := by
  have hblank : Main.isspace '\n' = true := by decide
  unfold interpretLine
  rw [List.dropWhile_append]
  cases hline : line.dropWhile Main.isspace with
  | nil => simp [hblank]
  | cons c rest =>
      simp only [List.isEmpty_cons, Bool.false_eq_true, if_false, List.cons_append]
      split
      · rfl
      · rw [← List.cons_append, List.takeWhile_append]
        split
        · rename_i hfull
          have hkept : (c :: rest).takeWhile (fun c => !isComment c) = c :: rest :=
            (List.takeWhile_prefix _).eq_of_length hfull
          have hnewline : ['\n'].takeWhile (fun c => !isComment c) = ['\n'] := by decide
          rw [hkept, hnewline, trim_concat hblank]
        · rfl

/-- A piece that is only a newline does nothing. -/
theorem interpretLine_nil (s : Interpreter) : interpretLine [] s = s :=
  rfl

/-- A line without NUL is read as it is. -/
theorem str_of_notMem {line : Text} (h : '\x00' ∉ line) : str '\x00' line 0 = line := by
  rw [str_zero, List.takeWhile_eq_self_iff.mpr]
  intro c hc
  simpa using fun heq : c = '\x00' => h (heq ▸ hc)

/-- The lines of a file fit into the buffer. -/
def Short (text : Text) : Prop :=
  ∀ line ∈ fileLines text, line.length ≤ maxIniLine - 1

/-- A newline ends the first line. -/
theorem fileLines_cons {line : Text} (hline : '\n' ∉ line) (rest : Text) :
    fileLines (line ++ '\n' :: rest) = line :: fileLines rest :=
  List.splitOn_append_cons_self_of_not_mem hline rest

/-- Without one there is a single line. -/
theorem fileLines_last {line : Text} (hline : '\n' ∉ line) : fileLines line = [line] :=
  List.splitOn_eq_singleton hline

/-- A piece without a NUL does what the interpreter does with it. -/
theorem loadPiece_eq {piece : Text} {l : Loader} {s : Interpreter} (h : Agrees l s)
    (hnul : '\x00' ∉ piece) : Agrees (loadLine piece l) (interpretLine piece s) := by
  have hline : Agrees (loadLine piece l) (interpretLine (str '\x00' piece 0) s) := loadLine_eq h
  rwa [str_of_notMem hnul] at hline

/-- The pieces of a line that fits, with its newline, do what the line does. -/
theorem pieces_of_line {line : Text} (rest : Text) (hline : '\n' ∉ line)
    (hfits : line.length ≤ maxIniLine - 1) (hnul : '\x00' ∉ line) {l : Loader}
    {s : Interpreter} (h : Agrees l s) :
    ∃ l', (filePieces (line ++ '\n' :: rest)).foldl (fun s line => loadLine line s) l =
        (filePieces rest).foldl (fun s line => loadLine line s) l' ∧
      Agrees l' (interpretLine line s) := by
  have hne : line ++ '\n' :: rest ≠ [] := by simp
  rw [filePieces_of_ne_nil hne]
  by_cases hlt : line.length < maxIniLine - 1
  · rw [fgets_of_lt hline hlt]
    refine ⟨_, rfl, ?_⟩
    rw [← interpretLine_newline]
    refine loadPiece_eq h ?_
    rw [List.mem_append, not_or]
    exact ⟨hnul, by decide⟩
  · -- The newline alone is the next piece.
    rw [fgets_of_eq hline (by omega), filePieces_of_ne_nil (List.cons_ne_nil _ _)]
    have hnewline : fgets (maxIniLine - 1) ('\n' :: rest) = (['\n'], rest) := rfl
    rw [hnewline]
    refine ⟨_, rfl, ?_⟩
    have hempty : interpretLine line s = interpretLine ['\n'] (interpretLine line s) :=
      (interpretLine_newline [] _).symm
    rw [hempty]
    exact loadPiece_eq (loadPiece_eq h hnul) (by simp)

/-- While the lines are short the pieces do what the lines do. -/
theorem pieces_agree {text : Text} {l : Loader} {s : Interpreter} (hnul : '\x00' ∉ text)
    (hshort : Short text) (h : Agrees l s) :
    Agrees ((filePieces text).foldl (fun s line => loadLine line s) l)
      ((fileLines text).foldl (fun s line => interpretLine line s) s) := by
  induction hlength : text.length using Nat.strong_induction_on generalizing text l s with
  | _ n ih =>
      by_cases hnewline : '\n' ∈ text
      · obtain ⟨line, rest, rfl, hline⟩ := List.eq_append_cons_of_mem hnewline
        unfold Short at hshort
        rw [fileLines_cons hline] at hshort ⊢
        rw [List.mem_append, List.mem_cons, not_or, not_or] at hnul
        obtain ⟨hnulLine, -, hnulRest⟩ := hnul
        obtain ⟨l', hpieces, hagrees⟩ :=
          pieces_of_line rest hline (hshort line List.mem_cons_self) hnulLine h
        rw [hpieces, List.foldl_cons]
        refine ih rest.length ?_ hnulRest ?_ hagrees rfl
        · rw [List.length_append, List.length_cons] at hlength
          omega
        · exact fun line hmem => hshort line (List.mem_cons_of_mem _ hmem)
      · unfold Short at hshort
        rw [fileLines_last hnewline] at hshort ⊢
        by_cases hempty : text = []
        · subst hempty
          exact h
        · have hlast := fgets_of_le hnewline (hshort text List.mem_cons_self)
          rw [filePieces_of_ne_nil hempty, hlast]
          exact loadPiece_eq h hnul

/-- The code agrees with the interpreter on a file, whatever is configured before. -/
def MatchesReference (text : Text) : Prop :=
  ∀ cfg, cfgLoadFile (some text) cfg = (0, interpret text cfg)

/-- It does so on files with short lines. -/
theorem Short.matchesReference {text : Text} (hshort : Short text) (hnul : '\x00' ∉ text) :
    MatchesReference text := by
  intro cfg
  have hstart : Agrees { sectionName := copyString 31 [], cfg } { sectionName := [], cfg } :=
    ⟨rfl, rfl⟩
  rw [cfgLoadFile_some, (pieces_agree hnul hshort hstart).cfg]
  rfl

/-! ## Long lines -/

/-- A file read as the reference does gives its configuration. -/
theorem MatchesReference.cfg_eq {text : Text} (h : MatchesReference text) (cfg : AppCfg) :
    (cfgLoadFile (some text) cfg).2 = interpret text cfg := by
  rw [h cfg]

/-- A number whose last digit stands behind the buffer. -/
def longNumber : Text :=
  "vid_pt=".toList ++ List.replicate 504 '0' ++ "1".toList

theorem longNumber_differs : ¬ MatchesReference longNumber := by
  intro h
  have hload : (cfgLoadFile (some longNumber) cfgDefaults).2.vidPt = 0 := by
    decide +kernel
  have hline : (interpret longNumber cfgDefaults).vidPt = 1 := by
    decide +kernel
  rw [h.cfg_eq cfgDefaults, hline] at hload
  exact absurd hload (by decide)

/-- The code agrees with the interpreter on all files whose lines are at most `limit`
long exactly when that is no more than the buffer holds. -/
theorem load_reference (limit : Nat) :
    (∀ text, '\x00' ∉ text → (∀ line ∈ fileLines text, line.length ≤ limit) →
        MatchesReference text) ↔ limit ≤ maxIniLine - 1 := by
  constructor
  · intro h
    by_contra hlong
    refine longNumber_differs (h longNumber (by decide +kernel) ?_)
    intro line hline
    have hlines : fileLines longNumber = [longNumber] := fileLines_last (by decide +kernel)
    have hlength : longNumber.length = 512 := by decide +kernel
    have hsize : maxIniLine - 1 = 511 := rfl
    rw [hlines, List.mem_singleton] at hline
    rw [hline, hlength]
    omega
  · intro hlimit text hnul hlines
    exact Short.matchesReference (fun line hline => Nat.le_trans (hlines line hline) hlimit) hnul

/-- A comment whose rest, behind the buffer, is a setting. -/
def longComment : Text :=
  '#' :: List.replicate 510 'x' ++ "vid_pt=1".toList

/-- Inserting this comment line changes the configuration. -/
theorem longComment_sets :
    '\x00' ∉ longComment ∧ fileLines longComment = [longComment] ∧
      ¬ MatchesReference longComment ∧
      (cfgLoadFile (some longComment) cfgDefaults).2.vidPt = 1 ∧
      (cfgLoadFile (some []) cfgDefaults).2.vidPt = 97 := by
  have hload : (cfgLoadFile (some longComment) cfgDefaults).2.vidPt = 1 := by
    decide +kernel
  have hline : (interpret longComment cfgDefaults).vidPt = 97 := by
    decide +kernel
  have hdiffers : ¬ MatchesReference longComment := by
    intro h
    have hsame := hload
    rw [h.cfg_eq cfgDefaults, hline] at hsame
    exact absurd hsame (by decide)
  exact ⟨by decide +kernel, fileLines_last (by decide +kernel), hdiffers, hload,
    by decide +kernel⟩

end Config
end PixelPilot
