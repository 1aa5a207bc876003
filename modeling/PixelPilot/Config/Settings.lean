import PixelPilot.Config.IniFile
import PixelPilot.Library.Assignments

/-!
# Settings

What the keys of a configuration file denote: a table of names for the fields of
`AppCfg`, and for each field the texts it accepts.  The dispatch of the loader makes the
assignment that the table gives, or rejects the key and changes nothing.

Main results:

- Definitions `Field`, `globalKeys`, `recordKeys` and `Field.read`.
- Theorems `handleGlobalKey_eq` and `handleSectionKey_eq`: the dispatch follows the table.
- Definition `Pruned`: some of the rejected lines of a file are deleted.
- Theorem `Pruned.foldl_eq`: the loader does not notice.
- Theorem `keys_contract`: what a call of the dispatch and a whole file can change.
-/

namespace PixelPilot
namespace Config

open Assignments Terminated

/-! ## Fields -/

/-- The fields that a user can set; the path of the configuration file is not one. -/
inductive Field
  | cardPath
  | connectorName
  | planeId
  | udpPort
  | vidPt
  | appsinkMaxBuffers
  | gstLog
  | recordEnable
  | recordPath
  | recordMode
deriving DecidableEq, Repr

namespace Field

/-- The values of a field. -/
def Value : Field → Type
  | cardPath => CString 63
  | connectorName => CString 31
  | planeId | udpPort | vidPt | appsinkMaxBuffers | gstLog | recordEnable => Int
  | recordPath => CString pathCapacity
  | recordMode => Recorder.RecordMode

end Field

namespace AppCfg

/-- The value of each field. -/
def get (cfg : AppCfg) : (f : Field) → f.Value
  | .cardPath => cfg.cardPath
  | .connectorName => cfg.connectorName
  | .planeId => cfg.planeId
  | .udpPort => cfg.udpPort
  | .vidPt => cfg.vidPt
  | .appsinkMaxBuffers => cfg.appsinkMaxBuffers
  | .gstLog => cfg.gstLog
  | .recordEnable => cfg.record.enable
  | .recordPath => cfg.record.outputPath
  | .recordMode => cfg.record.mode

/-- The record after an assignment. -/
def set (cfg : AppCfg) : Assignment Field.Value → AppCfg
  | ⟨.cardPath, v⟩ => { cfg with cardPath := v }
  | ⟨.connectorName, v⟩ => { cfg with connectorName := v }
  | ⟨.planeId, v⟩ => { cfg with planeId := v }
  | ⟨.udpPort, v⟩ => { cfg with udpPort := v }
  | ⟨.vidPt, v⟩ => { cfg with vidPt := v }
  | ⟨.appsinkMaxBuffers, v⟩ => { cfg with appsinkMaxBuffers := v }
  | ⟨.gstLog, v⟩ => { cfg with gstLog := v }
  | ⟨.recordEnable, v⟩ => { cfg with record := { cfg.record with enable := v } }
  | ⟨.recordPath, v⟩ => { cfg with record := { cfg.record with outputPath := v } }
  | ⟨.recordMode, v⟩ => { cfg with record := { cfg.record with mode := v } }

/-- The string in a field, and what its array can hold. -/
def string (cfg : AppCfg) : Field → Option (Nat × Text)
  | .cardPath => some (63, cfg.cardPath.chars)
  | .connectorName => some (31, cfg.connectorName.chars)
  | .recordPath => some (pathCapacity, cfg.record.outputPath.chars)
  | _ => none

variable {cfg : AppCfg} {a : Assignment Field.Value} {f : Field}

theorem get_set_self : (cfg.set a).get a.field = a.value := by
  obtain ⟨f, v⟩ := a
  cases f <;> rfl

/-- The other fields stay. -/
theorem get_set_of_ne (h : a.field ≠ f) : (cfg.set a).get f = cfg.get f := by
  obtain ⟨g, v⟩ := a
  cases g <;> cases f <;> first | rfl | contradiction

/-- An assignment writes its field and no other. -/
theorem get_set : (cfg.set a).get = write a cfg.get := by
  funext f
  by_cases h : a.field = f
  · subst h
    rw [get_set_self, write_self]
  · rw [get_set_of_ne h, write_of_ne h]

@[simp]
theorem configPath_set : (cfg.set a).configPath = cfg.configPath := by
  obtain ⟨f, v⟩ := a
  cases f <;> rfl

end AppCfg

/-! ## What a value text means for a field -/

/-- The number an integer field takes from a text. -/
def readInt (value : Text) : Option Int :=
  match strtol value with
  | none => none
  | some v => if v.rest ≠ [] then none else some (toInt v.value)

/-- The truth value of a text. -/
def readBool (value : Text) : Option Int :=
  if sameNoCase value "true".toList || sameNoCase value "yes".toList || value == "1".toList then
    some 1
  else if sameNoCase value "false".toList || sameNoCase value "no".toList ||
      value == "0".toList then
    some 0
  else none

/-- The recording mode of a text. -/
def readMode (value : Text) : Option Recorder.RecordMode :=
  (recordModeAliases.find? fun pair => sameNoCase value pair.1).map Prod.snd

/-- The value a field takes from a text. -/
def Field.read : (f : Field) → Text → Option f.Value
  | .cardPath, value => some (copyString 63 value)
  | .connectorName, value => some (copyString 31 value)
  | .planeId, value | .udpPort, value | .vidPt, value | .appsinkMaxBuffers, value =>
      readInt value
  | .gstLog, value | .recordEnable, value => readBool value
  | .recordPath, value => some (copyString pathCapacity value)
  | .recordMode, value => readMode value

/-- How the functions that parse or store a value report it. -/
def accepted {α : Type} (old : α) : Option α → Int × α
  | none => (-1, old)
  | some new => (0, new)

/-- `parse_decimal` takes what can be read as a number. -/
theorem parseDecimal_eq (value : Text) (out : Int) :
    parseDecimal value out = accepted out (readInt value) := by
  unfold parseDecimal readInt
  cases strtol value with
  | none => rfl
  | some v =>
      simp only
      split <;> rfl

/-- `parse_bool` takes the words for a truth value. -/
theorem parseBool_eq (value : Text) (out : Int) :
    parseBool value out = accepted out (readBool value) := by
  unfold parseBool readBool
  split
  · rfl
  · split <;> rfl

/-- `cfg_parse_record_mode` takes the names of the modes. -/
theorem cfgParseRecordMode_eq (value : Text) (out : Recorder.RecordMode) :
    cfgParseRecordMode value out = accepted out (readMode value) := by
  unfold cfgParseRecordMode readMode
  cases recordModeAliases.find? fun pair => sameNoCase value pair.1 <;> rfl

/-! ## Tables of keys -/

/-- The keys in `[video]`, in any other section and in front of all sections. -/
def globalKeys : List (Text × Field) :=
  [("card_path".toList, .cardPath), ("connector".toList, .connectorName),
    ("connector_name".toList, .connectorName), ("plane_id".toList, .planeId),
    ("udp_port".toList, .udpPort), ("vid_pt".toList, .vidPt),
    ("video_payload_type".toList, .vidPt),
    ("appsink_max_buffers".toList, .appsinkMaxBuffers), ("gst_log".toList, .gstLog),
    ("record.enable".toList, .recordEnable), ("record.output_path".toList, .recordPath),
    ("record.path".toList, .recordPath), ("record.mode".toList, .recordMode)]

/-- The keys in `[record]`. -/
def recordKeys : List (Text × Field) :=
  [("enable".toList, .recordEnable), ("output_path".toList, .recordPath),
    ("path".toList, .recordPath), ("mode".toList, .recordMode)]

/-- The keys in a section. -/
def sectionKeys (sectionName : Text) : List (Text × Field) :=
  if sameNoCase sectionName "record".toList then recordKeys else globalKeys

/-- The field a key denotes. -/
def denoted (keys : List (Text × Field)) (key : Text) : Option Field :=
  (keys.find? fun entry => sameNoCase key entry.1).map Prod.snd

/-- Store the value of a text in a field, if the field accepts it. -/
def store (f : Field) (value : Text) (cfg : AppCfg) : Int × AppCfg :=
  accepted cfg ((f.read value).map fun v => cfg.set ⟨f, v⟩)

/-- Store a value in the field that a key denotes. -/
def storeKey (keys : List (Text × Field)) (key value : Text) (cfg : AppCfg) : Int × AppCfg :=
  match denoted keys key with
  | none => (-1, cfg)
  | some f => store f value cfg

/-! ## The dispatch follows the tables -/

/-- Storing what a parser leaves is storing the value it accepts. -/
theorem accepted_put {α : Type} {cfg : AppCfg} (old : α) (put : α → AppCfg)
    (hold : put old = cfg) (value : Option α) :
    ((accepted old value).1, put (accepted old value).2) = accepted cfg (value.map put) := by
  cases value with
  | none => rw [accepted, hold]; rfl
  | some v => rfl

/-- The handler of `record.enable` stores its value. -/
theorem handleRecordEnable_eq (value : Text) (cfg : AppCfg) :
    handleRecordEnable value cfg = store .recordEnable value cfg := by
  unfold handleRecordEnable
  rw [parseBool_eq]
  exact accepted_put cfg.record.enable
    (fun v => { cfg with record := { cfg.record with enable := v } }) rfl (readBool value)

/-- The handler of `record.mode` stores its value. -/
theorem handleRecordMode_eq (value : Text) (cfg : AppCfg) :
    handleRecordMode value cfg = store .recordMode value cfg := by
  have hread : store .recordMode value cfg =
      accepted cfg ((readMode value).map fun v => cfg.set ⟨.recordMode, v⟩) := rfl
  unfold handleRecordMode
  rw [cfgParseRecordMode_eq, hread]
  cases readMode value <;> rfl

/-- The handler of the path stores its value. -/
theorem handleRecordPath_eq (value : Text) (cfg : AppCfg) :
    handleRecordPath value cfg = store .recordPath value cfg :=
  rfl

/-- A key with a prefix is the prefix and the rest of the key. -/
theorem sameNoCase_append (key a b : Text) :
    sameNoCase key (a ++ b) =
      (sameNoCase (key.take a.length) a && sameNoCase (key.drop a.length) b) := by
  rw [Bool.eq_iff_iff]
  unfold sameNoCase
  simp only [Bool.and_eq_true, beq_iff_eq, List.map_append]
  constructor
  · intro h
    rw [List.map_take, List.map_drop, h]
    simp
  · rintro ⟨hfront, hback⟩
    rw [← hfront, ← hback, ← List.map_append, List.take_append_drop]

theorem sameNoCase_record (key : Text) :
    sameNoCase key "record.enable".toList =
        (sameNoCase (key.take 7) "record.".toList && sameNoCase (key.drop 7) "enable".toList) ∧
      sameNoCase key "record.output_path".toList =
        (sameNoCase (key.take 7) "record.".toList &&
          sameNoCase (key.drop 7) "output_path".toList) ∧
      sameNoCase key "record.path".toList =
        (sameNoCase (key.take 7) "record.".toList && sameNoCase (key.drop 7) "path".toList) ∧
      sameNoCase key "record.mode".toList =
        (sameNoCase (key.take 7) "record.".toList && sameNoCase (key.drop 7) "mode".toList) :=
  ⟨sameNoCase_append key "record.".toList "enable".toList,
    sameNoCase_append key "record.".toList "output_path".toList,
    sameNoCase_append key "record.".toList "path".toList,
    sameNoCase_append key "record.".toList "mode".toList⟩

/-- The dispatch of `handle_global_key` follows the table. -/
theorem handleGlobalKey_eq (key value : Text) (cfg : AppCfg) :
    handleGlobalKey key value cfg = storeKey globalKeys key value cfg := by
  obtain ⟨henable, houtput, hpath, hmode⟩ := sameNoCase_record key
  unfold storeKey denoted globalKeys handleGlobalKey parseInt
  simp only [List.find?_cons, henable, houtput, hpath, hmode, parseDecimal_eq, parseBool_eq,
    handleRecordEnable_eq, handleRecordPath_eq, handleRecordMode_eq]
  have hplane := accepted_put cfg.planeId (fun v => { cfg with planeId := v }) rfl (readInt value)
  have hport := accepted_put cfg.udpPort (fun v => { cfg with udpPort := v }) rfl (readInt value)
  have hpayload := accepted_put cfg.vidPt (fun v => { cfg with vidPt := v }) rfl (readInt value)
  have hbuffers := accepted_put cfg.appsinkMaxBuffers
    (fun v => { cfg with appsinkMaxBuffers := v }) rfl (readInt value)
  have hlog := accepted_put cfg.gstLog (fun v => { cfg with gstLog := v }) rfl (readBool value)
  -- One comparison after the other, until one succeeds.
  cases sameNoCase key "card_path".toList
  cases sameNoCase key "connector".toList
  cases sameNoCase key "connector_name".toList
  cases sameNoCase key "plane_id".toList
  cases sameNoCase key "udp_port".toList
  cases sameNoCase key "vid_pt".toList
  cases sameNoCase key "video_payload_type".toList
  cases sameNoCase key "appsink_max_buffers".toList
  cases sameNoCase key "gst_log".toList
  cases sameNoCase (key.take 7) "record.".toList
  · rfl
  · cases sameNoCase (key.drop 7) "enable".toList
    cases sameNoCase (key.drop 7) "output_path".toList
    cases sameNoCase (key.drop 7) "path".toList
    cases sameNoCase (key.drop 7) "mode".toList
    all_goals rfl
  · exact hlog
  · exact hbuffers
  · exact hpayload
  · exact hpayload
  · exact hport
  · exact hplane
  all_goals rfl

/-- So does the dispatch of `handle_section_key`. -/
theorem handleSectionKey_eq (sectionName key value : Text) (cfg : AppCfg) :
    handleSectionKey sectionName key value cfg =
      storeKey (sectionKeys sectionName) key value cfg := by
  unfold handleSectionKey sectionKeys
  simp only [handleGlobalKey_eq, handleRecordEnable_eq, handleRecordPath_eq, handleRecordMode_eq]
  by_cases hrecord : sameNoCase sectionName "record".toList = true
  · have hvideo : sameNoCase sectionName "video".toList = false := by
      by_contra h
      have hlength := sameNoCase_length (Bool.of_not_eq_false h)
      rw [sameNoCase_length hrecord] at hlength
      exact absurd hlength (by decide)
    rw [hvideo, if_pos hrecord, if_pos hrecord]
    unfold storeKey denoted recordKeys
    simp only [List.find?_cons]
    cases sameNoCase key "enable".toList
    cases sameNoCase key "output_path".toList
    cases sameNoCase key "path".toList
    cases sameNoCase key "mode".toList
    all_goals rfl
  · rw [if_neg hrecord, if_neg hrecord, ite_self]

/-! ## What a call can change -/

/-- The longest text at the beginning of `value` that fits. -/
structure LongestFit (capacity : Nat) (value s : Text) : Prop where
  isPrefix : s <+: value
  fits : s.length ≤ capacity
  longest : ∀ t, t <+: value → t.length ≤ capacity → t <+: s

/-- A copied string is as much of the value as fits. -/
theorem longestFit_copyString {capacity : Nat} {value : Text} (hnul : '\x00' ∉ value) :
    LongestFit capacity value (copyString capacity value).chars := by
  have hchars : (copyString capacity value).chars = value.take capacity :=
    congrArg (List.take capacity) (str_of_notMem hnul)
  rw [hchars]
  refine ⟨List.take_prefix _ _, List.length_take_le _ _, ?_⟩
  intro t ht hfits
  rw [List.prefix_take_iff]
  exact ⟨ht, hfits⟩

/-- What holds of a function that handles the keys of a table. -/
structure KeyContract (keys : List (Text × Field))
    (handle : Text → Text → AppCfg → Int × AppCfg) : Prop where
  code : ∀ key value cfg, (handle key value cfg).1 = 0 ∨ (handle key value cfg).1 = -1
  frame : ∀ key value cfg f, denoted keys key ≠ some f →
    (handle key value cfg).2.get f = cfg.get f
  configPath : ∀ key value cfg, (handle key value cfg).2.configPath = cfg.configPath
  rejected : ∀ key value cfg, (handle key value cfg).1 = -1 → (handle key value cfg).2 = cfg
  string : ∀ key value cfg f capacity s, '\x00' ∉ value → (handle key value cfg).1 = 0 →
    denoted keys key = some f → (handle key value cfg).2.string f = some (capacity, s) →
    LongestFit capacity value s

/-- A call stores a value of the denoted field, or is rejected. -/
theorem storeKey_cases (keys : List (Text × Field)) (key value : Text) (cfg : AppCfg) :
    storeKey keys key value cfg = (-1, cfg) ∨
      ∃ f v, denoted keys key = some f ∧ f.read value = some v ∧
        storeKey keys key value cfg = (0, cfg.set ⟨f, v⟩) := by
  unfold storeKey
  cases hdenoted : denoted keys key with
  | none => exact Or.inl rfl
  | some f =>
      simp only [store]
      cases hread : f.read value with
      | none => exact Or.inl rfl
      | some v => exact Or.inr ⟨f, v, rfl, hread, rfl⟩

/-- A string field keeps what fits of a value. -/
theorem string_set {f : Field} {value : Text} {v : f.Value} {cfg : AppCfg} {capacity : Nat}
    {s : Text} (hread : f.read value = some v) (hnul : '\x00' ∉ value)
    (hstring : (cfg.set ⟨f, v⟩).string f = some (capacity, s)) : LongestFit capacity value s := by
  cases f with
  | cardPath =>
      cases hread
      cases hstring
      exact longestFit_copyString hnul
  | connectorName =>
      cases hread
      cases hstring
      exact longestFit_copyString hnul
  | recordPath =>
      cases hread
      cases hstring
      exact longestFit_copyString hnul
  | _ => contradiction

/-- A table of keys keeps the contract. -/
theorem storeKey_contract (keys : List (Text × Field)) : KeyContract keys (storeKey keys) where
  code key value cfg := by
    rcases storeKey_cases keys key value cfg with h | ⟨f, v, -, -, h⟩
    · exact Or.inr (by rw [h])
    · exact Or.inl (by rw [h])
  frame key value cfg f hne := by
    rcases storeKey_cases keys key value cfg with h | ⟨g, v, hdenoted, -, h⟩
    · rw [h]
    · rw [h]
      refine AppCfg.get_set_of_ne fun heq => hne ?_
      rw [hdenoted, ← heq]
  configPath key value cfg := by
    rcases storeKey_cases keys key value cfg with h | ⟨f, v, -, -, h⟩
    · rw [h]
    · rw [h, AppCfg.configPath_set]
  rejected key value cfg hcode := by
    rcases storeKey_cases keys key value cfg with h | ⟨f, v, -, -, h⟩
    · rw [h]
    · rw [h] at hcode
      contradiction
  string key value cfg f capacity s hnul hcode hdenoted hstring := by
    rcases storeKey_cases keys key value cfg with h | ⟨g, v, hfield, hread, h⟩
    · rw [h] at hcode
      contradiction
    · rw [hdenoted, Option.some.injEq] at hfield
      subst hfield
      rw [h] at hstring
      exact string_set hread hnul hstring

/-- The keys outside a section keep the contract. -/
theorem handleGlobalKey_contract : KeyContract globalKeys handleGlobalKey := by
  have heq : handleGlobalKey = storeKey globalKeys := by
    funext key value cfg
    exact handleGlobalKey_eq key value cfg
  rw [heq]
  exact storeKey_contract globalKeys

/-- The keys of each section keep the contract. -/
theorem handleSectionKey_contract (sectionName : Text) :
    KeyContract (sectionKeys sectionName) (handleSectionKey sectionName) := by
  have heq : handleSectionKey sectionName = storeKey (sectionKeys sectionName) := by
    funext key value cfg
    exact handleSectionKey_eq sectionName key value cfg
  rw [heq]
  exact storeKey_contract _

/-- The dispatch of the loader calls the one or the other. -/
theorem dispatch_contract (sectionName : Text) :
    KeyContract (sectionKeys sectionName) (dispatch sectionName) := by
  by_cases hempty : sectionName = []
  · have heq : dispatch sectionName = handleGlobalKey := by
      funext key value cfg
      rw [dispatch, if_neg (not_not.mpr hempty)]
    rw [heq, hempty]
    exact handleGlobalKey_contract
  · have heq : dispatch sectionName = handleSectionKey sectionName := by
      funext key value cfg
      rw [dispatch, if_pos hempty]
    rw [heq]
    exact handleSectionKey_contract sectionName

/-! ## Deleting rejected lines -/

/-- The call of the dispatch that a turn of the loop makes, if it makes one. -/
def lineCall (line : Text) (s : Loader) : Option (Int × AppCfg) :=
  let first := lineBegin line
  let c := peek '\x00' line first
  if c = '\x00' || c = '#' || c = ';' then none
  else
    let trimmed := trimWhitespace (cutComment line first) first
    let c := peek '\x00' trimmed.1 trimmed.2
    if c = '\x00' then none
    else if c = '[' then none
    else keyCall trimmed.1 trimmed.2 s

/-- The dispatch of the line returns an error. -/
def Rejected (line : Text) (s : Loader) : Prop :=
  ∃ cfg, lineCall line s = some (-1, cfg)

/-- A turn that calls the dispatch takes over the configuration of the call. -/
theorem loadLine_of_lineCall {line : Text} {s : Loader} {call : Int × AppCfg}
    (h : lineCall line s = some call) : loadLine line s = { s with cfg := call.2 } := by
  unfold lineCall at h
  unfold loadLine
  simp only at h ⊢
  split at h
  · contradiction
  · rw [if_neg ‹_›]
    split at h
    · contradiction
    · rw [if_neg ‹_›]
      split at h
      · contradiction
      · rw [if_neg ‹_›, loadKey, h]

/-- The call is one of the dispatch in the section in force. -/
theorem lineCall_dispatch {line : Text} {s : Loader} {call : Int × AppCfg}
    (h : lineCall line s = some call) :
    ∃ key value, call = dispatch s.sectionName.chars key value s.cfg := by
  have hkey : ∀ line first, keyCall line first s = some call →
      ∃ key value, call = dispatch s.sectionName.chars key value s.cfg := by
    intro line first hcall
    unfold keyCall at hcall
    split at hcall
    · contradiction
    · simp only at hcall
      split at hcall
      · contradiction
      · exact ⟨_, _, (Option.some.inj hcall).symm⟩
  unfold lineCall at h
  simp only at h
  split at h
  · contradiction
  · split at h
    · contradiction
    · split at h
      · contradiction
      · exact hkey _ _ h

/-- A rejected line does nothing. -/
theorem Rejected.loadLine_eq {line : Text} {s : Loader} (h : Rejected line s) :
    loadLine line s = s := by
  obtain ⟨cfg, hcall⟩ := h
  obtain ⟨key, value, hdispatch⟩ := lineCall_dispatch hcall
  have hrejected := (dispatch_contract s.sectionName.chars).rejected key value s.cfg
  rw [← hdispatch] at hrejected
  have hsame : cfg = s.cfg := hrejected rfl
  rw [loadLine_of_lineCall hcall, hsame]

/-- No turn changes the path of the configuration file. -/
theorem configPath_loadLine (line : Text) (s : Loader) :
    (loadLine line s).cfg.configPath = s.cfg.configPath := by
  cases hcall : lineCall line s with
  | some call =>
      obtain ⟨key, value, hdispatch⟩ := lineCall_dispatch hcall
      rw [loadLine_of_lineCall hcall, hdispatch]
      exact (dispatch_contract s.sectionName.chars).configPath key value s.cfg
  | none =>
      -- Without a call the turn sets at most the section.
      unfold lineCall at hcall
      unfold loadLine
      simp only at hcall ⊢
      split
      · rfl
      · rw [if_neg ‹_›] at hcall
        split
        · rfl
        · rw [if_neg ‹_›] at hcall
          split
          · unfold loadSection
            split <;> rfl
          · rw [if_neg ‹_›] at hcall
            rw [loadKey, hcall]

/-- Some lines are deleted that the loader, in the run over all lines from `s` on,
rejects. -/
inductive Pruned : Loader → List Text → List Text → Prop
  | nil (s : Loader) : Pruned s [] []
  | keep {s : Loader} {line : Text} {lines kept : List Text} :
      Pruned (loadLine line s) lines kept → Pruned s (line :: lines) (line :: kept)
  | delete {s : Loader} {line : Text} {lines kept : List Text} :
      Rejected line s → Pruned (loadLine line s) lines kept → Pruned s (line :: lines) kept

namespace Pruned

variable {s : Loader} {lines kept : List Text}

theorem sublist (h : Pruned s lines kept) : kept.Sublist lines := by
  induction h with
  | nil s => exact List.Sublist.slnil
  | keep _ ih => exact ih.cons_cons _
  | delete _ _ ih => exact ih.cons _

/-- The loader ends where it ends without the deletion. -/
theorem foldl_eq (h : Pruned s lines kept) :
    kept.foldl (fun s line => loadLine line s) s =
      lines.foldl (fun s line => loadLine line s) s := by
  induction h with
  | nil s => rfl
  | keep _ ih => exact ih
  | delete hrejected _ ih =>
      rw [hrejected.loadLine_eq] at ih
      rw [List.foldl_cons, hrejected.loadLine_eq, ih]

end Pruned

/-! ## The pieces of a pruned file -/

/-- What is behind a piece does not matter for it, unless the piece ends the file. -/
theorem fgets_of_rest_ne_nil {n : Nat} {input piece rest : Text}
    (h : fgets n input = (piece, rest)) (hrest : rest ≠ []) (other : Text) :
    fgets n (piece ++ other) = (piece, other) := by
  induction n generalizing input piece with
  | zero =>
      cases h
      rfl
  | succ n ih =>
      cases input with
      | nil =>
          cases h
          contradiction
      | cons c input =>
          unfold fgets at h
          by_cases hnewline : c = '\n'
          · rw [if_pos hnewline] at h
            cases h
            simp [fgets, hnewline]
          · rw [if_neg hnewline] at h
            cases hnext : fgets n input with
            | mk tail rest' =>
                rw [hnext] at h
                cases h
                have htail := ih hnext
                rw [List.cons_append, fgets, if_neg hnewline, htail]

/-- Whole pieces put together are read as the same pieces. -/
theorem filePieces_of_sublist {text : Text} {kept : List Text}
    (h : kept.Sublist (filePieces text)) : filePieces kept.flatten = kept := by
  induction hlength : text.length using Nat.strong_induction_on generalizing text kept with
  | _ n ih =>
      by_cases hempty : text = []
      · rw [hempty, filePieces_nil, List.sublist_nil] at h
        rw [h]
        rfl
      · have hlt := fgets_rest_lt hempty
        have happend := fgets_append (maxIniLine - 1) text
        have hpiece := fgets_ne_nil (n := maxIniLine - 2) hempty
        rw [filePieces_of_ne_nil hempty] at h
        cases hread : fgets (maxIniLine - 1) text with
        | mk piece rest =>
            have hsize : maxIniLine - 2 + 1 = maxIniLine - 1 := rfl
            rw [hsize] at hpiece
            rw [hread] at h hlt happend hpiece
            dsimp only at h hlt happend hpiece
            rcases List.sublist_cons_iff.mp h with hbehind | ⟨kept', rfl, hbehind⟩
            · exact ih rest.length (by omega) hbehind rfl
            · have hagain : fgets (maxIniLine - 1) (piece ++ kept'.flatten) =
                  (piece, kept'.flatten) := by
                by_cases hlast : rest = []
                · rw [hlast, filePieces_nil, List.sublist_nil] at hbehind
                  rw [hlast, List.append_nil] at happend
                  rw [hbehind, List.flatten_nil, List.append_nil, ← hlast, happend, hread, happend]
                · exact fgets_of_rest_ne_nil hread hlast _
              have hne : piece ++ kept'.flatten ≠ [] := by
                simp [hpiece]
              rw [List.flatten_cons, filePieces_of_ne_nil hne, hagain,
                ih rest.length (by omega) hbehind rfl]

/-- The loader before the first line. -/
def loaderStart (cfg : AppCfg) : Loader :=
  { sectionName := copyString 31 [], cfg }

/-- Loading a file does not change the path of the configuration. -/
theorem configPath_cfgLoadFile (content : Option Text) (cfg : AppCfg) :
    (cfgLoadFile content cfg).2.configPath = cfg.configPath := by
  cases content with
  | none => rfl
  | some text =>
      rw [cfgLoadFile_some]
      generalize hstart : ({ sectionName := copyString 31 [], cfg } : Loader) = s
      have hcfg : s.cfg.configPath = cfg.configPath := by rw [← hstart]
      rw [← hcfg]
      clear hcfg hstart
      induction filePieces text generalizing s with
      | nil => rfl
      | cons line lines ih => rw [List.foldl_cons, ih, configPath_loadLine]

/-- A file without the rejected lines is loaded to the same configuration. -/
theorem Pruned.cfgLoadFile_eq {text : Text} {kept : List Text} {cfg : AppCfg}
    (h : Pruned (loaderStart cfg) (filePieces text) kept) :
    cfgLoadFile (some kept.flatten) cfg = cfgLoadFile (some text) cfg := by
  have hloop := h.foldl_eq
  unfold loaderStart at hloop
  rw [cfgLoadFile_some, cfgLoadFile_some, filePieces_of_sublist h.sublist, hloop]

/-- What calls of the dispatch and whole files can change: at most the field that the key
denotes, nothing when a call returns an error, in a string field the longest text that
fits, and never the path of the configuration file. -/
theorem keys_contract :
    KeyContract globalKeys handleGlobalKey ∧
      (∀ sectionName, KeyContract (sectionKeys sectionName) (handleSectionKey sectionName)) ∧
      (∀ content cfg, (cfgLoadFile content cfg).2.configPath = cfg.configPath) ∧
      ∀ text cfg kept, Pruned (loaderStart cfg) (filePieces text) kept →
        cfgLoadFile (some kept.flatten) cfg = cfgLoadFile (some text) cfg :=
  ⟨handleGlobalKey_contract, handleSectionKey_contract, configPath_cfgLoadFile,
    fun _ _ _ h => h.cfgLoadFile_eq⟩

/-- A line with an unknown key in front of a setting may be deleted. -/
theorem keys_contract_unknown :
    cfgLoadFile (some ["vid_pt=5\n".toList].flatten) cfgDefaults =
      cfgLoadFile (some "bogus=1\nvid_pt=5\n".toList) cfgDefaults := by
  have hpieces : filePieces "bogus=1\nvid_pt=5\n".toList =
      ["bogus=1\n".toList, "vid_pt=5\n".toList] := by decide +kernel
  refine keys_contract.2.2.2 _ _ _ ?_
  rw [hpieces]
  exact .delete ⟨cfgDefaults, by decide +kernel⟩ (.keep (.nil _))

end Config
end PixelPilot
