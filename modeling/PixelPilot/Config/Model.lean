import PixelPilot.Library.Terminated
import PixelPilot.Main.PidFile
import PixelPilot.Recorder.VideoRecorder

/-!
# The configuration

`AppCfg`, its defaults, and the functions that turn the text of a value into a field:
those of `config.c` for the command line and those of `config_ini.c` for files.  A C
string is a list of characters, one for each byte; a string field carries its bound.

Main results:

- Definition `CString`: what a character array can hold.
- Definitions `strtol`, `parseIntArg`, `parseInt`, `parseBool` and `cfgParseRecordMode`.
- Definitions `handleGlobalKey` and `handleSectionKey`: the dispatch of a key.

Current gaps:

- Texts of log messages are left out: nothing reads them.
-/

namespace PixelPilot
namespace Config

abbrev Text := List Char

/-! ## Strings in arrays -/

/-- The content of an array of `capacity + 1` characters that ends with a NUL. -/
structure CString (capacity : Nat) where
  chars : Text
  fits : chars.length ≤ capacity
  noNul : '\x00' ∉ chars
deriving DecidableEq, Repr

/-- `copy_string`: what of a string fits into the array. -/
def copyString (capacity : Nat) (value : Text) : CString capacity where
  chars := (Terminated.str '\x00' value 0).take capacity
  fits := List.length_take_le _ _
  noNul h := Terminated.nul_notMem_str (List.mem_of_mem_take h)

/-- `cli_copy_string`. -/
def cliCopyString (capacity : Nat) (value : Text) : CString capacity :=
  copyString capacity value

/-- `PATH_MAX - 1`. -/
def pathCapacity : Nat := 4095

/-! ## The record -/

/-- `RecordCfg`. -/
structure RecordCfg where
  enable : Int
  outputPath : CString pathCapacity
  mode : Recorder.RecordMode
deriving DecidableEq, Repr

/-- `AppCfg`. -/
structure AppCfg where
  cardPath : CString 63
  connectorName : CString 31
  configPath : CString pathCapacity
  planeId : Int
  udpPort : Int
  vidPt : Int
  appsinkMaxBuffers : Int
  gstLog : Int
  record : RecordCfg
deriving DecidableEq, Repr

/-- `cfg_defaults`. -/
def cfgDefaults : AppCfg where
  cardPath := copyString 63 "/dev/dri/card0".toList
  connectorName := copyString 31 []
  configPath := copyString pathCapacity []
  planeId := 76
  udpPort := 5600
  vidPt := 97
  appsinkMaxBuffers := 4
  gstLog := 0
  record :=
    { enable := 0
      outputPath := copyString pathCapacity "/media".toList
      mode := .sequential }

/-! ## Values -/

/-- `strcasecmp(a, b) == 0`. -/
def sameNoCase (a b : Text) : Bool :=
  a.map Char.toLower == b.map Char.toLower

/-- What `strtol` has read: the number, limited to the range of `long`, and the text
after it. -/
structure Strtol where
  value : Int
  rest : Text
deriving DecidableEq, Repr

/-- The sign `strtol` accepts in front of the digits. -/
def readSign : Text → Bool × Text
  | '-' :: rest => (true, rest)
  | '+' :: rest => (false, rest)
  | rest => (false, rest)

/-- The range of `long`. -/
def clampLong (n : Int) : Int :=
  max (-0x8000000000000000) (min n 0x7fffffffffffffff)

/-- `strtol` in base 10; `none` where it stores the beginning of the text in `end`. -/
def strtol (text : Text) : Option Strtol :=
  let sign := readSign (text.dropWhile Main.isspace)
  let digits := sign.2.takeWhile Char.isDigit
  if digits = [] then none
  else
    let n : Int := Nat.ofDigitChars 10 digits 0
    some
      { value := clampLong (if sign.1 then -n else n)
        rest := sign.2.dropWhile Char.isDigit }

/-- `(int)v`. -/
def toInt (v : Int) : Int :=
  Int.bmod v 0x100000000

/-- The body of `parse_int` and `parse_int_arg`: the return code, and `*out` after the
call. -/
def parseDecimal (value : Text) (out : Int) : Int × Int :=
  match strtol value with
  | none => (-1, out)
  | some v => if v.rest ≠ [] then (-1, out) else (0, toInt v.value)

/-- `parse_int_arg`. -/
def parseIntArg (value : Text) (out : Int) : Int × Int :=
  parseDecimal value out

/-- `parse_int`. -/
def parseInt (value : Text) (out : Int) : Int × Int :=
  parseDecimal value out

/-- `parse_bool`. -/
def parseBool (value : Text) (out : Int) : Int × Int :=
  if sameNoCase value "true".toList || sameNoCase value "yes".toList || value == "1".toList then
    (0, 1)
  else if sameNoCase value "false".toList || sameNoCase value "no".toList ||
      value == "0".toList then
    (0, 0)
  else (-1, out)

/-- `kRecordModeAliases`. -/
def recordModeAliases : List (Text × Recorder.RecordMode) :=
  [("standard".toList, .standard), ("default".toList, .standard),
    ("sequential".toList, .sequential), ("append".toList, .sequential),
    ("fragmented".toList, .fragmented), ("fragment".toList, .fragmented)]

/-- `cfg_parse_record_mode`. -/
def cfgParseRecordMode (value : Text) (modeOut : Recorder.RecordMode) :
    Int × Recorder.RecordMode :=
  match recordModeAliases.find? fun pair => sameNoCase value pair.1 with
  | none => (-1, modeOut)
  | some pair => (0, pair.2)

/-! ## Dispatch of a key -/

/-- The branch for the recording mode, which parses into a copy of the field. -/
def handleRecordMode (value : Text) (cfg : AppCfg) : Int × AppCfg :=
  let parsed := cfgParseRecordMode value cfg.record.mode
  if parsed.1 = 0 then (0, { cfg with record := { cfg.record with mode := parsed.2 } })
  else (-1, cfg)

/-- The branch for `record.enable`. -/
def handleRecordEnable (value : Text) (cfg : AppCfg) : Int × AppCfg :=
  let parsed := parseBool value cfg.record.enable
  (parsed.1, { cfg with record := { cfg.record with enable := parsed.2 } })

/-- The branch for `record.output_path`. -/
def handleRecordPath (value : Text) (cfg : AppCfg) : Int × AppCfg :=
  (0, { cfg with record := { cfg.record with outputPath := copyString pathCapacity value } })

/-- `handle_global_key`. -/
def handleGlobalKey (key value : Text) (cfg : AppCfg) : Int × AppCfg :=
  if sameNoCase key "card_path".toList then
    (0, { cfg with cardPath := copyString 63 value })
  else if sameNoCase key "connector".toList || sameNoCase key "connector_name".toList then
    (0, { cfg with connectorName := copyString 31 value })
  else if sameNoCase key "plane_id".toList then
    let parsed := parseInt value cfg.planeId
    (parsed.1, { cfg with planeId := parsed.2 })
  else if sameNoCase key "udp_port".toList then
    let parsed := parseInt value cfg.udpPort
    (parsed.1, { cfg with udpPort := parsed.2 })
  else if sameNoCase key "vid_pt".toList || sameNoCase key "video_payload_type".toList then
    let parsed := parseInt value cfg.vidPt
    (parsed.1, { cfg with vidPt := parsed.2 })
  else if sameNoCase key "appsink_max_buffers".toList then
    let parsed := parseInt value cfg.appsinkMaxBuffers
    (parsed.1, { cfg with appsinkMaxBuffers := parsed.2 })
  else if sameNoCase key "gst_log".toList then
    let parsed := parseBool value cfg.gstLog
    (parsed.1, { cfg with gstLog := parsed.2 })
  else if sameNoCase (key.take 7) "record.".toList then
    let sub := key.drop 7
    if sameNoCase sub "enable".toList then handleRecordEnable value cfg
    else if sameNoCase sub "output_path".toList || sameNoCase sub "path".toList then
      handleRecordPath value cfg
    else if sameNoCase sub "mode".toList then handleRecordMode value cfg
    else (-1, cfg)
  else (-1, cfg)

/-- `handle_section_key`. -/
def handleSectionKey (sectionName key value : Text) (cfg : AppCfg) : Int × AppCfg :=
  if sameNoCase sectionName "video".toList then handleGlobalKey key value cfg
  else if sameNoCase sectionName "record".toList then
    if sameNoCase key "enable".toList then handleRecordEnable value cfg
    else if sameNoCase key "output_path".toList || sameNoCase key "path".toList then
      handleRecordPath value cfg
    else if sameNoCase key "mode".toList then handleRecordMode value cfg
    else (-1, cfg)
  else handleGlobalKey key value cfg

end Config
end PixelPilot
