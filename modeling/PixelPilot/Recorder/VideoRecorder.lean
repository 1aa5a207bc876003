import PixelPilot.Minimp4.Errors
import PixelPilot.Recorder.OutputPath

/-!
# The video recorder

The functions of `video_recorder.c`, over a world that holds the files and the
coming answers of the system: which writes, allocations and buffer mappings
succeed.  An answer list that is used up stands for success, so every pattern of
failures of a finite run is the start of some world.

Main results:

- Definitions `videoRecorderNew`, `videoRecorderHandleSample`,
  `videoRecorderFlush`, `videoRecorderFree` and `videoRecorderGetStats`.
- Definition `emitPending`: the write of one access unit, with the classification
  of the status it ends with.
- Theorem `recorderWriteCallback_follows`: a failed write of the recorder's
  callback returns -1.
- Theorem `writeNal_outcome`: the four ways the write of an access unit ends.

Current gaps:

- The contents of a file are the bytes handed to its stream: what the buffer of the `FILE`
  holds back until `fclose` is not modelled.
- `gst_buffer_map` maps all bytes `gst_buffer_get_size` counts.
- Log lines are left out, as is the mutex of the statistics.
-/

namespace PixelPilot
namespace Recorder

open Minimp4 Fallible

/-! ## Samples -/

/-- `GstClockTime`. -/
abbrev ClockTime := UInt64

/-- `GST_CLOCK_TIME_NONE`. -/
def gstClockTimeNone : ClockTime := 0xffffffffffffffff

/-- `GST_CLOCK_TIME_IS_VALID`. -/
def gstClockTimeIsValid (t : ClockTime) : Bool := t ≠ gstClockTimeNone

/-- `GST_SECOND`. -/
def gstSecond : Nat := 1000000000

/-- The parts of a `GstBuffer` the recorder reads. -/
structure GstBuffer where
  data : Bytes
  pts : ClockTime := gstClockTimeNone
  dts : ClockTime := gstClockTimeNone
  duration : ClockTime := gstClockTimeNone
deriving DecidableEq, Repr

/-- The fields of the first caps structure; `none` where it has no such field. -/
structure GstCaps where
  width : Option Int := none
  height : Option Int := none
  framerate : Option (Int × Int) := none
deriving DecidableEq, Repr

/-- A `GstSample`. -/
structure GstSample where
  buffer : Option GstBuffer
  caps : Option GstCaps := none
deriving DecidableEq, Repr

/-! ## The world -/

/-- What `fseeko` and `fwrite` do in one call of the write callback. -/
inductive WriteAnswer
  | complete
  | seekFailed
  | short (written : Nat)
deriving DecidableEq, Repr

/-- An operation on the file system that succeeded. -/
inductive FileOp
  | mkdirWithParents (dir : Path)
  | create (path : Path)
  | write (path : Path) (offset bytes : Nat)
deriving DecidableEq, Repr

/-- The operation creates, truncates or writes a file. -/
def FileOp.touchesFile : FileOp → Bool
  | .mkdirWithParents _ => false
  | .create _ => true
  | .write _ _ _ => true

/-- A reference to a buffer taken or given back. -/
inductive RefEvent
  | ref (buffer : GstBuffer)
  | unref (buffer : GstBuffer)
deriving DecidableEq, Repr

/-- What one call of `emit_pending` that reached the writer did: the access unit
and its duration, the status it ended with, whether a call of the write callback
failed in it, and then the recorder it left. -/
structure Emission where
  data : Bytes
  duration90k : Nat
  err : Int
  writeFailed : Bool
  awaitingSync : Bool
  failed : Bool
  active : Bool
  lacks : Bool
deriving DecidableEq, Repr

/-- A call of `video_recorder_new` that opened a file, and whether it returned a
recorder. -/
structure Session where
  requested : Path
  isDir : Bool
  timestamp : Timestamp
  path : Path
  returned : Bool

/-- The files, as the bytes handed to their streams, the operations on them so far, and the
coming answers of the system.  `writeFailures`, `emissions`, `refs` and `sessions` only record what
happened. -/
structure World where
  files : Path → Option Bytes := fun _ => none
  fileOps : List FileOp := []
  writes : List WriteAnswer := []
  allocs : List Bool := []
  maps : List Bool := []
  writeFailures : Nat := 0
  emissions : List Emission := []
  refs : List RefEvent := []
  sessions : List Session := []

namespace World

/-- `fopen(path, "wb")`: the file is empty afterwards, whatever it held. -/
def create (w : World) (path : Path) : World :=
  { w with
    files := Function.update w.files path (some [])
    fileOps := w.fileOps ++ [.create path] }

/-- A file with `bytes` written at an offset, a gap being filled with zeros. -/
def writeAt (offset : Nat) (bytes content : Bytes) : Bytes :=
  content.take offset ++ List.replicate (offset - content.length) 0 ++ bytes ++
    content.drop (offset + bytes.length)

/-- The bytes are handed to the stream of the file. -/
def write (w : World) (path : Path) (offset : Nat) (bytes : Bytes) : World :=
  { w with
    files := Function.update w.files path
      (some (writeAt offset bytes ((w.files path).getD [])))
    fileOps := w.fileOps ++ [.write path offset bytes.length] }

end World

/-! ## The write callback -/

/-- What `recorder_write_callback` reaches through its token. -/
structure Token where
  fp : Option Path
  bytesWritten : Nat
  world : World

/-- `recorder_write_callback`. -/
def recorderWriteCallback (offset : Nat) (buffer : Bytes) (rec : Token) : Int × Token :=
  let failing (w : World) : Int × Token :=
    (-1, { rec with world := { w with writeFailures := w.writeFailures + 1 } })
  let w : World := { rec.world with writes := rec.world.writes.tail }
  match rec.fp with
  | none => failing rec.world
  | some fp =>
      match rec.world.writes.headD .complete with
      | .seekFailed => failing w
      | .complete =>
          (0, { rec with
            bytesWritten := rec.bytesWritten + buffer.length
            world := w.write fp offset buffer })
      | .short written =>
          if written < buffer.length then
            failing (w.write fp offset (buffer.take written))
          else
            (0, { rec with
              bytesWritten := rec.bytesWritten + buffer.length
              world := w.write fp offset buffer })

/-! ## The recorder -/

/-- `RecordMode`. -/
inductive RecordMode
  | standard
  | sequential
  | fragmented
deriving DecidableEq, Repr

/-- `RecordCfg`. -/
structure RecordCfg where
  enable : Bool
  outputPath : Path
  mode : RecordMode
deriving DecidableEq, Repr

/-- `struct PendingSample`. -/
structure PendingSample where
  buffer : Option GstBuffer := none
  pts : ClockTime := 0
  duration : ClockTime := 0
  valid : Bool := false
deriving DecidableEq, Repr

/-- `struct VideoRecorder`; `fp` is the file it has open. -/
structure VideoRecorder where
  enabled : Bool := false
  failed : Bool := false
  fp : Option Path := none
  mux : Option Mux := none
  writer : H26xWriter := {}
  writerInitialized : Bool := false
  width : Nat := 0
  height : Nat := 0
  defaultDuration90k : Nat := 0
  lastDuration90k : Nat := 0
  outputPath : Path := []
  mode : RecordMode := .standard
  sequentialModeFlag : Bool := false
  enableFragmentation : Bool := false
  pending : PendingSample := {}
  awaitingSyncWarning : Bool := false
  bytesWritten : Nat := 0
  totalDuration90k : Nat := 0
  startTimeNs : Nat := 0
deriving Repr

/-- The `active` field of the recorder's statistics. -/
def VideoRecorder.active (rec : VideoRecorder) : Bool :=
  rec.enabled && !rec.failed && rec.fp.isSome && rec.mux.isSome

/-- Call the muxer: it works on the recorder's muxer and writer, writes through
its callback and allocates. -/
def callMux (m : Mp4 Token PUnit) (mux : Mux) (rec : VideoRecorder) (w : World) :
    Int × VideoRecorder × World :=
  let r := status (m
    { mux := mux, writer := rec.writer,
      token := { fp := rec.fp, bytesWritten := rec.bytesWritten, world := w },
      allocs := w.allocs })
  (r.1,
    { rec with
      mux := some r.2.mux, writer := r.2.writer, bytesWritten := r.2.token.bytesWritten },
    { r.2.token.world with allocs := r.2.allocs })

/-- `gst_time_to_90k`. -/
def gstTimeTo90k (value : ClockTime) : Nat :=
  if gstClockTimeIsValid value then value.toNat * 90000 / gstSecond else 0

/-- `pending_reset` of the recorder's pending sample. -/
def pendingReset (rec : VideoRecorder) (w : World) : VideoRecorder × World :=
  ({ rec with pending := {} },
    { w with refs := w.refs ++ rec.pending.buffer.toList.map .unref })

/-- The positive value of a caps field, or 0. -/
def positiveField (field : Option Int) : Nat :=
  match field with
  | some v => if 0 < v then v.toNat else 0
  | none => 0

/-- The frame rate of the caps, or 30 frames a second. -/
def capsFramerate (caps : Option GstCaps) : Nat × Nat :=
  match caps.bind GstCaps.framerate with
  | some (n, d) => if 0 < n ∧ 0 < d then (n.toNat, d.toNat) else (30, 1)
  | none => (30, 1)

/-- `ensure_writer_initialized`. -/
def ensureWriterInitialized (rec : VideoRecorder) (sample : Option GstSample) :
    Bool × VideoRecorder :=
  match rec.writerInitialized, rec.mux with
  | true, _ => (true, rec)
  | false, none => (false, rec)
  | false, some mux =>
      let caps := sample.bind GstSample.caps
      let width := positiveField (caps.bind GstCaps.width)
      let height := positiveField (caps.bind GstCaps.height)
      let duration := 90000 * (capsFramerate caps).2 / (capsFramerate caps).1
      let r := mp4H26xWriteInit mux width height
      let started : VideoRecorder :=
        { rec with
          defaultDuration90k := if duration = 0 then 3000 else duration
          writer := r.2.1
          mux := some r.2.2 }
      if r.1 ≠ mp4eStatusOk then (false, { started with failed := true })
      else (true, { started with writerInitialized := true, width := width, height := height })

/-- `compute_duration_90k`. -/
def computeDuration90k (rec : VideoRecorder) (prevPts prevDuration nextPts : ClockTime) :
    Nat × VideoRecorder :=
  let duration :=
    if gstClockTimeIsValid prevDuration then gstTimeTo90k prevDuration
    else if gstClockTimeIsValid prevPts && gstClockTimeIsValid nextPts && prevPts < nextPts then
      gstTimeTo90k (nextPts - prevPts)
    else 0
  let duration :=
    if duration = 0 then
      if rec.lastDuration90k ≠ 0 then rec.lastDuration90k
      else if rec.defaultDuration90k ≠ 0 then rec.defaultDuration90k
      else 3000
    else duration
  (min duration 0xffffffff, { rec with lastDuration90k := duration })

/-- `INT_MAX`. -/
def intMax : Nat := 0x7fffffff

/-- The end of `emit_pending`: what the writer's status means. -/
def classify (err : Int) (duration90k : Nat) (rec : VideoRecorder) : VideoRecorder :=
  if err = mp4eStatusBadArguments then { rec with awaitingSyncWarning := true }
  else if err ≠ mp4eStatusOk then { rec with failed := true }
  else
    { rec with
      awaitingSyncWarning := false
      totalDuration90k := rec.totalDuration90k + duration90k }

/-- The record of a write that ended with status `err` between two worlds and left
the recorder `rec`. -/
def emissionOf (data : Bytes) (duration90k : Nat) (err : Int) (w w' : World)
    (rec : VideoRecorder) : Emission :=
  { data := data, duration90k := duration90k, err := err,
    writeFailed := w.writeFailures < w'.writeFailures,
    awaitingSync := err = mp4eStatusBadArguments,
    failed := rec.failed, active := rec.active, lacks := rec.writer.lacks }

/-- The call of the writer in `emit_pending` and what follows it. -/
def writeUnit (mux : Mux) (data : Bytes) (duration90k : Nat) (rec : VideoRecorder) (w : World) :
    VideoRecorder × World :=
  let r := callMux (mp4H26xWriteNal recorderWriteCallback data duration90k) mux rec w
  let after := classify r.1 duration90k r.2.1
  pendingReset after
    { r.2.2 with emissions :=
      r.2.2.emissions ++ [emissionOf data duration90k r.1 w r.2.2 after] }

/-- `emit_pending`. -/
def emitPending (rec : VideoRecorder) (w : World) (duration90k : Nat) :
    VideoRecorder × World :=
  if !rec.pending.valid then (rec, w)
  else
    match rec.mux, rec.pending.buffer with
    | some mux, some buffer =>
        if rec.failed || !rec.writerInitialized then pendingReset rec w
        else if buffer.data.length = 0 ∨ intMax < buffer.data.length then pendingReset rec w
        else if !w.maps.headD true then pendingReset rec { w with maps := w.maps.tail }
        else writeUnit mux buffer.data duration90k rec { w with maps := w.maps.tail }
    | _, _ => pendingReset rec w

/-! ## Creating a recorder -/

/-- What the system answers in one call of `video_recorder_new`: the file test of
the path, the local time, whether `g_mkdir_with_parents` fails with an error
other than `EEXIST`, whether `fopen` succeeds, and the monotonic clock. -/
structure NewAnswers where
  isDir : Bool := false
  timestamp : Timestamp
  mkdirFails : Bool := false
  fopenOk : Bool := true
  monotonicTime : Nat := 0

/-- The two flags of a recording mode. -/
def modeFlags : RecordMode → Bool × Bool
  | .standard => (false, false)
  | .fragmented => (true, true)
  | .sequential => (true, false)

/-- The directory `video_recorder_new` makes sure of, if any. -/
def mkdirTarget (outputPath : Path) : Option Path :=
  let dir := gPathGetDirname outputPath
  if dir ≠ [] ∧ dir ≠ ['.'] then some dir else none

/-- The output path of a call of `video_recorder_new`. -/
def newOutputPath (cfg : RecordCfg) (answers : NewAnswers) : Path :=
  buildTimestampedOutputPath cfg.outputPath answers.isDir answers.timestamp

/-- The record of a call of `video_recorder_new` that opened its file. -/
def sessionOf (cfg : RecordCfg) (answers : NewAnswers) (returned : Bool) : Session :=
  { requested := cfg.outputPath, isDir := answers.isDir, timestamp := answers.timestamp,
    path := newOutputPath cfg answers, returned := returned }

/-- The part of `video_recorder_new` after `fopen`. -/
def openMux (cfg : RecordCfg) (answers : NewAnswers) (w : World) :
    Option VideoRecorder × World :=
  let outputPath := newOutputPath cfg answers
  let flags := modeFlags cfg.mode
  let r := mp4eOpen recorderWriteCallback flags.1 flags.2
    { fp := some outputPath, bytesWritten := 0, world := w.create outputPath } w.allocs
  let w : World :=
    { r.2.1.world with
      allocs := r.2.2
      sessions := r.2.1.world.sessions ++ [sessionOf cfg answers r.1.isSome] }
  match r.1 with
  | none => (none, w)
  | some mux =>
      (some
        { enabled := true, fp := some outputPath, mux := some mux,
          defaultDuration90k := 3000, outputPath := outputPath, mode := cfg.mode,
          sequentialModeFlag := flags.1, enableFragmentation := flags.2,
          bytesWritten := r.2.1.bytesWritten,
          startTimeNs := answers.monotonicTime * 1000 }, w)

/-- `video_recorder_new`. -/
def videoRecorderNew (cfg : RecordCfg) (answers : NewAnswers) (w : World) :
    Option VideoRecorder × World :=
  if !cfg.enable then (none, w)
  else
    let dir := mkdirTarget (newOutputPath cfg answers)
    if dir.isSome && answers.mkdirFails then (none, w)
    else
      let w : World :=
        { w with fileOps := w.fileOps ++ dir.toList.map .mkdirWithParents }
      if !answers.fopenOk then (none, w)
      else openMux cfg answers w

/-! ## Recording -/

/-- The arguments of `video_recorder_handle_sample`. -/
structure SampleArgs where
  sample : Option GstSample
  buffer : Option GstBuffer
  data : Option Bytes := none
deriving DecidableEq, Repr

/-- The time stamps of a sample: the buffer's PTS, or else its DTS, and its
duration. -/
def sampleTimes (args : SampleArgs) : ClockTime × ClockTime :=
  match args.buffer <|> args.sample.bind GstSample.buffer with
  | none => (gstClockTimeNone, gstClockTimeNone)
  | some b => (if gstClockTimeIsValid b.pts then b.pts else b.dts, b.duration)

/-- The buffer to keep: the caller's, with a reference taken, or a copy of the
caller's data. -/
def pendingBuffer (args : SampleArgs) (w : World) : Option GstBuffer × World :=
  match args.buffer with
  | some b => (some b, { w with refs := w.refs ++ [.ref b] })
  | none =>
      let data := args.data.getD []
      if data.isEmpty then (none, w)
      else if !w.allocs.headD true then (none, { w with allocs := w.allocs.tail })
      else
        let tmp : GstBuffer := { data := data }
        let w : World := { w with allocs := w.allocs.tail, refs := w.refs ++ [.ref tmp] }
        if !w.maps.headD true then
          (none, { w with maps := w.maps.tail, refs := w.refs ++ [.unref tmp] })
        else (some tmp, { w with maps := w.maps.tail })

/-- Write the pending sample, whose duration ends at `nextPts` if it has none of
its own. -/
def emitBefore (nextPts : ClockTime) (rec : VideoRecorder) (w : World) :
    VideoRecorder × World :=
  if rec.pending.valid then
    let r := computeDuration90k rec rec.pending.pts rec.pending.duration nextPts
    emitPending r.2 w r.1
  else (rec, w)

/-- `video_recorder_handle_sample`. -/
def videoRecorderHandleSample (args : SampleArgs) (rec : VideoRecorder) (w : World) :
    VideoRecorder × World :=
  if !rec.enabled || rec.failed then (rec, w)
  else if args.buffer.isNone && (args.data.getD []).isEmpty then (rec, w)
  else
    let init := ensureWriterInitialized rec args.sample
    if !init.1 then (init.2, w)
    else
      let times := sampleTimes args
      let r := emitBefore times.1 init.2 w
      let kept := pendingBuffer args r.2
      match kept.1 with
      | none => (r.1, kept.2)
      | some b =>
          ({ r.1 with pending :=
              { buffer := some b, pts := times.1, duration := times.2, valid := true } },
            kept.2)

/-- `video_recorder_flush`. -/
def videoRecorderFlush (rec : VideoRecorder) (w : World) : VideoRecorder × World :=
  if !rec.enabled || rec.failed then pendingReset rec w
  else emitBefore gstClockTimeNone rec w

/-- `mp4_h26x_write_close`. -/
def mp4H26xWriteClose (rec : VideoRecorder) : VideoRecorder :=
  if rec.writerInitialized then { rec with writer := {} } else rec

/-- `video_recorder_free`: what is left is the world. -/
def videoRecorderFree (rec : VideoRecorder) (w : World) : World :=
  let r := videoRecorderFlush rec w
  let flushed := mp4H26xWriteClose r.1
  match flushed.mux with
  | none => (pendingReset flushed r.2).2
  | some mux =>
      let closed := callMux (mp4eClose recorderWriteCallback) mux flushed r.2
      (pendingReset closed.2.1 closed.2.2).2

/-- `VideoRecorderStats`. -/
structure VideoRecorderStats where
  active : Bool := false
  bytesWritten : Nat := 0
  elapsedNs : Nat := 0
  mediaDurationNs : Nat := 0
  outputPath : Path := []
deriving DecidableEq, Repr

/-- `PATH_MAX`. -/
def pathMax : Nat := 4096

/-- `video_recorder_get_stats` at a reading of the monotonic clock. -/
def videoRecorderGetStats (rec : VideoRecorder) (monotonicTime : Nat) : VideoRecorderStats :=
  { active := rec.active
    bytesWritten := rec.bytesWritten
    elapsedNs := if rec.startTimeNs ≠ 0 then monotonicTime * 1000 - rec.startTimeNs else 0
    mediaDurationNs := min (rec.totalDuration90k * gstSecond / 90000) 0xffffffffffffffff
    outputPath := rec.outputPath.take (pathMax - 1) }

/-! ## The callback's failures -/

/-- What the calls of the write callback may change: the answers still to come and
the bytes of the open file, every write being recorded. -/
structure Token.Kept (t t' : Token) : Prop where
  fp : t'.fp = t.fp
  maps : t'.world.maps = t.world.maps
  emissions : t'.world.emissions = t.world.emissions
  refs : t'.world.refs = t.world.refs
  sessions : t'.world.sessions = t.world.sessions
  fileOps : t.world.fileOps <+: t'.world.fileOps
  files : ∀ path, t.fp ≠ some path → t'.world.files path = t.world.files path

theorem Token.Kept.refl (t : Token) : t.Kept t :=
  ⟨rfl, rfl, rfl, rfl, rfl, List.prefix_rfl, fun _ _ => rfl⟩

theorem Token.Kept.trans {t t' t'' : Token} (h : t.Kept t') (h' : t'.Kept t'') :
    t.Kept t'' where
  fp := h'.fp.trans h.fp
  maps := h'.maps.trans h.maps
  emissions := h'.emissions.trans h.emissions
  refs := h'.refs.trans h.refs
  sessions := h'.sessions.trans h.sessions
  fileOps := h.fileOps.trans h'.fileOps
  files path hne := (h'.files path (by rwa [h.fp])).trans (h.files path hne)

/-- Writing to the open file is all a call of the write callback may do. -/
theorem Token.Kept.write {t t' : Token} {fp : Path} {offset : Nat} {bytes : Bytes}
    (hopen : t.fp = some fp) (hfp : t'.fp = t.fp) (hmaps : t'.world.maps = t.world.maps)
    (hemissions : t'.world.emissions = t.world.emissions)
    (hrefs : t'.world.refs = t.world.refs) (hsessions : t'.world.sessions = t.world.sessions)
    (hops : t'.world.fileOps = (t.world.write fp offset bytes).fileOps)
    (hfiles : t'.world.files = (t.world.write fp offset bytes).files) : t.Kept t' where
  fp := hfp
  maps := hmaps
  emissions := hemissions
  refs := hrefs
  sessions := hsessions
  fileOps := by
    rw [hops]
    exact List.prefix_append _ _
  files path hne := by
    have hother : path ≠ fp := by
      rintro rfl
      exact hne hopen
    rw [hfiles]
    exact Function.update_of_ne hother _ _

/-- A failed call of the write callback returns -1 and is counted. -/
def callbackErrors : Discipline Int Token where
  done t t' := t.Kept t' ∧ t'.world.writeFailures = t.world.writeFailures
  fails e t t' := t.Kept t' ∧ e = -1 ∧
    t'.world.writeFailures = t.world.writeFailures + 1
  refl t := ⟨Token.Kept.refl t, rfl⟩
  trans h h' := ⟨h.1.trans h'.1, h'.2.trans h.2⟩
  after h h' := ⟨h.1.trans h'.1, h'.2.1, h'.2.2.trans (by rw [h.2])⟩

/-- The recorder's write callback returns 0, or fails and returns -1. -/
theorem recorderWriteCallback_follows :
    CallbackFollows recorderWriteCallback callbackErrors := by
  have hdone : ∀ {t t' : Token}, callbackErrors.done t t' →
      ((0 : Int) = 0 → callbackErrors.done t t') ∧
        ((0 : Int) ≠ 0 → callbackErrors.fails 0 t t') := by
    intro t t' h
    exact ⟨fun _ => h, fun hne => absurd rfl hne⟩
  have hfails : ∀ {t t' : Token}, callbackErrors.fails (-1) t t' →
      ((-1 : Int) = 0 → callbackErrors.done t t') ∧
        ((-1 : Int) ≠ 0 → callbackErrors.fails (-1) t t') := by
    intro t t' h
    exact ⟨fun heq => absurd heq (by decide), fun _ => h⟩
  intro offset buffer t
  unfold recorderWriteCallback
  cases hfp : t.fp with
  | none =>
      apply hfails
      exact ⟨⟨hfp.symm, rfl, rfl, rfl, rfl, List.prefix_rfl, fun _ _ => rfl⟩, rfl, rfl⟩
  | some fp =>
      simp only
      split
      · apply hfails
        exact ⟨⟨hfp.symm, rfl, rfl, rfl, rfl, List.prefix_rfl, fun _ _ => rfl⟩, rfl, rfl⟩
      · apply hdone
        exact ⟨Token.Kept.write hfp hfp.symm rfl rfl rfl rfl rfl rfl, rfl⟩
      · split
        · apply hfails
          exact ⟨Token.Kept.write hfp hfp.symm rfl rfl rfl rfl rfl rfl, rfl, rfl⟩
        · apply hdone
          exact ⟨Token.Kept.write hfp hfp.symm rfl rfl rfl rfl rfl rfl, rfl⟩

/-- What the calls of the muxer may change in the world: the bytes of the open
file, every write being recorded, and the answers still to come. -/
structure World.Kept (fp : Option Path) (w w' : World) : Prop where
  emissions : w'.emissions = w.emissions
  refs : w'.refs = w.refs
  sessions : w'.sessions = w.sessions
  fileOps : w.fileOps <+: w'.fileOps
  files : ∀ path, fp ≠ some path → w'.files path = w.files path

theorem Token.Kept.world {t t' : Token} (h : t.Kept t') (allocs : List Bool) :
    World.Kept t.fp t.world { t'.world with allocs := allocs } :=
  ⟨h.emissions, h.refs, h.sessions, h.fileOps, h.files⟩

/-- The token handed to the muxer. -/
def VideoRecorder.token (rec : VideoRecorder) (w : World) : Token :=
  { fp := rec.fp, bytesWritten := rec.bytesWritten, world := w }

/-- How the write of an access unit may end: completed, with -1 after a failed
write, without memory, or with -1 because the writer lacks something. -/
theorem writeNal_outcome (data : Bytes) (duration90k : Nat) (mux : Mux) (rec : VideoRecorder)
    (w : World) {err : Int} {rec' : VideoRecorder} {w' : World}
    (hcall : callMux (mp4H26xWriteNal recorderWriteCallback data duration90k) mux rec w =
      (err, rec', w')) :
    World.Kept rec.fp w w' ∧ rec'.failed = rec.failed ∧
      (err = mp4eStatusOk ∧ w'.writeFailures = w.writeFailures ∨
        err = -1 ∧ w'.writeFailures = w.writeFailures + 1 ∨
        err = mp4eStatusNoMemory ∧ w'.writeFailures = w.writeFailures ∨
        err = mp4eStatusBadArguments ∧ w'.writeFailures = w.writeFailures ∧
          rec'.writer.lacks = true) := by
  have hfollows := mp4H26xWriteNal_follows recorderWriteCallback_follows data duration90k
    { mux := mux, writer := rec.writer, token := rec.token w, allocs := w.allocs }
  unfold callMux at hcall
  cases hrun : mp4H26xWriteNal recorderWriteCallback data duration90k
      { mux := mux, writer := rec.writer, token := rec.token w, allocs := w.allocs } with
  | ok _ t =>
      rcases hfollows.ok hrun with ⟨hkept, hsame⟩
      simp only [VideoRecorder.token] at hrun hkept hsame
      rw [hrun] at hcall
      cases hcall
      exact ⟨hkept.world t.allocs, rfl, Or.inl ⟨rfl, hsame⟩⟩
  | error e t =>
      have hfails := hfollows.error hrun
      simp only [VideoRecorder.token] at hrun hfails
      rw [hrun] at hcall
      cases hcall
      rcases hfails with ⟨⟨hkept, hcode, hmore⟩, -⟩ | ⟨hmemory, hkept, hsame⟩ |
        ⟨hbad, ⟨hkept, hsame⟩, hlacks⟩
      · exact ⟨hkept.world t.allocs, rfl, Or.inr (Or.inl ⟨hcode, hmore⟩)⟩
      · exact ⟨hkept.world t.allocs, rfl, Or.inr (Or.inr (Or.inl ⟨hmemory, hsame⟩))⟩
      · exact ⟨hkept.world t.allocs, rfl, Or.inr (Or.inr (Or.inr ⟨hbad, hsame, hlacks⟩))⟩

end Recorder
end PixelPilot
