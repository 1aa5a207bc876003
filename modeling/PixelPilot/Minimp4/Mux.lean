import PixelPilot.Library.Fallible
import PixelPilot.Minimp4.Boxes

/-!
# The bundled MP4 muxer

The functions of minimp4 that the recorder reaches.  They are generic in the
write callback and in the token it works on.  A function that returns a status
is a program that stops at its first non-zero status, as `ERR` does, and keeps
the state it has changed so far; the answers of `malloc` and `realloc` are part
of the state.

Main results:

- Definition `mp4ePutSample`: one sample, in all three modes.
- Definition `mp4H26xWriteNal`: the HEVC writer over one access unit.
- Theorem `nalUnitsFrom_enough`: the scan for NAL units ends by itself.
- Theorem `mp4H26xWriteNal_follows`: a failed write of an access unit returns
  the callback's own value, `MP4E_STATUS_NO_MEMORY`, or, with parameter sets or
  the first IDR missing, `MP4E_STATUS_BAD_ARGUMENTS`.

Current gaps:

- The H.264 branch is left out: the recorder always opens an HEVC writer.
- The index is put together in a list.  `Minimp4.IndexBuffer` says when it fits into the buffer
  that `mp4e_flush_index` allocates; where it does not, the program writes behind the buffer and
  ends with an assertion.
- The two allocations of `MP4E_add_track` succeed.  The writer would take their
  error code for a track number.
- `find_start_code` reads the byte after an access unit that ends in two zero
  bytes; that byte is taken not to be 1.
-/

namespace PixelPilot
namespace Minimp4

open Fallible

/-! ## Status codes -/

/-- `MP4E_STATUS_OK`. -/
def mp4eStatusOk : Int := 0

/-- `MP4E_STATUS_BAD_ARGUMENTS`. -/
def mp4eStatusBadArguments : Int := -1

/-- `MP4E_STATUS_NO_MEMORY`. -/
def mp4eStatusNoMemory : Int := -2

/-! ## The muxer and its writer -/

/-- `MP4E_mux_t`; `fragmentDurations` only records the sample durations in the
fragment headers written so far. -/
structure Mux where
  tracks : List Track := []
  writePos : Nat
  sequentialModeFlag : Bool
  enableFragmentation : Bool
  fragmentsCount : Nat := 0
  fragmentDurations : List Nat := []
deriving Repr

/-- `mp4_h26x_writer_t` of an HEVC writer. -/
structure H26xWriter where
  muxTrackId : Nat := 0
  needVps : Bool := false
  needSps : Bool := false
  needPps : Bool := false
  needIdr : Bool := false
deriving DecidableEq, Repr

/-- A parameter set or the first IDR has not been seen yet. -/
def H26xWriter.lacks (h : H26xWriter) : Bool :=
  h.needVps || h.needSps || h.needPps || h.needIdr

/-- What the muxer's functions work on: the muxer, the writer in front of it, the
callback's token and the coming answers of the allocator (which succeeds once
they are used up). -/
structure Muxing (τ : Type) where
  mux : Mux
  writer : H26xWriter
  token : τ
  allocs : List Bool

/-- A muxer function that returns a status. -/
abbrev Mp4 (τ : Type) := EStateM Int (Muxing τ)

/-- The status a run returns, and the state it leaves. -/
def status {σ : Type} : EStateM.Result Int σ PUnit → Int × σ
  | .ok _ s => (mp4eStatusOk, s)
  | .error e s => (e, s)

/-- The track numbered `trackNum`. -/
def Mux.track (mux : Mux) (trackNum : Nat) : Track :=
  mux.tracks.getD trackNum {}

/-- Replace the track numbered `trackNum`. -/
def Muxing.mapTrack {τ : Type} (s : Muxing τ) (trackNum : Nat) (f : Track → Track) :
    Muxing τ :=
  { s with mux := { s.mux with tracks := s.mux.tracks.modify trackNum f } }

/-! ## Vectors -/

/-- Code that only allocates. -/
abbrev Alloc := StateM (List Bool)

/-- `malloc` and `realloc`: whether there is memory. -/
def malloc : Alloc Bool := fun allocs => (allocs.headD true, allocs.tail)

/-- `minimp4_vector_init` for a positive capacity. -/
def minimp4VectorInit {α : Type} (capacity : Nat) : Alloc (Bool × Vec α) := do
  let ok ← malloc
  pure (ok, { data := [], allocated := ok, capacity := capacity })

/-- `minimp4_vector_grow`. -/
def minimp4VectorGrow {α : Type} (h : Vec α) (bytes : Nat) : Alloc (Bool × Vec α) := do
  let newSize :=
    if h.capacity * 2 + 1024 < h.capacity + bytes then h.capacity + bytes + 1024
    else h.capacity * 2 + 1024
  let ok ← malloc
  pure (ok, if ok then { h with capacity := newSize } else h)

/-- `minimp4_vector_alloc_tail` for elements of `sizeof` bytes: whether there is
room for `bytes` more bytes. -/
def minimp4VectorAllocTail {α : Type} (sizeof : Nat) (h : Vec α) (bytes : Nat) :
    Alloc (Bool × Vec α) := do
  let r ← if h.allocated then pure (true, h) else minimp4VectorInit (2 * bytes + 1024)
  if !r.1 then pure r
  else if r.2.capacity - r.2.data.length * sizeof < bytes then minimp4VectorGrow r.2 bytes
  else pure r

/-- `minimp4_vector_put`. -/
def minimp4VectorPut {α : Type} (sizeof : Nat) (h : Vec α) (buf : List α) :
    Alloc (Bool × Vec α) := do
  let r ← minimp4VectorAllocTail sizeof h (buf.length * sizeof)
  pure (r.1, if r.1 then { r.2 with data := r.2.data ++ buf } else r.2)

/-- The search loop of `append_mem`, at the bytes from `i` on. -/
def appendMemFinds (mem : Bytes) : Nat → Bytes → Bool
  | 0, _ => false
  | fuel + 1, a :: b :: c :: rest =>
      let cb := a.toNat * 256 + b.toNat
      if cb = mem.length ∧ (c :: rest).take cb = mem then true
      else appendMemFinds mem fuel ((c :: rest).drop cb)
  | _ + 1, _ => false

/-- `append_mem`. -/
def appendMem (v : Vec UInt8) (mem : Bytes) : Alloc (Bool × Vec UInt8) := do
  if appendMemFinds mem v.data.length v.data then pure (true, v)
  else
    let r ← minimp4VectorPut 1 v (write2 mem.length)
    if r.1 then minimp4VectorPut 1 r.2 mem else pure r

/-! ## Writing -/

section Callback

variable {τ : Type} (writeCallback : Nat → Bytes → τ → Int × τ)

/-- Allocate inside a muxer function. -/
def lift {α : Type} (m : Alloc α) : Mp4 τ α := fun s =>
  .ok (m s.allocs).1 { s with allocs := (m s.allocs).2 }

/-- `ERR(mux->write_callback(offset, buffer, size, mux->token))`. -/
def callback (offset : Nat) (buffer : Bytes) : Mp4 τ PUnit := fun s =>
  let r := writeCallback offset buffer s.token
  if r.1 = 0 then .ok ⟨⟩ { s with token := r.2 } else .error r.1 { s with token := r.2 }

/-- `mux->write_pos += bytes`. -/
def Muxing.advance (s : Muxing τ) (bytes : Nat) : Muxing τ :=
  { s with mux := { s.mux with writePos := s.mux.writePos + bytes } }

/-- The write of a buffer at `write_pos`, followed by the update of `write_pos`. -/
def writeNext (buffer : Bytes) : Mp4 τ PUnit := do
  let s ← get
  callback writeCallback s.mux.writePos buffer
  modify fun s => s.advance buffer.length

/-- The last write of `mp4e_flush_index`, which moves `write_pos` on even when it
fails. -/
def writeLast (buffer : Bytes) : Mp4 τ PUnit := fun s =>
  match callback writeCallback s.mux.writePos buffer s with
  | .ok _ t => .ok ⟨⟩ (t.advance buffer.length)
  | .error e t => .error e (t.advance buffer.length)

/-- The last sample descriptor, completed with its size and offset. -/
def completeLast (size offset : Nat) (samples : List Sample) : List Sample :=
  samples.modify (samples.length - 1) fun smp => { smp with size := size, offset := offset }

/-- `write_pending_data`. -/
def writePendingData (trackNum : Nat) : Mp4 τ PUnit := do
  let s ← get
  let pending := (s.mux.track trackNum).pendingSample.data
  let smpl := (s.mux.track trackNum).smpl
  onlyIf (0 < pending.length ∧ sizeofSample ≤ smpl.data.length * sizeofSample) do
    writeNext writeCallback
      (write4 (pending.length + 8) ++ write4 (fourCharInt 'm' 'd' 'a' 't'))
    modify fun s => s.mapTrack trackNum fun tr =>
      { tr with smpl :=
        { tr.smpl with data := completeLast pending.length s.mux.writePos tr.smpl.data } }
    writeNext writeCallback pending
    modify fun s => s.mapTrack trackNum fun tr =>
      { tr with pendingSample := { tr.pendingSample with data := [] } }

/-- `add_sample_descriptor`; `kind` is kept as the random access flag. -/
def addSampleDescriptor (trackNum dataBytes duration : Nat) (kind : SampleKind) :
    Mp4 τ Bool := do
  let s ← get
  let smp : Sample :=
    { size := dataBytes, offset := s.mux.writePos,
      duration := if duration ≠ 0 then duration else defaultDuration,
      flagRandomAccess := kind = .randomAccess }
  let r ← lift (minimp4VectorPut sizeofSample (s.mux.track trackNum).smpl [smp])
  modify fun s => s.mapTrack trackNum fun tr => { tr with smpl := r.2 }
  pure r.1

/-- The header at offset 24 that `mp4e_flush_index` rewrites outside sequential
mode: the sample data so far become one `mdat` box. -/
def mdatHeader (writePos : Nat) : Bytes :=
  let size := writePos - boxFtyp.length
  if 0xfffffffe < size then
    write4 1 ++ write4 (fourCharInt 'm' 'd' 'a' 't') ++ write4 (size >>> 32) ++ write4 size
  else
    write4 8 ++ write4 (fourCharInt 'f' 'r' 'e' 'e') ++
      write4 (size - 8) ++ write4 (fourCharInt 'm' 'd' 'a' 't')

/-- `mp4e_flush_index`. -/
def mp4eFlushIndex : Mp4 τ PUnit := do
  let s ← get
  (List.range s.mux.tracks.length).forM (writePendingData writeCallback)
  let base ← lift malloc
  if !base then throw mp4eStatusNoMemory
  else do
    let s ← get
    onlyIf (s.mux.sequentialModeFlag = false)
      (callback writeCallback boxFtyp.length (mdatHeader s.mux.writePos))
    writeLast writeCallback (boxMoov s.mux.enableFragmentation s.mux.tracks)

/-- `mp4e_write_fragment_header`. -/
def mp4eWriteFragmentHeader (trackNum dataBytes duration : Nat) (kind : SampleKind) :
    Mp4 τ PUnit := do
  let s ← get
  writeNext writeCallback (boxMoof s.mux.fragmentsCount trackNum dataBytes duration kind)
  modify fun s => { s with mux :=
    { s.mux with fragmentDurations := s.mux.fragmentDurations ++ [duration] } }

/-- `mp4e_write_mdat_box`. -/
def mp4eWriteMdatBox (size : Nat) : Mp4 τ PUnit :=
  writeNext writeCallback (write4 size ++ write4 (fourCharInt 'm' 'd' 'a' 't'))

/-- The fragmentation branch of `MP4E_put_sample`. -/
def putFragment (trackNum : Nat) (data : Bytes) (duration : Nat) (kind : SampleKind) :
    Mp4 τ PUnit := do
  let s ← get
  modify fun s => { s with mux := { s.mux with fragmentsCount := s.mux.fragmentsCount + 1 } }
  onlyIf (s.mux.fragmentsCount = 0) (mp4eFlushIndex writeCallback)
  mp4eWriteFragmentHeader writeCallback trackNum data.length duration kind
  mp4eWriteMdatBox writeCallback (data.length + 8)
  writeNext writeCallback data

/-- The sample descriptor of a non-fragmented file: a new one, after the pending
sample has been written, or in standard mode a longer last one. -/
def putDescriptor (trackNum : Nat) (data : Bytes) (duration : Nat) (kind : SampleKind) :
    Mp4 τ PUnit := do
  let s ← get
  if kind ≠ .continuation then do
    onlyIf s.mux.sequentialModeFlag (writePendingData writeCallback trackNum)
    let ok ← addSampleDescriptor trackNum data.length duration kind
    onlyIf (ok = false) (throw mp4eStatusNoMemory)
  else if !s.mux.sequentialModeFlag then
    if (s.mux.track trackNum).smpl.data.isEmpty then throw mp4eStatusNoMemory
    else
      modify fun s => s.mapTrack trackNum fun tr =>
        { tr with smpl :=
          { tr.smpl with data := tr.smpl.data.modify (tr.smpl.data.length - 1) fun smp =>
              { smp with size := smp.size + data.length } } }
  else pure ⟨⟩

/-- The sample data of a non-fragmented file, kept back in sequential mode. -/
def putData (trackNum : Nat) (data : Bytes) : Mp4 τ PUnit := do
  let s ← get
  if s.mux.sequentialModeFlag then do
    let r ← lift (minimp4VectorPut 1 (s.mux.track trackNum).pendingSample data)
    modify fun s => s.mapTrack trackNum fun tr => { tr with pendingSample := r.2 }
    onlyIf (r.1 = false) (throw mp4eStatusNoMemory)
  else writeNext writeCallback data

/-- `MP4E_put_sample`. -/
def mp4ePutSample (trackNum : Nat) (data : Bytes) (duration : Nat) (kind : SampleKind) :
    Mp4 τ PUnit := do
  let s ← get
  if s.mux.enableFragmentation then putFragment writeCallback trackNum data duration kind
  else do
    putDescriptor writeCallback trackNum data duration kind
    putData writeCallback trackNum data

/-! ## Opening and closing -/

/-- `MP4E_open`: the muxer, if it was opened, and what is left of the token and of
the allocator's answers. -/
def mp4eOpen (sequentialModeFlag enableFragmentation : Bool) (token : τ)
    (allocs : List Bool) : Option Mux × τ × List Bool :=
  let r := writeCallback 0 boxFtyp token
  if r.1 ≠ 0 then (none, r.2, allocs)
  else if !(malloc allocs).1 then (none, r.2, allocs.tail)
  else
    let mux : Mux :=
      { writePos := boxFtyp.length,
        sequentialModeFlag := sequentialModeFlag || enableFragmentation,
        enableFragmentation := enableFragmentation }
    if !mux.sequentialModeFlag then
      let r := writeCallback mux.writePos (boxFtyp.take 8) r.2
      if r.1 ≠ 0 then (none, r.2, allocs.tail)
      else (some { mux with writePos := mux.writePos + 16 }, r.2, allocs.tail)
    else (some mux, r.2, allocs.tail)

/-- `MP4E_add_track` for a video track. -/
def mp4eAddTrack (mux : Mux) (width height : Nat) : Nat × Mux :=
  (mux.tracks.length,
    { mux with tracks := mux.tracks ++
      [{ width := width, height := height, smpl := { allocated := true, capacity := 256 } }] })

/-- `mp4_h26x_write_init` with `is_hevc` set. -/
def mp4H26xWriteInit (mux : Mux) (width height : Nat) : Int × H26xWriter × Mux :=
  let r := mp4eAddTrack mux width height
  (mp4eStatusOk,
    { muxTrackId := r.1, needVps := true, needSps := true, needPps := true, needIdr := true },
    r.2)

/-- `MP4E_close`; what it frees is not part of the state. -/
def mp4eClose : Mp4 τ PUnit := do
  let s ← get
  onlyIf (s.mux.enableFragmentation = false) (mp4eFlushIndex writeCallback)

/-! ## NAL units -/

/-- `find_start_code`: the bytes after the start code and its length, or no bytes
and 0.  `zeroCnt` zero bytes precede the bytes still to be scanned. -/
def findStartCode : Nat → Bytes → Bytes × Nat
  | _, [] => ([], 0)
  | zeroCnt, byte :: rest =>
      if byte = 0 then findStartCode (zeroCnt + 1) rest
      else if 2 ≤ zeroCnt ∧ byte = 1 then (rest, zeroCnt + 1)
      else findStartCode 0 rest

/-- `find_nal_unit`: the bytes from the start of the NAL unit on, and its length.
The zero bytes before the end of the data do not count. -/
def findNalUnit (data : Bytes) : Bytes × Nat :=
  let start := (findStartCode 0 data).1
  let stop := findStartCode 0 start
  let unit := start.take (start.length - stop.1.length)
  let trimmed := (unit.reverse.dropWhile fun byte => byte = 0).reverse
  (start, trimmed.length - stop.2)

/-- The NAL units the loop of `mp4_h26x_write_nal` visits, one byte of the data
being used up at least in each turn. -/
def nalUnitsFrom : Nat → Bytes → List Bytes
  | 0, _ => []
  | fuel + 1, data =>
      let r := findNalUnit data
      if r.2 = 0 then [] else r.1.take r.2 :: nalUnitsFrom fuel (r.1.drop 1)

/-- The NAL units of an access unit. -/
def nalUnits (data : Bytes) : List Bytes :=
  nalUnitsFrom (data.length + 1) data

/-- The search leaves no more than it was given. -/
theorem findStartCode_length_le (zeroCnt : Nat) (data : Bytes) :
    (findStartCode zeroCnt data).1.length ≤ data.length := by
  induction data generalizing zeroCnt with
  | nil => simp [findStartCode]
  | cons byte rest ih =>
      unfold findStartCode
      split
      · have := ih (zeroCnt + 1)
        simp only [List.length_cons]
        omega
      · split
        · simp
        · have := ih 0
          simp only [List.length_cons]
          omega

/-- A NAL unit that is not empty leaves fewer bytes to the next turn. -/
theorem findNalUnit_progress {data : Bytes} (h : (findNalUnit data).2 ≠ 0) :
    ((findNalUnit data).1.drop 1).length < data.length := by
  have hstart : (findNalUnit data).1.length ≤ data.length := findStartCode_length_le 0 data
  have hne : (findNalUnit data).1 ≠ [] := by
    intro hnil
    apply h
    have hstop : (findStartCode 0 data).1 = [] := hnil
    simp [findNalUnit, hstop, findStartCode]
  have hpos : 0 < (findNalUnit data).1.length := List.length_pos_iff.mpr hne
  rw [List.length_drop]
  omega

/-- More turns than bytes are never used: the loop ends by itself. -/
theorem nalUnitsFrom_enough {data : Bytes} {fuel : Nat} (h : data.length < fuel) :
    nalUnitsFrom fuel data = nalUnits data := by
  suffices hstep : ∀ (n m : Nat) (data : Bytes), data.length < n → data.length < m →
      nalUnitsFrom n data = nalUnitsFrom m data from
    hstep fuel (data.length + 1) data h (Nat.lt_succ_self _)
  intro n
  induction n with
  | zero =>
      intro m data hn
      omega
  | succ n ih =>
      intro m data hn hm
      obtain ⟨m, rfl⟩ : ∃ k, m = k + 1 := ⟨m - 1, by omega⟩
      simp only [nalUnitsFrom]
      by_cases hzero : (findNalUnit data).2 = 0
      · simp [hzero]
      · have hless := findNalUnit_progress hzero
        simp only [hzero, if_false]
        rw [ih m ((findNalUnit data).1.drop 1) (by omega) (by omega)]

/-! ## The HEVC writer -/

/-- `HEVC_NAL_VPS`. -/
def hevcNalVps : Nat := 32

/-- `HEVC_NAL_SPS`. -/
def hevcNalSps : Nat := 33

/-- `HEVC_NAL_PPS`. -/
def hevcNalPps : Nat := 34

/-- `HEVC_NAL_BLA_W_LP`. -/
def hevcNalBlaWLp : Nat := 16

/-- `HEVC_NAL_CRA_NUT`. -/
def hevcNalCraNut : Nat := 21

/-- The parameter set vectors of a track. -/
inductive ParameterSet
  | vps
  | sps
  | pps
deriving DecidableEq, Repr

/-- The vector of a kind of parameter sets. -/
def Track.parameterSets (tr : Track) : ParameterSet → Vec UInt8
  | .vps => tr.vvps
  | .sps => tr.vsps
  | .pps => tr.vpps

/-- Replace the vector of a kind of parameter sets. -/
def Track.setParameterSets (tr : Track) (v : Vec UInt8) : ParameterSet → Track
  | .vps => { tr with vvps := v }
  | .sps => { tr with vsps := v }
  | .pps => { tr with vpps := v }

/-- What `MP4E_set_vps`, `MP4E_set_sps` and `MP4E_set_pps` have in common. -/
def mp4eSetParameterSet (kind : ParameterSet) (trackId : Nat) (item : Bytes) : Mp4 τ Int := do
  let s ← get
  let r ← lift (appendMem ((s.mux.track trackId).parameterSets kind) item)
  modify fun s => s.mapTrack trackId fun tr => tr.setParameterSets r.2 kind
  pure (if r.1 then mp4eStatusOk else mp4eStatusNoMemory)

/-- `MP4E_set_vps`. -/
def mp4eSetVps (trackId : Nat) (vps : Bytes) : Mp4 τ Int :=
  mp4eSetParameterSet .vps trackId vps

/-- `MP4E_set_sps`. -/
def mp4eSetSps (trackId : Nat) (sps : Bytes) : Mp4 τ Int :=
  mp4eSetParameterSet .sps trackId sps

/-- `MP4E_set_pps`. -/
def mp4eSetPps (trackId : Nat) (pps : Bytes) : Mp4 τ Int :=
  mp4eSetParameterSet .pps trackId pps

/-- The payload type in the first byte of a NAL unit. -/
def payloadType (nal : Bytes) : Nat :=
  ((nal.headD 0).toNat >>> 1) &&& 0x3f

/-- `is_intra` of `mp4_h265_write_nal`. -/
def isIntra (nal : Bytes) : Bool :=
  hevcNalBlaWLp ≤ payloadType nal && payloadType nal ≤ hevcNalCraNut

/-- Change the writer. -/
def Muxing.mapWriter (s : Muxing τ) (f : H26xWriter → H26xWriter) : Muxing τ :=
  { s with writer := f s.writer }

/-- An intra unit that comes after all parameter sets ends the wait for the
IDR. -/
def H26xWriter.sawIntra (h : H26xWriter) (intra : Bool) : H26xWriter :=
  if intra && !h.needSps && !h.needPps && !h.needVps then { h with needIdr := false } else h

/-- The default case of `mp4_h265_write_nal`: a slice, or any unit that is not a
parameter set, becomes a sample with a length prefix. -/
def writeSample (nal : Bytes) (timeStamp90kHzNext : Nat) : Mp4 τ PUnit := do
  let s ← get
  if s.writer.lacks then throw mp4eStatusBadArguments
  else do
    let tmp ← lift malloc
    if !tmp then throw mp4eStatusNoMemory
    else
      mp4ePutSample writeCallback s.writer.muxTrackId (write4 nal.length ++ nal)
        timeStamp90kHzNext (if isIntra nal then .randomAccess else .default)

/-- `mp4_h265_write_nal`.  The statuses of the parameter set calls are
ignored. -/
def mp4H265WriteNal (timeStamp90kHzNext : Nat) (nal : Bytes) : Mp4 τ PUnit := do
  modify fun s => s.mapWriter fun h => h.sawIntra (isIntra nal)
  let s ← get
  if payloadType nal = hevcNalVps then do
    let _ ← mp4eSetVps s.writer.muxTrackId nal
    modify fun s => s.mapWriter fun h => { h with needVps := false }
  else if payloadType nal = hevcNalSps then do
    let _ ← mp4eSetSps s.writer.muxTrackId nal
    modify fun s => s.mapWriter fun h => { h with needSps := false }
  else if payloadType nal = hevcNalPps then do
    let _ ← mp4eSetPps s.writer.muxTrackId nal
    modify fun s => s.mapWriter fun h => { h with needPps := false }
  else writeSample writeCallback nal timeStamp90kHzNext

/-- `mp4_h26x_write_nal` of an HEVC writer. -/
def mp4H26xWriteNal (data : Bytes) (timeStamp90kHzNext : Nat) : Mp4 τ PUnit :=
  (nalUnits data).forM (mp4H265WriteNal writeCallback timeStamp90kHzNext)

end Callback

end Minimp4
end PixelPilot
