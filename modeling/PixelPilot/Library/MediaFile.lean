import Mathlib.Data.List.Forall2
import PixelPilot.Library.BoxFile

/-!
# The samples of a media file

How a player finds the samples of a track in a file of the ISO base media file format: by the
tables of the index, or by the track runs of the fragments.

Main results:

- Definitions `timeToSample`, `sampleSizes`, `sampleToChunk`, `chunkOffsets` and `syncSamples`:
  the tables of an index.
- Definitions `fragmentHeader` and `trackRun`: the description of a fragment.
- Definition `samples`: the samples of a file with one track.
- Theorem `indexedSamples_eq`: what an index with one sample in each chunk says.
- Theorem `fragmentSamples_eq`: what a fragment with one sample says.

Current gaps:

- Only the first track run of a fragment counts, and composition offsets are skipped.
-/

namespace MediaFile

open ByteReader ByteReader.Reader BoxFile

/-- A sample: its bytes, its duration, and whether a player may begin with it. -/
structure MediaSample where
  data : List UInt8
  duration : Nat
  sync : Bool
deriving DecidableEq, Repr

/-! ## The tables of an index -/

/-- A table with four bytes of version and flags and a count in front. -/
def table {α : Type} (entry : Reader α) : Reader (List α) := do
  let _ ← uint 4
  let count ← uint 4
  times count entry

/-- Two numbers of four bytes. -/
def twoNumbers : Reader (Nat × Nat) := do
  let first ← uint 4
  let second ← uint 4
  return (first, second)

/-- `stts`: runs of samples with the same duration. -/
def timeToSample : Reader (List (Nat × Nat)) :=
  table twoNumbers

/-- The durations that the runs stand for. -/
def expand (runs : List (Nat × Nat)) : List Nat :=
  runs.flatMap fun run => List.replicate run.1 run.2

/-- `stsz`: one size for all samples, or one for each. -/
def sampleSizes : Reader (List Nat) := do
  let _ ← uint 4
  let size ← uint 4
  let count ← uint 4
  if size = 0 then times count (uint 4) else return List.replicate count size

/-- `stsc`: from which chunk on there are how many samples in a chunk. -/
def sampleToChunk : Reader (List (Nat × Nat)) :=
  table do
    let entry ← twoNumbers
    let _ ← uint 4
    return entry

/-- `stco` or `co64`: where the chunks begin. -/
def chunkOffsets (w : Nat) : Reader (List Nat) :=
  table (uint w)

/-- `stss`: the numbers of the samples a player may begin with. -/
def syncSamples : Reader (List Nat) :=
  table (uint 4)

/-- The number of samples in a chunk.  Chunks are counted from 1. -/
def samplesInChunk (entries : List (Nat × Nat)) (chunk : Nat) : Nat :=
  ((entries.filter fun e => e.1 ≤ chunk).getLast?.map Prod.snd).getD 0

/-- The places of samples one behind the other. -/
def inChunk : Nat → List Nat → List (Nat × Nat)
  | _, [] => []
  | offset, size :: sizes => (offset, size) :: inChunk (offset + size) sizes

/-- The places of all samples, for chunks with their offsets and numbers of samples. -/
def places : List (Nat × Nat) → List Nat → List (Nat × Nat)
  | [], _ => []
  | (offset, count) :: chunks, sizes =>
      inChunk offset (sizes.take count) ++ places chunks (sizes.drop count)

/-- The bytes at a place of a file. -/
def bytesAt (file : List UInt8) (place : Nat × Nat) : Option (List UInt8) :=
  if place.1 + place.2 ≤ file.length then some ((file.drop place.1).take place.2) else none

/-- The samples with their durations and marks. -/
def assemble (data : List (List UInt8)) (durations : List Nat) (sync : Nat → Bool) :
    List MediaSample :=
  (data.zip durations).zipIdx.map fun s => ⟨s.1.1, s.1.2, sync (s.2 + 1)⟩

/-- The offsets of the chunks in either table. -/
def offsetsOf (bs : List (Nat × Box)) : Option (List Nat) :=
  match content (code 's' 't' 'c' 'o') bs with
  | some c => run (chunkOffsets 4) c
  | none => (content (code 'c' 'o' '6' '4') bs).bind (run (chunkOffsets 8))

/-- The marks; without a table a player may begin with any sample. -/
def syncOf (bs : List (Nat × Box)) : Option (Nat → Bool) :=
  match content (code 's' 't' 's' 's') bs with
  | some c => (run syncSamples c).map fun numbers n => numbers.contains n
  | none => some fun _ => true

/-- The path from a track to its tables. -/
def tablesPath : List Nat :=
  [code 'm' 'd' 'i' 'a', code 'm' 'i' 'n' 'f', code 's' 't' 'b' 'l']

/-- The samples that the index of a track says are in the file. -/
def indexedSamples (file trak : List UInt8) : Option (List MediaSample) := do
  let stbl ← descend tablesPath trak
  let bs ← boxes stbl
  let runs ← (content (code 's' 't' 't' 's') bs).bind (run timeToSample)
  let sizes ← (content (code 's' 't' 's' 'z') bs).bind (run sampleSizes)
  let entries ← (content (code 's' 't' 's' 'c') bs).bind (run sampleToChunk)
  let offsets ← offsetsOf bs
  let sync ← syncOf bs
  let chunks := offsets.zipIdx.map fun c => (c.1, samplesInChunk entries (c.2 + 1))
  let data ← (places chunks sizes).mapM (bytesAt file)
  if data.length = sizes.length ∧ (expand runs).length = sizes.length then
    return assemble data (expand runs) sync
  else none

/-! ## Fragments -/

/-- What the samples of a fragment have unless their run says otherwise. -/
structure Defaults where
  duration : Nat
  size : Nat
  flags : Nat
deriving DecidableEq, Repr

/-- `tfhd`. -/
def fragmentHeader : Reader Defaults := do
  let flags ← uint 4
  let _ ← uint 4
  let _ ← ifPresent (flags.testBit 0) (uint 8) 0
  let _ ← ifPresent (flags.testBit 1) (uint 4) 0
  let duration ← ifPresent (flags.testBit 3) (uint 4) 0
  let size ← ifPresent (flags.testBit 4) (uint 4) 0
  let sampleFlags ← ifPresent (flags.testBit 5) (uint 4) 0
  return ⟨duration, size, sampleFlags⟩

/-- A sample in `trun`. -/
def runEntry (flags : Nat) (defaults : Defaults) : Reader Defaults := do
  let duration ← ifPresent (flags.testBit 8) (uint 4) defaults.duration
  let size ← ifPresent (flags.testBit 9) (uint 4) defaults.size
  let sampleFlags ← ifPresent (flags.testBit 10) (uint 4) defaults.flags
  let _ ← ifPresent (flags.testBit 11) (uint 4) 0
  return ⟨duration, size, sampleFlags⟩

/-- The first sample of a run may have flags of its own. -/
def withFirstFlags (first : Option Nat) (entries : List Defaults) : List Defaults :=
  match first, entries with
  | some flags, e :: es => { e with flags } :: es
  | _, es => es

/-- `trun`: the offset of the data and the samples. -/
def trackRun (defaults : Defaults) : Reader (Nat × List Defaults) := do
  let flags ← uint 4
  let count ← uint 4
  let offset ← ifPresent (flags.testBit 0) (uint 4) 0
  let first ← ifPresent (flags.testBit 2) (do let n ← uint 4; return some n) none
  let entries ← times count (runEntry flags defaults)
  return (offset, withFirstFlags first entries)

/-- The samples of a fragment whose `moof` box begins at `pos`.  A sample is marked if its
flags do not say that it needs others. -/
def fragmentSamples (file : List UInt8) (pos : Nat) (moof : List UInt8) :
    Option (List MediaSample) := do
  let traf ← descend [code 't' 'r' 'a' 'f'] moof
  let bs ← boxes traf
  let defaults ← (content (code 't' 'f' 'h' 'd') bs).bind (run fragmentHeader)
  let described ← (content (code 't' 'r' 'u' 'n') bs).bind (run (trackRun defaults))
  let data ← (inChunk (pos + described.1) (described.2.map Defaults.size)).mapM (bytesAt file)
  return data.zipWith (fun d e => ⟨d, e.duration, !e.flags.testBit 16⟩) described.2

/-! ## Files -/

/-- The boxes with a name. -/
def named (name : Nat) (bs : List (Nat × Box)) : List (Nat × Box) :=
  bs.filter fun b => b.2.name = name

/-- The samples of a file with one track: those of the index, then those of the fragments. -/
def samples (file : List UInt8) : Option (List MediaSample) := do
  let top ← boxes file
  let moov ← content (code 'm' 'o' 'o' 'v') top
  let parts ← boxes moov
  let indexed ← (named (code 't' 'r' 'a' 'k') parts).mapM fun p =>
    indexedSamples file p.2.content
  let fragments ← (named (code 'm' 'o' 'o' 'f') top).mapM fun p =>
    fragmentSamples file p.1 p.2.content
  return indexed.flatten ++ fragments.flatten

/-! ## Reading tables back -/

section Tables

variable {γ : Type} {entries : List γ}

/-- A table is read back if its entries are. -/
theorem reads_table {α : Type} {r : Reader α} {write : γ → List UInt8} {value : γ → α}
    {flags : Nat} (hflags : flags < 256 ^ 4) (hcount : entries.length < 256 ^ 4)
    (h : ∀ e ∈ entries, Reads r (write e) (value e)) :
    Reads (table r)
      (bigEndian 4 flags ++ (bigEndian 4 entries.length ++ entries.flatMap write))
      (entries.map value) :=
  (reads_uint hflags).bind ((reads_uint hcount).bind (reads_times h))

theorem reads_twoNumbers {m n : Nat} (hm : m < 256 ^ 4) (hn : n < 256 ^ 4) :
    Reads twoNumbers (bigEndian 4 m ++ bigEndian 4 n) (m, n) :=
  (reads_uint hm).bind ((reads_uint hn).map fun n => (m, n))

/-- A table of sizes, one for each sample. -/
theorem reads_sampleSizes {size : γ → Nat} (hcount : entries.length < 256 ^ 4)
    (h : ∀ e ∈ entries, size e < 256 ^ 4) :
    Reads sampleSizes
      (bigEndian 4 0 ++ (bigEndian 4 0 ++ (bigEndian 4 entries.length ++
        entries.flatMap fun e => bigEndian 4 (size e))))
      (entries.map size) := by
  refine (reads_uint (by decide)).bind ((reads_uint (by decide)).bind
    ((reads_uint hcount).bind ?_))
  rw [if_pos rfl]
  exact reads_times fun e he => reads_uint (h e he)

/-- Chunks with one sample each. -/
theorem reads_sampleToChunk :
    Reads sampleToChunk
      (bigEndian 4 0 ++ (bigEndian 4 1 ++ (bigEndian 4 1 ++ bigEndian 4 1 ++ bigEndian 4 1)))
      [(1, 1)] := by
  have hentry : Reads (do
      let entry ← twoNumbers
      let _ ← uint 4
      return entry) (bigEndian 4 1 ++ bigEndian 4 1 ++ bigEndian 4 1) (1, 1) :=
    (reads_twoNumbers (by decide) (by decide)).bind
      ((reads_uint (w := 4) (x := 1) (by decide)).map fun _ => (1, 1))
  have hzero : 0 < 256 ^ 4 := by decide
  have hone : [()].length < 256 ^ 4 := by decide
  have htable := reads_table hzero hone fun _ _ => hentry
  rwa [List.flatMap_singleton] at htable

end Tables

/-! ## One sample in each chunk -/

/-- With a single run of one sample for each chunk, every chunk has one. -/
theorem samplesInChunk_one {chunk : Nat} (h : 1 ≤ chunk) : samplesInChunk [(1, 1)] chunk = 1 := by
  simp [samplesInChunk, h]

/-- With one sample in a chunk the offsets are those of the chunks. -/
theorem places_ones (offsets sizes : List Nat) :
    places (offsets.map fun o => (o, 1)) sizes = offsets.zip sizes := by
  induction offsets generalizing sizes with
  | nil => simp [places]
  | cons o offsets ih =>
      cases sizes with
      | nil =>
          rw [List.map_cons, places, ih]
          simp [inChunk]
      | cons size sizes =>
          rw [List.map_cons, places, List.drop_one, List.tail_cons, ih]
          simp [inChunk]

/-- The bytes between others. -/
theorem bytesAt_between (front bytes back : List UInt8) :
    bytesAt (front ++ (bytes ++ back)) (front.length, bytes.length) = some bytes := by
  rw [bytesAt, if_pos (by simp), List.drop_left, List.take_left]

/-- The data of all samples, from the places that lead to them. -/
theorem mapM_bytesAt {file : List UInt8} {offsets : List Nat} {ss : List MediaSample}
    (h : List.Forall₂ (fun o s => bytesAt file (o, s.data.length) = some s.data) offsets ss) :
    (offsets.zip (ss.map fun s => s.data.length)).mapM (bytesAt file) =
      some (ss.map MediaSample.data) := by
  induction h with
  | nil => rfl
  | cons hs _ ih =>
      rw [List.map_cons, List.zip_cons_cons, List.mapM_cons, hs, ih]
      rfl

/-- A file with the right marks assembles to its samples. -/
theorem assemble_eq {ss : List MediaSample} {sync : Nat → Bool}
    (h : ∀ i s, ss[i]? = some s → sync (i + 1) = s.sync) :
    assemble (ss.map MediaSample.data) (ss.map MediaSample.duration) sync = ss := by
  apply List.ext_getElem
  · simp [assemble]
  · intro i hi hi'
    have hsync := h i ss[i] (List.getElem?_eq_getElem hi')
    simp [assemble, hsync]

/-- An index whose tables describe the samples, with one of them in each chunk. -/
theorem indexedSamples_eq {file trak stbl : List UInt8} {bs : List (Nat × Box)}
    {runs entries : List (Nat × Nat)} {offsets : List Nat} {sync : Nat → Bool}
    {ss : List MediaSample} (hstbl : descend tablesPath trak = some stbl)
    (hbs : Spells 0 stbl bs)
    (hruns : (content (code 's' 't' 't' 's') bs).bind (run timeToSample) = some runs)
    (hexpand : expand runs = ss.map MediaSample.duration)
    (hsizes : (content (code 's' 't' 's' 'z') bs).bind (run sampleSizes) =
      some (ss.map fun s => s.data.length))
    (hentries : (content (code 's' 't' 's' 'c') bs).bind (run sampleToChunk) = some entries)
    (hone : ∀ i < ss.length, samplesInChunk entries (i + 1) = 1)
    (hoffsets : offsetsOf bs = some offsets) (hsync : syncOf bs = some sync)
    (hmarks : ∀ i s, ss[i]? = some s → sync (i + 1) = s.sync)
    (hdata : List.Forall₂ (fun o s => bytesAt file (o, s.data.length) = some s.data)
      offsets ss) :
    indexedSamples file trak = some ss := by
  have hlength : offsets.length = ss.length := hdata.length_eq
  have hchunks : (offsets.zipIdx.map fun c => (c.1, samplesInChunk entries (c.2 + 1))) =
      offsets.map fun o => (o, 1) := by
    apply List.ext_getElem
    · simp
    · intro i hi hi'
      have hin : i < ss.length := by simpa [hlength] using hi
      simp [hone i hin]
  unfold indexedSamples
  rw [hstbl, Option.bind_eq_bind, Option.bind_some, boxes_of_spells hbs]
  simp only [Option.bind_eq_bind, Option.bind_some, hruns, hsizes, hentries, hoffsets, hsync,
    hchunks, places_ones, mapM_bytesAt hdata, hexpand, List.length_map, and_self, if_true,
    assemble_eq hmarks]
  rfl

/-! ## One sample in each fragment -/

/-- A fragment whose run has one sample. -/
theorem fragmentSamples_eq {file moof traf data : List UInt8} {pos offset : Nat}
    {bs : List (Nat × Box)} {defaults e : Defaults}
    (htraf : descend [code 't' 'r' 'a' 'f'] moof = some traf) (hbs : Spells 0 traf bs)
    (hdefaults : (content (code 't' 'f' 'h' 'd') bs).bind (run fragmentHeader) = some defaults)
    (hrun : (content (code 't' 'r' 'u' 'n') bs).bind (run (trackRun defaults)) =
      some (offset, [e]))
    (hdata : bytesAt file (pos + offset, e.size) = some data) :
    fragmentSamples file pos moof = some [⟨data, e.duration, !e.flags.testBit 16⟩] := by
  unfold fragmentSamples
  rw [htraf, Option.bind_eq_bind, Option.bind_some, boxes_of_spells hbs]
  simp [hdefaults, hrun, inChunk, hdata]

end MediaFile
