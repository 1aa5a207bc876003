import Mathlib.Algebra.GroupWithZero.Nat
import Mathlib.Data.List.Basic

/-!
# The boxes of the bundled MP4 muxer

minimp4 builds its headers in a byte buffer with the macros `WRITE_n`, `ATOM`
and `END_ATOM`.  Here a box is the list of its bytes, and the size field that
`END_ATOM` patches is the length of that list.  Only the boxes of one HEVC video
track are built, as the recorder never adds another track or a text comment.

Main results:

- Definition `boxMoov`: the index `mp4e_flush_index` writes.
- Definition `boxMoof`: the header `mp4e_write_fragment_header` writes.
- Theorem `atom_sizeField`: the size field of a box, read back, is the number of
  its bytes modulo 2^32.

Current gaps:

- The buffer `mp4e_flush_index` allocates for the index is not bounded here: `Minimp4.IndexBuffer`
  compares the two.
-/

namespace PixelPilot
namespace Minimp4

abbrev Bytes := List UInt8

/-! ## Byte writers -/

/-- `WRITE_1`. -/
def write1 (x : Nat) : Bytes := [UInt8.ofNat x]

/-- `WRITE_2`. -/
def write2 (x : Nat) : Bytes := write1 (x >>> 8) ++ write1 x

/-- `WRITE_4`. -/
def write4 (x : Nat) : Bytes := write2 (x >>> 16) ++ write2 x

/-- `FOUR_CHAR_INT`. -/
def fourCharInt (a b c d : Char) : Nat :=
  a.toNat <<< 24 ||| b.toNat <<< 16 ||| c.toNat <<< 8 ||| d.toNat

/-- `ATOM(x) .. END_ATOM`. -/
def atom (box : Nat) (content : Bytes) : Bytes :=
  write4 (content.length + 8) ++ write4 box ++ content

/-- `ATOM_FULL(x, flag) .. END_ATOM`. -/
def atomFull (box flag : Nat) (content : Bytes) : Bytes :=
  atom box (write4 flag ++ content)

/-- `box_ftyp`. -/
def boxFtyp : Bytes :=
  atom (fourCharInt 'f' 't' 'y' 'p')
    (write4 (fourCharInt 'm' 'p' '4' '2') ++ write4 0 ++
      write4 (fourCharInt 'm' 'p' '4' '2') ++ write4 (fourCharInt 'i' 's' 'o' 'm'))

/-- The number that the first four bytes of a box spell. -/
def sizeField (bytes : Bytes) : Nat :=
  (bytes.take 4).foldl (fun n byte => n * 256 + byte.toNat) 0

@[simp]
theorem write4_length (x : Nat) : (write4 x).length = 4 := rfl

/-- A box is eight bytes longer than its content. -/
theorem atom_length (box : Nat) (content : Bytes) :
    (atom box content).length = content.length + 8 := by
  simp [atom]
  omega

/-- The size field of a box is the number of its bytes. -/
theorem atom_sizeField (box : Nat) (content : Bytes) :
    sizeField (atom box content) = (atom box content).length % 2 ^ 32 := by
  rw [atom_length]
  simp only [sizeField, atom, write4, write2, write1, List.cons_append, List.nil_append,
    List.take_succ_cons, List.take_zero, List.foldl_cons, List.foldl_nil,
    UInt8.toNat_ofNat', Nat.shiftRight_eq_div_pow]
  omega

example : sizeField boxFtyp = 24 ∧ boxFtyp.length = 24 := by decide

/-! ## Tracks -/

/-- `sample_t`. -/
structure Sample where
  size : Nat
  offset : Nat
  duration : Nat
  flagRandomAccess : Bool
deriving DecidableEq, Repr

/-- `sizeof(sample_t)`. -/
def sizeofSample : Nat := 24

/-- `minimp4_vector_t`; `allocated` says that its data pointer is not NULL and
`capacity` counts bytes. -/
structure Vec (α : Type) where
  data : List α := []
  allocated : Bool := false
  capacity : Nat := 0
deriving Repr

/-- `track_t` of an HEVC video track, with the fields of `MP4E_track_t` that
differ between recordings. -/
structure Track where
  width : Nat := 0
  height : Nat := 0
  smpl : Vec Sample := {}
  pendingSample : Vec UInt8 := {}
  vsps : Vec UInt8 := {}
  vpps : Vec UInt8 := {}
  vvps : Vec UInt8 := {}
deriving Repr

/-- `time_scale` of the track `mp4_h26x_write_init` adds. -/
def timeScale : Nat := 90000

/-- `default_duration` of the track `mp4_h26x_write_init` adds. -/
def defaultDuration : Nat := 0

/-- `get_duration`, a sum of 32-bit numbers. -/
def getDuration (tr : Track) : Nat :=
  (tr.smpl.data.map Sample.duration).sum % 2 ^ 32

/-- The loop of `items_count`, at the bytes from `i` on. -/
def itemsCountFrom : Nat → Bytes → Nat
  | 0, _ => 0
  | fuel + 1, a :: b :: c :: rest =>
      1 + itemsCountFrom fuel ((c :: rest).drop (a.toNat * 256 + b.toNat))
  | _ + 1, _ => 0

/-- `items_count`; every turn of its loop skips at least two bytes. -/
def itemsCount (v : Bytes) : Nat :=
  itemsCountFrom v.length v

/-! ## The index -/

/-- `MOOV_TIMESCALE`. -/
def moovTimescale : Nat := 1000

/-- The matrix written into `mvhd` and `tkhd`. -/
def unityMatrix : Bytes :=
  write4 0x00010000 ++ write4 0 ++ write4 0 ++
    write4 0 ++ write4 0x00010000 ++ write4 0 ++
    write4 0 ++ write4 0 ++ write4 0x40000000

/-- A duration in 90 kHz ticks in the time scale of the movie. -/
def movieDuration (tr : Track) : Nat :=
  getDuration tr * moovTimescale / timeScale

/-- `BOX_mvhd`. -/
def boxMvhd (tracks : List Track) : Bytes :=
  atomFull (fourCharInt 'm' 'v' 'h' 'd') 0
    (write4 0 ++ write4 0 ++
      (match tracks with
        | [] => []
        | tr :: _ => write4 moovTimescale ++ write4 (movieDuration tr)) ++
      write4 0x00010000 ++ write2 0x0100 ++ write2 0 ++ write4 0 ++ write4 0 ++
      unityMatrix ++
      write4 0 ++ write4 0 ++ write4 0 ++ write4 0 ++ write4 0 ++ write4 0 ++
      write4 (tracks.length + 1))

/-- `BOX_tkhd` of track number `ntr`. -/
def boxTkhd (ntr : Nat) (tr : Track) : Bytes :=
  atomFull (fourCharInt 't' 'k' 'h' 'd') 7
    (write4 0 ++ write4 0 ++ write4 (ntr + 1) ++ write4 0 ++ write4 (movieDuration tr) ++
      write4 0 ++ write4 0 ++ write2 0 ++ write2 0 ++ write2 0x0100 ++ write2 0 ++
      unityMatrix ++
      write4 (tr.width * 0x10000) ++ write4 (tr.height * 0x10000))

/-- The language code of "und". -/
def langCode : Nat :=
  ('u'.toNat &&& 31) <<< 10 ||| ('n'.toNat &&& 31) <<< 5 ||| ('d'.toNat &&& 31)

/-- `BOX_mdhd`. -/
def boxMdhd (tr : Track) : Bytes :=
  atomFull (fourCharInt 'm' 'd' 'h' 'd') 0
    (write4 0 ++ write4 0 ++ write4 timeScale ++ write4 (getDuration tr) ++
      write2 langCode ++ write2 0)

/-- `BOX_hdlr`, with `MP4E_HANDLER_TYPE_VIDE` and its terminated name. -/
def boxHdlr : Bytes :=
  atomFull (fourCharInt 'h' 'd' 'l' 'r') 0
    (write4 0 ++ write4 0x76696465 ++ write4 0 ++ write4 0 ++ write4 0 ++
      ("VideoHandler".toList.flatMap fun c => write1 c.toNat) ++ write1 0)

/-- `BOX_hvcC`.  The number of VPS items is counted in the PPS vector, as in the
source. -/
def boxHvcC (tr : Track) : Bytes :=
  atom (fourCharInt 'h' 'v' 'c' 'C')
    (write1 1 ++ write1 1 ++ write4 0x60000000 ++ write2 0 ++ write4 0 ++ write1 0 ++
      write2 0xf000 ++ write1 0xfc ++ write1 0xfc ++ write1 0xf8 ++ write1 0xf8 ++
      write2 0 ++ write1 3 ++ write1 3 ++
      write1 (0x80 ||| 32) ++ write2 (itemsCount tr.vpps.data) ++ tr.vvps.data ++
      write1 (0x80 ||| 33) ++ write2 (itemsCount tr.vsps.data) ++ tr.vsps.data ++
      write1 (0x80 ||| 34) ++ write2 (itemsCount tr.vpps.data) ++ tr.vpps.data)

/-- `BOX_stsd` with its `BOX_hvc1` entry. -/
def boxStsd (tr : Track) : Bytes :=
  atomFull (fourCharInt 's' 't' 's' 'd') 0
    (write4 1 ++
      atom (fourCharInt 'h' 'v' 'c' '1')
        (write2 0 ++ write2 0 ++ write2 0 ++ write2 1 ++
          write2 0 ++ write2 0 ++ write4 0 ++ write4 0 ++ write4 0 ++
          write2 tr.width ++ write2 tr.height ++
          write4 0x00480000 ++ write4 0x00480000 ++ write4 0 ++ write2 1 ++
          List.replicate 32 0 ++ write2 24 ++ write2 0xffff ++
          boxHvcC tr))

/-- The entries of `BOX_stts`: runs of equal durations, `cnt` being the length of
the current run with the next sample. -/
def sttsEntries : Nat → List Sample → List (Nat × Nat)
  | _, [] => []
  | cnt, [s] => [(cnt, s.duration)]
  | cnt, s :: t :: rest =>
      if s.duration = t.duration then sttsEntries (cnt + 1) (t :: rest)
      else (cnt, s.duration) :: sttsEntries 1 (t :: rest)

/-- `BOX_stts`. -/
def boxStts (samples : List Sample) : Bytes :=
  atomFull (fourCharInt 's' 't' 't' 's') 0
    (write4 (sttsEntries 1 samples).length ++
      (sttsEntries 1 samples).flatMap fun e => write4 e.1 ++ write4 e.2)

/-- `BOX_stsc`. -/
def boxStsc (enableFragmentation : Bool) : Bytes :=
  atomFull (fourCharInt 's' 't' 's' 'c') 0
    (if enableFragmentation then write4 0
      else write4 1 ++ write4 1 ++ write4 1 ++ write4 1)

/-- `BOX_stsz`. -/
def boxStsz (samples : List Sample) : Bytes :=
  atomFull (fourCharInt 's' 't' 's' 'z') 0
    (write4 0 ++ write4 samples.length ++ samples.flatMap fun s => write4 s.size)

/-- `BOX_stco`, or `BOX_co64` when the last offset needs it. -/
def boxStco (samples : List Sample) : Bytes :=
  if samples.getLast?.any fun s => 0xffffffff < s.offset then
    atomFull (fourCharInt 'c' 'o' '6' '4') 0
      (write4 samples.length ++
        samples.flatMap fun s => write4 (s.offset >>> 32) ++ write4 s.offset)
  else
    atomFull (fourCharInt 's' 't' 'c' 'o') 0
      (write4 samples.length ++ samples.flatMap fun s => write4 s.offset)

/-- `BOX_stss`, left out when every sample is a random access point. -/
def boxStss (samples : List Sample) : Bytes :=
  let raCount := samples.countP Sample.flagRandomAccess
  if raCount = samples.length then []
  else
    atomFull (fourCharInt 's' 't' 's' 's') 0
      (write4 raCount ++
        samples.zipIdx.flatMap fun s => if s.1.flagRandomAccess then write4 (s.2 + 1) else [])

/-- `BOX_stbl`. -/
def boxStbl (enableFragmentation : Bool) (samples : List Sample) (tr : Track) : Bytes :=
  atom (fourCharInt 's' 't' 'b' 'l')
    (boxStsd tr ++ boxStts samples ++ boxStsc enableFragmentation ++ boxStsz samples ++
      boxStco samples ++ boxStss samples)

/-- `BOX_minf`. -/
def boxMinf (enableFragmentation : Bool) (samples : List Sample) (tr : Track) : Bytes :=
  atom (fourCharInt 'm' 'i' 'n' 'f')
    (atomFull (fourCharInt 'v' 'm' 'h' 'd') 1 (write2 0 ++ write2 0 ++ write2 0 ++ write2 0) ++
      atom (fourCharInt 'd' 'i' 'n' 'f')
        (atomFull (fourCharInt 'd' 'r' 'e' 'f') 0
          (write4 1 ++ atomFull (fourCharInt 'u' 'r' 'l' ' ') 1 [])) ++
      boxStbl enableFragmentation samples tr)

/-- One turn of the tracks loop of `mp4e_flush_index`: `BOX_trak`, or nothing for
an empty track outside fragmentation mode. -/
def boxTrak (enableFragmentation : Bool) (ntr : Nat) (tr : Track) : Bytes :=
  let samples := if enableFragmentation then [] else tr.smpl.data
  if !enableFragmentation && samples.isEmpty then []
  else
    atom (fourCharInt 't' 'r' 'a' 'k')
      (boxTkhd ntr tr ++
        atom (fourCharInt 'm' 'd' 'i' 'a')
          (boxMdhd tr ++ boxHdlr ++ boxMinf enableFragmentation samples tr))

/-- `BOX_mvex`. -/
def boxMvex (tracks : List Track) : Bytes :=
  atom (fourCharInt 'm' 'v' 'e' 'x')
    (atomFull (fourCharInt 'm' 'e' 'h' 'd') 0 (write4 (getDuration (tracks.getD 0 {}))) ++
      tracks.zipIdx.flatMap fun tr =>
        atomFull (fourCharInt 't' 'r' 'e' 'x') 0
          (write4 (tr.2 + 1) ++ write4 1 ++ write4 0 ++ write4 0 ++ write4 0))

/-- `BOX_moov`, the index of the file. -/
def boxMoov (enableFragmentation : Bool) (tracks : List Track) : Bytes :=
  atom (fourCharInt 'm' 'o' 'o' 'v')
    (boxMvhd tracks ++
      (tracks.zipIdx.flatMap fun tr => boxTrak enableFragmentation tr.2 tr.1) ++
      (if enableFragmentation then boxMvex tracks else []))

/-! ## Fragments -/

/-- Sample kinds of `MP4E_put_sample`. -/
inductive SampleKind
  | default
  | randomAccess
  | continuation
deriving DecidableEq, Repr

/-- `BOX_trun` of one sample; a random access point also carries its flags. -/
def boxTrun (dataOffset dataBytes duration : Nat) (kind : SampleKind) : Bytes :=
  if kind = .randomAccess then
    atomFull (fourCharInt 't' 'r' 'u' 'n') (0x001 ||| 0x004 ||| 0x100 ||| 0x200)
      (write4 1 ++ write4 dataOffset ++ write4 0x2000000 ++ write4 duration ++
        write4 dataBytes)
  else
    atomFull (fourCharInt 't' 'r' 'u' 'n') (0x001 ||| 0x100 ||| 0x200)
      (write4 1 ++ write4 dataOffset ++ write4 duration ++ write4 dataBytes)

/-- `BOX_moof` with a given data offset. -/
def boxMoofAt (dataOffset fragmentsCount trackNum dataBytes duration : Nat)
    (kind : SampleKind) : Bytes :=
  atom (fourCharInt 'm' 'o' 'o' 'f')
    (atomFull (fourCharInt 'm' 'f' 'h' 'd') 0 (write4 fragmentsCount) ++
      atom (fourCharInt 't' 'r' 'a' 'f')
        (atomFull (fourCharInt 't' 'f' 'h' 'd') 0x20020
          (write4 (trackNum + 1) ++ write4 0x1010000) ++
          boxTrun dataOffset dataBytes duration kind))

/-- `BOX_moof`; its data offset is patched once its length is known and skips the
header of the `mdat` box that follows. -/
def boxMoof (fragmentsCount trackNum dataBytes duration : Nat) (kind : SampleKind) : Bytes :=
  boxMoofAt ((boxMoofAt 0 fragmentsCount trackNum dataBytes duration kind).length + 8)
    fragmentsCount trackNum dataBytes duration kind

end Minimp4
end PixelPilot
