import PixelPilot.Library.MediaFile

/-!
# The decoder configuration of a track

How a player finds the parameter sets of an HEVC track: in arrays of NAL units, each with their
number, in the sample description of the index.

Main results:

- Definition `pack`: byte strings one behind the other, each behind its length.
- Definition `decoderConfiguration`: the record in `hvcC`.
- Definition `configurations`: the records of a file.
- Theorem `arrays_read_iff`: arrays are read back if and only if their numbers are right.
-/

namespace MediaFile

open ByteReader ByteReader.Reader BoxFile

/-! ## NAL units with their lengths -/

/-- Byte strings one behind the other, each behind its length of two bytes. -/
def pack (units : List (List UInt8)) : List UInt8 :=
  units.flatMap fun unit => bigEndian 2 unit.length ++ unit

/-- The lengths fit, and no string is empty. -/
def Packable (units : List (List UInt8)) : Prop :=
  ∀ unit ∈ units, unit ≠ [] ∧ unit.length < 256 ^ 2

@[simp]
theorem pack_nil : pack [] = [] :=
  rfl

theorem pack_cons (unit : List UInt8) (units : List (List UInt8)) :
    pack (unit :: units) = bigEndian 2 unit.length ++ unit ++ pack units :=
  List.flatMap_cons

theorem pack_concat (units : List (List UInt8)) (unit : List UInt8) :
    pack (units ++ [unit]) = pack units ++ bigEndian 2 unit.length ++ unit := by
  rw [pack, List.flatMap_append, List.flatMap_singleton, ← List.append_assoc]
  rfl

/-- The first unit is not empty and fits its length field. -/
theorem Packable.head {unit : List UInt8} {units : List (List UInt8)}
    (h : Packable (unit :: units)) : unit ≠ [] ∧ unit.length < 256 ^ 2 :=
  h unit List.mem_cons_self

theorem Packable.tail {unit : List UInt8} {units : List (List UInt8)}
    (h : Packable (unit :: units)) : Packable units :=
  fun other hmem => h other (List.mem_cons_of_mem unit hmem)

/-- A byte string behind its length. -/
def packedUnit : Reader (List UInt8) := do
  let length ← uint 2
  take length

/-- The units of an array are read back. -/
theorem reads_pack {units : List (List UInt8)} (h : Packable units) :
    Reads (times units.length packedUnit) (pack units) units := by
  have hunit : ∀ unit ∈ units, Reads packedUnit (bigEndian 2 unit.length ++ unit) unit := by
    intro unit hmem
    exact (reads_uint (h unit hmem).2).bind (reads_take unit)
  have htimes := reads_times hunit
  rwa [List.map_id'] at htimes

/-! ## Arrays of NAL units -/

/-- An array as it is written: the type of its NAL units, their number, and the units. -/
structure UnitArray where
  kind : Nat
  count : Nat
  units : List (List UInt8)

namespace UnitArray

/-- The bytes of an array that is complete. -/
def spell (a : UnitArray) : List UInt8 :=
  bigEndian 1 (128 + a.kind) ++ (bigEndian 2 a.count ++ pack a.units)

/-- The fields fit. -/
structure Fits (a : UnitArray) : Prop where
  kind : a.kind < 64
  count : a.count < 256 ^ 2
  units : Packable a.units

end UnitArray

/-- The reader of an array. -/
def unitArray : Reader (Nat × List (List UInt8)) := do
  let kind ← uint 1
  let count ← uint 2
  let units ← times count packedUnit
  return (kind % 64, units)

/-- The head of an array is read back. -/
theorem unitArray_head {a : UnitArray} (h : a.Fits) (rest : List UInt8) :
    unitArray (a.spell ++ rest) =
      (times a.count packedUnit >>= fun units => return (a.kind, units))
        (pack a.units ++ rest) := by
  have hkind : 128 + a.kind < 256 ^ 1 := by
    have := h.kind
    omega
  have hmod : (128 + a.kind) % 64 = a.kind := by
    have := h.kind
    omega
  rw [unitArray, UnitArray.spell, List.append_assoc, (reads_uint hkind).andThen, List.append_assoc,
    (reads_uint h.count).andThen, hmod]

/-- An array is read back if its number is right, and else as one with that number. -/
theorem unitArray_spell {a : UnitArray} (h : a.Fits) (rest : List UInt8) :
    if a.count = a.units.length then unitArray (a.spell ++ rest) = some ((a.kind, a.units), rest)
    else ∀ units rest', unitArray (a.spell ++ rest) = some ((a.kind, units), rest') →
      units ≠ a.units := by
  rw [unitArray_head h]
  by_cases hcount : a.count = a.units.length
  · rw [if_pos hcount, hcount, (reads_pack h.units).andThen]
    rfl
  · rw [if_neg hcount]
    intro units rest' hread hsame
    rcases bind_eq_some hread with ⟨units', middle, htimes, hlast⟩
    cases hlast
    rw [hsame] at htimes
    exact hcount (times_length htimes).symm

/-- Arrays are read back if and only if their numbers are right. -/
theorem arrays_read_iff {arrays : List UnitArray} (h : ∀ a ∈ arrays, a.Fits)
    (rest : List UInt8) :
    (∃ rest', times arrays.length unitArray (arrays.flatMap UnitArray.spell ++ rest) =
        some (arrays.map fun a => (a.kind, a.units), rest')) ↔
      ∀ a ∈ arrays, a.count = a.units.length := by
  induction arrays with
  | nil => exact ⟨fun _ a ha => absurd ha List.not_mem_nil, fun _ => ⟨rest, rfl⟩⟩
  | cons a arrays ih =>
      have hrest := ih fun b hb => h b (List.mem_cons_of_mem a hb)
      have hfirst := unitArray_spell (h a List.mem_cons_self)
        (arrays.flatMap UnitArray.spell ++ rest)
      rw [List.flatMap_cons, List.append_assoc, List.forall_mem_cons, ← hrest]
      by_cases hcount : a.count = a.units.length
      · rw [if_pos hcount] at hfirst
        have hread : times (a :: arrays).length unitArray
            (a.spell ++ (arrays.flatMap UnitArray.spell ++ rest)) =
            (times arrays.length unitArray >>= fun as => return (a.kind, a.units) :: as)
              (arrays.flatMap UnitArray.spell ++ rest) := by
          change Reader.bind unitArray _ _ = _
          rw [Reader.bind, hfirst]
          rfl
        rw [hread]
        constructor
        · rintro ⟨rest', hall⟩
          rcases bind_eq_some hall with ⟨as, middle, htimes, hlast⟩
          cases hlast
          exact ⟨hcount, rest', htimes⟩
        · rintro ⟨-, rest', hall⟩
          refine ⟨rest', ?_⟩
          change Reader.bind _ _ _ = _
          rw [Reader.bind, hall]
          rfl
      · rw [if_neg hcount] at hfirst
        constructor
        · rintro ⟨rest', hall⟩
          rcases bind_eq_some (r := unitArray) hall with ⟨b, middle, hb, hmore⟩
          rcases bind_eq_some (r := times arrays.length unitArray) hmore with
            ⟨bs, rest'', hbs, hlast⟩
          have hsame : b = (a.kind, a.units) := by
            have hvalues := congrArg (Option.map Prod.fst) hlast
            exact (List.cons.inj (Option.some.inj hvalues)).1
          rw [hsame] at hb
          exact absurd rfl (hfirst a.units middle hb)
        · rintro ⟨hright, -⟩
          exact absurd hright hcount

/-! ## Records -/

/-- What a player learns from `hvcC`: the length of the prefix of each NAL unit in a sample,
and the arrays with their types. -/
structure DecoderConfiguration where
  prefixLength : Nat
  arrays : List (Nat × List (List UInt8))
deriving DecidableEq, Repr

/-- The record in `hvcC`. -/
def decoderConfiguration : Reader DecoderConfiguration := do
  let _ ← take 21
  let flags ← uint 1
  let count ← uint 1
  let arrays ← times count unitArray
  return ⟨flags % 4 + 1, arrays⟩

/-- A record is read back if and only if the numbers in its arrays are right. -/
theorem decoderConfiguration_iff {header : List UInt8} {flags : Nat} {arrays : List UnitArray}
    (hheader : header.length = 21) (hflags : flags < 256) (hcount : arrays.length < 256)
    (h : ∀ a ∈ arrays, a.Fits) :
    run decoderConfiguration (header ++ (bigEndian 1 flags ++ (bigEndian 1 arrays.length ++
        arrays.flatMap UnitArray.spell))) =
      some ⟨flags % 4 + 1, arrays.map fun a => (a.kind, a.units)⟩ ↔
      ∀ a ∈ arrays, a.count = a.units.length := by
  have htake : Reads (take 21) header header := hheader ▸ reads_take header
  have hread : decoderConfiguration (header ++ (bigEndian 1 flags ++
      (bigEndian 1 arrays.length ++ arrays.flatMap UnitArray.spell))) =
      (times arrays.length unitArray >>= fun as => return ⟨flags % 4 + 1, as⟩)
        (arrays.flatMap UnitArray.spell) := by
    rw [decoderConfiguration, htake.andThen, (reads_uint (by omega)).andThen,
      (reads_uint (by omega)).andThen]
  have hiff := arrays_read_iff h []
  rw [List.append_nil] at hiff
  rw [run, hread, ← hiff, Option.map_eq_some_iff]
  constructor
  · rintro ⟨⟨record, rest'⟩, hall, hrecord⟩
    rcases bind_eq_some hall with ⟨as, middle, htimes, hlast⟩
    cases hlast
    have hsame := congrArg DecoderConfiguration.arrays hrecord
    simp only at hsame
    rw [hsame] at htimes
    exact ⟨rest', htimes⟩
  · rintro ⟨rest', hall⟩
    refine ⟨(⟨flags % 4 + 1, _⟩, rest'), ?_, rfl⟩
    change Reader.bind _ _ _ = _
    rw [Reader.bind, hall]
    rfl

/-- The record of a track: in the box behind the 78 bytes that a description of a visual sample
begins with. -/
def configuration (trak : List UInt8) : Option DecoderConfiguration := do
  let stbl ← descend tablesPath trak
  let bs ← boxes stbl
  let description ← content (code 's' 't' 's' 'd') bs
  let entry ← run (do let _ ← uint 4; let _ ← uint 4; box) description
  let record ← run (do let _ ← take 78; box) entry.content
  run decoderConfiguration record.content

/-- The tracks of a file. -/
def tracks (file : List UInt8) : Option (List (List UInt8)) := do
  let top ← boxes file
  let moov ← content (code 'm' 'o' 'o' 'v') top
  let parts ← boxes moov
  return (named (code 't' 'r' 'a' 'k') parts).map fun p => p.2.content

/-- The records of the tracks of a file. -/
def configurations (file : List UInt8) : Option (List DecoderConfiguration) :=
  (tracks file).bind fun traks => traks.mapM configuration

end MediaFile
