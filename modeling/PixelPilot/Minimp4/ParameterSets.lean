import Mathlib.Data.List.Induction
import PixelPilot.Library.DecoderConfiguration
import PixelPilot.Minimp4.Playback

/-!
# The parameter sets in the index

The muxer keeps the parameter sets of a kind in one vector, each behind its length, and leaves
out those it has already.  The index holds the three vectors behind the numbers of their
elements; but the number of the VPS is counted in the vector of the PPS.

Main results:

- Theorem `appended_pack`: `append_mem` adds an element that is not there.
- Theorem `stored_pack`: the vectors hold the parameter sets of the NAL units, each once.
- Theorem `hvcC_read_iff`: the record in `hvcC` is read back if and only if there are as many
  VPS as PPS.
- Theorem `Finished.configures_iff`: the same for the record in a file.
-/

namespace PixelPilot
namespace Minimp4

open ByteReader ByteReader.Reader BoxFile MediaFile

/-! ## The vectors -/

theorem write1_eq (x : Nat) : write1 x = bigEndian 1 x :=
  rfl

theorem write2_eq (x : Nat) : write2 x = bigEndian 2 x := by
  simp only [write2, write1, bigEndian, Nat.shiftRight_eq_div_pow, List.nil_append]

/-- The bytes of a length. -/
theorem bigEndian_two {n : Nat} (h : n < 256 ^ 2) :
    ∃ a b, bigEndian 2 n = [a, b] ∧ a.toNat * 256 + b.toNat = n := by
  refine ⟨UInt8.ofNat (n / 256), UInt8.ofNat n, rfl, ?_⟩
  have hnumber := number_bigEndian_of_lt h
  simpa [bigEndian, number] using hnumber

/-- Each element takes three bytes at least. -/
theorem length_le_pack {units : List Bytes} (h : Packable units) :
    units.length ≤ (pack units).length := by
  induction units with
  | nil => exact Nat.le_refl _
  | cons unit units ih =>
      have hrest := ih h.tail
      rw [pack_cons, List.length_append, List.length_append, bigEndian_length, List.length_cons]
      omega

/-- The first element of a vector, as the loops over vectors see it. -/
theorem pack_cons_bytes {unit : Bytes} {units : List Bytes} (h : Packable (unit :: units)) :
    ∃ a b c rest, pack (unit :: units) = a :: b :: c :: rest ∧
      a.toNat * 256 + b.toNat = unit.length ∧ c :: rest = unit ++ pack units := by
  rcases bigEndian_two h.head.2 with ⟨a, b, hbytes, hlength⟩
  rcases List.exists_cons_of_ne_nil h.head.1 with ⟨c, rest, hunit⟩
  refine ⟨a, b, c, rest ++ pack units, ?_, hlength, ?_⟩
  · rw [pack_cons, hbytes, hunit]
    rfl
  · rw [hunit]
    rfl

/-- The search loop of `append_mem` finds the elements. -/
theorem appendMemFinds_pack (mem : Bytes) {units : List Bytes} (h : Packable units) {fuel : Nat}
    (hfuel : units.length ≤ fuel) :
    appendMemFinds mem fuel (pack units) = decide (mem ∈ units) := by
  induction units generalizing fuel with
  | nil => cases fuel <;> rfl
  | cons unit units ih =>
      rcases pack_cons_bytes h with ⟨a, b, c, rest, hbytes, hlength, hrest⟩
      rw [List.length_cons] at hfuel
      obtain ⟨fuel, rfl⟩ : ∃ k, fuel = k + 1 := ⟨fuel - 1, by omega⟩
      have htake : (c :: rest).take unit.length = unit := by
        rw [hrest, List.take_left]
      have hdrop : (c :: rest).drop unit.length = pack units := by
        rw [hrest, List.drop_left]
      rw [hbytes, appendMemFinds]
      simp only [hlength, htake, hdrop]
      by_cases hsame : mem = unit
      · rw [if_pos ⟨congrArg List.length hsame.symm, hsame.symm⟩, hsame]
        simp
      · have hnot : ¬ (unit.length = mem.length ∧ unit = mem) := fun hboth => hsame hboth.2.symm
        rw [if_neg hnot, ih h.tail (by omega)]
        simp [hsame]

/-- The loop of `items_count` counts the elements. -/
theorem itemsCount_pack {units : List Bytes} (h : Packable units) :
    itemsCount (pack units) = units.length := by
  suffices hloop : ∀ fuel, units.length ≤ fuel →
      itemsCountFrom fuel (pack units) = units.length from
    hloop _ (length_le_pack h)
  induction units with
  | nil =>
      intro fuel _
      cases fuel <;> rfl
  | cons unit units ih =>
      intro fuel hfuel
      rcases pack_cons_bytes h with ⟨a, b, c, rest, hbytes, hlength, hrest⟩
      rw [List.length_cons] at hfuel
      obtain ⟨fuel, rfl⟩ : ∃ k, fuel = k + 1 := ⟨fuel - 1, by omega⟩
      have hdrop : (c :: rest).drop unit.length = pack units := by
        rw [hrest, List.drop_left]
      rw [hbytes, itemsCountFrom, hlength, hdrop, ih h.tail fuel (by omega), List.length_cons]
      omega

/-- `append_mem` adds an element that is not there. -/
theorem appended_pack (mem : Bytes) {units : List Bytes} (h : Packable units) :
    appended mem (pack units) = pack (if mem ∈ units then units else units ++ [mem]) := by
  rw [appended, appendMemFinds_pack mem h (length_le_pack h)]
  by_cases hmem : mem ∈ units
  · simp [hmem]
  · simp [hmem, pack_concat, write2_eq]

/-! ## The parameter sets of NAL units -/

/-- The parameter sets of a kind, each once. -/
def parameterSetsOf (kind : ParameterSet) (nals : List Bytes) : List Bytes :=
  (nals.filter fun nal => setKind nal = some kind).eraseDups

/-- The sets of a kind are the units of that kind. -/
theorem mem_parameterSetsOf {kind : ParameterSet} {nals : List Bytes} {nal : Bytes} :
    nal ∈ parameterSetsOf kind nals ↔ nal ∈ nals ∧ setKind nal = some kind := by
  rw [parameterSetsOf, List.mem_eraseDups, List.mem_filter, decide_eq_true_iff]

/-- One more NAL unit. -/
theorem parameterSetsOf_concat (kind : ParameterSet) (nals : List Bytes) (nal : Bytes) :
    parameterSetsOf kind (nals ++ [nal]) =
      if setKind nal = some kind ∧ nal ∉ parameterSetsOf kind nals then
        parameterSetsOf kind nals ++ [nal]
      else parameterSetsOf kind nals := by
  have hmem : nal ∈ parameterSetsOf kind nals ↔ nal ∈ nals ∧ setKind nal = some kind :=
    mem_parameterSetsOf
  unfold parameterSetsOf at hmem ⊢
  rw [List.filter_append, List.eraseDups_append]
  by_cases hkind : setKind nal = some kind
  · by_cases hold : nal ∈ nals
    · simp [hkind, hold, List.removeAll, hmem]
    · simp [hkind, hold, List.removeAll, hmem, List.eraseDups_cons]
  · simp [hkind, List.removeAll]

/-- A unit with a kind is not empty. -/
theorem setKind_ne_nil {nal : Bytes} {kind : ParameterSet} (h : setKind nal = some kind) :
    nal ≠ [] := by
  rintro rfl
  exact absurd h (by cases kind <;> decide)

/-- A unit with a kind is a parameter set. -/
theorem isParameterSet_of_kind {nal : Bytes} {kind : ParameterSet} (h : setKind nal = some kind) :
    isParameterSet nal = true := by
  rw [← setKind_isSome, h]
  rfl

/-- Parameter sets that fit their length fields can be packed. -/
theorem parameterSetsOf_packable {nals : List Bytes}
    (h : ∀ nal ∈ nals, isParameterSet nal = true → nal.length < 256 ^ 2) (kind : ParameterSet) :
    Packable (parameterSetsOf kind nals) := by
  intro nal hnal
  rcases mem_parameterSetsOf.mp hnal with ⟨hmem, hkind⟩
  exact ⟨setKind_ne_nil hkind, h nal hmem (isParameterSet_of_kind hkind)⟩

/-- The vectors hold the parameter sets of the NAL units, each once. -/
theorem stored_pack {nals : List Bytes}
    (h : ∀ nal ∈ nals, isParameterSet nal = true → nal.length < 256 ^ 2) (kind : ParameterSet) :
    nals.foldl stored (fun _ => []) kind = pack (parameterSetsOf kind nals) := by
  induction nals using List.reverseRecOn generalizing kind with
  | nil => rfl
  | append_singleton nals nal ih =>
      have hshort : ∀ other ∈ nals, isParameterSet other = true → other.length < 256 ^ 2 := by
        intro other hmem
        exact h other (List.mem_append_left [nal] hmem)
      rw [List.foldl_append, List.foldl_cons, List.foldl_nil, stored, parameterSetsOf_concat]
      cases hkind : setKind nal with
      | none => simpa using ih hshort kind
      | some other =>
          simp only [Function.update_apply, Option.some_inj]
          by_cases hsame : kind = other
          · rw [if_pos hsame, ← hsame, ih hshort kind,
              appended_pack nal (parameterSetsOf_packable hshort kind)]
            by_cases hold : nal ∈ parameterSetsOf kind nals
            · simp [hold]
            · simp [hold]
          · rw [if_neg hsame, ih hshort kind, if_neg fun hboth => hsame hboth.1.symm]

/-! ## The record -/

/-- The arrays in `BOX_hvcC`: the number of the VPS is that of the PPS. -/
def hvcCArrays (units : ParameterSet → List Bytes) : List UnitArray :=
  [⟨hevcNalVps, (units .pps).length, units .vps⟩, ⟨hevcNalSps, (units .sps).length, units .sps⟩,
    ⟨hevcNalPps, (units .pps).length, units .pps⟩]

/-- The 21 bytes `BOX_hvcC` begins with. -/
def hvcCHeader : Bytes :=
  write1 1 ++ write1 1 ++ write4 0x60000000 ++ write2 0 ++ write4 0 ++ write1 0 ++
    write2 0xf000 ++ write1 0xfc ++ write1 0xfc ++ write1 0xf8 ++ write1 0xf8 ++ write2 0

/-- What `BOX_hvcC` holds. -/
def hvcCContent (tr : Track) : Bytes :=
  hvcCHeader ++ write1 3 ++ write1 3 ++
    write1 (0x80 ||| 32) ++ write2 (itemsCount tr.vpps.data) ++ tr.vvps.data ++
    write1 (0x80 ||| 33) ++ write2 (itemsCount tr.vsps.data) ++ tr.vsps.data ++
    write1 (0x80 ||| 34) ++ write2 (itemsCount tr.vpps.data) ++ tr.vpps.data

/-- The parameter sets as a player should find them. -/
def configurationOf (units : ParameterSet → List Bytes) : DecoderConfiguration :=
  ⟨4, [(hevcNalVps, units .vps), (hevcNalSps, units .sps), (hevcNalPps, units .pps)]⟩

/-- The record in `hvcC` is read back if and only if there are as many VPS as PPS. -/
theorem hvcC_read_iff {tr : Track} {units : ParameterSet → List Bytes}
    (hholds : tr.Holds fun kind => pack (units kind)) (hpackable : ∀ kind, Packable (units kind))
    (hfew : ∀ kind, (units kind).length < 256 ^ 2) :
    run decoderConfiguration (hvcCContent tr) = some (configurationOf units) ↔
      (units .vps).length = (units .pps).length := by
  have hvps : tr.vvps.data = pack (units .vps) := hholds .vps
  have hsps : tr.vsps.data = pack (units .sps) := hholds .sps
  have hpps : tr.vpps.data = pack (units .pps) := hholds .pps
  have hbytes : hvcCContent tr = hvcCHeader ++ (bigEndian 1 3 ++
      (bigEndian 1 (hvcCArrays units).length ++ (hvcCArrays units).flatMap UnitArray.spell)) := by
    have hthree : (hvcCArrays units).length = 3 := rfl
    rw [hthree, hvcCContent, hvps, hsps, hpps, itemsCount_pack (hpackable .sps),
      itemsCount_pack (hpackable .pps)]
    simp only [hvcCArrays, UnitArray.spell, List.flatMap_cons, List.flatMap_nil, write1_eq,
      write2_eq, List.append_nil, List.append_assoc]
    rfl
  have hfits : ∀ a ∈ hvcCArrays units, a.Fits := by
    simp only [hvcCArrays, List.forall_mem_cons]
    have hkinds : hevcNalVps < 64 ∧ hevcNalSps < 64 ∧ hevcNalPps < 64 := by decide
    exact ⟨⟨hkinds.1, hfew .pps, hpackable .vps⟩, ⟨hkinds.2.1, hfew .sps, hpackable .sps⟩,
      ⟨hkinds.2.2, hfew .pps, hpackable .pps⟩, fun _ hmem => absurd hmem List.not_mem_nil⟩
  have hheader : hvcCHeader.length = 21 := rfl
  have hflags : 3 < 256 := by decide
  have hcount : (hvcCArrays units).length < 256 := hflags
  have hiff := decoderConfiguration_iff hheader hflags hcount hfits
  rw [hbytes]
  refine hiff.trans ?_
  simp only [hvcCArrays, List.forall_mem_cons, true_and]
  constructor
  · rintro ⟨hcount, -⟩
    exact hcount.symm
  · intro hcount
    exact ⟨hcount.symm, fun _ hmem => absurd hmem List.not_mem_nil⟩

/-! ## The record in a file -/

/-- What `BOX_hvc1` holds in front of `BOX_hvcC`. -/
def hvc1Front (tr : Track) : Bytes :=
  write2 0 ++ write2 0 ++ write2 0 ++ write2 1 ++
    write2 0 ++ write2 0 ++ write4 0 ++ write4 0 ++ write4 0 ++
    write2 tr.width ++ write2 tr.height ++
    write4 0x00480000 ++ write4 0x00480000 ++ write4 0 ++ write2 1 ++
    List.replicate 32 0 ++ write2 24 ++ write2 0xffff

/-- The description holds `hvc1`, which holds `hvcC`. -/
theorem boxStsd_eq (tr : Track) :
    boxStsd tr = atom (fourCharInt 's' 't' 's' 'd')
      (bigEndian 4 0 ++ (bigEndian 4 1 ++ boxed (fourCharInt 'h' 'v' 'c' '1')
        (hvc1Front tr ++ boxed (fourCharInt 'h' 'v' 'c' 'C') (hvcCContent tr)))) := by
  have hhvcC : boxHvcC tr = boxed (fourCharInt 'h' 'v' 'c' 'C') (hvcCContent tr) := by
    rw [← atom_eq]
    rfl
  have hhvc1 : boxStsd tr = atom (fourCharInt 's' 't' 's' 'd')
      (write4 0 ++ (write4 1 ++ atom (fourCharInt 'h' 'v' 'c' '1')
        (hvc1Front tr ++ boxHvcC tr))) := rfl
  rw [hhvc1, hhvcC, atom_eq (fourCharInt 'h' 'v' 'c' '1'), write4_eq, write4_eq]

/-- The way to the record of a track. -/
theorem configuration_trak {enableFragmentation : Bool} {ntr : Nat} {samples : List Sample}
    {tr : Track} (hsize : (trakContent enableFragmentation ntr samples tr).length < 256 ^ 4) :
    configuration (trakContent enableFragmentation ntr samples tr) =
      run decoderConfiguration (hvcCContent tr) := by
  rcases descend_tables hsize with ⟨hpath, htables⟩
  let bs := placed 0 (tableBoxes enableFragmentation samples tr)
  let description := bigEndian 4 0 ++ (bigEndian 4 1 ++ boxed (fourCharInt 'h' 'v' 'c' '1')
    (hvc1Front tr ++ boxed (fourCharInt 'h' 'v' 'c' 'C') (hvcCContent tr)))
  have hdescription : content (code 's' 't' 's' 'd') bs = some description := by
    have hstsd := content_tables enableFragmentation samples tr
      (by decide : code 's' 't' 's' 'd' ≠ fourCharInt 's' 't' 's' 's')
    rw [hstsd]
    have hdrop : (boxStsd tr).drop 8 = description := by
      rw [boxStsd_eq, atom_drop]
    rw [← hdrop]
    rfl
  have hlong : description.length + 8 < 256 ^ 4 := by
    have hdrop : (other (fourCharInt 's' 't' 's' 'd') (boxStsd tr)).content.length =
        description.length := by
      rw [other, boxStsd_eq, atom_drop]
    simp only [tableBoxes, List.cons_append, List.nil_append, spell_cons, List.length_append,
      boxed_length, hdrop] at htables
    omega
  have hentry : Reads (do let _ ← uint 4; let _ ← uint 4; box) description
      ⟨fourCharInt 'h' 'v' 'c' '1',
        hvc1Front tr ++ boxed (fourCharInt 'h' 'v' 'c' 'C') (hvcCContent tr)⟩ := by
    refine (reads_uint (by decide)).bind ((reads_uint (by decide)).bind
      (reads_boxed (by decide) ?_))
    simp only [description, List.length_append, bigEndian_length, boxed_length] at hlong
    rw [List.length_append, boxed_length]
    omega
  have hrecord : Reads (do let _ ← take 78; box)
      (hvc1Front tr ++ boxed (fourCharInt 'h' 'v' 'c' 'C') (hvcCContent tr))
      ⟨fourCharInt 'h' 'v' 'c' 'C', hvcCContent tr⟩ := by
    have hfront : Reads (take 78) (hvc1Front tr) (hvc1Front tr) := reads_take (hvc1Front tr)
    refine hfront.bind (reads_boxed (by decide) ?_)
    simp only [description, List.length_append, bigEndian_length, boxed_length] at hlong
    omega
  unfold configuration
  rw [hpath]
  simp only [Option.bind_eq_bind, Option.bind_some,
    boxes_of_spells (spells_spell (named_tableBoxes _ _ _) htables 0)]
  change (content (code 's' 't' 's' 'd') bs).bind _ = _
  rw [hdescription, Option.bind_some, hentry.run, Option.bind_some, hrecord.run, Option.bind_some]

/-- A file with an index and samples has one track. -/
theorem Indexed.tracks_eq {sets : ParameterSet → Bytes} {file : Bytes} {ss : List MediaSample}
    {trs : List Track} (h : Indexed sets file ss trs) (hne : ss ≠ [])
    (hsize : (boxMoov false trs).length < 256 ^ 4) :
    ∃ samples tr, tr.Holds sets ∧ (trakContent false 0 samples tr).length < 256 ^ 4 ∧
      tracks file = some [trakContent false 0 samples tr] := by
  rcases h.samples with ⟨header, gap, front, -, -, hdescriptors⟩
  have hone := h.one
  have hholds := h.holds
  have hinner := moovBoxes_length_lt hsize
  have hnamed := named_trak false hone
  have hlength := congrArg List.length hdescriptors
  rw [descriptors_length] at hlength
  have hpos := List.length_pos_iff.mpr hne
  rcases h.top hsize with ⟨top, htop, hcontent, -⟩
  rcases trs with _ | ⟨tr, _ | ⟨_, _⟩⟩
  · change 0 = ss.length at hlength
    omega
  · have hsome : tr.smpl.data.isEmpty = false := by
      change tr.smpl.data.length = ss.length at hlength
      rw [List.isEmpty_eq_false_iff, ← List.length_pos_iff, hlength]
      exact hpos
    have hbox : trackBoxes false 0 tr =
        [⟨fourCharInt 't' 'r' 'a' 'k', trakContent false 0 tr.smpl.data tr⟩] := by
      simp [trackBoxes, hsome]
    refine ⟨tr.smpl.data, tr, hholds, ?_, ?_⟩
    · simp only [moovBoxes, List.zipIdx_cons, List.zipIdx_nil, List.flatMap_singleton, hbox,
        List.cons_append, spell_cons, List.length_append, boxed_length] at hinner
      omega
    · rw [List.flatMap_singleton, hbox, List.map_singleton] at hnamed
      unfold tracks
      rw [boxes_of_spells htop]
      simp only [Option.bind_eq_bind, Option.bind_some, hcontent,
        boxes_of_spells (spells_spell (named_moovBoxes false [tr]) hinner 0)]
      exact congrArg some hnamed
  · simp at hone

/-- A player finds the parameter sets in a finished file if and only if there are as many VPS as
PPS. -/
theorem Finished.configures_iff {units : ParameterSet → List Bytes} {file : Bytes}
    {ss : List MediaSample} (h : Finished (fun kind => pack (units kind)) file ss false)
    (hne : ss ≠ []) (hlength : file.length < 256 ^ 8)
    (hsamples : ∀ s ∈ ss, s.data.length + 8 < 256 ^ 4)
    (hindex : 24 * ss.length + bytesOfSets (fun kind => pack (units kind)) + 1000 < 256 ^ 4)
    (hpackable : ∀ kind, Packable (units kind)) (hfew : ∀ kind, (units kind).length < 256 ^ 2) :
    configurations file = some [configurationOf units] ↔
      (units .vps).length = (units .pps).length := by
  rcases h.indexed hlength hsamples with ⟨trs, hindexed⟩
  have hsize : (boxMoov false trs).length < 256 ^ 4 := by
    have hmoov := hindexed.index_length
    omega
  rcases hindexed.tracks_eq hne hsize with ⟨samples, tr, hholds, htrak, htracks⟩
  have hone : configurations file =
      (run decoderConfiguration (hvcCContent tr)).map fun record => [record] := by
    rw [configurations, htracks, Option.bind_some, List.mapM_cons, List.mapM_nil,
      configuration_trak htrak]
    cases run decoderConfiguration (hvcCContent tr) <;> rfl
  rw [hone, ← hvcC_read_iff hholds hpackable hfew, Option.map_eq_some_iff]
  constructor
  · rintro ⟨record, hrecord, hsame⟩
    rw [hrecord, List.singleton_inj.mp hsame]
  · intro hrecord
    exact ⟨_, hrecord, rfl⟩

end Minimp4
end PixelPilot
