import PixelPilot.Minimp4.IndexTables

/-!
# Playing a finished file

A player that follows the format finds in a finished file the samples the muxer was given: the
same bytes, durations and marks, in the same order, in all three modes.

Main results:

- Theorem `boxMoov_eq`: the boxes of the index.
- Theorem `samples_fragments`: the samples of any number of fragments are read back.
- Theorem `Finished.plays`: the samples of a finished file are read back.
-/

namespace PixelPilot
namespace Minimp4

open ByteReader ByteReader.Reader BoxFile MediaFile

/-! ## The boxes of the index -/

/-- `BOX_trak`, if it is there. -/
def trackBoxes (enableFragmentation : Bool) (ntr : Nat) (tr : Track) : List Box :=
  let samples := if enableFragmentation then [] else tr.smpl.data
  if !enableFragmentation && samples.isEmpty then []
  else [⟨fourCharInt 't' 'r' 'a' 'k', trakContent enableFragmentation ntr samples tr⟩]

/-- The boxes in `BOX_moov`. -/
def moovBoxes (enableFragmentation : Bool) (tracks : List Track) : List Box :=
  other (fourCharInt 'm' 'v' 'h' 'd') (boxMvhd tracks) ::
    ((tracks.zipIdx.flatMap fun tr => trackBoxes enableFragmentation tr.2 tr.1) ++
      if enableFragmentation then [other (fourCharInt 'm' 'v' 'e' 'x') (boxMvex tracks)] else [])

/-- The boxes of a track spell `trak`. -/
theorem spell_trackBoxes (enableFragmentation : Bool) (ntr : Nat) (tr : Track) :
    spell (trackBoxes enableFragmentation ntr tr) = boxTrak enableFragmentation ntr tr := by
  unfold trackBoxes boxTrak
  generalize (if enableFragmentation then [] else tr.smpl.data) = samples
  simp only
  split
  · rfl
  · rw [spell_cons, spell_nil, List.append_nil, ← atom_eq]
    rfl

theorem spell_flatMap {α : Type} (f : α → List Box) (l : List α) :
    spell (l.flatMap f) = l.flatMap fun a => spell (f a) := by
  induction l with
  | nil => rfl
  | cons a l ih => rw [List.flatMap_cons, spell_append, ih, List.flatMap_cons]

/-- `moov` is spelled by its boxes. -/
theorem boxMoov_eq (enableFragmentation : Bool) (tracks : List Track) :
    boxMoov enableFragmentation tracks =
      boxed (fourCharInt 'm' 'o' 'o' 'v') (spell (moovBoxes enableFragmentation tracks)) := by
  have hmvhd : boxed (fourCharInt 'm' 'v' 'h' 'd') ((boxMvhd tracks).drop 8) = boxMvhd tracks :=
    spell_other _ _
  have hmvex : boxed (fourCharInt 'm' 'v' 'e' 'x') ((boxMvex tracks).drop 8) = boxMvex tracks :=
    spell_other _ _
  have hlast : spell (if enableFragmentation then
        [other (fourCharInt 'm' 'v' 'e' 'x') (boxMvex tracks)] else []) =
      if enableFragmentation then boxMvex tracks else [] := by
    split
    · rw [spell_cons, spell_nil, List.append_nil]
      exact hmvex
    · rfl
  rw [boxMoov, atom_eq, moovBoxes, spell_cons, spell_append, spell_flatMap, hlast]
  simp only [other, hmvhd, spell_trackBoxes, List.append_assoc]

theorem named_moovBoxes (enableFragmentation : Bool) (tracks : List Track) :
    Named (moovBoxes enableFragmentation tracks) := by
  have htracks : Named (tracks.zipIdx.flatMap fun tr =>
      trackBoxes enableFragmentation tr.2 tr.1) := by
    rw [Named, List.all_flatMap, List.all_eq_true]
    intro tr _
    unfold trackBoxes
    generalize (if enableFragmentation then [] else tr.1.smpl.data) = samples
    simp only
    split
    · rfl
    · rfl
  have hlast : Named (if enableFragmentation then
      [other (fourCharInt 'm' 'v' 'e' 'x') (boxMvex tracks)] else []) := by
    split
    · rfl
    · rfl
  have hfirst : Named [other (fourCharInt 'm' 'v' 'h' 'd') (boxMvhd tracks)] := rfl
  exact hfirst.append (htracks.append hlast)

/-- The tracks among the boxes of the index of at most one track. -/
theorem named_trak (enableFragmentation : Bool) {tracks : List Track} (h : tracks.length ≤ 1) :
    (named (code 't' 'r' 'a' 'k') (placed 0 (moovBoxes enableFragmentation tracks))).map
        (fun p => p.2.content) =
      (tracks.flatMap (trackBoxes enableFragmentation 0)).map Box.content := by
  rcases tracks with _ | ⟨tr, _ | ⟨_, _⟩⟩
  · cases enableFragmentation with
    | true => rfl
    | false => rfl
  · cases enableFragmentation with
    | true => rfl
    | false =>
        cases hsamples : tr.smpl.data with
        | nil =>
            have hnone : trackBoxes false 0 tr = [] := by
              simp [trackBoxes, hsamples]
            simp [moovBoxes, hnone, placed, named, other, fourCharInt, code]
        | cons s rest =>
            have hone : trackBoxes false 0 tr =
                [⟨fourCharInt 't' 'r' 'a' 'k', trakContent false 0 (s :: rest) tr⟩] := by
              simp [trackBoxes, hsamples]
            have hboxes : moovBoxes false [tr] =
                [other (fourCharInt 'm' 'v' 'h' 'd') (boxMvhd [tr]),
                  ⟨fourCharInt 't' 'r' 'a' 'k', trakContent false 0 (s :: rest) tr⟩] := by
              simp [moovBoxes, hone]
            rw [hboxes, List.flatMap_singleton, hone]
            rfl
  · simp at h

/-- `ftyp`. -/
def ftypBox : Box :=
  other (fourCharInt 'f' 't' 'y' 'p') boxFtyp

/-- The first box of the file is read. -/
theorem reads_ftyp : Reads box boxFtyp ftypBox := by
  have hbox : boxFtyp = boxed ftypBox.name ftypBox.content := (spell_other _ _).symm
  rw [hbox]
  exact reads_boxed (by decide) (by decide)

/-! ## Files with an index -/

/-- A file whose index describes the samples. -/
theorem samples_indexed {gap : Nat} {header : MediaSample → Bytes}
    (hgap : ∀ s, (header s).length = gap) {front back file : Bytes} {ss : List MediaSample}
    (hfile : file = front ++ ((ss.flatMap fun s => header s ++ s.data) ++ back))
    (hlength : file.length < 256 ^ 8)
    (hsamples : ∀ s ∈ ss, s.data.length < 256 ^ 4 ∧ s.duration < 256 ^ 4)
    {top : List (Nat × Box)} {tracks : List Track} (htop : Spells 0 file top)
    (hmoov : content (code 'm' 'o' 'o' 'v') top = some (spell (moovBoxes false tracks)))
    (hmoof : named (code 'm' 'o' 'o' 'f') top = []) (hone : tracks.length ≤ 1)
    (hsize : (spell (moovBoxes false tracks)).length < 256 ^ 4)
    (hdescriptors : (tracks.getD 0 {}).smpl.data = descriptors gap front.length ss) :
    samples file = some ss := by
  have hindexed : ((tracks.flatMap (trackBoxes false 0)).map Box.content).mapM
      (indexedSamples file) = some (if ss.isEmpty then [] else [ss]) := by
    rcases tracks with _ | ⟨tr, _ | ⟨_, _⟩⟩
    · cases ss with
      | nil => rfl
      | cons s ss => exact absurd hdescriptors (by simp [descriptors])
    · have hdata : tr.smpl.data = descriptors gap front.length ss := hdescriptors
      cases ss with
      | nil =>
          have hnone : trackBoxes false 0 tr = [] := by
            simp [trackBoxes, hdata, descriptors]
          rw [List.flatMap_singleton, hnone]
          rfl
      | cons s ss =>
          have hbox : trackBoxes false 0 tr = [⟨fourCharInt 't' 'r' 'a' 'k',
              trakContent false 0 (descriptors gap front.length (s :: ss)) tr⟩] := by
            simp [trackBoxes, hdata, descriptors]
          have htrak : (trakContent false 0 (descriptors gap front.length (s :: ss)) tr).length <
              256 ^ 4 := by
            simp only [moovBoxes, List.zipIdx_cons, List.zipIdx_nil, List.flatMap_singleton, hbox,
              List.cons_append, spell_cons, List.length_append, boxed_length] at hsize
            omega
          rw [List.flatMap_singleton, hbox, List.map_singleton, List.mapM_cons,
            indexedSamples_trak hgap hfile hlength hsamples htrak]
          rfl
    · simp at hone
  have htraks : (named (code 't' 'r' 'a' 'k') (placed 0 (moovBoxes false tracks))).mapM
      (fun p => indexedSamples file p.2.content) = some (if ss.isEmpty then [] else [ss]) := by
    rw [← hindexed, ← named_trak false hone, List.mapM_map]
    rfl
  unfold samples
  rw [boxes_of_spells htop]
  simp only [Option.bind_eq_bind, Option.bind_some, hmoov,
    boxes_of_spells (spells_spell (named_moovBoxes false tracks) hsize 0), hmoof, htraks]
  cases ss with
  | nil => rfl
  | cons s ss => simp

/-! ## Files with fragments -/

/-- What `BOX_tfhd` holds. -/
def tfhdContent (trackNum : Nat) : Bytes :=
  write4 0x20020 ++ (write4 (trackNum + 1) ++ write4 0x1010000)

/-- What `BOX_trun` holds. -/
def trunContent (dataOffset dataBytes duration : Nat) (sync : Bool) : Bytes :=
  if sync then
    write4 0x305 ++ (write4 1 ++ write4 dataOffset ++ write4 0x2000000 ++ write4 duration ++
      write4 dataBytes)
  else
    write4 0x301 ++ (write4 1 ++ write4 dataOffset ++ write4 duration ++ write4 dataBytes)

/-- The boxes in `BOX_traf`. -/
def trafBoxes (dataOffset trackNum dataBytes duration : Nat) (sync : Bool) : List Box :=
  [⟨fourCharInt 't' 'f' 'h' 'd', tfhdContent trackNum⟩,
    ⟨fourCharInt 't' 'r' 'u' 'n', trunContent dataOffset dataBytes duration sync⟩]

/-- The boxes in `BOX_moof`. -/
def moofBoxes (dataOffset fragmentsCount trackNum dataBytes duration : Nat) (sync : Bool) :
    List Box :=
  [⟨fourCharInt 'm' 'f' 'h' 'd', write4 0 ++ write4 fragmentsCount⟩,
    ⟨fourCharInt 't' 'r' 'a' 'f',
      spell (trafBoxes dataOffset trackNum dataBytes duration sync)⟩]

/-- `moof` is spelled by its boxes. -/
theorem boxMoofAt_eq (dataOffset fragmentsCount trackNum dataBytes duration : Nat) (sync : Bool) :
    boxMoofAt dataOffset fragmentsCount trackNum dataBytes duration (kindOf sync) =
      boxed (fourCharInt 'm' 'o' 'o' 'f')
        (spell (moofBoxes dataOffset fragmentsCount trackNum dataBytes duration sync)) := by
  have htrun : boxed (fourCharInt 't' 'r' 'u' 'n')
      (trunContent dataOffset dataBytes duration sync) =
      boxTrun dataOffset dataBytes duration (kindOf sync) := by
    cases sync with
    | true => exact (atomFull_eq _ _ _).symm
    | false => exact (atomFull_eq _ _ _).symm
  have htfhd : boxed (fourCharInt 't' 'f' 'h' 'd') (tfhdContent trackNum) =
      atomFull (fourCharInt 't' 'f' 'h' 'd') 0x20020
        (write4 (trackNum + 1) ++ write4 0x1010000) :=
    (atomFull_eq _ _ _).symm
  have hmfhd : boxed (fourCharInt 'm' 'f' 'h' 'd') (write4 0 ++ write4 fragmentsCount) =
      atomFull (fourCharInt 'm' 'f' 'h' 'd') 0 (write4 fragmentsCount) :=
    (atomFull_eq _ _ _).symm
  rw [boxMoofAt, atom_eq, atom_eq, moofBoxes, trafBoxes]
  simp only [spell_cons, spell_nil, List.append_nil, htrun, htfhd, hmfhd]

/-- The number of bytes in `BOX_moof`. -/
def moofLength (sync : Bool) : Nat :=
  if sync then 84 else 80

/-- A random access sample has four bytes of flags more. -/
theorem trunContent_length (dataOffset dataBytes duration : Nat) (sync : Bool) :
    (trunContent dataOffset dataBytes duration sync).length = if sync then 24 else 20 := by
  cases sync with
  | true => rfl
  | false => rfl

/-- The length of `moof` depends only on the kind of the sample. -/
theorem moofBoxes_length (dataOffset fragmentsCount trackNum dataBytes duration : Nat)
    (sync : Bool) :
    (spell (moofBoxes dataOffset fragmentsCount trackNum dataBytes duration sync)).length + 8 =
      moofLength sync := by
  have htfhd : (tfhdContent trackNum).length = 12 := rfl
  simp only [moofBoxes, trafBoxes, spell_cons, spell_nil, List.length_append, boxed_length,
    trunContent_length, htfhd, write4_length, List.length_nil]
  cases sync with
  | true => rfl
  | false => rfl

/-- `BOX_moof`, with the offset that leads behind the header of the next box. -/
theorem boxMoof_eq (fragmentsCount trackNum dataBytes duration : Nat) (sync : Bool) :
    boxMoof fragmentsCount trackNum dataBytes duration (kindOf sync) =
      boxed (fourCharInt 'm' 'o' 'o' 'f')
        (spell (moofBoxes (moofLength sync + 8) fragmentsCount trackNum dataBytes duration
          sync)) := by
  have hlength : (boxMoofAt 0 fragmentsCount trackNum dataBytes duration (kindOf sync)).length =
      moofLength sync := by
    rw [boxMoofAt_eq, boxed_length, moofBoxes_length]
  rw [boxMoof, hlength, boxMoofAt_eq]

/-- The header of a fragment is read: the defaults it sets. -/
theorem tfhd_read {trackNum : Nat} (htrack : trackNum + 1 < 256 ^ 4) :
    run fragmentHeader (tfhdContent trackNum) = some ⟨0, 0, 0x1010000⟩ := by
  have hflags : Reads (uint 4) (bigEndian 4 0x1010000) 0x1010000 := reads_uint (by decide)
  have hreads : Reads fragmentHeader
      (bigEndian 4 0x20020 ++ (bigEndian 4 (trackNum + 1) ++ bigEndian 4 0x1010000))
      ⟨0, 0, 0x1010000⟩ := by
    refine (reads_uint (by decide)).bind ((reads_uint htrack).bind ?_)
    refine (reads_absent (uint 8) 0).skip ((reads_absent (uint 4) 0).skip
      ((reads_absent (uint 4) 0).skip ((reads_absent (uint 4) 0).skip ?_)))
    exact (reads_present hflags 0).map (Defaults.mk 0 0)
  rw [tfhdContent, write4_eq, write4_eq, write4_eq]
  exact hreads.run

/-- The flags of a sample in `BOX_trun`. -/
def sampleFlags (sync : Bool) : Nat :=
  if sync then 0x2000000 else 0x1010000

/-- The run of a fragment is read: one sample and where its data are. -/
theorem trun_read {dataOffset dataBytes duration : Nat} (hoffset : dataOffset < 256 ^ 4)
    (hsize : dataBytes < 256 ^ 4) (hduration : duration < 256 ^ 4) (sync : Bool) :
    run (trackRun ⟨0, 0, 0x1010000⟩) (trunContent dataOffset dataBytes duration sync) =
      some (dataOffset, [⟨duration, dataBytes, sampleFlags sync⟩]) := by
  have hentry : ∀ flags : Nat, flags.testBit 8 = true → flags.testBit 9 = true →
      flags.testBit 10 = false → flags.testBit 11 = false →
      Reads (times 1 (runEntry flags ⟨0, 0, 0x1010000⟩))
        (bigEndian 4 duration ++ bigEndian 4 dataBytes) [⟨duration, dataBytes, 0x1010000⟩] := by
    intro flags h8 h9 h10 h11
    have hone : Reads (runEntry flags ⟨0, 0, 0x1010000⟩)
        (bigEndian 4 duration ++ (bigEndian 4 dataBytes ++ []))
        ⟨duration, dataBytes, 0x1010000⟩ := by
      unfold runEntry
      rw [h8, h9, h10, h11]
      refine (reads_present (reads_uint hduration) _).bind
        ((reads_present (reads_uint hsize) _).bind ((reads_absent (uint 4) 0x1010000).skip ?_))
      exact (reads_absent (uint 4) 0).map fun _ => Defaults.mk duration dataBytes 0x1010000
    rw [List.append_nil] at hone
    have htimes : Reads (times [()].length (runEntry flags ⟨0, 0, 0x1010000⟩))
        ([()].flatMap fun _ => bigEndian 4 duration ++ bigEndian 4 dataBytes)
        ([()].map fun _ => ⟨duration, dataBytes, 0x1010000⟩) := reads_times fun _ _ => hone
    rwa [List.flatMap_singleton] at htimes
  cases sync with
  | true =>
      have hfirst : Reads (do let n ← uint 4; return some n) (bigEndian 4 0x2000000)
          (some 0x2000000) :=
        (reads_uint (by decide)).map some
      have hreads : Reads (trackRun ⟨0, 0, 0x1010000⟩)
          (bigEndian 4 0x305 ++ (bigEndian 4 1 ++ (bigEndian 4 dataOffset ++
            (bigEndian 4 0x2000000 ++ (bigEndian 4 duration ++ bigEndian 4 dataBytes)))))
          (dataOffset, [⟨duration, dataBytes, sampleFlags true⟩]) := by
        refine (reads_uint (by decide)).bind ((reads_uint (by decide)).bind
          ((reads_present (reads_uint hoffset) 0).bind
            ((reads_present hfirst none).bind ?_)))
        exact (hentry 0x305 (by decide) (by decide) (by decide) (by decide)).map fun entries =>
          (dataOffset, withFirstFlags (some 0x2000000) entries)
      have hcontent : trunContent dataOffset dataBytes duration true =
          bigEndian 4 0x305 ++ (bigEndian 4 1 ++ (bigEndian 4 dataOffset ++
            (bigEndian 4 0x2000000 ++ (bigEndian 4 duration ++ bigEndian 4 dataBytes)))) := by
        simp only [trunContent, if_true, write4_eq, List.append_assoc]
      rw [hcontent]
      exact hreads.run
  | false =>
      have hreads : Reads (trackRun ⟨0, 0, 0x1010000⟩)
          (bigEndian 4 0x301 ++ (bigEndian 4 1 ++ (bigEndian 4 dataOffset ++
            (bigEndian 4 duration ++ bigEndian 4 dataBytes))))
          (dataOffset, [⟨duration, dataBytes, sampleFlags false⟩]) := by
        refine (reads_uint (by decide)).bind ((reads_uint (by decide)).bind
          ((reads_present (reads_uint hoffset) 0).bind ((reads_absent _ none).skip ?_)))
        exact (hentry 0x301 (by decide) (by decide) (by decide) (by decide)).map fun entries =>
          (dataOffset, withFirstFlags none entries)
      have hcontent : trunContent dataOffset dataBytes duration false =
          bigEndian 4 0x301 ++ (bigEndian 4 1 ++ (bigEndian 4 dataOffset ++
            (bigEndian 4 duration ++ bigEndian 4 dataBytes))) := by
        simp only [trunContent, Bool.false_eq_true, if_false, write4_eq, List.append_assoc]
      rw [hcontent]
      exact hreads.run

/-- A fragment is read back. -/
theorem fragmentSamples_moof (fragmentsCount : Nat) {file : Bytes} {pos trackNum : Nat}
    {s : MediaSample} (hsize : s.data.length < 256 ^ 4) (hduration : s.duration < 256 ^ 4)
    (htrack : trackNum + 1 < 256 ^ 4)
    (hdata : bytesAt file (pos + (moofLength s.sync + 8), s.data.length) = some s.data) :
    fragmentSamples file pos (spell (moofBoxes (moofLength s.sync + 8) fragmentsCount trackNum
      s.data.length s.duration s.sync)) = some [s] := by
  let boxes := trafBoxes (moofLength s.sync + 8) trackNum s.data.length s.duration s.sync
  let moof := moofBoxes (moofLength s.sync + 8) fragmentsCount trackNum s.data.length s.duration
    s.sync
  have hmoof : (spell moof).length + 8 = moofLength s.sync := moofBoxes_length _ _ _ _ _ _
  have hshort : moofLength s.sync ≤ 84 := by
    unfold moofLength
    split
    · decide
    · decide
  have htraf : (spell boxes).length < 256 ^ 4 := by
    simp only [moof, moofBoxes, spell_cons, spell_nil, List.length_append,
      boxed_length] at hmoof
    simp only [boxes]
    omega
  have hnamed : Named boxes := rfl
  have hmarked : (!(sampleFlags s.sync).testBit 16) = s.sync := by
    cases s.sync with
    | true => decide
    | false => decide
  have hpath : descend [code 't' 'r' 'a' 'f'] (spell moof) = some (spell boxes) :=
    descend_spell rfl (by omega) rfl
  have hread : fragmentSamples file pos (spell moof) =
      some [⟨s.data, s.duration, !(sampleFlags s.sync).testBit 16⟩] :=
    fragmentSamples_eq hpath (spells_spell hnamed htraf 0)
      (tfhd_read htrack) (trun_read (by omega) hsize hduration s.sync) hdata
  rw [hmarked] at hread
  exact hread

/-- The boxes of the samples numbered from `n` on, from a position on. -/
def fragmentBoxes : Nat → Nat → List MediaSample → List (Nat × Box)
  | _, _, [] => []
  | pos, n, s :: ss =>
      (pos, ⟨fourCharInt 'm' 'o' 'o' 'f',
          spell (moofBoxes (moofLength s.sync + 8) n 0 s.data.length s.duration s.sync)⟩) ::
        (pos + moofLength s.sync, ⟨fourCharInt 'm' 'd' 'a' 't', s.data⟩) ::
          fragmentBoxes (pos + moofLength s.sync + (s.data.length + 8)) (n + 1) ss

/-- The length of `moof` with its head. -/
theorem boxMoof_length (n dataBytes duration : Nat) (sync : Bool) :
    (boxMoof n 0 dataBytes duration (kindOf sync)).length = moofLength sync := by
  rw [boxMoof_eq, boxed_length, moofBoxes_length]

/-- The fragments spell their boxes. -/
theorem spells_fragments (pos n : Nat) {ss : List MediaSample}
    (hsamples : ∀ s ∈ ss, s.data.length + 8 < 256 ^ 4) :
    Spells pos (fragments n ss) (fragmentBoxes pos n ss) := by
  induction ss generalizing pos n with
  | nil => exact .nil pos
  | cons s ss ih =>
      have hmoof : Reads box (boxMoof n 0 s.data.length s.duration (kindOf s.sync))
          ⟨fourCharInt 'm' 'o' 'o' 'f',
            spell (moofBoxes (moofLength s.sync + 8) n 0 s.data.length s.duration s.sync)⟩ := by
        have hlength := moofBoxes_length (moofLength s.sync + 8) n 0 s.data.length s.duration s.sync
        have hshort : moofLength s.sync ≤ 84 := by
          unfold moofLength
          split <;> decide
        rw [boxMoof_eq]
        exact reads_boxed (by decide) (by omega)
      have hmdat : Reads box (mdat s.data) ⟨fourCharInt 'm' 'd' 'a' 't', s.data⟩ := by
        rw [mdat, atom_eq]
        exact reads_boxed (by decide) (hsamples s List.mem_cons_self)
      have hlength := boxMoof_length n s.data.length s.duration s.sync
      have hpos : 0 < moofLength s.sync := by
        unfold moofLength
        split <;> decide
      have hrest := ih (pos + moofLength s.sync + (s.data.length + 8)) (n + 1)
        fun t ht => hsamples t (List.mem_cons_of_mem s ht)
      rw [fragments, fragmentBoxes, List.append_assoc]
      refine .cons hmoof ?_ ?_
      · rw [← List.length_pos_iff, hlength]
        exact hpos
      · rw [hlength]
        refine .cons hmdat ?_ ?_
        · rw [← List.length_pos_iff, mdat_length]
          omega
        · rw [mdat_length]
          exact hrest

/-- The samples of any number of fragments are read back. -/
theorem samples_fragments {file front : Bytes} {n : Nat} {ss : List MediaSample}
    (hfile : file = front ++ fragments n ss)
    (hsamples : ∀ s ∈ ss, s.data.length + 8 < 256 ^ 4 ∧ s.duration < 256 ^ 4) :
    (named (code 'm' 'o' 'o' 'f') (fragmentBoxes front.length n ss)).mapM
      (fun p => fragmentSamples file p.1 p.2.content) = some (ss.map fun s => [s]) := by
  induction ss generalizing front n with
  | nil => rfl
  | cons s ss ih =>
      rcases hsamples s List.mem_cons_self with ⟨hsize, hduration⟩
      let moof := boxMoof n 0 s.data.length s.duration (kindOf s.sync)
      have hlength : moof.length = moofLength s.sync := boxMoof_length n _ _ s.sync
      have hdata : bytesAt file (front.length + (moofLength s.sync + 8), s.data.length) =
          some s.data := by
        have hsplit : file = (front ++ (moof ++ pendingHeader s.data)) ++
            (s.data ++ fragments (n + 1) ss) := by
          have hmdat : mdat s.data = pendingHeader s.data ++ s.data := rfl
          rw [hfile, fragments, hmdat]
          simp only [moof, List.append_assoc]
        have hfront : (front ++ (moof ++ pendingHeader s.data)).length =
            front.length + (moofLength s.sync + 8) := by
          rw [List.length_append, List.length_append, hlength]
          rfl
        rw [hsplit, ← hfront]
        exact bytesAt_between _ _ _
      have hsmall : s.data.length < 256 ^ 4 := by omega
      have hone : 0 + 1 < 256 ^ 4 := by decide
      have hfirst := fragmentSamples_moof n hsmall hduration hone hdata
      have hnext : (front ++ moof ++ mdat s.data).length =
          front.length + moofLength s.sync + (s.data.length + 8) := by
        rw [List.length_append, List.length_append, hlength, mdat_length]
      have hsplit : file = (front ++ moof ++ mdat s.data) ++ fragments (n + 1) ss := by
        rw [hfile, fragments]
        simp only [moof, List.append_assoc]
      have hrest := ih hsplit fun t ht => hsamples t (List.mem_cons_of_mem s ht)
      rw [hnext] at hrest
      have hnamed : named (code 'm' 'o' 'o' 'f') (fragmentBoxes front.length n (s :: ss)) =
          (front.length, ⟨fourCharInt 'm' 'o' 'o' 'f',
            spell (moofBoxes (moofLength s.sync + 8) n 0 s.data.length s.duration s.sync)⟩) ::
          named (code 'm' 'o' 'o' 'f')
            (fragmentBoxes (front.length + moofLength s.sync + (s.data.length + 8)) (n + 1) ss) :=
        rfl
      rw [hnamed, List.mapM_cons, hfirst, hrest]
      rfl

/-- The index of a fragmented file has no samples. -/
theorem indexedSamples_empty {file : Bytes} {ntr : Nat} {tr : Track}
    (hsize : (trakContent true ntr [] tr).length < 256 ^ 4) :
    indexedSamples file (trakContent true ntr [] tr) = some [] := by
  rcases descend_tables hsize with ⟨hpath, htables⟩
  have hfits : Fits [] := ⟨by decide, by simp, by simp⟩
  have hstsc : run sampleToChunk (stscContent true) = some [] := by
    have hcount : ([] : List Unit).length < 256 ^ 4 := by decide
    have hzero : 0 < 256 ^ 4 := by decide
    have hentry : ∀ e ∈ ([] : List Unit), Reads (do
        let entry ← twoNumbers
        let _ ← uint 4
        return entry) [] (1, 1) :=
      fun _ he => absurd he List.not_mem_nil
    have htable := reads_table hzero hcount hentry
    have hcontent : stscContent true = bigEndian 4 0 ++ (bigEndian 4 0 ++ []) := by
      rw [stscContent, if_pos rfl, write4_eq, List.append_nil]
    rw [hcontent]
    exact htable.run
  let bs := placed 0 (tableBoxes true [] tr)
  have hstts : content (code 's' 't' 't' 's') bs = some (sttsContent []) := rfl
  have hstsz : content (code 's' 't' 's' 'z') bs = some (stszContent []) := rfl
  have hstsc' : content (code 's' 't' 's' 'c') bs = some (stscContent true) := rfl
  have hsync : syncOf bs = some fun _ => true := rfl
  have hoffsets : offsetsOf bs = some [] := offsetsOf_tables 0 0 [] hfits (by decide)
  have hruns : (content (code 's' 't' 't' 's') bs).bind (run timeToSample) = some [] := by
    rw [hstts, Option.bind_some, stts_read hfits]
    rfl
  have hentries : (content (code 's' 't' 's' 'c') bs).bind (run sampleToChunk) = some [] := by
    rw [hstsc', Option.bind_some, hstsc]
  refine indexedSamples_eq hpath (spells_spell (named_tableBoxes _ _ _) htables 0) hruns rfl ?_
    hentries (by simp) hoffsets hsync (by simp) .nil
  rw [hstsz, Option.bind_some, stsz_read hfits]
  rfl

/-- A fragmented file. -/
theorem samples_fragmented {file : Bytes} {tr : Track} {ss : List MediaSample}
    (hfile : file = boxFtyp ++ (boxMoov true [tr] ++ fragments 1 ss))
    (hsamples : ∀ s ∈ ss, s.data.length + 8 < 256 ^ 4 ∧ s.duration < 256 ^ 4)
    (hsize : (boxMoov true [tr]).length < 256 ^ 4) : samples file = some ss := by
  have hmoov : (spell (moovBoxes true [tr])).length + 8 = (boxMoov true [tr]).length := by
    rw [boxMoov_eq, boxed_length]
  let moov : Box := ⟨fourCharInt 'm' 'o' 'o' 'v', spell (moovBoxes true [tr])⟩
  let front := boxFtyp ++ boxMoov true [tr]
  have htop : Spells 0 file
      ((0, ftypBox) :: (24, moov) :: fragmentBoxes front.length 1 ss) := by
    have hindex : Reads box (boxMoov true [tr]) moov := by
      rw [boxMoov_eq]
      exact reads_boxed (by decide) (by omega)
    have hlength : front.length = 0 + boxFtyp.length + (boxMoov true [tr]).length := by
      rw [List.length_append, Nat.zero_add]
    rw [hfile, hlength]
    refine .cons reads_ftyp (by decide) (.cons hindex ?_
      (spells_fragments _ 1 fun s hs => (hsamples s hs).1))
    rw [← List.length_pos_iff]
    omega
  have hcontent : content (code 'm' 'o' 'o' 'v')
      ((0, ftypBox) :: (24, moov) :: fragmentBoxes front.length 1 ss) =
      some (spell (moovBoxes true [tr])) := rfl
  have hfragments : named (code 'm' 'o' 'o' 'f')
      ((0, ftypBox) :: (24, moov) :: fragmentBoxes front.length 1 ss) =
      named (code 'm' 'o' 'o' 'f') (fragmentBoxes front.length 1 ss) := rfl
  have hsplit : file = front ++ fragments 1 ss := by
    rw [hfile, List.append_assoc]
  have hread := samples_fragments hsplit hsamples
  have htrak : (trakContent true 0 [] tr).length < 256 ^ 4 := by
    have hboxes : moovBoxes true [tr] = [other (fourCharInt 'm' 'v' 'h' 'd') (boxMvhd [tr]),
        ⟨fourCharInt 't' 'r' 'a' 'k', trakContent true 0 [] tr⟩,
        other (fourCharInt 'm' 'v' 'e' 'x') (boxMvex [tr])] := rfl
    simp only [hboxes, spell_cons, List.length_append, boxed_length] at hmoov
    omega
  have htraks : (named (code 't' 'r' 'a' 'k') (placed 0 (moovBoxes true [tr]))).mapM
      (fun p => indexedSamples file p.2.content) = some [[]] := by
    have hmap := named_trak true (Nat.le_refl [tr].length)
    have hone : (([tr].flatMap (trackBoxes true 0)).map Box.content).mapM
        (indexedSamples file) = some [[]] := by
      have hbox : ([tr].flatMap (trackBoxes true 0)).map Box.content =
          [trakContent true 0 [] tr] := rfl
      rw [hbox, List.mapM_cons, indexedSamples_empty htrak]
      rfl
    rw [← hone, ← hmap, List.mapM_map]
    rfl
  unfold samples
  rw [boxes_of_spells htop]
  simp only [Option.bind_eq_bind, Option.bind_some, hcontent,
    boxes_of_spells (spells_spell (named_moovBoxes true [tr]) (by omega) 0), hfragments, htraks,
    hread]
  have hsingle : (ss.map fun s => [s]).flatten = ss := by
    rw [← List.flatMap_def]
    exact List.flatMap_singleton' ss
  simp [hsingle]

/-! ## The size of the index -/

theorem write2_length (x : Nat) : (write2 x).length = 2 :=
  rfl

theorem write1_length (x : Nat) : (write1 x).length = 1 :=
  rfl

theorem atomFull_length (name flag : Nat) (content : Bytes) :
    (atomFull name flag content).length = content.length + 12 := by
  rw [atomFull, atom_length, List.length_append, write4_length]
  omega

/-- The length of a table, from that of an entry. -/
theorem length_flatMap_entries {α : Type} {k : Nat} {f : α → Bytes}
    (h : ∀ a, (f a).length = k) (l : List α) : (l.flatMap f).length = k * l.length := by
  induction l with
  | nil => rfl
  | cons a l ih =>
      rw [List.flatMap_cons, List.length_append, h, ih, List.length_cons, Nat.mul_succ]
      omega

/-- What the samples take of the tables, besides the headers. -/
def tableBytes (samples : List Sample) : Nat :=
  8 * (sttsEntries 1 samples).length + 4 * samples.length +
    (if samples.getLast?.any fun s => 0xffffffff < s.offset then 8 else 4) * samples.length +
    (if samples.countP Sample.flagRandomAccess = samples.length then 0
      else 16 + 4 * samples.countP Sample.flagRandomAccess)

/-- At most 24 bytes for a sample. -/
theorem tableBytes_le (samples : List Sample) :
    tableBytes samples ≤ 24 * samples.length + 12 := by
  have hruns := sttsEntries_length_le 1 samples
  have hfew : samples.countP Sample.flagRandomAccess ≤ samples.length := List.countP_le_length
  unfold tableBytes
  split <;> split <;> omega

/-- Offsets take four bytes each, or eight if the last does not fit. -/
theorem boxStco_length (samples : List Sample) :
    (boxStco samples).length = 16 +
      (if samples.getLast?.any fun s => 0xffffffff < s.offset then 8 else 4) *
        samples.length := by
  unfold boxStco
  split
  · rw [atomFull_length, List.length_append, write4_length,
      length_flatMap_entries (k := 8) (fun _ => rfl)]
    omega
  · rw [atomFull_length, List.length_append, write4_length,
      length_flatMap_entries (k := 4) (fun _ => rfl)]
    omega

/-- Sync numbers are left out if all samples are random access. -/
theorem boxStss_length (samples : List Sample) :
    (boxStss samples).length =
      if samples.countP Sample.flagRandomAccess = samples.length then 0
      else 16 + 4 * samples.countP Sample.flagRandomAccess := by
  have hcount : (samples.zipIdx.filter fun s => s.1.flagRandomAccess).length =
      samples.countP Sample.flagRandomAccess := by
    have hmap : samples.zipIdx.map Prod.fst = samples := List.zipIdx_map_fst 0 samples
    rw [← List.countP_eq_length_filter]
    nth_rewrite 2 [← hmap]
    rw [List.countP_map]
    rfl
  unfold boxStss
  simp only
  split
  · rfl
  · rw [atomFull_length, List.length_append, write4_length,
      flatMap_filter_eq (fun s : Sample × Nat => s.1.flagRandomAccess),
      length_flatMap_entries (k := 4) (fun _ => rfl), hcount]
    omega

/-- The length of the tables. -/
theorem boxTables_length (enableFragmentation : Bool) (samples : List Sample) :
    (boxStts samples).length + (boxStsc enableFragmentation).length + (boxStsz samples).length +
      (boxStco samples).length + (boxStss samples).length =
        (if enableFragmentation then 68 else 80) + tableBytes samples := by
  have hstts : (boxStts samples).length = 16 + 8 * (sttsEntries 1 samples).length := by
    rw [boxStts, atomFull_length, List.length_append, write4_length,
      length_flatMap_entries (k := 8) (fun _ => rfl)]
    omega
  have hstsc : (boxStsc enableFragmentation).length = if enableFragmentation then 16 else 28 := by
    cases enableFragmentation <;> rfl
  have hstsz : (boxStsz samples).length = 20 + 4 * samples.length := by
    rw [boxStsz, atomFull_length, List.length_append, List.length_append, write4_length,
      write4_length, length_flatMap_entries (k := 4) (fun _ => rfl)]
    omega
  rw [hstts, hstsc, hstsz, boxStco_length, boxStss_length, tableBytes]
  cases enableFragmentation
  · simp only [Bool.false_eq_true, if_false]
    omega
  · simp only [if_true]
    omega

/-- The descriptions take their fixed part and the parameter sets. -/
theorem boxStsd_length (tr : Track) : (boxStsd tr).length = 142 + tr.setBytes := by
  have hhvcC : (boxHvcC tr).length = 40 + tr.setBytes := by
    simp only [boxHvcC, atom_length, List.length_append, write1_length, write2_length,
      write4_length, Track.setBytes]
    omega
  simp only [boxStsd, atomFull_length, atom_length, List.length_append, write2_length,
    write4_length, List.length_replicate, hhvcC]
  omega

/-- The length of the index of a track, unless it is left out. -/
theorem boxTrak_length {enableFragmentation : Bool} {tr : Track}
    (h : enableFragmentation = false → tr.smpl.data ≠ []) :
    (boxTrak enableFragmentation 0 tr).length =
      tr.setBytes +
        if enableFragmentation then 467 else 479 + tableBytes tr.smpl.data := by
  have htkhd : (boxTkhd 0 tr).length = 92 := by
    simp only [boxTkhd, atomFull_length, List.length_append, write2_length, write4_length,
      unityMatrix]
  have hmdhd : (boxMdhd tr).length = 32 := by
    simp only [boxMdhd, atomFull_length, List.length_append, write2_length, write4_length]
  have hhdlr : boxHdlr.length = 45 := by decide
  have htables := boxTables_length enableFragmentation
    (if enableFragmentation then [] else tr.smpl.data)
  have hkept : (!enableFragmentation &&
      (if enableFragmentation then [] else tr.smpl.data).isEmpty) = false := by
    cases enableFragmentation
    · simpa using h rfl
    · rfl
  unfold boxTrak
  simp only [hkept, Bool.false_eq_true, if_false]
  simp only [boxMinf, boxStbl, atom_length, atomFull_length, List.length_append, htkhd, hmdhd,
    hhdlr, boxStsd_length, write2_length, write4_length, List.length_nil]
  cases enableFragmentation
  · simp only [Bool.false_eq_true, if_false] at htables ⊢
    omega
  · have hnone : tableBytes [] = 0 := rfl
    simp only [if_true, hnone] at htables ⊢
    omega

/-- A track without samples is left out of the index. -/
theorem boxTrak_empty {tr : Track} (h : tr.smpl.data = []) : boxTrak false 0 tr = [] := by
  simp [boxTrak, h]

/-- The length of the index of one track. -/
theorem boxMoov_length (enableFragmentation : Bool) (tr : Track) :
    (boxMoov enableFragmentation [tr]).length =
      (boxTrak enableFragmentation 0 tr).length + if enableFragmentation then 172 else 116 := by
  have hmvhd : (boxMvhd [tr]).length = 108 := by
    simp only [boxMvhd, atomFull_length, List.length_append, write2_length, write4_length,
      unityMatrix]
  have hmvex : (boxMvex [tr]).length = 56 := by
    simp only [boxMvex, List.zipIdx_singleton, List.flatMap_singleton, atom_length,
      atomFull_length, List.length_append, write4_length]
  have htracks : ([tr].zipIdx.flatMap fun tr => boxTrak enableFragmentation tr.2 tr.1) =
      boxTrak enableFragmentation 0 tr := by
    rw [List.zipIdx_singleton, List.flatMap_singleton]
  rw [boxMoov, atom_length, List.length_append, List.length_append, hmvhd, htracks]
  cases enableFragmentation
  · simp only [Bool.false_eq_true, if_false, List.length_nil]
    omega
  · simp only [if_true, hmvex]
    omega

/-- The length of the index of no track. -/
theorem boxMoov_length_nil (enableFragmentation : Bool) :
    (boxMoov enableFragmentation []).length = if enableFragmentation then 132 else 108 := by
  have hmvhd : (boxMvhd []).length = 100 := by
    simp only [boxMvhd, atomFull_length, List.length_append, write2_length, write4_length,
      unityMatrix, List.length_nil]
  have hmvex : (boxMvex []).length = 24 := by
    simp only [boxMvex, List.zipIdx_nil, List.flatMap_nil, atom_length, atomFull_length,
      List.length_append, write4_length, List.length_nil]
  rw [boxMoov, atom_length, List.length_append, List.length_append, hmvhd, List.zipIdx_nil,
    List.flatMap_nil, List.length_nil]
  cases enableFragmentation
  · rfl
  · simp only [if_true, hmvex]

/-- The index of at most one track. -/
theorem boxMoov_length_le (enableFragmentation : Bool) {tracks : List Track} (n : Nat)
    (h : tracks.length ≤ 1)
    (hn : enableFragmentation = false → (tracks.getD 0 {}).smpl.data.length ≤ n) :
    (boxMoov enableFragmentation tracks).length ≤
      24 * n + (tracks.getD 0 {}).setBytes + 1000 := by
  rcases tracks with _ | ⟨tr, _ | ⟨_, _⟩⟩
  · rw [boxMoov_length_nil]
    split <;> omega
  · rw [boxMoov_length]
    change _ ≤ 24 * n + tr.setBytes + 1000
    cases enableFragmentation with
    | true =>
        rw [boxTrak_length (by simp)]
        simp only [if_true]
        omega
    | false =>
        have hfew : tr.smpl.data.length ≤ n := hn rfl
        simp only [Bool.false_eq_true, if_false]
        by_cases hnone : tr.smpl.data = []
        · rw [boxTrak_empty hnone, List.length_nil]
          omega
        · have hbytes := tableBytes_le tr.smpl.data
          rw [boxTrak_length fun _ => hnone]
          simp only [Bool.false_eq_true, if_false]
          omega
  · simp at h

/-! ## Finished files -/

/-- The sample data of standard mode are in one box, behind `free` if its size has four
bytes. -/
theorem spells_mdat {data : Bytes} (hlength : data.length + 16 < 256 ^ 8) (pos : Nat) :
    ∃ bs, Spells pos (mdatHeader (40 + data.length) ++ data) bs ∧
      content (code 'm' 'o' 'o' 'v') bs = none ∧ named (code 'm' 'o' 'o' 'f') bs = [] := by
  have hsize : 40 + data.length - boxFtyp.length = data.length + 16 := by
    change 40 + data.length - 24 = _
    omega
  unfold mdatHeader
  simp only [hsize]
  split
  · -- a size of eight bytes
    have hbox : write4 1 ++ write4 (fourCharInt 'm' 'd' 'a' 't') ++
        write4 ((data.length + 16) >>> 32) ++ write4 (data.length + 16) ++ data =
        longBoxed (fourCharInt 'm' 'd' 'a' 't') data := by
      rw [longBoxed, ← write8_eq, ← write4_eq, ← write4_eq]
      simp only [List.append_assoc]
    rw [hbox]
    exact ⟨_, spells_longBoxed (by decide) hlength, rfl, rfl⟩
  · have hbox : write4 8 ++ write4 (fourCharInt 'f' 'r' 'e' 'e') ++ write4 (data.length + 16 - 8) ++
        write4 (fourCharInt 'm' 'd' 'a' 't') ++ data =
        boxed (fourCharInt 'f' 'r' 'e' 'e') [] ++ boxed (fourCharInt 'm' 'd' 'a' 't') data := by
      have hless : data.length + 16 - 8 = data.length + 8 := by omega
      rw [boxed, boxed, ← write4_eq, ← write4_eq, ← write4_eq, ← write4_eq, hless]
      simp only [List.append_assoc, List.append_nil, List.length_nil, Nat.zero_add]
    rw [hbox]
    exact ⟨_, (spells_boxed (by decide) (by decide)).append
      (spells_boxed (by decide) (by omega)), rfl, rfl⟩

/-- The boxes of sequential mode. -/
theorem spells_chunks {ss : List MediaSample} (hsamples : ∀ s ∈ ss, s.data.length + 8 < 256 ^ 4)
    (pos : Nat) :
    ∃ bs, Spells pos (chunks ss) bs ∧ content (code 'm' 'o' 'o' 'v') bs = none ∧
      named (code 'm' 'o' 'o' 'f') bs = [] := by
  induction ss generalizing pos with
  | nil => exact ⟨[], .nil pos, rfl, rfl⟩
  | cons s ss ih =>
      have hbox : Spells pos (mdat s.data) [(pos, ⟨fourCharInt 'm' 'd' 'a' 't', s.data⟩)] := by
        rw [mdat, atom_eq]
        exact spells_boxed (by decide) (hsamples s List.mem_cons_self)
      rcases ih (fun t ht => hsamples t (List.mem_cons_of_mem s ht))
        (pos + (mdat s.data).length) with ⟨bs, hspells, hnone, hmoof⟩
      exact ⟨_, hbox.append hspells, hnone, hmoof⟩

/-- A finished file with an index: `ftyp`, boxes without an index of their own, and `moov`, which
describes the samples behind their headers. -/
structure Indexed (sets : ParameterSet → Bytes) (file : Bytes) (ss : List MediaSample)
    (tracks : List Track) : Prop where
  one : tracks.length ≤ 1
  holds : (tracks.getD 0 {}).Holds sets
  samples : ∃ (header : MediaSample → Bytes) (gap : Nat) (front : Bytes),
    (∀ s, (header s).length = gap) ∧
    file = front ++ ((ss.flatMap fun s => header s ++ s.data) ++ boxMoov false tracks) ∧
    (tracks.getD 0 {}).smpl.data = descriptors gap front.length ss
  boxes : ∃ middle bs, file = boxFtyp ++ (middle ++ boxMoov false tracks) ∧
    Spells (0 + boxFtyp.length) middle bs ∧ content (code 'm' 'o' 'o' 'v') bs = none ∧
    named (code 'm' 'o' 'o' 'f') bs = []

/-- Without fragmentation a finished file has an index. -/
theorem Finished.indexed {sets : ParameterSet → Bytes} {file : Bytes} {ss : List MediaSample}
    (h : Finished sets file ss false) (hlength : file.length < 256 ^ 8)
    (hsamples : ∀ s ∈ ss, s.data.length + 8 < 256 ^ 4) :
    ∃ tracks, Indexed sets file ss tracks := by
  cases h with
  | standard tracks one hholds hdescriptors hfile =>
      have hlong : (dataOf ss).length + 16 < 256 ^ 8 := by
        rw [hfile] at hlength
        simp only [List.length_append, mdatHeader_length] at hlength
        have hftyp : boxFtyp.length = 24 := rfl
        omega
      have hfront : (boxFtyp ++ mdatHeader (40 + (dataOf ss).length)).length = 40 := by
        rw [List.length_append, mdatHeader_length]
        rfl
      rcases spells_mdat hlong (0 + boxFtyp.length) with ⟨bs, hspells, hnone, hmoof⟩
      refine ⟨tracks, one, hholds, ⟨fun _ => [], 0, boxFtyp ++ mdatHeader (40 + (dataOf ss).length),
        fun _ => rfl, ?_, ?_⟩, ⟨_, bs, ?_, hspells, hnone, hmoof⟩⟩
      · rw [hfile, List.append_assoc _ (dataOf ss)]
        rfl
      · rw [hfront, hdescriptors]
      · rw [hfile]
        simp only [List.append_assoc]
  | sequential tracks one hholds hdescriptors hfile =>
      rcases spells_chunks hsamples (0 + boxFtyp.length) with ⟨bs, hspells, hnone, hmoof⟩
      refine ⟨tracks, one, hholds, ⟨fun s => pendingHeader s.data, 8, boxFtyp, fun _ => rfl, ?_,
        hdescriptors⟩, ⟨chunks ss, bs, ?_, hspells, hnone, hmoof⟩⟩
      · rw [hfile, List.append_assoc]
        rfl
      · rw [hfile, List.append_assoc]

/-- The size of the index. -/
theorem Indexed.index_length {sets : ParameterSet → Bytes} {file : Bytes} {ss : List MediaSample}
    {tracks : List Track} (h : Indexed sets file ss tracks) :
    (boxMoov false tracks).length ≤ 24 * ss.length + bytesOfSets sets + 1000 := by
  rcases h.samples with ⟨header, gap, front, -, -, hdescriptors⟩
  have hmoov := boxMoov_length_le false ss.length h.one
    (fun _ => by rw [hdescriptors, descriptors_length])
  rwa [h.holds.setBytes] at hmoov

/-- The boxes of a file with an index. -/
theorem Indexed.top {sets : ParameterSet → Bytes} {file : Bytes} {ss : List MediaSample}
    {tracks : List Track} (h : Indexed sets file ss tracks)
    (hsize : (boxMoov false tracks).length < 256 ^ 4) :
    ∃ top, Spells 0 file top ∧
      content (code 'm' 'o' 'o' 'v') top = some (spell (moovBoxes false tracks)) ∧
      named (code 'm' 'o' 'o' 'f') top = [] := by
  rcases h.boxes with ⟨middle, bs, hboxes, hspells, hnone, hmoof⟩
  let moov : Box := ⟨fourCharInt 'm' 'o' 'o' 'v', spell (moovBoxes false tracks)⟩
  have hindex : ∀ pos, Spells pos (boxMoov false tracks) [(pos, moov)] := by
    intro pos
    rw [boxMoov_eq, boxed_length] at hsize
    rw [boxMoov_eq]
    exact spells_boxed (by decide) hsize
  have hftyp : Spells 0 boxFtyp [(0, ftypBox)] := .one reads_ftyp (by decide)
  have htop := hftyp.append (hspells.append (hindex _))
  rw [← hboxes] at htop
  refine ⟨_, htop, ?_, ?_⟩
  · rw [content_append, content_append, hnone]
    rfl
  · rw [named, List.filter_append, List.filter_append]
    have hrest : bs.filter (fun b => decide (b.2.name = code 'm' 'o' 'o' 'f')) = [] := hmoof
    rw [hrest]
    rfl

/-- The content of `moov` is smaller than the box. -/
theorem moovBoxes_length_lt {tracks : List Track}
    (hsize : (boxMoov false tracks).length < 256 ^ 4) :
    (spell (moovBoxes false tracks)).length < 256 ^ 4 := by
  rw [boxMoov_eq, boxed_length] at hsize
  omega

/-- The samples of a finished file are read back. -/
theorem Finished.plays {sets : ParameterSet → Bytes} {file : Bytes} {ss : List MediaSample}
    {fragmentation : Bool} (h : Finished sets file ss fragmentation)
    (hne : ss ≠ []) (hlength : file.length < 256 ^ 8)
    (hsamples : ∀ s ∈ ss, s.data.length + 8 < 256 ^ 4 ∧ s.duration < 256 ^ 4)
    (hindex : 24 * ss.length + bytesOfSets sets + 1000 < 256 ^ 4) :
    samples file = some ss := by
  cases fragmentation with
  | false =>
      have hfits : ∀ s ∈ ss, s.data.length < 256 ^ 4 ∧ s.duration < 256 ^ 4 := by
        intro s hs
        have hboth := hsamples s hs
        omega
      rcases h.indexed hlength fun s hs => (hsamples s hs).1 with ⟨tracks, hindexed⟩
      have hsize : (boxMoov false tracks).length < 256 ^ 4 := by
        have hmoov := hindexed.index_length
        omega
      rcases hindexed.top hsize with ⟨top, htop, hcontent, hnone⟩
      rcases hindexed.samples with ⟨header, gap, front, hgap, hdata, hdescriptors⟩
      exact samples_indexed hgap hdata hlength hfits htop hcontent hnone hindexed.one
        (moovBoxes_length_lt hsize) hdescriptors
  | true =>
      cases h with
      | fragmented tr hnone hfew hfile =>
          have hempty : ss.isEmpty = false := by
            simpa using hne
          have hpart : fragmentedPart tr ss = boxMoov true [tr] ++ fragments 1 ss := by
            rw [fragmentedPart, hempty, if_neg Bool.false_ne_true]
          have hmoov := boxMoov_length_le true 0 (Nat.le_refl [tr].length)
            (fun hfalse => by contradiction)
          have hsets : ([tr].getD 0 {}).setBytes ≤ bytesOfSets sets :=
            Nat.add_le_add (Nat.add_le_add (hfew .vps) (hfew .sps)) (hfew .pps)
          rw [hpart] at hfile
          exact samples_fragmented hfile hsamples (by omega)

end Minimp4
end PixelPilot
