import PixelPilot.Library.Block

/-!
# Copying a packet

`copy_packet_data` moves the bytes of a packet into the decoder's packet buffer, with the
16-byte registers of NEON where the build has them, else with `memcpy`.

Main results:

- Definition `copyPacketData`: both paths, on a memory that remembers its accesses.
- Theorem `copyPacketData_moved`: either path moves the packet.
- Theorem `copyPacketData_paths`: both paths do the same, and what they do.
- Theorem `packetBufAfter_eq`: the packet buffer after a copy.

Current gaps:

- Addresses and sizes are natural numbers: an offset is never more than the size of a
  packet, so `size_t` does not wrap.
-/

namespace PixelPilot
namespace Decoder

open Block (Machine Moved Apart Within strides)

/-! ## The two paths -/

/-- `uint8x16_t`. -/
abbrev Uint8x16 := Fin 16 → UInt8

/-- `vld1q_u8`. -/
def vld1qU8 (s : Machine UInt8) (a : Nat) : Uint8x16 × Machine UInt8 :=
  s.load a 16

/-- `vst1q_u8`. -/
def vst1qU8 (s : Machine UInt8) (a : Nat) (v : Uint8x16) : Machine UInt8 :=
  s.store a v

/-- `memcpy`, for blocks that do not overlap. -/
def memcpy (s : Machine UInt8) (dst src n : Nat) : Machine UInt8 :=
  s.move dst src n

/-- `vst1q_u8(dst + offset, vld1q_u8(src + offset))`. -/
def quadStep (dst src offset : Nat) (s : Machine UInt8) : Machine UInt8 :=
  let (v, s) := vld1qU8 s (src + offset)
  vst1qU8 s (dst + offset) v

/-- The body of the loop over 64 bytes. -/
def burst (dst src offset : Nat) (s : Machine UInt8) : Machine UInt8 :=
  let s := quadStep dst src offset s
  let s := quadStep dst src (offset + 16) s
  let s := quadStep dst src (offset + 32) s
  quadStep dst src (offset + 48) s

/-- `copy_packet_data`; `neon` is `PIXELPILOT_NEON_AVAILABLE`. -/
def copyPacketData (neon : Bool) (dst src size : Nat) (s : Machine UInt8) : Machine UInt8 :=
  if neon then
    if size = 0 then s
    else
      let (offset, s) := strides 64 (burst dst src) size 0 s
      let (offset, s) := strides 16 (quadStep dst src) size offset s
      if offset < size then memcpy s (dst + offset) (src + offset) (size - offset) else s
  else if 0 < size then memcpy s dst src size
  else s

/-! ## What is copied -/

/-- The first `offset` bytes are copied. -/
structure Progress (s : Machine UInt8) (dst src size offset : Nat) (t : Machine UInt8) :
    Prop where
  le : offset ≤ size
  moved : Moved s t dst src offset

variable {s t : Machine UInt8} {dst src size offset : Nat}

theorem Progress.start (s : Machine UInt8) (dst src size : Nat) :
    Progress s dst src size 0 s :=
  ⟨Nat.zero_le size, Moved.refl s dst src⟩

/-- A turn of sixteen bytes. -/
theorem Progress.quadStep (hapart : Apart src dst size) (hmore : offset + 16 ≤ size)
    (h : Progress s dst src size offset t) :
    Progress s dst src size (offset + 16) (quadStep dst src offset t) where
  le := hmore
  moved := h.moved.move 16 (hapart.mono hmore)

/-- A turn of four of those. -/
theorem Progress.burst (hapart : Apart src dst size) (hmore : offset + 64 ≤ size)
    (h : Progress s dst src size offset t) :
    Progress s dst src size (offset + 64) (burst dst src offset t) := by
  have hfirst := h.quadStep hapart (by omega)
  have hsecond := hfirst.quadStep hapart (by omega)
  have hthird := hsecond.quadStep hapart (by omega)
  exact hthird.quadStep hapart (by omega)

/-- Either path moves the packet, and touches nothing else. -/
theorem copyPacketData_moved (neon : Bool) (s : Machine UInt8) {dst src size : Nat}
    (hapart : Apart src dst size) :
    Moved s (copyPacketData neon dst src size s) dst src size := by
  unfold copyPacketData
  cases neon with
  | false =>
      simp only [Bool.false_eq_true, if_false]
      split
      · exact Block.moved_move s dst src size
      · rename_i hempty
        obtain rfl : size = 0 := by omega
        exact Moved.refl s dst src
  | true =>
      simp only [if_true]
      split
      · rename_i hempty
        subst hempty
        exact Moved.refl s dst src
      · have hbursts := Block.strides_invariant (Progress s dst src size)
          (fun offset t hmore h => h.burst hapart hmore) 0 s (Progress.start s dst src size)
        have hsteps := Block.strides_invariant (Progress s dst src size)
          (fun offset t hmore h => h.quadStep hapart hmore) _ _ hbursts
        split
        · -- The tail begins where the loops have stopped.
          have htail := hsteps.moved.move (size - _) (by rwa [Nat.add_sub_cancel' hsteps.le])
          rwa [Nat.add_sub_cancel' hsteps.le] at htail
        · rename_i hdone
          have hall := Nat.le_antisymm hsteps.le (Nat.le_of_not_lt hdone)
          have hmoved := hsteps.moved
          rwa [hall] at hmoved

/-- A packet of `size` bytes was copied into the memory `m`. -/
structure Copied (m : Nat → UInt8) (t : Machine UInt8) (dst src size : Nat) : Prop where
  copied : ∀ i < size, t.memory (dst + i) = m (src + i)
  kept : ∀ a, a < dst ∨ dst + size ≤ a → t.memory a = m a
  loads : ∀ x ∈ t.loads, Within src size x
  stores : ∀ x ∈ t.stores, Within dst size x

/-- Bytes that were moved are copied. -/
theorem Copied.of_moved {m : Nat → UInt8} (h : Moved { memory := m } t dst src size) :
    Copied m t dst src size where
  copied i hi := by
    rw [h.memory]
    exact Block.copy_inside m hi
  kept a ha := by
    rw [h.memory]
    exact Block.copy_outside m ha
  loads x hx := (h.loads x hx).resolve_left List.not_mem_nil
  stores x hx := (h.stores x hx).resolve_left List.not_mem_nil

/-- Both paths leave the same memory: the packet at its destination and all other bytes as
they were.  Neither path touches a byte beyond the packet. -/
theorem copyPacketData_paths (m : Nat → UInt8) (dst src size : Nat)
    (hapart : Apart src dst size) :
    (copyPacketData true dst src size { memory := m }).memory =
        (copyPacketData false dst src size { memory := m }).memory ∧
      ∀ neon, Copied m (copyPacketData neon dst src size { memory := m }) dst src size := by
  have hmoved neon := copyPacketData_moved neon { memory := m } hapart
  exact ⟨(hmoved true).memory.trans (hmoved false).memory.symm,
    fun neon => Copied.of_moved (hmoved neon)⟩

/-- A packet with every kind of piece: one burst, two steps and a tail. -/
theorem copyPacketData_paths_pieces :
    Apart 0 200 103 ∧
      (copyPacketData true 200 0 103 { memory := fun a => UInt8.ofNat a }).memory =
        (copyPacketData false 200 0 103 { memory := fun a => UInt8.ofNat a }).memory ∧
      ∀ neon, Copied (fun a => UInt8.ofNat a)
        (copyPacketData neon 200 0 103 { memory := fun a => UInt8.ofNat a }) 200 0 103 := by
  have hapart : Apart 0 200 103 := .inl (by decide)
  exact ⟨hapart, copyPacketData_paths (fun a => UInt8.ofNat a) 200 0 103 hapart⟩

/-! ## The packet buffer -/

/-- The packet buffer `buf` after `data`, which lies behind it in the memory, was copied. -/
def packetBufAfter (neon : Bool) (buf data : List UInt8) : List UInt8 :=
  let s : Machine UInt8 := { memory := fun a => (buf ++ data).getD a 0 }
  (List.range buf.length).map (copyPacketData neon 0 buf.length data.length s).memory

/-- The packet, and behind it what was there before. -/
theorem packetBufAfter_eq (neon : Bool) {buf data : List UInt8}
    (hfits : data.length ≤ buf.length) :
    packetBufAfter neon buf data = data ++ buf.drop data.length := by
  have hcopied := Copied.of_moved (copyPacketData_moved neon
    { memory := fun a => (buf ++ data).getD a 0 }
    (show Apart buf.length 0 data.length from .inr (by omega)))
  apply List.ext_getElem
  · simp [packetBufAfter, hfits]
  · intro i hi hi'
    have hin : i < buf.length := by simpa [packetBufAfter] using hi
    simp only [packetBufAfter, List.getElem_map, List.getElem_range]
    by_cases hpacket : i < data.length
    · have hbyte := hcopied.copied i hpacket
      rw [Nat.zero_add] at hbyte
      rw [hbyte, List.getElem_append_left hpacket]
      simp [hpacket]
    · rw [hcopied.kept i (.inr (by omega)), List.getElem_append_right (by omega),
        List.getElem_drop]
      have hsame : data.length + (i - data.length) = i := by omega
      simp [List.getElem?_append_left, hin, hsame]

end Decoder
end PixelPilot
