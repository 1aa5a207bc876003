import Mathlib.Data.Nat.Notation

/-!
# Moving a block in pieces

A machine has a memory and remembers which cells were loaded and stored.  A block may be
moved at once, or piece by piece with loops that go on by a fixed stride.

Main results:

- Definitions `Machine.move` and `strides`: one piece, and a loop of pieces.
- Theorem `Moved.trans`: a piece behind a moved piece makes a longer moved piece, when
  source and destination do not overlap.
- Theorem `strides_invariant`: the rule for such a loop.
-/

namespace Block

universe u

variable {α : Type u}

/-- A memory, with the address and the length of every access. -/
structure Machine (α : Type u) where
  memory : Nat → α
  loads : List (Nat × Nat) := []
  stores : List (Nat × Nat) := []

/-- Load `n` cells. -/
def Machine.load (s : Machine α) (a n : Nat) : (Fin n → α) × Machine α :=
  (fun i => s.memory (a + i), { s with loads := s.loads ++ [(a, n)] })

/-- Store `n` cells. -/
def Machine.store {n : Nat} (s : Machine α) (a : Nat) (v : Fin n → α) : Machine α :=
  { s with
    memory := fun b =>
      if h : a ≤ b ∧ b < a + n then v ⟨b - a, by omega⟩ else s.memory b
    stores := s.stores ++ [(a, n)] }

/-- Load `n` cells and store them. -/
def Machine.move (s : Machine α) (dst src n : Nat) : Machine α :=
  let (v, s) := s.load src n
  s.store dst v

/-! ## What a move does -/

/-- The memory after `n` cells were moved. -/
def copy (m : Nat → α) (dst src n : Nat) : Nat → α := fun b =>
  if dst ≤ b ∧ b < dst + n then m (src + (b - dst)) else m b

/-- The copied bytes are those of the source. -/
theorem copy_inside (m : Nat → α) {dst src n i : Nat} (hi : i < n) :
    copy m dst src n (dst + i) = m (src + i) := by
  unfold copy
  rw [if_pos ⟨Nat.le_add_right dst i, Nat.add_lt_add_left hi dst⟩, Nat.add_sub_cancel_left]

/-- Everything outside the destination stays. -/
theorem copy_outside (m : Nat → α) {dst src n b : Nat} (hb : b < dst ∨ dst + n ≤ b) :
    copy m dst src n b = m b := by
  unfold copy
  rw [if_neg (by omega)]

/-- Neither block reaches into the other. -/
def Apart (src dst n : Nat) : Prop :=
  src + n ≤ dst ∨ dst + n ≤ src

/-- An access does not leave the block of `n` cells at `a`. -/
def Within (a n : Nat) (access : Nat × Nat) : Prop :=
  a ≤ access.1 ∧ access.1 + access.2 ≤ a + n

/-- Two pieces in a row are one. -/
theorem copy_copy (m : Nat → α) {dst src n k : Nat} (hapart : Apart src dst (n + k)) :
    copy (copy m dst src n) (dst + n) (src + n) k = copy m dst src (n + k) := by
  funext b
  by_cases hfirst : dst ≤ b ∧ b < dst + n
  · obtain ⟨i, rfl⟩ : ∃ i, b = dst + i := ⟨b - dst, by omega⟩
    have hi : i < n := by omega
    rw [copy_outside _ (by omega), copy_inside m hi, copy_inside m (by omega)]
  · by_cases hsecond : dst + n ≤ b ∧ b < dst + n + k
    · obtain ⟨i, rfl⟩ : ∃ i, b = dst + n + i := ⟨b - (dst + n), by omega⟩
      have hi : i < k := by omega
      have hsource : src + n + i < dst ∨ dst + n ≤ src + n + i := by
        rcases hapart with hbefore | hafter
        · exact .inl (by omega)
        · exact .inr (by omega)
      rw [copy_inside _ hi, copy_outside m hsource, Nat.add_assoc dst, Nat.add_assoc src,
        copy_inside m (by omega)]
    · rw [copy_outside _ (by omega), copy_outside m (by omega), copy_outside m (by omega)]

/-- `n` cells were moved, and nothing else was loaded or stored. -/
structure Moved (s t : Machine α) (dst src n : Nat) : Prop where
  memory : t.memory = copy s.memory dst src n
  loads : ∀ x ∈ t.loads, x ∈ s.loads ∨ Within src n x
  stores : ∀ x ∈ t.stores, x ∈ s.stores ∨ Within dst n x

variable {s t u : Machine α} {dst src n k : Nat}

theorem Moved.refl (s : Machine α) (dst src : Nat) : Moved s s dst src 0 where
  memory := by
    funext b
    exact (copy_outside s.memory (by omega)).symm
  loads x hx := .inl hx
  stores x hx := .inl hx

/-- A single move has moved its bytes. -/
theorem moved_move (s : Machine α) (dst src n : Nat) :
    Moved s (s.move dst src n) dst src n where
  memory := by
    funext b
    simp only [Machine.move, Machine.load, Machine.store, copy]
    split <;> rfl
  loads x hx := by
    rcases List.mem_append.mp hx with hx | hx
    · exact .inl hx
    · rw [List.mem_singleton.mp hx]
      exact .inr ⟨Nat.le_refl src, Nat.le_refl (src + n)⟩
  stores x hx := by
    rcases List.mem_append.mp hx with hx | hx
    · exact .inl hx
    · rw [List.mem_singleton.mp hx]
      exact .inr ⟨Nat.le_refl dst, Nat.le_refl (dst + n)⟩

theorem Within.front {a : Nat} {x : Nat × Nat} (h : Within a n x) : Within a (n + k) x := by
  unfold Within at *
  omega

theorem Within.back {a : Nat} {x : Nat × Nat} (h : Within (a + n) k x) :
    Within a (n + k) x := by
  unfold Within at *
  omega

/-- Two moves that follow each other are one. -/
theorem Moved.trans (h : Moved s t dst src n) (h' : Moved t u (dst + n) (src + n) k)
    (hapart : Apart src dst (n + k)) : Moved s u dst src (n + k) where
  memory := by rw [h'.memory, h.memory, copy_copy s.memory hapart]
  loads x hx := by
    rcases h'.loads x hx with hx | hx
    · exact (h.loads x hx).imp_right Within.front
    · exact .inr hx.back
  stores x hx := by
    rcases h'.stores x hx with hx | hx
    · exact (h.stores x hx).imp_right Within.front
    · exact .inr hx.back

/-- One more piece. -/
theorem Moved.move (h : Moved s t dst src n) (k : Nat) (hapart : Apart src dst (n + k)) :
    Moved s (t.move (dst + n) (src + n) k) dst src (n + k) :=
  h.trans (moved_move t (dst + n) (src + n) k) hapart

theorem Apart.mono (h : Apart src dst n) (hk : k ≤ n) : Apart src dst k := by
  unfold Apart at *
  omega

/-! ## Loops with a stride -/

variable {σ : Type u}

/-- `while (offset + k <= size) { body; offset += k; }` -/
def strides (k : Nat) (body : Nat → σ → σ) (size offset : Nat) (s : σ) : Nat × σ :=
  if 0 < k ∧ offset + k ≤ size then strides k body size (offset + k) (body offset s)
  else (offset, s)
termination_by size - offset

/-- What every turn of a stride keeps holds behind the last one. -/
theorem strides_invariant {k : Nat} {body : Nat → σ → σ} {size : Nat} (Inv : Nat → σ → Prop)
    (hbody : ∀ offset s, offset + k ≤ size → Inv offset s → Inv (offset + k) (body offset s))
    (offset : Nat) (s : σ) (h : Inv offset s) :
    Inv (strides k body size offset s).1 (strides k body size offset s).2 := by
  induction offset, s using strides.induct k body size with
  | case1 offset s hmore ih =>
      rw [strides, if_pos hmore]
      exact ih (hbody offset s hmore.2 h)
  | case2 offset s hdone =>
      rw [strides, if_neg hdone]
      exact h

end Block
