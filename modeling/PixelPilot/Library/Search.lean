import Mathlib.Data.List.MinMax

/-!
# Searches through lists

Two loops: one stops at the first element that gives a value, and may ask differently at
each position; the other runs to the end and keeps the best element so far.

Main results:

- Definition `firstSome`: the value of the first element that gives one.
- Theorem `firstSome_eq_some_iff`: it is that of the first such position.
- Definition `running`: the loop that keeps the best element.
- Theorem `running_eq_argmax`: it keeps the first one with the greatest key.
-/

namespace Search

universe u v

variable {α : Type u} {β : Type v} {f : Nat → α → Option β} {l : List α} {b : β}

/-! ## The first that gives a value -/

/-- The value of the first element that gives one, with positions counted from `n`. -/
def firstSome (f : Nat → α → Option β) : Nat → List α → Option β
  | _, [] => none
  | n, a :: l =>
      match f n a with
      | none => firstSome f (n + 1) l
      | some b => some b

/-- The element at position `i` is the first that gives a value, and it gives `b`. -/
structure IsFirst (f : Nat → α → Option β) (l : List α) (i : Nat) (b : β) : Prop where
  found : ∃ a, l[i]? = some a ∧ f i a = some b
  before : ∀ j < i, ∀ a, l[j]? = some a → f j a = none

/-- Nothing is found exactly if no element answers. -/
theorem firstSome_eq_none {n : Nat} :
    firstSome f n l = none ↔ ∀ i a, l[i]? = some a → f (n + i) a = none := by
  induction l generalizing n with
  | nil => simp [firstSome]
  | cons a l ih =>
      unfold firstSome
      cases hf : f n a with
      | none =>
          rw [ih]
          constructor
          · intro h i a' ha'
            cases i with
            | zero =>
                cases ha'
                exact hf
            | succ i =>
                rw [← Nat.succ_add_eq_add_succ]
                exact h i a' ha'
          · intro h i a' ha'
            rw [Nat.succ_add_eq_add_succ]
            exact h (i + 1) a' ha'
      | some b =>
          constructor
          · intro h
            contradiction
          · intro h
            have hnone := h 0 a rfl
            rw [Nat.add_zero, hf] at hnone
            contradiction

theorem firstSome_eq_none_iff :
    firstSome f 0 l = none ↔ ∀ i a, l[i]? = some a → f i a = none := by
  rw [firstSome_eq_none]
  simp only [Nat.zero_add]

/-- The search in a list is that in its tail if its head gives nothing. -/
theorem isFirst_succ {a : α} {i : Nat} (hf : f 0 a = none) :
    IsFirst f (a :: l) (i + 1) b ↔ IsFirst (fun n => f (n + 1)) l i b := by
  constructor
  · rintro ⟨hfound, hbefore⟩
    exact ⟨hfound, fun j hj a' ha' => hbefore (j + 1) (Nat.succ_lt_succ hj) a' ha'⟩
  · rintro ⟨hfound, hbefore⟩
    refine ⟨hfound, fun j hj a' ha' => ?_⟩
    cases j with
    | zero =>
        cases ha'
        exact hf
    | succ j => exact hbefore j (Nat.lt_of_succ_lt_succ hj) a' ha'

/-- A search from a later position is a search with the positions shifted. -/
theorem firstSome_succ (n : Nat) :
    firstSome f (n + 1) l = firstSome (fun m => f (m + 1)) n l := by
  induction l generalizing n with
  | nil => rfl
  | cons a l ih =>
      unfold firstSome
      rw [ih]

/-- What is found is the first answer. -/
theorem firstSome_eq_some_iff : firstSome f 0 l = some b ↔ ∃ i, IsFirst f l i b := by
  induction l generalizing f with
  | nil =>
      constructor
      · intro h
        contradiction
      · rintro ⟨i, ⟨a, ha, -⟩, -⟩
        contradiction
  | cons a l ih =>
      unfold firstSome
      cases hf : f 0 a with
      | none =>
          rw [firstSome_succ]
          simp only
          rw [ih]
          constructor
          · rintro ⟨i, hi⟩
            exact ⟨i + 1, (isFirst_succ hf).mpr hi⟩
          · rintro ⟨i, hi⟩
            cases i with
            | zero =>
                obtain ⟨a', ha', hb⟩ := hi.found
                cases ha'
                rw [hf] at hb
                contradiction
            | succ i => exact ⟨i, (isFirst_succ hf).mp hi⟩
      | some b' =>
          constructor
          · intro h
            cases h
            exact ⟨0, ⟨a, rfl, hf⟩, fun j hj => absurd hj (Nat.not_lt_zero j)⟩
          · rintro ⟨i, hi⟩
            cases i with
            | zero =>
                obtain ⟨a', ha', hb⟩ := hi.found
                cases ha'
                rw [← hf, hb]
            | succ i =>
                have hnone := hi.before 0 (Nat.succ_pos i) a rfl
                rw [hf] at hnone
                contradiction

/-! ## The best so far -/

variable {κ : Type v} [LinearOrder κ]

/-- The loop that replaces what it keeps by what is better. -/
def running (better : α → α → Bool) (a : α) (l : List α) : α :=
  l.foldl (fun best m => if better m best then m else best) a

/-- With a comparison of keys, the loop keeps the first element with the greatest key. -/
theorem running_eq_argmax {better : α → α → Bool} {key : α → κ}
    (hbetter : ∀ a b, better a b = true ↔ key b < key a) (a : α) (l : List α) :
    some (running better a l) = (a :: l).argmax key := by
  unfold List.argmax running
  rw [List.foldl_cons]
  have hfirst : List.argAux (fun b c => key c < key b) none a = some a := rfl
  rw [hfirst]
  induction l generalizing a with
  | nil => rfl
  | cons m l ih =>
      rw [List.foldl_cons, List.foldl_cons, ih]
      · congr 1
        by_cases hless : key a < key m
        · rw [if_pos ((hbetter m a).mpr hless)]
          exact (if_pos hless).symm
        · rw [if_neg (mt (hbetter m a).mp hless)]
          exact (if_neg hless).symm
      · rfl

end Search
