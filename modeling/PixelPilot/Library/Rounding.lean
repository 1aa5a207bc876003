import Mathlib.Algebra.GroupWithZero.Nat
import Mathlib.Data.List.Basic

/-!
# Counting amounts in whole units

Amounts are counted one by one in units of size `d`, each count leaving out a
part of its amount.  The parts left out add up: the sum of the counts falls
behind the count of the sum.

Main results:

- Definition `lost`: what all counts leave out together.
- Theorem `sum_div`: the count of the sum is the sum of the counts and the units
  in what is lost.
- Theorem `sum_div_le_iff`: the sum of the counts is at most `n` units behind
  exactly when less than `n + 1` units are lost.
- Theorem `sum_gaps`: the gaps of an ascending list add up to its length in time.
-/

namespace Rounding

universe u

variable {α : Type u} {d : Nat} {amount count : α → Nat}

/-- What is left out when each amount is counted in units of size `d`. -/
def lost (d : Nat) (amount count : α → Nat) (items : List α) : Nat :=
  (items.map fun a => amount a - d * count a).sum

/-- Counted and left out parts make up the amounts. -/
theorem counted_add_lost {items : List α} (h : ∀ a ∈ items, d * count a ≤ amount a) :
    d * (items.map count).sum + lost d amount count items = (items.map amount).sum := by
  induction items with
  | nil => rfl
  | cons a items ih =>
      have hhead := h a List.mem_cons_self
      have htail := ih fun b hb => h b (List.mem_cons_of_mem a hb)
      unfold lost at htail ⊢
      simp only [List.map_cons, List.sum_cons, Nat.mul_add]
      omega

/-- The count of the sum. -/
theorem sum_div {items : List α} (hd : 0 < d) (h : ∀ a ∈ items, d * count a ≤ amount a) :
    (items.map amount).sum / d = (items.map count).sum + lost d amount count items / d := by
  rw [← counted_add_lost h, Nat.mul_add_div hd]

/-- The sum of the counts never runs ahead. -/
theorem counts_le {items : List α} (hd : 0 < d) (h : ∀ a ∈ items, d * count a ≤ amount a) :
    (items.map count).sum ≤ (items.map amount).sum / d := by
  rw [sum_div hd h]
  exact Nat.le_add_right _ _

/-- The sum of the counts is at most `n` units behind exactly when less than `n + 1`
units are lost. -/
theorem sum_div_le_iff {items : List α} (hd : 0 < d) (h : ∀ a ∈ items, d * count a ≤ amount a)
    (n : Nat) :
    (items.map amount).sum / d ≤ (items.map count).sum + n ↔
      lost d amount count items < (n + 1) * d := by
  rw [sum_div hd h, Nat.add_le_add_iff_left, ← Nat.lt_succ_iff, Nat.div_lt_iff_lt_mul hd]

/-! ## Gaps -/

/-- The differences of neighbours. -/
def gaps : List Nat → List Nat
  | a :: b :: rest => (b - a) :: gaps (b :: rest)
  | _ => []

/-- The gaps of an ascending list add up. -/
theorem sum_gaps {a : Nat} {rest : List Nat} (h : (a :: rest).IsChain (· ≤ ·)) :
    a + (gaps (a :: rest)).sum = (a :: rest).getLast (List.cons_ne_nil a rest) := by
  induction rest generalizing a with
  | nil => rfl
  | cons b rest ih =>
      rw [List.isChain_cons_cons] at h
      have hrest := ih h.2
      rw [List.getLast_cons (List.cons_ne_nil b rest), ← hrest]
      simp only [gaps, List.sum_cons]
      omega

end Rounding
