import Mathlib.Data.List.DropRight
import Mathlib.Data.List.GetD
import Mathlib.Data.List.TakeWhile

/-!
# Terminated strings in a buffer

A string is given by a buffer and an index: it reaches from the index to the first
terminator.  Programs cut such a string in place, by storing terminators, and move the
index to skip what stands in front.

Main results:

- Definitions `str` and `peek`: the string and the element at an index.
- Theorems `str_set` and `str_set_of_lt`: what a stored terminator does to a string.
- Definition `find`: the index of the first element of a string that satisfies a test.
- Definition `trimAt`: the two loops that trim a string in place.
- Theorem `str_trimAt`: they leave the trimmed string.
-/

namespace Terminated

universe u

variable {α : Type u} [DecidableEq α] (nul : α)

/-- The string at an index of the buffer. -/
def str (buf : List α) (i : Nat) : List α :=
  (buf.drop i).takeWhile fun c => c ≠ nul

/-- The element at an index; a buffer ends with a terminator. -/
def peek (buf : List α) (i : Nat) : α :=
  buf.getD i nul

/-- A string without what `p` describes at both ends. -/
def trim (p : α → Bool) (s : List α) : List α :=
  (s.dropWhile p).rdropWhile p

variable {nul}
variable {buf : List α} {i j n : Nat} {c : α} {s : List α} {p : α → Bool}

omit [DecidableEq α] in
/-- What `p` describes at the end is trimmed off. -/
theorem trim_concat (h : p c = true) : trim p (s ++ [c]) = trim p s := by
  unfold trim
  rw [List.dropWhile_append]
  split
  · rename_i hempty
    rw [List.isEmpty_iff.mp hempty]
    simp [h]
  · rw [List.rdropWhile_concat_pos p _ _ h]

omit [DecidableEq α] in
/-- A string with nothing to trim at its ends stays. -/
theorem trim_eq_self (hfront : ∀ c ∈ s.head?, p c = false)
    (hback : ∀ c ∈ s.getLast?, p c = false) : trim p s = s := by
  have hdrop : s.dropWhile p = s := by
    cases s with
    | nil => rfl
    | cons c s => rw [List.dropWhile_cons, hfront c rfl, if_neg Bool.false_ne_true]
  unfold trim
  rw [hdrop, List.rdropWhile_eq_self_iff]
  intro hne
  rw [hback _ (List.getLast?_eq_some_getLast hne)]
  exact Bool.false_ne_true

/-! ## Reading -/

theorem str_zero : str nul buf 0 = buf.takeWhile fun c => c ≠ nul :=
  rfl

/-- A string holds no terminator. -/
theorem nul_notMem_str : nul ∉ str nul buf i := by
  intro hmem
  have hne := List.mem_takeWhile_imp hmem
  simp at hne

/-- The string at an index begins with the element there. -/
theorem str_eq (buf : List α) (i : Nat) :
    str nul buf i =
      if peek nul buf i = nul then [] else peek nul buf i :: str nul buf (i + 1) := by
  unfold str peek
  by_cases hi : i < buf.length
  · rw [List.drop_eq_getElem_cons hi, List.takeWhile_cons, List.getD_eq_getElem _ _ hi]
    by_cases hnul : buf[i] = nul <;> simp [hnul]
  · have hle : buf.length ≤ i := by omega
    rw [List.drop_eq_nil_of_le hle, List.getD_eq_default _ _ hle]
    simp

/-- At the end of a string is the terminator. -/
theorem peek_of_str_nil (h : str nul buf i = []) : peek nul buf i = nul := by
  rw [str_eq] at h
  by_contra hne
  simp [hne] at h

theorem peek_of_str_cons (h : str nul buf i = c :: s) : peek nul buf i = c := by
  rw [str_eq] at h
  split at h
  · contradiction
  · exact (List.cons.inj h).1

/-- Behind the first character the rest of the string begins. -/
theorem str_succ (h : str nul buf i = c :: s) : str nul buf (i + 1) = s := by
  rw [str_eq] at h
  split at h
  · contradiction
  · exact (List.cons.inj h).2

/-- An index inside the string begins the rest of it. -/
theorem str_add (h : n ≤ (str nul buf i).length) :
    str nul buf (i + n) = (str nul buf i).drop n := by
  induction n generalizing i with
  | zero => rfl
  | succ n ih =>
      cases hs : str nul buf i with
      | nil => simp [hs] at h
      | cons c s =>
          have hnext := str_succ hs
          rw [hs, List.length_cons] at h
          have hrest := ih (i := i + 1) (by rw [hnext]; omega)
          rw [hnext] at hrest
          rw [List.drop_succ_cons, ← hrest]
          congr 1
          omega

/-! ## Storing terminators -/

/-- A terminator that is written cuts the string. -/
theorem takeWhile_set (l : List α) (n : Nat) :
    ((l.set n nul).takeWhile fun c => c ≠ nul) = (l.takeWhile fun c => c ≠ nul).take n := by
  induction l generalizing n with
  | nil => simp
  | cons a l ih =>
      cases n with
      | zero => simp
      | succ n =>
          rw [List.set_cons_succ, List.takeWhile_cons, List.takeWhile_cons, ih]
          by_cases ha : a = nul <;> simp [ha]

/-- A terminator stored in a string or behind it cuts it there. -/
theorem str_set : str nul (buf.set (i + n) nul) i = (str nul buf i).take n := by
  unfold str
  rw [List.drop_set, if_neg (by omega), Nat.add_sub_cancel_left, takeWhile_set]

/-- A terminator stored in front of a string leaves it alone. -/
theorem str_set_of_lt (h : j < i) : str nul (buf.set j nul) i = str nul buf i := by
  unfold str
  rw [List.drop_set, if_pos h]

/-- So does one stored behind it. -/
theorem str_set_of_le (h : i + (str nul buf i).length ≤ j) :
    str nul (buf.set j nul) i = str nul buf i := by
  obtain ⟨n, rfl⟩ : ∃ n, j = i + n := ⟨j - i, by omega⟩
  rw [str_set, List.take_of_length_le (by omega)]

/-! ## Trimming in place -/

variable (nul)

/-- Move an index over at most `n` elements that satisfy `p`. -/
def skipFront (p : α → Bool) (buf : List α) : Nat → Nat → Nat
  | 0, i => i
  | n + 1, i => if p (peek nul buf i) then skipFront p buf n (i + 1) else i

/-- Overwrite what satisfies `p` at the end of the `n` elements from `i` on. -/
def dropBack (p : α → Bool) (i : Nat) : Nat → List α → List α
  | 0, buf => buf
  | n + 1, buf =>
      if p (peek nul buf (i + n)) then dropBack p i n (buf.set (i + n) nul) else buf

variable {nul}

omit [DecidableEq α] in
/-- Skipping never goes back. -/
theorem le_skipFront : i ≤ skipFront nul p buf n i := by
  induction n generalizing i with
  | zero => exact Nat.le_refl i
  | succ n ih =>
      unfold skipFront
      split
      · exact Nat.le_trans (Nat.le_succ i) ih
      · exact Nat.le_refl i

/-- With room for the whole string, the loop skips what satisfies `p` in front. -/
theorem str_skipFront (hp : p nul = false) (h : (str nul buf i).length ≤ n) :
    str nul buf (skipFront nul p buf n i) = (str nul buf i).dropWhile p := by
  induction n generalizing i with
  | zero =>
      have hnil : str nul buf i = [] := List.eq_nil_of_length_eq_zero (by omega)
      simp [skipFront, hnil]
  | succ n ih =>
      unfold skipFront
      cases hs : str nul buf i with
      | nil =>
          rw [peek_of_str_nil hs, hp]
          simp [hs]
      | cons c s =>
          have hnext := str_succ hs
          rw [hs, List.length_cons] at h
          rw [peek_of_str_cons hs, List.dropWhile_cons]
          by_cases hc : p c = true
          · rw [if_pos hc, if_pos hc, ih (by rw [hnext]; omega), hnext]
          · rw [if_neg hc, if_neg hc, hs]

/-- The index does not leave the string. -/
theorem skipFront_le (hp : p nul = false) :
    skipFront nul p buf n i ≤ i + (str nul buf i).length := by
  induction n generalizing i with
  | zero => exact Nat.le_add_right i _
  | succ n ih =>
      unfold skipFront
      cases hs : str nul buf i with
      | nil =>
          rw [peek_of_str_nil hs, hp]
          simp
      | cons c s =>
          split
          · have hle := ih (i := i + 1)
            rw [str_succ hs] at hle
            rw [List.length_cons]
            omega
          · exact Nat.le_add_right i _

/-- An index inside a string shows one of its elements. -/
theorem peek_add (h : n < (str nul buf i).length) :
    peek nul buf (i + n) = (str nul buf i)[n] := by
  have hrest := str_add (Nat.le_of_lt h)
  rw [List.drop_eq_getElem_cons h] at hrest
  exact peek_of_str_cons hrest

/-- The loop drops what satisfies `p` at the end of the string. -/
theorem str_dropBack (h : (str nul buf i).length = n) :
    str nul (dropBack nul p i n buf) i = (str nul buf i).rdropWhile p := by
  induction n generalizing buf with
  | zero =>
      have hnil : str nul buf i = [] := List.eq_nil_of_length_eq_zero h
      simp [dropBack, hnil]
  | succ n ih =>
      have hlast : n < (str nul buf i).length := by omega
      have hsplit : str nul buf i = (str nul buf i).take n ++ [(str nul buf i)[n]] := by
        rw [List.take_append_getElem hlast, List.take_of_length_le (by omega)]
      unfold dropBack
      rw [peek_add hlast]
      by_cases hc : p (str nul buf i)[n] = true
      · rw [if_pos hc]
        have hcut : str nul (buf.set (i + n) nul) i = (str nul buf i).take n := str_set
        rw [ih (by rw [hcut, List.length_take]; omega), hcut]
        conv_rhs => rw [hsplit]
        rw [List.rdropWhile_concat_pos p _ _ hc]
      · rw [if_neg hc]
        conv_rhs => rw [hsplit]
        rw [List.rdropWhile_concat_neg p _ _ hc, ← hsplit]

/-- The loop leaves a string behind its range alone. -/
theorem str_dropBack_of_le (h : i + n ≤ j) :
    str nul (dropBack nul p i n buf) j = str nul buf j := by
  induction n generalizing buf with
  | zero => rfl
  | succ n ih =>
      unfold dropBack
      split
      · rw [ih (by omega), str_set_of_lt (by omega)]
      · rfl

/-- It leaves a string alone that ends in front of its range. -/
theorem str_dropBack_of_lt (h : j + (str nul buf j).length ≤ i) :
    str nul (dropBack nul p i n buf) j = str nul buf j := by
  induction n generalizing buf with
  | zero => rfl
  | succ n ih =>
      unfold dropBack
      split
      · have hsame : str nul (buf.set (i + n) nul) j = str nul buf j := str_set_of_le (by omega)
        rw [ih (by rw [hsame]; exact h), hsame]
      · rfl

/-! ## Both ends -/

variable (nul)

/-- Trim the `n` elements from `i` on: the buffer and the index after the two loops. -/
def trimAt (p : α → Bool) (buf : List α) (i n : Nat) : List α × Nat :=
  let front := skipFront nul p buf n i
  (dropBack nul p front (n - (front - i)) buf, front)

/-- The index of the first element of a string that satisfies `p`. -/
def find (p : α → Bool) (buf : List α) (i : Nat) : Option Nat :=
  ((str nul buf i).findIdx? p).map fun n => i + n

variable {nul}

/-- What the first loop leaves of the string ends where the string ended. -/
theorem skipFront_length (hp : p nul = false) (h : (str nul buf i).length = n) :
    (str nul buf (skipFront nul p buf n i)).length = n - (skipFront nul p buf n i - i) := by
  have hge : i ≤ skipFront nul p buf n i := le_skipFront
  have hle : skipFront nul p buf n i ≤ i + (str nul buf i).length := skipFront_le hp
  obtain ⟨k, hk⟩ : ∃ k, skipFront nul p buf n i = i + k := ⟨_, (Nat.add_sub_of_le hge).symm⟩
  rw [hk, str_add (by omega), List.length_drop]
  omega

/-- Trimming a whole string in place leaves the trimmed string. -/
theorem str_trimAt (hp : p nul = false) (h : (str nul buf i).length = n) :
    str nul (trimAt nul p buf i n).1 (trimAt nul p buf i n).2 = trim p (str nul buf i) := by
  unfold trimAt trim
  rw [str_dropBack (skipFront_length hp h), str_skipFront hp (by omega)]

/-- It leaves a string behind it alone. -/
theorem str_trimAt_of_lt (hp : p nul = false) (h : (str nul buf i).length = n) (hj : i + n ≤ j) :
    str nul (trimAt nul p buf i n).1 j = str nul buf j := by
  have hge : i ≤ skipFront nul p buf n i := le_skipFront
  have hle : skipFront nul p buf n i ≤ i + (str nul buf i).length := skipFront_le hp
  exact str_dropBack_of_le (by omega)

/-- It leaves a string in front of it alone. -/
theorem str_trimAt_of_le (h : j + (str nul buf j).length ≤ i) :
    str nul (trimAt nul p buf i n).1 j = str nul buf j := by
  have hge : i ≤ skipFront nul p buf n i := le_skipFront
  exact str_dropBack_of_lt (by omega)

/-- What is left ends within the trimmed range. -/
theorem trimAt_end_le (hp : p nul = false) (h : (str nul buf i).length = n) :
    (trimAt nul p buf i n).2 +
      (str nul (trimAt nul p buf i n).1 (trimAt nul p buf i n).2).length ≤ i + n := by
  have hge : i ≤ skipFront nul p buf n i := le_skipFront
  have hle : skipFront nul p buf n i ≤ i + (str nul buf i).length := skipFront_le hp
  have hfront := skipFront_length hp h
  have hback := (List.rdropWhile_prefix p
    (l := str nul buf (skipFront nul p buf n i))).length_le
  rw [← str_dropBack hfront] at hback
  unfold trimAt
  simp only
  omega

theorem peek_eq_nul_iff : peek nul buf i = nul ↔ str nul buf i = [] := by
  constructor
  · intro h
    rw [str_eq, if_pos h]
  · exact peek_of_str_nil

/-- Nothing is found exactly if no character of the string is wanted. -/
theorem find_eq_none_iff : find nul p buf i = none ↔ ∀ a ∈ str nul buf i, p a = false := by
  simp [find, List.findIdx?_eq_none_iff]

/-- A character is not found exactly if the string does not hold it. -/
theorem find_beq_eq_none_iff : find nul (· == c) buf i = none ↔ c ∉ str nul buf i := by
  rw [find_eq_none_iff]
  simp only [beq_eq_false_iff_ne]
  exact ⟨fun h hmem => h c hmem rfl, fun h a ha heq => h (heq ▸ ha)⟩

/-- The string up to what was found, and what is behind it. -/
theorem find_eq_some (h : find nul p buf i = some j) :
    ∃ n, j = i + n ∧ n < (str nul buf i).length ∧
      (str nul buf i).take n = (str nul buf i).takeWhile (fun a => !p a) ∧
      str nul buf (j + 1) = (str nul buf i).drop (n + 1) := by
  unfold find at h
  obtain ⟨n, hn, rfl⟩ := Option.map_eq_some_iff.mp h
  rw [List.findIdx?_eq_some_iff_findIdx_eq] at hn
  obtain ⟨hlt, hfound⟩ := hn
  refine ⟨n, rfl, hlt, ?_, ?_⟩
  · rw [List.takeWhile_eq_take_findIdx_not]
    simp [hfound]
  · rw [Nat.add_assoc, str_add (by omega)]

end Terminated
