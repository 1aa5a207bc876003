import Mathlib.Data.List.Basic
import Mathlib.Logic.Function.Basic

/-!
# Handing resources over through one shared slot

Parties create resources, offer them to a shared slot, withdraw what is in the
slot and retire what they hold.  An offer to a full slot is rejected.  Whoever
finds a resource in the slot may use it there.  A log keeps the order of
creations, uses and retirements.

Main results:

- Definition `Move`: the operations of the parties.
- Theorem `Linear.move`: a resource stays in one place, is retired at most once,
  is not used after its retirement and has all its uses in one stretch.
- Theorem `Linear.accounted`: a resource that was created is in the slot, in
  exactly one hand, or retired.
-/

namespace Handover

/-- What the log records about a resource; uses are of several kinds. -/
inductive Event (κ ι : Type*)
  | issued (i : ι)
  | used (k : κ) (i : ι)
  | retired (i : ι)
deriving DecidableEq

/-- What a party holds: nothing, a new resource to be offered, or one to be
retired. -/
inductive Hand (ι : Type*)
  | empty
  | arriving (i : ι)
  | leaving (i : ι)
deriving DecidableEq

/-- The resource in a hand. -/
def Hand.item {ι : Type*} : Hand ι → Option ι
  | .empty => none
  | .arriving i => some i
  | .leaving i => some i

/-- The slot, the hands of all parties and the log. -/
structure Custody (θ κ ι : Type*) where
  slot : Option ι
  hand : θ → Hand ι
  log : List (Event κ ι)

variable {θ κ ι : Type*} [DecidableEq θ]

namespace Custody

/-- Replace what one party holds. -/
def setHand (c : Custody θ κ ι) (t : θ) (h : Hand ι) : Custody θ κ ι :=
  { c with hand := Function.update c.hand t h }

omit [DecidableEq θ] in
/-- Append to the log. -/
def record (c : Custody θ κ ι) (e : Event κ ι) : Custody θ κ ι :=
  { c with log := c.log ++ [e] }

/-- Fill or empty the slot. -/
def setSlot (c : Custody θ κ ι) (slot : Option ι) : Custody θ κ ι :=
  { c with slot := slot }

end Custody

/-- One operation, or none. -/
inductive Move : Custody θ κ ι → Custody θ κ ι → Prop
  | stay (c : Custody θ κ ι) : Move c c
  | issue {c : Custody θ κ ι} {t : θ} {i : ι} (hand : c.hand t = .empty)
      (new : .issued i ∉ c.log) :
      Move c ((c.setHand t (.arriving i)).record (.issued i))
  | deposit {c : Custody θ κ ι} {t : θ} {i : ι} (hand : c.hand t = .arriving i)
      (slot : c.slot = none) :
      Move c ((c.setHand t .empty).setSlot (some i))
  | reject {c : Custody θ κ ι} {t : θ} {i : ι} (hand : c.hand t = .arriving i) :
      Move c (c.setHand t (.leaving i))
  | withdraw {c : Custody θ κ ι} {t : θ} {i : ι} (hand : c.hand t = .empty)
      (slot : c.slot = some i) :
      Move c ((c.setHand t (.leaving i)).setSlot none)
  | retire {c : Custody θ κ ι} {t : θ} {i : ι} (hand : c.hand t = .leaving i) :
      Move c ((c.setHand t .empty).record (.retired i))
  | use {c : Custody θ κ ι} {i : ι} (k : κ) (slot : c.slot = some i) :
      Move c (c.record (.used k i))

section Fields

variable (c : Custody θ κ ι) (t : θ) (h : Hand ι) (e : Event κ ι)

@[simp]
theorem setHand_log : (c.setHand t h).log = c.log := rfl

omit [DecidableEq θ] in
@[simp]
theorem record_log : (c.record e).log = c.log ++ [e] := rfl

/-- Only the hand of the thread changes. -/
theorem setHand_hand (t' : θ) :
    (c.setHand t h).hand t' = if t' = t then h else c.hand t' := by
  unfold Custody.setHand
  by_cases heq : t' = t
  · subst heq
    simp
  · simp [heq]

theorem setHand_eq_self {c : Custody θ κ ι} {t : θ} {h : Hand ι} (hhand : c.hand t = h) :
    c.setHand t h = c := by
  subst hhand
  unfold Custody.setHand
  rw [Function.update_eq_self]

end Fields

/-! ## Logs -/

/-- The order of events that every run of the parties keeps. -/
structure Orderly (log : List (Event κ ι)) : Prop where
  used_issued : ∀ k i, .used k i ∈ log → .issued i ∈ log
  retired_issued : ∀ i, .retired i ∈ log → .issued i ∈ log
  /-- No resource is retired twice. -/
  retired_once : ∀ i, ¬ [.retired i, .retired i].Sublist log
  /-- No resource is used after its retirement. -/
  unused_after : ∀ k i, ¬ [.retired i, .used k i].Sublist log
  /-- The uses of a resource are not interrupted by uses of another one. -/
  contiguous : ∀ k k' k'' i j, [.used k i, .used k' j, .used k'' i].Sublist log → j = i

/-- Where a sublist that ends in `x` lies in a list with one element more. -/
theorem sublist_concat_iff {α : Type*} {x z : α} {xs l : List α} :
    (xs ++ [x]).Sublist (l ++ [z]) ↔
      (xs ++ [x]).Sublist l ∨ x = z ∧ xs.Sublist l := by
  rw [← List.reverse_sublist]
  simp only [List.reverse_append, List.reverse_cons, List.reverse_nil, List.nil_append,
    List.singleton_append]
  constructor
  · intro h
    cases h with
    | cons _ h =>
        left
        rw [← List.reverse_sublist]
        simpa using h
    | cons_cons _ h =>
        right
        exact ⟨rfl, List.reverse_sublist.mp h⟩
  · rintro (h | ⟨rfl, h⟩)
    · apply List.Sublist.cons
      rw [← List.reverse_sublist] at h
      simpa using h
    · apply List.Sublist.cons_cons
      exact List.reverse_sublist.mpr h

/-- A pair in order ends in the new element or was there before. -/
theorem pair_sublist_concat {α : Type*} {x y z : α} {l : List α}
    (h : [x, y].Sublist (l ++ [z])) : [x, y].Sublist l ∨ y = z ∧ x ∈ l := by
  have hconcat : ([x] ++ [y]).Sublist (l ++ [z]) := h
  rcases sublist_concat_iff.mp hconcat with hold | ⟨heq, hmem⟩
  · exact Or.inl hold
  · exact Or.inr ⟨heq, List.singleton_sublist.mp hmem⟩

/-- A triple in order ends in the new element or was there before. -/
theorem triple_sublist_concat {α : Type*} {x y w z : α} {l : List α}
    (h : [x, y, w].Sublist (l ++ [z])) : [x, y, w].Sublist l ∨ w = z ∧ [x, y].Sublist l := by
  have hconcat : ([x, y] ++ [w]).Sublist (l ++ [z]) := h
  exact sublist_concat_iff.mp hconcat

section Orderly

variable {log : List (Event κ ι)} {i : ι}

/-- A resource may be issued at any time. -/
theorem Orderly.issue (h : Orderly log) (i : ι) : Orderly (log ++ [.issued i]) := by
  constructor
  · intro k j hj
    apply List.mem_append_left
    apply h.used_issued k j
    simpa using hj
  · intro j hj
    apply List.mem_append_left
    apply h.retired_issued j
    simpa using hj
  · intro j hsub
    rcases pair_sublist_concat hsub with hold | ⟨heq, -⟩
    · exact h.retired_once j hold
    · contradiction
  · intro k j hsub
    rcases pair_sublist_concat hsub with hold | ⟨heq, -⟩
    · exact h.unused_after k j hold
    · contradiction
  · intro k k' k'' a b hsub
    rcases triple_sublist_concat hsub with hold | ⟨heq, -⟩
    · exact h.contiguous k k' k'' a b hold
    · contradiction

/-- A live resource may be retired. -/
theorem Orderly.retire (h : Orderly log) (hissued : .issued i ∈ log)
    (hlive : .retired i ∉ log) : Orderly (log ++ [.retired i]) := by
  constructor
  · intro k j hj
    apply List.mem_append_left
    apply h.used_issued k j
    simpa using hj
  · intro j hj
    apply List.mem_append_left
    rcases List.mem_append.mp hj with hold | hnew
    · exact h.retired_issued j hold
    · cases List.mem_singleton.mp hnew
      exact hissued
  · intro j hsub
    rcases pair_sublist_concat hsub with hold | ⟨heq, hmem⟩
    · exact h.retired_once j hold
    · cases heq
      exact hlive hmem
  · intro k j hsub
    rcases pair_sublist_concat hsub with hold | ⟨heq, -⟩
    · exact h.unused_after k j hold
    · contradiction
  · intro k k' k'' a b hsub
    rcases triple_sublist_concat hsub with hold | ⟨heq, -⟩
    · exact h.contiguous k k' k'' a b hold
    · contradiction

/-- The latest resource used may be used again. -/
theorem Orderly.use (h : Orderly log) (k : κ) (hissued : .issued i ∈ log)
    (hlive : .retired i ∉ log)
    (hlatest : ∀ k k' j, [.used k i, .used k' j].Sublist log → j = i) :
    Orderly (log ++ [.used k i]) := by
  constructor
  · intro k' j hj
    apply List.mem_append_left
    rcases List.mem_append.mp hj with hold | hnew
    · exact h.used_issued k' j hold
    · cases List.mem_singleton.mp hnew
      exact hissued
  · intro j hj
    apply List.mem_append_left
    apply h.retired_issued j
    simpa using hj
  · intro j hsub
    rcases pair_sublist_concat hsub with hold | ⟨heq, -⟩
    · exact h.retired_once j hold
    · contradiction
  · intro k' j hsub
    rcases pair_sublist_concat hsub with hold | ⟨heq, hmem⟩
    · exact h.unused_after k' j hold
    · cases heq
      exact hlive hmem
  · intro k₁ k₂ k₃ a b hsub
    rcases triple_sublist_concat hsub with hold | ⟨heq, hpair⟩
    · exact h.contiguous k₁ k₂ k₃ a b hold
    · cases heq
      exact hlatest k₁ k₂ b hpair

end Orderly

/-! ## Resources in one place -/

/-- Every resource is in one place at a time, and the log tells its past. -/
structure Linear (c : Custody θ κ ι) : Prop where
  orderly : Orderly c.log
  /-- A resource is in one hand only, and not in the slot at the same time. -/
  one_hand : ∀ t t' i, (c.hand t).item = some i → (c.hand t').item = some i → t = t'
  slot_free : ∀ t i, c.slot = some i → (c.hand t).item ≠ some i
  /-- Resources in the slot or in a hand were created and not retired. -/
  slot_issued : ∀ i, c.slot = some i → .issued i ∈ c.log ∧ .retired i ∉ c.log
  hand_issued : ∀ t i, (c.hand t).item = some i → .issued i ∈ c.log ∧ .retired i ∉ c.log
  /-- A resource still to be offered has not been used. -/
  arriving_unused : ∀ t i k, c.hand t = .arriving i → .used k i ∉ c.log
  /-- A resource that was created and not retired is somewhere. -/
  held : ∀ i, .issued i ∈ c.log → .retired i ∉ c.log →
    c.slot = some i ∨ ∃ t, (c.hand t).item = some i
  /-- Nothing else was used since the first use of what is in the slot. -/
  slot_latest : ∀ i, c.slot = some i → ∀ k k' j,
    [.used k i, .used k' j].Sublist c.log → j = i

omit [DecidableEq θ] in
/-- Before anything was created. -/
theorem linear_empty :
    Linear ({ slot := none, hand := fun _ => .empty, log := [] } : Custody θ κ ι) := by
  refine ⟨?_, ?_, ?_, ?_, ?_, ?_, ?_, ?_⟩
  · constructor <;> simp
  all_goals simp [Hand.item]

section Moves

variable {c : Custody θ κ ι} {t : θ} {i : ι}

/-- What a hand holds after another hand, or the same one, was changed. -/
theorem item_setHand {h : Hand ι} {t' : θ} {j : ι}
    (hj : ((c.setHand t h).hand t').item = some j) :
    t' = t ∧ h.item = some j ∨ t' ≠ t ∧ (c.hand t').item = some j := by
  rw [setHand_hand] at hj
  by_cases heq : t' = t
  · rw [if_pos heq] at hj
    exact Or.inl ⟨heq, hj⟩
  · rw [if_neg heq] at hj
    exact Or.inr ⟨heq, hj⟩

theorem item_setHand_self (h : Hand ι) : ((c.setHand t h).hand t).item = h.item := by
  rw [setHand_hand, if_pos rfl]

theorem item_setHand_of_ne {h : Hand ι} {t' : θ} (hne : t' ≠ t) :
    ((c.setHand t h).hand t').item = (c.hand t').item := by
  rw [setHand_hand, if_neg hne]

/-- Changing one hand to hold nothing, or what only it held, keeps resources in
one hand each. -/
theorem Linear.one_hand_setHand (h : Linear c) {hand : Hand ι}
    (hitem : ∀ j, hand.item = some j → ∀ t', t' ≠ t → (c.hand t').item ≠ some j) :
    ∀ t₁ t₂ j, ((c.setHand t hand).hand t₁).item = some j →
      ((c.setHand t hand).hand t₂).item = some j → t₁ = t₂ := by
  intro t₁ t₂ j h₁ h₂
  rcases item_setHand h₁ with ⟨rfl, hj₁⟩ | ⟨hne₁, hj₁⟩
  · rcases item_setHand h₂ with ⟨rfl, -⟩ | ⟨hne₂, hj₂⟩
    · rfl
    · exact absurd hj₂ (hitem j hj₁ t₂ hne₂)
  · rcases item_setHand h₂ with ⟨rfl, hj₂⟩ | ⟨-, hj₂⟩
    · exact absurd hj₁ (hitem j hj₂ t₁ hne₁)
    · exact h.one_hand t₁ t₂ j hj₁ hj₂

/-- An arriving resource of a changed hand is the new one, or arrived before. -/
theorem Linear.arriving_setHand (h : Linear c) (t : θ) (hand : Hand ι)
    (hnew : ∀ j, hand = .arriving j → ∀ k, .used k j ∉ c.log) :
    ∀ t' j k, (c.setHand t hand).hand t' = .arriving j → .used k j ∉ c.log := by
  intro t' j k hj
  rw [setHand_hand] at hj
  by_cases heq : t' = t
  · rw [if_pos heq] at hj
    exact hnew j hj k
  · rw [if_neg heq] at hj
    exact h.arriving_unused t' j k hj

/-- A thread with an empty hand creates a resource. -/
theorem Linear.issue (h : Linear c) (hhand : c.hand t = .empty) (hnew : .issued i ∉ c.log) :
    Linear ((c.setHand t (.arriving i)).record (.issued i)) := by
  have hnone : ∀ t', (c.hand t').item ≠ some i :=
    fun t' hi => hnew (h.hand_issued t' i hi).1
  have hitem : ∀ j, (Hand.arriving i).item = some j → j = i :=
    fun j hj => (Option.some.inj hj).symm
  constructor
  · exact h.orderly.issue i
  · apply h.one_hand_setHand
    intro j hj t' _
    rw [hitem j hj]
    exact hnone t'
  · intro t' j hslot hj
    rcases item_setHand hj with ⟨-, hj⟩ | ⟨-, hj⟩
    · rw [hitem j hj] at hslot
      exact hnew (h.slot_issued i hslot).1
    · exact h.slot_free t' j hslot hj
  · intro j hslot
    have hold := h.slot_issued j hslot
    simp [hold.1, hold.2]
  · intro t' j hj
    rcases item_setHand hj with ⟨-, hj⟩ | ⟨-, hj⟩
    · have hlive : .retired i ∉ c.log := fun hr => hnew (h.orderly.retired_issued i hr)
      simp [hitem j hj, hlive]
    · have hold := h.hand_issued t' j hj
      simp [hold.1, hold.2]
  · intro t' j k hj
    have hunused := h.arriving_setHand t (.arriving i) ?_ t' j k hj
    · simpa using hunused
    · intro b hb k hk
      cases hb
      exact hnew (h.orderly.used_issued k i hk)
  · intro j hissued hretired
    have hretired' : .retired j ∉ c.log := by simpa using hretired
    by_cases heq : j = i
    · subst heq
      exact Or.inr ⟨t, item_setHand_self _⟩
    · have hissued' : .issued j ∈ c.log := by simpa [heq] using hissued
      rcases h.held j hissued' hretired' with hslot | ⟨t', hj⟩
      · exact Or.inl hslot
      · have hne : t' ≠ t := by
          rintro rfl
          rw [hhand] at hj
          contradiction
        exact Or.inr ⟨t', (item_setHand_of_ne hne).trans hj⟩
  · intro j hslot k k' b hsub
    rcases pair_sublist_concat hsub with hold | ⟨heq, -⟩
    · exact h.slot_latest j hslot k k' b hold
    · contradiction

/-- A thread puts its new resource into the empty slot. -/
theorem Linear.deposit (h : Linear c) (hhand : c.hand t = .arriving i)
    (hslot : c.slot = none) : Linear ((c.setHand t .empty).setSlot (some i)) := by
  have hitem : (c.hand t).item = some i := by rw [hhand]; rfl
  have hothers : ∀ t', t' ≠ t → (c.hand t').item ≠ some i :=
    fun t' hne hi => hne (h.one_hand t' t i hi hitem)
  constructor
  · exact h.orderly
  · apply h.one_hand_setHand
    intro j hj
    contradiction
  · intro t' j hj hj'
    cases hj
    rcases item_setHand hj' with ⟨-, hj'⟩ | ⟨hne, hj'⟩
    · contradiction
    · exact hothers t' hne hj'
  · intro j hj
    cases hj
    exact h.hand_issued t i hitem
  · intro t' j hj
    rcases item_setHand hj with ⟨-, hj⟩ | ⟨-, hj⟩
    · contradiction
    · exact h.hand_issued t' j hj
  · apply h.arriving_setHand
    intro j hj
    contradiction
  · intro j hissued hretired
    by_cases heq : j = i
    · exact Or.inl (congrArg some heq.symm)
    · rcases h.held j hissued hretired with hj | ⟨t', hj⟩
      · rw [hslot] at hj
        contradiction
      · have hne : t' ≠ t := by
          rintro rfl
          rw [hitem] at hj
          exact heq (Option.some.inj hj).symm
        exact Or.inr ⟨t', (item_setHand_of_ne hne).trans hj⟩
  · intro j hj k k' b hsub
    cases hj
    exfalso
    apply h.arriving_unused t i k hhand
    exact hsub.subset List.mem_cons_self

/-- A thread keeps its new resource out of a slot that is taken. -/
theorem Linear.reject (h : Linear c) (hhand : c.hand t = .arriving i) :
    Linear (c.setHand t (.leaving i)) := by
  have hitem : (c.hand t).item = some i := by rw [hhand]; rfl
  have hsame : ∀ t', ((c.setHand t (.leaving i)).hand t').item = (c.hand t').item := by
    intro t'
    by_cases heq : t' = t
    · subst heq
      rw [item_setHand_self, hitem]
      rfl
    · exact item_setHand_of_ne heq
  refine ⟨h.orderly, ?_, ?_, h.slot_issued, ?_, ?_, ?_, h.slot_latest⟩
  · intro t₁ t₂ j h₁ h₂
    rw [hsame] at h₁ h₂
    exact h.one_hand t₁ t₂ j h₁ h₂
  · intro t' j hslot hj
    rw [hsame] at hj
    exact h.slot_free t' j hslot hj
  · intro t' j hj
    rw [hsame] at hj
    exact h.hand_issued t' j hj
  · apply h.arriving_setHand
    intro j hj
    contradiction
  · intro j hissued hretired
    rcases h.held j hissued hretired with hslot | ⟨t', hj⟩
    · exact Or.inl hslot
    · exact Or.inr ⟨t', (hsame t').trans hj⟩

/-- A thread takes the resource from the slot. -/
theorem Linear.withdraw (h : Linear c) (hhand : c.hand t = .empty) (hslot : c.slot = some i) :
    Linear ((c.setHand t (.leaving i)).setSlot none) := by
  have hitem : ∀ j, (Hand.leaving i).item = some j → j = i :=
    fun j hj => (Option.some.inj hj).symm
  constructor
  · exact h.orderly
  · apply h.one_hand_setHand
    intro j hj t' _
    rw [hitem j hj]
    exact h.slot_free t' i hslot
  · intro t' j hj
    contradiction
  · intro j hj
    contradiction
  · intro t' j hj
    rcases item_setHand hj with ⟨-, hj⟩ | ⟨-, hj⟩
    · rw [hitem j hj]
      exact h.slot_issued i hslot
    · exact h.hand_issued t' j hj
  · apply h.arriving_setHand
    intro j hj
    contradiction
  · intro j hissued hretired
    right
    rcases h.held j hissued hretired with hj | ⟨t', hj⟩
    · rw [hslot] at hj
      exact ⟨t, (item_setHand_self _).trans hj⟩
    · have hne : t' ≠ t := by
        rintro rfl
        rw [hhand] at hj
        contradiction
      exact ⟨t', (item_setHand_of_ne hne).trans hj⟩
  · intro j hj
    contradiction

/-- A resource on its way out is retired. -/
theorem Linear.retire (h : Linear c) (hhand : c.hand t = .leaving i) :
    Linear ((c.setHand t .empty).record (.retired i)) := by
  have hitem : (c.hand t).item = some i := by rw [hhand]; rfl
  have hissued := h.hand_issued t i hitem
  constructor
  · exact h.orderly.retire hissued.1 hissued.2
  · apply h.one_hand_setHand
    intro j hj
    contradiction
  · intro t' j hslot hj
    rcases item_setHand hj with ⟨-, hj⟩ | ⟨-, hj⟩
    · contradiction
    · exact h.slot_free t' j hslot hj
  · intro j hslot
    have hold := h.slot_issued j hslot
    have hne : j ≠ i := by
      rintro rfl
      exact h.slot_free t j hslot hitem
    simp [hold.1, hold.2, hne]
  · intro t' j hj
    rcases item_setHand hj with ⟨-, hj'⟩ | ⟨hne, hj'⟩
    · contradiction
    · have hold := h.hand_issued t' j hj'
      have hother : j ≠ i := by
        intro heq
        rw [heq] at hj'
        exact hne (h.one_hand t' t i hj' hitem)
      simp [hold.1, hold.2, hother]
  · intro t' j k hj
    have hunused := h.arriving_setHand t .empty ?_ t' j k hj
    · simpa using hunused
    · intro b hb
      contradiction
  · intro j hissued' hretired
    have hold : .issued j ∈ c.log := by simpa using hissued'
    have hlive : .retired j ∉ c.log ∧ j ≠ i := by simpa using hretired
    rcases h.held j hold hlive.1 with hslot | ⟨t', hj⟩
    · exact Or.inl hslot
    · have hne : t' ≠ t := by
        rintro rfl
        rw [hitem] at hj
        exact hlive.2 (Option.some.inj hj).symm
      exact Or.inr ⟨t', (item_setHand_of_ne hne).trans hj⟩
  · intro j hslot k k' b hsub
    rcases pair_sublist_concat hsub with hold | ⟨heq, -⟩
    · exact h.slot_latest j hslot k k' b hold
    · contradiction

omit [DecidableEq θ] in
/-- The resource in the slot is used. -/
theorem Linear.use (h : Linear c) (k : κ) (hslot : c.slot = some i) :
    Linear (c.record (.used k i)) := by
  have hissued := h.slot_issued i hslot
  constructor
  · exact h.orderly.use k hissued.1 hissued.2 (h.slot_latest i hslot)
  · exact h.one_hand
  · exact h.slot_free
  · intro j hj
    simpa using h.slot_issued j hj
  · intro t' j hj
    simpa using h.hand_issued t' j hj
  · intro t' j k' hj
    have hold := h.arriving_unused t' j k' hj
    have hne : j ≠ i := by
      rintro rfl
      apply h.slot_free t' j hslot
      have hhand : c.hand t' = .arriving j := hj
      rw [hhand]
      rfl
    simp [hold, hne]
  · intro j hj hretired
    have hold : .issued j ∈ c.log := by simpa using hj
    have hlive : .retired j ∉ c.log := by simpa using hretired
    exact h.held j hold hlive
  · intro j hj k₁ k₂ b hsub
    rcases pair_sublist_concat hsub with hold | ⟨heq, -⟩
    · exact h.slot_latest j hj k₁ k₂ b hold
    · cases heq
      exact Option.some.inj (hslot.symm.trans hj)

/-- Every operation keeps resources in one place and the log orderly. -/
theorem Linear.move {c' : Custody θ κ ι} (h : Linear c) (hmove : Move c c') : Linear c' := by
  cases hmove with
  | stay => exact h
  | issue hand new => exact h.issue hand new
  | deposit hand slot => exact h.deposit hand slot
  | reject hand => exact h.reject hand
  | withdraw hand slot => exact h.withdraw hand slot
  | retire hand => exact h.retire hand
  | use k slot => exact h.use k slot

end Moves

omit [DecidableEq θ] in
/-- A resource that was created is in the slot, in one hand, or retired. -/
theorem Linear.accounted {c : Custody θ κ ι} (h : Linear c) {i : ι} (hi : .issued i ∈ c.log) :
    c.slot = some i ∧ .retired i ∉ c.log ∨
      (∃! t, (c.hand t).item = some i) ∧ .retired i ∉ c.log ∨ .retired i ∈ c.log := by
  by_cases hretired : .retired i ∈ c.log
  · exact Or.inr (Or.inr hretired)
  · rcases h.held i hi hretired with hslot | ⟨t, ht⟩
    · exact Or.inl ⟨hslot, hretired⟩
    · right
      left
      exact ⟨⟨t, ht, fun t' ht' => h.one_hand t' t i ht' ht⟩, hretired⟩

end Handover
