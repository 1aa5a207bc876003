import Mathlib.Data.List.Basic

/-!
# Loops over arguments

A loop over a list whose turns see the element at hand and what is behind it.  A turn
ends the loop with a result, or skips some of the next elements and goes on.

Main results:

- Definitions `run` and `visits`: the result of a loop, and where its turns start.
- Definition `heads`: where the groups of a list start, for a width of each group.
- Theorems `run_cons`, `visits_cons` and `heads_cons`: one turn.
- Theorem `dropInduction`: induction for such loops.
- Theorem `visits_eq_heads`: a loop that runs to the end starts a turn at each group.
-/

namespace ArgumentLoop

universe u v w

/-- How a turn ends. -/
inductive Turn (σ : Type v) (ρ : Type w)
  | exit (result : ρ) (s : σ)
  | next (skip : Nat) (s : σ)

variable {α : Type u} {σ : Type v} {ρ : Type w}

/-- The loop, for at most so many turns. -/
def runFor (turn : α → List α → σ → Turn σ ρ) : Nat → List α → σ → Option ρ × σ
  | 0, _, s => (none, s)
  | _ + 1, [], s => (none, s)
  | n + 1, a :: rest, s =>
      match turn a rest s with
      | .exit result s => (some result, s)
      | .next skip s => runFor turn n (rest.drop skip) s

/-- The result of the loop, if a turn ends it, and the state after it. -/
def run (turn : α → List α → σ → Turn σ ρ) (l : List α) (s : σ) : Option ρ × σ :=
  runFor turn l.length l s

/-- What lies ahead at the start of each turn, for at most so many turns. -/
def visitsFor (turn : α → List α → σ → Turn σ ρ) : Nat → List α → σ → List (List α)
  | 0, _, _ => []
  | _ + 1, [], _ => []
  | n + 1, a :: rest, s =>
      (a :: rest) ::
        match turn a rest s with
        | .exit _ _ => []
        | .next skip s => visitsFor turn n (rest.drop skip) s

/-- The places where turns start: each is given by the list from there on. -/
def visits (turn : α → List α → σ → Turn σ ρ) (l : List α) (s : σ) : List (List α) :=
  visitsFor turn l.length l s

/-- The places where groups start: a group is an element and the `width` next ones. -/
def heads (width : α → List α → Nat) (l : List α) : List (List α) :=
  visits (fun a rest _ => (.next (width a rest) () : Turn Unit Empty)) l ()

/-- The place is reached by skipping groups. -/
theorem dropInduction {motive : List α → Prop} (nil : motive [])
    (cons : ∀ a rest, (∀ n, motive (rest.drop n)) → motive (a :: rest)) (l : List α) :
    motive l := by
  induction hlength : l.length using Nat.strongRecOn generalizing l with
  | ind n ih =>
      cases l with
      | nil => exact nil
      | cons a rest =>
          refine cons a rest fun n => ih (rest.drop n).length ?_ _ rfl
          rw [List.length_cons] at hlength
          rw [List.length_drop]
          omega

variable {turn : α → List α → σ → Turn σ ρ} {width : α → List α → Nat}
variable {a : α} {l rest : List α} {s s' : σ} {n m : Nat}

/-! ## One turn -/

/-- More turns than arguments are never used. -/
theorem runFor_congr (hn : l.length ≤ n) (hm : l.length ≤ m) :
    runFor turn n l s = runFor turn m l s := by
  induction n generalizing m l s with
  | zero =>
      have hnil : l = [] := List.eq_nil_of_length_eq_zero (by omega)
      subst hnil
      cases m <;> rfl
  | succ n ih =>
      cases l with
      | nil => cases m <;> rfl
      | cons a rest =>
          cases m with
          | zero => simp at hm
          | succ m =>
              rw [List.length_cons] at hn hm
              unfold runFor
              split
              · rfl
              · exact ih (by rw [List.length_drop]; omega) (by rw [List.length_drop]; omega)

/-- More turns than arguments visit no further place. -/
theorem visitsFor_congr (hn : l.length ≤ n) (hm : l.length ≤ m) :
    visitsFor turn n l s = visitsFor turn m l s := by
  induction n generalizing m l s with
  | zero =>
      have hnil : l = [] := List.eq_nil_of_length_eq_zero (by omega)
      subst hnil
      cases m <;> rfl
  | succ n ih =>
      cases l with
      | nil => cases m <;> rfl
      | cons a rest =>
          cases m with
          | zero => simp at hm
          | succ m =>
              rw [List.length_cons] at hn hm
              unfold visitsFor
              congr 1
              split
              · rfl
              · exact ih (by rw [List.length_drop]; omega) (by rw [List.length_drop]; omega)

@[simp]
theorem run_nil : run turn [] s = (none, s) :=
  rfl

theorem run_cons :
    run turn (a :: rest) s =
      match turn a rest s with
      | .exit result s => (some result, s)
      | .next skip s => run turn (rest.drop skip) s := by
  unfold run
  rw [List.length_cons, runFor]
  split
  · rfl
  · exact runFor_congr (by rw [List.length_drop]; omega) (Nat.le_refl _)

/-- A turn that ends the loop gives its result. -/
theorem run_of_exit {result : ρ} (h : turn a rest s = .exit result s') :
    run turn (a :: rest) s = (some result, s') := by
  rw [run_cons, h]

/-- A turn that goes on leaves the loop to the arguments behind those it took. -/
theorem run_of_next {skip : Nat} (h : turn a rest s = .next skip s') :
    run turn (a :: rest) s = run turn (rest.drop skip) s' := by
  rw [run_cons, h]

@[simp]
theorem visits_nil : visits turn [] s = [] :=
  rfl

theorem visits_cons :
    visits turn (a :: rest) s =
      (a :: rest) ::
        match turn a rest s with
        | .exit _ _ => []
        | .next skip s => visits turn (rest.drop skip) s := by
  unfold visits
  rw [List.length_cons, visitsFor]
  congr 1
  split
  · rfl
  · exact visitsFor_congr (by rw [List.length_drop]; omega) (Nat.le_refl _)

/-- Behind a turn that ends the loop no place is visited. -/
theorem visits_of_exit {result : ρ} (h : turn a rest s = .exit result s') :
    visits turn (a :: rest) s = [a :: rest] := by
  rw [visits_cons, h]

/-- A turn that goes on is visited before those behind it. -/
theorem visits_of_next {skip : Nat} (h : turn a rest s = .next skip s') :
    visits turn (a :: rest) s = (a :: rest) :: visits turn (rest.drop skip) s' := by
  rw [visits_cons, h]

@[simp]
theorem heads_nil : heads width ([] : List α) = [] :=
  rfl

theorem heads_cons :
    heads width (a :: rest) = (a :: rest) :: heads width (rest.drop (width a rest)) :=
  visits_cons

/-! ## Whole loops -/

/-- A result comes from the turn that ended the loop. -/
theorem exists_exit {result : ρ} (h : run turn l s = (some result, s')) :
    ∃ a rest s₁, turn a rest s₁ = .exit result s' := by
  induction l using dropInduction generalizing s with
  | nil => cases h
  | cons a rest ih =>
      cases hturn : turn a rest s with
      | exit result' s'' =>
          rw [run_of_exit hturn] at h
          cases h
          exact ⟨a, rest, s, hturn⟩
      | next skip s'' =>
          rw [run_of_next hturn] at h
          exact ih _ h

/-- A turn that goes on skips a group. -/
def Skips (turn : α → List α → σ → Turn σ ρ) (width : α → List α → Nat) : Prop :=
  ∀ a rest s skip s', turn a rest s = .next skip s' →
    rest.drop skip = rest.drop (width a rest)

/-- A loop that runs to the end starts a turn at each group. -/
theorem visits_eq_heads (hskips : Skips turn width) (hrun : run turn l s = (none, s')) :
    visits turn l s = heads width l := by
  induction l using dropInduction generalizing s with
  | nil => rfl
  | cons a rest ih =>
      cases hturn : turn a rest s with
      | exit result s'' =>
          rw [run_of_exit hturn] at hrun
          cases hrun
      | next skip s'' =>
          rw [run_of_next hturn, hskips a rest s skip s'' hturn] at hrun
          rw [visits_of_next hturn, hskips a rest s skip s'' hturn, heads_cons, ih _ hrun]

/-! ## Groups -/

/-- A place is the end of the list from there on. -/
theorem suffix_of_mem_heads {place : List α} (h : place ∈ heads width l) : place <:+ l := by
  induction l using dropInduction with
  | nil => cases h
  | cons a rest ih =>
      rw [heads_cons, List.mem_cons] at h
      rcases h with rfl | hlater
      · exact List.suffix_refl _
      · exact (ih _ hlater).trans ((List.drop_suffix _ _).trans (List.suffix_cons a rest))

/-- A place is no longer than the arguments. -/
theorem length_of_mem_heads {place : List α} (h : place ∈ heads width l) :
    place.length ≤ l.length :=
  (suffix_of_mem_heads h).length_le

/-- Every place visited is an end of the arguments. -/
theorem visits_suffix {place : List α} (h : place ∈ visits turn l s) : place <:+ l := by
  induction l using dropInduction generalizing s with
  | nil => cases h
  | cons a rest ih =>
      cases hturn : turn a rest s with
      | exit result s' =>
          rw [visits_of_exit hturn, List.mem_singleton] at h
          subst h
          exact List.suffix_refl _
      | next skip s' =>
          rw [visits_of_next hturn, List.mem_cons] at h
          rcases h with rfl | hlater
          · exact List.suffix_refl _
          · exact (ih _ hlater).trans ((List.drop_suffix _ _).trans (List.suffix_cons a rest))

/-- With groups of one or two elements, an element starts a group unless it ends one. -/
theorem mem_heads_iff (hwidth : ∀ a rest, width a rest ≤ 1) {place : List α}
    (hplace : place <:+ l) (hne : place ≠ []) :
    place ∈ heads width l ↔ ¬ ∃ a, a :: place ∈ heads width l ∧ width a place = 1 := by
  induction l using dropInduction with
  | nil => exact absurd (List.suffix_nil.mp hplace) hne
  | cons a rest ih =>
      rw [heads_cons]
      rcases List.suffix_cons_iff.mp hplace with rfl | hrest
      · -- Nothing stands in front of the whole list.
        refine iff_of_true List.mem_cons_self ?_
        rintro ⟨b, hmem, -⟩
        rw [← heads_cons] at hmem
        have hlength := length_of_mem_heads hmem
        rw [List.length_cons] at hlength
        omega
      · have hshort := hrest.length_le
        have hnot : place ≠ a :: rest := by
          rintro rfl
          rw [List.length_cons] at hshort
          omega
        have hfront : ∀ b, b :: place = a :: rest ↔ b = a ∧ place = rest := by
          intro b
          rw [List.cons.injEq]
        simp only [List.mem_cons, hnot, false_or, hfront]
        rcases Nat.le_one_iff_eq_zero_or_eq_one.mp (hwidth a rest) with hzero | hone
        · have hlater := ih 0 hrest
          rw [List.drop_zero] at hlater
          rw [hzero, List.drop_zero, hlater]
          refine not_congr (exists_congr fun b => and_congr_left fun hb => ?_)
          refine ⟨Or.inr, fun h => h.resolve_left ?_⟩
          rintro ⟨rfl, rfl⟩
          omega
        · rw [hone]
          by_cases heq : place = rest
          · subst heq
            refine iff_of_false ?_ (not_not.mpr ⟨a, Or.inl ⟨rfl, rfl⟩, hone⟩)
            intro hmem
            have hlength := length_of_mem_heads hmem
            have hpos := List.length_pos_iff.mpr hne
            rw [List.length_drop] at hlength
            omega
          · have htail : place <:+ rest.drop 1 := by
              cases rest with
              | nil => exact absurd (List.suffix_nil.mp hrest) hne
              | cons b rest => exact (List.suffix_cons_iff.mp hrest).resolve_left heq
            rw [ih 1 htail]
            refine not_congr (exists_congr fun b => and_congr_left fun _ => ?_)
            exact ⟨Or.inr, fun h => h.resolve_left fun hb => heq hb.2⟩

end ArgumentLoop
