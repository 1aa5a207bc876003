import Mathlib.Logic.Relation

/-!
# Disciplines of fallible programs

A C function that returns a status code and works on shared state is a program
of `EStateM`: it stops at the first error and keeps what it has changed so far.
A discipline says what the completed runs of such programs do to the state and
what the failed ones do, in a way that survives sequencing.

Main results:

- Definition `Discipline.Follows`: every run of the program, completed or
  failed, is as the discipline says.
- Theorem `Discipline.Follows.bind`: programs that follow a discipline may be
  sequenced.
- Theorem `Discipline.Follows.forM`: the same for loops over a list.
- Theorem `Discipline.FollowsFrom.weaken`: the rule of consequence.
-/

namespace Fallible

universe u

variable {ε σ α β : Type u}

/-- An `if` without `else`. -/
def onlyIf (c : Prop) [Decidable c] (m : EStateM ε σ PUnit) : EStateM ε σ PUnit :=
  if c then m else pure ⟨⟩

theorem onlyIf_of {c : Prop} [Decidable c] (h : c) (m : EStateM ε σ PUnit) : onlyIf c m = m :=
  if_pos h

theorem onlyIf_of_not {c : Prop} [Decidable c] (h : ¬ c) (m : EStateM ε σ PUnit) :
    onlyIf c m = pure ⟨⟩ :=
  if_neg h

/-- What completed runs do to the state and what failed runs do.  Doing nothing
is allowed, two completed runs make one, and an error stays the error of the
whole program. -/
structure Discipline (ε σ : Type u) where
  done : σ → σ → Prop
  fails : ε → σ → σ → Prop
  refl : ∀ s, done s s
  trans : ∀ {s t u}, done s t → done t u → done s u
  after : ∀ {e s t u}, done s t → fails e t u → fails e s u

namespace Discipline

variable {D : Discipline ε σ}

/-- The run of `m` from `s` is as the discipline says. -/
def FollowsFrom (D : Discipline ε σ) (s : σ) (m : EStateM ε σ α) : Prop :=
  match m s with
  | .ok _ t => D.done s t
  | .error e t => D.fails e s t

/-- Every run of `m` is as the discipline says. -/
def Follows (D : Discipline ε σ) (m : EStateM ε σ α) : Prop :=
  ∀ s, D.FollowsFrom s m

/-! ## Reading a discipline off a run -/

/-- What holds after a run that returns. -/
theorem FollowsFrom.ok {s t : σ} {a : α} {m : EStateM ε σ α} (h : D.FollowsFrom s m)
    (hrun : m s = .ok a t) : D.done s t := by
  simpa [FollowsFrom, hrun] using h

/-- What holds after a run that fails. -/
theorem FollowsFrom.error {s t : σ} {e : ε} {m : EStateM ε σ α} (h : D.FollowsFrom s m)
    (hrun : m s = .error e t) : D.fails e s t := by
  simpa [FollowsFrom, hrun] using h

/-- The rule of consequence, at one starting state. -/
theorem FollowsFrom.weaken {D' : Discipline ε σ} {s : σ} {m : EStateM ε σ α}
    (h : D.FollowsFrom s m) (hdone : ∀ t, D.done s t → D'.done s t)
    (hfails : ∀ e t, D.fails e s t → D'.fails e s t) : D'.FollowsFrom s m := by
  unfold FollowsFrom at h ⊢
  split at h
  · exact hdone _ h
  · exact hfails _ _ h

/-! ## Rules for the program constructs -/

theorem followsFrom_pure (s : σ) (a : α) : D.FollowsFrom s (pure a : EStateM ε σ α) :=
  D.refl s

/-- An error keeps the discipline where failing does. -/
theorem followsFrom_throw {s : σ} {e : ε} (h : D.fails e s s) :
    D.FollowsFrom s (throw e : EStateM ε σ α) :=
  h

/-- A change of the state keeps it where the change does. -/
theorem followsFrom_modify {s : σ} {f : σ → σ} (h : D.done s (f s)) :
    D.FollowsFrom s (modify f : EStateM ε σ PUnit) :=
  h

/-- Sequencing, with what the first run leaves known to the second. -/
theorem FollowsFrom.bind {s : σ} {m : EStateM ε σ α} {f : α → EStateM ε σ β}
    (hm : D.FollowsFrom s m) (hf : ∀ a t, m s = .ok a t → D.FollowsFrom t (f a)) :
    D.FollowsFrom s (m >>= f) := by
  have hbind : (m >>= f) s = EStateM.bind m f s := rfl
  unfold FollowsFrom
  rw [hbind, EStateM.bind]
  cases hrun : m s with
  | error e t => exact hm.error hrun
  | ok a t =>
      have hdone := hm.ok hrun
      have hrest := hf a t hrun
      simp only
      cases hnext : f a t with
      | ok b u => exact D.trans hdone (hrest.ok hnext)
      | error e u => exact D.after hdone (hrest.error hnext)

/-- A program that reads the state first is judged at the state read. -/
theorem followsFrom_get_bind {s : σ} {f : σ → EStateM ε σ β} (h : D.FollowsFrom s (f s)) :
    D.FollowsFrom s (get >>= f) := by
  refine FollowsFrom.bind (D.refl s) ?_
  intro a t hrun
  cases hrun
  exact h

theorem Follows.pure (a : α) : D.Follows (pure a : EStateM ε σ α) :=
  fun s => followsFrom_pure s a

theorem Follows.modify {f : σ → σ} (h : ∀ s, D.done s (f s)) :
    D.Follows (modify f : EStateM ε σ PUnit) :=
  fun s => followsFrom_modify (h s)

/-- Programs that follow a discipline may be sequenced. -/
theorem Follows.bind {m : EStateM ε σ α} {f : α → EStateM ε σ β}
    (hm : D.Follows m) (hf : ∀ a, D.Follows (f a)) : D.Follows (m >>= f) :=
  fun s => (hm s).bind fun a t _ => hf a t

/-- Both branches have to follow. -/
theorem Follows.ite {c : Prop} [Decidable c] {m n : EStateM ε σ α}
    (hm : D.Follows m) (hn : D.Follows n) : D.Follows (if c then m else n) := by
  by_cases h : c
  · simpa [h] using hm
  · simpa [h] using hn

theorem Follows.onlyIf {c : Prop} [Decidable c] {m : EStateM ε σ PUnit}
    (hm : D.Follows m) : D.Follows (onlyIf c m) :=
  Follows.ite hm (Follows.pure _)

/-- A loop follows the discipline its body follows. -/
theorem Follows.forM {xs : List α} {f : α → EStateM ε σ PUnit}
    (hf : ∀ a ∈ xs, D.Follows (f a)) : D.Follows (xs.forM f) := by
  induction xs with
  | nil => exact Follows.pure _
  | cons x xs ih =>
      change D.Follows (f x >>= fun _ => xs.forM f)
      apply Follows.bind
      · exact hf x List.mem_cons_self
      · intro _
        apply ih
        intro a ha
        exact hf a (List.mem_cons_of_mem x ha)

end Discipline

end Fallible
