import Mathlib.Logic.Relation

/-!
# Guarded transition systems

A concurrent program is given by a predicate on initial states and a partial
step function: `next s a` is `some t` exactly when action `a` is enabled in `s`.
Nondeterminism (scheduling, results of external calls) lives in the actions, so
one definition serves both the proofs and the replay of a concrete schedule.

Main results:

- Definition `System.ReachableUnder`: states of the runs all of whose steps
  satisfy a condition on the state before the step and the action taken.
- Theorem `System.ReachableUnder.invariant`: the induction principle for
  invariants of such runs.
- Theorem `System.reachable_of_exec`: a schedule replayed by `exec` ends in a
  reachable state.
- Theorem `System.Reachable.exec`: a schedule may be appended to a run.
- Theorem `System.ReachableUnder.execChecked`: the same for a schedule whose
  steps are checked against the condition.
- Definition `System.startingAt`: the continuations of a run.
-/

namespace Transition

universe u v

variable {σ : Type u} {α : Type v}

/-- Initial states together with an executable, guarded step function. -/
structure System (σ : Type u) (α : Type v) where
  init : σ → Prop
  next : σ → α → Option σ

namespace System

/-- Replay a schedule; `none` as soon as one action is not enabled. -/
def exec (S : System σ α) : σ → List α → Option σ
  | s, [] => some s
  | s, a :: as =>
      match S.next s a with
      | none => none
      | some t => exec S t as

/-- Replay a schedule, and stop with `none` also at a step that fails `check`. -/
def execChecked (S : System σ α) (check : σ → α → Bool) : σ → List α → Option σ
  | s, [] => some s
  | s, a :: as =>
      if check s a then
        match S.next s a with
        | none => none
        | some t => execChecked S check t as
      else none

/-- States reached by runs whose every step satisfies `ok`, a condition on the
state before the step and the action taken. -/
inductive ReachableUnder (S : System σ α) (ok : σ → α → Prop) : σ → Prop
  | init {s : σ} : S.init s → ReachableUnder S ok s
  | step {s t : σ} {a : α} :
      ReachableUnder S ok s → ok s a → S.next s a = some t → ReachableUnder S ok t

/-- States reached by arbitrary runs. -/
def Reachable (S : System σ α) : σ → Prop :=
  S.ReachableUnder fun _ _ => True

variable {S : System σ α} {ok : σ → α → Prop}

@[simp]
theorem exec_nil (s : σ) : S.exec s [] = some s :=
  rfl

theorem exec_cons_of_next {s t : σ} {a : α} {as : List α} (h : S.next s a = some t) :
    S.exec s (a :: as) = S.exec t as := by
  simp [exec, h]

/-- The induction principle: what holds initially and is preserved by every
admitted step holds along every admitted run. -/
theorem ReachableUnder.invariant (Inv : σ → Prop)
    (hinit : ∀ s, S.init s → Inv s)
    (hstep : ∀ s t a, Inv s → ok s a → S.next s a = some t → Inv t)
    {s : σ} (h : S.ReachableUnder ok s) : Inv s := by
  induction h with
  | init h0 => exact hinit _ h0
  | step _ hok hnext ih => exact hstep _ _ _ ih hok hnext

/-- An invariant may be proved on top of another one already established. -/
theorem ReachableUnder.invariant_on (Base Inv : σ → Prop)
    (hbase : ∀ s, S.ReachableUnder ok s → Base s)
    (hinit : ∀ s, S.init s → Inv s)
    (hstep : ∀ s t a, Base s → Inv s → ok s a → S.next s a = some t → Inv t)
    {s : σ} (h : S.ReachableUnder ok s) : Inv s := by
  induction h with
  | init h0 => exact hinit _ h0
  | step hs hok hnext ih => exact hstep _ _ _ (hbase _ hs) ih hok hnext

/-- Weakening the step condition only adds runs. -/
theorem ReachableUnder.mono {ok' : σ → α → Prop} (himp : ∀ s a, ok s a → ok' s a)
    {s : σ} (h : S.ReachableUnder ok s) : S.ReachableUnder ok' s := by
  induction h with
  | init h0 => exact .init h0
  | step _ hok hnext ih => exact .step ih (himp _ _ hok) hnext

/-- Runs under a condition are runs. -/
theorem ReachableUnder.reachable {s : σ} (h : S.ReachableUnder ok s) : S.Reachable s :=
  h.mono fun _ _ _ => trivial

/-- A reachable state stays reachable along any replayed schedule. -/
theorem Reachable.exec {s t : σ} {as : List α} (hs : S.Reachable s)
    (h : S.exec s as = some t) : S.Reachable t := by
  induction as generalizing s with
  | nil =>
      simp only [exec_nil, Option.some.injEq] at h
      exact h ▸ hs
  | cons a as ih =>
      cases hnext : S.next s a with
      | none => simp [System.exec, hnext] at h
      | some s' =>
          rw [exec_cons_of_next hnext] at h
          exact ih (.step hs trivial hnext) h

/-- A schedule replayed from an initial state ends in a reachable state. -/
theorem reachable_of_exec {s t : σ} {as : List α} (h0 : S.init s)
    (h : S.exec s as = some t) : S.Reachable t :=
  Reachable.exec (.init h0) h

/-- A schedule whose steps pass a sound check ends in a state of the runs under
the condition. -/
theorem ReachableUnder.execChecked {check : σ → α → Bool}
    (hcheck : ∀ s a, check s a = true → ok s a) {s t : σ} {as : List α}
    (hs : S.ReachableUnder ok s) (h : S.execChecked check s as = some t) :
    S.ReachableUnder ok t := by
  induction as generalizing s with
  | nil =>
      simp only [System.execChecked, Option.some.injEq] at h
      exact h ▸ hs
  | cons a as ih =>
      unfold System.execChecked at h
      split at h
      · rename_i hok
        split at h
        · contradiction
        · rename_i s' hnext
          exact ih (.step hs (hcheck s a hok) hnext) h
      · contradiction

/-! ## Continuations of a run -/

/-- The same steps, starting in one given state. -/
def startingAt (S : System σ α) (t : σ) : System σ α where
  init s := s = t
  next := S.next

/-- What continues a run is part of a run. -/
theorem Reachable.startingAt {s t : σ} (ht : S.Reachable t)
    (h : (S.startingAt t).ReachableUnder ok s) : S.Reachable s := by
  induction h with
  | init h0 => exact h0 ▸ ht
  | step _ _ hnext ih => exact .step ih trivial hnext

end System

end Transition
