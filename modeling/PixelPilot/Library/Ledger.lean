import Mathlib.Data.Multiset.UnionInter

/-!
# Ledgers of acquired and released resources

A program that acquires and releases resources leaves a log.  The log is sound if
nothing is acquired that is held already, nothing is released that is not held, and
both happen only while the owner of the resource, if it has one, is held as well.

Main results:

- Definition `held`: what a log leaves held.
- Definition `Accounts`: a sound log leaves exactly the given resources held.
- Theorems `Accounts.acquire` and `Accounts.release`: how an account grows by one
  event.
- Definitions `acquire` and `releaseOption`, with `Accounts.of_acquire` and
  `Accounts.releaseOption`: acquiring what the system hands out, and releasing what a
  field may hold.
- Definition `ReleasedLast`: owners are released after what they own.
- Theorem `Accounts.count_eq`: every resource was acquired as often as it was
  released, once more if it is still held.
- Theorem `Accounts.released_once`: with nothing held, every acquisition has its
  release.
-/

namespace Ledger

universe u

variable {ρ : Type u} [DecidableEq ρ]

/-- An entry of the log. -/
inductive Event (ρ : Type u)
  | acquired (r : ρ)
  | released (r : ρ)
deriving DecidableEq, Repr

/-- What is held after one more event. -/
def hold (now : Multiset ρ) : Event ρ → Multiset ρ
  | .acquired r => r ::ₘ now
  | .released r => now.erase r

/-- What is held at the end of a log. -/
def held (log : List (Event ρ)) : Multiset ρ :=
  log.foldl hold 0

@[simp]
theorem held_nil : held ([] : List (Event ρ)) = 0 :=
  rfl

theorem held_concat (log : List (Event ρ)) (e : Event ρ) :
    held (log ++ [e]) = hold (held log) e := by
  unfold held
  rw [List.foldl_append]
  rfl

/-- The event may happen while `now` is held. -/
def Allowed (owner : ρ → Option ρ) (now : Multiset ρ) : Event ρ → Prop
  | .acquired r => r ∉ now ∧ ∀ o, owner r = some o → o ∈ now
  | .released r => r ∈ now ∧ ∀ o, owner r = some o → o ∈ now

/-- Every event of the log was allowed when it happened. -/
inductive Sound (owner : ρ → Option ρ) : List (Event ρ) → Prop
  | nil : Sound owner []
  | concat {log : List (Event ρ)} {e : Event ρ} :
      Sound owner log → Allowed owner (held log) e → Sound owner (log ++ [e])

/-- The log is sound and leaves exactly the resources `now` held. -/
structure Accounts (owner : ρ → Option ρ) (log : List (Event ρ)) (now : Multiset ρ) :
    Prop where
  sound : Sound owner log
  held_eq : held log = now

variable {owner : ρ → Option ρ} {log : List (Event ρ)} {now : Multiset ρ} {r : ρ}

theorem Accounts.nil : Accounts owner ([] : List (Event ρ)) 0 :=
  ⟨.nil, rfl⟩

/-- A resource that is not held is acquired. -/
theorem Accounts.acquire (h : Accounts owner log now) (hfresh : r ∉ now)
    (howner : ∀ o, owner r = some o → o ∈ now) :
    Accounts owner (log ++ [.acquired r]) (r ::ₘ now) := by
  have hallowed : Allowed owner (held log) (.acquired r) := by
    rw [h.held_eq]
    exact ⟨hfresh, howner⟩
  refine ⟨.concat h.sound hallowed, ?_⟩
  rw [held_concat, h.held_eq]
  rfl

/-- A held resource is released. -/
theorem Accounts.release (h : Accounts owner log (r ::ₘ now))
    (howner : ∀ o, owner r = some o → o ∈ now) :
    Accounts owner (log ++ [.released r]) now := by
  have hallowed : Allowed owner (held log) (.released r) := by
    rw [h.held_eq]
    refine ⟨Multiset.mem_cons_self r now, ?_⟩
    intro o ho
    exact Multiset.mem_cons_of_mem (howner o ho)
  refine ⟨.concat h.sound hallowed, ?_⟩
  rw [held_concat, h.held_eq]
  exact Multiset.erase_cons_head r now

/-! ## Programs with a log -/

/-- The system hands out a resource, which is never one that is held. -/
def acquire (log : List (Event ρ)) (r : ρ) : Option (List (Event ρ)) :=
  if r ∈ held log then none else some (log ++ [.acquired r])

/-- A resource acquired is held, if its owner is. -/
theorem Accounts.of_acquire (h : Accounts owner log now) {log' : List (Event ρ)}
    (hacquire : Ledger.acquire log r = some log')
    (howner : ∀ o, owner r = some o → o ∈ now) : Accounts owner log' (r ::ₘ now) := by
  unfold Ledger.acquire at hacquire
  split at hacquire
  · contradiction
  · rename_i hfresh
    cases hacquire
    rw [h.held_eq] at hfresh
    exact h.acquire hfresh howner

/-- What a field refers to that may refer to nothing. -/
def heldOption : Option ρ → Multiset ρ
  | none => 0
  | some r => {r}

/-- Release what a field refers to, if anything. -/
def releaseOption (r : Option ρ) (log : List (Event ρ)) : List (Event ρ) :=
  match r with
  | none => log
  | some r => log ++ [.released r]

/-- What is released is no longer held, whether there was anything or not. -/
theorem Accounts.releaseOption {r : Option ρ} (h : Accounts owner log (heldOption r + now))
    (howner : ∀ q o, r = some q → owner q = some o → o ∈ now) :
    Accounts owner (Ledger.releaseOption r log) now := by
  cases r with
  | none =>
      rw [heldOption, Multiset.zero_add] at h
      exact h
  | some q =>
      rw [heldOption, Multiset.singleton_add] at h
      exact h.release fun o ho => howner q o rfl ho

/-! ## Owners go last -/

/-- Nothing was released while something it owns was held. -/
def ReleasedLast (owner : ρ → Option ρ) (log : List (Event ρ)) : Prop :=
  ∀ before r after, log = before ++ .released r :: after →
    ∀ q ∈ held before, owner q ≠ some r

theorem ReleasedLast.nil : ReleasedLast owner ([] : List (Event ρ)) := by
  intro before r after h
  simp at h

/-- An owner is released behind all it owns. -/
theorem ReleasedLast.concat (h : ReleasedLast owner log) {e : Event ρ}
    (hlast : ∀ r, e = .released r → ∀ q ∈ held log, owner q ≠ some r) :
    ReleasedLast owner (log ++ [e]) := by
  intro before r after hlog
  rcases List.eq_nil_or_concat' after with rfl | ⟨rest, e', rfl⟩
  · obtain ⟨rfl, he⟩ := List.append_inj' hlog rfl
    exact hlast r (List.cons.inj he).1
  · rw [← List.cons_append, ← List.append_assoc] at hlog
    obtain ⟨hbefore, -⟩ := List.append_inj' hlog rfl
    exact h before r rest hbefore

theorem ReleasedLast.acquire (h : ReleasedLast owner log) (r : ρ) :
    ReleasedLast owner (log ++ [.acquired r]) :=
  h.concat fun q hq => by contradiction

/-- What owns nothing that is held may be released. -/
theorem ReleasedLast.release (h : ReleasedLast owner log) (haccounts : Accounts owner log now)
    (hfree : ∀ q ∈ now, owner q ≠ some r) : ReleasedLast owner (log ++ [.released r]) := by
  refine h.concat fun r' hr' => ?_
  cases hr'
  rw [haccounts.held_eq]
  exact hfree

/-! ## What a sound log says -/

/-- Nothing is held twice. -/
theorem Sound.nodup (h : Sound owner log) : (held log).Nodup := by
  induction h with
  | nil => exact Multiset.nodup_zero
  | @concat log e _ hallowed ih =>
      rw [held_concat]
      cases e with
      | acquired r => exact Multiset.nodup_cons.mpr ⟨hallowed.1, ih⟩
      | released r => exact ih.erase r

/-- Acquisitions and releases of one resource differ by what is still held. -/
theorem Sound.count_eq (h : Sound owner log) (r : ρ) :
    log.count (.acquired r) = log.count (.released r) + (held log).count r := by
  induction h with
  | nil => rfl
  | @concat log e _ hallowed ih =>
      rw [held_concat, List.count_append, List.count_append, ih]
      cases e with
      | acquired q =>
          by_cases hq : q = r
          · subst hq
            simp only [hold, Multiset.count_cons_self, List.count_cons_self,
              List.count_nil, List.count_cons, reduceCtorEq, beq_iff_eq, if_false]
            omega
          · simp only [hold, Multiset.count_cons_of_ne (Ne.symm hq), List.count_cons,
              List.count_nil, beq_iff_eq, Event.acquired.injEq, hq, reduceCtorEq, if_false]
            omega
      | released q =>
          by_cases hq : q = r
          · subst hq
            have hpos : 0 < (held log).count q := Multiset.count_pos.mpr hallowed.1
            simp only [hold, Multiset.count_erase_self, List.count_cons_self,
              List.count_nil, List.count_cons, reduceCtorEq, beq_iff_eq, if_false]
            omega
          · simp only [hold, Multiset.count_erase_of_ne (Ne.symm hq), List.count_cons,
              List.count_nil, beq_iff_eq, Event.released.injEq, hq, reduceCtorEq, if_false]
            omega

/-- A resource was acquired as often as it was released, once more if it is still
held. -/
theorem Accounts.count_eq (h : Accounts owner log now) (r : ρ) :
    log.count (.acquired r) = log.count (.released r) + now.count r := by
  rw [h.sound.count_eq r, h.held_eq]

/-- When nothing is held any more, every acquisition has had its one release. -/
theorem Accounts.released_once (h : Accounts owner log 0) (r : ρ) :
    log.count (.released r) = log.count (.acquired r) := by
  rw [h.count_eq r, Multiset.count_zero, Nat.add_zero]

end Ledger
