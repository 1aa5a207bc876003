import Mathlib.Data.Multiset.UnionInter

/-!
# Programs that own objects

A program creates objects, touches them and destroys them, and leaves a log of that.  Objects
are numbered by the length of the log when they were created, so no two are the same.  A
specification says which objects a program has in its hands before and after.

Main results:

- Definition `Sound`: nothing is touched or destroyed before it is created or after it was
  destroyed.
- Definition `Spec`: what a program returns and what it then owns.
- Theorems `Spec.pure`, `Spec.bind` and `Spec.weaken`, `Spec.create`, `Spec.touch` and
  `Spec.destroy`: the rules for programs.
- Theorem `Spec.balanced`: a program that owns nothing at its end has destroyed each of its
  objects once.
-/

namespace Custody

universe u

variable {κ α β : Type u}

/-- An object, with the number of the action that created it. -/
structure Object (κ : Type u) where
  kind : κ
  number : Nat
deriving DecidableEq, Repr

/-- An entry of the log. -/
inductive Action (κ : Type u)
  | created (o : Object κ)
  | touched (o : Object κ)
  | destroyed (o : Object κ)
deriving DecidableEq, Repr

/-- A program with its log. -/
abbrev Program (κ : Type u) := StateM (List (Action κ))

def create (k : κ) : Program κ (Object κ) := fun log =>
  (⟨k, log.length⟩, log ++ [.created ⟨k, log.length⟩])

def touch (o : Object κ) : Program κ PUnit := fun log =>
  (⟨⟩, log ++ [.touched o])

def destroy (o : Object κ) : Program κ PUnit := fun log =>
  (⟨⟩, log ++ [.destroyed o])

/-! ## Sound logs -/

/-- The object that has to be there for the action. -/
def Action.needs : Action κ → Option (Object κ)
  | .created _ => none
  | .touched o | .destroyed o => some o

/-- The object was created and not destroyed. -/
def Live (log : List (Action κ)) (o : Object κ) : Prop :=
  .created o ∈ log ∧ .destroyed o ∉ log

/-- Each action found its object alive. -/
def Sound (log : List (Action κ)) : Prop :=
  ∀ before a after o, log = before ++ a :: after → a.needs = some o → Live before o

theorem Sound.nil : Sound ([] : List (Action κ)) := by
  intro before a after o h
  simp at h

/-- An action on a live object, or on none, keeps a log sound. -/
theorem Sound.concat {log : List (Action κ)} (h : Sound log) {a : Action κ}
    (ha : ∀ o, a.needs = some o → Live log o) : Sound (log ++ [a]) := by
  intro before b after o hlog hneeds
  rcases List.eq_nil_or_concat' after with rfl | ⟨rest, c, rfl⟩
  · obtain ⟨rfl, hb⟩ := List.append_inj' hlog rfl
    obtain rfl := (List.cons.inj hb).1
    exact ha o hneeds
  · rw [← List.cons_append, ← List.append_assoc] at hlog
    obtain ⟨hbefore, -⟩ := List.append_inj' hlog rfl
    exact h before b rest o hbefore hneeds

variable [DecidableEq κ]

/-- What a log says about the objects that are there at its end. -/
structure Keeps (log : List (Action κ)) (now : Multiset (Object κ)) : Prop where
  number : ∀ o, .created o ∈ log → o.number < log.length
  once : ∀ o, log.count (.created o) ≤ 1
  count : ∀ o, log.count (.created o) = log.count (.destroyed o) + now.count o
  sound : Sound log

variable {log : List (Action κ)} {now : Multiset (Object κ)} {o : Object κ}

theorem Keeps.nil : Keeps ([] : List (Action κ)) 0 where
  number _ h := absurd h List.not_mem_nil
  once _ := Nat.zero_le 1
  count _ := rfl
  sound := .nil

/-- What is kept is live. -/
theorem Keeps.live (h : Keeps log now) (ho : o ∈ now) : Live log o := by
  have hpos : 0 < now.count o := Multiset.count_pos.mpr ho
  have hcount := h.count o
  have honce := h.once o
  constructor
  · exact List.count_pos_iff.mp (by omega)
  · exact List.count_eq_zero.mp (by omega)

/-- A new object is kept. -/
theorem Keeps.create (h : Keeps log now) (k : κ) :
    Keeps (log ++ [.created ⟨k, log.length⟩]) (⟨k, log.length⟩ ::ₘ now) := by
  have hfresh : log.count (.created ⟨k, log.length⟩) = 0 :=
    List.count_eq_zero.mpr fun hmem => Nat.lt_irrefl _ (h.number _ hmem)
  refine ⟨?_, ?_, ?_, h.sound.concat fun o ho => by contradiction⟩
  · intro o ho
    rw [List.length_append, List.length_singleton]
    rcases List.mem_append.mp ho with ho | ho
    · exact Nat.lt_succ_of_lt (h.number o ho)
    · cases List.mem_singleton.mp ho
      exact Nat.lt_succ_self _
  · intro o
    by_cases ho : o = ⟨k, log.length⟩
    · subst ho
      simp [List.count_append, hfresh]
    · have honce := h.once o
      simpa [List.count_append, List.count_singleton, Ne.symm ho] using honce
  · intro o
    have hcount := h.count o
    by_cases ho : o = ⟨k, log.length⟩
    · subst ho
      rw [List.count_append, List.count_append, Multiset.count_cons_self]
      simp only [List.count_singleton, beq_self_eq_true, if_true, beq_iff_eq, reduceCtorEq,
        if_false]
      omega
    · rw [List.count_append, List.count_append, Multiset.count_cons_of_ne ho]
      simpa [List.count_singleton, Ne.symm ho] using hcount

/-- An object that is kept may be touched. -/
theorem Keeps.touch (h : Keeps log now) (ho : o ∈ now) : Keeps (log ++ [.touched o]) now where
  number q hq := by
    have hmem : .created q ∈ log := by simpa using hq
    rw [List.length_append]
    exact Nat.lt_add_right 1 (h.number q hmem)
  once q := by simpa [List.count_append, List.count_singleton] using h.once q
  count q := by simpa [List.count_append, List.count_singleton] using h.count q
  sound := h.sound.concat fun q hq => by
    cases hq
    exact h.live ho

/-- An object that is destroyed is kept no more. -/
theorem Keeps.destroy (h : Keeps log (o ::ₘ now)) : Keeps (log ++ [.destroyed o]) now where
  number q hq := by
    have hmem : .created q ∈ log := by simpa using hq
    rw [List.length_append]
    exact Nat.lt_add_right 1 (h.number q hmem)
  once q := by simpa [List.count_append, List.count_singleton] using h.once q
  count q := by
    have hcount := h.count q
    by_cases hq : q = o
    · subst hq
      rw [Multiset.count_cons_self] at hcount
      simp only [List.count_append, List.count_singleton, beq_self_eq_true, if_true, beq_iff_eq,
        reduceCtorEq, if_false]
      omega
    · rw [Multiset.count_cons_of_ne hq] at hcount
      simpa [List.count_append, List.count_singleton, Ne.symm hq] using hcount
  sound := h.sound.concat fun q hq => by
    cases hq
    exact h.live (Multiset.mem_cons_self o now)

/-! ## Specifications -/

/-- The program, begun with the objects `now` in its hands, ends with a result and objects
as `post` says. -/
def Spec (now : Multiset (Object κ)) (x : Program κ α)
    (post : α → Multiset (Object κ) → Prop) : Prop :=
  ∀ log, Keeps log now → ∃ after, Keeps (x log).2 after ∧ post (x log).1 after

variable {post : α → Multiset (Object κ) → Prop}

theorem Spec.pure {a : α} (h : post a now) : Spec now (pure a) post :=
  fun _ hlog => ⟨now, hlog, h⟩

/-- Specifications compose. -/
theorem Spec.bind {x : Program κ β} {f : β → Program κ α}
    {mid : β → Multiset (Object κ) → Prop} (hx : Spec now x mid)
    (hf : ∀ b after, mid b after → Spec after (f b) post) : Spec now (x >>= f) post := by
  intro log hlog
  obtain ⟨after, hkeeps, hmid⟩ := hx log hlog
  exact hf _ after hmid _ hkeeps

/-- The rule of consequence. -/
theorem Spec.weaken {post' : α → Multiset (Object κ) → Prop} {x : Program κ α}
    (h : Spec now x post) (himp : ∀ a after, post a after → post' a after) :
    Spec now x post' := by
  intro log hlog
  obtain ⟨after, hkeeps, hpost⟩ := h log hlog
  exact ⟨after, hkeeps, himp _ after hpost⟩

/-- What creating does. -/
theorem Spec.create (k : κ) : Spec now (create k) fun o after => after = o ::ₘ now :=
  fun _ hlog => ⟨_, hlog.create k, rfl⟩

/-- What touching does. -/
theorem Spec.touch (ho : o ∈ now) : Spec now (touch o) fun _ after => after = now :=
  fun _ hlog => ⟨now, hlog.touch ho, rfl⟩

/-- What destroying does. -/
theorem Spec.destroy (o : Object κ) (now : Multiset (Object κ)) :
    Spec (o ::ₘ now) (destroy o) fun _ after => after = now :=
  fun _ hlog => ⟨now, hlog.destroy, rfl⟩

/-- Touch an object and go on. -/
theorem Spec.touch_bind {f : PUnit → Program κ α} (ho : o ∈ now)
    (hf : Spec now (f ⟨⟩) post) : Spec now (Custody.touch o >>= f) post :=
  (Spec.touch ho).bind fun _ _ hafter => hafter ▸ hf

/-- Destroy an object and go on. -/
theorem Spec.destroy_bind {before : Multiset (Object κ)} {f : PUnit → Program κ α}
    (hbefore : before = o ::ₘ now) (hf : Spec now (f ⟨⟩) post) :
    Spec before (Custody.destroy o >>= f) post :=
  hbefore ▸ (Spec.destroy o now).bind fun _ _ hafter => hafter ▸ hf

/-! ## Pointers -/

/-- A pointer to an object, and what is in the object. -/
structure Ptr (κ β : Type u) where
  obj : Object κ
  val : β
deriving DecidableEq, Repr

/-- A call that may return an object. -/
def get (k : κ) : Option β → Program κ (Option (Ptr κ β))
  | none => pure none
  | some val => do
      let obj ← create k
      pure (some ⟨obj, val⟩)

def Ptr.read (p : Ptr κ β) : Program κ β := do
  touch p.obj
  pure p.val

def Ptr.free (p : Ptr κ β) : Program κ PUnit :=
  destroy p.obj

/-- What a pointer that may be null points to. -/
def held : Option (Ptr κ β) → Multiset (Object κ)
  | none => 0
  | some p => {p.obj}

/-- A call that answers creates the object it points to. -/
theorem Spec.get (k : κ) (answer : Option β) :
    Spec now (get k answer) fun r after => r = none ∧ answer = none ∧ after = now ∨
      ∃ p, r = some p ∧ answer = some p.val ∧ after = p.obj ::ₘ now := by
  cases answer with
  | none => exact .pure (.inl ⟨rfl, rfl, rfl⟩)
  | some val =>
      exact (Spec.create k).bind fun o after hafter => .pure (.inr ⟨⟨o, val⟩, rfl, rfl, hafter⟩)

/-- What is kept can be read. -/
theorem Spec.read {p : Ptr κ β} (hp : p.obj ∈ now) :
    Spec now p.read fun v after => v = p.val ∧ after = now :=
  (Spec.touch hp).bind fun _ _ hafter => .pure ⟨rfl, hafter⟩

/-- Read an object and go on. -/
theorem Spec.read_bind {p : Ptr κ β} {f : β → Program κ α} (hp : p.obj ∈ now)
    (hf : Spec now (f p.val) post) : Spec now (p.read >>= f) post := by
  refine (Spec.read hp).bind ?_
  rintro _ _ ⟨rfl, rfl⟩
  exact hf

/-! ## Programs that own nothing in the end -/

/-- Every object was destroyed once, and used only before. -/
structure Balanced (log : List (Action κ)) : Prop where
  once : ∀ o, .created o ∈ log → log.count (.created o) = 1 ∧ log.count (.destroyed o) = 1
  sound : Sound log

/-- A program that keeps nothing has balanced its log. -/
theorem Keeps.balanced (h : Keeps log 0) : Balanced log where
  once o ho := by
    have hpos := List.count_pos_iff.mpr ho
    have honce := h.once o
    have hcount := h.count o
    rw [Multiset.count_zero] at hcount
    omega
  sound := h.sound

/-- The main rule: a program that keeps nothing is balanced, with the result specified. -/
theorem Spec.balanced {x : Program κ α} {P : α → Prop}
    (h : Spec 0 x fun a after => P a ∧ after = 0) : Balanced (x []).2 ∧ P (x []).1 := by
  obtain ⟨after, hkeeps, hpost, rfl⟩ := h [] Keeps.nil
  exact ⟨hkeeps.balanced, hpost⟩

end Custody
