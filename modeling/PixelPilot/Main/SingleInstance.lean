import PixelPilot.Main.PidFile

/-!
# One instance at a time

`ensure_single_instance` removes the pid file it finds if it takes it for a stale
one, and it decides that before it removes the file.  In between the name may have
been given to the file of another process.

Main results:

- Definition `SingleInstance`: at most one process is past the check, and its file is
  in place.
- Definition `Undisturbed`: no process creates the file while another one is about
  to remove an older one or to end, and the file of a living process is read
  successfully and with its pid in it.
- Theorem `single_instance`: the runs whose steps are undisturbed keep a single
  instance, and a step that is not can be continued to a state that does not.
-/

namespace PixelPilot
namespace Main

open Transition

/-! ## The property -/

/-- The process has got past `ensure_single_instance` and has not ended. -/
def ProcPc.past : ProcPc → Bool
  | .running _ | .exiting _ | .leaving => true
  | _ => false

/-- At most one process is past `ensure_single_instance`, and until it removes its pid
file itself the file is in place. -/
structure SingleInstance (s : PidState) : Prop where
  single : ∀ p q, (s.pc p).past = true → (s.pc q).past = true → p = q
  kept : ∀ p i, s.pc p = .running i ∨ s.pc p = .exiting i → s.path = some i

/-! ## The condition -/

/-- The inode that the process created and has not removed itself. -/
def ProcPc.inode : ProcPc → Option Nat
  | .write i | .unlinkOwn i | .running i | .exiting i => some i
  | _ => none

/-- The living process `p` created inode `i`. -/
def Holds (s : PidState) (p i : Nat) : Prop :=
  (s.pc p).inode = some i

/-- What process `q` is about to do may hit a file that `creator` creates now: it has
opened an older file and may find it stale, or has found one stale, or it has removed
its own file and not ended yet.  A process with its own pid or the creator's in its
hands finds that process alive. -/
def ProcPc.Threatens (creator q : Nat) : ProcPc → Prop
  | .read _ | .unlinkStale | .leaving => True
  | .judge pid => pid ≠ creator ∧ pid ≠ q
  | _ => False

/-- The step does not disturb the protocol: the file is created only while no other
process threatens it, and the file of a living process is opened and read
successfully, and holds that process's pid, or the reader's own. -/
structure Undisturbed (s : PidState) (a : ProcAct) : Prop where
  create : ∀ p, a = .step p .go → s.pc p = .create → s.path = none →
    ∀ q, q ≠ p → ¬ (s.pc q).Threatens p q
  openRead : ∀ q, a = .step q .fail → s.pc q = .openRead → ∀ p i, ¬ Holds s p i
  read : ∀ q answer p i, a = .step q answer → s.pc q = .read i → Holds s p i →
    answer = .go ∧ (readExistingPid (s.content i) = some p ∨
      readExistingPid (s.content i) = some q)

/-! ## The invariant -/

/-- While `p` holds inode `i`, process `q` does not hold one, and will not remove the
file of `p`. -/
def ProcPc.Calm (p i q : Nat) : ProcPc → Prop
  | .gone | .create | .openRead | .failed => True
  | .read j => j = i
  | .judge pid => pid = p ∨ pid = q
  | .unlinkStale | .leaving | .write _ | .unlinkOwn _ | .running _ | .exiting _ => False

/-- What undisturbed runs keep. -/
structure PidInv (s : PidState) : Prop where
  valid : ∀ p, s.pc p ≠ .gone → 0 < p ∧ p ≤ intMax
  held : ∀ p i, Holds s p i → s.path = some i
  text : ∀ p i, s.pc p = .running i ∨ s.pc p = .exiting i → s.content i = pidText p
  empty : ∀ p i, s.pc p = .write i → s.content i = []
  calm : ∀ p i q, Holds s p i → q ≠ p → (s.pc q).Calm p i q
  leaving : ∀ p q, s.pc p = .leaving → s.pc q = .leaving → p = q

/-- What another process holds stays. -/
theorem holds_goto_ne {s : PidState} {p q i : Nat} {pc : ProcPc} (h : q ≠ p) :
    Holds (s.goto p pc) q i ↔ Holds s q i := by
  unfold Holds
  rw [PidState.goto_pc_ne s pc h]

/-- Where no living process holds a file, nothing can go wrong. -/
theorem PidInv.of_none {s : PidState} (hvalid : ∀ p, s.pc p ≠ .gone → 0 < p ∧ p ≤ intMax)
    (hnone : ∀ p i, ¬ Holds s p i)
    (hleaving : ∀ p q, s.pc p = .leaving → s.pc q = .leaving → p = q) : PidInv s where
  valid := hvalid
  held p i hp := absurd hp (hnone p i)
  text p i hp := by
    rcases hp with hp | hp
    · exact absurd (by rw [Holds, hp]; rfl) (hnone p i)
    · exact absurd (by rw [Holds, hp]; rfl) (hnone p i)
  empty p i hp := absurd (by rw [Holds, hp]; rfl) (hnone p i)
  calm p i q hp := absurd hp (hnone p i)
  leaving := hleaving

/-- Other processes keep their pids when one goes on. -/
theorem PidInv.valid_goto {s : PidState} (h : PidInv s) {p : Nat} (pc : ProcPc)
    (hp : pc ≠ .gone → 0 < p ∧ p ≤ intMax) :
    ∀ q, (s.goto p pc).pc q ≠ .gone → 0 < q ∧ q ≤ intMax := by
  intro q hq
  by_cases hsame : q = p
  · subst hsame
    rw [PidState.goto_pc_self] at hq
    exact hp hq
  · rw [PidState.goto_pc_ne s pc hsame] at hq
    exact h.valid q hq

/-- A process goes on without touching a file. -/
theorem PidInv.goto {s : PidState} (h : PidInv s) {p : Nat} {pc : ProcPc}
    (hvalid : pc ≠ .gone → 0 < p ∧ p ≤ intMax)
    (hinode : ∀ i, pc.inode = some i → Holds s p i)
    (hwrite : ∀ i, pc ≠ .write i)
    (htext : ∀ i, pc = .running i ∨ pc = .exiting i → s.content i = pidText p)
    (hcalm : ∀ q i, q ≠ p → Holds s q i → pc.Calm q i p)
    (hleaving : pc = .leaving → ∀ q, q ≠ p → s.pc q ≠ .leaving) : PidInv (s.goto p pc) where
  valid := h.valid_goto pc hvalid
  held q i hq := by
    by_cases hsame : q = p
    · subst hsame
      rw [Holds, PidState.goto_pc_self] at hq
      exact h.held q i (hinode i hq)
    · exact h.held q i ((holds_goto_ne hsame).mp hq)
  text q i hq := by
    by_cases hsame : q = p
    · subst hsame
      rw [PidState.goto_pc_self] at hq
      exact htext i hq
    · rw [PidState.goto_pc_ne s pc hsame] at hq
      exact h.text q i hq
  empty q i hq := by
    by_cases hsame : q = p
    · subst hsame
      rw [PidState.goto_pc_self] at hq
      exact absurd hq (hwrite i)
    · rw [PidState.goto_pc_ne s pc hsame] at hq
      exact h.empty q i hq
  calm q i r hq hne := by
    by_cases hsame : q = p
    · subst hsame
      rw [Holds, PidState.goto_pc_self] at hq
      rw [PidState.goto_pc_ne s pc hne]
      exact h.calm q i r (hinode i hq) hne
    · have hq' := (holds_goto_ne hsame).mp hq
      by_cases hr : r = p
      · subst hr
        rw [PidState.goto_pc_self]
        exact hcalm q i hsame hq'
      · rw [PidState.goto_pc_ne s pc hr]
        exact h.calm q i r hq' hne
  leaving q r hq hr := by
    by_contra hne
    by_cases hqp : q = p
    · subst hqp
      rw [PidState.goto_pc_self] at hq
      rw [PidState.goto_pc_ne s pc (Ne.symm hne)] at hr
      exact hleaving hq r (Ne.symm hne) hr
    · rw [PidState.goto_pc_ne s pc hqp] at hq
      by_cases hrp : r = p
      · subst hrp
        rw [PidState.goto_pc_self] at hr
        exact hleaving hr q hqp hq
      · rw [PidState.goto_pc_ne s pc hrp] at hr
        exact hne (h.leaving q r hq hr)

/-- Another process that holds a file is calm about this one. -/
theorem PidInv.calm_of_pc {s : PidState} (h : PidInv s) {p q i : Nat} {pc : ProcPc}
    (hpc : s.pc p = pc) (hne : q ≠ p) (hq : Holds s q i) : pc.Calm q i p := by
  have hcalm := h.calm q i p hq (Ne.symm hne)
  rw [hpc] at hcalm
  exact hcalm

/-- No file is held while its name is free. -/
theorem PidInv.not_holds {s : PidState} (h : PidInv s) (hpath : s.path = none) (p i : Nat) :
    ¬ Holds s p i := by
  intro hp
  rw [h.held p i hp] at hpath
  contradiction

/-- The name is removed by the only process that may hold the file. -/
theorem PidInv.unlink {s : PidState} (h : PidInv s) {p : Nat} {pc : ProcPc}
    (hvalid : 0 < p ∧ p ≤ intMax) (hinode : pc.inode = none)
    (hothers : ∀ q i, q ≠ p → ¬ Holds s q i)
    (hleaving : pc = .leaving → ∀ q, q ≠ p → s.pc q ≠ .leaving) :
    PidInv (s.unlink.goto p pc) := by
  have hgoto : PidInv (s.goto p pc) := by
    apply h.goto (fun _ => hvalid)
    · intro i hi
      rw [hinode] at hi
      contradiction
    · intro i hi
      rw [hi] at hinode
      contradiction
    · intro i hi
      rcases hi with hi | hi
      · rw [hi] at hinode
        contradiction
      · rw [hi] at hinode
        contradiction
    · intro q i hne hq
      exact absurd hq (hothers q i hne)
    · exact hleaving
  refine PidInv.of_none hgoto.valid ?_ hgoto.leaving
  intro q i hq
  by_cases hsame : q = p
  · subst hsame
    rw [Holds, PidState.goto_pc_self, hinode] at hq
    contradiction
  · exact hothers q i hsame ((holds_goto_ne hsame).mp hq)

/-- A calm process holds no file and is not about to end. -/
theorem ProcPc.Calm.other {p i q : Nat} {pc : ProcPc} (h : pc.Calm p i q) :
    pc.inode = none ∧ pc ≠ .leaving := by
  cases pc <;> simp_all [ProcPc.Calm, ProcPc.inode]

/-- One process holds the file in place, and the others are calm. -/
theorem PidInv.of_only {s : PidState} {p i : Nat}
    (hvalid : ∀ q, s.pc q ≠ .gone → 0 < q ∧ q ≤ intMax) (hpath : s.path = some i)
    (hp : Holds s p i)
    (htext : s.pc p = .running i ∨ s.pc p = .exiting i → s.content i = pidText p)
    (hempty : s.pc p = .write i → s.content i = [])
    (hcalm : ∀ q, q ≠ p → (s.pc q).Calm p i q) : PidInv s := by
  have honly : ∀ q j, Holds s q j → q = p ∧ j = i := by
    intro q j hq
    by_cases hsame : q = p
    · subst hsame
      exact ⟨rfl, Option.some.inj (hq.symm.trans hp)⟩
    · rw [Holds, (hcalm q hsame).other.1] at hq
      contradiction
  have hends : ∀ q, s.pc q ≠ .leaving := by
    intro q hq
    by_cases hsame : q = p
    · rw [Holds, ← hsame, hq] at hp
      contradiction
    · exact (hcalm q hsame).other.2 hq
  refine ⟨hvalid, ?_, ?_, ?_, ?_, ?_⟩
  · intro q j hq
    rw [hpath, (honly q j hq).2]
  · intro q j hq
    have hholds : Holds s q j := by
      rcases hq with hq | hq
      · rw [Holds, hq]
        rfl
      · rw [Holds, hq]
        rfl
    rcases honly q j hholds with ⟨rfl, rfl⟩
    exact htext hq
  · intro q j hq
    have hholds : Holds s q j := by
      rw [Holds, hq]
      rfl
    rcases honly q j hholds with ⟨rfl, rfl⟩
    exact hempty hq
  · intro q j r hq hne
    rcases honly q j hq with ⟨rfl, rfl⟩
    exact hcalm r hne
  · intro q r hq
    exact absurd hq (hends q)

/-- Whoever does not threaten a new file and holds none is calm about it. -/
theorem ProcPc.calm_of_not_threatens {p i q : Nat} {pc : ProcPc} (hnone : pc.inode = none)
    (hno : ¬ pc.Threatens p q) : pc.Calm p i q := by
  cases pc with
  | judge pid =>
      simp only [ProcPc.Threatens, not_and, not_not] at hno
      by_cases hself : pid = p
      · exact .inl hself
      · exact .inr (hno hself)
  | read j => simp [ProcPc.Threatens] at hno
  | unlinkStale => simp [ProcPc.Threatens] at hno
  | leaving => simp [ProcPc.Threatens] at hno
  | write j => contradiction
  | unlinkOwn j => contradiction
  | running j => contradiction
  | exiting j => contradiction
  | gone => trivial
  | create => trivial
  | openRead => trivial
  | failed => trivial

/-- The file is created while nobody threatens it. -/
theorem PidInv.create {s : PidState} (h : PidInv s) {p : Nat} (hpc : s.pc p = .create)
    (hpath : s.path = none) (hsafe : ∀ q, q ≠ p → ¬ (s.pc q).Threatens p q) :
    PidInv (s.createFile.goto p (.write s.fresh)) := by
  have hvalid := h.valid_goto (.write s.fresh) (fun _ => h.valid p (by simp [hpc]))
  have hnew : Holds (s.createFile.goto p (.write s.fresh)) p s.fresh := by
    rw [Holds, PidState.goto_pc_self]
    rfl
  refine PidInv.of_only hvalid rfl hnew ?_ ?_ ?_
  · intro hpast
    simp at hpast
  · intro _
    exact Function.update_self ..
  · intro q hne
    rw [PidState.goto_pc_ne s.createFile _ hne]
    have hnone : (s.pc q).inode = none := by
      rw [Option.eq_none_iff_forall_ne_some]
      intro i
      exact h.not_holds hpath q i
    exact ProcPc.calm_of_not_threatens hnone (hsafe q hne)

/-- The holder writes its file. -/
theorem PidInv.write {s : PidState} (h : PidInv s) {p i : Nat} {pc : ProcPc}
    (text : List Char) (hpc : s.pc p = .write i) (hinode : pc.inode = some i)
    (hwrite : pc ≠ .write i)
    (htext : pc = .running i ∨ pc = .exiting i → text = pidText p) :
    PidInv ((s.writeFile i text).goto p pc) := by
  have hholds : Holds s p i := by
    rw [Holds, hpc]
    rfl
  have hvalid := h.valid_goto pc (fun _ => h.valid p (by simp [hpc]))
  have hkept : Holds ((s.writeFile i text).goto p pc) p i := by
    rw [Holds, PidState.goto_pc_self]
    exact hinode
  refine PidInv.of_only hvalid (h.held p i hholds) hkept ?_ ?_ ?_
  · intro hpast
    rw [PidState.goto_pc_self] at hpast
    rw [← htext hpast]
    exact Function.update_self ..
  · intro hwrites
    rw [PidState.goto_pc_self] at hwrites
    exact absurd hwrites hwrite
  · intro q hne
    rw [PidState.goto_pc_ne (s.writeFile i text) _ hne]
    exact h.calm p i q hholds hne

/-- A process without a file goes on to a control point without one. -/
theorem PidInv.goto_plain {s : PidState} (h : PidInv s) {p : Nat} {pc : ProcPc}
    (hvalid : pc ≠ .gone → 0 < p ∧ p ≤ intMax) (hinode : pc.inode = none)
    (hleaving : pc ≠ .leaving) (hcalm : ∀ q i, q ≠ p → Holds s q i → pc.Calm q i p) :
    PidInv (s.goto p pc) := by
  apply h.goto hvalid
  · intro i hi
    rw [hinode] at hi
    contradiction
  · intro i hi
    rw [hi] at hinode
    contradiction
  · intro i hi
    rcases hi with hi | hi
    · rw [hi] at hinode
      contradiction
    · rw [hi] at hinode
      contradiction
  · exact hcalm
  · intro heq
    exact absurd heq hleaving

/-- One step of a process that is not disturbed. -/
theorem PidInv.stepNext {s t : PidState} {p : Nat} {answer : CallAnswer} (h : PidInv s)
    (hok : Undisturbed s (.step p answer)) (hnext : stepNext s p answer = some t) :
    PidInv t := by
  have hother : ∀ {pc : ProcPc}, s.pc p = pc → (∀ q i, q ≠ p → Holds s q i → pc.Calm q i p) :=
    fun hpc q i hne hq => h.calm_of_pc hpc hne hq
  have hvalid : s.pc p ≠ .gone → 0 < p ∧ p ≤ intMax := h.valid p
  have halone : ∀ {i : Nat}, Holds s p i → ∀ q j, q ≠ p → ¬ Holds s q j := by
    intro i hp q j hne hq
    have hnone := (h.calm p i q hp hne).other.1
    rw [Holds, hnone] at hq
    contradiction
  have hends : ∀ {i : Nat}, Holds s p i → ∀ q, q ≠ p → s.pc q ≠ .leaving :=
    fun hp q hne => (h.calm p _ q hp hne).other.2
  unfold Main.stepNext at hnext
  split at hnext
  · rename_i hpc
    have hv := hvalid (by simp [hpc])
    split at hnext
    · cases hnext
      exact h.goto_plain (fun _ => hv) rfl (by simp) (fun q i hne hq => trivial)
    · rename_i hpath
      cases hnext
      exact h.create hpc hpath (hok.create p rfl hpc hpath)
  · rename_i hpc
    cases hnext
    exact h.goto_plain (fun _ => hvalid (by simp [hpc])) rfl (by simp)
      (fun q i hne hq => trivial)
  · rename_i i hpc
    cases hnext
    exact h.write (pidText p) hpc rfl (by simp) (fun _ => rfl)
  · rename_i i written hpc
    split at hnext
    · cases hnext
      exact h.write _ hpc rfl (by simp) (by intro hpast; simp at hpast)
    · contradiction
  · rename_i i hpc
    have hp : Holds s p i := by
      rw [Holds, hpc]
      rfl
    cases hnext
    exact h.unlink (hvalid (by simp [hpc])) rfl (halone hp) (by simp)
  · rename_i i hpc
    cases hnext
    exact h.goto_plain (fun _ => hvalid (by simp [hpc])) rfl (by simp)
      (fun q i hne hq => trivial)
  · rename_i hpc
    have hv := hvalid (by simp [hpc])
    split at hnext
    · rename_i i hpath
      cases hnext
      refine h.goto_plain (fun _ => hv) rfl (by simp) ?_
      intro q j hne hq
      exact Option.some.inj (hpath.symm.trans (h.held q j hq))
    · rename_i hpath
      cases hnext
      refine h.goto_plain (fun _ => hv) rfl (by simp) ?_
      intro q j hne hq
      exact absurd hq (h.not_holds hpath q j)
  · rename_i hpc
    cases hnext
    refine h.goto_plain (fun _ => hvalid (by simp [hpc])) rfl (by simp) ?_
    intro q j hne hq
    exact absurd hq (hok.openRead p rfl hpc q j)
  · rename_i i hpc
    have hv := hvalid (by simp [hpc])
    have hread : ∀ q j, q ≠ p → Holds s q j → readExistingPid (s.content i) = some q ∨
        readExistingPid (s.content i) = some p := by
      intro q j hne hq
      have hsame : i = j := hother hpc q j hne hq
      rw [← hsame] at hq
      exact (hok.read p _ q i rfl hpc hq).2
    split at hnext
    · rename_i pid hpid
      cases hnext
      refine h.goto_plain (fun _ => hv) rfl (by simp) ?_
      intro q j hne hq
      rcases hread q j hne hq with hq' | hp'
      · rw [hpid] at hq'
        exact .inl (Option.some.inj hq')
      · rw [hpid] at hp'
        exact .inr (Option.some.inj hp')
    · rename_i hpid
      cases hnext
      refine h.goto_plain (fun _ => hv) rfl (by simp) ?_
      intro q j hne hq
      rcases hread q j hne hq with hq' | hp'
      · rw [hpid] at hq'
        contradiction
      · rw [hpid] at hp'
        contradiction
  · rename_i i hpc
    cases hnext
    refine h.goto_plain (fun _ => hvalid (by simp [hpc])) rfl (by simp) ?_
    intro q j hne hq
    have hsame : i = j := hother hpc q j hne hq
    rw [← hsame] at hq
    have hgo := (hok.read p _ q i rfl hpc hq).1
    contradiction
  · rename_i pid hpc
    cases hnext
    exact h.goto_plain (fun _ => hvalid (by simp [hpc])) rfl (by simp)
      (fun q i hne hq => trivial)
  · rename_i pid hpc
    split at hnext
    · rename_i hgone
      cases hnext
      refine h.goto_plain (fun _ => hvalid (by simp [hpc])) rfl (by simp) ?_
      intro q j hne hq
      rcases (hother hpc q j hne hq : pid = q ∨ pid = p) with rfl | rfl
      · rw [Holds, hgone] at hq
        contradiction
      · rw [hpc] at hgone
        contradiction
    · contradiction
  · rename_i hpc
    cases hnext
    refine h.unlink (hvalid (by simp [hpc])) rfl ?_ (by simp)
    intro q j hne hq
    exact hother hpc q j hne hq
  · rename_i hpc
    cases hnext
    exact h.goto_plain (fun _ => hvalid (by simp [hpc])) rfl (by simp)
      (fun q i hne hq => trivial)
  · rename_i i hpc
    have hp : Holds s p i := by
      rw [Holds, hpc]
      rfl
    cases hnext
    exact h.unlink (hvalid (by simp [hpc])) rfl (halone hp) (fun _ => hends hp)
  · rename_i i hpc
    have hp : Holds s p i := by
      rw [Holds, hpc]
      rfl
    cases hnext
    apply h.goto (fun _ => hvalid (by simp [hpc]))
    · intro j hj
      contradiction
    · intro j hj
      contradiction
    · intro j hj
      simp at hj
    · intro q j hne hq
      exact absurd hq (halone hp q j hne)
    · intro _
      exact hends hp
  · contradiction

/-- One undisturbed step of any kind. -/
theorem PidInv.next {s t : PidState} {a : ProcAct} (h : PidInv s) (hok : Undisturbed s a)
    (hnext : procNext s a = some t) : PidInv t := by
  cases a with
  | start p =>
      simp only [procNext] at hnext
      split at hnext
      · rename_i hstart
        simp only [Bool.and_eq_true, decide_eq_true_eq] at hstart
        cases hnext
        exact h.goto_plain (fun _ => ⟨hstart.1.2, hstart.2⟩) rfl (by simp)
          (fun q i hne hq => trivial)
      · contradiction
  | step p answer => exact h.stepNext hok hnext
  | exit p =>
      simp only [procNext] at hnext
      split at hnext
      · rename_i i hpc
        have hp : Holds s p i := by
          rw [Holds, hpc]
          rfl
        cases hnext
        apply h.goto (fun _ => h.valid p (by simp [hpc]))
        · intro j hj
          cases hj
          exact hp
        · intro j hj
          contradiction
        · intro j hj
          have hsame : i = j := by simpa using hj
          rw [← hsame]
          exact h.text p i (.inl hpc)
        · intro q j hne hq
          have hnone := (h.calm p i q hp hne).other.1
          rw [Holds, hnone] at hq
          contradiction
        · intro hleaving
          contradiction
      · contradiction
  | die p =>
      simp only [procNext] at hnext
      split at hnext
      · contradiction
      · cases hnext
        exact h.goto_plain (fun hne => absurd rfl hne) rfl (by simp) (fun q i hne hq => trivial)

/-- Undisturbed runs keep the invariant. -/
theorem pidInv {s : PidState} (h : pidFile.ReachableUnder Undisturbed s) : PidInv s := by
  apply h.invariant
  · rintro s ⟨hgone, -⟩
    apply PidInv.of_none
    · intro p hp
      exact absurd (hgone p) hp
    · intro p i hp
      rw [Holds, hgone p] at hp
      contradiction
    · intro p q hp
      rw [hgone p] at hp
      contradiction
  · intro s t a hinv hok hnext
    exact hinv.next hok hnext

/-- A process past the check holds its file, or is about to end. -/
theorem ProcPc.past_cases {pc : ProcPc} (h : pc.past = true) :
    (∃ i, pc = .running i ∨ pc = .exiting i) ∨ pc = .leaving := by
  cases pc with
  | running i => exact .inl ⟨i, .inl rfl⟩
  | exiting i => exact .inl ⟨i, .inr rfl⟩
  | leaving => exact .inr rfl
  | _ => contradiction

/-- A process that runs holds its file. -/
theorem holds_of_past {s : PidState} {p i : Nat}
    (h : s.pc p = .running i ∨ s.pc p = .exiting i) : Holds s p i := by
  rcases h with h | h
  · rw [Holds, h]
    rfl
  · rw [Holds, h]
    rfl

/-- Under the invariant one instance runs at most. -/
theorem PidInv.singleInstance {s : PidState} (h : PidInv s) : SingleInstance s := by
  have hcalm : ∀ p i q, Holds s p i → q ≠ p → (s.pc q).past = false := by
    intro p i q hp hne
    have hother := (h.calm p i q hp hne).other
    by_contra hpast
    rcases ProcPc.past_cases (by simpa using hpast) with ⟨j, hq⟩ | hq
    · rw [(holds_of_past hq)] at hother
      exact absurd hother.1 (by simp)
    · exact hother.2 hq
  refine ⟨?_, fun p i hp => h.held p i (holds_of_past hp)⟩
  intro p q hp hq
  by_contra hne
  rcases ProcPc.past_cases hp with ⟨i, hpi⟩ | hpl
  · rw [hcalm p i q (holds_of_past hpi) (Ne.symm hne)] at hq
    contradiction
  · rcases ProcPc.past_cases hq with ⟨j, hqj⟩ | hql
    · rw [hcalm q j p (holds_of_past hqj) hne] at hp
      contradiction
    · exact hne (h.leaving p q hpl hql)

/-! ## Disturbed steps -/

/-- The run can go on to two instances, or to one without its file. -/
def GoesWrong (s : PidState) : Prop :=
  ∃ as u, pidFile.exec s as = some u ∧ ¬ SingleInstance u

/-- A run that goes wrong later goes wrong. -/
theorem GoesWrong.of_next {s t : PidState} (a : ProcAct) (hnext : procNext s a = some t)
    (h : GoesWrong t) : GoesWrong s := by
  rcases h with ⟨as, u, hexec, hu⟩
  refine ⟨a :: as, u, ?_, hu⟩
  rw [Transition.System.exec_cons_of_next (S := pidFile) hnext]
  exact hexec

/-- A process past the check whose file is not in place. -/
theorem GoesWrong.of_lost {s : PidState} {p i : Nat}
    (hp : s.pc p = .running i ∨ s.pc p = .exiting i) (hpath : s.path = none) :
    GoesWrong s := by
  refine ⟨[], s, rfl, ?_⟩
  intro hsafe
  have hkept := hsafe.kept p i hp
  rw [hpath] at hkept
  contradiction

/-- A process that has found a file stale removes the one another process holds. -/
theorem goesWrong_of_stale {s : PidState} {p i q : Nat} (hp : Holds s p i)
    (hq : s.pc q = .unlinkStale) : GoesWrong s := by
  have hne : p ≠ q := by
    intro heq
    rw [Holds, heq, hq] at hp
    contradiction
  have hlost : ∀ {v : PidState} {j : Nat}, v.pc p = .running j ∨ v.pc p = .exiting j →
      v.pc q = .unlinkStale → GoesWrong v := by
    intro v j hv hvq
    have hstep : procNext v (.step q .go) = some (v.unlink.goto q .create) := by
      simp [procNext, stepNext, hvq]
    refine .of_next (.step q .go) hstep (.of_lost (p := p) (i := j) ?_ rfl)
    rw [PidState.goto_pc_ne v.unlink _ hne]
    exact hv
  cases hpc : s.pc p with
  | running j => exact hlost (.inl hpc) hq
  | exiting j => exact hlost (.inr hpc) hq
  | write j =>
      have hwrite : procNext s (.step p .go) =
          some ((s.writeFile j (pidText p)).goto p (.running j)) := by
        simp [procNext, stepNext, hpc]
      refine .of_next (.step p .go) hwrite (hlost (j := j) (.inl ?_) ?_)
      · exact PidState.goto_pc_self _ _ _
      · rw [PidState.goto_pc_ne _ _ (Ne.symm hne)]
        exact hq
  | unlinkOwn j =>
      -- `q` goes on to create a file of its own, which `p` then removes.
      let s₁ := s.unlink.goto q .create
      let s₂ := s₁.createFile.goto q (.write s₁.fresh)
      let s₃ := (s₂.writeFile s₁.fresh (pidText q)).goto q (.running s₁.fresh)
      have h₁ : procNext s (.step q .go) = some s₁ := by
        simp [procNext, stepNext, hq, s₁]
      have h₂ : procNext s₁ (.step q .go) = some s₂ := by
        simp [procNext, stepNext, s₁, s₂]
      have h₃ : procNext s₂ (.step q .go) = some s₃ := by
        simp [procNext, stepNext, s₂, s₃]
      have hp₃ : s₃.pc p = .unlinkOwn j := by
        simp only [s₃, s₂, s₁]
        rw [PidState.goto_pc_ne _ _ hne, PidState.writeFile_pc, PidState.goto_pc_ne _ _ hne,
          PidState.createFile_pc, PidState.goto_pc_ne _ _ hne, PidState.unlink_pc, hpc]
      have h₄ : procNext s₃ (.step p .go) = some (s₃.unlink.goto p .failed) := by
        simp [procNext, stepNext, hp₃]
      refine .of_next _ h₁ (.of_next _ h₂ (.of_next _ h₃ (.of_next _ h₄ ?_)))
      refine .of_lost (p := q) (i := s₁.fresh) (.inl ?_) rfl
      rw [PidState.goto_pc_ne _ _ (Ne.symm hne)]
      exact PidState.goto_pc_self _ _ _
  | _ =>
      rw [Holds, hpc] at hp
      contradiction

/-- A process that has read a pid other than those of the holder and itself may find
that it is gone. -/
theorem goesWrong_of_judge {s : PidState} {p i q r : Nat} (hp : Holds s p i)
    (hq : s.pc q = .judge r) (hpid : r ≠ p) (hself : r ≠ q) : GoesWrong s := by
  have hstale : ∀ v : PidState, Holds v p i → v.pc q = .judge r → v.pc r = .gone →
      GoesWrong v := by
    intro v hv hvq hgone
    have hne : p ≠ q := by
      intro heq
      rw [Holds, heq, hvq] at hv
      contradiction
    have hstep : procNext v (.step q .fail) = some (v.goto q .unlinkStale) := by
      simp [procNext, stepNext, hvq, hgone]
    refine .of_next _ hstep (goesWrong_of_stale (p := p) (i := i) (q := q) ?_ ?_)
    · exact (holds_goto_ne hne).mpr hv
    · exact PidState.goto_pc_self _ _ _
  by_cases hgone : s.pc r = .gone
  · exact hstale s hp hq hgone
  · have hdie : procNext s (.die r) = some (s.goto r .gone) := by
      simp [procNext, hgone]
    refine .of_next _ hdie (hstale _ ?_ ?_ ?_)
    · exact (holds_goto_ne (Ne.symm hpid)).mpr hp
    · rw [PidState.goto_pc_ne _ _ (Ne.symm hself)]
      exact hq
    · exact PidState.goto_pc_self _ _ _

/-- A process that has an older file open may fail to read it. -/
theorem goesWrong_of_read {s : PidState} {p i q j : Nat} (hp : Holds s p i)
    (hq : s.pc q = .read j) : GoesWrong s := by
  have hne : p ≠ q := by
    intro heq
    rw [Holds, heq, hq] at hp
    contradiction
  have hstep : procNext s (.step q .fail) = some (s.goto q .unlinkStale) := by
    simp [procNext, stepNext, hq]
  refine .of_next _ hstep (goesWrong_of_stale (p := p) (i := i) (q := q) ?_ ?_)
  · exact (holds_goto_ne hne).mpr hp
  · exact PidState.goto_pc_self _ _ _

/-- A process that has removed its file and not ended sees the next one start. -/
theorem goesWrong_of_leaving {s : PidState} {p i q : Nat} (hp : s.pc p = .write i)
    (hq : s.pc q = .leaving) : GoesWrong s := by
  have hne : q ≠ p := by
    intro heq
    rw [heq, hp] at hq
    contradiction
  have hstep : procNext s (.step p .go) =
      some ((s.writeFile i (pidText p)).goto p (.running i)) := by
    simp [procNext, stepNext, hp]
  refine .of_next _ hstep ⟨[], _, rfl, ?_⟩
  intro hsafe
  apply hne
  apply hsafe.single
  · rw [PidState.goto_pc_ne _ _ hne, PidState.writeFile_pc, hq]
    rfl
  · rw [PidState.goto_pc_self]
    rfl

/-- Whoever threatens the file that a process has just created can spoil it. -/
theorem goesWrong_of_threat {s : PidState} {p i q : Nat} (hp : s.pc p = .write i)
    (hq : (s.pc q).Threatens p q) : GoesWrong s := by
  have hholds : Holds s p i := by
    rw [Holds, hp]
    rfl
  cases hpc : s.pc q with
  | read j => exact goesWrong_of_read hholds hpc
  | unlinkStale => exact goesWrong_of_stale hholds hpc
  | leaving => exact goesWrong_of_leaving hp hpc
  | judge pid =>
      rw [hpc] at hq
      exact goesWrong_of_judge hholds hpc hq.1 hq.2
  | _ =>
      rw [hpc] at hq
      exact absurd hq id

/-- Every disturbed step can be continued to two instances, or to one without its
file. -/
theorem goesWrong_of_disturbed {s t : PidState} {a : ProcAct}
    (hnext : procNext s a = some t) (hbad : ¬ Undisturbed s a) : GoesWrong t := by
  by_contra hsafe
  apply hbad
  refine ⟨?_, ?_, ?_⟩
  · rintro p rfl hpc hpath q hne hthreat
    simp only [procNext, stepNext, hpc, hpath] at hnext
    cases hnext
    apply hsafe
    apply goesWrong_of_threat (p := p) (i := s.fresh) (q := q)
    · exact PidState.goto_pc_self _ _ _
    · rw [PidState.goto_pc_ne _ _ hne]
      exact hthreat
  · rintro q rfl hpc p i hp
    simp only [procNext, stepNext, hpc] at hnext
    cases hnext
    have hne : p ≠ q := by
      intro heq
      rw [Holds, heq, hpc] at hp
      contradiction
    apply hsafe
    apply goesWrong_of_stale (p := p) (i := i) (q := q)
    · exact (holds_goto_ne hne).mpr hp
    · exact PidState.goto_pc_self _ _ _
  · rintro q answer p i rfl hpc hp
    have hne : p ≠ q := by
      intro heq
      rw [Holds, heq, hpc] at hp
      contradiction
    have hstale : t = s.goto q .unlinkStale → False := by
      rintro rfl
      apply hsafe
      apply goesWrong_of_stale (p := p) (i := i) (q := q)
      · exact (holds_goto_ne hne).mpr hp
      · exact PidState.goto_pc_self _ _ _
    cases answer with
    | fail =>
        simp only [procNext, stepNext, hpc] at hnext
        cases hnext
        exact absurd rfl hstale
    | short written => simp [procNext, stepNext, hpc] at hnext
    | go =>
        refine ⟨rfl, ?_⟩
        simp only [procNext, stepNext, hpc] at hnext
        cases hread : readExistingPid (s.content i) with
        | none =>
            rw [hread] at hnext
            cases hnext
            exact absurd rfl hstale
        | some pid =>
            rw [hread] at hnext
            cases hnext
            by_contra hpid
            simp only [Option.some.injEq, not_or] at hpid
            apply hsafe
            apply goesWrong_of_judge (p := p) (i := i) (q := q) (r := pid)
            · exact (holds_goto_ne hne).mpr hp
            · exact PidState.goto_pc_self _ _ _
            · exact hpid.1
            · exact hpid.2

/-! ## The main result -/

/-- The runs whose steps are undisturbed keep a single instance whose file is in
place, and a disturbed step of such a run can be continued to a state that breaks
this. -/
theorem single_instance (s : PidState) :
    (pidFile.ReachableUnder Undisturbed s → SingleInstance s) ∧
      (∀ a t, pidFile.ReachableUnder Undisturbed s → pidFile.next s a = some t →
        ¬ Undisturbed s a → ∃ as u, pidFile.exec t as = some u ∧ ¬ SingleInstance u) := by
  refine ⟨fun h => (pidInv h).singleInstance, ?_⟩
  intro a t _ hnext hbad
  exact goesWrong_of_disturbed hnext hbad

/-! ## Concrete runs -/

/-- Process 4242 left its file behind. -/
def staleFile : PidState where
  path := some 0
  content _ := pidText 4242
  fresh := 1
  pc _ := .gone

theorem staleFile_init : pidFile.init staleFile := by
  refine ⟨fun _ => rfl, ?_⟩
  intro i hi
  cases hi
  exact Nat.one_pos

/-- The process starts, finds the file and finds it stale. -/
def findsStale (p : Nat) : List ProcAct :=
  [.start p, .step p .go, .step p .go, .step p .go, .step p .fail]

/-- The process removes the file, creates its own and writes its pid. -/
def takesOver (p : Nat) : List ProcAct :=
  [.step p .go, .step p .go, .step p .go]

/-- One process takes over the stale file, a second one finds it alive, the first one
exits, and a third one starts. -/
def oneAfterTheOther : List ProcAct :=
  findsStale 1 ++ takesOver 1 ++
    [.start 2, .step 2 .go, .step 2 .go, .step 2 .go, .step 2 .go] ++
    [.exit 1, .step 1 .go, .die 1, .start 3, .step 3 .go, .step 3 .go]

/-- The process that acts. -/
def ProcAct.pid : ProcAct → Nat
  | .start p | .step p _ | .exit p | .die p => p

/-- A step moves only the process that makes it. -/
theorem procNext_pc_ne {s t : PidState} {a : ProcAct} {q : Nat} (hnext : procNext s a = some t)
    (hne : q ≠ a.pid) : t.pc q = s.pc q := by
  have hgoto : ∀ (u : PidState) (pc : ProcPc), u.pc = s.pc →
      (u.goto a.pid pc).pc q = s.pc q := by
    intro u pc hu
    rw [PidState.goto_pc_ne u pc hne, hu]
  cases a with
  | start p =>
      simp only [procNext] at hnext
      split at hnext
      · cases hnext
        exact hgoto s _ rfl
      · contradiction
  | exit p =>
      simp only [procNext] at hnext
      split at hnext
      · cases hnext
        exact hgoto s _ rfl
      · contradiction
  | die p =>
      simp only [procNext] at hnext
      split at hnext
      · contradiction
      · cases hnext
        exact hgoto s _ rfl
  | step p answer =>
      simp only [procNext, stepNext] at hnext
      split at hnext
      all_goals try split at hnext
      all_goals try contradiction
      all_goals
        cases hnext
        exact hgoto _ _ rfl

/-- Is the step undisturbed by the processes of a list? -/
def undisturbedBy (others : List Nat) (s : PidState) (a : ProcAct) : Bool :=
  match a with
  | .step p answer =>
      match s.pc p with
      | .create =>
          s.path ≠ none || others.all fun q => q = p || s.pc q = .gone || s.pc q = .failed
      | .openRead => answer = .go
      | .read i => answer = .go && others.all fun q =>
          (s.pc q).inode ≠ some i || readExistingPid (s.content i) = some q
      | _ => true
  | _ => true

/-- When all other processes are gone, these are the only ones to look at. -/
theorem undisturbed_of_list {others : List Nat} {s : PidState} {a : ProcAct}
    (hgone : ∀ q, q ∉ others → s.pc q = .gone)
    (h : undisturbedBy others s a = true) : Undisturbed s a := by
  refine ⟨?_, ?_, ?_⟩
  · rintro p rfl hpc hpath q hne hthreat
    by_cases hq : q ∈ others
    · simp only [undisturbedBy, hpc, List.all_eq_true, Bool.or_eq_true,
        decide_eq_true_eq] at h
      rcases h.resolve_left (not_not_intro hpath) q hq with (hsame | hq') | hq'
      · exact hne hsame
      · rw [hq'] at hthreat
        exact hthreat
      · rw [hq'] at hthreat
        exact hthreat
    · rw [hgone q hq] at hthreat
      exact hthreat
  · rintro q rfl hpc p i hp
    simp [undisturbedBy, hpc] at h
  · rintro q answer p i rfl hpc hp
    simp only [undisturbedBy, hpc, Bool.and_eq_true, decide_eq_true_eq,
      List.all_eq_true, Bool.or_eq_true, ne_eq] at h
    refine ⟨h.1, .inl ?_⟩
    by_cases hmem : p ∈ others
    · rcases h.2 p hmem with hno | hread
      · exact absurd hp hno
      · exact hread
    · rw [Holds, hgone p hmem] at hp
      contradiction

/-- A schedule of these processes whose steps pass the check is undisturbed. -/
theorem undisturbed_exec {others : List Nat} {s t : PidState} {as : List ProcAct}
    (hs : pidFile.ReachableUnder Undisturbed s)
    (hgone : ∀ q, q ∉ others → s.pc q = .gone) (hpids : ∀ a ∈ as, a.pid ∈ others)
    (h : pidFile.execChecked (undisturbedBy others) s as = some t) :
    pidFile.ReachableUnder Undisturbed t := by
  induction as generalizing s with
  | nil =>
      simp only [System.execChecked, Option.some.injEq] at h
      exact h ▸ hs
  | cons a as ih =>
      unfold System.execChecked at h
      split at h
      · rename_i hcheck
        split at h
        · contradiction
        · rename_i u hnext
          have hok := undisturbed_of_list hgone hcheck
          apply ih (.step hs hok hnext) ?_ ?_ h
          · intro q hq
            have hne : q ≠ a.pid := by
              rintro rfl
              exact hq (hpids a List.mem_cons_self)
            rw [procNext_pc_ne hnext hne]
            exact hgone q hq
          · intro b hb
            exact hpids b (List.mem_cons_of_mem a hb)
      · contradiction

theorem single_instance_oneAfterTheOther :
    ∃ s, s.pc 3 = .running 2 ∧ s.pc 2 = .failed ∧ SingleInstance s := by
  have hrun : ((pidFile.execChecked (undisturbedBy [1, 2, 3]) staleFile oneAfterTheOther).any
      fun s => s.pc 3 = .running 2 && s.pc 2 = .failed) = true := by
    decide +kernel
  rcases (Option.any_eq_true _ _).mp hrun with ⟨s, hs, hfields⟩
  simp only [Bool.and_eq_true, decide_eq_true_eq] at hfields
  have hreach : pidFile.ReachableUnder Undisturbed s := by
    apply undisturbed_exec (.init staleFile_init) (fun _ _ => rfl) ?_ hs
    decide
  exact ⟨s, hfields.1, hfields.2, (single_instance s).1 hreach⟩

/-- Two processes find the same stale file, and the second one removes the file of the
first. -/
theorem two_instances : ¬ ∀ s, pidFile.Reachable s → SingleInstance s := by
  intro hall
  have hrun : ((pidFile.exec staleFile
      (findsStale 1 ++ findsStale 2 ++ takesOver 1 ++ takesOver 2)).any fun s =>
        (s.pc 1).past && (s.pc 2).past) = true := by
    decide +kernel
  rcases (Option.any_eq_true _ _).mp hrun with ⟨s, hs, hfields⟩
  rw [Bool.and_eq_true] at hfields
  have hreach : pidFile.Reachable s := System.reachable_of_exec staleFile_init hs
  have hsame := (hall s hreach).single 1 2 hfields.1 hfields.2
  contradiction

end Main
end PixelPilot
