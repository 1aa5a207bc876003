import Mathlib.Data.Nat.Digits.Defs
import Mathlib.Logic.Function.Basic
import PixelPilot.Library.Transition

/-!
# The pid file

Processes that start the program agree through one file: each creates it
exclusively, writes its pid into it and removes it when it exits; a process that
finds the file there reads it, asks whether that process lives, and removes the file
if not.

A name leads to an inode.  A process that has the file open keeps its inode when the
name is removed and given to another one.

Main results:

- Definitions `readExistingPid` and `pidText`: what is read from and written to the
  file.
- Theorem `readExistingPid_pidText`: a pid is read back as it was written.
- Definition `stepNext`: the steps of `ensure_single_instance`, `write_pid_file`,
  `read_existing_pid` and `remove_instance_pid`.
- Definition `pidFile`: the transition system of any number of processes.

Current gaps:

- `close` does not appear, and `write_pid_file` goes on to `running` with its write:
  nothing another process can see lies between.
- `atexit` always succeeds; a process that ends without its handlers is one that dies.
-/

namespace PixelPilot
namespace Main

open Transition

/-! ## The text -/

/-- `INT_MAX`. -/
def intMax : Nat := 0x7fffffff

/-- `isspace` in the C locale. -/
def isspace (c : Char) : Bool :=
  c = ' ' || c = '\t' || c = '\n' || c = '\x0b' || c = '\x0c' || c = '\r'

/-- The digits that `strtol` reads in base 10; `none` after a minus sign, where no
positive number can come out. -/
def strtolDigits (buf : List Char) : Option (List Char) :=
  match buf.dropWhile isspace with
  | '-' :: _ => none
  | '+' :: rest => some (rest.takeWhile Char.isDigit)
  | rest => some (rest.takeWhile Char.isDigit)

/-- The size of the buffer of `read_existing_pid` without its terminator. -/
def pidBufferSize : Nat := 63

/-- The pid in the text of the file, where `read_existing_pid` finds one. -/
def readExistingPid (content : List Char) : Option Nat :=
  match strtolDigits (content.take pidBufferSize) with
  | none => none
  | some digits =>
      let parsed := Nat.ofDigitChars 10 digits 0
      if digits = [] || parsed = 0 || intMax < parsed then none else some parsed

/-- The text that `write_pid_file` writes. -/
def pidText (pid : Nat) : List Char :=
  Nat.toDigits 10 pid ++ ['\n']

/-- A pid fits the buffer. -/
theorem pidText_length {pid : Nat} (hpid : pid ≤ intMax) :
    (pidText pid).length ≤ pidBufferSize := by
  have hlength := Nat.toDigits_length 10 pid 10 (by decide)
    (Nat.lt_of_le_of_lt hpid (by decide))
  unfold pidText pidBufferSize
  rw [List.length_append]
  simp only [List.length_singleton]
  omega

theorem takeWhile_isDigit {digits : List Char} (h : ∀ c ∈ digits, c.isDigit = true) :
    (digits ++ ['\n']).takeWhile Char.isDigit = digits := by
  rw [List.takeWhile_append_of_pos h]
  simp [List.takeWhile, Char.isDigit]

/-- A digit is neither a space nor a sign. -/
theorem strtolDigits_of_isDigit {c : Char} {rest : List Char} (hc : c.isDigit = true) :
    strtolDigits (c :: rest) = some ((c :: rest).takeWhile Char.isDigit) := by
  have hne : ∀ d : Char, d.isDigit = false → c ≠ d := by
    intro d hd heq
    rw [heq, hd] at hc
    contradiction
  have hspace : isspace c = false := by
    simp only [isspace, Bool.or_eq_false_iff, decide_eq_false_iff_not]
    refine ⟨⟨⟨⟨⟨?_, ?_⟩, ?_⟩, ?_⟩, ?_⟩, ?_⟩ <;> exact hne _ (by decide)
  unfold strtolDigits
  rw [List.dropWhile_cons_of_neg (by simp [hspace])]
  split
  · rename_i heq
    exact absurd (List.cons.inj heq).1 (hne _ (by decide))
  · rename_i heq
    exact absurd (List.cons.inj heq).1 (hne _ (by decide))
  · rfl

/-- The pid that was written is the pid that is read. -/
theorem readExistingPid_pidText {pid : Nat} (hpos : 0 < pid) (hpid : pid ≤ intMax) :
    readExistingPid (pidText pid) = some pid := by
  have hdigits : ∀ c ∈ Nat.toDigits 10 pid, c.isDigit = true := by
    intro c hc
    exact Nat.isDigit_of_mem_toDigits (by decide) (by decide) hc
  have hread : strtolDigits (pidText pid) = some (Nat.toDigits 10 pid) := by
    have htake := takeWhile_isDigit hdigits
    unfold pidText
    cases hcases : Nat.toDigits 10 pid with
    | nil => exact absurd hcases Nat.toDigits_ne_nil
    | cons c rest =>
        rw [hcases] at hdigits htake
        rw [List.cons_append, strtolDigits_of_isDigit (hdigits c List.mem_cons_self)]
        rw [← List.cons_append, htake]
  have hnot : ¬ intMax < pid := by omega
  unfold readExistingPid
  rw [List.take_of_length_le (pidText_length hpid), hread]
  simp [Nat.ofDigitChars_ten_toDigits, Nat.toDigits_ne_nil, hnot]
  omega

/-! ## Processes -/

/-- Where a process stands. -/
inductive ProcPc
  /-- Not running: not started yet, or ended. -/
  | gone
  /-- At the exclusive `open` of `write_pid_file`. -/
  | create
  /-- At the `write`, with the inode it created. -/
  | write (inode : Nat)
  /-- At the `unlink` after a failed write. -/
  | unlinkOwn (inode : Nat)
  /-- At the `open` of `read_existing_pid`. -/
  | openRead
  /-- At the `read`, with the inode it opened. -/
  | read (inode : Nat)
  /-- At `kill(existing_pid, 0)`. -/
  | judge (pid : Nat)
  /-- At the `unlink` of `ensure_single_instance`. -/
  | unlinkStale
  /-- `ensure_single_instance` has returned -1. -/
  | failed
  /-- `ensure_single_instance` has returned 0. -/
  | running (inode : Nat)
  /-- In `exit`, at the `unlink` of `remove_instance_pid`. -/
  | exiting (inode : Nat)
  /-- In `exit`, after `remove_instance_pid`. -/
  | leaving
deriving DecidableEq, Repr

/-- The inode that the name of the pid file leads to, the inodes with their contents,
and the processes by their pids. -/
structure PidState where
  path : Option Nat
  content : Nat → List Char
  fresh : Nat
  pc : Nat → ProcPc

/-- What the system answers to a call. -/
inductive CallAnswer
  /-- It succeeds; an `open` finds the file there, or not, as it is, and `kill` finds a
  process. -/
  | go
  /-- It fails; an `unlink` for another reason than `ENOENT`. -/
  | fail
  /-- A `write` stops after some bytes. -/
  | short (written : Nat)
deriving DecidableEq, Repr

namespace PidState

/-- Process `p` goes on to `pc`. -/
def goto (s : PidState) (p : Nat) (pc : ProcPc) : PidState :=
  { s with pc := Function.update s.pc p pc }

/-- A successful exclusive `open`: the name leads to a new, empty inode. -/
def createFile (s : PidState) : PidState :=
  { s with
    path := some s.fresh
    content := Function.update s.content s.fresh []
    fresh := s.fresh + 1 }

/-- `write` to an inode. -/
def writeFile (s : PidState) (inode : Nat) (text : List Char) : PidState :=
  { s with content := Function.update s.content inode text }

/-- A successful `unlink`; there may be nothing to remove. -/
def unlink (s : PidState) : PidState :=
  { s with path := none }

end PidState

/-- The next step of process `p` in `ensure_single_instance` or in `exit`. -/
def stepNext (s : PidState) (p : Nat) (answer : CallAnswer) : Option PidState :=
  match s.pc p, answer with
  | .create, .go =>
      match s.path with
      | some _ => some (s.goto p .openRead)
      | none => some (s.createFile.goto p (.write s.fresh))
  | .create, .fail => some (s.goto p .failed)
  | .write i, .go => some ((s.writeFile i (pidText p)).goto p (.running i))
  | .write i, .short written =>
      if written < (pidText p).length then
        some ((s.writeFile i ((pidText p).take written)).goto p (.unlinkOwn i))
      else none
  | .unlinkOwn _, .go => some (s.unlink.goto p .failed)
  | .unlinkOwn _, .fail => some (s.goto p .failed)
  | .openRead, .go =>
      match s.path with
      | some i => some (s.goto p (.read i))
      | none => some (s.goto p .unlinkStale)
  | .openRead, .fail => some (s.goto p .unlinkStale)
  | .read i, .go =>
      match readExistingPid (s.content i) with
      | some pid => some (s.goto p (.judge pid))
      | none => some (s.goto p .unlinkStale)
  | .read _, .fail => some (s.goto p .unlinkStale)
  | .judge _, .go => some (s.goto p .failed)
  -- `kill` does not miss a process that is there.
  | .judge pid, .fail => if s.pc pid = .gone then some (s.goto p .unlinkStale) else none
  | .unlinkStale, .go => some (s.unlink.goto p .create)
  | .unlinkStale, .fail => some (s.goto p .failed)
  | .exiting _, .go => some (s.unlink.goto p .leaving)
  | .exiting _, .fail => some (s.goto p .leaving)
  | _, _ => none

/-- What a process does, or what happens to it. -/
inductive ProcAct
  /-- It starts, with this pid. -/
  | start (p : Nat)
  | step (p : Nat) (answer : CallAnswer)
  /-- It calls `exit`, or returns from `main`. -/
  | exit (p : Nat)
  /-- It ends; without its handlers if it was running. -/
  | die (p : Nat)
deriving DecidableEq, Repr

/-- One step. -/
def procNext (s : PidState) : ProcAct → Option PidState
  | .start p =>
      if s.pc p = .gone && 0 < p && p ≤ intMax then some (s.goto p .create) else none
  | .step p answer => stepNext s p answer
  | .exit p =>
      match s.pc p with
      | .running i => some (s.goto p (.exiting i))
      | _ => none
  | .die p => if s.pc p = .gone then none else some (s.goto p .gone)

/-- All runs of any number of processes, from any content of the pid file. -/
def pidFile : System PidState ProcAct where
  init s := (∀ p, s.pc p = .gone) ∧ ∀ i, s.path = some i → i < s.fresh
  next := procNext

/-! ## Updates -/

namespace PidState

@[simp]
theorem goto_path (s : PidState) (p : Nat) (pc : ProcPc) : (s.goto p pc).path = s.path :=
  rfl

@[simp]
theorem goto_content (s : PidState) (p : Nat) (pc : ProcPc) :
    (s.goto p pc).content = s.content :=
  rfl

@[simp]
theorem goto_fresh (s : PidState) (p : Nat) (pc : ProcPc) : (s.goto p pc).fresh = s.fresh :=
  rfl

@[simp]
theorem goto_pc_self (s : PidState) (p : Nat) (pc : ProcPc) : (s.goto p pc).pc p = pc := by
  unfold goto
  exact Function.update_self ..

/-- The other processes stay where they are. -/
theorem goto_pc_ne (s : PidState) {p q : Nat} (pc : ProcPc) (h : q ≠ p) :
    (s.goto p pc).pc q = s.pc q := by
  unfold goto
  exact Function.update_of_ne h ..

@[simp]
theorem createFile_pc (s : PidState) : s.createFile.pc = s.pc :=
  rfl

@[simp]
theorem createFile_path (s : PidState) : s.createFile.path = some s.fresh :=
  rfl

@[simp]
theorem createFile_fresh (s : PidState) : s.createFile.fresh = s.fresh + 1 :=
  rfl

@[simp]
theorem writeFile_pc (s : PidState) (i : Nat) (text : List Char) :
    (s.writeFile i text).pc = s.pc :=
  rfl

@[simp]
theorem writeFile_path (s : PidState) (i : Nat) (text : List Char) :
    (s.writeFile i text).path = s.path :=
  rfl

@[simp]
theorem writeFile_fresh (s : PidState) (i : Nat) (text : List Char) :
    (s.writeFile i text).fresh = s.fresh :=
  rfl

@[simp]
theorem unlink_pc (s : PidState) : s.unlink.pc = s.pc :=
  rfl

@[simp]
theorem unlink_path (s : PidState) : s.unlink.path = none :=
  rfl

@[simp]
theorem unlink_content (s : PidState) : s.unlink.content = s.content :=
  rfl

@[simp]
theorem unlink_fresh (s : PidState) : s.unlink.fresh = s.fresh :=
  rfl

end PidState

end Main
end PixelPilot
