import Mathlib.Algebra.GroupWithZero.Nat
import Mathlib.Data.List.Basic

/-!
# Reading bytes back

A reader takes what it needs from the front of a list of bytes and leaves the rest.  It reads
a value back from some bytes if it takes just these bytes, whatever is behind them.

Main results:

- Definitions `bigEndian` and `number`: numbers as bytes, the most significant one first.
- Definition `Reads`: a reader takes its value from some bytes.
- Theorems `Reads.bind`, `reads_uint`, `reads_take` and `reads_times`: the rules for readers.
-/

namespace ByteReader

universe u

variable {α β : Type u}

/-! ## Numbers -/

/-- The last `w` bytes of a number. -/
def bigEndian : Nat → Nat → List UInt8
  | 0, _ => []
  | w + 1, x => bigEndian w (x / 256) ++ [UInt8.ofNat x]

/-- The number that some bytes spell. -/
def number (bytes : List UInt8) : Nat :=
  bytes.foldl (fun n byte => n * 256 + byte.toNat) 0

@[simp]
theorem bigEndian_length (w x : Nat) : (bigEndian w x).length = w := by
  induction w generalizing x with
  | zero => rfl
  | succ w ih => simp only [bigEndian, List.length_append, ih, List.length_singleton]

theorem number_concat (bytes : List UInt8) (byte : UInt8) :
    number (bytes ++ [byte]) = number bytes * 256 + byte.toNat := by
  simp only [number, List.foldl_append, List.foldl_cons, List.foldl_nil]

/-- A number is read back up to the bytes that were left out. -/
theorem number_bigEndian (w x : Nat) : number (bigEndian w x) = x % 256 ^ w := by
  induction w generalizing x with
  | zero => simp [bigEndian, number, Nat.mod_one]
  | succ w ih =>
      have hpow : 256 ^ (w + 1) = 256 * 256 ^ w := Nat.pow_succ'
      rw [bigEndian, number_concat, ih, UInt8.toNat_ofNat', hpow, Nat.mod_mul]
      omega

/-- A number that fits its bytes is read back. -/
theorem number_bigEndian_of_lt {w x : Nat} (h : x < 256 ^ w) : number (bigEndian w x) = x := by
  rw [number_bigEndian, Nat.mod_eq_of_lt h]

/-! ## Readers -/

/-- A reader fails, or takes bytes from the front. -/
abbrev Reader (α : Type u) := List UInt8 → Option (α × List UInt8)

namespace Reader

/-- Read nothing. -/
def pure (a : α) : Reader α := fun bytes => some (a, bytes)

/-- One reader after the other. -/
def bind (r : Reader α) (f : α → Reader β) : Reader β := fun bytes =>
  match r bytes with
  | some (a, rest) => f a rest
  | none => none

/-- The reader that fails. -/
def fail : Reader α := fun _ => none

/-- Take `n` bytes. -/
def take (n : Nat) : Reader (List UInt8) := fun bytes =>
  if n ≤ bytes.length then some (bytes.take n, bytes.drop n) else none

/-- Take all bytes. -/
def rest : Reader (List UInt8) := fun bytes => some (bytes, [])

instance : Monad Reader where
  pure := pure
  bind := bind

/-- A number of `w` bytes. -/
def uint (w : Nat) : Reader Nat := do
  let bytes ← take w
  return number bytes

/-- One reader `n` times. -/
def times (n : Nat) (r : Reader α) : Reader (List α) :=
  match n with
  | 0 => pure []
  | n + 1 => bind r fun a => bind (times n r) fun as => pure (a :: as)

/-- A field that is there only under a condition. -/
def ifPresent (c : Bool) (r : Reader α) (absent : α) : Reader α :=
  if c then r else pure absent

/-- What a reader makes of some bytes; those it does not take do not count. -/
def run (r : Reader α) (bytes : List UInt8) : Option α :=
  (r bytes).map Prod.fst

end Reader

open Reader

/-- The reader takes just these bytes for the value. -/
def Reads (r : Reader α) (bytes : List UInt8) (a : α) : Prop :=
  ∀ rest, r (bytes ++ rest) = some (a, rest)

variable {r : Reader α} {f : α → Reader β} {bytes bytes' : List UInt8} {a : α} {b : β}

theorem reads_pure (a : α) : Reads (Pure.pure a : Reader α) [] a :=
  fun _ => rfl

/-- Readers compose as the bytes are concatenated. -/
theorem Reads.bind (h : Reads r bytes a) (h' : Reads (f a) bytes' b) :
    Reads (r >>= f) (bytes ++ bytes') b := by
  intro rest
  change Reader.bind r f (bytes ++ bytes' ++ rest) = some (b, rest)
  rw [List.append_assoc, Reader.bind, h]
  exact h' rest

/-- A reader that takes nothing. -/
theorem Reads.skip (h : Reads r [] a) (h' : Reads (f a) bytes b) : Reads (r >>= f) bytes b :=
  h.bind h'

/-- Behind a reader that takes just these bytes. -/
theorem Reads.andThen (h : Reads r bytes a) (rest : List UInt8) :
    (r >>= f) (bytes ++ rest) = f a rest := by
  change Reader.bind r f (bytes ++ rest) = f a rest
  rw [Reader.bind, h]

/-- Two readers that do not fail. -/
theorem bind_eq_some {rest : List UInt8} (h : (r >>= f) bytes = some (b, rest)) :
    ∃ a middle, r bytes = some (a, middle) ∧ f a middle = some (b, rest) := by
  change Reader.bind r f bytes = some (b, rest) at h
  unfold Reader.bind at h
  cases hr : r bytes with
  | none =>
      rw [hr] at h
      contradiction
  | some result =>
      rw [hr] at h
      exact ⟨result.1, result.2, rfl, h⟩

/-- A reader makes as many values as it is called. -/
theorem times_length {n : Nat} {as : List α} {rest : List UInt8}
    (h : times n r bytes = some (as, rest)) : as.length = n := by
  induction n generalizing bytes as with
  | zero =>
      cases h
      rfl
  | succ n ih =>
      rcases bind_eq_some (r := r) h with ⟨a, middle, -, hmore⟩
      rcases bind_eq_some (r := times n r) hmore with ⟨as', rest', htimes, hlast⟩
      cases hlast
      rw [List.length_cons, ih htimes]

/-- A last reader that does not fail. -/
theorem Reads.map (h : Reads r bytes a) (g : α → β) :
    Reads (r >>= fun a => Pure.pure (g a)) bytes (g a) := by
  have hbind : Reads (r >>= fun a => Pure.pure (g a)) (bytes ++ []) (g a) :=
    h.bind (reads_pure (g a))
  rwa [List.append_nil] at hbind

theorem reads_take (bytes : List UInt8) : Reads (take bytes.length) bytes bytes := by
  intro rest
  simp [take]

/-- A number is read back from its bytes. -/
theorem reads_uint {w x : Nat} (h : x < 256 ^ w) : Reads (uint w) (bigEndian w x) x := by
  have htake : Reads (take w) (bigEndian w x) (bigEndian w x) := by
    have hlength := reads_take (bigEndian w x)
    rwa [bigEndian_length] at hlength
  have hnumber := htake.map number
  rwa [number_bigEndian_of_lt h] at hnumber

/-- A table, written entry by entry. -/
theorem reads_times {γ : Type} {write : γ → List UInt8} {value : γ → α} {entries : List γ}
    (h : ∀ e ∈ entries, Reads r (write e) (value e)) :
    Reads (times entries.length r) (entries.flatMap write) (entries.map value) := by
  induction entries with
  | nil => exact reads_pure []
  | cons e entries ih =>
      have hhead := h e List.mem_cons_self
      have htail := ih fun e' he' => h e' (List.mem_cons_of_mem e he')
      rw [List.flatMap_cons]
      exact hhead.bind (htail.map fun as => value e :: as)

/-- An optional field that is there is read. -/
theorem reads_present (h : Reads r bytes a) (absent : α) :
    Reads (ifPresent true r absent) bytes a :=
  h

/-- An optional field that is not there takes no bytes. -/
theorem reads_absent (r : Reader α) (absent : α) : Reads (ifPresent false r absent) [] absent :=
  reads_pure absent

/-- A reader that takes all bytes answers. -/
theorem Reads.run (h : Reads r bytes a) : Reader.run r bytes = some a := by
  have hend := h []
  rw [List.append_nil] at hend
  rw [Reader.run, hend]
  rfl

end ByteReader
