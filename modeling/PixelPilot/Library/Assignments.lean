import Mathlib.Logic.Function.Basic

/-!
# Records written field by field

A record gives each of its fields a value.  A program that writes it one field at a time
leaves in a field what it wrote there last, or what stood there before.

Main results:

- Definitions `Assignment`, `write` and `writeAll`.
- Definition `last`: the last value that is written to a field.
- Theorem `writeAll_apply`: what a field holds after a list of assignments.
-/

namespace Assignments

universe u v

variable {Field : Type u} [DecidableEq Field] {Value : Field → Type v}

/-- A value for one field. -/
structure Assignment (Value : Field → Type v) where
  field : Field
  value : Value field

/-- The record after an assignment. -/
def write (a : Assignment Value) (s : ∀ f, Value f) : ∀ f, Value f :=
  Function.update s a.field a.value

/-- The record after a list of assignments. -/
def writeAll (l : List (Assignment Value)) (s : ∀ f, Value f) : ∀ f, Value f :=
  l.foldl (fun s a => write a s) s

/-- The value of an assignment, if it is one for this field. -/
def valueFor (f : Field) (a : Assignment Value) : Option (Value f) :=
  if h : a.field = f then some (h ▸ a.value) else none

/-- The last value for a field. -/
def last (f : Field) : List (Assignment Value) → Option (Value f)
  | [] => none
  | a :: l => (last f l).or (valueFor f a)

variable {a : Assignment Value} {l : List (Assignment Value)} {s : ∀ f, Value f} {f : Field}

theorem write_self : write a s a.field = a.value := by
  simp [write]

theorem write_of_ne (h : a.field ≠ f) : write a s f = s f :=
  Function.update_of_ne (Ne.symm h) _ _

/-- A field after a write is the value written to it, if there is one. -/
theorem write_apply : write a s f = (valueFor f a).getD (s f) := by
  unfold valueFor
  split
  · rename_i h
    subst h
    exact write_self
  · exact write_of_ne ‹_›

/-- A field holds the last value written to it. -/
theorem writeAll_apply : writeAll l s f = (last f l).getD (s f) := by
  induction l generalizing s with
  | nil => rfl
  | cons a l ih =>
      have hrest : writeAll (a :: l) s f = writeAll l (write a s) f := rfl
      rw [hrest, ih, write_apply, last]
      cases last f l <;> rfl

end Assignments
