import Mathlib.Data.List.Infix

/-!
# Byte streams with start codes

A byte stream holds byte strings one after the other, each behind a start code: two zero bytes
or more, and a one.  The strings contain no start code and do not end in a zero, so that the
zeros in front of a start code belong to it.

Main results:

- Definition `Splits`: a byte string is the byte stream of some strings, between other bytes in
  front of the first start code and zeros at the end.
- Theorem `exists_splits`: every byte string is one.
-/

namespace ByteStream

/-- A string that can stand between two start codes. -/
structure Clean (unit : List UInt8) : Prop where
  start : ¬ [0, 0, 1] <:+: unit
  last : unit.getLast? ≠ some 0

theorem Clean.nil : Clean [] :=
  ⟨by decide, by decide⟩

/-- What is left of a string without its first byte can stand there too. -/
theorem Clean.tail {byte : UInt8} {unit : List UInt8} (h : Clean (byte :: unit)) :
    Clean unit where
  start hinside := h.start (hinside.trans (List.suffix_cons byte unit).isInfix)
  last hlast := by
    apply h.last
    cases unit with
    | nil => simp at hlast
    | cons b unit => rwa [List.getLast?_cons_cons]

/-- A string with another byte in front. -/
theorem Clean.cons {byte : UInt8} {unit : List UInt8} (h : Clean unit)
    (hstart : ¬ [0, 0, 1] <+: byte :: unit) (hlast : unit = [] → byte ≠ 0) :
    Clean (byte :: unit) where
  start hinside := by
    rcases List.infix_cons_iff.mp hinside with hprefix | hinside
    · exact hstart hprefix
    · exact h.start hinside
  last heq := by
    cases unit with
    | nil => exact hlast rfl (by simpa using heq)
    | cons b unit =>
        rw [List.getLast?_cons_cons] at heq
        exact h.last heq

/-- A start code with some zeros more than two. -/
def startCode (zeros : Nat) : List UInt8 :=
  List.replicate (zeros + 2) 0 ++ [1]

/-- The strings behind their start codes. -/
def stream (units : List (Nat × List UInt8)) : List UInt8 :=
  units.flatMap fun unit => startCode unit.1 ++ unit.2

@[simp]
theorem stream_nil : stream [] = [] :=
  rfl

theorem stream_cons (zeros : Nat) (unit : List UInt8) (units : List (Nat × List UInt8)) :
    stream ((zeros, unit) :: units) = startCode zeros ++ (unit ++ stream units) := by
  rw [stream, List.flatMap_cons, List.append_assoc]
  rfl

/-- The bytes are the byte stream of the strings. -/
def Splits (data : List UInt8) (units : List (List UInt8)) : Prop :=
  ∃ front chunks trailing, Clean front ∧ (∀ chunk ∈ chunks, Clean chunk.2) ∧
    data = front ++ (stream chunks ++ List.replicate trailing 0) ∧
    units = chunks.map Prod.snd

/-- Every byte string is a byte stream. -/
theorem exists_splits (data : List UInt8) : ∃ units, Splits data units := by
  induction data with
  | nil => exact ⟨[], [], [], 0, .nil, by simp, rfl, rfl⟩
  | cons byte data ih =>
      rcases ih with ⟨_, front, chunks, trailing, hfront, hchunks, rfl, rfl⟩
      by_cases hstart : [0, 0, 1] <+: byte :: front
      · -- the byte completes a start code, and the bytes in front become a string
        rcases hstart with ⟨unit, hunit⟩
        rw [List.cons_append, List.cons.injEq] at hunit
        rcases hunit with ⟨rfl, rfl⟩
        refine ⟨_, [], (0, unit) :: chunks, trailing, .nil, ?_, ?_, rfl⟩
        · intro chunk hchunk
          rcases List.mem_cons.mp hchunk with rfl | hchunk
          · exact hfront.tail.tail
          · exact hchunks chunk hchunk
        · rw [stream_cons]
          simp [startCode, List.replicate_succ]
      · by_cases hzero : front = [] ∧ byte = 0
        · -- a zero more in front of the first start code, or at the end
          rcases hzero with ⟨rfl, rfl⟩
          rcases chunks with _ | ⟨⟨zeros, unit⟩, chunks⟩
          · exact ⟨_, [], [], trailing + 1, .nil, hchunks, by simp [List.replicate_succ], rfl⟩
          · refine ⟨_, [], (zeros + 1, unit) :: chunks, trailing, .nil, ?_, ?_, rfl⟩
            · intro chunk hchunk
              rcases List.mem_cons.mp hchunk with rfl | hchunk
              · exact hchunks (zeros, unit) List.mem_cons_self
              · exact hchunks chunk (List.mem_cons_of_mem _ hchunk)
            · rw [stream_cons, stream_cons]
              simp [startCode, List.replicate_succ]
        · exact ⟨_, byte :: front, chunks, trailing,
            hfront.cons hstart fun hnil hbyte => hzero ⟨hnil, hbyte⟩, hchunks, rfl, rfl⟩

end ByteStream
