import Mathlib.Data.List.Basic
import Mathlib.Data.List.Sublists

/-!
# One-slot overwriting mailboxes

A producer overwrites a single slot, a consumer empties it.  Some messages count
as empty: sending one clears the slot.  The two logs record what was sent and
what was received.

Main results:

- Theorem `Mailbox.Faithful.move`: sending, taking and stuttering keep the
  received messages an ordered selection of the sent ones.
- Theorem `Mailbox.Faithful.last_received`: once the slot is empty, the last
  message sent, unless it counts as empty, is the last one received.
-/

namespace LatestSlot

variable {α : Type*}

/-- The slot and the logs of both sides. -/
structure Mailbox (α : Type*) where
  slot : Option α
  sent : List α
  received : List α

namespace Mailbox

/-- Overwrite the slot; an invisible message leaves it empty. -/
def send (visible : α → Prop) [DecidablePred visible] (m : Mailbox α) (a : α) : Mailbox α where
  slot := if visible a then some a else none
  sent := m.sent ++ [a]
  received := m.received

/-- Empty the slot into the log of received messages. -/
def take (m : Mailbox α) : Mailbox α where
  slot := none
  sent := m.sent
  received := m.received ++ m.slot.toList

variable {visible : α → Prop}

/-- One operation, or none. -/
inductive Move (visible : α → Prop) [DecidablePred visible] : Mailbox α → Mailbox α → Prop
  | stay (m : Mailbox α) : Move visible m m
  | send (m : Mailbox α) (a : α) : Move visible m (m.send visible a)
  | take (m : Mailbox α) : Move visible m m.take

/-- Nothing is received out of order or twice, and the newest visible message is
in the slot or was the last one received. -/
structure Faithful (visible : α → Prop) (m : Mailbox α) : Prop where
  ordered : (m.received ++ m.slot.toList).Sublist m.sent
  slot_last : ∀ a, m.slot = some a → m.sent.getLast? = some a
  last_handled : ∀ a, m.sent.getLast? = some a → visible a →
    m.slot = some a ∨ m.received.getLast? = some a

/-- The mailbox before anything was sent. -/
theorem faithful_empty : Faithful visible (⟨none, [], []⟩ : Mailbox α) := by
  constructor <;> simp

/-- Sending keeps the slot faithful. -/
theorem Faithful.send [DecidablePred visible] {m : Mailbox α} (h : Faithful visible m)
    (a : α) :
    Faithful visible (m.send visible a) := by
  have hreceived : m.received.Sublist m.sent :=
    (List.sublist_append_left _ _).trans h.ordered
  by_cases ha : visible a
  · refine ⟨?_, ?_, ?_⟩
    · simpa [Mailbox.send, ha] using hreceived.append (List.Sublist.refl [a])
    · intro b hb
      simpa [Mailbox.send, ha] using hb
    · intro b hb _
      left
      simpa [Mailbox.send, ha] using hb
  · refine ⟨?_, ?_, ?_⟩
    · simpa [Mailbox.send, ha] using hreceived.trans (List.sublist_append_left _ [a])
    · intro b hb
      simp [Mailbox.send, ha] at hb
    · intro b hb hvisible
      have hab : a = b := by simpa [Mailbox.send] using hb
      exact absurd (hab ▸ hvisible) ha

/-- Taking keeps the slot faithful. -/
theorem Faithful.take {m : Mailbox α} (h : Faithful visible m) :
    Faithful visible m.take := by
  refine ⟨?_, ?_, ?_⟩
  · simpa [Mailbox.take] using h.ordered
  · intro a ha
    simp [Mailbox.take] at ha
  · intro a ha hvisible
    right
    rcases h.last_handled a ha hvisible with hslot | hlast
    · simp [Mailbox.take, hslot]
    · cases hslot : m.slot with
      | none => simpa [Mailbox.take, hslot] using hlast
      | some b =>
          have hb := h.slot_last b hslot
          have hab : a = b := by
            have hsent : m.sent.getLast? = some a := ha
            rw [hb] at hsent
            exact (Option.some.inj hsent).symm
          simp [Mailbox.take, hslot, hab]

/-- Every operation keeps a mailbox faithful. -/
theorem Faithful.move [DecidablePred visible] {m m' : Mailbox α} (h : Faithful visible m)
    (hmove : Move visible m m') : Faithful visible m' := by
  cases hmove with
  | stay => exact h
  | send a => exact h.send a
  | take => exact h.take

/-- With the slot empty, the newest visible message has been received. -/
theorem Faithful.last_received {m : Mailbox α} (h : Faithful visible m)
    (hslot : m.slot = none) {a : α} (hlast : m.sent.getLast? = some a)
    (hvisible : visible a) : a ∈ m.received := by
  rcases h.last_handled a hlast hvisible with hsome | hreceived
  · rw [hslot] at hsome
    contradiction
  · exact List.mem_of_getLast? hreceived

/-- What was received is a subsequence of what was sent. -/
theorem Faithful.received_sublist {m : Mailbox α} (h : Faithful visible m) :
    m.received.Sublist m.sent :=
  (List.sublist_append_left _ _).trans h.ordered

end Mailbox

end LatestSlot
