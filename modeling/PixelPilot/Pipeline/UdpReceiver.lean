import Mathlib.Data.List.Basic

/-!
# The UDP receiver thread

`receiver_thread` reads datagrams from the socket, copies each into a buffer
and pushes it to the application source of the GStreamer pipeline.  The buffers
come from a pool of at most 32: `gst_buffer_pool_acquire_buffer` blocks while
all of them are outstanding.

Main results:

- Definition `Receiver.next`: the steps of `receiver_thread`.
- Theorem `Receiver.next_bounded`: the pool never hands out more than its bound.

Current gaps:

- The socket is not modelled: `recv` returns anything at any time, which covers
  its timeout and the effect of `shutdown`.
-/

namespace PixelPilot
namespace Pipeline

/-- How a GStreamer pipeline treats the buffers of its application source. -/
inductive Gst
  /-- Built, not yet set to PLAYING: queues buffers. -/
  | ready
  /-- Queues buffers and consumes them. -/
  | playing
  /-- Stopped consuming after an error or EOS: keeps what it has queued. -/
  | stalled
  /-- Set to NULL: has returned its buffers and refuses new ones. -/
  | null
deriving DecidableEq, Repr

/-- The maximum of `gst_buffer_pool_config_set_params`. -/
def poolMax : Nat := 32

/-- Where the receiver thread stands.  `pooled` tells whether the buffer in its
hands came from the pool. -/
inductive ReceiverPc
  /-- Not created, or its handle was already joined. -/
  | absent
  | created
  /-- Before the critical section that reads `stop_requested`. -/
  | check
  | recv
  | ensurePool
  /-- In `gst_buffer_pool_acquire_buffer`. -/
  | acquire
  /-- At `gst_buffer_new_allocate`. -/
  | allocate
  | write (pooled : Bool)
  | push (pooled : Bool)
  | exited
deriving DecidableEq, Repr

/-- `struct UdpReceiver`, the control point of its thread, and the number of
pool buffers the pipeline holds. -/
structure Receiver where
  vidPt : Int
  running : Bool := false
  stopRequested : Bool := false
  thread : Bool := false
  pool : Bool := false
  poolActive : Bool := false
  held : Nat := 0
  pc : ReceiverPc := .absent
deriving DecidableEq, Repr

/-- What the environment answers to a step of the receiver thread. -/
inductive ReceiverChoice
  | go
  | fail
  | packet (data : List UInt8)
deriving DecidableEq, Repr

/-- `payload_type_matches`. -/
def payloadTypeMatches (data : List UInt8) (expectedPt : Int) : Bool :=
  if expectedPt < 0 then true
  else
    match data with
    | _ :: second :: _ => (second &&& 0x7F) == UInt8.ofInt expectedPt
    | _ => false

/-- `ensure_buffer_pool`; `ok` is the answer of the GStreamer calls it makes. -/
def Receiver.ensureBufferPool (r : Receiver) (ok : Bool) : Receiver × Bool :=
  if r.pool then
    if r.poolActive then (r, true)
    else if ok then ({ r with poolActive := true }, true)
    else (r, false)
  else if ok then ({ r with pool := true, poolActive := true }, true)
  else (r, false)

/-- The step of `receiver_thread` at `ensure_buffer_pool`. -/
def Receiver.ensureStep (r : Receiver) (ok : Bool) : Receiver :=
  let result := r.ensureBufferPool ok
  { result.1 with pc := if result.2 then .acquire else .allocate }

/-- One step of `receiver_thread`, with the pipeline its buffers go to. -/
def Receiver.next (gst : Gst) (r : Receiver) (c : ReceiverChoice) : Option Receiver :=
  match r.pc, c with
  | .created, .go => some { r with pc := .check }
  | .created, .fail => some { r with pc := .exited }
  | .check, .go => some { r with pc := if r.stopRequested then .exited else .recv }
  | .recv, .fail => some { r with pc := .check }
  | .recv, .packet data =>
      if data ≠ [] ∧ payloadTypeMatches data r.vidPt then some { r with pc := .ensurePool }
      else some { r with pc := .check }
  | .ensurePool, .go => some (r.ensureStep true)
  | .ensurePool, .fail => some (r.ensureStep false)
  -- Blocked while every buffer of the pool is outstanding.
  | .acquire, .go => if r.held < poolMax then some { r with pc := .write true } else none
  | .acquire, .fail => if r.held < poolMax then some { r with pc := .allocate } else none
  | .allocate, .go => some { r with pc := .write false }
  | .allocate, .fail => some { r with pc := .check }
  | .write pooled, .go => some { r with pc := .push pooled }
  | .write _, .fail => some { r with pc := .check }
  | .push pooled, .go =>
      if gst = .null then none
      else some { r with held := if pooled then r.held + 1 else r.held, pc := .check }
  | .push _, .fail => some { r with pc := .check }
  | _, _ => none

/-! ## The pool bound -/

/-- The buffers of the pool in the receiver's hands. -/
def ReceiverPc.inHand : ReceiverPc → Nat
  | .write true | .push true => 1
  | _ => 0

/-- The receiver has accepted a datagram in this turn of its loop. -/
def ReceiverPc.accepted : ReceiverPc → Bool
  | .ensurePool | .acquire | .allocate | .write _ | .push _ => true
  | _ => false

/-- The outstanding buffers are at most the maximum; buffers come only from an
active pool. -/
structure Receiver.Bounded (r : Receiver) : Prop where
  outstanding : r.held + r.pc.inHand ≤ poolMax
  active : 0 < r.held + r.pc.inHand ∨ r.pc = .acquire → r.pool = true ∧ r.poolActive = true

/-- Buffers are used only for datagrams with the expected payload type. -/
def Receiver.Matched (r : Receiver) : Prop :=
  0 < r.held ∨ r.pc.accepted = true →
    ∃ data, data ≠ [] ∧ payloadTypeMatches data r.vidPt = true

/-- What `ensure_buffer_pool` leaves alone, and when it reports success. -/
theorem ensureBufferPool_spec (r : Receiver) (ok : Bool) :
    (r.ensureBufferPool ok).1.held = r.held ∧
      (r.ensureBufferPool ok).1.stopRequested = r.stopRequested ∧
      (r.ensureBufferPool ok).1.vidPt = r.vidPt ∧
      ((r.ensureBufferPool ok).2 = true →
        (r.ensureBufferPool ok).1.pool = true ∧ (r.ensureBufferPool ok).1.poolActive = true) ∧
      (r.pool = true ∧ r.poolActive = true → r.ensureBufferPool ok = (r, true)) := by
  unfold Receiver.ensureBufferPool
  cases hpool : r.pool <;> cases hactive : r.poolActive <;> cases ok <;> simp [hpool, hactive]

theorem ensureStep_pc (r : Receiver) (ok : Bool) :
    (r.ensureStep ok).pc = if (r.ensureBufferPool ok).2 then .acquire else .allocate :=
  rfl

/-- What a step of the receiver thread leaves alone, and when the thread ends. -/
theorem Receiver.next_frame {gst : Gst} {r t : Receiver} {c : ReceiverChoice}
    (h : r.next gst c = some t) :
    t.running = r.running ∧ t.stopRequested = r.stopRequested ∧ t.thread = r.thread ∧
      r.pc ≠ .absent ∧ t.pc ≠ .absent ∧
      (t.pc = .exited → r.stopRequested = true ∨ r.pc = .created ∧ c = .fail) := by
  have hensure : ∀ ok, (r.ensureStep ok).running = r.running ∧
      (r.ensureStep ok).stopRequested = r.stopRequested ∧
      (r.ensureStep ok).thread = r.thread ∧
      ((r.ensureStep ok).pc = .acquire ∨ (r.ensureStep ok).pc = .allocate) := by
    intro ok
    unfold Receiver.ensureStep Receiver.ensureBufferPool
    cases r.pool <;> cases r.poolActive <;> cases ok <;> simp
  unfold Receiver.next at h
  split at h <;> rename_i hpc
  all_goals try split at h
  all_goals try contradiction
  all_goals cases h
  case h_6.refl | h_7.refl =>
    obtain ⟨hrunning, hstop, hthread, hacquire | hallocate⟩ := hensure _
    · exact ⟨hrunning, hstop, hthread, by simp [hpc], by simp [hacquire], by simp [hacquire]⟩
    · exact ⟨hrunning, hstop, hthread, by simp [hpc], by simp [hallocate], by simp [hallocate]⟩
  case h_3.isTrue.refl hstop =>
    exact ⟨rfl, rfl, rfl, by simp [hpc], by simp, fun _ => .inl hstop⟩
  all_goals exact ⟨rfl, rfl, rfl, by simp [hpc], by simp, by simp [hpc]⟩

/-- A step that hands out no further pool buffer keeps the bound. -/
theorem Receiver.Bounded.shrink {r t : Receiver} (hr : r.Bounded)
    (hle : t.held + t.pc.inHand ≤ r.held + r.pc.inHand) (hpc : t.pc ≠ .acquire)
    (hpool : t.pool = r.pool) (hactive : t.poolActive = r.poolActive) : t.Bounded := by
  refine ⟨Nat.le_trans hle hr.outstanding, ?_⟩
  rintro (hpos | hacquire)
  · rw [hpool, hactive]
    exact hr.active (.inl (by omega))
  · exact absurd hacquire hpc

/-- Making the pool keeps the buffers bounded. -/
theorem Receiver.Bounded.ensureStep {r : Receiver} (hr : r.Bounded)
    (hpc : r.pc = .ensurePool) (ok : Bool) : (r.ensureStep ok).Bounded := by
  obtain ⟨hheld, -, -, hsuccess, hkept⟩ := ensureBufferPool_spec r ok
  have houtstanding := hr.outstanding
  have hactive := hr.active
  rw [hpc] at houtstanding hactive
  have hhand : (r.ensureStep ok).pc.inHand = 0 := by
    rw [ensureStep_pc]
    split <;> rfl
  refine ⟨?_, ?_⟩
  · rw [hhand]
    exact hheld.symm ▸ houtstanding
  · rw [hhand]
    rintro (hpos | hacquire)
    · have hpool := hactive (.inl (hheld ▸ hpos))
      unfold Receiver.ensureStep
      rw [hkept hpool]
      exact hpool
    · refine hsuccess ?_
      rw [ensureStep_pc] at hacquire
      by_contra hfailed
      simp [hfailed] at hacquire

/-- The pool never hands out more than its maximum. -/
theorem Receiver.next_bounded {gst : Gst} {r t : Receiver} {c : ReceiverChoice}
    (hr : r.Bounded) (h : r.next gst c = some t) : t.Bounded := by
  cases hpc : r.pc with
  | absent | exited => cases c <;> simp [Receiver.next, hpc] at h
  | created | allocate =>
      cases c <;> simp only [Receiver.next, hpc, Option.some.injEq, reduceCtorEq] at h
      all_goals
        subst h
        exact hr.shrink (by simp [hpc, ReceiverPc.inHand]) (by simp) rfl rfl
  | check =>
      cases c <;> simp only [Receiver.next, hpc, Option.some.injEq, reduceCtorEq] at h
      subst h
      cases r.stopRequested
      all_goals exact hr.shrink (by simp [hpc, ReceiverPc.inHand]) (by simp) rfl rfl
  | recv =>
      cases c <;> simp only [Receiver.next, hpc, Option.some.injEq, reduceCtorEq] at h
      · subst h
        exact hr.shrink (by simp [hpc, ReceiverPc.inHand]) (by simp) rfl rfl
      · split at h
        all_goals
          cases h
          exact hr.shrink (by simp [hpc, ReceiverPc.inHand]) (by simp) rfl rfl
  | ensurePool =>
      cases c <;> simp only [Receiver.next, hpc, Option.some.injEq, reduceCtorEq] at h
      all_goals exact h ▸ hr.ensureStep hpc _
  | acquire =>
      have hpool := hr.active (.inr hpc)
      cases c <;> simp only [Receiver.next, hpc, reduceCtorEq] at h
      all_goals
        split at h
        · rename_i hfree
          cases h
          refine ⟨?_, fun _ => hpool⟩
          simp only [ReceiverPc.inHand]
          omega
        · contradiction
  | write pooled =>
      cases c <;> simp only [Receiver.next, hpc, Option.some.injEq, reduceCtorEq] at h
      all_goals
        subst h
        refine hr.shrink ?_ (by simp) rfl rfl
        cases pooled <;> simp [hpc, ReceiverPc.inHand]
  | push pooled =>
      cases c <;> simp only [Receiver.next, hpc, Option.some.injEq, reduceCtorEq] at h
      · split at h
        · contradiction
        · cases h
          refine hr.shrink ?_ (by simp) rfl rfl
          cases pooled <;> simp [hpc, ReceiverPc.inHand]
      · subst h
        refine hr.shrink ?_ (by simp) rfl rfl
        cases pooled <;> simp [hpc, ReceiverPc.inHand]

/-- A step of the receiver keeps its buffers matched. -/
theorem Receiver.next_matched {gst : Gst} {r t : Receiver} {c : ReceiverChoice}
    (hr : r.Matched) (h : r.next gst c = some t) : t.Matched := by
  -- Only an accepted datagram makes a receiver use buffers that did not before.
  have hkept : ∀ t : Receiver, t.vidPt = r.vidPt →
      (0 < t.held ∨ t.pc.accepted = true → 0 < r.held ∨ r.pc.accepted = true) → t.Matched := by
    intro t hvidPt himp hused
    rw [hvidPt]
    exact hr (himp hused)
  unfold Receiver.next at h
  split at h <;> rename_i hpc
  all_goals try split at h
  all_goals try contradiction
  all_goals cases h
  case h_5.isTrue data hdata => exact fun _ => ⟨data, hdata⟩
  case h_6.refl | h_7.refl =>
    exact hkept _ (ensureBufferPool_spec r _).2.2.1 fun _ => .inr (by rw [hpc]; rfl)
  all_goals
    refine hkept _ rfl ?_
    simp [hpc, ReceiverPc.accepted]

/-- Consumed buffers go back to the pool. -/
theorem Receiver.Bounded.consume {r : Receiver} (hr : r.Bounded) (held : Nat)
    (hle : held ≤ r.held) : Receiver.Bounded { r with held := held } := by
  have hpos : 0 < held + r.pc.inHand → 0 < r.held + r.pc.inHand := by omega
  refine ⟨?_, fun h => hr.active (h.imp_left hpos)⟩
  have houtstanding := hr.outstanding
  simp only
  omega

end Pipeline
end PixelPilot
