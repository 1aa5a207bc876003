import PixelPilot.Library.Ledger
import PixelPilot.Library.Transition
import PixelPilot.Pipeline.UdpReceiver

/-!
# Starting and stopping the UDP receiver

`udp_receiver_start`, `udp_receiver_stop` and `udp_receiver_destroy`, called in any order by
one thread, against the receiver thread.  A step of the caller is a critical section or a
call between two of them.

Main results:

- Definition `Lifecycle.system`: the calls and the receiver thread, interleaved.
- Definition `Lifecycle.Inv`: what holds at each point of a call.
- Theorem `lifecycle_settled`: the receiver after each call, what each call changes, and the
  order in which sockets and threads end.

Current gaps:

- `setsockopt` is left out: its failures are only logged.
- `shutdown` has no effect here: `recv` returns anything at any time.
-/

namespace PixelPilot
namespace Pipeline

open Transition

/-- The calls on a receiver that `udp_receiver_create` has returned. -/
inductive ReceiverCall
  | start
  | stop
  | destroy
deriving DecidableEq, Repr

/-- Where the caller stands; `fd` is the local variable of `udp_receiver_start`, and
`destroying` tells whether `udp_receiver_destroy` has called `udp_receiver_stop`. -/
inductive CallerPc
  /-- Between two calls. -/
  | idle
  | socket
  | bind (fd : Nat)
  /-- Before the critical section that sets `running`. -/
  | publish (fd : Nat)
  | createThread (fd : Nat)
  /-- Before the critical section that takes `running` back. -/
  | unpublish (fd : Nat)
  | closeFailed (fd : Nat)
  /-- At `ur->sockfd = -1` of `udp_receiver_start`. -/
  | clearFailed
  | shutdown (destroying : Bool)
  | join (destroying : Bool)
  | close (destroying : Bool)
  /-- At `ur->sockfd = -1` of `udp_receiver_stop`. -/
  | clear (destroying : Bool)
  /-- Before the last critical section of `udp_receiver_stop`. -/
  | finish (destroying : Bool)
  | unref
  | destroyed
deriving DecidableEq, Repr

/-- The resources of a receiver.  A thread reads the socket it was created for. -/
inductive ReceiverResource
  | socket (fd : Nat)
  | thread (fd : Nat)
deriving DecidableEq, Repr

/-- A thread needs its socket. -/
def ReceiverResource.owner : ReceiverResource → Option ReceiverResource
  | .socket _ => none
  | .thread fd => some (.socket fd)

/-- A receiver and its caller. -/
structure Lifecycle where
  ur : Receiver
  sockfd : Option Nat := none
  pc : CallerPc := .idle
  log : List (Ledger.Event ReceiverResource) := []
  /-- The last call that has returned, and its result; 0 for a call without one. -/
  returned : Option (ReceiverCall × Int) := none
  /-- The receiver when the current or last call began. -/
  entry : Receiver × Option Nat
  /-- The socket that the thread behind `ur->thread` was created for. -/
  handle : Option Nat := none
  /-- How many threads have been created. -/
  session : Nat := 0
  /-- The value of `session` when a stop was last requested. -/
  requested : Option Nat := none
deriving DecidableEq, Repr

/-- A step of the caller, of the receiver thread or of the pipeline. -/
inductive LifecycleAct
  | call (c : ReceiverCall)
  /-- The answer of `socket`. -/
  | socket (fd : Option Nat)
  /-- Any other step of the caller, with the answer of `bind` or `g_thread_new`. -/
  | caller (ok : Bool)
  | receiver (gst : Gst) (c : ReceiverChoice)
  /-- The pipeline returns buffers to the pool. -/
  | consume (held : Nat)
deriving DecidableEq, Repr

namespace Lifecycle

/-- The fields of `struct UdpReceiver`; the pool's buffers in the pipeline are not among
them. -/
def view (s : Lifecycle) : Receiver × Option Nat :=
  ({ s.ur with held := 0 }, s.sockfd)

def record (s : Lifecycle) (e : Ledger.Event ReceiverResource) : Lifecycle :=
  { s with log := s.log ++ [e] }

def returns (s : Lifecycle) (c : ReceiverCall) (result : Int) : Lifecycle :=
  { s with pc := .idle, returned := some (c, result) }

/-- The caller after `udp_receiver_stop`. -/
def afterStop (s : Lifecycle) (destroying : Bool) : Lifecycle :=
  if destroying then { s with pc := .unref } else s.returns .stop 0

/-- The first critical section of `udp_receiver_stop`. -/
def stop (s : Lifecycle) (destroying : Bool) : Lifecycle :=
  if s.ur.running then
    { s with
      ur := { s.ur with stopRequested := true }
      requested := some s.session
      pc := .shutdown destroying }
  else s.afterStop destroying

/-- A call, up to the end of its first critical section. -/
def call (s : Lifecycle) : ReceiverCall → Lifecycle
  | .start =>
      if s.ur.running then s.returns .start 0
      else { s with ur := { s.ur with stopRequested := false }, pc := .socket }
  | .stop => s.stop false
  | .destroy => s.stop true

/-- The step of the caller at `socket`. -/
def socketStep (s : Lifecycle) : Option Nat → Option Lifecycle
  | none => some (s.returns .start (-1))
  | some fd => (Ledger.acquire s.log (.socket fd)).map fun log => { s with log, pc := .bind fd }

/-- The other steps of the caller. -/
def callerStep (s : Lifecycle) (ok : Bool) : Option Lifecycle :=
  match s.pc with
  | .idle | .socket | .destroyed => none
  | .bind fd =>
      if ok then some { s with pc := .publish fd }
      else some ((s.record (.released (.socket fd))).returns .start (-1))
  | .publish fd =>
      some { s with
        ur := { s.ur with running := true }, sockfd := some fd, pc := .createThread fd }
  | .createThread fd =>
      if ok then
        let s := { s with
          ur := { s.ur with thread := true, pc := .created }
          handle := some fd
          session := s.session + 1 }
        some ((s.record (.acquired (.thread fd))).returns .start 0)
      else some { s with pc := .unpublish fd }
  | .unpublish fd => some { s with ur := { s.ur with running := false }, pc := .closeFailed fd }
  | .closeFailed fd =>
      some { s.record (.released (.socket fd)) with pc := .clearFailed }
  | .clearFailed => some ({ s with sockfd := none }.returns .start (-1))
  | .shutdown destroying => some { s with pc := .join destroying }
  | .join destroying =>
      if s.ur.thread then
        -- `g_thread_join` waits for the thread to return.
        if s.ur.pc = .exited then
          some { s with
            ur := { s.ur with thread := false, pc := .absent }
            log := Ledger.releaseOption (s.handle.map .thread) s.log
            handle := none
            pc := .close destroying }
        else none
      else some { s with pc := .close destroying }
  | .close destroying =>
      match s.sockfd with
      | none => some { s with pc := .finish destroying }
      | some fd =>
          some { s.record (.released (.socket fd)) with pc := .clear destroying }
  | .clear destroying => some { s with sockfd := none, pc := .finish destroying }
  | .finish destroying =>
      let s := { s with ur := { s.ur with running := false, stopRequested := false } }
      some (s.afterStop destroying)
  | .unref =>
      some { s with ur := { s.ur with pool := false, poolActive := false }, pc := .destroyed }

/-- One step. -/
def next (s : Lifecycle) : LifecycleAct → Option Lifecycle
  | .call c => if s.pc = .idle then some ({ s with entry := s.view }.call c) else none
  | .socket fd => if s.pc = .socket then s.socketStep fd else none
  | .caller ok => s.callerStep ok
  | .receiver gst c =>
      -- `g_malloc` ends the program when there is no memory.
      if s.ur.pc = .created ∧ c = .fail then none
      else (s.ur.next gst c).map fun ur => { s with ur }
  | .consume held => if held ≤ s.ur.held then some { s with ur := { s.ur with held } } else none

/-- The runs that begin after `udp_receiver_create`. -/
def system : System Lifecycle LifecycleAct where
  init s := ∃ vidPt, s = { ur := { vidPt }, entry := ({ vidPt }, none) }
  next := next

/-! ## The receiver at each point of a call -/

/-- The fields, with the socket that is open and the one that a thread was created for. -/
structure Holds (s : Lifecycle) (running stopRequested : Bool)
    (sockfd socket reader : Option Nat) : Prop where
  running : s.ur.running = running
  stopRequested : s.ur.stopRequested = stopRequested
  sockfd : s.sockfd = sockfd
  thread : s.ur.thread = reader.isSome
  handle : s.handle = reader
  accounts : Ledger.Accounts ReceiverResource.owner s.log
    (Ledger.heldOption (reader.map .thread) + Ledger.heldOption (socket.map .socket))

/-- Nothing runs and nothing is held. -/
def Stopped (s : Lifecycle) : Prop :=
  s.Holds false false none none none

/-- A thread reads an open socket. -/
def Running (s : Lifecycle) (stopRequested : Bool) : Prop :=
  ∃ fd, s.Holds true stopRequested (some fd) (some fd) (some fd)

/-- What the fields are where the caller stands. -/
def AtPc (s : Lifecycle) : Prop :=
  match s.pc with
  | .idle => s.Stopped ∨ s.Running false
  | .socket | .unref | .destroyed => s.Stopped
  | .bind fd | .publish fd => s.Holds false false none (some fd) none
  | .createThread fd | .unpublish fd => s.Holds true false (some fd) (some fd) none
  | .closeFailed fd => s.Holds false false (some fd) (some fd) none
  | .clearFailed => ∃ fd, s.Holds false false (some fd) none none
  | .shutdown _ | .join _ => s.Running true
  | .close _ => ∃ fd, s.Holds true true (some fd) (some fd) none
  | .clear _ => ∃ fd, s.Holds true true (some fd) none none
  | .finish _ => s.Holds true true none none none

/-- The receiver thread is there while its handle is, and returns only if it was asked to
in its own session. -/
structure ThreadFits (s : Lifecycle) : Prop where
  absent : s.ur.pc = .absent ↔ s.ur.thread = false
  exited : s.ur.pc = .exited → s.ur.stopRequested = true
  requested : s.ur.thread = true → s.ur.stopRequested = true → s.requested = some s.session

end Lifecycle

/-- Within `udp_receiver_start`, after its first critical section. -/
def CallerPc.starting : CallerPc → Bool
  | .socket | .bind _ | .publish _ | .createThread _ | .unpublish _ | .closeFailed _
  | .clearFailed => true
  | _ => false

namespace Lifecycle

structure Inv (s : Lifecycle) : Prop where
  atPc : s.AtPc
  thread : s.ThreadFits
  /-- A start has changed nothing yet but `running` and `sockfd`. -/
  entry : s.pc.starting = true → s.entry = ({ s.ur with running := false, held := 0 }, none)
  failed : s.pc = .idle → s.returned = some (.start, -1) →
    s.ur.thread = false ∧ s.entry = s.view
  last : Ledger.ReleasedLast ReceiverResource.owner s.log

variable {s t : Lifecycle}

/-- Without a thread nothing has to fit. -/
theorem ThreadFits.of_absent (hpc : s.ur.pc = .absent) (hthread : s.ur.thread = false) :
    s.ThreadFits := by
  refine ⟨⟨fun _ => hthread, fun _ => hpc⟩, ?_, ?_⟩
  · intro hexited
    rw [hpc] at hexited
    contradiction
  · intro hthere
    rw [hthread] at hthere
    contradiction

/-- Without a handle there is no thread. -/
theorem Inv.pc_absent (hs : s.Inv) {running stopRequested : Bool}
    {sockfd socket : Option Nat} (h : s.Holds running stopRequested sockfd socket none) :
    s.ur.pc = .absent :=
  hs.thread.absent.mpr h.thread

/-- Only the fields matter. -/
theorem Holds.congr {running stopRequested : Bool} {sockfd socket reader : Option Nat}
    (h : s.Holds running stopRequested sockfd socket reader) (hur : t.ur = s.ur)
    (hsockfd : t.sockfd = s.sockfd) (hhandle : t.handle = s.handle) (hlog : t.log = s.log) :
    t.Holds running stopRequested sockfd socket reader where
  running := hur ▸ h.running
  stopRequested := hur ▸ h.stopRequested
  sockfd := hsockfd.trans h.sockfd
  thread := hur ▸ h.thread
  handle := hhandle.trans h.handle
  accounts := hlog ▸ h.accounts

/-- A thread that runs has its handle. -/
theorem Inv.thread_of_pc (hs : s.Inv) (hpc : s.ur.pc ≠ .absent) : s.ur.thread = true := by
  by_contra hgone
  exact hpc (hs.thread.absent.mpr (Bool.eq_false_iff.mpr hgone))

/-! ## Steps of the caller -/

/-- A socket without a thread owns nothing. -/
theorem owner_free {socket : Option Nat} {r : ReceiverResource} :
    ∀ q ∈ (Ledger.heldOption ((none : Option Nat).map .thread) +
      Ledger.heldOption (socket.map .socket) : Multiset ReceiverResource), q.owner ≠ some r := by
  cases socket <;> simp [Ledger.heldOption, ReceiverResource.owner]

/-- The invariant where a call returns. -/
theorem inv_returns (hat : s.Stopped ∨ s.Running false) (hthread : s.ThreadFits)
    (hlast : Ledger.ReleasedLast ReceiverResource.owner s.log) (c : ReceiverCall) (result : Int)
    (hfailed : result = -1 → s.ur.thread = false ∧ s.entry = s.view) :
    (s.returns c result).Inv where
  atPc := by
    rcases hat with h | ⟨fd, h⟩
    · exact .inl (h.congr rfl rfl rfl rfl)
    · exact .inr ⟨fd, h.congr rfl rfl rfl rfl⟩
  thread := ⟨hthread.absent, hthread.exited, hthread.requested⟩
  entry h := by contradiction
  failed _ h := by
    cases h
    exact hfailed rfl
  last := hlast

/-- The invariant inside `udp_receiver_start`. -/
theorem inv_starting (hpc : t.pc.starting = true) (hat : t.AtPc) (hthread : t.ThreadFits)
    (hentry : t.entry = ({ t.ur with running := false, held := 0 }, none))
    (hlast : Ledger.ReleasedLast ReceiverResource.owner t.log) : t.Inv := by
  refine ⟨hat, hthread, fun _ => hentry, fun hidle => ?_, hlast⟩
  rw [hidle] at hpc
  contradiction

/-- The invariant inside `udp_receiver_stop`. -/
theorem inv_stopping (hpc : t.pc.starting = false) (hnext : t.pc ≠ .idle) (hat : t.AtPc)
    (hthread : t.ThreadFits) (hlast : Ledger.ReleasedLast ReceiverResource.owner t.log) :
    t.Inv := by
  refine ⟨hat, hthread, fun hstarting => ?_, fun hidle => absurd hidle hnext, hlast⟩
  rw [hpc] at hstarting
  contradiction

/-- The end of `udp_receiver_stop`. -/
theorem inv_afterStop (hat : s.Stopped) (hthread : s.ThreadFits)
    (hlast : Ledger.ReleasedLast ReceiverResource.owner s.log) (destroying : Bool) :
    (s.afterStop destroying).Inv := by
  cases destroying with
  | false => exact inv_returns (.inl hat) hthread hlast .stop 0 fun h => by contradiction
  | true =>
      exact inv_stopping rfl (by simp [afterStop]) (hat.congr rfl rfl rfl rfl)
        ⟨hthread.absent, hthread.exited, hthread.requested⟩ hlast

/-- The invariant where it is entered. -/
theorem inv_stop (hat : s.Stopped ∨ s.Running false) (hthread : s.ThreadFits)
    (hlast : Ledger.ReleasedLast ReceiverResource.owner s.log) (destroying : Bool) :
    (s.stop destroying).Inv := by
  unfold stop
  rcases hat with hstopped | ⟨fd, hrunning⟩
  · rw [if_neg (by simp [hstopped.running])]
    exact inv_afterStop hstopped hthread hlast destroying
  · rw [if_pos hrunning.running]
    refine inv_stopping rfl (by simp) ⟨fd, ?_⟩
      ⟨hthread.absent, fun _ => rfl, fun _ _ => rfl⟩ hlast
    exact ⟨hrunning.running, rfl, hrunning.sockfd, hrunning.thread, hrunning.handle,
      hrunning.accounts⟩

/-- The invariant where any call is entered. -/
theorem inv_call (hat : s.Stopped ∨ s.Running false) (hthread : s.ThreadFits)
    (hlast : Ledger.ReleasedLast ReceiverResource.owner s.log) (hentry : s.entry = s.view)
    (c : ReceiverCall) : (s.call c).Inv := by
  cases c with
  | stop => exact inv_stop hat hthread hlast false
  | destroy => exact inv_stop hat hthread hlast true
  | start =>
      unfold call
      rcases hat with hstopped | ⟨fd, hrunning⟩
      · simp only [hstopped.running, Bool.false_eq_true, if_false]
        have habsent := hthread.absent.mpr hstopped.thread
        refine inv_starting rfl ?_ (ThreadFits.of_absent habsent hstopped.thread) ?_ hlast
        · exact ⟨rfl, rfl, hstopped.sockfd, hstopped.thread, hstopped.handle,
            hstopped.accounts⟩
        · simp only [hentry, view, hstopped.running, hstopped.stopRequested, hstopped.sockfd]
      · simp only [hrunning.running, if_true]
        exact inv_returns (.inr ⟨fd, hrunning⟩) hthread hlast .start 0 fun h => by contradiction

/-- A call keeps the invariant. -/
theorem Inv.call (hs : s.Inv) (hpc : s.pc = .idle) (c : ReceiverCall) :
    ({ s with entry := s.view }.call c).Inv := by
  have hat := hs.atPc
  rw [AtPc, hpc] at hat
  refine inv_call (s := { s with entry := s.view }) ?_
    ⟨hs.thread.absent, hs.thread.exited, hs.thread.requested⟩ hs.last rfl c
  rcases hat with h | ⟨fd, h⟩
  · exact .inl (h.congr rfl rfl rfl rfl)
  · exact .inr ⟨fd, h.congr rfl rfl rfl rfl⟩

/-- Opening the socket keeps the invariant. -/
theorem Inv.socketStep (hs : s.Inv) (hpc : s.pc = .socket) {fd : Option Nat}
    (h : s.socketStep fd = some t) : t.Inv := by
  have hstopped : s.Stopped := by
    have hat := hs.atPc
    rw [AtPc, hpc] at hat
    exact hat
  have hentry := hs.entry (by rw [hpc]; rfl)
  cases fd with
  | none =>
      cases h
      refine inv_returns (.inl hstopped) hs.thread hs.last .start (-1) fun _ => ?_
      refine ⟨hstopped.thread, ?_⟩
      rw [hentry, view, hstopped.sockfd, ← hstopped.running]
  | some fd =>
      obtain ⟨log, hacquire, rfl⟩ := Option.map_eq_some_iff.mp h
      have haccounts := hstopped.accounts.of_acquire hacquire fun o ho => by contradiction
      have hlog : log = s.log ++ [.acquired (.socket fd)] := by
        unfold Ledger.acquire at hacquire
        split at hacquire
        · contradiction
        · exact (Option.some.inj hacquire).symm
      refine inv_starting rfl ?_
        (ThreadFits.of_absent (hs.pc_absent hstopped) hstopped.thread) hentry ?_
      · exact ⟨hstopped.running, hstopped.stopRequested, hstopped.sockfd, hstopped.thread,
          hstopped.handle, haccounts⟩
      · simp only [hlog]
        exact hs.last.acquire _

/-- The rest of `udp_receiver_start`. -/
theorem Inv.startStep (hs : s.Inv) (hstarting : s.pc.starting = true) {ok : Bool}
    (h : s.callerStep ok = some t) : t.Inv := by
  have hat := hs.atPc
  have hentry := hs.entry hstarting
  unfold Lifecycle.callerStep at h
  cases hpc : s.pc with
  | idle | shutdown | join | close | clear | finish | unref | destroyed =>
      rw [hpc] at hstarting
      contradiction
  | socket =>
      simp only [hpc] at h
      contradiction
  | bind fd =>
      rw [AtPc, hpc] at hat
      have hthread := ThreadFits.of_absent (hs.pc_absent hat) hat.thread
      simp only [hpc] at h
      split at h
      · cases h
        exact inv_starting rfl (hat.congr rfl rfl rfl rfl)
          ⟨hthread.absent, hthread.exited, hthread.requested⟩ hentry hs.last
      · cases h
        refine inv_returns (.inl ?_) ?_ ?_ .start (-1) fun _ => ?_
        · exact ⟨hat.running, hat.stopRequested, hat.sockfd, hat.thread, hat.handle,
            hat.accounts.release fun o ho => by contradiction⟩
        · exact ⟨hthread.absent, hthread.exited, hthread.requested⟩
        · exact hs.last.release hat.accounts owner_free
        · refine ⟨hat.thread, ?_⟩
          simp only [record, view]
          rw [hentry, hat.sockfd, ← hat.running]
  | publish fd =>
      rw [AtPc, hpc] at hat
      simp only [hpc] at h
      cases h
      refine inv_starting rfl ?_ (ThreadFits.of_absent (hs.pc_absent hat) hat.thread) hentry
        hs.last
      exact ⟨rfl, hat.stopRequested, rfl, hat.thread, hat.handle, hat.accounts⟩
  | createThread fd =>
      rw [AtPc, hpc] at hat
      simp only [hpc] at h
      split at h
      · cases h
        refine inv_returns (.inr ⟨fd, ?_⟩) ?_ ?_ .start 0 fun h => by contradiction
        · refine ⟨hat.running, hat.stopRequested, hat.sockfd, rfl, rfl, ?_⟩
          refine hat.accounts.acquire (by simp [Ledger.heldOption]) fun o ho => ?_
          cases ho
          simp [Ledger.heldOption]
        · refine ⟨by simp [record], ?_, ?_⟩
          · intro h
            contradiction
          · intro _ hrequested
            exact absurd hrequested (by simp [record, hat.stopRequested])
        · exact hs.last.acquire _
      · cases h
        exact inv_starting rfl (hat.congr rfl rfl rfl rfl)
          (ThreadFits.of_absent (hs.pc_absent hat) hat.thread) hentry hs.last
  | unpublish fd =>
      rw [AtPc, hpc] at hat
      simp only [hpc] at h
      cases h
      refine inv_starting rfl ?_ (ThreadFits.of_absent (hs.pc_absent hat) hat.thread) hentry
        hs.last
      exact ⟨rfl, hat.stopRequested, hat.sockfd, hat.thread, hat.handle, hat.accounts⟩
  | closeFailed fd =>
      rw [AtPc, hpc] at hat
      simp only [hpc] at h
      cases h
      refine inv_starting rfl ⟨fd, ?_⟩ (ThreadFits.of_absent (hs.pc_absent hat) hat.thread)
        hentry (hs.last.release hat.accounts owner_free)
      exact ⟨hat.running, hat.stopRequested, hat.sockfd, hat.thread, hat.handle,
        hat.accounts.release fun o ho => by contradiction⟩
  | clearFailed =>
      rw [AtPc, hpc] at hat
      obtain ⟨fd, hat⟩ := hat
      simp only [hpc] at h
      cases h
      refine inv_returns (.inl ?_) ?_ ?_ .start (-1) fun _ => ?_
      · exact ⟨hat.running, hat.stopRequested, rfl, hat.thread, hat.handle, hat.accounts⟩
      · exact ThreadFits.of_absent (hs.pc_absent hat) hat.thread
      · exact hs.last
      · refine ⟨hat.thread, ?_⟩
        simp only [view]
        rw [hentry, ← hat.running]

/-- The rest of `udp_receiver_stop` and `udp_receiver_destroy`. -/
theorem Inv.stopStep (hs : s.Inv) (hstopping : s.pc.starting = false) {ok : Bool}
    (h : s.callerStep ok = some t) : t.Inv := by
  have hat := hs.atPc
  unfold Lifecycle.callerStep at h
  cases hpc : s.pc with
  | socket | bind | publish | createThread | unpublish | closeFailed | clearFailed =>
      rw [hpc] at hstopping
      contradiction
  | idle | destroyed =>
      simp only [hpc] at h
      contradiction
  | shutdown destroying =>
      rw [AtPc, hpc] at hat
      obtain ⟨fd, hat⟩ := hat
      simp only [hpc] at h
      cases h
      exact inv_stopping rfl (by simp) ⟨fd, hat.congr rfl rfl rfl rfl⟩
        ⟨hs.thread.absent, hs.thread.exited, hs.thread.requested⟩ hs.last
  | join destroying =>
      rw [AtPc, hpc] at hat
      obtain ⟨fd, hat⟩ := hat
      simp only [hpc, hat.thread, Option.isSome_some, if_true] at h
      split at h
      · cases h
        refine inv_stopping rfl (by simp) ⟨fd, ?_⟩ (ThreadFits.of_absent rfl rfl) ?_
        · refine ⟨hat.running, hat.stopRequested, hat.sockfd, rfl, rfl, ?_⟩
          simp only [hat.handle]
          refine hat.accounts.releaseOption fun q o hq ho => ?_
          cases hq
          cases ho
          simp [Ledger.heldOption]
        · simp only [hat.handle]
          refine hs.last.release hat.accounts ?_
          simp [Ledger.heldOption, ReceiverResource.owner]
      · contradiction
  | close destroying =>
      rw [AtPc, hpc] at hat
      obtain ⟨fd, hat⟩ := hat
      simp only [hpc, hat.sockfd] at h
      cases h
      refine inv_stopping rfl (by simp) ⟨fd, ?_⟩
        (ThreadFits.of_absent (hs.pc_absent hat) hat.thread)
        (hs.last.release hat.accounts owner_free)
      exact ⟨hat.running, hat.stopRequested, hat.sockfd, hat.thread, hat.handle,
        hat.accounts.release fun o ho => by contradiction⟩
  | clear destroying =>
      rw [AtPc, hpc] at hat
      obtain ⟨fd, hat⟩ := hat
      simp only [hpc] at h
      cases h
      refine inv_stopping rfl (by simp) ?_ (ThreadFits.of_absent (hs.pc_absent hat) hat.thread)
        hs.last
      exact ⟨hat.running, hat.stopRequested, rfl, hat.thread, hat.handle, hat.accounts⟩
  | finish destroying =>
      rw [AtPc, hpc] at hat
      simp only [hpc] at h
      cases h
      refine inv_afterStop ?_ (ThreadFits.of_absent ?_ ?_) ?_ destroying
      · exact ⟨rfl, rfl, hat.sockfd, hat.thread, hat.handle, hat.accounts⟩
      · exact hs.pc_absent hat
      · exact hat.thread
      · exact hs.last
  | unref =>
      rw [AtPc, hpc] at hat
      simp only [hpc] at h
      cases h
      refine inv_stopping rfl (by simp) ?_ (ThreadFits.of_absent (hs.pc_absent hat) hat.thread)
        hs.last
      exact ⟨hat.running, hat.stopRequested, hat.sockfd, hat.thread, hat.handle, hat.accounts⟩

/-- A step of the caller keeps the invariant. -/
theorem Inv.callerStep (hs : s.Inv) {ok : Bool} (h : s.callerStep ok = some t) : t.Inv := by
  cases hpc : s.pc.starting with
  | true => exact hs.startStep hpc h
  | false => exact hs.stopStep hpc h

/-! ## Steps of the others -/

/-- Where a thread is, the caller is between two calls or in `udp_receiver_stop`, and the
socket of the thread is open. -/
theorem Inv.running_of_thread (hs : s.Inv) (hthread : s.ur.thread = true) :
    s.pc.starting = false ∧ ∃ stopRequested, s.Running stopRequested := by
  have hat := hs.atPc
  have hthere : ∀ {running stopRequested : Bool} {sockfd socket : Option Nat},
      ¬ s.Holds running stopRequested sockfd socket none := by
    intro running stopRequested sockfd socket h
    rw [h.thread] at hthread
    contradiction
  cases hpc : s.pc with
  | idle =>
      rw [AtPc, hpc] at hat
      exact ⟨rfl, false, hat.resolve_left hthere⟩
  | shutdown | join =>
      rw [AtPc, hpc] at hat
      exact ⟨rfl, true, hat⟩
  | socket | bind | publish | createThread | unpublish | closeFailed | finish | unref
  | destroyed =>
      rw [AtPc, hpc] at hat
      exact absurd hat hthere
  | clearFailed | close | clear =>
      rw [AtPc, hpc] at hat
      exact absurd hat.choose_spec hthere

/-- What a place says depends on the resources and flags only. -/
theorem AtPc.congr (hat : s.AtPc) (hpc : t.pc = s.pc)
    (hkept : ∀ running stopRequested sockfd socket reader,
      s.Holds running stopRequested sockfd socket reader →
        t.Holds running stopRequested sockfd socket reader) : t.AtPc := by
  unfold AtPc at hat ⊢
  rw [hpc]
  cases hs : s.pc with
  | idle =>
      rw [hs] at hat
      exact hat.imp (hkept _ _ _ _ _) fun ⟨fd, h⟩ => ⟨fd, hkept _ _ _ _ _ h⟩
  | socket | unref | destroyed | bind | publish | createThread | unpublish | closeFailed
  | finish =>
      rw [hs] at hat
      exact hkept _ _ _ _ _ hat
  | clearFailed | shutdown | join | close | clear =>
      rw [hs] at hat
      obtain ⟨fd, h⟩ := hat
      exact ⟨fd, hkept _ _ _ _ _ h⟩

theorem AtPc.of_ur (hat : s.AtPc) {ur : Receiver} (hrunning : ur.running = s.ur.running)
    (hstop : ur.stopRequested = s.ur.stopRequested) (hthread : ur.thread = s.ur.thread) :
    ({ s with ur } : Lifecycle).AtPc := by
  refine hat.congr rfl fun running stopRequested sockfd socket reader h => ?_
  exact ⟨hrunning.trans h.running, hstop.trans h.stopRequested, h.sockfd,
    hthread.trans h.thread, h.handle, h.accounts⟩

/-- The thread writes none of the fields that the caller writes. -/
theorem Inv.receiver (hs : s.Inv) {gst : Gst} {c : ReceiverChoice} {ur : Receiver}
    (hmalloc : ¬ (s.ur.pc = .created ∧ c = .fail)) (h : s.ur.next gst c = some ur) :
    ({ s with ur } : Lifecycle).Inv := by
  obtain ⟨hrunning, hstop, hthread, hbefore, hafter, hexited⟩ := Receiver.next_frame h
  have hthere := hs.thread_of_pc hbefore
  refine ⟨hs.atPc.of_ur hrunning hstop hthread, ⟨?_, ?_, ?_⟩, ?_, ?_, hs.last⟩
  · constructor
    · intro habsent
      exact absurd habsent hafter
    · intro hgone
      rw [hthread, hthere] at hgone
      contradiction
  · intro hpc
    exact hstop.trans ((hexited hpc).resolve_right hmalloc)
  · intro _ hrequested
    exact hs.thread.requested hthere (hstop ▸ hrequested)
  · intro hstarting
    rw [(hs.running_of_thread hthere).1] at hstarting
    contradiction
  · intro hidle hreturned
    rw [(hs.failed hidle hreturned).1] at hthere
    contradiction

/-- A buffer that goes back keeps the invariant. -/
theorem Inv.consume (hs : s.Inv) (held : Nat) :
    ({ s with ur := { s.ur with held } } : Lifecycle).Inv where
  atPc := hs.atPc.of_ur rfl rfl rfl
  thread := ⟨hs.thread.absent, hs.thread.exited, hs.thread.requested⟩
  entry := hs.entry
  failed := hs.failed
  last := hs.last

/-- A step keeps the invariant. -/
theorem Inv.next (hs : s.Inv) {a : LifecycleAct} (h : s.next a = some t) : t.Inv := by
  cases a with
  | call c =>
      simp only [Lifecycle.next] at h
      split at h
      · rename_i hpc
        cases h
        exact hs.call hpc c
      · contradiction
  | socket fd =>
      simp only [Lifecycle.next] at h
      split at h
      · rename_i hpc
        exact hs.socketStep hpc h
      · contradiction
  | caller ok => exact hs.callerStep h
  | receiver gst c =>
      simp only [Lifecycle.next] at h
      split at h
      · contradiction
      · rename_i hmalloc
        obtain ⟨ur, hur, rfl⟩ := Option.map_eq_some_iff.mp h
        exact hs.receiver hmalloc hur
  | consume held =>
      simp only [Lifecycle.next] at h
      split at h
      · cases h
        exact hs.consume held
      · contradiction

/-- The invariant holds in every reachable state. -/
theorem inv_reachable (h : system.Reachable s) : s.Inv := by
  refine System.ReachableUnder.invariant Inv ?_ (fun s t a hs _ hnext => hs.next hnext) h
  rintro s ⟨vidPt, rfl⟩
  refine ⟨.inl ⟨rfl, rfl, rfl, rfl, rfl, .nil⟩, ThreadFits.of_absent rfl rfl, ?_, ?_, .nil⟩
  · intro hstarting
    contradiction
  · intro _ hreturned
    contradiction

/-! ## What the calls keep to -/

/-- The socket in `sockfd` is open. -/
def SocketOpen (s : Lifecycle) : Prop :=
  ∃ fd, s.sockfd = some fd ∧ .socket fd ∈ Ledger.held s.log

/-- The receiver thread was created, has not returned and was not joined. -/
def ThreadLive (s : Lifecycle) : Prop :=
  s.ur.thread = true ∧ s.ur.pc ≠ .absent ∧ s.ur.pc ≠ .exited

/-- The contract of the calls. -/
structure Settled (s : Lifecycle) : Prop where
  /-- After each call. -/
  running : s.pc = .idle → (s.ur.running = true ↔ s.SocketOpen) ∧
    (s.ur.running = true ↔ s.ThreadLive)
  notRequested : s.pc = .idle → s.ur.stopRequested = false
  failed : s.pc = .idle → s.returned = some (.start, -1) → s.view = s.entry
  /-- A start while running and a stop while stopped. -/
  ignored : ∀ c, s.pc = .idle →
    c = .start ∧ s.ur.running = true ∨ c = .stop ∧ s.ur.running = false →
      s.next (.call c) = some { s with entry := s.view, returned := some (c, 0) }
  /-- What is open is not opened, and only what is open is closed. -/
  sound : Ledger.Sound ReceiverResource.owner s.log
  /-- No socket is closed while a thread that reads it is there. -/
  last : Ledger.ReleasedLast ReceiverResource.owner s.log
  closed : s.pc = .destroyed → ∀ fd,
    s.log.count (.released (.socket fd)) = s.log.count (.acquired (.socket fd))
  /-- The thread reads the socket it was created for, and it is open. -/
  reads : s.ur.pc = .recv → s.SocketOpen ∧ s.handle = s.sockfd ∧
    ∃ fd, s.handle = some fd ∧ .thread fd ∈ Ledger.held s.log
  /-- A thread returns because of a stop that was requested in its own session. -/
  exited : s.ur.pc = .exited → s.requested = some s.session

/-- A socket that is held is open. -/
theorem Holds.socketOpen {running stopRequested : Bool} {fd : Nat} {reader : Option Nat}
    (h : s.Holds running stopRequested (some fd) (some fd) reader) : s.SocketOpen := by
  refine ⟨fd, h.sockfd, ?_⟩
  rw [h.accounts.held_eq]
  simp [Ledger.heldOption]

/-- Between two calls. -/
theorem Inv.idle (hs : s.Inv) (hpc : s.pc = .idle) :
    ((s.ur.running = true ↔ s.SocketOpen) ∧ (s.ur.running = true ↔ s.ThreadLive)) ∧
      s.ur.stopRequested = false := by
  have hat := hs.atPc
  rw [AtPc, hpc] at hat
  rcases hat with h | ⟨fd, h⟩
  · have hoff : ¬ s.ur.running = true := by simp [h.running]
    refine ⟨⟨⟨fun hon => absurd hon hoff, ?_⟩, ⟨fun hon => absurd hon hoff, ?_⟩⟩,
      h.stopRequested⟩
    · rintro ⟨fd, hfd, -⟩
      rw [h.sockfd] at hfd
      contradiction
    · rintro ⟨hthread, -, -⟩
      rw [h.thread] at hthread
      contradiction
  · refine ⟨⟨⟨fun _ => h.socketOpen, fun _ => h.running⟩, ⟨fun _ => ?_, fun _ => h.running⟩⟩,
      h.stopRequested⟩
    refine ⟨h.thread, fun habsent => ?_, fun hexited => ?_⟩
    · rw [hs.thread.absent, h.thread] at habsent
      contradiction
    · have hrequested := hs.thread.exited hexited
      rw [h.stopRequested] at hrequested
      contradiction

/-- The ledger is accounted for at every place. -/
theorem AtPc.accounts (hat : s.AtPc) :
    ∃ now, Ledger.Accounts ReceiverResource.owner s.log now := by
  unfold AtPc at hat
  cases hpc : s.pc with
  | idle =>
      rw [hpc] at hat
      rcases hat with h | ⟨fd, h⟩
      · exact ⟨_, h.accounts⟩
      · exact ⟨_, h.accounts⟩
  | socket | unref | destroyed | bind | publish | createThread | unpublish | closeFailed
  | finish =>
      rw [hpc] at hat
      exact ⟨_, hat.accounts⟩
  | clearFailed | shutdown | join | close | clear =>
      rw [hpc] at hat
      obtain ⟨fd, h⟩ := hat
      exact ⟨_, h.accounts⟩

/-- A call that finds nothing to do. -/
theorem call_ignored {c : ReceiverCall} (hpc : s.pc = .idle)
    (hcall : c = .start ∧ s.ur.running = true ∨ c = .stop ∧ s.ur.running = false) :
    s.next (.call c) = some { s with entry := s.view, returned := some (c, 0) } := by
  rcases hcall with ⟨rfl, hrunning⟩ | ⟨rfl, hrunning⟩
  · simp only [next, hpc, if_true, Lifecycle.call, hrunning, returns]
  · simp only [next, hpc, if_true, Lifecycle.call, stop, hrunning, Bool.false_eq_true, if_false,
      afterStop, returns]

/-- Starts, stops and failures in any order keep to the contract, whatever the receiver
thread does meanwhile. -/
theorem lifecycle_settled (h : system.Reachable s) : s.Settled := by
  have hs := inv_reachable h
  obtain ⟨now, haccounts⟩ := hs.atPc.accounts
  refine {
    running := fun hpc => (hs.idle hpc).1
    notRequested := fun hpc => (hs.idle hpc).2
    failed := fun hpc hreturned => (hs.failed hpc hreturned).2.symm
    ignored := fun c hpc hcall => call_ignored hpc hcall
    sound := haccounts.sound
    last := hs.last
    closed := ?_
    reads := ?_
    exited := ?_ }
  · intro hpc fd
    have hat := hs.atPc
    rw [AtPc, hpc] at hat
    exact hat.accounts.released_once (.socket fd)
  · intro hpc
    have hthread := hs.thread_of_pc (by simp [hpc])
    obtain ⟨-, stopRequested, fd, h⟩ := hs.running_of_thread hthread
    refine ⟨h.socketOpen, h.handle.trans h.sockfd.symm, fd, h.handle, ?_⟩
    rw [h.accounts.held_eq]
    simp [Ledger.heldOption]
  · intro hpc
    exact hs.thread.requested (hs.thread_of_pc (by simp [hpc])) (hs.thread.exited hpc)

/-- A start whose port is taken, a session with two more starts in it, a start without a
thread, and the end of the receiver. -/
def twoSessions : List LifecycleAct :=
  [.call .start, .socket (some 7), .caller false, .call .stop,
    .call .start, .socket (some 7), .caller true, .caller true, .caller true,
    .receiver .playing .go, .receiver .playing .go, .call .start,
    .receiver .playing (.packet [0x80, 97]), .call .stop, .caller true,
    .receiver .playing .go, .receiver .playing .go, .receiver .playing .go,
    .receiver .playing .go, .receiver .playing .go, .caller true, .caller true, .caller true,
    .caller true, .call .start, .socket (some 8), .caller true, .caller true, .caller false,
    .caller true, .caller true, .caller true, .call .start, .socket (some 7), .caller true,
    .caller true, .caller true, .call .destroy, .caller true, .receiver .playing .go,
    .receiver .playing .go, .caller true, .caller true, .caller true, .caller true,
    .caller true]

/-- Four sockets and two threads, all of them gone in the end. -/
theorem lifecycle_settled_twoSessions : ∃ s, system.Reachable s ∧ s.pc = .destroyed ∧
    s.session = 2 ∧ s.log.length = 12 ∧ s.Settled := by
  have hrun : ((system.exec { ur := { vidPt := 97 }, entry := ({ vidPt := 97 }, none) }
      twoSessions).any fun s =>
        s.pc = .destroyed && s.session = 2 && s.log.length = 12) = true := by
    decide +kernel
  obtain ⟨s, hexec, hfields⟩ := (Option.any_eq_true _ _).mp hrun
  simp only [Bool.and_eq_true, decide_eq_true_eq] at hfields
  obtain ⟨⟨hpc, hsession⟩, hlog⟩ := hfields
  have hreach : system.Reachable s := System.reachable_of_exec ⟨97, rfl⟩ hexec
  exact ⟨s, hreach, hpc, hsession, hlog, lifecycle_settled hreach⟩

end Lifecycle

end Pipeline
end PixelPilot
