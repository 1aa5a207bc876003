import PixelPilot.Decoder.CopyPacket
import PixelPilot.Library.Transition

/-!
# Packets for the decoder

`video_decoder_feed` and `video_decoder_send_eos` put one packet object with one buffer into
MPP, over and over, in all runs of a decoder between `video_decoder_init` and
`video_decoder_deinit`.  The calls come one after another; the frame thread may end a run
while they go on.

Main results:

- Definition `packets`: the calls with their retry loops, one `decode_put_packet` a step.
- Theorem `packets_carry`: what a fed packet carries, the mark for the end of the stream
  apart.
- Theorem `feed_marked`: a packet fed after a restart has the mark.
- Theorem `feeds_unmarked`: the fed packets are right as long as none is put after the mark
  was set.

Current gaps:

- MPP keeps the mark on a packet, leaves a refused packet as it was, and may change the
  position and the length of an accepted one.
- The display thread and `reset` of MPP are left out: neither knows the packet.
-/

namespace PixelPilot
namespace Decoder

open Transition

/-! ## Packets -/

/-- `MppPacket`; `data` and `pos` are offsets into the packet buffer. -/
structure MppPacket where
  data : Nat := 0
  pos : Nat := 0
  size : Nat
  length : Nat
  pts : Int := 0
  dts : Int := 0
  eos : Bool := false
deriving DecidableEq, Repr

namespace MppPacket

/-- `mpp_packet_set_length`. -/
def setLength (p : MppPacket) (length : Nat) : MppPacket := { p with length }

/-- `mpp_packet_set_size`. -/
def setSize (p : MppPacket) (size : Nat) : MppPacket := { p with size }

/-- `mpp_packet_set_data`. -/
def setData (p : MppPacket) (data : Nat) : MppPacket := { p with data }

/-- `mpp_packet_set_pos`, which may change the length as well. -/
def setPos (p : MppPacket) (pos length : Nat) : MppPacket := { p with pos, length }

/-- `mpp_packet_set_pts`. -/
def setPts (p : MppPacket) (pts : Int) : MppPacket := { p with pts }

/-- `mpp_packet_set_dts`. -/
def setDts (p : MppPacket) (dts : Int) : MppPacket := { p with dts }

/-- `mpp_packet_set_eos`. -/
def setEos (p : MppPacket) : MppPacket := { p with eos := true }

end MppPacket

/-- `DECODER_READ_BUF_SIZE`. -/
def decoderReadBufSize : Nat := 1024 * 1024

/-! ## Timestamps -/

/-- `GST_CLOCK_TIME_NONE`. -/
def gstClockTimeNone : UInt64 := 0xFFFFFFFFFFFFFFFF

/-- The cast to `RK_S64`. -/
def toRkS64 (n : UInt64) : Int :=
  Int.bmod n.toNat 0x10000000000000000

/-- `gst_pts_to_mpp_timestamp`; `now` is what `get_time_ms` answers. -/
def gstPtsToMppTimestamp (pts now : UInt64) : Int :=
  if pts = gstClockTimeNone then toRkS64 now else toRkS64 (pts / 1000000)

/-- A valid time is converted to milliseconds. -/
theorem gstPtsToMppTimestamp_valid {pts : UInt64} (now : UInt64) (h : pts ≠ gstClockTimeNone) :
    gstPtsToMppTimestamp pts now = (pts.toNat / 1000000 : Nat) := by
  have hlt := pts.toNat_lt
  have hdiv : (pts / 1000000).toNat = pts.toNat / 1000000 := by
    rw [UInt64.toNat_div]
    rfl
  unfold gstPtsToMppTimestamp toRkS64
  rw [if_neg h, hdiv]
  exact Int.bmod_eq_of_le (by omega) (by omega)

/-! ## The decoder -/

/-- The arguments of `video_decoder_feed`, and the time. -/
structure FeedCall where
  data : List UInt8
  pts : UInt64
  now : UInt64
deriving DecidableEq, Repr

/-- What a call of `decode_put_packet` sees. -/
structure Submission where
  payload : List UInt8
  length : Nat
  pts : Int
  dts : Int
  eos : Bool
deriving DecidableEq, Repr

/-- Where the caller stands. -/
inductive PacketPc
  /-- Between two calls. -/
  | idle
  /-- In the loop of `video_decoder_feed`. -/
  | retry (call : FeedCall)
  /-- In the loop of `video_decoder_send_eos`, called by itself or in `video_decoder_stop`. -/
  | eos (attempts : Nat) (stopping : Bool)
  /-- At the joins of `video_decoder_stop`. -/
  | join
deriving DecidableEq, Repr

/-- The fields of `VideoDecoder` that the calls read and write. -/
structure PacketState where
  initialized : Bool
  running : Bool
  eosReceived : Bool
  packetBuf : List UInt8
  packetBufSize : Nat
  packet : MppPacket
  /-- The frame thread is there and has not executed its last critical section. -/
  frameThread : Bool
  pc : PacketPc
  /-- What `video_decoder_start` or `video_decoder_feed` has returned last. -/
  ret : Int
  /-- What `video_decoder_feed` has submitted, and for which call. -/
  submitted : List (FeedCall × Submission)
  /-- Has `video_decoder_send_eos` set the mark since `video_decoder_init`? -/
  eosSent : Bool
deriving DecidableEq, Repr

/-- The decoder as `video_decoder_init` leaves it. -/
def PacketState.initial : PacketState where
  initialized := true
  running := false
  eosReceived := false
  packetBuf := List.replicate decoderReadBufSize 0
  packetBufSize := decoderReadBufSize
  packet := { size := decoderReadBufSize, length := decoderReadBufSize }
  frameThread := false
  pc := .idle
  ret := 0
  submitted := []
  eosSent := false

/-- The answers of `decode_put_packet`. -/
inductive PutAnswer
  /-- `MPP_OK`, with what MPP leaves of the position and the length. -/
  | ok (pos length : Nat)
  /-- `MPP_ERR_BUFFER_FULL` or any other error. -/
  | refused
deriving DecidableEq, Repr

/-- A step of the caller or of the frame thread.  `posLength` is the length that
`mpp_packet_set_pos` leaves. -/
inductive PacketAct
  /-- `video_decoder_start`, and which threads are created. -/
  | start (frame display : Bool)
  | feed (call : FeedCall) (posLength : Nat)
  | sendEos (posLength : Nat)
  | stop (posLength : Nat)
  /-- One `decode_put_packet`. -/
  | put (answer : PutAnswer)
  /-- `video_decoder_feed` finds that the decoder does not run any more. -/
  | giveUp
  /-- The last critical section of the frame thread. -/
  | ended
  /-- The joins of `video_decoder_stop` return. -/
  | join
deriving DecidableEq, Repr

namespace PacketState

/-- `video_decoder_start`. -/
def start (s : PacketState) (frame display : Bool) : PacketState :=
  if !s.initialized then { s with ret := -1 }
  else if s.running then { s with ret := 0 }
  else
    let s := { s with running := true, eosReceived := false }
    if !frame then { s with running := false, ret := -1 }
    -- Without a display thread the frame thread is joined at once.
    else if !display then { s with running := false, ret := -1 }
    else { s with frameThread := true, ret := 0 }

/-- `video_decoder_feed`, up to its loop. -/
def feed (neon : Bool) (s : PacketState) (call : FeedCall) (posLength : Nat) : PacketState :=
  let size := call.data.length
  if !s.running then { s with ret := -1 }
  else if size = 0 ∨ size > s.packetBufSize then { s with ret := -1 }
  else
    let packetBuf := packetBufAfter neon s.packetBuf call.data
    let packet := (((s.packet.setLength 0).setSize s.packetBufSize).setData 0).setPos 0 posLength
    let packetPts := gstPtsToMppTimestamp call.pts call.now
    let packet := ((packet.setLength size).setPts packetPts).setDts packetPts
    { s with packetBuf, packet, pc := .retry call }

/-- `video_decoder_send_eos`, up to its loop. -/
def sendEos (s : PacketState) (posLength : Nat) (stopping : Bool) : PacketState :=
  let packet := (((s.packet.setLength 0).setSize s.packetBufSize).setData 0).setPos 0 posLength
  { s with packet := packet.setEos, pc := .eos 0 stopping, eosSent := true }

/-- `video_decoder_stop`, up to the loop of `video_decoder_send_eos` or the joins. -/
def stop (s : PacketState) (posLength : Nat) : PacketState :=
  let wasRunning := s.running
  let s := { s with running := false }
  if wasRunning then s.sendEos posLength true else { s with pc := .join }

/-- What `decode_put_packet` sees now. -/
def submission (s : PacketState) : Submission where
  payload := (s.packetBuf.drop s.packet.pos).take s.packet.length
  length := s.packet.length
  pts := s.packet.pts
  dts := s.packet.dts
  eos := s.packet.eos

/-- What MPP leaves of a packet that it accepts. -/
def consumed (s : PacketState) (pos length : Nat) : PacketState :=
  { s with packet := { s.packet with pos, length } }

/-- A `decode_put_packet` of either loop. -/
def put (s : PacketState) (answer : PutAnswer) : Option PacketState :=
  match s.pc with
  | .retry call =>
      if s.running then
        let s := { s with submitted := s.submitted ++ [(call, s.submission)] }
        match answer with
        | .ok pos length => some { s.consumed pos length with pc := .idle, ret := 0 }
        | .refused => some s
      else none
  | .eos attempts stopping =>
      let done := if stopping then PacketPc.join else .idle
      match answer with
      | .ok pos length => some { s.consumed pos length with pc := done }
      | .refused =>
          if attempts + 1 > 50 then some { s with pc := done }
          else some { s with pc := .eos (attempts + 1) stopping }
  | _ => none

/-- One step. -/
def next (neon : Bool) (s : PacketState) : PacketAct → Option PacketState
  | .start frame display => if s.pc = .idle then some (s.start frame display) else none
  | .feed call posLength => if s.pc = .idle then some (s.feed neon call posLength) else none
  | .sendEos posLength => if s.pc = .idle then some (s.sendEos posLength false) else none
  | .stop posLength => if s.pc = .idle then some (s.stop posLength) else none
  | .put answer => s.put answer
  | .giveUp =>
      match s.pc with
      | .retry _ => if s.running then none else some { s with pc := .idle, ret := -1 }
      | _ => none
  | .ended =>
      if s.frameThread then some { s with running := false, frameThread := false } else none
  | .join =>
      if s.pc = .join ∧ s.frameThread = false then some { s with pc := .idle } else none

end PacketState

/-- The runs of calls on an initialised decoder; `neon` is `PIXELPILOT_NEON_AVAILABLE`. -/
def packets (neon : Bool) : System PacketState PacketAct where
  init s := s = PacketState.initial
  next := PacketState.next neon

/-! ## What a fed packet carries -/

/-- The bytes, the length and the timestamps of the call. -/
structure Submission.Carries (b : Submission) (call : FeedCall) : Prop where
  payload : b.payload = call.data
  length : b.length = call.data.length
  pts : b.pts = gstPtsToMppTimestamp call.pts call.now
  dts : b.dts = gstPtsToMppTimestamp call.pts call.now

namespace PacketState

structure Inv (s : PacketState) : Prop where
  bufSize : s.packetBuf.length = s.packetBufSize
  /-- Nothing but `mpp_packet_set_eos` writes the mark. -/
  eos : s.packet.eos = s.eosSent
  /-- The packet stays as it is while MPP refuses it. -/
  retry : ∀ call, s.pc = .retry call → s.submission.Carries call
  submitted : ∀ x ∈ s.submitted, x.2.Carries x.1

variable {s t : PacketState} {neon : Bool}

theorem inv_initial : initial.Inv where
  bufSize := List.length_replicate
  eos := rfl
  retry call h := by contradiction
  submitted x hx := absurd hx List.not_mem_nil

/-- Where no packet is fed, only the mark and the size of the buffer matter. -/
theorem Inv.congr (hs : s.Inv) (hbuf : t.packetBuf = s.packetBuf)
    (hsize : t.packetBufSize = s.packetBufSize) (heos : t.packet.eos = t.eosSent)
    (hpc : ∀ call, t.pc ≠ .retry call) (hsubmitted : t.submitted = s.submitted) : t.Inv where
  bufSize := by rw [hbuf, hsize, hs.bufSize]
  eos := heos
  retry call h := absurd h (hpc call)
  submitted := hsubmitted ▸ hs.submitted

/-- A start keeps the invariant. -/
theorem Inv.start (hs : s.Inv) (hpc : s.pc = .idle) (frame display : Bool) :
    (s.start frame display).Inv := by
  have hidle : ∀ call, s.pc ≠ .retry call := by simp [hpc]
  unfold PacketState.start
  split
  · exact hs.congr rfl rfl hs.eos hidle rfl
  · split
    · exact hs.congr rfl rfl hs.eos hidle rfl
    · simp only
      split
      · exact hs.congr rfl rfl hs.eos hidle rfl
      · split
        · exact hs.congr rfl rfl hs.eos hidle rfl
        · exact hs.congr rfl rfl hs.eos hidle rfl

/-- What `video_decoder_feed` prepares. -/
theorem Inv.feed (hs : s.Inv) (hpc : s.pc = .idle) (call : FeedCall) (posLength : Nat) :
    (s.feed neon call posLength).Inv := by
  have hidle : ∀ call, s.pc ≠ .retry call := by simp [hpc]
  unfold PacketState.feed
  simp only
  split
  · exact hs.congr rfl rfl hs.eos hidle rfl
  · split
    · exact hs.congr rfl rfl hs.eos hidle rfl
    · rename_i hsize
      have hfits : call.data.length ≤ s.packetBuf.length := by
        rw [hs.bufSize]
        omega
      refine ⟨?_, hs.eos, ?_, hs.submitted⟩
      · rw [packetBufAfter_eq neon hfits, List.length_append, List.length_drop, ← hs.bufSize]
        omega
      · intro call' hcall
        cases hcall
        refine ⟨?_, rfl, rfl, rfl⟩
        simp only [submission, packetBufAfter_eq neon hfits]
        exact List.take_left

theorem Inv.sendEos (hs : s.Inv) (posLength : Nat) (stopping : Bool) :
    (s.sendEos posLength stopping).Inv :=
  hs.congr rfl rfl rfl (fun _ h => by contradiction) rfl

/-- A stop keeps the invariant. -/
theorem Inv.stop (hs : s.Inv) (posLength : Nat) : (s.stop posLength).Inv := by
  have hstopped : { s with running := false, pc := .join }.Inv :=
    hs.congr rfl rfl hs.eos (fun _ h => by contradiction) rfl
  unfold PacketState.stop
  simp only
  split
  · exact hs.congr rfl rfl rfl (fun _ h => by contradiction) rfl
  · exact hstopped

/-- An answer to a put keeps the invariant. -/
theorem Inv.put (hs : s.Inv) {answer : PutAnswer} (h : s.put answer = some t) : t.Inv := by
  unfold PacketState.put at h
  cases hpc : s.pc with
  | idle | join =>
      simp only [hpc] at h
      contradiction
  | retry call =>
      simp only [hpc] at h
      split at h
      · have hsubmitted : ∀ x ∈ s.submitted ++ [(call, s.submission)], x.2.Carries x.1 := by
          intro x hx
          rcases List.mem_append.mp hx with hx | hx
          · exact hs.submitted x hx
          · rw [List.mem_singleton.mp hx]
            exact hs.retry call hpc
        cases answer with
        | ok pos length =>
            cases h
            exact ⟨hs.bufSize, hs.eos, fun _ h => by contradiction, hsubmitted⟩
        | refused =>
            cases h
            exact ⟨hs.bufSize, hs.eos, hpc ▸ hs.retry, hsubmitted⟩
      · contradiction
  | eos attempts stopping =>
      have hdone : ∀ call, (if stopping then PacketPc.join else .idle) ≠ .retry call := by
        cases stopping <;> simp
      simp only [hpc] at h
      cases answer with
      | ok pos length =>
          cases h
          exact hs.congr rfl rfl hs.eos hdone rfl
      | refused =>
          simp only at h
          split at h
          · cases h
            exact hs.congr rfl rfl hs.eos hdone rfl
          · cases h
            exact hs.congr rfl rfl hs.eos (fun _ h => by contradiction) rfl

/-- Every step keeps the invariant. -/
theorem Inv.next (hs : s.Inv) {a : PacketAct} (h : s.next neon a = some t) : t.Inv := by
  cases a with
  | start frame display =>
      simp only [PacketState.next] at h
      split at h
      · rename_i hpc
        cases h
        exact hs.start hpc frame display
      · contradiction
  | feed call posLength =>
      simp only [PacketState.next] at h
      split at h
      · rename_i hpc
        cases h
        exact hs.feed hpc call posLength
      · contradiction
  | sendEos posLength =>
      simp only [PacketState.next] at h
      split at h
      · cases h
        exact hs.sendEos posLength false
      · contradiction
  | stop posLength =>
      simp only [PacketState.next] at h
      split at h
      · cases h
        exact hs.stop posLength
      · contradiction
  | put answer => exact hs.put h
  | giveUp =>
      simp only [PacketState.next] at h
      split at h
      · split at h
        · contradiction
        · cases h
          exact hs.congr rfl rfl hs.eos (fun _ h => by contradiction) rfl
      · contradiction
  | ended =>
      simp only [PacketState.next] at h
      split at h
      · cases h
        exact ⟨hs.bufSize, hs.eos, hs.retry, hs.submitted⟩
      · contradiction
  | join =>
      simp only [PacketState.next] at h
      split at h
      · cases h
        exact hs.congr rfl rfl hs.eos (fun _ h => by contradiction) rfl
      · contradiction

end PacketState

/-- The invariant holds in every reachable state. -/
theorem packetInv {neon : Bool} {s : PacketState} (h : (packets neon).Reachable s) : s.Inv := by
  refine h.invariant PacketState.Inv ?_ (fun s t a hs _ hnext => hs.next hnext)
  rintro s rfl
  exact PacketState.inv_initial

/-- In every run each packet carries the bytes, the length and the timestamps of its call,
also after a restart. -/
theorem packets_carry {neon : Bool} {s : PacketState} (h : (packets neon).Reachable s) :
    ∀ x ∈ s.submitted, x.2.Carries x.1 :=
  (packetInv h).submitted

/-! ## The mark for the end of the stream -/

/-- Every fed packet carries what it should, and no mark. -/
def PacketState.Faithful (s : PacketState) : Prop :=
  ∀ x ∈ s.submitted, x.2.Carries x.1 ∧ x.2.eos = false

/-- The step condition: `video_decoder_feed` puts no packet after `video_decoder_send_eos`
has run. -/
def PutsBeforeEos (s : PacketState) (a : PacketAct) : Prop :=
  ∀ answer call, a = .put answer → s.pc = .retry call → s.eosSent = false

/-- A put of `video_decoder_feed` submits the packet. -/
theorem PacketState.put_submitted {s t : PacketState} {answer : PutAnswer} {call : FeedCall}
    (hpc : s.pc = .retry call) (h : s.put answer = some t) :
    t.submitted = s.submitted ++ [(call, s.submission)] := by
  unfold PacketState.put at h
  simp only [hpc] at h
  split at h
  · cases answer with
    | ok pos length =>
        cases h
        rfl
    | refused =>
        cases h
        rfl
  · contradiction

/-- No other step submits anything for `video_decoder_feed`. -/
theorem PacketState.next_submitted {neon : Bool} {s t : PacketState} {a : PacketAct}
    (h : s.next neon a = some t)
    (hother : ∀ answer call, a = .put answer → s.pc ≠ .retry call) :
    t.submitted = s.submitted := by
  cases a with
  | start frame display =>
      simp only [PacketState.next, Option.ite_none_right_eq_some, Option.some.injEq] at h
      obtain ⟨-, rfl⟩ := h
      simp only [PacketState.start]
      repeat' split
      all_goals rfl
  | feed call posLength =>
      simp only [PacketState.next, Option.ite_none_right_eq_some, Option.some.injEq] at h
      obtain ⟨-, rfl⟩ := h
      simp only [PacketState.feed]
      repeat' split
      all_goals rfl
  | sendEos posLength =>
      simp only [PacketState.next, Option.ite_none_right_eq_some, Option.some.injEq] at h
      obtain ⟨-, rfl⟩ := h
      rfl
  | stop posLength =>
      simp only [PacketState.next, Option.ite_none_right_eq_some, Option.some.injEq] at h
      obtain ⟨-, rfl⟩ := h
      simp only [PacketState.stop]
      split <;> rfl
  | put answer =>
      simp only [PacketState.next, PacketState.put] at h
      cases hpc : s.pc with
      | idle | join =>
          simp only [hpc] at h
          contradiction
      | retry call => exact absurd hpc (hother answer call rfl)
      | eos attempts stopping =>
          simp only [hpc] at h
          cases answer with
          | ok pos length =>
              cases h
              rfl
          | refused =>
              simp only at h
              split at h
              · cases h
                rfl
              · cases h
                rfl
  | giveUp =>
      simp only [PacketState.next] at h
      split at h
      · split at h
        · contradiction
        · cases h
          rfl
      · contradiction
  | ended | join =>
      simp only [PacketState.next, Option.ite_none_right_eq_some, Option.some.injEq] at h
      obtain ⟨-, rfl⟩ := h
      rfl

/-- A put in front of the mark keeps the packets faithful. -/
theorem PacketState.Faithful.next {neon : Bool} {s t : PacketState} {a : PacketAct}
    (hinv : s.Inv) (hs : s.Faithful) (hok : PutsBeforeEos s a) (h : s.next neon a = some t) :
    t.Faithful := by
  by_cases hput : ∃ answer call, a = .put answer ∧ s.pc = .retry call
  · obtain ⟨answer, call, rfl, hpc⟩ := hput
    intro x hx
    rw [put_submitted hpc h] at hx
    rcases List.mem_append.mp hx with hx | hx
    · exact hs x hx
    · rw [List.mem_singleton.mp hx]
      exact ⟨hinv.retry call hpc, hinv.eos.trans (hok answer call rfl hpc)⟩
  · have hsame : t.submitted = s.submitted :=
      next_submitted h fun answer call ha hpc => hput ⟨answer, call, ha, hpc⟩
    intro x hx
    rw [hsame] at hx
    exact hs x hx

/-- A packet that is put after the mark was set has it. -/
theorem PacketState.marked_put {neon : Bool} {s t : PacketState} {a : PacketAct} (hinv : s.Inv)
    (h : s.next neon a = some t) (hbad : ¬ PutsBeforeEos s a) : ¬ t.Faithful := by
  unfold PutsBeforeEos at hbad
  simp only [Classical.not_forall] at hbad
  obtain ⟨answer, call, rfl, hpc, hsent⟩ := hbad
  intro hfaithful
  have hlast : (call, s.submission) ∈ t.submitted := by
    rw [put_submitted hpc h]
    exact List.mem_append_right _ List.mem_cons_self
  have hunmarked : s.packet.eos = false := (hfaithful _ hlast).2
  rw [hinv.eos] at hunmarked
  exact hsent hunmarked

/-! ## A restart -/

/-- A run that is stopped, and a second one with one packet. -/
def restartedFeed : List PacketAct :=
  [.start true true, .stop 0, .put (.ok 0 0), .ended, .join, .start true true,
    .feed { data := [0, 0, 1], pts := 40000000, now := 7 } 0, .put (.ok 3 0)]

/-- The first packet of the second run is marked as the end of the stream. -/
theorem feed_marked : ∃ s, (packets true).Reachable s ∧ ¬ s.Faithful := by
  have hrun : ((packets true).exec PacketState.initial restartedFeed).map
      (fun s => s.submitted.map fun x => x.2.eos) = some [true] := by
    rfl
  rw [Option.map_eq_some_iff] at hrun
  obtain ⟨s, hexec, hmarks⟩ := hrun
  refine ⟨s, System.reachable_of_exec rfl hexec, fun hfaithful => ?_⟩
  have hmarked : true ∈ s.submitted.map fun x => x.2.eos := by simp [hmarks]
  obtain ⟨x, hx, heos⟩ := List.mem_map.mp hmarked
  rw [(hfaithful x hx).2] at heos
  contradiction

/-! ## Fed packets -/

/-- The fed packets are right in the runs that feed none after the mark was set, and a packet
that is put later has the mark. -/
theorem feeds_unmarked (neon : Bool) (s : PacketState) :
    ((packets neon).ReachableUnder PutsBeforeEos s → s.Faithful) ∧
      (∀ t a, (packets neon).Reachable s → (packets neon).next s a = some t →
        ¬ PutsBeforeEos s a → ¬ t.Faithful) := by
  refine ⟨fun h => ?_, fun t a hs hnext hbad => PacketState.marked_put (packetInv hs) hnext hbad⟩
  refine h.invariant_on PacketState.Inv PacketState.Faithful
    (fun s hs => packetInv hs.reachable) ?_ ?_
  · rintro s rfl x hx
    exact absurd hx List.not_mem_nil
  · intro s t a hinv hs hok hnext
    exact PacketState.Faithful.next hinv hs hok hnext

/-- Two packets of one run, one of them put twice; and the first packet after a restart. -/
theorem feeds_unmarked_runs :
    (∃ s : PacketState, s.submitted.length = 3 ∧ s.Faithful) ∧
      (∃ s t : PacketState, (packets true).next s (.put (.ok 3 0)) = some t ∧ ¬ t.Faithful) := by
  constructor
  · have hrun : ((packets true).execChecked (fun s _ => !s.eosSent) PacketState.initial
        [.start true true, .feed { data := [0, 0, 1], pts := 40000000, now := 7 } 0,
          .put .refused, .put (.ok 3 0),
          .feed { data := [2], pts := gstClockTimeNone, now := 9 } 0, .put (.ok 0 0)]).map
        (fun s => s.submitted.length) = some 3 := by
      rfl
    rw [Option.map_eq_some_iff] at hrun
    obtain ⟨s, hexec, hlength⟩ := hrun
    have hinit : (packets true).ReachableUnder PutsBeforeEos PacketState.initial := .init rfl
    have hreach : (packets true).ReachableUnder PutsBeforeEos s := by
      refine hinit.execChecked ?_ hexec
      intro s a hcheck answer call _ _
      simpa using hcheck
    exact ⟨s, hlength, (feeds_unmarked true s).1 hreach⟩
  · have hrun : ((packets true).exec PacketState.initial restartedFeed.dropLast).map
        (fun s => (s.pc, s.running, s.eosSent)) =
        some (.retry { data := [0, 0, 1], pts := 40000000, now := 7 }, true, true) := by
      rfl
    rw [Option.map_eq_some_iff] at hrun
    obtain ⟨s, hexec, hstate⟩ := hrun
    simp only [Prod.mk.injEq] at hstate
    obtain ⟨hpc, hrunning, hsent⟩ := hstate
    have hreach : (packets true).Reachable s := System.reachable_of_exec rfl hexec
    obtain ⟨t, hnext⟩ : ∃ t, (packets true).next s (.put (.ok 3 0)) = some t := by
      simp [packets, PacketState.next, PacketState.put, hpc, hrunning]
    refine ⟨s, t, hnext, (feeds_unmarked true s).2 t _ hreach hnext fun hok => ?_⟩
    have hunsent := hok _ _ rfl hpc
    rw [hsent] at hunsent
    contradiction

end Decoder
end PixelPilot
