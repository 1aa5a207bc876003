import PixelPilot.Pipeline.UdpReceiver

/-!
# From datagrams to buffers

`receiver_thread` with its data: the packet buffer, the memory of the GStreamer buffers it
is copied to, and what becomes of each buffer.

Main results:

- Definition `ReceiverLoop.turn`: a turn of the loop of `receiver_thread`.
- Definition `Outcome`: what a turn does with its datagram.
- Theorem `turn_outcome`: every turn has an outcome that its answers explain.
- Theorem `turn_pushes`: a datagram that is wanted is pushed if nothing fails.
- Theorem `receiverThread_outcomes`: what is pushed, missing and released over a whole run.
- Theorem `datagrams_altered`: what is missing and cut although nothing fails.

Current gaps:

- What a full pool does to the thread is not modelled here; see `Receiver.next`.
-/

namespace PixelPilot
namespace Pipeline

/-- `UDP_MAX_PACKET`. -/
def udpMaxPacket : Nat := 4096

/-- A `GstBuffer` and its memory. -/
structure GstBufferMemory where
  id : Nat
  memory : List UInt8
deriving DecidableEq, Repr

/-- What happens to buffers in the hands of the thread; `bytes` is what a pushed buffer
holds. -/
inductive BufferEvent
  | acquired (id : Nat)
  | unref (id : Nat)
  | pushed (id : Nat) (bytes : List UInt8)
deriving DecidableEq, Repr

/-- The answers of the system to one turn of the loop. -/
structure Answers where
  /-- `stop_requested`, read at the head of the loop. -/
  stop : Bool
  /-- The datagram `recv` reads, or none if it fails. -/
  received : Option (List UInt8)
  /-- The answer of the calls that create or activate the pool. -/
  poolReady : Bool
  /-- The buffer of `gst_buffer_pool_acquire_buffer`, or none if it fails. -/
  acquired : Option GstBufferMemory
  /-- The buffer of `gst_buffer_new_allocate`, or none if it fails. -/
  allocated : Option GstBufferMemory
  /-- The answer of `gst_buffer_map`. -/
  mapped : Bool
deriving DecidableEq, Repr

/-- The thread at the head of its loop. -/
structure ReceiverLoop where
  ur : Receiver
  buffer : List UInt8
  log : List BufferEvent
deriving DecidableEq, Repr

namespace ReceiverLoop

/-- The end of a turn, for a buffer and the length of the datagram. -/
def fill (s : ReceiverLoop) (gstBuf : GstBufferMemory) (n : Nat) (mapped : Bool) : ReceiverLoop :=
  if mapped then
    if gstBuf.memory.length < n then
      { s with log := s.log ++ [.acquired gstBuf.id, .unref gstBuf.id] }
    else
      let data := s.buffer.take n ++ gstBuf.memory.drop n
      -- `gst_buffer_set_size` leaves the first `n` bytes.
      { s with log := s.log ++ [.acquired gstBuf.id, .pushed gstBuf.id (data.take n)] }
  else { s with log := s.log ++ [.acquired gstBuf.id, .unref gstBuf.id] }

/-- A turn of the loop of `receiver_thread` that is not told to stop. -/
def turn (s : ReceiverLoop) (a : Answers) : ReceiverLoop :=
  match a.received with
  | none => s
  | some datagram =>
      let n := min datagram.length udpMaxPacket
      -- `recv` overwrites the beginning of the packet buffer.
      let s := { s with buffer := datagram.take udpMaxPacket ++ s.buffer.drop n }
      if n = 0 then s
      else if payloadTypeMatches (s.buffer.take n) s.ur.vidPt = false then s
      else
        let ensured := s.ur.ensureBufferPool a.poolReady
        let s := { s with ur := ensured.1 }
        match (if ensured.2 then a.acquired else none).or a.allocated with
        | none => s
        | some gstBuf => s.fill gstBuf n a.mapped

/-- The loop of `receiver_thread`. -/
def run : List Answers → ReceiverLoop → ReceiverLoop
  | [], s => s
  | a :: answers, s => if a.stop then s else run answers (s.turn a)

end ReceiverLoop

/-- `receiver_thread`, for the packet buffer that `g_malloc` returns, if any. -/
def receiverThread (packetBuffer : Option (List UInt8)) (ur : Receiver)
    (answers : List Answers) : ReceiverLoop :=
  match packetBuffer with
  | none => { ur, buffer := [], log := [] }
  | some buffer => ReceiverLoop.run answers { ur, buffer, log := [] }

/-- The turns that `receiver_thread` makes. -/
def turnsMade (packetBuffer : Option (List UInt8)) (answers : List Answers) : List Answers :=
  match packetBuffer with
  | none => []
  | some _ => answers.takeWhile fun a => !a.stop

/-! ## What a turn does with its datagram -/

/-- The datagrams that are wanted: all if no payload type is set, else those of at least
two bytes with the payload type in the low seven bits of the second. -/
def Expected (vidPt : Int) (datagram : List UInt8) : Prop :=
  vidPt < 0 ∨ ∃ first second rest, datagram = first :: second :: rest ∧
    ((second &&& 0x7F).toNat : Int) = vidPt

/-- What became of a datagram. -/
inductive Outcome
  /-- None was received, or none that is wanted. -/
  | ignored
  /-- No buffer could be had. -/
  | noBuffer
  | notMapped (id : Nat)
  | tooSmall (id : Nat)
  | pushed (id : Nat) (bytes : List UInt8)
deriving DecidableEq, Repr

namespace Outcome

/-- What the outcome leaves in the log. -/
def events : Outcome → List BufferEvent
  | ignored | noBuffer => []
  | notMapped id | tooSmall id => [.acquired id, .unref id]
  | pushed id bytes => [.acquired id, .pushed id bytes]

/-- The answers of the system that lead to an outcome. -/
def Explains (vidPt : Int) (a : Answers) : Outcome → Prop
  | ignored => ∀ datagram, a.received = some datagram → datagram = [] ∨ ¬ Expected vidPt datagram
  | noBuffer => a.allocated = none ∧ (a.poolReady = false ∨ a.acquired = none)
  | notMapped _ => a.mapped = false
  | tooSmall id => ∃ gstBuf datagram, (a.acquired = some gstBuf ∨ a.allocated = some gstBuf) ∧
      gstBuf.id = id ∧ a.received = some datagram ∧
      gstBuf.memory.length < (datagram.take udpMaxPacket).length
  | pushed _ bytes => ∃ datagram, a.received = some datagram ∧ datagram ≠ [] ∧
      Expected vidPt datagram ∧ bytes = datagram.take udpMaxPacket

end Outcome

/-- A datagram matches if the payload type is the expected one. -/
theorem payloadTypeMatches_iff {vidPt : Int} (hvidPt : vidPt < 0 ∨ 0 ≤ vidPt ∧ vidPt ≤ 127)
    (datagram : List UInt8) :
    payloadTypeMatches datagram vidPt = true ↔ Expected vidPt datagram := by
  unfold payloadTypeMatches Expected
  rcases hvidPt with hneg | ⟨hlow, hhigh⟩
  · simp [hneg]
  · have htype : ((UInt8.ofInt vidPt).toNat : Int) = vidPt := by
      unfold UInt8.ofInt
      rw [UInt8.toNat_ofNat']
      omega
    rw [if_neg (by omega)]
    constructor
    · intro h
      right
      split at h
      · rename_i first second rest
        refine ⟨first, second, rest, rfl, ?_⟩
        rw [beq_iff_eq.mp h, htype]
      · contradiction
    · rintro (hneg | ⟨first, second, rest, rfl, hsecond⟩)
      · omega
      · simp only [beq_iff_eq]
        rw [← UInt8.toNat_inj]
        omega

/-- The payload type stands in the part of a datagram that is read. -/
theorem payloadTypeMatches_take (datagram : List UInt8) (vidPt : Int) :
    payloadTypeMatches (datagram.take udpMaxPacket) vidPt =
      payloadTypeMatches datagram vidPt := by
  match datagram with
  | [] | [_] | _ :: _ :: _ => rfl

/-! ## One turn -/

/-- The part of the packet buffer that `recv` has written. -/
theorem take_received (datagram old : List UInt8) :
    (datagram.take udpMaxPacket ++ old.drop (min datagram.length udpMaxPacket)).take
        (min datagram.length udpMaxPacket) = datagram.take udpMaxPacket := by
  have hlength : (datagram.take udpMaxPacket).length = min datagram.length udpMaxPacket := by
    rw [List.length_take, Nat.min_comm]
  rw [← hlength, List.take_left]

/-- A buffer that is filled holds the datagram and nothing of what was there before. -/
theorem fill_pushes {s : ReceiverLoop} {gstBuf : GstBufferMemory} {datagram : List UInt8}
    (hbuffer : s.buffer.take (min datagram.length udpMaxPacket) = datagram.take udpMaxPacket)
    (hroom : (datagram.take udpMaxPacket).length ≤ gstBuf.memory.length) :
    (s.fill gstBuf (min datagram.length udpMaxPacket) true).log =
      s.log ++ [.acquired gstBuf.id, .pushed gstBuf.id (datagram.take udpMaxPacket)] := by
  have hlength : min datagram.length udpMaxPacket = (datagram.take udpMaxPacket).length := by
    rw [List.length_take, Nat.min_comm]
  unfold ReceiverLoop.fill
  rw [if_pos rfl, hbuffer, hlength, if_neg (by omega)]
  simp only [List.take_left]

theorem fill_ur (s : ReceiverLoop) (gstBuf : GstBufferMemory) (n : Nat) (mapped : Bool) :
    (s.fill gstBuf n mapped).ur = s.ur := by
  unfold ReceiverLoop.fill
  by_cases hmapped : mapped = true
  · rw [if_pos hmapped]
    by_cases hsmall : gstBuf.memory.length < n
    · rw [if_pos hsmall]
    · rw [if_neg hsmall]
  · rw [if_neg hmapped]

/-- What becomes of an expected datagram once there is a buffer for it. -/
theorem fill_outcome {vidPt : Int} {s : ReceiverLoop} {a : Answers} {gstBuf : GstBufferMemory}
    {datagram : List UInt8} (hreceived : a.received = some datagram) (hne : datagram ≠ [])
    (hexpected : Expected vidPt datagram)
    (hbuffer : s.buffer.take (min datagram.length udpMaxPacket) = datagram.take udpMaxPacket)
    (hgstBuf : a.acquired = some gstBuf ∨ a.allocated = some gstBuf) :
    ∃ o : Outcome, o.Explains vidPt a ∧
      (s.fill gstBuf (min datagram.length udpMaxPacket) a.mapped).log = s.log ++ o.events ∧
      (s.fill gstBuf (min datagram.length udpMaxPacket) a.mapped).ur = s.ur := by
  have hlength : min datagram.length udpMaxPacket = (datagram.take udpMaxPacket).length := by
    rw [List.length_take, Nat.min_comm]
  by_cases hmapped : a.mapped = true
  · rw [hmapped]
    by_cases hsmall : gstBuf.memory.length < (datagram.take udpMaxPacket).length
    · refine ⟨.tooSmall gstBuf.id, ⟨gstBuf, datagram, hgstBuf, rfl, hreceived, hsmall⟩, ?_,
        fill_ur s gstBuf _ _⟩
      unfold ReceiverLoop.fill
      rw [if_pos rfl, if_pos (by omega)]
      rfl
    · exact ⟨.pushed gstBuf.id (datagram.take udpMaxPacket),
        ⟨datagram, hreceived, hne, hexpected, rfl⟩,
        fill_pushes hbuffer (Nat.le_of_not_lt hsmall), fill_ur s gstBuf _ _⟩
  · have hunmapped := Bool.eq_false_iff.mpr hmapped
    rw [hunmapped]
    exact ⟨.notMapped gstBuf.id, hunmapped, rfl, fill_ur s gstBuf _ _⟩

/-- The pool is there once the calls that set it up succeed. -/
theorem ensureBufferPool_ready {r : Receiver} {ok : Bool} (hok : ok = true) :
    (r.ensureBufferPool ok).2 = true := by
  unfold Receiver.ensureBufferPool
  subst hok
  cases r.pool <;> cases r.poolActive <;> rfl

/-- Every turn has an outcome that its answers explain. -/
theorem turn_outcome {vidPt : Int} (hvidPt : vidPt < 0 ∨ 0 ≤ vidPt ∧ vidPt ≤ 127)
    (s : ReceiverLoop) (hur : s.ur.vidPt = vidPt) (a : Answers) :
    ∃ o : Outcome, o.Explains vidPt a ∧ (s.turn a).log = s.log ++ o.events ∧
      (s.turn a).ur.vidPt = vidPt := by
  have hignored : ∀ t : ReceiverLoop, t.log = s.log → t.ur = s.ur →
      (∀ datagram, a.received = some datagram → datagram = [] ∨ ¬ Expected vidPt datagram) →
      ∃ o : Outcome, o.Explains vidPt a ∧ t.log = s.log ++ o.events ∧ t.ur.vidPt = vidPt := by
    intro t hlog hsame hnone
    refine ⟨.ignored, hnone, ?_, hsame ▸ hur⟩
    rw [hlog]
    exact (List.append_nil _).symm
  unfold ReceiverLoop.turn
  cases hreceived : a.received with
  | none => exact hignored s rfl rfl fun datagram hsome => by rw [hreceived] at hsome; contradiction
  | some datagram =>
      simp only [take_received, payloadTypeMatches_take]
      by_cases hempty : min datagram.length udpMaxPacket = 0
      · rw [if_pos hempty]
        refine hignored _ rfl rfl fun d hd => ?_
        rw [hreceived] at hd
        cases hd
        left
        unfold udpMaxPacket at hempty
        exact List.eq_nil_of_length_eq_zero (by omega)
      · rw [if_neg hempty]
        have hne : datagram ≠ [] := by
          rintro rfl
          exact hempty rfl
        by_cases hmatch : payloadTypeMatches datagram s.ur.vidPt = false
        · rw [if_pos hmatch]
          refine hignored _ rfl rfl fun d hd => ?_
          rw [hreceived] at hd
          cases hd
          right
          rw [← payloadTypeMatches_iff hvidPt, ← hur, hmatch]
          exact Bool.false_ne_true
        · rw [if_neg hmatch]
          have hexpected : Expected vidPt datagram := by
            rw [← payloadTypeMatches_iff hvidPt, ← hur]
            exact Bool.of_not_eq_false hmatch
          obtain ⟨-, -, hkept, -, -⟩ := ensureBufferPool_spec s.ur a.poolReady
          cases hgstBuf : (if (s.ur.ensureBufferPool a.poolReady).2 then a.acquired
              else none).or a.allocated with
          | none =>
              obtain ⟨hpooled, hallocated⟩ := Option.or_eq_none_iff.mp hgstBuf
              refine ⟨.noBuffer, ⟨hallocated, ?_⟩, (List.append_nil _).symm, hkept.trans hur⟩
              by_cases hensured : (s.ur.ensureBufferPool a.poolReady).2 = true
              · rw [if_pos hensured] at hpooled
                exact .inr hpooled
              · left
                exact Bool.eq_false_iff.mpr fun hready => hensured (ensureBufferPool_ready hready)
          | some gstBuf =>
              have hsource : a.acquired = some gstBuf ∨ a.allocated = some gstBuf := by
                rcases Option.or_eq_some_iff.mp hgstBuf with hpooled | ⟨-, hallocated⟩
                · split at hpooled
                  · exact .inl hpooled
                  · contradiction
                · exact .inr hallocated
              let t : ReceiverLoop := {
                ur := (s.ur.ensureBufferPool a.poolReady).1
                buffer := datagram.take udpMaxPacket ++
                  s.buffer.drop (min datagram.length udpMaxPacket)
                log := s.log }
              obtain ⟨o, hexplains, hlog, hsame⟩ := fill_outcome (s := t) hreceived hne hexpected
                (take_received datagram s.buffer) hsource
              exact ⟨o, hexplains, hlog, by rw [hsame]; exact hkept.trans hur⟩

/-- A datagram that is wanted is pushed if nothing fails. -/
theorem turn_pushes {s : ReceiverLoop} {a : Answers} {gstBuf : GstBufferMemory}
    {datagram : List UInt8} (hreceived : a.received = some datagram) (hne : datagram ≠ [])
    (hmatch : payloadTypeMatches datagram s.ur.vidPt = true) (hready : a.poolReady = true)
    (hacquired : a.acquired = some gstBuf) (hmapped : a.mapped = true)
    (hroom : udpMaxPacket ≤ gstBuf.memory.length) :
    (s.turn a).log =
      s.log ++ [.acquired gstBuf.id, .pushed gstBuf.id (datagram.take udpMaxPacket)] := by
  have hlength : 0 < datagram.length := List.length_pos_iff.mpr hne
  have hpacket : 0 < udpMaxPacket := by decide
  have htaken : (datagram.take udpMaxPacket).length ≤ udpMaxPacket := List.length_take_le _ _
  unfold ReceiverLoop.turn
  rw [hreceived]
  simp only [take_received, payloadTypeMatches_take]
  rw [if_neg (by omega), if_neg (by simp [hmatch]), ensureBufferPool_ready hready,
    if_pos rfl, hacquired, Option.some_or, hmapped]
  exact fill_pushes (take_received datagram s.buffer) (Nat.le_trans htaken hroom)

/-! ## The whole run -/

/-- What the thread has pushed, in order. -/
def pushedBytes (log : List BufferEvent) : List (List UInt8) :=
  log.filterMap fun
    | .pushed _ bytes => some bytes
    | _ => none

theorem pushedBytes_append (log log' : List BufferEvent) :
    pushedBytes (log ++ log') = pushedBytes log ++ pushedBytes log' :=
  List.filterMap_append

/-- The event takes a buffer out of the hands of the thread. -/
def BufferEvent.gives (id : Nat) : BufferEvent → Bool
  | .acquired _ => false
  | .unref i | .pushed i _ => i == id

/-- Every turn of the loop has its outcome. -/
theorem run_outcomes {vidPt : Int} (hvidPt : vidPt < 0 ∨ 0 ≤ vidPt ∧ vidPt ≤ 127)
    (answers : List Answers) (s : ReceiverLoop) (hur : s.ur.vidPt = vidPt) :
    ∃ outcomes : List Outcome,
      List.Forall₂ (fun a o => Outcome.Explains vidPt a o)
        (answers.takeWhile fun a => !a.stop) outcomes ∧
      (ReceiverLoop.run answers s).log = s.log ++ outcomes.flatMap Outcome.events := by
  induction answers generalizing s with
  | nil => exact ⟨[], .nil, (List.append_nil _).symm⟩
  | cons a answers ih =>
      unfold ReceiverLoop.run
      by_cases hstop : a.stop = true
      · rw [if_pos hstop, List.takeWhile_cons_of_neg (by simp [hstop])]
        exact ⟨[], .nil, (List.append_nil _).symm⟩
      · rw [if_neg hstop, List.takeWhile_cons_of_pos (by simp [hstop])]
        obtain ⟨o, hexplains, hlog, hturn⟩ := turn_outcome hvidPt s hur a
        obtain ⟨outcomes, hall, hrun⟩ := ih (s.turn a) hturn
        refine ⟨o :: outcomes, .cons hexplains hall, ?_⟩
        rw [hrun, hlog, List.append_assoc]
        rfl

/-- What is pushed was received, in the same order, and was wanted. -/
theorem outcomes_pushed {vidPt : Int} {answers : List Answers} {outcomes : List Outcome}
    (hall : List.Forall₂ (fun a o => Outcome.Explains vidPt a o) answers outcomes) :
    ∃ datagrams : List (List UInt8),
      datagrams.Sublist (answers.filterMap Answers.received) ∧
      (∀ datagram ∈ datagrams, Expected vidPt datagram) ∧
      pushedBytes (outcomes.flatMap Outcome.events) = datagrams.map (List.take udpMaxPacket) := by
  induction hall with
  | nil => exact ⟨[], List.Sublist.refl _, by simp, rfl⟩
  | @cons a o answers outcomes hexplains hall ih =>
      obtain ⟨datagrams, hsublist, hexpected, hpushed⟩ := ih
      rw [List.flatMap_cons, pushedBytes_append, hpushed]
      have hdropped : pushedBytes o.events = [] → ∃ datagrams' : List (List UInt8),
          datagrams'.Sublist ((a :: answers).filterMap Answers.received) ∧
          (∀ datagram ∈ datagrams', Expected vidPt datagram) ∧
          pushedBytes o.events ++ datagrams.map (List.take udpMaxPacket) =
            datagrams'.map (List.take udpMaxPacket) := by
        intro hnone
        refine ⟨datagrams, ?_, hexpected, ?_⟩
        · exact hsublist.trans ((List.sublist_cons_self a answers).filterMap _)
        · rw [hnone, List.nil_append]
      cases o with
      | ignored | noBuffer | notMapped | tooSmall => exact hdropped rfl
      | pushed id bytes =>
          obtain ⟨datagram, hreceived, -, hwanted, hbytes⟩ := hexplains
          refine ⟨datagram :: datagrams, ?_, ?_, ?_⟩
          · rw [List.filterMap_cons_some hreceived]
            exact hsublist.cons_cons datagram
          · intro d hd
            rcases List.mem_cons.mp hd with rfl | hd
            · exact hwanted
            · exact hexpected d hd
          · rw [List.map_cons, ← hbytes]
            rfl

/-- Every buffer that is acquired is given away once. -/
theorem outcomes_released (outcomes : List Outcome) (id : Nat) :
    (outcomes.flatMap Outcome.events).countP (BufferEvent.gives id) =
      (outcomes.flatMap Outcome.events).count (.acquired id) := by
  induction outcomes with
  | nil => rfl
  | cons o outcomes ih =>
      rw [List.flatMap_cons, List.countP_append, List.count_append, ih, Nat.add_right_cancel_iff]
      cases o with
      | ignored | noBuffer => rfl
      | notMapped i | tooSmall i | pushed i bytes =>
          simp [Outcome.events, BufferEvent.gives, List.countP_cons, List.count_cons]

/-- Every datagram is pushed, cut to the packet buffer, or has a failure or its payload type
to explain why not; every buffer that is not pushed is released. -/
theorem receiverThread_outcomes {vidPt : Int} (hvidPt : vidPt < 0 ∨ 0 ≤ vidPt ∧ vidPt ≤ 127)
    (packetBuffer : Option (List UInt8)) (ur : Receiver) (hur : ur.vidPt = vidPt)
    (answers : List Answers) :
    ∃ outcomes : List Outcome,
      List.Forall₂ (fun a o => Outcome.Explains vidPt a o)
        (turnsMade packetBuffer answers) outcomes ∧
      (receiverThread packetBuffer ur answers).log = outcomes.flatMap Outcome.events ∧
      (∃ datagrams : List (List UInt8),
        datagrams.Sublist ((turnsMade packetBuffer answers).filterMap Answers.received) ∧
        (∀ datagram ∈ datagrams, Expected vidPt datagram) ∧
        pushedBytes (receiverThread packetBuffer ur answers).log =
          datagrams.map (List.take udpMaxPacket)) ∧
      ∀ id, (receiverThread packetBuffer ur answers).log.countP (BufferEvent.gives id) =
        (receiverThread packetBuffer ur answers).log.count (.acquired id) := by
  have hrun : ∃ outcomes : List Outcome,
      List.Forall₂ (fun a o => Outcome.Explains vidPt a o)
        (turnsMade packetBuffer answers) outcomes ∧
      (receiverThread packetBuffer ur answers).log = outcomes.flatMap Outcome.events := by
    cases packetBuffer with
    | none => exact ⟨[], .nil, rfl⟩
    | some buffer => exact run_outcomes hvidPt answers { ur, buffer, log := [] } hur
  obtain ⟨outcomes, hall, hlog⟩ := hrun
  refine ⟨outcomes, hall, hlog, ?_, ?_⟩
  · rw [hlog]
    exact outcomes_pushed hall
  · intro id
    rw [hlog]
    exact outcomes_released outcomes id

/-- A run of four turns. -/
def mixedAnswers : List Answers :=
  [ { stop := false, received := some [0x80, 0xE1, 5], poolReady := true,
      acquired := some ⟨0, [7, 7, 7, 7]⟩, allocated := none, mapped := true },
    { stop := false, received := some [0x80, 98, 5], poolReady := true,
      acquired := some ⟨0, [7, 7, 7, 7]⟩, allocated := none, mapped := true },
    { stop := false, received := some [0x80, 97], poolReady := true, acquired := none,
      allocated := none, mapped := true },
    { stop := true, received := none, poolReady := true, acquired := none, allocated := none,
      mapped := true } ]

/-- A datagram is pushed from a buffer that held something else, a second one has another
payload type, and a third finds no memory. -/
theorem receiverThread_outcomes_run :
    ∃ outcomes : List Outcome,
      List.Forall₂ (fun a o => Outcome.Explains 97 a o)
        (turnsMade (some [1, 1, 1, 1]) mixedAnswers) outcomes ∧
      (receiverThread (some [1, 1, 1, 1]) { vidPt := 97 } mixedAnswers).log =
        outcomes.flatMap Outcome.events ∧
      (∃ datagrams : List (List UInt8),
        datagrams.Sublist
          ((turnsMade (some [1, 1, 1, 1]) mixedAnswers).filterMap Answers.received) ∧
        (∀ datagram ∈ datagrams, Expected 97 datagram) ∧
        pushedBytes (receiverThread (some [1, 1, 1, 1]) { vidPt := 97 } mixedAnswers).log =
          datagrams.map (List.take udpMaxPacket)) ∧
      ∀ id, (receiverThread (some [1, 1, 1, 1]) { vidPt := 97 } mixedAnswers).log.countP
          (BufferEvent.gives id) =
        (receiverThread (some [1, 1, 1, 1]) { vidPt := 97 } mixedAnswers).log.count
          (.acquired id) :=
  receiverThread_outcomes (.inr ⟨by decide, by decide⟩) (some [1, 1, 1, 1]) { vidPt := 97 } rfl
    mixedAnswers

/-- The answers of a system in which nothing fails. -/
def received (datagram : List UInt8) : Answers where
  stop := false
  received := some datagram
  poolReady := true
  acquired := some ⟨0, List.replicate udpMaxPacket 0⟩
  allocated := some ⟨1, datagram⟩
  mapped := true

/-- A first datagram is pushed. -/
theorem received_pushed {datagram : List UInt8} (hne : datagram ≠ []) :
    (receiverThread (some []) { vidPt := -1 } [received datagram]).log =
      [.acquired 0, .pushed 0 (datagram.take udpMaxPacket)] :=
  turn_pushes (s := { ur := { vidPt := -1 }, buffer := [], log := [] })
    (a := received datagram) rfl hne rfl rfl rfl rfl (Nat.le_of_eq List.length_replicate.symm)

/-- An empty datagram is missing and a long one is cut although nothing fails. -/
theorem datagrams_altered :
    (Expected (-1) [] ∧ (receiverThread (some []) { vidPt := -1 } [received []]).log = []) ∧
      (receiverThread (some []) { vidPt := -1 }
          [received (List.replicate (udpMaxPacket + 1) 0)]).log =
        [.acquired 0, .pushed 0 (List.replicate udpMaxPacket 0)] := by
  refine ⟨⟨.inl (by decide), rfl⟩, ?_⟩
  have hne : List.replicate (udpMaxPacket + 1) (0 : UInt8) ≠ [] := by
    rw [List.replicate_succ]
    exact List.cons_ne_nil _ _
  rw [received_pushed hne, List.take_replicate, Nat.min_eq_left (Nat.le_succ udpMaxPacket)]

end Pipeline
end PixelPilot
