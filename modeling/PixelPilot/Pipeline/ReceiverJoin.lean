import PixelPilot.Pipeline.Model

/-!
# Joining the UDP receiver thread

The receiver thread blocks in `gst_buffer_pool_acquire_buffer` while the
pipeline holds all buffers of the pool.  A pipeline that has failed gives them
back only when it is set to NULL, which `pipeline_stop` does before it stops the
receiver and `cleanup_pipeline` does after it has destroyed the receiver.

Main results:

- Theorem `pool_blocks_join`: after an error and 32 more datagrams
  `pipeline_poll_child` waits for a receiver that waits for the failed pipeline.
- Theorem `receiver_join_free`: no such state is reached by the runs whose calls
  of `udp_receiver_stop` find a buffer for the receiver, or no need of one, and
  a call that finds neither can be continued to such a state.
-/

namespace PixelPilot
namespace Pipeline

open Transition

/-! ## The deadlock -/

/-- The receiver has yet to pass `gst_buffer_pool_acquire_buffer` before it reads
`stop_requested` again. -/
def ReceiverPc.acquireAhead : ReceiverPc → Bool
  | .recv | .ensurePool | .acquire => true
  | _ => false

/-- The receiver is blocked in `gst_buffer_pool_acquire_buffer` with all buffers of
the pool in a pipeline that has stopped consuming and was not set to NULL. -/
def State.PoolBlocked (s : State) : Prop :=
  s.pipeline = some .stalled ∧
    ∃ r, s.udpReceiver = some r ∧ r.pc = .acquire ∧ r.held = poolMax

/-- The main thread is not blocked in `udp_receiver_stop` on a blocked receiver. -/
def State.JoinFree (s : State) : Prop :=
  ¬ (s.mainPc.joining = some .receiver ∧ s.PoolBlocked)

/-- The pipeline has been set to PLAYING and not yet to NULL. -/
def State.started (s : State) : Bool :=
  s.pipeline == some .playing || s.pipeline == some .stalled

/-- If the receiver still has to acquire a buffer from the pool of a started
pipeline, there is one for it. -/
def State.Supplied (s : State) (r : Receiver) : Prop :=
  s.started = true → r.pc.acquireAhead = true → r.held < poolMax

/-- The step condition: where `udp_receiver_stop` stops a running receiver, the
receiver is supplied. -/
def StopsSupplied (s : State) (a : Act) : Prop :=
  a = .main .go → ∀ u r, s.mainPc = .udpEnter u → s.udpReceiver = some r →
    r.running = true → s.Supplied r

/-- The receiver will stop, and is supplied until then. -/
def State.Stopping (s : State) : Prop :=
  ∀ r, s.udpReceiver = some r → r.stopRequested = true ∧ s.Supplied r

/-- A receiver that is asked to stop and supplied does not block the join. -/
theorem State.Stopping.joinFree {s : State} (hs : s.Stopping) : s.JoinFree := by
  rintro ⟨-, hstalled, r, hr, hpc, hheld⟩
  have hstarted : s.started = true := by simp [State.started, hstalled]
  have hfree := (hs r hr).2 hstarted (by rw [hpc]; rfl)
  omega

/-! ## Supply is kept -/

/-- The receiver thread does not write `stop_requested`. -/
theorem next_stopRequested {gst : Gst} {r t : Receiver} {c : ReceiverChoice}
    (h : r.next gst c = some t) : t.stopRequested = r.stopRequested :=
  (Receiver.next_frame h).2.1

/-- A receiver that will stop acquires at most the one buffer it was supplied
with. -/
theorem next_supplied {gst : Gst} {r t : Receiver} {c : ReceiverChoice}
    (hstop : r.stopRequested = true)
    (hr : r.pc.acquireAhead = true → r.held < poolMax) (h : r.next gst c = some t) :
    t.pc.acquireAhead = true → t.held < poolMax := by
  unfold Receiver.next at h
  split at h <;> rename_i hpc
  all_goals try split at h
  all_goals try contradiction
  all_goals cases h
  all_goals rw [hpc] at hr
  case h_6.refl | h_7.refl =>
    obtain ⟨hheld, -⟩ := ensureBufferPool_spec r _
    intro _
    exact Nat.lt_of_le_of_lt (Nat.le_of_eq hheld) (hr rfl)
  all_goals simp_all [ReceiverPc.acquireAhead]

/-- While the main thread waits for it, a supplied receiver stays supplied. -/
theorem stopping_next {s t : State} {a : Act}
    (hs : s.mainPc.joining = some .receiver → s.Stopping) (hok : StopsSupplied s a)
    (h : next s a = some t) (hjoin : t.mainPc.joining = some .receiver) : t.Stopping := by
  cases a with
  | main c =>
      obtain ⟨rfl, hcall⟩ := joinCall_of_mainNext h hjoin
      cases hcall with
      | receiver u r hpc hr hrunning ht =>
          subst ht
          intro r' hr'
          cases hr'
          exact ⟨rfl, hok rfl u r hpc hr hrunning⟩
  | bus c =>
      obtain ⟨-, -, -, pc, flag, stop, error, rfl, -⟩ := busNext_frame h
      exact hs hjoin
  | appsink c =>
      obtain ⟨-, -, pc, flag, rfl⟩ := appsinkNext_frame h
      exact hs hjoin
  | receiver c =>
      obtain ⟨r, u, hr, hu, rfl⟩ := receiverNext_frame h
      intro r' hr'
      cases hr'
      obtain ⟨hstop, hsupplied⟩ := hs hjoin r hr
      refine ⟨(next_stopRequested hu).trans hstop, fun hstarted => ?_⟩
      exact next_supplied hstop (hsupplied hstarted) hu
  | frame c =>
      obtain ⟨vd, -, rfl⟩ := frameNext_frame h
      exact hs hjoin
  | display c =>
      obtain ⟨vd, -, rfl⟩ := displayNext_frame h
      exact hs hjoin
  | gst c =>
      intro r' hr'
      simp only [next, gstNext] at h
      split at h
      · rename_i hplaying
        have hstarted : s.started = true := by simp [State.started, hplaying]
        cases c with
        | stall =>
            cases h
            obtain ⟨hstop, hsupplied⟩ := hs hjoin r' hr'
            exact ⟨hstop, fun _ => hsupplied hstarted⟩
        | consume =>
            cases h
            simp only [Option.map_eq_some_iff] at hr'
            obtain ⟨r, hr, rfl⟩ := hr'
            obtain ⟨hstop, hsupplied⟩ := hs hjoin r hr
            refine ⟨hstop, fun _ hahead => ?_⟩
            exact Nat.lt_of_le_of_lt (Nat.sub_le _ _) (hsupplied hstarted hahead)
      · contradiction

/-- In every run whose stops find the receiver supplied, it is supplied
throughout every wait. -/
theorem stopping_while_joining {s : State} (h : pixelPilot.ReachableUnder StopsSupplied s)
    (hjoin : s.mainPc.joining = some .receiver) : s.Stopping := by
  refine h.invariant (fun s => s.mainPc.joining = some .receiver → s.Stopping) ?_ ?_ hjoin
  · rintro s ⟨vidPt, modeW, modeH, rfl⟩ hjoin
    simp [State.initial, MainPc.joining] at hjoin
  · intro s t a hs hok hnext hjoin
    exact stopping_next hs hok hnext hjoin

/-! ## The pool in every run -/

/-- The receiver of every state obeys the bound of its pool. -/
def PoolInv (s : State) : Prop :=
  ∀ r, s.udpReceiver = some r → r.Bounded ∧ r.Matched

/-- A receiver that only gave buffers back, or was joined or started. -/
theorem pool_of_idle {r t : Receiver} (hr : r.Bounded ∧ r.Matched)
    (hheld : t.held ≤ r.held) (hpc : t.pc = r.pc ∨ t.pc = .absent ∨ t.pc = .created)
    (hpool : t.pool = r.pool) (hactive : t.poolActive = r.poolActive)
    (hvidPt : t.vidPt = r.vidPt) : t.Bounded ∧ t.Matched := by
  obtain ⟨hbounded, hmatched⟩ := hr
  have hhand : t.pc.inHand ≤ r.pc.inHand := by
    rcases hpc with hpc | hpc | hpc <;> rw [hpc] <;> simp [ReceiverPc.inHand]
  have hacquire : t.pc = .acquire → r.pc = .acquire := by
    rcases hpc with hpc | hpc | hpc <;> rw [hpc] <;> simp
  have haccepted : t.pc.accepted = true → r.pc.accepted = true := by
    rcases hpc with hpc | hpc | hpc <;> rw [hpc] <;> simp [ReceiverPc.accepted]
  refine ⟨⟨?_, ?_⟩, ?_⟩
  · have houtstanding := hbounded.outstanding
    omega
  · rw [hpool, hactive]
    intro hused
    exact hbounded.active (hused.imp (by omega) hacquire)
  · intro hused
    rw [hvidPt]
    exact hmatched (hused.imp (by omega) haccepted)

/-- A step of the main thread keeps the invariant of the pool. -/
theorem PoolInv.mainNext {s t : State} {c : MainChoice} (hs : PoolInv s)
    (h : mainNext s c = some t) : PoolInv t := by
  rcases mainNext_cases h with hloop | hstop | ⟨r, hr, hudp⟩ | hclean | hstart
  · unfold loopNext at hloop
    split at hloop
    all_goals try split at hloop
    all_goals cases hloop
    all_goals exact hs
  · unfold stopNext at hstop
    split at hstop
    all_goals try split at hstop
    all_goals cases hstop
    all_goals try exact hs
    intro r' hr'
    simp only [State.setNull, Option.map_eq_some_iff] at hr'
    obtain ⟨r, hr, rfl⟩ := hr'
    exact pool_of_idle (hs r hr) (Nat.zero_le _) (.inl rfl) rfl rfl rfl
  · have hidle := hs r hr
    unfold udpNext at hudp
    split at hudp
    all_goals try split at hudp
    all_goals try split at hudp
    all_goals cases hudp
    all_goals try exact hs
    all_goals intro r' hr'
    all_goals cases hr'
    all_goals exact pool_of_idle hidle (Nat.le_refl _) (by simp) rfl rfl rfl
  · unfold cleanNext at hclean
    split at hclean
    all_goals try split at hclean
    all_goals try split at hclean
    all_goals cases hclean
    all_goals try exact hs
    cases ‹Cleanup› <;> exact hs
  · unfold startNext at hstart
    split at hstart
    all_goals try split at hstart
    all_goals cases hstart
    all_goals try exact hs
    all_goals intro r' hr'
    · cases hr'
    · cases hr'
      exact ⟨⟨Nat.zero_le _, by simp [ReceiverPc.inHand]⟩,
        by simp [Receiver.Matched, ReceiverPc.accepted]⟩
    · simp only [Option.map_eq_some_iff] at hr'
      obtain ⟨r, hr, rfl⟩ := hr'
      exact pool_of_idle (hs r hr) (Nat.le_refl _) (by simp) rfl rfl rfl

/-- A step of any thread keeps the invariant of the pool. -/
theorem PoolInv.next {s t : State} {a : Act} (hs : PoolInv s) (h : next s a = some t) :
    PoolInv t := by
  cases a with
  | main c => exact hs.mainNext h
  | bus c =>
      obtain ⟨-, -, -, pc, flag, stop, error, rfl, -⟩ := busNext_frame h
      exact hs
  | appsink c =>
      obtain ⟨-, -, pc, flag, rfl⟩ := appsinkNext_frame h
      exact hs
  | receiver c =>
      obtain ⟨r, u, hr, hu, rfl⟩ := receiverNext_frame h
      intro r' hr'
      cases hr'
      exact ⟨Receiver.next_bounded (hs r hr).1 hu, Receiver.next_matched (hs r hr).2 hu⟩
  | frame c =>
      obtain ⟨vd, -, rfl⟩ := frameNext_frame h
      exact hs
  | display c =>
      obtain ⟨vd, -, rfl⟩ := displayNext_frame h
      exact hs
  | gst c =>
      simp only [Pipeline.next, gstNext] at h
      split at h
      · cases c with
        | stall =>
            cases h
            exact hs
        | consume =>
            cases h
            intro r' hr'
            simp only [Option.map_eq_some_iff] at hr'
            obtain ⟨r, hr, rfl⟩ := hr'
            exact pool_of_idle (hs r hr) (Nat.sub_le _ _) (.inl rfl) rfl rfl rfl
      · contradiction

/-- In every run the receiver obeys the bound of its pool. -/
theorem poolInv {s : State} (h : pixelPilot.Reachable s) : PoolInv s := by
  refine h.invariant PoolInv ?_ ?_
  · rintro s ⟨vidPt, modeW, modeH, rfl⟩ r hr
    simp [State.initial] at hr
  · intro s t a hs _ hnext
    exact hs.next hnext

/-! ## Stops of a receiver that is not supplied -/

/-- Some continuation of the run reaches the deadlock. -/
def State.Deadlocks (s : State) : Prop :=
  ∃ as t, pixelPilot.exec s as = some t ∧ ¬ t.JoinFree

/-- What can still deadlock after a step could before it. -/
theorem deadlocks_of_next {s t : State} {a : Act} (h : next s a = some t)
    (ht : t.Deadlocks) : s.Deadlocks := by
  obtain ⟨as, u, hexec, hblocked⟩ := ht
  have hnext : pixelPilot.next s a = some t := h
  exact ⟨a :: as, u, (System.exec_cons_of_next hnext).trans hexec, hblocked⟩

/-- With an empty pool and a stalled pipeline the receiver runs into the deadlock. -/
theorem deadlocks_of_stalled {s : State} {r : Receiver}
    (hjoin : s.mainPc.joining = some .receiver) (hstalled : s.pipeline = some .stalled)
    (hr : s.udpReceiver = some r) (hheld : r.held = poolMax)
    (hpool : r.pool = true ∧ r.poolActive = true)
    (hdata : ∃ data, data ≠ [] ∧ payloadTypeMatches data r.vidPt = true)
    (hahead : r.pc.acquireAhead = true) : s.Deadlocks := by
  have hacquire : State.Deadlocks { s with udpReceiver := some { r with pc := .acquire } } :=
    ⟨[], _, rfl, fun hfree => hfree ⟨hjoin, hstalled, _, rfl, rfl, hheld⟩⟩
  have hensure :
      State.Deadlocks { s with udpReceiver := some { r with pc := .ensurePool } } := by
    refine deadlocks_of_next (a := .receiver .go) ?_ hacquire
    simp [Pipeline.next, receiverNext, Receiver.next, Receiver.ensureStep,
      Receiver.ensureBufferPool, hpool]
  cases hpc : r.pc with
  | recv =>
      obtain ⟨data, hdata⟩ := hdata
      refine deadlocks_of_next (a := .receiver (.packet data)) ?_ hensure
      simp [Pipeline.next, receiverNext, hr, Receiver.next, hpc, hdata]
  | ensurePool => simpa [← hpc, ← hr] using hensure
  | acquire => simpa [← hpc, ← hr] using hacquire
  | absent | created | check | allocate | write | push | exited =>
      simp [hpc, ReceiverPc.acquireAhead] at hahead

/-- Stopping a receiver that is not supplied can end in the deadlock. -/
theorem unsupplied_stop_deadlocks {s t : State} {a : Act} (hs : PoolInv s)
    (h : next s a = some t) (hbad : ¬ StopsSupplied s a) : t.Deadlocks := by
  unfold StopsSupplied State.Supplied at hbad
  push Not at hbad
  obtain ⟨rfl, u, r, hpc, hr, hrunning, hstarted, hahead, hheld⟩ := hbad
  obtain ⟨hbounded, hmatched⟩ := hs r hr
  have hfull : r.held = poolMax := by
    have houtstanding := hbounded.outstanding
    omega
  have hpos : 0 < r.held := hfull ▸ (by decide)
  have hpool := hbounded.active (.inl (by omega))
  have hdata := hmatched (.inl hpos)
  simp only [next, Pipeline.mainNext, hpc, hr, udpNext, hrunning, if_true,
    Option.some.injEq] at h
  subst h
  simp only [State.started, Bool.or_eq_true, beq_iff_eq] at hstarted
  rcases hstarted with hplaying | hstalled
  · refine deadlocks_of_next (a := .gst .stall) (t := { s with
      udpReceiver := some { r with stopRequested := true }
      mainPc := .udpJoin u
      pipeline := some .stalled }) ?_ ?_
    · simp [Pipeline.next, gstNext, hplaying, hrunning]
    · exact deadlocks_of_stalled rfl rfl rfl hfull hpool hdata hahead
  · exact deadlocks_of_stalled rfl hstalled rfl hfull hpool hdata hahead

/-! ## The full pool -/

/-- The receiver takes one datagram up to its acquisition of a buffer. -/
def datagram : List Act :=
  [.receiver .go, .receiver (.packet [0x80, 97]), .receiver .go]

/-- It gets a buffer and pushes it. -/
def pushDatagram : List Act :=
  datagram ++ List.replicate 3 (.receiver .go)

/-- The pipeline fails, the bus thread reports it, and the stream goes on for 33
datagrams; then the main loop polls and cleans up. -/
def errorSchedule : List Act :=
  startSchedule ++
  [.receiver .go, .bus .go, .bus .go, .appsink .go, .appsink .go, .gst .stall, .bus .error,
    .bus .go, .bus .go] ++
  (List.replicate 32 pushDatagram).flatten ++ datagram ++
  List.replicate 5 (.main .go) ++ List.replicate 3 (.appsink .go) ++
  List.replicate 3 (.main .go)

set_option maxRecDepth 8000 in
/-- Where the schedule ends: about to stop a receiver that has run out of buffers. -/
theorem errorSchedule_exec :
    ∃ s r, pixelPilot.exec (State.initial 97 1920 1080) errorSchedule = some s ∧
      s.mainPc = .udpEnter (.cleanup .poll) ∧ s.pipeline = some .stalled ∧
      s.udpReceiver = some r ∧ r.pc = .acquire ∧ r.held = poolMax ∧ r.running = true := by
  have hrun : (pixelPilot.exec (State.initial 97 1920 1080) errorSchedule).map
      (fun s => (s.mainPc, s.pipeline,
        s.udpReceiver.map fun r => (r.pc, r.held, r.running))) =
      some (.udpEnter (.cleanup .poll), some .stalled, some (.acquire, 32, true)) := by
    rfl
  rw [Option.map_eq_some_iff] at hrun
  obtain ⟨s, hexec, hstate⟩ := hrun
  simp only [Prod.mk.injEq, Option.map_eq_some_iff] at hstate
  obtain ⟨hpc, hstalled, r, hr, hrpc, hheld, hrunning⟩ := hstate
  exact ⟨s, r, hexec, hpc, hstalled, hr, hrpc, hheld, hrunning⟩

/-- `pipeline_poll_child` waits for the receiver, the receiver for a buffer, and
the buffers for the step after the wait. -/
theorem pool_blocks_join : ∃ s, pixelPilot.Reachable s ∧ ¬ s.JoinFree := by
  obtain ⟨s, r, hexec, hpc, hstalled, hr, hrpc, hheld, hrunning⟩ := errorSchedule_exec
  have hreach : pixelPilot.Reachable s :=
    System.reachable_of_exec ⟨97, 1920, 1080, rfl⟩ hexec
  have hnext : pixelPilot.next s (.main .go) = some { s with
      udpReceiver := some { r with stopRequested := true }
      mainPc := .udpJoin (.cleanup .poll) } := by
    simp [pixelPilot, Pipeline.next, Pipeline.mainNext, udpNext, hpc, hr, hrunning]
  exact ⟨_, .step hreach trivial hnext,
    fun hfree => hfree ⟨rfl, hstalled, _, rfl, hrpc, hheld⟩⟩

/-! ## Joins of the receiver -/

/-- The main thread never waits for a receiver that waits for a stalled pipeline
in the runs whose stops find the receiver supplied, and a stop that does not can
be continued to such a state. -/
theorem receiver_join_free (s : State) :
    (pixelPilot.ReachableUnder StopsSupplied s → s.JoinFree) ∧
      (∀ t a, pixelPilot.Reachable s → pixelPilot.next s a = some t → ¬ StopsSupplied s a →
        ∃ as u, pixelPilot.exec t as = some u ∧ ¬ u.JoinFree) := by
  refine ⟨fun h hblocked => ?_, fun t a hs h hbad => ?_⟩
  · exact (stopping_while_joining h hblocked.1).joinFree hblocked
  · exact unsupplied_stop_deadlocks (poolInv hs) h hbad

/-- A shutdown with an empty pipeline, and the cleanup after the error. -/
theorem receiver_join_free_shutdowns :
    (∃ s : State, s.mainPc = .udpJoin (.stop .exit) ∧ s.JoinFree) ∧
      (∃ s t : State, pixelPilot.exec (State.initial 97 1920 1080) errorSchedule = some s ∧
        pixelPilot.next s (.main .go) = some t ∧
        ∃ as u, pixelPilot.exec t as = some u ∧ ¬ u.JoinFree) := by
  constructor
  · have hrun : (pixelPilot.execChecked
        (fun s _ => s.udpReceiver.all fun r => decide (r.held < poolMax))
        (State.initial 97 1920 1080)
        (startSchedule ++ .receiver .go :: datagram ++ .main .exit ::
          List.replicate 4 (.main .go))).map State.mainPc =
        some (.udpJoin (.stop .exit)) := by
      rfl
    rw [Option.map_eq_some_iff] at hrun
    obtain ⟨s, hexec, hpc⟩ := hrun
    have hinit : pixelPilot.ReachableUnder StopsSupplied (State.initial 97 1920 1080) :=
      .init ⟨97, 1920, 1080, rfl⟩
    have hreach : pixelPilot.ReachableUnder StopsSupplied s := by
      refine hinit.execChecked ?_ hexec
      intro s a hcheck _ u r _ hr _ _ _
      simpa [hr] using hcheck
    exact ⟨s, hpc, (receiver_join_free s).1 hreach⟩
  · obtain ⟨s, r, hexec, hpc, hstalled, hr, hrpc, hheld, hrunning⟩ := errorSchedule_exec
    have hreach : pixelPilot.Reachable s :=
      System.reachable_of_exec ⟨97, 1920, 1080, rfl⟩ hexec
    obtain ⟨t, hnext⟩ : ∃ t, pixelPilot.next s (.main .go) = some t := by
      simp [pixelPilot, Pipeline.next, Pipeline.mainNext, udpNext, hpc, hr, hrunning]
    refine ⟨s, t, hexec, hnext, (receiver_join_free s).2 t _ hreach hnext ?_⟩
    intro hok
    have hstarted : s.started = true := by simp [State.started, hstalled]
    have hfree := hok rfl _ r hpc hr hrunning hstarted (by rw [hrpc]; rfl)
    omega

end Pipeline
end PixelPilot
