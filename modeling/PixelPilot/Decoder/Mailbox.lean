import PixelPilot.Decoder.Model
import PixelPilot.Library.LatestSlot

/-!
# The frame mailbox between the two decoder threads

`pending_fb` is a one-slot mailbox: the frame thread overwrites it, the display
thread empties it, and `running` is the other half of the predicate the display
thread waits for.  Every step of the decoder is one operation of the abstract
mailbox of the library, or none.

Main results:

- Theorem `next_move`: a decoder step moves the abstract mailbox by at most one
  operation.
- Theorem `waiting_means_idle`: a display thread that waits without a pending
  wake-up has nothing to wake up for.
- Theorem `mailbox_delivers`: order, at most one commit for each post, no lost
  wake-up, and delivery of the last frame of a run that ends by EOS.
-/

namespace PixelPilot
namespace Decoder

open LatestSlot

/-! ## The abstract mailbox of a decoder state -/

/-- A post with framebuffer 0 leaves the mailbox empty. -/
def Post.Visible (p : Post) : Prop := p.fb ≠ 0

instance : DecidablePred Post.Visible := fun p => inferInstanceAs (Decidable (p.fb ≠ 0))

/-- What `pending_fb` and the two logs say about the mailbox. -/
def State.mailbox (s : State) : Mailbox Post where
  slot := if s.pending.fb = 0 then none else some s.pending
  sent := s.posts
  received := s.commits

/-- The display thread is blocked in `g_cond_wait` and nobody has woken it. -/
def State.Blocked (s : State) : Prop := s.displayPc = .waiting false

/-- The display thread will not look at the mailbox again. -/
def DisplayPc.Leaving : DisplayPc → Prop
  | .srcW _ still | .srcH _ still _ | .flip _ still _ _ => still = false
  | .absent | .exited => True
  | _ => False

/-! ## What one step can do -/

/-- The frame thread's effects on the mailbox, the display thread and the flags. -/
inductive FrameEffect (s t : State) : Prop
  | quiet (hpending : t.pending = s.pending) (hposts : t.posts = s.posts)
      (hcommits : t.commits = s.commits) (hdisplay : t.displayPc = s.displayPc)
      (hrunning : t.running = s.running) (hstopped : t.stopped = s.stopped)
      (hended : t.endedByEos = s.endedByEos) (hpc : t.framePc ≠ .exited)
      (hlive : s.framePc ≠ .finish ∧ s.framePc ≠ .exited)
  | post (f : MppFrame) (i : Nat) (hpc : s.framePc = .post f i)
      (ht : t = { s.postSlot f i with framePc := .eosTest f })
  | eos (f : MppFrame) (hpc : s.framePc = .eosTest f)
      (ht : t = { s with framePc := .finish, endedByEos := !s.stopped })
  | finish (hpc : s.framePc = .finish)
      (ht : t = { s with
        running := false, displayPc := wake s.displayPc, framePc := .exited })

@[simp]
theorem releaseSlot_pending (s : State) (i : Nat) : (s.releaseSlot i).pending = s.pending :=
  rfl

@[simp]
theorem releaseSlot_posts (s : State) (i : Nat) : (s.releaseSlot i).posts = s.posts :=
  rfl

/-- Registering a framebuffer touches the device only. -/
theorem addFb_eq (s : State) (f : MppFrame) (r : SlotResult) :
    ∃ fbs serial, s.addFb f r = { s with fbs := fbs, nextSerial := serial } := by
  cases r <;> exact ⟨_, _, rfl⟩

theorem dispatch_ne_exited (s : State) (f : MppFrame) : s.dispatch f ≠ .exited := by
  unfold State.dispatch
  split
  · simp
  · split
    · simp
    · split <;> simp

/-- Every step of the frame thread has one of the four effects. -/
theorem frameNext_effect {s t : State} {c : FrameChoice} (h : frameNext s c = some t) :
    FrameEffect s t := by
  cases hpc : s.framePc with
  | absent | exited => cases c <;> simp [frameNext, hpc] at h
  | check =>
      cases c <;> simp only [frameNext, hpc, Option.some.injEq, reduceCtorEq] at h
      subst h
      refine .quiet rfl rfl rfl rfl rfl rfl rfl ?_ (by simp [hpc])
      by_cases hrun : s.running <;> simp [hrun]
  | getFrame =>
      cases c <;> simp only [frameNext, hpc, Option.some.injEq, reduceCtorEq] at h
      · subst h
        exact .quiet rfl rfl rfl rfl rfl rfl rfl (by simp) (by simp [hpc])
      · subst h
        exact .quiet rfl rfl rfl rfl rfl rfl rfl (dispatch_ne_exited s _) (by simp [hpc])
  | setup f =>
      cases c <;> simp only [frameNext, hpc, reduceCtorEq] at h
      split at h
      · cases h
        exact .quiet rfl rfl rfl rfl rfl rfl rfl (by simp) (by simp [hpc])
      · cases h
        refine .quiet rfl rfl rfl rfl rfl rfl rfl ?_ (by simp [hpc])
        by_cases hgrp : s.frmGrp <;> simp [hgrp]
  | release f i =>
      cases c <;> simp only [frameNext, hpc, reduceCtorEq] at h
      split at h
      all_goals
        cases h
        exact .quiet rfl rfl rfl rfl rfl rfl rfl (by simp) (by simp [hpc])
  | alloc f i =>
      cases c <;> simp only [frameNext, hpc, reduceCtorEq] at h
      · split at h
        · contradiction
        · cases h
          exact .quiet rfl rfl rfl rfl rfl rfl rfl (by simp) (by simp [hpc])
      · rename_i r
        obtain ⟨fbs, serial, hadd⟩ := addFb_eq s f r
        rw [hadd] at h
        split at h
        · cases h
          exact .quiet rfl rfl rfl rfl rfl rfl rfl (by simp) (by simp [hpc])
        · contradiction
  | post f i =>
      cases c <;> simp only [frameNext, hpc, Option.some.injEq, reduceCtorEq] at h
      exact .post f i hpc h.symm
  | eosTest f =>
      cases c <;> simp only [frameNext, hpc, reduceCtorEq] at h
      split at h
      · cases h
        exact .eos f hpc rfl
      · cases h
        exact .quiet rfl rfl rfl rfl rfl rfl rfl (by simp) (by simp [hpc])
  | finish =>
      cases c <;> simp only [frameNext, hpc, Option.some.injEq, reduceCtorEq] at h
      exact .finish hpc h.symm
  -- The other steps only advance the program counter or write an unlocked field.
  | clearSrcW f | clearSrcH f | groupGet f | setSrcW f | setSrcH f | commitSrcW f
  | commitSrcH f | commitFlip f =>
      cases c <;> simp only [frameNext, hpc, Option.some.injEq, reduceCtorEq] at h
      all_goals
        subst h
        exact .quiet rfl rfl rfl rfl rfl rfl rfl (by simp) (by simp [hpc])

/-- The display thread's effects on the mailbox and on itself. -/
inductive DisplayEffect (s t : State) : Prop
  | wait (hrun : s.running = true) (hempty : s.pending.fb = 0)
      (ht : t = { s with displayPc := .waiting false })
  | take (hfull : s.pending.fb ≠ 0)
      (ht : t = { s with
        pending := { s.pending with fb := 0 }
        displayPc := .srcW s.pending s.running
        commits := s.commits ++ [s.pending] })
  | leave (hrun : s.running = false) (hempty : s.pending.fb = 0)
      (ht : t = { s with displayPc := .exited })
  | commit (pc : DisplayPc) (hblocked : pc ≠ .waiting false)
      (hleaving : pc.Leaving → s.displayPc.Leaving)
      (ht : t = { s with displayPc := pc })

/-- The critical section of the display thread waits, takes the post, or leaves. -/
theorem displayEnter_cases (s : State) :
    (s.running = true ∧ s.pending.fb = 0 ∧
      s.displayEnter = { s with displayPc := .waiting false }) ∨
    (s.pending.fb ≠ 0 ∧
      s.displayEnter = { s with
        pending := { s.pending with fb := 0 }
        displayPc := .srcW s.pending s.running
        commits := s.commits ++ [s.pending] }) ∨
    (s.running = false ∧ s.pending.fb = 0 ∧
      s.displayEnter = { s with displayPc := .exited }) := by
  unfold State.displayEnter
  by_cases hempty : s.pending.fb = 0
  · have hsame : ({ s.pending with fb := 0 } : Post) = s.pending := by
      rw [← hempty]
    cases s.running <;> simp [hempty, hsame]
  · simp [hempty]

/-- Entering the loop takes at most the pending frame. -/
theorem displayEnter_effect (s : State) : DisplayEffect s s.displayEnter := by
  rcases displayEnter_cases s with ⟨hrun, hempty, ht⟩ | ⟨hfull, ht⟩ | ⟨hrun, hempty, ht⟩
  · exact .wait hrun hempty ht
  · exact .take hfull ht
  · exact .leave hrun hempty ht

/-- Every step of the display thread has one of the four effects. -/
theorem displayNext_effect {s t : State} {c : DisplayChoice}
    (h : displayNext s c = some t) : DisplayEffect s t := by
  cases hpc : s.displayPc with
  | absent | exited => cases c <;> simp [displayNext, hpc] at h
  | lock =>
      cases c <;> simp only [displayNext, hpc, Option.some.injEq, reduceCtorEq] at h
      exact h ▸ displayEnter_effect s
  | waiting woken =>
      cases c <;> simp only [displayNext, hpc, Option.some.injEq, reduceCtorEq] at h
      · split at h
        · cases h
          exact displayEnter_effect s
        · contradiction
      · exact h ▸ displayEnter_effect s
  | srcW p still =>
      cases c <;> simp only [displayNext, hpc, Option.some.injEq, reduceCtorEq] at h
      · exact .commit _ (by simp) (by simp [DisplayPc.Leaving, hpc]) h.symm
      · refine .commit (afterCommit still) ?_ ?_ h.symm
        · cases still <;> simp [afterCommit]
        · cases still <;> simp [afterCommit, DisplayPc.Leaving, hpc]
  | srcH p still w =>
      cases c <;> simp only [displayNext, hpc, Option.some.injEq, reduceCtorEq] at h
      exact .commit _ (by simp) (by simp [DisplayPc.Leaving, hpc]) h.symm
  | flip p still w height =>
      cases c <;> simp only [displayNext, hpc, Option.some.injEq, reduceCtorEq] at h
      refine .commit (afterCommit still) ?_ ?_ h.symm
      · cases still <;> simp [afterCommit]
      · cases still <;> simp [afterCommit, DisplayPc.Leaving, hpc]

/-! ## Refinement of the abstract mailbox -/

/-- The frame thread sends to the abstract mailbox or leaves it alone. -/
theorem FrameEffect.move {s t : State} (h : FrameEffect s t) :
    Mailbox.Move Post.Visible s.mailbox t.mailbox := by
  cases h with
  | quiet hpending hposts hcommits =>
      have hsame : t.mailbox = s.mailbox := by
        simp [State.mailbox, hpending, hposts, hcommits]
      rw [hsame]
      exact .stay _
  | post f i _ ht =>
      have hsend : t.mailbox = s.mailbox.send Post.Visible (s.postSlot f i).pending := by
        subst ht
        simp [State.mailbox, State.postSlot, Mailbox.send, Post.Visible, ite_not]
      rw [hsend]
      exact .send _ _
  | eos f _ ht =>
      subst ht
      exact .stay _
  | finish _ ht =>
      subst ht
      exact .stay _

/-- The display thread takes from the abstract mailbox or leaves it alone. -/
theorem DisplayEffect.move {s t : State} (h : DisplayEffect s t) :
    Mailbox.Move Post.Visible s.mailbox t.mailbox := by
  cases h with
  | take hfull ht =>
      have htake : t.mailbox = s.mailbox.take := by
        subst ht
        simp [State.mailbox, Mailbox.take, hfull]
      rw [htake]
      exact .take _
  | wait _ _ ht | leave _ _ ht | commit _ _ _ ht =>
      subst ht
      exact .stay _

/-- A decoder step moves the abstract mailbox by at most one operation. -/
theorem next_move {s t : State} {a : Act} (h : next s a = some t) :
    Mailbox.Move Post.Visible s.mailbox t.mailbox := by
  cases a with
  | frame c => exact (frameNext_effect h).move
  | display c => exact (displayNext_effect h).move
  | stop =>
      simp only [next, Option.some.injEq] at h
      subst h
      exact .stay _

/-- In every run the mailbox delivers faithfully. -/
theorem mailbox_faithful {s : State} (h : decoder.Reachable s) :
    s.mailbox.Faithful Post.Visible := by
  refine h.invariant (fun s => s.mailbox.Faithful Post.Visible) ?_ ?_
  · rintro s ⟨modeW, modeH, rfl⟩
    exact Mailbox.faithful_empty
  · intro s t a hs _ hnext
    exact hs.move (next_move hnext)

/-! ## Posts are numbered -/

/-- Every post carries its position in the sequence of posts. -/
def Numbered (posts : List Post) : Prop :=
  posts.map Post.number = List.range posts.length

/-- The next post has the next number. -/
theorem Numbered.append {posts : List Post} (h : Numbered posts) {p : Post}
    (hp : p.number = posts.length) : Numbered (posts ++ [p]) := by
  unfold Numbered at *
  rw [List.map_append, h, List.length_append, List.map_cons, List.map_nil, hp,
    List.length_singleton, List.range_succ]

/-- Posts with different positions are different posts. -/
theorem Numbered.nodup {posts : List Post} (h : Numbered posts) : posts.Nodup := by
  have hnumbers : (posts.map Post.number).Nodup := h ▸ List.nodup_range
  exact List.Nodup.of_map _ hnumbers

/-- A step keeps the posts numbered. -/
theorem next_numbered {s t : State} {a : Act} (hs : Numbered s.posts)
    (h : next s a = some t) : Numbered t.posts := by
  cases a with
  | frame c =>
      cases frameNext_effect h with
      | quiet _ hposts => exact hposts ▸ hs
      | post f i _ ht =>
          subst ht
          exact hs.append rfl
      | eos f _ ht | finish _ ht =>
          subst ht
          exact hs
  | display c =>
      cases displayNext_effect h with
      | wait _ _ ht | take _ ht | leave _ _ ht | commit _ _ _ ht =>
          subst ht
          exact hs
  | stop =>
      simp only [next, Option.some.injEq] at h
      subst h
      exact hs

/-- In every reachable state the posts are numbered. -/
theorem posts_numbered {s : State} (h : decoder.Reachable s) : Numbered s.posts := by
  refine h.invariant (fun s => Numbered s.posts) ?_ ?_
  · rintro s ⟨modeW, modeH, rfl⟩
    rfl
  · intro s t a hs _ hnext
    exact next_numbered hs hnext

/-! ## No lost wake-up -/

/-- A blocked display thread has nothing to wake up for. -/
def State.BlockedIdle (s : State) : Prop :=
  s.Blocked → s.running = true ∧ s.pending.fb = 0

/-- A thread that is woken is not blocked. -/
theorem wake_ne_blocked (pc : DisplayPc) : wake pc ≠ .waiting false := by
  cases pc <;> simp [wake]

/-- A step blocks the display thread only while nothing is pending. -/
theorem next_blockedIdle {s t : State} {a : Act} (hs : s.BlockedIdle)
    (h : next s a = some t) : t.BlockedIdle := by
  intro hblocked
  unfold State.Blocked at hblocked
  cases a with
  | frame c =>
      cases frameNext_effect h with
      | quiet hpending _ _ hdisplay hrunning =>
          rw [hrunning, hpending]
          exact hs (hdisplay.symm.trans hblocked)
      | post f i _ ht =>
          subst ht
          exact absurd hblocked (wake_ne_blocked _)
      | eos f _ ht =>
          subst ht
          exact hs hblocked
      | finish _ ht =>
          subst ht
          exact absurd hblocked (wake_ne_blocked _)
  | display c =>
      cases displayNext_effect h with
      | wait hrun hempty ht =>
          subst ht
          exact ⟨hrun, hempty⟩
      | take _ ht | leave _ _ ht =>
          subst ht
          simp at hblocked
      | commit pc hnot _ ht =>
          subst ht
          exact absurd hblocked hnot
  | stop =>
      simp only [next, Option.some.injEq] at h
      subst h
      exact absurd hblocked (wake_ne_blocked _)

/-- A display thread that waits without a pending wake-up has an empty mailbox
and a running decoder. -/
theorem waiting_means_idle {s : State} (h : decoder.Reachable s) : s.BlockedIdle := by
  refine h.invariant State.BlockedIdle ?_ ?_
  · rintro s ⟨modeW, modeH, rfl⟩ hblocked
    simp [State.Blocked, start] at hblocked
  · intro s t a hs _ hnext
    exact next_blockedIdle hs hnext

/-! ## The end of a run -/

/-- How the flags, the two control points and the mailbox fit together once the
decoder stops running. -/
structure EndInv (s : State) : Prop where
  stopped_or_exited : s.running = false → s.stopped = true ∨ s.framePc = .exited
  leaving : s.displayPc.Leaving → s.running = false
  ended : s.endedByEos = true → s.framePc = .finish ∨ s.framePc = .exited
  drained : s.displayPc.Leaving → s.endedByEos = true → s.pending.fb = 0

theorem wake_leaving {pc : DisplayPc} (h : (wake pc).Leaving) : pc.Leaving := by
  cases pc <;> simp_all [wake, DisplayPc.Leaving]

/-- The frame thread keeps the invariant of the end. -/
theorem FrameEffect.endInv {s t : State} (hs : EndInv s) (h : FrameEffect s t) :
    EndInv t := by
  cases h with
  | quiet hpending _ _ hdisplay hrunning hstopped hended hpc hlive =>
      have hrun : s.endedByEos = false := by
        cases heos : s.endedByEos
        · rfl
        · rcases hs.ended heos with hfinish | hexited
          · exact absurd hfinish hlive.1
          · exact absurd hexited hlive.2
      refine ⟨?_, ?_, ?_, ?_⟩
      · intro hfalse
        left
        rcases hs.stopped_or_exited (hrunning ▸ hfalse) with hstop | hexited
        · rw [hstopped, hstop]
        · exact absurd hexited hlive.2
      · intro hleaving
        rw [hrunning]
        exact hs.leaving (hdisplay ▸ hleaving)
      · intro heos
        simp [hended, hrun] at heos
      · intro _ heos
        simp [hended, hrun] at heos
  | post f i hpc ht =>
      subst ht
      have hrun : s.endedByEos = false := by
        cases heos : s.endedByEos
        · rfl
        · rcases hs.ended heos with hfinish | hexited <;> simp_all
      refine ⟨?_, ?_, ?_, ?_⟩
      · intro hfalse
        left
        rcases hs.stopped_or_exited hfalse with hstop | hexited
        · exact hstop
        · simp [hpc] at hexited
      · intro hleaving
        exact hs.leaving (wake_leaving hleaving)
      · intro heos
        exact absurd (hrun.symm.trans heos) (by simp)
      · intro _ heos
        exact absurd (hrun.symm.trans heos) (by simp)
  | eos f hpc ht =>
      subst ht
      have hstop : s.running = false → s.stopped = true := by
        intro hfalse
        rcases hs.stopped_or_exited hfalse with hstop | hexited
        · exact hstop
        · simp [hpc] at hexited
      refine ⟨?_, ?_, ?_, ?_⟩
      · intro hfalse
        exact .inl (hstop hfalse)
      · intro hleaving
        exact hs.leaving hleaving
      · intro _
        exact .inl rfl
      · intro hleaving heos
        -- A display thread that already leaves has seen a stop.
        have hstopped := hstop (hs.leaving hleaving)
        simp [hstopped] at heos
  | finish hpc ht =>
      subst ht
      refine ⟨?_, ?_, ?_, ?_⟩
      · intro _
        exact .inr rfl
      · intro _
        rfl
      · intro _
        exact .inr rfl
      · intro hleaving heos
        exact hs.drained (wake_leaving hleaving) heos

/-- The display thread keeps the invariant of the end. -/
theorem DisplayEffect.endInv {s t : State} (hs : EndInv s) (h : DisplayEffect s t) :
    EndInv t := by
  cases h with
  | wait _ _ ht =>
      subst ht
      refine ⟨hs.stopped_or_exited, ?_, hs.ended, ?_⟩ <;>
        intro hleaving <;> simp [DisplayPc.Leaving] at hleaving
  | take _ ht =>
      subst ht
      refine ⟨hs.stopped_or_exited, ?_, hs.ended, fun _ _ => rfl⟩
      intro hleaving
      simpa [DisplayPc.Leaving] using hleaving
  | leave hrun hempty ht =>
      subst ht
      exact ⟨hs.stopped_or_exited, fun _ => hrun, hs.ended, fun _ _ => hempty⟩
  | commit pc _ hleaving ht =>
      subst ht
      exact ⟨hs.stopped_or_exited, fun h => hs.leaving (hleaving h), hs.ended,
        fun h heos => hs.drained (hleaving h) heos⟩

/-- The invariant of the end holds in every reachable state. -/
theorem endInv {s : State} (h : decoder.Reachable s) : EndInv s := by
  refine h.invariant EndInv ?_ ?_
  · rintro s ⟨modeW, modeH, rfl⟩
    constructor <;> simp [start, DisplayPc.Leaving]
  · intro s t a hs _ hnext
    cases a with
    | frame c => exact (frameNext_effect hnext).endInv hs
    | display c => exact (displayNext_effect hnext).endInv hs
    | stop =>
        simp only [decoder, next, Option.some.injEq] at hnext
        subst hnext
        exact ⟨fun _ => .inl rfl, fun _ => rfl, hs.ended,
          fun hleaving heos => hs.drained (wake_leaving hleaving) heos⟩

/-! ## The mailbox as a whole -/

/-- In every run of the two threads with any number of stops: commits are an
ordered selection of the posts, none twice; a display thread blocked without a
pending wake-up has an empty mailbox and a running decoder; and a run that an EOS
frame ended before any stop commits its last post unless that is framebuffer 0. -/
theorem mailbox_delivers {s : State} (h : decoder.Reachable s) :
    s.commits.Sublist s.posts ∧ s.posts.Nodup ∧ s.commits.Nodup ∧
      (s.Blocked → s.running = true ∧ s.pending.fb = 0) ∧
      (s.displayPc = .exited → s.endedByEos = true →
        ∀ p, s.posts.getLast? = some p → p.fb ≠ 0 → p ∈ s.commits) := by
  have hfaithful := mailbox_faithful h
  have hsublist : s.commits.Sublist s.posts := hfaithful.received_sublist
  have hnodup := (posts_numbered h).nodup
  refine ⟨hsublist, hnodup, hsublist.nodup hnodup, waiting_means_idle h, ?_⟩
  intro hexited heos p hlast hvisible
  have hleaving : s.displayPc.Leaving := by
    rw [hexited]
    trivial
  have hslot : s.mailbox.slot = none := by
    simp [State.mailbox, (endInv h).drained hleaving heos]
  exact hfaithful.last_received hslot hlast hvisible

/-- A stream whose only frame is also its last one. -/
def eosSchedule : List Act :=
  [.frame .go, .frame (.frame { infoChange := true, width := 1920, height := 1080 }),
    .frame .go, .frame .go, .frame (.slot (.added 1 7 31))] ++
  List.replicate 23 (.frame (.slot .createFailed)) ++
  List.replicate 8 (.frame .go) ++
  [.frame (.frame { bufferFd := some 7, eos := true }), .frame .go, .frame .go, .frame .go] ++
  List.replicate 4 (.display .go)

/-- The last post of that stream, and only it, reaches the plane. -/
theorem mailbox_delivers_eos :
    ∃ s : State, s.displayPc = .exited ∧ s.endedByEos = true ∧
      s.posts.getLast? = some { fb := 31 } ∧ { fb := 31 } ∈ s.commits ∧ s.commits.Nodup := by
  have hrun : (decoder.exec (start 1920 1080) eosSchedule).map
      (fun s => (s.displayPc, s.endedByEos, s.posts)) =
      some (.exited, true, [{ fb := 31 }]) := by
    rfl
  rw [Option.map_eq_some_iff] at hrun
  obtain ⟨s, hexec, hstate⟩ := hrun
  simp only [Prod.mk.injEq] at hstate
  obtain ⟨hpc, heos, hposts⟩ := hstate
  obtain ⟨-, -, hnodup, -, hlast⟩ :=
    mailbox_delivers (Transition.System.reachable_of_exec ⟨1920, 1080, rfl⟩ hexec)
  have hpost : s.posts.getLast? = some { fb := 31 } := by
    rw [hposts]
    rfl
  exact ⟨s, hpc, heos, hpost, hlast hpc heos _ hpost (by decide), hnodup⟩

end Decoder
end PixelPilot
