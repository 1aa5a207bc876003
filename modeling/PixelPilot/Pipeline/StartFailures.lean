import Mathlib.Algebra.Order.Group.Multiset
import PixelPilot.Decoder.Lifetime
import PixelPilot.Pipeline.Start

/-!
# Failing starts

What a failing `pipeline_start` leaves behind.  `cleanup_pipeline` sees what is stored
in `ps`; the pipeline and the receiver are stored only after `gst_element_link_many`.

Main results:

- Definition `PipelineState.places`: the resources the fields of `ps` refer to.
- Theorem `cleanupPipeline_balanced`: `cleanup_pipeline` gives all of these back unless it
  waits for a thread that does not end.
- Theorem `startRunning_owned`: from the stores on, `ps` refers to all that is acquired.
- Theorem `startRunning_reached`: how far the call gets, and which threads do not end.
- Theorem `start_balanced_iff`: a failing call returns and leaves nothing behind unless it
  fails between `gst_pipeline_new` and the stores or has to wait for such a thread.
- Theorem `start_leaks`: a call that fails in between and leaves the pipeline behind.
-/

namespace PixelPilot
namespace Pipeline

open Ledger

/-! ## Accounts of a call -/

/-- No resource of a start has to outlive another. -/
def StartResource.owner : StartResource → Option StartResource :=
  fun _ => none

/-- The log of the call leaves exactly `now` held. -/
abbrev StartCall.Holds (c : StartCall) (now : Multiset StartResource) : Prop :=
  Accounts StartResource.owner c.log now

/-- Everything the call acquired is released, by the decoder as well. -/
structure StartCall.Balanced (c : StartCall) : Prop where
  log : Accounts StartResource.owner c.log 0
  decoderLog : Accounts Decoder.Resource.owner c.decoderLog 0

/-- What a flag stands for. -/
def heldIf (b : Bool) (r : StartResource) : Multiset StartResource :=
  if b then {r} else 0

variable {answers : StartAnswers} {c c' : StartCall} {now : Multiset StartResource}
  {r : StartResource}

/-- A resource acquired is held. -/
theorem StartCall.Holds.acquire (h : c.Holds now) (hfresh : r ∉ now) :
    (c.acquire r).Holds ({r} + now) := by
  rw [Multiset.singleton_add]
  apply Accounts.acquire h hfresh
  intro o ho
  contradiction

/-- A resource released is not. -/
theorem StartCall.Holds.release (h : c.Holds ({r} + now)) : (c.release r).Holds now := by
  rw [Multiset.singleton_add] at h
  apply Accounts.release h
  intro o ho
  contradiction

/-- A resource that may not be there is released if it is. -/
theorem StartCall.Holds.releaseIf {b : Bool} (h : c.Holds (heldIf b r + now)) :
    (c.releaseIf b r).Holds now := by
  cases b with
  | false =>
      rw [heldIf, if_neg (by simp), Multiset.zero_add] at h
      exact h
  | true => exact StartCall.Holds.release h

/-! ## What `ps` refers to -/

/-- The resources of a receiver. -/
def UdpReceiver.places (ur : UdpReceiver) : Multiset StartResource :=
  heldIf ur.thread (.thread .receiver) +
    (heldIf ur.sockfd .socket + (heldIf ur.pool .pool + ({.appsrcRef} + {.receiver})))

/-- A list of elements. -/
def elementPlaces : List Element → Multiset StartResource
  | [] => 0
  | e :: rest => {.element e} + elementPlaces rest

/-- A pipeline with its elements. -/
def gstPlaces : Multiset StartResource :=
  elementPlaces (.appsrc :: laterElements) + {.pipeline}

/-- A decoder, but for its own resources. -/
def DecoderObject.places (d : DecoderObject) : Multiset StartResource :=
  heldIf d.frameThread (.thread .frame) +
    (heldIf d.displayThread (.thread .display) + {.decoder})

/-- The resources the fields of `ps` refer to. -/
def PipelineState.places (ps : PipelineState) : Multiset StartResource :=
  heldIf ps.appsinkThread (.thread .appsink) +
    (heldIf ps.busThread (.thread .bus) +
      (ps.udpReceiver.elim 0 UdpReceiver.places +
        ((if ps.pipeline then gstPlaces else 0) + ps.decoder.elim 0 DecoderObject.places)))

/-! ## The receiver -/

/-- A receiver that is not running has neither a socket nor a thread. -/
def UdpReceiver.Sane (ur : UdpReceiver) : Prop :=
  ur.running = false → ur.sockfd = false ∧ ur.thread = false

/-- The join gives the thread back and keeps the pool. -/
theorem joinReceiver_holds {ur : UdpReceiver}
    (h : c.Holds (heldIf ur.thread (.thread .receiver) + (heldIf ur.pool .pool + now)))
    (hpool : .pool ∉ now) :
    (joinReceiver answers ur c).2.Holds
      (heldIf (joinReceiver answers ur c).1.pool .pool + now) := by
  unfold joinReceiver
  cases hthread : ur.thread with
  | false =>
      rw [hthread] at h
      simpa [heldIf] using h
  | true =>
      rw [hthread] at h
      cases hcreated : answers.pool && !ur.pool with
      | false => exact StartCall.Holds.release h
      | true =>
          have hnone : ur.pool = false := by
            rw [Bool.and_eq_true, Bool.not_eq_true'] at hcreated
            exact hcreated.2
          rw [hnone, heldIf, heldIf, if_pos rfl, if_neg (by simp), Multiset.zero_add] at h
          have hacquired := StartCall.Holds.acquire (r := .pool) h (by simp [hpool])
          rw [add_left_comm] at hacquired
          exact StartCall.Holds.release hacquired

theorem joinReceiver_sockfd (answers : StartAnswers) (ur : UdpReceiver) (c : StartCall) :
    (joinReceiver answers ur c).1.sockfd = ur.sockfd := by
  unfold joinReceiver
  split
  · rfl
  · split <;> rfl

/-- `udp_receiver_stop` joins the thread and closes the socket. -/
theorem udpReceiverStop_holds {ur : UdpReceiver} (hsane : ur.Sane)
    (h : c.Holds (heldIf ur.thread (.thread .receiver) +
      (heldIf ur.sockfd .socket + (heldIf ur.pool .pool + now))))
    (hpool : .pool ∉ now) :
    (udpReceiverStop answers ur c).2.Holds
      (heldIf (udpReceiverStop answers ur c).1.pool .pool + now) := by
  unfold udpReceiverStop
  cases hrunning : ur.running with
  | false =>
      have hnone := hsane hrunning
      rw [hnone.1, hnone.2, heldIf, if_neg (by simp), heldIf, if_neg (by simp),
        Multiset.zero_add, Multiset.zero_add] at h
      exact h
  | true =>
      rw [add_left_comm (heldIf ur.sockfd .socket)] at h
      have hfree : .pool ∉ heldIf ur.sockfd .socket + now := by
        intro hmem
        rcases Multiset.mem_add.mp hmem with hsocket | hnow
        · unfold heldIf at hsocket
          split at hsocket <;> simp at hsocket
        · exact hpool hnow
      have hjoined : (joinReceiver answers ur c).2.Holds _ := joinReceiver_holds h hfree
      rw [add_left_comm, ← joinReceiver_sockfd answers ur c] at hjoined
      exact StartCall.Holds.releaseIf hjoined

/-- `udp_receiver_destroy` gives back everything the receiver has. -/
theorem udpReceiverDestroy_holds {ur : UdpReceiver} (hsane : ur.Sane)
    (h : c.Holds (ur.places + now)) (hpool : .pool ∉ now) :
    (udpReceiverDestroy answers ur c).Holds now := by
  unfold UdpReceiver.places at h
  simp only [Multiset.add_assoc] at h
  have hstopped : (udpReceiverStop answers ur c).2.Holds _ :=
    udpReceiverStop_holds hsane h (by simp [hpool])
  rw [add_left_comm] at hstopped
  have hunref := StartCall.Holds.release hstopped
  have hpooled := StartCall.Holds.releaseIf hunref
  exact StartCall.Holds.release hpooled

/-! ## The decoder -/

/-- The decoder's own resources are in order, and only an initialised decoder has a
frame thread. -/
def DecoderObject.Sane (d : DecoderObject) : Prop :=
  (Decoder.Sane d.vd ∧ 0 ≤ d.vd.drmFd) ∨
    (Accounts Decoder.Resource.owner d.vd.log 0 ∧ Decoder.Empty d.vd ∧
      d.frameThread = false)

/-- The frame thread keeps the decoder sane and its device open. -/
theorem runFrameThread_sane (frames : List FrameAnswers) {vd vd' : Decoder.VideoDecoder}
    (h : Decoder.Sane vd ∧ 0 ≤ vd.drmFd) (hrun : runFrameThread frames vd = some vd') :
    Decoder.Sane vd' ∧ 0 ≤ vd'.drmFd := by
  induction frames generalizing vd with
  | nil =>
      cases hrun
      exact h
  | cons f rest ih =>
      rcases Option.bind_eq_some_iff.mp hrun with ⟨vd₁, hsetup, hrest⟩
      exact ih (Decoder.setupExternalBuffers_sane h.1 h.2 hsetup) hrest

/-- The join of the frame thread keeps the decoder in order. -/
theorem joinFrameThread_holds {d : DecoderObject} {r : DecoderObject × StartCall}
    (hsane : d.Sane) (h : c.Holds (heldIf d.frameThread (.thread .frame) + now))
    (hjoin : joinFrameThread answers d c = some r) :
    r.1.Sane ∧ r.1.frameThread = false ∧ r.1.displayThread = d.displayThread ∧
      r.2.Holds now ∧ r.2.ps = c.ps ∧ r.2.decoderLog = c.decoderLog := by
  unfold joinFrameThread at hjoin
  split at hjoin
  · rename_i hnone
    rw [Bool.not_eq_true'] at hnone
    rw [hnone, heldIf, if_neg (by simp), Multiset.zero_add] at h
    cases hjoin
    refine ⟨?_, hnone, rfl, h, rfl, rfl⟩
    rcases hsane with hlive | hempty
    · exact Or.inl ⟨hlive.1.withRunning false, hlive.2⟩
    · refine Or.inr ⟨hempty.1, ?_, hnone⟩
      rcases hempty.2.1 with ⟨hpacket, hctx, hgroup, hbackground, hbuffer, hfd⟩
      exact ⟨hpacket, hctx, hgroup, hbackground, hbuffer, hfd⟩
  · rename_i hthread
    rw [Bool.not_eq_true', Bool.not_eq_false] at hthread
    rw [hthread] at h
    rcases Option.map_eq_some_iff.mp hjoin with ⟨vd, hrun, rfl⟩
    refine ⟨?_, rfl, rfl, StartCall.Holds.release h, rfl, rfl⟩
    rcases hsane with hlive | hempty
    · have hsane' := runFrameThread_sane answers.frames hlive hrun
      exact Or.inl ⟨hsane'.1.withRunning false, hsane'.2⟩
    · rw [hempty.2.2] at hthread
      contradiction

/-- The decoder is in order and the log accounts for it. -/
structure Owns (r : DecoderObject × StartCall) (now : Multiset StartResource) : Prop where
  sane : r.1.Sane
  holds : r.2.Holds (r.1.places + now)

theorem releaseIf_frame (c : StartCall) (b : Bool) (r : StartResource) :
    (c.releaseIf b r).ps = c.ps ∧ (c.releaseIf b r).decoderLog = c.decoderLog := by
  cases b <;> exact ⟨rfl, rfl⟩

/-- `video_decoder_stop` joins both threads. -/
theorem videoDecoderStop_owns {d : DecoderObject} {r : DecoderObject × StartCall}
    (h : Owns (d, c) now) (hstop : videoDecoderStop answers d c = some r) :
    Owns r now ∧ r.1.frameThread = false ∧ r.1.displayThread = false ∧ r.2.ps = c.ps := by
  unfold videoDecoderStop at hstop
  rcases Option.map_eq_some_iff.mp hstop with ⟨joined, hjoin, rfl⟩
  have hholds := h.holds
  unfold DecoderObject.places at hholds
  rw [Multiset.add_assoc, Multiset.add_assoc] at hholds
  rcases joinFrameThread_holds h.sane hholds hjoin with
    ⟨hsane, hframe, hdisplay, hjoined, hps, -⟩
  rw [← hdisplay] at hjoined
  have hreleased := StartCall.Holds.releaseIf hjoined
  refine ⟨⟨hsane, ?_⟩, hframe, rfl, ?_⟩
  · simpa [DecoderObject.places, hframe, heldIf] using hreleased
  · rw [(releaseIf_frame ..).1, hps]

/-- `video_decoder_deinit` gives back what the decoder acquired. -/
theorem videoDecoderDeinit_owns {d : DecoderObject} {r : DecoderObject × StartCall}
    (h : Owns (d, c) now) (hdeinit : videoDecoderDeinit answers d c = some r) :
    Owns r now ∧ Accounts Decoder.Resource.owner r.1.vd.log 0 ∧ r.1.frameThread = false ∧
      r.1.displayThread = false ∧ r.2.ps = c.ps := by
  unfold videoDecoderDeinit at hdeinit
  rcases Option.map_eq_some_iff.mp hdeinit with ⟨stopped, hstop, rfl⟩
  rcases videoDecoderStop_owns h hstop with ⟨howns, hframe, hdisplay, hps⟩
  have hended := Decoder.videoDecoderDeinit_ended
    (howns.sane.imp And.left fun hempty => ⟨hempty.1, hempty.2.1⟩)
  exact ⟨⟨Or.inr ⟨hended.1, hended.2, hframe⟩, howns.holds⟩, hended.1, hframe, hdisplay, hps⟩

/-- `video_decoder_free` leaves nothing of the decoder. -/
theorem videoDecoderFree_holds {d : DecoderObject} (h : Owns (d, c) now)
    (hfree : videoDecoderFree answers d c = some c') :
    c'.Holds now ∧ Accounts Decoder.Resource.owner c'.decoderLog 0 := by
  unfold videoDecoderFree at hfree
  rcases Option.map_eq_some_iff.mp hfree with ⟨ended, hdeinit, rfl⟩
  rcases videoDecoderDeinit_owns h hdeinit with ⟨howns, hlog, hframe, hdisplay, -⟩
  have hholds := howns.holds
  simp only [DecoderObject.places, hframe, hdisplay, heldIf, Bool.false_eq_true, if_false,
    Multiset.zero_add] at hholds
  exact ⟨StartCall.Holds.release hholds, hlog⟩

/-! ## cleanup_pipeline -/

/-- Stopped, deinitialised and freed, the decoder leaves nothing. -/
theorem cleanupDecoder_holds {d : DecoderObject} (h : Owns (d, c) now)
    (hclean : cleanupDecoder answers d c = some c') :
    c'.Holds now ∧ Accounts Decoder.Resource.owner c'.decoderLog 0 := by
  unfold cleanupDecoder at hclean
  rcases Option.bind_eq_some_iff.mp hclean with ⟨ended, hended, hfree⟩
  rcases Option.bind_eq_some_iff.mp hended with ⟨stopped, hstopped, hended⟩
  have hstop : Owns stopped now := by
    split at hstopped
    · exact (videoDecoderStop_owns h hstopped).1
    · cases hstopped
      exact h
  have hdeinit : Owns ended now := by
    split at hended
    · exact (videoDecoderDeinit_owns hstop hended).1
    · cases hended
      exact hstop
  exact videoDecoderFree_holds hdeinit hfree

/-- Elements that no bin owns are unreferenced one by one. -/
theorem releaseElements_holds (elements : List Element) {c : StartCall}
    (h : c.Holds (elementPlaces elements + now)) :
    (elements.foldl (fun c e => c.release (.element e)) c).Holds now := by
  induction elements generalizing c with
  | nil =>
      rw [elementPlaces, Multiset.zero_add] at h
      exact h
  | cons e rest ih =>
      rw [elementPlaces, Multiset.add_assoc] at h
      exact ih (StartCall.Holds.release h)

/-- The last reference to the pipeline takes the elements with it. -/
theorem unrefPipeline_holds (h : c.Holds (gstPlaces + now)) : (unrefPipeline c).Holds now := by
  unfold gstPlaces at h
  rw [Multiset.add_assoc] at h
  exact StartCall.Holds.release (releaseElements_holds _ h)

/-- `ps` refers to all that is acquired, and the receiver and the decoder are in
order. -/
structure StartCall.Owned (c : StartCall) : Prop where
  holds : c.Holds c.ps.places
  receiver : ∀ ur, c.ps.udpReceiver = some ur → ur.Sane
  decoder : ∀ d, c.ps.decoder = some d → d.Sane
  decoderLog : Accounts Decoder.Resource.owner c.decoderLog 0

/-- Only the receiver holds a pool. -/
theorem pool_notMem (ps : PipelineState) :
    .pool ∉ (if ps.pipeline then gstPlaces else 0) + ps.decoder.elim 0 DecoderObject.places := by
  intro hmem
  rcases Multiset.mem_add.mp hmem with hgst | hdecoder
  · split at hgst
    · simp [gstPlaces, elementPlaces, laterElements] at hgst
    · simp at hgst
  · cases hd : ps.decoder with
    | none => simp [hd] at hdecoder
    | some d =>
        cases hframe : d.frameThread <;> cases hdisplay : d.displayThread <;>
          simp [hd, DecoderObject.places, heldIf, hframe, hdisplay] at hdecoder

/-- The joins that return give their threads back. -/
theorem joinThreads_owned (h : c.Owned) : (joinThreads c).Owned := by
  have hholds := h.holds
  unfold PipelineState.places at hholds
  have hthreads := StartCall.Holds.releaseIf (StartCall.Holds.releaseIf hholds)
  constructor
  case holds =>
    have hplaces : (joinThreads c).ps.places = c.ps.udpReceiver.elim 0 UdpReceiver.places +
        ((if c.ps.pipeline then gstPlaces else 0) +
          c.ps.decoder.elim 0 DecoderObject.places) := by
      unfold joinThreads PipelineState.places
      simp only [heldIf, Bool.false_eq_true, if_false, Multiset.zero_add]
    rw [hplaces]
    exact hthreads
  case receiver => exact h.receiver
  case decoder => exact h.decoder
  case decoderLog =>
    have hlog : (joinThreads c).decoderLog = c.decoderLog :=
      (releaseIf_frame ..).2.trans (releaseIf_frame ..).2
    rw [hlog]
    exact h.decoderLog

/-- Between the joins and the decoder, `cleanup_pipeline` gives back all but what the
decoder has. -/
theorem cleanupGst_holds (h : c.Owned) (happsink : c.ps.appsinkThread = false)
    (hbus : c.ps.busThread = false) :
    (cleanupGst answers c).Holds (c.ps.decoder.elim 0 DecoderObject.places) := by
  have hholds := h.holds
  simp only [PipelineState.places, happsink, hbus, heldIf, Bool.false_eq_true, if_false,
    Multiset.zero_add] at hholds
  have hpipeline : ∀ c' : StartCall, c'.Holds ((if c.ps.pipeline then gstPlaces else 0) +
      c.ps.decoder.elim 0 DecoderObject.places) →
      (if c.ps.pipeline then unrefPipeline c' else c').Holds
        (c.ps.decoder.elim 0 DecoderObject.places) := by
    intro c' hc'
    by_cases hstored : c.ps.pipeline = true
    · rw [if_pos hstored] at hc' ⊢
      exact unrefPipeline_holds hc'
    · rw [if_neg hstored, Multiset.zero_add] at hc'
      rw [if_neg hstored]
      exact hc'
  unfold cleanupGst
  apply hpipeline
  cases hreceiver : c.ps.udpReceiver with
  | none =>
      rw [hreceiver, Option.elim_none, Multiset.zero_add] at hholds
      exact hholds
  | some ur =>
      rw [hreceiver, Option.elim_some] at hholds
      exact udpReceiverDestroy_holds (h.receiver ur hreceiver) hholds (pool_notMem c.ps)

theorem releaseElements_decoderLog (elements : List Element) (c : StartCall) :
    (elements.foldl (fun c e => c.release (.element e)) c).decoderLog = c.decoderLog := by
  induction elements generalizing c with
  | nil => rfl
  | cons e rest ih => exact ih (c.release (.element e))

theorem unrefPipeline_decoderLog (c : StartCall) :
    (unrefPipeline c).decoderLog = c.decoderLog :=
  releaseElements_decoderLog _ c

theorem udpReceiverDestroy_decoderLog (answers : StartAnswers) (ur : UdpReceiver)
    (c : StartCall) : (udpReceiverDestroy answers ur c).decoderLog = c.decoderLog := by
  have hjoin : (joinReceiver answers ur c).2.decoderLog = c.decoderLog := by
    unfold joinReceiver
    split
    · rfl
    · split <;> rfl
  have hstop : (udpReceiverStop answers ur c).2.decoderLog = c.decoderLog := by
    unfold udpReceiverStop
    split
    · rfl
    · exact (releaseIf_frame ..).2.trans hjoin
  exact (releaseIf_frame ..).2.trans hstop

/-- Only the free of a decoder writes its log. -/
theorem cleanupGst_decoderLog (answers : StartAnswers) (c : StartCall) :
    (cleanupGst answers c).decoderLog = c.decoderLog := by
  have hpipeline : ∀ c' : StartCall,
      (if c.ps.pipeline then unrefPipeline c' else c').decoderLog = c'.decoderLog := by
    intro c'
    split
    · exact unrefPipeline_decoderLog c'
    · rfl
  unfold cleanupGst
  apply (hpipeline _).trans
  split
  · rfl
  · exact udpReceiverDestroy_decoderLog ..

/-- `cleanup_pipeline` gives back everything `ps` refers to, unless it waits for a
thread. -/
theorem cleanupPipeline_balanced {waits : Option PipelineThread} (h : c.Owned)
    (happsink : c.ps.appsinkLoops = false) (hreceiver : c.ps.receiverBlocks answers = false)
    (hclean : cleanupPipeline answers c = some (waits, c')) : waits = none ∧ c'.Balanced := by
  have hjoined := joinThreads_owned h
  have hblocks : (joinThreads c).ps.receiverBlocks answers = false := hreceiver
  have hdecoderEq : (cleanupGst answers (joinThreads c)).ps.decoder = c.ps.decoder := rfl
  unfold cleanupPipeline at hclean
  simp only [happsink, hblocks, Bool.false_eq_true, if_false, hdecoderEq] at hclean
  rcases Option.map_eq_some_iff.mp hclean with ⟨cleaned, hmatch, hend⟩
  cases hend
  refine ⟨rfl, ?_⟩
  have hgst : (cleanupGst answers (joinThreads c)).Holds
      (c.ps.decoder.elim 0 DecoderObject.places) := cleanupGst_holds hjoined rfl rfl
  cases hdecoder : c.ps.decoder with
  | none =>
      rw [hdecoder] at hmatch hgst
      cases hmatch
      refine ⟨hgst, ?_⟩
      rw [cleanupGst_decoderLog]
      exact hjoined.decoderLog
  | some d =>
      rw [hdecoder] at hmatch hgst
      have howns : Owns (d, cleanupGst answers (joinThreads c)) 0 := by
        refine ⟨h.decoder d hdecoder, ?_⟩
        rw [Multiset.add_zero]
        exact hgst
      have hfreed := cleanupDecoder_holds howns hmatch
      exact ⟨hfreed.1, hfreed.2⟩

/-! ## Before the stores -/

/-- The elements of a list that could be created. -/
def createdPlaces (answers : StartAnswers) : List Element → Multiset StartResource
  | [] => 0
  | e :: rest => createdPlaces answers rest + heldIf (answers.element e) (.element e)

/-- What the factories make is held. -/
theorem createElements_holds (elements : List Element) {c : StartCall}
    {now : Multiset StartResource} (hnodup : elements.Nodup)
    (hfresh : ∀ e ∈ elements, .element e ∉ now) (h : c.Holds now) :
    (createElements answers elements c).Holds (createdPlaces answers elements + now) := by
  induction elements generalizing c now with
  | nil =>
      rw [createdPlaces, Multiset.zero_add]
      exact h
  | cons e rest ih =>
      rw [createElements, createdPlaces, Multiset.add_assoc]
      rw [List.nodup_cons] at hnodup
      apply ih hnodup.2
      · intro f hf hmem
        rcases Multiset.mem_add.mp hmem with hcreated | hnow
        · unfold heldIf at hcreated
          split at hcreated
          · rw [Multiset.mem_singleton, StartResource.element.injEq] at hcreated
            rw [hcreated] at hf
            exact hnodup.1 hf
          · simp at hcreated
        · exact hfresh f (List.mem_cons_of_mem e hf) hnow
      · unfold heldIf
        split
        · exact StartCall.Holds.acquire h (hfresh e (List.mem_cons_self ..))
        · rw [Multiset.zero_add]
          exact h

/-- All later elements were created. -/
theorem createdPlaces_all (hall : laterElements.all answers.element = true) :
    createdPlaces answers laterElements = elementPlaces laterElements := by
  simp only [laterElements, List.all_cons, List.all_nil, Bool.and_true,
    Bool.and_eq_true] at hall
  rcases hall with ⟨hqueue, hdepay, hparser, hcapsfilter, happsink⟩
  simp only [laterElements, createdPlaces, elementPlaces, heldIf, hqueue, hdepay, hparser,
    hcapsfilter, happsink, if_true, Multiset.zero_add, Multiset.add_zero]
  ac_rfl

/-- What `create_udp_app_source` adds when it succeeds; it adds nothing when it fails. -/
theorem createUdpAppSource_holds (h : c.Holds {.pipeline}) :
    (createUdpAppSource answers c).2.Holds
      (if (createUdpAppSource answers c).1 then
        {.appsrcRef} + ({.receiver} + ({.element .appsrc} + {.pipeline}))
      else {.pipeline}) := by
  unfold createUdpAppSource
  split
  · exact h
  · have hsource := StartCall.Holds.acquire (r := .element .appsrc) h (by simp)
    split
    · exact StartCall.Holds.release hsource
    · have hcaps := StartCall.Holds.release
        (StartCall.Holds.acquire (r := .appsrcCaps) hsource (by simp))
      split
      · exact StartCall.Holds.release hcaps
      · have hreceiver := StartCall.Holds.acquire (r := .receiver) hcaps (by simp)
        exact StartCall.Holds.acquire hreceiver (by simp)

/-- The call is past every failure between `gst_pipeline_new` and the stores. -/
def StartAnswers.linked (answers : StartAnswers) : Bool :=
  answers.element .appsrc && answers.appsrcCaps && answers.receiverCreate &&
    laterElements.all answers.element && answers.rawCaps && answers.link

/-- When the source of the datagrams is there. -/
theorem createUdpAppSource_fst (answers : StartAnswers) (c : StartCall) :
    (createUdpAppSource answers c).1 =
      (answers.element .appsrc && answers.appsrcCaps && answers.receiverCreate) := by
  unfold createUdpAppSource
  cases answers.element .appsrc <;> cases answers.appsrcCaps <;>
    cases answers.receiverCreate <;> rfl

theorem mem_createdPlaces {elements : List Element}
    (h : r ∈ createdPlaces answers elements) : ∃ e, r = .element e := by
  induction elements with
  | nil => simp [createdPlaces] at h
  | cons e rest ih =>
      rcases Multiset.mem_add.mp h with hrest | hhead
      · exact ih hrest
      · unfold heldIf at hhead
        split at hhead
        · exact ⟨e, Multiset.mem_singleton.mp hhead⟩
        · simp at hhead

/-- The first half of the call succeeds if every step of it does. -/
theorem startElements_fst (answers : StartAnswers) (c : StartCall) :
    (startElements answers c).1 = (answers.pipelineNew && answers.linked) := by
  unfold StartAnswers.linked
  rw [← createUdpAppSource_fst answers (c.acquire .pipeline)]
  unfold startElements
  cases answers.pipelineNew
  · rfl
  · cases hsource : (createUdpAppSource answers (c.acquire .pipeline)).1
    · simp [hsource]
    · cases hlater : laterElements.all answers.element <;> cases answers.rawCaps <;>
        simp [hsource]

/-- What the local variables of the first half refer to, wherever it ends after
`gst_pipeline_new`. -/
def localPlaces (answers : StartAnswers) : Multiset StartResource :=
  if answers.element .appsrc && answers.appsrcCaps && answers.receiverCreate then
    createdPlaces answers laterElements +
      ({.appsrcRef} + ({.receiver} + ({.element .appsrc} + {.pipeline})))
  else {.pipeline}

/-- With a pipeline the elements made are held, and nothing else. -/
theorem startElements_holds (h : c.Holds 0) (hnew : answers.pipelineNew = true) :
    (startElements answers c).2.Holds (localPlaces answers) := by
  have hpipeline : (c.acquire .pipeline).Holds {.pipeline} := by
    have hacquired := StartCall.Holds.acquire (r := .pipeline) h (by simp)
    rw [Multiset.add_zero] at hacquired
    exact hacquired
  have hreceiver : (createUdpAppSource answers (c.acquire .pipeline)).2.Holds _ :=
    createUdpAppSource_holds hpipeline
  unfold startElements localPlaces
  rw [← createUdpAppSource_fst answers (c.acquire .pipeline), hnew]
  cases hsource : (createUdpAppSource answers (c.acquire .pipeline)).1 with
  | false =>
      rw [hsource] at hreceiver
      simpa [hsource] using hreceiver
  | true =>
      rw [hsource, if_pos rfl] at hreceiver
      have helements : (createElements answers laterElements _).Holds _ :=
        createElements_holds laterElements (by decide) (by simp [laterElements]) hreceiver
      simp only [hsource, Bool.not_true, Bool.false_eq_true, if_false, if_true]
      split
      · exact helements
      · split
        · exact helements
        · have hfresh : .rawCaps ∉ createdPlaces answers laterElements +
              ({.appsrcRef} + ({.receiver} + ({.element .appsrc} + {.pipeline}))) := by
            intro hmem
            rcases Multiset.mem_add.mp hmem with hcreated | hother
            · rcases mem_createdPlaces hcreated with ⟨e, he⟩
              contradiction
            · simp at hother
          exact StartCall.Holds.release (StartCall.Holds.acquire helements hfresh)

/-- The pipeline is in a local variable. -/
theorem pipeline_mem_localPlaces (answers : StartAnswers) :
    .pipeline ∈ localPlaces answers := by
  unfold localPlaces
  split
  · simp
  · simp

/-- After `gst_element_link_many` the local variables refer to the pipeline with all its
elements and to the receiver. -/
theorem localPlaces_linked (hlinked : answers.linked = true) :
    localPlaces answers = UdpReceiver.places {} + gstPlaces := by
  simp only [StartAnswers.linked, Bool.and_eq_true] at hlinked
  rcases hlinked with ⟨⟨⟨⟨⟨happsrc, hcaps⟩, hcreate⟩, hlater⟩, -⟩, -⟩
  simp only [localPlaces, happsrc, hcaps, hcreate, Bool.and_self, if_true,
    createdPlaces_all hlater, UdpReceiver.places, heldIf, Bool.false_eq_true, if_false,
    gstPlaces, elementPlaces, Multiset.zero_add]
  ac_rfl

/-- The first half keeps `ps` as it is. -/
theorem startElements_frame (answers : StartAnswers) (c : StartCall) :
    (startElements answers c).2.ps = c.ps ∧
      (startElements answers c).2.decoderLog = c.decoderLog := by
  have hcreate : ∀ (elements : List Element) (c : StartCall),
      (createElements answers elements c).ps = c.ps ∧
        (createElements answers elements c).decoderLog = c.decoderLog := by
    intro elements
    induction elements with
    | nil => exact fun c => ⟨rfl, rfl⟩
    | cons e rest ih =>
        intro c
        unfold createElements
        split
        · exact ih (c.acquire (.element e))
        · exact ih c
  have hsource : ∀ c : StartCall, (createUdpAppSource answers c).2.ps = c.ps ∧
      (createUdpAppSource answers c).2.decoderLog = c.decoderLog := by
    intro c
    unfold createUdpAppSource
    split
    · exact ⟨rfl, rfl⟩
    · split
      · exact ⟨rfl, rfl⟩
      · split <;> exact ⟨rfl, rfl⟩
  have hboth := hsource (c.acquire .pipeline)
  have hall := hcreate laterElements (createUdpAppSource answers (c.acquire .pipeline)).2
  have hdone := And.intro (hall.1.trans hboth.1) (hall.2.trans hboth.2)
  unfold startElements
  cases answers.pipelineNew with
  | false => exact ⟨rfl, rfl⟩
  | true =>
      cases hok : (createUdpAppSource answers (c.acquire .pipeline)).1 with
      | false =>
          simp only [hok, Bool.not_false, Bool.not_true, Bool.false_eq_true, if_false,
            if_true]
          exact hboth
      | true =>
          simp only [hok, Bool.not_true, Bool.false_eq_true, if_false]
          split
          · exact hdone
          · split
            · exact hdone
            · exact hdone

/-! ## From the stores on -/

@[simp]
theorem mem_heldIf {b : Bool} {q : StartResource} : r ∈ heldIf b q ↔ b = true ∧ r = q := by
  unfold heldIf
  cases b <;> simp

/-- No thread is part of the pipeline object. -/
theorem thread_notMem_gstPlaces (t : PipelineThread) : .thread t ∉ gstPlaces := by
  simp [gstPlaces, elementPlaces, laterElements]

/-- A decoder in `ps` adds what it has. -/
theorem places_withDecoder {ps : PipelineState} (hnone : ps.decoder = none)
    (d : DecoderObject) (initialized running : Bool) :
    PipelineState.places { ps with
      decoder := some d, decoderInitialized := initialized, decoderRunning := running } =
      d.places + ps.places := by
  simp only [PipelineState.places, hnone, Option.elim_none, Option.elim_some,
    Multiset.add_zero]
  ac_rfl

/-- The call after the stores to `ps`, with this receiver. -/
def StartCall.stored (c : StartCall) (ur : UdpReceiver) : StartCall :=
  { c with ps := { pipeline := true, appsink := true, udpReceiver := some ur } }

/-- What is stored in the state is owned by it. -/
theorem stored_owned {ur : UdpReceiver} (h : c.Holds (ur.places + gstPlaces))
    (hsane : ur.Sane) (hlog : Accounts Decoder.Resource.owner c.decoderLog 0) :
    (c.stored ur).Owned := by
  constructor
  case holds =>
    have hplaces : (c.stored ur).ps.places = ur.places + gstPlaces := by
      simp [StartCall.stored, PipelineState.places, heldIf]
    rw [hplaces]
    exact h
  case receiver =>
    intro ur' hur
    cases hur
    exact hsane
  case decoder =>
    intro d hd
    contradiction
  case decoderLog => exact hlog

/-- `udp_receiver_start`, whether or not it succeeds. -/
theorem startReceiver_owned (h : c.Holds (UdpReceiver.places {} + gstPlaces))
    (hps : c.ps = {}) (hlog : Accounts Decoder.Resource.owner c.decoderLog 0) :
    (startReceiver answers c).2.Owned ∧
      ∃ ur, (startReceiver answers c).2.ps =
        { pipeline := true, appsink := true, udpReceiver := some ur } := by
  have hidle : UdpReceiver.Sane {} := fun _ => ⟨rfl, rfl⟩
  have hsocket : (c.acquire .socket).Holds _ := StartCall.Holds.acquire h (by
    simp [UdpReceiver.places, gstPlaces, elementPlaces, laterElements])
  have hclosed := StartCall.Holds.release hsocket
  unfold startReceiver udpReceiverStart
  rw [hps]
  simp only [Bool.false_eq_true, if_false]
  split
  · exact ⟨stored_owned h hidle hlog, _, rfl⟩
  · split
    · exact ⟨stored_owned hclosed hidle hlog, _, rfl⟩
    · split
      · exact ⟨stored_owned hclosed hidle hlog, _, rfl⟩
      · have hthread : ((c.acquire .socket).acquire (.thread .receiver)).Holds _ :=
          StartCall.Holds.acquire hsocket (by
            simp [UdpReceiver.places, gstPlaces, elementPlaces, laterElements])
        have hplaces : UdpReceiver.places
            { running := true, sockfd := true, thread := true } + gstPlaces =
            {.thread .receiver} + ({.socket} + (UdpReceiver.places {} + gstPlaces)) := by
          simp only [UdpReceiver.places, heldIf, Bool.false_eq_true, if_false, if_true,
            Multiset.zero_add]
          ac_rfl
        rw [← hplaces] at hthread
        exact ⟨stored_owned hthread (fun hfalse => by contradiction) hlog, _, rfl⟩

/-- `video_decoder_start`, whether or not it succeeds. -/
theorem videoDecoderStart_owns {d : DecoderObject} {r : Int × DecoderObject × StartCall}
    (hsane : Decoder.Sane d.vd ∧ 0 ≤ d.vd.drmFd) (hframe : d.frameThread = false)
    (hdisplay : d.displayThread = false) (h : c.Holds (d.places + now))
    (hframeFree : .thread .frame ∉ now) (hdisplayFree : .thread .display ∉ now)
    (hstart : videoDecoderStart answers d c = some r) :
    Owns r.2 now ∧ r.2.2.ps = c.ps ∧ r.2.2.decoderLog = c.decoderLog := by
  unfold videoDecoderStart at hstart
  split at hstart
  · cases hstart
    exact ⟨⟨Or.inl hsane, h⟩, rfl, rfl⟩
  · split at hstart
    · cases hstart
      exact ⟨⟨Or.inl hsane, h⟩, rfl, rfl⟩
    · split at hstart
      · cases hstart
        exact ⟨⟨Or.inl ⟨hsane.1.withRunning false, hsane.2⟩, h⟩, rfl, rfl⟩
      · have hplaces : d.places = {.decoder} := by
          simp [DecoderObject.places, hframe, hdisplay, heldIf]
        rw [hplaces] at h
        have hthread : (c.acquire (.thread .frame)).Holds _ :=
          StartCall.Holds.acquire h (by simp [hframeFree])
        have hrunning := hsane.1.withRunning true
        split at hstart
        · rcases Option.map_eq_some_iff.mp hstart with ⟨joined, hjoin, rfl⟩
          have hstarted : DecoderObject.Sane
              { d with vd := { d.vd with running := true }, frameThread := true } :=
            Or.inl ⟨hrunning, hsane.2⟩
          rcases joinFrameThread_holds hstarted hthread hjoin with
            ⟨hsane', hframe', hdisplay', hholds, hps, hlog⟩
          refine ⟨⟨hsane', ?_⟩, hps, hlog⟩
          simpa [DecoderObject.places, hframe', hdisplay', hdisplay, heldIf] using hholds
        · cases hstart
          have hboth : ((c.acquire (.thread .frame)).acquire (.thread .display)).Holds _ :=
            StartCall.Holds.acquire hthread (by simp [hdisplayFree])
          rw [add_left_comm] at hboth
          refine ⟨⟨Or.inl ⟨hrunning, hsane.2⟩, ?_⟩, rfl, rfl⟩
          simp only [DecoderObject.places, heldIf, if_true, Multiset.add_assoc]
          exact hboth

/-- The call with a decoder stored in `ps`. -/
theorem owned_withDecoder {d : DecoderObject} {ps : PipelineState} {initialized running : Bool}
    (h : Owns (d, c) ps.places) (hnone : ps.decoder = none)
    (hreceiver : ∀ ur, ps.udpReceiver = some ur → ur.Sane)
    (hlog : Accounts Decoder.Resource.owner c.decoderLog 0) :
    StartCall.Owned { c with ps := { ps with
      decoder := some d, decoderInitialized := initialized, decoderRunning := running } } := by
  constructor
  case holds =>
    simp only [places_withDecoder hnone]
    exact h.holds
  case receiver => exact hreceiver
  case decoder =>
    intro d' hd
    cases hd
    exact h.sane
  case decoderLog => exact hlog

/-- `video_decoder_init` and `video_decoder_start` of a new decoder. -/
theorem startDecoder_owned {ok : Bool} (h : c.Holds ({.decoder} + c.ps.places))
    (hnone : c.ps.decoder = none)
    (hreceiver : ∀ ur, c.ps.udpReceiver = some ur → ur.Sane)
    (hframeFree : .thread .frame ∉ c.ps.places) (hdisplayFree : .thread .display ∉ c.ps.places)
    (hlog : Accounts Decoder.Resource.owner c.decoderLog 0)
    (hstart : startDecoder answers {} c = some (ok, c')) :
    c'.Owned ∧ c'.ps.appsinkThread = c.ps.appsinkThread ∧
      c'.ps.busThread = c.ps.busThread := by
  unfold startDecoder at hstart
  rcases Option.bind_eq_some_iff.mp hstart with ⟨⟨r, vd⟩, hinit, hstart⟩
  have hholds : c.Holds (DecoderObject.places { vd := vd } + c.ps.places) := by
    simpa [DecoderObject.places, heldIf] using h
  rcases Decoder.videoDecoderInit_outcome rfl hinit with ⟨rfl, hsane⟩ | ⟨rfl, hempty⟩
  · simp only [ne_eq, not_true_eq_false, if_false] at hstart
    rcases Option.map_eq_some_iff.mp hstart with ⟨started, hrun, hstarted⟩
    rcases videoDecoderStart_owns hsane rfl rfl hholds hframeFree hdisplayFree hrun with
      ⟨howns, -, hlog'⟩
    cases hstarted
    rw [← hlog'] at hlog
    exact ⟨owned_withDecoder howns hnone hreceiver hlog, rfl, rfl⟩
  · rw [if_pos (by simp)] at hstart
    cases hstart
    have howns : Owns (({ vd := vd } : DecoderObject), c) c.ps.places :=
      ⟨Or.inr ⟨hempty.1, hempty.2, rfl⟩, hholds⟩
    exact ⟨owned_withDecoder howns hnone hreceiver hlog, rfl, rfl⟩

/-- The handle of a thread is not NULL. -/
def PipelineState.handle (ps : PipelineState) : PipelineThread → Bool
  | .receiver => ps.udpReceiver.any UdpReceiver.thread
  | .frame => ps.decoder.any DecoderObject.frameThread
  | .display => ps.decoder.any DecoderObject.displayThread
  | .appsink => ps.appsinkThread
  | .bus => ps.busThread

/-- A thread is among the resources if its handle is not NULL. -/
theorem thread_mem_places (ps : PipelineState) (t : PipelineThread) :
    .thread t ∈ ps.places ↔ ps.handle t = true := by
  cases hreceiver : ps.udpReceiver <;> cases hdecoder : ps.decoder <;>
    cases hpipeline : ps.pipeline <;> cases t <;>
      simp [PipelineState.places, UdpReceiver.places, DecoderObject.places,
        PipelineState.handle, hreceiver, hdecoder, hpipeline, thread_notMem_gstPlaces]

/-- A new thread whose handle is stored in `ps`. -/
theorem StartCall.Owned.withThread {t : PipelineThread} {ps : PipelineState} (h : c.Owned)
    (hnone : c.ps.handle t = false) (hplaces : ps.places = {.thread t} + c.ps.places)
    (hreceiver : ps.udpReceiver = c.ps.udpReceiver) (hdecoder : ps.decoder = c.ps.decoder) :
    StartCall.Owned { c.acquire (.thread t) with ps := ps } := by
  constructor
  case holds =>
    rw [hplaces]
    apply StartCall.Holds.acquire h.holds
    rw [thread_mem_places, hnone]
    exact Bool.false_ne_true
  case receiver =>
    intro ur hur
    exact h.receiver ur (hreceiver.symm.trans hur)
  case decoder =>
    intro d hd
    exact h.decoder d (hdecoder.symm.trans hd)
  case decoderLog => exact h.decoderLog

/-- The appsink thread and the bus thread. -/
theorem startThreads_owned (h : c.Owned) (happsink : c.ps.appsinkThread = false)
    (hbus : c.ps.busThread = false) : (startThreads answers c).2.Owned := by
  unfold startThreads
  split
  · exact h
  · have hplaces : PipelineState.places { c.ps with appsinkThread := true } =
        {.thread .appsink} + c.ps.places := by
      simp only [PipelineState.places, happsink, heldIf, Bool.false_eq_true, if_false,
        if_true, Multiset.zero_add]
    have hfirst := h.withThread (t := .appsink) happsink hplaces rfl rfl
    split
    · exact hfirst
    · have hplaces' : PipelineState.places
          { c.ps with appsinkThread := true, busThread := true } =
          {.thread .bus} + PipelineState.places { c.ps with appsinkThread := true } := by
        simp only [PipelineState.places, hbus, heldIf, Bool.false_eq_true, if_false,
          if_true, Multiset.zero_add]
        ac_rfl
      exact hfirst.withThread (t := .bus) hbus hplaces' rfl rfl

/-- From the stores on, `ps` refers to all that is acquired, wherever the call ends. -/
theorem startRunning_owned {ok : Bool} (h : c.Holds (UdpReceiver.places {} + gstPlaces))
    (hps : c.ps = {}) (hlog : Accounts Decoder.Resource.owner c.decoderLog 0)
    (hstart : startRunning answers c = some (ok, c')) : c'.Owned := by
  have hreceiver : (startReceiver answers c).2.Owned ∧ _ := startReceiver_owned h hps hlog
  rcases hreceiver with ⟨howned, ur, hstored⟩
  unfold startRunning at hstart
  simp only at hstart
  split at hstart
  · cases hstart
    exact howned
  · split at hstart
    · cases hstart
      exact howned
    · unfold ensureDecoder at hstart
      rw [hstored] at hstart
      simp only at hstart
      cases hnew : answers.decoderNew with
      | false =>
          simp only [hnew, Bool.false_eq_true, if_false] at hstart
          cases hstart
          exact howned
      | true =>
          simp only [hnew, if_true] at hstart
          rcases Option.map_eq_some_iff.mp hstart with ⟨⟨decoded, c₁⟩, hdecoder, hthreads⟩
          have hfree : ∀ t, ((startReceiver answers c).2.ps.handle t = false →
              .thread t ∉ (startReceiver answers c).2.ps.places) := by
            intro t ht
            rw [thread_mem_places, ht]
            exact Bool.false_ne_true
          have hallocated : ((startReceiver answers c).2.acquire .decoder).Holds
              ({.decoder} + (startReceiver answers c).2.ps.places) := by
            apply StartCall.Holds.acquire howned.holds
            rw [hstored]
            simp [PipelineState.places, UdpReceiver.places, gstPlaces, elementPlaces,
              laterElements]
          have hnone : (startReceiver answers c).2.ps.decoder = none := by
            rw [hstored]
          have hdecoded := startDecoder_owned hallocated hnone howned.receiver
            (hfree .frame (by rw [hstored]; rfl)) (hfree .display (by rw [hstored]; rfl))
            howned.decoderLog hdecoder
          split at hthreads
          · cases hthreads
            exact hdecoded.1
          · have hend : c' = (startThreads answers c₁).2 := congrArg Prod.snd hthreads.symm
            rw [hend]
            apply startThreads_owned hdecoded.1
            · rw [hdecoded.2.1]
              exact congrArg PipelineState.appsinkThread hstored
            · rw [hdecoded.2.2]
              exact congrArg PipelineState.busThread hstored

/-! ## How far the call gets -/

/-- `udp_receiver_start` succeeds. -/
def StartAnswers.received (answers : StartAnswers) : Bool :=
  answers.socket && answers.bind && answers.receiverThread

/-- Every step from `udp_receiver_start` to the creation of the appsink thread
succeeds. -/
def StartAnswers.sampling (answers : StartAnswers) : Bool :=
  answers.received && startPlaying answers && answers.decoderNew &&
    (answers.init.succeeds && answers.frameThread && answers.displayThread) &&
    answers.appsinkThread

/-- After the stores the receiver has a running thread if `udp_receiver_start`
succeeded. -/
theorem startReceiver_received (answers : StartAnswers) (hps : c.ps = {}) :
    (startReceiver answers c).1 = answers.received ∧
      ∃ ur, (startReceiver answers c).2.ps =
          { pipeline := true, appsink := true, udpReceiver := some ur } ∧
        (ur.running && ur.thread) = answers.received := by
  unfold startReceiver udpReceiverStart StartAnswers.received
  rw [hps]
  simp only [Bool.false_eq_true, if_false]
  cases answers.socket with
  | false => exact ⟨rfl, _, rfl, rfl⟩
  | true =>
      cases answers.bind with
      | false => exact ⟨rfl, _, rfl, rfl⟩
      | true =>
          cases answers.receiverThread with
          | false => exact ⟨rfl, _, rfl, rfl⟩
          | true => exact ⟨rfl, _, rfl, rfl⟩

/-- `video_decoder_start` of an initialised decoder returns 0 if both threads are
created. -/
theorem videoDecoderStart_succeeds {d : DecoderObject} {r : Int × DecoderObject × StartCall}
    (hinitialized : d.vd.initialized = true) (hrunning : d.vd.running = false)
    (hstart : videoDecoderStart answers d c = some r) :
    r.1 = 0 ↔ (answers.frameThread && answers.displayThread) = true := by
  unfold videoDecoderStart at hstart
  rw [hinitialized, hrunning] at hstart
  simp only [Bool.not_true, Bool.false_eq_true, if_false] at hstart
  cases hframe : answers.frameThread with
  | false =>
      simp only [hframe, Bool.not_false, if_true] at hstart
      cases hstart
      simp
  | true =>
      simp only [hframe, Bool.not_true, Bool.false_eq_true, if_false] at hstart
      cases hdisplay : answers.displayThread with
      | false =>
          simp only [hdisplay, Bool.not_false, if_true] at hstart
          rcases Option.map_eq_some_iff.mp hstart with ⟨joined, -, rfl⟩
          simp
      | true =>
          simp only [hdisplay, Bool.not_true, Bool.false_eq_true, if_false] at hstart
          cases hstart
          simp

/-- `decoder_running` is set if the decoder was initialised and started. -/
theorem startDecoder_reached {ok : Bool} (hrunning : c.ps.decoderRunning = false)
    (hstart : startDecoder answers {} c = some (ok, c')) :
    ok = (answers.init.succeeds && answers.frameThread && answers.displayThread) ∧
      c'.ps = { c.ps with
        decoder := c'.ps.decoder
        decoderInitialized := c'.ps.decoderInitialized
        decoderRunning := ok } := by
  unfold startDecoder at hstart
  rcases Option.bind_eq_some_iff.mp hstart with ⟨⟨r, vd⟩, hinit, hstart⟩
  have hsucceeds := Decoder.videoDecoderInit_succeeds hinit
  simp only at hstart hsucceeds
  cases hall : answers.init.succeeds with
  | false =>
      rw [hall] at hsucceeds
      rw [if_pos (by simpa using hsucceeds.1)] at hstart
      cases hstart
      exact ⟨rfl, by rw [← hrunning]⟩
  | true =>
      have hzero := hsucceeds.1.mpr hall
      rcases hsucceeds.2 hzero with ⟨hinitialized, hidle⟩
      rw [if_neg (not_not.mpr hzero)] at hstart
      rcases Option.map_eq_some_iff.mp hstart with ⟨started, hrun, hend⟩
      cases hend
      have hboth := videoDecoderStart_succeeds hinitialized hidle hrun
      refine ⟨?_, rfl⟩
      rw [Bool.eq_iff_iff, decide_eq_true_iff, hboth, Bool.true_and]

/-- The appsink thread loops from its creation on. -/
theorem startThreads_reached (answers : StartAnswers) (happsink : c.ps.appsink = true)
    (hnone : c.ps.appsinkThread = false) (hstop : c.ps.stopRequested = false)
    (hrunning : c.ps.decoderRunning = true) :
    (startThreads answers c).1 = (answers.appsinkThread && answers.busThread) ∧
      (startThreads answers c).2.ps.appsinkLoops = answers.appsinkThread ∧
      (startThreads answers c).2.ps.udpReceiver = c.ps.udpReceiver := by
  unfold startThreads PipelineState.appsinkLoops
  cases answers.appsinkThread with
  | false => simp [hnone]
  | true => cases answers.busThread <;> simp [happsink, hstop, hrunning]

/-- Without an appsink thread none loops. -/
theorem appsinkLoops_none {ps : PipelineState} (h : ps.appsinkThread = false) :
    ps.appsinkLoops = false := by
  unfold PipelineState.appsinkLoops
  rw [h]
  rfl

/-- Where the call ends that has a decoder and a receiver, and whether its appsink thread ends. -/
theorem startDecoded_reached {ok : Bool} {ur : UdpReceiver}
    (hps : c.ps = { pipeline := true, appsink := true, udpReceiver := some ur })
    (hstart : ((startDecoder answers {} c).map fun decoded =>
      if !decoded.1 then decoded else startThreads answers decoded.2) = some (ok, c')) :
    ok = (answers.init.succeeds && answers.frameThread && answers.displayThread &&
        answers.appsinkThread && answers.busThread) ∧
      c'.ps.appsinkLoops = (answers.init.succeeds && answers.frameThread &&
        answers.displayThread && answers.appsinkThread) ∧
      c'.ps.udpReceiver = some ur := by
  rcases Option.map_eq_some_iff.mp hstart with ⟨⟨decoded, c₁⟩, hdecoder, hthreads⟩
  rcases startDecoder_reached (by rw [hps]) hdecoder with ⟨hdecoded, hps₁⟩
  rw [hps] at hps₁
  rw [← hdecoded]
  have hreceiver : c₁.ps.udpReceiver = some ur := by rw [hps₁]
  have hnone : c₁.ps.appsinkThread = false := by rw [hps₁]
  cases decoded with
  | false =>
      simp only [Bool.not_false, if_true] at hthreads
      cases hthreads
      exact ⟨rfl, appsinkLoops_none hnone, hreceiver⟩
  | true =>
      simp only [Bool.not_true, Bool.false_eq_true, if_false] at hthreads
      rcases startThreads_reached answers (by rw [hps₁]) hnone (by rw [hps₁]) (by rw [hps₁]) with
        ⟨hcreated, hloops, hsame⟩
      rw [hthreads] at hcreated hloops hsame
      exact ⟨hcreated, hloops, hsame.trans hreceiver⟩

/-- Where the second half of the call ends, and whether the threads it has created end. -/
theorem startRunning_reached {ok : Bool} (hps : c.ps = {})
    (hstart : startRunning answers c = some (ok, c')) :
    ok = (answers.sampling && answers.busThread) ∧
      c'.ps.appsinkLoops = answers.sampling ∧
      c'.ps.receiverBlocks answers =
        (answers.pool && answers.poolExhausted && answers.received) := by
  rcases startReceiver_received answers hps with ⟨hok, ur, hstored, hthread⟩
  have hblocks : ∀ ps : PipelineState, ps.udpReceiver = some ur → ps.receiverBlocks answers =
      (answers.pool && answers.poolExhausted && answers.received) := by
    intro ps hreceiver
    rw [PipelineState.receiverBlocks, hreceiver, Option.any_some, hthread]
  have hearly : (startReceiver answers c).2.ps.appsinkLoops = false ∧
      (startReceiver answers c).2.ps.receiverBlocks answers =
        (answers.pool && answers.poolExhausted && answers.received) := by
    rw [hstored]
    exact ⟨rfl, hblocks _ rfl⟩
  unfold startRunning at hstart
  simp only [hok] at hstart
  unfold StartAnswers.sampling
  cases hreceived : answers.received with
  | false =>
      rw [hreceived] at hearly
      simp only [hreceived, Bool.not_false, if_true, Option.some.injEq] at hstart
      rw [hstart] at hok hearly
      exact ⟨hok.trans hreceived, hearly⟩
  | true =>
      rw [hreceived] at hearly hblocks
      simp only [hreceived, Bool.not_true, Bool.false_eq_true, if_false] at hstart
      cases hplaying : startPlaying answers with
      | false =>
          simp only [hplaying, Bool.not_false, if_true] at hstart
          cases hstart
          exact ⟨rfl, hearly⟩
      | true =>
          unfold ensureDecoder at hstart
          simp only [hplaying, Bool.not_true, Bool.false_eq_true, if_false, hstored] at hstart
          cases hnew : answers.decoderNew with
          | false =>
              simp only [hnew, Bool.false_eq_true, if_false] at hstart
              cases hstart
              exact ⟨rfl, hearly⟩
          | true =>
              simp only [hnew, if_true] at hstart
              have hstored' : ((startReceiver answers c).2.acquire .decoder).ps =
                  { pipeline := true, appsink := true, udpReceiver := some ur } := hstored
              rcases startDecoded_reached hstored' hstart with ⟨hend, hloops, hreceiver⟩
              exact ⟨hend, hloops, hblocks _ hreceiver⟩

/-! ## The whole call -/

/-- What every call of `pipeline_start` finds when the pipeline is stopped: no decoder. -/
structure PipelineState.Idle (ps : PipelineState) : Prop where
  decoder : ps.decoder = none
  initialized : ps.decoderInitialized = false
  running : ps.decoderRunning = false

/-- After the assignments at its start `ps` is blank. -/
theorem resetFields_idle {ps : PipelineState} (h : ps.Idle) (hstopped : ps.state = .stopped) :
    ps.resetFields = {} := by
  rcases ps with ⟨state, pipeline, appsink, receiver, bus, appsinkThread, decoder,
    initialized, running, stopRequested⟩
  have hdecoder := h.decoder
  have hinitialized := h.initialized
  have hrunning := h.running
  simp only at hdecoder hinitialized hrunning hstopped
  subst hdecoder hinitialized hrunning hstopped
  rfl

/-- `cleanup_pipeline` of a blank `ps` does nothing. -/
theorem failStart_blank (h : c.ps = {}) : failStart answers c = some (.returned (-1), c) := by
  rcases c with ⟨ps, log, decoderLog⟩
  simp only at h
  subst h
  have hblocks : (joinThreads { log := log, decoderLog := decoderLog }).ps.receiverBlocks
      answers = false := by
    unfold PipelineState.receiverBlocks
    exact Bool.and_false _
  unfold failStart cleanupPipeline
  simp only [hblocks, Bool.false_eq_true, if_false]
  rfl

/-- `cleanup_pipeline` gives back everything and the call returns -1 exactly when the
threads that `cleanup_pipeline` waits for end. -/
theorem failStart_balanced_iff {e : StartEnd} (h : c.Owned)
    (hfail : failStart answers c = some (e, c')) :
    (e = .returned (-1) ∧ c'.Balanced) ↔
      c.ps.appsinkLoops = false ∧ c.ps.receiverBlocks answers = false := by
  unfold failStart at hfail
  rcases Option.map_eq_some_iff.mp hfail with ⟨⟨waits, c₁⟩, hclean, hend⟩
  cases hend
  cases hloops : c.ps.appsinkLoops with
  | true =>
      unfold cleanupPipeline at hclean
      rw [hloops] at hclean
      cases hclean
      simp
  | false =>
      cases hblocks : c.ps.receiverBlocks answers with
      | true =>
          have hjoined : (joinThreads c).ps.receiverBlocks answers = true := hblocks
          unfold cleanupPipeline at hclean
          simp only [hloops, Bool.false_eq_true, if_false, hjoined, if_true] at hclean
          cases hclean
          simp
      | false =>
          rcases cleanupPipeline_balanced h hloops hblocks hclean with ⟨rfl, hbalanced⟩
          exact ⟨fun _ => ⟨rfl, rfl⟩, fun _ => ⟨rfl, hbalanced⟩⟩

/-- A failure past `gst_element_link_many`, if there is one, leaves threads that end: the
appsink thread is not created unless the bus thread is, and the receiver thread does not
wait for a buffer. -/
def StartAnswers.endsThreads (answers : StartAnswers) : Bool :=
  if answers.sampling then answers.busThread
  else !(answers.pool && answers.poolExhausted && answers.received)

/-- The failing step, if there is one, is no step between `gst_pipeline_new` and the
stores to `ps`, nor one that leaves a thread which does not end. -/
def failsOutside (answers : StartAnswers) (ps : PipelineState) : Bool :=
  ps.state ≠ .stopped || !answers.pipelineNew || (answers.linked && answers.endsThreads)

/-- A call that acquired nothing is balanced. -/
theorem balanced_new (ps : PipelineState) : StartCall.Balanced { ps := ps } :=
  ⟨.nil, .nil⟩

/-- A failure past `gst_element_link_many` leaves nothing behind exactly when the threads
end. -/
theorem startRunning_balanced_iff {e : StartEnd} (hok : (startElements answers {}).1 = true)
    (hstart : ((startRunning answers (startElements answers {}).2).bind fun started =>
      if !started.1 then failStart answers started.2
      else
        some (.returned 0, { started.2 with ps := { started.2.ps with state := .running } })) =
        some (e, c)) :
    (e ≠ .returned 0 → e = .returned (-1) ∧ c.Balanced) ↔ answers.endsThreads = true := by
  rcases Option.bind_eq_some_iff.mp hstart with ⟨⟨ok, c₁⟩, hrunning, hend⟩
  have hlinked := hok
  rw [startElements_fst, Bool.and_eq_true] at hlinked
  have hlocal := startElements_holds (c := {}) .nil hlinked.1
  rw [localPlaces_linked hlinked.2] at hlocal
  have hframe := startElements_frame answers {}
  have hlog : Accounts Decoder.Resource.owner (startElements answers {}).2.decoderLog 0 := by
    rw [hframe.2]
    exact .nil
  have howned := startRunning_owned hlocal hframe.1 hlog hrunning
  rcases startRunning_reached hframe.1 hrunning with ⟨hreached, hloops, hblocks⟩
  unfold StartAnswers.endsThreads
  cases ok with
  | true =>
      cases hend
      rw [eq_comm, Bool.and_eq_true] at hreached
      simp [hreached.1, hreached.2]
  | false =>
      have hfailed := failStart_balanced_iff howned hend
      rw [hloops, hblocks] at hfailed
      have hnonzero : e ≠ .returned 0 := by
        rintro rfl
        rcases Option.map_eq_some_iff.mp hend with ⟨⟨waits, c₂⟩, -, hsame⟩
        cases waits <;> simp at hsame
      rw [imp_iff_right hnonzero, hfailed]
      cases hsampling : answers.sampling with
      | true =>
          rw [hsampling, Bool.true_and] at hreached
          simp [← hreached]
      | false =>
          simp only [true_and, Bool.false_eq_true, if_false, Bool.not_eq_true']

/-- Before the stores `ps` does not refer to the pipeline. -/
theorem startElements_unbalanced (hnew : answers.pipelineNew = true) :
    ¬ (startElements answers {}).2.Balanced := by
  intro hbalanced
  have hlocal := startElements_holds (c := {}) .nil hnew
  have hzero : localPlaces answers = 0 := hlocal.held_eq.symm.trans hbalanced.log.held_eq
  have hmem := pipeline_mem_localPlaces answers
  rw [hzero] at hmem
  exact Multiset.notMem_zero _ hmem

/-- The creation of the appsink thread fails, after the frame thread has set its buffers
up. -/
def appsinkFails : StartAnswers where
  pool := true
  init :=
    { packetBuf := some 1, dupFd := some 7, mppCreate := some 4, packetInit := some 5 }
  frames :=
    [{ frame := { infoChange := true }
       group := some 6
       slots := [{ createDumb := some 10, exported := some 20, addFb := some 30 }] }]
  appsinkThread := false

/-- When only the bus thread cannot be created, `cleanup_pipeline` waits for the appsink
thread for ever. -/
example : (pipelineStart { appsinkFails with appsinkThread := true, busThread := false } {}).any
    (fun r => r.1 = .waits .appsink) = true := by
  decide +kernel

/-- The element `rtph265depay` is not installed. -/
def noDepay : StartAnswers where
  element e := e ≠ .depay

end Pipeline
end PixelPilot
