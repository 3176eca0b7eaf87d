import Camera3D.Hub.Completion
import Camera3D.Hub.InFlight

/-! What the references of a `GetDepth` reply point to. They combine the number that was published
with the header that is in the slot now; no call compares the two. -/
namespace Camera3D.Hub
open Camera Serial Ipc Transition

/-- A reference to the slot of a published frame is empty, or the frame is still there. -/
def ShmFrameRef.LiveFor (ref : ShmFrameRef) (shm : ShmRingBuffer) (slot : UInt32)
    (fb : FrameBuffer) : Prop :=
  ref = {} ∨ ref.seq = (shm.cell slot).seq ∧ shm.range ref.offsetBytes ref.sizeBytes = fb.bytes

/-- Every reference of a reply for the publication `pub` is empty or live. -/
structure DepthReply.Faithful (r : DepthReply) (shm : ShmRingBuffer) (pub : CapturePublication) :
    Prop where
  raw : r.rawFrame.LiveFor shm pub.rawSlot (pub.cameraRawSlots.headD {}).frame
  intermediate : r.intermediateFrame = {}
  fin : r.finalFrame.LiveFor shm pub.finSlot (pub.cameraRawSlots.headD {}).frame
  frame : r.frame = r.rawFrame ∨ r.frame = r.finalFrame
  cameras : ∀ (k : ℕ) (ref : CameraRawFrameRef), r.cameraRawFrames[k]? = some ref →
    ∃ e, pub.cameraRawSlots[k]? = some e ∧ ref.frame.LiveFor shm e.rawSlot e.frame

/-- The ring still holds every frame that the publication names. -/
structure CapturePublication.Kept (pub : CapturePublication) (shm : ShmRingBuffer) : Prop where
  live : ∀ p ∈ pub.named, p.slot.toNat < 64 ∧ shm.cell p.slot = p.cell
  hasInter : pub.hasInter = false
  first : pub.rawSlot = (pub.cameraRawSlots.headD {}).rawSlot ∧
    pub.rawSeq = (pub.cameraRawSlots.headD {}).rawSeq
  nonempty : pub.cameraRawSlots ≠ []

namespace State

theorem frameRef_liveFor {s : State} (hr : HubRing s.shm) {p : Published} (hp : p.slot.toNat < 64)
    (hlive : s.shm.cell p.slot = p.cell) : (s.frameRef p.slot p.seq).LiveFor s.shm p.slot p.frame := by
  unfold frameRef
  rcases hr.tryReadSlot_cases hp with ⟨hnone, _⟩ | ⟨v, hsome, _, _, _, himage⟩
  · rw [hnone]
    exact .inl rfl
  · rw [hsome]
    right
    rw [hlive] at himage ⊢
    exact ⟨rfl, congrArg Image.bytes himage⟩

theorem depthReply_faithful {s : State} (hr : HubRing s.shm) {pub : CapturePublication}
    (hk : pub.Kept s.shm) : (s.depthReply pub).Faithful s.shm pub := by
  have hentry : ∀ e ∈ pub.cameraRawSlots,
      (s.frameRef e.rawSlot e.rawSeq).LiveFor s.shm e.rawSlot e.frame := by
    intro e he
    obtain ⟨hlt, hlive⟩ := hk.live _ (pub.mem_frames he _)
    exact frameRef_liveFor (p := e.published) hr hlt hlive
  have hfirst : pub.cameraRawSlots.headD {} ∈ pub.cameraRawSlots := by
    cases hslots : pub.cameraRawSlots with
    | nil => exact absurd hslots hk.nonempty
    | cons e slots => exact List.mem_cons_self
  constructor
  case raw =>
    have href : (s.depthReply pub).rawFrame = s.frameRef pub.rawSlot pub.rawSeq := rfl
    rw [href, hk.first.1, hk.first.2]
    exact hentry _ hfirst
  case intermediate =>
    show (if pub.hasInter then s.fillShmRef pub true false else {}) = {}
    rw [hk.hasInter]
    rfl
  case fin =>
    show (if pub.hasFinal then s.fillShmRef pub false true else {}).LiveFor s.shm pub.finSlot
      (pub.cameraRawSlots.headD {}).frame
    cases hfin : pub.hasFinal with
    | false => exact .inl rfl
    | true =>
      let p : Published := ⟨(pub.cameraRawSlots.headD {}).frame, pub.finSeq, pub.finSlot⟩
      have hmem : p ∈ pub.named := by
        rw [CapturePublication.named, CapturePublication.frames, hfin]
        exact List.mem_append_right _ (List.mem_singleton.mpr rfl)
      obtain ⟨hlt, hlive⟩ := hk.live p hmem
      have href : s.fillShmRef pub false true = s.frameRef p.slot p.seq := rfl
      rw [if_pos rfl, href]
      exact frameRef_liveFor hr hlt hlive
  case frame =>
    unfold depthReply
    dsimp only
    rw [hk.hasInter]
    cases pub.hasFinal with
    | false => exact .inl rfl
    | true => exact .inr rfl
  case cameras =>
    intro k ref href
    have hmap : (s.depthReply pub).cameraRawFrames = pub.cameraRawSlots.map s.cameraRawFrame := rfl
    rw [hmap, List.getElem?_map, Option.map_eq_some_iff] at href
    obtain ⟨e, he, rfl⟩ := href
    exact ⟨e, he, hentry e (List.mem_of_getElem? he)⟩

theorem depthKey_eq {s : State} {request : DepthRequest} (h : request.clientCaptureId ≠ 0) :
    s.depthKey request = request.clientCaptureId := if_pos h

/-- A reply without references is faithful to any publication. -/
theorem faithful_of_status (status : Status) (shm : ShmRingBuffer) (pub : CapturePublication) :
    DepthReply.Faithful { status } shm pub :=
  ⟨.inl rfl, rfl, .inl rfl, .inl rfl, fun k ref h => by cases h⟩

theorem getDepth_faithful {s : State} (hr : HubRing s.shm) {request : DepthRequest}
    {pub : CapturePublication} (hpub : s.store.publications.lookup (s.depthKey request) = some pub)
    (hk : pub.Kept s.shm) : (s.getDepth request).Faithful s.shm pub := by
  unfold getDepth
  cases s.fillUnifiedGateLocked with
  | some status => exact faithful_of_status status s.shm pub
  | none =>
    dsimp only
    rw [hpub]
    split_ifs
    · exact faithful_of_status _ s.shm pub
    · exact faithful_of_status _ s.shm pub
    · exact depthReply_faithful hr hk

/-- All stored publications are still in the ring. -/
def Live (s : State) : Prop :=
  ∀ cid pub, s.store.publications.lookup cid = some pub → pub.Kept s.shm

theorem Live.move {s s' : State} {r : Option CaptureRequest} (h : s.Live) (hm : s.Move r s') :
    s'.Live := by
  cases hm with
  | same => exact h
  | runtime rt hne => exact h
  | resumed rt hrt hold => exact h
  | counted request hid hs => exact h
  | armed request hadm => exact h
  | notSent request hadm => exact h
  | timedOut hw => exact h
  | errorTaken => exact h
  | released hs =>
    intro cid pub hpub
    cases hpub

/-- The slots that a capture completed by this callback writes. -/
def nextSlots (s : State) (sNext : UInt32) : List ℕ :=
  (List.range s.writeCount).map fun k => (sNext.toNat + k) % 64

/-- The callback completes the capture in flight. -/
def Completes (s : State) (mid : String) (fb : FrameBuffer) : Prop :=
  s.awaitingFrame = true ∧ mid ∈ s.sessionDevicesOrdered ∧ (s.pushFrame mid fb).burstsComplete = true

instance (s : State) (mid : String) (fb : FrameBuffer) : Decidable (s.Completes mid fb) :=
  inferInstanceAs (Decidable (_ ∧ _ ∧ _))

/-- A completing callback has a slot for each of its frames, none of them in use by a publication
that it leaves in the store. -/
def Spares (s : State) (sNext : UInt32) (mid : String) (fb : FrameBuffer) : Prop :=
  s.Completes mid fb → s.writeCount ≤ 64 ∧
    ∀ kv ∈ s.store.publications.entries,
      (s.onCameraFrame sNext mid fb).1.store.publications.lookup kv.1 = some kv.2 →
      ∀ slot ∈ kv.2.slots, slot.toNat ∉ s.nextSlots sNext

theorem Kept.of_untouched {pub : CapturePublication} {s s' : RingWriter} {ps : List Published} {n : ℕ}
    (hk : pub.Kept s.shm) (hw : s.Writes ps s') (hn : ps.length ≤ n)
    (hspare : ∀ slot ∈ pub.slots,
      slot.toNat ∉ (List.range n).map fun k => (s.sNext.toNat + k) % 64) : pub.Kept s'.shm := by
  refine ⟨fun p hp => ?_, hk.hasInter, hk.first, hk.nonempty⟩
  obtain ⟨hlt, hlive⟩ := hk.live p hp
  have hslot : p.slot ∈ pub.slots := by
    rw [pub.slots_eq]
    exact List.mem_map_of_mem hp
  have hnot : p.slot ∉ ps.map Published.slot := by
    intro hmem
    obtain ⟨q, hq, heq⟩ := List.mem_map.mp hmem
    exact hspare p.slot hslot (heq ▸ hw.slot_mem hn hq)
  exact ⟨hlt, (hw.untouched hlt hnot).trans hlive⟩

/-- A publication is live when it is published, if the ring has a slot for each of its frames. -/
theorem Publishes.kept {s : State} {sNext : UInt32} {w : RingWriter} {out : CapturePublication}
    (h : s.Publishes sNext w out) (hcount : s.writeCount ≤ 64) :
    out.Kept w.shm := by
  have hlen : out.named.length ≤ 64 := by
    rw [CapturePublication.named, h.covers.length_frames]
    exact Nat.le_trans s.length_listed_le hcount
  have hnodup := h.writes.nodup_iff.mpr hlen
  have hslots : out.cameraRawSlots ≠ [] := by
    intro hnil
    have hframes := h.covers.frames_eq
    rw [hnil] at hframes
    exact h.nonempty (List.map_eq_nil_iff.mp hframes.symm)
  refine ⟨fun p hp => ⟨h.writes.slot_lt hp, h.writes.live hnodup hp⟩, h.covers.hasInter, ?_, hslots⟩
  cases hs : out.cameraRawSlots with
  | nil => exact absurd hs hslots
  | cons e slots => exact h.covers.first e (by rw [hs]; rfl)

theorem Live.onCameraFrame {s : State} (h : s.Live) (hs : s.Sound) {sNext : UInt32} {mid : String}
    {fb : FrameBuffer} (hspare : s.Spares sNext mid fb) : (s.onCameraFrame sNext mid fb).1.Live := by
  have hd := hs.delivers sNext mid fb
  unfold Spares at hspare
  generalize s.onCameraFrame sNext mid fb = r at hd hspare
  cases hd with
  | dropped hdrop => exact h
  | kept hw hm hc => exact h
  | @unpublished hw hm hc w s₁ ps hps hshm hle err =>
    obtain ⟨_, hfree⟩ := hspare ⟨hw, hm, hc⟩
    intro cid pub hpub
    have hkv := AList.mem_lookup_iff.mp hpub
    have hkept := Kept.of_untouched (h cid pub hpub) hps hle (hfree ⟨cid, pub⟩ hkv hpub)
    rw [← hshm] at hkept
    exact hkept
  | @published hw hm hc w out hp =>
    obtain ⟨hcount, hfree⟩ := hspare ⟨hw, hm, hc⟩
    intro cid pub hpub
    rcases PublicationStore.lookup_remember hpub with ⟨rfl, rfl⟩ | ⟨_, hold⟩
    · have hkept := hp.kept hcount
      exact ⟨hkept.live, hkept.hasInter, hkept.first, hkept.nonempty⟩
    · have hkv := AList.mem_lookup_iff.mp hold
      have hle : out.named.length ≤ s.writeCount := by
        rw [CapturePublication.named, hp.covers.length_frames]
        exact (s.pushFrame mid fb).length_listed_le
      exact Kept.of_untouched (h cid pub hold) hp.writes hle (hfree ⟨cid, pub⟩ hkv hpub)

end State

namespace World
variable {α π θ : Type*} [ICameraAdapter α] [ISerialPort π] [DecidableEq θ]

/-- A capture completed by the event spares the publications that stay in the store. -/
def Spares (w : World α π θ) : Event α π θ → Prop
  | .cameraFrame thread mid fb => w.hub.toState.Spares (w.cursor thread) mid fb
  | _ => True

instance (w : World α π θ) : ∀ e, Decidable (w.Spares e)
  | .cameraFrame _ _ _ => inferInstanceAs (Decidable (_ → _ ∧ ∀ kv ∈ _, _ → ∀ slot ∈ _, _))
  | .call _ _ | .step _ | .portChanged _ | .cameraChanged _ _ | .tick => isTrue trivial

theorem step_live {w : World α π θ} {e : Event α π θ} (he : w.Spares e)
    (h : w.hub.Sound ∧ w.hub.Live) : (w.step e).hub.Sound ∧ (w.step e).hub.Live := by
  refine ⟨step_sound h.1 e, ?_⟩
  rcases w.step_move e with ⟨thread, mid, fb, rfl⟩ | hm
  · exact h.2.onCameraFrame h.1 he
  · exact h.2.move hm

/-- In a run whose captures spare the publications that stay, `GetDepth` never refers to the frame
of another capture. -/
theorem getDepth_faithful_of_spares (prototypes : AList fun _ : String => α) (port : π) (b : Boot)
    (cursor : θ → UInt32) {es : List (Event α π θ)}
    (hspares : Along World.step Spares (booted prototypes port b cursor) es) {w : World α π θ}
    (hw : w = run World.step (booted prototypes port b cursor) es) {request : DepthRequest}
    {pub : CapturePublication}
    (hpub : w.hub.store.publications.lookup (w.hub.depthKey request) = some pub) :
    (w.hub.getDepth request).Faithful w.hub.shm pub := by
  have hstart := Service.boot_unused prototypes port b
  have hlive : ((fresh prototypes port).boot b).Live := by
    intro cid pub hpub
    rw [hstart.store] at hpub
    cases hpub
  have hend := run_invariant_along (I := fun w : World α π θ => w.hub.Sound ∧ w.hub.Live)
    (fun w e he h => step_live he h) hspares ⟨hstart.sound, hlive⟩
  rw [← hw] at hend
  obtain ⟨hsound, hlive⟩ := hend
  have hpresets : w.hub.presetCameras ≠ [] := by
    rcases hsound.session with hi | he
    · rw [hi.store] at hpub
      cases hpub
    · exact he.presets
  exact State.getDepth_faithful (hsound.ring hpresets) hpub (hlive _ pub hpub)

/-- One capture of two cameras, completed by the thread of the second or of the first. -/
def twoCameraCapture (cid : UInt64) (first : Bool) : List (Event ReadyCamera EchoPort Bool) :=
  captureEvents { sessionId := "cam-1", async := true, clientCaptureId := cid } ++
    [.cameraFrame first (if first then "cam-1" else "cam-2") { bytes := [1], width := 1, height := 1 },
      .cameraFrame (!first) (if first then "cam-2" else "cam-1") { bytes := [2], width := 1, height := 1 }]

theorem getDepth_faithful_of_spares_one :
    ∃ w pub, w = run World.step (bench twoCameras) (twoCameraCapture 1 true) ∧
      Along World.step Spares (bench twoCameras) (twoCameraCapture 1 true) ∧
      (w.hub.getDepth { sessionId := "cam-1", clientCaptureId := 1 }).Faithful w.hub.shm pub := by
  have hspares : Along World.step Spares (bench twoCameras) (twoCameraCapture 1 true) := by
    decide +kernel
  have hsome : ((run World.step (bench twoCameras)
      (twoCameraCapture 1 true)).hub.store.publications.lookup 1).isSome = true := by
    decide +kernel
  obtain ⟨w, hw⟩ : ∃ w, w = run World.step (bench twoCameras) (twoCameraCapture 1 true) := ⟨_, rfl⟩
  rw [← hw] at hsome
  obtain ⟨pub, hpub⟩ := Option.isSome_iff_exists.mp hsome
  refine ⟨w, pub, hw, hspares, getDepth_faithful_of_spares _ _ _ _ hspares hw ?_⟩
  rw [State.depthKey_eq (by decide)]
  exact hpub

/-- Two captures, each the first that its thread completes. -/
def twoThreads : List (Event ReadyCamera EchoPort Bool) :=
  twoCameraCapture 1 false ++ twoCameraCapture 2 true

/-- Both captures take the slots 0 and 1: the references of the first then carry its numbers and
the bytes of the second. -/
theorem getDepth_mislabels :
    ¬ ∀ es request pub,
      (run World.step (bench twoCameras) es).hub.store.publications.lookup
        ((run World.step (bench twoCameras) es).hub.depthKey request) = some pub →
      ((run World.step (bench twoCameras) es).hub.getDepth request).Faithful
        (run World.step (bench twoCameras) es).hub.shm pub := by
  intro hall
  have h := hall twoThreads { sessionId := "cam-1", clientCaptureId := 1 }
  have hslot : ((run World.step (bench twoCameras) twoThreads).hub.store.publications.lookup 1).map
      CapturePublication.rawSlot = some 0 := by
    decide +kernel
  have href : ((run World.step (bench twoCameras) twoThreads).hub.getDepth
      { sessionId := "cam-1", clientCaptureId := 1 }).rawFrame.seq = 1 := by
    decide +kernel
  have hseq : ((run World.step (bench twoCameras) twoThreads).hub.shm.cell 0).seq = 2 := by
    decide +kernel
  generalize run World.step (bench twoCameras) twoThreads = w at h hslot href hseq
  obtain ⟨pub, hlook, hraw⟩ := Option.map_eq_some_iff.mp hslot
  rcases (h pub hlook).raw with hempty | ⟨hnow, _⟩
  · rw [hempty] at href
    cases href
  · rw [href, hraw, hseq] at hnow
    cases hnow

end World
end Camera3D.Hub
