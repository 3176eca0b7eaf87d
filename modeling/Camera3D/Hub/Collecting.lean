import Camera3D.Hub.LiveRefs
import Mathlib.Data.List.Induction

/-! A capture from its admission to the reply that delivers it, whatever the order in which the
threads of the cameras call back. -/
namespace Camera3D.Hub
open Camera Serial Ipc Transition HubServiceStateCode PublicationStore

/-- A call of `OnCameraFrame`. -/
structure Callback (θ : Type*) where
  thread : θ
  managerDeviceId : String
  fb : FrameBuffer

def Callback.event {α π θ : Type*} (f : Callback θ) : Event α π θ :=
  .cameraFrame f.thread f.managerDeviceId f.fb

/-- The frames that a camera delivers, in order. -/
def delivered {θ : Type*} (fs : List (Callback θ)) (id : String) : List FrameBuffer :=
  (fs.filter fun f => f.managerDeviceId = id).map Callback.fb

section Delivered
variable {θ : Type*} {fs : List (Callback θ)} {f : Callback θ} {id : String}

theorem delivered_append (fs gs : List (Callback θ)) (id : String) :
    delivered (fs ++ gs) id = delivered fs id ++ delivered gs id := by
  rw [delivered, List.filter_append, List.map_append]
  rfl

theorem delivered_append_self :
    delivered (fs ++ [f]) f.managerDeviceId = delivered fs f.managerDeviceId ++ [f.fb] := by
  rw [delivered_append]
  simp [delivered]

theorem delivered_append_ne (hne : id ≠ f.managerDeviceId) :
    delivered (fs ++ [f]) id = delivered fs id := by
  rw [delivered_append]
  simp [delivered, hne.symm]

theorem length_delivered_append (fs : List (Callback θ)) (f : Callback θ) (id : String) :
    (delivered fs id).length ≤ (delivered (fs ++ [f]) id).length := by
  rw [delivered_append, List.length_append]
  exact Nat.le_add_right _ _

theorem mem_delivered {fb : FrameBuffer} (h : fb ∈ delivered fs id) : ∃ g ∈ fs, g.fb = fb := by
  obtain ⟨g, hg, heq⟩ := List.mem_map.mp h
  exact ⟨g, List.mem_of_mem_filter hg, heq⟩

end Delivered

/-! Camera-major order: frame `j` of camera `i` is entry `i * K + j`. -/

theorem getElem?_listBurst (layout : CameraRawShmSlot) (j : UInt32) (frames : List FrameBuffer)
    (k : ℕ) : (listBurst layout j frames)[k]? =
      (frames[k]?).map fun fb => ⟨layout, j + .ofNat k, fb⟩ := by
  induction frames generalizing j k with
  | nil => rfl
  | cons raw frames ih =>
    cases k with
    | zero => simp [listBurst]
    | succ k =>
      have hnext : j + 1 + UInt32.ofNat k = j + UInt32.ofNat (k + 1) := by
        rw [UInt32.ofNat_add, UInt32.add_assoc, UInt32.add_comm 1]
        rfl
      rw [listBurst, List.getElem?_cons_succ, List.getElem?_cons_succ, ih, hnext]

theorem getElem?_listing {burstsById : Bursts} {K : ℕ} {cameras : List (String × CameraRawShmSlot)}
    (hfull : ∀ camera ∈ cameras, Full burstsById K camera.1) {i : ℕ}
    {camera : String × CameraRawShmSlot} (hi : cameras[i]? = some camera) {j : ℕ} (hj : j < K) :
    ∃ fb, ((burstsById.lookup camera.1).getD [])[j]? = some fb ∧
      (listing burstsById K cameras)[i * K + j]? = some ⟨camera.2, .ofNat j, fb⟩ := by
  induction cameras generalizing i with
  | nil => cases hi
  | cons c cameras ih =>
    obtain ⟨vec, hvec, hle⟩ := hfull c List.mem_cons_self
    have hlen : (listBurst c.2 0 (((burstsById.lookup c.1).getD []).take K)).length = K := by
      rw [length_listBurst, hvec, Option.getD_some, List.length_take, Nat.min_eq_left hle]
    rw [listing]
    cases i with
    | zero =>
      obtain rfl : c = camera := Option.some.inj hi
      have hlt : j < vec.length := Nat.lt_of_lt_of_le hj hle
      refine ⟨vec[j], ?_, ?_⟩
      · rw [hvec, Option.getD_some, List.getElem?_eq_getElem hlt]
      · rw [Nat.zero_mul, Nat.zero_add, List.getElem?_append_left (hlen.symm ▸ hj),
          getElem?_listBurst, hvec, Option.getD_some, List.getElem?_take_of_lt hj,
          List.getElem?_eq_getElem hlt, Option.map_some, UInt32.zero_add]
    | succ i =>
      have hidx : (i + 1) * K + j = K + (i * K + j) := by
        rw [Nat.add_one_mul]
        omega
      obtain ⟨fb, hfb, hentry⟩ := ih (fun c hc => hfull c (List.mem_cons_of_mem _ hc)) hi
      refine ⟨fb, hfb, ?_⟩
      rw [hidx, List.getElem?_append_right (by omega), hlen, Nat.add_sub_cancel_left]
      exact hentry

/-- The metadata under which the frames of preset camera `i` are listed. -/
def HubPresetCamera.slot (pc : HubPresetCamera) (i : ℕ) : CameraRawShmSlot :=
  { managerDeviceId := pc.managerDeviceId, ip := pc.ip, serialNumber := pc.serialNumber,
    cameraIndex := .ofNat i }

theorem getElem?_slotLayout (n : ℕ) (pcs : List HubPresetCamera) (i : ℕ) :
    (Service.slotLayout n pcs)[i]? = (pcs[i]?).map fun pc => pc.slot (n + i) := by
  induction pcs generalizing n i with
  | nil => rfl
  | cons pc pcs ih =>
    cases i with
    | zero => rfl
    | succ i =>
      rw [Service.slotLayout, List.getElem?_cons_succ, List.getElem?_cons_succ, ih, Nat.add_assoc,
        Nat.add_comm 1]

theorem length_slotLayout (n : ℕ) (pcs : List HubPresetCamera) :
    (Service.slotLayout n pcs).length = pcs.length := by
  induction pcs generalizing n with
  | nil => rfl
  | cons pc pcs ih => rw [Service.slotLayout, List.length_cons, ih, List.length_cons]

theorem getElem?_of_forall₂ {β γ : Type*} {R : β → γ → Prop} {l₁ : List β} {l₂ : List γ}
    (h : List.Forall₂ R l₁ l₂) {k : ℕ} {b : γ} (hk : l₂[k]? = some b) :
    ∃ a, l₁[k]? = some a ∧ R a b := by
  induction h generalizing k with
  | nil => cases hk
  | @cons a b' l₁ l₂ hab hall ih =>
    cases k with
    | zero =>
      obtain rfl : b' = b := Option.some.inj hk
      exact ⟨a, rfl, hab⟩
    | succ k => exact ih hk

/-- A publication of the first `K` frames received from each camera, in camera-major order. -/
structure CapturePublication.Lists (pub : CapturePublication) (cameras : List HubPresetCamera)
    (K : ℕ) (received : String → List FrameBuffer) : Prop where
  length : pub.cameraRawSlots.length = cameras.length * K
  entry : ∀ (i j : ℕ) (pc : HubPresetCamera), cameras[i]? = some pc → j < K → ∃ e fb,
    pub.cameraRawSlots[i * K + j]? = some e ∧ (received pc.managerDeviceId)[j]? = some fb ∧
      e.Describes ⟨pc.slot i, .ofNat j, fb⟩
  readable : ∀ e ∈ pub.cameraRawSlots, e.rawSeq ≠ 0 ∧ e.frame.bytes ≠ []

/-- A reference to frame `j` of camera `i`: it names the camera, and the range it names in the ring
holds the frame. -/
structure CameraRawFrameRef.Delivers (ref : CameraRawFrameRef) (shm : ShmRingBuffer)
    (pc : HubPresetCamera) (i j : ℕ) (fb : FrameBuffer) : Prop where
  cameraIndex : ref.cameraIndex.toNat = i
  burstFrameIndex : ref.burstFrameIndex.toNat = j
  identity : ref.managerDeviceId = pc.managerDeviceId ∧ ref.ip = pc.ip ∧
    ref.serialNumber = pc.serialNumber
  bytes : shm.range ref.frame.offsetBytes ref.frame.sizeBytes = fb.bytes
  header : ref.frame.width = fb.width ∧ ref.frame.height = fb.height ∧
    ref.frame.pixelFormat = fb.pixelFormat

/-- A reply that delivers the first `K` frames received from each camera, in camera-major order. -/
structure DepthReply.Exact (r : DepthReply) (shm : ShmRingBuffer) (cid : UInt64)
    (cameras : List HubPresetCamera) (K : ℕ) (received : String → List FrameBuffer) : Prop where
  status : r.status.code = 0
  clientCaptureId : r.clientCaptureId = cid
  length : r.cameraRawFrames.length = cameras.length * K
  entry : ∀ (i j : ℕ) (pc : HubPresetCamera), cameras[i]? = some pc → j < K → ∃ ref fb,
    r.cameraRawFrames[i * K + j]? = some ref ∧ (received pc.managerDeviceId)[j]? = some fb ∧
      ref.Delivers shm pc i j fb

theorem CapturePublication.Lists.mono {pub : CapturePublication} {cameras : List HubPresetCamera}
    {K : ℕ} {received received' : String → List FrameBuffer} (h : pub.Lists cameras K received)
    (hle : ∀ id, received id <+: received' id) : pub.Lists cameras K received' := by
  refine ⟨h.length, ?_, h.readable⟩
  intro i j pc hi hj
  obtain ⟨e, fb, he, hfb, hd⟩ := h.entry i j pc hi hj
  obtain ⟨later, hlater⟩ := hle pc.managerDeviceId
  refine ⟨e, fb, he, ?_, hd⟩
  rw [← hlater, List.getElem?_append_left (List.getElem?_eq_some_iff.mp hfb).1]
  exact hfb

/-- A capture of at most 64 frames numbers each of them one higher than what its slot held. -/
theorem RingWriter.Writes.seq_ne_zero_of_length_le {s s' : RingWriter} {ps : List Published}
    (h : s.Writes ps s') (hle : ps.length ≤ 64)
    (hseq : ∀ i : UInt32, i.toNat < 64 → (s.shm.cell i).seq.toNat + 1 < 2 ^ 64)
    {p : Published} (hp : p ∈ ps) : p.seq ≠ 0 := by
  have hlt := hseq p.slot (h.slot_lt hp)
  rw [h.seq_eq (h.nodup_iff.mpr hle) hp]
  intro hzero
  have hnat := congrArg UInt64.toNat hzero
  rw [UInt64.toNat_add, UInt64.toNat_one, Nat.mod_eq_of_lt hlt] at hnat
  cases hnat

namespace State

/-- The session of the preset cameras, and a ring that has a slot for each frame of a capture. -/
structure Fits (s : State) : Prop where
  ring : HubRing s.shm
  presets : s.presetCameras ≠ []
  nodup : s.presetIds.Nodup
  devices : s.sessionDevicesOrdered = s.presetIds
  layout : s.sessionSlotLayout = Service.slotLayout 0 s.presetCameras
  frames_pos : 1 ≤ s.framesPerHardwareTrigger.toNat
  count : s.writeCount ≤ 64
  seq : ∀ i : UInt32, i.toNat < 64 → (s.shm.cell i).seq.toNat + 1 < 2 ^ 64

section Fits
variable {s : State} (h : s.Fits)
include h

theorem Fits.devices_ne : s.sessionDevicesOrdered ≠ [] := by
  rw [h.devices, presetIds]
  exact fun hnil => h.presets (List.map_eq_nil_iff.mp hnil)

theorem Fits.length_layout : s.sessionSlotLayout.length = s.sessionDevicesOrdered.length := by
  rw [h.layout, h.devices, length_slotLayout, presetIds, List.length_map]

/-- The session's `i`-th camera, and the metadata its frames are listed under. -/
theorem Fits.getElem?_zip {i : ℕ} {pc : HubPresetCamera} (hi : s.presetCameras[i]? = some pc) :
    (s.sessionDevicesOrdered.zip s.sessionSlotLayout)[i]? =
      some (pc.managerDeviceId, pc.slot i) := by
  rw [List.getElem?_zip_eq_some, h.devices, h.layout, presetIds, List.getElem?_map,
    getElem?_slotLayout, hi, Nat.zero_add]
  exact ⟨rfl, rfl⟩

variable (hall : ∀ id ∈ s.sessionDevicesOrdered, ¬ s.Owes id)
include hall

theorem Fits.completeCapture (hgood : ∀ l ∈ s.listed, ¬ Unwritable s.shm.capacity l.frame)
    (sNext : UInt32) : ∃ w out, s.Publishes sNext w out ∧
      s.completeCapture sNext = (s.published w.shm out, w.sNext) :=
  completeCapture_ok h.ring h.devices_ne (h.devices ▸ h.nodup) h.length_layout h.frames_pos hall hgood
    fun _ _ hw hle _ hp => hw.seq_ne_zero_of_length_le (Nat.le_trans hle h.count) h.seq hp

theorem Publishes.lists {sNext : UInt32} {w : RingWriter} {out : CapturePublication}
    (hp : s.Publishes sNext w out) (hgood : ∀ l ∈ s.listed, ¬ Unwritable s.shm.capacity l.frame) :
    out.Lists s.presetCameras s.framesPerHardwareTrigger.toNat s.received := by
  have hfull : ∀ camera ∈ s.sessionDevicesOrdered.zip s.sessionSlotLayout,
      Full s.pendingCameraBursts s.framesPerHardwareTrigger.toNat camera.1 := by
    intro camera hc
    have hle := Nat.not_lt.mp (hall camera.1 (List.of_mem_zip hc).1)
    unfold received at hle
    cases hlook : s.pendingCameraBursts.lookup camera.1 with
    | some vec =>
      rw [hlook, Option.getD_some] at hle
      exact ⟨vec, hlook, hle⟩
    | none =>
      rw [hlook] at hle
      exact absurd (Nat.le_trans h.frames_pos hle) (Nat.not_succ_le_zero 0)
  constructor
  case length =>
    rw [hp.covers.entries.length_eq, listed, length_listing hfull, List.length_zip,
      h.length_layout, Nat.min_self, h.devices, presetIds, List.length_map]
  case entry =>
    intro i j pc hi hj
    obtain ⟨fb, hfb, hl⟩ := getElem?_listing hfull (h.getElem?_zip hi) hj
    obtain ⟨e, he, hd⟩ := getElem?_of_forall₂ hp.covers.entries hl
    exact ⟨e, fb, he, hfb, hd⟩
  case readable =>
    intro e he
    have hlen : out.named.length ≤ 64 := by
      rw [CapturePublication.named, hp.covers.length_frames]
      exact Nat.le_trans s.length_listed_le h.count
    refine ⟨hp.writes.seq_ne_zero_of_length_le hlen h.seq (out.mem_frames he _), ?_⟩
    have hframe : e.frame ∈ s.listed.map Listed.frame :=
      hp.covers.frames_eq ▸ List.mem_map_of_mem he
    obtain ⟨l, hl, heq⟩ := List.mem_map.mp hframe
    rw [← heq]
    exact fun hnil => hgood l hl (.inl hnil)

end Fits

/-- A slot that still holds what its entry says is delivered with the entry's frame. -/
theorem cameraRawFrame_delivers {s : State} (hring : HubRing s.shm) {e : CameraRawShmSlot}
    {pc : HubPresetCamera} {i j : ℕ} {fb : FrameBuffer} (hi : i < 64) (hj : j < 64)
    (hd : e.Describes ⟨pc.slot i, .ofNat j, fb⟩) (hslot : e.rawSlot.toNat < 64)
    (hcell : s.shm.cell e.rawSlot = ⟨e.rawSeq, frameImage fb⟩) (hseq : e.rawSeq ≠ 0)
    (hbytes : fb.bytes ≠ []) : (s.cameraRawFrame e).Delivers s.shm pc i j fb := by
  have href : (s.cameraRawFrame e).frame = s.frameRef e.rawSlot e.rawSeq := rfl
  rcases hring.tryReadSlot_cases hslot with ⟨_, hzero | hempty⟩ | ⟨v, hsome, _, _, _, himage⟩
  · rw [hcell] at hzero
    exact absurd hzero hseq
  · rw [hcell] at hempty
    exact absurd hempty hbytes
  rw [hcell] at himage
  have hframe : s.frameRef e.rawSlot e.rawSeq =
      { regionName := s.shm.name, seq := e.rawSeq, offsetBytes := v.outMeta.payloadOffset,
        sizeBytes := v.outMeta.payloadSize, width := v.outMeta.width, height := v.outMeta.height,
        pixelFormat := v.outMeta.pixelFormat, timestampUnixNs := v.outMeta.timestampUnixNs } := by
    rw [frameRef, hsome]
  rw [hframe] at href
  constructor
  case cameraIndex =>
    show e.cameraIndex.toNat = i
    rw [hd]
    exact Nat.mod_eq_of_lt (by omega)
  case burstFrameIndex =>
    show e.burstFrameIndex.toNat = j
    rw [hd]
    exact Nat.mod_eq_of_lt (by omega)
  case identity =>
    show e.managerDeviceId = pc.managerDeviceId ∧ e.ip = pc.ip ∧ e.serialNumber = pc.serialNumber
    rw [hd]
    exact ⟨rfl, rfl, rfl⟩
  case bytes =>
    rw [href]
    exact congrArg Image.bytes himage
  case header =>
    rw [href]
    exact ⟨congrArg Image.width himage, congrArg Image.height himage,
      congrArg Image.pixelFormat himage⟩

theorem getDepth_of_lookup {s : State} {cid : UInt64} {pub : CapturePublication}
    (hready : s.hubRuntime.code = kReady) (hsession : s.sessionId ≠ "") (hcid : cid ≠ 0)
    (hpub : s.store.publications.lookup cid = some pub) :
    s.getDepth { sessionId := s.sessionId, clientCaptureId := cid } = s.depthReply pub := by
  have hgate : s.fillUnifiedGateLocked = none := by
    simp [fillUnifiedGateLocked, hready, hsession]
  have hkey : s.depthKey { sessionId := s.sessionId, clientCaptureId := cid } = cid := if_pos hcid
  unfold getDepth
  rw [hgate]
  dsimp only
  rw [hkey, hpub]
  simp [hsession, hcid]

/-- A publication that is still in the ring is delivered as it was listed. -/
theorem depthReply_exact {s : State} {pub : CapturePublication} {cameras : List HubPresetCamera}
    {K : ℕ} {received : String → List FrameBuffer} (hring : HubRing s.shm) (hkept : pub.Kept s.shm)
    (hlists : pub.Lists cameras K received) (hle : cameras.length * K ≤ 64) :
    (s.depthReply pub).Exact s.shm pub.clientCaptureId cameras K received := by
  constructor
  case status => rfl
  case clientCaptureId => rfl
  case length =>
    rw [← hlists.length]
    exact List.length_map _
  case entry =>
    intro i j pc hi hj
    obtain ⟨e, fb, he, hfb, hd⟩ := hlists.entry i j pc hi hj
    have hmem := List.mem_of_getElem? he
    have hidx : i * K + j < 64 := by
      have hlt := (List.getElem?_eq_some_iff.mp he).1
      rw [hlists.length] at hlt
      exact Nat.lt_of_lt_of_le hlt hle
    have hi' : i ≤ i * K := Nat.le_mul_of_pos_right i (Nat.zero_lt_of_lt hj)
    obtain ⟨hslot, hcell⟩ := hkept.live e.published (pub.mem_frames hmem _)
    obtain ⟨hseq, hbytes⟩ := hlists.readable e hmem
    have hframe : e.frame = fb := hd.frame_eq
    refine ⟨s.cameraRawFrame e, fb, ?_, hfb, ?_⟩
    · show (pub.cameraRawSlots.map s.cameraRawFrame)[i * K + j]? = some (s.cameraRawFrame e)
      rw [List.getElem?_map, he, Option.map_some]
    · rw [hframe] at hbytes
      refine cameraRawFrame_delivers hring ?_ ?_ hd hslot ?_ hseq hbytes
      · omega
      · omega
      · rw [← hframe]
        exact hcell

/-- Every camera of the session has delivered its burst. -/
def Complete {θ : Type*} (s : State) (fs : List (Callback θ)) : Prop :=
  ∀ id ∈ s.sessionDevicesOrdered, s.framesPerHardwareTrigger.toNat ≤ (delivered fs id).length

instance {θ : Type*} (s : State) (fs : List (Callback θ)) : Decidable (s.Complete fs) :=
  inferInstanceAs (Decidable (∀ id ∈ s.sessionDevicesOrdered, _))

def withPending (s : State) (pending : Bursts) : State := { s with pendingCameraBursts := pending }

section Received
variable {θ : Type*} {s : State} {fs : List (Callback θ)}

/-- What is received follows what is delivered, for the cameras of the session. -/
theorem received_delivered (h : ∀ id ∈ s.sessionDevicesOrdered, s.received id = delivered fs id)
    (f : Callback θ) (hm : f.managerDeviceId ∈ s.sessionDevicesOrdered) :
    ∀ id ∈ s.sessionDevicesOrdered,
      (s.pushFrame f.managerDeviceId f.fb).received id = delivered (fs ++ [f]) id := by
  intro id hid
  by_cases heq : id = f.managerDeviceId
  · rw [heq, received_pushFrame_self, delivered_append_self, h _ hm]
  · rw [received_pushFrame_ne heq, delivered_append_ne heq, h id hid]

end Received

/-- The state of the hub once a capture that was armed in `s₀` has been published. -/
structure Finished {θ : Type*} (s₀ : State) (fs : List (Callback θ)) (s : State) : Prop where
  done : s₀.Complete fs
  idle : s.awaitingFrame = false
  session : s.sessionId = s₀.sessionId ∧ s.hubRuntime = s₀.hubRuntime
  ring : HubRing s.shm
  published : ∃ pub : CapturePublication,
    s.store = s₀.store.rememberPublicationLocked s₀.awaitingClientCaptureId pub ∧
      pub.Kept s.shm ∧
      pub.Lists s₀.presetCameras s₀.framesPerHardwareTrigger.toNat (delivered fs)

/-- A capture that was armed in `s₀`, after the callbacks `fs`: some camera owes frames and all that
came were kept, or it was published and what came later was dropped. -/
inductive Progress {θ : Type*} (s₀ : State) (fs : List (Callback θ)) : State → Prop
  | collecting (pending : Bursts)
    (hrec : ∀ id ∈ s₀.sessionDevicesOrdered, (s₀.withPending pending).received id = delivered fs id)
    (howes : ¬ s₀.Complete fs) : Progress s₀ fs (s₀.withPending pending)
  | finished {s : State} (h : s₀.Finished fs s) : Progress s₀ fs s

section Progress
variable {θ : Type*} {s₀ s : State} {fs : List (Callback θ)}

theorem Finished.append (h : s₀.Finished fs s) (f : Callback θ) : s₀.Finished (fs ++ [f]) s := by
  obtain ⟨pub, hstore, hkept, hlists⟩ := h.published
  refine ⟨?_, h.idle, h.session, h.ring, pub, hstore, hkept, hlists.mono ?_⟩
  · intro id hid
    exact Nat.le_trans (h.done id hid) (length_delivered_append fs f id)
  · intro id
    rw [delivered_append]
    exact List.prefix_append _ _

/-- The frame that completes the bursts of all cameras. -/
theorem Fits.finished (h : s₀.Fits) {pending : Bursts}
    (hrec : ∀ id ∈ s₀.sessionDevicesOrdered, (s₀.withPending pending).received id = delivered fs id)
    (hc : (s₀.withPending pending).burstsComplete = true)
    (hgood : ∀ g ∈ fs, ¬ Unwritable s₀.shm.capacity g.fb) (sNext : UInt32) :
    s₀.Finished fs ((s₀.withPending pending).completeCapture sNext).1 := by
  have hfits : (s₀.withPending pending).Fits :=
    ⟨h.ring, h.presets, h.nodup, h.devices, h.layout, h.frames_pos, h.count, h.seq⟩
  have hall := (burstsComplete_iff hfits.frames_pos).mp hc
  have hlisted : ∀ l ∈ (s₀.withPending pending).listed, ¬ Unwritable s₀.shm.capacity l.frame := by
    intro l hl
    obtain ⟨id, hid, hmem⟩ := mem_listed hl
    rw [hrec id hid] at hmem
    obtain ⟨g, hg, heq⟩ := mem_delivered hmem
    exact heq ▸ hgood g hg
  obtain ⟨w, out, hp, heq⟩ := hfits.completeCapture hall hlisted sNext
  have hlists := hp.lists hfits hall hlisted
  rw [heq]
  refine ⟨?_, rfl, ⟨rfl, rfl⟩, hp.writes.ring h.ring, out, rfl, hp.kept h.count, hlists.length, ?_,
    hlists.readable⟩
  · intro id hid
    rw [← hrec id hid]
    exact Nat.not_lt.mp (hall id hid)
  · intro i j pc hi hj
    obtain ⟨e, fb, he, hfb, hd⟩ := hlists.entry i j pc hi hj
    have hid : pc.managerDeviceId ∈ s₀.sessionDevicesOrdered := by
      rw [h.devices]
      exact List.mem_map_of_mem (List.mem_of_getElem? hi)
    rw [hrec _ hid] at hfb
    exact ⟨e, fb, he, hfb, hd⟩

/-- One more callback, of whichever camera. -/
theorem Progress.onCameraFrame (hfits : s₀.Fits) (hw : s₀.awaitingFrame = true)
    (h : s₀.Progress fs s) (f : Callback θ)
    (hgood : ∀ g ∈ fs ++ [f], ¬ Unwritable s₀.shm.capacity g.fb) (sNext : UInt32) :
    s₀.Progress (fs ++ [f]) (s.onCameraFrame sNext f.managerDeviceId f.fb).1 := by
  rcases s.onCameraFrame_cases sNext f.managerDeviceId f.fb with
    ⟨heq, hdrop⟩ | ⟨hwait, hm, hkept⟩
  · rw [heq]
    cases h with
    | finished h => exact .finished (h.append f)
    | collecting pending hrec howes =>
      -- The capture is in flight, so it is a camera of no session that calls.
      have hm : f.managerDeviceId ∉ s₀.sessionDevicesOrdered := by
        cases hdrop with
        | inl hidle => exact absurd (hidle.symm.trans hw) Bool.false_ne_true
        | inr hm => exact hm
      have hsame : ∀ id ∈ s₀.sessionDevicesOrdered, delivered (fs ++ [f]) id = delivered fs id :=
        fun id hid => delivered_append_ne (ne_of_mem_of_not_mem hid hm)
      apply Progress.collecting
      · intro id hid
        rw [hsame id hid]
        exact hrec id hid
      · exact fun hall => howes fun id hid => hsame id hid ▸ hall id hid
  · cases h with
    | finished h => exact absurd (h.idle.symm.trans hwait) Bool.false_ne_true
    | collecting pending hrec howes =>
      have hrec' := received_delivered (s := s₀.withPending pending) hrec f hm
      rcases hkept with ⟨hc, heq⟩ | ⟨hc, heq⟩
      · rw [heq]
        refine .collecting _ hrec' fun hall => ?_
        have hcomplete := (burstsComplete_iff
          (s := (s₀.withPending pending).pushFrame f.managerDeviceId f.fb) hfits.frames_pos).mpr
          fun id hid howes => absurd (hrec' id hid ▸ hall id hid) (Nat.not_le.mpr howes)
        rw [hc] at hcomplete
        cases hcomplete
      · rw [heq]
        exact .finished (hfits.finished hrec' hc hgood sNext)

end Progress

/-- What the hub has made of the capture `cid` after the callbacks `fs`: it waits until every camera
has delivered its burst, and then has published once, so that `GetDepth` delivers the frames. -/
structure Captured {θ : Type*} (before : State) (cid : UInt64) (fs : List (Callback θ)) (s : State) :
    Prop where
  awaiting_iff : s.awaitingFrame = true ↔ ¬ before.Complete fs
  waiting : ¬ before.Complete fs → s.store = before.store
  stored : before.Complete fs → ∃ pub, s.store = before.store.rememberPublicationLocked cid pub
  exact : cid ≠ 0 → ¬ before.store.Evicts cid → before.Complete fs →
    (s.getDepth { sessionId := before.sessionId, clientCaptureId := cid }).Exact s.shm cid
      before.presetCameras before.framesPerHardwareTrigger.toNat (delivered fs)

/-- A finished capture is delivered under its id. -/
theorem Finished.getDepth {θ : Type*} {s₀ s : State} {fs : List (Callback θ)} (h : s₀.Finished fs s)
    (hfits : s₀.Fits) (hsound : s₀.Sound) (hready : s₀.hubRuntime.code = kReady)
    (hsession : s₀.sessionId ≠ "") (hcid : s₀.awaitingClientCaptureId ≠ 0)
    (hkeep : ¬ s₀.store.Evicts s₀.awaitingClientCaptureId) :
    (s.getDepth { sessionId := s₀.sessionId, clientCaptureId := s₀.awaitingClientCaptureId }).Exact
      s.shm s₀.awaitingClientCaptureId s₀.presetCameras s₀.framesPerHardwareTrigger.toNat
      (delivered fs) := by
  obtain ⟨pub, hstore, hkept, hlists⟩ := h.published
  have hlook := lookup_remember_self hsound.store hkeep pub
  rw [← hstore] at hlook
  have hcount : s₀.presetCameras.length * s₀.framesPerHardwareTrigger.toNat ≤ 64 := by
    have hle := hfits.count
    unfold writeCount Hub.writeCount at hle
    rw [hfits.devices, presetIds, List.length_map] at hle
    exact Nat.le_trans (Nat.le_add_right _ _) hle
  have hreply := getDepth_of_lookup (h.session.2 ▸ hready) (h.session.1 ▸ hsession) hcid hlook
  rw [h.session.1] at hreply
  rw [hreply]
  exact depthReply_exact h.ring ⟨hkept.live, hkept.hasInter, hkept.first, hkept.nonempty⟩
    ⟨hlists.length, hlists.entry, hlists.readable⟩ hcount

end State

namespace World
variable {α π θ : Type*} [ICameraAdapter α] [ISerialPort π] [DecidableEq θ]

/-- The event lets a `Capture` run that is accepted: from then on the hub waits for its frames. -/
structure Accepted (w : World α π θ) (e : Event α π θ) (request : CaptureRequest) : Prop where
  request_eq : w.request e = some request
  idle : w.hub.awaitingFrame = false
  awaiting : (w.step e).hub.awaitingFrame = true

theorem Accepted.armed {w : World α π θ} {e : Event α π θ} {request : CaptureRequest}
    (h : w.Accepted e request) :
    w.hub.Admits request ∧ (w.step e).hub.toState = w.hub.armed request := by
  have hwait := h.awaiting
  obtain ⟨id, rfl, htask⟩ := request_eq_some h.request_eq
  rw [step_capture htask, (runBody_capture w id request).1] at hwait ⊢
  rcases w.hub.capture_cases request w.clock with ⟨he | ⟨_, _, he⟩, _⟩ | ⟨hadm, ⟨he, _⟩ | ⟨he, _⟩⟩
  · rw [he] at hwait
    exact absurd (h.idle.symm.trans hwait) Bool.false_ne_true
  · rw [he] at hwait
    exact absurd (h.idle.symm.trans hwait) Bool.false_ne_true
  · exact ⟨hadm, he⟩
  · rw [he] at hwait
    cases hwait

/-- Along the callbacks that follow the arming of a capture, it makes progress. -/
theorem run_progress {w : World α π θ} (hfits : w.hub.Fits) (hw : w.hub.awaitingFrame = true)
    (hpending : w.hub.pendingCameraBursts = ∅) (fs : List (Callback θ))
    (hgood : ∀ f ∈ fs, ¬ Unwritable w.hub.shm.capacity f.fb) :
    w.hub.Progress fs (run World.step w (fs.map Callback.event)).hub.toState := by
  induction fs using List.reverseRecOn with
  | nil =>
    refine .collecting w.hub.pendingCameraBursts ?_ ?_
    · intro id _
      show (w.hub.pendingCameraBursts.lookup id).getD [] = []
      rw [hpending]
      rfl
    · intro hall
      obtain ⟨id, hid⟩ := List.exists_mem_of_ne_nil _ hfits.devices_ne
      exact absurd (Nat.le_trans hfits.frames_pos (hall id hid)) (Nat.not_succ_le_zero 0)
  | append_singleton fs f ih =>
    have hprogress := ih fun g hg => hgood g (List.mem_append_left _ hg)
    rw [List.map_append, run_append]
    exact hprogress.onCameraFrame hfits hw f hgood _

/-- A burst capture is exact: whatever the order of the callbacks that follow an accepted `Capture`,
it completes with the one by which every camera has delivered its burst, is published once, and is
delivered frame by frame. -/
theorem capture_exact {w : World α π θ} (hw : Reachable w) {e : Event α π θ}
    {request : CaptureRequest} (hacc : w.Accepted e request)
    (hcount : (w.step e).hub.writeCount ≤ 64)
    (hseq : ∀ i : UInt32, i.toNat < 64 → (w.hub.shm.cell i).seq.toNat + 1 < 2 ^ 64)
    (fs : List (Callback θ)) (hgood : ∀ f ∈ fs, ¬ Unwritable w.hub.shm.capacity f.fb) :
    w.hub.Captured (w.hub.chooseId request).1 fs
      (run World.step (w.step e) (fs.map Callback.event)).hub.toState := by
  obtain ⟨hadm, harmed⟩ := hacc.armed
  have hsound : (w.step e).hub.Sound := step_sound (sound_of_reachable hw) e
  have he := hsound.of_awaiting hacc.awaiting
  have hfits : (w.step e).hub.Fits := by
    refine ⟨hsound.ring he.presets, he.presets, hsound.presets_nodup, he.devices, he.layout,
      hsound.frames_pos, hcount, ?_⟩
    rw [harmed]
    exact hseq
  have hpending : (w.step e).hub.pendingCameraBursts = ∅ := by
    rw [harmed]
    rfl
  have hcap : (w.step e).hub.shm.capacity = w.hub.shm.capacity := by
    rw [harmed]
    rfl
  have hprogress := run_progress hfits hacc.awaiting hpending fs (hcap ▸ hgood)
  have hcomplete : (w.step e).hub.Complete fs ↔ w.hub.Complete fs := by
    rw [harmed]
    rfl
  generalize (run World.step (w.step e) (fs.map Callback.event)).hub.toState = s at hprogress ⊢
  rw [harmed] at hprogress
  cases hprogress with
  | collecting pending hrec howes =>
    exact ⟨iff_of_true rfl howes, fun _ => rfl, fun h => absurd h howes,
      fun _ _ h => absurd h howes⟩
  | finished h =>
    obtain ⟨pub, hstore, _⟩ := h.published
    refine ⟨iff_of_false (h.idle ▸ Bool.false_ne_true) (not_not.mpr h.done),
      fun howes => absurd h.done howes, fun _ => ⟨pub, hstore⟩, ?_⟩
    intro hcid hkeep _
    rw [harmed] at hfits hsound
    have hready : (w.hub.armed request).hubRuntime.code = kReady :=
      hadm.ready ((sound_of_reachable hw).unified hfits.presets)
    exact h.getDepth hfits hsound hready hadm.session.1 hcid hkeep

/-- The bench at the point where a `Capture` is about to take the lock. -/
theorem bench_toBody (fc : HubFileConfig) (request : CaptureRequest)
    (hcom : (bench fc).hub.startupSerialComMain ≠ 0)
    (hopen : (bench fc).hub.serial.isOpen = true) :
    (run World.step (bench fc) [.call 0 (.capture request), .step 0, .step 0]).hub =
      (bench fc).hub := by
  rw [run_toBody rfl hcom hopen request]

theorem bench_reachable (fc : HubFileConfig) (es : List (Event ReadyCamera EchoPort Bool)) :
    Reachable (run World.step (bench fc) es) := ⟨_, _, _, _, es, rfl⟩

theorem bench_seq (fc : HubFileConfig) {i : UInt32} (hi : i.toNat < 64) :
    ((bench fc).hub.shm.cell i).seq.toNat + 1 < 2 ^ 64 := by
  have hunused : Service.Unused (bench fc).hub.toState := Service.boot_unused _ _ _
  rw [hunused.empty i hi]
  decide

/-- The second camera is a frame ahead of the first. -/
def aheadFrames : List (Callback Bool) :=
  [⟨true, "cam-2", { bytes := [1, 2], width := 2, height := 1 }⟩,
    ⟨true, "cam-2", { bytes := [3], width := 1, height := 1 }⟩,
    ⟨false, "cam-1", { bytes := [4, 5, 6], width := 3, height := 1 }⟩]

def aheadRequest : CaptureRequest := { sessionId := "cam-1", clientCaptureId := 7 }

theorem capture_exact_twoCameras :
    ∃ w, w = run World.step (bench twoCameras)
        [.call 0 (.capture aheadRequest), .step 0, .step 0] ∧
      w.hub.Captured 7 aheadFrames
        (run World.step (w.step (.step 0)) (aheadFrames.map Callback.event)).hub.toState ∧
      w.hub.Complete aheadFrames ∧ ¬ w.hub.store.Evicts 7 := by
  obtain ⟨w, hw⟩ : ∃ w, w = run World.step (bench twoCameras)
    [.call 0 (.capture aheadRequest), .step 0, .step 0] := ⟨_, rfl⟩
  have hhub : w.hub = (bench twoCameras).hub := by
    rw [hw]
    exact bench_toBody twoCameras aheadRequest (by decide +kernel) (by decide +kernel)
  have hreach : Reachable w := by
    rw [hw]
    exact bench_reachable twoCameras _
  have hacc : w.Accepted (.step 0) aheadRequest := by
    rw [hw]
    exact ⟨by decide +kernel, by decide +kernel, by decide +kernel⟩
  have hcount : (w.step (.step 0)).hub.writeCount ≤ 64 := by
    rw [hw]
    decide +kernel
  have hseq : ∀ i : UInt32, i.toNat < 64 → (w.hub.shm.cell i).seq.toNat + 1 < 2 ^ 64 := by
    rw [hhub]
    exact fun i hi => bench_seq twoCameras hi
  have hgood : ∀ f ∈ aheadFrames, ¬ Unwritable w.hub.shm.capacity f.fb := by
    rw [hhub]
    decide +kernel
  have hkept : w.hub.Complete aheadFrames ∧ ¬ w.hub.store.Evicts 7 := by
    rw [hhub]
    decide +kernel
  exact ⟨w, hw, capture_exact hreach hacc hcount hseq aheadFrames hgood, hkept⟩

theorem Drawn.toBody {k : UInt64} {w : World ReadyCamera EchoPort Bool} (h : Drawn k w)
    (request : CaptureRequest) :
    let w' := run World.step w [.call 0 (.capture request), .step 0, .step 0]
    w'.hub = (bench oneCamera).hub.withState
        { (bench oneCamera).hub.toState with kAutoCapture := k } ∧
      w'.tasks 0 = some (.body (.capture request)) ∧ w'.clock = 0 ∧ w'.cursor = fun _ => 0 := by
  rw [run_toBody h.task h.port.1 h.port.2]
  exact ⟨h.hub, rfl, h.clock, h.cursor⟩

/-- A capture that gets the generated id 0 is published under it, but `GetDepth` takes 0 for no id. -/
theorem capture_without_id_not_delivered :
    ¬ ∀ (w : World ReadyCamera EchoPort Bool) (e : Event ReadyCamera EchoPort Bool)
        (request : CaptureRequest) (fs : List (Callback Bool)),
      Reachable w → w.Accepted e request → (w.step e).hub.writeCount ≤ 64 →
      (∀ i : UInt32, i.toNat < 64 → (w.hub.shm.cell i).seq.toNat + 1 < 2 ^ 64) →
      (∀ f ∈ fs, ¬ Unwritable w.hub.shm.capacity f.fb) → w.hub.Complete fs →
      ((run World.step (w.step e) (fs.map Callback.event)).hub.getDepth
        { sessionId := w.hub.sessionId,
          clientCaptureId := (w.hub.chooseId request).1 }).status.code = 0 := by
  intro hall
  obtain ⟨n, hn⟩ : ∃ n, 1 + UInt64.ofNat n = 0 := ⟨2 ^ 64 - 1, by decide⟩
  let request : CaptureRequest := { sessionId := "cam-1" }
  let f : Callback Bool := ⟨false, "cam-1", { bytes := [1], width := 1, height := 1 }⟩
  let h₀ : Service ReadyCamera EchoPort := (bench oneCamera).hub.withState
    { (bench oneCamera).hub.toState with kAutoCapture := 0 }
  obtain ⟨w, hw⟩ : ∃ w, w = run World.step (bench oneCamera) (refusedEvents n ++
    [.call 0 (.capture request), .step 0, .step 0]) := ⟨_, rfl⟩
  have hreach : Reachable w := by
    rw [hw]
    exact bench_reachable oneCamera _
  have hbody := (drawn_refusedEvents n).toBody request
  rw [← run_append, ← hw, hn] at hbody
  obtain ⟨hhub, htask, hclock, hcursor⟩ : w.hub = h₀ ∧ _ := hbody
  obtain ⟨hstep, hthreads⟩ := runBody_capture w 0 request
  rw [← step_capture htask, hhub, hclock] at hstep
  rw [← step_capture htask, hcursor] at hthreads
  have hacc : w.Accepted (.step 0) request := by
    refine ⟨?_, ?_, ?_⟩
    · show (w.tasks 0).bind Task.request = some request
      rw [htask]
      rfl
    · rw [hhub]
      decide +kernel
    · rw [hstep]
      decide +kernel
  have hcount : (w.step (.step 0)).hub.writeCount ≤ 64 := by
    rw [hstep]
    decide +kernel
  have hseq : ∀ i : UInt32, i.toNat < 64 → (w.hub.shm.cell i).seq.toNat + 1 < 2 ^ 64 := by
    rw [hhub]
    exact fun i hi => bench_seq oneCamera hi
  have hgood : ∀ g ∈ [f], ¬ Unwritable w.hub.shm.capacity g.fb := by
    rw [hhub]
    decide +kernel
  have hcomplete : w.hub.Complete [f] := by
    rw [hhub]
    decide +kernel
  have hcode := hall w (.step 0) request [f] hreach hacc hcount hseq hgood hcomplete
  have hend : (run World.step (w.step (.step 0)) ([f].map Callback.event)).hub.toState =
      ((w.step (.step 0)).hub.onCameraFrame ((w.step (.step 0)).cursor false) "cam-1" f.fb).1 := rfl
  rw [hend, hstep, hthreads, hhub] at hcode
  revert hcode
  decide +kernel

end World

end Camera3D.Hub
