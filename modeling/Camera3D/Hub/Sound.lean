import Camera3D.Hub.Moves
import Camera3D.Hub.Writes

/-! The invariant of the service: no session, or the session of the preset cameras with the frames
it still waits for. -/
namespace Camera3D.Hub
open Camera Serial Ipc Transition HubServiceStateCode PublicationStore

theorem splitBursts_mem {n : ℕ} {ids : List String} {pending snapshot : Bursts} {id : String}
    (h : id ∈ (splitBursts n ids pending snapshot).1) : id ∈ pending ∨ id ∈ ids := by
  induction ids generalizing pending snapshot with
  | nil => exact .inl h
  | cons id' ids ih =>
    rcases ih h with h | h
    · rcases AList.mem_insert _ |>.mp h with rfl | h
      · exact .inr List.mem_cons_self
      · exact .inl h
    · exact .inr (List.mem_cons_of_mem _ h)

namespace State

def presetIds (s : State) : List String := s.presetCameras.map HubPresetCamera.managerDeviceId

/-- The frames received so far from one camera. -/
def received (s : State) (id : String) : List FrameBuffer :=
  (s.pendingCameraBursts.lookup id).getD []

/-- A camera that still owes frames of the capture in flight. -/
def Owes (s : State) (id : String) : Prop :=
  (s.received id).length < s.framesPerHardwareTrigger.toNat

structure Idle (s : State) : Prop where
  sessionId : s.sessionId = ""
  devices : s.sessionDevicesOrdered = []
  layout : s.sessionSlotLayout = []
  pending : s.pendingCameraBursts = ∅
  store : s.store = {}
  awaiting : s.awaitingFrame = false
  cid : s.awaitingClientCaptureId = 0

structure Established (s : State) : Prop where
  presets : s.presetCameras ≠ []
  devices : s.sessionDevicesOrdered = s.presetIds
  layout : s.sessionSlotLayout = Service.slotLayout 0 s.presetCameras
  sessionId : s.sessionId = s.presetIds.headD ""
  pending : ∀ id ∈ s.pendingCameraBursts, id ∈ s.sessionDevicesOrdered
  owes : s.awaitingFrame = true → ∃ id ∈ s.sessionDevicesOrdered, s.Owes id
  running : s.awaitingFrame = true → s.hubRuntime.code ≠ kSessionNotEstablished
  cid : s.awaitingClientCaptureId ≠ 0 → s.awaitingFrame = true

structure Sound (s : State) : Prop where
  presets_nodup : s.presetIds.Nodup
  presets_ne : ∀ id ∈ s.presetIds, id ≠ ""
  ring : s.presetCameras ≠ [] → HubRing s.shm
  unified : s.presetCameras ≠ [] → s.unifiedConfigMode = true
  frames_pos : 1 ≤ s.framesPerHardwareTrigger.toNat
  frames_le : s.framesPerHardwareTrigger.toNat ≤ 4096
  store : s.store.finishLru.length ≤ kMaxPublications
  session : s.Idle ∨ s.Established

theorem Established.presetIds_eq {s : State} (h : s.Established) :
    ∃ id ids, s.presetIds = id :: ids ∧ s.sessionId = id := by
  cases hp : s.presetCameras with
  | nil => exact absurd hp h.presets
  | cons pc pcs =>
    refine ⟨pc.managerDeviceId, pcs.map HubPresetCamera.managerDeviceId, ?_, ?_⟩
    · rw [presetIds, hp, List.map_cons]
    · rw [h.sessionId, presetIds, hp, List.map_cons, List.headD_cons]

theorem Sound.established {s : State} (h : s.Sound) (hs : s.sessionId ≠ "") : s.Established :=
  h.session.resolve_left fun hi => hs hi.sessionId

theorem Sound.sessionId_ne {s : State} (h : s.Sound) (he : s.Established) : s.sessionId ≠ "" := by
  obtain ⟨id, ids, hids, hid⟩ := he.presetIds_eq
  rw [hid]
  exact h.presets_ne id (hids ▸ List.mem_cons_self)

theorem Sound.of_awaiting {s : State} (h : s.Sound) (hw : s.awaitingFrame = true) :
    s.Established := by
  refine h.session.resolve_left fun hi => ?_
  rw [hi.awaiting] at hw
  cases hw

/-- Every camera has delivered its burst exactly when none owes a frame. -/
theorem burstsComplete_iff {s : State} (hk : 1 ≤ s.framesPerHardwareTrigger.toNat) :
    s.burstsComplete = true ↔ ∀ id ∈ s.sessionDevicesOrdered, ¬ s.Owes id := by
  unfold burstsComplete Owes received
  rw [List.all_eq_true]
  refine forall₂_congr fun id _ => ?_
  cases s.pendingCameraBursts.lookup id with
  | none =>
    rw [Option.getD_none, List.length_nil, not_lt]
    constructor
    · intro h
      cases h
    · intro h
      omega
  | some vec => rw [Option.getD_some, not_lt, decide_eq_true_iff]

section Steps
variable {s : State}

/-- A session whose frames have just been discarded owes all of them. -/
private theorem owes_of_empty (h : s.Established) (hk : 1 ≤ s.framesPerHardwareTrigger.toNat) :
    ∃ id ∈ s.sessionDevicesOrdered, 0 < s.framesPerHardwareTrigger.toNat := by
  obtain ⟨id, ids, hids, _⟩ := h.presetIds_eq
  exact ⟨id, h.devices ▸ hids ▸ List.mem_cons_self, hk⟩

theorem Sound.resumed (h : s.Sound) {rt : Status}
    (hold : s.hubRuntime.code = kSessionNotEstablished ∨ s.sessionId = "") :
    (s.resumed rt).Sound := by
  refine ⟨h.presets_nodup, h.presets_ne, h.ring, h.unified, h.frames_pos, h.frames_le, h.store, ?_⟩
  -- Nothing is in flight: a running capture needs a session that was not released.
  have hidle : s.awaitingFrame = false := by
    by_contra hw
    rw [Bool.not_eq_false] at hw
    have he := h.of_awaiting hw
    cases hold with
    | inl hc => exact he.running hw hc
    | inr hs => exact h.sessionId_ne he hs
  have hcid : s.awaitingClientCaptureId = 0 := by
    rcases h.session with hi | he
    · exact hi.cid
    · by_contra hc
      rw [he.cid hc] at hidle
      cases hidle
  by_cases hp : s.presetCameras = []
  · left
    have hi : s.Idle := h.session.resolve_right fun he => he.presets hp
    exact ⟨by simp [State.resumed, hp, hi.sessionId], by simp [State.resumed, hp],
      by simp [State.resumed, hp, Service.slotLayout], hi.pending, hi.store, hidle, hcid⟩
  · right
    refine ⟨hp, rfl, rfl, if_neg hp, ?_, ?_, ?_, ?_⟩
    · intro id hid
      rcases h.session with hi | he
      · have hpend : s.pendingCameraBursts = ∅ := hi.pending
        have hid' : id ∈ s.pendingCameraBursts := hid
        rw [hpend] at hid'
        exact absurd hid' (AList.notMem_empty id)
      · have hd := he.pending id hid
        rw [he.devices] at hd
        exact hd
    all_goals
      intro hw
      first
      | exact absurd hcid hw
      | exact absurd (hidle.symm.trans hw) (by decide)

theorem Sound.armed (h : s.Sound) {request : CaptureRequest} (hadm : s.Admits request) :
    (s.armed request).Sound := by
  have he := h.established hadm.session.1
  refine ⟨h.presets_nodup, h.presets_ne, h.ring, h.unified, h.frames_pos, h.frames_le, h.store,
    .inr ⟨he.presets, he.devices, he.layout, he.sessionId, ?_, ?_, ?_, fun _ => rfl⟩⟩
  · intro id hid
    exact absurd hid (AList.notMem_empty id)
  · intro _
    obtain ⟨id, hid, hk⟩ := owes_of_empty he h.frames_pos
    exact ⟨id, hid, hk⟩
  · intro _ hc
    have hready : s.hubRuntime.code = kReady := hadm.ready (h.unified he.presets)
    exact absurd (hready.symm.trans hc) (by decide)

theorem Sound.stopAwaiting (h : s.Sound) (hs : s.sessionId ≠ "") : s.stopAwaiting.Sound := by
  have he := h.established hs
  refine ⟨h.presets_nodup, h.presets_ne, h.ring, h.unified, h.frames_pos, h.frames_le, h.store,
    .inr ⟨he.presets, he.devices, he.layout, he.sessionId, ?_, ?_, ?_, ?_⟩⟩
  · intro id hid
    exact absurd hid (AList.notMem_empty id)
  · intro hw
    cases hw
  · intro hw
    cases hw
  · intro hc
    exact absurd rfl hc

theorem Sound.move {s' : State} {r : Option CaptureRequest} (h : s.Sound) (hm : s.Move r s') :
    s'.Sound := by
  cases hm with
  | same => exact h
  | runtime rt hne =>
    refine ⟨h.presets_nodup, h.presets_ne, h.ring, h.unified, h.frames_pos, h.frames_le, h.store, ?_⟩
    rcases h.session with hi | he
    · exact .inl ⟨hi.sessionId, hi.devices, hi.layout, hi.pending, hi.store, hi.awaiting, hi.cid⟩
    · exact .inr ⟨he.presets, he.devices, he.layout, he.sessionId, he.pending, he.owes,
        fun _ hc => h.sessionId_ne he (hne hc), he.cid⟩
  | resumed rt hrt hold => exact h.resumed hold
  | released hs =>
    exact ⟨h.presets_nodup, h.presets_ne, h.ring, h.unified, h.frames_pos, h.frames_le,
      Nat.zero_le _, .inl ⟨rfl, rfl, rfl, rfl, rfl, rfl, rfl⟩⟩
  | counted request hid hs =>
    have he := h.established hs
    exact ⟨h.presets_nodup, h.presets_ne, h.ring, h.unified, h.frames_pos, h.frames_le, h.store,
      .inr ⟨he.presets, he.devices, he.layout, he.sessionId, he.pending, he.owes, he.running, he.cid⟩⟩
  | armed request hadm => exact h.armed hadm
  | notSent request hadm => exact (h.armed hadm).stopAwaiting hadm.session.1
  | timedOut hw => exact h.stopAwaiting (h.sessionId_ne (h.of_awaiting hw))
  | errorTaken =>
    refine ⟨h.presets_nodup, h.presets_ne, h.ring, h.unified, h.frames_pos, h.frames_le, h.store, ?_⟩
    rcases h.session with hi | he
    · exact .inl ⟨hi.sessionId, hi.devices, hi.layout, hi.pending, hi.store, hi.awaiting, hi.cid⟩
    · exact .inr ⟨he.presets, he.devices, he.layout, he.sessionId, he.pending, he.owes, he.running,
        he.cid⟩

theorem Sound.pushFrame (h : s.Sound) {mid : String} (hmid : mid ∈ s.sessionDevicesOrdered)
    (hw : s.awaitingFrame = true) {fb : FrameBuffer}
    (hc : (s.pushFrame mid fb).burstsComplete = false) : (s.pushFrame mid fb).Sound := by
  have he := h.of_awaiting hw
  refine ⟨h.presets_nodup, h.presets_ne, h.ring, h.unified, h.frames_pos, h.frames_le, h.store,
    .inr ⟨he.presets, he.devices, he.layout, he.sessionId, ?_, ?_, he.running, he.cid⟩⟩
  · intro id hid
    rcases (AList.mem_insert _).mp hid with rfl | hid
    · exact hmid
    · exact he.pending id hid
  · intro _
    by_contra hall
    have hcomplete := (burstsComplete_iff (s := s.pushFrame mid fb) h.frames_pos).mpr
      fun id hid howes => hall ⟨id, hid, howes⟩
    rw [hc] at hcomplete
    cases hcomplete

theorem leftover_mem {id : String} (h : id ∈ s.leftover) :
    id ∈ s.pendingCameraBursts ∨ id ∈ s.sessionDevicesOrdered := by
  unfold leftover at h
  split_ifs at h
  · exact absurd h (AList.notMem_empty id)
  · exact splitBursts_mem h

theorem writeSnapshot_hubRing (hr : HubRing s.shm) (sNext : UInt32) :
    HubRing (s.writeSnapshot sNext).1.shm :=
  RingWriter.writeMultiCaptureToShmLocked_preserves (P := fun w => HubRing w.shm)
    (fun _ fb hw => hw.tryWriteNextSlot fb) hr _ _ _ _ _ _

/-- The frame that completes the bursts is received, and what completing them leaves is sound. -/
theorem Sound.settled (h : s.Sound) (he : s.Established) {mid : String}
    (hmid : mid ∈ s.sessionDevicesOrdered) (fb : FrameBuffer) {shm : ShmRingBuffer}
    (hr : HubRing shm) : ((s.pushFrame mid fb).settled shm).Sound := by
  refine ⟨h.presets_nodup, h.presets_ne, fun _ => hr, h.unified, h.frames_pos, h.frames_le, h.store,
    .inr ⟨he.presets, he.devices, he.layout, he.sessionId, ?_, ?_, ?_, ?_⟩⟩
  · intro id hid
    rcases leftover_mem hid with hid | hid
    · rcases (AList.mem_insert _).mp hid with rfl | hid
      · exact hmid
      · exact he.pending id hid
    · exact hid
  · intro hw
    cases hw
  · intro hw
    cases hw
  · intro hc
    exact absurd rfl hc

/-- A sound state stays sound when only the publications and the last write error change. -/
theorem Sound.withStore (h : s.Sound) (he : s.Established) {store : PublicationStore} {err : String}
    (hs : store.finishLru.length ≤ kMaxPublications) :
    State.Sound { s with lastCaptureShmError := err, store := store } :=
  ⟨h.presets_nodup, h.presets_ne, h.ring, h.unified, h.frames_pos, h.frames_le, hs,
    .inr ⟨he.presets, he.devices, he.layout, he.sessionId, he.pending, he.owes, he.running, he.cid⟩⟩

theorem Sound.completeCapture (h : s.Sound) (he : s.Established) {mid : String}
    (hmid : mid ∈ s.sessionDevicesOrdered) (fb : FrameBuffer) (sNext : UInt32) :
    ((s.pushFrame mid fb).completeCapture sNext).1.Sound := by
  have hring := writeSnapshot_hubRing (s := s.pushFrame mid fb) (h.ring he.presets) sNext
  unfold State.completeCapture
  rcases hw : (s.pushFrame mid fb).writeSnapshot sNext with ⟨w, result⟩
  rw [hw] at hring
  have hset := h.settled he hmid fb hring
  have hes := hset.established (h.sessionId_ne he)
  cases result with
  | error werr => exact hset.withStore hes h.store
  | ok pub => exact hset.withStore hes (remember_length h.store _ _)

theorem Sound.onCameraFrame (h : s.Sound) (sNext : UInt32) (mid : String) (fb : FrameBuffer) :
    (s.onCameraFrame sNext mid fb).1.Sound := by
  rcases s.onCameraFrame_cases sNext mid fb with ⟨he, _⟩ | ⟨hw, hmid, ⟨hc, he⟩ | ⟨_, he⟩⟩
  · rw [he]
    exact h
  · rw [he]
    exact h.pushFrame hmid hw hc
  · rw [he]
    exact h.completeCapture (h.of_awaiting hw) hmid fb sNext

end Steps

end State
end Camera3D.Hub
