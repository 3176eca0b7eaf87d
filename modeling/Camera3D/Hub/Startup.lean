import Camera3D.Hub.Sound

/-! Start-up ends in a sound state, whether it succeeds or is rolled back. -/
namespace Camera3D.Hub
open Camera Serial Ipc HubServiceStateCode PublicationStore

namespace Service
variable {α π : Type*}

theorem clampFramesPer_bounds (n : UInt32) :
    1 ≤ (clampFramesPer n).toNat ∧ (clampFramesPer n).toNat ≤ 4096 := by
  unfold clampFramesPer
  have hmin : (min 4096 n).toNat ≤ 4096 := by
    change (if (4096 : UInt32) ≤ n then 4096 else n).toNat ≤ 4096
    split_ifs with h
    · decide
    · have hn : n.toNat < (4096 : UInt32).toNat := UInt32.lt_iff_toNat_lt.mp (UInt32.not_le.mp h)
      exact Nat.le_of_lt hn
  change 1 ≤ (if (1 : UInt32) ≤ min 4096 n then min 4096 n else 1).toNat ∧
    (if (1 : UInt32) ≤ min 4096 n then min 4096 n else 1).toNat ≤ 4096
  split_ifs with h
  · exact ⟨UInt32.le_iff_toNat_le.mp h, hmin⟩
  · decide

/-- A hub that has not served a call yet. -/
structure Unused (s : State) : Prop where
  sound : s.Sound
  counter : s.kAutoCapture = 1
  awaiting : s.awaitingFrame = false
  store : s.store = {}
  empty : ∀ i : UInt32, i.toNat < 64 → s.shm.cell i = Mapping.emptyCell

/-- The hub while its cameras are being opened. -/
structure Opening (h : Service α π) : Prop where
  count : h.cameras.open_.keys.length = h.presetCameras.length
  opened : ∀ id ∈ h.presetIds, id ∈ h.cameras.open_
  ne : ∀ id ∈ h.presetIds, id ≠ ""
  nodup : h.presetIds.Nodup
  unified : h.unifiedConfigMode = true
  frames : h.framesPerHardwareTrigger = 24
  counter : h.kAutoCapture = 1
  idle : h.Idle

theorem rollback_unused [ISerialPort π] [ICameraAdapter α] {h : Service α π}
    (hk : h.framesPerHardwareTrigger = 24) (hc : h.kAutoCapture = 1) :
    Unused h.rollbackUnifiedStartupLocked.toState := by
  have hk' : h.rollbackUnifiedStartupLocked.framesPerHardwareTrigger = 24 := hk
  refine ⟨⟨List.nodup_nil, ?_, fun hne => absurd rfl hne, fun hne => absurd rfl hne, ?_, ?_,
    Nat.zero_le _, .inl ⟨rfl, rfl, rfl, rfl, rfl, rfl, rfl⟩⟩, hc, rfl, rfl, fun _ _ => rfl⟩
  · intro id hid
    cases hid
  · rw [hk']
    decide
  · rw [hk']
    decide

/-- The hub after one more camera was opened under the id `mid`. -/
def addCamera (h : Service α π) (cameras : CameraManager α) (mid : String)
    (node : HubFileCameraNode) : Service α π :=
  let presetCameras := h.presetCameras ++ [⟨mid, node.ip, node.serialNumber⟩]
  { h with cameras := cameras, presetCameras := presetCameras }

theorem Opening.addCamera {h : Service α π} (ho : h.Opening) {cameras : CameraManager α}
    {mid : String} {slot : Slot α} (hne : mid ≠ "") (hnew : mid ∉ h.cameras.open_)
    (hopen : cameras.open_ = h.cameras.open_.insert mid slot) (node : HubFileCameraNode) :
    (h.addCamera cameras mid node).Opening := by
  have hids : (h.addCamera cameras mid node).presetIds = h.presetIds ++ [mid] :=
    List.map_append
  have hmem : ∀ id ∈ (h.addCamera cameras mid node).presetIds, id ∈ h.presetIds ∨ id = mid := by
    intro id hid
    rw [hids, List.mem_append, List.mem_singleton] at hid
    exact hid
  constructor
  case count =>
    show cameras.open_.keys.length = (h.presetCameras ++ [_]).length
    rw [hopen, AList.keys_insert, List.erase_of_not_mem hnew, List.length_cons, ho.count,
      List.length_append, List.length_singleton]
  case opened =>
    intro id hid
    show id ∈ cameras.open_
    rw [hopen, AList.mem_insert]
    cases hmem id hid with
    | inl hold => exact .inr (ho.opened id hold)
    | inr heq => exact .inl heq
  case ne =>
    intro id hid
    cases hmem id hid with
    | inl hold => exact ho.ne id hold
    | inr heq => exact heq ▸ hne
  case nodup =>
    rw [hids, List.nodup_append]
    refine ⟨ho.nodup, List.nodup_singleton mid, ?_⟩
    intro id hid id' hid' heq
    obtain rfl := List.mem_singleton.mp hid'
    exact hnew (heq ▸ ho.opened id hid)
  case unified => exact ho.unified
  case frames => exact ho.frames
  case counter => exact ho.counter
  case idle =>
    have hi := ho.idle
    exact ⟨hi.sessionId, hi.devices, hi.layout, hi.pending, hi.store, hi.awaiting, hi.cid⟩

variable [ICameraAdapter α] [ISerialPort π]

/-- All configured cameras are open, or start-up was rolled back. -/
theorem openCameras_cases {h : Service α π} (ho : h.Opening) (nodes : List HubFileCameraNode)
    (hlen : h.presetCameras.length + nodes.length < 2 ^ 64) :
    (∃ err, (openCameras nodes h).2 = some err) ∧
      Unused (openCameras nodes h).1.toState ∨
    (openCameras nodes h).2 = none ∧ (openCameras nodes h).1.Opening ∧
      (openCameras nodes h).1.presetCameras.map (fun pc => (pc.ip, pc.serialNumber)) =
        h.presetCameras.map (fun pc => (pc.ip, pc.serialNumber)) ++
          nodes.map fun node => (node.ip, node.serialNumber) := by
  induction nodes generalizing h with
  | nil => exact .inr ⟨rfl, ho, (List.append_nil _).symm⟩
  | cons node nodes ih =>
    have hopen : h.cameras.open_.keys.length < 2 ^ 64 := by
      rw [ho.count]
      omega
    unfold openCameras
    dsimp only
    rcases h.cameras.createAndOpenDevice_cases
        { backendId := node.backendId, serialNumber := node.serialNumber, ip := node.ip } hopen with
      hfail | ⟨mid, slot, hne, hnew, hmid, _, hinsert⟩
    · left
      rw [if_pos hfail]
      exact ⟨⟨_, rfl⟩, rollback_unused ho.frames ho.counter⟩
    · rw [hmid, if_neg hne]
      have hadd := ho.addCamera hne hnew hinsert node
      have hlen' : (h.presetCameras ++ [(⟨mid, node.ip, node.serialNumber⟩ : HubPresetCamera)]).length
          + nodes.length < 2 ^ 64 := by
        simp only [List.length_append, List.length_cons, List.length_nil] at hlen ⊢
        omega
      rcases ih hadd hlen' with hfail | ⟨hnone, hopening, hnodes⟩
      · exact .inl hfail
      · right
        refine ⟨hnone, hopening, hnodes.trans ?_⟩
        simp [Service.addCamera]

/-- The state that start-up leaves: the session of the opened cameras on a new ring. -/
def sessionStarted (s : State) (shm : ShmRingBuffer) (framesPer : UInt32) : State :=
  { s with
    shm := shm
    sessionDevicesOrdered := s.presetIds
    sessionSlotLayout := slotLayout 0 s.presetCameras
    sessionId := s.presetIds.headD ""
    hubRuntime := ⟨kReady, ""⟩
    framesPerHardwareTrigger := framesPer }

omit [ICameraAdapter α] [ISerialPort π] in
theorem Opening.sessionStarted {h : Service α π} (ho : h.Opening) (hne : h.presetCameras ≠ [])
    {shm : ShmRingBuffer} (hr : HubRing shm)
    (hempty : ∀ i : UInt32, i.toNat < 64 → shm.cell i = Mapping.emptyCell) (n : UInt32) :
    Unused (sessionStarted h.toState shm (clampFramesPer n)) ∧
      (sessionStarted h.toState shm (clampFramesPer n)).Established := by
  have hi := ho.idle
  have hbounds := clampFramesPer_bounds n
  have he : (Service.sessionStarted h.toState shm (clampFramesPer n)).Established := by
    refine ⟨hne, rfl, rfl, rfl, ?_, ?_, ?_, ?_⟩
    · intro id hid
      have hid' : id ∈ h.pendingCameraBursts := hid
      rw [hi.pending] at hid'
      exact absurd hid' (AList.notMem_empty id)
    · intro hw
      exact absurd (hi.awaiting.symm.trans hw) Bool.false_ne_true
    · intro hw
      exact absurd (hi.awaiting.symm.trans hw) Bool.false_ne_true
    · intro hc
      exact absurd hi.cid hc
  have hstore : h.store.finishLru.length ≤ kMaxPublications := by
    rw [hi.store]
    exact Nat.zero_le _
  exact ⟨⟨⟨ho.nodup, ho.ne, fun _ => hr, fun _ => ho.unified, hbounds.1, hbounds.2, hstore, .inr he⟩,
    ho.counter, hi.awaiting, hi.store, hempty⟩, he⟩

/-- The last steps of start-up give the session of the opened cameras, or are rolled back. -/
theorem startSession_cases {h : Service α π} (ho : h.Opening)
    (fc : HubFileConfig) (boost : BoostOutcome) :
    (∃ err, (h.startSession fc boost).2 = some err) ∧
      Unused (h.startSession fc boost).1.toState ∨
    (h.startSession fc boost).2 = none ∧ ∃ shm, HubRing shm ∧
      (∀ i : UInt32, i.toNat < 64 → shm.cell i = Mapping.emptyCell) ∧
      (h.startSession fc boost).1.toState =
        sessionStarted h.toState shm (clampFramesPer fc.framesPerHardwareTrigger) := by
  unfold startSession
  dsimp only
  split_ifs with hcom hserial hshm
  · exact .inl ⟨⟨_, rfl⟩, rollback_unused ho.frames ho.counter⟩
  · exact .inl ⟨⟨_, rfl⟩, rollback_unused ho.frames ho.counter⟩
  · exact .inl ⟨⟨_, rfl⟩, rollback_unused ho.frames ho.counter⟩
  · rw [Bool.not_eq_true', Bool.not_eq_false] at hshm
    obtain ⟨m, hm, hcreated⟩ := createOrOpen_created hshm
    have hring : HubRing (h.shm.createOrOpen boost kDefaultHubRingRegionName true).1 :=
      ⟨m, by rw [hm], hcreated.wellFormed, hcreated.slotCount_eq⟩
    have hempty : ∀ i : UInt32, i.toNat < 64 →
        (h.shm.createOrOpen boost kDefaultHubRingRegionName true).1.cell i = Mapping.emptyCell := by
      rw [hm]
      exact hcreated.empty
    split
    next laid err hprep =>
      have hstate := congrArg (fun r => r.1.toState) hprep
      dsimp only at hstate
      rw [prepareHardwareTriggerLocked_toState] at hstate
      have hframes : laid.framesPerHardwareTrigger = 24 :=
        (congrArg State.framesPerHardwareTrigger hstate).symm.trans ho.frames
      have hcounter : laid.kAutoCapture = 1 :=
        (congrArg State.kAutoCapture hstate).symm.trans ho.counter
      exact .inl ⟨⟨err, rfl⟩, rollback_unused hframes hcounter⟩
    next laid hprep =>
      have hstate := congrArg (fun r => r.1.toState) hprep
      dsimp only at hstate
      rw [prepareHardwareTriggerLocked_toState] at hstate
      refine .inr ⟨rfl, _, hring, hempty, ?_⟩
      simp only [setRuntime, ← hstate]
      rfl

omit [ICameraAdapter α] [ISerialPort π] in
theorem fresh_opening (prototypes : AList fun _ : String => α) (port : π) (fc : HubFileConfig) :
    Service.Opening { fresh prototypes port with
      unifiedConfigMode := true
      startupSerialComMain := fc.projectorComIndex
      hubRuntime := ⟨kStarting, "unified startup"⟩
      presetCameras := [] } := by
  refine ⟨rfl, ?_, ?_, List.nodup_nil, rfl, rfl, rfl, ⟨rfl, rfl, rfl, rfl, rfl, rfl, rfl⟩⟩
  · intro id hid
    cases hid
  · intro id hid
    cases hid

/-- Start-up either fails and leaves nothing behind, or establishes the configured session. -/
theorem unifiedStartupFromConfig_cases (prototypes : AList fun _ : String => α) (port : π)
    (fc : HubFileConfig) (boost : BoostOutcome) :
    let started := (fresh prototypes port : Service α π).unifiedStartupFromConfig fc boost
    (∃ err, started.2 = some err) ∧ Unused started.1.toState ∨
    started.2 = none ∧ Unused started.1.toState ∧ started.1.Established ∧
      started.1.hubRuntime.code = kReady ∧
      started.1.framesPerHardwareTrigger = clampFramesPer fc.framesPerHardwareTrigger ∧
      started.1.presetCameras.map (fun pc => (pc.ip, pc.serialNumber)) =
        fc.cameras.map fun node => (node.ip, node.serialNumber) := by
  have hlen : ([] : List HubPresetCamera).length + fc.cameras.length < 2 ^ 64 := by
    rw [List.length_nil, Nat.zero_add]
    exact fc.cameras_lt
  have hcases := openCameras_cases (fresh_opening prototypes port fc) fc.cameras hlen
  unfold unifiedStartupFromConfig
  dsimp only
  split
  next h err hopen =>
    rw [hopen] at hcases
    cases hcases with
    | inl hfail => exact .inl hfail
    | inr hopened => cases hopened.1
  next h hopen =>
    rw [hopen] at hcases
    obtain ⟨⟨_, hsome⟩, _⟩ | ⟨_, ho, hnodes⟩ := hcases
    · cases hsome
    have hpresets : h.presetCameras ≠ [] := by
      intro hnil
      have hnodes' : [] = fc.cameras.map fun node => (node.ip, node.serialNumber) := by
        simpa [hnil] using hnodes
      exact fc.cameras_ne (List.map_eq_nil_iff.mp hnodes'.symm)
    rcases startSession_cases ho fc boost with hfail | ⟨hnone, shm, hring, hempty, hstate⟩
    · exact .inl hfail
    · obtain ⟨hunused, hest⟩ :=
        ho.sessionStarted hpresets hring hempty fc.framesPerHardwareTrigger
      rw [hstate]
      exact .inr ⟨hnone, hunused, hest, rfl, rfl, hnodes⟩

theorem boot_unused (prototypes : AList fun _ : String => α) (port : π) (b : Boot) :
    Unused ((fresh prototypes port : Service α π).boot b).toState := by
  cases b with
  | configFileNotFound message =>
    exact rollback_unused (h := (fresh prototypes port).setRuntime kConfigFileNotFound message) rfl rfl
  | configInvalid message =>
    exact rollback_unused (h := (fresh prototypes port).setRuntime kConfigInvalid message) rfl rfl
  | started fc boost =>
    rcases unifiedStartupFromConfig_cases prototypes port fc boost with ⟨_, hs⟩ | ⟨_, hs, _⟩
    · exact hs
    · exact hs

end Service

def oneCamera : HubFileConfig where
  projectorComIndex := 1
  framesPerHardwareTrigger := 1
  cameras := [{ ip := "192.168.0.10" }]
  cameras_ne := by decide
  cameras_lt := by decide

def twoCameras : HubFileConfig where
  projectorComIndex := 1
  framesPerHardwareTrigger := 1
  cameras := [{ ip := "192.168.0.10" }, { ip := "192.168.0.11" }]
  cameras_ne := by decide
  cameras_lt := by decide

/-- A hub on the bench: its devices do what they are told, and two threads deliver frames. -/
def bench (fc : HubFileConfig) : World ReadyCamera EchoPort Bool :=
  booted (AList.singleton "daheng" {}) {} (.started fc (.mapped zeroed)) fun _ => 0

end Camera3D.Hub
