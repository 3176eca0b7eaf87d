import Camera3D.Hub.Collecting
import Camera3D.Hub.Restore

/-! Which camera an index stands for. The layout of a session is laid out anew whenever the session is
established, and always from the cameras that start-up opened. -/
namespace Camera3D.Hub
open Camera Serial Ipc Transition HubServiceStateCode

/-- What start-up asks the manager to open for a camera of the configuration. -/
def HubFileCameraNode.device (node : HubFileCameraNode) : DeviceInfo :=
  { backendId := node.backendId, serialNumber := node.serialNumber, ip := node.ip }

section Opened
variable {α : Type*}

/-- The preset camera `pc` is the camera `node`, and the manager has it open. -/
structure HubPresetCamera.Opens (cameras : CameraManager α) (pc : HubPresetCamera)
    (node : HubFileCameraNode) : Prop where
  ip : pc.ip = node.ip
  serialNumber : pc.serialNumber = node.serialNumber
  device : cameras.deviceOf pc.managerDeviceId = some node.device

theorem HubPresetCamera.Opens.of_deviceOf {cameras cameras' : CameraManager α}
    (hdevices : cameras'.deviceOf = cameras.deviceOf) {pc : HubPresetCamera} {node : HubFileCameraNode}
    (h : pc.Opens cameras node) : pc.Opens cameras' node :=
  ⟨h.ip, h.serialNumber, (congrFun hdevices _).trans h.device⟩

/-- A camera that is opened under a new id leaves the ones before it as they are. -/
theorem HubPresetCamera.Opens.insert {cameras cameras' : CameraManager α} {mid : String} {slot : Slot α}
    (hnew : mid ∉ cameras.open_) (hopen : cameras'.open_ = cameras.open_.insert mid slot)
    {pc : HubPresetCamera} {node : HubFileCameraNode} (h : pc.Opens cameras node) :
    pc.Opens cameras' node := by
  have hne : pc.managerDeviceId ≠ mid := by
    intro heq
    have hsome := h.device
    unfold CameraManager.deviceOf at hsome
    rw [heq, AList.lookup_eq_none.mpr hnew] at hsome
    cases hsome
  refine ⟨h.ip, h.serialNumber, ?_⟩
  unfold CameraManager.deviceOf
  rw [hopen, AList.lookup_insert_ne hne]
  exact h.device

end Opened

namespace Service
variable {α π : Type*} [ICameraAdapter α] [ISerialPort π]

/-- The cameras of the configuration are opened in its order. -/
theorem openCameras_opens {h : Service α π} (ho : h.Opening) {nodes₀ nodes : List HubFileCameraNode}
    (hlen : h.presetCameras.length + nodes.length < 2 ^ 64)
    (hpre : List.Forall₂ (HubPresetCamera.Opens h.cameras) h.presetCameras nodes₀)
    (hok : (openCameras nodes h).2 = none) :
    List.Forall₂ (HubPresetCamera.Opens (openCameras nodes h).1.cameras)
      (openCameras nodes h).1.presetCameras (nodes₀ ++ nodes) := by
  induction nodes generalizing h nodes₀ with
  | nil =>
    rw [List.append_nil]
    exact hpre
  | cons node nodes ih =>
    have hopen : h.cameras.open_.keys.length < 2 ^ 64 := by
      rw [ho.count]
      omega
    unfold openCameras at hok ⊢
    dsimp only at hok ⊢
    rcases h.cameras.createAndOpenDevice_cases
        { backendId := node.backendId, serialNumber := node.serialNumber, ip := node.ip } hopen with
      hfail | ⟨mid, slot, hne, hnew, hmid, hdevice, hinsert⟩
    · rw [if_pos hfail] at hok
      cases hok
    · rw [hmid, if_neg hne] at hok ⊢
      have hadd := ho.addCamera hne hnew hinsert node
      have hlen' : (h.presetCameras ++ [(⟨mid, node.ip, node.serialNumber⟩ : HubPresetCamera)]).length
          + nodes.length < 2 ^ 64 := by
        simp only [List.length_append, List.length_cons, List.length_nil] at hlen ⊢
        omega
      have hself : HubPresetCamera.Opens (h.cameras.createAndOpenDevice node.device "").1
          ⟨mid, node.ip, node.serialNumber⟩ node := by
        refine ⟨rfl, rfl, ?_⟩
        unfold CameraManager.deviceOf
        rw [HubFileCameraNode.device, hinsert, AList.lookup_insert, Option.map_some, hdevice]
      have hpre' := List.rel_append (hpre.imp fun pc node hpc => hpc.insert hnew hinsert)
        (List.Forall₂.cons hself .nil)
      have hrest := ih hadd hlen' hpre' hok
      rwa [List.append_assoc] at hrest

omit [ISerialPort π] in
theorem deviceOf_armCameras (mids : List String) (cameras : CameraManager α) :
    (armCameras mids cameras).1.deviceOf = cameras.deviceOf := by
  induction mids generalizing cameras with
  | nil => rfl
  | cons mid mids ih =>
    have hclear : (cameras.clearResultCallback mid).deviceOf = cameras.deviceOf :=
      CameraManager.deviceOf_withAdapter
    have htrigger : ((cameras.clearResultCallback mid).setTriggerMode mid .kHardware).1.deviceOf =
        cameras.deviceOf :=
      CameraManager.deviceOf_withAdapter.trans hclear
    have hset : (((cameras.clearResultCallback mid).setTriggerMode mid .kHardware).1.setResultCallback
        mid mid).deviceOf = cameras.deviceOf :=
      CameraManager.deviceOf_withAdapter.trans htrigger
    rw [armCameras]
    dsimp only
    split_ifs
    · exact htrigger
    · exact CameraManager.deviceOf_withAdapter.trans hset
    · exact (ih _).trans (CameraManager.deviceOf_withAdapter.trans hset)

omit [ISerialPort π] in
theorem deviceOf_prepareHardwareTriggerLocked (h : Service α π) :
    h.prepareHardwareTriggerLocked.1.cameras.deviceOf = h.cameras.deviceOf := by
  by_cases hnil : h.sessionDevicesOrdered = []
  · have hnil' : h.resetOrchestrators.sessionDevicesOrdered = [] := hnil
    unfold prepareHardwareTriggerLocked
    dsimp only
    rw [if_pos hnil']
    rfl
  · rw [(prepareHardwareTriggerLocked_cameras hnil).1]
    exact deviceOf_armCameras _ _

theorem deviceOf_startSession {h : Service α π} {fc : HubFileConfig} {boost : BoostOutcome}
    (hok : (h.startSession fc boost).2 = none) :
    (h.startSession fc boost).1.cameras.deviceOf = h.cameras.deviceOf := by
  unfold startSession at hok ⊢
  dsimp only at hok ⊢
  split_ifs at hok ⊢
  split at hok
  next laid err hprep => cases hok
  next laid hprep =>
    have hdevices := congrArg (fun r : Service α π × Option String => r.1.cameras.deviceOf) hprep
    dsimp only at hdevices
    rw [deviceOf_prepareHardwareTriggerLocked] at hdevices
    exact hdevices.symm

/-- A start-up that succeeds has opened the cameras of the configuration. -/
theorem unifiedStartupFromConfig_opens (prototypes : AList fun _ : String => α) (port : π)
    {fc : HubFileConfig} {boost : BoostOutcome}
    (hok : ((fresh prototypes port : Service α π).unifiedStartupFromConfig fc boost).2 = none) :
    let started := ((fresh prototypes port : Service α π).unifiedStartupFromConfig fc boost).1
    List.Forall₂ (HubPresetCamera.Opens started.cameras) started.presetCameras fc.cameras := by
  have hlen : ([] : List HubPresetCamera).length + fc.cameras.length < 2 ^ 64 := by
    rw [List.length_nil, Nat.zero_add]
    exact fc.cameras_lt
  have hopens := openCameras_opens (fresh_opening prototypes port fc) hlen .nil
  have hcases := openCameras_cases (fresh_opening prototypes port fc) fc.cameras hlen
  unfold unifiedStartupFromConfig at hok ⊢
  dsimp only at hok ⊢
  split at hok
  next h err hopen => cases hok
  next h hopen =>
    rw [hopen] at hopens hcases
    obtain ⟨⟨_, hsome⟩, _⟩ | ⟨_, ho, _⟩ := hcases
    · cases hsome
    have hsession := startSession_cases ho fc boost
    obtain ⟨⟨_, hsome⟩, _⟩ | ⟨_, shm, _, _, hstate⟩ := hsession
    · cases hsome.symm.trans hok
    have hpresets : (h.startSession fc boost).1.presetCameras = h.presetCameras := by
      rw [hstate]
      rfl
    rw [hpresets]
    exact (hopens rfl).imp fun pc node hpc => hpc.of_deviceOf (deviceOf_startSession hok)

omit [ISerialPort π] in
theorem deviceOf_restoreActiveSessionLocked (h : Service α π) :
    h.restoreActiveSessionLocked.1.cameras.deviceOf = h.cameras.deviceOf := by
  unfold restoreActiveSessionLocked
  dsimp only
  split_ifs
  · rfl
  · exact deviceOf_prepareHardwareTriggerLocked _

omit [ICameraAdapter α] in
theorem cameras_afterSdkConnectSerialLocked (h : Service α π) :
    h.afterSdkConnectSerialLocked.cameras = h.cameras := by
  obtain ⟨port, he⟩ := h.sendSetCommandOnlyLocked_frame kExitBlackToTest
  unfold afterSdkConnectSerialLocked
  rw [he]
  rfl

theorem deviceOf_resumeSession (h : Service α π) :
    h.resumeSession.1.cameras.deviceOf = h.cameras.deviceOf := by
  have hdevices := h.deviceOf_restoreActiveSessionLocked
  unfold resumeSession
  rcases hr : h.restoreActiveSessionLocked with ⟨h', _ | err⟩
  · rw [hr] at hdevices
    exact (congrArg CameraManager.deviceOf (cameras_afterSdkConnectSerialLocked _)).trans hdevices
  · rw [hr] at hdevices
    exact hdevices

theorem deviceOf_connect (h : Service α π) : h.connect.1.cameras.deviceOf = h.cameras.deviceOf := by
  unfold connect
  split_ifs
  · rfl
  · exact h.deviceOf_resumeSession
  · rfl
  · exact h.deviceOf_resumeSession
  · exact congrArg CameraManager.deviceOf h.cameras_afterSdkConnectSerialLocked

omit [ISerialPort π] in
theorem deviceOf_clearCallbacks (h : Service α π) :
    h.clearCallbacks.cameras.deviceOf = h.cameras.deviceOf := by
  have hfold : ∀ (mids : List String) (cameras : CameraManager α),
      (mids.foldl (fun m mid => m.clearResultCallback mid) cameras).deviceOf = cameras.deviceOf := by
    intro mids
    induction mids with
    | nil => exact fun _ => rfl
    | cons mid mids ih => exact fun cameras => (ih _).trans CameraManager.deviceOf_withAdapter
  exact hfold _ _

theorem deviceOf_disconnect (h : Service α π) (sessionId : String) :
    (h.disconnect sessionId).1.cameras.deviceOf = h.cameras.deviceOf := by
  unfold disconnect
  split_ifs
  · obtain ⟨port, he⟩ := h.sendSetCommandOnlyLocked_frame kBlackScreen
    have hcameras : h.beforeSdkDisconnectSerialLocked.cameras = h.cameras := by
      unfold beforeSdkDisconnectSerialLocked
      rw [he]
      rfl
    exact (deviceOf_clearCallbacks _).trans (congrArg CameraManager.deviceOf hcameras)
  · rfl

end Service

section Changes
variable {α π : Type*} [ICameraAdapter α] [ISerialPort π]

/-- Once start-up is over, no camera is opened or closed. -/
theorem Change.deviceOf {h h' : Service α π} {c : Cause} (hch : Change h c h') :
    h'.cameras.deviceOf = h.cameras.deviceOf := by
  cases hch with
  | recovery pc =>
    obtain ⟨rt, serial, he⟩ := h.tryRecoverSerialQuick_frame pc
    rw [he]
  | connect => exact h.deviceOf_connect
  | disconnect sessionId => exact h.deviceOf_disconnect sessionId
  | capture request now =>
    obtain ⟨s, port, he⟩ := h.capture_frame request now
    rw [he]
    rfl
  | wakeUp wt now => rfl
  | cameraFrame sNext mid fb => rfl
  | port port => rfl
  | cameras cameras hdevices => exact hdevices

end Changes

/-- The entry names camera `i`, which is `node` and open under `id`. -/
structure CameraRawShmSlot.Names (e : CameraRawShmSlot) (i : ℕ) (id : String)
    (node : HubFileCameraNode) : Prop where
  managerDeviceId : e.managerDeviceId = id
  ip : e.ip = node.ip
  serialNumber : e.serialNumber = node.serialNumber
  cameraIndex : e.cameraIndex = .ofNat i

theorem layout_mem_listing {burstsById : Bursts} {framesPer : ℕ}
    {cameras : List (String × CameraRawShmSlot)} {l : Listed}
    (hl : l ∈ listing burstsById framesPer cameras) : ∃ camera ∈ cameras, l.layout = camera.2 := by
  have hburst : ∀ (layout : CameraRawShmSlot) (j : UInt32) (frames : List FrameBuffer),
      l ∈ listBurst layout j frames → l.layout = layout := by
    intro layout j frames hmem
    induction frames generalizing j with
    | nil => cases hmem
    | cons raw frames ih =>
      rcases List.mem_cons.mp hmem with rfl | hmem
      · rfl
      · exact ih (j + 1) hmem
  induction cameras with
  | nil => cases hl
  | cons camera cameras ih =>
    rw [listing, List.mem_append] at hl
    rcases hl with hl | hl
    · exact ⟨camera, List.mem_cons_self, hburst _ _ _ hl⟩
    · obtain ⟨c, hc, heq⟩ := ih hl
      exact ⟨c, List.mem_cons_of_mem camera hc, heq⟩

namespace State

/-- Every published entry carries the metadata of a preset camera. -/
def Catalogued (s : State) : Prop :=
  ∀ cid pub, s.store.publications.lookup cid = some pub → ∀ e ∈ pub.cameraRawSlots, ∃ i pc,
    s.presetCameras[i]? = some pc ∧ e.managerDeviceId = pc.managerDeviceId ∧ e.ip = pc.ip ∧
      e.serialNumber = pc.serialNumber ∧ e.cameraIndex = .ofNat i

theorem Catalogued.move {s s' : State} {r : Option CaptureRequest} (h : s.Catalogued)
    (hm : s.Move r s') : s'.Catalogued := by
  cases hm with
  | released hs =>
    intro cid pub hpub
    cases hpub
  | same | runtime | resumed | counted | armed | notSent | timedOut | errorTaken => exact h

theorem Catalogued.delivers {s : State} {sNext : UInt32} {mid : String} {fb : FrameBuffer}
    {r : State × UInt32} (h : s.Catalogued) (hs : s.Sound) (hr : s.Delivers sNext mid fb r) :
    r.1.Catalogued := by
  cases hr with
  | dropped | kept | unpublished => exact h
  | @published hw hm hc w out hp =>
    intro cid pub hpub e he
    rcases PublicationStore.lookup_remember hpub with ⟨rfl, rfl⟩ | ⟨_, hold⟩
    · obtain ⟨k, hk⟩ := List.mem_iff_getElem?.mp he
      obtain ⟨l, hl, hdesc⟩ := getElem?_of_forall₂ (hp.covers.entries.flip) hk
      obtain ⟨camera, hcamera, hlayout⟩ := layout_mem_listing (List.mem_of_getElem? hl)
      have hmem : l.layout ∈ s.sessionSlotLayout := hlayout ▸ (List.of_mem_zip hcamera).2
      rw [(hs.of_awaiting hw).layout] at hmem
      obtain ⟨i, hi⟩ := List.mem_iff_getElem?.mp hmem
      rw [getElem?_slotLayout, Nat.zero_add] at hi
      obtain ⟨pc, hpc, hslot⟩ := Option.map_eq_some_iff.mp hi
      refine ⟨i, pc, hpc, ?_⟩
      have hentry : e = { l.layout with
          burstFrameIndex := l.burstFrameIndex
          rawSlot := e.rawSlot
          rawSeq := e.rawSeq
          w := l.frame.width
          h := l.frame.height
          fmt := l.frame.pixelFormat
          payloadOff := e.payloadOff
          payloadSize := e.payloadSize
          frame := l.frame } := hdesc
      rw [hentry, ← hslot]
      exact ⟨rfl, rfl, rfl, rfl⟩
    · exact h cid pub hold e he

end State

theorem Change.catalogued {α π : Type*} [ICameraAdapter α] [ISerialPort π] {h h' : Service α π}
    {c : Cause} (hch : Change h c h') (hs : h.Sound) (hcat : h.Catalogued) : h'.Catalogued := by
  rcases hch.move with ⟨r, hm⟩ | ⟨sNext, mid, fb, he⟩
  · exact hcat.move hm
  · rw [he]
    exact hcat.delivers hs (hs.delivers sNext mid fb)

/-- The session lists the cameras `nodes` in order, under the ids `ids`. -/
structure State.ListsCameras (s : State) (nodes : List HubFileCameraNode) (ids : List String) : Prop where
  devices : s.sessionDevicesOrdered = ids
  length : s.sessionSlotLayout.length = nodes.length
  layout : ∀ (i : ℕ) (node : HubFileCameraNode) (id : String), nodes[i]? = some node →
    ids[i]? = some id → ∃ e : CameraRawShmSlot, s.sessionSlotLayout[i]? = some e ∧ e.Names i id node
  sessionId : ids[0]? = some s.sessionId

/-- The ids `ids` stand for the cameras `nodes` in the manager, in the session if there is one, and in
every publication. -/
structure Service.Labels {α π : Type*} (h : Service α π) (nodes : List HubFileCameraNode)
    (ids : List String) : Prop where
  session : h.sessionId = "" ∧ h.sessionDevicesOrdered = [] ∧ h.sessionSlotLayout = [] ∨
    h.ListsCameras nodes ids
  opened : ∀ (i : ℕ) (node : HubFileCameraNode) (id : String), nodes[i]? = some node →
    ids[i]? = some id → h.cameras.deviceOf id = some node.device
  publications : ∀ cid pub, h.store.publications.lookup cid = some pub → ∀ e ∈ pub.cameraRawSlots,
    ∃ (i : ℕ) (node : HubFileCameraNode) (id : String), nodes[i]? = some node ∧ ids[i]? = some id ∧
      e.Names i id node

/-- The camera behind the id at a place is the one that the configuration names there. -/
theorem State.exists_opens_of_presetIds {α : Type*} {s : State} {cameras : CameraManager α}
    {nodes : List HubFileCameraNode}
    (hopens : List.Forall₂ (HubPresetCamera.Opens cameras) s.presetCameras nodes) {i : ℕ}
    {node : HubFileCameraNode} {id : String} (hnode : nodes[i]? = some node)
    (hid : s.presetIds[i]? = some id) :
    ∃ pc, s.presetCameras[i]? = some pc ∧ pc.Opens cameras node ∧ pc.managerDeviceId = id := by
  obtain ⟨pc, hpc, hopen⟩ := getElem?_of_forall₂ hopens hnode
  rw [State.presetIds, List.getElem?_map, hpc] at hid
  exact ⟨pc, hpc, hopen, Option.some.inj hid⟩

theorem State.Established.listsCameras {α : Type*} {s : State} (h : s.Established)
    {cameras : CameraManager α} {nodes : List HubFileCameraNode}
    (hopens : List.Forall₂ (HubPresetCamera.Opens cameras) s.presetCameras nodes) :
    s.ListsCameras nodes s.presetIds := by
  constructor
  case devices => exact h.devices
  case length => rw [h.layout, length_slotLayout, hopens.length_eq]
  case layout =>
    intro i node id hnode hid
    obtain ⟨pc, hpc, hopen, rfl⟩ := State.exists_opens_of_presetIds hopens hnode hid
    refine ⟨pc.slot i, ?_, rfl, hopen.ip, hopen.serialNumber, rfl⟩
    rw [h.layout, getElem?_slotLayout, hpc, Nat.zero_add]
    rfl
  case sessionId =>
    obtain ⟨id, ids, hids, hid⟩ := h.presetIds_eq
    rw [hids, hid]
    rfl

theorem Service.labels_of_sound {α π : Type*} {h : Service α π} (hs : h.Sound) (hcat : h.Catalogued)
    {nodes : List HubFileCameraNode}
    (hopens : List.Forall₂ (HubPresetCamera.Opens h.cameras) h.presetCameras nodes) :
    h.Labels nodes h.presetIds := by
  constructor
  case session => exact hs.session.imp (fun hi => ⟨hi.sessionId, hi.devices, hi.layout⟩) fun he => he.listsCameras hopens
  case opened =>
    intro i node id hnode hid
    obtain ⟨pc, _, hopen, rfl⟩ := State.exists_opens_of_presetIds hopens hnode hid
    exact hopen.device
  case publications =>
    intro cid pub hpub e he
    obtain ⟨i, pc, hpc, hid, hip, hserial, hindex⟩ := hcat cid pub hpub e he
    obtain ⟨node, hnode, hopen⟩ := getElem?_of_forall₂ hopens.flip hpc
    refine ⟨i, node, pc.managerDeviceId, hnode, ?_, hid, hip.trans hopen.ip,
      hserial.trans hopen.serialNumber, hindex⟩
    rw [State.presetIds, List.getElem?_map, hpc]
    rfl

namespace Server
variable {α π θ : Type*} [ICameraAdapter α] [ICameraControls α] [ISerialPort π] [DecidableEq θ]

theorem run_deviceOf (sv : Server α π θ) (es : List (ServerEvent α π θ)) :
    (run step sv es).hub.cameras.deviceOf = sv.hub.cameras.deviceOf := by
  induction es generalizing sv with
  | nil => rfl
  | cons e es ih => exact (ih (sv.step e)).trans (sv.step_change e).deviceOf

theorem run_catalogued {sv : Server α π θ} (hs : sv.hub.Sound) (hcat : sv.hub.Catalogued)
    (es : List (ServerEvent α π θ)) : (run step sv es).hub.Catalogued :=
  (run_invariant (I := fun sv : Server α π θ => sv.hub.Sound ∧ sv.hub.Catalogued)
    (fun sv e h => ⟨(sv.step_change e).sound h.1, (sv.step_change e).catalogued h.1 h.2⟩)
    ⟨hs, hcat⟩ es).2

/-- After a start-up that succeeds, the index of a camera is its place in the configuration, as a
32-bit number, in every session and in every publication. -/
theorem camera_index_stable (prototypes : AList fun _ : String => α) (port : π) {fc : HubFileConfig}
    {boost : BoostOutcome}
    (hok : ((fresh prototypes port : Service α π).unifiedStartupFromConfig fc boost).2 = none)
    (cursor : θ → UInt32) :
    ∃ ids : List String, ids.length = fc.cameras.length ∧ ids.Nodup ∧
      ∀ es : List (ServerEvent α π θ),
        (run step (booted prototypes port (.started fc boost) cursor) es).hub.Labels fc.cameras ids := by
  have hunused := Service.boot_unused prototypes port (.started fc boost)
  have hopens := Service.unifiedStartupFromConfig_opens prototypes port hok
  let sv₀ : Server α π θ := booted prototypes port (.started fc boost) cursor
  have hsound : sv₀.hub.Sound := hunused.sound
  have hcat : sv₀.hub.Catalogued := by
    intro cid pub hpub
    have hstore : sv₀.hub.store = {} := hunused.store
    rw [hstore] at hpub
    cases hpub
  refine ⟨sv₀.hub.presetIds, ?_, hunused.sound.presets_nodup, fun es => ?_⟩
  · rw [State.presetIds, List.length_map]
    exact hopens.length_eq
  · have hpresets := (run_configured sv₀ es).presets
    have hids : (run step sv₀ es).hub.presetIds = sv₀.hub.presetIds := by
      unfold State.presetIds
      rw [hpresets]
    rw [← hids]
    apply Service.labels_of_sound (run_sound hsound es) (run_catalogued hsound hcat es)
    rw [hpresets]
    exact hopens.imp fun pc node hpc => hpc.of_deviceOf (run_deviceOf sv₀ es)

theorem camera_index_stable_twoCameras :
    let sv₀ : Server ReadyCamera EchoPort Bool := { world := bench twoCameras }
    ∃ ids : List String, ids.length = 2 ∧ ids.Nodup ∧
      ∀ es, (run step sv₀ es).hub.Labels twoCameras.cameras ids := by
  intro sv₀
  have hok : ((fresh (AList.singleton "daheng" {}) {} : Service ReadyCamera EchoPort)
      |>.unifiedStartupFromConfig twoCameras (.mapped zeroed)).2 = none := by
    decide +kernel
  exact camera_index_stable _ _ hok _

end Server

section Bench

/-- A camera that the bench can open. -/
structure HubFileCameraNode.OnBench (node : HubFileCameraNode) : Prop where
  backendId : node.backendId = "daheng"
  ip : node.ip ≠ ""

theorem prototypes_createAndOpenDevice {α : Type*} [ICameraAdapter α] (m : CameraManager α)
    (device : DeviceInfo) : (m.createAndOpenDevice device "").1.prototypes = m.prototypes := by
  have hempty : ¬ (("" : String) ≠ "" ∧ "" ∈ m.open_) := fun h => h.1 rfl
  unfold CameraManager.createAndOpenDevice
  rw [if_neg hempty, if_pos rfl]
  dsimp only
  split_ifs
  · rfl
  · cases m.prototypes.lookup device.backendId with
    | none => rfl
    | some proto =>
      dsimp only
      split_ifs
      · rfl
      · rfl

theorem createAndOpenDevice_bench {m : CameraManager ReadyCamera}
    (hproto : m.prototypes.lookup "daheng" = some {}) {node : HubFileCameraNode} (hnode : node.OnBench) :
    (m.createAndOpenDevice node.device "").2 ≠ "" := by
  have hempty : ¬ (("" : String) ≠ "" ∧ "" ∈ m.open_) := fun h => h.1 rfl
  have hne := CameraManager.freshId_ne m.open_ m.open_.keys.length m.seq
  have hinfo : ¬ (node.device.backendId = "" ∨
      (node.device.ip = "" ∧ node.device.serialNumber = "")) := by
    rintro (hback | ⟨hip, _⟩)
    · exact absurd (hnode.backendId.symm.trans hback) (by decide)
    · exact hnode.ip hip
  have hlookup : m.prototypes.lookup node.device.backendId = some {} := by
    have hback : node.device.backendId = "daheng" := hnode.backendId
    rw [hback]
    exact hproto
  unfold CameraManager.createAndOpenDevice
  rw [if_neg hempty, if_pos rfl]
  dsimp only
  rw [if_neg hinfo, hlookup]
  exact hne

namespace Service

theorem openCameras_bench {nodes : List HubFileCameraNode} (hnodes : ∀ node ∈ nodes, node.OnBench)
    {h : Service ReadyCamera EchoPort} (hproto : h.cameras.prototypes.lookup "daheng" = some {}) :
    ∃ cameras presets,
      openCameras nodes h = ({ h with cameras := cameras, presetCameras := presets }, none) := by
  induction nodes generalizing h with
  | nil => exact ⟨h.cameras, h.presetCameras, rfl⟩
  | cons node nodes ih =>
    let opened := h.cameras.createAndOpenDevice node.device ""
    have hmid : ¬ opened.2 = "" := createAndOpenDevice_bench hproto (hnodes node List.mem_cons_self)
    have hproto' : (h.addCamera opened.1 opened.2 node).cameras.prototypes.lookup "daheng" = some {} := by
      show opened.1.prototypes.lookup "daheng" = some {}
      rw [prototypes_createAndOpenDevice]
      exact hproto
    obtain ⟨cameras, presets, he⟩ := ih (fun n hn => hnodes n (List.mem_cons_of_mem node hn)) hproto'
    refine ⟨cameras, presets, ?_⟩
    unfold openCameras
    exact (if_neg hmid).trans he

theorem startSession_bench {h : Service ReadyCamera EchoPort} (ho : h.Opening)
    (hpresets : h.presetCameras ≠ []) (hshm : h.shm = {}) {fc : HubFileConfig}
    (hcom : fc.projectorComIndex ≠ 0) : (h.startSession fc (.mapped zeroed)).2 = none := by
  have hcreated : (ShmRingBuffer.createOrOpen {} (.mapped zeroed) kDefaultHubRingRegionName true).2 =
      true := by
    decide +kernel
  have hserial : (h.serial.openPort fc.projectorComIndex 115200).2 = true := rfl
  have harm := armCameras_cases ho.nodup h.cameras
  obtain ⟨_, mid, hmid, hcannot⟩ | ⟨hnone, _⟩ := harm
  · obtain ⟨slot, hslot⟩ := Option.isSome_iff_exists.mp (AList.lookup_isSome.mpr (ho.opened mid hmid))
    exact absurd ⟨slot, hslot, rfl, rfl⟩ hcannot
  · have hprep : ∀ {laid : Service ReadyCamera EchoPort}, laid.sessionDevicesOrdered = h.presetIds →
        laid.cameras = h.cameras → laid.prepareHardwareTriggerLocked.2 = none := by
      intro laid hdevices hcameras
      have hne : laid.sessionDevicesOrdered ≠ [] := by
        rw [hdevices]
        exact fun hnil => hpresets (List.map_eq_nil_iff.mp hnil)
      rw [(prepareHardwareTriggerLocked_cameras hne).2, hdevices, hcameras]
      exact hnone
    unfold startSession
    rw [if_neg hcom]
    dsimp only
    rw [hserial, hshm, hcreated]
    rw [if_neg (by decide), if_neg (by decide)]
    split
    next laid err hfail =>
      have hsome := congrArg Prod.snd hfail
      rw [hprep] at hsome
      · cases hsome
      · rfl
      · rfl
    next laid hok => rfl

/-- The bench starts from every configuration with a serial port and cameras that it can open. -/
theorem unifiedStartupFromConfig_bench {fc : HubFileConfig} (hcom : fc.projectorComIndex ≠ 0)
    (hnodes : ∀ node ∈ fc.cameras, node.OnBench) :
    ((fresh (AList.singleton "daheng" {}) {} : Service ReadyCamera EchoPort)
      |>.unifiedStartupFromConfig fc (.mapped zeroed)).2 = none := by
  have hlen : ([] : List HubPresetCamera).length + fc.cameras.length < 2 ^ 64 := by
    rw [List.length_nil, Nat.zero_add]
    exact fc.cameras_lt
  have hopening := fresh_opening (AList.singleton "daheng" ({} : ReadyCamera)) ({} : EchoPort) fc
  have hcases := openCameras_cases hopening fc.cameras hlen
  obtain ⟨cameras, presets, he⟩ := openCameras_bench hnodes
    (h := { (fresh (AList.singleton "daheng" {}) {} : Service ReadyCamera EchoPort) with
      unifiedConfigMode := true
      startupSerialComMain := fc.projectorComIndex
      hubRuntime := ⟨kStarting, "unified startup"⟩
      presetCameras := [] }) rfl
  unfold unifiedStartupFromConfig
  dsimp only
  rw [he] at hcases ⊢
  obtain ⟨⟨_, hsome⟩, _⟩ | ⟨_, ho, hpresets⟩ := hcases
  · cases hsome
  · have hne : presets ≠ [] := by
      rintro rfl
      exact fc.cameras_ne (List.map_eq_nil_iff.mp hpresets.symm)
    exact startSession_bench ho hne rfl hcom

end Service

/-- As many cameras of the bench as asked for. -/
def benchCameras (n : ℕ) (hn : n < 2 ^ 64) (hne : n ≠ 0) : HubFileConfig where
  projectorComIndex := 1
  cameras := List.replicate n { ip := "192.168.0.10" }
  cameras_ne h := hne ((List.replicate_eq_nil_iff _).mp h)
  cameras_lt := List.length_replicate.symm ▸ hn

theorem benchCameras_layout {n : ℕ} (hn : n < 2 ^ 64) (hne : n ≠ 0) {i : ℕ} (hi : i < n) :
    let fc := benchCameras n hn hne
    let sv₀ : Server ReadyCamera EchoPort Bool :=
      Server.booted (AList.singleton "daheng" {}) {} (.started fc (.mapped zeroed)) fun _ => 0
    ((fresh (AList.singleton "daheng" {}) {} : Service ReadyCamera EchoPort)
      |>.unifiedStartupFromConfig fc (.mapped zeroed)).2 = none ∧
    ∃ e : CameraRawShmSlot, (run Server.step sv₀ []).hub.sessionSlotLayout[i]? = some e ∧
      e.cameraIndex = .ofNat i := by
  have hcom : (benchCameras n hn hne).projectorComIndex ≠ 0 := by
    show (1 : UInt32) ≠ 0
    decide
  have hnodes : ∀ node ∈ (benchCameras n hn hne).cameras, node.OnBench := by
    intro node hnode
    obtain rfl := List.eq_of_mem_replicate hnode
    exact ⟨rfl, by decide⟩
  have hok := Service.unifiedStartupFromConfig_bench hcom hnodes
  have hopens := Service.unifiedStartupFromConfig_opens _ _ hok
  have hlen : (benchCameras n hn hne).cameras.length = n := List.length_replicate
  have hcases := Service.unifiedStartupFromConfig_cases (AList.singleton "daheng" ({} : ReadyCamera))
    ({} : EchoPort) (benchCameras n hn hne) (.mapped zeroed)
  obtain ⟨⟨_, hsome⟩, _⟩ | ⟨_, _, hest, _⟩ := hcases
  · cases hok.symm.trans hsome
  have hlt := hi
  rw [← hlen] at hlt
  have hlt' := hlt
  rw [← hopens.length_eq, ← List.length_map HubPresetCamera.managerDeviceId] at hlt'
  obtain ⟨e, he, hnames⟩ := (hest.listsCameras hopens).layout i _ _
    (List.getElem?_eq_getElem hlt) (List.getElem?_eq_getElem hlt')
  exact ⟨hok, e, he, hnames.cameraIndex⟩

/-- The index is a 32-bit number, so that camera 4294967296 bears the index of the first one. -/
theorem camera_index_wraps : ¬ ∀ (fc : HubFileConfig) (boost : BoostOutcome),
    ((fresh (AList.singleton "daheng" {}) {} : Service ReadyCamera EchoPort)
      |>.unifiedStartupFromConfig fc boost).2 = none →
    ∀ (es : List (ServerEvent ReadyCamera EchoPort Bool)) (i : ℕ) (e : CameraRawShmSlot),
      (run Server.step (Server.booted (AList.singleton "daheng" {}) {} (.started fc boost) fun _ => 0)
        es).hub.sessionSlotLayout[i]? = some e → e.cameraIndex.toNat = i := by
  intro hall
  have hn : 2 ^ 32 + 1 < 2 ^ 64 := by decide
  have hne : 2 ^ 32 + 1 ≠ 0 := Nat.succ_ne_zero _
  obtain ⟨hok, e, he, hwrap⟩ := benchCameras_layout hn hne (Nat.lt_succ_self (2 ^ 32))
  have hindex := hall _ _ hok [] _ e he
  rw [hwrap] at hindex
  exact absurd hindex (by decide)

end Bench
end Camera3D.Hub
