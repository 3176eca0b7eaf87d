import Camera3D.Config.Faithful
import Camera3D.Hub.Labels
import Camera3D.Hub.LiveRefs
import Camera3D.Hub.Rollback

/-! `RunHubApp` up to the point where calls are served: from the configuration file to the cameras
whose frames the hub hands out. -/
namespace Camera3D.Hub
open Camera Serial Ipc Text Config Transition HubServiceStateCode

/-- A text of the file, one character for each byte. -/
def textOf (bs : Bytes) : String := String.ofList (bs.map fun b => Char.ofNat b.toNat)

/-- What is read from a file is a `std::string`. -/
structure FileText where
  doc : Bytes
  size : doc.length < 2 ^ 64

theorem length_scanCameras_le (doc : Bytes) : (scanCameras doc).length ≤ doc.length := by
  fun_induction scanCameras doc with
  | case1 | case2 | case3 => exact Nat.zero_le _
  | case4 doc pos hpos ob hob inner rest hrest node hserial ih =>
    have hle := length_of_find hpos
    have hle' := length_of_find hob
    have hlt := length_of_matchClosingBrace hrest
    rw [List.length_cons]
    omega
  | case5 doc pos hpos ob hob inner rest hrest node hserial ih =>
    have hle := length_of_find hpos
    have hle' := length_of_find hob
    have hlt := length_of_matchClosingBrace hrest
    omega

theorem cameras_of_loaded {m : DataModel} {path doc : Bytes} {fc : Config.HubFileConfig}
    (h : loadHubFileConfig m path (some doc) = (fc, none)) :
    fc.cameras = scanCameras doc ∧ fc.cameras ≠ [] := by
  unfold loadHubFileConfig at h
  dsimp only at h
  split_ifs at h with hempty hnone
  · cases (Prod.mk.inj h).2
  · cases (Prod.mk.inj h).2
  · obtain ⟨rfl, -⟩ := Prod.mk.inj h
    exact ⟨rfl, hnone⟩

def HubFileCameraNode.ofFile (node : Config.HubFileCameraNode) : HubFileCameraNode where
  ip := textOf node.ip
  serialNumber := textOf node.serialNumber
  backendId := textOf node.backendId

/-- What start-up reads of the configuration that was loaded. -/
def HubFileConfig.ofFile (fc : Config.HubFileConfig) (hne : fc.cameras ≠ [])
    (hlt : fc.cameras.length < 2 ^ 64) : HubFileConfig where
  projectorComIndex := fc.projectorComIndex
  framesPerHardwareTrigger := fc.framesPerHardwareTrigger
  cameras := fc.cameras.map .ofFile
  cameras_ne := by simpa using hne
  cameras_lt := by simpa using hlt

/-- What `exists` says of the path, and what opening the file brings. -/
inductive ConfigFile where
  | missing (why : Option String)
  | unreadable
  | found (file : FileText)

def ConfigFile.boot (m : DataModel) (path : Bytes) (boost : BoostOutcome) : ConfigFile → Boot
  | .missing why =>
    .configFileNotFound ("hub config file not found or inaccessible: " ++ textOf path ++
      why.elim "" fun why => " (" ++ why ++ ")")
  | .unreadable =>
    .configInvalid ("hub config parse failed: " ++
      ((loadHubFileConfig m path none).2.map textOf).getD "")
  | .found file =>
    match hload : loadHubFileConfig m path (some file.doc) with
    | (_, some err) => .configInvalid ("hub config parse failed: " ++ textOf err)
    | (fc, none) =>
      have hcameras := cameras_of_loaded hload
      have hlt : fc.cameras.length < 2 ^ 64 := by
        rw [hcameras.1]
        exact Nat.lt_of_le_of_lt (length_scanCameras_le _) file.size
      .started (.ofFile fc hcameras.2 hlt) boost

/-- What start-up reads of a document, however it is spaced. -/
theorem loaded_of_document (m : DataModel) (path : Bytes) (d : Document) {doc : Bytes}
    (h : Spells d.tokens doc) :
    ∃ fc, loadHubFileConfig m path (some doc) = (fc, none) ∧
      fc.projectorComIndex = .ofNat (Document.number (d.field "projector" "com_index") 0) ∧
      fc.framesPerHardwareTrigger =
        .ofNat (Document.number (d.field "capture" "frames_per_hardware_trigger") 24) ∧
      fc.cameras = d.cameras.map Document.node := by
  have hne : doc ≠ [] := by
    cases h
    simp [Token.bytes]
  have hcom : extractStringField (extractObjectForKey doc (ascii "projector"))
      (ascii "com_index") = d.field "projector" "com_index" :=
    extractStringField_section d (by decide) (by decide) h
  have hframes : extractStringField (extractObjectForKey doc (ascii "capture"))
      (ascii "frames_per_hardware_trigger") = d.field "capture" "frames_per_hardware_trigger" :=
    extractStringField_section d (by decide) (by decide) h
  have hscan : scanCameras doc = d.cameras.map Document.node :=
    scanCameras_eq (camerasIn_tokens d) (plain_tokens d) h
  have hcameras : d.cameras.map Document.node ≠ [] := by
    intro hnil
    exact d.has_camera (List.map_eq_nil_iff.mp hnil)
  unfold loadHubFileConfig
  simp only [hne, if_false]
  rw [loadHub_eq, loadProjector_eq (hcom ▸ d.com_index) rfl, loadDiscovery_eq rfl,
    loadCapture_eq (hframes ▸ d.frames) rfl, hcom, hframes, hscan]
  simp only [hcameras, if_false]
  exact ⟨_, rfl, rfl, rfl, rfl⟩

theorem ConfigFile.boot_of_document (m : DataModel) (path : Bytes) (boost : BoostOutcome)
    (d : Document) {file : FileText} (h : Spells d.tokens file.doc) :
    ∃ fc, (ConfigFile.found file).boot m path boost = .started fc boost ∧
      fc.projectorComIndex = .ofNat (Document.number (d.field "projector" "com_index") 0) ∧
      fc.framesPerHardwareTrigger =
        .ofNat (Document.number (d.field "capture" "frames_per_hardware_trigger") 24) ∧
      fc.cameras = d.cameras.map fun members => .ofFile (Document.node members) := by
  obtain ⟨loaded, hload, hcom, hframes, hcameras⟩ := loaded_of_document m path d h
  unfold ConfigFile.boot
  dsimp only
  split
  · next hfail =>
    rw [hload] at hfail
    cases hfail
  · next loaded' hload' =>
    rw [hload] at hload'
    obtain rfl := (Prod.mk.inj hload').1
    refine ⟨_, rfl, hcom, hframes, ?_⟩
    show loaded.cameras.map _ = _
    rw [hcameras, List.map_map]
    rfl

section Boot
variable {α π : Type*} [ICameraAdapter α] [ISerialPort π]

theorem presetCameras_rollbackUnifiedStartupLocked (h : Service α π) :
    h.rollbackUnifiedStartupLocked.presetCameras = [] := rfl

/-- A start-up that fails leaves no preset cameras; one that succeeds leaves those of the file. -/
theorem presetCameras_boot (prototypes : AList fun _ : String => α) (port : π) (b : Boot) :
    ((fresh prototypes port : Service α π).boot b).presetCameras = [] ∨
      ∃ fc boost, b = .started fc boost ∧
        List.Forall₂ (HubPresetCamera.Opens ((fresh prototypes port : Service α π).boot b).cameras)
          ((fresh prototypes port : Service α π).boot b).presetCameras fc.cameras := by
  cases b with
  | configFileNotFound | configInvalid => exact .inl rfl
  | started fc boost =>
    cases hend : ((fresh prototypes port : Service α π).unifiedStartupFromConfig fc boost).2 with
    | none => exact .inr ⟨fc, boost, rfl, Service.unifiedStartupFromConfig_opens prototypes port hend⟩
    | some err =>
      obtain ⟨h, _, code, message, hback⟩ := Service.unifiedStartupFromConfig_fails hend
      left
      show ((fresh prototypes port : Service α π).unifiedStartupFromConfig fc boost).1.presetCameras = []
      rw [hback]
      exact presetCameras_rollbackUnifiedStartupLocked _

theorem mem_getDepth {s : State} {request : DepthRequest} {ref : CameraRawFrameRef}
    (h : ref ∈ (s.getDepth request).cameraRawFrames) :
    ∃ cid pub e, s.store.publications.lookup cid = some pub ∧ e ∈ pub.cameraRawSlots ∧
      ref = s.cameraRawFrame e := by
  unfold State.getDepth at h
  split at h
  · cases h
  · split_ifs at h
    · cases h
    · dsimp only at h
      split at h
      · cases h
      · next pub hpub =>
        split_ifs at h
        · cases h
        · obtain ⟨e, he, heq⟩ := List.mem_map.mp h
          exact ⟨_, pub, e, hpub, he, heq.symm⟩

end Boot

namespace Server
variable {α π θ : Type*} [ICameraAdapter α] [ICameraControls α] [ISerialPort π] [DecidableEq θ]

/-- Every frame that is handed out is labelled with a camera of the configuration that was started. -/
theorem refs_of_run (prototypes : AList fun _ : String => α) (port : π) (b : Boot)
    (cursor : θ → UInt32) (es : List (ServerEvent α π θ)) {request : DepthRequest}
    {ref : CameraRawFrameRef}
    (href : ref ∈ ((run step (booted prototypes port b cursor) es).hub.getDepth request).cameraRawFrames) :
    ∃ fc boost i node, b = .started fc boost ∧ fc.cameras[i]? = some node ∧
      ref.cameraIndex = .ofNat i ∧ ref.ip = node.ip ∧ ref.serialNumber = node.serialNumber := by
  have hunused := Service.boot_unused prototypes port b
  have hsound : (booted prototypes port b cursor : Server α π θ).hub.Sound := hunused.sound
  have hstore : (booted prototypes port b cursor : Server α π θ).hub.store = {} := hunused.store
  have hcat : (booted prototypes port b cursor : Server α π θ).hub.Catalogued := by
    intro cid pub hpub
    rw [hstore] at hpub
    cases hpub
  obtain ⟨cid, pub, e, hpub, he, rfl⟩ := mem_getDepth href
  obtain ⟨i, pc, hpc, _, hip, hserial, hindex⟩ :=
    run_catalogued hsound hcat es cid pub hpub e he
  rw [(run_configured (booted prototypes port b cursor) es).presets] at hpc
  rcases presetCameras_boot prototypes port b with hnone | ⟨fc, boost, rfl, hopens⟩
  · rw [show (booted prototypes port b cursor : Server α π θ).hub.presetCameras = [] from hnone] at hpc
    cases hpc
  · obtain ⟨node, hnode, hopen⟩ := getElem?_of_forall₂ hopens.flip hpc
    exact ⟨fc, boost, i, node, rfl, hnode, hindex, hip.trans hopen.ip,
      hserial.trans hopen.serialNumber⟩

/-- A camera index that a client is told is the place of a camera in the configuration file, whose
address and serial number are those told with it. -/
theorem camera_of_file (prototypes : AList fun _ : String => α) (port : π) (m : DataModel)
    (path : Bytes) (boost : BoostOutcome) (d : Document) {file : FileText}
    (hspells : Spells d.tokens file.doc) (cursor : θ → UInt32) (es : List (ServerEvent α π θ))
    {request : DepthRequest} {ref : CameraRawFrameRef}
    (href : ref ∈ ((run step (booted prototypes port ((ConfigFile.found file).boot m path boost)
      cursor) es).hub.getDepth request).cameraRawFrames) :
    ∃ i members, d.cameras[i]? = some members ∧ ref.cameraIndex = .ofNat i ∧
      ref.ip = textOf (members.field "ip") ∧
      ref.serialNumber = textOf (members.field "serial_number") := by
  obtain ⟨fc, hboot, _, _, hcameras⟩ := ConfigFile.boot_of_document m path boost d hspells
  obtain ⟨fc', _, i, node, hboot', hnode, hindex, hip, hserial⟩ :=
    refs_of_run prototypes port _ cursor es href
  rw [hboot] at hboot'
  cases hboot'
  rw [hcameras, List.getElem?_map] at hnode
  obtain ⟨members, hmembers, rfl⟩ := Option.map_eq_some_iff.mp hnode
  exact ⟨i, members, hmembers, hindex, hip, hserial⟩

/-- Two cameras, of which the second is written with its serial number first. -/
def stereoDocument : Document where
  entries :=
    [.cameras
        [[(ascii "ip", ascii "10.0.0.11"), (ascii "serial_number", ascii "L")],
          [(ascii "serial_number", ascii "R"), (ascii "ip", ascii "10.0.0.12")]],
      .group (ascii "projector") [(ascii "com_index", ascii "1")],
      .group (ascii "capture") [(ascii "frames_per_hardware_trigger", ascii "1")]]
  shaped := by decide
  has_camera := by decide
  com_index := by decide
  udp_port := by decide
  interval_ms := by decide
  frames := by decide

def stereoFile : FileText where
  doc := spaced (ascii " ") stereoDocument.tokens
  size := by decide +kernel

def stereoConfig : HubFileConfig where
  projectorComIndex := 1
  framesPerHardwareTrigger := 1
  cameras := [{ ip := "10.0.0.11", serialNumber := "L" }, { ip := "10.0.0.12", serialNumber := "R" }]
  cameras_ne := by decide
  cameras_lt := by decide

theorem spells_stereoFile : Spells stereoDocument.tokens stereoFile.doc :=
  spells_spaced (by unfold Blank; decide) _

theorem boot_stereoFile (path : Bytes) (boost : BoostOutcome) :
    (ConfigFile.found stereoFile).boot ⟨32, le_rfl⟩ path boost = .started stereoConfig boost := by
  obtain ⟨fc, hboot, hcom, hframes, hcameras⟩ :=
    ConfigFile.boot_of_document ⟨32, le_rfl⟩ path boost stereoDocument spells_stereoFile
  have hcom' : fc.projectorComIndex = 1 := hcom.trans (by decide)
  have hframes' : fc.framesPerHardwareTrigger = 1 := hframes.trans (by decide)
  have hcameras' : fc.cameras = stereoConfig.cameras := hcameras.trans (by decide +kernel)
  cases fc
  subst hcom' hframes' hcameras'
  exact hboot

theorem camera_of_file_stereo : ∃ sv : Server ReadyCamera EchoPort Bool, ∃ ref i members,
    ref ∈ (sv.hub.getDepth { sessionId := "cam-1", clientCaptureId := 1 }).cameraRawFrames ∧
      stereoDocument.cameras[i]? = some members ∧ ref.cameraIndex = .ofNat i ∧
      ref.ip = textOf (members.field "ip") := by
  obtain ⟨sv, hsv⟩ : ∃ sv, sv = run step (booted (AList.singleton "daheng" ({} : ReadyCamera))
      ({} : EchoPort) ((ConfigFile.found stereoFile).boot ⟨32, le_rfl⟩ [] (.mapped zeroed))
      fun _ : Bool => 0) ((World.twoCameraCapture 1 true).map .world) := ⟨_, rfl⟩
  have href : (sv.hub.getDepth { sessionId := "cam-1", clientCaptureId := 1 }).cameraRawFrames ≠ [] := by
    rw [hsv, boot_stereoFile]
    decide +kernel
  obtain ⟨ref, hmem⟩ := List.exists_mem_of_ne_nil _ href
  have hrun := hmem
  rw [hsv] at hrun
  obtain ⟨i, members, hmembers, hindex, hip, _⟩ :=
    camera_of_file _ _ _ _ _ stereoDocument spells_stereoFile _ _ hrun
  exact ⟨sv, ref, i, members, hmem, hmembers, hindex, hip⟩

end Server

end Camera3D.Hub
