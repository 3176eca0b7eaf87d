import Camera3D.Hub.State

/-! Start-up, sessions and the recovery of the serial port. -/
namespace Camera3D.Hub
open Camera Serial Ipc HubServiceStateCode

/-- The points at which `TryRecoverSerialQuick` can be interrupted: each takes one lock. -/
inductive Recovery where
  | readCom
  | isOpen (com : UInt32)
  | openPort (com : UInt32)
  | lastError
  | setCode (message : String)
  | recovered
  deriving DecidableEq

namespace Service
variable {α π : Type*} [ICameraAdapter α] [ISerialPort π]

def resetOrchestrators (h : Service α π) : Service α π :=
  { h with orchestrator := none, multiOrchestrator := none }

/-- The loop of `PrepareHardwareTriggerLocked`; the first failing camera ends it. -/
def armCameras : List String → CameraManager α → CameraManager α × Option String
  | [], cameras => (cameras, none)
  | mid :: mids, cameras =>
    let cameras := cameras.clearResultCallback mid
    let (cameras, triggered) := cameras.setTriggerMode mid .kHardware
    if !triggered then
      (cameras, some ("SetTriggerMode hardware failed: " ++ cameras.getLastErrorMessage mid))
    else
      let cameras := cameras.setResultCallback mid mid
      let (cameras, started) := cameras.startStreamGrab mid
      if !started then
        (cameras, some ("StartStreamGrab failed: " ++ cameras.getLastErrorMessage mid))
      else armCameras mids cameras

/-- The error of a failing call, as in the locked functions below. -/
def prepareHardwareTriggerLocked (h : Service α π) : Service α π × Option String :=
  let h := h.resetOrchestrators
  if h.sessionDevicesOrdered = [] then (h, some "no session cameras")
  else match armCameras h.sessionDevicesOrdered h.cameras with
    | (cameras, some err) => ({ h with cameras }, some err)
    | (cameras, none) => match h.sessionDevicesOrdered with
      | [mid] => ({ h with cameras, orchestrator := some mid }, none)
      | mids => ({ h with cameras, multiOrchestrator := some mids }, none)

/-- `SendProductionCommandOnly` of either orchestrator. -/
def sendProductionCommandOnly (h : Service α π) (cmd : Command) : Service α π × Option String :=
  if !ISerialPort.isOpen h.serial.port then (h, some "serial not open")
  else
    let (port, pr) := sendProductionCommand h.serial.port cmd 3000
    let h := { h with serial := { h.serial with port } }
    if pr.ok then (h, none) else (h, some pr.message)

def sendProductionCommandOnlyLocked (h : Service α π) (cmd : Command) : Service α π × Option String :=
  match h.multiOrchestrator, h.orchestrator with
  | some _, _ => h.sendProductionCommandOnly cmd
  | none, some _ => h.sendProductionCommandOnly cmd
  | none, none => (h, some "no orchestrator")

def sendSetCommandOnlyLocked (h : Service α π) (cmd : Command) : Service α π × Option String :=
  if !h.serial.isOpen then (h, some "serial not open")
  else
    let (port, pr) := sendSetCommand h.serial.port cmd 3000
    let h := { h with serial := { h.serial with port } }
    if pr.ok then (h, none)
    else (h, some (if pr.message = "" then "SendSetCommand failed" else pr.message))

def afterSdkConnectSerialLocked (h : Service α π) : Service α π :=
  (h.sendSetCommandOnlyLocked kExitBlackToTest).1

def beforeSdkDisconnectSerialLocked (h : Service α π) : Service α π :=
  (h.sendSetCommandOnlyLocked kBlackScreen).1

def clearCallbacks (h : Service α π) : Service α π :=
  { h with cameras := h.sessionDevicesOrdered.foldl (fun m mid => m.clearResultCallback mid) h.cameras }

def teardownSessionLocked (h : Service α π) : Service α π :=
  let h := h.beforeSdkDisconnectSerialLocked
  let h := h.clearCallbacks
  let h := h.resetOrchestrators
  { h with
    sessionId := ""
    sessionDevicesOrdered := []
    sessionSlotLayout := []
    pendingCameraBursts := ∅
    store := {}
    awaitingFrame := false
    awaitingClientCaptureId := 0
    awaitingTestLoopback := false
    hubRuntime :=
      ⟨kSessionNotEstablished, "session released; call Connect to resume capture pipeline"⟩ }

def rollbackUnifiedStartupLocked (h : Service α π) : Service α π :=
  let h := h.clearCallbacks
  let h := h.resetOrchestrators
  { h with
    sessionId := ""
    sessionDevicesOrdered := []
    sessionSlotLayout := []
    pendingCameraBursts := ∅
    shm := {}
    serial := h.serial.close
    cameras := h.cameras.closeAllDevices
    presetCameras := []
    startupSerialComMain := 0
    unifiedConfigMode := false
    store := {}
    awaitingFrame := false
    awaitingClientCaptureId := 0
    awaitingTestLoopback := false }

def reportStartupFailure (h : Service α π) (code : Int32) (message : String) : Service α π :=
  { h.rollbackUnifiedStartupLocked with hubRuntime := ⟨code, message⟩ }

/-- The slot metadata of the preset cameras; `n` slots come before them. -/
def slotLayout : ℕ → List HubPresetCamera → List CameraRawShmSlot
  | _, [] => []
  | n, pc :: pcs =>
    { managerDeviceId := pc.managerDeviceId, ip := pc.ip, serialNumber := pc.serialNumber,
      cameraIndex := .ofNat n } :: slotLayout (n + 1) pcs

/-- The session of the preset cameras, before its id is set. -/
def layOutSession (h : Service α π) : Service α π :=
  { h with
    sessionDevicesOrdered := h.presetCameras.map HubPresetCamera.managerDeviceId
    sessionSlotLayout := slotLayout 0 h.presetCameras }

def setRuntime (h : Service α π) (code : Int32) (message : String) : Service α π :=
  { h with hubRuntime := ⟨code, message⟩ }

/-- Opens the configured cameras in order; the first that does not open ends start-up. -/
def openCameras : List HubFileCameraNode → Service α π → Service α π × Option String
  | [], h => (h, none)
  | node :: nodes, h =>
    let dev : DeviceInfo :=
      { backendId := node.backendId, serialNumber := node.serialNumber, ip := node.ip }
    let (cameras, mid) := h.cameras.createAndOpenDevice dev ""
    let h := { h with cameras }
    if mid = "" then
      let err := formatDeviceAddress dev
      ((h.setRuntime kCameraInitFailed ("open camera failed: " ++ err)).rollbackUnifiedStartupLocked,
        some err)
    else
      openCameras nodes { h with
        presetCameras := h.presetCameras ++ [⟨mid, node.ip, node.serialNumber⟩] }

def clampFramesPer (n : UInt32) : UInt32 := max 1 (min 4096 n)

/-- The steps of start-up that follow the opening of the cameras. -/
def startSession (h : Service α π) (fc : HubFileConfig) (boost : BoostOutcome) : Service α π × Option String :=
  if fc.projectorComIndex = 0 then
    let err := "projector.com_index must be > 0 in hub_service.json"
    ((h.setRuntime kSerialInitFailed err).rollbackUnifiedStartupLocked, some err)
  else
    let (serial, opened) := h.serial.openPort fc.projectorComIndex 115200
    let h := { h with serial }
    if !opened then
      let err := h.serial.getLastErrorMessage
      ((h.setRuntime kSerialInitFailed ("serial open failed: " ++ err)).rollbackUnifiedStartupLocked,
        some err)
    else
      let (shm, created) := h.shm.createOrOpen boost kDefaultHubRingRegionName true
      let h := { h with shm }
      if !created then
        let err := "shm create failed"
        ((h.setRuntime kShmInitFailed err).rollbackUnifiedStartupLocked, some err)
      else
        let h := h.layOutSession
        let h := { h with sessionId := h.sessionDevicesOrdered.headD "" }
        match h.prepareHardwareTriggerLocked with
        | (h, some err) =>
          ((h.setRuntime kOrchestratorInitFailed err).rollbackUnifiedStartupLocked, some err)
        | (h, none) =>
          ({ h.setRuntime kReady "" with
              framesPerHardwareTrigger := clampFramesPer fc.framesPerHardwareTrigger }, none)

def unifiedStartupFromConfig (h : Service α π) (fc : HubFileConfig) (boost : BoostOutcome) :
    Service α π × Option String :=
  let h := { h with
    unifiedConfigMode := true
    startupSerialComMain := fc.projectorComIndex
    hubRuntime := ⟨kStarting, "unified startup"⟩
    presetCameras := [] }
  match openCameras fc.cameras h with
  | (h, some err) => (h, some err)
  | (h, none) => h.startSession fc boost

def restoreActiveSessionLocked (h : Service α π) : Service α π × Option String :=
  let h := h.layOutSession
  if h.sessionDevicesOrdered = [] then (h, some "no preset cameras")
  else { h with sessionId := h.sessionDevicesOrdered.headD "" }.prepareHardwareTriggerLocked

/-- Both branches of `Connect` that set up the session again. -/
def resumeSession (h : Service α π) : Service α π × ConnectReply :=
  match h.restoreActiveSessionLocked with
  | (h, some terr) => (h, ⟨⟨kOrchestratorInitFailed, terr⟩, ""⟩)
  | (h, none) =>
    let h := h.setRuntime kReady ""
    (h.afterSdkConnectSerialLocked, ⟨⟨0, ""⟩, h.sessionId⟩)

/-- `Connect` once the serial port has been looked after. -/
def connect (h : Service α π) : Service α π × ConnectReply :=
  if h.hubRuntime.code = kRuntimeSerialNotConnected then (h, ⟨h.hubRuntime, ""⟩)
  else if h.hubRuntime.code = kSessionNotEstablished then h.resumeSession
  else if h.hubRuntime.code ≠ kReady then (h, ⟨h.hubRuntime, ""⟩)
  else if h.sessionId = "" then h.resumeSession
  else (h.afterSdkConnectSerialLocked, ⟨⟨0, ""⟩, h.sessionId⟩)

def disconnect (h : Service α π) (sessionId : String) : Service α π × Status :=
  if h.sessionId ≠ "" ∧ sessionId = h.sessionId then (h.teardownSessionLocked, {})
  else (h, {})

def tryRecoverSerialQuick (h : Service α π) : Recovery → Service α π × Option Recovery
  | .readCom =>
    (h, if h.startupSerialComMain = 0 then none else some (.isOpen h.startupSerialComMain))
  | .isOpen com => (h, if h.serial.isOpen then none else some (.openPort com))
  | .openPort com =>
    let (serial, opened) := h.serial.openPort com 115200
    ({ h with serial }, some (if opened then .recovered else .lastError))
  | .lastError => (h, some (.setCode h.serial.getLastErrorMessage))
  | .setCode message => (h.setRuntime kRuntimeSerialNotConnected message, none)
  | .recovered =>
    if !h.unifiedConfigMode then (h, none)
    else if h.sessionId = "" then
      (h.setRuntime kSessionNotEstablished "serial ok; call Connect to resume capture pipeline", none)
    else (h.setRuntime kReady "", none)

end Service
end Camera3D.Hub
