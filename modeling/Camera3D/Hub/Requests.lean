import Camera3D.Camera.Adapters
import Camera3D.Camera.Controls
import Camera3D.Hub.Depth
import Camera3D.Hub.Session

/-! The calls that read and set camera parameters, and those that the hub does not offer. -/
namespace Camera3D.Hub
open Camera Serial HubServiceStateCode

/-- A field of this type can hold values that are no enumerators. -/
abbrev HubParameterType := Int32

def HUB_PARAMETER_TYPE_EXPOSURE_2D : HubParameterType := 1
def HUB_PARAMETER_TYPE_GAIN_2D : HubParameterType := 2
def HUB_PARAMETER_TYPE_GAMMA_2D : HubParameterType := 3

structure HubParameterPair where
  type : HubParameterType
  value : Double := 0
  deriving DecidableEq

inductive Request where
  | setExposure (sessionId : String) (microseconds : Double)
  | getExposure (sessionId : String)
  | setGain (sessionId : String) (gainDb : Double)
  | getGain (sessionId : String)
  | setParameters (sessionId : String) (parameters : List HubParameterPair)
  | getParameters (sessionId : String) (parameterTypes : List HubParameterType)
  | getPointCloud
  | getDetectionResult
  | testSaveReconEcho
  deriving DecidableEq

/-- The session that a call names, if it names one. -/
def Request.sessionId : Request → Option String
  | .setExposure sessionId _ => some sessionId
  | .getExposure sessionId => some sessionId
  | .setGain sessionId _ => some sessionId
  | .getGain sessionId => some sessionId
  | .setParameters sessionId _ => some sessionId
  | .getParameters sessionId _ => some sessionId
  | .getPointCloud => none
  | .getDetectionResult => none
  | .testSaveReconEcho => none

structure ExposureReply where
  status : Status
  microseconds : Double := 0
  deriving DecidableEq

structure GainReply where
  status : Status
  gainDb : Double := 0
  deriving DecidableEq

structure GetParametersReply where
  status : Status
  parameters : List HubParameterPair := []
  deriving DecidableEq

inductive Answer where
  | exposure (r : ExposureReply)
  | gain (r : GainReply)
  | setParameters (status : Status)
  | getParameters (r : GetParametersReply)
  | pointCloud (status : Status)
  | detectionResult (status : Status)
  | testSaveReconEcho (status : Status)
  deriving DecidableEq

def Answer.status : Answer → Status
  | .exposure r => r.status
  | .gain r => r.status
  | .setParameters status => status
  | .getParameters r => r.status
  | .pointCloud status => status
  | .detectionResult status => status
  | .testSaveReconEcho status => status

namespace Service
variable {α π : Type*} [ICameraControls α]

/-- Sets a parameter on the cameras one after the other, up to the first that refuses it. -/
def setCameras (set : CameraManager α → String → CameraManager α × Bool) :
    List String → CameraManager α → CameraManager α × Bool
  | [], cameras => (cameras, true)
  | id :: ids, cameras =>
    match set cameras id with
    | (cameras, false) => (cameras, false)
    | (cameras, true) => setCameras set ids cameras

/-- The checks before a call reaches the cameras of the session `sessionId`. -/
def admission (h : Service α π) (sessionId : String) : Option Status :=
  match h.fillUnifiedGateLocked with
  | some status => some status
  | none => if h.sessionId = "" ∨ sessionId ≠ h.sessionId then some ⟨3, ""⟩ else none

/-- `SetExposure` and `SetGain`: no value comes back when the call fails. -/
def setControl (h : Service α π) (sessionId : String)
    (set : CameraManager α → String → CameraManager α × Bool) (failed : Status) :
    Service α π × Option Status :=
  match h.admission sessionId with
  | some status => (h, some status)
  | none =>
    match setCameras set h.sessionDevicesOrdered h.cameras with
    | (cameras, false) => ({ h with cameras }, some failed)
    | (cameras, true) => ({ h with cameras }, none)

/-- `GetExposure` and `GetGain`, from the first camera of the session. -/
def getControl (h : Service α π) (sessionId : String)
    (get : CameraManager α → String → Option Double) : Except Status Double :=
  match h.admission sessionId with
  | some status => .error status
  | none =>
    match h.sessionDevicesOrdered with
    | [] => .error ⟨3, ""⟩
    | id :: _ =>
      match get h.cameras id with
      | none => .error ⟨3, ""⟩
      | some v => .ok v

def exposureReply (v : Double) : Option Status → ExposureReply
  | some status => { status }
  | none => ⟨⟨0, ""⟩, v⟩

def gainReply (v : Double) : Option Status → GainReply
  | some status => { status }
  | none => ⟨⟨0, ""⟩, v⟩

def setExposure (h : Service α π) (sessionId : String) (v : Double) : Service α π × ExposureReply :=
  let (h, failed) := h.setControl sessionId (CameraManager.setExposureUs v) ⟨6, ""⟩
  (h, exposureReply v failed)

def getExposure (h : Service α π) (sessionId : String) : ExposureReply :=
  match h.getControl sessionId CameraManager.getExposureUs with
  | .error status => { status }
  | .ok v => ⟨⟨0, ""⟩, v⟩

def setGain (h : Service α π) (sessionId : String) (v : Double) : Service α π × GainReply :=
  let (h, failed) := h.setControl sessionId (CameraManager.setGainDb v) ⟨7, ""⟩
  (h, gainReply v failed)

def getGain (h : Service α π) (sessionId : String) : GainReply :=
  match h.getControl sessionId CameraManager.getGainDb with
  | .error status => { status }
  | .ok v => ⟨⟨0, ""⟩, v⟩

/-- How a pair of `SetParameters` is set, and the status if a camera refuses it. -/
def parameterSetter (p : HubParameterPair) :
    Option ((CameraManager α → String → CameraManager α × Bool) × Status) :=
  if p.type = HUB_PARAMETER_TYPE_EXPOSURE_2D then
    some (CameraManager.setExposureUs p.value, ⟨6, "SetExposureUs failed"⟩)
  else if p.type = HUB_PARAMETER_TYPE_GAIN_2D then
    some (CameraManager.setGainDb p.value, ⟨7, "SetGainDb failed"⟩)
  else if p.type = HUB_PARAMETER_TYPE_GAMMA_2D then
    some (CameraManager.setGamma p.value, ⟨20, "SetGamma failed"⟩)
  else none

/-- The loop of `SetParameters`; pairs that were set before one fails stay set. -/
def setPairs (ids : List String) :
    List HubParameterPair → CameraManager α → CameraManager α × Status
  | [], cameras => (cameras, ⟨0, ""⟩)
  | p :: ps, cameras =>
    match parameterSetter p with
    | none => (cameras, ⟨4, "unsupported HubParameterType"⟩)
    | some (set, failed) =>
      match setCameras set ids cameras with
      | (cameras, false) => (cameras, failed)
      | (cameras, true) => setPairs ids ps cameras

def setParameters (h : Service α π) (sessionId : String) (parameters : List HubParameterPair) :
    Service α π × Status :=
  match h.admission sessionId with
  | some status => (h, status)
  | none =>
    let (cameras, status) := setPairs h.sessionDevicesOrdered parameters h.cameras
    ({ h with cameras }, status)

/-- How a parameter of `GetParameters` is read, and the code if it cannot be. -/
def parameterGetter (t : HubParameterType) :
    Option ((CameraManager α → String → Option Double) × Int32) :=
  if t = HUB_PARAMETER_TYPE_EXPOSURE_2D then some (CameraManager.getExposureUs, 6)
  else if t = HUB_PARAMETER_TYPE_GAIN_2D then some (CameraManager.getGainDb, 7)
  else if t = HUB_PARAMETER_TYPE_GAMMA_2D then some (CameraManager.getGamma, 21)
  else none

/-- The loop of `GetParameters`; an error clears what was read before. -/
def getPairs (cameras : CameraManager α) (front : String) :
    List HubParameterType → List HubParameterPair → GetParametersReply
  | [], out => ⟨⟨0, ""⟩, out⟩
  | t :: ts, out =>
    match parameterGetter t with
    | none => { status := ⟨4, "unsupported parameter type in GetParameters"⟩ }
    | some (get, code) =>
      match get cameras front with
      | none => { status := ⟨code, "GetParameter failed"⟩ }
      | some v => getPairs cameras front ts (out ++ [⟨t, v⟩])

def getParameters (h : Service α π) (sessionId : String) (parameterTypes : List HubParameterType) :
    GetParametersReply :=
  match h.admission sessionId with
  | some status => { status }
  | none =>
    match h.sessionDevicesOrdered with
    | [] => { status := ⟨3, ""⟩ }
    | front :: _ => getPairs h.cameras front parameterTypes []

/-- A call that the hub does not offer. -/
def notOffered (h : Service α π) (status : Status) : Status := h.fillUnifiedGateLocked.getD status

def getPointCloud (h : Service α π) : Status :=
  h.notOffered ⟨100, "point cloud pipeline not implemented"⟩

def getDetectionResult (h : Service α π) : Status :=
  h.notOffered ⟨101, "Hub 不提供检测结果；检测将与重建合并到重建服务侧（当前无独立检测服务）"⟩

def testSaveReconEcho (h : Service α π) : Status :=
  h.notOffered ⟨501, "CAMERA3D_ENABLE_RECON_SHM_LOOPBACK_TEST is off at build time"⟩

/-- The locked body of a call. -/
def answer (h : Service α π) : Request → Service α π × Answer
  | .setExposure sessionId v => ((h.setExposure sessionId v).1, .exposure (h.setExposure sessionId v).2)
  | .getExposure sessionId => (h, .exposure (h.getExposure sessionId))
  | .setGain sessionId v => ((h.setGain sessionId v).1, .gain (h.setGain sessionId v).2)
  | .getGain sessionId => (h, .gain (h.getGain sessionId))
  | .setParameters sessionId ps =>
    ((h.setParameters sessionId ps).1, .setParameters (h.setParameters sessionId ps).2)
  | .getParameters sessionId ts => (h, .getParameters (h.getParameters sessionId ts))
  | .getPointCloud => (h, .pointCloud h.getPointCloud)
  | .getDetectionResult => (h, .detectionResult h.getDetectionResult)
  | .testSaveReconEcho => (h, .testSaveReconEcho h.testSaveReconEcho)

omit [ICameraControls α] in
theorem admission_of_gate {h : Service α π} {status : Status}
    (hgate : h.fillUnifiedGateLocked = some status) (sessionId : String) :
    h.admission sessionId = some status := by
  unfold admission
  rw [hgate]

omit [ICameraControls α] in
theorem admission_of_unrecognised {h : Service α π} {sessionId : String}
    (hun : h.sessionId = "" ∨ sessionId ≠ h.sessionId) : h.admission sessionId = some h.refusal := by
  unfold admission State.refusal
  cases h.fillUnifiedGateLocked with
  | some status => rfl
  | none => exact if_pos hun

omit [ICameraControls α] in
theorem setControl_of_admission {h : Service α π} {sessionId : String} {status : Status}
    (hadm : h.admission sessionId = some status)
    (set : CameraManager α → String → CameraManager α × Bool) (failed : Status) :
    h.setControl sessionId set failed = (h, some status) := by
  unfold setControl
  rw [hadm]

/-- A call that is not admitted replies why, and changes nothing. -/
theorem answer_of_admission {h : Service α π} {sessionId : String} {status : Status}
    (hadm : h.admission sessionId = some status) {rq : Request} (hrq : rq.sessionId = some sessionId) :
    (h.answer rq).1 = h ∧ (h.answer rq).2.status = status := by
  cases rq with
  | setExposure sessionId' v =>
    obtain rfl := Option.some.inj hrq
    dsimp only [answer, setExposure]
    rw [setControl_of_admission hadm]
    exact ⟨rfl, rfl⟩
  | getExposure sessionId' =>
    obtain rfl := Option.some.inj hrq
    dsimp only [answer, getExposure, getControl]
    rw [hadm]
    exact ⟨rfl, rfl⟩
  | setGain sessionId' v =>
    obtain rfl := Option.some.inj hrq
    dsimp only [answer, setGain]
    rw [setControl_of_admission hadm]
    exact ⟨rfl, rfl⟩
  | getGain sessionId' =>
    obtain rfl := Option.some.inj hrq
    dsimp only [answer, getGain, getControl]
    rw [hadm]
    exact ⟨rfl, rfl⟩
  | setParameters sessionId' ps =>
    obtain rfl := Option.some.inj hrq
    dsimp only [answer, setParameters]
    rw [hadm]
    exact ⟨rfl, rfl⟩
  | getParameters sessionId' ts =>
    obtain rfl := Option.some.inj hrq
    dsimp only [answer, getParameters]
    rw [hadm]
    exact ⟨rfl, rfl⟩
  | getPointCloud | getDetectionResult | testSaveReconEcho => cases hrq

/-- A call that the gate refuses replies the status of the hub and changes nothing. -/
theorem answer_of_gate {h : Service α π} {status : Status}
    (hgate : h.fillUnifiedGateLocked = some status) (rq : Request) :
    (h.answer rq).1 = h ∧ (h.answer rq).2.status = status := by
  cases hrq : rq.sessionId with
  | some sessionId => exact answer_of_admission (admission_of_gate hgate sessionId) hrq
  | none =>
    have hoffer : ∀ s, h.notOffered s = status := by
      intro s
      unfold notOffered
      rw [hgate, Option.getD_some]
    cases rq with
    | setExposure | getExposure | setGain | getGain | setParameters | getParameters => cases hrq
    | getPointCloud => exact ⟨rfl, hoffer _⟩
    | getDetectionResult => exact ⟨rfl, hoffer _⟩
    | testSaveReconEcho => exact ⟨rfl, hoffer _⟩

section Devices
open CameraManager

omit [ICameraControls α] in
theorem deviceOf_setCameras {set : CameraManager α → String → CameraManager α × Bool}
    (hset : ∀ cameras id, (set cameras id).1.deviceOf = cameras.deviceOf) (ids : List String)
    (cameras : CameraManager α) : (setCameras set ids cameras).1.deviceOf = cameras.deviceOf := by
  induction ids generalizing cameras with
  | nil => rfl
  | cons id ids ih =>
    have hid := hset cameras id
    rw [setCameras]
    rcases he : set cameras id with ⟨cameras', _ | _⟩
    all_goals rw [he] at hid
    · exact hid
    · exact (ih cameras').trans hid

theorem deviceOf_parameterSetter {p : HubParameterPair}
    {set : CameraManager α → String → CameraManager α × Bool} {failed : Status}
    (h : parameterSetter p = some (set, failed)) (cameras : CameraManager α) (id : String) :
    (set cameras id).1.deviceOf = cameras.deviceOf := by
  unfold parameterSetter at h
  split_ifs at h
  · cases h
    exact deviceOf_withAdapter
  · cases h
    exact deviceOf_withAdapter
  · cases h
    exact deviceOf_withAdapter

theorem deviceOf_setPairs (ids : List String) (ps : List HubParameterPair) (cameras : CameraManager α) :
    (setPairs ids ps cameras).1.deviceOf = cameras.deviceOf := by
  induction ps generalizing cameras with
  | nil => rfl
  | cons p ps ih =>
    rw [setPairs]
    cases hp : (parameterSetter p :
        Option ((CameraManager α → String → CameraManager α × Bool) × Status)) with
    | none => rfl
    | some setter =>
      obtain ⟨set, failed⟩ := setter
      have hset := deviceOf_setCameras (deviceOf_parameterSetter hp) ids cameras
      dsimp only
      rcases he : setCameras set ids cameras with ⟨cameras', _ | _⟩
      all_goals rw [he] at hset
      · exact hset
      · exact (ih cameras').trans hset

end Devices

omit [ICameraControls α] in
theorem setControl_frame (h : Service α π) (sessionId : String)
    {set : CameraManager α → String → CameraManager α × Bool}
    (hset : ∀ cameras id, (set cameras id).1.deviceOf = cameras.deviceOf) (failed : Status) :
    ∃ cameras, cameras.deviceOf = h.cameras.deviceOf ∧
      (h.setControl sessionId set failed).1 = { h with cameras } := by
  unfold setControl
  cases h.admission sessionId with
  | some status => exact ⟨h.cameras, rfl, rfl⟩
  | none =>
    have hdevices := deviceOf_setCameras hset h.sessionDevicesOrdered h.cameras
    dsimp only
    rcases he : setCameras set h.sessionDevicesOrdered h.cameras with ⟨cameras, _ | _⟩
    all_goals rw [he] at hdevices
    · exact ⟨cameras, hdevices, rfl⟩
    · exact ⟨cameras, hdevices, rfl⟩

/-- These calls only touch the adapters of the cameras. -/
theorem answer_frame (h : Service α π) (rq : Request) :
    ∃ cameras, cameras.deviceOf = h.cameras.deviceOf ∧ (h.answer rq).1 = { h with cameras } := by
  cases rq with
  | setExposure sessionId v =>
    exact h.setControl_frame _ (fun _ _ => CameraManager.deviceOf_withAdapter) _
  | setGain sessionId v =>
    exact h.setControl_frame _ (fun _ _ => CameraManager.deviceOf_withAdapter) _
  | setParameters sessionId ps =>
    dsimp only [answer, setParameters]
    cases h.admission sessionId with
    | some status => exact ⟨h.cameras, rfl, rfl⟩
    | none => exact ⟨_, deviceOf_setPairs h.sessionDevicesOrdered ps h.cameras, rfl⟩
  | getExposure | getGain | getParameters => exact ⟨h.cameras, rfl, rfl⟩
  | getPointCloud | getDetectionResult | testSaveReconEcho => exact ⟨h.cameras, rfl, rfl⟩

end Service
end Camera3D.Hub
