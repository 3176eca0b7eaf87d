import Camera3D.Hub.Publications
import Camera3D.Ipc.RingBuffer
import Camera3D.Serial.Projector

/-! The state of the hub service, and the messages it exchanges with its clients. -/
namespace Camera3D.Hub
open Camera Serial Ipc

namespace HubServiceStateCode
def kReady : Int32 := 0
def kStarting : Int32 := 1001
def kConfigInvalid : Int32 := 1002
def kCameraInitFailed : Int32 := 1003
def kSerialInitFailed : Int32 := 1004
def kShmInitFailed : Int32 := 1005
def kOrchestratorInitFailed : Int32 := 1006
def kConfigFileNotFound : Int32 := 1007
def kRuntimeSerialNotConnected : Int32 := 1010
def kSessionNotEstablished : Int32 := 1011
end HubServiceStateCode

open HubServiceStateCode

/-- A reply's status; the hub's runtime state is one as well. -/
structure Status where
  code : Int32 := 0
  message : String := ""
  deriving DecidableEq

structure HubFileCameraNode where
  ip : String := ""
  serialNumber : String := ""
  backendId : String := "daheng"
  deriving DecidableEq

/-- What start-up reads of a configuration file that has been loaded: it lists a camera, and its
length fits a `std::size_t`. -/
structure HubFileConfig where
  projectorComIndex : UInt32 := 0
  framesPerHardwareTrigger : UInt32 := 24
  cameras : List HubFileCameraNode
  cameras_ne : cameras ≠ []
  cameras_lt : cameras.length < 2 ^ 64

structure HubPresetCamera where
  managerDeviceId : String
  ip : String
  serialNumber : String
  deriving DecidableEq

abbrev Bursts := AList fun _ : String => List FrameBuffer

structure ConnectReply where
  status : Status
  sessionId : String := ""
  deriving DecidableEq

structure CaptureRequest where
  sessionId : String
  async : Bool := false
  clientCaptureId : UInt64 := 0
  withDetectionPipeline : Bool := false
  withReconstructionPipeline : Bool := false
  projectorOp : UInt32 := 0
  testReconShmLoopback : Bool := false
  testInlineImageReply : Bool := false
  deriving DecidableEq

structure CaptureReply where
  status : Status
  jobId : UInt64 := 0
  clientCaptureId : UInt64 := 0
  deriving DecidableEq

structure DepthRequest where
  sessionId : String
  jobId : UInt64 := 0
  clientCaptureId : UInt64 := 0
  deriving DecidableEq

structure ShmFrameRef where
  regionName : String := ""
  seq : UInt64 := 0
  offsetBytes : UInt64 := 0
  sizeBytes : UInt64 := 0
  width : UInt32 := 0
  height : UInt32 := 0
  pixelFormat : UInt32 := 0
  timestampUnixNs : Int64 := 0
  deriving DecidableEq

structure CameraRawFrameRef where
  frame : ShmFrameRef
  cameraIndex : UInt32
  serialNumber : String
  ip : String
  managerDeviceId : String
  channels : UInt32
  rowStepBytes : UInt32
  burstFrameIndex : UInt32
  deriving DecidableEq

structure DepthReply where
  status : Status
  frame : ShmFrameRef := {}
  rawFrame : ShmFrameRef := {}
  intermediateFrame : ShmFrameRef := {}
  finalFrame : ShmFrameRef := {}
  clientCaptureId : UInt64 := 0
  cameraRawFrames : List CameraRawFrameRef := []
  deriving DecidableEq

/-- The members of `CameraHubServiceImpl` that the default build uses, and the static counter of
`Capture`; the devices are in `Service`. -/
structure State where
  sessionId : String := ""
  sessionDevicesOrdered : List String := []
  sessionSlotLayout : List CameraRawShmSlot := []
  pendingCameraBursts : Bursts := ∅
  framesPerHardwareTrigger : UInt32 := 24
  shm : ShmRingBuffer := {}
  presetCameras : List HubPresetCamera := []
  startupSerialComMain : UInt32 := 0
  unifiedConfigMode : Bool := false
  hubRuntime : Status := ⟨kStarting, "hub starting"⟩
  awaitingFrame : Bool := false
  awaitingClientCaptureId : UInt64 := 0
  awaitingWithRec : Bool := false
  awaitingTestLoopback : Bool := false
  lastCaptureShmError : String := ""
  store : PublicationStore := {}
  kAutoCapture : UInt64 := 1

/-- The service with the cameras and the serial port it drives. -/
structure Service (α π : Type*) extends State where
  cameras : CameraManager α
  serial : SerialPortManager π
  orchestrator : Option String := none
  multiOrchestrator : Option (List String) := none

def Service.withState {α π : Type*} (h : Service α π) (s : State) : Service α π :=
  { h with toState := s }

end Camera3D.Hub
