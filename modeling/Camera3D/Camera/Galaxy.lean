import Mathlib.Data.List.Infix
import Camera3D.Camera.Manager

/-! The adapter of the Galaxy cameras, over an SDK whose calls may throw. What the device and its
stream are doing is read off the calls that took effect. -/
namespace Camera3D.Camera

inductive CameraError where
  | kOk
  | kNotOpen
  | kTimeout
  | kInvalidParameter
  | kBackendError
  deriving DecidableEq

inductive SdkCall where
  | updateDeviceList
  | openDeviceByIP (ip : String)
  | openDeviceBySN (sn : String)
  | getStreamCount
  | closeDevice
  | openStream
  | closeStream
  | getRemoteFeatureControl
  | setEnumFeature (name value : String)
  | execute (command : String)
  | startGrab
  | stopGrab
  | registerCaptureCallback
  | unregisterCaptureCallback
  | dqBuf (timeoutMs : Int32)
  | getStatus
  | readImage
  | qBuf

structure GalaxyImage where
  success : Bool
  frame : FrameBuffer

/-- What a call is answered: an exception with its text, or the values that some calls return. -/
structure Answer where
  throws : Option String := none
  streamCount : ℤ := 1
  image : Option GalaxyImage := none

structure GalaxySdk where
  /-- The answers, by the number of the call. -/
  answers : ℕ → Answer := fun _ => {}
  asked : ℕ := 0
  /-- History: the calls that took effect, newest first. -/
  calls : List SdkCall := []

namespace GalaxySdk

/-- A call that throws takes no effect. -/
def call (s : GalaxySdk) (c : SdkCall) : GalaxySdk × Except String Answer :=
  match (s.answers s.asked).throws with
  | some what => ({ s with asked := s.asked + 1 }, .error what)
  | none => ({ s with asked := s.asked + 1, calls := c :: s.calls }, .ok (s.answers s.asked))

/-- Calls one after the other, up to the first that throws. -/
def attempt (s : GalaxySdk) : List SdkCall → GalaxySdk × Option String
  | [] => (s, none)
  | c :: cs =>
    match s.call c with
    | (s, .error what) => (s, some what)
    | (s, .ok _) => s.attempt cs

end GalaxySdk

/-- Four numbers up to 255, of at most three digits each. -/
def looksLikeIpv4 (s : String) : Bool :=
  let parts := s.toList.splitOn '.'
  parts.length = 4 && parts.all fun p =>
    1 ≤ p.length && p.length ≤ 3 && p.all Char.isDigit &&
      p.foldl (fun n c => 10 * n + (c.toNat - 48)) 0 ≤ 255

/-- The handles are represented by whether they are set, a callback by the device it belongs to. -/
structure DaHengGalaxyAdapter where
  device : Bool := false
  stream : Bool := false
  remote : Bool := false
  deviceId : String := ""
  open_ : Bool := false
  triggerMode : TriggerMode := .kSoftware
  lastCode : CameraError := .kOk
  lastMsg : String := ""
  userFrameCb : Option String := none
  userResultCb : Option String := none
  captureRegistered : Bool := false
  grabRunning : Bool := false
  sdk : GalaxySdk := {}

namespace DaHengGalaxyAdapter

/-- A `try` block that makes these calls, with the text of the exception that ends it. -/
def tries (a : DaHengGalaxyAdapter) (cs : List SdkCall) : DaHengGalaxyAdapter × Option String :=
  ({ a with sdk := (a.sdk.attempt cs).1 }, (a.sdk.attempt cs).2)

def setErr (a : DaHengGalaxyAdapter) (c : CameraError) (msg : String) : DaHengGalaxyAdapter :=
  { a with lastCode := c, lastMsg := msg }

def requireOpen (a : DaHengGalaxyAdapter) : DaHengGalaxyAdapter × Bool :=
  if !a.open_ || !a.stream || !a.remote then (a.setErr .kNotOpen "camera not open", false)
  else (a, true)

def applyTriggerMode : TriggerMode → List SdkCall
  | .kSoftware =>
    [.setEnumFeature "TriggerMode" "On", .setEnumFeature "TriggerSource" "Software"]
  | .kHardware =>
    [.setEnumFeature "TriggerMode" "On", .setEnumFeature "TriggerSource" "Line0",
      .setEnumFeature "TriggerActivation" "RisingEdge"]

def stopStreamGrabIfRunning (a : DaHengGalaxyAdapter) : DaHengGalaxyAdapter :=
  if !a.grabRunning then a
  else
    let a := if a.remote then (a.tries [.execute "AcquisitionStop"]).1 else a
    let a := if a.stream then (a.tries [.stopGrab]).1 else a
    { a with grabRunning := false }

def stopAsyncGrab (a : DaHengGalaxyAdapter) : DaHengGalaxyAdapter :=
  let a := if a.stream then (a.tries [.unregisterCaptureCallback]).1 else a
  stopStreamGrabIfRunning
    { a with captureRegistered := false, userFrameCb := none, userResultCb := none }

/-- The `try` block of `Close`; resetting the trigger mode has one of its own. -/
def closeHandles (a : DaHengGalaxyAdapter) : DaHengGalaxyAdapter :=
  match a.tries (if a.remote then [.execute "AcquisitionStop"] else []) with
  | (a, some _) => a
  | (a, none) =>
    let a := if a.remote then (a.tries [.setEnumFeature "TriggerMode" "Off"]).1 else a
    (a.tries ((if a.stream then [.stopGrab, .closeStream] else []) ++
      if a.device then [.closeDevice] else [])).1

def dropHandles (a : DaHengGalaxyAdapter) : DaHengGalaxyAdapter :=
  { a with stream := false, device := false, remote := false, deviceId := "", open_ := false }

def close (a : DaHengGalaxyAdapter) : DaHengGalaxyAdapter :=
  let a := a.stopAsyncGrab
  if !a.open_ then a else a.closeHandles.dropHandles

def cleanupAfterFailure (a : DaHengGalaxyAdapter) : DaHengGalaxyAdapter :=
  let a := { a with grabRunning := false }
  let a := if a.stream then (a.tries [.stopGrab, .closeStream]).1 else a
  let a := if a.device then (a.tries [.closeDevice]).1 else a
  a.dropHandles

/-- The `try` block of `Open` once the device is there. -/
def openStreams (a : DaHengGalaxyAdapter) (deviceId : String) :
    DaHengGalaxyAdapter × Except String Bool :=
  match a.tries [.openStream] with
  | (a, some what) => (a, .error what)
  | (a, none) =>
    match { a with stream := true }.tries [.getRemoteFeatureControl] with
    | (a, some what) => (a, .error what)
    | (a, none) =>
      match { a with remote := true, deviceId }.tries (applyTriggerMode a.triggerMode) with
      | (a, some what) => (a, .error what)
      | (a, none) => ({ a with grabRunning := false, open_ := true }.setErr .kOk "", .ok true)

def openHandles (a : DaHengGalaxyAdapter) (deviceId : String) :
    DaHengGalaxyAdapter × Except String Bool :=
  match a.tries [.updateDeviceList,
      if looksLikeIpv4 deviceId then .openDeviceByIP deviceId else .openDeviceBySN deviceId] with
  | (a, some what) => (a, .error what)
  | (a, none) =>
    match a.sdk.call .getStreamCount with
    | (sdk, .error what) => ({ a with device := true, sdk }, .error what)
    | (sdk, .ok answer) =>
      let a := { a with device := true, sdk }
      if answer.streamCount ≤ 0 then
        match (a.setErr .kBackendError "no stream on device").tries [.closeDevice] with
        | (a, some what) => (a, .error what)
        | (a, none) => ({ a with device := false }, .ok false)
      else a.openStreams deviceId

def openDevice (a : DaHengGalaxyAdapter) (deviceId : String) : DaHengGalaxyAdapter × Bool :=
  match a.close.openHandles deviceId with
  | (a, .ok opened) => (a, opened)
  | (a, .error what) => (a.cleanupAfterFailure.setErr .kBackendError what, false)

def setTriggerMode (a : DaHengGalaxyAdapter) (mode : TriggerMode) : DaHengGalaxyAdapter × Bool :=
  let a := { a with triggerMode := mode }
  if !a.open_ || !a.remote then (a, true)
  else match a.tries (applyTriggerMode mode) with
    | (a, none) => (a, true)
    | (a, some what) => (a.setErr .kBackendError what, false)

def startStreamGrab (a : DaHengGalaxyAdapter) : DaHengGalaxyAdapter × Bool :=
  match a.requireOpen with
  | (a, false) => (a, false)
  | (a, true) =>
    if a.grabRunning then (a, true)
    else match a.tries [.startGrab, .execute "AcquisitionStart"] with
      | (a, none) => ({ a with grabRunning := true }.setErr .kOk "", true)
      | (a, some what) => ({ a with grabRunning := false }.setErr .kBackendError what, false)

/-- What both setters do once the callback is stored. -/
def registerAsWanted (a : DaHengGalaxyAdapter) : DaHengGalaxyAdapter :=
  let want := a.userResultCb.isSome || a.userFrameCb.isSome
  if !a.open_ || !a.stream then a
  else if want && !a.captureRegistered then
    match a.stopStreamGrabIfRunning.tries [.registerCaptureCallback] with
    | (a, none) => { a with captureRegistered := true }
    | (a, some what) => a.setErr .kBackendError what
  else if !want && a.captureRegistered then
    match a.tries [.unregisterCaptureCallback] with
    | (a, none) => { a with captureRegistered := false }.stopStreamGrabIfRunning
    | (a, some what) => a.setErr .kBackendError what
  else a

def setCaptureResultCallback (a : DaHengGalaxyAdapter) (cb : Option String) : DaHengGalaxyAdapter :=
  { a with userResultCb := cb }.registerAsWanted

def setFrameCallback (a : DaHengGalaxyAdapter) (cb : Option String) : DaHengGalaxyAdapter :=
  { a with userFrameCb := cb }.registerAsWanted

def startAsyncGrab (a : DaHengGalaxyAdapter) : DaHengGalaxyAdapter × Bool :=
  match a.requireOpen with
  | (a, false) => (a, false)
  | (a, true) =>
    if a.userFrameCb = none ∧ a.userResultCb = none then
      (a.setErr .kInvalidParameter "frame and result callbacks are both empty", false)
    else
      let a := a.stopStreamGrabIfRunning
      let a := if a.stream then (a.tries [.unregisterCaptureCallback]).1 else a
      match a.tries [.registerCaptureCallback] with
      | (a, some what) => ({ a.setErr .kBackendError what with captureRegistered := false }, false)
      | (a, none) =>
        match { a with captureRegistered := true }.startStreamGrab with
        | (a, true) => (a.setErr .kOk "", true)
        | (a, false) =>
          let a := if a.stream then (a.tries [.unregisterCaptureCallback]).1 else a
          ({ a with captureRegistered := false }, false)

/-- The text of the exception tells a timeout from other failures. -/
def grabFailed (a : DaHengGalaxyAdapter) (what : String) : DaHengGalaxyAdapter :=
  if "timeout".toList <:+: what.toList ∨ "Timeout".toList <:+: what.toList ∨
      "TIMEOUT".toList <:+: what.toList then a.setErr .kTimeout what
  else a.setErr .kBackendError what

def dequeue (a : DaHengGalaxyAdapter) (timeoutMs : Int32) :
    DaHengGalaxyAdapter × Option FrameBuffer :=
  match a.sdk.call (.dqBuf timeoutMs) with
  | (sdk, .error what) => ({ a with sdk }.grabFailed what, none)
  | (sdk, .ok answer) =>
    let a := { a with sdk }
    match answer.image with
    | none => (a.setErr .kTimeout "DQBuf returned null", none)
    | some img =>
      match a.tries (if img.success then [.getStatus, .readImage, .qBuf] else [.getStatus, .qBuf]) with
      | (a, some what) => ((a.tries [.qBuf]).1.grabFailed what, none)
      | (a, none) =>
        if img.success then (a.setErr .kOk "", some img.frame)
        else (a.setErr .kBackendError "frame status not success", none)

def grabOne (a : DaHengGalaxyAdapter) (timeoutMs : Int32) :
    DaHengGalaxyAdapter × Option FrameBuffer :=
  match a.requireOpen with
  | (a, false) => (a, none)
  | (a, true) =>
    if a.captureRegistered then
      (a.setErr .kInvalidParameter "async grab active; call StopAsyncGrab first", none)
    else if a.grabRunning then a.dequeue timeoutMs
    else match a.startStreamGrab with
      | (a, false) => (a, none)
      | (a, true) => a.dequeue timeoutMs

instance : ICameraAdapter DaHengGalaxyAdapter where
  cloneForSession a := { sdk := { answers := a.sdk.answers } }
  openDevice := openDevice
  close := close
  stopAsyncGrab := stopAsyncGrab
  setTriggerMode := setTriggerMode
  setCaptureResultCallback := setCaptureResultCallback
  startStreamGrab := startStreamGrab
  getLastErrorMessage := lastMsg

/-- The methods of the adapter that a program may call, in any order. -/
inductive Method where
  | openDevice (deviceId : String)
  | close
  | setCaptureResultCallback (cb : Option String)
  | setFrameCallback (cb : Option String)
  | startAsyncGrab
  | stopAsyncGrab
  | startStreamGrab
  | grabOne (timeoutMs : Int32)
  | setTriggerMode (mode : TriggerMode)

def step (a : DaHengGalaxyAdapter) : Method → DaHengGalaxyAdapter
  | .openDevice deviceId => (a.openDevice deviceId).1
  | .close => a.close
  | .setCaptureResultCallback cb => a.setCaptureResultCallback cb
  | .setFrameCallback cb => a.setFrameCallback cb
  | .startAsyncGrab => a.startAsyncGrab.1
  | .stopAsyncGrab => a.stopAsyncGrab
  | .startStreamGrab => a.startStreamGrab.1
  | .grabOne timeoutMs => (a.grabOne timeoutMs).1
  | .setTriggerMode mode => (a.setTriggerMode mode).1

/-- A new adapter, over an SDK with these answers. -/
def fresh (answers : ℕ → Answer) : DaHengGalaxyAdapter := { sdk := { answers } }

end DaHengGalaxyAdapter

/-- What the current stream is doing. -/
structure StreamState where
  registered : Bool := false
  grabbing : Bool := false
  deriving DecidableEq

def StreamState.after (s : StreamState) : SdkCall → StreamState
  | .openStream => {}
  | .closeStream => {}
  | .registerCaptureCallback => { s with registered := true }
  | .unregisterCaptureCallback => { s with registered := false }
  | .startGrab => { s with grabbing := true }
  | .stopGrab => { s with grabbing := false }
  | _ => s

def streamOf : List SdkCall → StreamState
  | [] => {}
  | c :: before => (streamOf before).after c

/-- What was last written to a feature of the current device. -/
def featureOf (name : String) : List SdkCall → Option String
  | [] => none
  | .setEnumFeature n value :: before => if n = name then some value else featureOf name before
  | .openDeviceByIP _ :: _ => none
  | .openDeviceBySN _ :: _ => none
  | _ :: before => featureOf name before

end Camera3D.Camera
