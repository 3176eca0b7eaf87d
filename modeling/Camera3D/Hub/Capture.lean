import Camera3D.Hub.Session

/-! The `Capture` call: admission, the projector command, and the synchronous wait. -/
namespace Camera3D.Hub
open Camera Serial HubServiceStateCode

/-- A synchronous `Capture` between two of its checks. -/
structure Waiter where
  cid : UInt64
  deadline : ℕ
  testInlineImage : Bool
  deriving DecidableEq

inductive CaptureNext where
  | reply (r : CaptureReply)
  | wait (w : Waiter)
  deriving DecidableEq

/-- The end of `Capture`; the inline test image is not compiled in. -/
def captureSucceeded (cid : UInt64) (testInlineImage : Bool) : CaptureReply :=
  if testInlineImage then
    ⟨⟨15, "CAMERA3D_ENABLE_CAPTURE_INLINE_IMAGE_TEST is off at build time"⟩, 0, 0⟩
  else ⟨⟨0, ""⟩, cid, cid⟩

/-- Once the command is sent, an asynchronous call returns and a synchronous one waits 15 s. -/
def afterSend (cid : UInt64) (request : CaptureRequest) (now : ℕ) : CaptureNext :=
  if request.async then .reply (captureSucceeded cid request.testInlineImageReply)
  else .wait ⟨cid, now + 15000, request.testInlineImageReply⟩

def productionCommand (projectorOp : UInt32) : Command :=
  if projectorOp = 0 then kWhiteScreenToEnd else projectorOp.toUInt8

namespace State

/-- The id of a capture, and the counter of generated ids after it was chosen. -/
def chooseId (h : State) (request : CaptureRequest) : UInt64 × UInt64 :=
  if request.clientCaptureId = 0 then (h.kAutoCapture, h.kAutoCapture + 1)
  else (request.clientCaptureId, h.kAutoCapture)

def startAwaiting (h : State) (cid : UInt64) (request : CaptureRequest) : State :=
  { h with
    pendingCameraBursts := ∅
    lastCaptureShmError := ""
    awaitingFrame := true
    awaitingClientCaptureId := cid
    awaitingWithRec := request.withReconstructionPipeline
    awaitingTestLoopback := request.testReconShmLoopback }

/-- What a failed send and a timeout undo. -/
def stopAwaiting (h : State) : State :=
  { h with
    awaitingFrame := false
    awaitingClientCaptureId := 0
    awaitingTestLoopback := false
    pendingCameraBursts := ∅ }

/-- The check of a synchronous `Capture` each time it wakes up; no reply while it goes on waiting. -/
def captureWakeUp (h : State) (w : Waiter) (now : ℕ) : State × Option CaptureReply :=
  if h.awaitingFrame ∧ now < w.deadline then (h, none)
  else if h.awaitingFrame then
    (h.stopAwaiting, some ⟨⟨14, "capture timeout waiting for hardware frame"⟩, 0, 0⟩)
  else if w.cid ∉ h.store.publications then
    let detail := if h.lastCaptureShmError = "" then
      "frames received but no SHM publication (internal inconsistency)" else h.lastCaptureShmError
    ({ h with lastCaptureShmError := "" }, some ⟨⟨17, detail⟩, 0, 0⟩)
  else (h, some (captureSucceeded w.cid w.testInlineImage))

end State

namespace Service
variable {α π : Type*} [ISerialPort π]

/-- `Capture` after it has been admitted: arm the capture and send the projector command. -/
def sendCapture (h : Service α π) (cid : UInt64) (request : CaptureRequest) (now : ℕ) :
    Service α π × CaptureNext :=
  let h := h.withState (h.startAwaiting cid request)
  match h.sendProductionCommandOnlyLocked (productionCommand request.projectorOp) with
  | (h, some serr) =>
    (h.withState h.stopAwaiting,
      .reply ⟨⟨13, if serr = "" then "serial send failed" else serr⟩, 0, 0⟩)
  | (h, none) => (h, afterSend cid request now)

def capture (h : Service α π) (request : CaptureRequest) (now : ℕ) : Service α π × CaptureNext :=
  if h.unifiedConfigMode ∧ h.hubRuntime.code ≠ kReady then (h, .reply ⟨h.hubRuntime, 0, 0⟩)
  else if h.sessionId = "" ∨ request.sessionId ≠ h.sessionId then
    (h, .reply ⟨⟨3, "invalid session"⟩, 0, 0⟩)
  else
    let cid := (h.chooseId request).1
    let h := h.withState { h.toState with kAutoCapture := (h.chooseId request).2 }
    if h.awaitingFrame then
      (h, .reply ⟨⟨10, "capture in progress, wait for camera callback"⟩, 0, 0⟩)
    else if request.testInlineImageReply ∧ request.testReconShmLoopback then
      (h, .reply ⟨⟨15, "CAMERA3D_ENABLE_CAPTURE_INLINE_IMAGE_TEST is off at build time"⟩, 0, 0⟩)
    else if !h.serial.isOpen then
      (h, .reply ⟨⟨11, "capture requires projector serial (COM) open on connect"⟩, 0, 0⟩)
    else h.sendCapture cid request now

end Service
end Camera3D.Hub
