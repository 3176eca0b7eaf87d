import Camera3D.Hub.State

/-! `GetDepth`: the frame references of a publication, with metadata read back from the ring. -/
namespace Camera3D.Hub
open Ipc HubServiceStateCode

/-- Channels and bytes of a row, for 8-bit layouts with 1, 3 or 4 channels. -/
def inferOpenCvChannelsAndStep (cam : CameraRawShmSlot) : UInt32 × UInt32 :=
  if cam.w = 0 ∨ cam.h = 0 then (0, 0)
  else
    let area := cam.w.toUInt64 * cam.h.toUInt64
    if area = 0 ∨ cam.payloadSize % area ≠ 0 then (0, 0)
    else
      let bpp := (cam.payloadSize / area).toUInt32
      if bpp = 0 ∨ 16 < bpp then (0, 0)
      else if bpp = 1 ∨ bpp = 3 ∨ bpp = 4 then (bpp, cam.w * bpp)
      else (0, 0)

namespace State

def fillUnifiedGateLocked (h : State) : Option Status :=
  if h.hubRuntime.code ≠ kReady then some h.hubRuntime
  else if h.sessionId = "" then
    some ⟨kSessionNotEstablished, "call Connect to establish session with hub"⟩
  else none

/-- The fields shared by `FillShmRef` and `FillShmRefFromRawSlot`. -/
def frameRef (h : State) (slot : UInt32) (seq : UInt64) : ShmFrameRef :=
  match h.shm.tryReadSlot slot with
  | none => {}
  | some v =>
    { regionName := h.shm.name
      seq := seq
      offsetBytes := v.outMeta.payloadOffset
      sizeBytes := v.outMeta.payloadSize
      width := v.outMeta.width
      height := v.outMeta.height
      pixelFormat := v.outMeta.pixelFormat
      timestampUnixNs := v.outMeta.timestampUnixNs }

def fillShmRef (h : State) (pub : CapturePublication) (inter fin : Bool) : ShmFrameRef :=
  if inter then h.frameRef pub.interSlot pub.interSeq
  else if fin then h.frameRef pub.finSlot pub.finSeq
  else h.frameRef pub.rawSlot pub.rawSeq

def fillShmRefFromRawSlot (h : State) (cam : CameraRawShmSlot) : ShmFrameRef :=
  h.frameRef cam.rawSlot cam.rawSeq

def cameraRawFrame (h : State) (cam : CameraRawShmSlot) : CameraRawFrameRef :=
  let (ch, step) := inferOpenCvChannelsAndStep cam
  { frame := h.fillShmRefFromRawSlot cam
    cameraIndex := cam.cameraIndex
    serialNumber := cam.serialNumber
    ip := cam.ip
    managerDeviceId := cam.managerDeviceId
    channels := ch
    rowStepBytes := step
    burstFrameIndex := cam.burstFrameIndex }

def depthKey (h : State) (request : DepthRequest) : UInt64 :=
  if request.clientCaptureId ≠ 0 then request.clientCaptureId
  else if request.jobId ≠ 0 then request.jobId
  else h.store.latestClientCaptureId

def depthReply (h : State) (pub : CapturePublication) : DepthReply :=
  let raw := h.fillShmRef pub false false
  let inter := if pub.hasInter then h.fillShmRef pub true false else {}
  let fin := if pub.hasFinal then h.fillShmRef pub false true else {}
  { status := ⟨0, ""⟩
    clientCaptureId := pub.clientCaptureId
    rawFrame := raw
    intermediateFrame := inter
    finalFrame := fin
    frame := if pub.hasFinal then fin else if pub.hasInter then inter else raw
    cameraRawFrames := pub.cameraRawSlots.map h.cameraRawFrame }

def getDepth (h : State) (request : DepthRequest) : DepthReply :=
  match h.fillUnifiedGateLocked with
  | some status => { status }
  | none =>
    if h.sessionId = "" ∨ request.sessionId ≠ h.sessionId then { status := ⟨3, ""⟩ }
    else
      let key := h.depthKey request
      match h.store.publications.lookup key with
      | none => { status := ⟨8, "no capture result for id"⟩ }
      | some pub => if key = 0 then { status := ⟨8, "no capture result for id"⟩ } else h.depthReply pub

/-- What a call gets whose session the hub does not know. -/
def refusal (h : State) : Status := h.fillUnifiedGateLocked.getD ⟨3, ""⟩

theorem refusal_code (h : State) : h.refusal.code ≠ 0 := by
  unfold refusal fillUnifiedGateLocked
  split_ifs with hready hnone
  · exact hready
  · decide
  · decide

theorem getDepth_of_unrecognised {h : State} {request : DepthRequest}
    (hun : h.sessionId = "" ∨ request.sessionId ≠ h.sessionId) :
    h.getDepth request = { status := h.refusal } := by
  unfold getDepth refusal
  cases h.fillUnifiedGateLocked with
  | some status => rfl
  | none => exact if_pos hun

end State
end Camera3D.Hub
