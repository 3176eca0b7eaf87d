import Camera3D.Grpc.Status
import Camera3D.Hub.State

/-! The client object of the SDK: a connection to a hub, and what it remembers of the last capture.
Every method holds the lock from start to end, so calls happen one after the other. -/
namespace Camera3D.Sdk
open Grpc Hub

structure ConnectRequest where
  deviceIp : String
  sessionHint : String
  projectorComIndex : UInt32
  deriving DecidableEq

structure CaptureReply extends Hub.CaptureReply where
  inlineImageName : String := ""
  inlineImagePayload : List UInt8 := []
  deriving DecidableEq

inductive HubRequest where
  | connect (request : ConnectRequest)
  | disconnect (sessionId : String)
  | capture (request : CaptureRequest)
  | getDepth (request : DepthRequest)
  deriving DecidableEq

structure BestCameraRawFrameItem extends ShmFrameRef where
  cameraIndex : UInt32 := 0
  serialNumber : String := ""
  ip : String := ""
  managerDeviceId : String := ""
  burstFrameIndex : UInt32 := 0
  channels : UInt32 := 0
  rowStepBytes : UInt32 := 0
  deriving DecidableEq

def rawFrameItem (cr : CameraRawFrameRef) : BestCameraRawFrameItem :=
  { cr.frame with
    cameraIndex := cr.cameraIndex
    serialNumber := cr.serialNumber
    ip := cr.ip
    managerDeviceId := cr.managerDeviceId
    burstFrameIndex := cr.burstFrameIndex
    channels := cr.channels
    rowStepBytes := cr.rowStepBytes }

/-- The arguments of a capture; an id of 0 asks for a generated one. -/
structure CaptureArgs where
  clientCaptureId : UInt64 := 0
  withDetectionPipeline : Bool := false
  withReconstructionPipeline : Bool := false
  projectorOp : UInt32 := 0
  testReconShmLoopback : Bool := false
  testInlineImageReply : Bool := false
  deriving DecidableEq

structure DeveloperCameraSdkGrpc where
  channel : Bool := false
  stub : Bool := false
  peer : String := ""
  session : String := ""
  lastClientCaptureId : UInt64 := 0
  lastInlineImageName : String := ""
  lastInlineImagePayload : List UInt8 := []
  lastBusiness : Int32 := 0
  lastGrpc : Int32 := 0
  lastMsg : String := ""
  deriving DecidableEq

/-- What a method leaves, what it has sent to the hub, and what it returns. -/
structure Outcome (ρ : Type) where
  sdk : DeveloperCameraSdkGrpc
  sent : List HubRequest
  result : ρ

namespace DeveloperCameraSdkGrpc

def setGrpcFailure (c : DeveloperCameraSdkGrpc) (st : GrpcStatus) : DeveloperCameraSdkGrpc :=
  { c with lastGrpc := st.errorCode, lastBusiness := 0, lastMsg := st.errorMessage }

def setBusinessFailure (c : DeveloperCameraSdkGrpc) (st : Status) : DeveloperCameraSdkGrpc :=
  { c with lastBusiness := st.code, lastGrpc := 0, lastMsg := st.message }

def clearError (c : DeveloperCameraSdkGrpc) : DeveloperCameraSdkGrpc :=
  { c with lastBusiness := 0, lastGrpc := 0, lastMsg := "" }

def isConnected (c : DeveloperCameraSdkGrpc) : Bool := c.stub && c.session != ""

/-- The reply to the `Disconnect` it sends is not looked at. -/
def disconnectUnlocked (c : DeveloperCameraSdkGrpc) : Outcome Unit where
  sdk := { c with
    session := ""
    stub := false
    channel := false
    peer := ""
    lastInlineImageName := ""
    lastInlineImagePayload := [] }
  sent := if c.isConnected then [.disconnect c.session] else []
  result := ()

def connect (c : DeveloperCameraSdkGrpc) (hubAddress : String) (request : ConnectRequest)
    (reply : Rpc ConnectReply) : Outcome Bool :=
  let ⟨c, sent, _⟩ := c.disconnectUnlocked
  let c := { c with peer := hubAddress, channel := true, stub := true }
  let sent := sent ++ [.connect request]
  match reply with
  | .error st => ⟨{ c.setGrpcFailure st with stub := false, channel := false }, sent, false⟩
  | .ok rep =>
    if rep.status.code ≠ 0 then
      ⟨{ c.setBusinessFailure rep.status with stub := false, channel := false }, sent, false⟩
    else ⟨{ c with session := rep.sessionId }.clearError, sent, true⟩

def disconnect (c : DeveloperCameraSdkGrpc) : Outcome Unit := c.disconnectUnlocked

/-- The id that a capture's reply names. -/
def captureId (rep : CaptureReply) : UInt64 :=
  if rep.clientCaptureId ≠ 0 then rep.clientCaptureId else rep.jobId

/-- `gen` is what the generator shared by the clients of the process gives out. -/
def doCapture (c : DeveloperCameraSdkGrpc) (async : Bool) (args : CaptureArgs) (gen : UInt64)
    (reply : Rpc CaptureReply) : Outcome (Option UInt64) :=
  if !c.isConnected then ⟨c, [], none⟩
  else
    let request : CaptureRequest :=
      { sessionId := c.session
        async
        clientCaptureId := if args.clientCaptureId = 0 then gen else args.clientCaptureId
        withDetectionPipeline := args.withDetectionPipeline
        withReconstructionPipeline := args.withReconstructionPipeline
        projectorOp := args.projectorOp
        testReconShmLoopback := args.testReconShmLoopback
        testInlineImageReply := args.testInlineImageReply }
    match reply with
    | .error st => ⟨c.setGrpcFailure st, [.capture request], none⟩
    | .ok rep =>
      if rep.status.code ≠ 0 then ⟨c.setBusinessFailure rep.status, [.capture request], none⟩
      else
        let c := { c with
          lastClientCaptureId := captureId rep
          lastInlineImageName := rep.inlineImageName
          lastInlineImagePayload := rep.inlineImagePayload }
        ⟨c.clearError, [.capture request], some c.lastClientCaptureId⟩

def captureSync (c : DeveloperCameraSdkGrpc) := c.doCapture false

def captureAsync (c : DeveloperCameraSdkGrpc) := c.doCapture true

def getLastCaptureInlineImage (c : DeveloperCameraSdkGrpc) : Option (String × List UInt8) :=
  if c.lastInlineImagePayload = [] then none
  else some (c.lastInlineImageName, c.lastInlineImagePayload)

/-- The `GetDepth` call of both methods below; a query with id 0 asks for the last capture. -/
def queryDepth (c : DeveloperCameraSdkGrpc) (queryClientCaptureId : UInt64)
    (reply : Rpc DepthReply) : Outcome (Option DepthReply) :=
  if !c.isConnected then ⟨c, [], none⟩
  else
    let q := if queryClientCaptureId ≠ 0 then queryClientCaptureId else c.lastClientCaptureId
    let sent := [.getDepth { sessionId := c.session, jobId := q, clientCaptureId := q }]
    match reply with
    | .error st => ⟨c.setGrpcFailure st, sent, none⟩
    | .ok rep =>
      if rep.status.code ≠ 0 then ⟨c.setBusinessFailure rep.status, sent, none⟩
      else ⟨c.clearError, sent, some rep⟩

def getDepthFrame (c : DeveloperCameraSdkGrpc) (queryClientCaptureId : UInt64)
    (reply : Rpc DepthReply) : Outcome (Option ShmFrameRef) :=
  let ⟨c, sent, rep⟩ := c.queryDepth queryClientCaptureId reply
  ⟨c, sent, rep.map DepthReply.frame⟩

def listDepthCameraRawFrames (c : DeveloperCameraSdkGrpc) (queryClientCaptureId : UInt64)
    (reply : Rpc DepthReply) : Outcome (Option (List BestCameraRawFrameItem)) :=
  let ⟨c, sent, rep⟩ := c.queryDepth queryClientCaptureId reply
  ⟨c, sent, rep.map fun rep => rep.cameraRawFrames.map rawFrameItem⟩

/-- A listing that succeeds lists the frames of the reply to the query it sent. -/
theorem listDepthCameraRawFrames_some {c : DeveloperCameraSdkGrpc} {query : UInt64} {rep : DepthReply}
    {raws : List BestCameraRawFrameItem}
    (h : (c.listDepthCameraRawFrames query (.ok rep)).result = some raws) :
    raws = rep.cameraRawFrames.map rawFrameItem ∧
      ∀ request, .getDepth request ∈ (c.listDepthCameraRawFrames query (.ok rep)).sent →
        query ≠ 0 → request.clientCaptureId = query := by
  unfold listDepthCameraRawFrames queryDepth at h ⊢
  by_cases hconnected : c.isConnected = true
  · by_cases hcode : rep.status.code = 0
    · simp only [hconnected, hcode, Bool.not_true, Bool.false_eq_true, if_false, ne_eq, not_true,
        Option.map_some, Option.some.injEq] at h
      refine ⟨h.symm, fun request hsent hquery => ?_⟩
      simp only [hconnected, hcode, Bool.not_true, Bool.false_eq_true, if_false, ne_eq, not_true,
        if_pos hquery, List.mem_singleton, HubRequest.getDepth.injEq] at hsent
      rw [hsent]
    · simp [hconnected, hcode] at h
  · simp [hconnected] at h

end DeveloperCameraSdkGrpc

/-- The calls of a program on one client, each with what the hub comes back with. -/
inductive Call where
  | connect (hubAddress : String) (request : ConnectRequest) (reply : Rpc ConnectReply)
  | disconnect
  | captureSync (args : CaptureArgs) (gen : UInt64) (reply : Rpc CaptureReply)
  | captureAsync (args : CaptureArgs) (gen : UInt64) (reply : Rpc CaptureReply)
  | getDepthFrame (queryClientCaptureId : UInt64) (reply : Rpc DepthReply)
  | listDepthCameraRawFrames (queryClientCaptureId : UInt64) (reply : Rpc DepthReply)
  | getLastCaptureInlineImage

structure Client where
  sdk : DeveloperCameraSdkGrpc := {}
  /-- History: the captures that succeeded since the last `Connect` or `Disconnect`, newest first. -/
  captured : List CaptureReply := []

namespace Client

/-- Books a capture if the method returned true. -/
def capturing (s : Client) (out : Outcome (Option UInt64)) (reply : Rpc CaptureReply) : Client :=
  match out.result, reply with
  | some _, .ok rep => { sdk := out.sdk, captured := rep :: s.captured }
  | _, _ => { s with sdk := out.sdk }

def step (s : Client) : Call → Client
  | .connect hubAddress request reply => { sdk := (s.sdk.connect hubAddress request reply).sdk }
  | .disconnect => { sdk := s.sdk.disconnect.sdk }
  | .captureSync args gen reply => s.capturing (s.sdk.captureSync args gen reply) reply
  | .captureAsync args gen reply => s.capturing (s.sdk.captureAsync args gen reply) reply
  | .getDepthFrame query reply => { s with sdk := (s.sdk.getDepthFrame query reply).sdk }
  | .listDepthCameraRawFrames query reply =>
    { s with sdk := (s.sdk.listDepthCameraRawFrames query reply).sdk }
  | .getLastCaptureInlineImage => s

/-- What a call sends to the hub. -/
def sent (s : Client) : Call → List HubRequest
  | .connect hubAddress request reply => (s.sdk.connect hubAddress request reply).sent
  | .disconnect => s.sdk.disconnect.sent
  | .captureSync args gen reply => (s.sdk.captureSync args gen reply).sent
  | .captureAsync args gen reply => (s.sdk.captureAsync args gen reply).sent
  | .getDepthFrame query reply => (s.sdk.getDepthFrame query reply).sent
  | .listDepthCameraRawFrames query reply => (s.sdk.listDepthCameraRawFrames query reply).sent
  | .getLastCaptureInlineImage => []

end Client

/-- The capture id that a call asks for. -/
def Call.query : Call → Option UInt64
  | .getDepthFrame query _ => some query
  | .listDepthCameraRawFrames query _ => some query
  | _ => none

end Camera3D.Sdk
