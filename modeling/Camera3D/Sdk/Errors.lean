import Camera3D.Sdk.Parameters
import Camera3D.Sdk.Scope

/-! The error codes that the client remembers describe the last call, as long as every call gets as
far as the hub. -/
namespace Camera3D.Sdk
open Grpc Hub Camera Transition DeveloperCameraSdkGrpc ParameterType

namespace DeveloperCameraSdkGrpc

def getLastErrorCode (c : DeveloperCameraSdkGrpc) : Int32 :=
  if c.lastBusiness ≠ 0 then c.lastBusiness else c.lastGrpc

def getLastHubStatusCode (c : DeveloperCameraSdkGrpc) : Int32 := c.lastBusiness

/-- Without a list to fill, nothing is asked. -/
def listDepthCameraRawFramesTo (c : DeveloperCameraSdkGrpc) (hasOut : Bool)
    (queryClientCaptureId : UInt64) (reply : Rpc DepthReply) :
    Outcome (Option (List BestCameraRawFrameItem)) :=
  if !hasOut then ⟨c, [], none⟩ else c.listDepthCameraRawFrames queryClientCaptureId reply

/-- The socket work of `DiscoverDevices` is elsewhere; here is what it does to the client. -/
def discoverDevices (c : DeveloperCameraSdkGrpc) (ok : Bool) : DeveloperCameraSdkGrpc :=
  if ok then c.clearError else c

end DeveloperCameraSdkGrpc

/-- What the client remembers of a failure. -/
structure Errors where
  business : Int32 := 0
  grpc : Int32 := 0
  msg : String := ""
  deriving DecidableEq

def DeveloperCameraSdkGrpc.errors (c : DeveloperCameraSdkGrpc) : Errors :=
  ⟨c.lastBusiness, c.lastGrpc, c.lastMsg⟩

def DeveloperCameraSdkGrpc.withErrors (c : DeveloperCameraSdkGrpc) (e : Errors) :
    DeveloperCameraSdkGrpc :=
  { c with lastBusiness := e.business, lastGrpc := e.grpc, lastMsg := e.msg }

/-- The methods that change the client, each with its arguments and with what the hub comes back with
if it is asked. -/
inductive Method where
  | connect (hubAddress : String) (request : ConnectRequest) (reply : Rpc ConnectReply)
  | disconnect
  | captureSync (args : CaptureArgs) (gen : UInt64) (reply : Rpc CaptureReply)
  | captureAsync (args : CaptureArgs) (gen : UInt64) (reply : Rpc CaptureReply)
  | setParameters (params : List ParameterValue) (reply : Rpc Status)
  | getParameters (types : List ParameterType) (outValues : Option (List ParameterValue))
      (reply : Rpc GetParametersReply)
  | getDepthFrame (queryClientCaptureId : UInt64) (reply : Rpc DepthReply)
  | listDepthCameraRawFrames (hasOut : Bool) (queryClientCaptureId : UInt64) (reply : Rpc DepthReply)
  | getPointCloud (reply : Rpc PointCloudReply)
  | getDetectionResult (reply : Rpc DetectionResultReply)
  | discoverDevices (ok : Bool)

/-- What a call leaves, whether it has asked the hub, and whether it returned true. -/
structure Called where
  sdk : DeveloperCameraSdkGrpc
  asked : Bool
  result : Bool

namespace DeveloperCameraSdkGrpc

def call (c : DeveloperCameraSdkGrpc) : Method → Called
  | .connect hubAddress request reply =>
    let out := c.connect hubAddress request reply
    ⟨out.sdk, !out.sent.isEmpty, out.result⟩
  | .disconnect => ⟨c.disconnect.sdk, !c.disconnect.sent.isEmpty, true⟩
  | .captureSync args gen reply =>
    let out := c.captureSync args gen reply
    ⟨out.sdk, !out.sent.isEmpty, out.result.isSome⟩
  | .captureAsync args gen reply =>
    let out := c.captureAsync args gen reply
    ⟨out.sdk, !out.sent.isEmpty, out.result.isSome⟩
  | .setParameters params reply =>
    let out := c.setParameters params reply
    ⟨out.sdk, out.request.isSome, out.result⟩
  | .getParameters types outValues reply =>
    let out := c.getParameters types outValues reply
    ⟨out.sdk, out.request.isSome, out.result.1⟩
  | .getDepthFrame query reply =>
    let out := c.getDepthFrame query reply
    ⟨out.sdk, !out.sent.isEmpty, out.result.isSome⟩
  | .listDepthCameraRawFrames hasOut query reply =>
    let out := c.listDepthCameraRawFramesTo hasOut query reply
    ⟨out.sdk, !out.sent.isEmpty, out.result.isSome⟩
  | .getPointCloud reply =>
    let out := c.getPointCloud reply
    ⟨out.sdk, out.request.isSome, out.result.isSome⟩
  | .getDetectionResult reply =>
    let out := c.getDetectionResult reply
    ⟨out.sdk, out.request.isSome, out.result.isSome⟩
  | .discoverDevices ok => ⟨c.discoverDevices ok, false, ok⟩

def step (c : DeveloperCameraSdkGrpc) (m : Method) : DeveloperCameraSdkGrpc := (c.call m).sdk

end DeveloperCameraSdkGrpc

namespace Method

/-- How the hub answers, or how the transport fails, for the methods whose outcome is remembered. -/
def status : Method → Option (Rpc Status)
  | .connect _ _ reply => some (reply.map ConnectReply.status)
  | .captureSync _ _ reply => some (reply.map fun rep => rep.status)
  | .captureAsync _ _ reply => some (reply.map fun rep => rep.status)
  | .setParameters _ reply => some reply
  | .getParameters _ _ reply => some (reply.map GetParametersReply.status)
  | .getDepthFrame _ reply => some (reply.map DepthReply.status)
  | .listDepthCameraRawFrames _ _ reply => some (reply.map DepthReply.status)
  | .getPointCloud reply => some (reply.map PointCloudReply.status)
  | .getDetectionResult reply => some (reply.map DetectionResultReply.status)
  | .disconnect => none
  | .discoverDevices _ => none

/-- A status of gRPC that is not OK has a code that is not OK's. -/
def Lawful (m : Method) : Prop := ∀ st, m.status = some (.error st) → st.errorCode ≠ 0

/-- The call gets as far as the hub: there is a connection (`Connect` makes one), and neither a
missing output nor an invalid parameter type ends it before. -/
def Reaches (c : DeveloperCameraSdkGrpc) : Method → Prop
  | .setParameters params _ => c.isConnected = true ∧ ∀ pv ∈ params, pv.type ≠ kInvalid
  | .getParameters types outValues _ =>
    c.isConnected = true ∧ outValues ≠ none ∧ kInvalid ∉ types
  | .listDepthCameraRawFrames hasOut _ _ => c.isConnected = true ∧ hasOut = true
  | .captureSync _ _ _ | .captureAsync _ _ _ | .getDepthFrame _ _ => c.isConnected = true
  | .getPointCloud _ | .getDetectionResult _ => c.isConnected = true
  | .connect _ _ _ | .disconnect | .discoverDevices _ => True

/-- The code of the hub's reply to this call, or 0 if there is none. -/
def hubCode (c : DeveloperCameraSdkGrpc) (m : Method) : Int32 :=
  match (c.call m).asked, m.status with
  | true, some (.ok status) => status.code
  | _, _ => 0

/-- The codes after a call are about it: they do not depend on what was remembered before. -/
structure Described (c : DeveloperCameraSdkGrpc) (m : Method) : Prop where
  success : (c.call m).result = true → (c.call m).sdk.getLastErrorCode = 0
  failure : (c.call m).result = false → (c.call m).sdk.getLastErrorCode ≠ 0
  hub : (c.call m).result = false → (c.call m).sdk.getLastHubStatusCode = m.hubCode c
  own : (c.call m).result = false →
    ∀ e, ((c.withErrors e).call m).sdk.errors = (c.call m).sdk.errors

/-- Of the calls whose outcome is remembered, the codes describe this one. -/
def Reports (c : DeveloperCameraSdkGrpc) (m : Method) : Prop := m.status ≠ none → m.Described c

end Method

/-- What a call that reaches the hub returns and remembers. -/
def reported : Rpc Status → Bool × Errors
  | .error st => (false, ⟨0, st.errorCode, st.errorMessage⟩)
  | .ok status =>
    if status.code ≠ 0 then (false, ⟨status.code, 0, status.message⟩) else (true, {})

namespace DeveloperCameraSdkGrpc

theorem conclude_reported {ρ : Type} (c : DeveloperCameraSdkGrpc) (status : ρ → Status)
    (reply : Rpc ρ) :
    ((c.conclude status reply).2.isSome, (c.conclude status reply).1.errors) =
      reported (reply.map status) := by
  cases reply with
  | error st => rfl
  | ok rep =>
    simp only [conclude, Except.map, reported]
    split_ifs <;> rfl

theorem connect_reported (c : DeveloperCameraSdkGrpc) (hubAddress : String)
    (request : ConnectRequest) (reply : Rpc ConnectReply) :
    ((c.connect hubAddress request reply).result, (c.connect hubAddress request reply).sdk.errors) =
      reported (reply.map ConnectReply.status) := by
  cases reply with
  | error st => rfl
  | ok rep =>
    simp only [connect, Except.map, reported]
    split_ifs <;> rfl

theorem doCapture_reported {c : DeveloperCameraSdkGrpc} (h : c.isConnected = true) (async : Bool)
    (args : CaptureArgs) (gen : UInt64) (reply : Rpc CaptureReply) :
    ((c.doCapture async args gen reply).result.isSome,
      (c.doCapture async args gen reply).sdk.errors) = reported (reply.map fun rep => rep.status) := by
  unfold doCapture
  simp only [h, Bool.not_true, Bool.false_eq_true, if_false]
  cases reply with
  | error st => rfl
  | ok rep =>
    simp only [Except.map, reported]
    split_ifs <;> rfl

theorem queryDepth_reported {c : DeveloperCameraSdkGrpc} (h : c.isConnected = true) (query : UInt64)
    (reply : Rpc DepthReply) :
    ((c.queryDepth query reply).result.isSome, (c.queryDepth query reply).sdk.errors) =
      reported (reply.map DepthReply.status) := by
  unfold queryDepth
  simp only [h, Bool.not_true, Bool.false_eq_true, if_false]
  cases reply with
  | error st => rfl
  | ok rep =>
    simp only [Except.map, reported]
    split_ifs <;> rfl

theorem connect_asks (c : DeveloperCameraSdkGrpc) (hubAddress : String) (request : ConnectRequest)
    (reply : Rpc ConnectReply) : (c.connect hubAddress request reply).sent.isEmpty = false := by
  have hsent : (c.connect hubAddress request reply).sent =
      c.disconnectUnlocked.sent ++ [.connect request] := by
    cases reply with
    | error st => rfl
    | ok rep =>
      simp only [connect]
      split_ifs <;> rfl
  simp [hsent]

theorem doCapture_asks {c : DeveloperCameraSdkGrpc} (h : c.isConnected = true) (async : Bool)
    (args : CaptureArgs) (gen : UInt64) (reply : Rpc CaptureReply) :
    (c.doCapture async args gen reply).sent.isEmpty = false := by
  unfold doCapture
  simp only [h, Bool.not_true, Bool.false_eq_true, if_false]
  cases reply with
  | error st => rfl
  | ok rep =>
    dsimp only
    split_ifs <;> rfl

theorem reaches_withErrors {c : DeveloperCameraSdkGrpc} {m : Method} (h : m.Reaches c) (e : Errors) :
    m.Reaches (c.withErrors e) := by
  cases m <;> exact h

/-- A call that reaches the hub returns and remembers what came back. -/
theorem call_of_reaches {c : DeveloperCameraSdkGrpc} {m : Method} {status : Rpc Status}
    (hs : m.status = some status) (hr : m.Reaches c) :
    (c.call m).asked = true ∧ ((c.call m).result, (c.call m).sdk.errors) = reported status := by
  cases m with
  | connect hubAddress request reply =>
    obtain rfl := Option.some.inj hs
    refine ⟨?_, c.connect_reported hubAddress request reply⟩
    simp only [call, connect_asks, Bool.not_false]
  | captureSync args gen reply =>
    obtain rfl := Option.some.inj hs
    refine ⟨?_, doCapture_reported hr false args gen reply⟩
    simp only [call, captureSync, doCapture_asks hr, Bool.not_false]
  | captureAsync args gen reply =>
    obtain rfl := Option.some.inj hs
    refine ⟨?_, doCapture_reported hr true args gen reply⟩
    simp only [call, captureAsync, doCapture_asks hr, Bool.not_false]
  | setParameters params reply =>
    obtain rfl := Option.some.inj hs
    have hreported := c.conclude_reported id reply
    simp only [call, setParameters, setParametersRequest_eq hr.1 hr.2]
    exact ⟨rfl, hreported.trans (congrArg reported (congrFun Except.map_id reply))⟩
  | getParameters types outValues reply =>
    obtain rfl := Option.some.inj hs
    obtain ⟨out, rfl⟩ := Option.ne_none_iff_exists'.mp hr.2.1
    have hreported := c.conclude_reported GetParametersReply.status reply
    simp only [call, getParameters, getParametersRequest_eq hr.1 hr.2.2, hr.1, Bool.not_true,
      Option.isNone_some, Bool.or_self, Bool.false_eq_true, if_false]
    rcases he : c.conclude GetParametersReply.status reply with ⟨c', _ | rep⟩
    all_goals rw [he] at hreported
    · exact ⟨rfl, hreported⟩
    · exact ⟨rfl, hreported⟩
  | getDepthFrame query reply =>
    obtain rfl := Option.some.inj hs
    have hreported := queryDepth_reported hr query reply
    simp only [call, getDepthFrame, queryDepth_connected hr, Option.isSome_map]
    exact ⟨rfl, hreported⟩
  | listDepthCameraRawFrames hasOut query reply =>
    obtain rfl := Option.some.inj hs
    obtain ⟨hconnected, rfl⟩ := hr
    have hreported := queryDepth_reported hconnected query reply
    simp only [call, listDepthCameraRawFramesTo, listDepthCameraRawFrames,
      queryDepth_connected hconnected, Bool.not_true, Bool.false_eq_true, if_false,
      Option.isSome_map]
    exact ⟨rfl, hreported⟩
  | getPointCloud reply =>
    obtain rfl := Option.some.inj hs
    have hconnected : c.isConnected = true := hr
    have hreported := c.conclude_reported PointCloudReply.status reply
    simp only [call, getPointCloud, hconnected, Bool.not_true, Bool.false_eq_true, if_false,
      Option.isSome_map]
    exact ⟨rfl, hreported⟩
  | getDetectionResult reply =>
    obtain rfl := Option.some.inj hs
    have hconnected : c.isConnected = true := hr
    have hreported := c.conclude_reported DetectionResultReply.status reply
    simp only [call, getDetectionResult, hconnected, Bool.not_true, Bool.false_eq_true, if_false,
      Option.isSome_map]
    exact ⟨rfl, hreported⟩
  | disconnect => cases hs
  | discoverDevices ok => cases hs

/-- Without a connection every call but `Connect` ends at once. -/
theorem call_unconnected {c : DeveloperCameraSdkGrpc} (h : c.isConnected = false) {m : Method}
    (hs : m.status ≠ none) (hr : ¬ m.Reaches c) : c.call m = ⟨c, false, false⟩ := by
  cases m with
  | connect hubAddress request reply => exact absurd trivial hr
  | disconnect => exact absurd rfl hs
  | discoverDevices ok => exact absurd rfl hs
  | captureSync args gen reply => simp [call, captureSync, doCapture, h]
  | captureAsync args gen reply => simp [call, captureAsync, doCapture, h]
  | setParameters params reply => simp [call, setParameters, setParametersRequest, h]
  | getParameters types outValues reply => simp [call, getParameters, h]
  | getDepthFrame query reply => simp [call, getDepthFrame, queryDepth, h]
  | listDepthCameraRawFrames hasOut query reply =>
    cases hasOut with
    | false => rfl
    | true => simp [call, listDepthCameraRawFramesTo, listDepthCameraRawFrames, queryDepth, h]
  | getPointCloud reply => simp [call, getPointCloud, h]
  | getDetectionResult reply => simp [call, getDetectionResult, h]

/-- A call that ends before the hub is asked fails, and remembers either what was remembered before
or a code of the hub that the hub has not sent. -/
theorem call_of_not_reaches {c : DeveloperCameraSdkGrpc} {m : Method} (hs : m.status ≠ none)
    (hr : ¬ m.Reaches c) :
    (c.call m).asked = false ∧ (c.call m).result = false ∧
      ((∀ e, ((c.withErrors e).call m).sdk = c.withErrors e) ∨
        (c.call m).sdk.getLastHubStatusCode = 4) := by
  cases hconnected : c.isConnected with
  | false =>
    have hcall : ∀ e, (c.withErrors e).call m = ⟨c.withErrors e, false, false⟩ := by
      intro e
      apply call_unconnected (c := c.withErrors e) hconnected hs
      exact fun he => hr (reaches_withErrors he c.errors)
    exact ⟨congrArg Called.asked (hcall c.errors), congrArg Called.result (hcall c.errors),
      .inl fun e => congrArg Called.sdk (hcall e)⟩
  | true =>
    cases m with
    | connect hubAddress request reply => exact absurd trivial hr
    | disconnect => exact absurd rfl hs
    | discoverDevices ok => exact absurd rfl hs
    | captureSync | captureAsync | getDepthFrame => exact absurd hconnected hr
    | getPointCloud | getDetectionResult => exact absurd hconnected hr
    | setParameters params reply =>
      simp only [call, setParameters, setParametersRequest_error hr, hconnected, if_true]
      exact ⟨rfl, trivial, .inr rfl⟩
    | getParameters types outValues reply =>
      cases outValues with
      | none => simp [call, getParameters, withErrors]
      | some out =>
        have herror : ¬ (c.isConnected = true ∧ kInvalid ∉ types) := fun h =>
          hr ⟨h.1, Option.some_ne_none out, h.2⟩
        simp only [call, getParameters, getParametersRequest_error herror, hconnected, if_true,
          Bool.not_true, Option.isNone_some, Bool.or_self, Bool.false_eq_true, if_false]
        exact ⟨rfl, trivial, .inr rfl⟩
    | listDepthCameraRawFrames hasOut query reply =>
      cases hasOut with
      | false => exact ⟨rfl, rfl, .inl fun _ => rfl⟩
      | true => exact absurd ⟨hconnected, rfl⟩ hr

end DeveloperCameraSdkGrpc

/-- The code that was reported is an error exactly if the call failed. -/
theorem reported_code {c : DeveloperCameraSdkGrpc} {r : Bool} {status : Rpc Status}
    (hlawful : ∀ st, status = .error st → st.errorCode ≠ 0)
    (h : (r, c.errors) = reported status) : r = true ↔ c.getLastErrorCode = 0 := by
  cases status with
  | error st =>
    obtain ⟨rfl, he⟩ := Prod.mk.inj h
    obtain ⟨hbusiness, hgrpc, _⟩ := Errors.mk.inj he
    simp [getLastErrorCode, hbusiness, hgrpc, hlawful st rfl]
  | ok status =>
    simp only [reported] at h
    split_ifs at h with hcode
    · obtain ⟨rfl, he⟩ := Prod.mk.inj h
      obtain ⟨hbusiness, _, _⟩ := Errors.mk.inj he
      simp [getLastErrorCode, hbusiness, hcode]
    · obtain ⟨rfl, he⟩ := Prod.mk.inj h
      obtain ⟨hbusiness, hgrpc, _⟩ := Errors.mk.inj he
      simp [getLastErrorCode, hbusiness, hgrpc]

/-- The code of the hub that was reported is the one of its reply. -/
theorem reported_hubCode {c : DeveloperCameraSdkGrpc} {m : Method} {status : Rpc Status} {r : Bool}
    (hstatus : m.status = some status) (hasked : (c.call m).asked = true)
    (h : (r, (c.call m).sdk.errors) = reported status) :
    (c.call m).sdk.getLastHubStatusCode = m.hubCode c := by
  unfold Method.hubCode
  rw [hasked, hstatus]
  cases status with
  | error st => exact congrArg Errors.business (Prod.mk.inj h).2
  | ok status =>
    simp only [reported] at h
    split_ifs at h with hcode
    · exact congrArg Errors.business (Prod.mk.inj h).2
    · exact (congrArg Errors.business (Prod.mk.inj h).2).trans (not_not.mp hcode).symm

namespace Method

theorem described_iff {c : DeveloperCameraSdkGrpc} {m : Method} (hs : m.status ≠ none)
    (hlawful : m.Lawful) : m.Described c ↔ m.Reaches c := by
  constructor
  · intro hd
    by_contra hr
    obtain ⟨hasked, hresult, hkept | hfour⟩ := call_of_not_reaches hs hr
    · have hown := hd.own hresult
      have hc : (c.call m).sdk = c := hkept c.errors
      have hone := hown { c.errors with business := c.errors.business + 1 }
      rw [hkept, hc] at hone
      have hbusiness := congrArg Errors.business hone
      simp [withErrors, errors] at hbusiness
    · have hhub := hd.hub hresult
      rw [hfour, hubCode, hasked] at hhub
      cases hhub
  · intro hr
    obtain ⟨status, hstatus⟩ := Option.ne_none_iff_exists'.mp hs
    obtain ⟨hasked, hreported⟩ := call_of_reaches hstatus hr
    have hcode := reported_code (fun st he => hlawful st (hstatus.trans (congrArg some he))) hreported
    refine ⟨fun h => hcode.mp h, fun h he => ?_, fun _ => ?_, fun _ e => ?_⟩
    · rw [hcode.mpr he] at h
      cases h
    · exact reported_hubCode hstatus hasked hreported
    · have hother := (call_of_reaches hstatus (reaches_withErrors hr e)).2
      exact (Prod.mk.inj (hother.trans hreported.symm)).2

/-- The calls whose outcome is remembered get as far as the hub. -/
def AllReach (c : DeveloperCameraSdkGrpc) (m : Method) : Prop := m.status ≠ none → m.Reaches c

theorem reports_iff {c : DeveloperCameraSdkGrpc} {m : Method} (hlawful : m.Lawful) :
    m.Reports c ↔ m.AllReach c := by
  constructor
  · intro h hs
    exact (described_iff hs hlawful).mp (h hs)
  · intro h hs
    exact (described_iff hs hlawful).mpr (h hs)

end Method

/-- Whatever is called and whatever comes back, the codes describe the last call exactly if no call
ends before the hub is asked. -/
theorem along_reports_iff (c : DeveloperCameraSdkGrpc) (ms : List Method)
    (hlawful : ∀ m ∈ ms, m.Lawful) :
    Along step (fun c m => m.Reports c) c ms ↔ Along step (fun c m => m.AllReach c) c ms := by
  induction ms generalizing c with
  | nil => exact Iff.rfl
  | cons m ms ih =>
    have hhead := hlawful m List.mem_cons_self
    have htail := ih (c.step m) fun m' hm => hlawful m' (List.mem_cons_of_mem m hm)
    exact and_congr (Method.reports_iff hhead) htail

/-- A connection, a capture that the hub refuses, and one that the transport loses. -/
def failingCalls : List Method :=
  [.connect "10.0.0.1:50051" ⟨"", "", 0⟩ (.ok ⟨⟨0, ""⟩, "cam-1"⟩),
    .captureSync {} 1 (.ok { status := ⟨1010, "serial"⟩ }),
    .captureSync {} 2 (.error ⟨14, "unavailable"⟩)]

theorem along_reports_iff_failingCalls :
    (∀ m ∈ failingCalls, m.Lawful) ∧ Along step (fun c m => m.Reports c) {} failingCalls := by
  have hlawful : ∀ m ∈ failingCalls, m.Lawful := by
    unfold failingCalls
    simp [Method.Lawful, Method.status, Except.map]
  have hreach : Along step (fun c m => m.AllReach c) {} failingCalls :=
    ⟨fun _ => trivial, fun _ => rfl, fun _ => rfl, trivial⟩
  exact ⟨hlawful, (along_reports_iff {} failingCalls hlawful).mpr hreach⟩

/-- On a fresh client a query fails, and the code says that nothing did. -/
theorem unconnected_query_reports_nothing :
    ¬ ∀ ms, (∀ m ∈ ms, m.Lawful) → Along step (fun c m => m.Reports c) {} ms := by
  intro hall
  have hlawful : ∀ m ∈ [Method.getDepthFrame 0 (.ok { status := ⟨0, ""⟩ })], m.Lawful := by
    intro m hm st hst
    obtain rfl := List.mem_singleton.mp hm
    cases hst
  have hd := (hall _ hlawful).1 (Option.some_ne_none _)
  exact hd.failure rfl rfl

end Camera3D.Sdk
