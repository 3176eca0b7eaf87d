import Camera3D.Hub.Requests
import Camera3D.Sdk.Client

/-! The client's methods for camera parameters, and for the results that a hub does not offer yet. -/
namespace Camera3D.Sdk
open Grpc Hub Camera

/-- A value of this type need not be an enumerator. -/
abbrev ParameterType := Int32

namespace ParameterType
def kInvalid : ParameterType := 0
def kExposure2d : ParameterType := 1
def kGain2d : ParameterType := 2
def kGamma2d : ParameterType := 3
end ParameterType

open ParameterType

structure ParameterValue where
  type : ParameterType := kInvalid
  value : Double := 0
  deriving DecidableEq

def ParameterValue.pair (pv : ParameterValue) : HubParameterPair := ⟨pv.type, pv.value⟩

def parameterValue (p : HubParameterPair) : ParameterValue := ⟨p.type, p.value⟩

structure PointCloudReply where
  status : Status
  frame : ShmFrameRef := {}
  deriving DecidableEq

structure DetectionResultReply where
  status : Status
  frame : ShmFrameRef := {}
  deriving DecidableEq

/-- What a method leaves, what it asks the hub if it gets that far, and what it returns. -/
structure Answered (ρ : Type) where
  sdk : DeveloperCameraSdkGrpc
  request : Option Request
  result : ρ

namespace DeveloperCameraSdkGrpc

/-- The end of a call that reaches the hub: how it went replaces what was remembered. -/
def conclude {ρ : Type} (c : DeveloperCameraSdkGrpc) (status : ρ → Status) :
    Rpc ρ → DeveloperCameraSdkGrpc × Option ρ
  | .error st => (c.setGrpcFailure st, none)
  | .ok rep =>
    if (status rep).code ≠ 0 then (c.setBusinessFailure (status rep), none)
    else (c.clearError, some rep)

/-- A refusal of the client itself, which it remembers as one of the hub. -/
def refuseType (c : DeveloperCameraSdkGrpc) : DeveloperCameraSdkGrpc :=
  c.setBusinessFailure ⟨4, "invalid ParameterType"⟩

/-- The request of `SetParameters`, or what the client is left with when it sends none. -/
def setParametersRequest (c : DeveloperCameraSdkGrpc) (params : List ParameterValue) :
    Except DeveloperCameraSdkGrpc Request :=
  if !c.isConnected then .error c
  else if params.any fun pv => pv.type == kInvalid then .error c.refuseType
  else .ok (.setParameters c.session (params.map ParameterValue.pair))

def setParameters (c : DeveloperCameraSdkGrpc) (params : List ParameterValue)
    (reply : Rpc Status) : Answered Bool :=
  match c.setParametersRequest params with
  | .error c => ⟨c, none, false⟩
  | .ok request =>
    let (c, rep) := c.conclude id reply
    ⟨c, some request, rep.isSome⟩

def getParametersRequest (c : DeveloperCameraSdkGrpc) (types : List ParameterType) :
    Except DeveloperCameraSdkGrpc Request :=
  if !c.isConnected then .error c
  else if types.any fun t => t == kInvalid then .error c.refuseType
  else .ok (.getParameters c.session types)

/-- `outValues` is the caller's list, if it gives one; it is emptied before anything is asked. -/
def getParameters (c : DeveloperCameraSdkGrpc) (types : List ParameterType)
    (outValues : Option (List ParameterValue)) (reply : Rpc GetParametersReply) :
    Answered (Bool × Option (List ParameterValue)) :=
  if !c.isConnected || outValues.isNone then ⟨c, none, (false, outValues)⟩
  else
    match c.getParametersRequest types with
    | .error c => ⟨c, none, (false, some [])⟩
    | .ok request =>
      match c.conclude GetParametersReply.status reply with
      | (c, none) => ⟨c, some request, (false, some [])⟩
      | (c, some rep) => ⟨c, some request, (true, some (rep.parameters.map parameterValue))⟩

def getPointCloud (c : DeveloperCameraSdkGrpc) (reply : Rpc PointCloudReply) :
    Answered (Option ShmFrameRef) :=
  if !c.isConnected then ⟨c, none, none⟩
  else
    let (c, rep) := c.conclude PointCloudReply.status reply
    ⟨c, some .getPointCloud, rep.map PointCloudReply.frame⟩

def getDetectionResult (c : DeveloperCameraSdkGrpc) (reply : Rpc DetectionResultReply) :
    Answered (Option ShmFrameRef) :=
  if !c.isConnected then ⟨c, none, none⟩
  else
    let (c, rep) := c.conclude DetectionResultReply.status reply
    ⟨c, some .getDetectionResult, rep.map DetectionResultReply.frame⟩

theorem conclude_isSome {ρ : Type} {c : DeveloperCameraSdkGrpc} {status : ρ → Status} {rep : ρ} :
    (c.conclude status (.ok rep)).2.isSome = true ↔ (status rep).code = 0 := by
  simp only [conclude]
  split_ifs with h
  · simpa using h
  · simpa using h

theorem setParametersRequest_eq {c : DeveloperCameraSdkGrpc} {params : List ParameterValue}
    (hconnected : c.isConnected = true) (hvalid : ∀ pv ∈ params, pv.type ≠ kInvalid) :
    c.setParametersRequest params =
      .ok (.setParameters c.session (params.map ParameterValue.pair)) := by
  have hnone : (params.any fun pv => pv.type == kInvalid) = false := by simpa using hvalid
  simp [setParametersRequest, hconnected, hnone]

theorem getParametersRequest_eq {c : DeveloperCameraSdkGrpc} {types : List ParameterType}
    (hconnected : c.isConnected = true) (hvalid : kInvalid ∉ types) :
    c.getParametersRequest types = .ok (.getParameters c.session types) := by
  have hnone : (types.any fun t => t == kInvalid) = false := by
    rw [List.any_eq_false]
    intro t ht he
    exact hvalid (beq_iff_eq.mp he ▸ ht)
  simp [getParametersRequest, hconnected, hnone]

theorem setParametersRequest_error {c : DeveloperCameraSdkGrpc} {params : List ParameterValue}
    (h : ¬ (c.isConnected = true ∧ ∀ pv ∈ params, pv.type ≠ kInvalid)) :
    c.setParametersRequest params = .error (if c.isConnected then c.refuseType else c) := by
  unfold setParametersRequest
  cases hconnected : c.isConnected with
  | false => rfl
  | true =>
    have hsome : (params.any fun pv => pv.type == kInvalid) = true := by
      simpa [hconnected] using h
    simp [hsome]

theorem getParametersRequest_error {c : DeveloperCameraSdkGrpc} {types : List ParameterType}
    (h : ¬ (c.isConnected = true ∧ kInvalid ∉ types)) :
    c.getParametersRequest types = .error (if c.isConnected then c.refuseType else c) := by
  unfold getParametersRequest
  cases hconnected : c.isConnected with
  | false => rfl
  | true =>
    have hmem : kInvalid ∈ types := by simpa [hconnected] using h
    have hsome : (types.any fun t => t == kInvalid) = true :=
      List.any_eq_true.mpr ⟨kInvalid, hmem, beq_self_eq_true _⟩
    simp [hsome]

end DeveloperCameraSdkGrpc
end Camera3D.Sdk
