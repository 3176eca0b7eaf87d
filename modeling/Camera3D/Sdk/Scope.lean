import Camera3D.Sdk.Client
import Camera3D.Transition.Run

/-! What the client answers with stays within one connection, as long as it does not fall back on a
capture id of an earlier one. -/
namespace Camera3D.Sdk
open Grpc Hub Transition DeveloperCameraSdkGrpc

namespace DeveloperCameraSdkGrpc

theorem queryDepth_connected {c : DeveloperCameraSdkGrpc} {q : UInt64} {reply : Rpc DepthReply}
    (h : c.isConnected = true) :
    (c.queryDepth q reply).sent = [.getDepth
      { sessionId := c.session
        jobId := if q ≠ 0 then q else c.lastClientCaptureId
        clientCaptureId := if q ≠ 0 then q else c.lastClientCaptureId }] := by
  unfold queryDepth
  rw [h]
  cases reply with
  | error st => rfl
  | ok rep =>
    simp only [Bool.not_true, Bool.false_eq_true, if_false]
    split_ifs <;> rfl

theorem queryDepth_unconnected {c : DeveloperCameraSdkGrpc} {q : UInt64} {reply : Rpc DepthReply}
    (h : c.isConnected = false) : c.queryDepth q reply = ⟨c, [], none⟩ := by
  unfold queryDepth
  rw [h]
  rfl

end DeveloperCameraSdkGrpc

namespace Client

/-- A query names no capture, or one that succeeded on the current connection. -/
def NamesOurs (s : Client) (r : HubRequest) : Prop :=
  ∃ request, r = .getDepth request ∧ request.jobId = request.clientCaptureId ∧
    (request.clientCaptureId = 0 ∨ ∃ rep ∈ s.captured, request.clientCaptureId = captureId rep)

structure Scoped (s : Client) (c : Call) : Prop where
  query : c.query = some 0 → ∀ r ∈ s.sent c, s.NamesOurs r
  image : c = .getLastCaptureInlineImage → ∀ image, s.sdk.getLastCaptureInlineImage = some image →
    ∃ rep ∈ s.captured, image = (rep.inlineImageName, rep.inlineImagePayload)

/-- A query for the last capture comes after one on the current connection, or there is no id left
over from an earlier one. -/
def AsksForOurs (s : Client) (c : Call) : Prop :=
  c.query = some 0 → s.sdk.isConnected = true → s.captured ≠ [] ∨ s.sdk.lastClientCaptureId = 0

/-- What the client remembers is of the last capture on the current connection; without one it
remembers no image. -/
def Remembers (s : Client) : Prop :=
  match s.captured with
  | [] => s.sdk.lastInlineImagePayload = []
  | rep :: _ => s.sdk.lastClientCaptureId = captureId rep ∧
      s.sdk.lastInlineImageName = rep.inlineImageName ∧
      s.sdk.lastInlineImagePayload = rep.inlineImagePayload

theorem remembers_fresh : Remembers {} := rfl

theorem connect_remembers (s : Client) (hubAddress : String) (request : ConnectRequest)
    (reply : Rpc ConnectReply) : (s.step (.connect hubAddress request reply)).Remembers := by
  show (s.sdk.connect hubAddress request reply).sdk.lastInlineImagePayload = []
  unfold connect
  cases reply with
  | error st => rfl
  | ok rep =>
    dsimp only
    split_ifs <;> rfl

theorem Remembers.capturing {s : Client} (h : s.Remembers) (async : Bool) (args : CaptureArgs)
    (gen : UInt64) (reply : Rpc CaptureReply) :
    (s.capturing (s.sdk.doCapture async args gen reply) reply).Remembers := by
  unfold doCapture
  cases s.sdk.isConnected with
  | false => exact h
  | true =>
    simp only [Bool.not_true, Bool.false_eq_true, if_false]
    cases reply with
    | error st => exact h
    | ok rep =>
      by_cases hcode : rep.status.code ≠ 0
      · simp only [if_pos hcode]
        exact h
      · simp only [if_neg hcode]
        exact ⟨rfl, rfl, rfl⟩

theorem Remembers.querying {s : Client} (h : s.Remembers) (query : UInt64) (reply : Rpc DepthReply) :
    Remembers { s with sdk := (s.sdk.queryDepth query reply).sdk } := by
  unfold queryDepth
  cases s.sdk.isConnected with
  | false => exact h
  | true =>
    simp only [Bool.not_true, Bool.false_eq_true, if_false]
    cases reply with
    | error st => exact h
    | ok rep =>
      dsimp only
      split_ifs <;> exact h

theorem Remembers.step {s : Client} (h : s.Remembers) (c : Call) : (s.step c).Remembers := by
  cases c with
  | connect hubAddress request reply => exact s.connect_remembers hubAddress request reply
  | disconnect => exact rfl
  | captureSync args gen reply => exact h.capturing false args gen reply
  | captureAsync args gen reply => exact h.capturing true args gen reply
  | getDepthFrame query reply => exact h.querying query reply
  | listDepthCameraRawFrames query reply => exact h.querying query reply
  | getLastCaptureInlineImage => exact h

/-- An image that is handed out is the one of the last capture on the current connection. -/
theorem Remembers.image {s : Client} (h : s.Remembers) {image : String × List UInt8}
    (hi : s.sdk.getLastCaptureInlineImage = some image) :
    ∃ rep ∈ s.captured, image = (rep.inlineImageName, rep.inlineImagePayload) := by
  unfold getLastCaptureInlineImage at hi
  unfold Remembers at h
  split_ifs at hi with hne
  cases hc : s.captured with
  | nil =>
    rw [hc] at h
    exact absurd h hne
  | cons rep before =>
    rw [hc] at h
    obtain ⟨_, hname, hpayload⟩ := h
    rw [hname, hpayload] at hi
    exact ⟨rep, List.mem_cons_self, (Option.some.inj hi).symm⟩

/-- What a query for the last capture sends, from either method. -/
theorem sent_query {s : Client} {c : Call} (hq : c.query = some 0) :
    s.sent c = if s.sdk.isConnected then [.getDepth
      { sessionId := s.sdk.session
        jobId := s.sdk.lastClientCaptureId
        clientCaptureId := s.sdk.lastClientCaptureId }] else [] := by
  have hsent : ∀ reply, (s.sdk.queryDepth 0 reply).sent = if s.sdk.isConnected then [.getDepth
      { sessionId := s.sdk.session
        jobId := s.sdk.lastClientCaptureId
        clientCaptureId := s.sdk.lastClientCaptureId }] else [] := by
    intro reply
    cases hconn : s.sdk.isConnected with
    | false => rw [queryDepth_unconnected hconn, if_neg Bool.false_ne_true]
    | true => rw [queryDepth_connected hconn, if_pos rfl, if_neg (not_not.mpr rfl)]
  cases c with
  | getDepthFrame query reply =>
    obtain rfl := Option.some.inj hq
    exact hsent reply
  | listDepthCameraRawFrames query reply =>
    obtain rfl := Option.some.inj hq
    exact hsent reply
  | _ => cases hq

theorem Remembers.scoped_iff {s : Client} (h : s.Remembers) (c : Call) :
    s.Scoped c ↔ s.AsksForOurs c := by
  constructor
  · intro hs hq hconn
    have hsent := sent_query (s := s) hq
    rw [if_pos hconn] at hsent
    obtain ⟨request, hr, _, hid⟩ := hs.query hq _ (hsent ▸ List.mem_singleton_self _)
    obtain rfl := HubRequest.getDepth.inj hr
    rcases hid with hzero | ⟨rep, hrep, _⟩
    · exact .inr hzero
    · exact .inl (List.ne_nil_of_mem hrep)
  · intro ha
    refine ⟨fun hq r hr => ?_, fun _ image hi => h.image hi⟩
    rw [sent_query hq] at hr
    split_ifs at hr with hconn
    · obtain rfl := List.mem_singleton.mp hr
      refine ⟨_, rfl, rfl, ?_⟩
      rcases ha hq hconn with hne | hzero
      · obtain ⟨rep, before, hc⟩ := List.exists_cons_of_ne_nil hne
        unfold Remembers at h
        rw [hc] at h
        exact .inr ⟨rep, hc ▸ List.mem_cons_self, h.1⟩
      · exact .inl hzero
    · cases hr

/-- Whatever is called and whatever the hubs reply, answers stay within the connection exactly if no
query falls back on an id that an earlier connection left. -/
theorem run_scoped_iff (cs : List Call) : Along step Scoped {} cs ↔ Along step AsksForOurs {} cs :=
  along_congr (fun _ c h => h.step c) (fun _ c h => h.scoped_iff c) remembers_fresh cs

/-- A capture on one hub, and a query on the next. -/
def movedOn : List Call :=
  [.connect "10.0.0.1:50051" ⟨"", "", 0⟩ (.ok ⟨⟨0, ""⟩, "cam-1"⟩),
    .captureSync {} 1 (.ok { status := ⟨0, ""⟩, jobId := 1, clientCaptureId := 1 }),
    .disconnect,
    .connect "10.0.0.2:50051" ⟨"", "", 0⟩ (.ok ⟨⟨0, ""⟩, "cam-1"⟩),
    .getDepthFrame 0 (.ok { status := ⟨0, ""⟩ })]

/-- The query names the capture that was made on the other hub. -/
theorem query_names_earlier_capture : ¬ ∀ cs, Along step Scoped {} cs := by
  intro hall
  have hscoped := (hall movedOn).2.2.2.2.1
  obtain ⟨request, hr, _, hid⟩ := hscoped.query rfl _ List.mem_cons_self
  obtain rfl := HubRequest.getDepth.inj hr
  rcases hid with hzero | ⟨rep, hrep, _⟩
  · cases hzero
  · cases hrep

end Client
end Camera3D.Sdk
