import Camera3D.Hub.Outcome
import Camera3D.Hub.Server

/-! What steps of the hub do to its publications: a completed capture is remembered, the end of a
session forgets all of them, and nothing else touches them. -/
namespace Camera3D.Hub
open Camera Serial Ipc Transition HubServiceStateCode PublicationStore

namespace PublicationStore

/-- Every publication is stored under its own id. -/
def Keyed (s : PublicationStore) : Prop :=
  ∀ cid pub, s.publications.lookup cid = some pub → pub.clientCaptureId = cid

theorem keyed_empty : Keyed {} := by
  intro cid pub hpub
  cases hpub

theorem Keyed.remember {s : PublicationStore} (h : s.Keyed) (cid : UInt64) (pub : CapturePublication) :
    (s.rememberPublicationLocked cid pub).Keyed := by
  intro k p hp
  rcases lookup_remember hp with ⟨rfl, rfl⟩ | ⟨_, hold⟩
  · rfl
  · exact h k p hold

end PublicationStore

namespace State

/-- The publication of the capture that a camera callback completes, if it completes one. -/
def completed (s : State) (sNext : UInt32) (mid : String) (fb : FrameBuffer) :
    Option CapturePublication :=
  if s.awaitingFrame = true ∧ mid ∈ s.sessionDevicesOrdered ∧
      (s.pushFrame mid fb).burstsComplete = true then
    ((s.pushFrame mid fb).writeSnapshot sNext).2.toOption
  else none

theorem onCameraFrame_store (s : State) (sNext : UInt32) (mid : String) (fb : FrameBuffer) :
    (s.onCameraFrame sNext mid fb).1.store = match s.completed sNext mid fb with
      | some pub => s.store.rememberPublicationLocked s.awaitingClientCaptureId pub
      | none => s.store := by
  unfold completed
  rcases s.onCameraFrame_cases sNext mid fb with ⟨he, hdrop⟩ | ⟨hw, hm, ⟨hc, he⟩ | ⟨hc, he⟩⟩
  · have hnot : ¬ (s.awaitingFrame = true ∧ mid ∈ s.sessionDevicesOrdered ∧
        (s.pushFrame mid fb).burstsComplete = true) := by
      rintro ⟨hw, hm, _⟩
      rcases hdrop with hidle | hout
      · rw [hidle] at hw
        cases hw
      · exact hout hm
    rw [he, if_neg hnot]
  · have hnot : ¬ (s.awaitingFrame = true ∧ mid ∈ s.sessionDevicesOrdered ∧
        (s.pushFrame mid fb).burstsComplete = true) := by
      rintro ⟨_, _, hdone⟩
      rw [hc] at hdone
      cases hdone
    rw [he, if_neg hnot]
    rfl
  · rw [he, if_pos ⟨hw, hm, hc⟩]
    unfold completeCapture
    rcases (s.pushFrame mid fb).writeSnapshot sNext with ⟨w, _ | pub⟩
    · rfl
    · rfl

/-- A reply names no capture and lists no frames, or it is the reply for a publication. -/
theorem getDepth_cases (s : State) (request : DepthRequest) :
    (s.getDepth request).clientCaptureId = 0 ∧ (s.getDepth request).cameraRawFrames = [] ∨
      s.depthKey request ≠ 0 ∧ ∃ pub, s.store.publications.lookup (s.depthKey request) = some pub ∧
        s.getDepth request = s.depthReply pub := by
  unfold getDepth
  cases s.fillUnifiedGateLocked with
  | some status => exact .inl ⟨rfl, rfl⟩
  | none =>
    dsimp only
    by_cases hsession : s.sessionId = "" ∨ request.sessionId ≠ s.sessionId
    · rw [if_pos hsession]
      exact .inl ⟨rfl, rfl⟩
    rw [if_neg hsession]
    cases hpub : s.store.publications.lookup (s.depthKey request) with
    | none => exact .inl ⟨rfl, rfl⟩
    | some pub =>
      dsimp only
      by_cases hkey : s.depthKey request = 0
      · rw [if_pos hkey]
        exact .inl ⟨rfl, rfl⟩
      · rw [if_neg hkey]
        exact .inr ⟨hkey, pub, rfl, rfl⟩

end State

namespace Server
variable {α π θ : Type*} [ICameraAdapter α] [ICameraControls α] [ISerialPort π] [DecidableEq θ]

/-- The publication of the capture that an event completes. -/
def completed (sv : Server α π θ) : ServerEvent α π θ → Option CapturePublication
  | .world (.cameraFrame thread mid fb) => sv.hub.completed (sv.world.cursor thread) mid fb
  | _ => none

/-- What one step of the process does to the publications. -/
theorem step_store (sv : Server α π θ) (e : ServerEvent α π θ) :
    (∃ pub, sv.completed e = some pub ∧ (sv.step e).hub.store =
        sv.hub.store.rememberPublicationLocked sv.hub.awaitingClientCaptureId pub) ∨
      sv.completed e = none ∧
        ((sv.step e).hub.store = sv.hub.store ∨ (sv.step e).hub.store = {}) := by
  by_cases hworld : ∃ e', e = .world e'
  · obtain ⟨e, rfl⟩ := hworld
    have hmove := sv.world.step_move e
    cases e with
    | cameraFrame thread mid fb =>
      have hstore := sv.hub.onCameraFrame_store (sv.world.cursor thread) mid fb
      show (∃ pub, sv.hub.completed (sv.world.cursor thread) mid fb = some pub ∧
          (sv.hub.onCameraFrame (sv.world.cursor thread) mid fb).1.store = _) ∨
        sv.hub.completed (sv.world.cursor thread) mid fb = none ∧
          ((sv.hub.onCameraFrame (sv.world.cursor thread) mid fb).1.store = _ ∨ _)
      cases hpub : sv.hub.completed (sv.world.cursor thread) mid fb with
      | none =>
        rw [hpub] at hstore
        exact .inr ⟨rfl, .inl hstore⟩
      | some pub =>
        rw [hpub] at hstore
        exact .inl ⟨pub, rfl, hstore⟩
    | call id rpc | step id | portChanged port | cameraChanged mid adapter | tick =>
      right
      refine ⟨rfl, ?_⟩
      rcases hmove with ⟨_, _, _, he⟩ | hm
      · cases he
      · exact hm.store.imp_right And.left
  · obtain ⟨cameras, rt, serial, he⟩ := sv.step_frame (not_exists.mp hworld)
    right
    constructor
    · cases e with
      | world e => exact absurd ⟨e, rfl⟩ hworld
      | request | job => rfl
    · left
      show (sv.step e).world.hub.store = sv.hub.store
      rw [he]

theorem run_keyed {sv : Server α π θ} (h : sv.hub.store.Keyed) (es : List (ServerEvent α π θ)) :
    (run step sv es).hub.store.Keyed := by
  refine run_invariant (I := fun sv : Server α π θ => sv.hub.store.Keyed) (fun sv e h => ?_) h es
  rcases sv.step_store e with ⟨pub, _, he⟩ | ⟨_, he | he⟩
  · rw [he]
    exact h.remember _ pub
  · rw [he]
    exact h
  · rw [he]
    exact keyed_empty

theorem Reachable.keyed {sv : Server α π θ} (h : sv.Reachable) : sv.hub.store.Keyed := by
  obtain ⟨prototypes, port, b, cursor, es, rfl⟩ := h
  have hstart : (booted prototypes port b cursor : Server α π θ).hub.store = {} :=
    (Service.boot_unused prototypes port b).store
  refine run_keyed ?_ es
  rw [hstart]
  exact keyed_empty

end Server
end Camera3D.Hub
