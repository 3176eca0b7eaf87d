import Camera3D.Hub.World

/-! What the steps of a run can do to the state of the service: the camera callbacks as they are
defined, and everything else as one of a few moves. -/
namespace Camera3D.Hub
open Camera Serial Ipc HubServiceStateCode

namespace State

/-- The session of the preset cameras, as `Connect` lays it out again. -/
def resumed (s : State) (rt : Status) : State :=
  { s with
    sessionId := if s.presetCameras = [] then s.sessionId
      else (s.presetCameras.map HubPresetCamera.managerDeviceId).headD ""
    sessionDevicesOrdered := s.presetCameras.map HubPresetCamera.managerDeviceId
    sessionSlotLayout := Service.slotLayout 0 s.presetCameras
    hubRuntime := rt }

def released (s : State) : State :=
  { s with
    sessionId := ""
    sessionDevicesOrdered := []
    sessionSlotLayout := []
    pendingCameraBursts := ∅
    store := {}
    awaitingFrame := false
    awaitingClientCaptureId := 0
    awaitingTestLoopback := false
    hubRuntime :=
      ⟨kSessionNotEstablished, "session released; call Connect to resume capture pipeline"⟩ }

/-- The state in which an admitted capture waits for its frames. -/
def armed (s : State) (request : CaptureRequest) : State :=
  { s with kAutoCapture := (s.chooseId request).2 }.startAwaiting (s.chooseId request).1 request

/-- `Capture` admits a request: its session is the current one and no capture is in flight. -/
structure Admits (s : State) (request : CaptureRequest) : Prop where
  ready : s.unifiedConfigMode → s.hubRuntime.code = kReady
  session : s.sessionId ≠ "" ∧ request.sessionId = s.sessionId
  idle : s.awaitingFrame = false

/-- What a step other than a camera callback does; the label is the request whose `Capture` runs. -/
inductive Move (s : State) : Option CaptureRequest → State → Prop
  | same (r : Option CaptureRequest) : Move s r s
  | runtime (rt : Status) (hne : rt.code = kSessionNotEstablished → s.sessionId = "") :
    Move s none { s with hubRuntime := rt }
  | resumed (rt : Status) (hrt : rt = s.hubRuntime ∨ rt.code = kReady)
    (hold : s.hubRuntime.code = kSessionNotEstablished ∨ s.sessionId = "") :
    Move s none (s.resumed rt)
  | released (hs : s.sessionId ≠ "") : Move s none s.released
  | counted (request : CaptureRequest) (hid : request.clientCaptureId = 0) (hs : s.sessionId ≠ "") :
    Move s (some request) { s with kAutoCapture := s.kAutoCapture + 1 }
  | armed (request : CaptureRequest) (h : s.Admits request) : Move s (some request) (s.armed request)
  | notSent (request : CaptureRequest) (h : s.Admits request) :
    Move s (some request) (s.armed request).stopAwaiting
  | timedOut (h : s.awaitingFrame = true) : Move s none s.stopAwaiting
  | errorTaken : Move s none { s with lastCaptureShmError := "" }

/-- A camera callback is dropped, leaves a camera short of frames, or completes the capture. -/
theorem onCameraFrame_cases (s : State) (sNext : UInt32) (mid : String) (fb : FrameBuffer) :
    s.onCameraFrame sNext mid fb = (s, sNext) ∧
      (s.awaitingFrame = false ∨ mid ∉ s.sessionDevicesOrdered) ∨
    s.awaitingFrame = true ∧ mid ∈ s.sessionDevicesOrdered ∧
      ((s.pushFrame mid fb).burstsComplete = false ∧
          s.onCameraFrame sNext mid fb = (s.pushFrame mid fb, sNext) ∨
        (s.pushFrame mid fb).burstsComplete = true ∧
          s.onCameraFrame sNext mid fb = (s.pushFrame mid fb).completeCapture sNext) := by
  unfold onCameraFrame
  cases hw : s.awaitingFrame with
  | false => exact .inl ⟨rfl, .inl rfl⟩
  | true =>
    by_cases hm : mid ∈ s.sessionDevicesOrdered
    · cases hc : (s.pushFrame mid fb).burstsComplete with
      | false => exact .inr ⟨rfl, hm, .inl ⟨rfl, by simp [hm, hc]⟩⟩
      | true => exact .inr ⟨rfl, hm, .inr ⟨rfl, by simp [hm, hc]⟩⟩
    · exact .inl ⟨by simp [hm], .inr hm⟩

theorem captureWakeUp_cases (s : State) (w : Waiter) (now : ℕ) :
    s.captureWakeUp w now = (s, none) ∧ s.awaitingFrame = true ∧ now < w.deadline ∨
    s.awaitingFrame = true ∧ w.deadline ≤ now ∧ s.captureWakeUp w now =
      (s.stopAwaiting, some ⟨⟨14, "capture timeout waiting for hardware frame"⟩, 0, 0⟩) ∨
    s.awaitingFrame = false ∧ w.cid ∉ s.store.publications ∧ (∃ detail, s.captureWakeUp w now =
      ({ s with lastCaptureShmError := "" }, some ⟨⟨17, detail⟩, 0, 0⟩)) ∨
    s.awaitingFrame = false ∧ w.cid ∈ s.store.publications ∧
      s.captureWakeUp w now = (s, some (captureSucceeded w.cid w.testInlineImage)) := by
  unfold captureWakeUp
  cases hw : s.awaitingFrame with
  | false =>
    by_cases hp : w.cid ∈ s.store.publications
    · exact .inr (.inr (.inr ⟨rfl, hp, by simp [hp]⟩))
    · exact .inr (.inr (.inl ⟨rfl, hp, by simp [hp]⟩))
  | true =>
    by_cases ht : now < w.deadline
    · exact .inl ⟨by simp [ht], rfl, ht⟩
    · exact .inr (.inl ⟨rfl, Nat.not_lt.mp ht, by simp [ht]⟩)

end State

namespace Service
variable {α π : Type*}

section Cameras
variable [ICameraAdapter α]

/-- Without session cameras nothing is armed. Otherwise the cameras are armed one after the other, and
the orchestrator of the session is only set if none fails. -/
theorem prepareHardwareTriggerLocked_cases (h : Service α π) :
    h.sessionDevicesOrdered = [] ∧
        h.prepareHardwareTriggerLocked = (h.resetOrchestrators, some "no session cameras") ∨
      h.sessionDevicesOrdered ≠ [] ∧
        ((∃ cameras err, armCameras h.sessionDevicesOrdered h.cameras = (cameras, some err) ∧
          h.prepareHardwareTriggerLocked = ({ h.resetOrchestrators with cameras }, some err)) ∨
        ∃ cameras, armCameras h.sessionDevicesOrdered h.cameras = (cameras, none) ∧
          ((∃ mid, h.sessionDevicesOrdered = [mid] ∧ h.prepareHardwareTriggerLocked =
            ({ h.resetOrchestrators with cameras, orchestrator := some mid }, none)) ∨
          h.sessionDevicesOrdered.length ≠ 1 ∧ h.prepareHardwareTriggerLocked =
            ({ h.resetOrchestrators with
              cameras, multiOrchestrator := some h.sessionDevicesOrdered }, none))) := by
  have hdevices : h.resetOrchestrators.sessionDevicesOrdered = h.sessionDevicesOrdered := rfl
  have hcameras : h.resetOrchestrators.cameras = h.cameras := rfl
  unfold prepareHardwareTriggerLocked
  dsimp only
  rw [hdevices, hcameras]
  by_cases hnil : h.sessionDevicesOrdered = []
  · rw [if_pos hnil]
    exact .inl ⟨hnil, rfl⟩
  · rw [if_neg hnil]
    refine .inr ⟨hnil, ?_⟩
    rcases armCameras h.sessionDevicesOrdered h.cameras with ⟨cameras, err⟩
    cases err with
    | some err => exact .inl ⟨cameras, err, rfl, rfl⟩
    | none =>
      refine .inr ⟨cameras, rfl, ?_⟩
      dsimp only
      split
      next mid hmid => exact .inl ⟨mid, hmid, rfl⟩
      next mids hmids =>
        refine .inr ⟨fun hone => ?_, rfl⟩
        obtain ⟨mid, hmid⟩ := List.length_eq_one_iff.mp hone
        exact hmids mid hmid

theorem prepareHardwareTriggerLocked_toState (h : Service α π) :
    h.prepareHardwareTriggerLocked.1.toState = h.toState := by
  rcases h.prepareHardwareTriggerLocked_cases with
    ⟨_, he⟩ | ⟨_, ⟨_, _, _, he⟩ | ⟨_, _, ⟨_, _, he⟩ | ⟨_, he⟩⟩⟩
  all_goals
    rw [he]
    rfl

theorem restoreActiveSessionLocked_toState (h : Service α π) :
    h.restoreActiveSessionLocked.1.toState = h.toState.resumed h.hubRuntime := by
  unfold restoreActiveSessionLocked
  dsimp only
  split_ifs with hd
  · have hp : h.presetCameras = [] := List.map_eq_nil_iff.mp hd
    simp [State.resumed, layOutSession, hp]
  · have hp : h.presetCameras ≠ [] := fun hp => hd (by simp [layOutSession, hp])
    rw [prepareHardwareTriggerLocked_toState]
    simp [State.resumed, layOutSession, hp]

end Cameras

section Serial
variable [ISerialPort π]

theorem sendProductionCommandOnlyLocked_toState (h : Service α π) (cmd : Command) :
    (h.sendProductionCommandOnlyLocked cmd).1.toState = h.toState := by
  have honly : (h.sendProductionCommandOnly cmd).1.toState = h.toState := by
    unfold sendProductionCommandOnly
    split_ifs
    · rfl
    · simp only
      split_ifs <;> rfl
  unfold sendProductionCommandOnlyLocked
  split
  · exact honly
  · exact honly
  · rfl

theorem sendSetCommandOnlyLocked_toState (h : Service α π) (cmd : Command) :
    (h.sendSetCommandOnlyLocked cmd).1.toState = h.toState := by
  unfold sendSetCommandOnlyLocked
  split_ifs
  · rfl
  · simp only
    split_ifs <;> rfl

theorem tryRecoverSerialQuick_move (h : Service α π) (pc : Recovery) :
    h.toState.Move none (h.tryRecoverSerialQuick pc).1.toState := by
  cases pc with
  | readCom => exact .same none
  | isOpen com => exact .same none
  | openPort com => exact .same none
  | lastError => exact .same none
  | setCode message =>
    have hne : kRuntimeSerialNotConnected ≠ kSessionNotEstablished := by decide
    exact .runtime ⟨kRuntimeSerialNotConnected, message⟩ fun hc => absurd hc hne
  | recovered =>
    unfold tryRecoverSerialQuick
    simp only
    split_ifs with hu hs
    · exact .same none
    · exact .runtime ⟨kSessionNotEstablished, _⟩ fun _ => hs
    · have hne : kReady ≠ kSessionNotEstablished := by decide
      exact .runtime ⟨kReady, ""⟩ fun hc => absurd hc hne

/-- An admitted capture: it was armed, and either its command was sent or it was undone. -/
theorem sendCapture_cases (h : Service α π) (cid : UInt64) (request : CaptureRequest) (now : ℕ) :
    (h.sendCapture cid request now).1.toState = h.startAwaiting cid request ∧
      (h.sendCapture cid request now).2 = afterSend cid request now ∨
    (h.sendCapture cid request now).1.toState = (h.startAwaiting cid request).stopAwaiting ∧
      ∃ message, (h.sendCapture cid request now).2 = .reply ⟨⟨13, message⟩, 0, 0⟩ := by
  have hsend := sendProductionCommandOnlyLocked_toState
    (h.withState (h.startAwaiting cid request)) (productionCommand request.projectorOp)
  unfold sendCapture
  dsimp only
  rcases he : (h.withState (h.startAwaiting cid request)).sendProductionCommandOnlyLocked
    (productionCommand request.projectorOp) with ⟨h', err⟩
  rw [he] at hsend
  cases err with
  | some serr => exact .inr ⟨congrArg State.stopAwaiting hsend, _, rfl⟩
  | none => exact .inl ⟨hsend, rfl⟩

/-- `Capture` is refused, undone after a failed send, or left in flight. -/
theorem capture_cases (h : Service α π) (request : CaptureRequest) (now : ℕ) :
    ((h.capture request now).1.toState = h.toState ∨
        h.sessionId ≠ "" ∧ request.clientCaptureId = 0 ∧ (h.capture request now).1.toState =
          { h.toState with kAutoCapture := h.kAutoCapture + 1 }) ∧
      (∃ r, (h.capture request now).2 = .reply r) ∨
    h.toState.Admits request ∧
      ((h.capture request now).1.toState = h.toState.armed request ∧
          (h.capture request now).2 = afterSend (h.chooseId request).1 request now ∨
        (h.capture request now).1.toState = (h.toState.armed request).stopAwaiting ∧
          ∃ r, (h.capture request now).2 = .reply r) := by
  have hcount : h.sessionId ≠ "" → ({ h.toState with kAutoCapture := (h.chooseId request).2 } =
      h.toState ∨ h.sessionId ≠ "" ∧ request.clientCaptureId = 0 ∧
        { h.toState with kAutoCapture := (h.chooseId request).2 } =
          { h.toState with kAutoCapture := h.kAutoCapture + 1 }) := by
    intro hs
    unfold State.chooseId
    split_ifs with hid
    · exact .inr ⟨hs, hid, rfl⟩
    · exact .inl rfl
  unfold capture
  dsimp only
  split_ifs with hready hsession hwait hinline hopen
  · exact .inl ⟨.inl rfl, _, rfl⟩
  · exact .inl ⟨.inl rfl, _, rfl⟩
  · exact .inl ⟨hcount fun hs => hsession (.inl hs), _, rfl⟩
  · exact .inl ⟨hcount fun hs => hsession (.inl hs), _, rfl⟩
  · exact .inl ⟨hcount fun hs => hsession (.inl hs), _, rfl⟩
  · right
    obtain ⟨hs, hr⟩ := not_or.mp hsession
    refine ⟨⟨?_, ⟨hs, not_not.mp hr⟩, Bool.eq_false_iff.mpr hwait⟩, ?_⟩
    · intro hu
      by_contra hne
      exact hready ⟨hu, hne⟩
    · rcases sendCapture_cases
        (h.withState { h.toState with kAutoCapture := (h.chooseId request).2 })
        (h.chooseId request).1 request now with ⟨hst, hnext⟩ | ⟨hst, message, hnext⟩
      · exact .inl ⟨hst, hnext⟩
      · exact .inr ⟨hst, _, hnext⟩

theorem capture_move (h : Service α π) (request : CaptureRequest) (now : ℕ) :
    h.toState.Move (some request) (h.capture request now).1.toState := by
  rcases h.capture_cases request now with ⟨he | ⟨hs, hid, he⟩, _⟩ | ⟨hadm, ⟨he, _⟩ | ⟨he, _⟩⟩
  · exact he ▸ .same (some request)
  · exact he ▸ .counted request hid hs
  · exact he ▸ .armed request hadm
  · exact he ▸ .notSent request hadm

end Serial

variable [ICameraAdapter α] [ISerialPort π]

theorem resumeSession_toState (h : Service α π) : ∃ rt, (rt = h.hubRuntime ∨ rt.code = kReady) ∧
    h.resumeSession.1.toState = h.toState.resumed rt := by
  have hr := h.restoreActiveSessionLocked_toState
  unfold resumeSession
  rcases he : h.restoreActiveSessionLocked with ⟨h', err⟩
  rw [he] at hr
  cases err with
  | some err => exact ⟨h.hubRuntime, .inl rfl, hr⟩
  | none =>
    refine ⟨⟨kReady, ""⟩, .inr rfl, ?_⟩
    have hset : ((h'.setRuntime kReady "").afterSdkConnectSerialLocked).toState =
        { h'.toState with hubRuntime := ⟨kReady, ""⟩ } := sendSetCommandOnlyLocked_toState _ _
    have hr' : h'.toState = h.toState.resumed h.hubRuntime := hr
    rw [hr'] at hset
    exact hset

theorem connect_move (h : Service α π) : h.toState.Move none h.connect.1.toState := by
  unfold connect
  split_ifs with h1 h2 h3 h4
  · exact .same none
  · obtain ⟨rt, hrt, he⟩ := h.resumeSession_toState
    exact he ▸ .resumed rt hrt (.inl h2)
  · exact .same none
  · obtain ⟨rt, hrt, he⟩ := h.resumeSession_toState
    exact he ▸ .resumed rt hrt (.inr h4)
  · have he : h.afterSdkConnectSerialLocked.toState = h.toState := sendSetCommandOnlyLocked_toState _ _
    exact he ▸ .same none

theorem teardownSessionLocked_toState (h : Service α π) :
    h.teardownSessionLocked.toState = h.toState.released := by
  have he : h.beforeSdkDisconnectSerialLocked.toState = h.toState :=
    sendSetCommandOnlyLocked_toState _ _
  simp only [State.released, ← he]
  rfl

theorem disconnect_move (h : Service α π) (sessionId : String) :
    h.toState.Move none (h.disconnect sessionId).1.toState := by
  unfold disconnect
  split_ifs with hs
  · have he := h.teardownSessionLocked_toState
    exact he ▸ .released hs.1
  · exact .same none

/-- `Connect` leaves the state alone or lays the session out again. -/
theorem connect_toState (h : Service α π) :
    h.connect.1.toState = h.toState ∨ ∃ rt, h.connect.1.toState = h.toState.resumed rt := by
  unfold connect
  split_ifs
  · exact .inl rfl
  · obtain ⟨rt, _, he⟩ := h.resumeSession_toState
    exact .inr ⟨rt, he⟩
  · exact .inl rfl
  · obtain ⟨rt, _, he⟩ := h.resumeSession_toState
    exact .inr ⟨rt, he⟩
  · exact .inl (sendSetCommandOnlyLocked_toState _ _)

theorem disconnect_toState (h : Service α π) (sessionId : String) :
    (h.disconnect sessionId).1.toState = h.toState ∨
      (h.disconnect sessionId).1.toState = h.toState.released := by
  unfold disconnect
  split_ifs
  · exact .inr h.teardownSessionLocked_toState
  · exact .inl rfl

omit [ICameraAdapter α] in
/-- The recovery of the serial port only touches the port and the runtime state. -/
theorem tryRecoverSerialQuick_frame (h : Service α π) (pc : Recovery) :
    ∃ rt serial, (h.tryRecoverSerialQuick pc).1 = { h with hubRuntime := rt, serial := serial } := by
  cases pc with
  | recovered =>
    unfold tryRecoverSerialQuick
    dsimp only
    split_ifs
    · exact ⟨h.hubRuntime, h.serial, rfl⟩
    · exact ⟨_, h.serial, rfl⟩
    · exact ⟨_, h.serial, rfl⟩
  | openPort com => exact ⟨h.hubRuntime, _, rfl⟩
  | setCode message => exact ⟨_, h.serial, rfl⟩
  | readCom => exact ⟨h.hubRuntime, h.serial, rfl⟩
  | isOpen com => exact ⟨h.hubRuntime, h.serial, rfl⟩
  | lastError => exact ⟨h.hubRuntime, h.serial, rfl⟩

end Service

theorem captureWakeUp_move (s : State) (w : Waiter) (now : ℕ) :
    s.Move none (s.captureWakeUp w now).1 := by
  rcases s.captureWakeUp_cases w now with
    ⟨he, _⟩ | ⟨hw, _, he⟩ | ⟨_, _, _, he⟩ | ⟨_, _, he⟩
  · rw [he]
    exact .same none
  · rw [he]
    exact .timedOut hw
  · rw [he]
    exact .errorTaken
  · rw [he]
    exact .same none

def Rpc.request : Rpc → Option CaptureRequest
  | .capture request => some request
  | _ => none

def Task.request : Task → Option CaptureRequest
  | .body rpc => rpc.request
  | _ => none

namespace World
variable {α π θ : Type*}

/-- The request whose `Capture` the event lets run. -/
def request (w : World α π θ) : Event α π θ → Option CaptureRequest
  | .step id => (w.tasks id).bind Task.request
  | _ => none

theorem request_eq_some {w : World α π θ} {e : Event α π θ} {request : CaptureRequest}
    (h : w.request e = some request) :
    ∃ id, e = .step id ∧ w.tasks id = some (.body (.capture request)) := by
  cases e with
  | step id =>
    obtain ⟨task, htask, hr⟩ := Option.bind_eq_some_iff.mp h
    cases task with
    | recovering pc rpc => cases hr
    | waiting wt => cases hr
    | body rpc =>
      cases rpc with
      | capture r =>
        obtain rfl := Option.some.inj hr
        exact ⟨id, rfl, htask⟩
      | connect => cases hr
      | disconnect sessionId => cases hr
      | getDepth r => cases hr
      | serialWatchTick => cases hr
  | call id rpc => cases h
  | cameraFrame thread mid fb => cases h
  | portChanged port => cases h
  | cameraChanged mid adapter => cases h
  | tick => cases h

variable [ICameraAdapter α] [ISerialPort π] [DecidableEq θ]

omit [DecidableEq θ] in
theorem hubAfter_move (w : World α π θ) (task : Task) :
    w.hub.toState.Move task.request (w.hubAfter task).toState := by
  cases task with
  | recovering pc rpc => exact w.hub.tryRecoverSerialQuick_move pc
  | waiting waiter => exact captureWakeUp_move w.hub.toState waiter w.clock
  | body rpc =>
    cases rpc with
    | connect => exact w.hub.connect_move
    | disconnect sessionId => exact w.hub.disconnect_move sessionId
    | capture request => exact w.hub.capture_move request w.clock
    | getDepth request => exact .same none
    | serialWatchTick => exact .same none

theorem step_move (w : World α π θ) (e : Event α π θ) :
    (∃ thread mid fb, e = .cameraFrame thread mid fb) ∨
      w.hub.toState.Move (w.request e) (w.step e).hub.toState := by
  cases e with
  | cameraFrame thread mid fb => exact .inl ⟨thread, mid, fb, rfl⟩
  | call id rpc =>
    right
    dsimp only [step]
    cases w.tasks id with
    | none => exact .same none
    | some task => exact .same none
  | portChanged port => exact .inr (.same none)
  | cameraChanged mid adapter => exact .inr (.same none)
  | tick => exact .inr (.same none)
  | step id =>
    right
    rcases w.step_eq id with ⟨hnone, he⟩ | ⟨task, htask, he⟩
    · rw [he, request, hnone]
      exact .same none
    · rw [he, request, htask]
      exact w.hubAfter_move task

end World
end Camera3D.Hub
