import Camera3D.Hub.Server

/-! Which changes of the service touch its session: `Connect`, `Disconnect` and the recovery of the
serial port. -/
namespace Camera3D.Hub
open Camera Serial HubServiceStateCode

namespace Service
variable {α π : Type*}

/-- The session, the runtime state and what start-up laid down. -/
structure SessionView where
  sessionId : String
  devices : List String
  layout : List CameraRawShmSlot
  runtime : Status
  presets : List HubPresetCamera
  com : UInt32
  unified : Bool
  orchestrator : Option String
  multiOrchestrator : Option (List String)

def session (h : Service α π) : SessionView where
  sessionId := h.sessionId
  devices := h.sessionDevicesOrdered
  layout := h.sessionSlotLayout
  runtime := h.hubRuntime
  presets := h.presetCameras
  com := h.startupSerialComMain
  unified := h.unifiedConfigMode
  orchestrator := h.orchestrator
  multiOrchestrator := h.multiOrchestrator

theorem session_onCameraFrame (h : Service α π) (sNext : UInt32) (mid : String) (fb : FrameBuffer) :
    (h.withState (h.onCameraFrame sNext mid fb).1).session = h.session := by
  rcases h.onCameraFrame_cases sNext mid fb with ⟨he, _⟩ | ⟨_, _, ⟨_, he⟩ | ⟨_, he⟩⟩
  · rw [he]
    rfl
  · rw [he]
    rfl
  · rw [he]
    unfold State.completeCapture
    rcases (h.pushFrame mid fb).writeSnapshot sNext with ⟨w, result⟩
    cases result with
    | error werr => rfl
    | ok pub => rfl

theorem session_captureWakeUp (h : Service α π) (wt : Waiter) (now : ℕ) :
    (h.withState (h.captureWakeUp wt now).1).session = h.session := by
  rcases h.captureWakeUp_cases wt now with ⟨he, _⟩ | ⟨_, _, he⟩ | ⟨_, _, _, he⟩ | ⟨_, _, he⟩
  · rw [he]
    rfl
  · rw [he]
    rfl
  · rw [he]
    rfl
  · rw [he]
    rfl

section Serial
variable [ISerialPort π]

/-- The service with another port behind its serial manager. -/
def withPort (h : Service α π) (port : π) : Service α π :=
  { h with serial := { h.serial with port } }

theorem sendProductionCommandOnlyLocked_frame (h : Service α π) (cmd : Command) :
    ∃ port, (h.sendProductionCommandOnlyLocked cmd).1 = h.withPort port := by
  have honly : ∃ port, (h.sendProductionCommandOnly cmd).1 = h.withPort port := by
    unfold sendProductionCommandOnly
    split_ifs with hopen
    · exact ⟨h.serial.port, rfl⟩
    · refine ⟨(sendProductionCommand h.serial.port cmd 3000).1, ?_⟩
      dsimp only
      split_ifs <;> rfl
  unfold sendProductionCommandOnlyLocked
  split
  · exact honly
  · exact honly
  · exact ⟨h.serial.port, rfl⟩

theorem sendSetCommandOnlyLocked_frame (h : Service α π) (cmd : Command) :
    ∃ port, (h.sendSetCommandOnlyLocked cmd).1 = h.withPort port := by
  unfold sendSetCommandOnlyLocked
  split_ifs with hopen
  · exact ⟨h.serial.port, rfl⟩
  · refine ⟨(sendSetCommand h.serial.port cmd 3000).1, ?_⟩
    dsimp only
    split_ifs <;> rfl

theorem sendCapture_frame (h : Service α π) (cid : UInt64) (request : CaptureRequest) (now : ℕ) :
    ∃ s port, (h.sendCapture cid request now).1 = (h.withState s).withPort port := by
  unfold sendCapture
  dsimp only
  obtain ⟨port, hport⟩ := (h.withState (h.startAwaiting cid request)).sendProductionCommandOnlyLocked_frame
    (productionCommand request.projectorOp)
  rcases he : (h.withState (h.startAwaiting cid request)).sendProductionCommandOnlyLocked
    (productionCommand request.projectorOp) with ⟨h', err⟩
  rw [he] at hport
  obtain rfl : h' = _ := hport
  cases err with
  | none => exact ⟨_, port, rfl⟩
  | some serr => exact ⟨_, port, rfl⟩

/-- `Capture` leaves the cameras and the orchestrators alone. -/
theorem capture_frame (h : Service α π) (request : CaptureRequest) (now : ℕ) :
    ∃ s port, (h.capture request now).1 = (h.withState s).withPort port := by
  unfold capture
  dsimp only
  split_ifs
  · exact ⟨h.toState, h.serial.port, rfl⟩
  · exact ⟨h.toState, h.serial.port, rfl⟩
  · exact ⟨_, h.serial.port, rfl⟩
  · exact ⟨_, h.serial.port, rfl⟩
  · exact ⟨_, h.serial.port, rfl⟩
  · obtain ⟨s, port, he⟩ := (h.withState { h.toState with
      kAutoCapture := (h.chooseId request).2 }).sendCapture_frame (h.chooseId request).1 request now
    exact ⟨s, port, he⟩

theorem session_capture (h : Service α π) (request : CaptureRequest) (now : ℕ) :
    (h.capture request now).1.session = h.session := by
  obtain ⟨s, port, he⟩ := h.capture_frame request now
  have hs : (h.capture request now).1.toState = s := congrArg (fun h : Service α π => h.toState) he
  rw [he]
  rcases h.capture_cases request now with ⟨hst | ⟨_, _, hst⟩, _⟩ | ⟨_, ⟨hst, _⟩ | ⟨hst, _⟩⟩
  · obtain rfl := hs.symm.trans hst
    rfl
  · obtain rfl := hs.symm.trans hst
    rfl
  · obtain rfl := hs.symm.trans hst
    rfl
  · obtain rfl := hs.symm.trans hst
    rfl

end Serial
end Service

variable {α π : Type*} [ICameraAdapter α] [ISerialPort π]

/-- A change is a step of the recovery, a `Connect` or a `Disconnect`, or it leaves the session as it
is. -/
theorem Change.cases {h h' : Service α π} {c : Cause} (hch : Change h c h') :
    (∃ pc, c = .recovery pc ∧ h' = (h.tryRecoverSerialQuick pc).1) ∨ h' = h.connect.1 ∨
      (∃ sessionId, h' = (h.disconnect sessionId).1) ∨ h'.session = h.session := by
  cases hch with
  | recovery pc => exact .inl ⟨pc, rfl, rfl⟩
  | connect => exact .inr (.inl rfl)
  | disconnect sessionId => exact .inr (.inr (.inl ⟨sessionId, rfl⟩))
  | capture request now => exact .inr (.inr (.inr (h.session_capture request now)))
  | wakeUp wt now => exact .inr (.inr (.inr (h.session_captureWakeUp wt now)))
  | cameraFrame sNext mid fb => exact .inr (.inr (.inr (h.session_onCameraFrame sNext mid fb)))
  | port port => exact .inr (.inr (.inr rfl))
  | cameras cameras hdevices => exact .inr (.inr (.inr rfl))

/-- What start-up laid down stays as it is. -/
structure Service.Configured (h h' : Service α π) : Prop where
  presets : h'.presetCameras = h.presetCameras
  com : h'.startupSerialComMain = h.startupSerialComMain
  unified : h'.unifiedConfigMode = h.unifiedConfigMode

theorem Change.configured {h h' : Service α π} {c : Cause} (hch : Change h c h') : h.Configured h' := by
  have hstate : ∀ s : State, h'.toState = s → s.presetCameras = h.presetCameras →
      s.startupSerialComMain = h.startupSerialComMain →
      s.unifiedConfigMode = h.unifiedConfigMode → h.Configured h' := by
    intro s hs hp hcom hu
    exact ⟨hs ▸ hp, hs ▸ hcom, hs ▸ hu⟩
  rcases hch.cases with ⟨pc, _, rfl⟩ | rfl | ⟨sessionId, rfl⟩ | hsame
  · obtain ⟨rt, serial, he⟩ := h.tryRecoverSerialQuick_frame pc
    exact hstate { h.toState with hubRuntime := rt } (congrArg (fun h : Service α π => h.toState) he)
      rfl rfl rfl
  · rcases h.connect_toState with he | ⟨rt, he⟩
    · exact hstate _ he rfl rfl rfl
    · exact hstate _ he rfl rfl rfl
  · rcases h.disconnect_toState sessionId with he | he
    · exact hstate _ he rfl rfl rfl
    · exact hstate _ he rfl rfl rfl
  · exact ⟨congrArg Service.SessionView.presets hsame, congrArg Service.SessionView.com hsame,
      congrArg Service.SessionView.unified hsame⟩

end Camera3D.Hub
