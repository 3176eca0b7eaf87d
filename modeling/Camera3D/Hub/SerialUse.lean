import Camera3D.Hub.FailStop
import Camera3D.Serial.Handshake

/-! The serial port in the hands of the hub. Only the recovery opens it; the other calls send commands
on it, and they set no runtime state that says it is lost. -/
namespace Camera3D.Hub
open Camera Serial Ipc Transition HubServiceStateCode

namespace Service
variable {α π : Type*} [ISerialPort π] {I : π → Prop}

/-- The port behind the serial manager. -/
def port (h : Service α π) : π := h.serial.port

theorem keeps_sendProductionCommandOnlyLocked (hI : KeptByIO I) {h : Service α π} (hp : I h.port)
    (cmd : Command) : I (h.sendProductionCommandOnlyLocked cmd).1.port := by
  have honly : I (h.sendProductionCommandOnly cmd).1.port := by
    have hsend := hI.sendProductionCommand hp cmd 3000
    unfold sendProductionCommandOnly
    dsimp only
    split_ifs
    · exact hp
    · exact hsend
    · exact hsend
  unfold sendProductionCommandOnlyLocked
  split
  · exact honly
  · exact honly
  · exact hp

theorem keeps_sendSetCommandOnlyLocked (hI : KeptByIO I) {h : Service α π} (hp : I h.port)
    (cmd : Command) : I (h.sendSetCommandOnlyLocked cmd).1.port := by
  have hsend := hI.sendSetCommand hp cmd 3000
  unfold sendSetCommandOnlyLocked
  dsimp only
  split_ifs
  · exact hp
  · exact hsend
  · exact hsend
  · exact hsend

theorem keeps_sendCapture (hI : KeptByIO I) {h : Service α π} (hp : I h.port) (cid : UInt64)
    (request : CaptureRequest) (now : ℕ) : I (h.sendCapture cid request now).1.port := by
  have hsend := keeps_sendProductionCommandOnlyLocked hI
    (h := h.withState (h.startAwaiting cid request)) hp (productionCommand request.projectorOp)
  unfold sendCapture
  dsimp only
  rcases he : (h.withState (h.startAwaiting cid request)).sendProductionCommandOnlyLocked
    (productionCommand request.projectorOp) with ⟨h', _ | serr⟩
  · rw [he] at hsend
    exact hsend
  · rw [he] at hsend
    exact hsend

theorem keeps_capture (hI : KeptByIO I) {h : Service α π} (hp : I h.port) (request : CaptureRequest)
    (now : ℕ) : I (h.capture request now).1.port := by
  unfold capture
  dsimp only
  split_ifs
  · exact hp
  · exact hp
  · exact hp
  · exact hp
  · exact hp
  · exact keeps_sendCapture hI
      (h := h.withState { h.toState with kAutoCapture := (h.chooseId request).2 }) hp _ request now

variable [ICameraAdapter α]

omit [ISerialPort π] in
theorem serial_prepareHardwareTriggerLocked (h : Service α π) :
    h.prepareHardwareTriggerLocked.1.serial = h.serial := by
  rcases h.prepareHardwareTriggerLocked_cases with
    ⟨_, he⟩ | ⟨_, ⟨_, _, _, he⟩ | ⟨_, _, ⟨_, _, he⟩ | ⟨_, he⟩⟩⟩
  all_goals
    rw [he]
    rfl

omit [ISerialPort π] in
theorem serial_restoreActiveSessionLocked (h : Service α π) :
    h.restoreActiveSessionLocked.1.serial = h.serial := by
  unfold restoreActiveSessionLocked
  dsimp only
  split_ifs
  · rfl
  · exact serial_prepareHardwareTriggerLocked _

theorem keeps_connect (hI : KeptByIO I) {h : Service α π} (hp : I h.port) : I h.connect.1.port := by
  have hresume : I h.resumeSession.1.port := by
    have hserial := h.serial_restoreActiveSessionLocked
    unfold resumeSession
    rcases he : h.restoreActiveSessionLocked with ⟨h', _ | err⟩
    · rw [he] at hserial
      apply keeps_sendSetCommandOnlyLocked hI
      show I h'.serial.port
      rw [hserial]
      exact hp
    · rw [he] at hserial
      show I h'.serial.port
      rw [hserial]
      exact hp
  unfold connect
  split_ifs
  · exact hp
  · exact hresume
  · exact hp
  · exact hresume
  · exact keeps_sendSetCommandOnlyLocked hI hp _

theorem keeps_disconnect (hI : KeptByIO I) {h : Service α π} (hp : I h.port) (sessionId : String) :
    I (h.disconnect sessionId).1.port := by
  unfold disconnect
  split_ifs
  · exact keeps_sendSetCommandOnlyLocked hI hp _
  · exact hp

end Service

section Changes
variable {α π : Type*} [ICameraAdapter α] [ISerialPort π] {h h' : Service α π}

theorem Change.eq_of_recovery {pc : Recovery} (hch : Change h (.recovery pc) h') :
    h' = (h.tryRecoverSerialQuick pc).1 := by
  cases hch
  rfl

/-- A step that is none of the recovery leaves the port as writing, reading and waiting do. -/
theorem Change.keeps_port (hch : Change h .other h') {I : π → Prop} (hI : KeptByIO I)
    (hp : I h.port) : I h'.port := by
  cases hch with
  | connect => exact Service.keeps_connect hI hp
  | disconnect sessionId => exact Service.keeps_disconnect hI hp sessionId
  | capture request now => exact Service.keeps_capture hI hp request now
  | wakeUp | cameraFrame | cameras => exact hp

/-- A step that is none of the recovery does not report the port lost. -/
theorem Change.code_of_other (hch : Change h .other h')
    (hcode : h'.hubRuntime.code = kRuntimeSerialNotConnected) :
    h.hubRuntime.code = kRuntimeSerialNotConnected := by
  have hresume : h.resumeSession.1.hubRuntime.code = kRuntimeSerialNotConnected →
      h.hubRuntime.code = kRuntimeSerialNotConnected := by
    intro hlost
    obtain ⟨rt, hrt, he⟩ := h.resumeSession_toState
    have hrt' : h.resumeSession.1.hubRuntime = rt := congrArg State.hubRuntime he
    rw [hrt'] at hlost
    rcases hrt with rfl | hready
    · exact hlost
    · exact absurd (hready.symm.trans hlost) (by decide)
  rcases hch.cases with ⟨pc, hpc, _⟩ | rfl | ⟨sessionId, rfl⟩ | hsame
  · cases hpc
  · unfold Service.connect at hcode
    split_ifs at hcode with hserial
    · exact hserial
    · exact hresume hcode
    · exact hcode
    · exact hresume hcode
    · have he : h.afterSdkConnectSerialLocked.toState = h.toState :=
        Service.sendSetCommandOnlyLocked_toState _ _
      rw [← he]
      exact hcode
  · rcases h.disconnect_toState sessionId with he | he
    · rw [← he]
      exact hcode
    · rw [he] at hcode
      have hreleased : (kSessionNotEstablished : Int32) = kRuntimeSerialNotConnected := hcode
      exact absurd hreleased (by decide)
  · have hruntime : h'.hubRuntime = h.hubRuntime := congrArg Service.SessionView.runtime hsame
    rw [← hruntime]
    exact hcode

end Changes
end Camera3D.Hub
