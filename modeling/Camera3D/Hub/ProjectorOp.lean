import Camera3D.Hub.Capture
import Camera3D.Serial.Recorded

/-! What a `Capture` writes to the projector, for every value of `projector_op`. -/
namespace Camera3D.Hub
open Camera Serial HubServiceStateCode

namespace Service
variable {α π : Type*} [ISerialPort π]

/-- `Capture` gets as far as the serial port. -/
structure Reaches (h : Service α π) (request : CaptureRequest) : Prop where
  ready : ¬ (h.unifiedConfigMode ∧ h.hubRuntime.code ≠ kReady)
  session : ¬ (h.sessionId = "" ∨ request.sessionId ≠ h.sessionId)
  free : ¬ h.awaitingFrame
  tests : ¬ (request.testInlineImageReply ∧ request.testReconShmLoopback)
  isOpen : h.serial.isOpen = true
  armed : h.multiOrchestrator ≠ none ∨ h.orchestrator ≠ none

/-- What a capture writes is the row of the value that was asked for, or it writes nothing and is
refused. -/
def NotReinterpreted (h : Service α (Recorded π)) (request : CaptureRequest) (now : ℕ) : Prop :=
  ∃ events, (h.capture request now).1.serial.port.events = h.serial.port.events ++ events ∧
    ((written events = [] ∧ ∃ rep, (h.capture request now).2 = .reply rep ∧ rep.status.code ≠ 0) ∨
      ∃ row, kProductionWire[request.projectorOp.toNat]? = some row ∧ written events = [row])

theorem productionCommand_toNat (op : UInt32) : (productionCommand op).toNat = op.toNat % 256 := by
  unfold productionCommand
  split_ifs with h
  · rw [h]
    rfl
  · exact UInt32.toNat_toUInt8 op

theorem sendProductionCommandOnlyLocked_armed {h : Service α π}
    (harmed : h.multiOrchestrator ≠ none ∨ h.orchestrator ≠ none) (cmd : Command) :
    h.sendProductionCommandOnlyLocked cmd = h.sendProductionCommandOnly cmd := by
  unfold sendProductionCommandOnlyLocked
  split
  · rfl
  · rfl
  · next hmulti hone => exact absurd harmed (not_or.mpr ⟨not_not.mpr hmulti, not_not.mpr hone⟩)

theorem sendProductionCommandOnlyLocked_bare {h : Service α π}
    (hbare : ¬ (h.multiOrchestrator ≠ none ∨ h.orchestrator ≠ none)) (cmd : Command) :
    h.sendProductionCommandOnlyLocked cmd = (h, some "no orchestrator") := by
  push Not at hbare
  unfold sendProductionCommandOnlyLocked
  rw [hbare.1, hbare.2]

theorem sendProductionCommandOnly_open {h : Service α π}
    (hopen : ISerialPort.isOpen h.serial.port = true) (cmd : Command) :
    h.sendProductionCommandOnly cmd =
      ({ h with serial := { h.serial with port := (sendProductionCommand h.serial.port cmd 3000).1 } },
        if (sendProductionCommand h.serial.port cmd 3000).2.ok then none
        else some (sendProductionCommand h.serial.port cmd 3000).2.message) := by
  unfold sendProductionCommandOnly
  rw [if_neg (by rw [hopen]; decide)]
  dsimp only
  split_ifs <;> rfl

/-- A capture that does not reach the port is refused. -/
theorem capture_of_not_reaches {h : Service α π} {request : CaptureRequest}
    (hnot : ¬ h.Reaches request) (now : ℕ) :
    (h.capture request now).1.serial = h.serial ∧
      ∃ rep, (h.capture request now).2 = .reply rep ∧ rep.status.code ≠ 0 := by
  unfold capture
  dsimp only
  split_ifs with hready hsession hfree htests hopen
  · exact ⟨rfl, _, rfl, hready.2⟩
  · exact ⟨rfl, _, rfl, by decide⟩
  · exact ⟨rfl, _, rfl, by decide⟩
  · exact ⟨rfl, _, rfl, by decide⟩
  · exact ⟨rfl, _, rfl, by decide⟩
  · have hopen' : h.serial.isOpen = true :=
      Bool.eq_true_of_not_eq_false fun hclosed => hopen (congrArg (!·) hclosed)
    have hbare : ¬ (h.multiOrchestrator ≠ none ∨ h.orchestrator ≠ none) := fun harmed =>
      hnot ⟨hready, hsession, hfree, htests, hopen', harmed⟩
    unfold sendCapture
    dsimp only
    rw [sendProductionCommandOnlyLocked_bare (by exact hbare)]
    exact ⟨rfl, _, rfl, by decide⟩

/-- One that does hands the port to the projector's command; it is refused if that fails. -/
theorem capture_of_reaches {h : Service α π} {request : CaptureRequest} (hr : h.Reaches request)
    (now : ℕ) :
    (h.capture request now).1.serial.port =
        (sendProductionCommand h.serial.port (productionCommand request.projectorOp) 3000).1 ∧
      ((sendProductionCommand h.serial.port (productionCommand request.projectorOp) 3000).2.ok =
        false → ∃ rep, (h.capture request now).2 = .reply rep ∧ rep.status.code ≠ 0) := by
  have hopen : ISerialPort.isOpen h.serial.port = true := hr.isOpen
  have hopen' : ¬ ((!h.serial.isOpen) = true) := by simp [hr.isOpen]
  unfold capture
  rw [if_neg hr.ready, if_neg hr.session]
  dsimp only
  rw [if_neg (by exact hr.free), if_neg hr.tests, if_neg (by exact hopen')]
  unfold sendCapture
  dsimp only
  rw [sendProductionCommandOnlyLocked_armed (by exact hr.armed)]
  rw [sendProductionCommandOnly_open (by exact hopen)]
  cases hok : (sendProductionCommand h.serial.port (productionCommand request.projectorOp) 3000).2.ok with
  | false =>
    simp only [withState, hok, Bool.false_eq_true, if_false]
    have hthirteen : (13 : Int32) ≠ 0 := by decide
    exact ⟨trivial, fun _ => ⟨_, rfl, hthirteen⟩⟩
  | true =>
    simp only [withState, hok, if_true]
    exact ⟨trivial, fun hfailed => by cases hfailed⟩

/-- Of the values whose command is sent, those below 4 are sent as their row. -/
theorem frame_is_row_iff {op : UInt32} (hknown : op.toNat % 256 < 5) :
    (∃ row, kProductionWire[op.toNat]? = some row ∧
      [productionFrame (productionCommand op)] = [row]) ↔ op.toNat < 4 := by
  have hcommand : (productionCommand op).toNat < 5 := by
    rw [productionCommand_toNat]
    exact hknown
  have hrow := getElem?_productionWire hcommand
  constructor
  · rintro ⟨row, hop, hframe⟩
    obtain ⟨hlt, _⟩ := List.getElem?_eq_some_iff.mp hop
    have hlength : kProductionWire.length = 5 := rfl
    have hsame : (productionCommand op).toNat = op.toNat := by
      rw [productionCommand_toNat]
      omega
    rw [← hsame, hrow] at hop
    obtain rfl := Option.some.inj hop
    exact hsame ▸ (productionFrame_eq_iff hcommand).mp (List.cons.inj hframe).1
  · intro hfour
    have hsame : (productionCommand op).toNat = op.toNat := by
      rw [productionCommand_toNat]
      omega
    rw [hsame] at hrow
    exact ⟨_, hrow, congrArg ([·]) ((productionFrame_eq_iff hcommand).mpr (hsame ▸ hfour))⟩

/-- Over all layers, the values that are sent as documented or refused are those below 4 and those
whose last byte is no command. -/
theorem notReinterpreted_iff (h : Service α (Recorded π)) (request : CaptureRequest) (now : ℕ) :
    h.NotReinterpreted request now ↔
      (h.Reaches request →
        request.projectorOp.toNat < 4 ∨ 5 ≤ request.projectorOp.toNat % 256) := by
  by_cases hr : h.Reaches request
  · obtain ⟨hport, hrefused⟩ := capture_of_reaches hr now
    obtain ⟨events, hevents, hwritten⟩ := sendProductionCommand_written
      (r := h.serial.port) hr.isOpen (productionCommand request.projectorOp) 3000
    rw [productionCommand_toNat] at hwritten
    rw [← hport] at hevents
    have hnew : ∀ events', (h.capture request now).1.serial.port.events =
        h.serial.port.events ++ events' → events' = events := fun events' he =>
      List.append_cancel_left (he.symm.trans hevents)
    by_cases hknown : request.projectorOp.toNat % 256 < 5
    · rw [if_pos hknown] at hwritten
      constructor
      · rintro ⟨events', he, ⟨hnothing, _⟩ | hrow⟩ _
        · rw [hnew events' he, hwritten] at hnothing
          cases hnothing
        · rw [hnew events' he, hwritten] at hrow
          exact .inl ((frame_is_row_iff hknown).mp hrow)
      · intro hbound
        have hfour : request.projectorOp.toNat < 4 := by
          rcases hbound hr with hfour | hunknown
          · exact hfour
          · omega
        refine ⟨events, hevents, .inr ?_⟩
        rw [hwritten]
        exact (frame_is_row_iff hknown).mpr hfour
    · rw [if_neg hknown] at hwritten
      have hunknown : (sendProductionCommand h.serial.port
          (productionCommand request.projectorOp) 3000).2.ok = false :=
        sendProductionCommand_of_not_ready (.inl (by rw [productionCommand_toNat]; omega))
      refine iff_of_true ⟨events, hevents, .inl ⟨hwritten, hrefused hunknown⟩⟩ ?_
      exact fun _ => .inr (by omega)
  · obtain ⟨hserial, hrefused⟩ := capture_of_not_reaches hr now
    refine iff_of_true ⟨[], ?_, .inl ⟨rfl, hrefused⟩⟩ (absurd · hr)
    rw [hserial, List.append_nil]

/-- A ready hub with one camera and the projector at its port. -/
def armedHub : Service ReadyCamera (Recorded EchoPort) where
  sessionId := "cam-1"
  sessionDevicesOrdered := ["cam-1"]
  hubRuntime := ⟨0, ""⟩
  cameras := { open_ := AList.insert "cam-1" ⟨"cam-1", {}, {}⟩ ∅ }
  serial := ⟨⟨{}, []⟩, ""⟩
  orchestrator := some "cam-1"

theorem armedHub_reaches (op : UInt32) :
    armedHub.Reaches { sessionId := "cam-1", async := true, projectorOp := op } := by
  constructor
  · simp [armedHub]
  · simp [armedHub]
  · simp [armedHub]
  · simp
  · rfl
  · simp [armedHub]

/-- 256 is the value of no command, and is sent as command 0. -/
theorem op256_reinterpreted :
    ¬ ∀ (request : CaptureRequest) (now : ℕ), armedHub.NotReinterpreted request now := by
  intro hall
  obtain ⟨events, hevents, ⟨hnothing, _⟩ | ⟨row, hrow, _⟩⟩ :=
    hall { sessionId := "cam-1", async := true, projectorOp := 256 } 0
  · have hreaches := armedHub_reaches 256
    obtain ⟨hport, _⟩ := capture_of_reaches hreaches 0
    obtain ⟨events', hevents', hwritten⟩ := sendProductionCommand_written
      (r := armedHub.serial.port) hreaches.isOpen (productionCommand 256) 3000
    rw [hport, hevents'] at hevents
    obtain rfl := List.append_cancel_left hevents
    rw [hnothing] at hwritten
    revert hwritten
    decide
  · have hnone : kProductionWire[256]? = none := rfl
    exact Option.some_ne_none row (hrow.symm.trans hnone)

end Service
end Camera3D.Hub
