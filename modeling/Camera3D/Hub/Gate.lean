import Camera3D.Hub.FailStop

/-! The two gates in front of the calls: the one that `Capture` has of its own, and
`FillUnifiedGateLocked`. -/
namespace Camera3D.Hub
open Camera Serial Ipc Transition HubServiceStateCode

namespace Service
variable {α π : Type*} [ICameraControls α] [ISerialPort π]

/-- Every call that needs a session replies the runtime state, and leaves the service as it is. -/
structure Uniform (h : Service α π) : Prop where
  capture : ∀ request now, h.capture request now = (h, .reply ⟨h.hubRuntime, 0, 0⟩)
  getDepth : ∀ request, h.getDepth request = { status := h.hubRuntime }
  answer : ∀ rq, (h.answer rq).1 = h ∧ (h.answer rq).2.status = h.hubRuntime

omit [ICameraControls α] [ISerialPort π] in
theorem gate_of_not_ready {h : Service α π} (hcode : h.hubRuntime.code ≠ kReady) :
    h.fillUnifiedGateLocked = some h.hubRuntime := if_pos hcode

theorem uniform_of_unified {h : Service α π} (hcode : h.hubRuntime.code ≠ kReady)
    (hunified : h.unifiedConfigMode = true) : h.Uniform := by
  have hgate := gate_of_not_ready hcode
  constructor
  case capture =>
    intro request now
    unfold Service.capture
    rw [if_pos ⟨hunified, hcode⟩]
  case getDepth =>
    intro request
    unfold State.getDepth
    rw [hgate]
  case answer => exact answer_of_gate hgate

end Service

/-- The codes of the runtime state of a hub that has started. -/
def runtimeCodes : List Int32 := [kReady, kRuntimeSerialNotConnected, kSessionNotEstablished]

section Codes
variable {α π : Type*} [ICameraAdapter α] [ISerialPort π]

omit [ICameraAdapter α] in
theorem Service.tryRecoverSerialQuick_runtime (h : Service α π) (pc : Recovery) :
    (h.tryRecoverSerialQuick pc).1.hubRuntime = h.hubRuntime ∨
      (h.tryRecoverSerialQuick pc).1.hubRuntime.code ∈ runtimeCodes := by
  cases pc with
  | readCom | isOpen | openPort | lastError => exact .inl rfl
  | setCode message => exact .inr (by simp [Service.tryRecoverSerialQuick, setRuntime, runtimeCodes])
  | recovered =>
    dsimp only [Service.tryRecoverSerialQuick]
    split_ifs
    · exact .inl rfl
    · exact .inr (by simp [setRuntime, runtimeCodes])
    · exact .inr (by simp [setRuntime, runtimeCodes])

theorem Service.connect_runtime (h : Service α π) :
    h.connect.1.hubRuntime = h.hubRuntime ∨ h.connect.1.hubRuntime.code ∈ runtimeCodes := by
  have hresume : h.resumeSession.1.hubRuntime = h.hubRuntime ∨
      h.resumeSession.1.hubRuntime.code ∈ runtimeCodes := by
    obtain ⟨rt, hrt, he⟩ := h.resumeSession_toState
    have hruntime : h.resumeSession.1.hubRuntime = rt := congrArg State.hubRuntime he
    rw [hruntime]
    exact hrt.imp_right fun hready => by simp [hready, runtimeCodes]
  unfold Service.connect
  split_ifs
  · exact .inl rfl
  · exact hresume
  · exact .inl rfl
  · exact hresume
  · exact .inl (congrArg State.hubRuntime (Service.sendSetCommandOnlyLocked_toState h kExitBlackToTest))

/-- A change keeps the runtime state, or sets one that does not end the service. -/
theorem Change.runtime {h h' : Service α π} {c : Cause} (hch : Change h c h') :
    h'.hubRuntime = h.hubRuntime ∨ h'.hubRuntime.code ∈ runtimeCodes := by
  rcases hch.cases with ⟨pc, _, rfl⟩ | rfl | ⟨sessionId, rfl⟩ | hsame
  · exact h.tryRecoverSerialQuick_runtime pc
  · exact h.connect_runtime
  · rcases h.disconnect_toState sessionId with he | he
    · exact .inl (congrArg State.hubRuntime he)
    · have hruntime : (h.disconnect sessionId).1.hubRuntime = h.toState.released.hubRuntime :=
        congrArg State.hubRuntime he
      rw [hruntime]
      exact .inr (by simp [State.released, runtimeCodes])
  · exact .inl (congrArg Service.SessionView.runtime hsame)

end Codes

namespace Server
variable {α π θ : Type*} [ICameraAdapter α] [ICameraControls α] [ISerialPort π] [DecidableEq θ]

theorem run_runtime {sv : Server α π θ}
    (h : sv.hub.hubRuntime.code ∈ startupFailureCodes ++ runtimeCodes) (es : List (ServerEvent α π θ)) :
    (run step sv es).hub.hubRuntime.code ∈ startupFailureCodes ++ runtimeCodes := by
  refine run_invariant (I := fun sv : Server α π θ =>
    sv.hub.hubRuntime.code ∈ startupFailureCodes ++ runtimeCodes) (fun sv e h => ?_) h es
  rcases (sv.step_change e).runtime with he | he
  · rw [he]
    exact h
  · exact List.mem_append_right _ he

theorem Reachable.runtime {sv : Server α π θ} (h : sv.Reachable) :
    sv.hub.hubRuntime.code ∈ startupFailureCodes ++ runtimeCodes := by
  obtain ⟨prototypes, port, b, cursor, es, rfl⟩ := h
  refine run_runtime ?_ es
  by_cases hfail : b.Failed (fresh prototypes port)
  · obtain ⟨rt, hstop⟩ := booted_stopped prototypes port hfail cursor
    rw [hstop.hub.runtime]
    exact List.mem_append_left _ hstop.hub.failed
  · obtain ⟨_, _, _, _, _, hready⟩ := Boot.exists_started hfail
    have hcode : (booted prototypes port b cursor : Server α π θ).hub.hubRuntime.code = kReady := hready
    rw [hcode]
    exact List.mem_append_right _ List.mem_cons_self

/-- After a failed start-up `Capture` replies that the session is invalid. -/
theorem unified_of_uniform {sv : Server α π θ} (hr : sv.Reachable) (huniform : sv.hub.Uniform) :
    sv.hub.unifiedConfigMode = true := by
  rcases hr.stopped_or_presets with ⟨rt, hstop⟩ | hpresets
  · have hcapture := huniform.capture { sessionId := "" } 0
    rw [Service.capture_of_failStopped hstop.hub] at hcapture
    have hstatus : (⟨3, "invalid session"⟩ : Status) = sv.hub.hubRuntime := by
      injection hcapture with _ hreply
      injection hreply with hreply
      injection hreply
    have hne : sv.hub.hubRuntime.code ≠ 3 := hstop.hub.code_ne (by decide)
    exact absurd (congrArg Status.code hstatus.symm) hne
  · exact hr.sound.unified hpresets

/-- While the hub is not ready the calls report its state the same way exactly when it has been
started from a configuration. -/
theorem uniform_iff_unified {sv : Server α π θ} (hr : sv.Reachable)
    (hcode : sv.hub.hubRuntime.code ≠ kReady) :
    sv.hub.Uniform ↔ sv.hub.unifiedConfigMode = true :=
  ⟨unified_of_uniform hr, Service.uniform_of_unified hcode⟩

/-- The session of the bench has been released. -/
def releasedEvents : List (ServerEvent ReadyCamera EchoPort Bool) :=
  [.world (.call 0 (.disconnect "cam-1")), .world (.step 0)]

theorem uniform_iff_unified_released :
    let sv : Server ReadyCamera EchoPort Bool := run step { world := bench oneCamera } releasedEvents
    sv.hub.hubRuntime.code = kSessionNotEstablished ∧
      (sv.hub.Uniform ↔ sv.hub.unifiedConfigMode = true) := by
  intro sv
  have hcode : sv.hub.hubRuntime.code = kSessionNotEstablished := by decide +kernel
  have hreach : sv.Reachable := ⟨_, _, _, _, releasedEvents, rfl⟩
  have hready : sv.hub.hubRuntime.code ≠ kReady := by
    rw [hcode]
    decide
  exact ⟨hcode, uniform_iff_unified hreach hready⟩

/-- The configuration file is missing. -/
theorem capture_hides_startup_failure : ¬ ∀ sv : Server ReadyCamera EchoPort Bool, sv.Reachable →
    sv.hub.hubRuntime.code ≠ kReady → sv.hub.Uniform := by
  intro hall
  let sv : Server ReadyCamera EchoPort Bool :=
    booted ∅ {} (.configFileNotFound "hub config file not found or inaccessible: hub_service.json")
      fun _ => 0
  have hreach : sv.Reachable := ⟨_, _, _, _, [], rfl⟩
  have hcode : sv.hub.hubRuntime.code ≠ kReady := by decide +kernel
  have hunified := unified_of_uniform hreach (hall sv hreach hcode)
  revert hunified
  decide +kernel

end Server
end Camera3D.Hub
