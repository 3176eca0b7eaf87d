import Camera3D.Hub.Changes

/-! A start-up that fails: nothing that comes later brings the hub back, and the serial port is left
alone. -/
namespace Camera3D.Hub
open Camera Serial Ipc Transition HubServiceStateCode

/-- The codes that a failed start-up leaves in the runtime state. -/
def startupFailureCodes : List Int32 :=
  [kConfigInvalid, kCameraInitFailed, kSerialInitFailed, kShmInitFailed, kOrchestratorInitFailed,
    kConfigFileNotFound]

/-- The hub after a start-up that failed with the runtime state `rt`. -/
structure FailStopped (rt : Status) (s : State) : Prop where
  runtime : s.hubRuntime = rt
  failed : rt.code ∈ startupFailureCodes
  sessionId : s.sessionId = ""
  presets : s.presetCameras = []
  com : s.startupSerialComMain = 0
  unified : s.unifiedConfigMode = false
  store : s.store = {}
  awaiting : s.awaitingFrame = false

theorem FailStopped.code_ne {rt : Status} {s : State} (h : FailStopped rt s) {c : Int32}
    (hc : c ∉ startupFailureCodes) : s.hubRuntime.code ≠ c := by
  intro heq
  rw [h.runtime] at heq
  exact hc (heq ▸ h.failed)

namespace Service
variable {α π : Type*} [ICameraAdapter α] [ISerialPort π]

omit [ICameraAdapter α] [ISerialPort π] in
theorem capture_of_failStopped [ISerialPort π] {rt : Status} {h : Service α π}
    (hf : FailStopped rt h.toState) (request : CaptureRequest) (now : ℕ) :
    h.capture request now = (h, .reply ⟨⟨3, "invalid session"⟩, 0, 0⟩) := by
  have hgate : ¬ (h.unifiedConfigMode = true ∧ h.hubRuntime.code ≠ kReady) := by
    rw [hf.unified]
    exact fun hgate => Bool.false_ne_true hgate.1
  unfold capture
  rw [if_neg hgate, if_pos (.inl hf.sessionId)]

theorem connect_of_failStopped {rt : Status} {h : Service α π} (hf : FailStopped rt h.toState) :
    h.connect = (h, ⟨rt, ""⟩) := by
  have hserial : h.hubRuntime.code ≠ kRuntimeSerialNotConnected := hf.code_ne (by decide)
  have hreleased : h.hubRuntime.code ≠ kSessionNotEstablished := hf.code_ne (by decide)
  have hready : h.hubRuntime.code ≠ kReady := hf.code_ne (by decide)
  unfold connect
  rw [if_neg hserial, if_neg hreleased, if_pos hready, hf.runtime]

theorem disconnect_of_failStopped {rt : Status} {h : Service α π} (hf : FailStopped rt h.toState)
    (sessionId : String) : (h.disconnect sessionId).1 = h := by
  unfold disconnect
  rw [if_neg fun hs => hs.1 hf.sessionId]

theorem rollback_failStopped (h : Service α π) {code : Int32} (hcode : code ∈ startupFailureCodes)
    (message : String) : ∃ rt,
      FailStopped rt (h.setRuntime code message).rollbackUnifiedStartupLocked.toState :=
  ⟨⟨code, message⟩, rfl, hcode, rfl, rfl, rfl, rfl, rfl, rfl⟩

theorem openCameras_failStopped {nodes : List HubFileCameraNode} {h : Service α π} {err : String}
    (herr : (openCameras nodes h).2 = some err) :
    ∃ rt, FailStopped rt (openCameras nodes h).1.toState := by
  induction nodes generalizing h with
  | nil => cases herr
  | cons node nodes ih =>
    unfold openCameras at herr ⊢
    dsimp only at herr ⊢
    split_ifs at herr ⊢ with hmid
    · exact rollback_failStopped _ (by decide) _
    · exact ih herr

theorem startSession_failStopped {h : Service α π} {fc : HubFileConfig} {boost : BoostOutcome}
    {err : String} (herr : (h.startSession fc boost).2 = some err) :
    ∃ rt, FailStopped rt (h.startSession fc boost).1.toState := by
  unfold startSession at herr ⊢
  dsimp only at herr ⊢
  split_ifs at herr ⊢ with hcom hserial hshm
  · exact rollback_failStopped _ (by decide) _
  · exact rollback_failStopped _ (by decide) _
  · exact rollback_failStopped _ (by decide) _
  · split at herr
    next laid err hprep => exact rollback_failStopped _ (by decide) _
    next laid hprep => cases herr

/-- A start-up that fails is rolled back. -/
theorem unifiedStartupFromConfig_failStopped {h : Service α π} {fc : HubFileConfig}
    {boost : BoostOutcome} {err : String} (herr : (h.unifiedStartupFromConfig fc boost).2 = some err) :
    ∃ rt, FailStopped rt (h.unifiedStartupFromConfig fc boost).1.toState := by
  unfold unifiedStartupFromConfig at herr ⊢
  dsimp only at herr ⊢
  split at herr
  next h' err' hopen =>
    have hfail := openCameras_failStopped (congrArg Prod.snd hopen)
    rw [hopen] at hfail
    exact hfail
  next h' hopen => exact startSession_failStopped herr

end Service

variable {α π θ : Type*} [ICameraAdapter α] [ISerialPort π]

/-- A start-up that fails: `ReportStartupFailure` ran, or `UnifiedStartupFromConfig` returned false. -/
def Boot.Failed (h : Service α π) : Boot → Prop
  | .configFileNotFound _ => True
  | .configInvalid _ => True
  | .started fc boost => ∃ err, (h.unifiedStartupFromConfig fc boost).2 = some err

theorem Boot.Failed.failStopped {h : Service α π} {b : Boot} (hfail : b.Failed h) :
    ∃ rt, FailStopped rt (h.boot b).toState := by
  cases b with
  | configFileNotFound message =>
    have hcode : kConfigFileNotFound ∈ startupFailureCodes := by decide
    exact h.rollback_failStopped hcode message
  | configInvalid message =>
    have hcode : kConfigInvalid ∈ startupFailureCodes := by decide
    exact h.rollback_failStopped hcode message
  | started fc boost =>
    obtain ⟨err, herr⟩ := hfail
    exact Service.unifiedStartupFromConfig_failStopped herr

/-- A start-up that does not fail has established the session of a configuration. -/
theorem Boot.exists_started {prototypes : AList fun _ : String => α} {port : π} {b : Boot}
    (hfail : ¬ b.Failed (fresh prototypes port)) :
    ∃ fc boost, b = .started fc boost ∧
      ((fresh prototypes port : Service α π).unifiedStartupFromConfig fc boost).2 = none ∧
      ((fresh prototypes port : Service α π).boot b).Established ∧
      ((fresh prototypes port : Service α π).boot b).hubRuntime.code = kReady := by
  cases b with
  | configFileNotFound message => exact absurd trivial hfail
  | configInvalid message => exact absurd trivial hfail
  | started fc boost =>
    rcases Service.unifiedStartupFromConfig_cases prototypes port fc boost with
      ⟨herr, _⟩ | ⟨hnone, _, hest, hcode, _⟩
    · exact absurd herr hfail
    · exact ⟨fc, boost, rfl, hnone, hest, hcode⟩

/-- No change of the service ends a failed start-up, and the serial port only changes by itself. The
recovery gives up where it reads the port's number. -/
theorem Change.failStopped {h h' : Service α π} {c : Cause} (hch : Change h c h') {rt : Status}
    (hf : FailStopped rt h.toState) (hpc : ∀ pc, c = .recovery pc → pc = .readCom) :
    FailStopped rt h'.toState ∧ (c ≠ .portChanged → h'.serial = h.serial) := by
  cases hch with
  | recovery pc =>
    obtain rfl := hpc pc rfl
    exact ⟨hf, fun _ => rfl⟩
  | connect =>
    rw [Service.connect_of_failStopped hf]
    exact ⟨hf, fun _ => rfl⟩
  | disconnect sessionId =>
    rw [Service.disconnect_of_failStopped hf]
    exact ⟨hf, fun _ => rfl⟩
  | capture request now =>
    rw [Service.capture_of_failStopped hf]
    exact ⟨hf, fun _ => rfl⟩
  | wakeUp wt now =>
    refine ⟨?_, fun _ => rfl⟩
    rcases h.captureWakeUp_cases wt now with ⟨_, hw, _⟩ | ⟨hw, _⟩ | ⟨_, _, _, he⟩ | ⟨_, _, he⟩
    · exact absurd (hf.awaiting.symm.trans hw) Bool.false_ne_true
    · exact absurd (hf.awaiting.symm.trans hw) Bool.false_ne_true
    · rw [he]
      exact ⟨hf.runtime, hf.failed, hf.sessionId, hf.presets, hf.com, hf.unified, hf.store, hf.awaiting⟩
    · rw [he]
      exact hf
  | cameraFrame sNext mid fb =>
    refine ⟨?_, fun _ => rfl⟩
    rcases h.onCameraFrame_cases sNext mid fb with ⟨he, _⟩ | ⟨hw, _⟩
    · rw [he]
      exact hf
    · exact absurd (hf.awaiting.symm.trans hw) Bool.false_ne_true
  | port port => exact ⟨hf, fun hne => absurd rfl hne⟩
  | cameras cameras hdevices => exact ⟨hf, fun _ => rfl⟩

namespace Server
variable [ICameraControls α] [DecidableEq θ]

/-- A hub that stopped at start-up, with every running call at the beginning of the recovery or past
it. -/
structure Stopped (rt : Status) (sv : Server α π θ) : Prop where
  hub : FailStopped rt sv.hub.toState
  recovery : ∀ c pc, sv.pc c = some pc → pc = .readCom
  connect : ∀ id r, (id, .connect r) ∈ sv.world.replies → r = ⟨rt, ""⟩

omit [ICameraAdapter α] [ISerialPort π] [ICameraControls α] [DecidableEq θ] in
theorem Stopped.cause {rt : Status} {sv : Server α π θ} (h : sv.Stopped rt) {e : ServerEvent α π θ}
    {pc : Recovery} (hc : sv.cause e = .recovery pc) : pc = .readCom := by
  obtain ⟨c, _, hpc⟩ := pc_of_cause hc
  exact h.recovery c pc hpc

theorem Stopped.step {rt : Status} {sv : Server α π θ} (h : sv.Stopped rt) (e : ServerEvent α π θ) :
    (sv.step e).Stopped rt := by
  constructor
  case hub => exact ((sv.step_change e).failStopped h.hub fun pc hc => h.cause hc).1
  case recovery =>
    intro c pc hpc
    by_cases hc : e.caller = some c
    · rw [pc_of_runs hc] at hpc
      obtain ⟨pc', hpc', hnext⟩ := Option.bind_eq_some_iff.mp hpc
      obtain rfl := h.recovery c pc' hpc'
      have hnone : (sv.hub.tryRecoverSerialQuick .readCom).2 = none := by
        unfold Service.tryRecoverSerialQuick
        exact if_pos h.hub.com
      cases hnone.symm.trans hnext
    · rcases pc_of_not_runs hc with hsame | ⟨_, _, hstart⟩
      · exact h.recovery c pc (hsame.symm.trans hpc)
      · exact (Option.some.inj (hstart.symm.trans hpc)).symm
  case connect =>
    intro id r hr
    cases connect_reply hr with
    | inl hold => exact h.connect id r hold
    | inr heq => rw [heq, Service.connect_of_failStopped h.hub]

omit [ICameraControls α] [DecidableEq θ] in
theorem booted_stopped (prototypes : AList fun _ : String => α) (port : π) {b : Boot}
    (hfail : b.Failed (fresh prototypes port)) (cursor : θ → UInt32) :
    ∃ rt, (booted prototypes port b cursor).Stopped rt := by
  obtain ⟨rt, hf⟩ := hfail.failStopped
  refine ⟨rt, hf, fun c pc hpc => ?_, fun id r hr => by cases hr⟩
  cases c with
  | task id => cases hpc
  | job id => cases hpc

theorem run_stopped {rt : Status} {sv : Server α π θ} (h : sv.Stopped rt)
    (es : List (ServerEvent α π θ)) : (run step sv es).Stopped rt :=
  run_invariant (I := fun sv : Server α π θ => sv.Stopped rt) (fun _ e h => h.step e) h es

theorem run_configured (sv : Server α π θ) (es : List (ServerEvent α π θ)) :
    sv.hub.Configured (run step sv es).hub := by
  induction es generalizing sv with
  | nil => exact ⟨rfl, rfl, rfl⟩
  | cons e es ih =>
    have hstep := (sv.step_change e).configured
    have hrest := ih (sv.step e)
    exact ⟨hrest.presets.trans hstep.presets, hrest.com.trans hstep.com,
      hrest.unified.trans hstep.unified⟩

/-- A hub process stopped at start-up, or it has cameras. -/
theorem Reachable.stopped_or_presets {sv : Server α π θ} (h : sv.Reachable) :
    (∃ rt, sv.Stopped rt) ∨ sv.hub.presetCameras ≠ [] := by
  obtain ⟨prototypes, port, b, cursor, es, rfl⟩ := h
  by_cases hfail : b.Failed (fresh prototypes port)
  · obtain ⟨rt, hstop⟩ := booted_stopped prototypes port hfail cursor
    exact .inl ⟨rt, run_stopped hstop es⟩
  · right
    rw [(run_configured (booted prototypes port b cursor) es).presets]
    obtain ⟨_, _, _, _, hest, _⟩ := Boot.exists_started hfail
    exact hest.presets

/-- What a failed start-up leaves for good: the runtime state of `sv₀`, no session, no publication,
and a serial port that no step of the process touches, whatever a port makes of a write. -/
structure FailStop (sv₀ sv : Server α π θ) : Prop where
  runtime : sv.hub.hubRuntime = sv₀.hub.hubRuntime
  sessionId : sv.hub.sessionId = ""
  connect : ∀ id r, (id, .connect r) ∈ sv.world.replies → r.status.code ≠ 0 ∧ r.sessionId = ""
  serial : ∀ e, (∀ port, e ≠ .world (.portChanged port)) → (sv.step e).hub.serial = sv.hub.serial
  publications : sv.hub.store.publications = ∅

/-- A failed start-up is fail-stop. -/
theorem failed_startup_is_final (prototypes : AList fun _ : String => α) (port : π) {b : Boot}
    (hfail : b.Failed (fresh prototypes port)) (cursor : θ → UInt32) (es : List (ServerEvent α π θ)) :
    FailStop (booted prototypes port b cursor) (run step (booted prototypes port b cursor) es) := by
  obtain ⟨rt, hstart⟩ := booted_stopped prototypes port hfail cursor
  have hend := run_stopped hstart es
  generalize run step (booted prototypes port b cursor) es = sv at hend
  constructor
  case runtime => exact hend.hub.runtime.trans hstart.hub.runtime.symm
  case sessionId => exact hend.hub.sessionId
  case connect =>
    intro id r hr
    rw [hend.connect id r hr]
    refine ⟨?_, rfl⟩
    have hready : sv.hub.hubRuntime.code ≠ kReady := hend.hub.code_ne (by decide)
    rw [hend.hub.runtime] at hready
    exact hready
  case serial =>
    intro e hne
    apply ((sv.step_change e).failStopped hend.hub fun pc hc => hend.cause hc).2
    intro hc
    obtain ⟨port, he⟩ := cause_portChanged hc
    exact hne port he
  case publications =>
    rw [hend.hub.store]

/-- The configuration names no serial port. -/
def noProjector : HubFileConfig := { oneCamera with projectorComIndex := 0 }

theorem failed_startup_is_final_noProjector :
    let sv₀ : Server ReadyCamera EchoPort Bool :=
      booted (AList.singleton "daheng" {}) {} (.started noProjector (.mapped zeroed)) fun _ => 0
    FailStop sv₀ (run step sv₀ [.world (.call 0 .connect), .world (.step 0), .world (.step 0)]) := by
  have herr : ((fresh (AList.singleton "daheng" {}) {} : Service ReadyCamera EchoPort)
      |>.unifiedStartupFromConfig noProjector (.mapped zeroed)).2 =
        some "projector.com_index must be > 0 in hub_service.json" := by
    decide +kernel
  have hfail : Boot.Failed (fresh (AList.singleton "daheng" {}) {} : Service ReadyCamera EchoPort)
      (.started noProjector (.mapped zeroed)) := ⟨_, herr⟩
  exact failed_startup_is_final _ _ hfail _ _

end Server
end Camera3D.Hub
