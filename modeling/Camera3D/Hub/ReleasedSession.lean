import Camera3D.Hub.Restore

/-! The id of a session that has been released: no call with it is honoured before a `Connect` sets
the session up again, and the hub never has a session with another id. -/
namespace Camera3D.Hub
open Camera Serial Ipc Transition HubServiceStateCode

namespace Service
variable {α π : Type*}

/-- No call with the session `sessionId` is honoured: each one that replies a status replies an
error, and none changes the hub. -/
structure Rejects [ICameraAdapter α] [ICameraControls α] [ISerialPort π] (h : Service α π)
    (sessionId : String) : Prop where
  capture : ∀ request now, request.sessionId = sessionId →
    ∃ status, status.code ≠ 0 ∧ h.capture request now = (h, .reply ⟨status, 0, 0⟩)
  getDepth : ∀ request, request.sessionId = sessionId →
    ∃ status, status.code ≠ 0 ∧ h.getDepth request = { status }
  answer : ∀ rq, rq.sessionId = some sessionId →
    (h.answer rq).1 = h ∧ (h.answer rq).2.status.code ≠ 0
  disconnect : (h.disconnect sessionId).1 = h

/-- The runtime state is one in which `Connect` sets the session up again. -/
def Resumable (h : Service α π) : Prop :=
  h.hubRuntime.code = kSessionNotEstablished ∨ h.hubRuntime.code = kReady ∧ h.sessionId = ""

theorem capture_of_unrecognised [ISerialPort π] {h : Service α π} {request : CaptureRequest}
    (hun : h.sessionId = "" ∨ request.sessionId ≠ h.sessionId) (now : ℕ) :
    ∃ status, status.code ≠ 0 ∧ h.capture request now = (h, .reply ⟨status, 0, 0⟩) := by
  unfold capture
  by_cases hgate : h.unifiedConfigMode = true ∧ h.hubRuntime.code ≠ kReady
  · rw [if_pos hgate]
    exact ⟨h.hubRuntime, hgate.2, rfl⟩
  · rw [if_neg hgate, if_pos hun]
    exact ⟨⟨3, "invalid session"⟩, by decide, rfl⟩

variable [ICameraAdapter α] [ISerialPort π]

theorem rejects_of_unrecognised [ICameraControls α] {h : Service α π} {sessionId : String}
    (hun : h.sessionId = "" ∨ sessionId ≠ h.sessionId) : h.Rejects sessionId := by
  constructor
  case capture =>
    rintro request now rfl
    exact capture_of_unrecognised hun now
  case getDepth =>
    rintro request rfl
    exact ⟨h.refusal, h.refusal_code, State.getDepth_of_unrecognised hun⟩
  case answer =>
    intro rq hrq
    obtain ⟨hsame, hstatus⟩ := answer_of_admission (admission_of_unrecognised hun) hrq
    refine ⟨hsame, ?_⟩
    rw [hstatus]
    exact h.refusal_code
  case disconnect =>
    unfold Service.disconnect
    rw [if_neg ?_]
    rintro ⟨hne, heq⟩
    exact hun.elim hne fun hother => hother heq

theorem connect_of_not_resumable {h : Service α π} (hnot : ¬ h.Resumable) :
    h.connect.1.sessionId = h.sessionId := by
  unfold Service.connect
  split_ifs with hserial hreleased hready hnone
  · rfl
  · exact absurd (.inl hreleased) hnot
  · rfl
  · exact absurd (.inr ⟨not_not.mp hready, hnone⟩) hnot
  · exact congrArg SessionView.sessionId h.session_afterSdkConnectSerialLocked

/-- A `Connect` that succeeds returns the id of the hub's session, which is that of the first camera of
the configuration. -/
theorem connect_sessionId {h : Service α π} (hs : h.Sound) (hp : h.presetCameras ≠ [])
    (hcode : h.connect.2.status.code = 0) : h.connect.2.sessionId = h.connect.1.sessionId ∧
      h.connect.1.sessionId = h.presetIds.headD "" := by
  have hresume : h.resumeSession.2.status.code = 0 →
      h.resumeSession.2.sessionId = h.resumeSession.1.sessionId ∧
        h.resumeSession.1.sessionId = h.presetIds.headD "" := by
    have hstate := h.restoreActiveSessionLocked_toState
    unfold Service.resumeSession
    rcases hr : h.restoreActiveSessionLocked with ⟨h', err⟩
    rw [hr] at hstate
    cases err with
    | some err =>
      intro hcode
      have hfailed : kOrchestratorInitFailed = 0 := hcode
      exact absurd hfailed (by decide)
    | none =>
      intro _
      have hid : h'.sessionId = (h.toState.resumed h.hubRuntime).sessionId :=
        congrArg State.sessionId hstate
      have hafter : (h'.setRuntime kReady "").afterSdkConnectSerialLocked.sessionId = h'.sessionId :=
        congrArg SessionView.sessionId (h'.setRuntime kReady "").session_afterSdkConnectSerialLocked
      exact ⟨hafter.symm, hafter.trans (hid.trans (if_neg hp))⟩
  unfold Service.connect at hcode ⊢
  split_ifs at hcode ⊢ with hserial hreleased hready hnone
  · rw [hserial] at hcode
    exact absurd hcode (by decide)
  · exact hresume hcode
  · exact absurd hcode hready
  · exact hresume hcode
  · have hafter : h.afterSdkConnectSerialLocked.sessionId = h.sessionId :=
      congrArg SessionView.sessionId h.session_afterSdkConnectSerialLocked
    exact ⟨hafter.symm, hafter.trans (hs.established hnone).sessionId⟩

end Service

namespace Server
variable {α π θ : Type*} [ICameraAdapter α] [ICameraControls α] [ISerialPort π] [DecidableEq θ]

/-- The body of a `Connect` that sets the session up again, whatever comes of it. -/
def Restores (sv : Server α π θ) (e : ServerEvent α π θ) : Prop :=
  ∃ id, e = .world (.step id) ∧ sv.world.tasks id = some (.body .connect) ∧ sv.hub.Resumable

omit [ICameraControls α] [DecidableEq θ] in
theorem hubAfter_sessionId {w : World α π θ} {task : Task}
    (hnot : task = .body .connect → ¬ w.hub.Resumable) :
    (w.hubAfter task).sessionId = w.hub.sessionId ∨ (w.hubAfter task).sessionId = "" := by
  cases task with
  | recovering pc rpc =>
    left
    obtain ⟨rt, serial, hframe⟩ := w.hub.tryRecoverSerialQuick_frame pc
    show (w.hub.tryRecoverSerialQuick pc).1.sessionId = w.hub.sessionId
    rw [hframe]
  | waiting wt =>
    exact .inl (congrArg Service.SessionView.sessionId (w.hub.session_captureWakeUp wt w.clock))
  | body rpc =>
    cases rpc with
    | connect => exact .inl (Service.connect_of_not_resumable (hnot rfl))
    | disconnect sessionId =>
      rcases w.hub.disconnect_toState sessionId with he | he
      · exact .inl (congrArg State.sessionId he)
      · exact .inr (congrArg State.sessionId he)
    | capture request =>
      exact .inl (congrArg Service.SessionView.sessionId (w.hub.session_capture request w.clock))
    | getDepth request => exact .inl rfl
    | serialWatchTick => exact .inl rfl

/-- A hub without a session has none after any step but a `Connect` that sets one up. -/
theorem no_session_step {sv : Server α π θ} (hnone : sv.hub.sessionId = "") {e : ServerEvent α π θ}
    (hnot : ¬ sv.Restores e) : (sv.step e).hub.sessionId = "" := by
  by_cases hworld : ∃ e', e = .world e'
  · obtain ⟨e, rfl⟩ := hworld
    cases e with
    | call id rpc =>
      dsimp only [step, World.step]
      cases sv.world.tasks id with
      | none => exact hnone
      | some task => exact hnone
    | step id =>
      dsimp only [step, hub]
      rcases sv.world.step_eq id with ⟨_, he⟩ | ⟨task, htask, he⟩
      · rw [he]
        exact hnone
      · have hconnect : task = .body .connect → ¬ sv.world.hub.Resumable := by
          rintro rfl hres
          exact hnot ⟨id, rfl, htask, hres⟩
        rw [he]
        rcases hubAfter_sessionId hconnect with hsame | hgone
        · exact hsame.trans hnone
        · exact hgone
    | cameraFrame thread mid fb =>
      have hsame := sv.hub.session_onCameraFrame (sv.world.cursor thread) mid fb
      exact (congrArg Service.SessionView.sessionId hsame).trans hnone
    | portChanged port => exact hnone
    | cameraChanged mid adapter => exact hnone
    | tick => exact hnone
  · obtain ⟨cameras, rt, serial, he⟩ := sv.step_frame (not_exists.mp hworld)
    show (sv.step e).world.hub.sessionId = ""
    rw [he]
    exact hnone

theorem no_session_run {sv : Server α π θ} (hnone : sv.hub.sessionId = "")
    {es : List (ServerEvent α π θ)} (hes : Along step (fun sv e => ¬ sv.Restores e) sv es) :
    (run step sv es).hub.sessionId = "" :=
  run_invariant_along (I := fun sv : Server α π θ => sv.hub.sessionId = "")
    (fun _ _ hnot hnone => no_session_step hnone hnot) hes hnone

omit [ICameraControls α] in
/-- The step of a `Disconnect` that tears the session down. -/
theorem teardown_sessionId {w : World α π θ} {id : ℕ} {sessionId : String}
    (htask : w.tasks id = some (.body (.disconnect sessionId))) (hs : sessionId ≠ "")
    (hmatch : w.hub.sessionId = sessionId) : (w.step (.step id)).hub.sessionId = "" := by
  have htorn : (w.hub.disconnect sessionId).1 = w.hub.teardownSessionLocked := by
    unfold Service.disconnect
    rw [if_pos ⟨hmatch ▸ hs, hmatch.symm⟩]
  dsimp only [World.step]
  rw [htask]
  show (w.hub.disconnect sessionId).1.sessionId = ""
  rw [htorn]
  rfl

/-- Once a `Disconnect` has torn the session down, every session id is rejected until a `Connect` sets
the session up again. A `Connect` that succeeds returns the id there was before, and every other id is
rejected for good. -/
theorem released_id_is_dead {sv : Server α π θ} (hr : sv.Reachable) {id : ℕ} {sessionId : String}
    (htask : sv.world.tasks id = some (.body (.disconnect sessionId))) (hs : sessionId ≠ "")
    (hmatch : sv.hub.sessionId = sessionId) (es : List (ServerEvent α π θ)) :
    let torn := sv.step (.world (.step id))
    let after := run step torn es
    (Along step (fun sv e => ¬ sv.Restores e) torn es → ∀ id', after.hub.Rejects id') ∧
      (∀ id', id' ≠ sessionId → after.hub.Rejects id') ∧
      (after.hub.connect.2.status.code = 0 → after.hub.connect.2.sessionId = sessionId ∧
        after.hub.connect.1.sessionId = sessionId) := by
  intro torn after
  have hest : sv.hub.Established := hr.sound.established (hmatch.symm ▸ hs)
  have hafter : after.hub.Sound := run_sound (hr.next _).sound es
  have hpresets : after.hub.presetCameras = sv.hub.presetCameras :=
    (run_configured torn es).presets.trans (sv.step_change (.world (.step id))).configured.presets
  have hfront : after.hub.presetIds.headD "" = sessionId := by
    rw [State.presetIds, hpresets]
    exact hest.sessionId.symm.trans hmatch
  refine ⟨fun hes id' => ?_, fun id' hne => ?_, fun hcode => ?_⟩
  · have hnone : torn.hub.sessionId = "" := teardown_sessionId htask hs hmatch
    exact Service.rejects_of_unrecognised (.inl (no_session_run hnone hes))
  · apply Service.rejects_of_unrecognised
    refine hafter.session.imp State.Idle.sessionId fun he => ?_
    rw [he.sessionId, hfront]
    exact hne
  · obtain ⟨hreply, hid⟩ := Service.connect_sessionId hafter (hpresets ▸ hest.presets) hcode
    exact ⟨hreply.trans (hid.trans hfront), hid.trans hfront⟩

/-- The bench as it is about to release its session. -/
def releasingBench : Server ReadyCamera EchoPort Bool :=
  run step { world := bench oneCamera } [.world (.call 0 (.disconnect "cam-1"))]

theorem released_id_is_dead_bench :
    (releasingBench.Reachable ∧
      releasingBench.world.tasks 0 = some (.body (.disconnect "cam-1")) ∧
      releasingBench.hub.sessionId = "cam-1") ∧
    (run step (releasingBench.step (.world (.step 0))) [.world (.call 1 .connect)]).hub.Rejects
      "cam-1" := by
  have hreach : releasingBench.Reachable := ⟨_, _, _, _, _, rfl⟩
  have htask : releasingBench.world.tasks 0 = some (.body (.disconnect "cam-1")) := by decide +kernel
  have hid : releasingBench.hub.sessionId = "cam-1" := by decide +kernel
  refine ⟨⟨hreach, htask, hid⟩, ?_⟩
  apply (released_id_is_dead hreach htask (by decide) hid [.world (.call 1 .connect)]).1
  refine ⟨?_, trivial⟩
  rintro ⟨id, heq, _⟩
  cases heq

/-- The `Connect` of another client, once the bench has released its session. -/
def reconnecting : List (ServerEvent ReadyCamera EchoPort Bool) :=
  .world (.call 1 .connect) :: List.replicate 3 (.world (.step 1))

/-- A client that kept the id of a released session tears down the session of another client. -/
theorem released_id_comes_back : ¬ ∀ (sv : Server ReadyCamera EchoPort Bool), sv.Reachable →
    ∀ id sessionId, sv.world.tasks id = some (.body (.disconnect sessionId)) → sessionId ≠ "" →
      sv.hub.sessionId = sessionId →
      ∀ es, (run step (sv.step (.world (.step id))) es).hub.Rejects sessionId := by
  intro hall
  have hreach : releasingBench.Reachable := ⟨_, _, _, _, _, rfl⟩
  have htask : releasingBench.world.tasks 0 = some (.body (.disconnect "cam-1")) := by decide +kernel
  have hid : releasingBench.hub.sessionId = "cam-1" := by decide +kernel
  have hrejects := hall releasingBench hreach 0 "cam-1" htask (by decide) hid reconnecting
  let sv := run step (releasingBench.step (.world (.step 0))) reconnecting
  have hsession : sv.hub.sessionId = "cam-1" := by decide +kernel
  have htorn : (sv.hub.disconnect "cam-1").1.sessionId = "" := by decide +kernel
  have hkept : (sv.hub.disconnect "cam-1").1 = sv.hub := hrejects.disconnect
  rw [hkept, hsession] at htorn
  exact absurd htorn (by decide)

end Server
end Camera3D.Hub
