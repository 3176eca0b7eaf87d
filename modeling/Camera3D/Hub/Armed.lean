import Camera3D.Hub.FailStop

/-! A hub that is ready has the orchestrator of its session. The recovery of the serial port is the
one place that reports the hub ready without looking at the orchestrators. -/
namespace Camera3D.Hub
open Camera Serial Ipc Transition HubServiceStateCode

theorem State.Sound.resumed_sessionId_ne {s : State} (h : s.Sound) (hp : s.presetCameras ≠ [])
    (rt : Status) : (s.resumed rt).sessionId ≠ "" := by
  show (if s.presetCameras = [] then s.sessionId else s.presetIds.headD "") ≠ ""
  rw [if_neg hp]
  cases hids : s.presetIds with
  | nil => exact absurd (List.map_eq_nil_iff.mp hids) hp
  | cons id ids => exact h.presets_ne id (hids ▸ List.mem_cons_self)

namespace Service
variable {α π : Type*}

/-- Neither orchestrator is there. -/
def Bare (h : Service α π) : Prop := h.orchestrator = none ∧ h.multiOrchestrator = none

/-- Exactly the orchestrator that fits the number of session cameras is there. -/
structure Fitted (h : Service α π) : Prop where
  single : h.sessionDevicesOrdered.length = 1 → h.orchestrator ≠ none ∧ h.multiOrchestrator = none
  several : h.sessionDevicesOrdered.length ≠ 1 → h.orchestrator = none ∧ h.multiOrchestrator ≠ none

structure Armed (h : Service α π) : Prop where
  session : h.sessionId ≠ ""
  fitted : h.Fitted

/-- Ready means armed, so that `Capture` can send its command. -/
def ReadyArmed [ISerialPort π] (h : Service α π) : Prop :=
  h.hubRuntime.code = kReady → h.Armed ∧
    ∀ cmd, h.sendProductionCommandOnlyLocked cmd = h.sendProductionCommandOnly cmd

/-- Any orchestrator that is there fits the session, and it is there while the hub is ready. -/
structure Wired (h : Service α π) : Prop where
  bare_or_armed : h.Bare ∨ h.Armed
  ready : h.hubRuntime.code = kReady → h.Armed

theorem Fitted.not_bare {h : Service α π} (hf : h.Fitted) : ¬ h.Bare := by
  intro hb
  by_cases hlen : h.sessionDevicesOrdered.length = 1
  · exact (hf.single hlen).1 hb.1
  · exact (hf.several hlen).2 hb.2

theorem Armed.sends [ISerialPort π] {h : Service α π} (ha : h.Armed) (cmd : Command) :
    h.sendProductionCommandOnlyLocked cmd = h.sendProductionCommandOnly cmd := by
  have hnot := ha.fitted.not_bare
  unfold sendProductionCommandOnlyLocked
  split
  · rfl
  · rfl
  next hmulti hsingle => exact absurd ⟨hsingle, hmulti⟩ hnot

theorem Wired.readyArmed [ISerialPort π] {h : Service α π} (hw : h.Wired) : h.ReadyArmed :=
  fun hcode => ⟨hw.ready hcode, (hw.ready hcode).sends⟩

theorem Bare.of_session {h h' : Service α π} (he : h'.session = h.session) (hb : h.Bare) : h'.Bare :=
  ⟨(congrArg SessionView.orchestrator he).trans hb.1,
    (congrArg SessionView.multiOrchestrator he).trans hb.2⟩

theorem Armed.of_session {h h' : Service α π} (he : h'.session = h.session) (ha : h.Armed) :
    h'.Armed := by
  have hid : h'.sessionId = h.sessionId := congrArg SessionView.sessionId he
  have hdevices : h'.sessionDevicesOrdered = h.sessionDevicesOrdered := congrArg SessionView.devices he
  have hsingle : h'.orchestrator = h.orchestrator := congrArg SessionView.orchestrator he
  have hmulti : h'.multiOrchestrator = h.multiOrchestrator := congrArg SessionView.multiOrchestrator he
  refine ⟨hid ▸ ha.session, ?_, ?_⟩
  · rw [hdevices, hsingle, hmulti]
    exact ha.fitted.single
  · rw [hdevices, hsingle, hmulti]
    exact ha.fitted.several

theorem Wired.of_session {h h' : Service α π} (he : h'.session = h.session) (hw : h.Wired) :
    h'.Wired := by
  have hcode : h'.hubRuntime = h.hubRuntime := congrArg SessionView.runtime he
  refine ⟨hw.bare_or_armed.imp (Bare.of_session he) (Armed.of_session he), fun hready => ?_⟩
  rw [hcode] at hready
  exact (hw.ready hready).of_session he

/-- A service that reports something else than ready. -/
theorem Wired.of_not_ready {h : Service α π} (hor : h.Bare ∨ h.Armed)
    (hcode : h.hubRuntime.code ≠ kReady) : h.Wired :=
  ⟨hor, fun hready => absurd hready hcode⟩

section Cameras
variable [ICameraAdapter α]

/-- A preparation that fails leaves no orchestrator behind; one that succeeds, the fitting one. -/
theorem prepareHardwareTriggerLocked_orchestrators (h : Service α π) :
    h.prepareHardwareTriggerLocked.2 ≠ none ∧ h.prepareHardwareTriggerLocked.1.Bare ∨
      h.prepareHardwareTriggerLocked.2 = none ∧ h.prepareHardwareTriggerLocked.1.Fitted := by
  rcases h.prepareHardwareTriggerLocked_cases with
    ⟨_, he⟩ | ⟨_, ⟨_, _, _, he⟩ | ⟨_, _, ⟨mid, hmid, he⟩ | ⟨hlen, he⟩⟩⟩
  · rw [he]
    exact .inl ⟨by simp, rfl, rfl⟩
  · rw [he]
    exact .inl ⟨by simp, rfl, rfl⟩
  · have hlen : h.sessionDevicesOrdered.length = 1 := by rw [hmid]; rfl
    rw [he]
    exact .inr ⟨rfl, fun _ => ⟨by simp, rfl⟩, fun hne => absurd hlen hne⟩
  · rw [he]
    exact .inr ⟨rfl, fun hone => absurd hone hlen, fun _ => ⟨rfl, by simp⟩⟩

theorem fitted_of_prepare {h laid : Service α π} (hprep : h.prepareHardwareTriggerLocked = (laid, none)) :
    laid.Fitted := by
  have horch := h.prepareHardwareTriggerLocked_orchestrators
  rw [hprep] at horch
  exact (horch.resolve_left fun hne => hne.1 rfl).2

/-- What restoring the session leaves, if there are cameras to restore it from. -/
theorem restoreActiveSessionLocked_orchestrators {h : Service α π} (hp : h.presetCameras ≠ []) :
    h.restoreActiveSessionLocked.2 ≠ none ∧ h.restoreActiveSessionLocked.1.Bare ∨
      h.restoreActiveSessionLocked.2 = none ∧ h.restoreActiveSessionLocked.1.Fitted := by
  have hdevices : h.layOutSession.sessionDevicesOrdered ≠ [] := fun hnil =>
    hp (List.map_eq_nil_iff.mp hnil)
  unfold restoreActiveSessionLocked
  dsimp only
  rw [if_neg hdevices]
  exact prepareHardwareTriggerLocked_orchestrators _

end Cameras

variable [ICameraAdapter α] [ISerialPort π]

omit [ICameraAdapter α] in
theorem session_afterSdkConnectSerialLocked (h : Service α π) :
    h.afterSdkConnectSerialLocked.session = h.session := by
  obtain ⟨port, he⟩ := h.sendSetCommandOnlyLocked_frame kExitBlackToTest
  unfold afterSdkConnectSerialLocked
  rw [he]
  rfl

theorem Wired.resumeSession {h : Service α π} (hsound : h.Sound) (hw : h.Wired)
    (hcode : h.hubRuntime.code ≠ kReady) : h.resumeSession.1.Wired := by
  have hstate := h.restoreActiveSessionLocked_toState
  unfold Service.resumeSession
  by_cases hp : h.presetCameras = []
  · -- Without cameras there is no session, hence no orchestrator.
    have hidle : h.Idle := hsound.session.resolve_right fun he => he.presets hp
    have hbare : h.Bare := hw.bare_or_armed.resolve_right fun ha => ha.session hidle.sessionId
    have hnil : h.layOutSession.sessionDevicesOrdered = [] := List.map_eq_nil_iff.mpr hp
    have hrestore : h.restoreActiveSessionLocked = (h.layOutSession, some "no preset cameras") := by
      unfold restoreActiveSessionLocked
      exact if_pos hnil
    rw [hrestore]
    exact .of_not_ready (.inl hbare) hcode
  · have horch := restoreActiveSessionLocked_orchestrators hp
    rcases hr : h.restoreActiveSessionLocked with ⟨h', err⟩
    rw [hr] at horch hstate
    cases err with
    | some err =>
      obtain ⟨_, hbare⟩ | ⟨hnone, _⟩ := horch
      · have hsame : h'.toState = h.toState.resumed h.hubRuntime := hstate
        have hcode' : h'.hubRuntime = h.hubRuntime := by
          rw [hsame]
          rfl
        exact .of_not_ready (.inl hbare) (hcode' ▸ hcode)
      · cases hnone
    | none =>
      obtain ⟨hne, _⟩ | ⟨_, hfitted⟩ := horch
      · exact absurd rfl hne
      · have hsame : h'.toState = h.toState.resumed h.hubRuntime := hstate
        have hid : h'.sessionId ≠ "" := by
          rw [hsame]
          exact hsound.resumed_sessionId_ne hp _
        have harmed : (h'.setRuntime kReady "").Armed := ⟨hid, hfitted.single, hfitted.several⟩
        exact Wired.of_session (session_afterSdkConnectSerialLocked _) ⟨.inr harmed, fun _ => harmed⟩

theorem Wired.connect {h : Service α π} (hsound : h.Sound) (hw : h.Wired) : h.connect.1.Wired := by
  unfold Service.connect
  split_ifs with hserial hreleased hready hsession
  · exact hw
  · refine hw.resumeSession hsound ?_
    rw [hreleased]
    decide
  · exact hw
  · exact absurd hsession (hw.ready (not_not.mp hready)).session
  · exact hw.of_session h.session_afterSdkConnectSerialLocked

theorem Wired.disconnect {h : Service α π} (hw : h.Wired) (sessionId : String) :
    (h.disconnect sessionId).1.Wired := by
  unfold Service.disconnect
  split_ifs
  · have hcode : h.teardownSessionLocked.hubRuntime.code ≠ kReady := by
      show kSessionNotEstablished ≠ kReady
      decide
    exact .of_not_ready (.inl ⟨rfl, rfl⟩) hcode
  · exact hw

/-- The recovery reports the hub ready if it has a session, armed or not. -/
def RecoversBare (h : Service α π) : Prop :=
  h.unifiedConfigMode = true ∧ h.sessionId ≠ "" ∧ h.Bare

omit [ICameraAdapter α] in
theorem recovered_of_recoversBare {h : Service α π} (hb : h.RecoversBare) :
    (h.tryRecoverSerialQuick .recovered).1 = h.setRuntime kReady "" := by
  unfold tryRecoverSerialQuick
  dsimp only
  rw [hb.1, if_neg (by decide), if_neg hb.2.1]

omit [ICameraAdapter α] in
theorem Wired.recovery {h : Service α π} (hw : h.Wired) {pc : Recovery}
    (hc : pc = .recovered → ¬ h.RecoversBare) : (h.tryRecoverSerialQuick pc).1.Wired := by
  cases pc with
  | readCom => exact hw
  | isOpen com => exact hw
  | lastError => exact hw
  | openPort com =>
    have he : (h.tryRecoverSerialQuick (.openPort com)).1.session = h.session := rfl
    exact hw.of_session he
  | setCode message =>
    have hcode : kRuntimeSerialNotConnected ≠ kReady := by decide
    exact .of_not_ready (hw.bare_or_armed.imp id fun ha => ⟨ha.session, ha.fitted.single,
      ha.fitted.several⟩) hcode
  | recovered =>
    unfold tryRecoverSerialQuick
    dsimp only
    split_ifs with hunified hsession
    · exact hw
    · have hcode : kSessionNotEstablished ≠ kReady := by decide
      exact .of_not_ready (hw.bare_or_armed.imp id fun ha => absurd hsession ha.session) hcode
    · have hunified' : h.unifiedConfigMode = true := by
        rwa [Bool.not_eq_true', Bool.not_eq_false] at hunified
      have ha : h.Armed := hw.bare_or_armed.resolve_left fun hb => hc rfl ⟨hunified', hsession, hb⟩
      have ha' : (h.setRuntime kReady "").Armed := ⟨ha.session, ha.fitted.single, ha.fitted.several⟩
      exact ⟨.inr ha', fun _ => ha'⟩

end Service

theorem Change.wired {α π : Type*} [ICameraAdapter α] [ISerialPort π] {h h' : Service α π} {c : Cause}
    (hch : Change h c h') (hsound : h.Sound) (hw : h.Wired)
    (hc : c = .recovery .recovered → ¬ h.RecoversBare) : h'.Wired := by
  rcases hch.cases with ⟨pc, rfl, rfl⟩ | rfl | ⟨sessionId, rfl⟩ | hsame
  · exact hw.recovery fun hpc => hc (hpc ▸ rfl)
  · exact hw.connect hsound
  · exact hw.disconnect sessionId
  · exact hw.of_session hsame

namespace Service
variable {α π : Type*} [ICameraAdapter α] [ISerialPort π]

theorem openCameras_bare {nodes : List HubFileCameraNode} {h : Service α π} (hb : h.Bare) :
    (openCameras nodes h).1.Bare := by
  induction nodes generalizing h with
  | nil => exact hb
  | cons node nodes ih =>
    unfold openCameras
    dsimp only
    split_ifs
    · exact ⟨rfl, rfl⟩
    · exact ih hb

theorem startSession_orchestrators (h : Service α π) (fc : HubFileConfig) (boost : BoostOutcome) :
    (h.startSession fc boost).2 ≠ none ∧ (h.startSession fc boost).1.Bare ∨
      (h.startSession fc boost).2 = none ∧ (h.startSession fc boost).1.Fitted := by
  have hrolled : ∀ (h : Service α π) (err : String), some err ≠ none ∧
      h.rollbackUnifiedStartupLocked.Bare := fun h err => ⟨by simp, rfl, rfl⟩
  unfold startSession
  dsimp only
  split_ifs
  · exact .inl (hrolled _ _)
  · exact .inl (hrolled _ _)
  · exact .inl (hrolled _ _)
  · split
    next laid err hprep => exact .inl (hrolled _ _)
    next laid hprep =>
      have hfitted := fitted_of_prepare hprep
      exact .inr ⟨rfl, hfitted.single, hfitted.several⟩

theorem unifiedStartupFromConfig_orchestrators {h : Service α π} (hb : h.Bare) (fc : HubFileConfig)
    (boost : BoostOutcome) :
    (h.unifiedStartupFromConfig fc boost).2 ≠ none ∧ (h.unifiedStartupFromConfig fc boost).1.Bare ∨
      (h.unifiedStartupFromConfig fc boost).2 = none ∧
        (h.unifiedStartupFromConfig fc boost).1.Fitted := by
  unfold unifiedStartupFromConfig
  dsimp only
  split
  next h' err hopen =>
    have hbare := congrArg (fun r : Service α π × Option String => r.1.Bare) hopen
    exact .inl ⟨by simp, hbare.mp (openCameras_bare hb)⟩
  next h' hopen => exact h'.startSession_orchestrators fc boost

theorem boot_wired (prototypes : AList fun _ : String => α) (port : π) (b : Boot) :
    ((fresh prototypes port).boot b : Service α π).Wired := by
  by_cases hfail : b.Failed (fresh prototypes port)
  · obtain ⟨rt, hstop⟩ := hfail.failStopped
    have hcode : ((fresh prototypes port).boot b : Service α π).hubRuntime.code ≠ kReady :=
      hstop.code_ne (by decide)
    refine .of_not_ready (.inl ?_) hcode
    cases b with
    | configFileNotFound message => exact ⟨rfl, rfl⟩
    | configInvalid message => exact ⟨rfl, rfl⟩
    | started fc boost =>
      obtain ⟨err, herr⟩ := hfail
      rcases unifiedStartupFromConfig_orchestrators (h := fresh prototypes port) ⟨rfl, rfl⟩ fc boost with
        ⟨_, hbare⟩ | ⟨hnone, _⟩
      · exact hbare
      · cases hnone.symm.trans herr
  · obtain ⟨fc, boost, rfl, hnone, hest, _⟩ := Boot.exists_started hfail
    have hsound := (boot_unused prototypes port (.started fc boost)).sound
    rcases unifiedStartupFromConfig_orchestrators (h := fresh prototypes port) ⟨rfl, rfl⟩ fc boost with
      ⟨hne, _⟩ | ⟨_, hfitted⟩
    · exact absurd hnone hne
    · have harmed : ((fresh prototypes port).boot (.started fc boost) : Service α π).Armed :=
        ⟨hsound.sessionId_ne hest, hfitted⟩
      exact ⟨.inr harmed, fun _ => harmed⟩

end Service

namespace Server
variable {α π θ : Type*} [ICameraAdapter α] [ICameraControls α] [ISerialPort π] [DecidableEq θ]

/-- The step does not report ready a session that lost its orchestrator. -/
def RecoversArmed (sv : Server α π θ) (e : ServerEvent α π θ) : Prop :=
  sv.cause e = .recovery .recovered → ¬ sv.hub.RecoversBare

theorem readyArmed_iff {sv : Server α π θ} (hsound : sv.hub.Sound) (hw : sv.hub.Wired)
    (es : List (ServerEvent α π θ)) :
    (∀ es', es' <+: es → (run step sv es').hub.ReadyArmed) ↔ Along step RecoversArmed sv es := by
  induction es generalizing sv with
  | nil =>
    refine ⟨fun _ => trivial, fun _ es' hpre => ?_⟩
    rw [List.prefix_nil.mp hpre]
    exact hw.readyArmed
  | cons e es ih =>
    have hch := sv.step_change e
    have hsound' := hch.sound hsound
    constructor
    case mp =>
      intro hall
      have hstep : sv.RecoversArmed e := by
        intro hc hb
        have hnext : (sv.step e).hub.ReadyArmed := hall [e] ⟨es, rfl⟩
        rw [hc] at hch
        generalize (sv.step e).hub = h' at hch hnext
        cases hch
        rw [Service.recovered_of_recoversBare hb] at hnext
        exact (hnext rfl).1.fitted.not_bare hb.2.2
      refine ⟨hstep, (ih hsound' (hch.wired hsound hw hstep)).mp fun es' hpre => ?_⟩
      exact hall (e :: es') (List.cons_prefix_cons.mpr ⟨rfl, hpre⟩)
    case mpr =>
      rintro ⟨hstep, hrest⟩ es' hpre
      rcases List.prefix_cons_iff.mp hpre with rfl | ⟨es'', rfl, hpre'⟩
      · exact hw.readyArmed
      · exact (ih hsound' (hch.wired hsound hw hstep)).mpr hrest es'' hpre'

/-- Along every run of the process a hub that is ready is armed, exactly if no recovery of the serial
port reports ready a session that lost its orchestrator. -/
theorem ready_is_armed_iff (prototypes : AList fun _ : String => α) (port : π) (b : Boot)
    (cursor : θ → UInt32) (es : List (ServerEvent α π θ)) :
    (∀ es', es' <+: es → (run step (booted prototypes port b cursor) es').hub.ReadyArmed) ↔
      Along step RecoversArmed (booted prototypes port b cursor) es := by
  have hsound : (booted prototypes port b cursor).hub.Sound :=
    (Service.boot_unused prototypes port b).sound
  exact readyArmed_iff hsound (Service.boot_wired prototypes port b) es

end Server

/-- A camera that opens and can be triggered, but does not always stream. -/
structure MoodyCamera where
  streams : Bool := true
  callback : Option String := none
  streaming : Bool := false
  deriving DecidableEq

instance : ICameraAdapter MoodyCamera where
  cloneForSession c := c
  openDevice c _ := (c, true)
  close c := { c with callback := none, streaming := false }
  stopAsyncGrab c := { c with streaming := false }
  setTriggerMode c _ := (c, true)
  setCaptureResultCallback c callback := { c with callback }
  startStreamGrab c := ({ c with streaming := c.streams }, c.streams)
  getLastErrorMessage _ := "stream off"

instance : ICameraControls MoodyCamera where
  setExposureUs c _ := (c, true)
  getExposureUs _ := some 0
  setGainDb c _ := (c, true)
  getGainDb _ := some 0
  setGamma c _ := (c, true)
  getGamma _ := some 0

namespace Server

/-- A bench whose camera can be made to refuse its stream. -/
def moodyBench (fc : HubFileConfig) : Server MoodyCamera EchoPort Bool :=
  booted (AList.singleton "daheng" {}) {} (.started fc (.mapped zeroed)) fun _ => 0

/-- The session is released, and a `Connect` fails to restore it. -/
def failedConnect : List (ServerEvent MoodyCamera EchoPort Bool) :=
  [.world (.call 0 (.disconnect "cam-1")), .world (.step 0),
    .world (.cameraChanged "cam-1" { streams := false }), .world (.call 0 .connect),
    .world (.step 0), .world (.step 0), .world (.step 0)]

/-- The port is lost, and a tick of the serial watch opens it again. -/
def portRecovered : List (ServerEvent MoodyCamera EchoPort Bool) :=
  [.world (.portChanged { opened := false }), .world (.call 0 .serialWatchTick), .world (.step 0),
    .world (.step 0), .world (.step 0), .world (.step 0)]

/-- The session whose restoration failed is reported ready when the port comes back. -/
theorem ready_without_orchestrator : ¬ ∀ es,
    (run step (moodyBench oneCamera) es).hub.ReadyArmed := by
  intro hall
  have hready := hall (failedConnect ++ portRecovered)
  have hcode : (run step (moodyBench oneCamera) (failedConnect ++ portRecovered)).hub.hubRuntime.code =
      kReady := by
    decide +kernel
  have hbare : (run step (moodyBench oneCamera) (failedConnect ++ portRecovered)).hub.Bare := by
    unfold Service.Bare
    decide +kernel
  exact (hready hcode).1.fitted.not_bare hbare

end Server
end Camera3D.Hub
