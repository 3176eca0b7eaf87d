import Camera3D.Camera.Registered
import Camera3D.Hub.GalaxyArmed
import Camera3D.Hub.Labels
import Camera3D.Serial.Handshake

/-! A start-up that fails is undone, at whichever point it fails. -/
namespace Camera3D.Hub
open Camera Serial Ipc CameraManager HubServiceStateCode

section Cameras
variable {α : Type*} [ICameraAdapter α] {prototypes : AList fun _ : String => α} {n : ℕ}
  {m : CameraManager α}

theorem manages_clearResultCallback (h : m.Manages prototypes n) (mid : String) :
    (m.clearResultCallback mid).Manages prototypes n :=
  h.of_driven fun _ ha => ha.setCaptureResultCallback none

theorem manages_armCameras (h : m.Manages prototypes n) (mids : List String) :
    (Service.armCameras mids m).1.Manages prototypes n := by
  induction mids generalizing m with
  | nil => exact h
  | cons mid mids ih =>
    let cleared := m.clearResultCallback mid
    have htriggered : (cleared.setTriggerMode mid .kHardware).1.Manages prototypes n :=
      (manages_clearResultCallback h mid).of_driven fun _ ha => ha.setTriggerMode .kHardware
    let wired := (cleared.setTriggerMode mid .kHardware).1.setResultCallback mid mid
    have hwired : wired.Manages prototypes n :=
      htriggered.of_driven fun _ ha => ha.setCaptureResultCallback (some mid)
    have hstarted : (wired.startStreamGrab mid).1.Manages prototypes n :=
      hwired.of_driven fun _ ha => ha.startStreamGrab
    rw [Service.armCameras]
    dsimp only
    split_ifs
    · exact htriggered
    · exact hstarted
    · exact ih hstarted

end Cameras

namespace Service
variable {α π : Type*} [ICameraAdapter α] [ISerialPort π]

/-- The hub when start-up begins. -/
def starting (h : Service α π) (fc : HubFileConfig) : Service α π :=
  { h with
    unifiedConfigMode := true
    startupSerialComMain := fc.projectorComIndex
    hubRuntime := ⟨kStarting, "unified startup"⟩
    presetCameras := [] }

/-- The hub once it has tried the port, then the ring, and then set up the session. -/
def triedPort (h : Service α π) (fc : HubFileConfig) : Service α π :=
  { h with serial := (h.serial.openPort fc.projectorComIndex 115200).1 }

def triedRing (h : Service α π) (boost : BoostOutcome) : Service α π :=
  { h with shm := (h.shm.createOrOpen boost kDefaultHubRingRegionName true).1 }

def laidOut (h : Service α π) : Service α π :=
  { h.layOutSession with sessionId := h.layOutSession.sessionDevicesOrdered.headD "" }

/-- The hub with all configured cameras, and a port that opens. -/
structure PortOpens (start : Service α π) (fc : HubFileConfig) (h : Service α π) : Prop where
  cameras : openCameras fc.cameras (start.starting fc) = (h, none)
  com : fc.projectorComIndex ≠ 0
  port : (h.serial.openPort fc.projectorComIndex 115200).2 = true

/-- The points at which start-up fails, with the hub that it has got to. -/
inductive FailsAt (start : Service α π) (fc : HubFileConfig) (boost : BoostOutcome) :
    Service α π → Prop
  | camera {opened rest : List HubFileCameraNode} {node : HubFileCameraNode} {h : Service α π}
    (hnodes : fc.cameras = opened ++ node :: rest)
    (hopened : openCameras opened (start.starting fc) = (h, none))
    (hfail : (h.cameras.createAndOpenDevice node.device "").2 = "") :
    FailsAt start fc boost { h with cameras := (h.cameras.createAndOpenDevice node.device "").1 }
  | comIndex {h : Service α π} (hopened : openCameras fc.cameras (start.starting fc) = (h, none))
    (hfail : fc.projectorComIndex = 0) : FailsAt start fc boost h
  | serialPort {h : Service α π} (hopened : openCameras fc.cameras (start.starting fc) = (h, none))
    (hcom : fc.projectorComIndex ≠ 0)
    (hfail : (h.serial.openPort fc.projectorComIndex 115200).2 = false) :
    FailsAt start fc boost (h.triedPort fc)
  | ring {h : Service α π} (hport : PortOpens start fc h)
    (hfail : (h.shm.createOrOpen boost kDefaultHubRingRegionName true).2 = false) :
    FailsAt start fc boost ((h.triedPort fc).triedRing boost)
  | arming {h armed : Service α π} {err : String} (hport : PortOpens start fc h)
    (hring : (h.shm.createOrOpen boost kDefaultHubRingRegionName true).2 = true)
    (hfail : ((h.triedPort fc).triedRing boost).laidOut.prepareHardwareTriggerLocked =
      (armed, some err)) :
    FailsAt start fc boost armed

/-- The hub after the rollback: it is back where it was but for the runtime state and the next id, and
nothing is left on the adapters it had open or gave up. -/
structure RolledBack (start h : Service α π) [ObservedAdapter α] (ended : Service α π) : Prop where
  rollback : ∃ code message, ended = (h.setRuntime code message).rollbackUnifiedStartupLocked
  state : ended.toState = { start.toState with hubRuntime := ended.hubRuntime }
  cameras : ended.cameras =
    { start.cameras with seq := ended.cameras.seq, released := ended.cameras.released }
  orchestrator : ended.orchestrator = none
  multiOrchestrator : ended.multiOrchestrator = none
  serial : ended.serial.isOpen = false
  closed : ended.cameras.released.length = h.cameras.released.length + h.presetCameras.length
  quiet : ∀ a ∈ ended.cameras.released, Quiet a

/-- Start-up has not set anything but what the rollback resets, and it knows the cameras it opened. -/
structure Begun (prototypes : AList fun _ : String => α) (configured : ℕ) (h : Service α π) : Prop where
  kept : h.rollbackUnifiedStartupLocked.toState = { hubRuntime := h.hubRuntime }
  cameras : h.cameras.Manages prototypes h.presetCameras.length
  few : h.presetCameras.length ≤ configured

variable {prototypes : AList fun _ : String => α} {configured : ℕ}

theorem Begun.of_toState {h h' : Service α π} (hb : h.Begun prototypes configured)
    (hstate : h'.toState = h.toState) (hcameras : h'.cameras.Manages prototypes h.presetCameras.length) :
    h'.Begun prototypes configured := by
  obtain ⟨s, cameras, serial, orchestrator, multiOrchestrator⟩ := h'
  obtain rfl : s = h.toState := hstate
  exact ⟨hb.kept, hcameras, hb.few⟩

theorem Begun.addCamera {h : Service α π} (hb : h.Begun prototypes configured)
    (hmore : h.presetCameras.length < configured) (hlt : configured < 2 ^ 64) {node : HubFileCameraNode}
    (hopened : (h.cameras.createAndOpenDevice node.device "").2 ≠ "") :
    (h.addCamera (h.cameras.createAndOpenDevice node.device "").1
      (h.cameras.createAndOpenDevice node.device "").2 node).Begun prototypes configured := by
  have hadd := hb.cameras.createAndOpenDevice (hmore.trans hlt) hopened
  refine ⟨hb.kept, ?_, ?_⟩
  · show Manages prototypes (h.presetCameras ++ [_]).length _
    rwa [List.length_append, List.length_singleton]
  · show (h.presetCameras ++ [_]).length ≤ configured
    rwa [List.length_append, List.length_singleton]

/-- The cameras are open, or start-up has failed at one of them. -/
theorem openCameras_begun {nodes : List HubFileCameraNode} {h : Service α π}
    (hb : h.Begun prototypes configured) (hlen : h.presetCameras.length + nodes.length ≤ configured)
    (hlt : configured < 2 ^ 64) :
    ∀ h', openCameras nodes h = (h', none) → h'.Begun prototypes configured := by
  induction nodes generalizing h with
  | nil =>
    intro h' he
    obtain rfl : h = h' := congrArg Prod.fst he
    exact hb
  | cons node nodes ih =>
    intro h' he
    rw [List.length_cons] at hlen
    by_cases hmid : (h.cameras.createAndOpenDevice node.device "").2 = ""
    · unfold openCameras at he
      have hfail := congrArg Prod.snd ((if_pos hmid).symm.trans he)
      cases hfail
    · have hadd := hb.addCamera (by omega) hlt hmid
      apply ih hadd
      · simp only [Service.addCamera, List.length_append, List.length_cons, List.length_nil]
        omega
      · unfold openCameras at he
        exact (if_neg hmid).symm.trans he

theorem openCameras_fails {nodes : List HubFileCameraNode} {h : Service α π} {err : String}
    (herr : (openCameras nodes h).2 = some err) :
    ∃ opened node rest h', nodes = opened ++ node :: rest ∧ openCameras opened h = (h', none) ∧
      (h'.cameras.createAndOpenDevice node.device "").2 = "" ∧
      ∃ code message, (openCameras nodes h).1 =
        ({ h' with cameras := (h'.cameras.createAndOpenDevice node.device "").1 }.setRuntime
          code message).rollbackUnifiedStartupLocked := by
  induction nodes generalizing h with
  | nil => cases herr
  | cons node nodes ih =>
    by_cases hmid : (h.cameras.createAndOpenDevice node.device "").2 = ""
    · refine ⟨[], node, nodes, h, rfl, rfl, hmid, kCameraInitFailed,
        "open camera failed: " ++ formatDeviceAddress node.device, ?_⟩
      unfold openCameras
      exact congrArg Prod.fst (if_pos hmid)
    · have hstep : openCameras (node :: nodes) h = openCameras nodes
          (h.addCamera (h.cameras.createAndOpenDevice node.device "").1
            (h.cameras.createAndOpenDevice node.device "").2 node) := by
        conv_lhs => unfold openCameras
        exact if_neg hmid
      rw [hstep] at herr ⊢
      obtain ⟨opened, bad, rest, h', rfl, hopened, hfail, hback⟩ := ih herr
      refine ⟨node :: opened, bad, rest, h', rfl, ?_, hfail, hback⟩
      rw [← hopened]
      conv_lhs => unfold openCameras
      exact if_neg hmid

/-- The rest of start-up fails at one of its four points, and is rolled back from there. -/
theorem startSession_fails {start h : Service α π} {fc : HubFileConfig} {boost : BoostOutcome}
    (hopened : openCameras fc.cameras (start.starting fc) = (h, none)) {err : String}
    (herr : (h.startSession fc boost).2 = some err) :
    ∃ h', FailsAt start fc boost h' ∧ ∃ code message,
      (h.startSession fc boost).1 = (h'.setRuntime code message).rollbackUnifiedStartupLocked := by
  unfold startSession at herr ⊢
  dsimp only at herr ⊢
  split_ifs at herr ⊢ with hcom hport hring
  · exact ⟨h, .comIndex hopened hcom, _, _, rfl⟩
  · exact ⟨_, .serialPort hopened hcom (Bool.not_eq_true' _ ▸ hport), _, _, rfl⟩
  · have hopens : PortOpens start fc h := ⟨hopened, hcom, by simpa using hport⟩
    exact ⟨_, .ring hopens (by simpa using hring), _, _, rfl⟩
  · have hopens : PortOpens start fc h := ⟨hopened, hcom, by simpa using hport⟩
    split at herr
    next armed err hprep =>
      exact ⟨armed, .arming hopens (by simpa using hring) hprep, _, _, rfl⟩
    next => cases herr

theorem unifiedStartupFromConfig_fails {start : Service α π} {fc : HubFileConfig}
    {boost : BoostOutcome} {err : String}
    (herr : (start.unifiedStartupFromConfig fc boost).2 = some err) :
    ∃ h, FailsAt start fc boost h ∧ ∃ code message,
      (start.unifiedStartupFromConfig fc boost).1 =
        (h.setRuntime code message).rollbackUnifiedStartupLocked := by
  unfold unifiedStartupFromConfig at herr ⊢
  dsimp only at herr ⊢
  split at herr
  next ended _ hfail =>
    obtain ⟨opened, node, rest, h, hnodes, hopened, hnone, hback⟩ :=
      openCameras_fails (congrArg Prod.snd hfail)
    rw [hfail] at hback
    exact ⟨_, .camera hnodes hopened hnone, hback⟩
  next h hopened =>
    have hopened : openCameras fc.cameras (start.starting fc) = (h, none) := hopened
    obtain ⟨h', hfails, hback⟩ := startSession_fails hopened herr
    exact ⟨h', hfails, hback⟩

omit [ISerialPort π] in
theorem manages_prepareHardwareTriggerLocked {h : Service α π} {n : ℕ}
    (hm : h.cameras.Manages prototypes n) :
    h.prepareHardwareTriggerLocked.1.cameras.Manages prototypes n := by
  have harmed := manages_armCameras hm h.sessionDevicesOrdered
  rcases h.prepareHardwareTriggerLocked_cases with
    ⟨_, he⟩ | ⟨_, ⟨_, _, hcameras, he⟩ | ⟨_, hcameras, ⟨_, _, he⟩ | ⟨_, he⟩⟩⟩
  · rw [he]
    exact hm
  all_goals
    rw [hcameras] at harmed
    rw [he]
    exact harmed

theorem fresh_starting_begun (prototypes : AList fun _ : String => α) (port : π) (fc : HubFileConfig) :
    ((fresh prototypes port : Service α π).starting fc).Begun prototypes fc.cameras.length := by
  refine ⟨rfl, ?_, Nat.zero_le _⟩
  exact ⟨rfl, rfl, nofun, nofun, fun _ _ => Sessions.viewed_registered prototypes⟩

/-- Wherever start-up fails, what the rollback does not reset has not been set. -/
theorem FailsAt.begun {port : π} {fc : HubFileConfig} {boost : BoostOutcome} {h : Service α π}
    (hf : FailsAt (fresh prototypes port) fc boost h) : h.Begun prototypes fc.cameras.length := by
  have hstart := fresh_starting_begun prototypes port fc
  have hopens : ∀ nodes : List HubFileCameraNode, nodes.length ≤ fc.cameras.length →
      ∀ h', openCameras nodes ((fresh prototypes port).starting fc) = (h', none) →
        h'.Begun prototypes fc.cameras.length := by
    intro nodes hle
    apply openCameras_begun hstart _ fc.cameras_lt
    show 0 + nodes.length ≤ fc.cameras.length
    omega
  have hall := hopens fc.cameras le_rfl
  cases hf with
  | @camera opened rest node h hnodes hopened hfail =>
    have hle : opened.length ≤ fc.cameras.length := by
      rw [hnodes, List.length_append]
      omega
    have hbefore := hopens opened hle h hopened
    exact ⟨hbefore.kept, hbefore.cameras.refused hfail, hbefore.few⟩
  | comIndex hopened _ => exact hall h hopened
  | serialPort hopened _ _ =>
    have hb := hall _ hopened
    exact ⟨hb.kept, hb.cameras, hb.few⟩
  | ring hport _ =>
    have hb := hall _ hport.cameras
    exact ⟨hb.kept, hb.cameras, hb.few⟩
  | @arming opened _ _ hport _ hfail =>
    have hb := hall opened hport.cameras
    let laid := ((opened.triedPort fc).triedRing boost).laidOut
    have hlaid : laid.Begun prototypes fc.cameras.length := ⟨hb.kept, hb.cameras, hb.few⟩
    obtain rfl : laid.prepareHardwareTriggerLocked.1 = h := congrArg Prod.fst hfail
    exact hlaid.of_toState laid.prepareHardwareTriggerLocked_toState
      (manages_prepareHardwareTriggerLocked hlaid.cameras)

omit [ISerialPort π] in
theorem manages_clearCallbacks {h : Service α π} {n : ℕ} (hm : h.cameras.Manages prototypes n) :
    h.clearCallbacks.cameras.Manages prototypes n := by
  have hfold : ∀ (mids : List String) (m : CameraManager α), m.Manages prototypes n →
      (mids.foldl (fun m mid => m.clearResultCallback mid) m).Manages prototypes n := by
    intro mids
    induction mids with
    | nil => exact fun _ h => h
    | cons mid mids ih => exact fun m h => ih _ (manages_clearResultCallback h mid)
  exact hfold _ _ hm

omit [ISerialPort π] in
theorem released_clearCallbacks (h : Service α π) :
    h.clearCallbacks.cameras.released = h.cameras.released := by
  have hfold : ∀ (mids : List String) (m : CameraManager α),
      (mids.foldl (fun m mid => m.clearResultCallback mid) m).released = m.released := by
    intro mids
    induction mids with
    | nil => exact fun _ => rfl
    | cons mid mids ih => exact fun m => (ih _).trans (released_withAdapter ..)
  exact hfold _ _

/-- A start-up that fails puts the hub back, whichever camera, port or ring it failed at, and every
adapter that the manager made for it is quiet. -/
theorem unifiedStartupFromConfig_rolled_back [ClosesPort π] [ObservedAdapter α] [ClosesDown α]
    (prototypes : AList fun _ : String => α) (port : π) (fc : HubFileConfig) (boost : BoostOutcome)
    {err : String}
    (herr : ((fresh prototypes port : Service α π).unifiedStartupFromConfig fc boost).2 = some err) :
    let ended := ((fresh prototypes port : Service α π).unifiedStartupFromConfig fc boost).1
    (∃ h, FailsAt (fresh prototypes port) fc boost h ∧ RolledBack (fresh prototypes port) h ended) ∧
      ∀ maxSize : UInt64, fc.cameras.length < maxSize.toNat →
        ∃ s log, Sessions.Runs maxSize s log ∧ s.Views ended.cameras ∧ ∀ a ∈ s.objects, Quiet a := by
  obtain ⟨h, hf, code, message, hback⟩ := unifiedStartupFromConfig_fails herr
  have hb := hf.begun
  have hcleared := manages_clearCallbacks hb.cameras
  have hstate : (h.setRuntime code message).rollbackUnifiedStartupLocked.toState =
      { h.rollbackUnifiedStartupLocked.toState with hubRuntime := ⟨code, message⟩ } := rfl
  have hcameras : (h.setRuntime code message).rollbackUnifiedStartupLocked.cameras =
      h.clearCallbacks.cameras.closeAllDevices := rfl
  have hquiet : ∀ a ∈ h.clearCallbacks.cameras.closeAllDevices.released, Quiet a :=
    fun a ha => (hcleared.closeAllDevices a ha).quiet
  dsimp only
  rw [hback]
  refine ⟨⟨h, hf, ?_⟩, fun maxSize hroom => ?_⟩
  · constructor
    case rollback => exact ⟨code, message, rfl⟩
    case state =>
      rw [hstate, hb.kept]
      rfl
    case cameras =>
      rw [hcameras]
      exact congrArg (fun p => ({ prototypes := p, seq := h.clearCallbacks.cameras.seq, released :=
        h.clearCallbacks.cameras.closeAllDevices.released } : CameraManager α)) hcleared.prototypes
    case orchestrator => rfl
    case multiOrchestrator => rfl
    case serial => exact ClosesPort.isOpen_close _
    case closed =>
      rw [hcameras]
      refine (List.length_append).trans ?_
      rw [released_clearCallbacks, List.length_map, ← hcleared.count]
      exact congrArg _ (List.length_map _).symm
    case quiet =>
      rw [hcameras]
      exact hquiet
  · have hviewed := hcleared.viewed maxSize (Nat.lt_of_le_of_lt hb.few hroom)
    obtain ⟨s, log, hruns, hv⟩ := hviewed.closeAllDevices
    rw [hcameras]
    refine ⟨s, log, hruns, hv, fun a ha => ?_⟩
    obtain ⟨i, hi⟩ := List.mem_iff_getElem?.mp ha
    have hnone : ∀ mid slot, s.open_.lookup mid = some slot → slot.adapter ≠ i := by
      intro mid slot hslot
      have hmem := (hv.mem_iff hruns.sound mid).mpr (AList.lookup_isSome.mp (by rw [hslot]; rfl))
      exact absurd hmem (AList.notMem_empty mid)
    exact hquiet a (hv.released i a hi hnone)

/-- A virtual camera, and a Galaxy camera behind it. -/
def mixedCameras : HubFileConfig where
  projectorComIndex := 1
  cameras := [{ ip := "127.0.0.1", backendId := "null" }, { ip := "192.168.0.10" }]
  cameras_ne := by decide
  cameras_lt := by decide

/-- What the hub's `main` registers. -/
def registered (answers : ℕ → Camera.Answer) : AList fun _ : String => RegisteredAdapter :=
  (AList.singleton "null" (.null {})).insert "daheng" (.daheng (.fresh answers))

/-- The first camera has its callback when the stream of the second does not start. -/
theorem unifiedStartupFromConfig_rolled_back_mixedCameras :
    let start : Service RegisteredAdapter EchoPort := fresh (registered (throwsAt 12)) {}
    let ended := (start.unifiedStartupFromConfig mixedCameras (.mapped zeroed)).1
    (∃ h, FailsAt start mixedCameras (.mapped zeroed) h ∧ RolledBack start h ended) ∧
      ∀ maxSize : UInt64, mixedCameras.cameras.length < maxSize.toNat →
        ∃ s log, Sessions.Runs maxSize s log ∧ s.Views ended.cameras ∧ ∀ a ∈ s.objects, Quiet a := by
  have herr : ((fresh (registered (throwsAt 12)) {} : Service RegisteredAdapter EchoPort)
      |>.unifiedStartupFromConfig mixedCameras (.mapped zeroed)).2 =
        some "StartStreamGrab failed: busy" := by
    decide +kernel
  exact unifiedStartupFromConfig_rolled_back _ _ _ _ herr

end Service
end Camera3D.Hub
