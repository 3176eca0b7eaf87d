import Camera3D.Camera.Adapters
import Camera3D.Hub.Armed

/-! Restoring the session: the cameras are armed one after the other, after the fields of the session
have been set. -/
namespace Camera3D.Hub
open Camera Serial Ipc Transition HubServiceStateCode

section Cameras
variable {α : Type*} [ICameraAdapter α]
open ICameraAdapter

/-- The adapter after each call that arms it, with the result callback `mid`. -/
def triggered (a : α) : α × Bool := setTriggerMode (setCaptureResultCallback a none) .kHardware

def started (a : α) (mid : String) : α × Bool :=
  startStreamGrab (setCaptureResultCallback (triggered a).1 (some mid))

/-- The camera is open, and both of the calls that can fail succeed on it. -/
def CanArm (cameras : CameraManager α) (mid : String) : Prop :=
  ∃ slot, cameras.open_.lookup mid = some slot ∧ (triggered slot.adapter).2 = true ∧
    (started slot.adapter mid).2 = true

/-- The camera has been armed: it takes the hardware trigger, has its callback set and streams. -/
structure CameraArmed (before after : CameraManager α) (mid : String) (slot : Slot α) : Prop where
  before : before.open_.lookup mid = some slot
  trigger : (triggered slot.adapter).2 = true
  stream : (started slot.adapter mid).2 = true
  after : after.open_.lookup mid = some { slot with adapter := (started slot.adapter mid).1 }

section Calls
variable {cameras : CameraManager α} {mid : String} {slot : Slot α}

/-- What the manager does on an open camera, call by call. -/
theorem arm_calls (h : cameras.open_.lookup mid = some slot) :
    let triggering := (cameras.clearResultCallback mid).setTriggerMode mid .kHardware
    let starting := (triggering.1.setResultCallback mid mid).startStreamGrab mid
    triggering.2 = (triggered slot.adapter).2 ∧ starting.2 = (started slot.adapter mid).2 ∧
      starting.1.open_.lookup mid =
        some { slot with adapter := (started slot.adapter mid).1 } := by
  intro triggering starting
  have hclear : (cameras.clearResultCallback mid).open_.lookup mid =
      some { slot with adapter := setCaptureResultCallback slot.adapter none } :=
    CameraManager.lookup_withAdapter_self h
  have htrigger : triggering.1.open_.lookup mid =
      some { slot with adapter := (triggered slot.adapter).1 } :=
    CameraManager.lookup_withAdapter_self hclear
  have hset : (triggering.1.setResultCallback mid mid).open_.lookup mid =
      some { slot with adapter := setCaptureResultCallback (triggered slot.adapter).1 (some mid) } :=
    CameraManager.lookup_withAdapter_self htrigger
  exact ⟨CameraManager.withAdapter_snd hclear, CameraManager.withAdapter_snd hset,
    CameraManager.lookup_withAdapter_self hset⟩

theorem arm_calls_of_none (h : cameras.open_.lookup mid = none) :
    ((cameras.clearResultCallback mid).setTriggerMode mid .kHardware).2 = false := by
  have hclear : cameras.clearResultCallback mid = cameras :=
    congrArg Prod.fst (CameraManager.withAdapter_of_none h)
  rw [hclear]
  exact congrArg Prod.snd (CameraManager.withAdapter_of_none h)

theorem arm_calls_frame {mid' : String} (hne : mid' ≠ mid) :
    let triggering := (cameras.clearResultCallback mid).setTriggerMode mid .kHardware
    ((triggering.1.setResultCallback mid mid).startStreamGrab mid).1.open_.lookup mid' =
      cameras.open_.lookup mid' := by
  intro triggering
  calc ((triggering.1.setResultCallback mid mid).startStreamGrab mid).1.open_.lookup mid'
      = (triggering.1.setResultCallback mid mid).open_.lookup mid' :=
        CameraManager.lookup_withAdapter_ne hne
    _ = triggering.1.open_.lookup mid' := CameraManager.lookup_withAdapter_ne hne
    _ = (cameras.clearResultCallback mid).open_.lookup mid' := CameraManager.lookup_withAdapter_ne hne
    _ = cameras.open_.lookup mid' := CameraManager.lookup_withAdapter_ne hne

end Calls

/-- The first camera ends the loop, or it is armed and nothing else is touched. -/
theorem armCameras_cons (mid : String) (mids : List String) (cameras : CameraManager α) :
    (Service.armCameras (mid :: mids) cameras).2 ≠ none ∧ ¬ CanArm cameras mid ∨
      ∃ cameras' slot, Service.armCameras (mid :: mids) cameras = Service.armCameras mids cameras' ∧
        CameraArmed cameras cameras' mid slot ∧
        ∀ mid', mid' ≠ mid → cameras'.open_.lookup mid' = cameras.open_.lookup mid' := by
  rw [Service.armCameras]
  dsimp only
  cases hslot : cameras.open_.lookup mid with
  | none =>
    left
    rw [arm_calls_of_none hslot]
    refine ⟨by simp, fun ⟨slot, hsome, _⟩ => ?_⟩
    cases hslot.symm.trans hsome
  | some slot =>
    obtain ⟨htrigger, hstart, hafter⟩ := arm_calls hslot
    have hcan : CanArm cameras mid ↔ (triggered slot.adapter).2 = true ∧
        (started slot.adapter mid).2 = true := by
      refine ⟨fun ⟨slot', hsome, hboth⟩ => ?_, fun hboth => ⟨slot, hslot, hboth⟩⟩
      obtain rfl := Option.some.inj (hslot.symm.trans hsome)
      exact hboth
    split_ifs with ht hs
    · left
      refine ⟨by simp, fun h => ?_⟩
      rw [htrigger, (hcan.mp h).1] at ht
      cases ht
    · left
      refine ⟨by simp, fun h => ?_⟩
      rw [hstart, (hcan.mp h).2] at hs
      cases hs
    · right
      rw [htrigger, Bool.not_eq_true', Bool.not_eq_false] at ht
      rw [hstart, Bool.not_eq_true', Bool.not_eq_false] at hs
      exact ⟨_, slot, rfl, ⟨hslot, ht, hs, hafter⟩, fun mid' hne => arm_calls_frame hne⟩

/-- The loop ends without an error exactly if every camera can be armed, and then each has been. -/
theorem armCameras_cases {mids : List String} (hnodup : mids.Nodup) (cameras : CameraManager α) :
    (Service.armCameras mids cameras).2 ≠ none ∧ (∃ mid ∈ mids, ¬ CanArm cameras mid) ∨
      (Service.armCameras mids cameras).2 = none ∧
        (∀ mid ∈ mids, ∃ slot, CameraArmed cameras (Service.armCameras mids cameras).1 mid slot) ∧
        ∀ mid, mid ∉ mids →
          (Service.armCameras mids cameras).1.open_.lookup mid = cameras.open_.lookup mid := by
  induction mids generalizing cameras with
  | nil =>
    refine .inr ⟨rfl, fun mid hmid => ?_, fun _ _ => rfl⟩
    cases hmid
  | cons mid mids ih =>
    obtain ⟨hnot, hnodup⟩ := List.nodup_cons.mp hnodup
    rcases armCameras_cons mid mids cameras with ⟨herr, hcannot⟩ | ⟨cameras', slot, he, harmed, hframe⟩
    · exact .inl ⟨herr, mid, List.mem_cons_self, hcannot⟩
    · rw [he]
      -- The cameras that come later are still as they were.
      have hlater : ∀ mid' ∈ mids, cameras'.open_.lookup mid' = cameras.open_.lookup mid' :=
        fun mid' hmid' => hframe mid' fun heq => hnot (heq ▸ hmid')
      rcases ih hnodup cameras' with ⟨herr, mid', hmid', hcannot⟩ | ⟨hnone, hall, hrest⟩
      · refine .inl ⟨herr, mid', List.mem_cons_of_mem mid hmid', fun hcan => hcannot ?_⟩
        unfold CanArm at hcan ⊢
        rwa [hlater mid' hmid']
      · refine .inr ⟨hnone, fun mid' hmid' => ?_, fun mid' hmid' => ?_⟩
        · rcases List.mem_cons.mp hmid' with rfl | hmid'
          · exact ⟨slot, harmed.before, harmed.trigger, harmed.stream, (hrest mid' hnot).trans harmed.after⟩
          · obtain ⟨slot', hslot'⟩ := hall mid' hmid'
            exact ⟨slot', (hlater mid' hmid').symm.trans hslot'.before, hslot'.trigger, hslot'.stream,
              hslot'.after⟩
        · exact (hrest mid' (List.not_mem_of_not_mem_cons hmid')).trans
            (hframe mid' (List.ne_of_not_mem_cons hmid'))

end Cameras

namespace Service
variable {α π : Type*} [ICameraAdapter α] [ISerialPort π]

/-- `Connect` from `h` has established a session: `h'` is ready, its cameras are armed and the
orchestrator is there. -/
structure Resumes (h h' : Service α π) (r : ConnectReply) : Prop where
  code : r.status.code = 0
  sessionId_ne : r.sessionId ≠ ""
  sessionId : r.sessionId = h'.sessionId
  ready : h'.hubRuntime.code = kReady
  cameras : ∀ mid ∈ h'.sessionDevicesOrdered, ∃ slot, CameraArmed h.cameras h'.cameras mid slot
  fitted : h'.Fitted

/-- `Connect` from `h` has failed: there is no session, and the cameras are as they were. -/
structure Refuses (h h' : Service α π) (r : ConnectReply) : Prop where
  code : r.status.code ≠ 0
  reply : r.sessionId = ""
  sessionId : h'.sessionId = ""
  devices : h'.sessionDevicesOrdered = []
  layout : h'.sessionSlotLayout = []
  cameras : h'.cameras = h.cameras

def AllOrNothing (h : Service α π) : Prop :=
  h.Resumes h.connect.1 h.connect.2 ∨ h.Refuses h.connect.1 h.connect.2

/-- No session is established. -/
def NoSession (h : Service α π) : Prop :=
  h.sessionId = "" ∨ h.hubRuntime.code = kSessionNotEstablished

omit [ISerialPort π] in
theorem prepareHardwareTriggerLocked_cameras {h : Service α π} (hne : h.sessionDevicesOrdered ≠ []) :
    h.prepareHardwareTriggerLocked.1.cameras =
        (armCameras h.sessionDevicesOrdered h.cameras).1 ∧
      (h.prepareHardwareTriggerLocked.2 = none ↔
        (armCameras h.sessionDevicesOrdered h.cameras).2 = none) := by
  rcases h.prepareHardwareTriggerLocked_cases with
    ⟨hnil, _⟩ | ⟨_, ⟨cameras, err, harm, he⟩ | ⟨cameras, harm, ⟨_, _, he⟩ | ⟨_, he⟩⟩⟩
  · exact absurd hnil hne
  · rw [he, harm]
    exact ⟨rfl, by simp⟩
  · rw [he, harm]
    exact ⟨rfl, by simp⟩
  · rw [he, harm]
    exact ⟨rfl, by simp⟩

omit [ISerialPort π] in
/-- Restoring the session fails at a camera, with the fields of the session set, or it succeeds. -/
theorem restoreActiveSessionLocked_cases {h : Service α π} (hnodup : h.presetIds.Nodup)
    (hp : h.presetCameras ≠ []) :
    h.restoreActiveSessionLocked.2 ≠ none ∧ (∃ mid ∈ h.presetIds, ¬ CanArm h.cameras mid) ∨
      h.restoreActiveSessionLocked.2 = none ∧ ∀ mid ∈ h.presetIds, ∃ slot,
        CameraArmed h.cameras h.restoreActiveSessionLocked.1.cameras mid slot := by
  have hdevices : h.layOutSession.sessionDevicesOrdered ≠ [] := fun hnil =>
    hp (List.map_eq_nil_iff.mp hnil)
  have hprep : h.restoreActiveSessionLocked.1.cameras = (armCameras h.presetIds h.cameras).1 ∧
      (h.restoreActiveSessionLocked.2 = none ↔ (armCameras h.presetIds h.cameras).2 = none) := by
    unfold restoreActiveSessionLocked
    dsimp only
    rw [if_neg hdevices]
    exact prepareHardwareTriggerLocked_cameras hdevices
  rw [hprep.1]
  rcases armCameras_cases hnodup h.cameras with ⟨herr, hcannot⟩ | ⟨hnone, hall, _⟩
  · exact .inl ⟨fun hnone => herr (hprep.2.mp hnone), hcannot⟩
  · exact .inr ⟨hprep.2.mpr hnone, hall⟩

/-- The session is resumed exactly if every camera can be armed. One that cannot leaves a session
that was not there before. -/
theorem resumeSession_resumes_iff {h : Service α π} (hsound : h.Sound) (hp : h.presetCameras ≠ []) :
    (h.Resumes h.resumeSession.1 h.resumeSession.2 ∨ h.Refuses h.resumeSession.1 h.resumeSession.2) ↔
      ∀ mid ∈ h.presetIds, CanArm h.cameras mid := by
  have hstate := h.restoreActiveSessionLocked_toState
  have hcases := restoreActiveSessionLocked_cases hsound.presets_nodup hp
  have horch := restoreActiveSessionLocked_orchestrators hp
  have hid := hsound.resumed_sessionId_ne hp h.hubRuntime
  unfold Service.resumeSession
  rcases hr : h.restoreActiveSessionLocked with ⟨h', err⟩
  rw [hr] at hcases horch hstate
  have hsame : h'.toState = h.toState.resumed h.hubRuntime := hstate
  rw [← hsame] at hid
  cases err with
  | some err =>
    obtain ⟨_, mid, hmid, hcannot⟩ | ⟨hnone, _⟩ := hcases
    · refine iff_of_false ?_ fun hall => hcannot (hall mid hmid)
      rintro (hres | href)
      · have hcode : kOrchestratorInitFailed = 0 := hres.code
        exact absurd hcode (by decide)
      · exact hid href.sessionId
    · cases hnone
  | none =>
    obtain ⟨hne, _⟩ | ⟨_, harmed⟩ := hcases
    · exact absurd rfl hne
    · have hfitted : h'.Fitted := (horch.resolve_left fun hbad => hbad.1 rfl).2
      obtain ⟨port, hport⟩ := (h'.setRuntime kReady "").sendSetCommandOnlyLocked_frame kExitBlackToTest
      refine iff_of_true (.inl ?_) fun mid hmid => ?_
      · show h.Resumes (h'.setRuntime kReady "").afterSdkConnectSerialLocked _
        unfold afterSdkConnectSerialLocked
        rw [hport]
        refine ⟨rfl, hid, rfl, rfl, fun mid hmid => harmed mid ?_, hfitted.single, hfitted.several⟩
        have hdevices : h'.sessionDevicesOrdered = h.presetIds := by
          rw [hsame]
          rfl
        exact hdevices ▸ hmid
      · obtain ⟨slot, hslot⟩ := harmed mid hmid
        exact ⟨slot, hslot.before, hslot.trigger, hslot.stream⟩

end Service

namespace Server
variable {α π θ : Type*} [ICameraAdapter α] [ICameraControls α] [ISerialPort π] [DecidableEq θ]

/-- The bench after its session has been released. -/
def releasedBench : Server ReadyCamera EchoPort Bool :=
  run step { world := bench oneCamera } [.world (.call 0 (.disconnect "cam-1")), .world (.step 0)]

/-- The bench after its session has been released, with a camera that will not stream again. -/
def mutedBench : Server MoodyCamera EchoPort Bool :=
  run step (moodyBench oneCamera) [.world (.call 0 (.disconnect "cam-1")), .world (.step 0),
    .world (.cameraChanged "cam-1" { streams := false })]

end Server
end Camera3D.Hub
