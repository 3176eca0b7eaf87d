import Camera3D.Camera.GalaxyThrows
import Camera3D.Hub.Restore

/-! Arming a session of Galaxy cameras: when a camera whose calls all succeed really delivers. -/
namespace Camera3D.Hub
open Camera Serial Ipc HubServiceStateCode DaHengGalaxyAdapter

section Adapter
variable {a : DaHengGalaxyAdapter} {mid : String}

/-- What was written to the trigger features last. -/
structure HardwareTriggered (calls : List SdkCall) : Prop where
  mode : featureOf "TriggerMode" calls = some "On"
  source : featureOf "TriggerSource" calls = some "Line0"
  activation : featureOf "TriggerActivation" calls = some "RisingEdge"

/-- The camera waits for the hardware trigger, and its frames go to the hub's callback for it. -/
structure Delivers (a : DaHengGalaxyAdapter) (mid : String) : Prop where
  triggered : HardwareTriggered a.sdk.calls
  grabbing : (streamOf a.sdk.calls).grabbing = true
  registered : (streamOf a.sdk.calls).registered = true
  callback : a.userResultCb = some mid

/-- Once the callback is cleared and the trigger set, the bridge is still registered, or the SDK
takes the call that registers it. -/
def TakesBridge (a : DaHengGalaxyAdapter) : Prop :=
  let b := (triggered a).1
  (streamOf b.sdk.calls).registered = true ∨
    let sdk := b.stopStreamGrabIfRunning.sdk
    (sdk.answers sdk.asked).throws = none

theorem HardwareTriggered.cons {c : SdkCall} (hc : aboutStream c) {before : List SdkCall}
    (h : HardwareTriggered before) : HardwareTriggered (c :: before) := by
  obtain ⟨hmode, hsource, hactivation⟩ := h
  cases c <;> simp_all [aboutStream] <;> exact ⟨hmode, hsource, hactivation⟩

/-- On an open camera the trigger is set where the call succeeds. -/
theorem setTriggerMode_hardware (h : (a.setTriggerMode .kHardware).2 = true)
    (hopen : a.requireOpen.2 = true) :
    HardwareTriggered (a.setTriggerMode .kHardware).1.sdk.calls := by
  rw [requireOpen_snd] at hopen
  simp only [Bool.and_eq_true] at hopen
  obtain ⟨⟨hopen, -⟩, hremote⟩ := hopen
  unfold DaHengGalaxyAdapter.setTriggerMode at h ⊢
  dsimp only at h ⊢
  rw [hopen, hremote] at h ⊢
  simp only [Bool.not_true, Bool.or_self, Bool.false_eq_true, if_false] at h ⊢
  split at h
  case h_1 b he =>
    obtain rfl := tries_fst he
    have hcalls : (tries _ _).1.sdk.calls = _ := tries_calls (congrArg Prod.snd he)
    rw [he]
    show HardwareTriggered (tries _ _).1.sdk.calls
    rw [hcalls]
    exact ⟨rfl, rfl, rfl⟩
  case h_2 b _ he => cases h

theorem setTriggerMode_requireOpen (a : DaHengGalaxyAdapter) (mode : TriggerMode) :
    (a.setTriggerMode mode).1.requireOpen.2 = a.requireOpen.2 := by
  rw [requireOpen_snd, requireOpen_snd]
  unfold DaHengGalaxyAdapter.setTriggerMode
  dsimp only
  split_ifs
  · rfl
  · split
    case h_1 b he =>
      obtain rfl := tries_fst he
      rfl
    case h_2 b _ he =>
      obtain rfl := tries_fst he
      rfl

/-- Stopping the stream asks the same of the SDK whatever the callback is. -/
theorem stopStreamGrabIfRunning_sdk (a : DaHengGalaxyAdapter) (cb : Option String) :
    (stopStreamGrabIfRunning { a with userResultCb := cb }).sdk = a.stopStreamGrabIfRunning.sdk := by
  obtain ⟨_, stream, remote, _, _, _, _, _, _, _, _, grabRunning, _⟩ := a
  cases grabRunning <;> cases remote <;> cases stream <;> rfl

/-- Where a result callback is wanted the bridge ends up on exactly if it is on already or the SDK
takes the call. -/
theorem registered_registerAsWanted (hb : a.Backed) (hopen : a.requireOpen.2 = true)
    (hcb : a.userResultCb = some mid) :
    (streamOf a.registerAsWanted.sdk.calls).registered = true ↔
      (streamOf a.sdk.calls).registered = true ∨
        (a.stopStreamGrabIfRunning.sdk.answers a.stopStreamGrabIfRunning.sdk.asked).throws = none := by
  rw [requireOpen_snd] at hopen
  simp only [Bool.and_eq_true] at hopen
  obtain ⟨⟨hopen, hstream⟩, -⟩ := hopen
  unfold registerAsWanted
  cases hreg : a.captureRegistered with
  | true =>
    have htrue := hb.registered hreg
    simp [hopen, hstream, hcb, htrue]
  | false =>
    have hstop := a.stopStreamGrabIfRunning_stopped.registered
    have hone := a.stopStreamGrabIfRunning.tries_one .registerCaptureCallback
    simp only [hopen, hstream, hcb, Option.isSome_some, Bool.true_or, Bool.not_true,
      Bool.or_self, Bool.false_eq_true, if_false, Bool.not_false, Bool.and_self, if_true]
    split
    case h_1 b he =>
      obtain rfl := tries_fst he
      obtain ⟨hnone, -, hcalls⟩ | ⟨-, hthrew, -⟩ := hone
      · refine iff_of_true ?_ (.inr hnone)
        show (streamOf (tries _ _).1.sdk.calls).registered = true
        rw [hcalls]
        rfl
      · exact absurd (congrArg Prod.snd he) hthrew
    case h_2 b what he =>
      obtain rfl := tries_fst he
      obtain ⟨-, htook, -⟩ | ⟨hthrows, -, hcalls⟩ := hone
      · cases htook.symm.trans (congrArg Prod.snd he)
      · show (streamOf (tries _ _).1.sdk.calls).registered = true ↔ _
        rw [hcalls, hstop]
        constructor
        · exact .inl
        · intro hr
          exact hr.resolve_right hthrows

/-- A camera whose calls that can fail all succeed delivers exactly if its bridge is taken. -/
theorem started_delivers_iff (hb : a.Backed) (ht : (triggered a).2 = true)
    (hs : (started a mid).2 = true) : Delivers (started a mid).1 mid ↔ TakesBridge a := by
  have hcleared : (setCaptureResultCallback a none).Backed :=
    (registerAsWanted_registers { a with userResultCb := none }).backed ⟨hb.registered, hb.grabbing⟩
  have htriggered : Backed (triggered a).1 := hcleared.setTriggerMode .kHardware
  -- The adapter the callback is set on, with the callback already stored.
  let b : DaHengGalaxyAdapter := { (triggered a).1 with userResultCb := some mid }
  have hbacked : b.Backed := ⟨htriggered.registered, htriggered.grabbing⟩
  have hset := b.registerAsWanted_registers
  have hstart := b.registerAsWanted.startStreamGrab_starts
  have hopen : b.requireOpen.2 = true := hset.requireOpen.symm.trans (hstart.opened hs)
  have hwas : (setCaptureResultCallback a none).requireOpen.2 = true := by
    rw [← setTriggerMode_requireOpen _ .kHardware, requireOpen_snd]
    rw [requireOpen_snd] at hopen
    exact hopen
  have hhardware : HardwareTriggered (triggered a).1.sdk.calls := setTriggerMode_hardware ht hwas
  have hkept : HardwareTriggered (started a mid).1.sdk.calls :=
    startStreamGrab_history (fun c hc _ => HardwareTriggered.cons hc)
      (registerAsWanted_history (a := b) (fun c hc _ => HardwareTriggered.cons hc) hhardware)
  have hgrabbing : (streamOf (started a mid).1.sdk.calls).grabbing = true :=
    (hstart.backed (hset.backed hbacked)).grabbing (hstart.running hs)
  have hcallback : (started a mid).1.userResultCb = some mid :=
    hstart.userResultCb.trans hset.userResultCb
  have hbridge : (streamOf (started a mid).1.sdk.calls).registered = true ↔ TakesBridge a := by
    have hiff := registered_registerAsWanted hbacked hopen rfl
    rw [← hstart.registered, stopStreamGrabIfRunning_sdk] at hiff
    exact hiff
  constructor
  · intro h
    exact hbridge.mp h.registered
  · intro h
    exact ⟨hkept, hgrabbing, hbridge.mpr h, hcallback⟩

end Adapter

namespace Service
variable {π : Type*}

/-- A session of Galaxy cameras: their ids differ, and only the adapter's methods have been called
on them. -/
structure GalaxySession (h : Service DaHengGalaxyAdapter π) : Prop where
  nodup : h.sessionDevicesOrdered.Nodup
  reachable : ∀ mid ∈ h.sessionDevicesOrdered, ∀ slot, h.cameras.open_.lookup mid = some slot →
    slot.adapter.Reachable

def AllDeliver (h : Service DaHengGalaxyAdapter π) : Prop :=
  ∀ mid ∈ h.sessionDevicesOrdered, ∃ slot, h.cameras.open_.lookup mid = some slot ∧
    Delivers slot.adapter mid

/-- No camera that has to register its bridge anew has the SDK throw at the call. -/
def BridgesTaken (h : Service DaHengGalaxyAdapter π) : Prop :=
  ∀ mid ∈ h.sessionDevicesOrdered, ∀ slot, h.cameras.open_.lookup mid = some slot →
    TakesBridge slot.adapter

/-- A session reported as armed delivers exactly if the SDK took the bridge of every camera. -/
theorem armed_delivers_iff {h : Service DaHengGalaxyAdapter π} (hs : h.GalaxySession)
    (hprep : h.prepareHardwareTriggerLocked.2 = none) :
    h.prepareHardwareTriggerLocked.1.AllDeliver ↔ h.BridgesTaken := by
  have hstate := h.prepareHardwareTriggerLocked_toState
  have hdevices : h.prepareHardwareTriggerLocked.1.sessionDevicesOrdered = h.sessionDevicesOrdered :=
    congrArg State.sessionDevicesOrdered hstate
  have hne : h.sessionDevicesOrdered ≠ [] := by
    intro hnil
    rcases h.prepareHardwareTriggerLocked_cases with ⟨_, he⟩ | ⟨hne, _⟩
    · rw [he] at hprep
      cases hprep
    · exact hne hnil
  obtain ⟨hcameras, hnone⟩ := prepareHardwareTriggerLocked_cameras hne
  obtain ⟨herr, _⟩ | ⟨_, hall, _⟩ := armCameras_cases hs.nodup h.cameras
  · exact absurd (hnone.mp hprep) herr
  · unfold AllDeliver BridgesTaken
    rw [hdevices, hcameras]
    -- What one camera delivers after the loop is decided by its adapter before.
    have hone : ∀ mid ∈ h.sessionDevicesOrdered, ∀ slot,
        CameraArmed h.cameras (armCameras h.sessionDevicesOrdered h.cameras).1 mid slot →
          (Delivers (started slot.adapter mid).1 mid ↔ TakesBridge slot.adapter) := by
      intro mid hmid slot harmed
      have hbacked := (hs.reachable mid hmid slot harmed.before).backed
      exact started_delivers_iff hbacked harmed.trigger harmed.stream
    constructor
    · intro hdeliver mid hmid slot hslot
      obtain ⟨slot', harmed⟩ := hall mid hmid
      obtain rfl := Option.some.inj (hslot.symm.trans harmed.before)
      obtain ⟨after, hafter, hdelivers⟩ := hdeliver mid hmid
      obtain rfl := Option.some.inj (harmed.after.symm.trans hafter)
      exact (hone mid hmid slot harmed).mp hdelivers
    · intro htaken mid hmid
      obtain ⟨slot, harmed⟩ := hall mid hmid
      have htakes := htaken mid hmid slot harmed.before
      exact ⟨_, harmed.after, (hone mid hmid slot harmed).mpr htakes⟩

/-- A Galaxy camera as the hub has opened it. -/
def opened (answers : ℕ → Camera.Answer) : DaHengGalaxyAdapter :=
  (DaHengGalaxyAdapter.fresh answers |>.openDevice "192.168.0.10").1

/-- A hub with one Galaxy camera for its session. -/
def galaxyHub (answers : ℕ → Camera.Answer) : Service DaHengGalaxyAdapter EchoPort :=
  { Hub.fresh ∅ {} with
    sessionDevicesOrdered := ["cam-1"]
    cameras.open_ := AList.singleton "cam-1" ⟨"cam-1", {}, opened answers⟩ }

theorem galaxyHub_adapter {answers : ℕ → Camera.Answer} {mid : String}
    {slot : Slot DaHengGalaxyAdapter} (hmid : mid ∈ (galaxyHub answers).sessionDevicesOrdered)
    (hslot : (galaxyHub answers).cameras.open_.lookup mid = some slot) :
    slot.adapter = opened answers := by
  obtain rfl := List.mem_singleton.mp hmid
  obtain rfl := Option.some.inj hslot
  rfl

theorem galaxyHub_session (answers : ℕ → Camera.Answer) : (galaxyHub answers).GalaxySession := by
  refine ⟨List.nodup_singleton _, fun mid hmid slot hslot => ?_⟩
  rw [galaxyHub_adapter hmid hslot]
  exact ⟨answers, [.openDevice "192.168.0.10"], rfl⟩

theorem armed_delivers_iff_bench :
    (galaxyHub fun _ => {}).prepareHardwareTriggerLocked.1.AllDeliver ∧
      (galaxyHub fun _ => {}).BridgesTaken := by
  have hprep : (galaxyHub fun _ => {}).prepareHardwareTriggerLocked.2 = none := by decide +kernel
  have htaken : (galaxyHub fun _ => {}).BridgesTaken := by
    intro mid hmid slot hslot
    rw [galaxyHub_adapter hmid hslot]
    right
    decide +kernel
  exact ⟨(armed_delivers_iff (galaxyHub_session _) hprep).mpr htaken, htaken⟩

/-- An SDK that throws at one call. -/
def throwsAt (n : ℕ) : ℕ → Camera.Answer := fun i => if i = n then { throws := some "busy" } else {}

/-- The hub as it starts up with one Galaxy camera. -/
def galaxyStartup (answers : ℕ → Camera.Answer) : Service DaHengGalaxyAdapter EchoPort :=
  (Hub.fresh (AList.singleton "daheng" (DaHengGalaxyAdapter.fresh answers)) {}
    |>.unifiedStartupFromConfig oneCamera (.mapped zeroed)).1

/-- The callback is set, the exception is swallowed, and the hub goes ready. -/
theorem armed_without_bridge :
    (galaxyStartup (throwsAt 10)).hubRuntime.code = kReady ∧
      (galaxyStartup (throwsAt 10)).sessionDevicesOrdered = ["cam-1"] ∧
      ((galaxyStartup (throwsAt 10)).cameras.open_.lookup "cam-1").map
        (fun slot => (streamOf slot.adapter.sdk.calls).registered) = some false ∧
      ¬ ∀ h : Service DaHengGalaxyAdapter EchoPort, h.GalaxySession →
        h.prepareHardwareTriggerLocked.2 = none → h.prepareHardwareTriggerLocked.1.AllDeliver := by
  have hready : (galaxyStartup (throwsAt 10)).hubRuntime.code = kReady := by decide +kernel
  have hdevices : (galaxyStartup (throwsAt 10)).sessionDevicesOrdered = ["cam-1"] := by
    decide +kernel
  have hunregistered : ((galaxyStartup (throwsAt 10)).cameras.open_.lookup "cam-1").map
      (fun slot => (streamOf slot.adapter.sdk.calls).registered) = some false := by decide +kernel
  refine ⟨hready, hdevices, hunregistered, fun hall => ?_⟩
  have hprep : (galaxyHub (throwsAt 10)).prepareHardwareTriggerLocked.2 = none := by decide +kernel
  have hbare : ((galaxyHub (throwsAt 10)).prepareHardwareTriggerLocked.1.cameras.open_.lookup
      "cam-1").map (fun slot => (streamOf slot.adapter.sdk.calls).registered) = some false := by
    decide +kernel
  have hmem : "cam-1" ∈
      (galaxyHub (throwsAt 10)).prepareHardwareTriggerLocked.1.sessionDevicesOrdered := by
    decide +kernel
  obtain ⟨slot, hslot, hdelivers⟩ := hall _ (galaxyHub_session _) hprep "cam-1" hmem
  rw [hslot, Option.map_some, hdelivers.registered] at hbare
  cases hbare

end Service

end Camera3D.Hub
