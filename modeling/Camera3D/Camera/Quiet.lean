import Camera3D.Camera.ByValue
import Camera3D.Camera.GalaxyThrows

/-! What a camera that was closed, or never opened, still holds: no result callback, and no stream. -/
namespace Camera3D.Camera
open ICameraAdapter

/-- What there is to see of an adapter. -/
class ObservedAdapter (α : Type*) where
  resultCallback : α → Option String
  streams : α → Bool

open ObservedAdapter

/-- Nothing is left on the adapter. -/
structure Quiet {α : Type*} [ObservedAdapter α] (a : α) : Prop where
  resultCallback : resultCallback a = none
  streams : streams a = false

/-- An adapter as the manager gets it and calls it: a clone that was told to open, before it closes. -/
inductive Driven {α : Type*} [ICameraAdapter α] : α → Prop
  | openDevice (a : α) (key : String) : Driven (openDevice (cloneForSession a) key).1
  | setTriggerMode {a : α} (h : Driven a) (mode : TriggerMode) : Driven (setTriggerMode a mode).1
  | setCaptureResultCallback {a : α} (h : Driven a) (cb : Option String) :
    Driven (setCaptureResultCallback a cb)
  | startStreamGrab {a : α} (h : Driven a) : Driven (startStreamGrab a).1

/-- Closing leaves nothing behind, and no more does an attempt to open that fails. -/
class ClosesDown (α : Type*) [ICameraAdapter α] [ObservedAdapter α] : Prop where
  close : ∀ a : α, Driven a → Quiet (close (stopAsyncGrab a))
  openDevice : ∀ (a : α) (key : String), (openDevice (cloneForSession a) key).2 = false →
    Quiet (openDevice (cloneForSession a) key).1

/-- An adapter that the manager has given up: it would not open, or it was stopped and closed. -/
inductive Released {α : Type*} [ICameraAdapter α] : α → Prop
  | refused (a : α) (key : String) (hfail : (openDevice (cloneForSession a) key).2 = false) :
    Released (openDevice (cloneForSession a) key).1
  | closed {a : α} (h : Driven a) : Released (close (stopAsyncGrab a))

theorem Released.quiet {α : Type*} [ICameraAdapter α] [ObservedAdapter α] [ClosesDown α] {a : α}
    (h : Released a) : Quiet a := by
  cases h with
  | refused a key hfail => exact ClosesDown.openDevice a key hfail
  | closed h => exact ClosesDown.close _ h

instance : ObservedAdapter ReadyCamera where
  resultCallback := ReadyCamera.callback
  streams := ReadyCamera.streaming

instance : ClosesDown ReadyCamera where
  close _ _ := ⟨rfl, rfl⟩
  openDevice _ _ hfail := nomatch hfail

instance : ObservedAdapter DaHengGalaxyAdapter where
  resultCallback := DaHengGalaxyAdapter.userResultCb
  streams a := a.stream || a.grabRunning || a.captureRegistered

namespace DaHengGalaxyAdapter
variable {a : DaHengGalaxyAdapter}

theorem quiet_of_unset (h : a.Unset) (hcallback : a.userResultCb = none) (hstream : a.stream = false) :
    Quiet a := by
  refine ⟨hcallback, ?_⟩
  change (a.stream || a.grabRunning || a.captureRegistered) = false
  rw [hstream, h.grabRunning, h.captureRegistered]
  rfl

/-- The flag of an open adapter, and whether it has a stream. -/
def handles (a : DaHengGalaxyAdapter) : Bool × Bool := (a.open_, a.stream)

/-- There is no stream without an open adapter. -/
def Held (a : DaHengGalaxyAdapter) : Prop := a.stream = true → a.open_ = true

theorem Held.of_handles {b : DaHengGalaxyAdapter} (h : a.Held) (hb : b.handles = a.handles) :
    b.Held := by
  obtain ⟨hopen, hstream⟩ := Prod.ext_iff.mp hb
  exact fun hs => hopen.trans (h (hstream.symm.trans hs))

theorem handles_stopStreamGrabIfRunning (a : DaHengGalaxyAdapter) :
    a.stopStreamGrabIfRunning.handles = a.handles := by
  unfold stopStreamGrabIfRunning
  dsimp only
  split_ifs <;> rfl

theorem handles_stopAsyncGrab (a : DaHengGalaxyAdapter) : a.stopAsyncGrab.handles = a.handles := by
  unfold stopAsyncGrab
  rw [handles_stopStreamGrabIfRunning]
  unfold handles
  dsimp only
  split_ifs <;> rfl

theorem handles_setTriggerMode (a : DaHengGalaxyAdapter) (mode : TriggerMode) :
    (a.setTriggerMode mode).1.handles = a.handles := by
  unfold setTriggerMode
  dsimp only
  split_ifs
  · rfl
  · split
    next b he =>
      obtain rfl := tries_fst he
      rfl
    next b _ he =>
      obtain rfl := tries_fst he
      rfl

theorem handles_startStreamGrab (a : DaHengGalaxyAdapter) :
    a.startStreamGrab.1.handles = a.handles := by
  have hrequired : a.requireOpen.1.handles = a.handles := by
    unfold requireOpen
    split_ifs <;> rfl
  unfold startStreamGrab
  split
  next b he =>
    rw [he] at hrequired
    exact hrequired
  next b he =>
    rw [he] at hrequired
    rw [← hrequired]
    split_ifs
    · rfl
    · split
      next d he =>
        obtain rfl := tries_fst he
        rfl
      next d _ he =>
        obtain rfl := tries_fst he
        rfl

theorem handles_registerAsWanted (a : DaHengGalaxyAdapter) :
    a.registerAsWanted.handles = a.handles := by
  have hstopped := a.handles_stopStreamGrabIfRunning
  unfold registerAsWanted
  dsimp only
  split_ifs
  · rfl
  · rw [← hstopped]
    split
    next b he =>
      obtain rfl := tries_fst he
      rfl
    next b _ he =>
      obtain rfl := tries_fst he
      rfl
  · split
    next b he =>
      obtain rfl := tries_fst he
      exact handles_stopStreamGrabIfRunning _
    next b _ he =>
      obtain rfl := tries_fst he
      rfl
  · rfl

theorem stopAsyncGrab_userResultCb (a : DaHengGalaxyAdapter) : a.stopAsyncGrab.userResultCb = none :=
  (stopStreamGrabIfRunning_stopped _).userResultCb

theorem closeHandles_userResultCb (a : DaHengGalaxyAdapter) :
    a.closeHandles.userResultCb = a.userResultCb := by
  unfold closeHandles
  split
  next b _ he =>
    obtain rfl := tries_fst he
    rfl
  next b he =>
    obtain rfl := tries_fst he
    split_ifs <;> rfl

/-- Closing takes the callback and the stream, whatever the SDK throws. -/
theorem Held.close (h : a.Held) : a.close.userResultCb = none ∧ a.close.stream = false := by
  have hcallback := a.stopAsyncGrab_userResultCb
  have hheld := h.of_handles a.handles_stopAsyncGrab
  unfold DaHengGalaxyAdapter.close
  dsimp only
  split_ifs with hopen
  · refine ⟨hcallback, Bool.eq_false_iff.mpr fun hstream => ?_⟩
    rw [hheld hstream] at hopen
    cases hopen
  · exact ⟨(closeHandles_userResultCb _).trans hcallback, rfl⟩

/-- Opening leaves the callback alone. Where no exception ends it, it opens the adapter with its
stream, or leaves both as they are. -/
structure OpensHandles (before after : DaHengGalaxyAdapter) (result : Except String Bool) : Prop where
  userResultCb : after.userResultCb = before.userResultCb
  opened : result = .ok true → after.open_ = true
  refused : result = .ok false → after.handles = before.handles

theorem openStreams_opens (a : DaHengGalaxyAdapter) (deviceId : String) :
    a.OpensHandles (a.openStreams deviceId).1 (a.openStreams deviceId).2 := by
  unfold openStreams
  split
  next b _ he =>
    obtain rfl := tries_fst he
    exact ⟨rfl, nofun, nofun⟩
  next b he =>
    obtain rfl := tries_fst he
    split
    next d _ he =>
      obtain rfl := tries_fst he
      exact ⟨rfl, nofun, nofun⟩
    next d he =>
      obtain rfl := tries_fst he
      split
      next e _ he =>
        obtain rfl := tries_fst he
        exact ⟨rfl, nofun, nofun⟩
      next e he =>
        obtain rfl := tries_fst he
        exact ⟨rfl, fun _ => rfl, nofun⟩

theorem openHandles_opens (a : DaHengGalaxyAdapter) (deviceId : String) :
    a.OpensHandles (a.openHandles deviceId).1 (a.openHandles deviceId).2 := by
  unfold openHandles
  split
  next b _ he =>
    obtain rfl := tries_fst he
    exact ⟨rfl, nofun, nofun⟩
  next b he =>
    have hcallback : b.userResultCb = a.userResultCb := by
      obtain rfl := tries_fst he
      rfl
    have hhandles : b.handles = a.handles := by
      obtain rfl := tries_fst he
      rfl
    split
    next => exact ⟨hcallback, nofun, nofun⟩
    next sdk answer _ =>
      by_cases hcount : answer.streamCount ≤ 0
      · rw [if_pos hcount]
        split
        next d _ he =>
          obtain rfl := tries_fst he
          exact ⟨hcallback, nofun, nofun⟩
        next d he =>
          obtain rfl := tries_fst he
          exact ⟨hcallback, nofun, fun _ => hhandles⟩
      · rw [if_neg hcount]
        have h := openStreams_opens { b with device := true, sdk } deviceId
        exact ⟨h.userResultCb.trans hcallback, h.opened, fun hr => (h.refused hr).trans hhandles⟩

theorem cleanupAfterFailure_userResultCb (a : DaHengGalaxyAdapter) :
    a.cleanupAfterFailure.userResultCb = a.userResultCb := by
  unfold cleanupAfterFailure
  dsimp only
  split_ifs <;> rfl

theorem Held.openDevice (h : a.Held) (deviceId : String) :
    (a.openDevice deviceId).1.Held ∧
      ((a.openDevice deviceId).2 = false → Quiet (a.openDevice deviceId).1) := by
  have hunset := a.openDevice_unset deviceId
  obtain ⟨hcallback, hstream⟩ := h.close
  obtain ⟨hkept, hopened, hrefused⟩ := a.close.openHandles_opens deviceId
  unfold DaHengGalaxyAdapter.openDevice at hunset ⊢
  split at hunset
  next b opened he =>
    simp only [he] at hkept hopened hrefused ⊢
    cases opened with
    | true => exact ⟨fun _ => hopened rfl, nofun⟩
    | false =>
      have hnone : b.stream = false := (Prod.ext_iff.mp (hrefused rfl)).2.trans hstream
      refine ⟨fun hs => ?_, fun _ => quiet_of_unset hunset (hkept.trans hcallback) hnone⟩
      cases hnone.symm.trans hs
  next b what he =>
    simp only [he] at hkept ⊢
    have hcb := (cleanupAfterFailure_userResultCb b).trans (hkept.trans hcallback)
    exact ⟨nofun, fun _ => quiet_of_unset hunset hcb rfl⟩

theorem held_of_driven (h : Driven a) : a.Held := by
  induction h with
  | openDevice a key =>
    have hnew : Held (cloneForSession a) := nofun
    exact (hnew.openDevice key).1
  | setTriggerMode _ mode ih => exact ih.of_handles (handles_setTriggerMode _ mode)
  | setCaptureResultCallback _ cb ih => exact ih.of_handles (handles_registerAsWanted _)
  | startStreamGrab _ ih => exact ih.of_handles (handles_startStreamGrab _)

instance : ClosesDown DaHengGalaxyAdapter where
  close a h := by
    have hheld := (held_of_driven h).of_handles a.handles_stopAsyncGrab
    exact quiet_of_unset (close_unset _) hheld.close.1 hheld.close.2
  openDevice a key hfail := by
    have hnew : Held (cloneForSession a) := nofun
    exact (hnew.openDevice key).2 hfail

end DaHengGalaxyAdapter

namespace CameraManager
variable {α : Type*}

/-- The adapters of the open devices. -/
def adapters (m : CameraManager α) : List α := m.open_.entries.map fun e => e.2.adapter

variable [ICameraAdapter α]

/-- The adapter that `CreateAndOpenDevice` opens for a device. -/
def openedAdapter (m : CameraManager α) (device : DeviceInfo) : Option (α × Bool) :=
  if device.backendId = "" ∨ (device.ip = "" ∧ device.serialNumber = "") then none
  else (m.prototypes.lookup device.backendId).map fun proto =>
    openDevice (cloneForSession proto) (openKey device)

theorem createAndOpenDevice_eq (m : CameraManager α) (device : DeviceInfo) :
    m.createAndOpenDevice device "" =
      let (mid, seq) := freshId m.open_ m.open_.keys.length m.seq
      match m.openedAdapter device with
      | some (inst, true) => ({ m with seq, open_ := m.open_.insert mid ⟨mid, device, inst⟩ }, mid)
      | some (inst, false) => ({ m with seq, released := m.released ++ [inst] }, "")
      | none => ({ m with seq }, "") := by
  have hempty : ¬ (("" : String) ≠ "" ∧ "" ∈ m.open_) := fun h => h.1 rfl
  unfold createAndOpenDevice openedAdapter
  rw [if_neg hempty, if_pos rfl]
  dsimp only
  split_ifs with hinfo
  · rfl
  · cases m.prototypes.lookup device.backendId with
    | none => rfl
    | some proto =>
      rw [Option.map_some]
      dsimp only
      generalize openDevice (cloneForSession proto) (openKey device) = r
      rcases r with ⟨inst, _ | _⟩ <;> rfl

theorem driven_openedAdapter {m : CameraManager α} {device : DeviceInfo} {r : α × Bool}
    (h : m.openedAdapter device = some r) : Driven r.1 := by
  unfold openedAdapter at h
  split_ifs at h
  obtain ⟨proto, _, rfl⟩ := Option.map_eq_some_iff.mp h
  exact .openDevice proto (openKey device)

theorem released_openedAdapter {m : CameraManager α} {device : DeviceInfo} {inst : α}
    (h : m.openedAdapter device = some (inst, false)) : Released inst := by
  unfold openedAdapter at h
  split_ifs at h
  obtain ⟨proto, _, heq⟩ := Option.map_eq_some_iff.mp h
  have hrefused := Released.refused proto (openKey device) (by rw [heq])
  rwa [heq] at hrefused

/-- The manager of the prototypes has `n` devices open, and it drives their adapters. -/
structure Manages (prototypes : AList fun _ : String => α) (n : ℕ) (m : CameraManager α) : Prop where
  prototypes : m.prototypes = prototypes
  count : m.adapters.length = n
  driven : ∀ mid slot, m.open_.lookup mid = some slot → Driven slot.adapter
  released : ∀ a ∈ m.released, Released a
  viewed : ∀ maxSize : UInt64, n < maxSize.toNat → Sessions.Viewed maxSize m

variable {prototypes : AList fun _ : String => α} {n : ℕ} {m : CameraManager α}

theorem Manages.of_driven (h : m.Manages prototypes n) {β : Type*} {mid : String} {dflt : β}
    {f : α → α × β} (hf : ∀ a, Driven a → Driven (f a).1) :
    (m.withAdapter mid dflt f).1.Manages prototypes n := by
  cases hslot : m.open_.lookup mid with
  | none => rwa [withAdapter_of_none hslot]
  | some slot =>
    refine ⟨?_, ?_, fun id slot' hid => ?_, ?_, fun maxSize hroom => ?_⟩
    · unfold withAdapter
      rw [hslot]
      exact h.prototypes
    · have hkeys : (m.withAdapter mid dflt f).1.open_.keys = m.open_.keys := by
        unfold withAdapter
        rw [hslot]
        exact AList.keys_replace _ _ _
      have hlength := congrArg List.length hkeys
      simp only [AList.keys, List.keys, List.length_map] at hlength
      exact (List.length_map _).trans (hlength.trans ((List.length_map _).symm.trans h.count))
    · by_cases heq : id = mid
      · rw [heq, lookup_withAdapter_self hslot] at hid
        obtain rfl := Option.some.inj hid
        exact hf _ (h.driven mid slot hslot)
      · rw [lookup_withAdapter_ne heq] at hid
        exact h.driven id slot' hid
    · rw [released_withAdapter]
      exact h.released
    · exact (h.viewed maxSize hroom).withAdapter mid dflt f

theorem Manages.keys_length (h : m.Manages prototypes n) : m.open_.keys.length = n :=
  (List.length_map _).trans ((List.length_map _).symm.trans h.count)

theorem Manages.viewed_createAndOpenDevice (h : m.Manages prototypes n) {maxSize : UInt64}
    (hroom : n < maxSize.toNat) (device : DeviceInfo) :
    Sessions.Viewed maxSize (m.createAndOpenDevice device "").1 :=
  (h.viewed maxSize hroom).createAndOpenDevice (h.keys_length.symm ▸ hroom) device ""

theorem Manages.createAndOpenDevice (h : m.Manages prototypes n) (hlen : n < 2 ^ 64)
    {device : DeviceInfo} (hopened : (m.createAndOpenDevice device "").2 ≠ "") :
    (m.createAndOpenDevice device "").1.Manages prototypes (n + 1) := by
  have hnew := freshId_not_mem (h.keys_length ▸ hlen) m.seq
  have hviewed := fun (maxSize : UInt64) (hroom : n + 1 < maxSize.toNat) =>
    h.viewed_createAndOpenDevice (Nat.lt_of_succ_lt hroom) device
  rw [createAndOpenDevice_eq] at hopened hviewed ⊢
  rcases hfresh : freshId m.open_ m.open_.keys.length m.seq with ⟨mid, seq⟩
  rw [hfresh] at hnew hviewed
  dsimp only at hopened hviewed ⊢
  split at hopened
  next inst hinst =>
    refine ⟨h.prototypes, ?_, fun id slot hid => ?_, h.released, ?_⟩
    · unfold adapters
      rw [AList.entries_insert_of_notMem hnew, List.map_cons, List.length_cons]
      exact congrArg (· + 1) h.count
    · by_cases heq : id = mid
      · subst heq
        rw [AList.lookup_insert] at hid
        obtain rfl := Option.some.inj hid
        exact driven_openedAdapter hinst
      · rw [AList.lookup_insert_ne heq] at hid
        exact h.driven id slot hid
    · rw [hinst] at hviewed
      exact hviewed
  next => exact absurd rfl hopened
  next => exact absurd rfl hopened

/-- A device that is not opened costs an id. -/
theorem Manages.refused (h : m.Manages prototypes n) {device : DeviceInfo}
    (hrefused : (m.createAndOpenDevice device "").2 = "") :
    (m.createAndOpenDevice device "").1.Manages prototypes n := by
  have hviewed := fun (maxSize : UInt64) (hroom : n < maxSize.toNat) =>
    h.viewed_createAndOpenDevice hroom device
  rw [createAndOpenDevice_eq] at hrefused hviewed ⊢
  dsimp only at hrefused hviewed ⊢
  split at hrefused
  next => exact absurd hrefused (freshId_ne _ _ _)
  next inst hinst =>
    rw [hinst] at hviewed
    refine ⟨h.prototypes, h.count, h.driven, fun a ha => ?_, hviewed⟩
    rcases List.mem_append.mp ha with ha | ha
    · exact h.released a ha
    · rw [List.mem_singleton.mp ha]
      exact released_openedAdapter hinst
  next hinst =>
    rw [hinst] at hviewed
    exact ⟨h.prototypes, h.count, h.driven, h.released, hviewed⟩

theorem Manages.closeAllDevices (h : m.Manages prototypes n) :
    ∀ a ∈ m.closeAllDevices.released, Released a := by
  intro a ha
  rcases List.mem_append.mp ha with ha | ha
  · exact h.released a ha
  · obtain ⟨⟨mid, slot⟩, hmem, rfl⟩ := List.mem_map.mp ha
    exact .closed (h.driven mid slot (AList.mem_lookup_iff.mpr hmem))

end CameraManager
end Camera3D.Camera
