import Camera3D.Camera.FailedStart
import Camera3D.Camera.Registered
import Camera3D.Serial.Projector

/-! A capture by callback: the hardware trigger, a frame callback for as long as the frames come, and
what is left of the callback when the capture returns. -/
namespace Camera3D.Camera
open ICameraAdapter

/-- The calls about frames. A frame callback is represented by a name of its own. -/
class AsyncAdapter (α : Type*) where
  setFrameCallback : α → Option String → α
  startAsyncGrab : α → α × Bool
  /-- The callback that a frame would be handed to. -/
  frameCallback : α → Option String

open AsyncAdapter

namespace NullCameraAdapter

def startAsyncGrab (a : NullCameraAdapter) : NullCameraAdapter × Bool :=
  if !a.open_ then (a.setErr .kNotOpen "not open", false)
  else if a.asyncFrameCb = none ∧ a.asyncResultCb = none then
    (a.setErr .kInvalidParameter "frame and result callbacks are both empty", false)
  else (a.setErr .kOk "", true)

instance : AsyncAdapter NullCameraAdapter where
  setFrameCallback a cb := { a with asyncFrameCb := cb }
  startAsyncGrab := startAsyncGrab
  frameCallback := asyncFrameCb

end NullCameraAdapter

instance : AsyncAdapter DaHengGalaxyAdapter where
  setFrameCallback := DaHengGalaxyAdapter.setFrameCallback
  startAsyncGrab := DaHengGalaxyAdapter.startAsyncGrab
  frameCallback := DaHengGalaxyAdapter.userFrameCb

instance : AsyncAdapter RegisteredAdapter where
  setFrameCallback
    | .null a, cb => .null (setFrameCallback a cb)
    | .daheng a, cb => .daheng (setFrameCallback a cb)
  startAsyncGrab
    | .null a => RegisteredAdapter.wrap .null (startAsyncGrab a)
    | .daheng a => RegisteredAdapter.wrap .daheng (startAsyncGrab a)
  frameCallback
    | .null a => frameCallback a
    | .daheng a => frameCallback a

namespace CameraManager
variable {α : Type*} [ICameraAdapter α]

def stopAsyncGrab (m : CameraManager α) (mid : String) : CameraManager α :=
  (m.withAdapter mid () fun a => (ICameraAdapter.stopAsyncGrab a, ())).1

variable [AsyncAdapter α]

def startAsyncGrab (m : CameraManager α) (mid cb : String) : CameraManager α × Bool :=
  m.withAdapter mid false fun a => AsyncAdapter.startAsyncGrab (setFrameCallback a (some cb))

omit [ICameraAdapter α] in
/-- No open device hands its frames to this callback. -/
def Without (m : CameraManager α) (cb : String) : Prop :=
  ∀ mid slot, m.open_.lookup mid = some slot → frameCallback slot.adapter ≠ some cb

end CameraManager
end Camera3D.Camera

namespace Camera3D.Capture
open Camera Serial

/-- The frames that the callback is handed, by what the capture is doing when they come. -/
structure Arrivals where
  sending : List FrameBuffer := []
  /-- Those before the deadline, in their order. -/
  waiting : List FrameBuffer := []
  copying : List FrameBuffer := []

def waitForCallbackFrames (maxFrames : ℕ) (acc : List FrameBuffer) :
    List FrameBuffer → List FrameBuffer
  | [] => acc
  | fb :: rest =>
    if 0 < maxFrames ∧ maxFrames ≤ acc.length then acc
    else waitForCallbackFrames maxFrames (acc ++ [fb]) rest

structure Captured (α π : Type*) where
  cameras : CameraManager α
  serial : π
  outFrames : List FrameBuffer := []
  outError : String := ""
  ok : Bool := false

variable {α π : Type*} [ICameraAdapter α] [AsyncAdapter α] [ISerialPort π]

/-- `sendFn` returns the text of its error. The callback `cb` is a new one in every capture. -/
def runCallbackCapture (cameras : CameraManager α) (mid : String) (serial : π)
    (sendFn : π → π × Option String) (maxFrames : ℕ) (cb : String) (arrivals : Arrivals) :
    Captured α π :=
  if !ISerialPort.isOpen serial then { cameras, serial, outError := "serial not open" }
  else
    match (cameras.stopAsyncGrab mid).setTriggerMode mid .kHardware with
    | (cameras, false) =>
      { cameras, serial, outError :=
          "SetTriggerMode hardware failed: " ++ cameras.getLastErrorMessage mid }
    | (cameras, true) =>
      match cameras.startAsyncGrab mid cb with
      | (cameras, false) =>
        { cameras, serial, outError := "StartAsyncGrab failed: " ++ cameras.getLastErrorMessage mid }
      | (cameras, true) =>
        match sendFn serial with
        | (serial, some error) =>
          { cameras := cameras.stopAsyncGrab mid, serial, outError := error }
        | (serial, none) =>
          let acc := waitForCallbackFrames maxFrames arrivals.sending arrivals.waiting
          let outFrames := acc ++ arrivals.copying
          let cameras := cameras.stopAsyncGrab mid
          if outFrames = [] then
            { cameras, serial, outError := "no frame in callback within timeout" }
          else { cameras, serial, outFrames, ok := true }

def fireProjectorAndCollectViaCallback (cameras : CameraManager α) (mid : String) (serial : π)
    (projectorPayload : List UInt8) (maxFrames : ℕ) (cb : String) (arrivals : Arrivals) :
    Captured α π :=
  if mid = "" then { cameras, serial, outError := "empty manager_device_id" }
  else
    runCallbackCapture cameras mid serial
      (fun port =>
        match ISerialPort.writeBytes port projectorPayload with
        | (port, true) => (port, none)
        | (port, false) =>
          (port, some ("serial write failed: " ++ ISerialPort.getLastErrorMessage port)))
      maxFrames cb arrivals

def fireProductionAndCollectViaCallback (cameras : CameraManager α) (mid : String) (serial : π)
    (cmd : Command) (projectorAckTimeoutMs : ℕ) (maxFrames : ℕ) (cb : String) (arrivals : Arrivals) :
    Captured α π :=
  if mid = "" then { cameras, serial, outError := "empty manager_device_id" }
  else
    runCallbackCapture cameras mid serial
      (fun port =>
        match sendProductionCommand port cmd projectorAckTimeoutMs with
        | (port, pr) => (port, if pr.ok then none else some pr.message))
      maxFrames cb arrivals

/-- What a capture over an open serial port does to the adapter of its device. -/
def capturedAdapter (a : α) (cb : String) : α :=
  match ICameraAdapter.setTriggerMode (ICameraAdapter.stopAsyncGrab a) .kHardware with
  | (a, false) => a
  | (a, true) =>
    match AsyncAdapter.startAsyncGrab (AsyncAdapter.setFrameCallback a (some cb)) with
    | (a, false) => a
    | (a, true) => ICameraAdapter.stopAsyncGrab a

section Devices
variable {m n : CameraManager α} {mid cb : String} {serial : π} {sendFn : π → π × Option String}
  {maxFrames : ℕ} {arrivals : Arrivals} {slot : Slot α}

/-- The second table has this adapter in the place of the other, and nothing else has changed. -/
structure Replaced (m n : CameraManager α) (mid : String) (slot : Slot α) (a : α) : Prop where
  self : n.open_.lookup mid = some { slot with adapter := a }
  others : ∀ id, id ≠ mid → n.open_.lookup id = m.open_.lookup id

omit [ICameraAdapter α] [AsyncAdapter α] in
theorem replaced_withAdapter {β : Type*} {dflt : β} {f : α → α × β}
    (h : m.open_.lookup mid = some slot) :
    Replaced m (m.withAdapter mid dflt f).1 mid slot (f slot.adapter).1 ∧
      (m.withAdapter mid dflt f).2 = (f slot.adapter).2 :=
  ⟨⟨CameraManager.lookup_withAdapter_self h, fun _ hid => CameraManager.lookup_withAdapter_ne hid⟩,
    CameraManager.withAdapter_snd h⟩

omit [ICameraAdapter α] [AsyncAdapter α] in
theorem Replaced.withAdapter {a : α} {β : Type*} {dflt : β} {f : α → α × β}
    (h : Replaced m n mid slot a) :
    Replaced m (n.withAdapter mid dflt f).1 mid slot (f a).1 ∧
      (n.withAdapter mid dflt f).2 = (f a).2 := by
  obtain ⟨hreplaced, hresult⟩ : Replaced n (n.withAdapter mid dflt f).1 mid _ (f a).1 ∧
      (n.withAdapter mid dflt f).2 = (f a).2 := replaced_withAdapter h.self
  exact ⟨⟨hreplaced.self, fun id hid => (hreplaced.others id hid).trans (h.others id hid)⟩, hresult⟩

theorem runCallbackCapture_replaced (hopen : ISerialPort.isOpen serial = true)
    (h : m.open_.lookup mid = some slot) :
    Replaced m (runCallbackCapture m mid serial sendFn maxFrames cb arrivals).cameras mid slot
      (capturedAdapter slot.adapter cb) := by
  unfold runCallbackCapture capturedAdapter
  rw [if_neg (by simp [hopen])]
  have hstopped : Replaced m (m.stopAsyncGrab mid) mid slot
      (ICameraAdapter.stopAsyncGrab slot.adapter) := (replaced_withAdapter h).1
  obtain ⟨hset, hsetOk⟩ : Replaced m ((m.stopAsyncGrab mid).setTriggerMode mid .kHardware).1 mid slot _ ∧
      ((m.stopAsyncGrab mid).setTriggerMode mid .kHardware).2 = _ := hstopped.withAdapter
  rcases hm : (m.stopAsyncGrab mid).setTriggerMode mid .kHardware with ⟨m₁, ok₁⟩
  rcases ha : ICameraAdapter.setTriggerMode (ICameraAdapter.stopAsyncGrab slot.adapter) .kHardware with
    ⟨a₁, ok⟩
  rw [hm, ha] at hset hsetOk
  obtain rfl : ok₁ = ok := hsetOk
  cases ok₁ with
  | false => exact hset
  | true =>
    obtain ⟨hstart, hstartOk⟩ : Replaced m (m₁.startAsyncGrab mid cb).1 mid slot _ ∧
        (m₁.startAsyncGrab mid cb).2 = _ := hset.withAdapter
    dsimp only
    rcases hm : m₁.startAsyncGrab mid cb with ⟨m₂, ok₂⟩
    rcases ha : AsyncAdapter.startAsyncGrab (AsyncAdapter.setFrameCallback a₁ (some cb)) with ⟨a₂, ok⟩
    rw [hm, ha] at hstart hstartOk
    obtain rfl : ok₂ = ok := hstartOk
    cases ok₂ with
    | false => exact hstart
    | true =>
      have hend : Replaced m (m₂.stopAsyncGrab mid) mid slot (ICameraAdapter.stopAsyncGrab a₂) :=
        hstart.withAdapter.1
      dsimp only
      split
      · exact hend
      · split <;> exact hend

/-- Without a port or without the device the table is as it was. -/
theorem runCallbackCapture_untouched
    (h : ISerialPort.isOpen serial = false ∨ m.open_.lookup mid = none) :
    (runCallbackCapture m mid serial sendFn maxFrames cb arrivals).cameras = m := by
  unfold runCallbackCapture
  cases hopen : ISerialPort.isOpen serial with
  | false => rfl
  | true =>
    have hnone : m.open_.lookup mid = none := h.resolve_left (by simp [hopen])
    have hstop : m.stopAsyncGrab mid = m := by
      unfold CameraManager.stopAsyncGrab
      rw [CameraManager.withAdapter_of_none hnone]
    have hset : m.setTriggerMode mid .kHardware = (m, false) := CameraManager.withAdapter_of_none hnone
    rw [if_neg (by simp), hstop, hset]

theorem runCallbackCapture_without_iff (hnew : m.Without cb) :
    (runCallbackCapture m mid serial sendFn maxFrames cb arrivals).cameras.Without cb ↔
      ∀ slot, ISerialPort.isOpen serial = true → m.open_.lookup mid = some slot →
        AsyncAdapter.frameCallback (capturedAdapter slot.adapter cb) ≠ some cb := by
  constructor
  · intro hwithout slot hopen hslot
    exact hwithout mid _ (runCallbackCapture_replaced hopen hslot).self
  · intro hcaptured
    by_cases hopen : ISerialPort.isOpen serial = true
    · cases hslot : m.open_.lookup mid with
      | none =>
        rw [runCallbackCapture_untouched (.inr hslot)]
        exact hnew
      | some slot =>
        have hreplaced : Replaced m (runCallbackCapture m mid serial sendFn maxFrames cb arrivals).cameras
            mid slot (capturedAdapter slot.adapter cb) := runCallbackCapture_replaced hopen hslot
        intro id slot' hslot'
        by_cases hid : id = mid
        · subst hid
          rw [hreplaced.self] at hslot'
          obtain rfl := Option.some.inj hslot'
          exact hcaptured slot hopen hslot
        · rw [hreplaced.others id hid] at hslot'
          exact hnew id slot' hslot'
    · rw [runCallbackCapture_untouched (.inl (Bool.eq_false_iff.mpr hopen))]
      exact hnew

end Devices

end Camera3D.Capture
