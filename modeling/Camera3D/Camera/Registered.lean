import Camera3D.Camera.Quiet

/-! The virtual camera, and the adapters of a hub that registers it beside the Galaxy cameras. -/
namespace Camera3D.Camera
open ICameraAdapter

structure NullCameraAdapter where
  open_ : Bool := false
  deviceId : String := ""
  asyncFrameCb : Option String := none
  asyncResultCb : Option String := none
  lastCode : CameraError := .kOk
  lastMsg : String := ""

namespace NullCameraAdapter

def setErr (a : NullCameraAdapter) (c : CameraError) (msg : String) : NullCameraAdapter :=
  { a with lastCode := c, lastMsg := msg }

def openDevice (a : NullCameraAdapter) (deviceId : String) : NullCameraAdapter × Bool :=
  ({ a with open_ := true, deviceId }.setErr .kOk "", true)

def close (a : NullCameraAdapter) : NullCameraAdapter :=
  { a with open_ := false, deviceId := "", asyncFrameCb := none, asyncResultCb := none }

def setTriggerMode (a : NullCameraAdapter) (_ : TriggerMode) : NullCameraAdapter × Bool :=
  if !a.open_ then (a.setErr .kNotOpen "not open", false) else (a.setErr .kOk "", true)

/-- It has no stream to start or to stop. -/
instance : ICameraAdapter NullCameraAdapter where
  cloneForSession _ := {}
  openDevice := openDevice
  close := close
  stopAsyncGrab a := a
  setTriggerMode := setTriggerMode
  setCaptureResultCallback a cb := { a with asyncResultCb := cb }
  getLastErrorMessage := lastMsg

instance : ObservedAdapter NullCameraAdapter where
  resultCallback := asyncResultCb
  streams _ := false

instance : ClosesDown NullCameraAdapter where
  close _ _ := ⟨rfl, rfl⟩
  openDevice _ _ hfail := nomatch hfail

end NullCameraAdapter

/-- An adapter of either backend. -/
inductive RegisteredAdapter where
  | null (a : NullCameraAdapter)
  | daheng (a : DaHengGalaxyAdapter)

namespace RegisteredAdapter

def wrap {α β : Type*} (f : α → RegisteredAdapter) (r : α × β) : RegisteredAdapter × β := (f r.1, r.2)

instance : ICameraAdapter RegisteredAdapter where
  cloneForSession
    | .null a => .null (cloneForSession a)
    | .daheng a => .daheng (cloneForSession a)
  openDevice
    | .null a, key => wrap .null (openDevice a key)
    | .daheng a, key => wrap .daheng (openDevice a key)
  close
    | .null a => .null (close a)
    | .daheng a => .daheng (close a)
  stopAsyncGrab
    | .null a => .null (stopAsyncGrab a)
    | .daheng a => .daheng (stopAsyncGrab a)
  setTriggerMode
    | .null a, mode => wrap .null (setTriggerMode a mode)
    | .daheng a, mode => wrap .daheng (setTriggerMode a mode)
  setCaptureResultCallback
    | .null a, cb => .null (setCaptureResultCallback a cb)
    | .daheng a, cb => .daheng (setCaptureResultCallback a cb)
  startStreamGrab
    | .null a => wrap .null (startStreamGrab a)
    | .daheng a => wrap .daheng (startStreamGrab a)
  getLastErrorMessage
    | .null a => getLastErrorMessage a
    | .daheng a => getLastErrorMessage a

instance : ObservedAdapter RegisteredAdapter where
  resultCallback
    | .null a => ObservedAdapter.resultCallback a
    | .daheng a => ObservedAdapter.resultCallback a
  streams
    | .null a => ObservedAdapter.streams a
    | .daheng a => ObservedAdapter.streams a

/-- What the adapter inside has been through. -/
def Inside : RegisteredAdapter → Prop
  | .null a => Driven a
  | .daheng a => Driven a

theorem inside_of_driven {a : RegisteredAdapter} (h : Driven a) : a.Inside := by
  induction h with
  | openDevice a key =>
    cases a with
    | null a => exact Driven.openDevice a key
    | daheng a => exact Driven.openDevice a key
  | @setTriggerMode a _ mode ih =>
    cases a with
    | null a => exact Driven.setTriggerMode ih mode
    | daheng a => exact Driven.setTriggerMode ih mode
  | @setCaptureResultCallback a _ cb ih =>
    cases a with
    | null a => exact Driven.setCaptureResultCallback ih cb
    | daheng a => exact Driven.setCaptureResultCallback ih cb
  | @startStreamGrab a _ ih =>
    cases a with
    | null a => exact Driven.startStreamGrab ih
    | daheng a => exact Driven.startStreamGrab ih

instance : ClosesDown RegisteredAdapter where
  close a h := by
    have hinside := inside_of_driven h
    cases a with
    | null a =>
      obtain ⟨hcallback, hstreams⟩ := ClosesDown.close a hinside
      exact ⟨hcallback, hstreams⟩
    | daheng a =>
      obtain ⟨hcallback, hstreams⟩ := ClosesDown.close a hinside
      exact ⟨hcallback, hstreams⟩
  openDevice a key hfail := by
    cases a with
    | null a => cases hfail
    | daheng a =>
      obtain ⟨hcallback, hstreams⟩ := ClosesDown.openDevice a key hfail
      exact ⟨hcallback, hstreams⟩

end RegisteredAdapter
end Camera3D.Camera
