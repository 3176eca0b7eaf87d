import Mathlib.Algebra.Group.Nat.Defs
import Mathlib.Data.List.AList
import Mathlib.Data.List.Perm.Subperm

/-! Cameras behind adapters, and the manager that opens them and hands out their ids. -/
namespace Camera3D.Camera

inductive TriggerMode where
  | kSoftware
  | kHardware
  deriving DecidableEq

structure DeviceInfo where
  backendId : String := ""
  serialNumber : String := ""
  ip : String := ""
  deriving DecidableEq

def formatDeviceAddress (info : DeviceInfo) : String :=
  if info.backendId = "" ∨ info.serialNumber = "" then ""
  else info.backendId ++ ":" ++ info.serialNumber

structure FrameBuffer where
  bytes : List UInt8 := []
  width : UInt32 := 0
  height : UInt32 := 0
  pixelFormat : UInt32 := 0
  frameId : UInt64 := 0
  timestampUnixNs : Int64 := 0
  /-- History: the capture whose projector command exposed the frame. No function reads it. -/
  trigger : UInt64 := 0
  deriving DecidableEq

/-- An adapter as a state machine. A result callback is represented by the device id it captures. -/
class ICameraAdapter (α : Type*) where
  cloneForSession : α → α
  openDevice : α → String → α × Bool
  close : α → α
  stopAsyncGrab : α → α
  setTriggerMode : α → TriggerMode → α × Bool
  setCaptureResultCallback : α → Option String → α
  startStreamGrab : α → α × Bool := fun a => (a, true)
  getLastErrorMessage : α → String

/-- A camera whose calls all succeed; it remembers whether it streams, and its callback. -/
structure ReadyCamera where
  callback : Option String := none
  streaming : Bool := false
  deriving DecidableEq

instance : ICameraAdapter ReadyCamera where
  cloneForSession c := c
  openDevice c _ := (c, true)
  close _ := {}
  stopAsyncGrab c := { c with streaming := false }
  setTriggerMode c _ := (c, true)
  setCaptureResultCallback c callback := { c with callback }
  startStreamGrab c := ({ c with streaming := true }, true)
  getLastErrorMessage _ := ""

structure Slot (α : Type*) where
  managerId : String
  device : DeviceInfo
  adapter : α

structure CameraManager (α : Type*) where
  prototypes : AList fun _ : String => α := ∅
  open_ : AList fun _ : String => Slot α := ∅
  seq : UInt64 := 1
  /-- History: the adapters that the manager has given up, as it left them. -/
  released : List α := []

namespace CameraManager
variable {α : Type*} [ICameraAdapter α]
open ICameraAdapter

/-- The loop that numbers a device: ids in use are skipped. There are fewer of them than fuel. -/
def freshId (open_ : AList fun _ : String => Slot α) : ℕ → UInt64 → String × UInt64
  | 0, seq => ("cam-" ++ toString seq.toNat, seq + 1)
  | fuel + 1, seq =>
    let mid := "cam-" ++ toString seq.toNat
    if mid ∈ open_ then freshId open_ fuel (seq + 1) else (mid, seq + 1)

theorem name_injective {m n : UInt64}
    (h : "cam-" ++ toString m.toNat = "cam-" ++ toString n.toNat) : m = n := by
  have hrepr : toString m.toNat = toString n.toNat := (String.append_right_inj _).mp h
  have hdigits := congrArg (fun s : String => Nat.ofDigitChars 10 s.toList 0) hrepr
  simp only [Nat.toString_eq_ofList_toDigits, String.toList_ofList,
    Nat.ofDigitChars_ten_toDigits] at hdigits
  exact UInt64.toNat_inj.mp hdigits

omit [ICameraAdapter α] in
theorem freshId_mem {open_ : AList fun _ : String => Slot α} {fuel : ℕ} {seq : UInt64}
    (h : (freshId open_ fuel seq).1 ∈ open_) :
    ∀ i ≤ fuel, "cam-" ++ toString (seq + .ofNat i).toNat ∈ open_ := by
  induction fuel generalizing seq with
  | zero =>
    intro i hi
    obtain rfl := Nat.le_zero.mp hi
    simpa [freshId] using h
  | succ fuel ih =>
    rw [freshId] at h
    by_cases hmem : "cam-" ++ toString seq.toNat ∈ open_
    · rw [if_pos hmem] at h
      intro i hi
      cases i with
      | zero => simpa using hmem
      | succ i =>
        have hi' := ih h i (by omega)
        have hshift : seq + 1 + .ofNat i = seq + .ofNat (i + 1) := by
          rw [UInt64.ofNat_add, UInt64.add_assoc, UInt64.add_comm (.ofNat i)]
          rfl
        rwa [hshift] at hi'
    · rw [if_neg hmem] at h
      exact absurd h hmem

omit [ICameraAdapter α] in
/-- The table has fewer ids than the loop tries. -/
theorem freshId_not_mem {open_ : AList fun _ : String => Slot α}
    (hlen : open_.keys.length < 2 ^ 64) (seq : UInt64) :
    (freshId open_ open_.keys.length seq).1 ∉ open_ := by
  intro hmem
  have hall := freshId_mem hmem
  let name := fun i => "cam-" ++ toString (seq + .ofNat i).toNat
  have hsub : (List.range (open_.keys.length + 1)).map name ⊆ open_.keys := by
    intro s hs
    obtain ⟨i, hi, rfl⟩ := List.mem_map.mp hs
    exact AList.mem_keys.mp (hall i (Nat.lt_succ_iff.mp (List.mem_range.mp hi)))
  have hnodup : ((List.range (open_.keys.length + 1)).map name).Nodup := by
    refine List.Nodup.map_on ?_ List.nodup_range
    intro i hi j hj heq
    have hi := List.mem_range.mp hi
    have hj := List.mem_range.mp hj
    have h64 : (UInt64.ofNat i) = .ofNat j := by
      have h := name_injective heq
      rwa [UInt64.add_right_inj] at h
    have hnat := congrArg UInt64.toNat h64
    rw [UInt64.toNat_ofNat', UInt64.toNat_ofNat'] at hnat
    omega
  have hle := (List.subperm_of_subset hnodup hsub).length_le
  rw [List.length_map, List.length_range] at hle
  omega

def openKey (device : DeviceInfo) : String :=
  if device.ip ≠ "" then device.ip else device.serialNumber

def createAndOpenDevice (m : CameraManager α) (device : DeviceInfo) (managerDeviceId : String) :
    CameraManager α × String :=
  if managerDeviceId ≠ "" ∧ managerDeviceId ∈ m.open_ then (m, "")
  else
    let (mid, seq) := if managerDeviceId = "" then freshId m.open_ m.open_.keys.length m.seq
      else (managerDeviceId, m.seq)
    let m := { m with seq }
    if device.backendId = "" ∨ (device.ip = "" ∧ device.serialNumber = "") then (m, "")
    else match m.prototypes.lookup device.backendId with
      | none => (m, "")
      | some proto =>
        let (inst, opened) := openDevice (cloneForSession proto) (openKey device)
        if opened then ({ m with open_ := m.open_.insert mid ⟨mid, device, inst⟩ }, mid)
        else ({ m with released := m.released ++ [inst] }, "")

omit [ICameraAdapter α] in
theorem freshId_ne (open_ : AList fun _ : String => Slot α) (fuel : ℕ) (seq : UInt64) :
    (freshId open_ fuel seq).1 ≠ "" := by
  have hname : ∀ seq : UInt64, "cam-" ++ toString seq.toNat ≠ "" := by
    intro seq h
    have hlen := congrArg String.length h
    rw [String.length_append] at hlen
    have hcam : "cam-".length = 4 := by decide
    have hempty : "".length = 0 := by decide
    omega
  induction fuel generalizing seq with
  | zero => exact hname seq
  | succ fuel ih =>
    rw [freshId]
    split_ifs
    · exact ih (seq + 1)
    · exact hname seq

/-- Without a caller's id a device gets a new one, or is not opened. -/
theorem createAndOpenDevice_cases (m : CameraManager α) (device : DeviceInfo)
    (hlen : m.open_.keys.length < 2 ^ 64) :
    (m.createAndOpenDevice device "").2 = "" ∨
      ∃ mid slot, mid ≠ "" ∧ mid ∉ m.open_ ∧ (m.createAndOpenDevice device "").2 = mid ∧
        slot.device = device ∧ (m.createAndOpenDevice device "").1.open_ = m.open_.insert mid slot := by
  have hempty : ¬ (("" : String) ≠ "" ∧ "" ∈ m.open_) := fun h => h.1 rfl
  have hne := freshId_ne m.open_ m.open_.keys.length m.seq
  have hnew := freshId_not_mem hlen m.seq
  unfold createAndOpenDevice
  rw [if_neg hempty, if_pos rfl]
  rcases hfresh : freshId m.open_ m.open_.keys.length m.seq with ⟨mid, seq⟩
  rw [hfresh] at hne hnew
  dsimp only
  split_ifs with hinfo
  · exact .inl rfl
  · cases hp : m.prototypes.lookup device.backendId with
    | none => exact .inl rfl
    | some proto =>
      dsimp only
      split_ifs
      · exact .inr ⟨mid, _, hne, hnew, rfl, rfl, rfl⟩
      · exact .inl rfl

/-- The adapters of all devices are stopped and closed once they have left the table. -/
def closeAllDevices (m : CameraManager α) : CameraManager α :=
  { m with
    open_ := ∅
    released := m.released ++ m.open_.entries.map fun e => close (stopAsyncGrab e.2.adapter) }

/-- Runs an adapter call on an open device. -/
def withAdapter {β : Type*} (m : CameraManager α) (mid : String) (dflt : β) (f : α → α × β) :
    CameraManager α × β :=
  match m.open_.lookup mid with
  | none => (m, dflt)
  | some slot =>
    let (adapter, r) := f slot.adapter
    ({ m with open_ := m.open_.replace mid { slot with adapter } }, r)

def setTriggerMode (m : CameraManager α) (mid : String) (mode : TriggerMode) :
    CameraManager α × Bool :=
  m.withAdapter mid false fun a => ICameraAdapter.setTriggerMode a mode

def setResultCallback (m : CameraManager α) (mid : String) (callback : String) : CameraManager α :=
  (m.withAdapter mid () fun a => (setCaptureResultCallback a (some callback), ())).1

def clearResultCallback (m : CameraManager α) (mid : String) : CameraManager α :=
  (m.withAdapter mid () fun a => (setCaptureResultCallback a none, ())).1

def startStreamGrab (m : CameraManager α) (mid : String) : CameraManager α × Bool :=
  m.withAdapter mid false fun a => ICameraAdapter.startStreamGrab a

def getLastErrorMessage (m : CameraManager α) (mid : String) : String :=
  match m.open_.lookup mid with
  | none => "no such managed device"
  | some slot => ICameraAdapter.getLastErrorMessage slot.adapter

end CameraManager
end Camera3D.Camera
