import Camera3D.Camera.Manager
import Camera3D.Transition.Run

/-! The manager and the adapters it points to: every session is an object that was made for it. -/
namespace Camera3D.Camera

/-- A table holds at most `max_size()` slots; that is a `size_t`. -/
inductive StdError where
  | lengthError
  deriving DecidableEq

/-- The slots point to adapters: an address is an index of `objects`, where every adapter that was
made is, whatever became of it. The prototypes are only cloned. -/
structure Sessions (α : Type*) where
  prototypes : AList fun _ : String => α := ∅
  open_ : AList fun _ : String => Slot ℕ := ∅
  seq : UInt64 := 1
  objects : List α := []

namespace Sessions
variable {α : Type*} [ICameraAdapter α]
open ICameraAdapter

def registerAdapter (s : Sessions α) (backendId : String) (prototype : α) : Sessions α :=
  { s with prototypes := s.prototypes.insert backendId prototype }

/-- The loop that numbers a device, unless it takes more than `fuel` rounds. -/
def number {β : Type*} (open_ : AList fun _ : String => Slot β) : ℕ → UInt64 → Option (String × UInt64)
  | 0, _ => none
  | fuel + 1, seq =>
    let mid := "cam-" ++ toString seq.toNat
    if mid ∈ open_ then number open_ fuel (seq + 1) else some (mid, seq + 1)

section Number
variable {β γ : Type*} {open_ : AList fun _ : String => Slot β}

theorem number_succ (open_ : AList fun _ : String => Slot β) (fuel : ℕ) (seq : UInt64) :
    number open_ (fuel + 1) seq = if (CameraManager.freshId open_ fuel seq).1 ∈ open_ then none
      else some (CameraManager.freshId open_ fuel seq) := by
  induction fuel generalizing seq with
  | zero => rfl
  | succ fuel ih =>
    rw [number, CameraManager.freshId, ih]
    by_cases hmem : "cam-" ++ toString seq.toNat ∈ open_
    · simp only [hmem, if_true]
    · simp only [hmem, if_false]

/-- There are more numbers than a table has slots. -/
theorem number_terminates (hlen : open_.keys.length < 2 ^ 64) (seq : UInt64) :
    number open_ (open_.keys.length + 1) seq =
      some (CameraManager.freshId open_ open_.keys.length seq) := by
  rw [number_succ, if_neg (CameraManager.freshId_not_mem hlen seq)]

theorem number_new {fuel : ℕ} {seq seq' : UInt64} {mid : String}
    (h : number open_ fuel seq = some (mid, seq')) : mid ∉ open_ ∧ mid ≠ "" := by
  cases fuel with
  | zero => cases h
  | succ fuel =>
    rw [number_succ] at h
    split_ifs at h with hmem
    have hne := CameraManager.freshId_ne open_ fuel seq
    rw [Option.some.inj h] at hmem hne
    exact ⟨hmem, hne⟩

theorem number_mono {fuel fuel' : ℕ} {seq : UInt64} {r : String × UInt64}
    (h : number open_ fuel seq = some r) (hle : fuel ≤ fuel') : number open_ fuel' seq = some r := by
  induction fuel generalizing fuel' seq with
  | zero => cases h
  | succ fuel ih =>
    obtain ⟨fuel', rfl⟩ := Nat.exists_eq_add_of_le' (Nat.one_le_of_lt hle)
    rw [number] at h ⊢
    split_ifs at h ⊢ with hmem
    · exact ih h (Nat.le_of_succ_le_succ hle)
    · exact h

theorem number_congr {other : AList fun _ : String => Slot γ} (h : ∀ mid, mid ∈ open_ ↔ mid ∈ other)
    (fuel : ℕ) (seq : UInt64) : number open_ fuel seq = number other fuel seq := by
  induction fuel generalizing seq with
  | zero => rfl
  | succ fuel ih => simp only [number, h, ih]

end Number

/-- A device that has its id is opened. What `Open` does this time, and its answer, is `opens`. -/
def openAs (maxSize : UInt64) (s : Sessions α) (device : DeviceInfo) (mid : String)
    (opens : α → String → α × Bool) : Sessions α × Except StdError String :=
  if device.backendId = "" ∨ (device.ip = "" ∧ device.serialNumber = "") then (s, .ok "")
  else match s.prototypes.lookup device.backendId with
    | none => (s, .ok "")
    | some proto =>
      let (inst, opened) := opens (cloneForSession proto) (CameraManager.openKey device)
      let slot : Slot ℕ := ⟨mid, device, s.objects.length⟩
      let s := { s with objects := s.objects ++ [inst] }
      if opened = false then (s, .ok "")
      else if s.open_.keys.length < maxSize.toNat then
        ({ s with open_ := s.open_.insert mid slot }, .ok mid)
      else (s, .error .lengthError)

def createAndOpenDevice (maxSize : UInt64) (fuel : ℕ) (s : Sessions α) (device : DeviceInfo)
    (managerDeviceId : String) (opens : α → String → α × Bool) :
    Option (Sessions α × Except StdError String) :=
  if managerDeviceId ≠ "" ∧ managerDeviceId ∈ s.open_ then some (s, .ok "")
  else if managerDeviceId = "" then
    (number s.open_ fuel s.seq).map fun (mid, seq) => { s with seq }.openAs maxSize device mid opens
  else some (s.openAs maxSize device managerDeviceId opens)

/-- What becomes of an adapter that is no longer managed. -/
def retire (a : α) : α := close (stopAsyncGrab a)

def closeDevice (s : Sessions α) (managerDeviceId : String) : Sessions α × Bool :=
  match s.open_.lookup managerDeviceId with
  | none => (s, false)
  | some slot =>
    ({ s with open_ := s.open_.erase managerDeviceId, objects := s.objects.modify slot.adapter retire },
      true)

def closeAllDevices (s : Sessions α) : Sessions α :=
  { s with
    open_ := ∅
    objects := s.open_.entries.foldl (fun objects e => objects.modify e.2.adapter retire) s.objects }

/-- Any of the calls that go to the adapter of a device. -/
def call (s : Sessions α) (managerDeviceId : String) (f : α → α) : Sessions α :=
  match s.open_.lookup managerDeviceId with
  | none => s
  | some slot => { s with objects := s.objects.modify slot.adapter f }

inductive Op (α : Type*) where
  | registerAdapter (backendId : String) (prototype : α)
  | createAndOpenDevice (device : DeviceInfo) (managerDeviceId : String) (opens : α → String → α × Bool)
  | closeDevice (managerDeviceId : String)
  | closeAllDevices
  | call (managerDeviceId : String) (f : α → α)

inductive Answer where
  | nothing
  | created (r : Except StdError String)
  | closed (found : Bool)

def step (maxSize : UInt64) (fuel : ℕ) (s : Sessions α) : Op α → Option (Sessions α × Answer)
  | .registerAdapter backendId prototype => some (s.registerAdapter backendId prototype, .nothing)
  | .createAndOpenDevice device managerDeviceId opens =>
    (s.createAndOpenDevice maxSize fuel device managerDeviceId opens).map fun r => (r.1, .created r.2)
  | .closeDevice managerDeviceId =>
    let r := s.closeDevice managerDeviceId
    some (r.1, .closed r.2)
  | .closeAllDevices => some (s.closeAllDevices, .nothing)
  | .call managerDeviceId f => some (s.call managerDeviceId f, .nothing)

/-- The operation ends, in that state and with that answer. -/
def Ends (maxSize : UInt64) (s : Sessions α) (op : Op α) (s' : Sessions α) (answer : Answer) : Prop :=
  ∃ fuel, s.step maxSize fuel op = some (s', answer)

/-- The states of a manager that was just made, with the log of what was asked and answered. -/
inductive Runs (maxSize : UInt64) : Sessions α → List (Op α × Answer) → Prop
  | start : Runs maxSize {} []
  | step {s s' : Sessions α} {log : List (Op α × Answer)} {op : Op α} {answer : Answer}
    (h : Runs maxSize s log) (ends : Ends maxSize s op s' answer) :
    Runs maxSize s' (log ++ [(op, answer)])

/-- The operations one after the other, each with that much fuel. -/
def runOps (maxSize : UInt64) (fuel : ℕ) (s : Sessions α) (log : List (Op α × Answer)) :
    List (Op α) → Option (Sessions α × List (Op α × Answer))
  | [] => some (s, log)
  | op :: ops =>
    (s.step maxSize fuel op).bind fun r => runOps maxSize fuel r.1 (log ++ [(op, r.2)]) ops

theorem Runs.runOps {maxSize : UInt64} {fuel : ℕ} {s s' : Sessions α} {log log' : List (Op α × Answer)}
    {ops : List (Op α)} (h : Runs maxSize s log)
    (hops : Sessions.runOps maxSize fuel s log ops = some (s', log')) : Runs maxSize s' log' := by
  induction ops generalizing s log with
  | nil =>
    cases hops
    exact h
  | cons op ops ih =>
    obtain ⟨r, hstep, hops⟩ := Option.bind_eq_some_iff.mp hops
    exact ih (h.step ⟨fuel, hstep⟩) hops

end Sessions
end Camera3D.Camera
