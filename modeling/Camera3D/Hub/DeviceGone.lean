import Camera3D.Hub.SerialUse
import Camera3D.Serial.Win32

/-! A serial device that goes away. The port keeps its handle when a write or a read fails, and the
serial watch asks for nothing but the handle. -/
namespace Camera3D.Hub
open Camera Serial Ipc Transition HubServiceStateCode

namespace Service
variable {α π : Type*} [ICameraAdapter α] [ISerialPort π]

/-- A start-up that succeeds leaves the port open. -/
theorem unifiedStartupFromConfig_isOpen [LawfulSerialPort π] {h : Service α π} {fc : HubFileConfig}
    {boost : BoostOutcome} (hok : (h.unifiedStartupFromConfig fc boost).2 = none) :
    (h.unifiedStartupFromConfig fc boost).1.serial.isOpen = true := by
  have hsession : ∀ h : Service α π, (h.startSession fc boost).2 = none →
      (h.startSession fc boost).1.serial.isOpen = true := by
    intro h hok
    have hopen := h.serial.isOpen_openPort fc.projectorComIndex 115200
    unfold startSession at hok ⊢
    dsimp only at hok ⊢
    split_ifs at hok ⊢ with hcom hserial hshm
    rw [Bool.not_eq_true', Bool.not_eq_false] at hserial
    split at hok
    next laid err hprep => cases hok
    next laid hprep =>
      have hport := congrArg (fun r : Service α π × Option String => r.1.serial) hprep
      dsimp only at hport
      rw [serial_prepareHardwareTriggerLocked] at hport
      rw [← hserial, ← hopen]
      exact congrArg SerialPortManager.isOpen hport.symm
  unfold unifiedStartupFromConfig at hok ⊢
  dsimp only at hok ⊢
  split at hok
  next h' err hopened => cases hok
  next h' hopened => exact hsession h' hok

end Service

namespace Server
variable {α π θ : Type*} [ISerialPort π]

/-- The attempt of a call to open the port succeeds. -/
def Reopens (sv : Server α π θ) (e : ServerEvent α π θ) : Prop :=
  ∃ c com, e.caller = some c ∧ sv.pc c = some (.openPort com) ∧
    (sv.hub.serial.openPort com 115200).2 = true

/-- The port still counts as open, and no call does more than to ask whether it is. -/
structure Attached (sv : Server α π θ) : Prop where
  isOpen : sv.hub.serial.isOpen = true
  asking : ∀ c pc, sv.pc c = some pc → pc = .readCom ∨ ∃ com, pc = .isOpen com
  code : sv.hub.hubRuntime.code ≠ kRuntimeSerialNotConnected

/-- The environment neither opens nor closes the port. -/
def Keeps (sv : Server α π θ) : ServerEvent α π θ → Prop
  | .world (.portChanged port) => ISerialPort.isOpen port = sv.hub.serial.isOpen
  | _ => True

theorem Attached.not_reopens {sv : Server α π θ} (h : sv.Attached) (e : ServerEvent α π θ) :
    ¬ sv.Reopens e := by
  rintro ⟨c, com, _, hpc, _⟩
  rcases h.asking c _ hpc with hread | ⟨com', hask⟩
  · cases hread
  · cases hask

variable [ICameraAdapter α] [ICameraControls α] [DecidableEq θ]

/-- In the run `es` the port is opened again, or it is reported lost at the end. -/
def Notices (sv : Server α π θ) (es : List (ServerEvent α π θ)) : Prop :=
  (∃ es₁ e es₂, es = es₁ ++ e :: es₂ ∧ (run step sv es₁).Reopens e) ∨
    (run step sv es).hub.hubRuntime.code = kRuntimeSerialNotConnected

/-- A call that asks for an open port is done with the recovery. -/
theorem Attached.asking_step {sv : Server α π θ} (h : sv.Attached) (e : ServerEvent α π θ) :
    ∀ c pc, (sv.step e).pc c = some pc → pc = .readCom ∨ ∃ com, pc = .isOpen com := by
  intro c pc hpc
  by_cases hc : e.caller = some c
  · rw [pc_of_runs hc] at hpc
    obtain ⟨pc', hpc', hnext⟩ := Option.bind_eq_some_iff.mp hpc
    rcases h.asking c pc' hpc' with rfl | ⟨com, rfl⟩
    · unfold Service.tryRecoverSerialQuick at hnext
      dsimp only at hnext
      split_ifs at hnext
      exact .inr ⟨_, (Option.some.inj hnext).symm⟩
    · unfold Service.tryRecoverSerialQuick at hnext
      simp [h.isOpen] at hnext
  · rcases pc_of_not_runs hc with hsame | ⟨_, _, hstart⟩
    · exact h.asking c pc (hsame.symm.trans hpc)
    · exact .inl (Option.some.inj (hstart.symm.trans hpc)).symm

theorem Attached.step [LawfulSerialPort π] {sv : Server α π θ} {e : ServerEvent α π θ}
    (h : sv.Attached) (hkeeps : sv.Keeps e) : (sv.step e).Attached := by
  have hch := sv.step_change e
  have hasking := h.asking_step e
  cases hcause : sv.cause e with
  | recovery pc =>
    obtain ⟨c, _, hpc⟩ := pc_of_cause hcause
    rw [hcause] at hch
    have hub : (sv.step e).hub = sv.hub := by
      rw [hch.eq_of_recovery]
      rcases h.asking c pc hpc with rfl | ⟨com, rfl⟩
      · rfl
      · rfl
    constructor
    case isOpen =>
      rw [hub]
      exact h.isOpen
    case asking => exact hasking
    case code =>
      rw [hub]
      exact h.code
  | portChanged =>
    obtain ⟨port, rfl⟩ := cause_portChanged hcause
    exact ⟨hkeeps.trans h.isOpen, hasking, h.code⟩
  | other =>
    rw [hcause] at hch
    constructor
    case isOpen => exact hch.keeps_port (LawfulSerialPort.keptByIO true) h.isOpen
    case asking => exact hasking
    case code => exact fun hlost => h.code (hch.code_of_other hlost)

theorem Attached.not_notices [LawfulSerialPort π] {sv : Server α π θ} (h : sv.Attached)
    {es : List (ServerEvent α π θ)} (hkeeps : Along Server.step Keeps sv es) : ¬ sv.Notices es := by
  rintro (⟨es₁, e, es₂, rfl, hreopens⟩ | hcode)
  · have hkeeps₁ := ((along_append Server.step Keeps sv es₁ (e :: es₂)).mp hkeeps).1
    have hend : (run Server.step sv es₁).Attached :=
      run_invariant_along (fun sv e hP h => h.step hP) hkeeps₁ h
    exact hend.not_reopens e hreopens
  · have hend : (run Server.step sv es).Attached :=
      run_invariant_along (fun sv e hP h => h.step hP) hkeeps h
    exact hend.code hcode

theorem Attached.not_notices_run [LawfulSerialPort π] {sv : Server α π θ} (h : sv.Attached)
    {es₀ es : List (ServerEvent α π θ)} (hkeeps : Along Server.step Keeps sv (es₀ ++ es)) :
    ¬ (run Server.step sv es₀).Notices es := by
  obtain ⟨hbefore, hafter⟩ := (along_append Server.step Keeps sv es₀ es).mp hkeeps
  have hattached : (run Server.step sv es₀).Attached :=
    run_invariant_along (fun sv e hP h => h.step hP) hbefore h
  exact hattached.not_notices hafter

omit [ICameraControls α] [DecidableEq θ] in
theorem booted_attached [LawfulSerialPort π] (prototypes : AList fun _ : String => α) (port : π)
    {fc : HubFileConfig} {boost : BoostOutcome}
    (hok : ((fresh prototypes port : Service α π).unifiedStartupFromConfig fc boost).2 = none)
    (cursor : θ → UInt32) : (booted prototypes port (.started fc boost) cursor).Attached := by
  constructor
  case isOpen => exact Service.unifiedStartupFromConfig_isOpen hok
  case asking =>
    intro c pc hpc
    cases c with
    | task id => cases hpc
    | job id => cases hpc
  case code =>
    rcases Service.unifiedStartupFromConfig_cases prototypes port fc boost with
      ⟨⟨_, hsome⟩, _⟩ | ⟨_, _, _, hready, _⟩
    · cases hok.symm.trans hsome
    · intro hlost
      exact absurd (hready.symm.trans hlost) (by decide)

section Win32
variable {ω : Type*} [Win32Comm ω]

omit [ISerialPort π] in
/-- The environment acts on the operating system and its devices, not on the members of the port. -/
def DeviceOnly (sv : Server α (SerialPortWin32 ω) θ) : ServerEvent α (SerialPortWin32 ω) θ → Prop
  | .world (.portChanged port) => port = { sv.hub.port with os := port.os }
  | _ => True

omit [ISerialPort π] [ICameraAdapter α] [ICameraControls α] [DecidableEq θ] in
instance [DecidableEq ω] (sv : Server α (SerialPortWin32 ω) θ) : ∀ e, Decidable (sv.DeviceOnly e)
  | .world (.portChanged _) => inferInstanceAs (Decidable (_ = _))
  | .world (.call _ _) | .world (.step _) | .world (.cameraFrame _ _ _) => isTrue trivial
  | .world (.cameraChanged _ _) | .world .tick | .request _ _ | .job _ => isTrue trivial

omit [ISerialPort π] [ICameraAdapter α] [ICameraControls α] [DecidableEq θ] in
theorem DeviceOnly.keeps {sv : Server α (SerialPortWin32 ω) θ}
    {e : ServerEvent α (SerialPortWin32 ω) θ} (h : sv.DeviceOnly e) : sv.Keeps e := by
  cases e with
  | request | job => trivial
  | world e =>
    cases e with
    | call | step | cameraFrame | cameraChanged | tick => trivial
    | portChanged port =>
      have hsame : port = { sv.hub.port with os := port.os } := h
      show ISerialPort.isOpen port = sv.hub.serial.isOpen
      rw [hsame]
      rfl

/-- No loss of the device is ever noticed: whatever the device does after a start-up that succeeded,
the port is not opened again, and it is not reported lost. -/
theorem loss_never_noticed (prototypes : AList fun _ : String => α) (port : SerialPortWin32 ω)
    {fc : HubFileConfig} {boost : BoostOutcome}
    (hok : ((fresh prototypes port : Service α (SerialPortWin32 ω)).unifiedStartupFromConfig fc
      boost).2 = none)
    (cursor : θ → UInt32) {es₀ es : List (ServerEvent α (SerialPortWin32 ω) θ)}
    (henv : Along step DeviceOnly (booted prototypes port (.started fc boost) cursor) (es₀ ++ es)) :
    ¬ (run step (booted prototypes port (.started fc boost) cursor) es₀).Notices es := by
  have hstart := booted_attached prototypes port hok cursor
  apply hstart.not_notices_run
  exact henv.mono fun sv e h => h.keeps

end Win32

end Server

/-- An operating system with one serial device, which can be unplugged. -/
structure PlugOs where
  plugged : Bool := true
  line : EchoPort := {}
  clock : ℕ := 0
  deriving DecidableEq

open ISerialPort in
instance : Win32Comm PlugOs where
  createFile os _ := (os, if os.plugged then some 1 else none)
  closeHandle os _ := os
  getCommState os _ := (os, if os.plugged then some ⟨9600, 8, NOPARITY, ONESTOPBIT, 0⟩ else none)
  setCommState os _ _ := (os, os.plugged)
  setCommTimeouts os _ _ := os
  writeFile os _ data :=
    if os.plugged then ({ os with line := (writeBytes os.line data).1 }, some data.length)
    else (os, none)
  readFile os _ n :=
    if os.plugged then ({ os with line := (readBytes os.line n 0).1 }, (readBytes os.line n 0).2)
    else (os, none)
  nowMs os := os.clock
  sleepMs os ms := { os with clock := os.clock + ms }

namespace Server

/-- The device is gone: it cannot be written to or read from by its old handle, and not be opened. -/
structure Gone {ω : Type*} [Win32Comm ω] (p : SerialPortWin32 ω) : Prop where
  write : ∀ h data, p.handle = some h → (Win32Comm.writeFile p.os h data).2 = none
  read : ∀ h n, p.handle = some h → (Win32Comm.readFile p.os h n).2 = none
  create : ∀ path, (Win32Comm.createFile p.os path).2 = none

/-- The device is gone while `es₁` and `es₂` run. A write or a read fails in `es₁`, and then the serial
watch makes its round as the call `id`. -/
structure FailsThenTicks {α ω θ : Type*} [ICameraAdapter α] [ICameraControls α] [Win32Comm ω]
    [DecidableEq θ] (sv : Server α (SerialPortWin32 ω) θ)
    (es₁ es₂ : List (ServerEvent α (SerialPortWin32 ω) θ)) (id : ℕ) : Prop where
  gone : Along step (fun sv _ => Gone sv.hub.port) sv (es₁ ++ es₂)
  before : sv.hub.port.lastErr = ""
  failed : (run step sv es₁).hub.port.lastErr = "WriteFile failed" ∨
    (run step sv es₁).hub.port.lastErr = "ReadFile failed"
  idle : (run step sv es₁).world.tasks id = none
  begins : ∃ es, es₂ = .world (.call id .serialWatchTick) :: es
  ends : (id, .serialWatchTick) ∈ (run step sv (es₁ ++ es₂)).world.replies
  fresh : (id, .serialWatchTick) ∉ (run step sv es₁).world.replies

def plugOsBench : Server ReadyCamera (SerialPortWin32 PlugOs) Bool :=
  booted (AList.singleton "daheng" {}) { os := {} } (.started oneCamera (.mapped zeroed)) fun _ => 0

/-- The device is unplugged. -/
def deviceLost : ServerEvent ReadyCamera (SerialPortWin32 PlugOs) Bool :=
  .world (.portChanged { plugOsBench.hub.port with os := { plugged := false } })

/-- A `Capture` that cannot send its command. -/
def unsentCapture : List (ServerEvent ReadyCamera (SerialPortWin32 PlugOs) Bool) :=
  .world (.call 0 (.capture { sessionId := "cam-1" })) :: List.replicate 3 (.world (.step 0))

/-- A round of the serial watch. -/
def watchTick : List (ServerEvent ReadyCamera (SerialPortWin32 PlugOs) Bool) :=
  .world (.call 1 .serialWatchTick) :: List.replicate 3 (.world (.step 1))

theorem plugOsBench_started : ((fresh (AList.singleton "daheng" {}) { os := {} } :
    Service ReadyCamera (SerialPortWin32 PlugOs)).unifiedStartupFromConfig oneCamera
      (.mapped zeroed)).2 = none := by
  decide +kernel

theorem loss_never_noticed_unsentCapture :
    ¬ (run step plugOsBench [deviceLost]).Notices (unsentCapture ++ watchTick) := by
  have henv : Along step DeviceOnly plugOsBench ([deviceLost] ++ (unsentCapture ++ watchTick)) := by
    decide +kernel
  exact loss_never_noticed _ _ plugOsBench_started _ henv

theorem gone_of_unplugged {p : SerialPortWin32 PlugOs} (h : p.os.plugged = false) : Gone p := by
  constructor
  case write => simp [Win32Comm.writeFile, h]
  case read => simp [Win32Comm.readFile, h]
  case create => simp [Win32Comm.createFile, h]

/-- The command of a `Capture` fails, the serial watch makes its round, and nothing is noticed. -/
theorem loss_not_noticed : ¬ ∀ (es₀ es₁ es₂ :
      List (ServerEvent ReadyCamera (SerialPortWin32 PlugOs) Bool)) (id : ℕ),
    Along step DeviceOnly plugOsBench (es₀ ++ (es₁ ++ es₂)) →
    (run step plugOsBench es₀).FailsThenTicks es₁ es₂ id →
    (run step plugOsBench es₀).Notices (es₁ ++ es₂) := by
  intro hall
  have henv : Along step DeviceOnly plugOsBench ([deviceLost] ++ (unsentCapture ++ watchTick)) := by
    decide +kernel
  have hgone : Along step (fun sv _ => sv.hub.port.os.plugged = false)
      (run step plugOsBench [deviceLost]) (unsentCapture ++ watchTick) := by
    decide +kernel
  have hfails : (run step plugOsBench [deviceLost]).FailsThenTicks unsentCapture watchTick 1 := by
    constructor
    case gone => exact hgone.mono fun sv e h => gone_of_unplugged h
    case before => decide +kernel
    case failed => decide +kernel
    case idle => decide +kernel
    case begins => exact ⟨_, rfl⟩
    case ends => decide +kernel
    case fresh => decide +kernel
  have hstart : plugOsBench.Attached := booted_attached _ _ plugOsBench_started _
  have hkeeps := henv.mono fun sv e h => DeviceOnly.keeps h
  exact hstart.not_notices_run hkeeps (hall _ _ _ 1 henv hfails)

end Server
end Camera3D.Hub
