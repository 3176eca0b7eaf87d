import Camera3D.Hub.SerialUse

/-! The runtime state that says the serial port is lost. A call that finds the port closed sets it
after its own attempt to open the port has failed, however long after. -/
namespace Camera3D.Hub
open Camera Serial Ipc Transition HubServiceStateCode

namespace Server
variable {α π θ : Type*} [ISerialPort π]

/-- No call is between the beginning and the end of `TryRecoverSerialQuick`. -/
def Settled (sv : Server α π θ) : Prop := ∀ c, sv.pc c = none

/-- While no call is in progress, a port that is open is not reported lost. -/
def Unstuck (sv : Server α π θ) : Prop :=
  sv.hub.serial.isOpen = true → sv.Settled → sv.hub.hubRuntime.code ≠ kRuntimeSerialNotConnected

/-- The port may be lost, and it may be that it can be opened again; it does not open by itself. -/
def Loses (sv : Server α π θ) : ServerEvent α π θ → Prop
  | .world (.portChanged port) => ISerialPort.isOpen port = true → sv.hub.serial.isOpen = true
  | _ => True

instance (sv : Server α π θ) : ∀ e, Decidable (sv.Loses e)
  | .world (.portChanged _) => inferInstanceAs (Decidable (_ = true → _ = true))
  | .world (.call _ _) | .world (.step _) | .world (.cameraFrame _ _ _) => isTrue trivial
  | .world (.cameraChanged _ _) | .world .tick | .request _ _ | .job _ => isTrue trivial

/-- A call that is about to open the port, or that has opened it and will set the runtime state. -/
def Mending (sv : Server α π θ) (c : Caller) : Prop :=
  (∃ com, sv.pc c = some (.openPort com)) ∨ sv.pc c = some .recovered

/-- A call that reports the port lost finds it closed, or another call is mending it. -/
def Harmless (sv : Server α π θ) (e : ServerEvent α π θ) : Prop :=
  ∀ c message, e.caller = some c → sv.pc c = some (.setCode message) → sv.hub.serial.isOpen = true →
    ∃ c', sv.Mending c'

/-- An open port that is reported lost is being mended. -/
def Mended (sv : Server α π θ) : Prop :=
  sv.hub.hubRuntime.code = kRuntimeSerialNotConnected → sv.hub.serial.isOpen = true →
    ∃ c, sv.Mending c

omit [ISerialPort π] in
theorem Mending.pc_ne_none {sv : Server α π θ} {c : Caller} (h : sv.Mending c) : sv.pc c ≠ none := by
  rcases h with ⟨com, hpc⟩ | hpc
  · simp [hpc]
  · simp [hpc]

theorem Mended.unstuck {sv : Server α π θ} (h : sv.Mended) : sv.Unstuck := by
  intro hopen hsettled hcode
  obtain ⟨c, hc⟩ := h hcode hopen
  exact hc.pc_ne_none (hsettled c)

variable [ICameraAdapter α] [ICameraControls α] [DecidableEq θ]

/-- A call that does not run goes on mending. -/
theorem Mending.stays {sv : Server α π θ} {e : ServerEvent α π θ} {c : Caller} (h : sv.Mending c)
    (hc : e.caller ≠ some c) : (sv.step e).Mending c := by
  rcases pc_of_not_runs hc with hsame | ⟨_, hnone, _⟩
  · unfold Mending
    rw [hsame]
    exact h
  · exact absurd hnone h.pc_ne_none

/-- The step of the recovery that a call runs leaves an open port reported lost only while it is being
mended. -/
theorem Mended.recovery [LawfulSerialPort π] {sv : Server α π θ} {e : ServerEvent α π θ} {c : Caller}
    {pc : Recovery} (h : sv.Mended) (hunified : sv.hub.unifiedConfigMode = true)
    (hharm : sv.Harmless e) (hc : e.caller = some c) (hpc : sv.pc c = some pc)
    (hub : (sv.step e).hub = (sv.hub.tryRecoverSerialQuick pc).1) : (sv.step e).Mended := by
  intro hcode hopen
  have hnext : (sv.step e).pc c = (sv.hub.tryRecoverSerialQuick pc).2 := by
    rw [pc_of_runs hc, hpc, Option.bind_some]
  rw [hub] at hcode hopen
  -- The call that runs is not the one that mends, unless it stands before a step that does.
  have hstays : (∃ c', sv.Mending c') → (¬ sv.Mending c) → ∃ c', (sv.step e).Mending c' := by
    rintro ⟨c', hmending⟩ hnot
    refine ⟨c', hmending.stays ?_⟩
    rintro heq
    obtain rfl := Option.some.inj (hc.symm.trans heq)
    exact hnot hmending
  cases pc with
  | readCom =>
    apply hstays (h hcode hopen)
    simp [Mending, hpc]
  | isOpen com =>
    apply hstays (h hcode hopen)
    simp [Mending, hpc]
  | lastError =>
    apply hstays (h hcode hopen)
    simp [Mending, hpc]
  | setCode message =>
    apply hstays (hharm c message hc hpc hopen)
    simp [Mending, hpc]
  | openPort com =>
    refine ⟨c, .inr ?_⟩
    have hopened : (sv.hub.serial.openPort com 115200).2 = true := by
      rw [← SerialPortManager.isOpen_openPort]
      exact hopen
    rw [hnext]
    unfold Service.tryRecoverSerialQuick
    simp [hopened]
  | recovered =>
    exfalso
    unfold Service.tryRecoverSerialQuick at hcode
    simp only [hunified, Bool.not_true, Bool.false_eq_true, if_false] at hcode
    split_ifs at hcode
    · have hcode' : kSessionNotEstablished = kRuntimeSerialNotConnected := hcode
      exact absurd hcode' (by decide)
    · have hcode' : kReady = kRuntimeSerialNotConnected := hcode
      exact absurd hcode' (by decide)

theorem Mended.step [LawfulSerialPort π] {sv : Server α π θ} {e : ServerEvent α π θ} (h : sv.Mended)
    (hunified : sv.hub.unifiedConfigMode = true) (hloses : sv.Loses e) (hharm : sv.Harmless e) :
    (sv.step e).Mended := by
  have hch := sv.step_change e
  cases hcause : sv.cause e with
  | recovery pc =>
    obtain ⟨c, hc, hpc⟩ := pc_of_cause hcause
    rw [hcause] at hch
    exact h.recovery hunified hharm hc hpc hch.eq_of_recovery
  | portChanged =>
    obtain ⟨port, rfl⟩ := cause_portChanged hcause
    intro hcode hopen
    obtain ⟨c, hmending⟩ := h hcode (hloses hopen)
    exact ⟨c, hmending.stays (by simp [ServerEvent.caller])⟩
  | other =>
    intro hcode hopen
    rw [hcause] at hch
    have hopen' : sv.hub.serial.isOpen = true := by
      by_contra hclosed
      rw [Bool.not_eq_true] at hclosed
      have hkept := hch.keeps_port (LawfulSerialPort.keptByIO false) hclosed
      exact absurd (hopen.symm.trans hkept) (by decide)
    obtain ⟨c, hmending⟩ := h (hch.code_of_other hcode) hopen'
    refine ⟨c, hmending.stays fun hc => ?_⟩
    exact hmending.pc_ne_none (pc_of_other hcause hc)

/-- In a run in which no call reports the port lost while it is open, the report does not stick. -/
theorem unstuck_of_harmless [LawfulSerialPort π] (prototypes : AList fun _ : String => α) (port : π)
    (b : Boot) (cursor : θ → UInt32) {es : List (ServerEvent α π θ)}
    (hloses : Along step Loses (booted prototypes port b cursor) es)
    (hharm : Along step Harmless (booted prototypes port b cursor) es) :
    (run step (booted prototypes port b cursor) es).Unstuck := by
  have hsound : (booted prototypes port b cursor).hub.Sound :=
    (Service.boot_unused prototypes port b).sound
  by_cases hfail : b.Failed (fresh prototypes port)
  · obtain ⟨rt, hstop⟩ := booted_stopped prototypes port hfail cursor
    intro _ _
    exact (run_stopped hstop es).hub.code_ne (by decide)
  · obtain ⟨_, _, _, _, hest, hready⟩ := Boot.exists_started hfail
    have hmended : (booted prototypes port b cursor).Mended := by
      intro hcode
      exact absurd (hready.symm.trans hcode) (by decide)
    have hunified := hsound.unified hest.presets
    have hend := run_invariant_along
      (I := fun sv : Server α π θ => sv.Mended ∧ sv.hub.unifiedConfigMode = true)
      (fun sv e hP h => ⟨h.1.step h.2 hP.1 hP.2, (sv.step_change e).configured.unified.trans h.2⟩)
      (hloses.and hharm) ⟨hmended, hunified⟩
    exact hend.1.unstuck

end Server

/-- A port that can be unplugged; the projector behind it acknowledges every command. -/
structure PlugPort where
  plugged : Bool := true
  line : EchoPort := {}
  deriving DecidableEq

open ISerialPort in
instance : ISerialPort PlugPort where
  openPort p _ _ := ({ p with line := { p.line with opened := p.plugged } }, p.plugged)
  close p := { p with line := close p.line }
  isOpen p := isOpen p.line
  writeBytes p data := ({ p with line := (writeBytes p.line data).1 }, (writeBytes p.line data).2)
  readBytes p maxLen timeoutMs := ({ p with line := (readBytes p.line maxLen timeoutMs).1 },
    (readBytes p.line maxLen timeoutMs).2)
  getLastErrorMessage p := if p.plugged then "" else "CreateFile failed for COM1"
  nowMs p := nowMs p.line
  sleepMs p ms := { p with line := sleepMs p.line ms }

instance : LawfulSerialPort PlugPort where
  isOpen_openPort _ _ _ := rfl
  isOpen_writeBytes _ _ := rfl
  isOpen_readBytes _ _ _ := rfl
  isOpen_sleepMs _ _ := rfl

namespace Server

/-- A bench with a serial port that can be unplugged. -/
def plugBench : Server ReadyCamera PlugPort Bool :=
  booted (AList.singleton "daheng" {}) {} (.started oneCamera (.mapped zeroed)) fun _ => 0

def unplugged : ServerEvent ReadyCamera PlugPort Bool :=
  .world (.portChanged { plugged := false, line := { opened := false } })

def pluggedIn : ServerEvent ReadyCamera PlugPort Bool :=
  .world (.portChanged { plugged := true, line := { opened := false } })

/-- A tick of the serial watch finds the port unplugged, and the next one opens it again. -/
def watched : List (ServerEvent ReadyCamera PlugPort Bool) :=
  let tick := .world (.call 0 .serialWatchTick)
  let go := .world (.step 0)
  [unplugged, tick, go, go, go, go, go, go, pluggedIn, tick, go, go, go, go, go]

/-- The reports of the run are made while the port is closed. -/
def reportsClosed (sv : Server ReadyCamera PlugPort Bool)
    (e : ServerEvent ReadyCamera PlugPort Bool) : Bool :=
  match e.caller.bind sv.pc with
  | some (.setCode _) => !sv.hub.serial.isOpen
  | _ => true

theorem unstuck_of_harmless_watched : (run step plugBench watched).Unstuck := by
  have hloses : Along step Loses plugBench watched := by decide +kernel
  have hclosed : Along step (fun sv e => sv.reportsClosed e = true) plugBench watched := by
    decide +kernel
  apply unstuck_of_harmless _ _ _ _ hloses
  apply hclosed.mono
  intro sv e hreports c message hc hpc hopen
  unfold reportsClosed at hreports
  rw [hc, Option.bind_some, hpc] at hreports
  simp [hopen] at hreports

/-- A tick of the serial watch is overtaken by a `Connect` between its attempt to open the port and
its report. -/
def overtaken : List (ServerEvent ReadyCamera PlugPort Bool) :=
  let slow := .world (.step 0)
  let quick := .world (.step 1)
  [unplugged, .world (.call 0 .serialWatchTick), slow, slow, slow, slow, pluggedIn,
    .world (.call 1 .connect), quick, quick, quick, quick, quick, slow]

/-- The port is open, no call is in progress, and the hub reports the port lost. -/
theorem serial_lost_sticks : ¬ ∀ es, Along step Loses plugBench es →
    (run step plugBench es).Unstuck := by
  intro hall
  have hloses : Along step Loses plugBench overtaken := by decide +kernel
  have hopen : (run step plugBench overtaken).hub.serial.isOpen = true := by decide +kernel
  have hcode : (run step plugBench overtaken).hub.hubRuntime.code = kRuntimeSerialNotConnected := by
    decide +kernel
  refine hall overtaken hloses hopen (fun c => ?_) hcode
  by_cases hslow : c = .task 0
  · subst hslow
    decide +kernel
  · by_cases hquick : c = .task 1
    · subst hquick
      decide +kernel
    · have hes : ∀ e ∈ overtaken,
          (e.caller = none ∨ e.caller = some (.task 0) ∨ e.caller = some (.task 1)) ∧
          (e.begins = none ∨ e.begins = some (.task 0) ∨ e.begins = some (.task 1)) := by
        decide
      have hpc : (run step plugBench overtaken).pc c = plugBench.pc c := by
        apply pc_run
        intro e he
        obtain ⟨hcaller, hbegins⟩ := hes e he
        constructor
        · rcases hcaller with h | h | h <;> simp [h, Ne.symm hslow, Ne.symm hquick]
        · rcases hbegins with h | h | h <;> simp [h, Ne.symm hslow, Ne.symm hquick]
      rw [hpc]
      cases c with
      | task id => rfl
      | job id => rfl

end Server
end Camera3D.Hub
