import Mathlib.Tactic.SplitIfs
import Mathlib.Data.List.Basic

/-! Which adapter the viewer's window works with: `DeviceController` makes a new one for each connection
and destroys the one before, and `AcquisitionController` keeps a pointer to one of them. -/
namespace Camera3D.Viewer

/-- An adapter was used after it had been destroyed. -/
structure UseAfterFree where
  adapter : ℕ
  deriving DecidableEq

/-- The window, its controllers and their buttons. Adapters are numbered as they are made. -/
structure MainWindow where
  /-- `DeviceController::adapter_`, the only adapter there is; the closed window has none. -/
  owner : Option ℕ := some 0
  made : ℕ := 1
  connected : Bool := false
  capturing : Bool := false
  /-- `AcquisitionController::adapter_`. -/
  target : ℕ := 0
  continuousRunning : Bool := false
  /-- The captures that wait for a thread of the pool, with their adapters. -/
  jobs : List ℕ := []
  /-- The captures whose end the window has not been told of. -/
  finished : ℕ := 0
  captureOnceEnabled : Bool := true
  startEnabled : Bool := true
  stopEnabled : Bool := false
  disconnectEnabled : Bool := false
  /-- History: the last attempt to connect failed. -/
  refused : Bool := false
  deriving DecidableEq

inductive WindowEvent where
  | connect (ok : Bool)
  | disconnect
  | captureOnce
  | startContinuous
  | stopContinuous
  | job (i : ℕ)
  | captureFinished
  | close
  deriving DecidableEq

namespace MainWindow

def use (w : MainWindow) (adapter : ℕ) : Except UseAfterFree Unit :=
  if w.owner = some adapter then .ok () else .error ⟨adapter⟩

/-- `AcquisitionController::StopContinuous`. -/
def stopContinuous (w : MainWindow) : Except UseAfterFree MainWindow := do
  w.use w.target
  return { w with capturing := false, continuousRunning := false }

def startContinuous (w : MainWindow) : Except UseAfterFree MainWindow := do
  w.use w.target
  if !w.connected || w.continuousRunning || w.capturing then return w
  else return { w with capturing := true, continuousRunning := true }

def isContinuousRunning (w : MainWindow) : Except UseAfterFree Bool := do
  w.use w.target
  return w.capturing

def setAdapter (w : MainWindow) (adapter : ℕ) : Except UseAfterFree MainWindow := do
  let w ← if w.continuousRunning then w.stopContinuous else .ok w
  return { w with target := adapter }

/-- `CaptureOnce` hands the adapter to a thread of the pool. -/
def captureOnce (w : MainWindow) : Except UseAfterFree MainWindow := do
  w.use w.target
  if w.connected then return { w with jobs := w.jobs ++ [w.target] }
  else return { w with captureOnceEnabled := true }

def updateConnectionButtonState (w : MainWindow) : MainWindow :=
  { w with disconnectEnabled := w.connected }

def onConnected (w : MainWindow) (adapter : ℕ) : Except UseAfterFree MainWindow := do
  let w ← w.setAdapter adapter
  return { w.updateConnectionButtonState with captureOnceEnabled := true, startEnabled := true }

def onDisconnected (w : MainWindow) : Except UseAfterFree MainWindow := do
  let w := { w.updateConnectionButtonState with
    captureOnceEnabled := false, startEnabled := false, stopEnabled := false }
  if ← w.isContinuousRunning then w.stopContinuous else return w

/-- `ConnectDevice`: the adapter before is destroyed, its thread joined, whatever comes of the new one. -/
def connectDevice (w : MainWindow) (ok : Bool) : Except UseAfterFree MainWindow :=
  let w := { w with
    owner := some w.made, made := w.made + 1, connected := ok, capturing := false, refused := !ok }
  if ok then w.onConnected (w.made - 1) else .ok w.updateConnectionButtonState

def disconnectDevice (w : MainWindow) : Except UseAfterFree MainWindow :=
  onDisconnected { w with connected := false, capturing := false }

/-- A thread of the pool takes up a capture. -/
def runJob (w : MainWindow) (i : ℕ) : Except UseAfterFree MainWindow :=
  match w.jobs[i]? with
  | none => .ok w
  | some adapter => do
    w.use adapter
    return { w with jobs := w.jobs.eraseIdx i, finished := w.finished + 1 }

/-- The window is destroyed, the acquisition controller before the device controller. -/
def close (w : MainWindow) : Except UseAfterFree MainWindow := do
  let w ← w.stopContinuous
  return { w with owner := none, connected := false }

/-- What an open window does; a click on a button that is disabled is no event. -/
def handle (w : MainWindow) : WindowEvent → Except UseAfterFree MainWindow
  | .connect ok => w.connectDevice ok
  | .disconnect => if w.disconnectEnabled then w.disconnectDevice else .ok w
  | .captureOnce =>
    if w.captureOnceEnabled then captureOnce { w with captureOnceEnabled := false } else .ok w
  | .startContinuous =>
    if w.startEnabled then do
      let w ← w.startContinuous
      let _ ← w.isContinuousRunning
      return { w with startEnabled := false, stopEnabled := true }
    else .ok w
  | .stopContinuous =>
    if w.stopEnabled then do
      let w ← w.stopContinuous
      return { w with startEnabled := true, stopEnabled := false }
    else .ok w
  | .captureFinished =>
    if w.finished = 0 then .ok w
    else .ok { w with finished := w.finished - 1, captureOnceEnabled := true }
  | .job i => w.runJob i
  | .close => w.close

/-- The threads of the pool outlive the window. -/
def step (w : MainWindow) (e : WindowEvent) : Except UseAfterFree MainWindow :=
  match w.owner, e with
  | none, .job i => w.runJob i
  | none, _ => .ok w
  | some _, e => w.handle e

def runs (w : MainWindow) (es : List WindowEvent) : Except UseAfterFree MainWindow :=
  es.foldlM step w

/-- Nothing in the event uses an adapter that is gone: no attempt to connect has failed since the last
that succeeded, the continuous capture was stopped, and no connection has been made since a capture
was asked for. -/
def Careful (w : MainWindow) : WindowEvent → Prop
  | .connect ok => w.owner ≠ none → ok = true → w.continuousRunning = false
  | .disconnect | .captureFinished => True
  | .captureOnce => w.owner ≠ none → w.captureOnceEnabled = true → w.refused = false
  | .startContinuous => w.owner ≠ none → w.startEnabled = true → w.refused = false
  | .stopContinuous => w.owner ≠ none → w.stopEnabled = true → w.refused = false
  | .job i => ∀ adapter ∈ w.jobs[i]?, w.owner ≠ none ∧ adapter + 1 = w.made
  | .close => w.owner ≠ none → w.refused = false

structure Sound (w : MainWindow) : Prop where
  owner : w.owner = none ∨ ∃ n, w.owner = some n ∧ n + 1 = w.made
  target : w.target + 1 = w.made ↔ w.refused = false
  target_le : w.target + 1 ≤ w.made
  buttons : w.owner ≠ none → w.disconnectEnabled = w.connected
  connected : w.connected = true → w.refused = false
  capturing : w.capturing = true → w.continuousRunning = true

theorem sound_init : ({} : MainWindow).Sound := by
  refine ⟨.inr ⟨0, rfl, rfl⟩, ?_, Nat.le_refl _, ?_, ?_, ?_⟩ <;> simp

variable {w w' : MainWindow}

theorem use_eq (h : w.Sound) (ho : w.owner ≠ none) (adapter : ℕ) :
    w.use adapter = if adapter + 1 = w.made then .ok () else .error ⟨adapter⟩ := by
  unfold use
  rcases h.owner with hnone | ⟨n, hn, hmade⟩
  · exact absurd hnone ho
  · rw [hn, ← hmade]
    by_cases hadapter : n = adapter
    · rw [if_pos (congrArg some hadapter), if_pos (by omega)]
    · rw [if_neg (fun heq => hadapter (Option.some.inj heq)), if_neg (by omega)]

theorem use_target (h : w.Sound) (ho : w.owner ≠ none) :
    w.use w.target = if w.refused = false then .ok () else .error ⟨w.target⟩ := by
  rw [use_eq h ho]
  exact if_congr h.target rfl rfl

/-- What an event comes to: it is careful and keeps the window sound, or it uses an adapter that is gone. -/
def Outcome (w : MainWindow) (e : WindowEvent) : Except UseAfterFree MainWindow → Prop
  | .ok w' => w.Careful e ∧ w'.Sound
  | .error _ => ¬ w.Careful e

/-- The same window with other buttons and captures. -/
theorem Sound.congr (h : w.Sound) (howner : w'.owner = w.owner) (hmade : w'.made = w.made)
    (htarget : w'.target = w.target) (hrefused : w'.refused = w.refused)
    (hbuttons : w'.disconnectEnabled = w.disconnectEnabled) (hconnected : w'.connected = w.connected)
    (hcapturing : w'.capturing = true → w'.continuousRunning = true) : w'.Sound := by
  refine ⟨?_, ?_, ?_, ?_, ?_, hcapturing⟩
  · rw [howner, hmade]
    exact h.owner
  · rw [htarget, hmade, hrefused]
    exact h.target
  · rw [htarget, hmade]
    exact h.target_le
  · rw [howner, hbuttons, hconnected]
    exact h.buttons
  · rw [hconnected, hrefused]
    exact h.connected

theorem stopContinuous_eq (h : w.Sound) (ho : w.owner ≠ none) :
    w.stopContinuous = if w.refused = false then
      .ok { w with capturing := false, continuousRunning := false } else .error ⟨w.target⟩ := by
  unfold stopContinuous
  rw [use_target h ho]
  split_ifs <;> rfl

/-- The window after a new adapter was made. -/
def renewed (w : MainWindow) (ok : Bool) : MainWindow :=
  { w with
    owner := some w.made, made := w.made + 1, connected := ok, capturing := false, refused := !ok }

/-- A new adapter is never the one that the acquisition controller still points to. -/
theorem setAdapter_renewed (h : w.Sound) : (w.renewed true).setAdapter w.made =
    if w.continuousRunning then .error ⟨w.target⟩
    else .ok { w.renewed true with target := w.made } := by
  have hne : some w.made ≠ some w.target := by
    have hlt := h.target_le
    intro heq
    have := Option.some.inj heq
    omega
  unfold setAdapter
  cases hrunning : w.continuousRunning with
  | false =>
    rw [show (w.renewed true).continuousRunning = false from hrunning]
    rfl
  | true =>
    rw [show (w.renewed true).continuousRunning = true from hrunning]
    have huse : (w.renewed true).use w.target = .error ⟨w.target⟩ := if_neg hne
    unfold stopContinuous
    rw [show (w.renewed true).target = w.target from rfl, huse]
    rfl

theorem step_connect (h : w.Sound) (ho : w.owner ≠ none) (ok : Bool) :
    w.Outcome (.connect ok) (w.connectDevice ok) := by
  have hlt := h.target_le
  cases ok with
  | false =>
    refine ⟨fun _ hok => absurd hok Bool.false_ne_true, .inr ⟨w.made, rfl, rfl⟩, ?_, ?_, ?_, ?_, ?_⟩
    · refine iff_of_false (fun heq => ?_) Bool.noConfusion
      have : w.target + 1 = w.made + 1 := heq
      omega
    · exact Nat.le_succ_of_le hlt
    · exact fun _ => rfl
    · exact fun hc => absurd hc Bool.false_ne_true
    · exact fun hc => absurd hc Bool.false_ne_true
  | true =>
    have hconnect : w.connectDevice true = (do
        let w ← (w.renewed true).setAdapter w.made
        return { w.updateConnectionButtonState with captureOnceEnabled := true, startEnabled := true }) :=
      rfl
    rw [hconnect, setAdapter_renewed h]
    cases hrunning : w.continuousRunning with
    | true =>
      intro hcareful
      exact absurd (hrunning.symm.trans (hcareful ho rfl)) (by decide)
    | false =>
      refine ⟨fun _ _ => hrunning, .inr ⟨w.made, rfl, rfl⟩, iff_of_true rfl rfl, Nat.le_refl _,
        fun _ => rfl, fun _ => rfl, fun hc => absurd hc Bool.false_ne_true⟩

theorem disconnectDevice_eq (huse : w.use w.target = .ok ()) : w.disconnectDevice =
    .ok { w with
      connected := false, capturing := false, disconnectEnabled := false
      captureOnceEnabled := false, startEnabled := false, stopEnabled := false } := by
  have howner : w.owner = some w.target := by
    unfold use at huse
    split_ifs at huse with howner
    exact howner
  unfold disconnectDevice onDisconnected isContinuousRunning use
  dsimp only [updateConnectionButtonState]
  rw [if_pos howner]
  rfl

theorem step_disconnect (h : w.Sound) (ho : w.owner ≠ none) (henabled : w.disconnectEnabled = true) :
    w.Outcome .disconnect w.disconnectDevice := by
  have hfresh : w.refused = false := h.connected ((h.buttons ho).symm.trans henabled)
  have huse := use_target h ho
  rw [if_pos hfresh] at huse
  rw [disconnectDevice_eq huse]
  exact ⟨trivial, h.owner, h.target, h.target_le, fun _ => rfl, fun hc => absurd hc Bool.false_ne_true,
    fun hc => absurd hc Bool.false_ne_true⟩

theorem step_captureOnce (h : w.Sound) (ho : w.owner ≠ none) (henabled : w.captureOnceEnabled = true) :
    w.Outcome .captureOnce (captureOnce { w with captureOnceEnabled := false }) := by
  have huse : ({ w with captureOnceEnabled := false } : MainWindow).use w.target = w.use w.target := rfl
  unfold captureOnce
  rw [show ({ w with captureOnceEnabled := false } : MainWindow).target = w.target from rfl, huse,
    use_target h ho]
  cases hrefused : w.refused with
  | true =>
    intro hcareful
    exact absurd (hrefused.symm.trans (hcareful ho henabled)) (by decide)
  | false =>
    cases hconnected : w.connected with
    | true => exact ⟨fun _ _ => hrefused, h.congr rfl rfl rfl hrefused.symm rfl hconnected.symm h.capturing⟩
    | false => exact ⟨fun _ _ => hrefused, h.congr rfl rfl rfl hrefused.symm rfl hconnected.symm h.capturing⟩

/-- The window after a click on the start button. -/
def starting (w : MainWindow) : MainWindow :=
  if !w.connected || w.continuousRunning || w.capturing then w
  else { w with capturing := true, continuousRunning := true }

theorem startContinuous_eq (w : MainWindow) : w.startContinuous = (do
    w.use w.target
    return w.starting) := by
  unfold startContinuous starting
  split_ifs <;> rfl

theorem use_starting (w : MainWindow) : w.starting.use w.starting.target = w.use w.target := by
  unfold starting
  split_ifs <;> rfl

theorem Sound.starting (h : w.Sound) (start stop : Bool) :
    ({ w.starting with startEnabled := start, stopEnabled := stop } : MainWindow).Sound := by
  unfold MainWindow.starting
  split_ifs
  · exact h.congr rfl rfl rfl rfl rfl rfl h.capturing
  · exact h.congr rfl rfl rfl rfl rfl rfl fun _ => rfl

theorem step_startContinuous (h : w.Sound) (ho : w.owner ≠ none) (henabled : w.startEnabled = true) :
    w.Outcome .startContinuous (do
      let w ← w.startContinuous
      let _ ← w.isContinuousRunning
      return { w with startEnabled := false, stopEnabled := true }) := by
  rw [startContinuous_eq, use_target h ho]
  cases hrefused : w.refused with
  | true =>
    intro hcareful
    exact absurd (hrefused.symm.trans (hcareful ho henabled)) (by decide)
  | false =>
    have huse : w.starting.use w.starting.target = .ok () := by
      rw [use_starting, use_target h ho, if_pos hrefused]
    have hrun : w.starting.isContinuousRunning = .ok w.starting.capturing := by
      unfold isContinuousRunning
      rw [huse]
      rfl
    show w.Outcome .startContinuous (w.starting.isContinuousRunning >>= fun _ => _)
    rw [hrun]
    exact ⟨fun _ _ => hrefused, h.starting false true⟩

theorem step_stopContinuous (h : w.Sound) (ho : w.owner ≠ none) (henabled : w.stopEnabled = true) :
    w.Outcome .stopContinuous (do
      let w ← w.stopContinuous
      return { w with startEnabled := true, stopEnabled := false }) := by
  rw [stopContinuous_eq h ho]
  cases hrefused : w.refused with
  | true =>
    intro hcareful
    exact absurd (hrefused.symm.trans (hcareful ho henabled)) (by decide)
  | false =>
    exact ⟨fun _ _ => hrefused,
      h.congr rfl rfl rfl hrefused.symm rfl rfl fun hc => absurd hc Bool.false_ne_true⟩

theorem step_close (h : w.Sound) (ho : w.owner ≠ none) : w.Outcome .close w.close := by
  unfold close
  rw [stopContinuous_eq h ho]
  cases hrefused : w.refused with
  | true =>
    intro hcareful
    exact absurd (hrefused.symm.trans (hcareful ho)) (by decide)
  | false =>
    exact ⟨fun _ => hrefused, .inl rfl, hrefused ▸ h.target, h.target_le,
      fun hopen => absurd rfl hopen, fun _ => rfl, fun hc => absurd hc Bool.false_ne_true⟩

theorem step_job (h : w.Sound) (i : ℕ) : w.Outcome (.job i) (w.runJob i) := by
  unfold runJob
  cases hjob : w.jobs[i]? with
  | none =>
    refine ⟨?_, h⟩
    intro adapter hadapter
    rw [hjob] at hadapter
    cases hadapter
  | some adapter =>
    dsimp only
    by_cases ho : w.owner = some adapter
    · have hmade : adapter + 1 = w.made := by
        rcases h.owner with hnone | ⟨n, hn, hmade⟩
        · exact absurd (hnone.symm.trans ho) (by simp)
        · rw [← hmade, Option.some.inj (hn.symm.trans ho)]
      rw [use, if_pos ho]
      refine ⟨?_, h.congr rfl rfl rfl rfl rfl rfl h.capturing⟩
      intro adapter' hadapter'
      rw [hjob] at hadapter'
      obtain rfl := Option.some.inj hadapter'
      exact ⟨by simp [ho], hmade⟩
    · rw [use, if_neg ho]
      intro hcareful
      obtain ⟨hopen, hmade⟩ := hcareful adapter hjob
      rcases h.owner with hnone | ⟨n, hn, hmade'⟩
      · exact hopen hnone
      · apply ho
        rw [hn]
        exact congrArg some (by omega)

theorem handle_outcome (h : w.Sound) (ho : w.owner ≠ none) (e : WindowEvent) :
    w.Outcome e (w.handle e) := by
  have hstill : ∀ e, w.Careful e → w.Outcome e (.ok w) := fun _ hc => ⟨hc, h⟩
  cases e with
  | connect ok => exact step_connect h ho ok
  | job i => exact step_job h i
  | close => exact step_close h ho
  | disconnect =>
    unfold handle
    dsimp only
    split_ifs with henabled
    · exact step_disconnect h ho henabled
    · exact hstill _ trivial
  | captureOnce =>
    unfold handle
    dsimp only
    split_ifs with henabled
    · exact step_captureOnce h ho henabled
    · exact hstill _ fun _ he => absurd he henabled
  | startContinuous =>
    unfold handle
    dsimp only
    split_ifs with henabled
    · exact step_startContinuous h ho henabled
    · exact hstill _ fun _ he => absurd he henabled
  | stopContinuous =>
    unfold handle
    dsimp only
    split_ifs with henabled
    · exact step_stopContinuous h ho henabled
    · exact hstill _ fun _ he => absurd he henabled
  | captureFinished =>
    unfold handle
    dsimp only
    split_ifs
    · exact hstill _ trivial
    · exact ⟨trivial, h.congr rfl rfl rfl rfl rfl rfl h.capturing⟩

/-- Each event is careful and keeps the window sound, or uses an adapter that is gone. -/
theorem step_outcome (h : w.Sound) (e : WindowEvent) : w.Outcome e (w.step e) := by
  unfold step
  cases ho : w.owner with
  | some n => exact handle_outcome h (by simp [ho]) e
  | none =>
    have hshut : ∀ e, w.Careful e → w.Outcome e (.ok w) := fun _ hc => ⟨hc, h⟩
    cases e with
    | job i => exact step_job h i
    | connect | captureOnce | startContinuous | stopContinuous | close =>
      exact hshut _ fun hopen => absurd ho hopen
    | disconnect | captureFinished => exact hshut _ trivial

/-- Every event of the run is careful. -/
def CarefulRun (w : MainWindow) : List WindowEvent → Prop
  | [] => True
  | e :: es => w.Careful e ∧ ∀ w', w.step e = .ok w' → w'.CarefulRun es

theorem runs_ok_iff_of_sound (h : w.Sound) (es : List WindowEvent) :
    (∃ w', w.runs es = .ok w') ↔ w.CarefulRun es := by
  induction es generalizing w with
  | nil => exact iff_of_true ⟨w, rfl⟩ trivial
  | cons e es ih =>
    have hstep := step_outcome h e
    rw [runs, List.foldlM_cons, CarefulRun]
    cases he : w.step e with
    | error err =>
      rw [he] at hstep
      refine iff_of_false ?_ fun hc => hstep hc.1
      rintro ⟨w', hw'⟩
      cases hw'
    | ok w₁ =>
      rw [he] at hstep
      have hrest := ih hstep.2
      constructor
      · intro hrun
        refine ⟨hstep.1, ?_⟩
        intro w' hw'
        obtain rfl := Except.ok.inj hw'
        exact hrest.mp hrun
      · rintro ⟨_, hc⟩
        exact hrest.mpr (hc w₁ rfl)

/-- No adapter is used after it was destroyed exactly when every event of the run is careful. -/
theorem runs_ok_iff (es : List WindowEvent) :
    (∃ w, ({} : MainWindow).runs es = .ok w) ↔ ({} : MainWindow).CarefulRun es :=
  runs_ok_iff_of_sound sound_init es

/-- Every click of the start button is matched, the last failed attempt is followed by one that
succeeds, and a single capture ends before the next attempt. -/
def tidy : List WindowEvent :=
  [.connect true, .startContinuous, .stopContinuous, .disconnect, .connect false, .connect true,
    .captureOnce, .job 0, .captureFinished, .disconnect, .close]

example : (({} : MainWindow).runs tidy).isOk = true := by decide

/-- A continuous capture was started, the device disconnected, and both buttons are disabled. -/
structure Stuck (w : MainWindow) : Prop where
  open_ : w.owner ≠ none
  running : w.continuousRunning = true
  connected : w.connected = false
  start : w.startEnabled = false
  stop : w.stopEnabled = false

theorem step_of_open (ho : w.owner ≠ none) (e : WindowEvent) : w.step e = w.handle e := by
  unfold step
  cases hw : w.owner with
  | none => exact absurd hw ho
  | some n => rfl

theorem Stuck.of_disconnect (h : w.Sound) (ho : w.owner ≠ none) (hrunning : w.continuousRunning = true)
    (henabled : w.disconnectEnabled = true) : ∃ w', w.step .disconnect = .ok w' ∧ w'.Sound ∧ w'.Stuck := by
  have hstep := step_outcome h .disconnect
  have hfresh : w.refused = false := h.connected ((h.buttons ho).symm.trans henabled)
  have huse := use_target h ho
  rw [if_pos hfresh] at huse
  rw [step_of_open ho, handle, if_pos henabled, disconnectDevice_eq huse] at hstep ⊢
  exact ⟨_, rfl, hstep.2, ho, hrunning, rfl, rfl, rfl⟩

/-- Only a device that answers changes anything. -/
theorem Stuck.step (h : w.Sound) (hstuck : w.Stuck) {e : WindowEvent} (hclose : e ≠ .close)
    (hconnect : e ≠ .connect true) (he : w.step e = .ok w') : w'.Stuck := by
  have ho := hstuck.open_
  rw [step_of_open ho] at he
  unfold handle at he
  cases e with
  | connect ok =>
    cases ok with
    | true => exact absurd rfl hconnect
    | false =>
      obtain rfl := Except.ok.inj he
      exact ⟨Option.some_ne_none _, hstuck.running, rfl, hstuck.start, hstuck.stop⟩
  | disconnect =>
    have hdisabled : w.disconnectEnabled = false := (h.buttons ho).trans hstuck.connected
    simp only [hdisabled] at he
    obtain rfl := Except.ok.inj he
    exact hstuck
  | startContinuous =>
    simp only [hstuck.start] at he
    obtain rfl := Except.ok.inj he
    exact hstuck
  | stopContinuous =>
    simp only [hstuck.stop] at he
    obtain rfl := Except.ok.inj he
    exact hstuck
  | captureOnce =>
    dsimp only at he
    split_ifs at he
    · unfold captureOnce use at he
      dsimp only at he
      rw [hstuck.connected] at he
      by_cases howner : w.owner = some w.target
      · rw [if_pos howner] at he
        obtain rfl := Except.ok.inj he
        exact ⟨ho, hstuck.running, rfl, hstuck.start, hstuck.stop⟩
      · rw [if_neg howner] at he
        cases he
    · obtain rfl := Except.ok.inj he
      exact hstuck
  | captureFinished =>
    dsimp only at he
    split_ifs at he
    · obtain rfl := Except.ok.inj he
      exact hstuck
    · obtain rfl := Except.ok.inj he
      exact ⟨ho, hstuck.running, hstuck.connected, hstuck.start, hstuck.stop⟩
  | job i =>
    dsimp only at he
    unfold runJob use at he
    split at he
    next =>
      obtain rfl := Except.ok.inj he
      exact hstuck
    next adapter _ =>
      by_cases howner : w.owner = some adapter
      · rw [if_pos howner] at he
        obtain rfl := Except.ok.inj he
        exact ⟨ho, hstuck.running, hstuck.connected, hstuck.start, hstuck.stop⟩
      · rw [if_neg howner] at he
        cases he
  | close => exact absurd rfl hclose

theorem Stuck.connect (h : w.Sound) (hstuck : w.Stuck) : ∃ err, w.step (.connect true) = .error err := by
  have hstep := step_outcome h (.connect true)
  cases hconnect : w.step (.connect true) with
  | error err => exact ⟨err, rfl⟩
  | ok w' =>
    rw [hconnect] at hstep
    exact absurd (hstuck.running.symm.trans (hstep.1 hstuck.open_ rfl)) (by decide)

theorem Stuck.runs (h : w.Sound) (hstuck : w.Stuck) {es : List WindowEvent} (hclose : .close ∉ es)
    (hconnect : .connect true ∈ es) : ∃ err, w.runs es = .error err := by
  induction es generalizing w with
  | nil => cases hconnect
  | cons e es ih =>
    rw [MainWindow.runs, List.foldlM_cons]
    by_cases heq : e = .connect true
    · obtain ⟨err, herr⟩ := hstuck.connect h
      rw [heq, herr]
      exact ⟨err, rfl⟩
    · have hne : e ≠ .close := fun hc => hclose (hc ▸ List.mem_cons_self)
      cases he : w.step e with
      | error err => exact ⟨err, rfl⟩
      | ok w' =>
        have hstep := step_outcome h e
        rw [he] at hstep
        exact ih hstep.2 (hstuck.step h hne heq he) (fun hc => hclose (List.mem_cons_of_mem _ hc))
          ((List.mem_cons.mp hconnect).resolve_left (Ne.symm heq))

theorem runs_sound (h : w.Sound) {es : List WindowEvent} (hrun : w.runs es = .ok w') : w'.Sound := by
  induction es generalizing w with
  | nil =>
    obtain rfl := Except.ok.inj hrun
    exact h
  | cons e es ih =>
    rw [MainWindow.runs, List.foldlM_cons] at hrun
    have hstep := step_outcome h e
    cases he : w.step e with
    | error err =>
      rw [he] at hrun
      cases hrun
    | ok w₁ =>
      rw [he] at hstep hrun
      exact ih hstep.2 hrun

/-- A device that is disconnected during a continuous capture cannot be replaced: whatever is clicked,
the next connection that succeeds uses the adapter of the old one, which is gone. -/
theorem reconnect_uses_destroyed_adapter {es es' : List WindowEvent} {w : MainWindow}
    (hrun : ({} : MainWindow).runs es = .ok w) (hopen : w.owner ≠ none)
    (hrunning : w.continuousRunning = true) (henabled : w.disconnectEnabled = true)
    (hclose : .close ∉ es') (hconnect : .connect true ∈ es') :
    ∃ err, ({} : MainWindow).runs (es ++ .disconnect :: es') = .error err := by
  obtain ⟨w', hw', hsound, hstuck⟩ := Stuck.of_disconnect (runs_sound sound_init hrun) hopen hrunning
    henabled
  obtain ⟨err, herr⟩ := hstuck.runs hsound hclose hconnect
  refine ⟨err, ?_⟩
  rw [MainWindow.runs, List.foldlM_append, show es.foldlM MainWindow.step {} = .ok w from hrun]
  show (w.step .disconnect >>= fun w => w.runs es') = .error err
  rw [hw']
  exact herr

theorem reconnect_uses_destroyed_adapter_once : ∃ err, ({} : MainWindow).runs
    ([.connect true, .startContinuous] ++ .disconnect :: [.connect true]) = .error err :=
  reconnect_uses_destroyed_adapter rfl (by decide) rfl rfl (by decide) (by decide)

end MainWindow
end Camera3D.Viewer
