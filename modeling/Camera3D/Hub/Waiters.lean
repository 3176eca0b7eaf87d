import Camera3D.Hub.Completion
import Camera3D.Hub.InFlight

/-! Synchronous captures. The waiters share one flag, and none remembers which capture it stands
for; they do not disturb each other while each has left before the next capture is admitted. -/
namespace Camera3D.Hub
open Camera Serial Ipc Transition

theorem Rpc.start_ne_waiting (rpc : Rpc) (wt : Waiter) : rpc.start ≠ .waiting wt := by
  cases rpc <;> exact nofun

theorem afterSend_cases (cid : UInt64) (request : CaptureRequest) (now : ℕ) :
    (∃ r, afterSend cid request now = .reply r) ∨
      ∃ wt, afterSend cid request now = .wait wt ∧ wt.cid = cid ∧
        wt.testInlineImage = request.testInlineImageReply := by
  unfold afterSend
  split_ifs
  · exact .inl ⟨_, rfl⟩
  · exact .inr ⟨_, rfl, rfl, rfl⟩

/-- Only an admitted capture puts the hub into the state of waiting. -/
theorem State.Move.awaiting {s s' : State} (hm : s.Move none s') (hw : s'.awaitingFrame = true) :
    s.awaitingFrame = true ∧ s'.awaitingClientCaptureId = s.awaitingClientCaptureId := by
  generalize hr : (none : Option CaptureRequest) = r at hm
  cases hm with
  | same => exact ⟨hw, rfl⟩
  | runtime rt hne => exact ⟨hw, rfl⟩
  | resumed rt hrt hold => exact ⟨hw, rfl⟩
  | errorTaken => exact ⟨hw, rfl⟩
  | released hs => cases hw
  | timedOut h => cases hw
  | counted request hid hs => cases hr
  | armed request hadm => cases hr
  | notSent request hadm => cases hr

theorem State.Delivers.awaiting {s : State} {sNext : UInt32} {mid : String} {fb : FrameBuffer}
    {r : State × UInt32} (hd : s.Delivers sNext mid fb r) (hw : r.1.awaitingFrame = true) :
    s.awaitingFrame = true ∧ r.1.awaitingClientCaptureId = s.awaitingClientCaptureId := by
  cases hd with
  | dropped hdrop => exact ⟨hw, rfl⟩
  | kept hw hm hc => exact ⟨hw, rfl⟩
  | published hw' hm hc hp => cases hw
  | unpublished hw' hm hc hps hshm hle err => cases hw

namespace World
variable {α π θ : Type*}

/-- The task takes the timeout branch when it runs next. -/
structure TimesOut (w : World α π θ) (id : ℕ) (wt : Waiter) : Prop where
  task : w.tasks id = some (.waiting wt)
  awaiting : w.hub.awaitingFrame = true
  late : wt.deadline ≤ w.clock

/-- Captures come one at a time: one is only admitted while no synchronous one is waiting. No
capture asks for the inline test image, which this build does not have. -/
def OneAtATime (w : World α π θ) (e : Event α π θ) : Prop :=
  ∀ request, w.request e = some request → request.testInlineImageReply = false ∧
    (w.hub.Admits request → ∀ id wt, w.tasks id ≠ some (.waiting wt))

variable [ICameraAdapter α] [ISerialPort π] [DecidableEq θ]

omit [ICameraAdapter α] [ISerialPort π] [DecidableEq θ] in
theorem setTask_self (w : World α π θ) (id : ℕ) (task : Option Task) :
    (w.setTask id task).tasks id = task := Function.update_self _ _ _

omit [ICameraAdapter α] [ISerialPort π] [DecidableEq θ] in
theorem setTask_ne (w : World α π θ) {id id' : ℕ} (hne : id' ≠ id) (task : Option Task) :
    (w.setTask id task).tasks id' = w.tasks id' := Function.update_of_ne hne _ _

/-- A task that does not run stays as it is. -/
theorem tasks_of_ne_step {w : World α π θ} {e : Event α π θ} {id : ℕ} (hne : e ≠ .step id)
    {task : Task} (h : w.tasks id = some task) : (w.step e).tasks id = some task := by
  cases e with
  | step id' =>
    have hid : id ≠ id' := fun heq => hne (heq ▸ rfl)
    rcases w.step_eq id' with ⟨_, he⟩ | ⟨task', _, he⟩
    · rw [he]
      exact h
    · rw [he]
      exact (after_tasks_ne hid task').trans h
  | call id' rpc =>
    dsimp only [step]
    cases htask : w.tasks id' with
    | some task' => exact h
    | none =>
      have hid : id ≠ id' := by
        rintro rfl
        rw [h] at htask
        cases htask
      exact (w.setTask_ne hid _).trans h
  | cameraFrame thread mid fb => exact h
  | portChanged port => exact h
  | cameraChanged mid adapter => exact h
  | tick => exact h

omit [ICameraAdapter α] [DecidableEq θ] in
theorem taskAfter_waiting {w : World α π θ} {task : Task} (hr : task.request = none) {wt : Waiter}
    (h : w.taskAfter task = some (.waiting wt)) : task = .waiting wt := by
  cases task with
  | recovering pc rpc =>
    dsimp only [taskAfter] at h
    split at h
    · cases h
    · cases h
  | waiting wt' =>
    dsimp only [taskAfter] at h
    split at h
    · exact Option.some.inj h
    · cases h
  | body rpc =>
    cases rpc with
    | capture request => cases hr
    | connect | disconnect | getDepth | serialWatchTick => cases h

/-- No task comes to wait by a step that runs no capture. -/
theorem waiting_of_step {w : World α π θ} {e : Event α π θ} (hr : w.request e = none) {id : ℕ}
    {wt : Waiter} (h : (w.step e).tasks id = some (.waiting wt)) :
    w.tasks id = some (.waiting wt) := by
  cases e with
  | step id' =>
    rcases w.step_eq id' with ⟨_, he⟩ | ⟨task, htask, he⟩
    · rw [he] at h
      exact h
    · rw [he] at h
      rw [request, htask] at hr
      by_cases hid : id = id'
      · subst hid
        rw [htask, taskAfter_waiting hr ((w.after_tasks_self id task).symm.trans h)]
      · exact (after_tasks_ne hid task).symm.trans h
  | call id' rpc =>
    dsimp only [step] at h
    cases htask : w.tasks id' with
    | some task =>
      rw [htask] at h
      exact h
    | none =>
      simp only [htask] at h
      by_cases hid : id = id'
      · subst hid
        have hstart := (w.setTask_self id (some rpc.start)).symm.trans h
        exact absurd (Option.some.inj hstart) (rpc.start_ne_waiting wt)
      · exact (w.setTask_ne hid _).symm.trans h
  | cameraFrame thread mid fb => exact h
  | portChanged port => exact h
  | cameraChanged mid adapter => exact h
  | tick => exact h

/-- What holds while captures come one at a time: a waiter that finds a capture in flight finds its
own. -/
structure Solo (w : World α π θ) : Prop where
  sound : w.hub.Sound
  own : ∀ id wt, w.tasks id = some (.waiting wt) → w.hub.awaitingFrame = true →
    w.hub.awaitingClientCaptureId = wt.cid
  plain : ∀ id wt, w.tasks id = some (.waiting wt) → wt.testInlineImage = false

omit [DecidableEq θ] in
/-- The world after the locked body of a capture: refused, undone, or in flight. -/
theorem runBody_capture_cases (w : World α π θ) (id : ℕ) (request : CaptureRequest) :
    let w' := w.runBody id (.capture request)
    w'.tasks id = none ∧ (w'.hub.toState = w.hub.toState ∨
      w'.hub.toState = { w.hub.toState with kAutoCapture := w.hub.kAutoCapture + 1 }) ∨
    w.hub.Admits request ∧ (w'.tasks id = none ∧ (w'.hub.toState = w.hub.armed request ∨
        w'.hub.toState = (w.hub.armed request).stopAwaiting) ∨
      ∃ wt, w'.tasks id = some (.waiting wt) ∧ w'.hub.toState = w.hub.armed request ∧
        wt.cid = (w.hub.chooseId request).1 ∧
        wt.testInlineImage = request.testInlineImageReply) := by
  have hset := w.setTask_self id
  have hcases := w.hub.capture_cases request w.clock
  dsimp only [runBody]
  rcases he : w.hub.capture request w.clock with ⟨hub, next⟩
  rw [he] at hcases
  dsimp only at hcases ⊢
  rcases hcases with ⟨hstate, r, rfl⟩ | ⟨hadm, ⟨hstate, hnext⟩ | ⟨hstate, r, rfl⟩⟩
  · left
    refine ⟨hset _, ?_⟩
    rcases hstate with hsame | ⟨_, _, hcount⟩
    · exact .inl hsame
    · exact .inr hcount
  · right
    refine ⟨hadm, ?_⟩
    rcases afterSend_cases (w.hub.chooseId request).1 request w.clock with ⟨r, hr⟩ | ⟨wt, hwt, hcid, ht⟩
    · left
      rw [hnext, hr]
      exact ⟨hset _, .inl hstate⟩
    · right
      rw [hnext, hwt]
      exact ⟨wt, hset _, hstate, hcid, ht⟩
  · right
    exact ⟨hadm, .inl ⟨hset _, .inr hstate⟩⟩

/-- Nothing but a capture makes a call wait or sets an id to wait for. -/
theorem Solo.step_of_none {w : World α π θ} {e : Event α π θ} (h : w.Solo) (hr : w.request e = none) :
    (w.step e).Solo := by
  constructor
  case sound => exact step_sound h.sound e
  case plain => exact fun id wt hwt => h.plain id wt (waiting_of_step hr hwt)
  case own =>
    intro id wt hwt hw
    have hwt' := waiting_of_step hr hwt
    rcases w.step_move e with ⟨thread, mid, fb, rfl⟩ | hm
    · obtain ⟨hw', hcid⟩ := (h.sound.delivers (w.cursor thread) mid fb).awaiting hw
      exact hcid.trans (h.own id wt hwt' hw')
    · rw [hr] at hm
      obtain ⟨hw', hcid⟩ := hm.awaiting hw
      exact hcid.trans (h.own id wt hwt' hw')

omit [ICameraAdapter α] [ISerialPort π] [DecidableEq θ] in
/-- A refused capture changes neither what is waited for nor any waiter. -/
theorem Solo.refused {w w' : World α π θ} (h : w.Solo) (hsound : w'.hub.Sound)
    (hold : ∀ id wt, w'.tasks id = some (.waiting wt) → w.tasks id = some (.waiting wt))
    (hstate : w'.hub.toState = w.hub.toState ∨
      w'.hub.toState = { w.hub.toState with kAutoCapture := w.hub.kAutoCapture + 1 }) :
    w'.Solo := by
  have hsame : w'.hub.awaitingFrame = w.hub.awaitingFrame ∧
      w'.hub.awaitingClientCaptureId = w.hub.awaitingClientCaptureId := by
    cases hstate with
    | inl heq =>
      rw [heq]
      exact ⟨rfl, rfl⟩
    | inr heq =>
      rw [heq]
      exact ⟨rfl, rfl⟩
  constructor
  case sound => exact hsound
  case plain => exact fun id wt hwt => h.plain id wt (hold id wt hwt)
  case own =>
    intro id wt hwt hw
    rw [hsame.1] at hw
    rw [hsame.2]
    exact h.own id wt (hold id wt hwt) hw

theorem Solo.step_capture {w : World α π θ} (h : w.Solo) {id : ℕ} {request : CaptureRequest}
    (htask : w.tasks id = some (.body (.capture request)))
    (hplain : request.testInlineImageReply = false)
    (halone : w.hub.Admits request → ∀ id wt, w.tasks id ≠ some (.waiting wt)) :
    (w.step (.step id)).Solo := by
  have hsound := step_sound h.sound (.step id)
  have hcases := w.runBody_capture_cases id request
  rw [World.step_capture htask] at hsound ⊢
  generalize hw' : w.runBody id (.capture request) = w' at hsound hcases ⊢
  have hother : ∀ id' wt, id' ≠ id → w'.tasks id' = some (.waiting wt) →
      w.tasks id' = some (.waiting wt) := by
    intro id' wt hne hwt
    rw [← hw', runBody_eq] at hwt
    exact (after_tasks_ne hne (.body (.capture request))).symm.trans hwt
  rcases hcases with ⟨hdone, hstate⟩ | ⟨hadm, ⟨hdone, _⟩ | ⟨wt, hwt, hstate, hcid, ht⟩⟩
  · refine h.refused hsound (fun id' wt hwt => hother id' wt ?_ hwt) hstate
    rintro rfl
    cases hdone.symm.trans hwt
  -- An admitted capture finds no waiter, so the only one afterwards is its own.
  · have hgone : ∀ id' wt, w'.tasks id' ≠ some (.waiting wt) := by
      intro id' wt hwt
      by_cases hid : id' = id
      · rw [hid, hdone] at hwt
        cases hwt
      · exact halone hadm id' wt (hother id' wt hid hwt)
    exact ⟨hsound, fun id' wt hwt => absurd hwt (hgone id' wt),
      fun id' wt hwt => absurd hwt (hgone id' wt)⟩
  · have honly : ∀ id' wt', w'.tasks id' = some (.waiting wt') → wt' = wt := by
      intro id' wt' hwt'
      by_cases hid : id' = id
      · rw [hid, hwt] at hwt'
        cases hwt'
        rfl
      · exact absurd (hother id' wt' hid hwt') (halone hadm id' wt')
    constructor
    case sound => exact hsound
    case own =>
      intro id' wt' hwt' _
      rw [honly id' wt' hwt', hstate, hcid]
      rfl
    case plain =>
      intro id' wt' hwt'
      rw [honly id' wt' hwt', ht, hplain]

theorem Solo.step {w : World α π θ} {e : Event α π θ} (h : w.Solo) (he : w.OneAtATime e) :
    (w.step e).Solo := by
  cases hr : w.request e with
  | none => exact h.step_of_none hr
  | some request =>
    obtain ⟨hplain, halone⟩ := he request hr
    obtain ⟨id, rfl, htask⟩ := request_eq_some hr
    exact h.step_capture htask hplain halone

/-- The capture of a waiting call has been published, and nothing is in flight. -/
structure Served (w : World α π θ) (id : ℕ) (wt : Waiter) : Prop where
  task : w.tasks id = some (.waiting wt)
  idle : w.hub.awaitingFrame = false
  stored : wt.cid ∈ w.hub.store.publications

/-- The step leaves a session in place. -/
def InSession (w : World α π θ) (e : Event α π θ) : Prop := (w.step e).hub.sessionId ≠ ""

theorem Served.step {w : World α π θ} {e : Event α π θ} {id : ℕ} {wt : Waiter} (h : w.Served id wt)
    (he : w.OneAtATime e) (hin : w.InSession e) (hne : e ≠ .step id) : (w.step e).Served id wt := by
  have htask := tasks_of_ne_step hne h.task
  rcases w.step_move e with ⟨thread, mid, fb, rfl⟩ | hm
  · have hdrop : w.hub.onCameraFrame (w.cursor thread) mid fb = (w.hub.toState, w.cursor thread) := by
      rcases w.hub.onCameraFrame_cases (w.cursor thread) mid fb with ⟨heq, _⟩ | ⟨hw, _⟩
      · exact heq
      · exact absurd (h.idle.symm.trans hw) Bool.false_ne_true
    have hstate : (w.step (.cameraFrame thread mid fb)).hub.toState = w.hub.toState :=
      congrArg Prod.fst hdrop
    exact ⟨htask, hstate ▸ h.idle, hstate ▸ h.stored⟩
  · generalize hs' : (w.step e).hub.toState = s' at hm
    generalize hr : w.request e = r at hm
    have hkeep : s'.awaitingFrame = false ∧ wt.cid ∈ s'.store.publications := by
      cases hm with
      | same => exact ⟨h.idle, h.stored⟩
      | runtime rt hne => exact ⟨h.idle, h.stored⟩
      | resumed rt hrt hold => exact ⟨h.idle, h.stored⟩
      | counted request hid hs => exact ⟨h.idle, h.stored⟩
      | errorTaken => exact ⟨h.idle, h.stored⟩
      | timedOut hw => exact absurd (h.idle.symm.trans hw) Bool.false_ne_true
      | notSent request hadm => exact ⟨rfl, h.stored⟩
      | released hs =>
        have hgone : (w.step e).hub.sessionId = "" := congrArg State.sessionId hs'
        exact absurd hgone hin
      | armed request hadm => exact absurd h.task ((he request hr).2 hadm id wt)
    rw [← hs'] at hkeep
    exact ⟨htask, hkeep.1, hkeep.2⟩

omit [DecidableEq θ] in
/-- A waiter whose capture has been published replies 0 the next time it runs. -/
theorem Served.replies {w : World α π θ} {id : ℕ} {wt : Waiter} (h : w.Served id wt)
    (hplain : wt.testInlineImage = false) :
    (w.stepTask id (.waiting wt)).replies.head? =
      some (id, .capture ⟨⟨0, ""⟩, wt.cid, wt.cid⟩) := by
  have hwake : w.hub.captureWakeUp wt w.clock =
      (w.hub.toState, some (captureSucceeded wt.cid wt.testInlineImage)) := by
    simp [State.captureWakeUp, h.idle, h.stored]
  dsimp only [stepTask]
  rw [hwake, hplain]
  rfl

/-- The callback publishes the capture that the task `id` waits for. -/
structure Serves (w : World α π θ) (e : Event α π θ) (id : ℕ) (wt : Waiter) : Prop where
  callback : ∃ thread mid fb, e = .cameraFrame thread mid fb
  task : w.tasks id = some (.waiting wt)
  awaiting : w.hub.awaitingFrame = true ∧ w.hub.awaitingClientCaptureId = wt.cid
  completed : (w.step e).hub.awaitingFrame = false
  stored : wt.cid ∈ (w.step e).hub.store.publications

theorem Serves.served {w : World α π θ} {e : Event α π θ} {id : ℕ} {wt : Waiter}
    (h : w.Serves e id wt) : (w.step e).Served id wt := by
  obtain ⟨thread, mid, fb, rfl⟩ := h.callback
  exact ⟨h.task, h.completed, h.stored⟩

/-- What concurrent synchronous captures owe each other after a run: a timeout only cancels the
capture of its own call, and a call whose capture was published replies 0. -/
structure Isolated (w₀ : World α π θ) (es : List (Event α π θ)) : Prop where
  timeout : ∀ id wt, (run World.step w₀ es).TimesOut id wt →
    (run World.step w₀ es).hub.awaitingClientCaptureId = wt.cid
  served : ∀ pre e post id wt, es = pre ++ e :: post → (run World.step w₀ pre).Serves e id wt →
    Along World.step InSession ((run World.step w₀ pre).step e) post → .step id ∉ post →
    ((run World.step w₀ es).step (.step id)).replies.head? =
      some (id, .capture ⟨⟨0, ""⟩, wt.cid, wt.cid⟩)

theorem run_solo {w : World α π θ} (h : w.Solo) {es : List (Event α π θ)}
    (hone : Along World.step OneAtATime w es) : (run World.step w es).Solo :=
  run_invariant_along (I := fun w : World α π θ => w.Solo) (fun _ _ he h => h.step he) hone h

theorem run_served {w : World α π θ} {id : ℕ} {wt : Waiter} (h : w.Served id wt)
    {es : List (Event α π θ)} (hone : Along World.step OneAtATime w es)
    (hin : Along World.step InSession w es) (hnot : .step id ∉ es) :
    (run World.step w es).Served id wt := by
  induction es generalizing w with
  | nil => exact h
  | cons e es ih =>
    rw [List.mem_cons, not_or] at hnot
    exact ih (h.step hone.1 hin.1 (Ne.symm hnot.1)) hone.2 hin.2 hnot.2

omit [DecidableEq θ] in
theorem booted_solo (prototypes : AList fun _ : String => α) (port : π) (b : Boot)
    (cursor : θ → UInt32) : (booted prototypes port b cursor).Solo where
  sound := (Service.boot_unused prototypes port b).sound
  own id wt h := by cases h
  plain id wt h := by cases h

/-- While captures come one at a time, synchronous captures do not disturb each other. -/
theorem isolated_of_oneAtATime (prototypes : AList fun _ : String => α) (port : π) (b : Boot)
    (cursor : θ → UInt32) {es : List (Event α π θ)}
    (hone : Along World.step OneAtATime (booted prototypes port b cursor) es) :
    Isolated (booted prototypes port b cursor) es := by
  have hstart := booted_solo prototypes port b cursor
  refine ⟨fun id wt hlate => ?_, fun pre e post id wt hes hserves hin hnot => ?_⟩
  · exact (run_solo hstart hone).own id wt hlate.task hlate.awaiting
  · subst hes
    obtain ⟨hpre, _, hpost⟩ := (along_append _ _ _ _ _).mp hone
    have hplain := (run_solo hstart hpre).plain id wt hserves.task
    have hend := run_served hserves.served hpost hin hnot
    rw [run_append, run_cons]
    have hstep : ∀ w : World α π θ, w.tasks id = some (.waiting wt) →
        w.step (.step id) = w.stepTask id (.waiting wt) := by
      intro w hw
      dsimp only [World.step]
      rw [hw]
    rw [hstep _ hend.task]
    exact hend.replies hplain

omit [ICameraAdapter α] [ISerialPort π] [DecidableEq θ] in
theorem oneAtATime_of_none {w : World α π θ} {e : Event α π θ} (h : w.request e = none) :
    w.OneAtATime e := by
  intro request hr
  rw [h] at hr
  cases hr

/-- A synchronous capture and its frame. -/
def syncCapture : List (Event ReadyCamera EchoPort Bool) :=
  captureEvents { sessionId := "cam-1", clientCaptureId := 1 } ++
    [.cameraFrame true "cam-1" { bytes := [1], width := 1, height := 1 }]

theorem request_eq_none_syncCapture : ∀ n < 5, n ≠ 3 →
    ((run World.step (bench oneCamera) (syncCapture.take n)).request (syncCapture.getD n .tick)) =
      none := by
  decide +kernel

/-- Nobody waits until the body of the capture has run. -/
theorem not_waiting_syncCapture (id : ℕ) (wt : Waiter) :
    (run World.step (bench oneCamera) (syncCapture.take 3)).tasks id ≠ some (.waiting wt) := by
  intro h
  have hpass := request_eq_none_syncCapture
  have h2 := waiting_of_step (hpass 2 (by decide) (by decide)) h
  have h1 := waiting_of_step (hpass 1 (by decide) (by decide)) h2
  have h0 : (bench oneCamera).tasks id = some (.waiting wt) :=
    waiting_of_step (hpass 0 (by decide) (by decide)) h1
  cases h0

theorem isolated_of_oneAtATime_syncCapture :
    Along World.step OneAtATime (bench oneCamera) syncCapture ∧
      Isolated (bench oneCamera) syncCapture := by
  have hpass := request_eq_none_syncCapture
  have hbody : (run World.step (bench oneCamera) (syncCapture.take 3)).request (.step 0) =
      some { sessionId := "cam-1", clientCaptureId := 1 } := by
    decide +kernel
  have halong : Along World.step OneAtATime (bench oneCamera) syncCapture := by
    refine ⟨oneAtATime_of_none (hpass 0 (by decide) (by decide)),
      oneAtATime_of_none (hpass 1 (by decide) (by decide)),
      oneAtATime_of_none (hpass 2 (by decide) (by decide)), fun request hr => ?_,
      oneAtATime_of_none (hpass 4 (by decide) (by decide)), trivial⟩
    obtain rfl := Option.some.inj (hbody.symm.trans hr)
    exact ⟨rfl, fun _ => not_waiting_syncCapture⟩
  exact ⟨halong, isolated_of_oneAtATime _ _ _ _ halong⟩

theorem run_ticks (w : World α π θ) (n : ℕ) :
    run World.step w (List.replicate n .tick) = { w with clock := w.clock + n } := by
  induction n generalizing w with
  | zero => rfl
  | succ n ih =>
    rw [List.replicate_succ, run_cons, ih]
    simp only [World.step, Nat.add_assoc, Nat.add_comm 1]

/-- The waiter of capture 1 does not wake up between the completion of its capture and the admission
of capture 2. -/
def secondCapture : List (Event ReadyCamera EchoPort Bool) :=
  syncCapture ++
    [.call 1 (.capture { sessionId := "cam-1", async := true, clientCaptureId := 2 }), .step 1, .step 1,
      .step 1]

/-- After 15 s it cancels capture 2. -/
theorem timeout_cancels_other_capture : ¬ ∀ es, Isolated (bench oneCamera) es := by
  intro hall
  have h := (hall (secondCapture ++ List.replicate 15000 .tick)).timeout 0 ⟨1, 15000, false⟩
  have htask : (run World.step (bench oneCamera) secondCapture).tasks 0 =
      some (.waiting ⟨1, 15000, false⟩) := by
    decide +kernel
  have hstate : (run World.step (bench oneCamera) secondCapture).hub.awaitingFrame = true ∧
      (run World.step (bench oneCamera) secondCapture).hub.awaitingClientCaptureId = 2 := by
    decide +kernel
  rw [run_append, run_ticks] at h
  generalize run World.step (bench oneCamera) secondCapture = w at h htask hstate
  have hcid := h ⟨htask, hstate.1, Nat.le_add_left _ _⟩
  cases hstate.2.symm.trans hcid

end World
end Camera3D.Hub
