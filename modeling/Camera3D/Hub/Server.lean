import Camera3D.Hub.Requests
import Camera3D.Hub.Startup

/-! The hub process with every call of its service, and what one step of it does. -/
namespace Camera3D.Hub
open Camera Serial Ipc Transition HubServiceStateCode

/-- Where a running call of `Request` stands: recovering the serial port, or before its locked body. -/
inductive Job where
  | recovering (pc : Recovery) (rq : Request)
  | body (rq : Request)
  deriving DecidableEq

structure Server (α π θ : Type*) where
  world : World α π θ
  jobs : ℕ → Option Job := fun _ => none
  /-- History: the answers given so far, newest first. -/
  answers : List (ℕ × Answer) := []

inductive ServerEvent (α π θ : Type*) where
  | world (e : Event α π θ)
  | request (id : ℕ) (rq : Request)
  | job (id : ℕ)

/-- A running call: a task of the world, or a job. -/
inductive Caller where
  | task (id : ℕ)
  | job (id : ℕ)
  deriving DecidableEq

def Task.pc : Task → Option Recovery
  | .recovering pc _ => some pc
  | _ => none

def Job.pc : Job → Option Recovery
  | .recovering pc _ => some pc
  | .body _ => none

namespace Server
variable {α π θ : Type*}

def hub (sv : Server α π θ) : Service α π := sv.world.hub

def withHub (sv : Server α π θ) (hub : Service α π) : Server α π θ :=
  { sv with world := { sv.world with hub } }

def setJob (sv : Server α π θ) (id : ℕ) (job : Option Job) : Server α π θ :=
  { sv with jobs := Function.update sv.jobs id job }

section Step
variable [ICameraAdapter α] [ICameraControls α] [ISerialPort π] [DecidableEq θ]

omit [ICameraAdapter α] [DecidableEq θ] in
def stepJob (sv : Server α π θ) (id : ℕ) : Job → Server α π θ
  | .recovering pc rq =>
    match sv.hub.tryRecoverSerialQuick pc with
    | (hub, some pc) => (sv.withHub hub).setJob id (some (.recovering pc rq))
    | (hub, none) => (sv.withHub hub).setJob id (some (.body rq))
  | .body rq =>
    { (sv.withHub (sv.hub.answer rq).1).setJob id none with
      answers := (id, (sv.hub.answer rq).2) :: sv.answers }

def step (sv : Server α π θ) : ServerEvent α π θ → Server α π θ
  | .world e => { sv with world := sv.world.step e }
  | .request id rq =>
    match sv.jobs id with
    | none => sv.setJob id (some (.recovering .readCom rq))
    | some _ => sv
  | .job id =>
    match sv.jobs id with
    | none => sv
    | some job => sv.stepJob id job

omit [ICameraAdapter α] [DecidableEq θ] in
/-- The hub after a call that stood at `job` has run on. -/
def hubAfter (sv : Server α π θ) : Job → Service α π
  | .recovering pc _ => (sv.hub.tryRecoverSerialQuick pc).1
  | .body rq => (sv.hub.answer rq).1

omit [ICameraAdapter α] [ICameraControls α] [DecidableEq θ] in
def jobAfter (sv : Server α π θ) : Job → Option Job
  | .recovering pc rq =>
    match (sv.hub.tryRecoverSerialQuick pc).2 with
    | some pc => some (.recovering pc rq)
    | none => some (.body rq)
  | .body _ => none

omit [ICameraAdapter α] [DecidableEq θ] in
/-- Such a call changes the hub, its own place and the answers. -/
theorem stepJob_eq (sv : Server α π θ) (id : ℕ) (job : Job) :
    ∃ answers, sv.stepJob id job =
      { (sv.withHub (sv.hubAfter job)).setJob id (sv.jobAfter job) with answers } := by
  cases job with
  | body rq => exact ⟨(id, (sv.hub.answer rq).2) :: sv.answers, rfl⟩
  | recovering pc rq =>
    refine ⟨sv.answers, ?_⟩
    dsimp only [stepJob, hubAfter, jobAfter]
    rcases sv.hub.tryRecoverSerialQuick pc with ⟨hub, next⟩
    cases next with
    | none => rfl
    | some pc => rfl

omit [ICameraAdapter α] [DecidableEq θ] in
theorem stepJob_hub (sv : Server α π θ) (id : ℕ) (job : Job) :
    (sv.stepJob id job).hub = sv.hubAfter job := by
  obtain ⟨answers, he⟩ := sv.stepJob_eq id job
  rw [he]
  rfl

end Step

/-- The step of the serial recovery that a running call is at. -/
def pc (sv : Server α π θ) : Caller → Option Recovery
  | .task id => (sv.world.tasks id).bind Task.pc
  | .job id => (sv.jobs id).bind Job.pc

end Server

/-- The call that an event lets run. -/
def ServerEvent.caller {α π θ : Type*} : ServerEvent α π θ → Option Caller
  | .world (.step id) => some (.task id)
  | .job id => some (.job id)
  | _ => none

/-- The call that an event begins. -/
def ServerEvent.begins {α π θ : Type*} : ServerEvent α π θ → Option Caller
  | .world (.call id _) => some (.task id)
  | .request id _ => some (.job id)
  | _ => none

/-- What brings a change of the service about. -/
inductive Cause where
  | recovery (pc : Recovery)
  | portChanged
  | other
  deriving DecidableEq

/-- What one step of the process does to the service. -/
inductive Change {α π : Type*} [ICameraAdapter α] [ISerialPort π] (h : Service α π) :
    Cause → Service α π → Prop
  | recovery (pc : Recovery) : Change h (.recovery pc) (h.tryRecoverSerialQuick pc).1
  | connect : Change h .other h.connect.1
  | disconnect (sessionId : String) : Change h .other (h.disconnect sessionId).1
  | capture (request : CaptureRequest) (now : ℕ) : Change h .other (h.capture request now).1
  | wakeUp (wt : Waiter) (now : ℕ) : Change h .other (h.withState (h.captureWakeUp wt now).1)
  | cameraFrame (sNext : UInt32) (mid : String) (fb : FrameBuffer) :
    Change h .other (h.withState (h.onCameraFrame sNext mid fb).1)
  | port (port : π) : Change h .portChanged { h with serial := { h.serial with port } }
  | cameras (cameras : CameraManager α) (hdevices : cameras.deviceOf = h.cameras.deviceOf) :
    Change h .other { h with cameras }

theorem Change.move {α π : Type*} [ICameraAdapter α] [ISerialPort π] {h h' : Service α π} {c : Cause}
    (hch : Change h c h') : (∃ r, h.toState.Move r h'.toState) ∨
      ∃ sNext mid fb, h'.toState = (h.onCameraFrame sNext mid fb).1 := by
  cases hch with
  | recovery pc => exact .inl ⟨_, h.tryRecoverSerialQuick_move pc⟩
  | connect => exact .inl ⟨_, h.connect_move⟩
  | disconnect sessionId => exact .inl ⟨_, h.disconnect_move sessionId⟩
  | capture request now => exact .inl ⟨_, h.capture_move request now⟩
  | wakeUp wt now => exact .inl ⟨_, captureWakeUp_move h.toState wt now⟩
  | cameraFrame sNext mid fb => exact .inr ⟨sNext, mid, fb, rfl⟩
  | port port => exact .inl ⟨none, .same none⟩
  | cameras cameras hdevices => exact .inl ⟨none, .same none⟩

theorem Change.sound {α π : Type*} [ICameraAdapter α] [ISerialPort π] {h h' : Service α π} {c : Cause}
    (hch : Change h c h') (hs : h.Sound) : h'.Sound := by
  rcases hch.move with ⟨r, hm⟩ | ⟨sNext, mid, fb, he⟩
  · exact hs.move hm
  · rw [he]
    exact hs.onCameraFrame sNext mid fb

namespace Server
variable {α π θ : Type*} [ICameraAdapter α] [ISerialPort π]

/-- What an event does, if it does anything. -/
def cause (sv : Server α π θ) (e : ServerEvent α π θ) : Cause :=
  match e with
  | .world (.portChanged _) => .portChanged
  | e =>
    match e.caller.bind sv.pc with
    | some pc => .recovery pc
    | none => .other

omit [ICameraAdapter α] [ISerialPort π] in
theorem pc_of_cause {sv : Server α π θ} {e : ServerEvent α π θ} {pc : Recovery}
    (hc : sv.cause e = .recovery pc) : ∃ c, e.caller = some c ∧ sv.pc c = some pc := by
  unfold cause at hc
  split at hc
  · cases hc
  · split at hc
    next pc' hpc' =>
      cases hc
      exact Option.bind_eq_some_iff.mp hpc'
    next => cases hc

omit [ICameraAdapter α] [ISerialPort π] in
theorem cause_portChanged {sv : Server α π θ} {e : ServerEvent α π θ}
    (hc : sv.cause e = .portChanged) : ∃ port, e = .world (.portChanged port) := by
  unfold cause at hc
  split at hc
  next port => exact ⟨port, rfl⟩
  next =>
    split at hc
    · cases hc
    · cases hc

omit [ICameraAdapter α] [ISerialPort π] in
/-- A call that does something else is not in the recovery. -/
theorem pc_of_other {sv : Server α π θ} {e : ServerEvent α π θ} (hc : sv.cause e = .other)
    {c : Caller} (hcaller : e.caller = some c) : sv.pc c = none := by
  unfold cause at hc
  split at hc
  · cases hc
  · split at hc
    next => cases hc
    next hnone =>
      rw [hcaller] at hnone
      exact hnone

variable [ICameraControls α] [DecidableEq θ]

omit [ICameraControls α] [DecidableEq θ] in
theorem change_hubAfter (w : World α π θ) (task : Task) :
    Change w.hub (match task.pc with | some pc => .recovery pc | none => .other) (w.hubAfter task) := by
  cases task with
  | recovering pc rpc => exact .recovery pc
  | waiting wt => exact .wakeUp wt w.clock
  | body rpc =>
    cases rpc with
    | connect => exact .connect
    | disconnect sessionId => exact .disconnect sessionId
    | capture request => exact .capture request w.clock
    | getDepth request => exact .cameras w.hub.cameras rfl
    | serialWatchTick => exact .cameras w.hub.cameras rfl

omit [DecidableEq θ] in
theorem change_stepJob (sv : Server α π θ) (id : ℕ) (job : Job) :
    Change sv.hub (match job.pc with | some pc => .recovery pc | none => .other)
      (sv.stepJob id job).hub := by
  rw [sv.stepJob_hub id job]
  cases job with
  | recovering pc rq => exact .recovery pc
  | body rq =>
    obtain ⟨cameras, hdevices, he⟩ := sv.hub.answer_frame rq
    show Change sv.hub .other (sv.hub.answer rq).1
    rw [he]
    exact .cameras cameras hdevices

/-- Every step of the process is a change of the service. -/
theorem step_change (sv : Server α π θ) (e : ServerEvent α π θ) :
    Change sv.hub (sv.cause e) (sv.step e).hub := by
  have hsame : Change sv.hub .other sv.hub := .cameras sv.hub.cameras rfl
  cases e with
  | request id rq =>
    dsimp only [step]
    cases sv.jobs id with
    | none => exact hsame
    | some job => exact hsame
  | job id =>
    dsimp only [step, cause, ServerEvent.caller, Option.bind_some, pc]
    cases sv.jobs id with
    | none => exact hsame
    | some job => exact sv.change_stepJob id job
  | world e =>
    cases e with
    | call id rpc =>
      dsimp only [step, World.step]
      cases sv.world.tasks id with
      | none => exact hsame
      | some task => exact hsame
    | step id =>
      dsimp only [step, hub, cause, ServerEvent.caller, Option.bind_some, pc]
      rcases sv.world.step_eq id with ⟨hnone, he⟩ | ⟨task, htask, he⟩
      · rw [he, hnone]
        exact hsame
      · rw [he, htask]
        exact change_hubAfter sv.world task
    | cameraFrame thread mid fb => exact .cameraFrame (sv.world.cursor thread) mid fb
    | portChanged port => exact .port port
    | cameraChanged mid adapter => exact .cameras _ CameraManager.deviceOf_withAdapter
    | tick => exact hsame

omit [ICameraAdapter α] [ICameraControls α] [DecidableEq θ] in
/-- A task that runs moves on in the recovery, or is not in it afterwards. -/
theorem pc_taskAfter (w : World α π θ) (task : Task) :
    (w.taskAfter task).bind Task.pc = task.pc.bind fun pc => (w.hub.tryRecoverSerialQuick pc).2 := by
  cases task with
  | recovering pc rpc =>
    dsimp only [World.taskAfter, Task.pc, Option.bind_some]
    cases (w.hub.tryRecoverSerialQuick pc).2 with
    | none => rfl
    | some pc => rfl
  | waiting wt =>
    dsimp only [World.taskAfter, Task.pc, Option.bind_none]
    cases (w.hub.captureWakeUp wt w.clock).2 with
    | none => rfl
    | some r => rfl
  | body rpc =>
    cases rpc with
    | connect | disconnect | getDepth | serialWatchTick => rfl
    | capture request =>
      dsimp only [World.taskAfter, Task.pc, Option.bind_none]
      cases (w.hub.capture request w.clock).2 with
      | reply r => rfl
      | wait wt => rfl

omit [ICameraAdapter α] [DecidableEq θ] in
theorem pc_stepJob (sv : Server α π θ) (id : ℕ) (job : Job) :
    ((sv.stepJob id job).jobs id).bind Job.pc =
      job.pc.bind fun pc => (sv.hub.tryRecoverSerialQuick pc).2 := by
  obtain ⟨answers, he⟩ := sv.stepJob_eq id job
  have hjob : (sv.stepJob id job).jobs id = sv.jobAfter job := by
    rw [he]
    exact Function.update_self id _ sv.jobs
  rw [hjob]
  cases job with
  | body rq => rfl
  | recovering pc rq =>
    dsimp only [jobAfter, Job.pc, Option.bind_some]
    cases (sv.hub.tryRecoverSerialQuick pc).2 with
    | none => rfl
    | some pc => rfl

omit [ICameraAdapter α] [DecidableEq θ] in
theorem jobs_stepJob {sv : Server α π θ} {id id' : ℕ} (hne : id' ≠ id) (job : Job) :
    (sv.stepJob id job).jobs id' = sv.jobs id' := by
  obtain ⟨answers, he⟩ := sv.stepJob_eq id job
  rw [he]
  exact Function.update_of_ne hne _ sv.jobs

omit [ICameraAdapter α] [DecidableEq θ] in
/-- A job leaves the world as it is but for the hub. -/
theorem world_stepJob (sv : Server α π θ) (id : ℕ) (job : Job) :
    (sv.stepJob id job).world = { sv.world with hub := (sv.stepJob id job).hub } := by
  obtain ⟨answers, he⟩ := sv.stepJob_eq id job
  rw [he]
  rfl

omit [ICameraAdapter α] [DecidableEq θ] in
/-- Of the hub a job only touches the cameras, the runtime state and the port. -/
theorem hubAfter_frame (sv : Server α π θ) (job : Job) :
    ∃ cameras rt serial, sv.hubAfter job = { sv.hub with cameras, hubRuntime := rt, serial } := by
  cases job with
  | recovering pc rq =>
    obtain ⟨rt, serial, he⟩ := sv.hub.tryRecoverSerialQuick_frame pc
    exact ⟨sv.hub.cameras, rt, serial, he⟩
  | body rq =>
    obtain ⟨cameras, _, he⟩ := sv.hub.answer_frame rq
    exact ⟨cameras, sv.hub.hubRuntime, sv.hub.serial, he⟩

/-- So does every event that is none of the world. -/
theorem step_frame {sv : Server α π θ} {e : ServerEvent α π θ} (hworld : ∀ e', e ≠ .world e') :
    ∃ cameras rt serial, (sv.step e).world =
      { sv.world with hub := { sv.hub with cameras, hubRuntime := rt, serial } } := by
  cases e with
  | world e => exact absurd rfl (hworld e)
  | request id rq =>
    refine ⟨sv.hub.cameras, sv.hub.hubRuntime, sv.hub.serial, ?_⟩
    dsimp only [step]
    cases sv.jobs id with
    | none => rfl
    | some job => rfl
  | job id =>
    dsimp only [step]
    cases sv.jobs id with
    | none => exact ⟨sv.hub.cameras, sv.hub.hubRuntime, sv.hub.serial, rfl⟩
    | some job =>
      obtain ⟨cameras, rt, serial, he⟩ := sv.hubAfter_frame job
      refine ⟨cameras, rt, serial, ?_⟩
      dsimp only
      rw [sv.world_stepJob id job, sv.stepJob_hub id job, he]

/-- A call that runs moves on in the recovery of the serial port, or is not in it afterwards. -/
theorem pc_of_runs {sv : Server α π θ} {e : ServerEvent α π θ} {c : Caller} (hc : e.caller = some c) :
    (sv.step e).pc c = (sv.pc c).bind fun pc => (sv.hub.tryRecoverSerialQuick pc).2 := by
  cases e with
  | request id rq => cases hc
  | job id =>
    obtain rfl := Option.some.inj hc
    dsimp only [step, pc]
    cases hjob : sv.jobs id with
    | none =>
      dsimp only
      rw [hjob]
      rfl
    | some job => exact sv.pc_stepJob id job
  | world e =>
    cases e with
    | call id rpc => cases hc
    | cameraFrame thread mid fb => cases hc
    | portChanged port => cases hc
    | cameraChanged mid adapter => cases hc
    | tick => cases hc
    | step id =>
      obtain rfl := Option.some.inj hc
      dsimp only [step, pc]
      rcases sv.world.step_eq id with ⟨hnone, he⟩ | ⟨task, htask, he⟩
      · rw [he, hnone]
        rfl
      · rw [he, htask, World.after_tasks_self]
        exact pc_taskAfter sv.world task

/-- An RPC begins with the recovery of the serial port, but for `Disconnect`. -/
theorem pc_call (sv : Server α π θ) (id id' : ℕ) (rpc : Rpc) :
    (sv.step (.world (.call id rpc))).pc (.task id') = sv.pc (.task id') ∨
      (ServerEvent.world (.call id rpc) : ServerEvent α π θ).begins = some (.task id') ∧
        sv.pc (.task id') = none ∧
        (sv.step (.world (.call id rpc))).pc (.task id') = some .readCom := by
  dsimp only [step, World.step]
  cases htask : sv.world.tasks id with
  | some task => exact .inl rfl
  | none =>
    by_cases hid : id' = id
    · subst hid
      have hnone : sv.pc (.task id') = none := congrArg (Option.bind · Task.pc) htask
      have hset := congrArg (Option.bind · Task.pc)
        (Function.update_self id' (some rpc.start) sv.world.tasks)
      cases rpc with
      | disconnect sessionId => exact .inl (hset.trans hnone.symm)
      | connect | capture | getDepth | serialWatchTick => exact .inr ⟨rfl, hnone, hset⟩
    · exact .inl (congrArg (Option.bind · Task.pc) (Function.update_of_ne hid _ sv.world.tasks))

/-- A call that does not run stays where it is, unless it begins now. -/
theorem pc_of_not_runs {sv : Server α π θ} {e : ServerEvent α π θ} {c : Caller}
    (hc : e.caller ≠ some c) :
    (sv.step e).pc c = sv.pc c ∨
      e.begins = some c ∧ sv.pc c = none ∧ (sv.step e).pc c = some .readCom := by
  cases e with
  | request id rq =>
    dsimp only [step]
    cases hjob : sv.jobs id with
    | some job => exact .inl rfl
    | none =>
      cases c with
      | task id' => exact .inl rfl
      | job id' =>
        by_cases hid : id' = id
        · subst hid
          right
          refine ⟨rfl, congrArg (Option.bind · Job.pc) hjob, ?_⟩
          exact congrArg (Option.bind · Job.pc) (Function.update_self id' _ sv.jobs)
        · exact .inl (congrArg (Option.bind · Job.pc) (Function.update_of_ne hid _ sv.jobs))
  | job id =>
    left
    dsimp only [step]
    cases hjob : sv.jobs id with
    | none => rfl
    | some job =>
      cases c with
      | task id' =>
        have hworld : (sv.stepJob id job).world.tasks = sv.world.tasks := by rw [sv.world_stepJob id job]
        exact congrArg (fun tasks : ℕ → Option Task => (tasks id').bind Task.pc) hworld
      | job id' =>
        have hid : id' ≠ id := fun heq => hc (heq ▸ rfl)
        exact congrArg (Option.bind · Job.pc) (jobs_stepJob hid job)
  | world e =>
    cases c with
    | job id' => exact .inl rfl
    | task id' =>
      cases e with
      | cameraFrame thread mid fb => exact .inl rfl
      | portChanged port => exact .inl rfl
      | cameraChanged mid adapter => exact .inl rfl
      | tick => exact .inl rfl
      | step id =>
        left
        have hid : id' ≠ id := fun heq => hc (heq ▸ rfl)
        dsimp only [step, pc]
        rcases sv.world.step_eq id with ⟨_, he⟩ | ⟨task, _, he⟩
        · rw [he]
        · rw [he]
          exact congrArg (Option.bind · Task.pc) (World.after_tasks_ne hid task)
      | call id rpc => exact pc_call sv id id' rpc

/-- A call that no event begins or runs stays where it is. -/
theorem pc_run {sv : Server α π θ} {es : List (ServerEvent α π θ)} {c : Caller}
    (hes : ∀ e ∈ es, e.caller ≠ some c ∧ e.begins ≠ some c) : (run step sv es).pc c = sv.pc c := by
  induction es generalizing sv with
  | nil => rfl
  | cons e es ih =>
    obtain ⟨hruns, hbegins⟩ := hes e List.mem_cons_self
    have hstep : (sv.step e).pc c = sv.pc c :=
      (pc_of_not_runs hruns).resolve_right fun h => hbegins h.1
    rw [run_cons, ih fun e' he' => hes e' (List.mem_cons_of_mem e he'), hstep]

omit [ICameraControls α] [DecidableEq θ] in
theorem connect_of_replyAfter {w : World α π θ} {task : Task} {r : ConnectReply}
    (hr : w.replyAfter task = some (.connect r)) : r = w.hub.connect.2 := by
  cases task with
  | recovering pc rpc => cases hr
  | waiting wt =>
    obtain ⟨r', _, heq⟩ := Option.map_eq_some_iff.mp hr
    cases heq
  | body rpc =>
    cases rpc with
    | connect =>
      cases hr
      rfl
    | disconnect sessionId => cases hr
    | getDepth request => cases hr
    | serialWatchTick => cases hr
    | capture request =>
      dsimp only [World.replyAfter] at hr
      split at hr
      · cases hr
      · cases hr

/-- The replies to `Connect` come from its locked body. -/
theorem connect_reply {sv : Server α π θ} {e : ServerEvent α π θ} {id : ℕ} {r : ConnectReply}
    (hr : (id, .connect r) ∈ (sv.step e).world.replies) :
    (id, .connect r) ∈ sv.world.replies ∨ r = sv.hub.connect.2 := by
  by_cases hworld : ∃ e', e = .world e'
  · obtain ⟨e, rfl⟩ := hworld
    cases e with
    | cameraFrame thread mid fb => exact .inl hr
    | portChanged port => exact .inl hr
    | cameraChanged mid adapter => exact .inl hr
    | tick => exact .inl hr
    | call id' rpc =>
      left
      dsimp only [step, World.step] at hr
      cases htask : sv.world.tasks id' with
      | none =>
        rw [htask] at hr
        exact hr
      | some task =>
        rw [htask] at hr
        exact hr
    | step id' =>
      dsimp only [step] at hr
      rcases sv.world.step_eq id' with ⟨_, he⟩ | ⟨task, _, he⟩
      · rw [he] at hr
        exact .inl hr
      · rw [he] at hr
        cases List.mem_append.mp hr with
        | inr hold => exact .inl hold
        | inl hnew =>
          rw [Option.mem_toList, Option.map_eq_some_iff] at hnew
          obtain ⟨reply, hreply, heq⟩ := hnew
          cases heq
          exact .inr (connect_of_replyAfter hreply)
  · obtain ⟨cameras, rt, serial, he⟩ := sv.step_frame (not_exists.mp hworld)
    rw [he] at hr
    exact .inl hr

/-- A hub process that has just started to serve calls. -/
def booted (prototypes : AList fun _ : String => α) (port : π) (b : Boot) (cursor : θ → UInt32) :
    Server α π θ :=
  { world := Hub.booted prototypes port b cursor }

/-- The states a hub process can come to. -/
def Reachable (sv : Server α π θ) : Prop :=
  ∃ (prototypes : AList fun _ : String => α) (port : π) (b : Boot) (cursor : θ → UInt32)
    (es : List (ServerEvent α π θ)), sv = run step (booted prototypes port b cursor) es

theorem Reachable.next {sv : Server α π θ} (h : sv.Reachable) (e : ServerEvent α π θ) :
    (sv.step e).Reachable := by
  obtain ⟨prototypes, port, b, cursor, es, rfl⟩ := h
  exact ⟨prototypes, port, b, cursor, es ++ [e], (run_concat step _ es e).symm⟩

theorem run_sound {sv : Server α π θ} (hs : sv.hub.Sound) (es : List (ServerEvent α π θ)) :
    (run step sv es).hub.Sound :=
  run_invariant (I := fun sv : Server α π θ => sv.hub.Sound)
    (fun sv e h => (sv.step_change e).sound h) hs es

theorem Reachable.sound {sv : Server α π θ} (h : sv.Reachable) : sv.hub.Sound := by
  obtain ⟨prototypes, port, b, cursor, es, rfl⟩ := h
  have hboot : (booted prototypes port b cursor).hub.Sound := (Service.boot_unused prototypes port b).sound
  exact run_sound hboot es

end Server
end Camera3D.Hub
