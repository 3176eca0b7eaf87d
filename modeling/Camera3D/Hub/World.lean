import Camera3D.Hub.Capture
import Camera3D.Hub.Depth
import Camera3D.Hub.Frames
import Camera3D.Transition.Run
import Mathlib.Logic.Function.Basic

/-! The hub process: calls of clients, the serial watch and camera callbacks, interleaved at the
points where they take a lock. -/
namespace Camera3D.Hub
open Camera Serial Ipc Transition HubServiceStateCode

inductive Rpc where
  | connect
  | disconnect (sessionId : String)
  | capture (request : CaptureRequest)
  | getDepth (request : DepthRequest)
  | serialWatchTick
  deriving DecidableEq

inductive Reply where
  | connect (r : ConnectReply)
  | disconnect (status : Status)
  | capture (r : CaptureReply)
  | getDepth (r : DepthReply)
  | serialWatchTick
  deriving DecidableEq

/-- Where a running call stands: recovering the serial port, before its locked body, or waiting. -/
inductive Task where
  | recovering (pc : Recovery) (rpc : Rpc)
  | body (rpc : Rpc)
  | waiting (w : Waiter)
  deriving DecidableEq

def Rpc.start : Rpc → Task
  | .disconnect sessionId => .body (.disconnect sessionId)
  | rpc => .recovering .readCom rpc

structure World (α π θ : Type*) where
  hub : Service α π
  /-- The ring cursor of each thread. -/
  cursor : θ → UInt32
  tasks : ℕ → Option Task := fun _ => none
  /-- History: the replies given so far, newest first. -/
  replies : List (ℕ × Reply) := []
  clock : ℕ := 0

inductive Event (α π θ : Type*) where
  | call (id : ℕ) (rpc : Rpc)
  | step (id : ℕ)
  | cameraFrame (thread : θ) (managerDeviceId : String) (fb : FrameBuffer)
  | portChanged (port : π)
  | cameraChanged (managerDeviceId : String) (adapter : α)
  | tick

namespace World
variable {α π θ : Type*} [ICameraAdapter α] [ISerialPort π] [DecidableEq θ]

def setTask (w : World α π θ) (id : ℕ) (task : Option Task) : World α π θ :=
  { w with tasks := Function.update w.tasks id task }

def finish (w : World α π θ) (id : ℕ) (hub : Service α π) (reply : Reply) : World α π θ :=
  { w.setTask id none with hub, replies := (id, reply) :: w.replies }

/-- The locked body of a call. -/
def runBody (w : World α π θ) (id : ℕ) : Rpc → World α π θ
  | .connect => w.finish id w.hub.connect.1 (.connect w.hub.connect.2)
  | .disconnect sessionId =>
    w.finish id (w.hub.disconnect sessionId).1 (.disconnect (w.hub.disconnect sessionId).2)
  | .capture request =>
    match w.hub.capture request w.clock with
    | (hub, .reply r) => w.finish id hub (.capture r)
    | (hub, .wait waiter) => { w.setTask id (some (.waiting waiter)) with hub }
  | .getDepth request => w.finish id w.hub (.getDepth (w.hub.getDepth request))
  | .serialWatchTick => w.finish id w.hub .serialWatchTick

def stepTask (w : World α π θ) (id : ℕ) : Task → World α π θ
  | .recovering pc rpc =>
    match w.hub.tryRecoverSerialQuick pc with
    | (hub, some pc) => { w.setTask id (some (.recovering pc rpc)) with hub }
    | (hub, none) => { w.setTask id (some (.body rpc)) with hub }
  | .body rpc => w.runBody id rpc
  | .waiting waiter =>
    match w.hub.captureWakeUp waiter w.clock with
    | (state, none) => { w with hub := w.hub.withState state }
    | (state, some r) => w.finish id (w.hub.withState state) (.capture r)

def step (w : World α π θ) : Event α π θ → World α π θ
  | .call id rpc =>
    match w.tasks id with
    | none => w.setTask id (some rpc.start)
    | some _ => w
  | .step id =>
    match w.tasks id with
    | none => w
    | some task => w.stepTask id task
  | .cameraFrame thread managerDeviceId fb =>
    let (state, sNext) := w.hub.onCameraFrame (w.cursor thread) managerDeviceId fb
    { w with
      hub := w.hub.withState state
      cursor := Function.update w.cursor thread sNext }
  | .portChanged port => { w with hub := { w.hub with serial := { w.hub.serial with port } } }
  | .cameraChanged managerDeviceId adapter =>
    { w with hub := { w.hub with cameras :=
      (w.hub.cameras.withAdapter managerDeviceId () fun _ => (adapter, ())).1 } }
  | .tick => { w with clock := w.clock + 1 }

/-- The hub after a call that stood at `task` has run on. -/
def hubAfter (w : World α π θ) : Task → Service α π
  | .recovering pc _ => (w.hub.tryRecoverSerialQuick pc).1
  | .waiting waiter => w.hub.withState (w.hub.captureWakeUp waiter w.clock).1
  | .body .connect => w.hub.connect.1
  | .body (.disconnect sessionId) => (w.hub.disconnect sessionId).1
  | .body (.capture request) => (w.hub.capture request w.clock).1
  | .body (.getDepth _) => w.hub
  | .body .serialWatchTick => w.hub

/-- Where the call stands then, unless it has returned. -/
def taskAfter (w : World α π θ) : Task → Option Task
  | .recovering pc rpc =>
    match (w.hub.tryRecoverSerialQuick pc).2 with
    | some pc => some (.recovering pc rpc)
    | none => some (.body rpc)
  | .waiting waiter =>
    match (w.hub.captureWakeUp waiter w.clock).2 with
    | none => some (.waiting waiter)
    | some _ => none
  | .body (.capture request) =>
    match (w.hub.capture request w.clock).2 with
    | .reply _ => none
    | .wait waiter => some (.waiting waiter)
  | .body _ => none

def replyAfter (w : World α π θ) : Task → Option Reply
  | .recovering _ _ => none
  | .waiting waiter => (w.hub.captureWakeUp waiter w.clock).2.map .capture
  | .body .connect => some (.connect w.hub.connect.2)
  | .body (.disconnect sessionId) => some (.disconnect (w.hub.disconnect sessionId).2)
  | .body (.capture request) =>
    match (w.hub.capture request w.clock).2 with
    | .reply r => some (.capture r)
    | .wait _ => none
  | .body (.getDepth request) => some (.getDepth (w.hub.getDepth request))
  | .body .serialWatchTick => some .serialWatchTick

def after (w : World α π θ) (id : ℕ) (task : Task) : World α π θ :=
  { w with
    hub := w.hubAfter task
    tasks := Function.update w.tasks id (w.taskAfter task)
    replies := ((w.replyAfter task).map fun r => (id, r)).toList ++ w.replies }

omit [DecidableEq θ] in
theorem runBody_eq (w : World α π θ) (id : ℕ) (rpc : Rpc) : w.runBody id rpc = w.after id (.body rpc) := by
  cases rpc with
  | connect | disconnect | getDepth | serialWatchTick => rfl
  | capture request =>
    dsimp only [runBody, after, hubAfter, taskAfter, replyAfter]
    rcases w.hub.capture request w.clock with ⟨hub, next⟩
    cases next with
    | reply r => rfl
    | wait waiter => rfl

omit [DecidableEq θ] in
/-- A call that runs changes the hub, its own place and the replies. -/
theorem stepTask_eq {w : World α π θ} {id : ℕ} {task : Task} (htask : w.tasks id = some task) :
    w.stepTask id task = w.after id task := by
  cases task with
  | body rpc => exact w.runBody_eq id rpc
  | recovering pc rpc =>
    dsimp only [stepTask, after, hubAfter, taskAfter, replyAfter]
    rcases w.hub.tryRecoverSerialQuick pc with ⟨hub, next⟩
    cases next with
    | none => rfl
    | some pc => rfl
  | waiting waiter =>
    dsimp only [stepTask, after, hubAfter, taskAfter, replyAfter]
    rcases w.hub.captureWakeUp waiter w.clock with ⟨state, reply⟩
    cases reply with
    | none =>
      have hsame : Function.update w.tasks id (some (.waiting waiter)) = w.tasks := by
        rw [← htask, Function.update_eq_self]
      dsimp only
      rw [hsame]
      rfl
    | some r => rfl

omit [DecidableEq θ] in
theorem after_tasks_self (w : World α π θ) (id : ℕ) (task : Task) :
    (w.after id task).tasks id = w.taskAfter task := Function.update_self _ _ _

omit [DecidableEq θ] in
theorem after_tasks_ne {w : World α π θ} {id id' : ℕ} (hne : id' ≠ id) (task : Task) :
    (w.after id task).tasks id' = w.tasks id' := Function.update_of_ne hne _ _

theorem step_of_task {w : World α π θ} {id : ℕ} {task : Task} (htask : w.tasks id = some task) :
    w.step (.step id) = w.after id task := by
  dsimp only [step]
  rw [htask]
  exact stepTask_eq htask

/-- Letting a call run does nothing if there is none. -/
theorem step_eq (w : World α π θ) (id : ℕ) : w.tasks id = none ∧ w.step (.step id) = w ∨
    ∃ task, w.tasks id = some task ∧ w.step (.step id) = w.after id task := by
  cases htask : w.tasks id with
  | none =>
    left
    refine ⟨rfl, ?_⟩
    dsimp only [step]
    rw [htask]
  | some task => exact .inr ⟨task, rfl, step_of_task htask⟩

end World

variable {α π θ : Type*} [ICameraAdapter α] [ISerialPort π]

/-- What `RunHubApp` does before it serves calls. -/
inductive Boot where
  | configFileNotFound (message : String)
  | configInvalid (message : String)
  | started (fc : HubFileConfig) (boost : BoostOutcome)

/-- A hub at the start of the process: adapters are registered, no camera is open. -/
def fresh (prototypes : AList fun _ : String => α) (port : π) : Service α π :=
  { cameras := { prototypes }, serial := { port } }

def Service.boot (h : Service α π) : Boot → Service α π
  | .configFileNotFound message => h.reportStartupFailure kConfigFileNotFound message
  | .configInvalid message => h.reportStartupFailure kConfigInvalid message
  | .started fc boost => (h.unifiedStartupFromConfig fc boost).1

/-- A hub process that has just started to serve calls. -/
def booted (prototypes : AList fun _ : String => α) (port : π) (b : Boot) (cursor : θ → UInt32) :
    World α π θ :=
  { hub := (fresh prototypes port).boot b, cursor }

/-- The worlds a hub process can come to. -/
def Reachable [DecidableEq θ] (w : World α π θ) : Prop :=
  ∃ (prototypes : AList fun _ : String => α) (port : π) (b : Boot) (cursor : θ → UInt32)
    (es : List (Event α π θ)), w = run World.step (booted prototypes port b cursor) es

end Camera3D.Hub
