import Camera3D.Hub.Startup

/-! The capture in flight: who is waited for, in every world a hub process can come to. -/
namespace Camera3D.Hub
open Camera Serial Ipc Transition HubServiceStateCode

/-- A capture is in flight exactly while its id is set, some camera then owes frames of it, and
frames are only kept for cameras of the session. -/
structure State.InFlight (s : State) : Prop where
  awaiting_iff : s.awaitingFrame = true ↔ s.awaitingClientCaptureId ≠ 0
  cameras : s.awaitingFrame = true → s.sessionDevicesOrdered ≠ [] ∧
    ∃ id ∈ s.sessionDevicesOrdered, (s.received id).length < s.framesPerHardwareTrigger.toNat
  keys : ∀ id ∈ s.pendingCameraBursts, id ∈ s.sessionDevicesOrdered

theorem State.Sound.inFlight {s : State} (h : s.Sound)
    (hcid : s.awaitingFrame = true → s.awaitingClientCaptureId ≠ 0) : s.InFlight := by
  rcases h.session with hi | he
  · refine ⟨?_, ?_, ?_⟩
    · rw [hi.awaiting, hi.cid]
      decide
    · intro hw
      exact absurd (hi.awaiting.symm.trans hw) Bool.false_ne_true
    · intro id hid
      rw [hi.pending] at hid
      exact absurd hid (AList.notMem_empty id)
  · refine ⟨⟨hcid, he.cid⟩, ?_, he.pending⟩
    intro hw
    obtain ⟨id, hid, howes⟩ := he.owes hw
    exact ⟨List.ne_nil_of_mem hid, id, hid, howes⟩

/-- The counter of generated ids after `n` of them, unless it has come round to 0. -/
structure State.Numbered (n : ℕ) (s : State) : Prop where
  counter_pos : s.kAutoCapture ≠ 0
  counter_le : s.kAutoCapture.toNat ≤ 1 + n
  cid_ne : s.awaitingFrame = true → s.awaitingClientCaptureId ≠ 0

def drawsId (r : Option CaptureRequest) : Bool := r.any fun request => request.clientCaptureId = 0

theorem counter_succ {k : UInt64} {n : ℕ} (hk : k.toNat ≤ 1 + n) (hn : n + 1 < 2 ^ 64 - 1) :
    k + 1 ≠ 0 ∧ (k + 1).toNat ≤ 1 + (n + 1) := by
  have hadd : (k + 1).toNat = k.toNat + 1 := by
    rw [UInt64.toNat_add, UInt64.toNat_one]
    exact Nat.mod_eq_of_lt (by omega)
  constructor
  · intro h0
    rw [h0] at hadd
    cases hadd
  · omega

namespace State

theorem chooseId_numbered {s : State} {n : ℕ} (h : s.Numbered n) (request : CaptureRequest)
    (hn : n + (drawsId (some request)).toNat < 2 ^ 64 - 1) :
    (s.chooseId request).1 ≠ 0 ∧ (s.chooseId request).2 ≠ 0 ∧
      (s.chooseId request).2.toNat ≤ 1 + (n + (drawsId (some request)).toNat) := by
  unfold chooseId
  by_cases hid : request.clientCaptureId = 0
  · have hdraws : drawsId (some request) = true := decide_eq_true hid
    rw [hdraws] at hn ⊢
    rw [if_pos hid]
    obtain ⟨hne, hle⟩ := counter_succ h.counter_le hn
    exact ⟨h.counter_pos, hne, hle⟩
  · rw [if_neg hid]
    exact ⟨hid, h.counter_pos, Nat.le_trans h.counter_le (by omega)⟩

theorem Numbered.move {s s' : State} {n : ℕ} {r : Option CaptureRequest} (h : s.Numbered n)
    (hm : s.Move r s') (hn : n + (drawsId r).toNat < 2 ^ 64 - 1) :
    s'.Numbered (n + (drawsId r).toNat) := by
  have hle : s.kAutoCapture.toNat ≤ 1 + (n + (drawsId r).toNat) :=
    Nat.le_trans h.counter_le (by omega)
  cases hm with
  | same => exact ⟨h.counter_pos, hle, h.cid_ne⟩
  | runtime rt hne => exact ⟨h.counter_pos, hle, h.cid_ne⟩
  | resumed rt hrt hold => exact ⟨h.counter_pos, hle, h.cid_ne⟩
  | errorTaken => exact ⟨h.counter_pos, hle, h.cid_ne⟩
  | released hs =>
    refine ⟨h.counter_pos, hle, fun hw => ?_⟩
    cases hw
  | timedOut hw =>
    refine ⟨h.counter_pos, hle, fun hw => ?_⟩
    cases hw
  | counted request hid hs =>
    have hdraws : drawsId (some request) = true := decide_eq_true hid
    rw [hdraws] at hn ⊢
    obtain ⟨hne, hle⟩ := counter_succ h.counter_le hn
    exact ⟨hne, hle, h.cid_ne⟩
  | armed request hadm =>
    obtain ⟨hcid, hne, hle⟩ := chooseId_numbered h request hn
    exact ⟨hne, hle, fun _ => hcid⟩
  | notSent request hadm =>
    obtain ⟨_, hne, hle⟩ := chooseId_numbered h request hn
    refine ⟨hne, hle, fun hw => ?_⟩
    cases hw

theorem Numbered.onCameraFrame {s : State} {n : ℕ} (h : s.Numbered n) (sNext : UInt32)
    (mid : String) (fb : FrameBuffer) : (s.onCameraFrame sNext mid fb).1.Numbered n := by
  rcases s.onCameraFrame_cases sNext mid fb with ⟨he, _⟩ | ⟨_, _, ⟨_, he⟩ | ⟨_, he⟩⟩
  · rw [he]
    exact h
  · rw [he]
    exact ⟨h.counter_pos, h.counter_le, h.cid_ne⟩
  · rw [he]
    unfold completeCapture
    rcases (s.pushFrame mid fb).writeSnapshot sNext with ⟨w, result⟩
    cases result with
    | error werr =>
      refine ⟨h.counter_pos, h.counter_le, fun hw => ?_⟩
      cases hw
    | ok pub =>
      refine ⟨h.counter_pos, h.counter_le, fun hw => ?_⟩
      cases hw

end State

namespace World
variable {α π θ : Type*} [ICameraAdapter α] [ISerialPort π] [DecidableEq θ]

/-- A `Capture` runs whose request has no id of its own. -/
def drawsId (w : World α π θ) (e : Event α π θ) : Bool := Hub.drawsId (w.request e)

theorem step_sound {w : World α π θ} (h : w.hub.Sound) (e : Event α π θ) :
    (w.step e).hub.Sound := by
  rcases w.step_move e with ⟨thread, mid, fb, rfl⟩ | hm
  · exact h.onCameraFrame (w.cursor thread) mid fb
  · exact h.move hm

theorem run_sound {w : World α π θ} (h : w.hub.Sound) (es : List (Event α π θ)) :
    (run World.step w es).hub.Sound :=
  run_invariant (I := fun w : World α π θ => w.hub.Sound) (fun _ e hw => step_sound hw e) h es

theorem sound_of_reachable {w : World α π θ} (hw : Reachable w) : w.hub.Sound := by
  obtain ⟨prototypes, port, b, cursor, es, rfl⟩ := hw
  exact run_sound (Service.boot_unused prototypes port b).sound es

theorem step_numbered {w : World α π θ} {n : ℕ} (h : w.hub.Numbered n) (e : Event α π θ)
    (hn : n + (w.drawsId e).toNat < 2 ^ 64 - 1) :
    (w.step e).hub.Numbered (n + (w.drawsId e).toNat) := by
  rcases w.step_move e with ⟨thread, mid, fb, rfl⟩ | hm
  · exact h.onCameraFrame (w.cursor thread) mid fb
  · exact h.move hm hn

/-- The invariant of the capture in flight, along a run in which generated ids have not been used
up: there are `2 ^ 64 - 1` of them. -/
theorem inFlight_of_run (prototypes : AList fun _ : String => α) (port : π) (b : Boot)
    (cursor : θ → UInt32) (es : List (Event α π θ))
    (hdrawn : countAlong World.step World.drawsId (booted prototypes port b cursor) es < 2 ^ 64 - 1) :
    (run World.step (booted prototypes port b cursor) es).hub.InFlight := by
  have hstart := Service.boot_unused prototypes port b
  have hnumbered : ((fresh prototypes port).boot b).Numbered 0 := by
    refine ⟨?_, ?_, ?_⟩
    · rw [hstart.counter]
      decide
    · rw [hstart.counter]
      decide
    · intro hw
      exact absurd (hstart.awaiting.symm.trans hw) Bool.false_ne_true
  -- The count only has to be small enough at the end of the run.
  let I : ℕ → World α π θ → Prop := fun n w => n < 2 ^ 64 - 1 → w.hub.Numbered n
  have hstep : ∀ n w e, I n w → I (n + (World.drawsId w e).toNat) (w.step e) := by
    intro n w e hI hn
    exact step_numbered (hI (by omega)) e hn
  have hzero : I 0 (booted prototypes port b cursor) := fun _ => hnumbered
  have hend := run_counted hstep hzero es
  rw [Nat.zero_add] at hend
  exact (run_sound hstart.sound es).inFlight (hend hdrawn).cid_ne

/-- A call that finds the serial port open comes to its locked body. -/
theorem run_toBody {w : World α π θ} (htask : w.tasks 0 = none)
    (hcom : w.hub.startupSerialComMain ≠ 0) (hopen : w.hub.serial.isOpen = true)
    (request : CaptureRequest) :
    run World.step w [.call 0 (.capture request), .step 0, .step 0] =
      { w with tasks := Function.update w.tasks 0 (some (.body (.capture request))) } := by
  simp [World.step, htask, setTask, stepTask, Rpc.start, Service.tryRecoverSerialQuick, hcom, hopen]

theorem run_call {w : World α π θ} (htask : w.tasks 0 = none) (hcom : w.hub.startupSerialComMain ≠ 0)
    (hopen : w.hub.serial.isOpen = true) (request : CaptureRequest) :
    run World.step w [.call 0 (.capture request), .step 0, .step 0, .step 0] =
      runBody { w with tasks := Function.update w.tasks 0 (some (.body (.capture request))) } 0
        (.capture request) := by
  have hbody := congrArg (fun w => World.step w (.step 0)) (run_toBody htask hcom hopen request)
  simpa [World.step, stepTask] using hbody

theorem step_capture {w : World α π θ} {id : ℕ} {request : CaptureRequest}
    (htask : w.tasks id = some (.body (.capture request))) :
    w.step (.step id) = w.runBody id (.capture request) := by
  simp only [World.step, htask, stepTask]

omit [DecidableEq θ] in
theorem runBody_capture (w : World α π θ) (id : ℕ) (request : CaptureRequest) :
    (w.runBody id (.capture request)).hub = (w.hub.capture request w.clock).1 ∧
      (w.runBody id (.capture request)).cursor = w.cursor := by
  rw [runBody_eq]
  exact ⟨rfl, rfl⟩

/-- The events of one `Capture` on the bench. -/
def captureEvents (request : CaptureRequest) : List (Event ReadyCamera EchoPort Bool) :=
  [.call 0 (.capture request), .step 0, .step 0, .step 0]

theorem inFlight_of_run_capture :
    countAlong World.step World.drawsId (bench oneCamera)
        (captureEvents { sessionId := "cam-1" }) < 2 ^ 64 - 1 ∧
      (run World.step (bench oneCamera) (captureEvents { sessionId := "cam-1" })).hub.InFlight :=
  ⟨by decide +kernel, inFlight_of_run _ _ _ _ _ (by decide +kernel)⟩

/-- A refused request without an id: the inline test image is asked for in two ways at once. -/
def refusedRequest : CaptureRequest :=
  { sessionId := "cam-1", testInlineImageReply := true, testReconShmLoopback := true }

/-- The bench after `k` ids were drawn by requests that were then refused. -/
structure Drawn (k : UInt64) (w : World ReadyCamera EchoPort Bool) : Prop where
  hub : w.hub = (bench oneCamera).hub.withState
    { (bench oneCamera).hub.toState with kAutoCapture := k }
  task : w.tasks 0 = none
  clock : w.clock = 0
  cursor : w.cursor = fun _ => 0

theorem Drawn.port {k : UInt64} {w : World ReadyCamera EchoPort Bool} (h : Drawn k w) :
    w.hub.startupSerialComMain ≠ 0 ∧ w.hub.serial.isOpen = true := by
  have hport : (bench oneCamera).hub.startupSerialComMain ≠ 0 ∧
      (bench oneCamera).hub.serial.isOpen = true := by
    decide +kernel
  rw [h.hub]
  exact hport

/-- A call on the bench, whatever the counter stands at. -/
theorem Drawn.run_capture {k : UInt64} {w : World ReadyCamera EchoPort Bool} (h : Drawn k w)
    (request : CaptureRequest) : run World.step w (captureEvents request) =
      runBody { w with tasks := Function.update w.tasks 0 (some (.body (.capture request))) } 0
        (.capture request) := run_call h.task h.port.1 h.port.2 request

theorem Drawn.refused {k : UInt64} {w : World ReadyCamera EchoPort Bool} (h : Drawn k w) :
    Drawn (k + 1) (run World.step w (captureEvents refusedRequest)) := by
  have hready : (bench oneCamera).hub.hubRuntime.code = kReady := by decide +kernel
  have hsession : (bench oneCamera).hub.sessionId = "cam-1" := by decide +kernel
  have hidle : (bench oneCamera).hub.awaitingFrame = false := by decide +kernel
  rw [h.run_capture]
  refine ⟨?_, ?_, ?_, ?_⟩
  · simp [runBody, finish, setTask, h.hub, Service.capture, Service.withState, hready, hsession,
      hidle, refusedRequest, State.chooseId]
  · simp [runBody, finish, setTask, h.hub, Service.capture, Service.withState, hready, hsession,
      hidle, refusedRequest]
  · simp [runBody, finish, setTask, h.hub, Service.capture, Service.withState, hready, hsession,
      hidle, refusedRequest, h.clock]
  · simp [runBody, finish, setTask, h.hub, Service.capture, Service.withState, hready, hsession,
      hidle, refusedRequest, h.cursor]

/-- `n` refused calls in a row. -/
def refusedEvents : ℕ → List (Event ReadyCamera EchoPort Bool)
  | 0 => []
  | n + 1 => refusedEvents n ++ captureEvents refusedRequest

theorem drawn_refusedEvents (n : ℕ) :
    Drawn (1 + .ofNat n) (run World.step (bench oneCamera) (refusedEvents n)) := by
  induction n with
  | zero =>
    have hcounter : (bench oneCamera).hub.kAutoCapture = 1 := by decide +kernel
    refine ⟨?_, rfl, rfl, rfl⟩
    show (bench oneCamera).hub = _
    rw [show (1 + UInt64.ofNat 0) = (bench oneCamera).hub.kAutoCapture from hcounter.symm]
    rfl
  | succ n ih =>
    rw [refusedEvents, run_append, UInt64.ofNat_add, ← UInt64.add_assoc]
    exact ih.refused

/-- Once all ids have been drawn, a capture gets the id 0 that stands for none. -/
theorem inFlight_fails_after_all_ids :
    ¬ ∀ es, (run World.step (bench oneCamera) es).hub.InFlight := by
  intro hall
  obtain ⟨n, hn⟩ : ∃ n, 1 + UInt64.ofNat n = 0 := ⟨2 ^ 64 - 1, by decide⟩
  have hdrawn := drawn_refusedEvents n
  have hlast := (hall (refusedEvents n ++ captureEvents { sessionId := "cam-1" })).awaiting_iff
  rw [run_append, hdrawn.run_capture, (runBody_capture _ _ _).1, hdrawn.hub, hdrawn.clock, hn] at hlast
  revert hlast
  decide +kernel

end World

end Camera3D.Hub
