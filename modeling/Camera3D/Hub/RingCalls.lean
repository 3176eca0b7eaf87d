import Camera3D.Hub.Server
import Camera3D.Hub.Writes
import Camera3D.Ipc.Writers

/-! The ring of the hub process among the rings that threads write: every step of the process is a
run of single `TryWriteNextSlot` calls, which other processes can come between. -/
namespace Camera3D.Hub
open Camera Serial Ipc Transition

variable {θ : Type*} [DecidableEq θ]

/-- What `thread` has made of the ring and of its cursor by calls on the hub's ring. -/
def RingWriter.Called (name : String) (thread : θ) (writers : Writers String θ) (rw : RingWriter) : Prop :=
  ∃ calls : List (Call String θ), rw.shm = ⟨name, some ((run Writers.step writers calls).rings name)⟩ ∧
    (run Writers.step writers calls).cursor = Function.update writers.cursor thread rw.sNext

theorem RingWriter.Called.tryWriteNextSlot {name : String} {thread : θ} {writers : Writers String θ}
    {rw : RingWriter} (h : rw.Called name thread writers) (fb : FrameBuffer) :
    (rw.tryWriteNextSlot fb).1.Called name thread writers := by
  obtain ⟨calls, hshm, hcursor⟩ := h
  let call : Call String θ := ⟨name, thread, frameImage fb⟩
  have hat : (run Writers.step writers calls).cursor thread = rw.sNext := by
    rw [hcursor, Function.update_self]
  have hresult : (run Writers.step writers calls).result call =
      ((run Writers.step writers calls).rings name).tryWriteNextSlot rw.sNext fb.bytes fb.width fb.height
        fb.pixelFormat := by
    rw [Writers.result, hat]
    rfl
  refine ⟨calls ++ [call], ?_, ?_⟩
  · rw [run_concat]
    unfold RingWriter.tryWriteNextSlot ShmRingBuffer.tryWriteNextSlot
    rw [hshm]
    simp only [Writers.step, hresult]
    rw [Function.update_self]
  · rw [run_concat]
    unfold RingWriter.tryWriteNextSlot ShmRingBuffer.tryWriteNextSlot
    rw [hshm]
    simp only [Writers.step, hresult]
    rw [hcursor, Function.update_idem]

/-- A camera callback leaves the ring as calls of its thread do. -/
theorem State.onCameraFrame_called {s : State} {writers : Writers String θ}
    (hring : s.shm.mapping = some (writers.rings s.shm.name)) (thread : θ) (mid : String)
    (fb : FrameBuffer) :
    RingWriter.Called s.shm.name thread writers
      ⟨(s.onCameraFrame (writers.cursor thread) mid fb).1.shm,
        (s.onCameraFrame (writers.cursor thread) mid fb).2⟩ := by
  have hstart : RingWriter.Called s.shm.name thread writers ⟨s.shm, writers.cursor thread⟩ := by
    refine ⟨[], ?_, ?_⟩
    · show s.shm = ⟨s.shm.name, some (writers.rings s.shm.name)⟩
      rw [← hring]
    · show writers.cursor = _
      rw [Function.update_eq_self]
  rcases s.onCameraFrame_cases (writers.cursor thread) mid fb with ⟨he, _⟩ | ⟨_, _, ⟨_, he⟩ | ⟨_, he⟩⟩
  · rw [he]
    exact hstart
  · rw [he]
    exact hstart
  · have hwritten : RingWriter.Called s.shm.name thread writers
        ((s.pushFrame mid fb).writeSnapshot (writers.cursor thread)).1 :=
      RingWriter.writeMultiCaptureToShmLocked_preserves
        (P := fun rw => rw.Called s.shm.name thread writers) (fun rw fb h => h.tryWriteNextSlot fb)
        hstart s.sessionDevicesOrdered s.sessionSlotLayout s.awaitingClientCaptureId
        (s.pushFrame mid fb).splitPending.2 s.framesPerHardwareTrigger s.awaitingWithRec
    rw [he]
    unfold State.completeCapture
    rcases hw : (s.pushFrame mid fb).writeSnapshot (writers.cursor thread) with ⟨w, _ | pub⟩
    · rw [hw] at hwritten
      exact hwritten
    · rw [hw] at hwritten
      exact hwritten

/-- No move touches the ring. -/
theorem State.Move.shm {s s' : State} {r : Option CaptureRequest} (h : s.Move r s') : s'.shm = s.shm := by
  cases h with
  | same | runtime | resumed | released | counted | armed | notSent | timedOut | errorTaken => rfl

namespace Server
variable {α π : Type*} [ICameraAdapter α] [ICameraControls α] [ISerialPort π]

/-- The ring of the hub and the cursors of its threads are those of `w`. -/
structure Tracks (sv : Server α π θ) (w : Writers String θ) : Prop where
  ring : sv.hub.shm.mapping = some (w.rings sv.hub.shm.name)
  cursor : sv.world.cursor = w.cursor

/-- The ring of the hub, under whatever name, and the cursors of its threads. -/
def writers (sv : Server α π θ) : Writers String θ where
  rings _ := sv.hub.shm.mapping.getD zeroed
  cursor := sv.world.cursor

omit [ICameraAdapter α] [ICameraControls α] [ISerialPort π] [DecidableEq θ] in
theorem tracks_writers {sv : Server α π θ} (h : sv.hub.shm.mapping.isSome = true) :
    sv.Tracks sv.writers := by
  refine ⟨?_, rfl⟩
  obtain ⟨m, hm⟩ := Option.isSome_iff_exists.mp h
  show _ = some (sv.hub.shm.mapping.getD zeroed)
  rw [hm]
  rfl

/-- Only camera callbacks write the ring. -/
theorem step_ring (sv : Server α π θ) (e : ServerEvent α π θ) :
    (∃ thread mid fb, e = .world (.cameraFrame thread mid fb)) ∨
      (sv.step e).hub.shm = sv.hub.shm ∧ (sv.step e).world.cursor = sv.world.cursor := by
  by_cases hworld : ∃ e', e = .world e'
  · obtain ⟨e, rfl⟩ := hworld
    rcases sv.world.step_move e with ⟨thread, mid, fb, rfl⟩ | hm
    · exact .inl ⟨thread, mid, fb, rfl⟩
    · cases e with
      | cameraFrame thread mid fb => exact .inl ⟨thread, mid, fb, rfl⟩
      | step id =>
        refine .inr ⟨hm.shm, ?_⟩
        dsimp only [step]
        rcases sv.world.step_eq id with ⟨_, he⟩ | ⟨task, _, he⟩
        · rw [he]
        · rw [he]
          rfl
      | call id rpc =>
        refine .inr ⟨hm.shm, ?_⟩
        dsimp only [step, World.step]
        cases sv.world.tasks id with
        | none => rfl
        | some task => rfl
      | portChanged | cameraChanged | tick => exact .inr ⟨rfl, rfl⟩
  · obtain ⟨cameras, rt, serial, he⟩ := sv.step_frame (not_exists.mp hworld)
    right
    constructor
    · show (sv.step e).world.hub.shm = sv.hub.shm
      rw [he]
    · rw [he]

/-- A step of the process is a run of calls on its ring. -/
theorem step_tracks {sv : Server α π θ} {w : Writers String θ} (h : sv.Tracks w)
    (e : ServerEvent α π θ) : ∃ calls, (sv.step e).Tracks (run Writers.step w calls) := by
  rcases sv.step_ring e with ⟨thread, mid, fb, rfl⟩ | ⟨hshm, hcursor⟩
  · obtain ⟨calls, hring, hcursor⟩ := State.onCameraFrame_called h.ring thread mid fb
    dsimp only at hring hcursor
    rw [← h.cursor] at hring hcursor
    have hhub : ((sv.step (.world (.cameraFrame thread mid fb))).hub.shm) =
        (sv.hub.onCameraFrame (sv.world.cursor thread) mid fb).1.shm := rfl
    refine ⟨calls, ?_, ?_⟩
    · rw [hhub, hring]
    · rw [hcursor]
      rfl
  · refine ⟨[], ?_, ?_⟩
    · rw [hshm]
      exact h.ring
    · rw [hcursor]
      exact h.cursor

/-- So is a run of the process. -/
theorem run_tracks {sv : Server α π θ} {w : Writers String θ} (h : sv.Tracks w)
    (es : List (ServerEvent α π θ)) :
    ∃ calls, (run step sv es).Tracks (run Writers.step w calls) := by
  induction es generalizing sv w with
  | nil => exact ⟨[], h⟩
  | cons e es ih =>
    obtain ⟨calls, hstep⟩ := step_tracks h e
    obtain ⟨calls', hrun⟩ := ih hstep
    rw [← run_append] at hrun
    exact ⟨calls ++ calls', hrun⟩

end Server
end Camera3D.Hub
