import Camera3D.Hub.Burst

/-! Camera callbacks: frames are collected until every camera of the session has its burst. -/
namespace Camera3D.Hub
open Camera Ipc

/-- Cuts `n` frames of each listed camera out of the pending ones: what is left, and the cut. -/
def splitBursts (n : ℕ) : List String → Bursts → Bursts → Bursts × Bursts
  | [], pending, snapshot => (pending, snapshot)
  | id :: ids, pending, snapshot =>
    let src := (pending.lookup id).getD []
    splitBursts n ids (pending.insert id (src.drop n)) (snapshot.insert id (src.take n))

def allEmpty (pending : Bursts) : Bool := pending.entries.all fun kv => kv.2.isEmpty

namespace State

/-- Every camera of the session has delivered its frames. -/
def burstsComplete (h : State) : Bool :=
  h.sessionDevicesOrdered.all fun id =>
    match h.pendingCameraBursts.lookup id with
    | none => false
    | some vec => h.framesPerHardwareTrigger.toNat ≤ vec.length

def pushFrame (h : State) (managerDeviceId : String) (fb : FrameBuffer) : State :=
  let vec := (h.pendingCameraBursts.lookup managerDeviceId).getD [] ++ [fb]
  { h with pendingCameraBursts := h.pendingCameraBursts.insert managerDeviceId vec }

/-- The bursts of the session's cameras, and what stays pending without them. -/
def splitPending (h : State) : Bursts × Bursts :=
  splitBursts h.framesPerHardwareTrigger.toNat h.sessionDevicesOrdered h.pendingCameraBursts ∅

def leftover (h : State) : Bursts :=
  if allEmpty h.splitPending.1 then ∅ else h.splitPending.1

def writeSnapshot (h : State) (sNext : UInt32) : RingWriter × Except String CapturePublication :=
  RingWriter.writeMultiCaptureToShmLocked ⟨h.shm, sNext⟩ h.sessionDevicesOrdered
    h.sessionSlotLayout h.awaitingClientCaptureId h.splitPending.2 h.framesPerHardwareTrigger
    h.awaitingWithRec

def settled (h : State) (shm : ShmRingBuffer) : State :=
  { h with
    awaitingFrame := false
    awaitingClientCaptureId := 0
    awaitingTestLoopback := false
    pendingCameraBursts := h.leftover
    shm := shm }

/-- The end of `OnCameraFrame`, once the bursts are complete: publish them. -/
def completeCapture (h : State) (sNext : UInt32) : State × UInt32 :=
  match h.writeSnapshot sNext with
  | (w, .error werr) =>
    ({ h.settled w.shm with
        lastCaptureShmError :=
          if werr = "" then "WriteMultiCaptureToShmLocked failed" else werr }, w.sNext)
  | (w, .ok pub) =>
    ({ h.settled w.shm with
        lastCaptureShmError := ""
        store := h.store.rememberPublicationLocked h.awaitingClientCaptureId pub }, w.sNext)

def onCameraFrame (h : State) (sNext : UInt32) (managerDeviceId : String) (fb : FrameBuffer) :
    State × UInt32 :=
  if !h.awaitingFrame then (h, sNext)
  else if managerDeviceId ∉ h.sessionDevicesOrdered then (h, sNext)
  else
    let h := h.pushFrame managerDeviceId fb
    if !h.burstsComplete then (h, sNext)
    else h.completeCapture sNext

end State
end Camera3D.Hub
