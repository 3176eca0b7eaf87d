import Camera3D.Hub.State
import Camera3D.Ipc.WellFormed

/-! Writing the frames of a capture into the ring: `WriteMultiCaptureToShmLocked`. -/
namespace Camera3D.Hub
open Camera Ipc

/-- The ring object together with the cursor of the thread that writes it. -/
structure RingWriter where
  shm : ShmRingBuffer
  sNext : UInt32

namespace RingWriter

def tryWriteNextSlot (s : RingWriter) (fb : FrameBuffer) : RingWriter × Option (UInt64 × UInt32) :=
  let (shm, sNext, out) := s.shm.tryWriteNextSlot s.sNext fb.bytes fb.width fb.height fb.pixelFormat
  (⟨shm, sNext⟩, out)

/-- The body of the inner loop: write frame `j` of a camera and read its header back. -/
def writeFrame (s : RingWriter) (layout : CameraRawShmSlot) (mid : String) (j : UInt32)
    (raw : FrameBuffer) : RingWriter × Except String CameraRawShmSlot :=
  match s.tryWriteNextSlot raw with
  | (s, none) =>
    (s, .error ("shm raw write failed for camera " ++ mid ++ " burst " ++ toString j.toNat))
  | (s, some (seqR, slotR)) =>
    match s.shm.tryReadSlot slotR with
    | none => (s, .error "shm readback raw failed")
    | some v =>
      (s, .ok { layout with
        burstFrameIndex := j
        rawSlot := slotR
        rawSeq := seqR
        w := raw.width
        h := raw.height
        fmt := raw.pixelFormat
        payloadOff := v.outMeta.payloadOffset
        payloadSize := v.outMeta.payloadSize
        frame := raw })

def writeBurst (s : RingWriter) (layout : CameraRawShmSlot) (mid : String) (j : UInt32) :
    List FrameBuffer → RingWriter × Except String (List CameraRawShmSlot)
  | [] => (s, .ok [])
  | raw :: frames =>
    match s.writeFrame layout mid j raw with
    | (s, .error err) => (s, .error err)
    | (s, .ok slot) =>
      let (s, slots) := writeBurst s layout mid (j + 1) frames
      (s, slots.map (slot :: ·))

def writeCameras (s : RingWriter) (burstsById : Bursts) (framesPer : UInt32) :
    List (String × CameraRawShmSlot) → RingWriter × Except String (List CameraRawShmSlot)
  | [] => (s, .ok [])
  | (mid, layout) :: rest =>
    match burstsById.lookup mid with
    | none => (s, .error ("missing burst vector for camera " ++ mid))
    | some vec =>
      if vec.length < framesPer.toNat then
        (s, .error ("insufficient burst frames for camera " ++ mid))
      else match s.writeBurst layout mid 0 (vec.take framesPer.toNat) with
        | (s, .error err) => (s, .error err)
        | (s, .ok slots) =>
          let (s, slots') := writeCameras s burstsById framesPer rest
          (s, slots'.map (slots ++ ·))

/-- The fields a publication takes over from its first entry. -/
def withFirst (pub : CapturePublication) : CapturePublication :=
  match pub.cameraRawSlots with
  | [] => pub
  | first :: _ =>
    { pub with
      rawSlot := first.rawSlot, rawSeq := first.rawSeq, w := first.w, h := first.h,
      fmt := first.fmt, payloadOff := first.payloadOff, payloadSize := first.payloadSize }

/-- The placeholder of the reconstruction result: the first frame once more. -/
def writeFinal (s : RingWriter) (firstFb : FrameBuffer) (out : CapturePublication) :
    RingWriter × Except String CapturePublication :=
  match s.tryWriteNextSlot firstFb with
  | (s, none) => (s, .error "shm recon-stage write failed")
  | (s, some (seqF, slotF)) =>
    (s, .ok { out with hasFinal := true, finSlot := slotF, finSeq := seqF })

def writeMultiCaptureToShmLocked (s : RingWriter) (devices : List String)
    (layout : List CameraRawShmSlot) (clientId : UInt64) (burstsById : Bursts) (framesPer : UInt32)
    (withRec : Bool) : RingWriter × Except String CapturePublication :=
  if layout.length ≠ devices.length then (s, .error "session slot layout mismatch")
  else if framesPer = 0 then (s, .error "frames_per is zero")
  else match s.writeCameras burstsById framesPer (devices.zip layout) with
    | (s, .error err) => (s, .error err)
    | (s, .ok slots) =>
      let out := withFirst { clientCaptureId := clientId, cameraRawSlots := slots }
      let firstFb := ((burstsById.lookup (devices.headD "")).getD []).headD {}
      if withRec then s.writeFinal firstFb out else (s, .ok out)

section Preserves
variable {P : RingWriter → Prop} (hP : ∀ s fb, P s → P (s.tryWriteNextSlot fb).1)
include hP

theorem writeFrame_preserves {s : RingWriter} (hs : P s) (layout : CameraRawShmSlot) (mid : String)
    (j : UInt32) (raw : FrameBuffer) : P (s.writeFrame layout mid j raw).1 := by
  have hw := hP s raw hs
  unfold writeFrame
  rcases he : s.tryWriteNextSlot raw with ⟨s', out⟩
  rw [he] at hw
  cases out with
  | none => exact hw
  | some out =>
    dsimp only
    cases s'.shm.tryReadSlot out.2 with
    | none => exact hw
    | some v => exact hw

theorem writeBurst_preserves {s : RingWriter} (hs : P s) (layout : CameraRawShmSlot) (mid : String)
    (j : UInt32) (frames : List FrameBuffer) : P (s.writeBurst layout mid j frames).1 := by
  induction frames generalizing s j with
  | nil => exact hs
  | cons raw frames ih =>
    have hw := writeFrame_preserves hP hs layout mid j raw
    unfold writeBurst
    rcases he : s.writeFrame layout mid j raw with ⟨s', result⟩
    rw [he] at hw
    cases result with
    | error err => exact hw
    | ok slot => exact ih hw (j + 1)

theorem writeCameras_preserves {s : RingWriter} (hs : P s) (burstsById : Bursts) (framesPer : UInt32)
    (cameras : List (String × CameraRawShmSlot)) :
    P (s.writeCameras burstsById framesPer cameras).1 := by
  induction cameras generalizing s with
  | nil => exact hs
  | cons camera cameras ih =>
    unfold writeCameras
    cases burstsById.lookup camera.1 with
    | none => exact hs
    | some vec =>
      dsimp only
      split_ifs
      · exact hs
      · have hw := writeBurst_preserves hP hs camera.2 camera.1 0 (vec.take framesPer.toNat)
        rcases he : s.writeBurst camera.2 camera.1 0 (vec.take framesPer.toNat) with ⟨s', result⟩
        rw [he] at hw
        cases result with
        | error err => exact hw
        | ok slots => exact ih hw

theorem writeFinal_preserves {s : RingWriter} (hs : P s) (firstFb : FrameBuffer)
    (out : CapturePublication) : P (s.writeFinal firstFb out).1 := by
  have hw := hP s firstFb hs
  unfold writeFinal
  rcases he : s.tryWriteNextSlot firstFb with ⟨s', published⟩
  rw [he] at hw
  cases published with
  | none => exact hw
  | some published => exact hw

/-- What every slot write preserves, the writing of a whole capture preserves. -/
theorem writeMultiCaptureToShmLocked_preserves {s : RingWriter} (hs : P s) (devices : List String)
    (layout : List CameraRawShmSlot) (clientId : UInt64) (burstsById : Bursts) (framesPer : UInt32)
    (withRec : Bool) :
    P (s.writeMultiCaptureToShmLocked devices layout clientId burstsById framesPer withRec).1 := by
  have hw := writeCameras_preserves hP hs burstsById framesPer (devices.zip layout)
  unfold writeMultiCaptureToShmLocked
  rcases he : s.writeCameras burstsById framesPer (devices.zip layout) with ⟨s', result⟩
  rw [he] at hw
  cases result with
  | error err => split_ifs <;> assumption
  | ok slots =>
    have hfin := writeFinal_preserves hP hw
    dsimp only
    split_ifs
    · exact hs
    · exact hs
    · exact hfin _ _
    · exact hw

end Preserves

end RingWriter
end Camera3D.Hub
