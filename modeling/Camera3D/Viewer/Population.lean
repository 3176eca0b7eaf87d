import Camera3D.Ipc.RingBuffer
import Camera3D.Sdk.Client

/-! The viewer after a capture: it fills `hardware_raw_frames` from the raw frames the SDK lists. -/
namespace Camera3D.Viewer
open Ipc Sdk

structure UnifiedImage where
  width : Int32 := 0
  height : Int32 := 0
  channels : Int32 := 1
  is16bit : Bool := false
  data : List UInt8 := []
  deriving DecidableEq

/-- The loop over the listed items, at item `i`. -/
structure Population where
  clientCaptureId : UInt64
  raws : List BestCameraRawFrameItem
  i : ℕ := 0
  /-- Whether `shm_ring` is there; it maps the region `shmRegionCached`. -/
  shmRing : Bool := false
  shmRegionCached : String := ""
  /-- `payload` and `len`, once `TryReadMappedRange` has set them for the item. -/
  payload : Option (UInt64 × UInt64) := none
  hardwareRawFrames : List UnifiedImage := []
  failed : Bool := false
  deriving DecidableEq

namespace Population

def fail (p : Population) : Population := { p with failed := true, payload := none }

def metadataInvalid (it : BestCameraRawFrameItem) : Bool :=
  it.regionName = "" || it.sizeBytes = 0 || it.width = 0 || it.height = 0

/-- The item's region is mapped, unless it is the one already there. -/
def reopen (p : Population) (it : BestCameraRawFrameItem) (opens : Bool) : Population :=
  if p.shmRegionCached = it.regionName ∧ p.shmRing = true then p
  else if opens then { p with shmRing := true, shmRegionCached := it.regionName }
  else fail { p with shmRing := false, shmRegionCached := "" }

def mapRange (p : Population) (ring : Mapping) (it : BestCameraRawFrameItem) : Population :=
  match ring.tryReadMappedRange it.offsetBytes it.sizeBytes with
  | none => p.fail
  | some range => { p with payload := some range }

/-- The copy of `ReadShmToUnifiedImage`, and the image's place in the frame. -/
def push (p : Population) (it : BestCameraRawFrameItem) (data : List UInt8) : Population :=
  let image : UnifiedImage :=
    { width := it.width.toInt32
      height := it.height.toInt32
      is16bit := it.width.toUInt64 * it.height.toUInt64 * 2 ≤ it.sizeBytes
      data }
  { p with i := p.i + 1, payload := none, hardwareRawFrames := p.hardwareRawFrames ++ [image] }

/-- The range of the item is mapped in one step and copied in the next, from the ring as it is then. -/
def next (p : Population) (rings : String → Mapping) (opens : Bool) : Population :=
  if p.failed then p
  else match p.raws[p.i]? with
    | none => p
    | some it =>
      match p.payload with
      | none =>
        if metadataInvalid it then p.fail
        else
          let p := p.reopen it opens
          if p.failed then p else p.mapRange (rings p.shmRegionCached) it
      | some (payload, len) =>
        p.push it (Memory.read (rings p.shmRegionCached).bytes payload.toNat len.toNat)

end Population
end Camera3D.Viewer
