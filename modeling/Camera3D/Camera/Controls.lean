import Camera3D.Camera.Manager

/-! Exposure, gain and gamma of an open camera. -/
namespace Camera3D.Camera

/-- A `double`, as its 64 bits. -/
abbrev Double := UInt64

/-- The methods of an adapter that set and read its image parameters. -/
class ICameraControls (α : Type*) where
  setExposureUs : α → Double → α × Bool
  getExposureUs : α → Option Double
  setGainDb : α → Double → α × Bool
  getGainDb : α → Option Double
  setGamma : α → Double → α × Bool
  getGamma : α → Option Double

instance : ICameraControls ReadyCamera where
  setExposureUs c _ := (c, true)
  getExposureUs _ := some 0
  setGainDb c _ := (c, true)
  getGainDb _ := some 0
  setGamma c _ := (c, true)
  getGamma _ := some 0

namespace CameraManager
variable {α : Type*} [ICameraControls α]

/-- Reads a value from an open device. -/
def readAdapter {β : Type*} (m : CameraManager α) (mid : String) (f : α → Option β) : Option β :=
  (m.open_.lookup mid).bind fun slot => f slot.adapter

def setExposureUs (v : Double) (m : CameraManager α) (mid : String) : CameraManager α × Bool :=
  m.withAdapter mid false fun a => ICameraControls.setExposureUs a v

def getExposureUs (m : CameraManager α) (mid : String) : Option Double :=
  m.readAdapter mid ICameraControls.getExposureUs

def setGainDb (v : Double) (m : CameraManager α) (mid : String) : CameraManager α × Bool :=
  m.withAdapter mid false fun a => ICameraControls.setGainDb a v

def getGainDb (m : CameraManager α) (mid : String) : Option Double :=
  m.readAdapter mid ICameraControls.getGainDb

def setGamma (v : Double) (m : CameraManager α) (mid : String) : CameraManager α × Bool :=
  m.withAdapter mid false fun a => ICameraControls.setGamma a v

def getGamma (m : CameraManager α) (mid : String) : Option Double :=
  m.readAdapter mid ICameraControls.getGamma

end CameraManager
end Camera3D.Camera
