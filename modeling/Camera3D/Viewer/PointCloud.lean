import Camera3D.Transition.Generations
import Camera3D.Transition.Run

/-! The point cloud view. Its data are built by a worker from a snapshot of the settings, and applied
later on, in the order in which the event loop gets to them. -/
namespace Camera3D.Viewer
open Transition

structure RGB where
  r : UInt8
  g : UInt8
  b : UInt8
  deriving DecidableEq

/-- The arithmetic of doubles `δ` and floats `φ`, and the colours of the lookup tables over a range. -/
structure Shading (δ φ : Type*) where
  lt : δ → δ → Bool
  le : δ → δ → Bool
  addOne : δ → δ
  toDouble : φ → δ
  /-- `std::max(0.0f, std::min(1.0f, ratio))`. -/
  clamp : φ → φ
  grayColor : δ → δ → δ → RGB
  jetColor : δ → δ → δ → RGB
  /-- `gray * (1.0f - ratio) + jet * ratio`, as a byte. -/
  mix : φ → UInt8 → UInt8 → UInt8

structure UnifiedPoint (φ : Type*) where
  x : φ
  y : φ
  z : φ
  r : UInt8 := 0
  g : UInt8 := 0
  b : UInt8 := 0
  hasColor : Bool := false
  deriving DecidableEq

inductive PointCloudRenderMode where
  | grayscale
  | zValue
  | texture
  | untextured
  | blend
  deriving DecidableEq

/-- `scalars` has `none` for a point whose colour is not written. -/
structure PolyData (φ : Type*) where
  points : List (φ × φ × φ)
  scalars : Option (List (Option RGB)) := none
  elevation : Option (List φ) := none
  deriving DecidableEq

section Data
variable {δ φ : Type*}

def buildPolyDataFromUnifiedPoints (points : List (UnifiedPoint φ))
    (useColorForTexture addZScalar : Bool) : Option (PolyData φ) :=
  if points.isEmpty then none
  else some
    { points := points.map fun p => (p.x, p.y, p.z)
      scalars := if useColorForTexture then
        some (points.map fun p => if p.hasColor then some ⟨p.r, p.g, p.b⟩ else none) else none
      elevation := if addZScalar then some (points.map fun p => p.z) else none }

/-- The upper end of a table over a depth range. -/
def Shading.tableMax (S : Shading δ φ) (depthMin depthMax : δ) : δ :=
  if S.le depthMax depthMin then S.addOne depthMin else depthMax

def Shading.blendColor (S : Shading δ φ) (rmin rmax : δ) (ratio z : φ) : RGB :=
  let gr := S.grayColor rmin rmax (S.toDouble z)
  let jt := S.jetColor rmin rmax (S.toDouble z)
  ⟨S.mix ratio gr.r jt.r, S.mix ratio gr.g jt.g, S.mix ratio gr.b jt.b⟩

def buildPreparedPolyData (S : Shading δ φ) (points : List (UnifiedPoint φ))
    (renderMode : PointCloudRenderMode) (depthMin depthMax : δ) (blendRatio : φ) :
    Option (PolyData φ) :=
  let hasColor := points.any fun p => p.hasColor
  let addZ := renderMode = .grayscale ∨ renderMode = .zValue ∨ renderMode = .blend
  match buildPolyDataFromUnifiedPoints points (renderMode = .texture && hasColor) addZ with
  | none => none
  | some poly =>
    match renderMode, poly.elevation with
    | .blend, some zArr => some { poly with
        scalars := some (zArr.map fun z =>
          some (S.blendColor depthMin (S.tableMax depthMin depthMax) blendRatio z)) }
    | _, _ => some poly

/-- How a mapper colours the points: by a field of the data, not at all, by scalars that are colours,
or by a table over a range. -/
inductive ScalarMapping (δ : Type*) where
  | fieldColors
  | white
  | directScalars
  | lookup (jet : Bool) (rmin rmax : δ)
  deriving DecidableEq

/-- Only a table has a range to set. -/
def ScalarMapping.setScalarRange (rmin rmax : δ) : ScalarMapping δ → ScalarMapping δ
  | .lookup jet _ _ => .lookup jet rmin rmax
  | mapping => mapping

structure Actor (δ φ : Type*) where
  poly : PolyData φ
  mapping : ScalarMapping δ
  deriving DecidableEq

/-- A build with the snapshot it works on. `number` counts the builds before it. -/
structure Build (δ φ : Type*) where
  number : ℕ
  seq : UInt64
  mode : PointCloudRenderMode
  points : List (UnifiedPoint φ)
  depthMin : δ
  depthMax : δ
  blendRatio : φ
  deriving DecidableEq

def Build.poly (S : Shading δ φ) (b : Build δ φ) : Option (PolyData φ) :=
  buildPreparedPolyData S b.points b.mode b.depthMin b.depthMax b.blendRatio

end Data

/-- The view, with the builds whose results have not been applied and, newest first, what happened
to builds so far. -/
structure PointCloudView3D (δ φ : Type*) where
  lastFrame : List (UnifiedPoint φ) := []
  renderMode : PointCloudRenderMode := .grayscale
  depthMin : δ
  depthMax : δ
  blendRatio : φ
  cloudBuildSeq : UInt64 := 0
  pointsActor : Option (Actor δ φ) := none
  builds : List (Build δ φ) := []
  scheduled : ℕ := 0
  history : List Happening := []
  deriving DecidableEq

namespace PointCloudView3D
variable {δ φ : Type*}

def schedulePointCloudRebuild (v : PointCloudView3D δ φ) : PointCloudView3D δ φ :=
  if v.lastFrame.isEmpty then v
  else
    let b : Build δ φ :=
      { number := v.scheduled
        seq := v.cloudBuildSeq + 1
        mode := v.renderMode
        points := v.lastFrame
        depthMin := v.depthMin
        depthMax := v.depthMax
        blendRatio := v.blendRatio }
    { v with
      cloudBuildSeq := v.cloudBuildSeq + 1
      builds := v.builds ++ [b]
      scheduled := v.scheduled + 1
      history := .scheduled v.scheduled :: v.history }

def setFrame (v : PointCloudView3D δ φ) (pointCloud : List (UnifiedPoint φ)) :
    PointCloudView3D δ φ :=
  if pointCloud.isEmpty then v else schedulePointCloudRebuild { v with lastFrame := pointCloud }

section Shaded
variable (S : Shading δ φ)

def mapping (v : PointCloudView3D δ φ) : ScalarMapping δ :=
  let hasColor := v.lastFrame.any fun p => p.hasColor
  if v.renderMode = .texture && hasColor then .fieldColors
  else match v.renderMode with
    | .untextured => .white
    | .blend => .directScalars
    | mode => .lookup (mode = .zValue) v.depthMin (S.tableMax v.depthMin v.depthMax)

/-- The result of the build with the given number. -/
def applyPreparedPointCloud (v : PointCloudView3D δ φ) (number : ℕ) (seq : UInt64)
    (builtMode : PointCloudRenderMode) (poly : PolyData φ) : PointCloudView3D δ φ :=
  if seq ≠ v.cloudBuildSeq then v
  else if builtMode ≠ v.renderMode then v.schedulePointCloudRebuild
  else if poly.points.isEmpty then v
  else { v with
    pointsActor := some ⟨poly, v.mapping S⟩
    history := .shown number :: v.history }

/-- The worker's result for one of the builds reaches the event loop, unless it is empty. -/
def finishBuild (v : PointCloudView3D δ φ) (i : ℕ) : PointCloudView3D δ φ :=
  match v.builds[i]? with
  | none => v
  | some b =>
    let v := { v with builds := v.builds.eraseIdx i }
    match b.poly S with
    | none => v
    | some poly =>
      if poly.points.isEmpty then v else v.applyPreparedPointCloud S b.number b.seq b.mode poly

def applyDepthRangeToMapper (v : PointCloudView3D δ φ) : PointCloudView3D δ φ :=
  match v.pointsActor with
  | none => v
  | some actor =>
    match v.renderMode with
    | .texture => v
    | .untextured => v
    | .blend => if v.lastFrame.isEmpty then v else v.schedulePointCloudRebuild
    | _ =>
      let mapping := actor.mapping.setScalarRange v.depthMin (S.tableMax v.depthMin v.depthMax)
      { v with pointsActor := some { actor with mapping := mapping } }

def setRenderMode (v : PointCloudView3D δ φ) (mode : PointCloudRenderMode) : PointCloudView3D δ φ :=
  if v.renderMode = mode then v
  else
    let v := { v with renderMode := mode }
    if v.lastFrame.isEmpty then v else v.schedulePointCloudRebuild

def setDepthRange (v : PointCloudView3D δ φ) (minZ maxZ : δ) : PointCloudView3D δ φ :=
  let (minZ, maxZ) := if S.lt maxZ minZ then (maxZ, minZ) else (minZ, maxZ)
  applyDepthRangeToMapper S { v with depthMin := minZ, depthMax := maxZ }

def setBlendRatio (v : PointCloudView3D δ φ) (ratio : φ) : PointCloudView3D δ φ :=
  let v := { v with blendRatio := S.clamp ratio }
  if v.renderMode = .blend && !v.lastFrame.isEmpty then v.schedulePointCloudRebuild else v

def clear (v : PointCloudView3D δ φ) : PointCloudView3D δ φ :=
  { v with
    cloudBuildSeq := v.cloudBuildSeq + 1
    lastFrame := []
    pointsActor := none
    history := .cleared :: v.history }

/-- What the user does, and a build that comes to its end. -/
inductive Event (δ φ : Type*) where
  | setFrame (pointCloud : List (UnifiedPoint φ))
  | setRenderMode (mode : PointCloudRenderMode)
  | setDepthRange (minZ maxZ : δ)
  | setBlendRatio (ratio : φ)
  | clear
  | finishBuild (i : ℕ)
  deriving DecidableEq

def step (v : PointCloudView3D δ φ) : Event δ φ → PointCloudView3D δ φ
  | .setFrame pointCloud => v.setFrame pointCloud
  | .setRenderMode mode => v.setRenderMode mode
  | .setDepthRange minZ maxZ => v.setDepthRange S minZ maxZ
  | .setBlendRatio ratio => v.setBlendRatio S ratio
  | .clear => v.clear
  | .finishBuild i => v.finishBuild S i

end Shaded

/-- The data on display. -/
def displayed (v : PointCloudView3D δ φ) : Option (PolyData φ) := v.pointsActor.map Actor.poly

/-- The data of the current frame and settings. -/
def current (S : Shading δ φ) (v : PointCloudView3D δ φ) : Option (PolyData φ) :=
  buildPreparedPolyData S v.lastFrame v.renderMode v.depthMin v.depthMax v.blendRatio

end PointCloudView3D
end Camera3D.Viewer
