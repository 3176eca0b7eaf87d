import Mathlib.Data.Int.Basic
import Camera3D.Transition.Run

/-! The depth range of the point cloud as the user sets it: a slider with two handles, a number box for
each end, and a button that resets both. -/
namespace Camera3D.Viewer
open Transition

def sliderMin : ℤ := 0
def sliderMax : ℤ := 3000

/-- What a position on the slider, or a number box, can stand for. -/
abbrev ScaleValue := { v : ℤ // sliderMin ≤ v ∧ v ≤ sliderMax }

inductive ActiveSlider where
  | both
  | low
  | high
  deriving DecidableEq

/-- `pressed` is whether `pressed_control` is the handle. -/
structure RangeSlider where
  lowLimit : ℤ
  highLimit : ℤ
  pressed : Bool := false
  activeSlider : ActiveSlider := .low
  clickOffset : ℤ := 0
  deriving DecidableEq

/-- Where the left button goes down: in which handles, how far from their centres, and at which value. -/
structure Press where
  inLow : Bool
  inHigh : Bool
  distLow : ℤ
  distHigh : ℤ
  value : ScaleValue

namespace RangeSlider

def mousePressEvent (s : RangeSlider) (p : Press) : RangeSlider :=
  let s := { s with pressed := true }
  if p.inLow && p.inHigh then
    { s with activeSlider := if p.distLow ≤ p.distHigh then .low else .high }
  else if p.inLow then { s with activeSlider := .low }
  else if p.inHigh then { s with activeSlider := .high }
  else { s with activeSlider := .both, clickOffset := p.value }

/-- Both handles move by as much as the mouse, and back as far as they went over an end. -/
def moveBoth (s : RangeSlider) (newPos : ℤ) : RangeSlider :=
  let offset := newPos - s.clickOffset
  let high := s.highLimit + offset
  let low := s.lowLimit + offset
  let diff := if low < sliderMin then sliderMin - low else 0
  let low := low + diff
  let high := high + diff
  let diff := if high > sliderMax then sliderMax - high else 0
  { s with lowLimit := low + diff, highLimit := high + diff, clickOffset := newPos }

def mouseMoveEvent (s : RangeSlider) (newPos : ℤ) : RangeSlider :=
  match s.activeSlider with
  | .both => s.moveBoth newPos
  | .low =>
    let newPos := if newPos ≥ s.highLimit then s.highLimit - 1 else newPos
    { s with lowLimit := newPos, clickOffset := newPos }
  | .high =>
    let newPos := if newPos ≤ s.lowLimit then s.lowLimit + 1 else newPos
    { s with highLimit := newPos, clickOffset := newPos }

/-- The range lies on the scale and is not empty. -/
structure Sound (s : RangeSlider) : Prop where
  low : sliderMin ≤ s.lowLimit
  lt : s.lowLimit < s.highLimit
  high : s.highLimit ≤ sliderMax

variable {s : RangeSlider}

theorem Sound.press (h : s.Sound) (p : Press) : (s.mousePressEvent p).Sound := by
  unfold mousePressEvent
  dsimp only
  split_ifs <;> exact ⟨h.low, h.lt, h.high⟩

theorem Sound.moveBoth (h : s.Sound) (newPos : ℤ) : (s.moveBoth newPos).Sound := by
  have hlow := h.low
  have hlt := h.lt
  have hhigh := h.high
  constructor
  · simp only [RangeSlider.moveBoth]
    split_ifs <;> omega
  · simp only [RangeSlider.moveBoth]
    omega
  · simp only [RangeSlider.moveBoth]
    split_ifs <;> omega

theorem Sound.move (h : s.Sound) (newPos : ScaleValue) : (s.mouseMoveEvent newPos).Sound := by
  obtain ⟨newPos, hmin, hmax⟩ := newPos
  have hlow := h.low
  have hlt := h.lt
  have hhigh := h.high
  unfold mouseMoveEvent
  cases s.activeSlider with
  | both => exact h.moveBoth newPos
  | low =>
    constructor
    · dsimp only
      split_ifs <;> omega
    · dsimp only
      split_ifs <;> omega
    · exact hhigh
  | high =>
    constructor
    · exact hlow
    · dsimp only
      split_ifs <;> omega
    · dsimp only
      split_ifs <;> omega

end RangeSlider

/-- The slider, the range that the cloud is shown with, and what the number boxes show. -/
structure DepthControls where
  slider : RangeSlider := { lowLimit := 0, highLimit := 1000 }
  depthMin : ℤ := 0
  depthMax : ℤ := 1000
  minSpin : ℤ := 0
  maxSpin : ℤ := 1000
  deriving DecidableEq

inductive ControlEvent where
  | press (p : Press)
  /-- A button other than the left one. -/
  | otherPress
  | move (newPos : ScaleValue)
  | reset
  | minSpin (val : ScaleValue)
  | maxSpin (val : ScaleValue)

namespace DepthControls

def setDepthRange (c : DepthControls) (minZ maxZ : ℤ) : DepthControls :=
  if minZ > maxZ then { c with depthMin := maxZ, depthMax := minZ }
  else { c with depthMin := minZ, depthMax := maxZ }

/-- What is done when the slider reports its range; the boxes are set without their signals. -/
def onSliderMoved (c : DepthControls) (low high : ℤ) : DepthControls :=
  let c := if low > high then c.setDepthRange high low else c.setDepthRange low high
  { c with minSpin := low, maxSpin := high }

def onReset (c : DepthControls) : DepthControls :=
  let c := { c with slider := { c.slider with lowLimit := sliderMin, highLimit := sliderMax } }
  { c.setDepthRange sliderMin sliderMax with minSpin := sliderMin, maxSpin := sliderMax }

/-- The box keeps the number that was entered, also where another one is used instead. -/
def onMinSpin (c : DepthControls) (val : ℤ) : DepthControls :=
  let c := { c with minSpin := val }
  let val := if val ≥ c.slider.highLimit then c.slider.highLimit - 1 else val
  { c with slider := { c.slider with lowLimit := val }, depthMin := val }.setDepthRange val c.depthMax

def onMaxSpin (c : DepthControls) (val : ℤ) : DepthControls :=
  let c := { c with maxSpin := val }
  let val := if val ≤ c.slider.lowLimit then c.slider.lowLimit + 1 else val
  { c with slider := { c.slider with highLimit := val }, depthMax := val }.setDepthRange c.depthMin val

/-- A box reports a number only if it is another one than before. -/
def step (c : DepthControls) : ControlEvent → DepthControls
  | .press p => { c with slider := c.slider.mousePressEvent p }
  | .otherPress => c
  | .move newPos =>
    if !c.slider.pressed then c
    else
      let slider := c.slider.mouseMoveEvent newPos
      { c with slider }.onSliderMoved slider.lowLimit slider.highLimit
  | .reset => c.onReset
  | .minSpin val => if val = c.minSpin then c else c.onMinSpin val
  | .maxSpin val => if val = c.maxSpin then c else c.onMaxSpin val

/-- The cloud is shown with the range of the slider. -/
structure Sound (c : DepthControls) : Prop where
  slider : c.slider.Sound
  depthMin : c.depthMin = c.slider.lowLimit
  depthMax : c.depthMax = c.slider.highLimit

/-- The boxes show the range of the slider. -/
def Shown (c : DepthControls) : Prop :=
  c.minSpin = c.slider.lowLimit ∧ c.maxSpin = c.slider.highLimit

/-- A number is not entered beyond the other end of the range. -/
def InOrder (c : DepthControls) : ControlEvent → Prop
  | .minSpin val => val < c.slider.highLimit
  | .maxSpin val => c.slider.lowLimit < val
  | _ => True

variable {c : DepthControls}

theorem setDepthRange_of_le {minZ maxZ : ℤ} (h : minZ ≤ maxZ) :
    c.setDepthRange minZ maxZ = { c with depthMin := minZ, depthMax := maxZ } := by
  apply if_neg
  omega

theorem onSliderMoved_eq {low high : ℤ} (h : low < high) :
    c.onSliderMoved low high =
      { c with depthMin := low, depthMax := high, minSpin := low, maxSpin := high } := by
  unfold onSliderMoved
  rw [if_neg (by omega), setDepthRange_of_le (by omega)]

theorem onReset_eq (c : DepthControls) :
    c.onReset =
      { slider := { c.slider with lowLimit := sliderMin, highLimit := sliderMax }
        depthMin := sliderMin
        depthMax := sliderMax
        minSpin := sliderMin
        maxSpin := sliderMax } := by
  have hle : sliderMin ≤ sliderMax := by decide
  unfold onReset
  dsimp only
  rw [setDepthRange_of_le hle]

/-- The number that is used for an entry of the lower end. -/
def usedMin (c : DepthControls) (val : ℤ) : ℤ :=
  if val ≥ c.slider.highLimit then c.slider.highLimit - 1 else val

def usedMax (c : DepthControls) (val : ℤ) : ℤ :=
  if val ≤ c.slider.lowLimit then c.slider.lowLimit + 1 else val

theorem Sound.onMinSpin_eq (h : c.Sound) (val : ℤ) :
    c.onMinSpin val =
      { c with
        slider := { c.slider with lowLimit := c.usedMin val }
        depthMin := c.usedMin val
        minSpin := val } := by
  have hmax := h.depthMax
  have hle : c.usedMin val ≤ c.depthMax := by
    unfold usedMin
    split_ifs <;> omega
  exact setDepthRange_of_le hle

theorem Sound.onMaxSpin_eq (h : c.Sound) (val : ℤ) :
    c.onMaxSpin val =
      { c with
        slider := { c.slider with highLimit := c.usedMax val }
        depthMax := c.usedMax val
        maxSpin := val } := by
  have hmin := h.depthMin
  have hle : c.depthMin ≤ c.usedMax val := by
    unfold usedMax
    split_ifs <;> omega
  exact setDepthRange_of_le hle

theorem Sound.step (h : c.Sound) (e : ControlEvent) : (c.step e).Sound := by
  have hlow := h.slider.low
  have hlt := h.slider.lt
  have hhigh := h.slider.high
  cases e with
  | press p =>
    have hslider := h.slider.press p
    have hkept : (c.slider.mousePressEvent p).lowLimit = c.slider.lowLimit ∧
        (c.slider.mousePressEvent p).highLimit = c.slider.highLimit := by
      unfold RangeSlider.mousePressEvent
      dsimp only
      split_ifs <;> simp
    exact ⟨hslider, h.depthMin.trans hkept.1.symm, h.depthMax.trans hkept.2.symm⟩
  | otherPress => exact h
  | move newPos =>
    simp only [DepthControls.step]
    split_ifs
    · exact h
    · have hslider := h.slider.move newPos
      rw [onSliderMoved_eq hslider.lt]
      exact ⟨hslider, rfl, rfl⟩
  | reset =>
    have hscale : sliderMin < sliderMax := by decide
    simp only [DepthControls.step]
    rw [onReset_eq]
    exact ⟨⟨Int.le_refl _, hscale, Int.le_refl _⟩, rfl, rfl⟩
  | minSpin val =>
    obtain ⟨val, hmin, hmax⟩ := val
    simp only [DepthControls.step]
    split_ifs
    · exact h
    · rw [h.onMinSpin_eq]
      refine ⟨⟨?_, ?_, hhigh⟩, rfl, h.depthMax⟩
      · show sliderMin ≤ c.usedMin val
        unfold usedMin
        split_ifs <;> omega
      · show c.usedMin val < c.slider.highLimit
        unfold usedMin
        split_ifs <;> omega
  | maxSpin val =>
    obtain ⟨val, hmin, hmax⟩ := val
    simp only [DepthControls.step]
    split_ifs
    · exact h
    · rw [h.onMaxSpin_eq]
      refine ⟨⟨hlow, ?_, ?_⟩, h.depthMin, rfl⟩
      · show c.slider.lowLimit < c.usedMax val
        unfold usedMax
        split_ifs <;> omega
      · show c.usedMax val ≤ sliderMax
        unfold usedMax
        split_ifs <;> omega

theorem Shown.step (hs : c.Sound) (h : c.Shown) {e : ControlEvent} (he : c.InOrder e) :
    (c.step e).Shown := by
  obtain ⟨hmin, hmax⟩ := h
  cases e with
  | press p =>
    simp only [DepthControls.step, Shown, RangeSlider.mousePressEvent]
    split_ifs <;> exact ⟨hmin, hmax⟩
  | otherPress => exact ⟨hmin, hmax⟩
  | move newPos =>
    simp only [DepthControls.step]
    split_ifs
    · exact ⟨hmin, hmax⟩
    · rw [onSliderMoved_eq (hs.slider.move newPos).lt]
      exact ⟨rfl, rfl⟩
  | reset =>
    simp only [DepthControls.step]
    rw [onReset_eq]
    exact ⟨rfl, rfl⟩
  | minSpin val =>
    have hused : c.usedMin val = val := if_neg (by simpa [InOrder] using he)
    simp only [DepthControls.step]
    split_ifs
    · exact ⟨hmin, hmax⟩
    · rw [hs.onMinSpin_eq, hused]
      exact ⟨rfl, hmax⟩
  | maxSpin val =>
    have hused : c.usedMax val = val := if_neg (by simpa [InOrder] using he)
    simp only [DepthControls.step]
    split_ifs
    · exact ⟨hmin, hmax⟩
    · rw [hs.onMaxSpin_eq, hused]
      exact ⟨hmin, rfl⟩

/-- The heights of the three parts of the colour bar, from the top, on a bar of height `h`. -/
def colorBar (c : DepthControls) (h : ℤ) : ℤ × ℤ × ℤ :=
  let r := sliderMax - sliderMin
  let hMax := Int.tdiv ((sliderMax - c.slider.highLimit) * h) r
  let hMin := Int.tdiv ((c.slider.lowLimit - sliderMin) * h) r
  let midH := h - hMax - hMin
  (hMax, if midH < 1 then 1 else midH, hMin)

/-- The middle part is never widened: there is always room for it. -/
theorem Sound.colorBar (hs : c.Sound) {h : ℤ} (hh : 0 < h) :
    ∃ hMax mid hMin, c.colorBar h = (hMax, mid, hMin) ∧ 0 ≤ hMax ∧ 0 < mid ∧ 0 ≤ hMin ∧
      hMax + mid + hMin = h := by
  have hlow := hs.slider.low
  have hlt := hs.slider.lt
  have hhigh := hs.slider.high
  have hr : sliderMax - sliderMin = 3000 := rfl
  have htop : 0 ≤ (sliderMax - c.slider.highLimit) * h :=
    Int.mul_nonneg (by omega) (Int.le_of_lt hh)
  have hbottom : 0 ≤ (c.slider.lowLimit - sliderMin) * h :=
    Int.mul_nonneg (by omega) (Int.le_of_lt hh)
  -- The two outer parts of the scale leave out at least one step of it.
  have hroom : (sliderMax - c.slider.highLimit) * h + (c.slider.lowLimit - sliderMin) * h + h ≤
      3000 * h := by
    have hsteps : (sliderMax - c.slider.highLimit) + (c.slider.lowLimit - sliderMin) + 1 ≤ 3000 := by
      omega
    have hscaled := Int.mul_le_mul_of_nonneg_right hsteps (Int.le_of_lt hh)
    rw [Int.add_mul, Int.add_mul, Int.one_mul] at hscaled
    exact hscaled
  unfold DepthControls.colorBar
  simp only [hr, Int.tdiv_eq_ediv_of_nonneg htop, Int.tdiv_eq_ediv_of_nonneg hbottom]
  generalize (sliderMax - c.slider.highLimit) * h = top at *
  generalize (c.slider.lowLimit - sliderMin) * h = bottom at *
  refine ⟨_, _, _, rfl, ?_, ?_, ?_, ?_⟩
  · omega
  · split_ifs <;> omega
  · omega
  · split_ifs <;> omega

/-- The cloud is shown with the range of the slider, which lies on the scale and is not empty, and the
colour bar is divided by it without a gap. -/
structure Agrees (c : DepthControls) : Prop where
  low : sliderMin ≤ c.depthMin
  lt : c.depthMin < c.depthMax
  high : c.depthMax ≤ sliderMax
  slider : c.slider.lowLimit = c.depthMin ∧ c.slider.highLimit = c.depthMax
  bar : ∀ h, 0 < h → ∃ hMax mid hMin, c.colorBar h = (hMax, mid, hMin) ∧ 0 ≤ hMax ∧ 0 < mid ∧
    0 ≤ hMin ∧ hMax + mid + hMin = h

theorem Sound.agrees (hs : c.Sound) : c.Agrees := by
  have hlow := hs.slider.low
  have hlt := hs.slider.lt
  have hhigh := hs.slider.high
  have hmin := hs.depthMin
  have hmax := hs.depthMax
  constructor
  · omega
  · omega
  · omega
  · exact ⟨hmin.symm, hmax.symm⟩
  · intro h hh
    exact hs.colorBar hh

theorem sound_init : ({} : DepthControls).Sound := ⟨⟨by decide, by decide, by decide⟩, rfl, rfl⟩

/-- However the range is dragged, reset and typed in, the controls agree. As long as no end is typed in
beyond the other one, the number boxes show the range as well. -/
theorem controls_agree (es : List ControlEvent) :
    (run step {} es).Agrees ∧
      (Along step InOrder {} es → (run step {} es).minSpin = (run step {} es).depthMin ∧
        (run step {} es).maxSpin = (run step {} es).depthMax) := by
  have hs : (run step {} es).Sound := run_invariant (I := Sound) (fun _ e h => h.step e) sound_init es
  constructor
  · exact hs.agrees
  · intro hes
    have hshown : (run step {} es).Sound ∧ (run step {} es).Shown := by
      apply run_invariant_along (I := fun c => c.Sound ∧ c.Shown) (P := InOrder) _ hes
      · exact ⟨sound_init, rfl, rfl⟩
      · intro c e he h
        exact ⟨h.1.step e, h.2.step h.1 he⟩
    rw [hs.depthMin, hs.depthMax]
    exact hshown.2

/-- A lower end beyond the upper one is replaced, and the box goes on showing it. -/
example : run step {} [.minSpin ⟨2000, by decide⟩] =
    { slider := { lowLimit := 999, highLimit := 1000 }, depthMin := 999, minSpin := 2000 } := by
  decide

end DepthControls

end Camera3D.Viewer
