import Camera3D.Memory.LittleEndian
import Camera3D.Memory.Loops
import Camera3D.Viewer.Population

/-! `UnifiedImageToQImage`, over images whose rows begin at multiples of `bytesPerLine`. -/
namespace Camera3D.Viewer
open Memory

/-- What a conversion must not do: let an `int` overflow, read outside of the data, or write outside
of the image, which nothing can be written to if it is null. -/
inductive Undefined where
  | overflow
  | readOutside
  | writeOutside
  deriving DecidableEq

inductive Format where
  | grayscale8
  | rgb888
  deriving DecidableEq

def Format.bytesPerPixel : Format → ℕ
  | grayscale8 => 1
  | rgb888 => 3

inductive Pixel where
  | gray (v : ℕ)
  | rgb (r g b : ℕ)
  deriving DecidableEq

/-- The data of an image that is not null. A byte that was never written is none. -/
structure QImageData where
  width : ℕ
  height : ℕ
  format : Format
  bytes : ℕ → Option UInt8 := fun _ => none

abbrev QImage := Option QImageData

namespace QImageData

/-- The size of a row, rounded up to a multiple of 4. -/
def bytesPerLine (d : QImageData) : ℕ := (d.width * d.format.bytesPerPixel + 3) / 4 * 4

def setByte (d : QImageData) (i : ℕ) (v : UInt8) : QImageData :=
  { d with bytes := fun j => if j = i then some v else d.bytes j }

theorem row_le_bytesPerLine (d : QImageData) : d.width * d.format.bytesPerPixel ≤ d.bytesPerLine := by
  rw [bytesPerLine]
  omega

theorem offset_lt {d : QImageData} {x j : ℕ} (hx : x < d.width) (hj : j < d.format.bytesPerPixel) :
    x * d.format.bytesPerPixel + j < d.bytesPerLine :=
  calc
    x * d.format.bytesPerPixel + j < (x + 1) * d.format.bytesPerPixel := by rw [Nat.succ_mul]; omega
    _ ≤ d.width * d.format.bytesPerPixel := Nat.mul_le_mul_right _ hx
    _ ≤ d.bytesPerLine := d.row_le_bytesPerLine

/-- Two pixels have no byte in common. -/
theorem address_ne {d : QImageData} {x y j x' y' j' : ℕ} (hx : x < d.width) (hx' : x' < d.width)
    (hj : j < d.format.bytesPerPixel) (hj' : j' < d.format.bytesPerPixel) (hne : (x, y) ≠ (x', y')) :
    y' * d.bytesPerLine + (x' * d.format.bytesPerPixel + j') ≠
      y * d.bytesPerLine + (x * d.format.bytesPerPixel + j) := by
  intro h
  have hlt := offset_lt hx hj
  have hlt' := offset_lt hx' hj'
  have hy : y' = y := by
    have hdiv := congrArg (· / d.bytesPerLine) h
    have hpos : 0 < d.bytesPerLine := by omega
    simpa only [Nat.mul_comm _ d.bytesPerLine, Nat.mul_add_div hpos, Nat.div_eq_of_lt hlt,
      Nat.div_eq_of_lt hlt', Nat.add_zero] using hdiv
  subst hy
  have hx : x' = x := by
    have hdiv := congrArg (· / d.format.bytesPerPixel) (Nat.add_left_cancel h)
    have hpos : 0 < d.format.bytesPerPixel := by omega
    simpa only [Nat.mul_comm _ d.format.bytesPerPixel, Nat.mul_add_div hpos, Nat.div_eq_of_lt hj,
      Nat.div_eq_of_lt hj', Nat.add_zero] using hdiv
  exact hne (by rw [hx])

/-- A pixel, unless a byte of it was never written. -/
def pixel (d : QImageData) (x y : ℕ) : Option Pixel :=
  let line := y * d.bytesPerLine
  match d.format with
  | .grayscale8 => do
    let v ← d.bytes (line + x)
    some (.gray v.toNat)
  | .rgb888 => do
    let r ← d.bytes (line + x * 3)
    let g ← d.bytes (line + (x * 3 + 1))
    let b ← d.bytes (line + (x * 3 + 2))
    some (.rgb r.toNat g.toNat b.toNat)

theorem pixel_gray {d : QImageData} (hf : d.format = .grayscale8) (x y : ℕ) :
    d.pixel x y = (d.bytes (y * d.bytesPerLine + x)).map fun v => .gray v.toNat := by
  rw [pixel, hf]
  cases d.bytes (y * d.bytesPerLine + x) <;> rfl

/-- Nothing else than its bytes tells what a pixel is. -/
theorem pixel_congr {d e : QImageData} {x y : ℕ} (hwidth : e.width = d.width)
    (hformat : e.format = d.format) (h : ∀ j < d.format.bytesPerPixel,
      e.bytes (y * d.bytesPerLine + (x * d.format.bytesPerPixel + j)) =
        d.bytes (y * d.bytesPerLine + (x * d.format.bytesPerPixel + j))) :
    e.pixel x y = d.pixel x y := by
  have hline : e.bytesPerLine = d.bytesPerLine := by rw [bytesPerLine, bytesPerLine, hwidth, hformat]
  rw [pixel, pixel, hline, hformat]
  cases hf : d.format with
  | grayscale8 =>
    simp only [hf, Format.bytesPerPixel] at h
    have h0 := h 0 (by decide)
    simp only [Nat.mul_one, Nat.add_zero] at h0
    simp only [h0]
  | rgb888 =>
    simp only [hf, Format.bytesPerPixel] at h
    have h0 := h 0 (by decide)
    rw [Nat.add_zero] at h0
    simp only [h0, h 1 (by decide), h 2 (by decide)]

theorem pixel_setByte {d : QImageData} {x y j x' y' : ℕ} (v : UInt8) (hx : x < d.width)
    (hj : j < d.format.bytesPerPixel) (hx' : x' < d.width) (hne : (x, y) ≠ (x', y')) :
    (d.setByte (y * d.bytesPerLine + (x * d.format.bytesPerPixel + j)) v).pixel x' y' =
      d.pixel x' y' :=
  pixel_congr rfl rfl fun _ hj' => if_neg (address_ne hx hx' hj hj' hne)

/-- `e` is `d` but for one pixel, which is `p`. -/
structure Painted (d e : QImageData) (x y : ℕ) (p : Pixel) : Prop where
  width : e.width = d.width
  height : e.height = d.height
  format : e.format = d.format
  pixel : e.pixel x y = some p
  others : ∀ x' < d.width, ∀ y', (x, y) ≠ (x', y') → e.pixel x' y' = d.pixel x' y'

theorem painted_gray {d : QImageData} {x : ℕ} (y : ℕ) (v : UInt8) (hf : d.format = .grayscale8)
    (hx : x < d.width) : d.Painted (d.setByte (y * d.bytesPerLine + x) v) x y (.gray v.toNat) := by
  have haddress : y * d.bytesPerLine + x = y * d.bytesPerLine + (x * d.format.bytesPerPixel + 0) := by
    rw [hf, Format.bytesPerPixel, Nat.mul_one, Nat.add_zero]
  have hj : 0 < d.format.bytesPerPixel := by rw [hf]; decide
  refine ⟨rfl, rfl, rfl, ?_, fun x' hx' y' hne => ?_⟩
  · rw [pixel_gray (show (d.setByte _ v).format = _ from hf)]
    exact congrArg (Option.map _) (if_pos rfl)
  · rw [haddress]
    exact pixel_setByte v hx hj hx' hne

theorem painted_rgb {d : QImageData} {x : ℕ} (y : ℕ) (r g b : UInt8) (hf : d.format = .rgb888)
    (hx : x < d.width) :
    d.Painted (((d.setByte (y * d.bytesPerLine + (x * 3 + 0)) r).setByte
      (y * d.bytesPerLine + (x * 3 + 1)) g).setByte (y * d.bytesPerLine + (x * 3 + 2)) b) x y
      (.rgb r.toNat g.toNat b.toNat) := by
  have hbytes : d.format.bytesPerPixel = 3 := by rw [hf]; rfl
  refine ⟨rfl, rfl, rfl, ?_, fun x' hx' y' hne => ?_⟩
  · simp [pixel, setByte, hf, bytesPerLine]
  · have hset : ∀ e : QImageData, e.width = d.width → e.format = d.format → ∀ j < 3, ∀ v,
        (e.setByte (y * d.bytesPerLine + (x * 3 + j)) v).pixel x' y' = e.pixel x' y' := by
      intro e hwidth hformat j hj v
      have hline : e.bytesPerLine = d.bytesPerLine := by
        rw [bytesPerLine, bytesPerLine, hwidth, hformat]
      have h := pixel_setByte v (d := e) (j := j) (hwidth ▸ hx) (by rw [hformat, hbytes]; exact hj)
        (hwidth ▸ hx') hne
      rwa [hline, hformat, hbytes] at h
    calc
      _ = _ := hset ((d.setByte _ r).setByte _ g) rfl rfl 2 (by decide) b
      _ = _ := hset (d.setByte _ r) rfl rfl 1 (by decide) g
      _ = d.pixel x' y' := hset d rfl rfl 0 (by decide) r

end QImageData

namespace QImage

/-- An image without pixels set, or a null image where the memory for it is lacking. -/
def new (allocates : ℕ → ℕ → Format → Bool) (width height : ℕ) (format : Format) : QImage :=
  if allocates width height format then some { width, height, format } else none

/-- The offset at which a row begins. -/
def scanLine : QImage → ℕ → ℕ
  | none, _ => 0
  | some d, y => y * d.bytesPerLine

def store (out : QImage) (i : ℕ) (v : UInt8) : Except Undefined QImage :=
  match out with
  | none => .error .writeOutside
  | some d => if i < d.height * d.bytesPerLine then .ok (some (d.setByte i v)) else .error .writeOutside

end QImage

theorem store_of_lt {d : QImageData} {i : ℕ} (v : UInt8) (h : i < d.height * d.bytesPerLine) :
    QImage.store (some d) i v = .ok (some (d.setByte i v)) := if_pos h

/-- Rows do not overlap, so a byte of a row is one of the image. -/
theorem store_row {d : QImageData} {y i : ℕ} (v : UInt8) (hy : y < d.height)
    (hi : i < d.bytesPerLine) : QImage.store (some d) (y * d.bytesPerLine + i) v =
      .ok (some (d.setByte (y * d.bytesPerLine + i) v)) := by
  have hrows : (y + 1) * d.bytesPerLine ≤ d.height * d.bytesPerLine := Nat.mul_le_mul_right _ hy
  rw [Nat.succ_mul] at hrows
  exact store_of_lt v (by omega)

/-- The result of an `int` operation, where it is not negative. -/
def int (n : ℕ) : Except Undefined ℕ := if n < 2 ^ 31 then .ok n else .error .overflow

def load8 (src : List UInt8) (i : ℕ) : Except Undefined UInt8 :=
  match src[i]? with
  | none => .error .readOutside
  | some v => .ok v

theorem int_eq_ok {n m : ℕ} : int n = .ok m ↔ n < 2 ^ 31 ∧ m = n := by
  unfold int
  split_ifs with h
  · exact ⟨fun hm => ⟨h, (Except.ok.inj hm).symm⟩, fun hm => congrArg Except.ok hm.2.symm⟩
  · exact ⟨nofun, fun hm => absurd hm.1 h⟩

theorem load8_eq_ok {src : List UInt8} {i : ℕ} {v : UInt8} : load8 src i = .ok v ↔ src[i]? = some v := by
  unfold load8
  cases src[i]? <;> simp

def load16 (src : List UInt8) (i : ℕ) : Except Undefined ℕ := do
  let lo ← load8 src (i * 2)
  let hi ← load8 src (i * 2 + 1)
  .ok (ofLE [lo, hi])

def memcpy (out : QImage) (src : List UInt8) (n : ℕ) : Except Undefined QImage :=
  loop n (fun i out => do out.store i (← load8 src i)) out

/-- `y * img.width + x`. -/
def sampleIndex (width y x : ℕ) : Except Undefined ℕ := do int ((← int (y * width)) + x)

theorem sampleIndex_eq_ok {width y x i : ℕ} :
    sampleIndex width y x = .ok i ↔ y * width + x < 2 ^ 31 ∧ i = y * width + x := by
  simp only [sampleIndex, bind_eq_ok, int_eq_ok]
  constructor
  · rintro ⟨_, ⟨_, rfl⟩, h⟩
    exact h
  · rintro ⟨h, rfl⟩
    exact ⟨_, ⟨by omega, rfl⟩, h, rfl⟩

def maxSample (src : List UInt8) (n : ℕ) : Except Undefined ℕ :=
  loop n (fun i maxV => do
    let v ← load16 src i
    .ok (if v > maxV then v else maxV)) 0

def storeGray (src : List UInt8) (width maxV y x : ℕ) (out : QImage) : Except Undefined QImage := do
  let v ← load16 src (← sampleIndex width y x)
  out.store (out.scanLine y + x) (.ofNat (v * 255 / maxV))

/-- `(y * img.width + x) * img.channels + k`. -/
def channelIndex (width channels y x k : ℕ) : Except Undefined ℕ := do
  let i ← sampleIndex width y x
  let i ← int (i * channels)
  int (i + k)

theorem channelIndex_eq_ok {width channels y x k i : ℕ} (hc : 0 < channels) :
    channelIndex width channels y x k = .ok i ↔
      (y * width + x) * channels + k < 2 ^ 31 ∧ i = (y * width + x) * channels + k := by
  simp only [channelIndex, bind_eq_ok, int_eq_ok, sampleIndex_eq_ok]
  constructor
  · rintro ⟨_, ⟨_, rfl⟩, _, ⟨_, rfl⟩, h⟩
    exact h
  · rintro ⟨h, rfl⟩
    have hle : y * width + x ≤ (y * width + x) * channels := Nat.le_mul_of_pos_right _ hc
    exact ⟨_, ⟨by omega, rfl⟩, _, ⟨by omega, rfl⟩, h, rfl⟩

/-- `line[x * 3 + j]` becomes the channel `k` of the sample. -/
def storeChannel (src : List UInt8) (width channels y x j k : ℕ) (out : QImage) :
    Except Undefined QImage := do
  let v ← load8 src (← channelIndex width channels y x k)
  let i ← int (x * 3)
  let i ← int (i + j)
  out.store (out.scanLine y + i) v

def storeRgb (src : List UInt8) (width channels y x : ℕ) (out : QImage) : Except Undefined QImage := do
  let out ← storeChannel src width channels y x 0 2 out
  let out ← storeChannel src width channels y x 1 1 out
  storeChannel src width channels y x 2 0 out

/-- An image is allocated in the size and the format that `allocates` finds the memory for. -/
def unifiedImageToQImage (allocates : ℕ → ℕ → Format → Bool) (img : UnifiedImage) :
    Except Undefined QImage :=
  if img.width ≤ 0 ∨ img.height ≤ 0 ∨ img.data = [] then .ok none
  else
    let width := img.width.toNatClampNeg
    let height := img.height.toNatClampNeg
    let n := width * height
    if img.is16bit = true ∧ img.channels = 1 then
      if img.data.length < n * 2 then .ok none
      else do
        let maxV ← maxSample img.data n
        let maxV := if maxV = 0 then 1 else maxV
        loop height (fun y => loop width (storeGray img.data width maxV y))
          (.new allocates width height .grayscale8)
    else if img.channels = 1 then
      let out := QImage.new allocates width height .grayscale8
      if img.data.length ≥ n then memcpy out img.data n else .ok out
    else if img.channels ≥ 3 then
      loop height (fun y => loop width (storeRgb img.data width img.channels.toNatClampNeg y))
        (.new allocates width height .rgb888)
    else .ok none

end Camera3D.Viewer
