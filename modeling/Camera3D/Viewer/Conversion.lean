import Camera3D.Viewer.QtImage
import Mathlib.Data.Finset.Lattice.Fold
import Mathlib.Data.Finset.Range
import Mathlib.Order.Lattice.Nat

/-! When the conversion to a `QImage` shows every sample, each at its place. -/
namespace Camera3D.Viewer
open Memory QImageData

namespace UnifiedImage
variable (img : UnifiedImage)

def area : ℕ := img.width.toNatClampNeg * img.height.toNatClampNeg

def byte (i : ℕ) : ℕ := (img.data.getD i 0).toNat

def word (i : ℕ) : ℕ := ofLE [img.data.getD (i * 2) 0, img.data.getD (i * 2 + 1) 0]

def brightest : ℕ := (Finset.range img.area).sup img.word

/-- What the sample at `i` looks like. Of three channels or more the first is blue. -/
def shown (i : ℕ) : Pixel :=
  if 3 ≤ img.channels then
    let c := img.channels.toNatClampNeg
    .rgb (img.byte (i * c + 2)) (img.byte (i * c + 1)) (img.byte (i * c))
  else if img.is16bit = true then .gray (img.word i * 255 / img.brightest)
  else .gray (img.byte i)

/-- The image has the same size, and every sample is at its pixel. -/
structure ShownBy (d : QImageData) : Prop where
  width : (d.width : ℤ) = img.width.toInt
  height : (d.height : ℤ) = img.height.toInt
  pixels : ∀ y < d.height, ∀ x < d.width, d.pixel x y = some (img.shown (y * d.width + x))

/-- The conversion does nothing undefined, and gives no image or one that shows the samples. -/
def ConvertsExactly (allocates : ℕ → ℕ → Format → Bool) : Prop :=
  ∃ out, unifiedImageToQImage allocates img = .ok out ∧ ∀ d, out = some d → img.ShownBy d

/-- There is an image to convert. -/
def Given : Prop := 0 < img.width ∧ 0 < img.height ∧ img.data ≠ []

/-- The offset of the last byte that is read from an image of three channels or more. -/
def lastRead : ℕ := (img.area - 1) * img.channels.toNatClampNeg + 2

/-- What a given image must be like. Of 16-bit samples some are missing, or each has an `int` for its
index; 8-bit samples are all there, in rows without padding or in one row; of three channels or more
every byte is there, at an `int`. There is memory for the image, unless nothing is stored. -/
def Convertible (allocates : ℕ → ℕ → Format → Bool) : Prop :=
  let memory := fun format =>
    allocates img.width.toNatClampNeg img.height.toNatClampNeg format = true
  img.Given →
    (img.channels = 1 ∧ img.is16bit = true →
      img.data.length < img.area * 2 ∨ memory .grayscale8 ∧ img.area ≤ 2 ^ 31) ∧
    (img.channels = 1 ∧ img.is16bit = false →
      (memory .grayscale8 ∧ img.area ≤ img.data.length ∧
        (4 ∣ img.width.toNatClampNeg ∨ img.height.toNatClampNeg = 1)) ∨
        (¬ memory .grayscale8 ∧ img.data.length < img.area)) ∧
    (3 ≤ img.channels → memory .rgb888 ∧ img.lastRead < img.data.length ∧ img.lastRead < 2 ^ 31)

end UnifiedImage

section Loops
variable {src : List UInt8} {d : QImageData}

theorem load8_of_lt {i : ℕ} (h : i < src.length) : load8 src i = .ok (src.getD i 0) := by
  rw [load8_eq_ok, List.getD_eq_getElem?_getD, List.getElem?_eq_getElem h, Option.getD_some]

theorem load16_of_lt {i : ℕ} (h : i * 2 + 1 < src.length) :
    load16 src i = .ok (ofLE [src.getD (i * 2) 0, src.getD (i * 2 + 1) 0]) := by
  rw [load16, load8_of_lt (by omega), load8_of_lt h]
  rfl

theorem maxSample_eq (img : UnifiedImage) (h : img.area * 2 ≤ img.data.length) :
    maxSample img.data img.area = .ok img.brightest := by
  have hloop : ∃ m, maxSample img.data img.area = .ok m ∧ m = (Finset.range img.area).sup img.word := by
    refine loop_ok (P := fun i m => m = (Finset.range i).sup img.word) rfl fun i hi m hm => ?_
    refine ⟨_, by rw [load16_of_lt (by omega)]; rfl, ?_⟩
    subst hm
    rw [Finset.range_add_one, Finset.sup_insert]
    change (if img.word i > _ then img.word i else _) = max (img.word i) _
    split_ifs <;> omega
  obtain ⟨m, hm, rfl⟩ := hloop
  exact hm

/-- The samples are copied one behind another, whatever the rows of the image are. -/
theorem memcpy_eq {n : ℕ} (hsrc : n ≤ src.length) (hdst : n ≤ d.height * d.bytesPerLine) :
    memcpy (some d) src n =
      .ok (some { d with bytes := fun i => if i < n then src[i]? else d.bytes i }) := by
  let copied := fun k => { d with bytes := fun i => if i < k then src[i]? else d.bytes i }
  have hloop : ∃ out, memcpy (some d) src n = .ok out ∧ out = some (copied n) := by
    refine loop_ok (P := fun k out => out = some (copied k)) (by simp [copied]) fun k hk out hout => ?_
    subst hout
    refine ⟨_, by rw [load8_of_lt (by omega)]; exact store_of_lt _ (hk.trans_le hdst), ?_⟩
    simp only [copied, QImageData.setByte, Option.some.injEq, QImageData.mk.injEq, true_and]
    funext i
    rcases Nat.lt_trichotomy i k with hlt | rfl | hgt
    · rw [if_neg hlt.ne, if_pos hlt, if_pos (hlt.trans k.lt_succ_self)]
    · rw [if_pos rfl, if_pos i.lt_succ_self, load8_eq_ok.mp (load8_of_lt (by omega))]
    · rw [if_neg hgt.ne', if_neg hgt.not_gt, if_neg (by omega)]
  obtain ⟨out, hout, rfl⟩ := hloop
  exact hout

theorem storeGray_painted {maxV y x : ℕ} (hf : d.format = .grayscale8) (hx : x < d.width)
    (hy : y < d.height) (hint : y * d.width + x < 2 ^ 31)
    (hsrc : (y * d.width + x) * 2 + 1 < src.length) :
    ∃ e, storeGray src d.width maxV y x (some d) = .ok (some e) ∧
      d.Painted e x y (.gray (UInt8.ofNat (ofLE [src.getD ((y * d.width + x) * 2) 0,
        src.getD ((y * d.width + x) * 2 + 1) 0] * 255 / maxV)).toNat) := by
  refine ⟨_, ?_, painted_gray y _ hf hx⟩
  have hoffset : x < d.bytesPerLine := by
    have h := offset_lt (j := 0) hx (by rw [hf]; decide)
    rwa [hf, Format.bytesPerPixel, Nat.mul_one, Nat.add_zero] at h
  rw [storeGray, sampleIndex_eq_ok.mpr ⟨hint, rfl⟩]
  change (load16 src _ >>= _) = _
  rw [load16_of_lt hsrc]
  exact store_row _ hy hoffset

theorem storeChannel_eq {channels y x j k : ℕ} (hc : 0 < channels) (hf : d.format = .rgb888)
    (hx : x < d.width) (hy : y < d.height) (hj : j < 3) (hx3 : x * 3 + j < 2 ^ 31)
    (hint : (y * d.width + x) * channels + k < 2 ^ 31)
    (hsrc : (y * d.width + x) * channels + k < src.length) :
    storeChannel src d.width channels y x j k (some d) =
      .ok (some (d.setByte (y * d.bytesPerLine + (x * 3 + j))
        (src.getD ((y * d.width + x) * channels + k) 0))) := by
  have hoffset : x * 3 + j < d.bytesPerLine := by
    have h := offset_lt (j := j) hx (by rw [hf]; exact hj)
    rwa [hf] at h
  rw [storeChannel, (channelIndex_eq_ok hc).mpr ⟨hint, rfl⟩]
  change (load8 src _ >>= _) = _
  rw [load8_of_lt hsrc, int_eq_ok.mpr ⟨by omega, rfl⟩]
  change (int (x * 3 + j) >>= _) = _
  rw [int_eq_ok.mpr ⟨hx3, rfl⟩]
  exact store_row _ hy hoffset

theorem storeRgb_painted {channels y x : ℕ} (hc : 3 ≤ channels) (hf : d.format = .rgb888)
    (hx : x < d.width) (hy : y < d.height) (hint : (y * d.width + x) * channels + 2 < 2 ^ 31)
    (hsrc : (y * d.width + x) * channels + 2 < src.length) :
    ∃ e, storeRgb src d.width channels y x (some d) = .ok (some e) ∧
      d.Painted e x y (.rgb (src.getD ((y * d.width + x) * channels + 2) 0).toNat
        (src.getD ((y * d.width + x) * channels + 1) 0).toNat
        (src.getD ((y * d.width + x) * channels) 0).toNat) := by
  refine ⟨_, ?_, painted_rgb y _ _ _ hf hx⟩
  have hx3 : x * 3 + 2 < 2 ^ 31 := by
    have h : x * 3 ≤ (y * d.width + x) * channels := Nat.mul_le_mul (Nat.le_add_left _ _) hc
    omega
  have hpos : 0 < channels := by omega
  rw [storeRgb, storeChannel_eq hpos hf hx hy (by decide) (by omega) hint hsrc]
  set d₀ := d.setByte (y * d.bytesPerLine + (x * 3 + 0)) _
  have h₁ : storeChannel src d.width channels y x 1 1 (some d₀) = _ :=
    storeChannel_eq (d := d₀) hpos hf hx hy (by decide) (by omega) (Nat.lt_of_succ_lt hint)
      (Nat.lt_of_succ_lt hsrc)
  set d₁ := d₀.setByte (y * d₀.bytesPerLine + (x * 3 + 1)) _
  have h₂ : storeChannel src d.width channels y x 2 0 (some d₁) = _ :=
    storeChannel_eq (d := d₁) hpos hf hx hy (by decide) hx3
      (Nat.lt_of_succ_lt (Nat.lt_of_succ_lt hint)) (Nat.lt_of_succ_lt (Nat.lt_of_succ_lt hsrc))
  change (storeChannel src d.width channels y x 1 1 (some d₀) >>= _) = _
  rw [h₁]
  exact h₂

/-- Nothing is stored in a null image, nor from a sample whose index is not an `int`. -/
theorem storeGray_ok {width maxV y x : ℕ} {out out' : QImage}
    (h : storeGray src width maxV y x out = .ok out') : out ≠ none ∧ y * width + x < 2 ^ 31 := by
  simp only [storeGray, bind_eq_ok, sampleIndex_eq_ok] at h
  obtain ⟨_, ⟨hint, _⟩, v, _, hstore⟩ := h
  refine ⟨?_, hint⟩
  rintro rfl
  cases hstore

theorem storeRgb_ok {width channels y x : ℕ} {out out' : QImage} (hc : 3 ≤ channels)
    (h : storeRgb src width channels y x out = .ok out') :
    out ≠ none ∧ (y * width + x) * channels + 2 < src.length ∧
      (y * width + x) * channels + 2 < 2 ^ 31 := by
  have hpos : 0 < channels := by omega
  simp only [storeRgb, storeChannel, bind_eq_ok, channelIndex_eq_ok hpos, load8_eq_ok] at h
  obtain ⟨_, ⟨_, ⟨hint, rfl⟩, v, hv, _, _, _, _, hstore⟩, _⟩ := h
  refine ⟨?_, (List.getElem?_eq_some_iff.mp hv).1, hint⟩
  rintro rfl
  cases hstore

end Loops

namespace UnifiedImage
variable {img : UnifiedImage} {allocates : ℕ → ℕ → Format → Bool}

theorem toNatClampNeg_pos {n : Int32} (h : 0 < n) : 0 < n.toNatClampNeg := by
  have hint := Int32.lt_iff_toInt_lt.mp h
  rw [Int32.toInt_zero] at hint
  rw [← Int32.toNat_toInt]
  omega

theorem cast_toNatClampNeg {n : Int32} (h : 0 < n) : (n.toNatClampNeg : ℤ) = n.toInt := by
  have hint := Int32.lt_iff_toInt_lt.mp h
  rw [Int32.toInt_zero] at hint
  rw [← Int32.toNat_toInt, Int.toNat_of_nonneg hint.le]

theorem Given.not_empty (hg : img.Given) : ¬ (img.width ≤ 0 ∨ img.height ≤ 0 ∨ img.data = []) := by
  rintro (hw | hh | hd)
  · exact absurd hg.1 (Int32.not_lt.mpr hw)
  · exact absurd hg.2.1 (Int32.not_lt.mpr hh)
  · exact hg.2.2 hd

/-- The last sample of the last row is the last one of the image. -/
theorem Given.last (hg : img.Given) : (img.height.toNatClampNeg - 1) * img.width.toNatClampNeg +
    (img.width.toNatClampNeg - 1) = img.area - 1 := by
  have hw := toNatClampNeg_pos hg.1
  obtain ⟨h, hh⟩ := Nat.exists_eq_succ_of_ne_zero (toNatClampNeg_pos hg.2.1).ne'
  rw [area, hh, Nat.mul_succ, Nat.mul_comm _ h, Nat.succ_sub_one]
  omega

theorem index_lt {x y : ℕ} (hx : x < img.width.toNatClampNeg) (hy : y < img.height.toNatClampNeg) :
    y * img.width.toNatClampNeg + x < img.area := by
  have hrows : (y + 1) * img.width.toNatClampNeg ≤ img.height.toNatClampNeg * img.width.toNatClampNeg :=
    Nat.mul_le_mul_right _ hy
  rw [Nat.succ_mul] at hrows
  rw [area, Nat.mul_comm img.width.toNatClampNeg]
  omega

/-- A body that makes each pixel of an image what its sample is shown as. -/
def Paints (img : UnifiedImage) (f : Format) (body : ℕ → ℕ → QImage → Except Undefined QImage) : Prop :=
  ∀ y < img.height.toNatClampNeg, ∀ x < img.width.toNatClampNeg, ∀ d : QImageData,
    d.width = img.width.toNatClampNeg → d.height = img.height.toNatClampNeg → d.format = f →
      ∃ e, body y x (some d) = .ok (some e) ∧
        d.Painted e x y (img.shown (y * img.width.toNatClampNeg + x))

theorem Paints.loop_shows {f : Format} {body : ℕ → ℕ → QImage → Except Undefined QImage}
    (hg : img.Given) (hbody : img.Paints f body) :
    ∃ d, loop img.height.toNatClampNeg (fun y => loop img.width.toNatClampNeg (body y))
      (some { width := img.width.toNatClampNeg, height := img.height.toNatClampNeg, format := f }) =
        .ok (some d) ∧ img.ShownBy d := by
  let Sized := fun out : QImage => ∃ d : QImageData, out = some d ∧
    d.width = img.width.toNatClampNeg ∧ d.height = img.height.toNatClampNeg ∧ d.format = f
  let Done := fun (k : ℕ × ℕ) (out : QImage) => k.1 < img.width.toNatClampNeg → ∀ d, out = some d →
    d.pixel k.1 k.2 = some (img.shown (k.2 * img.width.toNatClampNeg + k.1))
  have hfills : ∀ y < img.height.toNatClampNeg, ∀ x < img.width.toNatClampNeg,
      Fills Sized Done {(x, y)} (body y x) := by
    rintro y hy x hx _ ⟨d, rfl, hwidth, hheight, hformat⟩
    obtain ⟨e, hok, hpaint⟩ := hbody y hy x hx d hwidth hheight hformat
    refine ⟨some e, hok, ⟨e, rfl, hpaint.width.trans hwidth, hpaint.height.trans hheight,
      hpaint.format.trans hformat⟩, ?_, ?_⟩
    · rintro _ rfl _ _ ⟨⟩
      exact hpaint.pixel
    · rintro ⟨x', y'⟩ hne hdone hx' _ ⟨⟩
      rw [hpaint.others x' (hwidth ▸ hx') y' (Ne.symm hne)]
      exact hdone hx' d rfl
  obtain ⟨_, hok, ⟨d, rfl, hwidth, hheight, _⟩, hdone⟩ :=
    fills_grid hfills (show Sized (some ⟨_, _, f, _⟩) from ⟨_, rfl, rfl, rfl, rfl⟩)
  refine ⟨d, hok, by rw [hwidth, cast_toNatClampNeg hg.1], by rw [hheight, cast_toNatClampNeg hg.2.1], ?_⟩
  intro y hy x hx
  rw [hwidth] at hx ⊢
  exact hdone y (hheight ▸ hy) x hx hx d rfl

theorem new_ne_none_iff {width height : ℕ} {f : Format} :
    QImage.new allocates width height f ≠ none ↔ allocates width height f = true := by
  rw [QImage.new]
  split_ifs with h <;> simp [h]

/-- Loops over all pixels convert an image if there is memory for it and their body does paint; and
their body does if it comes through its last iteration. -/
theorem grid_exact_iff {f : Format} {body : ℕ → ℕ → QImage → Except Undefined QImage} {P : Prop}
    (hg : img.Given) (hpaints : P → img.Paints f body)
    (hfirst : ∀ {s t}, body 0 0 s = .ok t → s ≠ none)
    (hlast : ∀ {s t}, body (img.height.toNatClampNeg - 1) (img.width.toNatClampNeg - 1) s = .ok t → P) :
    (∃ out, loop img.height.toNatClampNeg (fun y => loop img.width.toNatClampNeg (body y))
        (.new allocates img.width.toNatClampNeg img.height.toNatClampNeg f) = .ok out ∧
      ∀ d, out = some d → img.ShownBy d) ↔
      allocates img.width.toNatClampNeg img.height.toNatClampNeg f = true ∧ P := by
  have hw := toNatClampNeg_pos hg.1
  have hh := toNatClampNeg_pos hg.2.1
  constructor
  · rintro ⟨out, hok, _⟩
    obtain ⟨_, h0⟩ := grid_ok_first hok hh hw
    obtain ⟨_, _, h1⟩ := grid_ok_at hok (Nat.sub_lt hh Nat.one_pos) (Nat.sub_lt hw Nat.one_pos)
    exact ⟨new_ne_none_iff.mp (hfirst h0), hlast h1⟩
  · rintro ⟨hmem, hP⟩
    rw [QImage.new, if_pos hmem]
    obtain ⟨d, hok, hshows⟩ := (hpaints hP).loop_shows hg
    exact ⟨some d, hok, fun _ h => Option.some.inj h ▸ hshows⟩

theorem word_le_brightest {i : ℕ} (hi : i < img.area) : img.word i ≤ img.brightest :=
  Finset.le_sup (Finset.mem_range.mpr hi)

/-- A value that is not above the maximum fits into a byte once it is scaled. -/
theorem toNat_scaled {v m : ℕ} (h : v ≤ m) :
    (UInt8.ofNat (v * 255 / if m = 0 then 1 else m)).toNat = v * 255 / m := by
  rcases Nat.eq_zero_or_pos m with rfl | hpos
  · obtain rfl := Nat.le_zero.mp h
    rfl
  · have hle : v * 255 / m ≤ 255 := Nat.div_le_of_le_mul (Nat.mul_le_mul_right 255 h)
    rw [if_neg hpos.ne', UInt8.toNat_ofNat', Nat.mod_eq_of_lt (by omega)]

theorem convert_gray16 (hg : img.Given) (hc : img.channels = 1) (h16 : img.is16bit = true)
    (hlen : img.area * 2 ≤ img.data.length) :
    unifiedImageToQImage allocates img =
      loop img.height.toNatClampNeg (fun y => loop img.width.toNatClampNeg
        (storeGray img.data img.width.toNatClampNeg (if img.brightest = 0 then 1 else img.brightest) y))
        (.new allocates img.width.toNatClampNeg img.height.toNatClampNeg .grayscale8) := by
  rw [unifiedImageToQImage, if_neg hg.not_empty]
  dsimp only
  rw [if_pos ⟨h16, hc⟩]
  change (if img.data.length < img.area * 2 then _ else maxSample img.data img.area >>= _) = _
  rw [if_neg (Nat.not_lt.mpr hlen), maxSample_eq img hlen]
  rfl

theorem paints_gray16 (hc : img.channels = 1) (h16 : img.is16bit = true)
    (hlen : img.area * 2 ≤ img.data.length) (hint : img.area ≤ 2 ^ 31) :
    img.Paints .grayscale8 (storeGray img.data img.width.toNatClampNeg
      (if img.brightest = 0 then 1 else img.brightest)) := by
  intro y hy x hx d hwidth hheight hformat
  have hi := index_lt hx hy
  have hshown : img.shown (y * img.width.toNatClampNeg + x) =
      .gray (img.word (y * img.width.toNatClampNeg + x) * 255 / img.brightest) := by
    rw [shown, if_neg (by rw [hc]; decide), if_pos h16]
  rw [hshown, ← toNat_scaled (word_le_brightest hi)]
  rw [← hwidth] at hx hi ⊢
  exact storeGray_painted hformat hx (hheight ▸ hy) (by omega) (by omega)

theorem gray16_iff (hg : img.Given) (hc : img.channels = 1) (h16 : img.is16bit = true) :
    img.ConvertsExactly allocates ↔ img.data.length < img.area * 2 ∨
      allocates img.width.toNatClampNeg img.height.toNatClampNeg .grayscale8 = true ∧
        img.area ≤ 2 ^ 31 := by
  by_cases hlen : img.data.length < img.area * 2
  · refine iff_of_true ⟨none, ?_, nofun⟩ (.inl hlen)
    rw [unifiedImageToQImage, if_neg hg.not_empty]
    dsimp only
    rw [if_pos ⟨h16, hc⟩]
    exact if_pos hlen
  · rw [ConvertsExactly, convert_gray16 hg hc h16 (Nat.not_lt.mp hlen), or_iff_right hlen]
    refine grid_exact_iff hg (paints_gray16 hc h16 (Nat.not_lt.mp hlen))
      (fun h => (storeGray_ok h).1) fun h => ?_
    have hint := (storeGray_ok h).2
    rw [hg.last] at hint
    omega

/-- An image of one byte a pixel whose first bytes are those of the data. -/
def copied (img : UnifiedImage) : QImageData where
  width := img.width.toNatClampNeg
  height := img.height.toNatClampNeg
  format := .grayscale8
  bytes := fun i => if i < img.area then img.data[i]? else none

theorem copied_bytesPerLine : img.copied.bytesPerLine = (img.width.toNatClampNeg + 3) / 4 * 4 := by
  rw [bytesPerLine]
  simp [copied, Format.bytesPerPixel]

/-- The rows are where they belong if they are not padded, or if there is only one. -/
theorem copied_shows_iff (hg : img.Given) (hc : img.channels = 1) (h8 : img.is16bit = false)
    (hlen : img.area ≤ img.data.length) :
    img.ShownBy img.copied ↔ 4 ∣ img.width.toNatClampNeg ∨ img.height.toNatClampNeg = 1 := by
  have hw := toNatClampNeg_pos hg.1
  have hh := toNatClampNeg_pos hg.2.1
  have hline := img.copied_bytesPerLine
  constructor
  · intro hshows
    by_contra hpadded
    rw [not_or] at hpadded
    have hpixel := hshows.pixels _ (Nat.sub_lt hh Nat.one_pos) _ (Nat.sub_lt hw Nat.one_pos)
    rw [pixel_gray rfl, Option.map_eq_some_iff] at hpixel
    obtain ⟨v, hv, _⟩ := hpixel
    have hlt : (img.height.toNatClampNeg - 1) * img.copied.bytesPerLine +
        (img.width.toNatClampNeg - 1) < img.area := by
      by_contra hge
      have hunset : img.copied.bytes ((img.height.toNatClampNeg - 1) * img.copied.bytesPerLine +
        (img.width.toNatClampNeg - 1)) = none := if_neg hge
      exact nomatch hunset.symm.trans hv
    have hrows : (img.height.toNatClampNeg - 1) * (img.width.toNatClampNeg + 1) ≤
        (img.height.toNatClampNeg - 1) * img.copied.bytesPerLine := by
      refine Nat.mul_le_mul_left _ ?_
      rw [hline]
      omega
    have hlast := hg.last
    rw [Nat.mul_succ] at hrows
    omega
  · intro hrows
    refine ⟨cast_toNatClampNeg hg.1, cast_toNatClampNeg hg.2.1, fun y hy x hx => ?_⟩
    have hindex : y * img.copied.bytesPerLine + x = y * img.width.toNatClampNeg + x := by
      rcases hrows with hdvd | hone
      · have hfull : img.copied.bytesPerLine = img.width.toNatClampNeg := by
          rw [hline]
          omega
        rw [hfull]
      · obtain rfl : y = 0 := Nat.lt_one_iff.mp (hone ▸ hy)
        rw [Nat.zero_mul, Nat.zero_mul]
    have hi := index_lt hx hy
    have hbyte : img.copied.bytes (y * img.width.toNatClampNeg + x) =
        some (img.data.getD (y * img.width.toNatClampNeg + x) 0) :=
      (if_pos hi).trans (load8_eq_ok.mp (load8_of_lt (hi.trans_le hlen)))
    rw [pixel_gray rfl, hindex, hbyte, shown, if_neg (by rw [hc]; decide), h8]
    rfl

theorem convert_gray8 (hg : img.Given) (hc : img.channels = 1) (h8 : img.is16bit = false) :
    unifiedImageToQImage allocates img =
      if img.area ≤ img.data.length then
        memcpy (.new allocates img.width.toNatClampNeg img.height.toNatClampNeg .grayscale8)
          img.data img.area
      else .ok (.new allocates img.width.toNatClampNeg img.height.toNatClampNeg .grayscale8) := by
  rw [unifiedImageToQImage, if_neg hg.not_empty]
  dsimp only
  rw [if_neg (by simp [h8]), if_pos hc]
  rfl

theorem gray8_iff (hg : img.Given) (hc : img.channels = 1) (h8 : img.is16bit = false) :
    img.ConvertsExactly allocates ↔
      (allocates img.width.toNatClampNeg img.height.toNatClampNeg .grayscale8 = true ∧
        img.area ≤ img.data.length ∧
          (4 ∣ img.width.toNatClampNeg ∨ img.height.toNatClampNeg = 1)) ∨
      (¬ allocates img.width.toNatClampNeg img.height.toNatClampNeg .grayscale8 = true ∧
        img.data.length < img.area) := by
  have hw := toNatClampNeg_pos hg.1
  have hh := toNatClampNeg_pos hg.2.1
  rw [ConvertsExactly, convert_gray8 hg hc h8]
  by_cases hmem : allocates img.width.toNatClampNeg img.height.toNatClampNeg .grayscale8 = true
  · by_cases hlen : img.area ≤ img.data.length
    · have hsize : img.area ≤ img.copied.height * img.copied.bytesPerLine := by
        rw [copied_bytesPerLine, area, Nat.mul_comm]
        exact Nat.mul_le_mul_left _ (by omega)
      have hcopy : memcpy (some ⟨img.width.toNatClampNeg, img.height.toNatClampNeg, .grayscale8,
          fun _ => none⟩) img.data img.area = .ok (some img.copied) := memcpy_eq hlen hsize
      rw [QImage.new, if_pos hmem, if_pos hlen, hcopy, ← copied_shows_iff hg hc h8 hlen]
      simp [hmem, hlen]
    · refine iff_of_false ?_ (by simp [hmem, hlen])
      rintro ⟨out, hok, hshows⟩
      rw [QImage.new, if_pos hmem, if_neg hlen] at hok
      have hpixel := (hshows _ (Except.ok.inj hok).symm).pixels 0 hh 0 hw
      rw [pixel_gray rfl] at hpixel
      cases hpixel
  · rw [QImage.new, if_neg hmem]
    by_cases hlen : img.area ≤ img.data.length
    · refine iff_of_false ?_ (by simp [hmem, hlen])
      rintro ⟨out, hok, _⟩
      rw [if_pos hlen] at hok
      obtain ⟨s, s', hfirst, hcopy⟩ := loop_ok_at hok (Nat.mul_pos hw hh)
      obtain rfl : none = s := Except.ok.inj hfirst
      simp only [bind_eq_ok] at hcopy
      obtain ⟨_, _, hstore⟩ := hcopy
      cases hstore
    · exact iff_of_true ⟨none, if_neg hlen, nofun⟩ (.inr ⟨hmem, Nat.lt_of_not_le hlen⟩)

theorem convert_rgb (hg : img.Given) (hc : 3 ≤ img.channels) :
    unifiedImageToQImage allocates img =
      loop img.height.toNatClampNeg (fun y => loop img.width.toNatClampNeg
        (storeRgb img.data img.width.toNatClampNeg img.channels.toNatClampNeg y))
        (.new allocates img.width.toNatClampNeg img.height.toNatClampNeg .rgb888) := by
  have hone : ¬ img.channels = 1 := fun h => absurd hc (by rw [h]; decide)
  rw [unifiedImageToQImage, if_neg hg.not_empty]
  dsimp only
  rw [if_neg fun h => hone h.2, if_neg hone]
  exact if_pos hc

theorem three_le_toNatClampNeg {n : Int32} (h : 3 ≤ n) : 3 ≤ n.toNatClampNeg := by
  have hint := Int32.le_iff_toInt_le.mp h
  have h3 : (3 : Int32).toInt = 3 := by decide
  rw [← Int32.toNat_toInt]
  omega

theorem paints_rgb (hc : 3 ≤ img.channels) (hdata : img.lastRead < img.data.length)
    (hint : img.lastRead < 2 ^ 31) : img.Paints .rgb888
      (storeRgb img.data img.width.toNatClampNeg img.channels.toNatClampNeg) := by
  intro y hy x hx d hwidth hheight hformat
  have hread : (y * img.width.toNatClampNeg + x) * img.channels.toNatClampNeg + 2 ≤ img.lastRead :=
    Nat.add_le_add_right (Nat.mul_le_mul_right _ (Nat.le_sub_one_of_lt (index_lt hx hy))) 2
  rw [shown, if_pos hc]
  rw [← hwidth] at hx hread ⊢
  exact storeRgb_painted (three_le_toNatClampNeg hc) hformat hx (hheight ▸ hy) (hread.trans_lt hint)
    (hread.trans_lt hdata)

theorem rgb_iff (hg : img.Given) (hc : 3 ≤ img.channels) :
    img.ConvertsExactly allocates ↔
      allocates img.width.toNatClampNeg img.height.toNatClampNeg .rgb888 = true ∧
        img.lastRead < img.data.length ∧ img.lastRead < 2 ^ 31 := by
  have hc3 := three_le_toNatClampNeg hc
  rw [ConvertsExactly, convert_rgb hg hc]
  refine grid_exact_iff hg (fun h => paints_rgb hc h.1 h.2) (fun h => (storeRgb_ok hc3 h).1) fun h => ?_
  have hread := (storeRgb_ok hc3 h).2
  rwa [hg.last] at hread

/-- An image is converted as it should be exactly in the sizes that `Convertible` lists. -/
theorem convertsExactly_iff (img : UnifiedImage) (allocates : ℕ → ℕ → Format → Bool) :
    img.ConvertsExactly allocates ↔ img.Convertible allocates := by
  by_cases hg : img.Given
  · by_cases hc : img.channels = 1
    · cases h16 : img.is16bit with
      | true => simp [gray16_iff hg hc h16, Convertible, hg, hc, h16]
      | false => simp [gray8_iff hg hc h16, Convertible, hg, hc, h16]
    · by_cases h3 : 3 ≤ img.channels
      · simp [rgb_iff hg h3, Convertible, hg, hc, h3]
      · refine iff_of_true ⟨none, ?_, nofun⟩ fun _ => ⟨fun h => absurd h.1 hc, fun h => absurd h.1 hc,
          fun h => absurd h h3⟩
        rw [unifiedImageToQImage, if_neg hg.not_empty]
        dsimp only
        rw [if_neg fun h => hc h.2, if_neg hc, if_neg h3]
  · refine iff_of_true ⟨none, if_pos ?_, nofun⟩ fun h => absurd h hg
    by_contra hnone
    rw [not_or, not_or, Int32.not_le, Int32.not_le] at hnone
    exact hg hnone

/-- Two rows of two bytes: the second row is in the padding of the first. -/
theorem narrow_rows_misplaced :
    ¬ ConvertsExactly { width := 2, height := 2, data := [1, 2, 3, 4] } fun _ _ _ => true := by
  rintro ⟨out, hok, hshows⟩
  obtain rfl := Except.ok.inj hok
  have hpixel := (hshows _ rfl).pixels 1 (by decide) 0 (by decide)
  exact absurd hpixel (by decide)

example : unifiedImageToQImage (fun _ _ _ => true)
    { width := 1, height := 1, channels := 3, data := [1, 2] } = .error .readOutside := rfl

end UnifiedImage
end Camera3D.Viewer
