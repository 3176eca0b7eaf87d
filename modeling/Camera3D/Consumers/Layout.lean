import Camera3D.Hub.Channels
import Camera3D.Ipc.Attached
import Camera3D.Viewer.Population

/-! How the components that touch a raw frame tell its layout from its sizes: the hub, the TIFF saver
and the viewer. -/
namespace Camera3D.Consumers
open Camera Hub Ipc Viewer

inductive CvType where
  | cv8UC1
  | cv16UC1
  | cv8UC3
  | cv8UC4
  deriving DecidableEq

namespace CvType

def channels : CvType → ℕ
  | cv8UC1 | cv16UC1 => 1
  | cv8UC3 => 3
  | cv8UC4 => 4

def bits : CvType → ℕ
  | cv16UC1 => 16
  | cv8UC1 | cv8UC3 | cv8UC4 => 8

def ofBpp (bpp : UInt64) : Option CvType :=
  if bpp = 1 then some cv8UC1
  else if bpp = 2 then some cv16UC1
  else if bpp = 3 then some cv8UC3
  else if bpp = 4 then some cv8UC4
  else none

theorem bpp_eq_one {bpp : UInt64} {type : CvType} (h : ofBpp bpp = some type)
    (hchannels : type.channels = 1) (hbits : type.bits = 8) : bpp = 1 := by
  unfold ofBpp at h
  split_ifs at h with h1
  · exact h1
  all_goals
    obtain rfl := Option.some.inj h
    cases hchannels
  cases hbits

end CvType

/-- A `cv::Mat` over the bytes of a frame. -/
structure Mat where
  rows : Int32
  cols : Int32
  type : CvType
  data : List UInt8
  step : UInt64

/-- `fb.bytes.size()`. -/
def payloadSize (fb : FrameBuffer) : UInt64 := .ofNat fb.bytes.length

/-- The step is a product of two `int`s. -/
def frameBufferToMat (fb : FrameBuffer) : Option Mat :=
  if fb.width = 0 ∨ fb.height = 0 ∨ fb.bytes = [] then none
  else
    let area := fb.width.toUInt64 * fb.height.toUInt64
    if area = 0 ∨ payloadSize fb % area ≠ 0 then none
    else
      let bpp := payloadSize fb / area
      (CvType.ofBpp bpp).map fun type =>
        { rows := fb.height.toInt32
          cols := fb.width.toInt32
          type
          data := fb.bytes
          step := (fb.width.toInt32 * bpp.toUInt32.toInt32).toInt64.toUInt64 }

def readShmToUnifiedImage (ring : Mapping) (ref : ShmFrameRef) : Option UnifiedImage :=
  (ring.tryReadMappedRange ref.offsetBytes ref.sizeBytes).map fun (payload, len) =>
    { width := ref.width.toInt32
      height := ref.height.toInt32
      channels := 1
      is16bit := ref.width.toUInt64 * ref.height.toUInt64 * 2 ≤ ref.sizeBytes
      data := Memory.read ring.bytes payload.toNat len.toNat }

/-- The viewer's loop appends the image that is read here. -/
theorem push_readShmToUnifiedImage (p : Population) {ring : Mapping} {it : Sdk.BestCameraRawFrameItem}
    {payload len : UInt64} (h : ring.tryReadMappedRange it.offsetBytes it.sizeBytes = some (payload, len)) :
    (p.push it (Memory.read ring.bytes payload.toNat len.toNat)).hardwareRawFrames =
      p.hardwareRawFrames ++ (readShmToUnifiedImage ring it.toShmFrameRef).toList := by
  rw [readShmToUnifiedImage, h]
  rfl

/-- The sizes of a frame as the hub's entry has them. -/
def rawEntry (fb : FrameBuffer) : CameraRawShmSlot :=
  { w := fb.width, h := fb.height, payloadSize := payloadSize fb }

/-- The sizes of a frame as a reference to it has them, wherever in the ring it is. -/
def rawRef (fb : FrameBuffer) (offset : UInt64) : ShmFrameRef :=
  { offsetBytes := offset, sizeBytes := payloadSize fb, width := fb.width, height := fb.height }

/-- The saver makes a matrix of this shape. -/
def SavedAs (fb : FrameBuffer) (channels bits : ℕ) : Prop :=
  ∃ mat, frameBufferToMat fb = some mat ∧ mat.type.channels = channels ∧ mat.type.bits = bits

/-- Wherever the viewer can read the frame, it makes an image of this shape. -/
def ViewedAs (fb : FrameBuffer) (channels : ℕ) (is16bit : Bool) : Prop :=
  ∀ ring offset image, readShmToUnifiedImage ring (rawRef fb offset) = some image →
    image.channels.toInt = channels ∧ image.is16bit = is16bit

/-- The saver and the viewer follow the hub where it knows the channels, and each other at two
bytes per pixel. -/
structure AgreeOnLayout (fb : FrameBuffer) : Prop where
  channels : (inferOpenCvChannelsAndStep (rawEntry fb)).1 ≠ 0 →
    SavedAs fb (inferOpenCvChannelsAndStep (rawEntry fb)).1.toNat 8 ∧
      ViewedAs fb (inferOpenCvChannelsAndStep (rawEntry fb)).1.toNat false
  sixteenBit : 0 < (rawEntry fb).area → (payloadSize fb).toNat = (rawEntry fb).area * 2 →
    SavedAs fb 1 16 ∧ ViewedAs fb 1 true

/-- The bytes per pixel are 1, below `2 ^ 63` pixels, or a number that the hub does not take for
1, 3 or 4 by its low 32 bits. -/
def OneChannelOnly (fb : FrameBuffer) : Prop :=
  ∀ bpp, 0 < (rawEntry fb).area → (payloadSize fb).toNat = (rawEntry fb).area * bpp →
    bpp % 2 ^ 32 = 1 ∨ bpp % 2 ^ 32 = 3 ∨ bpp % 2 ^ 32 = 4 → bpp = 1 ∧ (rawEntry fb).area < 2 ^ 63

section Sizes
variable {fb : FrameBuffer} {bpp : ℕ}

theorem inferred_of_bpp (hpos : 0 < (rawEntry fb).area)
    (hsize : (payloadSize fb).toNat = (rawEntry fb).area * bpp) :
    (inferOpenCvChannelsAndStep (rawEntry fb)).1 =
      if bpp % 2 ^ 32 = 1 ∨ bpp % 2 ^ 32 = 3 ∨ bpp % 2 ^ 32 = 4 then .ofNat (bpp % 2 ^ 32) else 0 := by
  have hdvd : (rawEntry fb).area ∣ (rawEntry fb).payloadSize.toNat := ⟨bpp, hsize⟩
  have hbpp : (rawEntry fb).inferredBpp = bpp % 2 ^ 32 := by
    rw [CameraRawShmSlot.inferredBpp]
    change (payloadSize fb).toNat / _ % _ = _
    rw [hsize, Nat.mul_div_cancel_left bpp hpos]
  rw [CameraRawShmSlot.inferOpenCvChannelsAndStep_eq, hbpp]
  simp only [hpos, hdvd, true_and]
  split_ifs <;> rfl

theorem frameBufferToMat_type (hpos : 0 < (rawEntry fb).area)
    (hsize : (payloadSize fb).toNat = (rawEntry fb).area * bpp) :
    (frameBufferToMat fb).map Mat.type = CvType.ofBpp (.ofNat bpp) := by
  have harea : (fb.width.toUInt64 * fb.height.toUInt64).toNat = (rawEntry fb).area :=
    toNat_area fb.width fb.height
  have hne : fb.width.toUInt64 * fb.height.toUInt64 ≠ 0 := by
    rw [ne_eq, ← UInt64.toNat_inj, harea]
    exact hpos.ne'
  have hdvd : payloadSize fb % (fb.width.toUInt64 * fb.height.toUInt64) = 0 := by
    rw [← UInt64.toNat_inj, UInt64.toNat_mod, harea, hsize, Nat.mul_mod_right]
    rfl
  have hbpp : payloadSize fb / (fb.width.toUInt64 * fb.height.toUInt64) = .ofNat bpp := by
    have hlt : bpp < 2 ^ 64 := by
      have hle : bpp ≤ (rawEntry fb).area * bpp := Nat.le_mul_of_pos_left _ hpos
      have hmax := (payloadSize fb).toNat_lt
      omega
    rw [← UInt64.toNat_inj, UInt64.toNat_div, harea, hsize, Nat.mul_div_cancel_left bpp hpos,
      UInt64.toNat_ofNat', Nat.mod_eq_of_lt hlt]
  unfold frameBufferToMat
  by_cases hempty : fb.bytes = []
  · have hzero : bpp = 0 := by
      have h0 : (rawEntry fb).area * bpp = 0 := by
        rw [← hsize, payloadSize, hempty]
        rfl
      exact (Nat.mul_eq_zero.mp h0).resolve_left hpos.ne'
    rw [if_pos (.inr (.inr hempty)), hzero]
    rfl
  · have hshape : ¬ (fb.width = 0 ∨ fb.height = 0 ∨ fb.bytes = []) := by
      rintro (hw | hh | he)
      · exact hne (by rw [hw]; exact UInt64.zero_mul)
      · exact hne (by rw [hh]; exact UInt64.mul_zero)
      · exact hempty he
    have hexact : ¬ (fb.width.toUInt64 * fb.height.toUInt64 = 0 ∨
        payloadSize fb % (fb.width.toUInt64 * fb.height.toUInt64) ≠ 0) :=
      fun h => h.elim hne fun hn => hn hdvd
    rw [if_neg hshape]
    dsimp only
    rw [if_neg hexact, Option.map_map, hbpp]
    exact Option.map_id'

theorem savedAs_iff (hpos : 0 < (rawEntry fb).area)
    (hsize : (payloadSize fb).toNat = (rawEntry fb).area * bpp) {channels bits : ℕ} :
    SavedAs fb channels bits ↔
      ∃ type, CvType.ofBpp (.ofNat bpp) = some type ∧ type.channels = channels ∧ type.bits = bits := by
  rw [← frameBufferToMat_type hpos hsize]
  simp [SavedAs, Option.map_eq_some_iff]

/-- The viewer always has one channel, and takes two bytes per pixel or more for 16 bits. -/
theorem viewedAs_iff {channels : ℕ} {is16bit : Bool} :
    ViewedAs fb channels is16bit ↔ payloadSize fb = 0 ∨ channels = 1 ∧
      decide (fb.width.toUInt64 * fb.height.toUInt64 * 2 ≤ payloadSize fb) = is16bit := by
  constructor
  · intro h
    by_cases hempty : payloadSize fb = 0
    · exact .inl hempty
    · right
      have hread : Mapping.tryReadMappedRange ⟨fun _ => 0, payloadSize fb⟩ 0 (payloadSize fb) =
          some (0, payloadSize fb) := Mapping.tryReadMappedRange_of_le hempty (by simp)
      obtain ⟨hchannels, hbits⟩ := h ⟨fun _ => 0, payloadSize fb⟩ 0 _
        (by rw [readShmToUnifiedImage, rawRef, hread]; rfl)
      refine ⟨?_, hbits⟩
      have hone : (1 : Int32).toInt = channels := hchannels
      have hint : (1 : Int32).toInt = 1 := by decide
      omega
  · rintro (hempty | ⟨rfl, hbits⟩) ring offset image hread
    · rw [readShmToUnifiedImage, rawRef, Mapping.tryReadMappedRange, if_pos hempty] at hread
      cases hread
    · rw [readShmToUnifiedImage] at hread
      obtain ⟨range, _, rfl⟩ := Option.map_eq_some_iff.mp hread
      exact ⟨(by decide : (1 : Int32).toInt = 1), hbits⟩

/-- What the viewer compares the size with: twice the pixels, in 64 bits. -/
theorem toNat_twice_area :
    (fb.width.toUInt64 * fb.height.toUInt64 * 2).toNat = (rawEntry fb).area * 2 % 2 ^ 64 := by
  rw [UInt64.toNat_mul, toNat_area]
  rfl

end Sizes

/-- The components agree on a frame exactly when it has one channel at most, as far as the hub can
tell, and its pixels can be doubled in 64 bits. -/
theorem agreeOnLayout_iff (fb : FrameBuffer) : AgreeOnLayout fb ↔ OneChannelOnly fb := by
  have hlt := (payloadSize fb).toNat_lt
  constructor
  · intro h bpp hpos hsize hbpp
    have hinferred := inferred_of_bpp hpos hsize
    rw [if_pos hbpp] at hinferred
    have hnat : (inferOpenCvChannelsAndStep (rawEntry fb)).1.toNat = bpp % 2 ^ 32 := by
      rw [hinferred, UInt32.toNat_ofNat', Nat.mod_mod]
    have hne : (inferOpenCvChannelsAndStep (rawEntry fb)).1 ≠ 0 := by
      intro h0
      rw [h0, UInt32.toNat_zero] at hnat
      omega
    obtain ⟨hsaved, hviewed⟩ := h.channels hne
    rw [hnat] at hsaved hviewed
    obtain ⟨type, htype, hchannels, hbits⟩ := (savedAs_iff hpos hsize).mp hsaved
    have hpayload : payloadSize fb ≠ 0 := by
      intro h0
      rw [h0, UInt64.toNat_zero] at hsize
      have hzero := (Nat.mul_eq_zero.mp hsize.symm).resolve_left hpos.ne'
      omega
    obtain ⟨hone, hplain⟩ := (viewedAs_iff.mp hviewed).resolve_left hpayload
    have hbpp_one : bpp = 1 := by
      have hnat := congrArg UInt64.toNat (CvType.bpp_eq_one htype (hchannels.trans hone) hbits)
      have hle : bpp ≤ (rawEntry fb).area * bpp := Nat.le_mul_of_pos_left _ hpos
      rw [UInt64.toNat_ofNat', UInt64.toNat_one] at hnat
      omega
    subst hbpp_one
    rw [decide_eq_false_iff_not, UInt64.le_iff_toNat_le, toNat_twice_area] at hplain
    exact ⟨rfl, by omega⟩
  · intro h
    constructor
    case channels =>
      intro hne
      have hlayout : 0 < (rawEntry fb).area ∧ (rawEntry fb).area ∣ (rawEntry fb).payloadSize.toNat := by
        by_contra hno
        rw [CameraRawShmSlot.inferOpenCvChannelsAndStep_eq, if_neg fun hc => hno hc.1] at hne
        exact hne rfl
      obtain ⟨hpos, bpp, hsize⟩ := hlayout
      replace hsize : (payloadSize fb).toNat = (rawEntry fb).area * bpp := hsize
      have hinferred := inferred_of_bpp hpos hsize
      have hbpp : bpp % 2 ^ 32 = 1 ∨ bpp % 2 ^ 32 = 3 ∨ bpp % 2 ^ 32 = 4 := by
        by_contra hno
        exact hne (hinferred.trans (if_neg hno))
      obtain ⟨rfl, hsmall⟩ := h bpp hpos hsize hbpp
      have hone : (inferOpenCvChannelsAndStep (rawEntry fb)).1.toNat = 1 := by
        rw [hinferred]
        rfl
      rw [hone]
      refine ⟨(savedAs_iff hpos hsize).mpr ⟨.cv8UC1, rfl, rfl, rfl⟩, viewedAs_iff.mpr (.inr ⟨rfl, ?_⟩)⟩
      rw [decide_eq_false_iff_not, UInt64.le_iff_toNat_le, toNat_twice_area]
      omega
    case sixteenBit =>
      intro hpos hsize
      refine ⟨(savedAs_iff hpos hsize).mpr ⟨.cv16UC1, rfl, rfl, rfl⟩, viewedAs_iff.mpr (.inr ⟨rfl, ?_⟩)⟩
      rw [decide_eq_true_iff, UInt64.le_iff_toNat_le, toNat_twice_area, hsize]
      exact Nat.mod_le _ _

/-- One pixel of three bytes: an 8-bit image of three channels to the hub and the saver, and one
channel of 16 bits to the viewer. -/
theorem colour_pixel_disagrees :
    inferOpenCvChannelsAndStep (rawEntry { bytes := [1, 2, 3], width := 1, height := 1 }) = (3, 3) ∧
      SavedAs { bytes := [1, 2, 3], width := 1, height := 1 } 3 8 ∧
      ViewedAs { bytes := [1, 2, 3], width := 1, height := 1 } 1 true ∧
      ¬ AgreeOnLayout { bytes := [1, 2, 3], width := 1, height := 1 } := by
  have hinferred : inferOpenCvChannelsAndStep
      (rawEntry { bytes := [1, 2, 3], width := 1, height := 1 }) = (3, 3) := by decide
  refine ⟨hinferred, ?_, viewedAs_iff.mpr (.inr ⟨rfl, by decide⟩), fun h => ?_⟩
  · exact ⟨_, rfl, rfl, rfl⟩
  · have hviewed := (h.channels (by rw [hinferred]; decide)).2
    rw [hinferred] at hviewed
    rcases viewedAs_iff.mp hviewed with hempty | ⟨hone, _⟩
    · exact absurd hempty (by decide)
    · exact absurd hone (by decide)

end Camera3D.Consumers
