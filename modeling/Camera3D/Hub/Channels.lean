import Camera3D.Hub.Depth
import Camera3D.Hub.Listing
import Camera3D.Ipc.Ranges

/-! The channels and the row step that the hub publishes for a frame. -/
namespace Camera3D.Hub
open Camera Ipc

theorem toNat_area (w h : UInt32) : (w.toUInt64 * h.toUInt64).toNat = w.toNat * h.toNat := by
  have hlt : w.toNat * h.toNat < 2 ^ 64 := by
    have hw := w.toNat_lt
    have hh := h.toNat_lt
    calc w.toNat * h.toNat ≤ 2 ^ 32 * h.toNat := Nat.mul_le_mul_right _ hw.le
      _ < 2 ^ 32 * 2 ^ 32 := Nat.mul_lt_mul_of_pos_left hh (by decide)
      _ = 2 ^ 64 := by decide
  rw [UInt64.toNat_mul, UInt32.toNat_toUInt64, UInt32.toNat_toUInt64, Nat.mod_eq_of_lt hlt]

namespace CameraRawShmSlot

/-- The pixels of the frame, as an exact number. -/
def area (e : CameraRawShmSlot) : ℕ := e.w.toNat * e.h.toNat

/-- The 32 bits that `InferOpenCvChannelsAndStep` keeps of the bytes per pixel. -/
def inferredBpp (e : CameraRawShmSlot) : ℕ := e.payloadSize.toNat / e.area % 2 ^ 32

theorem inferOpenCvChannelsAndStep_eq (e : CameraRawShmSlot) :
    inferOpenCvChannelsAndStep e =
      if (0 < e.area ∧ e.area ∣ e.payloadSize.toNat) ∧
          (e.inferredBpp = 1 ∨ e.inferredBpp = 3 ∨ e.inferredBpp = 4) then
        (.ofNat e.inferredBpp, e.w * .ofNat e.inferredBpp)
      else (0, 0) := by
  have harea : (e.w.toUInt64 * e.h.toUInt64).toNat = e.area := toNat_area e.w e.h
  have hzero : e.w = 0 ∨ e.h = 0 ↔ e.area = 0 := by
    rw [area, Nat.mul_eq_zero, ← UInt32.toNat_inj, ← UInt32.toNat_inj]
    rfl
  have hwrapped : e.w.toUInt64 * e.h.toUInt64 = 0 ↔ e.area = 0 := by
    rw [← UInt64.toNat_inj, harea]
    rfl
  have hdvd : e.payloadSize % (e.w.toUInt64 * e.h.toUInt64) = 0 ↔ e.area ∣ e.payloadSize.toNat := by
    rw [← UInt64.toNat_inj, UInt64.toNat_mod, harea, Nat.dvd_iff_mod_eq_zero]
    rfl
  have hbpp : (e.payloadSize / (e.w.toUInt64 * e.h.toUInt64)).toUInt32 = .ofNat e.inferredBpp := by
    rw [← UInt32.toNat_inj, UInt64.toNat_toUInt32, UInt64.toNat_div, harea, UInt32.toNat_ofNat']
    rw [inferredBpp, Nat.mod_mod]
  have hlt : e.inferredBpp < 2 ^ 32 := Nat.mod_lt _ (by decide)
  have hchannel : ∀ c < 2 ^ 32, UInt32.ofNat e.inferredBpp = .ofNat c ↔ e.inferredBpp = c := by
    intro c hc
    rw [← UInt32.toNat_inj, UInt32.toNat_ofNat', UInt32.toNat_ofNat', Nat.mod_eq_of_lt hlt,
      Nat.mod_eq_of_lt hc]
  have h1 : UInt32.ofNat e.inferredBpp = 1 ↔ e.inferredBpp = 1 := hchannel 1 (by decide)
  have h3 : UInt32.ofNat e.inferredBpp = 3 ↔ e.inferredBpp = 3 := hchannel 3 (by decide)
  have h4 : UInt32.ofNat e.inferredBpp = 4 ↔ e.inferredBpp = 4 := hchannel 4 (by decide)
  unfold inferOpenCvChannelsAndStep
  simp only [hbpp, hzero, hwrapped, ne_eq, hdvd, h1, h3, h4]
  by_cases hpos : e.area = 0
  · rw [if_pos hpos, if_neg fun h => h.1.1.ne' hpos]
  by_cases hexact : e.area ∣ e.payloadSize.toNat
  · rw [if_neg hpos, if_neg fun h => h.elim hpos fun hn => hn hexact]
    by_cases hlayout : e.inferredBpp = 1 ∨ e.inferredBpp = 3 ∨ e.inferredBpp = 4
    · have hsmall : ¬ (UInt32.ofNat e.inferredBpp = 0 ∨ 16 < UInt32.ofNat e.inferredBpp) := by
        rcases hlayout with h | h | h
        all_goals
          rw [h]
          decide
      rw [if_neg hsmall, if_pos hlayout, if_pos ⟨⟨Nat.pos_of_ne_zero hpos, hexact⟩, hlayout⟩]
    · rw [if_neg hlayout, ite_self, if_neg fun h => hlayout h.2]
  · rw [if_neg hpos, if_pos (.inr hexact), if_neg fun h => hexact h.1.2]

/-- The channels that are published are exact, the row step does not wrap, and both are 0 for a
frame that is no 8-bit image of 1, 3 or 4 channels. -/
structure ChannelsExact (e : CameraRawShmSlot) : Prop where
  channels : ∀ c : ℕ, (inferOpenCvChannelsAndStep e).1.toNat = c ∧ c ≠ 0 ↔
    e.w ≠ 0 ∧ e.h ≠ 0 ∧ e.payloadSize.toNat = e.w.toNat * e.h.toNat * c ∧ (c = 1 ∨ c = 3 ∨ c = 4)
  rowStepBytes : (inferOpenCvChannelsAndStep e).1 ≠ 0 →
    (inferOpenCvChannelsAndStep e).2.toNat = e.w.toNat * (inferOpenCvChannelsAndStep e).1.toNat ∧
      (inferOpenCvChannelsAndStep e).2.toNat * e.h.toNat = e.payloadSize.toNat
  unknown : (inferOpenCvChannelsAndStep e).1 = 0 → (inferOpenCvChannelsAndStep e).2 = 0

/-- A payload of less than `2 ^ 32` bytes leaves nothing to cut off. -/
theorem area_pos_iff (e : CameraRawShmSlot) : 0 < e.area ↔ e.w ≠ 0 ∧ e.h ≠ 0 := by
  rw [Nat.pos_iff_ne_zero, area, ne_eq, Nat.mul_eq_zero, not_or, ← UInt32.toNat_inj.ne,
    ← UInt32.toNat_inj.ne]
  rfl

/-- A row is not longer than the payload, so its length is not cut off. -/
theorem toNat_rowStepBytes {e : CameraRawShmSlot} (hpos : 0 < e.area)
    (hexact : e.payloadSize.toNat = e.area * e.inferredBpp) (hsize : e.payloadSize.toNat < 2 ^ 32)
    (hcut : (UInt32.ofNat e.inferredBpp).toNat = e.inferredBpp) :
    (e.w * UInt32.ofNat e.inferredBpp).toNat = e.w.toNat * e.inferredBpp := by
  have hh : 0 < e.h.toNat := Nat.pos_of_mul_pos_left hpos
  have hle : e.w.toNat * e.inferredBpp ≤ e.payloadSize.toNat :=
    calc e.w.toNat * e.inferredBpp ≤ e.w.toNat * e.inferredBpp * e.h.toNat :=
          Nat.le_mul_of_pos_right _ hh
      _ = e.payloadSize.toNat := by rw [hexact, area]; ring
  rw [UInt32.toNat_mul, hcut, Nat.mod_eq_of_lt (hle.trans_lt hsize)]

theorem channelsExact_of_lt {e : CameraRawShmSlot} (hsize : e.payloadSize.toNat < 2 ^ 32) :
    e.ChannelsExact := by
  have hbpp : e.inferredBpp = e.payloadSize.toNat / e.area :=
    Nat.mod_eq_of_lt ((Nat.div_le_self _ _).trans_lt hsize)
  have hne := e.area_pos_iff
  by_cases hlayout : (0 < e.area ∧ e.area ∣ e.payloadSize.toNat) ∧
      (e.inferredBpp = 1 ∨ e.inferredBpp = 3 ∨ e.inferredBpp = 4)
  · have heq := (inferOpenCvChannelsAndStep_eq e).trans (if_pos hlayout)
    obtain ⟨⟨hpos, hdvd⟩, hbytes⟩ := hlayout
    have hexact : e.payloadSize.toNat = e.area * e.inferredBpp := by
      rw [hbpp, Nat.mul_div_cancel' hdvd]
    have hcut : (UInt32.ofNat e.inferredBpp).toNat = e.inferredBpp := by
      rw [UInt32.toNat_ofNat']
      omega
    have hstep := toNat_rowStepBytes hpos hexact hsize hcut
    constructor
    case channels =>
      intro c
      rw [heq, hcut]
      constructor
      · rintro ⟨rfl, _⟩
        exact ⟨(hne.mp hpos).1, (hne.mp hpos).2, hexact, hbytes⟩
      · rintro ⟨_, _, hc, hlayout⟩
        have hbpp_eq : e.inferredBpp = c := Nat.eq_of_mul_eq_mul_left hpos (hexact.symm.trans hc)
        exact ⟨hbpp_eq, by omega⟩
    case rowStepBytes =>
      intro _
      rw [heq, hcut, hstep]
      refine ⟨rfl, ?_⟩
      rw [hexact, area]
      ring
    case unknown =>
      intro hzero
      rw [heq] at hzero
      have hbpp_zero : e.inferredBpp = 0 := hcut.symm.trans (congrArg UInt32.toNat hzero)
      omega
  · have heq := (inferOpenCvChannelsAndStep_eq e).trans (if_neg hlayout)
    constructor
    case channels =>
      intro c
      rw [heq]
      refine iff_of_false (fun h => h.2 h.1.symm) ?_
      rintro ⟨hw, hh, hc, hbytes⟩
      have hpos : 0 < e.area := hne.mpr ⟨hw, hh⟩
      have hbpp_eq : e.inferredBpp = c := by
        rw [hbpp, hc]
        exact Nat.mul_div_cancel_left c hpos
      exact hlayout ⟨⟨hpos, ⟨c, hc⟩⟩, hbpp_eq ▸ hbytes⟩
    case rowStepBytes => exact fun h => absurd (congrArg Prod.fst heq) h
    case unknown => exact fun _ => congrArg Prod.snd heq

end CameraRawShmSlot

namespace RingWriter

theorem writeFinal_slots {s s' : RingWriter} {firstFb : FrameBuffer} {out out' : CapturePublication}
    (h : s.writeFinal firstFb out = (s', .ok out')) : out'.cameraRawSlots = out.cameraRawSlots := by
  unfold writeFinal at h
  rcases he : s.tryWriteNextSlot firstFb with ⟨s₁, published⟩
  rw [he] at h
  cases published with
  | none => cases (Prod.mk.inj h).2
  | some published =>
    obtain rfl := Except.ok.inj (Prod.mk.inj h).2
    rfl

section Entries
variable {I : RingWriter → Prop} (hI : ∀ s fb, I s → I (s.tryWriteNextSlot fb).1)
  {P : CameraRawShmSlot → Prop} (hP : ∀ s layout mid j raw s' e, I s →
    s.writeFrame layout mid j raw = (s', .ok e) → P e)
include hI hP

theorem writeBurst_entries {s s' : RingWriter} (hs : I s) {layout : CameraRawShmSlot} {mid : String}
    {j : UInt32} {frames : List FrameBuffer} {slots : List CameraRawShmSlot}
    (h : s.writeBurst layout mid j frames = (s', .ok slots)) : ∀ e ∈ slots, P e := by
  induction frames generalizing s j slots with
  | nil =>
    obtain rfl := Except.ok.inj (Prod.mk.inj h).2
    exact fun e he => absurd he List.not_mem_nil
  | cons raw frames ih =>
    have hw := writeFrame_preserves hI hs layout mid j raw
    unfold writeBurst at h
    rcases he : s.writeFrame layout mid j raw with ⟨s₁, err | e⟩
    · rw [he] at h
      cases (Prod.mk.inj h).2
    · rw [he] at h hw
      dsimp only at h hw
      rcases hrest : s₁.writeBurst layout mid (j + 1) frames with ⟨s₂, err | rest⟩
      · rw [hrest] at h
        cases (Prod.mk.inj h).2
      · rw [hrest] at h
        obtain ⟨rfl, hslots⟩ := Prod.mk.inj h
        obtain rfl := Except.ok.inj hslots
        exact List.forall_mem_cons.mpr ⟨hP _ _ _ _ _ _ _ hs he, ih hw hrest⟩

theorem writeCameras_entries {s s' : RingWriter} (hs : I s) {burstsById : Bursts} {framesPer : UInt32}
    {cameras : List (String × CameraRawShmSlot)} {slots : List CameraRawShmSlot}
    (h : s.writeCameras burstsById framesPer cameras = (s', .ok slots)) : ∀ e ∈ slots, P e := by
  induction cameras generalizing s slots with
  | nil =>
    obtain rfl := Except.ok.inj (Prod.mk.inj h).2
    exact fun e he => absurd he List.not_mem_nil
  | cons camera cameras ih =>
    by_cases hfull : Full burstsById framesPer.toNat camera.1
    case neg =>
      obtain ⟨err, he⟩ := writeCameras_of_not_full s hfull cameras
      cases (Prod.mk.inj (h.symm.trans he)).2
    case pos =>
      obtain ⟨vec, hlook, hle⟩ := hfull
      have hw := writeBurst_preserves hI hs camera.2 camera.1 0 (vec.take framesPer.toNat)
      rw [writeCameras_of_full s hlook hle] at h
      rcases he : s.writeBurst camera.2 camera.1 0 (vec.take framesPer.toNat) with ⟨s₁, err | first⟩
      · rw [he] at h
        cases (Prod.mk.inj h).2
      · rw [he] at h hw
        dsimp only at h hw
        rcases hrest : s₁.writeCameras burstsById framesPer cameras with ⟨s₂, err | rest⟩
        · rw [hrest] at h
          cases (Prod.mk.inj h).2
        · rw [hrest] at h
          obtain ⟨rfl, hslots⟩ := Prod.mk.inj h
          obtain rfl := Except.ok.inj hslots
          exact List.forall_mem_append.mpr ⟨writeBurst_entries hI hP hs he, ih hw hrest⟩

/-- What holds of every entry that is written, holds of every entry that is published. -/
theorem writeMultiCaptureToShmLocked_entries {s s' : RingWriter} (hs : I s) {devices : List String}
    {layout : List CameraRawShmSlot} {clientId : UInt64} {burstsById : Bursts} {framesPer : UInt32}
    {withRec : Bool} {out : CapturePublication}
    (h : s.writeMultiCaptureToShmLocked devices layout clientId burstsById framesPer withRec =
      (s', .ok out)) : ∀ e ∈ out.cameraRawSlots, P e := by
  have hfirst : ∀ slots, (withFirst { clientCaptureId := clientId, cameraRawSlots := slots }).cameraRawSlots =
      slots := by
    intro slots
    cases slots <;> rfl
  unfold writeMultiCaptureToShmLocked at h
  by_cases hlen : layout.length ≠ devices.length
  · rw [if_pos hlen] at h
    cases (Prod.mk.inj h).2
  by_cases hk : framesPer = 0
  · rw [if_neg hlen, if_pos hk] at h
    cases (Prod.mk.inj h).2
  rw [if_neg hlen, if_neg hk] at h
  rcases he : s.writeCameras burstsById framesPer (devices.zip layout) with ⟨s₁, err | slots⟩
  · rw [he] at h
    cases (Prod.mk.inj h).2
  · rw [he] at h
    dsimp only at h
    have hslots := writeCameras_entries hI hP hs he
    rw [← hfirst slots] at hslots
    cases withRec with
    | false =>
      obtain rfl := Except.ok.inj (Prod.mk.inj h).2
      exact hslots
    | true =>
      rw [if_pos rfl] at h
      rw [writeFinal_slots h]
      exact hslots

end Entries

/-- The hub's ring at its default size. -/
structure DefaultRing (shm : ShmRingBuffer) : Prop where
  ring : HubRing shm
  capacity : shm.capacity = (kDefaultHubRingTotalBytes.toNat - 3088) / 64

theorem created_defaultRing : DefaultRing created.shm where
  ring := created_hubRing
  capacity := by
    obtain ⟨m, hm, hc⟩ := created_mapping
    have hsize : m.mappedSize = kDefaultHubRingTotalBytes := by
      have hinit : some m = some zeroed.initialise := hm.symm
      rw [Option.some.inj hinit]
      rfl
    rw [ShmRingBuffer.capacity, hm, Option.elim_some, Mapping.capacity, Mapping.payloadStart,
      hc.slotCount_eq, hsize]

theorem DefaultRing.tryWriteNextSlot {s : RingWriter} (h : DefaultRing s.shm) (fb : FrameBuffer) :
    DefaultRing (s.tryWriteNextSlot fb).1.shm := by
  refine ⟨h.ring.tryWriteNextSlot fb, ?_⟩
  rcases tryWriteNextSlot_cases h.ring fb with ⟨he, _⟩ | ⟨s', seq, slot, he, hw⟩
  · rw [he]
    exact h.capacity
  · rw [he]
    exact hw.capacity_eq.trans h.capacity

/-- What is read back of a written frame fits a slot. -/
theorem writeFrame_payloadSize_le {s s' : RingWriter} (hr : HubRing s.shm) {layout : CameraRawShmSlot}
    {mid : String} {j : UInt32} {raw : FrameBuffer} {e : CameraRawShmSlot}
    (h : s.writeFrame layout mid j raw = (s', .ok e)) : e.payloadSize.toNat ≤ s.shm.capacity := by
  unfold writeFrame at h
  rcases tryWriteNextSlot_cases hr raw with ⟨he, _⟩ | ⟨s₁, seq, slot, he, hw⟩
  · rw [he] at h
    cases (Prod.mk.inj h).2
  · rw [he] at h
    dsimp only at h
    cases hread : s₁.shm.tryReadSlot slot with
    | none =>
      rw [hread] at h
      cases (Prod.mk.inj h).2
    | some v =>
      rw [hread] at h
      obtain rfl := Except.ok.inj (Prod.mk.inj h).2
      obtain ⟨m, hm, hwf, _⟩ := hw.ring
      have hcap : m.capacity = s.shm.capacity := by
        rw [← hw.capacity_eq, ShmRingBuffer.capacity, hm, Option.elim_some]
      rw [ShmRingBuffer.tryReadSlot, hm, Option.bind_some] at hread
      obtain ⟨_, _, hlen, hin, _⟩ := Mapping.tryReadSlot_inPayload hwf hread
      rw [← hcap, ← hlen]
      exact hin.size

/-- Every entry of every publication in a ring of the default size has exact channels. -/
theorem published_channels_exact {s s' : RingWriter} (hs : DefaultRing s.shm) {devices : List String}
    {layout : List CameraRawShmSlot} {clientId : UInt64} {burstsById : Bursts} {framesPer : UInt32}
    {withRec : Bool} {out : CapturePublication}
    (hok : s.writeMultiCaptureToShmLocked devices layout clientId burstsById framesPer withRec =
      (s', .ok out)) : ∀ e ∈ out.cameraRawSlots, e.ChannelsExact := by
  refine writeMultiCaptureToShmLocked_entries (I := fun s => DefaultRing s.shm)
    (fun _ fb h => h.tryWriteNextSlot fb) ?_ hs hok
  intro s layout mid j raw s' e h he
  have hle := writeFrame_payloadSize_le h.ring he
  rw [h.capacity] at hle
  refine CameraRawShmSlot.channelsExact_of_lt (hle.trans_lt ?_)
  decide

theorem published_channels_exact_short_burst :
    ∃ s' out, created.writeMultiCaptureToShmLocked ["cam-1"] [{}] 1 (burst 2) 2 true =
      (s', .ok out) ∧ out.cameraRawSlots.length = 2 ∧ ∀ e ∈ out.cameraRawSlots, e.ChannelsExact := by
  have hok : ((created.writeMultiCaptureToShmLocked ["cam-1"] [{}] 1 (burst 2) 2 true).2.map
      fun out => out.cameraRawSlots.length == 2).toOption = some true := by
    decide +kernel
  obtain ⟨s', out, he, hlen⟩ := exists_ok_of_map hok
  exact ⟨s', out, he, by simpa using hlen, published_channels_exact created_defaultRing he⟩

end RingWriter
end Camera3D.Hub
