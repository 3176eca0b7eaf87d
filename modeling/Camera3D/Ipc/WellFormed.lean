import Camera3D.Ipc.RingBuffer
import Mathlib.Tactic.SplitIfs

/-! The layout invariant of a created ring, and what one write does to its slots. -/
namespace Camera3D.Ipc
open Memory

/-- The image a write publishes: the arguments of `TryWriteNextSlot`. -/
structure Image where
  bytes : List UInt8
  width : UInt32
  height : UInt32
  pixelFormat : UInt32
  deriving DecidableEq

/-- What a consumer can see of a slot. -/
structure Cell where
  seq : UInt64
  image : Image
  deriving DecidableEq

namespace Mapping

def slotCount (m : Mapping) : ℕ := m.global.slotCount.toNat

/-- First byte of the payload area, as an exact natural number. -/
def payloadStart (m : Mapping) : ℕ := 16 + 48 * m.slotCount

def capacity (m : Mapping) : ℕ := (m.mappedSize.toNat - m.payloadStart) / m.slotCount

def payloadBase (m : Mapping) (i : ℕ) : ℕ := m.payloadStart + i * m.capacity

def cell (m : Mapping) (i : UInt32) : Cell where
  seq := (m.slot i).seqPublish
  image := ⟨m.payload i, (m.slot i).width, (m.slot i).height, (m.slot i).pixelFormat⟩

/-- A slot was never written, or its payload lies in the region reserved for it. -/
def SlotPlaced (m : Mapping) (i : UInt32) : Prop :=
  ((m.slot i).payloadOffset = 0 ∧ (m.slot i).payloadSize = 0) ∨
    ((m.slot i).payloadOffset.toNat = m.payloadBase i.toNat ∧
      (m.slot i).payloadSize.toNat ≤ m.capacity)

structure WellFormed (m : Mapping) : Prop where
  magic : m.global.magic = kMagic
  slots : 0 < m.slotCount
  fits : m.payloadStart ≤ m.mappedSize.toNat
  placed : ∀ i : UInt32, i.toNat < m.slotCount → m.SlotPlaced i

theorem payloadBase_add_capacity_le_of_fits {m : Mapping} (hfits : m.payloadStart ≤ m.mappedSize.toNat)
    {i : ℕ} (hi : i < m.slotCount) : m.payloadBase i + m.capacity ≤ m.mappedSize.toNat := by
  have hmul : (i + 1) * m.capacity ≤ m.slotCount * m.capacity := Nat.mul_le_mul_right _ hi
  have hdiv : m.slotCount * m.capacity ≤ m.mappedSize.toNat - m.payloadStart :=
    Nat.mul_div_le _ _
  rw [Nat.add_one_mul] at hmul
  unfold payloadBase
  omega

theorem payloadBase_add_capacity_le {m : Mapping} (h : m.WellFormed) {i : ℕ}
    (hi : i < m.slotCount) : m.payloadBase i + m.capacity ≤ m.mappedSize.toNat :=
  payloadBase_add_capacity_le_of_fits h.fits hi

theorem payloadBase_separated (m : Mapping) {i j : ℕ} (hij : i < j) :
    m.payloadBase i + m.capacity ≤ m.payloadBase j := by
  have hmul : (i + 1) * m.capacity ≤ j * m.capacity := Nat.mul_le_mul_right _ hij
  rw [Nat.add_one_mul] at hmul
  unfold payloadBase
  omega

theorem slotAddr_add_le (m : Mapping) {i : UInt32} (hi : i.toNat < m.slotCount) :
    16 ≤ slotAddr i ∧ slotAddr i + 48 ≤ m.payloadStart := by
  unfold slotAddr globalHeaderBytes slotHeaderBytes payloadStart
  omega

theorem slotAddr_separated {i j : UInt32} (hij : i ≠ j) :
    slotAddr i + 48 ≤ slotAddr j ∨ slotAddr j + 48 ≤ slotAddr i := by
  have hne : i.toNat ≠ j.toNat := fun h => hij (UInt32.toNat_inj.mp h)
  unfold slotAddr globalHeaderBytes slotHeaderBytes
  omega

theorem headersEnd_toNat (n : UInt32) : (headersEnd n).toNat = 16 + 48 * n.toNat := by
  have hn := n.toNat_lt
  simp only [headersEnd, UInt64.toNat_add, UInt64.toNat_mul, UInt32.toNat_toUInt64,
    UInt64.reduceToNat]
  omega

theorem headersEnd_le {m : Mapping} :
    headersEnd m.global.slotCount ≤ m.mappedSize ↔ m.payloadStart ≤ m.mappedSize.toNat := by
  rw [UInt64.le_iff_toNat_le, headersEnd_toNat]
  rfl

theorem perSlot_toNat {m : Mapping} (hfits : m.payloadStart ≤ m.mappedSize.toNat) :
    m.perSlot.toNat = m.capacity := by
  have he : (headersEnd m.global.slotCount).toNat = m.payloadStart := headersEnd_toNat _
  rw [perSlot, UInt64.toNat_div, UInt64.toNat_sub_of_le _ _ (headersEnd_le.mpr hfits), he]
  simp only [capacity, slotCount, UInt32.toNat_toUInt64]

/-- `payload_base`, which does not wrap while the headers fit. -/
theorem payloadBase_toNat {m : Mapping} (hfits : m.payloadStart ≤ m.mappedSize.toNat) {i : UInt32}
    (hi : i.toNat < m.slotCount) :
    (headersEnd m.global.slotCount + i.toUInt64 * m.perSlot).toNat = m.payloadBase i.toNat := by
  have hlt : m.payloadBase i.toNat < 2 ^ 64 := by
    have hle := payloadBase_add_capacity_le_of_fits hfits hi
    have hm := m.mappedSize.toNat_lt
    omega
  have he : (headersEnd m.global.slotCount).toNat = m.payloadStart := headersEnd_toNat _
  unfold payloadBase at hlt ⊢
  rw [UInt64.toNat_add, UInt64.toNat_mul, he, perSlot_toNat hfits, UInt32.toNat_toUInt64,
    Nat.mod_eq_of_lt (a := i.toNat * m.capacity) (by omega), Nat.mod_eq_of_lt hlt]

theorem toNat_ofNat_of_lt {n : ℕ} (h : n < 2 ^ 64) : (UInt64.ofNat n).toNat = n := by
  rw [UInt64.toNat_ofNat', Nat.mod_eq_of_lt h]

/-- The mapping after a payload has been published in slot `idx`. -/
def afterWrite (m : Mapping) (idx : UInt32) (img : Image) : Mapping where
  mappedSize := m.mappedSize
  bytes := publishHeader (write m.bytes (m.payloadBase idx.toNat) img.bytes) (slotAddr idx)
    ((m.slot idx).seqPublish + 1) img.width img.height img.pixelFormat
    (.ofNat (m.payloadBase idx.toNat)) (.ofNat img.bytes.length)

def tryWriteImage (m : Mapping) (sNext : UInt32) (img : Image) : WriteResult :=
  m.tryWriteNextSlot sNext img.bytes img.width img.height img.pixelFormat

def nextIndex (m : Mapping) (sNext : UInt32) : UInt32 := sNext % m.global.slotCount

theorem nextIndex_lt {m : Mapping} (h : m.WellFormed) (c : UInt32) :
    (m.nextIndex c).toNat < m.slotCount := by
  rw [nextIndex, UInt32.toNat_mod]
  exact Nat.mod_lt _ h.slots

section Write
variable {m : Mapping} {c : UInt32} {img : Image}

theorem tryWriteNextSlot_refused (h : m.WellFormed) (hp : m.capacity < img.bytes.length) :
    m.tryWriteImage c img = ⟨m, c + 1, none⟩ := by
  simp only [tryWriteImage, tryWriteNextSlot, h.magic, ne_eq, not_true_eq_false, if_false,
    perSlot_toNat h.fits, if_pos hp]

theorem tryWriteNextSlot_fits (h : m.WellFormed) (hp : img.bytes.length ≤ m.capacity) :
    m.tryWriteImage c img =
      ⟨m.afterWrite (m.nextIndex c) img, c + 1,
        some ((m.slot (m.nextIndex c)).seqPublish + 1, m.nextIndex c)⟩ := by
  have hbase := payloadBase_toNat h.fits (nextIndex_lt h c)
  have hb : headersEnd m.global.slotCount + (m.nextIndex c).toUInt64 * m.perSlot =
      .ofNat (m.payloadBase (m.nextIndex c).toNat) := by
    rw [← hbase, UInt64.ofNat_toNat]
  simp only [tryWriteImage, tryWriteNextSlot, h.magic, ne_eq, not_true_eq_false, if_false,
    perSlot_toNat h.fits, if_neg (Nat.not_lt.mpr hp)]
  change (⟨⟨publishHeader (write m.bytes (headersEnd m.global.slotCount +
    (m.nextIndex c).toUInt64 * m.perSlot).toNat img.bytes) _ _ _ _ _ (headersEnd
    m.global.slotCount + (m.nextIndex c).toUInt64 * m.perSlot) _, _⟩, _, _⟩ : WriteResult) = _
  rw [hbase, hb]
  rfl

end Write

section AfterWrite
variable {m : Mapping} {idx : UInt32} {img : Image}

/-- The two ranges a write may touch: its slot header and its payload bytes. -/
theorem afterWrite_bytes_of_outside {x : ℕ}
    (hh : x < slotAddr idx ∨ slotAddr idx + 48 ≤ x)
    (hp : x < m.payloadBase idx.toNat ∨ m.payloadBase idx.toNat + img.bytes.length ≤ x) :
    (m.afterWrite idx img).bytes x = m.bytes x := by
  simp only [afterWrite, publishHeader]
  rw [store64_of_outside, store64_of_outside, store64_of_outside, store32_of_outside,
    store32_of_outside, store32_of_outside, write_of_outside]
  all_goals omega

theorem load_publishHeader (b : Mem) (a : ℕ) (seq off size : UInt64) (w h f : UInt32) :
    ShmSlotHeader.load (publishHeader b a seq w h f off size) a =
      { ShmSlotHeader.load b a with
        seqPublish := seq, width := w, height := h, pixelFormat := f,
        payloadOffset := off, payloadSize := size } := by
  simp (disch := omega) only [ShmSlotHeader.load, publishHeader, load32_store32, load64_store64,
    load32_store32_disjoint, load32_store64_disjoint, load64_store32_disjoint,
    load64_store64_disjoint]

theorem slotHeader_congr {b b' : Mem} {a : ℕ} (h : ∀ x, a ≤ x → x < a + 48 → b x = b' x) :
    ShmSlotHeader.load b a = ShmSlotHeader.load b' a := by
  have h64 : ∀ d, d + 8 ≤ 48 → load64 b (a + d) = load64 b' (a + d) := fun d hd =>
    load64_congr fun x _ _ => h x (by omega) (by omega)
  have h32 : ∀ d, d + 4 ≤ 48 → load32 b (a + d) = load32 b' (a + d) := fun d hd =>
    load32_congr fun x _ _ => h x (by omega) (by omega)
  have h0 : load64 b a = load64 b' a := h64 0 (by omega)
  simp only [ShmSlotHeader.load, h0, h64 24 (by omega), h64 32 (by omega), h64 40 (by omega),
    h32 8 (by omega), h32 12 (by omega), h32 16 (by omega), h32 20 (by omega)]

theorem global_congr {b b' : Mem} (h : ∀ x, x < 16 → b x = b' x) :
    ShmGlobalHeader.load b = ShmGlobalHeader.load b' := by
  have h32 : ∀ d, d + 4 ≤ 16 → load32 b d = load32 b' d := fun d hd =>
    load32_congr fun x _ _ => h x (by omega)
  simp only [ShmGlobalHeader.load, h32 0 (by omega), h32 4 (by omega), h32 8 (by omega),
    h32 12 (by omega)]

/-- The header of slot `i` and the payload region reserved for it. -/
def SlotBytes (m : Mapping) (i : UInt32) (x : ℕ) : Prop :=
  (slotAddr i ≤ x ∧ x < slotAddr i + 48) ∨
    (m.payloadBase i.toNat ≤ x ∧ x < m.payloadBase i.toNat + m.capacity)

/-- A byte outside slot `i`: the global header, another slot, or outside the mapping. -/
def Foreign (m : Mapping) (i : UInt32) (x : ℕ) : Prop :=
  x < 16 ∨ m.mappedSize.toNat ≤ x ∨
    ∃ j : UInt32, j.toNat < m.slotCount ∧ j ≠ i ∧ m.SlotBytes j x

theorem not_slotBytes_of_foreign (h : m.WellFormed) (hi : idx.toNat < m.slotCount) {x : ℕ}
    (hx : m.Foreign idx x) : ¬ m.SlotBytes idx x := by
  have ha := slotAddr_add_le m hi
  have hb := payloadBase_add_capacity_le h hi
  have hs : m.payloadStart ≤ m.payloadBase idx.toNat := Nat.le_add_right _ _
  rcases hx with hx | hx | ⟨j, hj, hne, hx⟩
  · rintro (hc | hc) <;> omega
  · rintro (hc | hc) <;> omega
  · have hj' := slotAddr_add_le m hj
    have hsj : m.payloadStart ≤ m.payloadBase j.toNat := Nat.le_add_right _ _
    have hh := slotAddr_separated hne
    have hne' : j.toNat ≠ idx.toNat := fun e => hne (UInt32.toNat_inj.mp e)
    rcases Nat.lt_or_gt_of_ne hne' with hlt | hlt
    · have hp := payloadBase_separated m hlt
      rcases hx with hx | hx <;> rintro (hc | hc) <;> omega
    · have hp := payloadBase_separated m hlt
      rcases hx with hx | hx <;> rintro (hc | hc) <;> omega

theorem afterWrite_bytes (hp : img.bytes.length ≤ m.capacity) {x : ℕ}
    (hx : ¬ m.SlotBytes idx x) : (m.afterWrite idx img).bytes x = m.bytes x := by
  obtain ⟨hh, hr⟩ := not_or.mp hx
  refine afterWrite_bytes_of_outside ?_ ?_
  · omega
  · omega

theorem afterWrite_global (hi : idx.toNat < m.slotCount) :
    (m.afterWrite idx img).global = m.global := by
  refine global_congr fun x hx => afterWrite_bytes_of_outside ?_ ?_
  · have := (slotAddr_add_le m hi).1
    omega
  · left
    unfold payloadBase payloadStart
    omega

theorem afterWrite_capacity (hi : idx.toNat < m.slotCount) :
    (m.afterWrite idx img).capacity = m.capacity := by
  simp only [capacity, payloadStart, slotCount, afterWrite_global hi]
  rfl

theorem afterWrite_payloadBase (hi : idx.toNat < m.slotCount) (j : ℕ) :
    (m.afterWrite idx img).payloadBase j = m.payloadBase j := by
  simp only [payloadBase, afterWrite_capacity hi, payloadStart, slotCount, afterWrite_global hi]

theorem afterWrite_slot_self (hi : idx.toNat < m.slotCount) :
    (m.afterWrite idx img).slot idx =
      { m.slot idx with
        seqPublish := (m.slot idx).seqPublish + 1
        width := img.width
        height := img.height
        pixelFormat := img.pixelFormat
        payloadOffset := .ofNat (m.payloadBase idx.toNat)
        payloadSize := .ofNat img.bytes.length } := by
  have hold : ShmSlotHeader.load (write m.bytes (m.payloadBase idx.toNat) img.bytes)
      (slotAddr idx) = m.slot idx := by
    refine slotHeader_congr fun x _ hx => write_of_outside _ (.inl ?_)
    have := (slotAddr_add_le m hi).2
    unfold payloadBase
    omega
  simp only [slot, afterWrite, load_publishHeader, hold]

theorem afterWrite_slot_of_ne {j : UInt32} (hj : j.toNat < m.slotCount)
    (hij : j ≠ idx) : (m.afterWrite idx img).slot j = m.slot j := by
  refine slotHeader_congr fun x hx hx' => afterWrite_bytes_of_outside ?_ ?_
  · have := slotAddr_separated hij
    omega
  · have := (slotAddr_add_le m hj).2
    unfold payloadBase
    omega

theorem afterWrite_region_of_ne (hp : img.bytes.length ≤ m.capacity)
    (hi : idx.toNat < m.slotCount) {j x : ℕ} (hij : j ≠ idx.toNat)
    (hx : m.payloadBase j ≤ x) (hx' : x < m.payloadBase j + m.capacity) :
    (m.afterWrite idx img).bytes x = m.bytes x := by
  refine afterWrite_bytes_of_outside ?_ ?_
  · have := (slotAddr_add_le m hi).2
    unfold payloadBase at hx
    omega
  · rcases Nat.lt_or_gt_of_ne hij with h | h
    · have := payloadBase_separated m h
      omega
    · have := payloadBase_separated m h
      omega

theorem afterWrite_payload_self (h : m.WellFormed) (hp : img.bytes.length ≤ m.capacity)
    (hi : idx.toNat < m.slotCount) :
    (m.afterWrite idx img).payload idx = img.bytes := by
  have hle := payloadBase_add_capacity_le h hi
  have hm := m.mappedSize.toNat_lt
  have hbase : (UInt64.ofNat (m.payloadBase idx.toNat)).toNat = m.payloadBase idx.toNat :=
    toNat_ofNat_of_lt (by omega)
  have hlen : (UInt64.ofNat img.bytes.length).toNat = img.bytes.length :=
    toNat_ofNat_of_lt (by omega)
  rw [Mapping.payload, afterWrite_slot_self hi]
  simp only [hbase, hlen]
  rw [← read_write_self m.bytes (m.payloadBase idx.toNat) img.bytes, length_read]
  refine read_congr fun x hx _ => ?_
  have ha := (slotAddr_add_le m hi).2
  unfold payloadBase at hx
  simp only [afterWrite, publishHeader]
  rw [store64_of_outside, store64_of_outside, store64_of_outside, store32_of_outside,
    store32_of_outside, store32_of_outside]
  all_goals omega

theorem afterWrite_payload_of_ne (h : m.WellFormed) (hp : img.bytes.length ≤ m.capacity)
    (hi : idx.toNat < m.slotCount) {j : UInt32} (hj : j.toNat < m.slotCount) (hij : j ≠ idx) :
    (m.afterWrite idx img).payload j = m.payload j := by
  have hne : j.toNat ≠ idx.toNat := fun e => hij (UInt32.toNat_inj.mp e)
  rw [Mapping.payload, afterWrite_slot_of_ne hj hij, Mapping.payload]
  rcases h.placed j hj with ⟨_, hs⟩ | ⟨ho, hs⟩
  · simp only [hs, UInt64.toNat_zero]
    rfl
  · refine read_congr fun x hx hx' => afterWrite_region_of_ne hp hi hne ?_ ?_
    · omega
    · omega

theorem afterWrite_wellFormed (h : m.WellFormed) (hp : img.bytes.length ≤ m.capacity)
    (hi : idx.toNat < m.slotCount) :
    (m.afterWrite idx img).WellFormed := by
  have hg : (m.afterWrite idx img).global = m.global := afterWrite_global hi
  have hle := payloadBase_add_capacity_le h hi
  have hm := m.mappedSize.toNat_lt
  refine ⟨by rw [hg, h.magic], by simpa only [slotCount, hg] using h.slots, ?_, ?_⟩
  · simp only [payloadStart, slotCount, hg]
    exact h.fits
  · intro j hj
    replace hj : j.toNat < m.slotCount := by simpa only [slotCount, hg] using hj
    unfold SlotPlaced
    rw [afterWrite_payloadBase hi, afterWrite_capacity hi]
    by_cases hij : j = idx
    · subst hij
      right
      rw [afterWrite_slot_self hj]
      exact ⟨toNat_ofNat_of_lt (by omega),
        (toNat_ofNat_of_lt (by omega)).trans_le hp⟩
    · rw [afterWrite_slot_of_ne hj hij]
      exact h.placed j hj

theorem afterWrite_cell (h : m.WellFormed) (hp : img.bytes.length ≤ m.capacity)
    (hi : idx.toNat < m.slotCount) {j : UInt32} (hj : j.toNat < m.slotCount) :
    (m.afterWrite idx img).cell j =
      if j = idx then ⟨(m.cell idx).seq + 1, img⟩
      else m.cell j := by
  split_ifs with hij
  · subst hij
    simp only [cell, afterWrite_slot_self hj, afterWrite_payload_self h hp hj]
  · simp only [cell, afterWrite_slot_of_ne hj hij, afterWrite_payload_of_ne h hp hi hj hij]

end AfterWrite

/-- A successful write, as the proofs about runs of writes see it. -/
structure Wrote (m : Mapping) (c : UInt32) (img : Image) (m' : Mapping) (seq : UInt64)
    (idx : UInt32) : Prop where
  wellFormed : m'.WellFormed
  global_eq : m'.global = m.global
  mappedSize_eq : m'.mappedSize = m.mappedSize
  bytes_eq : ∀ x, ¬ m.SlotBytes idx x → m'.bytes x = m.bytes x
  fits : img.bytes.length ≤ m.capacity
  idx_eq : idx = m.nextIndex c
  seq_eq : seq = (m.cell idx).seq + 1
  self : m'.cell idx = ⟨seq, img⟩
  others : ∀ j : UInt32, j.toNat < m.slotCount → j ≠ idx → m'.cell j = m.cell j

theorem Wrote.slotCount_eq {m m' : Mapping} {c idx : UInt32} {img : Image} {seq : UInt64}
    (w : Wrote m c img m' seq idx) : m'.slotCount = m.slotCount := by
  rw [slotCount, w.global_eq, slotCount]

theorem Wrote.capacity_eq {m m' : Mapping} {c idx : UInt32} {img : Image} {seq : UInt64}
    (w : Wrote m c img m' seq idx) : m'.capacity = m.capacity := by
  simp only [capacity, payloadStart, w.slotCount_eq, w.mappedSize_eq]

theorem wrote_afterWrite {m : Mapping} (h : m.WellFormed) (c : UInt32) {img : Image}
    (hp : img.bytes.length ≤ m.capacity) :
    Wrote m c img (m.afterWrite (m.nextIndex c) img) ((m.slot (m.nextIndex c)).seqPublish + 1)
      (m.nextIndex c) where
  wellFormed := afterWrite_wellFormed h hp (nextIndex_lt h c)
  global_eq := afterWrite_global (nextIndex_lt h c)
  mappedSize_eq := rfl
  bytes_eq _ hx := afterWrite_bytes hp hx
  fits := hp
  idx_eq := rfl
  seq_eq := rfl
  self := by
    rw [afterWrite_cell h hp (nextIndex_lt h c) (nextIndex_lt h c), if_pos rfl]
    rfl
  others j hj hne := by rw [afterWrite_cell h hp (nextIndex_lt h c) hj, if_neg hne]

/-- Everything a write can do: refuse an oversize payload, or publish it. -/
theorem tryWriteImage_cases {m : Mapping} (h : m.WellFormed) (c : UInt32) (img : Image) :
    (m.tryWriteImage c img = ⟨m, c + 1, none⟩ ∧ m.capacity < img.bytes.length) ∨
      ∃ m' seq idx, m.tryWriteImage c img = ⟨m', c + 1, some (seq, idx)⟩ ∧
        Wrote m c img m' seq idx := by
  rcases Nat.lt_or_ge m.capacity img.bytes.length with hp | hp
  · exact .inl ⟨tryWriteNextSlot_refused h hp, hp⟩
  · exact .inr ⟨_, _, _, tryWriteNextSlot_fits h hp, wrote_afterWrite h c hp⟩

/-- A slot is readable exactly when it was written, with a non-empty payload. -/
theorem tryReadSlot_eq {m : Mapping} (h : m.WellFormed) (i : UInt32) :
    m.tryReadSlot i =
      if i.toNat < m.slotCount ∧ (m.cell i).seq ≠ 0 ∧ (m.cell i).image.bytes ≠ [] then
        some ⟨m.slot i, (m.slot i).payloadOffset, (m.slot i).payloadSize⟩
      else none := by
  have hlen : (m.cell i).image.bytes = [] ↔ (m.slot i).payloadSize = 0 := by
    rw [← List.length_eq_zero_iff, cell, Mapping.payload, length_read, ← UInt64.toNat_inj,
      UInt64.toNat_zero]
  have hsc : m.global.slotCount.toNat = m.slotCount := rfl
  unfold tryReadSlot
  rw [if_neg (not_not.mpr h.magic)]
  simp only [UInt32.le_iff_toNat_le, hsc]
  by_cases hi : i.toNat < m.slotCount
  · rw [if_neg (Nat.not_le.mpr hi)]
    by_cases hz : (m.slot i).seqPublish = 0 ∨ (m.slot i).payloadSize = 0
    · rw [if_pos hz, if_neg]
      rintro ⟨_, hs, hp⟩
      exact hz.elim hs fun he => hp (hlen.mpr he)
    · obtain ⟨hs, hp⟩ := not_or.mp hz
      have hbound : ¬ m.mappedSize < (m.slot i).payloadOffset + (m.slot i).payloadSize := by
        rw [UInt64.lt_iff_toNat_lt, UInt64.toNat_add, not_lt]
        refine (Nat.mod_le _ _).trans ?_
        have hle := payloadBase_add_capacity_le h hi
        rcases h.placed i hi with ⟨_, he⟩ | ⟨ho, hc⟩
        · exact absurd he hp
        · omega
      rw [if_neg hz, if_neg hbound, if_pos ⟨hi, hs, fun he => hp (hlen.mp he)⟩]
  · rw [if_pos (Nat.not_lt.mp hi), if_neg fun hc => hi hc.1]

end Mapping
end Camera3D.Ipc
