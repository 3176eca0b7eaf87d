import Camera3D.Ipc.Latest
import Camera3D.Transition.Traced

/-! A region that was attached as it is: its header may have been written by another process, and
only the magic number is ever looked at. -/
namespace Camera3D.Ipc
open Memory Transition

namespace Mapping

/-- What `TryReadSlot` asks of a slot before it looks at where the payload ends. -/
def Published (m : Mapping) (i : UInt32) : Prop :=
  m.global.magic = kMagic ∧ i < m.global.slotCount ∧
    (m.slot i).seqPublish ≠ 0 ∧ (m.slot i).payloadSize ≠ 0

/-- The payload ends below `2 ^ 64`, or the wrapped end is refused all the same. -/
def EndChecked (m : Mapping) (i : UInt32) : Prop :=
  (m.slot i).payloadOffset.toNat + (m.slot i).payloadSize.toNat < 2 ^ 64 ∨
    m.mappedSize < (m.slot i).payloadOffset + (m.slot i).payloadSize

theorem tryReadSlot_eq_some_iff {m : Mapping} {i : UInt32} {v : SlotView} :
    m.tryReadSlot i = some v ↔
      m.Published i ∧ (m.slot i).payloadOffset + (m.slot i).payloadSize ≤ m.mappedSize ∧
        v = ⟨m.slot i, (m.slot i).payloadOffset, (m.slot i).payloadSize⟩ := by
  unfold tryReadSlot Published
  dsimp only
  split_ifs with hmagic hslot hempty hend
  · simp [hmagic]
  · simp [UInt32.not_lt.mpr hslot]
  · refine iff_of_false (by simp) ?_
    rintro ⟨⟨_, _, hseq, hsize⟩, _⟩
    exact hempty.elim hseq hsize
  · simp [UInt64.not_le.mpr hend]
  · obtain ⟨hseq, hsize⟩ := not_or.mp hempty
    have hpublished : m.Published i :=
      ⟨not_not.mp hmagic, UInt32.not_le.mp hslot, hseq, hsize⟩
    exact ⟨fun h => ⟨hpublished, UInt64.not_lt.mp hend, (Option.some.inj h).symm⟩,
      fun h => congrArg some h.2.2.symm⟩

theorem toNat_add_of_lt {a b : UInt64} (h : a.toNat + b.toNat < 2 ^ 64) :
    (a + b).toNat = a.toNat + b.toNat := by
  rw [UInt64.toNat_add, Nat.mod_eq_of_lt h]

theorem tryReadMappedRange_of_le {m : Mapping} {offset size : UInt64} (hsize : size ≠ 0)
    (h : offset.toNat + size.toNat ≤ m.mappedSize.toNat) :
    m.tryReadMappedRange offset size = some (offset, size) := by
  have hsum : (offset + size).toNat = offset.toNat + size.toNat :=
    toNat_add_of_lt (h.trans_lt m.mappedSize.toNat_lt)
  have hin : ¬ (m.mappedSize < offset + size ∨ offset + size < offset) := by
    simp only [UInt64.lt_iff_toNat_lt, hsum]
    omega
  simp only [tryReadMappedRange, if_neg hsize, if_neg hin]

/-- What `TryReadSlot` lets through lies in the mapping, and can be read as a range as well. -/
def ReadInside (m : Mapping) (v : SlotView) : Prop :=
  v.outMeta.payloadOffset.toNat + v.outMeta.payloadSize.toNat ≤ m.mappedSize.toNat ∧
    m.tryReadMappedRange v.outMeta.payloadOffset v.outMeta.payloadSize =
      some (v.outPayload, v.outPayloadLen)

/-- `TryReadMappedRange` looks for a wrapped end and `TryReadSlot` does not: a slot is read outside
the mapping exactly when its end wraps to a place inside. -/
theorem tryReadSlot_inside_iff (m : Mapping) (i : UInt32) :
    (∀ v, m.tryReadSlot i = some v → m.ReadInside v) ↔ (m.Published i → m.EndChecked i) := by
  constructor
  · intro h hpublished
    by_contra hwrap
    obtain ⟨hexact, hend⟩ := not_or.mp hwrap
    have hread := tryReadSlot_eq_some_iff.mpr ⟨hpublished, UInt64.not_lt.mp hend, rfl⟩
    exact hexact ((h _ hread).1.trans_lt m.mappedSize.toNat_lt)
  · intro h v hv
    obtain ⟨hpublished, hend, rfl⟩ := tryReadSlot_eq_some_iff.mp hv
    have hexact := (h hpublished).resolve_right (UInt64.not_lt.mpr hend)
    rw [UInt64.le_iff_toNat_le, toNat_add_of_lt hexact] at hend
    exact ⟨hend, tryReadMappedRange_of_le hpublished.2.2.2 hend⟩

/-- A ring of one slot in a region of 4112 bytes, whose payload starts `256` bytes below `2 ^ 64`
and is `512` bytes long. -/
def wrappedEnd : Mapping where
  mappedSize := 4112
  bytes := publishHeader (ShmGlobalHeader.store (fun _ => 0) ⟨kMagic, 1, 1, 4096⟩) (slotAddr 0)
    1 16 32 0 0xFFFFFFFFFFFFFF00 0x200

theorem wrappedEnd_read_outside :
    ¬ ∀ v, wrappedEnd.tryReadSlot 0 = some v → wrappedEnd.ReadInside v := by
  intro h
  have hread : wrappedEnd.tryReadSlot 0 =
      some ⟨wrappedEnd.slot 0, 0xFFFFFFFFFFFFFF00, 0x200⟩ := by decide +kernel
  have hout : ¬ (wrappedEnd.slot 0).payloadOffset.toNat + (wrappedEnd.slot 0).payloadSize.toNat ≤
      wrappedEnd.mappedSize.toNat := by decide +kernel
  exact hout (h _ hread).1

end Mapping

/-- What the accessors do with a header that nobody checked. -/
inductive Event where
  | touch (offset size : ℕ)
  | reduce (modulus : UInt32)
  | divide (divisor : UInt64)
  | subtract (a b : UInt64)

/-- Bytes are touched inside the mapping only, and no arithmetic goes wrong. -/
def Event.Sound (mappedSize : UInt64) : Event → Prop
  | touch offset size => size = 0 ∨ offset + size ≤ mappedSize.toNat
  | reduce modulus => modulus ≠ 0
  | divide divisor => divisor ≠ 0
  | subtract a b => b ≤ a

/-! The accessors again, step by step, with the bytes of the mapping that each step indexes. -/
namespace Accesses
open Traced (doing)
variable (m : Mapping)

def magic : Traced Event UInt32 := doing (.touch 0 4) m.global.magic

def slotCount : Traced Event UInt32 := doing (.touch 8 4) m.global.slotCount

def seqPublish (i : UInt32) : Traced Event UInt64 :=
  doing (.touch (slotAddr i) 8) (m.slot i).seqPublish

def maxPublishedSeq : Traced Event UInt64 := do
  if (← magic m) ≠ kMagic then return 0
  let slots ← slotCount m
  (List.range slots.toNat).foldlM (fun best i => do return max best (← seqPublish m (.ofNat i))) 0

/-- The range that is handed out counts as touched: the caller reads it. -/
def tryReadSlot (slotIndex : UInt32) : Traced Event (Option SlotView) := do
  if (← magic m) ≠ kMagic then return none
  if (← slotCount m) ≤ slotIndex then return none
  let seq ← seqPublish m slotIndex
  if seq = 0 then return none
  let size ← doing (.touch (slotAddr slotIndex + 32) 8) (m.slot slotIndex).payloadSize
  if size = 0 then return none
  let offset ← doing (.touch (slotAddr slotIndex + 24) 8) (m.slot slotIndex).payloadOffset
  if m.mappedSize < offset + size then return none
  let outMeta ← doing (.touch (slotAddr slotIndex) 48) (m.slot slotIndex)
  doing (.touch offset.toNat size.toNat) (some ⟨outMeta, offset, size⟩)

def tryReadLatestSlot : Traced Event (Option (SlotView × UInt32)) := do
  if (← magic m) ≠ kMagic then return none
  let slots ← slotCount m
  let best ← (List.range slots.toNat).foldlM (fun best i => do
    let seq ← seqPublish m (.ofNat i)
    return if best.1 ≤ seq then (seq, i) else best) ((0 : UInt64), 0)
  if best.1 = 0 then return none
  let view ← tryReadSlot m (.ofNat best.2)
  return view.map fun v => (v, .ofNat best.2)

def tryWriteNextSlot (sNext : UInt32) (payload : List UInt8) (width height pixelFormat : UInt32) :
    Traced Event WriteResult := do
  if (← magic m) ≠ kMagic then return ⟨m, sNext, none⟩
  let slots ← slotCount m
  let idx ← doing (.reduce slots) (sNext % slots)
  let nextSeq := (← seqPublish m idx) + 1
  let totalPayload ← doing (.subtract m.mappedSize (headersEnd slots)) (m.mappedSize - headersEnd slots)
  let perSlot ← doing (.divide slots.toUInt64) (totalPayload / slots.toUInt64)
  if perSlot.toNat < payload.length then return ⟨m, sNext + 1, none⟩
  let payloadBase := headersEnd slots + idx.toUInt64 * perSlot
  let bytes ← doing (.touch payloadBase.toNat payload.length)
    (write m.bytes payloadBase.toNat payload)
  let bytes ← doing (.touch (slotAddr idx) 40) (publishHeader bytes (slotAddr idx) nextSeq width
    height pixelFormat payloadBase (.ofNat payload.length))
  return ⟨{ m with bytes }, sNext + 1, some (nextSeq, idx)⟩

theorem maxPublishedSeq_value : (maxPublishedSeq m).value = m.maxPublishedSeq := by
  simp [maxPublishedSeq, Mapping.maxPublishedSeq, magic, slotCount, seqPublish, Traced.value_foldlM]

theorem tryReadSlot_value (i : UInt32) : (tryReadSlot m i).value = m.tryReadSlot i := by
  simp only [tryReadSlot, Mapping.tryReadSlot, magic, slotCount, seqPublish, Traced.value_bind,
    Traced.value_doing, Traced.value_ite, Traced.value_pure]
  split_ifs <;> simp_all

theorem tryReadLatestSlot_value : (tryReadLatestSlot m).value = m.tryReadLatestSlot := by
  simp [tryReadLatestSlot, Mapping.tryReadLatestSlot, magic, slotCount, seqPublish,
    Traced.value_foldlM, latestSlot, tryReadSlot_value]

theorem tryWriteNextSlot_value (sNext : UInt32) (payload : List UInt8)
    (width height pixelFormat : UInt32) :
    (tryWriteNextSlot m sNext payload width height pixelFormat).value =
      m.tryWriteNextSlot sNext payload width height pixelFormat := by
  simp only [tryWriteNextSlot, Mapping.tryWriteNextSlot, magic, slotCount, seqPublish,
    Traced.value_bind, Traced.value_doing, Traced.value_ite, Traced.value_pure]
  rfl

end Accesses

/-- Every accessor, with every argument, keeps to the mapping and to sound arithmetic. -/
structure Mapping.Guarded (m : Mapping) : Prop where
  slotCount : (Accesses.slotCount m).All (Event.Sound m.mappedSize)
  maxPublishedSeq : (Accesses.maxPublishedSeq m).All (Event.Sound m.mappedSize)
  tryReadSlot : ∀ i, (Accesses.tryReadSlot m i).All (Event.Sound m.mappedSize)
  tryReadLatestSlot : (Accesses.tryReadLatestSlot m).All (Event.Sound m.mappedSize)
  tryWriteNextSlot : ∀ sNext payload width height pixelFormat,
    (Accesses.tryWriteNextSlot m sNext payload width height pixelFormat).All
      (Event.Sound m.mappedSize)

/-- Where the magic number is there, the slot count is not zero, the slot headers fit the mapping
and no published payload wraps into it. -/
structure Mapping.Plausible (m : Mapping) : Prop where
  mapped : 12 ≤ m.mappedSize.toNat
  slots : m.global.magic = kMagic → 0 < m.slotCount
  fits : m.global.magic = kMagic → m.payloadStart ≤ m.mappedSize.toNat
  ends : ∀ i, m.Published i → m.EndChecked i

namespace Accesses
variable {m : Mapping}

theorem magic_sound (h : 12 ≤ m.mappedSize.toNat) : (magic m).All (Event.Sound m.mappedSize) :=
  (Traced.all_doing _ _).mpr (.inr (by omega))

theorem slotCount_sound_iff :
    (slotCount m).All (Event.Sound m.mappedSize) ↔ 12 ≤ m.mappedSize.toNat := by
  simp [slotCount, Event.Sound]

theorem touch_header_sound (h : m.Plausible) (hmagic : m.global.magic = kMagic) {i : UInt32}
    (hi : i.toNat < m.slotCount) {d n : ℕ} (hd : d + n ≤ 48) :
    Event.Sound m.mappedSize (.touch (slotAddr i + d) n) := by
  have hin := (Mapping.slotAddr_add_le m hi).2
  have hfits := h.fits hmagic
  exact .inr (by omega)

theorem seqPublish_sound (h : m.Plausible) (hmagic : m.global.magic = kMagic) {i : UInt32}
    (hi : i.toNat < m.slotCount) : (seqPublish m i).All (Event.Sound m.mappedSize) :=
  (Traced.all_doing _ _).mpr (touch_header_sound h hmagic hi (d := 0) (by omega))

theorem ofNat_lt_slotCount {i : ℕ} (hi : i ∈ List.range m.global.slotCount.toNat) :
    (UInt32.ofNat i).toNat < m.slotCount := by
  have hlt := List.mem_range.mp hi
  have hcount := m.global.slotCount.toNat_lt
  rw [UInt32.toNat_ofNat', Nat.mod_eq_of_lt (by omega)]
  exact hlt

theorem maxPublishedSeq_sound (h : m.Plausible) :
    (maxPublishedSeq m).All (Event.Sound m.mappedSize) := by
  rw [maxPublishedSeq, Traced.all_bind, Traced.all_ite]
  refine ⟨magic_sound h.mapped, fun _ => Traced.all_pure _, fun hmagic => ?_⟩
  rw [Traced.all_bind]
  refine ⟨slotCount_sound_iff.mpr h.mapped, Traced.all_foldlM (fun i hi best => ?_) _⟩
  rw [Traced.all_bind]
  exact ⟨seqPublish_sound h (not_not.mp hmagic) (ofNat_lt_slotCount hi), Traced.all_pure _⟩

theorem tryReadSlot_sound (h : m.Plausible) (i : UInt32) :
    (tryReadSlot m i).All (Event.Sound m.mappedSize) := by
  rw [tryReadSlot, Traced.all_bind, Traced.all_ite]
  refine ⟨magic_sound h.mapped, fun _ => Traced.all_pure _, fun hmagic => ?_⟩
  replace hmagic := not_not.mp hmagic
  rw [Traced.all_bind, Traced.all_ite]
  refine ⟨slotCount_sound_iff.mpr h.mapped, fun _ => Traced.all_pure _, fun hslot => ?_⟩
  have hi : i.toNat < m.slotCount := UInt32.lt_iff_toNat_lt.mp (UInt32.not_le.mp hslot)
  rw [Traced.all_bind, Traced.all_ite]
  refine ⟨seqPublish_sound h hmagic hi, fun _ => Traced.all_pure _, fun hseq => ?_⟩
  rw [Traced.all_bind, Traced.all_doing, Traced.all_ite]
  refine ⟨touch_header_sound h hmagic hi (by omega), fun _ => Traced.all_pure _, fun hsize => ?_⟩
  rw [Traced.all_bind, Traced.all_doing, Traced.all_ite]
  refine ⟨touch_header_sound h hmagic hi (by omega), fun _ => Traced.all_pure _, fun hend => ?_⟩
  rw [Traced.all_bind, Traced.all_doing, Traced.all_doing]
  have hpublished : m.Published i := ⟨hmagic, UInt32.not_le.mp hslot, hseq, hsize⟩
  have hexact := (h.ends i hpublished).resolve_right hend
  have hle : (m.slot i).payloadOffset.toNat + (m.slot i).payloadSize.toNat ≤
      m.mappedSize.toNat := by
    rw [← Mapping.toNat_add_of_lt hexact]
    exact UInt64.le_iff_toNat_le.mp (UInt64.not_lt.mp hend)
  exact ⟨touch_header_sound h hmagic hi (d := 0) (by omega), .inr hle⟩

theorem tryReadLatestSlot_sound (h : m.Plausible) :
    (tryReadLatestSlot m).All (Event.Sound m.mappedSize) := by
  rw [tryReadLatestSlot, Traced.all_bind, Traced.all_ite]
  refine ⟨magic_sound h.mapped, fun _ => Traced.all_pure _, fun hmagic => ?_⟩
  rw [Traced.all_bind, Traced.all_bind]
  refine ⟨slotCount_sound_iff.mpr h.mapped, Traced.all_foldlM (fun i hi best => ?_) _, ?_⟩
  · rw [Traced.all_bind]
    exact ⟨seqPublish_sound h (not_not.mp hmagic) (ofNat_lt_slotCount hi), Traced.all_pure _⟩
  · rw [Traced.all_ite, Traced.all_bind]
    exact ⟨fun _ => Traced.all_pure _, fun _ => ⟨tryReadSlot_sound h _, Traced.all_pure _⟩⟩

theorem tryWriteNextSlot_sound (h : m.Plausible) (sNext : UInt32) (payload : List UInt8)
    (width height pixelFormat : UInt32) :
    (tryWriteNextSlot m sNext payload width height pixelFormat).All (Event.Sound m.mappedSize) := by
  rw [tryWriteNextSlot, Traced.all_bind, Traced.all_ite]
  refine ⟨magic_sound h.mapped, fun _ => Traced.all_pure _, fun hmagic => ?_⟩
  replace hmagic := not_not.mp hmagic
  have hslots := h.slots hmagic
  have hfits := h.fits hmagic
  have hcount : m.global.slotCount ≠ 0 := fun he => by
    rw [Mapping.slotCount, he] at hslots
    exact Nat.lt_irrefl 0 hslots
  have hidx : (m.nextIndex sNext).toNat < m.slotCount := by
    rw [Mapping.nextIndex, UInt32.toNat_mod]
    exact Nat.mod_lt _ hslots
  rw [Traced.all_bind, Traced.all_bind, Traced.all_doing, Traced.all_bind, Traced.all_bind,
    Traced.all_doing, Traced.all_bind, Traced.all_doing, Traced.all_ite]
  refine ⟨slotCount_sound_iff.mpr h.mapped, hcount, seqPublish_sound h hmagic hidx,
    Mapping.headersEnd_le.mpr hfits, ?_, fun _ => Traced.all_pure _, fun hp => ?_⟩
  · exact fun he => hcount (UInt32.toNat_inj.mp (congrArg UInt64.toNat he))
  · replace hp : payload.length ≤ m.perSlot.toNat := Nat.not_lt.mp hp
    rw [Mapping.perSlot_toNat hfits] at hp
    have hbase := Mapping.payloadBase_toNat hfits hidx
    have hin := Mapping.payloadBase_add_capacity_le_of_fits hfits hidx
    rw [Traced.all_bind, Traced.all_doing, Traced.all_bind, Traced.all_doing]
    have hpayload : (headersEnd m.global.slotCount + (m.nextIndex sNext).toUInt64 * m.perSlot).toNat +
        payload.length ≤ m.mappedSize.toNat := by
      rw [hbase]
      omega
    exact ⟨.inr hpayload, touch_header_sound h hmagic hidx (d := 0) (by omega), Traced.all_pure _⟩

/-- A write reduces and divides by the slot count, and subtracts the end of the headers. -/
theorem plausible_of_tryWriteNextSlot (hmagic : m.global.magic = kMagic)
    (h : (tryWriteNextSlot m 0 [] 0 0 0).All (Event.Sound m.mappedSize)) :
    0 < m.slotCount ∧ m.payloadStart ≤ m.mappedSize.toNat := by
  rw [tryWriteNextSlot, Traced.all_bind, Traced.all_ite] at h
  have hrest := h.2.2 (not_not.mpr hmagic)
  rw [Traced.all_bind, Traced.all_bind, Traced.all_doing, Traced.all_bind, Traced.all_bind,
    Traced.all_doing] at hrest
  obtain ⟨_, hcount, _, hfits, _⟩ := hrest
  refine ⟨Nat.pos_of_ne_zero fun he => hcount (UInt32.toNat_inj.mp he), ?_⟩
  exact Mapping.headersEnd_le.mp hfits

/-- A slot that is let through is handed out from its offset, to the exact length of its payload. -/
theorem endChecked_of_tryReadSlot {i : UInt32} (hpublished : m.Published i)
    (h : (tryReadSlot m i).All (Event.Sound m.mappedSize)) : m.EndChecked i := by
  by_cases hend : m.mappedSize < (m.slot i).payloadOffset + (m.slot i).payloadSize
  · exact .inr hend
  · obtain ⟨hmagic, hslot, hseq, hsize⟩ := hpublished
    rw [tryReadSlot, Traced.all_bind, Traced.all_ite] at h
    have h := h.2.2 (not_not.mpr hmagic)
    rw [Traced.all_bind, Traced.all_ite] at h
    have h := h.2.2 (UInt32.not_le.mpr hslot)
    rw [Traced.all_bind, Traced.all_ite] at h
    have h := h.2.2 hseq
    rw [Traced.all_bind, Traced.all_ite] at h
    have h := h.2.2 hsize
    rw [Traced.all_bind, Traced.all_ite] at h
    have h := h.2.2 hend
    rw [Traced.all_bind, Traced.all_doing, Traced.all_doing] at h
    have hin := h.2.resolve_left fun he => hsize (UInt64.toNat_inj.mp he)
    exact .inl (hin.trans_lt m.mappedSize.toNat_lt)

end Accesses

/-- A region attached as it is can be used safely exactly when its header is plausible, and
nothing checks that. -/
theorem attached_guarded_iff (rb : ShmRingBuffer) (m : Mapping) (name : String) :
    (∃ a, (rb.createOrOpen (.mapped m) name false).1.mapping = some a ∧ a.Guarded) ↔
      m.Plausible := by
  have hmapping : (rb.createOrOpen (.mapped m) name false).1.mapping = some m := rfl
  simp only [hmapping, Option.some.injEq, exists_eq_left']
  constructor
  · intro h
    have hwrite := fun hmagic =>
      Accesses.plausible_of_tryWriteNextSlot hmagic (h.tryWriteNextSlot 0 [] 0 0 0)
    exact ⟨Accesses.slotCount_sound_iff.mp h.slotCount, fun hmagic => (hwrite hmagic).1,
      fun hmagic => (hwrite hmagic).2,
      fun i hi => Accesses.endChecked_of_tryReadSlot hi (h.tryReadSlot i)⟩
  · intro h
    exact ⟨Accesses.slotCount_sound_iff.mpr h.mapped, Accesses.maxPublishedSeq_sound h,
      Accesses.tryReadSlot_sound h, Accesses.tryReadLatestSlot_sound h,
      Accesses.tryWriteNextSlot_sound h⟩

/-- A page with the magic number and no slots: the next write reduces its cursor by zero. -/
def noSlots : Mapping where
  mappedSize := 4096
  bytes := ShmGlobalHeader.store (fun _ => 0) ⟨kMagic, 1, 0, 0⟩

theorem noSlots_unguarded :
    (ShmRingBuffer.createOrOpen {} (.mapped noSlots) kDefaultHubRingRegionName false).2 = true ∧
      ¬ ∃ a, (ShmRingBuffer.createOrOpen {} (.mapped noSlots) kDefaultHubRingRegionName
        false).1.mapping = some a ∧ a.Guarded := by
  refine ⟨rfl, ?_⟩
  rintro ⟨a, ha, h⟩
  obtain rfl : noSlots = a := Option.some.inj ha
  have hmagic : noSlots.global.magic = kMagic := by decide +kernel
  have hslots := (Accesses.plausible_of_tryWriteNextSlot hmagic (h.tryWriteNextSlot 0 [] 0 0 0)).1
  have hzero : noSlots.slotCount = 0 := by decide +kernel
  omega

end Camera3D.Ipc
