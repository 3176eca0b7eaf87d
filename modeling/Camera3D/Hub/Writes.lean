import Camera3D.Hub.Burst
import Camera3D.Ipc.Created
import Camera3D.Ipc.SlotReuse

/-! The frames a capture writes into the ring: where they go, and what is left of them. -/
namespace Camera3D.Ipc

def ShmRingBuffer.cell (rb : ShmRingBuffer) (i : UInt32) : Cell :=
  rb.mapping.elim Mapping.emptyCell fun m => m.cell i

/-- The bytes that an offset and a size name. -/
def ShmRingBuffer.range (rb : ShmRingBuffer) (offsetBytes sizeBytes : UInt64) : List UInt8 :=
  rb.mapping.elim [] fun m => Memory.read m.bytes offsetBytes.toNat sizeBytes.toNat

/-- The image that a header describes. -/
def ShmRingBuffer.imageAt (rb : ShmRingBuffer) (slot : ShmSlotHeader) : Image :=
  ⟨rb.range slot.payloadOffset slot.payloadSize, slot.width, slot.height, slot.pixelFormat⟩

def ShmRingBuffer.capacity (rb : ShmRingBuffer) : ℕ := rb.mapping.elim 0 Mapping.capacity

end Camera3D.Ipc

namespace Camera3D.Hub
open Camera Ipc

/-- The hub's ring: 64 slots, laid out as `CreateOrOpen` does. -/
def HubRing (shm : ShmRingBuffer) : Prop :=
  ∃ m, shm.mapping = some m ∧ m.WellFormed ∧ m.slotCount = 64

def frameImage (fb : FrameBuffer) : Image := ⟨fb.bytes, fb.width, fb.height, fb.pixelFormat⟩

/-- A slot reads back as the header of what it holds, unless it holds nothing. -/
theorem HubRing.tryReadSlot_cases {shm : ShmRingBuffer} (hr : HubRing shm) {i : UInt32}
    (hi : i.toNat < 64) :
    shm.tryReadSlot i = none ∧ ((shm.cell i).seq = 0 ∨ (shm.cell i).image.bytes = []) ∨
    ∃ v, shm.tryReadSlot i = some v ∧ (shm.cell i).seq ≠ 0 ∧ (shm.cell i).image.bytes ≠ [] ∧
      v.outMeta.seqPublish = (shm.cell i).seq ∧ shm.imageAt v.outMeta = (shm.cell i).image := by
  obtain ⟨m, hm, hwf, hn⟩ := hr
  have hcell : shm.cell i = m.cell i := by rw [ShmRingBuffer.cell, hm, Option.elim_some]
  have hread : shm.tryReadSlot i = m.tryReadSlot i := by
    rw [ShmRingBuffer.tryReadSlot, hm, Option.bind_some]
  rw [hread, hcell, Mapping.tryReadSlot_eq hwf, hn]
  by_cases hlive : (m.cell i).seq ≠ 0 ∧ (m.cell i).image.bytes ≠ []
  · right
    rw [if_pos ⟨hi, hlive.1, hlive.2⟩]
    refine ⟨_, rfl, hlive.1, hlive.2, rfl, ?_⟩
    simp only [ShmRingBuffer.imageAt, ShmRingBuffer.range, hm, Option.elim_some]
    rfl
  · left
    rw [if_neg fun h => hlive h.2]
    refine ⟨rfl, ?_⟩
    by_cases hseq : (m.cell i).seq = 0
    · exact .inl hseq
    · exact .inr (not_not.mp fun hne => hlive ⟨hseq, hne⟩)

/-- A frame in the ring, with the number and the slot it was given. -/
structure Published where
  frame : FrameBuffer
  seq : UInt64
  slot : UInt32

def Published.cell (p : Published) : Cell := ⟨p.seq, frameImage p.frame⟩

namespace RingWriter

/-- One successful write of the hub. -/
structure Wrote (s : RingWriter) (p : Published) (s' : RingWriter) : Prop where
  ring : HubRing s'.shm
  name_eq : s'.shm.name = s.shm.name
  capacity_eq : s'.shm.capacity = s.shm.capacity
  cursor_eq : s'.sNext = s.sNext + 1
  slot_eq : p.slot.toNat = s.sNext.toNat % 64
  seq_eq : p.seq = (s.shm.cell p.slot).seq + 1
  self : s'.shm.cell p.slot = p.cell
  others : ∀ i : UInt32, i.toNat < 64 → i ≠ p.slot → s'.shm.cell i = s.shm.cell i

/-- A write is refused because the frame does not fit a slot, or it succeeds. -/
theorem tryWriteNextSlot_cases {s : RingWriter} (hr : HubRing s.shm) (fb : FrameBuffer) :
    s.tryWriteNextSlot fb = (⟨s.shm, s.sNext + 1⟩, none) ∧ s.shm.capacity < fb.bytes.length ∨
    ∃ s' seq slot, s.tryWriteNextSlot fb = (s', some (seq, slot)) ∧ s.Wrote ⟨fb, seq, slot⟩ s' := by
  obtain ⟨m, hm, hwf, hn⟩ := hr
  have hcap : s.shm.capacity = m.capacity := by rw [ShmRingBuffer.capacity, hm, Option.elim_some]
  have hcell : ∀ i, s.shm.cell i = m.cell i := fun i => by
    rw [ShmRingBuffer.cell, hm, Option.elim_some]
  have hw := Mapping.tryWriteImage_cases hwf s.sNext (frameImage fb)
  unfold Mapping.tryWriteImage frameImage at hw
  unfold RingWriter.tryWriteNextSlot ShmRingBuffer.tryWriteNextSlot
  rw [hm]
  dsimp only
  rcases hw with ⟨hres, hlen⟩ | ⟨m', seq, idx, hres, hwrote⟩
  · left
    rw [hres]
    refine ⟨?_, hcap ▸ hlen⟩
    simp only [← hm]
  · right
    rw [hres]
    refine ⟨_, seq, idx, rfl, ?_⟩
    constructor
    case ring => exact ⟨m', rfl, hwrote.wellFormed, hwrote.slotCount_eq.trans hn⟩
    case name_eq => rfl
    case capacity_eq => exact hwrote.capacity_eq.trans hcap.symm
    case cursor_eq => rfl
    case slot_eq =>
      show idx.toNat = s.sNext.toNat % 64
      rw [hwrote.idx_eq, nextIndex_toNat hn]
    case seq_eq =>
      show seq = (s.shm.cell idx).seq + 1
      rw [hcell]
      exact hwrote.seq_eq
    case self => exact hwrote.self
    case others =>
      intro i hi hne
      rw [hcell]
      exact hwrote.others i (hn ▸ hi) hne

/-- The frames written between two states of the ring, in order. -/
inductive Writes : RingWriter → List Published → RingWriter → Prop
  | nil (s : RingWriter) : Writes s [] s
  | cons {s s' s'' : RingWriter} {p : Published} {ps : List Published} (head : s.Wrote p s')
    (tail : Writes s' ps s'') : Writes s (p :: ps) s''

section Writes
variable {s s' s'' : RingWriter} {ps qs : List Published}

theorem Writes.append (h : Writes s ps s') (h' : Writes s' qs s'') : Writes s (ps ++ qs) s'' := by
  induction h with
  | nil s => exact h'
  | cons head tail ih => exact .cons head (ih h')

theorem Writes.ring (h : Writes s ps s') (hr : HubRing s.shm) : HubRing s'.shm := by
  induction h with
  | nil s => exact hr
  | cons head tail ih => exact ih head.ring

theorem Writes.capacity_eq (h : Writes s ps s') : s'.shm.capacity = s.shm.capacity := by
  induction h with
  | nil s => rfl
  | cons head tail ih => exact ih.trans head.capacity_eq

/-- The slots are taken in turn; 64 divides `2 ^ 32`, so the cursor may wrap. -/
theorem Writes.slots_eq (h : Writes s ps s') :
    ps.map (fun p => p.slot.toNat) = (List.range ps.length).map fun k => (s.sNext.toNat + k) % 64 := by
  induction h with
  | nil s => rfl
  | @cons s s' s'' p ps head tail ih =>
    have hnext : ∀ k, (s'.sNext.toNat + k) % 64 = (s.sNext.toNat + (k + 1)) % 64 := by
      intro k
      have hone : (1 : UInt32).toNat = 1 := rfl
      rw [head.cursor_eq, UInt32.toNat_add, hone]
      omega
    rw [List.length_cons, List.range_succ_eq_map, List.map_cons, List.map_cons, ih, List.map_map,
      head.slot_eq]
    simp only [hnext, Nat.add_zero, Function.comp_def]

theorem Writes.slot_mem (h : Writes s ps s') {n : ℕ} (hn : ps.length ≤ n) {p : Published}
    (hp : p ∈ ps) : p.slot.toNat ∈ (List.range n).map fun k => (s.sNext.toNat + k) % 64 := by
  have hmem : p.slot.toNat ∈ ps.map fun p => p.slot.toNat := List.mem_map_of_mem hp
  rw [h.slots_eq] at hmem
  obtain ⟨k, hk, heq⟩ := List.mem_map.mp hmem
  have hlt : k < n := Nat.lt_of_lt_of_le (List.mem_range.mp hk) hn
  exact List.mem_map.mpr ⟨k, List.mem_range.mpr hlt, heq⟩

theorem Writes.slot_lt (h : Writes s ps s') {p : Published} (hp : p ∈ ps) : p.slot.toNat < 64 := by
  obtain ⟨k, _, hk⟩ := List.mem_map.mp (h.slot_mem (Nat.le_refl _) hp)
  omega

/-- The slots written are distinct exactly when there are no more frames than slots. -/
theorem Writes.nodup_iff (h : Writes s ps s') :
    (ps.map Published.slot).Nodup ↔ ps.length ≤ 64 := by
  have hnat : (ps.map Published.slot).Nodup ↔ (ps.map fun p => p.slot.toNat).Nodup := by
    have heq : ps.map (fun p => p.slot.toNat) = (ps.map Published.slot).map UInt32.toNat := by
      rw [List.map_map]
      rfl
    rw [heq, List.nodup_map_iff fun _ _ => UInt32.toNat_inj.mp]
  rw [hnat, h.slots_eq]
  constructor
  · intro hnodup
    have hsub : ((List.range ps.length).map fun k => (s.sNext.toNat + k) % 64) ⊆ List.range 64 := by
      intro x hx
      obtain ⟨k, _, rfl⟩ := List.mem_map.mp hx
      exact List.mem_range.mpr (Nat.mod_lt _ (by decide))
    have hle := (List.subperm_of_subset hnodup hsub).length_le
    rw [List.length_map, List.length_range, List.length_range] at hle
    exact hle
  · intro hlen
    refine List.Nodup.map_on ?_ List.nodup_range
    intro i hi j hj heq
    have hi := List.mem_range.mp hi
    have hj := List.mem_range.mp hj
    omega

theorem Writes.untouched (h : Writes s ps s') {i : UInt32} (hi : i.toNat < 64)
    (hnot : i ∉ ps.map Published.slot) : s'.shm.cell i = s.shm.cell i := by
  induction h with
  | nil s => rfl
  | cons head tail ih =>
    rw [List.map_cons, List.mem_cons, not_or] at hnot
    exact (ih hnot.2).trans (head.others i hi hnot.1)

/-- While no slot is used twice, every frame written is still there at the end. -/
theorem Writes.live (h : Writes s ps s') (hnodup : (ps.map Published.slot).Nodup) {p : Published}
    (hp : p ∈ ps) : s'.shm.cell p.slot = p.cell := by
  induction h with
  | nil s => cases hp
  | @cons s s' s'' q ps head tail ih =>
    rw [List.map_cons, List.nodup_cons] at hnodup
    rcases List.mem_cons.mp hp with rfl | hp
    · have hlt : p.slot.toNat < 64 := by
        rw [head.slot_eq]
        exact Nat.mod_lt _ (by decide)
      exact (tail.untouched hlt hnodup.1).trans head.self
    · exact ih hnodup.2 hp

theorem Writes.seq_eq (h : Writes s ps s') (hnodup : (ps.map Published.slot).Nodup)
    {p : Published} (hp : p ∈ ps) : p.seq = (s.shm.cell p.slot).seq + 1 := by
  induction h with
  | nil s => cases hp
  | @cons s s' s'' q ps head tail ih =>
    have hlt := (Writes.cons head tail).slot_lt hp
    rw [List.map_cons, List.nodup_cons] at hnodup
    rcases List.mem_cons.mp hp with rfl | hp
    · exact head.seq_eq
    · have hne : p.slot ≠ q.slot := by
        intro heq
        exact hnodup.1 (heq ▸ List.mem_map_of_mem hp)
      rw [ih hnodup.2 hp, head.others p.slot hlt hne]

/-- The number 0 comes up only where a slot was written `2 ^ 64` times. -/
theorem Writes.seq_ne_zero (h : Writes s ps s')
    (hseq : ∀ i : UInt32, i.toNat < 64 → (s.shm.cell i).seq.toNat + ps.length < 2 ^ 64)
    {p : Published} (hp : p ∈ ps) : p.seq ≠ 0 := by
  induction h with
  | nil s => cases hp
  | @cons s s' s'' q ps head tail ih =>
    have hlt : q.slot.toNat < 64 := by
      rw [head.slot_eq]
      exact Nat.mod_lt _ (by decide)
    have hnext : q.seq.toNat = (s.shm.cell q.slot).seq.toNat + 1 := by
      have hsmall := hseq q.slot hlt
      rw [List.length_cons] at hsmall
      rw [head.seq_eq, UInt64.toNat_add, UInt64.toNat_one]
      exact Nat.mod_eq_of_lt (by omega)
    rcases List.mem_cons.mp hp with rfl | hp
    · intro hzero
      rw [hzero] at hnext
      cases hnext
    · refine ih ?_ hp
      intro i hi
      have hsmall := hseq i hi
      rw [List.length_cons] at hsmall
      by_cases hi' : i = q.slot
      · have hself : (s'.shm.cell q.slot).seq = q.seq := by
          rw [head.self]
          rfl
        rw [hi'] at hsmall ⊢
        rw [hself]
        omega
      · rw [head.others i hi hi']
        omega

end Writes

end RingWriter

theorem HubRing.tryWriteNextSlot {s : RingWriter} (h : HubRing s.shm) (fb : FrameBuffer) :
    HubRing (s.tryWriteNextSlot fb).1.shm := by
  rcases RingWriter.tryWriteNextSlot_cases h fb with ⟨he, _⟩ | ⟨s', seq, slot, he, hw⟩
  · rw [he]
    exact h
  · rw [he]
    exact hw.ring

end Camera3D.Hub
