import Camera3D.Ipc.WellFormed

/-! The ring that `CreateOrOpen` initialises is well formed and empty. -/
namespace Camera3D.Ipc
open Memory

namespace Mapping

def emptyCell : Cell := ⟨0, ⟨[], 0, 0, 0⟩⟩

theorem initialise_bytes (m : Mapping) {x : ℕ} (hx : 16 ≤ x) (hx' : x < m.mappedSize.toNat) :
    m.initialise.bytes x = 0 := by
  simp only [initialise, ShmGlobalHeader.store]
  rw [store32_of_outside, store32_of_outside, store32_of_outside, store32_of_outside, if_pos hx']
  all_goals omega

theorem initialise_global (m : Mapping) :
    m.initialise.global.magic = kMagic ∧ m.initialise.global.slotCount = 64 := by
  constructor
  all_goals
    simp (disch := omega) only [global, initialise, ShmGlobalHeader.load, ShmGlobalHeader.store,
      load32_store32, load32_store32_disjoint]
  rfl

theorem initialise_slotCount (m : Mapping) : m.initialise.slotCount = 64 := by
  rw [slotCount, m.initialise_global.2]
  rfl

section Initialise
variable {m : Mapping} (hm : 3088 ≤ m.mappedSize.toNat)
include hm

theorem initialise_slot {i : UInt32} (hi : i.toNat < 64) :
    m.initialise.slot i = ⟨0, 0, 0, 0, 0, 0, 0, 0⟩ := by
  have hz : ShmSlotHeader.load (fun _ => 0) (slotAddr i) = ⟨0, 0, 0, 0, 0, 0, 0, 0⟩ := by
    simp only [ShmSlotHeader.load, load32_zero, load64_zero]
    rfl
  rw [slot, ← hz]
  refine slotHeader_congr fun x hx hx' => initialise_bytes m ?_ ?_
  all_goals
    unfold slotAddr globalHeaderBytes slotHeaderBytes at *
    omega

theorem initialise_wellFormed : m.initialise.WellFormed := by
  refine ⟨m.initialise_global.1, ?_, ?_, fun i hi => .inl ?_⟩
  · rw [initialise_slotCount]
    omega
  · rw [payloadStart, initialise_slotCount]
    exact hm
  · rw [initialise_slotCount] at hi
    rw [initialise_slot hm hi]
    exact ⟨rfl, rfl⟩

theorem initialise_cell {i : UInt32} (hi : i.toNat < 64) : m.initialise.cell i = emptyCell := by
  simp only [cell, Mapping.payload, initialise_slot hm hi]
  rfl

end Initialise

/-- A ring as `CreateOrOpen(name, n, true)` leaves it: 64 slots, none written. -/
structure Created (m : Mapping) : Prop where
  wellFormed : m.WellFormed
  slotCount_eq : m.slotCount = 64
  empty : ∀ i : UInt32, i.toNat < 64 → m.cell i = emptyCell

theorem initialise_created {m : Mapping} (hm : 3088 ≤ m.mappedSize.toNat) :
    m.initialise.Created where
  wellFormed := initialise_wellFormed hm
  slotCount_eq := m.initialise_slotCount
  empty _ hi := initialise_cell hm hi

end Mapping

/-- A new region of the default size, before it is initialised. -/
def zeroed : Mapping := ⟨fun _ => 0, kDefaultHubRingTotalBytes⟩

theorem createOrOpen_created {rb : ShmRingBuffer} {boost : BoostOutcome} {name : String}
    (h : (rb.createOrOpen boost name true).2 = true) :
    ∃ m, (rb.createOrOpen boost name true).1 = ⟨name, some m⟩ ∧ m.Created := by
  cases boost with
  | throws => simp [ShmRingBuffer.createOrOpen] at h
  | mapped m =>
    simp only [ShmRingBuffer.createOrOpen, if_true] at h ⊢
    split_ifs at h ⊢ with hs
    have hle : 4112 ≤ m.mappedSize.toNat := by
      have hn : (headersEnd kDefaultHubRingSlotCount + 1024).toNat = 4112 := by decide
      rw [← hn]
      exact UInt64.le_iff_toNat_le.mp (UInt64.not_lt.mp hs)
    exact ⟨m.initialise, rfl, Mapping.initialise_created (by omega)⟩

end Camera3D.Ipc
