import Camera3D.Ipc.Writers

/-! Ranges of a ring that a consumer reads later: where they come from, and that they hold still while
nobody writes their slot. -/
namespace Camera3D.Ipc
open Memory Transition

/-- An offset and a size within the payload of slot `i`. -/
structure Mapping.InPayload (m : Mapping) (i : UInt32) (offsetBytes sizeBytes : UInt64) : Prop where
  slot : i.toNat < m.slotCount
  base : offsetBytes.toNat = m.payloadBase i.toNat
  size : sizeBytes.toNat ≤ m.capacity

/-- What a slot can be read as lies in its payload, and reads as the image it holds. -/
theorem Mapping.tryReadSlot_inPayload {m : Mapping} (h : m.WellFormed) {i : UInt32} {v : SlotView}
    (hv : m.tryReadSlot i = some v) :
    v.outMeta = m.slot i ∧ v.outPayload = v.outMeta.payloadOffset ∧
      v.outPayloadLen = v.outMeta.payloadSize ∧ m.InPayload i v.outPayload v.outPayloadLen ∧
      read m.bytes v.outPayload.toNat v.outPayloadLen.toNat = (m.cell i).image.bytes := by
  rw [Mapping.tryReadSlot_eq h] at hv
  split_ifs at hv with hlive
  obtain ⟨hi, _, hne⟩ := hlive
  have hview := Option.some.inj hv
  have hmeta := congrArg SlotView.outMeta hview
  have hpayload := congrArg SlotView.outPayload hview
  have hlen := congrArg SlotView.outPayloadLen hview
  dsimp only at hmeta hpayload hlen
  have himage : (m.cell i).image.bytes =
      read m.bytes (m.slot i).payloadOffset.toNat (m.slot i).payloadSize.toNat := by
    rw [Mapping.cell, Mapping.payload]
  rw [← hpayload, ← hlen, ← hmeta]
  refine ⟨rfl, rfl, rfl, ?_, himage.symm⟩
  rcases h.placed i hi with ⟨_, hsize⟩ | ⟨hbase, hsize⟩
  · have hempty : (m.cell i).image.bytes = [] := by
      rw [← List.length_eq_zero_iff, himage, length_read, hsize, UInt64.toNat_zero]
    exact absurd hempty hne
  · exact ⟨hi, hbase, hsize⟩

theorem Mapping.eq_of_tryReadMappedRange {m : Mapping} {off size payload len : UInt64}
    (h : m.tryReadMappedRange off size = some (payload, len)) : payload = off ∧ len = size := by
  unfold Mapping.tryReadMappedRange at h
  dsimp only at h
  split_ifs at h
  obtain ⟨hoff, hsize⟩ := Prod.mk.inj (Option.some.inj h)
  exact ⟨hoff.symm, hsize.symm⟩

/-- A write to another slot leaves the range as it is. -/
theorem Mapping.InPayload.read_wrote {m m' : Mapping} {i c idx : UInt32} {img : Image} {seq off size : UInt64}
    (h : m.InPayload i off size) (hwf : m.WellFormed) (hw : m.Wrote c img m' seq idx)
    (hne : i ≠ idx) : read m'.bytes off.toNat size.toNat = read m.bytes off.toNat size.toNat := by
  obtain ⟨hi, hbase, hsize⟩ := h
  refine read_congr fun x hx hx' => hw.bytes_eq x ?_
  refine not_slotBytes_of_foreign hwf (hw.idx_eq ▸ nextIndex_lt hwf c) ?_
  exact .inr (.inr ⟨i, hi, hne, .inr ⟨by omega, by omega⟩⟩)

namespace Writers
variable {ι θ : Type*} [DecidableEq ι]

/-- The call writes nothing to slot `i` of ring `ρ`. -/
def Leaves (s : Writers ι θ) (c : Call ι θ) (ρ : ι) (i : UInt32) : Prop :=
  put ρ i (c, (s.result c).published) = none

instance (s : Writers ι θ) (c : Call ι θ) (ρ : ι) (i : UInt32) : Decidable (s.Leaves c ρ i) :=
  inferInstanceAs (Decidable (_ = _))

section Step
variable [DecidableEq θ] {s : Writers ι θ} {ρ : ι} {i : UInt32} {off size : UInt64}

theorem step_inPayload (c : Call ι θ) (h : (s.rings ρ).WellFormed)
    (hin : (s.rings ρ).InPayload i off size) : ((s.step c).rings ρ).InPayload i off size := by
  obtain ⟨_, hglobal, hmapped⟩ := step_wellFormed c h
  obtain ⟨hslot, hbase, hsize⟩ := hin
  have hcount : ((s.step c).rings ρ).slotCount = (s.rings ρ).slotCount := by
    simp only [Mapping.slotCount, hglobal]
  have hcapacity : ((s.step c).rings ρ).capacity = (s.rings ρ).capacity := by
    simp only [Mapping.capacity, Mapping.payloadStart, hcount, hmapped]
  have hplace : ((s.step c).rings ρ).payloadBase i.toNat = (s.rings ρ).payloadBase i.toNat := by
    simp only [Mapping.payloadBase, Mapping.payloadStart, hcount, hcapacity]
  exact ⟨hcount ▸ hslot, hplace ▸ hbase, hcapacity ▸ hsize⟩

/-- A call that leaves the slot alone leaves what a range in it reads as. -/
theorem step_read {c : Call ι θ} (h : (s.rings ρ).WellFormed)
    (hin : (s.rings ρ).InPayload i off size) (hc : s.Leaves c ρ i) :
    read ((s.step c).rings ρ).bytes off.toNat size.toNat =
      read (s.rings ρ).bytes off.toNat size.toNat := by
  rcases step_cases s c h with ⟨hsame, _⟩ | ⟨seq, idx, hpub, hring, hw⟩
  · rw [hsame]
  · have hne : i ≠ idx := by
      rintro rfl
      unfold Leaves at hc
      rw [hpub, put, if_pos ⟨hring, rfl⟩] at hc
      cases hc
    exact hin.read_wrote h hw hne

end Step

section Log
variable {w : Writers ι θ} {log : List (Logged ι θ)} {ρ : ι}

theorem lastWrite_concat (ρ : ι) (i : UInt32) (log : List (Logged ι θ)) (e : Logged ι θ) :
    lastWrite ρ i (log ++ [e]) = (put ρ i e).or (lastWrite ρ i log) := by
  cases h : put ρ i e <;> simp [lastWrite, h]

/-- What was written last was written by a call of the log. -/
theorem mem_of_lastWrite {ρ : ι} {i : UInt32} {log : List (Logged ι θ)} {cell : Cell}
    (h : lastWrite ρ i log = some cell) :
    ∃ c, (c, some (cell.seq, i)) ∈ log ∧ c.ring = ρ ∧ c.image = cell.image := by
  obtain ⟨⟨c, published⟩, hmem, hput⟩ := List.exists_of_findSome?_eq_some h
  cases published with
  | none => cases hput
  | some published =>
    obtain ⟨seq, idx⟩ := published
    rw [put] at hput
    split_ifs at hput with hslot
    obtain rfl := Option.some.inj hput
    obtain ⟨hring, rfl⟩ := hslot
    exact ⟨c, List.mem_reverse.mp hmem, hring, rfl⟩

/-- The ring was created empty, and the log has every write to it since. -/
structure Follows (w : Writers ι θ) (log : List (Logged ι θ)) (ρ : ι) : Prop where
  wellFormed : (w.rings ρ).WellFormed
  slots : (w.rings ρ).slotCount = 64
  cells : ∀ i : UInt32, i.toNat < 64 →
    (w.rings ρ).cell i = (lastWrite ρ i log).getD Mapping.emptyCell

theorem follows_created (h : (w.rings ρ).Created) : w.Follows [] ρ :=
  ⟨h.wellFormed, h.slotCount_eq, h.empty⟩

theorem Follows.step [DecidableEq θ] (h : w.Follows log ρ) (c : Call ι θ) :
    (w.step c).Follows (log ++ [(c, (w.result c).published)]) ρ := by
  obtain ⟨hwf, hglobal, _⟩ := step_wellFormed c h.wellFormed
  refine ⟨hwf, ?_, fun i hi => ?_⟩
  · rw [Mapping.slotCount, hglobal]
    exact h.slots
  · rw [step_cell c h.wellFormed (h.slots ▸ hi), h.cells i hi, lastWrite_concat]
    cases put ρ i (c, (w.result c).published) with
    | none => rw [Option.getD_none, Option.none_or]
    | some cell => rw [Option.getD_some, Option.some_or, Option.getD_some]

/-- What a slot can be read as was written by a call of the log, under the number in the header. -/
theorem Follows.tryReadSlot (h : w.Follows log ρ) {i : UInt32} {v : SlotView}
    (hv : (w.rings ρ).tryReadSlot i = some v) :
    (w.rings ρ).InPayload i v.outPayload v.outPayloadLen ∧
      ∃ c, (c, some (v.outMeta.seqPublish, i)) ∈ log ∧ c.ring = ρ ∧
        c.image.bytes = Memory.read (w.rings ρ).bytes v.outPayload.toNat v.outPayloadLen.toNat := by
  obtain ⟨hmeta, _, _, hin, hread⟩ := Mapping.tryReadSlot_inPayload h.wellFormed hv
  have hcell := h.cells i (h.slots ▸ hin.slot)
  refine ⟨hin, ?_⟩
  cases hlast : lastWrite ρ i log with
  | none =>
    rw [Mapping.tryReadSlot_eq h.wellFormed, hcell, hlast] at hv
    simp [Mapping.emptyCell] at hv
  | some cell =>
    obtain ⟨c, hmem, hring, himage⟩ := mem_of_lastWrite hlast
    rw [hlast, Option.getD_some] at hcell
    refine ⟨c, ?_, hring, ?_⟩
    · have hseq : v.outMeta.seqPublish = cell.seq := by
        rw [hmeta, ← hcell]
        rfl
      rw [hseq]
      exact hmem
    · rw [hread, hcell, himage]

end Log

end Writers
end Camera3D.Ipc
