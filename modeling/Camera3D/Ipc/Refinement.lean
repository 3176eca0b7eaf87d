import Camera3D.Ipc.Regular

/-! Reading a slot of a created ring returns the last write into that slot. -/
namespace Camera3D.Ipc
open Transition

/-- What `TryReadSlot` lets its caller see. -/
def Mapping.readCell (m : Mapping) (i : UInt32) : Option Cell :=
  (m.tryReadSlot i).map fun v =>
    ⟨v.outMeta.seqPublish, Memory.read m.bytes v.outPayload.toNat v.outPayloadLen.toNat,
      v.outMeta.width, v.outMeta.height, v.outMeta.pixelFormat⟩

theorem Mapping.readCell_eq {m : Mapping} (h : m.WellFormed) (i : UInt32) :
    m.readCell i =
      if i.toNat < m.slotCount ∧ (m.cell i).seq ≠ 0 ∧ (m.cell i).image.bytes ≠ [] then
        some (m.cell i)
      else none := by
  rw [readCell, tryReadSlot_eq h]
  split_ifs <;> rfl

namespace Writers
variable {ι θ : Type*} [DecidableEq ι] [DecidableEq θ]

/-- A created ring refines the map from each slot to the last write into it: a slot reads back as
that write, unless its payload was empty or its 64-bit number came round to zero. No write touches
a byte outside the slot it publishes. -/
theorem created_ring_refines_lastWrite {rb : ShmRingBuffer} {boost : BoostOutcome} {name : String}
    (hok : (rb.createOrOpen boost name true).2 = true) {s : Writers ι θ} {ρ : ι}
    (hs : (rb.createOrOpen boost name true).1.mapping = some (s.rings ρ))
    (cs : List (Call ι θ)) :
    (∀ i, ((run step s cs).rings ρ).readCell i =
      (lastWrite ρ i (trace s cs)).filter fun c => c.seq ≠ 0 ∧ c.image.bytes ≠ []) ∧
    ∀ pre c post, cs = pre ++ c :: post → ∀ x,
      (∀ seq idx, c.ring = ρ → ((run step s pre).result c).published = some (seq, idx) →
        ((run step s pre).rings ρ).Foreign idx x) →
      ((run step s (pre ++ [c])).rings ρ).bytes x = ((run step s pre).rings ρ).bytes x := by
  obtain ⟨m, hm, hc⟩ := createOrOpen_created hok
  have hcs : (s.rings ρ).Created := by
    rw [hm] at hs
    rwa [← Option.some.inj hs]
  refine ⟨fun i => ?_, fun pre c post _ x hx => ?_⟩
  · obtain ⟨hwf, hg, _⟩ := run_wellFormed cs hcs.wellFormed
    have hn : ((run step s cs).rings ρ).slotCount = (s.rings ρ).slotCount := by
      rw [Mapping.slotCount, hg, Mapping.slotCount]
    rw [Mapping.readCell_eq hwf, hn]
    by_cases hi : i.toNat < (s.rings ρ).slotCount
    · have hempty := hcs.empty i (hcs.slotCount_eq ▸ hi)
      rw [run_cell cs hcs.wellFormed hi, hempty]
      cases hl : lastWrite ρ i (trace s cs) with
      | none => simp [Mapping.emptyCell]
      | some w => simp [hi, Option.filter]
    · rw [lastWrite_eq_none cs hcs.wellFormed (Nat.not_lt.mp hi), if_neg fun h => hi h.1]
      rfl
  · have hwf := (run_wellFormed pre hcs.wellFormed).1
    rw [run_append, run_cons, run_nil]
    rcases step_cases (run step s pre) c hwf with ⟨hsame, _⟩ | ⟨seq, idx, hpub, hr, hw⟩
    · rw [hsame]
    · have hlt := Mapping.nextIndex_lt hwf ((run step s pre).cursor c.thread)
      rw [← hw.idx_eq] at hlt
      exact hw.bytes_eq x (Mapping.not_slotBytes_of_foreign hwf hlt (hx seq idx hr hpub))

/-- A created region of 16-byte slots, and one thread that writes the same image `n` times. -/
def repeatRegion : Mapping := ⟨fun _ => 0, 4112⟩

def repeatStart : Writers Unit Unit := ⟨fun _ => repeatRegion.initialise, fun _ => 0⟩

def repeatCalls (n : ℕ) : List (Call Unit Unit) := List.replicate n ⟨(), (), ⟨[7], 1, 1, 0⟩⟩

theorem created_ring_refines_lastWrite_repeat :
    ((run step repeatStart (repeatCalls 65)).rings ()).readCell 0 = some ⟨2, ⟨[7], 1, 1, 0⟩⟩ :=
  ((@created_ring_refines_lastWrite Unit Unit _ _ {} (.mapped repeatRegion)
    kDefaultHubRingRegionName rfl repeatStart () rfl (repeatCalls 65)).1 0).trans
    (by decide +kernel)

private theorem unreadable_of_laps {n : ℕ} (hn : laps 0 n 0 = 2 ^ 64) :
    ¬ ∀ i, (((run step repeatStart (repeatCalls n)).rings ()).readCell i).isSome ↔
      ∃ w, lastWrite () i (trace repeatStart (repeatCalls n)) = some w ∧ w.image.bytes ≠ [] := by
  intro hclaim
  have hcreated : (repeatStart.rings ()).Created := Mapping.initialise_created (by decide)
  have hstart : Filling repeatStart () () 0 0 := ⟨hcreated.regular 0, rfl⟩
  have hcap : (repeatStart.rings ()).capacity = 16 := by
    rw [Mapping.capacity, Mapping.payloadStart, hcreated.slotCount_eq]
    rfl
  have hfit : (⟨[7], 1, 1, 0⟩ : Image).bytes.length ≤ (repeatStart.rings ()).capacity := by
    rw [hcap]
    decide
  obtain ⟨hfill, himg⟩ := hstart.run_replicate hfit
    (fun i _ hl => absurd (laps_zero 0 i.toNat) hl) n
  rw [Nat.zero_add] at hfill himg
  have hseq : (((run step repeatStart (repeatCalls n)).rings ()).cell 0).seq = 0 := by
    rw [repeatCalls, hfill.regular.seq_eq 0 (by decide)]
    exact (congrArg UInt64.ofNat hn).trans (by decide)
  have hbytes : (((run step repeatStart (repeatCalls n)).rings ()).cell 0).image.bytes = [7] := by
    rw [repeatCalls, himg 0 (by decide)]
    intro h
    exact absurd (hn.symm.trans h) (by decide)
  have hread : ((run step repeatStart (repeatCalls n)).rings ()).readCell 0 = none := by
    rw [repeatCalls, Mapping.readCell_eq hfill.regular.wellFormed, if_neg]
    exact fun h => h.2.1 hseq
  have hnone : ¬ ∃ w, lastWrite () 0 (trace repeatStart (repeatCalls n)) = some w ∧
      w.image.bytes ≠ [] := by
    rw [← hclaim 0, hread]
    simp
  rw [run_cell _ hcreated.wellFormed (by rw [hcreated.slotCount_eq]; decide)] at hbytes
  cases hl : lastWrite () 0 (trace repeatStart (repeatCalls n)) with
  | none =>
    rw [hl, Option.getD_none, hcreated.empty 0 (by decide)] at hbytes
    cases hbytes
  | some w =>
    rw [hl, Option.getD_some] at hbytes
    exact hnone ⟨w, hl, by rw [hbytes]; decide⟩

/-- Without the clause about the number the refinement fails: a slot written `2 ^ 64` times
carries the number zero of a slot that was never written. -/
theorem lastWrite_unreadable_after_wrap :
    (ShmRingBuffer.createOrOpen {} (.mapped repeatRegion) kDefaultHubRingRegionName true).2 =
      true ∧
    (ShmRingBuffer.createOrOpen {} (.mapped repeatRegion) kDefaultHubRingRegionName true).1.mapping
      = some (repeatStart.rings ()) ∧
    ¬ ∀ i, (((run step repeatStart (repeatCalls (64 * 2 ^ 64))).rings ()).readCell i).isSome ↔
      ∃ w, lastWrite () i (trace repeatStart (repeatCalls (64 * 2 ^ 64))) = some w ∧
        w.image.bytes ≠ [] :=
  ⟨rfl, rfl, unreadable_of_laps (by decide)⟩

end Writers
end Camera3D.Ipc
