import Camera3D.Ipc.Writers

/-! The regular regime: one thread fills a created ring, lap after lap. -/
namespace Camera3D.Ipc
open Transition

/-- How often slot `i` has been written after `n` writes that started at slot `r`. -/
def laps (r n i : ℕ) : ℕ := n / 64 + if (i + 64 - r % 64) % 64 < n % 64 then 1 else 0

theorem laps_zero (r i : ℕ) : laps r 0 i = 0 := by
  unfold laps
  split_ifs <;> omega

theorem laps_succ {r n i : ℕ} (hi : i < 64) :
    laps r (n + 1) i = laps r n i + if i = (r + n) % 64 then 1 else 0 := by
  unfold laps
  split_ifs <;> omega

/-- A ring of 64 slots whose slot `i` carries the number of writes it received. -/
structure Regular (m : Mapping) (r n : ℕ) : Prop where
  wellFormed : m.WellFormed
  slotCount_eq : m.slotCount = 64
  seq_eq : ∀ i : UInt32, i.toNat < 64 → (m.cell i).seq = .ofNat (laps r n i.toNat)

theorem Mapping.Created.regular {m : Mapping} (h : m.Created) (r : ℕ) : Regular m r 0 := by
  refine ⟨h.wellFormed, h.slotCount_eq, fun i hi => ?_⟩
  rw [h.empty i hi, laps_zero]
  rfl

theorem nextIndex_toNat {m : Mapping} (hn : m.slotCount = 64) (c : UInt32) :
    (m.nextIndex c).toNat = c.toNat % 64 := by
  rw [Mapping.nextIndex, UInt32.toNat_mod, ← hn]
  rfl

theorem Regular.write {m m' : Mapping} {r n : ℕ} {c idx : UInt32} {img : Image} {seq : UInt64}
    (h : Regular m r n) (hc : c.toNat % 64 = (r + n) % 64) (hw : m.Wrote c img m' seq idx) :
    Regular m' r (n + 1) := by
  have hidx : idx.toNat = (r + n) % 64 := by
    rw [hw.idx_eq, nextIndex_toNat h.slotCount_eq, hc]
  refine ⟨hw.wellFormed, hw.slotCount_eq.trans h.slotCount_eq, fun i hi => ?_⟩
  have hone : ∀ k, (UInt64.ofNat k) + 1 = .ofNat (k + 1) := fun k => (UInt64.ofNat_add k 1).symm
  rw [laps_succ hi]
  by_cases hij : i = idx
  · subst hij
    rw [hw.self, hw.seq_eq, h.seq_eq i hi, if_pos hidx, hone]
  · have hne : ¬ i.toNat = (r + n) % 64 := fun e => hij (UInt32.toNat_inj.mp (e.trans hidx.symm))
    rw [hw.others i (h.slotCount_eq ▸ hi) hij, h.seq_eq i hi, if_neg hne, Nat.add_zero]

namespace Writers
variable {ι θ : Type*} [DecidableEq ι] [DecidableEq θ]

/-- The state after `n` writes of one thread to one ring, all of which fitted. -/
structure Filling (s : Writers ι θ) (ρ : ι) (t : θ) (r n : ℕ) : Prop where
  regular : Regular (s.rings ρ) r n
  cursor_eq : (s.cursor t).toNat % 64 = (r + n) % 64

theorem Filling.step {s : Writers ι θ} {ρ : ι} {t : θ} {r n : ℕ} (h : Filling s ρ t r n)
    {img : Image} (hfit : img.bytes.length ≤ (s.rings ρ).capacity) :
    Filling (s.step ⟨ρ, t, img⟩) ρ t r (n + 1) ∧ ∃ seq idx, idx.toNat = (r + n) % 64 ∧
      (s.rings ρ).Wrote (s.cursor t) img ((s.step ⟨ρ, t, img⟩).rings ρ) seq idx := by
  have hwf := h.regular.wellFormed
  rcases Mapping.tryWriteImage_cases hwf (s.cursor t) img with ⟨_, hlt⟩ | ⟨m', seq, idx, hr, hw⟩
  · omega
  · have hres : s.result ⟨ρ, t, img⟩ = ⟨m', s.cursor t + 1, some (seq, idx)⟩ := hr
    have hm : (s.step ⟨ρ, t, img⟩).rings ρ = m' := by simp [Writers.step, hres]
    have hc : (s.step ⟨ρ, t, img⟩).cursor t = s.cursor t + 1 := by simp [Writers.step, hres]
    have hcur := h.cursor_eq
    have hidx : idx.toNat = (r + n) % 64 := by
      rw [hw.idx_eq, nextIndex_toNat h.regular.slotCount_eq, hcur]
    subst hm
    refine ⟨⟨h.regular.write hcur hw, ?_⟩, seq, idx, hidx, hw⟩
    rw [hc, UInt32.toNat_add, UInt32.toNat_one]
    omega

/-- Writing one image over and over: every slot written so far holds it. -/
theorem Filling.run_replicate {s : Writers ι θ} {ρ : ι} {t : θ} {r n : ℕ} {img : Image}
    (h : Filling s ρ t r n) (hfit : img.bytes.length ≤ (s.rings ρ).capacity)
    (himg : ∀ i : UInt32, i.toNat < 64 → laps r n i.toNat ≠ 0 →
      ((s.rings ρ).cell i).image = img) (k : ℕ) :
    Filling (run Writers.step s (List.replicate k ⟨ρ, t, img⟩)) ρ t r (n + k) ∧
      ∀ i : UInt32, i.toNat < 64 → laps r (n + k) i.toNat ≠ 0 →
        (((run Writers.step s (List.replicate k ⟨ρ, t, img⟩)).rings ρ).cell i).image = img := by
  induction k generalizing s n with
  | zero => exact ⟨h, himg⟩
  | succ k ih =>
    obtain ⟨hstep, seq, idx, hidx, hw⟩ := h.step hfit
    rw [List.replicate_succ, run_cons, show n + (k + 1) = n + 1 + k by omega]
    refine ih hstep (hw.capacity_eq ▸ hfit) fun i hi hl => ?_
    by_cases hij : i = idx
    · rw [hij, hw.self]
    · have hne : ¬ i.toNat = (r + n) % 64 := fun e => hij (UInt32.toNat_inj.mp (e.trans hidx.symm))
      rw [laps_succ hi, if_neg hne, Nat.add_zero] at hl
      rw [hw.others i (h.regular.slotCount_eq ▸ hi) hij]
      exact himg i hi hl

end Writers
end Camera3D.Ipc
