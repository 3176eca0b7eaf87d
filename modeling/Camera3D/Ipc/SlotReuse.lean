import Camera3D.Ipc.Refinement
import Mathlib.Data.List.Nodup

/-! Slot reuse: how many further writes a published frame survives. -/
namespace Camera3D.Ipc
open Transition

theorem mod_ne_of_lt {N a i j : ℕ} (hij : i < j) (hj : j < i + N) : (a + i) % N ≠ (a + j) % N := by
  intro h
  have hdvd : N ∣ (a + j) - (a + i) := (Nat.modEq_iff_dvd' (by omega)).mp h
  have hle := Nat.le_of_dvd (by omega) hdvd
  omega

/-- A stretch of at most `N` consecutive residues modulo `N` has no repetition. -/
theorem nodup_of_infix_residues {N a k : ℕ} {w : List ℕ}
    (hw : w <:+: (List.range k).map fun j => (a + j) % N) (hN : w.length ≤ N) : w.Nodup := by
  obtain ⟨pre, post, h⟩ := hw
  have hget : ∀ i (hi : i < w.length), w[i] = (a + (pre.length + i)) % N := by
    intro i hi
    have hlen := congrArg List.length h
    simp only [List.length_append, List.length_map, List.length_range] at hlen
    have hk : pre.length + i < ((List.range k).map fun j => (a + j) % N).length := by
      rw [List.length_map, List.length_range]
      omega
    have hl : ((List.range k).map fun j => (a + j) % N)[pre.length + i] =
        (a + (pre.length + i)) % N := by simp
    rw [← hl]
    simp only [← h]
    rw [List.getElem_append_left (by simp; omega), List.getElem_append_right (by omega)]
    simp
  refine List.nodup_iff_pairwise_ne.mpr (List.pairwise_iff_getElem.mpr fun i j hi hj hij => ?_)
  rw [hget i hi, hget j hj, ← Nat.add_assoc, ← Nat.add_assoc]
  exact mod_ne_of_lt hij (by omega)

namespace Writers
variable {ι θ : Type*} [DecidableEq ι] [DecidableEq θ]

/-- The slots of the successful writes to ring `ρ`, in order. -/
def publishedSlots (ρ : ι) (log : List (Logged ι θ)) : List UInt32 :=
  log.filterMap fun e => if e.1.ring = ρ then e.2.map Prod.snd else none

/-- The shared cursor acts as a cursor of ring `ρ`: only thread `t` writes `ρ`, it writes no other
ring, none of its payloads is refused, and the cursor wraps only where that keeps the slot order. -/
def OwnCursor (ρ : ι) (t : θ) (s : Writers ι θ) (c : Call ι θ) : Prop :=
  (c.ring = ρ ↔ c.thread = t) ∧ (c.ring = ρ →
    c.image.bytes.length ≤ (s.rings ρ).capacity ∧
      ((s.rings ρ).slotCount ∣ 2 ^ 32 ∨ (s.cursor t).toNat + 1 < 2 ^ 32))

instance (ρ : ι) (t : θ) (s : Writers ι θ) (c : Call ι θ) : Decidable (OwnCursor ρ t s c) :=
  inferInstanceAs (Decidable (_ ∧ _))

private theorem residue_succ {c : UInt32} {N : ℕ} (h : N ∣ 2 ^ 32 ∨ c.toNat + 1 < 2 ^ 32) (j : ℕ) :
    ((c + 1).toNat + j) % N = (c.toNat + (j + 1)) % N := by
  have hshift : c.toNat + 1 + j = c.toNat + (j + 1) := by omega
  rw [UInt32.toNat_add, UInt32.toNat_one]
  cases h with
  | inl hN => rw [Nat.add_mod, Nat.mod_mod_of_dvd _ hN, ← Nat.add_mod, hshift]
  | inr hc => rw [Nat.mod_eq_of_lt hc, hshift]

/-- Under `OwnCursor` the slots follow each other round the ring. -/
theorem publishedSlots_eq {s : Writers ι θ} {ρ : ι} {t : θ} (cs : List (Call ι θ))
    (hwf : (s.rings ρ).WellFormed) (hc : Along step (OwnCursor ρ t) s cs) :
    ∃ k, (publishedSlots ρ (trace s cs)).map UInt32.toNat =
      (List.range k).map fun j => ((s.cursor t).toNat + j) % (s.rings ρ).slotCount := by
  induction cs generalizing s with
  | nil => exact ⟨0, rfl⟩
  | cons c cs ih =>
    obtain ⟨⟨hiff, hown⟩, hc'⟩ := hc
    obtain ⟨hwf', hg, _⟩ := step_wellFormed c hwf
    have hn : ((s.step c).rings ρ).slotCount = (s.rings ρ).slotCount := by
      rw [Mapping.slotCount, hg, Mapping.slotCount]
    obtain ⟨k, hk⟩ := ih hwf' hc'
    rw [hn] at hk
    by_cases hr : c.ring = ρ
    · have ht := hiff.mp hr
      obtain ⟨hfit, hwrap⟩ := hown hr
      subst hr
      rcases Mapping.tryWriteImage_cases hwf (s.cursor c.thread) c.image with
        ⟨_, hlt⟩ | ⟨m', seq, idx, hres, hw⟩
      · omega
      · have hres' : s.result c = ⟨m', s.cursor c.thread + 1, some (seq, idx)⟩ := hres
        have hcur : (s.step c).cursor t = s.cursor t + 1 := by
          rw [← ht]
          simp [step, hres']
        have hidx : idx.toNat = (s.cursor t).toNat % (s.rings c.ring).slotCount := by
          rw [hw.idx_eq, ht, Mapping.nextIndex, UInt32.toNat_mod]
          rfl
        refine ⟨k + 1, ?_⟩
        simp only [hcur, residue_succ hwrap] at hk
        rw [List.range_succ_eq_map, List.map_cons, List.map_map]
        simp only [trace, publishedSlots, List.filterMap_cons, hres', if_true, Option.map_some,
          List.map_cons, hidx, Nat.add_zero]
        exact congrArg (_ :: ·) hk
    · have ht : c.thread ≠ t := fun h => hr (hiff.mpr h)
      have hcur : (s.step c).cursor t = s.cursor t := by
        simp [step, Function.update_of_ne (Ne.symm ht)]
      refine ⟨k, ?_⟩
      rw [hcur] at hk
      simpa only [trace, publishedSlots, List.filterMap_cons, if_neg hr] using hk

/-- While one thread, writing nothing else, makes every write and none is refused, any
`slotCount` consecutive successful writes use pairwise distinct slots. -/
theorem slots_distinct_of_ownCursor {s : Writers ι θ} {ρ : ι} {t : θ} (cs : List (Call ι θ))
    (hwf : (s.rings ρ).WellFormed) (hc : Along step (OwnCursor ρ t) s cs) {w : List UInt32}
    (hw : w <:+: publishedSlots ρ (trace s cs)) (hlen : w.length = (s.rings ρ).slotCount) :
    w.Nodup := by
  obtain ⟨k, hk⟩ := publishedSlots_eq cs hwf hc
  have hinf : w.map UInt32.toNat <:+:
      (List.range k).map fun j => ((s.cursor t).toNat + j) % (s.rings ρ).slotCount :=
    hk ▸ hw.map _
  have hnodup : (w.map UInt32.toNat).Nodup :=
    nodup_of_infix_residues hinf (by rw [List.length_map, hlen])
  exact hnodup.of_map

theorem slots_distinct_of_ownCursor_repeat :
    ((publishedSlots () (trace repeatStart (repeatCalls 70))).drop 6).Nodup :=
  slots_distinct_of_ownCursor (t := ()) (repeatCalls 70)
    (Mapping.initialise_created (by decide)).wellFormed (by decide +kernel)
    (List.drop_suffix 6 _).isInfix (by decide +kernel)

/-- Each thread starts its own cursor at zero: one write of one thread, then 63 of another. -/
def twoThreadStart : Writers Unit Bool := ⟨fun _ => repeatRegion.initialise, fun _ => 0⟩

def twoThreadCalls : List (Call Unit Bool) :=
  ⟨(), false, ⟨[7], 1, 1, 0⟩⟩ :: List.replicate 63 ⟨(), true, ⟨[8], 1, 1, 0⟩⟩

theorem slots_repeat_across_threads :
    ¬ ∀ w, w <:+: publishedSlots () (trace twoThreadStart twoThreadCalls) →
      w.length = (twoThreadStart.rings ()).slotCount → w.Nodup := by
  intro h
  have hdup : ¬ (publishedSlots () (trace twoThreadStart twoThreadCalls)).Nodup := by
    decide +kernel
  exact hdup (h _ List.infix_rfl (by decide +kernel))

end Writers
end Camera3D.Ipc
