import Camera3D.Ipc.Regular

/-! The scan of `TryReadLatestSlot`, in general and on a ring filled by one thread. -/
namespace Camera3D.Ipc

/-- Slot `p` carries the highest number, and no later slot carries it as well. -/
structure Latest (seq : ℕ → UInt64) (n p : ℕ) : Prop where
  lt : p < n
  le : ∀ i < n, seq i ≤ seq p
  last : ∀ i < n, p < i → seq i < seq p

theorem Latest.eq {seq : ℕ → UInt64} {n p q : ℕ} (hp : Latest seq n p) (hq : Latest seq n q) :
    p = q := by
  rcases Nat.lt_trichotomy p q with h | h | h
  · exact absurd (hq.le p hp.lt) (UInt64.not_le.mpr (hp.last q hq.lt h))
  · exact h
  · exact absurd (hp.le q hq.lt) (UInt64.not_le.mpr (hq.last p hp.lt h))

theorem latestSlot_succ (seq : ℕ → UInt64) (n : ℕ) :
    latestSlot seq (n + 1) =
      if (latestSlot seq n).1 ≤ seq n then (seq n, n) else latestSlot seq n := by
  simp only [latestSlot, List.range_succ, List.foldl_append, List.foldl_cons, List.foldl_nil]
  rfl

theorem latestSlot_congr {f g : ℕ → UInt64} {n : ℕ} (h : ∀ i < n, f i = g i) :
    latestSlot f n = latestSlot g n := by
  induction n with
  | zero => rfl
  | succ n ih =>
    have hn : f n = g n := h n (Nat.lt_succ_self n)
    rw [latestSlot_succ, latestSlot_succ, ih fun i hi => h i (by omega), hn]

theorem latestSlot_latest (seq : ℕ → UInt64) {n : ℕ} (hn : 0 < n) :
    ∃ p, latestSlot seq n = (seq p, p) ∧ Latest seq n p := by
  induction n with
  | zero => omega
  | succ n ih =>
    rw [latestSlot_succ]
    rcases Nat.eq_zero_or_pos n with rfl | hpos
    · refine ⟨0, if_pos (UInt64.le_iff_toNat_le.mpr (Nat.zero_le _)), by omega, ?_, ?_⟩
      · intro i hi
        rw [Nat.lt_one_iff.mp hi]
        exact UInt64.le_refl _
      · omega
    · obtain ⟨p, hp, hlat⟩ := ih hpos
      rw [hp]
      by_cases hle : seq p ≤ seq n
      · refine ⟨n, if_pos hle, by omega, fun i hi => ?_, by omega⟩
        rcases Nat.lt_succ_iff_lt_or_eq.mp hi with hi | rfl
        · exact UInt64.le_trans (hlat.le i hi) hle
        · exact UInt64.le_refl _
      · have hlt : seq n < seq p := UInt64.not_le.mp hle
        refine ⟨p, if_neg hle, by have := hlat.lt; omega, fun i hi => ?_, fun i hi hpi => ?_⟩
        · rcases Nat.lt_succ_iff_lt_or_eq.mp hi with hi | rfl
          · exact hlat.le i hi
          · exact UInt64.le_of_lt hlt
        · rcases Nat.lt_succ_iff_lt_or_eq.mp hi with hi | rfl
          · exact hlat.last i hi hpi
          · exact hlt

/-- The number of the slots that the current lap has reached, after `n` writes. -/
def lapNumber (n : ℕ) : UInt64 := .ofNat ((n + 63) / 64)

/-- The highest number in a ring after `n` writes: that of the current lap, unless it has come
round to zero while some slots are on the lap before. -/
def topNumber (n : ℕ) : UInt64 := if lapNumber n = 0 then .ofNat (n / 64) else lapNumber n

theorem laps_lastWrite {r n : ℕ} (hn : 0 < n) : laps r n ((r + (n - 1)) % 64) = (n + 63) / 64 := by
  unfold laps
  split_ifs <;> omega

theorem laps_eq_or (r n i : ℕ) : laps r n i = (n + 63) / 64 ∨ laps r n i = n / 64 := by
  unfold laps
  split_ifs <;> omega

/-- Some slot is still on the previous lap, or all are on the current one. -/
theorem exists_laps_eq_div (r n : ℕ) : ∃ i < 64, laps r n i = n / 64 := by
  refine ⟨(r + 63) % 64, Nat.mod_lt _ (by omega), ?_⟩
  unfold laps
  split_ifs <;> omega

/-- The current lap starts at slot `r`; while it has not passed slot 63, every slot after the
one just written is still on the previous lap. -/
theorem laps_after_lastWrite {r n i : ℕ} (hr : r < 64) (hn : 0 < n) (hlap : r + (n - 1) % 64 < 64)
    (hi : i < 64) (hlt : (r + (n - 1)) % 64 < i) :
    laps r n i = n / 64 ∧ (n + 63) / 64 = n / 64 + 1 := by
  unfold laps
  split_ifs <;> omega

/-- Once the lap has passed slot 63, that slot is on the current lap and comes after the one
just written. -/
theorem laps_slot63 {r n : ℕ} (hr : r < 64) (hn : 0 < n) (hlap : 64 ≤ r + (n - 1) % 64) :
    laps r n 63 = (n + 63) / 64 ∧ (r + (n - 1)) % 64 < 63 := by
  unfold laps
  split_ifs <;> omega

private theorem ofNat_lt_succ {k : ℕ} (h : UInt64.ofNat (k + 1) ≠ 0) :
    UInt64.ofNat k < .ofNat (k + 1) := by
  rw [UInt64.lt_iff_toNat_lt, UInt64.toNat_ofNat', UInt64.toNat_ofNat']
  rw [← UInt64.toNat_inj.ne, UInt64.toNat_ofNat', UInt64.toNat_zero] at h
  omega

theorem ofNat_div_le_lapNumber {n : ℕ} (hz : lapNumber n ≠ 0) :
    UInt64.ofNat (n / 64) ≤ lapNumber n := by
  rcases Nat.eq_or_lt_of_le (show n / 64 ≤ (n + 63) / 64 by omega) with he | hl
  · rw [lapNumber, ← he]
    exact UInt64.le_refl _
  · have hs : (n + 63) / 64 = n / 64 + 1 := by omega
    rw [lapNumber, hs] at hz ⊢
    exact UInt64.le_of_lt (ofNat_lt_succ hz)

section Numbers
variable {r n : ℕ}

theorem laps_le_topNumber (i : ℕ) : UInt64.ofNat (laps r n i) ≤ topNumber n := by
  unfold topNumber
  split_ifs with hz
  · rcases laps_eq_or r n i with h | h
    · rw [h]
      change lapNumber n ≤ _
      rw [hz, UInt64.le_iff_toNat_le]
      exact Nat.zero_le _
    · rw [h]
      exact UInt64.le_refl _
  · rcases laps_eq_or r n i with h | h
    · rw [h]
      exact UInt64.le_refl _
    · rw [h]
      exact ofNat_div_le_lapNumber hz

theorem exists_laps_eq_topNumber (r n : ℕ) : ∃ i < 64, UInt64.ofNat (laps r n i) = topNumber n := by
  obtain ⟨i, hi, hl⟩ := exists_laps_eq_div r n
  unfold topNumber
  split_ifs with hz
  · exact ⟨i, hi, by rw [hl]⟩
  · rcases Nat.eq_zero_or_pos n with rfl | hn
    · exact absurd rfl hz
    · exact ⟨(r + (n - 1)) % 64, Nat.mod_lt _ (by omega), by rw [laps_lastWrite hn, lapNumber]⟩

/-- The scan finds the slot written last exactly when the current lap has not passed slot 63. -/
theorem latest_lastWrite_iff (hr : r < 64) (hn : 0 < n) (hz : lapNumber n ≠ 0) :
    Latest (fun i => .ofNat (laps r n i)) 64 ((r + (n - 1)) % 64) ↔ r + (n - 1) % 64 < 64 := by
  constructor
  · intro h
    by_contra hlap
    obtain ⟨h63, hlt⟩ := laps_slot63 hr hn (Nat.not_lt.mp hlap)
    have hlast := h.last 63 (by omega) hlt
    simp only [h63, laps_lastWrite hn] at hlast
    exact UInt64.lt_irrefl _ hlast
  · intro hlap
    refine ⟨Nat.mod_lt _ (by omega), fun i _ => ?_, fun i hi hlt => ?_⟩
    · have htop := laps_le_topNumber (r := r) (n := n) i
      rw [topNumber, if_neg hz] at htop
      simp only [laps_lastWrite hn]
      exact htop
    · obtain ⟨hdiv, hs⟩ := laps_after_lastWrite hr hn hlap hi hlt
      simp only [laps_lastWrite hn, hdiv]
      rw [lapNumber, hs] at hz
      rw [hs]
      exact ofNat_lt_succ hz

end Numbers

theorem foldl_max_eq_latestSlot (seq : ℕ → UInt64) (n : ℕ) :
    (List.range n).foldl (fun best i => max best (seq i)) 0 = (latestSlot seq n).1 := by
  induction n with
  | zero => rfl
  | succ n ih =>
    have hmax : max (latestSlot seq n).1 (seq n) =
        if (latestSlot seq n).1 ≤ seq n then seq n else (latestSlot seq n).1 := rfl
    rw [List.range_succ, List.foldl_append, ih, latestSlot_succ, List.foldl_cons, List.foldl_nil,
      hmax]
    split_ifs <;> rfl

section Regular
variable {m : Mapping} {r n : ℕ}

theorem Regular.seqPublish_eq (h : Regular m r n) {i : ℕ} (hi : i < 64) :
    (m.slot (.ofNat i)).seqPublish = .ofNat (laps r n i) := by
  have hi32 : (UInt32.ofNat i).toNat = i := by
    rw [UInt32.toNat_ofNat']
    omega
  have hlaps := h.seq_eq (.ofNat i) (by omega)
  rwa [hi32] at hlaps

/-- Both scans of a ring that one thread fills come to the highest number. -/
theorem Regular.latestSlot_eq (h : Regular m r n) :
    ∃ p, Latest (fun i => .ofNat (laps r n i)) 64 p ∧ (m.cell (.ofNat p)).seq = topNumber n ∧
      latestSlot (fun i => (m.slot (.ofNat i)).seqPublish) m.global.slotCount.toNat =
        (topNumber n, p) := by
  have hn : m.global.slotCount.toNat = 64 := h.slotCount_eq
  obtain ⟨p, hscan, hlat⟩ :=
    latestSlot_latest (fun i => .ofNat (laps r n i)) (show 0 < 64 by omega)
  have htop : UInt64.ofNat (laps r n p) = topNumber n := by
    obtain ⟨q, hq, heq⟩ := exists_laps_eq_topNumber r n
    refine UInt64.le_antisymm (laps_le_topNumber p) ?_
    rw [← heq]
    exact hlat.le q hq
  refine ⟨p, hlat, (h.seqPublish_eq hlat.lt).trans htop, ?_⟩
  rw [hn, latestSlot_congr fun i hi => h.seqPublish_eq hi, hscan, htop]

theorem Regular.maxPublishedSeq_eq (h : Regular m r n) : m.maxPublishedSeq = topNumber n := by
  obtain ⟨p, _, _, hscan⟩ := h.latestSlot_eq
  rw [Mapping.maxPublishedSeq, if_neg (not_not.mpr h.wellFormed.magic), foldl_max_eq_latestSlot,
    hscan]

/-- While no image is empty, the scan picks a slot whose number is the highest in the ring. -/
theorem Regular.tryReadLatestSlot_eq (h : Regular m r n)
    (hne : ∀ i : UInt32, i.toNat < 64 → laps r n i.toNat ≠ 0 → (m.cell i).image.bytes ≠ []) :
    ∃ p, Latest (fun i => .ofNat (laps r n i)) 64 p ∧ (m.cell (.ofNat p)).seq = topNumber n ∧
      m.tryReadLatestSlot =
        if topNumber n = 0 then none
        else some (⟨m.slot (.ofNat p), (m.slot (.ofNat p)).payloadOffset,
          (m.slot (.ofNat p)).payloadSize⟩, .ofNat p) := by
  obtain ⟨p, hlat, hcell, hscan⟩ := h.latestSlot_eq
  refine ⟨p, hlat, hcell, ?_⟩
  unfold Mapping.tryReadLatestSlot
  rw [if_neg (not_not.mpr h.wellFormed.magic)]
  simp only [hscan]
  split_ifs with hz
  · rfl
  · have hp32 : (UInt32.ofNat p).toNat = p := by
      have hlt := hlat.lt
      rw [UInt32.toNat_ofNat']
      omega
    have hlt : (UInt32.ofNat p).toNat < 64 := hp32.symm ▸ hlat.lt
    have hlaps : laps r n (UInt32.ofNat p).toNat ≠ 0 := by
      intro h0
      have hseq := h.seq_eq (.ofNat p) hlt
      rw [h0] at hseq
      exact hz (hcell.symm.trans hseq)
    rw [Mapping.tryReadSlot_eq h.wellFormed, if_pos, Option.map_some]
    exact ⟨h.slotCount_eq.symm ▸ hlt, hcell ▸ hz, hne _ hlt hlaps⟩

end Regular
end Camera3D.Ipc
