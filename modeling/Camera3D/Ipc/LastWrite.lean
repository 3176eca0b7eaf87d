import Camera3D.Ipc.Latest
import Camera3D.Ipc.Refinement

/-! A ring that one thread fills is read from its end: the latest slot holds the last write. -/
namespace Camera3D.Ipc
open Transition

/-- `TryReadLatestSlot` returns slot `p` with number `k` and image `img`, and `MaxPublishedSeq`
returns that number as well. -/
def Mapping.LatestIs (m : Mapping) (p k : ℕ) (img : Image) : Prop :=
  ∃ v idx, m.tryReadLatestSlot = some (v, idx) ∧ idx.toNat = p ∧ v.outMeta.seqPublish.toNat = k ∧
    (⟨Memory.read m.bytes v.outPayload.toNat v.outPayloadLen.toNat, v.outMeta.width,
      v.outMeta.height, v.outMeta.pixelFormat⟩ : Image) = img ∧ m.maxPublishedSeq.toNat = k

theorem Regular.latestIs {m : Mapping} {n : ℕ} {img : Image} (h : Regular m 0 n)
    (hne : ∀ i : UInt32, i.toNat < 64 → laps 0 n i.toNat ≠ 0 → (m.cell i).image.bytes ≠ [])
    (hlast : (m.cell (.ofNat ((n - 1) % 64))).image = img) (hn : 0 < n) (hz : lapNumber n ≠ 0) :
    m.LatestIs ((n - 1) % 64) (lapNumber n).toNat img := by
  have htop : topNumber n = lapNumber n := if_neg hz
  obtain ⟨p, hlat, hcell, hread⟩ := h.tryReadLatestSlot_eq hne
  have hp : p = (n - 1) % 64 := by
    have hend := (latest_lastWrite_iff (r := 0) (by omega) hn hz).mpr (by omega)
    rw [Nat.zero_add] at hend
    exact hlat.eq hend
  subst hp
  rw [htop] at hcell hread
  rw [if_neg hz] at hread
  refine ⟨_, _, hread, ?_, congrArg UInt64.toNat hcell, ?_, ?_⟩
  · rw [UInt32.toNat_ofNat']
    omega
  · rw [← hlast]
    rfl
  · rw [h.maxPublishedSeq_eq, htop]

/-- The latest slot is none that carries a lower number than another. -/
theorem Regular.latest_ne_of_lt {m : Mapping} {r n i j : ℕ} (h : Regular m r n)
    (hne : ∀ i : UInt32, i.toNat < 64 → laps r n i.toNat ≠ 0 → (m.cell i).image.bytes ≠ [])
    (hj : j < 64) (hlt : UInt64.ofNat (laps r n i) < .ofNat (laps r n j)) {v : SlotView}
    {idx : UInt32} (hread : m.tryReadLatestSlot = some (v, idx)) : idx.toNat ≠ i := by
  obtain ⟨p, hlat, _, heq⟩ := h.tryReadLatestSlot_eq hne
  rw [heq] at hread
  split_ifs at hread
  rw [← (Prod.mk.inj (Option.some.inj hread)).2, UInt32.toNat_ofNat']
  have hp := hlat.lt
  rintro hpi
  have hpi : p = i := by omega
  exact UInt64.not_le.mpr hlt (hpi ▸ hlat.le j hj)

namespace Writers
variable {ι θ : Type*}

/-- The ring after the writes `ws`, the first of which went to slot 0. -/
structure Swept (s : Writers ι θ) (ρ : ι) (t : θ) (ws : List (Call ι θ)) : Prop where
  filling : Filling s ρ t 0 ws.length
  nonempty : ∀ i : UInt32, i.toNat < 64 → laps 0 ws.length i.toNat ≠ 0 →
    ((s.rings ρ).cell i).image.bytes ≠ []
  last : ∀ w ∈ ws.getLast?, ∀ i : UInt32, i.toNat = (ws.length - 1) % 64 →
    ((s.rings ρ).cell i).image = w.image

theorem swept_created {s : Writers ι θ} {ρ : ι} {t : θ} (h : (s.rings ρ).Created)
    (hcur : (s.cursor t).toNat % 64 = 0) : Swept s ρ t [] where
  filling := ⟨h.regular 0, hcur⟩
  nonempty i _ hl := absurd (laps_zero 0 i.toNat) hl
  last _ hw := by cases hw

variable [DecidableEq ι]

def writes (ρ : ι) (cs : List (Call ι θ)) : List (Call ι θ) := cs.filter (·.ring = ρ)

theorem writes_append (ρ : ι) (cs ds : List (Call ι θ)) :
    writes ρ (cs ++ ds) = writes ρ cs ++ writes ρ ds := List.filter_append cs ds

variable [DecidableEq θ]

/-- Thread `t` alone writes ring `ρ`, it writes no other ring, and what it writes is not empty and
is accepted. -/
def Sole (ρ : ι) (t : θ) (s : Writers ι θ) (c : Call ι θ) : Prop :=
  (c.ring = ρ ↔ c.thread = t) ∧
    (c.ring = ρ → c.image.bytes ≠ [] ∧ (s.result c).published ≠ none)

instance (ρ : ι) (t : θ) (s : Writers ι θ) (c : Call ι θ) : Decidable (Sole ρ t s c) :=
  inferInstanceAs (Decidable (_ ∧ _))

theorem Swept.step {s : Writers ι θ} {ρ : ι} {t : θ} {ws : List (Call ι θ)} (h : Swept s ρ t ws)
    {c : Call ι θ} (hc : Sole ρ t s c) : Swept (s.step c) ρ t (ws ++ writes ρ [c]) := by
  obtain ⟨hiff, hwrites⟩ := hc
  by_cases hr : c.ring = ρ
  · obtain ⟨hne, hpub⟩ := hwrites hr
    have ht := hiff.mp hr
    subst hr ht
    have hfit : c.image.bytes.length ≤ (s.rings c.ring).capacity := by
      by_contra hlt
      have hrefused := Mapping.tryWriteNextSlot_refused (c := s.cursor c.thread)
        h.filling.regular.wellFormed (Nat.not_le.mp hlt)
      exact hpub (congrArg WriteResult.published hrefused)
    obtain ⟨hfilling, seq, idx, hidx, hw⟩ := h.filling.step hfit
    rw [Nat.zero_add] at hidx
    have hwrites : writes c.ring [c] = [c] := by simp [writes]
    rw [hwrites]
    refine ⟨by simpa using hfilling, fun i hi hl => ?_, fun w hlast i hi => ?_⟩
    · by_cases hij : i = idx
      · rw [hij, hw.self]
        exact hne
      · have hne' : ¬ i.toNat = (0 + ws.length) % 64 :=
          fun e => hij (UInt32.toNat_inj.mp (by rw [e, hidx, Nat.zero_add]))
        rw [List.length_append, List.length_singleton, laps_succ hi, if_neg hne', Nat.add_zero] at hl
        rw [hw.others i (h.filling.regular.slotCount_eq ▸ hi) hij]
        exact h.nonempty i hi hl
    · rw [List.getLast?_concat, Option.mem_some_iff] at hlast
      subst hlast
      rw [List.length_append, List.length_singleton, Nat.add_sub_cancel, ← hidx] at hi
      rw [UInt32.toNat_inj.mp hi, hw.self]
  · have hother : (s.step c).rings ρ = s.rings ρ := by
      simp [Writers.step, Function.update_of_ne (Ne.symm hr)]
    have hcursor : (s.step c).cursor t = s.cursor t := by
      have ht : t ≠ c.thread := fun he => hr (hiff.mpr he.symm)
      simp [Writers.step, Function.update_of_ne ht]
    have hwrites : writes ρ [c] = [] := by simp [writes, hr]
    rw [hwrites, List.append_nil]
    exact ⟨⟨hother ▸ h.filling.regular, hcursor ▸ h.filling.cursor_eq⟩, hother ▸ h.nonempty,
      hother ▸ h.last⟩

theorem Swept.run {s : Writers ι θ} {ρ : ι} {t : θ} {ws : List (Call ι θ)} (h : Swept s ρ t ws)
    {cs : List (Call ι θ)} (hcs : Along Writers.step (Sole ρ t) s cs) :
    Swept (run Writers.step s cs) ρ t (ws ++ writes ρ cs) := by
  induction cs generalizing s ws with
  | nil => simpa [writes] using h
  | cons c cs ih =>
    obtain ⟨hc, hcs⟩ := hcs
    have hstep := ih (h.step hc) hcs
    rwa [List.append_assoc, ← writes_append] at hstep

theorem lapNumber_eq {n : ℕ} (hn : 0 < n) : lapNumber n = .ofNat ((n - 1) / 64 + 1) := by
  have hlap : (n + 63) / 64 = (n - 1) / 64 + 1 := by omega
  rw [lapNumber, hlap]

/-- After any number of writes the latest slot is the one written last, unless its number has come
round to zero. -/
theorem latest_is_lastWrite {rb : ShmRingBuffer} {boost : BoostOutcome} {name : String}
    (hok : (rb.createOrOpen boost name true).2 = true) {s : Writers ι θ} {ρ : ι}
    (hs : (rb.createOrOpen boost name true).1.mapping = some (s.rings ρ)) {t : θ}
    (hcur : 64 ∣ (s.cursor t).toNat) {cs : List (Call ι θ)} (hcs : Along step (Sole ρ t) s cs)
    {w : Call ι θ} {n : ℕ} (hw : (writes ρ cs).getLast? = some w) (hn : (writes ρ cs).length = n)
    (hnumber : ¬ 2 ^ 64 ∣ (n - 1) / 64 + 1) :
    ((run step s cs).rings ρ).LatestIs ((n - 1) % 64) (((n - 1) / 64 + 1) % 2 ^ 64) w.image := by
  obtain ⟨m, hm, hcreated⟩ := createOrOpen_created hok
  rw [hm] at hs
  rw [Option.some.inj hs] at hcreated
  have hswept := (swept_created hcreated (Nat.mod_eq_zero_of_dvd hcur)).run hcs
  rw [List.nil_append] at hswept
  have hpos : 0 < n := by
    rw [← hn, List.length_pos_iff]
    rintro hnil
    rw [hnil] at hw
    cases hw
  have hlap : (lapNumber n).toNat = ((n - 1) / 64 + 1) % 2 ^ 64 := by
    rw [lapNumber_eq hpos, UInt64.toNat_ofNat']
  have hz : lapNumber n ≠ 0 := by
    intro h0
    rw [h0, UInt64.toNat_zero] at hlap
    exact hnumber (Nat.dvd_of_mod_eq_zero hlap.symm)
  have hlast : (((run step s cs).rings ρ).cell (.ofNat ((n - 1) % 64))).image = w.image := by
    refine hswept.last w hw _ ?_
    rw [hn, UInt32.toNat_ofNat']
    omega
  rw [← hlap]
  exact Regular.latestIs (hn ▸ hswept.filling.regular) (hn ▸ hswept.nonempty) hlast hpos hz

theorem latest_is_lastWrite_repeat :
    ((run step repeatStart (repeatCalls 65)).rings ()).LatestIs 0 2 ⟨[7], 1, 1, 0⟩ :=
  @latest_is_lastWrite Unit Unit _ _ {} (.mapped repeatRegion) kDefaultHubRingRegionName rfl
    repeatStart () rfl () (by decide) (repeatCalls 65) (by decide +kernel)
    ⟨(), (), ⟨[7], 1, 1, 0⟩⟩ 65 rfl (by decide +kernel) (by decide)

theorem Filling.along_sole {s : Writers ι θ} {ρ : ι} {t : θ} {r n : ℕ} (h : Filling s ρ t r n)
    {img : Image} (hne : img.bytes ≠ []) (hfit : img.bytes.length ≤ (s.rings ρ).capacity) (k : ℕ) :
    Along Writers.step (Sole ρ t) s (List.replicate k ⟨ρ, t, img⟩) := by
  induction k generalizing s n with
  | zero => trivial
  | succ k ih =>
    obtain ⟨hstep, seq, idx, _, hw⟩ := h.step hfit
    refine ⟨⟨iff_of_true rfl rfl, fun _ => ⟨hne, ?_⟩⟩, ih hstep (hw.capacity_eq ▸ hfit)⟩
    have hres := Mapping.tryWriteNextSlot_fits (c := s.cursor t) h.regular.wellFormed hfit
    intro hnone
    have hsome := congrArg WriteResult.published hres
    rw [Writers.result, hsome] at hnone
    cases hnone

private theorem behind_of_laps {n : ℕ} (hlt : UInt64.ofNat (laps 0 n 0) < .ofNat (laps 0 n 63)) :
    (writes () (repeatCalls n)).length = n ∧ Along step (Sole () ()) repeatStart (repeatCalls n) ∧
      ∀ k, ¬ ((run step repeatStart (repeatCalls n)).rings ()).LatestIs 0 k ⟨[7], 1, 1, 0⟩ := by
  have hcreated : (repeatStart.rings ()).Created := Mapping.initialise_created (by decide)
  have hstart : Filling repeatStart () () 0 0 := ⟨hcreated.regular 0, rfl⟩
  have hfit : (⟨[7], 1, 1, 0⟩ : Image).bytes.length ≤ (repeatStart.rings ()).capacity := by
    rw [Mapping.capacity, Mapping.payloadStart, hcreated.slotCount_eq]
    decide
  refine ⟨?_, hstart.along_sole (by decide) hfit n, ?_⟩
  · have hall : writes () (repeatCalls n) = repeatCalls n :=
      List.filter_eq_self.mpr fun c _ => by simp
    rw [hall, repeatCalls, List.length_replicate]
  · rintro k ⟨v, idx, hread, hidx, _⟩
    obtain ⟨hfill, himg⟩ := hstart.run_replicate hfit
      (fun i _ hl => absurd (laps_zero 0 i.toNat) hl) n
    rw [Nat.zero_add] at hfill himg
    refine hfill.regular.latest_ne_of_lt (fun i hi hl => ?_) (by decide) hlt hread hidx
    rw [himg i hi hl]
    decide

/-- When slot 0 is written for the `2 ^ 64`th time it carries the number zero, and the latest slot
is still the last one of the lap before. -/
theorem latest_behind_after_wrap :
    (ShmRingBuffer.createOrOpen {} (.mapped repeatRegion) kDefaultHubRingRegionName true).2 =
      true ∧
    (ShmRingBuffer.createOrOpen {} (.mapped repeatRegion) kDefaultHubRingRegionName true).1.mapping
      = some (repeatStart.rings ()) ∧
    (writes () (repeatCalls (64 * (2 ^ 64 - 1) + 1))).length = 64 * (2 ^ 64 - 1) + 1 ∧
    Along step (Sole () ()) repeatStart (repeatCalls (64 * (2 ^ 64 - 1) + 1)) ∧
    ∀ k, ¬ ((run step repeatStart (repeatCalls (64 * (2 ^ 64 - 1) + 1))).rings ()).LatestIs 0 k
      ⟨[7], 1, 1, 0⟩ :=
  ⟨rfl, rfl, behind_of_laps (by decide)⟩

end Writers
end Camera3D.Ipc
