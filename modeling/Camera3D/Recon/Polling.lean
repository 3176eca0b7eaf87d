import Camera3D.Ipc.Latest
import Camera3D.Transition.Run

/-! The polling loop of the reconstruction service against the hub's writer thread. -/
namespace Camera3D.Recon
open Ipc Transition

structure ShmFrameView where
  data : List UInt8
  width : UInt32
  height : UInt32
  pixelFormat : UInt32
  seq : UInt64
  deriving DecidableEq

/-- One pass of the loop: a frame goes to `recon->Process`, or a heartbeat is logged. -/
inductive Iteration where
  | process (view : ShmFrameView) (slotIdx : UInt32)
  | heartbeat (maxSeq : UInt64) (slots : UInt32)
  deriving DecidableEq

def Iteration.processed : Iteration → Option (ShmFrameView × UInt32)
  | .process view slotIdx => some (view, slotIdx)
  | .heartbeat _ _ => none

/-- The loop body: the new `last_seen_seq`, and what the pass did. -/
def iterate (shm : Mapping) (lastSeenSeq : UInt64) : UInt64 × Iteration :=
  match shm.tryReadLatestSlot with
  | some (v, slotIdx) =>
    if lastSeenSeq < v.outMeta.seqPublish then
      let view : ShmFrameView :=
        { data := Memory.read shm.bytes v.outPayload.toNat v.outPayloadLen.toNat
          width := v.outMeta.width
          height := v.outMeta.height
          pixelFormat := v.outMeta.pixelFormat
          seq := v.outMeta.seqPublish }
      (v.outMeta.seqPublish, .process view slotIdx)
    else (lastSeenSeq, .heartbeat shm.maxPublishedSeq shm.global.slotCount)
  | none => (lastSeenSeq, .heartbeat shm.maxPublishedSeq shm.global.slotCount)

structure Polling where
  shm : Mapping
  sNext : UInt32
  lastSeenSeq : UInt64
  /-- History: the frames published so far with their slots, newest first. -/
  frames : List (ShmFrameView × UInt32) := []
  /-- History: how many frames there were at each earlier pass of the loop, newest first. -/
  looks : List ℕ := []

inductive PollEvent where
  | publish (img : Image)
  | poll
  deriving DecidableEq

namespace Polling

def step (s : Polling) : PollEvent → Polling
  | .publish img =>
    let r := s.shm.tryWriteImage s.sNext img
    { s with
      shm := r.mapping
      sNext := r.sNext
      frames := match r.published with
        | some (seq, idx) =>
          (⟨img.bytes, img.width, img.height, img.pixelFormat, seq⟩, idx) :: s.frames
        | none => s.frames }
  | .poll =>
    { s with
      lastSeenSeq := (iterate s.shm s.lastSeenSeq).1
      looks := s.frames.length :: s.looks }

/-- Every publication is non-empty and fits a slot. -/
def Publishes (s : Polling) : PollEvent → Prop
  | .publish img => img.bytes ≠ [] ∧ img.bytes.length ≤ s.shm.capacity
  | .poll => True

instance (s : Polling) (e : PollEvent) : Decidable (s.Publishes e) := by
  cases e
  · exact inferInstanceAs (Decidable (_ ∧ _))
  · exact isTrue trivial

/-- A pass made now would process the newest frame if there is one since the pass before, and
nothing otherwise. -/
def Exact (s : Polling) : Prop :=
  (iterate s.shm s.lastSeenSeq).2.processed =
    if s.frames.length = s.looks.headD 0 then none else s.frames.head?

instance (s : Polling) : Decidable s.Exact := inferInstanceAs (Decidable (_ = _))

/-- Nothing was published since the pass before; or the newest frame is on a lap numbered higher
than all that earlier passes have seen, and that lap, begun at slot `r`, has not passed slot 63. -/
def Visible (r : ℕ) (s : Polling) : Prop :=
  s.frames.length = s.looks.headD 0 ∨
    (∀ m ∈ 0 :: s.looks, topNumber m < lapNumber s.frames.length) ∧
      r + (s.frames.length - 1) % 64 < 64

instance (r : ℕ) (s : Polling) : Decidable (s.Visible r) := inferInstanceAs (Decidable (_ ∨ _))

structure Invariant (r : ℕ) (s : Polling) : Prop where
  regular : Regular s.shm r s.frames.length
  cursor_eq : s.sNext.toNat % 64 = (r + s.frames.length) % 64
  nonempty : ∀ i : UInt32, i.toNat < 64 → laps r s.frames.length i.toNat ≠ 0 →
    (s.shm.cell i).image.bytes ≠ []
  newest : ∀ view idx, (view, idx) ∈ s.frames.head? →
    idx.toNat = (r + (s.frames.length - 1)) % 64 ∧
      s.shm.cell idx = ⟨view.seq, view.data, view.width, view.height, view.pixelFormat⟩
  seen_le : ∀ m ∈ 0 :: s.looks, topNumber m ≤ s.lastSeenSeq
  seen_mem : ∃ m ∈ 0 :: s.looks, s.lastSeenSeq = topNumber m

theorem Invariant.publish {r : ℕ} {s : Polling} (h : Invariant r s) {img : Image}
    (hpub : s.Publishes (.publish img)) : Invariant r (s.step (.publish img)) := by
  obtain ⟨hne, hfit⟩ := hpub
  have hwf := h.regular.wellFormed
  rcases Mapping.tryWriteImage_cases hwf s.sNext img with ⟨_, hlt⟩ | ⟨m', seq, idx, hres, hw⟩
  · omega
  · have hidx : idx.toNat = (r + s.frames.length) % 64 := by
      rw [hw.idx_eq, nextIndex_toNat h.regular.slotCount_eq, h.cursor_eq]
    have hstep : s.step (.publish img) =
        { s with
          shm := m'
          sNext := s.sNext + 1
          frames := (⟨img.bytes, img.width, img.height, img.pixelFormat, seq⟩, idx) :: s.frames } := by
      simp only [step, hres]
    rw [hstep]
    refine ⟨h.regular.write h.cursor_eq hw, ?_, ?_, ?_, h.seen_le, h.seen_mem⟩
    · have hcur := h.cursor_eq
      simp only [List.length_cons, UInt32.toNat_add, UInt32.toNat_one]
      omega
    · intro i hi hl
      by_cases hij : i = idx
      · subst hij
        simp only [hw.self]
        exact hne
      · have hne' : ¬ i.toNat = (r + s.frames.length) % 64 :=
          fun e => hij (UInt32.toNat_inj.mp (e.trans hidx.symm))
        simp only [List.length_cons, laps_succ hi, if_neg hne', Nat.add_zero] at hl
        simp only [hw.others i (h.regular.slotCount_eq ▸ hi) hij]
        exact h.nonempty i hi hl
    · intro view idx' hmem
      simp only [List.head?_cons, Option.mem_def, Option.some.injEq, Prod.mk.injEq] at hmem
      obtain ⟨rfl, rfl⟩ := hmem
      exact ⟨by simpa using hidx, hw.self⟩

theorem topNumber_zero : topNumber 0 = 0 := by decide

/-- A pass processes what the scan picks, if its number is higher than the last one seen. -/
theorem Invariant.iterate_eq {r : ℕ} {s : Polling} (h : Invariant r s) :
    ∃ p, Latest (fun i => .ofNat (laps r s.frames.length i)) 64 p ∧
      iterate s.shm s.lastSeenSeq =
        if s.lastSeenSeq < topNumber s.frames.length then
          let c := s.shm.cell (.ofNat p)
          (topNumber s.frames.length,
            .process ⟨c.image.bytes, c.image.width, c.image.height, c.image.pixelFormat,
              topNumber s.frames.length⟩ (.ofNat p))
        else (s.lastSeenSeq, .heartbeat s.shm.maxPublishedSeq s.shm.global.slotCount) := by
  obtain ⟨p, hlat, hcell, hread⟩ := h.regular.tryReadLatestSlot_eq h.nonempty
  refine ⟨p, hlat, ?_⟩
  unfold iterate
  rw [hread]
  by_cases hz : topNumber s.frames.length = 0
  · have hge : ¬ s.lastSeenSeq < topNumber s.frames.length := by
      rw [hz]
      exact UInt64.not_lt.mpr (UInt64.le_iff_toNat_le.mpr (Nat.zero_le _))
    rw [if_pos hz, if_neg hge]
  · have hpub : (s.shm.slot (.ofNat p)).seqPublish = topNumber s.frames.length := hcell
    rw [if_neg hz]
    simp only [hpub, Mapping.cell, Mapping.payload]

theorem Invariant.poll {r : ℕ} {s : Polling} (h : Invariant r s) : Invariant r (s.step .poll) := by
  obtain ⟨p, hlat, hit⟩ := h.iterate_eq
  have hseen : (s.step .poll).lastSeenSeq =
      if s.lastSeenSeq < topNumber s.frames.length then topNumber s.frames.length
      else s.lastSeenSeq := by
    simp only [step, hit]
    split_ifs <;> rfl
  refine ⟨h.regular, h.cursor_eq, h.nonempty, h.newest, ?_, ?_⟩
  · intro m hm
    have hold : topNumber m ≤ s.lastSeenSeq ∨ m = s.frames.length := by
      simp only [step, List.mem_cons] at hm
      rcases hm with rfl | rfl | hm
      · exact .inl (h.seen_le 0 List.mem_cons_self)
      · exact .inr rfl
      · exact .inl (h.seen_le m (List.mem_cons_of_mem _ hm))
    rw [hseen]
    split_ifs with hlt
    · cases hold with
      | inl hle => exact UInt64.le_of_lt (UInt64.lt_of_le_of_lt hle hlt)
      | inr heq => rw [heq]; exact UInt64.le_refl _
    · cases hold with
      | inl hle => exact hle
      | inr heq => rw [heq]; exact UInt64.not_lt.mp hlt
  · rw [hseen]
    split_ifs with hlt
    · exact ⟨s.frames.length, by simp [step], rfl⟩
    · obtain ⟨m, hm, heq⟩ := h.seen_mem
      refine ⟨m, ?_, heq⟩
      simp only [step, List.mem_cons] at hm ⊢
      exact hm.imp_right .inr

theorem Invariant.step {r : ℕ} {s : Polling} (h : Invariant r s) {e : PollEvent}
    (he : s.Publishes e) : Invariant r (s.step e) := by
  cases e with
  | publish img => exact h.publish he
  | poll => exact h.poll

private theorem number_ne_zero {a b : UInt64} (h : a < b) : b ≠ 0 := by
  rintro rfl
  have hlt := UInt64.lt_iff_toNat_lt.mp h
  rw [UInt64.toNat_zero] at hlt
  omega

/-- The newest frame carries the number of its lap, and is in the slot where the lap stands. -/
theorem Invariant.head {r : ℕ} {s : Polling} (h : Invariant r s) (hpos : 0 < s.frames.length) :
    ∃ view idx, s.frames.head? = some (view, idx) ∧
      idx.toNat = (r + (s.frames.length - 1)) % 64 ∧
      s.shm.cell idx = ⟨view.seq, view.data, view.width, view.height, view.pixelFormat⟩ ∧
      view.seq = lapNumber s.frames.length := by
  obtain ⟨⟨view, idx⟩, hhead⟩ : ∃ f, s.frames.head? = some f :=
    ⟨_, List.head?_eq_getElem? ▸ List.getElem?_eq_getElem hpos⟩
  obtain ⟨hidx, hcell⟩ := h.newest view idx hhead
  have hidx64 : idx.toNat < 64 := hidx ▸ Nat.mod_lt _ (by omega)
  have hseq := h.regular.seq_eq idx hidx64
  rw [hcell, hidx, laps_lastWrite hpos] at hseq
  exact ⟨view, idx, hhead, hidx, hcell, hseq⟩

/-- A pass that follows no publication processes nothing. -/
theorem Invariant.exact_of_same {r : ℕ} {s : Polling} (h : Invariant r s)
    (hsame : s.frames.length = s.looks.headD 0) : s.Exact := by
  obtain ⟨p, _, hit⟩ := h.iterate_eq
  have hmem : s.frames.length ∈ 0 :: s.looks := by
    rw [hsame]
    cases s.looks with
    | nil => simp
    | cons m ms => simp
  have hge := h.seen_le _ hmem
  unfold Exact
  rw [if_pos hsame, hit, if_neg (UInt64.not_lt.mpr hge)]
  rfl

/-- The pass sees the newest frame exactly when it is visible, whatever the passes before saw. -/
theorem Invariant.exact_iff {r : ℕ} {s : Polling} (h : Invariant r s) (hr : r < 64)
    (hlooks : ∀ m ∈ s.looks, m ≤ s.frames.length) : s.Exact ↔ s.Visible r := by
  by_cases hsame : s.frames.length = s.looks.headD 0
  · exact iff_of_true (h.exact_of_same hsame) (.inl hsame)
  have hpos : 0 < s.frames.length := by
    have hle : s.looks.headD 0 ≤ s.frames.length := by
      cases hl : s.looks with
      | nil => exact Nat.zero_le _
      | cons m ms => exact hlooks m (by simp [hl])
    omega
  obtain ⟨p, hlat, hit⟩ := h.iterate_eq
  obtain ⟨view, idx, hhead, hidx, hcell, hnum⟩ := h.head hpos
  unfold Exact Visible
  rw [if_neg hsame, or_iff_right hsame, hhead, hit]
  constructor
  · intro hex
    split_ifs at hex with hlt
    · simp only [Iteration.processed, Option.some.injEq, Prod.mk.injEq] at hex
      obtain ⟨hview, hp⟩ := hex
      have htop : topNumber s.frames.length = lapNumber s.frames.length :=
        (congrArg ShmFrameView.seq hview).trans hnum
      rw [htop] at hlt
      have hnz : lapNumber s.frames.length ≠ 0 := number_ne_zero hlt
      have hpi : p = (r + (s.frames.length - 1)) % 64 := by
        have hlt64 := hlat.lt
        rw [← hidx, ← hp, UInt32.toNat_ofNat']
        omega
      rw [hpi] at hlat
      exact ⟨fun m hm => UInt64.lt_of_le_of_lt (h.seen_le m hm) hlt,
        (latest_lastWrite_iff hr hpos hnz).mp hlat⟩
    · cases hex
  · rintro ⟨hnew, hlap⟩
    have hnz : lapNumber s.frames.length ≠ 0 := number_ne_zero (hnew 0 List.mem_cons_self)
    have htop : topNumber s.frames.length = lapNumber s.frames.length := if_neg hnz
    have hlt : s.lastSeenSeq < topNumber s.frames.length := by
      obtain ⟨m, hm, heq⟩ := h.seen_mem
      rw [heq, htop]
      exact hnew m hm
    have hpi : p = idx.toNat :=
      (hlat.eq ((latest_lastWrite_iff hr hpos hnz).mpr hlap)).trans hidx.symm
    rw [if_pos hlt, hpi, UInt32.ofNat_toNat, hcell, htop, ← hnum]
    rfl

theorem looks_le_step {s : Polling} (h : ∀ m ∈ s.looks, m ≤ s.frames.length) (e : PollEvent) :
    ∀ m ∈ (s.step e).looks, m ≤ (s.step e).frames.length := by
  cases e with
  | publish img =>
    intro m hm
    have hle := h m hm
    simp only [step]
    cases (s.shm.tryWriteImage s.sNext img).published with
    | none => exact hle
    | some p =>
      rw [List.length_cons]
      omega
  | poll =>
    intro m hm
    simp only [step, List.mem_cons] at hm ⊢
    rcases hm with rfl | hm
    · exact le_refl _
    · exact h m hm

theorem run_publishes {r : ℕ} {s : Polling} (h : Invariant r s)
    (hlooks : ∀ m ∈ s.looks, m ≤ s.frames.length) {es : List PollEvent}
    (hes : Along step Publishes s es) :
    Invariant r (run step s es) ∧
      ∀ m ∈ (run step s es).looks, m ≤ (run step s es).frames.length := by
  refine run_invariant_along (I := fun t : Polling => Invariant r t ∧
    ∀ m ∈ t.looks, m ≤ t.frames.length) ?_ hes ⟨h, hlooks⟩
  rintro t e he ⟨hinv, hle⟩
  exact ⟨hinv.step he, looks_le_step hle e⟩

/-- The hub's ring as created, before the first frame and the first pass of the loop. -/
def start (shm : Mapping) (sNext : UInt32) : Polling := ⟨shm, sNext, 0, [], []⟩

theorem start_invariant {shm : Mapping} (h : shm.Created) (sNext : UInt32) :
    Invariant (sNext.toNat % 64) (start shm sNext) where
  regular := h.regular _
  cursor_eq := by simp [start]
  nonempty i _ hl := absurd (laps_zero _ i.toNat) hl
  newest := by simp [start]
  seen_le := by simp [start, topNumber_zero]
  seen_mem := ⟨0, List.mem_cons_self, topNumber_zero.symm⟩

/-- At every point of every interleaving the next pass is exact if and only if the newest frame
is visible. -/
theorem exact_iff_visible {rb : ShmRingBuffer} {boost : BoostOutcome} {name : String}
    {shm : Mapping} (hok : rb.createOrOpen boost name true = (⟨name, some shm⟩, true))
    (sNext : UInt32) {es : List PollEvent} (hes : Along step Publishes (start shm sNext) es) :
    (run step (start shm sNext) es).Exact ↔
      (run step (start shm sNext) es).Visible (sNext.toNat % 64) := by
  obtain ⟨m, hm, hc⟩ := createOrOpen_created (congrArg Prod.snd hok)
  rw [hok] at hm
  have hcreated : shm.Created := by
    cases hm
    exact hc
  obtain ⟨hinv, hlooks⟩ :=
    run_publishes (start_invariant hcreated sNext) (by simp [start]) hes
  exact hinv.exact_iff (Nat.mod_lt _ (by omega)) hlooks

def exampleRegion : Mapping := ⟨fun _ => 0, 4112⟩

def examplePublish : PollEvent := .publish ⟨[7], 1, 1, 0⟩

theorem exact_iff_visible_first_frame :
    (run step (start exampleRegion.initialise 0) [.poll, examplePublish]).Exact :=
  (@exact_iff_visible {} (.mapped exampleRegion) "ring" _ rfl 0 _ (by decide +kernel)).mpr
    (by decide +kernel)

/-- The second frame of a lap has the number of the first: the pass that follows skips it. -/
theorem second_frame_missed :
    ¬ ∀ es, Along step Publishes (start exampleRegion.initialise 0) es →
      (run step (start exampleRegion.initialise 0) es).Exact := by
  intro h
  have hex := h [examplePublish, .poll, examplePublish] (by decide +kernel)
  revert hex
  decide +kernel

end Polling
end Camera3D.Recon
