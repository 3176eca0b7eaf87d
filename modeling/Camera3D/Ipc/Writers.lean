import Camera3D.Ipc.Created
import Camera3D.Transition.Run
import Mathlib.Logic.Function.Basic

/-! Threads writing rings, one call at a time: a ring refines a map from slot to last write. -/
namespace Camera3D.Ipc
open Transition

/-- One `TryWriteNextSlot` call: the ring it is made on, the calling thread and the image. -/
structure Call (ι θ : Type*) where
  ring : ι
  thread : θ
  image : Image

/-- All rings, and the `thread_local` cursor of each thread, which serves every ring. -/
structure Writers (ι θ : Type*) where
  rings : ι → Mapping
  cursor : θ → UInt32

/-- A call together with `*out_seq` and `*out_slot_index` where it succeeded. -/
abbrev Logged (ι θ : Type*) := Call ι θ × Option (UInt64 × UInt32)

namespace Writers
variable {ι θ : Type*}

def result (s : Writers ι θ) (c : Call ι θ) : WriteResult :=
  (s.rings c.ring).tryWriteImage (s.cursor c.thread) c.image

variable [DecidableEq ι]

/-- What a logged call put into slot `i` of ring `ρ`, if it wrote that slot. -/
def put (ρ : ι) (i : UInt32) : Logged ι θ → Option Cell
  | (_, none) => none
  | (c, some (seq, idx)) => if c.ring = ρ ∧ idx = i then some ⟨seq, c.image⟩ else none

def lastWrite (ρ : ι) (i : UInt32) (log : List (Logged ι θ)) : Option Cell :=
  log.reverse.findSome? (put ρ i)

theorem lastWrite_cons (ρ : ι) (i : UInt32) (e : Logged ι θ) (log : List (Logged ι θ)) :
    lastWrite ρ i (e :: log) = (lastWrite ρ i log).or (put ρ i e) := by
  cases h : put ρ i e <;> simp [lastWrite, List.findSome?_append, h]

variable [DecidableEq θ]

def step (s : Writers ι θ) (c : Call ι θ) : Writers ι θ where
  rings := Function.update s.rings c.ring (s.result c).mapping
  cursor := Function.update s.cursor c.thread (s.result c).sNext

def trace : Writers ι θ → List (Call ι θ) → List (Logged ι θ)
  | _, [] => []
  | s, c :: cs => (c, (s.result c).published) :: trace (s.step c) cs

/-- What a call does to the ring it is not made on, and to the ring it is made on. -/
theorem step_cases (s : Writers ι θ) (c : Call ι θ) {ρ : ι} (h : (s.rings ρ).WellFormed) :
    ((s.step c).rings ρ = s.rings ρ ∧ ∀ i, put ρ i (c, (s.result c).published) = none) ∨
      ∃ seq idx, (s.result c).published = some (seq, idx) ∧ c.ring = ρ ∧
        (s.rings ρ).Wrote (s.cursor c.thread) c.image ((s.step c).rings ρ) seq idx := by
  by_cases hr : c.ring = ρ
  · subst hr
    rcases Mapping.tryWriteImage_cases h (s.cursor c.thread) c.image with
      ⟨hres, _⟩ | ⟨m', seq, idx, hres, hw⟩
    · left
      have hres' : s.result c = _ := hres
      simp [step, hres', put]
    · right
      have hres' : s.result c = _ := hres
      have hm : (s.step c).rings c.ring = m' := by simp [step, hres']
      exact ⟨seq, idx, by rw [hres'], rfl, hm ▸ hw⟩
  · left
    constructor
    · simp [step, Function.update_of_ne (Ne.symm hr)]
    · intro i
      cases hp : (s.result c).published with
      | none => rfl
      | some p => simp [put, hr]

theorem step_wellFormed {s : Writers ι θ} {ρ : ι} (c : Call ι θ) (h : (s.rings ρ).WellFormed) :
    ((s.step c).rings ρ).WellFormed ∧ ((s.step c).rings ρ).global = (s.rings ρ).global ∧
      ((s.step c).rings ρ).mappedSize = (s.rings ρ).mappedSize := by
  rcases step_cases s c h with ⟨hs, _⟩ | ⟨seq, idx, _, _, hw⟩
  · rw [hs]
    exact ⟨h, rfl, rfl⟩
  · exact ⟨hw.wellFormed, hw.global_eq, hw.mappedSize_eq⟩

theorem run_wellFormed {s : Writers ι θ} {ρ : ι} (cs : List (Call ι θ))
    (h : (s.rings ρ).WellFormed) :
    ((run step s cs).rings ρ).WellFormed ∧ ((run step s cs).rings ρ).global = (s.rings ρ).global ∧
      ((run step s cs).rings ρ).mappedSize = (s.rings ρ).mappedSize := by
  refine run_invariant (I := fun t : Writers ι θ => (t.rings ρ).WellFormed ∧ (t.rings ρ).global =
    (s.rings ρ).global ∧ (t.rings ρ).mappedSize = (s.rings ρ).mappedSize) ?_ ⟨h, rfl, rfl⟩ cs
  rintro t c ⟨ht, hg, hm⟩
  obtain ⟨ht', hg', hm'⟩ := step_wellFormed c ht
  exact ⟨ht', hg'.trans hg, hm'.trans hm⟩

theorem step_cell {s : Writers ι θ} {ρ : ι} (c : Call ι θ) (h : (s.rings ρ).WellFormed)
    {i : UInt32} (hi : i.toNat < (s.rings ρ).slotCount) :
    ((s.step c).rings ρ).cell i =
      (put ρ i (c, (s.result c).published)).getD ((s.rings ρ).cell i) := by
  rcases step_cases s c h with ⟨hs, hp⟩ | ⟨seq, idx, hpub, hr, hw⟩
  · rw [hs, hp i, Option.getD_none]
  · by_cases hij : i = idx
    · subst hij
      simp [put, hpub, hr, hw.self]
    · rw [hw.others i hi hij]
      simp [put, hpub, Ne.symm hij]

theorem run_cell {s : Writers ι θ} {ρ : ι} (cs : List (Call ι θ)) (h : (s.rings ρ).WellFormed)
    {i : UInt32} (hi : i.toNat < (s.rings ρ).slotCount) :
    ((run step s cs).rings ρ).cell i =
      (lastWrite ρ i (trace s cs)).getD ((s.rings ρ).cell i) := by
  induction cs generalizing s with
  | nil => rfl
  | cons c cs ih =>
    obtain ⟨ht, hg, _⟩ := step_wellFormed c h
    have hi' : i.toNat < ((s.step c).rings ρ).slotCount := by
      rw [Mapping.slotCount, hg]
      exact hi
    rw [run_cons, ih ht hi', step_cell c h hi, trace, lastWrite_cons]
    cases lastWrite ρ i (trace (s.step c) cs) with
    | none => rw [Option.getD_none, Option.none_or]
    | some w => rw [Option.getD_some, Option.some_or, Option.getD_some]

/-- Writes land only in slots the ring has. -/
theorem lastWrite_eq_none {s : Writers ι θ} {ρ : ι} (cs : List (Call ι θ))
    (h : (s.rings ρ).WellFormed) {i : UInt32} (hi : (s.rings ρ).slotCount ≤ i.toNat) :
    lastWrite ρ i (trace s cs) = none := by
  induction cs generalizing s with
  | nil => rfl
  | cons c cs ih =>
    obtain ⟨ht, hg, _⟩ := step_wellFormed c h
    have hi' : ((s.step c).rings ρ).slotCount ≤ i.toNat := by
      rw [Mapping.slotCount, hg]
      exact hi
    rw [trace, lastWrite_cons, ih ht hi', Option.none_or]
    rcases step_cases s c h with ⟨_, hp⟩ | ⟨seq, idx, hpub, hr, hw⟩
    · exact hp i
    · have hlt := Mapping.nextIndex_lt h (s.cursor c.thread)
      rw [← hw.idx_eq] at hlt
      have hne : idx ≠ i := by
        rintro rfl
        omega
      simp [put, hpub, hne]

end Writers
end Camera3D.Ipc
