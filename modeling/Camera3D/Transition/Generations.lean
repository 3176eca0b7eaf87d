import Mathlib.Data.List.Basic

/-! Works that are started one after the other, of which only the last one's result may be shown. A
history lists what happened newest first. -/
namespace Camera3D.Transition

inductive Happening where
  | scheduled (n : ℕ)
  | shown (n : ℕ)
  /-- The works of before are given up. -/
  | cleared
  deriving DecidableEq

/-- The work whose result may be shown: the last one, if it was not given up. -/
def latest : List Happening → Option ℕ
  | [] => none
  | .scheduled n :: _ => some n
  | .shown _ :: h => latest h
  | .cleared :: _ => none

/-- Works are numbered in order, all below `next`, and what is shown is always the latest one. -/
def Orderly : ℕ → List Happening → Prop
  | _, [] => True
  | next, .scheduled n :: h => n < next ∧ Orderly n h
  | next, .shown n :: h => latest h = some n ∧ Orderly next h
  | next, .cleared :: h => Orderly next h

/-- No result of an earlier work is shown after that of a later one, and none after its work was
given up. -/
structure NeverStale (h : List Happening) : Prop where
  ordered : ∀ newer n older m, h = newer ++ .shown n :: older → .shown m ∈ older → m ≤ n
  given_up : ∀ newer n between oldest, h = newer ++ .shown n :: (between ++ .cleared :: oldest) →
    .scheduled n ∉ oldest

theorem scheduled_of_latest {h : List Happening} {n : ℕ} (hn : latest h = some n) :
    .scheduled n ∈ h := by
  induction h with
  | nil => cases hn
  | cons happening h ih =>
    cases happening with
    | scheduled m =>
      cases hn
      exact List.mem_cons_self
    | shown m => exact List.mem_cons_of_mem _ (ih hn)
    | cleared => cases hn

theorem scheduled_since_cleared {between oldest : List Happening} {n : ℕ}
    (hn : latest (between ++ .cleared :: oldest) = some n) : .scheduled n ∈ between := by
  induction between with
  | nil => cases hn
  | cons happening between ih =>
    cases happening with
    | scheduled m =>
      cases hn
      exact List.mem_cons_self
    | shown m => exact List.mem_cons_of_mem _ (ih hn)
    | cleared => cases hn

namespace Orderly
variable {next : ℕ} {h newer older : List Happening} {n m : ℕ}

theorem mono {next' : ℕ} (ho : Orderly next h) (hle : next ≤ next') : Orderly next' h := by
  induction h with
  | nil => trivial
  | cons happening h ih =>
    cases happening with
    | scheduled k => exact ⟨Nat.lt_of_lt_of_le ho.1 hle, ho.2⟩
    | shown k => exact ⟨ho.1, ih ho.2⟩
    | cleared => exact ih ho

theorem of_append (ho : Orderly next (newer ++ older)) : Orderly next older := by
  induction newer generalizing next with
  | nil => exact ho
  | cons happening newer ih =>
    cases happening with
    | scheduled k => exact (ih ho.2).mono (Nat.le_of_lt ho.1)
    | shown k => exact ih ho.2
    | cleared => exact ih ho

theorem lt_of_scheduled (ho : Orderly next h) (hn : .scheduled n ∈ h) : n < next := by
  induction h generalizing next with
  | nil => cases hn
  | cons happening h ih =>
    cases happening with
    | scheduled k =>
      rcases List.mem_cons.mp hn with heq | hmem
      · cases heq
        exact ho.1
      · exact Nat.lt_trans (ih ho.2 hmem) ho.1
    | shown k => exact ih ho.2 (by simpa using hn)
    | cleared => exact ih ho (by simpa using hn)

theorem le_latest (ho : Orderly next h) (hn : latest h = some n) (hm : .scheduled m ∈ h) : m ≤ n := by
  induction h generalizing next with
  | nil => cases hm
  | cons happening h ih =>
    cases happening with
    | scheduled k =>
      cases hn
      rcases List.mem_cons.mp hm with heq | hmem
      · cases heq
        exact Nat.le_refl _
      · exact Nat.le_of_lt (ho.2.lt_of_scheduled hmem)
    | shown k => exact ih ho.2 hn (by simpa using hm)
    | cleared => cases hn

theorem scheduled_of_shown (ho : Orderly next h) (hm : .shown m ∈ h) : .scheduled m ∈ h := by
  induction h generalizing next with
  | nil => cases hm
  | cons happening h ih =>
    cases happening with
    | scheduled k =>
      exact List.mem_cons_of_mem _ (ih ho.2 (by simpa using hm))
    | shown k =>
      rcases List.mem_cons.mp hm with heq | hmem
      · cases heq
        exact List.mem_cons_of_mem _ (scheduled_of_latest ho.1)
      · exact List.mem_cons_of_mem _ (ih ho.2 hmem)
    | cleared =>
      exact List.mem_cons_of_mem _ (ih ho (by simpa using hm))

/-- A number stands once in the history. -/
theorem not_scheduled_twice (ho : Orderly next (newer ++ older)) (hn : .scheduled n ∈ newer) :
    .scheduled n ∉ older := by
  induction newer generalizing next with
  | nil => cases hn
  | cons happening newer ih =>
    cases happening with
    | scheduled k =>
      rcases List.mem_cons.mp hn with heq | hmem
      · cases heq
        exact fun holder => absurd (ho.2.of_append.lt_of_scheduled holder) (Nat.lt_irrefl _)
      · exact ih ho.2 hmem
    | shown k => exact ih ho.2 (by simpa using hn)
    | cleared => exact ih ho (by simpa using hn)

theorem neverStale (ho : Orderly next h) : NeverStale h := by
  constructor
  · rintro newer n older m rfl hm
    obtain ⟨hlatest, hrest⟩ := ho.of_append
    exact hrest.le_latest hlatest (hrest.scheduled_of_shown hm)
  · rintro newer n between oldest rfl holdest
    obtain ⟨hlatest, hrest⟩ := ho.of_append
    exact hrest.not_scheduled_twice (scheduled_since_cleared hlatest)
      (List.mem_cons_of_mem _ holdest)

end Orderly
end Camera3D.Transition
