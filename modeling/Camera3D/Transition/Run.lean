import Mathlib.Data.List.Basic

/-! Finite runs of a deterministic machine, and invariants carried along them. -/
namespace Camera3D.Transition

variable {σ ε : Type*} (step : σ → ε → σ)

def run (s : σ) (es : List ε) : σ := es.foldl step s

@[simp] theorem run_nil (s : σ) : run step s [] = s := rfl

@[simp] theorem run_cons (s : σ) (e : ε) (es : List ε) :
    run step s (e :: es) = run step (step s e) es := rfl

theorem run_append (s : σ) (es fs : List ε) :
    run step s (es ++ fs) = run step (run step s es) fs := List.foldl_append

theorem run_concat (s : σ) (es : List ε) (e : ε) :
    run step s (es ++ [e]) = step (run step s es) e := run_append step s es [e]

/-- Every step of the run meets `P`, judged in the state the step starts from. -/
def Along (P : σ → ε → Prop) : σ → List ε → Prop
  | _, [] => True
  | s, e :: es => P s e ∧ Along P (step s e) es

instance decidableAlong (P : σ → ε → Prop) [∀ s e, Decidable (P s e)] :
    ∀ s es, Decidable (Along step P s es)
  | _, [] => isTrue trivial
  | s, e :: es =>
    have := decidableAlong P (step s e) es
    inferInstanceAs (Decidable (P s e ∧ Along step P (step s e) es))

theorem along_append (P : σ → ε → Prop) (s : σ) (es fs : List ε) :
    Along step P s (es ++ fs) ↔ Along step P s es ∧ Along step P (run step s es) fs := by
  induction es generalizing s with
  | nil => simp [Along]
  | cons e es ih => simp [Along, ih, and_assoc]

/-- How many steps of the run meet `P`, judged in the state the step starts from. -/
def countAlong (P : σ → ε → Bool) : σ → List ε → ℕ
  | _, [] => 0
  | s, e :: es => (P s e).toNat + countAlong P (step s e) es

variable {step}

theorem Along.mono {P Q : σ → ε → Prop} {s : σ} {es : List ε} (h : Along step P s es)
    (hPQ : ∀ s e, P s e → Q s e) : Along step Q s es := by
  induction es generalizing s with
  | nil => trivial
  | cons e es ih => exact ⟨hPQ s e h.1, ih h.2⟩

theorem Along.and {P Q : σ → ε → Prop} {s : σ} {es : List ε} (hP : Along step P s es)
    (hQ : Along step Q s es) : Along step (fun s e => P s e ∧ Q s e) s es := by
  induction es generalizing s with
  | nil => trivial
  | cons e es ih => exact ⟨⟨hP.1, hQ.1⟩, ih hP.2 hQ.2⟩

theorem run_invariant_along {I : σ → Prop} {P : σ → ε → Prop}
    (hstep : ∀ s e, P s e → I s → I (step s e)) {s : σ} {es : List ε}
    (hP : Along step P s es) (hI : I s) : I (run step s es) := by
  induction es generalizing s with
  | nil => exact hI
  | cons e es ih => exact ih hP.2 (hstep s e hP.1 hI)

theorem run_invariant {I : σ → Prop} (hstep : ∀ s e, I s → I (step s e)) {s : σ}
    (hI : I s) (es : List ε) : I (run step s es) := by
  induction es generalizing s with
  | nil => exact hI
  | cons e es ih => exact ih (hstep s e hI)

/-- Two properties of a step that agree wherever the invariant holds agree along every run, if the
invariant is kept by the steps that have them. -/
theorem along_congr_of {I : σ → Prop} {P Q : σ → ε → Prop}
    (hstep : ∀ s e, I s → P s e → I (step s e)) (hPQ : ∀ s e, I s → (P s e ↔ Q s e)) {s : σ}
    (hI : I s) (es : List ε) : Along step P s es ↔ Along step Q s es := by
  induction es generalizing s with
  | nil => exact Iff.rfl
  | cons e es ih =>
    constructor
    · rintro ⟨hP, hes⟩
      exact ⟨(hPQ s e hI).mp hP, (ih (hstep s e hI hP)).mp hes⟩
    · rintro ⟨hQ, hes⟩
      have hP := (hPQ s e hI).mpr hQ
      exact ⟨hP, (ih (hstep s e hI hP)).mpr hes⟩

theorem along_congr {I : σ → Prop} {P Q : σ → ε → Prop} (hstep : ∀ s e, I s → I (step s e))
    (hPQ : ∀ s e, I s → (P s e ↔ Q s e)) {s : σ} (hI : I s) (es : List ε) :
    Along step P s es ↔ Along step Q s es :=
  along_congr_of (fun s e hI _ => hstep s e hI) hPQ hI es

/-- An invariant that may depend on how many steps have met `P` so far. -/
theorem run_counted {I : ℕ → σ → Prop} {P : σ → ε → Bool}
    (hstep : ∀ n s e, I n s → I (n + (P s e).toNat) (step s e)) {n : ℕ} {s : σ} (hI : I n s)
    (es : List ε) : I (n + countAlong step P s es) (run step s es) := by
  induction es generalizing n s with
  | nil => exact hI
  | cons e es ih =>
    have h := ih (hstep n s e hI)
    rw [Nat.add_assoc] at h
    exact h

/-- Something that has `P` has happened, and nothing that has `Q` after it. -/
def Since (P Q : ε → Prop) (log : List ε) : Prop :=
  ∃ before e after, log = before ++ e :: after ∧ P e ∧ ∀ e' ∈ after, ¬ Q e'

theorem not_since_nil (P Q : ε → Prop) : ¬ Since P Q [] := by
  rintro ⟨before, e, after, h, _⟩
  exact absurd h.symm (by simp)

theorem since_concat {P Q : ε → Prop} {log : List ε} {e : ε} :
    Since P Q (log ++ [e]) ↔ P e ∨ (Since P Q log ∧ ¬ Q e) := by
  constructor
  · rintro ⟨before, d, after, hlog, hP, hQ⟩
    rcases List.eq_nil_or_concat after with rfl | ⟨after, last, rfl⟩
    · obtain ⟨_, rfl⟩ := List.append_singleton_inj.mp hlog
      exact .inl hP
    · rw [List.concat_eq_append, ← List.cons_append, ← List.append_assoc] at hlog
      obtain ⟨rfl, rfl⟩ := List.append_singleton_inj.mp hlog
      rw [List.concat_eq_append, List.forall_mem_append] at hQ
      exact .inr ⟨⟨before, d, after, rfl, hP, hQ.1⟩, hQ.2 e List.mem_cons_self⟩
  · rintro (hP | ⟨⟨before, d, after, rfl, hP, hQ⟩, he⟩)
    · exact ⟨log, e, [], rfl, hP, List.forall_mem_nil _⟩
    · refine ⟨before, d, after ++ [e], by simp, hP, ?_⟩
      exact List.forall_mem_append.mpr ⟨hQ, List.forall_mem_singleton.mpr he⟩

end Camera3D.Transition
