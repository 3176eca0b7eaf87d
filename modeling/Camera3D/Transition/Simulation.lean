import Camera3D.Transition.Run

/-! Machines that may choose, and what it means that a deterministic machine does as one of them. -/
namespace Camera3D.Transition

variable {σ ε τ β : Type*}

/-- What a machine may do, act by act. -/
inductive Does (may : τ → β → τ → Prop) : τ → List β → τ → Prop
  | nil (t : τ) : Does may t [] t
  | cons {t t' t'' : τ} {b : β} {bs : List β} (hb : may t b t') (hbs : Does may t' bs t'') :
    Does may t (b :: bs) t''

variable {may : τ → β → τ → Prop}

/-- An invariant may speak of the acts so far. -/
theorem Does.invariant {I : List β → τ → Prop}
    (hstep : ∀ log t b t', may t b t' → I log t → I (log ++ [b]) t') {t t' : τ} {bs log : List β}
    (hbs : Does may t bs t') (hI : I log t) : I (log ++ bs) t' := by
  induction hbs generalizing log with
  | nil =>
    rw [List.append_nil]
    exact hI
  | cons hb _ ih =>
    have hrest := ih (hstep _ _ _ _ hb hI)
    rw [List.append_assoc] at hrest
    exact hrest

/-- The acts of a run, where each step is at most one act. -/
def actsAlong (step : σ → ε → σ) (act : σ → ε → Option β) : σ → List ε → List β
  | _, [] => []
  | s, e :: es => (act s e).toList ++ actsAlong step act (step s e) es

/-- One act, or none that is seen. -/
def Takes (may : τ → β → τ → Prop) (t : τ) : Option β → τ → Prop
  | some b, t' => may t b t'
  | none, t' => t' = t

/-- Each step is an act that the other machine may do, or none that it sees. -/
def Simulates (step : σ → ε → σ) (act : σ → ε → Option β) (inv : σ → Prop) (view : σ → τ)
    (may : τ → β → τ → Prop) : Prop :=
  ∀ s e, inv s → Takes may (view s) (act s e) (view (step s e))

variable {step : σ → ε → σ} {act : σ → ε → Option β} {inv : σ → Prop} {view : σ → τ}

theorem Simulates.run (h : Simulates step act inv view may)
    (hinv : ∀ s e, inv s → inv (step s e)) {s : σ} (hs : inv s) (es : List ε) :
    Does may (view s) (actsAlong step act s es) (view (run step s es)) := by
  induction es generalizing s with
  | nil => exact .nil _
  | cons e es ih =>
    have hrest := ih (hinv s e hs)
    have hone := h s e hs
    rw [actsAlong, run_cons]
    cases hact : act s e with
    | none =>
      rw [hact] at hone
      rw [← show view (step s e) = view s from hone]
      exact hrest
    | some b =>
      rw [hact] at hone
      exact .cons hone hrest

theorem actsAlong_append (s : σ) (es fs : List ε) :
    actsAlong step act s (es ++ fs) =
      actsAlong step act s es ++ actsAlong step act (Transition.run step s es) fs := by
  induction es generalizing s with
  | nil => rfl
  | cons e es ih => rw [List.cons_append, actsAlong, actsAlong, ih, List.append_assoc, run_cons]

end Camera3D.Transition
