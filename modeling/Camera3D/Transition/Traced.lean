import Mathlib.Control.Monad.Writer

/-! Computations that record what they do on the way, and properties of everything recorded. -/
namespace Camera3D.Transition

abbrev Traced (ε : Type) := Writer (List ε)

namespace Traced
variable {ε α β γ : Type}

def value (x : Traced ε α) : α := x.run.1

def events (x : Traced ε α) : List ε := x.run.2

/-- A value that is had by doing one thing. -/
def doing (e : ε) (a : α) : Traced ε α := do
  tell [e]
  return a

/-- Whatever was done meets `P`. -/
def All (P : ε → Prop) (x : Traced ε α) : Prop := ∀ e ∈ x.events, P e

@[simp] theorem value_pure (a : α) : (pure a : Traced ε α).value = a := rfl

@[simp] theorem value_bind (x : Traced ε α) (f : α → Traced ε β) :
    (x >>= f).value = (f x.value).value := rfl

@[simp] theorem value_doing (e : ε) (a : α) : (doing e a).value = a := by
  unfold doing
  rfl

@[simp] theorem value_ite (c : Prop) [Decidable c] (x y : Traced ε α) :
    (if c then x else y).value = if c then x.value else y.value := apply_ite _ _ _ _

theorem value_foldlM (f : γ → α → Traced ε γ) (as : List α) (c : γ) :
    (as.foldlM f c).value = as.foldl (fun c a => (f c a).value) c := by
  induction as generalizing c with
  | nil => rfl
  | cons a as ih => rw [List.foldlM_cons, value_bind, ih, List.foldl_cons]

variable {P : ε → Prop}

@[simp] theorem all_pure (a : α) : (pure a : Traced ε α).All P := fun _ he => absurd he List.not_mem_nil

@[simp] theorem all_bind (x : Traced ε α) (f : α → Traced ε β) :
    (x >>= f).All P ↔ x.All P ∧ (f x.value).All P := List.forall_mem_append

@[simp] theorem all_doing (e : ε) (a : α) : (doing e a).All P ↔ P e := List.forall_mem_singleton

@[simp] theorem all_ite (c : Prop) [Decidable c] (x y : Traced ε α) :
    (if c then x else y).All P ↔ (c → x.All P) ∧ (¬ c → y.All P) := by
  split_ifs with h <;> simp [h]

theorem all_foldlM {f : γ → α → Traced ε γ} {as : List α} (h : ∀ a ∈ as, ∀ c, (f c a).All P) (c : γ) :
    (as.foldlM f c).All P := by
  induction as generalizing c with
  | nil => exact all_pure c
  | cons a as ih =>
    rw [List.foldlM_cons, all_bind]
    exact ⟨h a List.mem_cons_self c, ih (fun b hb => h b (List.mem_cons_of_mem a hb)) _⟩

end Traced
end Camera3D.Transition
