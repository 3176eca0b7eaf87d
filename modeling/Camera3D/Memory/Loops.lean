import Mathlib.Data.Set.Basic

/-! Counting loops that may fail, and what a loop has filled when it ends. -/
namespace Camera3D.Memory

variable {σ ε κ : Type*}

theorem bind_eq_ok {α β : Type _} {x : Except ε α} {f : α → Except ε β} {b : β} :
    x >>= f = .ok b ↔ ∃ a, x = .ok a ∧ f a = .ok b := by
  cases x with
  | error e => exact ⟨nofun, fun ⟨_, h, _⟩ => nomatch h⟩
  | ok a => exact ⟨fun h => ⟨a, rfl, h⟩, fun ⟨_, h, hf⟩ => by cases h; exact hf⟩

/-- The body runs for `0`, `1`, up to `n - 1`, until it fails. -/
def loop : ℕ → (ℕ → σ → Except ε σ) → σ → Except ε σ
  | 0, _, s => .ok s
  | n + 1, body, s => loop n body s >>= body n

/-- A step that succeeds and keeps the invariant makes a loop that does. -/
theorem loop_ok {P : ℕ → σ → Prop} {n : ℕ} {body : ℕ → σ → Except ε σ} {s : σ} (h0 : P 0 s)
    (hstep : ∀ i < n, ∀ t, P i t → ∃ t', body i t = .ok t' ∧ P (i + 1) t') :
    ∃ t, loop n body s = .ok t ∧ P n t := by
  induction n with
  | zero => exact ⟨s, rfl, h0⟩
  | succ n ih =>
    obtain ⟨t, ht, hP⟩ := ih fun i hi => hstep i (by omega)
    obtain ⟨t', ht', hP'⟩ := hstep n (by omega) t hP
    exact ⟨t', by rw [loop, ht]; exact ht', hP'⟩

/-- A loop that ends well has come to each of its iterations, and through it. -/
theorem loop_ok_at {n : ℕ} {body : ℕ → σ → Except ε σ} {s t : σ} (h : loop n body s = .ok t)
    {i : ℕ} (hi : i < n) : ∃ s₁ s₂, loop i body s = .ok s₁ ∧ body i s₁ = .ok s₂ := by
  induction n generalizing t with
  | zero => exact absurd hi (Nat.not_lt_zero i)
  | succ n ih =>
    cases hn : loop n body s with
    | error e =>
      rw [loop, hn] at h
      cases h
    | ok s₁ =>
      rw [loop, hn] at h
      rcases Nat.lt_succ_iff_lt_or_eq.mp hi with hlt | rfl
      · exact ih hn hlt
      · exact ⟨s₁, t, hn, h⟩

theorem grid_ok_at {h w : ℕ} {body : ℕ → ℕ → σ → Except ε σ} {s t : σ}
    (hok : loop h (fun y => loop w (body y)) s = .ok t) {y x : ℕ} (hy : y < h) (hx : x < w) :
    ∃ s₁ s₂, body y x s₁ = .ok s₂ := by
  obtain ⟨r₁, r₂, _, hrow⟩ := loop_ok_at hok hy
  obtain ⟨s₁, s₂, _, hbody⟩ := loop_ok_at hrow hx
  exact ⟨s₁, s₂, hbody⟩

theorem grid_ok_first {h w : ℕ} {body : ℕ → ℕ → σ → Except ε σ} {s t : σ}
    (hok : loop h (fun y => loop w (body y)) s = .ok t) (hh : 0 < h) (hw : 0 < w) :
    ∃ s₂, body 0 0 s = .ok s₂ := by
  obtain ⟨r₁, r₂, hr, hrow⟩ := loop_ok_at hok hh
  obtain rfl : s = r₁ := Except.ok.inj hr
  obtain ⟨s₁, s₂, hs, hbody⟩ := loop_ok_at hrow hw
  obtain rfl : s = s₁ := Except.ok.inj hs
  exact ⟨s₂, hbody⟩

/-- From every state that has `I` the part ends, with the cells of `ks` done and no other undone. -/
def Fills (I : σ → Prop) (Done : κ → σ → Prop) (ks : Set κ) (f : σ → Except ε σ) : Prop :=
  ∀ s, I s → ∃ s', f s = .ok s' ∧ I s' ∧ (∀ k ∈ ks, Done k s') ∧ ∀ k ∉ ks, Done k s → Done k s'

variable {I : σ → Prop} {Done : κ → σ → Prop}

theorem Fills.loop {n : ℕ} {body : ℕ → σ → Except ε σ} {ks : ℕ → Set κ}
    (h : ∀ i < n, Fills I Done (ks i) (body i)) :
    Fills I Done {k | ∃ i < n, k ∈ ks i} (loop n body) := by
  intro s hs
  let P := fun m t => I t ∧ (∀ k, (∃ i < m, k ∈ ks i) → Done k t) ∧
    ∀ k, (¬ ∃ i < m, k ∈ ks i) → Done k s → Done k t
  refine loop_ok (P := P) ⟨hs, ?_, fun k _ hk => hk⟩ ?_
  · rintro k ⟨i, hi, _⟩
    exact absurd hi (Nat.not_lt_zero i)
  · rintro m hm t ⟨ht, hdone, hkept⟩
    obtain ⟨t', hbody, ht', hnew, hold⟩ := h m hm t ht
    refine ⟨t', hbody, ht', ?_, ?_⟩
    · rintro k ⟨i, hi, hk⟩
      by_cases hkm : k ∈ ks m
      · exact hnew k hkm
      · have him : i < m := by
          refine lt_of_le_of_ne (Nat.lt_succ_iff.mp hi) ?_
          rintro rfl
          exact hkm hk
        exact hold k hkm (hdone k ⟨i, him, hk⟩)
    · intro k hk hks
      have hkm : k ∉ ks m := fun hkm => hk ⟨m, Nat.lt_succ_self m, hkm⟩
      exact hold k hkm (hkept k (fun ⟨i, hi, hki⟩ => hk ⟨i, hi.trans (Nat.lt_succ_self m), hki⟩) hks)

/-- Two nested loops whose body fills one cell of a grid fill the grid. -/
theorem fills_grid {h w : ℕ} {body : ℕ → ℕ → σ → Except ε σ} {Done : ℕ × ℕ → σ → Prop}
    (hbody : ∀ y < h, ∀ x < w, Fills I Done {(x, y)} (body y x)) {s : σ} (hs : I s) :
    ∃ s', Memory.loop h (fun y => Memory.loop w (body y)) s = .ok s' ∧ I s' ∧
      ∀ y < h, ∀ x < w, Done (x, y) s' := by
  have hrows : Fills I Done {k | ∃ y < h, k ∈ {k | ∃ x < w, k ∈ ({(x, y)} : Set (ℕ × ℕ))}}
      (Memory.loop h fun y => Memory.loop w (body y)) :=
    Fills.loop fun y hy => Fills.loop fun x hx => hbody y hy x hx
  obtain ⟨s', hok, hs', hdone, _⟩ := hrows s hs
  exact ⟨s', hok, hs', fun y hy x hx => hdone (x, y) ⟨y, hy, x, hx, rfl⟩⟩

end Camera3D.Memory
