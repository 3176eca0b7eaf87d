import Mathlib.Data.List.Basic

/-! Bounded stores that keep the most recently remembered keys, each with its latest value.
A history lists the remembered pairs newest first. -/
namespace Camera3D.Store

variable {κ β : Type*}

/-- No key is among the `d` keys remembered just before it. -/
def Spaced (d : ℕ) : List κ → Prop
  | [] => True
  | k :: ks => k ∉ ks.take d ∧ Spaced d ks

/-- Spaced keys occur once in any window of the spacing. -/
theorem Spaced.nodup_take {d : ℕ} {ks : List κ} (hs : Spaced d ks) : (ks.take d).Nodup := by
  induction ks generalizing d with
  | nil => simp
  | cons k ks ih =>
    cases d with
    | zero => simp
    | succ n =>
      obtain ⟨hnot, hs⟩ := hs
      rw [List.take_succ_cons, List.nodup_cons]
      have hle : ks.take n = (ks.take (n + 1)).take n := by
        rw [List.take_take, Nat.min_eq_left n.le_succ]
      refine ⟨fun hmem => hnot ?_, ?_⟩
      · rw [hle] at hmem
        exact List.mem_of_mem_take hmem
      · rw [hle]
        exact (ih hs).sublist (List.take_sublist _ _)

variable [DecidableEq κ]

instance decidableSpaced (d : ℕ) : ∀ ks : List κ, Decidable (Spaced d ks)
  | [] => isTrue trivial
  | k :: ks =>
    have := decidableSpaced d ks
    inferInstanceAs (Decidable (k ∉ ks.take d ∧ Spaced d ks))

section Lookup
variable {h : List (κ × β)} {k old : κ}

theorem lookup_eq_none_of_not_mem (hk : k ∉ h.map Prod.fst) : h.lookup k = none := by
  rw [List.lookup_eq_none_iff]
  intro e he
  apply bne_iff_ne.mpr
  rintro rfl
  exact hk (List.mem_map_of_mem he)

theorem lookup_append_singleton_of_ne (hk : k ≠ old) (b : β) :
    (h ++ [(old, b)]).lookup k = h.lookup k := by
  have hnone : [(old, b)].lookup k = none := lookup_eq_none_of_not_mem (by simpa using hk)
  rw [List.lookup_append, hnone, Option.or_none]

omit [DecidableEq κ] in
/-- The last of the `n + 1` newest pairs has the last of their keys. -/
theorem take_succ_of_keys {n : ℕ}
    (hkeys : (h.map Prod.fst).take (n + 1) = (h.map Prod.fst).take n ++ [old]) :
    ∃ b, h.take (n + 1) = h.take n ++ [(old, b)] := by
  have hlast : ((h.drop n).take 1).map Prod.fst = [old] := by
    rw [List.take_add, List.append_cancel_left_eq] at hkeys
    rw [← hkeys, List.map_take, List.map_drop]
  obtain ⟨⟨k, b⟩, hpair, hk⟩ := List.map_eq_singleton_iff.mp hlast
  obtain rfl : k = old := hk
  exact ⟨b, by rw [List.take_add, hpair]⟩

end Lookup

/-- What a store of capacity `cap` holds after a history, newest first. -/
def recent (cap : ℕ) : List (κ × β) → List (κ × β)
  | [] => []
  | e :: h => (e :: (recent cap h).filter fun x => x.1 ≠ e.1).take cap

/-- Where keys are spaced, nothing is remembered twice and the store is the end of the history. -/
theorem recent_eq_take {cap : ℕ} {h : List (κ × β)} (hs : Spaced cap (h.map Prod.fst)) :
    recent cap h = h.take cap := by
  induction h with
  | nil => simp [recent]
  | cons e h ih =>
    obtain ⟨hnot, hs⟩ := hs
    have hfilter : ((h.take cap).filter fun x => x.1 ≠ e.1) = h.take cap := by
      refine List.filter_eq_self.mpr fun x hx => decide_eq_true ?_
      rintro heq
      refine hnot ?_
      rw [← List.map_take, ← heq]
      exact List.mem_map_of_mem hx
    rw [recent, ih hs, hfilter]
    cases cap with
    | zero => rfl
    | succ n => rw [List.take_succ_cons, List.take_take, List.take_succ_cons, Nat.min_eq_left n.le_succ]

end Camera3D.Store
