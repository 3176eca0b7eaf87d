import Mathlib.Data.List.Nodup

/-! The first entries of a list, one for each key. -/
namespace Camera3D.Store

variable {α κ τ : Type*} [DecidableEq κ] [DecidableEq τ]

/-- The entries whose key is neither among the seen ones nor that of an earlier entry. -/
def firsts (key : α → κ) : List κ → List α → List α
  | _, [] => []
  | seen, a :: as =>
    if key a ∈ seen then firsts key seen as else a :: firsts key (key a :: seen) as

theorem mem_of_mem_firsts {key : α → κ} {seen : List κ} {as : List α} {a : α}
    (h : a ∈ firsts key seen as) : a ∈ as := by
  induction as generalizing seen with
  | nil => exact h
  | cons b as ih =>
    rw [firsts] at h
    split_ifs at h
    · exact List.mem_cons_of_mem b (ih h)
    · rcases List.mem_cons.mp h with rfl | h
      · exact List.mem_cons_self
      · exact List.mem_cons_of_mem b (ih h)

theorem map_firsts (key : α → κ) (seen : List κ) (as : List α) :
    (firsts key seen as).map key = ((as.map key).filter (· ∉ seen)).eraseDups := by
  induction as generalizing seen with
  | nil => rfl
  | cons a as ih =>
    rw [firsts, List.map_cons]
    split_ifs with hseen
    · rw [List.filter_cons_of_neg (by simpa using hseen)]
      exact ih seen
    · rw [List.filter_cons_of_pos (by simpa using hseen), List.eraseDups_cons, List.map_cons, ih,
        List.filter_filter]
      congr 3
      funext k
      rw [Bool.eq_iff_iff]
      simp

theorem exists_mem_firsts (key : α → κ) {as : List α} {a : α} (h : a ∈ as) :
    ∃ b ∈ firsts key [] as, key b = key a := by
  apply List.mem_map.mp
  rw [map_firsts, List.mem_eraseDups, List.mem_filter]
  exact ⟨List.mem_map_of_mem h, by simp⟩

theorem nodup_map_firsts (key : α → κ) (seen : List κ) (as : List α) :
    ((firsts key seen as).map key).Nodup := by
  induction as generalizing seen with
  | nil => exact List.nodup_nil
  | cons a as ih =>
    rw [firsts]
    split_ifs with hseen
    · exact ih seen
    · rw [List.map_cons, List.nodup_cons]
      refine ⟨?_, ih _⟩
      rw [map_firsts, List.mem_eraseDups, List.mem_filter]
      simp

/-- The keys that are seen matter only as far as they tell the entries apart. -/
theorem firsts_congr {key : α → κ} {key' : α → τ} {all before as : List α}
    (h : ∀ a ∈ all, ∀ b ∈ all, key a = key b ↔ key' a = key' b) (hbefore : before ⊆ all)
    (has : as ⊆ all) :
    firsts key (before.map key) as = firsts key' (before.map key') as := by
  induction as generalizing before with
  | nil => rfl
  | cons a as ih =>
    obtain ⟨ha, has⟩ := List.cons_subset.mp has
    have hseen : key a ∈ before.map key ↔ key' a ∈ before.map key' := by
      rw [List.mem_map, List.mem_map]
      constructor
      · rintro ⟨b, hb, heq⟩
        exact ⟨b, hb, (h b (hbefore hb) a ha).mp heq⟩
      · rintro ⟨b, hb, heq⟩
        exact ⟨b, hb, (h b (hbefore hb) a ha).mpr heq⟩
    rw [firsts, firsts]
    by_cases hmem : key a ∈ before.map key
    · rw [if_pos hmem, if_pos (hseen.mp hmem)]
      exact ih hbefore has
    · rw [if_neg hmem, if_neg (fun hmem' => hmem (hseen.mpr hmem'))]
      congr 1
      exact ih (List.cons_subset.mpr ⟨ha, hbefore⟩) has

/-- Where the key is a code of a tag, the first entries by key are those by tag exactly if the code
tells the tags of the list apart. -/
theorem map_firsts_code_iff (code : τ → κ) (tag : α → τ) (as : List α) :
    (firsts (code ∘ tag) [] as).map tag = (as.map tag).eraseDups ↔
      ∀ a ∈ as, ∀ b ∈ as, code (tag a) = code (tag b) → tag a = tag b := by
  constructor
  · intro hfirsts a ha b hb hcode
    have hkept : ∀ c ∈ as, ∃ c' ∈ firsts (code ∘ tag) [] as, tag c' = tag c := by
      intro c hc
      apply List.mem_map.mp
      rw [hfirsts, List.mem_eraseDups]
      exact List.mem_map_of_mem hc
    obtain ⟨a', ha', hatag⟩ := hkept a ha
    obtain ⟨b', hb', hbtag⟩ := hkept b hb
    have hsame : a' = b' := by
      apply List.inj_on_of_nodup_map (nodup_map_firsts (code ∘ tag) [] as) ha' hb'
      rw [Function.comp_apply, Function.comp_apply, hatag, hbtag, hcode]
    rw [← hatag, ← hbtag, hsame]
  · intro hinj
    have htell : ∀ a ∈ as, ∀ b ∈ as, (code ∘ tag) a = (code ∘ tag) b ↔ tag a = tag b :=
      fun a ha b hb => ⟨hinj a ha b hb, congrArg code⟩
    have hcongr : firsts (code ∘ tag) (([] : List α).map (code ∘ tag)) as =
        firsts tag (([] : List α).map tag) as :=
      firsts_congr htell (List.nil_subset as) (List.Subset.refl as)
    rw [List.map_nil, List.map_nil] at hcongr
    rw [hcongr, map_firsts]
    simp

end Camera3D.Store
