import Mathlib.Data.List.Basic
import Mathlib.Data.List.Infix

/-! First occurrences of a pattern in a text, and quoted values behind an escape symbol, over any
alphabet. A position of the text is the rest of the text from there on. -/
namespace Camera3D.Text

variable {α : Type*} [DecidableEq α] {pat pre rest text : List α} {c : α}

/-- The text from the first occurrence of the pattern on. -/
def find (pat : List α) : List α → Option (List α)
  | [] => if pat = [] then some [] else none
  | c :: text => if pat <+: c :: text then some (c :: text) else find pat text

theorem find_of_starts (h : pat <+: text) : find pat text = some text := by
  cases text with
  | nil => simp [find, List.prefix_nil.mp h]
  | cons c text => simp [find, h]

theorem find_cons_of_not_starts (h : ¬ pat <+: c :: text) :
    find pat (c :: text) = find pat text := by
  simp [find, h]

/-- A pattern does not start where its first symbol does not stand. -/
theorem find_append_of_not_mem {q : α} (h : q ∉ pre) :
    find (q :: pat) (pre ++ rest) = find (q :: pat) rest := by
  induction pre with
  | nil => rfl
  | cons c pre ih =>
    have hc := List.ne_of_not_mem_cons h
    have hpre := List.not_mem_of_not_mem_cons h
    have hnot : ¬ q :: pat <+: c :: (pre ++ rest) := fun hp => hc (List.cons_prefix_cons.mp hp).1
    rw [List.cons_append, find_cons_of_not_starts hnot]
    exact ih hpre

theorem find_isSome_of_infix (h : pat <:+: text) : (find pat text).isSome := by
  induction text with
  | nil => simp [find, List.infix_nil.mp h]
  | cons c text ih =>
    by_cases hp : pat <+: c :: text
    · simp [find_of_starts hp]
    · rw [find_cons_of_not_starts hp]
      exact ih ((List.infix_cons_iff.mp h).resolve_left hp)

theorem find_starts {found : List α} (h : find pat text = some found) : pat <+: found := by
  induction text with
  | nil =>
    unfold find at h
    split_ifs at h with hpat
    rw [hpat]
    exact List.nil_prefix
  | cons c text ih =>
    by_cases hp : pat <+: c :: text
    · rw [find_of_starts hp] at h
      cases h
      exact hp
    · rw [find_cons_of_not_starts hp] at h
      exact ih h

theorem find_suffix {found : List α} (h : find pat text = some found) : found <:+ text := by
  induction text with
  | nil =>
    unfold find at h
    split_ifs at h
    cases h
    exact List.suffix_rfl
  | cons c text ih =>
    by_cases hp : pat <+: c :: text
    · rw [find_of_starts hp] at h
      cases h
      exact List.suffix_rfl
    · rw [find_cons_of_not_starts hp] at h
      exact (ih h).trans (List.suffix_cons c text)

/-- More text after the first occurrence does not move it. -/
theorem find_append {found : List α} (h : find pat text = some found) :
    find pat (text ++ rest) = some (found ++ rest) := by
  induction text with
  | nil =>
    have hpat := find_starts h
    rw [List.suffix_nil.mp (find_suffix h)] at hpat ⊢
    rw [List.prefix_nil.mp hpat]
    exact find_of_starts List.nil_prefix
  | cons c text ih =>
    by_cases hp : pat <+: c :: text
    · rw [find_of_starts hp] at h
      cases h
      exact find_of_starts (hp.trans (List.prefix_append (c :: text) rest))
    · rw [find_cons_of_not_starts hp] at h
      have hlength : pat.length ≤ (c :: text).length :=
        (find_starts h).length_le.trans ((find_suffix h).length_le.trans (Nat.le_succ _))
      have hnot : ¬ pat <+: c :: (text ++ rest) := fun hlater =>
        hp (List.prefix_of_prefix_length_le hlater (List.prefix_append (c :: text) rest) hlength)
      rw [List.cons_append, find_cons_of_not_starts hnot]
      exact ih h

/-- A text that is cut behind the first occurrence still has it. -/
theorem find_of_append {found : List α} (h : find pat (text ++ rest) = some (found ++ rest))
    (hpat : pat <+: found) : find pat text = some found := by
  cases hfind : find pat text with
  | some other =>
    rw [find_append hfind, Option.some.injEq, List.append_cancel_right_eq] at h
    rw [h]
  | none =>
    obtain ⟨before, hbefore⟩ := find_suffix h
    rw [← List.append_assoc, List.append_cancel_right_eq] at hbefore
    have hinfix : pat <:+: text := hpat.isInfix.trans ⟨before, [], by rw [hbefore, List.append_nil]⟩
    have hsome := find_isSome_of_infix hinfix
    rw [hfind] at hsome
    cases hsome

/-- The symbols a record of quoted keys and values is written with, as in `"key":"value",`. -/
structure Punctuation (α : Type*) where
  quote : α
  esc : α
  mark : α
  sep : α
  quote_ne_esc : quote ≠ esc
  quote_ne_mark : quote ≠ mark
  quote_ne_sep : quote ≠ sep
  mark_ne_sep : mark ≠ sep

namespace Punctuation

variable (p : Punctuation α) {key other v : List α}

/-- Every quote and every escape symbol of the value stands behind an escape symbol. -/
def escape : List α → List α
  | [] => []
  | c :: v => if c = p.esc ∨ c = p.quote then p.esc :: c :: escape v else c :: escape v

/-- What stands before the first plain quote, with the escapes taken back. -/
def unescape : List α → Option (List α)
  | [] => none
  | c :: text =>
    if c = p.quote then some []
    else if c = p.esc then
      match text with
      | [] => none
      | d :: text => (unescape text).map (d :: ·)
    else (unescape text).map (c :: ·)

def keyed (k rest : List α) : List α := p.quote :: (k ++ p.quote :: p.mark :: rest)

def quoted (v rest : List α) : List α := p.quote :: (p.escape v ++ p.quote :: rest)

/-- A key of plain symbols. -/
structure IsKey (k : List α) : Prop where
  ne_nil : k ≠ []
  quote : p.quote ∉ k
  esc : p.esc ∉ k
  mark : p.mark ∉ k
  sep : p.sep ∉ k

instance (k : List α) : Decidable (p.IsKey k) :=
  decidable_of_iff (k ≠ [] ∧ p.quote ∉ k ∧ p.esc ∉ k ∧ p.mark ∉ k ∧ p.sep ∉ k)
    ⟨fun ⟨hne, hq, he, hm, hs⟩ => ⟨hne, hq, he, hm, hs⟩,
      fun h => ⟨h.ne_nil, h.quote, h.esc, h.mark, h.sep⟩⟩

variable {p}

theorem escape_of_plain {v : List α} (hquote : p.quote ∉ v) (hesc : p.esc ∉ v) : p.escape v = v := by
  induction v with
  | nil => rfl
  | cons c v ih =>
    rw [List.mem_cons, not_or] at hquote hesc
    rw [escape, if_neg (not_or.mpr ⟨Ne.symm hesc.1, Ne.symm hquote.1⟩), ih hquote.2 hesc.2]

omit [DecidableEq α] in
theorem keyed_append (k v rest : List α) : p.keyed k (v ++ rest) = p.keyed k v ++ rest := by
  simp [keyed]

theorem quoted_append (v tail rest : List α) : p.quoted v (tail ++ rest) = p.quoted v tail ++ rest := by
  simp [quoted]

/-- What follows a member ends the text that the member starts. -/
theorem suffix_member (k v rest : List α) : rest <:+ p.sep :: p.keyed k (p.quoted v rest) :=
  ⟨p.sep :: p.keyed k (p.quoted v []), by simp [keyed, quoted]⟩

theorem unescape_quote : p.unescape (p.quote :: rest) = some [] := by
  rw [unescape.eq_def]
  simp

theorem unescape_escaped (d : α) :
    p.unescape (p.esc :: d :: rest) = (p.unescape rest).map (d :: ·) := by
  rw [unescape.eq_def]
  simp [p.quote_ne_esc.symm]

theorem unescape_plain (hq : c ≠ p.quote) (he : c ≠ p.esc) :
    p.unescape (c :: rest) = (p.unescape rest).map (c :: ·) := by
  rw [unescape.eq_def]
  simp [hq, he]

theorem unescape_escape (v : List α) : p.unescape (p.escape v ++ p.quote :: rest) = some v := by
  induction v with
  | nil => exact unescape_quote
  | cons c v ih =>
    by_cases hc : c = p.esc ∨ c = p.quote
    · simp only [escape, hc, if_true, List.cons_append]
      rw [unescape_escaped, ih, Option.map_some]
    · have hq : c ≠ p.quote := fun h => hc (.inr h)
      have he : c ≠ p.esc := fun h => hc (.inl h)
      simp only [escape, hc, if_false, List.cons_append]
      rw [unescape_plain hq he, ih, Option.map_some]

omit [DecidableEq α] in
/-- Where a key starts right after a quote, it is the key that stands there. -/
theorem key_eq_of_starts {q : α} (hk : q ∉ key) (ho : q ∉ other)
    (h : key ++ q :: pat <+: other ++ q :: rest) : key = other := by
  induction key generalizing other with
  | nil =>
    cases other with
    | nil => rfl
    | cons c other =>
      obtain ⟨rfl, -⟩ := List.cons_prefix_cons.mp h
      simp at ho
  | cons a key ih =>
    have ha := List.ne_of_not_mem_cons hk
    have hk := List.not_mem_of_not_mem_cons hk
    cases other with
    | nil => exact absurd (List.cons_prefix_cons.mp h).1.symm ha
    | cons c other =>
      obtain ⟨rfl, htail⟩ := List.cons_prefix_cons.mp h
      rw [ih hk (List.not_mem_of_not_mem_cons ho) htail]

/-- No key with its mark starts inside an escaped value: the quote that ends the key would stand
behind an escape symbol, or be the one that ends the value, with no mark after it. -/
theorem not_key_starts_escape (hk : p.quote ∉ key) (he : p.esc ∉ key) (v : List α) :
    ¬ key ++ p.quote :: p.mark :: pat <+: p.escape v ++ p.quote :: p.sep :: rest := by
  induction v generalizing key with
  | nil =>
    intro hp
    have hkey : key = [] := key_eq_of_starts hk List.not_mem_nil hp
    subst hkey
    simp [escape, p.mark_ne_sep] at hp
  | cons b v ih =>
    intro hp
    by_cases hb : b = p.esc ∨ b = p.quote
    · cases key with
      | nil => simp [escape, hb, p.quote_ne_esc] at hp
      | cons a key =>
        simp only [escape, hb, if_true, List.cons_append, List.cons_prefix_cons] at hp
        exact List.ne_of_not_mem_cons he hp.1.symm
    · have hbq : p.quote ≠ b := fun h => hb (.inr h.symm)
      cases key with
      | nil => simp [escape, hb, hbq] at hp
      | cons a key =>
        simp only [escape, hb, if_false, List.cons_append, List.cons_prefix_cons] at hp
        exact ih (List.not_mem_of_not_mem_cons hk) (List.not_mem_of_not_mem_cons he) hp.2

omit [DecidableEq α] in
/-- No key starts at a quote that another symbol follows. -/
theorem not_key_starts_quote (hne : key ≠ []) (hc : c ∉ key) :
    ¬ p.keyed key pat <+: p.quote :: c :: rest := by
  intro hp
  obtain ⟨a, key, rfl⟩ := List.exists_cons_of_ne_nil hne
  simp only [keyed, List.cons_append, List.cons_prefix_cons, true_and] at hp
  exact List.ne_of_not_mem_cons hc hp.1.symm

/-- The search for a key passes over another one. -/
theorem find_keyed_skip (hk : p.IsKey key) (ho : p.quote ∉ other) (hne : key ≠ other) :
    find (p.keyed key pat) (p.keyed other rest) = find (p.keyed key pat) rest := by
  have hopen : ¬ p.keyed key pat <+: p.keyed other rest := fun hp =>
    hne (key_eq_of_starts hk.quote ho (List.cons_prefix_cons.mp hp).2)
  have hclose : ¬ p.keyed key pat <+: p.quote :: p.mark :: rest :=
    not_key_starts_quote hk.ne_nil hk.mark
  have hmark : p.quote ∉ [p.mark] := by simp [p.quote_ne_mark]
  unfold keyed at hopen hclose ⊢
  rw [find_cons_of_not_starts hopen, find_append_of_not_mem ho, find_cons_of_not_starts hclose]
  exact find_append_of_not_mem hmark

/-- It passes over an escaped value. -/
theorem find_escape_skip (hk : p.IsKey key) (v : List α) :
    find (p.keyed key pat) (p.escape v ++ p.quote :: p.sep :: rest) =
      find (p.keyed key pat) (p.sep :: rest) := by
  induction v with
  | nil => exact find_cons_of_not_starts (not_key_starts_quote hk.ne_nil hk.sep)
  | cons b v ih =>
    have hb : ¬ p.keyed key pat <+: b :: (p.escape v ++ p.quote :: p.sep :: rest) := fun hp =>
      not_key_starts_escape hk.quote hk.esc v (List.cons_prefix_cons.mp hp).2
    have hesc : ∀ text, ¬ p.keyed key pat <+: p.esc :: text := fun text hp =>
      p.quote_ne_esc (List.cons_prefix_cons.mp hp).1
    unfold escape
    split
    case isTrue =>
      rw [List.cons_append, List.cons_append, find_cons_of_not_starts (hesc _),
        find_cons_of_not_starts hb, ih]
    case isFalse => rw [List.cons_append, find_cons_of_not_starts hb, ih]

theorem find_quoted_skip (hk : p.IsKey key) (v : List α) :
    find (p.keyed key pat) (p.quoted v (p.sep :: rest)) = find (p.keyed key pat) (p.sep :: rest) := by
  have hopen : ¬ p.keyed key pat <+: p.quoted v (p.sep :: rest) := fun hp =>
    not_key_starts_escape hk.quote hk.esc v (List.cons_prefix_cons.mp hp).2
  unfold quoted at hopen ⊢
  rw [find_cons_of_not_starts hopen, find_escape_skip hk]

theorem find_sep (key pat text : List α) :
    find (p.keyed key pat) (p.sep :: text) = find (p.keyed key pat) text :=
  find_cons_of_not_starts fun hp => p.quote_ne_sep (List.cons_prefix_cons.mp hp).1

/-- The search for a key passes over a whole member with another one. -/
theorem find_member_skip (hk : p.IsKey key) (ho : p.quote ∉ other) (hne : key ≠ other)
    (v : List α) :
    find (p.keyed key pat) (p.sep :: p.keyed other (p.quoted v (p.sep :: rest))) =
      find (p.keyed key pat) (p.sep :: rest) := by
  rw [find_sep, find_keyed_skip hk ho hne, find_quoted_skip hk]

/-- It stops at the member with the key. -/
theorem find_member (key : List α) (h : pat <+: rest) :
    find (p.keyed key pat) (p.sep :: p.keyed key rest) = some (p.keyed key rest) := by
  have hstarts : p.keyed key pat <+: p.keyed key rest := by
    obtain ⟨tail, rfl⟩ := h
    exact ⟨tail, by simp [keyed]⟩
  rw [find_sep, find_of_starts hstarts]

end Punctuation

end Camera3D.Text
