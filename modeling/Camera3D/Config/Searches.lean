import Camera3D.Config.Document
import Camera3D.Text.Strings

/-! What the loader's searches find in a spelled-out token sequence. -/
namespace Camera3D.Config

open Camera3D.Text

/-- As much of a string as is read: the search for its end stops at an escaped quote too. -/
def upToQuote (v : Bytes) : Bytes := v.takeWhile (· ≠ 34)

section Searches
variable {pre body post ts : List Token} {t : Token} {text a b obj k v n : Bytes} {m d : ℕ}

/-- Closing braces of a text that keeps its depth belong to opening ones before them. -/
theorem matchClosingBrace_nested (h : nested d a = some m) (rest : Bytes) :
    matchClosingBrace (d + 1) (a ++ rest) =
      (matchClosingBrace (m + 1) rest).map fun r => (a ++ r.1, r.2) := by
  induction a generalizing d with
  | nil =>
    cases h
    simp
  | cons c a ih =>
    have hpush : ∀ e : ℕ, nested e a = some m →
        (matchClosingBrace (e + 1) (a ++ rest)).map (fun r => (c :: r.1, r.2)) =
          (matchClosingBrace (m + 1) rest).map fun r => (c :: a ++ r.1, r.2) := by
      intro e he
      rw [ih he, Option.map_map]
      rfl
    rw [nested] at h
    rw [List.cons_append, matchClosingBrace]
    split_ifs at h with hopen hclose hzero
    · rw [if_pos hopen]
      exact hpush (d + 1) h
    · rw [if_neg hopen, if_pos hclose]
      have hdepth : (d : ℤ) + 1 - 1 = (d - 1 : ℕ) + 1 := by omega
      rw [if_neg (by omega), hdepth]
      exact hpush (d - 1) h
    · rw [if_neg hopen, if_neg hclose]
      exact hpush d h

theorem matchClosingBrace_closed (h : nested 0 a = some 0) (rest : Bytes) :
    matchClosingBrace 0 (123 :: (a ++ 125 :: rest)) = some (123 :: (a ++ [125]), rest) := by
  have hbody := matchClosingBrace_nested h (125 :: rest)
  have hclose : matchClosingBrace 1 (125 :: rest) = some ([125], rest) := rfl
  simp only [Nat.cast_zero, zero_add] at hbody
  rw [matchClosingBrace, if_pos rfl, zero_add, hbody, hclose]
  rfl

/-- A text that does not go below its depth is never closed. -/
theorem matchClosingBrace_open (h : nested 0 a = some m) : matchClosingBrace 0 (123 :: a) = none := by
  have hbody := matchClosingBrace_nested h []
  simp only [Nat.cast_zero, zero_add, List.append_nil] at hbody
  rw [matchClosingBrace, if_pos rfl, zero_add, hbody]
  rfl

theorem skipWs_token (ht : t.Marked) (h : Spells (t :: ts) text) :
    ∃ rest, skipWs text = t.bytes ++ rest ∧ Spells ts rest := by
  cases h with
  | @cons w rest _ _ hw hrest =>
    refine ⟨rest, ?_, hrest⟩
    have hspace : ∀ c ∈ w, isspace c := by
      intro c hc
      have hblanks : ∀ c ∈ blanks, isspace c := by decide
      exact hblanks c (hw c hc)
    unfold skipWs
    rw [List.dropWhile_append_of_pos hspace]
    cases t with
    | string s => rfl
    | mark c =>
      have hmark : ∀ c ∈ Token.marks, isspace c = false := by decide
      simp [Token.bytes, hmark c ht]

/-- Behind the quoted name the loader goes on to the next colon, and to the token behind that. -/
theorem afterKey_found (hfind : find (quotedName k) text = some (quotedName k ++ b))
    (hb : Spells (pre ++ colon :: t :: post) b) (hpre : ∀ u ∈ pre, 58 ∉ u.bytes)
    (ht : t.Marked) :
    ∃ rest, afterKey text k = some (t.bytes ++ rest) ∧ Spells post rest := by
  obtain ⟨value, hcolon, hvalue⟩ := find_mark (by decide) hpre hb
  obtain ⟨rest, hskip, hrest⟩ := skipWs_token ht hvalue
  refine ⟨rest, ?_, hrest⟩
  have hpat : ascii "\"" ++ k ++ ascii "\"" = quotedName k := rfl
  have hmark : ascii ":" = [58] := rfl
  unfold afterKey
  simp only [hpat, hmark, hfind, List.drop_left, hcolon, List.drop_one, List.tail_cons, hskip]

/-- The first string that ends in the quoted name is where the search stops. -/
theorem find_tokens_ending (hn : IsPlainName k) (hpre : ∀ t ∈ pre, t.Quiet k)
    (hv : QuotesEscaped v) (hends : 34 :: k <:+ 34 :: v)
    (h : Spells (pre ++ .string v :: post) text) :
    ∃ rest, find (quotedName k) text = some (quotedName k ++ rest) ∧ Spells post rest := by
  obtain ⟨a, b, rfl, ha, hb⟩ := h.split
  cases hb with
  | @cons w rest _ _ hw hrest =>
    refine ⟨rest, ?_, hrest⟩
    have hblank : (34 : UInt8) ∉ w := fun hq => absurd (hw 34 hq) (by decide)
    have hleads : Leads (w ++ ((Token.string v).bytes ++ rest)) := by
      refine (leads_blank hw).append fun c hc => ?_
      cases hc
      simp [leads]
    rw [find_tokens_skip hn ha hpre hleads]
    refine (find_append_of_not_mem hblank).trans ?_
    simp only [Token.bytes, List.cons_append, List.append_assoc, List.nil_append]
    exact find_string_hit hn hv hends

theorem find_tokens (hn : IsPlainName k) (hpre : ∀ t ∈ pre, t.Quiet k)
    (h : Spells (pre ++ .string k :: post) text) :
    ∃ rest, find (quotedName k) text = some (quotedName k ++ rest) ∧ Spells post rest :=
  find_tokens_ending hn hpre (quotesEscaped_of_not_mem hn.quote) List.suffix_rfl h

theorem find_tokens_none (hn : IsPlainName k) (hts : ∀ t ∈ ts, t.Quiet k) (h : Spells ts text) :
    find (quotedName k) text = none := by
  rw [← List.append_nil text, find_tokens_skip hn h hts (by simp [Leads])]
  simp [find, quotedName]

theorem afterKey_tokens (hn : IsPlainName k) (hpre : ∀ t ∈ pre, t.Quiet k)
    (ht : t.Marked)
    (h : Spells (pre ++ .string k :: colon :: t :: post) text) :
    ∃ rest, afterKey text k = some (t.bytes ++ rest) ∧ Spells post rest := by
  obtain ⟨behind, hfind, hbehind⟩ := find_tokens hn hpre h
  have hbehind : Spells ([] ++ colon :: t :: post) behind := hbehind
  exact afterKey_found hfind hbehind (by simp) ht

/-- Behind a string that ends in the quoted name the next colon is taken for the name's own. -/
theorem afterKey_ending {gap : List Token} (hn : IsPlainName k) (hpre : ∀ t ∈ pre, t.Quiet k)
    (hv : QuotesEscaped v) (hends : 34 :: k <:+ 34 :: v) (hgap : ∀ u ∈ gap, 58 ∉ u.bytes)
    (ht : t.Marked) (h : Spells (pre ++ .string v :: (gap ++ colon :: t :: post)) text) :
    ∃ rest, afterKey text k = some (t.bytes ++ rest) ∧ Spells post rest := by
  obtain ⟨behind, hfind, hbehind⟩ := find_tokens_ending hn hpre hv hends h
  exact afterKey_found hfind hbehind hgap ht

theorem afterKey_tokens_none (hn : IsPlainName k) (hts : ∀ t ∈ ts, t.Quiet k) (h : Spells ts text) :
    afterKey text k = none := by
  have hpat : ascii "\"" ++ k ++ ascii "\"" = quotedName k := rfl
  unfold afterKey
  simp only [hpat, find_tokens_none hn hts h]

theorem upToQuote_append (v rest : Bytes) : ∃ e, v ++ 34 :: rest = upToQuote v ++ 34 :: e := by
  unfold upToQuote
  induction v with
  | nil => exact ⟨rest, rfl⟩
  | cons c v ih =>
    by_cases hc : c = 34
    · subst hc
      exact ⟨v ++ 34 :: rest, by simp⟩
    · obtain ⟨e, he⟩ := ih
      exact ⟨e, by simpa [hc] using he⟩

theorem extractStringField_of_afterKey {rest : Bytes}
    (h : afterKey obj k = some ((Token.string v).bytes ++ rest)) :
    extractStringField obj k = upToQuote v := by
  obtain ⟨e, he⟩ := upToQuote_append v rest
  have hfree : (34 : UInt8) ∉ upToQuote v := by
    intro hmem
    simpa using List.mem_takeWhile_imp hmem
  have hquote : ascii "\"" = [34] := rfl
  have hfind : find [34] (v ++ 34 :: rest) = some (34 :: e) := by
    rw [he, find_append_of_not_mem hfree]
    exact find_of_starts ⟨e, rfl⟩
  unfold extractStringField
  simp only [h, Token.bytes, List.cons_append, List.append_assoc, List.nil_append, hquote, hfind]
  rw [he]
  simp

theorem extractStringField_of_none (h : afterKey obj k = none) : extractStringField obj k = [] := by
  unfold extractStringField
  rw [h]

theorem nested_level (h : ∀ t ∈ body, t.Level) : nested 0 (body.flatMap Token.bytes) = some 0 :=
  (spells_bytes body).nested h 0

/-- An object whose braces are matched is taken whole. -/
theorem extractObjectForKey_of_nested (hbody : nested 0 (body.flatMap Token.bytes) = some 0)
    (h : Spells (body ++ .mark 125 :: post) b) (hafter : afterKey text k = some (123 :: b)) :
    Spells (.mark 123 :: (body ++ [.mark 125])) (extractObjectForKey text k) := by
  obtain ⟨a, c, rfl, ha, hc⟩ := h.split
  cases hc with
  | @cons w rest _ _ hw hrest =>
    have haw : Spells body (a ++ w) := by simpa using ha.append (.nil hw)
    have hlevel : nested 0 (a ++ w) = some 0 := (haw.nested_bytes 0).trans hbody
    have hmatch := matchClosingBrace_closed hlevel rest
    have htext : 123 :: (a ++ (w ++ ((Token.mark 125).bytes ++ rest))) =
        123 :: (a ++ w ++ 125 :: rest) := by
      simp [Token.bytes]
    unfold extractObjectForKey
    simp only [hafter, htext, hmatch]
    exact Spells.of_cons (.mark 123) (haw.append (Spells.of_cons (.mark 125) .of_nil))

theorem extractObjectForKey_of_afterKey (hbody : ∀ t ∈ body, t.Level)
    (h : Spells (body ++ .mark 125 :: post) b) (hafter : afterKey text k = some (123 :: b)) :
    Spells (.mark 123 :: (body ++ [.mark 125])) (extractObjectForKey text k) :=
  extractObjectForKey_of_nested (nested_level hbody) h hafter

end Searches

section Tokens
variable {ps qs : List (List Token)} {p : List Token} {ms : Members} {e : Entry}
  {entries : List Entry} {k v text obj : Bytes} {t : Token} {P : Token → Prop}

theorem joined_append (ps qs : List (List Token)) (p : List Token) :
    joined (ps ++ p :: qs) =
      ps.flatMap (· ++ [comma]) ++ (p ++ qs.flatMap (comma :: ·)) := by
  induction ps with
  | nil =>
    induction qs generalizing p with
    | nil => simp [joined]
    | cons q qs ih => simpa [joined] using ih q
  | cons r ps ih =>
    cases ps with
    | nil => simpa [joined] using ih
    | cons r' ps => simpa [joined] using ih

theorem mem_joined (h : t ∈ joined ps) : t = comma ∨ ∃ p ∈ ps, t ∈ p := by
  induction ps with
  | nil => simp [joined] at h
  | cons p ps ih =>
    cases ps with
    | nil => exact .inr ⟨p, List.mem_cons_self, h⟩
    | cons q ps =>
      obtain h | rfl | h : t ∈ p ∨ t = comma ∨ t ∈ joined (q :: ps) := by simpa [joined] using h
      · exact .inr ⟨p, List.mem_cons_self, h⟩
      · exact .inl rfl
      · obtain rfl | ⟨r, hr, ht⟩ := ih h
        · exact .inl rfl
        · exact .inr ⟨r, List.mem_cons_of_mem _ hr, ht⟩

theorem mem_bodyTokens (h : t ∈ bodyTokens ms) :
    t = comma ∨ t = colon ∨ ∃ p ∈ ms, t = .string p.1 ∨ t = .string p.2 := by
  obtain rfl | ⟨q, hq, ht⟩ := mem_joined h
  · exact .inl rfl
  · obtain ⟨p, hp, rfl⟩ := List.mem_map.mp hq
    obtain rfl | rfl | rfl : t = .string p.1 ∨ t = colon ∨ t = .string p.2 := by
      simpa [memberTokens] using ht
    · exact .inr (.inr ⟨p, hp, .inl rfl⟩)
    · exact .inr (.inl rfl)
    · exact .inr (.inr ⟨p, hp, .inr rfl⟩)

theorem forall_joined (hcomma : P comma) (h : ∀ p ∈ ps, ∀ t ∈ p, P t) : ∀ t ∈ joined ps, P t := by
  intro t ht
  obtain rfl | ⟨p, hp, ht⟩ := mem_joined ht
  · exact hcomma
  · exact h p hp t ht

theorem forall_bodyTokens (hmark : ∀ c ∈ Token.marks, P (.mark c))
    (h : ∀ p ∈ ms, P (.string p.1) ∧ P (.string p.2)) : ∀ t ∈ bodyTokens ms, P t := by
  intro t ht
  obtain rfl | rfl | ⟨p, hp, rfl | rfl⟩ := mem_bodyTokens ht
  · exact hmark 44 (by decide)
  · exact hmark 58 (by decide)
  · exact (h p hp).1
  · exact (h p hp).2

theorem forall_objectTokens (hmark : ∀ c ∈ Token.marks, P (.mark c))
    (h : ∀ p ∈ ms, P (.string p.1) ∧ P (.string p.2)) : ∀ t ∈ objectTokens ms, P t :=
  List.forall_mem_cons.mpr ⟨hmark 123 (by decide), List.forall_mem_append.mpr
    ⟨forall_bodyTokens hmark h, List.forall_mem_singleton.mpr (hmark 125 (by decide))⟩⟩

theorem forall_cameraTokens (hmark : ∀ c ∈ Token.marks, P (.mark c))
    (hcamera : P (.string (ascii "camera")))
    (h : ∀ p ∈ ms, P (.string p.1) ∧ P (.string p.2)) : ∀ t ∈ cameraTokens ms, P t := by
  have hobject := List.forall_mem_append.mpr ⟨forall_objectTokens hmark h,
    List.forall_mem_singleton.mpr (hmark 125 (by decide))⟩
  exact List.forall_mem_cons.mpr ⟨hmark 123 (by decide), List.forall_mem_cons.mpr
    ⟨hcamera, List.forall_mem_cons.mpr ⟨hmark 58 (by decide), hobject⟩⟩⟩

/-- The objects of an entry, a note being one of its own. -/
def Entry.members : Entry → List Members
  | note name value => [[(name, value)]]
  | group _ members => [members]
  | cameras objects => objects

theorem mem_members_of_membersOf (h : e.membersOf k = some ms) : ms ∈ e.members := by
  cases e with
  | note name value => simp [Entry.membersOf] at h
  | cameras objects => simp [Entry.membersOf] at h
  | group name members =>
    obtain ⟨-, rfl⟩ : name = k ∧ members = ms := by simpa [Entry.membersOf] using h
    exact List.mem_cons_self

theorem forall_entryTokens (hmark : ∀ c ∈ Token.marks, P (.mark c))
    (hcameras : P (.string (ascii "cameras"))) (hcamera : P (.string (ascii "camera")))
    (hgroup : ∀ n ms, e = .group n ms → P (.string n))
    (h : ∀ ms ∈ e.members, ∀ p ∈ ms, P (.string p.1) ∧ P (.string p.2)) : ∀ t ∈ e.tokens, P t := by
  cases e with
  | note name value => exact forall_bodyTokens hmark (h _ List.mem_cons_self)
  | group name members =>
    exact List.forall_mem_cons.mpr ⟨hgroup name members rfl, List.forall_mem_cons.mpr
      ⟨hmark 58 (by decide), forall_objectTokens hmark (h members List.mem_cons_self)⟩⟩
  | cameras objects =>
    have hobjects : ∀ p ∈ objects.map cameraTokens, ∀ t ∈ p, P t := by
      intro p hp
      obtain ⟨ms, hms, rfl⟩ := List.mem_map.mp hp
      exact forall_cameraTokens hmark hcamera (h ms hms)
    have harray := List.forall_mem_append.mpr ⟨forall_joined (hmark 44 (by decide)) hobjects,
      List.forall_mem_singleton.mpr (hmark 93 (by decide))⟩
    exact List.forall_mem_cons.mpr ⟨hcameras, List.forall_mem_cons.mpr
      ⟨hmark 58 (by decide), List.forall_mem_cons.mpr ⟨hmark 91 (by decide), harray⟩⟩⟩

theorem forall_tokens (hmark : ∀ c ∈ Token.marks, P (.mark c))
    (h : ∀ e ∈ entries, ∀ t ∈ e.tokens, P t) :
    ∀ t ∈ Token.mark 123 :: (joined (entries.map Entry.tokens) ++ [.mark 125]), P t := by
  have hentries : ∀ p ∈ entries.map Entry.tokens, ∀ t ∈ p, P t := by
    intro p hp
    obtain ⟨e, he, rfl⟩ := List.mem_map.mp hp
    exact h e he
  exact List.forall_mem_cons.mpr ⟨hmark 123 (by decide), List.forall_mem_append.mpr
    ⟨forall_joined (hmark 44 (by decide)) hentries,
      List.forall_mem_singleton.mpr (hmark 125 (by decide))⟩⟩

/-- In this object the search for a field stops at the first member of its name, if there is one. -/
def Members.Finds (k : Bytes) : Members → Prop
  | [] => True
  | (n, v) :: ms => n = k ∨ (¬ EndsIn k n ∧ ¬ EndsIn k v) ∧ Finds k ms

instance Members.decidableFinds (k : Bytes) : DecidablePred (Members.Finds k)
  | [] => inferInstanceAs (Decidable True)
  | (n, v) :: ms =>
    have := Members.decidableFinds k ms
    inferInstanceAs (Decidable (n = k ∨ (¬ EndsIn k n ∧ ¬ EndsIn k v) ∧ Members.Finds k ms))

theorem Members.finds_of_forall (h : ∀ p ∈ ms, (p.1 ≠ k → ¬ EndsIn k p.1) ∧ ¬ EndsIn k p.2) :
    ms.Finds k := by
  induction ms with
  | nil => trivial
  | cons p ms ih =>
    obtain ⟨⟨hname, hvalue⟩, hrest⟩ := List.forall_mem_cons.mp h
    by_cases hk : p.1 = k
    · exact .inl hk
    · exact .inr ⟨⟨hname hk, hvalue⟩, ih hrest⟩

/-- Before the member with the field nothing ends in its name, or nothing does at all. -/
theorem Members.Finds.cases (h : ms.Finds k) :
    (ms.lookup k = none ∧ ∀ p ∈ ms, ¬ EndsIn k p.1 ∧ ¬ EndsIn k p.2) ∨
    ∃ before v behind, ms = before ++ (k, v) :: behind ∧ ms.lookup k = some v ∧
      ∀ p ∈ before, ¬ EndsIn k p.1 ∧ ¬ EndsIn k p.2 := by
  induction ms with
  | nil => exact .inl ⟨rfl, List.forall_mem_nil _⟩
  | cons p ms ih =>
    obtain ⟨n, v⟩ := p
    by_cases hn : n = k
    · subst hn
      exact .inr ⟨[], v, ms, rfl, List.lookup_cons_self, List.forall_mem_nil _⟩
    · obtain ⟨hp, hrest⟩ := h.resolve_left hn
      have hne : (k == n) = false := beq_eq_false_iff_ne.mpr (Ne.symm hn)
      rw [List.lookup_cons, hne]
      obtain ⟨hnone, hall⟩ | ⟨before, w, behind, rfl, hlookup, hall⟩ := ih hrest
      · exact .inl ⟨hnone, List.forall_mem_cons.mpr ⟨hp, hall⟩⟩
      · exact .inr ⟨(n, v) :: before, w, behind, rfl, hlookup, List.forall_mem_cons.mpr ⟨hp, hall⟩⟩

/-- There the field is read up to its first quote. -/
theorem extractStringField_lookup (hk : IsPlainName k) (hfinds : ms.Finds k)
    (hescaped : ∀ p ∈ ms, QuotesEscaped p.1 ∧ QuotesEscaped p.2) (h : Spells (objectTokens ms) obj) :
    extractStringField obj k = upToQuote ((ms.lookup k).getD []) := by
  have hquiet : ∀ ps : Members, (∀ p ∈ ps, p ∈ ms) →
      (∀ p ∈ ps, ¬ EndsIn k p.1 ∧ ¬ EndsIn k p.2) → ∀ p ∈ ps,
        (Token.string p.1).Quiet k ∧ (Token.string p.2).Quiet k := by
    intro ps hmem hends p hp
    obtain ⟨hname, hvalue⟩ := hescaped p (hmem p hp)
    exact ⟨⟨hname, (hends p hp).1⟩, ⟨hvalue, (hends p hp).2⟩⟩
  obtain ⟨hnone, hends⟩ | ⟨before, v, behind, rfl, hlookup, hends⟩ := hfinds.cases
  · have hts := forall_objectTokens (P := (·.Quiet k)) (fun c hc => hc)
      (hquiet ms (fun p hp => hp) hends)
    rw [hnone]
    exact extractStringField_of_none (afterKey_tokens_none hk hts h)
  · have hsplit : objectTokens (before ++ (k, v) :: behind) =
        (.mark 123 :: (before.map memberTokens).flatMap (· ++ [comma])) ++ .string k :: colon ::
          .string v :: ((behind.map memberTokens).flatMap (comma :: ·) ++ [.mark 125]) := by
      simp only [objectTokens, bodyTokens, List.map_append, List.map_cons, joined_append,
        memberTokens]
      simp
    have hbefore := hquiet before (fun p hp => List.mem_append_left _ hp) hends
    have hpre : ∀ t ∈ Token.mark 123 :: (before.map memberTokens).flatMap (· ++ [comma]),
        t.Quiet k := by
      intro t ht
      obtain rfl | ⟨p, hp, rfl | rfl | rfl | rfl⟩ : t = .mark 123 ∨ ∃ p ∈ before,
          t = .string p.1 ∨ t = colon ∨ t = .string p.2 ∨ t = comma := by
        simpa [memberTokens, or_assoc] using ht
      · exact (by decide : (123 : UInt8) ∈ Token.marks)
      · exact (hbefore p hp).1
      · exact (by decide : (58 : UInt8) ∈ Token.marks)
      · exact (hbefore p hp).2
      · exact (by decide : (44 : UInt8) ∈ Token.marks)
    rw [hsplit] at h
    obtain ⟨rest, hafter, -⟩ := afterKey_tokens (t := .string v) hk hpre trivial h
    rw [hlookup]
    exact extractStringField_of_afterKey hafter

theorem extractObjectForKey_missing (hk : IsPlainName k)
    (hquiet : ∀ e ∈ entries, ∀ t ∈ e.tokens, t ≠ .string k → t.Quiet k)
    (hnot : ∀ e ∈ entries, e.membersOf k = none → Token.string k ∉ e.tokens)
    (hnone : entries.findSome? (Entry.membersOf k) = none)
    (h : Spells (.mark 123 :: (joined (entries.map Entry.tokens) ++ [.mark 125])) text) :
    extractObjectForKey text k = [] := by
  have hquiet : ∀ e ∈ entries, ∀ t ∈ e.tokens, t.Quiet k := by
    intro e he t ht
    refine hquiet e he t ht ?_
    rintro rfl
    exact hnot e he (List.findSome?_eq_none_iff.mp hnone e he) ht
  unfold extractObjectForKey
  rw [afterKey_tokens_none hk (forall_tokens (fun c hc => hc) hquiet) h]

/-- A section is found where its name stands nowhere but before it. -/
theorem extractObjectForKey_section (hk : IsPlainName k)
    (hquiet : ∀ e ∈ entries, ∀ t ∈ e.tokens, t ≠ .string k → t.Quiet k)
    (hnot : ∀ e ∈ entries, e.membersOf k = none → Token.string k ∉ e.tokens)
    (hsome : entries.findSome? (Entry.membersOf k) = some ms)
    (hlevel : ∀ t ∈ bodyTokens ms, t.Level)
    (h : Spells (.mark 123 :: (joined (entries.map Entry.tokens) ++ [.mark 125])) text) :
    Spells (objectTokens ms) (extractObjectForKey text k) := by
  obtain ⟨before, e, behind, rfl, he, hbefore⟩ := List.findSome?_eq_some_iff.mp hsome
  obtain rfl : e = .group k ms := by
    cases e with
    | note name value => simp [Entry.membersOf] at he
    | cameras objects => simp [Entry.membersOf] at he
    | group name members =>
      obtain ⟨rfl, rfl⟩ : name = k ∧ members = ms := by simpa [Entry.membersOf] using he
      rfl
  have hpre : ∀ t ∈ Token.mark 123 :: (before.map Entry.tokens).flatMap (· ++ [comma]),
      t.Quiet k := by
    intro t ht
    obtain rfl | ⟨g, hg, ht | rfl⟩ : t = .mark 123 ∨ ∃ g ∈ before, t ∈ g.tokens ∨ t = comma := by
      simpa using ht
    · exact (by decide : (123 : UInt8) ∈ Token.marks)
    · refine hquiet g (List.mem_append_left _ hg) t ht ?_
      rintro rfl
      exact hnot g (List.mem_append_left _ hg) (hbefore g hg) ht
    · exact (by decide : (44 : UInt8) ∈ Token.marks)
  have htokens : Token.mark 123 ::
      (joined ((before ++ .group k ms :: behind).map Entry.tokens) ++ [.mark 125]) =
        (.mark 123 :: (before.map Entry.tokens).flatMap (· ++ [comma])) ++ .string k :: colon ::
          .mark 123 :: (bodyTokens ms ++ .mark 125 ::
            ((behind.map Entry.tokens).flatMap (comma :: ·) ++ [.mark 125])) := by
    simp only [List.map_append, List.map_cons, joined_append, Entry.tokens, objectTokens]
    simp
  rw [htokens] at h
  have hmark : (Token.mark 123).Marked := (by decide : (123 : UInt8) ∈ Token.marks)
  obtain ⟨b, hafter, hb⟩ := afterKey_tokens hk hpre hmark h
  exact extractObjectForKey_of_afterKey hlevel hb hafter

end Tokens

section Scan
variable {pre : List Token} {text pos ob a b r inner rest : Bytes} {ms : Members}

theorem scanCameras_found (hpos : find (ascii "\"camera\"") text = some pos)
    (hob : find (ascii "\x7b") pos = some ob) (hce : matchClosingBrace 0 ob = some (inner, rest)) :
    scanCameras text = if (cameraNode inner).serialNumber ≠ []
      then cameraNode inner :: scanCameras rest else scanCameras rest := by
  rw [scanCameras]
  split
  case h_1 h => cases hpos.symm.trans h
  case h_2 pos' h =>
    cases hpos.symm.trans h
    split
    case h_1 h => cases hob.symm.trans h
    case h_2 ob' h =>
      cases hob.symm.trans h
      split
      case h_1 h => cases hce.symm.trans h
      case h_2 h =>
        cases hce.symm.trans h
        rfl

theorem scanCameras_unnamed (h : find (ascii "\"camera\"") text = none) : scanCameras text = [] := by
  rw [scanCameras]
  split
  case h_1 => rfl
  case h_2 pos h' => cases h.symm.trans h'

theorem scanCameras_unopened (hpos : find (ascii "\"camera\"") text = some pos)
    (hob : find (ascii "\x7b") pos = none) : scanCameras text = [] := by
  rw [scanCameras]
  split
  case h_1 => rfl
  case h_2 pos' h =>
    cases hpos.symm.trans h
    split
    case h_1 => rfl
    case h_2 ob' h => cases hob.symm.trans h

theorem scanCameras_unclosed (hpos : find (ascii "\"camera\"") text = some pos)
    (hob : find (ascii "\x7b") pos = some ob) (hce : matchClosingBrace 0 ob = none) :
    scanCameras text = [] := by
  rw [scanCameras]
  split
  case h_1 => rfl
  case h_2 pos' h =>
    cases hpos.symm.trans h
    split
    case h_1 => rfl
    case h_2 ob' h =>
      cases hob.symm.trans h
      split
      case h_1 => rfl
      case h_2 h => cases hce.symm.trans h

/-- The scan goes by the brace that it finds behind the name of a camera. -/
theorem scanCameras_congr {text' : Bytes}
    (h : (find (ascii "\"camera\"") text).bind (find (ascii "\x7b")) =
      (find (ascii "\"camera\"") text').bind (find (ascii "\x7b"))) :
    scanCameras text = scanCameras text' := by
  have hnone : ∀ t, (find (ascii "\"camera\"") t).bind (find (ascii "\x7b")) = none →
      scanCameras t = [] := by
    intro t ht
    cases hpos : find (ascii "\"camera\"") t with
    | none => exact scanCameras_unnamed hpos
    | some pos =>
      rw [hpos] at ht
      exact scanCameras_unopened hpos ht
  cases hob : (find (ascii "\"camera\"") text).bind (find (ascii "\x7b")) with
  | none => rw [hnone text hob, hnone text' (h.symm.trans hob)]
  | some ob =>
    obtain ⟨pos, hpos, hbrace⟩ := Option.bind_eq_some_iff.mp hob
    obtain ⟨pos', hpos', hbrace'⟩ := Option.bind_eq_some_iff.mp (h.symm.trans hob)
    cases hce : matchClosingBrace 0 ob with
    | none => rw [scanCameras_unclosed hpos hbrace hce, scanCameras_unclosed hpos' hbrace' hce]
    | some r =>
      obtain ⟨inner, rest⟩ := r
      rw [scanCameras_found hpos hbrace hce, scanCameras_found hpos' hbrace' hce]

theorem isPlainName_camera : IsPlainName (ascii "camera") := by decide

/-- The scan goes to the next brace behind the name of a camera. -/
theorem find_camera_cut {pre x : List Token} (hpre : ∀ t ∈ pre, t.Quiet (ascii "camera"))
    (ha : Spells (pre ++ .string (ascii "camera") :: x) a) (r : Bytes) :
    ∃ pos b, find (ascii "\"camera\"") (a ++ r) = some pos ∧
      find (ascii "\x7b") pos = find [123] (b ++ r) ∧ Spells x b := by
  obtain ⟨b, hfind, hb⟩ := find_tokens isPlainName_camera hpre ha
  have hname : (123 : UInt8) ∉ quotedName (ascii "camera") := by decide
  refine ⟨quotedName (ascii "camera") ++ b ++ r, b, find_append hfind, ?_, hb⟩
  rw [List.append_assoc]
  exact find_append_of_not_mem hname

/-- The object that opens next is taken whole where its braces are matched. -/
theorem scanCameras_object {gap z : List Token} (hpos : find (ascii "\"camera\"") text = some pos)
    (hbrace : find (ascii "\x7b") pos = find [123] (b ++ r)) (hgap : ∀ t ∈ gap, 123 ∉ t.bytes)
    (hbody : nested 0 ((bodyTokens ms).flatMap Token.bytes) = some 0)
    (hb : Spells (gap ++ (objectTokens ms ++ z)) b) :
    ∃ inner c, Spells (objectTokens ms) inner ∧ Spells z c ∧
      scanCameras text = if (cameraNode inner).serialNumber ≠ []
        then cameraNode inner :: scanCameras (c ++ r) else scanCameras (c ++ r) := by
  have htokens : objectTokens ms ++ z = .mark 123 :: (bodyTokens ms ++ .mark 125 :: z) := by
    simp [objectTokens]
  rw [htokens] at hb
  obtain ⟨c, hopen, hc⟩ := find_mark (by decide) hgap hb
  obtain ⟨d, e, rfl, hd, he⟩ := hc.split
  cases he with
  | @cons w rest _ _ hblank hrest =>
    have hlevel : nested 0 (d ++ w) = some 0 := by
      rw [nested_append, hd.nested_bytes, hbody, Option.bind_some, nested_blank hblank]
    have htext : 123 :: (d ++ (w ++ ((Token.mark 125).bytes ++ rest))) ++ r =
        123 :: (d ++ w ++ 125 :: (rest ++ r)) := by
      simp [Token.bytes]
    have hfound : find [123] (b ++ r) = some (123 :: (d ++ w ++ 125 :: (rest ++ r))) :=
      (find_append hopen).trans (congrArg some htext)
    have hdw : Spells (bodyTokens ms) (d ++ w) := by simpa using hd.append (.nil hblank)
    have hinner : Spells (objectTokens ms) (123 :: (d ++ w ++ [125])) :=
      Spells.of_cons (.mark 123) (hdw.append (Spells.of_cons (.mark 125) .of_nil))
    exact ⟨_, rest, hinner, hrest,
      scanCameras_found hpos (hbrace.trans hfound) (matchClosingBrace_closed hlevel (rest ++ r))⟩

end Scan

end Camera3D.Config
