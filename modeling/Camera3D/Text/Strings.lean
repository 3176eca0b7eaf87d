import Camera3D.Text.Tokens

/-! JSON strings as they are written, with their escapes in place, and what a search that knows
nothing of strings finds in them and beyond them. -/
namespace Camera3D.Text

variable {ts : List Token} {t : Token} {name s a b rest tail text : Bytes} {c : UInt8} {m n k : ℕ}

def escapeLetters : Bytes := [34, 92, 47, 98, 102, 110, 114, 116]

def isHexDigit (c : UInt8) : Bool :=
  (48 ≤ c && c ≤ 57) || (65 ≤ c && c ≤ 70) || (97 ≤ c && c ≤ 102)

/-- What may stand between the quotes of a JSON string. -/
def isStringBody : Bytes → Bool
  | [] => true
  | c :: s =>
    if c = 92 then
      match s with
      | [] => false
      | d :: s =>
        if d = 117 then
          match s with
          | h :: i :: j :: k :: s =>
            isHexDigit h && isHexDigit i && isHexDigit j && isHexDigit k && isStringBody s
          | _ => false
        else escapeLetters.contains d && isStringBody s
    else c ≠ 34 && 32 ≤ c && isStringBody s

/-- Every quote stands behind a backslash. -/
def QuotesEscaped (s : Bytes) : Prop := ∀ a b, s = a ++ 34 :: b → a.getLast? = some 92

theorem QuotesEscaped.start (h : QuotesEscaped s) (ha : a <+: s) : QuotesEscaped a := by
  obtain ⟨b, rfl⟩ := ha
  intro x y hxy
  exact h x (y ++ b) (by rw [hxy, List.append_assoc, List.cons_append])

/-- A symbol that is no quote may stand before. -/
theorem QuotesEscaped.cons (h : QuotesEscaped s) (hc : c ≠ 34) : QuotesEscaped (c :: s) := by
  rintro (_ | ⟨d, x⟩) y hxy
  · exact absurd (List.cons.inj hxy).1 hc
  · obtain ⟨rfl, hs⟩ := List.cons.inj hxy
    have hx := h x y hs
    rw [List.getLast?_cons, hx]
    rfl

/-- A backslash and the quote behind it may stand before. -/
theorem QuotesEscaped.escaped (h : QuotesEscaped s) : QuotesEscaped (92 :: 34 :: s) := by
  rintro (_ | ⟨d, _ | ⟨e, x⟩⟩) y hxy
  · exact absurd (List.cons.inj hxy).1 (by decide)
  · obtain ⟨rfl, -⟩ := List.cons.inj hxy
    rfl
  · obtain ⟨-, hxy⟩ := List.cons.inj hxy
    obtain ⟨-, hs⟩ := List.cons.inj hxy
    have hx := h x y hs
    rw [List.getLast?_cons, List.getLast?_cons, hx]
    rfl

theorem isHexDigit_ne (h : isHexDigit c = true) : c ≠ 34 := by
  rintro rfl
  exact absurd h (by decide)

theorem quotesEscaped_nil : QuotesEscaped [] := by
  intro a b h
  simp at h

theorem quotesEscaped_of_not_mem (h : 34 ∉ s) : QuotesEscaped s := by
  rintro a b rfl
  exact absurd (by simp) h

theorem quotesEscaped_of_isStringBody (h : isStringBody s = true) : QuotesEscaped s := by
  fun_induction isStringBody s with
  | case1 => exact quotesEscaped_nil
  | case2 => cases h
  | case3 i j k l rest ih =>
    simp only [Bool.and_eq_true] at h
    obtain ⟨⟨⟨⟨hi, hj⟩, hk⟩, hl⟩, hrest⟩ := h
    have hdigits := ((((ih hrest).cons (isHexDigit_ne hl)).cons (isHexDigit_ne hk)).cons
      (isHexDigit_ne hj)).cons (isHexDigit_ne hi)
    exact (hdigits.cons (by decide)).cons (by decide)
  | case4 => cases h
  | case5 d rest hd ih =>
    have hrest := ih (Bool.and_eq_true_iff.mp h).2
    by_cases hquote : d = 34
    · rw [hquote]
      exact hrest.escaped
    · exact (hrest.cons hquote).cons (by decide)
  | case6 d rest hd ih =>
    simp only [Bool.and_eq_true, decide_eq_true_eq] at h
    exact (ih h.2).cons h.1.1

/-- A name that is searched for between quotes: nothing that can follow a string starts like it, and
it has no escapes. -/
structure IsPlainName (name : Bytes) : Prop extends IsName name where
  esc : 92 ∉ name

instance (name : Bytes) : Decidable (IsPlainName name) :=
  decidable_of_iff (IsName name ∧ 92 ∉ name) ⟨fun ⟨h, he⟩ => ⟨h, he⟩, fun h => ⟨h.toIsName, h.esc⟩⟩

/-- A text is passed over where the pattern starts nowhere in it. -/
theorem find_append_of_no_start {pat : Bytes}
    (h : ∀ x y, a = x ++ y → y ≠ [] → ¬ pat <+: y ++ rest) : find pat (a ++ rest) = find pat rest := by
  induction a with
  | nil => rfl
  | cons c a ih =>
    have hc : ¬ pat <+: c :: (a ++ rest) := h [] (c :: a) rfl (List.cons_ne_nil c a)
    rw [List.cons_append, find_cons_of_not_starts hc]
    exact ih fun x y hxy hy => h (c :: x) y (by rw [hxy]; rfl) hy

/-- No name ends at a quote inside a string: a backslash stands before it. -/
theorem not_name_starts_inside (hn : IsPlainName name) (hs : QuotesEscaped s)
    (hsuffix : a ++ 34 :: b <:+ s) (ha : 34 ∉ a) : ¬ name ++ [34] <+: a ++ 34 :: tail := by
  intro h
  obtain ⟨x, rfl⟩ := hsuffix
  obtain rfl := Punctuation.key_eq_of_starts hn.quote ha h
  have hlast := hs (x ++ name) b (by rw [List.append_assoc])
  rw [List.getLast?_append_of_ne_nil _ hn.ne_nil] at hlast
  exact hn.esc (List.mem_of_getLast? hlast)

/-- A name in a string ends at its closing quote. -/
theorem eq_of_name_starts (hn : IsPlainName name) (hs : QuotesEscaped s) (hsuffix : b <:+ s)
    (h : name ++ [34] <+: b ++ 34 :: tail) : b = name := by
  by_cases hquote : (34 : UInt8) ∈ b
  · obtain ⟨u, v, rfl, hu⟩ := List.eq_append_cons_of_mem hquote
    rw [List.append_assoc, List.cons_append] at h
    exact absurd h (not_name_starts_inside hn hs hsuffix hu)
  · exact (Punctuation.key_eq_of_starts hn.quote hquote h).symm

theorem suffix_of_cons_suffix (h : c :: b <:+ 34 :: s) : b <:+ s := by
  obtain ⟨x, hx⟩ := h
  cases x with
  | nil => exact ⟨[], (List.cons.inj hx).2⟩
  | cons d x => exact ⟨x ++ [c], by simpa using (List.cons.inj hx).2⟩

theorem string_of_starts (hn : IsPlainName name) (hs : QuotesEscaped s) (hb : b ≠ [])
    (hsuffix : b <:+ 34 :: s) (h : quotedName name <+: b ++ 34 :: tail) : b = 34 :: name := by
  obtain ⟨c, b, rfl⟩ := List.exists_cons_of_ne_nil hb
  obtain ⟨rfl, hname⟩ := List.cons_prefix_cons.mp h
  rw [eq_of_name_starts hn hs (suffix_of_cons_suffix hsuffix) hname]

/-- The search passes over a string unless the quoted name ends it. -/
theorem find_string_skip (hn : IsPlainName name) (hs : QuotesEscaped s)
    (hnot : ¬ 34 :: name <:+ 34 :: s) (htail : ∀ c, tail.head? = some c → c ∈ leads) :
    find (quotedName name) (34 :: (s ++ 34 :: tail)) = find (quotedName name) tail := by
  have hclose : ¬ quotedName name <+: 34 :: tail := fun hp =>
    hn.not_starts htail (List.cons_prefix_cons.mp hp).2
  rw [← find_cons_of_not_starts hclose]
  refine find_append_of_no_start (a := 34 :: s) fun x y hxy hy hp => hnot ?_
  have hsuffix : y <:+ 34 :: s := ⟨x, hxy.symm⟩
  rwa [← string_of_starts hn hs hy hsuffix hp]

/-- It stops at the quoted name that ends a string. -/
theorem find_string_hit (hn : IsPlainName name) (hs : QuotesEscaped s)
    (hends : 34 :: name <:+ 34 :: s) :
    find (quotedName name) (34 :: (s ++ 34 :: tail)) = some (quotedName name ++ tail) := by
  obtain ⟨x, hx⟩ := hends
  have htext : 34 :: (s ++ 34 :: tail) = x ++ (quotedName name ++ tail) := by
    rw [← List.cons_append, ← hx]
    simp [quotedName]
  rw [htext, find_append_of_no_start, find_of_starts (List.prefix_append _ _)]
  intro y z hyz hz hp
  have hsuffix : z ++ 34 :: name <:+ 34 :: s := ⟨y, by rw [← hx, hyz, List.append_assoc]⟩
  have hstarts : quotedName name <+: (z ++ 34 :: name) ++ 34 :: tail := by
    simpa [quotedName] using hp
  have hwhole := string_of_starts hn hs (by simp) hsuffix hstarts
  exact hz (List.append_left_eq_self.mp hwhole)

/-- Nothing is found in a string that does not end. -/
theorem find_open_string (hn : IsPlainName name) (hs : QuotesEscaped s) (hrest : 34 ∉ rest) :
    find (quotedName name) (34 :: (s ++ rest)) = none := by
  have hnone : find (quotedName name) rest = none := by
    rw [← List.append_nil rest, quotedName, find_append_of_not_mem hrest]
    simp [find]
  rw [← hnone]
  refine find_append_of_no_start (a := 34 :: s) fun x y hxy hy hp => ?_
  have hsuffix : y <:+ 34 :: s := ⟨x, hxy.symm⟩
  obtain ⟨c, y, rfl⟩ := List.exists_cons_of_ne_nil hy
  obtain ⟨rfl, hname⟩ := List.cons_prefix_cons.mp hp
  by_cases hquote : (34 : UInt8) ∈ y
  · obtain ⟨u, v, rfl, hu⟩ := List.eq_append_cons_of_mem hquote
    have hname : name ++ [34] <+: u ++ 34 :: (v ++ rest) := by simpa using hname
    exact not_name_starts_inside hn hs (suffix_of_cons_suffix hsuffix) hu hname
  · have hmem := hname.subset (List.mem_append_right name (List.mem_singleton.mpr rfl))
    exact (List.mem_append.mp hmem).elim hquote hrest

/-- The string ends in the quoted name, with its own quotes about it. -/
abbrev EndsIn (name s : Bytes) : Prop := 34 :: name <:+ 34 :: s

/-- A token that the search for a name passes over. -/
def Token.Quiet (name : Bytes) : Token → Prop
  | .string s => QuotesEscaped s ∧ ¬ 34 :: name <:+ 34 :: s
  | .mark c => c ∈ marks

/-- A token of JSON. -/
def Token.Marked : Token → Prop
  | .string _ => True
  | .mark c => c ∈ marks

/-- A token of JSON as it is written, with its escapes in place. -/
def Token.Written : Token → Prop
  | .string s => QuotesEscaped s
  | .mark c => c ∈ marks

def Token.Ends (name : Bytes) : Token → Prop
  | .string s => EndsIn name s
  | .mark _ => False

instance (name : Bytes) : DecidablePred (Token.Ends name)
  | .string s => inferInstanceAs (Decidable (EndsIn name s))
  | .mark _ => inferInstanceAs (Decidable False)

theorem Token.Written.marked (h : t.Written) : t.Marked := by
  cases t with
  | string s => trivial
  | mark c => exact h

theorem Token.Written.quiet (h : t.Written) (hends : ¬ t.Ends name) : t.Quiet name := by
  cases t with
  | string s => exact ⟨h, hends⟩
  | mark c => exact h

theorem Token.Quiet.marked (h : t.Quiet name) : t.Marked := by
  cases t with
  | string s => trivial
  | mark c => exact h

theorem Token.Plain.quiet (h : t.Plain) (hne : t ≠ .string name) : t.Quiet name := by
  cases t with
  | mark c => exact h
  | string s =>
    refine ⟨quotesEscaped_of_not_mem h.1, fun ⟨x, hx⟩ => ?_⟩
    cases x with
    | nil => exact hne (congrArg Token.string (List.cons.inj hx).2.symm)
    | cons d x =>
      have hs := (List.cons.inj hx).2
      exact h.1 (by simp [← hs])

theorem quiet_of_plain (hts : ∀ t ∈ ts, t.Plain) (hnot : Token.string name ∉ ts) :
    ∀ t ∈ ts, t.Quiet name := by
  intro t ht
  exact (hts t ht).quiet fun heq => hnot (heq ▸ ht)

/-- A text starts like a token, if it is not empty. -/
def Leads (text : Bytes) : Prop := ∀ c, text.head? = some c → c ∈ leads

theorem leads_blank {w : Bytes} (hw : Blank w) : Leads w := by
  intro c hc
  have hmem := hw c (List.mem_of_mem_head? hc)
  simp [leads, hmem]

theorem Leads.append (ha : Leads a) (hb : Leads b) : Leads (a ++ b) := by
  cases a with
  | nil => exact hb
  | cons c a => exact ha

theorem leads_token (ht : t.Marked) (rest : Bytes) : Leads (t.bytes ++ rest) := by
  intro c hc
  cases t with
  | string s =>
    cases hc
    simp [leads]
  | mark d =>
    cases hc
    have hmark : c ∈ Token.marks := ht
    simp [leads, hmark]

theorem Spells.leads_append (h : Spells ts a) (hts : ∀ t ∈ ts, t.Marked) (hrest : Leads rest) :
    Leads (a ++ rest) := by
  cases h with
  | nil hw => exact (leads_blank hw).append hrest
  | cons hw h =>
    rw [List.append_assoc, List.append_assoc]
    exact (leads_blank hw).append (leads_token (hts _ List.mem_cons_self) _)

/-- The search for a name passes over tokens that do not end in it. -/
theorem find_tokens_skip (hn : IsPlainName name) (h : Spells ts a) (hts : ∀ t ∈ ts, t.Quiet name)
    (hrest : Leads rest) : find (quotedName name) (a ++ rest) = find (quotedName name) rest := by
  induction h with
  | @nil w hw =>
    have hblank : (34 : UInt8) ∉ w := fun hq => absurd (hw 34 hq) (by decide)
    exact find_append_of_not_mem hblank
  | @cons w text t ts hw h ih =>
    have hblank : (34 : UInt8) ∉ w := fun hq => absurd (hw 34 hq) (by decide)
    have hrests := fun u hu => hts u (List.mem_cons_of_mem t hu)
    rw [← ih hrests, List.append_assoc, List.append_assoc]
    refine (find_append_of_not_mem hblank).trans ?_
    have ht := hts t List.mem_cons_self
    cases t with
    | mark c =>
      have hc : (34 : UInt8) ∉ [c] := by
        intro hq
        obtain rfl := List.mem_singleton.mp hq
        exact absurd (show (34 : UInt8) ∈ Token.marks from ht) (by decide)
      exact find_append_of_not_mem hc
    | string s =>
      simp only [Token.bytes, List.cons_append, List.append_assoc, List.nil_append]
      exact find_string_skip hn ht.1 ht.2 (h.leads_append (fun u hu => (hrests u hu).marked) hrest)

/-- The depth of braces behind a text, from a depth before it; none where it goes below zero. -/
def nested : ℕ → Bytes → Option ℕ
  | n, [] => some n
  | n, c :: s =>
    if c = 123 then nested (n + 1) s
    else if c = 125 then if n = 0 then none else nested (n - 1) s
    else nested n s

theorem nested_append (n : ℕ) (a b : Bytes) :
    nested n (a ++ b) = (nested n a).bind fun m => nested m b := by
  induction a generalizing n with
  | nil => rfl
  | cons c a ih =>
    rw [List.cons_append, nested, nested]
    split_ifs
    · exact ih (n + 1)
    · rfl
    · exact ih (n - 1)
    · exact ih n

/-- A greater depth stays greater. -/
theorem nested_shift (h : nested n s = some m) (k : ℕ) : nested (n + k) s = some (m + k) := by
  induction s generalizing n with
  | nil =>
    cases h
    rfl
  | cons c s ih =>
    rw [nested] at h ⊢
    split_ifs at h ⊢
    · rw [Nat.add_right_comm]
      exact ih h
    · omega
    · have hdepth : n + k - 1 = n - 1 + k := by omega
      rw [hdepth]
      exact ih h
    · exact ih h

/-- Where the depth goes below zero, a closing brace stands behind a text that keeps it. -/
theorem exists_of_nested_eq_none (h : nested n s = none) :
    ∃ a b, s = a ++ 125 :: b ∧ nested n a = some 0 := by
  induction s generalizing n with
  | nil => cases h
  | cons c s ih =>
    rw [nested] at h
    have hcons : ∀ m, nested m s = none → (∀ a, nested n (c :: a) = nested m a) →
        ∃ a b, c :: s = a ++ 125 :: b ∧ nested n a = some 0 := by
      intro m hm hstep
      obtain ⟨a, b, rfl, ha⟩ := ih hm
      exact ⟨c :: a, b, rfl, (hstep a).trans ha⟩
    split_ifs at h with hopen hclose hzero
    · exact hcons (n + 1) h fun a => by rw [nested, if_pos hopen]
    · exact ⟨[], s, by rw [hclose]; rfl, by rw [hzero]; rfl⟩
    · exact hcons (n - 1) h fun a => by rw [nested, if_neg hopen, if_pos hclose, if_neg hzero]
    · exact hcons n h fun a => by rw [nested, if_neg hopen, if_neg hclose]

theorem nested_of_not_mem (h : ∀ c ∈ s, c ≠ 123 ∧ c ≠ 125) (n : ℕ) : nested n s = some n := by
  induction s with
  | nil => rfl
  | cons c s ih =>
    obtain ⟨hopen, hclose⟩ := h c List.mem_cons_self
    rw [nested, if_neg hopen, if_neg hclose]
    exact ih fun d hd => h d (List.mem_cons_of_mem c hd)

theorem nested_blank {w : Bytes} (hw : Blank w) (n : ℕ) : nested n w = some n := by
  have hbrace : ∀ c ∈ blanks, c ≠ 123 ∧ c ≠ 125 := by decide
  exact nested_of_not_mem (fun c hc => hbrace c (hw c hc)) n

/-- A token in which every brace has its partner. -/
def Token.Level (t : Token) : Prop := nested 0 t.bytes = some 0

theorem level_string (h : nested 0 s = some 0) : (Token.string s).Level := by
  show nested 0 (34 :: (s ++ [34])) = some 0
  rw [nested, if_neg (by decide), if_neg (by decide), nested_append, h]
  rfl

theorem Spells.nested (h : Spells ts text) (hts : ∀ t ∈ ts, t.Level) (n : ℕ) :
    nested n text = some n := by
  induction h with
  | nil hw => exact nested_blank hw n
  | @cons w text t ts hw _ ih =>
    have ht := nested_shift (hts t List.mem_cons_self) n
    rw [Nat.zero_add] at ht
    rw [nested_append, nested_blank hw, Option.bind_some, nested_append, ht]
    exact ih fun u hu => hts u (List.mem_cons_of_mem t hu)

theorem spells_bytes : ∀ ts : List Token, Spells ts (ts.flatMap Token.bytes)
  | [] => .of_nil
  | t :: ts => by
    rw [List.flatMap_cons]
    exact Spells.of_cons t (spells_bytes ts)

/-- White space does not change the depth. -/
theorem Spells.nested_bytes (h : Spells ts text) (n : ℕ) :
    Text.nested n text = Text.nested n (ts.flatMap Token.bytes) := by
  induction h generalizing n with
  | nil hw => exact nested_blank hw n
  | cons hw _ ih =>
    rw [nested_append, nested_blank hw, Option.bind_some, List.flatMap_cons, nested_append,
      nested_append]
    exact congrArg _ (funext ih)

end Camera3D.Text
