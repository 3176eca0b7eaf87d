import Camera3D.Config.Inert

/-! What the loader reads in the sections and objects of a file whose strings are inert. -/
namespace Camera3D.Config

open Camera3D.Text

variable {text obj k : Bytes} {ms : Members} {e : Entry} {f : File}

theorem level_members (h : ∀ p ∈ ms, nested 0 p.1 = some 0 ∧ nested 0 p.2 = some 0) :
    ∀ t ∈ bodyTokens ms, t.Level := by
  intro t ht
  obtain rfl | rfl | ⟨p, hp, rfl | rfl⟩ := mem_bodyTokens ht
  · exact (rfl : nested 0 [44] = some 0)
  · exact (rfl : nested 0 [58] = some 0)
  · exact level_string (h p hp).1
  · exact level_string (h p hp).2

theorem level_bodyTokens (hw : ms.Written) (hi : ms.Inert) : ∀ t ∈ bodyTokens ms, t.Level := by
  apply level_members
  intro p hp
  exact ⟨(harmless_name (hw p hp).1 (hi p hp).1).2.1, (hi p hp).2.1⟩

/-- Sections and cameras are not named inside of an object. -/
theorem member_ne_top (hi : ms.Inert) (hk : k ∈ topNames) :
    ∀ p ∈ ms, Token.string p.1 ≠ .string k ∧ Token.string p.2 ≠ .string k := by
  have hother : ∀ k ∈ topNames, k ∉ usedFields := by decide +kernel
  have hused : k ∈ usedNames := List.mem_append_left _ hk
  intro p hp
  constructor
  · rintro ⟨⟩
    exact (hi p hp).1.elim (hother _ hk) fun hn => hn.ne hused rfl
  · rintro ⟨⟩
    exact (hi p hp).2.ne hused rfl

theorem string_not_mem_objectTokens (hi : ms.Inert) (hk : k ∈ topNames) :
    Token.string k ∉ objectTokens ms := fun h =>
  forall_objectTokens (P := (· ≠ .string k)) (by simp) (member_ne_top hi hk) _ h rfl

theorem string_not_mem_note {name value : Bytes} (hi : Entry.Inert (.note name value))
    (hk : k ∈ topNames) : Token.string k ∉ Entry.tokens (.note name value) := fun h =>
  forall_bodyTokens (P := (· ≠ .string k)) (by simp)
    (member_ne_top (inert_members hi _ List.mem_cons_self) hk) _ h rfl

/-- A section's name stands nowhere but before that section. -/
theorem string_not_mem_entryTokens (hi : e.Inert) (hk : k ∈ sectionNames)
    (hnone : e.membersOf k = none) : Token.string k ∉ e.tokens := by
  have htop : k ∈ topNames := List.mem_cons_of_mem _ hk
  obtain ⟨hcameras, hcamera⟩ := other_of_mem_sectionNames k hk
  have hgroup : ∀ n ms, e = .group n ms → Token.string n ≠ .string k := by
    rintro n ms rfl ⟨⟩
    simp [Entry.membersOf] at hnone
  exact fun h => forall_entryTokens (P := (· ≠ .string k)) (by simp) hcameras hcamera hgroup
    (fun ms hms => member_ne_top (inert_members hi ms hms) htop) _ h rfl

/-- No text in an object of inert strings stands for a field of it. -/
theorem finds_inert (hw : ms.Written) (hi : ms.Inert) (hk : k ∈ usedFields) : ms.Finds k := by
  have hused := mem_usedNames_of_field hk
  apply Members.finds_of_forall
  intro p hp
  have hname := harmless_name (hw p hp).1 (hi p hp).1
  exact ⟨fun hne hends => hne (hname.2.2 k hused hends), (hi p hp).2.2 k hused⟩

theorem escaped_members (hw : ms.Written) : ∀ p ∈ ms, QuotesEscaped p.1 ∧ QuotesEscaped p.2 :=
  fun p hp => ⟨quotesEscaped_of_isStringBody (hw p hp).1, quotesEscaped_of_isStringBody (hw p hp).2⟩

/-- A field of an object is read up to its first quote, and as nothing where it is missing. -/
theorem extractStringField_members (hw : ms.Written) (hi : ms.Inert) (hk : k ∈ usedFields)
    (h : Spells (objectTokens ms) obj) :
    extractStringField obj k = upToQuote ((ms.lookup k).getD []) :=
  extractStringField_lookup (isPlainName_used k (mem_usedNames_of_field hk)) (finds_inert hw hi hk)
    (escaped_members hw) h

/-- A section's field is read as it is written there, up to its first quote. -/
theorem extractStringField_file (hi : f.Inert) {sec name : String}
    (hsec : ascii sec ∈ sectionNames) (hname : ascii name ∈ usedFields)
    (h : Spells f.tokens text) :
    extractStringField (extractObjectForKey text (ascii sec)) (ascii name) =
      upToQuote (f.field sec name) := by
  have hused := mem_usedNames_of_section hsec
  have hplain := isPlainName_used _ hused
  have hquiet : ∀ e ∈ f.entries, ∀ t ∈ e.tokens, t ≠ .string (ascii sec) → t.Quiet (ascii sec) :=
    fun e he t ht => (harmless_entryTokens (f.written e he) (hi e he) t ht).quiet hused
  have hnot : ∀ e ∈ f.entries, e.membersOf (ascii sec) = none → Token.string (ascii sec) ∉ e.tokens :=
    fun e he => string_not_mem_entryTokens (hi e he) hsec
  unfold File.field fieldOf
  cases hfind : f.entries.findSome? (Entry.membersOf (ascii sec)) with
  | none =>
    rw [extractObjectForKey_missing hplain hquiet hnot hfind h]
    rfl
  | some ms =>
    obtain ⟨e, he, hms⟩ := List.exists_of_findSome?_eq_some hfind
    have hmem := mem_members_of_membersOf hms
    have hw := written_members (f.written e he) ms hmem
    have hms := inert_members (hi e he) ms hmem
    have hobj := extractObjectForKey_section hplain hquiet hnot hfind (level_bodyTokens hw hms) h
    exact extractStringField_members hw hms hname hobj

end Camera3D.Config
