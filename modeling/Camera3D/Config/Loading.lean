import Camera3D.Config.Searches

/-! What the loader reads in the sections and objects of a document of the format. -/
namespace Camera3D.Config

open Camera3D.Text

variable {ms : Members} {e : Entry} {v k text obj : Bytes}

theorem plain_string (h : ∀ c ∈ special, c ∉ v) : (Token.string v).Plain :=
  ⟨h 34 (by decide), h 123 (by decide), h 125 (by decide)⟩

theorem plain_mark : ∀ c ∈ Token.marks, (Token.mark c).Plain := fun _ hc => hc

theorem plain_member (hms : ms.Shaped) :
    ∀ p ∈ ms, (Token.string p.1).Plain ∧ (Token.string p.2).Plain := fun p hp =>
  ⟨plain_string (hms p hp).1.1, plain_string (hms p hp).2.1⟩

/-- Tokens without braces. -/
def Flat (ts : List Token) : Prop := ∀ t ∈ ts, 123 ∉ t.bytes ∧ 125 ∉ t.bytes

theorem Flat.level (h : Flat ts) : ∀ t ∈ ts, t.Level := by
  intro t ht
  obtain ⟨hopen, hclose⟩ := h t ht
  refine nested_of_not_mem (fun c hc => ⟨?_, ?_⟩) 0
  · rintro rfl
    exact hopen hc
  · rintro rfl
    exact hclose hc

theorem flat_bodyTokens (hms : ms.Shaped) : Flat (bodyTokens ms) := by
  have hstring : ∀ s : Bytes, (Token.string s).Plain →
      123 ∉ (Token.string s).bytes ∧ 125 ∉ (Token.string s).bytes := by
    intro s hs
    simp [Token.bytes, hs.2.1, hs.2.2]
  intro t ht
  obtain rfl | rfl | ⟨p, hp, rfl | rfl⟩ := mem_bodyTokens ht
  · decide
  · decide
  · exact hstring p.1 (plain_member hms p hp).1
  · exact hstring p.2 (plain_member hms p hp).2

theorem mem_keyNames_of_section (h : k ∈ sectionNames) : k ∈ keyNames :=
  List.mem_append_left _ (List.mem_cons_of_mem _ h)

theorem isPlainName_of_mem_keyNames : ∀ k ∈ keyNames, IsPlainName k := by decide

theorem plain_of_mem_keyNames : ∀ k ∈ keyNames, (Token.string k).Plain := by decide

theorem shaped_members (he : e.Shaped) : ∀ ms ∈ e.members, ms.Shaped := by
  cases e with
  | note name value => exact List.forall_mem_singleton.mpr (List.forall_mem_singleton.mpr he)
  | group name members => exact List.forall_mem_singleton.mpr he.2
  | cameras objects => exact fun ms hms => (he ms hms).1

theorem plain_entryTokens (he : e.Shaped) : ∀ t ∈ e.tokens, t.Plain := by
  refine forall_entryTokens plain_mark (by decide) (by decide) ?_
    fun ms hms => plain_member (shaped_members he ms hms)
  rintro n ms rfl
  exact plain_of_mem_keyNames n (mem_keyNames_of_section he.1)

theorem plain_tokens (d : Document) : ∀ t ∈ d.tokens, t.Plain :=
  forall_tokens plain_mark fun e he => plain_entryTokens (d.shaped e he)

/-- Sections and cameras are not named inside of an object. -/
theorem member_ne_string (hms : ms.Shaped) (hk : k ∈ topNames) :
    ∀ p ∈ ms, Token.string p.1 ≠ .string k ∧ Token.string p.2 ≠ .string k := by
  intro p hp
  constructor
  · rintro ⟨⟩
    exact (hms p hp).1.2 hk
  · rintro ⟨⟩
    exact (hms p hp).2.2 (List.mem_append_left _ hk)

theorem not_mem_objectTokens (hms : ms.Shaped) (hk : k ∈ topNames) :
    Token.string k ∉ objectTokens ms := fun h =>
  forall_objectTokens (P := (· ≠ .string k)) (by simp) (member_ne_string hms hk) _ h rfl

theorem other_of_mem_sectionNames : ∀ k ∈ sectionNames,
    Token.string (ascii "cameras") ≠ .string k ∧ Token.string (ascii "camera") ≠ .string k := by
  decide

/-- A section's name stands nowhere but before that section. -/
theorem not_mem_entryTokens (he : e.Shaped) (hk : k ∈ sectionNames) (hnone : e.membersOf k = none) :
    Token.string k ∉ e.tokens := by
  have htop : k ∈ topNames := List.mem_cons_of_mem _ hk
  obtain ⟨hcameras, hcamera⟩ := other_of_mem_sectionNames k hk
  have hgroup : ∀ n ms, e = .group n ms → Token.string n ≠ .string k := by
    rintro n ms rfl ⟨⟩
    simp [Entry.membersOf] at hnone
  exact fun h => forall_entryTokens (P := (· ≠ .string k)) (by simp) hcameras hcamera hgroup
    (fun ms hms => member_ne_string (shaped_members he ms hms) htop) _ h rfl

theorem upToQuote_plain (h : 34 ∉ v) : upToQuote v = v := by
  refine List.takeWhile_eq_self_iff.mpr fun c hc => ?_
  simpa using fun heq : c = 34 => h (heq ▸ hc)

/-- A field of an object is what is written there, or nothing where it is missing. -/
theorem extractStringField_object (hms : ms.Shaped) (hk : k ∈ fieldNames)
    (h : Spells (objectTokens ms) obj) : extractStringField obj k = (ms.lookup k).getD [] := by
  have hkey : k ∈ keyNames := List.mem_append_right _ hk
  have hends : ∀ s : Bytes, (Token.string s).Plain → s ≠ k → ¬ EndsIn k s := fun s hs hne =>
    (hs.quiet fun heq => hne (Token.string.inj heq)).2
  have hfinds : ms.Finds k := Members.finds_of_forall fun p hp =>
    ⟨hends p.1 (plain_member hms p hp).1, hends p.2 (plain_member hms p hp).2 fun heq =>
      (hms p hp).2.2 (heq ▸ hkey)⟩
  have hescaped : ∀ p ∈ ms, QuotesEscaped p.1 ∧ QuotesEscaped p.2 := fun p hp =>
    ⟨quotesEscaped_of_not_mem (plain_member hms p hp).1.1,
      quotesEscaped_of_not_mem (plain_member hms p hp).2.1⟩
  rw [extractStringField_lookup (isPlainName_of_mem_keyNames k hkey) hfinds hescaped h]
  cases hlookup : ms.lookup k with
  | none => rfl
  | some v =>
    obtain ⟨ps, qs, rfl, -⟩ := List.lookup_eq_some_iff.mp hlookup
    have hv := (plain_member hms (k, v) (by simp)).2
    exact upToQuote_plain hv.1

/-- A section's field is read as it is written. -/
theorem extractStringField_section (d : Document) {sec name : String}
    (hsec : ascii sec ∈ sectionNames) (hname : ascii name ∈ fieldNames)
    (h : Spells d.tokens text) :
    extractStringField (extractObjectForKey text (ascii sec)) (ascii name) = d.field sec name := by
  have hkey := isPlainName_of_mem_keyNames _ (mem_keyNames_of_section hsec)
  have hquiet : ∀ e ∈ d.entries, ∀ t ∈ e.tokens, t ≠ .string (ascii sec) → t.Quiet (ascii sec) :=
    fun e he t ht => (plain_entryTokens (d.shaped e he) t ht).quiet
  have hnot : ∀ e ∈ d.entries, e.membersOf (ascii sec) = none → Token.string (ascii sec) ∉ e.tokens :=
    fun e he => not_mem_entryTokens (d.shaped e he) hsec
  unfold Document.field fieldOf
  cases hfind : d.entries.findSome? (Entry.membersOf (ascii sec)) with
  | none =>
    rw [extractObjectForKey_missing hkey hquiet hnot hfind h]
    rfl
  | some ms =>
    obtain ⟨e, he, hms⟩ := List.exists_of_findSome?_eq_some hfind
    have hshaped := shaped_members (d.shaped e he) ms (mem_members_of_membersOf hms)
    have hobj := extractObjectForKey_section hkey hquiet hnot hfind (flat_bodyTokens hshaped).level h
    exact extractStringField_object hshaped hname hobj

end Camera3D.Config
