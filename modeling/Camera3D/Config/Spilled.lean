import Camera3D.Config.Misread
import Camera3D.Config.Passing

/-! Note texts whose braces have no partners. Each of them moves the end of an object in some file, so
the inert texts are exactly those that every note may have. -/
namespace Camera3D.Config

open Camera3D.Text

section Spilled
variable {m : DataModel} {path v k sec text b : Bytes} {n : ℕ} {post : List Token}

/-- A section with a note before its field, and another section behind it. -/
def spilled (v : Bytes) : List Entry :=
  [oneCamera,
    .group (ascii "discovery") [(ascii "_comment", v), (ascii "device_serial", ascii "1000")],
    .group (ascii "hub") [(ascii "advertise_host", ascii "1000")]]

/-- What stands in the first section behind the note, and in the next one. -/
def spilledBehind : List Token :=
  [comma, .string (ascii "device_serial"), colon, .string (ascii "1000"), .mark 125, comma,
    .string (ascii "hub"), colon, .mark 123, .string (ascii "advertise_host"), colon,
    .string (ascii "1000"), .mark 125]

theorem spilled_shape :
    (upToQuote (fieldOf (spilled []) "discovery" "device_serial") = ascii "1000" ∧
      upToQuote (fieldOf (spilled []) "discovery" "advertise_host") = []) ∧
    nested 0 ([Token.string (ascii "_comment"), colon].flatMap Token.bytes) = some 0 ∧
    nested 1 (spilledBehind.flatMap Token.bytes) = some 0 := by decide +kernel

theorem written_spilled (hv : isStringBody v = true) : ∀ e ∈ spilled v, e.Written := by
  have hserial := (used_shape (ascii "device_serial") (by decide)).1
  have hhost := (used_shape (ascii "advertise_host") (by decide)).1
  exact List.forall_mem_cons.mpr ⟨written_oneCamera, List.forall_mem_cons.mpr
    ⟨⟨by decide, List.forall_mem_cons.mpr ⟨⟨comment_shape.1, hv⟩,
      List.forall_mem_singleton.mpr ⟨hserial, thousand_shape.1⟩⟩⟩, List.forall_mem_singleton.mpr
        ⟨by decide, List.forall_mem_singleton.mpr ⟨hhost, thousand_shape.1⟩⟩⟩⟩

theorem inert_spilled : ∀ e ∈ spilled [], e.Inert :=
  List.forall_mem_cons.mpr ⟨inert_oneCamera, List.forall_mem_cons.mpr
    ⟨List.forall_mem_cons.mpr ⟨⟨.inr comment_shape.2, inert_nil⟩, List.forall_mem_singleton.mpr
      ⟨.inl (by decide), thousand_shape.2⟩⟩, List.forall_mem_singleton.mpr
        (List.forall_mem_singleton.mpr ⟨.inl (by decide), thousand_shape.2⟩)⟩⟩

/-- The depth behind tokens with a string among them. -/
theorem nested_around (pre post : List Token) {r : Option ℕ}
    (hpre : nested 0 (pre.flatMap Token.bytes) = some 0) (hv : nested 0 v = some n)
    (hpost : nested n (post.flatMap Token.bytes) = r) :
    nested 0 ((pre ++ .string v :: post).flatMap Token.bytes) = r := by
  have hstring : nested 0 (Token.string v).bytes = some n := by
    show nested 0 (34 :: (v ++ [34])) = some n
    rw [nested, if_neg (by decide), if_neg (by decide), nested_append, hv]
    rfl
  rw [List.flatMap_append, List.flatMap_cons, nested_append, hpre, Option.bind_some, nested_append,
    hstring]
  exact hpost

/-- A closing brace in a note closes the object, and the fields behind it are lost. -/
theorem extractStringField_closed (hk : k ∈ usedNames) (hv : isStringBody v = true)
    (hnone : nested 0 v = none)
    (h : Spells ([.string (ascii "_comment"), colon] ++ .string v :: post) b)
    (hafter : afterKey text sec = some (123 :: b)) :
    extractStringField (extractObjectForKey text sec) k = [] := by
  obtain ⟨a, c, rfl, ha, hc⟩ := h.split
  cases hc with
  | @cons w rest _ _ hw hrest =>
    obtain ⟨x, y, rfl, hx⟩ := exists_of_nested_eq_none hnone
    have hopened : ∀ t ∈ [Token.string (ascii "_comment"), colon], t.Level :=
      List.forall_mem_cons.mpr ⟨level_string comment_shape.2.1, List.forall_mem_singleton.mpr rfl⟩
    have hlevel : nested 0 (a ++ (w ++ 34 :: x)) = some 0 := by
      rw [nested_append, ha.nested hopened, Option.bind_some, nested_append, nested_blank hw,
        Option.bind_some, nested, if_neg (by decide), if_neg (by decide)]
      exact hx
    have htext : 123 :: (a ++ (w ++ ((Token.string (x ++ 125 :: y)).bytes ++ rest))) =
        123 :: (a ++ (w ++ 34 :: x) ++ 125 :: (y ++ 34 :: rest)) := by
      simp [Token.bytes]
    have hobj : extractObjectForKey text sec = 123 :: a ++ (w ++ 34 :: (x ++ [125])) := by
      unfold extractObjectForKey
      simp only [hafter, htext, matchClosingBrace_closed hlevel]
      simp
    have hstart : QuotesEscaped x :=
      (quotesEscaped_of_isStringBody hv).start (List.prefix_append x (125 :: y))
    have hplain := isPlainName_used k hk
    have hblank : (34 : UInt8) ∉ w := fun hq => absurd (hw 34 hq) (by decide)
    have hleads : Leads (w ++ 34 :: (x ++ [125])) := by
      refine (leads_blank hw).append fun c hc => ?_
      cases hc
      simp [leads]
    have hfind : find (quotedName k) (123 :: a ++ (w ++ 34 :: (x ++ [125]))) = none := by
      have hspells : Spells [.mark 123, .string (ascii "_comment"), colon] (123 :: a) :=
        Spells.of_cons (.mark 123) ha
      rw [find_tokens_skip hplain hspells (quiet_opened hk) hleads]
      exact (find_append_of_not_mem hblank).trans (find_open_string hplain hstart (by decide))
    have hpat : ascii "\"" ++ k ++ ascii "\"" = quotedName k := rfl
    rw [hobj]
    apply extractStringField_of_none
    unfold afterKey
    simp only [hpat, hfind]

theorem tokens_spilled {f : File} (hf : f.entries = spilled v) :
    f.tokens = cameraTokensBefore ++ .string (ascii "discovery") :: colon :: .mark 123 ::
      ([.string (ascii "_comment"), colon] ++ .string v :: (spilledBehind ++ [.mark 125])) := by
  simp [File.tokens, hf, spilled, cameraTokensBefore, spilledBehind, joined, Entry.tokens,
    objectTokens, bodyTokens, memberTokens]

theorem spells_spilled {f : File} (hf : f.entries = spilled v) (h : Spells f.tokens text) :
    ∃ b, afterKey text (ascii "discovery") = some (123 :: b) ∧
      Spells ([.string (ascii "_comment"), colon] ++ .string v ::
        (spilledBehind ++ [.mark 125])) b := by
  have hsec : ascii "discovery" ∈ sectionNames := by decide
  rw [tokens_spilled hf] at h
  exact afterKey_tokens (t := .mark 123) (isPlainName_used _ (mem_usedNames_of_section hsec))
    (quiet_cameraTokensBefore hsec) (by decide : (123 : UInt8) ∈ Token.marks) h

theorem harmless_spilledBehind : ∀ t ∈ spilledBehind, Harmless t := by
  intro t ht
  have hinert : File.Inert ⟨spilled [], written_spilled rfl⟩ := inert_spilled
  have hmem : t ∈ File.tokens ⟨spilled [], written_spilled rfl⟩ := by
    rw [tokens_spilled rfl]
    simp [ht]
  exact harmless_tokens hinert t hmem

/-- A note with one brace too many takes in the next section. -/
theorem extractStringField_spilled (hv : isStringBody v = true) (hone : nested 0 v = some 1)
    (h : Spells ([.string (ascii "_comment"), colon] ++ .string v :: (spilledBehind ++ [.mark 125])) b)
    (hafter : afterKey text sec = some (123 :: b)) :
    extractStringField (extractObjectForKey text sec) (ascii "advertise_host") = ascii "1000" := by
  obtain ⟨-, hopen, hbehind⟩ := spilled_shape
  have hused : ascii "advertise_host" ∈ usedNames := by decide
  have hplain := isPlainName_used _ hused
  have hbody := nested_around _ spilledBehind hopen hone hbehind
  have hb : Spells (([.string (ascii "_comment"), colon] ++ .string v :: spilledBehind) ++
      .mark 125 :: []) b := by simpa using h
  have hobj := extractObjectForKey_of_nested hbody hb hafter
  have hescaped := quotesEscaped_of_isStringBody hv
  by_cases hends : 34 :: ascii "advertise_host" <:+ 34 :: v
  · have hobj : Spells ([.mark 123, .string (ascii "_comment"), colon] ++ .string v ::
        ([comma, .string (ascii "device_serial")] ++ colon :: .string (ascii "1000") ::
          (spilledBehind.drop 4 ++ [.mark 125]))) (extractObjectForKey text sec) := hobj
    obtain ⟨rest, hread, -⟩ := afterKey_ending (t := .string (ascii "1000")) hplain
      (quiet_opened hused) hescaped hends (by decide) trivial hobj
    exact extractStringField_of_afterKey hread
  · have hobj : Spells (([.mark 123, .string (ascii "_comment"), colon] ++ .string v ::
        spilledBehind.take 9) ++ .string (ascii "advertise_host") :: colon ::
          .string (ascii "1000") :: [.mark 125, .mark 125]) (extractObjectForKey text sec) := hobj
    have hbetween : ∀ t ∈ spilledBehind.take 9, t.Quiet (ascii "advertise_host") :=
      quiet_of_not_mem (fun t ht => harmless_spilledBehind t (List.mem_of_mem_take ht)) hused
        (by decide)
    have hnote : (Token.string v).Quiet (ascii "advertise_host") := ⟨hescaped, hends⟩
    have hpre := List.forall_mem_append.mpr
      ⟨quiet_opened hused, List.forall_mem_cons.mpr ⟨hnote, hbetween⟩⟩
    obtain ⟨rest, hread, -⟩ := afterKey_tokens (t := .string (ascii "1000")) hplain hpre trivial hobj
    exact extractStringField_of_afterKey hread

/-- With more braces too many the object never ends. -/
theorem extractObjectForKey_unclosed (hmore : nested 0 v = some (n + 2))
    (h : Spells ([.string (ascii "_comment"), colon] ++ .string v :: (spilledBehind ++ [.mark 125])) b)
    (hafter : afterKey text sec = some (123 :: b)) : extractObjectForKey text sec = [] := by
  obtain ⟨-, hopen, hbehind⟩ := spilled_shape
  have hshift : nested (n + 2) (spilledBehind.flatMap Token.bytes) = some (n + 1) := by
    have hdepth : 1 + (n + 1) = n + 2 := by omega
    have hshift := nested_shift hbehind (n + 1)
    rwa [Nat.zero_add, hdepth] at hshift
  have hclose : nested (n + 1) [125] = some n := rfl
  have hrest : nested (n + 2) ((spilledBehind ++ [Token.mark 125]).flatMap Token.bytes) = some n := by
    rw [List.flatMap_append, nested_append, hshift]
    exact hclose
  have hb : nested 0 b = some n := (h.nested_bytes 0).trans (nested_around _ _ hopen hmore hrest)
  unfold extractObjectForKey
  simp only [hafter, matchClosingBrace_open hb]

/-- A note whose braces have no partners in it. -/
theorem changes_of_level (hv : isStringBody v = true) (hlevel : nested 0 v ≠ some 0) :
    Changes m path v := by
  obtain ⟨⟨hserial, hhost⟩, -⟩ := spilled_shape
  have hused : ascii "device_serial" ∈ usedNames := by decide
  refine changes_of_config ⟨spilled [], written_spilled rfl⟩ ⟨spilled v, written_spilled hv⟩
    inert_spilled (.entry [oneCamera] _ rfl rfl (.group (.member [] _ comment_not_mem))) fun text htext => ?_
  obtain ⟨b, hafter, hb⟩ := spells_spilled rfl htext
  have hmem : ("discovery", "device_serial") ∈ sectionFields := by decide
  cases hnested : nested 0 v with
  | none =>
    have hlost := extractStringField_closed hused hv hnested hb hafter
    exact configOf_ne_of_field hmem hserial (.inr ⟨hlost, by decide⟩)
  | some n =>
    obtain _ | _ | n := n
    · exact absurd hnested hlevel
    · have hmem : ("discovery", "advertise_host") ∈ sectionFields := by decide
      have htaken := extractStringField_spilled hv hnested hb hafter
      exact (configOf_ne_of_field hmem htaken (.inr ⟨hhost, by decide⟩)).symm
    · have hlost : fieldIn text "discovery" "device_serial" = [] := by
        unfold fieldIn
        rw [extractObjectForKey_unclosed hnested hb hafter, extractStringField_nil]
      exact configOf_ne_of_field hmem hserial (.inr ⟨hlost, by decide⟩)

end Spilled

section FreeText
variable {k v : Bytes}

theorem usedNames_cases : ∀ k ∈ usedNames, k = ascii "camera" ∨
    (∃ c ∈ CameraField.all, k = c.name) ∨
    (∃ p ∈ sectionFields, k = ascii p.1 ∧ p.2 ≠ "enable") ∨ ∃ p ∈ sectionFields, k = ascii p.2 := by
  decide +kernel

theorem changes_of_not_inert (m : DataModel) (path : Bytes) (hv : isStringBody v = true)
    (h : ¬ Inert v) : Changes m path v := by
  by_cases hlevel : nested 0 v = some 0
  · obtain ⟨k, hk, hends⟩ : ∃ k ∈ usedNames, 34 :: k <:+ 34 :: v := by
      by_contra hnone
      exact h ⟨hlevel, fun k hk hends => hnone ⟨k, hk, hends⟩⟩
    obtain rfl | ⟨c, hc, rfl⟩ | ⟨p, hp, rfl, hne⟩ | ⟨p, hp, rfl⟩ := usedNames_cases k hk
    · exact changes_of_camera hv hends
    · exact changes_of_cameraField hc hv hlevel hends
    · exact changes_of_section hp hne hv hends
    · exact changes_of_field hp hv hlevel hends
  · exact changes_of_level hv hlevel

/-- A note may have any text that is passed over where the note stands; the texts that every note of
every file of inert strings may have are the inert ones. -/
theorem loadHubFileConfig_replaced_iff (m : DataModel) (path v : Bytes)
    (hv : isStringBody v = true) :
    (∀ f f' : File, f.Replaced v f' → ∀ ws, (∀ i, Blank (ws i)) → ∀ before old behind,
      f.tokens = before ++ .string old :: behind → f'.tokens = before ++ .string v :: behind →
      ∀ b, b = laid (fun i => ws (i + before.length + 1)) behind →
        Passes (laid ws before) old b → Passes (laid ws before) v b →
          loadHubFileConfig m path (some (laid ws f'.tokens)) =
            loadHubFileConfig m path (some (laid ws f.tokens))) ∧
    ((∀ f f' : File, f.Inert → f.Replaced v f' → ∀ ws, (∀ i, Blank (ws i)) →
      loadHubFileConfig m path (some (laid ws f'.tokens)) =
        loadHubFileConfig m path (some (laid ws f.tokens))) ↔ Inert v) := by
  constructor
  · intro f f' hr ws hws before old behind hf hf' b hb hold hnew
    exact loadHubFileConfig_rewritten hr hf hf' hws hb hold hnew
  · constructor
    · intro hfree
      by_contra hnot
      obtain ⟨f, f', hi, hr, ws, hws, hne⟩ := changes_of_not_inert m path hv hnot
      exact hne (hfree f f' hi hr ws hws)
    · intro hinert f f' hi hr ws hws
      exact loadHubFileConfig_replaced m path hi hinert hr hws

/-- A camera, and a note behind it. -/
def remarked (v : Bytes) (hv : isStringBody v = true) : File where
  entries := [oneCamera, .note (ascii "_comment") v]
  written := List.forall_mem_cons.mpr ⟨written_oneCamera, List.forall_mem_singleton.mpr <|
    List.forall_mem_singleton.mpr ⟨comment_shape.1, hv⟩⟩

/-- At the top of the file a stray brace does no harm. -/
theorem loadHubFileConfig_replaced_iff_top :
    loadHubFileConfig ⟨32, le_rfl⟩ []
        (some (laid (fun _ => []) (remarked (ascii "\x7d") (by decide +kernel)).tokens)) =
      loadHubFileConfig ⟨32, le_rfl⟩ []
        (some (laid (fun _ => []) (remarked (ascii "left") (by decide +kernel)).tokens)) := by
  have hother : ascii "_comment" ∉ usedNames := comment_not_mem
  have hr : (remarked (ascii "left") (by decide +kernel)).Replaced (ascii "\x7d")
      (remarked (ascii "\x7d") (by decide +kernel)) := .entry [oneCamera] [] rfl rfl (.note hother)
  have hws : ∀ i, Blank ((fun _ => [] : ℕ → Bytes) i) := fun _ => by simp [Blank]
  let before := cameraTokensBefore ++ [.string (ascii "_comment"), colon]
  have hscan : ∀ v : Bytes, ¬ EndsIn (ascii "camera") v →
      ScanPasses v [125] (laid (fun _ => []) before) := by
    intro v hv
    generalize htext : laid (fun _ => []) before = text
    have hpos : find (ascii "\"camera\"") text = some (text.drop 13) := by
      subst htext
      decide +kernel
    have hob : find (ascii "\x7b") (text.drop 13) = some (text.drop 22) := by
      subst htext
      decide +kernel
    have hce : matchClosingBrace 0 (text.drop 22) = some ((text.drop 22).take 24, text.drop 46) := by
      subst htext
      decide +kernel
    have hnone : find (ascii "\"camera\"") (text.drop 46) = none := by
      subst htext
      decide +kernel
    exact .behind hpos hob hce (.outside hnone hv)
  have hpasses : ∀ v ∈ [ascii "left", ascii "\x7d"], Passes (laid (fun _ => []) before) v [125] := by
    intro v hv
    refine ⟨fun p hp => ?_, hscan v ?_⟩
    · revert v p
      decide +kernel
    · revert v
      decide +kernel
  apply (loadHubFileConfig_replaced_iff ⟨32, le_rfl⟩ [] (ascii "\x7d") (by decide +kernel)).1 _ _ hr _
    hws before (ascii "left") [.mark 125] (by decide +kernel) (by decide +kernel) [125]
  · rfl
  · exact hpasses _ (by simp)
  · exact hpasses _ (by simp)

/-- A camera with a note. -/
def slotted (v : Bytes) (hv : isStringBody v = true) : File where
  entries := [.cameras [[(ascii "slot_note", v), (ascii "serial_number", ascii "LEFT")]]]
  written := by
    have hnumber := (used_shape (ascii "serial_number") (by decide)).1
    have hleft := (plain_shape (ascii "LEFT") (by decide)).1
    exact List.forall_mem_singleton.mpr <| List.forall_mem_singleton.mpr <|
      List.forall_mem_cons.mpr ⟨⟨note_shape.1, hv⟩, List.forall_mem_singleton.mpr ⟨hnumber, hleft⟩⟩

def leftSlot : File := slotted (ascii "left") (by decide +kernel)

def bracedSlot : File := slotted (ascii "\x7d") (by decide +kernel)

/-- The camera whose note is a closing brace is not found, and nothing is loaded. -/
theorem note_hides_camera :
    leftSlot.Replaced (ascii "\x7d") bracedSlot ∧
      (loadHubFileConfig ⟨32, le_rfl⟩ [] (some (laid (fun _ => []) leftSlot.tokens))).2 = none ∧
      (loadHubFileConfig ⟨32, le_rfl⟩ [] (some (laid (fun _ => []) bracedSlot.tokens))).2 ≠ none := by
  have hws : ∀ i, Blank ((fun _ => [] : ℕ → Bytes) i) := fun _ => by simp [Blank]
  have hother : ascii "slot_note" ∉ usedNames := fun h => note_shape.2.ne h rfl
  refine ⟨.entry [] [] rfl rfl (.cameras [] [] (.member [] _ hother)), ?_, ?_⟩
  · rw [(loadHubFileConfig_cameras _ _ _).1,
      scanCameras_inert (by decide +kernel) (spells_laid hws leftSlot.tokens)]
    decide +kernel
  · rw [ne_eq, (loadHubFileConfig_cameras _ _ _).1, not_not]
    generalize htext : laid (fun _ => []) bracedSlot.tokens = text
    have hpos : find (ascii "\"camera\"") text = some (text.drop 13) := by
      subst htext
      decide +kernel
    have hob : find (ascii "\x7b") (text.drop 13) = some (text.drop 22) := by
      subst htext
      decide +kernel
    have hce : matchClosingBrace 0 (text.drop 22) = some ((text.drop 22).take 15, text.drop 37) := by
      subst htext
      decide +kernel
    have hnode : ¬ (cameraNode ((text.drop 22).take 15)).serialNumber ≠ [] := by
      subst htext
      decide +kernel
    have hnone : find (ascii "\"camera\"") (text.drop 37) = none := by
      subst htext
      decide +kernel
    rw [scanCameras_found hpos hob hce, if_neg hnode, scanCameras_unnamed hnone]

end FreeText

end Camera3D.Config
