import Camera3D.Config.FreeText

/-! What the loader makes of a note is decided by where the note stands: by the searches that come as far
as the note, and the objects that are open there. -/
namespace Camera3D.Config

open Camera3D.Text

/-- The search for a field in an object, of which this stands before the note, goes past the note or
has its value before. -/
def FieldPasses (obj k v : Bytes) : Prop :=
  match afterKey obj k with
  | none => ¬ EndsIn k v
  | some value => value ≠ []

instance (obj k v : Bytes) : Decidable (FieldPasses obj k v) := by
  unfold FieldPasses
  split <;> infer_instance

/-- The note is not taken for the name of a section, and where it stands in that section it leaves the
depth of braces and the field what they are. -/
def SectionPasses (a sec k v : Bytes) : Prop :=
  match afterKey a sec with
  | none => ¬ EndsIn sec v
  | some (123 :: obj) =>
    match nested 0 obj with
    | none => True
    | some d => nested d v = some d ∧ FieldPasses (123 :: obj) k v
  | some _ => True

instance (a sec k v : Bytes) : Decidable (SectionPasses a sec k v) := by
  unfold SectionPasses
  split
  · infer_instance
  · split <;> infer_instance
  · infer_instance

/-- The camera scan comes to the note in a camera object that is open there, behind the name of a camera
that has no object yet, or outside of all of them. It looks for `serial` in an object without a serial
number only, and that may stand in the text `b` behind the note. -/
inductive ScanPasses (v b : Bytes) : Bytes → Prop
  | outside {a : Bytes} : find (ascii "\"camera\"") a = none → ¬ EndsIn (ascii "camera") v →
      ScanPasses v b a
  | unopened {a pos : Bytes} : find (ascii "\"camera\"") a = some pos →
      find (ascii "\x7b") pos = none → 123 ∉ v → ScanPasses v b a
  | inside {a pos obj : Bytes} {d : ℕ} : find (ascii "\"camera\"") a = some pos →
      find (ascii "\x7b") pos = some (123 :: obj) → nested 0 obj = some d → nested d v = some d →
      (∀ k ∈ cameraFields, FieldPasses (123 :: obj) k v) →
      (∀ inner rest, matchClosingBrace (d + 1) b = some (inner, rest) →
        extractStringField (123 :: obj ++ ((Token.string v).bytes ++ inner)) (ascii "serial_number") = [] →
          FieldPasses (123 :: obj) (ascii "serial") v) →
      ScanPasses v b a
  | behind {a pos ob inner rest : Bytes} : find (ascii "\"camera\"") a = some pos →
      find (ascii "\x7b") pos = some ob → matchClosingBrace 0 ob = some (inner, rest) →
      ScanPasses v b rest → ScanPasses v b a

/-- A note between these two texts that the loader passes over. -/
structure Passes (a v b : Bytes) : Prop where
  sections : ∀ p ∈ sectionFields, SectionPasses a (ascii p.1) (ascii p.2) v
  cameras : ScanPasses v b a

/-- The text before the value of a member. -/
def Seam (a : Bytes) : Prop := ∃ b w, a = b ++ 58 :: w ∧ Blank w

section Searches
variable {a b v k s obj value rest text text' : Bytes} {d : ℕ}

theorem used_unseamed : ∀ k ∈ usedNames, ∀ c ∈ 58 :: blanks, c ∉ quotedName k := by decide +kernel

theorem not_endsIn_nil (hk : k ∈ usedNames) : ¬ EndsIn k [] := by
  intro h
  have hlength := h.length_le
  have hne := List.length_pos_iff.mpr (isPlainName_used k hk).ne_nil
  simp only [List.length_cons, List.length_nil] at hlength
  omega

/-- What ends with the text before a value ends with its colon or with white space. -/
theorem Seam.getLast (ha : Seam a) (hs : s <:+ a) (hne : s ≠ []) : ∃ c ∈ s, c ∈ 58 :: blanks := by
  obtain ⟨b, w, rfl, hw⟩ := ha
  refine ⟨s.getLast hne, List.getLast_mem hne, ?_⟩
  have hlast : s.getLast hne = (58 :: w).getLast (List.cons_ne_nil 58 w) := by
    rw [hs.getLast hne, List.getLast_append_of_ne_nil _ (List.cons_ne_nil 58 w)]
  rw [hlast]
  have hmem := List.getLast_mem (List.cons_ne_nil 58 w)
  rcases List.mem_cons.mp hmem with heq | hmem
  · rw [heq]
    exact List.mem_cons_self
  · exact List.mem_cons_of_mem 58 (hw _ hmem)

theorem Seam.suffix (ha : Seam a) (hs : s <:+ a) {c : UInt8} (hc : c ∈ s) (hother : c ∉ 58 :: blanks) :
    Seam s := by
  obtain ⟨b, w, rfl, hw⟩ := ha
  obtain ⟨x, hx⟩ := hs
  obtain ⟨u, rfl, hu⟩ | ⟨u, rfl, hu⟩ := List.append_eq_append_iff.mp hx
  · exact ⟨u, w, hu, hw⟩
  · have hmem : c ∈ 58 :: w := hu ▸ List.mem_append_right u hc
    rcases List.mem_cons.mp hmem with rfl | hmem
    · exact absurd List.mem_cons_self hother
    · exact absurd (List.mem_cons_of_mem 58 (hw c hmem)) hother

/-- A name that is not found before the note, and that the note does not end in, is searched for behind
it. -/
theorem find_past (hk : k ∈ usedNames) (ha : Seam a) (hv : QuotesEscaped v) (hb : Leads b)
    (hnone : find (quotedName k) a = none) (hends : ¬ EndsIn k v) :
    find (quotedName k) (a ++ ((Token.string v).bytes ++ b)) = find (quotedName k) b := by
  have hstring : find (quotedName k) ((Token.string v).bytes ++ b) = find (quotedName k) b := by
    simp only [Token.bytes, List.cons_append, List.append_assoc, List.nil_append]
    exact find_string_skip (isPlainName_used k hk) hv hends hb
  rw [← hstring]
  refine find_append_of_no_start fun x y hxy hne hp => ?_
  have hsuffix : y <:+ a := ⟨x, hxy.symm⟩
  rcases Nat.le_total (quotedName k).length y.length with hle | hle
  · have hstarts := List.prefix_of_prefix_length_le hp (List.prefix_append y _) hle
    have hsome := find_isSome_of_infix (hstarts.isInfix.trans hsuffix.isInfix)
    rw [hnone] at hsome
    cases hsome
  · -- the name would go on over the colon
    have hstarts := List.prefix_of_prefix_length_le (List.prefix_append y _) hp hle
    obtain ⟨c, hc, hmark⟩ := ha.getLast hsuffix hne
    exact used_unseamed k hk c hmark (hstarts.subset hc)

/-- Behind a name that is found before the note there is a colon before the note. -/
theorem afterKey_isSome (ha : Seam a) {p : Bytes}
    (hfind : find (quotedName k) a = some p) : (afterKey a k).isSome := by
  obtain ⟨q, rfl⟩ := find_starts hfind
  obtain ⟨x, hx⟩ := find_suffix hfind
  obtain ⟨b, w, rfl, hw⟩ := ha
  have hcolon : (58 : UInt8) ∈ q := by
    rw [← List.append_assoc] at hx
    obtain ⟨u, hu, hq⟩ | ⟨u, hu, hq⟩ := List.append_eq_append_iff.mp hx
    · rw [hq]
      simp
    · rcases u with _ | ⟨c, u⟩
      · rw [← List.nil_append q, ← hq]
        exact List.mem_cons_self
      · -- the name ends in a quote, which is not in the white space
        have hlast : (x ++ quotedName k).getLast? = some 34 := by
          unfold quotedName
          rw [← List.cons_append, ← List.append_assoc, List.getLast?_concat]
        rw [hu, List.getLast?_append_of_ne_nil _ (List.cons_ne_nil c u)] at hlast
        have hquote : (34 : UInt8) ∈ 58 :: w := hq ▸ List.mem_append_left q (List.mem_of_getLast? hlast)
        rcases List.mem_cons.mp hquote with heq | hmem
        · cases heq
        · exact absurd (hw 34 hmem) (by decide)
  obtain ⟨y, z, rfl⟩ := List.append_of_mem hcolon
  have hsome : (find [58] (y ++ 58 :: z)).isSome := find_isSome_of_infix ⟨y, z, by simp⟩
  have hpat : ascii "\"" ++ k ++ ascii "\"" = quotedName k := rfl
  have hmark : ascii ":" = [58] := rfl
  obtain ⟨c, hc⟩ := Option.isSome_iff_exists.mp hsome
  unfold afterKey
  simp only [hpat, hmark, hfind, List.drop_left, hc]
  rfl

/-- What is behind a name depends on where the name is found. -/
theorem afterKey_congr (h : find (quotedName k) text = find (quotedName k) text') :
    afterKey text k = afterKey text' k := by
  have hpat : ascii "\"" ++ k ++ ascii "\"" = quotedName k := rfl
  unfold afterKey
  simp only [hpat, h]

theorem afterKey_past (hk : k ∈ usedNames) (ha : Seam a) (hv : QuotesEscaped v) (hb : Leads b)
    (hnone : afterKey a k = none) (hends : ¬ EndsIn k v) :
    afterKey (a ++ ((Token.string v).bytes ++ b)) k = afterKey b k := by
  cases hfind : find (quotedName k) a with
  | none => exact afterKey_congr (find_past hk ha hv hb hfind hends)
  | some p =>
    have hsome := afterKey_isSome ha hfind
    rw [hnone] at hsome
    cases hsome

/-- A value that is found before the note, or at it, goes on with the note. -/
theorem afterKey_before (h : afterKey a k = some value) (v b : Bytes) :
    afterKey (a ++ ((Token.string v).bytes ++ b)) k = some (value ++ ((Token.string v).bytes ++ b)) := by
  have hpat : ascii "\"" ++ k ++ ascii "\"" = quotedName k := rfl
  have hmark : ascii ":" = [58] := rfl
  unfold afterKey at h ⊢
  simp only [hpat, hmark] at h ⊢
  cases hfind : find (quotedName k) a with
  | none => simp [hfind] at h
  | some p =>
    obtain ⟨q, rfl⟩ := find_starts hfind
    simp only [hfind, List.drop_left] at h
    cases hcolon : find [58] q with
    | none => simp [hcolon] at h
    | some c =>
      simp only [hcolon, Option.some.injEq] at h
      obtain ⟨c, rfl⟩ := find_starts hcolon
      have hskip : skipWs (c ++ ((Token.string v).bytes ++ b)) =
          skipWs c ++ ((Token.string v).bytes ++ b) := by
        unfold skipWs
        rw [List.dropWhile_append]
        split_ifs with hblank
        · rw [List.isEmpty_iff.mp hblank]
          rfl
        · rfl
      rw [find_append hfind]
      simp only [List.append_assoc, List.drop_left, find_append hcolon]
      rw [← h]
      exact congrArg some hskip

theorem afterKey_suffix (h : afterKey a k = some value) : value <:+ a := by
  unfold afterKey at h
  dsimp only at h
  split at h
  · cases h
  next p hfind =>
    split at h
    · cases h
    next c hcolon =>
      cases h
      exact (List.dropWhile_suffix _).trans ((List.drop_suffix 1 c).trans ((find_suffix hcolon).trans
        ((List.drop_suffix _ p).trans (find_suffix hfind))))

/-- The field is read as if there were no text in the note. -/
theorem extractStringField_passes (hk : k ∈ usedNames) (ha : Seam obj) (hv : QuotesEscaped v)
    (hb : Leads b) (h : FieldPasses obj k v) :
    extractStringField (obj ++ ((Token.string v).bytes ++ b)) k =
      extractStringField (obj ++ ((Token.string []).bytes ++ b)) k := by
  unfold FieldPasses at h
  cases hafter : afterKey obj k with
  | none =>
    rw [hafter] at h
    have hpast := afterKey_past hk ha hv hb hafter h
    have hempty := afterKey_past hk ha quotesEscaped_nil hb hafter (not_endsIn_nil hk)
    unfold extractStringField
    rw [hpast, hempty]
  | some value =>
    rw [hafter] at h
    obtain ⟨c, x, rfl⟩ := List.exists_cons_of_ne_nil h
    by_cases hc : c = 34
    · subst hc
      -- the quote of the note is the last one that could end the value
      have hread : ∀ u : Bytes,
          extractStringField (obj ++ ((Token.string u).bytes ++ b)) k = upToQuote x := by
        intro u
        have hvalue : afterKey (obj ++ ((Token.string u).bytes ++ b)) k =
            some ((Token.string x).bytes ++ (u ++ 34 :: b)) := by
          rw [afterKey_before hafter]
          simp [Token.bytes]
        exact extractStringField_of_afterKey hvalue
      rw [hread, hread]
    · have hnone : ∀ u : Bytes, extractStringField (obj ++ ((Token.string u).bytes ++ b)) k = [] := by
        intro u
        unfold extractStringField
        rw [afterKey_before hafter]
        simp [hc]
      rw [hnone, hnone]

theorem matchClosingBrace_split {e : ℤ} {inner : Bytes}
    (h : matchClosingBrace e s = some (inner, rest)) :
    ∃ x, s = x ++ 125 :: rest ∧ inner = x ++ [125] := by
  induction s generalizing e inner with
  | nil => cases h
  | cons c s ih =>
    have hmap : ∀ {e}, (matchClosingBrace e s).map (fun r => (c :: r.1, r.2)) = some (inner, rest) →
        ∃ x, c :: s = x ++ 125 :: rest ∧ inner = x ++ [125] := by
      intro e h
      obtain ⟨⟨inner, rest⟩, hr, heq⟩ := Option.map_eq_some_iff.mp h
      obtain ⟨rfl, rfl⟩ := Prod.mk.inj heq
      obtain ⟨x, rfl, rfl⟩ := ih hr
      exact ⟨c :: x, rfl, rfl⟩
    rw [matchClosingBrace] at h
    split_ifs at h with hopen hclose hzero
    · exact hmap h
    · obtain ⟨rfl, rfl⟩ := Prod.mk.inj (Option.some.inj h)
      exact ⟨[], by rw [hclose]; rfl, by rw [hclose]; rfl⟩
    · exact hmap h
    · exact hmap h

/-- A brace that is closed stays so, whatever comes behind. -/
theorem matchClosingBrace_append {e : ℤ} {inner : Bytes}
    (h : matchClosingBrace e s = some (inner, rest)) (t : Bytes) :
    matchClosingBrace e (s ++ t) = some (inner, rest ++ t) := by
  induction s generalizing e inner with
  | nil => cases h
  | cons c s ih =>
    have hmap : ∀ {e}, (matchClosingBrace e s).map (fun r => (c :: r.1, r.2)) = some (inner, rest) →
        (matchClosingBrace e (s ++ t)).map (fun r => (c :: r.1, r.2)) = some (inner, rest ++ t) := by
      intro e h
      obtain ⟨⟨inner, rest⟩, hr, heq⟩ := Option.map_eq_some_iff.mp h
      obtain ⟨rfl, rfl⟩ := Prod.mk.inj heq
      rw [ih hr]
      rfl
    rw [matchClosingBrace] at h
    rw [List.cons_append, matchClosingBrace]
    split_ifs at h ⊢ with hopen hclose hzero
    · exact hmap h
    · obtain ⟨rfl, rfl⟩ := Prod.mk.inj (Option.some.inj h)
      rfl
    · exact hmap h
    · exact hmap h

/-- An object that is open at the note goes on behind it at the same depth. -/
theorem matchClosingBrace_around (hobj : nested 0 obj = some d) (hv : nested d v = some d) (b : Bytes) :
    matchClosingBrace 0 (123 :: obj ++ ((Token.string v).bytes ++ b)) =
      (matchClosingBrace (d + 1) b).map fun r => (123 :: obj ++ ((Token.string v).bytes ++ r.1), r.2) := by
  have hstring : nested d (Token.string v).bytes = some d := by
    show nested d (34 :: (v ++ [34])) = some d
    rw [nested, if_neg (by decide), if_neg (by decide), nested_append, hv]
    rfl
  have hopen : nested 0 (obj ++ (Token.string v).bytes) = some d := by
    rw [nested_append, hobj]
    exact hstring
  have hbody := matchClosingBrace_nested hopen b
  simp only [Nat.cast_zero, zero_add] at hbody
  rw [List.cons_append, matchClosingBrace, if_pos rfl, zero_add, ← List.append_assoc, hbody,
    Option.map_map]
  congr 1
  funext r
  simp

theorem leads_prefix {c : Bytes} (hb : Leads b) (hc : c <+: b) : Leads c := by
  intro x hx
  obtain ⟨y, rfl⟩ := hc
  cases c with
  | nil => cases hx
  | cons d c => exact hb x hx

end Searches

section Load
variable {m : DataModel} {path a b v sec name text text' obj rest : Bytes} {d : ℕ}

/-- What is read of an object that is open at the note. -/
theorem fields_around (ha : Seam a) (hsuffix : 123 :: obj <:+ a) (hv : QuotesEscaped v) (hb : Leads b)
    {inner rest : Bytes} (hclosed : matchClosingBrace (d + 1) b = some (inner, rest)) {k : Bytes}
    (hk : k ∈ usedNames) (h : FieldPasses (123 :: obj) k v) :
    extractStringField (123 :: obj ++ ((Token.string v).bytes ++ inner)) k =
      extractStringField (123 :: obj ++ ((Token.string []).bytes ++ inner)) k := by
  have hseam := ha.suffix hsuffix List.mem_cons_self (by decide)
  obtain ⟨x, rfl, rfl⟩ := matchClosingBrace_split hclosed
  have hprefix : x ++ [125] <+: x ++ 125 :: rest := ⟨rest, by simp⟩
  have hleads := leads_prefix hb hprefix
  exact extractStringField_passes hk hseam hv hleads h

theorem fieldIn_passes {p : String × String} (hp : p ∈ sectionFields) (ha : Seam a)
    (hv : QuotesEscaped v) (hb : Leads b) (h : SectionPasses a (ascii p.1) (ascii p.2) v) :
    fieldIn (a ++ ((Token.string v).bytes ++ b)) p.1 p.2 =
      fieldIn (a ++ ((Token.string []).bytes ++ b)) p.1 p.2 := by
  obtain ⟨hsec, hname⟩ := mem_names_of_mem_sectionFields hp
  have hused := mem_usedNames_of_section hsec
  unfold SectionPasses at h
  unfold fieldIn extractObjectForKey
  cases hafter : afterKey a (ascii p.1) with
  | none =>
    rw [hafter] at h
    rw [afterKey_past hused ha hv hb hafter h,
      afterKey_past hused ha quotesEscaped_nil hb hafter (not_endsIn_nil hused)]
  | some value =>
    rw [hafter] at h
    have hsuffix := afterKey_suffix hafter
    rw [afterKey_before hafter, afterKey_before hafter]
    rcases value with _ | ⟨c, obj⟩
    · rfl
    · by_cases hc : c = 123
      · subst hc
        simp only [List.cons_append]
        cases hobj : nested 0 obj with
        | none =>
          obtain ⟨x, y, rfl, hx⟩ := exists_of_nested_eq_none hobj
          simp only [List.append_assoc, List.cons_append, matchClosingBrace_closed hx]
        | some d =>
          obtain ⟨hdepth, hfield⟩ : nested d v = some d ∧ FieldPasses (123 :: obj) (ascii p.2) v := by
            simpa only [hobj] using h
          have hempty : nested d [] = some d := rfl
          have hopen := matchClosingBrace_around hobj hdepth b
          have hopen' := matchClosingBrace_around hobj hempty b
          rw [List.cons_append] at hopen hopen'
          rw [hopen, hopen']
          cases hclosed : matchClosingBrace (d + 1) b with
          | none => rfl
          | some r => exact fields_around ha hsuffix hv hb hclosed (mem_usedNames_of_field hname) hfield
      · simp [hc]

/-- A camera object that is open at the note is read as if there were no text in the note. -/
theorem cameraNode_around (ha : Seam a) (hsuffix : 123 :: obj <:+ a) (hv : QuotesEscaped v)
    (hb : Leads b) {inner rest : Bytes} (hclosed : matchClosingBrace (d + 1) b = some (inner, rest))
    (hfields : ∀ k ∈ cameraFields, FieldPasses (123 :: obj) k v)
    (hserial : extractStringField (123 :: obj ++ ((Token.string v).bytes ++ inner))
      (ascii "serial_number") = [] → FieldPasses (123 :: obj) (ascii "serial") v) :
    cameraNode (123 :: obj ++ ((Token.string v).bytes ++ inner)) =
      cameraNode (123 :: obj ++ ((Token.string []).bytes ++ inner)) := by
  have hread : ∀ name : String, ascii name ∈ cameraFields →
      extractStringField (123 :: obj ++ ((Token.string v).bytes ++ inner)) (ascii name) =
        extractStringField (123 :: obj ++ ((Token.string []).bytes ++ inner)) (ascii name) :=
    fun name hname => fields_around ha hsuffix hv hb hclosed
      ((by decide : ∀ k ∈ cameraFields, k ∈ usedNames) _ hname) (hfields _ hname)
  rw [hread "serial_number" (by decide)] at hserial
  unfold cameraNode
  rw [hread "serial_number" (by decide), hread "backend" (by decide), hread "ip" (by decide)]
  by_cases hnumber : extractStringField (123 :: obj ++ ((Token.string []).bytes ++ inner))
      (ascii "serial_number") = []
  · rw [fields_around ha hsuffix hv hb hclosed (by decide) (hserial hnumber)]
  · dsimp only
    rw [if_neg hnumber, if_neg hnumber]

/-- The scan takes the cameras that it would take if there were no text in the note. -/
theorem scanCameras_passes (ha : Seam a) (hv : QuotesEscaped v) (hb : Leads b) (h : ScanPasses v b a) :
    scanCameras (a ++ ((Token.string v).bytes ++ b)) =
      scanCameras (a ++ ((Token.string []).bytes ++ b)) := by
  have hcamera : ascii "camera" ∈ usedNames := by decide
  induction h with
  | outside hnone hends =>
    apply scanCameras_congr
    have hpast := find_past hcamera ha hv hb hnone hends
    have hempty := find_past hcamera ha quotesEscaped_nil hb hnone (not_endsIn_nil hcamera)
    exact congrArg (fun o => o.bind (find (ascii "\x7b"))) (hpast.trans hempty.symm)
  | @unopened a pos hpos hob hbrace =>
    apply scanCameras_congr
    have hnot : (123 : UInt8) ∉ pos := by
      intro hmem
      obtain ⟨x, y, rfl⟩ := List.append_of_mem hmem
      have hsome : (find [123] (x ++ 123 :: y)).isSome := find_isSome_of_infix ⟨x, y, by simp⟩
      rw [show find [123] (x ++ 123 :: y) = none from hob] at hsome
      cases hsome
    have hskip : ∀ u : Bytes, 123 ∉ u →
        find [123] (pos ++ ((Token.string u).bytes ++ b)) = find [123] b := by
      intro u hu
      have hstring : (123 : UInt8) ∉ (Token.string u).bytes := by simp [Token.bytes, hu]
      rw [find_append_of_not_mem hnot, find_append_of_not_mem hstring]
    rw [find_append hpos, find_append hpos]
    exact (hskip v hbrace).trans (hskip [] List.not_mem_nil).symm
  | @inside a pos obj d hpos hob hobj hdepth hfields hserial =>
    have hsuffix := (find_suffix hob).trans (find_suffix hpos)
    have hempty : nested d [] = some d := rfl
    have hopen := matchClosingBrace_around hobj hdepth b
    have hopen' := matchClosingBrace_around hobj hempty b
    cases hclosed : matchClosingBrace (d + 1) b with
    | none =>
      rw [hclosed] at hopen hopen'
      rw [scanCameras_unclosed (find_append hpos) (find_append hob) hopen,
        scanCameras_unclosed (find_append hpos) (find_append hob) hopen']
    | some r =>
      rw [hclosed] at hopen hopen'
      rw [scanCameras_found (find_append hpos) (find_append hob) hopen,
        scanCameras_found (find_append hpos) (find_append hob) hopen',
        cameraNode_around ha hsuffix hv hb hclosed hfields (hserial r.1 r.2 hclosed)]
  | @behind a pos ob inner rest hpos hob hce _ ih =>
    have hsuffix := (find_suffix hob).trans (find_suffix hpos)
    obtain ⟨x, hx, -⟩ := matchClosingBrace_split hce
    have hseam : Seam rest := by
      have hbrace : 125 :: rest <:+ a := List.IsSuffix.trans ⟨x, hx.symm⟩ hsuffix
      obtain ⟨_ | ⟨c, y⟩, w, heq, hw⟩ := ha.suffix hbrace List.mem_cons_self (by decide)
      · cases (List.cons.inj heq).1
      · exact ⟨y, w, (List.cons.inj heq).2, hw⟩
    rw [scanCameras_found (find_append hpos) (find_append hob) (matchClosingBrace_append hce _),
      scanCameras_found (find_append hpos) (find_append hob) (matchClosingBrace_append hce _), ih hseam]

/-- Where the loader passes over a note, it loads what it would load if there were no text in it. -/
theorem loadHubFileConfig_passes (m : DataModel) (path : Bytes) (ha : Seam a) (hv : QuotesEscaped v)
    (hb : Leads b) (h : Passes a v b) :
    loadHubFileConfig m path (some (a ++ ((Token.string v).bytes ++ b))) =
      loadHubFileConfig m path (some (a ++ ((Token.string []).bytes ++ b))) := by
  have hne : ∀ u : Bytes, a ++ ((Token.string u).bytes ++ b) ≠ [] := fun u => by simp [Token.bytes]
  have hscan := scanCameras_passes ha hv hb h.cameras
  apply Prod.ext
  · rw [loadHubFileConfig_fst m path (hne v), loadHubFileConfig_fst m path (hne []), hscan]
    exact configOf_congr fun p hp => fieldIn_passes hp ha hv hb (h.sections p hp)
  · rw [loadHubFileConfig_snd m path (hne v), loadHubFileConfig_snd m path (hne []), hscan]

end Load

section Replaced
variable {m : DataModel} {path v old : Bytes} {ws : ℕ → Bytes} {before behind : List Token}
  {ms ms' : Members} {e e' : Entry} {f f' : File}

/-- The text of a member stands behind the member's colon. -/
def Rewritten (v : Bytes) (ts ts' : List Token) : Prop :=
  ∃ before old behind, ts = before ++ colon :: .string old :: behind ∧
    ts' = before ++ colon :: .string v :: behind

theorem Rewritten.within {ts ts' : List Token} (h : Rewritten v ts ts') (pre post : List Token) :
    Rewritten v (pre ++ (ts ++ post)) (pre ++ (ts' ++ post)) := by
  obtain ⟨before, old, behind, rfl, rfl⟩ := h
  exact ⟨pre ++ before, old, behind ++ post, by simp, by simp⟩

theorem Rewritten.joined {ts ts' : List Token} (h : Rewritten v ts ts') (ps qs : List (List Token)) :
    Rewritten v (joined (ps ++ ts :: qs)) (joined (ps ++ ts' :: qs)) := by
  rw [joined_append, joined_append]
  exact h.within _ _

theorem Members.Replaced.rewritten (h : ms.Replaced v ms') :
    Rewritten v (bodyTokens ms) (bodyTokens ms') := by
  cases h with
  | @member before behind name value hname =>
    have hmember : Rewritten v (memberTokens (name, value)) (memberTokens (name, v)) :=
      ⟨[.string name], value, [], rfl, rfl⟩
    unfold bodyTokens
    rw [List.map_append, List.map_append, List.map_cons, List.map_cons]
    exact hmember.joined _ _

theorem Entry.Replaced.rewritten (h : e.Replaced v e') : Rewritten v e.tokens e'.tokens := by
  cases h with
  | @note name value hname => exact ⟨[.string name], value, [], rfl, rfl⟩
  | @group name ms ms' hms =>
    exact hms.rewritten.within [.string name, colon, .mark 123] [.mark 125]
  | @cameras before behind ms ms' hms =>
    have hcamera : Rewritten v (cameraTokens ms) (cameraTokens ms') := by
      have hobject := hms.rewritten.within
        [.mark 123, .string (ascii "camera"), colon, .mark 123] ([.mark 125] ++ [.mark 125])
      simpa [cameraTokens, objectTokens] using hobject
    have hobjects := hcamera.joined (before.map cameraTokens) (behind.map cameraTokens)
    have harray := hobjects.within [.string (ascii "cameras"), colon, .mark 91] [.mark 93]
    simp only [Entry.tokens, List.map_append, List.map_cons]
    exact harray

theorem File.Replaced.rewritten (h : f.Replaced v f') : Rewritten v f.tokens f'.tokens := by
  cases h with
  | @entry before behind e e' hf hf' he =>
    have hentries := he.rewritten.joined (before.map Entry.tokens) (behind.map Entry.tokens)
    unfold File.tokens
    rw [hf, hf', List.map_append, List.map_append, List.map_cons, List.map_cons]
    exact hentries.within [.mark 123] [.mark 125]

theorem laid_append (ws : ℕ → Bytes) (before : List Token) (t : Token) (behind : List Token) :
    laid ws (before ++ t :: behind) =
      laid ws before ++ (t.bytes ++ laid (fun i => ws (i + before.length + 1)) behind) := by
  induction before generalizing ws with
  | nil => rfl
  | cons u before ih =>
    rw [List.cons_append, laid, laid, ih]
    simp only [List.append_assoc]
    rfl

theorem seam_laid (hws : ∀ i, Blank (ws i)) (before : List Token) :
    Seam (laid ws (before ++ [colon])) :=
  ⟨laid ws before, _, laid_append ws before colon [], hws _⟩

/-- Where two lists differ in one place, this is the only place. -/
theorem append_cons_unique {α : Type*} {x y z : α} {before before' behind behind' : List α}
    (h : before ++ x :: behind = before' ++ z :: behind')
    (h' : before ++ y :: behind = before' ++ y :: behind') (hne : x ≠ y) : before = before' := by
  induction before generalizing before' with
  | nil =>
    cases before' with
    | nil => rfl
    | cons w before' => exact absurd ((List.cons.inj h).1.trans (List.cons.inj h').1.symm) hne
  | cons u before ih =>
    cases before' with
    | nil =>
      have hsame := (List.cons.inj h).2.trans (List.cons.inj h').2.symm
      exact absurd (List.cons.inj (List.append_cancel_left hsame)).1 hne
    | cons w before' =>
      obtain ⟨rfl, htail⟩ := List.cons.inj h
      rw [ih htail (List.cons.inj h').2]

/-- A note may have any text that the loader passes over where the note stands. -/
theorem loadHubFileConfig_rewritten (hr : f.Replaced v f')
    (hf : f.tokens = before ++ .string old :: behind) (hf' : f'.tokens = before ++ .string v :: behind)
    (hws : ∀ i, Blank (ws i)) {b : Bytes} (hb : b = laid (fun i => ws (i + before.length + 1)) behind)
    (hold : Passes (laid ws before) old b) (hnew : Passes (laid ws before) v b) :
    loadHubFileConfig m path (some (laid ws f'.tokens)) =
      loadHubFileConfig m path (some (laid ws f.tokens)) := by
  by_cases hsame : old = v
  · rw [hf, hf', hsame]
  obtain ⟨pre, old', post, hpre, hpre'⟩ := hr.rewritten
  rw [List.append_cons] at hpre hpre'
  have hne : Token.string old ≠ .string v := fun h => hsame (Token.string.inj h)
  obtain rfl := append_cons_unique (hf.symm.trans hpre) (hf'.symm.trans hpre') hne
  have hwritten := written_tokens f
  have hwritten' := written_tokens f'
  rw [hf] at hwritten
  rw [hf'] at hwritten'
  have hescaped : QuotesEscaped old := hwritten (.string old) (by simp)
  have hescaped' : QuotesEscaped v := hwritten' (.string v) (by simp)
  have hleads : Leads b := by
    rw [hb]
    have hspells := spells_laid (fun i => hws (i + (pre ++ [colon]).length + 1)) behind
    have hmarked : ∀ t ∈ behind, t.Marked := fun t ht => (hwritten t (by simp [ht])).marked
    have hnil : Leads [] := nofun
    have hleads := hspells.leads_append hmarked hnil
    rwa [List.append_nil] at hleads
  have hseam := seam_laid hws pre
  rw [hf, hf', laid_append ws (pre ++ [colon]) (.string v), laid_append ws (pre ++ [colon]) (.string old),
    ← hb, loadHubFileConfig_passes m path hseam hescaped' hleads hnew,
    loadHubFileConfig_passes m path hseam hescaped hleads hold]

end Replaced

end Camera3D.Config
