import Camera3D.Config.FreeText

/-! Note texts that end in a quoted name. Each of them is found in place of that name in some file,
and changes what is loaded. -/
namespace Camera3D.Config

open Camera3D.Text

section Differ
variable {m : DataModel} {path v : Bytes} {field field' : String → String → Bytes}
  {cameras cameras' : List HubFileCameraNode} {f f' : File} {p : String × String}

theorem configOf_ne_of_cameras (h : cameras ≠ cameras') :
    configOf m field cameras ≠ configOf m field' cameras' := fun heq =>
  h (congrArg HubFileConfig.cameras heq)

theorem strtoul_thousand : strtoul m (ascii "1000") = 1000 :=
  strtoul_of_digits (by decide) (by decide)

theorem strtoul_zero : strtoul m (ascii "0") = 0 := strtoul_of_digits (by decide) (by decide)

theorem strtol_thousand : strtol m (ascii "1000") = 1000 := strtol_of_digits (by decide) (by decide)

theorem strtol_zero : strtol m (ascii "0") = 0 := strtol_of_digits (by decide) (by decide)

/-- A reading of a field that tells 1000 from 0 and from nothing. -/
def Tells {β : Type} (R : Bytes → β) : Prop :=
  R (ascii "0") ≠ R (ascii "1000") ∧ R [] ≠ R (ascii "1000")

theorem Tells.ne {β : Type} {R : Bytes → β} {x y : Bytes} (h : Tells R) (hx : x = ascii "1000")
    (hy : y = ascii "0" ∨ y = []) : R y ≠ R x := by
  rw [hx]
  obtain rfl | rfl := hy
  · exact h.1
  · exact h.2

theorem tells_given : Tells fun x => Document.given x (ascii "0.0.0.0:50051") := by
  unfold Tells
  decide

theorem tells_comIndexOf : Tells (comIndexOf m) := by
  unfold Tells comIndexOf
  rw [strtoul_thousand, strtoul_zero]
  exact ⟨by decide, by rw [if_pos rfl]; decide⟩

theorem tells_framesOf : Tells (framesOf m) := by
  unfold Tells framesOf
  rw [strtoul_thousand, strtoul_zero]
  exact ⟨by decide, by rw [if_pos rfl]; decide⟩

theorem tells_discoveryPort : Tells fun x => discoveryPort m x 55431 := by
  unfold Tells discoveryPort
  dsimp only
  rw [strtoul_thousand, strtoul_zero]
  exact ⟨by decide, by rw [if_pos rfl]; decide⟩

theorem tells_discoveryInterval : Tells fun x => discoveryInterval m x 1500 := by
  unfold Tells discoveryInterval
  dsimp only
  rw [strtol_thousand, strtol_zero]
  exact ⟨by decide, by rw [if_pos rfl]; decide⟩

/-- Every field is seen in the configuration. -/
theorem configOf_ne_of_field (hp : p ∈ sectionFields) (hfield : field p.1 p.2 = ascii "1000")
    (hfield' : field' p.1 p.2 = ascii "0" ∨ field' p.1 p.2 = [] ∧ p.2 ≠ "enable") :
    configOf m field' cameras' ≠ configOf m field cameras := by
  intro heq
  simp only [configOf, HubFileConfig.mk.injEq, HubDiscoverySettings.mk.injEq] at heq
  obtain ⟨hlisten, hcom, hframes, -, henable, hport, hinterval, hhost, hmodel, hserial⟩ := heq
  have hread := hfield'.imp_right And.left
  simp only [sectionFields, List.mem_cons, List.not_mem_nil, or_false] at hp
  obtain rfl | rfl | rfl | rfl | rfl | rfl | rfl | rfl | rfl := hp
  · exact tells_given.ne hfield hread hlisten
  · exact tells_comIndexOf.ne hfield hread hcom
  · exact tells_framesOf.ne hfield hread hframes
  · obtain hzero | ⟨-, hne⟩ := hfield'
    · rw [hfield, hzero] at henable
      exact absurd henable (by decide)
    · exact hne rfl
  · exact tells_discoveryPort.ne hfield hread hport
  · exact tells_discoveryInterval.ne hfield hread hinterval
  · exact Tells.ne (R := id) (by unfold Tells; decide) hfield hread hhost
  · exact Tells.ne (R := id) (by unfold Tells; decide) hfield hread hmodel
  · exact Tells.ne (R := id) (by unfold Tells; decide) hfield hread hserial

/-- A file of inert strings that is loaded otherwise once one of its notes has this text. -/
def Changes (m : DataModel) (path v : Bytes) : Prop :=
  ∃ f f' : File, f.Inert ∧ f.Replaced v f' ∧ ∃ ws, (∀ i, Blank (ws i)) ∧
    loadHubFileConfig m path (some (laid ws f'.tokens)) ≠
      loadHubFileConfig m path (some (laid ws f.tokens))

theorem changes_of_config (f f' : File) (hi : f.Inert) (hr : f.Replaced v f')
    (h : ∀ text, Spells f'.tokens text → configOf m (fieldIn text) (scanCameras text) ≠
      configOf m (fun sec name => upToQuote (f.field sec name)) (nodesOf f)) : Changes m path v := by
  have hws : ∀ i, Blank ((fun _ => [] : ℕ → Bytes) i) := fun _ => by simp [Blank]
  refine ⟨f, f', hi, hr, fun _ => [], hws, fun heq => h _ (spells_laid hws _) ?_⟩
  rw [← loadHubFileConfig_fst m path (laid_ne_nil _ f'), ← (loadHubFileConfig_inert m path hi hws).1,
    heq]

end Differ

section Objects
variable {v k sec text obj : Bytes} {front ms : Members} {post : List Token}

/-- An object with this note before another one and a field that is read. -/
def noted (front : Members) (k v : Bytes) : Members :=
  front ++ [(ascii "_comment", v), (ascii "slot_note", ascii "0"), (k, ascii "1000")]

def frontTokens (front : Members) : List Token :=
  front.flatMap fun p => memberTokens p ++ [comma]

theorem objectTokens_noted (front : Members) (k v : Bytes) :
    objectTokens (noted front k v) =
      (.mark 123 :: (frontTokens front ++ [.string (ascii "_comment"), colon])) ++ .string v ::
        ([comma, .string (ascii "slot_note")] ++ colon :: .string (ascii "0") ::
          [comma, .string k, colon, .string (ascii "1000"), .mark 125]) := by
  simp only [noted, objectTokens, bodyTokens, frontTokens, List.map_append, List.map_cons,
    joined_append]
  simp [memberTokens, List.flatMap_map, comma, colon]

def plainStrings : List Bytes :=
  ["", "_comment", "slot_note", "0", "1000", "2000", "LEFT"].map ascii

theorem plain_shape : ∀ s ∈ plainStrings, isStringBody s = true ∧ Inert s := by decide +kernel

theorem comment_shape : isStringBody (ascii "_comment") = true ∧ Inert (ascii "_comment") :=
  plain_shape _ (by decide)

theorem comment_not_mem : ascii "_comment" ∉ usedNames := fun h => comment_shape.2.ne h rfl

theorem inert_nil : Inert [] := (plain_shape _ List.mem_cons_self).2

theorem note_shape : isStringBody (ascii "slot_note") = true ∧ Inert (ascii "slot_note") :=
  plain_shape _ (by decide)

theorem zero_shape : isStringBody (ascii "0") = true ∧ Inert (ascii "0") := plain_shape _ (by decide)

theorem thousand_shape : isStringBody (ascii "1000") = true ∧ Inert (ascii "1000") :=
  plain_shape _ (by decide)

theorem written_noted (hfront : front.Written) (hk : k ∈ usedNames) (hv : isStringBody v = true) :
    (noted front k v).Written :=
  List.forall_mem_append.mpr ⟨hfront, List.forall_mem_cons.mpr ⟨⟨comment_shape.1, hv⟩,
    List.forall_mem_cons.mpr ⟨⟨note_shape.1, zero_shape.1⟩,
      List.forall_mem_singleton.mpr ⟨(used_shape k hk).1, thousand_shape.1⟩⟩⟩⟩

theorem inert_noted (hfront : front.Inert) (hk : k ∈ usedFields) : (noted front k []).Inert :=
  List.forall_mem_append.mpr ⟨hfront, List.forall_mem_cons.mpr ⟨⟨.inr comment_shape.2, inert_nil⟩,
    List.forall_mem_cons.mpr ⟨⟨.inr note_shape.2, zero_shape.2⟩,
      List.forall_mem_singleton.mpr ⟨.inl hk, thousand_shape.2⟩⟩⟩⟩

theorem level_noted (hw : front.Written) (hi : front.Inert) (hk : k ∈ usedNames)
    (hv : nested 0 v = some 0) : ∀ t ∈ bodyTokens (noted front k v), t.Level := by
  have hfront : ∀ p ∈ front, nested 0 p.1 = some 0 ∧ nested 0 p.2 = some 0 := fun p hp =>
    ⟨(harmless_name (hw p hp).1 (hi p hp).1).2.1, (hi p hp).2.1⟩
  exact level_members <| List.forall_mem_append.mpr ⟨hfront, List.forall_mem_cons.mpr
    ⟨⟨comment_shape.2.1, hv⟩, List.forall_mem_cons.mpr ⟨⟨note_shape.2.1, zero_shape.2.1⟩,
      List.forall_mem_singleton.mpr ⟨(used_shape k hk).2, thousand_shape.2.1⟩⟩⟩⟩

theorem lookup_noted (front : Members) (v : Bytes) (hfront : front.lookup k = none)
    (hk : k ∈ usedNames) :
    (noted front k v).lookup k = some (ascii "1000") := by
  have hcomment : (k == ascii "_comment") = false := by
    simpa using (comment_shape.2.ne hk).symm
  have hnote : (k == ascii "slot_note") = false := by simpa using (note_shape.2.ne hk).symm
  simp [noted, List.lookup_append, hfront, List.lookup_cons, hcomment, hnote]

theorem quiet_opened (hk : k ∈ usedNames) :
    ∀ t ∈ [Token.mark 123, .string (ascii "_comment"), colon], t.Quiet k := by
  refine quiet_of_not_mem ?_ hk ?_
  · exact List.forall_mem_cons.mpr ⟨harmless_mark _ (by decide), List.forall_mem_cons.mpr
      ⟨harmless_inert comment_shape.1 comment_shape.2, List.forall_mem_singleton.mpr
        (harmless_mark _ (by decide))⟩⟩
  · intro hmem
    obtain h | h | h : Token.string k = .mark 123 ∨ Token.string k = .string (ascii "_comment") ∨
        Token.string k = colon := by simpa using hmem
    · cases h
    · cases h
      exact comment_not_mem hk
    · cases h

/-- Where a note ends in a field's quoted name, the value of the next member is read for it. -/
theorem extractStringField_noted (hk : k ∈ usedNames) (hv : isStringBody v = true)
    (hends : 34 :: k <:+ 34 :: v) (hfront : ∀ t ∈ frontTokens front, t.Quiet k)
    (h : Spells (objectTokens (noted front k v)) obj) : extractStringField obj k = ascii "0" := by
  obtain ⟨hopen, hcomment⟩ := List.forall_mem_cons.mp (quiet_opened hk)
  have hpre : ∀ t ∈ Token.mark 123 :: (frontTokens front ++ [.string (ascii "_comment"), colon]),
      t.Quiet k := List.forall_mem_cons.mpr ⟨hopen, List.forall_mem_append.mpr ⟨hfront, hcomment⟩⟩
  rw [objectTokens_noted] at h
  obtain ⟨rest, hafter, -⟩ := afterKey_ending (t := .string (ascii "0")) (isPlainName_used k hk) hpre
    (quotesEscaped_of_isStringBody hv) hends (by decide) trivial h
  exact extractStringField_of_afterKey hafter

end Objects

section Misled
variable {m : DataModel} {path v k text : Bytes} {p : String × String} {post : List Token}

def oneCamera : Entry := .cameras [[(ascii "serial_number", ascii "LEFT")]]

/-- What stands before the section that follows the camera. -/
def cameraTokensBefore : List Token := .mark 123 :: (oneCamera.tokens ++ [comma])

theorem written_oneCamera : oneCamera.Written :=
  List.forall_mem_singleton.mpr (List.forall_mem_singleton.mpr
    ⟨(used_shape _ (by decide)).1, (plain_shape _ (by decide)).1⟩)

theorem inert_oneCamera : oneCamera.Inert :=
  List.forall_mem_singleton.mpr (List.forall_mem_singleton.mpr
    ⟨.inl (by decide), (plain_shape _ (by decide)).2⟩)

theorem quiet_cameraTokensBefore (hk : k ∈ sectionNames) :
    ∀ t ∈ cameraTokensBefore, t.Quiet k := by
  have hnot := string_not_mem_entryTokens inert_oneCamera hk rfl
  refine quiet_of_not_mem ?_ (mem_usedNames_of_section hk) ?_
  · exact List.forall_mem_cons.mpr ⟨harmless_mark _ (by decide), List.forall_mem_append.mpr
      ⟨harmless_entryTokens written_oneCamera inert_oneCamera,
        List.forall_mem_singleton.mpr (harmless_mark _ (by decide))⟩⟩
  · simpa [cameraTokensBefore, comma] using hnot

/-- A section with a field behind the note. -/
def misledField (p : String × String) (v : Bytes) : List Entry :=
  [oneCamera, .group (ascii p.1) (noted [] (ascii p.2) v)]

/-- A section with a field, and a note before the section. -/
def misledSection (p : String × String) (v : Bytes) : List Entry :=
  [oneCamera, .note (ascii "_comment") v, .note (ascii "slot_note") (ascii "0"),
    .group (ascii p.1) [(ascii p.2, ascii "1000")]]

theorem fieldOf_section {ms : Members} (before : List Entry) (sec name : String)
    (hbefore : ∀ e ∈ before, e.membersOf (ascii sec) = none)
    (h : ms.lookup (ascii name) = some (ascii "1000")) :
    upToQuote (fieldOf (before ++ [.group (ascii sec) ms]) sec name) = ascii "1000" := by
  have hnone := List.findSome?_eq_none_iff.mpr hbefore
  have hread : fieldOf (before ++ [.group (ascii sec) ms]) sec name = ascii "1000" := by
    simp [fieldOf, Entry.membersOf, Members.field, List.findSome?_append, hnone, h]
  rw [hread]
  rfl

theorem written_misledField (hp : p ∈ sectionFields) (hv : isStringBody v = true) :
    ∀ e ∈ misledField p v, e.Written := by
  obtain ⟨hsec, hname⟩ := mem_names_of_mem_sectionFields hp
  exact List.forall_mem_cons.mpr ⟨written_oneCamera, List.forall_mem_singleton.mpr
    ⟨hsec, written_noted (List.forall_mem_nil _) (mem_usedNames_of_field hname) hv⟩⟩

theorem changes_of_field (hp : p ∈ sectionFields) (hv : isStringBody v = true)
    (hlevel : nested 0 v = some 0) (hends : 34 :: ascii p.2 <:+ 34 :: v) : Changes m path v := by
  obtain ⟨hsec, hname⟩ := mem_names_of_mem_sectionFields hp
  have hused := mem_usedNames_of_section hsec
  have hkey := mem_usedNames_of_field hname
  have hinert : ∀ e ∈ misledField p [], e.Inert := List.forall_mem_cons.mpr
    ⟨inert_oneCamera, List.forall_mem_singleton.mpr (inert_noted (List.forall_mem_nil _) hname)⟩
  have hfield := fieldOf_section [oneCamera] p.1 p.2 (List.forall_mem_singleton.mpr rfl)
    (lookup_noted [] [] rfl hkey)
  refine changes_of_config ⟨misledField p [], written_misledField hp rfl⟩
    ⟨misledField p v, written_misledField hp hv⟩ hinert
    (.entry [oneCamera] [] rfl rfl (.group (.member [] _ comment_not_mem)))
    fun text htext => configOf_ne_of_field hp hfield (.inl ?_)
  have htokens : Spells (cameraTokensBefore ++ .string (ascii p.1) :: colon :: .mark 123 ::
      (bodyTokens (noted [] (ascii p.2) v) ++ .mark 125 :: [.mark 125])) text := by
    simpa [File.tokens, misledField, cameraTokensBefore, joined, Entry.tokens, objectTokens] using htext
  obtain ⟨b, hafter, hb⟩ := afterKey_tokens (t := .mark 123) (isPlainName_used _ hused)
    (quiet_cameraTokensBefore hsec) (by decide : (123 : UInt8) ∈ Token.marks) htokens
  have hbody := level_noted (List.forall_mem_nil _) (List.forall_mem_nil _) hkey hlevel
  have hobj := extractObjectForKey_of_afterKey hbody hb hafter
  exact extractStringField_noted hkey hv hends (by simp [frontTokens]) hobj

theorem written_misledSection (hp : p ∈ sectionFields) (hv : isStringBody v = true) :
    ∀ e ∈ misledSection p v, e.Written := by
  obtain ⟨hsec, hname⟩ := mem_names_of_mem_sectionFields hp
  have hsection : Entry.Written (.group (ascii p.1) [(ascii p.2, ascii "1000")]) :=
    ⟨hsec, List.forall_mem_singleton.mpr
      ⟨(used_shape _ (mem_usedNames_of_field hname)).1, thousand_shape.1⟩⟩
  exact List.forall_mem_cons.mpr ⟨written_oneCamera, List.forall_mem_cons.mpr
    ⟨List.forall_mem_singleton.mpr ⟨comment_shape.1, hv⟩, List.forall_mem_cons.mpr
      ⟨List.forall_mem_singleton.mpr ⟨note_shape.1, zero_shape.1⟩,
        List.forall_mem_singleton.mpr hsection⟩⟩⟩

theorem inert_misledSection (hp : p ∈ sectionFields) : ∀ e ∈ misledSection p [], e.Inert := by
  obtain ⟨-, hname⟩ := mem_names_of_mem_sectionFields hp
  exact List.forall_mem_cons.mpr ⟨inert_oneCamera, List.forall_mem_cons.mpr
    ⟨List.forall_mem_singleton.mpr ⟨.inr comment_shape.2, inert_nil⟩, List.forall_mem_cons.mpr
      ⟨List.forall_mem_singleton.mpr ⟨.inr note_shape.2, zero_shape.2⟩,
        List.forall_mem_singleton.mpr
          (List.forall_mem_singleton.mpr ⟨.inl hname, thousand_shape.2⟩)⟩⟩⟩

theorem changes_of_section (hp : p ∈ sectionFields) (hne : p.2 ≠ "enable")
    (hv : isStringBody v = true) (hends : 34 :: ascii p.1 <:+ 34 :: v) : Changes m path v := by
  have hsec := (mem_names_of_mem_sectionFields hp).1
  have hused := mem_usedNames_of_section hsec
  have hbefore : ∀ e ∈ [oneCamera, .note (ascii "_comment") [], .note (ascii "slot_note") (ascii "0")],
      e.membersOf (ascii p.1) = none := by simp [oneCamera, Entry.membersOf]
  have hfield := fieldOf_section _ p.1 p.2 hbefore
    (List.lookup_cons_self : [(ascii p.2, ascii "1000")].lookup (ascii p.2) = _)
  refine changes_of_config ⟨misledSection p [], written_misledSection hp rfl⟩
    ⟨misledSection p v, written_misledSection hp hv⟩ (inert_misledSection hp)
    (.entry [oneCamera] _ rfl rfl (.note comment_not_mem))
    fun text htext => configOf_ne_of_field hp hfield (.inr ⟨?_, hne⟩)
  have htokens : Spells ((cameraTokensBefore ++ [.string (ascii "_comment"), colon]) ++ .string v ::
      ([comma, .string (ascii "slot_note")] ++ colon :: .string (ascii "0") ::
        (comma :: Entry.tokens (.group (ascii p.1) [(ascii p.2, ascii "1000")]) ++ [.mark 125])))
      text := by
    simpa [File.tokens, misledSection, cameraTokensBefore, joined, Entry.tokens, memberTokens]
      using htext
  have hpre : ∀ t ∈ cameraTokensBefore ++ [.string (ascii "_comment"), colon], t.Quiet (ascii p.1) :=
    List.forall_mem_append.mpr ⟨quiet_cameraTokensBefore hsec,
      (List.forall_mem_cons.mp (quiet_opened hused)).2⟩
  obtain ⟨rest, hafter, -⟩ := afterKey_ending (t := .string (ascii "0")) (isPlainName_used _ hused)
    hpre (quotesEscaped_of_isStringBody hv) hends (by decide) trivial htokens
  have hobj : extractObjectForKey text (ascii p.1) = [] := by
    unfold extractObjectForKey
    rw [hafter]
    rfl
  unfold fieldIn
  rw [hobj, extractStringField_nil]

/-- The members that are taken for those of a camera. -/
def hubMembers : Members := [(ascii "serial_number", ascii "1000")]

/-- A section with a serial number before the cameras, and a note before the section. -/
def misledScan (v : Bytes) : List Entry :=
  [.note (ascii "_comment") v, .group (ascii "hub") hubMembers, oneCamera]

theorem written_hubMembers : hubMembers.Written :=
  List.forall_mem_singleton.mpr ⟨(used_shape _ (by decide)).1, thousand_shape.1⟩

theorem inert_hubMembers : hubMembers.Inert :=
  List.forall_mem_singleton.mpr ⟨.inl (by decide), thousand_shape.2⟩

theorem written_misledScan (hv : isStringBody v = true) : ∀ e ∈ misledScan v, e.Written :=
  List.forall_mem_cons.mpr ⟨List.forall_mem_singleton.mpr ⟨comment_shape.1, hv⟩,
    List.forall_mem_cons.mpr
      ⟨⟨by decide, written_hubMembers⟩, List.forall_mem_singleton.mpr written_oneCamera⟩⟩

theorem inert_misledScan : ∀ e ∈ misledScan [], e.Inert :=
  List.forall_mem_cons.mpr ⟨List.forall_mem_singleton.mpr ⟨.inr comment_shape.2, inert_nil⟩,
    List.forall_mem_cons.mpr ⟨inert_hubMembers, List.forall_mem_singleton.mpr inert_oneCamera⟩⟩

theorem hubMembers_shape : (readNode hubMembers).serialNumber ≠ [] ∧
    readNode hubMembers ∉ ((misledScan []).flatMap Entry.objects).map readNode := by
  decide +kernel

theorem changes_of_camera (hv : isStringBody v = true) (hends : 34 :: ascii "camera" <:+ 34 :: v) :
    Changes m path v := by
  obtain ⟨hserial, hnot⟩ := hubMembers_shape
  have hcamera : ascii "camera" ∈ usedNames := by decide
  refine changes_of_config ⟨misledScan [], written_misledScan rfl⟩
    ⟨misledScan v, written_misledScan hv⟩ inert_misledScan
    (.entry [] _ rfl rfl (.note comment_not_mem)) fun text htext => configOf_ne_of_cameras ?_
  have htokens : Spells ([.mark 123, .string (ascii "_comment"), colon] ++ .string v ::
      ([comma, .string (ascii "hub"), colon] ++
        (objectTokens hubMembers ++ (comma :: oneCamera.tokens ++ [.mark 125])))) text := by
    simpa [File.tokens, misledScan, joined, Entry.tokens, memberTokens] using htext
  obtain ⟨b, hpos, hb⟩ := find_tokens_ending isPlainName_camera (quiet_opened hcamera)
    (quotesEscaped_of_isStringBody hv) hends htokens
  have hname : (123 : UInt8) ∉ quotedName (ascii "camera") := by decide
  have hbrace : find (ascii "\x7b") (quotedName (ascii "camera") ++ b) = find [123] (b ++ []) := by
    rw [List.append_nil]
    exact find_append_of_not_mem hname
  obtain ⟨inner, c, hinner, -, hscan⟩ := scanCameras_object hpos hbrace (by decide)
    (nested_level (level_bodyTokens written_hubMembers inert_hubMembers)) hb
  have hlegible : hubMembers.Legible := legible_inert written_hubMembers inert_hubMembers
  rw [cameraNode_object written_hubMembers hlegible hinner, if_pos hserial] at hscan
  intro heq
  have hmem : readNode hubMembers ∈ nodesOf ⟨misledScan [], written_misledScan rfl⟩ := by
    rw [← heq, hscan]
    exact List.mem_cons_self
  exact hnot (List.mem_of_mem_filter hmem)

end Misled

/-- A field of a camera object, with members that may stand before the note. -/
structure CameraField where
  name : Bytes
  front : Members
  used : name ∈ usedFields
  written : front.Written
  inert : front.Inert
  unnamed : Token.string name ∉ frontTokens front

namespace CameraField

/-- The object has a serial number, whatever is read for these. -/
def ip : CameraField :=
  ⟨ascii "ip", [(ascii "serial_number", ascii "2000")], by decide, by decide +kernel,
    by decide +kernel, by decide +kernel⟩

def backend : CameraField :=
  ⟨ascii "backend", [(ascii "serial_number", ascii "2000")], by decide, by decide +kernel,
    by decide +kernel, by decide +kernel⟩

def serialNumber : CameraField :=
  ⟨ascii "serial_number", [], by decide, List.forall_mem_nil _, List.forall_mem_nil _, by decide⟩

/-- This one is looked for where the serial number is empty. -/
def serial : CameraField :=
  ⟨ascii "serial", [(ascii "serial_number", [])], by decide, by decide +kernel, by decide +kernel,
    by decide +kernel⟩

def all : List CameraField := [ip, backend, serialNumber, serial]

/-- An object with the field behind the note. -/
def members (c : CameraField) (v : Bytes) : Members := noted c.front c.name v

theorem name_mem (c : CameraField) : c.name ∈ usedNames := mem_usedNames_of_field c.used

/-- Before the note is changed the field is read as it is written. -/
theorem readNode_members :
    ((readNode (ip.members [])).ip = ascii "1000" ∧
      (readNode (backend.members [])).backendId = ascii "1000" ∧
      (readNode (serialNumber.members [])).serialNumber = ascii "1000" ∧
      (readNode (serial.members [])).serialNumber = ascii "1000") ∧
    ∀ c ∈ all, (readNode (c.members [])).serialNumber ≠ [] := by decide +kernel

end CameraField

section Cameras
variable {m : DataModel} {path v k text inner w : Bytes} {c : CameraField}

/-- A camera object with a field behind the note. -/
def misledCamera (c : CameraField) (v : Bytes) : List Entry := [.cameras [c.members v]]

theorem quiet_front (c : CameraField) : ∀ t ∈ frontTokens c.front, t.Quiet c.name := by
  refine quiet_of_not_mem ?_ c.name_mem c.unnamed
  intro t ht
  obtain ⟨p, hp, ht⟩ := List.mem_flatMap.mp ht
  obtain ht | ht := List.mem_append.mp ht
  · obtain ⟨hname, hvalue⟩ := harmless_member (c.written p hp) (c.inert p hp)
    obtain rfl | rfl | rfl : t = .string p.1 ∨ t = colon ∨ t = .string p.2 := by
      simpa [memberTokens] using ht
    · exact hname
    · exact harmless_mark _ (by decide)
    · exact hvalue
  · obtain rfl := List.mem_singleton.mp ht
    exact harmless_mark _ (by decide)

/-- The first member is read as it is written. -/
theorem serialNumber_noted
    (h : Spells (objectTokens (noted [(ascii "serial_number", w)] k v)) inner) :
    extractStringField inner (ascii "serial_number") = upToQuote w := by
  have hplain : IsPlainName (ascii "serial_number") := by decide
  have hpre : ∀ t ∈ [Token.mark 123], t.Quiet (ascii "serial_number") :=
    List.forall_mem_singleton.mpr (by decide : (123 : UInt8) ∈ Token.marks)
  rw [objectTokens_noted] at h
  obtain ⟨rest, hafter, -⟩ := afterKey_tokens (t := .string w) hplain hpre trivial h
  exact extractStringField_of_afterKey hafter

theorem cameraNode_serialNumber (h : extractStringField inner (ascii "serial_number") = w)
    (hw : w ≠ []) : (cameraNode inner).serialNumber = w := by
  unfold cameraNode
  dsimp only
  rw [h, if_neg hw]

theorem cameraNode_members (hc : c ∈ CameraField.all) (hv : isStringBody v = true)
    (hends : 34 :: c.name <:+ 34 :: v) (h : Spells (objectTokens (c.members v)) inner) :
    (cameraNode inner).serialNumber ≠ [] ∧ cameraNode inner ≠ readNode (c.members []) := by
  have hread := extractStringField_noted c.name_mem hv hends (quiet_front c) h
  have hne : ascii "0" ≠ ascii "1000" := by decide
  obtain ⟨⟨hip, hbackend, hnumber, hserial⟩, -⟩ := CameraField.readNode_members
  simp only [CameraField.all, List.mem_cons, List.not_mem_nil, or_false] at hc
  obtain rfl | rfl | rfl | rfl := hc
  · have hnode := cameraNode_serialNumber (serialNumber_noted h) (by decide)
    refine ⟨by rw [hnode]; decide, fun heq => hne ?_⟩
    rw [← hip, ← heq]
    exact hread.symm
  · have hnode := cameraNode_serialNumber (serialNumber_noted h) (by decide)
    have hname : (cameraNode inner).backendId = ascii "0" := by
      unfold cameraNode
      dsimp only
      rw [show extractStringField inner (ascii "backend") = ascii "0" from hread]
      rfl
    refine ⟨by rw [hnode]; decide, fun heq => hne ?_⟩
    rw [← hbackend, ← heq]
    exact hname.symm
  · have hnode := cameraNode_serialNumber hread (by decide)
    refine ⟨by rw [hnode]; decide, fun heq => hne ?_⟩
    rw [← hnumber, ← heq]
    exact hnode.symm
  · have hnone : extractStringField inner (ascii "serial_number") = [] := serialNumber_noted h
    have hnode : (cameraNode inner).serialNumber = ascii "0" := by
      unfold cameraNode
      dsimp only
      rw [if_pos hnone]
      exact hread
    refine ⟨by rw [hnode]; decide, fun heq => hne ?_⟩
    rw [← hserial, ← heq]
    exact hnode.symm

theorem written_misledCamera (c : CameraField) (hv : isStringBody v = true) :
    ∀ e ∈ misledCamera c v, e.Written :=
  List.forall_mem_singleton.mpr
    (List.forall_mem_singleton.mpr (written_noted c.written c.name_mem hv))

theorem inert_misledCamera (c : CameraField) : ∀ e ∈ misledCamera c [], e.Inert :=
  List.forall_mem_singleton.mpr (List.forall_mem_singleton.mpr (inert_noted c.inert c.used))

theorem quiet_scanned : ∀ t ∈ [Token.mark 123, .string (ascii "cameras"), colon, .mark 91, .mark 123],
    t.Quiet (ascii "camera") := by
  refine quiet_of_not_mem ?_ (by decide) (by decide)
  exact List.forall_mem_cons.mpr ⟨harmless_mark 123 (by decide), List.forall_mem_cons.mpr
    ⟨harmless_cameras, List.forall_mem_cons.mpr ⟨harmless_mark 58 (by decide),
      List.forall_mem_cons.mpr ⟨harmless_mark 91 (by decide),
        List.forall_mem_singleton.mpr (harmless_mark 123 (by decide))⟩⟩⟩⟩

theorem changes_of_cameraField (hc : c ∈ CameraField.all) (hv : isStringBody v = true)
    (hlevel : nested 0 v = some 0) (hends : 34 :: c.name <:+ 34 :: v) : Changes m path v := by
  refine changes_of_config ⟨misledCamera c [], written_misledCamera c rfl⟩
    ⟨misledCamera c v, written_misledCamera c hv⟩ (inert_misledCamera c)
    (.entry [] [] rfl rfl (.cameras [] [] (.member c.front _ comment_not_mem)))
    fun text htext => configOf_ne_of_cameras ?_
  have htokens : Spells ([.mark 123, .string (ascii "cameras"), colon, .mark 91, .mark 123] ++
      .string (ascii "camera") :: colon ::
        (objectTokens (c.members v) ++ [.mark 125, .mark 93, .mark 125])) text := by
    simpa [File.tokens, misledCamera, joined, Entry.tokens, cameraTokens] using htext
  obtain ⟨pos, b, hpos, hbrace, hb⟩ := find_camera_cut quiet_scanned htokens []
  have hb : Spells ([colon] ++ (objectTokens (c.members v) ++ [.mark 125, .mark 93, .mark 125])) b :=
    hb
  obtain ⟨inner, rest, hinner, -, hscan⟩ := scanCameras_object hpos hbrace (by decide)
    (nested_level (level_noted c.written c.inert c.name_mem hlevel)) hb
  obtain ⟨hserial, hne⟩ := cameraNode_members hc hv hends hinner
  rw [List.append_nil, if_pos hserial] at hscan
  have hnumber := CameraField.readNode_members.2 c hc
  have hnode : nodesOf ⟨misledCamera c [], written_misledCamera c rfl⟩ = [readNode (c.members [])] := by
    have hmap : (File.cameras ⟨misledCamera c [], written_misledCamera c rfl⟩).map readNode =
        [readNode (c.members [])] := rfl
    unfold nodesOf
    rw [hmap, List.filter_cons_of_pos (by simpa using hnumber), List.filter_nil]
  rw [hscan, hnode]
  exact fun heq => hne (List.cons.inj heq).1

end Cameras

end Camera3D.Config
