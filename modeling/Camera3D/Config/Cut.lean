import Camera3D.Config.Pieces

/-! The camera scan over a file that was cut off anywhere: where it is not misled it takes the camera
objects whose closing brace is still there, and of these the ones with a serial number. -/
namespace Camera3D.Config

open Camera3D.Text

/-- The text of these tokens, with the white space before each of them and behind the last. -/
def laid (ws : ℕ → Bytes) : List Token → Bytes
  | [] => ws 0
  | t :: ts => ws 0 ++ (t.bytes ++ laid (fun i => ws (i + 1)) ts)

/-- The tokens that are still whole in the first bytes of that text. -/
def whole (ws : ℕ → Bytes) (n : ℕ) : List Token → List Token
  | [] => []
  | t :: ts =>
    if (ws 0).length + t.bytes.length ≤ n then
      t :: whole (fun i => ws (i + 1)) (n - ((ws 0).length + t.bytes.length)) ts
    else []

/-- What is left of the token behind them. -/
def remnant (ws : ℕ → Bytes) (n : ℕ) : List Token → Bytes
  | [] => (ws 0).take n
  | t :: ts =>
    if (ws 0).length + t.bytes.length ≤ n then
      remnant (fun i => ws (i + 1)) (n - ((ws 0).length + t.bytes.length)) ts
    else (ws 0 ++ t.bytes).take n

def HasSerial (ms : Members) : Prop := ms.field "serial_number" ≠ [] ∨ ms.field "serial" ≠ []

instance : DecidablePred HasSerial := fun ms =>
  inferInstanceAs (Decidable (ms.field "serial_number" ≠ [] ∨ ms.field "serial" ≠ []))

section Cutting
variable {ws : ℕ → Bytes} {ts us vs : List Token} {a b r k : Bytes} {n m : ℕ}

theorem spells_laid (hws : ∀ i, Blank (ws i)) (ts : List Token) : Spells ts (laid ws ts) := by
  induction ts generalizing ws with
  | nil => exact .nil (hws 0)
  | cons t ts ih => exact .cons (hws 0) (ih fun i => hws (i + 1))

/-- What can be left of the tokens behind the last whole one. -/
inductive Remnant : List Token → Bytes → Prop
  | blank {ts : List Token} {w : Bytes} : Blank w → Remnant ts w
  | string {ts : List Token} {w s p : Bytes} :
      Blank w → p <+: s → Remnant (.string s :: ts) (w ++ 34 :: p)

theorem blank_start {w p : Bytes} (hw : Blank w) (hp : p <+: w) : Blank p := fun c hc =>
  hw c (hp.subset hc)

theorem whole_eq_take (ws : ℕ → Bytes) (n : ℕ) (ts : List Token) :
    whole ws n ts = ts.take (whole ws n ts).length := by
  induction ts generalizing ws n with
  | nil => rfl
  | cons t ts ih =>
    rw [whole]
    split_ifs
    · exact congrArg (t :: ·) (ih _ _)
    · rfl

/-- A token that does not fit leaves white space, or the start of a string. -/
theorem remnant_of_cut (hws : Blank (ws 0)) {t : Token} (ts : List Token)
    (hcut : n < (ws 0).length + t.bytes.length) : Remnant (t :: ts) ((ws 0 ++ t.bytes).take n) := by
  by_cases hblank : n ≤ (ws 0).length
  · rw [List.take_append_of_le_length hblank]
    have htake := List.take_prefix n (ws 0)
    exact .blank (blank_start hws htake)
  · cases t with
    | mark c =>
      simp only [Token.bytes, List.length_singleton] at hcut
      omega
    | string s =>
      obtain ⟨j, rfl⟩ : ∃ j, n = (ws 0).length + (j + 1) := ⟨n - (ws 0).length - 1, by omega⟩
      have hj : j ≤ s.length := by
        simp only [Token.bytes, List.length_cons, List.length_append, List.length_nil] at hcut
        omega
      have htake : (ws 0 ++ (Token.string s).bytes).take ((ws 0).length + (j + 1)) =
          ws 0 ++ 34 :: s.take j := by
        rw [List.take_length_add_append]
        simp [Token.bytes, List.take_append_of_le_length hj]
      have hbody := List.take_prefix j s
      rw [htake]
      exact .string hws hbody

theorem take_laid (hws : ∀ i, Blank (ws i)) (n : ℕ) (ts : List Token) :
    ∃ a, (laid ws ts).take n = a ++ remnant ws n ts ∧ Spells (whole ws n ts) a ∧
      Remnant (ts.drop (whole ws n ts).length) (remnant ws n ts) := by
  induction ts generalizing ws n with
  | nil =>
    have htake := List.take_prefix n (ws 0)
    exact ⟨[], rfl, .of_nil, .blank (blank_start (hws 0) htake)⟩
  | cons t ts ih =>
    rw [laid, whole, remnant]
    split_ifs with hfits
    · obtain ⟨a, htake, ha, hr⟩ := ih (fun i => hws (i + 1)) (n - ((ws 0).length + t.bytes.length))
      refine ⟨ws 0 ++ (t.bytes ++ a), ?_, .cons (hws 0) ha, hr⟩
      rw [← List.append_assoc, List.take_append, List.take_of_length_le (by simpa using hfits),
        List.length_append, htake]
      simp
    · have hcut := Nat.lt_of_not_le hfits
      refine ⟨[], ?_, .of_nil, remnant_of_cut (hws 0) ts hcut⟩
      rw [← List.append_assoc, List.take_append_of_le_length (by simpa using hcut.le)]
      rfl

theorem Remnant.leads (h : Remnant vs r) : Leads r := by
  cases h with
  | blank hw => exact leads_blank hw
  | string hw _ =>
    refine (leads_blank hw).append fun c hc => ?_
    cases hc
    simp [Text.leads]

/-- A mark is whole or not there. -/
theorem Remnant.of_mark {c : UInt8} (h : Remnant (.mark c :: vs) r) : Blank r := by
  cases h with
  | blank hw => exact hw

theorem Remnant.find_none (h : Remnant vs r) (hvs : ∀ t ∈ vs, t.Written) (hn : IsPlainName k) :
    find (quotedName k) r = none := by
  have hend : find (quotedName k) [] = none := by simp [find, quotedName]
  cases h with
  | blank hw =>
    have hblank : (34 : UInt8) ∉ r := fun hq => absurd (hw 34 hq) (by decide)
    rw [← hend, ← List.append_nil r]
    exact find_append_of_not_mem hblank
  | @string ts w s p hw hp =>
    have hblank : (34 : UInt8) ∉ w := fun hq => absurd (hw 34 hq) (by decide)
    have hs : QuotesEscaped s := hvs _ List.mem_cons_self
    have hopen : find (quotedName k) (34 :: (p ++ [])) = none :=
      find_open_string hn (hs.start hp) (by simp)
    rw [List.append_nil] at hopen
    rw [← hopen]
    exact find_append_of_not_mem hblank

end Cutting

section Scan
variable {ts us vs x z : List Token} {text a r inner : Bytes} {ms : Members} {ps : List Piece} {n : ℕ}

/-- No string starts with a quote, so what is read of one is empty only if it is. -/
theorem upToQuote_eq_nil_iff {v : Bytes} (hv : isStringBody v = true) : upToQuote v = [] ↔ v = [] := by
  cases v with
  | nil => exact iff_of_true rfl rfl
  | cons c v =>
    refine iff_of_false ?_ (List.cons_ne_nil c v)
    have hc : c ≠ 34 := by
      rintro rfl
      exact absurd (quotesEscaped_of_isStringBody hv [] v rfl) (by decide)
    unfold upToQuote
    rw [List.takeWhile_cons_of_pos (by simpa using hc)]
    exact List.cons_ne_nil c _

theorem isStringBody_field (hw : ms.Written) (name : String) :
    isStringBody (ms.field name) = true := by
  unfold Members.field
  cases hlookup : ms.lookup (ascii name) with
  | none => rfl
  | some v =>
    obtain ⟨ps, qs, rfl, -⟩ := List.lookup_eq_some_iff.mp hlookup
    exact (hw (ascii name, v) (by simp)).2

/-- A legible object is read as it is written. -/
theorem cameraNode_object (hw : ms.Written) (hl : ms.Legible) (h : Spells (objectTokens ms) inner) :
    cameraNode inner = readNode ms := by
  have hread : ∀ name, ascii name ∈ usedFields → ms.Finds (ascii name) →
      extractStringField inner (ascii name) = upToQuote (ms.field name) := fun name hname hfinds =>
    extractStringField_lookup (isPlainName_used _ (mem_usedNames_of_field hname)) hfinds
      (escaped_members hw) h
  have hnumber := upToQuote_eq_nil_iff (isStringBody_field hw "serial_number")
  unfold cameraNode readNode Document.given
  rw [hread "serial_number" (by decide) (hl.finds _ (by decide)),
    hread "backend" (by decide) (hl.finds _ (by decide)), hread "ip" (by decide) (hl.finds _ (by decide))]
  dsimp only
  by_cases hnone : upToQuote (ms.field "serial_number") = []
  · rw [if_pos hnone, if_pos hnone, hread "serial" (by decide) (hl.finds_serial (hnumber.mp hnone))]
  · rw [if_neg hnone, if_neg hnone]

/-- Where no camera is named in the whole tokens, nothing is found. -/
theorem scanCameras_cut_unnamed (hus : ∀ t ∈ us, t.Quiet (ascii "camera")) (ha : Spells us a)
    (hvs : ∀ t ∈ vs, t.Written) (hr : Remnant vs r) : scanCameras (a ++ r) = [] :=
  scanCameras_unnamed ((find_tokens_skip isPlainName_camera ha hus hr.leads).trans
    (hr.find_none hvs isPlainName_camera))

/-- A camera whose object is not opened before the cut. -/
theorem scanCameras_cut_unopened (hx : ∀ t ∈ x, 123 ∉ t.bytes)
    (ha : Spells (.string (ascii "camera") :: x) a) (hr : Blank r) : scanCameras (a ++ r) = [] := by
  have ha : Spells ([] ++ .string (ascii "camera") :: x) a := ha
  obtain ⟨pos, b, hpos, hbrace, hb⟩ := find_camera_cut (List.forall_mem_nil _) ha r
  have hnone : (123 : UInt8) ∉ b ++ r := by
    intro hmem
    obtain hmem | hmem := List.mem_append.mp hmem
    · obtain hblank | ⟨t, ht, hc⟩ := hb.mem hmem
      · exact absurd hblank (by decide)
      · exact hx t ht hc
    · exact absurd (hr 123 hmem) (by decide)
  refine scanCameras_unopened hpos (hbrace.trans ?_)
  rw [← List.append_nil (b ++ r), find_append_of_not_mem hnone]
  simp [find]

/-- A camera whose object is not closed before the cut. -/
theorem scanCameras_cut_unclosed (ha : Spells (.string (ascii "camera") :: colon :: .mark 123 :: x) a)
    (hr : nested 0 (x.flatMap Token.bytes ++ r) ≠ none) : scanCameras (a ++ r) = [] := by
  have ha : Spells ([] ++ .string (ascii "camera") :: colon :: .mark 123 :: x) a := ha
  obtain ⟨pos, b, hpos, hbrace, hb⟩ := find_camera_cut (List.forall_mem_nil _) ha r
  have hb : Spells ([colon] ++ .mark 123 :: x) b := hb
  obtain ⟨c, hopen, hc⟩ := find_mark (by decide) (by decide) hb
  obtain ⟨m, hm⟩ := Option.ne_none_iff_exists'.mp hr
  have hnested : nested 0 (c ++ r) = some m := by
    rw [nested_append, hc.nested_bytes, ← nested_append, hm]
  exact scanCameras_unclosed hpos (hbrace.trans (find_append hopen)) (matchClosingBrace_open hnested)

/-- A camera whose object is closed is taken, and the scan goes on behind it. -/
theorem scanCameras_cut_closed (hw : ms.Written) (hl : ms.Legible)
    (ha : Spells (.string (ascii "camera") :: colon :: (objectTokens ms ++ z)) a) (r : Bytes) :
    ∃ c, Spells z c ∧ scanCameras (a ++ r) = if (readNode ms).serialNumber ≠ []
      then readNode ms :: scanCameras (c ++ r) else scanCameras (c ++ r) := by
  have ha : Spells ([] ++ .string (ascii "camera") :: colon :: (objectTokens ms ++ z)) a := ha
  obtain ⟨pos, b, hpos, hbrace, hb⟩ := find_camera_cut (List.forall_mem_nil _) ha r
  have hb : Spells ([colon] ++ (objectTokens ms ++ z)) b := hb
  obtain ⟨inner, c, hinner, hc, hscan⟩ :=
    scanCameras_object hpos hbrace (by decide) hl.nested hb
  rw [cameraNode_object hw hl hinner] at hscan
  exact ⟨c, hc, hscan⟩

/-- Of an object that is cut off the scan takes nothing. -/
theorem scanCameras_cut_object (hcut : n < (Piece.object ms).tokens.length)
    (hopen : 3 ≤ n → nested 0 (((bodyTokens ms).take (n - 3)).flatMap Token.bytes ++ r) ≠ none)
    (hvs : ∀ t ∈ (Piece.object ms).tokens ++ vs, t.Written)
    (ha : Spells ((Piece.object ms).tokens.take n) a)
    (hr : Remnant ((Piece.object ms).tokens.drop n ++ vs) r) : scanCameras (a ++ r) = [] := by
  obtain _ | _ | _ | n := n
  · exact scanCameras_cut_unnamed (List.forall_mem_nil _) ha hvs hr
  · exact scanCameras_cut_unopened (List.forall_mem_nil _) ha hr.of_mark
  · exact scanCameras_cut_unopened (x := [colon]) (by decide) ha hr.of_mark
  · have hbody : n ≤ (bodyTokens ms).length := by
      simp only [Piece.tokens, objectTokens, List.length_cons, List.length_append, List.length_nil]
        at hcut
      omega
    have htake : (Piece.object ms).tokens.take (n + 3) =
        .string (ascii "camera") :: colon :: .mark 123 :: (bodyTokens ms).take n := by
      simp only [Piece.tokens, objectTokens, List.take_succ_cons, List.take_append_of_le_length hbody]
    rw [htake] at ha
    exact scanCameras_cut_unclosed ha (hopen (Nat.le_add_left 3 n))

/-- In a cut text the scan takes the camera objects that are still closed. -/
theorem scanCameras_pieces (hw : ∀ p ∈ ps, p.Written) (hl : Legible r n ps)
    (ha : Spells ((ps.flatMap Piece.tokens).take n) a)
    (hr : Remnant ((ps.flatMap Piece.tokens).drop n) r) :
    scanCameras (a ++ r) = ((closedObjects n ps).map readNode).filter
      fun node => node.serialNumber ≠ [] := by
  induction ps generalizing n a with
  | nil =>
    rw [List.flatMap_nil, List.take_nil] at ha
    rw [List.flatMap_nil, List.drop_nil] at hr
    exact scanCameras_cut_unnamed (List.forall_mem_nil _) ha (List.forall_mem_nil _) hr
  | cons p ps ih =>
    obtain ⟨hp, hps⟩ := List.forall_mem_cons.mp hw
    have hts := hp.tokens
    have hrest := written_flatMap hps
    rw [List.flatMap_cons, List.take_append] at ha
    rw [List.flatMap_cons, List.drop_append] at hr
    rcases Nat.lt_or_ge n p.tokens.length with hlt | hge
    · -- the rest of the pieces is cut off
      have hnone : (n - p.tokens.length) = 0 := Nat.sub_eq_zero_of_le hlt.le
      rw [hnone, List.take_zero, List.append_nil] at ha
      rw [hnone, List.drop_zero] at hr
      cases p with
      | gap ts =>
        have hquiet : ∀ t ∈ ts.take n, t.Quiet (ascii "camera") := fun t ht =>
          (hts t (List.mem_of_mem_take ht)).quiet (hl.1 t ht)
        have hvs : ∀ t ∈ ts.drop n ++ ps.flatMap Piece.tokens, t.Written :=
          List.forall_mem_append.mpr ⟨fun t ht => hts t (List.mem_of_mem_drop ht), hrest⟩
        rw [scanCameras_cut_unnamed hquiet ha hvs hr, closedObjects,
          show n - ts.length = 0 from hnone, closedObjects_zero]
        rfl
      | object ms =>
        rw [Legible, if_neg (Nat.not_le_of_lt hlt)] at hl
        rw [scanCameras_cut_object hlt hl (List.forall_mem_append.mpr ⟨hts, hrest⟩) ha hr,
          closedObjects, if_neg (Nat.not_le_of_lt hlt)]
        rfl
    · rw [List.take_of_length_le hge] at ha
      rw [List.drop_eq_nil_of_le hge, List.nil_append] at hr
      cases p with
      | gap ts =>
        obtain ⟨b, c, rfl, hb, hc⟩ := ha.split
        have hquiet : ∀ t ∈ ts, t.Quiet (ascii "camera") := fun t ht =>
          (hts t ht).quiet (hl.1 t (by rwa [List.take_of_length_le (show ts.length ≤ n from hge)]))
        have hleads : Leads (c ++ r) := hc.leads_append
          (fun t ht => (hrest t (List.mem_of_mem_take ht)).marked) hr.leads
        have hfind := find_tokens_skip isPlainName_camera hb hquiet hleads
        rw [List.append_assoc, scanCameras_congr (congrArg (fun o => o.bind (find (ascii "\x7b"))) hfind)]
        exact ih hps hl.2 hc hr
      | object ms =>
        rw [Legible, if_pos hge] at hl
        obtain ⟨c, hc, hscan⟩ := scanCameras_cut_closed hp hl.1 ha r
        rw [hscan, ih hps hl.2 hc hr, closedObjects, if_pos hge, List.map_cons, List.filter_cons]
        simp only [ne_eq, decide_not, Bool.not_eq_true', decide_eq_false_iff_not]

end Scan

section Load
variable {doc v : Bytes} {ms : Members} {os : List Members} {f : File}

/-- The load succeeds exactly where the scan finds a camera, and its cameras are those of the scan. -/
theorem loadHubFileConfig_cameras (m : DataModel) (path doc : Bytes) :
    ((loadHubFileConfig m path (some doc)).2 = none ↔ scanCameras doc ≠ []) ∧
      (loadHubFileConfig m path (some doc)).1.cameras = scanCameras doc := by
  unfold loadHubFileConfig
  dsimp only
  by_cases hdoc : doc = []
  · have hnil : scanCameras [] = [] := scanCameras_unnamed rfl
    rw [if_pos hdoc, hdoc, hnil]
    exact ⟨⟨nofun, fun h => absurd rfl h⟩, rfl⟩
  · rw [if_neg hdoc]
    split_ifs with hnone
    · exact ⟨⟨nofun, fun h => absurd hnone h⟩, rfl⟩
    · exact ⟨⟨fun _ => hnone, fun _ => rfl⟩, rfl⟩

theorem readNode_serialNumber_iff (hw : ms.Written) :
    (readNode ms).serialNumber ≠ [] ↔ HasSerial ms := by
  have hnumber := upToQuote_eq_nil_iff (isStringBody_field hw "serial_number")
  have hserial := upToQuote_eq_nil_iff (isStringBody_field hw "serial")
  unfold readNode Document.given HasSerial
  dsimp only
  by_cases h : ms.field "serial_number" = []
  · rw [if_pos (hnumber.mpr h), ne_eq, hserial]
    simp [h]
  · rw [if_neg (mt hnumber.mp h), ne_eq, hnumber]
    simp [h]

theorem written_of_mem_cameras (h : ms ∈ f.cameras) : ms.Written := by
  obtain ⟨e, he, hms⟩ := List.mem_flatMap.mp h
  have hw := f.written e he
  cases e with
  | note name value => cases hms
  | group name members => cases hms
  | cameras objects => exact hw ms hms

/-- Of a list that was shortened and filtered nothing is missing only if nothing was taken away. -/
theorem filter_map_take_eq_iff {α β : Type*} (g : α → β) (p : β → Bool) (k : ℕ) (l : List α) :
    ((l.take k).map g).filter p = l.map g ↔ l.length ≤ k ∧ ∀ x ∈ l, p (g x) = true := by
  constructor
  · intro h
    have hlength := congrArg List.length h
    have hle := List.length_filter_le p ((l.take k).map g)
    rw [List.length_map, List.length_take] at hle
    rw [List.length_map] at hlength
    have hk : l.length ≤ k := by omega
    rw [List.take_of_length_le hk, List.filter_eq_self] at h
    exact ⟨hk, fun x hx => h (g x) (List.mem_map_of_mem hx)⟩
  · rintro ⟨hk, hall⟩
    rw [List.take_of_length_le hk, List.filter_eq_self]
    intro y hy
    obtain ⟨x, hx, rfl⟩ := List.mem_map.mp hy
    exact hall x hx

namespace File
variable (f : File) (ws : ℕ → Bytes) (n : ℕ)

/-- The camera objects whose closing brace the cut leaves. -/
def closedIn : List Members := closedObjects (whole ws n f.tokens).length f.pieces

def LegibleIn : Prop := Legible (remnant ws n f.tokens) (whole ws n f.tokens).length f.pieces

instance : Decidable (f.LegibleIn ws n) := decidableLegible _ _ _

/-- The nodes of these objects, of those that have a serial number. -/
def camerasLeft : List HubFileCameraNode :=
  ((f.closedIn ws n).map readNode).filter fun node => node.serialNumber ≠ []

end File

theorem loadHubFileConfig_cut (m : DataModel) (path : Bytes) {ws : ℕ → Bytes} {n : ℕ}
    (hl : f.LegibleIn ws n) (hws : ∀ i, Blank (ws i)) :
    ((loadHubFileConfig m path (some ((laid ws f.tokens).take n))).2 = none ↔
        f.camerasLeft ws n ≠ []) ∧
      (loadHubFileConfig m path (some ((laid ws f.tokens).take n))).1.cameras =
        f.camerasLeft ws n := by
  obtain ⟨a, htake, ha, hr⟩ := take_laid hws n f.tokens
  rw [whole_eq_take] at ha
  have htokens := tokens_pieces f
  have hscan := scanCameras_pieces (written_pieces f) hl (by rwa [htokens]) (by rwa [htokens])
  rw [← htake] at hscan
  obtain ⟨hloads, hcameras⟩ := loadHubFileConfig_cameras m path ((laid ws f.tokens).take n)
  exact ⟨hloads.trans (by rw [hscan]; rfl), hcameras.trans hscan⟩

/-- The cameras of a file are all in what is loaded, or nothing is. -/
def File.Complete (f : File) (ws : ℕ → Bytes) (n : ℕ) : Prop :=
  (∀ ms ∈ f.closedIn ws n, ¬ HasSerial ms) ∨
    f.closedIn ws n = f.cameras ∧ ∀ ms ∈ f.cameras, HasSerial ms

theorem closedIn_eq_take (f : File) (ws : ℕ → Bytes) (n : ℕ) :
    f.closedIn ws n = f.cameras.take (f.closedIn ws n).length := by
  have hprefix := closedObjects_prefix (whole ws n f.tokens).length f.pieces
  rw [objects_pieces] at hprefix
  exact List.prefix_iff_eq_take.mp hprefix

theorem loadHubFileConfig_legible_iff (m : DataModel) (path : Bytes) {ws : ℕ → Bytes} {n : ℕ}
    (hl : f.LegibleIn ws n) (hws : ∀ i, Blank (ws i)) :
    ((loadHubFileConfig m path (some ((laid ws f.tokens).take n))).2 = none →
      (loadHubFileConfig m path (some ((laid ws f.tokens).take n))).1.cameras =
        f.cameras.map readNode) ↔ f.Complete ws n := by
  obtain ⟨hloads, hcameras⟩ := loadHubFileConfig_cut m path hl hws
  have hserial : ∀ ms ∈ f.cameras, (readNode ms).serialNumber ≠ [] ↔ HasSerial ms := fun ms hms =>
    readNode_serialNumber_iff (written_of_mem_cameras hms)
  have htake := closedIn_eq_take f ws n
  rw [hloads, hcameras]
  unfold File.camerasLeft File.Complete
  generalize f.closedIn ws n = left at htake ⊢
  have hnone : (left.map readNode).filter (fun node => node.serialNumber ≠ []) = [] ↔
      ∀ ms ∈ left, ¬ HasSerial ms := by
    rw [List.filter_eq_nil_iff]
    simp only [List.forall_mem_map, decide_eq_true_eq]
    refine forall₂_congr fun ms hms => not_congr (hserial ms ?_)
    rw [htake] at hms
    exact List.mem_of_mem_take hms
  have hall : (left.map readNode).filter (fun node => node.serialNumber ≠ []) =
      f.cameras.map readNode ↔ left = f.cameras ∧ ∀ ms ∈ f.cameras, HasSerial ms := by
    rw [htake, filter_map_take_eq_iff]
    simp only [decide_eq_true_eq]
    rw [List.take_eq_self_iff]
    exact and_congr_right fun _ => forall₂_congr hserial
  rw [← hnone, ← hall]
  exact or_iff_not_imp_left.symm

/-- What is loaded of a file that does not mislead the scan has all its cameras exactly when none of
those that the cut leaves closed has a serial number, so that nothing is loaded, or all are closed and
have one. -/
theorem loadHubFileConfig_cut_iff (m : DataModel) (path : Bytes) (f : File) (ws : ℕ → Bytes)
    (hws : ∀ i, Blank (ws i)) (n : ℕ) :
    let loaded := loadHubFileConfig m path (some ((laid ws f.tokens).take n))
    (f.LegibleIn ws n ∧ f.Complete ws n →
        loaded.2 = none → loaded.1.cameras = f.cameras.map readNode) ∧
      (f.LegibleIn ws n → (loaded.2 = none → loaded.1.cameras = f.cameras.map readNode) →
        f.Complete ws n) := by
  constructor
  · rintro ⟨hl, hcomplete⟩
    exact (loadHubFileConfig_legible_iff m path hl hws).mpr hcomplete
  · intro hl hall
    exact (loadHubFileConfig_legible_iff m path hl hws).mp hall

/-- Two cameras, the second one with these members. -/
def twoCameras (second : Members) (h : second.Written) : File where
  entries := [.cameras [[(ascii "serial_number", ascii "LEFT")], second]]
  written := by
    intro e he
    obtain rfl := List.mem_singleton.mp he
    exact List.forall_mem_cons.mpr ⟨by decide +kernel, List.forall_mem_singleton.mpr h⟩

/-- The file of two numbered cameras, cut between them. -/
def numbered : File := twoCameras [(ascii "serial_number", ascii "RIGHT")] (by decide +kernel)

def unnumbered : File := twoCameras [(ascii "ip", ascii "192.168.1.102")] (by decide +kernel)

theorem loadHubFileConfig_cut_iff_numbered :
    let loaded := loadHubFileConfig ⟨32, le_rfl⟩ []
      (some ((laid (fun _ => []) numbered.tokens).take 60))
    (numbered.LegibleIn (fun _ => []) 60 ∧ numbered.Complete (fun _ => []) 60 →
        loaded.2 = none → loaded.1.cameras = numbered.cameras.map readNode) ∧
      (numbered.LegibleIn (fun _ => []) 60 →
        (loaded.2 = none → loaded.1.cameras = numbered.cameras.map readNode) →
          numbered.Complete (fun _ => []) 60) :=
  loadHubFileConfig_cut_iff ⟨32, le_rfl⟩ [] numbered (fun _ => []) (fun _ => by simp [Blank]) 60

/-- A camera is dropped without an error where its number is missing, and where the file ends before
it. -/
theorem camera_dropped :
    ((loadHubFileConfig ⟨32, le_rfl⟩ [] (some (laid (fun _ => []) unnumbered.tokens))).2 = none ∧
      (loadHubFileConfig ⟨32, le_rfl⟩ []
          (some (laid (fun _ => []) unnumbered.tokens))).1.cameras.length = 1 ∧
      unnumbered.cameras.length = 2) ∧
    (loadHubFileConfig ⟨32, le_rfl⟩ [] (some ((laid (fun _ => []) numbered.tokens).take 60))).2 = none ∧
      (loadHubFileConfig ⟨32, le_rfl⟩ []
          (some ((laid (fun _ => []) numbered.tokens).take 60))).1.cameras.length = 1 ∧
      numbered.cameras.length = 2 := by
  have hws : ∀ i : ℕ, Blank ((fun _ => []) i) := fun _ => by simp [Blank]
  have hwhole : laid (fun _ => []) unnumbered.tokens =
      (laid (fun _ => []) unnumbered.tokens).take 1000 := by decide +kernel
  obtain ⟨hloads, hcameras⟩ := loadHubFileConfig_cut ⟨32, le_rfl⟩ [] (f := unnumbered) (n := 1000)
    (by decide +kernel) hws
  obtain ⟨hloads', hcameras'⟩ := loadHubFileConfig_cut ⟨32, le_rfl⟩ [] (f := numbered) (n := 60)
    (by decide +kernel) hws
  rw [← hwhole] at hloads hcameras
  refine ⟨⟨hloads.mpr (by decide +kernel), ?_, rfl⟩, hloads'.mpr (by decide +kernel), ?_, rfl⟩
  · rw [hcameras]
    decide +kernel
  · rw [hcameras']
    decide +kernel

end Load

end Camera3D.Config
