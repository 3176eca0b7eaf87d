import Camera3D.Config.Sections

/-! A file in pieces, as the camera scan goes over them, and the pieces that do not mislead it. -/
namespace Camera3D.Config

open Camera3D.Text

def cameraFields : List Bytes := ["ip", "serial_number", "backend"].map ascii

/-- A camera object in which every brace has its partner and every field is found where it stands. -/
structure Members.Legible (ms : Members) : Prop where
  nested : nested 0 ((bodyTokens ms).flatMap Token.bytes) = some 0
  finds : ∀ k ∈ cameraFields, ms.Finds k
  finds_serial : ms.field "serial_number" = [] → ms.Finds (ascii "serial")

instance : DecidablePred Members.Legible := fun ms =>
  decidable_of_iff (nested 0 ((bodyTokens ms).flatMap Token.bytes) = some 0 ∧
      (∀ k ∈ cameraFields, ms.Finds k) ∧ (ms.field "serial_number" = [] → ms.Finds (ascii "serial")))
    ⟨fun ⟨hn, hf, hs⟩ => ⟨hn, hf, hs⟩, fun h => ⟨h.nested, h.finds, h.finds_serial⟩⟩

/-- What stands outside of the camera objects, and a camera object with its name. -/
inductive Piece where
  | gap (ts : List Token)
  | object (ms : Members)

namespace Piece

def tokens : Piece → List Token
  | gap ts => ts
  | object ms => .string (ascii "camera") :: colon :: objectTokens ms

def Written : Piece → Prop
  | gap ts => ∀ t ∈ ts, t.Written
  | object ms => ms.Written

def object? : Piece → Option Members
  | gap _ => none
  | object ms => some ms

/-- The scan is not misled here. -/
def Clear : Piece → Prop
  | gap ts => ∀ t ∈ ts, ¬ t.Ends (ascii "camera")
  | object ms => ms.Legible

end Piece

/-- The pieces of several parts, with commas between the parts. -/
def parted : List (List Piece) → List Piece
  | [] => []
  | [p] => p
  | p :: q :: ps => p ++ .gap [comma] :: parted (q :: ps)

def cameraPieces (ms : Members) : List Piece := [.gap [.mark 123], .object ms, .gap [.mark 125]]

def Entry.pieces : Entry → List Piece
  | cameras objects => .gap [.string (ascii "cameras"), colon, .mark 91] ::
      (parted (objects.map cameraPieces) ++ [.gap [.mark 93]])
  | e => [.gap e.tokens]

def File.pieces (f : File) : List Piece :=
  .gap [.mark 123] :: (parted (f.entries.map Entry.pieces) ++ [.gap [.mark 125]])

/-- The camera objects that end within the first `n` tokens. -/
def closedObjects : ℕ → List Piece → List Members
  | _, [] => []
  | n, .gap ts :: ps => closedObjects (n - ts.length) ps
  | n, .object ms :: ps =>
    let size := (Piece.object ms).tokens.length
    if size ≤ n then ms :: closedObjects (n - size) ps else []

/-- The scan is not misled in the first `n` tokens with this remnant behind them: the name of a camera
stands only before one, the objects that end are legible, and nothing ends the one that is cut off. -/
def Legible (r : Bytes) : ℕ → List Piece → Prop
  | _, [] => True
  | n, .gap ts :: ps => (∀ t ∈ ts.take n, ¬ t.Ends (ascii "camera")) ∧ Legible r (n - ts.length) ps
  | n, .object ms :: ps =>
    let size := (Piece.object ms).tokens.length
    if size ≤ n then ms.Legible ∧ Legible r (n - size) ps
    else 3 ≤ n → nested 0 (((bodyTokens ms).take (n - 3)).flatMap Token.bytes ++ r) ≠ none

instance decidableLegible (r : Bytes) (n : ℕ) : DecidablePred (Legible r n)
  | [] => inferInstanceAs (Decidable True)
  | .gap ts :: ps =>
    have := decidableLegible r (n - ts.length) ps
    inferInstanceAs (Decidable ((∀ t ∈ ts.take n, ¬ t.Ends (ascii "camera")) ∧
      Legible r (n - ts.length) ps))
  | .object ms :: ps =>
    have := decidableLegible r (n - (Piece.object ms).tokens.length) ps
    inferInstanceAs (Decidable (if (Piece.object ms).tokens.length ≤ n
      then ms.Legible ∧ Legible r (n - (Piece.object ms).tokens.length) ps
      else 3 ≤ n → nested 0 (((bodyTokens ms).take (n - 3)).flatMap Token.bytes ++ r) ≠ none))

section Whole
variable {P : Piece → Prop} {p : Piece} {ps : List Piece} {parts : List (List Piece)} {n : ℕ}
  {e : Entry} {f : File} {ms : Members}

theorem mem_parted (h : p ∈ parted parts) : p = .gap [comma] ∨ ∃ part ∈ parts, p ∈ part := by
  induction parts with
  | nil => cases h
  | cons part parts ih =>
    cases parts with
    | nil => exact .inr ⟨part, List.mem_cons_self, h⟩
    | cons other parts =>
      rcases List.mem_append.mp h with h | h
      · exact .inr ⟨part, List.mem_cons_self, h⟩
      · rcases List.mem_cons.mp h with rfl | h
        · exact .inl rfl
        · obtain rfl | ⟨other', hmem, hp⟩ := ih h
          · exact .inl rfl
          · exact .inr ⟨other', List.mem_cons_of_mem part hmem, hp⟩

/-- The pieces of the parts, put together, are the parts with commas between them. -/
theorem flatMap_parted (parts : List (List Piece)) :
    (parted parts).flatMap Piece.tokens = joined (parts.map (·.flatMap Piece.tokens)) := by
  induction parts with
  | nil => rfl
  | cons part parts ih =>
    cases parts with
    | nil => rfl
    | cons other parts =>
      rw [parted, List.flatMap_append, List.flatMap_cons, ih]
      rfl

theorem filterMap_parted (parts : List (List Piece)) :
    (parted parts).filterMap Piece.object? = parts.flatMap (·.filterMap Piece.object?) := by
  induction parts with
  | nil => rfl
  | cons part parts ih =>
    cases parts with
    | nil =>
      rw [parted, List.flatMap_cons, List.flatMap_nil, List.append_nil]
    | cons other parts =>
      rw [parted, List.filterMap_append, List.flatMap_cons, List.filterMap_cons_none rfl, ih]

theorem tokens_entryPieces (e : Entry) : e.pieces.flatMap Piece.tokens = e.tokens := by
  cases e with
  | note name value => exact List.append_nil _
  | group name members => exact List.append_nil _
  | cameras objects =>
    have hcamera : ∀ ms, (cameraPieces ms).flatMap Piece.tokens = cameraTokens ms := fun ms => by
      simp [cameraPieces, cameraTokens, Piece.tokens]
    have hobjects : (objects.map cameraPieces).map (·.flatMap Piece.tokens) =
        objects.map cameraTokens := by
      rw [List.map_map]
      exact List.map_congr_left fun ms _ => hcamera ms
    rw [Entry.pieces, List.flatMap_cons, List.flatMap_append, flatMap_parted, hobjects]
    rfl

theorem tokens_pieces (f : File) : f.pieces.flatMap Piece.tokens = f.tokens := by
  have hentries : (f.entries.map Entry.pieces).map (·.flatMap Piece.tokens) =
      f.entries.map Entry.tokens := by
    rw [List.map_map]
    exact List.map_congr_left fun e _ => tokens_entryPieces e
  rw [File.pieces, List.flatMap_cons, List.flatMap_append, flatMap_parted, hentries]
  rfl

theorem objects_entryPieces (e : Entry) : e.pieces.filterMap Piece.object? = e.objects := by
  cases e with
  | note name value => rfl
  | group name members => rfl
  | cameras objects =>
    have hobjects : (objects.map cameraPieces).flatMap (·.filterMap Piece.object?) = objects := by
      rw [List.flatMap_map]
      exact List.flatMap_singleton' objects
    rw [Entry.pieces, List.filterMap_cons_none rfl, List.filterMap_append, filterMap_parted, hobjects]
    exact List.append_nil objects

theorem objects_pieces (f : File) : f.pieces.filterMap Piece.object? = f.cameras := by
  have hentries : (f.entries.map Entry.pieces).flatMap (·.filterMap Piece.object?) = f.cameras := by
    rw [List.flatMap_map]
    exact congrArg (f.entries.flatMap ·) (funext objects_entryPieces)
  rw [File.pieces, List.filterMap_cons_none rfl, List.filterMap_append, filterMap_parted, hentries]
  exact List.append_nil f.cameras

theorem written_string {v : Bytes} (hv : isStringBody v = true) : (Token.string v).Written :=
  quotesEscaped_of_isStringBody hv

theorem written_tokens (f : File) : ∀ t ∈ f.tokens, t.Written := by
  have hmark : ∀ c ∈ Token.marks, (Token.mark c).Written := fun _ hc => hc
  refine forall_tokens hmark fun e he => forall_entryTokens hmark (written_string (by decide +kernel))
    (written_string (by decide +kernel)) ?_ fun ms hms p hp => ?_
  · rintro n ms rfl
    exact written_string (used_shape n (mem_usedNames_of_section (f.written _ he).1)).1
  · obtain ⟨hname, hvalue⟩ := written_members (f.written e he) ms hms p hp
    exact ⟨written_string hname, written_string hvalue⟩

theorem Piece.Written.tokens (hp : p.Written) : ∀ t ∈ p.tokens, t.Written := by
  cases p with
  | gap ts => exact hp
  | object ms =>
    have hmark : ∀ c ∈ Token.marks, (Token.mark c).Written := fun _ hc => hc
    have hcolon : colon.Written := hmark 58 (by decide)
    exact List.forall_mem_cons.mpr ⟨written_string (by decide +kernel), List.forall_mem_cons.mpr
      ⟨hcolon, forall_objectTokens hmark fun q hq =>
        ⟨written_string (hp q hq).1, written_string (hp q hq).2⟩⟩⟩

theorem written_flatMap (hps : ∀ p ∈ ps, p.Written) : ∀ t ∈ ps.flatMap Piece.tokens, t.Written := by
  intro t ht
  obtain ⟨p, hp, ht⟩ := List.mem_flatMap.mp ht
  exact (hps p hp).tokens t ht

/-- A piece of a file has its strings from there. -/
theorem written_pieces (f : File) : ∀ p ∈ f.pieces, p.Written := by
  intro p hp
  cases p with
  | gap ts =>
    intro t ht
    apply written_tokens f t
    rw [← tokens_pieces]
    exact List.mem_flatMap.mpr ⟨_, hp, ht⟩
  | object ms =>
    have hmem : ms ∈ f.cameras := by
      rw [← objects_pieces]
      exact List.mem_filterMap.mpr ⟨_, hp, rfl⟩
    obtain ⟨e, he, hms⟩ := List.mem_flatMap.mp hmem
    have hw := f.written e he
    cases e with
    | note name value => cases hms
    | group name members => cases hms
    | cameras objects => exact hw ms hms

theorem closedObjects_zero (ps : List Piece) : closedObjects 0 ps = [] := by
  induction ps with
  | nil => rfl
  | cons p ps ih =>
    cases p with
    | gap ts =>
      rw [closedObjects, Nat.zero_sub]
      exact ih
    | object ms => rfl

/-- The objects that end are the first ones. -/
theorem closedObjects_prefix (n : ℕ) (ps : List Piece) :
    closedObjects n ps <+: ps.filterMap Piece.object? := by
  induction ps generalizing n with
  | nil => exact List.nil_prefix
  | cons p ps ih =>
    cases p with
    | gap ts => exact ih _
    | object ms =>
      rw [closedObjects, List.filterMap_cons_some (rfl : (Piece.object ms).object? = some ms)]
      split_ifs
      · exact List.cons_prefix_cons.mpr ⟨rfl, ih _⟩
      · exact List.nil_prefix

theorem closedObjects_whole (h : (ps.flatMap Piece.tokens).length ≤ n) :
    closedObjects n ps = ps.filterMap Piece.object? := by
  induction ps generalizing n with
  | nil => rfl
  | cons p ps ih =>
    rw [List.flatMap_cons, List.length_append] at h
    cases p with
    | gap ts => exact ih (Nat.le_sub_of_add_le' h)
    | object ms =>
      have hobject : (Piece.object ms).object? = some ms := rfl
      rw [closedObjects, List.filterMap_cons_some hobject, if_pos (Nat.le_of_add_right_le h),
        ih (Nat.le_sub_of_add_le' h)]

theorem legible_of_clear {r : Bytes} (h : ∀ p ∈ ps, p.Clear)
    (hn : (ps.flatMap Piece.tokens).length ≤ n) : Legible r n ps := by
  induction ps generalizing n with
  | nil => trivial
  | cons p ps ih =>
    obtain ⟨hp, hrest⟩ := List.forall_mem_cons.mp h
    rw [List.flatMap_cons, List.length_append] at hn
    have hps := ih hrest (Nat.le_sub_of_add_le' hn)
    cases p with
    | gap ts => exact ⟨fun t ht => hp t (List.mem_of_mem_take ht), hps⟩
    | object ms =>
      rw [Legible, if_pos (Nat.le_of_add_right_le hn)]
      exact ⟨hp, hps⟩

theorem legible_inert (hw : ms.Written) (hi : ms.Inert) : ms.Legible where
  nested := nested_level (level_bodyTokens hw hi)
  finds := fun k hk => finds_inert hw hi ((by decide : ∀ k ∈ cameraFields, k ∈ usedFields) k hk)
  finds_serial := fun _ => finds_inert hw hi (by decide)

/-- Outside of the camera objects inert strings do not end in the name of a camera. -/
theorem not_ends_camera {ts : List Token} (hts : ∀ t ∈ ts, Harmless t)
    (hnot : Token.string (ascii "camera") ∉ ts) : ∀ t ∈ ts, ¬ t.Ends (ascii "camera") := by
  intro t ht hends
  cases t with
  | string s => exact (quiet_of_not_mem hts (by decide) hnot _ ht).2 hends
  | mark c => exact hends

theorem clear_entryPieces (hw : e.Written) (hi : e.Inert) : ∀ p ∈ e.pieces, p.Clear := by
  have htop : ascii "camera" ∈ topNames := by decide
  have hts := harmless_entryTokens hw hi
  cases e with
  | note name value =>
    exact List.forall_mem_singleton.mpr (not_ends_camera hts (string_not_mem_note hi htop))
  | group name members =>
    have hother : ∀ n ∈ sectionNames, ascii "camera" ≠ n := by decide
    refine List.forall_mem_singleton.mpr (not_ends_camera hts fun h => ?_)
    have hmem : Token.string (ascii "camera") ∈ objectTokens members := by
      simpa [Entry.tokens, colon, hother name hw.1] using h
    exact string_not_mem_objectTokens hi htop hmem
  | cameras objects =>
    intro p hp
    rcases List.mem_cons.mp hp with rfl | hp
    · exact (by decide +kernel : ∀ t ∈ [Token.string (ascii "cameras"), colon, .mark 91],
        ¬ t.Ends (ascii "camera"))
    · rcases List.mem_append.mp hp with hp | hp
      · obtain rfl | ⟨part, hpart, hp⟩ := mem_parted hp
        · exact List.forall_mem_singleton.mpr id
        · obtain ⟨ms, hms, rfl⟩ := List.mem_map.mp hpart
          simp only [cameraPieces, List.mem_cons, List.not_mem_nil, or_false] at hp
          obtain rfl | rfl | rfl := hp
          · exact List.forall_mem_singleton.mpr id
          · exact legible_inert (hw ms hms) (hi ms hms)
          · exact List.forall_mem_singleton.mpr id
      · obtain rfl := List.mem_singleton.mp hp
        exact List.forall_mem_singleton.mpr id

theorem clear_pieces (hi : f.Inert) : ∀ p ∈ f.pieces, p.Clear := by
  intro p hp
  rcases List.mem_cons.mp hp with rfl | hp
  · exact List.forall_mem_singleton.mpr id
  · rcases List.mem_append.mp hp with hp | hp
    · obtain rfl | ⟨part, hpart, hp⟩ := mem_parted hp
      · exact List.forall_mem_singleton.mpr id
      · obtain ⟨e, he, rfl⟩ := List.mem_map.mp hpart
        exact clear_entryPieces (f.written e he) (hi e he) p hp
    · obtain rfl := List.mem_singleton.mp hp
      exact List.forall_mem_singleton.mpr id

end Whole

end Camera3D.Config
