import Camera3D.Text.Search
import Camera3D.Text.Numerals

/-! JSON texts as tokens with any white space between them, and where a mark is found in such a
text. -/
namespace Camera3D.Text

inductive Token where
  | string (s : Bytes)
  | mark (c : UInt8)
  deriving DecidableEq

namespace Token

def bytes : Token → Bytes
  | string s => 34 :: (s ++ [34])
  | mark c => [c]

/-- Brackets, colon and comma. -/
def marks : Bytes := [123, 125, 91, 93, 58, 44]

def Plain : Token → Prop
  | string s => 34 ∉ s ∧ 123 ∉ s ∧ 125 ∉ s
  | mark c => c ∈ marks

instance (t : Token) : Decidable t.Plain := by
  cases t <;> (unfold Plain; infer_instance)

end Token

def blanks : Bytes := [32, 9, 10, 13]

def Blank (w : Bytes) : Prop := ∀ c ∈ w, c ∈ blanks

/-- The text is these tokens, with white space before, between and behind them. -/
inductive Spells : List Token → Bytes → Prop
  | nil {w : Bytes} : Blank w → Spells [] w
  | cons {w text : Bytes} {t : Token} {ts : List Token} :
      Blank w → Spells ts text → Spells (t :: ts) (w ++ (t.bytes ++ text))

variable {ts us pre post : List Token} {t : Token} {text a b w name pat : Bytes} {c : UInt8}

theorem Spells.of_nil : Spells [] [] := .nil (by simp [Blank])

theorem Spells.of_cons (t : Token) (h : Spells ts text) : Spells (t :: ts) (t.bytes ++ text) :=
  .cons (w := []) (by simp [Blank]) h

/-- The tokens with the same white space before each and behind the last. -/
def spaced (w : Bytes) : List Token → Bytes
  | [] => w
  | t :: ts => w ++ (t.bytes ++ spaced w ts)

theorem spells_spaced (hw : Blank w) : ∀ ts, Spells ts (spaced w ts)
  | [] => .nil hw
  | _ :: ts => .cons hw (spells_spaced hw ts)

theorem Spells.blank_append (hw : Blank w) (h : Spells ts text) : Spells ts (w ++ text) := by
  cases h with
  | nil hblank =>
    apply Spells.nil
    intro c hc
    exact (List.mem_append.mp hc).elim (hw c) (hblank c)
  | cons hblank h =>
    rw [← List.append_assoc]
    apply Spells.cons _ h
    intro c hc
    exact (List.mem_append.mp hc).elim (hw c) (hblank c)

theorem Spells.append (ha : Spells ts a) (hb : Spells us b) : Spells (ts ++ us) (a ++ b) := by
  induction ha with
  | nil hw => exact hb.blank_append hw
  | cons hw _ ih =>
    rw [List.append_assoc, List.append_assoc]
    exact Spells.cons hw ih

theorem Spells.split (h : Spells (ts ++ us) text) :
    ∃ a b, text = a ++ b ∧ Spells ts a ∧ Spells us b := by
  induction ts generalizing text with
  | nil => exact ⟨[], text, rfl, .of_nil, h⟩
  | cons t ts ih =>
    cases h with
    | cons hw h =>
      obtain ⟨a, b, rfl, ha, hb⟩ := ih h
      exact ⟨_, b, by simp only [List.append_assoc], .cons hw ha, hb⟩

theorem Spells.mem (h : Spells ts text) (hc : c ∈ text) : c ∈ blanks ∨ ∃ t ∈ ts, c ∈ t.bytes := by
  induction h with
  | nil hw => exact .inl (hw c hc)
  | cons hw _ ih =>
    rcases List.mem_append.mp hc with hc | hc
    · exact .inl (hw c hc)
    · rcases List.mem_append.mp hc with hc | hc
      · exact .inr ⟨_, List.mem_cons_self, hc⟩
      · obtain hb | ⟨t, ht, hc⟩ := ih hc
        · exact .inl hb
        · exact .inr ⟨t, List.mem_cons_of_mem _ ht, hc⟩

/-- What a text of tokens starts with. -/
def leads : Bytes := 34 :: (blanks ++ Token.marks)

/-- A name of the format: it starts like nothing that can follow a string. -/
structure IsName (name : Bytes) : Prop where
  ne_nil : name ≠ []
  quote : 34 ∉ name
  head : ∀ c ∈ leads, name.head? ≠ some c

instance (name : Bytes) : Decidable (IsName name) :=
  decidable_of_iff (name ≠ [] ∧ 34 ∉ name ∧ ∀ c ∈ leads, name.head? ≠ some c)
    ⟨fun ⟨hne, hq, hh⟩ => ⟨hne, hq, hh⟩, fun h => ⟨h.ne_nil, h.quote, h.head⟩⟩

theorem IsName.not_starts (hn : IsName name) (hc : ∀ c, text.head? = some c → c ∈ leads) :
    ¬ name ++ pat <+: text := by
  obtain ⟨d, name', rfl⟩ := List.exists_cons_of_ne_nil hn.ne_nil
  intro hp
  cases text with
  | nil => simp at hp
  | cons e text =>
    have hde := (List.cons_prefix_cons.mp hp).1
    exact hn.head e (hc e rfl) (by simp [hde])

/-- The quoted name as it is searched for. -/
def quotedName (name : Bytes) : Bytes := 34 :: (name ++ [34])

/-- The first place of a mark that no token before it holds. -/
theorem Spells.at_mark (hc : c ∉ blanks) (hnot : ∀ t ∈ pre, c ∉ t.bytes)
    (h : Spells (pre ++ Token.mark c :: post) text) :
    ∃ a rest, text = a ++ c :: rest ∧ c ∉ a ∧ Spells pre a ∧ Spells post rest := by
  obtain ⟨a, b, rfl, ha, hb⟩ := h.split
  cases hb with
  | @cons w rest _ _ hw hpost =>
    have haw : Spells pre (a ++ w) := by simpa using ha.append (.nil hw)
    refine ⟨a ++ w, rest, by simp [Token.bytes], ?_, haw, hpost⟩
    intro hmem
    obtain hblank | ⟨t, ht, hct⟩ := haw.mem hmem
    · exact hc hblank
    · exact hnot t ht hct

theorem find_mark (hc : c ∉ blanks) (hnot : ∀ t ∈ pre, c ∉ t.bytes)
    (h : Spells (pre ++ Token.mark c :: post) text) :
    ∃ rest, find [c] text = some (c :: rest) ∧ Spells post rest := by
  obtain ⟨a, rest, rfl, hca, -, hpost⟩ := h.at_mark hc hnot
  refine ⟨rest, ?_, hpost⟩
  rw [find_append_of_not_mem hca]
  exact find_of_starts ⟨rest, rfl⟩

end Camera3D.Text
