import Camera3D.Config.Loading
import Camera3D.Text.Strings

/-! Files of the template's shape with any JSON strings in them, and the strings that the loader's
searches pass over: the braces in them are matched, and they do not end in a name it looks for. -/
namespace Camera3D.Config

open Camera3D.Text

/-- The names that the loader looks for in an object. -/
def usedFields : List Bytes := fieldNames ++ [ascii "serial"]

def usedNames : List Bytes := topNames ++ usedFields

/-- The text of a note that no search stops at. -/
def Inert (v : Bytes) : Prop := nested 0 v = some 0 ∧ ∀ k ∈ usedNames, ¬ 34 :: k <:+ 34 :: v

instance : DecidablePred Inert := fun v =>
  inferInstanceAs (Decidable (nested 0 v = some 0 ∧ ∀ k ∈ usedNames, ¬ 34 :: k <:+ 34 :: v))

/-- Names and values are JSON strings. -/
def Members.Written (ms : Members) : Prop :=
  ∀ p ∈ ms, isStringBody p.1 = true ∧ isStringBody p.2 = true

instance : DecidablePred Members.Written := fun ms =>
  inferInstanceAs (Decidable (∀ p ∈ ms, isStringBody p.1 = true ∧ isStringBody p.2 = true))

def Members.Inert (ms : Members) : Prop :=
  ∀ p ∈ ms, (p.1 ∈ usedFields ∨ Config.Inert p.1) ∧ Config.Inert p.2

instance : DecidablePred Members.Inert := fun ms =>
  inferInstanceAs (Decidable (∀ p ∈ ms, (p.1 ∈ usedFields ∨ Config.Inert p.1) ∧ Config.Inert p.2))

namespace Entry

def Written : Entry → Prop
  | note name value => Members.Written [(name, value)]
  | group name members => name ∈ sectionNames ∧ members.Written
  | cameras objects => ∀ ms ∈ objects, ms.Written

instance : DecidablePred Written
  | note name value => inferInstanceAs (Decidable (Members.Written [(name, value)]))
  | group name members => inferInstanceAs (Decidable (name ∈ sectionNames ∧ members.Written))
  | cameras objects => inferInstanceAs (Decidable (∀ ms ∈ objects, ms.Written))

def Inert : Entry → Prop
  | note name value => Members.Inert [(name, value)]
  | group _ members => members.Inert
  | cameras objects => ∀ ms ∈ objects, ms.Inert

instance : DecidablePred Inert
  | note name value => inferInstanceAs (Decidable (Members.Inert [(name, value)]))
  | group _ members => inferInstanceAs (Decidable members.Inert)
  | cameras objects => inferInstanceAs (Decidable (∀ ms ∈ objects, ms.Inert))

end Entry

/-- A JSON file of the template's shape: sections, camera objects and notes, in any order. -/
structure File where
  entries : List Entry
  written : ∀ e ∈ entries, e.Written

namespace File

def tokens (f : File) : List Token :=
  .mark 123 :: (joined (f.entries.map Entry.tokens) ++ [.mark 125])

def Inert (f : File) : Prop := ∀ e ∈ f.entries, e.Inert

instance : DecidablePred Inert := fun f =>
  inferInstanceAs (Decidable (∀ e ∈ f.entries, e.Inert))

def field (f : File) (sec name : String) : Bytes := fieldOf f.entries sec name

def cameras (f : File) : List Members := f.entries.flatMap Entry.objects

end File

/-- The node that a camera object is read as. -/
def readNode (ms : Members) : HubFileCameraNode where
  ip := upToQuote (ms.field "ip")
  serialNumber := Document.given (upToQuote (ms.field "serial_number")) (upToQuote (ms.field "serial"))
  backendId := Document.given (upToQuote (ms.field "backend")) (ascii "daheng")

variable {ts : List Token} {t : Token} {k v n : Bytes} {ms : Members} {e : Entry} {f : File}

/-- A token in which every search goes on, unless it is the name that is searched for. -/
def Harmless : Token → Prop
  | .string s => QuotesEscaped s ∧ nested 0 s = some 0 ∧ ∀ k ∈ usedNames, 34 :: k <:+ 34 :: s → s = k
  | .mark c => c ∈ Token.marks

theorem Harmless.quiet (h : Harmless t) (hk : k ∈ usedNames) (hne : t ≠ .string k) : t.Quiet k := by
  cases t with
  | string s => exact ⟨h.1, fun hends => hne (congrArg Token.string (h.2.2 k hk hends))⟩
  | mark c => exact h

theorem quiet_of_not_mem (hts : ∀ t ∈ ts, Harmless t) (hk : k ∈ usedNames)
    (hnot : Token.string k ∉ ts) : ∀ t ∈ ts, t.Quiet k := by
  intro t ht
  exact (hts t ht).quiet hk fun heq => hnot (heq ▸ ht)

theorem harmless_inert (hw : isStringBody v = true) (hv : Inert v) : Harmless (.string v) :=
  ⟨quotesEscaped_of_isStringBody hw, hv.1, fun k hk hends => absurd hends (hv.2 k hk)⟩

theorem isPlainName_used : ∀ k ∈ usedNames, IsPlainName k := by decide +kernel

theorem used_shape : ∀ k ∈ usedNames, isStringBody k = true ∧ nested 0 k = some 0 := by
  decide +kernel

theorem harmless_used (hk : k ∈ usedNames) : Harmless (.string k) := by
  have hends : ∀ k ∈ usedNames, ∀ j ∈ usedNames, 34 :: j <:+ 34 :: k → k = j := by
    decide +kernel
  exact ⟨quotesEscaped_of_isStringBody (used_shape k hk).1, (used_shape k hk).2, hends k hk⟩

theorem harmless_cameras : Harmless (.string (ascii "cameras")) := by
  have hends : ∀ k ∈ usedNames, 34 :: k <:+ 34 :: ascii "cameras" → ascii "cameras" = k := by
    decide +kernel
  exact ⟨quotesEscaped_of_isStringBody (by decide +kernel), by decide +kernel, hends⟩

theorem mem_usedNames_of_field (h : k ∈ usedFields) : k ∈ usedNames := List.mem_append_right _ h

theorem mem_usedNames_of_section (h : k ∈ sectionNames) : k ∈ usedNames :=
  List.mem_append_left _ (List.mem_cons_of_mem _ h)

theorem harmless_name (hw : isStringBody n = true) (hn : n ∈ usedFields ∨ Inert n) :
    Harmless (.string n) :=
  hn.elim (fun h => harmless_used (mem_usedNames_of_field h)) (harmless_inert hw)

/-- An inert string is none of the names. -/
theorem Inert.ne (h : Inert v) (hk : k ∈ usedNames) : v ≠ k := by
  rintro rfl
  exact h.2 v hk List.suffix_rfl

theorem harmless_member {p : Bytes × Bytes} (hw : isStringBody p.1 = true ∧ isStringBody p.2 = true)
    (hi : (p.1 ∈ usedFields ∨ Inert p.1) ∧ Inert p.2) :
    Harmless (.string p.1) ∧ Harmless (.string p.2) :=
  ⟨harmless_name hw.1 hi.1, harmless_inert hw.2 hi.2⟩

theorem harmless_mark : ∀ c ∈ Token.marks, Harmless (.mark c) := fun _ hc => hc

theorem written_members (hw : e.Written) : ∀ ms ∈ e.members, ms.Written := by
  cases e with
  | note name value => exact List.forall_mem_singleton.mpr hw
  | group name members => exact List.forall_mem_singleton.mpr hw.2
  | cameras objects => exact hw

theorem inert_members (hi : e.Inert) : ∀ ms ∈ e.members, ms.Inert := by
  cases e with
  | note name value => exact List.forall_mem_singleton.mpr hi
  | group name members => exact List.forall_mem_singleton.mpr hi
  | cameras objects => exact hi

theorem harmless_entryTokens (hw : e.Written) (hi : e.Inert) : ∀ t ∈ e.tokens, Harmless t := by
  refine forall_entryTokens harmless_mark harmless_cameras (harmless_used (by decide)) ?_
    fun ms hms p hp => harmless_member (written_members hw ms hms p hp) (inert_members hi ms hms p hp)
  rintro n ms rfl
  exact harmless_used (mem_usedNames_of_section hw.1)

theorem harmless_tokens (hi : f.Inert) : ∀ t ∈ f.tokens, Harmless t :=
  forall_tokens harmless_mark fun e he => harmless_entryTokens (f.written e he) (hi e he)

end Camera3D.Config
