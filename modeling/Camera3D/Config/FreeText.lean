import Camera3D.Config.Cut
import Camera3D.Config.Faithful

/-! Free text in a file: the notes whose text may be anything that is inert, and what the loader
makes of it. -/
namespace Camera3D.Config

open Camera3D.Text

/-- A member that the loader does not use gets this value. -/
inductive Members.Replaced (v : Bytes) : Members → Members → Prop
  | member (before behind : Members) {name value : Bytes} : name ∉ usedNames →
      Members.Replaced v (before ++ (name, value) :: behind) (before ++ (name, v) :: behind)

inductive Entry.Replaced (v : Bytes) : Entry → Entry → Prop
  | note {name value : Bytes} : name ∉ usedNames →
      Entry.Replaced v (.note name value) (.note name v)
  | group {name : Bytes} {ms ms' : Members} : ms.Replaced v ms' →
      Entry.Replaced v (.group name ms) (.group name ms')
  | cameras (before behind : List Members) {ms ms' : Members} : ms.Replaced v ms' →
      Entry.Replaced v (.cameras (before ++ ms :: behind)) (.cameras (before ++ ms' :: behind))

/-- One note of the file gets this text, at the top, in a section or in a camera object. -/
inductive File.Replaced (v : Bytes) : File → File → Prop
  | entry {f f' : File} (before behind : List Entry) {e e' : Entry} :
      f.entries = before ++ e :: behind → f'.entries = before ++ e' :: behind →
      e.Replaced v e' → File.Replaced v f f'

section Fields
variable {text : Bytes}

def comIndexOf (m : DataModel) (com : Bytes) : UInt32 :=
  if com = [] then 0 else UInt32.ofNat (strtoul m com)

def framesOf (m : DataModel) (fph : Bytes) : UInt32 :=
  if fph = [] then 24
  else if 1 ≤ strtoul m fph ∧ strtoul m fph ≤ 4096 then UInt32.ofNat (strtoul m fph) else 24

/-- What the loader makes of the fields that it reads. -/
def configOf (m : DataModel) (field : String → String → Bytes) (cameras : List HubFileCameraNode) :
    HubFileConfig where
  listenAddress := Document.given (field "hub" "listen") (ascii "0.0.0.0:50051")
  projectorComIndex := comIndexOf m (field "projector" "com_index")
  framesPerHardwareTrigger := framesOf m (field "capture" "frames_per_hardware_trigger")
  cameras := cameras
  discovery :=
    { enable := discoveryEnable (field "discovery" "enable")
      udpPort := discoveryPort m (field "discovery" "udp_port") 55431
      intervalMs := discoveryInterval m (field "discovery" "interval_ms") 1500
      advertiseHost := field "discovery" "advertise_host"
      deviceModel := field "discovery" "device_model"
      deviceSerial := field "discovery" "device_serial" }

/-- The fields that it reads, with their sections. -/
def sectionFields : List (String × String) :=
  [("hub", "listen"), ("projector", "com_index"), ("capture", "frames_per_hardware_trigger"),
    ("discovery", "enable"), ("discovery", "udp_port"), ("discovery", "interval_ms"),
    ("discovery", "advertise_host"), ("discovery", "device_model"), ("discovery", "device_serial")]

theorem configOf_congr {m : DataModel} {field field' : String → String → Bytes}
    {cameras : List HubFileCameraNode}
    (h : ∀ p ∈ sectionFields, field p.1 p.2 = field' p.1 p.2) :
    configOf m field cameras = configOf m field' cameras := by
  have hfield : ∀ sec name, (sec, name) ∈ sectionFields → field sec name = field' sec name :=
    fun sec name hmem => h (sec, name) hmem
  unfold configOf
  rw [hfield "hub" "listen" (by decide), hfield "projector" "com_index" (by decide),
    hfield "capture" "frames_per_hardware_trigger" (by decide),
    hfield "discovery" "enable" (by decide), hfield "discovery" "udp_port" (by decide),
    hfield "discovery" "interval_ms" (by decide), hfield "discovery" "advertise_host" (by decide),
    hfield "discovery" "device_model" (by decide), hfield "discovery" "device_serial" (by decide)]

/-- A field of a section as the text has it. -/
def fieldIn (text : Bytes) (sec name : String) : Bytes :=
  extractStringField (extractObjectForKey text (ascii sec)) (ascii name)

theorem loadProjector_field (m : DataModel) (doc : Bytes) {out : HubFileConfig}
    (hout : out.projectorComIndex = 0) :
    loadProjector m doc out =
      { out with projectorComIndex := comIndexOf m (fieldIn doc "projector" "com_index") } := by
  unfold loadProjector comIndexOf fieldIn
  by_cases hobj : extractObjectForKey doc (ascii "projector") = []
  · simp [hobj, extractStringField_nil, ← hout]
  · simp only [hobj, if_false]
    split_ifs
    · rw [← hout]
    · rfl

theorem loadCapture_field (m : DataModel) (doc : Bytes) {out : HubFileConfig}
    (hout : out.framesPerHardwareTrigger = 24) :
    loadCapture m doc out = { out with
      framesPerHardwareTrigger := framesOf m (fieldIn doc "capture" "frames_per_hardware_trigger") } := by
  unfold loadCapture framesOf fieldIn
  by_cases hobj : extractObjectForKey doc (ascii "capture") = []
  · simp [hobj, extractStringField_nil, ← hout]
  · simp only [hobj, if_false]
    split_ifs
    · rw [← hout]
    · rfl
    · rw [← hout]

theorem loadHubFileConfig_fst (m : DataModel) (path : Bytes) (htext : text ≠ []) :
    (loadHubFileConfig m path (some text)).1 = configOf m (fieldIn text) (scanCameras text) := by
  unfold loadHubFileConfig
  simp only [htext, if_false]
  rw [apply_ite Prod.fst, ite_self, loadHub_eq, loadProjector_field m text rfl, loadDiscovery_eq rfl,
    loadCapture_field m text rfl]
  rfl

theorem loadHubFileConfig_snd (m : DataModel) (path : Bytes) (htext : text ≠ []) :
    (loadHubFileConfig m path (some text)).2 = if scanCameras text = [] then
      some (ascii ("no cameras parsed (expect \"camera\" objects with serial_number under " ++
        "\"cameras\" array)")) else none := by
  unfold loadHubFileConfig
  simp only [htext, if_false]
  split_ifs <;> rfl

theorem laid_ne_nil (ws : ℕ → Bytes) (f : File) : laid ws f.tokens ≠ [] := by
  unfold File.tokens
  rw [laid]
  simp [Token.bytes]

end Fields

section Inert
variable {ts : List Token} {os : List Members} {v text : Bytes} {ms ms' : Members}
  {e e' : Entry} {f f' : File} {ws : ℕ → Bytes}

/-- The nodes that the scan takes of a file. -/
def nodesOf (f : File) : List HubFileCameraNode :=
  (f.cameras.map readNode).filter fun node => node.serialNumber ≠ []

theorem scanCameras_inert (hi : f.Inert) (h : Spells f.tokens text) :
    scanCameras text = nodesOf f := by
  have hlength : (f.pieces.flatMap Piece.tokens).length ≤ f.tokens.length := by rw [tokens_pieces]
  have hnil : Remnant [] [] := .blank (by simp [Blank])
  have hscan := scanCameras_pieces (written_pieces f) (legible_of_clear (clear_pieces hi) hlength)
    (by rwa [List.take_of_length_le hlength, tokens_pieces])
    (by rwa [List.drop_eq_nil_of_le hlength])
  rwa [List.append_nil, closedObjects_whole hlength, objects_pieces] at hscan

theorem mem_names_of_mem_sectionFields {p : String × String} (h : p ∈ sectionFields) :
    ascii p.1 ∈ sectionNames ∧ ascii p.2 ∈ usedFields := by
  have hall : ∀ p ∈ sectionFields, ascii p.1 ∈ sectionNames ∧ ascii p.2 ∈ usedFields := by
    decide +kernel
  exact hall p h

/-- A file of inert strings is loaded as it is written. -/
theorem loadHubFileConfig_inert (m : DataModel) (path : Bytes) (hi : f.Inert)
    (hws : ∀ i, Blank (ws i)) :
    (loadHubFileConfig m path (some (laid ws f.tokens))).1 =
        configOf m (fun sec name => upToQuote (f.field sec name)) (nodesOf f) ∧
      scanCameras (laid ws f.tokens) = nodesOf f := by
  have hspells := spells_laid hws f.tokens
  have hscan := scanCameras_inert hi hspells
  refine ⟨?_, hscan⟩
  rw [loadHubFileConfig_fst m path (laid_ne_nil ws f), hscan]
  apply configOf_congr
  intro p hp
  obtain ⟨hsec, hname⟩ := mem_names_of_mem_sectionFields hp
  exact extractStringField_file hi hsec hname hspells

theorem Members.Replaced.inert (h : ms.Replaced v ms') (hi : ms.Inert) (hv : Config.Inert v) :
    ms'.Inert := by
  cases h with
  | member _ _ _ =>
    obtain ⟨hbefore, hrest⟩ := List.forall_mem_append.mp hi
    obtain ⟨hmember, hbehind⟩ := List.forall_mem_cons.mp hrest
    exact List.forall_mem_append.mpr
      ⟨hbefore, List.forall_mem_cons.mpr ⟨⟨hmember.1, hv⟩, hbehind⟩⟩

theorem Entry.Replaced.inert (h : e.Replaced v e') (hi : e.Inert) (hv : Config.Inert v) :
    e'.Inert := by
  cases h with
  | note _ =>
    obtain ⟨hname, -⟩ := hi _ List.mem_cons_self
    exact List.forall_mem_singleton.mpr ⟨hname, hv⟩
  | group hms => exact hms.inert hi hv
  | cameras _ _ hms =>
    obtain ⟨hbefore, hrest⟩ := List.forall_mem_append.mp hi
    obtain ⟨hobject, hbehind⟩ := List.forall_mem_cons.mp hrest
    exact List.forall_mem_append.mpr
      ⟨hbefore, List.forall_mem_cons.mpr ⟨hms.inert hobject hv, hbehind⟩⟩

theorem File.Replaced.inert (h : f.Replaced v f') (hi : f.Inert) (hv : Config.Inert v) :
    f'.Inert := by
  cases h with
  | entry _ _ hf hf' he =>
    unfold File.Inert at hi ⊢
    rw [hf] at hi
    rw [hf']
    obtain ⟨hbefore, hrest⟩ := List.forall_mem_append.mp hi
    obtain ⟨hentry, hbehind⟩ := List.forall_mem_cons.mp hrest
    exact List.forall_mem_append.mpr
      ⟨hbefore, List.forall_mem_cons.mpr ⟨he.inert hentry hv, hbehind⟩⟩

/-- A note's value is none of the fields. -/
theorem Members.Replaced.field_eq (h : ms.Replaced v ms') {name : String}
    (hk : ascii name ∈ usedFields) : ms'.field name = ms.field name := by
  cases h with
  | @member before behind n w hn =>
    have hne : (ascii name == n) = false := by
      rw [beq_eq_false_iff_ne]
      rintro rfl
      exact hn (mem_usedNames_of_field hk)
    unfold Members.field
    simp only [List.lookup_append, List.lookup_cons, hne]

theorem readNode_congr (h : ∀ name : String, ascii name ∈ usedFields → ms'.field name = ms.field name) :
    readNode ms' = readNode ms := by
  unfold readNode
  rw [h "ip" (by decide), h "serial_number" (by decide), h "serial" (by decide),
    h "backend" (by decide)]

theorem Entry.Replaced.nodes (h : e.Replaced v e') :
    e'.objects.map readNode = e.objects.map readNode := by
  cases h with
  | note _ => rfl
  | group _ => rfl
  | cameras _ _ hms =>
    have hnode := readNode_congr fun name hk => hms.field_eq hk
    simp only [Entry.objects, List.map_append, List.map_cons, hnode]

theorem File.Replaced.nodesOf_eq (h : f.Replaced v f') : nodesOf f' = nodesOf f := by
  cases h with
  | entry _ _ hf hf' he =>
    unfold nodesOf File.cameras
    simp only [hf, hf', List.flatMap_append, List.flatMap_cons, List.map_append, he.nodes]

theorem Entry.Replaced.field_eq (h : e.Replaced v e') (sec : Bytes) {name : String}
    (hk : ascii name ∈ usedFields) :
    (e'.membersOf sec).map (·.field name) = (e.membersOf sec).map (·.field name) := by
  cases h with
  | note _ => rfl
  | group hms =>
    simp only [Entry.membersOf]
    split_ifs
    · exact congrArg some (hms.field_eq hk)
    · rfl
  | cameras _ _ _ => rfl

theorem File.Replaced.field_eq (h : f.Replaced v f') (sec : String) {name : String}
    (hk : ascii name ∈ usedFields) : f'.field sec name = f.field sec name := by
  cases h with
  | @entry before behind e e' hf hf' he =>
    have hfield := he.field_eq (ascii sec) hk
    unfold File.field fieldOf
    rw [hf, hf', List.findSome?_append, List.findSome?_append, List.findSome?_cons,
      List.findSome?_cons]
    cases hbefore : before.findSome? (Entry.membersOf (ascii sec)) with
    | some ms => rfl
    | none =>
      cases hmembers : e.membersOf (ascii sec) with
      | none =>
        rw [hmembers, Option.map_none, Option.map_eq_none_iff] at hfield
        rw [hfield]
      | some ms =>
        rw [hmembers, Option.map_some, Option.map_eq_some_iff] at hfield
        obtain ⟨ms', hms', hfield⟩ := hfield
        rw [hms']
        exact hfield

/-- A note may have any inert text. -/
theorem loadHubFileConfig_replaced (m : DataModel) (path : Bytes) (hi : f.Inert)
    (hv : Config.Inert v) (hr : f.Replaced v f') (hws : ∀ i, Blank (ws i)) :
    loadHubFileConfig m path (some (laid ws f'.tokens)) =
      loadHubFileConfig m path (some (laid ws f.tokens)) := by
  obtain ⟨hconfig, hscan⟩ := loadHubFileConfig_inert m path hi hws
  obtain ⟨hconfig', hscan'⟩ := loadHubFileConfig_inert m path (hr.inert hi hv) hws
  apply Prod.ext
  · rw [hconfig, hconfig', hr.nodesOf_eq]
    apply configOf_congr
    intro p hp
    obtain ⟨-, hname⟩ := mem_names_of_mem_sectionFields hp
    rw [hr.field_eq p.1 hname]
  · rw [loadHubFileConfig_snd m path (laid_ne_nil ws f),
      loadHubFileConfig_snd m path (laid_ne_nil ws f'), hscan, hscan', hr.nodesOf_eq]

end Inert

end Camera3D.Config
