import Camera3D.Config.Loading

/-! The camera scan visits every camera object once and in order, and with it the whole file is
loaded as it is written. -/
namespace Camera3D.Config

open Camera3D.Text

section Scan

variable {ts us body : List Token} {ps : List (List Token)} {ms : Members}
  {os os' : List Members} {oss : List (List Members)} {e : Entry} {text inner : Bytes}

/-- The camera objects that stand in a token sequence, in order. -/
inductive CamerasIn : List Token → List Members → Prop
  | nil {ts : List Token} : Token.string (ascii "camera") ∉ ts → CamerasIn ts []
  | cons {pre post : List Token} {ms : Members} {os : List Members} :
      Token.string (ascii "camera") ∉ pre → ms.Shaped → ms.field "serial_number" ≠ [] →
      CamerasIn post os →
      CamerasIn (pre ++ .string (ascii "camera") :: colon :: (objectTokens ms ++ post)) (ms :: os)

theorem CamerasIn.append (h : CamerasIn ts os) (h' : CamerasIn us os') :
    CamerasIn (ts ++ us) (os ++ os') := by
  induction h with
  | @nil ts hts =>
    cases h' with
    | nil hus =>
      apply CamerasIn.nil
      simp [hts, hus]
    | @cons pre post ms os hpre hms hserial hpost =>
      rw [← List.append_assoc]
      apply CamerasIn.cons _ hms hserial hpost
      simp [hts, hpre]
  | cons hpre hms hserial _ ih =>
    have hcons := CamerasIn.cons hpre hms hserial ih
    simpa using hcons

theorem CamerasIn.joined (h : List.Forall₂ CamerasIn ps oss) :
    CamerasIn (joined ps) oss.flatten := by
  induction h with
  | nil => exact CamerasIn.nil (by simp [Config.joined])
  | @cons p os ps oss hp hps ih =>
    cases hps with
    | nil => simpa [Config.joined] using hp
    | cons hq hps =>
      have hcomma : CamerasIn [comma] [] := CamerasIn.nil (by decide)
      have happend := hp.append (hcomma.append ih)
      simpa [Config.joined] using happend

theorem camerasIn_camera (hms : ms.Shaped) (hserial : ms.field "serial_number" ≠ []) :
    CamerasIn (cameraTokens ms) [ms] := by
  have hopen : Token.string (ascii "camera") ∉ [Token.mark 123] := by decide
  have hclose : CamerasIn [Token.mark 125] [] := CamerasIn.nil (by decide)
  exact CamerasIn.cons hopen hms hserial hclose

theorem camerasIn_entry (he : e.Shaped) : CamerasIn e.tokens e.objects := by
  cases e with
  | note name value =>
    apply CamerasIn.nil
    intro h
    obtain rfl | rfl : ascii "camera" = name ∨ ascii "camera" = value := by
      simpa [Entry.tokens, memberTokens, colon] using h
    · exact he.1.2 (by decide)
    · exact he.2.2 (by decide)
  | group name members =>
    obtain ⟨hname, hmembers⟩ := he
    have hother : ∀ n ∈ sectionNames, ascii "camera" ≠ n := by decide
    apply CamerasIn.nil
    intro h
    have hmem : Token.string (ascii "camera") ∈ objectTokens members := by
      simpa [Entry.tokens, colon, hother name hname] using h
    exact not_mem_objectTokens hmembers (by decide) hmem
  | cameras objects =>
    have hall : List.Forall₂ CamerasIn (objects.map cameraTokens) (objects.map ([·])) := by
      rw [List.forall₂_map_left_iff, List.forall₂_map_right_iff, List.forall₂_same]
      intro ms hms
      exact camerasIn_camera (he ms hms).1 (he ms hms).2
    have hopen : CamerasIn [.string (ascii "cameras"), colon, .mark 91] [] :=
      CamerasIn.nil (by decide)
    have hclose : CamerasIn [Token.mark 93] [] := CamerasIn.nil (by decide)
    have hflat : (objects.map ([·])).flatten = objects := by
      rw [← List.flatMap_def]
      exact List.flatMap_singleton' objects
    have harray := hopen.append ((CamerasIn.joined hall).append hclose)
    rw [hflat] at harray
    simpa [Entry.tokens, Entry.objects] using harray

theorem camerasIn_tokens (d : Document) : CamerasIn d.tokens d.cameras := by
  have hall : List.Forall₂ CamerasIn (d.entries.map Entry.tokens) (d.entries.map Entry.objects) := by
    rw [List.forall₂_map_left_iff, List.forall₂_map_right_iff, List.forall₂_same]
    intro e he
    exact camerasIn_entry (d.shaped e he)
  have hopen : CamerasIn [Token.mark 123] [] := CamerasIn.nil (by decide)
  have hclose : CamerasIn [Token.mark 125] [] := CamerasIn.nil (by decide)
  have hdoc := hopen.append ((CamerasIn.joined hall).append hclose)
  simpa [Document.tokens, Document.cameras, List.flatMap] using hdoc

theorem cameraNode_spells (hms : ms.Shaped) (hserial : ms.field "serial_number" ≠ [])
    (h : Spells (objectTokens ms) inner) : cameraNode inner = Document.node ms := by
  have hip : extractStringField inner (ascii "ip") = ms.field "ip" :=
    extractStringField_object hms (by decide) h
  have hser : extractStringField inner (ascii "serial_number") = ms.field "serial_number" :=
    extractStringField_object hms (by decide) h
  have hback : extractStringField inner (ascii "backend") = ms.field "backend" :=
    extractStringField_object hms (by decide) h
  simp [cameraNode, Document.node, Document.given, hip, hser, hback, hserial]

theorem scanCameras_eq (h : CamerasIn ts os) (hts : ∀ t ∈ ts, t.Plain) (hs : Spells ts text) :
    scanCameras text = os.map Document.node := by
  induction h generalizing text with
  | nil hnot =>
    exact scanCameras_unnamed (find_tokens_none isPlainName_camera (quiet_of_plain hts hnot) hs)
  | @cons pre post ms os hpre hms hserial hpost ih =>
    obtain ⟨hplainPre, hrest⟩ := List.forall_mem_append.mp hts
    have hplainPost : ∀ t ∈ post, t.Plain := fun t ht => hrest t (by simp [ht])
    obtain ⟨pos, b, hpos, hbrace, hb⟩ := find_camera_cut (quiet_of_plain hplainPre hpre) hs []
    have hb : Spells ([colon] ++ (objectTokens ms ++ post)) b := hb
    obtain ⟨inner, rest, hinner, hrests, hscan⟩ :=
      scanCameras_object hpos hbrace (by decide) (nested_level (flat_bodyTokens hms).level) hb
    have hnode := cameraNode_spells hms hserial hinner
    rw [List.append_nil, List.append_nil, hnode, ih hplainPost hrests] at hscan
    rw [hscan]
    exact if_pos hserial

end Scan

section Load

variable {m : DataModel} {lo hi : ℕ} {v doc : Bytes} {out : HubFileConfig}

theorem extractStringField_nil (key : Bytes) : extractStringField [] key = [] := rfl

theorem Decimal.strtoul_eq (h : Decimal lo hi v) (hhi : hi < 2 ^ 32) (hv : v ≠ []) :
    strtoul m v = numeral v ∧ lo ≤ numeral v ∧ numeral v ≤ hi := by
  obtain h | ⟨hdigits, hlo, hle⟩ := h
  · exact absurd h hv
  · exact ⟨strtoul_of_digits hdigits (by omega), hlo, hle⟩

theorem loadHub_eq (doc : Bytes) (out : HubFileConfig) :
    loadHub doc out = { out with
      listenAddress := Document.given
        (extractStringField (extractObjectForKey doc (ascii "hub")) (ascii "listen"))
        out.listenAddress } := by
  unfold loadHub Document.given
  by_cases hobj : extractObjectForKey doc (ascii "hub") = []
  · simp [hobj, extractStringField_nil]
  · simp only [hobj, if_false]
    split <;> rfl

theorem loadProjector_eq
    (h : Decimal 0 (2 ^ 32 - 1)
      (extractStringField (extractObjectForKey doc (ascii "projector")) (ascii "com_index")))
    (hout : out.projectorComIndex = 0) :
    loadProjector m doc out = { out with
      projectorComIndex := UInt32.ofNat (Document.number
        (extractStringField (extractObjectForKey doc (ascii "projector")) (ascii "com_index")) 0) } := by
  unfold loadProjector Document.number
  by_cases hobj : extractObjectForKey doc (ascii "projector") = []
  · simp [hobj, extractStringField_nil, ← hout]
  · simp only [hobj, if_false]
    by_cases hv : extractStringField (extractObjectForKey doc (ascii "projector"))
        (ascii "com_index") = []
    · simp [hv, ← hout]
    · simp only [hv, if_false, (h.strtoul_eq (by decide) hv).1]

theorem loadCapture_eq
    (h : Decimal 1 4096 (extractStringField (extractObjectForKey doc (ascii "capture"))
      (ascii "frames_per_hardware_trigger")))
    (hout : out.framesPerHardwareTrigger = 24) :
    loadCapture m doc out = { out with
      framesPerHardwareTrigger := UInt32.ofNat (Document.number
        (extractStringField (extractObjectForKey doc (ascii "capture"))
          (ascii "frames_per_hardware_trigger")) 24) } := by
  unfold loadCapture Document.number
  by_cases hobj : extractObjectForKey doc (ascii "capture") = []
  · simp [hobj, extractStringField_nil, ← hout]
  · simp only [hobj, if_false]
    by_cases hv : extractStringField (extractObjectForKey doc (ascii "capture"))
        (ascii "frames_per_hardware_trigger") = []
    · simp [hv, ← hout]
    · obtain ⟨hvalue, hlo, hhi⟩ := h.strtoul_eq (m := m) (by decide) hv
      simp [hv, hvalue, hlo, hhi]

theorem discoveryPort_eq (h : Decimal 1 65535 v) :
    discoveryPort m v 55431 = UInt16.ofNat (Document.number v 55431) := by
  unfold discoveryPort Document.number
  by_cases hv : v = []
  · simp [hv]
  · obtain ⟨hvalue, hlo, hhi⟩ := h.strtoul_eq (m := m) (by decide) hv
    have hpos : 0 < numeral v := by omega
    simp [hv, hvalue, hpos, hhi]

theorem discoveryInterval_eq (h : Decimal 250 3600000 v) :
    discoveryInterval m v 1500 = Int32.ofNat (Document.number v 1500) := by
  unfold discoveryInterval Document.number
  obtain hv | ⟨hdigits, hlo, hhi⟩ := h
  · simp [hv]
  · have hvalue : strtol m v = numeral v := strtol_of_digits hdigits (by omega)
    by_cases hv : v = []
    · simp [hv]
    · have hrange : 250 ≤ (numeral v : ℤ) ∧ (numeral v : ℤ) ≤ 3600000 := by omega
      simp only [hv, if_false, hvalue, hrange]
      exact Int32.ofInt_eq_ofNat

/-- What the discovery section says, field by field. -/
def discoveryOf (m : DataModel) (obj : Bytes) : HubDiscoverySettings where
  enable := discoveryEnable (extractStringField obj (ascii "enable"))
  udpPort := discoveryPort m (extractStringField obj (ascii "udp_port")) 55431
  intervalMs := discoveryInterval m (extractStringField obj (ascii "interval_ms")) 1500
  advertiseHost := extractStringField obj (ascii "advertise_host")
  deviceModel := extractStringField obj (ascii "device_model")
  deviceSerial := extractStringField obj (ascii "device_serial")

theorem loadDiscovery_eq (hout : out.discovery = {}) :
    loadDiscovery m doc out = { out with
      discovery := discoveryOf m (extractObjectForKey doc (ascii "discovery")) } := by
  unfold loadDiscovery
  by_cases hobj : extractObjectForKey doc (ascii "discovery") = []
  · have hnil : discoveryOf m [] = {} := rfl
    rw [if_pos hobj, hobj, hnil, ← hout]
  · simp only [hobj, if_false, hout]
    simp [discoveryOf]

end Load

/-- Every document of the format, however it is spaced, is read as it is written. -/
theorem loadHubFileConfig_document (m : DataModel) (path : Bytes) (d : Document) {text : Bytes}
    (h : Spells d.tokens text) :
    loadHubFileConfig m path (some text) = (d.config, none) := by
  have hne : text ≠ [] := by
    cases h
    simp [Token.bytes]
  have hlisten : extractStringField (extractObjectForKey text (ascii "hub")) (ascii "listen") =
      d.field "hub" "listen" := extractStringField_section d (by decide) (by decide) h
  have hcom : extractStringField (extractObjectForKey text (ascii "projector"))
      (ascii "com_index") = d.field "projector" "com_index" :=
    extractStringField_section d (by decide) (by decide) h
  have hframes : extractStringField (extractObjectForKey text (ascii "capture"))
      (ascii "frames_per_hardware_trigger") = d.field "capture" "frames_per_hardware_trigger" :=
    extractStringField_section d (by decide) (by decide) h
  have hdiscovery : ∀ name : String, ascii name ∈ fieldNames →
      extractStringField (extractObjectForKey text (ascii "discovery")) (ascii name) =
        d.field "discovery" name :=
    fun name hname => extractStringField_section d (by decide) hname h
  have hscan : scanCameras text = d.cameras.map Document.node :=
    scanCameras_eq (camerasIn_tokens d) (plain_tokens d) h
  have hcameras : d.cameras.map Document.node ≠ [] := by
    intro hnil
    exact d.has_camera (List.map_eq_nil_iff.mp hnil)
  have hport : discoveryPort m (d.field "discovery" "udp_port") 55431 =
      UInt16.ofNat (Document.number (d.field "discovery" "udp_port") 55431) :=
    discoveryPort_eq d.udp_port
  have hinterval : discoveryInterval m (d.field "discovery" "interval_ms") 1500 =
      Int32.ofNat (Document.number (d.field "discovery" "interval_ms") 1500) :=
    discoveryInterval_eq d.interval_ms
  have hsettings : discoveryOf m (extractObjectForKey text (ascii "discovery")) =
      d.config.discovery := by
    unfold discoveryOf
    rw [hdiscovery "enable" (by decide), hdiscovery "udp_port" (by decide),
      hdiscovery "interval_ms" (by decide), hdiscovery "advertise_host" (by decide),
      hdiscovery "device_model" (by decide), hdiscovery "device_serial" (by decide),
      hport, hinterval]
    simp [Document.config, discoveryEnable]
  unfold loadHubFileConfig
  simp only [hne, if_false]
  rw [loadHub_eq, loadProjector_eq (hcom ▸ d.com_index) rfl, loadDiscovery_eq rfl,
    loadCapture_eq (hframes ▸ d.frames) rfl, hlisten, hcom, hframes, hscan, hsettings]
  simp only [hcameras, if_false]
  rfl

theorem loadHubFileConfig_template :
    loadHubFileConfig ⟨32, le_rfl⟩ (ascii "hub_service.json")
        (some (spaced (ascii "\n  ") templateDocument.tokens)) = (templateDocument.config, none) :=
  loadHubFileConfig_document ⟨32, le_rfl⟩ _ templateDocument (spells_spaced (by unfold Blank; decide) _)

end Camera3D.Config
