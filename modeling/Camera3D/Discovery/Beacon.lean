import Camera3D.Text.Search
import Camera3D.Text.Numerals

/-! The discovery beacon: one line of JSON, printed by concatenation and read back field by field,
each field by the first occurrence of its quoted name in the whole datagram. -/
namespace Camera3D.Discovery

open Camera3D.Text

def kDeviceDiscoveryMagic : Bytes := ascii "CAMERA3D_BEACON"
def kDeviceDiscoveryJsonVersion : ℕ := 1
def kDefaultDiscoveryModel : Bytes := ascii "best-3d"
def kDefaultDiscoverySerial : Bytes := ascii "best-3d-p001"

structure DeviceDiscoveryBeaconData where
  model : Bytes := kDefaultDiscoveryModel
  serial : Bytes := kDefaultDiscoverySerial
  mac : Bytes := []
  hubHost : Bytes := []
  hubPort : UInt16 := 0
  deriving DecidableEq

def json : Punctuation UInt8 where
  quote := 34
  esc := 92
  mark := 58
  sep := 44
  quote_ne_esc := by decide
  quote_ne_mark := by decide
  quote_ne_sep := by decide
  mark_ne_sep := by decide

def jsonEscapeForBeacon (s : Bytes) : Bytes := json.escape s

def buildDeviceDiscoveryJson (d : DeviceDiscoveryBeaconData) : Bytes :=
  ascii "\x7b\"m\":\"" ++ kDeviceDiscoveryMagic ++
    ascii "\",\"v\":" ++ decimal kDeviceDiscoveryJsonVersion ++
    ascii ",\"model\":\"" ++ jsonEscapeForBeacon d.model ++
    ascii "\",\"serial\":\"" ++ jsonEscapeForBeacon d.serial ++
    ascii "\",\"mac\":\"" ++ jsonEscapeForBeacon d.mac ++
    ascii "\",\"hub_host\":\"" ++ jsonEscapeForBeacon d.hubHost ++
    ascii "\",\"hub_port\":" ++ decimal d.hubPort.toNat ++ ascii "\x7d"

def extractJsonStringField (doc key : Bytes) : Option Bytes :=
  let pat := ascii "\"" ++ key ++ ascii "\":\""
  match find pat doc with
  | none => none
  | some found => json.unescape (found.drop pat.length)

def clampPort (v : ℕ) : UInt16 := UInt16.ofNat (if v > 65535 then 65535 else v)

def extractJsonUIntField (m : DataModel) (doc key : Bytes) : Option UInt16 :=
  let pat := ascii "\"" ++ key ++ ascii "\":"
  match find pat doc with
  | none => none
  | some found =>
    match (found.drop pat.length).dropWhile fun c => c = 32 || c = 9 with
    | [] => none
    | 34 :: text =>
      match find (ascii "\"") text with
      | none => none
      | some closing =>
        let s := text.take (text.length - closing.length)
        let v := strtoul m s
        if v = 0 && s ≠ ascii "0" then none else some (clampPort v)
    | text =>
      let digits := text.takeWhile isdigit
      if digits = [] then none else some (clampPort (strtoul m digits))

/-- The field, or its default where it is missing or empty. -/
def fieldOr (dflt : Bytes) : Option Bytes → Bytes
  | some s => if s = [] then dflt else s
  | none => dflt

def tryParseDeviceDiscoveryJson (m : DataModel) (payload : Bytes) :
    Option DeviceDiscoveryBeaconData :=
  if find kDeviceDiscoveryMagic payload = none then none
  else
    let dflt : DeviceDiscoveryBeaconData := {}
    let d : DeviceDiscoveryBeaconData :=
      { model := fieldOr dflt.model (extractJsonStringField payload (ascii "model"))
        serial := fieldOr dflt.serial (extractJsonStringField payload (ascii "serial"))
        mac := fieldOr dflt.mac (extractJsonStringField payload (ascii "mac"))
        hubHost := fieldOr dflt.hubHost (extractJsonStringField payload (ascii "hub_host"))
        hubPort := match extractJsonUIntField m payload (ascii "hub_port") with
          | some p => if p ≠ 0 then p else dflt.hubPort
          | none => dflt.hubPort }
    if d.hubHost = [] ∨ d.hubPort = 0 then none else some d

section RoundTrip

/-! The datagram member by member, and where the search for each field ends. -/

variable {m : DataModel} {d : DeviceDiscoveryBeaconData} {doc key v rest pat : Bytes}

def hubPortMember (d : DeviceDiscoveryBeaconData) : Bytes :=
  json.sep :: json.keyed (ascii "hub_port") (decimal d.hubPort.toNat ++ [125])

def hubHostMember (d : DeviceDiscoveryBeaconData) : Bytes :=
  json.sep :: json.keyed (ascii "hub_host") (json.quoted d.hubHost (hubPortMember d))

def macMember (d : DeviceDiscoveryBeaconData) : Bytes :=
  json.sep :: json.keyed (ascii "mac") (json.quoted d.mac (hubHostMember d))

def serialMember (d : DeviceDiscoveryBeaconData) : Bytes :=
  json.sep :: json.keyed (ascii "serial") (json.quoted d.serial (macMember d))

def modelMember (d : DeviceDiscoveryBeaconData) : Bytes :=
  json.sep :: json.keyed (ascii "model") (json.quoted d.model (serialMember d))

theorem buildDeviceDiscoveryJson_eq (d : DeviceDiscoveryBeaconData) :
    buildDeviceDiscoveryJson d =
      123 :: json.keyed (ascii "m") (json.quoted kDeviceDiscoveryMagic
        (json.sep :: json.keyed (ascii "v") (49 :: modelMember d))) := by
  unfold buildDeviceDiscoveryJson jsonEscapeForBeacon
  simp only [List.append_assoc]
  rfl

theorem find_modelMember (hk : json.IsKey key) (hm : key ≠ ascii "m") (hv : key ≠ ascii "v") :
    find (json.keyed key pat) (buildDeviceDiscoveryJson d) =
      find (json.keyed key pat) (modelMember d) := by
  have hother : ∀ c text, json.quote ≠ c →
      find (json.keyed key pat) (c :: text) = find (json.keyed key pat) text :=
    fun c text hc => find_cons_of_not_starts fun hp => hc (List.cons_prefix_cons.mp hp).1
  rw [buildDeviceDiscoveryJson_eq, hother _ _ (by decide),
    Punctuation.find_keyed_skip hk (by decide) hm, Punctuation.find_quoted_skip hk,
    Punctuation.find_sep, Punctuation.find_keyed_skip hk (by decide) hv, hother _ _ (by decide)]

theorem find_serialMember (hk : json.IsKey key) (hm : key ∉ ["m", "v", "model"].map ascii) :
    find (json.keyed key pat) (buildDeviceDiscoveryJson d) =
      find (json.keyed key pat) (serialMember d) := by
  simp only [List.map_cons, List.map_nil, List.mem_cons, not_or] at hm
  rw [find_modelMember hk hm.1 hm.2.1]
  exact Punctuation.find_member_skip hk (by decide) hm.2.2.1 d.model

theorem find_macMember (hk : json.IsKey key)
    (hm : key ∉ ["m", "v", "model", "serial"].map ascii) :
    find (json.keyed key pat) (buildDeviceDiscoveryJson d) =
      find (json.keyed key pat) (macMember d) := by
  simp only [List.map_cons, List.map_nil, List.mem_cons, not_or] at hm
  rw [find_serialMember hk (by simp [hm])]
  exact Punctuation.find_member_skip hk (by decide) hm.2.2.2.1 d.serial

theorem find_hubHostMember (hk : json.IsKey key)
    (hm : key ∉ ["m", "v", "model", "serial", "mac"].map ascii) :
    find (json.keyed key pat) (buildDeviceDiscoveryJson d) =
      find (json.keyed key pat) (hubHostMember d) := by
  simp only [List.map_cons, List.map_nil, List.mem_cons, not_or] at hm
  rw [find_macMember hk (by simp [hm])]
  exact Punctuation.find_member_skip hk (by decide) hm.2.2.2.2.1 d.mac

theorem find_hubPortMember (hk : json.IsKey key)
    (hm : key ∉ ["m", "v", "model", "serial", "mac", "hub_host"].map ascii) :
    find (json.keyed key pat) (buildDeviceDiscoveryJson d) =
      find (json.keyed key pat) (hubPortMember d) := by
  simp only [List.map_cons, List.map_nil, List.mem_cons, not_or] at hm
  rw [find_hubHostMember hk (by simp [hm])]
  exact Punctuation.find_member_skip hk (by decide) hm.2.2.2.2.2.1 d.hubHost

/-- A field is read back where the search for its name stops at its member. -/
theorem extractJsonStringField_of_find
    (h : find (json.keyed key [34]) doc =
      find (json.keyed key [34]) (json.sep :: json.keyed key (json.quoted v rest))) :
    extractJsonStringField doc key = some v := by
  have hpat : ascii "\"" ++ key ++ ascii "\":\"" = json.keyed key [34] := rfl
  have hstarts : [34] <+: json.quoted v rest := ⟨_, rfl⟩
  rw [Punctuation.find_member key hstarts] at h
  unfold extractJsonStringField
  simp only [hpat, h]
  have hdrop : (json.keyed key (json.quoted v rest)).drop (json.keyed key [34]).length =
      json.escape v ++ json.quote :: rest := by
    simp [Punctuation.keyed, Punctuation.quoted]
  rw [hdrop]
  exact Punctuation.unescape_escape v

theorem fieldOr_some {dflt s : Bytes} (h : s ≠ [] ∨ dflt = []) : fieldOr dflt (some s) = s := by
  by_cases hs : s = []
  · simp_all [fieldOr]
  · simp [fieldOr, hs]

theorem clampPort_toNat (p : UInt16) : clampPort p.toNat = p := by
  have hp := p.toNat_lt
  unfold clampPort
  rw [if_neg (by omega)]
  exact UInt16.ofNat_toNat

/-- Digits after the name are read as a port, up to the first byte that is none. -/
theorem extractJsonUIntField_of_digits {digits more : Bytes}
    (h : find (json.keyed key []) doc = some (json.keyed key (digits ++ more)))
    (hdigits : ∀ c ∈ digits, isdigit c) (hne : digits ≠ []) (hvalue : numeral digits < 2 ^ 32)
    (hmore : more.takeWhile isdigit = []) :
    extractJsonUIntField m doc key = some (clampPort (numeral digits)) := by
  have hpat : ascii "\"" ++ key ++ ascii "\":" = json.keyed key [] := rfl
  unfold extractJsonUIntField
  simp only [hpat, h]
  have hdrop : (json.keyed key (digits ++ more)).drop (json.keyed key []).length =
      digits ++ more := by
    simp [Punctuation.keyed]
  rw [hdrop]
  have htake : (digits ++ more).takeWhile isdigit = digits := by
    rw [List.takeWhile_append_of_pos hdigits, hmore]
    exact List.append_nil _
  obtain ⟨c, ds, rfl⟩ := List.exists_cons_of_ne_nil hne
  have hc := hdigits c (by simp)
  have hblank : (decide (c = 32) || decide (c = 9)) = false := by
    simp only [Bool.or_eq_false_iff, decide_eq_false_iff_not]
    constructor <;> (rintro rfl; revert hc; decide)
  have hskip : (c :: ds ++ more).dropWhile (fun c => c = 32 || c = 9) = c :: ds ++ more := by
    rw [List.cons_append, List.dropWhile_cons, hblank]
    rfl
  have hquote : c ≠ 34 := by
    rintro rfl
    revert hc
    decide
  rw [hskip]
  split
  case h_1 h => simp at h
  case h_2 h => simp_all
  case h_3 =>
    rw [htake, if_neg hne, strtoul_of_digits hdigits hvalue]

theorem extractJsonUIntField_of_find (p : UInt16)
    (h : find (json.keyed key []) doc =
      find (json.keyed key []) (json.sep :: json.keyed key (decimal p.toNat ++ [125]))) :
    extractJsonUIntField m doc key = some p := by
  have hp := p.toNat_lt
  rw [Punctuation.find_member key List.nil_prefix] at h
  rw [extractJsonUIntField_of_digits h (fun c hc => isdigit_of_mem_decimal hc)
    (decimal_ne_nil p.toNat) (by rw [numeral_decimal]; omega) rfl, numeral_decimal, clampPort_toNat]

theorem tryParseDeviceDiscoveryJson_of_fields {payload : Bytes} {p : UInt16}
    (hmagic : find kDeviceDiscoveryMagic payload ≠ none)
    (rmodel : extractJsonStringField payload (ascii "model") = some d.model)
    (rserial : extractJsonStringField payload (ascii "serial") = some d.serial)
    (rmac : extractJsonStringField payload (ascii "mac") = some d.mac)
    (rhost : extractJsonStringField payload (ascii "hub_host") = some d.hubHost)
    (rport : extractJsonUIntField m payload (ascii "hub_port") = some p)
    (hmodel : d.model ≠ []) (hserial : d.serial ≠ []) (hhost : d.hubHost ≠ []) (hport : p ≠ 0) :
    tryParseDeviceDiscoveryJson m payload = some { d with hubPort := p } := by
  unfold tryParseDeviceDiscoveryJson
  rw [if_neg hmagic, rmodel, rserial, rmac, rhost, rport]
  simp [fieldOr_some, hmodel, hserial, hhost, hport]

end RoundTrip

/-- Whatever bytes the fields hold, text that imitates other fields included. -/
theorem tryParseDeviceDiscoveryJson_build (m : DataModel) (d : DeviceDiscoveryBeaconData)
    (hmodel : d.model ≠ []) (hserial : d.serial ≠ []) (hhost : d.hubHost ≠ [])
    (hport : d.hubPort ≠ 0) :
    tryParseDeviceDiscoveryJson m (buildDeviceDiscoveryJson d) = some d := by
  have hmagic : find kDeviceDiscoveryMagic (buildDeviceDiscoveryJson d) ≠ none := by
    apply Option.isSome_iff_ne_none.mp
    apply find_isSome_of_infix
    unfold buildDeviceDiscoveryJson
    simp only [List.append_assoc]
    exact ⟨ascii "\x7b\"m\":\"", _, List.append_assoc _ _ _⟩
  have rmodel : extractJsonStringField (buildDeviceDiscoveryJson d) (ascii "model") = some d.model :=
    extractJsonStringField_of_find (find_modelMember (by decide) (by decide) (by decide))
  have rserial : extractJsonStringField (buildDeviceDiscoveryJson d) (ascii "serial") = some d.serial :=
    extractJsonStringField_of_find (find_serialMember (by decide) (by decide))
  have rmac : extractJsonStringField (buildDeviceDiscoveryJson d) (ascii "mac") = some d.mac :=
    extractJsonStringField_of_find (find_macMember (by decide) (by decide))
  have rhost : extractJsonStringField (buildDeviceDiscoveryJson d) (ascii "hub_host") =
      some d.hubHost :=
    extractJsonStringField_of_find (find_hubHostMember (by decide) (by decide))
  have rport : extractJsonUIntField m (buildDeviceDiscoveryJson d) (ascii "hub_port") =
      some d.hubPort :=
    extractJsonUIntField_of_find d.hubPort (find_hubPortMember (by decide) (by decide))
  exact tryParseDeviceDiscoveryJson_of_fields hmagic rmodel rserial rmac rhost rport hmodel hserial
    hhost hport

/-- A model name that imitates the serial number and the port of another device. -/
def imitation : DeviceDiscoveryBeaconData where
  model := ascii "m\",\"serial\":\"s\",\"hub_port\":7\x7d\\"
  hubHost := ascii "10.0.0.2"
  hubPort := 50051

theorem tryParseDeviceDiscoveryJson_build_imitation :
    tryParseDeviceDiscoveryJson ⟨32, le_rfl⟩ (buildDeviceDiscoveryJson imitation) =
      some imitation :=
  tryParseDeviceDiscoveryJson_build ⟨32, le_rfl⟩ imitation (by decide) (by decide) (by decide)
    (by decide)

end Camera3D.Discovery
