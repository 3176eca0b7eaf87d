import Camera3D.Text.Search
import Camera3D.Text.Numerals

/-! hub_service.json as the hub loads it: every field is located by searching the text for its
quoted name. A position of the text is the rest of the text from there on. -/
namespace Camera3D.Config

open Camera3D.Text

structure HubFileCameraNode where
  ip : Bytes := []
  serialNumber : Bytes := []
  backendId : Bytes := ascii "daheng"
  deriving DecidableEq

structure HubDiscoverySettings where
  enable : Bool := true
  udpPort : UInt16 := 55431
  intervalMs : Int32 := 1500
  advertiseHost : Bytes := []
  deviceModel : Bytes := []
  deviceSerial : Bytes := []
  deriving DecidableEq

structure HubFileConfig where
  listenAddress : Bytes := ascii "0.0.0.0:50051"
  projectorComIndex : UInt32 := 0
  framesPerHardwareTrigger : UInt32 := 24
  cameras : List HubFileCameraNode := []
  discovery : HubDiscoverySettings := {}
  deriving DecidableEq

def skipWs (s : Bytes) : Bytes := s.dropWhile isspace

/-- The text up to the brace that brings the depth back to zero, and the text behind it. -/
def matchClosingBrace (depth : ℤ) : Bytes → Option (Bytes × Bytes)
  | [] => none
  | c :: s =>
    if c = 123 then (matchClosingBrace (depth + 1) s).map fun r => (c :: r.1, r.2)
    else if c = 125 then
      if depth - 1 = 0 then some ([c], s)
      else (matchClosingBrace (depth - 1) s).map fun r => (c :: r.1, r.2)
    else (matchClosingBrace depth s).map fun r => (c :: r.1, r.2)

/-- What stands behind the colon that follows the quoted name. -/
def afterKey (text key : Bytes) : Option Bytes :=
  let pat := ascii "\"" ++ key ++ ascii "\""
  match find pat text with
  | none => none
  | some k =>
    match find (ascii ":") (k.drop pat.length) with
    | none => none
    | some c => some (skipWs (c.drop 1))

def extractStringField (obj key : Bytes) : Bytes :=
  match afterKey obj key with
  | some (34 :: v) =>
    match find (ascii "\"") v with
    | none => []
    | some e => v.take (v.length - e.length)
  | _ => []

def extractObjectForKey (doc key : Bytes) : Bytes :=
  match afterKey doc key with
  | some (123 :: s) =>
    match matchClosingBrace 0 (123 :: s) with
    | none => []
    | some (obj, _) => obj
  | _ => []

def cameraNode (inner : Bytes) : HubFileCameraNode :=
  let serial := extractStringField inner (ascii "serial_number")
  let serial := if serial = [] then extractStringField inner (ascii "serial") else serial
  let backend := extractStringField inner (ascii "backend")
  { ip := extractStringField inner (ascii "ip")
    serialNumber := serial
    backendId := if backend = [] then ascii "daheng" else backend }

theorem length_of_find {pat text found : Bytes} (h : find pat text = some found) :
    found.length ≤ text.length := by
  induction text with
  | nil =>
    simp only [find] at h
    split at h <;> simp_all
  | cons c text ih =>
    simp only [find] at h
    split at h
    case isTrue => simp_all
    case isFalse =>
      have := ih h
      simp only [List.length_cons]
      omega

theorem length_of_matchClosingBrace {depth : ℤ} {s obj rest : Bytes}
    (h : matchClosingBrace depth s = some (obj, rest)) : rest.length < s.length := by
  induction s generalizing depth obj with
  | nil => simp [matchClosingBrace] at h
  | cons c s ih =>
    have hmap : ∀ {k obj}, (matchClosingBrace k s).map (fun r => (c :: r.1, r.2)) = some (obj, rest) →
        rest.length < (c :: s).length := by
      intro k obj h
      obtain ⟨r, hr, heq⟩ := Option.map_eq_some_iff.mp h
      obtain ⟨-, rfl⟩ := Prod.mk.inj heq
      have := ih hr
      simp only [List.length_cons]
      omega
    simp only [matchClosingBrace] at h
    split_ifs at h
    · exact hmap h
    · obtain ⟨-, rfl⟩ := Prod.mk.inj (Option.some.inj h)
      simp
    · exact hmap h
    · exact hmap h

def scanCameras (text : Bytes) : List HubFileCameraNode :=
  match _hpos : find (ascii "\"camera\"") text with
  | none => []
  | some pos =>
    match _hob : find (ascii "\x7b") pos with
    | none => []
    | some ob =>
      match _hce : matchClosingBrace 0 ob with
      | none => []
      | some (inner, rest) =>
        let node := cameraNode inner
        if node.serialNumber ≠ [] then node :: scanCameras rest else scanCameras rest
termination_by text.length
decreasing_by
  all_goals
    have hle := length_of_find _hpos
    have hle' := length_of_find _hob
    have hlt := length_of_matchClosingBrace _hce
    omega

def loadHub (doc : Bytes) (out : HubFileConfig) : HubFileConfig :=
  let obj := extractObjectForKey doc (ascii "hub")
  if obj = [] then out
  else
    let listen := extractStringField obj (ascii "listen")
    if listen = [] then out else { out with listenAddress := listen }

def loadProjector (m : DataModel) (doc : Bytes) (out : HubFileConfig) : HubFileConfig :=
  let obj := extractObjectForKey doc (ascii "projector")
  if obj = [] then out
  else
    let com := extractStringField obj (ascii "com_index")
    if com = [] then out else { out with projectorComIndex := UInt32.ofNat (strtoul m com) }

def discoveryEnable (en : Bytes) : Bool := !(en = ascii "false" || en = ascii "0")

def discoveryPort (m : DataModel) (port : Bytes) (dflt : UInt16) : UInt16 :=
  if port = [] then dflt
  else
    let p := strtoul m port
    if 0 < p ∧ p ≤ 65535 then UInt16.ofNat p else dflt

def discoveryInterval (m : DataModel) (ival : Bytes) (dflt : Int32) : Int32 :=
  if ival = [] then dflt
  else
    let iv := strtol m ival
    if 250 ≤ iv ∧ iv ≤ 3600000 then Int32.ofInt iv else dflt

def loadDiscovery (m : DataModel) (doc : Bytes) (out : HubFileConfig) : HubFileConfig :=
  let obj := extractObjectForKey doc (ascii "discovery")
  if obj = [] then out
  else
    let d := out.discovery
    { out with
      discovery :=
        { enable := d.enable && discoveryEnable (extractStringField obj (ascii "enable"))
          udpPort := discoveryPort m (extractStringField obj (ascii "udp_port")) d.udpPort
          intervalMs := discoveryInterval m (extractStringField obj (ascii "interval_ms")) d.intervalMs
          advertiseHost := extractStringField obj (ascii "advertise_host")
          deviceModel := extractStringField obj (ascii "device_model")
          deviceSerial := extractStringField obj (ascii "device_serial") } }

def loadCapture (m : DataModel) (doc : Bytes) (out : HubFileConfig) : HubFileConfig :=
  let obj := extractObjectForKey doc (ascii "capture")
  if obj = [] then out
  else
    let fph := extractStringField obj (ascii "frames_per_hardware_trigger")
    if fph = [] then out
    else
      let v := strtoul m fph
      if 1 ≤ v ∧ v ≤ 4096 then { out with framesPerHardwareTrigger := UInt32.ofNat v } else out

/-- The file is `none` where it cannot be opened; an error text means that the load returns
false, with what was read so far left in the configuration. -/
def loadHubFileConfig (m : DataModel) (path : Bytes) (file : Option Bytes) :
    HubFileConfig × Option Bytes :=
  match file with
  | none => ({}, some (ascii "cannot open file: " ++ path))
  | some doc =>
    if doc = [] then ({}, some (ascii "empty config file"))
    else
      let out := loadHub doc {}
      let out := loadProjector m doc out
      let out := loadDiscovery m doc out
      let out := loadCapture m doc out
      let out := { out with cameras := scanCameras doc }
      if out.cameras = [] then
        (out, some (ascii ("no cameras parsed (expect \"camera\" objects with serial_number under " ++
          "\"cameras\" array)")))
      else (out, none)

end Camera3D.Config
