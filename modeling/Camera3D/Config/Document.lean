import Camera3D.Text.Tokens
import Camera3D.Config.HubFile

/-! The documented format of hub_service.json: sections with string members and an array of camera
objects, in any order and with notes between them, and the configuration that is written there. -/
namespace Camera3D.Config

open Camera3D.Text

abbrev Members := List (Bytes × Bytes)

def sectionNames : List Bytes := ["hub", "projector", "capture", "discovery"].map ascii

def topNames : List Bytes := ascii "camera" :: sectionNames

def fieldNames : List Bytes :=
  ["listen", "com_index", "frames_per_hardware_trigger", "enable", "udp_port", "interval_ms",
    "advertise_host", "device_model", "device_serial", "ip", "serial_number", "backend"].map ascii

def keyNames : List Bytes := topNames ++ fieldNames

/-- Quote, backslash and braces. -/
def special : Bytes := [34, 92, 123, 125]

/-- A member's name: neither a section nor a camera object is called so. -/
def Named (n : Bytes) : Prop := (∀ c ∈ special, c ∉ n) ∧ n ∉ topNames

def Valued (v : Bytes) : Prop := (∀ c ∈ special, c ∉ v) ∧ v ∉ keyNames

instance : DecidablePred Named := fun n =>
  inferInstanceAs (Decidable ((∀ c ∈ special, c ∉ n) ∧ n ∉ topNames))

instance : DecidablePred Valued := fun v =>
  inferInstanceAs (Decidable ((∀ c ∈ special, c ∉ v) ∧ v ∉ keyNames))

def Members.Shaped (ms : Members) : Prop := ∀ p ∈ ms, Named p.1 ∧ Valued p.2

instance : DecidablePred Members.Shaped := fun ms =>
  inferInstanceAs (Decidable (∀ p ∈ ms, Named p.1 ∧ Valued p.2))

def Members.field (ms : Members) (name : String) : Bytes := (ms.lookup (ascii name)).getD []

inductive Entry where
  | note (name value : Bytes)
  | group (name : Bytes) (members : Members)
  | cameras (objects : List Members)

namespace Entry

def Shaped : Entry → Prop
  | note name value => Named name ∧ Valued value
  | group name members => name ∈ sectionNames ∧ members.Shaped
  | cameras objects => ∀ ms ∈ objects, ms.Shaped ∧ ms.field "serial_number" ≠ []

instance : DecidablePred Shaped
  | note name value => inferInstanceAs (Decidable (Named name ∧ Valued value))
  | group name members => inferInstanceAs (Decidable (name ∈ sectionNames ∧ members.Shaped))
  | cameras objects =>
    inferInstanceAs (Decidable (∀ ms ∈ objects, ms.Shaped ∧ ms.field "serial_number" ≠ []))

def objects : Entry → List Members
  | cameras objects => objects
  | _ => []

def membersOf (name : Bytes) : Entry → Option Members
  | group n members => if n = name then some members else none
  | _ => none

end Entry

/-- A decimal in a range, where one is written at all. -/
def Decimal (lo hi : ℕ) (v : Bytes) : Prop :=
  v = [] ∨ (∀ c ∈ v, isdigit c) ∧ lo ≤ numeral v ∧ numeral v ≤ hi

instance (lo hi : ℕ) : DecidablePred (Decimal lo hi) := fun v =>
  inferInstanceAs (Decidable (v = [] ∨ (∀ c ∈ v, isdigit c) ∧ lo ≤ numeral v ∧ numeral v ≤ hi))

def fieldOf (entries : List Entry) (sec name : String) : Bytes :=
  ((entries.findSome? (Entry.membersOf (ascii sec))).getD []).field name

structure Document where
  entries : List Entry
  shaped : ∀ e ∈ entries, e.Shaped
  has_camera : entries.flatMap Entry.objects ≠ []
  com_index : Decimal 0 (2 ^ 32 - 1) (fieldOf entries "projector" "com_index")
  udp_port : Decimal 1 65535 (fieldOf entries "discovery" "udp_port")
  interval_ms : Decimal 250 3600000 (fieldOf entries "discovery" "interval_ms")
  frames : Decimal 1 4096 (fieldOf entries "capture" "frames_per_hardware_trigger")

def comma : Token := .mark 44
def colon : Token := .mark 58

def joined : List (List Token) → List Token
  | [] => []
  | [p] => p
  | p :: q :: ps => p ++ comma :: joined (q :: ps)

def memberTokens (p : Bytes × Bytes) : List Token := [.string p.1, colon, .string p.2]

def bodyTokens (ms : Members) : List Token := joined (ms.map memberTokens)

def objectTokens (ms : Members) : List Token := .mark 123 :: (bodyTokens ms ++ [.mark 125])

def cameraTokens (ms : Members) : List Token :=
  .mark 123 :: .string (ascii "camera") :: colon :: (objectTokens ms ++ [.mark 125])

def Entry.tokens : Entry → List Token
  | note name value => memberTokens (name, value)
  | group name members => .string name :: colon :: objectTokens members
  | cameras objects =>
    .string (ascii "cameras") :: colon :: .mark 91 :: (joined (objects.map cameraTokens) ++ [.mark 93])

namespace Document

def tokens (d : Document) : List Token :=
  .mark 123 :: (joined (d.entries.map Entry.tokens) ++ [.mark 125])

def field (d : Document) (sec name : String) : Bytes := fieldOf d.entries sec name

def cameras (d : Document) : List Members := d.entries.flatMap Entry.objects

def given (v dflt : Bytes) : Bytes := if v = [] then dflt else v

/-- The value written, or the default where none is. -/
def number (v : Bytes) (dflt : ℕ) : ℕ := if v = [] then dflt else numeral v

def node (ms : Members) : HubFileCameraNode where
  ip := ms.field "ip"
  serialNumber := ms.field "serial_number"
  backendId := given (ms.field "backend") (ascii "daheng")

def config (d : Document) : HubFileConfig where
  listenAddress := given (d.field "hub" "listen") (ascii "0.0.0.0:50051")
  projectorComIndex := UInt32.ofNat (number (d.field "projector" "com_index") 0)
  framesPerHardwareTrigger :=
    UInt32.ofNat (number (d.field "capture" "frames_per_hardware_trigger") 24)
  cameras := d.cameras.map node
  discovery :=
    { enable := d.field "discovery" "enable" ≠ ascii "false" ∧ d.field "discovery" "enable" ≠ ascii "0"
      udpPort := UInt16.ofNat (number (d.field "discovery" "udp_port") 55431)
      intervalMs := Int32.ofNat (number (d.field "discovery" "interval_ms") 1500)
      advertiseHost := d.field "discovery" "advertise_host"
      deviceModel := d.field "discovery" "device_model"
      deviceSerial := d.field "discovery" "device_serial" }

end Document

/-- A document after the template, with its sections in another order and a field left empty. -/
def templateDocument : Document where
  entries :=
    [.note (ascii "_template_readme") (ascii "fill in, then copy"),
      .cameras
        [[(ascii "slot_note", ascii "left"), (ascii "ip", ascii "192.168.1.101"),
            (ascii "serial_number", ascii "SERIAL-LEFT"), (ascii "backend", ascii "daheng")],
          [(ascii "serial_number", ascii "SERIAL-RIGHT"), (ascii "backend", []),
            (ascii "ip", ascii "192.168.1.102")]],
      .group (ascii "discovery")
        [(ascii "enable", ascii "false"), (ascii "interval_ms", ascii "1500"),
          (ascii "udp_port", ascii "55431"), (ascii "device_model", ascii "best-3d")],
      .group (ascii "hub") [(ascii "listen", ascii "0.0.0.0:50051")],
      .group (ascii "projector") [(ascii "com_index", ascii "3")]]
  shaped := by decide
  has_camera := by decide
  com_index := by decide
  udp_port := by decide
  interval_ms := by decide
  frames := by decide

end Camera3D.Config
