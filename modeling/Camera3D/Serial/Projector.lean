import Mathlib.Data.List.Basic

/-! The projector behind a serial port: wire frames, command handshakes and the port manager. -/
namespace Camera3D.Serial

/-- A serial port as a state machine, with the clock that its timeouts are measured by. -/
class ISerialPort (π : Type*) where
  openPort : π → UInt32 → ℕ → π × Bool
  close : π → π
  isOpen : π → Bool
  writeBytes : π → List UInt8 → π × Bool
  /-- `none` when the call fails. -/
  readBytes : π → ℕ → ℕ → π × Option (List UInt8)
  getLastErrorMessage : π → String
  nowMs : π → ℕ
  sleepMs : π → ℕ → π

/-- A `ProductionCommand` or `SetCommand` value; casts from a request can leave the enumerators. -/
abbrev Command := UInt8

def kWhiteScreenToEnd : Command := 0
def kExitBlackToTest : Command := 1
def kBlackScreen : Command := 2

def kProductionWire : List (List UInt8) :=
  [[0xEB, 0x90, 0x01, 0x01, 0x01, 0x00],
   [0xEB, 0x90, 0x01, 0x01, 0x02, 0x00],
   [0xEB, 0x90, 0x01, 0x01, 0x03, 0x00],
   [0xEB, 0x90, 0x01, 0x01, 0x19, 0x00],
   [0xEB, 0x90, 0x01, 0x09, 0x01, 0x00]]

def kSetWire : List (List UInt8) :=
  [[0xEB, 0x90, 0x01, 0x01, 0x00, 0x00],
   [0xEB, 0x90, 0x01, 0x02, 0x00, 0x00],
   [0xEB, 0x90, 0x01, 0x03, 0x00, 0x00],
   [0xEB, 0x90, 0x01, 0x04, 0x00, 0x00],
   [0xEB, 0x90, 0x01, 0x04, 0x50, 0x00],
   [0xEB, 0x90, 0x01, 0x04, 0xFF, 0x00],
   [0xEB, 0x90, 0x01, 0x05, 0x00, 0x00],
   [0xEB, 0x90, 0x01, 0x05, 0x01, 0x00],
   [0xEB, 0x90, 0x01, 0x05, 0x02, 0x00],
   [0xEB, 0x90, 0x01, 0x05, 0x03, 0x00],
   [0xEB, 0x90, 0x01, 0x05, 0x04, 0x00],
   [0xEB, 0x90, 0x01, 0x05, 0x08, 0x00],
   [0xEB, 0x90, 0x01, 0x05, 0x09, 0x00]]

def zeroFrame : List UInt8 := List.replicate 6 0

/-- The bounds 4 and 3 are the source's, below the 5 and 13 rows of the tables. -/
def productionFrame (cmd : Command) : List UInt8 :=
  if 4 ≤ cmd.toNat then zeroFrame else kProductionWire.getD cmd.toNat zeroFrame

def setFrame (cmd : Command) : List UInt8 :=
  if 3 ≤ cmd.toNat then zeroFrame else kSetWire.getD cmd.toNat zeroFrame

def matchAckSend (received : List UInt8) (expectedPayload : UInt8) : Bool :=
  received.take 6 = [0xEB, 0x90, 0x00, 0xAA, expectedPayload, 0x00]

/-- The stop image id of a finish frame. -/
def matchAckFinish (received : List UInt8) : Option UInt8 :=
  match received with
  | b0 :: b1 :: b2 :: b3 :: b4 :: b5 :: _ =>
    if b0 = 0xEB ∧ b1 = 0x90 ∧ b2 = 0x00 ∧ b3 = 0x55 ∧ b5 = 0x00 then some b4 else none
  | _ => none

structure ProjectorResult where
  ok : Bool := false
  message : String := ""
  deriving DecidableEq

section Port
variable {π : Type*} [ISerialPort π]
open ISerialPort

/-- The loop of `ReadAtLeastBytes`. Every pass reads a byte or sleeps, so `need` and the timeout
in milliseconds bound the passes. -/
def readLoop : ℕ → π → List UInt8 → ℕ → ℕ → π × List UInt8
  | 0, port, acc, _, _ => (port, acc)
  | fuel + 1, port, acc, need, deadline =>
    if need ≤ acc.length then (port, acc)
    else if deadline ≤ nowMs port then (port, acc)
    else
      let remain := deadline - nowMs port
      let slice := if remain < 1 then 1 else if 500 < remain then 500 else remain
      match readBytes port (need - acc.length) slice with
      | (port, none) => readLoop fuel (sleepMs port 1) acc need deadline
      | (port, some []) => readLoop fuel (sleepMs port 1) acc need deadline
      | (port, some chunk) => readLoop fuel port (acc ++ chunk) need deadline

def readAtLeastBytes (port : π) (need timeoutMs : ℕ) : π × List UInt8 × Bool :=
  let (port, acc) := readLoop (need + timeoutMs + 1) port [] need (nowMs port + timeoutMs)
  (port, acc, need ≤ acc.length)

def sendProductionCommand (port : π) (cmd : Command) (readTimeoutMs : ℕ) : π × ProjectorResult :=
  if 5 ≤ cmd.toNat then (port, ⟨false, "Unknown CMD!"⟩)
  else if !isOpen port then (port, ⟨false, "serial not open"⟩)
  else
    let frame := productionFrame cmd
    let (port, written) := writeBytes port frame
    if !written then (port, ⟨false, "send cmd error"⟩)
    else
      let (port, first, acked) := readAtLeastBytes port 6 readTimeoutMs
      if !acked then (port, ⟨false, "send cmd error (no ack)"⟩)
      else if !matchAckSend first (frame.getD 4 0) then
        (port, ⟨false, "send cmd error (ack mismatch)"⟩)
      else
        let (port, second, finished) := readAtLeastBytes port 6 readTimeoutMs
        if !finished then (port, ⟨false, "production unknow error (no finish)"⟩)
        else match matchAckFinish second with
          | none => (port, ⟨false, "production unknow error (finish mismatch)"⟩)
          | some stopImageId =>
            (port, ⟨true, "Send Production Good! stop_image=" ++ toString stopImageId.toNat⟩)

def sendSetCommand (port : π) (cmd : Command) (readTimeoutMs : ℕ) : π × ProjectorResult :=
  if 13 ≤ cmd.toNat then (port, ⟨false, "Unknown CMD!"⟩)
  else if !isOpen port then (port, ⟨false, "serial not open"⟩)
  else
    let frame := setFrame cmd
    let (port, written) := writeBytes port frame
    if !written then (port, ⟨false, "send cmd error"⟩)
    else
      let (port, first, acked) := readAtLeastBytes port 6 readTimeoutMs
      if !acked then (port, ⟨false, "send cmd error (no ack)"⟩)
      else if !matchAckSend first (frame.getD 4 0) then
        (port, ⟨false, "send cmd error (ack mismatch)"⟩)
      else (port, ⟨true, "Send Set Good!"⟩)

structure SerialPortManager (π : Type*) where
  port : π
  lastError : String := ""

def SerialPortManager.openPort (sp : SerialPortManager π) (comIndex : UInt32) (baudRate : ℕ) :
    SerialPortManager π × Bool :=
  let (port, opened) := ISerialPort.openPort sp.port comIndex baudRate
  if opened then (⟨port, ""⟩, true) else (⟨port, getLastErrorMessage port⟩, false)

def SerialPortManager.close (sp : SerialPortManager π) : SerialPortManager π :=
  { sp with port := ISerialPort.close sp.port }

def SerialPortManager.isOpen (sp : SerialPortManager π) : Bool := ISerialPort.isOpen sp.port

def SerialPortManager.getLastErrorMessage (sp : SerialPortManager π) : String :=
  if sp.lastError ≠ "" then sp.lastError else ISerialPort.getLastErrorMessage sp.port

end Port

/-- A projector that acknowledges every command; `reply` is what is still to be read. -/
structure EchoPort where
  opened : Bool := true
  reply : List UInt8 := []
  deriving DecidableEq

instance : ISerialPort EchoPort where
  openPort p _ _ := ({ p with opened := true }, true)
  close p := { p with opened := false }
  isOpen p := p.opened
  writeBytes p data := ({ p with reply :=
    [0xEB, 0x90, 0x00, 0xAA, data.getD 4 0, 0x00, 0xEB, 0x90, 0x00, 0x55, 0x00, 0x00] }, true)
  readBytes p maxLen _ := ({ p with reply := p.reply.drop maxLen }, some (p.reply.take maxLen))
  getLastErrorMessage _ := ""
  nowMs _ := 0
  sleepMs p _ := p

end Camera3D.Serial
