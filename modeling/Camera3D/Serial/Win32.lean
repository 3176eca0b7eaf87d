import Camera3D.Serial.Handshake

/-! `SerialPortWin32`, over the calls of the operating system that it makes. -/
namespace Camera3D.Serial

abbrev HANDLE := UInt64

/-- The fields of the device control block that the port sets. -/
structure DCB where
  baudRate : ℕ
  byteSize : UInt8
  parity : UInt8
  stopBits : UInt8
  fRtsControl : UInt32
  deriving DecidableEq

def NOPARITY : UInt8 := 0
def ONESTOPBIT : UInt8 := 0
def RTS_CONTROL_ENABLE : UInt32 := 1

structure COMMTIMEOUTS where
  readIntervalTimeout : UInt32
  readTotalTimeoutConstant : UInt32
  readTotalTimeoutMultiplier : UInt32
  writeTotalTimeoutConstant : UInt32
  writeTotalTimeoutMultiplier : UInt32
  deriving DecidableEq

/-- The operating system, with the devices and the clock behind it. A call that fails gives `none`, or
`false`. -/
class Win32Comm (ω : Type*) where
  createFile : ω → String → ω × Option HANDLE
  closeHandle : ω → HANDLE → ω
  getCommState : ω → HANDLE → ω × Option DCB
  setCommState : ω → HANDLE → DCB → ω × Bool
  setCommTimeouts : ω → HANDLE → COMMTIMEOUTS → ω
  /-- The number of bytes written. -/
  writeFile : ω → HANDLE → List UInt8 → ω × Option ℕ
  readFile : ω → HANDLE → ℕ → ω × Option (List UInt8)
  nowMs : ω → ℕ
  sleepMs : ω → ℕ → ω

/-- `none` is `INVALID_HANDLE_VALUE`. -/
structure SerialPortWin32 (ω : Type*) where
  os : ω
  handle : Option HANDLE := none
  portName : String := ""
  devicePath : String := ""
  lastErr : String := ""
  deriving DecidableEq

namespace SerialPortWin32
variable {ω : Type*} [Win32Comm ω]
open Win32Comm

def close (p : SerialPortWin32 ω) : SerialPortWin32 ω :=
  match p.handle with
  | none => { p with portName := "", devicePath := "" }
  | some h => { p with os := closeHandle p.os h, handle := none, portName := "", devicePath := "" }

def portTimeouts : COMMTIMEOUTS where
  readIntervalTimeout := 50
  readTotalTimeoutConstant := 200
  readTotalTimeoutMultiplier := 10
  writeTotalTimeoutConstant := 200
  writeTotalTimeoutMultiplier := 10

def comName (portIndex : UInt32) : String := "COM" ++ toString portIndex.toNat

def comPath (portIndex : UInt32) : String :=
  if 9 < portIndex then "\\\\.\\COM" ++ toString portIndex.toNat else comName portIndex

def openPort (p : SerialPortWin32 ω) (portIndex : UInt32) (baudRate : ℕ) : SerialPortWin32 ω × Bool :=
  let p := p.close
  if portIndex = 0 then ({ p with lastErr := "invalid com index: 0" }, false)
  else
    let p := { p with portName := comName portIndex, devicePath := comPath portIndex, lastErr := "" }
    match createFile p.os (comPath portIndex) with
    | (os, none) =>
      ({ p with os := os, lastErr := "CreateFile failed for " ++ comName portIndex }, false)
    | (os, some h) =>
      match getCommState os h with
      | (os, none) =>
        (close { p with os := os, handle := some h, lastErr := "GetCommState failed" }, false)
      | (os, some dcb) =>
        match setCommState os h { dcb with
          baudRate := baudRate
          byteSize := 8
          parity := NOPARITY
          stopBits := ONESTOPBIT
          fRtsControl := RTS_CONTROL_ENABLE } with
        | (os, false) =>
          (close { p with os := os, handle := some h, lastErr := "SetCommState failed" }, false)
        | (os, true) =>
          ({ p with os := setCommTimeouts os h portTimeouts, handle := some h }, true)

def isOpen (p : SerialPortWin32 ω) : Bool := p.handle.isSome

def writeBytes (p : SerialPortWin32 ω) (data : List UInt8) : SerialPortWin32 ω × Bool :=
  match p.handle with
  | none => (p, false)
  | some h =>
    match writeFile p.os h data with
    | (os, some written) =>
      if written = data.length then ({ p with os := os }, true)
      else ({ p with os := os, lastErr := "WriteFile failed" }, false)
    | (os, none) => ({ p with os := os, lastErr := "WriteFile failed" }, false)

/-- The loop of `ReadBytes`. Every pass reads a byte or sleeps, so `maxLen` and the timeout in
milliseconds bound the passes. -/
def readFileLoop (h : HANDLE) (maxLen deadline : ℕ) : ℕ → ω → List UInt8 → ω × Option (List UInt8)
  | 0, os, out => (os, some out)
  | fuel + 1, os, out =>
    if out.length < maxLen ∧ nowMs os < deadline then
      match readFile os h (maxLen - out.length) with
      | (os, none) => (os, none)
      | (os, some []) => readFileLoop h maxLen deadline fuel (sleepMs os 1) out
      | (os, some chunk) => readFileLoop h maxLen deadline fuel os (out ++ chunk)
    else (os, some out)

/-- What was read before `ReadFile` fails is lost. -/
def readBytes (p : SerialPortWin32 ω) (maxLen timeoutMs : ℕ) :
    SerialPortWin32 ω × Option (List UInt8) :=
  match p.handle with
  | none => (p, none)
  | some h =>
    match readFileLoop h maxLen (nowMs p.os + timeoutMs) (maxLen + timeoutMs + 1) p.os [] with
    | (os, none) => ({ p with os := os, lastErr := "ReadFile failed" }, none)
    | (os, some out) => ({ p with os := os }, some out)

instance : ISerialPort (SerialPortWin32 ω) where
  openPort := openPort
  close := close
  isOpen := isOpen
  writeBytes := writeBytes
  readBytes := readBytes
  getLastErrorMessage p := p.lastErr
  nowMs p := nowMs p.os
  sleepMs p ms := { p with os := sleepMs p.os ms }

@[simp] theorem close_handle (p : SerialPortWin32 ω) : p.close.handle = none := by
  unfold close
  split
  next h => exact h
  next h => rfl

/-- Neither of the two calls touches the handle, whether it fails or not. -/
@[simp] theorem writeBytes_handle (p : SerialPortWin32 ω) (data : List UInt8) :
    (p.writeBytes data).1.handle = p.handle := by
  unfold writeBytes
  split
  · rfl
  · split
    · split_ifs
      · rfl
      · rfl
    · rfl

@[simp] theorem readBytes_handle (p : SerialPortWin32 ω) (maxLen timeoutMs : ℕ) :
    (p.readBytes maxLen timeoutMs).1.handle = p.handle := by
  unfold readBytes
  split
  · rfl
  · split
    · rfl
    · rfl

/-- The port is open exactly if the last attempt to open it succeeded. -/
theorem openPort_isOpen (p : SerialPortWin32 ω) (portIndex : UInt32) (baudRate : ℕ) :
    (p.openPort portIndex baudRate).1.isOpen = (p.openPort portIndex baudRate).2 := by
  unfold openPort isOpen
  dsimp only
  split_ifs
  · simp
  · rcases createFile p.close.os (comPath portIndex) with ⟨os, _ | h⟩
    · simp
    · dsimp only
      rcases getCommState os h with ⟨os, _ | dcb⟩
      · simp
      · dsimp only
        split
        · simp
        · simp

instance : LawfulSerialPort (SerialPortWin32 ω) where
  isOpen_openPort := openPort_isOpen
  isOpen_writeBytes p data := congrArg Option.isSome (p.writeBytes_handle data)
  isOpen_readBytes p maxLen timeoutMs := congrArg Option.isSome (p.readBytes_handle maxLen timeoutMs)
  isOpen_sleepMs _ _ := rfl

instance : ClosesPort (SerialPortWin32 ω) := ⟨fun p => congrArg Option.isSome p.close_handle⟩

end SerialPortWin32
end Camera3D.Serial
