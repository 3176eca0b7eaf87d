import Camera3D.Serial.Projector

/-! What a command does to the port it is sent on: nothing but to write, to read and to wait. -/
namespace Camera3D.Serial
open ISerialPort

/-- A property of ports that writing, reading and waiting keep. -/
structure KeptByIO {π : Type*} [ISerialPort π] (I : π → Prop) : Prop where
  write : ∀ p data, I p → I (writeBytes p data).1
  read : ∀ p maxLen timeoutMs, I p → I (readBytes p maxLen timeoutMs).1
  sleep : ∀ p ms, I p → I (sleepMs p ms)

namespace KeptByIO
variable {π : Type*} [ISerialPort π] {I : π → Prop}

theorem readLoop (h : KeptByIO I) (fuel : ℕ) {p : π} (hp : I p) (acc : List UInt8)
    (need deadline : ℕ) : I (readLoop fuel p acc need deadline).1 := by
  induction fuel generalizing p acc with
  | zero => exact hp
  | succ fuel ih =>
    rw [Serial.readLoop]
    split_ifs
    · exact hp
    · exact hp
    · dsimp only
      have hread := h.read p (need - acc.length)
        (if deadline - nowMs p < 1 then 1 else if 500 < deadline - nowMs p then 500
          else deadline - nowMs p) hp
      split
      next port he =>
        rw [he] at hread
        exact ih (h.sleep _ 1 hread) acc
      next port he =>
        rw [he] at hread
        exact ih (h.sleep _ 1 hread) acc
      next port chunk _ he =>
        rw [he] at hread
        exact ih hread _

theorem readAtLeastBytes (h : KeptByIO I) {p : π} (hp : I p) (need timeoutMs : ℕ) :
    I (readAtLeastBytes p need timeoutMs).1 := by
  unfold Serial.readAtLeastBytes
  exact h.readLoop _ hp _ _ _

theorem sendProductionCommand (h : KeptByIO I) {p : π} (hp : I p) (cmd : Command) (timeoutMs : ℕ) :
    I (sendProductionCommand p cmd timeoutMs).1 := by
  have hwrite := h.write p (productionFrame cmd) hp
  have hack := h.readAtLeastBytes hwrite 6 timeoutMs
  have hfinish := h.readAtLeastBytes hack 6 timeoutMs
  unfold Serial.sendProductionCommand
  dsimp only
  split_ifs
  · exact hp
  · exact hp
  · exact hwrite
  · exact hack
  · exact hack
  · exact hfinish
  · split
    · exact hfinish
    · exact hfinish

theorem sendSetCommand (h : KeptByIO I) {p : π} (hp : I p) (cmd : Command) (timeoutMs : ℕ) :
    I (sendSetCommand p cmd timeoutMs).1 := by
  have hwrite := h.write p (setFrame cmd) hp
  have hack := h.readAtLeastBytes hwrite 6 timeoutMs
  unfold Serial.sendSetCommand
  dsimp only
  split_ifs
  · exact hp
  · exact hp
  · exact hwrite
  · exact hack
  · exact hack
  · exact hack

end KeptByIO

section Results
variable {π : Type*} [ISerialPort π] {port port₁ port₂ port₃ : π} {cmd : Command} {timeoutMs : ℕ}
  {first second : List UInt8} {acked finished : Bool}

theorem sendSetCommand_of_not_ready (hready : 13 ≤ cmd.toNat ∨ isOpen port = false) :
    (sendSetCommand port cmd timeoutMs).2.ok = false := by
  unfold sendSetCommand
  split_ifs with hknown hopen
  · rfl
  · rfl
  · rcases hready with hready | hready
    · exact absurd hready hknown
    · simp [hready] at hopen

theorem sendProductionCommand_of_not_ready (hready : 5 ≤ cmd.toNat ∨ isOpen port = false) :
    (sendProductionCommand port cmd timeoutMs).2.ok = false := by
  unfold sendProductionCommand
  split_ifs with hknown hopen
  · rfl
  · rfl
  · rcases hready with hready | hready
    · exact absurd hready hknown
    · simp [hready] at hopen

/-- A set command that is sent succeeds exactly if its ack frame is read. -/
theorem sendSetCommand_sent (hknown : cmd.toNat < 13) (hopen : isOpen port = true)
    (hwrite : writeBytes port (setFrame cmd) = (port₁, true))
    (hread : readAtLeastBytes port₁ 6 timeoutMs = (port₂, first, acked)) :
    (sendSetCommand port cmd timeoutMs).1 = port₂ ∧
      (sendSetCommand port cmd timeoutMs).2.ok
        = (acked && matchAckSend first ((setFrame cmd).getD 4 0)) := by
  unfold sendSetCommand
  rw [if_neg (by omega), hopen]
  dsimp only
  rw [hwrite]
  dsimp only
  rw [hread]
  cases acked with
  | false => simp
  | true => cases matchAckSend first ((setFrame cmd).getD 4 0) <;> simp

/-- A production command that does not get its ack frame does not wait for a finish frame. -/
theorem sendProductionCommand_unacked (hknown : cmd.toNat < 5) (hopen : isOpen port = true)
    (hwrite : writeBytes port (productionFrame cmd) = (port₁, true))
    (hread : readAtLeastBytes port₁ 6 timeoutMs = (port₂, first, acked))
    (hacked : (acked && matchAckSend first ((productionFrame cmd).getD 4 0)) = false) :
    (sendProductionCommand port cmd timeoutMs).2.ok = false := by
  unfold sendProductionCommand
  rw [if_neg (by omega), hopen]
  dsimp only
  rw [hwrite]
  dsimp only
  rw [hread]
  cases acked with
  | false => simp
  | true =>
    rw [Bool.true_and] at hacked
    dsimp only
    rw [hacked]
    simp

theorem sendProductionCommand_acked (hknown : cmd.toNat < 5) (hopen : isOpen port = true)
    (hwrite : writeBytes port (productionFrame cmd) = (port₁, true))
    (hread : readAtLeastBytes port₁ 6 timeoutMs = (port₂, first, true))
    (hacked : matchAckSend first ((productionFrame cmd).getD 4 0) = true)
    (hsecond : readAtLeastBytes port₂ 6 timeoutMs = (port₃, second, finished)) :
    (sendProductionCommand port cmd timeoutMs).1 = port₃ ∧
      (sendProductionCommand port cmd timeoutMs).2.ok
        = (finished && (matchAckFinish second).isSome) := by
  unfold sendProductionCommand
  rw [if_neg (by omega), hopen]
  dsimp only
  rw [hwrite]
  dsimp only
  rw [hread]
  dsimp only
  rw [hacked, hsecond]
  cases finished with
  | false => simp
  | true => cases matchAckFinish second <;> simp

end Results

/-- Whether the port is open is decided by `Open`, which says so, and not by reading and writing. -/
class LawfulSerialPort (π : Type*) [ISerialPort π] : Prop where
  isOpen_openPort : ∀ (p : π) (comIndex : UInt32) (baudRate : ℕ),
    isOpen (openPort p comIndex baudRate).1 = (openPort p comIndex baudRate).2
  isOpen_writeBytes : ∀ (p : π) (data : List UInt8), isOpen (writeBytes p data).1 = isOpen p
  isOpen_readBytes : ∀ (p : π) (maxLen timeoutMs : ℕ), isOpen (readBytes p maxLen timeoutMs).1 = isOpen p
  isOpen_sleepMs : ∀ (p : π) (ms : ℕ), isOpen (sleepMs p ms) = isOpen p

instance : LawfulSerialPort EchoPort where
  isOpen_openPort _ _ _ := rfl
  isOpen_writeBytes _ _ := rfl
  isOpen_readBytes _ _ _ := rfl
  isOpen_sleepMs _ _ := rfl

theorem LawfulSerialPort.keptByIO {π : Type*} [ISerialPort π] [LawfulSerialPort π] (b : Bool) :
    KeptByIO fun p : π => isOpen p = b :=
  ⟨fun p data hp => (isOpen_writeBytes p data).trans hp,
    fun p maxLen timeoutMs hp => (isOpen_readBytes p maxLen timeoutMs).trans hp,
    fun p ms hp => (isOpen_sleepMs p ms).trans hp⟩

theorem SerialPortManager.isOpen_openPort {π : Type*} [ISerialPort π] [LawfulSerialPort π]
    (sp : SerialPortManager π) (comIndex : UInt32) (baudRate : ℕ) :
    (sp.openPort comIndex baudRate).1.isOpen = (sp.openPort comIndex baudRate).2 := by
  have hlaw := LawfulSerialPort.isOpen_openPort sp.port comIndex baudRate
  unfold SerialPortManager.openPort
  dsimp only
  split_ifs with hopened
  · exact hlaw.trans hopened
  · rw [Bool.not_eq_true] at hopened
    exact hlaw.trans hopened

/-- A port that was closed is not open. -/
class ClosesPort (π : Type*) [ISerialPort π] : Prop where
  isOpen_close : ∀ p : π, isOpen (close p) = false

instance : ClosesPort EchoPort := ⟨fun _ => rfl⟩

end Camera3D.Serial
