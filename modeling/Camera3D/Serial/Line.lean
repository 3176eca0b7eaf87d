import Camera3D.Serial.Win32
import Mathlib.Data.List.TakeWhile

/-! A projector at the other end of the line. It answers each command that it receives, in order,
into the input buffer of the port, and a read takes what has arrived. -/
namespace Camera3D.Serial

/-- A byte of an answer, with the time it arrives at and the number of the command it answers. -/
structure Byte where
  arrival : ℕ
  command : ℕ
  value : UInt8
  deriving DecidableEq

structure Device where
  /-- The commands that it answers with a finish frame too. -/
  produces : List UInt8 → Bool
  stopImage : ℕ → UInt8
  /-- How long byte `i` of the answer to command `n` lets wait, after the byte before it. -/
  delay : ℕ → ℕ → ℕ

def ackFrame (payload : UInt8) : List UInt8 := [0xEB, 0x90, 0x00, 0xAA, payload, 0x00]

def finishFrame (stopImageId : UInt8) : List UInt8 := [0xEB, 0x90, 0x00, 0x55, stopImageId, 0x00]

/-- The answer to command `n`. Only frames of six bytes are commands. -/
def Device.answer (d : Device) (n : ℕ) (frame : List UInt8) : List UInt8 :=
  if frame.length = 6 then
    ackFrame (frame.getD 4 0) ++ if d.produces frame then finishFrame (d.stopImage n) else []
  else []

/-- The bytes `values` of the answer to command `n`, from byte `i` on and after the time `t`. -/
def stamp (delay : ℕ → ℕ) (n : ℕ) : ℕ → ℕ → List UInt8 → List Byte
  | _, _, [] => []
  | t, i, v :: vs => ⟨t + delay i, n, v⟩ :: stamp delay n (t + delay i) (i + 1) vs

/-- `queue` is the input buffer with the bytes still under way behind it, and `consumed` is what the
port has read so far. -/
structure Line where
  device : Device
  /-- How long each read would wait for its bytes. -/
  patience : ℕ → ℕ
  /-- A thread that sleeps may be woken this much later than it asked for. -/
  lateMs : ℕ := 0
  /-- How much later than it asks for each sleep ends. -/
  overslept : ℕ → Fin (lateMs + 1) := fun _ => 0
  timeouts : COMMTIMEOUTS := SerialPortWin32.portTimeouts
  now : ℕ := 0
  queue : List Byte := []
  consumed : List Byte := []
  received : ℕ := 0
  reads : ℕ := 0
  sleeps : ℕ := 0

namespace Line

/-- An answer starts after every byte that is still in the queue. -/
def answerStart (os : Line) : ℕ := (os.queue.map Byte.arrival).foldr max os.now

/-- The bytes that answer the next command. -/
def answered (os : Line) (data : List UInt8) : List Byte :=
  stamp (os.device.delay os.received) os.received os.answerStart 0 (os.device.answer os.received data)

def writeFile (os : Line) (data : List UInt8) : Line :=
  { os with queue := os.queue ++ os.answered data, received := os.received + 1 }

/-- The longest that a read of `n` bytes may wait. -/
def blockMs (os : Line) (n : ℕ) : ℕ :=
  os.timeouts.readTotalTimeoutConstant.toNat + n * os.timeouts.readTotalTimeoutMultiplier.toNat

/-- When the next read of `n` bytes returns. -/
def readUntil (os : Line) (n : ℕ) : ℕ := os.now + min (os.patience os.reads) (os.blockMs n)

/-- What the next read of `n` bytes returns. -/
def arrived (os : Line) (n : ℕ) : List Byte :=
  (os.queue.takeWhile fun b => b.arrival ≤ os.readUntil n).take n

def readFile (os : Line) (n : ℕ) : Line :=
  { os with
    now := os.readUntil n
    queue := os.queue.drop (os.arrived n).length
    consumed := os.consumed ++ os.arrived n
    reads := os.reads + 1 }

def sleepMs (os : Line) (ms : ℕ) : Line :=
  { os with now := os.now + ms + os.overslept os.sleeps, sleeps := os.sleeps + 1 }

end Line

instance : Win32Comm Line where
  createFile os _ := (os, some 1)
  closeHandle os _ := os
  getCommState os _ := (os, some ⟨9600, 8, NOPARITY, ONESTOPBIT, 0⟩)
  setCommState os _ _ := (os, true)
  setCommTimeouts os _ timeouts := { os with timeouts := timeouts }
  writeFile os _ data := (os.writeFile data, some data.length)
  readFile os _ n := (os.readFile n, some ((os.arrived n).map Byte.value))
  nowMs := Line.now
  sleepMs := Line.sleepMs

section Stamp
variable (delay : ℕ → ℕ) (n : ℕ)

@[simp] theorem map_value_stamp (t i : ℕ) (vs : List UInt8) :
    (stamp delay n t i vs).map Byte.value = vs := by
  induction vs generalizing t i with
  | nil => rfl
  | cons v vs ih => simp [stamp, ih]

theorem command_of_mem_stamp {t i : ℕ} {vs : List UInt8} {b : Byte}
    (hb : b ∈ stamp delay n t i vs) : b.command = n := by
  induction vs generalizing t i with
  | nil => simp [stamp] at hb
  | cons v vs ih =>
    rcases List.mem_cons.mp hb with rfl | hb
    · rfl
    · exact ih hb

theorem le_arrival_of_mem_stamp {t i : ℕ} {vs : List UInt8} {b : Byte}
    (hb : b ∈ stamp delay n t i vs) : t ≤ b.arrival := by
  induction vs generalizing t i with
  | nil => simp [stamp] at hb
  | cons v vs ih =>
    rcases List.mem_cons.mp hb with rfl | hb
    · exact Nat.le_add_right t (delay i)
    · have := ih hb
      omega

end Stamp

namespace Line

/-- Nothing but reading and waiting leads from `os` to `os'`, and `taken` is what was read. -/
structure Took (os : Line) (taken : List Byte) (os' : Line) : Prop where
  queue : os.queue = taken ++ os'.queue
  consumed : os'.consumed = os.consumed ++ taken
  now : os.now ≤ os'.now
  timeouts : os'.timeouts = os.timeouts
  lateMs : os'.lateMs = os.lateMs

theorem Took.refl (os : Line) : os.Took [] os :=
  ⟨rfl, (List.append_nil _).symm, Nat.le_refl _, rfl, rfl⟩

theorem Took.trans {os os' os'' : Line} {taken more : List Byte} (h : os.Took taken os')
    (h' : os'.Took more os'') : os.Took (taken ++ more) os'' := by
  constructor
  · rw [h.queue, h'.queue, List.append_assoc]
  · rw [h'.consumed, h.consumed, List.append_assoc]
  · exact Nat.le_trans h.now h'.now
  · rw [h'.timeouts, h.timeouts]
  · rw [h'.lateMs, h.lateMs]

/-- A sleep lasts as long as asked for, or up to `lateMs` longer. -/
theorem now_sleepMs (os : Line) (ms : ℕ) :
    os.now + ms ≤ (os.sleepMs ms).now ∧ (os.sleepMs ms).now ≤ os.now + ms + os.lateMs :=
  ⟨Nat.le_add_right _ _, Nat.add_le_add_left (Nat.le_of_lt_succ (os.overslept os.sleeps).isLt) _⟩

theorem took_sleepMs (os : Line) (ms : ℕ) : os.Took [] (os.sleepMs ms) :=
  ⟨rfl, (List.append_nil _).symm, Nat.le_trans (Nat.le_add_right _ _) (os.now_sleepMs ms).1, rfl, rfl⟩

theorem arrived_prefix (os : Line) (n : ℕ) : os.arrived n <+: os.queue :=
  (List.take_prefix _ _).trans (List.takeWhile_prefix _)

theorem took_readFile (os : Line) (n : ℕ) : os.Took (os.arrived n) (os.readFile n) :=
  ⟨(List.prefix_iff_eq_append.mp (os.arrived_prefix n)).symm, rfl, Nat.le_add_right _ _, rfl, rfl⟩

theorem length_arrived_le (os : Line) (n : ℕ) : (os.arrived n).length ≤ n :=
  List.length_take_le _ _

theorem arrival_le_of_mem_arrived {os : Line} {n : ℕ} {b : Byte} (hb : b ∈ os.arrived n) :
    b.arrival ≤ os.now + os.blockMs n := by
  have h : b.arrival ≤ os.readUntil n := by
    simpa using List.mem_takeWhile_imp (List.mem_of_mem_take hb)
  unfold readUntil at h
  omega

/-- A read that returns fewer bytes than it was asked for has taken all that had arrived. -/
theorem now_lt_of_short (os : Line) (n : ℕ) (hshort : (os.arrived n).length < n) :
    ∀ b ∈ (os.readFile n).queue.head?, (os.readFile n).now < b.arrival := by
  intro b hb
  have hall : os.arrived n = os.queue.takeWhile fun b => b.arrival ≤ os.readUntil n := by
    apply List.take_of_length_le
    unfold arrived at hshort
    rw [List.length_take] at hshort
    omega
  have hrest : (os.readFile n).queue = os.queue.dropWhile fun b => b.arrival ≤ os.readUntil n := by
    have h : os.arrived n ++ os.queue.dropWhile (fun b => b.arrival ≤ os.readUntil n) = os.queue := by
      rw [hall]
      exact List.takeWhile_append_dropWhile
    exact (List.append_cancel_left (h.trans (os.took_readFile n).queue)).symm
  rw [hrest] at hb
  have hnot := List.head?_dropWhile_not (fun b : Byte => decide (b.arrival ≤ os.readUntil n)) os.queue
  rw [hb] at hnot
  have hlate : os.readUntil n < b.arrival := by simpa using hnot
  exact hlate

theorem arrival_le_answerStart {os : Line} {b : Byte} (hb : b ∈ os.queue) :
    b.arrival ≤ os.answerStart := by
  unfold answerStart
  generalize os.queue = queue at hb ⊢
  induction queue with
  | nil => simp at hb
  | cons b' bs ih =>
    rcases List.mem_cons.mp hb with rfl | hb
    · exact Nat.le_max_left _ _
    · exact Nat.le_trans (ih hb) (Nat.le_max_right _ _)

theorem answerStart_le_arrival {os : Line} {data : List UInt8} {b : Byte}
    (hb : b ∈ os.answered data) : os.answerStart ≤ b.arrival :=
  le_arrival_of_mem_stamp _ _ hb

theorem command_of_mem_answered {os : Line} {data : List UInt8} {b : Byte}
    (hb : b ∈ os.answered data) : b.command = os.received :=
  command_of_mem_stamp _ _ hb

/-- A six-byte command is answered with six bytes, or with twelve. -/
theorem map_value_answered {os : Line} {data : List UInt8} (hsix : data.length = 6) :
    (os.answered data).map Byte.value = ackFrame (data.getD 4 0) ++
      if os.device.produces data then finishFrame (os.device.stopImage os.received) else [] := by
  unfold answered Device.answer
  rw [map_value_stamp, if_pos hsix]

end Line
end Camera3D.Serial
