import Camera3D.Serial.Passes

/-! A port that writes down what is asked of it, and what a command asks of its port. -/
namespace Camera3D.Serial
open ISerialPort

inductive PortEvent where
  | wrote (data : List UInt8) (ok : Bool)
  | read (chunk : Option (List UInt8))
  deriving DecidableEq

/-- A port with the writes and reads that were asked of it, oldest first. -/
structure Recorded (π : Type*) where
  port : π
  events : List PortEvent := []

section Instance
variable {π : Type*} [ISerialPort π]

instance : ISerialPort (Recorded π) where
  openPort r comIndex baudRate :=
    ({ r with port := (openPort r.port comIndex baudRate).1 }, (openPort r.port comIndex baudRate).2)
  close r := { r with port := close r.port }
  isOpen r := isOpen r.port
  writeBytes r data :=
    (⟨(writeBytes r.port data).1, r.events ++ [.wrote data (writeBytes r.port data).2]⟩,
      (writeBytes r.port data).2)
  readBytes r maxLen timeoutMs :=
    (⟨(readBytes r.port maxLen timeoutMs).1, r.events ++ [.read (readBytes r.port maxLen timeoutMs).2]⟩,
      (readBytes r.port maxLen timeoutMs).2)
  getLastErrorMessage r := getLastErrorMessage r.port
  nowMs r := nowMs r.port
  sleepMs r ms := { r with port := sleepMs r.port ms }

end Instance

/-- What was written, write by write. -/
def written (events : List PortEvent) : List (List UInt8) :=
  events.filterMap fun
    | .wrote data _ => some data
    | .read _ => none

/-- The bytes that reads have delivered. -/
def received (events : List PortEvent) : List UInt8 :=
  events.flatMap fun
    | .wrote _ _ => []
    | .read chunk => chunk.getD []

theorem written_append (xs ys : List PortEvent) : written (xs ++ ys) = written xs ++ written ys :=
  List.filterMap_append

theorem received_append (xs ys : List PortEvent) :
    received (xs ++ ys) = received xs ++ received ys := List.flatMap_append

/-- Reads that deliver no more than they are asked for. -/
class BoundedReads (π : Type*) [ISerialPort π] : Prop where
  length_le : ∀ (p : π) (maxLen timeoutMs : ℕ),
    ((readBytes p maxLen timeoutMs).2.getD []).length ≤ maxLen

section Reading
variable {π : Type*}

/-- What reading adds to the record: reads, whose bytes are accumulated. -/
structure Reads (r r' : Recorded π) (acc acc' : List UInt8) (reads : List PortEvent) : Prop where
  events : r'.events = r.events ++ reads
  written : written reads = []
  received : acc' = acc ++ received reads

theorem Reads.refl (r : Recorded π) (acc : List UInt8) : Reads r r acc acc [] := by
  constructor
  · rw [List.append_nil]
  · rfl
  · exact (List.append_nil acc).symm

theorem Reads.trans {r₁ r₂ r₃ : Recorded π} {acc₁ acc₂ acc₃ : List UInt8}
    {xs ys : List PortEvent} (h : Reads r₁ r₂ acc₁ acc₂ xs) (h' : Reads r₂ r₃ acc₂ acc₃ ys) :
    Reads r₁ r₃ acc₁ acc₃ (xs ++ ys) := by
  constructor
  · rw [h'.events, h.events, List.append_assoc]
  · rw [written_append, h.written, h'.written, List.append_nil]
  · rw [h'.received, h.received, received_append, List.append_assoc]

variable [ISerialPort π]

instance [BoundedReads π] : BoundedReads (Recorded π) :=
  ⟨fun r maxLen timeoutMs => BoundedReads.length_le r.port maxLen timeoutMs⟩

theorem pass_reads (need deadline : ℕ) (r : Recorded π) (acc : List UInt8) :
    ∃ reads, Reads r (pass need deadline (r, acc)).1 acc (pass need deadline (r, acc)).2 reads := by
  by_cases hdone : need ≤ acc.length ∨ deadline ≤ nowMs r
  · rw [pass_done hdone]
    exact ⟨[], Reads.refl r acc⟩
  · rcases hread : readBytes r (need - acc.length) (sliceMs (deadline - nowMs r)) with ⟨r', chunk⟩
    have hevents : r'.events = r.events ++ [.read chunk] := by
      obtain ⟨rfl, rfl⟩ := Prod.mk.inj hread
      rfl
    rw [pass_go hdone hread]
    refine ⟨[.read chunk], ?_, rfl, ?_⟩
    · split_ifs
      · exact hevents
      · exact hevents
    · simp [Serial.received]

theorem pass_length_le [BoundedReads π] {need deadline : ℕ} {port : π} {acc : List UInt8}
    (hacc : acc.length ≤ need) : (pass need deadline (port, acc)).2.length ≤ need := by
  by_cases hdone : need ≤ acc.length ∨ deadline ≤ nowMs port
  · rw [pass_done hdone]
    exact hacc
  · rcases hread : readBytes port (need - acc.length) (sliceMs (deadline - nowMs port))
      with ⟨port', chunk⟩
    have hchunk := BoundedReads.length_le port (need - acc.length) (sliceMs (deadline - nowMs port))
    rw [hread] at hchunk
    rw [pass_go hdone hread, List.length_append]
    dsimp only at hchunk ⊢
    omega

theorem readLoop_reads (fuel : ℕ) (r : Recorded π) (need deadline : ℕ) :
    ∃ reads, Reads r (readLoop fuel r [] need deadline).1 [] (readLoop fuel r [] need deadline).2
      reads := by
  refine readLoop_induction (I := fun r' acc' => ∃ reads, Reads r r' [] acc' reads) ?_ _
    ⟨[], Reads.refl r []⟩
  rintro r' acc' ⟨reads, h⟩
  obtain ⟨more, h'⟩ := pass_reads need deadline r' acc'
  exact ⟨reads ++ more, h.trans h'⟩

theorem readLoop_length_le [BoundedReads π] (fuel : ℕ) (port : π) (need deadline : ℕ) :
    (readLoop fuel port [] need deadline).2.length ≤ need := by
  refine readLoop_induction (I := fun _ acc' => acc'.length ≤ need) ?_ _ (Nat.zero_le need)
  exact fun _ _ hI => pass_length_le hI

/-- Reading writes nothing. -/
theorem readAtLeastBytes_written (r : Recorded π) (need timeoutMs : ℕ) :
    ∃ reads, (readAtLeastBytes r need timeoutMs).1.events = r.events ++ reads ∧
      written reads = [] := by
  obtain ⟨reads, h⟩ := readLoop_reads (need + timeoutMs + 1) r need (nowMs r + timeoutMs)
  exact ⟨reads, h.events, h.written⟩

theorem readAtLeastBytes_reads [BoundedReads π] {r r' : Recorded π} {need timeoutMs : ℕ}
    {acc : List UInt8} {full : Bool} (h : readAtLeastBytes r need timeoutMs = (r', acc, full)) :
    ∃ reads, r'.events = r.events ++ reads ∧ written reads = [] ∧ acc = received reads ∧
      acc.length ≤ need ∧ full = decide (need ≤ acc.length) := by
  unfold readAtLeastBytes at h
  dsimp only at h
  obtain ⟨rfl, hrest⟩ := Prod.mk.inj h
  obtain ⟨rfl, rfl⟩ := Prod.mk.inj hrest
  obtain ⟨reads, hreads⟩ := readLoop_reads (need + timeoutMs + 1) r need (nowMs r + timeoutMs)
  have hlength := readLoop_length_le (need + timeoutMs + 1) r need (nowMs r + timeoutMs)
  exact ⟨reads, hreads.events, hreads.written, hreads.received, hlength, rfl⟩

end Reading

def kFromImage1ToEnd : Command := 1
def kPick8From24 : Command := 4

/-- The documented row of a command. -/
def productionRow (cmd : Command) : List UInt8 := kProductionWire.getD cmd.toNat zeroFrame

def setRow (cmd : Command) : List UInt8 := kSetWire.getD cmd.toNat zeroFrame

def Acknowledges (row bytes : List UInt8) : Prop :=
  bytes.take 6 = [0xEB, 0x90, 0x00, 0xAA, row.getD 4 0, 0x00]

def Finishes (bytes : List UInt8) : Prop :=
  ∃ stopImageId : UInt8, bytes.take 6 = [0xEB, 0x90, 0x00, 0x55, stopImageId, 0x00]

/-- The exchange of a command: its row is written before anything is read, the result is ok exactly
if the frames that answer it are received, and no byte is read beyond them. -/
def Exchanged (row : List UInt8) (finish : Bool) (events : List PortEvent) (ok : Bool) : Prop :=
  ∃ success reads, events = .wrote row success :: reads ∧ written reads = [] ∧
    (ok = true ↔ success = true ∧ Acknowledges row (received reads) ∧
      (finish = true → Finishes ((received reads).drop 6))) ∧
    (received reads).length ≤ if finish then 12 else 6

theorem matchAckSend_iff {row bytes : List UInt8} (hlength : bytes.length ≤ 6) :
    (decide (6 ≤ bytes.length) && matchAckSend bytes (row.getD 4 0)) = true ↔
      Acknowledges row bytes := by
  unfold matchAckSend Acknowledges
  rw [Bool.and_eq_true, decide_eq_true_iff, decide_eq_true_iff]
  constructor
  · exact fun h => h.2
  · intro h
    have hsix := congrArg List.length h
    rw [List.length_take] at hsix
    simp only [List.length_cons, List.length_nil] at hsix
    exact ⟨by omega, h⟩

theorem matchAckFinish_iff {bytes : List UInt8} :
    (decide (6 ≤ bytes.length) && (matchAckFinish bytes).isSome) = true ↔ Finishes bytes := by
  unfold Finishes
  rcases bytes with _ | ⟨b0, _ | ⟨b1, _ | ⟨b2, _ | ⟨b3, _ | ⟨b4, _ | ⟨b5, rest⟩⟩⟩⟩⟩⟩
  case cons.cons.cons.cons.cons.cons =>
    simp only [matchAckFinish, List.length_cons, List.take_succ_cons, List.take_zero]
    split_ifs with hmatch
    · obtain ⟨rfl, rfl, rfl, rfl, rfl⟩ := hmatch
      simp
    · simp only [Option.isSome_none, Bool.and_false, Bool.false_eq_true, false_iff]
      rintro ⟨stopImageId, h⟩
      simp only [List.cons.injEq] at h
      exact hmatch ⟨h.1, h.2.1, h.2.2.1, h.2.2.2.1, h.2.2.2.2.2.1⟩
  all_goals simp [matchAckFinish]

section Unsent
variable {π : Type*} [ISerialPort π] {port port₁ port₂ : π} {cmd : Command} {timeoutMs : ℕ}
  {first : List UInt8} {acked : Bool}

theorem sendSetCommand_unsent (hknown : cmd.toNat < 13) (hopen : isOpen port = true)
    (hwrite : writeBytes port (setFrame cmd) = (port₁, false)) :
    sendSetCommand port cmd timeoutMs = (port₁, ⟨false, "send cmd error"⟩) := by
  unfold sendSetCommand
  rw [if_neg (by omega), hopen]
  simp [hwrite]

theorem sendProductionCommand_unsent (hknown : cmd.toNat < 5) (hopen : isOpen port = true)
    (hwrite : writeBytes port (productionFrame cmd) = (port₁, false)) :
    sendProductionCommand port cmd timeoutMs = (port₁, ⟨false, "send cmd error"⟩) := by
  unfold sendProductionCommand
  rw [if_neg (by omega), hopen]
  simp [hwrite]

/-- A production command that does not get its ack frame reads no further. -/
theorem sendProductionCommand_unacked_port (hknown : cmd.toNat < 5) (hopen : isOpen port = true)
    (hwrite : writeBytes port (productionFrame cmd) = (port₁, true))
    (hread : readAtLeastBytes port₁ 6 timeoutMs = (port₂, first, acked))
    (hacked : (acked && matchAckSend first ((productionFrame cmd).getD 4 0)) = false) :
    (sendProductionCommand port cmd timeoutMs).1 = port₂ := by
  unfold sendProductionCommand
  rw [if_neg (by omega), hopen]
  dsimp only
  rw [hwrite]
  dsimp only
  rw [hread]
  cases acked with
  | false => rfl
  | true =>
    rw [Bool.true_and] at hacked
    dsimp only
    rw [hacked]
    rfl

end Unsent

section Commands
variable {π : Type*} [ISerialPort π] [BoundedReads π]

theorem sendSetCommand_exchanged {p : π} (hopen : isOpen p = true) {cmd : Command}
    (hknown : cmd.toNat < 13) (timeoutMs : ℕ) :
    Exchanged (setFrame cmd) false
      (sendSetCommand (⟨p, []⟩ : Recorded π) cmd timeoutMs).1.events
      (sendSetCommand (⟨p, []⟩ : Recorded π) cmd timeoutMs).2.ok := by
  have hopen' : isOpen (⟨p, []⟩ : Recorded π) = true := hopen
  rcases hwrite : writeBytes (⟨p, []⟩ : Recorded π) (setFrame cmd) with ⟨r₁, success⟩
  have hevents : r₁.events = [.wrote (setFrame cmd) success] := by
    obtain ⟨rfl, rfl⟩ := Prod.mk.inj hwrite
    rfl
  cases success with
  | false =>
    rw [sendSetCommand_unsent hknown hopen' hwrite]
    exact ⟨false, [], hevents, rfl, by simp, Nat.zero_le _⟩
  | true =>
    rcases hread : readAtLeastBytes r₁ 6 timeoutMs with ⟨r₂, first, acked⟩
    obtain ⟨hport, hok⟩ := sendSetCommand_sent hknown hopen' hwrite hread
    obtain ⟨reads, hreads, hwritten, rfl, hlength, rfl⟩ := readAtLeastBytes_reads hread
    rw [hport, hok, hreads, hevents]
    refine ⟨true, reads, rfl, hwritten, ?_, hlength⟩
    rw [matchAckSend_iff hlength]
    simp

theorem sendProductionCommand_exchanged {p : π} (hopen : isOpen p = true) {cmd : Command}
    (hknown : cmd.toNat < 5) (timeoutMs : ℕ) :
    Exchanged (productionFrame cmd) true
      (sendProductionCommand (⟨p, []⟩ : Recorded π) cmd timeoutMs).1.events
      (sendProductionCommand (⟨p, []⟩ : Recorded π) cmd timeoutMs).2.ok := by
  have hopen' : isOpen (⟨p, []⟩ : Recorded π) = true := hopen
  rcases hwrite : writeBytes (⟨p, []⟩ : Recorded π) (productionFrame cmd) with ⟨r₁, success⟩
  have hevents : r₁.events = [.wrote (productionFrame cmd) success] := by
    obtain ⟨rfl, rfl⟩ := Prod.mk.inj hwrite
    rfl
  cases success with
  | false =>
    rw [sendProductionCommand_unsent hknown hopen' hwrite]
    exact ⟨false, [], hevents, rfl, by simp, Nat.zero_le _⟩
  | true =>
    rcases hread : readAtLeastBytes r₁ 6 timeoutMs with ⟨r₂, first, acked⟩
    obtain ⟨reads, hreads, hwritten, rfl, hlength, rfl⟩ := readAtLeastBytes_reads hread
    have hacked_iff := @matchAckSend_iff (productionFrame cmd) _ hlength
    cases hacked : decide (6 ≤ (received reads).length) &&
        matchAckSend (received reads) ((productionFrame cmd).getD 4 0) with
    | false =>
      rw [hacked] at hacked_iff
      have hport := sendProductionCommand_unacked_port hknown hopen' hwrite hread hacked
      have hok := sendProductionCommand_unacked hknown hopen' hwrite hread hacked
      rw [hport, hok, hreads, hevents]
      refine ⟨true, reads, rfl, hwritten, ?_, ?_⟩
      · constructor
        · intro h
          cases h
        · exact fun h => hacked_iff.mpr h.2.1
      · rw [if_pos rfl]
        omega
    | true =>
      rw [hacked] at hacked_iff
      rw [Bool.and_eq_true, decide_eq_true_iff] at hacked
      obtain ⟨hsix, hmatch⟩ := hacked
      rw [decide_eq_true hsix] at hread
      rcases hsecond : readAtLeastBytes r₂ 6 timeoutMs with ⟨r₃, second, finished⟩
      obtain ⟨hport, hok⟩ := sendProductionCommand_acked hknown hopen' hwrite hread hmatch hsecond
      obtain ⟨more, hmore, hwritten', rfl, hlength', rfl⟩ := readAtLeastBytes_reads hsecond
      have hfirst : (received reads).length = 6 := Nat.le_antisymm hlength hsix
      have hdrop : (received (reads ++ more)).drop 6 = received more := by
        rw [received_append, ← hfirst, List.drop_left]
      have htake : Acknowledges (productionFrame cmd) (received (reads ++ more)) ↔
          Acknowledges (productionFrame cmd) (received reads) := by
        unfold Acknowledges
        rw [received_append, ← hfirst, List.take_left, List.take_length]
      rw [hport, hok, hmore, hreads, hevents]
      refine ⟨true, reads ++ more, ?_, ?_, ?_, ?_⟩
      · rw [List.append_assoc]
        rfl
      · rw [written_append, hwritten, hwritten']
        rfl
      · rw [matchAckFinish_iff, hdrop, htake]
        simp [hacked_iff.mp rfl]
      · rw [received_append, List.length_append, if_pos rfl]
        omega

end Commands

section Writes
variable {π : Type*} [ISerialPort π]

/-- A production command writes its frame and nothing else; an unknown one writes nothing. -/
theorem sendProductionCommand_written {r : Recorded π} (hopen : isOpen r = true) (cmd : Command)
    (timeoutMs : ℕ) :
    ∃ events, (sendProductionCommand r cmd timeoutMs).1.events = r.events ++ events ∧
      written events = if cmd.toNat < 5 then [productionFrame cmd] else [] := by
  by_cases hknown : cmd.toNat < 5
  · rcases hwrite : writeBytes r (productionFrame cmd) with ⟨r₁, success⟩
    have hevents : r₁.events = r.events ++ [.wrote (productionFrame cmd) success] := by
      obtain ⟨rfl, rfl⟩ := Prod.mk.inj hwrite
      rfl
    have hafter : ∀ r' : Recorded π, (∃ reads, r'.events = r₁.events ++ reads ∧ written reads = []) →
        ∃ events, r'.events = r.events ++ events ∧ written events = [productionFrame cmd] := by
      rintro r' ⟨reads, hreads, hwritten⟩
      refine ⟨.wrote (productionFrame cmd) success :: reads, ?_, ?_⟩
      · rw [hreads, hevents, List.append_assoc]
        rfl
      · exact congrArg (productionFrame cmd :: ·) hwritten
    obtain ⟨reads, hreads, hwritten⟩ := readAtLeastBytes_written r₁ 6 timeoutMs
    obtain ⟨more, hmore, hwritten'⟩ :=
      readAtLeastBytes_written (readAtLeastBytes r₁ 6 timeoutMs).1 6 timeoutMs
    have hboth : ∃ reads, (readAtLeastBytes (readAtLeastBytes r₁ 6 timeoutMs).1 6 timeoutMs).1.events =
        r₁.events ++ reads ∧ written reads = [] := by
      refine ⟨reads ++ more, ?_, ?_⟩
      · rw [hmore, hreads, List.append_assoc]
      · rw [written_append, hwritten, hwritten']
        rfl
    rw [if_pos hknown]
    apply hafter
    unfold sendProductionCommand
    rw [if_neg (by omega), hopen]
    simp only [hwrite, Bool.not_true, Bool.false_eq_true, if_false]
    split_ifs
    · exact ⟨[], (List.append_nil _).symm, rfl⟩
    · exact ⟨reads, hreads, hwritten⟩
    · exact ⟨reads, hreads, hwritten⟩
    · exact hboth
    · split
      · exact hboth
      · exact hboth
  · unfold sendProductionCommand
    rw [if_neg hknown, if_pos (by omega)]
    exact ⟨[], (List.append_nil _).symm, rfl⟩

end Writes

section Transparency
variable {π : Type*} [ISerialPort π]

theorem readsAs_port : ReadsAs (Recorded.port : Recorded π → π) where
  clock _ := rfl
  sleep _ _ := rfl
  read _ _ _ := rfl

theorem writeBytes_port {r r' : Recorded π} {data : List UInt8} {success : Bool}
    (h : writeBytes r data = (r', success)) : writeBytes r.port data = (r'.port, success) := by
  obtain ⟨rfl, rfl⟩ := Prod.mk.inj h
  rfl

/-- Recording changes nothing for the port and for the sender. -/
theorem sendProductionCommand_port (r : Recorded π) (cmd : Command) (timeoutMs : ℕ) :
    sendProductionCommand r.port cmd timeoutMs =
      ((sendProductionCommand r cmd timeoutMs).1.port, (sendProductionCommand r cmd timeoutMs).2) := by
  have hopen : isOpen r.port = isOpen r := rfl
  rcases hwrite : writeBytes r (productionFrame cmd) with ⟨r₁, success⟩
  have hack := readsAs_port.readAtLeastBytes r₁ 6 timeoutMs
  rcases hread : readAtLeastBytes r₁ 6 timeoutMs with ⟨r₂, first, acked⟩
  have hfinish := readsAs_port.readAtLeastBytes r₂ 6 timeoutMs
  rcases hsecond : readAtLeastBytes r₂ 6 timeoutMs with ⟨r₃, second, finished⟩
  rw [hread] at hack
  rw [hsecond] at hfinish
  unfold sendProductionCommand
  dsimp only
  rw [hopen, writeBytes_port hwrite, hwrite]
  dsimp only
  rw [hack, hread]
  dsimp only
  rw [hfinish, hsecond]
  dsimp only
  split_ifs
  · rfl
  · rfl
  · rfl
  · rfl
  · rfl
  · rfl
  · cases matchAckFinish second <;> rfl

theorem sendSetCommand_port (r : Recorded π) (cmd : Command) (timeoutMs : ℕ) :
    sendSetCommand r.port cmd timeoutMs =
      ((sendSetCommand r cmd timeoutMs).1.port, (sendSetCommand r cmd timeoutMs).2) := by
  have hopen : isOpen r.port = isOpen r := rfl
  rcases hwrite : writeBytes r (setFrame cmd) with ⟨r₁, success⟩
  have hack := readsAs_port.readAtLeastBytes r₁ 6 timeoutMs
  rcases hread : readAtLeastBytes r₁ 6 timeoutMs with ⟨r₂, first, acked⟩
  rw [hread] at hack
  unfold sendSetCommand
  dsimp only
  rw [hopen, writeBytes_port hwrite, hwrite]
  dsimp only
  rw [hack, hread]
  dsimp only
  split_ifs <;> rfl

end Transparency

section Handshake
variable {π : Type*} [ISerialPort π]

theorem Exchanged.row_eq {row row' : List UInt8} {finish : Bool} {events : List PortEvent} {ok : Bool}
    (h : Exchanged row finish events ok) (h' : Exchanged row' finish events ok) : row = row' := by
  obtain ⟨success, reads, he, _⟩ := h
  obtain ⟨success', reads', he', _⟩ := h'
  have hhead := (List.cons.inj (he.symm.trans he')).1
  exact (PortEvent.wrote.inj hhead).1

theorem productionFrame_eq_iff {cmd : Command} (hknown : cmd.toNat < 5) :
    productionFrame cmd = productionRow cmd ↔ cmd.toNat < 4 := by
  have hrow : kProductionWire.getD 4 zeroFrame ≠ zeroFrame := by decide
  unfold productionFrame productionRow
  split_ifs with hbound
  · have hfour : cmd.toNat = 4 := by omega
    rw [hfour]
    exact iff_of_false hrow.symm (by omega)
  · simp [Nat.not_le.mp hbound]

theorem getElem?_productionWire {cmd : Command} (hknown : cmd.toNat < 5) :
    kProductionWire[cmd.toNat]? = some (productionRow cmd) := by
  have hlength : kProductionWire.length = 5 := rfl
  unfold productionRow
  rw [List.getD_eq_getElem?_getD, List.getElem?_eq_getElem (by omega), Option.getD_some]

theorem setFrame_eq_iff {cmd : Command} (hknown : cmd.toNat < 13) :
    setFrame cmd = setRow cmd ↔ cmd.toNat < 3 := by
  have hrows : ∀ n < 13, kSetWire.getD n zeroFrame ≠ zeroFrame := by decide
  unfold setFrame setRow
  split_ifs with hbound
  · exact iff_of_false (hrows cmd.toNat hknown).symm (by omega)
  · simp [Nat.not_le.mp hbound]

/-- The commands that are sent as documented are those below the bounds of the frame builders. -/
theorem handshake_iff [BoundedReads π] {p : π} (hopen : isOpen p = true) (cmd : Command)
    (timeoutMs : ℕ) :
    (cmd.toNat < 5 → (Exchanged (productionRow cmd) true
      (sendProductionCommand (⟨p, []⟩ : Recorded π) cmd timeoutMs).1.events
      (sendProductionCommand p cmd timeoutMs).2.ok ↔ cmd.toNat < 4)) ∧
    (cmd.toNat < 13 → (Exchanged (setRow cmd) false
      (sendSetCommand (⟨p, []⟩ : Recorded π) cmd timeoutMs).1.events
      (sendSetCommand p cmd timeoutMs).2.ok ↔ cmd.toNat < 3)) := by
  constructor
  · intro hknown
    have hsent := sendProductionCommand_exchanged hopen hknown timeoutMs
    have hport := sendProductionCommand_port (⟨p, []⟩ : Recorded π) cmd timeoutMs
    rw [← productionFrame_eq_iff hknown]
    dsimp only at hport
    rw [hport]
    constructor
    · exact fun h => hsent.row_eq h
    · exact fun h => h ▸ hsent
  · intro hknown
    have hsent := sendSetCommand_exchanged hopen hknown timeoutMs
    have hport := sendSetCommand_port (⟨p, []⟩ : Recorded π) cmd timeoutMs
    rw [← setFrame_eq_iff hknown]
    dsimp only at hport
    rw [hport]
    constructor
    · exact fun h => hsent.row_eq h
    · exact fun h => h ▸ hsent

instance : BoundedReads EchoPort := ⟨fun p maxLen _ => List.length_take_le maxLen p.reply⟩

theorem handshake_iff_echo :
    isOpen ({} : EchoPort) = true ∧
      (kFromImage1ToEnd.toNat < 5 → (Exchanged (productionRow kFromImage1ToEnd) true
        (sendProductionCommand (⟨{}, []⟩ : Recorded EchoPort) kFromImage1ToEnd 3000).1.events
        (sendProductionCommand ({} : EchoPort) kFromImage1ToEnd 3000).2.ok ↔
          kFromImage1ToEnd.toNat < 4)) :=
  ⟨rfl, (handshake_iff rfl kFromImage1ToEnd 3000).1⟩

/-- `kPick8From24` is sent as six zero bytes. -/
theorem pick8From24_not_exchanged :
    ¬ ∀ (p : EchoPort) (cmd : Command) (timeoutMs : ℕ), isOpen p = true → cmd.toNat < 5 →
      Exchanged (productionRow cmd) true
        (sendProductionCommand (⟨p, []⟩ : Recorded EchoPort) cmd timeoutMs).1.events
        (sendProductionCommand p cmd timeoutMs).2.ok := by
  intro hall
  have hport := sendProductionCommand_port (⟨{}, []⟩ : Recorded EchoPort) kPick8From24 3000
  have hsent := sendProductionCommand_exchanged (p := ({} : EchoPort)) rfl
    (show kPick8From24.toNat < 5 by decide) 3000
  have hdocumented := hall {} kPick8From24 3000 rfl (by decide)
  dsimp only at hport
  rw [hport] at hdocumented
  have hframe := hsent.row_eq hdocumented
  revert hframe
  decide

end Handshake
end Camera3D.Serial
