import Camera3D.Serial.Reading
import Camera3D.Transition.Run

/-! Which answers a command reads. The frames carry no number, and nothing empties the input buffer
before a command is sent. -/
namespace Camera3D.Serial
open Transition

/-- A call on the port, or time that passes between two calls. -/
inductive LineEvent
  | production (cmd : Command) (readTimeoutMs : ℕ)
  | set (cmd : Command) (readTimeoutMs : ℕ)
  | pass (ms : ℕ)
  deriving DecidableEq

/-- The command is none of the values that its call refuses. -/
def LineEvent.Known : LineEvent → Prop
  | .production cmd _ => cmd.toNat < 5
  | .set cmd _ => cmd.toNat < 13
  | .pass _ => False

def LineEvent.timeoutMs : LineEvent → ℕ
  | .production _ t => t
  | .set _ t => t
  | .pass _ => 0

abbrev LinePort := SerialPortWin32 Line

namespace LinePort

def send (p : LinePort) : LineEvent → LinePort × ProjectorResult
  | .production cmd t => sendProductionCommand p cmd t
  | .set cmd t => sendSetCommand p cmd t
  | .pass ms => ({ p with os := { p.os with now := p.os.now + ms } }, {})

def step (p : LinePort) (e : LineEvent) : LinePort := (p.send e).1

/-- The bytes that the step reads. -/
def consumedBy (p : LinePort) (e : LineEvent) : List Byte :=
  (p.step e).os.consumed.drop p.os.consumed.length

/-- The ack frame that answers `frame` if it is sent next. -/
def ack (p : LinePort) (frame : List UInt8) : List Byte := (p.os.answered frame).take 6

def finish (p : LinePort) (frame : List UInt8) : List Byte := (p.os.answered frame).drop 6

def ackDeadline (p : LinePort) (t : ℕ) : ℕ := p.os.now + t

/-- The timeout of the finish frame starts when the ack frame has been read. -/
def finishDeadline (p : LinePort) (frame : List UInt8) (t : ℕ) : ℕ :=
  (readAtLeastBytes (ISerialPort.writeBytes p frame).1 6 t).1.os.now + t

/-- The call sends its command and then reads. -/
def Listens (p : LinePort) (e : LineEvent) : Prop := p.isOpen ∧ e.Known ∧ 0 < e.timeoutMs

/-- The answers to the call all arrive within its timeouts. -/
def InTime (p : LinePort) : LineEvent → Prop
  | .production cmd t => p.Listens (.production cmd t) ∧ p.os.device.produces (productionFrame cmd) ∧
      (∀ b ∈ p.ack (productionFrame cmd), b.arrival < p.ackDeadline t) ∧
      ∀ b ∈ p.finish (productionFrame cmd), b.arrival < p.finishDeadline (productionFrame cmd) t
  | .set cmd t => p.Listens (.set cmd t) ∧ ∀ b ∈ p.ack (setFrame cmd), b.arrival < p.ackDeadline t
  | .pass _ => False

/-- A call that succeeds has read the answers to its own command, and a call whose answers arrive in
time succeeds. -/
def Paired (p : LinePort) (e : LineEvent) : Prop :=
  ((p.send e).2.ok = true → ∀ b ∈ p.consumedBy e, b.command = p.os.received) ∧
    (p.InTime e → (p.send e).2.ok = true)

/-- No answer to an earlier command arrives before the call has given up on its ack frame. -/
def Drained (p : LinePort) (t : ℕ) : Prop :=
  ∀ b ∈ p.os.queue.head?, p.ackDeadline t + p.os.blockMs 6 ≤ b.arrival

/-- No byte of the answers arrives so late before its deadline that a sleep may miss it. -/
def Polled (p : LinePort) : LineEvent → Prop
  | .production cmd t =>
      (∀ b ∈ p.ack (productionFrame cmd), b.arrival + p.os.unpolledMs t < p.ackDeadline t) ∧
      ∀ b ∈ p.finish (productionFrame cmd),
        b.arrival + p.os.unpolledMs t < p.finishDeadline (productionFrame cmd) t
  | .set cmd t => ∀ b ∈ p.ack (setFrame cmd), b.arrival + p.os.unpolledMs t < p.ackDeadline t
  | .pass _ => True

def Clear (p : LinePort) (e : LineEvent) : Prop :=
  (p.Listens e → p.Drained e.timeoutMs) ∧ (p.InTime e → p.Polled e)

end LinePort

/-- Commands take six bytes, also where the tables have no row for them. -/
theorem length_productionFrame (cmd : Command) : (productionFrame cmd).length = 6 := by
  unfold productionFrame
  split_ifs with hbound
  · rfl
  · have h : ∀ i < 4, (kProductionWire.getD i zeroFrame).length = 6 := by decide
    exact h _ (Nat.lt_of_not_le hbound)

theorem length_setFrame (cmd : Command) : (setFrame cmd).length = 6 := by
  unfold setFrame
  split_ifs with hbound
  · rfl
  · have h : ∀ i < 3, (kSetWire.getD i zeroFrame).length = 6 := by decide
    exact h _ (Nat.lt_of_not_le hbound)

theorem matchAckSend_ackFrame (payload : UInt8) : matchAckSend (ackFrame payload) payload = true := by
  simp [matchAckSend, ackFrame]

theorem matchAckFinish_finishFrame (stopImageId : UInt8) :
    matchAckFinish (finishFrame stopImageId) = some stopImageId := by
  simp [matchAckFinish, finishFrame]

/-- A read of six bytes that all arrive in time, and none of them unpolled, takes them all. -/
theorem Line.Read.full {os os' : Line} {taken : List Byte} {deadline gap : ℕ}
    (h : os.Read 6 deadline taken os') (hlen : 6 ≤ os.queue.length)
    (hend : taken.length < 6 → ∀ b ∈ os'.queue.head?, deadline ≤ b.arrival + gap)
    (hpolled : ∀ b ∈ os.queue.take 6, b.arrival + gap < deadline) :
    taken.length = 6 := by
  by_contra hne
  have hle := h.length_le
  have hshort : taken.length < 6 := by omega
  rw [h.queue] at hlen hpolled
  cases hrest : os'.queue with
  | nil =>
    rw [hrest, List.append_nil] at hlen
    omega
  | cons b bs =>
    have hmem : b ∈ (taken ++ os'.queue).take 6 := by
      obtain ⟨k, hk⟩ : ∃ k, 6 - taken.length = k + 1 := ⟨5 - taken.length, by omega⟩
      rw [List.take_append, hrest, hk, List.take_succ_cons]
      simp
    have hlate := hend hshort b (by rw [hrest]; rfl)
    have hlt := hpolled b hmem
    omega

namespace LinePort
variable {p : LinePort} {frame : List UInt8} {t : ℕ} {h : HANDLE}

theorem writeBytes_eq (hopen : p.handle = some h) (frame : List UInt8) :
    ISerialPort.writeBytes p frame = ({ p with os := p.os.writeFile frame }, true) := by
  change SerialPortWin32.writeBytes p frame = _
  unfold SerialPortWin32.writeBytes
  have hfile : Win32Comm.writeFile p.os h frame = (p.os.writeFile frame, some frame.length) := rfl
  rw [hopen]
  simp [hfile]

theorem map_value_ack (hsix : frame.length = 6) :
    (p.ack frame).map Byte.value = ackFrame (frame.getD 4 0) := by
  unfold ack
  rw [List.map_take, Line.map_value_answered hsix]
  exact List.take_left' rfl

theorem map_value_finish (hsix : frame.length = 6) (hproduces : p.os.device.produces frame) :
    (p.finish frame).map Byte.value = finishFrame (p.os.device.stopImage p.os.received) := by
  unfold finish
  rw [List.map_drop, Line.map_value_answered hsix, if_pos hproduces]
  exact List.drop_left' rfl

theorem length_finish (hsix : frame.length = 6) (hproduces : p.os.device.produces frame) :
    (p.finish frame).length = 6 := by
  have hvalue := congrArg List.length (map_value_finish hsix hproduces)
  rwa [List.length_map] at hvalue

theorem command_of_mem_ack {b : Byte} (hb : b ∈ p.ack frame) : b.command = p.os.received :=
  Line.command_of_mem_answered (List.mem_of_mem_take hb)

theorem command_of_mem_finish {b : Byte} (hb : b ∈ p.finish frame) : b.command = p.os.received :=
  Line.command_of_mem_answered (List.mem_of_mem_drop hb)

theorem length_ack (hsix : frame.length = 6) : (p.ack frame).length = 6 := by
  have hvalue := congrArg List.length (p.map_value_ack hsix)
  rwa [List.length_map] at hvalue

/-- Once the earlier answers are drained, six bytes read after a command are its ack frame. -/
theorem Drained.ack_read (hdrained : p.Drained t) {taken : List Byte}
    {os : Line} (hread : (p.os.writeFile frame).Read 6 (p.ackDeadline t) taken os)
    (hfull : 6 ≤ taken.length) :
    p.os.queue = [] ∧ taken = p.ack frame ∧ os.queue = p.finish frame := by
  have hlen : taken.length = 6 := by
    have := hread.length_le
    omega
  have hqueue : p.os.queue ++ p.os.answered frame = taken ++ os.queue := hread.queue
  cases hleft : p.os.queue with
  | nil =>
    rw [hleft, List.nil_append] at hqueue
    refine ⟨rfl, ?_, ?_⟩
    · unfold ack
      rw [hqueue]
      exact (List.take_left' hlen).symm
    · unfold finish
      rw [hqueue]
      exact (List.drop_left' hlen).symm
  | cons b bs =>
    have hlate := hdrained b (by rw [hleft]; rfl)
    rw [hleft] at hqueue
    cases taken with
    | nil => simp at hlen
    | cons b' taken =>
      obtain ⟨rfl, -⟩ := List.cons.inj hqueue
      have hlt := hread.arrival_lt b (List.mem_cons_self ..)
      exact absurd (Nat.lt_of_lt_of_le hlt hlate) (Nat.lt_irrefl _)

/-- An answer that arrives in time leaves no room for an earlier one on the line. -/
theorem Drained.queue_eq_nil (hdrained : p.Drained t) (hsix : frame.length = 6)
    (harrive : ∀ b ∈ p.ack frame, b.arrival < p.ackDeadline t) : p.os.queue = [] := by
  cases hleft : p.os.queue with
  | nil => rfl
  | cons b bs =>
    have hlate := hdrained b (by rw [hleft]; rfl)
    obtain ⟨own, hown⟩ := List.exists_mem_of_length_pos
      (l := p.ack frame) (by rw [length_ack hsix]; omega)
    have hlt := harrive own hown
    have hstart := Line.answerStart_le_arrival (List.mem_of_mem_take hown)
    have hbefore : b.arrival ≤ p.os.answerStart := Line.arrival_le_answerStart (by
      rw [hleft]
      exact List.mem_cons_self ..)
    omega

/-- The first of the two reads of a call. -/
theorem exchange (hopen : p.handle = some h) (hsix : frame.length = 6) (t : ℕ) :
    ∃ taken os, readAtLeastBytes ({ p with os := p.os.writeFile frame } : LinePort) 6 t
        = ({ p with os := os }, taken.map Byte.value, decide (6 ≤ taken.length)) ∧
      (p.os.writeFile frame).Read 6 (p.ackDeadline t) taken os ∧
      (p.Drained t → (∀ b ∈ p.ack frame, b.arrival < p.ackDeadline t) →
        (∀ b ∈ p.ack frame, b.arrival + p.os.unpolledMs t < p.ackDeadline t) → 0 < t →
        6 ≤ taken.length) := by
  obtain ⟨taken, os, heq, hread, hend⟩ := readAtLeastBytes_read
    (p := { p with os := p.os.writeFile frame }) hopen 6 t
  refine ⟨taken, os, heq, hread, ?_⟩
  intro hdrained harrive hpolled hpos
  have hqueue : (p.os.writeFile frame).queue = p.os.answered frame := by
    change p.os.queue ++ p.os.answered frame = _
    rw [hdrained.queue_eq_nil hsix harrive, List.nil_append]
  have hlen := length_ack (p := p) hsix
  unfold ack at hlen hpolled
  rw [← hqueue] at hlen hpolled
  rw [List.length_take] at hlen
  have hroom : 6 ≤ (p.os.writeFile frame).queue.length := by omega
  exact (hread.full hroom (hend hpos) hpolled).ge

theorem consumedBy_eq {e : LineEvent} {os : Line} {taken : List Byte}
    (hstep : p.step e = { p with os := os }) (hconsumed : os.consumed = p.os.consumed ++ taken) :
    p.consumedBy e = taken := by
  unfold consumedBy
  rw [hstep, hconsumed]
  exact List.drop_left

theorem isOpen_eq (hopen : p.handle = some h) : p.isOpen = true := by
  simp [SerialPortWin32.isOpen, hopen]

theorem set_answers {cmd : Command} (hknown : cmd.toNat < 13) (hopen : p.handle = some h)
    (hdrained : 0 < t → p.Drained t) (hsent : (p.send (.set cmd t)).2.ok = true) :
    ∀ b ∈ p.consumedBy (.set cmd t), b.command = p.os.received := by
  obtain ⟨taken, os, heq, hread, -⟩ := exchange hopen (length_setFrame cmd) t
  obtain ⟨hstep, hok⟩ := sendSetCommand_sent hknown (isOpen_eq hopen) (writeBytes_eq hopen _) heq
  have hacked := hok.symm.trans hsent
  rw [Bool.and_eq_true, decide_eq_true_eq] at hacked
  have hpos : 0 < t :=
    Nat.pos_of_lt_add_right (hread.now_lt (List.ne_nil_of_length_pos (by omega)))
  obtain ⟨_, hack, _⟩ := (hdrained hpos).ack_read hread hacked.1
  rw [consumedBy_eq (e := .set cmd t) hstep hread.consumed, hack]
  exact fun b hb => command_of_mem_ack hb

theorem set_succeeds {cmd : Command} (hopen : p.handle = some h) (hdrained : p.Drained t)
    (htime : p.InTime (.set cmd t)) (hpolled : p.Polled (.set cmd t)) :
    (p.send (.set cmd t)).2.ok = true := by
  have hsix := length_setFrame cmd
  obtain ⟨⟨hisOpen, hknown, hpos⟩, harrive⟩ := htime
  obtain ⟨taken, os, heq, hread, hfull⟩ := exchange hopen hsix t
  obtain ⟨-, hok⟩ := sendSetCommand_sent hknown hisOpen (writeBytes_eq hopen _) heq
  obtain ⟨_, hack, _⟩ := hdrained.ack_read hread (hfull hdrained harrive hpolled hpos)
  refine hok.trans ?_
  rw [hack, map_value_ack hsix, matchAckSend_ackFrame, length_ack hsix]
  rfl

/-- A production command that succeeds has read its ack frame first. -/
theorem acked_of_production_ok {cmd : Command} (hknown : cmd.toNat < 5) (hopen : p.handle = some h)
    {port : LinePort} {first : List UInt8} {acked : Bool}
    (hread : readAtLeastBytes ({ p with os := p.os.writeFile (productionFrame cmd) } : LinePort) 6 t
      = (port, first, acked)) (hsent : (p.send (.production cmd t)).2.ok = true) :
    acked = true ∧ matchAckSend first ((productionFrame cmd).getD 4 0) = true := by
  rw [← Bool.and_eq_true]
  by_contra hacked
  have hfailed := sendProductionCommand_unacked hknown (isOpen_eq hopen) (writeBytes_eq hopen _)
    hread ((Bool.not_eq_true _).mp hacked)
  exact absurd (hfailed.symm.trans hsent) Bool.false_ne_true

theorem production_answers {cmd : Command} (hknown : cmd.toNat < 5) (hopen : p.handle = some h)
    (hdrained : 0 < t → p.Drained t) (hsent : (p.send (.production cmd t)).2.ok = true) :
    ∀ b ∈ p.consumedBy (.production cmd t), b.command = p.os.received := by
  obtain ⟨taken, os, heq, hread, -⟩ := exchange hopen (length_productionFrame cmd) t
  obtain ⟨more, os', heq', hread', -⟩ := readAtLeastBytes_read
    (p := { p with os := os }) hopen 6 t
  obtain ⟨hacked, hmatch⟩ := acked_of_production_ok hknown hopen heq hsent
  rw [hacked] at heq
  obtain ⟨hstep, -⟩ := sendProductionCommand_acked hknown (isOpen_eq hopen) (writeBytes_eq hopen _)
    heq hmatch heq'
  have hsix : 6 ≤ taken.length := of_decide_eq_true hacked
  have hpos : 0 < t :=
    Nat.pos_of_lt_add_right (hread.now_lt (List.ne_nil_of_length_pos (by omega)))
  obtain ⟨_, hack, hrest⟩ := (hdrained hpos).ack_read hread hsix
  have hqueue : p.finish (productionFrame cmd) = more ++ os'.queue := hrest.symm.trans hread'.queue
  have hconsumed : os'.consumed = p.os.consumed ++ (taken ++ more) := by
    rw [hread'.consumed, hread.consumed, List.append_assoc]
    rfl
  rw [consumedBy_eq (e := .production cmd t) hstep hconsumed]
  intro b hb
  rcases List.mem_append.mp hb with hb | hb
  · rw [hack] at hb
    exact command_of_mem_ack hb
  · have hb : b ∈ p.finish (productionFrame cmd) := by
      rw [hqueue]
      exact List.mem_append_left _ hb
    exact command_of_mem_finish hb

theorem production_succeeds {cmd : Command} (hopen : p.handle = some h) (hdrained : p.Drained t)
    (htime : p.InTime (.production cmd t)) (hpolled : p.Polled (.production cmd t)) :
    (p.send (.production cmd t)).2.ok = true := by
  have hsix := length_productionFrame cmd
  have hwrite := writeBytes_eq hopen (productionFrame cmd)
  obtain ⟨⟨hisOpen, hknown, hpos⟩, hproduces, harrive, harrive'⟩ := htime
  obtain ⟨taken, os, heq, hread, hfull⟩ := exchange hopen hsix t
  obtain ⟨more, os', heq', hread', hend'⟩ := readAtLeastBytes_read
    (p := { p with os := os }) hopen 6 t
  have hdeadline : p.finishDeadline (productionFrame cmd) t = os.now + t := by
    unfold finishDeadline
    rw [hwrite, heq]
  -- the first read takes the ack frame and leaves the finish frame
  have hacked := hfull hdrained harrive hpolled.1 hpos
  obtain ⟨_, hack, hrest⟩ := hdrained.ack_read hread hacked
  have hmatch : matchAckSend (taken.map Byte.value) ((productionFrame cmd).getD 4 0) = true := by
    rw [hack, map_value_ack hsix, matchAckSend_ackFrame]
  rw [decide_eq_true hacked] at heq
  obtain ⟨-, hok⟩ := sendProductionCommand_acked hknown hisOpen hwrite heq hmatch heq'
  -- and the second takes that
  have hlen := length_finish hsix hproduces
  have hfinish : os.queue.take 6 = p.finish (productionFrame cmd) := by
    rw [hrest]
    exact List.take_of_length_le hlen.le
  have hgap : os.unpolledMs t = p.os.unpolledMs t := by
    unfold Line.unpolledMs
    rw [hread.lateMs]
    rfl
  have hmore : more.length = 6 := by
    apply hread'.full
    · rw [hrest, hlen]
    · exact hend' hpos
    · rw [hfinish, hgap, ← hdeadline]
      exact hpolled.2
  have hmore' : more = p.finish (productionFrame cmd) := by
    rw [← hfinish, hread'.queue]
    exact (List.take_left' hmore).symm
  refine hok.trans ?_
  rw [hmore', map_value_finish hsix hproduces, matchAckFinish_finishFrame, hlen]
  rfl

theorem failed_of_not_ready {e : LineEvent} (hready : ¬(p.isOpen = true ∧ e.Known)) :
    (p.send e).2.ok = false := by
  rw [not_and_or, Bool.not_eq_true] at hready
  cases e with
  | production cmd t =>
    exact sendProductionCommand_of_not_ready (hready.symm.imp_left Nat.le_of_not_lt)
  | set cmd t => exact sendSetCommand_of_not_ready (hready.symm.imp_left Nat.le_of_not_lt)
  | pass ms => rfl

theorem InTime.listens {e : LineEvent} (htime : p.InTime e) : p.Listens e := by
  cases e with
  | production cmd t => exact htime.1
  | set cmd t => exact htime.1
  | pass ms => exact htime.elim

/-- A call whose input buffer is clear of the answers to earlier commands is paired with its own. -/
theorem paired_of_clear {e : LineEvent} (hclear : p.Clear e) : p.Paired e := by
  by_cases hready : p.isOpen = true ∧ e.Known
  · obtain ⟨hisOpen, hknown⟩ := hready
    obtain ⟨h, hopen⟩ := Option.isSome_iff_exists.mp hisOpen
    have hdrained : 0 < e.timeoutMs → p.Drained e.timeoutMs :=
      fun hpos => hclear.1 ⟨hisOpen, hknown, hpos⟩
    cases e with
    | production cmd t =>
      constructor
      · exact production_answers hknown hopen hdrained
      · intro htime
        exact production_succeeds hopen (hclear.1 htime.listens) htime (hclear.2 htime)
    | set cmd t =>
      constructor
      · exact set_answers hknown hopen hdrained
      · intro htime
        exact set_succeeds hopen (hclear.1 htime.listens) htime (hclear.2 htime)
    | pass ms => exact hknown.elim
  · constructor
    · intro hok
      exact absurd ((failed_of_not_ready hready).symm.trans hok) Bool.false_ne_true
    · exact fun htime => absurd ⟨htime.listens.1, htime.listens.2.1⟩ hready

instance : DecidablePred LineEvent.Known
  | .production cmd _ => inferInstanceAs (Decidable (cmd.toNat < 5))
  | .set cmd _ => inferInstanceAs (Decidable (cmd.toNat < 13))
  | .pass _ => isFalse not_false

instance (e : LineEvent) : Decidable (p.Listens e) :=
  inferInstanceAs (Decidable (_ ∧ _ ∧ _))

instance (p : LinePort) : DecidablePred p.InTime
  | .production _ _ => inferInstanceAs (Decidable (_ ∧ _ ∧ _ ∧ _))
  | .set _ _ => inferInstanceAs (Decidable (_ ∧ _))
  | .pass _ => isFalse not_false

instance (p : LinePort) : DecidablePred p.Polled
  | .production _ _ => inferInstanceAs (Decidable (_ ∧ _))
  | .set cmd _ => inferInstanceAs (Decidable (∀ b ∈ p.ack (setFrame cmd), _))
  | .pass _ => isTrue trivial

instance (e : LineEvent) : Decidable (p.Paired e) := inferInstanceAs (Decidable (_ ∧ _))

instance : Decidable (p.Drained t) :=
  inferInstanceAs (Decidable (∀ b ∈ p.os.queue.head?, p.ackDeadline t + p.os.blockMs 6 ≤ b.arrival))

instance (e : LineEvent) : Decidable (p.Clear e) := inferInstanceAs (Decidable ((_ → _) ∧ (_ → _)))

/-- The device answers its first command after 4 s and every other one at once, and every other sleep
lasts 15 ms too long. -/
def slowFirst : LinePort where
  os := {
    device := {
      produces := fun frame => frame ∈ kProductionWire
      stopImage := fun _ => 7
      delay := fun n i => if n = 0 ∧ i = 0 then 4000 else 0 }
    patience := fun _ => 260
    lateMs := 15
    overslept := fun n => if n % 2 = 0 then 15 else 0 }
  handle := some 1

end LinePort
end Camera3D.Serial
