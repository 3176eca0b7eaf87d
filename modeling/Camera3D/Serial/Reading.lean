import Camera3D.Serial.Line

/-! What the two reading loops take from the line: the head of the queue, and all of it that arrives
in time. -/
namespace Camera3D.Serial

namespace Line

/-- Reads that ask for `n` bytes and start before `deadline` lead from `os` to `os'`. -/
structure Read (os : Line) (n deadline : ℕ) (taken : List Byte) (os' : Line) : Prop
    extends os.Took taken os' where
  length_le : taken.length ≤ n
  now_lt : taken ≠ [] → os.now < deadline
  /-- The last of the reads may block beyond the deadline. -/
  arrival_lt : ∀ b ∈ taken, b.arrival < deadline + os.blockMs n

theorem blockMs_mono {os os' : Line} (htimeouts : os'.timeouts = os.timeouts) {m n : ℕ}
    (hmn : m ≤ n) : os'.blockMs m ≤ os.blockMs n := by
  unfold blockMs
  rw [htimeouts]
  have := Nat.mul_le_mul_right os.timeouts.readTotalTimeoutMultiplier.toNat hmn
  omega

theorem Read.nothing {os os' : Line} (h : os.Took [] os') (n deadline : ℕ) :
    os.Read n deadline [] os' where
  toTook := h
  length_le := Nat.zero_le n
  now_lt hsome := absurd rfl hsome
  arrival_lt := by simp

theorem Read.append {os os' os'' : Line} {n deadline : ℕ} {taken more : List Byte}
    (h : os.Read n deadline taken os') (h' : os'.Read (n - taken.length) deadline more os'') :
    os.Read n deadline (taken ++ more) os'' := by
  have hlen := h.length_le
  have hlen' := h'.length_le
  constructor
  case toTook => exact h.toTook.trans h'.toTook
  case length_le =>
    rw [List.length_append]
    omega
  case now_lt =>
    intro hsome
    by_cases hnone : taken = []
    · rw [hnone, List.nil_append] at hsome
      exact Nat.lt_of_le_of_lt h.now (h'.now_lt hsome)
    · exact h.now_lt hnone
  case arrival_lt =>
    intro b hb
    rcases List.mem_append.mp hb with hb | hb
    · exact h.arrival_lt b hb
    · have hblock := blockMs_mono h.timeouts (Nat.sub_le n taken.length)
      have hlt := h'.arrival_lt b hb
      omega

theorem Read.mono {os os' : Line} {n deadline deadline' : ℕ} {taken : List Byte}
    (h : os.Read n deadline taken os') (hle : deadline ≤ deadline') :
    os.Read n deadline' taken os' where
  toTook := h.toTook
  length_le := h.length_le
  now_lt hsome := Nat.lt_of_lt_of_le (h.now_lt hsome) hle
  arrival_lt b hb := by
    have := h.arrival_lt b hb
    omega

theorem read_readFile {os : Line} {deadline : ℕ} (hnow : os.now < deadline) (n : ℕ) :
    os.Read n deadline (os.arrived n) (os.readFile n) where
  toTook := os.took_readFile n
  length_le := os.length_arrived_le n
  now_lt _ := hnow
  arrival_lt b hb := by
    have := arrival_le_of_mem_arrived hb
    omega

/-- A loop that holds `out` reads up to `n` bytes more and ends with `out'`. If it has read fewer it
has given up, and `late` says what it leaves behind. -/
def Polls (os : Line) (n deadline : ℕ) (late : Line → Prop) (out : List UInt8) (os' : Line)
    (out' : List UInt8) : Prop :=
  ∃ taken, out' = out ++ taken.map Byte.value ∧ os.Read n deadline taken os' ∧
    (taken.length < n → late os')

/-- A loop that stops at once. -/
theorem Polls.stop {os : Line} {n deadline : ℕ} {late : Line → Prop} (out : List UInt8)
    (hlate : 0 < n → late os) : os.Polls n deadline late out os out := by
  refine ⟨[], ?_, Read.nothing (Took.refl os) n deadline, hlate⟩
  rw [List.map_nil, List.append_nil]

/-- A loop goes on with what a pass has read. -/
theorem Polls.pass {os os₁ os' : Line} {n deadline : ℕ} {late late' : Line → Prop}
    {chunk : List Byte} {out out' : List UInt8} (hread : os.Read n deadline chunk os₁)
    (h : os₁.Polls (n - chunk.length) deadline late (out ++ chunk.map Byte.value) os' out')
    (hlate : chunk.length < n → late os' → late' os') :
    os.Polls n deadline late' out os' out' := by
  obtain ⟨taken, rfl, hread', hend⟩ := h
  have hfit := hread.length_le
  refine ⟨chunk ++ taken, ?_, hread.append hread', ?_⟩
  · rw [List.map_append, List.append_assoc]
  · intro hlt
    rw [List.length_append] at hlt
    exact hlate (by omega) (hend (by omega))

/-- A pass that reads nothing sleeps for a millisecond, or longer. -/
theorem Polls.idle {os os₁ os' : Line} {n deadline : ℕ} {late late' : Line → Prop}
    {out out' : List UInt8} (hread : os.Read n deadline [] os₁)
    (h : (os₁.sleepMs 1).Polls n deadline late out os' out')
    (hlate : late os' → late' os') : os.Polls n deadline late' out os' out' := by
  have hslept := hread.append (Read.nothing (os₁.took_sleepMs 1) _ deadline)
  rw [← List.append_nil out] at h
  exact Polls.pass hslept h fun _ => hlate

end Line

namespace SerialPortWin32
open Line

theorem readFileLoop_pass (h : HANDLE) {maxLen deadline : ℕ} (fuel : ℕ) {os : Line}
    {out : List UInt8} (hgo : out.length < maxLen ∧ os.now < deadline) :
    readFileLoop h maxLen deadline (fuel + 1) os out =
      if os.arrived (maxLen - out.length) = [] then
        readFileLoop h maxLen deadline fuel ((os.readFile (maxLen - out.length)).sleepMs 1) out
      else
        readFileLoop h maxLen deadline fuel (os.readFile (maxLen - out.length))
          (out ++ (os.arrived (maxLen - out.length)).map Byte.value) := by
  have hfile : Win32Comm.readFile os h (maxLen - out.length) = (os.readFile (maxLen - out.length),
      some ((os.arrived (maxLen - out.length)).map Byte.value)) := rfl
  rw [readFileLoop, hfile]
  refine (if_pos hgo).trans ?_
  cases os.arrived (maxLen - out.length) with
  | nil => rfl
  | cons b bs => rfl

theorem readFileLoop_done (h : HANDLE) {maxLen deadline : ℕ} (fuel : ℕ) {os : Line}
    {out : List UInt8} (hstop : ¬(out.length < maxLen ∧ os.now < deadline)) :
    readFileLoop h maxLen deadline (fuel + 1) os out = (os, some out) := by
  rw [readFileLoop]
  exact if_neg hstop

/-- If the loop gives up, what is still in the queue arrives after that, or while it overslept. -/
theorem readFileLoop_polls (h : HANDLE) {maxLen deadline : ℕ} (fuel : ℕ) (os : Line)
    (out : List UInt8) (hlen : out.length ≤ maxLen)
    (hfuel : maxLen - out.length + (deadline - os.now) < fuel)
    (hearly : out.length < maxLen →
      os.now < deadline ∨ ∀ b ∈ os.queue.head?, os.now ≤ b.arrival + os.lateMs) :
    ∃ os' out', readFileLoop h maxLen deadline fuel os out = (os', some out') ∧
      os.Polls (maxLen - out.length) deadline
        (fun os' => deadline ≤ os'.now ∧ ∀ b ∈ os'.queue.head?, os'.now ≤ b.arrival + os.lateMs)
        out os' out' := by
  induction fuel generalizing os out with
  | zero => omega
  | succ fuel ih =>
    by_cases hgo : out.length < maxLen ∧ os.now < deadline
    · rw [readFileLoop_pass h fuel hgo]
      obtain ⟨hroom, hnow⟩ := hgo
      have hread := read_readFile hnow (maxLen - out.length)
      have hshort := now_lt_of_short os (maxLen - out.length)
      have hgrow := hread.now
      have hfit := hread.length_le
      have hsame := hread.lateMs
      generalize os.readFile (maxLen - out.length) = os₁ at *
      generalize os.arrived (maxLen - out.length) = chunk at *
      split_ifs with hnone
      · subst hnone
        have hlate := hshort (by rw [List.length_nil]; omega)
        obtain ⟨hclock, hclock'⟩ := os₁.now_sleepMs 1
        have hsame' : (os₁.sleepMs 1).lateMs = os₁.lateMs := rfl
        obtain ⟨os', out', heq, hpolls⟩ := ih (os₁.sleepMs 1) out hlen (by omega)
          (fun _ => .inr fun b hb => by
            have := hlate b hb
            omega)
        rw [hsame', hsame] at hpolls
        exact ⟨os', out', heq, hpolls.idle hread id⟩
      · have hsome : 0 < chunk.length := List.length_pos_iff.mpr hnone
        have hlen' : (out ++ chunk.map Byte.value).length = out.length + chunk.length := by
          rw [List.length_append, List.length_map]
        obtain ⟨os', out', heq, hpolls⟩ := ih os₁ (out ++ chunk.map Byte.value)
          (by omega) (by omega)
          (fun hroom' => .inr fun b hb => by
            have := hshort (by omega) b hb
            omega)
        rw [hlen', ← Nat.sub_sub, hsame] at hpolls
        exact ⟨os', out', heq, hpolls.pass hread fun _ => id⟩
    · rw [readFileLoop_done h fuel hgo]
      refine ⟨os, out, rfl, Polls.stop out ?_⟩
      intro hroom
      have hroom : out.length < maxLen := by omega
      rcases hearly hroom with hnow | hlate
      · exact absurd ⟨hroom, hnow⟩ hgo
      · exact ⟨by omega, hlate⟩

theorem readBytes_read {p : SerialPortWin32 Line} {h : HANDLE} (hopen : p.handle = some h)
    (maxLen timeoutMs : ℕ) (hpos : 0 < timeoutMs) :
    ∃ taken os', ISerialPort.readBytes p maxLen timeoutMs
        = ({ p with os := os' }, some (taken.map Byte.value)) ∧
      p.os.Read maxLen (p.os.now + timeoutMs) taken os' ∧
      (taken.length < maxLen →
        p.os.now + timeoutMs ≤ os'.now ∧ ∀ b ∈ os'.queue.head?, os'.now ≤ b.arrival + p.os.lateMs) := by
  obtain ⟨os', out', heq, taken, rfl, hread, hend⟩ := readFileLoop_polls h (maxLen + timeoutMs + 1)
    p.os [] (Nat.zero_le maxLen) (by rw [List.length_nil]; omega)
    (fun _ => .inl (show p.os.now < p.os.now + timeoutMs by omega))
  refine ⟨taken, os', ?_, hread, hend⟩
  change p.readBytes maxLen timeoutMs = _
  unfold readBytes
  rw [hopen]
  have hclock : Win32Comm.nowMs p.os = p.os.now := rfl
  dsimp only
  rw [hclock, heq]
  simp

end SerialPortWin32

/-- A pass of `ReadAtLeastBytes` over a port whose read does not fail. -/
theorem readLoop_pass {π : Type*} [ISerialPort π] {port port' : π} {acc chunk : List UInt8}
    {need deadline : ℕ} (fuel : ℕ) (hroom : acc.length < need)
    (hnow : ISerialPort.nowMs port < deadline)
    (hread : ISerialPort.readBytes port (need - acc.length)
      (min (deadline - ISerialPort.nowMs port) 500) = (port', some chunk)) :
    readLoop (fuel + 1) port acc need deadline =
      if chunk = [] then readLoop fuel (ISerialPort.sleepMs port' 1) acc need deadline
      else readLoop fuel port' (acc ++ chunk) need deadline := by
  have hslice : (if deadline - ISerialPort.nowMs port < 1 then 1
      else if 500 < deadline - ISerialPort.nowMs port then 500
      else deadline - ISerialPort.nowMs port) = min (deadline - ISerialPort.nowMs port) 500 := by
    split_ifs
    · omega
    · omega
    · omega
  rw [readLoop, if_neg (by omega), if_neg (by omega)]
  dsimp only
  rw [hslice, hread]
  cases chunk with
  | nil => rfl
  | cons b bs => rfl

/-- How long before its deadline a read may last look at the port: it sleeps for 1 ms after a look in
vain, and for another one between two slices of 500 ms. -/
def Line.unpolledMs (os : Line) (timeoutMs : ℕ) : ℕ :=
  if timeoutMs ≤ 500 then os.lateMs else 2 * os.lateMs + 1

theorem readLoop_polls {p : SerialPortWin32 Line} {h : HANDLE} (hopen : p.handle = some h)
    {need deadline gap : ℕ} (fuel : ℕ) (acc : List UInt8) (hlen : acc.length ≤ need)
    (hfuel : need - acc.length + (deadline - p.os.now) < fuel)
    (hgap : p.os.lateMs ≤ gap) (hslices : deadline - p.os.now ≤ 500 ∨ 2 * p.os.lateMs + 1 ≤ gap) :
    ∃ os' acc', readLoop fuel p acc need deadline = ({ p with os := os' }, acc') ∧
      p.os.Polls (need - acc.length) deadline
        (fun os' => (p.os.now < deadline ∨ ∀ b ∈ p.os.queue.head?, deadline ≤ b.arrival + gap) →
          ∀ b ∈ os'.queue.head?, deadline ≤ b.arrival + gap) acc os' acc' := by
  induction fuel generalizing p acc with
  | zero => omega
  | succ fuel ih =>
    by_cases hgo : acc.length < need ∧ p.os.now < deadline
    · obtain ⟨hroom, hnow⟩ := hgo
      obtain ⟨chunk, os₁, heq, hread, hend⟩ := SerialPortWin32.readBytes_read hopen
        (need - acc.length) (min (deadline - p.os.now) 500) (by omega)
      rw [readLoop_pass fuel hroom hnow heq]
      have hslice : p.os.now + min (deadline - p.os.now) 500 ≤ deadline := by omega
      have hread := hread.mono hslice
      have hgrow := hread.now
      have hfit := hread.length_le
      have hsame := hread.lateMs
      split_ifs with hnone
      · rw [List.map_eq_nil_iff] at hnone
        subst hnone
        obtain ⟨hstop, hlate⟩ := hend (by rw [List.length_nil]; omega)
        obtain ⟨hclock, hclock'⟩ := os₁.now_sleepMs 1
        have hsame' : (os₁.sleepMs 1).lateMs = os₁.lateMs := rfl
        obtain ⟨os', acc', heq', hpolls⟩ := ih (p := { p with os := os₁.sleepMs 1 }) hopen acc hlen
          (by dsimp only; omega) (by dsimp only; omega) (by dsimp only; omega)
        refine ⟨os', acc', heq', hpolls.idle hread ?_⟩
        intro hrest _
        apply hrest
        by_cases hdone : (os₁.sleepMs 1).now < deadline
        · exact .inl hdone
        · refine .inr fun b hb => ?_
          have := hlate b hb
          omega
      · rw [List.map_eq_nil_iff] at hnone
        have hsome : 0 < chunk.length := List.length_pos_iff.mpr hnone
        have hlen' : (acc ++ chunk.map Byte.value).length = acc.length + chunk.length := by
          rw [List.length_append, List.length_map]
        obtain ⟨os', acc', heq', hpolls⟩ := ih (p := { p with os := os₁ }) hopen
          (acc ++ chunk.map Byte.value) (by omega) (by dsimp only; omega) (by dsimp only; omega)
          (by dsimp only; omega)
        rw [hlen', ← Nat.sub_sub] at hpolls
        refine ⟨os', acc', heq', hpolls.pass hread ?_⟩
        intro hshort hrest _
        apply hrest
        by_cases hdone : os₁.now < deadline
        · exact .inl hdone
        · refine .inr fun b hb => ?_
          have := (hend hshort).2 b hb
          omega
    · have hstop : readLoop (fuel + 1) p acc need deadline = (p, acc) := by
        rw [readLoop]
        split_ifs with hfull hdone
        · rfl
        · rfl
        · exact absurd ⟨by omega, lt_of_not_ge hdone⟩ hgo
      rw [hstop]
      refine ⟨p.os, acc, rfl, Line.Polls.stop acc ?_⟩
      intro hroom hearly
      rcases hearly with hnow | hlate
      · exact absurd ⟨by omega, hnow⟩ hgo
      · exact hlate

/-- A read of `need` bytes takes the head of the queue, and gives up only if the next byte arrives too
late. -/
theorem readAtLeastBytes_read {p : SerialPortWin32 Line} {h : HANDLE} (hopen : p.handle = some h)
    (need timeoutMs : ℕ) :
    ∃ taken os', readAtLeastBytes p need timeoutMs
        = ({ p with os := os' }, taken.map Byte.value, decide (need ≤ taken.length)) ∧
      p.os.Read need (p.os.now + timeoutMs) taken os' ∧
      (0 < timeoutMs → taken.length < need →
        ∀ b ∈ os'.queue.head?, p.os.now + timeoutMs ≤ b.arrival + p.os.unpolledMs timeoutMs) := by
  have hgap : p.os.lateMs ≤ p.os.unpolledMs timeoutMs ∧ (p.os.now + timeoutMs - p.os.now ≤ 500 ∨
      2 * p.os.lateMs + 1 ≤ p.os.unpolledMs timeoutMs) := by
    unfold Line.unpolledMs
    split_ifs with hshort
    · exact ⟨Nat.le_refl _, .inl (by omega)⟩
    · exact ⟨by omega, .inr (Nat.le_refl _)⟩
  obtain ⟨os', acc', heq, taken, rfl, hread, hend⟩ := readLoop_polls hopen (need + timeoutMs + 1) []
    (Nat.zero_le need) (by rw [List.length_nil]; omega) hgap.1 hgap.2
  refine ⟨taken, os', ?_, hread, fun hpos hshort => hend hshort (.inl (by omega))⟩
  unfold readAtLeastBytes
  change (match readLoop (need + timeoutMs + 1) p [] need (p.os.now + timeoutMs) with
    | (port, acc) => (port, acc, decide (need ≤ acc.length))) = _
  rw [heq]
  simp

end Camera3D.Serial
