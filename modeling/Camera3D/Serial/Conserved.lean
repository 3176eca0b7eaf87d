import Camera3D.Serial.Recorded
import Camera3D.Serial.Win32

/-! What the two reading loops make of the bytes that the operating system hands over: they keep all
of them, unless a `ReadFile` fails while its loop holds some. -/
namespace Camera3D.Serial
open Win32Comm

/-- An operating system, with the bytes that `ReadFile` has delivered. -/
structure Tapped (ω : Type*) where
  os : ω
  delivered : List UInt8 := []

instance {ω : Type*} [Win32Comm ω] : Win32Comm (Tapped ω) where
  createFile t path := ({ t with os := (createFile t.os path).1 }, (createFile t.os path).2)
  closeHandle t h := { t with os := closeHandle t.os h }
  getCommState t h := ({ t with os := (getCommState t.os h).1 }, (getCommState t.os h).2)
  setCommState t h dcb := ({ t with os := (setCommState t.os h dcb).1 }, (setCommState t.os h dcb).2)
  setCommTimeouts t h timeouts := { t with os := setCommTimeouts t.os h timeouts }
  writeFile t h data := ({ t with os := (writeFile t.os h data).1 }, (writeFile t.os h data).2)
  readFile t h n :=
    (⟨(readFile t.os h n).1, t.delivered ++ (readFile t.os h n).2.getD []⟩, (readFile t.os h n).2)
  nowMs t := nowMs t.os
  sleepMs t ms := { t with os := sleepMs t.os ms }

/-- `ReadFile` delivers no more than it is asked for. -/
class BoundedFiles (ω : Type*) [Win32Comm ω] : Prop where
  length_le : ∀ (os : ω) (h : HANDLE) (n : ℕ), ((readFile os h n).2.getD []).length ≤ n

namespace SerialPortWin32
variable {ω : Type*} [Win32Comm ω]

/-- In the loop of `ReadBytes` a `ReadFile` fails while the loop holds bytes, `held` of them now. -/
def failsHolding (h : HANDLE) (maxLen deadline : ℕ) : ℕ → ω → ℕ → Bool
  | 0, _, _ => false
  | fuel + 1, os, held =>
    if held < maxLen ∧ nowMs os < deadline then
      match readFile os h (maxLen - held) with
      | (_, none) => 0 < held
      | (os, some []) => failsHolding h maxLen deadline fuel (sleepMs os 1) held
      | (os, some chunk) => failsHolding h maxLen deadline fuel os (held + chunk.length)
    else false

/-- A call of `ReadBytes` that drops what it has read. -/
def drops (p : SerialPortWin32 ω) (maxLen timeoutMs : ℕ) : Bool :=
  match p.handle with
  | none => false
  | some h => failsHolding h maxLen (nowMs p.os + timeoutMs) (maxLen + timeoutMs + 1) p.os 0

/-- The loop hands on all that was delivered to it; if it fails, that is nothing, or it is dropped. -/
theorem readFileLoop_tapped (h : HANDLE) (maxLen deadline fuel : ℕ) (t : Tapped ω)
    (out : List UInt8) :
    ∃ new, (readFileLoop h maxLen deadline fuel t out).1.delivered = t.delivered ++ new ∧
      ((readFileLoop h maxLen deadline fuel t out).2 = some (out ++ new) ∧
          failsHolding h maxLen deadline fuel t out.length = false ∨
        (readFileLoop h maxLen deadline fuel t out).2 = none ∧
          (failsHolding h maxLen deadline fuel t out.length = true ↔ out ++ new ≠ [])) := by
  induction fuel generalizing t out with
  | zero => exact ⟨[], (List.append_nil _).symm, .inl ⟨by rw [List.append_nil]; rfl, rfl⟩⟩
  | succ fuel ih =>
    rw [readFileLoop, failsHolding]
    by_cases hgo : out.length < maxLen ∧ nowMs t < deadline
    · rw [if_pos hgo, if_pos hgo]
      rcases hread : readFile t h (maxLen - out.length) with ⟨t', chunk⟩
      have hdelivered : t'.delivered = t.delivered ++ chunk.getD [] := by
        obtain ⟨rfl, rfl⟩ := Prod.mk.inj hread
        rfl
      cases chunk with
      | none =>
        refine ⟨[], hdelivered, .inr ⟨rfl, ?_⟩⟩
        rw [decide_eq_true_iff, List.append_nil, List.length_pos_iff]
      | some chunk =>
        cases chunk with
        | nil =>
          obtain ⟨new, hnew, hend⟩ := ih (sleepMs t' 1) out
          refine ⟨new, ?_, hend⟩
          rw [hnew]
          exact congrArg (· ++ new) (hdelivered.trans (List.append_nil _))
        | cons b bs =>
          obtain ⟨new, hnew, hend⟩ := ih t' (out ++ b :: bs)
          rw [List.length_append, List.append_assoc] at hend
          refine ⟨b :: bs ++ new, ?_, hend⟩
          rw [hnew, hdelivered, List.append_assoc]
          rfl
    · rw [if_neg hgo, if_neg hgo]
      exact ⟨[], (List.append_nil _).symm, .inl ⟨by rw [List.append_nil], rfl⟩⟩

theorem readBytes_closed {p : SerialPortWin32 ω} (hclosed : p.handle = none) (maxLen timeoutMs : ℕ) :
    ISerialPort.readBytes p maxLen timeoutMs = (p, none) ∧ p.drops maxLen timeoutMs = false := by
  constructor
  · change p.readBytes maxLen timeoutMs = (p, none)
    unfold readBytes
    rw [hclosed]
  · unfold drops
    rw [hclosed]

theorem readBytes_open {p : SerialPortWin32 ω} {h : HANDLE} (hopen : p.handle = some h)
    (maxLen timeoutMs : ℕ) :
    (ISerialPort.readBytes p maxLen timeoutMs).1.os = (readFileLoop h maxLen
        (nowMs p.os + timeoutMs) (maxLen + timeoutMs + 1) p.os []).1 ∧
      (ISerialPort.readBytes p maxLen timeoutMs).2 = (readFileLoop h maxLen
        (nowMs p.os + timeoutMs) (maxLen + timeoutMs + 1) p.os []).2 := by
  change (p.readBytes maxLen timeoutMs).1.os = _ ∧ (p.readBytes maxLen timeoutMs).2 = _
  unfold readBytes
  rw [hopen]
  dsimp only
  split
  next heq =>
    rw [heq]
    exact ⟨rfl, rfl⟩
  next heq =>
    rw [heq]
    exact ⟨rfl, rfl⟩

theorem drops_open {p : SerialPortWin32 ω} {h : HANDLE} (hopen : p.handle = some h)
    (maxLen timeoutMs : ℕ) :
    p.drops maxLen timeoutMs =
      failsHolding h maxLen (nowMs p.os + timeoutMs) (maxLen + timeoutMs + 1) p.os 0 := by
  unfold drops
  rw [hopen]

/-- A call of `ReadBytes` hands on all that was delivered to it, unless it drops that. -/
theorem readBytes_tapped (p : SerialPortWin32 (Tapped ω)) (maxLen timeoutMs : ℕ) :
    ∃ new, (ISerialPort.readBytes p maxLen timeoutMs).1.os.delivered = p.os.delivered ++ new ∧
      (p.drops maxLen timeoutMs = false →
        (ISerialPort.readBytes p maxLen timeoutMs).2.getD [] = new) ∧
      (p.drops maxLen timeoutMs = true →
        (ISerialPort.readBytes p maxLen timeoutMs).2.getD [] = [] ∧ new ≠ []) := by
  cases hopen : p.handle with
  | none =>
    obtain ⟨hread, hkept⟩ := readBytes_closed hopen maxLen timeoutMs
    rw [hread, hkept]
    exact ⟨[], (List.append_nil _).symm, fun _ => rfl, fun h => nomatch h⟩
  | some h =>
    obtain ⟨hos, hchunk⟩ := readBytes_open hopen maxLen timeoutMs
    rw [hos, hchunk, drops_open hopen]
    obtain ⟨new, hnew, hend⟩ := readFileLoop_tapped h maxLen (nowMs p.os + timeoutMs)
      (maxLen + timeoutMs + 1) p.os []
    refine ⟨new, hnew, ?_, ?_⟩
    · intro hkept
      rcases hend with ⟨hread, -⟩ | ⟨hread, hfails⟩
      · rw [hread]
        rfl
      · rw [List.length_nil, List.nil_append, hkept] at hfails
        have hempty : new = [] := by simpa using hfails
        rw [hread, hempty]
        rfl
    · intro hdrops
      rcases hend with ⟨-, hholds⟩ | ⟨hread, hfails⟩
      · exact absurd hdrops (by rw [List.length_nil] at hholds; simp [hholds])
      · rw [hread]
        exact ⟨rfl, hfails.mp hdrops⟩

instance [BoundedFiles ω] : BoundedFiles (Tapped ω) :=
  ⟨fun t h n => BoundedFiles.length_le t.os h n⟩

theorem readFileLoop_length_le [BoundedFiles ω] (h : HANDLE) (maxLen deadline fuel : ℕ) (os : ω)
    {out : List UInt8} (hout : out.length ≤ maxLen) :
    ((readFileLoop h maxLen deadline fuel os out).2.getD []).length ≤ maxLen := by
  induction fuel generalizing os out with
  | zero => exact hout
  | succ fuel ih =>
    rw [readFileLoop]
    split_ifs with hgo
    · have hread := BoundedFiles.length_le os h (maxLen - out.length)
      split
      next => exact Nat.zero_le maxLen
      next os' _ => exact ih (sleepMs os' 1) hout
      next os' chunk _ heq =>
        rw [heq] at hread
        apply ih
        rw [List.length_append]
        dsimp only [Option.getD_some] at hread
        omega
    · exact hout

instance [BoundedFiles ω] : BoundedReads (SerialPortWin32 ω) := by
  constructor
  intro p maxLen timeoutMs
  cases hopen : p.handle with
  | none =>
    rw [(readBytes_closed hopen maxLen timeoutMs).1]
    exact Nat.zero_le maxLen
  | some h =>
    rw [(readBytes_open hopen maxLen timeoutMs).2]
    exact readFileLoop_length_le h maxLen _ _ p.os (Nat.zero_le maxLen)

/-- The port of a tapped system, without the tap. -/
def untap (p : SerialPortWin32 (Tapped ω)) : SerialPortWin32 ω :=
  ⟨p.os.os, p.handle, p.portName, p.devicePath, p.lastErr⟩

def tap (p : SerialPortWin32 ω) : SerialPortWin32 (Tapped ω) :=
  ⟨⟨p.os, []⟩, p.handle, p.portName, p.devicePath, p.lastErr⟩

theorem readFileLoop_untap (h : HANDLE) (maxLen deadline fuel : ℕ) (t : Tapped ω)
    (out : List UInt8) :
    readFileLoop h maxLen deadline fuel t.os out =
      ((readFileLoop h maxLen deadline fuel t out).1.os,
        (readFileLoop h maxLen deadline fuel t out).2) := by
  induction fuel generalizing t out with
  | zero => rfl
  | succ fuel ih =>
    rw [readFileLoop, readFileLoop]
    have hclock : nowMs t.os = nowMs t := rfl
    rw [hclock]
    split_ifs with hgo
    · rcases hread : readFile t h (maxLen - out.length) with ⟨t', chunk⟩
      have hread' : readFile t.os h (maxLen - out.length) = (t'.os, chunk) := by
        obtain ⟨rfl, rfl⟩ := Prod.mk.inj hread
        rfl
      rw [hread']
      rcases chunk with _ | _ | ⟨b, bs⟩
      · rfl
      · exact ih (sleepMs t' 1) out
      · exact ih t' (out ++ b :: bs)
    · rfl

theorem failsHolding_untap (h : HANDLE) (maxLen deadline fuel : ℕ) (t : Tapped ω) (held : ℕ) :
    failsHolding h maxLen deadline fuel t.os held = failsHolding h maxLen deadline fuel t held := by
  induction fuel generalizing t held with
  | zero => rfl
  | succ fuel ih =>
    rw [failsHolding, failsHolding]
    have hclock : nowMs t.os = nowMs t := rfl
    rw [hclock]
    split_ifs with hgo
    · rcases hread : readFile t h (maxLen - held) with ⟨t', chunk⟩
      have hread' : readFile t.os h (maxLen - held) = (t'.os, chunk) := by
        obtain ⟨rfl, rfl⟩ := Prod.mk.inj hread
        rfl
      rw [hread']
      rcases chunk with _ | _ | ⟨b, bs⟩
      · rfl
      · exact ih (sleepMs t' 1) held
      · exact ih t' _
    · rfl

theorem drops_untap (p : SerialPortWin32 (Tapped ω)) (maxLen timeoutMs : ℕ) :
    p.untap.drops maxLen timeoutMs = p.drops maxLen timeoutMs := by
  cases hopen : p.handle with
  | none => rw [(readBytes_closed hopen _ _).2, (readBytes_closed (p := p.untap) hopen _ _).2]
  | some h =>
    rw [drops_open hopen, drops_open (p := p.untap) hopen]
    exact failsHolding_untap h maxLen _ _ p.os 0

theorem readsAs_untap : ReadsAs (untap : SerialPortWin32 (Tapped ω) → SerialPortWin32 ω) where
  clock _ := rfl
  sleep _ _ := rfl
  read p maxLen timeoutMs := by
    change p.untap.readBytes maxLen timeoutMs =
      ((p.readBytes maxLen timeoutMs).1.untap, (p.readBytes maxLen timeoutMs).2)
    have hhandle : p.untap.handle = p.handle := rfl
    have hclock : nowMs p.untap.os = nowMs p.os := rfl
    unfold readBytes
    rw [hhandle]
    cases p.handle with
    | none => rfl
    | some h =>
      dsimp only
      rw [hclock, show p.untap.os = p.os.os from rfl, readFileLoop_untap]
      rcases readFileLoop h maxLen (nowMs p.os + timeoutMs) (maxLen + timeoutMs + 1) p.os []
        with ⟨t, _ | out⟩
      · rfl
      · rfl

/-- The next pass of the loop reads, and drops what it reads. -/
def Skips (need deadline : ℕ) (s : SerialPortWin32 ω × List UInt8) : Prop :=
  ¬ (need ≤ s.2.length ∨ deadline ≤ nowMs s.1.os) ∧
    s.1.drops (need - s.2.length) (sliceMs (deadline - nowMs s.1.os)) = true

/-- The accumulated bytes are those that were delivered since the call began, none of them skipped,
and a call that returns true has accumulated and consumed as many as were needed. -/
structure LosesNothing (p : SerialPortWin32 ω) (need timeoutMs : ℕ) : Prop where
  held : ∀ k, (readLoop k p [] need (nowMs p.os + timeoutMs)).2 =
    (readLoop k p.tap [] need (nowMs p.os + timeoutMs)).1.os.delivered
  full : (readAtLeastBytes p need timeoutMs).2.2 = true →
    (readAtLeastBytes p need timeoutMs).2.1 =
        (readAtLeastBytes p.tap need timeoutMs).1.os.delivered ∧
      (readAtLeastBytes p need timeoutMs).2.1.length = need

/-- A pass that starts with all that was delivered ends so, unless it drops what it reads. -/
theorem pass_tapped {need deadline : ℕ} {p : SerialPortWin32 (Tapped ω)} {acc : List UInt8}
    (hacc : acc = p.os.delivered) :
    (pass need deadline (p, acc)).2 = (pass need deadline (p, acc)).1.os.delivered ↔
      ¬ Skips need deadline (p.untap, acc) := by
  by_cases hdone : need ≤ acc.length ∨ deadline ≤ nowMs p.os
  · have hdone' : need ≤ acc.length ∨ deadline ≤ ISerialPort.nowMs p := hdone
    rw [pass_done hdone']
    exact iff_of_true hacc (fun h => h.1 hdone)
  · have hdone' : ¬ (need ≤ acc.length ∨ deadline ≤ ISerialPort.nowMs p) := hdone
    rcases hread : ISerialPort.readBytes p (need - acc.length) (sliceMs (deadline - nowMs p.os))
      with ⟨p', chunk⟩
    obtain ⟨new, hnew, hkept, hdropped⟩ :=
      readBytes_tapped p (need - acc.length) (sliceMs (deadline - nowMs p.os))
    rw [hread] at hnew hkept hdropped
    have hdelivered : (if chunk.getD [] = [] then ISerialPort.sleepMs p' 1 else p').os.delivered =
        acc ++ new := by
      rw [hacc, ← hnew]
      split_ifs
      · rfl
      · rfl
    have hskips : Skips need deadline (p.untap, acc) ↔
        p.drops (need - acc.length) (sliceMs (deadline - nowMs p.os)) = true := by
      rw [← drops_untap]
      exact ⟨fun h => h.2, fun h => ⟨hdone, h⟩⟩
    rw [pass_go hdone' hread, hskips]
    dsimp only at hkept hdropped ⊢
    rw [hdelivered, List.append_cancel_left_eq, Bool.not_eq_true]
    constructor
    · intro hchunk
      by_contra hdrops
      obtain ⟨hempty, hlost⟩ := hdropped (Bool.not_eq_false _ ▸ hdrops)
      exact hlost (hchunk.symm.trans hempty)
    · exact hkept

/-- The bytes are all kept exactly if no `ReadFile` fails within a `ReadBytes` that has some. -/
theorem losesNothing_iff [BoundedFiles ω] (p : SerialPortWin32 ω) (need timeoutMs : ℕ) :
    p.LosesNothing need timeoutMs ↔
      ∀ k, ¬ Skips need (nowMs p.os + timeoutMs)
        (readLoop k p [] need (nowMs p.os + timeoutMs)) := by
  have hrun : ∀ k, readLoop k p [] need (nowMs p.os + timeoutMs) =
      ((readLoop k p.tap [] need (nowMs p.os + timeoutMs)).1.untap,
        (readLoop k p.tap [] need (nowMs p.os + timeoutMs)).2) :=
    fun k => readsAs_untap.readLoop k p.tap [] need (nowMs p.os + timeoutMs)
  have hstep : ∀ k, readLoop (k + 1) p.tap [] need (nowMs p.os + timeoutMs) =
      pass need (nowMs p.os + timeoutMs) (readLoop k p.tap [] need (nowMs p.os + timeoutMs)) := by
    intro k
    rw [readLoop_eq_iterate, readLoop_eq_iterate, Function.iterate_succ_apply']
  constructor
  · intro h k
    have hnow := h.held k
    have hnext := h.held (k + 1)
    rw [hrun] at hnow hnext ⊢
    rw [hstep] at hnext
    exact (pass_tapped hnow).mp hnext
  · intro hkeeps
    have hheld : ∀ k, (readLoop k p [] need (nowMs p.os + timeoutMs)).2 =
        (readLoop k p.tap [] need (nowMs p.os + timeoutMs)).1.os.delivered := by
      intro k
      induction k with
      | zero => rfl
      | succ k ih =>
        have hkeep := hkeeps k
        rw [hrun] at ih hkeep ⊢
        rw [hstep]
        exact (pass_tapped ih).mpr hkeep
    refine ⟨hheld, ?_⟩
    intro hfull
    have hlength := readLoop_length_le (need + timeoutMs + 1) p need (nowMs p.os + timeoutMs)
    have hneed : need ≤ (readAtLeastBytes p need timeoutMs).2.1.length := of_decide_eq_true hfull
    exact ⟨hheld (need + timeoutMs + 1), Nat.le_antisymm hlength hneed⟩

end SerialPortWin32

/-- A system whose calls of `ReadFile` end as `outcomes` says, and then deliver nothing. -/
structure ScriptedFiles where
  outcomes : List (Option (List UInt8))
  now : ℕ := 0
  deriving DecidableEq

instance : Win32Comm ScriptedFiles where
  createFile os _ := (os, some 1)
  closeHandle os _ := os
  getCommState os _ := (os, none)
  setCommState os _ _ := (os, true)
  setCommTimeouts os _ _ := os
  writeFile os _ data := (os, some data.length)
  readFile os _ n :=
    match os.outcomes with
    | [] => (os, some [])
    | outcome :: rest => ({ os with outcomes := rest }, outcome.map (List.take n))
  nowMs os := os.now
  sleepMs os ms := { os with now := os.now + ms }

instance : BoundedFiles ScriptedFiles := by
  constructor
  rintro ⟨_ | ⟨_ | chunk, rest⟩, now⟩ h n
  · exact Nat.zero_le n
  · exact Nat.zero_le n
  · exact List.length_take_le n chunk

namespace SerialPortWin32

def scriptedPort (outcomes : List (Option (List UInt8))) : SerialPortWin32 ScriptedFiles :=
  { os := ⟨outcomes, 0⟩, handle := some 1 }

def recoveringPort : SerialPortWin32 ScriptedFiles :=
  scriptedPort [none, some [1, 2], some [], some [3, 4, 5, 6]]

theorem losesNothing_iff_recoveringPort :
    (readAtLeastBytes recoveringPort 6 100).2 = ([1, 2, 3, 4, 5, 6], true) ∧
      (recoveringPort.LosesNothing 6 100 ↔
        ∀ k, ¬ Skips 6 100 (readLoop k recoveringPort [] 6 100)) :=
  ⟨by decide, losesNothing_iff recoveringPort 6 100⟩

def failingPort : SerialPortWin32 ScriptedFiles :=
  scriptedPort [some [1, 2, 3], none, some [4, 5, 6, 7, 8, 9]]

/-- Three bytes are read before the failure; the six that follow are taken for the first ones. -/
theorem failingPort_skips :
    (readAtLeastBytes failingPort 6 100).2 = ([4, 5, 6, 7, 8, 9], true) ∧
      (readAtLeastBytes failingPort.tap 6 100).1.os.delivered = [1, 2, 3, 4, 5, 6, 7, 8, 9] ∧
      ¬ (readAtLeastBytes failingPort 6 100).2.1 <+:
        (readAtLeastBytes failingPort.tap 6 100).1.os.delivered := by
  refine ⟨by decide, by decide, ?_⟩
  decide

end SerialPortWin32
end Camera3D.Serial
