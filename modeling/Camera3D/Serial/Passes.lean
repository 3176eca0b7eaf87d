import Camera3D.Serial.Handshake
import Mathlib.Logic.Function.Iterate

/-! The loop of `ReadAtLeastBytes` as passes, each of which keeps what one read delivers. -/
namespace Camera3D.Serial
open ISerialPort

/-- How long one read of the loop may take, with `remain` ms to go. -/
def sliceMs (remain : ℕ) : ℕ := if remain < 1 then 1 else if 500 < remain then 500 else remain

section Port
variable {π : Type*} [ISerialPort π]

/-- One pass of the loop; it does nothing once the loop has ended. A read that fails delivers
nothing. -/
def pass (need deadline : ℕ) (s : π × List UInt8) : π × List UInt8 :=
  if need ≤ s.2.length ∨ deadline ≤ nowMs s.1 then s
  else
    let (port, chunk) := readBytes s.1 (need - s.2.length) (sliceMs (deadline - nowMs s.1))
    (if chunk.getD [] = [] then sleepMs port 1 else port, s.2 ++ chunk.getD [])

theorem pass_done {need deadline : ℕ} {s : π × List UInt8}
    (hdone : need ≤ s.2.length ∨ deadline ≤ nowMs s.1) : pass need deadline s = s := if_pos hdone

theorem pass_go {need deadline : ℕ} {s : π × List UInt8} {port : π} {chunk : Option (List UInt8)}
    (hgo : ¬ (need ≤ s.2.length ∨ deadline ≤ nowMs s.1))
    (hread : readBytes s.1 (need - s.2.length) (sliceMs (deadline - nowMs s.1)) = (port, chunk)) :
    pass need deadline s =
      (if chunk.getD [] = [] then sleepMs port 1 else port, s.2 ++ chunk.getD []) := by
  unfold pass
  rw [if_neg hgo, hread]

theorem readLoop_eq_iterate (fuel : ℕ) (port : π) (acc : List UInt8) (need deadline : ℕ) :
    readLoop fuel port acc need deadline = (pass need deadline)^[fuel] (port, acc) := by
  induction fuel generalizing port acc with
  | zero => rfl
  | succ fuel ih =>
    rw [readLoop, Function.iterate_succ_apply]
    by_cases hdone : need ≤ acc.length ∨ deadline ≤ nowMs port
    · rw [pass_done hdone, Function.iterate_fixed (pass_done hdone)]
      split_ifs with hfull hlate
      · rfl
      · rfl
      · exact absurd hdone (not_or.mpr ⟨hfull, hlate⟩)
    · obtain ⟨hfull, hlate⟩ := not_or.mp hdone
      rw [if_neg hfull, if_neg hlate]
      rcases hread : readBytes port (need - acc.length) (sliceMs (deadline - nowMs port))
        with ⟨port', chunk⟩
      rw [pass_go hdone hread]
      unfold sliceMs at hread
      dsimp only
      rw [hread]
      cases chunk with
      | none =>
        simp only [Option.getD_none, if_true, List.append_nil]
        exact ih _ acc
      | some chunk =>
        cases chunk with
        | nil =>
          simp only [Option.getD_some, if_true, List.append_nil]
          exact ih _ acc
        | cons b bs =>
          simp only [Option.getD_some, reduceCtorEq, if_false]
          exact ih port' _

/-- A property of the port and of what is held that every pass keeps holds after every reading. -/
theorem readLoop_induction {I : π → List UInt8 → Prop} {need deadline : ℕ}
    (hpass : ∀ port acc, I port acc →
      I (pass need deadline (port, acc)).1 (pass need deadline (port, acc)).2)
    (fuel : ℕ) {port : π} {acc : List UInt8} (hI : I port acc) :
    I (readLoop fuel port acc need deadline).1 (readLoop fuel port acc need deadline).2 := by
  rw [readLoop_eq_iterate]
  induction fuel with
  | zero => exact hI
  | succ fuel ih =>
    rw [Function.iterate_succ_apply']
    exact hpass _ _ ih

end Port

section Instrumented
variable {π π' : Type*} [ISerialPort π] [ISerialPort π']

/-- A port that reads as another one does, with more to its state, which `f` leaves out. -/
structure ReadsAs (f : π' → π) : Prop where
  clock : ∀ p, nowMs (f p) = nowMs p
  sleep : ∀ p ms, sleepMs (f p) ms = f (sleepMs p ms)
  read : ∀ p maxLen timeoutMs,
    readBytes (f p) maxLen timeoutMs =
      (f (readBytes p maxLen timeoutMs).1, (readBytes p maxLen timeoutMs).2)

variable {f : π' → π}

theorem ReadsAs.pass (h : ReadsAs f) (need deadline : ℕ) :
    Function.Semiconj (fun s : π' × List UInt8 => (f s.1, s.2)) (pass need deadline)
      (pass need deadline) := by
  rintro ⟨port, acc⟩
  by_cases hdone : need ≤ acc.length ∨ deadline ≤ nowMs port
  · have hdone' : need ≤ acc.length ∨ deadline ≤ nowMs (f port) := by rwa [h.clock]
    rw [pass_done hdone]
    exact (pass_done hdone').symm
  · have hdone' : ¬ (need ≤ acc.length ∨ deadline ≤ nowMs (f port)) := by rwa [h.clock]
    rcases hread : readBytes port (need - acc.length) (sliceMs (deadline - nowMs port))
      with ⟨port', chunk⟩
    have hread' := h.read port (need - acc.length) (sliceMs (deadline - nowMs port))
    rw [hread, ← h.clock port] at hread'
    rw [pass_go hdone hread]
    refine Eq.trans ?_ (pass_go hdone' hread').symm
    refine Prod.ext ?_ rfl
    dsimp only
    split_ifs
    · exact (h.sleep port' 1).symm
    · rfl

theorem ReadsAs.readLoop (h : ReadsAs f) (fuel : ℕ) (port : π') (acc : List UInt8)
    (need deadline : ℕ) :
    readLoop fuel (f port) acc need deadline =
      (f (readLoop fuel port acc need deadline).1, (readLoop fuel port acc need deadline).2) := by
  have hloop := (h.pass need deadline).iterate_right fuel (port, acc)
  simp only [← readLoop_eq_iterate] at hloop
  exact hloop.symm

theorem ReadsAs.readAtLeastBytes (h : ReadsAs f) (port : π') (need timeoutMs : ℕ) :
    readAtLeastBytes (f port) need timeoutMs =
      (f (readAtLeastBytes port need timeoutMs).1, (readAtLeastBytes port need timeoutMs).2) := by
  unfold Serial.readAtLeastBytes
  rw [h.clock, h.readLoop]

end Instrumented
end Camera3D.Serial
