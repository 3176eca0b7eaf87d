import Camera3D.Capture.HardTrigger

/-! The captures that leave their callback in the adapter when they return. -/
namespace Camera3D.Camera

namespace DaHengGalaxyAdapter
variable {a b : DaHengGalaxyAdapter}

/-- How many calls of the SDK stopping the stream takes. -/
def grabCalls (a : DaHengGalaxyAdapter) : ℕ :=
  if a.grabRunning then (if a.remote then 1 else 0) + (if a.stream then 1 else 0) else 0

/-- How many calls of the SDK `StopAsyncGrab` makes. -/
def stopCalls (a : DaHengGalaxyAdapter) : ℕ := (if a.stream then 1 else 0) + a.grabCalls

/-- What a step does that makes `n` calls of the SDK: it keeps the handles. -/
structure Asked (n : ℕ) (before after : DaHengGalaxyAdapter) : Prop where
  open_ : after.open_ = before.open_
  stream : after.stream = before.stream
  remote : after.remote = before.remote
  throwsAt (k : ℕ) : after.throwsAt k = before.throwsAt (n + k)

theorem Asked.refl (a : DaHengGalaxyAdapter) : a.Asked 0 a :=
  ⟨rfl, rfl, rfl, fun k => by rw [Nat.zero_add]⟩

theorem Asked.trans {c : DaHengGalaxyAdapter} {m n : ℕ} (h : a.Asked m b) (h' : b.Asked n c) :
    a.Asked (m + n) c :=
  ⟨h'.open_.trans h.open_, h'.stream.trans h.stream, h'.remote.trans h.remote,
    fun k => by rw [h'.throwsAt, h.throwsAt, Nat.add_assoc]⟩

theorem asked_asks (a : DaHengGalaxyAdapter) (c : SdkCall) : a.Asked 1 (a.asks c) :=
  ⟨rfl, rfl, rfl, fun k => by rw [throwsAt_asks, Nat.add_comm]⟩

theorem Asked.requireOpen {n : ℕ} (h : a.Asked n b) : b.requireOpen.2 = a.requireOpen.2 := by
  rw [requireOpen_snd, requireOpen_snd, h.open_, h.stream, h.remote]

theorem asked_stopStreamGrabIfRunning (a : DaHengGalaxyAdapter) :
    a.Asked a.grabCalls a.stopStreamGrabIfRunning := by
  unfold stopStreamGrabIfRunning grabCalls
  cases hrun : a.grabRunning with
  | false => exact Asked.refl a
  | true =>
    have hstop : a.Asked (if a.remote then 1 else 0)
        (if a.remote then (a.tries [.execute "AcquisitionStop"]).1 else a) := by
      rw [fst_tries_one]
      split_ifs
      · exact asked_asks a _
      · exact Asked.refl a
    simp only [Bool.not_true, Bool.false_eq_true, if_false, if_true]
    generalize (if a.remote then (a.tries [.execute "AcquisitionStop"]).1 else a) = b at hstop
    have hgrab : b.Asked (if a.stream then 1 else 0)
        (if b.stream then (b.tries [.stopGrab]).1 else b) := by
      rw [fst_tries_one, hstop.stream]
      split_ifs
      · exact asked_asks b _
      · exact Asked.refl b
    have hboth := hstop.trans hgrab
    exact ⟨hboth.open_, hboth.stream, hboth.remote, hboth.throwsAt⟩

theorem asked_stopAsyncGrab (a : DaHengGalaxyAdapter) : a.Asked a.stopCalls a.stopAsyncGrab := by
  have hunreg : a.Asked (if a.stream then 1 else 0)
      (if a.stream then (a.tries [.unregisterCaptureCallback]).1 else a) := by
    rw [fst_tries_one]
    split_ifs
    · exact asked_asks a _
    · exact Asked.refl a
  have hrun : (if a.stream then (a.tries [.unregisterCaptureCallback]).1 else a).grabRunning =
      a.grabRunning := by
    split_ifs <;> rfl
  unfold stopAsyncGrab
  dsimp only
  generalize (if a.stream then (a.tries [.unregisterCaptureCallback]).1 else a) = b at hunreg hrun
  have hcleared : a.Asked (if a.stream then 1 else 0)
      { b with captureRegistered := false, userFrameCb := none, userResultCb := none } :=
    ⟨hunreg.open_, hunreg.stream, hunreg.remote, hunreg.throwsAt⟩
  have hcount : grabCalls
      { b with captureRegistered := false, userFrameCb := none, userResultCb := none } =
        a.grabCalls := by
    unfold grabCalls
    rw [hrun, hunreg.remote, hunreg.stream]
  have hstopped := asked_stopStreamGrabIfRunning
    { b with captureRegistered := false, userFrameCb := none, userResultCb := none }
  rw [hcount] at hstopped
  exact hcleared.trans hstopped

theorem userFrameCb_stopStreamGrabIfRunning (a : DaHengGalaxyAdapter) :
    a.stopStreamGrabIfRunning.userFrameCb = a.userFrameCb := by
  unfold stopStreamGrabIfRunning
  dsimp only
  split_ifs <;> rfl

theorem userFrameCb_stopAsyncGrab (a : DaHengGalaxyAdapter) : a.stopAsyncGrab.userFrameCb = none :=
  userFrameCb_stopStreamGrabIfRunning _

theorem snd_tries_eq_none_iff (cs : List SdkCall) :
    (a.tries cs).2 = none ↔ ∀ k < cs.length, a.throwsAt k = false := by
  induction cs generalizing a with
  | nil => exact ⟨fun _ k hk => absurd hk (Nat.not_lt_zero k), fun _ => rfl⟩
  | cons c cs ih =>
    rw [tries_cons, List.length_cons]
    cases hthrows : a.throwsAt 0 with
    | true =>
      rw [if_pos rfl]
      constructor
      · intro hnone
        have hsome : (a.sdk.answers (a.sdk.asked + 0)).throws.isSome = true := hthrows
        have hthrew : (a.sdk.answers a.sdk.asked).throws = none := hnone
        rw [Nat.add_zero, hthrew] at hsome
        cases hsome
      · intro hall
        exact absurd (hthrows.symm.trans (hall 0 (Nat.succ_pos _))) (by decide)
    | false =>
      rw [if_neg Bool.false_ne_true, ih]
      constructor
      · rintro hall (_ | k) hk
        · exact hthrows
        · exact (throwsAt_asks a c k).symm.trans (hall k (Nat.lt_of_succ_lt_succ hk))
      · intro hall k hk
        exact (throwsAt_asks a c k).trans (hall (k + 1) (Nat.succ_lt_succ hk))

theorem asked_tries {cs : List SdkCall} (h : (a.tries cs).2 = none) :
    a.Asked cs.length (a.tries cs).1 := by
  induction cs generalizing a with
  | nil => exact Asked.refl a
  | cons c cs ih =>
    have hfirst := (snd_tries_eq_none_iff (c :: cs)).mp h 0 (Nat.succ_pos _)
    rw [tries_cons, if_neg (Bool.eq_false_iff.mp hfirst)] at h ⊢
    rw [List.length_cons, Nat.add_comm]
    exact (asked_asks a c).trans (ih h)

/-- Of all that setting the mode does, what the callback and the flags see of it. -/
structure Triggered (before after : DaHengGalaxyAdapter) (ok : Bool) : Prop where
  failed : ok = false ↔
    before.open_ = true ∧ before.remote = true ∧ ∃ k < 3, before.throwsAt k = true
  asked : ok = true → before.Asked (if before.open_ && before.remote then 3 else 0) after
  userFrameCb : after.userFrameCb = before.userFrameCb
  captureRegistered : after.captureRegistered = before.captureRegistered
  grabRunning : after.grabRunning = before.grabRunning

theorem setTriggerMode_triggered (a : DaHengGalaxyAdapter) :
    a.Triggered (a.setTriggerMode .kHardware).1 (a.setTriggerMode .kHardware).2 := by
  unfold setTriggerMode
  dsimp only
  by_cases hclosed : !a.open_ || !a.remote
  · rw [if_pos hclosed]
    have hnot : ¬(a.open_ = true ∧ a.remote = true) := by
      rintro ⟨hopen, hremote⟩
      rw [hopen, hremote] at hclosed
      cases hclosed
    refine ⟨⟨nofun, fun h => absurd ⟨h.1, h.2.1⟩ hnot⟩, fun _ => ?_, rfl, rfl, rfl⟩
    rw [if_neg (by simpa using hnot)]
    exact ⟨rfl, rfl, rfl, (Asked.refl a).throwsAt⟩
  · rw [if_neg hclosed]
    have hboth : a.open_ = true ∧ a.remote = true := by simpa using hclosed
    have hthrows := snd_tries_eq_none_iff (a := { a with triggerMode := .kHardware })
      (applyTriggerMode .kHardware)
    split
    case h_1 b he =>
      obtain rfl := tries_fst he
      rw [he] at hthrows
      refine ⟨⟨nofun, ?_⟩, fun _ => ?_, rfl, rfl, rfl⟩
      · rintro ⟨-, -, k, hk, hk'⟩
        exact absurd (hk'.symm.trans (hthrows.mp rfl k hk)) (by decide)
      · have hasked := asked_tries (a := { a with triggerMode := .kHardware }) (congrArg Prod.snd he)
        rw [if_pos (by simpa using hboth)]
        exact ⟨rfl, rfl, rfl, hasked.throwsAt⟩
    case h_2 b what he =>
      obtain rfl := tries_fst he
      rw [he] at hthrows
      refine ⟨⟨fun _ => ⟨hboth.1, hboth.2, ?_⟩, fun _ => rfl⟩, nofun, rfl, rfl, rfl⟩
      by_contra hnone
      refine nomatch hthrows.mpr fun k hk => ?_
      exact Bool.eq_false_iff.mpr fun hk' => hnone ⟨k, hk, hk'⟩

theorem setFrameCallback_stopped (hreg : a.captureRegistered = false) (hrun : a.grabRunning = false)
    (cb : String) :
    a.Asked (if a.open_ && a.stream then 1 else 0) (a.setFrameCallback (some cb)) ∧
      (a.setFrameCallback (some cb)).userFrameCb = some cb ∧
      (a.setFrameCallback (some cb)).grabRunning = false := by
  have hidle : stopStreamGrabIfRunning { a with userFrameCb := some cb } =
      { a with userFrameCb := some cb } := stopStreamGrabIfRunning_idle hrun
  have hwant : ((a.userResultCb.isSome || (some cb).isSome) && !a.captureRegistered) = true := by
    rw [hreg, Option.isSome_some, Bool.or_true]
    rfl
  unfold setFrameCallback registerAsWanted
  dsimp only
  rw [if_pos hwant, hidle]
  by_cases hclosed : !a.open_ || !a.stream
  · have hnot : ¬(a.open_ && a.stream) = true := by
      rw [← Bool.not_and] at hclosed
      rw [Bool.not_eq_true, ← Bool.not_eq_true']
      exact hclosed
    rw [if_pos hclosed, if_neg hnot]
    exact ⟨⟨rfl, rfl, rfl, (Asked.refl a).throwsAt⟩, rfl, hrun⟩
  · have hboth : (a.open_ && a.stream) = true := by simpa using hclosed
    have hone := asked_asks { a with userFrameCb := some cb } .registerCaptureCallback
    have hfst := fst_tries_one { a with userFrameCb := some cb } .registerCaptureCallback
    rw [if_neg hclosed, if_pos hboth]
    rcases he : tries { a with userFrameCb := some cb } [.registerCaptureCallback] with ⟨b, r⟩
    rw [he] at hfst
    obtain rfl : b = _ := hfst
    cases r with
    | none => exact ⟨⟨rfl, rfl, rfl, hone.throwsAt⟩, rfl, hrun⟩
    | some what => exact ⟨⟨rfl, rfl, rfl, hone.throwsAt⟩, rfl, hrun⟩

/-- The start needs three of its calls: the registration, and the two that start the stream. -/
theorem startAsyncGrab_snd_iff (hrun : a.grabRunning = false) (hcb : a.userFrameCb.isSome = true) :
    a.startAsyncGrab.2 = true ↔
      a.requireOpen.2 = true ∧ ∀ k < 3, a.throwsAt (1 + k) = false := by
  have hsome : ¬(a.userFrameCb = none ∧ a.userResultCb = none) := by
    rintro ⟨hnone, -⟩
    rw [hnone] at hcb
    cases hcb
  cases hopen : a.requireOpen.2 with
  | false =>
    have hclosed : a.startAsyncGrab.2 = false := by
      unfold startAsyncGrab
      rcases he : a.requireOpen with ⟨b, r⟩
      rw [he] at hopen
      obtain rfl : r = false := hopen
      rfl
    rw [hclosed]
    exact ⟨nofun, fun h => nomatch h.1⟩
  | true =>
    cases hthrows : a.throwsAt 1 with
    | true =>
      rw [(startAsyncGrab_refused hopen hrun hsome hthrows).1]
      exact ⟨nofun, fun h => absurd (hthrows.symm.trans (h.2 0 (by decide))) (by decide)⟩
    | false =>
      rw [(startAsyncGrab_rolled hopen hrun hsome hthrows).succeeds]
      constructor
      · intro hok
        obtain ⟨htwo, hthree⟩ : a.throwsAt 2 = false ∧ a.throwsAt 3 = false := by simpa using hok
        refine ⟨rfl, fun k hk => ?_⟩
        rcases k with _ | _ | _ | k
        · exact hthrows
        · exact htwo
        · exact hthree
        · omega
      · intro hall
        rw [show a.throwsAt 2 = false from hall.2 1 (by decide),
          show a.throwsAt 3 = false from hall.2 2 (by decide)]
        rfl

theorem userFrameCb_requireOpen (a : DaHengGalaxyAdapter) :
    a.requireOpen.1.userFrameCb = a.userFrameCb := by
  unfold requireOpen
  split_ifs <;> rfl

theorem userFrameCb_startStreamGrab (a : DaHengGalaxyAdapter) :
    a.startStreamGrab.1.userFrameCb = a.userFrameCb := by
  have hrequired := userFrameCb_requireOpen a
  unfold startStreamGrab
  split
  case h_1 b he =>
    rw [he] at hrequired
    exact hrequired
  case h_2 b he =>
    rw [he] at hrequired
    rw [← hrequired]
    split_ifs
    · rfl
    · split
      case h_1 d he =>
        obtain rfl := tries_fst he
        rfl
      case h_2 d _ he =>
        obtain rfl := tries_fst he
        rfl

/-- Started or not, the callback stays where it was put. -/
theorem userFrameCb_startAsyncGrab (a : DaHengGalaxyAdapter) :
    a.startAsyncGrab.1.userFrameCb = a.userFrameCb := by
  have hrequired := userFrameCb_requireOpen a
  unfold startAsyncGrab
  split
  case h_1 b he =>
    rw [he] at hrequired
    exact hrequired
  case h_2 b he =>
    rw [he] at hrequired
    rw [← hrequired]
    dsimp only
    by_cases hcb : b.userFrameCb = none ∧ b.userResultCb = none
    · rw [if_pos hcb]
      rfl
    · rw [if_neg hcb, ← userFrameCb_stopStreamGrabIfRunning b]
      generalize b.stopStreamGrabIfRunning = d
      have hunreg : (if d.stream then (d.tries [.unregisterCaptureCallback]).1 else d).userFrameCb =
          d.userFrameCb := by
        split_ifs <;> rfl
      rw [← hunreg]
      generalize (if d.stream then (d.tries [.unregisterCaptureCallback]).1 else d) = f
      split
      case h_1 g _ he =>
        obtain rfl := tries_fst he
        rfl
      case h_2 g he =>
        obtain rfl := tries_fst he
        have hstart := userFrameCb_startStreamGrab
          { (f.tries [.registerCaptureCallback]).1 with captureRegistered := true }
        split
        case h_1 k hk =>
          rw [hk] at hstart
          exact hstart
        case h_2 k hk =>
          rw [hk] at hstart
          dsimp only
          split_ifs <;> exact hstart

/-- Whether a capture takes its callback back: the trigger is refused before the callback is there,
or the start goes well. -/
def ReturnsCallback (a : DaHengGalaxyAdapter) : Prop :=
  (a.open_ = true ∧ a.remote = true ∧ ∃ i < 3, a.throwsAt (a.stopCalls + i) = true) ∨
    a.requireOpen.2 = true ∧ ∀ i < 3, a.throwsAt (a.stopCalls + 5 + i) = false

theorem capturedAdapter_ne_iff (a : DaHengGalaxyAdapter) (cb : String) :
    (Capture.capturedAdapter a cb).userFrameCb ≠ some cb ↔ a.ReturnsCallback := by
  have hstop := a.asked_stopAsyncGrab
  have hunset := a.stopAsyncGrab_unset
  have hnone := a.userFrameCb_stopAsyncGrab
  have htrig := a.stopAsyncGrab.setTriggerMode_triggered
  unfold Capture.capturedAdapter
  rcases hmode : a.stopAsyncGrab.setTriggerMode .kHardware with ⟨b, ok⟩
  rw [hmode] at htrig
  have hset : ICameraAdapter.setTriggerMode (ICameraAdapter.stopAsyncGrab a) .kHardware = (b, ok) :=
    hmode
  rw [hset]
  have hfailed : ok = false ↔
      a.open_ = true ∧ a.remote = true ∧ ∃ i < 3, a.throwsAt (a.stopCalls + i) = true := by
    rw [htrig.failed, hstop.open_, hstop.remote]
    simp only [hstop.throwsAt]
  cases ok with
  | false =>
    have hb : b.userFrameCb = none := htrig.userFrameCb.trans hnone
    refine iff_of_true ?_ (.inl (hfailed.mp rfl))
    show b.userFrameCb ≠ some cb
    rw [hb]
    exact nofun
  | true =>
    obtain ⟨hput, hcb, hrun⟩ := setFrameCallback_stopped
      (htrig.captureRegistered.trans hunset.captureRegistered)
      (htrig.grabRunning.trans hunset.grabRunning) cb
    have hasked := (hstop.trans (htrig.asked rfl)).trans hput
    have hstarts := startAsyncGrab_snd_iff hrun (by rw [hcb]; rfl)
    have hkept := (userFrameCb_startAsyncGrab (b.setFrameCallback (some cb))).trans hcb
    have hreturns : a.ReturnsCallback ↔ (b.setFrameCallback (some cb)).startAsyncGrab.2 = true := by
      rw [hstarts, hasked.requireOpen]
      unfold ReturnsCallback
      rw [← hfailed]
      refine (or_iff_right (by decide)).trans (and_congr_right fun hopen => ?_)
      have hcount : ∀ i, (b.setFrameCallback (some cb)).throwsAt (1 + i) =
          a.throwsAt (a.stopCalls + 5 + i) := by
        intro i
        rw [requireOpen_snd, Bool.and_eq_true, Bool.and_eq_true] at hopen
        have hb : b.open_ = true := (htrig.asked rfl).open_.trans (hstop.open_.trans hopen.1.1)
        have hbs : b.stream = true := (htrig.asked rfl).stream.trans (hstop.stream.trans hopen.1.2)
        rw [hasked.throwsAt, hb, hbs, hstop.open_, hstop.remote, hopen.1.1, hopen.2]
        refine congrArg a.throwsAt ?_
        simp only [Bool.and_true, if_true]
        omega
      simp only [hcount]
    rw [hreturns]
    rcases hstart : (b.setFrameCallback (some cb)).startAsyncGrab with ⟨d, ok⟩
    rw [hstart] at hkept
    have hend : AsyncAdapter.startAsyncGrab (AsyncAdapter.setFrameCallback b (some cb)) = (d, ok) :=
      hstart
    dsimp only
    rw [hend]
    cases ok with
    | false => exact iff_of_false (not_not_intro hkept) (by decide)
    | true =>
      refine iff_of_true ?_ rfl
      show d.stopAsyncGrab.userFrameCb ≠ some cb
      rw [d.userFrameCb_stopAsyncGrab]
      exact nofun

end DaHengGalaxyAdapter
/-- The virtual camera has no call that takes a frame callback back. -/
theorem NullCameraAdapter.capturedAdapter_ne_iff {a : NullCameraAdapter} {cb : String}
    (hnew : a.asyncFrameCb ≠ some cb) :
    (Capture.capturedAdapter a cb).asyncFrameCb ≠ some cb ↔ a.open_ = false := by
  have hmode : ICameraAdapter.setTriggerMode (ICameraAdapter.stopAsyncGrab a) .kHardware =
      if !a.open_ then (a.setErr .kNotOpen "not open", false) else (a.setErr .kOk "", true) := rfl
  unfold Capture.capturedAdapter
  rw [hmode]
  cases hopen : a.open_ with
  | false => exact iff_of_true hnew rfl
  | true =>
    refine iff_of_false (not_not_intro ?_) (by decide)
    have hstart : AsyncAdapter.startAsyncGrab
        (AsyncAdapter.setFrameCallback (a.setErr .kOk "") (some cb)) =
          (({ a.setErr .kOk "" with asyncFrameCb := some cb } : NullCameraAdapter).setErr .kOk "", true) := by
      show NullCameraAdapter.startAsyncGrab { a.setErr .kOk "" with asyncFrameCb := some cb } = _
      unfold NullCameraAdapter.startAsyncGrab
      rw [show (a.setErr .kOk "").open_ = true from hopen]
      rfl
    simp only [Bool.not_true, Bool.false_eq_true, if_false]
    rw [hstart]
    rfl

namespace RegisteredAdapter

/-- Whether a capture on this adapter takes its callback back. -/
def ReturnsCallback : RegisteredAdapter → Prop
  | .null a => a.open_ = false
  | .daheng a => a.ReturnsCallback

/-- A wrapper that passes the calls on passes on the whole capture. -/
theorem capturedAdapter_wrap {α : Type*} [ICameraAdapter α] [AsyncAdapter α] {f : α → RegisteredAdapter}
    (hstop : ∀ a, ICameraAdapter.stopAsyncGrab (f a) = f (ICameraAdapter.stopAsyncGrab a))
    (hmode : ∀ a mode, ICameraAdapter.setTriggerMode (f a) mode =
      wrap f (ICameraAdapter.setTriggerMode a mode))
    (hput : ∀ a cb, AsyncAdapter.setFrameCallback (f a) cb = f (AsyncAdapter.setFrameCallback a cb))
    (hstart : ∀ a, AsyncAdapter.startAsyncGrab (f a) = wrap f (AsyncAdapter.startAsyncGrab a))
    (a : α) (cb : String) :
    Capture.capturedAdapter (f a) cb = f (Capture.capturedAdapter a cb) := by
  unfold Capture.capturedAdapter
  rw [hstop, hmode]
  rcases ICameraAdapter.setTriggerMode (ICameraAdapter.stopAsyncGrab a) .kHardware with ⟨b, ok⟩
  cases ok with
  | false => rfl
  | true =>
    dsimp only [wrap]
    rw [hput, hstart]
    rcases AsyncAdapter.startAsyncGrab (AsyncAdapter.setFrameCallback b (some cb)) with ⟨c, ok⟩
    cases ok with
    | false => rfl
    | true => exact hstop c

theorem capturedAdapter_ne_iff {a : RegisteredAdapter} {cb : String}
    (hnew : AsyncAdapter.frameCallback a ≠ some cb) :
    AsyncAdapter.frameCallback (Capture.capturedAdapter a cb) ≠ some cb ↔ a.ReturnsCallback := by
  cases a with
  | null a =>
    rw [capturedAdapter_wrap (f := .null) (fun _ => rfl) (fun _ _ => rfl) (fun _ _ => rfl)
      (fun _ => rfl) a cb]
    exact NullCameraAdapter.capturedAdapter_ne_iff hnew
  | daheng a =>
    rw [capturedAdapter_wrap (f := .daheng) (fun _ => rfl) (fun _ _ => rfl) (fun _ _ => rfl)
      (fun _ => rfl) a cb]
    exact a.capturedAdapter_ne_iff cb

end RegisteredAdapter
end Camera3D.Camera

namespace Camera3D.Capture
open Camera Serial

variable {π : Type*} [ISerialPort π]

/-- Whatever is sent and whatever arrives, the callback is gone exactly when the capture does not
reach its device, or the adapter of the device takes it back. -/
theorem callback_removed_iff (m : CameraManager RegisteredAdapter) (mid : String) (serial : π)
    (sendFn : π → π × Option String) (maxFrames : ℕ) (cb : String) (arrivals : Arrivals)
    (hnew : m.Without cb) :
    (runCallbackCapture m mid serial sendFn maxFrames cb arrivals).cameras.Without cb ↔
      ∀ slot, ISerialPort.isOpen serial = true → m.open_.lookup mid = some slot →
        slot.adapter.ReturnsCallback := by
  rw [runCallbackCapture_without_iff hnew]
  exact forall_congr' fun slot => forall_congr' fun _ => forall_congr' fun hslot =>
    RegisteredAdapter.capturedAdapter_ne_iff (hnew mid slot hslot)

/-- A manager with one camera. -/
def oneCamera (a : RegisteredAdapter) : CameraManager RegisteredAdapter where
  open_ := AList.singleton "cam-1" { managerId := "cam-1", device := {}, adapter := a }

theorem lookup_oneCamera {a : RegisteredAdapter} {mid : String} {slot : Slot RegisteredAdapter}
    (h : (oneCamera a).open_.lookup mid = some slot) : slot.adapter = a := by
  have hmem := AList.mem_lookup_iff.mp (Option.mem_def.mpr h)
  obtain heq := List.mem_singleton.mp hmem
  cases heq
  rfl

theorem oneCamera_without {a : RegisteredAdapter} {cb : String}
    (h : AsyncAdapter.frameCallback a = none) : (oneCamera a).Without cb := by
  intro mid slot hslot
  rw [lookup_oneCamera hslot, h]
  exact nofun

/-- An open Galaxy camera, over an SDK with these answers. -/
def galaxy (answers : ℕ → Answer) : RegisteredAdapter :=
  .daheng ((DaHengGalaxyAdapter.fresh answers).openDevice "SN1").1

theorem callback_removed_iff_ready :
    (runCallbackCapture (oneCamera (galaxy fun _ => {})) "cam-1" ({ opened := true } : EchoPort)
        (fun port => (port, none)) 1 "frames" {}).cameras.Without "frames" ↔
      ∀ slot, ISerialPort.isOpen ({ opened := true } : EchoPort) = true →
        (oneCamera (galaxy fun _ => {})).open_.lookup "cam-1" = some slot →
          slot.adapter.ReturnsCallback :=
  callback_removed_iff _ _ _ _ _ _ _ (oneCamera_without (by decide +kernel))

/-- A capture over an open port that sends well, of a camera from which nothing comes. -/
def unanswered (a : RegisteredAdapter) : Captured RegisteredAdapter EchoPort :=
  runCallbackCapture (oneCamera a) "cam-1" { opened := true } (fun port => (port, none)) 1 "frames" {}

theorem unanswered_left {a : RegisteredAdapter}
    (h : AsyncAdapter.frameCallback (capturedAdapter a "frames") = some "frames") :
    ¬(unanswered a).cameras.Without "frames" := by
  intro hwithout
  have hslot : (oneCamera a).open_.lookup "cam-1" =
      some { managerId := "cam-1", device := {}, adapter := a } := rfl
  have hreplaced : Replaced (oneCamera a) (unanswered a).cameras "cam-1" _
      (capturedAdapter a "frames") := runCallbackCapture_replaced rfl hslot
  exact hwithout "cam-1" _ hreplaced.self h

/-- A Galaxy camera whose acquisition does not start keeps the callback, and the virtual camera keeps
it at every end of a capture that installed it. -/
theorem callback_left_behind :
    (oneCamera (galaxy (DaHengGalaxyAdapter.throwing 15))).Without "frames" ∧
      (unanswered (galaxy (DaHengGalaxyAdapter.throwing 15))).ok = false ∧
      (unanswered (galaxy (DaHengGalaxyAdapter.throwing 15))).outError =
        "StartAsyncGrab failed: timeout" ∧
      ¬(unanswered (galaxy (DaHengGalaxyAdapter.throwing 15))).cameras.Without "frames" ∧
    (oneCamera (.null { open_ := true })).Without "frames" ∧
      (unanswered (.null { open_ := true })).outError = "no frame in callback within timeout" ∧
      ¬(unanswered (.null { open_ := true })).cameras.Without "frames" := by
  refine ⟨oneCamera_without (by decide +kernel), by decide +kernel, by decide +kernel,
    unanswered_left (by decide +kernel), oneCamera_without rfl, by decide +kernel,
    unanswered_left (by decide +kernel)⟩

end Camera3D.Capture
