import Camera3D.Camera.Galaxy
import Camera3D.Transition.Run

/-! The Galaxy adapter over an SDK that may throw at any call: a flag that is set is still right. -/
namespace Camera3D.Camera

open Transition

namespace DaHengGalaxyAdapter

variable {a : DaHengGalaxyAdapter} {cs : List SdkCall} {c : SdkCall}

/-- The adapter that a `try` block goes on with is the one it ends with. -/
theorem tries_fst {b : DaHengGalaxyAdapter} {r : Option String} (he : a.tries cs = (b, r)) :
    (a.tries cs).1 = b :=
  congrArg Prod.fst he

/-- What every call of a block keeps, the block keeps, wherever it ends. -/
theorem tries_history {P : List SdkCall → Prop}
    (hP : ∀ c ∈ cs, ∀ before, P before → P (c :: before)) (h : P a.sdk.calls) :
    P (a.tries cs).1.sdk.calls := by
  induction cs generalizing a with
  | nil => exact h
  | cons c cs ih =>
    have hrest : ∀ d ∈ cs, ∀ before, P before → P (d :: before) := fun d hd =>
      hP d (List.mem_cons_of_mem _ hd)
    unfold tries
    rw [GalaxySdk.attempt]
    unfold GalaxySdk.call
    cases hthrows : (a.sdk.answers a.sdk.asked).throws with
    | some what => exact h
    | none =>
      have hc := hP c List.mem_cons_self _ h
      exact ih (a := { a with sdk := { a.sdk with
        asked := a.sdk.asked + 1, calls := c :: a.sdk.calls } }) hrest hc

theorem tries_calls (h : (a.tries cs).2 = none) :
    (a.tries cs).1.sdk.calls = cs.reverse ++ a.sdk.calls := by
  induction cs generalizing a with
  | nil => rfl
  | cons c cs ih =>
    unfold tries at h ⊢
    rw [GalaxySdk.attempt] at h ⊢
    unfold GalaxySdk.call at h ⊢
    cases hthrows : (a.sdk.answers a.sdk.asked).throws with
    | some what =>
      rw [hthrows] at h
      cases h
    | none =>
      rw [hthrows] at h
      rw [List.reverse_cons, List.append_assoc]
      exact ih (a := { a with sdk := { a.sdk with
        asked := a.sdk.asked + 1, calls := c :: a.sdk.calls } }) h

/-- A single call takes effect, or throws and leaves the history as it is. -/
theorem tries_one (c : SdkCall) :
    (a.sdk.answers a.sdk.asked).throws = none ∧ (a.tries [c]).2 = none ∧
        (a.tries [c]).1.sdk.calls = c :: a.sdk.calls ∨
      (a.sdk.answers a.sdk.asked).throws ≠ none ∧ (a.tries [c]).2 ≠ none ∧
        (a.tries [c]).1.sdk.calls = a.sdk.calls := by
  unfold tries
  simp only [GalaxySdk.attempt, GalaxySdk.call]
  cases hthrows : (a.sdk.answers a.sdk.asked).throws with
  | some what => exact .inr ⟨by simp, by simp, rfl⟩
  | none => exact .inl ⟨rfl, rfl, rfl⟩

/-- A set flag tells the truth about the stream. -/
structure Backed (a : DaHengGalaxyAdapter) : Prop where
  registered : a.captureRegistered = true → (streamOf a.sdk.calls).registered = true
  grabbing : a.grabRunning = true → (streamOf a.sdk.calls).grabbing = true

/-- Both flags are down. -/
structure Unset (a : DaHengGalaxyAdapter) : Prop where
  captureRegistered : a.captureRegistered = false
  grabRunning : a.grabRunning = false

theorem Unset.backed (h : a.Unset) : a.Backed :=
  ⟨fun hreg => absurd (h.captureRegistered ▸ hreg) (by decide),
    fun hgrab => absurd (h.grabRunning ▸ hgrab) (by decide)⟩

/-- Calls that leave the bridge as it is. -/
def KeepsRegistered (cs : List SdkCall) : Prop :=
  ∀ c ∈ cs, ∀ s : StreamState, (s.after c).registered = s.registered

def KeepsGrabbing (cs : List SdkCall) : Prop :=
  ∀ c ∈ cs, ∀ s : StreamState, (s.after c).grabbing = s.grabbing

theorem tries_registered (h : KeepsRegistered cs) :
    (streamOf (a.tries cs).1.sdk.calls).registered = (streamOf a.sdk.calls).registered :=
  tries_history (P := fun l => (streamOf l).registered = (streamOf a.sdk.calls).registered)
    (fun c hc _ hb => (h c hc _).trans hb) rfl

theorem tries_grabbing (h : KeepsGrabbing cs) :
    (streamOf (a.tries cs).1.sdk.calls).grabbing = (streamOf a.sdk.calls).grabbing :=
  tries_history (P := fun l => (streamOf l).grabbing = (streamOf a.sdk.calls).grabbing)
    (fun c hc _ hb => (h c hc _).trans hb) rfl

theorem requireOpen_snd (a : DaHengGalaxyAdapter) :
    a.requireOpen.2 = (a.open_ && a.stream && a.remote) := by
  unfold requireOpen
  cases a.open_ <;> cases a.stream <;> cases a.remote <;> rfl

/-- Stopping the stream lowers its flag and keeps the bridge, the handles and the callbacks. -/
structure StoppedGrab (before after : DaHengGalaxyAdapter) : Prop where
  grabRunning : after.grabRunning = false
  captureRegistered : after.captureRegistered = before.captureRegistered
  registered : (streamOf after.sdk.calls).registered = (streamOf before.sdk.calls).registered
  requireOpen : after.requireOpen.2 = before.requireOpen.2
  userResultCb : after.userResultCb = before.userResultCb

theorem StoppedGrab.backed {b : DaHengGalaxyAdapter} (hs : a.StoppedGrab b) (h : a.Backed) :
    b.Backed :=
  ⟨fun hr => hs.registered.trans (h.registered (hs.captureRegistered ▸ hr)),
    fun hr => absurd (hs.grabRunning ▸ hr) (by decide)⟩

theorem stopStreamGrabIfRunning_stopped (a : DaHengGalaxyAdapter) :
    a.StoppedGrab a.stopStreamGrabIfRunning := by
  have hstop : KeepsRegistered [.execute "AcquisitionStop"] := by
    simp [KeepsRegistered, StreamState.after]
  have hgrab : KeepsRegistered [.stopGrab] := by simp [KeepsRegistered, StreamState.after]
  unfold stopStreamGrabIfRunning
  cases hrun : a.grabRunning with
  | false => exact ⟨hrun, rfl, rfl, rfl, rfl⟩
  | true =>
    simp only [Bool.not_true, Bool.false_eq_true, if_false]
    refine ⟨rfl, ?_, ?_, ?_, ?_⟩
    · split_ifs <;> rfl
    · split_ifs
      · exact (tries_registered hgrab).trans (tries_registered hstop)
      · exact tries_registered hstop
      · exact tries_registered hgrab
      · rfl
    · rw [requireOpen_snd, requireOpen_snd]
      split_ifs <;> rfl
    · split_ifs <;> rfl

theorem stopAsyncGrab_unset (a : DaHengGalaxyAdapter) : a.stopAsyncGrab.Unset := by
  have h := stopStreamGrabIfRunning_stopped
    { (if a.stream then (a.tries [.unregisterCaptureCallback]).1 else a) with
      captureRegistered := false, userFrameCb := none, userResultCb := none }
  exact ⟨h.captureRegistered, h.grabRunning⟩

theorem closeHandles_unset (h : a.Unset) : a.closeHandles.Unset := by
  unfold closeHandles
  split
  case h_1 b _ he =>
    obtain rfl := tries_fst he
    exact ⟨h.captureRegistered, h.grabRunning⟩
  case h_2 b he =>
    obtain rfl := tries_fst he
    split_ifs <;> exact ⟨h.captureRegistered, h.grabRunning⟩

theorem close_unset (a : DaHengGalaxyAdapter) : a.close.Unset := by
  have h := a.stopAsyncGrab_unset
  unfold close
  dsimp only
  split_ifs
  · exact h
  · have hc := closeHandles_unset h
    exact ⟨hc.captureRegistered, hc.grabRunning⟩

theorem openStreams_unset (h : a.Unset) (deviceId : String) : (a.openStreams deviceId).1.Unset := by
  unfold openStreams
  split
  case h_1 b _ he =>
    obtain rfl := tries_fst he
    exact ⟨h.captureRegistered, h.grabRunning⟩
  case h_2 b he =>
    obtain rfl := tries_fst he
    split
    case h_1 d _ he =>
      obtain rfl := tries_fst he
      exact ⟨h.captureRegistered, h.grabRunning⟩
    case h_2 d he =>
      obtain rfl := tries_fst he
      split
      case h_1 e _ he =>
        obtain rfl := tries_fst he
        exact ⟨h.captureRegistered, h.grabRunning⟩
      case h_2 e he =>
        obtain rfl := tries_fst he
        exact ⟨h.captureRegistered, rfl⟩

theorem openHandles_unset (h : a.Unset) (deviceId : String) : (a.openHandles deviceId).1.Unset := by
  unfold openHandles
  split
  case h_1 b _ he =>
    obtain rfl := tries_fst he
    exact ⟨h.captureRegistered, h.grabRunning⟩
  case h_2 b he =>
    obtain rfl := tries_fst he
    split
    case h_1 => exact ⟨h.captureRegistered, h.grabRunning⟩
    case h_2 sdk answer _ =>
      by_cases hcount : answer.streamCount ≤ 0
      · rw [if_pos hcount]
        split
        case h_1 d _ he =>
          obtain rfl := tries_fst he
          exact ⟨h.captureRegistered, h.grabRunning⟩
        case h_2 d he =>
          obtain rfl := tries_fst he
          exact ⟨h.captureRegistered, h.grabRunning⟩
      · rw [if_neg hcount]
        apply openStreams_unset
        exact ⟨h.captureRegistered, h.grabRunning⟩

theorem openDevice_unset (a : DaHengGalaxyAdapter) (deviceId : String) :
    (a.openDevice deviceId).1.Unset := by
  have h := openHandles_unset a.close_unset deviceId
  unfold openDevice
  split
  case h_1 b _ he =>
    rw [he] at h
    exact h
  case h_2 b _ he =>
    rw [he] at h
    refine ⟨?_, ?_⟩
    · unfold cleanupAfterFailure dropHandles setErr
      dsimp only
      split_ifs <;> exact h.captureRegistered
    · unfold cleanupAfterFailure dropHandles setErr
      dsimp only
      split_ifs <;> rfl

theorem keeps_applyTriggerMode (mode : TriggerMode) :
    KeepsRegistered (applyTriggerMode mode) ∧ KeepsGrabbing (applyTriggerMode mode) := by
  cases mode <;>
    simp [applyTriggerMode, KeepsRegistered, KeepsGrabbing, StreamState.after]

theorem Backed.tries (h : a.Backed) (hreg : KeepsRegistered cs) (hgrab : KeepsGrabbing cs) :
    (a.tries cs).1.Backed :=
  ⟨fun hr => (tries_registered hreg).trans (h.registered hr),
    fun hr => (tries_grabbing hgrab).trans (h.grabbing hr)⟩

theorem Backed.setErr (h : a.Backed) (c : CameraError) (msg : String) : (a.setErr c msg).Backed :=
  ⟨h.registered, h.grabbing⟩

theorem Backed.requireOpen (h : a.Backed) : a.requireOpen.1.Backed := by
  unfold DaHengGalaxyAdapter.requireOpen
  split_ifs
  · exact h.setErr _ _
  · exact h

theorem requireOpen_eq (h : a.requireOpen.2 = true) : a.requireOpen.1 = a := by
  unfold requireOpen at h ⊢
  split_ifs at h ⊢
  rfl

theorem Backed.setTriggerMode (h : a.Backed) (mode : TriggerMode) :
    (a.setTriggerMode mode).1.Backed := by
  have hmode : Backed { a with triggerMode := mode } := ⟨h.registered, h.grabbing⟩
  have hkeeps := keeps_applyTriggerMode mode
  have hdone := hmode.tries hkeeps.1 hkeeps.2
  unfold DaHengGalaxyAdapter.setTriggerMode
  dsimp only
  split_ifs
  · exact hmode
  · split
    case h_1 b he =>
      rw [he] at hdone
      exact hdone
    case h_2 b _ he =>
      rw [he] at hdone
      exact hdone.setErr _ _

/-- Starting the stream keeps the bridge; where it succeeds the flag is up, and the adapter open. -/
structure Starts (before after : DaHengGalaxyAdapter) (ok : Bool) : Prop where
  backed : before.Backed → after.Backed
  registered : (streamOf after.sdk.calls).registered = (streamOf before.sdk.calls).registered
  captureRegistered : after.captureRegistered = before.captureRegistered
  userResultCb : after.userResultCb = before.userResultCb
  running : ok = true → after.grabRunning = true
  opened : ok = true → before.requireOpen.2 = true

theorem startStreamGrab_starts (a : DaHengGalaxyAdapter) :
    a.Starts a.startStreamGrab.1 a.startStreamGrab.2 := by
  have hreg : KeepsRegistered [.startGrab, .execute "AcquisitionStart"] := by
    simp [KeepsRegistered, StreamState.after]
  unfold startStreamGrab
  split
  case h_1 b he =>
    obtain rfl : a.requireOpen.1 = b := by rw [he]
    unfold requireOpen
    split_ifs
    · exact ⟨fun h => h.setErr _ _, rfl, rfl, rfl, by simp, by simp⟩
    · exact ⟨id, rfl, rfl, rfl, by simp, by simp⟩
  case h_2 b he =>
    have hopen : a.requireOpen.2 = true := by rw [he]
    obtain rfl : a = b := by
      rw [← requireOpen_eq hopen, he]
    split_ifs with hrun
    · exact ⟨id, rfl, rfl, rfl, fun _ => hrun, fun _ => hopen⟩
    · split
      case h_1 b he =>
        obtain rfl := tries_fst he
        have hnone : (a.tries [.startGrab, .execute "AcquisitionStart"]).2 = none := by rw [he]
        have hcalls := tries_calls hnone
        have hregs := tries_registered (a := a) hreg
        refine ⟨fun h => ⟨fun hr => hregs.trans (h.registered hr), fun _ => ?_⟩, hregs, rfl, rfl,
          fun _ => rfl, fun _ => hopen⟩
        show (streamOf (a.tries _).1.sdk.calls).grabbing = true
        rw [hcalls]
        rfl
      case h_2 b _ he =>
        obtain rfl := tries_fst he
        have hregs := tries_registered (a := a) hreg
        exact ⟨fun h => ⟨fun hr => hregs.trans (h.registered hr), by simp [DaHengGalaxyAdapter.setErr]⟩,
          hregs, rfl, rfl, by simp, by simp⟩

/-- What registering as the callbacks want it does: it keeps the callbacks and the handles. -/
structure Registers (before after : DaHengGalaxyAdapter) : Prop where
  backed : before.Backed → after.Backed
  requireOpen : after.requireOpen.2 = before.requireOpen.2
  userResultCb : after.userResultCb = before.userResultCb

theorem tries_one_threw {what : String} (h : (a.tries [c]).2 = some what) :
    (a.tries [c]).1.sdk.calls = a.sdk.calls := by
  obtain ⟨-, hnone, -⟩ | ⟨-, -, hcalls⟩ := a.tries_one c
  · cases hnone.symm.trans h
  · exact hcalls

theorem registerAsWanted_registers (a : DaHengGalaxyAdapter) : a.Registers a.registerAsWanted := by
  have hstopped := a.stopStreamGrabIfRunning_stopped
  unfold registerAsWanted
  dsimp only
  split_ifs
  · exact ⟨id, rfl, rfl⟩
  · split
    case h_1 b he =>
      obtain rfl := tries_fst he
      have hcalls : (tries _ _).1.sdk.calls = _ := tries_calls (congrArg Prod.snd he)
      refine ⟨fun _ => ⟨fun _ => ?_, fun hr => ?_⟩, ?_, hstopped.userResultCb⟩
      · show (streamOf (tries _ _).1.sdk.calls).registered = true
        rw [hcalls]
        rfl
      · exact absurd (hstopped.grabRunning ▸ hr) (by decide)
      · rw [requireOpen_snd, ← hstopped.requireOpen, requireOpen_snd]
        rfl
    case h_2 b _ he =>
      obtain rfl := tries_fst he
      have hcalls : (tries _ _).1.sdk.calls = _ := tries_one_threw (congrArg Prod.snd he)
      refine ⟨fun h => ⟨fun hr => ?_, fun hr => ?_⟩, ?_, hstopped.userResultCb⟩
      · show (streamOf (tries _ _).1.sdk.calls).registered = true
        rw [hcalls]
        exact (hstopped.backed h).registered hr
      · exact absurd (hstopped.grabRunning ▸ hr) (by decide)
      · rw [requireOpen_snd, ← hstopped.requireOpen, requireOpen_snd]
        rfl
  · have hkeep : KeepsGrabbing [.unregisterCaptureCallback] := by
      simp [KeepsGrabbing, StreamState.after]
    split
    case h_1 b he =>
      obtain rfl := tries_fst he
      have hstop := stopStreamGrabIfRunning_stopped
        { (a.tries [.unregisterCaptureCallback]).1 with captureRegistered := false }
      refine ⟨fun h => hstop.backed ⟨fun hr => absurd hr Bool.false_ne_true, fun hr => ?_⟩,
        hstop.requireOpen.trans ?_, hstop.userResultCb⟩
      · exact (tries_grabbing hkeep).trans (h.grabbing hr)
      · rw [requireOpen_snd, requireOpen_snd]
        rfl
    case h_2 b _ he =>
      obtain rfl := tries_fst he
      have hcalls : (tries _ _).1.sdk.calls = _ := tries_one_threw (congrArg Prod.snd he)
      refine ⟨fun h => ⟨fun hr => ?_, fun hr => ?_⟩, ?_, rfl⟩
      · show (streamOf (tries _ _).1.sdk.calls).registered = true
        rw [hcalls]
        exact h.registered hr
      · show (streamOf (tries _ _).1.sdk.calls).grabbing = true
        rw [hcalls]
        exact h.grabbing hr
      · rw [requireOpen_snd, requireOpen_snd]
        rfl
  · exact ⟨id, rfl, rfl⟩

theorem tries_one_fst (a : DaHengGalaxyAdapter) (c : SdkCall) :
    (a.tries [c]).1 = { a with sdk := (a.sdk.call c).1 } := by
  unfold tries
  rw [GalaxySdk.attempt]
  rcases a.sdk.call c with ⟨sdk, _ | _⟩ <;> rfl

theorem Backed.grabFailed (h : a.Backed) (what : String) : (a.grabFailed what).Backed := by
  unfold DaHengGalaxyAdapter.grabFailed
  split_ifs <;> exact h.setErr _ _

/-- Calls about a frame change nothing that the flags speak of. -/
theorem Backed.dequeue (h : a.Backed) (timeoutMs : Int32) : (a.dequeue timeoutMs).1.Backed := by
  have hone : (a.tries [.dqBuf timeoutMs]).1.Backed :=
    h.tries (by simp [KeepsRegistered, StreamState.after]) (by simp [KeepsGrabbing, StreamState.after])
  rw [tries_one_fst] at hone
  unfold DaHengGalaxyAdapter.dequeue
  split
  case h_1 sdk what he =>
    rw [he] at hone
    exact hone.grabFailed what
  case h_2 sdk answer he =>
    rw [he] at hone
    dsimp only at hone ⊢
    split
    case h_1 => exact hone.setErr _ _
    case h_2 img _ =>
      have hkeep : KeepsRegistered (if img.success then [SdkCall.getStatus, .readImage, .qBuf]
            else [.getStatus, .qBuf]) ∧
          KeepsGrabbing (if img.success then [SdkCall.getStatus, .readImage, .qBuf]
            else [.getStatus, .qBuf]) := by
        split <;> simp [KeepsRegistered, KeepsGrabbing, StreamState.after]
      have hframe := hone.tries hkeep.1 hkeep.2
      rcases he : DaHengGalaxyAdapter.tries _ _ with ⟨b, e⟩
      rw [he] at hframe
      cases e with
      | some what =>
        have hback : (b.tries [.qBuf]).1.Backed :=
          hframe.tries (by simp [KeepsRegistered, StreamState.after])
            (by simp [KeepsGrabbing, StreamState.after])
        exact hback.grabFailed what
      | none =>
        dsimp only
        split
        · exact hframe.setErr _ _
        · exact hframe.setErr _ _

theorem Backed.startAsyncGrab (h : a.Backed) : a.startAsyncGrab.1.Backed := by
  have hrequire := h.requireOpen
  have hkeep : KeepsGrabbing [.unregisterCaptureCallback] := by
    simp [KeepsGrabbing, StreamState.after]
  unfold DaHengGalaxyAdapter.startAsyncGrab
  split
  case h_1 b he =>
    rw [he] at hrequire
    exact hrequire
  case h_2 b he =>
    rw [he] at hrequire
    by_cases hcb : b.userFrameCb = none ∧ b.userResultCb = none
    · rw [if_pos hcb]
      exact hrequire.setErr _ _
    · rw [if_neg hcb]
      have hstopped := b.stopStreamGrabIfRunning_stopped
      generalize b.stopStreamGrabIfRunning = d at hstopped
      have hrun : (if d.stream then (d.tries [.unregisterCaptureCallback]).1 else d).grabRunning =
          false := by
        split_ifs <;> exact hstopped.grabRunning
      dsimp only
      generalize (if d.stream then (d.tries [.unregisterCaptureCallback]).1 else d) = f at hrun
      split
      case h_1 g _ hg =>
        obtain rfl : (f.tries _).1 = g := by rw [hg]
        have hunset : Unset { (f.tries [.registerCaptureCallback]).1 with captureRegistered := false } :=
          ⟨rfl, hrun⟩
        exact hunset.backed.setErr _ _
      case h_2 g hg =>
        obtain rfl : (f.tries _).1 = g := by rw [hg]
        have hcalls : (f.tries _).1.sdk.calls = _ := tries_calls (congrArg Prod.snd hg)
        have hbacked : Backed { (f.tries [.registerCaptureCallback]).1 with
            captureRegistered := true } := by
          refine ⟨fun _ => ?_, fun hr => absurd (hrun ▸ hr) (by decide)⟩
          show (streamOf (f.tries _).1.sdk.calls).registered = true
          rw [hcalls]
          rfl
        have hstarted := (startStreamGrab_starts _).backed hbacked
        split
        case h_1 k hk =>
          rw [hk] at hstarted
          exact hstarted.setErr _ _
        case h_2 k hk =>
          rw [hk] at hstarted
          refine ⟨fun hr => absurd hr Bool.false_ne_true, fun hr => ?_⟩
          dsimp only at hr hstarted ⊢
          split_ifs at hr ⊢
          · exact (tries_grabbing hkeep).trans (hstarted.grabbing hr)
          · exact hstarted.grabbing hr

theorem Backed.grabOne (h : a.Backed) (timeoutMs : Int32) : (a.grabOne timeoutMs).1.Backed := by
  have hrequire := h.requireOpen
  unfold DaHengGalaxyAdapter.grabOne
  split
  case h_1 b he =>
    rw [he] at hrequire
    exact hrequire
  case h_2 b he =>
    rw [he] at hrequire
    split_ifs
    · exact hrequire.setErr _ _
    · exact hrequire.dequeue timeoutMs
    · have hstart := b.startStreamGrab_starts.backed hrequire
      split
      case h_1 d hd =>
        rw [hd] at hstart
        exact hstart
      case h_2 d hd =>
        rw [hd] at hstart
        exact hstart.dequeue timeoutMs

theorem Backed.step (h : a.Backed) (m : Method) : (a.step m).Backed := by
  cases m with
  | openDevice deviceId => exact (a.openDevice_unset deviceId).backed
  | close => exact a.close_unset.backed
  | setCaptureResultCallback cb =>
    exact (registerAsWanted_registers { a with userResultCb := cb }).backed
      ⟨h.registered, h.grabbing⟩
  | setFrameCallback cb =>
    exact (registerAsWanted_registers { a with userFrameCb := cb }).backed
      ⟨h.registered, h.grabbing⟩
  | startAsyncGrab => exact h.startAsyncGrab
  | stopAsyncGrab => exact a.stopAsyncGrab_unset.backed
  | startStreamGrab => exact a.startStreamGrab_starts.backed h
  | grabOne timeoutMs => exact h.grabOne timeoutMs
  | setTriggerMode mode => exact h.setTriggerMode mode

/-- Calls that start and stop the stream and put the bridge on and off. -/
def aboutStream : SdkCall → Bool
  | .execute _ | .startGrab | .stopGrab | .registerCaptureCallback | .unregisterCaptureCallback => true
  | _ => false

section History
variable {P : List SdkCall → Prop}
  (hP : ∀ c, aboutStream c → ∀ before, P before → P (c :: before))
include hP

theorem tries_aboutStream (hcs : ∀ c ∈ cs, aboutStream c) (h : P a.sdk.calls) :
    P (a.tries cs).1.sdk.calls :=
  tries_history (fun c hc => hP c (hcs c hc)) h

theorem stopStreamGrabIfRunning_history (h : P a.sdk.calls) :
    P a.stopStreamGrabIfRunning.sdk.calls := by
  have hstop : ∀ c ∈ [SdkCall.execute "AcquisitionStop"], aboutStream c := by simp [aboutStream]
  have hgrab : ∀ c ∈ [SdkCall.stopGrab], aboutStream c := by simp [aboutStream]
  unfold stopStreamGrabIfRunning
  dsimp only
  split_ifs
  · exact h
  · exact tries_aboutStream hP hgrab (tries_aboutStream hP hstop h)
  · exact tries_aboutStream hP hstop h
  · exact tries_aboutStream hP hgrab h
  · exact h

theorem registerAsWanted_history (h : P a.sdk.calls) : P a.registerAsWanted.sdk.calls := by
  have hreg : ∀ c ∈ [SdkCall.registerCaptureCallback], aboutStream c := by simp [aboutStream]
  have hunreg : ∀ c ∈ [SdkCall.unregisterCaptureCallback], aboutStream c := by simp [aboutStream]
  have hregistered := tries_aboutStream hP hreg (stopStreamGrabIfRunning_history hP h)
  have hunregistered := tries_aboutStream hP hunreg h
  unfold registerAsWanted
  dsimp only
  split_ifs
  · exact h
  · split
    case h_1 b he =>
      rw [he] at hregistered
      exact hregistered
    case h_2 b _ he =>
      rw [he] at hregistered
      exact hregistered
  · split
    case h_1 b he =>
      rw [he] at hunregistered
      exact stopStreamGrabIfRunning_history hP (a := { b with captureRegistered := false }) hunregistered
    case h_2 b _ he =>
      rw [he] at hunregistered
      exact hunregistered
  · exact h

theorem startStreamGrab_history (h : P a.sdk.calls) : P a.startStreamGrab.1.sdk.calls := by
  have hstart : ∀ c ∈ [SdkCall.startGrab, .execute "AcquisitionStart"], aboutStream c := by
    simp [aboutStream]
  have hrequire : P a.requireOpen.1.sdk.calls := by
    unfold requireOpen
    split_ifs <;> exact h
  unfold startStreamGrab
  split
  case h_1 b he =>
    rw [he] at hrequire
    exact hrequire
  case h_2 b he =>
    rw [he] at hrequire
    have hstarted := tries_aboutStream hP hstart hrequire
    split_ifs
    · exact hrequire
    · split
      case h_1 d hd =>
        rw [hd] at hstarted
        exact hstarted
      case h_2 d _ hd =>
        rw [hd] at hstarted
        exact hstarted

end History

/-- Whatever has been called on the adapter, and whichever calls of the SDK have thrown. -/
def Reachable (a : DaHengGalaxyAdapter) : Prop :=
  ∃ answers ms, a = run DaHengGalaxyAdapter.step (fresh answers) ms

theorem Reachable.backed (h : a.Reachable) : a.Backed := by
  obtain ⟨answers, ms, rfl⟩ := h
  have hfresh : (fresh answers).Unset := ⟨rfl, rfl⟩
  exact run_invariant (fun _ m hb => hb.step m) hfresh.backed ms

end DaHengGalaxyAdapter

end Camera3D.Camera
