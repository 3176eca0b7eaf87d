import Camera3D.Camera.Galaxy
import Camera3D.Transition.Run

/-! The rules of the Galaxy SDK on registering the capture callback, kept on every sequence of calls
of the adapter as long as the SDK throws no exception. -/
namespace Camera3D.Camera

open Transition

/-- The rules, judged by what the stream is doing when the call is made. -/
def Allowed (before : StreamState) : SdkCall → Prop
  | .registerCaptureCallback => before.registered = false ∧ before.grabbing = false
  | .dqBuf _ => before.registered = false
  | .qBuf => before.registered = false
  | _ => True

def Obeyed : List SdkCall → Prop
  | [] => True
  | c :: before => Allowed (streamOf before) c ∧ Obeyed before

namespace GalaxySdk

/-- No call throws. -/
def Silent (s : GalaxySdk) : Prop := ∀ n, (s.answers n).throws = none

variable {s : GalaxySdk}

theorem call_silent (h : s.Silent) (c : SdkCall) :
    s.call c = ({ s with asked := s.asked + 1, calls := c :: s.calls }, .ok (s.answers s.asked)) := by
  unfold call
  rw [h s.asked]

theorem attempt_silent (h : s.Silent) (cs : List SdkCall) :
    s.attempt cs =
      ({ s with asked := s.asked + cs.length, calls := cs.reverse ++ s.calls }, none) := by
  induction cs generalizing s with
  | nil => rfl
  | cons c cs ih =>
    have htail : Silent { s with asked := s.asked + 1, calls := c :: s.calls } := h
    rw [attempt, call_silent h]
    dsimp only
    rw [ih htail]
    simp [Nat.add_comm, Nat.add_left_comm]

end GalaxySdk

namespace DaHengGalaxyAdapter

/-- The adapter's flags and handles agree with the calls made, which obey the rules. -/
structure Synced (a : DaHengGalaxyAdapter) : Prop where
  silent : a.sdk.Silent
  stream : a.stream = a.open_
  remote : a.remote = a.open_
  registered : a.captureRegistered = (streamOf a.sdk.calls).registered
  grabbing : a.grabRunning = (streamOf a.sdk.calls).grabbing
  closed : a.open_ = false → streamOf a.sdk.calls = {}
  obeyed : Obeyed a.sdk.calls

variable {a : DaHengGalaxyAdapter}

theorem tries_silent (h : ∀ n, (a.sdk.answers n).throws = none) (cs : List SdkCall) :
    a.tries cs = ({ a with sdk := { a.sdk with
      asked := a.sdk.asked + cs.length, calls := cs.reverse ++ a.sdk.calls } }, none) := by
  unfold tries
  rw [GalaxySdk.attempt_silent h]

theorem Synced.setErr (h : a.Synced) (c : CameraError) (msg : String) : (a.setErr c msg).Synced :=
  ⟨h.silent, h.stream, h.remote, h.registered, h.grabbing, h.closed, h.obeyed⟩

/-- On an open adapter the call goes through, on a closed one nothing happens. -/
theorem Synced.requireOpen (h : a.Synced) :
    a.requireOpen = (a, true) ∧ a.open_ = true ∨
      a.requireOpen = (a.setErr .kNotOpen "camera not open", false) ∧ a.open_ = false := by
  unfold DaHengGalaxyAdapter.requireOpen
  rw [h.stream, h.remote]
  cases hopen : a.open_
  · exact .inr ⟨rfl, rfl⟩
  · exact .inl ⟨rfl, rfl⟩

/-- A stream that grabs is the stream of an open adapter. -/
theorem Synced.open_of_grabRunning (h : a.Synced) (hrun : a.grabRunning = true) :
    a.open_ = true := by
  by_contra hclosed
  have hgrab := h.grabbing
  rw [hrun, h.closed (Bool.eq_false_iff.mpr hclosed)] at hgrab
  cases hgrab

/-- What stopping the stream leaves behind: it changes nothing but the grabbing. -/
structure Stopped (before after : DaHengGalaxyAdapter) : Prop where
  synced : after.Synced
  grabRunning : after.grabRunning = false
  captureRegistered : after.captureRegistered = before.captureRegistered
  open_ : after.open_ = before.open_

theorem Synced.stopStreamGrabIfRunning (h : a.Synced) : a.Stopped a.stopStreamGrabIfRunning := by
  have hsilent : ∀ n, (a.sdk.answers n).throws = none := h.silent
  have hreg := h.registered
  have hobeyed := h.obeyed
  unfold DaHengGalaxyAdapter.stopStreamGrabIfRunning
  cases hrun : a.grabRunning with
  | false => exact ⟨h, hrun, rfl, rfl⟩
  | true =>
    have hopen := h.open_of_grabRunning hrun
    simp only [h.remote, h.stream, hopen, tries_silent hsilent, Bool.not_true, if_true]
    constructor
    · constructor <;>
        simp [tries_silent, hsilent, GalaxySdk.Silent, streamOf, StreamState.after, Obeyed, Allowed,
          hreg, hobeyed]
    · rfl
    · simp [tries_silent, hsilent]
    · simp [tries_silent, hsilent, hopen]

/-- What stopping everything leaves behind. -/
structure Idle (before after : DaHengGalaxyAdapter) : Prop where
  synced : after.Synced
  grabRunning : after.grabRunning = false
  captureRegistered : after.captureRegistered = false
  open_ : after.open_ = before.open_

theorem Synced.stopAsyncGrab (h : a.Synced) : a.Idle a.stopAsyncGrab := by
  have hcleared : Synced { (if a.stream then (a.tries [.unregisterCaptureCallback]).1 else a) with
      captureRegistered := false, userFrameCb := none, userResultCb := none } := by
    cases hopen : a.open_ with
    | false =>
      have hidle := h.closed hopen
      rw [h.stream, hopen]
      exact ⟨h.silent, h.stream, h.remote, by simp [hidle], h.grabbing, h.closed, h.obeyed⟩
    | true =>
      have hsilent : ∀ n, (a.sdk.answers n).throws = none := h.silent
      have hgrab := h.grabbing
      have hobeyed := h.obeyed
      rw [h.stream, hopen, if_pos rfl, tries_silent hsilent]
      constructor <;>
        simp [GalaxySdk.Silent, hsilent, streamOf, StreamState.after, Obeyed, Allowed, hgrab, hobeyed,
          hopen, h.stream, h.remote]
  have hopen : (if a.stream then (a.tries [.unregisterCaptureCallback]).1 else a).open_ = a.open_ := by
    split <;> rfl
  have hstopped := hcleared.stopStreamGrabIfRunning
  exact ⟨hstopped.synced, hstopped.grabRunning, hstopped.captureRegistered,
    hstopped.open_.trans hopen⟩

/-- A closed adapter. -/
structure Closed (a : DaHengGalaxyAdapter) : Prop where
  synced : a.Synced
  grabRunning : a.grabRunning = false
  captureRegistered : a.captureRegistered = false
  open_ : a.open_ = false

theorem Synced.close (h : a.Synced) : a.close.Closed := by
  have hidle := h.stopAsyncGrab
  unfold DaHengGalaxyAdapter.close
  generalize a.stopAsyncGrab = b at hidle
  have hb := hidle.synced
  cases hopen : b.open_ with
  | false =>
    simp only [hopen, Bool.not_false, if_true]
    exact ⟨hb, hidle.grabRunning, hidle.captureRegistered, hopen⟩
  | true =>
    have hsilent : ∀ n, (b.sdk.answers n).throws = none := hb.silent
    have hobeyed := hb.obeyed
    have hgrab := hidle.grabRunning
    have hreg := hidle.captureRegistered
    simp only [hopen, Bool.not_true, Bool.false_eq_true, if_false]
    unfold closeHandles dropHandles
    simp only [hb.remote, hb.stream, hopen, if_true, tries_silent hsilent]
    cases hdevice : b.device <;>
      constructor <;>
      first
      | (constructor <;>
          simp [tries_silent, hsilent, GalaxySdk.Silent, streamOf, StreamState.after, Obeyed,
            Allowed, hobeyed, hgrab, hreg])
      | simp [tries_silent, hsilent, hgrab, hreg]

/-- Writing the trigger features leaves the stream as it is and breaks no rule. -/
theorem streamOf_applyTriggerMode (mode : TriggerMode) (calls : List SdkCall) :
    streamOf ((applyTriggerMode mode).reverse ++ calls) = streamOf calls ∧
      (Obeyed ((applyTriggerMode mode).reverse ++ calls) ↔ Obeyed calls) := by
  cases mode <;> simp [applyTriggerMode, streamOf, StreamState.after, Obeyed, Allowed]

theorem Closed.openStreams (h : a.Closed) (deviceId : String) :
    (a.openStreams deviceId).1.Synced ∧ ∃ opened, (a.openStreams deviceId).2 = .ok opened := by
  have hsilent : ∀ n, (a.sdk.answers n).throws = none := h.synced.silent
  have hreg := h.captureRegistered
  have hobeyed := h.synced.obeyed
  have htrigger := streamOf_applyTriggerMode a.triggerMode
  unfold DaHengGalaxyAdapter.openStreams
  simp only [tries_silent, hsilent, implies_true]
  refine ⟨?_, true, rfl⟩
  constructor <;>
    simp [DaHengGalaxyAdapter.setErr, GalaxySdk.Silent, hsilent, htrigger, streamOf,
      StreamState.after, Obeyed, Allowed, hobeyed, hreg]

/-- Calls that look for a device and open or close it. -/
def aboutDevice : SdkCall → Bool
  | .updateDeviceList | .openDeviceByIP _ | .openDeviceBySN _ | .getStreamCount | .closeDevice => true
  | _ => false

/-- They leave a closed adapter closed, whatever it holds of the device. -/
theorem Closed.aboutDevice (h : a.Closed) {c : SdkCall} (hc : DaHengGalaxyAdapter.aboutDevice c)
    (device : Bool) :
    Closed { a with device, sdk := (a.sdk.call c).1 } ∧ ∃ answer, (a.sdk.call c).2 = .ok answer := by
  have hs := h.synced
  have hcalls : streamOf (c :: a.sdk.calls) = streamOf a.sdk.calls ∧ Obeyed (c :: a.sdk.calls) := by
    have hobeyed := hs.obeyed
    cases c <;> simp_all [DaHengGalaxyAdapter.aboutDevice, streamOf, StreamState.after, Obeyed,
      Allowed]
  rw [GalaxySdk.call_silent hs.silent]
  exact ⟨⟨⟨hs.silent, hs.stream, hs.remote, hcalls.1 ▸ hs.registered, hcalls.1 ▸ hs.grabbing,
    fun hclosed => hcalls.1.trans (hs.closed hclosed), hcalls.2⟩, h.grabRunning, h.captureRegistered,
    h.open_⟩, _, rfl⟩

/-- A block of calls that each go through and keep a property. -/
theorem tries_keeps {P : DaHengGalaxyAdapter → Prop} {cs : List SdkCall}
    (hkeep : ∀ a, P a → ∀ c ∈ cs,
      P { a with sdk := (a.sdk.call c).1 } ∧ ∃ answer, (a.sdk.call c).2 = .ok answer)
    (h : P a) : P (a.tries cs).1 ∧ (a.tries cs).2 = none := by
  induction cs generalizing a with
  | nil => exact ⟨h, rfl⟩
  | cons c cs ih =>
    obtain ⟨hc, answer, hok⟩ := hkeep a h c List.mem_cons_self
    have hrest := ih (fun b hb d hd => hkeep b hb d (List.mem_cons_of_mem _ hd)) hc
    unfold tries at hrest ⊢
    rw [GalaxySdk.attempt]
    rcases hr : a.sdk.call c with ⟨sdk, r⟩
    rw [hr] at hok hrest
    cases hok
    exact hrest

theorem Closed.tries_aboutDevice (h : a.Closed) {cs : List SdkCall}
    (hcs : ∀ c ∈ cs, DaHengGalaxyAdapter.aboutDevice c) :
    (a.tries cs).1.Closed ∧ (a.tries cs).2 = none :=
  tries_keeps (fun b hb c hc => hb.aboutDevice (hcs c hc) b.device) h

theorem Closed.openHandles (h : a.Closed) (deviceId : String) :
    (a.openHandles deviceId).1.Synced ∧ ∃ opened, (a.openHandles deviceId).2 = .ok opened := by
  have hfound : ∀ c ∈ [SdkCall.updateDeviceList,
      if looksLikeIpv4 deviceId then .openDeviceByIP deviceId else .openDeviceBySN deviceId],
      DaHengGalaxyAdapter.aboutDevice c := by
    intro c hc
    split at hc <;> (simp at hc; rcases hc with rfl | rfl <;> rfl)
  obtain ⟨hopened, hnone⟩ := h.tries_aboutDevice hfound
  unfold DaHengGalaxyAdapter.openHandles
  rcases hr : a.tries _ with ⟨b, e⟩
  rw [hr] at hopened hnone
  cases hnone
  obtain ⟨hcounted, answer, hok⟩ := hopened.aboutDevice (c := .getStreamCount) rfl true
  dsimp only at hcounted ⊢
  rcases hs : b.sdk.call .getStreamCount with ⟨sdk, r⟩
  rw [hs] at hcounted hok
  cases hok
  dsimp only at hcounted ⊢
  split
  case isTrue =>
    have hreported : Closed ({ b with device := true, sdk }.setErr .kBackendError
        "no stream on device") :=
      ⟨hcounted.synced.setErr _ _, hcounted.grabRunning, hcounted.captureRegistered, hcounted.open_⟩
    have hclose : ∀ c ∈ [SdkCall.closeDevice], DaHengGalaxyAdapter.aboutDevice c := by
      simp [DaHengGalaxyAdapter.aboutDevice]
    obtain ⟨hclosed, hnone⟩ := hreported.tries_aboutDevice hclose
    rcases ht : tries _ [.closeDevice] with ⟨b', e⟩
    rw [ht] at hclosed hnone
    cases hnone
    have hs := hclosed.synced
    exact ⟨⟨hs.silent, hs.stream, hs.remote, hs.registered, hs.grabbing, hs.closed, hs.obeyed⟩,
      false, rfl⟩
  case isFalse => exact hcounted.openStreams deviceId

theorem Synced.openDevice (h : a.Synced) (deviceId : String) : (a.openDevice deviceId).1.Synced := by
  obtain ⟨hsynced, opened, hok⟩ := h.close.openHandles deviceId
  unfold DaHengGalaxyAdapter.openDevice
  rcases hr : a.close.openHandles deviceId with ⟨b, r⟩
  rw [hr] at hsynced hok
  cases hok
  exact hsynced

theorem Synced.setTriggerMode (h : a.Synced) (mode : TriggerMode) :
    (a.setTriggerMode mode).1.Synced := by
  have hmode : Synced { a with triggerMode := mode } :=
    ⟨h.silent, h.stream, h.remote, h.registered, h.grabbing, h.closed, h.obeyed⟩
  unfold DaHengGalaxyAdapter.setTriggerMode
  dsimp only
  split
  case isTrue => exact hmode
  case isFalse hopen =>
    have htrigger := streamOf_applyTriggerMode mode a.sdk.calls
    rw [tries_silent hmode.silent]
    exact ⟨h.silent, h.stream, h.remote, htrigger.1 ▸ h.registered, htrigger.1 ▸ h.grabbing,
      fun hclosed => htrigger.1.trans (h.closed hclosed), htrigger.2.mpr h.obeyed⟩

/-- Starting the stream succeeds on an open adapter and changes nothing but the grabbing. -/
theorem Synced.startStreamGrab (h : a.Synced) :
    a.startStreamGrab.1.Synced ∧ a.startStreamGrab.2 = a.open_ ∧
      a.startStreamGrab.1.captureRegistered = a.captureRegistered := by
  have hsilent : ∀ n, (a.sdk.answers n).throws = none := h.silent
  have hreg := h.registered
  have hobeyed := h.obeyed
  unfold DaHengGalaxyAdapter.startStreamGrab
  obtain ⟨hopen, hyes⟩ | ⟨hclosed, hno⟩ := h.requireOpen
  · rw [hopen, hyes]
    dsimp only
    split
    case isTrue => exact ⟨h, rfl, rfl⟩
    case isFalse hrun =>
      rw [tries_silent hsilent]
      refine ⟨?_, rfl, rfl⟩
      constructor <;>
        simp [DaHengGalaxyAdapter.setErr, GalaxySdk.Silent, hsilent, streamOf, StreamState.after,
          Obeyed, Allowed, hobeyed, hreg, hyes, h.stream, h.remote]
  · rw [hclosed, hno]
    exact ⟨h.setErr _ _, rfl, rfl⟩

/-- Registering on a stopped stream, where the bridge is not registered. -/
theorem Synced.register (h : a.Synced) (hopen : a.open_ = true) (hgrab : a.grabRunning = false)
    (hreg : a.captureRegistered = false) :
    (a.tries [.registerCaptureCallback]).2 = none ∧
      Synced { (a.tries [.registerCaptureCallback]).1 with captureRegistered := true } := by
  have hsilent : ∀ n, (a.sdk.answers n).throws = none := h.silent
  have hobeyed := h.obeyed
  have hstreamReg := h.registered
  have hstreamGrab := h.grabbing
  rw [hreg] at hstreamReg
  rw [hgrab] at hstreamGrab
  rw [tries_silent hsilent]
  refine ⟨rfl, ?_⟩
  constructor <;>
    simp [GalaxySdk.Silent, hsilent, streamOf, StreamState.after, Obeyed, Allowed, hobeyed, hopen,
      h.stream, h.remote, hgrab, ← hstreamReg, ← hstreamGrab]

theorem Synced.unregister (h : a.Synced) (hopen : a.open_ = true) :
    (a.tries [.unregisterCaptureCallback]).2 = none ∧
      Synced { (a.tries [.unregisterCaptureCallback]).1 with captureRegistered := false } := by
  have hsilent : ∀ n, (a.sdk.answers n).throws = none := h.silent
  have hobeyed := h.obeyed
  have hgrab := h.grabbing
  rw [tries_silent hsilent]
  refine ⟨rfl, ?_⟩
  constructor <;>
    simp [GalaxySdk.Silent, hsilent, streamOf, StreamState.after, Obeyed, Allowed, hobeyed, hopen,
      h.stream, h.remote, hgrab]

theorem Synced.registerAsWanted (h : a.Synced) : a.registerAsWanted.Synced := by
  unfold DaHengGalaxyAdapter.registerAsWanted
  dsimp only
  split_ifs with hopen hneed hneed'
  · exact h
  · have hyes : a.open_ = true := by
      rw [h.stream] at hopen
      simpa using hopen
    have hreg : a.captureRegistered = false := by
      simp only [Bool.and_eq_true, Bool.not_eq_true'] at hneed
      exact hneed.2
    have hstopped := h.stopStreamGrabIfRunning
    obtain ⟨hnone, hdone⟩ := hstopped.synced.register (hstopped.open_.trans hyes)
      hstopped.grabRunning (hstopped.captureRegistered.trans hreg)
    rcases hr : a.stopStreamGrabIfRunning.tries [.registerCaptureCallback] with ⟨b, e⟩
    rw [hr] at hnone hdone
    cases hnone
    exact hdone
  · have hyes : a.open_ = true := by
      rw [h.stream] at hopen
      simpa using hopen
    obtain ⟨hnone, hdone⟩ := h.unregister hyes
    rcases hr : a.tries [.unregisterCaptureCallback] with ⟨b, e⟩
    rw [hr] at hnone hdone
    cases hnone
    exact hdone.stopStreamGrabIfRunning.synced
  · exact h

theorem Synced.withCallbacks (h : a.Synced) (frameCb resultCb : Option String) :
    Synced { a with userFrameCb := frameCb, userResultCb := resultCb } :=
  ⟨h.silent, h.stream, h.remote, h.registered, h.grabbing, h.closed, h.obeyed⟩

/-- Taking the bridge off a stopped stream and putting it on again, whatever the flag says. -/
theorem Synced.reregister (h : a.Synced) (hopen : a.open_ = true) (hgrab : a.grabRunning = false) :
    let b := (a.tries [.unregisterCaptureCallback]).1.tries [.registerCaptureCallback]
    b.2 = none ∧ Synced { b.1 with captureRegistered := true } := by
  have hsilent : ∀ n, (a.sdk.answers n).throws = none := h.silent
  have hobeyed := h.obeyed
  have hstreamGrab := h.grabbing
  rw [hgrab] at hstreamGrab
  intro b
  have hb : b = ({ a with sdk := { a.sdk with
      asked := a.sdk.asked + 1 + 1
      calls := .registerCaptureCallback :: .unregisterCaptureCallback :: a.sdk.calls } }, none) := by
    simp [b, tries_silent, hsilent]
  rw [hb]
  refine ⟨rfl, ?_⟩
  constructor <;>
    simp [GalaxySdk.Silent, hsilent, streamOf, StreamState.after, Obeyed, Allowed, hobeyed, hopen,
      h.stream, h.remote, hgrab, ← hstreamGrab]

theorem Synced.startAsyncGrab (h : a.Synced) : a.startAsyncGrab.1.Synced := by
  unfold DaHengGalaxyAdapter.startAsyncGrab
  obtain ⟨hopen, hyes⟩ | ⟨hclosed, -⟩ := h.requireOpen
  · rw [hopen]
    dsimp only
    by_cases hcb : a.userFrameCb = none ∧ a.userResultCb = none
    · rw [if_pos hcb]
      exact h.setErr _ _
    · rw [if_neg hcb]
      have hstopped := h.stopStreamGrabIfRunning
      generalize a.stopStreamGrabIfRunning = b at hstopped
      have hopenb := hstopped.open_.trans hyes
      have hstream : b.stream = true := hstopped.synced.stream.trans hopenb
      obtain ⟨hnone, hregistered⟩ := hstopped.synced.reregister hopenb hstopped.grabRunning
      rw [if_pos hstream]
      rcases hr : (b.tries [.unregisterCaptureCallback]).1.tries [.registerCaptureCallback] with
        ⟨c, e⟩
      have hopenc : c.open_ = true := by
        have hfst := congrArg Prod.fst hr
        rw [← show _ = c from hfst]
        exact hopenb
      rw [hr] at hnone hregistered
      cases hnone
      obtain ⟨hstarted, hok, -⟩ := hregistered.startStreamGrab
      dsimp only at hstarted hok ⊢
      rcases hs : DaHengGalaxyAdapter.startStreamGrab { c with captureRegistered := true } with ⟨d, ok⟩
      rw [hs] at hstarted hok
      obtain rfl : ok = true := hok.trans hopenc
      exact hstarted.setErr _ _
  · rw [hclosed]
    exact h.setErr _ _

/-- Calls about one frame. -/
def aboutFrame : SdkCall → Bool
  | .dqBuf _ | .getStatus | .readImage | .qBuf => true
  | _ => false

/-- An adapter whose frames are polled. -/
structure Polled (a : DaHengGalaxyAdapter) : Prop where
  synced : a.Synced
  captureRegistered : a.captureRegistered = false

/-- They are allowed where the bridge is not registered, and leave everything as it is. -/
theorem Polled.aboutFrame (h : a.Polled) {c : SdkCall} (hc : DaHengGalaxyAdapter.aboutFrame c) :
    Polled { a with sdk := (a.sdk.call c).1 } ∧ ∃ answer, (a.sdk.call c).2 = .ok answer := by
  have hs := h.synced
  have hreg := h.captureRegistered
  have hcalls : streamOf (c :: a.sdk.calls) = streamOf a.sdk.calls ∧ Obeyed (c :: a.sdk.calls) := by
    have hobeyed := hs.obeyed
    have hstreamReg := hs.registered
    rw [hreg] at hstreamReg
    cases c <;> simp_all [DaHengGalaxyAdapter.aboutFrame, streamOf, StreamState.after, Obeyed,
      Allowed]
  rw [GalaxySdk.call_silent hs.silent]
  exact ⟨⟨⟨hs.silent, hs.stream, hs.remote, hcalls.1 ▸ hs.registered, hcalls.1 ▸ hs.grabbing,
    fun hclosed => hcalls.1.trans (hs.closed hclosed), hcalls.2⟩, hreg⟩, _, rfl⟩

theorem Polled.tries_aboutFrame (h : a.Polled) {cs : List SdkCall}
    (hcs : ∀ c ∈ cs, DaHengGalaxyAdapter.aboutFrame c) :
    (a.tries cs).1.Polled ∧ (a.tries cs).2 = none :=
  tries_keeps (fun _ hb c hc => hb.aboutFrame (hcs c hc)) h

theorem Synced.dequeue (h : a.Synced) (hreg : a.captureRegistered = false) (timeoutMs : Int32) :
    (a.dequeue timeoutMs).1.Synced := by
  have hpolled : a.Polled := ⟨h, hreg⟩
  obtain ⟨hdequeued, answer, hok⟩ := hpolled.aboutFrame (c := .dqBuf timeoutMs) rfl
  unfold DaHengGalaxyAdapter.dequeue
  rcases hr : a.sdk.call (.dqBuf timeoutMs) with ⟨sdk, r⟩
  rw [hr] at hdequeued hok
  cases hok
  dsimp only at hdequeued ⊢
  split
  case h_1 => exact hdequeued.synced.setErr _ _
  case h_2 img _ =>
    have hframe : ∀ c ∈ if img.success then [SdkCall.getStatus, .readImage, .qBuf]
        else [SdkCall.getStatus, .qBuf], DaHengGalaxyAdapter.aboutFrame c := by
      split <;> simp [DaHengGalaxyAdapter.aboutFrame]
    obtain ⟨hdone, hnone⟩ := hdequeued.tries_aboutFrame hframe
    rcases ht : tries _ _ with ⟨b, e⟩
    rw [ht] at hdone hnone
    cases hnone
    dsimp only
    split
    · exact hdone.synced.setErr _ _
    · exact hdone.synced.setErr _ _

theorem Synced.grabOne (h : a.Synced) (timeoutMs : Int32) : (a.grabOne timeoutMs).1.Synced := by
  unfold DaHengGalaxyAdapter.grabOne
  obtain ⟨hopen, hyes⟩ | ⟨hclosed, -⟩ := h.requireOpen
  · rw [hopen]
    dsimp only
    split_ifs with hreg hrun
    · exact h.setErr _ _
    · exact h.dequeue (Bool.eq_false_iff.mpr hreg) timeoutMs
    · obtain ⟨hstarted, hok, hsame⟩ := h.startStreamGrab
      rcases hr : a.startStreamGrab with ⟨b, ok⟩
      rw [hr] at hstarted hok hsame
      dsimp only at hstarted hok hsame
      rw [hok, hyes]
      exact hstarted.dequeue (hsame.trans (Bool.eq_false_iff.mpr hreg)) timeoutMs
  · rw [hclosed]
    exact h.setErr _ _

theorem Synced.step (h : a.Synced) (m : Method) : (a.step m).Synced := by
  cases m with
  | openDevice deviceId => exact h.openDevice deviceId
  | close => exact h.close.synced
  | setCaptureResultCallback cb => exact (h.withCallbacks a.userFrameCb cb).registerAsWanted
  | setFrameCallback cb => exact (h.withCallbacks cb a.userResultCb).registerAsWanted
  | startAsyncGrab => exact h.startAsyncGrab
  | stopAsyncGrab => exact h.stopAsyncGrab.synced
  | startStreamGrab => exact h.startStreamGrab.1
  | grabOne timeoutMs => exact h.grabOne timeoutMs
  | setTriggerMode mode => exact h.setTriggerMode mode

theorem synced_fresh {answers : ℕ → Answer} (h : ∀ n, (answers n).throws = none) :
    (fresh answers).Synced :=
  ⟨h, rfl, rfl, rfl, rfl, fun _ => rfl, trivial⟩

/-- The flags say what the stream is doing, and the rules of the SDK are kept. -/
theorem galaxy_protocol (answers : ℕ → Answer) (hsilent : ∀ n, (answers n).throws = none)
    (ms : List Method) :
    let a := run step (fresh answers) ms
    a.captureRegistered = (streamOf a.sdk.calls).registered ∧
      a.grabRunning = (streamOf a.sdk.calls).grabbing ∧ Obeyed a.sdk.calls := by
  intro a
  have h : a.Synced := run_invariant (fun _ m hb => hb.step m) (synced_fresh hsilent) ms
  exact ⟨h.registered, h.grabbing, h.obeyed⟩

theorem galaxy_protocol_reregistered :
    let a := run step (fresh fun _ => {}) [.openDevice "SN1", .setFrameCallback (some "SN1"),
      .startAsyncGrab, .stopAsyncGrab, .grabOne 100]
    a.captureRegistered = (streamOf a.sdk.calls).registered ∧
      a.grabRunning = (streamOf a.sdk.calls).grabbing ∧ Obeyed a.sdk.calls :=
  galaxy_protocol (fun _ => {}) (fun _ => rfl) _

end DaHengGalaxyAdapter

end Camera3D.Camera
