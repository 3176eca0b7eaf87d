import Camera3D.Hub.Completion
import Camera3D.Hub.InFlight

/-! Which capture the published frames belong to. The frames carry no mark of it: a publication
holds what arrived while its capture was in flight. -/
namespace Camera3D.Hub
open Camera Serial Ipc Transition

/-- The frames of a publication; the final one repeats the first. -/
def CapturePublication.contents (pub : CapturePublication) : List FrameBuffer :=
  let frames := pub.cameraRawSlots.map CameraRawShmSlot.frame
  frames ++ if pub.hasFinal then frames.take 1 else []

theorem CapturePublication.mem_contents {pub : CapturePublication} {fb : FrameBuffer}
    (h : fb ∈ pub.contents) : ∃ e ∈ pub.cameraRawSlots, e.frame = fb := by
  have hmem : fb ∈ pub.cameraRawSlots.map CameraRawShmSlot.frame := by
    unfold contents at h
    rcases List.mem_append.mp h with h | h
    · exact h
    · split_ifs at h
      · exact List.mem_of_mem_take h
      · cases h
  exact List.mem_map.mp hmem

namespace State

/-- Pending frames belong to the capture in flight, published ones to their publication. -/
structure Tagged (s : State) : Prop where
  pending : s.awaitingFrame = true → ∀ id, ∀ fb ∈ s.received id,
    fb.trigger = s.awaitingClientCaptureId
  stored : ∀ cid pub, s.store.publications.lookup cid = some pub → ∀ e ∈ pub.cameraRawSlots,
    e.frame.trigger = cid

theorem Tagged.move {s s' : State} {r : Option CaptureRequest} (h : s.Tagged) (hm : s.Move r s') :
    s'.Tagged := by
  cases hm with
  | same => exact h
  | runtime rt hne => exact ⟨h.pending, h.stored⟩
  | resumed rt hrt hold => exact ⟨h.pending, h.stored⟩
  | counted request hid hs => exact ⟨h.pending, h.stored⟩
  | errorTaken => exact ⟨h.pending, h.stored⟩
  | released hs =>
    refine ⟨fun hw => ?_, fun cid pub hpub => ?_⟩
    · cases hw
    · cases hpub
  | timedOut hw =>
    refine ⟨fun hw => ?_, h.stored⟩
    cases hw
  | notSent request hadm =>
    refine ⟨fun hw => ?_, h.stored⟩
    cases hw
  | armed request hadm =>
    -- What was pending before the capture is discarded when it is armed.
    refine ⟨fun _ id fb hfb => ?_, h.stored⟩
    cases hfb

theorem mem_received_pushFrame {s : State} {mid id : String} {fb fb' : FrameBuffer}
    (h : fb' ∈ (s.pushFrame mid fb).received id) : fb' ∈ s.received id ∨ id = mid ∧ fb' = fb := by
  by_cases hid : id = mid
  · subst hid
    rw [received_pushFrame_self, List.mem_append, List.mem_singleton] at h
    exact h.imp_right fun heq => ⟨rfl, heq⟩
  · rw [received_pushFrame_ne hid] at h
    exact .inl h

theorem Tagged.delivers {s : State} {sNext : UInt32} {mid : String} {fb : FrameBuffer}
    {r : State × UInt32} (h : s.Tagged) (hr : s.Delivers sNext mid fb r)
    (hfb : s.awaitingFrame = true → mid ∈ s.sessionDevicesOrdered →
      fb.trigger = s.awaitingClientCaptureId) : r.1.Tagged := by
  have hpush : s.awaitingFrame = true → mid ∈ s.sessionDevicesOrdered →
      ∀ id, ∀ fb' ∈ (s.pushFrame mid fb).received id, fb'.trigger = s.awaitingClientCaptureId := by
    intro hw hm id fb' hfb'
    rcases mem_received_pushFrame hfb' with hold | ⟨_, rfl⟩
    · exact h.pending hw id fb' hold
    · exact hfb hw hm
  cases hr with
  | dropped hdrop => exact h
  | kept hw hm hc => exact ⟨fun _ => hpush hw hm, h.stored⟩
  | unpublished hw hm hc hps hshm hle err =>
    refine ⟨fun hw => ?_, h.stored⟩
    cases hw
  | @published hw hm hc w out hp =>
    refine ⟨fun hw => ?_, fun cid pub hpub e he => ?_⟩
    · cases hw
    · rcases PublicationStore.lookup_remember hpub with ⟨rfl, rfl⟩ | ⟨_, hold⟩
      · have hmem : e.frame ∈ (s.pushFrame mid fb).listed.map Listed.frame := by
          rw [← hp.covers.frames_eq]
          exact List.mem_map_of_mem he
        obtain ⟨l, hl, hframe⟩ := List.mem_map.mp hmem
        obtain ⟨id, _, hrec⟩ := mem_listed hl
        rw [← hframe]
        exact hpush hw hm id _ hrec
      · exact h.stored cid pub hold e he

end State

namespace World
variable {α π θ : Type*}

/-- A frame that the hub takes in was exposed by the capture that is in flight. -/
def Timely (w : World α π θ) : Event α π θ → Prop
  | .cameraFrame _ mid fb => w.hub.awaitingFrame = true → mid ∈ w.hub.sessionDevicesOrdered →
      fb.trigger = w.hub.awaitingClientCaptureId
  | _ => True

instance (w : World α π θ) : ∀ e, Decidable (w.Timely e)
  | .cameraFrame _ mid fb => inferInstanceAs (Decidable (_ → mid ∈ _ → fb.trigger = _))
  | .call _ _ | .step _ | .portChanged _ | .cameraChanged _ _ | .tick => isTrue trivial

variable [ICameraAdapter α] [ISerialPort π] [DecidableEq θ]

theorem step_tagged {w : World α π θ} {e : Event α π θ} (he : w.Timely e)
    (h : w.hub.Sound ∧ w.hub.Tagged) : (w.step e).hub.Sound ∧ (w.step e).hub.Tagged := by
  refine ⟨step_sound h.1 e, ?_⟩
  rcases w.step_move e with ⟨thread, mid, fb, rfl⟩ | hm
  · exact h.2.delivers (h.1.delivers (w.cursor thread) mid fb) he
  · exact h.2.move hm

/-- While only frames of the capture in flight are taken in, each publication holds frames of its
own capture. -/
theorem publications_tagged (prototypes : AList fun _ : String => α) (port : π) (b : Boot)
    (cursor : θ → UInt32) {es : List (Event α π θ)}
    (htimely : Along World.step Timely (booted prototypes port b cursor) es) {cid : UInt64}
    {pub : CapturePublication}
    (hpub : (run World.step (booted prototypes port b cursor) es).hub.store.publications.lookup cid =
      some pub) : ∀ fb ∈ pub.contents, fb.trigger = cid := by
  have hstart := Service.boot_unused prototypes port b
  have htagged : ((fresh prototypes port).boot b).Tagged := by
    refine ⟨fun hw => ?_, fun cid pub hpub => ?_⟩
    · exact absurd (hstart.awaiting.symm.trans hw) Bool.false_ne_true
    · rw [hstart.store] at hpub
      cases hpub
  have hend := run_invariant_along (I := fun w : World α π θ => w.hub.Sound ∧ w.hub.Tagged)
    (fun w e he h => step_tagged he h) htimely ⟨hstart.sound, htagged⟩
  intro fb hfb
  obtain ⟨e, he, rfl⟩ := pub.mem_contents hfb
  exact hend.2.stored cid pub hpub e he

/-- A one-byte frame exposed by the capture `trigger`. -/
def frameOf (trigger : UInt64) : FrameBuffer :=
  { bytes := [1], width := 1, height := 1, trigger }

/-- Capture 1 and its frame. -/
def oneCapture : List (Event ReadyCamera EchoPort Bool) :=
  captureEvents { sessionId := "cam-1", async := true, clientCaptureId := 1 } ++
    [.cameraFrame true "cam-1" (frameOf 1)]

theorem publications_tagged_oneCapture :
    Along World.step Timely (bench oneCamera) oneCapture ∧
    ∃ pub, (run World.step (bench oneCamera) oneCapture).hub.store.publications.lookup 1 = some pub ∧
      ∀ fb ∈ pub.contents, fb.trigger = 1 := by
  have htimely : Along World.step Timely (bench oneCamera) oneCapture := by decide +kernel
  have hsome : ((run World.step (bench oneCamera) oneCapture).hub.store.publications.lookup 1).isSome =
      true := by
    decide +kernel
  obtain ⟨pub, hpub⟩ := Option.isSome_iff_exists.mp hsome
  exact ⟨htimely, pub, hpub, publications_tagged _ _ _ _ htimely hpub⟩

/-- Every frame was exposed by a capture that has been answered. -/
def Caused (w : World α π θ) : Event α π θ → Prop
  | .cameraFrame _ _ fb => ∃ r ∈ w.replies, r.2 = .capture ⟨⟨0, ""⟩, fb.trigger, fb.trigger⟩
  | _ => True

instance (w : World α π θ) : ∀ e, Decidable (w.Caused e)
  | .cameraFrame _ _ _ => inferInstanceAs (Decidable (∃ r ∈ w.replies, _))
  | .call _ _ | .step _ | .portChanged _ | .cameraChanged _ _ | .tick => isTrue trivial

/-- The session is released and resumed before the frame of capture 1 comes in, which then
completes capture 2. -/
def lateFrame : List (Event ReadyCamera EchoPort Bool) :=
  captureEvents { sessionId := "cam-1", async := true, clientCaptureId := 1 } ++
    [.call 0 (.disconnect "cam-1"), .step 0] ++
    [.call 0 .connect, .step 0, .step 0, .step 0] ++
    captureEvents { sessionId := "cam-1", async := true, clientCaptureId := 2 } ++
    [.cameraFrame true "cam-1" (frameOf 1)]

theorem late_frame_mislabelled :
    ¬ ∀ es, Along World.step Caused (bench oneCamera) es → ∀ cid pub,
      (run World.step (bench oneCamera) es).hub.store.publications.lookup cid = some pub →
      ∀ fb ∈ pub.contents, fb.trigger = cid := by
  intro hall
  have hcaused : Along World.step Caused (bench oneCamera) lateFrame := by decide +kernel
  have hpub : ((run World.step (bench oneCamera) lateFrame).hub.store.publications.lookup 2).map
      (fun pub => pub.contents.map FrameBuffer.trigger) = some [1] := by
    decide +kernel
  obtain ⟨pub, hlook, htriggers⟩ := Option.map_eq_some_iff.mp hpub
  obtain ⟨fb, hfb, htrigger⟩ := List.mem_map.mp (htriggers ▸ List.mem_singleton.mpr rfl :
    (1 : UInt64) ∈ pub.contents.map FrameBuffer.trigger)
  have h := hall lateFrame hcaused 2 pub hlook fb hfb
  rw [htrigger] at h
  cases h

end World
end Camera3D.Hub
