import Camera3D.Hub.Collecting
import Camera3D.Hub.Tags
import Camera3D.Hub.Waiters

/-! What the reply to a `Capture` says of the capture that it started. A synchronous call only asks
whether its id is in the store, so it can take an older publication, or a later one, for its own. -/
namespace Camera3D.Hub
open Camera Serial Ipc Transition HubServiceStateCode PublicationStore

namespace State

/-- The frames of the capture in flight can be published: none is empty or larger than a slot, and no
slot's number comes round to 0. -/
structure Writable (s : State) : Prop where
  frames : ∀ l ∈ s.listed, ¬ Unwritable s.shm.capacity l.frame
  seq : ∀ i : UInt32, i.toNat < 64 → (s.shm.cell i).seq.toNat + s.writeCount < 2 ^ 64

/-- The frame that completes bursts which can be written publishes them. -/
theorem Sound.published_of_writable {s : State} (h : s.Sound) (hw : s.awaitingFrame = true)
    {mid : String} (hm : mid ∈ s.sessionDevicesOrdered) {fb : FrameBuffer}
    (hc : (s.pushFrame mid fb).burstsComplete = true) (hwr : (s.pushFrame mid fb).Writable)
    (sNext : UInt32) : ∃ w out, (s.pushFrame mid fb).Publishes sNext w out ∧
      s.onCameraFrame sNext mid fb = ((s.pushFrame mid fb).published w.shm out, w.sNext) := by
  have he := h.of_awaiting hw
  have hlen : s.sessionSlotLayout.length = s.sessionDevicesOrdered.length := by
    rw [he.layout, he.devices, length_slotLayout, presetIds, List.length_map]
  have hall := (burstsComplete_iff (s := s.pushFrame mid fb) h.frames_pos).mp hc
  have hseq : ∀ ps s', RingWriter.Writes ⟨s.shm, sNext⟩ ps s' →
      ps.length ≤ (s.pushFrame mid fb).writeCount → ∀ p ∈ ps, p.seq ≠ 0 := by
    intro ps s' hps hle p hp
    apply hps.seq_ne_zero _ hp
    intro i hi
    exact Nat.lt_of_le_of_lt (Nat.add_le_add_left hle _) (hwr.seq i hi)
  obtain ⟨w, out, hp, hout⟩ := completeCapture_ok (s := s.pushFrame mid fb) (h.ring he.presets)
    (List.ne_nil_of_mem hm) (h.nodup he) hlen h.frames_pos hall hwr.frames hseq
  refine ⟨w, out, hp, ?_⟩
  rcases s.onCameraFrame_cases sNext mid fb with ⟨_, hdrop⟩ | ⟨_, _, ⟨hc', _⟩ | ⟨_, heq⟩⟩
  · cases hdrop with
    | inl hidle => exact absurd (hidle.symm.trans hw) Bool.false_ne_true
    | inr hnot => exact absurd hm hnot
  · exact absurd (hc'.symm.trans hc) Bool.false_ne_true
  · rw [heq, hout]

/-- A move leaves the store as it is, or the session is released. -/
theorem Move.store {s s' : State} {r : Option CaptureRequest} (hm : s.Move r s') :
    s'.store = s.store ∨ s'.store = {} ∧ s'.awaitingFrame = false := by
  cases hm with
  | released hs => exact .inr ⟨rfl, rfl⟩
  | same | runtime | resumed | counted | armed | notSent | timedOut | errorTaken => exact .inl rfl

/-- A capture in flight goes on as it was, or comes to its end. -/
theorem Move.inFlight {s s' : State} {r : Option CaptureRequest} (hm : s.Move r s')
    (hw : s.awaitingFrame = true) : s'.awaitingFrame = false ∨
      s'.awaitingFrame = true ∧ s'.awaitingClientCaptureId = s.awaitingClientCaptureId ∧
        s'.pendingCameraBursts = s.pendingCameraBursts := by
  cases hm with
  | same | runtime | resumed | counted | errorTaken => exact .inr ⟨hw, rfl, rfl⟩
  | released hs => exact .inl rfl
  | timedOut h => exact .inl rfl
  | notSent request hadm => exact .inl rfl
  | armed request hadm => exact absurd (hadm.idle.symm.trans hw) Bool.false_ne_true

/-- What is in flight after a move was in flight before, or has just been admitted. -/
theorem Move.awaiting_cases {s s' : State} {r : Option CaptureRequest} (hm : s.Move r s')
    (hw : s'.awaitingFrame = true) :
    s.awaitingFrame = true ∧ s'.awaitingClientCaptureId = s.awaitingClientCaptureId ∨
      ∃ request, r = some request ∧ s.Admits request ∧
        s'.awaitingClientCaptureId = (s.chooseId request).1 := by
  cases hm with
  | same | runtime | resumed | counted | errorTaken => exact .inl ⟨hw, rfl⟩
  | armed request hadm => exact .inr ⟨request, rfl, hadm, rfl⟩
  | released hs => cases hw
  | timedOut h => cases hw
  | notSent request hadm => cases hw

end State

namespace World
variable {α π θ : Type*} [ICameraAdapter α] [ISerialPort π] [DecidableEq θ]

omit [DecidableEq θ] in
/-- Of the calls only a `Disconnect` and a wait that is over end a capture in flight. -/
theorem hubAfter_ends {w : World α π θ} {id : ℕ} {task : Task} (htask : w.tasks id = some task)
    (hw : w.hub.awaitingFrame = true) : (w.hubAfter task).awaitingFrame = true ∨
      (w.hubAfter task).store = {} ∨
      (w.hubAfter task).store = w.hub.store ∧ ∃ wt, w.TimesOut id wt := by
  cases task with
  | recovering pc rpc =>
    left
    obtain ⟨rt, serial, he⟩ := w.hub.tryRecoverSerialQuick_frame pc
    show (w.hub.tryRecoverSerialQuick pc).1.awaitingFrame = true
    rw [he]
    exact hw
  | waiting wt =>
    dsimp only [hubAfter]
    rcases w.hub.captureWakeUp_cases wt w.clock with ⟨he, _⟩ | ⟨_, hlate, he⟩ | ⟨hidle, _⟩ | ⟨hidle, _⟩
    · rw [he]
      exact .inl hw
    · rw [he]
      exact .inr (.inr ⟨rfl, wt, htask, hw, hlate⟩)
    · exact absurd (hidle.symm.trans hw) Bool.false_ne_true
    · exact absurd (hidle.symm.trans hw) Bool.false_ne_true
  | body rpc =>
    cases rpc with
    | getDepth request => exact .inl hw
    | serialWatchTick => exact .inl hw
    | connect =>
      left
      show w.hub.connect.1.awaitingFrame = true
      rcases w.hub.connect_toState with he | ⟨rt, he⟩
      · rw [he, hw]
      · rw [he]
        exact hw
    | disconnect sessionId =>
      dsimp only [hubAfter]
      rcases w.hub.disconnect_toState sessionId with he | he
      · rw [he]
        exact .inl hw
      · rw [he]
        exact .inr (.inl rfl)
    | capture request =>
      left
      show (w.hub.capture request w.clock).1.awaitingFrame = true
      rcases w.hub.capture_cases request w.clock with ⟨he | ⟨_, _, he⟩, _⟩ | ⟨hadm, _⟩
      · rw [he, hw]
      · rw [he]
        exact hw
      · exact absurd (hadm.idle.symm.trans hw) Bool.false_ne_true

/-- A capture in flight ends by a callback, by the release of the session, or by a timeout. -/
theorem step_ends {w : World α π θ} {e : Event α π θ} (hw : w.hub.awaitingFrame = true) :
    (w.step e).hub.awaitingFrame = true ∨ (∃ f : Callback θ, e = f.event) ∨
      (w.step e).hub.store = {} ∨
      (w.step e).hub.store = w.hub.store ∧ ∃ id wt, e = .step id ∧ w.TimesOut id wt := by
  cases e with
  | cameraFrame thread mid fb => exact .inr (.inl ⟨⟨thread, mid, fb⟩, rfl⟩)
  | portChanged port => exact .inl hw
  | cameraChanged mid adapter => exact .inl hw
  | tick => exact .inl hw
  | call id rpc =>
    left
    dsimp only [step]
    cases w.tasks id with
    | none => exact hw
    | some task => exact hw
  | step id =>
    rcases w.step_eq id with ⟨_, he⟩ | ⟨task, htask, he⟩
    · rw [he]
      exact .inl hw
    · rw [he]
      rcases hubAfter_ends htask hw with hgo | hgone | ⟨hstore, wt, hlate⟩
      · exact .inl hgo
      · exact .inr (.inr (.inl hgone))
      · exact .inr (.inr (.inr ⟨hstore, id, wt, rfl, hlate⟩))

/-- The capture in flight in `w` is in flight all along the events. -/
def StaysInFlight (w : World α π θ) (es : List (Event α π θ)) : Prop :=
  ∀ es', es' <+: es → (run World.step w es').hub.awaitingFrame = true

/-- The call of the task `id` waits all along the events. -/
def Waits (w : World α π θ) (id : ℕ) (wt : Waiter) (es : List (Event α π θ)) : Prop :=
  ∀ es', es' <+: es → (run World.step w es').tasks id = some (.waiting wt)

/-- The callback `f`, after the events `es₁`, completes the capture that is in flight in `w`: it stores
`pub`, a publication of frames that came in since, and along `es₂` the store holds it. -/
structure Stores (w : World α π θ) (es₁ : List (Event α π θ)) (f : Callback θ)
    (es₂ : List (Event α π θ)) (pub : CapturePublication) : Prop where
  inFlight : w.StaysInFlight es₁
  completed : (run World.step w (es₁ ++ [f.event])).hub.awaitingFrame = false
  remembered : (run World.step w (es₁ ++ [f.event])).hub.store =
    (run World.step w es₁).hub.store.rememberPublicationLocked w.hub.awaitingClientCaptureId pub
  frames : ∀ fb ∈ pub.contents, ∃ g : Callback θ, g.fb = fb ∧ g.event ∈ es₁ ++ [f.event]
  held : ∀ es', es' <+: es₂ → (run World.step w (es₁ ++ f.event :: es')).hub.store.publications.lookup
    w.hub.awaitingClientCaptureId = some { pub with clientCaptureId := w.hub.awaitingClientCaptureId }

/-- The store holds a publication of the capture that was in flight in `w`. -/
def Holds (w : World α π θ) (es : List (Event α π θ)) : Prop :=
  ∃ es₁ f es₂ pub, es = es₁ ++ f.event :: es₂ ∧ w.Stores es₁ f es₂ pub

section Prefixes
variable {w : World α π θ} {es : List (Event α π θ)} {e : Event α π θ}

theorem StaysInFlight.concat (h : w.StaysInFlight es)
    (hw : (run World.step w (es ++ [e])).hub.awaitingFrame = true) : w.StaysInFlight (es ++ [e]) := by
  intro es' hpre
  rcases List.prefix_concat_iff.mp hpre with rfl | hpre
  · exact hw
  · exact h es' hpre

theorem StaysInFlight.of_concat (h : w.StaysInFlight (es ++ [e])) : w.StaysInFlight es :=
  fun es' hpre => h es' (hpre.trans (List.prefix_append es [e]))

theorem Waits.of_concat {id : ℕ} {wt : Waiter} (h : w.Waits id wt (es ++ [e])) : w.Waits id wt es :=
  fun es' hpre => h es' (hpre.trans (List.prefix_append es [e]))

/-- What the store held and still holds under the same id. -/
theorem Holds.concat (h : w.Holds es)
    (hkept : ∀ pub, (run World.step w es).hub.store.publications.lookup
        w.hub.awaitingClientCaptureId = some pub →
      (run World.step w (es ++ [e])).hub.store.publications.lookup
        w.hub.awaitingClientCaptureId = some pub) : w.Holds (es ++ [e]) := by
  obtain ⟨es₁, f, es₂, pub, rfl, hst⟩ := h
  refine ⟨es₁, f, es₂ ++ [e], pub, by rw [List.append_assoc, List.cons_append], ?_⟩
  refine ⟨hst.inFlight, hst.completed, hst.remembered, hst.frames, ?_⟩
  intro es' hpre
  rcases List.prefix_concat_iff.mp hpre with rfl | hpre
  · rw [← List.cons_append, ← List.append_assoc]
    exact hkept _ (hst.held es₂ List.prefix_rfl)
  · exact hst.held es' hpre

/-- A publication that the store holds is still there at the end. -/
theorem Holds.mem (h : w.Holds es) :
    w.hub.awaitingClientCaptureId ∈ (run World.step w es).hub.store.publications := by
  obtain ⟨es₁, f, es₂, pub, rfl, hst⟩ := h
  exact AList.lookup_isSome.mp (by rw [hst.held es₂ List.prefix_rfl]; rfl)

/-- A capture that is still in flight has stored nothing. -/
theorem StaysInFlight.not_holds (h : w.StaysInFlight es) : ¬ w.Holds es := by
  rintro ⟨es₁, f, es₂, pub, rfl, hst⟩
  have hpre : es₁ ++ [f.event] <+: es₁ ++ f.event :: es₂ :=
    ⟨es₂, by rw [List.append_assoc, List.singleton_append]⟩
  exact Bool.false_ne_true (hst.completed.symm.trans (h _ hpre))

end Prefixes

/-- A capture is only admitted under an id that no synchronous call is waiting for. -/
def Fresh (w : World α π θ) (e : Event α π θ) : Prop :=
  ∀ request, w.request e = some request → w.hub.Admits request →
    ∀ id wt, w.tasks id = some (.waiting wt) → wt.cid ≠ (w.hub.chooseId request).1

/-- The capture that was in flight in `w`, after the events: it still collects frames, or it is over
and its id does not come up again. -/
inductive Fate (w : World α π θ) (es : List (Event α π θ)) : Prop
  | inFlight (stays : w.StaysInFlight es)
    (cid : (run World.step w es).hub.awaitingClientCaptureId = w.hub.awaitingClientCaptureId)
    (frames : ∀ id, ∀ fb ∈ (run World.step w es).hub.received id,
      ∃ g : Callback θ, g.fb = fb ∧ g.event ∈ es)
  | done (ended : ¬ w.StaysInFlight es)
    (other : (run World.step w es).hub.awaitingFrame = true →
      (run World.step w es).hub.awaitingClientCaptureId ≠ w.hub.awaitingClientCaptureId)

section Fate
variable {w : World α π θ} {es : List (Event α π θ)} {e : Event α π θ}

/-- What one step makes of the frames received for a capture that stays in flight. -/
theorem step_inFlight {w : World α π θ} (hsound : w.hub.Sound) (e : Event α π θ)
    (hw : w.hub.awaitingFrame = true) (hw' : (w.step e).hub.awaitingFrame = true) :
    (w.step e).hub.awaitingClientCaptureId = w.hub.awaitingClientCaptureId ∧
      ∀ id, ∀ fb ∈ (w.step e).hub.received id,
        fb ∈ w.hub.received id ∨ ∃ g : Callback θ, g.fb = fb ∧ g.event = e := by
  rcases w.step_move e with ⟨thread, mid, fb, rfl⟩ | hm
  · have hd := hsound.delivers (w.cursor thread) mid fb
    refine ⟨(hd.awaiting hw').2, fun id fb' hfb' => ?_⟩
    replace hw' : (w.hub.onCameraFrame (w.cursor thread) mid fb).1.awaitingFrame = true := hw'
    replace hfb' : fb' ∈ (w.hub.onCameraFrame (w.cursor thread) mid fb).1.received id := hfb'
    generalize w.hub.onCameraFrame (w.cursor thread) mid fb = r at hd hw' hfb'
    cases hd with
    | dropped hdrop => exact .inl hfb'
    | kept hw hm hc =>
      rcases State.mem_received_pushFrame hfb' with hold | ⟨_, rfl⟩
      · exact .inl hold
      · exact .inr ⟨⟨thread, mid, fb'⟩, rfl, rfl⟩
    | published hw hm hc hp => cases hw'
    | unpublished hw hm hc hps hshm hle err => cases hw'
  · rcases hm.inFlight hw with hidle | ⟨_, hcid, hpending⟩
    · exact absurd (hidle.symm.trans hw') Bool.false_ne_true
    · refine ⟨hcid, fun id fb hfb => .inl ?_⟩
      rw [State.received, hpending] at hfb
      exact hfb

/-- What is in flight after a step was in flight before, or its id is one that nobody waits for. -/
theorem step_awaiting {w : World α π θ} (hsound : w.hub.Sound) {e : Event α π θ} (hfresh : w.Fresh e)
    {id : ℕ} {wt : Waiter} (hwait : w.tasks id = some (.waiting wt))
    (hw' : (w.step e).hub.awaitingFrame = true)
    (hcid : (w.step e).hub.awaitingClientCaptureId = wt.cid) :
    w.hub.awaitingFrame = true ∧ w.hub.awaitingClientCaptureId = wt.cid := by
  rcases w.step_move e with ⟨thread, mid, fb, rfl⟩ | hm
  · obtain ⟨hw, hsame⟩ := (hsound.delivers (w.cursor thread) mid fb).awaiting hw'
    exact ⟨hw, hsame.symm.trans hcid⟩
  · rcases hm.awaiting_cases hw' with ⟨hw, hsame⟩ | ⟨request, hr, hadm, hnew⟩
    · exact ⟨hw, hsame.symm.trans hcid⟩
    · exact absurd (hcid.symm.trans hnew) (hfresh request hr hadm id wt hwait)

theorem Fate.concat (h : w.Fate es) (hsound : (run World.step w es).hub.Sound) {id : ℕ} {wt : Waiter}
    (hwait : (run World.step w es).tasks id = some (.waiting wt))
    (hcid : wt.cid = w.hub.awaitingClientCaptureId) (hfresh : (run World.step w es).Fresh e) :
    w.Fate (es ++ [e]) := by
  have hrun := run_concat World.step w es e
  cases h with
  | inFlight stays hid hframes =>
    have hw := stays es List.prefix_rfl
    by_cases hw' : ((run World.step w es).step e).hub.awaitingFrame = true
    · obtain ⟨hid', hframes'⟩ := step_inFlight hsound e hw hw'
      refine .inFlight (stays.concat (hrun ▸ hw')) ?_ ?_
      · rw [hrun, hid', hid]
      · intro id' fb hfb
        rw [hrun] at hfb
        rcases hframes' id' fb hfb with hold | ⟨g, hg, hge⟩
        · obtain ⟨g, hg, hmem⟩ := hframes id' fb hold
          exact ⟨g, hg, List.mem_append_left _ hmem⟩
        · exact ⟨g, hg, List.mem_append_right _ (List.mem_singleton.mpr hge)⟩
    · refine .done (fun hstays => ?_) (fun hgo => ?_)
      · exact hw' (hrun ▸ hstays _ List.prefix_rfl)
      · exact absurd (hrun ▸ hgo) hw'
  | done ended other =>
    refine .done (fun hstays => ended hstays.of_concat) (fun hgo heq => ?_)
    rw [hrun] at hgo heq
    obtain ⟨hw, hsame⟩ := step_awaiting hsound hfresh hwait hgo (heq.trans hcid.symm)
    exact other hw (hsame.trans hcid)

end Fate

/-- The call of the task `id` waits for the capture in flight, while an older publication stands in the
store under its id. -/
def Shadowed (w : World α π θ) (id : ℕ) : Prop :=
  w.hub.awaitingFrame = true ∧
    (∃ wt, w.tasks id = some (.waiting wt) ∧ wt.cid = w.hub.awaitingClientCaptureId) ∧
    w.hub.awaitingClientCaptureId ∈ w.hub.store.publications

/-- A step that leaves no call with an older publication in the place of its own: no id is admitted
that is waited for, and a capture whose id is taken is neither cut short nor impossible to write. -/
structure Unmistakable (w : World α π θ) (e : Event α π θ) : Prop where
  fresh : w.Fresh e
  written : ∀ f : Callback θ, e = f.event → ∀ id, w.Shadowed id →
    f.managerDeviceId ∈ w.hub.sessionDevicesOrdered →
    (w.hub.pushFrame f.managerDeviceId f.fb).burstsComplete = true →
    (w.hub.pushFrame f.managerDeviceId f.fb).Writable
  timeout : ∀ id wt, e = .step id → w.TimesOut id wt → ∀ id', w.Shadowed id' → id' = id

theorem TimesOut.done {w : World α π θ} {id : ℕ} {wt : Waiter} (h : w.TimesOut id wt) :
    (w.step (.step id)).tasks id = none := by
  rcases w.hub.captureWakeUp_cases wt w.clock with ⟨_, _, hlt⟩ | ⟨_, _, he⟩ | ⟨hidle, _⟩ | ⟨hidle, _⟩
  · exact absurd h.late (Nat.not_le.mpr hlt)
  · rw [step_of_task h.task, after_tasks_self]
    dsimp only [taskAfter]
    rw [he]
  · exact absurd (hidle.symm.trans h.awaiting) Bool.false_ne_true
  · exact absurd (hidle.symm.trans h.awaiting) Bool.false_ne_true

section Stored
variable {w : World α π θ} {es : List (Event α π θ)} {e : Event α π θ}

/-- The callback that completes the capture which was in flight in `w` stores its publication. -/
theorem holds_of_published (hstays : w.StaysInFlight es)
    (hcid : (run World.step w es).hub.awaitingClientCaptureId = w.hub.awaitingClientCaptureId)
    (hframes : ∀ id, ∀ fb ∈ (run World.step w es).hub.received id,
      ∃ g : Callback θ, g.fb = fb ∧ g.event ∈ es) (f : Callback θ) {s : RingWriter}
    {out : CapturePublication}
    (hp : ((run World.step w es).hub.pushFrame f.managerDeviceId f.fb).Publishes
      ((run World.step w es).cursor f.thread) s out)
    (hstate : ((run World.step w es).step f.event).hub.toState =
      ((run World.step w es).hub.pushFrame f.managerDeviceId f.fb).published s.shm out)
    {pub : CapturePublication}
    (hlook : ((run World.step w es).step f.event).hub.store.publications.lookup
      w.hub.awaitingClientCaptureId = some pub) : w.Holds (es ++ [f.event]) := by
  have hrun := run_concat World.step w es f.event
  have hstore : ((run World.step w es).step f.event).hub.store =
      (run World.step w es).hub.store.rememberPublicationLocked w.hub.awaitingClientCaptureId out := by
    rw [hstate, ← hcid]
    rfl
  refine ⟨es, f, [], out, rfl, hstays, ?_, ?_, ?_, ?_⟩
  · rw [hrun, hstate]
    rfl
  · rw [hrun, hstore]
  · intro fb hfb
    obtain ⟨entry, hentry, rfl⟩ := out.mem_contents hfb
    have hmem : entry.frame ∈
        (((run World.step w es).hub.pushFrame f.managerDeviceId f.fb).listed).map Listed.frame := by
      rw [← hp.covers.frames_eq]
      exact List.mem_map_of_mem hentry
    obtain ⟨l, hl, heq⟩ := List.mem_map.mp hmem
    obtain ⟨id, _, hrec⟩ := State.mem_listed hl
    rw [heq] at hrec
    rcases State.mem_received_pushFrame hrec with hold | ⟨_, hnew⟩
    · obtain ⟨g, hg, hin⟩ := hframes id _ hold
      exact ⟨g, hg, List.mem_append_left _ hin⟩
    · exact ⟨f, hnew.symm, List.mem_append_right _ (List.mem_singleton.mpr rfl)⟩
  · intro es' hpre
    obtain rfl := List.prefix_nil.mp hpre
    rw [hrun, hlook]
    rw [hstore] at hlook
    rcases lookup_remember hlook with ⟨_, rfl⟩ | ⟨hne, _⟩
    · rfl
    · exact absurd rfl hne

/-- The callback that ends a capture whose id stands in the store afterwards has published it. -/
theorem holds_of_callback (hsound : (run World.step w es).hub.Sound) (hstays : w.StaysInFlight es)
    (hcid : (run World.step w es).hub.awaitingClientCaptureId = w.hub.awaitingClientCaptureId)
    (hframes : ∀ id, ∀ fb ∈ (run World.step w es).hub.received id,
      ∃ g : Callback θ, g.fb = fb ∧ g.event ∈ es) (f : Callback θ)
    (hidle : ((run World.step w es).step f.event).hub.awaitingFrame ≠ true)
    (hwritten : w.hub.awaitingClientCaptureId ∈ (run World.step w es).hub.store.publications →
      f.managerDeviceId ∈ (run World.step w es).hub.sessionDevicesOrdered →
      ((run World.step w es).hub.pushFrame f.managerDeviceId f.fb).burstsComplete = true →
      ((run World.step w es).hub.pushFrame f.managerDeviceId f.fb).Writable)
    {pub : CapturePublication}
    (hlook : ((run World.step w es).step f.event).hub.store.publications.lookup
      w.hub.awaitingClientCaptureId = some pub) : w.Holds (es ++ [f.event]) := by
  have hw := hstays es List.prefix_rfl
  have hd := hsound.delivers ((run World.step w es).cursor f.thread) f.managerDeviceId f.fb
  have hstate : ((run World.step w es).step f.event).hub.toState = ((run World.step w es).hub.onCameraFrame
    ((run World.step w es).cursor f.thread) f.managerDeviceId f.fb).1 := rfl
  generalize hr : (run World.step w es).hub.onCameraFrame
    ((run World.step w es).cursor f.thread) f.managerDeviceId f.fb = r at hd hstate
  cases hd with
  | dropped hdrop => exact absurd (hstate ▸ hw) hidle
  | kept hw' hm hc' => exact absurd (hstate ▸ hw) hidle
  | published hw' hm hc' hp => exact holds_of_published hstays hcid hframes f hp hstate hlook
  | unpublished hw' hm hc' hps hshm hle err =>
    -- The id stands in the store already, so these frames can be written after all.
    have hin : w.hub.awaitingClientCaptureId ∈ (run World.step w es).hub.store.publications := by
      rw [hstate] at hlook
      exact AList.lookup_isSome.mp (Option.isSome_iff_exists.mpr ⟨pub, hlook⟩)
    obtain ⟨s, out, hp, hout⟩ := hsound.published_of_writable hw hm hc' (hwritten hin hm hc')
      ((run World.step w es).cursor f.thread)
    rw [hr] at hout
    exact holds_of_published hstays hcid hframes f hp (hstate.trans (congrArg Prod.fst hout)) hlook

omit es in
/-- A step only stores under the id in flight. -/
theorem lookup_of_step (hsound : w.hub.Sound) {cid : UInt64}
    (hother : w.hub.awaitingFrame = true → w.hub.awaitingClientCaptureId ≠ cid)
    {pub : CapturePublication} (hlook : (w.step e).hub.store.publications.lookup cid = some pub) :
    w.hub.store.publications.lookup cid = some pub := by
  rcases w.step_move e with ⟨thread, mid, fb, rfl⟩ | hm
  · have hd := hsound.delivers (w.cursor thread) mid fb
    replace hlook : (w.hub.onCameraFrame (w.cursor thread) mid fb).1.store.publications.lookup cid =
      some pub := hlook
    generalize w.hub.onCameraFrame (w.cursor thread) mid fb = r at hd hlook
    cases hd with
    | dropped hdrop => exact hlook
    | kept hw hm hc => exact hlook
    | unpublished hw hm hc hps hshm hle err => exact hlook
    | published hw hm hc hp =>
      rcases lookup_remember hlook with ⟨heq, _⟩ | ⟨_, hbefore⟩
      · exact absurd heq.symm (hother hw)
      · exact hbefore
  · rcases hm.store with hsame | ⟨hgone, _⟩
    · rw [hsame] at hlook
      exact hlook
    · rw [hgone] at hlook
      cases hlook

/-- If the store holds an id that is waited for once its capture is over, it holds it from there. -/
theorem Fate.holds_concat (h : w.Fate es) (hsound : (run World.step w es).hub.Sound) {id : ℕ}
    {wt : Waiter} (hwait : (run World.step w es).tasks id = some (.waiting wt))
    (hnext : (run World.step w (es ++ [e])).tasks id = some (.waiting wt))
    (hcid : wt.cid = w.hub.awaitingClientCaptureId) (hc : (run World.step w es).Unmistakable e)
    (hold : ¬ w.StaysInFlight es → w.hub.awaitingClientCaptureId ∈
      (run World.step w es).hub.store.publications → w.Holds es)
    (hended : ¬ w.StaysInFlight (es ++ [e])) (hmem : w.hub.awaitingClientCaptureId ∈
      (run World.step w (es ++ [e])).hub.store.publications) : w.Holds (es ++ [e]) := by
  have hrun := run_concat World.step w es e
  rw [hrun] at hmem hnext
  obtain ⟨pub, hlook⟩ := Option.isSome_iff_exists.mp (AList.lookup_isSome.mpr hmem)
  cases h with
  | inFlight stays hid hframes =>
    have hw := stays es List.prefix_rfl
    have hidle : ((run World.step w es).step e).hub.awaitingFrame ≠ true := fun hgo =>
      hended (stays.concat (hrun ▸ hgo))
    have hshadow : w.hub.awaitingClientCaptureId ∈ (run World.step w es).hub.store.publications →
        (run World.step w es).Shadowed id :=
      fun hin => ⟨hw, ⟨wt, hwait, hcid.trans hid.symm⟩, hid ▸ hin⟩
    rcases step_ends (e := e) hw with hgo | ⟨f, rfl⟩ | hgone | ⟨hsame, id', wt', rfl, hlate⟩
    · exact absurd hgo hidle
    · exact holds_of_callback hsound stays hid hframes f hidle
        (fun hin => hc.written f rfl id (hshadow hin)) hlook
    · rw [hgone] at hmem
      exact absurd hmem (AList.notMem_empty _)
    · rw [hsame] at hmem
      obtain rfl := hc.timeout id' wt' rfl hlate id (hshadow hmem)
      rw [hlate.done] at hnext
      cases hnext
  | done ended other =>
    have hbefore := lookup_of_step hsound other hlook
    refine (hold ended (AList.lookup_isSome.mp (by rw [hbefore]; rfl))).concat fun pub' hpub' => ?_
    rw [hbefore] at hpub'
    rw [hrun, hlook, hpub']

end Stored

/-- The `Capture` that the task `id` runs in `w` replies `r`, at once or after it has waited; the events
are those between its locked body and its return. -/
inductive Returns (w : World α π θ) (id : ℕ) (request : CaptureRequest) :
    List (Event α π θ) → CaptureReply → Prop
  | atOnce {r : CaptureReply} (task : w.tasks id = some (.body (.capture request)))
    (reply : (w.hub.capture request w.clock).2 = .reply r) : Returns w id request [] r
  | waited {es : List (Event α π θ)} {wt : Waiter} {r : CaptureReply}
    (task : w.tasks id = some (.body (.capture request)))
    (wait : (w.hub.capture request w.clock).2 = .wait wt)
    (waits : (w.step (.step id)).Waits id wt es)
    (reply : ((run World.step (w.step (.step id)) es).hub.captureWakeUp wt
      (run World.step (w.step (.step id)) es).clock).2 = some r) :
    Returns w id request (es ++ [.step id]) r

/-- A call that comes to wait has armed its capture. -/
theorem armed_of_wait {w : World α π θ} {id : ℕ} {request : CaptureRequest}
    (htask : w.tasks id = some (.body (.capture request))) {wt : Waiter}
    (hwait : (w.hub.capture request w.clock).2 = .wait wt) :
    w.hub.Admits request ∧ (w.step (.step id)).hub.toState = w.hub.armed request ∧
      wt.cid = (w.step (.step id)).hub.awaitingClientCaptureId ∧
      wt.testInlineImage = request.testInlineImageReply := by
  rw [step_capture htask, (w.runBody_capture id request).1]
  rcases w.hub.capture_cases request w.clock with ⟨_, r, hr⟩ | ⟨hadm, ⟨he, hnext⟩ | ⟨_, r, hr⟩⟩
  · cases hr.symm.trans hwait
  · rcases afterSend_cases (w.hub.chooseId request).1 request w.clock with ⟨r, hr⟩ | ⟨wt', hwt, hcid, ht⟩
    · cases (hnext.trans hr).symm.trans hwait
    · cases (hnext.trans hwt).symm.trans hwait
      exact ⟨hadm, he, by rw [hcid, he]; rfl, ht⟩
  · cases hr.symm.trans hwait

section Waiting
variable {w : World α π θ} {es : List (Event α π θ)} {id : ℕ} {wt : Waiter}

/-- The fate of the capture in flight in `w`, for which the task `id` waits. -/
theorem fate_of_waits (hsound : w.hub.Sound) (hw : w.hub.awaitingFrame = true)
    (hpending : w.hub.pendingCameraBursts = ∅) (hcid : wt.cid = w.hub.awaitingClientCaptureId)
    (hwaits : w.Waits id wt es) (hfresh : Along World.step Fresh w es) : w.Fate es := by
  induction es using List.reverseRecOn with
  | nil =>
    refine .inFlight (fun es' hpre => ?_) rfl (fun id fb hfb => ?_)
    · rw [List.prefix_nil.mp hpre]
      exact hw
    · change fb ∈ (w.hub.pendingCameraBursts.lookup id).getD [] at hfb
      rw [hpending] at hfb
      cases hfb
  | append_singleton es e ih =>
    obtain ⟨hinit, hlast, _⟩ := (along_append _ _ _ _ _).mp hfresh
    exact (ih hwaits.of_concat hinit).concat (run_sound hsound es)
      (hwaits.of_concat es List.prefix_rfl) hcid hlast

/-- Once the capture is over, a publication under its id is its own. -/
theorem holds_of_waits (hsound : w.hub.Sound) (hw : w.hub.awaitingFrame = true)
    (hpending : w.hub.pendingCameraBursts = ∅) (hcid : wt.cid = w.hub.awaitingClientCaptureId)
    (hwaits : w.Waits id wt es) (hc : Along World.step Unmistakable w es)
    (hended : ¬ w.StaysInFlight es) (hmem : w.hub.awaitingClientCaptureId ∈
      (run World.step w es).hub.store.publications) : w.Holds es := by
  induction es using List.reverseRecOn with
  | nil =>
    refine absurd (fun es' hpre => ?_) hended
    rw [List.prefix_nil.mp hpre]
    exact hw
  | append_singleton es e ih =>
    obtain ⟨hinit, hlast, _⟩ := (along_append _ _ _ _ _).mp hc
    have hfresh : Along World.step Fresh w es := hinit.mono fun _ _ h => h.fresh
    have hfate := fate_of_waits hsound hw hpending hcid hwaits.of_concat hfresh
    exact hfate.holds_concat (run_sound hsound es) (hwaits.of_concat es List.prefix_rfl)
      (hwaits _ List.prefix_rfl) hcid hlast (ih hwaits.of_concat hinit) hended hmem

end Waiting

theorem step_waiting {w : World α π θ} {id : ℕ} {wt : Waiter} (htask : w.tasks id = some (.waiting wt)) :
    (w.step (.step id)).hub.toState = (w.hub.captureWakeUp wt w.clock).1 := by
  rw [step_of_task htask]
  rfl

/-- What a call finds when its wait is over: its time is up, nothing stands under its id, or something
does. -/
theorem captureWakeUp_replies {s : State} {wt : Waiter} {now : ℕ} {r : CaptureReply}
    (hr : (s.captureWakeUp wt now).2 = some r) :
    r.status.code = 14 ∧ s.awaitingFrame = true ∧ wt.deadline ≤ now ∧
        (s.captureWakeUp wt now).1 = s.stopAwaiting ∨
      r.status.code = 17 ∧ s.awaitingFrame = false ∧ wt.cid ∉ s.store.publications ∧
        (s.captureWakeUp wt now).1 = { s with lastCaptureShmError := "" } ∨
      r = captureSucceeded wt.cid wt.testInlineImage ∧ s.awaitingFrame = false ∧
        wt.cid ∈ s.store.publications ∧ (s.captureWakeUp wt now).1 = s := by
  rcases s.captureWakeUp_cases wt now with
    ⟨he, _⟩ | ⟨hw, hlate, he⟩ | ⟨hidle, hnot, detail, he⟩ | ⟨hidle, hin, he⟩
  · rw [he] at hr
    cases hr
  · rw [he] at hr ⊢
    obtain rfl := Option.some.inj hr
    exact .inl ⟨rfl, hw, hlate, rfl⟩
  · rw [he] at hr ⊢
    obtain rfl := Option.some.inj hr
    exact .inr (.inl ⟨rfl, hidle, hnot, rfl⟩)
  · rw [he] at hr ⊢
    obtain rfl := Option.some.inj hr
    exact .inr (.inr ⟨rfl, hidle, hin, rfl⟩)

omit [ICameraAdapter α] in
/-- A synchronous call that returns at once has failed. -/
theorem capture_sync_code {h : Service α π} {request : CaptureRequest} (hsync : request.async = false)
    {now : ℕ} {r : CaptureReply} (hr : (h.capture request now).2 = .reply r) : r.status.code ≠ 0 := by
  unfold Service.capture at hr
  dsimp only at hr
  split_ifs at hr with hready
  · cases hr
    exact hready.2
  · cases hr
    decide
  · cases hr
    decide
  · cases hr
    decide
  · cases hr
    decide
  · rcases Service.sendCapture_cases
      (h.withState { h.toState with kAutoCapture := (h.chooseId request).2 })
      (h.chooseId request).1 request now with ⟨_, hnext⟩ | ⟨_, message, hnext⟩
    · rw [hr, afterSend, hsync] at hnext
      cases hnext
    · rw [hr] at hnext
      cases hnext
      show (13 : Int32) ≠ 0
      decide

/-- A synchronous success is about this capture: what stands under the replied id was stored by the
callback that completed it, from frames that came in since its admission. -/
theorem success_is_own {w : World α π θ} (hw : Reachable w) {id : ℕ} {request : CaptureRequest}
    (hsync : request.async = false) {es : List (Event α π θ)} {r : CaptureReply}
    (hret : w.Returns id request es r) (hok : r.status.code = 0)
    (hc : Along World.step Unmistakable (w.step (.step id)) es) :
    r.jobId = (w.step (.step id)).hub.awaitingClientCaptureId ∧ (w.step (.step id)).Holds es := by
  cases hret with
  | atOnce task reply => exact absurd hok (capture_sync_code hsync reply)
  | @waited es wt r task wait waits reply =>
    obtain ⟨hadm, harmed, hcid, _⟩ := armed_of_wait task wait
    have hsound := step_sound (sound_of_reachable hw) (.step id)
    obtain ⟨hinit, _⟩ := (along_append _ _ _ _ _).mp hc
    have hwait : (w.step (.step id)).hub.awaitingFrame = true := by
      rw [harmed]
      rfl
    have hpending : (w.step (.step id)).hub.pendingCameraBursts = ∅ := by
      rw [harmed]
      rfl
    have hstate := step_waiting (waits es List.prefix_rfl)
    rcases captureWakeUp_replies reply with ⟨h14, _⟩ | ⟨h17, _⟩ | ⟨rfl, hidle, hin, hsame⟩
    · exact absurd (h14.symm.trans hok) (by decide)
    · exact absurd (h17.symm.trans hok) (by decide)
    · have hended : ¬ (w.step (.step id)).StaysInFlight es := fun hstays =>
        Bool.false_ne_true (hidle.symm.trans (hstays es List.prefix_rfl))
      have hholds := holds_of_waits hsound hwait hpending hcid waits hinit hended (hcid ▸ hin)
      refine ⟨?_, hholds.concat fun pub hpub => ?_⟩
      · unfold captureSucceeded at hok ⊢
        split_ifs at hok ⊢
        · exact absurd hok (by decide)
        · exact hcid
      · rw [run_concat, hstate, hsame]
        exact hpub

/-- A waiting call that one callback serves. -/
theorem returns_of_frame {w : World α π θ} {id : ℕ} {request : CaptureRequest}
    (task : w.tasks id = some (.body (.capture request))) (wt : Waiter)
    (wait : (w.hub.capture request w.clock).2 = .wait wt)
    (waits : (w.step (.step id)).tasks id = some (.waiting wt)) {f : Callback θ} {r : CaptureReply}
    (reply : (((w.step (.step id)).step f.event).hub.captureWakeUp wt
      ((w.step (.step id)).step f.event).clock).2 = some r) :
    w.Returns id request ([f.event] ++ [.step id]) r := by
  refine .waited task wait (fun es' hpre => ?_) reply
  have hpre : es' <+: [] ++ [f.event] := hpre
  rcases List.prefix_concat_iff.mp hpre with rfl | hnil
  · have hne : (f.event : Event α π θ) ≠ .step id := by simp [Callback.event]
    exact tasks_of_ne_step (w := w.step (.step id)) hne waits
  · obtain rfl := List.prefix_nil.mp hnil
    exact waits

theorem success_is_own_bench :
    ∃ w, w = run World.step (bench oneCamera) (syncCapture.take 3) ∧
      (1 : UInt64) = (w.step (.step 0)).hub.awaitingClientCaptureId ∧ (w.step (.step 0)).Holds
        [.cameraFrame true "cam-1" { bytes := [1], width := 1, height := 1 }, .step 0] := by
  obtain ⟨w, hw⟩ : ∃ w, w = run World.step (bench oneCamera) (syncCapture.take 3) := ⟨_, rfl⟩
  let f : Callback Bool := ⟨true, "cam-1", { bytes := [1], width := 1, height := 1 }⟩
  have hret : w.Returns 0 { sessionId := "cam-1", clientCaptureId := 1 } ([f.event] ++ [.step 0])
      ⟨⟨0, ""⟩, 1, 1⟩ := by
    subst hw
    exact returns_of_frame (by decide +kernel) ⟨1, 15000, false⟩ (by decide +kernel)
      (by decide +kernel) (by decide +kernel)
  have hempty : 1 ∉ (w.step (.step 0)).hub.store.publications ∧
      (w.step (.step 0)).hub.awaitingClientCaptureId = 1 := by
    subst hw
    decide +kernel
  have hidle : ((w.step (.step 0)).step f.event).hub.awaitingFrame = false := by
    subst hw
    decide +kernel
  have hnone : ((w.step (.step 0)).step f.event).request (.step 0) = none := by
    subst hw
    decide +kernel
  have hc : Along World.step Unmistakable (w.step (.step 0)) ([f.event] ++ [.step 0]) := by
    refine ⟨?frame, ?wakeUp, trivial⟩
    case frame =>
      constructor
      case fresh => exact fun request hr => by cases hr
      case written => exact fun g _ id hs => absurd (hempty.2 ▸ hs.2.2) hempty.1
      case timeout => exact fun id wt he => by cases he
    case wakeUp =>
      constructor
      case fresh => exact fun request hr => by cases hnone.symm.trans hr
      case written => exact fun g he => by cases he
      case timeout =>
        intro id wt _ hlate
        exact absurd (hidle.symm.trans hlate.awaiting) Bool.false_ne_true
  have hreach : Reachable w := by
    rw [hw]
    exact bench_reachable oneCamera _
  exact ⟨w, hw, success_is_own hreach rfl hret rfl hc⟩

/-- Capture 1 comes twice, and the second time its frame is empty. -/
theorem success_is_older : ¬ ∀ (w : World ReadyCamera EchoPort Bool) (id : ℕ)
    (request : CaptureRequest) (es : List (Event ReadyCamera EchoPort Bool)) (r : CaptureReply),
    Reachable w → request.async = false → request.testInlineImageReply = false →
    request.testReconShmLoopback = false → w.Returns id request es r → r.status.code = 0 →
    r.jobId = (w.step (.step id)).hub.awaitingClientCaptureId ∧ (w.step (.step id)).Holds es := by
  intro hall
  obtain ⟨w, hw⟩ : ∃ w, w = run World.step (bench oneCamera) (syncCapture ++ .step 0 ::
    syncCapture.take 3) := ⟨_, rfl⟩
  let f : Callback Bool := ⟨true, "cam-1", { width := 1, height := 1 }⟩
  have hret : w.Returns 0 { sessionId := "cam-1", clientCaptureId := 1 } ([f.event] ++ [.step 0])
      ⟨⟨0, ""⟩, 1, 1⟩ := by
    subst hw
    exact returns_of_frame (by decide +kernel) ⟨1, 15000, false⟩ (by decide +kernel)
      (by decide +kernel) (by decide +kernel)
  have hlru : (w.step (.step 0)).hub.store.finishLru = [1] ∧
      ((w.step (.step 0)).step f.event).hub.store.finishLru = [1] := by
    subst hw
    decide +kernel
  have hreach : Reachable w := by
    rw [hw]
    exact bench_reachable oneCamera _
  obtain ⟨_, es₁, g, es₂, pub, hes, hst⟩ := hall w 0 _ _ _ hreach rfl rfl rfl hret rfl
  cases es₁ with
  | nil =>
    obtain ⟨hg, _⟩ := List.cons_eq_cons.mp hes
    have hstore := hst.remembered
    rw [List.nil_append, ← hg] at hstore
    rcases PublicationStore.remember_cases (s := (w.step (.step 0)).hub.store)
      (by rw [hlru.1]; decide) (w.step (.step 0)).hub.awaitingClientCaptureId pub with ⟨_, he⟩ | ⟨old, rest, hl, hlen, _⟩
    · have h2 := congrArg PublicationStore.finishLru (hstore.trans he)
      rw [hlru.1] at h2
      cases hlru.2.symm.trans h2
    · rw [hlru.1] at hl
      cases hl
      cases hlen
  | cons e es₁ =>
    obtain ⟨_, hes⟩ := List.cons_eq_cons.mp hes
    cases es₁ with
    | nil => cases hes
    | cons e es₁ => simp at hes

end World
end Camera3D.Hub
