import Camera3D.Hub.Outcome

/-! What a `Capture` that fails leaves behind. -/
namespace Camera3D.Hub
open Camera Serial Ipc Transition HubServiceStateCode PublicationStore

namespace World
variable {α π θ : Type*} [ICameraAdapter α] [ISerialPort π] [DecidableEq θ]

/-- A step after which an error still means that nothing was captured: no id is admitted that is
waited for, no admitted request asks for the inline test image, no call whose capture is published
runs out of its time, and no publication is dropped that is waited for. -/
structure Separate (w : World α π θ) (e : Event α π θ) : Prop where
  fresh : w.Fresh e
  plain : ∀ request, w.Accepted e request → request.testInlineImageReply = false
  timeout : ∀ id wt, e = .step id → w.TimesOut id wt →
    wt.cid = w.hub.awaitingClientCaptureId ∨ wt.cid ∉ w.hub.store.publications
  kept : ∀ id wt, w.tasks id = some (.waiting wt) → wt.cid ∈ w.hub.store.publications →
    wt.cid ∈ (w.step e).hub.store.publications

/-- Nothing was captured by the call whose locked body the task `id` runs in `w`, up to its return
after `es`: its capture is not in flight, and the store has held no publication of it. Where the body
was the whole call it left the store alone, and a capture in flight as well. -/
structure LeavesNothing (w : World α π θ) (id : ℕ) (request : CaptureRequest)
    (es : List (Event α π θ)) : Prop where
  stopped : w.Accepted (.step id) request → ¬ (w.step (.step id)).StaysInFlight es
  unstored : w.Accepted (.step id) request → ∀ es', es' <+: es → ¬ (w.step (.step id)).Holds es'
  store : es = [] → (w.step (.step id)).hub.store = w.hub.store
  state : w.hub.awaitingFrame = true → (w.step (.step id)).hub.toState =
    { w.hub.toState with kAutoCapture := (w.step (.step id)).hub.kAutoCapture }

section Prefixes
variable {w : World α π θ} {es : List (Event α π θ)} {e : Event α π θ}

omit es e in
theorem not_holds_nil : ¬ w.Holds [] := by
  rintro ⟨es₁, f, es₂, pub, hes, _⟩
  exact List.cons_ne_nil f.event es₂ (List.append_eq_nil_iff.mp hes.symm).2

/-- What the store holds after a step that is no callback it held before. -/
theorem Holds.of_concat (h : w.Holds (es ++ [e])) (hne : ∀ f : Callback θ, e ≠ f.event) :
    w.Holds es := by
  obtain ⟨es₁, f, es₂, pub, hes, hst⟩ := h
  rcases List.eq_nil_or_concat es₂ with rfl | ⟨es₂, e', heq⟩
  · obtain ⟨_, hlast⟩ := List.append_inj' hes rfl
    exact absurd (List.singleton_inj.mp hlast) (hne f)
  · rw [List.concat_eq_append] at heq
    subst heq
    have happ : es ++ [e] = (es₁ ++ f.event :: es₂) ++ [e'] := by
      rw [hes, List.append_assoc, List.cons_append]
    obtain ⟨rfl, _⟩ := List.append_inj' happ rfl
    refine ⟨es₁, f, es₂, pub, rfl, hst.inFlight, hst.completed, hst.remembered, hst.frames, ?_⟩
    exact fun es' hpre => hst.held es' (hpre.trans (List.prefix_append es₂ [e']))

/-- A publication that is waited for is not dropped. -/
theorem mem_of_holds {id : ℕ} {wt : Waiter} (hcid : wt.cid = w.hub.awaitingClientCaptureId)
    (hwaits : w.Waits id wt es) (hc : Along World.step Separate w es) {es' : List (Event α π θ)}
    (hpre : es' <+: es) (h : w.Holds es') :
    w.hub.awaitingClientCaptureId ∈ (run World.step w es).hub.store.publications := by
  induction es using List.reverseRecOn with
  | nil => exact absurd (List.prefix_nil.mp hpre ▸ h) not_holds_nil
  | append_singleton es e ih =>
    obtain ⟨hinit, hlast, _⟩ := (along_append _ _ _ _ _).mp hc
    rcases List.prefix_concat_iff.mp hpre with rfl | hpre
    · exact h.mem
    · have hin := ih hwaits.of_concat hinit hpre
      rw [run_concat, ← hcid]
      exact hlast.kept id wt (hwaits.of_concat es List.prefix_rfl) (hcid.symm ▸ hin)

end Prefixes

/-- A call that replies an error as soon as its locked body has run. -/
theorem leavesNothing_atOnce {w : World α π θ} {id : ℕ} {request : CaptureRequest} {r : CaptureReply}
    (htask : w.tasks id = some (.body (.capture request)))
    (hreply : (w.hub.capture request w.clock).2 = .reply r) (herr : r.status.code ≠ 0)
    (hplain : w.Accepted (.step id) request → request.testInlineImageReply = false) :
    w.LeavesNothing id request [] := by
  have hstep : (w.step (.step id)).hub = (w.hub.capture request w.clock).1 := by
    rw [step_capture htask, (w.runBody_capture id request).1]
  have hrequest : w.request (.step id) = some request := by
    show (w.tasks id).bind Task.request = some request
    rw [htask]
    rfl
  -- Nothing is stored along no events, so the error has to leave nothing in flight.
  suffices hgoal : (w.step (.step id)).hub.store = w.hub.store ∧
      (w.Accepted (.step id) request → (w.step (.step id)).hub.awaitingFrame = false) ∧
      (w.hub.awaitingFrame = true → (w.step (.step id)).hub.toState =
        { w.hub.toState with kAutoCapture := (w.step (.step id)).hub.kAutoCapture }) by
    refine ⟨fun hacc _ => ?_, fun _ es' hpre => ?_, fun _ => hgoal.1, hgoal.2.2⟩
    · exact Bool.false_ne_true ((hgoal.2.1 hacc).symm.trans hacc.awaiting)
    · rw [List.prefix_nil.mp hpre]
      exact not_holds_nil
  rw [hstep]
  rcases w.hub.capture_cases request w.clock with ⟨he | ⟨_, _, he⟩, _⟩ |
    ⟨hadm, ⟨he, hnext⟩ | ⟨he, _⟩⟩
  · rw [he]
    refine ⟨rfl, fun hacc => hacc.idle, fun _ => rfl⟩
  · rw [he]
    refine ⟨rfl, fun hacc => hacc.idle, fun _ => rfl⟩
  · -- An asynchronous call fails here only for the test image it asks for.
    have hacc : w.Accepted (.step id) request := by
      refine ⟨hrequest, hadm.idle, ?_⟩
      rw [hstep, he]
      rfl
    cases hasync : request.async with
    | false =>
      rw [hreply, afterSend, hasync] at hnext
      cases hnext
    | true =>
      rw [hreply, afterSend, hasync, captureSucceeded, hplain hacc] at hnext
      cases hnext
      exact absurd rfl herr
  · rw [he]
    refine ⟨rfl, fun _ => rfl, fun hw => absurd (hadm.idle.symm.trans hw) Bool.false_ne_true⟩

/-- An error reply to `Capture` means that nothing was captured. -/
theorem failure_leaves_nothing {w : World α π θ} (hw : Reachable w) {id : ℕ}
    {request : CaptureRequest} {es : List (Event α π θ)} {r : CaptureReply}
    (hret : w.Returns id request es r) (herr : r.status.code ≠ 0)
    (hc : Along World.step Separate w (.step id :: es)) : w.LeavesNothing id request es := by
  cases hret with
  | atOnce task reply => exact leavesNothing_atOnce task reply herr (hc.1.plain request)
  | @waited es wt r task wait waits reply =>
    obtain ⟨hadm, harmed, hcid, himage⟩ := armed_of_wait task wait
    obtain ⟨hinit, hlast, _⟩ := (along_append _ _ _ _ _).mp hc.2
    have hsound := step_sound (sound_of_reachable hw) (.step id)
    have hwait : (w.step (.step id)).hub.awaitingFrame = true := by
      rw [harmed]
      rfl
    have hpending : (w.step (.step id)).hub.pendingCameraBursts = ∅ := by
      rw [harmed]
      rfl
    have hacc : w.Accepted (.step id) request := by
      refine ⟨?_, hadm.idle, hwait⟩
      show (w.tasks id).bind Task.request = some request
      rw [task]
      rfl
    have hfate := fate_of_waits hsound hwait hpending hcid waits (hinit.mono fun _ _ h => h.fresh)
    have hstate := step_waiting (waits es List.prefix_rfl)
    -- The wake-up stores nothing, so what counts is what happened before it.
    suffices hgoal : ¬ (w.step (.step id)).StaysInFlight (es ++ [.step id]) ∧
        ∀ es', es' <+: es → ¬ (w.step (.step id)).Holds es' by
      refine ⟨fun _ => hgoal.1, fun _ es' hpre hholds => ?_, fun hnil => ?_, fun hbusy => ?_⟩
      · rcases List.prefix_concat_iff.mp hpre with rfl | hpre
        · exact hgoal.2 es List.prefix_rfl (hholds.of_concat fun f => by simp [Callback.event])
        · exact hgoal.2 es' hpre hholds
      · exact absurd hnil (by simp)
      · exact absurd (hadm.idle.symm.trans hbusy) Bool.false_ne_true
    have hdropped : (w.step (.step id)).hub.awaitingClientCaptureId ∉
        (run World.step (w.step (.step id)) es).hub.store.publications →
        ∀ es', es' <+: es → ¬ (w.step (.step id)).Holds es' :=
      fun hnot es' hpre hholds => hnot (mem_of_holds hcid waits hinit hpre hholds)
    rcases captureWakeUp_replies reply with
      ⟨_, hbusy, hlate, hstop⟩ | ⟨_, hidle, hnot, _⟩ | ⟨rfl, hidle, hin, _⟩
    · refine ⟨fun hstays => ?_, ?_⟩
      · have hend := hstays _ List.prefix_rfl
        rw [run_concat, hstate, hstop] at hend
        cases hend
      · cases hfate with
        | inFlight stays _ _ =>
          exact fun es' hpre => StaysInFlight.not_holds fun es'' h => stays es'' (h.trans hpre)
        | done _ other =>
          have hout : (run World.step (w.step (.step id)) es).TimesOut id wt :=
            ⟨waits es List.prefix_rfl, hbusy, hlate⟩
          rcases hlast.timeout id wt rfl hout with hown | hnot
          · exact absurd (hown.symm.trans hcid) (other hbusy)
          · exact hdropped (hcid ▸ hnot)
    · exact ⟨fun hstays => Bool.false_ne_true (hidle.symm.trans (hstays.of_concat es List.prefix_rfl)),
        hdropped (hcid ▸ hnot)⟩
    · unfold captureSucceeded at herr
      rw [himage, hc.1.plain request hacc] at herr
      exact absurd rfl herr

/-- An empty frame cannot be published. -/
theorem failure_leaves_nothing_bench :
    ∃ w, w = run World.step (bench oneCamera) (syncCapture.take 3) ∧
      w.LeavesNothing 0 { sessionId := "cam-1", clientCaptureId := 1 }
        [.cameraFrame true "cam-1" { width := 1, height := 1 }, .step 0] := by
  obtain ⟨w, hw⟩ : ∃ w, w = run World.step (bench oneCamera) (syncCapture.take 3) := ⟨_, rfl⟩
  let f : Callback Bool := ⟨true, "cam-1", { width := 1, height := 1 }⟩
  have hret : w.Returns 0 { sessionId := "cam-1", clientCaptureId := 1 } ([f.event] ++ [.step 0])
      ⟨⟨17, "shm readback raw failed"⟩, 0, 0⟩ := by
    subst hw
    exact returns_of_frame (by decide +kernel) ⟨1, 15000, false⟩ (by decide +kernel)
      (by decide +kernel) (by decide +kernel)
  have hempty : w.hub.store.publications.keys = [] ∧
      (w.step (.step 0)).hub.store.publications.keys = [] ∧
      ((w.step (.step 0)).step f.event).hub.store.publications.keys = [] := by
    subst hw
    decide +kernel
  have hidle : w.hub.awaitingFrame = false ∧
      ((w.step (.step 0)).step f.event).hub.awaitingFrame = false := by
    subst hw
    decide +kernel
  have hbody : w.request (.step 0) = some { sessionId := "cam-1", clientCaptureId := 1 } := by
    subst hw
    decide +kernel
  have hnone : ((w.step (.step 0)).step f.event).request (.step 0) = none := by
    subst hw
    decide +kernel
  have hkept : ∀ (w : World ReadyCamera EchoPort Bool), w.hub.store.publications.keys = [] →
      ∀ e id wt, w.tasks id = some (.waiting wt) → wt.cid ∈ w.hub.store.publications →
      wt.cid ∈ (w.step e).hub.store.publications := by
    intro w hnil e id wt _ hin
    rw [AList.mem_keys, hnil] at hin
    cases hin
  have hc : Along World.step Separate w (.step 0 :: ([f.event] ++ [.step 0])) := by
    refine ⟨?admission, ?frame, ?wakeUp, trivial⟩
    case admission =>
      constructor
      case fresh =>
        intro request _ _ id wt hwait
        exact absurd (hw ▸ hwait) (not_waiting_syncCapture id wt)
      case plain =>
        intro request hacc
        obtain rfl := Option.some.inj (hbody.symm.trans hacc.request_eq)
        rfl
      case timeout =>
        intro id wt _ hlate
        exact absurd (hidle.1.symm.trans hlate.awaiting) Bool.false_ne_true
      case kept => exact hkept w hempty.1 _
    case frame =>
      constructor
      case fresh => exact fun request hr => by cases hr
      case plain => exact fun request hacc => by cases hacc.request_eq
      case timeout => exact fun id wt he => by cases he
      case kept => exact hkept _ hempty.2.1 _
    case wakeUp =>
      constructor
      case fresh => exact fun request hr => by cases hnone.symm.trans hr
      case plain => exact fun request hacc => by cases hnone.symm.trans hacc.request_eq
      case timeout =>
        intro id wt _ hlate
        exact absurd (hidle.2.symm.trans hlate.awaiting) Bool.false_ne_true
      case kept => exact hkept _ hempty.2.2 _
  have hreach : Reachable w := by
    rw [hw]
    exact bench_reachable oneCamera _
  exact ⟨w, hw, failure_leaves_nothing hreach hret (by decide) hc⟩

/-- An asynchronous request for the inline test image is told so once its capture is in flight. -/
theorem failure_leaves_capture : ¬ ∀ (w : World ReadyCamera EchoPort Bool) (id : ℕ)
    (request : CaptureRequest) (es : List (Event ReadyCamera EchoPort Bool)) (r : CaptureReply),
    Reachable w → w.Returns id request es r → r.status.code ≠ 0 → w.LeavesNothing id request es := by
  intro hall
  let request : CaptureRequest :=
    { sessionId := "cam-1", async := true, clientCaptureId := 1, testInlineImageReply := true }
  obtain ⟨w, hw⟩ : ∃ w, w = run World.step (bench oneCamera)
    [.call 0 (.capture request), .step 0, .step 0] := ⟨_, rfl⟩
  have hret : w.Returns 0 request []
      ⟨⟨15, "CAMERA3D_ENABLE_CAPTURE_INLINE_IMAGE_TEST is off at build time"⟩, 0, 0⟩ := by
    subst hw
    exact .atOnce (by decide +kernel) (by decide +kernel)
  have hacc : w.Accepted (.step 0) request := by
    subst hw
    exact ⟨by decide +kernel, by decide +kernel, by decide +kernel⟩
  have hreach : Reachable w := by
    rw [hw]
    exact bench_reachable oneCamera _
  apply (hall w 0 request [] _ hreach hret (by decide)).stopped hacc
  intro es' hpre
  rw [List.prefix_nil.mp hpre]
  exact hacc.awaiting

end World
end Camera3D.Hub
