import Camera3D.Hub.CaptureService
import Camera3D.Hub.InFlight
import Camera3D.Hub.Collecting

/-! The hub does as a capture service may do: what is asked of it and what its cameras deliver are the
acts, and of its state only the session, the capture in flight and the publications are seen. -/
namespace Camera3D.Hub
open Camera Serial Ipc Transition PublicationStore

abbrev Frames := CaptureService String UInt64 FrameBuffer
abbrev FrameAct := CaptureAct String UInt64 FrameBuffer

/-- The frames that a publication lists, each with its camera. -/
def CapturePublication.pictures (pub : CapturePublication) : List (String × FrameBuffer) :=
  pub.cameraRawSlots.map fun e => (e.managerDeviceId, e.frame)

namespace State

def service (s : State) : Frames where
  per := s.framesPerHardwareTrigger.toNat
  session := s.sessionDevicesOrdered
  inFlight := if s.awaitingFrame then some ⟨s.awaitingClientCaptureId, s.received⟩ else none
  kept cid := (s.store.publications.lookup cid).map CapturePublication.pictures

/-- The act that a step was, other than a delivery: what has changed tells. -/
def changed (s s' : State) : Option FrameAct :=
  if s'.sessionDevicesOrdered ≠ s.sessionDevicesOrdered then
    some (if s'.sessionDevicesOrdered = [] then .closed else .opened s'.sessionDevicesOrdered)
  else if s'.awaitingFrame ≠ s.awaitingFrame then
    some (if s'.awaitingFrame then .started s'.awaitingClientCaptureId else .gaveUp)
  else none

theorem service_of_idle {s : State} (h : s.awaitingFrame = false) : s.service.inFlight = none := by
  rw [service, h]
  rfl

theorem service_of_awaiting {s : State} (h : s.awaitingFrame = true) :
    s.service.inFlight = some ⟨s.awaitingClientCaptureId, s.received⟩ := by
  rw [service, h]
  rfl

theorem service_pushFrame {s : State} {mid : String} {fb : FrameBuffer} :
    (⟨s.awaitingClientCaptureId, (s.pushFrame mid fb).received⟩ : Taking String UInt64 FrameBuffer) =
      Taking.add ⟨s.awaitingClientCaptureId, s.received⟩ mid fb := by
  have hreceived : (s.pushFrame mid fb).received =
      Function.update s.received mid (s.received mid ++ [fb]) := by
    funext id
    by_cases hid : id = mid
    · rw [hid, received_pushFrame_self, Function.update_self]
    · rw [received_pushFrame_ne hid, Function.update_of_ne hid]
  rw [hreceived]
  rfl

theorem complete_iff {s : State} (h : s.Sound) (mid : String) (fb : FrameBuffer) :
    s.service.Complete (Taking.add ⟨s.awaitingClientCaptureId, s.received⟩ mid fb) ↔
      (s.pushFrame mid fb).burstsComplete = true := by
  rw [burstsComplete_iff (s := s.pushFrame mid fb) h.frames_pos, ← service_pushFrame]
  apply forall₂_congr
  intro id _
  exact not_lt.symm

theorem changed_of_devices (s s' : State) (h : s'.sessionDevicesOrdered = s.sessionDevicesOrdered) :
    s.changed s' = if s'.awaitingFrame ≠ s.awaitingFrame then
      some (if s'.awaitingFrame then .started s'.awaitingClientCaptureId else .gaveUp) else none := by
  rw [changed, if_neg (not_not.mpr h)]

/-- Laying the session out again changes nothing while there is one. -/
theorem service_resumed {s : State} (h : s.Sound) (rt : Status) :
    Takes CaptureService.May s.service (s.changed (s.resumed rt)) (s.resumed rt).service := by
  have hsame : (s.resumed rt).service = { s.service with session := s.presetIds } := rfl
  have hchanged : s.changed (s.resumed rt) = if s.presetIds ≠ s.sessionDevicesOrdered then
      some (if s.presetIds = [] then .closed else .opened s.presetIds) else none := by
    unfold changed
    rw [show (s.resumed rt).awaitingFrame = s.awaitingFrame from rfl, if_neg (not_not.mpr rfl)]
    rfl
  rw [hchanged, hsame]
  by_cases heq : s.presetIds = s.sessionDevicesOrdered
  · rw [if_neg (not_not.mpr heq), heq]
    rfl
  · have hclosed : s.sessionDevicesOrdered = [] := by
      rcases h.session with hi | he
      · exact hi.devices
      · exact absurd he.devices.symm heq
    have hopened : s.presetIds ≠ [] := fun hnil => heq (hnil.trans hclosed.symm)
    rw [if_pos heq, if_neg hopened]
    exact .opened s.presetIds hclosed

theorem service_armed {s : State} (h : s.Sound) {request : CaptureRequest} (hadm : s.Admits request) :
    Takes CaptureService.May s.service (s.changed (s.armed request)) (s.armed request).service := by
  have hchanged : s.changed (s.armed request) = some (.started (s.chooseId request).1) := by
    rw [s.changed_of_devices (s.armed request) rfl, hadm.idle]
    rfl
  have hservice : (s.armed request).service =
      { s.service with inFlight := some ⟨(s.chooseId request).1, fun _ => []⟩ } := rfl
  have hopen : s.service.session ≠ [] := by
    have he := h.established hadm.session.1
    obtain ⟨id, ids, hids, _⟩ := he.presetIds_eq
    rw [show s.service.session = s.presetIds from he.devices, hids]
    exact List.cons_ne_nil id ids
  rw [hchanged, hservice]
  exact .started _ hopen (service_of_idle hadm.idle)

theorem service_stopAwaiting {s : State} (h : s.awaitingFrame = true) :
    Takes CaptureService.May s.service (s.changed s.stopAwaiting) s.stopAwaiting.service := by
  have hchanged : s.changed s.stopAwaiting = some .gaveUp := by
    rw [s.changed_of_devices s.stopAwaiting rfl, h]
    rfl
  have hservice : s.stopAwaiting.service = { s.service with inFlight := none } := rfl
  rw [hchanged, hservice]
  apply CaptureService.May.gaveUp
  rw [service_of_awaiting h]
  exact Option.some_ne_none _

theorem service_released {s : State} (h : s.Sound) (hs : s.sessionId ≠ "") :
    Takes CaptureService.May s.service (s.changed s.released) s.released.service := by
  obtain ⟨id, ids, hids, _⟩ := (h.established hs).presetIds_eq
  have hchanged : s.changed s.released = some .closed := by
    unfold changed
    rw [(h.established hs).devices, hids]
    rfl
  have hservice : s.released.service = { per := s.service.per } := rfl
  rw [hchanged, hservice]
  exact .closed

/-- A step that changes nothing of what is seen is no act. -/
theorem service_unchanged {s s' : State} (hservice : s'.service = s.service)
    (hawaiting : s'.awaitingFrame = s.awaitingFrame) :
    Takes CaptureService.May s.service (s.changed s') s'.service := by
  have hchanged : s.changed s' = none := by
    rw [s.changed_of_devices s' (congrArg CaptureService.session hservice), hawaiting]
    exact if_neg (not_not.mpr rfl)
  rw [hchanged]
  exact hservice

/-- A step that is no delivery is one act, or none. -/
theorem Sound.move_may {s s' : State} {r : Option CaptureRequest} (h : s.Sound) (hm : s.Move r s') :
    Takes CaptureService.May s.service (s.changed s') s'.service := by
  cases hm with
  | same => exact service_unchanged rfl rfl
  | runtime rt hne => exact service_unchanged rfl rfl
  | resumed rt hrt hold => exact service_resumed h rt
  | released hs => exact service_released h hs
  | counted request hid hs => exact service_unchanged rfl rfl
  | armed request hadm => exact service_armed h hadm
  | notSent request hadm =>
    apply service_unchanged
    · rw [← show { s.service with inFlight := none } = (s.armed request).stopAwaiting.service from rfl,
        ← service_of_idle hadm.idle]
    · exact hadm.idle.symm
  | timedOut hw => exact service_stopAwaiting hw
  | errorTaken => exact service_unchanged rfl rfl

end State

theorem pictures_listBurst (layout : CameraRawShmSlot) (j : UInt32) (frames : List FrameBuffer) :
    (listBurst layout j frames).map (fun l => (l.layout.managerDeviceId, l.frame)) =
      frames.map (Prod.mk layout.managerDeviceId) := by
  induction frames generalizing j with
  | nil => rfl
  | cons raw frames ih => rw [listBurst, List.map_cons, List.map_cons, ih]

/-- The listing of a capture is the album of what was received. -/
theorem pictures_listing {burstsById : Bursts} {framesPer : ℕ} {cameras : List (String × CameraRawShmSlot)}
    (h : ∀ camera ∈ cameras, camera.2.managerDeviceId = camera.1) :
    (listing burstsById framesPer cameras).map (fun l => (l.layout.managerDeviceId, l.frame)) =
      album framesPer (cameras.map Prod.fst) fun id => (burstsById.lookup id).getD [] := by
  induction cameras with
  | nil => rfl
  | cons camera cameras ih =>
    have hrest := ih fun c hc => h c (List.mem_cons_of_mem _ hc)
    rw [listing, List.map_append, pictures_listBurst, hrest, h camera List.mem_cons_self]
    rfl

theorem slotLayout_ids (n : ℕ) (pcs : List HubPresetCamera) :
    ∀ camera ∈ (pcs.map HubPresetCamera.managerDeviceId).zip (Service.slotLayout n pcs),
      camera.2.managerDeviceId = camera.1 := by
  induction pcs generalizing n with
  | nil =>
    intro camera hc
    cases hc
  | cons pc pcs ih =>
    intro camera hc
    rcases List.mem_cons.mp hc with rfl | hc
    · rfl
    · exact ih (n + 1) camera hc

namespace State

/-- A publication shows the album of the capture that it ends. -/
theorem Publishes.pictures_eq {s : State} (hdevices : s.sessionDevicesOrdered = s.presetIds)
    (hlayout : s.sessionSlotLayout = Service.slotLayout 0 s.presetCameras) {sNext : UInt32}
    {w : RingWriter} {out : CapturePublication} (hp : s.Publishes sNext w out) :
    out.pictures = album s.framesPerHardwareTrigger.toNat s.sessionDevicesOrdered s.received := by
  have hids : ∀ camera ∈ s.sessionDevicesOrdered.zip s.sessionSlotLayout,
      camera.2.managerDeviceId = camera.1 := by
    rw [hdevices, hlayout]
    exact slotLayout_ids 0 s.presetCameras
  have hlen : s.sessionDevicesOrdered.length ≤ s.sessionSlotLayout.length := by
    rw [hdevices, hlayout, presetIds, List.length_map, length_slotLayout]
  have heq : List.Forall₂ Eq (out.cameraRawSlots.map fun e => (e.managerDeviceId, e.frame))
      (s.listed.map fun l => (l.layout.managerDeviceId, l.frame)) := by
    rw [List.forall₂_map_left_iff, List.forall₂_map_right_iff]
    apply hp.covers.entries.imp
    intro e l hd
    rw [hd]
  rw [List.forall₂_eq_eq_eq] at heq
  rw [CapturePublication.pictures, heq, listed, pictures_listing hids, List.map_fst_zip hlen]
  rfl

theorem stores_remember {s : State} {fl : Taking String UInt64 FrameBuffer} {out : CapturePublication}
    (hout : out.pictures = album s.service.per s.service.session fl.taken) :
    s.service.Stores fl fun cid =>
      ((s.store.rememberPublicationLocked fl.id out).publications.lookup cid).map
        CapturePublication.pictures := by
  intro cid
  dsimp only
  cases hlook : (s.store.rememberPublicationLocked fl.id out).publications.lookup cid with
  | none => exact .inl rfl
  | some pub =>
    right
    rcases lookup_remember hlook with ⟨rfl, rfl⟩ | ⟨hne, hold⟩
    · rw [Function.update_self, ← hout]
      rfl
    · rw [Function.update_of_ne hne]
      exact (congrArg (Option.map CapturePublication.pictures) hold).symm

/-- Every delivery is one act. -/
theorem Sound.took_may {s : State} (h : s.Sound) (sNext : UInt32) (mid : String) (fb : FrameBuffer) :
    s.service.May (.took mid fb) (s.onCameraFrame sNext mid fb).1.service := by
  have hdelivers := h.delivers sNext mid fb
  generalize s.onCameraFrame sNext mid fb = next at hdelivers ⊢
  cases hdelivers with
  | dropped hdrop =>
    apply CaptureService.May.dropped
    exact hdrop.imp_left service_of_idle
  | kept hw hm hc =>
    have hservice : (s.pushFrame mid fb).service =
        { s.service with inFlight := some (Taking.add ⟨s.awaitingClientCaptureId, s.received⟩ mid fb) } := by
      rw [← service_pushFrame, ← show (s.pushFrame mid fb).service.inFlight =
        some ⟨s.awaitingClientCaptureId, (s.pushFrame mid fb).received⟩ from service_of_awaiting hw]
      rfl
    rw [hservice]
    apply CaptureService.May.gathered mid fb _ (service_of_awaiting hw) hm
    rw [complete_iff h, hc]
    exact Bool.false_ne_true
  | published hw hm hc hp =>
    have he := h.of_awaiting hw
    have hpictures := hp.pictures_eq (s := s.pushFrame mid fb) he.devices he.layout
    exact .finished mid fb _ (service_of_awaiting hw) hm ((complete_iff h mid fb).mpr hc) _
      (stores_remember (hpictures.trans (congrArg _ (congrArg Taking.taken service_pushFrame))))
  | unpublished hw hm hc hps hshm hle err =>
    exact .lost mid fb _ (service_of_awaiting hw) hm ((complete_iff h mid fb).mpr hc)

theorem service_of_unused {s : State} (h : Service.Unused s) : s.service =
    { per := s.framesPerHardwareTrigger.toNat, session := s.sessionDevicesOrdered } := by
  rw [service, h.awaiting, h.store]
  rfl

theorem getDepth_code_of_none {s : State} {request : DepthRequest}
    (h : s.store.publications.lookup (s.depthKey request) = none) :
    (s.getDepth request).status.code ≠ 0 := by
  have hrefused := s.refusal_code
  unfold refusal at hrefused
  unfold getDepth
  cases hgate : s.fillUnifiedGateLocked with
  | some status =>
    rw [hgate] at hrefused
    exact hrefused
  | none =>
    dsimp only
    rw [h]
    dsimp only
    split_ifs
    · decide
    · decide

theorem captureWakeUp_code_of_none {s : State} {waiter : Waiter} {now : ℕ} {r : CaptureReply}
    (h : waiter.cid ∉ s.store.publications) (hr : (s.captureWakeUp waiter now).2 = some r) :
    r.status.code ≠ 0 := by
  rcases s.captureWakeUp_cases waiter now with
    ⟨he, _⟩ | ⟨_, _, he⟩ | ⟨_, _, detail, he⟩ | ⟨_, hin, _⟩
  · rw [he] at hr
    cases hr
  · rw [he] at hr
    obtain rfl := Option.some.inj hr
    decide
  · rw [he] at hr
    obtain rfl := Option.some.inj hr
    show (17 : Int32) ≠ 0
    decide
  · exact absurd hin h

end State

namespace World
variable {α π θ : Type*} [ICameraAdapter α] [ISerialPort π] [DecidableEq θ]

/-- The act that an event is. -/
def act (w : World α π θ) : Event α π θ → Option FrameAct
  | .cameraFrame _ mid fb => some (.took mid fb)
  | e => w.hub.changed (w.step e).hub.toState

/-- What has been asked of the hub and taken by its cameras, in order. -/
def acts (w : World α π θ) (es : List (Event α π θ)) : List FrameAct := actsAlong step act w es

theorem simulates : Simulates (σ := World α π θ) step act (fun w => w.hub.Sound)
    (fun w => w.hub.service) CaptureService.May := by
  intro w e h
  have hmove := w.step_move e
  cases e with
  | cameraFrame thread mid fb => exact h.took_may (w.cursor thread) mid fb
  | call id rpc | step id | portChanged port | cameraChanged mid adapter | tick =>
    rcases hmove with ⟨_, _, _, he⟩ | hm
    · cases he
    · exact h.move_may hm

/-- The hub refines a capture service: whatever its clients, cameras and serial port do, and in
whatever order its calls run. -/
theorem hub_refines_capture_service (prototypes : AList fun _ : String => α) (port : π) (b : Boot)
    (cursor : θ → UInt32) (es : List (Event α π θ)) :
    Does CaptureService.May (booted prototypes port b cursor : World α π θ).hub.service
      ((booted prototypes port b cursor).acts es)
      (run step (booted prototypes port b cursor) es).hub.service :=
  simulates.run (fun _ e h => step_sound h e) (Service.boot_unused prototypes port b).sound es

theorem accounts_of_run (prototypes : AList fun _ : String => α) (port : π) (b : Boot)
    (cursor : θ → UInt32) (es : List (Event α π θ)) :
    CaptureService.Accounts ((booted prototypes port b cursor : World α π θ).acts es)
      (run step (booted prototypes port b cursor) es).hub.service := by
  have hstart := Service.boot_unused prototypes port b
  have hdoes : Does CaptureService.May (booted prototypes port b cursor : World α π θ).hub.service
      ((booted prototypes port b cursor).acts es)
      (run step (booted prototypes port b cursor) es).hub.service :=
    simulates.run (fun _ e h => step_sound h e) hstart.sound es
  have hservice : (booted prototypes port b cursor : World α π θ).hub.service = _ :=
    State.service_of_unused hstart
  rw [hservice] at hdoes
  exact CaptureService.accounts_of_does hdoes

theorem takenFor_of_lookup {prototypes : AList fun _ : String => α} {port : π} {b : Boot}
    {cursor : θ → UInt32} {es : List (Event α π θ)} {w : World α π θ}
    (hw : w = run step (booted prototypes port b cursor) es) {cid : UInt64} {pub : CapturePublication}
    (hpub : w.hub.store.publications.lookup cid = some pub) :
    ∃ before during after, CaptureService.TakenFor w.hub.framesPerHardwareTrigger.toNat
      w.hub.sessionDevicesOrdered cid pub.pictures ((booted prototypes port b cursor).acts es)
      before during after := by
  subst hw
  exact (accounts_of_run prototypes port b cursor es).kept cid pub.pictures
    (congrArg (Option.map CapturePublication.pictures) hpub)

/-- What is published under an id are the first frames that each camera of the session delivered after
a capture with that id was started; the session has not ended since. -/
theorem publication_is_album (prototypes : AList fun _ : String => α) (port : π) (b : Boot)
    (cursor : θ → UInt32) (es : List (Event α π θ)) {w : World α π θ}
    (hw : w = run step (booted prototypes port b cursor) es) {cid : UInt64} {pub : CapturePublication}
    (hpub : w.hub.store.publications.lookup cid = some pub) :
    ∃ before during after,
      (booted prototypes port b cursor).acts es = before ++ .started cid :: (during ++ after) ∧
      CaptureService.OnlyPictures during ∧ .closed ∉ after ∧
      (∀ id ∈ w.hub.sessionDevicesOrdered,
        w.hub.framesPerHardwareTrigger.toNat ≤ (CaptureService.picturesOf id during).length) ∧
      pub.pictures = album w.hub.framesPerHardwareTrigger.toNat w.hub.sessionDevicesOrdered
        fun id => CaptureService.picturesOf id during := by
  obtain ⟨before, during, after, htaken⟩ := takenFor_of_lookup hw hpub
  exact ⟨before, during, after, htaken.split, htaken.only, htaken.open_, htaken.full, htaken.album⟩

theorem publication_is_album_two_cameras :
    ∃ (w : World ReadyCamera EchoPort Bool) (pub : CapturePublication) (before during after : _),
      w = run World.step (bench twoCameras) (twoCameraCapture 1 true) ∧
      (bench twoCameras).acts (twoCameraCapture 1 true) = before ++ .started 1 :: (during ++ after) ∧
      pub.pictures = album w.hub.framesPerHardwareTrigger.toNat w.hub.sessionDevicesOrdered
        fun id => CaptureService.picturesOf id during := by
  have hsome : ((run World.step (bench twoCameras)
      (twoCameraCapture 1 true)).hub.store.publications.lookup 1).isSome = true := by
    decide +kernel
  obtain ⟨w, hw⟩ : ∃ w, w = run World.step (bench twoCameras) (twoCameraCapture 1 true) := ⟨_, rfl⟩
  rw [← hw] at hsome
  obtain ⟨pub, hpub⟩ := Option.isSome_iff_exists.mp hsome
  obtain ⟨before, during, after, hsplit, _, _, _, halbum⟩ :=
    publication_is_album _ _ _ _ (twoCameraCapture 1 true) hw hpub
  exact ⟨w, pub, before, during, after, hw, hsplit, halbum⟩

/-- If no camera delivers one frame twice, no frame is published under two ids. -/
theorem publications_share_no_frame (prototypes : AList fun _ : String => α) (port : π) (b : Boot)
    (cursor : θ → UInt32) (es : List (Event α π θ)) {w : World α π θ}
    (hw : w = run step (booted prototypes port b cursor) es)
    (hnodup : ∀ id, (CaptureService.picturesOf id ((booted prototypes port b cursor).acts es)).Nodup)
    {cid cid' : UInt64} (hne : cid ≠ cid') {pub pub' : CapturePublication}
    (hpub : w.hub.store.publications.lookup cid = some pub)
    (hpub' : w.hub.store.publications.lookup cid' = some pub') :
    pub.pictures.Disjoint pub'.pictures := by
  obtain ⟨_, _, _, htaken⟩ := takenFor_of_lookup hw hpub
  obtain ⟨_, _, _, htaken'⟩ := takenFor_of_lookup hw hpub'
  exact htaken.disjoint hne htaken' hnodup

/-- Two captures of one camera, with one frame each. -/
def twoCaptures : List (Event ReadyCamera EchoPort Bool) :=
  captureEvents { sessionId := "cam-1", async := true, clientCaptureId := 1 } ++
    [.cameraFrame true "cam-1" { bytes := [1], width := 1, height := 1 }] ++
    captureEvents { sessionId := "cam-1", async := true, clientCaptureId := 2 } ++
    [.cameraFrame true "cam-1" { bytes := [2], width := 1, height := 1 }]

theorem publications_share_no_frame_two_captures :
    ∃ (w : World ReadyCamera EchoPort Bool) (pub pub' : CapturePublication),
      w = run World.step (bench oneCamera) twoCaptures ∧
      w.hub.store.publications.lookup 1 = some pub ∧ w.hub.store.publications.lookup 2 = some pub' ∧
      pub.pictures.Disjoint pub'.pictures := by
  have hacts : (bench oneCamera).acts twoCaptures =
      [.started 1, .took "cam-1" { bytes := [1], width := 1, height := 1 },
        .started 2, .took "cam-1" { bytes := [2], width := 1, height := 1 }] := by
    decide +kernel
  have hnodup : ∀ id, (CaptureService.picturesOf id ((bench oneCamera).acts twoCaptures)).Nodup := by
    intro id
    rw [hacts]
    simp only [CaptureService.picturesOf]
    split_ifs
    · decide
    · decide
  have hboth : ((run World.step (bench oneCamera) twoCaptures).hub.store.publications.lookup 1).isSome =
      true ∧ ((run World.step (bench oneCamera) twoCaptures).hub.store.publications.lookup 2).isSome =
      true := by
    decide +kernel
  obtain ⟨w, hw⟩ : ∃ w, w = run World.step (bench oneCamera) twoCaptures := ⟨_, rfl⟩
  rw [← hw] at hboth
  obtain ⟨pub, hpub⟩ := Option.isSome_iff_exists.mp hboth.1
  obtain ⟨pub', hpub'⟩ := Option.isSome_iff_exists.mp hboth.2
  exact ⟨w, pub, pub', hw, hpub, hpub',
    publications_share_no_frame _ _ _ _ twoCaptures hw hnodup (by decide) hpub hpub'⟩

theorem act_took {w : World α π θ} {e : Event α π θ} {mid : String} {fb : FrameBuffer}
    (h : w.act e = some (.took mid fb)) : ∃ thread, e = .cameraFrame thread mid fb := by
  have hother : ∀ s s' : State, s.changed s' ≠ some (.took mid fb) := by
    intro s s'
    unfold State.changed
    split_ifs <;> simp
  cases e with
  | cameraFrame thread mid' fb' =>
    obtain ⟨rfl, rfl⟩ := CaptureAct.took.inj (Option.some.inj h)
    exact ⟨thread, rfl⟩
  | call id rpc | step id | portChanged port | cameraChanged mid adapter | tick =>
    exact absurd h (hother _ _)

theorem mem_acts {w : World α π θ} {es : List (Event α π θ)} {mid : String} {fb : FrameBuffer}
    (h : .took mid fb ∈ w.acts es) : ∃ thread, .cameraFrame thread mid fb ∈ es := by
  induction es generalizing w with
  | nil => cases h
  | cons e es ih =>
    rcases List.mem_append.mp h with hact | hrest
    · obtain ⟨thread, rfl⟩ := act_took (Option.mem_toList.mp hact)
      exact ⟨thread, List.mem_cons_self⟩
    · obtain ⟨thread, hmem⟩ := ih hrest
      exact ⟨thread, List.mem_cons_of_mem _ hmem⟩

/-- While one camera of the session stays silent nothing is published, no depth is handed out and no
waiting capture succeeds. -/
theorem silent_camera_blocks (prototypes : AList fun _ : String => α) (port : π) (b : Boot)
    (cursor : θ → UInt32) (es : List (Event α π θ)) {w : World α π θ}
    (hw : w = run step (booted prototypes port b cursor) es) {mid : String}
    (hmid : mid ∈ w.hub.presetIds) (hsilent : ∀ thread fb, .cameraFrame thread mid fb ∉ es) :
    (∀ cid, w.hub.store.publications.lookup cid = none) ∧
      (∀ request, (w.hub.getDepth request).status.code ≠ 0) ∧
      ∀ waiter now r, (w.hub.captureWakeUp waiter now).2 = some r → r.status.code ≠ 0 := by
  have hsound : w.hub.Sound := by
    rw [hw]
    exact run_sound (Service.boot_unused prototypes port b).sound es
  have hnone : ∀ cid, w.hub.store.publications.lookup cid = none := by
    intro cid
    cases hpub : w.hub.store.publications.lookup cid with
    | none => rfl
    | some pub =>
      obtain ⟨before, during, after, htaken⟩ := takenFor_of_lookup hw hpub
      have hest : w.hub.Established := by
        apply hsound.session.resolve_left
        intro hi
        rw [hi.store] at hpub
        cases hpub
      have hfull := htaken.full mid (hest.devices ▸ hmid)
      have hempty : CaptureService.picturesOf mid during = [] := by
        rw [List.eq_nil_iff_forall_not_mem]
        intro fb hfb
        have hacts : .took mid fb ∈ (booted prototypes port b cursor).acts es := by
          rw [htaken.split]
          simp [CaptureService.mem_picturesOf hfb]
        obtain ⟨thread, hmem⟩ := mem_acts hacts
        exact hsilent thread fb hmem
      rw [hempty] at hfull
      exact absurd (Nat.le_trans hsound.frames_pos hfull) (by simp)
  refine ⟨hnone, fun request => State.getDepth_code_of_none (hnone _), fun waiter now r hr => ?_⟩
  apply State.captureWakeUp_code_of_none ?_ hr
  rw [← AList.lookup_eq_none]
  exact hnone waiter.cid

theorem silent_camera_blocks_second :
    ∃ w, w = run World.step (bench twoCameras) twoCaptures ∧
      ∀ request, (w.hub.getDepth request).status.code ≠ 0 := by
  have hmid : "cam-2" ∈ (run World.step (bench twoCameras) twoCaptures).hub.presetIds := by
    decide +kernel
  have hsilent : ∀ thread fb, (.cameraFrame thread "cam-2" fb : Event ReadyCamera EchoPort Bool) ∉
      twoCaptures := by
    simp [twoCaptures, captureEvents]
  obtain ⟨w, hw⟩ : ∃ w, w = run World.step (bench twoCameras) twoCaptures := ⟨_, rfl⟩
  rw [← hw] at hmid
  exact ⟨w, hw, (silent_camera_blocks _ _ _ _ twoCaptures hw hmid hsilent).2.1⟩

end World
end Camera3D.Hub
