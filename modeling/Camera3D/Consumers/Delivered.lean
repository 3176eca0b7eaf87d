import Camera3D.Consumers.Burst
import Camera3D.Hub.Labels
import Camera3D.Hub.Refines

/-! From the camera to the image that a consumer keeps: the frames behind the names under which the
watcher and the viewer keep what they copy from the ring. -/
namespace Camera3D.Hub
open Camera Serial Ipc Transition CaptureService

/-- When every camera has taken enough, camera `i` has the places from `i * per` on. -/
theorem getElem?_album {C P : Type*} {per : ℕ} {session : List C} {taken : C → List P}
    (hfull : ∀ c ∈ session, per ≤ (taken c).length) (i : ℕ) {j : ℕ} (hj : j < per) :
    (album per session taken)[i * per + j]? =
      (session[i]?).bind fun c => ((taken c)[j]?).map (Prod.mk c) := by
  induction session generalizing i with
  | nil => rfl
  | cons c session ih =>
    have hlen : (((taken c).take per).map (Prod.mk c)).length = per := by
      rw [List.length_map, List.length_take, Nat.min_eq_left (hfull c List.mem_cons_self)]
    have hcons : album per (c :: session) taken =
        ((taken c).take per).map (Prod.mk c) ++ album per session taken := rfl
    rw [hcons]
    cases i with
    | zero =>
      rw [Nat.zero_mul, Nat.zero_add, List.getElem?_append_left (by omega), List.getElem?_map,
        List.getElem?_take_of_lt hj]
      rfl
    | succ i =>
      have hplace : (i + 1) * per + j = per + (i * per + j) := by
        rw [Nat.add_one_mul]
        omega
      rw [hplace, List.getElem?_append_right (by omega), hlen, Nat.add_sub_cancel_left,
        ih (fun c hc => hfull c (List.mem_cons_of_mem _ hc)), List.getElem?_cons_succ]

namespace State

/-- Every published entry is numbered by its place, camera by camera. -/
def Placed (s : State) : Prop :=
  ∀ cid pub, s.store.publications.lookup cid = some pub → ∀ (k : ℕ) (e : CameraRawShmSlot),
    pub.cameraRawSlots[k]? = some e →
      e.cameraIndex = .ofNat (k / s.framesPerHardwareTrigger.toNat) ∧
      e.burstFrameIndex = .ofNat (k % s.framesPerHardwareTrigger.toNat)

theorem Placed.move {s s' : State} {r : Option CaptureRequest} (h : s.Placed)
    (hm : s.Move r s') : s'.Placed := by
  cases hm with
  | released hs =>
    intro cid pub hpub
    cases hpub
  | same | runtime | resumed | counted | armed | notSent | timedOut | errorTaken => exact h

/-- What is written of a complete capture is listed camera by camera, frame by frame. -/
theorem Publishes.placed {s : State} (hlayout : s.sessionSlotLayout = Service.slotLayout 0 s.presetCameras)
    (hk : 1 ≤ s.framesPerHardwareTrigger.toNat) (hcomplete : s.burstsComplete = true) {sNext : UInt32} {w : RingWriter}
    {out : CapturePublication} (hp : s.Publishes sNext w out) {k : ℕ} {e : CameraRawShmSlot}
    (hentry : out.cameraRawSlots[k]? = some e) :
    e.cameraIndex = .ofNat (k / s.framesPerHardwareTrigger.toNat) ∧
      e.burstFrameIndex = .ofNat (k % s.framesPerHardwareTrigger.toNat) := by
  have hfull : ∀ camera ∈ s.sessionDevicesOrdered.zip s.sessionSlotLayout,
      Full s.pendingCameraBursts s.framesPerHardwareTrigger.toNat camera.1 := by
    intro camera hcamera
    have howes := (burstsComplete_iff hk).mp hcomplete camera.1 (List.of_mem_zip hcamera).1
    have hle := Nat.not_lt.mp howes
    unfold received at hle
    cases hlook : s.pendingCameraBursts.lookup camera.1 with
    | some vec =>
      rw [hlook, Option.getD_some] at hle
      exact ⟨vec, hlook, hle⟩
    | none =>
      rw [hlook, Option.getD_none, List.length_nil] at hle
      omega
  obtain ⟨l, hl, hdescribes⟩ := getElem?_of_forall₂ hp.covers.entries.flip hentry
  have hlt : k < (s.sessionDevicesOrdered.zip s.sessionSlotLayout).length *
      s.framesPerHardwareTrigger.toNat := by
    rw [← length_listing hfull]
    exact (List.getElem?_eq_some_iff.mp hl).1
  have hdiv := Nat.div_lt_of_lt_mul (Nat.mul_comm _ _ ▸ hlt)
  obtain ⟨camera, hcamera⟩ : ∃ camera, (s.sessionDevicesOrdered.zip s.sessionSlotLayout)[
      k / s.framesPerHardwareTrigger.toNat]? = some camera := ⟨_, List.getElem?_eq_getElem hdiv⟩
  obtain ⟨fb, _, hlisted⟩ := getElem?_listing hfull hcamera (Nat.mod_lt k hk)
  rw [Nat.div_add_mod'] at hlisted
  obtain rfl := Option.some.inj (hl.symm.trans hlisted)
  have hcamera := (List.getElem?_zip_eq_some.mp hcamera).2
  rw [hlayout, getElem?_slotLayout, Nat.zero_add] at hcamera
  obtain ⟨pc, _, hslot⟩ := Option.map_eq_some_iff.mp hcamera
  rw [hdescribes]
  dsimp only
  rw [← hslot]
  exact ⟨rfl, rfl⟩

theorem Placed.delivers {s : State} {sNext : UInt32} {mid : String} {fb : FrameBuffer}
    {r : State × UInt32} (h : s.Placed) (hs : s.Sound) (hr : s.Delivers sNext mid fb r) :
    r.1.Placed := by
  cases hr with
  | dropped | kept | unpublished => exact h
  | @published hw hm hc w out hp =>
    intro cid pub hpub k e hentry
    rcases PublicationStore.lookup_remember hpub with ⟨rfl, rfl⟩ | ⟨_, hold⟩
    · exact hp.placed (s := s.pushFrame mid fb) (hs.of_awaiting hw).layout hs.frames_pos hc hentry
    · exact h cid pub hold k e hentry

end State

theorem Change.placed {α π : Type*} [ICameraAdapter α] [ISerialPort π] {h h' : Service α π}
    {c : Cause} (hch : Change h c h') (hs : h.Sound) (hplaced : h.Placed) : h'.Placed := by
  rcases hch.move with ⟨r, hm⟩ | ⟨sNext, mid, fb, he⟩
  · exact hplaced.move hm
  · rw [he]
    exact hplaced.delivers hs (hs.delivers sNext mid fb)

namespace Server
variable {α π θ : Type*} [ICameraAdapter α] [ICameraControls α] [ISerialPort π] [DecidableEq θ]

/-- The act that an event is; the calls that are not of the world are none. -/
def act (sv : Server α π θ) : ServerEvent α π θ → Option FrameAct
  | .world e => sv.world.act e
  | _ => none

def acts (sv : Server α π θ) (es : List (ServerEvent α π θ)) : List FrameAct :=
  actsAlong step act sv es

theorem simulates : Simulates (σ := Server α π θ) step act (fun sv => sv.hub.Sound)
    (fun sv => sv.hub.service) May := by
  intro sv e h
  by_cases hworld : ∃ e', e = .world e'
  · obtain ⟨e, rfl⟩ := hworld
    exact World.simulates sv.world e h
  · obtain ⟨cameras, rt, serial, he⟩ := sv.step_frame (not_exists.mp hworld)
    have hnone : sv.act e = none := by
      cases e with
      | world e => exact absurd ⟨e, rfl⟩ hworld
      | request id rq => rfl
      | job id => rfl
    have hsame : (sv.step e).hub.service = sv.hub.service := by
      unfold hub
      rw [he]
      rfl
    rw [hnone]
    exact hsame

theorem accounts_of_run (prototypes : AList fun _ : String => α) (port : π) (b : Boot)
    (cursor : θ → UInt32) (es : List (ServerEvent α π θ)) :
    Accounts ((booted prototypes port b cursor : Server α π θ).acts es)
      (run step (booted prototypes port b cursor) es).hub.service := by
  have hstart := Service.boot_unused prototypes port b
  have hsound : (booted prototypes port b cursor : Server α π θ).hub.Sound := hstart.sound
  have hdoes : Does May (booted prototypes port b cursor : Server α π θ).hub.service
      ((booted prototypes port b cursor).acts es)
      (run step (booted prototypes port b cursor) es).hub.service :=
    simulates.run (fun sv e h => (sv.step_change e).sound h) hsound es
  have hservice : (booted prototypes port b cursor : Server α π θ).hub.service = _ :=
    State.service_of_unused hstart
  rw [hservice] at hdoes
  exact accounts_of_does hdoes

theorem run_placed {sv : Server α π θ} (hs : sv.hub.Sound) (hplaced : sv.hub.Placed)
    (es : List (ServerEvent α π θ)) : (run step sv es).hub.Placed :=
  (run_invariant (I := fun sv : Server α π θ => sv.hub.Sound ∧ sv.hub.Placed)
    (fun sv e h => ⟨(sv.step_change e).sound h.1, (sv.step_change e).placed h.1 h.2⟩)
    ⟨hs, hplaced⟩ es).2

end Server
end Camera3D.Hub

namespace Camera3D.Consumers
open Camera Serial Grpc Hub Ipc Transition CaptureService

variable {α π θ : Type*} [ICameraAdapter α] [ICameraControls α] [ISerialPort π] [DecidableEq θ]

/-- An image is a frame of one capture: the `j`-th that camera `i` delivered after a capture with the
image's id was started, and the image is kept at its place and under its numbers. -/
def KeptImage.Taken (s : State) (log : List FrameAct) (img : KeptImage) : Prop :=
  ∃ before during after i j mid fb,
    log = before ++ .started img.captureId :: (during ++ after) ∧ OnlyPictures during ∧
    .closed ∉ after ∧ s.sessionDevicesOrdered[i]? = some mid ∧ j < s.framesPerHardwareTrigger.toNat ∧
    img.index = i * s.framesPerHardwareTrigger.toNat + j ∧ img.cameraIndex = .ofNat i ∧
    img.burstFrameIndex = .ofNat j ∧ (picturesOf mid during)[j]? = some fb ∧ img.bytes = fb.bytes

/-- From the camera to the consumer: while no slot of a frame still to be copied is taken, every image
that the watcher or the viewer keeps is a frame that its camera delivered for the capture it is kept
under. -/
theorem kept_taken (prototypes : AList fun _ : String => α) (port : π) (b : Boot)
    (cursor : θ → UInt32) (es : List (ServerEvent α π θ)) {sv : Server α π θ}
    (hsv : sv = run Server.step (Server.booted prototypes port b cursor) es)
    {request : DepthRequest} {c : Consumer} (hstarts : c.Starts request (sv.hub.getDepth request))
    {writers : Writers String θ} (hring : sv.hub.shm.mapping = some (writers.rings sv.hub.shm.name))
    {pub : CapturePublication}
    (hpub : sv.hub.store.publications.lookup (sv.hub.depthKey request) = some pub)
    (hintact : Intact pub sv.hub.shm) {ts : List (TransferEvent θ)}
    (hspares : Along Transfer.step (Transfer.Spares pub sv.hub.shm.name) ⟨writers, c⟩ ts) :
    ∀ img ∈ (run Transfer.step ⟨writers, c⟩ ts).consumer.kept,
      img.Taken sv.hub.toState ((Server.booted prototypes port b cursor).acts es) := by
  intro img himg
  have hreachable : sv.Reachable := ⟨prototypes, port, b, cursor, es, hsv⟩
  have hkeeps := run_invariant_along (fun t e hspares h => Keeps.step h hspares) hspares
    (keeps_start hreachable hpub hintact hring hstarts)
  obtain ⟨hid, e, he, hcamera, hburst, hbytes⟩ := hkeeps.kept img himg
  have hstart := Service.boot_unused prototypes port b
  have hsound : (Server.booted prototypes port b cursor : Server α π θ).hub.Sound := hstart.sound
  have hplaced : (Server.booted prototypes port b cursor : Server α π θ).hub.Placed := by
    intro cid pub hpub
    have hstore : (Server.booted prototypes port b cursor : Server α π θ).hub.store = {} := hstart.store
    rw [hstore] at hpub
    cases hpub
  have hplaces := Server.run_placed hsound hplaced es
  have hacc := Server.accounts_of_run prototypes port b cursor es
  rw [← hsv] at hplaces hacc
  obtain ⟨hindex, hframe⟩ := hplaces _ pub hpub _ e he
  obtain ⟨before, during, after, htaken⟩ : ∃ before during after,
      TakenFor sv.hub.framesPerHardwareTrigger.toNat sv.hub.sessionDevicesOrdered _ pub.pictures
        ((Server.booted prototypes port b cursor).acts es) before during after :=
    hacc.kept _ pub.pictures (congrArg (Option.map CapturePublication.pictures) hpub)
  have hpos : 0 < sv.hub.framesPerHardwareTrigger.toNat := hreachable.sound.frames_pos
  have hmod := Nat.mod_lt img.index hpos
  have hpicture : pub.pictures[img.index]? = some (e.managerDeviceId, e.frame) := by
    rw [CapturePublication.pictures, List.getElem?_map, he]
    rfl
  rw [htaken.album, ← Nat.div_add_mod' img.index sv.hub.framesPerHardwareTrigger.toNat,
    getElem?_album htaken.full _ hmod] at hpicture
  obtain ⟨mid, hmid, hpicture⟩ := Option.bind_eq_some_iff.mp hpicture
  obtain ⟨fb, hfb, hpair⟩ := Option.map_eq_some_iff.mp hpicture
  obtain ⟨_, rfl⟩ := Prod.mk.inj hpair
  refine ⟨before, during, after, _, _, mid, e.frame, ?_, htaken.only, htaken.open_, hmid, hmod,
    (Nat.div_add_mod' _ _).symm, hcamera.trans hindex, hburst.trans hframe, hfb, hbytes⟩
  rw [hid, hreachable.keyed _ pub hpub]
  exact htaken.split

/-- The watcher copies two frames of a capture while another slot is written. -/
theorem kept_taken_bench : ∃ es : List (ServerEvent ReadyCamera EchoPort Bool),
    captured 1 = run Server.step (Server.booted (AList.singleton "daheng" {}) {}
      (.started twoCameras (.mapped zeroed)) fun _ => 0) es ∧
    ∀ img ∈ [(⟨1, 1, 1, 0, [1]⟩ : KeptImage), ⟨0, 1, 0, 0, [2]⟩],
      img.Taken (captured 1).hub.toState ((Server.booted (AList.singleton "daheng" {}) {}
        (.started twoCameras (.mapped zeroed)) fun _ => 0 : Server ReadyCamera EchoPort Bool).acts es) := by
  obtain ⟨es, hes⟩ : ∃ es, captured 1 = run Server.step (Server.booted (AList.singleton "daheng" {}) {}
      (.started twoCameras (.mapped zeroed)) fun _ => 0) es := ⟨_, rfl⟩
  have hkept : (run Transfer.step ⟨(captured 1).writers, .watcher firstBatch⟩ spared).consumer.kept =
      [⟨1, 1, 1, 0, [1]⟩, ⟨0, 1, 0, 0, [2]⟩] := by
    decide +kernel
  have hgood : ((captured 1).hub.store.publications.lookup ((captured 1).hub.depthKey firstPoll)).any
      (fun pub => decide (Intact pub (captured 1).hub.shm ∧ Along Transfer.step
        (Transfer.Spares pub (captured 1).hub.shm.name) ⟨(captured 1).writers, .watcher firstBatch⟩ spared)) =
      true := by
    decide +kernel
  obtain ⟨pub, hpub, hgood⟩ := (Option.any_eq_true _ _).mp hgood
  obtain ⟨hintact, hspares⟩ := of_decide_eq_true hgood
  refine ⟨es, hes, fun img himg => ?_⟩
  rw [← hkept] at himg
  exact kept_taken _ _ _ _ es hes firstBatch_starts captured_tracked.ring hpub hintact hspares img himg

end Camera3D.Consumers
