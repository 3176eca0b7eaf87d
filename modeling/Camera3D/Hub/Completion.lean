import Camera3D.Hub.Listing
import Camera3D.Hub.Sound

/-! The callback that completes a capture: what it cuts out of the pending frames, and publishes. -/
namespace Camera3D.Hub
open Camera Ipc

section Split
variable {n : ℕ} {ids : List String} {pending snapshot : Bursts} {id : String}

theorem splitBursts_snapshot_of_not_mem (hid : id ∉ ids) :
    (splitBursts n ids pending snapshot).2.lookup id = snapshot.lookup id := by
  induction ids generalizing pending snapshot with
  | nil => rfl
  | cons id' ids ih =>
    rw [List.mem_cons, not_or] at hid
    rw [splitBursts, ih hid.2, AList.lookup_insert_ne hid.1]

/-- Each listed camera's burst is the front of what was pending for it. -/
theorem splitBursts_snapshot (hnodup : ids.Nodup) (hid : id ∈ ids) :
    (splitBursts n ids pending snapshot).2.lookup id =
      some (((pending.lookup id).getD []).take n) := by
  induction ids generalizing pending snapshot with
  | nil => cases hid
  | cons id' ids ih =>
    rw [List.nodup_cons] at hnodup
    rw [splitBursts]
    rcases List.mem_cons.mp hid with rfl | hmem
    · rw [splitBursts_snapshot_of_not_mem hnodup.1, AList.lookup_insert]
    · have hne : id ≠ id' := by
        rintro rfl
        exact hnodup.1 hmem
      rw [ih hnodup.2 hmem, AList.lookup_insert_ne hne]

end Split

theorem listing_congr {burstsById burstsById' : Bursts} {framesPer : ℕ}
    {cameras : List (String × CameraRawShmSlot)}
    (h : ∀ camera ∈ cameras, ((burstsById.lookup camera.1).getD []).take framesPer =
      ((burstsById'.lookup camera.1).getD []).take framesPer) :
    listing burstsById framesPer cameras = listing burstsById' framesPer cameras := by
  induction cameras with
  | nil => rfl
  | cons camera cameras ih =>
    rw [listing, listing, h camera List.mem_cons_self,
      ih fun c hc => h c (List.mem_cons_of_mem _ hc)]

theorem mem_listBurst {layout : CameraRawShmSlot} {j : UInt32} {frames : List FrameBuffer} {l : Listed}
    (hl : l ∈ listBurst layout j frames) : l.frame ∈ frames := by
  rw [← frames_listBurst layout j frames]
  exact List.mem_map_of_mem hl

theorem mem_listing {burstsById : Bursts} {framesPer : ℕ}
    {cameras : List (String × CameraRawShmSlot)} {l : Listed}
    (hl : l ∈ listing burstsById framesPer cameras) :
    ∃ camera ∈ cameras, l.frame ∈ (burstsById.lookup camera.1).getD [] := by
  induction cameras with
  | nil => cases hl
  | cons camera cameras ih =>
    rw [listing, List.mem_append] at hl
    cases hl with
    | inl hl =>
      exact ⟨camera, List.mem_cons_self, List.mem_of_mem_take (mem_listBurst hl)⟩
    | inr hl =>
      obtain ⟨c, hc, hmem⟩ := ih hl
      exact ⟨c, List.mem_cons_of_mem _ hc, hmem⟩

theorem length_listing_le (burstsById : Bursts) (framesPer : ℕ)
    (cameras : List (String × CameraRawShmSlot)) :
    (listing burstsById framesPer cameras).length ≤ cameras.length * framesPer := by
  induction cameras with
  | nil => exact Nat.zero_le _
  | cons camera cameras ih =>
    have htake := List.length_take_le framesPer ((burstsById.lookup camera.1).getD [])
    rw [listing, List.length_append, length_listBurst, List.length_cons, Nat.add_one_mul]
    omega

namespace State

/-- The frames that the capture in flight would publish now. -/
def listed (s : State) : List Listed :=
  listing s.pendingCameraBursts s.framesPerHardwareTrigger.toNat
    (s.sessionDevicesOrdered.zip s.sessionSlotLayout)

theorem received_pushFrame_self (s : State) (mid : String) (fb : FrameBuffer) :
    (s.pushFrame mid fb).received mid = s.received mid ++ [fb] := by
  rw [received, pushFrame, AList.lookup_insert, Option.getD_some, received]

theorem received_pushFrame_ne {id mid : String} (hne : id ≠ mid) (s : State) (fb : FrameBuffer) :
    (s.pushFrame mid fb).received id = s.received id := by
  rw [received, pushFrame, AList.lookup_insert_ne hne, received]

/-- The number of ring slots that the capture in flight takes. -/
def writeCount (s : State) : ℕ :=
  Hub.writeCount s.sessionDevicesOrdered s.framesPerHardwareTrigger s.awaitingWithRec

theorem listing_snapshot {s : State} (hnodup : s.sessionDevicesOrdered.Nodup) :
    listing s.splitPending.2 s.framesPerHardwareTrigger.toNat
      (s.sessionDevicesOrdered.zip s.sessionSlotLayout) = s.listed := by
  refine listing_congr fun camera hc => ?_
  have hid : camera.1 ∈ s.sessionDevicesOrdered := (List.of_mem_zip hc).1
  rw [splitPending, splitBursts_snapshot hnodup hid, Option.getD_some, List.take_take, Nat.min_self]

theorem mem_listed {s : State} {l : Listed} (hl : l ∈ s.listed) :
    ∃ id ∈ s.sessionDevicesOrdered, l.frame ∈ s.received id := by
  obtain ⟨camera, hc, hmem⟩ := mem_listing hl
  exact ⟨camera.1, (List.of_mem_zip hc).1, hmem⟩

theorem length_listed_le (s : State) :
    s.listed.length + s.awaitingWithRec.toNat ≤ s.writeCount := by
  have hzip : (s.sessionDevicesOrdered.zip s.sessionSlotLayout).length ≤
      s.sessionDevicesOrdered.length := by
    rw [List.length_zip]
    exact Nat.min_le_left _ _
  have hle := length_listing_le s.pendingCameraBursts s.framesPerHardwareTrigger.toNat
    (s.sessionDevicesOrdered.zip s.sessionSlotLayout)
  exact Nat.add_le_add_right (Nat.le_trans hle (Nat.mul_le_mul_right _ hzip)) _

/-- The publication of a capture: the entries of the listed frames, and where they were written. -/
structure Publishes (s : State) (sNext : UInt32) (w : RingWriter) (out : CapturePublication) :
    Prop where
  writes : RingWriter.Writes ⟨s.shm, sNext⟩ out.named w
  covers : out.Covers s.listed s.awaitingWithRec
  nonempty : s.listed ≠ []

/-- The state after a capture was published. -/
def published (s : State) (shm : ShmRingBuffer) (out : CapturePublication) : State :=
  { s.settled shm with
    lastCaptureShmError := ""
    store := s.store.rememberPublicationLocked s.awaitingClientCaptureId out }

/-- The state after the writing of a capture stopped halfway. -/
def unpublished (s : State) (shm : ShmRingBuffer) (err : String) : State :=
  { s.settled shm with lastCaptureShmError := err }

/-- What the writing of a snapshot produces is a publication of the listed frames. -/
theorem publishes_of_written {s : State} (hne : s.sessionDevicesOrdered ≠ [])
    (hnodup : s.sessionDevicesOrdered.Nodup)
    (hlen : s.sessionSlotLayout.length = s.sessionDevicesOrdered.length)
    (hk : s.framesPerHardwareTrigger ≠ 0)
    (hfull : ∀ camera ∈ s.sessionDevicesOrdered.zip s.sessionSlotLayout,
      Full s.splitPending.2 s.framesPerHardwareTrigger.toNat camera.1)
    {sNext : UInt32} {w : RingWriter} {out : CapturePublication}
    (hw : RingWriter.Writes ⟨s.shm, sNext⟩
      (out.frames (firstListed s.splitPending.2 s.sessionDevicesOrdered)) w)
    (hcovers : out.Covers (listing s.splitPending.2 s.framesPerHardwareTrigger.toNat
      (s.sessionDevicesOrdered.zip s.sessionSlotLayout)) s.awaitingWithRec) :
    s.Publishes sNext w out := by
  have hk' : s.framesPerHardwareTrigger.toNat ≠ 0 := fun h => hk (UInt32.toNat_inj.mp h)
  rw [hcovers.frames_firstListed hne hlen hk' hfull] at hw
  obtain ⟨l, rest, hlist, _⟩ := listing_head hne hlen hk' hfull
  rw [listing_snapshot hnodup] at hcovers hlist
  exact ⟨hw, hcovers, hlist ▸ List.cons_ne_nil l rest⟩

/-- Completing a capture publishes the listed frames, or stops in the middle of writing them. -/
theorem completeCapture_cases {s : State} (hr : HubRing s.shm)
    (hne : s.sessionDevicesOrdered ≠ []) (hnodup : s.sessionDevicesOrdered.Nodup) (sNext : UInt32) :
    (∃ w out, s.Publishes sNext w out ∧
      s.completeCapture sNext = (s.published w.shm out, w.sNext)) ∨
    ∃ (w s₁ : RingWriter) (err : String) (ps : List Published),
      RingWriter.Writes ⟨s.shm, sNext⟩ ps s₁ ∧ w.shm = s₁.shm ∧ ps.length ≤ s.writeCount ∧
      s.completeCapture sNext = (s.unpublished w.shm err, w.sNext) := by
  unfold completeCapture
  rcases RingWriter.writeMultiCaptureToShmLocked_cases (s := ⟨s.shm, sNext⟩) hr
      s.sessionDevicesOrdered s.sessionSlotLayout s.awaitingClientCaptureId s.splitPending.2
      s.framesPerHardwareTrigger s.awaitingWithRec with
    ⟨w, out, he, hw, hcovers, hlen, hk, hfull⟩ | ⟨w, err, ps, s₁, he, hstop⟩
  · left
    rw [writeSnapshot, he]
    exact ⟨w, out, publishes_of_written hne hnodup hlen hk hfull hw hcovers, rfl⟩
  · right
    rw [writeSnapshot, he]
    refine ⟨w, s₁, _, ps, hstop.writes, hstop.shm_eq, ?_, rfl⟩
    refine Nat.le_trans hstop.length_le (Nat.le_trans ?_ s.length_listed_le)
    rw [List.length_append, List.length_map, listing_snapshot hnodup]
    cases s.awaitingWithRec with
    | false => exact Nat.le_refl _
    | true => exact Nat.le_refl _

/-- A capture of writable frames, of a session with a slot for each camera, is published. -/
theorem completeCapture_ok {s : State} (hr : HubRing s.shm) (hne : s.sessionDevicesOrdered ≠ [])
    (hnodup : s.sessionDevicesOrdered.Nodup)
    (hlen : s.sessionSlotLayout.length = s.sessionDevicesOrdered.length)
    (hk : 1 ≤ s.framesPerHardwareTrigger.toNat)
    (hall : ∀ id ∈ s.sessionDevicesOrdered, ¬ s.Owes id)
    (hgood : ∀ l ∈ s.listed, ¬ Unwritable s.shm.capacity l.frame) {sNext : UInt32}
    (hseq : ∀ ps s', RingWriter.Writes ⟨s.shm, sNext⟩ ps s' → ps.length ≤ s.writeCount →
      ∀ p ∈ ps, p.seq ≠ 0) :
    ∃ w out, s.Publishes sNext w out ∧ s.completeCapture sNext = (s.published w.shm out, w.sNext) := by
  have hk' : s.framesPerHardwareTrigger ≠ 0 := by
    intro hzero
    rw [hzero] at hk
    cases hk
  have hfull : ∀ camera ∈ s.sessionDevicesOrdered.zip s.sessionSlotLayout,
      Full s.splitPending.2 s.framesPerHardwareTrigger.toNat camera.1 := by
    intro camera hc
    have hid := (List.of_mem_zip hc).1
    refine ⟨_, splitBursts_snapshot hnodup hid, ?_⟩
    rw [List.length_take]
    exact Nat.le_min.mpr ⟨Nat.le_refl _, Nat.not_lt.mp (hall camera.1 hid)⟩
  rw [← listing_snapshot hnodup] at hgood
  obtain ⟨w, out, he, hw, hcovers⟩ := RingWriter.writeMultiCaptureToShmLocked_ok
    (s := ⟨s.shm, sNext⟩) hr s.awaitingClientCaptureId s.awaitingWithRec hne hlen hk' hfull hgood hseq
  refine ⟨w, out, publishes_of_written hne hnodup hlen hk' hfull hw hcovers, ?_⟩
  rw [State.completeCapture, writeSnapshot, he]
  rfl

/-- What a camera callback does to a sound state. -/
inductive Delivers (s : State) (sNext : UInt32) (mid : String) (fb : FrameBuffer) :
    State × UInt32 → Prop
  | dropped (h : s.awaitingFrame = false ∨ mid ∉ s.sessionDevicesOrdered) :
    Delivers s sNext mid fb (s, sNext)
  | kept (hw : s.awaitingFrame = true) (hm : mid ∈ s.sessionDevicesOrdered)
    (hc : (s.pushFrame mid fb).burstsComplete = false) :
    Delivers s sNext mid fb (s.pushFrame mid fb, sNext)
  | published (hw : s.awaitingFrame = true) (hm : mid ∈ s.sessionDevicesOrdered)
    (hc : (s.pushFrame mid fb).burstsComplete = true) {w : RingWriter} {out : CapturePublication}
    (hp : (s.pushFrame mid fb).Publishes sNext w out) :
    Delivers s sNext mid fb ((s.pushFrame mid fb).published w.shm out, w.sNext)
  | unpublished (hw : s.awaitingFrame = true) (hm : mid ∈ s.sessionDevicesOrdered)
    (hc : (s.pushFrame mid fb).burstsComplete = true) {w s₁ : RingWriter} {ps : List Published}
    (hps : RingWriter.Writes ⟨s.shm, sNext⟩ ps s₁) (hshm : w.shm = s₁.shm)
    (hle : ps.length ≤ s.writeCount) (err : String) :
    Delivers s sNext mid fb ((s.pushFrame mid fb).unpublished w.shm err, w.sNext)

theorem Sound.nodup {s : State} (h : s.Sound) (he : s.Established) :
    s.sessionDevicesOrdered.Nodup := by
  rw [he.devices]
  exact h.presets_nodup

theorem Sound.delivers {s : State} (h : s.Sound) (sNext : UInt32) (mid : String) (fb : FrameBuffer) :
    s.Delivers sNext mid fb (s.onCameraFrame sNext mid fb) := by
  rcases s.onCameraFrame_cases sNext mid fb with ⟨heq, hdrop⟩ | ⟨hw, hm, ⟨hc, heq⟩ | ⟨hc, heq⟩⟩
  · rw [heq]
    exact .dropped hdrop
  · rw [heq]
    exact .kept hw hm hc
  · have he := h.of_awaiting hw
    rw [heq]
    rcases completeCapture_cases (s := s.pushFrame mid fb) (h.ring he.presets)
      (List.ne_nil_of_mem hm) (h.nodup he) sNext with
      ⟨w, out, hp, hcomplete⟩ | ⟨w, s₁, err, ps, hps, hshm, hle, hcomplete⟩
    · rw [hcomplete]
      exact .published hw hm hc hp
    · rw [hcomplete]
      exact .unpublished hw hm hc hps hshm hle err

end State
end Camera3D.Hub
