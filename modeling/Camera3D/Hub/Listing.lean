import Camera3D.Hub.Writes

/-! What `WriteMultiCaptureToShmLocked` publishes: one entry for each frame it was asked to list. -/
namespace Camera3D.Hub
open Camera Ipc

/-- A frame to be listed: the metadata of its camera and its place in the burst. -/
structure Listed where
  layout : CameraRawShmSlot
  burstFrameIndex : UInt32
  frame : FrameBuffer

def listBurst (layout : CameraRawShmSlot) : UInt32 → List FrameBuffer → List Listed
  | _, [] => []
  | j, raw :: frames => ⟨layout, j, raw⟩ :: listBurst layout (j + 1) frames

/-- The frames of a capture in camera-major order, `framesPer` of each camera. -/
def listing (burstsById : Bursts) (framesPer : ℕ) : List (String × CameraRawShmSlot) → List Listed
  | [] => []
  | camera :: cameras =>
    listBurst camera.2 0 (((burstsById.lookup camera.1).getD []).take framesPer) ++
      listing burstsById framesPer cameras

/-- An entry describes a listed frame: its camera, its place and its size. -/
def CameraRawShmSlot.Describes (e : CameraRawShmSlot) (l : Listed) : Prop :=
  e = { l.layout with
    burstFrameIndex := l.burstFrameIndex
    rawSlot := e.rawSlot
    rawSeq := e.rawSeq
    w := l.frame.width
    h := l.frame.height
    fmt := l.frame.pixelFormat
    payloadOff := e.payloadOff
    payloadSize := e.payloadSize
    frame := l.frame }

def CameraRawShmSlot.published (e : CameraRawShmSlot) : Published := ⟨e.frame, e.rawSeq, e.rawSlot⟩

theorem CameraRawShmSlot.Describes.frame_eq {e : CameraRawShmSlot} {l : Listed}
    (h : e.Describes l) : e.frame = l.frame := by
  rw [h]

@[simp] theorem length_listBurst (layout : CameraRawShmSlot) (j : UInt32) (frames : List FrameBuffer) :
    (listBurst layout j frames).length = frames.length := by
  induction frames generalizing j with
  | nil => rfl
  | cons raw frames ih => rw [listBurst, List.length_cons, ih, List.length_cons]

theorem frames_listBurst (layout : CameraRawShmSlot) (j : UInt32) (frames : List FrameBuffer) :
    (listBurst layout j frames).map Listed.frame = frames := by
  induction frames generalizing j with
  | nil => rfl
  | cons raw frames ih => rw [listBurst, List.map_cons, ih]

/-- A camera has delivered enough frames. -/
def Full (burstsById : Bursts) (framesPer : ℕ) (id : String) : Prop :=
  ∃ vec, burstsById.lookup id = some vec ∧ framesPer ≤ vec.length

/-- A frame that the loop cannot publish: it is empty, or does not fit a slot. -/
def Unwritable (capacity : ℕ) (fb : FrameBuffer) : Prop :=
  fb.bytes = [] ∨ capacity < fb.bytes.length

instance (capacity : ℕ) (fb : FrameBuffer) : Decidable (Unwritable capacity fb) :=
  inferInstanceAs (Decidable (_ ∨ _))

/-- The frame that stands for a reconstruction result: the first one listed. -/
def firstListed (burstsById : Bursts) (devices : List String) : FrameBuffer :=
  ((burstsById.lookup (devices.headD "")).getD []).headD {}

theorem listing_head {burstsById : Bursts} {framesPer : ℕ} {devices : List String}
    {layout : List CameraRawShmSlot} (hne : devices ≠ []) (hlen : layout.length = devices.length)
    (hk : framesPer ≠ 0)
    (hfull : ∀ camera ∈ devices.zip layout, Full burstsById framesPer camera.1) :
    ∃ l rest, listing burstsById framesPer (devices.zip layout) = l :: rest ∧
      l.frame = firstListed burstsById devices := by
  cases devices with
  | nil => exact absurd rfl hne
  | cons id ids =>
    cases layout with
    | nil => cases hlen
    | cons slot layout =>
      obtain ⟨vec, hvec, hle⟩ := hfull (id, slot) List.mem_cons_self
      have hlook : (burstsById.lookup id).getD [] = vec := by
        rw [hvec, Option.getD_some]
      cases vec with
      | nil => exact absurd (Nat.le_zero.mp hle) hk
      | cons raw frames =>
        obtain ⟨k, rfl⟩ := Nat.exists_eq_succ_of_ne_zero hk
        rw [List.zip_cons_cons, listing, hlook, List.take_succ_cons, listBurst, List.cons_append]
        refine ⟨_, _, rfl, ?_⟩
        rw [firstListed, List.headD_cons, hlook, List.headD_cons]

/-- The slots that a publication names. -/
def CapturePublication.slots (out : CapturePublication) : List UInt32 :=
  out.cameraRawSlots.map CameraRawShmSlot.rawSlot ++ if out.hasFinal then [out.finSlot] else []

/-- The frames that a publication names. -/
def CapturePublication.frames (out : CapturePublication) (firstFb : FrameBuffer) : List Published :=
  out.cameraRawSlots.map CameraRawShmSlot.published ++
    if out.hasFinal then [⟨firstFb, out.finSeq, out.finSlot⟩] else []

theorem CapturePublication.slots_eq (out : CapturePublication) (firstFb : FrameBuffer) :
    out.slots = (out.frames firstFb).map Published.slot := by
  unfold slots frames
  split_ifs
  · rw [List.map_append, List.map_map]
    rfl
  · rw [List.append_nil, List.append_nil, List.map_map]
    rfl

/-- The frames that a publication names; the final one repeats the first. -/
def CapturePublication.named (out : CapturePublication) : List Published :=
  out.frames (out.cameraRawSlots.headD {}).frame

theorem CapturePublication.mem_frames {out : CapturePublication} {e : CameraRawShmSlot}
    (he : e ∈ out.cameraRawSlots) (firstFb : FrameBuffer) : e.published ∈ out.frames firstFb :=
  List.mem_append_left _ (List.mem_map_of_mem he)

/-- A publication of the listed frames. -/
structure CapturePublication.Covers (out : CapturePublication) (listed : List Listed)
    (withRec : Bool) : Prop where
  entries : List.Forall₂ CameraRawShmSlot.Describes out.cameraRawSlots listed
  hasInter : out.hasInter = false
  hasFinal : out.hasFinal = withRec
  first : ∀ e ∈ out.cameraRawSlots.head?, out.rawSlot = e.rawSlot ∧ out.rawSeq = e.rawSeq

theorem CapturePublication.Covers.frames_eq {out : CapturePublication} {listed : List Listed}
    {withRec : Bool} (h : out.Covers listed withRec) :
    out.cameraRawSlots.map CameraRawShmSlot.frame = listed.map Listed.frame := by
  have heq : List.Forall₂ Eq (out.cameraRawSlots.map CameraRawShmSlot.frame)
      (listed.map Listed.frame) := by
    rw [List.forall₂_map_left_iff, List.forall₂_map_right_iff]
    exact h.entries.imp fun e l hd => hd.frame_eq
  rwa [List.forall₂_eq_eq_eq] at heq

theorem withFirst_covers (clientId : UInt64) {slots : List CameraRawShmSlot} {listed : List Listed}
    (hall : List.Forall₂ CameraRawShmSlot.Describes slots listed) :
    (RingWriter.withFirst { clientCaptureId := clientId, cameraRawSlots := slots }).Covers listed false ∧
      (RingWriter.withFirst { clientCaptureId := clientId, cameraRawSlots := slots }).cameraRawSlots =
        slots := by
  unfold RingWriter.withFirst
  cases slots with
  | nil => exact ⟨⟨hall, rfl, rfl, fun e he => by cases he⟩, rfl⟩
  | cons first slots =>
    refine ⟨⟨hall, rfl, rfl, ?_⟩, rfl⟩
    intro e he
    obtain rfl := Option.some.inj he
    exact ⟨rfl, rfl⟩

theorem CapturePublication.Covers.frames_firstListed {out : CapturePublication} {burstsById : Bursts}
    {framesPer : ℕ} {devices : List String} {layout : List CameraRawShmSlot} {withRec : Bool}
    (h : out.Covers (listing burstsById framesPer (devices.zip layout)) withRec)
    (hne : devices ≠ []) (hlen : layout.length = devices.length) (hk : framesPer ≠ 0)
    (hfull : ∀ camera ∈ devices.zip layout, Full burstsById framesPer camera.1) :
    out.frames (firstListed burstsById devices) = out.named := by
  obtain ⟨l, rest, hlist, hfirst⟩ := listing_head hne hlen hk hfull
  have hheads := h.frames_eq
  rw [hlist, List.map_cons, hfirst] at hheads
  have hhead : (out.cameraRawSlots.headD {}).frame = firstListed burstsById devices := by
    cases hslots : out.cameraRawSlots with
    | nil =>
      rw [hslots] at hheads
      cases hheads
    | cons e slots =>
      rw [hslots] at hheads
      exact (List.cons.inj hheads).1
  rw [named, hhead]

namespace RingWriter

/-- A write loop that stopped early: some of the frames are in the ring, and one was bad, or a slot
was written for the `2 ^ 64`-th time, or a camera had too few frames. -/
structure Stopped (s : RingWriter) (frames : List FrameBuffer) (short : Prop) (s' : RingWriter)
    (ps : List Published) (s₁ : RingWriter) : Prop where
  writes : s.Writes ps s₁
  shm_eq : s'.shm = s₁.shm
  length_le : ps.length ≤ frames.length
  reason : short ∨ (∃ fb ∈ frames, Unwritable s.shm.capacity fb) ∨ ∃ p ∈ ps, p.seq = 0

theorem Stopped.append {s s' s'' s₁ : RingWriter} {frames frames' : List FrameBuffer} {short : Prop}
    {ps qs : List Published} (hw : s.Writes ps s') (hlen : ps.length ≤ frames.length)
    (h : s'.Stopped frames' short s'' qs s₁) :
    s.Stopped (frames ++ frames') short s'' (ps ++ qs) s₁ where
  writes := hw.append h.writes
  shm_eq := h.shm_eq
  length_le := by
    rw [List.length_append, List.length_append]
    exact Nat.add_le_add hlen h.length_le
  reason := by
    have hcap := hw.capacity_eq
    rcases h.reason with hs | ⟨fb, hfb, hbad⟩ | ⟨p, hp, hseq⟩
    · exact .inl hs
    · exact .inr (.inl ⟨fb, List.mem_append_right _ hfb, hcap ▸ hbad⟩)
    · exact .inr (.inr ⟨p, List.mem_append_right _ hp, hseq⟩)

theorem Stopped.frames_append {s s' s₁ : RingWriter} {frames : List FrameBuffer} {short : Prop}
    {ps : List Published} (h : s.Stopped frames short s' ps s₁) (frames' : List FrameBuffer) :
    s.Stopped (frames ++ frames') short s' ps s₁ where
  writes := h.writes
  shm_eq := h.shm_eq
  length_le := Nat.le_trans h.length_le (List.length_append ▸ Nat.le_add_right _ _)
  reason := h.reason.imp_right fun hr => hr.imp_left fun ⟨fb, hfb, hbad⟩ =>
    ⟨fb, List.mem_append_left _ hfb, hbad⟩

theorem Stopped.mono {s s' s₁ : RingWriter} {frames : List FrameBuffer} {short short' : Prop}
    {ps : List Published} (h : s.Stopped frames short s' ps s₁) (hs : short → short') :
    s.Stopped frames short' s' ps s₁ :=
  ⟨h.writes, h.shm_eq, h.length_le, h.reason.imp_left hs⟩

theorem writeFrame_cases {s : RingWriter} (hr : HubRing s.shm) (layout : CameraRawShmSlot)
    (mid : String) (j : UInt32) (raw : FrameBuffer) :
    (∃ s' e, s.writeFrame layout mid j raw = (s', .ok e) ∧ s.Wrote e.published s' ∧
      e.Describes ⟨layout, j, raw⟩ ∧ raw.bytes ≠ []) ∨
    ∃ s' err ps s₁, s.writeFrame layout mid j raw = (s', .error err) ∧
      s.Stopped [raw] False s' ps s₁ := by
  unfold writeFrame
  rcases tryWriteNextSlot_cases hr raw with ⟨he, hbig⟩ | ⟨s', seq, slot, he, hw⟩
  · right
    rw [he]
    refine ⟨_, _, [], s, rfl, .nil s, rfl, Nat.zero_le _, .inr (.inl ⟨raw, ?_, .inr hbig⟩)⟩
    exact List.mem_singleton.mpr rfl
  · have hlt : slot.toNat < 64 := by
      have hslot : slot.toNat = s.sNext.toNat % 64 := hw.slot_eq
      omega
    have hself : s'.shm.cell slot = ⟨seq, frameImage raw⟩ := hw.self
    rw [he]
    dsimp only
    rcases hw.ring.tryReadSlot_cases hlt with ⟨hnone, hzero⟩ | ⟨v, hsome, _, hbytes, _⟩
    · right
      rw [hnone]
      refine ⟨s', _, [⟨raw, seq, slot⟩], s', rfl, .cons hw (.nil s'), rfl, Nat.le_refl _, .inr ?_⟩
      rw [hself] at hzero
      cases hzero with
      | inl hseq => exact .inr ⟨_, List.mem_singleton.mpr rfl, hseq⟩
      | inr hempty => exact .inl ⟨raw, List.mem_singleton.mpr rfl, .inl hempty⟩
    · left
      rw [hsome]
      refine ⟨s', _, rfl, hw, rfl, ?_⟩
      rw [hself] at hbytes
      exact hbytes

theorem writeBurst_cases {s : RingWriter} (hr : HubRing s.shm) (layout : CameraRawShmSlot)
    (mid : String) (j : UInt32) (frames : List FrameBuffer) :
    (∃ s' slots, s.writeBurst layout mid j frames = (s', .ok slots) ∧
      s.Writes (slots.map CameraRawShmSlot.published) s' ∧
      List.Forall₂ CameraRawShmSlot.Describes slots (listBurst layout j frames)) ∨
    ∃ s' err ps s₁, s.writeBurst layout mid j frames = (s', .error err) ∧
      s.Stopped frames False s' ps s₁ := by
  induction frames generalizing s j with
  | nil => exact .inl ⟨s, [], rfl, .nil s, .nil⟩
  | cons raw frames ih =>
    unfold writeBurst
    rcases writeFrame_cases hr layout mid j raw with
      ⟨s', e, he, hw, hdesc, _⟩ | ⟨s', err, ps, s₁, he, hstop⟩
    · rw [he]
      dsimp only
      rcases ih hw.ring (j + 1) with ⟨s'', slots, hrest, hws, hall⟩ | ⟨s'', err, ps, s₁, hrest, hstop⟩
      · left
        rw [hrest]
        exact ⟨s'', e :: slots, rfl, .cons hw hws, .cons hdesc hall⟩
      · right
        rw [hrest]
        have hlen : [e.published].length ≤ [raw].length := Nat.le_refl _
        exact ⟨s'', err, _, s₁, rfl, Stopped.append (.cons hw (.nil s')) hlen hstop⟩
    · right
      rw [he]
      exact ⟨s', err, ps, s₁, rfl, hstop.frames_append frames⟩

theorem writeCameras_of_not_full (s : RingWriter) {burstsById : Bursts} {framesPer : UInt32}
    {camera : String × CameraRawShmSlot} (hfew : ¬ Full burstsById framesPer.toNat camera.1)
    (cameras : List (String × CameraRawShmSlot)) :
    ∃ err, s.writeCameras burstsById framesPer (camera :: cameras) = (s, .error err) := by
  unfold writeCameras
  cases hlook : burstsById.lookup camera.1 with
  | none => exact ⟨_, rfl⟩
  | some vec =>
    have hlt : vec.length < framesPer.toNat :=
      Nat.not_le.mp fun hle => hfew ⟨vec, hlook, hle⟩
    exact ⟨_, if_pos hlt⟩

theorem writeCameras_of_full (s : RingWriter) {burstsById : Bursts} {framesPer : UInt32}
    {camera : String × CameraRawShmSlot} {vec : List FrameBuffer}
    (hlook : burstsById.lookup camera.1 = some vec) (hle : framesPer.toNat ≤ vec.length)
    (cameras : List (String × CameraRawShmSlot)) :
    s.writeCameras burstsById framesPer (camera :: cameras) =
      match s.writeBurst camera.2 camera.1 0 (vec.take framesPer.toNat) with
      | (s, .error err) => (s, .error err)
      | (s, .ok slots) =>
        let (s, slots') := writeCameras s burstsById framesPer cameras
        (s, slots'.map (slots ++ ·)) := by
  conv_lhs => unfold writeCameras
  rw [hlook]
  exact if_neg (Nat.not_lt.mpr hle)

theorem writeCameras_cases {s : RingWriter} (hr : HubRing s.shm) (burstsById : Bursts)
    (framesPer : UInt32) (cameras : List (String × CameraRawShmSlot)) :
    (∃ s' slots, s.writeCameras burstsById framesPer cameras = (s', .ok slots) ∧
      s.Writes (slots.map CameraRawShmSlot.published) s' ∧
      List.Forall₂ CameraRawShmSlot.Describes slots (listing burstsById framesPer.toNat cameras) ∧
      ∀ camera ∈ cameras, Full burstsById framesPer.toNat camera.1) ∨
    ∃ s' err ps s₁, s.writeCameras burstsById framesPer cameras = (s', .error err) ∧
      s.Stopped ((listing burstsById framesPer.toNat cameras).map Listed.frame)
        (¬ ∀ camera ∈ cameras, Full burstsById framesPer.toNat camera.1) s' ps s₁ := by
  induction cameras generalizing s with
  | nil => exact .inl ⟨s, [], rfl, .nil s, .nil, fun _ h => absurd h List.not_mem_nil⟩
  | cons camera cameras ih =>
    by_cases hfull : Full burstsById framesPer.toNat camera.1
    case neg =>
      obtain ⟨err, he⟩ := writeCameras_of_not_full s hfull cameras
      exact .inr ⟨s, err, [], s, he, .nil s, rfl, Nat.zero_le _,
        .inl fun hall => hfull (hall camera List.mem_cons_self)⟩
    case pos =>
      obtain ⟨vec, hlook, hle⟩ := hfull
      have hlist : listing burstsById framesPer.toNat (camera :: cameras) =
          listBurst camera.2 0 (vec.take framesPer.toNat) ++
            listing burstsById framesPer.toNat cameras := by
        rw [listing, hlook, Option.getD_some]
      rw [writeCameras_of_full s hlook hle, hlist, List.map_append, frames_listBurst]
      rcases writeBurst_cases hr camera.2 camera.1 0 (vec.take framesPer.toNat) with
        ⟨s', slots, he, hw, hall⟩ | ⟨s', err, ps, s₁, he, hstop⟩
      · rw [he]
        dsimp only
        rcases ih (hw.ring hr) with
          ⟨s'', slots', hrest, hws, hall', hfulls⟩ | ⟨s'', err, ps, s₁, hrest, hstop⟩
        · left
          rw [hrest]
          refine ⟨s'', slots ++ slots', rfl, ?_, List.rel_append hall hall', ?_⟩
          · rw [List.map_append]
            exact hw.append hws
          · intro c hc
            rcases List.mem_cons.mp hc with rfl | hc
            · exact ⟨vec, hlook, hle⟩
            · exact hfulls c hc
        · right
          rw [hrest]
          have hlen : (slots.map CameraRawShmSlot.published).length ≤
              (vec.take framesPer.toNat).length := by
            rw [List.length_map, hall.length_eq, length_listBurst]
          exact ⟨s'', err, _, s₁, rfl, (Stopped.append hw hlen hstop).mono
            fun hfew h => hfew fun c hc => h c (List.mem_cons_of_mem _ hc)⟩
      · right
        rw [he]
        exact ⟨s', err, ps, s₁, rfl, (hstop.frames_append _).mono False.elim⟩

/-- The placeholder of the reconstruction result is one more write of the first frame. -/
theorem writeFinal_cases {s : RingWriter} (hr : HubRing s.shm) (firstFb : FrameBuffer)
    (out : CapturePublication) :
    (∃ s' seq slot, s.writeFinal firstFb out =
        (s', .ok { out with hasFinal := true, finSlot := slot, finSeq := seq }) ∧
      s.Wrote ⟨firstFb, seq, slot⟩ s') ∨
    ∃ s' err, s.writeFinal firstFb out = (s', .error err) ∧ s.Stopped [firstFb] False s' [] s := by
  unfold writeFinal
  rcases tryWriteNextSlot_cases hr firstFb with ⟨he, hbig⟩ | ⟨s', seq, slot, he, hw⟩
  · right
    rw [he]
    exact ⟨_, _, rfl, .nil s, rfl, Nat.zero_le _,
      .inr (.inl ⟨firstFb, List.mem_singleton.mpr rfl, .inr hbig⟩)⟩
  · left
    rw [he]
    exact ⟨s', seq, slot, rfl, hw⟩

/-- A whole capture: what is published, or how far the writing came. -/
theorem writeMultiCaptureToShmLocked_cases {s : RingWriter} (hr : HubRing s.shm)
    (devices : List String) (layout : List CameraRawShmSlot) (clientId : UInt64)
    (burstsById : Bursts) (framesPer : UInt32) (withRec : Bool) :
    (∃ s' out, s.writeMultiCaptureToShmLocked devices layout clientId burstsById framesPer withRec =
        (s', .ok out) ∧
      s.Writes (out.frames (firstListed burstsById devices)) s' ∧
      out.Covers (listing burstsById framesPer.toNat (devices.zip layout)) withRec ∧
      layout.length = devices.length ∧ framesPer ≠ 0 ∧
      ∀ camera ∈ devices.zip layout, Full burstsById framesPer.toNat camera.1) ∨
    ∃ s' err ps s₁,
      s.writeMultiCaptureToShmLocked devices layout clientId burstsById framesPer withRec =
        (s', .error err) ∧
      s.Stopped ((listing burstsById framesPer.toNat (devices.zip layout)).map Listed.frame ++
          if withRec then [firstListed burstsById devices] else [])
        (layout.length ≠ devices.length ∨ framesPer = 0 ∨
          ¬ ∀ camera ∈ devices.zip layout, Full burstsById framesPer.toNat camera.1) s' ps s₁ := by
  unfold writeMultiCaptureToShmLocked
  by_cases hlen : layout.length ≠ devices.length
  · right
    rw [if_pos hlen]
    exact ⟨s, _, [], s, rfl, .nil s, rfl, Nat.zero_le _, .inl (.inl hlen)⟩
  by_cases hk : framesPer = 0
  · right
    rw [if_neg hlen, if_pos hk]
    exact ⟨s, _, [], s, rfl, .nil s, rfl, Nat.zero_le _, .inl (.inr (.inl hk))⟩
  rw [if_neg hlen, if_neg hk]
  rcases writeCameras_cases hr burstsById framesPer (devices.zip layout) with
    ⟨s', slots, he, hw, hall, hfull⟩ | ⟨s', err, ps, s₁, he, hstop⟩
  · rw [he]
    dsimp only
    obtain ⟨hcovers, hslots⟩ := withFirst_covers clientId hall
    cases withRec with
    | false =>
      left
      refine ⟨s', _, rfl, ?_, hcovers, not_not.mp hlen, hk, hfull⟩
      rw [CapturePublication.frames, hcovers.hasFinal, hslots]
      simpa using hw
    | true =>
      rw [if_pos rfl]
      -- The function looks the first frame up once more.
      change (∃ s'' out, s'.writeFinal (firstListed burstsById devices) _ = (s'', .ok out) ∧ _) ∨
        ∃ s'' err ps s₁, s'.writeFinal (firstListed burstsById devices) _ = (s'', .error err) ∧ _
      rcases writeFinal_cases (hw.ring hr) (firstListed burstsById devices)
          (withFirst { clientCaptureId := clientId, cameraRawSlots := slots }) with
        ⟨s'', seq, slot, hfin, hwf⟩ | ⟨s'', err, hfin, hstop⟩
      · left
        refine ⟨s'', _, hfin, ?_, ⟨hcovers.entries, hcovers.hasInter, rfl, hcovers.first⟩,
          not_not.mp hlen, hk, hfull⟩
        rw [CapturePublication.frames, if_pos rfl, hslots]
        exact hw.append (.cons hwf (.nil s''))
      · right
        have hlen' : (slots.map CameraRawShmSlot.published).length ≤
            ((listing burstsById framesPer.toNat (devices.zip layout)).map Listed.frame).length := by
          rw [List.length_map, List.length_map, hall.length_eq]
        exact ⟨s'', err, _, s', hfin, (Stopped.append hw hlen' hstop).mono False.elim⟩
  · right
    rw [he]
    exact ⟨s', err, ps, s₁, rfl, (hstop.frames_append _).mono fun h => .inr (.inr h)⟩

end RingWriter
/-- At the moment a capture is reported as published, its slots are distinct and each still holds
the frame it is listed for. -/
structure CapturePublication.Intact (out : CapturePublication) (shm : ShmRingBuffer)
    (listed : List Listed) : Prop where
  distinct : out.slots.Nodup
  raw : List.Forall₂ (fun e l => shm.cell e.rawSlot = ⟨e.rawSeq, frameImage l.frame⟩)
    out.cameraRawSlots listed
  fin : out.hasFinal = true → ∀ l ∈ listed.head?,
    shm.cell out.finSlot = ⟨out.finSeq, frameImage l.frame⟩

theorem length_listing {burstsById : Bursts} {framesPer : ℕ}
    {cameras : List (String × CameraRawShmSlot)}
    (hfull : ∀ camera ∈ cameras, Full burstsById framesPer camera.1) :
    (listing burstsById framesPer cameras).length = cameras.length * framesPer := by
  induction cameras with
  | nil => rw [listing, List.length_nil, List.length_nil, Nat.zero_mul]
  | cons camera cameras ih =>
    obtain ⟨vec, hvec, hle⟩ := hfull camera List.mem_cons_self
    rw [listing, List.length_append, length_listBurst, hvec, Option.getD_some, List.length_take,
      Nat.min_eq_left hle, ih fun c hc => hfull c (List.mem_cons_of_mem _ hc), List.length_cons,
      Nat.add_one_mul, Nat.add_comm]

/-- The number of frames a capture writes. -/
def writeCount (devices : List String) (framesPer : UInt32) (withRec : Bool) : ℕ :=
  devices.length * framesPer.toNat + withRec.toNat

theorem length_listing_zip {burstsById : Bursts} {framesPer : UInt32} {devices : List String}
    {layout : List CameraRawShmSlot} (hlen : layout.length = devices.length)
    (hfull : ∀ camera ∈ devices.zip layout, Full burstsById framesPer.toNat camera.1) :
    (listing burstsById framesPer.toNat (devices.zip layout)).length =
      devices.length * framesPer.toNat := by
  rw [length_listing hfull, List.length_zip, hlen, Nat.min_self]

theorem CapturePublication.Covers.length_frames {out : CapturePublication} {listed : List Listed}
    {withRec : Bool} (h : out.Covers listed withRec) (firstFb : FrameBuffer) :
    (out.frames firstFb).length = listed.length + withRec.toNat := by
  rw [frames, h.hasFinal, List.length_append, List.length_map, h.entries.length_eq]
  cases withRec with
  | false => rfl
  | true => rfl

namespace RingWriter

/-- A capture of writable frames is published, unless a slot's number comes round to 0. -/
theorem writeMultiCaptureToShmLocked_ok {s : RingWriter} (hr : HubRing s.shm)
    {devices : List String} {layout : List CameraRawShmSlot} (clientId : UInt64)
    {burstsById : Bursts} {framesPer : UInt32} (withRec : Bool)
    (hdevices : devices ≠ []) (hlen : layout.length = devices.length) (hk : framesPer ≠ 0)
    (hfull : ∀ camera ∈ devices.zip layout, Full burstsById framesPer.toNat camera.1)
    (hgood : ∀ l ∈ listing burstsById framesPer.toNat (devices.zip layout),
      ¬ Unwritable s.shm.capacity l.frame)
    (hseq : ∀ ps s', s.Writes ps s' → ps.length ≤ writeCount devices framesPer withRec →
      ∀ p ∈ ps, p.seq ≠ 0) :
    ∃ s' out, s.writeMultiCaptureToShmLocked devices layout clientId burstsById framesPer withRec =
        (s', .ok out) ∧
      s.Writes (out.frames (firstListed burstsById devices)) s' ∧
      out.Covers (listing burstsById framesPer.toNat (devices.zip layout)) withRec := by
  rcases writeMultiCaptureToShmLocked_cases hr devices layout clientId burstsById framesPer withRec
    with ⟨s', out, he, hw, hcovers, _⟩ | ⟨s', err, ps, s₁, he, hstop⟩
  · exact ⟨s', out, he, hw, hcovers⟩
  · exfalso
    have hk' : framesPer.toNat ≠ 0 := fun h => hk (UInt32.toNat_inj.mp h)
    obtain ⟨l, rest, hlist, hfirst⟩ := listing_head hdevices hlen hk' hfull
    have hl : l ∈ listing burstsById framesPer.toNat (devices.zip layout) := by
      rw [hlist]
      exact List.mem_cons_self
    rcases hstop.reason with hshort | ⟨fb, hfb, hbad⟩ | ⟨p, hp, hzero⟩
    · rcases hshort with hne | hzero | hfew
      · exact hne hlen
      · exact hk hzero
      · exact hfew hfull
    · rcases List.mem_append.mp hfb with hfb | hfb
      · obtain ⟨l', hl', rfl⟩ := List.mem_map.mp hfb
        exact hgood l' hl' hbad
      · cases withRec with
        | false => cases hfb
        | true =>
          rw [List.mem_singleton.mp hfb, ← hfirst] at hbad
          exact hgood l hl hbad
    · refine hseq ps s₁ hstop.writes ?_ p hp hzero
      refine Nat.le_trans hstop.length_le (Nat.le_of_eq ?_)
      rw [List.length_append, List.length_map, length_listing_zip hlen hfull, writeCount]
      cases withRec with
      | false => rfl
      | true => rfl

/-- A capture that is reported as published has not overwritten itself exactly when the ring has a
slot for each of its frames. -/
theorem intact_iff {s s' : RingWriter} (hr : HubRing s.shm) {devices : List String}
    (hdevices : devices ≠ []) {layout : List CameraRawShmSlot} {clientId : UInt64}
    {burstsById : Bursts} {framesPer : UInt32} {withRec : Bool} {out : CapturePublication}
    (hok : s.writeMultiCaptureToShmLocked devices layout clientId burstsById framesPer withRec =
      (s', .ok out)) :
    out.Intact s'.shm (listing burstsById framesPer.toNat (devices.zip layout)) ↔
      devices.length * framesPer.toNat + withRec.toNat ≤ 64 := by
  rcases writeMultiCaptureToShmLocked_cases hr devices layout clientId burstsById framesPer withRec
    with ⟨w, out', he, hw, hcovers, hlen, hk, hfull⟩ | ⟨w, err, _, _, he, _⟩
  · obtain ⟨rfl, hout⟩ := Prod.mk.inj (hok.symm.trans he)
    obtain rfl := Except.ok.inj hout
    have hcount : (out.frames (firstListed burstsById devices)).length =
        devices.length * framesPer.toNat + withRec.toNat := by
      rw [hcovers.length_frames, length_listing_zip hlen hfull]
    rw [← hcount, ← hw.nodup_iff, ← out.slots_eq]
    constructor
    · intro h
      exact h.distinct
    · intro hnodup
      have hlive : ∀ p ∈ out.frames (firstListed burstsById devices), s'.shm.cell p.slot = p.cell :=
        fun p hp => hw.live (out.slots_eq _ ▸ hnodup) hp
      obtain ⟨hlength, hdesc⟩ := List.forall₂_iff_zip.mp hcovers.entries
      refine ⟨hnodup, List.forall₂_iff_zip.mpr ⟨hlength, ?_⟩, ?_⟩
      · intro e l hel
        have hcell := hlive _ (out.mem_frames (List.of_mem_zip hel).1 _)
        rw [← (hdesc hel).frame_eq]
        exact hcell
      · intro hfin l hl
        have hk' : framesPer.toNat ≠ 0 := fun h => hk (UInt32.toNat_inj.mp h)
        obtain ⟨l', rest, hlist, hframe⟩ := listing_head hdevices hlen hk' hfull
        rw [hlist] at hl
        obtain rfl := Option.some.inj hl
        rw [hframe]
        refine hlive ⟨firstListed burstsById devices, out.finSeq, out.finSlot⟩ ?_
        rw [CapturePublication.frames, if_pos hfin]
        exact List.mem_append_right _ (List.mem_singleton.mpr rfl)
  · rw [hok] at he
    cases (Prod.mk.inj he).2

/-- A ring as start-up creates it, and a thread that has not written yet. -/
def created : RingWriter :=
  ⟨(ShmRingBuffer.createOrOpen {} (.mapped zeroed) kDefaultHubRingRegionName true).1, 0⟩

theorem created_mapping : ∃ m, created.shm.mapping = some m ∧ m.Created := by
  have hok : (ShmRingBuffer.createOrOpen {} (.mapped zeroed) kDefaultHubRingRegionName
      true).2 = true := by decide
  obtain ⟨m, hm, hc⟩ := createOrOpen_created hok
  exact ⟨m, congrArg ShmRingBuffer.mapping hm, hc⟩

theorem created_hubRing : HubRing created.shm := by
  obtain ⟨m, hm, hc⟩ := created_mapping
  exact ⟨m, hm, hc.wellFormed, hc.slotCount_eq⟩

theorem created_cell {i : UInt32} (hi : i.toNat < 64) : created.shm.cell i = Mapping.emptyCell := by
  obtain ⟨m, hm, hc⟩ := created_mapping
  rw [ShmRingBuffer.cell, hm, Option.elim_some]
  exact hc.empty i hi

/-- A burst of `n` one-byte frames from one camera. -/
def burst (n : ℕ) : Bursts :=
  AList.singleton "cam-1" ((List.range n).map fun i => { bytes := [.ofNat i], width := 1, height := 1 })

/-- What a run of the loop came to, when a property of its publication was computed. -/
theorem exists_ok_of_map {r : RingWriter × Except String CapturePublication}
    {f : CapturePublication → Bool} {b : Bool} (h : (r.2.map f).toOption = some b) :
    ∃ s' out, r = (s', .ok out) ∧ f out = b := by
  rcases r with ⟨s', err | out⟩
  · cases h
  · exact ⟨s', out, rfl, Option.some.inj h⟩

theorem intact_iff_short_burst :
    ∃ s' out, created.writeMultiCaptureToShmLocked ["cam-1"] [{}] 1 (burst 2) 2 true = (s', .ok out) ∧
      (out.Intact s'.shm (listing (burst 2) (2 : UInt32).toNat (["cam-1"].zip [{}])) ↔
        ["cam-1"].length * (2 : UInt32).toNat + true.toNat ≤ 64) := by
  have hok : ((created.writeMultiCaptureToShmLocked ["cam-1"] [{}] 1 (burst 2) 2 true).2.map
      fun _ => true).toOption = some true := by
    decide +kernel
  obtain ⟨s', out, he, _⟩ := exists_ok_of_map hok
  exact ⟨s', out, he, intact_iff created_hubRing (by decide) he⟩

/-- 65 frames of one camera: the last one lands in the slot of the first. -/
theorem long_burst_overwrites_itself :
    ¬ ∀ (framesPer : UInt32) (s' : RingWriter) (out : CapturePublication),
      1 ≤ framesPer.toNat → framesPer.toNat ≤ 4096 →
      created.writeMultiCaptureToShmLocked ["cam-1"] [{}] 1 (burst 65) framesPer false =
        (s', .ok out) →
      out.Intact s'.shm (listing (burst 65) framesPer.toNat (["cam-1"].zip [{}])) := by
  intro hall
  have hfull : ∀ camera ∈ ["cam-1"].zip [({} : CameraRawShmSlot)],
      Full (burst 65) (65 : UInt32).toNat camera.1 := by
    intro camera hc
    rw [List.mem_singleton.mp hc]
    exact ⟨_, rfl, Nat.le_of_eq (by rw [List.length_map, List.length_range]; rfl)⟩
  have hgood : ∀ l ∈ listing (burst 65) (65 : UInt32).toNat (["cam-1"].zip [{}]),
      ¬ Unwritable created.shm.capacity l.frame := by
    decide +kernel
  have hseq : ∀ ps s', created.Writes ps s' → ps.length ≤ writeCount ["cam-1"] 65 false →
      ∀ p ∈ ps, p.seq ≠ 0 := by
    intro ps s' hw hle p hp
    refine hw.seq_ne_zero (fun i hi => ?_) hp
    have hle' : ps.length ≤ 65 := hle
    rw [created_cell hi]
    show (0 : UInt64).toNat + ps.length < 2 ^ 64
    rw [UInt64.toNat_zero]
    omega
  obtain ⟨s', out, he, hw, hcovers⟩ := writeMultiCaptureToShmLocked_ok created_hubRing 1 false
    (by decide) rfl (by decide) hfull hgood hseq
  have hdistinct := (hall 65 s' out (by decide) (by decide) he).distinct
  rw [out.slots_eq, hw.nodup_iff, hcovers.length_frames, length_listing_zip rfl hfull] at hdistinct
  revert hdistinct
  decide

end RingWriter
end Camera3D.Hub
