import Camera3D.Hub.LiveRefs
import Camera3D.Hub.Remembered
import Camera3D.Hub.RingCalls
import Camera3D.Ipc.Ranges
import Camera3D.Recon.Watcher
import Camera3D.Viewer.Population

/-! Consumers of a burst while the hub writes on: they hold offsets into slots that are reused, and
compare no numbers before they copy. -/
namespace Camera3D.Consumers
open Camera Serial Grpc Hub Ipc Memory Recon Sdk Viewer Transition

inductive Consumer where
  | watcher (b : Batch)
  | viewer (p : Population)

/-- An image that a consumer keeps, and what it keeps it under. -/
structure KeptImage where
  index : ℕ
  captureId : UInt64
  cameraIndex : UInt32
  burstFrameIndex : UInt32
  bytes : List UInt8
  deriving DecidableEq

namespace Consumer

/-- The item that the consumer is at; the earlier ones are copied or passed over. -/
def position : Consumer → ℕ
  | .watcher b => b.i
  | .viewer p => p.i

def next (rings : String → Mapping) (io : FileIo) : Consumer → Consumer
  | .watcher b => .watcher (b.next (rings b.region0) io)
  | .viewer p => .viewer (p.next rings io.opens)

def kept : Consumer → List KeptImage
  | .watcher b => b.files.map fun f =>
    ⟨f.index, f.captureKey, f.cameraIndex, f.burstFrameIndex, f.content⟩
  | .viewer p => (p.raws.zip p.hardwareRawFrames).zipIdx.map fun x =>
    ⟨x.2, p.clientCaptureId, x.1.1.cameraIndex, x.1.1.burstFrameIndex, x.1.2.data⟩

/-- The consumer has just been given the reply to its `GetDepth`. The viewer asks by the id that its
capture returned. -/
inductive Starts (request : DepthRequest) (reply : DepthReply) : Consumer → Prop
  | watcher (w : Watcher) (sessionId : String) (b : Batch) (hpc : w.pc = .polling sessionId)
    (hrequest : request = Watcher.depthRequest sessionId)
    (hsaving : (w.onDepth sessionId (.ok (some reply)) true true).pc = .saving sessionId b) :
    Starts request reply (.watcher b)
  | viewer (sdk : DeveloperCameraSdkGrpc) (id : UInt64) (raws : List BestCameraRawFrameItem)
    (shmRing : Bool) (shmRegionCached : String) (hid : id ≠ 0)
    (hrequest : .getDepth request ∈ (sdk.listDepthCameraRawFrames id (.ok reply)).sent)
    (hraws : (sdk.listDepthCameraRawFrames id (.ok reply)).result = some raws) :
    Starts request reply (.viewer { clientCaptureId := id, raws, shmRing, shmRegionCached })

end Consumer

/-- The threads that write rings, and a consumer at work. -/
structure Transfer (θ : Type*) where
  writers : Writers String θ
  consumer : Consumer

inductive TransferEvent (θ : Type*) where
  | write (c : Call String θ)
  | consume (io : FileIo)

/-- The ring still holds every raw frame of the publication. -/
def Intact (pub : CapturePublication) (shm : ShmRingBuffer) : Prop :=
  ∀ e ∈ pub.cameraRawSlots, e.rawSlot.toNat < 64 ∧ shm.cell e.rawSlot = e.published.cell

instance (pub : CapturePublication) (shm : ShmRingBuffer) : Decidable (Intact pub shm) :=
  inferInstanceAs (Decidable (∀ e ∈ _, _))

/-- The image is the frame that was published under its name. -/
def KeptImage.PublishedIn (img : KeptImage) (pub : CapturePublication) : Prop :=
  img.captureId = pub.clientCaptureId ∧ ∃ e, pub.cameraRawSlots[img.index]? = some e ∧
    img.cameraIndex = e.cameraIndex ∧ img.burstFrameIndex = e.burstFrameIndex ∧
    img.bytes = e.frame.bytes

namespace Transfer
variable {θ : Type*} [DecidableEq θ]

def step (t : Transfer θ) : TransferEvent θ → Transfer θ
  | .write c => { t with writers := t.writers.step c }
  | .consume io => { t with consumer := t.consumer.next t.writers.rings io }

/-- A call writes no slot of a frame that the consumer has not passed yet. -/
def Spares (pub : CapturePublication) (region : String) (t : Transfer θ) : TransferEvent θ → Prop
  | .write c => ∀ e ∈ pub.cameraRawSlots.drop t.consumer.position,
    t.writers.Leaves c region e.rawSlot
  | .consume _ => True

instance (pub : CapturePublication) (region : String) (t : Transfer θ) :
    ∀ e, Decidable (t.Spares pub region e)
  | .write _ => inferInstanceAs (Decidable (∀ e ∈ _, _))
  | .consume _ => isTrue trivial

end Transfer

/-- What the consumer holds of the reply that it works through. -/
def Consumer.Holds (refs : List CameraRawFrameRef) (captureId : UInt64) : Consumer → Prop
  | .watcher b => b.frames = refs ∧ b.captureKey = captureId ∧ b.region0 ≠ "" ∧
    ∀ payload len, b.payload = some (payload, len) → ∃ ref, refs[b.i]? = some ref ∧
      ref.frame.regionName = b.region0 ∧ payload = ref.frame.offsetBytes ∧ len = ref.frame.sizeBytes
  | .viewer p => p.raws = refs.map rawFrameItem ∧ p.clientCaptureId = captureId ∧
    p.hardwareRawFrames.length = p.i ∧
    ∀ payload len, p.payload = some (payload, len) → ∃ ref, refs[p.i]? = some ref ∧
      ref.frame.regionName = p.shmRegionCached ∧ ref.frame.regionName ≠ "" ∧
      payload = ref.frame.offsetBytes ∧ len = ref.frame.sizeBytes

/-- What one step does to the images: none is added, or the one of the item the consumer is at. -/
inductive Copies (rings : String → Mapping) (refs : List CameraRawFrameRef) (captureId : UInt64)
    (c c' : Consumer) : Prop
  | none (hpos : c.position ≤ c'.position) (hkept : c'.kept = c.kept)
  | image (ref : CameraRawFrameRef) (href : refs[c.position]? = some ref)
    (hregion : ref.frame.regionName ≠ "") (hpos : c'.position = c.position + 1)
    (hkept : ∀ img ∈ c'.kept, img ∈ c.kept ∨ img = ⟨c.position, captureId, ref.cameraIndex,
      ref.burstFrameIndex, read (rings ref.frame.regionName).bytes ref.frame.offsetBytes.toNat
        ref.frame.sizeBytes.toNat⟩)

section Steps
variable {rings : String → Mapping} {refs : List CameraRawFrameRef} {captureId : UInt64} {io : FileIo}

theorem batch_next {b : Batch} (h : (Consumer.watcher b).Holds refs captureId) :
    ((Consumer.watcher b).next rings io).Holds refs captureId ∧
      Copies rings refs captureId (.watcher b) ((Consumer.watcher b).next rings io) := by
  obtain ⟨hframes, hkey, hregion, hheld⟩ := h
  have hskip : (Consumer.watcher b.skip).Holds refs captureId ∧
      Copies rings refs captureId (.watcher b) (.watcher b.skip) := by
    refine ⟨⟨hframes, hkey, hregion, fun _ _ hp => by cases hp⟩, .none ?_ rfl⟩
    exact Nat.le_succ b.i
  show (Consumer.watcher (b.next (rings b.region0) io)).Holds refs captureId ∧
    Copies rings refs captureId (.watcher b) (.watcher (b.next (rings b.region0) io))
  unfold Batch.next
  cases hitem : b.frames[b.i]? with
  | none => exact ⟨⟨hframes, hkey, hregion, hheld⟩, .none (Nat.le_refl _) rfl⟩
  | some cref =>
    cases hpayload : b.payload with
    | none =>
      dsimp only
      split_ifs with hname
      · exact hskip
      · have hname := not_not.mp hname
        split
        case h_1 => exact hskip
        case h_2 payload len hrange =>
          split_ifs
          · exact hskip
          · refine ⟨⟨hframes, hkey, hregion, fun payload' len' hp => ?_⟩, .none (Nat.le_refl _) rfl⟩
            obtain ⟨rfl, rfl⟩ := Prod.mk.inj (Option.some.inj hp)
            obtain ⟨hoff, hsize⟩ := Mapping.eq_of_tryReadMappedRange hrange
            exact ⟨cref, hframes ▸ hitem, hname, hoff, hsize⟩
    | some range =>
      obtain ⟨payload, len⟩ := range
      dsimp only
      split_ifs
      · exact hskip
      · obtain ⟨ref, href, hname, rfl, rfl⟩ := hheld payload len hpayload
        have heq : cref = ref := by
          rw [hframes, href] at hitem
          exact (Option.some.inj hitem).symm
        subst heq
        refine ⟨⟨hframes, hkey, hregion, fun _ _ hp => by cases hp⟩, ?_⟩
        refine .image cref href (hname ▸ hregion) rfl fun img himg => ?_
        rcases List.mem_cons.mp himg with rfl | himg
        · right
          rw [hname, ← hkey]
          rfl
        · exact .inl himg

/-- An image that is pushed is the next one of the list. -/
theorem kept_push {p : Population} (hlen : p.hardwareRawFrames.length = p.i)
    {it : BestCameraRawFrameItem} (hitem : p.raws[p.i]? = some it) (data : List UInt8) :
    (Consumer.viewer (p.push it data)).kept = (Consumer.viewer p).kept ++
      [⟨p.i, p.clientCaptureId, it.cameraIndex, it.burstFrameIndex, data⟩] := by
  obtain ⟨hlt, hget⟩ := List.getElem?_eq_some_iff.mp hitem
  have hsplit : p.raws = p.raws.take p.i ++ it :: p.raws.drop (p.i + 1) := by
    rw [← hget, ← List.drop_eq_getElem_cons hlt, List.take_append_drop]
  have htake : (p.raws.take p.i).length = p.hardwareRawFrames.length := by
    rw [List.length_take, hlen]
    omega
  have hzip : ∀ image, p.raws.zip (p.hardwareRawFrames ++ [image]) =
      p.raws.zip p.hardwareRawFrames ++ [(it, image)] := by
    intro image
    have hold : p.raws.zip p.hardwareRawFrames = (p.raws.take p.i).zip p.hardwareRawFrames := by
      conv_lhs => rw [hsplit, ← List.append_nil p.hardwareRawFrames, List.zip_append htake]
      simp
    rw [hold]
    conv_lhs => rw [hsplit, List.zip_append htake]
    simp
  have hcount : (p.raws.zip p.hardwareRawFrames).length = p.i := by
    rw [List.length_zip, hlen]
    omega
  simp [Consumer.kept, Population.push, hzip, List.zipIdx_append, hcount]

theorem population_idle {p q : Population} (h : (Consumer.viewer p).Holds refs captureId)
    (hraws : q.raws = p.raws) (hid : q.clientCaptureId = p.clientCaptureId) (hi : q.i = p.i)
    (himages : q.hardwareRawFrames = p.hardwareRawFrames)
    (hheld : ∀ payload len, q.payload = some (payload, len) → ∃ ref, refs[p.i]? = some ref ∧
      ref.frame.regionName = q.shmRegionCached ∧ ref.frame.regionName ≠ "" ∧
      payload = ref.frame.offsetBytes ∧ len = ref.frame.sizeBytes) :
    (Consumer.viewer q).Holds refs captureId ∧
      Copies rings refs captureId (.viewer p) (.viewer q) := by
  obtain ⟨hraws', hid', hlen, _⟩ := h
  refine ⟨⟨hraws.trans hraws', hid.trans hid', ?_, ?_⟩, .none (Nat.le_of_eq hi.symm) ?_⟩
  · rw [himages, hi, hlen]
  · rw [hi]
    exact hheld
  · simp only [Consumer.kept, hraws, hid, himages]

theorem population_mapRange {p q : Population} (h : (Consumer.viewer p).Holds refs captureId)
    {ref : CameraRawFrameRef} (href : refs[p.i]? = some ref) (hname : ref.frame.regionName ≠ "")
    (hraws : q.raws = p.raws) (hid : q.clientCaptureId = p.clientCaptureId) (hi : q.i = p.i)
    (himages : q.hardwareRawFrames = p.hardwareRawFrames)
    (hcached : q.shmRegionCached = ref.frame.regionName) {ring : Mapping} :
    (Consumer.viewer (q.mapRange ring (rawFrameItem ref))).Holds refs captureId ∧
      Copies rings refs captureId (.viewer p) (.viewer (q.mapRange ring (rawFrameItem ref))) := by
  unfold Population.mapRange
  split
  case h_1 => exact population_idle h hraws hid hi himages fun _ _ hp => by cases hp
  case h_2 range hrange =>
    refine population_idle h hraws hid hi himages fun payload len hp => ?_
    obtain rfl := Option.some.inj hp
    obtain ⟨hoff, hsize⟩ := Mapping.eq_of_tryReadMappedRange hrange
    exact ⟨ref, href, hcached.symm, hname, hoff, hsize⟩

/-- The region is mapped already, is mapped now, or cannot be mapped. -/
theorem reopen_cases (p : Population) (it : BestCameraRawFrameItem) (opens : Bool) :
    p.reopen it opens = p ∧ p.shmRegionCached = it.regionName ∨
      p.reopen it opens = { p with shmRing := true, shmRegionCached := it.regionName } ∨
      p.reopen it opens = Population.fail { p with shmRing := false, shmRegionCached := "" } := by
  unfold Population.reopen
  by_cases hcached : p.shmRegionCached = it.regionName ∧ p.shmRing = true
  · rw [if_pos hcached]
    exact .inl ⟨rfl, hcached.1⟩
  · rw [if_neg hcached]
    cases opens with
    | true => exact .inr (.inl rfl)
    | false => exact .inr (.inr rfl)

theorem population_next {p : Population} (h : (Consumer.viewer p).Holds refs captureId) :
    ((Consumer.viewer p).next rings io).Holds refs captureId ∧
      Copies rings refs captureId (.viewer p) ((Consumer.viewer p).next rings io) := by
  obtain ⟨hraws, hid, hlen, hheld⟩ := id h
  have hsame : (Consumer.viewer p).Holds refs captureId ∧
      Copies rings refs captureId (.viewer p) (.viewer p) := population_idle h rfl rfl rfl rfl hheld
  show (Consumer.viewer (p.next rings io.opens)).Holds refs captureId ∧
    Copies rings refs captureId (.viewer p) (.viewer (p.next rings io.opens))
  unfold Population.next
  by_cases hfailed : p.failed = true
  · rw [if_pos hfailed]
    exact hsame
  rw [if_neg hfailed]
  cases hitem : p.raws[p.i]? with
  | none => exact hsame
  | some it =>
    obtain ⟨ref, href, rfl⟩ : ∃ ref, refs[p.i]? = some ref ∧ rawFrameItem ref = it := by
      rw [hraws, List.getElem?_map, Option.map_eq_some_iff] at hitem
      exact hitem
    cases hpayload : p.payload with
    | none =>
      dsimp only
      by_cases hmeta : Population.metadataInvalid (rawFrameItem ref) = true
      · rw [if_pos hmeta]
        exact population_idle h rfl rfl rfl rfl fun _ _ hp => by cases hp
      rw [if_neg hmeta]
      have hname : ref.frame.regionName ≠ "" := by
        intro hempty
        apply hmeta
        simp [Population.metadataInvalid, rawFrameItem, hempty]
      rcases reopen_cases p (rawFrameItem ref) io.opens with ⟨he, hcached⟩ | he | he
      · rw [he, if_neg hfailed]
        exact population_mapRange h href hname rfl rfl rfl rfl hcached
      · rw [he, if_neg hfailed]
        exact population_mapRange (q := { p with shmRing := true, shmRegionCached := _ }) h href hname
          rfl rfl rfl rfl rfl
      · rw [he]
        exact population_idle h rfl rfl rfl rfl fun _ _ hp => by cases hp
    | some range =>
      obtain ⟨payload, len⟩ := range
      obtain ⟨ref', href', hname, hne, rfl, rfl⟩ := hheld payload len hpayload
      obtain rfl := Option.some.inj (href.symm.trans href')
      refine ⟨⟨hraws, hid, ?_, fun _ _ hp => by cases hp⟩, ?_⟩
      · simp [Population.push, hlen]
      · refine .image ref href hne rfl fun img himg => ?_
        dsimp only at himg
        rw [kept_push hlen hitem] at himg
        rcases List.mem_append.mp himg with himg | himg
        · exact .inl himg
        · right
          rw [List.mem_singleton.mp himg, hname, hid]
          rfl

theorem next_copies {c : Consumer} (h : c.Holds refs captureId) :
    (c.next rings io).Holds refs captureId ∧ Copies rings refs captureId c (c.next rings io) := by
  cases c with
  | watcher b => exact batch_next h
  | viewer p => exact population_next h

end Steps

/-- A reference to a frame of the publication: it is empty, or it names where the frame is. -/
structure Refers (m : Mapping) (region : String) (ref : CameraRawFrameRef) (e : CameraRawShmSlot) :
    Prop where
  cameraIndex : ref.cameraIndex = e.cameraIndex
  burstFrameIndex : ref.burstFrameIndex = e.burstFrameIndex
  frame : ref.frame.regionName = "" ∨ ref.frame.regionName = region ∧
    m.InPayload e.rawSlot ref.frame.offsetBytes ref.frame.sizeBytes ∧
    read m.bytes ref.frame.offsetBytes.toNat ref.frame.sizeBytes.toNat = e.frame.bytes

/-- What holds while the consumer works: the frames it has not passed are in place, and the images it
keeps are right. -/
structure Keeps {θ : Type*} (pub : CapturePublication) (region : String)
    (refs : List CameraRawFrameRef) (t : Transfer θ) : Prop where
  wellFormed : (t.writers.rings region).WellFormed
  ahead : ∀ (k : ℕ) (ref : CameraRawFrameRef), t.consumer.position ≤ k → refs[k]? = some ref →
    ∃ e, pub.cameraRawSlots[k]? = some e ∧ Refers (t.writers.rings region) region ref e
  holds : t.consumer.Holds refs pub.clientCaptureId
  kept : ∀ img ∈ t.consumer.kept, img.PublishedIn pub

namespace Keeps
variable {θ : Type*} [DecidableEq θ] {pub : CapturePublication} {region : String}
  {refs : List CameraRawFrameRef} {t : Transfer θ}

theorem write (h : Keeps pub region refs t) {c : Call String θ}
    (hspares : t.Spares pub region (.write c)) : Keeps pub region refs (t.step (.write c)) := by
  refine ⟨(Writers.step_wellFormed c h.wellFormed).1, fun k ref hk href => ?_, h.holds, h.kept⟩
  have hk : t.consumer.position ≤ k := hk
  obtain ⟨e, he, hrefers⟩ := h.ahead k ref hk href
  refine ⟨e, he, hrefers.cameraIndex, hrefers.burstFrameIndex, ?_⟩
  rcases hrefers.frame with hempty | ⟨hregion, hin, hread⟩
  · exact .inl hempty
  · have hmem : e ∈ pub.cameraRawSlots.drop t.consumer.position := by
      refine List.mem_iff_getElem?.mpr ⟨k - t.consumer.position, ?_⟩
      rw [List.getElem?_drop, Nat.add_sub_cancel' hk, he]
    right
    refine ⟨hregion, Writers.step_inPayload c h.wellFormed hin, ?_⟩
    exact (Writers.step_read h.wellFormed hin (hspares e hmem)).trans hread

theorem consume (h : Keeps pub region refs t) (io : FileIo) :
    Keeps pub region refs (t.step (.consume io)) := by
  obtain ⟨hholds, hcopies⟩ : (t.step (.consume io)).consumer.Holds refs pub.clientCaptureId ∧
      Copies t.writers.rings refs pub.clientCaptureId t.consumer (t.step (.consume io)).consumer :=
    next_copies h.holds
  cases hcopies with
  | none hpos hkept =>
    refine ⟨h.wellFormed, fun k ref hk href => h.ahead k ref (Nat.le_trans hpos hk) href, hholds, ?_⟩
    intro img himg
    exact h.kept img (hkept ▸ himg)
  | image ref href hname hpos hkept =>
    refine ⟨h.wellFormed, fun k ref' hk href' => ?_, hholds, fun img himg => ?_⟩
    · rw [hpos] at hk
      exact h.ahead k ref' (Nat.le_of_succ_le hk) href'
    · rcases hkept img himg with himg | rfl
      · exact h.kept img himg
      · obtain ⟨e, he, hrefers⟩ := h.ahead _ ref (Nat.le_refl _) href
        rcases hrefers.frame with hempty | ⟨hregion, _, hread⟩
        · exact absurd hempty hname
        · refine ⟨rfl, e, he, hrefers.cameraIndex, hrefers.burstFrameIndex, ?_⟩
          show read (t.writers.rings ref.frame.regionName).bytes _ _ = e.frame.bytes
          rw [hregion]
          exact hread

theorem step (h : Keeps pub region refs t) {e : TransferEvent θ} (hspares : t.Spares pub region e) :
    Keeps pub region refs (t.step e) := by
  cases e with
  | write c => exact h.write hspares
  | consume io => exact h.consume io

end Keeps

section Start
variable {s : State} {m : Mapping} {request : DepthRequest} {pub : CapturePublication}

/-- The reference to a frame that is still there names where it is. -/
theorem refers_of_intact (hr : HubRing s.shm) (hm : s.shm.mapping = some m) (hintact : Intact pub s.shm)
    {e : CameraRawShmSlot} (he : e ∈ pub.cameraRawSlots) :
    Refers m s.shm.name (s.cameraRawFrame e) e := by
  obtain ⟨hlt, hcell⟩ := hintact e he
  refine ⟨rfl, rfl, ?_⟩
  have hread : s.shm.tryReadSlot e.rawSlot = m.tryReadSlot e.rawSlot := by
    rw [ShmRingBuffer.tryReadSlot, hm, Option.bind_some]
  have hwf : m.WellFormed := by
    obtain ⟨m', hm', hwf, _⟩ := hr
    obtain rfl := Option.some.inj (hm'.symm.trans hm)
    exact hwf
  show (s.frameRef e.rawSlot e.rawSeq).regionName = "" ∨
    (s.frameRef e.rawSlot e.rawSeq).regionName = s.shm.name ∧
      m.InPayload e.rawSlot (s.frameRef e.rawSlot e.rawSeq).offsetBytes
        (s.frameRef e.rawSlot e.rawSeq).sizeBytes ∧
      read m.bytes (s.frameRef e.rawSlot e.rawSeq).offsetBytes.toNat
        (s.frameRef e.rawSlot e.rawSeq).sizeBytes.toNat = e.frame.bytes
  unfold State.frameRef
  rw [hread]
  cases hview : m.tryReadSlot e.rawSlot with
  | none => exact .inl rfl
  | some v =>
    obtain ⟨_, hoff, hlen, hin, himage⟩ := Mapping.tryReadSlot_inPayload hwf hview
    rw [hoff, hlen] at hin himage
    have hbytes : (m.cell e.rawSlot).image.bytes = e.frame.bytes := by
      rw [ShmRingBuffer.cell, hm, Option.elim_some] at hcell
      rw [hcell]
      rfl
    exact .inr ⟨rfl, hin, himage.trans hbytes⟩

/-- A reply that lists raw frames lists those of the publication that was asked for. -/
theorem cameraRawFrames_of_lookup
    (hpub : s.store.publications.lookup (s.depthKey request) = some pub) :
    (s.getDepth request).cameraRawFrames = [] ∧ (s.getDepth request).clientCaptureId = 0 ∨
      (s.getDepth request).cameraRawFrames = pub.cameraRawSlots.map s.cameraRawFrame ∧
        (s.getDepth request).clientCaptureId = pub.clientCaptureId := by
  rcases s.getDepth_cases request with ⟨hid, hnil⟩ | ⟨_, pub', hpub', he⟩
  · exact .inl ⟨hnil, hid⟩
  · obtain rfl := Option.some.inj (hpub.symm.trans hpub')
    rw [he]
    exact .inr ⟨rfl, rfl⟩

/-- What a consumer starts from, for a reply that lists no frames or those of the publication. -/
theorem Consumer.Starts.holds {reply : DepthReply} {c : Consumer} (hstarts : c.Starts request reply)
    (captureId : UInt64) (hwatcher : reply.cameraRawFrames ≠ [] → reply.clientCaptureId = captureId)
    (hviewer : request.clientCaptureId ≠ 0 → request.clientCaptureId = captureId) :
    c.Holds reply.cameraRawFrames captureId ∧ c.kept = [] := by
  cases hstarts with
  | watcher w sessionId b hpc hrequest hsaving =>
    obtain ⟨_, _, first, rest, hframes, hregion, rfl⟩ := Watcher.onDepth_saving hpc hsaving
    refine ⟨⟨rfl, hwatcher ?_, hregion, fun _ _ hp => by cases hp⟩, rfl⟩
    rw [hframes]
    exact List.cons_ne_nil first rest
  | viewer sdk id raws shmRing shmRegionCached hid hrequest hraws =>
    obtain ⟨rfl, hsent⟩ := DeveloperCameraSdkGrpc.listDepthCameraRawFrames_some hraws
    have hasked := hsent request hrequest hid
    refine ⟨⟨rfl, ?_, rfl, fun _ _ hp => by cases hp⟩, ?_⟩
    · exact hasked ▸ hviewer (hasked ▸ hid)
    · simp [Consumer.kept]

end Start

section Run
variable {α π θ : Type*} [ICameraAdapter α] [ICameraControls α] [ISerialPort π] [DecidableEq θ]
  {sv : Server α π θ} {request : DepthRequest} {pub : CapturePublication} {c : Consumer}

theorem keeps_start (hsv : sv.Reachable)
    (hpub : sv.hub.store.publications.lookup (sv.hub.depthKey request) = some pub)
    (hintact : Intact pub sv.hub.shm) {writers : Writers String θ}
    (hring : sv.hub.shm.mapping = some (writers.rings sv.hub.shm.name))
    (hstarts : c.Starts request (sv.hub.getDepth request)) :
    Keeps pub sv.hub.shm.name (sv.hub.getDepth request).cameraRawFrames ⟨writers, c⟩ := by
  have hpresets : sv.hub.presetCameras ≠ [] := by
    rcases hsv.sound.session with hidle | hestablished
    · rw [hidle.store] at hpub
      cases hpub
    · exact hestablished.presets
  have hr := hsv.sound.ring hpresets
  have hlisted := cameraRawFrames_of_lookup hpub
  obtain ⟨hholds, hkept⟩ := hstarts.holds pub.clientCaptureId
    (fun hframes => (hlisted.resolve_left fun h => hframes h.1).2)
    (fun hid => by rw [hsv.keyed _ pub hpub, State.depthKey_eq hid])
  refine ⟨?_, fun k ref _ href => ?_, hholds, fun img himg => ?_⟩
  · obtain ⟨m, hm, hwf, _⟩ := hr
    obtain rfl := Option.some.inj (hm.symm.trans hring)
    exact hwf
  · rcases hlisted with ⟨hnil, _⟩ | ⟨hmap, _⟩
    · rw [hnil] at href
      cases href
    · rw [hmap, List.getElem?_map, Option.map_eq_some_iff] at href
      obtain ⟨e, he, rfl⟩ := href
      exact ⟨e, he, refers_of_intact hr hring hintact (List.mem_of_getElem? he)⟩
  · rw [hkept] at himg
    cases himg

/-- While no slot of a frame still to be copied is taken, every image that the consumer keeps is the
frame that was published under its name. -/
theorem kept_published (hsv : sv.Reachable)
    (hpub : sv.hub.store.publications.lookup (sv.hub.depthKey request) = some pub)
    (hintact : Intact pub sv.hub.shm) {writers : Writers String θ}
    (hring : sv.hub.shm.mapping = some (writers.rings sv.hub.shm.name))
    (hstarts : c.Starts request (sv.hub.getDepth request)) {es : List (TransferEvent θ)}
    (hspares : Along Transfer.step (Transfer.Spares pub sv.hub.shm.name) ⟨writers, c⟩ es) :
    ∀ img ∈ (run Transfer.step ⟨writers, c⟩ es).consumer.kept, img.PublishedIn pub := by
  have hend := run_invariant_along (fun t e hspares h => Keeps.step h hspares) hspares
    (keeps_start hsv hpub hintact hring hstarts)
  exact hend.kept

/-- Calls that come before the consumer goes on. -/
theorem Transfer.run_writes (t : Transfer θ) (calls : List (Call String θ)) :
    run Transfer.step t (calls.map .write) = { t with writers := run Writers.step t.writers calls } := by
  induction calls generalizing t with
  | nil => rfl
  | cons c calls ih => exact ih _

/-- The watcher copies an item from the ring as it is then. -/
theorem Transfer.run_item (w : Writers String θ) (b : Batch) :
    (run Transfer.step ⟨w, .watcher b⟩ [.consume {}, .consume {}]).consumer =
      .watcher ((b.next (w.rings b.region0) {}).next (w.rings b.region0) {}) := by
  obtain ⟨_, hregion, _⟩ := b.next_frame (w.rings b.region0) {}
  show Consumer.watcher (Batch.next (Batch.next b _ {}) (w.rings (Batch.next b _ {}).region0) {}) = _
  rw [hregion]

end Run

section Bench

/-- A hub on the bench after `k` of two captures, each completed by a thread new to the ring. -/
def captured (k : ℕ) : Server ReadyCamera EchoPort Bool :=
  run Server.step { world := bench twoCameras } (([World.twoCameraCapture 1 false,
    World.twoCameraCapture 2 true].take k).flatten.map .world)

theorem captured_reachable (k : ℕ) : (captured k).Reachable := ⟨_, _, _, _, _, rfl⟩

theorem captured_tracked : (captured 1).Tracks (captured 1).writers :=
  Server.tracks_writers (by decide +kernel)

/-- The poll of the watcher after the first capture, and the batch it starts on. -/
def firstPoll : DepthRequest := Watcher.depthRequest "cam-1"

def firstBatch : Batch where
  captureKey := 1
  region0 := (captured 1).hub.shm.name
  frames := ((captured 1).hub.getDepth firstPoll).cameraRawFrames

theorem firstBatch_starts :
    (Consumer.watcher firstBatch).Starts firstPoll ((captured 1).hub.getDepth firstPoll) :=
  .watcher { pc := .polling "cam-1" } "cam-1" firstBatch rfl rfl (by decide +kernel)

/-- Four steps of the watcher, and a write to a slot that the capture does not use. -/
def spared : List (TransferEvent Bool) :=
  [.consume {}, .write ⟨(captured 1).hub.shm.name, true, ⟨[7], 1, 1, 0⟩⟩, .consume {}, .consume {},
    .consume {}]

theorem kept_published_bench : ∃ pub,
    (run Transfer.step ⟨(captured 1).writers, .watcher firstBatch⟩ spared).consumer.kept =
      [⟨1, 1, 1, 0, [1]⟩, ⟨0, 1, 0, 0, [2]⟩] ∧
    ∀ img ∈ (run Transfer.step ⟨(captured 1).writers, .watcher firstBatch⟩ spared).consumer.kept,
      img.PublishedIn pub := by
  have hgood : ((captured 1).hub.store.publications.lookup ((captured 1).hub.depthKey firstPoll)).any
      (fun pub => decide (Intact pub (captured 1).hub.shm ∧ Along Transfer.step
        (Transfer.Spares pub (captured 1).hub.shm.name) ⟨(captured 1).writers, .watcher firstBatch⟩ spared)) =
      true := by
    decide +kernel
  obtain ⟨pub, hpub, hgood⟩ := (Option.any_eq_true _ _).mp hgood
  obtain ⟨hintact, hspares⟩ := of_decide_eq_true hgood
  refine ⟨pub, by decide +kernel, ?_⟩
  exact kept_published (captured_reachable 1) hpub hintact captured_tracked.ring firstBatch_starts hspares

/-- The watcher has been told of the frames of capture 1 when capture 2 takes their slots: it keeps a
frame of capture 2 under the name of capture 1. -/
theorem kept_of_other_capture :
    ¬ ∀ (sv : Server ReadyCamera EchoPort Bool) request pub (writers : Writers String Bool) c es,
      sv.Reachable → sv.hub.store.publications.lookup (sv.hub.depthKey request) = some pub →
      sv.hub.shm.mapping = some (writers.rings sv.hub.shm.name) →
      c.Starts request (sv.hub.getDepth request) →
      ∀ img ∈ (run Transfer.step ⟨writers, c⟩ es).consumer.kept, img.PublishedIn pub := by
  intro hall
  have hslots : ((captured 1).hub.store.publications.lookup ((captured 1).hub.depthKey firstPoll)).map
      (fun pub => pub.cameraRawSlots.map fun e => e.frame.bytes) = some [[2], [1]] := by
    decide +kernel
  obtain ⟨pub, hpub, hframes⟩ := Option.map_eq_some_iff.mp hslots
  -- The second capture of the hub, as calls on the ring.
  obtain ⟨calls, htracks⟩ := Server.run_tracks captured_tracked
    ((World.twoCameraCapture 2 true).map .world)
  have hsecond : run Server.step (captured 1) ((World.twoCameraCapture 2 true).map .world) = captured 2 := by
    rw [captured, ← run_append]
    rfl
  rw [hsecond] at htracks
  have hring := htracks.ring
  have hname : (captured 2).hub.shm.name = firstBatch.region0 := by decide +kernel
  rw [hname] at hring
  have hkept : (captured 2).hub.shm.mapping.any (fun m => decide
      ((Consumer.watcher ((firstBatch.next m {}).next m {})).kept = [⟨0, 1, 0, 0, [1]⟩])) = true := by
    decide +kernel
  rw [hring, Option.any_some, decide_eq_true_iff] at hkept
  have hmem : (⟨0, 1, 0, 0, [1]⟩ : KeptImage) ∈ (run Transfer.step ⟨(captured 1).writers, .watcher firstBatch⟩
      (calls.map .write ++ [.consume {}, .consume {}])).consumer.kept := by
    rw [run_append, Transfer.run_writes, Transfer.run_item, hkept]
    exact List.mem_singleton_self _
  obtain ⟨_, e, he, _, _, hbytes⟩ := hall (captured 1) firstPoll pub (captured 1).writers
    (.watcher firstBatch) _ (captured_reachable 1) hpub captured_tracked.ring firstBatch_starts _ hmem
  have hhead := congrArg (·[0]?) hframes
  dsimp only at hhead he
  rw [List.getElem?_map, he] at hhead
  have hother : e.frame.bytes = [2] := Option.some.inj hhead
  rw [hother] at hbytes
  cases hbytes

end Bench

end Camera3D.Consumers
