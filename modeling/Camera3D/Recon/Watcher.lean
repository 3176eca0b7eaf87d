import Camera3D.Grpc.Status
import Camera3D.Hub.State
import Camera3D.Ipc.RingBuffer

/-! The burst watcher of the reconstruction service: one thread that connects to the hub, polls
`GetDepth`, and saves the raw frames of each capture that it takes for a new one. -/
namespace Camera3D.Recon
open Grpc Hub Ipc

/-- What the file system makes of a file: its stream opens, and the write goes through. -/
structure FileIo where
  opens : Bool := true
  writes : Bool := true
  deriving DecidableEq

/-- A `.bin` file: what its name spells, and its content. -/
structure SavedFile where
  index : ℕ
  cameraIndex : UInt32
  burstFrameIndex : UInt32
  width : UInt32
  height : UInt32
  pixelFormat : UInt32
  captureKey : UInt64
  content : List UInt8
  deriving DecidableEq

/-- The loop over the raw frames of a reply, at item `i`. -/
structure Batch where
  captureKey : UInt64
  region0 : String
  frames : List CameraRawFrameRef
  i : ℕ := 0
  /-- `payload` and `len`, once `TryReadMappedRange` has set them for the item. -/
  payload : Option (UInt64 × UInt64) := none
  okN : ℕ := 0
  files : List SavedFile := []
  deriving DecidableEq

namespace Batch

def skip (b : Batch) : Batch := { b with i := b.i + 1, payload := none }

def save (b : Batch) (cref : CameraRawFrameRef) (content : List UInt8) : Batch :=
  let file : SavedFile :=
    { index := b.i
      cameraIndex := cref.cameraIndex
      burstFrameIndex := cref.burstFrameIndex
      width := cref.frame.width
      height := cref.frame.height
      pixelFormat := cref.frame.pixelFormat
      captureKey := b.captureKey
      content }
  { b.skip with okN := b.okN + 1, files := file :: b.files }

/-- The range of the item is mapped in one step and copied in the next, from the ring as it is then. -/
def next (b : Batch) (shm : Mapping) (io : FileIo) : Batch :=
  match b.frames[b.i]? with
  | none => b
  | some cref =>
    match b.payload with
    | none =>
      if cref.frame.regionName ≠ b.region0 then b.skip
      else match shm.tryReadMappedRange cref.frame.offsetBytes cref.frame.sizeBytes with
        | none => b.skip
        | some (payload, len) =>
          if len = 0 then b.skip else { b with payload := some (payload, len) }
    | some (payload, len) =>
      if !io.opens || !io.writes then b.skip
      else b.save cref (Memory.read shm.bytes payload.toNat len.toNat)

/-- An item is passed over, its range is mapped, or it is saved. -/
theorem next_cases (b : Batch) (shm : Mapping) (io : FileIo) :
    b.next shm io = b ∨ b.next shm io = b.skip ∨
      (∃ payload, b.next shm io = { b with payload := some payload }) ∨
      ∃ cref content, b.next shm io = b.save cref content := by
  unfold next
  cases b.frames[b.i]? with
  | none => exact .inl rfl
  | some cref =>
    cases b.payload with
    | some range =>
      dsimp only
      split_ifs
      · exact .inr (.inl rfl)
      · exact .inr (.inr (.inr ⟨cref, _, rfl⟩))
    | none =>
      dsimp only
      split_ifs
      · exact .inr (.inl rfl)
      · split
        · exact .inr (.inl rfl)
        · split_ifs
          · exact .inr (.inl rfl)
          · exact .inr (.inr (.inl ⟨_, rfl⟩))

theorem next_frame (b : Batch) (shm : Mapping) (io : FileIo) :
    (b.next shm io).captureKey = b.captureKey ∧ (b.next shm io).region0 = b.region0 ∧
      (b.next shm io).frames = b.frames := by
  obtain he | he | ⟨_, he⟩ | ⟨_, _, he⟩ := b.next_cases shm io
  all_goals
    rw [he]
    exact ⟨rfl, rfl, rfl⟩

/-- There is a file for each item that is counted as saved. -/
theorem next_counts {b : Batch} (h : b.okN = b.files.length) (shm : Mapping) (io : FileIo) :
    (b.next shm io).okN = (b.next shm io).files.length := by
  obtain he | he | ⟨_, he⟩ | ⟨_, _, he⟩ := b.next_cases shm io
  · rw [he, h]
  · rw [he]
    exact h
  · rw [he]
    exact h
  · rw [he]
    exact congrArg (· + 1) h

end Batch

/-- Where the thread stands: before `Connect`, before `GetDepth`, or in the saving loop. -/
inductive WatcherPc where
  | connecting
  | polling (sessionId : String)
  | saving (sessionId : String) (b : Batch)
  deriving DecidableEq

structure Watcher where
  pc : WatcherPc := .connecting
  lastSavedCaptureId : UInt64 := 0
  deriving DecidableEq

/-- What the thread meets next: the outcome of a call (a reply without a status is `none`), or the
ring and the file of an item. -/
inductive WatcherInput where
  | connected (reply : Rpc (Option ConnectReply))
  | depth (reply : Rpc (Option DepthReply)) (shmOpens mkdir : Bool)
  | item (shm : Mapping) (io : FileIo)

namespace Watcher

def onConnect (w : Watcher) : Rpc (Option ConnectReply) → Watcher
  | .ok (some crpl) =>
    if crpl.status.code ≠ 0 ∨ crpl.sessionId = "" then w
    else { w with pc := .polling crpl.sessionId }
  | .ok none => w
  | .error _ => w

/-- The id that a capture is compared with: one that is lower is taken for a restart of the hub. -/
def remembered (w : Watcher) (captureKey : UInt64) : Watcher :=
  if captureKey < w.lastSavedCaptureId then { w with lastSavedCaptureId := 0 } else w

/-- The loop body from the capture id on. -/
def onCapture (w : Watcher) (sessionId : String) (drpl : DepthReply) (shmOpens mkdir : Bool) :
    Watcher :=
  let captureKey := drpl.clientCaptureId
  if captureKey = 0 then w
  else
    let w := w.remembered captureKey
    if captureKey ≤ w.lastSavedCaptureId then w
    else match drpl.cameraRawFrames with
      | [] => w
      | first :: _ =>
        let region0 := first.frame.regionName
        if region0 = "" ∨ !shmOpens ∨ !mkdir then w
        else { w with pc := .saving sessionId { captureKey, region0, frames := drpl.cameraRawFrames } }

def onDepth (w : Watcher) (sessionId : String) (reply : Rpc (Option DepthReply))
    (shmOpens mkdir : Bool) : Watcher :=
  match reply with
  | .error _ => { w with pc := .connecting }
  | .ok none => w
  | .ok (some drpl) =>
    if drpl.status.code ≠ 0 then
      if drpl.status.code = 8 then w
      else if drpl.status.code = 3 then { w with pc := .connecting }
      else w
    else w.onCapture sessionId drpl shmOpens mkdir

/-- The end of the saving loop. -/
def finish (w : Watcher) (sessionId : String) (b : Batch) : Watcher where
  pc := .polling sessionId
  lastSavedCaptureId := if 0 < b.okN then b.captureKey else w.lastSavedCaptureId

def onItem (w : Watcher) (sessionId : String) (b : Batch) (shm : Mapping) (io : FileIo) : Watcher :=
  if b.i < b.frames.length then { w with pc := .saving sessionId (b.next shm io) }
  else w.finish sessionId b

/-- An input that does not belong to the place where the thread stands changes nothing. -/
def step (w : Watcher) : WatcherInput → Watcher
  | .connected reply =>
    match w.pc with
    | .connecting => w.onConnect reply
    | _ => w
  | .depth reply shmOpens mkdir =>
    match w.pc with
    | .polling sessionId => w.onDepth sessionId reply shmOpens mkdir
    | _ => w
  | .item shm io =>
    match w.pc with
    | .saving sessionId b => w.onItem sessionId b shm io
    | _ => w

/-- The request of a poll. -/
def depthRequest (sessionId : String) : DepthRequest where
  sessionId := sessionId
  jobId := 0
  clientCaptureId := 0

theorem remembered_pc (w : Watcher) (captureKey : UInt64) : (w.remembered captureKey).pc = w.pc := by
  unfold remembered
  split_ifs <;> rfl

/-- The batch of a reply whose capture is taken for a new one. -/
def Begins (drpl : DepthReply) (b : Batch) : Prop :=
  drpl.clientCaptureId ≠ 0 ∧ ∃ first rest, drpl.cameraRawFrames = first :: rest ∧
    first.frame.regionName ≠ "" ∧ b =
      { captureKey := drpl.clientCaptureId
        region0 := first.frame.regionName
        frames := drpl.cameraRawFrames }

/-- A reply without an id changes nothing. A capture is passed over, or its frames are saved next. -/
theorem onCapture_cases (w : Watcher) (sessionId : String) (drpl : DepthReply) (shmOpens mkdir : Bool) :
    w.onCapture sessionId drpl shmOpens mkdir = w ∨ drpl.clientCaptureId ≠ 0 ∧
      (w.onCapture sessionId drpl shmOpens mkdir = w.remembered drpl.clientCaptureId ∨
      ∃ b, Begins drpl b ∧ (w.remembered drpl.clientCaptureId).lastSavedCaptureId < drpl.clientCaptureId ∧
        w.onCapture sessionId drpl shmOpens mkdir =
          { w.remembered drpl.clientCaptureId with pc := .saving sessionId b }) := by
  unfold onCapture
  dsimp only
  by_cases hkey : drpl.clientCaptureId = 0
  · rw [if_pos hkey]
    exact .inl rfl
  rw [if_neg hkey]
  refine .inr ⟨hkey, ?_⟩
  by_cases hold : drpl.clientCaptureId ≤ (w.remembered drpl.clientCaptureId).lastSavedCaptureId
  · rw [if_pos hold]
    exact .inl rfl
  rw [if_neg hold]
  cases hframes : drpl.cameraRawFrames with
  | nil => exact .inl rfl
  | cons first rest =>
    dsimp only
    split_ifs with hbad
    · exact .inl rfl
    · right
      refine ⟨_, ⟨hkey, first, rest, hframes, ?_, rfl⟩, UInt64.not_le.mp hold, by rw [hframes]⟩
      intro hempty
      exact hbad (.inl hempty)

/-- What a watcher that polls makes of a reply. -/
theorem onDepth_cases (w : Watcher) (sessionId : String)
    (reply : Rpc (Option DepthReply)) (shmOpens mkdir : Bool) :
    (w.onDepth sessionId reply shmOpens mkdir = w ∨
        w.onDepth sessionId reply shmOpens mkdir = { w with pc := .connecting }) ∨
      ∃ drpl, reply = .ok (some drpl) ∧ drpl.status.code = 0 ∧ drpl.clientCaptureId ≠ 0 ∧
        (w.onDepth sessionId reply shmOpens mkdir = w.remembered drpl.clientCaptureId ∨
        ∃ b, Begins drpl b ∧
          (w.remembered drpl.clientCaptureId).lastSavedCaptureId < drpl.clientCaptureId ∧
          w.onDepth sessionId reply shmOpens mkdir =
            { w.remembered drpl.clientCaptureId with pc := .saving sessionId b }) := by
  unfold onDepth
  split
  case h_1 => exact .inl (.inr rfl)
  case h_2 => exact .inl (.inl rfl)
  case h_3 drpl =>
    split_ifs with hcode
    · exact .inl (.inl rfl)
    · exact .inl (.inr rfl)
    · exact .inl (.inl rfl)
    · rcases w.onCapture_cases sessionId drpl shmOpens mkdir with he | ⟨hkey, hcases⟩
      · exact .inl (.inl he)
      · exact .inr ⟨drpl, rfl, not_not.mp hcode, hkey, hcases⟩

/-- The watcher enters the saving loop only with the batch of the reply it was given. -/
theorem onDepth_saving {w : Watcher} {polled sessionId : String} {drpl : DepthReply}
    {shmOpens mkdir : Bool} {b : Batch} (hpc : w.pc = .polling polled)
    (h : (w.onDepth polled (.ok (some drpl)) shmOpens mkdir).pc = .saving sessionId b) :
    drpl.status.code = 0 ∧ Begins drpl b := by
  rcases w.onDepth_cases polled (.ok (some drpl)) shmOpens mkdir with
    (he | he) | ⟨drpl', hreply, hcode, _, he | ⟨b', hb', _, he⟩⟩
  · rw [he, hpc] at h
    cases h
  · rw [he] at h
    cases h
  · rw [he, remembered_pc, hpc] at h
    cases h
  · rw [he] at h
    cases hreply
    cases h
    exact ⟨hcode, hb'⟩

/-- A capture that could be saved is saved exactly if its id is not the one remembered. -/
theorem onCapture_begins {w : Watcher} {sessionId : String} (hpc : w.pc = .polling sessionId)
    {drpl : DepthReply} (hkey : drpl.clientCaptureId ≠ 0)
    (hframes : ∃ first rest, drpl.cameraRawFrames = first :: rest ∧ first.frame.regionName ≠ "") :
    (∃ b, Begins drpl b ∧ (w.onCapture sessionId drpl true true).pc = .saving sessionId b) ↔
      drpl.clientCaptureId ≠ w.lastSavedCaptureId := by
  constructor
  · rintro ⟨b, _, hb⟩ heq
    unfold onCapture remembered at hb
    rw [heq, if_neg (heq ▸ hkey), if_neg (UInt64.lt_irrefl _)] at hb
    dsimp only at hb
    rw [if_pos (UInt64.le_refl _), hpc] at hb
    cases hb
  · intro hne
    obtain ⟨first, rest, hlist, hregion⟩ := hframes
    have hnew : ¬ drpl.clientCaptureId ≤ (w.remembered drpl.clientCaptureId).lastSavedCaptureId := by
      unfold remembered
      split_ifs with hback
      · exact fun hle => hkey (UInt64.le_zero_iff.mp hle)
      · exact fun hle => hne (UInt64.le_antisymm hle (UInt64.not_lt.mp hback))
    refine ⟨_, ⟨hkey, first, rest, hlist, hregion, rfl⟩, ?_⟩
    unfold onCapture
    dsimp only
    rw [if_neg hkey, if_neg hnew, hlist]
    dsimp only
    rw [if_neg (by simp [hregion])]

end Watcher
end Camera3D.Recon
