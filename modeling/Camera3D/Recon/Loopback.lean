import Camera3D.Ipc.Ranges
import Camera3D.Recon.Watcher

/-! The loopback test of the reconstruction service: `ProcessHubRaw` saves frames that it reads from
the hub's ring, and puts the first one into the echo ring, while other threads write the rings. -/
namespace Camera3D.Recon
open Grpc Hub Ipc Transition

def kReconLoopbackEchoRingRegionName : String := "camera3d_recon_loopback_echo"

structure HubRawFrameRef where
  hubSlotIndex : UInt32
  hubSlotSeq : UInt64
  cameraIndex : UInt32 := 0
  burstFrameIndex : UInt32 := 0
  deriving DecidableEq

structure ProcessHubRawRequest where
  hubSlotIndex : UInt32 := 0
  hubSlotSeq : UInt64 := 0
  clientCaptureId : UInt64 := 0
  hubRawFrames : List HubRawFrameRef := []
  deriving DecidableEq

structure ProcessHubRawReply where
  code : Int32
  message : String
  deriving DecidableEq

structure HubTestSaveReconEchoRequest where
  clientCaptureId : UInt64
  echoSlotIndex : UInt32
  echoFrame : ShmFrameRef
  deriving DecidableEq

/-- A file of a raw frame: the item it was saved for, what its name spells, and its content. -/
structure SavedRaw where
  index : ℕ
  cameraIndex : UInt32
  burstFrameIndex : UInt32
  content : List UInt8
  deriving DecidableEq

/-- Where a call stands. `held` is what `TryReadSlot` has set: a copy of the header, and the place of
the payload in the mapped region. -/
inductive ProcessPc where
  | openingHub
  | mkdir
  | checking (i : ℕ)
  | saving (i : ℕ) (held : SlotView)
  | checkingFirst
  | openingEcho (held : SlotView)
  | writingEcho (held : SlotView)
  | readingBack (echoSeq : UInt64) (echoSlot : UInt32)
  | calling (hreq : HubTestSaveReconEchoRequest)
  | done (reply : ProcessHubRawReply)
  deriving DecidableEq

/-- What the next step of a call meets. -/
inductive ProcessInput where
  | opens (ok : Bool)
  | mkdir (error : Option String)
  | ring
  | file (path : String) (io : FileIo)
  | hubReply (reply : Rpc (Option Status))

/-- One call of `ProcessHubRaw`, on one thread; `hub` and `echo` are the regions that the two names
denote. -/
structure Process (ι θ : Type*) where
  request : ProcessHubRawRequest
  thread : θ
  hub : ι
  echo : ι
  pc : ProcessPc := .openingHub
  files : List SavedRaw := []
  /-- History: the payload that went into the echo ring. -/
  echoed : Option (List UInt8) := none

namespace ProcessHubRawRequest

/-- The items of the request; an old client names a single slot instead. -/
def items (request : ProcessHubRawRequest) : List HubRawFrameRef :=
  if request.hubRawFrames = [] then [⟨request.hubSlotIndex, request.hubSlotSeq, 0, 0⟩]
  else request.hubRawFrames

end ProcessHubRawRequest

/-- `TryReadSlot` and the comparison of the numbers; `place` ends the message. -/
def HubRawFrameRef.check (fr : HubRawFrameRef) (hub : Mapping) (place : String) :
    Except ProcessHubRawReply SlotView :=
  match hub.tryReadSlot fr.hubSlotIndex with
  | none => .error ⟨3, "hub TryReadSlot failed" ++ place⟩
  | some v =>
    if v.outMeta.seqPublish ≠ fr.hubSlotSeq then .error ⟨4, "hub seq mismatch" ++ place⟩ else .ok v

namespace Process
variable {ι θ : Type*}

def reply (p : Process ι θ) (code : Int32) (message : String) : Process ι θ :=
  { p with pc := .done ⟨code, message⟩ }

def burst (p : Process ι θ) : Bool := p.request.hubRawFrames ≠ []

/-- `payload` and `len` as they are in the hub's region now. -/
def payload (p : Process ι θ) (rings : ι → Mapping) (held : SlotView) : List UInt8 :=
  Memory.read (rings p.hub).bytes held.outPayload.toNat held.outPayloadLen.toNat

def onCheck (p : Process ι θ) (rings : ι → Mapping) (i : ℕ) : Process ι θ :=
  match p.request.items[i]? with
  | none => p
  | some fr =>
    match fr.check (rings p.hub) (if p.burst then " at burst item " ++ toString i else "") with
    | .error reply => { p with pc := .done reply }
    | .ok held => { p with pc := .saving i held }

def onCheckFirst (p : Process ι θ) (rings : ι → Mapping) : Process ι θ :=
  match p.request.items[0]? with
  | none => p
  | some fr =>
    match fr.check (rings p.hub) " for echo (first slot)" with
    | .error reply => { p with pc := .done reply }
    | .ok held => { p with pc := .openingEcho held }

/-- The payload is written from the mapped region; the header in `held` is not looked at again. -/
def save (p : Process ι θ) (rings : ι → Mapping) (i : ℕ) (fr : HubRawFrameRef) (held : SlotView) :
    Process ι θ :=
  { p with files := ⟨i, fr.cameraIndex, fr.burstFrameIndex, p.payload rings held⟩ :: p.files }

def onFile (p : Process ι θ) (rings : ι → Mapping) (i : ℕ) (held : SlotView) (path : String)
    (io : FileIo) : Process ι θ :=
  match p.request.items[i]? with
  | none => p
  | some fr =>
    if p.burst then
      if !io.opens then p.reply 5 ("open file failed: " ++ path)
      else if !io.writes then p.reply 5 ("write file failed: " ++ path)
      else if i + 1 < p.request.items.length then
        { p.save rings i fr held with pc := .checking (i + 1) }
      else { p.save rings i fr held with pc := .checkingFirst }
    else if !io.opens || !io.writes then p.reply 5 "recon save failed"
    else { p.save rings i fr held with pc := .openingEcho held }

def echoRequest (p : Process ι θ) (echoSeq : UInt64) (echoSlot : UInt32) (em : ShmSlotHeader) :
    HubTestSaveReconEchoRequest where
  clientCaptureId := p.request.clientCaptureId
  echoSlotIndex := echoSlot
  echoFrame :=
    { regionName := kReconLoopbackEchoRingRegionName
      seq := echoSeq
      offsetBytes := em.payloadOffset
      sizeBytes := em.payloadSize
      width := em.width
      height := em.height
      pixelFormat := em.pixelFormat
      timestampUnixNs := em.timestampUnixNs }

def onReadBack (p : Process ι θ) (rings : ι → Mapping) (echoSeq : UInt64) (echoSlot : UInt32) :
    Process ι θ :=
  match (rings p.echo).tryReadSlot echoSlot with
  | none => p.reply 8 "echo readback failed"
  | some v => { p with pc := .calling (p.echoRequest echoSeq echoSlot v.outMeta) }

def onHubReply (p : Process ι θ) : Rpc (Option Status) → Process ι θ
  | .error hst => p.reply 9 ("hub TestSaveReconEcho grpc failed: " ++ hst.errorMessage)
  | .ok none => p.reply 10 "hub status missing"
  | .ok (some status) => if status.code ≠ 0 then p.reply 10 status.message else p.reply 0 ""

/-- The image that goes into the echo ring: the payload as it is now, under the copied header. -/
def echoImage (p : Process ι θ) (rings : ι → Mapping) (held : SlotView) : Image :=
  ⟨p.payload rings held, held.outMeta.width, held.outMeta.height, held.outMeta.pixelFormat⟩

/-- Every step but the write to the echo ring. An input that does not belong to the place where the
call stands changes nothing. -/
def step (p : Process ι θ) (rings : ι → Mapping) (input : ProcessInput) : Process ι θ :=
  match p.pc, input with
  | .openingHub, .opens ok =>
    if !ok then p.reply 2 "hub shm open failed"
    else if p.burst then { p with pc := .mkdir }
    else { p with pc := .checking 0 }
  | .mkdir, .mkdir error =>
    match error with
    | some what => p.reply 5 ("mkdir failed: " ++ what)
    | none => { p with pc := .checking 0 }
  | .checking i, .ring => p.onCheck rings i
  | .saving i held, .file path io => p.onFile rings i held path io
  | .checkingFirst, .ring => p.onCheckFirst rings
  | .openingEcho held, .opens ok =>
    if !ok then p.reply 6 "echo shm create/open failed" else { p with pc := .writingEcho held }
  | .readingBack echoSeq echoSlot, .ring => p.onReadBack rings echoSeq echoSlot
  | .calling _, .hubReply reply => p.onHubReply reply
  | _, _ => p

/-- The call has written `bytes` to the echo ring. -/
def onEchoed (p : Process ι θ) (bytes : List UInt8) : Option (UInt64 × UInt32) → Process ι θ
  | none => p.reply 7 "echo write failed"
  | some (echoSeq, echoSlot) =>
    { p with pc := .readingBack echoSeq echoSlot, echoed := some bytes }

/-- The item whose payload the call will read without another check. -/
def held (p : Process ι θ) : Option HubRawFrameRef :=
  match p.pc with
  | .saving i _ => p.request.items[i]?
  | .openingEcho _ | .writingEcho _ => p.request.items[0]?
  | _ => none

end Process

/-- A call of `ProcessHubRaw` among the threads that write rings. -/
structure Loopback (ι θ : Type*) where
  writers : Writers ι θ
  process : Process ι θ
  /-- History: all writes so far, oldest first. -/
  log : List (Logged ι θ) := []

inductive LoopbackEvent (ι θ : Type*) where
  | write (c : Call ι θ)
  | process (input : ProcessInput)

namespace Loopback
variable {ι θ : Type*} [DecidableEq ι] [DecidableEq θ]

def write (t : Loopback ι θ) (c : Call ι θ) : Loopback ι θ :=
  { t with
    writers := t.writers.step c
    log := t.log ++ [(c, (t.writers.result c).published)] }

def step (t : Loopback ι θ) : LoopbackEvent ι θ → Loopback ι θ
  | .write c => t.write c
  | .process input =>
    match t.process.pc, input with
    | .writingEcho held, .ring =>
      let c : Call ι θ :=
        ⟨t.process.echo, t.process.thread, t.process.echoImage t.writers.rings held⟩
      { t.write c with
        process := t.process.onEchoed c.image.bytes (t.writers.result c).published }
    | _, input => { t with process := t.process.step t.writers.rings input }

/-- No write takes the slot of an item between its check and the use of its payload. -/
def Spares (t : Loopback ι θ) : LoopbackEvent ι θ → Prop
  | .write c => ∀ fr ∈ t.process.held, t.writers.Leaves c t.process.hub fr.hubSlotIndex
  | .process _ => True

instance (t : Loopback ι θ) : ∀ e, Decidable (t.Spares e)
  | .write _ => inferInstanceAs (Decidable (∀ fr ∈ _, _))
  | .process _ => isTrue trivial

end Loopback

/-- Some write put the payload into the item's slot under the item's number. -/
def HubRawFrameRef.Published {ι θ : Type*} (fr : HubRawFrameRef) (hub : ι) (log : List (Logged ι θ))
    (bytes : List UInt8) : Prop :=
  ∃ c, (c, some (fr.hubSlotSeq, fr.hubSlotIndex)) ∈ log ∧ c.ring = hub ∧ c.image.bytes = bytes

end Camera3D.Recon
