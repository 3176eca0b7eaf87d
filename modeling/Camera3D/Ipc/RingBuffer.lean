import Camera3D.Memory.LittleEndian

/-! The shared-memory frame ring: binary layout, creation, slot writes and slot reads.
A pointer into the mapping is its byte offset from the mapping's base. -/
namespace Camera3D.Ipc
open Memory

def kDefaultHubRingRegionName : String := "camera3d_hub_ring"
def kDefaultHubRingSlotCount : UInt32 := 64
def kDefaultHubRingTotalBytes : UInt64 := 512 * 1024 * 1024

def kMagic : UInt32 := 0xC3D30001

structure ShmGlobalHeader where
  magic : UInt32
  version : UInt32
  slotCount : UInt32
  slotStrideBytes : UInt32
  deriving DecidableEq

structure ShmSlotHeader where
  seqPublish : UInt64
  width : UInt32
  height : UInt32
  pixelFormat : UInt32
  reserved0 : UInt32
  payloadOffset : UInt64
  payloadSize : UInt64
  timestampUnixNs : Int64
  deriving DecidableEq

/-- `sizeof(ShmGlobalHeader)` and `sizeof(ShmSlotHeader)`, both packed to one byte. -/
def globalHeaderBytes : ℕ := 16
def slotHeaderBytes : ℕ := 48

def ShmGlobalHeader.load (m : Mem) : ShmGlobalHeader where
  magic := load32 m 0
  version := load32 m 4
  slotCount := load32 m 8
  slotStrideBytes := load32 m 12

def ShmGlobalHeader.store (m : Mem) (g : ShmGlobalHeader) : Mem :=
  store32 (store32 (store32 (store32 m 0 g.magic) 4 g.version) 8 g.slotCount) 12 g.slotStrideBytes

def ShmSlotHeader.load (m : Mem) (a : ℕ) : ShmSlotHeader where
  seqPublish := load64 m a
  width := load32 m (a + 8)
  height := load32 m (a + 12)
  pixelFormat := load32 m (a + 16)
  reserved0 := load32 m (a + 20)
  payloadOffset := load64 m (a + 24)
  payloadSize := load64 m (a + 32)
  timestampUnixNs := (load64 m (a + 40)).toInt64

/-- `bytes` and `mapped_size` of a mapped region. -/
structure Mapping where
  bytes : Mem
  mappedSize : UInt64

def slotAddr (i : UInt32) : ℕ := globalHeaderBytes + slotHeaderBytes * i.toNat

def Mapping.global (m : Mapping) : ShmGlobalHeader := .load m.bytes

def Mapping.slot (m : Mapping) (i : UInt32) : ShmSlotHeader := .load m.bytes (slotAddr i)

def Mapping.payload (m : Mapping) (i : UInt32) : List UInt8 :=
  read m.bytes (m.slot i).payloadOffset.toNat (m.slot i).payloadSize.toNat

/-- `headers_end`, in the 64-bit arithmetic of `std::size_t`. -/
def headersEnd (slotCount : UInt32) : UInt64 := 16 + 48 * slotCount.toUInt64

def Mapping.perSlot (m : Mapping) : UInt64 :=
  (m.mappedSize - headersEnd m.global.slotCount) / m.global.slotCount.toUInt64

/-- The `memset` and the global header written when a region is created. -/
def Mapping.initialise (m : Mapping) : Mapping where
  mappedSize := m.mappedSize
  bytes :=
    let perSlotPayload := (m.mappedSize - headersEnd kDefaultHubRingSlotCount) /
      kDefaultHubRingSlotCount.toUInt64
    ShmGlobalHeader.store (fun x => if x < m.mappedSize.toNat then 0 else m.bytes x)
      { magic := kMagic, version := 1, slotCount := kDefaultHubRingSlotCount,
        slotStrideBytes := (48 + perSlotPayload).toUInt32 }

structure SlotView where
  outMeta : ShmSlotHeader
  outPayload : UInt64
  outPayloadLen : UInt64
  deriving DecidableEq

def Mapping.tryReadSlot (m : Mapping) (slotIndex : UInt32) : Option SlotView :=
  if m.global.magic ≠ kMagic then none
  else if m.global.slotCount ≤ slotIndex then none
  else
    let slot := m.slot slotIndex
    if slot.seqPublish = 0 ∨ slot.payloadSize = 0 then none
    else if m.mappedSize < slot.payloadOffset + slot.payloadSize then none
    else some ⟨slot, slot.payloadOffset, slot.payloadSize⟩

def Mapping.maxPublishedSeq (m : Mapping) : UInt64 :=
  if m.global.magic ≠ kMagic then 0
  else (List.range m.global.slotCount.toNat).foldl
    (fun best i => max best (m.slot (.ofNat i)).seqPublish) 0

/-- The scan of `TryReadLatestSlot`: a later slot wins a tie. -/
def latestSlot (seq : ℕ → UInt64) (n : ℕ) : UInt64 × ℕ :=
  (List.range n).foldl (fun best i => if best.1 ≤ seq i then (seq i, i) else best) (0, 0)

def Mapping.tryReadLatestSlot (m : Mapping) : Option (SlotView × UInt32) :=
  if m.global.magic ≠ kMagic then none
  else
    let best := latestSlot (fun i => (m.slot (.ofNat i)).seqPublish) m.global.slotCount.toNat
    if best.1 = 0 then none
    else (m.tryReadSlot (.ofNat best.2)).map fun v => (v, .ofNat best.2)

/-- `TryReadMappedRange`: the sum is checked for wrapping. -/
def Mapping.tryReadMappedRange (m : Mapping) (offsetBytes sizeBytes : UInt64) :
    Option (UInt64 × UInt64) :=
  if sizeBytes = 0 then none
  else
    let stop := offsetBytes + sizeBytes
    if m.mappedSize < stop ∨ stop < offsetBytes then none
    else some (offsetBytes, sizeBytes)

/-- The field stores of a published slot header, in the order of the source. -/
def publishHeader (m : Mem) (a : ℕ) (seq : UInt64) (width height pixelFormat : UInt32)
    (offset size : UInt64) : Mem :=
  let m := store32 m (a + 8) width
  let m := store32 m (a + 12) height
  let m := store32 m (a + 16) pixelFormat
  let m := store64 m (a + 24) offset
  let m := store64 m (a + 32) size
  store64 m a seq

structure WriteResult where
  mapping : Mapping
  sNext : UInt32
  /-- `*out_seq` and `*out_slot_index`, when the write succeeds. -/
  published : Option (UInt64 × UInt32)

/-- `sNext` is the calling thread's cursor. It moves on even when the payload is refused. -/
def Mapping.tryWriteNextSlot (m : Mapping) (sNext : UInt32) (payload : List UInt8)
    (width height pixelFormat : UInt32) : WriteResult :=
  if m.global.magic ≠ kMagic then ⟨m, sNext, none⟩
  else
    let idx := sNext % m.global.slotCount
    let nextSeq := (m.slot idx).seqPublish + 1
    if m.perSlot.toNat < payload.length then ⟨m, sNext + 1, none⟩
    else
      let payloadBase := headersEnd m.global.slotCount + idx.toUInt64 * m.perSlot
      let bytes := write m.bytes payloadBase.toNat payload
      let bytes := publishHeader bytes (slotAddr idx) nextSeq width height pixelFormat
        payloadBase (.ofNat payload.length)
      ⟨{ m with bytes }, sNext + 1, some (nextSeq, idx)⟩

/-- A ring buffer object: the cached region name and the region it maps, if any. -/
structure ShmRingBuffer where
  name : String := ""
  mapping : Option Mapping := none

/-- What the Boost calls of `CreateOrOpen` come to: one of them throws, or a region is mapped. -/
inductive BoostOutcome where
  | throws
  | mapped (m : Mapping)

def ShmRingBuffer.createOrOpen (rb : ShmRingBuffer) (boost : BoostOutcome) (regionName : String)
    (createIfMissing : Bool) : ShmRingBuffer × Bool :=
  match boost with
  | .throws => ({ rb with name := regionName }, false)
  | .mapped m =>
    if createIfMissing then
      if m.mappedSize < headersEnd kDefaultHubRingSlotCount + 1024 then
        (⟨regionName, some m⟩, false)
      else (⟨regionName, some m.initialise⟩, true)
    else (⟨regionName, some m⟩, true)

def ShmRingBuffer.tryReadSlot (rb : ShmRingBuffer) (slotIndex : UInt32) : Option SlotView :=
  rb.mapping.bind (·.tryReadSlot slotIndex)

/-- Without a mapping the call fails before the cursor moves. -/
def ShmRingBuffer.tryWriteNextSlot (rb : ShmRingBuffer) (sNext : UInt32) (payload : List UInt8)
    (width height pixelFormat : UInt32) : ShmRingBuffer × UInt32 × Option (UInt64 × UInt32) :=
  match rb.mapping with
  | none => (rb, sNext, none)
  | some m =>
    let r := m.tryWriteNextSlot sNext payload width height pixelFormat
    ({ rb with mapping := some r.mapping }, r.sNext, r.published)

end Camera3D.Ipc
