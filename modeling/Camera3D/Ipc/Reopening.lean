import Camera3D.Ipc.RingBuffer
import Camera3D.Transition.Run
import Mathlib.Logic.Function.Basic

/-! One ring buffer object that is created and opened again and again, down to the five fields of
its `Impl` and the steps of a call that may throw. -/
namespace Camera3D.Ipc
open Transition

/-- The shared memory objects of the system, and the names under which they can be opened. A name
that is removed and created again stands for another object. -/
structure SharedMemory where
  named : String → Option ℕ
  object : ℕ → Mapping
  next : ℕ
  named_lt : ∀ {name o}, named name = some o → o < next
  named_inj : ∀ {name name' o}, named name = some o → named name' = some o → name = name'

namespace SharedMemory

def remove (os : SharedMemory) (name : String) : SharedMemory where
  named := Function.update os.named name none
  object := os.object
  next := os.next
  named_lt {name' o} h := by
    by_cases hn : name' = name
    · simp [hn] at h
    · exact os.named_lt (by simpa [hn] using h)
  named_inj {n n' o} h h' := by
    by_cases hn : n = name
    · simp [hn] at h
    · by_cases hn' : n' = name
      · simp [hn'] at h'
      · exact os.named_inj (by simpa [hn] using h) (by simpa [hn'] using h')

/-- `create_only`: a new object, still without bytes. -/
def create (os : SharedMemory) (name : String) : SharedMemory where
  named := Function.update os.named name (some os.next)
  object := Function.update os.object os.next ⟨fun _ => 0, 0⟩
  next := os.next + 1
  named_lt {name' o} h := by
    by_cases hn : name' = name
    · simp only [hn, Function.update_self, Option.some.injEq] at h
      omega
    · exact (os.named_lt (by simpa [hn] using h)).trans (Nat.lt_succ_self _)
  named_inj {n n' o} h h' := by
    by_cases hn : n = name
    · by_cases hn' : n' = name
      · rw [hn, hn']
      · simp only [hn, Function.update_self, Option.some.injEq] at h
        have hlt := os.named_lt (by simpa [hn'] using h')
        omega
    · have hlt := os.named_lt (by simpa [hn] using h)
      by_cases hn' : n' = name
      · simp only [hn', Function.update_self, Option.some.injEq] at h'
        omega
      · exact os.named_inj (by simpa [hn] using h) (by simpa [hn'] using h')

/-- The bytes and the size of an object change, its name does not. -/
def setObject (os : SharedMemory) (o : ℕ) (m : Mapping) : SharedMemory :=
  { os with object := Function.update os.object o m }

variable (os : SharedMemory) (name : String)

@[simp] theorem named_remove_self : (os.remove name).named name = none := Function.update_self ..

@[simp] theorem named_create_self : (os.create name).named name = some os.next :=
  Function.update_self ..

end SharedMemory

/-- `ShmRingBuffer::Impl`; the handle, the region and the base pointer are known by their object. -/
structure Impl where
  name : String := ""
  shm : Option ℕ := none
  region : Option ℕ := none
  bytes : Option ℕ := none
  mappedSize : UInt64 := 0

/-- The arguments of one call, and what the Boost calls in it come to: whether `remove` takes the
name away, and whether the object, `truncate` and the region can be had without a throw. -/
structure Attempt where
  regionName : String
  totalBytes : UInt64
  createIfMissing : Bool
  removes : Bool := true
  constructs : Bool := true
  truncates : Bool := true
  maps : Bool := true

structure Buffer where
  os : SharedMemory
  impl : Impl := {}

namespace ShmRingBuffer

def slotCount (rb : ShmRingBuffer) : UInt32 := rb.mapping.elim 0 (·.global.slotCount)

def maxPublishedSeq (rb : ShmRingBuffer) : UInt64 := rb.mapping.elim 0 (·.maxPublishedSeq)

def tryReadLatestSlot (rb : ShmRingBuffer) : Option (SlotView × UInt32) :=
  rb.mapping.bind (·.tryReadLatestSlot)

def tryReadMappedRange (rb : ShmRingBuffer) (offsetBytes sizeBytes : UInt64) :
    Option (UInt64 × UInt64) := rb.mapping.bind (·.tryReadMappedRange offsetBytes sizeBytes)

/-- Every read and every write fails. -/
structure Silent (rb : ShmRingBuffer) : Prop where
  slotCount : rb.slotCount = 0
  maxPublishedSeq : rb.maxPublishedSeq = 0
  tryReadSlot : ∀ i, rb.tryReadSlot i = none
  tryReadLatestSlot : rb.tryReadLatestSlot = none
  tryReadMappedRange : ∀ offset size, rb.tryReadMappedRange offset size = none
  tryWriteNextSlot : ∀ sNext payload width height pixelFormat,
    (rb.tryWriteNextSlot sNext payload width height pixelFormat).2.2 = none

theorem silent_of_unmapped {rb : ShmRingBuffer} (h : rb.mapping = none) : rb.Silent := by
  obtain ⟨name, mapping⟩ := rb
  obtain rfl : mapping = none := h
  exact ⟨rfl, rfl, fun _ => rfl, rfl, fun _ _ => rfl, fun _ _ _ _ _ => rfl⟩

end ShmRingBuffer

namespace Buffer

/-- The region, the base pointer and the size, which are set together. -/
def mapRegion (os : SharedMemory) (impl : Impl) (o : ℕ) : Impl :=
  { impl with region := some o, bytes := some o, mappedSize := (os.object o).mappedSize }

/-- `create_only`, `truncate`, the region, and the header where the region is large enough. -/
def createOnly (os : SharedMemory) (impl : Impl) (a : Attempt) : Buffer × Bool :=
  if a.constructs ∧ os.named a.regionName = none then
    let o := os.next
    let os := os.create a.regionName
    let impl := { impl with shm := some o }
    if a.truncates then
      let os := os.setObject o ⟨fun _ => 0, a.totalBytes⟩
      if a.maps then
        let impl := mapRegion os impl o
        if impl.mappedSize < headersEnd kDefaultHubRingSlotCount + 1024 then (⟨os, impl⟩, false)
        else (⟨os.setObject o (os.object o).initialise, impl⟩, true)
      else (⟨os, impl⟩, false)
    else (⟨os, impl⟩, false)
  else (⟨os, impl⟩, false)

def openOnly (os : SharedMemory) (impl : Impl) (a : Attempt) : Buffer × Bool :=
  match os.named a.regionName with
  | none => (⟨os, impl⟩, false)
  | some o =>
    if a.constructs then
      let impl := { impl with shm := some o }
      if a.maps then (⟨os, mapRegion os impl o⟩, true) else (⟨os, impl⟩, false)
    else (⟨os, impl⟩, false)

/-- The name comes first, before anything can throw. -/
def createOrOpen (s : Buffer) (a : Attempt) : Buffer × Bool :=
  let impl := { s.impl with name := a.regionName }
  if a.createIfMissing then
    createOnly (if a.removes then s.os.remove a.regionName else s.os) impl a
  else openOnly s.os impl a

def step (s : Buffer) (a : Attempt) : Buffer := (s.createOrOpen a).1

/-- A Boost call throws, given the names that there are when the object is asked for. -/
def ThrowsOn (os : SharedMemory) (a : Attempt) : Prop :=
  a.constructs = false ∨ a.maps = false ∨
    if a.createIfMissing then a.truncates = false ∨ os.named a.regionName ≠ none
    else os.named a.regionName = none

def Throws (s : Buffer) (a : Attempt) : Prop :=
  ThrowsOn (if a.createIfMissing ∧ a.removes then s.os.remove a.regionName else s.os) a

/-- What the accessors work on. -/
def view (s : Buffer) : ShmRingBuffer where
  name := s.impl.name
  mapping := s.impl.bytes.map fun o => ⟨(s.os.object o).bytes, s.impl.mappedSize⟩

/-- Object `o` is mapped, the handle refers to it, and `RegionName` is its name. -/
structure Whole (s : Buffer) (o : ℕ) : Prop where
  shm : s.impl.shm = some o
  region : s.impl.region = some o
  bytes : s.impl.bytes = some o
  named : s.os.named s.impl.name = some o

/-- What a call keeps of the buffer where it throws. -/
structure Kept (s s' : Buffer) : Prop where
  region : s'.impl.region = s.impl.region
  bytes : s'.impl.bytes = s.impl.bytes
  mappedSize : s'.impl.mappedSize = s.impl.mappedSize
  name : s'.impl.name = s.impl.name
  next : s.os.next ≤ s'.os.next
  named : ∀ o < s.os.next, ∀ name, s'.os.named name = some o → s.os.named name = some o

section Steps
variable {os : SharedMemory} (impl : Impl) {a : Attempt}

theorem createOnly_throws (hcreate : a.createIfMissing = true) (h : ThrowsOn os a) :
    (createOnly os impl a).2 = false ∧ Kept ⟨os, impl⟩ (createOnly os impl a).1 := by
  -- what is created is newer than every object there was
  have hnamed : ∀ o < os.next, ∀ name, (os.create a.regionName).named name = some o →
      os.named name = some o := by
    intro o ho name hname
    by_cases hn : name = a.regionName
    · rw [hn, SharedMemory.named_create_self, Option.some.injEq] at hname
      omega
    · simpa [SharedMemory.create, hn] using hname
  unfold ThrowsOn at h
  rw [hcreate, if_pos rfl] at h
  unfold createOnly
  dsimp only
  split_ifs with hfree htruncates hmaps
  · simp_all
  · simp_all
  · exact ⟨rfl, rfl, rfl, rfl, rfl, Nat.le_succ _, hnamed⟩
  · exact ⟨rfl, rfl, rfl, rfl, rfl, Nat.le_succ _, hnamed⟩
  · exact ⟨rfl, rfl, rfl, rfl, rfl, le_refl _, fun _ _ _ h => h⟩

theorem openOnly_throws (hopen : a.createIfMissing = false) (h : ThrowsOn os a) :
    (openOnly os impl a).2 = false ∧ Kept ⟨os, impl⟩ (openOnly os impl a).1 := by
  unfold ThrowsOn at h
  rw [hopen] at h
  unfold openOnly
  split
  · exact ⟨rfl, rfl, rfl, rfl, rfl, le_refl _, fun _ _ _ h => h⟩
  · split_ifs with hconstructs hmaps
    · simp_all
    · exact ⟨rfl, rfl, rfl, rfl, rfl, le_refl _, fun _ _ _ h => h⟩
    · exact ⟨rfl, rfl, rfl, rfl, rfl, le_refl _, fun _ _ _ h => h⟩

theorem createOnly_maps (hcreate : a.createIfMissing = true) (h : ¬ ThrowsOn os a)
    (hname : impl.name = a.regionName) :
    (createOnly os impl a).1.Whole os.next := by
  unfold ThrowsOn at h
  rw [hcreate, if_pos rfl] at h
  unfold createOnly
  dsimp only
  split_ifs with hfree htruncates hmaps
  · exact ⟨rfl, rfl, rfl, hname ▸ SharedMemory.named_create_self os a.regionName⟩
  · exact ⟨rfl, rfl, rfl, hname ▸ SharedMemory.named_create_self os a.regionName⟩
  · simp_all
  · simp_all
  · simp_all

theorem openOnly_maps (hopen : a.createIfMissing = false) (h : ¬ ThrowsOn os a)
    (hname : impl.name = a.regionName) :
    (openOnly os impl a).2 = true ∧ ∃ o, (openOnly os impl a).1.Whole o := by
  unfold ThrowsOn at h
  rw [hopen] at h
  unfold openOnly
  split
  · simp_all
  · rename_i o hnamed
    split_ifs with hconstructs hmaps
    · exact ⟨rfl, o, rfl, rfl, rfl, hname ▸ hnamed⟩
    · simp_all
    · simp_all

end Steps

/-- A call that throws leaves the mapping alone; the name is the new one already, and an object
that it stands for was there before the call only if nothing was removed. -/
theorem createOrOpen_throws {s : Buffer} {a : Attempt} (h : s.Throws a) :
    (s.createOrOpen a).2 = false ∧ (s.step a).impl.name = a.regionName ∧
      (s.step a).impl.region = s.impl.region ∧ (s.step a).impl.bytes = s.impl.bytes ∧
      s.os.next ≤ (s.step a).os.next ∧
      ∀ o < s.os.next, (s.step a).os.named a.regionName = some o →
        s.os.named a.regionName = some o ∧ (a.createIfMissing = true → a.removes = false) := by
  unfold Throws at h
  unfold step createOrOpen
  cases hcreate : a.createIfMissing with
  | true =>
    cases hremoves : a.removes with
    | true =>
      simp only [hcreate, hremoves, and_self, if_true] at h ⊢
      obtain ⟨hfail, hkept⟩ := createOnly_throws { s.impl with name := a.regionName } hcreate h
      refine ⟨hfail, hkept.name, hkept.region, hkept.bytes, hkept.next, fun o ho hname => ?_⟩
      have hgone := hkept.named o ho _ hname
      rw [SharedMemory.named_remove_self] at hgone
      cases hgone
    | false =>
      simp only [hcreate, hremoves, Bool.false_eq_true, and_false, if_true, if_false] at h ⊢
      obtain ⟨hfail, hkept⟩ := createOnly_throws { s.impl with name := a.regionName } hcreate h
      exact ⟨hfail, hkept.name, hkept.region, hkept.bytes, hkept.next,
        fun o ho hname => ⟨hkept.named o ho _ hname, fun _ => trivial⟩⟩
  | false =>
    simp only [hcreate, Bool.false_eq_true, false_and, if_false] at h ⊢
    obtain ⟨hfail, hkept⟩ := openOnly_throws { s.impl with name := a.regionName } hcreate h
    exact ⟨hfail, hkept.name, hkept.region, hkept.bytes, hkept.next,
      fun o ho hname => ⟨hkept.named o ho _ hname, fun hc => by cases hc⟩⟩

/-- A call that throws without having touched the name of the mapped object changes nothing. -/
theorem createOrOpen_throws_same {s : Buffer} {a : Attempt} {o : ℕ} (h : s.Throws a)
    (hs : s.Whole o) (hname : a.regionName = s.impl.name)
    (hremoves : a.createIfMissing = true → a.removes = false) : s.createOrOpen a = (s, false) := by
  obtain ⟨hshm, _, _, hnamed⟩ := hs
  have himpl : { s.impl with name := a.regionName, shm := some o } = s.impl := by
    rw [hname, ← hshm]
  have hold : { s.impl with name := a.regionName } = s.impl := by rw [hname]
  unfold Throws at h
  unfold createOrOpen
  rw [← hname] at hnamed
  cases hcreate : a.createIfMissing with
  | true =>
    have htaken : ¬ (a.constructs = true ∧ s.os.named a.regionName = none) := by simp [hnamed]
    simp only [hold, hremoves hcreate, Bool.false_eq_true, if_true, if_false, createOnly, if_neg htaken]
  | false =>
    simp only [hcreate, Bool.false_eq_true, false_and, if_false, ThrowsOn, hnamed] at h
    simp only [Bool.false_eq_true, if_false, openOnly, hnamed]
    split_ifs with hconstructs hmaps
    · simp_all
    · exact congrArg (fun impl => ((⟨s.os, impl⟩ : Buffer), false)) himpl
    · exact congrArg (fun impl => ((⟨s.os, impl⟩ : Buffer), false)) hold

/-- A call that does not throw maps the object that its name stands for; where the region is
refused as too small, that object is a new one. -/
theorem createOrOpen_maps {s : Buffer} {a : Attempt} (h : ¬ s.Throws a) :
    ∃ o, (s.step a).Whole o ∧ ((s.createOrOpen a).2 = false → s.os.next ≤ o) := by
  unfold Throws at h
  unfold step createOrOpen
  cases hcreate : a.createIfMissing with
  | true =>
    have hnext : (if a.removes = true then s.os.remove a.regionName else s.os).next = s.os.next := by
      split_ifs <;> rfl
    simp only [hcreate, true_and, if_true] at h ⊢
    exact ⟨_, createOnly_maps _ hcreate h rfl, fun _ => hnext.ge⟩
  | false =>
    simp only [hcreate, Bool.false_eq_true, false_and, if_false] at h ⊢
    obtain ⟨hok, o, hwhole⟩ := openOnly_maps { s.impl with name := a.regionName } hcreate h rfl
    exact ⟨o, hwhole, fun hfail => absurd (hok.symm.trans hfail) (by simp)⟩

/-- A buffer that maps an object of its system sees no other object. -/
theorem view_congr {s s' : Buffer} (hname : s'.impl.name = s.impl.name)
    (hbytes : s'.impl.bytes = s.impl.bytes) (hsize : s'.impl.mappedSize = s.impl.mappedSize)
    (hobject : ∀ o, s.impl.bytes = some o → s'.os.object o = s.os.object o) : s'.view = s.view := by
  unfold view
  rw [hname, hbytes, hsize]
  cases h : s.impl.bytes with
  | none => rfl
  | some o => rw [Option.map_some, Option.map_some, hobject o h]

theorem createOnly_view (os : SharedMemory) (impl : Impl) (a : Attempt)
    (hmapped : ∀ o, impl.bytes = some o → o < os.next) :
    ∃ boost, (view ⟨os, impl⟩).createOrOpen boost impl.name true =
      ((createOnly os impl a).1.view, (createOnly os impl a).2) := by
  have hcreate : ∀ o, impl.bytes = some o →
      (os.create a.regionName).object o = os.object o :=
    fun o ho => Function.update_of_ne (hmapped o ho).ne _ _
  have hset : ∀ m o, impl.bytes = some o →
      ((os.create a.regionName).setObject os.next m).object o = os.object o :=
    fun m o ho => (Function.update_of_ne (hmapped o ho).ne _ _).trans (hcreate o ho)
  unfold createOnly
  dsimp only
  split_ifs with hfree htruncates hmaps hsmall
  · refine ⟨.mapped ⟨fun _ => 0, a.totalBytes⟩, ?_⟩
    simp only [mapRegion, SharedMemory.setObject, Function.update_self] at hsmall
    simp [ShmRingBuffer.createOrOpen, view, mapRegion, SharedMemory.setObject, hsmall]
  · refine ⟨.mapped ⟨fun _ => 0, a.totalBytes⟩, ?_⟩
    simp only [mapRegion, SharedMemory.setObject, Function.update_self] at hsmall
    simp [ShmRingBuffer.createOrOpen, view, mapRegion, SharedMemory.setObject, hsmall]
    rfl
  · refine ⟨.throws, Prod.ext ?_ rfl⟩
    change view ⟨os, impl⟩ = view _
    symm
    refine view_congr rfl rfl rfl ?_
    exact hset _
  · refine ⟨.throws, Prod.ext ?_ rfl⟩
    change view ⟨os, impl⟩ = view _
    symm
    refine view_congr rfl rfl rfl ?_
    exact hcreate
  · exact ⟨.throws, rfl⟩

theorem openOnly_view (os : SharedMemory) (impl : Impl) (a : Attempt) :
    ∃ boost, (view ⟨os, impl⟩).createOrOpen boost impl.name false =
      ((openOnly os impl a).1.view, (openOnly os impl a).2) := by
  unfold openOnly
  split
  · exact ⟨.throws, rfl⟩
  · rename_i o _
    split_ifs
    · exact ⟨.mapped (os.object o), rfl⟩
    · exact ⟨.throws, rfl⟩
    · exact ⟨.throws, rfl⟩

theorem createOrOpen_view (s : Buffer) (a : Attempt)
    (hmapped : ∀ o, s.impl.bytes = some o → o < s.os.next) :
    ∃ boost, s.view.createOrOpen boost a.regionName a.createIfMissing =
      ((s.step a).view, (s.createOrOpen a).2) := by
  have hname : ∀ boost create, s.view.createOrOpen boost a.regionName create =
      (view ⟨s.os, { s.impl with name := a.regionName }⟩).createOrOpen boost a.regionName create := by
    intro boost create
    cases boost <;> rfl
  unfold step createOrOpen
  cases a.createIfMissing with
  | true =>
    simp only [if_true, hname]
    cases a.removes with
    | true =>
      exact createOnly_view (s.os.remove a.regionName) { s.impl with name := a.regionName } a hmapped
    | false => exact createOnly_view s.os { s.impl with name := a.regionName } a hmapped
  | false =>
    simp only [Bool.false_eq_true, if_false, hname]
    exact openOnly_view s.os { s.impl with name := a.regionName } a

theorem mapped_lt_step {s : Buffer} (a : Attempt) (h : ∀ o, s.impl.bytes = some o → o < s.os.next) :
    ∀ o, (s.step a).impl.bytes = some o → o < (s.step a).os.next := by
  by_cases hthrows : s.Throws a
  · obtain ⟨_, _, _, hbytes, hnext, _⟩ := createOrOpen_throws hthrows
    rw [hbytes]
    exact fun o ho => (h o ho).trans_le hnext
  · obtain ⟨o, hwhole, _⟩ := createOrOpen_maps hthrows
    rw [hwhole.bytes]
    rintro _ ⟨⟩
    exact (s.step a).os.named_lt hwhole.named

/-- Seen through the accessors, every call of a run is one of the ring buffer object as a whole. -/
theorem run_createOrOpen_view (os : SharedMemory) (as : List Attempt) (a : Attempt) :
    ∃ boost, (run step ⟨os, {}⟩ as).view.createOrOpen boost a.regionName a.createIfMissing =
      ((run step ⟨os, {}⟩ (as ++ [a])).view, ((run step ⟨os, {}⟩ as).createOrOpen a).2) := by
  have hmapped := run_invariant
    (I := fun s : Buffer => ∀ o, s.impl.bytes = some o → o < s.os.next)
    (fun _ a hs => mapped_lt_step a hs) (s := ⟨os, {}⟩) (by simp) as
  rw [run_concat]
  exact createOrOpen_view _ a hmapped

/-- `RegionName` names the region that the accessors work on, or nothing is mapped and they fail. -/
def Unmixed (s : Buffer) : Prop :=
  (∃ o, s.Whole o) ∨ s.impl.region = none ∧ s.impl.bytes = none ∧ s.view.Silent

/-- The call leaves no mixed buffer behind; if it fails, the region that was mapped is in use under
its own name with its bytes as they were, or it is released. -/
def KeepsWhole (s : Buffer) (a : Attempt) : Prop :=
  (s.step a).Unmixed ∧ ((s.createOrOpen a).2 = false → ∀ o, s.Whole o →
    ((s.step a).Whole o ∧ (s.step a).impl.name = s.impl.name ∧
      (s.step a).os.object o = s.os.object o) ∨
    ((s.step a).impl.region ≠ some o ∧ (s.step a).impl.bytes ≠ some o))

/-- A call that throws finds nothing mapped, or it is made under the name of the mapped region
and does not remove that name. -/
def Harmless (s : Buffer) (a : Attempt) : Prop :=
  s.Throws a → s.impl.bytes = none ∨
    a.regionName = s.impl.name ∧ (a.createIfMissing = true → a.removes = false)

theorem keepsWhole_of_maps {s : Buffer} {a : Attempt} (h : ¬ s.Throws a) : s.KeepsWhole a := by
  obtain ⟨o, hwhole, hnew⟩ := createOrOpen_maps h
  refine ⟨.inl ⟨o, hwhole⟩, fun hfail o' hold => .inr ?_⟩
  have hne : o ≠ o' := ((s.os.named_lt hold.named).trans_le (hnew hfail)).ne'
  rw [hwhole.region, hwhole.bytes]
  constructor
  · simpa using hne
  · simpa using hne

theorem keepsWhole_iff {s : Buffer} {a : Attempt} (hs : s.Unmixed) :
    s.KeepsWhole a ↔ s.Harmless a := by
  by_cases hthrows : s.Throws a
  · obtain ⟨_, hname, hregion, hbytes, _, hnamed⟩ := createOrOpen_throws hthrows
    rcases hs with ⟨o, hwhole⟩ | ⟨hnone, hunmapped, _⟩
    · constructor
      · rintro ⟨hunmixed, _⟩ _
        rcases hunmixed with ⟨o', hwhole'⟩ | ⟨_, hunmapped, _⟩
        · obtain rfl : o' = o := by
            have ho := hwhole'.bytes
            rw [hbytes, hwhole.bytes] at ho
            exact (Option.some.inj ho).symm
          have hfound := hwhole'.named
          rw [hname] at hfound
          obtain ⟨hbefore, hkept⟩ := hnamed o' (s.os.named_lt hwhole.named) hfound
          exact .inr ⟨s.os.named_inj hbefore hwhole.named, hkept⟩
        · rw [hbytes, hwhole.bytes] at hunmapped
          cases hunmapped
      · intro h
        rcases h hthrows with hunmapped | ⟨hsame, hkept⟩
        · rw [hwhole.bytes] at hunmapped
          cases hunmapped
        · have hstep : s.step a = s :=
            congrArg Prod.fst (createOrOpen_throws_same hthrows hwhole hsame hkept)
          rw [KeepsWhole, hstep]
          refine ⟨.inl ⟨o, hwhole⟩, fun _ o' hold => .inl ⟨hold, rfl, rfl⟩⟩
    · refine iff_of_true ⟨.inr ⟨hregion.trans hnone, hbytes.trans hunmapped, ?_⟩, fun _ o hold => ?_⟩
        fun _ => .inl hunmapped
      · refine ShmRingBuffer.silent_of_unmapped ?_
        rw [view, hbytes, hunmapped, Option.map_none]
      · exact absurd (hunmapped.symm.trans hold.bytes) (by simp)
  · exact iff_of_true (keepsWhole_of_maps hthrows) fun h => absurd h hthrows

theorem fresh_unmixed (os : SharedMemory) : Unmixed ⟨os, {}⟩ :=
  .inr ⟨rfl, rfl, ShmRingBuffer.silent_of_unmapped rfl⟩

/-- A run of calls on one buffer leaves it unmixed after each of them if and only if no call that
throws finds a region mapped under another name, or takes the name of the mapped region away. -/
theorem along_keepsWhole_iff (os : SharedMemory) (as : List Attempt) :
    Along step KeepsWhole ⟨os, {}⟩ as ↔ Along step Harmless ⟨os, {}⟩ as :=
  along_congr_of (I := Unmixed) (fun _ _ _ h => h.1) (fun _ _ hs => keepsWhole_iff hs)
    (fresh_unmixed os) as

def noObjects : SharedMemory where
  named _ := none
  object _ := ⟨fun _ => 0, 0⟩
  next := 0
  named_lt h := by cases h
  named_inj h := by cases h

/-- The region `a` is created, and then `b` is opened, which does not exist. -/
def failedReopening : List Attempt := [⟨"a", 65536, true, true, true, true, true⟩,
  ⟨"b", 65536, false, true, true, true, true⟩]

/-- The buffer calls itself `b`, and the bytes are those of `a`. -/
theorem failedReopening_mixed :
    (run step ⟨noObjects, {}⟩ failedReopening).impl.name = "b" ∧
      (run step ⟨noObjects, {}⟩ failedReopening).impl.bytes = some 0 ∧
      (run step ⟨noObjects, {}⟩ failedReopening).os.named "a" = some 0 ∧
      ¬ Along step KeepsWhole ⟨noObjects, {}⟩ failedReopening := by
  have hname : (run step ⟨noObjects, {}⟩ failedReopening).impl.name = "b" := by decide +kernel
  have hbytes : (run step ⟨noObjects, {}⟩ failedReopening).impl.bytes = some 0 := by decide +kernel
  have hnamed : (run step ⟨noObjects, {}⟩ failedReopening).os.named "b" = none := by decide +kernel
  refine ⟨hname, hbytes, by decide +kernel, ?_⟩
  rintro ⟨_, ⟨hunmixed, _⟩, _⟩
  rcases hunmixed with ⟨o, hwhole⟩ | ⟨_, hunmapped, _⟩
  · have hfound := hwhole.named
    change (run step ⟨noObjects, {}⟩ failedReopening).os.named
      (run step ⟨noObjects, {}⟩ failedReopening).impl.name = some o at hfound
    rw [hname, hnamed] at hfound
    cases hfound
  · exact absurd (hbytes.symm.trans hunmapped) (by simp)

end Buffer
end Camera3D.Ipc
