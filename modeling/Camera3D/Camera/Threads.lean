import Camera3D.Camera.ManagedIds

/-! The manager called from several threads: its lock covers the table, not the calls of adapters. -/
namespace Camera3D.Camera
open Transition

inductive Use where
  | stop
  | close
  | forwarded
  deriving DecidableEq

/-- One call of an adapter, made by that call of the manager. -/
structure Touch (θ : Type*) where
  call : θ
  adapter : ℕ
  use : Use
  deriving DecidableEq

/-- `θ` names the calls of the manager. A call that has left the lock has adapters to call yet. -/
structure Threads (α θ : Type*) where
  sessions : Sessions α := {}
  pending : List (Touch θ × (α → α)) := []
  /-- History: the adapters that were put under an id. -/
  opened : List ℕ := []
  /-- History: what was done to adapters outside the lock, the latest first. -/
  done : List (Touch θ) := []

inductive ThreadAct (α θ : Type*) where
  | registerAdapter (backendId : String) (prototype : α)
  | createAndOpenDevice (device : DeviceInfo) (managerDeviceId : String) (opens : α → String → α × Bool)
  | closeDevice (call : θ) (managerDeviceId : String)
  | closeAllDevices (call : θ) (order : List ℕ)
  | forward (call : θ) (managerDeviceId : String) (acts : List (α → α))
  | go (call : θ)

namespace Threads
open ICameraAdapter Sessions

section Model
variable {α θ : Type*} [DecidableEq θ]

def Busy (c : Threads α θ) (t : θ) : Prop := ∃ x ∈ c.pending, x.1.call = t

instance (c : Threads α θ) (t : θ) : Decidable (c.Busy t) :=
  inferInstanceAs (Decidable (∃ x ∈ c.pending, x.1.call = t))

def adapters (c : Threads α θ) : List ℕ := c.sessions.open_.entries.map fun e => e.2.adapter

/-- Whatever is forwarded looks its adapter up under the lock, and calls it without. -/
def forward (c : Threads α θ) (t : θ) (managerDeviceId : String) (acts : List (α → α)) : Threads α θ :=
  match c.sessions.open_.lookup managerDeviceId with
  | none => c
  | some slot =>
    { c with pending := c.pending ++ acts.map fun f => (⟨t, slot.adapter, .forwarded⟩, f) }

/-- The call goes on to its next adapter. -/
def go (c : Threads α θ) (t : θ) : Threads α θ :=
  match c.pending.find? fun x => x.1.call = t with
  | none => c
  | some (touch, f) =>
    { c with
      sessions := { c.sessions with objects := c.sessions.objects.modify touch.adapter f }
      pending := c.pending.eraseP fun x => x.1.call = t
      done := touch :: c.done }

variable [ICameraAdapter α]

def retireTasks (t : θ) (adapter : ℕ) : List (Touch θ × (α → α)) :=
  [(⟨t, adapter, .stop⟩, stopAsyncGrab), (⟨t, adapter, .close⟩, close)]

/-- All of it is done under the lock. A clone whose id is not returned was dropped. -/
def create (maxSize : UInt64) (c : Threads α θ) (device : DeviceInfo) (managerDeviceId : String)
    (opens : α → String → α × Bool) : Threads α θ :=
  match c.sessions.createAndOpenDevice maxSize (c.sessions.open_.keys.length + 1) device
      managerDeviceId opens with
  | none => c
  | some (s, .error _) => { c with sessions := s }
  | some (s, .ok mid) =>
    { c with
      sessions := s
      opened := if mid = "" then c.opened else c.sessions.objects.length :: c.opened }

/-- The adapters leave the table under the lock, and are retired after it. -/
def remove (c : Threads α θ) (t : θ) (open_ : AList fun _ : String => Slot ℕ) (order : List ℕ) :
    Threads α θ :=
  { c with
    sessions := { c.sessions with open_ }
    pending := c.pending ++ order.flatMap (retireTasks t) }

def closeDevice (c : Threads α θ) (t : θ) (managerDeviceId : String) : Threads α θ :=
  match c.sessions.open_.lookup managerDeviceId with
  | none => c
  | some slot => c.remove t (c.sessions.open_.erase managerDeviceId) [slot.adapter]

/-- The order is that of an unordered map: any. -/
def closeAllDevices (c : Threads α θ) (t : θ) (order : List ℕ) : Threads α θ :=
  if order.Perm c.adapters then c.remove t ∅ order else c

def step (maxSize : UInt64) (c : Threads α θ) : ThreadAct α θ → Threads α θ
  | .registerAdapter backendId prototype =>
    { c with sessions := c.sessions.registerAdapter backendId prototype }
  | .createAndOpenDevice device managerDeviceId opens => c.create maxSize device managerDeviceId opens
  | .closeDevice t managerDeviceId => if c.Busy t then c else c.closeDevice t managerDeviceId
  | .closeAllDevices t order => if c.Busy t then c else c.closeAllDevices t order
  | .forward t managerDeviceId acts => if c.Busy t then c else c.forward t managerDeviceId acts
  | .go t => c.go t

def after (maxSize : UInt64) (acts : List (ThreadAct α θ)) : Threads α θ := run (step maxSize) {} acts

end Model
section Books
variable {α θ : Type*}

def todo (c : Threads α θ) : List (Touch θ) := c.pending.map Prod.fst

def begun (c : Threads α θ) : List (Touch θ) := c.todo ++ c.done

/-- How many ids have that adapter. -/
def slots (c : Threads α θ) (i : ℕ) : ℕ := c.adapters.count i

def uses (i : ℕ) (u : Use) (touches : List (Touch θ)) : ℕ :=
  touches.countP fun e => e.adapter = i ∧ e.use = u

@[simp] theorem uses_nil (i : ℕ) (u : Use) : uses i u ([] : List (Touch θ)) = 0 := by simp [uses]

theorem uses_cons (i : ℕ) (u : Use) (e : Touch θ) (touches : List (Touch θ)) :
    uses i u (e :: touches) = uses i u touches + if e.adapter = i ∧ e.use = u then 1 else 0 := by
  simp [uses, List.countP_cons]

theorem uses_append (i : ℕ) (u : Use) (es fs : List (Touch θ)) :
    uses i u (es ++ fs) = uses i u es + uses i u fs := List.countP_append

theorem uses_pos {i : ℕ} {u : Use} {touches : List (Touch θ)} {e : Touch θ} (he : e ∈ touches)
    (hadapter : e.adapter = i) (huse : e.use = u) : 0 < uses i u touches := by
  apply List.countP_pos_iff.mpr
  exact ⟨e, he, by simp [hadapter, huse]⟩

/-- An adapter that was put under an id is under it, or its retirement is under way, or it is
retired; and what was never opened is none of these. -/
structure Booked (maxSize : UInt64) (c : Threads α θ) : Prop where
  made : ∀ i ∈ c.opened, i < c.sessions.objects.length
  once : c.opened.Nodup
  size : c.sessions.open_.keys.length ≤ maxSize.toNat
  balance : ∀ i u, u ≠ .forwarded →
    c.slots i + uses i u c.todo + uses i u c.done = c.opened.count i
  paired : ∀ x ∈ c.begun, ∀ y ∈ c.begun, x.use = .stop → y.use = .close → x.adapter = y.adapter →
    x.call = y.call
  ordered : c.todo.Pairwise fun x y => ¬ (x.use = .close ∧ y.use = .stop ∧ x.adapter = y.adapter)

variable {maxSize : UInt64} {c : Threads α θ}

theorem booked_init : (({} : Threads α θ)).Booked maxSize := by
  constructor
  case size => exact Nat.zero_le _
  all_goals simp [begun, todo, slots, adapters]

theorem Booked.count_le (h : c.Booked maxSize) (i : ℕ) : c.opened.count i ≤ 1 :=
  List.nodup_iff_count_le_one.mp h.once i

/-- No stop and no close has begun of what is still under an id. -/
theorem Booked.not_mem_begun (h : c.Booked maxSize) {e : Touch θ} (hslot : 0 < c.slots e.adapter)
    (huse : e.use ≠ .forwarded) : e ∉ c.begun := by
  intro he
  have hpos := uses_pos he rfl rfl
  rw [begun, uses_append] at hpos
  have hbalance := h.balance e.adapter e.use huse
  have hcount := h.count_le e.adapter
  omega

theorem mem_begun_of_mem_todo {e : Touch θ} (he : e ∈ c.todo) : e ∈ c.begun :=
  List.mem_append_left _ he

section Added
variable {c' : Threads α θ} {tasks : List (Touch θ × (α → α))}

theorem todo_added (hpending : c'.pending = c.pending ++ tasks) :
    c'.todo = c.todo ++ tasks.map Prod.fst := by
  rw [todo, hpending, List.map_append, todo]

theorem mem_begun_added {e : Touch θ} (he : e ∈ c'.begun) (hpending : c'.pending = c.pending ++ tasks)
    (hdone : c'.done = c.done) : e ∈ c.begun ∨ e ∈ tasks.map Prod.fst := by
  rw [begun, todo_added hpending, hdone, List.mem_append, List.mem_append] at he
  rcases he with (he | he) | he
  · exact .inl (mem_begun_of_mem_todo he)
  · exact .inr he
  · exact .inl (List.mem_append_right _ he)

end Added

theorem slots_insert {open_ : AList fun _ : String => Slot ℕ} {mid : String} {slot : Slot ℕ}
    (hfresh : mid ∉ open_) (i : ℕ) :
    ((open_.insert mid slot).entries.map fun e => e.2.adapter).count i =
      (open_.entries.map fun e => e.2.adapter).count i + if slot.adapter = i then 1 else 0 := by
  rw [AList.entries_insert_of_notMem hfresh, List.map_cons, List.count_cons]
  simp

theorem slots_erase {open_ : AList fun _ : String => Slot ℕ} {mid : String} {slot : Slot ℕ}
    (hslot : open_.lookup mid = some slot) (i : ℕ) :
    ((open_.erase mid).entries.map fun e => e.2.adapter).count i + [slot.adapter].count i =
      (open_.entries.map fun e => e.2.adapter).count i := by
  have hmem : mid ∈ open_.keys := by
    apply AList.mem_keys.mp
    exact AList.lookup_isSome.mp (by rw [hslot]; rfl)
  obtain ⟨slot', before, after, hbefore, hentries, herase⟩ := List.exists_of_kerase hmem
  have hlookup : open_.lookup mid = some slot' := by
    apply AList.mem_lookup_iff.mpr
    rw [hentries]
    simp
  cases hslot.symm.trans hlookup
  have herased : (open_.erase mid).entries = before ++ after := herase
  rw [herased, hentries]
  simp only [List.map_append, List.map_cons, List.count_append, List.count_cons, List.count_nil]
  omega

end Books

section Steps
variable {α θ : Type*} [DecidableEq θ] {maxSize : UInt64} {c : Threads α θ}

omit [DecidableEq θ] in
theorem Booked.forward (h : c.Booked maxSize) (t : θ) (mid : String) (acts : List (α → α)) :
    (c.forward t mid acts).Booked maxSize := by
  unfold Threads.forward
  cases hslot : c.sessions.open_.lookup mid with
  | none => exact h
  | some slot =>
    dsimp only
    set tasks : List (Touch θ × (α → α)) := acts.map fun f => (⟨t, slot.adapter, .forwarded⟩, f)
    have hforwarded : ∀ e ∈ tasks.map Prod.fst, e.use = .forwarded := by
      intro e he
      simp only [tasks, List.map_map, List.mem_map] at he
      obtain ⟨f, _, rfl⟩ := he
      rfl
    have htodo : ({ c with pending := c.pending ++ tasks } : Threads α θ).todo =
        c.todo ++ tasks.map Prod.fst := todo_added rfl
    constructor
    case made => exact h.made
    case once => exact h.once
    case size => exact h.size
    case balance =>
      intro i u hu
      have hnone : uses i u (tasks.map Prod.fst) = 0 := by
        apply List.countP_eq_zero.mpr
        intro e he
        have huse := hforwarded e he
        simp [huse, hu.symm]
      rw [htodo, uses_append, hnone]
      exact h.balance i u hu
    case paired =>
      intro x hx y hy hstop hclose
      rcases mem_begun_added hx rfl rfl with hx | hx
      · rcases mem_begun_added hy rfl rfl with hy | hy
        · exact h.paired x hx y hy hstop hclose
        · rw [hforwarded y hy] at hclose
          cases hclose
      · rw [hforwarded x hx] at hstop
        cases hstop
    case ordered =>
      rw [htodo, List.pairwise_append]
      refine ⟨h.ordered, ?_, ?_⟩
      · apply List.pairwise_of_forall_mem_list
        intro x hx y _ hxy
        rw [hforwarded x hx] at hxy
        cases hxy.1
      · intro x _ y hy hxy
        rw [hforwarded y hy] at hxy
        cases hxy.2.1

/-- What `go` does: the first that the call has to do yet is done. -/
theorem go_cases (c : Threads α θ) (t : θ) : c.go t = c ∨ ∃ before touch f after,
    c.pending = before ++ (touch, f) :: after ∧ touch.call = t ∧ (∀ x ∈ before, x.1.call ≠ t) ∧
    c.go t =
      { c with
        sessions := { c.sessions with objects := c.sessions.objects.modify touch.adapter f }
        pending := before ++ after
        done := touch :: c.done } := by
  unfold go
  cases hfind : c.pending.find? fun x => x.1.call = t with
  | none => exact .inl rfl
  | some task =>
    obtain ⟨touch, f⟩ := task
    obtain ⟨hcall, before, after, hpending, hbefore⟩ := List.find?_eq_some_iff_append.mp hfind
    have hcall : touch.call = t := by simpa using hcall
    have hbefore : ∀ x ∈ before, x.1.call ≠ t := by simpa using hbefore
    have herase : c.pending.eraseP (fun x => x.1.call = t) = before ++ after := by
      rw [hpending, List.eraseP_append_right _ (by simpa using hbefore)]
      simp [hcall]
    refine .inr ⟨before, touch, f, after, hpending, hcall, hbefore, ?_⟩
    dsimp only
    rw [herase]

omit [DecidableEq θ] in
/-- An adapter that is closed is not to be stopped any more. -/
theorem Booked.stopped (h : c.Booked maxSize) {before after : List (Touch θ × (α → α))}
    {touch : Touch θ} {f : α → α} (hpending : c.pending = before ++ (touch, f) :: after)
    (hbefore : ∀ x ∈ before, x.1.call ≠ touch.call) (hclose : touch.use = .close) :
    uses touch.adapter .stop c.todo = 0 := by
  have htodo : c.todo = before.map Prod.fst ++ touch :: after.map Prod.fst := by
    rw [todo, hpending]
    simp
  apply List.countP_eq_zero.mpr
  intro e he huse
  obtain ⟨hadapter, hstop⟩ : e.adapter = touch.adapter ∧ e.use = .stop := by simpa using huse
  have htouch : touch ∈ c.todo := by
    rw [htodo]
    simp
  have hcall := h.paired e (mem_begun_of_mem_todo he) touch (mem_begun_of_mem_todo htouch) hstop
    hclose hadapter
  rw [htodo, List.mem_append, List.mem_cons] at he
  rcases he with he | rfl | he
  · obtain ⟨x, hx, rfl⟩ := List.mem_map.mp he
    exact hbefore x hx hcall
  · rw [hclose] at hstop
    cases hstop
  · have hordered := h.ordered
    rw [htodo, List.pairwise_append, List.pairwise_cons] at hordered
    exact hordered.2.1.1 e he ⟨hclose, hstop, hadapter.symm⟩

theorem Booked.go (h : c.Booked maxSize) (t : θ) : (c.go t).Booked maxSize := by
  rcases c.go_cases t with hsame | ⟨before, touch, f, after, hpending, _, _, hgo⟩
  · rw [hsame]
    exact h
  · have htodo : c.todo = before.map Prod.fst ++ touch :: after.map Prod.fst := by
      rw [todo, hpending]
      simp
    have htodo' : (c.go t).todo = before.map Prod.fst ++ after.map Prod.fst := by
      rw [hgo, todo]
      simp
    have hsub : (c.go t).todo.Sublist c.todo := by
      rw [htodo, htodo']
      apply List.Sublist.append_left
      exact List.sublist_cons_self _ _
    have hdone : (c.go t).done = touch :: c.done := by rw [hgo]
    -- what was done now had begun before
    have hbegun : ∀ e ∈ (c.go t).begun, e ∈ c.begun := by
      intro e he
      rw [begun, hdone, List.mem_append, List.mem_cons] at he
      rcases he with he | rfl | he
      · exact mem_begun_of_mem_todo (hsub.subset he)
      · apply mem_begun_of_mem_todo
        rw [htodo]
        simp
      · exact List.mem_append_right _ he
    constructor
    case made =>
      rw [hgo]
      simpa using h.made
    case once =>
      rw [hgo]
      exact h.once
    case size =>
      rw [hgo]
      exact h.size
    case balance =>
      intro i u hu
      have hbalance := h.balance i u hu
      rw [htodo, uses_append, uses_cons] at hbalance
      have hslots : (c.go t).slots i = c.slots i := by
        rw [hgo]
        rfl
      have hopened : (c.go t).opened = c.opened := by rw [hgo]
      rw [htodo', uses_append, hdone, uses_cons, hslots, hopened]
      omega
    case paired =>
      intro x hx y hy
      exact h.paired x (hbegun x hx) y (hbegun y hy)
    case ordered => exact h.ordered.sublist hsub

section Locked
variable [ICameraAdapter α]

omit [DecidableEq θ] in
theorem uses_retireTasks (t : θ) (i : ℕ) {u : Use} (hu : u ≠ .forwarded) (order : List ℕ) :
    uses i u (((order.flatMap (retireTasks t)) : List (Touch θ × (α → α))).map Prod.fst) =
      order.count i := by
  induction order with
  | nil => rfl
  | cons adapter order ih =>
    rw [List.flatMap_cons, List.map_append, uses_append, ih, List.count_cons]
    cases u with
    | forwarded => exact absurd rfl hu
    | stop => simp [retireTasks, uses_cons, Nat.add_comm]
    | close => simp [retireTasks, uses_cons, Nat.add_comm]

omit [DecidableEq θ] in
theorem mem_retireTasks {t : θ} {order : List ℕ} {e : Touch θ}
    (he : e ∈ ((order.flatMap (retireTasks t)) : List (Touch θ × (α → α))).map Prod.fst) :
    e.call = t ∧ e.adapter ∈ order ∧ e.use ≠ .forwarded := by
  simp only [List.mem_map, List.mem_flatMap, retireTasks, List.mem_cons, List.not_mem_nil,
    or_false] at he
  obtain ⟨x, ⟨i, hi, rfl | rfl⟩, rfl⟩ := he
  · simp [hi]
  · simp [hi]

omit [DecidableEq θ] in
theorem pairwise_retireTasks (t : θ) {order : List ℕ} (hnodup : order.Nodup) :
    (((order.flatMap (retireTasks t)) : List (Touch θ × (α → α))).map Prod.fst).Pairwise
      fun x y => ¬ (x.use = .close ∧ y.use = .stop ∧ x.adapter = y.adapter) := by
  induction order with
  | nil => exact List.Pairwise.nil
  | cons adapter order ih =>
    rw [List.nodup_cons] at hnodup
    rw [List.flatMap_cons, List.map_append, List.pairwise_append]
    refine ⟨by simp [retireTasks], ih hnodup.2, ?_⟩
    intro x hx y hy hxy
    have hadapter : x.adapter = adapter := by
      simp only [retireTasks, List.map_cons, List.map_nil, List.mem_cons, List.not_mem_nil,
        or_false] at hx
      rcases hx with rfl | rfl <;> rfl
    have horder := (mem_retireTasks hy).2.1
    rw [← hxy.2.2, hadapter] at horder
    exact hnodup.1 horder

omit [DecidableEq θ] in
/-- What leaves the table is retired by the call that took it out. -/
theorem Booked.remove (h : c.Booked maxSize) (t : θ) {open_ : AList fun _ : String => Slot ℕ}
    {order : List ℕ} (hsize : open_.keys.length ≤ c.sessions.open_.keys.length)
    (hslots : ∀ i, (open_.entries.map fun e => e.2.adapter).count i + order.count i = c.slots i) :
    (c.remove t open_ order).Booked maxSize := by
  set tasks : List (Touch θ × (α → α)) := order.flatMap (retireTasks t)
  have htodo : (c.remove t open_ order).todo = c.todo ++ tasks.map Prod.fst := todo_added rfl
  have htaken : ∀ i ∈ order, 0 < c.slots i := by
    intro i hi
    have hcount := List.count_pos_iff.mpr hi
    have hi := hslots i
    omega
  have hnodup : order.Nodup := by
    apply List.nodup_iff_count_le_one.mpr
    intro i
    have hbalance := h.balance i .stop (by decide)
    have hcount := h.count_le i
    have hi := hslots i
    omega
  have hfree : ∀ x ∈ c.begun, ∀ y ∈ tasks.map Prod.fst, x.use ≠ .forwarded →
      x.adapter ≠ y.adapter := by
    intro x hx y hy hx' hadapter
    have hslot := htaken y.adapter (mem_retireTasks hy).2.1
    rw [← hadapter] at hslot
    exact h.not_mem_begun hslot hx' hx
  constructor
  case made => exact h.made
  case once => exact h.once
  case size => exact Nat.le_trans hsize h.size
  case balance =>
    intro i u hu
    have hbalance := h.balance i u hu
    have hi := hslots i
    rw [htodo, uses_append, uses_retireTasks t i hu]
    have hslots' : (c.remove t open_ order).slots i =
        (open_.entries.map fun e => e.2.adapter).count i := rfl
    have hdone : (c.remove t open_ order).done = c.done := rfl
    have hopened : (c.remove t open_ order).opened = c.opened := rfl
    rw [hslots', hdone, hopened]
    omega
  case paired =>
    intro x hx y hy hstop hclose hadapter
    have hx' : x.use ≠ .forwarded := by simp [hstop]
    have hy' : y.use ≠ .forwarded := by simp [hclose]
    rcases mem_begun_added hx rfl rfl with hx | hx
    · rcases mem_begun_added hy rfl rfl with hy | hy
      · exact h.paired x hx y hy hstop hclose hadapter
      · exact absurd hadapter (hfree x hx y hy hx')
    · rcases mem_begun_added hy rfl rfl with hy | hy
      · exact absurd hadapter.symm (hfree y hy x hx hy')
      · rw [(mem_retireTasks hx).1, (mem_retireTasks hy).1]
  case ordered =>
    rw [htodo, List.pairwise_append]
    refine ⟨h.ordered, pairwise_retireTasks t hnodup, ?_⟩
    intro x hx y hy hxy
    exact hfree x (mem_begun_of_mem_todo hx) y hy (by simp [hxy.1]) hxy.2.2

omit [DecidableEq θ] in
theorem Booked.closeDevice (h : c.Booked maxSize) (t : θ) (mid : String) :
    (c.closeDevice t mid).Booked maxSize := by
  unfold Threads.closeDevice
  cases hslot : c.sessions.open_.lookup mid with
  | none => exact h
  | some slot =>
    apply h.remove t
    · rw [AList.keys_erase]
      exact List.length_erase_le
    · intro i
      exact slots_erase hslot i

omit [DecidableEq θ] in
theorem Booked.closeAllDevices (h : c.Booked maxSize) (t : θ) (order : List ℕ) :
    (c.closeAllDevices t order).Booked maxSize := by
  unfold Threads.closeAllDevices
  split_ifs with hperm
  · apply h.remove t
    · exact Nat.zero_le _
    · intro i
      rw [List.perm_iff_count.mp hperm i]
      exact Nat.zero_add _
  · exact h

omit [DecidableEq θ] in
/-- Nothing was opened, or a device whose id was free, with an adapter at an address of its own. -/
theorem create_cases (c : Threads α θ) (device : DeviceInfo) (managerDeviceId : String)
    (opens : α → String → α × Bool) {c' : Threads α θ}
    (hc' : c' = c.create maxSize device managerDeviceId opens) :
    c'.pending = c.pending ∧ c'.done = c.done ∧
    ((c'.opened = c.opened ∧ c'.sessions.open_ = c.sessions.open_ ∧
        ∃ made, c'.sessions.objects = c.sessions.objects ++ made) ∨
      ∃ mid, c'.opened = c.sessions.objects.length :: c.opened ∧
        Opened maxSize c.sessions c'.sessions device managerDeviceId opens mid) := by
  unfold create at hc'
  subst hc'
  cases hcreate : c.sessions.createAndOpenDevice maxSize (c.sessions.open_.keys.length + 1) device
      managerDeviceId opens with
  | none => exact ⟨rfl, rfl, .inl ⟨rfl, rfl, [], (List.append_nil _).symm⟩⟩
  | some p =>
    obtain ⟨s', r⟩ := p
    rcases createAndOpenDevice_cases hcreate with hdeclined | ⟨mid, rfl, hopened⟩
    · cases r with
      | error e => exact ⟨rfl, rfl, .inl ⟨rfl, hdeclined.open_, hdeclined.objects⟩⟩
      | ok mid =>
        have hmid := hdeclined.result mid rfl
        exact ⟨rfl, rfl, .inl ⟨if_pos hmid, hdeclined.open_, hdeclined.objects⟩⟩
    · exact ⟨rfl, rfl, .inr ⟨mid, if_neg hopened.named, hopened⟩⟩

omit [DecidableEq θ] in
/-- The rounds that the model allows for the numbering are enough. -/
theorem Booked.create_ends (h : c.Booked maxSize) (device : DeviceInfo) (managerDeviceId : String)
    (opens : α → String → α × Bool) :
    (c.sessions.createAndOpenDevice maxSize (c.sessions.open_.keys.length + 1) device managerDeviceId
      opens).isSome := by
  have hlen : c.sessions.open_.keys.length < 2 ^ 64 := Nat.lt_of_le_of_lt h.size maxSize.toNat_lt
  unfold Sessions.createAndOpenDevice
  split_ifs
  · rfl
  · rw [number_terminates hlen]
    rfl
  · rfl

omit [DecidableEq θ] in
theorem Booked.create (h : c.Booked maxSize) (device : DeviceInfo) (managerDeviceId : String)
    (opens : α → String → α × Bool) :
    (c.create maxSize device managerDeviceId opens).Booked maxSize := by
  set c' := c.create maxSize device managerDeviceId opens with hc'
  obtain ⟨hpending, hdone, hcases⟩ := c.create_cases device managerDeviceId opens hc'
  have htodo : c'.todo = c.todo := by rw [todo, hpending, todo]
  have hbegun : c'.begun = c.begun := by rw [begun, htodo, hdone, begun]
  rcases hcases with ⟨hopened, hopen, made, hobjects⟩ | ⟨mid, hopened, hnew⟩
  · have hslots : ∀ i, c'.slots i = c.slots i := by
      intro i
      rw [slots, adapters, hopen]
      rfl
    constructor
    case made =>
      intro i hi
      rw [hopened] at hi
      have hmade := h.made i hi
      rw [hobjects, List.length_append]
      omega
    case once =>
      rw [hopened]
      exact h.once
    case size =>
      rw [hopen]
      exact h.size
    case balance =>
      intro i u hu
      rw [htodo, hdone, hopened, hslots]
      exact h.balance i u hu
    case paired =>
      rw [hbegun]
      exact h.paired
    case ordered =>
      rw [htodo]
      exact h.ordered
  · obtain ⟨proto, _, _, hobjects⟩ := hnew.cloned
    have hlength : c'.sessions.objects.length = c.sessions.objects.length + 1 := by simp [hobjects]
    have hslots : ∀ i, c'.slots i = c.slots i + if c.sessions.objects.length = i then 1 else 0 := by
      intro i
      rw [slots, adapters, hnew.open_, slots_insert hnew.fresh]
      rfl
    constructor
    case made =>
      intro i hi
      rw [hopened, List.mem_cons] at hi
      rcases hi with rfl | hi
      · omega
      · have hmade := h.made i hi
        omega
    case once =>
      rw [hopened, List.nodup_cons]
      refine ⟨?_, h.once⟩
      intro hmem
      have hmade := h.made _ hmem
      omega
    case size =>
      rw [hnew.open_, AList.keys_insert, List.erase_of_not_mem (AList.mem_keys.not.mp hnew.fresh)]
      exact hnew.room
    case balance =>
      intro i u hu
      have hbalance := h.balance i u hu
      rw [htodo, hdone, hslots, hopened, List.count_cons]
      simp only [beq_iff_eq]
      omega
    case paired =>
      rw [hbegun]
      exact h.paired
    case ordered =>
      rw [htodo]
      exact h.ordered

theorem Booked.step (h : c.Booked maxSize) (act : ThreadAct α θ) : (c.step maxSize act).Booked maxSize := by
  cases act with
  | registerAdapter backendId prototype => exact ⟨h.made, h.once, h.size, h.balance, h.paired, h.ordered⟩
  | createAndOpenDevice device mid opens => exact h.create device mid opens
  | closeDevice t mid =>
    simp only [Threads.step]
    split_ifs
    · exact h
    · exact h.closeDevice t mid
  | closeAllDevices t order =>
    simp only [Threads.step]
    split_ifs
    · exact h
    · exact h.closeAllDevices t order
  | forward t mid acts =>
    simp only [Threads.step]
    split_ifs
    · exact h
    · exact h.forward t mid acts
  | go t => exact h.go t

theorem after_booked (acts : List (ThreadAct α θ)) :
    (after maxSize acts : Threads α θ).Booked maxSize :=
  run_invariant (I := Booked maxSize) (fun _ act h => h.step act) booked_init acts

theorem done_step (maxSize : UInt64) (c : Threads α θ) (act : ThreadAct α θ) :
    (∃ t, act = .go t) ∨ (c.step maxSize act).done = c.done := by
  cases act with
  | go t => exact .inl ⟨t, rfl⟩
  | registerAdapter backendId prototype => exact .inr rfl
  | createAndOpenDevice device mid opens => exact .inr (c.create_cases device mid opens rfl).2.1
  | closeDevice t mid =>
    right
    simp only [Threads.step, Threads.closeDevice]
    split_ifs
    · rfl
    · cases c.sessions.open_.lookup mid <;> rfl
  | closeAllDevices t order =>
    right
    simp only [Threads.step, Threads.closeAllDevices]
    split_ifs <;> rfl
  | forward t mid acts =>
    right
    simp only [Threads.step, Threads.forward]
    split_ifs
    · rfl
    · cases c.sessions.open_.lookup mid <;> rfl

/-- A close is done after its stop. -/
theorem Booked.closed_le (h : c.Booked maxSize) (act : ThreadAct α θ)
    (hle : ∀ i, uses i .close c.done ≤ uses i .stop c.done) (i : ℕ) :
    uses i .close (c.step maxSize act).done ≤ uses i .stop (c.step maxSize act).done := by
  rcases done_step maxSize c act with ⟨t, rfl⟩ | hdone
  · rcases c.go_cases t with hsame | ⟨before, touch, f, after, hpending, hcall, hbefore, hgo⟩
    · rw [Threads.step, hsame]
      exact hle i
    · have hdone : (c.step maxSize (.go t)).done = touch :: c.done := by
        rw [Threads.step, hgo]
      have hi := hle i
      rw [hdone, uses_cons, uses_cons]
      by_cases hclose : touch.adapter = i ∧ touch.use = .close
      · obtain ⟨rfl, hclose⟩ := hclose
        rw [← hcall] at hbefore
        have hstopped := h.stopped hpending hbefore hclose
        have htodo : touch ∈ c.todo := by simp [todo, hpending]
        have hclosing := uses_pos htodo rfl hclose
        have hcloses := h.balance touch.adapter .close (by decide)
        have hstops := h.balance touch.adapter .stop (by decide)
        have hcount := h.count_le touch.adapter
        split_ifs <;> omega
      · rw [if_neg hclose]
        omega
  · rw [hdone]
    exact hle i

end Locked

end Steps

section Left
variable {α θ : Type*} {maxSize : UInt64} {c c' : Threads α θ} {i : ℕ}

theorem slots_pos {mid : String} {slot : Slot ℕ} (h : c.sessions.open_.lookup mid = some slot) :
    0 < c.slots slot.adapter := by
  apply List.count_pos_iff.mpr
  apply List.mem_map.mpr
  exact ⟨⟨mid, slot⟩, AList.mem_lookup_iff.mp h, rfl⟩

variable [DecidableEq θ]

/-- How often the adapter was, or will be, called that way. -/
def total (c : Threads α θ) (e : Touch θ) : ℕ := c.todo.count e + c.done.count e

/-- The adapter was under an id once. -/
structure Left (i : ℕ) (c : Threads α θ) : Prop where
  opened : i ∈ c.opened
  slots : c.slots i = 0

/-- From `c` to `c'` nothing begins that concerns the adapter, and what had begun goes on. -/
structure LeftAlone (i : ℕ) (c c' : Threads α θ) : Prop where
  left : Left i c'
  total : ∀ e, e.adapter = i → c'.total e = c.total e
  object : (∀ e ∈ c.todo, e.adapter ≠ i) → c'.sessions.objects[i]? = c.sessions.objects[i]?

theorem LeftAlone.refl (h : Left i c) : LeftAlone i c c := ⟨h, fun _ _ => rfl, fun _ => rfl⟩

/-- Tasks are added, none of them for the adapter. -/
theorem LeftAlone.added (tasks : List (Touch θ × (α → α))) (h : Left i c)
    (hpending : c'.pending = c.pending ++ tasks) (htasks : ∀ e ∈ tasks.map Prod.fst, e.adapter ≠ i)
    (hdone : c'.done = c.done) (hopened : c'.opened = c.opened) (hslots : c'.slots i = 0)
    (hobjects : c'.sessions.objects = c.sessions.objects) : LeftAlone i c c' := by
  constructor
  case left => exact ⟨hopened ▸ h.opened, hslots⟩
  case total =>
    intro e he
    have hnone : (tasks.map Prod.fst).count e = 0 := by
      apply List.count_eq_zero.mpr
      intro hmem
      exact htasks e hmem he
    rw [Threads.total, Threads.total, hdone, todo, hpending, List.map_append, List.count_append, hnone]
    rfl
  case object =>
    intro _
    rw [hobjects]

theorem LeftAlone.forward (h : Left i c) (t : θ) (mid : String) (acts : List (α → α)) :
    LeftAlone i c (c.forward t mid acts) := by
  unfold Threads.forward
  cases hslot : c.sessions.open_.lookup mid with
  | none => exact .refl h
  | some slot =>
    have hne : slot.adapter ≠ i := by
      rintro rfl
      have hpos := slots_pos hslot
      have hzero := h.slots
      omega
    apply LeftAlone.added (acts.map fun f => (⟨t, slot.adapter, .forwarded⟩, f)) h rfl
    · intro e he
      simp only [List.map_map, List.mem_map] at he
      obtain ⟨f, _, rfl⟩ := he
      exact hne
    · rfl
    · rfl
    · exact h.slots
    · rfl

theorem LeftAlone.go (h : Left i c) (t : θ) : LeftAlone i c (c.go t) := by
  rcases c.go_cases t with hsame | ⟨before, touch, f, after, hpending, _, _, hgo⟩
  · rw [hsame]
    exact .refl h
  · rw [hgo]
    constructor
    case left => exact ⟨h.opened, h.slots⟩
    case total =>
      intro e _
      simp only [Threads.total, todo, hpending, List.map_append, List.map_cons, List.count_append,
        List.count_cons]
      omega
    case object =>
      intro hnone
      have hne : touch.adapter ≠ i := hnone touch (by simp [todo, hpending])
      exact List.getElem?_modify_ne f c.sessions.objects hne

variable [ICameraAdapter α]

theorem LeftAlone.remove (h : Left i c) (t : θ) {open_ : AList fun _ : String => Slot ℕ}
    {order : List ℕ}
    (hslots : (open_.entries.map fun e => e.2.adapter).count i + order.count i = c.slots i) :
    LeftAlone i c (c.remove t open_ order) := by
  have hzero := h.slots
  apply LeftAlone.added (order.flatMap (retireTasks t)) h rfl
  · rintro e he rfl
    have hpos := List.count_pos_iff.mpr (mem_retireTasks he).2.1
    omega
  · rfl
  · rfl
  · change (open_.entries.map fun e => e.2.adapter).count i = 0
    omega
  · rfl

theorem LeftAlone.create (hbooked : c.Booked maxSize) (h : Left i c) (device : DeviceInfo)
    (mid : String) (opens : α → String → α × Bool) :
    LeftAlone i c (c.create maxSize device mid opens) := by
  have hmade := hbooked.made i h.opened
  set c' := c.create maxSize device mid opens with hc'
  obtain ⟨hpending, hdone, hcases⟩ := c.create_cases device mid opens hc'
  have htotal : ∀ e, c'.total e = c.total e := by
    intro e
    rw [Threads.total, todo, hpending, hdone]
    rfl
  have hkept : ∀ made, c'.sessions.objects = c.sessions.objects ++ made →
      c'.sessions.objects[i]? = c.sessions.objects[i]? := by
    intro made hobjects
    rw [hobjects, List.getElem?_append_left hmade]
  rcases hcases with ⟨hopened, hopen, made, hobjects⟩ | ⟨mid, hopened, hnew⟩
  · constructor
    case left =>
      refine ⟨hopened ▸ h.opened, ?_⟩
      rw [slots, adapters, hopen]
      exact h.slots
    case total => exact fun e _ => htotal e
    case object => exact fun _ => hkept made hobjects
  · obtain ⟨proto, _, _, hobjects⟩ := hnew.cloned
    constructor
    case left =>
      constructor
      · rw [hopened]
        exact List.mem_cons_of_mem _ h.opened
      · have hne : c.sessions.objects.length ≠ i := by omega
        rw [slots, adapters, hnew.open_, slots_insert hnew.fresh, if_neg hne]
        exact h.slots
    case total => exact fun e _ => htotal e
    case object => exact fun _ => hkept _ hobjects

theorem LeftAlone.step (hbooked : c.Booked maxSize) (h : Left i c) (act : ThreadAct α θ) :
    LeftAlone i c (c.step maxSize act) := by
  cases act with
  | registerAdapter backendId prototype => exact ⟨⟨h.opened, h.slots⟩, fun _ _ => rfl, fun _ => rfl⟩
  | createAndOpenDevice device mid opens => exact .create hbooked h device mid opens
  | closeDevice t mid =>
    simp only [Threads.step, Threads.closeDevice]
    split_ifs
    · exact .refl h
    · cases hslot : c.sessions.open_.lookup mid with
      | none => exact .refl h
      | some slot => exact .remove h t (slots_erase hslot i)
  | closeAllDevices t order =>
    simp only [Threads.step, Threads.closeAllDevices]
    split_ifs with _ hperm
    · exact .refl h
    · apply LeftAlone.remove h t
      rw [List.perm_iff_count.mp hperm i]
      exact Nat.zero_add _
    · exact .refl h
  | forward t mid acts =>
    simp only [Threads.step]
    split_ifs
    · exact .refl h
    · exact .forward h t mid acts
  | go t => exact .go h t

omit [ICameraAdapter α] in
/-- No call for the adapter is under way, if none was. -/
theorem LeftAlone.todo (h : LeftAlone i c c') (hdone : c.done <:+ c'.done)
    (hnone : ∀ e ∈ c.todo, e.adapter ≠ i) : ∀ e ∈ c'.todo, e.adapter ≠ i := by
  intro e he hadapter
  have htotal := h.total e hadapter
  have htodo : c.todo.count e = 0 := List.count_eq_zero.mpr fun hmem => hnone e hmem hadapter
  have htodo' := List.count_pos_iff.mpr he
  have hle := hdone.sublist.count_le e
  rw [Threads.total, Threads.total] at htotal
  omega

theorem done_suffix (c : Threads α θ) (act : ThreadAct α θ) : c.done <:+ (c.step maxSize act).done := by
  rcases done_step maxSize c act with ⟨t, rfl⟩ | hdone
  · rcases c.go_cases t with hsame | ⟨before, touch, f, after, _, _, _, hgo⟩
    · exact ⟨[], by rw [Threads.step, hsame, List.nil_append]⟩
    · exact ⟨[touch], by rw [Threads.step, hgo, List.singleton_append]⟩
  · exact ⟨[], hdone.symm⟩

theorem LeftAlone.run (hbooked : c.Booked maxSize) (h : Left i c) (acts : List (ThreadAct α θ)) :
    LeftAlone i c (run (Threads.step maxSize) c acts) := by
  induction acts generalizing c with
  | nil => exact .refl h
  | cons act acts ih =>
    have hone : LeftAlone i c (c.step maxSize act) := .step hbooked h act
    have hrest := ih (hbooked.step act) hone.left
    refine ⟨hrest.left, fun e he => ?_, fun hnone => ?_⟩
    · rw [run_cons, hrest.total e he, hone.total e he]
    · rw [run_cons, hrest.object (hone.todo (done_suffix c act) hnone), hone.object hnone]

end Left

section Results
variable {α θ : Type*} [DecidableEq θ] [ICameraAdapter α]

/-- However the calls interleave, an adapter that was put under an id is under one, or is about to be
stopped and closed, or was stopped and closed, and that only once and by one call; the close comes
after the stop. -/
theorem retired_once (maxSize : UInt64) (acts : List (ThreadAct α θ)) (i : ℕ) :
    (∀ u, u ≠ .forwarded →
      (after maxSize acts : Threads α θ).slots i + uses i u (after maxSize acts : Threads α θ).todo +
          uses i u (after maxSize acts : Threads α θ).done =
        if i ∈ (after maxSize acts : Threads α θ).opened then 1 else 0) ∧
      uses i .close (after maxSize acts : Threads α θ).done ≤
        uses i .stop (after maxSize acts : Threads α θ).done ∧
      ∀ x ∈ (after maxSize acts : Threads α θ).begun, ∀ y ∈ (after maxSize acts : Threads α θ).begun,
        x.adapter = i → y.adapter = i → x.use = .stop → y.use = .close → x.call = y.call := by
  have hbooked : (after maxSize acts : Threads α θ).Booked maxSize := after_booked acts
  refine ⟨?_, ?_, ?_⟩
  · intro u hu
    rw [hbooked.balance i u hu]
    split_ifs with hi
    · exact List.count_eq_one_of_mem hbooked.once hi
    · exact List.count_eq_zero.mpr hi
  · have hall : (after maxSize acts : Threads α θ).Booked maxSize ∧
        ∀ i, uses i .close (after maxSize acts : Threads α θ).done ≤
          uses i .stop (after maxSize acts : Threads α θ).done := by
      apply run_invariant (I := fun c : Threads α θ =>
        c.Booked maxSize ∧ ∀ i, uses i .close c.done ≤ uses i .stop c.done)
      · intro c act h
        exact ⟨h.1.step act, h.1.closed_le act h.2⟩
      · exact ⟨booked_init, by simp⟩
    exact hall.2 i
  · intro x hx y hy hxi hyi hstop hclose
    exact hbooked.paired x hx y hy hstop hclose (hxi.trans hyi.symm)

/-- Once an adapter has left the table, whatever is called then, it never comes under an id again, and
each call that had its adapter before does with it what it had begun to do, and nothing else is done
with it. When none of these calls is left, the adapter stays as it is. -/
theorem removed_left_alone (maxSize : UInt64) (acts more : List (ThreadAct α θ)) {i : ℕ}
    (hopened : i ∈ (after maxSize acts : Threads α θ).opened)
    (hremoved : (after maxSize acts : Threads α θ).slots i = 0) :
    LeftAlone i (after maxSize acts : Threads α θ) (after maxSize (acts ++ more)) := by
  have hbooked : (after maxSize acts : Threads α θ).Booked maxSize := after_booked acts
  have hleft : Left i (after maxSize acts : Threads α θ) := ⟨hopened, hremoved⟩
  have hrun : (after maxSize (acts ++ more) : Threads α θ) = run (step maxSize) (after maxSize acts) more :=
    run_append _ _ acts more
  rw [hrun]
  exact .run hbooked hleft more

/-- A picture is asked for, the device closed meanwhile, and the closed adapter asked for the picture. -/
def closedMeanwhile : List (ThreadAct ReadyCamera Bool) :=
  [.registerAdapter "null" {}, .createAndOpenDevice ⟨"null", "SN1", ""⟩ "cam-1" openDevice,
    .forward true "cam-1" [id], .closeDevice false "cam-1", .go false, .go false]

theorem removed_left_alone_meanwhile : LeftAlone 0 (after 16 closedMeanwhile : Threads ReadyCamera Bool)
    (after 16 (closedMeanwhile ++ [.go true, .forward false "cam-1" [id], .go false])) := by
  apply removed_left_alone
  · decide +kernel
  · decide +kernel

end Results

end Threads
end Camera3D.Camera
