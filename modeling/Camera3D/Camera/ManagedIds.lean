import Camera3D.Camera.Sessions

/-! The ids that a manager hands out are unique, and no two of them share an adapter. -/
namespace Camera3D.Camera.Sessions
open Transition ICameraAdapter

section Create
variable {α : Type*} [ICameraAdapter α]

/-- Nothing was opened. A clone may have been made for it. -/
structure Declined (s s' : Sessions α) (r : Except StdError String) : Prop where
  result : ∀ mid, r = .ok mid → mid = ""
  open_ : s'.open_ = s.open_
  objects : ∃ made, s'.objects = s.objects ++ made

/-- A device was opened: its id was free, and its adapter is a clone that nothing pointed to. -/
structure Opened (maxSize : UInt64) (s s' : Sessions α) (device : DeviceInfo) (managerDeviceId : String)
    (opens : α → String → α × Bool) (mid : String) : Prop where
  named : mid ≠ ""
  fresh : mid ∉ s.open_
  requested : managerDeviceId ≠ "" → mid = managerDeviceId
  room : s.open_.keys.length < maxSize.toNat
  open_ : s'.open_ = s.open_.insert mid ⟨mid, device, s.objects.length⟩
  cloned : ∃ proto, s.prototypes.lookup device.backendId = some proto ∧
    (opens (cloneForSession proto) (CameraManager.openKey device)).2 = true ∧
    s'.objects = s.objects ++ [(opens (cloneForSession proto) (CameraManager.openKey device)).1]

variable {maxSize : UInt64} {s s' : Sessions α} {device : DeviceInfo}
  {opens : α → String → α × Bool} {r : Except StdError String}

omit [ICameraAdapter α] in
theorem Declined.refl (s : Sessions α) : Declined s s (.ok "") :=
  ⟨fun _ h => (Except.ok.inj h).symm, rfl, [], (List.append_nil _).symm⟩

theorem openAs_cases {mid : String} (hnamed : mid ≠ "") (hfresh : mid ∉ s.open_)
    (h : s.openAs maxSize device mid opens = (s', r)) :
    Declined s s' r ∨ r = .ok mid ∧ Opened maxSize s s' device mid opens mid := by
  unfold openAs at h
  split_ifs at h with hinfo
  · cases h
    exact .inl (.refl _)
  · cases hproto : s.prototypes.lookup device.backendId with
    | none =>
      rw [hproto] at h
      cases h
      exact .inl (.refl _)
    | some proto =>
      rw [hproto] at h
      dsimp only at h
      split_ifs at h with hopened hroom
      · cases h
        exact .inl ⟨fun _ h => (Except.ok.inj h).symm, rfl, _, rfl⟩
      · cases h
        exact .inr ⟨rfl, hnamed, hfresh, fun _ => rfl, hroom, rfl, proto, hproto,
          (Bool.not_eq_false _).mp hopened, rfl⟩
      · cases h
        exact .inl ⟨nofun, rfl, _, rfl⟩

/-- Everything that `CreateAndOpenDevice` can do. -/
theorem createAndOpenDevice_cases {fuel : ℕ} {managerDeviceId : String}
    (h : s.createAndOpenDevice maxSize fuel device managerDeviceId opens = some (s', r)) :
    Declined s s' r ∨ ∃ mid, r = .ok mid ∧ Opened maxSize s s' device managerDeviceId opens mid := by
  unfold createAndOpenDevice at h
  split_ifs at h with htaken hempty
  · cases h
    exact .inl (.refl _)
  · obtain ⟨⟨mid, seq⟩, hnumber, hopen⟩ := Option.map_eq_some_iff.mp h
    obtain ⟨hfresh, hnamed⟩ := number_new hnumber
    have hfree : mid ∉ ({ s with seq } : Sessions α).open_ := hfresh
    rcases openAs_cases hnamed hfree hopen with hdeclined | ⟨hr, hopened⟩
    · exact .inl ⟨hdeclined.result, hdeclined.open_, hdeclined.objects⟩
    · exact .inr ⟨mid, hr, hnamed, hfresh, fun h => absurd hempty h, hopened.room, hopened.open_,
        hopened.cloned⟩
  · have hfree : managerDeviceId ∉ s.open_ := fun hmem => htaken ⟨hempty, hmem⟩
    rcases openAs_cases hempty hfree (Option.some.inj h) with hdeclined | ⟨hr, hopened⟩
    · exact .inl hdeclined
    · exact .inr ⟨managerDeviceId, hr, hopened⟩

theorem createAndOpenDevice_terminates (hlen : s.open_.keys.length < 2 ^ 64) (device : DeviceInfo)
    (managerDeviceId : String) (opens : α → String → α × Bool) :
    ∃ fuel r, s.createAndOpenDevice maxSize fuel device managerDeviceId opens = some r := by
  refine ⟨s.open_.keys.length + 1, ?_⟩
  unfold createAndOpenDevice
  split_ifs
  · exact ⟨_, rfl⟩
  · rw [number_terminates hlen]
    exact ⟨_, rfl⟩
  · exact ⟨_, rfl⟩

theorem createAndOpenDevice_mono {fuel fuel' : ℕ} {managerDeviceId : String}
    {res : Sessions α × Except StdError String}
    (h : s.createAndOpenDevice maxSize fuel device managerDeviceId opens = some res)
    (hle : fuel ≤ fuel') :
    s.createAndOpenDevice maxSize fuel' device managerDeviceId opens = some res := by
  unfold createAndOpenDevice at h ⊢
  split_ifs at h ⊢
  · exact h
  · obtain ⟨numbered, hnumber, hres⟩ := Option.map_eq_some_iff.mp h
    rw [number_mono hnumber hle, Option.map_some, hres]
  · exact h

end Create

section Invariant
variable {α : Type*}

/-- Every slot points to an adapter, and no two slots to the same one. -/
structure Sound (maxSize : UInt64) (s : Sessions α) : Prop where
  live : ∀ mid slot, s.open_.lookup mid = some slot → slot.adapter < s.objects.length
  own : ∀ mid mid' slot slot', s.open_.lookup mid = some slot → s.open_.lookup mid' = some slot' →
    slot.adapter = slot'.adapter → mid = mid'
  named : "" ∉ s.open_
  size : s.open_.keys.length ≤ maxSize.toNat

/-- What there is under an id: the slot, and its adapter as it is. -/
def managed (s : Sessions α) (mid : String) : Option (Slot ℕ × Option α) :=
  (s.open_.lookup mid).map fun slot => (slot, s.objects[slot.adapter]?)

variable {maxSize : UInt64} {s s' : Sessions α} {mid : String} {slot : Slot ℕ}

theorem Sound.mono (hs : s.Sound maxSize)
    (hopen : ∀ mid slot, s'.open_.lookup mid = some slot → s.open_.lookup mid = some slot)
    (hobjects : s.objects.length ≤ s'.objects.length)
    (hsize : s'.open_.keys.length ≤ s.open_.keys.length) : s'.Sound maxSize := by
  refine ⟨fun mid slot h => Nat.lt_of_lt_of_le (hs.live mid slot (hopen mid slot h)) hobjects,
    fun mid mid' slot slot' h h' => hs.own mid mid' slot slot' (hopen _ _ h) (hopen _ _ h'), ?_,
    Nat.le_trans hsize hs.size⟩
  intro hmem
  obtain ⟨slot, hslot⟩ := Option.isSome_iff_exists.mp (AList.lookup_isSome.mpr hmem)
  exact hs.named (AList.lookup_isSome.mp (Option.isSome_iff_exists.mpr ⟨slot, hopen _ _ hslot⟩))

theorem Sound.insert (hs : s.Sound maxSize) {a : α} (hnamed : mid ≠ "") (hfresh : mid ∉ s.open_)
    (hroom : s.open_.keys.length < maxSize.toNat) (hslot : slot.adapter = s.objects.length)
    (hopen : s'.open_ = s.open_.insert mid slot) (hobjects : s'.objects = s.objects ++ [a]) :
    s'.Sound maxSize := by
  have hlength : s'.objects.length = s.objects.length + 1 := by rw [hobjects, List.length_append]; rfl
  have hlookup : ∀ id slot', s'.open_.lookup id = some slot' →
      (id = mid ∧ slot'.adapter = s.objects.length) ∨ (id ≠ mid ∧ s.open_.lookup id = some slot') := by
    intro id slot' h
    rw [hopen] at h
    by_cases hid : id = mid
    · subst hid
      rw [AList.lookup_insert] at h
      exact .inl ⟨rfl, Option.some.inj h ▸ hslot⟩
    · rw [AList.lookup_insert_ne hid] at h
      exact .inr ⟨hid, h⟩
  constructor
  case live =>
    intro id slot' h
    rcases hlookup id slot' h with ⟨_, hnew⟩ | ⟨_, hold⟩
    · omega
    · have hlive := hs.live id slot' hold
      omega
  case own =>
    intro id id' slot₁ slot₂ h₁ h₂ heq
    rcases hlookup id slot₁ h₁ with ⟨rfl, hnew₁⟩ | ⟨_, hold₁⟩ <;>
      rcases hlookup id' slot₂ h₂ with ⟨rfl, hnew₂⟩ | ⟨_, hold₂⟩
    · rfl
    · have hlive := hs.live id' slot₂ hold₂
      omega
    · have hlive := hs.live id slot₁ hold₁
      omega
    · exact hs.own id id' slot₁ slot₂ hold₁ hold₂ heq
  case named =>
    rw [hopen, AList.mem_insert]
    rintro (h | h)
    · exact hnamed h.symm
    · exact hs.named h
  case size =>
    rw [hopen, AList.keys_insert, List.erase_of_not_mem (AList.mem_keys.not.mp hfresh)]
    exact hroom

/-- An adapter that is made meanwhile is not under an id of before. -/
theorem managed_append {made : List α} (hs : s.Sound maxSize)
    (hopen : s'.open_.lookup mid = s.open_.lookup mid) (hobjects : s'.objects = s.objects ++ made) :
    s'.managed mid = s.managed mid := by
  unfold managed
  rw [hopen, hobjects]
  cases hslot : s.open_.lookup mid with
  | none => rfl
  | some slot => rw [Option.map_some, Option.map_some, List.getElem?_append_left (hs.live mid slot hslot)]

/-- What is done to the adapter of another id is not done to this one's. -/
theorem managed_modify {id : String} {f : α → α} (hs : s.Sound maxSize)
    (hslot : s.open_.lookup id = some slot) (hne : mid ≠ id)
    (hopen : s'.open_.lookup mid = s.open_.lookup mid)
    (hobjects : s'.objects = s.objects.modify slot.adapter f) : s'.managed mid = s.managed mid := by
  unfold managed
  rw [hopen, hobjects]
  cases hmid : s.open_.lookup mid with
  | none => rfl
  | some slot' =>
    have haddress : slot.adapter ≠ slot'.adapter := fun h => hne (hs.own id mid slot slot' hslot hmid h).symm
    rw [Option.map_some, Option.map_some, List.getElem?_modify_ne f s.objects haddress]

end Invariant

section Steps
variable {α : Type*}

/-- The operation was to open a device, and gave this id for it. -/
def Answer.Returns (answer : Answer) (mid : String) : Prop := answer = .created (.ok mid) ∧ mid ≠ ""

/-- The operation closes the device, if it is open. -/
def Op.Closes (op : Op α) (mid : String) : Prop := op = .closeDevice mid ∨ op = .closeAllDevices

/-- The operation is one on this id. -/
def Concerns (op : Op α) (answer : Answer) (mid : String) : Prop :=
  answer.Returns mid ∨ op.Closes mid ∨ ∃ f, op = .call mid f

variable [ICameraAdapter α] {maxSize : UInt64} {s s' : Sessions α} {op : Op α} {answer : Answer}

/-- What an operation can do to the devices that are open. -/
inductive Change (maxSize : UInt64) (s s' : Sessions α) : Op α → Answer → Prop
  | nothing {op : Op α} {answer : Answer} (returns : ∀ mid, ¬ answer.Returns mid)
    (closes : ∀ mid ∈ s.open_, ¬ op.Closes mid) (open_ : s'.open_ = s.open_)
    (objects : ∃ made, s'.objects = s.objects ++ made) : Change maxSize s s' op answer
  | opened {device : DeviceInfo} {managerDeviceId mid : String} {opens : α → String → α × Bool}
    (opened : Opened maxSize s s' device managerDeviceId opens mid) :
    Change maxSize s s' (.createAndOpenDevice device managerDeviceId opens) (.created (.ok mid))
  | closed {mid : String} {slot : Slot ℕ} (lookup : s.open_.lookup mid = some slot)
    (open_ : s'.open_ = s.open_.erase mid) (objects : s'.objects = s.objects.modify slot.adapter retire) :
    Change maxSize s s' (.closeDevice mid) (.closed true)
  | allClosed (open_ : s'.open_ = ∅) (objects : s'.objects.length = s.objects.length) :
    Change maxSize s s' .closeAllDevices .nothing
  | called {mid : String} {f : α → α} {slot : Slot ℕ} (lookup : s.open_.lookup mid = some slot)
    (open_ : s'.open_ = s.open_) (objects : s'.objects = s.objects.modify slot.adapter f) :
    Change maxSize s s' (.call mid f) .nothing

theorem length_closeAllDevices (s : Sessions α) :
    s.closeAllDevices.objects.length = s.objects.length := by
  have hfold : ∀ (es : List (Sigma fun _ : String => Slot ℕ)) (objects : List α),
      (es.foldl (fun objects e => objects.modify e.2.adapter retire) objects).length = objects.length := by
    intro es
    induction es with
    | nil => exact fun _ => rfl
    | cons e es ih =>
      intro objects
      rw [List.foldl_cons, ih, List.length_modify]
  exact hfold _ _

theorem Change.refl {op : Op α} {answer : Answer} (returns : ∀ mid, ¬ answer.Returns mid)
    (closes : ∀ mid ∈ s.open_, ¬ op.Closes mid) : Change maxSize s s op answer :=
  .nothing returns closes rfl ⟨[], (List.append_nil _).symm⟩

theorem Ends.change (h : Ends maxSize s op s' answer) : Change maxSize s s' op answer := by
  obtain ⟨fuel, h⟩ := h
  cases op with
  | registerAdapter backendId prototype =>
    cases h
    exact .nothing (fun _ h => nomatch h.1) (fun _ _ h => nomatch h) rfl ⟨[], (List.append_nil _).symm⟩
  | createAndOpenDevice device managerDeviceId opens =>
    obtain ⟨⟨t, r⟩, hcreate, h⟩ := Option.map_eq_some_iff.mp h
    cases h
    rcases createAndOpenDevice_cases hcreate with hdeclined | ⟨mid, hr, hopened⟩
    · refine .nothing (fun mid h => ?_) (fun _ _ h => nomatch h) hdeclined.open_ hdeclined.objects
      exact h.2 (hdeclined.result mid (Answer.created.inj h.1))
    · subst hr
      exact .opened hopened
  | closeDevice mid =>
    cases h
    unfold closeDevice
    cases hslot : s.open_.lookup mid with
    | none =>
      refine .refl (fun _ h => nomatch h.1) fun id hid h => ?_
      rcases h with h | h
      · cases h
        exact AList.lookup_eq_none.mp hslot hid
      · cases h
    | some slot => exact .closed hslot rfl rfl
  | closeAllDevices =>
    cases h
    exact .allClosed rfl s.length_closeAllDevices
  | call mid f =>
    cases h
    unfold call
    cases hslot : s.open_.lookup mid with
    | none => exact .refl (fun _ h => nomatch h.1) fun _ _ h => nomatch h
    | some slot => exact .called hslot rfl rfl

theorem Change.sound (h : Change maxSize s s' op answer) (hs : s.Sound maxSize) : s'.Sound maxSize := by
  cases h with
  | nothing _ _ hopen hobjects =>
    obtain ⟨made, hmade⟩ := hobjects
    refine hs.mono (fun mid slot h => by rwa [hopen] at h) ?_ (by rw [hopen])
    rw [hmade, List.length_append]
    exact Nat.le_add_right _ _
  | opened hopened =>
    obtain ⟨proto, _, _, hobjects⟩ := hopened.cloned
    exact hs.insert hopened.named hopened.fresh hopened.room rfl hopened.open_ hobjects
  | @closed mid slot _ hopen hobjects =>
    refine hs.mono (fun id slot' h => ?_) (by rw [hobjects, List.length_modify]) ?_
    · rw [hopen] at h
      by_cases hid : id = mid
      · subst hid
        rw [AList.lookup_erase] at h
        cases h
      · rwa [AList.lookup_erase_ne hid] at h
    · rw [hopen, AList.keys_erase]
      exact List.length_erase_le
  | allClosed hopen hobjects =>
    refine hs.mono (fun mid slot h => ?_) (Nat.le_of_eq hobjects.symm) ?_
    · rw [hopen] at h
      cases h
    · rw [hopen]
      exact Nat.zero_le _
  | called _ hopen hobjects =>
    exact hs.mono (fun mid slot h => by rwa [hopen] at h) (by rw [hobjects, List.length_modify])
      (by rw [hopen])

/-- The ids that are open afterwards are that which was returned, and those not closed. -/
theorem Change.mem_iff (h : Change maxSize s s' op answer) (mid : String) :
    mid ∈ s'.open_ ↔ answer.Returns mid ∨ (mid ∈ s.open_ ∧ ¬ op.Closes mid) := by
  cases h with
  | nothing hreturns hcloses hopen _ =>
    rw [hopen, or_iff_right (hreturns mid)]
    exact ⟨fun hmem => ⟨hmem, hcloses mid hmem⟩, And.left⟩
  | @opened _ _ id _ hopened =>
    rw [hopened.open_, AList.mem_insert]
    have hreturns : (Answer.created (.ok id)).Returns mid ↔ mid = id := by
      constructor
      · intro h
        cases h.1
        rfl
      · rintro rfl
        exact ⟨rfl, hopened.named⟩
    have hcloses : ∀ {device requested opens}, ¬ (Op.createAndOpenDevice device requested opens :
        Op α).Closes mid := fun h => nomatch h
    rw [hreturns, and_iff_left hcloses]
  | @closed id _ _ hopen _ =>
    rw [hopen, AList.mem_erase, or_iff_right fun h => nomatch h.1]
    have hcloses : (Op.closeDevice id : Op α).Closes mid ↔ mid = id := by
      constructor
      · rintro (h | h)
        · cases h
          rfl
        · cases h
      · rintro rfl
        exact .inl rfl
    rw [hcloses, and_comm]
  | allClosed hopen _ =>
    rw [hopen, or_iff_right fun h => nomatch h.1]
    exact iff_of_false (AList.notMem_empty mid) fun h => h.2 (.inr rfl)
  | called _ hopen _ =>
    rw [hopen, or_iff_right fun h => nomatch h.1]
    exact ⟨fun hmem => ⟨hmem, fun h => nomatch h⟩, And.left⟩

/-- An id that the operation is not on keeps its slot, and its adapter as it is. -/
theorem Change.isolated (h : Change maxSize s s' op answer) (hs : s.Sound maxSize) {mid : String}
    (hmid : ¬ Concerns op answer mid) : s'.managed mid = s.managed mid := by
  cases h with
  | nothing _ _ hopen hobjects =>
    obtain ⟨made, hmade⟩ := hobjects
    exact managed_append hs (by rw [hopen]) hmade
  | @opened _ _ id _ hopened =>
    have hne : mid ≠ id := by
      rintro rfl
      exact hmid (.inl ⟨rfl, hopened.named⟩)
    obtain ⟨proto, _, _, hobjects⟩ := hopened.cloned
    exact managed_append hs (by rw [hopened.open_, AList.lookup_insert_ne hne]) hobjects
  | @closed id _ hslot hopen hobjects =>
    have hne : mid ≠ id := by
      rintro rfl
      exact hmid (.inr (.inl (.inl rfl)))
    exact managed_modify hs hslot hne (by rw [hopen, AList.lookup_erase_ne hne]) hobjects
  | allClosed _ _ => exact absurd (.inr (.inl (.inr rfl))) hmid
  | @called id f _ hslot hopen hobjects =>
    have hne : mid ≠ id := by
      rintro rfl
      exact hmid (.inr (.inr ⟨f, rfl⟩))
    exact managed_modify hs hslot hne (by rw [hopen]) hobjects

/-- An operation has one outcome, whatever the fuel is that it ends with. -/
theorem Ends.unique {t : Sessions α} {other : Answer} (h : Ends maxSize s op s' answer)
    (h' : Ends maxSize s op t other) : s' = t ∧ answer = other := by
  obtain ⟨fuel, h⟩ := h
  obtain ⟨fuel', h'⟩ := h'
  have hmono : ∀ {m n : ℕ} {r : Sessions α × Answer}, s.step maxSize m op = some r → m ≤ n →
      s.step maxSize n op = some r := by
    intro m n r hr hle
    cases op with
    | createAndOpenDevice device managerDeviceId opens =>
      obtain ⟨res, hcreate, hres⟩ := Option.map_eq_some_iff.mp hr
      rw [step, createAndOpenDevice_mono hcreate hle, Option.map_some, hres]
    | _ => exact hr
  have hmax := (hmono h (Nat.le_max_left fuel fuel')).symm.trans (hmono h' (Nat.le_max_right fuel fuel'))
  cases hmax
  exact ⟨rfl, rfl⟩

theorem Sound.ends (hs : s.Sound maxSize) (op : Op α) : ∃ s' answer, Ends maxSize s op s' answer := by
  cases op with
  | createAndOpenDevice device managerDeviceId opens =>
    have hlen : s.open_.keys.length < 2 ^ 64 := Nat.lt_of_le_of_lt hs.size maxSize.toNat_lt
    obtain ⟨fuel, r, hr⟩ :
        ∃ fuel r, s.createAndOpenDevice maxSize fuel device managerDeviceId opens = some r :=
      createAndOpenDevice_terminates hlen device managerDeviceId opens
    exact ⟨r.1, .created r.2, fuel, congrArg (Option.map _) hr⟩
  | _ => exact ⟨_, _, 0, rfl⟩

theorem Runs.sound {log : List (Op α × Answer)} (h : Runs maxSize s log) : s.Sound maxSize := by
  induction h with
  | start => exact ⟨nofun, nofun, AList.notMem_empty _, Nat.zero_le _⟩
  | step _ ends ih => exact ends.change.sound ih

/-- The ids that are open are those that were returned, and not closed since. -/
theorem Runs.mem_iff {log : List (Op α × Answer)} (h : Runs maxSize s log) (mid : String) :
    mid ∈ s.open_ ↔ Since (fun e => e.2.Returns mid) (fun e => e.1.Closes mid) log := by
  induction h with
  | start => exact iff_of_false (AList.notMem_empty mid) (not_since_nil _ _)
  | step _ ends ih => rw [since_concat, ends.change.mem_iff, ih]

/-- The device `mid` that was asked for is open, with an adapter that was cloned for it: the adapter
is at an address that was not in use, and no other id has it. -/
structure Bound (s s' : Sessions α) (device : DeviceInfo) (managerDeviceId : String)
    (opens : α → String → α × Bool) (mid : String) : Prop where
  fresh : mid ∉ s.open_
  requested : managerDeviceId ≠ "" → mid = managerDeviceId
  adapter : ∃ proto p, s.prototypes.lookup device.backendId = some proto ∧ s.objects[p]? = none ∧
    s'.managed mid = some (⟨mid, device, p⟩,
      some (opens (cloneForSession proto) (CameraManager.openKey device)).1) ∧
    ∀ id slot, s'.open_.lookup id = some slot → slot.adapter = p → id = mid

theorem Opened.bound {device : DeviceInfo} {managerDeviceId mid : String}
    {opens : α → String → α × Bool} (hs : s.Sound maxSize)
    (h : Opened maxSize s s' device managerDeviceId opens mid) :
    Bound s s' device managerDeviceId opens mid := by
  have hs' := (Change.opened h).sound hs
  obtain ⟨proto, hproto, _, hobjects⟩ := h.cloned
  have hlookup : s'.open_.lookup mid = some ⟨mid, device, s.objects.length⟩ := by
    rw [h.open_, AList.lookup_insert]
  refine ⟨h.fresh, h.requested, proto, s.objects.length, hproto, List.getElem?_eq_none le_rfl, ?_, ?_⟩
  · rw [Sessions.managed, hlookup, hobjects, Option.map_some]
    dsimp only
    rw [List.getElem?_concat_length]
  · intro id slot hslot hadapter
    exact hs'.own id mid slot _ hslot hlookup hadapter

/-- The ids of a manager are in order, where `log` is what happened to it. -/
structure InOrder (maxSize : UInt64) (s : Sessions α) (log : List (Op α × Answer)) : Prop where
  terminates : ∀ op, ∃ s' answer, Ends maxSize s op s' answer
  opened : ∀ device managerDeviceId opens s' mid, mid ≠ "" →
    Ends maxSize s (.createAndOpenDevice device managerDeviceId opens) s' (.created (.ok mid)) →
      Bound s s' device managerDeviceId opens mid
  declined : ∀ device managerDeviceId opens s' answer, (∀ mid, ¬ answer.Returns mid) →
    Ends maxSize s (.createAndOpenDevice device managerDeviceId opens) s' answer → s'.open_ = s.open_
  isolated : ∀ op s' answer, Ends maxSize s op s' answer →
    ∀ mid, ¬ Concerns op answer mid → s'.managed mid = s.managed mid
  openIds : ∀ mid, mid ∈ s.open_ ↔ Since (fun e => e.2.Returns mid) (fun e => e.1.Closes mid) log

/-- Whatever a manager was asked before, and whatever its adapters answered, its ids are in order. -/
theorem runs_inOrder {log : List (Op α × Answer)} (h : Runs maxSize s log) : InOrder maxSize s log := by
  constructor
  case terminates => exact h.sound.ends
  case opened =>
    intro device managerDeviceId opens s' mid hmid hends
    cases hends.change with
    | nothing hreturns => exact absurd ⟨rfl, hmid⟩ (hreturns mid)
    | opened hopened => exact hopened.bound h.sound
  case declined =>
    intro device managerDeviceId opens s' answer hanswer hends
    cases hends.change with
    | nothing _ _ hopen => exact hopen
    | @opened _ _ mid _ hopened => exact absurd ⟨rfl, hopened.named⟩ (hanswer mid)
  case isolated => exact fun op s' answer hends mid => hends.change.isolated h.sound
  case openIds => exact h.mem_iff

/-- The name `cam-1` is taken, and a device that does not open uses up `cam-2`. -/
theorem runs_inOrder_numbered : ∃ (s : Sessions ReadyCamera) (log : List (Op ReadyCamera × Answer)),
    Runs 16 s log ∧ s.open_.keys = ["cam-3"] ∧ InOrder 16 s log := by
  have hrun : (runOps 16 2 ({} : Sessions ReadyCamera) [] [.registerAdapter "null" {},
      .createAndOpenDevice ⟨"null", "SN1", ""⟩ "cam-1" openDevice,
      .createAndOpenDevice ⟨"null", "SN2", ""⟩ "" fun a _ => (a, false),
      .createAndOpenDevice ⟨"null", "SN2", ""⟩ "" openDevice, .closeDevice "cam-1"]).map
        (fun r => r.1.open_.keys) = some ["cam-3"] := by decide +kernel
  obtain ⟨⟨s, log⟩, hops, hkeys⟩ := Option.map_eq_some_iff.mp hrun
  have hruns : Runs 16 s log := Runs.start.runOps hops
  exact ⟨s, log, hruns, hkeys, runs_inOrder hruns⟩

end Steps
end Camera3D.Camera.Sessions
