import Camera3D.Camera.Adapters
import Camera3D.Camera.ManagedIds

/-! A manager whose slots hold their adapters themselves does what the one with pointers does, to every
adapter that was made. -/
namespace Camera3D.Camera.Sessions
open ICameraAdapter

variable {α : Type*}

/-- The slot under an id, with its adapter in place of the pointer. -/
def follow (s : Sessions α) (mid : String) : Option (Slot α) :=
  (s.managed mid).bind fun p => p.2.map fun adapter => ⟨p.1.managerId, p.1.device, adapter⟩

/-- The slots hold what is pointed to, and the adapters that no slot points to were given up. -/
structure Views (s : Sessions α) (m : CameraManager α) : Prop where
  prototypes : m.prototypes = s.prototypes
  seq : m.seq = s.seq
  open_ : ∀ mid, m.open_.lookup mid = s.follow mid
  released : ∀ (i : ℕ) (a : α), s.objects[i]? = some a →
    (∀ mid slot, s.open_.lookup mid = some slot → slot.adapter ≠ i) → a ∈ m.released

variable {maxSize : UInt64} {s s' : Sessions α} {m : CameraManager α}

theorem follow_of_lookup (hs : s.Sound maxSize) {mid : String} {slot : Slot ℕ}
    (h : s.open_.lookup mid = some slot) : ∃ adapter, s.objects[slot.adapter]? = some adapter ∧
      s.follow mid = some ⟨slot.managerId, slot.device, adapter⟩ := by
  have hlive := hs.live mid slot h
  refine ⟨s.objects[slot.adapter], List.getElem?_eq_getElem hlive, ?_⟩
  rw [follow, managed, h, Option.map_some, List.getElem?_eq_getElem hlive]
  rfl

theorem follow_eq_none (mid : String) (h : s.open_.lookup mid = none) : s.follow mid = none := by
  rw [follow, managed, h]
  rfl

/-- The same devices are open. -/
theorem Views.mem_iff (hs : s.Sound maxSize) (hv : Views s m) (mid : String) :
    mid ∈ m.open_ ↔ mid ∈ s.open_ := by
  rw [← AList.lookup_isSome, ← AList.lookup_isSome, hv.open_]
  cases h : s.open_.lookup mid with
  | none =>
    rw [follow_eq_none mid h]
    exact Iff.rfl
  | some slot =>
    obtain ⟨adapter, _, hfollow⟩ := follow_of_lookup hs h
    rw [hfollow]
    exact iff_of_true rfl rfl

theorem Views.length_eq (hs : s.Sound maxSize) (hv : Views s m) :
    m.open_.keys.length = s.open_.keys.length :=
  ((List.perm_ext_iff_of_nodup m.open_.keys_nodup s.open_.keys_nodup).mpr fun mid =>
    hv.mem_iff hs mid).length_eq

/-- Both number a device alike. -/
theorem Views.number_eq (hs : s.Sound maxSize) (hv : Views s m) {fuel : ℕ} {r : String × UInt64}
    (h : number s.open_ fuel s.seq = some r) :
    CameraManager.freshId m.open_ m.open_.keys.length m.seq = r := by
  have hlen : m.open_.keys.length < 2 ^ 64 := by
    rw [hv.length_eq hs]
    exact Nat.lt_of_le_of_lt hs.size maxSize.toNat_lt
  have hnumber := number_terminates hlen m.seq
  rw [number_congr (hv.mem_iff hs), hv.seq] at hnumber
  have hmax := (number_mono hnumber (Nat.le_max_left _ fuel)).symm.trans
    (number_mono h (Nat.le_max_right (m.open_.keys.length + 1) fuel))
  rw [hv.seq]
  exact Option.some.inj hmax

theorem Views.call {β : Type*} (hs : s.Sound maxSize) (hv : Views s m) (mid : String) (dflt : β)
    (f : α → α × β) :
    Views (s.call mid fun a => (f a).1) (m.withAdapter mid dflt f).1 ∧
      (m.withAdapter mid dflt f).2 = ((s.follow mid).map fun slot => (f slot.adapter).2).getD dflt := by
  cases hslot : s.open_.lookup mid with
  | none =>
    have hnone : m.open_.lookup mid = none := by rw [hv.open_, follow_eq_none mid hslot]
    rw [CameraManager.withAdapter_of_none hnone, follow_eq_none mid hslot, Sessions.call, hslot]
    exact ⟨hv, rfl⟩
  | some slot =>
    obtain ⟨adapter, hadapter, hfollow⟩ := follow_of_lookup hs hslot
    have hsome := (hv.open_ mid).trans hfollow
    refine ⟨?_, by rw [CameraManager.withAdapter_snd hsome, hfollow]; rfl⟩
    have hcall : s.call mid (fun a => (f a).1) =
        { s with objects := s.objects.modify slot.adapter fun a => (f a).1 } := by
      rw [Sessions.call, hslot]
    rw [hcall]
    refine ⟨?_, ?_, fun id => ?_, fun i a hi hunused => ?_⟩
    · rw [← hv.prototypes, CameraManager.withAdapter, hsome]
    · rw [← hv.seq, CameraManager.withAdapter, hsome]
    · by_cases hid : id = mid
      · subst hid
        rw [CameraManager.lookup_withAdapter_self hsome, follow, managed, hslot, Option.map_some]
        dsimp only
        rw [List.getElem?_modify_eq, hadapter]
        rfl
      · have hkept : ({ s with objects := s.objects.modify slot.adapter fun a => (f a).1 } :
            Sessions α).managed id = s.managed id := managed_modify hs hslot hid rfl rfl
        rw [CameraManager.lookup_withAdapter_ne hid, hv.open_, follow, follow, hkept]
    · have hne := hunused mid slot hslot
      dsimp only at hi
      rw [List.getElem?_modify_ne _ _ hne] at hi
      rw [CameraManager.withAdapter, hsome]
      exact hv.released i a hi hunused

variable [ICameraAdapter α]

/-- `CloseAllDevices` retires the adapter of every slot, and no other. -/
theorem getElem?_closeAllDevices (hs : s.Sound maxSize) (i : ℕ) :
    (∃ mid slot, s.open_.lookup mid = some slot ∧ slot.adapter = i ∧
        s.closeAllDevices.objects[i]? = (s.objects[i]?).map retire) ∨
      (∀ mid slot, s.open_.lookup mid = some slot → slot.adapter ≠ i) ∧
        s.closeAllDevices.objects[i]? = s.objects[i]? := by
  -- two entries point to different adapters, so each is modified once
  have hfold : ∀ (es : List (Sigma fun _ : String => Slot ℕ)) (objects : List α),
      es.Pairwise (fun e e' => e.2.adapter ≠ e'.2.adapter) →
        (es.foldl (fun objects e => objects.modify e.2.adapter retire) objects)[i]? =
          if ∃ e ∈ es, e.2.adapter = i then (objects[i]?).map retire else objects[i]? := by
    intro es
    induction es with
    | nil => simp
    | cons e es ih =>
      intro objects hpair
      obtain ⟨hhead, htail⟩ := List.pairwise_cons.mp hpair
      rw [List.foldl_cons, ih _ htail]
      by_cases he : e.2.adapter = i
      · subst he
        have hrest : ¬ ∃ e' ∈ es, e'.2.adapter = e.2.adapter :=
          fun ⟨e', hmem, heq⟩ => hhead e' hmem heq.symm
        rw [if_neg hrest, if_pos ⟨e, List.mem_cons_self, rfl⟩, List.getElem?_modify_eq]
        rfl
      · have hsame : (∃ e' ∈ e :: es, e'.2.adapter = i) ↔ ∃ e' ∈ es, e'.2.adapter = i := by
          rw [List.exists_mem_cons_iff, or_iff_right he]
        simp only [List.getElem?_modify_ne _ _ he, hsame]
  have hpair : s.open_.entries.Pairwise fun e e' => e.2.adapter ≠ e'.2.adapter := by
    have hkeys : s.open_.entries.Pairwise fun e e' => e.1 ≠ e'.1 :=
      List.pairwise_map.mp s.open_.nodupKeys
    refine hkeys.imp_of_mem fun {e e'} he he' hne heq => hne ?_
    exact hs.own e.1 e'.1 e.2 e'.2 (AList.mem_lookup_iff.mpr he) (AList.mem_lookup_iff.mpr he') heq
  have hobjects := hfold s.open_.entries s.objects hpair
  by_cases hused : ∃ e ∈ s.open_.entries, e.2.adapter = i
  · rw [if_pos hused] at hobjects
    obtain ⟨e, he, hi⟩ := hused
    exact .inl ⟨e.1, e.2, AList.mem_lookup_iff.mpr he, hi, hobjects⟩
  · rw [if_neg hused] at hobjects
    refine .inr ⟨fun mid slot hslot hi => ?_, hobjects⟩
    exact hused ⟨⟨mid, slot⟩, AList.mem_lookup_iff.mp hslot, hi⟩

theorem Views.closeAllDevices (hs : s.Sound maxSize) (hv : Views s m) :
    Views s.closeAllDevices m.closeAllDevices := by
  refine ⟨hv.prototypes, hv.seq, fun _ => rfl, fun i a hi _ => ?_⟩
  rcases s.getElem?_closeAllDevices hs i with ⟨mid, slot, hslot, rfl, hobject⟩ | ⟨hunused, hobject⟩
  · rw [hobject] at hi
    obtain ⟨b, hb, rfl⟩ := Option.map_eq_some_iff.mp hi
    obtain ⟨adapter, hadapter, hfollow⟩ := follow_of_lookup hs hslot
    obtain rfl := Option.some.inj (hb.symm.trans hadapter)
    have hmem := AList.mem_lookup_iff.mp ((hv.open_ mid).trans hfollow)
    exact List.mem_append_right _ (List.mem_map.mpr ⟨_, hmem, rfl⟩)
  · rw [hobject] at hi
    exact List.mem_append_left _ (hv.released i a hi hunused)

omit [ICameraAdapter α] in
/-- What was made last is not pointed to yet, and the rest as before. -/
theorem Views.released_append (hv : Views s m) {inst a : α} {i : ℕ}
    (hi : (s.objects ++ [inst])[i]? = some a)
    (hunused : ∀ mid slot, s.open_.lookup mid = some slot → slot.adapter ≠ i) :
    a ∈ m.released ∨ i = s.objects.length ∧ a = inst := by
  rcases Nat.lt_or_ge i s.objects.length with hlt | hge
  · rw [List.getElem?_append_left hlt] at hi
    exact .inl (hv.released i a hi hunused)
  · rw [List.getElem?_append_right hge] at hi
    obtain ⟨hlast, ha⟩ := List.getElem?_eq_some_iff.mp hi
    rw [List.length_singleton] at hlast
    exact .inr ⟨by omega, by simpa using ha.symm⟩

/-- Once a device has its id, both open it alike, unless the table has no room for it. -/
theorem Views.openAs (hs : s.Sound maxSize) (hv : Views s m)
    (hroom : s.open_.keys.length < maxSize.toNat) (device : DeviceInfo) {mid : String}
    (hnamed : mid ≠ "") (hfresh : mid ∉ s.open_) :
    ∃ id, (s.openAs maxSize device mid openDevice).2 = .ok id ∧
      Views (s.openAs maxSize device mid openDevice).1 (m.createAndOpenDevice device mid).1 ∧
      (m.createAndOpenDevice device mid).2 = id := by
  have hfree : ¬ (mid ≠ "" ∧ mid ∈ m.open_) := fun h => hfresh ((hv.mem_iff hs mid).mp h.2)
  unfold Sessions.openAs CameraManager.createAndOpenDevice
  rw [if_neg hfree, if_neg hnamed]
  dsimp only
  split_ifs with hinfo
  · exact ⟨_, rfl, ⟨hv.prototypes, hv.seq, hv.open_, hv.released⟩, rfl⟩
  · rw [hv.prototypes]
    cases hproto : s.prototypes.lookup device.backendId with
    | none => exact ⟨_, rfl, ⟨rfl, hv.seq, hv.open_, hv.released⟩, rfl⟩
    | some proto =>
      dsimp only
      set inst := (openDevice (cloneForSession proto) (CameraManager.openKey device)).1
      have hmade : ∀ id, ({ s with objects := s.objects ++ [inst] } : Sessions α).managed id =
          s.managed id := fun id => managed_append hs rfl rfl
      by_cases hopened : (openDevice (cloneForSession proto) (CameraManager.openKey device)).2 = true
      · rw [if_neg (by simp [hopened]), if_pos hopened]
        refine ⟨mid, rfl, ⟨rfl, hv.seq, fun id => ?_, fun i a hi hunused => ?_⟩, rfl⟩
        · by_cases hid : id = mid
          · subst hid
            simp only [AList.lookup_insert, follow, managed, Option.map_some, List.getElem?_concat_length]
            rfl
          · rw [AList.lookup_insert_ne hid, hv.open_, follow, follow, ← hmade, managed, managed]
            dsimp only
            rw [AList.lookup_insert_ne hid]
        · have hbefore : ∀ id slot, s.open_.lookup id = some slot → slot.adapter ≠ i := by
            intro id slot hslot
            have hid : id ≠ mid := by
              intro heq
              rw [heq, AList.lookup_eq_none.mpr hfresh] at hslot
              cases hslot
            apply hunused id slot
            rw [AList.lookup_insert_ne hid]
            exact hslot
          rcases hv.released_append hi hbefore with hold | ⟨hlast, _⟩
          · exact hold
          · exact absurd hlast.symm (hunused mid _ (AList.lookup_insert _))
      · rw [if_pos (by simpa using hopened), if_neg hopened]
        refine ⟨_, rfl, ⟨rfl, hv.seq, fun id => ?_, fun i a hi hunused => ?_⟩, rfl⟩
        · rw [hv.open_, follow, follow, hmade]
        · rcases hv.released_append hi hunused with hold | ⟨_, rfl⟩
          · exact List.mem_append_left _ hold
          · exact List.mem_append_right _ (List.mem_singleton_self _)

/-- A device without an id is opened as if the next free one had been asked for. -/
theorem createAndOpenDevice_numbered (m : CameraManager α) (device : DeviceInfo) {mid : String}
    {seq : UInt64} (h : CameraManager.freshId m.open_ m.open_.keys.length m.seq = (mid, seq))
    (hnamed : mid ≠ "") (hfresh : mid ∉ m.open_) :
    m.createAndOpenDevice device "" = { m with seq }.createAndOpenDevice device mid := by
  unfold CameraManager.createAndOpenDevice
  rw [if_neg fun h => h.1 rfl, if_pos rfl, h, if_neg fun h => hfresh h.2, if_neg hnamed]

theorem Views.createAndOpenDevice (hs : s.Sound maxSize) (hv : Views s m)
    (hroom : s.open_.keys.length < maxSize.toNat) {fuel : ℕ} {device : DeviceInfo}
    {managerDeviceId : String} {r : Except StdError String}
    (h : s.createAndOpenDevice maxSize fuel device managerDeviceId openDevice = some (s', r)) :
    Views s' (m.createAndOpenDevice device managerDeviceId).1 ∧
      r = .ok (m.createAndOpenDevice device managerDeviceId).2 := by
  unfold Sessions.createAndOpenDevice at h
  split_ifs at h with htaken hempty
  · cases h
    have hmem : managerDeviceId ≠ "" ∧ managerDeviceId ∈ m.open_ :=
      ⟨htaken.1, (hv.mem_iff hs _).mpr htaken.2⟩
    unfold CameraManager.createAndOpenDevice
    rw [if_pos hmem]
    exact ⟨hv, rfl⟩
  · subst hempty
    obtain ⟨⟨mid, seq⟩, hnumber, hopen⟩ := Option.map_eq_some_iff.mp h
    obtain ⟨hfresh, hnamed⟩ := number_new hnumber
    rw [createAndOpenDevice_numbered m device (hv.number_eq hs hnumber) hnamed
      fun hmem => hfresh ((hv.mem_iff hs mid).mp hmem)]
    have hs' : ({ s with seq } : Sessions α).Sound maxSize := ⟨hs.live, hs.own, hs.named, hs.size⟩
    have hv' : Views { s with seq } { m with seq } := ⟨hv.prototypes, rfl, hv.open_, hv.released⟩
    obtain ⟨id, hid, hviews, hsame⟩ := hv'.openAs hs' hroom device hnamed hfresh
    dsimp only at hopen
    rw [hopen] at hid hviews
    exact ⟨hviews, hid.trans (by rw [hsame])⟩
  · have hfresh : managerDeviceId ∉ s.open_ := fun hmem => htaken ⟨hempty, hmem⟩
    obtain ⟨id, hid, hviews, hsame⟩ := hv.openAs hs hroom device hempty hfresh
    rw [Option.some.inj h] at hid hviews
    exact ⟨hviews, hid.trans (by rw [hsame])⟩

/-- A manager with pointers that is in use could have been used in its place. -/
def Viewed (maxSize : UInt64) (m : CameraManager α) : Prop := ∃ s log, Runs maxSize s log ∧ Views s m

theorem viewed_registered (prototypes : AList fun _ : String => α) :
    Viewed maxSize ({ prototypes } : CameraManager α) := by
  suffices h : ∃ log, Runs maxSize ({ prototypes } : Sessions α) log by
    obtain ⟨log, hruns⟩ := h
    exact ⟨_, log, hruns, rfl, rfl, fun _ => rfl, fun _ _ hi => nomatch hi⟩
  induction prototypes using AList.insertRec with
  | H0 => exact ⟨[], .start⟩
  | IH backendId prototype rest _ ih =>
    obtain ⟨log, hruns⟩ := ih
    have hends : Ends maxSize { prototypes := rest } (.registerAdapter backendId prototype) _ _ :=
      ⟨0, rfl⟩
    exact ⟨_, hruns.step hends⟩

theorem Viewed.withAdapter {β : Type*} (h : Viewed maxSize m) (mid : String) (dflt : β)
    (f : α → α × β) : Viewed maxSize (m.withAdapter mid dflt f).1 := by
  obtain ⟨s, log, hruns, hv⟩ := h
  have hends : Ends maxSize s (.call mid fun a => (f a).1) _ _ := ⟨0, rfl⟩
  exact ⟨_, _, hruns.step hends, (hv.call hruns.sound mid dflt f).1⟩

theorem Viewed.createAndOpenDevice (h : Viewed maxSize m) (hroom : m.open_.keys.length < maxSize.toNat)
    (device : DeviceInfo) (managerDeviceId : String) :
    Viewed maxSize (m.createAndOpenDevice device managerDeviceId).1 := by
  obtain ⟨s, log, hruns, hv⟩ := h
  have hs := hruns.sound
  have hlen : s.open_.keys.length < 2 ^ 64 := Nat.lt_of_le_of_lt hs.size maxSize.toNat_lt
  have hcreates : ∃ fuel r, s.createAndOpenDevice maxSize fuel device managerDeviceId openDevice = some r :=
    createAndOpenDevice_terminates hlen device managerDeviceId openDevice
  obtain ⟨fuel, ⟨s', r⟩, hcreate⟩ := hcreates
  have hends : Ends maxSize s (.createAndOpenDevice device managerDeviceId openDevice) s' (.created r) :=
    ⟨fuel, by rw [Sessions.step, hcreate, Option.map_some]⟩
  rw [hv.length_eq hs] at hroom
  exact ⟨s', _, hruns.step hends, (hv.createAndOpenDevice hs hroom hcreate).1⟩

theorem Viewed.closeAllDevices (h : Viewed maxSize m) : Viewed maxSize m.closeAllDevices := by
  obtain ⟨s, log, hruns, hv⟩ := h
  have hends : Ends maxSize s .closeAllDevices _ _ := ⟨0, rfl⟩
  exact ⟨_, _, hruns.step hends, hv.closeAllDevices hruns.sound⟩

end Camera3D.Camera.Sessions
