import Camera3D.Camera.ManagedIds

/-! What is under an id is told by the history of that id alone: the device it was opened for, and the
calls made with it since. -/
namespace Camera3D.Camera.Sessions
open Transition ICameraAdapter

section History
variable {α : Type*}

/-- The prototype that was registered last for the backend. -/
def prototypeOf (backendId : String) (log : List (Op α × Answer)) : Option α :=
  log.foldl (fun found e => match e.1 with
    | .registerAdapter b prototype => if b = backendId then some prototype else found
    | _ => found) none

/-- What the calls made with an id make of an adapter. -/
def replay (mid : String) (a : α) (log : List (Op α × Answer)) : α :=
  log.foldl (fun a e => match e.1 with
    | .call id f => if id = mid then f a else a
    | _ => a) a

theorem replay_concat (mid : String) (a : α) (log : List (Op α × Answer)) (e : Op α × Answer) :
    replay mid a (log ++ [e]) = match e.1 with
      | .call id f => if id = mid then f (replay mid a log) else replay mid a log
      | _ => replay mid a log := List.foldl_concat _ _ _ _

theorem prototypeOf_concat (backendId : String) (log : List (Op α × Answer)) (e : Op α × Answer) :
    prototypeOf backendId (log ++ [e]) = match e.1 with
      | .registerAdapter b prototype => if b = backendId then some prototype else prototypeOf backendId log
      | _ => prototypeOf backendId log := List.foldl_concat _ _ _ _

end History

section Step
variable {α : Type*} [ICameraAdapter α] {maxSize : UInt64} {s s' : Sessions α} {op : Op α}
  {answer : Answer} {log : List (Op α × Answer)} {mid : String}

theorem openAs_prototypes (s : Sessions α) (device : DeviceInfo) (mid : String)
    (opens : α → String → α × Bool) : (s.openAs maxSize device mid opens).1.prototypes = s.prototypes := by
  unfold openAs
  split_ifs
  · rfl
  · cases s.prototypes.lookup device.backendId with
    | none => rfl
    | some proto =>
      dsimp only
      split_ifs <;> rfl

def Op.register (prototypes : AList fun _ : String => α) : Op α → AList fun _ : String => α
  | .registerAdapter b prototype => prototypes.insert b prototype
  | _ => prototypes

theorem Ends.prototypes (h : Ends maxSize s op s' answer) : s'.prototypes = op.register s.prototypes := by
  obtain ⟨fuel, h⟩ := h
  cases op with
  | registerAdapter b prototype =>
    cases h
    rfl
  | createAndOpenDevice device managerDeviceId opens =>
    obtain ⟨⟨t, r⟩, hcreate, h⟩ := Option.map_eq_some_iff.mp h
    cases h
    unfold createAndOpenDevice at hcreate
    split_ifs at hcreate
    · cases hcreate
      rfl
    · obtain ⟨⟨mid, seq⟩, _, hopen⟩ := Option.map_eq_some_iff.mp hcreate
      have hsame : (({ s with seq } : Sessions α).openAs maxSize device mid opens).1.prototypes =
          s.prototypes := openAs_prototypes _ device mid opens
      dsimp only at hopen
      rw [hopen] at hsame
      exact hsame
    · have hsame : (s.openAs maxSize device managerDeviceId opens).1.prototypes = s.prototypes :=
        openAs_prototypes s device managerDeviceId opens
      rw [Option.some.inj hcreate] at hsame
      exact hsame
  | closeDevice mid =>
    cases h
    unfold closeDevice
    cases s.open_.lookup mid with
    | none => rfl
    | some slot => rfl
  | closeAllDevices =>
    cases h
    rfl
  | call mid f =>
    cases h
    unfold call
    cases s.open_.lookup mid with
    | none => rfl
    | some slot => rfl

theorem Runs.prototypes (h : Runs maxSize s log) (backendId : String) :
    s.prototypes.lookup backendId = prototypeOf backendId log := by
  induction h with
  | start => rfl
  | @step s s' log op answer _ ends ih =>
    rw [prototypeOf_concat, ends.prototypes]
    cases op with
    | registerAdapter b prototype =>
      dsimp only [Op.register]
      by_cases hb : b = backendId
      · rw [if_pos hb, hb, AList.lookup_insert]
      · rw [if_neg hb, AList.lookup_insert_ne (Ne.symm hb)]
        exact ih
    | createAndOpenDevice device managerDeviceId opens => exact ih
    | closeDevice mid => exact ih
    | closeAllDevices => exact ih
    | call mid f => exact ih

/-- The id was returned for the device, it was not closed since, and its adapter is what the calls with
this id have made of the clone that was opened for it. -/
structure Replays (log : List (Op α × Answer)) (mid : String) (slot : Slot ℕ) (a : α) : Prop where
  history : ∃ before requested opens rest proto,
    log = before ++ (.createAndOpenDevice slot.device requested opens, .created (.ok mid)) :: rest ∧
    (∀ e ∈ rest, ¬ e.1.Closes mid) ∧ prototypeOf slot.device.backendId before = some proto ∧
    a = replay mid (opens (cloneForSession proto) (CameraManager.openKey slot.device)).1 rest
  named : slot.managerId = mid

variable {slot : Slot ℕ} {a : α}

/-- Something else happens. -/
theorem Replays.concat (h : Replays log mid slot a) {e : Op α × Answer} (hcloses : ¬ e.1.Closes mid)
    {a' : α} (ha : a' = match e.1 with
      | .call id f => if id = mid then f a else a
      | _ => a) : Replays (log ++ [e]) mid slot a' := by
  obtain ⟨before, requested, opens, rest, proto, hlog, hrest, hproto, hreplay⟩ := h.history
  refine ⟨⟨before, requested, opens, rest ++ [e], proto, ?_, ?_, hproto, ?_⟩, h.named⟩
  · rw [hlog]
    simp
  · exact List.forall_mem_append.mpr ⟨hrest, List.forall_mem_singleton.mpr hcloses⟩
  · rw [ha, replay_concat, ← hreplay]

/-- What is managed, and what the history makes of it. -/
def Replayed (s : Sessions α) (log : List (Op α × Answer)) : Prop :=
  ∀ mid slot, s.open_.lookup mid = some slot →
    ∃ a, s.managed mid = some (slot, some a) ∧ Replays log mid slot a

/-- An id that the operation is not on. -/
theorem Replayed.kept (h : s.Replayed log) (hs : s.Sound maxSize) (ends : Ends maxSize s op s' answer)
    (hmid : ¬ Concerns op answer mid) (hslot : s'.open_.lookup mid = some slot) :
    ∃ a, s'.managed mid = some (slot, some a) ∧ Replays (log ++ [(op, answer)]) mid slot a := by
  have hsame := ends.change.isolated hs hmid
  have hslots : s'.open_.lookup mid = s.open_.lookup mid := by
    have hfirst := congrArg (Option.map Prod.fst) hsame
    simpa [managed, Function.comp_def] using hfirst
  rw [hslots] at hslot
  obtain ⟨a, hmanaged, hreplays⟩ := h mid slot hslot
  refine ⟨a, hsame.trans hmanaged, hreplays.concat (fun hcloses => hmid (.inr (.inl hcloses))) ?_⟩
  cases op with
  | call id f =>
    have hid : id ≠ mid := by
      rintro rfl
      exact hmid (.inr (.inr ⟨f, rfl⟩))
    exact (if_neg hid).symm
  | registerAdapter b prototype => rfl
  | createAndOpenDevice device managerDeviceId opens => rfl
  | closeDevice id => rfl
  | closeAllDevices => rfl

/-- The id is returned. -/
theorem Replayed.opened (hruns : Runs maxSize s log) (ends : Ends maxSize s op s' answer)
    (hreturns : answer.Returns mid) (hslot : s'.open_.lookup mid = some slot) :
    ∃ a, s'.managed mid = some (slot, some a) ∧ Replays (log ++ [(op, answer)]) mid slot a := by
  obtain ⟨rfl, hnamed⟩ := hreturns
  cases ends.change with
  | nothing hreturns => exact absurd ⟨rfl, hnamed⟩ (hreturns mid)
  | @opened device requested _ opens hopened =>
    obtain ⟨proto, p, hproto, _, hmanaged, _⟩ := (hopened.bound hruns.sound).adapter
    obtain rfl : slot = ⟨mid, device, p⟩ := by
      have hfirst := congrArg (Option.map Prod.fst) hmanaged
      rw [Sessions.managed, hslot] at hfirst
      simpa using hfirst
    refine ⟨_, hmanaged, ⟨log, requested, opens, [], proto, rfl, ?_, ?_, rfl⟩, rfl⟩
    · exact List.forall_mem_nil _
    · rw [← hruns.prototypes]
      exact hproto

/-- The id's adapter is called. -/
theorem Replayed.called (h : s.Replayed log) {f : α → α} (ends : Ends maxSize s (.call mid f) s' answer)
    (hslot : s'.open_.lookup mid = some slot) :
    ∃ a, s'.managed mid = some (slot, some a) ∧ Replays (log ++ [(.call mid f, answer)]) mid slot a := by
  obtain ⟨fuel, hends⟩ := ends
  cases hends
  unfold Sessions.call at hslot ⊢
  cases hbefore : s.open_.lookup mid with
  | none =>
    rw [hbefore] at hslot
    exact absurd (hbefore.symm.trans hslot) (by simp)
  | some slot' =>
    rw [hbefore] at hslot
    obtain rfl : slot' = slot := Option.some.inj (hbefore.symm.trans hslot)
    obtain ⟨a, hmanaged, hreplays⟩ := h mid slot' hbefore
    have hadapter : s.objects[slot'.adapter]? = some a := by
      rw [Sessions.managed, hbefore] at hmanaged
      simpa using hmanaged
    refine ⟨f a, ?_, hreplays.concat ?_ (if_pos rfl).symm⟩
    · rw [Sessions.managed]
      dsimp only
      rw [hbefore, Option.map_some, List.getElem?_modify_eq, hadapter]
      rfl
    · rintro (hclose | hclose)
      · cases hclose
      · cases hclose

theorem Replayed.step (hruns : Runs maxSize s log) (h : s.Replayed log)
    (ends : Ends maxSize s op s' answer) : s'.Replayed (log ++ [(op, answer)]) := by
  intro mid slot hslot
  by_cases hmid : Concerns op answer mid
  · have hmem : mid ∈ s'.open_ := AList.lookup_isSome.mp (by rw [hslot]; rfl)
    rcases (ends.change.mem_iff mid).mp hmem with hreturns | ⟨_, hopen⟩
    · exact Replayed.opened hruns ends hreturns hslot
    · rcases hmid with hreturns | hcloses | ⟨f, rfl⟩
      · exact Replayed.opened hruns ends hreturns hslot
      · exact absurd hcloses hopen
      · exact h.called ends hslot
  · exact h.kept hruns.sound ends hmid hslot

/-- Whatever else a manager was asked, what is under an id is the clone of the prototype registered last
for the device, opened for it, and changed by nothing but the calls made with this id since. -/
theorem runs_replayed (h : Runs maxSize s log) (hslot : s.open_.lookup mid = some slot) :
    ∃ a, s.managed mid = some (slot, some a) ∧ Replays log mid slot a := by
  have hall : s.Replayed log := by
    clear hslot
    induction h with
    | start => exact fun mid slot hslot => nomatch hslot
    | step hruns ends ih => exact ih.step hruns ends
  exact hall mid slot hslot

/-- The prototype is registered anew, the id reused, and another camera called in between. -/
theorem runs_replayed_reused : ∃ (s : Sessions ReadyCamera) (log : List (Op ReadyCamera × Answer))
    (slot : Slot ℕ) (a : ReadyCamera), s.managed "cam-1" = some (slot, some a) ∧
      Replays log "cam-1" slot a ∧ a.callback = some "left" ∧ a.streaming = true := by
  have hrun : (runOps 16 2 ({} : Sessions ReadyCamera) [] [.registerAdapter "null" {},
      .createAndOpenDevice ⟨"null", "SN1", ""⟩ "cam-1" openDevice, .closeDevice "cam-1",
      .registerAdapter "null" { callback := some "left" },
      .createAndOpenDevice ⟨"null", "SN1", ""⟩ "cam-1" openDevice,
      .createAndOpenDevice ⟨"null", "SN2", ""⟩ "cam-2" openDevice,
      .call "cam-1" fun a => { a with streaming := true }, .call "cam-2" fun _ => {}]).map
        (fun r => ((r.1.open_.lookup "cam-1").isSome, r.1.managed "cam-1" |>.map Prod.snd)) =
      some (true, some (some { callback := some "left", streaming := true })) := by decide +kernel
  obtain ⟨⟨s, log⟩, hops, hlast⟩ := Option.map_eq_some_iff.mp hrun
  obtain ⟨hsome, hmanaged⟩ := Prod.mk.inj hlast
  obtain ⟨slot, hslot⟩ := Option.isSome_iff_exists.mp hsome
  obtain ⟨a, ha, hreplays⟩ := runs_replayed (Runs.start.runOps hops) hslot
  dsimp only at hmanaged
  rw [ha] at hmanaged
  obtain rfl : a = { callback := some "left", streaming := true } := by simpa using hmanaged
  exact ⟨s, log, slot, _, ha, hreplays, rfl, rfl⟩

end Step
end Camera3D.Camera.Sessions
