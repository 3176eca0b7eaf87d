import Camera3D.Hub.Requests

/-! What `SetParameters` gives to each camera. A refusal ends it, and nothing is taken back. -/
namespace Camera3D.Hub
open Camera Serial

def Supported (t : HubParameterType) : Prop :=
  t = HUB_PARAMETER_TYPE_EXPOSURE_2D ∨ t = HUB_PARAMETER_TYPE_GAIN_2D ∨
    t = HUB_PARAMETER_TYPE_GAMMA_2D

/-- A setter that is asked of a camera. -/
abbrev Setting := String × HubParameterPair

/-- The settings of `pairs`, in the order of the two loops. -/
def settings (ids : List String) (pairs : List HubParameterPair) : List Setting :=
  pairs.flatMap fun p => ids.map fun id => (id, p)

/-- The pairs that a camera is given. -/
def addressed (mid : String) (made : List Setting) : List HubParameterPair :=
  (made.filter fun s => s.1 = mid).map Prod.snd

section Adapter
variable {α : Type*} [ICameraControls α]

/-- The setter that a pair asks an adapter for. -/
def adapterSetter (p : HubParameterPair) (a : α) : α × Bool :=
  if p.type = HUB_PARAMETER_TYPE_EXPOSURE_2D then ICameraControls.setExposureUs a p.value
  else if p.type = HUB_PARAMETER_TYPE_GAIN_2D then ICameraControls.setGainDb a p.value
  else if p.type = HUB_PARAMETER_TYPE_GAMMA_2D then ICameraControls.setGamma a p.value
  else (a, false)

def adapterGetter (t : HubParameterType) (a : α) : Option Double :=
  if t = HUB_PARAMETER_TYPE_EXPOSURE_2D then ICameraControls.getExposureUs a
  else if t = HUB_PARAMETER_TYPE_GAIN_2D then ICameraControls.getGainDb a
  else if t = HUB_PARAMETER_TYPE_GAMMA_2D then ICameraControls.getGamma a
  else none

/-- An adapter once its setters have been called with the pairs. -/
def given (pairs : List HubParameterPair) (a : α) : α :=
  pairs.foldl (fun a p => (adapterSetter p a).1) a

/-- From `m` to `m'` every open camera has been given the settings addressed to it, and nothing else
has happened. -/
structure Given (made : List Setting) (m m' : CameraManager α) : Prop where
  prototypes : m'.prototypes = m.prototypes
  seq : m'.seq = m.seq
  adapters : ∀ mid, m'.open_.lookup mid = (m.open_.lookup mid).map fun slot =>
    { slot with adapter := given (addressed mid made) slot.adapter }

end Adapter

theorem addressed_append (mid : String) (xs ys : List Setting) :
    addressed mid (xs ++ ys) = addressed mid xs ++ addressed mid ys := by
  simp [addressed]

theorem settings_cons (ids : List String) (p : HubParameterPair) (pairs : List HubParameterPair) :
    settings ids (p :: pairs) = settings ids [p] ++ settings ids pairs := by
  simp [settings]

theorem settings_one (ids : List String) (p : HubParameterPair) :
    settings ids [p] = ids.map fun id => (id, p) := by
  simp [settings]

section Setters
variable {α : Type*} [ICameraControls α]

theorem given_append (xs ys : List HubParameterPair) (a : α) :
    given (xs ++ ys) a = given ys (given xs a) := List.foldl_append

theorem Given.refl (m : CameraManager α) : Given [] m m := by
  refine ⟨rfl, rfl, fun mid => ?_⟩
  simp [addressed, given]

theorem Given.append {xs ys : List Setting} {m m' m'' : CameraManager α} (h : Given xs m m')
    (h' : Given ys m' m'') : Given (xs ++ ys) m m'' := by
  refine ⟨h'.prototypes.trans h.prototypes, h'.seq.trans h.seq, fun mid => ?_⟩
  rw [h'.adapters mid, h.adapters mid]
  simp only [Option.map_map, addressed_append, given_append]
  rfl

theorem given_withAdapter (p : HubParameterPair) (m : CameraManager α) (id : String) :
    Given [(id, p)] m (m.withAdapter id false (adapterSetter p)).1 := by
  have hself : addressed id [(id, p)] = [p] := by simp [addressed]
  refine ⟨?_, ?_, fun mid => ?_⟩
  · unfold CameraManager.withAdapter
    cases m.open_.lookup id <;> rfl
  · unfold CameraManager.withAdapter
    cases m.open_.lookup id <;> rfl
  · by_cases hid : mid = id
    · subst hid
      cases hslot : m.open_.lookup mid with
      | none => rw [CameraManager.withAdapter_of_none hslot, hslot, Option.map_none]
      | some slot =>
        rw [CameraManager.lookup_withAdapter_self hslot, hself]
        rfl
    · have hother : addressed mid [(id, p)] = [] := by simp [addressed, Ne.symm hid]
      rw [CameraManager.lookup_withAdapter_ne hid, hother]
      simp [given]

theorem parameterSetter_some {p : HubParameterPair}
    {set : CameraManager α → String → CameraManager α × Bool} {failed : Status}
    (h : Service.parameterSetter p = some (set, failed)) :
    set = (fun m mid => m.withAdapter mid false (adapterSetter p)) ∧ failed.code ≠ 0 ∧
      Supported p.type := by
  unfold Service.parameterSetter at h
  unfold adapterSetter
  split_ifs at h ⊢ with he hg hm
  · obtain ⟨rfl, rfl⟩ := Prod.mk.inj (Option.some.inj h)
    exact ⟨rfl, by decide, .inl he⟩
  · obtain ⟨rfl, rfl⟩ := Prod.mk.inj (Option.some.inj h)
    exact ⟨rfl, by decide, .inr (.inl hg)⟩
  · obtain ⟨rfl, rfl⟩ := Prod.mk.inj (Option.some.inj h)
    exact ⟨rfl, by decide, .inr (.inr hm)⟩

theorem parameterSetter_eq_none {p : HubParameterPair} :
    (Service.parameterSetter p : Option ((CameraManager α → String → CameraManager α × Bool) × Status)) =
      none ↔ ¬ Supported p.type := by
  unfold Service.parameterSetter Supported
  split_ifs with he hg hm <;> simp [*]

/-- A setting that every camera accepts has been given to all of them. -/
theorem setCameras_accepted {p : HubParameterPair} {ids : List String} {m m' : CameraManager α}
    (h : Service.setCameras (fun m mid => m.withAdapter mid false (adapterSetter p)) ids m =
      (m', true)) : Given (ids.map fun id => (id, p)) m m' := by
  induction ids generalizing m with
  | nil =>
    obtain rfl := (Prod.mk.inj h).1
    exact Given.refl m
  | cons id ids ih =>
    have hone := given_withAdapter p m id
    rw [Service.setCameras] at h
    rcases he : m.withAdapter id false (adapterSetter p) with ⟨m₁, _ | _⟩
    · simp [he] at h
    · rw [he] at h hone
      exact hone.append (ih h)

/-- Of a setting that is refused, the cameras up to the one that refuses it have been given it. -/
theorem setCameras_refused {p : HubParameterPair} {ids : List String} {m m' : CameraManager α}
    (h : Service.setCameras (fun m mid => m.withAdapter mid false (adapterSetter p)) ids m =
      (m', false)) :
    ∃ accepting refusing others m₁, ids = accepting ++ refusing :: others ∧
      Service.setCameras (fun m mid => m.withAdapter mid false (adapterSetter p)) accepting m =
        (m₁, true) ∧
      m₁.withAdapter refusing false (adapterSetter p) = (m', false) := by
  induction ids generalizing m with
  | nil => cases h
  | cons id ids ih =>
    rw [Service.setCameras] at h
    rcases he : m.withAdapter id false (adapterSetter p) with ⟨m₁, _ | _⟩
    · rw [he] at h
      obtain rfl := (Prod.mk.inj h).1
      exact ⟨[], id, ids, m, rfl, rfl, he⟩
    · rw [he] at h
      obtain ⟨accepting, refusing, others, m₂, rfl, haccepted, hrefused⟩ := ih h
      refine ⟨id :: accepting, refusing, others, m₂, rfl, ?_, hrefused⟩
      rw [Service.setCameras, he]
      exact haccepted

/-- What one pair does: its type is not supported, all cameras accept it, or one refuses it. -/
theorem setPairs_one (ids : List String) (p : HubParameterPair) (m : CameraManager α) :
    (¬ Supported p.type ∧
        Service.setPairs ids [p] m = (m, ⟨4, "unsupported HubParameterType"⟩)) ∨
      (∃ m₁, Service.setPairs ids [p] m = (m₁, ⟨0, ""⟩) ∧ Given (settings ids [p]) m m₁) ∨
      ∃ accepting refusing others m₁ m₂ failed, ids = accepting ++ refusing :: others ∧
        Service.setPairs accepting [p] m = (m₁, ⟨0, ""⟩) ∧
        m₁.withAdapter refusing false (adapterSetter p) = (m₂, false) ∧
        Service.setPairs ids [p] m = (m₂, failed) ∧ failed.code ≠ 0 ∧
        Given (settings (accepting ++ [refusing]) [p]) m m₂ := by
  simp only [Service.setPairs, settings_one]
  cases hp : (Service.parameterSetter p :
      Option ((CameraManager α → String → CameraManager α × Bool) × Status)) with
  | none => exact .inl ⟨parameterSetter_eq_none.mp hp, rfl⟩
  | some setter =>
    obtain ⟨set, failed⟩ := setter
    obtain ⟨rfl, hfailed, _⟩ := parameterSetter_some hp
    rcases he : Service.setCameras (fun m mid => m.withAdapter mid false (adapterSetter p)) ids m
      with ⟨m₁, _ | _⟩
    · obtain ⟨accepting, refusing, others, m₂, hids, haccepted, hrefused⟩ := setCameras_refused he
      have hone := given_withAdapter p m₂ refusing
      rw [hrefused] at hone
      refine .inr (.inr ⟨accepting, refusing, others, m₂, m₁, failed, hids, ?_, hrefused, ?_, hfailed, ?_⟩)
      · simp only [haccepted]
      · simp only [he]
      · rw [List.map_append]
        exact (setCameras_accepted haccepted).append hone
    · exact .inr (.inl ⟨m₁, by simp only [he], setCameras_accepted he⟩)

theorem setPairs_cons_accepted {ids : List String} {p : HubParameterPair}
    {m m₁ : CameraManager α} (h : Service.setPairs ids [p] m = (m₁, ⟨0, ""⟩))
    (ps : List HubParameterPair) : Service.setPairs ids (p :: ps) m = Service.setPairs ids ps m₁ := by
  rw [Service.setPairs] at h ⊢
  cases hp : (Service.parameterSetter p :
      Option ((CameraManager α → String → CameraManager α × Bool) × Status)) with
  | none =>
    rw [hp] at h
    cases (Prod.mk.inj h).2
  | some setter =>
    obtain ⟨set, failed⟩ := setter
    obtain ⟨_, hfailed, _⟩ := parameterSetter_some hp
    rw [hp] at h
    dsimp only at h ⊢
    rcases he : Service.setCameras set ids m with ⟨m₂, _ | _⟩
    · rw [he] at h
      obtain ⟨_, rfl⟩ := Prod.mk.inj h
      exact absurd rfl hfailed
    · rw [he] at h
      obtain rfl := (Prod.mk.inj h).1
      rfl

theorem setPairs_cons_refused {ids : List String} {p : HubParameterPair} {m m₁ : CameraManager α}
    {failed : Status} (h : Service.setPairs ids [p] m = (m₁, failed)) (hcode : failed.code ≠ 0)
    (ps : List HubParameterPair) : Service.setPairs ids (p :: ps) m = (m₁, failed) := by
  rw [Service.setPairs] at h ⊢
  cases hp : (Service.parameterSetter p :
      Option ((CameraManager α → String → CameraManager α × Bool) × Status)) with
  | none =>
    rw [hp] at h
    exact h
  | some setter =>
    obtain ⟨set, failed'⟩ := setter
    rw [hp] at h
    dsimp only at h ⊢
    rcases he : Service.setCameras set ids m with ⟨m₂, _ | _⟩
    · rw [he] at h
      exact h
    · rw [he] at h
      obtain ⟨_, rfl⟩ := Prod.mk.inj h
      exact absurd rfl hcode

/-- `SetParameters` has stopped at `pair`: the pairs before it were accepted by all cameras; `pair`
has a type that is not supported, or some cameras accepted it before one refused it. -/
def StoppedAt (ids : List String) (done : List HubParameterPair) (pair : HubParameterPair)
    (m m' : CameraManager α) : Prop :=
  ∃ m₁, Service.setPairs ids done m = (m₁, ⟨0, ""⟩) ∧
    (¬ Supported pair.type ∧ m' = m₁ ∧ Given (settings ids done) m m' ∨
      ∃ accepting refusing others m₂, ids = accepting ++ refusing :: others ∧
        Service.setPairs accepting [pair] m₁ = (m₂, ⟨0, ""⟩) ∧
        m₂.withAdapter refusing false (adapterSetter pair) = (m', false) ∧
        Given (settings ids done ++ settings (accepting ++ [refusing]) [pair]) m m')

theorem StoppedAt.cons {ids : List String} {p pair : HubParameterPair}
    {done : List HubParameterPair} {m m₁ m' : CameraManager α}
    (hp : Service.setPairs ids [p] m = (m₁, ⟨0, ""⟩)) (hgiven : Given (settings ids [p]) m m₁)
    (h : StoppedAt ids done pair m₁ m') : StoppedAt ids (p :: done) pair m m' := by
  obtain ⟨m₂, hdone, hend⟩ := h
  refine ⟨m₂, (setPairs_cons_accepted hp done).trans hdone, ?_⟩
  rw [settings_cons]
  rcases hend with ⟨htype, hm, hrest⟩ | ⟨accepting, refusing, others, m₃, hids, hacc, href, hrest⟩
  · exact .inl ⟨htype, hm, hgiven.append hrest⟩
  · refine .inr ⟨accepting, refusing, others, m₃, hids, hacc, href, ?_⟩
    rw [List.append_assoc]
    exact hgiven.append hrest

theorem setPairs_cases (ids : List String) (ps : List HubParameterPair) (m : CameraManager α) :
    ((Service.setPairs ids ps m).2 = ⟨0, ""⟩ ∧
        Given (settings ids ps) m (Service.setPairs ids ps m).1) ∨
      (Service.setPairs ids ps m).2.code ≠ 0 ∧ ∃ done pair rest, ps = done ++ pair :: rest ∧
        StoppedAt ids done pair m (Service.setPairs ids ps m).1 := by
  induction ps generalizing m with
  | nil => exact .inl ⟨rfl, Given.refl m⟩
  | cons p ps ih =>
    rcases setPairs_one ids p m with ⟨htype, he⟩ | ⟨m₁, he, hgiven⟩ |
      ⟨accepting, refusing, others, m₁, m₂, failed, hids, hacc, href, he, hfailed, hgiven⟩
    · have hcode : (4 : Int32) ≠ 0 := by decide
      rw [setPairs_cons_refused he hcode]
      exact .inr ⟨hcode, [], p, ps, rfl, m, rfl, .inl ⟨htype, rfl, Given.refl m⟩⟩
    · rw [setPairs_cons_accepted he]
      rcases ih m₁ with ⟨hstatus, hrest⟩ | ⟨hcode, done, pair, rest, hps, hstop⟩
      · rw [settings_cons]
        exact .inl ⟨hstatus, hgiven.append hrest⟩
      · exact .inr ⟨hcode, p :: done, pair, rest, congrArg (p :: ·) hps, hstop.cons he hgiven⟩
    · rw [setPairs_cons_refused he hfailed]
      exact .inr ⟨hfailed, [], p, ps, rfl, m, rfl,
        .inr ⟨accepting, refusing, others, m₁, hids, hacc, href, hgiven⟩⟩

end Setters

namespace Service
variable {α π : Type*} [ICameraControls α]

/-- A `SetParameters` that fails either changes nothing, as the hub is not ready or the session not
the active one, or it leaves what it has done when it stops at a pair. -/
theorem setParameters_stops {h : Service α π} {sessionId : String} {ps : List HubParameterPair}
    (hcode : (h.setParameters sessionId ps).2.code ≠ 0) :
    (h.admission sessionId ≠ none ∧ (h.setParameters sessionId ps).1 = h) ∨
      ∃ cameras done pair rest, (h.setParameters sessionId ps).1 = { h with cameras } ∧
        ps = done ++ pair :: rest ∧
        StoppedAt h.sessionDevicesOrdered done pair h.cameras cameras := by
  unfold setParameters at hcode ⊢
  cases hadm : h.admission sessionId with
  | some status => exact .inl ⟨Option.some_ne_none status, rfl⟩
  | none =>
    rw [hadm] at hcode
    dsimp only at hcode ⊢
    rcases setPairs_cases h.sessionDevicesOrdered ps h.cameras with
      ⟨hstatus, _⟩ | ⟨_, done, pair, rest, hps, hstop⟩
    · rw [hstatus] at hcode
      exact absurd rfl hcode
    · exact .inr ⟨_, done, pair, rest, rfl, hps, hstop⟩

end Service

/-- A camera that accepts every value and reads it back. -/
structure SettableCamera where
  exposureUs : Double := 0
  gainDb : Double := 0
  gamma : Double := 0

instance : ICameraControls SettableCamera where
  setExposureUs c v := ({ c with exposureUs := v }, true)
  getExposureUs c := some c.exposureUs
  setGainDb c v := ({ c with gainDb := v }, true)
  getGainDb c := some c.gainDb
  setGamma c v := ({ c with gamma := v }, true)
  getGamma c := some c.gamma

/-- A ready hub with two cameras. -/
def stereoHub {π : Type} (port : π) : Service SettableCamera π where
  sessionId := "cam-1"
  sessionDevicesOrdered := ["cam-1", "cam-2"]
  hubRuntime := ⟨0, ""⟩
  cameras := { open_ := (AList.insert "cam-1" ⟨"cam-1", {}, {}⟩ ∅).insert "cam-2" ⟨"cam-2", {}, {}⟩ }
  serial := ⟨port, ""⟩

/-- An exposure, and a parameter that no hub knows. -/
def exposureThenUnknown : List HubParameterPair := [⟨HUB_PARAMETER_TYPE_EXPOSURE_2D, 5⟩, ⟨9, 0⟩]

theorem setParameters_stops_stereoHub :
    ((stereoHub ()).setParameters "cam-1" exposureThenUnknown).2.code = 4 ∧
      (((stereoHub ()).admission "cam-1" ≠ none ∧
          ((stereoHub ()).setParameters "cam-1" exposureThenUnknown).1 = stereoHub ()) ∨
        ∃ cameras done pair rest,
          ((stereoHub ()).setParameters "cam-1" exposureThenUnknown).1 =
            { stereoHub () with cameras } ∧
          exposureThenUnknown = done ++ pair :: rest ∧
          StoppedAt ["cam-1", "cam-2"] done pair (stereoHub ()).cameras cameras) := by
  have hcode : ((stereoHub ()).setParameters "cam-1" exposureThenUnknown).2.code = 4 := by decide
  exact ⟨hcode, Service.setParameters_stops (hcode ▸ by decide)⟩

/-- The call fails, and both cameras have the new exposure. -/
theorem failed_setParameters_keeps_exposure :
    ¬ ∀ (h : Service SettableCamera Unit) (sessionId : String) (ps : List HubParameterPair),
      (h.setParameters sessionId ps).2.code ≠ 0 →
        ∀ id ∈ h.sessionDevicesOrdered,
          (h.setParameters sessionId ps).1.cameras.getExposureUs id = h.cameras.getExposureUs id := by
  intro hall
  have hcode : ((stereoHub ()).setParameters "cam-1" exposureThenUnknown).2.code = 4 := by decide
  have hkept := hall (stereoHub ()) "cam-1" exposureThenUnknown (hcode ▸ by decide) "cam-1" (by decide)
  have hafter : ((stereoHub ()).setParameters "cam-1" exposureThenUnknown).1.cameras.getExposureUs
      "cam-1" = some 5 := by decide
  have hbefore : (stereoHub ()).cameras.getExposureUs "cam-1" = some 0 := by decide
  rw [hafter, hbefore] at hkept
  cases hkept

end Camera3D.Hub
