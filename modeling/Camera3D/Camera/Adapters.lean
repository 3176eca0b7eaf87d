import Camera3D.Camera.Manager

/-! What a call on one open device does to the table of the manager. -/
namespace Camera3D.Camera

section Replace
variable {κ : Type*} {β : κ → Type*} [DecidableEq κ]

theorem dlookup_kreplace_ne {a k : κ} (hne : k ≠ a) (b : β a) (l : List (Sigma β)) :
    (l.kreplace a b).dlookup k = l.dlookup k := by
  induction l with
  | nil => rfl
  | cons s l ih =>
    by_cases hs : a = s.1
    · obtain ⟨k', v⟩ := s
      obtain rfl : a = k' := hs
      rw [List.kreplace, List.lookmap_cons_some _ _ (b := ⟨a, b⟩) (by simp)]
      rw [List.dlookup_cons_ne _ _ hne, List.dlookup_cons_ne _ _ hne]
    · rw [List.kreplace, List.lookmap_cons_none _ _ (by simp [hs])]
      by_cases hk : k = s.1
      · subst hk
        rw [List.dlookup_cons_eq, List.dlookup_cons_eq]
      · rw [List.dlookup_cons_ne _ _ hk, List.dlookup_cons_ne _ _ hk]
        exact ih

theorem dlookup_kreplace_self {a : κ} (b : β a) {l : List (Sigma β)} (ha : a ∈ l.keys) :
    (l.kreplace a b).dlookup a = some b := by
  induction l with
  | nil => cases ha
  | cons s l ih =>
    by_cases hs : a = s.1
    · rw [List.kreplace, List.lookmap_cons_some _ _ (b := ⟨a, b⟩) (by simp [hs])]
      exact List.dlookup_cons_eq _ _ _
    · rw [List.kreplace, List.lookmap_cons_none _ _ (by simp [hs]), List.dlookup_cons_ne _ _ hs]
      exact ih ((List.mem_cons.mp ha).resolve_left hs)

end Replace

namespace CameraManager
variable {α β : Type*} {m : CameraManager α} {mid : String} {dflt : β} {f : α → α × β}

theorem withAdapter_of_none (h : m.open_.lookup mid = none) : m.withAdapter mid dflt f = (m, dflt) := by
  unfold withAdapter
  rw [h]

theorem withAdapter_snd {slot : Slot α} (h : m.open_.lookup mid = some slot) :
    (m.withAdapter mid dflt f).2 = (f slot.adapter).2 := by
  unfold withAdapter
  rw [h]

theorem lookup_withAdapter_self {slot : Slot α} (h : m.open_.lookup mid = some slot) :
    (m.withAdapter mid dflt f).1.open_.lookup mid =
      some { slot with adapter := (f slot.adapter).1 } := by
  have hmem : mid ∈ m.open_ := AList.lookup_isSome.mp (by rw [h]; rfl)
  unfold withAdapter
  rw [h]
  exact dlookup_kreplace_self _ hmem

theorem lookup_withAdapter_ne {mid' : String} (hne : mid' ≠ mid) :
    (m.withAdapter mid dflt f).1.open_.lookup mid' = m.open_.lookup mid' := by
  unfold withAdapter
  cases m.open_.lookup mid with
  | none => rfl
  | some slot => exact dlookup_kreplace_ne hne _ _

/-- A call on a device gives up no adapter. -/
@[simp] theorem released_withAdapter : (m.withAdapter mid dflt f).1.released = m.released := by
  unfold withAdapter
  cases m.open_.lookup mid <;> rfl

/-- The device that is open under an id. -/
def deviceOf (m : CameraManager α) (mid : String) : Option DeviceInfo :=
  (m.open_.lookup mid).map Slot.device

/-- A call on a device leaves the devices what they are. -/
@[simp] theorem deviceOf_withAdapter : (m.withAdapter mid dflt f).1.deviceOf = m.deviceOf := by
  funext id
  unfold deviceOf
  by_cases hid : id = mid
  · subst hid
    cases hslot : m.open_.lookup id with
    | none => rw [withAdapter_of_none hslot, hslot]
    | some slot =>
      rw [lookup_withAdapter_self hslot]
      rfl
  · rw [lookup_withAdapter_ne hid]

end CameraManager
end Camera3D.Camera
