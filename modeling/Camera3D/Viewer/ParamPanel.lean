import Mathlib.Data.List.Nodup
import Mathlib.Algebra.Group.Nat.Defs

/-! The panel of camera parameters: a control for each parameter, which shows the value that the device
holds and sends it another one when the user changes it. -/
namespace Camera3D.Viewer

inductive ParamKind where
  | int
  | bool
  | enum
  deriving DecidableEq

structure ParamMeta where
  id : Int32 := 0
  minVal : Int32 := 0
  maxVal : Int32 := 0
  developerOnly : Bool := false
  kind : ParamKind := .int
  enumLabels : List String := []
  enumValues : List Int32 := []
  deriving DecidableEq

/-- What the panel asks of a device; a list that is handed out comes with whether the call succeeded. -/
class IDeviceAdapter (δ : Type*) where
  isConnected : δ → Bool
  getParameterList : δ → Bool × List ParamMeta
  getParameter : δ → Int32 → δ × Bool × List Int32
  setParameter : δ → Int32 → List Int32 → δ × Bool

/-- A number box with its range, a check box, or a box with as many texts to choose from. -/
inductive Control where
  | spin (minimum maximum value : Int32)
  | check (checked : Bool)
  | combo (count : ℕ) (currentIndex : Option ℕ)
  deriving DecidableEq

structure ParamWidget where
  paramId : Int32
  control : Control
  deriving DecidableEq

inductive Input where
  | number (value : Int32)
  | tick (checked : Bool)
  | pick (index : ℕ)

inductive Signal where
  | valueChanged (value : Int32)
  | toggled (checked : Bool)
  | currentIndexChanged (index : ℕ)

/-- The nearest number of a range. -/
def bound (minimum maximum value : Int32) : Int32 :=
  if value < minimum then minimum else if maximum < value then maximum else value

namespace Control

/-- A number box gives a range that is the wrong way round the single number `minimum`. -/
def ofMeta (m : ParamMeta) : Control :=
  if m.kind = .bool then .check false
  else if m.kind = .enum ∧ m.enumLabels ≠ [] then .combo m.enumLabels.length (some 0)
  else
    let maximum := if m.minVal < m.maxVal then m.maxVal else m.minVal
    .spin m.minVal maximum (bound m.minVal maximum 0)

/-- What the user does to a control; it signals nothing as long as it shows the same as before. -/
def input : Control → Input → Option (Control × Signal)
  | .spin minimum maximum old, .number value =>
    let value := bound minimum maximum value
    if value = old then none else some (.spin minimum maximum value, .valueChanged value)
  | .check old, .tick checked =>
    if checked = old then none else some (.check checked, .toggled checked)
  | .combo count old, .pick index =>
    if index < count ∧ some index ≠ old then
      some (.combo count (some index), .currentIndexChanged index)
    else none
  | _, _ => none

end Control

/-- The text that stands for a value of the parameter. -/
def enumIndex (paramList : List ParamMeta) (id : Int32) (count : ℕ) (value : Int32) : ℕ :=
  match (paramList.find? fun m => m.id = id).map ParamMeta.enumValues with
  | some (v :: vs) => if value ∈ v :: vs then (v :: vs).idxOf value else 0
  | _ => if 0 ≤ value ∧ value.toInt < count then value.toNatClampNeg else 0

/-- What `LoadCurrentValues` makes a control show; its signals are blocked. -/
def Control.load (paramList : List ParamMeta) (id value : Int32) : Control → Control
  | .spin minimum maximum _ => .spin minimum maximum (bound minimum maximum value)
  | .check _ => .check (value ≠ 0)
  | .combo count _ =>
    let index := enumIndex paramList id count value
    .combo count (if index < count then some index else none)

/-- The value that stands for a text, as `OnParamEnumChanged` finds it. -/
def enumValue (paramList : List ParamMeta) (id : Int32) (index : ℕ) : Int32 :=
  ((paramList.find? fun m => m.id = id ∧ index < m.enumValues.length).bind fun m =>
    m.enumValues[index]?).getD (.ofNat index)

/-- A value that was sent to the device, and whether it took it. -/
structure ParamCall where
  id : Int32
  value : Int32
  ok : Bool
  deriving DecidableEq

structure CameraParamPanel (δ : Type*) where
  adapter : Option δ
  developerMode : Bool := false
  paramList : List ParamMeta := []
  paramWidgets : List ParamWidget := []

inductive PanelEvent where
  | refresh
  | developerMode (on : Bool)
  | input (i : ℕ) (x : Input)

def visible (developerMode : Bool) (metas : List ParamMeta) : List ParamMeta :=
  metas.filter fun m => !m.developerOnly || developerMode

namespace CameraParamPanel
variable {δ : Type*} [IDeviceAdapter δ]

def loadCurrentValues (paramList : List ParamMeta) : δ → List ParamWidget → δ × List ParamWidget
  | d, [] => (d, [])
  | d, pw :: pws =>
    let (d, ok, values) := IDeviceAdapter.getParameter d pw.paramId
    let pw := match ok, values with
      | true, v :: _ => { pw with control := pw.control.load paramList pw.paramId v }
      | _, _ => pw
    let (d, pws) := loadCurrentValues paramList d pws
    (d, pw :: pws)

/-- Without a device that is connected the list from before stays, but there is no control for it. -/
def refreshParameterList (p : CameraParamPanel δ) : CameraParamPanel δ :=
  match p.adapter with
  | none => { p with paramWidgets := [] }
  | some d =>
    if !IDeviceAdapter.isConnected d then { p with paramWidgets := [] }
    else
      match IDeviceAdapter.getParameterList d with
      | (false, paramList) => { p with paramList, paramWidgets := [] }
      | (true, paramList) =>
        let paramWidgets := (visible p.developerMode paramList).map fun m => ⟨m.id, .ofMeta m⟩
        let (d, paramWidgets) := loadCurrentValues paramList d paramWidgets
        { p with adapter := some d, paramList, paramWidgets }

/-- The end of the three slots; the panel does not look at the result. -/
def setParameter (p : CameraParamPanel δ) (id value : Int32) : CameraParamPanel δ × List ParamCall :=
  match p.adapter with
  | none => (p, [])
  | some d =>
    let (d, ok) := IDeviceAdapter.setParameter d id [value]
    ({ p with adapter := some d }, [⟨id, value, ok⟩])

def onParamIntChanged (p : CameraParamPanel δ) (id value : Int32) := p.setParameter id value

def onParamBoolChanged (p : CameraParamPanel δ) (id : Int32) (checked : Bool) :=
  p.setParameter id (if checked then 1 else 0)

def onParamEnumChanged (p : CameraParamPanel δ) (id : Int32) (index : ℕ) :=
  p.setParameter id (enumValue p.paramList id index)

def receive (p : CameraParamPanel δ) (id : Int32) :
    Signal → CameraParamPanel δ × List ParamCall
  | .valueChanged value => p.onParamIntChanged id value
  | .toggled checked => p.onParamBoolChanged id checked
  | .currentIndexChanged index => p.onParamEnumChanged id index

def step (p : CameraParamPanel δ) : PanelEvent → CameraParamPanel δ × List ParamCall
  | .refresh => (p.refreshParameterList, [])
  | .developerMode on =>
    if p.developerMode ≠ on then ({ p with developerMode := on }.refreshParameterList, [])
    else (p, [])
  | .input i x =>
    match p.paramWidgets[i]? with
    | none => (p, [])
    | some pw =>
      match pw.control.input x with
      | none => (p, [])
      | some (control, signal) =>
        { p with paramWidgets := p.paramWidgets.set i { pw with control } }.receive pw.paramId signal

/-- A run of the panel, and what it has sent to the device. -/
def run (p : CameraParamPanel δ) : List PanelEvent → CameraParamPanel δ × List ParamCall
  | [] => (p, [])
  | e :: es =>
    let (p, calls) := p.step e
    let (p, later) := p.run es
    (p, calls ++ later)

end CameraParamPanel

/-- The number that a signal makes the panel send. -/
def Signal.value (paramList : List ParamMeta) (id : Int32) : Signal → Int32
  | .valueChanged value => value
  | .toggled checked => if checked then 1 else 0
  | .currentIndexChanged index => enumValue paramList id index

/-- A list of parameters that a panel can tell apart, and whose texts it can tell apart. -/
structure Legible (metas : List ParamMeta) : Prop where
  ids : (metas.map ParamMeta.id).Nodup
  labels : ∀ m ∈ metas, m.enumLabels.length < 2 ^ 31
  values : ∀ m ∈ metas, m.enumValues = [] ∨
    m.enumValues.Nodup ∧ m.enumValues.length = m.enumLabels.length

/-- The control of a parameter that has the value `v`. -/
def showing (metas : List ParamMeta) (m : ParamMeta) (v : Int32) : Control :=
  (Control.ofMeta m).load metas m.id v

/-- The values that the control of a parameter can be made to send. -/
def Offered (m : ParamMeta) (v : Int32) : Prop :=
  match Control.ofMeta m with
  | .spin minimum maximum _ => bound minimum maximum v = v
  | .check _ => v = 0 ∨ v = 1
  | .combo _ _ => True

theorem bound_bound {minimum maximum : Int32} (h : ¬ maximum < minimum) (v : Int32) :
    bound minimum maximum (bound minimum maximum v) = bound minimum maximum v := by
  unfold bound
  grind

theorem find?_eq_some_of_unique {α : Type*} {p : α → Bool} {xs : List α} {x : α} (hx : x ∈ xs)
    (hp : p x = true) (hunique : ∀ y ∈ xs, p y = true → y = x) : xs.find? p = some x := by
  obtain ⟨y, hy⟩ := Option.isSome_iff_exists.mp (List.find?_isSome.mpr ⟨x, hx, hp⟩)
  rw [hy, hunique y (List.mem_of_find?_eq_some hy) (List.find?_some hy)]

namespace Control
variable {control : Control} {signal : Signal}

theorem ofMeta_cases (m : ParamMeta) :
    ofMeta m = .check false ∨ ofMeta m = .combo m.enumLabels.length (some 0) ∨
      ∃ minimum maximum v, ofMeta m = .spin minimum maximum v ∧ ¬ maximum < minimum := by
  unfold ofMeta
  dsimp only
  by_cases hbool : m.kind = .bool
  · left
    rw [if_pos hbool]
  · rw [if_neg hbool]
    right
    by_cases henum : m.kind = .enum ∧ m.enumLabels ≠ []
    · left
      rw [if_pos henum]
    · right
      rw [if_neg henum]
      refine ⟨_, _, _, rfl, ?_⟩
      grind

theorem input_check {old checked : Bool} :
    (Control.check old).input (.tick checked) = some (control, signal) ↔
      checked ≠ old ∧ .check checked = control ∧ .toggled checked = signal := by
  simp [input]

theorem input_combo {count index : ℕ} {old : Option ℕ} :
    (Control.combo count old).input (.pick index) = some (control, signal) ↔
      (index < count ∧ some index ≠ old) ∧ .combo count (some index) = control ∧
        .currentIndexChanged index = signal := by
  simp [input]

theorem input_spin {minimum maximum old value : Int32} :
    (Control.spin minimum maximum old).input (.number value) = some (control, signal) ↔
      bound minimum maximum value ≠ old ∧
        .spin minimum maximum (bound minimum maximum value) = control ∧
        .valueChanged (bound minimum maximum value) = signal := by
  simp [input]

end Control

section Legible
variable {metas : List ParamMeta} {m : ParamMeta}

theorem Legible.eq_of_id (h : Legible metas) {m m' : ParamMeta} (hm : m ∈ metas) (hm' : m' ∈ metas)
    (hid : m.id = m'.id) : m = m' := List.inj_on_of_nodup_map h.ids hm hm' hid

theorem Legible.find_id (h : Legible metas) (hm : m ∈ metas) :
    metas.find? (fun m' => m'.id = m.id) = some m := by
  apply find?_eq_some_of_unique hm
  · simp
  · intro m' hm' he
    exact h.eq_of_id hm' hm (of_decide_eq_true he)

/-- The text that is picked for a parameter stands for the value that it is sent. -/
theorem Legible.enumIndex_enumValue (h : Legible metas) (hm : m ∈ metas) {index : ℕ}
    (hindex : index < m.enumLabels.length) :
    enumIndex metas m.id m.enumLabels.length (enumValue metas m.id index) = index := by
  have hlength := h.labels m hm
  rcases h.values m hm with hempty | ⟨hnodup, hsame⟩
  · have hnone : (metas.find? fun m' => m'.id = m.id ∧ index < m'.enumValues.length) = none := by
      rw [List.find?_eq_none]
      intro m' hm' he
      obtain ⟨hid, hlt⟩ := of_decide_eq_true he
      rw [h.eq_of_id hm' hm hid, hempty] at hlt
      exact Nat.not_lt_zero _ hlt
    have hvalue : (Int32.ofNat index).toInt = index := Int32.toInt_ofNat_of_lt (by omega)
    have hnonneg : 0 ≤ Int32.ofNat index := by
      rw [Int32.le_iff_toInt_le, hvalue, Int32.toInt_zero]
      omega
    unfold enumIndex enumValue
    rw [h.find_id hm, hnone, Option.map_some, hempty]
    simp only [Option.bind_none, Option.getD_none]
    rw [if_pos ⟨hnonneg, by omega⟩, Int32.toNatClampNeg, hvalue, Int.toNat_natCast]
  · have hsome : (metas.find? fun m' => m'.id = m.id ∧ index < m'.enumValues.length) = some m := by
      apply find?_eq_some_of_unique hm
      · simp [hsame, hindex]
      · intro m' hm' he
        exact h.eq_of_id hm' hm (of_decide_eq_true he).1
    have hlt : index < m.enumValues.length := by omega
    have hvalue : enumValue metas m.id index = m.enumValues[index] := by
      unfold enumValue
      rw [hsome, Option.bind_some, List.getElem?_eq_getElem hlt, Option.getD_some]
    have hmem : m.enumValues[index] ∈ m.enumValues := List.getElem_mem hlt
    have hidx := hnodup.idxOf_getElem index hlt
    unfold enumIndex
    rw [h.find_id hm, Option.map_some, hvalue]
    generalize m.enumValues[index] = value at hmem hidx
    cases hvalues : m.enumValues with
    | nil =>
      rw [hvalues] at hmem
      exact absurd hmem List.not_mem_nil
    | cons v vs =>
      rw [hvalues] at hmem hidx
      dsimp only
      rw [if_pos hmem, hidx]

/-- What the user makes a control show is what it would show for the value that is sent. -/
theorem Legible.showing_input (h : Legible metas) (hm : m ∈ metas) {u : Int32} {x : Input}
    {control : Control} {signal : Signal}
    (hinput : (showing metas m u).input x = some (control, signal)) :
    control = showing metas m (signal.value metas m.id) ∧ Offered m (signal.value metas m.id) := by
  unfold showing at hinput ⊢
  unfold Offered
  rcases Control.ofMeta_cases m with he | he | ⟨minimum, maximum, v, he, hrange⟩
  · rw [he] at hinput ⊢
    cases x with
    | tick checked =>
      obtain ⟨_, rfl, rfl⟩ := Control.input_check.mp hinput
      cases checked
      · simp [Control.load, Signal.value]
      · simp [Control.load, Signal.value]
    | number value => cases hinput
    | pick index => cases hinput
  · rw [he] at hinput ⊢
    cases x with
    | pick index =>
      obtain ⟨hindex, rfl, rfl⟩ := Control.input_combo.mp hinput
      have hsame := h.enumIndex_enumValue hm hindex.1
      simp [Control.load, Signal.value, hsame, hindex.1]
    | number value => cases hinput
    | tick checked => cases hinput
  · rw [he] at hinput ⊢
    cases x with
    | number value =>
      obtain ⟨_, rfl, rfl⟩ := Control.input_spin.mp hinput
      have hsame := bound_bound hrange value
      simp [Control.load, Signal.value, hsame]
    | tick checked => cases hinput
    | pick index => cases hinput

end Legible

/-- What a panel may take a device for: a store of one number for each parameter. -/
structure ParamStore (metas : List ParamMeta) (H : Type*) where
  value : H → Int32 → Int32
  put : H → Int32 → Int32 → H
  value_put : ∀ s v, ∀ m ∈ metas, ∀ m' ∈ metas,
    value (put s m.id v) m'.id = if m'.id = m.id then v else value s m'.id

/-- The store once it has been given the values that were sent. -/
def ParamStore.puts {metas : List ParamMeta} {H : Type*} (S : ParamStore metas H) (s : H)
    (calls : List ParamCall) : H := calls.foldl (fun s c => S.put s c.id c.value) s

/-- A device that is such a store for as long as it takes what it is sent. -/
structure Serves {metas : List ParamMeta} {H δ : Type*} [IDeviceAdapter δ] (S : ParamStore metas H)
    (Ready : δ → Prop) (held : δ → H) : Prop where
  connected : ∀ d, Ready d → IDeviceAdapter.isConnected d = true
  listed : ∀ d, Ready d → IDeviceAdapter.getParameterList d = (true, metas)
  gets : ∀ d, Ready d → ∀ m ∈ metas, ∃ d', Ready d' ∧ held d' = held d ∧
    IDeviceAdapter.getParameter d m.id = (d', true, [S.value (held d) m.id])
  sets : ∀ d, Ready d → ∀ m ∈ metas, ∀ v, (IDeviceAdapter.setParameter d m.id [v]).2 = true →
    Ready (IDeviceAdapter.setParameter d m.id [v]).1 ∧
      held (IDeviceAdapter.setParameter d m.id [v]).1 = S.put (held d) m.id v

namespace CameraParamPanel
variable {δ H : Type*} [IDeviceAdapter δ] {metas : List ParamMeta} {S : ParamStore metas H}
  {Ready : δ → Prop} {held : δ → H} {p : CameraParamPanel δ} {d : δ}

omit [IDeviceAdapter δ] in
/-- Every parameter that is to be seen has its control, which shows what the device holds. -/
structure Shows (S : ParamStore metas H) (held : δ → H) (p : CameraParamPanel δ) (d : δ) : Prop where
  adapter : p.adapter = some d
  paramList : p.paramList = metas
  paramWidgets : p.paramWidgets = (visible p.developerMode metas).map fun m =>
    ⟨m.id, showing metas m (S.value (held d) m.id)⟩

theorem receive_eq (p : CameraParamPanel δ) (id : Int32) (signal : Signal) :
    p.receive id signal = p.setParameter id (signal.value p.paramList id) := by
  cases signal <;> rfl

theorem loadCurrentValues_eq (h : Serves S Ready held) {ms : List ParamMeta}
    (hms : ∀ m ∈ ms, m ∈ metas) (hready : Ready d) :
    ∃ d', Ready d' ∧ held d' = held d ∧
      loadCurrentValues metas d (ms.map fun m => ⟨m.id, .ofMeta m⟩) =
        (d', ms.map fun m => ⟨m.id, showing metas m (S.value (held d) m.id)⟩) := by
  induction ms generalizing d with
  | nil => exact ⟨d, hready, rfl, rfl⟩
  | cons m ms ih =>
    obtain ⟨d', hready', hheld, hget⟩ := h.gets d hready m (hms m List.mem_cons_self)
    obtain ⟨d'', hready'', hheld', hload⟩ :=
      ih (fun m' hm' => hms m' (List.mem_cons_of_mem m hm')) hready'
    refine ⟨d'', hready'', hheld'.trans hheld, ?_⟩
    rw [List.map_cons, loadCurrentValues, hget]
    dsimp only
    rw [hload, hheld]
    rfl

theorem mem_of_visible {on : Bool} {m : ParamMeta} (hm : m ∈ visible on metas) : m ∈ metas :=
  List.mem_of_mem_filter hm

/-- A refresh makes every control show what the device holds. -/
theorem shows_refresh (h : Serves S Ready held) (hadapter : p.adapter = some d) (hready : Ready d) :
    ∃ d', Ready d' ∧ held d' = held d ∧ Shows S held p.refreshParameterList d' := by
  obtain ⟨d', hready', hheld, hload⟩ := loadCurrentValues_eq h
    (fun m (hm : m ∈ visible p.developerMode metas) => mem_of_visible hm) hready
  have hrefresh : p.refreshParameterList =
      { p with
        adapter := some d'
        paramList := metas
        paramWidgets := (visible p.developerMode metas).map fun m =>
          ⟨m.id, showing metas m (S.value (held d) m.id)⟩ } := by
    unfold refreshParameterList
    rw [hadapter]
    dsimp only
    rw [h.connected d hready, h.listed d hready]
    dsimp only
    rw [hload]
    rfl
  rw [hrefresh, ← hheld]
  exact ⟨d', hready', rfl, ⟨rfl, rfl, rfl⟩⟩

/-- A value that the device takes for one parameter changes what is shown for it, and nothing else. -/
theorem showing_put (S : ParamStore metas H) (hlegible : Legible metas) {on : Bool} {i : ℕ}
    {m : ParamMeta} (hm : (visible on metas)[i]? = some m) (s : H) (v : Int32) :
    (((visible on metas).map fun m => (⟨m.id, showing metas m (S.value s m.id)⟩ : ParamWidget)).set i
      ⟨m.id, showing metas m v⟩) =
      (visible on metas).map fun m' =>
        ⟨m'.id, showing metas m' (S.value (S.put s m.id v) m'.id)⟩ := by
  have hmem : m ∈ metas := mem_of_visible (List.mem_of_getElem? hm)
  have hnodup : (visible on metas).Nodup := hlegible.ids.of_map.filter _
  apply List.ext_getElem?
  intro k
  rw [List.getElem?_set, List.getElem?_map, List.getElem?_map]
  rcases eq_or_ne i k with rfl | hne
  · have hvalue := S.value_put s v m hmem m hmem
    rw [if_pos rfl] at hvalue
    rw [if_pos rfl, List.length_map, if_pos (List.getElem?_eq_some_iff.mp hm).1, hm, Option.map_some,
      hvalue]
  · rw [if_neg hne]
    cases hk : (visible on metas)[k]? with
    | none => rw [Option.map_none, Option.map_none]
    | some m' =>
      have hmem' : m' ∈ metas := mem_of_visible (List.mem_of_getElem? hk)
      have hother : m'.id ≠ m.id := by
        intro hid
        have hsame := hlegible.eq_of_id hmem' hmem hid
        subst hsame
        have hlt : i < (visible on metas).length := (List.getElem?_eq_some_iff.mp hm).1
        exact hne ((List.getElem?_inj hlt hnodup).mp (hm.trans hk.symm))
      rw [Option.map_some, Option.map_some, S.value_put s v m hmem m' hmem', if_neg hother]

/-- As long as the device takes what it is sent, every event leaves all controls showing what it holds,
and what it holds is what it was sent. -/
theorem Shows.step (h : Serves S Ready held) (hlegible : Legible metas) (hready : Ready d)
    (hshows : Shows S held p d) {e : PanelEvent} (hok : ∀ c ∈ (p.step e).2, c.ok = true) :
    (∃ d', Ready d' ∧ Shows S held (p.step e).1 d' ∧ held d' = S.puts (held d) (p.step e).2) ∧
      ∀ c ∈ (p.step e).2, ∃ m ∈ metas, c.id = m.id ∧ Offered m c.value := by
  cases e with
  | refresh =>
    obtain ⟨d', hready', hheld, hshows'⟩ := shows_refresh h hshows.adapter hready
    exact ⟨⟨d', hready', hshows', hheld⟩, List.forall_mem_nil _⟩
  | developerMode on =>
    unfold CameraParamPanel.step
    dsimp only
    split_ifs with hon
    · obtain ⟨d', hready', hheld, hshows'⟩ := shows_refresh h
        (p := { p with developerMode := on }) hshows.adapter hready
      exact ⟨⟨d', hready', hshows', hheld⟩, List.forall_mem_nil _⟩
    · exact ⟨⟨d, hready, hshows, rfl⟩, List.forall_mem_nil _⟩
  | input i x =>
    unfold CameraParamPanel.step at hok ⊢
    dsimp only at hok ⊢
    have hwidget : p.paramWidgets[i]? = ((visible p.developerMode metas)[i]?).map fun m =>
        ⟨m.id, showing metas m (S.value (held d) m.id)⟩ := by
      rw [hshows.paramWidgets, List.getElem?_map]
    cases hm : (visible p.developerMode metas)[i]? with
    | none =>
      rw [hwidget, hm]
      exact ⟨⟨d, hready, hshows, rfl⟩, List.forall_mem_nil _⟩
    | some m =>
      rw [hwidget, hm, Option.map_some] at hok ⊢
      dsimp only at hok ⊢
      have hmem : m ∈ metas := mem_of_visible (List.mem_of_getElem? hm)
      cases hinput : (showing metas m (S.value (held d) m.id)).input x with
      | none => exact ⟨⟨d, hready, hshows, rfl⟩, List.forall_mem_nil _⟩
      | some out =>
        obtain ⟨control, signal⟩ := out
        rw [hinput] at hok
        dsimp only at hok ⊢
        obtain ⟨hcontrol, hoffered⟩ := hlegible.showing_input hmem hinput
        rw [receive_eq, hshows.paramList, CameraParamPanel.setParameter, hshows.adapter] at hok ⊢
        dsimp only at hok ⊢
        obtain ⟨hready', hheld⟩ :=
          h.sets d hready m hmem _ (hok _ (List.mem_singleton_self _))
        constructor
        · refine ⟨_, hready', ⟨rfl, rfl, ?_⟩, hheld⟩
          rw [hheld, hshows.paramWidgets, hcontrol]
          exact showing_put S hlegible hm (held d) _
        · rw [List.forall_mem_singleton]
          exact ⟨m, hmem, rfl, hoffered⟩

theorem Shows.run (h : Serves S Ready held) (hlegible : Legible metas) (hready : Ready d)
    (hshows : Shows S held p d) (es : List PanelEvent) (hok : ∀ c ∈ (p.run es).2, c.ok = true) :
    (∃ d', Ready d' ∧ Shows S held (p.run es).1 d' ∧ held d' = S.puts (held d) (p.run es).2) ∧
      ∀ c ∈ (p.run es).2, ∃ m ∈ metas, c.id = m.id ∧ Offered m c.value := by
  induction es generalizing p d with
  | nil => exact ⟨⟨d, hready, hshows, rfl⟩, List.forall_mem_nil _⟩
  | cons e es ih =>
    rw [CameraParamPanel.run] at hok ⊢
    dsimp only at hok ⊢
    rw [List.forall_mem_append] at hok
    obtain ⟨⟨d', hready', hshows', hheld⟩, hoffered⟩ := hshows.step h hlegible hready hok.1
    obtain ⟨⟨d'', hready'', hshows'', hheld'⟩, hoffered'⟩ := ih hready' hshows' hok.2
    refine ⟨⟨d'', hready'', hshows'', ?_⟩, List.forall_mem_append.mpr ⟨hoffered, hoffered'⟩⟩
    rw [hheld', hheld]
    exact List.foldl_append.symm

end CameraParamPanel
end Camera3D.Viewer
