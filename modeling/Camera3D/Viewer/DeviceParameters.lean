import Camera3D.Arith.Binary64
import Camera3D.Sdk.ReadBack
import Camera3D.Viewer.ParamPanel

/-! The parameters of the cameras behind a hub, as whole numbers of microseconds, thousandths of a
decibel and thousandths of a gamma: what the panel shows of them is what the cameras hold. -/
namespace Camera3D.Viewer
open Arith Camera Hub Sdk Serial

def kParamExposure2d : Int32 := ParameterType.kExposure2d
def kParamGain2d : Int32 := ParameterType.kGain2d
def kParamGamma2d : Int32 := ParameterType.kGamma2d

/-- What `lround` and the conversion to `int` make of a number that no `int` is nearest to. -/
class IntConversion where
  outside : Double → Int32

section Converted
variable [IntConversion]

def lround (x : Double) : Int32 :=
  if isFinite x ∧ -2 ^ 31 ≤ roundAway (toRat x) ∧ roundAway (toRat x) < 2 ^ 31 then
    .ofInt (roundAway (toRat x))
  else IntConversion.outside x

def bestParameterList : List ParamMeta :=
  [{ id := kParamExposure2d, minVal := 1, maxVal := 500000 },
    { id := kParamGain2d, minVal := 0, maxVal := 48000 },
    { id := kParamGamma2d, minVal := 100, maxVal := 10000 }]

section Best
variable {α π : Type*} [ICameraControls α] [ISerialPort π]

/-- The body of each branch of `GetParameter`. -/
def readParameter (l : Link α π) (t : ParameterType) (convert : Double → Int32) :
    Link α π × Bool × List Int32 :=
  match l.getParameters [t] [] with
  | (l, true, pv :: _) => (l, true, [convert pv.value])
  | (l, _, _) => (l, false, [])

def getParameter (l : Link α π) (id : Int32) : Link α π × Bool × List Int32 :=
  if !l.sdk.isConnected then (l, false, [])
  else if id = kParamExposure2d then readParameter l ParameterType.kExposure2d lround
  else if id = kParamGain2d then
    readParameter l ParameterType.kGain2d fun x => lround (scaleUp x 1000)
  else if id = kParamGamma2d then
    readParameter l ParameterType.kGamma2d fun x => lround (scaleUp x 1000)
  else (l, false, [])

def setParameter (l : Link α π) (id : Int32) (values : List Int32) : Link α π × Bool :=
  match l.sdk.isConnected, values with
  | true, v :: _ =>
    if id = kParamExposure2d then l.setParameters [⟨ParameterType.kExposure2d, ofRat v.toInt⟩]
    else if id = kParamGain2d then
      l.setParameters [⟨ParameterType.kGain2d, scaleDown v.toInt 1000⟩]
    else if id = kParamGamma2d then
      l.setParameters [⟨ParameterType.kGamma2d, scaleDown v.toInt 1000⟩]
    else (l, false)
  | _, _ => (l, false)

instance : IDeviceAdapter (Link α π) where
  isConnected l := l.sdk.isConnected
  getParameterList _ := (true, bestParameterList)
  getParameter := getParameter
  setParameter := setParameter

end Best

/-- The number that the device is sent for a value, and the value that is shown for a number. -/
def toDevice (id v : Int32) : Double :=
  if id = kParamExposure2d then ofRat v.toInt else scaleDown v.toInt 1000

def fromDevice (id : Int32) (x : Double) : Int32 :=
  if id = kParamExposure2d then lround x else lround (scaleUp x 1000)

theorem lround_eq {x : Double} {v : Int32} (hfinite : isFinite x = true)
    (hround : roundAway (toRat x) = v.toInt) : lround x = v := by
  have hlow := v.le_toInt
  have hhigh := v.toInt_lt
  unfold lround
  rw [hround, if_pos ⟨hfinite, hlow, hhigh⟩, Int32.ofInt_toInt]

/-- Every value comes back as it was typed, for all that it is sent as a binary fraction. -/
theorem fromDevice_toDevice (id v : Int32) : fromDevice id (toDevice id v) = v := by
  have habs : |v.toInt| ≤ 2 ^ 31 := by
    have hlow := v.le_toInt
    have hhigh := v.toInt_lt
    rw [abs_le]
    constructor
    · omega
    · omega
  unfold fromDevice toDevice
  split_ifs with hid
  · obtain ⟨hfinite, hround⟩ := roundAway_ofRat habs
    exact lround_eq hfinite hround
  · obtain ⟨_, hfinite, hround⟩ := scaleUp_scaleDown habs (k := 1000) (by norm_num) (by norm_num)
    exact lround_eq hfinite hround

omit [IntConversion] in
theorem legible_bestParameterList : Legible bestParameterList where
  ids := by decide
  labels := by decide
  values := by decide

omit [IntConversion] in
theorem id_cases {m : ParamMeta} (hm : m ∈ bestParameterList) :
    m.id = kParamExposure2d ∨ m.id = kParamGain2d ∨ m.id = kParamGamma2d := by
  simp only [bestParameterList, List.mem_cons, List.not_mem_nil, or_false] at hm
  rcases hm with rfl | rfl | rfl
  · simp
  · simp
  · simp

/-- What the cameras hold, as one store: a value that is sent goes to every camera of the session, and
the first of them is the one that is read. -/
def cameraStore (front : String) (rest : List String) :
    ParamStore bestParameterList (String → ParameterType → Option Double) where
  value s id := fromDevice id ((s front id).getD 0)
  put s id v cam t := if cam ∈ front :: rest ∧ t = id then some (toDevice id v) else s cam t
  value_put s v m hm m' hm' := by
    by_cases hid : m'.id = m.id
    · simp [hid, fromDevice_toDevice]
    · simp [hid]

section Shown
omit [IntConversion]
variable {m : ParamMeta} (hm : m ∈ bestParameterList)
include hm

theorem kind_of_mem : m.kind = .int ∧ m.minVal < m.maxVal := by
  revert m
  decide

theorem ofMeta_of_mem : Control.ofMeta m = .spin m.minVal m.maxVal (bound m.minVal m.maxVal 0) := by
  obtain ⟨hkind, hlt⟩ := kind_of_mem hm
  unfold Control.ofMeta
  simp [hkind, hlt]

theorem showing_of_mem (v : Int32) : showing bestParameterList m v =
    .spin m.minVal m.maxVal (bound m.minVal m.maxVal v) := by
  unfold showing
  rw [ofMeta_of_mem hm]
  rfl

theorem range_of_offered {v : Int32} (hoffered : Offered m v) :
    bound m.minVal m.maxVal v = v ∧ m.minVal ≤ v ∧ v ≤ m.maxVal := by
  obtain ⟨_, hlt⟩ := kind_of_mem hm
  unfold Offered at hoffered
  rw [ofMeta_of_mem hm] at hoffered
  have hbound : bound m.minVal m.maxVal v = v := hoffered
  refine ⟨hbound, ?_⟩
  unfold bound at hbound
  grind

end Shown

section Ready
variable {α π : Type*} [ICameraControls α] [ISerialPort π] {front : String} {rest : List String}
  {l : Link α π}

omit [IntConversion] [ICameraControls α] in
/-- A connected client of a hub that admits it, with all cameras of the session open. -/
structure ServesSession (front : String) (rest : List String) (l : Link α π) : Prop where
  connected : l.sdk.isConnected = true
  admitted : l.hub.recover.admission l.sdk.session = none
  session : l.hub.sessionDevicesOrdered = front :: rest
  opened : ∀ id ∈ front :: rest, id ∈ l.hub.cameras.open_

omit [IntConversion] in
/-- What is handed out leaves the client without an error, and the hub with its port looked after. -/
theorem getParameters_state {types : List ParameterType} {outValues : List ParameterValue}
    (hread : (l.getParameters types outValues).2.1 = true) :
    (l.getParameters types outValues).1 = ⟨l.sdk.clearError, l.hub.recover⟩ := by
  unfold Link.getParameters at hread ⊢
  by_cases hvalid : l.sdk.isConnected = true ∧ ParameterType.kInvalid ∉ types
  · have hrequest := DeveloperCameraSdkGrpc.getParametersRequest_eq hvalid.1 hvalid.2
    rw [hrequest] at hread ⊢
    simp only [DeveloperCameraSdkGrpc.getParameters, hrequest, Service.answer, reportedParameters,
      hvalid.1, Bool.not_true, Option.isNone_some, Bool.or_self, Bool.false_eq_true, if_false,
      DeveloperCameraSdkGrpc.conclude] at hread ⊢
    by_cases hcode : (l.hub.recover.getParameters l.sdk.session types).status.code = 0
    · simp [hcode]
    · simp [hcode] at hread
  · exfalso
    have hrequest := DeveloperCameraSdkGrpc.getParametersRequest_error hvalid
    rw [hrequest] at hread
    simp only [DeveloperCameraSdkGrpc.getParameters, hrequest] at hread
    split_ifs at hread

namespace ServesSession
variable [LawfulSerialPort π]

omit [IntConversion] [ICameraControls α] in
/-- A call that the hub has answered leaves it as ready as it was. -/
theorem answered (hready : ServesSession front rest l) {cameras : CameraManager α}
    (hopen : ∀ id, id ∈ l.hub.cameras.open_ → id ∈ cameras.open_) :
    ServesSession front rest
      (⟨l.sdk.clearError, { l.hub.recover with cameras }⟩ : Link α π) := by
  obtain ⟨rt, serial, hframe⟩ := l.hub.recover_frame
  have hattended := Service.attended_of_recover (Service.gate_of_admission hready.admitted)
  have hagain : Service.recover { l.hub.recover with cameras } = { l.hub.recover with cameras } :=
    Service.recover_of_attended hattended
  constructor
  · exact hready.connected
  · dsimp only
    rw [hagain]
    exact hready.admitted
  · change l.hub.recover.sessionDevicesOrdered = front :: rest
    rw [hframe]
    exact hready.session
  · intro id hid
    exact hopen id (hready.opened id hid)

omit [IntConversion] [LawfulSerialPort π] in
/-- A parameter that the cameras have is read from the first of them. -/
theorem getParameters (hready : ServesSession front rest l) (hstores : StoresControls α)
    {t : ParameterType} (ht : Supported t) :
    ∃ x, l.reads front t = some x ∧ (l.getParameters [t] []).2 = (true, [⟨t, x⟩]) ∧
      (l.getParameters [t] []).1 = ⟨l.sdk.clearError, l.hub.recover⟩ := by
  have hvalid : ParameterType.kInvalid ∉ [t] := by
    rw [List.mem_singleton]
    intro he
    exact Link.kInvalid_unsupported (he ▸ ht)
  have hreads : ∀ id ∈ l.hub.sessionDevicesOrdered, ∀ t' ∈ [t], l.reads id t' ≠ none := by
    intro id hid t' ht'
    rw [hready.session] at hid
    rw [List.mem_singleton.mp ht']
    exact Link.reads_ne_none hstores (hready.opened id hid) ht
  have hne : l.hub.sessionDevicesOrdered ≠ [] := by
    rw [hready.session]
    exact List.cons_ne_nil _ _
  obtain ⟨front', rest', values, hfront, hread, hall⟩ :=
    Link.getParameters_readable hready.connected hready.admitted hne hvalid hreads []
  rw [hready.session] at hfront
  obtain ⟨rfl, rfl⟩ := List.cons.inj hfront
  obtain ⟨pv, values, ⟨rfl, hvalue⟩, hnil, rfl⟩ := List.forall₂_cons_left_iff.mp hall
  obtain rfl := List.forall₂_nil_left_iff.mp hnil
  exact ⟨pv.value, hvalue, hread, getParameters_state (by rw [hread])⟩

omit [LawfulSerialPort π] in
theorem getParameter_eq (hready : ServesSession front rest l) {m : ParamMeta}
    (hm : m ∈ bestParameterList) :
    getParameter l m.id = readParameter l m.id (fromDevice m.id) := by
  unfold getParameter
  rw [hready.connected]
  rcases id_cases hm with hid | hid | hid
  · rw [hid]
    rfl
  · rw [hid]
    rfl
  · rw [hid]
    rfl

omit [IntConversion] [LawfulSerialPort π] in
theorem setParameter_eq (hready : ServesSession front rest l) {m : ParamMeta}
    (hm : m ∈ bestParameterList) (v : Int32) :
    setParameter l m.id [v] = l.setParameters [⟨m.id, toDevice m.id v⟩] := by
  have hgain : kParamGain2d ≠ kParamExposure2d := by decide
  have hgamma : kParamGamma2d ≠ kParamExposure2d := by decide
  have hgamma' : kParamGamma2d ≠ kParamGain2d := by decide
  unfold setParameter toDevice
  rw [hready.connected]
  dsimp only
  rcases id_cases hm with hid | hid | hid
  · rw [hid, if_pos rfl, if_pos rfl]
    rfl
  · rw [hid, if_neg hgain, if_pos rfl, if_neg hgain]
    rfl
  · rw [hid, if_neg hgamma, if_neg hgamma', if_pos rfl, if_neg hgamma]
    rfl

omit [IntConversion] [LawfulSerialPort π] in
/-- The cameras of the session hold a value that all of them were given. -/
theorem reads_given (hready : ServesSession front rest l) (hstores : StoresControls α)
    {l' : Link α π} {t : ParameterType} (ht : Supported t) {x : Double}
    (hgiven : Given (settings l.hub.sessionDevicesOrdered [⟨t, x⟩]) l.hub.cameras l'.hub.cameras)
    (cam : String) (t' : ParameterType) :
    l'.reads cam t' = if cam ∈ front :: rest ∧ t' = t then some x else l.reads cam t' := by
  by_cases ht' : Supported t'
  · have hopen : ∀ id ∈ l.hub.sessionDevicesOrdered, id ∈ l.hub.cameras.open_ := by
      rw [hready.session]
      exact hready.opened
    rw [Link.reads_of_given hstores hopen hgiven cam ht', hready.session]
    by_cases hcam : cam ∈ front :: rest
    · by_cases he : t' = t
      · subst he
        simp [hcam, lastValue]
      · simp [hcam, he, lastValue, Ne.symm he]
    · simp [hcam]
  · have hne : t' ≠ t := fun he => ht' (he ▸ ht)
    rw [if_neg (fun h => hne h.2), Link.reads, Link.reads, readAdapter_unsupported ht',
      readAdapter_unsupported ht']

/-- The hub, seen through its client, is the store of what its cameras hold. -/
theorem serves (hstores : StoresControls α) (front : String) (rest : List String) :
    Serves (δ := Link α π) (cameraStore front rest) (ServesSession front rest) Link.reads where
  connected l hready := hready.connected
  listed l hready := rfl
  gets l hready m hm := by
    obtain ⟨rt, serial, hframe⟩ := l.hub.recover_frame
    have hcameras : l.hub.recover.cameras = l.hub.cameras := by rw [hframe]
    have hopen : ∀ id, id ∈ l.hub.cameras.open_ → id ∈ l.hub.recover.cameras.open_ := by
      rw [hcameras]
      exact fun id hid => hid
    obtain ⟨x, hx, hread, hstate⟩ := hready.getParameters hstores (id_cases hm)
    refine ⟨⟨l.sdk.clearError, l.hub.recover⟩, hready.answered hopen, ?_, ?_⟩
    · funext id t
      unfold Link.reads
      rw [hcameras]
    · have hall : l.getParameters [m.id] [] =
          (⟨l.sdk.clearError, l.hub.recover⟩, true, [⟨m.id, x⟩]) := Prod.ext hstate hread
      change getParameter l m.id = _
      rw [hready.getParameter_eq hm, readParameter, hall]
      change _ = (_, true, [fromDevice m.id ((l.reads front m.id).getD 0)])
      rw [hx]
      rfl
  sets l hready m hm v hset := by
    change (setParameter l m.id [v]).2 = true at hset
    change ServesSession front rest (setParameter l m.id [v]).1 ∧
      (setParameter l m.id [v]).1.reads = _
    rw [hready.setParameter_eq hm] at hset ⊢
    obtain ⟨cameras, he, _, _, hgiven⟩ := Link.setParameters_true hset
    rw [he]
    constructor
    · apply hready.answered
      intro id hid
      obtain ⟨slot, hslot⟩ := Option.isSome_iff_exists.mp (AList.lookup_isSome.mpr hid)
      apply AList.lookup_isSome.mp
      rw [hgiven.adapters id, hslot]
      rfl
    · funext cam t
      refine hready.reads_given (x := toDevice m.id v) hstores (id_cases hm) ?_ cam t
      exact hgiven

end ServesSession
variable [LawfulSerialPort π]

omit [IntConversion] in
/-- The value that was sent last for a parameter. -/
def lastSent (id : Int32) (calls : List ParamCall) : Option Int32 :=
  ((calls.filter fun c => c.id = id).getLast?).map ParamCall.value

theorem puts_cameraStore (s : String → ParameterType → Option Double) (calls : List ParamCall)
    (cam : String) (t : ParameterType) :
    (cameraStore front rest).puts s calls cam t =
      if cam ∈ front :: rest then ((lastSent t calls).map (toDevice t)).or (s cam t) else s cam t := by
  induction calls using List.reverseRecOn with
  | nil => simp [ParamStore.puts, lastSent]
  | append_singleton calls c ih =>
    have hputs : (cameraStore front rest).puts s (calls ++ [c]) =
        (cameraStore front rest).put ((cameraStore front rest).puts s calls) c.id c.value := by
      unfold ParamStore.puts
      rw [List.foldl_append]
      rfl
    rw [hputs]
    change (if cam ∈ front :: rest ∧ t = c.id then some (toDevice c.id c.value)
      else (cameraStore front rest).puts s calls cam t) = _
    rw [ih]
    unfold lastSent
    by_cases hcam : cam ∈ front :: rest
    · by_cases ht : t = c.id
      · subst ht
        simp [hcam]
      · simp [hcam, ht, Ne.symm ht]
    · simp [hcam]

omit [IntConversion] in
theorem visible_bestParameterList (on : Bool) : visible on bestParameterList = bestParameterList := by
  unfold visible
  rw [List.filter_eq_self]
  cases on
  · decide
  · decide

omit [IntConversion] in
theorem mem_of_lastSent {id v : Int32} {calls : List ParamCall} (h : lastSent id calls = some v) :
    ∃ c ∈ calls, c.id = id ∧ c.value = v := by
  obtain ⟨c, hlast, hvalue⟩ := Option.map_eq_some_iff.mp h
  obtain ⟨hmem, hid⟩ := List.mem_filter.mp (List.mem_of_getLast? hlast)
  exact ⟨c, hmem, of_decide_eq_true hid, hvalue⟩

/-- Whatever the user does to the panel, as long as the hub takes what is sent: the values sent are in
their ranges, every camera of the session holds the last one of each parameter, every control shows it
(or what the first camera held from the start), and loading the panel again would change nothing. -/
theorem panel_shows_cameras (hstores : StoresControls α) (hready : ServesSession front rest l)
    {p : CameraParamPanel (Link α π)} (hadapter : p.adapter = some l) (es : List PanelEvent)
    (hok : ∀ c ∈ (p.refreshParameterList.run es).2, c.ok = true) :
    ∃ l', (p.refreshParameterList.run es).1.adapter = some l' ∧
      (∀ c ∈ (p.refreshParameterList.run es).2, ∃ m ∈ bestParameterList,
        c.id = m.id ∧ m.minVal ≤ c.value ∧ c.value ≤ m.maxVal) ∧
      (∀ cam t, l'.reads cam t =
        if cam ∈ front :: rest then
          ((lastSent t (p.refreshParameterList.run es).2).map (toDevice t)).or (l.reads cam t)
        else l.reads cam t) ∧
      (p.refreshParameterList.run es).1.paramWidgets = (bestParameterList.map fun m =>
        ⟨m.id, .spin m.minVal m.maxVal ((lastSent m.id (p.refreshParameterList.run es).2).getD
          (bound m.minVal m.maxVal (fromDevice m.id ((l.reads front m.id).getD 0))))⟩) ∧
      (p.refreshParameterList.run es).1.refreshParameterList.paramWidgets =
        (p.refreshParameterList.run es).1.paramWidgets := by
  have hserves := ServesSession.serves (π := π) hstores front rest
  obtain ⟨l₁, hready₁, hheld₁, hshows₁⟩ :=
    CameraParamPanel.shows_refresh hserves hadapter hready
  obtain ⟨⟨l', hready', hshows', hheld'⟩, hoffered⟩ :=
    hshows₁.run hserves legible_bestParameterList hready₁ es hok
  obtain ⟨l'', _, hheld'', hshows''⟩ :=
    CameraParamPanel.shows_refresh hserves hshows'.adapter hready'
  have hranges : ∀ c ∈ (p.refreshParameterList.run es).2, ∃ m ∈ bestParameterList,
      c.id = m.id ∧ bound m.minVal m.maxVal c.value = c.value ∧ m.minVal ≤ c.value ∧
        c.value ≤ m.maxVal := by
    intro c hc
    obtain ⟨m, hm, hid, hoffer⟩ := hoffered c hc
    exact ⟨m, hm, hid, range_of_offered hm hoffer⟩
  have hreads : ∀ cam t, l'.reads cam t =
      if cam ∈ front :: rest then
        ((lastSent t (p.refreshParameterList.run es).2).map (toDevice t)).or (l.reads cam t)
      else l.reads cam t := by
    intro cam t
    rw [hheld', puts_cameraStore, hheld₁]
  refine ⟨l', hshows'.adapter, ?_, hreads, ?_, ?_⟩
  · intro c hc
    obtain ⟨m, hm, hid, _, hrange⟩ := hranges c hc
    exact ⟨m, hm, hid, hrange⟩
  · rw [hshows'.paramWidgets, visible_bestParameterList]
    apply List.map_congr_left
    intro m hm
    have hvalue : (cameraStore front rest).value l'.reads m.id =
        fromDevice m.id ((l'.reads front m.id).getD 0) := rfl
    rw [showing_of_mem hm, hvalue, hreads front m.id, if_pos List.mem_cons_self]
    cases hlast : lastSent m.id (p.refreshParameterList.run es).2 with
    | none => rfl
    | some v =>
      obtain ⟨c, hc, hid, rfl⟩ := mem_of_lastSent hlast
      obtain ⟨m', hm', hid', hbound, _⟩ := hranges c hc
      obtain rfl := legible_bestParameterList.eq_of_id hm' hm (hid'.symm.trans hid)
      rw [Option.map_some, Option.some_or, Option.getD_some, fromDevice_toDevice, hbound,
        Option.getD_some]
  · rw [hshows''.paramWidgets, hshows'.paramWidgets, visible_bestParameterList,
      visible_bestParameterList, hheld'']

end Ready

end Converted

/-- The conversion instruction of common processors gives this value. -/
instance indefiniteInteger : IntConversion := ⟨fun _ => Int32.minValue⟩

/-- A panel that has just been given its device, and a user who types an exposure, and a gain that is too
large, before the panel is loaded again. -/
def stereoPanel : CameraParamPanel (Link SettableCamera EchoPort) := { adapter := some Link.stereoLink }

def twoNumbers : List PanelEvent := [.input 0 (.number 700), .input 1 (.number 99999), .refresh]

theorem panel_shows_cameras_stereoPanel :
    ∃ l', (stereoPanel.refreshParameterList.run twoNumbers).1.adapter = some l' ∧
      (∀ cam ∈ ["cam-1", "cam-2"],
        l'.reads cam kParamExposure2d = some (toDevice kParamExposure2d 700) ∧
          l'.reads cam kParamGain2d = some (toDevice kParamGain2d 48000)) ∧
      (stereoPanel.refreshParameterList.run twoNumbers).1.paramWidgets.take 2 =
        [⟨kParamExposure2d, .spin 1 500000 700⟩, ⟨kParamGain2d, .spin 0 48000 48000⟩] := by
  have hready : ServesSession "cam-1" ["cam-2"] Link.stereoLink := by
    constructor
    · decide +kernel
    · decide +kernel
    · decide +kernel
    · decide +kernel
  have hexposure : lastSent kParamExposure2d (stereoPanel.refreshParameterList.run twoNumbers).2 =
      some 700 := by decide +kernel
  have hgain : lastSent kParamGain2d (stereoPanel.refreshParameterList.run twoNumbers).2 =
      some 48000 := by decide +kernel
  obtain ⟨l', hadapter, _, hreads, hwidgets, _⟩ :=
    panel_shows_cameras settable_stores hready (p := stereoPanel) rfl twoNumbers
      (by decide +kernel)
  refine ⟨l', hadapter, fun cam hcam => ?_, ?_⟩
  · rw [hreads, hreads, if_pos hcam, if_pos hcam, hexposure, hgain]
    exact ⟨rfl, rfl⟩
  · rw [hwidgets]
    simp only [bestParameterList, List.map_cons, List.take_succ_cons, List.take_zero, hexposure, hgain,
      Option.getD_some]

end Camera3D.Viewer
