import Camera3D.Hub.Moves
import Camera3D.Hub.Parameters
import Camera3D.Sdk.Parameters
import Camera3D.Serial.Handshake

/-! Parameters that a client sets on a hub are read back in the order they are asked for. -/
namespace Camera3D.Hub
open Camera Serial HubServiceStateCode

/-- Of the pairs of a type the last one counts. -/
def lastValue (t : HubParameterType) (ps : List HubParameterPair) : Option Double :=
  ((ps.filter fun p => p.type = t).getLast?).map HubParameterPair.value

/-- Adapters whose setters succeed and store the value that the getter returns. -/
structure StoresControls (α : Type*) [ICameraControls α] : Prop where
  accepts : ∀ (p : HubParameterPair) (a : α), Supported p.type → (adapterSetter p a).2 = true
  stores : ∀ (p : HubParameterPair) (a : α), Supported p.type →
    adapterGetter p.type (adapterSetter p a).1 = some p.value
  keeps : ∀ (p : HubParameterPair) (t : HubParameterType) (a : α), t ≠ p.type →
    adapterGetter t (adapterSetter p a).1 = adapterGetter t a
  reads : ∀ (t : HubParameterType) (a : α), Supported t → adapterGetter t a ≠ none

theorem lastValue_append (t : HubParameterType) (xs ys : List HubParameterPair) :
    lastValue t (xs ++ ys) = (lastValue t ys).or (lastValue t xs) := by
  simp [lastValue, List.getLast?_append, Option.map_or]

theorem lastValue_replicate (t : HubParameterType) (p : HubParameterPair) {n : ℕ} (hn : 0 < n) :
    lastValue t (List.replicate n p) = if p.type = t then some p.value else none := by
  unfold lastValue
  split_ifs with h
  · simp [h, hn.ne', List.getLast?_replicate]
  · simp [h]

theorem addressed_one (mid : String) (ids : List String) (p : HubParameterPair) :
    addressed mid (settings ids [p]) = List.replicate (ids.count mid) p := by
  rw [settings_one]
  unfold addressed
  induction ids with
  | nil => rfl
  | cons id ids ih =>
    by_cases hid : id = mid
    · simp [hid, ih, List.replicate_succ]
    · simp [hid, ih]

/-- Every camera of the session gets all pairs. -/
theorem lastValue_addressed {mid : String} {ids : List String} (hmid : mid ∈ ids)
    (t : HubParameterType) (ps : List HubParameterPair) :
    lastValue t (addressed mid (settings ids ps)) = lastValue t ps := by
  induction ps with
  | nil => rfl
  | cons p ps ih =>
    have hone := lastValue_replicate t p (List.count_pos_iff.mpr hmid)
    have hp : lastValue t [p] = if p.type = t then some p.value else none :=
      lastValue_replicate t p Nat.one_pos
    rw [settings_cons, addressed_append, lastValue_append, ih, addressed_one, hone, ← hp,
      ← lastValue_append, List.singleton_append]

theorem addressed_other {mid : String} {ids : List String} (hmid : mid ∉ ids)
    (ps : List HubParameterPair) : addressed mid (settings ids ps) = [] := by
  induction ps with
  | nil => rfl
  | cons p ps ih =>
    rw [settings_cons, addressed_append, ih, addressed_one, List.count_eq_zero_of_not_mem hmid]
    rfl

section Stores
variable {α : Type*} [ICameraControls α]

theorem StoresControls.given (h : StoresControls α) {t : HubParameterType} (ht : Supported t)
    (ps : List HubParameterPair) (a : α) :
    adapterGetter t (given ps a) = (lastValue t ps).or (adapterGetter t a) := by
  induction ps generalizing a with
  | nil => rfl
  | cons p ps ih =>
    have hstep : adapterGetter t (adapterSetter p a).1 =
        (lastValue t [p]).or (adapterGetter t a) := by
      by_cases hp : p.type = t
      · subst hp
        simp [lastValue, h.stores p a ht]
      · simp [lastValue, hp, h.keeps p t a (Ne.symm hp)]
    have hlast : lastValue t (p :: ps) = (lastValue t ps).or (lastValue t [p]) :=
      lastValue_append t [p] ps
    have hgiven : Hub.given (p :: ps) a = Hub.given ps (adapterSetter p a).1 := rfl
    rw [hgiven, ih, hstep, hlast, Option.or_assoc]

/-- Once all pairs are accepted, a camera of the session holds the last value of each type. -/
theorem StoresControls.readAdapter_given (h : StoresControls α) {ids : List String}
    {ps : List HubParameterPair} {m m' : CameraManager α} (hgiven : Given (settings ids ps) m m')
    {id : String} (hid : id ∈ ids) (hopen : id ∈ m.open_) {t : HubParameterType}
    (ht : Supported t) :
    m'.readAdapter id (adapterGetter t) =
      (lastValue t ps).or (m.readAdapter id (adapterGetter t)) := by
  obtain ⟨slot, hslot⟩ := Option.isSome_iff_exists.mp (AList.lookup_isSome.mpr hopen)
  unfold CameraManager.readAdapter
  rw [hgiven.adapters id, hslot, Option.map_some, Option.bind_some, Option.bind_some, h.given ht,
    lastValue_addressed hid]

theorem parameterGetter_some {t : HubParameterType} {get : CameraManager α → String → Option Double}
    {code : Int32} (h : Service.parameterGetter t = some (get, code)) :
    get = (fun m id => m.readAdapter id (adapterGetter t)) ∧ code ≠ 0 := by
  unfold Service.parameterGetter at h
  unfold adapterGetter
  split_ifs at h ⊢
  · obtain ⟨rfl, rfl⟩ := Prod.mk.inj (Option.some.inj h)
    exact ⟨rfl, by decide⟩
  · obtain ⟨rfl, rfl⟩ := Prod.mk.inj (Option.some.inj h)
    exact ⟨rfl, by decide⟩
  · obtain ⟨rfl, rfl⟩ := Prod.mk.inj (Option.some.inj h)
    exact ⟨rfl, by decide⟩

theorem parameterGetter_none {t : HubParameterType}
    (h : (Service.parameterGetter t : Option ((CameraManager α → String → Option Double) × Int32)) =
      none) : ¬ Supported t := by
  unfold Service.parameterGetter at h
  unfold Supported
  split_ifs at h with he hg hm
  simp [he, hg, hm]

theorem readAdapter_unsupported {t : HubParameterType} (ht : ¬ Supported t) (m : CameraManager α)
    (id : String) : m.readAdapter id (adapterGetter t) = none := by
  unfold Supported at ht
  push Not at ht
  have hnone : adapterGetter t = fun _ : α => none := by
    funext a
    simp [adapterGetter, ht]
  unfold CameraManager.readAdapter
  rw [hnone]
  cases m.open_.lookup id <;> rfl

/-- The reader replies one value for each type, in their order, or an error and no value. -/
theorem getPairs_cases (m : CameraManager α) (front : String) (ts : List HubParameterType)
    (out : List HubParameterPair) :
    (∃ read, Service.getPairs m front ts out = ⟨⟨0, ""⟩, out ++ read⟩ ∧
        List.Forall₂ (fun t p => p.type = t ∧ m.readAdapter front (adapterGetter t) = some p.value)
          ts read) ∨
      ((Service.getPairs m front ts out).status.code ≠ 0 ∧
        (Service.getPairs m front ts out).parameters = [] ∧
        ∃ t ∈ ts, m.readAdapter front (adapterGetter t) = none) := by
  induction ts generalizing out with
  | nil => exact .inl ⟨[], by rw [List.append_nil]; rfl, .nil⟩
  | cons t ts ih =>
    rw [Service.getPairs]
    cases ht : (Service.parameterGetter t :
        Option ((CameraManager α → String → Option Double) × Int32)) with
    | none =>
      have hnone := readAdapter_unsupported (parameterGetter_none ht) m front
      have hfour : (4 : Int32) ≠ 0 := by decide
      exact .inr ⟨hfour, rfl, t, List.mem_cons_self, hnone⟩
    | some getter =>
      obtain ⟨get, code⟩ := getter
      obtain ⟨rfl, hcode⟩ := parameterGetter_some ht
      dsimp only
      cases hread : m.readAdapter front (adapterGetter t) with
      | none => exact .inr ⟨hcode, rfl, t, List.mem_cons_self, hread⟩
      | some v =>
        rcases ih (out ++ [⟨t, v⟩]) with ⟨read, he, hall⟩ | ⟨hfailed, hempty, t', ht', hnone⟩
        · rw [List.append_assoc] at he
          exact .inl ⟨⟨t, v⟩ :: read, he, .cons ⟨rfl, hread⟩ hall⟩
        · exact .inr ⟨hfailed, hempty, t', List.mem_cons_of_mem t ht', hnone⟩

omit [ICameraControls α] in
theorem settable_stores : StoresControls SettableCamera where
  accepts p a ht := by
    unfold adapterSetter
    unfold Supported at ht
    split_ifs with he hg hm
    · rfl
    · rfl
    · rfl
    · simp [he, hg, hm] at ht
  stores p a ht := by
    unfold Supported at ht
    unfold adapterGetter adapterSetter
    split_ifs with he hg hm
    · rfl
    · rfl
    · rfl
    · simp [he, hg, hm] at ht
  keeps p t a hne := by
    unfold adapterGetter adapterSetter
    split_ifs <;> first | rfl | simp_all
  reads t a ht := by
    unfold Supported at ht
    unfold adapterGetter
    split_ifs with he hg hm
    · exact Option.some_ne_none _
    · exact Option.some_ne_none _
    · exact Option.some_ne_none _
    · simp [he, hg, hm] at ht

end Stores

namespace Service
variable {α π : Type*} [ISerialPort π]

/-- `TryRecoverSerialQuick` from its first point on; its longest way has five. -/
def recovery : ℕ → Recovery → Service α π → Service α π
  | 0, _, h => h
  | fuel + 1, pc, h =>
    match h.tryRecoverSerialQuick pc with
    | (h, none) => h
    | (h, some pc) => recovery fuel pc h

def recover (h : Service α π) : Service α π := recovery 5 .readCom h

/-- The recovery at the head of every call only looks after the serial port. -/
theorem recovery_frame (fuel : ℕ) (pc : Recovery) (h : Service α π) :
    ∃ rt serial, recovery fuel pc h = { h with hubRuntime := rt, serial := serial } := by
  induction fuel generalizing pc h with
  | zero => exact ⟨h.hubRuntime, h.serial, rfl⟩
  | succ fuel ih =>
    obtain ⟨rt, serial, he⟩ := h.tryRecoverSerialQuick_frame pc
    rw [recovery]
    rcases hstep : h.tryRecoverSerialQuick pc with ⟨h', _ | pc'⟩
    all_goals rw [hstep] at he
    · exact ⟨rt, serial, he⟩
    · obtain ⟨rt', serial', he'⟩ := ih pc' h'
      subst he
      exact ⟨rt', serial', he'⟩

theorem recover_of_attended {h : Service α π}
    (hattended : h.startupSerialComMain = 0 ∨ h.serial.isOpen = true) : h.recover = h := by
  by_cases hcom : h.startupSerialComMain = 0
  · simp [recover, recovery, tryRecoverSerialQuick, hcom]
  · have hopen := hattended.resolve_left hcom
    simp [recover, recovery, tryRecoverSerialQuick, hcom, hopen]

theorem recover_of_reopened {h : Service α π} (hcom : h.startupSerialComMain ≠ 0)
    (hopen : h.serial.isOpen = false)
    (hopened : (h.serial.openPort h.startupSerialComMain 115200).2 = true) :
    h.recover.serial = (h.serial.openPort h.startupSerialComMain 115200).1 := by
  have hrun : h.recover =
      recovery 2 .recovered { h with serial := (h.serial.openPort h.startupSerialComMain 115200).1 } := by
    simp [recover, recovery, tryRecoverSerialQuick, hcom, hopen, hopened]
  rw [hrun, recovery]
  simp only [tryRecoverSerialQuick]
  by_cases hunified : h.unifiedConfigMode = true
  · by_cases hsession : h.sessionId = ""
    · simp [hunified, hsession, setRuntime]
    · simp [hunified, hsession, setRuntime]
  · simp [hunified]

/-- A hub that is ready after a recovery has no port to look after, or an open one. -/
theorem attended_of_recover [LawfulSerialPort π] {h : Service α π}
    (hgate : h.recover.fillUnifiedGateLocked = none) :
    h.recover.startupSerialComMain = 0 ∨ h.recover.serial.isOpen = true := by
  by_cases hattended : h.startupSerialComMain = 0 ∨ h.serial.isOpen = true
  · rw [recover_of_attended hattended]
    exact hattended
  · push Not at hattended
    obtain ⟨hcom, hopen⟩ := hattended
    rw [ne_eq, Bool.not_eq_true] at hopen
    cases hopened : (h.serial.openPort h.startupSerialComMain 115200).2 with
    | false =>
      have hlost : h.recover.hubRuntime.code = kRuntimeSerialNotConnected := by
        simp [recover, recovery, tryRecoverSerialQuick, hcom, hopen, hopened, setRuntime]
      unfold State.fillUnifiedGateLocked at hgate
      rw [hlost] at hgate
      cases hgate
    | true =>
      have hlaw := h.serial.isOpen_openPort h.startupSerialComMain 115200
      rw [recover_of_reopened hcom hopen hopened]
      exact .inr (hlaw.trans hopened)

omit [ISerialPort π] in
theorem gate_of_admission {h : Service α π} {sessionId : String}
    (hadm : h.admission sessionId = none) : h.fillUnifiedGateLocked = none := by
  unfold admission at hadm
  cases hgate : h.fillUnifiedGateLocked with
  | some status =>
    rw [hgate] at hadm
    cases hadm
  | none => rfl

theorem recover_frame (h : Service α π) :
    ∃ rt serial, h.recover = { h with hubRuntime := rt, serial := serial } :=
  recovery_frame 5 .readCom h

omit [ISerialPort π] in
theorem admission_code {h : Service α π} {sessionId : String} {status : Status}
    (hadm : h.admission sessionId = some status) : status.code ≠ 0 := by
  have hrefusal : status = h.refusal := by
    unfold admission at hadm
    unfold State.refusal
    cases hgate : h.fillUnifiedGateLocked with
    | some refused =>
      rw [hgate] at hadm
      exact (Option.some.inj hadm).symm
    | none =>
      rw [hgate] at hadm
      dsimp only at hadm
      split_ifs at hadm
      exact (Option.some.inj hadm).symm
  rw [hrefusal]
  exact h.toState.refusal_code

variable [ICameraControls α]

omit [ISerialPort π] in
theorem setParameters_ok {h : Service α π} {sessionId : String} {ps : List HubParameterPair}
    (hcode : (h.setParameters sessionId ps).2.code = 0) :
    h.admission sessionId = none ∧ ∃ cameras,
      h.setParameters sessionId ps = ({ h with cameras }, ⟨0, ""⟩) ∧
        Given (settings h.sessionDevicesOrdered ps) h.cameras cameras := by
  unfold setParameters at hcode ⊢
  cases hadm : h.admission sessionId with
  | some status =>
    rw [hadm] at hcode
    exact absurd hcode (admission_code hadm)
  | none =>
    rw [hadm] at hcode
    rcases hp : setPairs h.sessionDevicesOrdered ps h.cameras with ⟨cameras, status⟩
    rw [hp] at hcode
    have hcases := setPairs_cases h.sessionDevicesOrdered ps h.cameras
    rw [hp] at hcases
    rcases hcases with ⟨rfl, hgiven⟩ | ⟨hfailed, _⟩
    · exact ⟨rfl, cameras, rfl, hgiven⟩
    · exact absurd hcode hfailed

omit [ISerialPort π] in
theorem getParameters_cases (h : Service α π) (sessionId : String) (ts : List HubParameterType) :
    (∃ front rest read, h.sessionDevicesOrdered = front :: rest ∧
        h.getParameters sessionId ts = ⟨⟨0, ""⟩, read⟩ ∧
        List.Forall₂ (fun t p => p.type = t ∧
          h.cameras.readAdapter front (adapterGetter t) = some p.value) ts read) ∨
      ((h.getParameters sessionId ts).status.code ≠ 0 ∧
        (h.getParameters sessionId ts).parameters = [] ∧
        (h.admission sessionId = none → ∀ front rest, h.sessionDevicesOrdered = front :: rest →
          ∃ t ∈ ts, h.cameras.readAdapter front (adapterGetter t) = none)) := by
  unfold getParameters
  cases hadm : h.admission sessionId with
  | some status =>
    refine .inr ⟨admission_code hadm, rfl, fun hnone => ?_⟩
    cases hnone
  | none =>
    cases hdevices : h.sessionDevicesOrdered with
    | nil =>
      have hthree : (3 : Int32) ≠ 0 := by decide
      refine .inr ⟨hthree, rfl, fun _ front rest he => ?_⟩
      cases he
    | cons front rest =>
      rcases getPairs_cases h.cameras front ts [] with ⟨read, he, hall⟩ | ⟨hcode, hempty, hnone⟩
      · exact .inl ⟨front, rest, read, rfl, he, hall⟩
      · refine .inr ⟨hcode, hempty, fun _ front' rest' he => ?_⟩
        obtain ⟨rfl, _⟩ := List.cons.inj he
        exact hnone

end Service
end Camera3D.Hub

namespace Camera3D.Sdk
open Camera Serial Hub Grpc DeveloperCameraSdkGrpc

/-- A client and the hub behind its channel, which delivers what is sent. -/
structure Link (α π : Type*) where
  sdk : DeveloperCameraSdkGrpc
  hub : Service α π

def reportedParameters : Hub.Answer → GetParametersReply
  | .getParameters rep => rep
  | answer => { status := answer.status }

namespace Link
variable {α π : Type*} [ICameraControls α] [ISerialPort π]

def setParameters (l : Link α π) (params : List ParameterValue) : Link α π × Bool :=
  match l.sdk.setParametersRequest params with
  | .error sdk => ({ l with sdk }, false)
  | .ok request =>
    let (hub, answer) := l.hub.recover.answer request
    let out := l.sdk.setParameters params (.ok answer.status)
    (⟨out.sdk, hub⟩, out.result)

/-- What a client that sends nothing is given as a reply is not looked at. -/
def getParameters (l : Link α π) (types : List ParameterType) (outValues : List ParameterValue) :
    Link α π × Bool × List ParameterValue :=
  let (hub, reply) := match l.sdk.getParametersRequest types with
    | .error _ => (l.hub, .error ⟨0, ""⟩)
    | .ok request =>
      let (hub, answer) := l.hub.recover.answer request
      (hub, .ok (reportedParameters answer))
  let out := l.sdk.getParameters types (some outValues) reply
  (⟨out.sdk, hub⟩, out.result.1, out.result.2.getD [])

/-- The value that a camera of the hub reads for a type. -/
def reads (l : Link α π) (id : String) (t : ParameterType) : Option Double :=
  l.hub.cameras.readAdapter id (adapterGetter t)

/-- A `SetParameters` that succeeds has given all pairs to all cameras of the session, on a hub that
is ready. -/
theorem setParameters_true {l : Link α π} {params : List ParameterValue}
    (hset : (l.setParameters params).2 = true) :
    ∃ cameras, (l.setParameters params).1 = ⟨l.sdk.clearError, { l.hub.recover with cameras }⟩ ∧
      l.sdk.isConnected = true ∧ l.hub.recover.admission l.sdk.session = none ∧
      Given (settings l.hub.sessionDevicesOrdered (params.map ParameterValue.pair))
        l.hub.cameras cameras := by
  unfold setParameters at hset ⊢
  by_cases hvalid : l.sdk.isConnected = true ∧ ∀ pv ∈ params, pv.type ≠ ParameterType.kInvalid
  · have hrequest := setParametersRequest_eq hvalid.1 hvalid.2
    rw [hrequest] at hset ⊢
    simp only [DeveloperCameraSdkGrpc.setParameters, hrequest, Service.answer, Answer.status] at hset ⊢
    have hcode : (l.hub.recover.setParameters l.sdk.session
        (params.map ParameterValue.pair)).2.code = 0 := conclude_isSome.mp hset
    obtain ⟨hadm, cameras, he, hgiven⟩ := Service.setParameters_ok hcode
    obtain ⟨rt, serial, hframe⟩ := l.hub.recover_frame
    have hdevices : l.hub.recover.sessionDevicesOrdered = l.hub.sessionDevicesOrdered := by rw [hframe]
    have hcameras : l.hub.recover.cameras = l.hub.cameras := by rw [hframe]
    rw [hdevices, hcameras] at hgiven
    refine ⟨cameras, ?_, hvalid.1, hadm, hgiven⟩
    rw [he]
    rfl
  · rw [setParametersRequest_error hvalid] at hset
    cases hset

/-- A `GetParameters` hands out one value for each type, or none at all. -/
theorem getParameters_cases (l : Link α π) (types : List ParameterType)
    (outValues : List ParameterValue) :
    (∃ front rest values, l.hub.sessionDevicesOrdered = front :: rest ∧
        (l.getParameters types outValues).2 = (true, values) ∧
        List.Forall₂ (fun t pv => pv.type = t ∧ l.reads front t = some pv.value) types values) ∨
      ((l.getParameters types outValues).2 =
          (false, if l.sdk.isConnected then [] else outValues) ∧
        (l.sdk.isConnected = true → ParameterType.kInvalid ∉ types →
          l.hub.recover.admission l.sdk.session = none →
          ∀ front rest, l.hub.sessionDevicesOrdered = front :: rest →
            ∃ t ∈ types, l.reads front t = none)) := by
  obtain ⟨rt, serial, hframe⟩ := l.hub.recover_frame
  have hdevices : l.hub.recover.sessionDevicesOrdered = l.hub.sessionDevicesOrdered := by rw [hframe]
  have hcameras : l.hub.recover.cameras = l.hub.cameras := by rw [hframe]
  unfold getParameters
  by_cases hconnected : l.sdk.isConnected = true
  · by_cases hinvalid : ParameterType.kInvalid ∉ types
    · have hrequest := getParametersRequest_eq hconnected hinvalid
      have hcases := l.hub.recover.getParameters_cases l.sdk.session types
      rw [hdevices, hcameras] at hcases
      rw [hrequest]
      simp only [DeveloperCameraSdkGrpc.getParameters, hrequest, Service.answer, reportedParameters,
        hconnected, Bool.not_true, Option.isNone_some, Bool.or_self, Bool.false_eq_true, if_false]
      rcases hcases with ⟨front, rest, read, hfront, he, hall⟩ | ⟨hcode, _, hnone⟩
      · refine .inl ⟨front, rest, read.map parameterValue, hfront, ?_, ?_⟩
        · rw [he]
          rfl
        · exact List.forall₂_map_right_iff.mpr hall
      · refine .inr ⟨?_, fun _ _ hadm => hnone hadm⟩
        simp only [conclude, if_pos hcode]
        rfl
    · have herror : ¬ (l.sdk.isConnected = true ∧ ParameterType.kInvalid ∉ types) :=
        fun h => hinvalid h.2
      have hrequest := getParametersRequest_error herror
      refine .inr ⟨?_, fun _ hvalid => absurd hvalid hinvalid⟩
      simp [DeveloperCameraSdkGrpc.getParameters, hrequest, hconnected]
  · refine .inr ⟨?_, fun h => absurd h hconnected⟩
    simp [DeveloperCameraSdkGrpc.getParameters, hconnected]

/-- Each type that is asked for has been read. -/
theorem exists_of_forall₂ {R : ParameterType → ParameterValue → Prop} {types : List ParameterType}
    {values : List ParameterValue} (h : List.Forall₂ R types values) {t : ParameterType}
    (ht : t ∈ types) : ∃ pv, R t pv := by
  induction h with
  | nil => cases ht
  | cons hhead _ ih =>
    rcases List.mem_cons.mp ht with rfl | htail
    · exact ⟨_, hhead⟩
    · exact ih htail

theorem kInvalid_unsupported : ¬ Supported ParameterType.kInvalid := by
  unfold Supported
  decide

omit [ISerialPort π] in
theorem reads_ne_none (hstores : StoresControls α) {l : Link α π} {id : String}
    (hopen : id ∈ l.hub.cameras.open_) {t : ParameterType} (ht : Supported t) :
    l.reads id t ≠ none := by
  obtain ⟨slot, hslot⟩ := Option.isSome_iff_exists.mp (AList.lookup_isSome.mpr hopen)
  unfold reads CameraManager.readAdapter
  rw [hslot]
  exact hstores.reads t slot.adapter ht

omit [ISerialPort π] in
/-- The cameras of the session hold the last values; other cameras, and other parameters, are kept. -/
theorem reads_of_given (hstores : StoresControls α) {l l' : Link α π}
    (hopen : ∀ id ∈ l.hub.sessionDevicesOrdered, id ∈ l.hub.cameras.open_)
    {ps : List HubParameterPair}
    (hgiven : Given (settings l.hub.sessionDevicesOrdered ps) l.hub.cameras l'.hub.cameras)
    (id : String) {t : ParameterType} (ht : Supported t) :
    l'.reads id t =
      if id ∈ l.hub.sessionDevicesOrdered then (lastValue t ps).or (l.reads id t)
      else l.reads id t := by
  split_ifs with hid
  · exact hstores.readAdapter_given hgiven hid (hopen id hid) ht
  · unfold reads CameraManager.readAdapter
    rw [hgiven.adapters id, addressed_other hid]
    cases l.hub.cameras.open_.lookup id <;> rfl

/-- On a hub that admits the call, the types that its first camera can read are all handed out. -/
theorem getParameters_readable {l : Link α π} (hconnected : l.sdk.isConnected = true)
    (hadm : l.hub.recover.admission l.sdk.session = none) (hne : l.hub.sessionDevicesOrdered ≠ [])
    {types : List ParameterType} (hvalid : ParameterType.kInvalid ∉ types)
    (hreads : ∀ id ∈ l.hub.sessionDevicesOrdered, ∀ t ∈ types, l.reads id t ≠ none)
    (outValues : List ParameterValue) :
    ∃ front rest values, l.hub.sessionDevicesOrdered = front :: rest ∧
      (l.getParameters types outValues).2 = (true, values) ∧
      List.Forall₂ (fun t pv => pv.type = t ∧ l.reads front t = some pv.value) types values := by
  rcases l.getParameters_cases types outValues with hread | ⟨_, hfails⟩
  · exact hread
  · exfalso
    obtain ⟨front, rest, hfront⟩ := List.exists_cons_of_ne_nil hne
    obtain ⟨t, ht, hnone⟩ := hfails hconnected hvalid hadm front rest hfront
    exact hreads front (hfront ▸ List.mem_cons_self) t ht hnone

/-- One type that cannot be read is enough for nothing to be handed out. -/
theorem getParameters_unreadable (l : Link α π) {types : List ParameterType} {t : ParameterType}
    (ht : t ∈ types)
    (hbad : ¬ Supported t ∨
      ∀ front rest, l.hub.sessionDevicesOrdered = front :: rest → l.reads front t = none)
    (outValues : List ParameterValue) :
    (l.getParameters types outValues).2 = (false, if l.sdk.isConnected then [] else outValues) := by
  rcases l.getParameters_cases types outValues with
    ⟨front, rest, values, hfront, he, hall⟩ | ⟨he, _⟩
  · exfalso
    obtain ⟨pv, _, hread⟩ := exists_of_forall₂ hall ht
    rcases hbad with hunsupported | hfailed
    · rw [reads, readAdapter_unsupported hunsupported] at hread
      cases hread
    · rw [hfailed front rest hfront] at hread
      cases hread
  · exact he

/-- What is set is read back: the last value of each type by every camera of the session, and one
value for each type that is asked for. A reading that fails hands out nothing. -/
theorem parameters_read_back [LawfulSerialPort π] (l : Link α π) :
    (StoresControls α → l.hub.sessionDevicesOrdered ≠ [] →
      (∀ id ∈ l.hub.sessionDevicesOrdered, id ∈ l.hub.cameras.open_) →
      ∀ params, (l.setParameters params).2 = true →
        (∀ id t, Supported t → (l.setParameters params).1.reads id t =
          if id ∈ l.hub.sessionDevicesOrdered then
            (lastValue t (params.map ParameterValue.pair)).or (l.reads id t)
          else l.reads id t) ∧
        ∀ types outValues, (∀ t ∈ types, Supported t) →
          ∃ front rest values, l.hub.sessionDevicesOrdered = front :: rest ∧
            ((l.setParameters params).1.getParameters types outValues).2 = (true, values) ∧
            List.Forall₂ (fun t pv => pv.type = t ∧
              (l.setParameters params).1.reads front t = some pv.value) types values) ∧
    ∀ types outValues,
      (∃ t ∈ types, ¬ Supported t ∨
        ∀ front rest, l.hub.sessionDevicesOrdered = front :: rest → l.reads front t = none) →
      (l.getParameters types outValues).2 =
        (false, if l.sdk.isConnected then [] else outValues) := by
  constructor
  · intro hstores hne hopen params hset
    obtain ⟨cameras, he, hconnected, hadm, hgiven⟩ := setParameters_true hset
    obtain ⟨rt, serial, hframe⟩ := l.hub.recover_frame
    rw [he]
    have hreads : ∀ id t, Supported t →
        reads ⟨l.sdk.clearError, { l.hub.recover with cameras }⟩ id t =
          if id ∈ l.hub.sessionDevicesOrdered then
            (lastValue t (params.map ParameterValue.pair)).or (l.reads id t)
          else l.reads id t :=
      fun id t ht => reads_of_given hstores hopen hgiven id ht
    refine ⟨hreads, fun types outValues htypes => ?_⟩
    have hdevices : l.hub.recover.sessionDevicesOrdered = l.hub.sessionDevicesOrdered := by rw [hframe]
    have hattended := Service.attended_of_recover (Service.gate_of_admission hadm)
    have hagain : Service.recover { l.hub.recover with cameras } = { l.hub.recover with cameras } :=
      Service.recover_of_attended hattended
    have hvalid : ParameterType.kInvalid ∉ types := fun h => kInvalid_unsupported (htypes _ h)
    have hreadable : ∀ id ∈ l.hub.recover.sessionDevicesOrdered, ∀ t ∈ types,
        reads ⟨l.sdk.clearError, { l.hub.recover with cameras }⟩ id t ≠ none := by
      intro id hid t ht hnone
      rw [hdevices] at hid
      rw [hreads id t (htypes t ht), if_pos hid] at hnone
      exact reads_ne_none hstores (hopen id hid) (htypes t ht) (Option.or_eq_none_iff.mp hnone).2
    rw [← hdevices] at hne
    obtain ⟨front, rest, values, hfront, hread, hall⟩ :=
      getParameters_readable (l := ⟨l.sdk.clearError, { l.hub.recover with cameras }⟩) hconnected
        (by rw [hagain]; exact hadm) hne hvalid hreadable outValues
    exact ⟨front, rest, values, hdevices.symm.trans hfront, hread, hall⟩
  · rintro types outValues ⟨t, ht, hbad⟩
    exact l.getParameters_unreadable ht hbad outValues

/-- A client connected to two cameras. -/
def stereoLink : Link SettableCamera EchoPort :=
  ⟨{ channel := true, stub := true, session := "cam-1" }, stereoHub {}⟩

/-- An exposure is given twice; the later one is read back, behind a gain that was never set. -/
theorem parameters_read_back_stereoLink :
    ∃ front rest values, ["cam-1", "cam-2"] = front :: rest ∧
      ((stereoLink.setParameters [⟨.kExposure2d, 5⟩, ⟨.kExposure2d, 7⟩]).1.getParameters
        [.kGain2d, .kExposure2d] []).2 = (true, values) ∧
      List.Forall₂ (fun t pv => pv.type = t ∧
        (stereoLink.setParameters [⟨.kExposure2d, 5⟩, ⟨.kExposure2d, 7⟩]).1.reads front t =
          some pv.value) [.kGain2d, .kExposure2d] values := by
  have hopen : ∀ id ∈ stereoLink.hub.sessionDevicesOrdered, id ∈ stereoLink.hub.cameras.open_ := by
    decide
  have hset : (stereoLink.setParameters [⟨.kExposure2d, 5⟩, ⟨.kExposure2d, 7⟩]).2 = true := by
    decide +kernel
  have htypes : ∀ t ∈ [ParameterType.kGain2d, .kExposure2d], Supported t := by
    simp only [List.mem_cons, List.not_mem_nil, or_false, forall_eq_or_imp, forall_eq]
    exact ⟨.inr (.inl rfl), .inl rfl⟩
  have hread := (parameters_read_back stereoLink).1 settable_stores (List.cons_ne_nil _ _) hopen _ hset
  exact hread.2 _ [] htypes

end Link
end Camera3D.Sdk
