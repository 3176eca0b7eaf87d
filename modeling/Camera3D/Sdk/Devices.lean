import Camera3D.Discovery.Broadcast
import Camera3D.Sdk.Discovery

/-! From the hubs of a network to the devices that an application finds, and to the address that it
connects to when one of them is chosen. -/
namespace Camera3D.Sdk
open Text Discovery Config Transition Store

structure BestDeviceInfo where
  displayName : Bytes := []
  hubHost : Bytes := []
  hubPort : UInt16 := 50051
  deviceAddress : Bytes := []
  serialNumber : Bytes := []
  firmwareVersion : Bytes := []
  macAddress : Bytes := []
  model : Bytes := []
  sessionHint : Bytes := []
  projectorComIndex : UInt32 := 0
  deriving DecidableEq

namespace BestDeviceInfo

def defaultSimulator : BestDeviceInfo where
  displayName := ascii "NullVirtualDevice"
  hubHost := ascii "127.0.0.1"
  hubPort := 50051
  deviceAddress := ascii "null:virtual0"
  model := ascii "null"

def buildHubGrpcTarget (d : BestDeviceInfo) : Bytes :=
  if d.hubHost = [] then []
  else if 58 ∈ d.hubHost then d.hubHost
  else d.hubHost ++ ascii ":" ++ decimal (if d.hubPort ≠ 0 then d.hubPort.toNat else 50051)

end BestDeviceInfo

namespace BestCamera3D

def bestDevice (d : DiscoveredHubDevice) : BestDeviceInfo where
  displayName := d.model ++ ascii " " ++ d.serialNumber
  hubHost := d.hubHost
  hubPort := d.hubPort
  serialNumber := d.serialNumber
  macAddress := d.macAddress
  model := d.model
  deviceAddress := BestDeviceInfo.defaultSimulator.deviceAddress
  projectorComIndex := 0

/-- Nothing if the status is not `kSuccess`. -/
def discoverDevices (m : DataModel) (platform : Platform) (bound : Bool) (polls : List Poll) :
    Option (List BestDeviceInfo) :=
  match discoverHubDevicesUdp m platform bound polls with
  | (true, raw) => some (raw.map bestDevice)
  | (false, _) => none

/-- What the SDK's `Connect` is called with. -/
structure ConnectArguments where
  target : Bytes
  deviceAddress : Bytes
  sessionHint : Bytes
  projectorComIndex : UInt32
  deriving DecidableEq

inductive BestStatus where
  | success
  | fail
  | invalidParameter
  deriving DecidableEq

def connectArguments (device : BestDeviceInfo) : ConnectArguments where
  target := device.buildHubGrpcTarget
  deviceAddress := device.deviceAddress
  sessionHint := device.sessionHint
  projectorComIndex := device.projectorComIndex

def connect (sdkConnect : ConnectArguments → Bool) (device : BestDeviceInfo) : BestStatus :=
  if device.buildHubGrpcTarget = [] ∨ device.deviceAddress = [] then .invalidParameter
  else if sdkConnect (connectArguments device) then .success
  else .fail

end BestCamera3D

/-- A hub that is up: gRPC has given it a port. -/
structure RunningHub where
  nic : PrimaryNic
  config : HubFileConfig
  selectedPort : Int32
  bound : 0 < selectedPort.toInt ∧ selectedPort.toInt < 65536

namespace RunningHub

def params (hub : RunningHub) : HubBroadcastRuntimeParams :=
  buildHubBroadcastParams hub.nic (some hub.config) hub.selectedPort

/-- The broadcast thread of `RunHubApp` sends the datagram, whenever the stop flag is set. -/
def Sends (hub : RunningHub) (data : Bytes) : Prop :=
  hub.config.discovery.enable = true ∧
    ∃ socketMade stops, data ∈ runHubDeviceBroadcastLoop socketMade hub.params stops

theorem params_model_ne (hub : RunningHub) : hub.params.beacon.model ≠ [] :=
  broadcastModel_ne_nil (some hub.config)

theorem params_serial_ne (hub : RunningHub) : hub.params.beacon.serial ≠ [] :=
  broadcastSerial_ne_nil (some hub.config)

theorem hubPort_toNat (hub : RunningHub) :
    hub.params.beacon.hubPort.toNat = hub.selectedPort.toInt.toNat := by
  have hbound := hub.bound
  show (UInt16.ofNat (hub.selectedPort.toInt % 2 ^ 16).toNat).toNat = _
  rw [UInt16.toNat_ofNat_of_lt']
  · omega
  · show (hub.selectedPort.toInt % 2 ^ 16).toNat < 2 ^ 16
    omega

theorem hubPort_ne (hub : RunningHub) : hub.params.beacon.hubPort ≠ 0 := by
  intro hzero
  have hbound := hub.bound
  have hport := hub.hubPort_toNat
  rw [hzero, UInt16.toNat_zero] at hport
  omega

variable {hub : RunningHub} {data : Bytes}

theorem Sends.eq (h : hub.Sends data) : data = buildDeviceDiscoveryJson hub.params.beacon := by
  obtain ⟨_, _, _, hmem⟩ := h
  exact (eq_beacon_of_mem hmem).2

theorem Sends.hubHost_ne (h : hub.Sends data) : hub.params.beacon.hubHost ≠ [] := by
  obtain ⟨_, _, _, hmem⟩ := h
  have hstarts := (eq_beacon_of_mem hmem).1
  unfold HubBroadcastRuntimeParams.starts at hstarts
  simp only [Bool.and_eq_true, decide_eq_true_eq] at hstarts
  exact hstarts.2

theorem sends_beacon (henable : hub.config.discovery.enable = true) (hhost : hub.params.hubHost ≠ []) :
    hub.Sends (buildDeviceDiscoveryJson hub.params.beacon) := by
  have hstarts : hub.params.starts = true := by
    have hport : 0 < hub.params.hubGrpcPort := Int32.lt_iff_toInt_lt.mpr hub.bound.1
    have henabled : hub.params.enable = true := henable
    unfold HubBroadcastRuntimeParams.starts
    simp [henabled, hport, hhost]
  refine ⟨henable, true, [false], ?_⟩
  unfold runHubDeviceBroadcastLoop
  rw [hstarts]
  exact List.mem_singleton.mpr rfl

/-- The receiver reads the beacon as the hub wrote it. -/
theorem Sends.parse (m : DataModel) (h : hub.Sends data) :
    tryParseDeviceDiscoveryJson m data = some hub.params.beacon := by
  have hdoc : data ++ [] = buildDeviceDiscoveryJson hub.params.beacon :=
    (List.append_nil data).trans h.eq
  have hparse := tryParseDeviceDiscoveryJson_of_cut (m := m) hdoc hub.params_model_ne
    hub.params_serial_ne h.hubHost_ne hub.hubPort_ne (Nat.zero_le _)
  rw [hparse, List.length_nil, Nat.zero_sub, Nat.pow_zero, Nat.div_one, UInt16.ofNat_toNat]

end RunningHub

/-- Where what the socket yields may come from: there are hubs and other programs on the network, and
datagrams are lost, repeated and reordered. -/
inductive Origin (hubs : List RunningHub) : Poll → Prop where
  | quiet : Origin hubs .quiet
  | foreign {data : Bytes} (hmagic : find kDeviceDiscoveryMagic data = none)
      (hfits : data.length ≤ bufBytes) : Origin hubs (.datagram data)
  | hub {data : Bytes} {hub : RunningHub} (hmem : hub ∈ hubs) (hsends : hub.Sends data) :
      Origin hubs (.datagram data)

section Listening
variable {m : DataModel} {platform : Platform} {hubs : List RunningHub} {polls : List Poll}

/-- A datagram that fits is handed on whole, up to the first failure. -/
def Whole : Poll → Prop
  | .quiet => True
  | .failed => False
  | .datagram data => data.length ≤ bufBytes

theorem mem_arrived (hwhole : ∀ poll ∈ polls, Whole poll) {data : Bytes} :
    data ∈ arrived platform polls ↔ .datagram data ∈ polls ∧ data ≠ [] := by
  induction polls with
  | nil => simp [arrived]
  | cons poll polls ih =>
    obtain ⟨hpoll, hrest⟩ := List.forall_mem_cons.mp hwhole
    have ih := ih hrest
    rw [arrived]
    cases poll with
    | quiet => simpa [recvfrom] using ih
    | failed => exact absurd hpoll id
    | datagram found =>
      by_cases hempty : found = []
      · subst hempty
        have hagain : recvfrom platform (.datagram []) = .again := by simp [recvfrom]
        rw [hagain]
        dsimp only
        rw [ih, List.mem_cons, Poll.datagram.injEq]
        constructor
        · rintro ⟨hmem, hne⟩
          exact ⟨.inr hmem, hne⟩
        · rintro ⟨heq | hmem, hne⟩
          · exact absurd heq hne
          · exact ⟨hmem, hne⟩
      · have hbytes : recvfrom platform (.datagram found) = .bytes found := by
          unfold recvfrom
          dsimp only
          rw [if_neg hempty]
          exact if_pos hpoll
        rw [hbytes]
        dsimp only
        rw [List.mem_cons, ih, List.mem_cons, Poll.datagram.injEq]
        constructor
        · rintro (rfl | ⟨hmem, hne⟩)
          · exact ⟨.inl rfl, hempty⟩
          · exact ⟨.inr hmem, hne⟩
        · rintro ⟨rfl | hmem, hne⟩
          · exact .inl rfl
          · exact .inr ⟨hmem, hne⟩

theorem whole_of_origin (horigin : ∀ poll ∈ polls, Origin hubs poll)
    (hfits : ∀ hub ∈ hubs, (buildDeviceDiscoveryJson hub.params.beacon).length ≤ bufBytes) :
    ∀ poll ∈ polls, Whole poll := by
  intro poll hpoll
  cases horigin poll hpoll with
  | quiet => trivial
  | foreign _ hlength => exact hlength
  | hub hmem hsends =>
    rw [hsends.eq]
    exact hfits _ hmem

/-- What is understood are the beacons of the hubs that were heard. -/
theorem mem_parsed (horigin : ∀ poll ∈ polls, Origin hubs poll)
    (hfits : ∀ hub ∈ hubs, (buildDeviceDiscoveryJson hub.params.beacon).length ≤ bufBytes)
    {b : DeviceDiscoveryBeaconData} :
    b ∈ parsed m platform polls ↔
      ∃ hub ∈ hubs, ∃ data, hub.Sends data ∧ .datagram data ∈ polls ∧ b = hub.params.beacon := by
  unfold parsed
  rw [List.mem_filterMap]
  constructor
  · rintro ⟨data, hdata, hparse⟩
    have hpoll := ((mem_arrived (whole_of_origin horigin hfits)).mp hdata).1
    cases horigin _ hpoll with
    | foreign hmagic =>
      unfold tryParseDeviceDiscoveryJson at hparse
      rw [if_pos hmagic] at hparse
      cases hparse
    | hub hmem hsends =>
      rw [hsends.parse m] at hparse
      exact ⟨_, hmem, data, hsends, hpoll, (Option.some.inj hparse).symm⟩
  · rintro ⟨hub, _, data, hsends, hpoll, rfl⟩
    refine ⟨data, (mem_arrived (whole_of_origin horigin hfits)).mpr ⟨hpoll, ?_⟩, hsends.parse m⟩
    rintro rfl
    have hlength := congrArg List.length hsends.eq
    rw [length_buildDeviceDiscoveryJson, List.length_nil] at hlength
    omega

variable (m platform)

/-- One device for each key that was heard, the first that had it. -/
theorem discoverDevices_eq (polls : List Poll) :
    BestCamera3D.discoverDevices m platform true polls =
      some ((firsts seenKey [] (parsed m platform polls)).map fun b =>
        BestCamera3D.bestDevice (discovered b)) := by
  unfold BestCamera3D.discoverDevices discoverHubDevicesUdp
  rw [if_pos rfl]
  dsimp only
  rw [receiveLoop_eq, List.nil_append, List.map_map]
  rfl

theorem seenKey_eq (b : DeviceDiscoveryBeaconData) : seenKey b = (HubTriple.ofBeacon b).code := by
  unfold seenKey
  rw [List.append_assoc, List.append_assoc, List.append_assoc]
  rfl

theorem ofBeacon_eq_of_seenKey_eq {b b' : DeviceDiscoveryBeaconData} (hb : 58 ∉ b.hubHost)
    (hb' : 58 ∉ b'.hubHost) (h : seenKey b = seenKey b') :
    HubTriple.ofBeacon b = HubTriple.ofBeacon b' := by
  have hcolon : ∀ {t t' : HubTriple}, t.Imitates t' → 58 ∈ t.hubHost := by
    rintro t t' ⟨more, hhost, _⟩
    rw [hhost]
    simp
  rw [seenKey_eq, seenKey_eq] at h
  rcases HubTriple.of_code_eq h with heq | himitates | himitates
  · exact heq
  · exact absurd (hcolon himitates) hb
  · exact absurd (hcolon himitates) hb'

end Listening

end Camera3D.Sdk
