import Camera3D.Sdk.Devices

/-! The devices that the viewer lists after a search, and the hub that it connects to when one of them
is chosen. -/
namespace Camera3D.Viewer
open Text Discovery Sdk Store

def kDeviceModelBestCameraHub : Bytes := ascii "Best-CameraHub"

structure DeviceInfo where
  name : Bytes := []
  ip : Bytes := []
  serialNumber : Bytes := []
  firmwareVersion : Bytes := []
  modelName : Bytes := []
  port : UInt16 := 0
  modelType : Int32 := 0
  hubDeviceAddress : Bytes := []
  deriving DecidableEq

def portOr (port : UInt16) : UInt16 := if port ≠ 0 then port else 50051

def listed (b : BestDeviceInfo) : DeviceInfo where
  name := b.displayName
  ip := b.hubHost
  port := portOr b.hubPort
  serialNumber := b.serialNumber
  firmwareVersion := b.firmwareVersion
  modelName := kDeviceModelBestCameraHub
  modelType := 0
  hubDeviceAddress := b.deviceAddress

def enumerateDevices (m : DataModel) (platform : Platform) (bound : Bool) (polls : List Poll) :
    List DeviceInfo :=
  match BestCamera3D.discoverDevices m platform bound polls with
  | some found => found.map listed
  | none => []

/-- What `Connect` of the adapter makes of the device that was chosen. -/
def chosen : Option DeviceInfo → BestDeviceInfo
  | some device =>
    { hubHost := device.ip
      hubPort := portOr device.port
      deviceAddress :=
        if device.hubDeviceAddress = [] then BestDeviceInfo.defaultSimulator.deviceAddress
        else device.hubDeviceAddress
      serialNumber := device.serialNumber
      model := device.modelName
      displayName := device.name }
  | none => BestDeviceInfo.defaultSimulator

/-- The device that a hub is listed as. -/
def deviceOf (hub : RunningHub) : DeviceInfo :=
  listed (BestCamera3D.bestDevice (discovered hub.params.beacon))

/-- The address that the hub is reached at, if its host has no colon. -/
def addressOf (hub : RunningHub) : Bytes :=
  hub.params.hubHost ++ ascii ":" ++ decimal hub.selectedPort.toInt.toNat

theorem portOr_eq {port : UInt16} (h : port ≠ 0) : portOr port = port := if_pos h

theorem connectArguments_deviceOf {hub : RunningHub} (hhost : hub.params.hubHost ≠ [])
    (hcolon : 58 ∉ hub.params.hubHost) :
    BestCamera3D.connectArguments (chosen (some (deviceOf hub))) =
      { target := addressOf hub
        deviceAddress := ascii "null:virtual0"
        sessionHint := []
        projectorComIndex := 0 } := by
  have hport : portOr (portOr hub.params.beacon.hubPort) = hub.params.beacon.hubPort := by
    rw [portOr_eq hub.hubPort_ne, portOr_eq hub.hubPort_ne]
  have htarget : (chosen (some (deviceOf hub))).buildHubGrpcTarget = addressOf hub := by
    show (if hub.params.hubHost = [] then [] else if 58 ∈ hub.params.hubHost then hub.params.hubHost
      else hub.params.hubHost ++ ascii ":" ++
        decimal (if portOr (portOr hub.params.beacon.hubPort) ≠ 0
          then (portOr (portOr hub.params.beacon.hubPort)).toNat else 50051)) = addressOf hub
    rw [if_neg hhost, if_neg hcolon, hport, if_pos hub.hubPort_ne, hub.hubPort_toNat]
    rfl
  unfold BestCamera3D.connectArguments
  rw [htarget]
  rfl

def DeviceInfo.triple (d : DeviceInfo) : HubTriple := ⟨d.ip, d.port, d.serialNumber⟩

theorem triple_deviceOf (hub : RunningHub) :
    (deviceOf hub).triple = HubTriple.ofBeacon hub.params.beacon := by
  show HubTriple.mk _ (portOr hub.params.beacon.hubPort) _ = _
  rw [portOr_eq hub.hubPort_ne]
  rfl

section Search
variable {m : DataModel} {platform : Platform} {hubs : List RunningHub} {polls : List Poll}

theorem enumerateDevices_eq (m : DataModel) (platform : Platform) (polls : List Poll) :
    enumerateDevices m platform true polls =
      (firsts seenKey [] (parsed m platform polls)).map fun b =>
        listed (BestCamera3D.bestDevice (discovered b)) := by
  unfold enumerateDevices
  rw [discoverDevices_eq]
  exact List.map_map

/-- A search lists the hubs that were heard, each of them once however often it was heard, and nothing
else. A device that is chosen is reached at the address of its hub. -/
theorem search_finds_hubs (m : DataModel) (platform : Platform)
    (horigin : ∀ poll ∈ polls, Origin hubs poll)
    (hfits : ∀ hub ∈ hubs, (buildDeviceDiscoveryJson hub.params.beacon).length ≤ bufBytes)
    (hcolon : ∀ hub ∈ hubs, 58 ∉ hub.params.hubHost) :
    ((enumerateDevices m platform true polls).map DeviceInfo.triple).Nodup ∧
      (∀ d ∈ enumerateDevices m platform true polls, ∃ hub ∈ hubs, d = deviceOf hub ∧
        BestCamera3D.connectArguments (chosen (some d)) =
          { target := addressOf hub
            deviceAddress := ascii "null:virtual0"
            sessionHint := []
            projectorComIndex := 0 }) ∧
      ∀ hub ∈ hubs, ∀ data, hub.Sends data → .datagram data ∈ polls →
        ∃ d ∈ enumerateDevices m platform true polls, d.triple = (deviceOf hub).triple := by
  have hparsed : ∀ b ∈ parsed m platform polls, ∃ hub ∈ hubs, ∃ data, hub.Sends data ∧
      b = hub.params.beacon := by
    intro b hb
    obtain ⟨hub, hmem, data, hsends, _, heq⟩ := (mem_parsed horigin hfits).mp hb
    exact ⟨hub, hmem, data, hsends, heq⟩
  have htriple : ∀ b ∈ parsed m platform polls,
      (listed (BestCamera3D.bestDevice (discovered b))).triple = HubTriple.ofBeacon b := by
    intro b hb
    obtain ⟨hub, _, _, _, rfl⟩ := hparsed b hb
    exact triple_deviceOf hub
  rw [enumerateDevices_eq]
  refine ⟨?_, ?_, ?_⟩
  · have hkeys := nodup_map_firsts seenKey [] (parsed m platform polls)
    rw [funext seenKey_eq, ← Function.comp_def, ← List.map_map] at hkeys
    have htriples := hkeys.of_map HubTriple.code
    rw [List.map_map]
    rw [List.map_congr_left (g := HubTriple.ofBeacon)]
    · rw [funext seenKey_eq]
      exact htriples
    · intro b hb
      exact htriple b (mem_of_mem_firsts hb)
  · intro d hd
    obtain ⟨b, hb, rfl⟩ := List.mem_map.mp hd
    obtain ⟨hub, hmem, data, hsends, rfl⟩ := hparsed b (mem_of_mem_firsts hb)
    exact ⟨hub, hmem, rfl, connectArguments_deviceOf hsends.hubHost_ne (hcolon hub hmem)⟩
  · intro hub hmem data hsends hpoll
    have hheard : hub.params.beacon ∈ parsed m platform polls :=
      (mem_parsed horigin hfits).mpr ⟨hub, hmem, data, hsends, hpoll, rfl⟩
    obtain ⟨b, hb, hsame⟩ := exists_mem_firsts seenKey hheard
    obtain ⟨hub', hmem', _, _, rfl⟩ := hparsed b (mem_of_mem_firsts hb)
    refine ⟨deviceOf hub', List.mem_map_of_mem hb, ?_⟩
    rw [triple_deviceOf, triple_deviceOf]
    exact ofBeacon_eq_of_seenKey_eq (hcolon hub' hmem') (hcolon hub hmem) hsame

end Search

/-- A hub that is reached under a name of its own, and one at the address of its network adapter. -/
def namedHub : RunningHub where
  nic := probePrimaryNicPosix none
  config := { discovery := { advertiseHost := ascii "hub" } }
  selectedPort := 50051
  bound := by decide

def plainHub : RunningHub where
  nic := probePrimaryNicWin (some
    [⟨true, 24, [⟨true, some (ascii "127.0.0.1")⟩], []⟩, ⟨false, 6, [⟨true, some (ascii "10.0.0.9")⟩], []⟩,
      ⟨true, 6, [⟨false, none⟩, ⟨true, some (ascii "10.0.0.2")⟩], [0, 27, 33]⟩])
  config := { cameras := [{ serialNumber := ascii "s1" }] }
  selectedPort := 50052
  bound := by decide

def heardTwice : List Poll :=
  [.datagram (buildDeviceDiscoveryJson plainHub.params.beacon), .datagram (ascii "hello"), .quiet,
    .datagram (buildDeviceDiscoveryJson namedHub.params.beacon),
    .datagram (buildDeviceDiscoveryJson plainHub.params.beacon)]

theorem search_finds_hubs_heardTwice :
    ((enumerateDevices ⟨32, le_rfl⟩ .windows true heardTwice).map DeviceInfo.triple).Nodup ∧
      ∃ d ∈ enumerateDevices ⟨32, le_rfl⟩ .windows true heardTwice,
        d.triple = (deviceOf plainHub).triple := by
  have hplain : plainHub.Sends (buildDeviceDiscoveryJson plainHub.params.beacon) :=
    RunningHub.sends_beacon rfl (by decide)
  have hnamed : namedHub.Sends (buildDeviceDiscoveryJson namedHub.params.beacon) :=
    RunningHub.sends_beacon rfl (by decide)
  have horigin : ∀ poll ∈ heardTwice, Origin [namedHub, plainHub] poll := by
    simp only [heardTwice, List.forall_mem_cons]
    refine ⟨.hub (by simp) hplain, .foreign (by decide) (by decide), .quiet, .hub (by simp) hnamed,
      .hub (by simp) hplain, ?_⟩
    intro poll hpoll
    cases hpoll
  have hfits : ∀ hub ∈ [namedHub, plainHub],
      (buildDeviceDiscoveryJson hub.params.beacon).length ≤ bufBytes := by
    simp only [List.forall_mem_cons, length_buildDeviceDiscoveryJson]
    exact ⟨by decide, by decide, fun _ h => nomatch h⟩
  obtain ⟨hnodup, -, hheard⟩ := search_finds_hubs ⟨32, le_rfl⟩ .windows horigin hfits (by decide)
  exact ⟨hnodup, hheard plainHub (by simp) _ hplain (by simp [heardTwice])⟩

end Camera3D.Viewer
