import Camera3D.Discovery.Truncation
import Camera3D.Store.Firsts

/-! How the SDK finds hubs: it listens for beacons until its deadline, and remembers by a text which
hub and device it has heard of. -/
namespace Camera3D.Sdk
open Text Discovery Store

structure DiscoveredHubDevice where
  model : Bytes
  serialNumber : Bytes
  macAddress : Bytes
  hubHost : Bytes
  hubPort : UInt16
  deriving DecidableEq

inductive Platform where
  | windows
  | posix
  deriving DecidableEq

/-- What one turn of the loop finds at the socket. -/
inductive Poll where
  /-- Nothing before the time limit of the turn, or an error after which the loop goes on. -/
  | quiet
  | failed
  | datagram (data : Bytes)
  deriving DecidableEq

inductive Received where
  | again
  | stop
  | bytes (buf : Bytes)
  deriving DecidableEq

def bufBytes : ℕ := 2047

/-- A datagram that does not fit is an error on Windows, and cut elsewhere. -/
def recvfrom (platform : Platform) : Poll → Received
  | .quiet => .again
  | .failed => .stop
  | .datagram data =>
    if data = [] then .again
    else if data.length ≤ bufBytes then .bytes data
    else match platform with
      | .windows => .stop
      | .posix => .bytes (data.take bufBytes)

def seenKey (b : DeviceDiscoveryBeaconData) : Bytes :=
  b.hubHost ++ ascii ":" ++ decimal b.hubPort.toNat ++ ascii ":" ++ b.serial

def discovered (b : DeviceDiscoveryBeaconData) : DiscoveredHubDevice where
  model := b.model
  serialNumber := b.serial
  macAddress := b.mac
  hubHost := b.hubHost
  hubPort := b.hubPort

/-- The loop over the turns before the deadline. -/
def receiveLoop (m : DataModel) (platform : Platform) :
    List Poll → List Bytes → List DiscoveredHubDevice → List DiscoveredHubDevice
  | [], _, out => out
  | poll :: polls, seen, out =>
    match recvfrom platform poll with
    | .again => receiveLoop m platform polls seen out
    | .stop => out
    | .bytes buf =>
      match tryParseDeviceDiscoveryJson m buf with
      | none => receiveLoop m platform polls seen out
      | some b =>
        if seen.contains (seenKey b) then receiveLoop m platform polls seen out
        else receiveLoop m platform polls (seenKey b :: seen) (out ++ [discovered b])

/-- `bound` is whether a socket is made and bound to the port. -/
def discoverHubDevicesUdp (m : DataModel) (platform : Platform) (bound : Bool) (polls : List Poll) :
    Bool × List DiscoveredHubDevice :=
  if bound then (true, receiveLoop m platform polls [] []) else (false, [])

/-- The datagrams that the loop is handed. -/
def arrived (platform : Platform) : List Poll → List Bytes
  | [] => []
  | poll :: polls =>
    match recvfrom platform poll with
    | .again => arrived platform polls
    | .stop => []
    | .bytes buf => buf :: arrived platform polls

/-- A device as the hub at a host and a port reports it. -/
structure HubTriple where
  hubHost : Bytes
  hubPort : UInt16
  serial : Bytes
  deriving DecidableEq

namespace HubTriple

def ofBeacon (b : DeviceDiscoveryBeaconData) : HubTriple := ⟨b.hubHost, b.hubPort, b.serial⟩

def ofDevice (device : DiscoveredHubDevice) : HubTriple :=
  ⟨device.hubHost, device.hubPort, device.serialNumber⟩

def code (t : HubTriple) : Bytes :=
  t.hubHost ++ 58 :: (decimal t.hubPort.toNat ++ 58 :: t.serial)

/-- The one host is the other, its port and perhaps more behind it, which the serial numbers make up
for. -/
def Imitates (t t' : HubTriple) : Prop :=
  ∃ more, t.hubHost = t'.hubHost ++ 58 :: (decimal t'.hubPort.toNat ++ more) ∧
    58 :: t'.serial = more ++ 58 :: (decimal t.hubPort.toNat ++ 58 :: t.serial)

theorem decimal_injective {a b : UInt16} (h : decimal a.toNat = decimal b.toNat) : a = b := by
  have hnumeral := congrArg numeral h
  rw [numeral_decimal, numeral_decimal] at hnumeral
  exact UInt16.toNat_inj.mp hnumeral

theorem colon_not_mem_decimal (n : ℕ) : (58 : UInt8) ∉ decimal n := fun h =>
  absurd (isdigit_of_mem_decimal h) (by decide)

theorem Imitates.ne {t t' : HubTriple} (h : t.Imitates t') : t ≠ t' := by
  rintro rfl
  obtain ⟨more, hhost, -⟩ := h
  have hlength := congrArg List.length hhost
  simp at hlength

theorem Imitates.code_eq {t t' : HubTriple} (h : t.Imitates t') : t.code = t'.code := by
  obtain ⟨more, hhost, hserial⟩ := h
  unfold code
  rw [hhost, hserial]
  simp

/-- Digits end before the first colon. -/
theorem split_of_colon {n : ℕ} {front v w : Bytes} (h : decimal n ++ 58 :: v = front ++ 58 :: w) :
    ∃ more, front = decimal n ++ more ∧ 58 :: v = more ++ 58 :: w := by
  rcases List.append_eq_append_iff.mp h with ⟨more, hfront, htail⟩ | ⟨more, hdigits, htail⟩
  · exact ⟨more, hfront, htail⟩
  · cases more with
    | nil =>
      rw [List.append_nil] at hdigits
      exact ⟨[], by rw [hdigits, List.append_nil], htail.symm⟩
    | cons c more =>
      obtain ⟨rfl, -⟩ := List.cons.inj htail
      exact absurd (hdigits ▸ List.mem_append_right front List.mem_cons_self)
        (colon_not_mem_decimal n)

theorem of_hubHost_eq {t t' : HubTriple} {more : Bytes} (hhost : t.hubHost = t'.hubHost ++ more)
    (h : 58 :: (decimal t'.hubPort.toNat ++ 58 :: t'.serial) =
      more ++ 58 :: (decimal t.hubPort.toNat ++ 58 :: t.serial)) :
    t = t' ∨ t.Imitates t' := by
  cases more with
  | nil =>
    obtain ⟨rest, hdigits, hserial⟩ := split_of_colon (List.cons.inj h).2
    cases rest with
    | nil =>
      rw [List.append_nil] at hhost hdigits
      left
      cases t
      cases t'
      rw [HubTriple.mk.injEq]
      exact ⟨hhost, decimal_injective hdigits, (List.cons.inj hserial).2.symm⟩
    | cons c rest =>
      obtain ⟨rfl, -⟩ := List.cons.inj hserial
      exact absurd (hdigits ▸ List.mem_append_right _ List.mem_cons_self)
        (colon_not_mem_decimal t.hubPort.toNat)
  | cons c more =>
    obtain ⟨rfl, hrest⟩ := List.cons.inj h
    obtain ⟨rest, rfl, hserial⟩ := split_of_colon hrest
    exact .inr ⟨rest, hhost, hserial⟩

/-- Two triples with one code are the same, or one imitates the other. -/
theorem of_code_eq {t t' : HubTriple} (h : t.code = t'.code) :
    t = t' ∨ t.Imitates t' ∨ t'.Imitates t := by
  rcases List.append_eq_append_iff.mp h with ⟨more, hhost, htail⟩ | ⟨more, hhost, htail⟩
  · rcases of_hubHost_eq hhost htail with heq | himitates
    · exact .inl heq.symm
    · exact .inr (.inr himitates)
  · rcases of_hubHost_eq hhost htail with heq | himitates
    · exact .inl heq
    · exact .inr (.inl himitates)

end HubTriple

section Loop
variable {m : DataModel} {platform : Platform}

def parsed (m : DataModel) (platform : Platform) (polls : List Poll) :
    List DeviceDiscoveryBeaconData :=
  (arrived platform polls).filterMap (tryParseDeviceDiscoveryJson m)

/-- The loop adds the first beacon of each key that it has not seen. -/
theorem receiveLoop_eq (polls : List Poll) (seen : List Bytes) (out : List DiscoveredHubDevice) :
    receiveLoop m platform polls seen out =
      out ++ (firsts seenKey seen (parsed m platform polls)).map discovered := by
  unfold parsed
  induction polls generalizing seen out with
  | nil => exact (List.append_nil out).symm
  | cons poll polls ih =>
    rw [receiveLoop, arrived]
    cases recvfrom platform poll with
    | again => exact ih seen out
    | stop => exact (List.append_nil out).symm
    | bytes buf =>
      dsimp only
      rw [List.filterMap_cons]
      cases tryParseDeviceDiscoveryJson m buf with
      | none => exact ih seen out
      | some b =>
        dsimp only
        rw [firsts]
        by_cases hseen : seenKey b ∈ seen
        · rw [if_pos (List.contains_iff_mem.mpr hseen), if_pos hseen]
          exact ih seen out
        · rw [if_neg (mt List.contains_iff_mem.mp hseen), if_neg hseen, ih, List.append_assoc]
          rfl

end Loop

/-- The triples reported are those of the beacons, once each and in order of first arrival, exactly if
no beacon imitates another. -/
theorem discoverHubDevicesUdp_exact_iff (m : DataModel) (platform : Platform) (polls : List Poll) :
    (discoverHubDevicesUdp m platform true polls).2.map HubTriple.ofDevice =
        ((parsed m platform polls).map HubTriple.ofBeacon).eraseDups ↔
      ∀ b ∈ parsed m platform polls, ∀ b' ∈ parsed m platform polls,
        ¬ (HubTriple.ofBeacon b).Imitates (HubTriple.ofBeacon b') := by
  have hkey : seenKey = HubTriple.code ∘ HubTriple.ofBeacon := by
    funext b
    unfold seenKey
    rw [List.append_assoc, List.append_assoc, List.append_assoc]
    rfl
  have hout : (discoverHubDevicesUdp m platform true polls).2.map HubTriple.ofDevice =
      (firsts (HubTriple.code ∘ HubTriple.ofBeacon) [] (parsed m platform polls)).map
        HubTriple.ofBeacon := by
    unfold discoverHubDevicesUdp
    rw [if_pos rfl, receiveLoop_eq, List.nil_append, List.map_map, hkey]
    rfl
  rw [hout, map_firsts_code_iff]
  constructor
  · intro hinj b hb b' hb' himitates
    exact himitates.ne (hinj b hb b' hb' himitates.code_eq)
  · intro hnone b hb b' hb' hcode
    rcases HubTriple.of_code_eq hcode with heq | himitates | himitates
    · exact heq
    · exact absurd himitates (hnone b hb b' hb')
    · exact absurd himitates (hnone b' hb' b hb)

/-- Two hubs on one machine, the second of which is named after the first and its port. -/
def firstHub : DeviceDiscoveryBeaconData where
  serial := ascii "7:s"
  hubHost := ascii "::1"
  hubPort := 50051

def secondHub : DeviceDiscoveryBeaconData where
  serial := ascii "s"
  hubHost := ascii "::1:50051"
  hubPort := 7

def bothHubs : List Poll :=
  [.datagram (buildDeviceDiscoveryJson firstHub), .quiet,
    .datagram (buildDeviceDiscoveryJson secondHub)]

theorem recvfrom_buildDeviceDiscoveryJson {platform : Platform} {d : DeviceDiscoveryBeaconData}
    (hfits : (buildDeviceDiscoveryJson d).length ≤ bufBytes) :
    recvfrom platform (.datagram (buildDeviceDiscoveryJson d)) =
      .bytes (buildDeviceDiscoveryJson d) := by
  have hdata : buildDeviceDiscoveryJson d ≠ [] := by
    rw [buildDeviceDiscoveryJson_eq]
    exact List.cons_ne_nil _ _
  unfold recvfrom
  dsimp only
  rw [if_neg hdata, if_pos hfits]

theorem parsed_bothHubs : parsed ⟨32, le_rfl⟩ .posix bothHubs = [firstHub, secondHub] := by
  have hfirst := tryParseDeviceDiscoveryJson_of_cut (m := ⟨32, le_rfl⟩) (d := firstHub)
    (List.append_nil _) (by decide) (by decide) (by decide) (by decide) (Nat.zero_le _)
  have hsecond := tryParseDeviceDiscoveryJson_of_cut (m := ⟨32, le_rfl⟩) (d := secondHub)
    (List.append_nil _) (by decide) (by decide) (by decide) (by decide) (Nat.zero_le _)
  have harrived : arrived .posix bothHubs =
      [buildDeviceDiscoveryJson firstHub, buildDeviceDiscoveryJson secondHub] := by
    have hfirst : (buildDeviceDiscoveryJson firstHub).length ≤ bufBytes := by
      rw [length_buildDeviceDiscoveryJson]
      decide
    have hsecond : (buildDeviceDiscoveryJson secondHub).length ≤ bufBytes := by
      rw [length_buildDeviceDiscoveryJson]
      decide
    unfold bothHubs
    rw [arrived, recvfrom_buildDeviceDiscoveryJson hfirst, arrived, recvfrom, arrived,
      recvfrom_buildDeviceDiscoveryJson hsecond, arrived]
  unfold parsed
  rw [harrived, List.filterMap_cons, hfirst, List.filterMap_cons, hsecond]
  decide

/-- The second hub is taken for the first one. -/
theorem secondHub_not_reported :
    ¬ ∀ polls : List Poll,
      (discoverHubDevicesUdp ⟨32, le_rfl⟩ .posix true polls).2.map HubTriple.ofDevice =
        ((parsed ⟨32, le_rfl⟩ .posix polls).map HubTriple.ofBeacon).eraseDups := by
  intro hall
  have hboth := hall bothHubs
  unfold discoverHubDevicesUdp at hboth
  rw [if_pos rfl, receiveLoop_eq, parsed_bothHubs] at hboth
  revert hboth
  decide

end Camera3D.Sdk
