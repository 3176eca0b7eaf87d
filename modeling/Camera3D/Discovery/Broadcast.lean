import Camera3D.Config.HubFile
import Camera3D.Discovery.Beacon
import Camera3D.Transition.Run

/-! The hub's side of discovery. What is broadcast follows from the configuration file, the network
adapters and the port that gRPC was given; the loop looks at the stop flag before each datagram and
before each stretch of sleep. -/
namespace Camera3D.Discovery

open Text Config Transition

def kDeviceDiscoveryUdpPort : UInt16 := 55431

/-- An address of an adapter: whether it is AF_INET, and its text if it has one. -/
structure UnicastAddress where
  inet : Bool
  text : Option Bytes

structure Adapter where
  up : Bool
  ifType : ℕ
  unicast : List UnicastAddress
  physicalAddress : Bytes

structure PrimaryNic where
  ipv4 : Bytes := ascii "127.0.0.1"
  mac : Bytes := ascii "00:00:00:00:00:00"
  deriving DecidableEq

def hexDigit (n : UInt8) : UInt8 := if n < 10 then 48 + n else 55 + n

def hexByte (b : UInt8) : Bytes := [hexDigit (b >>> 4), hexDigit (b &&& 15)]

def formatMac (addr : Bytes) : Bytes :=
  if addr = [] then ascii "00:00:00:00:00:00"
  else (ascii ":").intercalate ((addr.take 8).map hexByte)

/-- Loopback interfaces have type 24. -/
def usableAddress (a : Adapter) : Option Bytes :=
  if !a.up || a.ifType = 24 then none
  else a.unicast.findSome? fun u =>
    if u.inet then u.text.filter (· ≠ ascii "127.0.0.1") else none

def probePrimaryNicWin (adapters : Option (List Adapter)) : PrimaryNic :=
  match adapters with
  | none => {}
  | some as =>
    match as.findSome? fun a => (usableAddress a).map fun ip => (ip, a) with
    | none => {}
    | some (ip, a) => { ipv4 := ip, mac := formatMac a.physicalAddress }

/-- Elsewhere than on Windows the hardware address is not looked up. -/
def probePrimaryNicPosix (addresses : Option (List UnicastAddress)) : PrimaryNic :=
  match addresses.bind fun us => us.findSome? fun u =>
      if u.inet then u.text.filter (· ≠ ascii "127.0.0.1") else none with
  | none => {}
  | some ip => { ipv4 := ip }

structure HubBroadcastRuntimeParams where
  enable : Bool := true
  discoveryDestPort : UInt16 := kDeviceDiscoveryUdpPort
  intervalMs : Int32 := 1500
  hubGrpcPort : Int32 := 0
  model : Bytes := []
  serial : Bytes := []
  mac : Bytes := []
  hubHost : Bytes := []
  deriving DecidableEq

def broadcastModel (fc : Option HubFileConfig) : Bytes :=
  match fc with
  | some fc => if fc.discovery.deviceModel ≠ [] then fc.discovery.deviceModel else kDefaultDiscoveryModel
  | none => kDefaultDiscoveryModel

def broadcastSerial (fc : Option HubFileConfig) : Bytes :=
  match fc with
  | some fc =>
    if fc.discovery.deviceSerial ≠ [] then fc.discovery.deviceSerial
    else match fc.cameras with
      | node :: _ => if node.serialNumber ≠ [] then node.serialNumber else kDefaultDiscoverySerial
      | [] => kDefaultDiscoverySerial
  | none => kDefaultDiscoverySerial

def broadcastHost (nic : PrimaryNic) (fc : Option HubFileConfig) : Bytes :=
  match fc with
  | some fc => if fc.discovery.advertiseHost ≠ [] then fc.discovery.advertiseHost else nic.ipv4
  | none => nic.ipv4

def buildHubBroadcastParams (nic : PrimaryNic) (fc : Option HubFileConfig) (selectedGrpcPort : Int32) :
    HubBroadcastRuntimeParams where
  enable := fc.elim true fun fc => fc.discovery.enable
  discoveryDestPort := fc.elim kDeviceDiscoveryUdpPort fun fc => fc.discovery.udpPort
  intervalMs := fc.elim 1500 fun fc => fc.discovery.intervalMs
  hubGrpcPort := selectedGrpcPort
  model := broadcastModel fc
  serial := broadcastSerial fc
  mac := nic.mac
  hubHost := broadcastHost nic fc

theorem broadcastModel_ne_nil (fc : Option HubFileConfig) : broadcastModel fc ≠ [] := by
  have hdefault : kDefaultDiscoveryModel ≠ [] := by decide
  unfold broadcastModel
  split
  · split_ifs with h
    · exact h
    · exact hdefault
  · exact hdefault

theorem broadcastSerial_ne_nil (fc : Option HubFileConfig) : broadcastSerial fc ≠ [] := by
  have hdefault : kDefaultDiscoverySerial ≠ [] := by decide
  unfold broadcastSerial
  split
  · split_ifs with h
    · exact h
    · split
      · split_ifs with hnode
        · exact hnode
        · exact hdefault
      · exact hdefault
  · exact hdefault

namespace HubBroadcastRuntimeParams

def starts (params : HubBroadcastRuntimeParams) : Bool :=
  params.enable && decide (0 < params.hubGrpcPort) && decide (params.hubHost ≠ [])

/-- The port is cast to sixteen bits. -/
def beacon (params : HubBroadcastRuntimeParams) : DeviceDiscoveryBeaconData where
  model := params.model
  serial := params.serial
  mac := params.mac
  hubHost := params.hubHost
  hubPort := UInt16.ofInt params.hubGrpcPort.toInt

/-- What the loop sleeps for between two datagrams, before it counts down. -/
def firstLeft (params : HubBroadcastRuntimeParams) : ℤ :=
  if params.intervalMs.toInt < 200 then 200 else params.intervalMs.toInt

end HubBroadcastRuntimeParams

/-- Where `RunHubDeviceBroadcastLoop` is. -/
inductive LoopPoint where
  | top
  | sleeping (left : ℤ)
  | ended
  deriving DecidableEq

structure BroadcastLoop where
  point : LoopPoint := .top
  sent : List Bytes := []
  deriving DecidableEq

namespace BroadcastLoop
open HubBroadcastRuntimeParams

variable (params : HubBroadcastRuntimeParams)

def atTop (stop : Bool) (s : BroadcastLoop) : BroadcastLoop :=
  if stop then { s with point := .ended }
  else { point := .sleeping params.firstLeft, sent := buildDeviceDiscoveryJson params.beacon :: s.sent }

/-- What the loop does from one look at the stop flag to the next. When the time is up it does not
look before it is at the top again. -/
def step (s : BroadcastLoop) (stop : Bool) : BroadcastLoop :=
  match s.point with
  | .ended => s
  | .top => s.atTop params stop
  | .sleeping left =>
    if 0 < left then
      if stop then { s with point := .top } else { s with point := .sleeping (left - 200) }
    else s.atTop params stop

/-- How often the loop looks at the flag before it is at the top. -/
def looksLeft (left : ℤ) : ℕ := (left.toNat + 199) / 200

theorem looksLeft_pos {left : ℤ} (h : 0 < left) : looksLeft left = looksLeft (left - 200) + 1 := by
  unfold looksLeft
  omega

theorem looksLeft_nonpos {left : ℤ} (h : ¬ 0 < left) : looksLeft left = 0 := by
  unfold looksLeft
  omega

/-- The number of stretches of sleep between two datagrams. -/
def rests : ℕ := looksLeft params.firstLeft

def looks : LoopPoint → ℕ
  | .sleeping left => looksLeft left
  | .top | .ended => 0

variable {params}

theorem step_of_looks_pos {s : BroadcastLoop} (h : 0 < looks s.point) :
    ∃ left, s.step params false = { s with point := .sleeping left } ∧
      looks s.point = looksLeft left + 1 := by
  obtain ⟨point, sent⟩ := s
  cases point with
  | top | ended => exact absurd h (Nat.lt_irrefl 0)
  | sleeping left =>
    have hleft : 0 < left := by
      by_contra hleft
      exact absurd (looksLeft_nonpos hleft) (Nat.ne_of_gt h)
    exact ⟨left - 200, if_pos hleft, looksLeft_pos hleft⟩

theorem step_of_looks_zero {s : BroadcastLoop} (hended : s.point ≠ .ended) (h : looks s.point = 0) :
    s.step params false = s.atTop params false := by
  obtain ⟨point, sent⟩ := s
  cases point with
  | ended => exact absurd rfl hended
  | top => rfl
  | sleeping left =>
    apply if_neg
    intro hleft
    exact absurd ((looksLeft_pos hleft).symm.trans h) (Nat.succ_ne_zero _)

/-- While nobody stops the loop, it sends one datagram each time it has looked once at the top and
once before each stretch of sleep. -/
theorem run_unstopped (r : ℕ) {s : BroadcastLoop} (hended : s.point ≠ .ended)
    (hlooks : looks s.point ≤ rests params) :
    (run (step params) s (List.replicate r false)).sent =
      List.replicate ((r + (rests params - looks s.point)) / (rests params + 1))
        (buildDeviceDiscoveryJson params.beacon) ++ s.sent := by
  induction r generalizing s with
  | zero =>
    have hnone : (0 + (rests params - looks s.point)) / (rests params + 1) = 0 := by
      apply Nat.div_eq_of_lt
      omega
    rw [hnone]
    rfl
  | succ r ih =>
    rw [List.replicate_succ, run_cons]
    by_cases hzero : looks s.point = 0
    · rw [step_of_looks_zero hended hzero]
      have hround : (r + 1 + (rests params - looks s.point)) / (rests params + 1) =
          r / (rests params + 1) + 1 := by
        rw [hzero, ← Nat.add_div_right r (Nat.succ_pos _)]
        congr 1
        omega
      have hsleep : looks (s.atTop params false).point = rests params := rfl
      rw [ih (s := s.atTop params false) (by simp [atTop]) (Nat.le_of_eq hsleep), hsleep, hround,
        Nat.sub_self, Nat.add_zero, List.replicate_succ', List.append_assoc]
      rfl
    · obtain ⟨left, hstep, hleft⟩ := step_of_looks_pos (Nat.pos_of_ne_zero hzero)
      have hsleep : looks ({ s with point := .sleeping left } : BroadcastLoop).point = looksLeft left := rfl
      rw [hstep, ih (by simp) (by rw [hsleep]; omega), hsleep, hleft]
      congr 3
      omega

/-- Once the flag is set nothing more is sent. -/
theorem run_stopped (q : ℕ) (s : BroadcastLoop) :
    (run (step params) s (List.replicate q true)).sent = s.sent := by
  induction q generalizing s with
  | zero => rfl
  | succ q ih =>
    rw [List.replicate_succ, run_cons, ih]
    unfold step
    split
    case h_1 => rfl
    case h_2 => rfl
    case h_3 => split_ifs <;> rfl

theorem sent_step {s : BroadcastLoop}
    (hs : ∀ d ∈ s.sent, d = buildDeviceDiscoveryJson params.beacon) (stop : Bool) :
    ∀ d ∈ (s.step params stop).sent, d = buildDeviceDiscoveryJson params.beacon := by
  have htop : ∀ d ∈ (s.atTop params stop).sent, d = buildDeviceDiscoveryJson params.beacon := by
    unfold atTop
    split_ifs
    · exact hs
    · intro d hd
      rcases List.mem_cons.mp hd with heq | hd
      · exact heq
      · exact hs d hd
  unfold step
  split
  case h_1 => exact hs
  case h_2 => exact htop
  case h_3 =>
    split_ifs
    · exact hs
    · exact hs
    · exact htop

end BroadcastLoop

/-- The datagrams that are sent while the stop flag is found as `stops` tells, the last one first. -/
def runHubDeviceBroadcastLoop (socketMade : Bool) (params : HubBroadcastRuntimeParams)
    (stops : List Bool) : List Bytes :=
  if params.starts && socketMade then (run (BroadcastLoop.step params) {} stops).sent else []

theorem eq_beacon_of_mem {socketMade : Bool} {params : HubBroadcastRuntimeParams} {stops : List Bool}
    {data : Bytes} (h : data ∈ runHubDeviceBroadcastLoop socketMade params stops) :
    params.starts = true ∧ data = buildDeviceDiscoveryJson params.beacon := by
  unfold runHubDeviceBroadcastLoop at h
  split_ifs at h with hstarts
  · rw [Bool.and_eq_true] at hstarts
    have hsent : ∀ d ∈ (run (BroadcastLoop.step params) {} stops).sent,
        d = buildDeviceDiscoveryJson params.beacon := by
      apply run_invariant (I := fun s : BroadcastLoop =>
        ∀ d ∈ s.sent, d = buildDeviceDiscoveryJson params.beacon)
      · intro s stop hs
        exact BroadcastLoop.sent_step hs stop
      · intro d hd
        cases hd
    exact ⟨hstarts.1, hsent data h⟩
  · cases h

/-- The loop sends its beacon and nothing else, once for every `rests` stretches of sleep, and nothing
after the flag was set. -/
theorem broadcast_paced (params : HubBroadcastRuntimeParams) (r q : ℕ) :
    runHubDeviceBroadcastLoop true params (List.replicate r false ++ List.replicate q true) =
      if params.starts then
        List.replicate ((r + BroadcastLoop.rests params) / (BroadcastLoop.rests params + 1))
          (buildDeviceDiscoveryJson params.beacon)
      else [] := by
  unfold runHubDeviceBroadcastLoop
  rw [Bool.and_true, run_append, BroadcastLoop.run_stopped, BroadcastLoop.run_unstopped r (by simp)
    (Nat.zero_le _), List.append_nil]
  rfl

end Camera3D.Discovery
