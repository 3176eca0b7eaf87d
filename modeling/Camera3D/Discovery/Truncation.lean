import Camera3D.Discovery.Beacon

/-! A beacon that was cut: what the receiver makes of each prefix of a datagram. -/
namespace Camera3D.Discovery

open Camera3D.Text

section Cut
variable {m : DataModel} {d : DeviceDiscoveryBeaconData} {p rest tail key v : Bytes}

theorem extractJsonStringField_of_cut (hdoc : p ++ rest = buildDeviceDiscoveryJson d)
    (hfind : find (json.keyed key [34]) (buildDeviceDiscoveryJson d) =
      find (json.keyed key [34]) (json.sep :: json.keyed key (json.quoted v tail)))
    (hrest : rest <:+ tail) : extractJsonStringField p key = some v := by
  obtain ⟨more, rfl⟩ := hrest
  have hstarts : ∀ text, [34] <+: json.quoted v text := fun text => ⟨_, rfl⟩
  rw [Punctuation.find_member key (hstarts _), ← hdoc, Punctuation.quoted_append,
    Punctuation.keyed_append] at hfind
  have hpat : json.keyed key [34] <+: json.keyed key (json.quoted v more) := by
    obtain ⟨text, htext⟩ := hstarts more
    rw [← htext, Punctuation.keyed_append]
    exact List.prefix_append _ text
  apply extractJsonStringField_of_find
  rw [Punctuation.find_member key (hstarts more)]
  exact find_of_append hfind hpat

theorem find_hubPort (hdoc : p ++ rest = buildDeviceDiscoveryJson d) :
    find (json.keyed (ascii "hub_port") []) (p ++ rest) =
      some (json.keyed (ascii "hub_port") [] ++ (decimal d.hubPort.toNat ++ [125])) := by
  rw [hdoc, find_hubPortMember (by decide) (by decide), ← Punctuation.keyed_append]
  exact Punctuation.find_member _ List.nil_prefix

/-- Without a digit there is no port. -/
theorem extractJsonUIntField_of_no_digit (hdoc : p ++ rest = buildDeviceDiscoveryJson d)
    (hcut : (decimal d.hubPort.toNat).length < rest.length) :
    extractJsonUIntField m p (ascii "hub_port") = none := by
  have hfind := find_hubPort hdoc
  have hpat : ascii "\"" ++ ascii "hub_port" ++ ascii "\":" = json.keyed (ascii "hub_port") [] := rfl
  unfold extractJsonUIntField
  simp only [hpat]
  cases hfound : find (json.keyed (ascii "hub_port") []) p with
  | none => rfl
  | some found =>
    obtain ⟨text, rfl⟩ := find_starts hfound
    rw [find_append hfound, Option.some.injEq, List.append_assoc, List.append_cancel_left_eq] at hfind
    have htext : text = [] := by
      have hlength := congrArg List.length hfind
      rw [List.length_append, List.length_append, List.length_singleton] at hlength
      apply List.length_eq_zero_iff.mp
      omega
    rw [htext]
    rfl

/-- What a cut behind the first digit leaves of the number and of what follows it. -/
theorem digits_of_cut {port : ℕ} (hrest : rest <:+ decimal port ++ [125])
    (hcut : rest.length ≤ (decimal port).length) :
    ∃ front back more, front ++ more ++ rest = decimal port ++ [125] ∧
      decimal port = front ++ back ∧ back.length = rest.length - 1 ∧ front ≠ [] ∧
      more.takeWhile isdigit = [] := by
  obtain ⟨text, htext⟩ := hrest
  rcases List.eq_nil_or_concat rest with rfl | ⟨back, c, rfl⟩
  · refine ⟨decimal port, [], [125], ?_, ?_, rfl, decimal_ne_nil port, rfl⟩
    · rw [List.append_nil]
    · rw [List.append_nil]
  · rw [List.concat_eq_append, ← List.append_assoc] at htext
    have hdigits : text ++ back = decimal port := (List.append_inj' htext rfl).1
    rw [List.concat_eq_append, List.length_append, List.length_singleton, ← hdigits,
      List.length_append] at hcut
    refine ⟨text, back, [], ?_, hdigits.symm, ?_, ?_, rfl⟩
    · rw [List.concat_eq_append, List.append_nil, ← List.append_assoc, htext]
    · simp
    · rintro rfl
      simp at hcut

theorem suffix_of_cut (hdoc : p ++ rest = buildDeviceDiscoveryJson d)
    (hcut : rest.length ≤ (decimal d.hubPort.toNat).length) :
    rest <:+ decimal d.hubPort.toNat ++ [125] := by
  apply List.suffix_of_suffix_length_le (List.suffix_append p rest)
  · exact (List.suffix_append _ _).trans (find_suffix (find_hubPort hdoc))
  · rw [List.length_append]
    omega

/-- The cut leaves the number of the port without as many digits as it took away. -/
theorem extractJsonUIntField_of_cut (hdoc : p ++ rest = buildDeviceDiscoveryJson d)
    (hcut : rest.length ≤ (decimal d.hubPort.toNat).length) :
    extractJsonUIntField m p (ascii "hub_port") =
      some (UInt16.ofNat (d.hubPort.toNat / 10 ^ (rest.length - 1))) := by
  have hfind := find_hubPort hdoc
  have hport := d.hubPort.toNat_lt
  obtain ⟨front, back, more, htext, hdigits, hback, hfront, hmore⟩ :=
    digits_of_cut (suffix_of_cut hdoc hcut) hcut
  rw [← htext, ← List.append_assoc] at hfind
  have hfound := find_of_append hfind (List.prefix_append _ _)
  rw [← Punctuation.keyed_append, List.nil_append] at hfound
  have hnumeral := numeral_of_decimal_eq_append hdigits
  have hle := Nat.div_le_self d.hubPort.toNat (10 ^ back.length)
  have hfield := extractJsonUIntField_of_digits (m := m) hfound
    (fun c hc => isdigit_of_mem_decimal (hdigits ▸ List.mem_append_left back hc)) hfront
    (by omega) hmore
  rw [hfield, hnumeral, hback]
  unfold clampPort
  rw [if_neg (by rw [← hback]; omega)]

/-- What is left of a port is no more than it was, and not zero. -/
theorem port_of_cut {port : UInt16} {k : ℕ} (hport : port ≠ 0) (hk : k < (decimal port.toNat).length) :
    (UInt16.ofNat (port.toNat / 10 ^ k)).toNat = port.toNat / 10 ^ k ∧ 0 < port.toNat / 10 ^ k := by
  have hlt := port.toNat_lt
  have hle := Nat.div_le_self port.toNat (10 ^ k)
  have hne : port.toNat ≠ 0 := fun h => hport (UInt16.toNat_inj.mp h)
  constructor
  · have hsize : UInt16.size = 2 ^ 16 := rfl
    exact UInt16.toNat_ofNat_of_lt (by omega)
  · exact Nat.div_pos ((lt_decimal_length_iff hne k).mp hk) (Nat.pow_pos (by decide))

/-- The text up to the model, which is the same for all beacons. -/
def headMembers : Bytes :=
  123 :: json.keyed (ascii "m") (json.quoted kDeviceDiscoveryMagic
    (json.sep :: json.keyed (ascii "v") [49]))

theorem buildDeviceDiscoveryJson_eq_append (d : DeviceDiscoveryBeaconData) :
    buildDeviceDiscoveryJson d = headMembers ++ modelMember d := by
  rw [buildDeviceDiscoveryJson_eq]
  simp [headMembers, Punctuation.keyed, Punctuation.quoted]

/-- A cut behind the first digit leaves a beacon that is accepted, with what is left of the port. -/
theorem tryParseDeviceDiscoveryJson_of_cut (hdoc : p ++ rest = buildDeviceDiscoveryJson d)
    (hmodel : d.model ≠ []) (hserial : d.serial ≠ []) (hhost : d.hubHost ≠ [])
    (hport : d.hubPort ≠ 0) (hcut : rest.length ≤ (decimal d.hubPort.toNat).length) :
    tryParseDeviceDiscoveryJson m p =
      some { d with hubPort := UInt16.ofNat (d.hubPort.toNat / 10 ^ (rest.length - 1)) } := by
  have hhubPort : rest <:+ hubPortMember d := by
    apply (suffix_of_cut hdoc hcut).trans
    exact ⟨json.sep :: json.keyed (ascii "hub_port") [], by simp [hubPortMember, Punctuation.keyed]⟩
  have hhubHost : rest <:+ hubHostMember d := hhubPort.trans (Punctuation.suffix_member _ _ _)
  have hmac : rest <:+ macMember d := hhubHost.trans (Punctuation.suffix_member _ _ _)
  have hserials : rest <:+ serialMember d := hmac.trans (Punctuation.suffix_member _ _ _)
  have hmodels : rest <:+ modelMember d := hserials.trans (Punctuation.suffix_member _ _ _)
  have hmagic : find kDeviceDiscoveryMagic p ≠ none := by
    obtain ⟨text, htext⟩ := hmodels
    rw [buildDeviceDiscoveryJson_eq_append, ← htext, ← List.append_assoc,
      List.append_cancel_right_eq] at hdoc
    rw [hdoc]
    apply Option.isSome_iff_ne_none.mp
    apply find_isSome_of_infix
    exact List.IsInfix.trans (by decide) (List.prefix_append headMembers text).isInfix
  apply tryParseDeviceDiscoveryJson_of_fields hmagic
  · exact extractJsonStringField_of_cut hdoc
      (find_modelMember (by decide) (by decide) (by decide)) hserials
  · exact extractJsonStringField_of_cut hdoc (find_serialMember (by decide) (by decide)) hmac
  · exact extractJsonStringField_of_cut hdoc (find_macMember (by decide) (by decide)) hhubHost
  · exact extractJsonStringField_of_cut hdoc (find_hubHostMember (by decide) (by decide)) hhubPort
  · exact extractJsonUIntField_of_cut hdoc hcut
  · exact hmodel
  · exact hserial
  · exact hhost
  · have hpos := List.length_pos_iff.mpr (decimal_ne_nil d.hubPort.toNat)
    obtain ⟨hvalue, hleft⟩ := port_of_cut (k := rest.length - 1) hport (by omega)
    intro hzero
    rw [hzero] at hvalue
    exact hleft.ne hvalue

theorem tryParseDeviceDiscoveryJson_of_no_digit (hdoc : p ++ rest = buildDeviceDiscoveryJson d)
    (hcut : (decimal d.hubPort.toNat).length < rest.length) :
    tryParseDeviceDiscoveryJson m p = none := by
  unfold tryParseDeviceDiscoveryJson
  rw [extractJsonUIntField_of_no_digit hdoc hcut]
  split_ifs
  · rfl
  · exact if_pos (.inr rfl)

end Cut

/-- A prefix is accepted with wrong data exactly if the cut falls between two digits of the port. -/
theorem tryParseDeviceDiscoveryJson_cut_iff (m : DataModel) {d : DeviceDiscoveryBeaconData}
    (hmodel : d.model ≠ []) (hserial : d.serial ≠ []) (hhost : d.hubHost ≠ [])
    (hport : d.hubPort ≠ 0) {p : Bytes} (hbegins : p <+: buildDeviceDiscoveryJson d) :
    (∀ r, tryParseDeviceDiscoveryJson m p = some r → r = d) ↔
      p.length + (decimal d.hubPort.toNat).length < (buildDeviceDiscoveryJson d).length ∨
        (buildDeviceDiscoveryJson d).length ≤ p.length + 1 := by
  obtain ⟨rest, hdoc⟩ := hbegins
  have hlength := congrArg List.length hdoc
  rw [List.length_append] at hlength
  have hpos := List.length_pos_iff.mpr (decimal_ne_nil d.hubPort.toNat)
  by_cases hcut : rest.length ≤ (decimal d.hubPort.toNat).length
  · have hparse := tryParseDeviceDiscoveryJson_of_cut (m := m) hdoc hmodel hserial hhost hport hcut
    obtain ⟨hvalue, hleft⟩ := port_of_cut (k := rest.length - 1) hport (by omega)
    rw [hparse]
    constructor
    · intro hall
      have hkept : UInt16.ofNat (d.hubPort.toNat / 10 ^ (rest.length - 1)) = d.hubPort :=
        congrArg DeviceDiscoveryBeaconData.hubPort (hall _ rfl)
      rw [hkept] at hvalue
      have hone : rest.length - 1 = 0 := by
        by_contra hk
        have hpow : 1 < 10 ^ (rest.length - 1) := Nat.one_lt_pow hk (by decide)
        have hlt := Nat.div_lt_self (n := d.hubPort.toNat) (by omega) hpow
        omega
      exact .inr (by omega)
    · rintro (hshort | hlong) r h
      · omega
      · have hone : rest.length - 1 = 0 := by omega
        rw [hone, Nat.pow_zero, Nat.div_one, UInt16.ofNat_toNat] at h
        exact (Option.some.inj h).symm
  · have hparse := tryParseDeviceDiscoveryJson_of_no_digit (m := m) hdoc (Nat.not_le.mp hcut)
    rw [hparse]
    refine iff_of_true ?_ (.inl (by omega))
    intro r h
    cases h

def hubBeacon : DeviceDiscoveryBeaconData where
  hubHost := ascii "10.0.0.2"
  hubPort := 50051

theorem tryParseDeviceDiscoveryJson_cut_iff_hubBeacon :
    (∀ r, tryParseDeviceDiscoveryJson ⟨32, le_rfl⟩
        ((buildDeviceDiscoveryJson hubBeacon).take 60) = some r → r = hubBeacon) ↔
      ((buildDeviceDiscoveryJson hubBeacon).take 60).length +
          (decimal hubBeacon.hubPort.toNat).length < (buildDeviceDiscoveryJson hubBeacon).length ∨
        (buildDeviceDiscoveryJson hubBeacon).length ≤
          ((buildDeviceDiscoveryJson hubBeacon).take 60).length + 1 :=
  tryParseDeviceDiscoveryJson_cut_iff ⟨32, le_rfl⟩ (by decide) (by decide) (by decide) (by decide)
    (List.take_prefix 60 _)

/-- A hub with a long name, whose datagram is two bytes longer than the receive buffer. -/
def longBeacon : DeviceDiscoveryBeaconData where
  model := List.replicate 1937 97
  hubHost := ascii "10.0.0.2"
  hubPort := 50051

theorem length_buildDeviceDiscoveryJson (d : DeviceDiscoveryBeaconData) :
    (buildDeviceDiscoveryJson d).length = 87 + (json.escape d.model).length +
      (json.escape d.serial).length + (json.escape d.mac).length + (json.escape d.hubHost).length +
        (decimal d.hubPort.toNat).length := by
  have hhead : headMembers.length = 28 := rfl
  rw [buildDeviceDiscoveryJson_eq_append, List.length_append, hhead]
  simp only [modelMember, serialMember, macMember, hubHostMember, hubPortMember, Punctuation.keyed,
    Punctuation.quoted, List.length_append, List.length_cons, List.length_nil]
  have hmodel : (ascii "model").length = 5 := rfl
  have hserial : (ascii "serial").length = 6 := rfl
  have hmac : (ascii "mac").length = 3 := rfl
  have hhost : (ascii "hub_host").length = 8 := rfl
  have hport : (ascii "hub_port").length = 8 := rfl
  omega

theorem length_longBeacon : (buildDeviceDiscoveryJson longBeacon).length = 2049 := by
  have hplain : ∀ q : UInt8, q ≠ 97 → q ∉ longBeacon.model := fun q hq h =>
    hq (List.eq_of_mem_replicate h)
  have hmodel : (json.escape longBeacon.model).length = 1937 := by
    rw [Punctuation.escape_of_plain (hplain _ (by decide)) (hplain _ (by decide))]
    exact List.length_replicate
  rw [length_buildDeviceDiscoveryJson, hmodel]
  decide

/-- Without its last digit and its brace, the port 50051 is read as 5005. -/
theorem longBeacon_misread :
    ¬ ∀ r, tryParseDeviceDiscoveryJson ⟨32, le_rfl⟩
      ((buildDeviceDiscoveryJson longBeacon).take 2047) = some r → r = longBeacon := by
  intro hall
  have hdoc := List.take_append_drop 2047 (buildDeviceDiscoveryJson longBeacon)
  have hrest : ((buildDeviceDiscoveryJson longBeacon).drop 2047).length = 2 := by
    rw [List.length_drop, length_longBeacon]
  have hmodel : longBeacon.model ≠ [] := fun h => nomatch h
  have hparse := tryParseDeviceDiscoveryJson_of_cut (m := ⟨32, le_rfl⟩) hdoc hmodel (by decide)
    (by decide) (by decide) (by rw [hrest]; decide)
  have hport := congrArg DeviceDiscoveryBeaconData.hubPort (hall _ hparse)
  rw [hrest] at hport
  exact absurd hport (by decide)

end Camera3D.Discovery
