import Mathlib.Algebra.Order.Floor.Ring
import Mathlib.Algebra.Order.Field.Power
import Mathlib.Data.Int.Log
import Mathlib.Data.Rat.Floor
import Mathlib.Tactic.FieldSimp
import Mathlib.Tactic.Linarith
import Mathlib.Tactic.NormNum
import Mathlib.Tactic.Positivity
import Mathlib.Tactic.Ring

/-! Bit patterns of the 64-bit binary floating-point format, the rationals that they stand for, and
the rounding of a rational to the nearest of them. -/
namespace Camera3D.Arith

/-- To the nearest integer, from halfway to the even one. -/
def roundEven (x : ℚ) : ℤ :=
  if 2 * Int.fract x < 1 then ⌊x⌋
  else if 1 < 2 * Int.fract x then ⌊x⌋ + 1
  else 2 * ((⌊x⌋ + 1) / 2)

/-- To the nearest integer, from halfway to the one farther from zero. -/
def roundAway (x : ℚ) : ℤ := if 0 ≤ x then ⌊x + 1 / 2⌋ else -⌊-x + 1 / 2⌋

theorem abs_roundEven_sub_le (x : ℚ) : |(roundEven x : ℚ) - x| ≤ 1 / 2 := by
  have hfract := Int.self_sub_floor x
  have hpos := Int.fract_nonneg x
  have hlt := Int.fract_lt_one x
  have hcases : 2 * ((⌊x⌋ + 1) / 2) = ⌊x⌋ ∨ 2 * ((⌊x⌋ + 1) / 2) = ⌊x⌋ + 1 := by omega
  unfold roundEven
  rw [abs_le]
  split_ifs with hbelow habove
  · constructor
    · linarith
    · linarith
  · push_cast
    constructor
    · linarith
    · linarith
  · rcases hcases with heq | heq
    · rw [heq]
      constructor
      · linarith
      · linarith
    · rw [heq]
      push_cast
      constructor
      · linarith
      · linarith

theorem roundAway_eq {x : ℚ} {n : ℤ} (h : |x - n| < 1 / 2) : roundAway x = n := by
  obtain ⟨hlow, hhigh⟩ := abs_lt.mp h
  unfold roundAway
  split_ifs with hx
  · apply Int.floor_eq_iff.mpr
    constructor
    · linarith
    · linarith
  · have hneg : ⌊-x + 1 / 2⌋ = -n := by
      apply Int.floor_eq_iff.mpr
      push_cast
      constructor
      · linarith
      · linarith
    rw [hneg, neg_neg]

/-- The bits of infinity, without the sign. -/
def infinity : ℕ := 2047 * 2 ^ 52

/-- What the bits below the sign stand for, if they are those of a finite number. -/
def magnitude (bits : ℕ) : ℚ :=
  if bits / 2 ^ 52 = 0 then (bits % 2 ^ 52 : ℕ) * 2 ^ (-1074 : ℤ)
  else (2 ^ 52 + bits % 2 ^ 52 : ℕ) * 2 ^ ((bits / 2 ^ 52 : ℕ) - 1075 : ℤ)

def isFinite (x : UInt64) : Bool := x.toNat % 2 ^ 63 < infinity

def toRat (x : UInt64) : ℚ :=
  if x.toNat < 2 ^ 63 then magnitude x.toNat else -magnitude (x.toNat - 2 ^ 63)

/-- The bits of the finite number nearest to a positive one; a carry out of the fraction goes into the
exponent, and beyond the largest exponent there is infinity. -/
def encode (q : ℚ) : ℕ :=
  let e := max (Int.log 2 q) (-1022)
  min ((e + 1022).toNat * 2 ^ 52 + (roundEven (q / 2 ^ (e - 52))).toNat) infinity

/-- A result of zero is taken to be positive. -/
def ofRat (q : ℚ) : UInt64 :=
  if q = 0 then 0
  else if 0 < q then .ofNat (encode q)
  else .ofNat (2 ^ 63 + encode (-q))

/-- The significand of a number that is not subnormal, and its exponent. -/
theorem magnitude_normal {m e : ℕ} (hlow : 2 ^ 52 ≤ m) (hhigh : m ≤ 2 ^ 53) :
    magnitude (e * 2 ^ 52 + m) = m * 2 ^ ((e : ℤ) - 1074) := by
  unfold magnitude
  rcases Nat.lt_or_ge m (2 ^ 53) with hlt | hge
  · have hexponent : (e * 2 ^ 52 + m) / 2 ^ 52 = e + 1 := by omega
    have hfraction : (e * 2 ^ 52 + m) % 2 ^ 52 = m - 2 ^ 52 := by omega
    rw [hexponent, hfraction, if_neg (Nat.succ_ne_zero e), Nat.add_sub_cancel' hlow]
    congr 2
    push_cast
    ring
  · have hexponent : (e * 2 ^ 52 + m) / 2 ^ 52 = e + 2 := by omega
    have hfraction : (e * 2 ^ 52 + m) % 2 ^ 52 = 0 := by omega
    have hm : (m : ℚ) = 2 ^ 53 := by exact_mod_cast Nat.le_antisymm hhigh hge
    have hne : e + 2 ≠ 0 := by omega
    have hshift : (2 : ℚ) ^ (((e + 2 : ℕ) : ℤ) - 1075) = 2 ^ ((e : ℤ) - 1074) * 2 := by
      rw [← zpow_add_one₀ (by norm_num : (2 : ℚ) ≠ 0)]
      congr 1
      push_cast
      ring
    rw [hexponent, hfraction, if_neg hne, hshift, hm]
    push_cast
    ring

/-- The scaled significand of a positive number has 53 bits, or is the next power of two. -/
theorem significand_bounds {q : ℚ} (hq : 0 < q) :
    (2 : ℤ) ^ 52 ≤ roundEven (q / 2 ^ (Int.log 2 q - 52)) ∧
      roundEven (q / 2 ^ (Int.log 2 q - 52)) ≤ 2 ^ 53 := by
  have hscale : (0 : ℚ) < 2 ^ (Int.log 2 q - 52) := by positivity
  have herror := abs_le.mp (abs_roundEven_sub_le (q / 2 ^ (Int.log 2 q - 52)))
  have hlow : (2 : ℚ) ^ 52 ≤ q / 2 ^ (Int.log 2 q - 52) := by
    rw [le_div_iff₀ hscale, ← zpow_natCast, ← zpow_add₀ (by norm_num : (2 : ℚ) ≠ 0)]
    have hlog := Int.zpow_log_le_self (b := 2) (by norm_num) hq
    push_cast at hlog ⊢
    rwa [add_sub_cancel]
  have hhigh : q / 2 ^ (Int.log 2 q - 52) < 2 ^ 53 := by
    rw [div_lt_iff₀ hscale, ← zpow_natCast, ← zpow_add₀ (by norm_num : (2 : ℚ) ≠ 0)]
    have hlog := Int.lt_zpow_succ_log_self (b := 2) (by norm_num) q
    have hexponent : ((53 : ℕ) : ℤ) + (Int.log 2 q - 52) = Int.log 2 q + 1 := by
      push_cast
      ring
    rw [hexponent]
    exact_mod_cast hlog
  constructor
  · have hcast : (2 : ℚ) ^ 52 < (roundEven (q / 2 ^ (Int.log 2 q - 52)) : ℚ) + 1 := by linarith
    have hint : (2 : ℤ) ^ 52 < roundEven (q / 2 ^ (Int.log 2 q - 52)) + 1 := by exact_mod_cast hcast
    omega
  · have hcast : (roundEven (q / 2 ^ (Int.log 2 q - 52)) : ℚ) < 2 ^ 53 + 1 := by linarith
    have hint : roundEven (q / 2 ^ (Int.log 2 q - 52)) < 2 ^ 53 + 1 := by exact_mod_cast hcast
    omega

/-- Rounding is off by at most half a unit in the last place. -/
theorem magnitude_encode {q : ℚ} (hlow : 2 ^ (-1022 : ℤ) ≤ q) (hhigh : q < 2 ^ (1023 : ℤ)) :
    encode q < infinity ∧ |magnitude (encode q) - q| ≤ q / 2 ^ 53 := by
  have hq : 0 < q := lt_of_lt_of_le (by positivity) hlow
  have hlog : -1022 ≤ Int.log 2 q := (Int.zpow_le_iff_le_log (by norm_num) hq).mp (by exact_mod_cast hlow)
  have hlog' : Int.log 2 q < 1023 := (Int.lt_zpow_iff_log_lt (by norm_num) hq).mp (by exact_mod_cast hhigh)
  obtain ⟨hm, hm'⟩ := significand_bounds hq
  have herror := abs_roundEven_sub_le (q / 2 ^ (Int.log 2 q - 52))
  have hself : (2 : ℚ) ^ Int.log 2 q ≤ q := by exact_mod_cast Int.zpow_log_le_self (b := 2) (by norm_num) hq
  set m := roundEven (q / 2 ^ (Int.log 2 q - 52)) with hm_def
  obtain ⟨n, hn⟩ : ∃ n : ℕ, m = n := ⟨m.toNat, by omega⟩
  obtain ⟨e, he⟩ : ∃ e : ℕ, Int.log 2 q = e - 1022 := ⟨(Int.log 2 q + 1022).toNat, by omega⟩
  have hencode : encode q = e * 2 ^ 52 + n := by
    unfold encode infinity
    dsimp only
    rw [max_eq_left hlog, ← hm_def, hn, he]
    have hsum : ((e : ℤ) - 1022 + 1022).toNat = e := by omega
    rw [hsum, Int.toNat_natCast]
    omega
  have hfinite : encode q < infinity := by
    rw [hencode]
    unfold infinity
    omega
  refine ⟨hfinite, ?_⟩
  have hscale : (0 : ℚ) < 2 ^ (Int.log 2 q - 52) := by positivity
  have hmagnitude : magnitude (encode q) = m * 2 ^ (Int.log 2 q - 52) := by
    rw [hencode, magnitude_normal (by omega) (by omega), hn, he]
    congr 2
    ring
  have hstep : (2 : ℚ) ^ (Int.log 2 q - 52) = 2 ^ Int.log 2 q * 2 / 2 ^ 53 := by
    rw [zpow_sub₀ (by norm_num : (2 : ℚ) ≠ 0)]
    norm_num
    ring
  calc |magnitude (encode q) - q|
      = |(m : ℚ) - q / 2 ^ (Int.log 2 q - 52)| * 2 ^ (Int.log 2 q - 52) := by
        rw [hmagnitude, ← abs_of_pos hscale, ← abs_mul, abs_of_pos hscale]
        congr 1
        field_simp
    _ ≤ 1 / 2 * 2 ^ (Int.log 2 q - 52) := mul_le_mul_of_nonneg_right herror hscale.le
    _ ≤ q / 2 ^ 53 := by
        rw [hstep]
        linarith [div_le_div_of_nonneg_right hself (by positivity : (0 : ℚ) ≤ 2 ^ 53)]

/-- The numbers that are rounded to a finite number that is not subnormal, and zero. -/
def InRange (q : ℚ) : Prop := q = 0 ∨ 2 ^ (-1022 : ℤ) ≤ |q| ∧ |q| < 2 ^ (1023 : ℤ)

theorem infinity_lt : infinity < 2 ^ 63 := by decide

@[simp] theorem magnitude_zero : magnitude 0 = 0 := by norm_num [magnitude]

theorem InRange.ofRat {q : ℚ} (h : InRange q) :
    isFinite (ofRat q) = true ∧ |toRat (ofRat q) - q| ≤ |q| / 2 ^ 53 := by
  have hinfinity := infinity_lt
  rcases lt_trichotomy q 0 with hneg | rfl | hpos
  · obtain ⟨hlow, hhigh⟩ := h.resolve_left hneg.ne
    rw [abs_of_neg hneg] at hlow hhigh ⊢
    obtain ⟨hfinite, herror⟩ := magnitude_encode hlow hhigh
    have hbits : (Arith.ofRat q).toNat = 2 ^ 63 + encode (-q) := by
      unfold Arith.ofRat
      rw [if_neg hneg.ne, if_neg hneg.not_gt, UInt64.toNat_ofNat']
      omega
    constructor
    · unfold isFinite
      rw [hbits, decide_eq_true_iff]
      omega
    · unfold toRat
      rw [hbits, if_neg (by omega), Nat.add_sub_cancel_left, ← abs_neg]
      have hsame : -(-magnitude (encode (-q)) - q) = magnitude (encode (-q)) - -q := by ring
      rwa [hsame]
  · simp [Arith.ofRat, isFinite, toRat, infinity]
  · obtain ⟨hlow, hhigh⟩ := h.resolve_left hpos.ne'
    rw [abs_of_pos hpos] at hlow hhigh ⊢
    obtain ⟨hfinite, herror⟩ := magnitude_encode hlow hhigh
    have hbits : (Arith.ofRat q).toNat = encode q := by
      unfold Arith.ofRat
      rw [if_neg hpos.ne', if_pos hpos, UInt64.toNat_ofNat']
      omega
    constructor
    · unfold isFinite
      rw [hbits, decide_eq_true_iff]
      omega
    · unfold toRat
      rw [hbits, if_pos (by omega)]
      exact herror

theorem InRange.of_bounds {q : ℚ} (h : q = 0 ∨ 1 / 2 ^ 100 ≤ |q| ∧ |q| ≤ 2 ^ 100) : InRange q := by
  apply h.imp_right
  rintro ⟨hlow, hhigh⟩
  have hsmall : (2 : ℚ) ^ (-1022 : ℤ) ≤ 2 ^ (-100 : ℤ) := zpow_le_zpow_right₀ (by norm_num) (by norm_num)
  have hlarge : (2 : ℚ) ^ (100 : ℤ) < 2 ^ (1023 : ℤ) := zpow_lt_zpow_right₀ (by norm_num) (by norm_num)
  constructor
  · apply le_trans hsmall
    exact le_trans (by norm_num) hlow
  · apply lt_of_le_of_lt _ hlarge
    exact le_trans hhigh (by norm_num)

/-- What is rounded keeps its order of magnitude. -/
theorem abs_bounds {x y : ℚ} (h : |x - y| ≤ |y| / 2 ^ 53) : |y| / 2 ≤ |x| ∧ |x| ≤ 2 * |y| := by
  have hsub := abs_sub_abs_le_abs_sub y x
  have hsub' := abs_sub_abs_le_abs_sub x y
  rw [abs_sub_comm y x] at hsub
  have hpos := abs_nonneg y
  have hsmall : |y| / 2 ^ 53 ≤ |y| / 2 := div_le_div_of_nonneg_left hpos (by norm_num) (by norm_num)
  constructor
  · linarith
  · linarith

/-- An integer is stored as the quotient by a scale. -/
def scaleDown (n : ℤ) (k : ℕ) : UInt64 := ofRat (toRat (ofRat n) / k)

/-- The product by the scale; an infinity, or what is not a number, stays what it is. -/
def scaleUp (x : UInt64) (k : ℕ) : UInt64 := if isFinite x then ofRat (toRat x * k) else x

theorem InRange.of_int {n : ℤ} (hn : |n| ≤ 2 ^ 31) : InRange n := by
  have hnle : |(n : ℚ)| ≤ 2 ^ 31 := by exact_mod_cast hn
  apply InRange.of_bounds
  rcases eq_or_ne n 0 with rfl | hne
  · simp
  · right
    have hone : (1 : ℚ) ≤ |(n : ℚ)| := by exact_mod_cast Int.one_le_abs hne
    constructor
    · apply le_trans _ hone
      norm_num
    · linarith

/-- An integer of that size is stored as it is. -/
theorem roundAway_ofRat {n : ℤ} (hn : |n| ≤ 2 ^ 31) :
    isFinite (ofRat n) = true ∧ roundAway (toRat (ofRat n)) = n := by
  have hnle : |(n : ℚ)| ≤ 2 ^ 31 := by exact_mod_cast hn
  obtain ⟨hfinite, herror⟩ := (InRange.of_int hn).ofRat
  refine ⟨hfinite, roundAway_eq ?_⟩
  linarith

/-- Three roundings of a number that is not too large are together less than the distance to the next
integer: the integer that was stored is read back. -/
theorem scaleUp_scaleDown {n : ℤ} (hn : |n| ≤ 2 ^ 31) {k : ℕ} (hk : 0 < k) (hk' : k ≤ 2 ^ 20) :
    isFinite (scaleDown n k) = true ∧ isFinite (scaleUp (scaleDown n k) k) = true ∧
      roundAway (toRat (scaleUp (scaleDown n k) k)) = n := by
  have hkpos : (0 : ℚ) < k := by exact_mod_cast hk
  have hkle : (k : ℚ) ≤ 2 ^ 20 := by exact_mod_cast hk'
  have hkone : (1 : ℚ) ≤ k := by exact_mod_cast hk
  have hnle : |(n : ℚ)| ≤ 2 ^ 31 := by exact_mod_cast hn
  have hnrange : (n : ℚ) = 0 ∨ 1 ≤ |(n : ℚ)| := by
    rcases eq_or_ne n 0 with rfl | hne
    · simp
    · right
      exact_mod_cast Int.one_le_abs hne
  obtain ⟨_, herror⟩ := (InRange.of_int hn).ofRat
  set a := toRat (ofRat (n : ℚ))
  obtain ⟨halow, hahigh⟩ := abs_bounds herror
  have hsecond : InRange (a / k) := by
    apply InRange.of_bounds
    rcases hnrange with hzero | hone
    · left
      rw [hzero, abs_zero, mul_zero] at hahigh
      rw [abs_nonpos_iff.mp hahigh, zero_div]
    · right
      rw [abs_div, abs_of_pos hkpos]
      constructor
      · rw [le_div_iff₀ hkpos]
        linarith
      · rw [div_le_iff₀ hkpos]
        linarith
  obtain ⟨hfinite, herror'⟩ := hsecond.ofRat
  have hdown : scaleDown n k = ofRat (a / k) := rfl
  rw [hdown]
  set d := toRat (ofRat (a / k))
  obtain ⟨hdlow, hdhigh⟩ := abs_bounds herror'
  rw [abs_div, abs_of_pos hkpos] at herror' hdlow hdhigh
  have hproduct : |d * k - a| ≤ |a| / 2 ^ 53 := by
    have hscaled := mul_le_mul_of_nonneg_right herror' hkpos.le
    rw [← abs_of_pos hkpos, ← abs_mul, abs_of_pos hkpos, sub_mul, div_mul_cancel₀ _ hkpos.ne',
      div_right_comm, div_mul_cancel₀ _ hkpos.ne'] at hscaled
    exact hscaled
  obtain ⟨hplow, hphigh⟩ := abs_bounds hproduct
  have hthird : InRange (d * k) := by
    apply InRange.of_bounds
    rcases hnrange with hzero | hone
    · left
      rw [hzero, abs_zero, mul_zero] at hahigh
      rw [abs_nonpos_iff.mp hahigh, abs_zero, mul_zero] at hphigh
      exact abs_nonpos_iff.mp hphigh
    · right
      constructor
      · linarith
      · linarith
  obtain ⟨hfinite', herror''⟩ := hthird.ofRat
  have hup : scaleUp (ofRat (a / k)) k = ofRat (d * k) := if_pos hfinite
  rw [hup]
  refine ⟨hfinite, hfinite', ?_⟩
  apply roundAway_eq
  have hsum := abs_add_three (toRat (ofRat (d * k)) - d * k) (d * k - a) (a - n)
  rw [sub_add_sub_cancel, sub_add_sub_cancel] at hsum
  linarith

end Camera3D.Arith
