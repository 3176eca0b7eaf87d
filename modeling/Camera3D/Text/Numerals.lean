import Mathlib.Data.Nat.Digits.Lemmas
import Mathlib.Data.List.TakeWhile

/-! Decimal numerals as bytes: printing, and the C library's strtoul and strtol in base 10. -/
namespace Camera3D.Text

abbrev Bytes := List UInt8

/-- What holds for every byte of a text is decided byte by byte of the text, and not by going through
all bytes there are. -/
instance (priority := 2000) decidableBytes (s : Bytes) (p : UInt8 → Prop) [DecidablePred p] :
    Decidable (∀ c ∈ s, p c) := List.decidableBAll p s

def ascii (s : String) : Bytes := s.toList.map Char.toUInt8

/-- The width of `long`, which the platforms choose and the language bounds from below. -/
structure DataModel where
  longBits : ℕ
  le_longBits : 32 ≤ longBits

def isspace (c : UInt8) : Bool := c = 32 || (9 ≤ c && c ≤ 13)

def isdigit (c : UInt8) : Bool := 48 ≤ c && c ≤ 57

def numeral (ds : Bytes) : ℕ := ds.foldl (fun n c => 10 * n + (c.toNat - 48)) 0

/-- The sign and the digits that the conversion functions read. -/
def subject (s : Bytes) : Bool × Bytes :=
  match s.dropWhile isspace with
  | 45 :: s => (true, s.takeWhile isdigit)
  | 43 :: s => (false, s.takeWhile isdigit)
  | s => (false, s.takeWhile isdigit)

def strtoul (m : DataModel) (s : Bytes) : ℕ :=
  let (neg, ds) := subject s
  let v := numeral ds
  if v ≥ 2 ^ m.longBits then 2 ^ m.longBits - 1
  else if neg then (2 ^ m.longBits - v) % 2 ^ m.longBits
  else v

def strtol (m : DataModel) (s : Bytes) : ℤ :=
  let (neg, ds) := subject s
  let v := numeral ds
  if neg then max (-(v : ℤ)) (-2 ^ (m.longBits - 1))
  else min (v : ℤ) (2 ^ (m.longBits - 1) - 1)

/-- How a stream prints a non-negative number. -/
def decimal (n : ℕ) : Bytes :=
  if n = 0 then [48] else ((Nat.digits 10 n).map fun d => 48 + UInt8.ofNat d).reverse

section Digits
variable {ds : Bytes} {m : DataModel}

theorem toNat_digit {d : ℕ} (h : d < 10) : (48 + UInt8.ofNat d : UInt8).toNat = 48 + d := by
  have h48 : (48 : UInt8).toNat = 48 := rfl
  rw [UInt8.toNat_add, UInt8.toNat_ofNat', h48]
  omega

theorem isdigit_digit {d : ℕ} (h : d < 10) : isdigit (48 + UInt8.ofNat d) := by
  have hd := toNat_digit h
  simp only [isdigit, Bool.and_eq_true, decide_eq_true_eq, UInt8.le_iff_toNat_le, hd]
  exact ⟨by simp, by simp; omega⟩

/-- Digits printed most significant first, against the digits of a number least significant
first. -/
theorem numeral_reverse {l : List ℕ} (h : ∀ d ∈ l, d < 10) :
    numeral ((l.map fun d => 48 + UInt8.ofNat d).reverse) = Nat.ofDigits 10 l := by
  induction l with
  | nil => rfl
  | cons d l ih =>
    have hd := toNat_digit (h d (by simp))
    have ih := ih fun e he => h e (by simp [he])
    simp only [numeral] at ih ⊢
    rw [List.map_cons, List.reverse_cons, List.foldl_append, ih, Nat.ofDigits_cons]
    simp only [List.foldl_cons, List.foldl_nil, hd]
    simp
    omega

theorem numeral_decimal (n : ℕ) : numeral (decimal n) = n := by
  unfold decimal
  split
  case isTrue h => simp [numeral, h]
  case isFalse h =>
    rw [numeral_reverse fun d hd => Nat.digits_lt_base (by decide) hd]
    exact Nat.ofDigits_digits 10 n

theorem isdigit_of_mem_decimal {n : ℕ} {c : UInt8} (h : c ∈ decimal n) : isdigit c := by
  unfold decimal at h
  split at h
  case isTrue => simp_all [isdigit]
  case isFalse =>
    obtain ⟨d, hd, rfl⟩ := List.mem_map.mp (List.mem_reverse.mp h)
    exact isdigit_digit (Nat.digits_lt_base (by decide) hd)

theorem decimal_ne_nil (n : ℕ) : decimal n ≠ [] := by
  unfold decimal
  split
  case isTrue => simp
  case isFalse h => simpa using Nat.digits_ne_nil_iff_ne_zero.mpr h

/-- A numeral without its last digits. -/
theorem numeral_of_decimal_eq_append {n : ℕ} {front back : Bytes}
    (h : decimal n = front ++ back) : numeral front = n / 10 ^ back.length := by
  by_cases hn : n = 0
  · subst hn
    rw [Nat.zero_div]
    have hlength : front.length ≤ 1 := by
      have hone := congrArg List.length h
      rw [List.length_append, show (decimal 0).length = 1 from rfl] at hone
      omega
    rcases front with _ | ⟨c, front⟩
    · rfl
    · have hfront : front = [] := by simpa using hlength
      rw [List.cons_append] at h
      obtain ⟨rfl, -⟩ := List.cons.inj (show [48] = c :: (front ++ back) from h)
      rw [hfront]
      rfl
  · have hreverse : (Nat.digits 10 n).map (fun d => 48 + UInt8.ofNat d) =
        back.reverse ++ front.reverse := by
      unfold decimal at h
      rw [if_neg hn] at h
      rw [← List.reverse_append, ← h, List.reverse_reverse]
    have hfront : front =
        (((Nat.digits 10 n).drop back.length).map fun d => 48 + UInt8.ofNat d).reverse := by
      have hlength : back.length = back.reverse.length := List.length_reverse.symm
      rw [List.map_drop, hreverse, hlength, List.drop_left, List.reverse_reverse]
    have hdigits : ∀ d ∈ (Nat.digits 10 n).drop back.length, d < 10 := fun d hd =>
      Nat.digits_lt_base (by decide) (List.mem_of_mem_drop hd)
    rw [hfront, numeral_reverse hdigits, Nat.self_div_pow_eq_ofDigits_drop _ _ (by decide)]

theorem lt_decimal_length_iff {n : ℕ} (hn : n ≠ 0) (k : ℕ) :
    k < (decimal n).length ↔ 10 ^ k ≤ n := by
  unfold decimal
  rw [if_neg hn, List.length_reverse, List.length_map]
  exact Nat.lt_digits_length_iff (by decide) n

/-- Digits are read as they stand: no space to skip and no sign. -/
theorem subject_of_digits (h : ∀ c ∈ ds, isdigit c) : subject ds = (false, ds) := by
  have htake : ds.takeWhile isdigit = ds := List.takeWhile_eq_self_iff.mpr h
  cases ds with
  | nil => rfl
  | cons c ds =>
    have hc := h c (by simp)
    simp only [isdigit, Bool.and_eq_true, decide_eq_true_eq, UInt8.le_iff_toNat_le] at hc
    have hspace : isspace c = false := by
      simp only [isspace, Bool.or_eq_false_iff, Bool.and_eq_false_iff, decide_eq_false_iff_not,
        UInt8.le_iff_toNat_le, ← UInt8.toNat_inj]
      simp at hc ⊢
      omega
    unfold subject
    rw [List.dropWhile_cons, hspace]
    split
    case h_1 h => simp_all
    case h_2 h => simp_all
    case h_3 => simpa using htake

theorem strtoul_of_digits (h : ∀ c ∈ ds, isdigit c) (hv : numeral ds < 2 ^ 32) :
    strtoul m ds = numeral ds := by
  have hm : 2 ^ 32 ≤ 2 ^ m.longBits := Nat.pow_le_pow_right (by decide) m.le_longBits
  simp only [strtoul, subject_of_digits h]
  rw [if_neg (by omega)]
  simp

theorem strtol_of_digits (h : ∀ c ∈ ds, isdigit c) (hv : numeral ds < 2 ^ 31) :
    strtol m ds = numeral ds := by
  have hm : 2 ^ 31 ≤ 2 ^ (m.longBits - 1) :=
    Nat.pow_le_pow_right (by decide) (by have := m.le_longBits; omega)
  have hm : ((2 ^ 31 : ℕ) : ℤ) ≤ 2 ^ (m.longBits - 1) := by exact_mod_cast hm
  simp only [strtol, subject_of_digits h]
  simp
  omega

end Digits

section Fields
variable {p : UInt8 → Bool} {fields fields' rest rest' : Bytes} {m n : ℕ}

/-- A field ends where a byte begins that no field has. -/
theorem field_append_inj (h : fields ++ rest = fields' ++ rest') (hp : ∀ c ∈ fields, p c)
    (hp' : ∀ c ∈ fields', p c) (hrest : rest.head?.all fun c => !p c)
    (hrest' : rest'.head?.all fun c => !p c) : fields = fields' ∧ rest = rest' := by
  have hstop : ∀ s : Bytes, (s.head?.all fun c => !p c) → s.takeWhile p = [] := by
    intro s hs
    cases s with
    | nil => rfl
    | cons c s =>
      rw [List.head?_cons, Option.all_some] at hs
      exact List.takeWhile_cons_of_neg (by simpa using hs)
  have htake := congrArg (List.takeWhile p) h
  rw [List.takeWhile_append_of_pos hp, List.takeWhile_append_of_pos hp', hstop rest hrest,
    hstop rest' hrest', List.append_nil, List.append_nil] at htake
  subst htake
  exact ⟨rfl, List.append_cancel_left h⟩

theorem decimal_injective (h : decimal m = decimal n) : m = n := by
  rw [← numeral_decimal m, h, numeral_decimal]

theorem decimal_append_inj (h : decimal m ++ rest = decimal n ++ rest')
    (hrest : rest.head?.all fun c => !isdigit c) (hrest' : rest'.head?.all fun c => !isdigit c) :
    m = n ∧ rest = rest' := by
  have hfields := field_append_inj h (fun c hc => isdigit_of_mem_decimal hc)
    (fun c hc => isdigit_of_mem_decimal hc) hrest hrest'
  exact ⟨decimal_injective hfields.1, hfields.2⟩

/-- The same from the end of the text. -/
theorem append_decimal_inj (h : rest ++ decimal m = rest' ++ decimal n)
    (hrest : rest.getLast?.all fun c => !isdigit c)
    (hrest' : rest'.getLast?.all fun c => !isdigit c) : rest = rest' ∧ m = n := by
  have hreverse := congrArg List.reverse h
  rw [List.reverse_append, List.reverse_append] at hreverse
  rw [← List.head?_reverse] at hrest hrest'
  have hfields := field_append_inj hreverse
    (fun c hc => isdigit_of_mem_decimal (List.mem_reverse.mp hc))
    (fun c hc => isdigit_of_mem_decimal (List.mem_reverse.mp hc)) hrest hrest'
  exact ⟨List.reverse_injective hfields.2, decimal_injective (List.reverse_injective hfields.1)⟩

end Fields

end Camera3D.Text
