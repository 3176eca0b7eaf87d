import Mathlib.Data.Nat.ModEq
import Mathlib.Tactic.Ring

/-! Byte-addressed memory and little-endian numbers stored in it. -/
namespace Camera3D.Memory

/-- A memory holds a byte at every address, inside or outside any mapping. -/
abbrev Mem := ℕ → UInt8

def read (m : Mem) (a n : ℕ) : List UInt8 := (List.range n).map fun i => m (a + i)

def write (m : Mem) (a : ℕ) (bs : List UInt8) : Mem :=
  fun x => if a ≤ x then (bs[x - a]?).getD (m x) else m x

@[simp] theorem length_read (m : Mem) (a n : ℕ) : (read m a n).length = n := by
  simp [read]

theorem read_congr {m m' : Mem} {a n : ℕ} (h : ∀ x, a ≤ x → x < a + n → m x = m' x) :
    read m a n = read m' a n := by
  refine List.map_congr_left fun i hi => h _ (Nat.le_add_right a i) ?_
  exact Nat.add_lt_add_left (List.mem_range.mp hi) a

theorem write_of_outside (m : Mem) {a x : ℕ} {bs : List UInt8}
    (h : x < a ∨ a + bs.length ≤ x) : write m a bs x = m x := by
  unfold write
  split_ifs with ha
  · rw [List.getElem?_eq_none (by omega), Option.getD_none]
  · rfl

theorem read_write_self (m : Mem) (a : ℕ) (bs : List UInt8) :
    read (write m a bs) a bs.length = bs := by
  apply List.ext_getElem (by simp)
  intro i hi hb
  simp [read, write, List.getElem?_eq_getElem hb]

/-- The `k` low bytes of `n`, least significant first. -/
def leBytes : ℕ → ℕ → List UInt8
  | 0, _ => []
  | k + 1, n => UInt8.ofNat n :: leBytes k (n / 256)

def ofLE : List UInt8 → ℕ
  | [] => 0
  | b :: bs => b.toNat + 256 * ofLE bs

@[simp] theorem length_leBytes (k n : ℕ) : (leBytes k n).length = k := by
  induction k generalizing n with
  | zero => rfl
  | succ k ih => simp [leBytes, ih]

theorem ofLE_leBytes {k n : ℕ} (h : n < 256 ^ k) : ofLE (leBytes k n) = n := by
  induction k generalizing n with
  | zero => simp only [leBytes, ofLE]; omega
  | succ k ih =>
    have hq : n / 256 < 256 ^ k := by
      rw [pow_succ] at h
      exact Nat.div_lt_of_lt_mul (by rwa [mul_comm])
    simp only [leBytes, ofLE, ih hq, UInt8.toNat_ofNat']
    omega

def load32 (m : Mem) (a : ℕ) : UInt32 := .ofNat (ofLE (read m a 4))

def load64 (m : Mem) (a : ℕ) : UInt64 := .ofNat (ofLE (read m a 8))

def store32 (m : Mem) (a : ℕ) (v : UInt32) : Mem := write m a (leBytes 4 v.toNat)

def store64 (m : Mem) (a : ℕ) (v : UInt64) : Mem := write m a (leBytes 8 v.toNat)

theorem read_zero (a n : ℕ) : read (fun _ => 0) a n = List.replicate n 0 := by
  simp [read, List.map_const']

theorem ofLE_zero (n : ℕ) : ofLE (List.replicate n 0) = 0 := by
  induction n with
  | zero => rfl
  | succ n ih => simp [List.replicate_succ, ofLE, ih]

@[simp] theorem load32_zero (a : ℕ) : load32 (fun _ => 0) a = 0 := by
  rw [load32, read_zero, ofLE_zero]
  rfl

@[simp] theorem load64_zero (a : ℕ) : load64 (fun _ => 0) a = 0 := by
  rw [load64, read_zero, ofLE_zero]
  rfl

theorem load32_congr {m m' : Mem} {a : ℕ} (h : ∀ x, a ≤ x → x < a + 4 → m x = m' x) :
    load32 m a = load32 m' a := by
  rw [load32, load32, read_congr h]

theorem load64_congr {m m' : Mem} {a : ℕ} (h : ∀ x, a ≤ x → x < a + 8 → m x = m' x) :
    load64 m a = load64 m' a := by
  rw [load64, load64, read_congr h]

theorem store32_of_outside (m : Mem) {a x : ℕ} (v : UInt32) (h : x < a ∨ a + 4 ≤ x) :
    store32 m a v x = m x := write_of_outside m (by simpa using h)

theorem store64_of_outside (m : Mem) {a x : ℕ} (v : UInt64) (h : x < a ∨ a + 8 ≤ x) :
    store64 m a v x = m x := write_of_outside m (by simpa using h)

@[simp] theorem load32_store32 (m : Mem) (a : ℕ) (v : UInt32) :
    load32 (store32 m a v) a = v := by
  have hr : read (store32 m a v) a 4 = leBytes 4 v.toNat := by
    simpa [store32] using read_write_self m a (leBytes 4 v.toNat)
  rw [load32, hr, ofLE_leBytes v.toNat_lt, UInt32.ofNat_toNat]

@[simp] theorem load64_store64 (m : Mem) (a : ℕ) (v : UInt64) :
    load64 (store64 m a v) a = v := by
  have hr : read (store64 m a v) a 8 = leBytes 8 v.toNat := by
    simpa [store64] using read_write_self m a (leBytes 8 v.toNat)
  rw [load64, hr, ofLE_leBytes v.toNat_lt, UInt64.ofNat_toNat]

theorem load32_store32_disjoint (m : Mem) {a b : ℕ} (v : UInt32) (h : a + 4 ≤ b ∨ b + 4 ≤ a) :
    load32 (store32 m b v) a = load32 m a :=
  load32_congr fun _ _ _ => store32_of_outside m v (by omega)

theorem load32_store64_disjoint (m : Mem) {a b : ℕ} (v : UInt64) (h : a + 4 ≤ b ∨ b + 8 ≤ a) :
    load32 (store64 m b v) a = load32 m a :=
  load32_congr fun _ _ _ => store64_of_outside m v (by omega)

theorem load64_store32_disjoint (m : Mem) {a b : ℕ} (v : UInt32) (h : a + 8 ≤ b ∨ b + 4 ≤ a) :
    load64 (store32 m b v) a = load64 m a :=
  load64_congr fun _ _ _ => store32_of_outside m v (by omega)

theorem load64_store64_disjoint (m : Mem) {a b : ℕ} (v : UInt64) (h : a + 8 ≤ b ∨ b + 8 ≤ a) :
    load64 (store64 m b v) a = load64 m a :=
  load64_congr fun _ _ _ => store64_of_outside m v (by omega)

end Camera3D.Memory
