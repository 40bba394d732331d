import Mathlib.Algebra.BigOperators.Group.List.Basic
import Mathlib.Data.Nat.Basic
import Mathlib.Data.Nat.Bitwise
import Mathlib.Tactic.Ring

/-!
# Packed structures

Little-endian bytes, and bit fields packed one after the other from the lowest
bit up, as a compiler lays out a packed structure on a little-endian machine; and the
flags and masks of a word.

## What is proved

* `ofLE_toLE` — a number is read back from its bytes.
* `unpack_pack` — every field is read back, cut to its width.
* `readLE_append` — a number is read where it was written, whatever stands
  before and after it.
* `and_flag`, `and_flag_of_lt`, `and_mask_of_lt` — what a flag and a mask are to a word.
-/

namespace Packed

/-! ### Bytes -/

/-- The `k` low bytes of `n`, lowest first. -/
def toLE : ℕ → ℕ → List UInt8
  | 0, _ => []
  | k + 1, n => UInt8.ofNat n :: toLE k (n / 256)

/-- The number whose bytes are `bs`, lowest first. -/
def ofLE : List UInt8 → ℕ
  | [] => 0
  | b :: bs => b.toNat + 256 * ofLE bs

@[simp] theorem length_toLE (k n : ℕ) : (toLE k n).length = k := by
  induction k generalizing n with
  | zero => rfl
  | succ k ih => rw [toLE, List.length_cons, ih]

theorem ofLE_toLE (k n : ℕ) : ofLE (toLE k n) = n % 256 ^ k := by
  induction k generalizing n with
  | zero => simp [toLE, ofLE, Nat.mod_one]
  | succ k ih =>
    rw [toLE, ofLE, ih, UInt8.toNat_ofNat', pow_succ' 256 k]
    exact Nat.mod_mul.symm

/-- The number of `k` bytes at offset `o`. -/
def readLE (o k : ℕ) (bs : List UInt8) : ℕ := ofLE ((bs.drop o).take k)

theorem readLE_append {o k : ℕ} (pre post : List UInt8) (n : ℕ) (ho : pre.length = o) :
    readLE o k (pre ++ toLE k n ++ post) = n % 256 ^ k := by
  rw [readLE, List.append_assoc, List.drop_left' ho, List.take_left' (length_toLE k n), ofLE_toLE]

/-- The number whose fields, each a width and a value, follow one another from the
lowest bit up. A value is cut to its width. -/
def pack : List (ℕ × ℕ) → ℕ
  | [] => 0
  | (w, v) :: fs => v % 2 ^ w + 2 ^ w * pack fs

/-- The fields of a number, of the given widths from the lowest bit up. -/
def unpack : List ℕ → ℕ → List ℕ
  | [], _ => []
  | w :: ws, n => n % 2 ^ w :: unpack ws (n / 2 ^ w)

/-- The packed number fits in the sum of the widths. -/
theorem pack_lt (fs : List (ℕ × ℕ)) : pack fs < 2 ^ (fs.map Prod.fst).sum := by
  induction fs with
  | nil => simp [pack]
  | cons f fs ih =>
    obtain ⟨w, v⟩ := f
    have hv : v % 2 ^ w < 2 ^ w := Nat.mod_lt _ (Nat.two_pow_pos w)
    rw [List.map_cons, List.sum_cons, pow_add]
    calc v % 2 ^ w + 2 ^ w * pack fs
      _ < 2 ^ w + 2 ^ w * pack fs := Nat.add_lt_add_right hv _
      _ = 2 ^ w * (pack fs + 1) := by ring
      _ ≤ 2 ^ w * 2 ^ (fs.map Prod.fst).sum := Nat.mul_le_mul_left _ ih

/-- **Every field is read back**, cut to its width. -/
theorem unpack_pack (fs : List (ℕ × ℕ)) :
    unpack (fs.map Prod.fst) (pack fs) = fs.map fun f => f.2 % 2 ^ f.1 := by
  induction fs with
  | nil => rfl
  | cons f fs ih =>
    obtain ⟨w, v⟩ := f
    have hv : v % 2 ^ w < 2 ^ w := Nat.mod_lt _ (Nat.two_pow_pos w)
    have hlow : (v % 2 ^ w + 2 ^ w * pack fs) % 2 ^ w = v % 2 ^ w := by
      rw [Nat.add_mul_mod_self_left, Nat.mod_mod]
    have hhigh : (v % 2 ^ w + 2 ^ w * pack fs) / 2 ^ w = pack fs := by
      rw [Nat.add_mul_div_left _ _ (Nat.two_pow_pos w), Nat.div_eq_of_lt hv, Nat.zero_add]
    simp only [List.map_cons, pack, unpack, hlow, hhigh, ih]

/-! ### Flags and masks -/

theorem and_or_distrib (a b c : UInt32) : a &&& (b ||| c) = (a &&& b) ||| (a &&& c) := by
  apply UInt32.toBitVec_inj.mp
  simp [BitVec.and_or_distrib_left]

theorem or_and_distrib (a b c : UInt32) : (a ||| b) &&& c = (a &&& c) ||| (b &&& c) := by
  apply UInt32.toBitVec_inj.mp
  simp [BitVec.and_or_distrib_right]

theorem toNat_and_flag {flag : UInt32} {k : ℕ} (hflag : flag.toNat = 2 ^ k) (a : UInt32) :
    (a &&& flag).toNat = 2 ^ k * (a.toNat.testBit k).toNat := by
  rw [UInt32.toNat_and, hflag, Nat.and_comm, Nat.two_pow_and]

/-- A word has all of a flag or nothing of it. -/
theorem and_flag {flag : UInt32} {k : ℕ} (hflag : flag.toNat = 2 ^ k) (a : UInt32) :
    a &&& flag = if a &&& flag ≠ 0 then flag else 0 := by
  have hand := toNat_and_flag hflag a
  cases hbit : a.toNat.testBit k with
  | false =>
    have hzero : a &&& flag = 0 := UInt32.toNat_inj.mp (by rw [hand, hbit]; rfl)
    rw [hzero, if_neg (not_not.mpr rfl)]
  | true =>
    have hself : a &&& flag = flag :=
      UInt32.toNat_inj.mp (by rw [hand, hbit, hflag]; exact Nat.mul_one _)
    have hne : flag ≠ 0 := by
      rintro rfl
      exact absurd hflag (Nat.two_pow_pos k).ne
    rw [hself, if_pos hne]

/-- A word below a flag has nothing of it. -/
theorem and_flag_of_lt {flag : UInt32} {k : ℕ} (hflag : flag.toNat = 2 ^ k) {a : UInt32}
    (h : a.toNat < 2 ^ k) : a &&& flag = 0 := by
  apply UInt32.toNat_inj.mp
  rw [toNat_and_flag hflag, Nat.testBit_lt_two_pow h]
  rfl

theorem and_mask_of_lt {mask : UInt32} {k : ℕ} (hmask : mask.toNat = 2 ^ k - 1) {a : UInt32}
    (h : a.toNat < 2 ^ k) : a &&& mask = a := by
  apply UInt32.toNat_inj.mp
  rw [UInt32.toNat_and, hmask, Nat.and_two_pow_sub_one_eq_mod, Nat.mod_eq_of_lt h]

end Packed
