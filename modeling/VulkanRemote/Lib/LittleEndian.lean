import Mathlib.Algebra.Order.Ring.Nat
import Mathlib.Data.UInt
import Mathlib.Tactic.Ring

/-! Naturals as a fixed number of bytes, the least significant first. -/

namespace VkRemote.Lib

/-- The `w` low bytes of `n`. -/
def toLE : ℕ → ℕ → List UInt8
  | 0, _ => []
  | w + 1, n => UInt8.ofNat n :: toLE w (n / 256)

def ofLE : List UInt8 → ℕ
  | [] => 0
  | b :: bs => b.toNat + 256 * ofLE bs

@[simp] theorem length_toLE (w n : ℕ) : (toLE w n).length = w := by
  induction w generalizing n with
  | zero => rfl
  | succ w ih => rw [toLE, List.length_cons, ih]

/-- Reading back what was written, up to what the bytes cannot hold. -/
theorem ofLE_toLE_mod (w n : ℕ) : ofLE (toLE w n) = n % 256 ^ w := by
  induction w generalizing n with
  | zero => simp [toLE, ofLE, Nat.mod_one]
  | succ w ih =>
    have hlow : (UInt8.ofNat n).toNat = n % 256 := UInt8.toNat_ofNat'
    rw [toLE, ofLE, ih, hlow, pow_succ', Nat.mod_mul]

theorem ofLE_toLE {w n : ℕ} (h : n < 256 ^ w) : ofLE (toLE w n) = n := by
  rw [ofLE_toLE_mod, Nat.mod_eq_of_lt h]

theorem ofLE_toLE_u32 (v : UInt32) : UInt32.ofNat (ofLE (toLE 4 v.toNat)) = v := by
  have h : v.toNat < 256 ^ 4 := v.toNat_lt
  rw [ofLE_toLE h, UInt32.ofNat_toNat]

theorem ofLE_toLE_u64 (v : UInt64) : UInt64.ofNat (ofLE (toLE 8 v.toNat)) = v := by
  have h : v.toNat < 256 ^ 8 := v.toNat_lt
  rw [ofLE_toLE h, UInt64.ofNat_toNat]

theorem ofLE_lt (bs : List UInt8) : ofLE bs < 256 ^ bs.length := by
  induction bs with
  | nil => exact Nat.one_pos
  | cons b bs ih =>
    have hb := b.toNat_lt
    rw [ofLE, List.length_cons, pow_succ']
    omega

theorem ofLE_take_lt (n : ℕ) (bs : List UInt8) : ofLE (bs.take n) < 256 ^ n :=
  (ofLE_lt _).trans_le (Nat.pow_le_pow_right (by decide) (List.length_take_le n bs))

theorem toLE_ofLE (bs : List UInt8) : toLE bs.length (ofLE bs) = bs := by
  induction bs with
  | nil => rfl
  | cons b bs ih =>
    have hb := b.toNat_lt
    have hhigh : (b.toNat + 256 * ofLE bs) / 256 = ofLE bs := by omega
    have hlow : UInt8.ofNat (b.toNat + 256 * ofLE bs) = b := by
      rw [← UInt8.toNat_inj, UInt8.toNat_ofNat']
      omega
    rw [List.length_cons, ofLE, toLE, hlow, hhigh, ih]

end VkRemote.Lib
