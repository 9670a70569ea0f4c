import Mathlib.Data.UInt
import Mathlib.Data.Nat.Basic
import Mathlib.Data.Int.ModEq

/-! Rounding to multiples of a unit: on naturals, and as machine words do it when the unit is a power
of two. -/

namespace VkRemote.Lib

/-- The last multiple of the unit at or below `n`. -/
def roundDown (unit n : ℕ) : ℕ := n - n % unit

/-- The first one at or above `n`. -/
def roundUp (unit n : ℕ) : ℕ := roundDown unit (n + unit - 1)

section

variable {unit unit' n k : ℕ}

theorem roundDown_eq (unit n : ℕ) : roundDown unit n = n / unit * unit := by
  have := Nat.div_add_mod' n unit
  unfold roundDown
  omega

theorem roundDown_le (unit n : ℕ) : roundDown unit n ≤ n := Nat.sub_le _ _

theorem dvd_roundDown (unit n : ℕ) : unit ∣ roundDown unit n := Nat.dvd_sub_mod n

theorem lt_roundDown_add (h : 0 < unit) (n : ℕ) : n < roundDown unit n + unit := by
  have hmod := Nat.mod_lt n h
  have hle := Nat.mod_le n unit
  unfold roundDown
  omega

/-- Below `n` and below its rounding are the same for a multiple. -/
theorem le_roundDown_iff (h : unit ∣ k) : k ≤ roundDown unit n ↔ k ≤ n := by
  obtain ⟨c, rfl⟩ := h
  rcases Nat.eq_zero_or_pos unit with rfl | hpos
  · simp
  · rw [roundDown_eq, Nat.mul_comm unit c]
    constructor
    · exact fun h => h.trans (Nat.div_mul_le_self n unit)
    · intro h
      exact Nat.mul_le_mul_right unit ((Nat.le_div_iff_mul_le hpos).2 h)

/-- A coarser unit rounds further down. -/
theorem roundDown_le_roundDown (h : unit ∣ unit') (n : ℕ) : roundDown unit' n ≤ roundDown unit n :=
  (le_roundDown_iff (h.trans (dvd_roundDown unit' n))).2 (roundDown_le unit' n)

theorem roundDown_of_dvd (h : unit ∣ n) : roundDown unit n = n := by
  rw [roundDown, Nat.mod_eq_zero_of_dvd h, Nat.sub_zero]

/-- Multiples lie a unit apart. -/
theorem add_unit_le_of_dvd (hn : unit ∣ n) (hk : unit ∣ k) (hlt : n < k) : n + unit ≤ k := by
  obtain ⟨a, rfl⟩ := hn
  obtain ⟨b, rfl⟩ := hk
  have hab : a < b := Nat.lt_of_mul_lt_mul_left hlt
  exact Nat.mul_le_mul_left unit hab

theorem dvd_roundUp (unit n : ℕ) : unit ∣ roundUp unit n := dvd_roundDown unit _

theorem le_roundUp (h : 0 < unit) (n : ℕ) : n ≤ roundUp unit n := by
  have := lt_roundDown_add h (n + unit - 1)
  unfold roundUp
  omega

/-- Rounding up is adjoint to rounding down. -/
theorem roundUp_le_iff (h : 0 < unit) : roundUp unit n ≤ k ↔ n ≤ roundDown unit k := by
  constructor
  · intro hle
    exact (le_roundUp h n).trans ((le_roundDown_iff (dvd_roundUp unit n)).2 hle)
  · intro hle
    by_contra hgt
    -- the multiple above `k` is a unit above the one below it, which is out of reach
    have hlt : roundDown unit k < roundUp unit n := (roundDown_le unit k).trans_lt (Nat.not_le.1 hgt)
    have hstep := add_unit_le_of_dvd (dvd_roundDown unit k) (dvd_roundUp unit n) hlt
    have := roundDown_le unit (n + unit - 1)
    unfold roundUp at hstep
    omega

end

theorem one_le_of_two_pow {unit : UInt64} {k : ℕ} (hunit : unit.toNat = 2 ^ k) : 1 ≤ unit := by
  rw [UInt64.le_iff_toNat_le, hunit]
  exact Nat.one_le_two_pow

theorem toNat_sub_one {unit : UInt64} (h : 1 ≤ unit) : (unit - 1).toNat = unit.toNat - 1 :=
  UInt64.toNat_sub_of_le unit 1 h

/-- `value & (unit - 1)`. -/
theorem toNat_and_sub_one {unit : UInt64} {k : ℕ} (hunit : unit.toNat = 2 ^ k) (value : UInt64) :
    (value &&& (unit - 1)).toNat = value.toNat % unit.toNat := by
  rw [UInt64.toNat_and, toNat_sub_one (one_le_of_two_pow hunit), hunit, Nat.and_two_pow_sub_one_eq_mod]

/-- A power of two that fits in a word divides the number of words. -/
theorem dvd_word_of_two_pow {unit : UInt64} {k : ℕ} (hunit : unit.toNat = 2 ^ k) : unit.toNat ∣ 2 ^ 64 := by
  have hlt : 2 ^ k < 2 ^ 64 := hunit ▸ unit.toNat_lt
  rw [hunit]
  exact Nat.pow_dvd_pow 2 ((Nat.pow_lt_pow_iff_right Nat.one_lt_two).1 hlt).le

/-- However the subtraction wraps, `(residue - address) & (unit - 1)` takes `address` to the residue. -/
theorem modEq_add_and_sub {unit : UInt64} {k : ℕ} (hunit : unit.toNat = 2 ^ k) (address residue : UInt64) :
    address.toNat + ((residue - address) &&& (unit - 1)).toNat ≡ residue.toNat [MOD unit.toNat] := by
  have haddress := address.toNat_lt
  calc address.toNat + ((residue - address) &&& (unit - 1)).toNat
      ≡ address.toNat + (2 ^ 64 - address.toNat + residue.toNat) [MOD unit.toNat] := by
        rw [toNat_and_sub_one hunit, UInt64.toNat_sub, Nat.mod_mod_of_dvd _ (dvd_word_of_two_pow hunit)]
        exact (Nat.mod_modEq _ _).add_left _
    _ = 2 ^ 64 + residue.toNat := by omega
    _ ≡ residue.toNat [MOD unit.toNat] := by
        simpa using (Nat.modEq_zero_iff_dvd.2 (dvd_word_of_two_pow hunit)).add_right residue.toNat

/-- `value & ~(unit - 1)`. -/
theorem toNat_and_not_sub_one {value unit : UInt64} {k : ℕ} (hunit : unit.toNat = 2 ^ k) :
    (value &&& ~~~(unit - 1)).toNat = roundDown unit.toNat value.toNat := by
  have hle : (1 : UInt64) ≤ unit := one_le_of_two_pow hunit
  have hlt : 2 ^ k - 1 < 2 ^ 64 := by
    have := unit.toNat_lt
    omega
  have hmask : (~~~(unit - 1)).toNat = 2 ^ 64 - (2 ^ k - 1 + 1) := by
    rw [UInt64.toNat_not, toNat_sub_one hle, hunit]
    simp only [UInt64.size]
    omega
  rw [UInt64.toNat_and, hmask, roundDown_eq, hunit]
  refine Nat.eq_of_testBit_eq fun i => ?_
  rw [Nat.testBit_and, Nat.testBit_two_pow_sub_succ hlt, Nat.testBit_two_pow_sub_one,
    Nat.testBit_mul_two_pow, Nat.testBit_div_two_pow]
  rcases Nat.lt_or_ge i k with hi | hi
  · simp [hi]
  · rcases Nat.lt_or_ge i 64 with h64 | h64
    · simp [hi, h64, Nat.not_lt.2 hi]
    · have hz : value.toNat.testBit i = false :=
        Nat.testBit_lt_two_pow (value.toNat_lt.trans_le (Nat.pow_le_pow_right (by decide) h64))
      simp [hi, hz]

end VkRemote.Lib
