import Mathlib.Algebra.BigOperators.Group.List.Basic
import Mathlib.Algebra.Order.Group.Abs
import Mathlib.Algebra.Order.Group.Int
import Mathlib.Tactic.Ring

/-! Amounts that are counted in whole units. What makes no whole unit is kept for the next amount; division
truncates toward zero, so what is kept may be negative. -/

namespace VkRemote.Lib

structure Carry where
  whole : ℤ := 0
  rest : ℤ := 0
  deriving DecidableEq

namespace Carry

def put (unit : ℤ) (c : Carry) (amount : ℤ) : Carry where
  whole := c.whole + (c.rest + amount).tdiv unit
  rest := (c.rest + amount).tmod unit

/-- Everything that was put in. -/
def content (unit : ℤ) (c : Carry) : ℤ := unit * c.whole + c.rest

variable {unit amount : ℤ} {c : Carry}

theorem content_put (unit : ℤ) (c : Carry) (amount : ℤ) :
    (c.put unit amount).content unit = c.content unit + amount := by
  have hsplit := Int.mul_tdiv_add_tmod (c.rest + amount) unit
  calc (c.put unit amount).content unit
      = unit * c.whole + (unit * (c.rest + amount).tdiv unit + (c.rest + amount).tmod unit) := by
        unfold content put
        ring
    _ = c.content unit + amount := by
        rw [hsplit]
        unfold content
        ring

theorem abs_rest_put_lt (h : 0 < unit) (c : Carry) (amount : ℤ) : |(c.put unit amount).rest| < unit :=
  abs_lt.2 ⟨Int.lt_tmod_of_pos _ h, Int.tmod_lt_of_pos _ h⟩

/-- Nothing comes of nothing. -/
theorem put_zero (h : |c.rest| < unit) : c.put unit 0 = c := by
  have hpos : 0 < unit := (abs_nonneg _).trans_lt h
  have hmod : c.rest.tmod unit = c.rest := by
    rcases Int.le_total 0 c.rest with hrest | hrest
    · exact Int.tmod_eq_of_lt hrest (lt_of_abs_lt h)
    · have hneg : (-c.rest).tmod unit = -c.rest :=
        Int.tmod_eq_of_lt (Int.neg_nonneg_of_nonpos hrest) (neg_lt_of_abs_lt h |> Int.neg_lt_of_neg_lt)
      rwa [Int.neg_tmod, Int.neg_inj] at hneg
  have hdiv : c.rest.tdiv unit = 0 := by
    have hsplit := Int.mul_tdiv_add_tmod c.rest unit
    rw [hmod, add_eq_right] at hsplit
    exact (Int.mul_eq_zero.1 hsplit).resolve_left hpos.ne'
  unfold put
  rw [Int.add_zero, hdiv, hmod, Int.add_zero]

end Carry
end VkRemote.Lib
