import Mathlib.Data.Nat.Basic
import Mathlib.Tactic.Common

/-! The `while (p(i)) ++i;` scan with fuel, and sets of positions given as lists of intervals. -/

namespace VkRemote.Lib

/-- `while (p(i)) ++i;`, at most `fuel` times. -/
def skipWhile (p : ℕ → Prop) [DecidablePred p] : ℕ → ℕ → ℕ
  | 0, i => i
  | fuel + 1, i => if p i then skipWhile p fuel (i + 1) else i

variable {p : ℕ → Prop} [DecidablePred p]

theorem skipWhile_zero (i : ℕ) : skipWhile p 0 i = i := rfl

theorem skipWhile_succ (fuel i : ℕ) :
    skipWhile p (fuel + 1) i = if p i then skipWhile p fuel (i + 1) else i := rfl

theorem le_skipWhile (fuel i : ℕ) : i ≤ skipWhile p fuel i := by
  induction fuel generalizing i with
  | zero => exact le_rfl
  | succ fuel ih =>
    rw [skipWhile_succ]
    split
    · have := ih (i + 1)
      omega
    · exact le_rfl

theorem of_lt_skipWhile {fuel i k : ℕ} (hk : i ≤ k) (h : k < skipWhile p fuel i) : p k := by
  induction fuel generalizing i with
  | zero =>
    rw [skipWhile_zero] at h
    omega
  | succ fuel ih =>
    rw [skipWhile_succ] at h
    split at h
    · next hp =>
      rcases Nat.eq_or_lt_of_le hk with rfl | hlt
      · exact hp
      · exact ih hlt h
    · omega

/-- With fuel for every position `p` can hold at, the scan stops where `p` fails. -/
theorem not_skipWhile {fuel i stop : ℕ} (hstop : ∀ k, p k → k < stop)
    (hfuel : stop - i ≤ fuel) : ¬ p (skipWhile p fuel i) := by
  induction fuel generalizing i with
  | zero =>
    intro h
    have : i < stop := hstop i h
    omega
  | succ fuel ih =>
    rw [skipWhile_succ]
    split
    · exact ih (by omega)
    · next hp => exact hp

theorem skipWhile_le {fuel i stop : ℕ} (hstop : ∀ k, p k → k < stop) (hi : i ≤ stop) :
    skipWhile p fuel i ≤ stop := by
  induction fuel generalizing i with
  | zero => exact hi
  | succ fuel ih =>
    rw [skipWhile_succ]
    split
    · next hp => exact ih (hstop i hp)
    · exact hi

/-- Position `i` lies in one of the intervals, each given by its start and length. -/
def Covered (l : List (ℕ × ℕ)) (i : ℕ) : Prop := ∃ v ∈ l, v.1 ≤ i ∧ i < v.1 + v.2

@[simp] theorem covered_nil (i : ℕ) : ¬ Covered [] i := by simp [Covered]

@[simp] theorem covered_singleton {v : ℕ × ℕ} {i : ℕ} :
    Covered [v] i ↔ v.1 ≤ i ∧ i < v.1 + v.2 := by simp [Covered]

@[simp] theorem covered_append {l l' : List (ℕ × ℕ)} {i : ℕ} :
    Covered (l ++ l') i ↔ Covered l i ∨ Covered l' i := by
  simp only [Covered, List.mem_append, or_and_right, exists_or]

/-- The intervals follow one another from `start` to `stop`, and none of them is empty. -/
def Tiles : ℕ → List (ℕ × ℕ) → ℕ → Prop
  | start, [], stop => start = stop
  | start, v :: vs, stop => v.1 = start ∧ 0 < v.2 ∧ Tiles (start + v.2) vs stop

theorem Tiles.le {start stop : ℕ} {vs : List (ℕ × ℕ)} (h : Tiles start vs stop) : start ≤ stop := by
  induction vs generalizing start with
  | nil => exact Nat.le_of_eq h
  | cons v vs ih =>
    have := ih h.2.2
    omega

theorem Tiles.mem {start stop : ℕ} {vs : List (ℕ × ℕ)} (h : Tiles start vs stop) {v : ℕ × ℕ} (hv : v ∈ vs) :
    start ≤ v.1 ∧ 0 < v.2 ∧ v.1 + v.2 ≤ stop := by
  induction vs generalizing start with
  | nil => cases hv
  | cons w vs ih =>
    obtain ⟨hw, hpos, hrest⟩ := h
    rcases List.mem_cons.1 hv with rfl | hv
    · have := hrest.le
      omega
    · have := ih hrest hv
      omega

/-- The tiles moved along by `base`. -/
theorem Tiles.shift {start stop : ℕ} {vs : List (ℕ × ℕ)} (h : Tiles start vs stop) (base : ℕ) :
    Tiles (base + start) (vs.map fun v => (base + v.1, v.2)) (base + stop) := by
  induction vs generalizing start with
  | nil => exact congrArg (base + ·) h
  | cons v vs ih =>
    obtain ⟨rfl, hpos, hrest⟩ := h
    exact ⟨rfl, hpos, Nat.add_assoc base v.1 v.2 ▸ ih hrest⟩

end VkRemote.Lib
