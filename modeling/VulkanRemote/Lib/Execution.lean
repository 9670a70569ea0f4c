import Mathlib.Order.Nat
import VulkanRemote.Lib.Run

/-! Infinite executions of a labelled transition system. An execution may stand still, so a
finite run is the execution that stops there. What every step preserves holds at every moment,
what every step only grows is ordered along the execution, and a count that never stays where it
is passes every bound. -/

namespace VkRemote.Lib

variable {σ ε : Type*}

structure Execution (step : σ → ε → Option σ) (s : σ) (run : ℕ → σ) : Prop where
  start : run 0 = s
  next : ∀ n, run (n + 1) = run n ∨ ∃ e, step (run n) e = some (run (n + 1))

theorem Execution.reachable {step : σ → ε → Option σ} {s : σ} {run : ℕ → σ}
    (h : Execution step s run) (n : ℕ) : Reachable step s (run n) := by
  induction n with
  | zero => exact h.start ▸ ⟨[], .nil⟩
  | succ n ih =>
    obtain ⟨es, hes⟩ := ih
    rcases h.next n with heq | ⟨e, he⟩
    · exact heq ▸ ⟨es, hes⟩
    · exact ⟨es ++ [e], hes.snoc he⟩

theorem Execution.invariant {step : σ → ε → Option σ} {s : σ} {run : ℕ → σ} {I : σ → Prop}
    (h : Execution step s run) (init : I s)
    (pres : ∀ s₁ e s₂, I s₁ → step s₁ e = some s₂ → I s₂) (n : ℕ) : I (run n) := by
  obtain ⟨_, hrun⟩ := h.reachable n
  exact hrun.invariant init pres

/-- A finite run, followed by standing still. -/
def thenStill (step : σ → ε → Option σ) (s : σ) (es : List ε) (n : ℕ) : σ :=
  (runList step s (es.take n)).getD s

theorem thenStill_of_le (step : σ → ε → Option σ) (s : σ) {es : List ε} {n : ℕ} (h : es.length ≤ n) :
    thenStill step s es n = thenStill step s es es.length := by
  rw [thenStill, thenStill, List.take_of_length_le h, List.take_length]

theorem execution_thenStill {step : σ → ε → Option σ} {s s' : σ} {es : List ε}
    (h : runList step s es = some s') : Execution step s (thenStill step s es) := by
  refine ⟨rfl, fun n => ?_⟩
  rcases Nat.lt_or_ge n es.length with hlt | hge
  · -- the whole list runs, so its first `n + 1` events do
    have htake : es.take (n + 1) = es.take n ++ [es[n]] := List.take_succ_eq_append_getElem hlt
    have hall : (runList step s (es.take (n + 1))).isSome := by
      rw [← List.take_append_drop (n + 1) es, runList_append] at h
      exact Option.isSome_of_isSome_bind (Option.isSome_of_eq_some h)
    rw [htake, runList_append] at hall
    obtain ⟨s₁, hs₁⟩ := Option.isSome_iff_exists.1 (Option.isSome_of_isSome_bind hall)
    rw [hs₁] at hall
    obtain ⟨s₂, hs₂⟩ := Option.isSome_iff_exists.1 hall
    refine .inr ⟨es[n], ?_⟩
    have hstep : step s₁ es[n] = some s₂ := by simpa [runList, Option.bind_eq_some_iff] using hs₂
    have hnext : thenStill step s es (n + 1) = s₂ := by
      rw [thenStill, htake, runList_append, hs₁]
      exact congrArg (Option.getD · s) hs₂
    rw [hnext, thenStill, hs₁]
    exact hstep
  · exact .inl (by rw [thenStill_of_le step s hge, thenStill_of_le step s (hge.trans (Nat.le_succ n))])

/-- A preorder that every step follows orders the moments of an execution. -/
theorem Execution.mono {step : σ → ε → Option σ} {s : σ} {run : ℕ → σ} {R : σ → σ → Prop}
    (h : Execution step s run) (refl : ∀ s₁, R s₁ s₁)
    (trans : ∀ s₁ s₂ s₃, R s₁ s₂ → R s₂ s₃ → R s₁ s₃)
    (grows : ∀ n e, step (run n) e = some (run (n + 1)) → R (run n) (run (n + 1)))
    {n m : ℕ} (hnm : n ≤ m) : R (run n) (run m) := by
  induction m, hnm using Nat.le_induction with
  | base => exact refl _
  | succ m _ ih =>
    rcases h.next m with heq | ⟨e, he⟩
    · exact heq.symm ▸ ih
    · exact trans _ _ _ ih (grows m e he)

/-- If the count always moves on while it is at most `k`, it gets past `k`. -/
theorem passes {f : ℕ → ℕ} {n k : ℕ} (h : ∀ m, n ≤ m → f m ≤ k → ∃ m', m ≤ m' ∧ f m < f m') :
    ∃ m, n ≤ m ∧ k < f m := by
  induction k with
  | zero =>
    by_cases h0 : f n = 0
    · obtain ⟨m, hm, hlt⟩ := h n le_rfl h0.le
      exact ⟨m, hm, h0 ▸ hlt⟩
    · exact ⟨n, le_rfl, Nat.pos_of_ne_zero h0⟩
  | succ k ih =>
    obtain ⟨m, hm, hlt⟩ := ih fun m hm hle => h m hm (Nat.le_succ_of_le hle)
    rcases Nat.lt_or_ge (k + 1) (f m) with hk | hk
    · exact ⟨m, hm, hk⟩
    · obtain ⟨m', hm', hlt'⟩ := h m hm hk
      exact ⟨m', hm.trans hm', Nat.lt_of_le_of_lt hlt hlt'⟩

end VkRemote.Lib
