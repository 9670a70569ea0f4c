import Mathlib.Logic.Basic
import Mathlib.Data.List.Basic
import Mathlib.Data.List.Induction

/-! Runs of a labelled transition system given by a partial step function, and
the two induction rules every invariant in this development is an instance of:
one for a step lemma that needs nothing of the label, one for a step lemma that
only holds where a condition on the state and the label does. -/

namespace VkRemote.Lib

variable {σ ε : Type*}

/-- `Run step s evs s'`: the labels `evs` lead from `s` to `s'`, every one enabled. -/
inductive Run (step : σ → ε → Option σ) (s : σ) : List ε → σ → Prop
  | nil : Run step s [] s
  | snoc {evs : List ε} {s₁ s₂ : σ} {e : ε} :
      Run step s evs s₁ → step s₁ e = some s₂ → Run step s (evs ++ [e]) s₂

/-- Every step of the run meets `C` in the state it starts from. -/
inductive RunWhere (step : σ → ε → Option σ) (C : σ → ε → Prop) (s : σ) : List ε → σ → Prop
  | nil : RunWhere step C s [] s
  | snoc {evs : List ε} {s₁ s₂ : σ} {e : ε} :
      RunWhere step C s evs s₁ → C s₁ e → step s₁ e = some s₂ →
      RunWhere step C s (evs ++ [e]) s₂

def Reachable (step : σ → ε → Option σ) (s s' : σ) : Prop :=
  ∃ evs, Run step s evs s'

theorem Run.invariant {step : σ → ε → Option σ} {s s' : σ} {evs : List ε} {I : σ → Prop}
    (h : Run step s evs s') (init : I s)
    (pres : ∀ s₁ e s₂, I s₁ → step s₁ e = some s₂ → I s₂) : I s' := by
  induction h with
  | nil => exact init
  | snoc _ hs ih => exact pres _ _ _ ih hs

theorem RunWhere.invariant {step : σ → ε → Option σ} {C : σ → ε → Prop} {s s' : σ}
    {evs : List ε} {I : σ → Prop} (h : RunWhere step C s evs s') (init : I s)
    (pres : ∀ s₁ e s₂, I s₁ → C s₁ e → step s₁ e = some s₂ → I s₂) : I s' := by
  induction h with
  | nil => exact init
  | snoc _ hc hs ih => exact pres _ _ _ ih hc hs

theorem RunWhere.run {step : σ → ε → Option σ} {C : σ → ε → Prop} {s s' : σ}
    {evs : List ε} (h : RunWhere step C s evs s') : Run step s evs s' := by
  induction h with
  | nil => exact .nil
  | snoc _ _ hs ih => exact .snoc ih hs

theorem Run.unique {step : σ → ε → Option σ} {s s₁ s₂ : σ} {es : List ε}
    (h₁ : Run step s es s₁) (h₂ : Run step s es s₂) : s₁ = s₂ := by
  induction h₁ generalizing s₂ with
  | nil =>
    generalize hes : ([] : List ε) = es at h₂
    cases h₂ with
    | nil => rfl
    | snoc _ _ => simp at hes
  | @snoc evs _ _ e _ hs ih =>
    generalize hes : evs ++ [e] = es at h₂
    cases h₂ with
    | nil => simp at hes
    | snoc hr hs' =>
      obtain ⟨rfl, rfl⟩ := List.append_inj' hes rfl |>.imp_right List.singleton_inj.1
      obtain rfl := ih hr
      exact Option.some.inj (hs.symm.trans hs')

/-- A run meets the condition up to its last step if it does before and the last step does. -/
theorem runWhere_snoc_iff {step : σ → ε → Option σ} {C : σ → ε → Prop} {s s₁ s₂ : σ} {es : List ε}
    {e : ε} (h : Run step s es s₁) (hs : step s₁ e = some s₂) :
    RunWhere step C s (es ++ [e]) s₂ ↔ RunWhere step C s es s₁ ∧ C s₁ e := by
  refine ⟨fun hr => ?_, fun ⟨hr, hc⟩ => hr.snoc hc hs⟩
  generalize hes : es ++ [e] = es' at hr
  cases hr with
  | nil => simp at hes
  | snoc hr hc hs' =>
    obtain ⟨rfl, rfl⟩ := List.append_inj' hes rfl |>.imp_right List.singleton_inj.1
    obtain rfl := h.unique hr.run
    exact ⟨hr, hc⟩

/-- Two conditions that agree wherever an invariant holds are met by the same runs, if the steps that meet
the second one keep the invariant. -/
theorem runWhere_iff_of_invariant {step : σ → ε → Option σ} {C D : σ → ε → Prop} {J : σ → Prop} {s s' : σ}
    {es : List ε} (h : Run step s es s') (init : J s)
    (pres : ∀ s₁ e s₂, J s₁ → D s₁ e → step s₁ e = some s₂ → J s₂)
    (agree : ∀ s₁ e s₂, J s₁ → step s₁ e = some s₂ → (C s₁ e ↔ D s₁ e)) :
    RunWhere step C s es s' ↔ RunWhere step D s es s' := by
  induction h with
  | nil => exact iff_of_true .nil .nil
  | snoc hrun hs ih =>
    rw [runWhere_snoc_iff hrun hs, runWhere_snoc_iff hrun hs, ih]
    exact and_congr_right fun hd => agree _ _ _ (hd.invariant init pres) hs

theorem RunWhere.of_prefix {step : σ → ε → Option σ} {C : σ → ε → Prop} {s s₁ s₂ : σ} {es es' : List ε}
    (h : RunWhere step C s es s₂) (hpre : es' <+: es) (hr : Run step s es' s₁) :
    RunWhere step C s es' s₁ := by
  induction h generalizing es' s₁ with
  | nil =>
    obtain rfl := List.prefix_nil.1 hpre
    exact hr.unique .nil ▸ .nil
  | snoc hrun hc hs ih =>
    rcases List.prefix_concat_iff.1 hpre with rfl | hpre
    · exact hr.unique (hrun.run.snoc hs) ▸ hrun.snoc hc hs
    · exact ih hpre hr

/-- The executable form of a run: fold the step function over the labels. -/
def runList (step : σ → ε → Option σ) : σ → List ε → Option σ
  | s, [] => some s
  | s, e :: es => (step s e).bind fun s' => runList step s' es

theorem Run.append {step : σ → ε → Option σ} {s s₁ s₂ : σ} {es es' : List ε}
    (h : Run step s es s₁) (h' : Run step s₁ es' s₂) : Run step s (es ++ es') s₂ := by
  induction h' with
  | nil => simpa using h
  | snoc _ hs ih =>
    rw [← List.append_assoc]
    exact .snoc ih hs

theorem run_of_runList {step : σ → ε → Option σ} {s s' : σ} {es : List ε}
    (h : runList step s es = some s') : Run step s es s' := by
  induction es generalizing s with
  | nil =>
    obtain rfl : s = s' := by simpa [runList] using h
    exact .nil
  | cons e es ih =>
    obtain ⟨s₁, hs, hr⟩ : ∃ s₁, step s e = some s₁ ∧ runList step s₁ es = some s' := by
      simpa [runList, Option.bind_eq_some_iff] using h
    have hone : Run step s [e] s₁ := by simpa using Run.snoc .nil hs
    simpa using hone.append (ih hr)

theorem runList_append (step : σ → ε → Option σ) (s : σ) (es es' : List ε) :
    runList step s (es ++ es') = (runList step s es).bind fun s' => runList step s' es' := by
  induction es generalizing s with
  | nil => rfl
  | cons e es ih => simp [runList, ih, Option.bind_assoc]

/-- An evaluated run meets a condition that each of its prefixes leads up to. -/
theorem runWhere_of_runList {step : σ → ε → Option σ} {C : σ → ε → Prop} {s s' : σ} {es : List ε}
    (h : runList step s es = some s')
    (hc : ∀ k e s₁, es[k]? = some e → runList step s (es.take k) = some s₁ → C s₁ e) :
    RunWhere step C s es s' := by
  induction es using List.reverseRecOn generalizing s' with
  | nil =>
    obtain rfl : s = s' := by simpa [runList] using h
    exact .nil
  | append_singleton es e ih =>
    rw [runList_append, Option.bind_eq_some_iff] at h
    obtain ⟨s₁, hs₁, hstep⟩ := h
    have hstep' : step s₁ e = some s' := by simpa [runList, Option.bind_eq_some_iff] using hstep
    refine .snoc (ih hs₁ fun k e' s₂ he' hk => ?_) (hc es.length e s₁ (by simp) (by simpa using hs₁))
      hstep'
    have hlt := (List.getElem?_eq_some_iff.1 he').1
    exact hc k e' s₂ (by rw [List.getElem?_append_left hlt, he'])
      (by rwa [List.take_append_of_le_length (Nat.le_of_lt hlt)])

/-- The step function cut to the steps that meet `C`: a run of it can be evaluated. -/
def checked (step : σ → ε → Option σ) (C : σ → ε → Prop) [∀ s e, Decidable (C s e)]
    (s : σ) (e : ε) : Option σ :=
  if C s e then step s e else none

theorem runWhere_of_checked {step : σ → ε → Option σ} {C : σ → ε → Prop}
    [∀ s e, Decidable (C s e)] {s s' : σ} {es : List ε}
    (h : runList (checked step C) s es = some s') : RunWhere step C s es s' := by
  have hrun := run_of_runList h
  clear h
  induction hrun with
  | nil => exact .nil
  | snoc _ hs ih =>
    unfold checked at hs
    split at hs
    · next hc => exact .snoc ih hc hs
    · cases hs

end VkRemote.Lib
