import Mathlib.Data.List.Nodup
import Mathlib.Logic.Function.Basic

/-! A ledger of what is kept under keys: what comes in, and what goes out and how. If no key is used twice, the
postings about a key are its life: it came in, and it may have gone out. -/

namespace VkRemote.Lib

variable {κ α η : Type*}

inductive Posting (κ α η : Type*)
  | entered (key : κ) (item : α)
  | left (key : κ) (item : α) (how : η)

def Posting.key : Posting κ α η → κ
  | entered key _ => key
  | left key _ _ => key

section

variable [DecidableEq κ]

/-- What comes in finds its key free, and what goes out was there. -/
inductive Posts : (κ → Option α) → List (Posting κ α η) → (κ → Option α) → Prop
  | nil (s : κ → Option α) : Posts s [] s
  | enter {s s' : κ → Option α} {k : κ} {a : α} {log : List (Posting κ α η)} :
      s k = none → Posts (Function.update s k (some a)) log s' → Posts s (.entered k a :: log) s'
  | leave {s s' : κ → Option α} {k : κ} {a : α} {how : η} {log : List (Posting κ α η)} :
      s k = some a → Posts (Function.update s k none) log s' → Posts s (.left k a how :: log) s'

theorem Posts.append {s s' s'' : κ → Option α} {log log' : List (Posting κ α η)} (h : Posts s log s')
    (h' : Posts s' log' s'') : Posts s (log ++ log') s'' := by
  induction h with
  | nil => exact h'
  | enter hk _ ih => exact .enter hk (ih h')
  | leave hk _ ih => exact .leave hk (ih h')

theorem Posts.split {s s'' : κ → Option α} {log log' : List (Posting κ α η)} (h : Posts s (log ++ log') s'') :
    ∃ s', Posts s log s' ∧ Posts s' log' s'' := by
  induction log generalizing s with
  | nil => exact ⟨s, .nil s, h⟩
  | cons p log ih =>
    cases h with
    | enter hk h =>
      obtain ⟨s', hbefore, hafter⟩ := ih h
      exact ⟨s', .enter hk hbefore, hafter⟩
    | leave hk h =>
      obtain ⟨s', hbefore, hafter⟩ := ih h
      exact ⟨s', .leave hk hbefore, hafter⟩

/-- A ledger leads to one stock only. -/
theorem Posts.unique {s s₁ s₂ : κ → Option α} {log : List (Posting κ α η)} (h₁ : Posts s log s₁)
    (h₂ : Posts s log s₂) : s₁ = s₂ := by
  induction h₁ with
  | nil => cases h₂; rfl
  | enter _ _ ih => cases h₂ with | enter _ h₂ => exact ih h₂
  | leave _ _ ih => cases h₂ with | leave _ h₂ => exact ih h₂

/-- The keys that were given out, in their order. -/
def enteredKeys (log : List (Posting κ α η)) : List κ :=
  log.filterMap fun
    | .entered k _ => some k
    | .left _ _ _ => none

omit [DecidableEq κ] in
@[simp] theorem enteredKeys_append (log log' : List (Posting κ α η)) :
    enteredKeys (log ++ log') = enteredKeys log ++ enteredKeys log' := List.filterMap_append

omit [DecidableEq κ] in
theorem mem_enteredKeys {log : List (Posting κ α η)} {k : κ} : k ∈ enteredKeys log ↔ ∃ a, .entered k a ∈ log := by
  unfold enteredKeys
  rw [List.mem_filterMap]
  constructor
  · rintro ⟨p, hp, hk⟩
    cases p with
    | entered k' a =>
      obtain rfl := Option.some.inj hk
      exact ⟨a, hp⟩
    | left => cases hk
  · rintro ⟨a, ha⟩
    exact ⟨_, ha, rfl⟩

/-- What a ledger says of one key. -/
def history (k : κ) (log : List (Posting κ α η)) : List (Posting κ α η) := log.filter fun p => p.key = k

theorem history_cons_self {k : κ} {p : Posting κ α η} (h : p.key = k) (log : List (Posting κ α η)) :
    history k (p :: log) = p :: history k log := List.filter_cons_of_pos (by simpa using h)

theorem history_cons_ne {k : κ} {p : Posting κ α η} (h : p.key ≠ k) (log : List (Posting κ α η)) :
    history k (p :: log) = history k log := List.filter_cons_of_neg (by simpa using h)

section History

variable {s s' : κ → Option α} {log : List (Posting κ α η)} {k : κ}

theorem Posts.history_of_free (h : Posts s log s') (hfree : s k = none) (hunused : k ∉ enteredKeys log) :
    s' k = none ∧ history k log = [] := by
  induction h with
  | nil => exact ⟨hfree, rfl⟩
  | @enter s _ k' a _ _ _ ih =>
    have hne : k' ≠ k := fun heq => hunused (mem_enteredKeys.2 ⟨a, heq ▸ List.mem_cons_self⟩)
    rw [history_cons_ne (p := .entered k' a) hne]
    refine ih (by rw [Function.update_of_ne hne.symm]; exact hfree) fun hmem => hunused ?_
    exact List.mem_cons_of_mem k' hmem
  | @leave s _ k' a how _ hk' _ ih =>
    have hne : k' ≠ k := fun heq => by rw [heq, hfree] at hk'; cases hk'
    rw [history_cons_ne (p := .left k' a how) hne]
    exact ih (by rw [Function.update_of_ne hne.symm]; exact hfree) hunused

theorem Posts.history_of_held {a : α} (h : Posts s log s') (hheld : s k = some a) (hunused : k ∉ enteredKeys log) :
    (s' k = some a ∧ history k log = []) ∨ ∃ how, s' k = none ∧ history k log = [.left k a how] := by
  induction h with
  | nil => exact .inl ⟨hheld, rfl⟩
  | @enter s _ k' a' _ _ _ ih =>
    have hne : k' ≠ k := fun heq => hunused (mem_enteredKeys.2 ⟨a', heq ▸ List.mem_cons_self⟩)
    rw [history_cons_ne (p := .entered k' a') hne]
    refine ih (by rw [Function.update_of_ne hne.symm]; exact hheld) fun hmem => hunused ?_
    exact List.mem_cons_of_mem k' hmem
  | @leave s _ k' a' how _ hk' hrest ih =>
    by_cases heq : k' = k
    · subst heq
      obtain rfl := Option.some.inj (hheld.symm.trans hk')
      obtain ⟨hfree, hnothing⟩ := hrest.history_of_free (Function.update_self ..) hunused
      refine .inr ⟨how, hfree, ?_⟩
      exact (history_cons_self (p := .left k' a how) rfl _).trans (congrArg _ hnothing)
    · rw [history_cons_ne (p := .left k' a' how) heq]
      exact ih (by rw [Function.update_of_ne (Ne.symm heq)]; exact hheld) hunused

/-- The life of a key. -/
theorem Posts.life (h : Posts s log s') (hfree : s k = none) (honce : (enteredKeys log).Nodup) :
    (s' k = none ∧ history k log = []) ∨
      ∃ a, (s' k = some a ∧ history k log = [.entered k a]) ∨
        ∃ how, s' k = none ∧ history k log = [.entered k a, .left k a how] := by
  induction h with
  | nil => exact .inl ⟨hfree, rfl⟩
  | @enter s _ k' a log _ hrest ih =>
    obtain ⟨hunused, honce⟩ := List.nodup_cons.1 (show (k' :: enteredKeys log).Nodup from honce)
    by_cases heq : k' = k
    · subst heq
      have hlog : history k' (.entered k' a :: log) = .entered k' a :: history k' log :=
        history_cons_self (p := .entered k' a) rfl log
      rcases hrest.history_of_held (Function.update_self ..) hunused with ⟨hheld, hrest⟩ | ⟨how, hfree, hrest⟩
      · exact .inr ⟨a, .inl ⟨hheld, by rw [hlog, hrest]⟩⟩
      · exact .inr ⟨a, .inr ⟨how, hfree, by rw [hlog, hrest]⟩⟩
    · rw [history_cons_ne (p := .entered k' a) heq]
      exact ih (by rw [Function.update_of_ne (Ne.symm heq)]; exact hfree) honce
  | @leave s _ k' a' how _ hk' _ ih =>
    have hne : k' ≠ k := fun heq => by rw [heq, hfree] at hk'; cases hk'
    rw [history_cons_ne (p := .left k' a' how) hne]
    exact ih (by rw [Function.update_of_ne hne.symm]; exact hfree) honce

end History

def without (s : κ → Option α) (ks : List κ) : κ → Option α := fun k => if k ∈ ks then none else s k

@[simp] theorem without_nil (s : κ → Option α) : without s [] = s := by
  funext k
  exact if_neg List.not_mem_nil

theorem without_cons (s : κ → Option α) (k : κ) (ks : List κ) :
    without s (k :: ks) = without (Function.update s k none) ks := by
  funext k'
  unfold without
  by_cases heq : k' = k
  · subst heq
    simp
  · simp [heq]

theorem without_append (s : κ → Option α) (ks ks' : List κ) :
    without s (ks ++ ks') = without (without s ks) ks' := by
  funext k
  unfold without
  by_cases h : k ∈ ks <;> by_cases h' : k ∈ ks' <;> simp [h, h']

/-- Keys that are emptied one after the other, those that are free already passed over. -/
def leaving : (κ → Option α) → List (κ × η) → List (Posting κ α η)
  | _, [] => []
  | s, (k, how) :: ks =>
    match s k with
    | none => leaving s ks
    | some a => .left k a how :: leaving (Function.update s k none) ks

theorem posts_leaving (s : κ → Option α) (ks : List (κ × η)) :
    Posts s (leaving s ks) (without s (ks.map Prod.fst)) := by
  induction ks generalizing s with
  | nil =>
    rw [List.map_nil, without_nil]
    exact .nil s
  | cons e ks ih =>
    obtain ⟨k, how⟩ := e
    rw [List.map_cons, without_cons]
    unfold leaving
    cases hk : s k with
    | none =>
      have hfree : Function.update s k none = s := by rw [← hk, Function.update_eq_self]
      rw [hfree]
      exact ih s
    | some a => exact .leave hk (ih _)

theorem leaving_append (s : κ → Option α) (ks ks' : List (κ × η)) :
    leaving s (ks ++ ks') = leaving s ks ++ leaving (without s (ks.map Prod.fst)) ks' := by
  induction ks generalizing s with
  | nil => rw [List.map_nil, without_nil]; rfl
  | cons e ks ih =>
    obtain ⟨k, how⟩ := e
    rw [List.map_cons, without_cons, List.cons_append, leaving, leaving]
    cases hk : s k with
    | none =>
      have hfree : Function.update s k none = s := by rw [← hk, Function.update_eq_self]
      rw [hfree]
      exact ih s
    | some a => exact congrArg _ (ih _)

theorem enteredKeys_leaving (s : κ → Option α) (ks : List (κ × η)) : enteredKeys (leaving s ks) = [] := by
  induction ks generalizing s with
  | nil => rfl
  | cons e ks ih =>
    obtain ⟨k, how⟩ := e
    unfold leaving
    cases s k with
    | none => exact ih s
    | some a => exact ih _

theorem mem_leaving {s : κ → Option α} {ks : List (κ × η)} {k : κ} {a : α} {how : η}
    (h : .left k a how ∈ leaving s ks) : (k, how) ∈ ks ∧ s k = some a := by
  induction ks generalizing s with
  | nil => cases h
  | cons e ks ih =>
    obtain ⟨k', how'⟩ := e
    unfold leaving at h
    cases hk' : s k' with
    | none =>
      rw [hk'] at h
      exact (ih h).imp_left (List.mem_cons_of_mem _)
    | some a' =>
      rw [hk'] at h
      rcases List.mem_cons.1 h with heq | h
      · obtain ⟨rfl, rfl, rfl⟩ := Posting.left.inj heq
        exact ⟨List.mem_cons_self, hk'⟩
      · obtain ⟨hmem, hk⟩ := ih h
        have hne : k ≠ k' := fun heq => by rw [heq, Function.update_self] at hk; cases hk
        rw [Function.update_of_ne hne] at hk
        exact ⟨List.mem_cons_of_mem _ hmem, hk⟩

/-- The keys of a list that are held in a new stock. -/
def entering (f : κ → Option α) (ks : List κ) : List (Posting κ α η) :=
  ks.filterMap fun k => (f k).map (Posting.entered k)

theorem posts_entering {s f : κ → Option α} {ks : List κ} (hfree : ∀ k ∈ ks, s k = none) (hnodup : ks.Nodup) :
    Posts s (entering f ks : List (Posting κ α η)) fun k => if k ∈ ks then f k else s k := by
  induction ks generalizing s with
  | nil =>
    simp only [List.not_mem_nil, if_false]
    exact .nil s
  | cons k ks ih =>
    obtain ⟨hnot, hnodup⟩ := List.nodup_cons.1 hnodup
    have hk := hfree k List.mem_cons_self
    have hrest : ∀ k' ∈ ks, Function.update s k (f k) k' = none := fun k' hk' => by
      have hne : k' ≠ k := fun heq => hnot (heq ▸ hk')
      rw [Function.update_of_ne hne]
      exact hfree k' (List.mem_cons_of_mem k hk')
    have hstock : (fun k' => if k' ∈ ks then f k' else Function.update s k (f k) k') =
        fun k' => if k' ∈ k :: ks then f k' else s k' := by
      funext k'
      by_cases heq : k' = k
      · subst heq
        simp [hnot]
      · simp [heq]
    have hposts := ih hrest hnodup
    rw [hstock] at hposts
    unfold entering at hposts ⊢
    rw [List.filterMap_cons]
    cases hf : f k with
    | none =>
      rw [hf, ← hk, Function.update_eq_self] at hposts
      exact hposts
    | some a =>
      rw [hf] at hposts
      exact .enter hk hposts

omit [DecidableEq κ] in
theorem enteredKeys_entering (f : κ → Option α) (ks : List κ) :
    (enteredKeys (entering f ks : List (Posting κ α η))).Sublist ks := by
  induction ks with
  | nil => exact List.Sublist.refl _
  | cons k ks ih =>
    unfold entering
    rw [List.filterMap_cons]
    cases f k with
    | none => exact ih.cons k
    | some a => exact ih.cons_cons k

omit [DecidableEq κ] in
theorem mem_entering {f : κ → Option α} {ks : List κ} {p : Posting κ α η} (h : p ∈ entering f ks) :
    ∃ k a, p = .entered k a ∧ k ∈ ks ∧ f k = some a := by
  obtain ⟨k, hk, hp⟩ := List.mem_filterMap.1 h
  obtain ⟨a, ha, rfl⟩ := Option.map_eq_some_iff.1 hp
  exact ⟨k, a, rfl, hk, ha⟩

end

end VkRemote.Lib
