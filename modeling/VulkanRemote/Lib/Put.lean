import Mathlib.Logic.Function.Basic
import Mathlib.Data.List.Nodup

/-! A map as a function to `Option`, and a list of entries put into it, the first one first. -/

namespace VkRemote.Lib

variable {κ α : Type*} [DecidableEq κ]

def putAll (f : κ → Option α) (l : List (κ × α)) : κ → Option α :=
  l.foldl (fun f e => Function.update f e.1 (some e.2)) f

variable {f : κ → Option α} {l : List (κ × α)} {k : κ} {a : α}

@[simp] theorem putAll_nil : putAll f [] = f := rfl

theorem putAll_cons (e : κ × α) : putAll f (e :: l) = putAll (Function.update f e.1 (some e.2)) l := rfl

theorem putAll_append (l' : List (κ × α)) : putAll f (l ++ l') = putAll (putAll f l) l' := List.foldl_append

theorem putAll_of_notMem (h : k ∉ l.map Prod.fst) : putAll f l k = f k := by
  induction l generalizing f with
  | nil => rfl
  | cons e l ih =>
    rw [List.map_cons, List.mem_cons, not_or] at h
    rw [putAll_cons, ih h.2, Function.update_of_ne h.1]

/-- What is in the map comes from the list or was there. -/
theorem putAll_eq_some (h : putAll f l k = some a) : (k, a) ∈ l ∨ f k = some a := by
  induction l generalizing f with
  | nil => exact .inr h
  | cons e l ih =>
    rw [putAll_cons] at h
    rcases ih h with h | h
    · exact .inl (List.mem_cons_of_mem _ h)
    · rw [Function.update_apply] at h
      split at h
      · next hk =>
        obtain rfl := Option.some.inj h
        exact .inl (hk ▸ List.mem_cons_self)
      · exact .inr h

theorem putAll_ne_none (h : f k ≠ none ∨ k ∈ l.map Prod.fst) : putAll f l k ≠ none := by
  induction l generalizing f with
  | nil => exact h.resolve_right List.not_mem_nil
  | cons e l ih =>
    rw [putAll_cons]
    refine ih ?_
    by_cases hk : k = e.1
    · subst hk
      exact .inl (by rw [Function.update_self]; exact Option.some_ne_none _)
    · rw [Function.update_of_ne hk]
      exact h.imp_right fun h => (List.mem_cons.1 h).resolve_left hk

theorem mem_of_putAll_ne_none (h : putAll f l k ≠ none) : f k ≠ none ∨ k ∈ l.map Prod.fst := by
  by_contra hnot
  obtain ⟨hf, hmem⟩ := not_or.1 hnot
  exact h ((putAll_of_notMem hmem).trans (not_not.1 hf))

/-- The last value put under a key stays. -/
theorem putAll_apply [BEq κ] [LawfulBEq κ] (f : κ → Option α) (l : List (κ × α)) (k : κ) :
    putAll f l k = (l.reverse.lookup k).or (f k) := by
  induction l generalizing f with
  | nil => rfl
  | cons e l ih =>
    rw [putAll_cons, ih, List.reverse_cons, List.lookup_append, Option.or_assoc]
    congr 1
    obtain ⟨k', a⟩ := e
    by_cases hk : k = k'
    · simp [hk]
    · rw [List.lookup_cons, beq_false_of_ne hk]
      simp [hk]

/-- Of distinct keys each has its own value. -/
theorem putAll_of_nodup (h : (l.map Prod.fst).Nodup) (hm : (k, a) ∈ l) : putAll f l k = some a := by
  induction l generalizing f with
  | nil => cases hm
  | cons e l ih =>
    rw [List.map_cons, List.nodup_cons] at h
    rw [putAll_cons]
    rcases List.mem_cons.1 hm with rfl | hm
    · rw [putAll_of_notMem h.1, Function.update_self]
    · exact ih h.2 hm

/-- Entries under new keys change none of the others. -/
theorem putAll_of_fresh (h : ∀ e ∈ l, f e.1 = none) (hk : f k = some a) : putAll f l k = some a := by
  rw [putAll_of_notMem, hk]
  intro hmem
  obtain ⟨e, he, rfl⟩ := List.mem_map.1 hmem
  cases (h e he).symm.trans hk

end VkRemote.Lib
