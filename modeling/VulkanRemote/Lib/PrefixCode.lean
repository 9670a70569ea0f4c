import Mathlib.Data.List.Basic

/-! Encodings that can be split off the front of a longer string: a concatenation of them says which values
it is made of. -/

namespace VkRemote.Lib

variable {α β : Type*} {enc : α → List β} {P : α → Prop}

/-- Among the values with `P`, no encoding is the beginning of another one. -/
def PrefixFree (enc : α → List β) (P : α → Prop) : Prop :=
  ∀ a b s t, P a → P b → enc a ++ s = enc b ++ t → a = b ∧ s = t

theorem PrefixFree.flatMap_prefix (h : PrefixFree enc P) (hne : ∀ a, enc a ≠ []) {xs ys : List α}
    (hxs : ∀ a ∈ xs, P a) (hys : ∀ a ∈ ys, P a) (hpre : xs.flatMap enc <+: ys.flatMap enc) : xs <+: ys := by
  induction xs generalizing ys with
  | nil => exact List.nil_prefix
  | cons x xs ih =>
    obtain ⟨t, ht⟩ := hpre
    cases ys with
    | nil =>
      have hnil : enc x = [] := by
        rw [List.flatMap_nil, List.append_eq_nil_iff, List.flatMap_cons, List.append_eq_nil_iff] at ht
        exact ht.1.1
      exact absurd hnil (hne x)
    | cons y ys =>
      rw [List.flatMap_cons, List.flatMap_cons, List.append_assoc] at ht
      obtain ⟨rfl, hrest⟩ := h x y _ _ (hxs x List.mem_cons_self) (hys y List.mem_cons_self) ht
      exact List.cons_prefix_cons.2 ⟨rfl, ih (fun a ha => hxs a (List.mem_cons_of_mem _ ha))
        (fun a ha => hys a (List.mem_cons_of_mem _ ha)) ⟨t, hrest⟩⟩

end VkRemote.Lib
