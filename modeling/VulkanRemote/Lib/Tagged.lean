import Mathlib.Data.List.Forall2

/-! The items of a list of groups in order, each with the place of its group, and searches in two
lists that correspond item by item. -/

namespace VkRemote.Lib

variable {α β γ : Type*}

def tagged (f : α → List β) : List α → List (ℕ × β)
  | [] => []
  | a :: as => (f a).map (fun x => (0, x)) ++ (tagged f as).map fun e => (e.1 + 1, e.2)

theorem mem_tagged {f : α → List β} {as : List α} {i : ℕ} {x : β} :
    (i, x) ∈ tagged f as ↔ ∃ a, as[i]? = some a ∧ x ∈ f a := by
  induction as generalizing i with
  | nil => simp [tagged]
  | cons a as ih =>
    cases i with
    | zero => simp [tagged]
    | succ i => simp [tagged, ih]

theorem tagged_filterMap {f : α → List β} {g : α → List γ} {p : β → Option γ}
    (h : ∀ a, (f a).filterMap p = g a) (as : List α) :
    (tagged f as).filterMap (fun e => (p e.2).map fun y => (e.1, y)) = tagged g as := by
  induction as with
  | nil => rfl
  | cons a as ih =>
    have hhead : ((f a).map fun x => (0, x)).filterMap (fun e => (p e.2).map fun y => (e.1, y)) =
        (g a).map fun y => (0, y) := by
      rw [← h a, List.filterMap_map, List.map_filterMap]
      rfl
    have htail : ((tagged f as).map fun e => (e.1 + 1, e.2)).filterMap
        (fun e => (p e.2).map fun y => (e.1, y)) = (tagged g as).map fun e => (e.1 + 1, e.2) := by
      rw [← ih, List.filterMap_map, List.map_filterMap]
      refine List.filterMap_congr fun e _ => ?_
      simp only [Function.comp, Option.map_map]
      rfl
    rw [tagged, tagged, List.filterMap_append, hhead, htail]

/-- The first hit of a search, in a list that corresponds item by item. -/
theorem find?_forall₂ {R : α → β → Prop} {p : α → Bool} {r : β → Bool} {as : List α}
    {bs : List β} (h : List.Forall₂ R as bs) (hp : ∀ a b, R a b → p a = r b) {a : α}
    (ha : as.find? p = some a) : ∃ b, bs.find? r = some b ∧ R a b := by
  induction h with
  | nil => cases ha
  | @cons a₁ b₁ as bs hab _ ih =>
    rw [List.find?_cons] at ha ⊢
    rw [← hp a₁ b₁ hab]
    split at ha
    · cases ha
      exact ⟨b₁, rfl, hab⟩
    · exact ih ha

/-- An item of one list has its counterpart at the same place in the other. -/
theorem split_forall₂ {R : α → β → Prop} {pre post : List α} {a : α} {bs : List β}
    (h : List.Forall₂ R (pre ++ a :: post) bs) :
    ∃ pre' b post', bs = pre' ++ b :: post' ∧ R a b ∧ List.Forall₂ R post post' := by
  induction pre generalizing bs with
  | nil =>
    obtain ⟨b, post', hab, hpost, rfl⟩ := List.forall₂_cons_left_iff.1 h
    exact ⟨[], b, post', rfl, hab, hpost⟩
  | cons a₁ pre ih =>
    obtain ⟨b₁, rest, -, hrest, rfl⟩ := List.forall₂_cons_left_iff.1 h
    obtain ⟨pre', b, post', rfl, hab, hpost⟩ := ih hrest
    exact ⟨b₁ :: pre', b, post', rfl, hab, hpost⟩

theorem mem_forall₂ {R : α → β → Prop} {as : List α} {bs : List β} (h : List.Forall₂ R as bs)
    {b : β} (hb : b ∈ bs) : ∃ a ∈ as, R a b := by
  induction h with
  | nil => cases hb
  | @cons a₁ b₁ as bs hab _ ih =>
    rcases List.mem_cons.1 hb with rfl | hb
    · exact ⟨a₁, by simp, hab⟩
    · obtain ⟨a, ha, hr⟩ := ih hb
      exact ⟨a, by simp [ha], hr⟩

theorem pairwise_forall₂ {R : α → β → Prop} {S : α → α → Prop} {T : β → β → Prop} {as : List α}
    {bs : List β} (h : List.Forall₂ R as bs) (hs : as.Pairwise S)
    (hst : ∀ a a' b b', R a b → R a' b' → S a a' → T b b') : bs.Pairwise T := by
  induction h with
  | nil => exact .nil
  | cons hab hrest ih =>
    obtain ⟨hhead, htail⟩ := List.pairwise_cons.1 hs
    refine List.pairwise_cons.2 ⟨fun b' hb' => ?_, ih htail⟩
    obtain ⟨a', ha', hr⟩ := mem_forall₂ hrest hb'
    exact hst _ _ _ _ hab hr (hhead a' ha')

end VkRemote.Lib
