import Mathlib.Data.List.Nodup
import Mathlib.Data.UInt
import Mathlib.Data.Finset.Card
import Mathlib.Data.Finset.Image

/-! Association lists with pairwise distinct keys, the model of a hash map that is
looked up, extended under a fresh key and erased from by key. -/

namespace VkRemote.Lib

variable {κ α : Type*} [DecidableEq κ]

/-- Erase by key. -/
def eraseKey (k : κ) (l : List (κ × α)) : List (κ × α) := l.filter (fun e => e.1 ≠ k)

theorem mem_eraseKey {k : κ} {l : List (κ × α)} {e : κ × α} :
    e ∈ eraseKey k l ↔ e ∈ l ∧ e.1 ≠ k := by
  simp [eraseKey]

theorem eraseKey_sublist (k : κ) (l : List (κ × α)) : (eraseKey k l).Sublist l :=
  List.filter_sublist

theorem nodup_keys_eraseKey {k : κ} {l : List (κ × α)} (h : (l.map Prod.fst).Nodup) :
    ((eraseKey k l).map Prod.fst).Nodup :=
  h.sublist ((eraseKey_sublist k l).map _)

omit [DecidableEq κ] in
theorem value_unique {k : κ} {v v' : α} {l : List (κ × α)} (h : (l.map Prod.fst).Nodup)
    (hv : (k, v) ∈ l) (hv' : (k, v') ∈ l) : v = v' :=
  congrArg Prod.snd (List.inj_on_of_nodup_map h hv hv' rfl)

theorem eraseKey_of_notMem {k : κ} {l : List (κ × α)} (h : k ∉ l.map Prod.fst) :
    eraseKey k l = l := by
  refine List.filter_eq_self.2 fun e he => ?_
  have : e.1 ≠ k := fun hk => h (List.mem_map.2 ⟨e, he, hk⟩)
  simpa using this

theorem length_eraseKey {k : κ} {v : α} {l : List (κ × α)} (h : (l.map Prod.fst).Nodup)
    (hm : (k, v) ∈ l) : (eraseKey k l).length + 1 = l.length := by
  induction l with
  | nil => simp at hm
  | cons e l ih =>
    obtain ⟨hne, hl⟩ := List.nodup_cons.1 (by simpa using h : (e.1 :: l.map Prod.fst).Nodup)
    rcases List.mem_cons.1 hm with rfl | hm
    · have : eraseKey k l = l := eraseKey_of_notMem hne
      simpa [eraseKey] using congrArg List.length this
    · have hk : e.1 ≠ k := fun hk => hne (List.mem_map.2 ⟨_, hm, hk.symm⟩)
      have := ih hl hm
      simp only [eraseKey, List.filter_cons, hk, ne_eq, not_false_eq_true, decide_true,
        if_true, List.length_cons] at this ⊢
      omega

theorem eraseKey_comm (j k : κ) (l : List (κ × α)) :
    eraseKey j (eraseKey k l) = eraseKey k (eraseKey j l) := by
  simp only [eraseKey, List.filter_filter, Bool.and_comm]

theorem eraseKey_append (k : κ) (l l' : List (κ × α)) :
    eraseKey k (l ++ l') = eraseKey k l ++ eraseKey k l' := by
  simp [eraseKey]

/-- Changing an element does not show in what it keeps. -/
theorem map_set_of_eq {α β : Type*} {l : List α} {f : α → β} {k : ℕ} {x y : α} (hx : l[k]? = some x)
    (hf : f y = f x) : (l.set k y).map f = l.map f := by
  obtain ⟨hk, rfl⟩ := List.getElem?_eq_some_iff.1 hx
  rw [List.map_set, hf, ← List.getElem_map f (h := by simpa using hk)]
  exact List.set_getElem_self _

/-- Where the keys are distinct, an element is found by its own. -/
theorem find?_of_nodup {key : α → κ} {l : List α} {x : α} (hl : (l.map key).Nodup) (hx : x ∈ l) :
    l.find? (fun y => key y = key x) = some x := by
  induction l with
  | nil => cases hx
  | cons y l ih =>
    rw [List.map_cons, List.nodup_cons] at hl
    rw [List.find?_cons]
    rcases List.mem_cons.1 hx with rfl | hx
    · simp
    · have hne : key y ≠ key x := fun h => hl.1 (h ▸ List.mem_map_of_mem hx)
      simpa [hne] using ih hl.2 hx

/-- Of `taken.length + 1` distinct values, one is not taken. -/
theorem exists_notMem_of_injOn {n : ℕ} {f : ℕ → κ} {taken : List κ}
    (hf : ∀ i j, i ≤ n → j ≤ n → f i = f j → i = j) (hn : taken.length ≤ n) :
    ∃ i ≤ n, f i ∉ taken := by
  by_contra hall
  have hsub : (Finset.range (n + 1)).image f ⊆ taken.toFinset := by
    intro x hx
    obtain ⟨i, hi, rfl⟩ := Finset.mem_image.1 hx
    by_contra hnot
    exact hall ⟨i, by have := Finset.mem_range.1 hi; omega, by simpa using hnot⟩
  have hcard : ((Finset.range (n + 1)).image f).card = n + 1 := by
    rw [Finset.card_image_of_injOn, Finset.card_range]
    intro i hi j hj h
    have hi := Finset.mem_range.1 (Finset.mem_coe.1 hi)
    have hj := Finset.mem_range.1 (Finset.mem_coe.1 hj)
    exact hf i j (by omega) (by omega) h
  have := Finset.card_le_card hsub
  have := taken.toFinset_card_le
  omega

end VkRemote.Lib
