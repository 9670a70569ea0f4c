import VulkanRemote.Lib.Put

/-! Stores that are written at one place at a time: values put one after the other, values copied from
place to place, and what was written kept apart until it is laid over the store. -/

namespace VkRemote.Lib

variable {κ ι α β : Type*} [DecidableEq κ] [DecidableEq ι]

/-- Put the values one after the other. -/
def storeAll : (κ → α) → List (κ × α) → κ → α
  | m, [] => m
  | m, (k, a) :: puts => storeAll (Function.update m k a) puts

/-- Copy from the first place of each pair to the second, one after the other. -/
def copyEach : (κ → α) → List (κ × κ) → κ → α
  | m, [] => m
  | m, (source, destination) :: places => copyEach (Function.update m destination (m source)) places

/-- Copy likewise, but read every source before the first value is put. -/
def copyTogether (m : κ → α) (places : List (κ × κ)) : κ → α :=
  storeAll m (places.map fun e => (e.2, m e.1))

/-- A store with what was written since laid over it, each value as `keep` keeps it. -/
def overlay (keep : β → α) (m : κ → α) (written : κ → Option β) (k : κ) : α :=
  match written k with
  | some b => keep b
  | none => m k

/-- Places may be renamed if no two of them get one name. -/
theorem storeAll_comp {f : ι → κ} (hf : Function.Injective f) (m : κ → α) (puts : List (ι × α)) :
    storeAll m (puts.map fun e => (f e.1, e.2)) ∘ f = storeAll (m ∘ f) puts := by
  induction puts generalizing m with
  | nil => rfl
  | cons e puts ih =>
    simp only [List.map_cons, storeAll]
    rw [ih, Function.update_comp_eq_of_injective m hf]

/-- Values put at consecutive places. -/
theorem storeAll_zipIdx (m : ℕ → α) (values : List α) (start i : ℕ) :
    storeAll m ((values.zipIdx start).map Prod.swap) i =
      if start ≤ i then (values[i - start]?).getD (m i) else m i := by
  induction values generalizing m start with
  | nil => simp [storeAll]
  | cons a values ih =>
    rw [List.zipIdx_cons, List.map_cons, Prod.swap_prod_mk, storeAll, ih]
    by_cases hlt : start < i
    · have hstep : i - start = (i - (start + 1)) + 1 := by omega
      rw [if_pos (show start + 1 ≤ i from hlt), if_pos (Nat.le_of_lt hlt), hstep, List.getElem?_cons_succ,
        Function.update_of_ne (Nat.ne_of_gt hlt)]
    · rw [if_neg (show ¬ start + 1 ≤ i from hlt)]
      by_cases heq : start = i
      · subst heq
        simp
      · have hgt : ¬ start ≤ i := fun hle => hlt (Nat.lt_of_le_of_ne hle heq)
        rw [if_neg hgt, Function.update_of_ne (Ne.symm heq)]

/-- No copy reads what an earlier one has put: then it makes no difference when the sources are read. -/
theorem copyEach_eq_copyTogether {m : κ → α} {places : List (κ × κ)}
    (h : places.Pairwise fun e e' => e.2 ≠ e'.1) : copyEach m places = copyTogether m places := by
  induction places generalizing m with
  | nil => rfl
  | cons e places ih =>
    obtain ⟨hhead, htail⟩ := List.pairwise_cons.1 h
    have hread : ∀ e' ∈ places, Function.update m e.2 (m e.1) e'.1 = m e'.1 := fun e' he' =>
      Function.update_of_ne (hhead e' he').symm _ _
    simp only [copyEach, ih htail, copyTogether, List.map_cons, storeAll]
    congr 1
    exact List.map_congr_left fun e' he' => by rw [hread e' he']

section

variable (keep : β → α) (m : κ → α)

omit [DecidableEq κ] in
@[simp] theorem overlay_nothing : overlay keep m (fun _ => none) = m := rfl

omit [DecidableEq κ] in
/-- What is written changes nothing if the store has it already. -/
theorem overlay_eq_self_iff (written : κ → Option β) :
    overlay keep m written = m ↔ ∀ k, ∀ b ∈ written k, m k = keep b := by
  constructor
  · intro h k b hb
    have hk := congrFun h k
    rw [overlay, Option.mem_def.1 hb] at hk
    exact hk.symm
  · intro h
    funext k
    cases hb : written k with
    | none => simp [overlay, hb]
    | some b => simp [overlay, hb, h k b hb]

theorem overlay_update (written : κ → Option β) (k : κ) (b : β) :
    overlay keep m (Function.update written k (some b)) =
      Function.update (overlay keep m written) k (keep b) := by
  funext k'
  by_cases hk : k' = k
  · subst hk
    simp [overlay]
  · simp [overlay, hk]

/-- Values put on the overlay are put on the store below it. -/
theorem overlay_putAll (written : κ → Option β) (puts : List (κ × β)) :
    overlay keep m (putAll written puts) =
      storeAll (overlay keep m written) (puts.map fun e => (e.1, keep e.2)) := by
  induction puts generalizing written with
  | nil => rfl
  | cons e puts ih =>
    rw [putAll_cons, List.map_cons, storeAll, ih, overlay_update]

end

end VkRemote.Lib
