import VulkanRemote.Lib.Ledger
import VulkanRemote.Server.Creates
import VulkanRemote.Server.Issued

/-! What a table holds under each id, and what every operation on a table makes of that. -/

namespace VkRemote.Server.Table

open Lib

variable {δ α : Type} (t : Table δ α)

theorem get_eq_entry (id : ℕ) : t.get id = (t.entry id).map Prod.fst := by
  unfold Table.get Table.entry
  split
  · rfl
  · cases t.slots[id - 1]? with
    | none => rfl
    | some slot => cases h : slot.1 <;> simp [h]

theorem owner_of_entry {id : ℕ} {value : α} {owner : Option δ} (h : t.entry id = some (value, owner)) :
    t.owner id = owner := by
  obtain ⟨h0, hslot⟩ := Table.entry_eq_some.1 h
  rw [Table.owner, if_neg h0, hslot]
  rfl

theorem get_of_entry {id : ℕ} {e : α × Option δ} (h : t.entry id = some e) : t.get id = some e.1 := by
  rw [get_eq_entry, h]
  rfl

theorem exists_entry_of_get {id : ℕ} {value : α} (h : t.get id = some value) :
    ∃ owner, t.entry id = some (value, owner) := by
  rw [get_eq_entry] at h
  obtain ⟨⟨v, owner⟩, hentry, rfl⟩ := Option.map_eq_some_iff.1 h
  exact ⟨owner, hentry⟩

/-- Only ids that were given out hold something. -/
theorem entry_of_lt {id : ℕ} (h : t.slots.length < id) : t.entry id = none := by
  unfold Table.entry
  rw [if_neg (by omega), List.getElem?_eq_none (by omega)]
  rfl

theorem entry_of_empty {id : ℕ} (h : t.slots = []) : t.entry id = none := by
  unfold Table.entry
  split
  · rfl
  · rw [h]
    rfl

theorem entry_zero : t.entry 0 = none := rfl

theorem entry_succ (i : ℕ) : t.entry (i + 1) = t.slots[i]?.bind fun slot => slot.1.map (·, slot.2) :=
  if_neg (Nat.succ_ne_zero i)

theorem entry_add (value : Option α) (owner : Option δ) :
    (t.add value owner).1.entry = Function.update t.entry (t.slots.length + 1) (value.map (·, owner)) := by
  funext id
  rcases Nat.lt_trichotomy id (t.slots.length + 1) with h | rfl | h
  · rw [Function.update_of_ne (Nat.ne_of_lt h)]
    unfold Table.entry Table.add
    split
    · rfl
    · rw [List.getElem?_append_left (by omega)]
  · rw [Function.update_self]
    simp [Table.entry, Table.add]
  · rw [Function.update_of_ne (Nat.ne_of_gt h)]
    unfold Table.entry Table.add
    rw [List.getElem?_eq_none (by simp; omega), List.getElem?_eq_none (by omega)]

@[simp] theorem length_add (value : Option α) (owner : Option δ) :
    (t.add value owner).1.slots.length = t.slots.length + 1 := List.length_append

theorem entry_take (id : ℕ) : (t.take id).2.entry = Function.update t.entry id none := by
  funext i
  by_cases hid : id = 0
  · subst hid
    have hnull : t.entry 0 = none := rfl
    rw [show (t.take 0).2 = t from rfl, ← hnull, Function.update_eq_self]
  · rw [Table.take, if_neg hid]
    unfold Table.entry
    by_cases hi : i = id
    · subst hi
      rw [Function.update_self, if_neg hid]
      rcases Nat.lt_or_ge (i - 1) t.slots.length with hlt | hge
      · rw [List.getElem?_set_self hlt]
        rfl
      · rw [List.getElem?_eq_none (by rw [List.length_set]; exact hge)]
        rfl
    · rw [Function.update_of_ne hi]
      split
      · rfl
      · rw [List.getElem?_set_ne (by omega)]

@[simp] theorem length_take (id : ℕ) : (t.take id).2.slots.length = t.slots.length := by
  unfold Table.take
  split
  · rfl
  · exact List.length_set

theorem take_eq_without (id : ℕ) : (t.take id).2.entry = without t.entry [id] := by
  rw [entry_take, without_cons, without_nil]

theorem entry_takes (ids : List ℕ) : (ids.foldl (fun table id => (table.take id).2) t).entry = without t.entry ids := by
  induction ids generalizing t with
  | nil => exact (without_nil _).symm
  | cons id ids ih => rw [List.foldl_cons, ih, entry_take, without_cons]

theorem length_takes (ids : List ℕ) :
    (ids.foldl (fun table id => (table.take id).2) t).slots.length = t.slots.length := by
  induction ids generalizing t with
  | nil => rfl
  | cons id ids ih => rw [List.foldl_cons, ih, length_take]

/-! ### Taking all that something holds of -/

/-- Slots are cleared by their ids. -/
def clear (p : ℕ → Bool) : Table δ α := ⟨t.slots.mapIdx fun i slot => if p (i + 1) then (none, none) else slot⟩

theorem entry_clear (p : ℕ → Bool) (id : ℕ) : (t.clear p).entry id = if p id then none else t.entry id := by
  rcases id with _ | i
  · rw [entry_zero, entry_zero, ite_self]
  · rw [entry_succ, entry_succ]
    unfold clear
    rw [List.getElem?_mapIdx]
    cases t.slots[i]? with
    | none => simp
    | some slot => cases p (i + 1) <;> simp

variable [DecidableEq δ] (device : δ)

theorem entry_destroyOwned (id : ℕ) :
    (t.destroyOwned device).entry id = (t.entry id).filter fun e => e.2 ≠ some device := by
  rcases id with _ | i
  · rw [entry_zero, entry_zero]
    rfl
  · rw [entry_succ, entry_succ]
    unfold destroyOwned
    rw [List.getElem?_map]
    rcases t.slots[i]? with _ | ⟨_ | value, owner⟩
    · rfl
    · simp
    · by_cases howner : owner = some device <;> simp [howner, Option.filter]

theorem entry_retireOwned (id : ℕ) :
    (t.retireOwned device).entry id = (t.entry id).filter fun e => e.2 ≠ some device := by
  rcases id with _ | i
  · rw [entry_zero, entry_zero]
    rfl
  · rw [entry_succ, entry_succ]
    unfold retireOwned takeOwned
    rw [List.getElem?_map]
    rcases t.slots[i]? with _ | ⟨_ | value, owner⟩
    · rfl
    · by_cases howner : owner = some device <;> simp [howner]
    · by_cases howner : owner = some device <;> simp [howner, Option.filter]

@[simp] theorem length_destroyOwned : (t.destroyOwned device).slots.length = t.slots.length := List.length_map _

@[simp] theorem length_retireOwned : (t.retireOwned device).slots.length = t.slots.length := List.length_map _

/-- The ids of a device's objects, in the order in which they are taken. -/
def ownedIds : List ℕ := (List.range' 1 t.slots.length).filter fun id => t.ownedBy id device

theorem mem_ownedIds {id : ℕ} : id ∈ t.ownedIds device ↔ ∃ value, t.entry id = some (value, some device) := by
  unfold ownedIds ownedBy
  rw [List.mem_filter, Bool.and_eq_true, decide_eq_true_eq, Option.isSome_iff_exists]
  constructor
  · rintro ⟨-, ⟨value, hget⟩, howner⟩
    obtain ⟨owner, hentry⟩ := t.exists_entry_of_get hget
    exact ⟨value, by rw [hentry, ← howner, owner_of_entry _ hentry]⟩
  · rintro ⟨value, hentry⟩
    refine ⟨List.mem_range'_1.2 ?_, ⟨value, t.get_of_entry hentry⟩, t.owner_of_entry hentry⟩
    have hpos : id ≠ 0 := (entry_eq_some.1 hentry).1
    have hle : ¬ t.slots.length < id := fun h => by rw [t.entry_of_lt h] at hentry; cases hentry
    omega

theorem without_ownedIds (id : ℕ) :
    without t.entry (t.ownedIds device) id = (t.entry id).filter fun e => e.2 ≠ some device := by
  unfold without
  cases hentry : t.entry id with
  | none => rw [ite_self]; rfl
  | some e =>
    obtain ⟨value, owner⟩ := e
    by_cases howner : owner = some device
    · subst howner
      rw [if_pos ((t.mem_ownedIds device).2 ⟨value, hentry⟩)]
      simp [Option.filter]
    · have hnot : id ∉ t.ownedIds device := fun hmem => by
        obtain ⟨value', hentry'⟩ := (t.mem_ownedIds device).1 hmem
        rw [hentry] at hentry'
        exact howner (congrArg Prod.snd (Option.some.inj hentry'))
      rw [if_neg hnot]
      simp [Option.filter, howner]

end VkRemote.Server.Table
