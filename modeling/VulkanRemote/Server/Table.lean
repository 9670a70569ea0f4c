import Mathlib.Data.List.Nodup
import Mathlib.Data.List.Basic

/-! The object tables of a session: an object is named by its index, counted from one, and an index
names one object for ever. `δ` are the devices that may own what a table holds. -/

namespace VkRemote.Server

variable {δ α : Type}

/-- A slot holds an object and its owner; `VK_NULL_HANDLE` is `none`. -/
structure Table (δ α : Type) where
  slots : List (Option α × Option δ) := []

namespace Table

def add (t : Table δ α) (value : Option α) (owner : Option δ) : Table δ α × ℕ :=
  (⟨t.slots ++ [(value, owner)]⟩, t.slots.length + 1)

/-- The first slot that holds the value for the owner, or a new one. -/
def addUnique [DecidableEq δ] [DecidableEq α] (t : Table δ α) (value : Option α) (owner : Option δ) :
    Table δ α × ℕ :=
  if (value, owner) ∈ t.slots then (t, t.slots.idxOf (value, owner) + 1) else t.add value owner

def get (t : Table δ α) (id : ℕ) : Option α :=
  if id = 0 then none else (t.slots[id - 1]?).bind Prod.fst

def owner (t : Table δ α) (id : ℕ) : Option δ :=
  if id = 0 then none else (t.slots[id - 1]?).bind Prod.snd

def take (t : Table δ α) (id : ℕ) : Option α × Table δ α :=
  if id = 0 then (none, t) else (t.get id, ⟨t.slots.set (id - 1) (none, none)⟩)

/-- Take every object of a device, as `DESTROY_OWNED` does. -/
def takeOwned [DecidableEq δ] (t : Table δ α) (device : δ) : List α × Table δ α :=
  ((t.slots.filter fun slot => slot.2 = some device).filterMap Prod.fst,
    ⟨t.slots.map fun slot => if slot.2 = some device then (none, none) else slot⟩)

def retireOwned [DecidableEq δ] (t : Table δ α) (device : δ) : Table δ α := (t.takeOwned device).2

/-- Take every object. -/
def takeAll (t : Table δ α) : List α × Table δ α :=
  (t.slots.filterMap Prod.fst, ⟨t.slots.map fun _ => (none, none)⟩)

/-- What the table still holds. -/
def values (t : Table δ α) : List α := t.slots.filterMap Prod.fst

theorem mem_values {t : Table δ α} {x : α} : x ∈ t.values ↔ ∃ o, (some x, o) ∈ t.slots := by
  unfold values
  rw [List.mem_filterMap]
  constructor
  · rintro ⟨⟨y, o⟩, hmem, rfl⟩
    exact ⟨o, hmem⟩
  · rintro ⟨o, hmem⟩
    exact ⟨_, hmem, rfl⟩

theorem mem_of_get {t : Table δ α} {id : ℕ} {x : α} (h : t.get id = some x) :
    ∃ o, (some x, o) ∈ t.slots := by
  unfold get at h
  split at h
  · cases h
  · obtain ⟨⟨y, o⟩, hslot, rfl⟩ := Option.bind_eq_some_iff.1 h
    exact ⟨o, List.mem_of_getElem? hslot⟩

theorem mem_values_of_get {t : Table δ α} {id : ℕ} {x : α} (h : t.get id = some x) : x ∈ t.values :=
  mem_values.2 (mem_of_get h)

@[simp] theorem values_add (t : Table δ α) (x : α) (owner : Option δ) :
    (t.add (some x) owner).1.values = t.values ++ [x] := by
  simp [values, add]

/-- An object is in one slot. -/
theorem owner_unique {t : Table δ α} (hnodup : t.values.Nodup) {x : α} {o o' : Option δ}
    (h : (some x, o) ∈ t.slots) (h' : (some x, o') ∈ t.slots) : o = o' := by
  have hall : ∀ ss : List (Option α × Option δ), (ss.filterMap Prod.fst).Nodup → (some x, o) ∈ ss →
      (some x, o') ∈ ss → o = o' := by
    intro ss hnodup h h'
    induction ss with
    | nil => cases h
    | cons slot ss ih =>
      have hmem : ∀ {o : Option δ}, (some x, o) ∈ ss → x ∈ ss.filterMap Prod.fst :=
        fun h => List.mem_filterMap.2 ⟨_, h, rfl⟩
      rcases List.mem_cons.1 h with heq | h <;> rcases List.mem_cons.1 h' with heq' | h'
      · exact congrArg Prod.snd (heq.trans heq'.symm)
      · rw [← heq, List.filterMap_cons] at hnodup
        exact absurd (hmem h') (List.nodup_cons.1 hnodup).1
      · rw [← heq', List.filterMap_cons] at hnodup
        exact absurd (hmem h) (List.nodup_cons.1 hnodup).1
      · exact ih (hnodup.sublist ((List.sublist_cons_self slot ss).filterMap _)) h h'
  exact hall t.slots hnodup h h'

/-- Each slot is kept or cleared. -/
inductive Clears : List (Option α × Option δ) → List (Option α × Option δ) → Prop
  | nil : Clears [] []
  | keep (slot : Option α × Option δ) {ss ss' : List (Option α × Option δ)} :
      Clears ss ss' → Clears (slot :: ss) (slot :: ss')
  | clear (slot : Option α × Option δ) {ss ss' : List (Option α × Option δ)} :
      Clears ss ss' → Clears (slot :: ss) ((none, none) :: ss')

section Clears

variable {ss ss' : List (Option α × Option δ)}

theorem Clears.refl (ss : List (Option α × Option δ)) : Clears ss ss := by
  induction ss with
  | nil => exact .nil
  | cons slot ss ih => exact .keep slot ih

theorem Clears.mem (h : Clears ss ss') {x : α} {o : Option δ} (hx : (some x, o) ∈ ss') : (some x, o) ∈ ss := by
  induction h with
  | nil => exact hx
  | keep slot _ ih =>
    rcases List.mem_cons.1 hx with heq | hx
    · exact heq ▸ List.mem_cons_self
    · exact List.mem_cons_of_mem _ (ih hx)
  | clear slot _ ih =>
    rcases List.mem_cons.1 hx with heq | hx
    · cases heq
    · exact List.mem_cons_of_mem _ (ih hx)

theorem Clears.sublist (h : Clears ss ss') : (ss'.filterMap Prod.fst).Sublist (ss.filterMap Prod.fst) := by
  induction h with
  | nil => exact List.Sublist.refl _
  | keep slot _ ih =>
    rw [List.filterMap_cons, List.filterMap_cons]
    cases slot.1 with
    | none => exact ih
    | some x => exact ih.cons_cons x
  | clear slot _ ih =>
    rw [List.filterMap_cons, List.filterMap_cons]
    cases slot.1 with
    | none => exact ih
    | some x => exact ih.cons x

theorem clears_set (ss : List (Option α × Option δ)) (i : ℕ) : Clears ss (ss.set i (none, none)) := by
  induction ss generalizing i with
  | nil => exact .nil
  | cons slot ss ih =>
    cases i with
    | zero => exact .clear slot (.refl ss)
    | succ i => exact .keep slot (ih i)

theorem clears_map (p : Option α × Option δ → Prop) [DecidablePred p] (ss : List (Option α × Option δ)) :
    Clears ss (ss.map fun slot => if p slot then (none, none) else slot) := by
  induction ss with
  | nil => exact .nil
  | cons slot ss ih =>
    rw [List.map_cons]
    split
    · exact .clear slot ih
    · exact .keep slot ih

theorem perm_set {i : ℕ} {x : α} {o : Option δ} (h : ss[i]? = some (some x, o)) :
    (ss.filterMap Prod.fst).Perm (x :: (ss.set i (none, none)).filterMap Prod.fst) := by
  induction ss generalizing i with
  | nil => cases h
  | cons slot ss ih =>
    cases i with
    | zero =>
      obtain rfl := Option.some.inj h
      exact .refl _
    | succ i =>
      have hrest := ih (i := i) h
      rw [List.set_cons_succ, List.filterMap_cons, List.filterMap_cons]
      cases slot.1 with
      | none => exact hrest
      | some y => exact (hrest.cons y).trans (.swap x y _)

end Clears

theorem clears_take (t : Table δ α) (id : ℕ) : Clears t.slots (t.take id).2.slots := by
  unfold take
  split
  · exact .refl _
  · exact clears_set _ _

theorem take_fst (t : Table δ α) (id : ℕ) : (t.take id).1 = t.get id := by
  unfold take
  split
  · next h0 => simp [get, h0]
  · rfl

/-- An object that was taken is no longer in the table. -/
theorem take_gone {t : Table δ α} (hnodup : t.values.Nodup) {id : ℕ} {x : α} (h : t.get id = some x) :
    x ∉ (t.take id).2.values := by
  unfold get at h
  split at h
  · cases h
  · next h0 =>
    obtain ⟨⟨y, o⟩, hslot, rfl⟩ := Option.bind_eq_some_iff.1 h
    have hperm := perm_set hslot
    rw [take, if_neg h0]
    exact (List.nodup_cons.1 (hperm.nodup_iff.1 hnodup)).1

section Owned

variable [DecidableEq δ] {t : Table δ α} {device : δ} {x : α}

theorem clears_takeOwned (t : Table δ α) (device : δ) : Clears t.slots (t.takeOwned device).2.slots :=
  clears_map _ _

theorem mem_takeOwned : x ∈ (t.takeOwned device).1 ↔ (some x, some device) ∈ t.slots := by
  unfold takeOwned
  rw [List.mem_filterMap]
  constructor
  · rintro ⟨⟨y, o⟩, hmem, rfl⟩
    obtain ⟨hslot, howner⟩ := List.mem_filter.1 hmem
    rw [decide_eq_true_eq] at howner
    exact howner ▸ hslot
  · intro h
    exact ⟨_, List.mem_filter.2 ⟨h, by simp⟩, rfl⟩

/-- No slot of the device is left. -/
theorem owner_takeOwned {o : Option δ} (h : (some x, o) ∈ (t.takeOwned device).2.slots) : o ≠ some device := by
  obtain ⟨slot, -, heq⟩ := List.mem_map.1 h
  split at heq
  · cases heq
  · next hne =>
    rw [heq] at hne
    exact hne

theorem takeOwned_gone (hnodup : t.values.Nodup) (h : x ∈ (t.takeOwned device).1) :
    x ∉ (t.takeOwned device).2.values := by
  intro hmem
  obtain ⟨o, ho⟩ := mem_values.1 hmem
  exact owner_takeOwned ho (owner_unique hnodup ((clears_takeOwned t device).mem ho) (mem_takeOwned.1 h))

end Owned

end Table

end VkRemote.Server
