import Mathlib.Data.List.Induction
import VulkanRemote.Server.Table

/-! A table over any sequence of calls against what the calls themselves say: which id was issued for which
object, and which were taken out again. -/

namespace VkRemote.Server.Table

variable {δ α : Type}

/-- A call with an object that is not null, or for a device that is not. -/
inductive Call (δ α : Type)
  | add (value : α) (owner : Option δ)
  | addUnique (value : α) (owner : Option δ)
  | take (id : ℕ)
  | retireOwned (device : δ)

/-- What a caller has seen of it: the id that was answered, or what was to be removed. -/
inductive Event (δ α : Type)
  | issued (unique : Bool) (id : ℕ) (value : α) (owner : Option δ)
  | taken (id : ℕ)
  | retired (device : δ)

variable [DecidableEq δ]

def call [DecidableEq α] (t : Table δ α) : Call δ α → Table δ α × Event δ α
  | .add value owner =>
    let r := t.add (some value) owner
    (r.1, .issued false r.2 value owner)
  | .addUnique value owner =>
    let r := t.addUnique (some value) owner
    (r.1, .issued true r.2 value owner)
  | .take id => ((t.take id).2, .taken id)
  | .retireOwned device => (t.retireOwned device, .retired device)

section

variable [DecidableEq α] (t : Table δ α)

theorem call_add (value : α) (owner : Option δ) : t.call (.add value owner) =
    ((t.add (some value) owner).1, .issued false (t.slots.length + 1) value owner) := rfl

theorem call_addUnique (value : α) (owner : Option δ) : t.call (.addUnique value owner) =
    if (some value, owner) ∈ t.slots then (t, .issued true (t.slots.idxOf (some value, owner) + 1) value owner)
    else ((t.add (some value) owner).1, .issued true (t.slots.length + 1) value owner) := by
  have hcall : t.call (.addUnique value owner) = ((t.addUnique (some value) owner).1,
      .issued true (t.addUnique (some value) owner).2 value owner) := rfl
  rw [hcall, addUnique]
  split <;> rfl

theorem call_take (id : ℕ) : t.call (.take id) = ((t.take id).2, .taken id) := rfl

theorem call_retireOwned (device : δ) : t.call (.retireOwned device) = (t.retireOwned device, .retired device) := rfl

end

/-- The calls of a session in their order, and what was seen of them. -/
def callAll [DecidableEq α] (calls : List (Call δ α)) : Table δ α × List (Event δ α) :=
  calls.foldl (fun r c => ((r.1.call c).1, r.2 ++ [(r.1.call c).2])) ({}, [])

/-- The entry an event leaves under an id. -/
def after (entry : ℕ → Option (α × Option δ)) : Event δ α → ℕ → Option (α × Option δ)
  | .issued _ id value owner, i => if i = id then some (value, owner) else entry i
  | .taken id, i => if i = id then none else entry i
  | .retired device, i => (entry i).filter fun e => e.2 ≠ some device

/-- What a history says is live under an id. -/
def reads (h : List (Event δ α)) : ℕ → Option (α × Option δ) := h.foldl after fun _ => none

def Issued (h : List (Event δ α)) (id : ℕ) : Prop := ∃ unique value owner, .issued unique id value owner ∈ h

/-- The table reads as the history says; an id is new when it is issued, unless `add_unique` finds the live entry it
asks for; and what is gone stays so. -/
structure Sound (t : Table δ α) (h : List (Event δ α)) : Prop where
  get : ∀ id, t.get id = (reads h id).map Prod.fst
  owner : ∀ id, t.owner id = (reads h id).bind Prod.snd
  issued : ∀ h₁ unique id value owner h₂, h = h₁ ++ .issued unique id value owner :: h₂ →
    id ≠ 0 ∧ (Issued h₁ id ↔ unique = true ∧ ∃ i, reads h₁ i = some (value, owner)) ∧
      (Issued h₁ id → reads h₁ id = some (value, owner))
  gone : ∀ h₁ h₂ id, h = h₁ ++ h₂ → Issued h₁ id → reads h₁ id = none → reads h id = none

/-- The live entry in a slot. -/
def entry (t : Table δ α) (id : ℕ) : Option (α × Option δ) :=
  if id = 0 then none else (t.slots[id - 1]?).bind fun slot => slot.1.map (·, slot.2)

/-- What the slots hold is what the history says, an id is issued if it has a slot, and a slot without an object has
no owner. -/
structure Kept (t : Table δ α) (h : List (Event δ α)) : Prop where
  entry : ∀ id, t.entry id = reads h id
  issued : ∀ id, Issued h id ↔ 0 < id ∧ id ≤ t.slots.length
  cleared : ∀ o, (none, o) ∈ t.slots → o = none

section

variable {t : Table δ α} {h : List (Event δ α)}

theorem reads_append (h : List (Event δ α)) (e : Event δ α) : reads (h ++ [e]) = after (reads h) e := by
  rw [reads, List.foldl_append]
  rfl

omit [DecidableEq δ] in
theorem issued_append {e : Event δ α} {id : ℕ} :
    Issued (h ++ [e]) id ↔ Issued h id ∨ ∃ unique value owner, e = .issued unique id value owner := by
  unfold Issued
  constructor
  · rintro ⟨u, v, o, hmem⟩
    rcases List.mem_append.1 hmem with hmem | hmem
    · exact .inl ⟨u, v, o, hmem⟩
    · exact .inr ⟨u, v, o, (List.mem_singleton.1 hmem).symm⟩
  · rintro (⟨u, v, o, hmem⟩ | ⟨u, v, o, rfl⟩)
    · exact ⟨u, v, o, List.mem_append_left _ hmem⟩
    · exact ⟨u, v, o, List.mem_append_right _ (List.mem_singleton_self _)⟩

omit [DecidableEq δ] in
theorem entry_eq_some {id : ℕ} {value : α} {owner : Option δ} :
    t.entry id = some (value, owner) ↔ id ≠ 0 ∧ t.slots[id - 1]? = some (some value, owner) := by
  unfold entry
  split
  · next h0 => simp [h0]
  · next h0 =>
    rw [Option.bind_eq_some_iff]
    constructor
    · rintro ⟨⟨v, o⟩, hslot, hv⟩
      obtain ⟨v', hv', heq⟩ := Option.map_eq_some_iff.1 hv
      obtain ⟨rfl, rfl⟩ := Prod.mk.inj heq
      exact ⟨h0, hv' ▸ hslot⟩
    · rintro ⟨-, hslot⟩
      exact ⟨_, hslot, rfl⟩

omit [DecidableEq δ] in
/-- An entry is live under some id if its slot is there. -/
theorem exists_entry {value : α} {owner : Option δ} :
    (∃ id, t.entry id = some (value, owner)) ↔ (some value, owner) ∈ t.slots := by
  constructor
  · rintro ⟨id, hid⟩
    exact List.mem_of_getElem? (entry_eq_some.1 hid).2
  · intro hmem
    obtain ⟨i, hi⟩ := List.mem_iff_getElem?.1 hmem
    exact ⟨i + 1, entry_eq_some.2 ⟨Nat.succ_ne_zero i, hi⟩⟩

theorem kept_nil : Kept ({} : Table δ α) [] where
  entry id := by
    unfold Table.entry
    split <;> rfl
  issued id := by
    constructor
    · rintro ⟨u, v, o, hmem⟩
      cases hmem
    · rintro ⟨hpos, hle⟩
      exact absurd hle (Nat.not_le.2 hpos)
  cleared o hmem := by cases hmem

theorem Kept.add (hk : Kept t h) (unique : Bool) (value : α) (owner : Option δ) :
    Kept (t.add (some value) owner).1 (h ++ [.issued unique (t.slots.length + 1) value owner]) where
  entry id := by
    rw [reads_append]
    unfold after
    dsimp only
    split
    · next hid =>
      subst hid
      rw [entry_eq_some]
      exact ⟨Nat.succ_ne_zero _, by simp [Table.add]⟩
    · next hne =>
      rw [← hk.entry id]
      unfold Table.entry Table.add
      split
      · rfl
      · next h0 =>
        rcases Nat.lt_or_ge (id - 1) t.slots.length with hlt | hge
        · rw [List.getElem?_append_left hlt]
        · rw [List.getElem?_eq_none (by rw [List.length_append, List.length_singleton]; omega),
            List.getElem?_eq_none hge]
  issued id := by
    rw [issued_append, hk.issued]
    simp only [Table.add, List.length_append, List.length_singleton]
    constructor
    · rintro (⟨hpos, hle⟩ | ⟨u, v, o, heq⟩)
      · exact ⟨hpos, Nat.le_succ_of_le hle⟩
      · obtain ⟨-, rfl, -, -⟩ := Event.issued.inj heq
        exact ⟨Nat.succ_pos _, Nat.le_refl _⟩
    · rintro ⟨hpos, hle⟩
      rcases Nat.eq_or_lt_of_le hle with rfl | hlt
      · exact .inr ⟨_, _, _, rfl⟩
      · exact .inl ⟨hpos, Nat.le_of_lt_succ hlt⟩
  cleared o hmem := by
    rcases List.mem_append.1 hmem with hmem | hmem
    · exact hk.cleared o hmem
    · cases List.mem_singleton.1 hmem

/-- `add_unique` finds a live entry. -/
theorem Kept.found [DecidableEq α] (hk : Kept t h) {value : α} {owner : Option δ} (hmem : (some value, owner) ∈ t.slots) :
    Kept t (h ++ [.issued true (t.slots.idxOf (some value, owner) + 1) value owner]) ∧
      reads h (t.slots.idxOf (some value, owner) + 1) = some (value, owner) := by
  have hlt := List.idxOf_lt_length_iff.2 hmem
  have hlive : reads h (t.slots.idxOf (some value, owner) + 1) = some (value, owner) := by
    rw [← hk.entry, entry_eq_some]
    refine ⟨Nat.succ_ne_zero _, ?_⟩
    rw [Nat.add_sub_cancel, List.getElem?_eq_getElem hlt, List.getElem_idxOf]
  refine ⟨⟨fun id => ?_, fun id => ?_, hk.cleared⟩, hlive⟩
  · rw [reads_append, hk.entry]
    unfold after
    dsimp only
    split
    · next hid => rw [hid, hlive]
    · rfl
  · rw [issued_append, hk.issued]
    constructor
    · rintro (hin | ⟨u, v, o, heq⟩)
      · exact hin
      · obtain ⟨-, rfl, -, -⟩ := Event.issued.inj heq
        exact ⟨Nat.succ_pos _, hlt⟩
    · exact .inl

theorem Kept.take (hk : Kept t h) (id : ℕ) : Kept (t.take id).2 (h ++ [.taken id]) where
  entry i := by
    rw [reads_append]
    unfold after
    dsimp only
    rw [← hk.entry i]
    unfold Table.take Table.entry
    by_cases h0 : id = 0
    · rw [if_pos h0]
      dsimp only
      split
      · next hi => simp [hi]
      · next hi => rw [if_neg (by omega)]
    · rw [if_neg h0]
      dsimp only
      split
      · simp
      · next hi =>
        by_cases heq : i = id
        · subst heq
          rw [if_pos rfl]
          rcases Nat.lt_or_ge (i - 1) t.slots.length with hlt | hge
          · rw [List.getElem?_set_self hlt]
            rfl
          · rw [List.getElem?_eq_none (by rw [List.length_set]; exact hge)]
            rfl
        · rw [if_neg heq, List.getElem?_set_ne (by omega)]
  issued i := by
    rw [issued_append, hk.issued]
    have hlen : (t.take id).2.slots.length = t.slots.length := by
      unfold Table.take
      split
      · rfl
      · exact List.length_set
    rw [hlen]
    constructor
    · rintro (hin | ⟨u, v, o, heq⟩)
      · exact hin
      · cases heq
    · exact .inl
  cleared o hmem := by
    unfold Table.take at hmem
    split at hmem
    · exact hk.cleared o hmem
    · rcases List.mem_or_eq_of_mem_set hmem with hmem | heq
      · exact hk.cleared o hmem
      · exact (Prod.mk.inj heq).2

theorem Kept.retireOwned (hk : Kept t h) (device : δ) : Kept (t.retireOwned device) (h ++ [.retired device]) where
  entry i := by
    rw [reads_append]
    unfold after
    dsimp only
    rw [← hk.entry i]
    unfold Table.retireOwned takeOwned Table.entry
    dsimp only
    split
    · rfl
    · rw [List.getElem?_map]
      rcases t.slots[i - 1]? with _ | ⟨v, o⟩
      · rfl
      · dsimp only [Option.map_some, Option.bind_some]
        by_cases ho : o = some device
        · rw [if_pos ho]
          cases v with
          | none => rfl
          | some v => simp [ho, Option.filter_some]
        · rw [if_neg ho]
          cases v with
          | none => rfl
          | some v => simp [ho, Option.filter_some]
  issued i := by
    rw [issued_append, hk.issued]
    have hlen : (t.retireOwned device).slots.length = t.slots.length := List.length_map _
    rw [hlen]
    constructor
    · rintro (hin | ⟨u, v, o, heq⟩)
      · exact hin
      · cases heq
    · exact .inl
  cleared o hmem := by
    obtain ⟨slot, hslot, heq⟩ := List.mem_map.1 hmem
    split at heq
    · exact (Prod.mk.inj heq).2.symm
    · rw [heq] at hslot
      exact hk.cleared o hslot

/-- What is seen of a call, against what was seen before it. -/
structure Fits (h : List (Event δ α)) (e : Event δ α) : Prop where
  issued : ∀ unique id value owner, e = .issued unique id value owner →
    id ≠ 0 ∧ (Issued h id ↔ unique = true ∧ ∃ i, reads h i = some (value, owner)) ∧
      (Issued h id → reads h id = some (value, owner))

theorem kept_call [DecidableEq α] (hk : Kept t h) (c : Call δ α) :
    Kept (t.call c).1 (h ++ [(t.call c).2]) ∧ Fits h (t.call c).2 := by
  have hnew : ¬ Issued h (t.slots.length + 1) := fun hissued => by
    have := ((hk.issued _).1 hissued).2
    omega
  cases c with
  | add value owner =>
    rw [call_add]
    refine ⟨hk.add false value owner, ⟨fun u id v o heq => ?_⟩⟩
    obtain ⟨rfl, rfl, rfl, rfl⟩ := Event.issued.inj heq
    exact ⟨Nat.succ_ne_zero _, iff_of_false hnew fun hu => Bool.false_ne_true hu.1, fun hi => absurd hi hnew⟩
  | addUnique value owner =>
    by_cases hmem : (some value, owner) ∈ t.slots
    · obtain ⟨hkept, hlive⟩ := hk.found hmem
      rw [call_addUnique, if_pos hmem]
      refine ⟨hkept, ⟨fun u id v o heq => ?_⟩⟩
      obtain ⟨rfl, rfl, rfl, rfl⟩ := Event.issued.inj heq
      refine ⟨Nat.succ_ne_zero _, iff_of_true ?_ ⟨rfl, _, hlive⟩, fun _ => hlive⟩
      exact (hk.issued _).2 ⟨Nat.succ_pos _, List.idxOf_lt_length_iff.2 hmem⟩
    · rw [call_addUnique, if_neg hmem]
      refine ⟨hk.add true value owner, ⟨fun u id v o heq => ?_⟩⟩
      obtain ⟨rfl, rfl, rfl, rfl⟩ := Event.issued.inj heq
      refine ⟨Nat.succ_ne_zero _, iff_of_false hnew fun hu => ?_, fun hi => absurd hi hnew⟩
      obtain ⟨-, i, hi⟩ := hu
      rw [← hk.entry] at hi
      exact hmem (exists_entry.1 ⟨i, hi⟩)
  | take id =>
    rw [call_take]
    exact ⟨hk.take id, ⟨fun _ _ _ _ heq => by cases heq⟩⟩
  | retireOwned device =>
    rw [call_retireOwned]
    exact ⟨hk.retireOwned device, ⟨fun _ _ _ _ heq => by cases heq⟩⟩

/-- An id that is not live is not live after a call: none is issued again. -/
theorem Fits.gone {e : Event δ α} (hf : Fits h e) {id : ℕ} (hi : Issued h id) (hnone : reads h id = none) :
    reads (h ++ [e]) id = none := by
  rw [reads_append]
  unfold after
  cases e with
  | issued u i v o =>
    dsimp only
    split
    · next heq =>
      subst heq
      cases hnone.symm.trans ((hf.issued u id v o rfl).2.2 hi)
    · exact hnone
  | taken i =>
    dsimp only
    split
    · rfl
    · exact hnone
  | retired device =>
    dsimp only
    rw [hnone]
    rfl

theorem kept_callAll [DecidableEq α] (calls : List (Call δ α)) : Kept (callAll calls).1 (callAll calls).2 ∧
    (∀ h₁ e h₂, (callAll calls).2 = h₁ ++ e :: h₂ → Fits h₁ e) ∧
    ∀ h₁ h₂ id, (callAll calls).2 = h₁ ++ h₂ → Issued h₁ id → reads h₁ id = none → reads (callAll calls).2 id = none := by
  induction calls using List.reverseRecOn with
  | nil =>
    refine ⟨kept_nil, fun h₁ e h₂ heq => ?_, fun h₁ h₂ id heq _ _ => rfl⟩
    exact absurd heq.symm (List.append_ne_nil_of_right_ne_nil _ (List.cons_ne_nil _ _))
  | append_singleton calls c ih =>
    obtain ⟨hkept, hfits, hgone⟩ := ih
    obtain ⟨hkept', hfit⟩ := kept_call hkept c
    have hsnoc : callAll (calls ++ [c]) =
        (((callAll calls).1.call c).1, (callAll calls).2 ++ [((callAll calls).1.call c).2]) := by
      rw [callAll, List.foldl_append]
      rfl
    rw [hsnoc]
    refine ⟨hkept', fun h₁ e h₂ heq => ?_, fun h₁ h₂ id heq hi hnone => ?_⟩
    · rcases List.eq_nil_or_concat h₂ with rfl | ⟨h₂, e', rfl⟩
      · obtain ⟨rfl, hlast⟩ := List.append_inj' heq rfl
        obtain rfl := List.singleton_inj.1 hlast
        exact hfit
      · rw [List.concat_eq_append, ← List.cons_append, ← List.append_assoc] at heq
        exact hfits h₁ e h₂ (List.append_inj' heq rfl).1
    · rcases List.eq_nil_or_concat h₂ with rfl | ⟨h₂, e', rfl⟩
      · rw [List.append_nil] at heq
        dsimp only at heq ⊢
        rw [heq]
        exact hnone
      · rw [List.concat_eq_append, ← List.append_assoc] at heq
        obtain ⟨heq, -⟩ := List.append_inj' heq rfl
        have hbefore := hgone h₁ h₂ id heq hi hnone
        refine hfit.gone ?_ hbefore
        obtain ⟨u, v, o, hmem⟩ := hi
        exact ⟨u, v, o, heq ▸ List.mem_append_left _ hmem⟩

/-- Over any sequence of calls a table is what was seen of it. -/
theorem callAll_sound [DecidableEq α] (calls : List (Call δ α)) : Sound (callAll calls).1 (callAll calls).2 := by
  obtain ⟨hkept, hfits, hgone⟩ := kept_callAll calls
  refine ⟨fun id => ?_, fun id => ?_, fun h₁ u id v o h₂ heq => (hfits h₁ _ h₂ heq).issued u id v o rfl, hgone⟩
  · rw [← hkept.entry]
    unfold Table.get Table.entry
    split
    · rfl
    · rcases (callAll calls).1.slots[id - 1]? with _ | ⟨_ | v, o⟩ <;> rfl
  · rw [← hkept.entry]
    unfold Table.owner Table.entry
    split
    · rfl
    · rcases hslot : (callAll calls).1.slots[id - 1]? with _ | ⟨_ | v, o⟩
      · rfl
      · exact hkept.cleared o (List.mem_of_getElem? hslot)
      · rfl

end

end VkRemote.Server.Table
