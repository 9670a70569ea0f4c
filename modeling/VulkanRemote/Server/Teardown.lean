import VulkanRemote.Server.Account

/-! Each handler against the ledger: what it takes out of the tables is what `departures` says, and what it puts in
stands under new ids. -/

namespace VkRemote.Server

open Lib Wire Marshal

variable {H : Type}

/-- Tables that have lost what stands under some ids. -/
structure Departs (t t' : ObjectTables H) (ks : List (Key × How H)) : Prop where
  stock : t'.stock = without t.stock (ks.map Prod.fst)
  length : ∀ s, (t'.shelf s).slots.length = (t.shelf s).slots.length

namespace Departs

theorem refl (t : ObjectTables H) : Departs t t [] := ⟨(without_nil _).symm, fun _ => rfl⟩

theorem trans {t t' t'' : ObjectTables H} {ks ks' : List (Key × How H)} (h : Departs t t' ks)
    (h' : Departs t' t'' ks') : Departs t t'' (ks ++ ks') :=
  ⟨by rw [h'.stock, h.stock, List.map_append, without_append], fun s => (h'.length s).trans (h.length s)⟩

/-- Nothing is lost that was not there. -/
theorem of_shelf {t t' : ObjectTables H} {s : Shelf} {ids : List ℕ} {how : How H}
    (hself : (t'.shelf s).entry = without (t.shelf s).entry ids)
    (hlength : (t'.shelf s).slots.length = (t.shelf s).slots.length)
    (hothers : ∀ s' ≠ s, t'.shelf s' = t.shelf s') : Departs t t' (ids.map fun id => ((s, id), how)) := by
  constructor
  · funext ⟨s', id⟩
    unfold ObjectTables.stock without
    dsimp only
    rw [List.map_map]
    by_cases hs : s' = s
    · subst hs
      rw [hself, without]
      simp
    · rw [hothers s' hs, if_neg]
      intro hmem
      obtain ⟨id', -, heq⟩ := List.mem_map.1 hmem
      exact hs (congrArg Prod.fst heq).symm
  · intro s'
    by_cases hs : s' = s
    · subst hs
      exact hlength
    · rw [hothers s' hs]

theorem of_take {t t' : ObjectTables H} {s : Shelf} {id : ℕ} {how : How H}
    (hself : t'.shelf s = ((t.shelf s).take id).2) (hothers : ∀ s' ≠ s, t'.shelf s' = t.shelf s') :
    Departs t t' [((s, id), how)] := by
  change Departs t t' ([id].map fun id => ((s, id), how))
  refine of_shelf ?_ ?_ hothers
  · rw [hself, Table.take_eq_without]
  · rw [hself, Table.length_take]

/-- Out of one table, whatever else is noted. -/
theorem of_put {t t' : ObjectTables H} (s : Shelf) {id : ℕ} {how : How H}
    (h : t'.shelf = (t.put ((t.shelf s).take id).2 s).shelf) : Departs t t' [((s, id), how)] := by
  rw [ObjectTables.shelf_put] at h
  exact of_take (by rw [h, Function.update_self]) fun s' hs => by rw [h, Function.update_of_ne hs]

theorem of_takes {t t' : ObjectTables H} {s : Shelf} {ids : List ℕ} {how : How H}
    (hself : t'.shelf s = ids.foldl (fun table id => (table.take id).2) (t.shelf s))
    (hothers : ∀ s' ≠ s, t'.shelf s' = t.shelf s') : Departs t t' (ids.map fun id => ((s, id), how)) := by
  refine of_shelf ?_ ?_ hothers
  · rw [hself, Table.entry_takes]
  · rw [hself, Table.length_takes]

end Departs

section Teardown

variable [DecidableEq H] (t : ObjectTables H) (device : H)

/-- All tables whose objects have an owner. -/
def Shelf.hasOwners : Shelf → Bool
  | .devices => false
  | .surfaces => false
  | _ => true

theorem hasOwners_iff (s : Shelf) :
    s.hasOwners = true ↔ s ∈ ObjectTables.endedFirst ∨ s ∈ ObjectTables.endedLast ∨ s ∈ ObjectTables.retired := by
  cases s with
  | owned table => cases table <;> decide
  | _ => decide

theorem mem_teardown {s : Shelf} {id : ℕ} : (s, id) ∈ (t.teardown device).map Prod.fst ↔
    (s.hasOwners = true ∧ id ∈ (t.shelf s).ownedIds device) ∨
      s = .owned .images ∧ id ∈ t.swapchainImagesOf device := by
  rw [hasOwners_iff]
  unfold ObjectTables.teardown ObjectTables.endedOn ObjectTables.retiredOn
  simp only [List.map_append, List.mem_append, List.map_flatMap, List.map_map, List.mem_flatMap, List.mem_map,
    Function.comp_apply, Prod.mk.injEq]
  constructor
  · rintro (((⟨s', hs', id', hid', rfl, rfl⟩ | ⟨id', hid', rfl, rfl⟩) | ⟨s', hs', id', hid', rfl, rfl⟩) |
      ⟨s', hs', id', hid', rfl, rfl⟩)
    · exact .inl ⟨.inl hs', hid'⟩
    · exact .inr ⟨rfl, hid'⟩
    · exact .inl ⟨.inr (.inl hs'), hid'⟩
    · exact .inl ⟨.inr (.inr hs'), hid'⟩
  · rintro (⟨hs | hs | hs, hid⟩ | ⟨rfl, hid⟩)
    · exact .inl (.inl (.inl ⟨s, hs, id, hid, rfl, rfl⟩))
    · exact .inl (.inr ⟨s, hs, id, hid, rfl, rfl⟩)
    · exact .inr ⟨s, hs, id, hid, rfl, rfl⟩
    · exact .inl (.inl (.inr ⟨id, hid, rfl, rfl⟩))

/-- The images of the device's swapchains go first. -/
theorem entry_endedImages (id : ℕ) :
    ((t.destroyDeviceObjects device).owned .images).entry id =
      (without (t.owned .images).entry (t.swapchainImagesOf device) id).filter fun e => e.2 ≠ some device := by
  unfold ObjectTables.destroyDeviceObjects
  dsimp only
  rw [Function.update_self, Table.entry_destroyOwned, Table.entry_takes]

theorem shelf_destroyDeviceObjects {s : Shelf} (himages : s ≠ .owned .images) (id : ℕ) :
    ((t.destroyDeviceObjects device).shelf s).entry id =
      if s.hasOwners then ((t.shelf s).entry id).filter fun e => e.2 ≠ some device else (t.shelf s).entry id := by
  cases s with
  | devices => rfl
  | surfaces => rfl
  | queues => exact Table.entry_retireOwned ..
  | commandBuffers => exact Table.entry_retireOwned ..
  | descriptorSets => exact Table.entry_retireOwned ..
  | owned table =>
    have hne : table ≠ .images := fun heq => himages (congrArg Shelf.owned heq)
    unfold ObjectTables.destroyDeviceObjects ObjectTables.shelf
    dsimp only
    rw [Function.update_of_ne hne, Table.entry_destroyOwned]
    rfl
  | _ => exact Table.entry_destroyOwned ..

theorem length_destroyDeviceObjects (s : Shelf) :
    ((t.destroyDeviceObjects device).shelf s).slots.length = (t.shelf s).slots.length := by
  cases s with
  | devices => rfl
  | surfaces => rfl
  | queues => exact Table.length_retireOwned ..
  | commandBuffers => exact Table.length_retireOwned ..
  | descriptorSets => exact Table.length_retireOwned ..
  | owned table =>
    refine (Table.length_destroyOwned ..).trans ?_
    by_cases h : table = .images
    · subst h
      rw [Function.update_self, Table.length_takes]
      rfl
    · rw [Function.update_of_ne h]
      rfl
  | _ => exact Table.length_destroyOwned ..

theorem departs_teardown : Departs t (t.destroyDeviceObjects device) (t.teardown device) := by
  refine ⟨?_, length_destroyDeviceObjects t device⟩
  funext ⟨s, id⟩
  have howned := Table.without_ownedIds (t.shelf s) device id
  unfold without at howned
  unfold ObjectTables.stock without
  dsimp only
  by_cases himages : s = .owned .images
  · subst himages
    have hmem : (.owned .images, id) ∈ (t.teardown device).map Prod.fst ↔
        (Shelf.hasOwners (.owned .images) = true ∧ id ∈ (t.shelf (.owned .images)).ownedIds device) ∨
          Shelf.owned .images = .owned .images ∧ id ∈ t.swapchainImagesOf device := mem_teardown t device
    refine (entry_endedImages t device id).trans ?_
    unfold without
    by_cases hborrowed : id ∈ t.swapchainImagesOf device
    · rw [if_pos hborrowed, if_pos (hmem.2 (.inr ⟨rfl, hborrowed⟩))]
      rfl
    · rw [if_neg hborrowed]
      refine howned.symm.trans ?_
      congr 1
      rw [hmem]
      simp [hborrowed, Shelf.hasOwners]
  · rw [shelf_destroyDeviceObjects t device himages, ← howned]
    cases hhas : s.hasOwners with
    | false =>
      have hnot : (s, id) ∉ (t.teardown device).map Prod.fst := by
        rw [mem_teardown, hhas]
        simp [himages]
      rw [if_neg hnot]
      rfl
    | true =>
      rw [if_pos rfl]
      congr 1
      rw [mem_teardown, hhas]
      simp [himages]

end Teardown

/-! ### The requests that take something out -/

section Destroys

variable [DecidableEq H] {t : ObjectTables H} {request : List UInt8}

theorem departs_endDevice (t : ObjectTables H) (id : ℕ) (device : H) :
    Departs t ({ t with devices := (t.devices.take id).2 }.destroyDeviceObjects device) (t.endDevice id device) := by
  have hchildren := departs_teardown t device
  have hdevice : Departs (t.destroyDeviceObjects device)
      ({ t with devices := (t.devices.take id).2 }.destroyDeviceObjects device)
      [((Shelf.devices, id), How.ended none)] := .of_put .devices rfl
  exact hchildren.trans hdevice

theorem departs_destroyDevice (t : ObjectTables H) (request : List UInt8) (found : LookedUp → H → Bool) :
    Departs t (t.handleDestroyDevice request).1 (DestroyRequest.departures t request found .destroyDevice) := by
  unfold ObjectTables.handleDestroyDevice DestroyRequest.departures
  dsimp only
  rw [Table.take_fst]
  cases hget : t.devices.get (Reader.handle ⟨request, false⟩).1.toNat with
  | none =>
    have hnothing : (t.devices.take (Reader.handle ⟨request, false⟩).1.toNat).2.entry = t.devices.entry := by
      rw [Table.get_eq_entry, Option.map_eq_none_iff] at hget
      rw [Table.entry_take, ← hget, Function.update_eq_self]
    change Departs t _ (([] : List ℕ).map fun id => ((Shelf.devices, id), How.dropped))
    refine .of_shelf (hnothing.trans (without_nil _).symm) (Table.length_take ..) fun s hs => ?_
    cases s with
    | devices => exact absurd rfl hs
    | _ => rfl
  | some device =>
    dsimp only
    split
    · exact departs_endDevice t _ _
    · exact .of_put .devices rfl

theorem takenCommandBuffers_shelf (ids : List ℕ) (s : Shelf) (hs : s ≠ .commandBuffers) :
    (ids.foldl ObjectTables.takeCommandBuffer t).shelf s = t.shelf s := by
  induction ids generalizing t with
  | nil => rfl
  | cons id ids ih =>
    rw [List.foldl_cons, ih]
    cases s with
    | commandBuffers => exact absurd rfl hs
    | _ => rfl

theorem takenCommandBuffers_self (ids : List ℕ) :
    (ids.foldl ObjectTables.takeCommandBuffer t).commandBuffers =
      ids.foldl (fun table id => (table.take id).2) t.commandBuffers := by
  induction ids generalizing t with
  | nil => rfl
  | cons id ids ih => rw [List.foldl_cons, ih, List.foldl_cons]; rfl

theorem departs_freeCommandBuffers (found : LookedUp → H → Bool) :
    Departs t (t.handleFreeCommandBuffers request).1
      (DestroyRequest.departures t request found .freeCommandBuffers) := by
  unfold DestroyRequest.departures
  have htables : (t.handleFreeCommandBuffers request).1 =
      (freedCommandBuffers request).foldl ObjectTables.takeCommandBuffer t := by
    unfold ObjectTables.handleFreeCommandBuffers freedCommandBuffers
    dsimp only
    split
    · rfl
    · exact DestroyRequest.takeCommandBuffers_eq ..
  dsimp only
  rw [htables]
  exact .of_takes (takenCommandBuffers_self _) fun s hs => takenCommandBuffers_shelf _ s hs

theorem departs_destroyOwned (found : LookedUp → H → Bool) (table : OwnedTable) :
    Departs t (t.handleDestroyOwned table request).1
      (DestroyRequest.departures t request found (.destroyOwned table)) := by
  unfold ObjectTables.handleDestroyOwned DestroyRequest.departures
  dsimp only
  cases t.devices.get (ObjectTables.readIds request).1 with
  | none => exact .refl t
  | some device =>
    dsimp only
    split
    · exact .refl t
    · exact .of_put (.owned table) rfl

theorem clear_setsOf (t : ObjectTables H) (pool : H) :
    (t.descriptorSets.clear fun id => (t.descriptorSetOwners id).any (·.pool = pool)).entry =
      without t.descriptorSets.entry (t.setsOf pool) := by
  funext id
  rw [Table.entry_clear]
  unfold without ObjectTables.setsOf
  simp only [List.mem_filter, List.mem_range'_1]
  by_cases hpool : (t.descriptorSetOwners id).any (·.pool = pool) = true
  · rw [if_pos hpool]
    split
    · rfl
    · next hnot =>
      rcases Nat.eq_zero_or_pos id with rfl | hpos
      · rfl
      · refine (Table.entry_of_lt _ ?_).symm
        by_contra hle
        exact hnot ⟨⟨hpos, by omega⟩, hpool⟩
  · rw [if_neg hpool, if_neg fun h => hpool h.2]

theorem departs_dropSetsOf (t : ObjectTables H) (pool : H) :
    Departs t (t.dropSetsOf pool) ((t.setsOf pool).map fun id => ((.descriptorSets, id), .dropped)) := by
  refine .of_shelf (clear_setsOf t pool) List.length_mapIdx fun s hs => ?_
  cases s with
  | descriptorSets => exact absurd rfl hs
  | _ => rfl

theorem departs_destroyDescriptorPool (found : LookedUp → H → Bool) :
    Departs t (t.handleDestroyDescriptorPool request).1
      (DestroyRequest.departures t request found .destroyDescriptorPool) := by
  unfold ObjectTables.handleDestroyDescriptorPool DestroyRequest.departures
  dsimp only
  cases t.devices.get (ObjectTables.readIds request).1 with
  | none => exact .refl t
  | some device =>
    cases t.descriptorPools.get (ObjectTables.readIds request).2.1 with
    | none => exact .refl t
    | some pool =>
      dsimp only
      split
      · exact .refl t
      · exact (departs_dropSetsOf t pool).trans (.of_put .descriptorPools rfl)

theorem departs_freeMemory (found : LookedUp → H → Bool) :
    Departs t (t.handleFreeMemory request).1 (DestroyRequest.departures t request found .freeMemory) := by
  unfold ObjectTables.handleFreeMemory DestroyRequest.departures
  dsimp only
  cases t.devices.get (ObjectTables.readIds request).1 with
  | none => exact .refl t
  | some device =>
    dsimp only
    split
    · exact .refl t
    · exact .of_put .memories rfl

theorem departs_destroySwapchain (found : LookedUp → H → Bool) :
    Departs t (t.handleDestroySwapchain request).1
      (DestroyRequest.departures t request found .destroySwapchain) := by
  have htaken : ∀ how : How H,
      Departs t { t with swapchains := (t.swapchains.take (ObjectTables.readIds request).2.1).2 }
        [((.swapchains, (ObjectTables.readIds request).2.1), how)] := fun how => .of_put .swapchains rfl
  unfold ObjectTables.handleDestroySwapchain DestroyRequest.departures
  dsimp only
  rw [Table.take_fst]
  cases t.devices.get (ObjectTables.readIds request).1 with
  | none => exact htaken _
  | some device =>
    cases t.swapchains.get (ObjectTables.readIds request).2.1 with
    | none => exact htaken _
    | some swapchain =>
      dsimp only
      split
      · exact htaken _
      · have himages := Function.update_self OwnedTable.images
          (((t.swapchainImageIds (ObjectTables.readIds request).2.1).getD []).foldl
            (fun table id => (table.take id).2) (t.owned .images)) t.owned
        refine (htaken _).trans (.of_takes himages fun s hs => ?_)
        cases s with
        | owned other => exact Function.update_of_ne (fun heq => hs (congrArg Shelf.owned heq)) ..
        | _ => rfl

theorem departs_lookedUp (found : LookedUp → H → Bool) (function : LookedUp) (owner object : Option H) {k : Key}
    {taken erased : ObjectTables H} (htaken : ∀ how, Departs t taken [(k, how)])
    (herased : ∀ how, Departs t erased [(k, how)]) :
    Departs t (ObjectTables.destroyLookedUp found function t request owner object taken erased).1
      (lookedUpDepartures t request k owner (found function)) := by
  unfold ObjectTables.destroyLookedUp lookedUpDepartures
  dsimp only
  cases t.devices.get (ObjectTables.readIds request).1 with
  | none => exact .refl t
  | some device =>
    dsimp only
    split
    · exact .refl t
    · split
      · exact htaken _
      · exact herased _

theorem departs_destroyDescriptorUpdateTemplate (found : LookedUp → H → Bool) :
    Departs t (t.handleDestroyDescriptorUpdateTemplate found request).1
      (DestroyRequest.departures t request found .destroyDescriptorUpdateTemplate) :=
  departs_lookedUp found _ _ _ (fun _ => .of_put .descriptorUpdateTemplates rfl)
    fun _ => .of_put .descriptorUpdateTemplates rfl

theorem departs_destroySamplerYcbcrConversion (found : LookedUp → H → Bool) :
    Departs t (t.handleDestroySamplerYcbcrConversion found request).1
      (DestroyRequest.departures t request found .destroySamplerYcbcrConversion) :=
  departs_lookedUp found _ _ _ (fun _ => .of_put .samplerYcbcrConversions rfl)
    fun _ => .of_put .samplerYcbcrConversions rfl

/-- What a destroy request takes out is what it is said to. -/
theorem departs_handle (found : LookedUp → H → Bool) (d : DestroyRequest) :
    Departs t (d.handle found t request).1 (d.departures t request found) := by
  cases d with
  | destroyDevice => exact departs_destroyDevice t request found
  | destroyFence => exact .of_put .fences rfl
  | destroySemaphore => exact .of_put .semaphores rfl
  | freeCommandBuffers => exact departs_freeCommandBuffers found
  | destroyOwned table => exact departs_destroyOwned found table
  | destroyDescriptorPool => exact departs_destroyDescriptorPool found
  | freeMemory => exact departs_freeMemory found
  | destroySurface => exact .of_put .surfaces rfl
  | destroySwapchain => exact departs_destroySwapchain found
  | destroyDescriptorUpdateTemplate => exact departs_destroyDescriptorUpdateTemplate found
  | destroySamplerYcbcrConversion => exact departs_destroySamplerYcbcrConversion found

omit [DecidableEq H] in
theorem dropSets_self (ids : List ℕ) :
    (ids.foldl ObjectTables.dropSet t).descriptorSets =
      ids.foldl (fun table id => (table.take id).2) t.descriptorSets := by
  induction ids generalizing t with
  | nil => rfl
  | cons id ids ih => rw [List.foldl_cons, ih, List.foldl_cons]; rfl

omit [DecidableEq H] in
theorem dropSets_shelf (ids : List ℕ) (s : Shelf) (hs : s ≠ .descriptorSets) :
    (ids.foldl ObjectTables.dropSet t).shelf s = t.shelf s := by
  induction ids generalizing t with
  | nil => rfl
  | cons id ids ih =>
    rw [List.foldl_cons, ih]
    cases s with
    | descriptorSets => exact absurd rfl hs
    | _ => rfl

theorem departs_freeDescriptorSets (a : Findings H) :
    Departs t (t.handleFreeDescriptorSets request a) (freedDepartures t request a) := by
  unfold ObjectTables.handleFreeDescriptorSets freedDepartures
  cases t.freedSets request with
  | none => exact .refl t
  | some ids =>
    dsimp only
    split
    · exact .of_takes (dropSets_self ids) fun s hs => dropSets_shelf ids s hs
    · exact .refl t

theorem departs_resetDescriptorPool (a : Findings H) :
    Departs t (t.handleResetDescriptorPool request a) (resetDepartures t request a) := by
  unfold ObjectTables.handleResetDescriptorPool resetDepartures
  cases t.resetPool request with
  | none => exact .refl t
  | some pool =>
    dsimp only
    split
    · exact departs_dropSetsOf t pool
    · exact .refl t

end Destroys

end VkRemote.Server
