import VulkanRemote.Server.SessionRuns

/-! The side maps of a session: whatever they note of a device, that device is in its table, and where a table has an
owner too, both agree. So an object goes to the destroy call of the device that made it, where the handler asks the
table or its side map. -/

namespace VkRemote.Server

open Lib Wire Marshal

variable {H : Type}

/-- The side maps, without the ids of swapchain images. -/
structure Notes (H : Type) where
  memoryMetadata : ℕ → Option H := fun _ => none
  devicePhysicalDevices : H → Option H := fun _ => none
  commandBufferDevices : Option H → Option H := fun _ => none
  descriptorSetOwners : ℕ → Option (DescriptorSetOwner H) := fun _ => none
  descriptorUpdateTemplateOwners : ℕ → Option H := fun _ => none
  descriptorUpdateTemplateEntries : ℕ → Option (List VkDescriptorUpdateTemplateEntry) := fun _ => none
  samplerYcbcrConversionOwners : ℕ → Option H := fun _ => none
  swapchainDevices : H → Option H := fun _ => none
  swapchainSurfaces : H → Option H := fun _ => none

namespace ObjectTables

def notes (t : ObjectTables H) : Notes H :=
  { t with }

theorem notes_put (t : ObjectTables H) (table : Table H H) (s : Shelf) : (t.put table s).notes = t.notes := by
  cases s <;> rfl

theorem notes_keep (t : ObjectTables H) (s : Shelf) (object owner : Option H) :
    (t.keep s object owner).notes = t.notes := notes_put ..

def Live (t : ObjectTables H) (device : H) : Prop := ∃ id, t.devices.get id = some device

/-- The owner in a table is the one in its side map. -/
def Agrees (t : ObjectTables H) (s : Shelf) (owners : ℕ → Option H) : Prop :=
  ∀ id device item, owners id = some device → t.stock (s, id) = some item → item.2 = some device

end ObjectTables

/-- What the side maps say is true. -/
structure Truthful (t : ObjectTables H) : Prop where
  memory : ∀ id device, t.notes.memoryMetadata id = some device → t.Live device
  physical : ∀ device physical, t.notes.devicePhysicalDevices device = some physical → t.Live device
  commandBuffers : ∀ cb device, t.notes.commandBufferDevices cb = some device → t.Live device
  sets : ∀ id owner, t.notes.descriptorSetOwners id = some owner → t.Live owner.device
  templates : ∀ id device, t.notes.descriptorUpdateTemplateOwners id = some device → t.Live device
  entries : ∀ id, t.notes.descriptorUpdateTemplateEntries id ≠ none →
    t.notes.descriptorUpdateTemplateOwners id ≠ none
  conversions : ∀ id device, t.notes.samplerYcbcrConversionOwners id = some device → t.Live device
  swapchains : ∀ swapchain device, t.notes.swapchainDevices swapchain = some device → t.Live device
  surfaces : ∀ swapchain, t.notes.swapchainSurfaces swapchain ≠ none →
    t.notes.swapchainDevices swapchain ≠ none
  memoryOwner : t.Agrees .memories t.notes.memoryMetadata
  templateOwner : t.Agrees .descriptorUpdateTemplates t.notes.descriptorUpdateTemplateOwners
  conversionOwner : t.Agrees .samplerYcbcrConversions t.notes.samplerYcbcrConversionOwners

/-! ### Notes that are struck out -/

/-- Notes have been struck out, all that name one device if there is one. -/
structure Struck (n n' : Notes H) (gone : Option H) : Prop where
  memory : ∀ id device, n'.memoryMetadata id = some device → n.memoryMetadata id = some device ∧ some device ≠ gone
  physical : ∀ device physical, n'.devicePhysicalDevices device = some physical →
    n.devicePhysicalDevices device = some physical ∧ some device ≠ gone
  commandBuffers : ∀ cb device, n'.commandBufferDevices cb = some device →
    n.commandBufferDevices cb = some device ∧ some device ≠ gone
  sets : ∀ id owner, n'.descriptorSetOwners id = some owner →
    n.descriptorSetOwners id = some owner ∧ some owner.device ≠ gone
  templates : ∀ id device, n'.descriptorUpdateTemplateOwners id = some device →
    n.descriptorUpdateTemplateOwners id = some device ∧ some device ≠ gone
  entries : ∀ id, n'.descriptorUpdateTemplateEntries id ≠ none → n.descriptorUpdateTemplateEntries id ≠ none ∧
    n'.descriptorUpdateTemplateOwners id = n.descriptorUpdateTemplateOwners id
  conversions : ∀ id device, n'.samplerYcbcrConversionOwners id = some device →
    n.samplerYcbcrConversionOwners id = some device ∧ some device ≠ gone
  swapchains : ∀ swapchain device, n'.swapchainDevices swapchain = some device →
    n.swapchainDevices swapchain = some device ∧ some device ≠ gone
  surfaces : ∀ swapchain, n'.swapchainSurfaces swapchain ≠ none → n.swapchainSurfaces swapchain ≠ none ∧
    n'.swapchainDevices swapchain = n.swapchainDevices swapchain

theorem struck_refl (n : Notes H) : Struck n n none where
  memory _ _ h := ⟨h, by simp⟩
  physical _ _ h := ⟨h, by simp⟩
  commandBuffers _ _ h := ⟨h, by simp⟩
  sets _ _ h := ⟨h, by simp⟩
  templates _ _ h := ⟨h, by simp⟩
  entries _ h := ⟨h, rfl⟩
  conversions _ _ h := ⟨h, by simp⟩
  swapchains _ _ h := ⟨h, by simp⟩
  surfaces _ h := ⟨h, rfl⟩

theorem erased {α β : Type} [DecidableEq α] {f : α → Option β} {a a' : α} {b : β}
    (h : Function.update f a none a' = some b) : f a' = some b ∧ a' ≠ a := by
  by_cases heq : a' = a
  · subst heq
    rw [Function.update_self] at h
    cases h
  · rw [Function.update_of_ne heq] at h
    exact ⟨h, heq⟩

theorem Truthful.struck {t t' : ObjectTables H} {gone : Option H} (h : Truthful t)
    (hstruck : Struck t.notes t'.notes gone)
    (hdevices : ∀ device, t.Live device → some device ≠ gone → t'.Live device)
    (hstock : ∀ k item, t'.stock k = some item → t.stock k = some item) : Truthful t' where
  memory id device hnote := by
    obtain ⟨hbefore, hne⟩ := hstruck.memory id device hnote
    exact hdevices device (h.memory id device hbefore) hne
  physical device physical hnote := by
    obtain ⟨hbefore, hne⟩ := hstruck.physical device physical hnote
    exact hdevices device (h.physical device physical hbefore) hne
  commandBuffers cb device hnote := by
    obtain ⟨hbefore, hne⟩ := hstruck.commandBuffers cb device hnote
    exact hdevices device (h.commandBuffers cb device hbefore) hne
  sets id owner hnote := by
    obtain ⟨hbefore, hne⟩ := hstruck.sets id owner hnote
    exact hdevices owner.device (h.sets id owner hbefore) hne
  templates id device hnote := by
    obtain ⟨hbefore, hne⟩ := hstruck.templates id device hnote
    exact hdevices device (h.templates id device hbefore) hne
  entries id hnote := by
    obtain ⟨hbefore, hsame⟩ := hstruck.entries id hnote
    rw [hsame]
    exact h.entries id hbefore
  conversions id device hnote := by
    obtain ⟨hbefore, hne⟩ := hstruck.conversions id device hnote
    exact hdevices device (h.conversions id device hbefore) hne
  swapchains swapchain device hnote := by
    obtain ⟨hbefore, hne⟩ := hstruck.swapchains swapchain device hnote
    exact hdevices device (h.swapchains swapchain device hbefore) hne
  surfaces swapchain hnote := by
    obtain ⟨hbefore, hsame⟩ := hstruck.surfaces swapchain hnote
    rw [hsame]
    exact h.surfaces swapchain hbefore
  memoryOwner id device item hnote hitem :=
    h.memoryOwner id device item (hstruck.memory id device hnote).1 (hstock _ _ hitem)
  templateOwner id device item hnote hitem :=
    h.templateOwner id device item (hstruck.templates id device hnote).1 (hstock _ _ hitem)
  conversionOwner id device item hnote hitem :=
    h.conversionOwner id device item (hstruck.conversions id device hnote).1 (hstock _ _ hitem)

theorem Truthful.depart {t t' : ObjectTables H} {ks : List (Key × How H)} (h : Truthful t)
    (hdeparts : Departs t t' ks) (hkeeps : KeepsDevices ks) (hstruck : Struck t.notes t'.notes none) :
    Truthful t' := by
  refine h.struck hstruck (fun device hlive _ => ?_) fun k item hitem => ?_
  · obtain ⟨id, hget⟩ := hlive
    exact ⟨id, (hdeparts.get_devices hkeeps id).trans hget⟩
  · rw [hdeparts.stock] at hitem
    exact (without_eq_some hitem).2

section Struck

variable [DecidableEq H] {t : ObjectTables H} {request : List UInt8}

theorem filtered {α : Type} {o : Option α} {p : α → Bool} {a : α} (h : o.filter p = some a) :
    o = some a ∧ p a = true := by
  obtain ⟨h, hp⟩ := Option.filter_eq_some_iff.1 h
  exact ⟨h, hp⟩

theorem struck_destroyDeviceObjects (device : H) :
    Struck t.notes (t.destroyDeviceObjects device).notes (some device) where
  memory id device' h := by
    obtain ⟨h, hne⟩ := filtered h
    exact ⟨h, by simpa using hne⟩
  physical device' physical h := by
    obtain ⟨h, hne⟩ := erased h
    exact ⟨h, by simpa using hne⟩
  commandBuffers cb device' h := by
    obtain ⟨h, hne⟩ := filtered h
    exact ⟨h, by simpa using hne⟩
  sets id owner h := by
    obtain ⟨h, hne⟩ := filtered h
    exact ⟨h, by simpa using hne⟩
  templates id device' h := by
    obtain ⟨h, hne⟩ := filtered h
    exact ⟨h, by simpa using hne⟩
  entries id h := by
    change (if t.descriptorUpdateTemplateOwners id = some device then none
      else t.descriptorUpdateTemplateEntries id) ≠ none at h
    split at h
    · exact absurd rfl h
    · next hne =>
      refine ⟨h, ?_⟩
      change (t.descriptorUpdateTemplateOwners id).filter (· ≠ device) = t.descriptorUpdateTemplateOwners id
      cases howner : t.descriptorUpdateTemplateOwners id with
      | none => rfl
      | some owner =>
        rw [howner] at hne
        have hother : owner ≠ device := fun heq => hne (congrArg some heq)
        simp [Option.filter, hother]
  conversions id device' h := by
    obtain ⟨h, hne⟩ := filtered h
    exact ⟨h, by simpa using hne⟩
  swapchains swapchain device' h := by
    obtain ⟨h, hne⟩ := filtered h
    exact ⟨h, by simpa using hne⟩
  surfaces swapchain h := by
    change (if t.swapchainDevices swapchain = some device then none else t.swapchainSurfaces swapchain) ≠ none at h
    split at h
    · exact absurd rfl h
    · next hne =>
      refine ⟨h, ?_⟩
      change (t.swapchainDevices swapchain).filter (· ≠ device) = t.swapchainDevices swapchain
      cases howner : t.swapchainDevices swapchain with
      | none => rfl
      | some owner =>
        rw [howner] at hne
        have hother : owner ≠ device := fun heq => hne (congrArg some heq)
        simp [Option.filter, hother]

omit [DecidableEq H] in
theorem Struck.trans {n n' n'' : Notes H} (h : Struck n n' none) (h' : Struck n' n'' none) : Struck n n'' none where
  memory id device hnote := h.memory id device (h'.memory id device hnote).1
  physical device physical hnote := h.physical device physical (h'.physical device physical hnote).1
  commandBuffers cb device hnote := h.commandBuffers cb device (h'.commandBuffers cb device hnote).1
  sets id owner hnote := h.sets id owner (h'.sets id owner hnote).1
  templates id device hnote := h.templates id device (h'.templates id device hnote).1
  entries id hnote := by
    obtain ⟨hbetween, hsame'⟩ := h'.entries id hnote
    obtain ⟨hbefore, hsame⟩ := h.entries id hbetween
    exact ⟨hbefore, hsame'.trans hsame⟩
  conversions id device hnote := h.conversions id device (h'.conversions id device hnote).1
  swapchains swapchain device hnote := h.swapchains swapchain device (h'.swapchains swapchain device hnote).1
  surfaces swapchain hnote := by
    obtain ⟨hbetween, hsame'⟩ := h'.surfaces swapchain hnote
    obtain ⟨hbefore, hsame⟩ := h.surfaces swapchain hbetween
    exact ⟨hbefore, hsame'.trans hsame⟩

theorem struck_takeCommandBuffers (ids : List ℕ) (t : ObjectTables H) :
    Struck t.notes (ids.foldl ObjectTables.takeCommandBuffer t).notes none := by
  induction ids generalizing t with
  | nil => exact struck_refl _
  | cons id ids ih =>
    have hone : Struck t.notes (t.takeCommandBuffer id).notes none :=
      { struck_refl t.notes with commandBuffers := fun cb device h => ⟨(erased h).1, by simp⟩ }
    exact hone.trans (ih _)

omit [DecidableEq H] in
theorem struck_dropSets (ids : List ℕ) (t : ObjectTables H) :
    Struck t.notes (ids.foldl ObjectTables.dropSet t).notes none := by
  induction ids generalizing t with
  | nil => exact struck_refl _
  | cons id ids ih =>
    have hone : Struck t.notes (t.dropSet id).notes none :=
      { struck_refl t.notes with sets := fun id owner h => ⟨(erased h).1, by simp⟩ }
    exact hone.trans (ih _)

theorem struck_dropSetsOf (t : ObjectTables H) (pool : H) : Struck t.notes (t.dropSetsOf pool).notes none :=
  { struck_refl t.notes with sets := fun _ _ h => ⟨(filtered h).1, by simp⟩ }

theorem struck_destroySwapchain : Struck t.notes (t.handleDestroySwapchain request).1.notes none := by
  unfold ObjectTables.handleDestroySwapchain
  dsimp only
  split
  · split
    · exact struck_refl t.notes
    · exact { struck_refl t.notes with
        swapchains := fun swapchain device h => ⟨(erased h).1, by simp⟩
        surfaces := fun swapchain h => by
          obtain ⟨surface, hsurface⟩ := Option.ne_none_iff_exists'.1 h
          obtain ⟨hbefore, hne⟩ := erased hsurface
          exact ⟨Option.ne_none_iff_exists'.2 ⟨surface, hbefore⟩, Function.update_of_ne hne ..⟩ }
  · exact struck_refl t.notes

theorem struck_lookedUp (found : LookedUp → H → Bool) (function : LookedUp) (owner object : Option H)
    {taken erased : ObjectTables H} (htaken : Struck t.notes taken.notes none)
    (herased : Struck t.notes erased.notes none) :
    Struck t.notes (ObjectTables.destroyLookedUp found function t request owner object taken erased).1.notes none := by
  unfold ObjectTables.destroyLookedUp
  dsimp only
  split
  · exact struck_refl t.notes
  · split
    · exact struck_refl t.notes
    · split
      · exact htaken
      · exact herased

theorem struck_destroyDescriptorUpdateTemplate (found : LookedUp → H → Bool) :
    Struck t.notes (t.handleDestroyDescriptorUpdateTemplate found request).1.notes none :=
  struck_lookedUp found _ _ _ (struck_refl t.notes) { struck_refl t.notes with
    templates := fun id device h => ⟨(erased h).1, by simp⟩
    entries := fun id h => by
      obtain ⟨entries, hentries⟩ := Option.ne_none_iff_exists'.1 h
      obtain ⟨hbefore, hne⟩ := erased hentries
      exact ⟨Option.ne_none_iff_exists'.2 ⟨entries, hbefore⟩, Function.update_of_ne hne ..⟩ }

theorem struck_destroySamplerYcbcrConversion (found : LookedUp → H → Bool) :
    Struck t.notes (t.handleDestroySamplerYcbcrConversion found request).1.notes none :=
  struck_lookedUp found _ _ _ (struck_refl t.notes) { struck_refl t.notes with
    conversions := fun id device h => ⟨(erased h).1, by simp⟩ }

theorem struck_handle (found : LookedUp → H → Bool) {d : DestroyRequest} (hd : d ≠ .destroyDevice) :
    Struck t.notes (d.handle found t request).1.notes none := by
  cases d with
  | destroyDevice => exact absurd rfl hd
  | destroyFence => exact struck_refl t.notes
  | destroySemaphore => exact struck_refl t.notes
  | freeCommandBuffers =>
    change Struck t.notes (t.handleFreeCommandBuffers request).1.notes none
    unfold ObjectTables.handleFreeCommandBuffers
    dsimp only
    split
    · exact struck_refl t.notes
    · dsimp only
      rw [DestroyRequest.takeCommandBuffers_eq]
      exact struck_takeCommandBuffers _ t
  | destroyOwned table =>
    change Struck t.notes (t.handleDestroyOwned table request).1.notes none
    unfold ObjectTables.handleDestroyOwned
    dsimp only
    split
    · exact struck_refl t.notes
    · split <;> exact struck_refl t.notes
  | destroyDescriptorPool =>
    change Struck t.notes (t.handleDestroyDescriptorPool request).1.notes none
    unfold ObjectTables.handleDestroyDescriptorPool
    dsimp only
    split
    · next pool _ _ =>
      split
      · exact struck_refl t.notes
      · exact struck_dropSetsOf t _
    · exact struck_refl t.notes
  | freeMemory =>
    change Struck t.notes (t.handleFreeMemory request).1.notes none
    unfold ObjectTables.handleFreeMemory
    dsimp only
    split
    · exact struck_refl t.notes
    · split
      · exact struck_refl t.notes
      · exact { struck_refl t.notes with memory := fun id device h => ⟨(erased h).1, by simp⟩ }
  | destroySurface => exact struck_refl t.notes
  | destroySwapchain => exact struck_destroySwapchain
  | destroyDescriptorUpdateTemplate => exact struck_destroyDescriptorUpdateTemplate found
  | destroySamplerYcbcrConversion => exact struck_destroySamplerYcbcrConversion found

theorem Truthful.endDevice {id : ℕ} {device : H} (h : Truthful t) (hget : t.devices.get id = some device) :
    Truthful ({ t with devices := (t.devices.take id).2 }.destroyDeviceObjects device) := by
  have hdeparts := departs_endDevice t id device
  refine h.struck (struck_destroyDeviceObjects device) (fun device' hlive hne => ?_) fun k item hitem => ?_
  · obtain ⟨id', hget'⟩ := hlive
    have hother : id' ≠ id := by
      rintro rfl
      exact hne (hget'.symm.trans hget)
    refine ⟨id', ?_⟩
    change (t.devices.take id).2.get id' = some device'
    rw [Table.get_eq_entry, Table.entry_take, Function.update_of_ne hother, ← Table.get_eq_entry]
    exact hget'
  · rw [hdeparts.stock] at hitem
    exact (without_eq_some hitem).2

end Struck

end VkRemote.Server
