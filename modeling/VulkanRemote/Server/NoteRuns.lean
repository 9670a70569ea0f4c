import VulkanRemote.Server.Notes

/-! The side maps over whole sessions. -/

namespace VkRemote.Server

open Lib Wire Marshal

variable {H : Type}

/-! ### Notes that are made -/

section Made

variable [DecidableEq H] {t t' : ObjectTables H} {request : List UInt8} {a : Findings H}

omit [DecidableEq H] in
theorem Extends.live {s : Shelf} {owner : Option H} (hext : Extends t t' s owner) {device : H}
    (hlive : t.Live device) : t'.Live device := by
  obtain ⟨id, hget⟩ := hlive
  obtain ⟨owner', hentry⟩ := Table.exists_entry_of_get _ hget
  have hle : id ≤ (t.shelf .devices).slots.length := by
    by_contra hlt
    cases hentry.symm.trans (Table.entry_of_lt t.devices (Nat.not_le.1 hlt))
  exact ⟨id, Table.get_of_entry _ ((hext.entry_of_le hle).trans hentry)⟩

omit [DecidableEq H] in
/-- What is new under an id has the owner that is noted for it; for old ids the note is as before. -/
theorem Extends.agrees {s s' : Shelf} {owner : Option H} {owners owners' : ℕ → Option H}
    (hext : Extends t t' s owner) (h : t.Agrees s' owners)
    (hold : ∀ id device, id ≤ (t.shelf s').slots.length → owners' id = some device → owners id = some device)
    (hnew : s' = s → ∀ id device, (t.shelf s).slots.length < id → id ≤ (t'.shelf s).slots.length →
      owners' id = some device → owner = some device) : t'.Agrees s' owners' := by
  intro id device item hnote hitem
  rcases Nat.lt_or_ge (t.shelf s').slots.length id with hlt | hle
  · obtain ⟨rfl, howner⟩ := hext.new hitem hlt
    rw [howner]
    refine hnew rfl id device hlt ?_ hnote
    by_contra hbeyond
    cases hitem.symm.trans (Table.entry_of_lt _ (Nat.not_le.1 hbeyond))
  · exact h id device item (hold id device hle hnote) ((hext.entry_of_le hle).symm.trans hitem)

omit [DecidableEq H] in
theorem Extends.agrees_of_ne {s s' : Shelf} {owner : Option H} {owners : ℕ → Option H}
    (hext : Extends t t' s owner) (h : t.Agrees s' owners) (hs : s' ≠ s) : t'.Agrees s' owners :=
  hext.agrees h (fun _ _ _ hnote => hnote) fun heq => absurd heq hs

omit [DecidableEq H] in
/-- A note for the one new id. -/
theorem Extends.agrees_update {s : Shelf} {device : H} {owners : ℕ → Option H}
    (hext : Extends t t' s (some device)) (hlength : (t'.shelf s).slots.length = (t.shelf s).slots.length + 1)
    (h : t.Agrees s owners) :
    t'.Agrees s (Function.update owners ((t.shelf s).slots.length + 1) (some device)) := by
  refine hext.agrees h (fun id device' hle hnote => ?_) fun _ id device' hlt hle hnote => ?_
  · rw [Function.update_of_ne (by omega)] at hnote
    exact hnote
  · have hid : id = (t.shelf s).slots.length + 1 := by omega
    rw [hid, Function.update_self] at hnote
    exact hnote

/-- Notes have been made of devices that are there. -/
structure Added (n n' : Notes H) (live : H → Prop) : Prop where
  memory : ∀ id device, n'.memoryMetadata id = some device → n.memoryMetadata id = some device ∨ live device
  physical : ∀ device physical, n'.devicePhysicalDevices device = some physical →
    n.devicePhysicalDevices device = some physical ∨ live device
  commandBuffers : ∀ cb device, n'.commandBufferDevices cb = some device →
    n.commandBufferDevices cb = some device ∨ live device
  sets : ∀ id owner, n'.descriptorSetOwners id = some owner →
    n.descriptorSetOwners id = some owner ∨ live owner.device
  templates : ∀ id device, n'.descriptorUpdateTemplateOwners id = some device →
    n.descriptorUpdateTemplateOwners id = some device ∨ live device
  entries : ∀ id, n'.descriptorUpdateTemplateEntries id ≠ none → n.descriptorUpdateTemplateEntries id ≠ none ∧
    n'.descriptorUpdateTemplateOwners id = n.descriptorUpdateTemplateOwners id ∨
      n'.descriptorUpdateTemplateOwners id ≠ none
  conversions : ∀ id device, n'.samplerYcbcrConversionOwners id = some device →
    n.samplerYcbcrConversionOwners id = some device ∨ live device
  swapchains : ∀ swapchain device, n'.swapchainDevices swapchain = some device →
    n.swapchainDevices swapchain = some device ∨ live device
  surfaces : ∀ swapchain, n'.swapchainSurfaces swapchain ≠ none → n.swapchainSurfaces swapchain ≠ none ∧
    n'.swapchainDevices swapchain = n.swapchainDevices swapchain ∨ n'.swapchainDevices swapchain ≠ none

omit [DecidableEq H] in
theorem added_refl (n : Notes H) (live : H → Prop) : Added n n live where
  memory _ _ h := .inl h
  physical _ _ h := .inl h
  commandBuffers _ _ h := .inl h
  sets _ _ h := .inl h
  templates _ _ h := .inl h
  entries _ h := .inl ⟨h, rfl⟩
  conversions _ _ h := .inl h
  swapchains _ _ h := .inl h
  surfaces _ h := .inl ⟨h, rfl⟩

theorem updated {α β : Type} [DecidableEq α] {f : α → Option β} {a a' : α} {b b' : β}
    (h : Function.update f a (some b) a' = some b') : f a' = some b' ∨ (a' = a ∧ b' = b) := by
  by_cases heq : a' = a
  · subst heq
    rw [Function.update_self] at h
    exact .inr ⟨rfl, (Option.some.inj h).symm⟩
  · rw [Function.update_of_ne heq] at h
    exact .inl h

/-- Two maps that get an entry for the same key. -/
theorem updated_both {α β γ : Type} [DecidableEq α] {f : α → Option β} {g : α → Option γ} {a a' : α}
    {b : Option β} {c : γ} (h : Function.update f a b a' ≠ none) :
    (f a' ≠ none ∧ Function.update g a (some c) a' = g a') ∨ Function.update g a (some c) a' ≠ none := by
  by_cases heq : a' = a
  · right
    rw [heq, Function.update_self]
    exact Option.some_ne_none c
  · left
    rw [Function.update_of_ne heq] at h
    exact ⟨h, Function.update_of_ne heq ..⟩

omit [DecidableEq H] in
theorem Truthful.added (s : Shelf) (owner : Option H) (h : Truthful t) (hext : Extends t t' s owner)
    (hadded : Added t.notes t'.notes t'.Live) (hmemory : t'.Agrees .memories t'.notes.memoryMetadata)
    (htemplate : t'.Agrees .descriptorUpdateTemplates t'.notes.descriptorUpdateTemplateOwners)
    (hconversion : t'.Agrees .samplerYcbcrConversions t'.notes.samplerYcbcrConversionOwners) : Truthful t' where
  memory id device hnote := by
    rcases hadded.memory id device hnote with hold | hlive
    · exact hext.live (h.memory id device hold)
    · exact hlive
  physical device physical hnote := by
    rcases hadded.physical device physical hnote with hold | hlive
    · exact hext.live (h.physical device physical hold)
    · exact hlive
  commandBuffers cb device hnote := by
    rcases hadded.commandBuffers cb device hnote with hold | hlive
    · exact hext.live (h.commandBuffers cb device hold)
    · exact hlive
  sets id owner hnote := by
    rcases hadded.sets id owner hnote with hold | hlive
    · exact hext.live (h.sets id owner hold)
    · exact hlive
  templates id device hnote := by
    rcases hadded.templates id device hnote with hold | hlive
    · exact hext.live (h.templates id device hold)
    · exact hlive
  entries id hnote := by
    rcases hadded.entries id hnote with ⟨hold, hsame⟩ | howner
    · rw [hsame]
      exact h.entries id hold
    · exact howner
  conversions id device hnote := by
    rcases hadded.conversions id device hnote with hold | hlive
    · exact hext.live (h.conversions id device hold)
    · exact hlive
  swapchains swapchain device hnote := by
    rcases hadded.swapchains swapchain device hnote with hold | hlive
    · exact hext.live (h.swapchains swapchain device hold)
    · exact hlive
  surfaces swapchain hnote := by
    rcases hadded.surfaces swapchain hnote with ⟨hold, hsame⟩ | hdevice
    · rw [hsame]
      exact h.surfaces swapchain hold
    · exact hdevice
  memoryOwner := hmemory
  templateOwner := htemplate
  conversionOwner := hconversion

/-- The tables that have side maps with owners. -/
def Shelf.noted : Shelf → Bool
  | .memories => true
  | .descriptorUpdateTemplates => true
  | .samplerYcbcrConversions => true
  | _ => false

omit [DecidableEq H] in
/-- Beside the tables with owners of their own in a side map. -/
theorem Truthful.extends (s : Shelf) (owner : Option H) (h : Truthful t) (hext : Extends t t' s owner)
    (hs : s.noted = false) (hadded : Added t.notes t'.notes t'.Live)
    (hsame : t'.notes.memoryMetadata = t.notes.memoryMetadata ∧
      t'.notes.descriptorUpdateTemplateOwners = t.notes.descriptorUpdateTemplateOwners ∧
      t'.notes.samplerYcbcrConversionOwners = t.notes.samplerYcbcrConversionOwners) : Truthful t' := by
  obtain ⟨hmemory, htemplate, hconversion⟩ := hsame
  refine h.added s owner hext hadded ?_ ?_ ?_
  · rw [hmemory]
    exact hext.agrees_of_ne h.memoryOwner (by rintro rfl; cases hs)
  · rw [htemplate]
    exact hext.agrees_of_ne h.templateOwner (by rintro rfl; cases hs)
  · rw [hconversion]
    exact hext.agrees_of_ne h.conversionOwner (by rintro rfl; cases hs)

omit [DecidableEq H] in
theorem Truthful.unnoted {s : Shelf} {owner : Option H} (h : Truthful t) (hext : Extends t t' s owner)
    (hs : s.noted = false) (hnotes : t'.notes = t.notes) : Truthful t' := by
  refine h.extends s owner hext hs ?_ ⟨?_, ?_, ?_⟩
  · rw [hnotes]
    exact added_refl _ _
  all_goals rw [hnotes]

omit [DecidableEq H] in
theorem Truthful.keep (h : Truthful t) {s : Shelf} (hs : s.noted = false) (object owner : Option H) :
    Truthful (t.keep s object owner) :=
  h.unnoted (.keep t s object owner) hs (ObjectTables.notes_keep ..)

omit [DecidableEq H] in
theorem truthful_for {f : H → ObjectTables H} (h : Truthful t) (hf : ∀ device, t.Live device → Truthful (f device)) :
    Truthful (match t.deviceFor request a with | none => t | some device => f device) := by
  cases hdevice : t.deviceFor request a with
  | none => exact h
  | some device => exact hf device (get_of_deviceFor hdevice)

omit [DecidableEq H] in
theorem Truthful.ite {c : Prop} [Decidable c] (h : Truthful t) (h' : Truthful t') :
    Truthful (if c then t' else t) := by
  split
  · exact h'
  · exact h

omit [DecidableEq H] in
theorem live_keep_devices (device : H) (owner : Option H) : (t.keep .devices (some device) owner).Live device := by
  refine ⟨t.devices.slots.length + 1, ?_⟩
  change (t.devices.add (some device) owner).1.get _ = some device
  rw [Table.get_eq_entry, Table.entry_add, Function.update_self]
  rfl

theorem Truthful.createDevice (h : Truthful t) (physical : Option H) :
    Truthful (t.handleCreateDevice physical a) := by
  cases physical with
  | none => exact h
  | some physical =>
    refine h.ite (h.extends .devices none ?_ rfl ?_ ⟨rfl, rfl, rfl⟩)
    · exact (Extends.keep t .devices a.object none).congr (by funext s; cases s <;> rfl)
    · refine { added_refl t.notes _ with physical := fun device physical' hnote => ?_ }
      cases hobject : a.object with
      | none =>
        rw [hobject] at hnote
        exact .inl hnote
      | some made =>
        rw [hobject] at hnote
        rcases updated hnote with hold | ⟨rfl, -⟩
        · exact .inl hold
        · exact .inr (live_keep_devices device none)

theorem Truthful.keepQueue (h : Truthful t) (queue : Option H) (device : H) :
    Truthful (t.keepQueue queue device) :=
  h.unnoted (extends_keepQueue queue device) rfl rfl

omit [DecidableEq H] in
/-- One command buffer or descriptor set after another, of a device that stays. -/
theorem Truthful.foldl {α : Type} {f : ObjectTables H → α → ObjectTables H} {s : Shelf} {device : H}
    (hext : ∀ t a, Extends t (f t a) s (some device))
    (hone : ∀ t a, Truthful t → t.Live device → Truthful (f t a)) (h : Truthful t) (hlive : t.Live device)
    (as : List α) : Truthful (as.foldl f t) :=
  (List.foldlRecOn as f (motive := fun t => Truthful t ∧ t.Live device) ⟨h, hlive⟩ fun t ht a _ =>
    ⟨hone t a ht.1 ht.2, (hext t a).live ht.2⟩).1

theorem Truthful.keepCommandBuffer {device : H} (h : Truthful t) (hlive : t.Live device) (cb : Option H) :
    Truthful (ObjectTables.keepCommandBuffer device t cb) := by
  have hext := extends_keepCommandBuffer device t cb
  refine h.extends .commandBuffers (some device) hext rfl ?_ ⟨rfl, rfl, rfl⟩
  refine { added_refl t.notes _ with commandBuffers := fun cb device' hnote => ?_ }
  rcases updated hnote with hold | ⟨-, rfl⟩
  · exact .inl hold
  · exact .inr (hext.live hlive)

omit [DecidableEq H] in
theorem Truthful.keepDescriptorSet {owner : DescriptorSetOwner H} (h : Truthful t) (hlive : t.Live owner.device)
    (set : Option H) : Truthful (ObjectTables.keepDescriptorSet owner t set) := by
  have hext := extends_keepDescriptorSet owner t set
  refine h.extends .descriptorSets (some owner.device) hext rfl ?_ ⟨rfl, rfl, rfl⟩
  refine { added_refl t.notes _ with sets := fun id owner' hnote => ?_ }
  rcases updated hnote with hold | ⟨-, rfl⟩
  · exact .inl hold
  · exact .inr (hext.live hlive)

omit [DecidableEq H] in
theorem Truthful.keepMemory {device : H} (h : Truthful t) (hlive : t.Live device) (memory : Option H) :
    Truthful { t.keep .memories memory (some device) with
      memoryMetadata := Function.update t.memoryMetadata (t.memories.slots.length + 1) (some device) } := by
  have hkeep := Extends.keep t .memories memory (some device)
  refine h.added .memories (some device) (hkeep.congr (by funext s; cases s <;> rfl)) ?_ ?_ ?_ ?_
  · refine { added_refl t.notes _ with memory := fun id device' hnote => ?_ }
    rcases updated hnote with hold | ⟨-, rfl⟩
    · exact .inl hold
    · exact .inr hlive
  · exact hkeep.agrees_update (Table.length_add ..) h.memoryOwner
  · exact hkeep.agrees_of_ne h.templateOwner (by simp)
  · exact hkeep.agrees_of_ne h.conversionOwner (by simp)

omit [DecidableEq H] in
theorem Truthful.keepTemplate {device : H} (h : Truthful t) (hlive : t.Live device) (template : Option H)
    (entries : List VkDescriptorUpdateTemplateEntry) :
    Truthful { t.keep .descriptorUpdateTemplates template (some device) with
      descriptorUpdateTemplateOwners := Function.update t.descriptorUpdateTemplateOwners
        (t.descriptorUpdateTemplates.slots.length + 1) (some device)
      descriptorUpdateTemplateEntries := Function.update t.descriptorUpdateTemplateEntries
        (t.descriptorUpdateTemplates.slots.length + 1) (some entries) } := by
  have hkeep := Extends.keep t .descriptorUpdateTemplates template (some device)
  refine h.added .descriptorUpdateTemplates (some device)
    (hkeep.congr (by funext s; cases s <;> rfl)) ?_ ?_ ?_ ?_
  · refine { added_refl t.notes _ with
      templates := fun id device' hnote => ?_
      entries := fun id hnote => ?_ }
    · rcases updated hnote with hold | ⟨-, rfl⟩
      · exact .inl hold
      · exact .inr hlive
    · exact updated_both hnote
  · exact hkeep.agrees_of_ne h.memoryOwner (by simp)
  · exact hkeep.agrees_update (Table.length_add ..) h.templateOwner
  · exact hkeep.agrees_of_ne h.conversionOwner (by simp)

omit [DecidableEq H] in
theorem Truthful.keepConversion {device : H} (h : Truthful t) (hlive : t.Live device) (conversion : Option H) :
    Truthful { t.keep .samplerYcbcrConversions conversion (some device) with
      samplerYcbcrConversionOwners := Function.update t.samplerYcbcrConversionOwners
        (t.samplerYcbcrConversions.slots.length + 1) (some device) } := by
  have hkeep := Extends.keep t .samplerYcbcrConversions conversion (some device)
  refine h.added .samplerYcbcrConversions (some device)
    (hkeep.congr (by funext s; cases s <;> rfl)) ?_ ?_ ?_ ?_
  · refine { added_refl t.notes _ with conversions := fun id device' hnote => ?_ }
    rcases updated hnote with hold | ⟨-, rfl⟩
    · exact .inl hold
    · exact .inr hlive
  · exact hkeep.agrees_of_ne h.memoryOwner (by simp)
  · exact hkeep.agrees_of_ne h.templateOwner (by simp)
  · exact hkeep.agrees_update (Table.length_add ..) h.conversionOwner

theorem Truthful.keepSwapchain {device : H} (h : Truthful t) (hlive : t.Live device) (swapchain : H)
    (surface : Option H) :
    Truthful { t.keep .swapchains (some swapchain) (some device) with
      swapchainDevices := Function.update t.swapchainDevices swapchain (some device)
      swapchainSurfaces := Function.update t.swapchainSurfaces swapchain surface } := by
  have hkeep := Extends.keep t .swapchains (some swapchain) (some device)
  refine h.extends .swapchains (some device) (hkeep.congr (by funext s; cases s <;> rfl)) rfl ?_
    ⟨rfl, rfl, rfl⟩
  refine { added_refl t.notes _ with
    swapchains := fun swapchain' device' hnote => ?_
    surfaces := fun swapchain' hnote => ?_ }
  · rcases updated hnote with hold | ⟨-, rfl⟩
    · exact .inl hold
    · exact .inr hlive
  · exact updated_both hnote

omit [DecidableEq H] in
theorem Truthful.getSwapchainImages (h : Truthful t) : Truthful (t.handleGetSwapchainImages request a) := by
  unfold ObjectTables.handleGetSwapchainImages
  dsimp only
  split
  · split
    · exact h
    · split
      · exact h
      · next device _ _ _ _ _ =>
        have hall := List.foldlRecOn a.objects (fun t image => ObjectTables.keep t (.owned .images) image (some device))
          (motive := Truthful) h fun t ht image _ => ht.keep rfl image (some device)
        have hsame : ∀ n : Notes H, Struck n n none := struck_refl
        exact hall.struck (hsame _) (fun _ hlive _ => hlive) fun k item hitem => hitem
  · exact h

theorem Truthful.create (h : Truthful t) (c : CreateRequest H) : Truthful (c.handle t request a) := by
  cases c with
  | createDevice physical => exact h.createDevice physical
  | getDeviceQueue => exact truthful_for h fun device _ => h.keepQueue a.object device
  | getDeviceQueue2 => exact truthful_for h fun device _ => h.ite (h.keepQueue a.object device)
  | createOwned table => exact truthful_for h fun device _ => h.ite (h.keep rfl a.object (some device))
  | createFence => exact truthful_for h fun device _ => h.ite (h.keep rfl a.object (some device))
  | createSemaphore => exact truthful_for h fun device _ => h.ite (h.keep rfl a.object (some device))
  | createDescriptorPool => exact truthful_for h fun device _ => h.ite (h.keep rfl a.object (some device))
  | createPipelines =>
    exact truthful_for h fun device _ =>
      List.foldlRecOn a.objects _ h fun t ht pipeline _ => ht.ite (ht.keep rfl pipeline (some device))
  | allocateCommandBuffers =>
    exact truthful_for h fun device hlive => h.ite (h.foldl (extends_keepCommandBuffer device)
      (fun t cb ht hlive => ht.keepCommandBuffer hlive cb) hlive a.objects)
  | allocateDescriptorSets pool =>
    exact truthful_for h fun device hlive => h.ite (h.foldl (extends_keepDescriptorSet ⟨device, pool⟩)
      (fun t set ht hlive => ht.keepDescriptorSet hlive set) hlive a.objects)
  | allocateMemory => exact truthful_for h fun device hlive => h.ite (h.keepMemory hlive a.object)
  | createDescriptorUpdateTemplate entries =>
    exact truthful_for h fun device hlive => h.ite (h.keepTemplate hlive a.object entries)
  | createSamplerYcbcrConversion =>
    exact truthful_for h fun device hlive => h.ite (h.keepConversion hlive a.object)
  | createSurface => exact h.ite (h.keep rfl a.object none)
  | createSwapchain surface =>
    change Truthful (t.handleCreateSwapchain surface request a)
    unfold ObjectTables.handleCreateSwapchain
    split
    · next device swapchain hdevice _ => exact h.ite (h.keepSwapchain (get_of_deviceFor hdevice) swapchain surface)
    · exact h
  | getSwapchainImages => exact h.getSwapchainImages

end Made

section Steps

variable [DecidableEq H] {t : ObjectTables H} {s : TableSession H} {request : List UInt8}

theorem Truthful.destroyDevice (h : Truthful t) (found : LookedUp → H → Bool) :
    Truthful (t.handleDestroyDevice request).1 := by
  have hdeparts := departs_destroyDevice t request found
  unfold DestroyRequest.departures at hdeparts
  unfold ObjectTables.handleDestroyDevice at hdeparts ⊢
  dsimp only at hdeparts ⊢
  rw [Table.take_fst] at hdeparts ⊢
  cases hget : t.devices.get (Reader.handle ⟨request, false⟩).1.toNat with
  | none =>
    rw [hget] at hdeparts
    exact h.depart hdeparts keepsDevices_nil (struck_refl _)
  | some device =>
    have hok : (Reader.handle ⟨request, false⟩).2.ok = true := by
      by_contra hnot
      rw [handle_of_not_ok (by simpa using hnot)] at hget
      cases hget
    dsimp only
    rw [if_pos hok]
    exact h.endDevice hget

theorem Truthful.destroy (h : Truthful t) (found : LookedUp → H → Bool) (d : DestroyRequest) :
    Truthful (d.handle found t request).1 := by
  by_cases hd : d = .destroyDevice
  · subst hd
    exact h.destroyDevice found
  · exact h.depart (departs_handle found d) (keepsDevices_departures found hd) (struck_handle found hd)

theorem Truthful.freeDescriptorSets (h : Truthful t) (a : Findings H) :
    Truthful (t.handleFreeDescriptorSets request a) := by
  refine h.depart (departs_freeDescriptorSets a) (keepsDevices_freed a) ?_
  unfold ObjectTables.handleFreeDescriptorSets
  split
  · exact struck_refl _
  · split
    · exact struck_dropSets _ t
    · exact struck_refl _

theorem Truthful.resetDescriptorPool (h : Truthful t) (a : Findings H) :
    Truthful (t.handleResetDescriptorPool request a) := by
  refine h.depart (departs_resetDescriptorPool a) (keepsDevices_reset a) ?_
  unfold ObjectTables.handleResetDescriptorPool
  split
  · exact struck_refl _
  · split
    · exact struck_dropSetsOf t _
    · exact struck_refl _

theorem Truthful.closeDevice (h : Truthful s.tables) (id : ℕ) : Truthful (s.closeDevice id).tables := by
  unfold TableSession.closeDevice
  split
  · exact h
  · next device hget => exact h.endDevice hget

theorem Truthful.close (h : Truthful s.tables) : Truthful s.close.tables := by
  have hdevices := List.foldlRecOn (List.range' 1 s.tables.devices.slots.length) TableSession.closeDevice
    (motive := fun s => Truthful s.tables) h fun s hs id _ => hs.closeDevice id
  exact hdevices.depart (departs_closeSurfaces _) (keepsDevices_map (by decide) _) (struck_refl _)

theorem truthful_step {found : LookedUp → H → Bool} {a : Action H} {s' : TableSession H} (h : Truthful s.tables)
    (hs : s.step found a = some s') : Truthful s'.tables := by
  obtain ⟨-, rfl⟩ := TableSession.step_eq_some.1 hs
  cases a with
  | create c request a =>
    exact h.create c
  | destroy d request =>
    exact h.destroy found d
  | freeDescriptorSets request a =>
    exact h.freeDescriptorSets a
  | resetDescriptorPool request a =>
    exact h.resetDescriptorPool a
  | disconnect =>
    exact h.close

omit [DecidableEq H] in
theorem truthful_initial : Truthful ({} : ObjectTables H) := by
  constructor
  all_goals nofun

end Steps

/-! ### Who ends an object -/

/-- The tables whose destroy handlers compare the owner; those of fences, semaphores, descriptor pools and swapchains
do not look into the table. -/
def Shelf.compared : Shelf → Bool
  | .fences => false
  | .semaphores => false
  | .descriptorPools => false
  | .swapchains => false
  | _ => true

/-- An object goes to the driver with the device that it belongs to. -/
def EndedByOwner (log : Log H) : Prop :=
  ∀ k item device, .left k item (.ended (some device)) ∈ log → k.1.compared → item.2 = some device

section Owners

variable [DecidableEq H] {t : ObjectTables H} {s : TableSession H} {request : List UInt8}

omit [DecidableEq H] in
theorem EndedByOwner.append {log log' : Log H} (h : EndedByOwner log) (h' : EndedByOwner log') :
    EndedByOwner (log ++ log') := fun k item device hmem =>
  (List.mem_append.1 hmem).elim (h k item device) (h' k item device)

omit [DecidableEq H] in
theorem endedByOwner_arrivals (t t' : ObjectTables H) (shelf : Shelf) : EndedByOwner (t.arrivals t' shelf) := by
  intro k item device hmem
  obtain ⟨_, _, heq, -⟩ := mem_entering hmem
  cases heq

omit [DecidableEq H] in
theorem endedByOwner_leaving {ks : List (Key × How H)}
    (h : ∀ k device item, (k, .ended (some device)) ∈ ks → k.1.compared → t.stock k = some item →
      item.2 = some device) : EndedByOwner (leaving t.stock ks) := by
  intro k item device hmem hk
  obtain ⟨hin, hitem⟩ := mem_leaving hmem
  exact h k device item hin hk hitem

theorem endedByOwner_endDevice (id : ℕ) (device : H) : EndedByOwner (leaving t.stock (t.endDevice id device)) := by
  refine endedByOwner_leaving fun k device' item hmem _ hitem => ?_
  have hended : ∀ shelves : List Shelf, (k, .ended (some device')) ∈ shelves.flatMap (t.endedOn device) →
      item.2 = some device' := by
    intro shelves hmem
    obtain ⟨shelf, -, hmem⟩ := List.mem_flatMap.1 hmem
    obtain ⟨id', hid', heq⟩ := List.mem_map.1 hmem
    obtain ⟨rfl, hdevice⟩ := Prod.mk.inj heq
    obtain rfl := Option.some.inj (How.ended.inj hdevice)
    obtain ⟨object, hobject⟩ := (Table.mem_ownedIds _ _).1 hid'
    obtain rfl := Option.some.inj (hobject.symm.trans hitem)
    rfl
  unfold ObjectTables.endDevice ObjectTables.teardown at hmem
  simp only [List.mem_append] at hmem
  rcases hmem with (((hfirst | himages) | hlast) | hretired) | hdevice
  · exact hended _ hfirst
  · obtain ⟨_, -, heq⟩ := List.mem_map.1 himages
    cases heq
  · exact hended _ hlast
  · obtain ⟨_, -, hmem⟩ := List.mem_flatMap.1 hretired
    obtain ⟨_, -, heq⟩ := List.mem_map.1 hmem
    cases heq
  · cases List.mem_singleton.1 hdevice

omit [DecidableEq H] in
theorem handed_eq_ended {ok : Bool} {device : Option H} {device' : H} (h : How.handed ok device = .ended (some device')) :
    device = some device' := by
  cases ok <;> cases device <;> simp_all [How.handed]

theorem endedByOwner_lookedUp {k : Key} {owner : Option H} {found : H → Bool}
    (h : ∀ device item, owner = some device → t.stock k = some item → item.2 = some device) :
    EndedByOwner (leaving t.stock (lookedUpDepartures t request k owner found)) := by
  unfold lookedUpDepartures
  dsimp only
  split
  · exact endedByOwner_leaving nofun
  · split
    · exact endedByOwner_leaving nofun
    · next hchecks =>
      refine endedByOwner_leaving fun k' device item hmem _ hitem => ?_
      obtain ⟨rfl, hdevice⟩ := Prod.mk.inj (List.mem_singleton.1 hmem)
      obtain rfl := Option.some.inj (handed_eq_ended hdevice.symm)
      exact h _ item (by simp_all) hitem

theorem endedByOwner_departures (h : Truthful t) (found : LookedUp → H → Bool) (d : DestroyRequest) :
    EndedByOwner (leaving t.stock (d.departures t request found)) := by
  cases d with
  | destroyDevice =>
    unfold DestroyRequest.departures
    dsimp only
    split
    · exact endedByOwner_leaving nofun
    · split
      · exact endedByOwner_endDevice (t := t) _ _
      · exact endedByOwner_leaving fun k device item hmem => by cases List.mem_singleton.1 hmem
  | destroyFence =>
    refine endedByOwner_leaving fun k device item hmem hk => ?_
    obtain ⟨rfl, -⟩ := Prod.mk.inj (List.mem_singleton.1 hmem)
    cases hk
  | destroySemaphore =>
    refine endedByOwner_leaving fun k device item hmem hk => ?_
    obtain ⟨rfl, -⟩ := Prod.mk.inj (List.mem_singleton.1 hmem)
    cases hk
  | freeCommandBuffers =>
    refine endedByOwner_leaving fun k device item hmem => ?_
    unfold DestroyRequest.departures at hmem
    obtain ⟨id, -, heq⟩ := List.mem_map.1 hmem
    have hhow := (Prod.mk.inj heq).2
    split at hhow <;> cases hhow
  | destroyOwned table =>
    unfold DestroyRequest.departures
    dsimp only
    split
    · exact endedByOwner_leaving nofun
    · next device' _ =>
      split
      · exact endedByOwner_leaving nofun
      · next hchecks =>
        refine endedByOwner_leaving fun k device item hmem _ hitem => ?_
        obtain ⟨rfl, hdevice⟩ := Prod.mk.inj (List.mem_singleton.1 hmem)
        obtain rfl := Option.some.inj (How.ended.inj hdevice)
        obtain ⟨object, owner⟩ := item
        have howned : (t.owned table).owner (ObjectTables.readIds request).2.1 = some device := by
          unfold Table.ownedBy at hchecks
          simp_all
        exact (Table.owner_of_entry _ hitem).symm.trans howned
  | destroyDescriptorPool =>
    unfold DestroyRequest.departures
    dsimp only
    split
    · split
      · exact endedByOwner_leaving nofun
      · refine endedByOwner_leaving fun k device item hmem hk => ?_
        rcases List.mem_append.1 hmem with hmem | hmem
        · obtain ⟨id, -, heq⟩ := List.mem_map.1 hmem
          cases heq
        · obtain ⟨rfl, -⟩ := Prod.mk.inj (List.mem_singleton.1 hmem)
          cases hk
    · exact endedByOwner_leaving nofun
  | freeMemory =>
    unfold DestroyRequest.departures
    dsimp only
    split
    · exact endedByOwner_leaving nofun
    · split
      · exact endedByOwner_leaving nofun
      · next hchecks =>
        refine endedByOwner_leaving fun k device item hmem _ hitem => ?_
        obtain ⟨rfl, hdevice⟩ := Prod.mk.inj (List.mem_singleton.1 hmem)
        obtain rfl := Option.some.inj (How.ended.inj hdevice)
        exact h.memoryOwner _ device item (by simp_all [ObjectTables.notes]) hitem
  | destroySurface =>
    refine endedByOwner_leaving fun k device item hmem => ?_
    have hhow := (Prod.mk.inj (List.mem_singleton.1 hmem)).2
    split at hhow <;> cases hhow
  | destroySwapchain =>
    refine endedByOwner_leaving fun k device item hmem hk => ?_
    unfold DestroyRequest.departures at hmem
    dsimp only at hmem
    split at hmem
    · split at hmem
      · cases List.mem_singleton.1 hmem
      · rcases List.mem_cons.1 hmem with heq | hmem
        · obtain ⟨rfl, -⟩ := Prod.mk.inj heq
          cases hk
        · obtain ⟨id, -, heq⟩ := List.mem_map.1 hmem
          cases heq
    · cases List.mem_singleton.1 hmem
  | destroyDescriptorUpdateTemplate =>
    exact endedByOwner_lookedUp fun device item howner => h.templateOwner _ device item howner
  | destroySamplerYcbcrConversion =>
    exact endedByOwner_lookedUp fun device item howner => h.conversionOwner _ device item howner

theorem endedByOwner_freed (a : Findings H) : EndedByOwner (leaving t.stock (freedDepartures t request a)) := by
  refine endedByOwner_leaving fun k device item hmem => ?_
  unfold freedDepartures at hmem
  split at hmem
  · cases hmem
  · split at hmem
    · obtain ⟨id, -, heq⟩ := List.mem_map.1 hmem
      cases heq
    · cases hmem

theorem endedByOwner_reset (a : Findings H) : EndedByOwner (leaving t.stock (resetDepartures t request a)) := by
  refine endedByOwner_leaving fun k device item hmem => ?_
  unfold resetDepartures at hmem
  split at hmem
  · cases hmem
  · split at hmem
    · obtain ⟨id, -, heq⟩ := List.mem_map.1 hmem
      cases heq
    · cases hmem

theorem endedByOwner_close (h : EndedByOwner s.log) : EndedByOwner s.close.log := by
  have hdevices := List.foldlRecOn (List.range' 1 s.tables.devices.slots.length) TableSession.closeDevice
    (motive := fun s => EndedByOwner s.log) h fun s hs id _ => by
      unfold TableSession.closeDevice
      split
      · exact hs
      · next device _ => exact hs.append (endedByOwner_endDevice id device)
  refine hdevices.append (endedByOwner_leaving fun k device item hmem => ?_)
  obtain ⟨id, -, heq⟩ := List.mem_map.1 hmem
  cases heq

theorem endedByOwner_step {found : LookedUp → H → Bool} {a : Action H} {s' : TableSession H} (h : Truthful s.tables)
    (hlog : EndedByOwner s.log) (hs : s.step found a = some s') : EndedByOwner s'.log := by
  obtain ⟨-, rfl⟩ := TableSession.step_eq_some.1 hs
  cases a with
  | create c request a =>
    exact hlog.append (endedByOwner_arrivals _ _ _)
  | destroy d request =>
    exact hlog.append (endedByOwner_departures h found d)
  | freeDescriptorSets request a =>
    exact hlog.append (endedByOwner_freed a)
  | resetDescriptorPool request a =>
    exact hlog.append (endedByOwner_reset a)
  | disconnect =>
    exact endedByOwner_close hlog

end Owners

section Runs

variable [DecidableEq H] {found : LookedUp → H → Bool} {as : List (Action H)} {s : TableSession H}

theorem truthful_run (h : Run (TableSession.step found) {} as s) : Truthful s.tables ∧ EndedByOwner s.log :=
  h.invariant (I := fun s => Truthful s.tables ∧ EndedByOwner s.log)
    ⟨truthful_initial, fun _ _ _ hmem => by cases hmem⟩
    fun _ _ _ hs hstep => ⟨truthful_step hs.1 hstep, endedByOwner_step hs.1 hs.2 hstep⟩

/-- The side maps are true throughout, and nothing is left in them when the session is over. -/
theorem side_maps_true (h : Run (TableSession.step found) {} as s) :
    Truthful s.tables ∧ (s.closed = true → s.tables.notes = {}) := by
  obtain ⟨htrue, -⟩ := truthful_run h
  obtain ⟨-, hover⟩ := booked_run h
  refine ⟨htrue, fun hs => ?_⟩
  have hdead : ∀ device, ¬ s.tables.Live device := by
    rintro device ⟨id, hget⟩
    obtain ⟨owner, hentry⟩ := Table.exists_entry_of_get _ hget
    cases (hover hs (.devices, id)).symm.trans hentry
  have hnone : ∀ {α β : Type} {f : α → Option β} {device : α → β → H},
      (∀ a b, f a = some b → s.tables.Live (device a b)) → f = fun _ => none := by
    intro α β f device hlive
    funext a
    cases hf : f a with
    | none => rfl
    | some b => exact absurd (hlive a b hf) (hdead _)
  have htemplates := hnone htrue.templates
  have hswapchains := hnone htrue.swapchains
  have hentries : s.tables.notes.descriptorUpdateTemplateEntries = fun _ => none := by
    funext id
    by_contra hne
    exact htrue.entries id hne (congrFun htemplates id)
  have hsurfaces : s.tables.notes.swapchainSurfaces = fun _ => none := by
    funext swapchain
    by_contra hne
    exact htrue.surfaces swapchain hne (congrFun hswapchains swapchain)
  have hmemory := hnone htrue.memory
  have hphysical := hnone htrue.physical
  have hcommandBuffers := hnone htrue.commandBuffers
  have hsets := hnone htrue.sets
  have hconversions := hnone htrue.conversions
  cases hnotes : s.tables.notes
  simp_all

/-- Where the table is compared, an object is passed to the driver only with the device that made it. -/
theorem ended_by_owner (h : Run (TableSession.step found) {} as s) {k : Key} {object : H} {owner : Option H} {device : H}
    (hleft : .left k (object, owner) (.ended (some device)) ∈ s.log) (hk : k.1.compared = true) :
    owner = some device :=
  (truthful_run h).2 k (object, owner) device hleft hk

end Runs

/-- Two devices, with a buffer that the second asks for in vain. -/
def bufferSession : List (Action ℕ) :=
  [.create (.createDevice (some 3)) [] ⟨true, true, [some 7]⟩,
    .create (.createDevice (some 3)) [] ⟨true, true, [some 9]⟩,
    .create (.createOwned .buffers) (Writer.handle 1) ⟨true, true, [some 8]⟩,
    .destroy (.destroyOwned .buffers) (Writer.handle 2 ++ Writer.handle 1),
    .destroy (.destroyOwned .buffers) (Writer.handle 1 ++ Writer.handle 1), .disconnect]

theorem buffer_session_ends : ∃ s, Run (TableSession.step fun _ _ => true) {} bufferSession s ∧ s.closed = true ∧
    s.log = [.entered (.devices, 1) (7, none), .entered (.devices, 2) (9, none),
      .entered (.owned .buffers, 1) (8, some 7), .left (.owned .buffers, 1) (8, some 7) (.ended (some 7)),
      .left (.devices, 1) (7, none) (.ended none), .left (.devices, 2) (9, none) (.ended none)] := by
  obtain ⟨s, hs⟩ : ∃ s, runList (TableSession.step fun _ _ => true) {} bufferSession = some s := ⟨_, rfl⟩
  obtain rfl := Option.some.inj (Eq.symm hs)
  exact ⟨_, run_of_runList hs, rfl, rfl⟩

/-- A template whose destroy function is not there: it leaves its table, and what is kept beside it stays. -/
def templateSession : List (Action ℕ) :=
  [.create (.createDevice (some 3)) [] ⟨true, true, [some 7]⟩,
    .create (.createDescriptorUpdateTemplate []) (Writer.handle 1) ⟨true, true, [some 8]⟩,
    .destroy .destroyDescriptorUpdateTemplate (Writer.handle 1 ++ Writer.handle 1)]

theorem side_maps_true_template :
    (∃ s, Run (TableSession.step fun _ _ => false) {} templateSession s ∧ Truthful s.tables ∧
      s.tables.descriptorUpdateTemplates.get 1 = none ∧ s.tables.descriptorUpdateTemplateOwners 1 = some 7) ∧
    ∃ s, Run (TableSession.step fun _ _ => false) {} (templateSession ++ [.disconnect]) s ∧ s.tables.notes = {} := by
  constructor
  · obtain ⟨s, hs⟩ : ∃ s, runList (TableSession.step fun _ _ => false) {} templateSession = some s := ⟨_, rfl⟩
    refine ⟨s, run_of_runList hs, (side_maps_true (run_of_runList hs)).1, ?_⟩
    obtain rfl := Option.some.inj (Eq.symm hs)
    exact ⟨rfl, rfl⟩
  · obtain ⟨s, hs⟩ : ∃ s, runList (TableSession.step fun _ _ => false) {} (templateSession ++ [.disconnect]) = some s :=
      ⟨_, rfl⟩
    refine ⟨s, run_of_runList hs, (side_maps_true (run_of_runList hs)).2 ?_⟩
    obtain rfl := Option.some.inj (Eq.symm hs)
    rfl

theorem ended_by_owner_buffer : ∃ s, Run (TableSession.step fun _ _ => true) {} bufferSession s ∧
    ∃ owner, .left (.owned .buffers, 1) (8, owner) (.ended (some 7)) ∈ s.log ∧ owner = some 7 := by
  obtain ⟨s, hrun, -, hlog⟩ := buffer_session_ends
  have hleft : .left (.owned .buffers, 1) (8, some 7) (.ended (some 7)) ∈ s.log := by
    rw [hlog]
    exact List.mem_append_right [_, _, _] List.mem_cons_self
  exact ⟨s, hrun, some 7, hleft, ended_by_owner hrun hleft rfl⟩

end VkRemote.Server
