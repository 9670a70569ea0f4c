import Mathlib.Logic.Function.Basic
import VulkanRemote.Marshal.Descriptors
import VulkanRemote.Server.Table

/-! The one-way destroy and free requests on the server, each as its handler takes an id out of the tables and
checks the request, in the order of the source. What is passed to the driver is left out. -/

namespace VkRemote.Server

open Lib Wire Marshal

/-- The tables whose handlers are made by `SERVER_DESTROY`. -/
inductive OwnedTable
  | commandPools
  | buffers
  | images
  | imageViews
  | bufferViews
  | events
  | queryPools
  | samplers
  | shaderModules
  | pipelineCaches
  | pipelineLayouts
  | pipelines
  | renderPasses
  | framebuffers
  | descriptorSetLayouts
  deriving DecidableEq

structure DescriptorSetOwner (H : Type) where
  device : H
  pool : H

/-- The tables and side maps of a session; `H` are the native handles that are not null. Of the memory metadata
only the owner matters here. -/
structure ObjectTables (H : Type) where
  devices : Table H H := {}
  owned : OwnedTable → Table H H := fun _ => {}
  queues : Table H H := {}
  commandBuffers : Table H H := {}
  memories : Table H H := {}
  memoryMetadata : ℕ → Option H := fun _ => none
  devicePhysicalDevices : H → Option H := fun _ => none
  commandBufferDevices : Option H → Option H := fun _ => none
  descriptorPools : Table H H := {}
  descriptorSets : Table H H := {}
  descriptorSetOwners : ℕ → Option (DescriptorSetOwner H) := fun _ => none
  descriptorUpdateTemplates : Table H H := {}
  samplerYcbcrConversions : Table H H := {}
  descriptorUpdateTemplateOwners : ℕ → Option H := fun _ => none
  descriptorUpdateTemplateEntries : ℕ → Option (List VkDescriptorUpdateTemplateEntry) := fun _ => none
  samplerYcbcrConversionOwners : ℕ → Option H := fun _ => none
  semaphores : Table H H := {}
  fences : Table H H := {}
  surfaces : Table H H := {}
  swapchains : Table H H := {}
  swapchainDevices : H → Option H := fun _ => none
  swapchainSurfaces : H → Option H := fun _ => none
  swapchainImageIds : ℕ → Option (List ℕ) := fun _ => none

/-- The commands that a handler looks up by name. -/
inductive LookedUp
  | destroyDescriptorUpdateTemplate
  | destroySamplerYcbcrConversion

namespace Table

variable {δ α : Type} [DecidableEq δ]

/-- `DESTROY_OWNED`: only slots that hold an object are taken. -/
def destroyOwned (t : Table δ α) (device : δ) : Table δ α :=
  ⟨t.slots.map fun slot => if slot.1.isSome ∧ slot.2 = some device then (none, none) else slot⟩

def ownedBy (t : Table δ α) (id : ℕ) (device : δ) : Bool := (t.get id).isSome && t.owner id = some device

end Table

namespace ObjectTables

variable {H : Type} [DecidableEq H]

/-- The images of the device's swapchains, which are taken but not destroyed. -/
def swapchainImagesOf (t : ObjectTables H) (device : H) : List ℕ :=
  ((List.range' 1 t.swapchains.slots.length).filter fun id => t.swapchains.owner id = some device).flatMap
    fun id => (t.swapchainImageIds id).getD []

/-- `destroy_device_objects`. -/
def destroyDeviceObjects (t : ObjectTables H) (device : H) : ObjectTables H :=
  let images := (t.swapchainImagesOf device).foldl (fun table id => (table.take id).2) (t.owned .images)
  let swapchains := t.swapchains.destroyOwned device
  { t with
    owned := fun table => ((Function.update t.owned .images images) table).destroyOwned device
    descriptorPools := t.descriptorPools.destroyOwned device
    descriptorUpdateTemplates := t.descriptorUpdateTemplates.destroyOwned device
    fences := t.fences.destroyOwned device
    semaphores := t.semaphores.destroyOwned device
    samplerYcbcrConversions := t.samplerYcbcrConversions.destroyOwned device
    swapchains := swapchains
    memories := t.memories.destroyOwned device
    commandBuffers := t.commandBuffers.retireOwned device
    descriptorSets := t.descriptorSets.retireOwned device
    queues := t.queues.retireOwned device
    devicePhysicalDevices := Function.update t.devicePhysicalDevices device none
    commandBufferDevices := fun cb => (t.commandBufferDevices cb).filter (· ≠ device)
    memoryMetadata := fun id => (t.memoryMetadata id).filter (· ≠ device)
    descriptorSetOwners := fun id => (t.descriptorSetOwners id).filter (·.device ≠ device)
    descriptorUpdateTemplateEntries := fun id =>
      if t.descriptorUpdateTemplateOwners id = some device then none else t.descriptorUpdateTemplateEntries id
    descriptorUpdateTemplateOwners := fun id => (t.descriptorUpdateTemplateOwners id).filter (· ≠ device)
    samplerYcbcrConversionOwners := fun id => (t.samplerYcbcrConversionOwners id).filter (· ≠ device)
    swapchainSurfaces := fun swapchain =>
      if t.swapchainDevices swapchain = some device then none else t.swapchainSurfaces swapchain
    swapchainDevices := fun swapchain => (t.swapchainDevices swapchain).filter (· ≠ device)
    swapchainImageIds := fun id => if (swapchains.owner id).isNone then none else t.swapchainImageIds id }

/-! ### The handlers, each with the tables it leaves and whether it marks an error -/

/-- The ids of a device and of one of its objects, which most requests are. -/
def readIds (request : List UInt8) : ℕ × ℕ × Reader :=
  let device := Reader.handle ⟨request, false⟩
  let object := device.2.handle
  (device.1.toNat, object.1.toNat, object.2)

def handleDestroyDevice (t : ObjectTables H) (request : List UInt8) : ObjectTables H × Bool :=
  let id := Reader.handle ⟨request, false⟩
  let taken := t.devices.take id.1.toNat
  let t := { t with devices := taken.2 }
  match taken.1 with
  | none => (t, true)
  | some device => if id.2.ok then (t.destroyDeviceObjects device, false) else (t, true)

def handleDestroyFence (t : ObjectTables H) (request : List UInt8) : ObjectTables H × Bool :=
  let p := readIds request
  let device := t.devices.get p.1
  ({ t with fences := (t.fences.take p.2.1).2 }, !p.2.2.ok || device.isNone)

def handleDestroySemaphore (t : ObjectTables H) (request : List UInt8) : ObjectTables H × Bool :=
  let p := readIds request
  let device := t.devices.get p.1
  ({ t with semaphores := (t.semaphores.take p.2.1).2 }, !p.2.2.ok || device.isNone)

/-- One turn of the loop of `handle_FreeCommandBuffers`. -/
def takeCommandBuffer (t : ObjectTables H) (id : ℕ) : ObjectTables H :=
  let taken := t.commandBuffers.take id
  { t with
    commandBuffers := taken.2
    commandBufferDevices := Function.update t.commandBufferDevices taken.1 none }

def takeCommandBuffers : ℕ → ObjectTables H × Reader → ObjectTables H × Reader
  | 0, p => p
  | n + 1, p => takeCommandBuffers n (p.1.takeCommandBuffer p.2.handle.1.toNat, p.2.handle.2)

def handleFreeCommandBuffers (t : ObjectTables H) (request : List UInt8) : ObjectTables H × Bool :=
  -- the id behind the device's is that of the pool
  let p := readIds request
  let device := t.devices.get p.1
  let count := p.2.2.u32
  if count.2.remaining / 8 < count.1.toNat then (t, true)
  else
    let taken := takeCommandBuffers count.1.toNat (t, count.2)
    (taken.1, !taken.2.ok || device.isNone)

/-- The handlers of `SERVER_DESTROY`. -/
def handleDestroyOwned (table : OwnedTable) (t : ObjectTables H) (request : List UInt8) : ObjectTables H × Bool :=
  let p := readIds request
  match t.devices.get p.1 with
  | none => (t, true)
  | some device =>
    if !p.2.2.ok || !(t.owned table).ownedBy p.2.1 device then (t, true)
    else ({ t with owned := Function.update t.owned table ((t.owned table).take p.2.1).2 }, false)

def handleDestroyDescriptorPool (t : ObjectTables H) (request : List UInt8) : ObjectTables H × Bool :=
  let p := readIds request
  match t.devices.get p.1, t.descriptorPools.get p.2.1 with
  | some _, some pool =>
    if !p.2.2.ok || p.2.2.remaining ≠ 0 then (t, true)
    else
      ({ t with
        descriptorPools := (t.descriptorPools.take p.2.1).2
        descriptorSets := ⟨t.descriptorSets.slots.mapIdx fun i slot =>
          if (t.descriptorSetOwners (i + 1)).any (·.pool = pool) then (none, none) else slot⟩
        descriptorSetOwners := fun id => (t.descriptorSetOwners id).filter (·.pool ≠ pool) }, false)
  | _, _ => (t, true)

def handleFreeMemory (t : ObjectTables H) (request : List UInt8) : ObjectTables H × Bool :=
  let p := readIds request
  match t.devices.get p.1 with
  | none => (t, true)
  | some device =>
    if !p.2.2.ok || t.memoryMetadata p.2.1 ≠ some device then (t, true)
    else
      ({ t with
        memories := (t.memories.take p.2.1).2
        memoryMetadata := Function.update t.memoryMetadata p.2.1 none }, false)

def handleDestroySurface (t : ObjectTables H) (request : List UInt8) : ObjectTables H × Bool :=
  let id := Reader.handle ⟨request, false⟩
  ({ t with surfaces := (t.surfaces.take id.1.toNat).2 }, !id.2.ok)

def handleDestroySwapchain (t : ObjectTables H) (request : List UInt8) : ObjectTables H × Bool :=
  let p := readIds request
  let taken := t.swapchains.take p.2.1
  let t' := { t with swapchains := taken.2 }
  match t.devices.get p.1, taken.1 with
  | some device, some swapchain =>
    if !p.2.2.ok || t.swapchainDevices swapchain ≠ some device then (t', true)
    else
      let images := ((t.swapchainImageIds p.2.1).getD []).foldl (fun table id => (table.take id).2)
        (t.owned .images)
      ({ t' with
        swapchainDevices := Function.update t.swapchainDevices swapchain none
        swapchainSurfaces := Function.update t.swapchainSurfaces swapchain none
        owned := Function.update t.owned .images images
        swapchainImageIds := Function.update t.swapchainImageIds p.2.1 none }, false)
  | _, _ => (t', true)

variable (found : LookedUp → H → Bool)

/-- A destroy that looks its function up once the owner is right. The object leaves its table in any case, what is kept
beside it only if the function is there and the table had the object. -/
def destroyLookedUp (function : LookedUp) (t : ObjectTables H) (request : List UInt8) (owner object : Option H)
    (taken erased : ObjectTables H) : ObjectTables H × Bool :=
  let p := readIds request
  match t.devices.get p.1 with
  | none => (t, true)
  | some device =>
    if !p.2.2.ok || owner ≠ some device then (t, true)
    else if !found function device || object.isNone then (taken, true)
    else (erased, false)

def handleDestroyDescriptorUpdateTemplate (t : ObjectTables H) (request : List UInt8) : ObjectTables H × Bool :=
  let id := (readIds request).2.1
  let taken := t.descriptorUpdateTemplates.take id
  let t' := { t with descriptorUpdateTemplates := taken.2 }
  destroyLookedUp found .destroyDescriptorUpdateTemplate t request (t.descriptorUpdateTemplateOwners id) taken.1 t'
    { t' with
      descriptorUpdateTemplateOwners := Function.update t.descriptorUpdateTemplateOwners id none
      descriptorUpdateTemplateEntries := Function.update t.descriptorUpdateTemplateEntries id none }

def handleDestroySamplerYcbcrConversion (t : ObjectTables H) (request : List UInt8) : ObjectTables H × Bool :=
  let id := (readIds request).2.1
  let taken := t.samplerYcbcrConversions.take id
  let t' := { t with samplerYcbcrConversions := taken.2 }
  destroyLookedUp found .destroySamplerYcbcrConversion t request (t.samplerYcbcrConversionOwners id) taken.1 t'
    { t' with samplerYcbcrConversionOwners := Function.update t.samplerYcbcrConversionOwners id none }

end ObjectTables

inductive DestroyRequest
  | destroyDevice
  | destroyFence
  | destroySemaphore
  | freeCommandBuffers
  | destroyOwned (table : OwnedTable)
  | destroyDescriptorPool
  | freeMemory
  | destroySurface
  | destroySwapchain
  | destroyDescriptorUpdateTemplate
  | destroySamplerYcbcrConversion

/-! ### Which rejected requests change nothing -/

/-- A slot that taking leaves as it is. -/
def Table.Blank {δ α : Type} (t : Table δ α) (id : ℕ) : Prop :=
  id = 0 ∨ ∀ slot ∈ t.slots[id - 1]?, slot = (none, none)

/-- The ids that the loop of `handle_FreeCommandBuffers` takes. -/
def readHandles : ℕ → Reader → List ℕ
  | 0, _ => []
  | n + 1, r => r.handle.1.toNat :: readHandles n r.handle.2

def freedCommandBuffers (request : List UInt8) : List ℕ :=
  let count := (ObjectTables.readIds request).2.2.u32
  if count.2.remaining / 8 < count.1.toNat then [] else readHandles count.1.toNat count.2

namespace DestroyRequest

variable {H : Type} [DecidableEq H] (found : LookedUp → H → Bool) (t : ObjectTables H) (request : List UInt8)

def handle : DestroyRequest → ObjectTables H × Bool
  | destroyDevice => t.handleDestroyDevice request
  | destroyFence => t.handleDestroyFence request
  | destroySemaphore => t.handleDestroySemaphore request
  | freeCommandBuffers => t.handleFreeCommandBuffers request
  | destroyOwned table => t.handleDestroyOwned table request
  | destroyDescriptorPool => t.handleDestroyDescriptorPool request
  | freeMemory => t.handleFreeMemory request
  | destroySurface => t.handleDestroySurface request
  | destroySwapchain => t.handleDestroySwapchain request
  | destroyDescriptorUpdateTemplate => t.handleDestroyDescriptorUpdateTemplate found request
  | destroySamplerYcbcrConversion => t.handleDestroySamplerYcbcrConversion found request

/-- The request passes the checks that its handler makes after it has taken ids, or all slots it takes are
blank. -/
def Spares : DestroyRequest → Prop
  | destroyDevice =>
    let id := (Reader.handle ⟨request, false⟩).1.toNat
    (t.devices.get id).isSome ∨ t.devices.Blank id
  | destroyFence =>
    let p := ObjectTables.readIds request
    (t.devices.get p.1).isSome ∨ t.fences.Blank p.2.1
  | destroySemaphore =>
    let p := ObjectTables.readIds request
    (t.devices.get p.1).isSome ∨ t.semaphores.Blank p.2.1
  | freeCommandBuffers =>
    (t.devices.get (ObjectTables.readIds request).1).isSome ∨
      ∀ id ∈ freedCommandBuffers request, t.commandBuffers.Blank id ∧ t.commandBufferDevices none = none
  | destroySwapchain =>
    let p := ObjectTables.readIds request
    (∃ device swapchain, t.devices.get p.1 = some device ∧ t.swapchains.get p.2.1 = some swapchain ∧
      t.swapchainDevices swapchain = some device) ∨ t.swapchains.Blank p.2.1
  | destroyDescriptorUpdateTemplate =>
    let p := ObjectTables.readIds request
    (∀ device, t.devices.get p.1 = some device → t.descriptorUpdateTemplateOwners p.2.1 = some device →
      found .destroyDescriptorUpdateTemplate device ∧ (t.descriptorUpdateTemplates.get p.2.1).isSome) ∨
      t.descriptorUpdateTemplates.Blank p.2.1
  | destroySamplerYcbcrConversion =>
    let p := ObjectTables.readIds request
    (∀ device, t.devices.get p.1 = some device → t.samplerYcbcrConversionOwners p.2.1 = some device →
      found .destroySamplerYcbcrConversion device ∧ (t.samplerYcbcrConversions.get p.2.1).isSome) ∨
      t.samplerYcbcrConversions.Blank p.2.1
  | _ => True

end DestroyRequest

namespace Table

variable {δ α : Type} {t : Table δ α} {id : ℕ}

theorem blank_zero (t : Table δ α) : t.Blank 0 := .inl rfl

theorem take_eq_self_iff (t : Table δ α) (id : ℕ) : (t.take id).2 = t ↔ t.Blank id := by
  unfold take Blank
  by_cases h0 : id = 0
  · simp [h0]
  · simp only [h0, if_false, false_or]
    constructor
    · intro h slot hslot
      have hslots : t.slots.set (id - 1) (none, none) = t.slots := congrArg Table.slots h
      have hset : (t.slots.set (id - 1) (none, none))[id - 1]? =
          Function.const _ (none, none) <$> t.slots[id - 1]? := List.getElem?_set_self'
      rw [hslots, Option.mem_def.1 hslot] at hset
      exact Option.some.inj hset
    · intro h
      have hset : t.slots.set (id - 1) (none, none) = t.slots := by
        by_cases hlt : id - 1 < t.slots.length
        · rw [← h _ (List.getElem?_eq_getElem hlt), List.set_getElem_self]
        · exact List.set_eq_of_length_le (by omega)
      rw [hset]

theorem Blank.get (h : t.Blank id) : t.get id = none := by
  unfold Table.get
  split_ifs with h0
  · rfl
  · cases hslot : t.slots[id - 1]? with
    | none => rfl
    | some slot =>
      obtain rfl := h.resolve_left h0 slot hslot
      rfl

/-- What is blank stays so, and what was taken is blank. -/
theorem Blank.take (h : t.Blank id) (id' : ℕ) : (t.take id').2.Blank id := by
  refine h.imp_right fun h slot hslot => ?_
  unfold Table.take at hslot
  split_ifs at hslot with h0
  · exact h slot hslot
  · rw [List.getElem?_set] at hslot
    split_ifs at hslot with heq hlt
    · exact (Option.some.inj hslot).symm
    · cases hslot
    · exact h slot hslot

theorem blank_take (t : Table δ α) (id : ℕ) : (t.take id).2.Blank id := by
  by_cases h0 : id = 0
  · exact .inl h0
  · refine .inr fun slot hslot => ?_
    simp only [Table.take, h0, if_false] at hslot
    rw [Option.mem_def, List.getElem?_set_self'] at hslot
    cases hold : t.slots[id - 1]? with
    | none => simp [hold] at hslot
    | some old =>
      rw [hold] at hslot
      exact (Option.some.inj hslot).symm

end Table

/-- An id that could not be read is null. -/
theorem handle_of_not_ok {r : Reader} (h : r.handle.2.ok = false) : r.handle.1 = 0 := by
  by_cases hshort : r.failed = true ∨ r.rest.length < 8
  · simp [Reader.handle, Reader.u64, Reader.read, hshort]
  · simp [Reader.handle, Reader.u64, Reader.read, hshort, Reader.ok] at h
    exact absurd (.inl h) hshort

theorem readIds_of_not_ok {request : List UInt8} (h : (ObjectTables.readIds request).2.2.ok = false) :
    (ObjectTables.readIds request).2.1 = 0 := by
  rw [ObjectTables.readIds] at h ⊢
  rw [handle_of_not_ok h]
  rfl

namespace DestroyRequest

variable {H : Type} {t : ObjectTables H} {request : List UInt8}

/-- A handler that takes its id first, and then asks for the device. -/
theorem rejected_blank_iff {δ α γ : Type} {t : Table δ α} {id : ℕ} {ok : Bool} {device : Option γ}
    (hok : ok = false → id = 0) :
    ((!ok || device.isNone) = true → t.Blank id) ↔ device.isSome ∨ t.Blank id := by
  cases ok with
  | false => simp [hok rfl, Table.blank_zero]
  | true => cases device <;> simp

variable [DecidableEq H]

theorem device_iff :
    ((t.handleDestroyDevice request).2 = true → (t.handleDestroyDevice request).1 = t) ↔
      (t.devices.get (Reader.handle ⟨request, false⟩).1.toNat).isSome ∨
        t.devices.Blank (Reader.handle ⟨request, false⟩).1.toNat := by
  have hunchanged : { t with devices := (t.devices.take (Reader.handle ⟨request, false⟩).1.toNat).2 } = t ↔
      t.devices.Blank (Reader.handle ⟨request, false⟩).1.toNat := by
    rw [← Table.take_eq_self_iff]
    exact ⟨fun h => congrArg ObjectTables.devices h, fun h => by rw [h]⟩
  cases hok : (Reader.handle ⟨request, false⟩).2.ok with
  | false =>
    have hblank : t.devices.Blank (Reader.handle ⟨request, false⟩).1.toNat := by
      rw [handle_of_not_ok hok]
      exact Table.blank_zero _
    refine iff_of_true (fun _ => ?_) (.inr hblank)
    simp only [ObjectTables.handleDestroyDevice, Table.take_fst, hblank.get]
    exact hunchanged.2 hblank
  | true =>
    cases hget : t.devices.get (Reader.handle ⟨request, false⟩).1.toNat with
    | none => simp [ObjectTables.handleDestroyDevice, Table.take_fst, hget, hunchanged]
    | some device => simp [ObjectTables.handleDestroyDevice, Table.take_fst, hget, hok]

omit [DecidableEq H] in
theorem fence_iff :
    ((t.handleDestroyFence request).2 = true → (t.handleDestroyFence request).1 = t) ↔
      (t.devices.get (ObjectTables.readIds request).1).isSome ∨
        t.fences.Blank (ObjectTables.readIds request).2.1 := by
  rw [← rejected_blank_iff readIds_of_not_ok, ← Table.take_eq_self_iff]
  refine imp_congr_right fun _ => ⟨fun h => congrArg ObjectTables.fences h, fun h => ?_⟩
  rw [ObjectTables.handleDestroyFence, h]

omit [DecidableEq H] in
theorem semaphore_iff :
    ((t.handleDestroySemaphore request).2 = true → (t.handleDestroySemaphore request).1 = t) ↔
      (t.devices.get (ObjectTables.readIds request).1).isSome ∨
        t.semaphores.Blank (ObjectTables.readIds request).2.1 := by
  rw [← rejected_blank_iff readIds_of_not_ok, ← Table.take_eq_self_iff]
  refine imp_congr_right fun _ => ⟨fun h => congrArg ObjectTables.semaphores h, fun h => ?_⟩
  rw [ObjectTables.handleDestroySemaphore, h]

omit [DecidableEq H] in
theorem surface_unchanged (h : (t.handleDestroySurface request).2 = true) :
    (t.handleDestroySurface request).1 = t := by
  have hok : (Reader.handle ⟨request, false⟩).2.ok = false := by simpa [ObjectTables.handleDestroySurface] using h
  have hblank : (t.surfaces.take (Reader.handle ⟨request, false⟩).1.toNat).2 = t.surfaces := by
    rw [handle_of_not_ok hok]
    rfl
  rw [ObjectTables.handleDestroySurface, hblank]

theorem owned_unchanged {table : OwnedTable} (h : (t.handleDestroyOwned table request).2 = true) :
    (t.handleDestroyOwned table request).1 = t := by
  unfold ObjectTables.handleDestroyOwned at h ⊢
  cases hget : t.devices.get (ObjectTables.readIds request).1 with
  | none => simp only [hget]
  | some device =>
    simp only [hget] at h ⊢
    split_ifs at h ⊢ with hcheck
    rfl

theorem descriptorPool_unchanged (h : (t.handleDestroyDescriptorPool request).2 = true) :
    (t.handleDestroyDescriptorPool request).1 = t := by
  unfold ObjectTables.handleDestroyDescriptorPool at h ⊢
  cases hget : t.devices.get (ObjectTables.readIds request).1 with
  | none => simp only [hget]
  | some device =>
    cases hpool : t.descriptorPools.get (ObjectTables.readIds request).2.1 with
    | none => simp only [hget, hpool]
    | some pool =>
      simp only [hget, hpool] at h ⊢
      split_ifs at h ⊢ with hcheck
      rfl

theorem memory_unchanged (h : (t.handleFreeMemory request).2 = true) : (t.handleFreeMemory request).1 = t := by
  unfold ObjectTables.handleFreeMemory at h ⊢
  cases hget : t.devices.get (ObjectTables.readIds request).1 with
  | none => simp only [hget]
  | some device =>
    simp only [hget] at h ⊢
    split_ifs at h ⊢ with hcheck
    rfl

theorem swapchain_iff :
    ((t.handleDestroySwapchain request).2 = true → (t.handleDestroySwapchain request).1 = t) ↔
      (∃ device swapchain, t.devices.get (ObjectTables.readIds request).1 = some device ∧
        t.swapchains.get (ObjectTables.readIds request).2.1 = some swapchain ∧
        t.swapchainDevices swapchain = some device) ∨ t.swapchains.Blank (ObjectTables.readIds request).2.1 := by
  have hunchanged : { t with swapchains := (t.swapchains.take (ObjectTables.readIds request).2.1).2 } = t ↔
      t.swapchains.Blank (ObjectTables.readIds request).2.1 := by
    rw [← Table.take_eq_self_iff]
    exact ⟨fun h => congrArg ObjectTables.swapchains h, fun h => by rw [h]⟩
  cases hdevice : t.devices.get (ObjectTables.readIds request).1 with
  | none => simp [ObjectTables.handleDestroySwapchain, hdevice, hunchanged]
  | some device =>
    cases hswapchain : t.swapchains.get (ObjectTables.readIds request).2.1 with
    | none => simp [ObjectTables.handleDestroySwapchain, Table.take_fst, hdevice, hswapchain, hunchanged]
    | some swapchain =>
      have hok : (ObjectTables.readIds request).2.2.ok = true := by
        by_contra hnot
        rw [readIds_of_not_ok (by simpa using hnot)] at hswapchain
        cases hswapchain
      by_cases howner : t.swapchainDevices swapchain = some device
      · simp [ObjectTables.handleDestroySwapchain, Table.take_fst, hdevice, hswapchain, hok, howner]
      · simp [ObjectTables.handleDestroySwapchain, Table.take_fst, hdevice, hswapchain, howner, hunchanged]

theorem destroyLookedUp_iff (found : LookedUp → H → Bool) (function : LookedUp) (owner : Option H) {table : Table H H}
    {taken erased : ObjectTables H} (hunchanged : taken = t ↔ table.Blank (ObjectTables.readIds request).2.1) :
    let r := ObjectTables.destroyLookedUp found function t request owner
      (table.take (ObjectTables.readIds request).2.1).1 taken erased
    (r.2 = true → r.1 = t) ↔
      (∀ device, t.devices.get (ObjectTables.readIds request).1 = some device → owner = some device →
        found function device ∧ (table.get (ObjectTables.readIds request).2.1).isSome) ∨
        table.Blank (ObjectTables.readIds request).2.1 := by
  rw [Table.take_fst]
  cases hdevice : t.devices.get (ObjectTables.readIds request).1 with
  | none => simp [ObjectTables.destroyLookedUp, hdevice]
  | some device =>
    cases hok : (ObjectTables.readIds request).2.2.ok with
    | false =>
      have hblank : table.Blank (ObjectTables.readIds request).2.1 := .inl (readIds_of_not_ok hok)
      simp [ObjectTables.destroyLookedUp, hdevice, hok, hblank]
    | true =>
      by_cases howner : owner = some device
      · cases hfound : found function device <;>
          cases hobject : table.get (ObjectTables.readIds request).2.1 <;>
          simp [ObjectTables.destroyLookedUp, hdevice, hok, howner, hfound, hunchanged]
      · simp [ObjectTables.destroyLookedUp, hdevice, howner]

theorem descriptorUpdateTemplate_iff (found : LookedUp → H → Bool) :
    ((t.handleDestroyDescriptorUpdateTemplate found request).2 = true →
        (t.handleDestroyDescriptorUpdateTemplate found request).1 = t) ↔
      (∀ device, t.devices.get (ObjectTables.readIds request).1 = some device →
        t.descriptorUpdateTemplateOwners (ObjectTables.readIds request).2.1 = some device →
        found .destroyDescriptorUpdateTemplate device ∧
          (t.descriptorUpdateTemplates.get (ObjectTables.readIds request).2.1).isSome) ∨
        t.descriptorUpdateTemplates.Blank (ObjectTables.readIds request).2.1 := by
  refine destroyLookedUp_iff found _ _ ?_
  rw [← Table.take_eq_self_iff]
  exact ⟨fun h => congrArg ObjectTables.descriptorUpdateTemplates h, fun h => by rw [h]⟩

theorem samplerYcbcrConversion_iff (found : LookedUp → H → Bool) :
    ((t.handleDestroySamplerYcbcrConversion found request).2 = true →
        (t.handleDestroySamplerYcbcrConversion found request).1 = t) ↔
      (∀ device, t.devices.get (ObjectTables.readIds request).1 = some device →
        t.samplerYcbcrConversionOwners (ObjectTables.readIds request).2.1 = some device →
        found .destroySamplerYcbcrConversion device ∧
          (t.samplerYcbcrConversions.get (ObjectTables.readIds request).2.1).isSome) ∨
        t.samplerYcbcrConversions.Blank (ObjectTables.readIds request).2.1 := by
  refine destroyLookedUp_iff found _ _ ?_
  rw [← Table.take_eq_self_iff]
  exact ⟨fun h => congrArg ObjectTables.samplerYcbcrConversions h, fun h => by rw [h]⟩

theorem takeCommandBuffer_eq_self_iff (t : ObjectTables H) (id : ℕ) :
    t.takeCommandBuffer id = t ↔
      t.commandBuffers.Blank id ∧ t.commandBufferDevices (t.commandBuffers.get id) = none := by
  rw [← Table.take_eq_self_iff]
  constructor
  · intro h
    refine ⟨congrArg ObjectTables.commandBuffers h, ?_⟩
    have hdevices := congrFun (congrArg ObjectTables.commandBufferDevices h) (t.commandBuffers.get id)
    rw [← hdevices]
    simp [ObjectTables.takeCommandBuffer, Table.take_fst]
  · rintro ⟨htable, hdevices⟩
    have herase : Function.update t.commandBufferDevices (t.commandBuffers.take id).1 none =
        t.commandBufferDevices := by
      rw [Table.take_fst]
      exact Function.update_eq_self_iff.2 hdevices.symm
    rw [ObjectTables.takeCommandBuffer, herase, htable]

/-- The loop takes the ids it reads, one after the other. -/
theorem takeCommandBuffers_eq (n : ℕ) (t : ObjectTables H) (r : Reader) :
    (ObjectTables.takeCommandBuffers n (t, r)).1 = (readHandles n r).foldl ObjectTables.takeCommandBuffer t := by
  induction n generalizing t r with
  | zero => rfl
  | succ n ih =>
    rw [ObjectTables.takeCommandBuffers, ih]
    rfl

/-- What is blank or erased stays so. -/
theorem blank_takeCommandBuffer {t : ObjectTables H} {id : ℕ} (h : t.commandBuffers.Blank id) (id' : ℕ) :
    (t.takeCommandBuffer id').commandBuffers.Blank id := h.take id'

theorem erased_takeCommandBuffer {t : ObjectTables H} {cb : Option H} (h : t.commandBufferDevices cb = none)
    (id : ℕ) : (t.takeCommandBuffer id).commandBufferDevices cb = none := by
  simp only [ObjectTables.takeCommandBuffer, Function.update_apply, h, ite_self]

theorem blank_foldl {ids : List ℕ} {id : ℕ} (hid : id ∈ ids) (t : ObjectTables H) :
    (ids.foldl ObjectTables.takeCommandBuffer t).commandBuffers.Blank id := by
  induction ids generalizing t with
  | nil => cases hid
  | cons id' ids ih =>
    rw [List.foldl_cons]
    rcases List.mem_cons.1 hid with rfl | hid
    · have htaken : (t.takeCommandBuffer id).commandBuffers.Blank id := Table.blank_take _ _
      exact List.foldlRecOn (motive := fun t : ObjectTables H => t.commandBuffers.Blank id) ids _ htaken
        fun t h id' _ => blank_takeCommandBuffer h id'
    · exact ih hid _

theorem erased_foldl {ids : List ℕ} {id : ℕ} (hid : id ∈ ids) {t : ObjectTables H}
    (h : ∀ id ∈ ids, t.commandBuffers.Blank id) :
    (ids.foldl ObjectTables.takeCommandBuffer t).commandBufferDevices none = none := by
  cases ids with
  | nil => cases hid
  | cons first ids =>
    have herased : (t.takeCommandBuffer first).commandBufferDevices none = none := by
      simp [ObjectTables.takeCommandBuffer, Table.take_fst, (h first List.mem_cons_self).get]
    exact List.foldlRecOn (motive := fun t : ObjectTables H => t.commandBufferDevices none = none) ids _ herased
      fun t h id _ => erased_takeCommandBuffer h id

theorem foldl_takeCommandBuffer_iff (ids : List ℕ) (t : ObjectTables H) :
    ids.foldl ObjectTables.takeCommandBuffer t = t ↔
      ∀ id ∈ ids, t.commandBuffers.Blank id ∧ t.commandBufferDevices none = none := by
  constructor
  · intro h id hid
    have hblank : ∀ id ∈ ids, t.commandBuffers.Blank id := fun id hid => h ▸ blank_foldl hid t
    have herased := erased_foldl hid hblank
    rw [h] at herased
    exact ⟨hblank id hid, herased⟩
  · intro h
    induction ids with
    | nil => rfl
    | cons id ids ih =>
      obtain ⟨hblank, hnull⟩ := h id List.mem_cons_self
      have hstep : t.takeCommandBuffer id = t :=
        (takeCommandBuffer_eq_self_iff t id).2 ⟨hblank, by rw [hblank.get]; exact hnull⟩
      rw [List.foldl_cons, hstep]
      exact ih fun id' hid' => h id' (List.mem_cons_of_mem id hid')

/-- A count that fits is backed by the bytes that are left. -/
theorem ok_takeCommandBuffers {n : ℕ} {t : ObjectTables H} {r : Reader} (hok : r.ok = true)
    (h : 8 * n ≤ r.rest.length) : (ObjectTables.takeCommandBuffers n (t, r)).2.ok = true := by
  induction n generalizing t r with
  | zero => exact hok
  | succ n ih =>
    have hfailed : r.failed = false := by simpa [Reader.ok] using hok
    have hread : r.handle.2 = ⟨r.rest.drop 8, false⟩ := by
      have hlong : ¬ r.rest.length < 8 := by omega
      simp [Reader.handle, Reader.u64, Reader.read, hlong, hfailed]
    rw [ObjectTables.takeCommandBuffers, hread]
    refine ih rfl ?_
    rw [List.length_drop]
    omega

theorem commandBuffers_iff :
    ((t.handleFreeCommandBuffers request).2 = true → (t.handleFreeCommandBuffers request).1 = t) ↔
      (t.devices.get (ObjectTables.readIds request).1).isSome ∨
        ∀ id ∈ freedCommandBuffers request, t.commandBuffers.Blank id ∧ t.commandBufferDevices none = none := by
  unfold ObjectTables.handleFreeCommandBuffers freedCommandBuffers
  dsimp only
  generalize (ObjectTables.readIds request).2.2.u32 = count
  split_ifs with hfits
  · simp
  · dsimp only
    rw [takeCommandBuffers_eq, foldl_takeCommandBuffer_iff]
    cases hok : count.2.ok with
    | false =>
      have hnone : count.1.toNat = 0 := by
        have hfailed : count.2.failed = true := by simpa [Reader.ok] using hok
        simp only [Reader.remaining, hfailed, if_true] at hfits
        omega
      simp [hnone, readHandles]
    | true =>
      have hlong : 8 * count.1.toNat ≤ count.2.rest.length := by
        have hle := count.2.remaining_le
        omega
      rw [ok_takeCommandBuffers hok hlong]
      cases t.devices.get (ObjectTables.readIds request).1 <;> simp

/-- A rejected request leaves all tables and maps as they were exactly if it is spared. -/
theorem handle_unchanged_iff (found : LookedUp → H → Bool) (t : ObjectTables H) (request : List UInt8)
    (destroy : DestroyRequest) :
    ((destroy.handle found t request).2 = true → (destroy.handle found t request).1 = t) ↔
      destroy.Spares found t request := by
  cases destroy with
  | destroyDevice => exact device_iff
  | destroyFence => exact fence_iff
  | destroySemaphore => exact semaphore_iff
  | freeCommandBuffers => exact commandBuffers_iff
  | destroyOwned table => exact iff_of_true owned_unchanged trivial
  | destroyDescriptorPool => exact iff_of_true descriptorPool_unchanged trivial
  | freeMemory => exact iff_of_true memory_unchanged trivial
  | destroySurface => exact iff_of_true surface_unchanged trivial
  | destroySwapchain => exact swapchain_iff
  | destroyDescriptorUpdateTemplate => exact descriptorUpdateTemplate_iff found
  | destroySamplerYcbcrConversion => exact samplerYcbcrConversion_iff found

/-- Device 1 and a fence of it. -/
def oneFence : ObjectTables ℕ where
  devices := ({} : Table ℕ ℕ).add (some 7) none |>.1
  fences := ({} : Table ℕ ℕ).add (some 8) (some 7) |>.1

/-- Another device is named, which there is not: the request is rejected, and the fence is gone. -/
theorem fence_taken_by_rejected :
    let rejected := destroyFence.handle (fun _ _ => true) oneFence (Writer.handle 2 ++ Writer.handle 1)
    rejected.2 = true ∧ oneFence.fences.get 1 = some 8 ∧ rejected.1.fences.get 1 = none := by
  decide

end DestroyRequest

end VkRemote.Server
