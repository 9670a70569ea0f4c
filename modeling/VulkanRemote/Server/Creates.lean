import VulkanRemote.Server.Destroys

/-! The requests that put objects into the tables of a session, and those that give descriptor sets back, each as
its handler changes the tables. How the arguments behind the ids are read is in `Marshal`; here it is part of the
answer. -/

namespace VkRemote.Server

open Lib Wire Marshal

/-- The tables of a session by name. -/
inductive Shelf
  | devices
  | queues
  | owned (table : OwnedTable)
  | commandBuffers
  | memories
  | descriptorPools
  | descriptorSets
  | descriptorUpdateTemplates
  | samplerYcbcrConversions
  | semaphores
  | fences
  | surfaces
  | swapchains
  deriving DecidableEq

/-- What a handler finds when it asks beyond the tables. -/
structure Findings (H : Type) where
  /-- The arguments could be read, and the function is there. -/
  accepted : Bool
  /-- The driver's result is `VK_SUCCESS`. -/
  success : Bool
  /-- The handles that the driver wrote. -/
  objects : List (Option H) := []

namespace Findings

variable {H : Type}

def made (a : Findings H) : Bool := a.accepted && a.success

def object (a : Findings H) : Option H := a.objects.head?.join

end Findings

namespace ObjectTables

variable {H : Type}

def shelf (t : ObjectTables H) : Shelf → Table H H
  | .devices => t.devices
  | .queues => t.queues
  | .owned table => t.owned table
  | .commandBuffers => t.commandBuffers
  | .memories => t.memories
  | .descriptorPools => t.descriptorPools
  | .descriptorSets => t.descriptorSets
  | .descriptorUpdateTemplates => t.descriptorUpdateTemplates
  | .samplerYcbcrConversions => t.samplerYcbcrConversions
  | .semaphores => t.semaphores
  | .fences => t.fences
  | .surfaces => t.surfaces
  | .swapchains => t.swapchains

def put (t : ObjectTables H) (table : Table H H) : Shelf → ObjectTables H
  | .devices => { t with devices := table }
  | .queues => { t with queues := table }
  | .owned name => { t with owned := Function.update t.owned name table }
  | .commandBuffers => { t with commandBuffers := table }
  | .memories => { t with memories := table }
  | .descriptorPools => { t with descriptorPools := table }
  | .descriptorSets => { t with descriptorSets := table }
  | .descriptorUpdateTemplates => { t with descriptorUpdateTemplates := table }
  | .samplerYcbcrConversions => { t with samplerYcbcrConversions := table }
  | .semaphores => { t with semaphores := table }
  | .fences => { t with fences := table }
  | .surfaces => { t with surfaces := table }
  | .swapchains => { t with swapchains := table }

theorem shelf_put (t : ObjectTables H) (table : Table H H) (s : Shelf) :
    (t.put table s).shelf = Function.update t.shelf s table := by
  funext s'
  by_cases h : s' = s
  · subst h
    rw [Function.update_self]
    cases s' <;> simp [put, shelf]
  · rw [Function.update_of_ne h]
    cases s <;> cases s' <;> first | rfl | skip
    all_goals first | exact absurd rfl h | exact Function.update_of_ne (fun heq => h (congrArg Shelf.owned heq)) ..

/-- The device that a request begins with, if the handler goes on to the driver. -/
def deviceFor (t : ObjectTables H) (request : List UInt8) (a : Findings H) : Option H :=
  if a.accepted then t.devices.get (Reader.handle ⟨request, false⟩).1.toNat else none

/-- An object goes to the end of its table. -/
def keep (t : ObjectTables H) (s : Shelf) (object : Option H) (owner : Option H) : ObjectTables H :=
  t.put ((t.shelf s).add object owner).1 s

variable [DecidableEq H]

def handleCreateDevice (physical : Option H) (t : ObjectTables H) (a : Findings H) : ObjectTables H :=
  match physical with
  | none => t
  | some physical =>
    if a.made then
      { t.keep .devices a.object none with
        devicePhysicalDevices := match a.object with
          | none => t.devicePhysicalDevices
          | some device => Function.update t.devicePhysicalDevices device (some physical) }
    else t

/-- `add_unique` for the queue of a device. -/
def keepQueue (t : ObjectTables H) (queue : Option H) (device : H) : ObjectTables H :=
  { t with queues := (t.queues.addUnique queue (some device)).1 }

def handleGetDeviceQueue (t : ObjectTables H) (request : List UInt8) (a : Findings H) : ObjectTables H :=
  match t.deviceFor request a with
  | none => t
  | some device => t.keepQueue a.object device

/-- Here no id is given to a null queue. -/
def handleGetDeviceQueue2 (t : ObjectTables H) (request : List UInt8) (a : Findings H) : ObjectTables H :=
  match t.deviceFor request a with
  | none => t
  | some device => if a.object.isSome then t.keepQueue a.object device else t

/-- The handlers of `SERVER_CREATE`, and those that were written out alike. -/
def handleCreate (s : Shelf) (t : ObjectTables H) (request : List UInt8) (a : Findings H) : ObjectTables H :=
  match t.deviceFor request a with
  | none => t
  | some device => if a.success then t.keep s a.object (some device) else t

def handleCreateOwned (table : OwnedTable) (t : ObjectTables H) (request : List UInt8) (a : Findings H) :
    ObjectTables H :=
  t.handleCreate (.owned table) request a

def handleCreateFence (t : ObjectTables H) (request : List UInt8) (a : Findings H) : ObjectTables H :=
  t.handleCreate .fences request a

def handleCreateSemaphore (t : ObjectTables H) (request : List UInt8) (a : Findings H) : ObjectTables H :=
  t.handleCreate .semaphores request a

def handleCreateDescriptorPool (t : ObjectTables H) (request : List UInt8) (a : Findings H) : ObjectTables H :=
  t.handleCreate .descriptorPools request a

/-- A pipeline is kept where there is one, whatever the result was. -/
def handleCreatePipelines (t : ObjectTables H) (request : List UInt8) (a : Findings H) : ObjectTables H :=
  match t.deviceFor request a with
  | none => t
  | some device =>
    a.objects.foldl (fun t pipeline =>
      if pipeline.isSome then t.keep (.owned .pipelines) pipeline (some device) else t) t

def keepCommandBuffer (device : H) (t : ObjectTables H) (commandBuffer : Option H) : ObjectTables H :=
  { t.keep .commandBuffers commandBuffer (some device) with
    commandBufferDevices := Function.update t.commandBufferDevices commandBuffer (some device) }

def handleAllocateCommandBuffers (t : ObjectTables H) (request : List UInt8) (a : Findings H) : ObjectTables H :=
  match t.deviceFor request a with
  | none => t
  | some device => if a.success then a.objects.foldl (keepCommandBuffer device) t else t

def keepDescriptorSet (owner : DescriptorSetOwner H) (t : ObjectTables H) (set : Option H) : ObjectTables H :=
  { t.keep .descriptorSets set (some owner.device) with
    descriptorSetOwners := Function.update t.descriptorSetOwners (t.descriptorSets.slots.length + 1) (some owner) }

def handleAllocateDescriptorSets (pool : H) (t : ObjectTables H) (request : List UInt8) (a : Findings H) :
    ObjectTables H :=
  match t.deviceFor request a with
  | none => t
  | some device => if a.success then a.objects.foldl (keepDescriptorSet ⟨device, pool⟩) t else t

/-- Of the metadata only the owner is modelled. -/
def handleAllocateMemory (t : ObjectTables H) (request : List UInt8) (a : Findings H) : ObjectTables H :=
  match t.deviceFor request a with
  | none => t
  | some device =>
    if (t.devicePhysicalDevices device).isSome && a.success then
      { t.keep .memories a.object (some device) with
        memoryMetadata := Function.update t.memoryMetadata (t.memories.slots.length + 1) (some device) }
    else t

def handleCreateDescriptorUpdateTemplate (entries : List VkDescriptorUpdateTemplateEntry) (t : ObjectTables H)
    (request : List UInt8) (a : Findings H) : ObjectTables H :=
  match t.deviceFor request a with
  | none => t
  | some device =>
    if a.success then
      let id := t.descriptorUpdateTemplates.slots.length + 1
      { t.keep .descriptorUpdateTemplates a.object (some device) with
        descriptorUpdateTemplateOwners := Function.update t.descriptorUpdateTemplateOwners id (some device)
        descriptorUpdateTemplateEntries := Function.update t.descriptorUpdateTemplateEntries id (some entries) }
    else t

def handleCreateSamplerYcbcrConversion (t : ObjectTables H) (request : List UInt8) (a : Findings H) :
    ObjectTables H :=
  match t.deviceFor request a with
  | none => t
  | some device =>
    if a.success then
      { t.keep .samplerYcbcrConversions a.object (some device) with
        samplerYcbcrConversionOwners := Function.update t.samplerYcbcrConversionOwners
          (t.samplerYcbcrConversions.slots.length + 1) (some device) }
    else t

/-- All three requests for a surface. -/
def handleCreateSurface (t : ObjectTables H) (a : Findings H) : ObjectTables H :=
  if a.made then t.keep .surfaces a.object none else t

def handleCreateSwapchain (surface : Option H) (t : ObjectTables H) (request : List UInt8) (a : Findings H) :
    ObjectTables H :=
  match t.deviceFor request a, a.object with
  | some device, some swapchain =>
    if a.success then
      { t.keep .swapchains (some swapchain) (some device) with
        swapchainDevices := Function.update t.swapchainDevices swapchain (some device)
        swapchainSurfaces := Function.update t.swapchainSurfaces swapchain surface }
    else t
  | _, _ => t

/-- The images of a swapchain get their ids once. -/
def handleGetSwapchainImages (t : ObjectTables H) (request : List UInt8) (a : Findings H) : ObjectTables H :=
  let p := readIds request
  match t.devices.get p.1, t.swapchains.get p.2.1 with
  | some device, some _ =>
    if !p.2.2.ok then t
    else if (t.swapchainImageIds p.2.1).getD [] ≠ [] then t
    else
      let first := (t.owned .images).slots.length + 1
      { a.objects.foldl (fun t image => t.keep (.owned .images) image (some device)) t with
        swapchainImageIds := Function.update t.swapchainImageIds p.2.1
          (some (List.range' first a.objects.length)) }
  | _, _ => t

/-! ### Descriptor sets that are given back -/

def setBelongs (t : ObjectTables H) (device pool : H) (id : ℕ) : Bool :=
  (t.descriptorSets.get id).isSome &&
    (t.descriptorSetOwners id).any fun owner => owner.device = device && owner.pool = pool

def dropSet (t : ObjectTables H) (id : ℕ) : ObjectTables H :=
  { t with
    descriptorSets := (t.descriptorSets.take id).2
    descriptorSetOwners := Function.update t.descriptorSetOwners id none }

/-- The reader behind so many ids. -/
def skipHandles : ℕ → Reader → Reader
  | 0, r => r
  | n + 1, r => skipHandles n r.handle.2

/-- The sets that `vkFreeDescriptorSets` is called with, of a device and a pool. -/
def freedSets (t : ObjectTables H) (request : List UInt8) : Option (List ℕ) :=
  let p := readIds request
  let count := p.2.2.u32
  if kMaxArrayElements < count.1.toNat ∨ count.2.remaining / 8 < count.1.toNat then none
  else
    let ids := readHandles count.1.toNat count.2
    let rest := skipHandles count.1.toNat count.2
    match t.devices.get p.1, t.descriptorPools.get p.2.1 with
    | some device, some pool =>
      if rest.ok && rest.remaining = 0 && ids.all (t.setBelongs device pool) then some ids else none
    | _, _ => none

def handleFreeDescriptorSets (t : ObjectTables H) (request : List UInt8) (a : Findings H) : ObjectTables H :=
  match t.freedSets request with
  | none => t
  | some ids => if a.success then ids.foldl dropSet t else t

/-- The ids of the sets that are noted for a pool. -/
def setsOf (t : ObjectTables H) (pool : H) : List ℕ :=
  (List.range' 1 t.descriptorSets.slots.length).filter fun id => (t.descriptorSetOwners id).any (·.pool = pool)

def dropSetsOf (t : ObjectTables H) (pool : H) : ObjectTables H :=
  { t with
    descriptorSets := ⟨t.descriptorSets.slots.mapIdx fun i slot =>
      if (t.descriptorSetOwners (i + 1)).any (·.pool = pool) then (none, none) else slot⟩
    descriptorSetOwners := fun id => (t.descriptorSetOwners id).filter (·.pool ≠ pool) }

/-- The pool that `vkResetDescriptorPool` is called with. -/
def resetPool (t : ObjectTables H) (request : List UInt8) : Option H :=
  let p := readIds request
  let flags := p.2.2.u32
  match t.devices.get p.1, t.descriptorPools.get p.2.1 with
  | some _, some pool => if flags.2.ok && flags.2.remaining = 0 then some pool else none
  | _, _ => none

def handleResetDescriptorPool (t : ObjectTables H) (request : List UInt8) (a : Findings H) : ObjectTables H :=
  match t.resetPool request with
  | none => t
  | some pool => if a.success then t.dropSetsOf pool else t

end ObjectTables

/-- The requests that add to a table, with what they carry beyond the ids of the tables. -/
inductive CreateRequest (H : Type)
  | createDevice (physical : Option H)
  | getDeviceQueue
  | getDeviceQueue2
  | createOwned (table : OwnedTable)
  | createFence
  | createSemaphore
  | createDescriptorPool
  | createPipelines
  | allocateCommandBuffers
  | allocateDescriptorSets (pool : H)
  | allocateMemory
  | createDescriptorUpdateTemplate (entries : List VkDescriptorUpdateTemplateEntry)
  | createSamplerYcbcrConversion
  | createSurface
  | createSwapchain (surface : Option H)
  | getSwapchainImages

namespace CreateRequest

variable {H : Type}

/-- The one table that it adds to. -/
def shelf : CreateRequest H → Shelf
  | createDevice _ => .devices
  | getDeviceQueue => .queues
  | getDeviceQueue2 => .queues
  | createOwned table => .owned table
  | createFence => .fences
  | createSemaphore => .semaphores
  | createDescriptorPool => .descriptorPools
  | createPipelines => .owned .pipelines
  | allocateCommandBuffers => .commandBuffers
  | allocateDescriptorSets _ => .descriptorSets
  | allocateMemory => .memories
  | createDescriptorUpdateTemplate _ => .descriptorUpdateTemplates
  | createSamplerYcbcrConversion => .samplerYcbcrConversions
  | createSurface => .surfaces
  | createSwapchain _ => .swapchains
  | getSwapchainImages => .owned .images

variable [DecidableEq H] (t : ObjectTables H) (request : List UInt8) (a : Findings H)

def handle : CreateRequest H → ObjectTables H
  | createDevice physical => t.handleCreateDevice physical a
  | getDeviceQueue => t.handleGetDeviceQueue request a
  | getDeviceQueue2 => t.handleGetDeviceQueue2 request a
  | createOwned table => t.handleCreateOwned table request a
  | createFence => t.handleCreateFence request a
  | createSemaphore => t.handleCreateSemaphore request a
  | createDescriptorPool => t.handleCreateDescriptorPool request a
  | createPipelines => t.handleCreatePipelines request a
  | allocateCommandBuffers => t.handleAllocateCommandBuffers request a
  | allocateDescriptorSets pool => t.handleAllocateDescriptorSets pool request a
  | allocateMemory => t.handleAllocateMemory request a
  | createDescriptorUpdateTemplate entries => t.handleCreateDescriptorUpdateTemplate entries request a
  | createSamplerYcbcrConversion => t.handleCreateSamplerYcbcrConversion request a
  | createSurface => t.handleCreateSurface a
  | createSwapchain surface => t.handleCreateSwapchain surface request a
  | getSwapchainImages => t.handleGetSwapchainImages request a

end CreateRequest

end VkRemote.Server
