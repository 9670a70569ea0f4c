import VulkanRemote.Commands.Operations
import VulkanRemote.Server.Stock
import VulkanRemote.Server.UpdateTemplates

/-! The control lane of a session: handlers that find a device's objects in the tables, ask the driver, keep
what it makes, and reply. -/

namespace VkRemote.Commands

open Lib Wire Marshal Decode Server

/-- Objects that are destroyed one at a time. -/
inductive Destroyed
  | owned (table : OwnedTable)
  | fence
  | semaphore
  | descriptorPool
  | samplerYcbcrConversion

/-- Calls about a device's objects: the application's with ids, the driver's with handles of its own. -/
inductive Request
  | make (device : UInt64) (m : Making)
  | destroy (device : UInt64) (d : Destroyed) (object : UInt64)
  | freeCommandBuffers (device pool : UInt64) (commandBuffers : List UInt64)
  | record (c : Command)
  | update (device : UInt64) (u : SetUpdates)
  | operate (device : UInt64) (c : DeviceCommand) (args : Args c.params)
  | freeDescriptorSets (device pool : UInt64) (count : UInt32) (pSets : Ptr (Elements UInt64 count.toNat))
  | resetDescriptorPool (device pool : UInt64) (flags : UInt32)
  | submit (q : Submission)

inductive RequestOpcode
  | make (o : MakeOpcode)
  | destroy (d : Destroyed)
  | freeCommandBuffers
  | record (o : Opcode)
  | update
  | operate (c : DeviceCommand)
  | freeDescriptorSets
  | resetDescriptorPool
  | submit (o : SubmitOpcode)

namespace Request

def opcode : Request → RequestOpcode
  | make _ m => .make m.opcode
  | destroy _ d _ => .destroy d
  | freeCommandBuffers _ _ _ => .freeCommandBuffers
  | record c => .record c.call.opcode
  | update _ _ => .update
  | operate _ c _ => .operate c
  | freeDescriptorSets _ _ _ _ => .freeDescriptorSets
  | resetDescriptorPool _ _ _ => .resetDescriptorPool
  | submit q => .submit q.opcode

/-- What the client sends; nothing for a null object. -/
def write : Request → Option (List UInt8)
  | make device m => do
    let bytes ← m.write
    return Writer.handle device ++ bytes
  | destroy device _ object => if object = 0 then none else some (Writer.handle device ++ Writer.handle object)
  | freeCommandBuffers device pool commandBuffers =>
    some (Writer.handle device ++ (Writer.handle pool ++ (Writer.u32 (UInt32.ofNat commandBuffers.length) ++
      commandBuffers.flatMap Writer.handle)))
  | record c => c.write id
  | update device u => do
    let bytes ← u.write
    return Writer.handle device ++ bytes
  | operate device c args => if c.sends args then some (Writer.handle device ++ writeArgs c.params args) else none
  | freeDescriptorSets device pool count pSets =>
    if pool ≠ 0 ∧ validArray pSets ∧ NoneNull pSets.items then
      some (Writer.handle device ++ (Writer.handle pool ++ writeCounted Writer.handle count pSets))
    else none
  | resetDescriptorPool device pool flags =>
    if pool ≠ 0 then some (Writer.handle device ++ (Writer.handle pool ++ Writer.u32 flags)) else none
  | submit q => q.write

def encode (r : Request) : Option (RequestOpcode × List UInt8) := r.write.map (r.opcode, ·)

end Request

/-- What the driver does with a call: its result, and the handles that it writes into the array of the caller. -/
structure Driver (σ : Type) where
  call : σ → Request → σ × UInt32 × (ℕ → UInt64)
  /-- `vkGetDeviceProcAddr`. -/
  found : UInt64 → String → Bool

namespace Driver

variable {σ : Type} (D : Driver σ)

/-- A handler is content with one of the names; without names it is linked. -/
def has (device : UInt64) (names : List String) : Bool := names.isEmpty || names.any (D.found device)

def lookedUp : LookedUp → UInt64 → Bool
  | .destroyDescriptorUpdateTemplate, device => D.found device "vkDestroyDescriptorUpdateTemplate"
  | .destroySamplerYcbcrConversion, device => D.found device "vkDestroySamplerYcbcrConversion"

end Driver

/-- The table of a kind of objects. -/
def placeOf : HandleKind → Shelf
  | .buffer => .owned .buffers
  | .image => .owned .images
  | .imageView => .owned .imageViews
  | .bufferView => .owned .bufferViews
  | .memory => .memories
  | .renderPass => .owned .renderPasses
  | .framebuffer => .owned .framebuffers
  | .shaderModule => .owned .shaderModules
  | .pipeline => .owned .pipelines
  | .pipelineLayout => .owned .pipelineLayouts
  | .pipelineCache => .owned .pipelineCaches
  | .descriptorSetLayout => .owned .descriptorSetLayouts
  | .descriptorPool => .descriptorPools
  | .descriptorSet => .descriptorSets
  | .sampler => .owned .samplers
  | .samplerYcbcrConversion => .samplerYcbcrConversions
  | .semaphore => .semaphores
  | .fence => .fences
  | .event => .owned .events
  | .queryPool => .owned .queryPools
  | .surface => .surfaces
  | .swapchain => .swapchains
  | .commandPool => .owned .commandPools
  | .commandBuffer => .commandBuffers

def kindOfOwned : OwnedTable → HandleKind
  | .commandPools => .commandPool
  | .buffers => .buffer
  | .images => .image
  | .imageViews => .imageView
  | .bufferViews => .bufferView
  | .events => .event
  | .queryPools => .queryPool
  | .samplers => .sampler
  | .shaderModules => .shaderModule
  | .pipelineCaches => .pipelineCache
  | .pipelineLayouts => .pipelineLayout
  | .pipelines => .pipeline
  | .renderPasses => .renderPass
  | .framebuffers => .framebuffer
  | .descriptorSetLayouts => .descriptorSetLayout

def Destroyed.shelf : Destroyed → Shelf
  | owned table => .owned table
  | fence => .fences
  | semaphore => .semaphores
  | descriptorPool => .descriptorPools
  | samplerYcbcrConversion => .samplerYcbcrConversions

def Destroyed.kind : Destroyed → HandleKind
  | owned table => kindOfOwned table
  | fence => .fence
  | semaphore => .semaphore
  | descriptorPool => .descriptorPool
  | samplerYcbcrConversion => .samplerYcbcrConversion

def Destroyed.handler : Destroyed → DestroyRequest
  | owned table => .destroyOwned table
  | fence => .destroyFence
  | semaphore => .destroySemaphore
  | descriptorPool => .destroyDescriptorPool
  | samplerYcbcrConversion => .destroySamplerYcbcrConversion

abbrev NativeTable := Table UInt64 UInt64

/-- The tables hold no null handles. -/
def notNull (native : UInt64) : Option UInt64 := if native = 0 then none else some native

/-! ### Keeping what the driver has made -/

/-- The side maps that some handlers keep. -/
def noteMade (device native : UInt64) (id : ℕ) (t : ObjectTables UInt64) : Making → ObjectTables UInt64
  | .commandBuffers _ =>
    { t with commandBufferDevices := Function.update t.commandBufferDevices (notNull native) (some device) }
  | .descriptorSets info =>
    { t with descriptorSetOwners := Function.update t.descriptorSetOwners id (some ⟨device, info.descriptorPool⟩) }
  | .one .samplerYcbcrConversion _ =>
    { t with samplerYcbcrConversionOwners := Function.update t.samplerYcbcrConversionOwners id (some device) }
  | _ => t

/-- An object of a device goes into its table. -/
def keepOne (device : UInt64) (m : Making) (t : ObjectTables UInt64) (native : UInt64) :
    ObjectTables UInt64 × UInt64 :=
  let added := (t.shelf (placeOf m.kind)).add (notNull native) (some device)
  (noteMade device native added.2 (t.put added.1 (placeOf m.kind)) m, UInt64.ofNat added.2)

/-- One object after the other, with the ids for the reply. -/
def keepAll (device : UInt64) (m : Making) (result : UInt32) :
    List UInt64 → ObjectTables UInt64 → ObjectTables UInt64 × List UInt64
  | [], t => (t, [])
  | native :: natives, t =>
    if m.keeps result native then
      let kept := keepOne device m t native
      let others := keepAll device m result natives kept.1
      (others.1, kept.2 :: others.2)
    else
      let others := keepAll device m result natives t
      (others.1, 0 :: others.2)

/-- The driver is not called for no pipelines. -/
def Making.asks : Making → Bool
  | graphicsPipelines _ count _ => count ≠ 0
  | computePipelines _ count _ => count ≠ 0
  | _ => true

/-- A request that begins with its device. -/
def readFor {α : Type} (devices : UInt64 → UInt64) (m : Decode α) : Decode (UInt64 × α) := do
  let id ← handle
  requireOk
  require (devices id ≠ 0)
  let a ← m
  return (devices id, a)

/-- The pool and the ids of `FreeDescriptorSets`. -/
def readFreedSets : Decode (UInt64 × (count : UInt32) × Ptr (Elements UInt64 count.toNat)) := do
  let pool ← readNative .descriptorPool
  let sets ← readBacked 8 8 handle
  requireOk
  let left ← remaining
  require (left = 0 ∧ pool ≠ 0)
  return (pool, sets)

/-- The pool and the flags of `ResetDescriptorPool`. -/
def readPoolReset : Decode (UInt64 × UInt32) := do
  let pool ← readNative .descriptorPool
  let flags ← u32
  requireOk
  let left ← remaining
  require (pool ≠ 0 ∧ left = 0)
  return (pool, flags)

/-- Recorded commands of which the driver may refuse some. -/
def Opcode.checked : Opcode → Bool
  | .plain .endCommandBuffer => true
  | .plain .resetCommandBuffer => true
  | .beginCommandBuffer => true
  | _ => false

/-- The driver's handles for the command buffers that are taken one after the other. -/
def takenCommandBuffers : List ℕ → ObjectTables UInt64 → List UInt64
  | [], _ => []
  | id :: ids, t => (t.commandBuffers.get id).getD 0 :: takenCommandBuffers ids (t.takeCommandBuffer id)

/-- The driver and a session's tables. -/
structure Machine (σ : Type) where
  driver : σ
  tables : ObjectTables UInt64
  errors : UInt32 := 0

namespace Machine

variable {σ : Type} (D : Driver σ) (s : Machine σ)

def device (id : UInt64) : UInt64 := (s.tables.devices.get id.toNat).getD 0

def queue (id : UInt64) : UInt64 := (s.tables.queues.get id.toNat).getD 0

def resolver : Resolver := fun kind id => ((s.tables.shelf (placeOf kind)).get id.toNat).getD 0

def functions : Functions where
  device cb := s.tables.commandBufferDevices (notNull cb)
  found := D.found

/-- `mark_oneway_error`. -/
def mark : Machine σ := { s with errors := s.errors + 1 }

def after (r : Request) : Machine σ := { s with driver := (D.call s.driver r).1 }

def result (r : Request) : UInt32 := (D.call s.driver r).2.1

/-- The array of a call that makes objects. -/
def natives (device : UInt64) (m : Making) : List UInt64 :=
  (List.range m.count).map (D.call s.driver (.make device m)).2.2

def decode {α : Type} (m : Decode α) (request : List UInt8) : Option α :=
  (m s.resolver { reader := ⟨request, false⟩ }).1

/-- An empty list stands for no reply. -/
def handleMake (o : MakeOpcode) (request : List UInt8) : Machine σ × List UInt8 :=
  match s.decode (readFor s.device o.read) request with
  | none => (s, if o = .commandBuffers then [] else replyStatus statusDecodeError)
  | some (device, m) =>
    if D.has device o.functions then
      let called := if m.asks then s.after D (.make device m) else s
      let result := if m.asks then s.result D (.make device m) else Server.success
      let natives := if m.asks then s.natives D device m else []
      let kept := keepAll device m result natives called.tables
      ({ called with tables := kept.1 },
        Writer.u32 statusOk ++ (Writer.i32 result ++ (m.counted.elim [] Writer.u32 ++
          kept.2.flatMap Writer.handle)))
    else (s, replyStatus statusUnsupportedCommand)

/-- The driver is called where the handler of the tables is content. -/
def handleDestroy (d : Destroyed) (request : List UInt8) : Machine σ :=
  let p := ObjectTables.readIds request
  let left := d.handler.handle D.lookedUp s.tables request
  if left.2 then { s with tables := left.1 }.mark
  else { s with tables := left.1 }.after D (.destroy ((s.tables.devices.get p.1).getD 0) d
    (((s.tables.shelf d.shelf).get p.2.1).getD 0))

def handleFree (request : List UInt8) : Machine σ :=
  let p := ObjectTables.readIds request
  let left := s.tables.handleFreeCommandBuffers request
  if left.2 then { s with tables := left.1 }.mark
  else { s with tables := left.1 }.after D (.freeCommandBuffers ((s.tables.devices.get p.1).getD 0)
    (((s.tables.owned .commandPools).get p.2.1).getD 0)
    (takenCommandBuffers (freedCommandBuffers request) s.tables))

def handleRecord (o : Opcode) (request : List UInt8) : Machine σ :=
  match o.handle (s.functions D) s.resolver request with
  | none => s.mark
  | some c =>
    let called := s.after D (.record c)
    if o.checked && s.result D (.record c) ≠ Server.success then called.mark else called

def handleUpdate (request : List UInt8) : Machine σ :=
  match s.decode (readFor s.device SetUpdates.read) request with
  | none => s.mark
  | some (device, u) => s.after D (.update device u)

def handleOperate (c : DeviceCommand) (request : List UInt8) : Machine σ × List UInt8 :=
  match s.decode (readFor s.device c.read) request with
  | none => if c.replies then (s, replyStatus statusDecodeError) else (s.mark, [])
  | some (device, args) =>
    if D.has device c.functions then
      (s.after D (.operate device c args),
        if c.replies then Writer.u32 statusOk ++ Writer.i32 (s.result D (.operate device c args)) else [])
    else if c.replies then (s, replyStatus statusUnsupportedCommand)
    else (s.mark, [])

/-- Tables after a call that has to succeed to change them. -/
def settle (r : Request) (tables : ObjectTables UInt64) : Machine σ × List UInt8 :=
  ({ s.after D r with tables := if s.result D r = Server.success then tables else s.tables },
    Writer.u32 statusOk ++ Writer.i32 (s.result D r))

def handleFreeSets (request : List UInt8) : Machine σ × List UInt8 :=
  match s.decode (readFor s.device readFreedSets) request with
  | none => (s, replyStatus statusDecodeError)
  | some (device, pool, ⟨count, ids⟩) =>
    if ids.items.all fun id => s.tables.setBelongs device pool id.toNat then
      s.settle D (.freeDescriptorSets device pool count (ids.received (s.resolver .descriptorSet)))
        (ids.items.foldl (fun t id => t.dropSet id.toNat) s.tables)
    else (s, replyStatus statusDecodeError)

def handleResetPool (request : List UInt8) : Machine σ × List UInt8 :=
  match s.decode (readFor s.device readPoolReset) request with
  | none => (s, replyStatus statusDecodeError)
  | some (device, pool, flags) =>
    s.settle D (.resetDescriptorPool device pool flags) (s.tables.dropSetsOf pool)

/-- The device of the queue that a submission names. -/
def submitted (request : List UInt8) : Option UInt64 :=
  s.tables.queues.owner (Reader.handle ⟨request, false⟩).1.toNat

/-- Only `vkQueueSubmit2` is looked up, for the device of its queue. -/
def reaches (names : List String) (owner : Option UInt64) : Bool :=
  names.isEmpty || owner.any fun device => D.has device names

/-- The errors since the last submission go with the reply. -/
def handleSubmit (o : SubmitOpcode) (request : List UInt8) : Machine σ × List UInt8 :=
  match s.decode (o.read s.queue) request with
  | none => (s, replyStatus statusDecodeError)
  | some q =>
    if reaches D o.functions (s.submitted request) then
      ({ s.after D (.submit q) with errors := 0 },
        Writer.u32 statusOk ++ (Writer.i32 (s.result D (.submit q)) ++ Writer.u32 s.errors))
    else (s, replyStatus statusUnsupportedCommand)

/-- What a session does with a message. -/
def serve (message : RequestOpcode × List UInt8) : Machine σ × List UInt8 :=
  match message.1 with
  | .make o => s.handleMake D o message.2
  | .destroy d => (s.handleDestroy D d message.2, [])
  | .freeCommandBuffers => (s.handleFree D message.2, [])
  | .record o => (s.handleRecord D o message.2, [])
  | .update => (s.handleUpdate D message.2, [])
  | .operate c => s.handleOperate D c message.2
  | .freeDescriptorSets => s.handleFreeSets D message.2
  | .resetDescriptorPool => s.handleResetPool D message.2
  | .submit o => s.handleSubmit D o message.2

end Machine

/-! ### What the client makes of a reply -/

/-- What a call answers: its result, the ids for the elements of the caller's array, and the number of errors
where it reports them. -/
structure Outcome where
  result : UInt32 := Client.VkResult.success
  ids : List (UInt64 × ℕ) := []
  errors : Option UInt32 := none

namespace Request

/-- A call that only has a result. -/
def readResult (reply : List UInt8) : Outcome :=
  match Client.roundTrip reply with
  | none => { result := Client.VkResult.errorDeviceLost }
  | some r =>
    let (result, r) := r.i32
    if r.ok then { result } else { result := Client.VkResult.errorDeviceLost }

/-- A call of which the reply has to end with it. -/
def readWholeResult (reply : List UInt8) : Outcome :=
  match Client.roundTrip reply with
  | none => { result := Client.VkResult.errorDeviceLost }
  | some r =>
    let (result, r) := r.i32
    if r.ok && r.remaining = 0 then { result } else { result := Client.VkResult.errorDeviceLost }

/-- `QueueSubmit` and `QueueSubmit2`, which reports the errors before it looks at the rest. -/
def readSubmitted (o : SubmitOpcode) (reply : List UInt8) : Outcome :=
  match Client.roundTrip reply with
  | none => { result := Client.VkResult.errorDeviceLost }
  | some r =>
    let (result, r) := r.i32
    let (errors, r) := r.u32
    if r.ok && r.remaining = 0 then { result, errors := some errors }
    else { result := Client.VkResult.errorDeviceLost, errors := if o = .submit2 then some errors else none }

/-- Calls that are not waited for have answered before they are served. -/
def outcome : Request → List UInt8 → Outcome
  | make _ m, reply => { result := (m.answer reply).result, ids := (m.answer reply).stores }
  | operate _ c _, reply => if c.replies then readResult reply else {}
  | freeDescriptorSets _ _ _ _, reply => readWholeResult reply
  | resetDescriptorPool _ _ _, reply => readWholeResult reply
  | submit q, reply => readSubmitted q.opcode reply
  | _, _ => {}

end Request

end VkRemote.Commands
