import Mathlib.Data.Finset.Option
import Mathlib.Data.Finset.Union
import VulkanRemote.Client.MappedMemory

/-! What recording a command buffer notes on the client: the memories its commands write, the
descriptor sets its draws and dispatches may write through, and which of them a barrier to the
host stage has made visible. -/

namespace VkRemote.Client

abbrev BufferId := ℕ
abbrev ImageId := ℕ
abbrev ViewId := ℕ
abbrev SetId := ℕ
abbrev FramebufferId := ℕ

inductive DescriptorType
  | storageBuffer
  | storageBufferDynamic
  | storageImage
  | storageTexelBuffer
  | other
  deriving DecidableEq

structure DescriptorResource where
  type : DescriptorType
  resourceId : ℕ
  deriving DecidableEq

structure FramebufferMetadata where
  imageless : Bool
  imageViews : List ViewId

/-- The maps of `RemoteDevice` that say where a resource lives; a set that was never updated
holds nothing. -/
structure ResourceTables where
  bufferBindings : BufferId → Option MemoryId := fun _ => none
  imageBindings : ImageId → Option MemoryId := fun _ => none
  imageViewImages : ViewId → Option ImageId := fun _ => none
  bufferViewBuffers : ViewId → Option BufferId := fun _ => none
  descriptorResources : SetId → List DescriptorResource := fun _ => []
  framebuffers : FramebufferId → Option FramebufferMetadata := fun _ => none

/-- `VK_PIPELINE_STAGE_HOST_BIT`, and `VK_PIPELINE_STAGE_2_HOST_BIT`. -/
def stageHost : UInt64 := 0x4000

/-- `VK_ACCESS_HOST_READ_BIT | VK_ACCESS_HOST_WRITE_BIT`. -/
def accessHost : UInt64 := 0x6000

def namesHostStage (mask : UInt64) : Bool := mask &&& stageHost != 0

def namesHostAccess (mask : UInt64) : Bool := mask &&& accessHost != 0

/-- `VK_ACCESS_MEMORY_READ_BIT | VK_ACCESS_MEMORY_WRITE_BIT`. -/
def accessMemory : UInt64 := 0x18000

/-- Accesses that include those of the host: its own bits and the bits that stand for every access. -/
def includesHostAccess (mask : UInt64) : Bool := mask &&& (accessHost ||| accessMemory) != 0

/-- Destination stage and access of one barrier of `VkDependencyInfo`. -/
structure Barrier2 where
  dstStageMask : UInt64
  dstAccessMask : UInt64

def Barrier2.toHost (b : Barrier2) : Bool :=
  namesHostStage b.dstStageMask && namesHostAccess b.dstAccessMask

structure DependencyInfo where
  memory : List Barrier2
  buffers : List (BufferId × Barrier2)
  images : List (ImageId × Barrier2)

/-- The commands that touch the record, of a secondary or directly in a primary.
`copyToBuffer` stands for `CmdCopyBuffer`, `CmdCopyImageToBuffer`, `CmdFillBuffer`,
`CmdUpdateBuffer` and `CmdCopyQueryPoolResults`; `copyToImage` for `CmdCopyBufferToImage`,
`CmdCopyImage`, `CmdBlitImage`, `CmdResolveImage`, `CmdClearColorImage` and
`CmdClearDepthStencilImage`; `draw` and `dispatch` for their indexed, indirect and counted
forms. -/
inductive Command
  | copyToBuffer (dst : BufferId)
  | copyToImage (dst : ImageId)
  | beginRenderPass (framebuffer : FramebufferId) (attachments : Option (List ViewId))
  | bindDescriptorSets (compute : Bool) (firstSet : ℕ) (sets : List SetId)
  | draw
  | dispatch
  /-- `CmdPipelineBarrier` and `CmdWaitEvents`. -/
  | pipelineBarrier (dstStageMask : UInt64) (memory : List UInt64)
      (buffers : List (BufferId × UInt64)) (images : List (ImageId × UInt64))
  /-- `CmdPipelineBarrier2`; `CmdWaitEvents2` is one of these for each event. -/
  | pipelineBarrier2 (info : DependencyInfo)

structure CommandBuffer where
  boundGraphicsSets : List (ℕ × SetId) := []
  boundComputeSets : List (ℕ × SetId) := []
  writableDescriptorSets : Finset SetId := ∅
  descriptorWritesHostVisible : Bool := false
  hostVisibleWrites : Finset MemoryId := ∅
  pendingWrites : Finset MemoryId := ∅

/-- The memory the resource of a descriptor is bound to, for the types a shader can write. -/
def DescriptorResource.memory (t : ResourceTables) (r : DescriptorResource) :
    Option MemoryId :=
  match r.type with
  | .storageBuffer | .storageBufferDynamic => t.bufferBindings r.resourceId
  | .storageImage => (t.imageViewImages r.resourceId).bind t.imageBindings
  | .storageTexelBuffer => (t.bufferViewBuffers r.resourceId).bind t.bufferBindings
  | .other => none

/-- The barrier's buffer is the one behind the descriptor. -/
def DescriptorResource.isBuffer (t : ResourceTables) (b : BufferId) (r : DescriptorResource) :
    Bool :=
  match r.type with
  | .storageBuffer | .storageBufferDynamic => r.resourceId = b
  | .storageTexelBuffer => t.bufferViewBuffers r.resourceId = some b
  | _ => false

def DescriptorResource.isImage (t : ResourceTables) (i : ImageId) (r : DescriptorResource) :
    Bool :=
  match r.type with
  | .storageImage => t.imageViewImages r.resourceId = some i
  | _ => false

/-- `bound[firstSet + i] = pDescriptorSets[i]`. -/
def bindSets (bound : List (ℕ × SetId)) : ℕ → List SetId → List (ℕ × SetId)
  | _, [] => bound
  | k, s :: sets => bindSets ((k, s) :: bound.filter (fun e => e.1 ≠ k)) (k + 1) sets

namespace CommandBuffer

def pend (cb : CommandBuffer) (memory : Option MemoryId) : CommandBuffer :=
  { cb with pendingWrites := cb.pendingWrites ∪ memory.toFinset }

/-- `mark_descriptor_writes`. -/
def markDescriptorWrites (cb : CommandBuffer) (sets : List (ℕ × SetId)) : CommandBuffer :=
  { cb with writableDescriptorSets := cb.writableDescriptorSets ∪ (sets.map Prod.snd).toFinset }

/-- The views `mark_framebuffer_writes` looks at. -/
def framebufferViews (f : FramebufferMetadata) (attachments : Option (List ViewId)) :
    List ViewId :=
  if f.imageless then attachments.getD f.imageViews else f.imageViews

/-- `mark_framebuffer_writes`. -/
def markFramebufferWrites (cb : CommandBuffer) (t : ResourceTables) (framebuffer : FramebufferId)
    (attachments : Option (List ViewId)) : CommandBuffer :=
  match t.framebuffers framebuffer with
  | none => cb
  | some f => (framebufferViews f attachments).foldl
      (fun cb view => cb.pend ((t.imageViewImages view).bind t.imageBindings)) cb

/-- A global barrier to the host: everything written so far, whatever the descriptors name. -/
def exposeAll (cb : CommandBuffer) : CommandBuffer :=
  { cb with
    hostVisibleWrites := cb.hostVisibleWrites ∪ cb.pendingWrites
    descriptorWritesHostVisible := true }

/-- A resource barrier of `CmdPipelineBarrier`: the memory becomes visible if a command has
written to it, or a set that may be written through names the resource. -/
def exposeWritten (cb : CommandBuffer) (t : ResourceTables) (memory : Option MemoryId)
    (names : DescriptorResource → Bool) : CommandBuffer :=
  match memory with
  | none => cb
  | some m =>
    if m ∈ cb.pendingWrites ∨
        ∃ s ∈ cb.writableDescriptorSets, ∃ r ∈ t.descriptorResources s, names r = true then
      { cb with hostVisibleWrites := insert m cb.hostVisibleWrites }
    else cb

/-- A resource barrier of `CmdPipelineBarrier2`: the memory becomes visible, written or not. -/
def expose (cb : CommandBuffer) (memory : Option MemoryId) : CommandBuffer :=
  { cb with hostVisibleWrites := cb.hostVisibleWrites ∪ memory.toFinset }

/-- The attribution of `CmdPipelineBarrier` and `CmdWaitEvents`. -/
def pipelineBarrier (cb : CommandBuffer) (t : ResourceTables) (dstStageMask : UInt64)
    (memory : List UInt64) (buffers : List (BufferId × UInt64))
    (images : List (ImageId × UInt64)) : CommandBuffer :=
  if namesHostStage dstStageMask then
    let cb := memory.foldl (fun cb a => if namesHostAccess a then cb.exposeAll else cb) cb
    let cb := buffers.foldl (fun cb b => if namesHostAccess b.2 then
      cb.exposeWritten t (t.bufferBindings b.1) (DescriptorResource.isBuffer t b.1) else cb) cb
    images.foldl (fun cb i => if namesHostAccess i.2 then
      cb.exposeWritten t (t.imageBindings i.1) (DescriptorResource.isImage t i.1) else cb) cb
  else cb

/-- The attribution of `CmdPipelineBarrier2` and of each event of `CmdWaitEvents2`. -/
def pipelineBarrier2 (cb : CommandBuffer) (t : ResourceTables) (info : DependencyInfo) :
    CommandBuffer :=
  let cb := if info.memory.any Barrier2.toHost then cb.exposeAll else cb
  let cb := info.buffers.foldl
    (fun cb b => if b.2.toHost then cb.expose (t.bufferBindings b.1) else cb) cb
  info.images.foldl (fun cb i => if i.2.toHost then cb.expose (t.imageBindings i.1) else cb) cb

def record (t : ResourceTables) (cb : CommandBuffer) : Command → CommandBuffer
  | .copyToBuffer dst => cb.pend (t.bufferBindings dst)
  | .copyToImage dst => cb.pend (t.imageBindings dst)
  | .beginRenderPass framebuffer attachments => cb.markFramebufferWrites t framebuffer attachments
  | .bindDescriptorSets true firstSet sets =>
    { cb with boundComputeSets := bindSets cb.boundComputeSets firstSet sets }
  | .bindDescriptorSets false firstSet sets =>
    { cb with boundGraphicsSets := bindSets cb.boundGraphicsSets firstSet sets }
  | .draw => cb.markDescriptorWrites cb.boundGraphicsSets
  | .dispatch => cb.markDescriptorWrites cb.boundComputeSets
  | .pipelineBarrier stage memory buffers images =>
    cb.pipelineBarrier t stage memory buffers images
  | .pipelineBarrier2 info => cb.pipelineBarrier2 t info

/-- The record a buffer is left with, from `BeginCommandBuffer` on. -/
def recordAll (t : ResourceTables) (commands : List Command) : CommandBuffer :=
  commands.foldl (record t) {}

/-- `CmdExecuteCommands`, for one of the secondaries. -/
def execute (cb secondary : CommandBuffer) : CommandBuffer :=
  { cb with
    pendingWrites := cb.pendingWrites ∪ secondary.pendingWrites
    hostVisibleWrites := cb.hostVisibleWrites ∪ secondary.hostVisibleWrites
    writableDescriptorSets := cb.writableDescriptorSets ∪ secondary.writableDescriptorSets
    descriptorWritesHostVisible :=
      cb.descriptorWritesHostVisible || secondary.descriptorWritesHostVisible }

end CommandBuffer

/-- What a primary command buffer holds: commands of its own and whole secondaries. -/
inductive PrimaryCommand
  | own (c : Command)
  | executeCommands (secondaries : List (List Command))

namespace CommandBuffer

def recordPrimary (t : ResourceTables) (cb : CommandBuffer) : PrimaryCommand → CommandBuffer
  | .own c => cb.record t c
  | .executeCommands secondaries =>
    secondaries.foldl (fun cb commands => cb.execute (recordAll t commands)) cb

def recordPrimaries (t : ResourceTables) (commands : List PrimaryCommand) : CommandBuffer :=
  commands.foldl (recordPrimary t) {}

/-- What a submit adds to `submit_writes` for this command buffer. -/
def submitWrites (t : ResourceTables) (cb : CommandBuffer) : Finset MemoryId :=
  cb.hostVisibleWrites ∪
    if cb.descriptorWritesHostVisible then
      cb.writableDescriptorSets.biUnion fun s =>
        (t.descriptorResources s).toFinset.biUnion fun r => (r.memory t).toFinset
    else ∅

end CommandBuffer

end VkRemote.Client
