import VulkanRemote.Marshal.RoundTrip

/-! What `commands.cpp` sends for a command that is recorded. Every request begins with the id of the command
buffer. The bookkeeping about writes that the same functions do is in `Client.Recording` and `Client.Barriers`. -/

namespace VkRemote.Commands

open Lib Wire Marshal

def NoneNull (ids : List UInt64) : Prop := ∀ id ∈ ids, id ≠ 0

instance (ids : List UInt64) : Decidable (NoneNull ids) := List.decidableBAll (· ≠ 0) ids

/-- An argument that is sent as it is. A handle goes by its id; where it is `needed`, the handler checks that it
resolves. Enumerations and bits of floats are words. -/
inductive Param
  | u32
  | u64
  | handle (kind : HandleKind) (needed : Bool)

@[reducible] def Args : List Param → Type
  | [] => Unit
  | .u32 :: ps => UInt32 × Args ps
  | .u64 :: ps => UInt64 × Args ps
  | .handle _ _ :: ps => UInt64 × Args ps

def writeArgs : (ps : List Param) → Args ps → List UInt8
  | [], _ => []
  | .u32 :: ps, (v, args) => Writer.u32 v ++ writeArgs ps args
  | .u64 :: ps, (v, args) => Writer.u64 v ++ writeArgs ps args
  | .handle _ _ :: ps, (id, args) => Writer.handle id ++ writeArgs ps args

inductive PlainCommand
  | endCommandBuffer
  | resetCommandBuffer
  | cmdNextSubpass
  | cmdEndRenderPass
  | cmdSetDeviceMask
  | cmdDispatchBase
  | cmdBindPipeline
  | cmdBindIndexBuffer
  | cmdDraw
  | cmdDispatch
  | cmdDrawIndexed
  | cmdDrawIndirect
  | cmdDrawIndexedIndirect
  | cmdDrawIndirectCount
  | cmdDrawIndexedIndirectCount
  | cmdDispatchIndirect
  | cmdBeginQuery
  | cmdEndQuery
  | cmdResetQueryPool
  | cmdWriteTimestamp
  | cmdCopyQueryPoolResults
  | cmdSetEvent
  | cmdResetEvent
  | cmdSetLineWidth
  | cmdSetDepthBias
  | cmdSetBlendConstants
  | cmdSetDepthBounds
  | cmdSetStencilCompareMask
  | cmdSetStencilWriteMask
  | cmdSetStencilReference
  | cmdResetEvent2
  | cmdWriteTimestamp2
  | cmdFillBuffer
  deriving DecidableEq

def indirectParams : List Param := [.handle .buffer true, .u64, .u32, .u32]

def indirectCountParams : List Param :=
  [.handle .buffer true, .u64, .handle .buffer true, .u64, .u32, .u32]

def stencilParams : List Param := [.u32, .u32]

/-- What follows the command buffer, in the order of the request. -/
def PlainCommand.params : PlainCommand → List Param
  | endCommandBuffer => []
  | resetCommandBuffer => [.u32]
  | cmdNextSubpass => [.u32]
  | cmdEndRenderPass => []
  | cmdSetDeviceMask => [.u32]
  | cmdDispatchBase => [.u32, .u32, .u32, .u32, .u32, .u32]
  | cmdBindPipeline => [.u32, .handle .pipeline false]
  | cmdBindIndexBuffer => [.handle .buffer true, .u64, .u32]
  | cmdDraw => [.u32, .u32, .u32, .u32]
  | cmdDispatch => [.u32, .u32, .u32]
  | cmdDrawIndexed => [.u32, .u32, .u32, .u32, .u32]
  | cmdDrawIndirect => indirectParams
  | cmdDrawIndexedIndirect => indirectParams
  | cmdDrawIndirectCount => indirectCountParams
  | cmdDrawIndexedIndirectCount => indirectCountParams
  | cmdDispatchIndirect => [.handle .buffer true, .u64]
  | cmdBeginQuery => [.handle .queryPool true, .u32, .u32]
  | cmdEndQuery => [.handle .queryPool true, .u32]
  | cmdResetQueryPool => [.handle .queryPool true, .u32, .u32]
  | cmdWriteTimestamp => [.u32, .handle .queryPool true, .u32]
  | cmdCopyQueryPoolResults =>
    [.handle .queryPool true, .u32, .u32, .handle .buffer true, .u64, .u64, .u32]
  | cmdSetEvent => [.handle .event true, .u32]
  | cmdResetEvent => [.handle .event true, .u32]
  | cmdSetLineWidth => [.u32]
  | cmdSetDepthBias => [.u32, .u32, .u32]
  | cmdSetBlendConstants => [.u32, .u32, .u32, .u32]
  | cmdSetDepthBounds => [.u32, .u32]
  | cmdSetStencilCompareMask => stencilParams
  | cmdSetStencilWriteMask => stencilParams
  | cmdSetStencilReference => stencilParams
  | cmdResetEvent2 => [.handle .event true, .u64]
  | cmdWriteTimestamp2 => [.u64, .handle .queryPool true, .u32]
  | cmdFillBuffer => [.handle .buffer true, .u64, .u64, .u32]

/-- `CmdBindIndexBuffer` returns for a null buffer. -/
def PlainCommand.sends : (c : PlainCommand) → Args c.params → Bool
  | cmdBindIndexBuffer, (buffer, _, _, _) => buffer ≠ 0
  | _, _ => true

/-- The subresource range by its five words. -/
structure VkImageSubresourceRange where
  fields : Record (List.replicate 5 .u32)

instance : Raw VkImageSubresourceRange where
  slots := List.replicate 5 .u32
  record s := s.fields
  gaps _ := .zeros _
  ofRecord r _ := ⟨r⟩

abbrev VkClearColorValue := Blob 16

abbrev VkClearDepthStencilValue := Record [.u32, .u32]

abbrev VkClearAttachment := Record [.u32, .u32, .blob 16]

abbrev VkClearRect := Record (List.replicate 6 .u32)

/-- Two subresources, two offsets and the extent. -/
abbrev VkImageResolve := Record (List.replicate 17 .u32)

abbrev VkExtent2D := Record [.u32, .u32]

abbrev CombinerOps := Record [.u32, .u32]

/-- What is recorded into a command buffer. -/
inductive Call
  | plain (c : PlainCommand) (args : Args c.params)
  | beginCommandBuffer (info : VkCommandBufferBeginInfo)
  | cmdBeginRenderPass (info : VkRenderPassBeginInfo) (contents : UInt32)
  | cmdBeginRenderPass2 (info : VkRenderPassBeginInfo) (subpass : VkSubpassBeginInfo)
  | cmdNextSubpass2 (first : VkSubpassBeginInfo) (last : VkSubpassEndInfo)
  | cmdEndRenderPass2 (last : VkSubpassEndInfo)
  | cmdSetFragmentShadingRateKHR (pFragmentSize : Ptr VkExtent2D) (combinerOps : Ptr CombinerOps)
  | cmdBindDescriptorSets (bindPoint : UInt32) (layout : UInt64) (firstSet : UInt32) (setCount : UInt32)
      (pDescriptorSets : Ptr (Elements UInt64 setCount.toNat)) (offsetCount : UInt32)
      (pDynamicOffsets : Ptr (Elements UInt32 offsetCount.toNat))
  | cmdBindVertexBuffers (firstBinding bindingCount : UInt32) (pBuffers : Ptr (Elements UInt64 bindingCount.toNat))
      (pOffsets : Ptr (Elements UInt64 bindingCount.toNat))
  | cmdSetViewport (first count : UInt32) (pViewports : Ptr (Elements VkViewport count.toNat))
  | cmdSetScissor (first count : UInt32) (pScissors : Ptr (Elements VkRect2D count.toNat))
  | cmdPipelineBarrier (src dst flags : UInt32) (memoryCount : UInt32)
      (pMemory : Ptr (Elements VkMemoryBarrier memoryCount.toNat)) (bufferCount : UInt32)
      (pBuffers : Ptr (Elements VkBufferMemoryBarrier bufferCount.toNat)) (imageCount : UInt32)
      (pImages : Ptr (Elements VkImageMemoryBarrier imageCount.toNat))
  | cmdPipelineBarrier2 (info : Ptr VkDependencyInfo)
  | cmdSetEvent2 (event : UInt64) (info : Ptr VkDependencyInfo)
  | cmdWaitEvents2 (count : UInt32) (pEvents : Ptr (Elements UInt64 count.toNat))
      (pInfos : Ptr (Elements VkDependencyInfo count.toNat))
  | cmdCopyBuffer (src dst : UInt64) (count : UInt32) (pRegions : Ptr (Elements VkBufferCopy count.toNat))
  | cmdCopyBufferToImage (src dst : UInt64) (layout count : UInt32)
      (pRegions : Ptr (Elements VkBufferImageCopy count.toNat))
  | cmdCopyImageToBuffer (src : UInt64) (layout : UInt32) (dst : UInt64) (count : UInt32)
      (pRegions : Ptr (Elements VkBufferImageCopy count.toNat))
  | cmdCopyImage (src : UInt64) (srcLayout : UInt32) (dst : UInt64) (dstLayout count : UInt32)
      (pRegions : Ptr (Elements VkImageCopy count.toNat))
  | cmdBlitImage (src : UInt64) (srcLayout : UInt32) (dst : UInt64) (dstLayout count : UInt32)
      (pRegions : Ptr (Elements VkImageBlit count.toNat)) (filter : UInt32)
  | cmdUpdateBuffer (dst dstOffset dataSize : UInt64) (pData : Ptr (Elements UInt8 dataSize.toNat))
  | cmdClearColorImage (image : UInt64) (layout : UInt32) (color : VkClearColorValue) (count : UInt32)
      (pRanges : Ptr (Elements VkImageSubresourceRange count.toNat))
  | cmdClearDepthStencilImage (image : UInt64) (layout : UInt32) (pValue : Ptr VkClearDepthStencilValue)
      (count : UInt32) (pRanges : Ptr (Elements VkImageSubresourceRange count.toNat))
  | cmdClearAttachments (attachmentCount : UInt32)
      (pAttachments : Ptr (Elements VkClearAttachment attachmentCount.toNat)) (rectCount : UInt32)
      (pRects : Ptr (Elements VkClearRect rectCount.toNat))
  | cmdResolveImage (src : UInt64) (srcLayout : UInt32) (dst : UInt64) (dstLayout count : UInt32)
      (pRegions : Ptr (Elements VkImageResolve count.toNat))
  | cmdWaitEvents (eventCount : UInt32) (pEvents : Ptr (Elements UInt64 eventCount.toNat)) (src dst : UInt32)
      (memoryCount : UInt32) (pMemory : Ptr (Elements VkMemoryBarrier memoryCount.toNat)) (bufferCount : UInt32)
      (pBuffers : Ptr (Elements VkBufferMemoryBarrier bufferCount.toNat)) (imageCount : UInt32)
      (pImages : Ptr (Elements VkImageMemoryBarrier imageCount.toNat))
  | cmdPushConstants (layout : UInt64) (stages offset size : UInt32) (pValues : Ptr (Elements UInt8 size.toNat))
  | cmdExecuteCommands (count : UInt32) (pCommandBuffers : Ptr (Elements UInt64 count.toNat))

/-- A call with the command buffer it is for. -/
structure Command where
  commandBuffer : UInt64
  call : Call

def kMaxPushConstantBytes : ℕ := 65536

/-- The most bytes that `vkCmdUpdateBuffer` takes. -/
def maxUpdate : ℕ := 65536

/-- What `CmdUpdateBuffer` sends; it sends no bytes where the driver would refuse them. -/
def updateBytes {size : UInt64} (pData : Ptr (Elements UInt8 size.toNat)) : List UInt8 :=
  if size ≠ 0 ∧ size.toNat ≤ maxUpdate ∧ size &&& 3 = 0 ∧ pData.isNull = false then pData.items else []

def writeCounted {α : Type} (w : α → List UInt8) (count : UInt32) (p : Ptr (Elements α count.toNat)) :
    List UInt8 :=
  Writer.u32 count ++ p.items.flatMap w

/-- A buffer and its offset. -/
def writeVertexBuffer (binding : UInt64 × UInt64) : List UInt8 :=
  Writer.handle binding.1 ++ Writer.u64 binding.2

/-- An event and what it stands for. -/
def writeEventWait (wait : UInt64 × VkDependencyInfo) : Option (List UInt8) := do
  let info ← writeDependencyInfo wait.2
  return Writer.handle wait.1 ++ info

def writeBarriers {m b i : UInt32} (pMemory : Ptr (Elements VkMemoryBarrier m.toNat))
    (pBuffers : Ptr (Elements VkBufferMemoryBarrier b.toNat))
    (pImages : Ptr (Elements VkImageMemoryBarrier i.toNat)) : List UInt8 :=
  writeCounted writeMemoryBarrier m pMemory ++ writeCounted writeBufferMemoryBarrier b pBuffers ++
    writeCounted writeImageMemoryBarrier i pImages

/-- Both ends of a copy between images. -/
def writeImagePair (src : UInt64) (srcLayout : UInt32) (dst : UInt64) (dstLayout : UInt32) : List UInt8 :=
  Writer.handle src ++ Writer.i32 srcLayout ++ Writer.handle dst ++ Writer.i32 dstLayout

section

-- The id of a command buffer, whose handle is an address in the client.
variable (commandBufferId : UInt64 → UInt64)

/-- What follows the command buffer; `none` where the function returns and sends nothing. -/
def Call.write : Call → Option (List UInt8)
  | plain c args => if c.sends args then some (writeArgs c.params args) else none
  | beginCommandBuffer info => some (writeCommandBufferBeginInfo info)
  | cmdBeginRenderPass info contents => do
    let bytes ← writeRenderPassBeginInfo info
    return bytes ++ Writer.i32 contents
  | cmdBeginRenderPass2 info subpass => do
    let bytes ← writeRenderPassBeginInfo info
    let begun ← writeSubpassBeginInfo subpass
    return bytes ++ begun
  | cmdNextSubpass2 first last => do
    let begun ← writeSubpassBeginInfo first
    let ended ← writeSubpassEndInfo last
    return begun ++ ended
  | cmdEndRenderPass2 last => writeSubpassEndInfo last
  | cmdSetFragmentShadingRateKHR pFragmentSize combinerOps => do
    let size ← pFragmentSize.target
    let ops ← combinerOps.target
    return writeFields [.u32, .u32] size ++ writeFields [.u32, .u32] ops
  | cmdBindDescriptorSets bindPoint layout firstSet setCount pSets offsetCount pOffsets =>
    if layout ≠ 0 ∧ validArray pSets ∧ validArray pOffsets ∧ NoneNull pSets.items then
      some (Writer.i32 bindPoint ++ Writer.handle layout ++ Writer.u32 firstSet ++
        writeCounted Writer.handle setCount pSets ++ writeCounted Writer.u32 offsetCount pOffsets)
    else none
  | cmdBindVertexBuffers first count pBuffers pOffsets =>
    if validArray pBuffers ∧ validArray pOffsets then
      some (Writer.u32 first ++ Writer.u32 count ++ (pBuffers.items.zip pOffsets.items).flatMap writeVertexBuffer)
    else none
  | cmdSetViewport first count p => some (Writer.u32 first ++ writeCounted writeViewport count p)
  | cmdSetScissor first count p => some (Writer.u32 first ++ writeCounted writeRect2D count p)
  | cmdPipelineBarrier src dst flags _ pMemory _ pBuffers _ pImages =>
    some (Writer.u32 src ++ Writer.u32 dst ++ Writer.u32 flags ++ writeBarriers pMemory pBuffers pImages)
  | cmdPipelineBarrier2 info => info.target.bind writeDependencyInfo
  | cmdSetEvent2 event info => do
    let dependency ← info.target
    let bytes ← writeDependencyInfo dependency
    return Writer.handle event ++ bytes
  | cmdWaitEvents2 count pEvents pInfos =>
    if validArray pEvents ∧ validArray pInfos then do
      let waits ← writeAll writeEventWait (pEvents.items.zip pInfos.items)
      return Writer.u32 count ++ waits
    else none
  | cmdCopyBuffer src dst count p =>
    some (Writer.handle src ++ Writer.handle dst ++ writeCounted writeBufferCopy count p)
  | cmdCopyBufferToImage src dst layout count p =>
    some (Writer.handle src ++ Writer.handle dst ++ Writer.i32 layout ++ writeCounted writeBufferImageCopy count p)
  | cmdCopyImageToBuffer src layout dst count p =>
    some (Writer.handle src ++ Writer.i32 layout ++ Writer.handle dst ++ writeCounted writeBufferImageCopy count p)
  | cmdCopyImage src srcLayout dst dstLayout count p =>
    some (writeImagePair src srcLayout dst dstLayout ++ writeCounted writeImageCopy count p)
  | cmdBlitImage src srcLayout dst dstLayout count p filter =>
    some (writeImagePair src srcLayout dst dstLayout ++ writeCounted writeImageBlit count p ++ Writer.i32 filter)
  | cmdUpdateBuffer dst dstOffset dataSize pData =>
    some (Writer.handle dst ++ Writer.u64 dstOffset ++ Writer.u64 dataSize ++ Writer.bytes (updateBytes pData))
  | cmdClearColorImage image layout color count p =>
    some (Writer.handle image ++ Writer.i32 layout ++ writeRaw color ++ writeCounted writeRaw count p)
  | cmdClearDepthStencilImage image layout pValue count p => do
    let value ← pValue.target
    return Writer.handle image ++ Writer.i32 layout ++ writeFields [.u32, .u32] value ++
      writeCounted (fun range => writeFields _ range.fields) count p
  | cmdClearAttachments attachmentCount pAttachments rectCount pRects =>
    some (writeCounted (writeFields [.u32, .u32, .blob 16]) attachmentCount pAttachments ++
      writeCounted (writeFields (List.replicate 6 .u32)) rectCount pRects)
  | cmdResolveImage src srcLayout dst dstLayout count p =>
    some (writeImagePair src srcLayout dst dstLayout ++
      writeCounted (writeFields (List.replicate 17 .u32)) count p)
  | cmdWaitEvents eventCount pEvents src dst _ pMemory _ pBuffers _ pImages =>
    some (writeCounted Writer.handle eventCount pEvents ++ Writer.u32 src ++ Writer.u32 dst ++
      writeBarriers pMemory pBuffers pImages)
  | cmdPushConstants layout stages offset size pValues =>
    if layout ≠ 0 ∧ size ≠ 0 ∧ size.toNat ≤ kMaxPushConstantBytes ∧ offset &&& 3 = 0 ∧ size &&& 3 = 0 ∧
        pValues.isNull = false then
      some (Writer.handle layout ++ Writer.u32 stages ++ Writer.u32 offset ++ Writer.bytes pValues.items)
    else none
  | cmdExecuteCommands count p =>
    some (writeCounted (fun handle => Writer.handle (commandBufferId handle)) count p)

/-- The request for a command. -/
def Command.write (c : Command) : Option (List UInt8) := do
  let arguments ← c.call.write commandBufferId
  return Writer.handle (commandBufferId c.commandBuffer) ++ arguments

end

end VkRemote.Commands
