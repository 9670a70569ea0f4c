import VulkanRemote.Commands.Requests

/-! The handlers of `handlers_command.cpp` for recorded commands. A handler marks an error or calls the driver
once; `none` stands for the mark. Its vectors stand for blocks of the arena. -/

namespace VkRemote.Commands

open Lib Wire Marshal Decode

/-- Which handler a request is for. -/
inductive Opcode
  | plain (c : PlainCommand)
  | beginCommandBuffer
  | cmdBeginRenderPass
  | cmdBeginRenderPass2
  | cmdNextSubpass2
  | cmdEndRenderPass2
  | cmdSetFragmentShadingRateKHR
  | cmdBindDescriptorSets
  | cmdBindVertexBuffers
  | cmdSetViewport
  | cmdSetScissor
  | cmdPipelineBarrier
  | cmdPipelineBarrier2
  | cmdSetEvent2
  | cmdWaitEvents2
  | cmdCopyBuffer
  | cmdCopyBufferToImage
  | cmdCopyImageToBuffer
  | cmdCopyImage
  | cmdBlitImage
  | cmdUpdateBuffer
  | cmdClearColorImage
  | cmdClearDepthStencilImage
  | cmdClearAttachments
  | cmdResolveImage
  | cmdWaitEvents
  | cmdPushConstants
  | cmdExecuteCommands
  deriving DecidableEq

def Call.opcode : Call → Opcode
  | plain c _ => .plain c
  | beginCommandBuffer _ => .beginCommandBuffer
  | cmdBeginRenderPass _ _ => .cmdBeginRenderPass
  | cmdBeginRenderPass2 _ _ => .cmdBeginRenderPass2
  | cmdNextSubpass2 _ _ => .cmdNextSubpass2
  | cmdEndRenderPass2 _ => .cmdEndRenderPass2
  | cmdSetFragmentShadingRateKHR _ _ => .cmdSetFragmentShadingRateKHR
  | cmdBindDescriptorSets _ _ _ _ _ _ _ => .cmdBindDescriptorSets
  | cmdBindVertexBuffers _ _ _ _ => .cmdBindVertexBuffers
  | cmdSetViewport _ _ _ => .cmdSetViewport
  | cmdSetScissor _ _ _ => .cmdSetScissor
  | cmdPipelineBarrier _ _ _ _ _ _ _ _ _ => .cmdPipelineBarrier
  | cmdPipelineBarrier2 _ => .cmdPipelineBarrier2
  | cmdSetEvent2 _ _ => .cmdSetEvent2
  | cmdWaitEvents2 _ _ _ => .cmdWaitEvents2
  | cmdCopyBuffer _ _ _ _ => .cmdCopyBuffer
  | cmdCopyBufferToImage _ _ _ _ _ => .cmdCopyBufferToImage
  | cmdCopyImageToBuffer _ _ _ _ _ => .cmdCopyImageToBuffer
  | cmdCopyImage _ _ _ _ _ _ => .cmdCopyImage
  | cmdBlitImage _ _ _ _ _ _ _ => .cmdBlitImage
  | cmdUpdateBuffer _ _ _ _ => .cmdUpdateBuffer
  | cmdClearColorImage _ _ _ _ _ => .cmdClearColorImage
  | cmdClearDepthStencilImage _ _ _ _ _ => .cmdClearDepthStencilImage
  | cmdClearAttachments _ _ _ _ => .cmdClearAttachments
  | cmdResolveImage _ _ _ _ _ _ => .cmdResolveImage
  | cmdWaitEvents _ _ _ _ _ _ _ _ _ _ => .cmdWaitEvents
  | cmdPushConstants _ _ _ _ _ => .cmdPushConstants
  | cmdExecuteCommands _ _ => .cmdExecuteCommands

/-- The native handle for an id that is judged later. -/
def readNative (kind : HandleKind) : Decode UInt64 := do
  let id ← handle
  lookup kind id

def readArgs : (ps : List Param) → Decode (Args ps)
  | [] => pure ()
  | .u32 :: ps => do
    let v ← u32
    let args ← readArgs ps
    return (v, args)
  | .u64 :: ps => do
    let v ← u64
    let args ← readArgs ps
    return (v, args)
  | .handle kind _ :: ps => do
    let native ← readNative kind
    let args ← readArgs ps
    return (native, args)

/-- The needed handles are not null. -/
def complete : (ps : List Param) → Args ps → Bool
  | [], _ => true
  | .u32 :: ps, (_, args) => complete ps args
  | .u64 :: ps, (_, args) => complete ps args
  | .handle _ needed :: ps, (native, args) => (!needed || native ≠ 0) && complete ps args

/-- `VK_WHOLE_SIZE`. -/
def wholeSize : UInt64 := 0xFFFFFFFFFFFFFFFF

/-- What a handler asks of the values. -/
def PlainCommand.valid : (c : PlainCommand) → Args c.params → Bool
  | cmdBindIndexBuffer, (_, _, indexType, _) => indexType = 0 || indexType = 1
  | cmdFillBuffer, (_, dstOffset, size, _, _) =>
    dstOffset &&& 3 = 0 && (size = wholeSize || (size ≠ 0 && size &&& 3 = 0))
  | _, _ => true

/-- Handlers that make sure that the request ends with the arguments. -/
def PlainCommand.toEnd (c : PlainCommand) : Bool := c = .cmdResetEvent2 || c = .cmdWriteTimestamp2

/-- Elements that are read one by one until one of them fails. -/
def readRegions {α : Type} (size : ℕ) (m : Decode α) :
    Decode ((count : UInt32) × Ptr (Elements α count.toNat)) := do
  let count ← u32
  let left ← remaining
  require (count.toNat ≤ left / 4)
  requireOk
  let p ← array count.toNat size m
  return ⟨count, p⟩

def readVertexBuffer : Decode (UInt64 × UInt64) := do
  let buffer ← readNative .buffer
  let offset ← u64
  return (buffer, offset)

def readEventWait : Decode (UInt64 × VkDependencyInfo) := do
  let event ← readNative .event
  require (event ≠ 0)
  let info ← readDependencyInfo
  return (event, info)

def readSubresourceRange : Decode VkImageSubresourceRange := do
  let fields ← readFields (List.replicate 5 .u32)
  return ⟨fields⟩

/-- Both ends of a copy between images. -/
def readImagePair : Decode (UInt64 × UInt32 × UInt64 × UInt32) := do
  let src ← readNative .image
  let srcLayout ← i32
  let dst ← readNative .image
  let dstLayout ← i32
  return (src, srcLayout, dst, dstLayout)

/-- Bytes of the message as an array. -/
def dataOf (size : ℕ) (data : List UInt8) : Ptr (Elements UInt8 size) :=
  .arena (List.Vector.ofFn fun i => data.getD i 0)

/-- What a handler does behind the command buffer, which may be null. -/
def readCall (cb : UInt64) : Opcode → Decode Call
  | .plain c => do
    let args ← readArgs c.params
    requireOk
    let left ← remaining
    require (cb ≠ 0 ∧ complete c.params args = true ∧ c.valid args = true ∧ (c.toEnd = true → left = 0))
    return .plain c args
  | .beginCommandBuffer => do
    requireOk
    require (cb ≠ 0)
    let info ← readCommandBufferBeginInfo
    return .beginCommandBuffer info
  | .cmdBeginRenderPass => do
    requireOk
    require (cb ≠ 0)
    let info ← readRenderPassBeginInfo
    let contents ← i32
    requireOk
    return .cmdBeginRenderPass info contents
  | .cmdBeginRenderPass2 => do
    requireOk
    require (cb ≠ 0)
    let info ← readRenderPassBeginInfo
    let subpass ← readSubpassBeginInfo
    return .cmdBeginRenderPass2 info subpass
  | .cmdNextSubpass2 => do
    requireOk
    require (cb ≠ 0)
    let first ← readSubpassBeginInfo
    let last ← readSubpassEndInfo
    return .cmdNextSubpass2 first last
  | .cmdEndRenderPass2 => do
    requireOk
    require (cb ≠ 0)
    let last ← readSubpassEndInfo
    return .cmdEndRenderPass2 last
  | .cmdSetFragmentShadingRateKHR => do
    let size ← readFields [.u32, .u32]
    let ops ← readFields [.u32, .u32]
    requireOk
    require (cb ≠ 0)
    return .cmdSetFragmentShadingRateKHR (.arena size) (.arena ops)
  | .cmdBindDescriptorSets => do
    let bindPoint ← i32
    let layout ← readNative .pipelineLayout
    let firstSet ← u32
    let ⟨setCount, sets⟩ ← readBacked 8 8 (readNative .descriptorSet)
    let ⟨offsetCount, offsets⟩ ← readBacked 4 4 u32
    requireOk
    let left ← remaining
    -- graphics and compute
    require (left = 0 ∧ cb ≠ 0 ∧ layout ≠ 0 ∧ (bindPoint = 0 ∨ bindPoint = 1) ∧ NoneNull sets.items)
    return .cmdBindDescriptorSets bindPoint layout firstSet setCount sets offsetCount offsets
  | .cmdBindVertexBuffers => do
    let first ← u32
    let ⟨count, bindings⟩ ← readBacked 16 16 readVertexBuffer
    requireOk
    require (cb ≠ 0 ∧ NoneNull (bindings.items.map Prod.fst))
    return .cmdBindVertexBuffers first count (bindings.contents (List.Vector.map Prod.fst))
      (bindings.contents (List.Vector.map Prod.snd))
  | .cmdSetViewport => do
    let first ← u32
    let ⟨count, viewports⟩ ← readRegions 24 readViewport
    require (cb ≠ 0)
    return .cmdSetViewport first count viewports
  | .cmdSetScissor => do
    let first ← u32
    let ⟨count, scissors⟩ ← readRegions 16 readRect2D
    require (cb ≠ 0)
    return .cmdSetScissor first count scissors
  | .cmdPipelineBarrier => do
    let src ← u32
    let dst ← u32
    let flags ← u32
    let ⟨memoryCount, memory⟩ ← readRegions 24 readMemoryBarrier
    let ⟨bufferCount, buffers⟩ ← readRegions 56 readBufferMemoryBarrier
    let ⟨imageCount, images⟩ ← readRegions 72 readImageMemoryBarrier
    require (cb ≠ 0)
    return .cmdPipelineBarrier src dst flags memoryCount memory bufferCount buffers imageCount images
  | .cmdPipelineBarrier2 => do
    require (cb ≠ 0)
    let info ← readDependencyInfo
    requireOk
    let left ← remaining
    require (left = 0)
    return .cmdPipelineBarrier2 (.arena info)
  | .cmdSetEvent2 => do
    let event ← readNative .event
    require (cb ≠ 0 ∧ event ≠ 0)
    let info ← readDependencyInfo
    requireOk
    let left ← remaining
    require (left = 0)
    return .cmdSetEvent2 event (.arena info)
  | .cmdWaitEvents2 => do
    require (cb ≠ 0)
    let ⟨count, waits⟩ ← readBacked 12 72 readEventWait
    requireOk
    let left ← remaining
    require (left = 0)
    return .cmdWaitEvents2 count (waits.contents (List.Vector.map Prod.fst))
      (waits.contents (List.Vector.map Prod.snd))
  | .cmdCopyBuffer => do
    let src ← readNative .buffer
    let dst ← readNative .buffer
    let ⟨count, regions⟩ ← readRegions 24 readBufferCopy
    require (cb ≠ 0)
    return .cmdCopyBuffer src dst count regions
  | .cmdCopyBufferToImage => do
    let src ← readNative .buffer
    let dst ← readNative .image
    let layout ← i32
    let ⟨count, regions⟩ ← readRegions 56 readBufferImageCopy
    require (cb ≠ 0)
    return .cmdCopyBufferToImage src dst layout count regions
  | .cmdCopyImageToBuffer => do
    let src ← readNative .image
    let layout ← i32
    let dst ← readNative .buffer
    let ⟨count, regions⟩ ← readRegions 56 readBufferImageCopy
    require (cb ≠ 0)
    return .cmdCopyImageToBuffer src layout dst count regions
  | .cmdCopyImage => do
    let (src, srcLayout, dst, dstLayout) ← readImagePair
    let ⟨count, regions⟩ ← readRegions 68 readImageCopy
    require (count ≠ 0 ∧ cb ≠ 0 ∧ src ≠ 0 ∧ dst ≠ 0)
    return .cmdCopyImage src srcLayout dst dstLayout count regions
  | .cmdBlitImage => do
    let (src, srcLayout, dst, dstLayout) ← readImagePair
    let ⟨count, regions⟩ ← readRegions 80 readImageBlit
    let filter ← i32
    requireOk
    require (count ≠ 0 ∧ cb ≠ 0 ∧ src ≠ 0 ∧ dst ≠ 0)
    return .cmdBlitImage src srcLayout dst dstLayout count regions filter
  | .cmdUpdateBuffer => do
    let dst ← readNative .buffer
    let dstOffset ← u64
    let dataSize ← u64
    let data ← bytes maxUpdate
    requireOk
    require (cb ≠ 0 ∧ dst ≠ 0 ∧ dstOffset &&& 3 = 0 ∧ dataSize ≠ 0 ∧ dataSize.toNat ≤ maxUpdate ∧
      dataSize &&& 3 = 0 ∧ data.length = dataSize.toNat)
    return .cmdUpdateBuffer dst dstOffset dataSize (dataOf _ data)
  | .cmdClearColorImage => do
    let image ← readNative .image
    let layout ← i32
    let color ← readRaw VkClearColorValue
    let ⟨count, ranges⟩ ← readFitting 4 20 (readRaw VkImageSubresourceRange)
    requireOk
    require (cb ≠ 0)
    return .cmdClearColorImage image layout color count ranges
  | .cmdClearDepthStencilImage => do
    let image ← readNative .image
    let layout ← i32
    let value ← readFields [.u32, .u32]
    let ⟨count, ranges⟩ ← readBacked 20 20 readSubresourceRange
    requireOk
    require (cb ≠ 0 ∧ image ≠ 0)
    return .cmdClearDepthStencilImage image layout (.arena value) count ranges
  | .cmdClearAttachments => do
    let ⟨attachmentCount, attachments⟩ ← readBacked 12 24 (readFields [.u32, .u32, .blob 16])
    let ⟨rectCount, rects⟩ ← readBacked 24 24 (readFields (List.replicate 6 .u32))
    requireOk
    require (cb ≠ 0)
    return .cmdClearAttachments attachmentCount attachments rectCount rects
  | .cmdResolveImage => do
    let (src, srcLayout, dst, dstLayout) ← readImagePair
    let ⟨count, regions⟩ ← readBacked 64 68 (readFields (List.replicate 17 .u32))
    requireOk
    require (cb ≠ 0 ∧ src ≠ 0 ∧ dst ≠ 0)
    return .cmdResolveImage src srcLayout dst dstLayout count regions
  | .cmdWaitEvents => do
    let ⟨eventCount, events⟩ ← readBacked 8 8 (readNative .event)
    let src ← u32
    let dst ← u32
    let ⟨memoryCount, memory⟩ ← readBacked 4 24 readMemoryBarrier
    let ⟨bufferCount, buffers⟩ ← readBacked 4 56 readBufferMemoryBarrier
    let ⟨imageCount, images⟩ ← readBacked 4 72 readImageMemoryBarrier
    requireOk
    require (cb ≠ 0)
    return .cmdWaitEvents eventCount events src dst memoryCount memory bufferCount buffers imageCount images
  | .cmdPushConstants => do
    let layout ← readNative .pipelineLayout
    let stages ← u32
    let offset ← u32
    let values ← bytes kMaxPushConstantBytes
    requireOk
    let left ← remaining
    require (left = 0 ∧ cb ≠ 0 ∧ layout ≠ 0 ∧ values ≠ [] ∧ offset &&& 3 = 0 ∧ values.length % 4 = 0)
    return .cmdPushConstants layout stages offset (UInt32.ofNat values.length) (dataOf _ values)
  | .cmdExecuteCommands => do
    let ⟨count, commandBuffers⟩ ← readBacked 8 8 (readNative .commandBuffer)
    requireOk
    require (cb ≠ 0)
    return .cmdExecuteCommands count commandBuffers

/-- What a request asks of the driver. -/
def Opcode.read (opcode : Opcode) : Decode Command := do
  let cb ← readNative .commandBuffer
  let call ← readCall cb opcode
  return ⟨cb, call⟩

/-! ### Functions that are looked up -/

/-- A function of a device. Where the command buffer has to be `listed` with its device, a handler gives up for one
that is not; elsewhere `operator[]` makes it a null device. -/
structure DeviceFunction where
  name : String
  listed : Bool

def PlainCommand.function : PlainCommand → Option DeviceFunction
  | cmdSetDeviceMask => some ⟨"vkCmdSetDeviceMask", true⟩
  | cmdDispatchBase => some ⟨"vkCmdDispatchBase", true⟩
  | cmdDrawIndirectCount => some ⟨"vkCmdDrawIndirectCount", false⟩
  | cmdDrawIndexedIndirectCount => some ⟨"vkCmdDrawIndexedIndirectCount", false⟩
  | cmdResetEvent2 => some ⟨"vkCmdResetEvent2KHR", false⟩
  | cmdWriteTimestamp2 => some ⟨"vkCmdWriteTimestamp2KHR", false⟩
  | _ => none

/-- The function that a handler looks up; the others are linked. -/
def Opcode.function : Opcode → Option DeviceFunction
  | plain c => c.function
  | cmdBeginRenderPass2 => some ⟨"vkCmdBeginRenderPass2KHR", true⟩
  | cmdNextSubpass2 => some ⟨"vkCmdNextSubpass2KHR", true⟩
  | cmdEndRenderPass2 => some ⟨"vkCmdEndRenderPass2KHR", true⟩
  | cmdSetFragmentShadingRateKHR => some ⟨"vkCmdSetFragmentShadingRateKHR", true⟩
  | cmdPipelineBarrier2 => some ⟨"vkCmdPipelineBarrier2KHR", false⟩
  | cmdSetEvent2 => some ⟨"vkCmdSetEvent2KHR", false⟩
  | cmdWaitEvents2 => some ⟨"vkCmdWaitEvents2KHR", false⟩
  | _ => none

/-- What the handlers find besides the tables: `command_buffer_devices`, and the functions of each device. -/
structure Functions where
  device : UInt64 → Option UInt64
  found : UInt64 → String → Bool

def Functions.reach (env : Functions) (cb : UInt64) : Option DeviceFunction → Bool
  | none => true
  | some f =>
    match env.device cb with
    | some device => env.found device f.name
    | none => !f.listed && env.found 0 f.name

/-- A handler: the call that it makes, or `none` where it marks an error. -/
def Opcode.handle (opcode : Opcode) (env : Functions) (hr : Resolver) (request : List UInt8) : Option Command :=
  match (opcode.read hr { reader := ⟨request, false⟩ }).1 with
  | none => none
  | some c => if env.reach c.commandBuffer opcode.function then some c else none

end VkRemote.Commands
