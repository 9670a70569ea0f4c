import VulkanRemote.Commands.Handlers

/-! The handles in a command, and the command as it arrives. -/

namespace VkRemote.Commands

open Lib Wire Marshal

/-- A handle in a command. -/
structure Use where
  kind : HandleKind
  id : UInt64
  deriving DecidableEq

def usesOfArgs (wanted : Bool) : (ps : List Param) → Args ps → List Use
  | [], _ => []
  | .u32 :: ps, (_, args) => usesOfArgs wanted ps args
  | .u64 :: ps, (_, args) => usesOfArgs wanted ps args
  | .handle kind needed :: ps, (id, args) =>
    (if needed = wanted then [⟨kind, id⟩] else []) ++ usesOfArgs wanted ps args

def receivedArgs (hr : Resolver) : (ps : List Param) → Args ps → Args ps
  | [], _ => ()
  | .u32 :: ps, (v, args) => (v, receivedArgs hr ps args)
  | .u64 :: ps, (v, args) => (v, receivedArgs hr ps args)
  | .handle kind _ :: ps, (id, args) => (resolved hr kind id, receivedArgs hr ps args)

def inheritanceUses (info : VkCommandBufferInheritanceInfo) : List Use :=
  [⟨.renderPass, info.renderPass⟩, ⟨.framebuffer, info.framebuffer⟩]

def dependencyUses (info : VkDependencyInfo) : List Use :=
  info.pBufferMemoryBarriers.items.map (fun b => ⟨.buffer, b.buffer⟩) ++
    info.pImageMemoryBarriers.items.map fun b => ⟨.image, b.image⟩

/-- What a pointer leads to, or nothing. -/
def usesOf {α : Type} (uses : α → List Use) (p : Ptr α) : List Use := p.target.toList.flatMap uses

namespace Call

/-- Handles that the handler does not do without. -/
def needed : Call → List Use
  | plain c args => usesOfArgs true c.params args
  | cmdBindDescriptorSets _ layout _ _ sets _ _ =>
    ⟨.pipelineLayout, layout⟩ :: sets.items.map (Use.mk .descriptorSet)
  | cmdBindVertexBuffers _ _ buffers _ => buffers.items.map (Use.mk .buffer)
  | cmdSetEvent2 event _ => [⟨.event, event⟩]
  | cmdWaitEvents2 _ events _ => events.items.map (Use.mk .event)
  | cmdCopyImage src _ dst _ _ _ => [⟨.image, src⟩, ⟨.image, dst⟩]
  | cmdBlitImage src _ dst _ _ _ _ => [⟨.image, src⟩, ⟨.image, dst⟩]
  | cmdUpdateBuffer dst _ _ _ => [⟨.buffer, dst⟩]
  | cmdClearDepthStencilImage image _ _ _ _ => [⟨.image, image⟩]
  | cmdResolveImage src _ dst _ _ _ => [⟨.image, src⟩, ⟨.image, dst⟩]
  | cmdPushConstants layout _ _ _ _ => [⟨.pipelineLayout, layout⟩]
  | _ => []

/-- Handles that may be null, but have to resolve otherwise. -/
def optional : Call → List Use
  | beginCommandBuffer info => usesOf inheritanceUses info.pInheritanceInfo
  | cmdPipelineBarrier2 info => usesOf dependencyUses info
  | cmdSetEvent2 _ info => usesOf dependencyUses info
  | cmdWaitEvents2 _ _ infos => infos.items.flatMap dependencyUses
  | _ => []

end Call

section

variable (commandBufferId : UInt64 → UInt64)

/-- The server finds what the handler asks for. -/
structure Command.Finds (hr : Resolver) (c : Command) : Prop where
  commandBuffer : hr .commandBuffer (commandBufferId c.commandBuffer) ≠ 0
  needed : ∀ u ∈ c.call.needed, hr u.kind u.id ≠ 0
  optional : ∀ u ∈ c.call.optional, hr.Finds u.kind u.id

end

namespace Call

/-- What has to be in order with a call beyond what its function looks at: pointers that lead somewhere, arrays
that are there, and what the handler asks of the values. -/
def Whole : Call → Prop
  | plain c args => c.valid args = true
  | beginCommandBuffer info => info.Whole
  | cmdBeginRenderPass info _ => info.Whole
  | cmdBeginRenderPass2 info subpass => info.Whole ∧ subpass.pNext.Whole
  | cmdNextSubpass2 first last => first.pNext.Whole ∧ last.pNext.Whole
  | cmdEndRenderPass2 last => last.pNext.Whole
  | cmdSetFragmentShadingRateKHR _ _ => True
  | cmdBindDescriptorSets bindPoint _ _ _ sets _ offsets =>
    (bindPoint = 0 ∨ bindPoint = 1) ∧ sets.Real ∧ offsets.Real
  | cmdBindVertexBuffers _ _ buffers offsets => buffers.Real ∧ offsets.Real
  | cmdSetViewport _ _ viewports => viewports.Whole
  | cmdSetScissor _ _ scissors => scissors.Whole
  | cmdPipelineBarrier _ _ _ _ memory _ buffers _ images => memory.Whole ∧ buffers.Whole ∧ images.Whole
  | cmdPipelineBarrier2 info => whenPresent info VkDependencyInfo.Whole
  | cmdSetEvent2 _ info => whenPresent info VkDependencyInfo.Whole
  | cmdWaitEvents2 _ events infos => events.Real ∧ infos.Real ∧ ∀ info ∈ infos.items, info.Whole
  | cmdCopyBuffer _ _ _ regions => regions.Whole
  | cmdCopyBufferToImage _ _ _ _ regions => regions.Whole
  | cmdCopyImageToBuffer _ _ _ _ regions => regions.Whole
  | cmdCopyImage _ _ _ _ count regions => count ≠ 0 ∧ regions.Whole
  | cmdBlitImage _ _ _ _ count regions _ => count ≠ 0 ∧ regions.Whole
  | cmdUpdateBuffer _ dstOffset dataSize data =>
    dstOffset &&& 3 = 0 ∧ dataSize ≠ 0 ∧ dataSize.toNat ≤ maxUpdate ∧ dataSize &&& 3 = 0 ∧ data.Whole
  | cmdClearColorImage _ _ _ _ ranges => ranges.Whole
  | cmdClearDepthStencilImage _ _ _ count ranges => count.toNat ≤ kMaxArrayElements ∧ ranges.Whole
  | cmdClearAttachments attachmentCount attachments rectCount rects =>
    (attachmentCount.toNat ≤ kMaxArrayElements ∧ attachments.Whole) ∧
      rectCount.toNat ≤ kMaxArrayElements ∧ rects.Whole
  | cmdResolveImage _ _ _ _ count regions => count.toNat ≤ kMaxArrayElements ∧ regions.Whole
  | cmdWaitEvents eventCount events _ _ memoryCount memory bufferCount buffers imageCount images =>
    (eventCount.toNat ≤ kMaxArrayElements ∧ events.Whole) ∧
      (memoryCount.toNat ≤ kMaxArrayElements ∧ memory.Whole) ∧
      (bufferCount.toNat ≤ kMaxArrayElements ∧ buffers.Whole) ∧
      imageCount.toNat ≤ kMaxArrayElements ∧ images.Whole
  | cmdPushConstants _ _ _ _ values => values.Real
  | cmdExecuteCommands count commandBuffers => count.toNat ≤ kMaxArrayElements ∧ commandBuffers.Whole

section

variable (commandBufferId : UInt64 → UInt64) (hr : Resolver)

/-- The call that the driver gets. -/
def received : Call → Call
  | plain c args => plain c (receivedArgs hr c.params args)
  | beginCommandBuffer info => beginCommandBuffer (info.received hr)
  | cmdBeginRenderPass info contents => cmdBeginRenderPass (info.received hr) contents
  | cmdBeginRenderPass2 info subpass => cmdBeginRenderPass2 (info.received hr) (subpass.received hr)
  | cmdNextSubpass2 first last => cmdNextSubpass2 (first.received hr) (last.received hr)
  | cmdEndRenderPass2 last => cmdEndRenderPass2 (last.received hr)
  | cmdSetFragmentShadingRateKHR size ops => cmdSetFragmentShadingRateKHR (size.contents id) (ops.contents id)
  | cmdBindDescriptorSets bindPoint layout firstSet setCount sets offsetCount offsets =>
    cmdBindDescriptorSets bindPoint (resolved hr .pipelineLayout layout) firstSet setCount
      (sets.received (resolved hr .descriptorSet)) offsetCount (offsets.received id)
  | cmdBindVertexBuffers first count buffers offsets =>
    cmdBindVertexBuffers first count (buffers.received (resolved hr .buffer)) (offsets.received id)
  | cmdSetViewport first count viewports => cmdSetViewport first count (viewports.received id)
  | cmdSetScissor first count scissors => cmdSetScissor first count (scissors.received id)
  | cmdPipelineBarrier src dst flags memoryCount memory bufferCount buffers imageCount images =>
    cmdPipelineBarrier src dst flags memoryCount (memory.received PlainState.bare) bufferCount
      (buffers.received (VkBufferMemoryBarrier.received hr)) imageCount
      (images.received (VkImageMemoryBarrier.received hr))
  | cmdPipelineBarrier2 info => cmdPipelineBarrier2 (info.contents (VkDependencyInfo.received hr))
  | cmdSetEvent2 event info =>
    cmdSetEvent2 (resolved hr .event event) (info.contents (VkDependencyInfo.received hr))
  | cmdWaitEvents2 count events infos =>
    cmdWaitEvents2 count (events.received (resolved hr .event)) (infos.received (VkDependencyInfo.received hr))
  | cmdCopyBuffer src dst count regions =>
    cmdCopyBuffer (resolved hr .buffer src) (resolved hr .buffer dst) count (regions.received id)
  | cmdCopyBufferToImage src dst layout count regions =>
    cmdCopyBufferToImage (resolved hr .buffer src) (resolved hr .image dst) layout count (regions.received id)
  | cmdCopyImageToBuffer src layout dst count regions =>
    cmdCopyImageToBuffer (resolved hr .image src) layout (resolved hr .buffer dst) count (regions.received id)
  | cmdCopyImage src srcLayout dst dstLayout count regions =>
    cmdCopyImage (resolved hr .image src) srcLayout (resolved hr .image dst) dstLayout count (regions.received id)
  | cmdBlitImage src srcLayout dst dstLayout count regions filter =>
    cmdBlitImage (resolved hr .image src) srcLayout (resolved hr .image dst) dstLayout count (regions.received id)
      filter
  | cmdUpdateBuffer dst dstOffset dataSize data =>
    cmdUpdateBuffer (resolved hr .buffer dst) dstOffset dataSize (data.received id)
  | cmdClearColorImage image layout color count ranges =>
    cmdClearColorImage (resolved hr .image image) layout color count (ranges.received id)
  | cmdClearDepthStencilImage image layout value count ranges =>
    cmdClearDepthStencilImage (resolved hr .image image) layout (value.contents id) count (ranges.received id)
  | cmdClearAttachments attachmentCount attachments rectCount rects =>
    cmdClearAttachments attachmentCount (attachments.received id) rectCount (rects.received id)
  | cmdResolveImage src srcLayout dst dstLayout count regions =>
    cmdResolveImage (resolved hr .image src) srcLayout (resolved hr .image dst) dstLayout count
      (regions.received id)
  | cmdWaitEvents eventCount events src dst memoryCount memory bufferCount buffers imageCount images =>
    cmdWaitEvents eventCount (events.received (resolved hr .event)) src dst memoryCount
      (memory.received PlainState.bare) bufferCount (buffers.received (VkBufferMemoryBarrier.received hr))
      imageCount (images.received (VkImageMemoryBarrier.received hr))
  | cmdPushConstants layout stages offset size values =>
    cmdPushConstants (resolved hr .pipelineLayout layout) stages offset size (values.received id)
  | cmdExecuteCommands count commandBuffers =>
    cmdExecuteCommands count
      (commandBuffers.received fun handle => resolved hr .commandBuffer (commandBufferId handle))

end

end Call

def Command.received (commandBufferId : UInt64 → UInt64) (hr : Resolver) (c : Command) : Command where
  commandBuffer := resolved hr .commandBuffer (commandBufferId c.commandBuffer)
  call := c.call.received commandBufferId hr

end VkRemote.Commands
