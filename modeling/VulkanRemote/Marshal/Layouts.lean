import VulkanRemote.Marshal.Decoders

/-! Where ids lie in a message. The layout of a structure goes through its bytes in the order of the wire and
knows no resolver; a piece with no id in it is taken as its reader takes it. -/

namespace VkRemote.Marshal

open Lib Wire

/-- A resolver to which no id means anything. -/
def nothing : Resolver := fun _ _ => 0

/-- What is taken from the front of a message, `none` where the message is malformed, and the ids in it. -/
def Layout (α : Type) := Reader → (Option α × Reader) × List Lookup

namespace Layout

variable {α β : Type}

instance : Monad Layout where
  pure a := fun r => ((some a, r), [])
  bind l k := fun r =>
    match l r with
    | ((some a, r), ids) => ((k a r).1, ids ++ (k a r).2)
    | ((none, r), ids) => ((none, r), ids)

/-- Without an id. -/
def piece (m : Decode α) : Layout α := fun r =>
  (((m nothing { reader := r }).1, (m nothing { reader := r }).2.reader), [])

/-- The same, where nothing depends on what it was. -/
def skip (m : Decode α) : Layout Unit := do
  let _ ← piece m
  return ()

/-- A field that has been taken is an id. -/
def place (kind : HandleKind) (id : UInt64) : Layout Unit := fun r => ((some (), r), [⟨kind, id⟩])

def malformed : Layout Unit := fun r => ((none, r), [])

def onlyIf (p : Prop) [Decidable p] (l : Layout Unit) : Layout Unit := if p then l else pure ()

def repeated : ℕ → Layout Unit → Layout Unit
  | 0, _ => pure ()
  | n + 1, l => do
    l
    repeated n l

theorem bind_some {l : Layout α} {k : α → Layout β} {r : Reader} {a : α} (h : (l r).1.1 = some a) :
    (l >>= k) r = ((k a (l r).1.2).1, (l r).2 ++ (k a (l r).1.2).2) := by
  have hl : l r = ((some a, (l r).1.2), (l r).2) := Prod.ext (Prod.ext h rfl) rfl
  simp only [bind]
  rw [hl]

theorem bind_none {l : Layout α} {k : α → Layout β} {r : Reader} (h : (l r).1.1 = none) :
    (l >>= k) r = ((none, (l r).1.2), (l r).2) := by
  have hl : l r = ((none, (l r).1.2), (l r).2) := Prod.ext (Prod.ext h rfl) rfl
  simp only [bind]
  rw [hl]

theorem piece_bind {m : Decode α} {k : α → Layout β} {r : Reader} {a : α} (h : (piece m r).1.1 = some a) :
    (piece m >>= k) r = k a (piece m r).1.2 := by
  rw [bind_some h]
  rfl

theorem bind_unit (l : Layout Unit) : (l >>= fun _ => pure ()) = l := by
  funext r
  cases h : (l r).1.1 with
  | none =>
    rw [bind_none h]
    exact Prod.ext (Prod.ext h.symm rfl) rfl
  | some a =>
    rw [bind_some h]
    exact Prod.ext (Prod.ext h.symm rfl) (List.append_nil _)

theorem skip_eq (m : Decode α) (r : Reader) :
    skip m r = (((piece m r).1.1.map fun _ => (), (piece m r).1.2), []) := by
  unfold skip
  cases h : (piece m r).1.1 with
  | none =>
    rw [bind_none h]
    rfl
  | some a =>
    rw [bind_some h]
    rfl

end Layout

open Decode Layout

/-- One id of an array. -/
def layoutHandle (kind : HandleKind) : Layout Unit := do
  let id ← piece handle
  skip requireOk
  place kind id

def layoutHandles (kind : HandleKind) (count : ℕ) : Layout Unit :=
  if count = 0 then pure ()
  else do
    skip (require (count ≤ kMaxArrayElements))
    repeated count (layoutHandle kind)

/-- Two structures of the chains name handles. -/
def layoutNode : NodeType → Layout Unit
  | .samplerYcbcrConversionInfo => do
    let id ← piece handle
    place .samplerYcbcrConversion id
  | .renderPassAttachmentBeginInfo => do
    let count ← piece u32
    skip requireOk
    skip (require (count.toNat ≤ kMaxArrayElements))
    layoutHandles .imageView count.toNat
  | t => skip (readNodeFields t)

def layoutNodes (context : PNextContext) : ℕ → List UInt32 → Layout Unit
  | 0, _ => pure ()
  | n + 1, seen => do
    let code ← piece i32
    skip requireOk
    match allowedType context code with
    | none => malformed
    | some t => do
      skip (require (code ∉ seen))
      layoutNode t
      skip requireOk
      layoutNodes context n (seen ++ [code])

def layoutPnextChain (context : PNextContext) : Layout Unit := do
  let count ← piece u32
  skip requireOk
  skip (require (count.toNat ≤ kMaxPNextNodes))
  layoutNodes context count.toNat []
  skip requireOk

def layoutSwapchainCreateInfoKHR : Layout Unit := do
  let s ← piece (readRaw VkSwapchainCreateInfoKHR)
  place .surface s.surface
  place .swapchain s.oldSwapchain
  skip (readPodArray 4 s.queueFamilyIndexCount.toNat)

def layoutImageViewCreateInfo : Layout Unit := do
  let s ← piece (readRaw VkImageViewCreateInfo)
  place .image s.image
  layoutPnextChain .imageViewCreate

def layoutSamplerCreateInfo : Layout Unit := do
  skip (readRaw VkSamplerCreateInfo)
  layoutPnextChain .samplerCreate

def layoutPipelineLayoutCreateInfo : Layout Unit := do
  let s ← piece (readRaw VkPipelineLayoutCreateInfo)
  layoutHandles .descriptorSetLayout s.setLayoutCount.toNat
  skip (readPodArray 12 s.pushConstantRangeCount.toNat)

/-- An imageless framebuffer is sent without views. -/
def layoutFramebufferCreateInfo : Layout Unit := do
  let s ← piece (readRaw VkFramebufferCreateInfo)
  place .renderPass s.renderPass
  layoutPnextChain .framebufferCreate
  onlyIf (¬ imageless s.flags) (layoutHandles .imageView s.attachmentCount.toNat)

def layoutRenderPassBeginInfo : Layout Unit := do
  let s ← piece (readRaw VkRenderPassBeginInfo)
  place .renderPass s.renderPass
  place .framebuffer s.framebuffer
  layoutPnextChain .renderPassBegin
  skip (readPodArray 16 s.clearValueCount.toNat)

def layoutCommandBufferAllocateInfo : Layout Unit := do
  let s ← piece (readRaw VkCommandBufferAllocateInfo)
  place .commandPool s.commandPool
  skip (require (s.commandBufferCount.toNat ≤ kMaxArrayElements))

def layoutSetLayoutBinding : Layout Unit := do
  let b ← piece (readRaw VkDescriptorSetLayoutBinding)
  let present ← piece u32
  skip requireOk
  onlyIf (present ≠ 0) (layoutHandles .sampler b.descriptorCount.toNat)

def layoutDescriptorSetLayoutCreateInfo : Layout Unit := do
  let s ← piece (readRaw VkDescriptorSetLayoutCreateInfo)
  let left ← piece remaining
  skip (require (s.bindingCount.toNat ≤ kMaxArrayElements ∧ s.bindingCount.toNat ≤ left / 4))
  repeated s.bindingCount.toNat layoutSetLayoutBinding

def layoutDescriptorUpdateTemplateCreateInfo : Layout Unit := do
  let sType ← piece i32
  skip u32
  let count ← piece u32
  skip requireOk
  let left ← piece remaining
  skip (require (sType = descriptorUpdateTemplateCreateInfoType ∧ count.toNat ≤ kMaxArrayElements ∧
    count.toNat ≤ left / 32))
  skip (array count.toNat 32 readTemplateEntry)
  skip i32
  let descriptorSetLayout ← piece handle
  place .descriptorSetLayout descriptorSetLayout
  skip i32
  let pipelineLayout ← piece handle
  place .pipelineLayout pipelineLayout
  skip u32
  skip requireOk

def layoutBufferMemoryBarrier : Layout Unit := do
  let s ← piece (readRaw VkBufferMemoryBarrier)
  place .buffer s.buffer

def layoutImageMemoryBarrier : Layout Unit := do
  let s ← piece (readRaw VkImageMemoryBarrier)
  place .image s.image

def layoutPipelineShaderStageCreateInfo : Layout Unit := do
  let s ← piece (readRaw VkPipelineShaderStageCreateInfo)
  place .shaderModule s.module
  skip readString
  skip (readPresent 32 readSpecializationInfo)

def layoutGraphicsPipelineCreateInfo : Layout Unit := do
  let s ← piece (readRaw VkGraphicsPipelineCreateInfo)
  place .pipelineLayout s.layout
  place .renderPass s.renderPass
  place .pipeline s.basePipelineHandle
  repeated s.stageCount.toNat layoutPipelineShaderStageCreateInfo
  skip (readPresent 48 readVertexInputState)
  skip (readOptPod VkPipelineInputAssemblyStateCreateInfo)
  let tessellation ← piece (readOptPod VkPipelineTessellationStateCreateInfo)
  skip (readPresent 48 readViewportState)
  skip (readOptPod VkPipelineRasterizationStateCreateInfo)
  skip (readPresent 48 readMultisampleState)
  skip (readOptPod VkPipelineDepthStencilStateCreateInfo)
  skip (readPresent 56 readColorBlendState)
  skip (readPresent 32 readDynamicState)
  skip (readPnextChain .graphicsPipeline)
  skip (readTessellationChain tessellation)

/-- The stage that is copied with the structure is replaced by the one behind it. -/
def layoutComputePipelineCreateInfo : Layout Unit := do
  let s ← piece (readRaw VkComputePipelineCreateInfo)
  place .pipelineLayout s.layout
  place .pipeline s.basePipelineHandle
  layoutPipelineShaderStageCreateInfo

def layoutBufferViewCreateInfo : Layout Unit := do
  skip i32
  skip u32
  let buffer ← piece handle
  place .buffer buffer
  skip i32
  skip u64
  skip u64

def layoutInheritanceInfo : Layout Unit := do
  skip i32
  skip u32
  let renderPass ← piece handle
  place .renderPass renderPass
  skip u32
  let framebuffer ← piece handle
  place .framebuffer framebuffer
  skip u32
  skip u32
  skip u32

def layoutCommandBufferBeginInfo : Layout Unit := do
  skip i32
  skip u32
  skip u32
  let hasInheritance ← piece u32
  onlyIf (hasInheritance ≠ 0) layoutInheritanceInfo

def layoutDescriptorSetAllocateInfo : Layout Unit := do
  let s ← piece (readRaw VkDescriptorSetAllocateInfo)
  place .descriptorPool s.descriptorPool
  layoutHandles .descriptorSetLayout s.descriptorSetCount.toNat

/-- The descriptor type says which of the two are ids. -/
def layoutImageInfo (type : UInt32) : Layout Unit := do
  let sampler ← piece handle
  let imageView ← piece handle
  skip i32
  onlyIf (samplerUsed type) (place .sampler sampler)
  onlyIf (viewUsed type) (place .imageView imageView)

def layoutBufferInfo : Layout Unit := do
  let buffer ← piece handle
  place .buffer buffer
  skip u64
  skip u64

def layoutTexelBufferView : Layout Unit := do
  let view ← piece handle
  place .bufferView view

def layoutWriteDescriptorSet : Layout Unit := do
  let s ← piece (readRaw VkWriteDescriptorSet)
  place .descriptorSet s.dstSet
  let kind ← piece u32
  onlyIf (kind = 1) (repeated s.descriptorCount.toNat (layoutImageInfo s.descriptorType))
  onlyIf (kind = 2) (repeated s.descriptorCount.toNat layoutBufferInfo)
  onlyIf (kind = 3) (repeated s.descriptorCount.toNat layoutTexelBufferView)

def layoutCopyDescriptorSet : Layout Unit := do
  let s ← piece (readRaw VkCopyDescriptorSet)
  place .descriptorSet s.srcSet
  place .descriptorSet s.dstSet

def layoutBufferMemoryBarrier2 : Layout Unit := do
  skip (readFields (List.replicate 4 .u64))
  skip (readFields [.u32, .u32])
  let buffer ← piece handle
  place .buffer buffer
  skip (readFields [.u64, .u64])

def layoutImageMemoryBarrier2 : Layout Unit := do
  skip (readFields (List.replicate 4 .u64))
  skip (readFields (List.replicate 4 .u32))
  let image ← piece handle
  place .image image
  skip (readFields (List.replicate 5 .u32))

/-- A count, and as many elements of `wire` bytes. -/
def layoutBacked (wire : ℕ) (l : Layout Unit) : Layout Unit := do
  let count ← piece u32
  let left ← piece remaining
  skip (require (count.toNat ≤ kMaxArrayElements ∧ count.toNat ≤ left / wire))
  repeated count.toNat l

def layoutDependencyInfo : Layout Unit := do
  skip u32
  skip (readBacked 32 48 readMemoryBarrier2)
  layoutBacked 64 layoutBufferMemoryBarrier2
  layoutBacked 76 layoutImageMemoryBarrier2
  skip requireOk

def layoutSemaphoreSubmitInfo : Layout Unit := do
  let semaphore ← piece handle
  place .semaphore semaphore
  skip (readFields [.u64, .u64, .u32])

def layoutCommandBufferSubmitInfo : Layout Unit := do
  let commandBuffer ← piece handle
  place .commandBuffer commandBuffer
  skip u32

def layoutSubmitInfo2 : Layout Unit := do
  skip u32
  layoutBacked 28 layoutSemaphoreSubmitInfo
  layoutBacked 12 layoutCommandBufferSubmitInfo
  layoutBacked 28 layoutSemaphoreSubmitInfo
  skip requireOk

namespace Decoder

/-- The other structures have no handle in them. -/
def layout : Decoder → Layout Unit
  | pnextChain context => layoutPnextChain context
  | swapchainCreateInfoKHR => layoutSwapchainCreateInfoKHR
  | imageViewCreateInfo => layoutImageViewCreateInfo
  | pipelineShaderStageCreateInfo => layoutPipelineShaderStageCreateInfo
  | pipelineLayoutCreateInfo => layoutPipelineLayoutCreateInfo
  | graphicsPipelineCreateInfo => layoutGraphicsPipelineCreateInfo
  | computePipelineCreateInfo => layoutComputePipelineCreateInfo
  | framebufferCreateInfo => layoutFramebufferCreateInfo
  | bufferViewCreateInfo => layoutBufferViewCreateInfo
  | commandBufferAllocateInfo => layoutCommandBufferAllocateInfo
  | commandBufferBeginInfo => layoutCommandBufferBeginInfo
  | renderPassBeginInfo => layoutRenderPassBeginInfo
  | descriptorSetLayoutCreateInfo => layoutDescriptorSetLayoutCreateInfo
  | descriptorUpdateTemplateCreateInfo => layoutDescriptorUpdateTemplateCreateInfo
  | descriptorSetAllocateInfo => layoutDescriptorSetAllocateInfo
  | writeDescriptorSet => layoutWriteDescriptorSet
  | copyDescriptorSet => layoutCopyDescriptorSet
  | imageMemoryBarrier => layoutImageMemoryBarrier
  | bufferMemoryBarrier => layoutBufferMemoryBarrier
  | dependencyInfo => layoutDependencyInfo
  | submitInfo2 => layoutSubmitInfo2
  | samplerCreateInfo => layoutSamplerCreateInfo
  | _ => pure ()

/-- The ids in a message, in the order of the wire; of a malformed message those up to where it is. -/
def named (d : Decoder) (message : List UInt8) : List Lookup := (d.layout ⟨message, false⟩).2

/-- The bytes are laid out as the structure is. -/
def laidOut (d : Decoder) (message : List UInt8) : Bool := (d.layout ⟨message, false⟩).1.1.isSome

end Decoder
end VkRemote.Marshal
