import VulkanRemote.Marshal.Decoders

/-! Structures up to addresses: `contents` puts everything a pointer field points at behind a pointer with no
address. The encoders write the same for a structure and its contents, but for those of pipelines. -/

namespace VkRemote.Marshal

open Lib Wire

section

variable {α β : Type} {n : ℕ}

@[simp] theorem validArray_contents (f : α → β) (p : Ptr (Elements α n)) :
    validArray (p.contents (List.Vector.map f)) ↔ validArray p := by
  rw [validArray, validArray, Ptr.isNull_contents]

@[simp] theorem validArray_contents_id (p : Ptr (Elements α n)) : validArray (p.contents id) ↔ validArray p := by
  rw [validArray, validArray, Ptr.isNull_contents]

@[simp] theorem writeU32s_contents (p : Ptr (Elements UInt32 n)) : writeU32s (p.contents id) = writeU32s p := by
  rw [writeU32s, Ptr.items_contents_id, writeU32s]

@[simp] theorem writeU64s_contents (p : Ptr (Elements UInt64 n)) : writeU64s (p.contents id) = writeU64s p := by
  rw [writeU64s, Ptr.items_contents_id, writeU64s]

theorem writeAll_map {c : α → β} {w : α → Option (List UInt8)} {w' : β → Option (List UInt8)}
    (h : ∀ a, w' (c a) = w a) (as : List α) : writeAll w' (as.map c) = writeAll w as := by
  induction as with
  | nil => rfl
  | cons a as ih => simp only [List.map_cons, writeAll, h, ih]

theorem writePresent_contents {c : α → α} {w : α → List UInt8} (h : ∀ a, w (c a) = w a) (p : Ptr α) :
    writePresent w (p.contents c) = writePresent w p := by
  cases p <;> simp [writePresent, Ptr.contents, Ptr.target, h]

theorem whenPresent_contents {c : α → α} {q : α → Prop} (h : ∀ a, q (c a) ↔ q a) (p : Ptr α) :
    whenPresent (p.contents c) q ↔ whenPresent p q := by
  cases p <;> simp [whenPresent, Ptr.contents, Ptr.target, h]

end

def VkAttachmentReference2.contents (s : VkAttachmentReference2) : VkAttachmentReference2 :=
  { s with pNext := s.pNext.contents id }

def VkFramebufferAttachmentImageInfo.contents (s : VkFramebufferAttachmentImageInfo) :
    VkFramebufferAttachmentImageInfo :=
  { s with pNext := s.pNext.contents id, pViewFormats := s.pViewFormats.contents id }

def Node.contents : Node → Node
  | plain t r => plain t r
  | renderPassInputAttachmentAspect n p => renderPassInputAttachmentAspect n (p.contents id)
  | renderPassMultiview ns ps nd pd nc pc =>
    renderPassMultiview ns (ps.contents id) nd (pd.contents id) nc (pc.contents id)
  | fragmentShadingRateAttachment p width height =>
    fragmentShadingRateAttachment (p.contents VkAttachmentReference2.contents) width height
  | imageFormatList n p => imageFormatList n (p.contents id)
  | samplerYcbcrConversion conversion => samplerYcbcrConversion conversion
  | framebufferAttachments n p =>
    framebufferAttachments n (p.contents (List.Vector.map VkFramebufferAttachmentImageInfo.contents))
  | renderPassAttachmentBegin n p => renderPassAttachmentBegin n (p.contents id)
  | timelineSemaphoreSubmit nw pw ns ps => timelineSemaphoreSubmit nw (pw.contents id) ns (ps.contents id)
  | memoryAllocateFlags flags deviceMask => memoryAllocateFlags flags deviceMask
  | other sType unknown => other sType unknown

def PNext.contents : PNext → PNext
  | null => null
  | host _ node next => arena node.contents next.contents
  | arena node next => arena node.contents next.contents
  | wire bits => wire bits

@[simp] theorem PNext.isNull_contents (p : PNext) : p.contents.isNull = p.isNull := by
  cases p <;> rfl

theorem PNext.nodes_contents (p : PNext) : p.contents.nodes = p.nodes.map Node.contents := by
  induction p with
  | null => rfl
  | host a node next ih => rw [contents, nodes, nodes, ih, List.map_cons]
  | arena node next ih => rw [contents, nodes, nodes, ih, List.map_cons]
  | wire bits => rfl

@[simp] theorem Node.type_contents (node : Node) : node.contents.type = node.type := by
  cases node <;> rfl

@[simp] theorem Node.sType_contents (node : Node) : node.contents.sType = node.sType := by
  cases node <;> rfl

@[simp] theorem writeAttachmentReference2_contents (s : VkAttachmentReference2) :
    writeAttachmentReference2 s.contents = writeAttachmentReference2 s := rfl

@[simp] theorem writeAttachmentImageInfo_contents (s : VkFramebufferAttachmentImageInfo) :
    writeAttachmentImageInfo s.contents = writeAttachmentImageInfo s := by
  simp [writeAttachmentImageInfo, VkFramebufferAttachmentImageInfo.contents]

@[simp] theorem writeNodeFields_contents (node : Node) : writeNodeFields node.contents = writeNodeFields node := by
  cases node with
  | fragmentShadingRateAttachment p width height =>
    have hpNext : ∀ a : VkAttachmentReference2, a.contents.pNext.isNull = a.pNext.isNull := fun a =>
      Ptr.isNull_contents id a.pNext
    simp only [Node.contents, writeNodeFields, Ptr.target_contents]
    cases p.target with
    | none => rfl
    | some a => simp only [Option.map_some, hpNext, writeAttachmentReference2_contents]
  | framebufferAttachments n p =>
    simp [Node.contents, writeNodeFields, writeAll_map writeAttachmentImageInfo_contents]
  | _ => simp [Node.contents, writeNodeFields]

theorem collectChain_contents (context : PNextContext) (rest nodes : List Node) :
    collectChain context (rest.map Node.contents) (nodes.map Node.contents) =
      (collectChain context rest nodes).map (List.map Node.contents) := by
  induction rest generalizing nodes with
  | nil => rfl
  | cons node rest ih =>
    have hallowed : node.contents.allowed context = node.allowed context := by
      rw [Node.allowed, Node.type_contents, Node.allowed]
    have hnodes : nodes.map Node.contents ++ [node.contents] = (nodes ++ [node]).map Node.contents := by
      rw [List.map_append, List.map_singleton]
    simp only [List.map_cons, collectChain, Node.sType_contents, hallowed, List.length_map, List.mem_map,
      exists_exists_and_eq_and, hnodes, ih]
    split
    · rfl
    · split
      · rfl
      · split
        · rfl
        · rfl

@[simp] theorem writePnextChain_contents (context : PNextContext) (head : PNext) :
    writePnextChain context head.contents = writePnextChain context head := by
  have hnode : ∀ node : Node, writeNode node.contents = writeNode node := fun node => by
    rw [writeNode, writeNodeFields_contents, Node.sType_contents, writeNode]
  have hcollect := collectChain_contents context head.nodes []
  rw [List.map_nil] at hcollect
  rw [writePnextChain, PNext.nodes_contents, hcollect, writePnextChain]
  cases collectChain context head.nodes [] with
  | none => rfl
  | some nodes => simp [writeAll_map hnode]

def VkSpecializationInfo.contents (s : VkSpecializationInfo) : VkSpecializationInfo :=
  { s with pMapEntries := s.pMapEntries.contents id, pData := s.pData.contents id }

@[simp] theorem writeSpecializationInfo_contents (s : VkSpecializationInfo) :
    writeSpecializationInfo s.contents = writeSpecializationInfo s := by
  simp [writeSpecializationInfo, VkSpecializationInfo.contents]

def VkPipelineShaderStageCreateInfo.contents (s : VkPipelineShaderStageCreateInfo) :
    VkPipelineShaderStageCreateInfo :=
  { s with pNext := s.pNext.contents, pName := s.pName.contents id,
           pSpecializationInfo := s.pSpecializationInfo.contents VkSpecializationInfo.contents }

@[simp] theorem writePipelineShaderStageCreateInfo_contents (s : VkPipelineShaderStageCreateInfo) :
    writePipelineShaderStageCreateInfo s.contents = writePipelineShaderStageCreateInfo s := by
  simp [writePipelineShaderStageCreateInfo, VkPipelineShaderStageCreateInfo.contents,
    writePresent_contents writeSpecializationInfo_contents]

def VkPipelineVertexInputStateCreateInfo.contents (s : VkPipelineVertexInputStateCreateInfo) :
    VkPipelineVertexInputStateCreateInfo :=
  { s with pNext := s.pNext.contents,
           pVertexBindingDescriptions := s.pVertexBindingDescriptions.contents id,
           pVertexAttributeDescriptions := s.pVertexAttributeDescriptions.contents id }

@[simp] theorem writeVertexInputState_contents (s : VkPipelineVertexInputStateCreateInfo) :
    writeVertexInputState s.contents = writeVertexInputState s := by
  simp [writeVertexInputState, VkPipelineVertexInputStateCreateInfo.contents]

def PlainState.contents {n gap : ℕ} (s : PlainState n gap) : PlainState n gap :=
  { s with pNext := s.pNext.contents }

@[simp] theorem writePlainState_contents {n gap : ℕ} (s : PlainState n gap) :
    writePlainState s.contents = writePlainState s := rfl

def VkPipelineViewportStateCreateInfo.contents (s : VkPipelineViewportStateCreateInfo) :
    VkPipelineViewportStateCreateInfo :=
  { s with pNext := s.pNext.contents, pViewports := s.pViewports.contents id,
           pScissors := s.pScissors.contents id }

@[simp] theorem writeViewportState_contents (s : VkPipelineViewportStateCreateInfo) :
    writeViewportState s.contents = writeViewportState s := by
  simp [writeViewportState, VkPipelineViewportStateCreateInfo.contents]

def VkPipelineMultisampleStateCreateInfo.contents (s : VkPipelineMultisampleStateCreateInfo) :
    VkPipelineMultisampleStateCreateInfo :=
  { s with pNext := s.pNext.contents, pSampleMask := s.pSampleMask.contents id }

@[simp] theorem writeMultisampleState_contents (s : VkPipelineMultisampleStateCreateInfo) :
    writeMultisampleState s.contents = writeMultisampleState s := by
  simp [writeMultisampleState, VkPipelineMultisampleStateCreateInfo.contents]

def VkPipelineColorBlendStateCreateInfo.contents (s : VkPipelineColorBlendStateCreateInfo) :
    VkPipelineColorBlendStateCreateInfo :=
  { s with pNext := s.pNext.contents, pAttachments := s.pAttachments.contents id }

@[simp] theorem writeColorBlendState_contents (s : VkPipelineColorBlendStateCreateInfo) :
    writeColorBlendState s.contents = writeColorBlendState s := by
  simp [writeColorBlendState, VkPipelineColorBlendStateCreateInfo.contents]

def VkPipelineDynamicStateCreateInfo.contents (s : VkPipelineDynamicStateCreateInfo) :
    VkPipelineDynamicStateCreateInfo :=
  { s with pNext := s.pNext.contents, pDynamicStates := s.pDynamicStates.contents id }

@[simp] theorem writeDynamicState_contents (s : VkPipelineDynamicStateCreateInfo) :
    writeDynamicState s.contents = writeDynamicState s := by
  simp [writeDynamicState, VkPipelineDynamicStateCreateInfo.contents]

def VkShaderModuleCreateInfo.contents (s : VkShaderModuleCreateInfo) : VkShaderModuleCreateInfo :=
  { s with pNext := s.pNext.contents, pCode := s.pCode.contents id }

/-- The check of the alignment looks at the address, what is written does not. -/
theorem writeShaderModuleCreateInfo_contents {s : VkShaderModuleCreateInfo} {bs : List UInt8}
    (h : writeShaderModuleCreateInfo s = some bs) : writeShaderModuleCreateInfo s.contents = some bs := by
  unfold writeShaderModuleCreateInfo at h ⊢
  split at h
  · exact nomatch h
  · next hvalid =>
    push Not at hvalid
    obtain ⟨htype, hsize, hwords, hmax, hcode, haligned⟩ := hvalid
    have hbits : (s.pCode.contents id).bits.toNat % 4 = 0 := by
      cases hp : s.pCode with
      | wire b => rw [hp] at haligned; exact haligned
      | _ => rfl
    rw [if_neg]
    · simpa [VkShaderModuleCreateInfo.contents] using h
    · simp [VkShaderModuleCreateInfo.contents, htype, hsize, hwords, hmax, hcode, hbits]

def VkPipelineLayoutCreateInfo.contents (s : VkPipelineLayoutCreateInfo) : VkPipelineLayoutCreateInfo :=
  { s with pNext := s.pNext.contents, pSetLayouts := s.pSetLayouts.contents id,
           pPushConstantRanges := s.pPushConstantRanges.contents id }

@[simp] theorem writePipelineLayoutCreateInfo_contents (s : VkPipelineLayoutCreateInfo) :
    writePipelineLayoutCreateInfo s.contents = writePipelineLayoutCreateInfo s := by
  simp [writePipelineLayoutCreateInfo, VkPipelineLayoutCreateInfo.contents]

def VkPipelineCacheCreateInfo.contents (s : VkPipelineCacheCreateInfo) : VkPipelineCacheCreateInfo :=
  { s with pNext := s.pNext.contents, pInitialData := s.pInitialData.contents id }

@[simp] theorem writePipelineCacheCreateInfo_contents (s : VkPipelineCacheCreateInfo) :
    writePipelineCacheCreateInfo s.contents = writePipelineCacheCreateInfo s := by
  simp [writePipelineCacheCreateInfo, VkPipelineCacheCreateInfo.contents]

def VkSubpassDescription.contents (s : VkSubpassDescription) : VkSubpassDescription :=
  { s with pInputAttachments := s.pInputAttachments.contents id,
           pColorAttachments := s.pColorAttachments.contents id,
           pResolveAttachments := s.pResolveAttachments.contents id,
           pDepthStencilAttachment := s.pDepthStencilAttachment.contents id,
           pPreserveAttachments := s.pPreserveAttachments.contents id }

@[simp] theorem writeSubpassDescription_contents (s : VkSubpassDescription) :
    writeSubpassDescription s.contents = writeSubpassDescription s := by
  simp [writeSubpassDescription, VkSubpassDescription.contents]

def VkRenderPassCreateInfo.contents (s : VkRenderPassCreateInfo) : VkRenderPassCreateInfo :=
  { s with pNext := s.pNext.contents, pAttachments := s.pAttachments.contents id,
           pSubpasses := s.pSubpasses.contents (List.Vector.map VkSubpassDescription.contents),
           pDependencies := s.pDependencies.contents id }

@[simp] theorem writeRenderPassCreateInfo_contents (s : VkRenderPassCreateInfo) :
    writeRenderPassCreateInfo s.contents = writeRenderPassCreateInfo s := by
  simp [writeRenderPassCreateInfo, VkRenderPassCreateInfo.contents, List.flatMap_map]

def Extended.contents {n : ℕ} (s : Extended n) : Extended n := { s with pNext := s.pNext.contents id }

@[simp] theorem writeExtended_contents {n : ℕ} (type : UInt32) (s : Extended n) :
    writeExtended type s.contents = writeExtended type s := by
  simp [writeExtended, Extended.contents]

@[simp] theorem writeAttachmentReference2Full_contents (s : VkAttachmentReference2) :
    writeAttachmentReference2Full s.contents = writeAttachmentReference2Full s := by
  simp [writeAttachmentReference2Full, VkAttachmentReference2.contents, writeAttachmentReference2]

def VkSubpassDescription2.contents (s : VkSubpassDescription2) : VkSubpassDescription2 :=
  { s with pNext := s.pNext.contents,
           pInputAttachments := s.pInputAttachments.contents (List.Vector.map VkAttachmentReference2.contents),
           pColorAttachments := s.pColorAttachments.contents (List.Vector.map VkAttachmentReference2.contents),
           pResolveAttachments :=
             s.pResolveAttachments.contents (List.Vector.map VkAttachmentReference2.contents),
           pDepthStencilAttachment := s.pDepthStencilAttachment.contents VkAttachmentReference2.contents,
           pPreserveAttachments := s.pPreserveAttachments.contents id }

@[simp] theorem writeSubpassDescription2_contents (s : VkSubpassDescription2) :
    writeSubpassDescription2 s.contents = writeSubpassDescription2 s := by
  have hdepth : (s.pDepthStencilAttachment.target.map VkAttachmentReference2.contents).toList =
      s.pDepthStencilAttachment.target.toList.map VkAttachmentReference2.contents := by
    cases s.pDepthStencilAttachment.target <;> rfl
  simp [writeSubpassDescription2, VkSubpassDescription2.contents, hdepth,
    writeAll_map writeAttachmentReference2Full_contents]

def VkRenderPassCreateInfo2.contents (s : VkRenderPassCreateInfo2) : VkRenderPassCreateInfo2 :=
  { s with pNext := s.pNext.contents,
           pAttachments := s.pAttachments.contents (List.Vector.map Extended.contents),
           pSubpasses := s.pSubpasses.contents (List.Vector.map VkSubpassDescription2.contents),
           pDependencies := s.pDependencies.contents (List.Vector.map Extended.contents),
           pCorrelatedViewMasks := s.pCorrelatedViewMasks.contents id }

@[simp] theorem writeRenderPassCreateInfo2_contents (s : VkRenderPassCreateInfo2) :
    writeRenderPassCreateInfo2 s.contents = writeRenderPassCreateInfo2 s := by
  simp [writeRenderPassCreateInfo2, VkRenderPassCreateInfo2.contents, writeAll_map (writeExtended_contents _),
    writeAll_map writeSubpassDescription2_contents]

def VkFramebufferCreateInfo.contents (s : VkFramebufferCreateInfo) : VkFramebufferCreateInfo :=
  { s with pNext := s.pNext.contents, pAttachments := s.pAttachments.contents id }

@[simp] theorem writeFramebufferCreateInfo_contents (s : VkFramebufferCreateInfo) :
    writeFramebufferCreateInfo s.contents = writeFramebufferCreateInfo s := by
  simp [writeFramebufferCreateInfo, VkFramebufferCreateInfo.contents]

def VkRenderPassBeginInfo.contents (s : VkRenderPassBeginInfo) : VkRenderPassBeginInfo :=
  { s with pNext := s.pNext.contents, pClearValues := s.pClearValues.contents id }

@[simp] theorem writeRenderPassBeginInfo_contents (s : VkRenderPassBeginInfo) :
    writeRenderPassBeginInfo s.contents = writeRenderPassBeginInfo s := by
  simp [writeRenderPassBeginInfo, VkRenderPassBeginInfo.contents]

/-- The name `contents` is that of a field. -/
def VkSubpassBeginInfo.upToAddresses (s : VkSubpassBeginInfo) : VkSubpassBeginInfo :=
  { s with pNext := s.pNext.contents }

@[simp] theorem writeSubpassBeginInfo_upToAddresses (s : VkSubpassBeginInfo) :
    writeSubpassBeginInfo s.upToAddresses = writeSubpassBeginInfo s := by
  simp [writeSubpassBeginInfo, VkSubpassBeginInfo.upToAddresses]

def VkSubpassEndInfo.contents (s : VkSubpassEndInfo) : VkSubpassEndInfo := { s with pNext := s.pNext.contents }

@[simp] theorem writeSubpassEndInfo_contents (s : VkSubpassEndInfo) :
    writeSubpassEndInfo s.contents = writeSubpassEndInfo s := by
  simp [writeSubpassEndInfo, VkSubpassEndInfo.contents]

def VkCommandBufferAllocateInfo.contents (s : VkCommandBufferAllocateInfo) : VkCommandBufferAllocateInfo :=
  { s with pNext := s.pNext.contents }

@[simp] theorem writeCommandBufferAllocateInfo_contents (s : VkCommandBufferAllocateInfo) :
    writeCommandBufferAllocateInfo s.contents = writeCommandBufferAllocateInfo s := rfl

def VkCommandBufferInheritanceInfo.contents (s : VkCommandBufferInheritanceInfo) :
    VkCommandBufferInheritanceInfo :=
  { s with pNext := s.pNext.contents }

@[simp] theorem writeInheritanceInfo_contents (s : VkCommandBufferInheritanceInfo) :
    writeInheritanceInfo s.contents = writeInheritanceInfo s := by
  simp [writeInheritanceInfo, VkCommandBufferInheritanceInfo.contents]

def VkCommandBufferBeginInfo.contents (s : VkCommandBufferBeginInfo) : VkCommandBufferBeginInfo :=
  { s with pNext := s.pNext.contents,
           pInheritanceInfo := s.pInheritanceInfo.contents VkCommandBufferInheritanceInfo.contents }

@[simp] theorem writeCommandBufferBeginInfo_contents (s : VkCommandBufferBeginInfo) :
    writeCommandBufferBeginInfo s.contents = writeCommandBufferBeginInfo s := by
  simp [writeCommandBufferBeginInfo, VkCommandBufferBeginInfo.contents,
    writePresent_contents writeInheritanceInfo_contents]

def VkDescriptorSetLayoutBinding.contents (b : VkDescriptorSetLayoutBinding) : VkDescriptorSetLayoutBinding :=
  { b with pImmutableSamplers := b.pImmutableSamplers.contents id }

@[simp] theorem writeSetLayoutBinding_contents (b : VkDescriptorSetLayoutBinding) :
    writeSetLayoutBinding b.contents = writeSetLayoutBinding b := by
  simp [writeSetLayoutBinding, VkDescriptorSetLayoutBinding.contents]

def VkDescriptorSetLayoutCreateInfo.contents (s : VkDescriptorSetLayoutCreateInfo) :
    VkDescriptorSetLayoutCreateInfo :=
  { s with pNext := s.pNext.contents,
           pBindings := s.pBindings.contents (List.Vector.map VkDescriptorSetLayoutBinding.contents) }

@[simp] theorem writeDescriptorSetLayoutCreateInfo_contents (s : VkDescriptorSetLayoutCreateInfo) :
    writeDescriptorSetLayoutCreateInfo s.contents = writeDescriptorSetLayoutCreateInfo s := by
  simp [writeDescriptorSetLayoutCreateInfo, VkDescriptorSetLayoutCreateInfo.contents, List.flatMap_map]

def VkDescriptorPoolCreateInfo.contents (s : VkDescriptorPoolCreateInfo) : VkDescriptorPoolCreateInfo :=
  { s with pNext := s.pNext.contents, pPoolSizes := s.pPoolSizes.contents id }

@[simp] theorem writeDescriptorPoolCreateInfo_contents (s : VkDescriptorPoolCreateInfo) :
    writeDescriptorPoolCreateInfo s.contents = writeDescriptorPoolCreateInfo s := by
  simp [writeDescriptorPoolCreateInfo, VkDescriptorPoolCreateInfo.contents]

def VkDescriptorSetAllocateInfo.contents (s : VkDescriptorSetAllocateInfo) : VkDescriptorSetAllocateInfo :=
  { s with pNext := s.pNext.contents, pSetLayouts := s.pSetLayouts.contents id }

@[simp] theorem writeDescriptorSetAllocateInfo_contents (s : VkDescriptorSetAllocateInfo) :
    writeDescriptorSetAllocateInfo s.contents = writeDescriptorSetAllocateInfo s := by
  simp [writeDescriptorSetAllocateInfo, VkDescriptorSetAllocateInfo.contents]

def VkWriteDescriptorSet.contents (s : VkWriteDescriptorSet) : VkWriteDescriptorSet :=
  { s with pNext := s.pNext.contents, pImageInfo := s.pImageInfo.contents id,
           pBufferInfo := s.pBufferInfo.contents id, pTexelBufferView := s.pTexelBufferView.contents id }

@[simp] theorem writeWriteDescriptorSet_contents (s : VkWriteDescriptorSet) :
    writeWriteDescriptorSet s.contents = writeWriteDescriptorSet s := by
  simp [writeWriteDescriptorSet, VkWriteDescriptorSet.writeInfos, VkWriteDescriptorSet.contents]

def VkCopyDescriptorSet.contents (s : VkCopyDescriptorSet) : VkCopyDescriptorSet :=
  { s with pNext := s.pNext.contents }

@[simp] theorem writeCopyDescriptorSet_contents (s : VkCopyDescriptorSet) :
    writeCopyDescriptorSet s.contents = writeCopyDescriptorSet s := rfl

def VkDescriptorUpdateTemplateCreateInfo.contents (s : VkDescriptorUpdateTemplateCreateInfo) :
    VkDescriptorUpdateTemplateCreateInfo :=
  { s with pNext := s.pNext.contents, pDescriptorUpdateEntries := s.pDescriptorUpdateEntries.contents id }

@[simp] theorem writeDescriptorUpdateTemplateCreateInfo_contents (s : VkDescriptorUpdateTemplateCreateInfo) :
    writeDescriptorUpdateTemplateCreateInfo s.contents = writeDescriptorUpdateTemplateCreateInfo s := by
  simp [writeDescriptorUpdateTemplateCreateInfo, VkDescriptorUpdateTemplateCreateInfo.contents]

def VkSamplerYcbcrConversionCreateInfo.contents (s : VkSamplerYcbcrConversionCreateInfo) :
    VkSamplerYcbcrConversionCreateInfo :=
  { s with pNext := s.pNext.contents }

@[simp] theorem writeSamplerYcbcrConversionCreateInfo_contents (s : VkSamplerYcbcrConversionCreateInfo) :
    writeSamplerYcbcrConversionCreateInfo s.contents = writeSamplerYcbcrConversionCreateInfo s := rfl

def VkBufferMemoryBarrier.contents (s : VkBufferMemoryBarrier) : VkBufferMemoryBarrier :=
  { s with pNext := s.pNext.contents }

@[simp] theorem writeBufferMemoryBarrier_contents (s : VkBufferMemoryBarrier) :
    writeBufferMemoryBarrier s.contents = writeBufferMemoryBarrier s := rfl

def VkImageMemoryBarrier.contents (s : VkImageMemoryBarrier) : VkImageMemoryBarrier :=
  { s with pNext := s.pNext.contents }

@[simp] theorem writeImageMemoryBarrier_contents (s : VkImageMemoryBarrier) :
    writeImageMemoryBarrier s.contents = writeImageMemoryBarrier s := rfl

def VkMemoryBarrier2.contents (b : VkMemoryBarrier2) : VkMemoryBarrier2 :=
  { b with pNext := b.pNext.contents id }

@[simp] theorem writeMemoryBarrier2_contents (b : VkMemoryBarrier2) :
    writeMemoryBarrier2 b.contents = writeMemoryBarrier2 b := by
  simp [writeMemoryBarrier2, VkMemoryBarrier2.contents]

def VkBufferMemoryBarrier2.contents (b : VkBufferMemoryBarrier2) : VkBufferMemoryBarrier2 :=
  { b with pNext := b.pNext.contents id }

@[simp] theorem writeBufferMemoryBarrier2_contents (b : VkBufferMemoryBarrier2) :
    writeBufferMemoryBarrier2 b.contents = writeBufferMemoryBarrier2 b := by
  simp [writeBufferMemoryBarrier2, VkBufferMemoryBarrier2.contents]

def VkImageMemoryBarrier2.contents (b : VkImageMemoryBarrier2) : VkImageMemoryBarrier2 :=
  { b with pNext := b.pNext.contents id }

@[simp] theorem writeImageMemoryBarrier2_contents (b : VkImageMemoryBarrier2) :
    writeImageMemoryBarrier2 b.contents = writeImageMemoryBarrier2 b := by
  simp [writeImageMemoryBarrier2, VkImageMemoryBarrier2.contents]

def VkDependencyInfo.contents (s : VkDependencyInfo) : VkDependencyInfo :=
  { s with pNext := s.pNext.contents id,
           pMemoryBarriers := s.pMemoryBarriers.contents (List.Vector.map VkMemoryBarrier2.contents),
           pBufferMemoryBarriers :=
             s.pBufferMemoryBarriers.contents (List.Vector.map VkBufferMemoryBarrier2.contents),
           pImageMemoryBarriers :=
             s.pImageMemoryBarriers.contents (List.Vector.map VkImageMemoryBarrier2.contents) }

@[simp] theorem writeDependencyInfo_contents (s : VkDependencyInfo) :
    writeDependencyInfo s.contents = writeDependencyInfo s := by
  simp [writeDependencyInfo, VkDependencyInfo.contents, writeAll_map writeMemoryBarrier2_contents,
    writeAll_map writeBufferMemoryBarrier2_contents, writeAll_map writeImageMemoryBarrier2_contents]

def VkSemaphoreSubmitInfo.contents (x : VkSemaphoreSubmitInfo) : VkSemaphoreSubmitInfo :=
  { x with pNext := x.pNext.contents id }

@[simp] theorem writeSemaphoreSubmitInfo_contents (x : VkSemaphoreSubmitInfo) :
    writeSemaphoreSubmitInfo x.contents = writeSemaphoreSubmitInfo x := by
  simp [writeSemaphoreSubmitInfo, VkSemaphoreSubmitInfo.contents]

section

variable (commandBufferId : UInt64 → UInt64)

/-- A command buffer stands for its id. -/
def VkCommandBufferSubmitInfo.contents (x : VkCommandBufferSubmitInfo) : VkCommandBufferSubmitInfo :=
  { x with pNext := x.pNext.contents id, commandBuffer := commandBufferId x.commandBuffer }

@[simp] theorem writeCommandBufferSubmitInfo_contents (x : VkCommandBufferSubmitInfo) :
    writeCommandBufferSubmitInfo id (x.contents commandBufferId) =
      writeCommandBufferSubmitInfo commandBufferId x := by
  simp [writeCommandBufferSubmitInfo, VkCommandBufferSubmitInfo.contents]

def VkSubmitInfo2.contents (s : VkSubmitInfo2) : VkSubmitInfo2 :=
  { s with pNext := s.pNext.contents id,
           pWaitSemaphoreInfos :=
             s.pWaitSemaphoreInfos.contents (List.Vector.map VkSemaphoreSubmitInfo.contents),
           pCommandBufferInfos :=
             s.pCommandBufferInfos.contents (List.Vector.map (VkCommandBufferSubmitInfo.contents commandBufferId)),
           pSignalSemaphoreInfos :=
             s.pSignalSemaphoreInfos.contents (List.Vector.map VkSemaphoreSubmitInfo.contents) }

@[simp] theorem writeSubmitInfo2_contents (s : VkSubmitInfo2) :
    writeSubmitInfo2 id (s.contents commandBufferId) = writeSubmitInfo2 commandBufferId s := by
  simp [writeSubmitInfo2, VkSubmitInfo2.contents, writeAll_map writeSemaphoreSubmitInfo_contents,
    writeAll_map (writeCommandBufferSubmitInfo_contents commandBufferId)]

end

/-! ### Devices, memory and what lies in it -/

def VkDeviceQueueCreateInfo.contents (s : VkDeviceQueueCreateInfo) : VkDeviceQueueCreateInfo :=
  { s with pNext := s.pNext.contents, pQueuePriorities := s.pQueuePriorities.contents id }

@[simp] theorem writeDeviceQueueCreateInfo_contents (s : VkDeviceQueueCreateInfo) :
    writeDeviceQueueCreateInfo s.contents = writeDeviceQueueCreateInfo s := by
  simp [writeDeviceQueueCreateInfo, VkDeviceQueueCreateInfo.contents]

def VkDeviceCreateInfo.contents (s : VkDeviceCreateInfo) : VkDeviceCreateInfo :=
  { s with pNext := s.pNext.contents,
           pQueueCreateInfos := s.pQueueCreateInfos.contents (List.Vector.map VkDeviceQueueCreateInfo.contents),
           ppEnabledLayerNames := s.ppEnabledLayerNames.contents (List.Vector.map (Ptr.contents id)),
           ppEnabledExtensionNames := s.ppEnabledExtensionNames.contents (List.Vector.map (Ptr.contents id)),
           pEnabledFeatures := s.pEnabledFeatures.contents id }

@[simp] theorem writeDeviceCreateInfo_contents (s : VkDeviceCreateInfo) :
    writeDeviceCreateInfo s.contents = writeDeviceCreateInfo s := by
  simp [writeDeviceCreateInfo, VkDeviceCreateInfo.contents, List.flatMap_map]

def VkSwapchainCreateInfoKHR.contents (s : VkSwapchainCreateInfoKHR) : VkSwapchainCreateInfoKHR :=
  { s with pNext := s.pNext.contents, pQueueFamilyIndices := s.pQueueFamilyIndices.contents id }

@[simp] theorem writeSwapchainCreateInfoKHR_contents (s : VkSwapchainCreateInfoKHR) :
    writeSwapchainCreateInfoKHR s.contents = writeSwapchainCreateInfoKHR s := by
  simp [writeSwapchainCreateInfoKHR, VkSwapchainCreateInfoKHR.contents]

def VkImageViewCreateInfo.contents (s : VkImageViewCreateInfo) : VkImageViewCreateInfo :=
  { s with pNext := s.pNext.contents }

@[simp] theorem writeImageViewCreateInfo_contents (s : VkImageViewCreateInfo) :
    writeImageViewCreateInfo s.contents = writeImageViewCreateInfo s := by
  simp [writeImageViewCreateInfo, VkImageViewCreateInfo.contents]

def VkBufferCreateInfo.contents (s : VkBufferCreateInfo) : VkBufferCreateInfo :=
  { s with pNext := s.pNext.contents, pQueueFamilyIndices := s.pQueueFamilyIndices.contents id }

@[simp] theorem writeBufferCreateInfo_contents (s : VkBufferCreateInfo) :
    writeBufferCreateInfo s.contents = writeBufferCreateInfo s := by
  simp [writeBufferCreateInfo, VkBufferCreateInfo.contents]

def VkImageCreateInfo.contents (s : VkImageCreateInfo) : VkImageCreateInfo :=
  { s with pNext := s.pNext.contents, pQueueFamilyIndices := s.pQueueFamilyIndices.contents id }

@[simp] theorem writeImageCreateInfo_contents (s : VkImageCreateInfo) :
    writeImageCreateInfo s.contents = writeImageCreateInfo s := by
  simp [writeImageCreateInfo, VkImageCreateInfo.contents]

def VkBufferViewCreateInfo.contents (s : VkBufferViewCreateInfo) : VkBufferViewCreateInfo :=
  { s with pNext := s.pNext.contents id }

@[simp] theorem writeBufferViewCreateInfo_contents (s : VkBufferViewCreateInfo) :
    writeBufferViewCreateInfo s.contents = writeBufferViewCreateInfo s := by
  simp [writeBufferViewCreateInfo, VkBufferViewCreateInfo.contents]

@[simp] theorem writeChained_contents {n gap : ℕ} (context : PNextContext) (s : PlainState n gap) :
    writeChained context s.contents = writeChained context s := by
  have hchain : s.contents.pNext = s.pNext.contents := rfl
  rw [writeChained, hchain, writePnextChain_contents, writePlainState_contents, writeChained]

def VkQueryPoolCreateInfo.contents (s : VkQueryPoolCreateInfo) : VkQueryPoolCreateInfo :=
  { s with pNext := s.pNext.contents }

@[simp] theorem writeQueryPoolCreateInfo_contents (s : VkQueryPoolCreateInfo) :
    writeQueryPoolCreateInfo s.contents = writeQueryPoolCreateInfo s := by
  simp [writeQueryPoolCreateInfo, VkQueryPoolCreateInfo.contents]

def VkEventCreateInfo.contents (s : VkEventCreateInfo) : VkEventCreateInfo := { s with pNext := s.pNext.contents }

@[simp] theorem writeEventCreateInfo_contents (s : VkEventCreateInfo) :
    writeEventCreateInfo s.contents = writeEventCreateInfo s := by
  simp [writeEventCreateInfo, VkEventCreateInfo.contents]

end VkRemote.Marshal
