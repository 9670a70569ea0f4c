import VulkanRemote.Marshal.Decoders
import VulkanRemote.Marshal.OutputChain

/-! Whose memory the pointers of a decoded structure lead to. Most structures are copied from the message as
they lie in memory, and then their pointers are replaced; where a decoder leaves one alone, the bits that came
with the message stay in it. -/

namespace VkRemote.Marshal
open Lib Wire Decode

/-- The pointers of a value, and those of what they lead to, are null or lead to blocks of the arena. -/
class HasPointers (α : Type) where
  InArena : α → Prop

open HasPointers

def Ptr.InArena {α : Type} [HasPointers α] : Ptr α → Prop
  | .null => True
  | .host _ _ => False
  | .arena a => HasPointers.InArena a
  | .wire _ => False

section

instance : HasPointers Unit := ⟨fun _ => True⟩

instance : HasPointers UInt8 := ⟨fun _ => True⟩

instance : HasPointers UInt32 := ⟨fun _ => True⟩

instance : HasPointers UInt64 := ⟨fun _ => True⟩

instance (n : ℕ) : HasPointers (Blob n) := ⟨fun _ => True⟩

variable {α β : Type} [HasPointers α] [HasPointers β]

instance : HasPointers (α × β) := ⟨fun x => InArena x.1 ∧ InArena x.2⟩

instance : HasPointers (List α) := ⟨fun l => ∀ a ∈ l, InArena a⟩

instance (n : ℕ) : HasPointers (Elements α n) := ⟨fun v => ∀ a ∈ v.toList, InArena a⟩

instance : HasPointers (Ptr α) := ⟨Ptr.InArena⟩

end

instance : HasPointers VkAttachmentReference2 := ⟨fun s => s.pNext.InArena⟩

instance : HasPointers VkFramebufferAttachmentImageInfo := ⟨fun s => s.pNext.InArena ∧ s.pViewFormats.InArena⟩

def Node.InArena : Node → Prop
  | .plain _ _ => True
  | .renderPassInputAttachmentAspect _ p => p.InArena
  | .renderPassMultiview _ ps _ pd _ pc => ps.InArena ∧ pd.InArena ∧ pc.InArena
  | .fragmentShadingRateAttachment p _ _ => p.InArena
  | .imageFormatList _ p => p.InArena
  | .samplerYcbcrConversion _ => True
  | .framebufferAttachments _ p => p.InArena
  | .renderPassAttachmentBegin _ p => p.InArena
  | .timelineSemaphoreSubmit _ pw _ ps => pw.InArena ∧ ps.InArena
  | .memoryAllocateFlags _ _ => True
  | .other _ _ => True

instance : HasPointers Node := ⟨Node.InArena⟩

def PNext.InArena : PNext → Prop
  | .null => True
  | .host _ _ _ => False
  | .arena node next => node.InArena ∧ next.InArena
  | .wire _ => False

instance : HasPointers PNext := ⟨PNext.InArena⟩

instance : HasPointers VkSpecializationInfo := ⟨fun s => s.pMapEntries.InArena ∧ s.pData.InArena⟩

instance : HasPointers VkPipelineShaderStageCreateInfo :=
  ⟨fun s => s.pNext.InArena ∧ s.pName.InArena ∧ s.pSpecializationInfo.InArena⟩

instance : HasPointers VkPipelineVertexInputStateCreateInfo :=
  ⟨fun s => s.pNext.InArena ∧ s.pVertexBindingDescriptions.InArena ∧ s.pVertexAttributeDescriptions.InArena⟩

instance (n gap : ℕ) : HasPointers (PlainState n gap) := ⟨fun s => s.pNext.InArena⟩

instance : HasPointers VkPipelineViewportStateCreateInfo :=
  ⟨fun s => s.pNext.InArena ∧ s.pViewports.InArena ∧ s.pScissors.InArena⟩

instance : HasPointers VkPipelineMultisampleStateCreateInfo :=
  ⟨fun s => s.pNext.InArena ∧ s.pSampleMask.InArena⟩

instance : HasPointers VkPipelineColorBlendStateCreateInfo :=
  ⟨fun s => s.pNext.InArena ∧ s.pAttachments.InArena⟩

instance : HasPointers VkPipelineDynamicStateCreateInfo :=
  ⟨fun s => s.pNext.InArena ∧ s.pDynamicStates.InArena⟩

instance : HasPointers VkGraphicsPipelineCreateInfo :=
  ⟨fun s => s.pNext.InArena ∧ s.pStages.InArena ∧ s.pVertexInputState.InArena ∧
    s.pInputAssemblyState.InArena ∧ s.pTessellationState.InArena ∧ s.pViewportState.InArena ∧
    s.pRasterizationState.InArena ∧ s.pMultisampleState.InArena ∧ s.pDepthStencilState.InArena ∧
    s.pColorBlendState.InArena ∧ s.pDynamicState.InArena⟩

instance : HasPointers VkComputePipelineCreateInfo := ⟨fun s => s.pNext.InArena ∧ InArena s.stage⟩

instance : HasPointers VkShaderModuleCreateInfo := ⟨fun s => s.pNext.InArena ∧ s.pCode.InArena⟩

instance : HasPointers VkPipelineLayoutCreateInfo :=
  ⟨fun s => s.pNext.InArena ∧ s.pSetLayouts.InArena ∧ s.pPushConstantRanges.InArena⟩

instance : HasPointers VkPipelineCacheCreateInfo := ⟨fun s => s.pNext.InArena ∧ s.pInitialData.InArena⟩

instance : HasPointers VkSubpassDescription :=
  ⟨fun s => s.pInputAttachments.InArena ∧ s.pColorAttachments.InArena ∧ s.pResolveAttachments.InArena ∧
    s.pDepthStencilAttachment.InArena ∧ s.pPreserveAttachments.InArena⟩

instance : HasPointers VkRenderPassCreateInfo :=
  ⟨fun s => s.pNext.InArena ∧ s.pAttachments.InArena ∧ s.pSubpasses.InArena ∧ s.pDependencies.InArena⟩

instance (n : ℕ) : HasPointers (Extended n) := ⟨fun s => s.pNext.InArena⟩

instance : HasPointers VkSubpassDescription2 :=
  ⟨fun s => s.pNext.InArena ∧ s.pInputAttachments.InArena ∧ s.pColorAttachments.InArena ∧
    s.pResolveAttachments.InArena ∧ s.pDepthStencilAttachment.InArena ∧ s.pPreserveAttachments.InArena⟩

instance : HasPointers VkRenderPassCreateInfo2 :=
  ⟨fun s => s.pNext.InArena ∧ s.pAttachments.InArena ∧ s.pSubpasses.InArena ∧ s.pDependencies.InArena ∧
    s.pCorrelatedViewMasks.InArena⟩

instance : HasPointers VkFramebufferCreateInfo := ⟨fun s => s.pNext.InArena ∧ s.pAttachments.InArena⟩

instance : HasPointers VkRenderPassBeginInfo := ⟨fun s => s.pNext.InArena ∧ s.pClearValues.InArena⟩

instance : HasPointers VkSubpassBeginInfo := ⟨fun s => s.pNext.InArena⟩

instance : HasPointers VkSubpassEndInfo := ⟨fun s => s.pNext.InArena⟩

instance : HasPointers VkCommandBufferAllocateInfo := ⟨fun s => s.pNext.InArena⟩

instance : HasPointers VkCommandBufferInheritanceInfo := ⟨fun s => s.pNext.InArena⟩

instance : HasPointers VkCommandBufferBeginInfo := ⟨fun s => s.pNext.InArena ∧ s.pInheritanceInfo.InArena⟩

instance : HasPointers VkDescriptorSetLayoutBinding := ⟨fun s => s.pImmutableSamplers.InArena⟩

instance : HasPointers VkDescriptorSetLayoutCreateInfo := ⟨fun s => s.pNext.InArena ∧ s.pBindings.InArena⟩

instance : HasPointers VkDescriptorPoolCreateInfo := ⟨fun s => s.pNext.InArena ∧ s.pPoolSizes.InArena⟩

instance : HasPointers VkDescriptorSetAllocateInfo := ⟨fun s => s.pNext.InArena ∧ s.pSetLayouts.InArena⟩

instance : HasPointers VkDescriptorImageInfo := ⟨fun _ => True⟩

instance : HasPointers VkDescriptorBufferInfo := ⟨fun _ => True⟩

instance : HasPointers VkWriteDescriptorSet :=
  ⟨fun s => s.pNext.InArena ∧ s.pImageInfo.InArena ∧ s.pBufferInfo.InArena ∧ s.pTexelBufferView.InArena⟩

instance : HasPointers VkCopyDescriptorSet := ⟨fun s => s.pNext.InArena⟩

instance : HasPointers VkDescriptorUpdateTemplateEntry := ⟨fun _ => True⟩

instance : HasPointers VkDescriptorUpdateTemplateCreateInfo :=
  ⟨fun s => s.pNext.InArena ∧ s.pDescriptorUpdateEntries.InArena⟩

instance : HasPointers VkSamplerYcbcrConversionCreateInfo := ⟨fun s => s.pNext.InArena⟩

instance : HasPointers VkMemoryRequirements := ⟨fun _ => True⟩

instance : HasPointers VkBufferMemoryBarrier := ⟨fun s => s.pNext.InArena⟩

instance : HasPointers VkImageMemoryBarrier := ⟨fun s => s.pNext.InArena⟩

instance : HasPointers VkMemoryBarrier2 := ⟨fun s => s.pNext.InArena⟩

instance : HasPointers VkBufferMemoryBarrier2 := ⟨fun s => s.pNext.InArena⟩

instance : HasPointers VkImageMemoryBarrier2 := ⟨fun s => s.pNext.InArena⟩

instance : HasPointers VkDependencyInfo :=
  ⟨fun s => s.pNext.InArena ∧ s.pMemoryBarriers.InArena ∧ s.pBufferMemoryBarriers.InArena ∧
    s.pImageMemoryBarriers.InArena⟩

instance : HasPointers VkSemaphoreSubmitInfo := ⟨fun s => s.pNext.InArena⟩

instance : HasPointers VkCommandBufferSubmitInfo := ⟨fun s => s.pNext.InArena⟩

instance : HasPointers VkSubmitInfo2 :=
  ⟨fun s => s.pNext.InArena ∧ s.pWaitSemaphoreInfos.InArena ∧ s.pCommandBufferInfos.InArena ∧
    s.pSignalSemaphoreInfos.InArena⟩

instance : HasPointers VkDeviceQueueCreateInfo := ⟨fun s => s.pNext.InArena ∧ s.pQueuePriorities.InArena⟩

instance : HasPointers VkDeviceCreateInfo :=
  ⟨fun s => s.pNext.InArena ∧ s.pQueueCreateInfos.InArena ∧ s.ppEnabledLayerNames.InArena ∧
    s.ppEnabledExtensionNames.InArena ∧ s.pEnabledFeatures.InArena⟩

instance : HasPointers VkSwapchainCreateInfoKHR := ⟨fun s => s.pNext.InArena ∧ s.pQueueFamilyIndices.InArena⟩

instance : HasPointers VkImageViewCreateInfo := ⟨fun s => s.pNext.InArena⟩

instance : HasPointers VkBufferCreateInfo := ⟨fun s => s.pNext.InArena ∧ s.pQueueFamilyIndices.InArena⟩

instance : HasPointers VkImageCreateInfo := ⟨fun s => s.pNext.InArena ∧ s.pQueueFamilyIndices.InArena⟩

instance : HasPointers VkBufferViewCreateInfo := ⟨fun s => s.pNext.InArena⟩

instance : HasPointers VkQueryPoolCreateInfo := ⟨fun s => s.pNext.InArena⟩

instance : HasPointers VkEventCreateInfo := ⟨fun s => s.pNext.InArena⟩

/-- The name lies in the structure. -/
instance : HasPointers VkExtensionProperties := ⟨fun _ => True⟩

instance : (d : Decoder) → HasPointers d.Result
  | .pnextChain _ => inferInstanceAs (HasPointers PNext)
  | .deviceQueueCreateInfo => inferInstanceAs (HasPointers VkDeviceQueueCreateInfo)
  | .deviceCreateInfo => inferInstanceAs (HasPointers VkDeviceCreateInfo)
  | .swapchainCreateInfoKHR => inferInstanceAs (HasPointers VkSwapchainCreateInfoKHR)
  | .imageViewCreateInfo => inferInstanceAs (HasPointers VkImageViewCreateInfo)
  | .renderPassCreateInfo => inferInstanceAs (HasPointers VkRenderPassCreateInfo)
  | .renderPassCreateInfo2 => inferInstanceAs (HasPointers VkRenderPassCreateInfo2)
  | .shaderModuleCreateInfo => inferInstanceAs (HasPointers VkShaderModuleCreateInfo)
  | .pipelineShaderStageCreateInfo => inferInstanceAs (HasPointers VkPipelineShaderStageCreateInfo)
  | .pipelineLayoutCreateInfo => inferInstanceAs (HasPointers VkPipelineLayoutCreateInfo)
  | .graphicsPipelineCreateInfo => inferInstanceAs (HasPointers VkGraphicsPipelineCreateInfo)
  | .computePipelineCreateInfo => inferInstanceAs (HasPointers VkComputePipelineCreateInfo)
  | .framebufferCreateInfo => inferInstanceAs (HasPointers VkFramebufferCreateInfo)
  | .bufferViewCreateInfo => inferInstanceAs (HasPointers VkBufferViewCreateInfo)
  | .queryPoolCreateInfo => inferInstanceAs (HasPointers VkQueryPoolCreateInfo)
  | .eventCreateInfo => inferInstanceAs (HasPointers VkEventCreateInfo)
  | .commandBufferAllocateInfo => inferInstanceAs (HasPointers VkCommandBufferAllocateInfo)
  | .commandBufferBeginInfo => inferInstanceAs (HasPointers VkCommandBufferBeginInfo)
  | .renderPassBeginInfo => inferInstanceAs (HasPointers VkRenderPassBeginInfo)
  | .subpassBeginInfo => inferInstanceAs (HasPointers VkSubpassBeginInfo)
  | .subpassEndInfo => inferInstanceAs (HasPointers VkSubpassEndInfo)
  | .descriptorSetLayoutCreateInfo => inferInstanceAs (HasPointers VkDescriptorSetLayoutCreateInfo)
  | .descriptorUpdateTemplateCreateInfo => inferInstanceAs (HasPointers VkDescriptorUpdateTemplateCreateInfo)
  | .samplerYcbcrConversionCreateInfo => inferInstanceAs (HasPointers VkSamplerYcbcrConversionCreateInfo)
  | .descriptorPoolCreateInfo => inferInstanceAs (HasPointers VkDescriptorPoolCreateInfo)
  | .descriptorSetAllocateInfo => inferInstanceAs (HasPointers VkDescriptorSetAllocateInfo)
  | .writeDescriptorSet => inferInstanceAs (HasPointers VkWriteDescriptorSet)
  | .copyDescriptorSet => inferInstanceAs (HasPointers VkCopyDescriptorSet)
  | .imageMemoryBarrier => inferInstanceAs (HasPointers VkImageMemoryBarrier)
  | .bufferMemoryBarrier => inferInstanceAs (HasPointers VkBufferMemoryBarrier)
  | .memoryBarrier => inferInstanceAs (HasPointers VkMemoryBarrier)
  | .dependencyInfo => inferInstanceAs (HasPointers VkDependencyInfo)
  | .submitInfo2 => inferInstanceAs (HasPointers VkSubmitInfo2)
  | .bufferCreateInfo => inferInstanceAs (HasPointers VkBufferCreateInfo)
  | .imageCreateInfo => inferInstanceAs (HasPointers VkImageCreateInfo)
  | .memoryAllocateInfo => inferInstanceAs (HasPointers VkMemoryAllocateInfo)
  | .samplerCreateInfo => inferInstanceAs (HasPointers VkSamplerCreateInfo)
  | .fenceCreateInfo => inferInstanceAs (HasPointers VkFenceCreateInfo)
  | .semaphoreCreateInfo => inferInstanceAs (HasPointers VkSemaphoreCreateInfo)
  | .commandPoolCreateInfo => inferInstanceAs (HasPointers VkCommandPoolCreateInfo)
  | .pipelineCacheCreateInfo => inferInstanceAs (HasPointers VkPipelineCacheCreateInfo)
  | .bufferImageCopy => inferInstanceAs (HasPointers VkBufferImageCopy)
  | .imageCopy => inferInstanceAs (HasPointers VkImageCopy)
  | .imageBlit => inferInstanceAs (HasPointers VkImageBlit)
  | .bufferCopy => inferInstanceAs (HasPointers VkBufferCopy)
  | .viewport => inferInstanceAs (HasPointers VkViewport)
  | .rect2D => inferInstanceAs (HasPointers VkRect2D)
  | .memoryRequirements => inferInstanceAs (HasPointers VkMemoryRequirements)
  | .subresourceLayout => inferInstanceAs (HasPointers VkSubresourceLayout)
  | .surfaceCapabilitiesKHR => inferInstanceAs (HasPointers VkSurfaceCapabilitiesKHR)
  | .extensionProperties => inferInstanceAs (HasPointers VkExtensionProperties)

/-! ### What a decoder returns -/

/-- Whatever a run that succeeds returns has the property. -/
def Decode.Yields {α : Type} (m : Decode α) (P : α → Prop) : Prop :=
  ∀ hr s a s', m hr s = (some a, s') → P a

/-- Everything it returns is in the arena. -/
abbrev Decode.Local {α : Type} [HasPointers α] (m : Decode α) : Prop := m.Yields InArena

namespace Decode.Yields

variable {α β : Type} {P Q : α → Prop}

theorem pure {a : α} (h : P a) : Yields (Pure.pure a) P := by
  intro hr s b s' hrun
  obtain rfl : a = b := Option.some.inj (Prod.mk.inj hrun).1
  exact h

theorem bind {m : Decode β} {k : β → Decode α} (hk : ∀ b, Yields (k b) P) : Yields (m >>= k) P := by
  intro hr s a s' hrun
  obtain ⟨b, t, -, hrest⟩ := of_bind hrun
  exact hk b hr t a s' hrest

theorem bind_of {R : β → Prop} {m : Decode β} {k : β → Decode α} (hm : Yields m R)
    (hk : ∀ b, R b → Yields (k b) P) : Yields (m >>= k) P := by
  intro hr s a s' hrun
  obtain ⟨b, t, hfirst, hrest⟩ := of_bind hrun
  exact hk b (hm hr s b t hfirst) hr t a s' hrest

theorem ite {p : Prop} [Decidable p] {m m' : Decode α} (h : Yields m P) (h' : Yields m' P) :
    Yields (if p then m else m') P := by
  split
  exacts [h, h']

theorem fail : Yields (fun _ s => (none, s)) P := by
  intro hr s a s' hrun
  cases hrun

theorem times {m : Decode α} (h : Yields m P) (n : ℕ) :
    Yields (Decode.times n m) fun v => ∀ a ∈ v.toList, P a := by
  induction n with
  | zero => exact .pure fun a ha => absurd ha List.not_mem_nil
  | succ n ih =>
    refine .bind_of h fun a ha => .bind_of ih fun v hv => .pure fun b hb => ?_
    rw [List.Vector.toList_cons] at hb
    rcases List.mem_cons.1 hb with rfl | hb
    exacts [ha, hv b hb]

end Decode.Yields

section

variable {α : Type} [HasPointers α]

theorem forall_plain {v : List α} (h : ∀ a : α, InArena a) : ∀ a ∈ v, InArena a := fun a _ => h a

theorem local_array {m : Decode α} (h : Local m) (count size : ℕ) : Local (array count size m) :=
  .bind fun _ => .bind_of (h.times count) fun _ hv => .pure (by split_ifs; exacts [trivial, hv])

theorem local_readPodArray (n count : ℕ) : Local (readPodArray n count) :=
  .bind fun _ => .bind fun _ => .bind fun _ =>
    .ite (.pure trivial) (.bind fun _ => .pure (forall_plain fun _ => trivial))

theorem local_readOptPodArray (n count : ℕ) : Local (readOptPodArray n count) :=
  .bind fun _ => .bind fun _ => .bind fun _ => .ite (.pure trivial) (local_readPodArray n count)

theorem local_readOptPod (n : ℕ) : Local (readOptPod (Blob n)) :=
  .bind fun _ => .bind fun _ =>
    .ite (.pure trivial) (.bind fun _ => .bind fun _ => .bind fun _ => .pure trivial)

theorem local_readHandleArray (kind : HandleKind) (count : ℕ) : Local (readHandleArray kind count) :=
  .ite (.pure trivial) (.bind fun _ => local_array (fun _ _ _ _ _ => trivial) count 8)

theorem local_readString : Local readString :=
  .bind fun _ => .bind fun _ => .pure (forall_plain fun _ => trivial)

theorem local_readStringArray (count : ℕ) : Local (readStringArray count) :=
  .ite (.pure trivial) (.bind fun _ => local_array local_readString count 8)

theorem local_readBytesToArena (size : ℕ) : Local (readBytesToArena size) :=
  .bind fun _ => .bind fun _ =>
    .ite (.pure trivial) (.bind fun _ => .pure (forall_plain fun _ => trivial))

theorem local_readPresent {m : Decode α} (h : Local m) (size : ℕ) : Local (readPresent size m) :=
  .bind fun _ => .bind fun _ => .ite (.pure trivial) (.bind fun _ => .bind_of h fun _ ha => .pure ha)

theorem local_readCounted {m : Decode α} (h : Local m) (size : ℕ) :
    Yields (readCounted size m) fun x => x.2.InArena :=
  .bind fun _ => .bind fun _ => .bind fun _ => .bind_of (local_array h _ size) fun _ hp => .pure hp

theorem local_readBounded {m : Decode α} (h : Local m) (wire size : ℕ) :
    Yields (readBounded wire size m) fun x => x.2.InArena :=
  .bind fun _ => .bind fun _ => .bind fun _ => .bind fun _ =>
    .bind_of (local_array h _ size) fun _ hp => .pure hp

theorem local_readBacked {m : Decode α} (h : Local m) (wire size : ℕ) :
    Yields (readBacked wire size m) fun x => x.2.InArena :=
  .bind fun _ => .bind fun _ => .bind fun _ => .bind_of (local_array h _ size) fun _ hp => .pure hp

theorem local_readFlagged {m : Decode (Ptr α)} (h : Local m) : Local (readFlagged m) :=
  .bind fun _ => .bind fun _ => .bind fun _ => .ite (.pure trivial) h

/-- A value without pointers. -/
theorem local_plain {m : Decode α} (h : ∀ a : α, InArena a) : Local m := fun _ _ a _ _ => h a

end

theorem local_readAttachmentReference2 : Local readAttachmentReference2 :=
  .bind fun _ => .bind fun _ => .bind fun _ => .bind fun _ => .bind fun _ => .bind fun _ => .pure trivial

theorem local_readShadingRateAttachment : Local readShadingRateAttachment :=
  .bind fun _ => .bind fun _ => .bind fun _ =>
    .ite (.pure trivial) (.bind fun _ => .bind_of local_readAttachmentReference2 fun _ ha => .pure ha)

theorem local_readAttachmentImageInfo : Local readAttachmentImageInfo :=
  .bind fun _ => .bind fun _ => .bind fun _ => .bind fun _ => .bind fun _ =>
    .bind_of (local_readCounted (local_plain fun _ => trivial) 4) fun ⟨_, _⟩ hp => .pure ⟨trivial, hp⟩

theorem local_readNodeFields (t : NodeType) : Local (readNodeFields t) := by
  cases t with
  | plain t => exact .bind fun _ => .pure trivial
  | renderPassInputAttachmentAspectCreateInfo =>
    exact .bind_of (local_readCounted (local_plain (by exact fun _ => ⟨trivial, trivial, trivial, trivial⟩)) 12)
      fun ⟨_, _⟩ hp => .pure hp
  | renderPassMultiviewCreateInfo =>
    exact .bind_of (local_readCounted (local_plain fun _ => trivial) 4) fun ⟨_, _⟩ hs =>
      .bind_of (local_readCounted (local_plain fun _ => trivial) 4) fun ⟨_, _⟩ hd =>
      .bind_of (local_readCounted (local_plain fun _ => trivial) 4) fun ⟨_, _⟩ hc => .pure ⟨hs, hd, hc⟩
  | fragmentShadingRateAttachmentInfo =>
    exact .bind_of local_readShadingRateAttachment fun _ hp => .bind fun _ => .bind fun _ => .pure hp
  | imageFormatListCreateInfo =>
    exact .bind_of (local_readCounted (local_plain fun _ => trivial) 4) fun ⟨_, _⟩ hp => .pure hp
  | samplerYcbcrConversionInfo => exact .bind fun _ => .bind fun _ => .pure trivial
  | framebufferAttachmentsCreateInfo =>
    exact .bind_of (local_readCounted local_readAttachmentImageInfo 48) fun ⟨_, _⟩ hp => .pure hp
  | renderPassAttachmentBeginInfo =>
    exact .bind fun _ => .bind fun _ => .bind fun _ =>
      .bind_of (local_readHandleArray .imageView _) fun _ hp => .pure hp
  | timelineSemaphoreSubmitInfo =>
    exact .bind_of (local_readCounted (local_plain fun _ => trivial) 8) fun ⟨_, _⟩ hw =>
      .bind_of (local_readCounted (local_plain fun _ => trivial) 8) fun ⟨_, _⟩ hs => .pure ⟨hw, hs⟩
  | memoryAllocateFlagsInfo => exact .bind fun _ => .bind fun _ => .bind fun _ => .pure trivial

theorem inArena_ofNodes {ns : List Node} (h : ∀ n ∈ ns, n.InArena) : (PNext.ofNodes ns).InArena := by
  induction ns with
  | nil => trivial
  | cons n ns ih =>
    obtain ⟨hn, hns⟩ := List.forall_mem_cons.1 h
    exact ⟨hn, ih hns⟩

theorem local_readNodes (context : PNextContext) (n : ℕ) (seen : List UInt32) :
    Local (readNodes context n seen) := by
  induction n generalizing seen with
  | zero => exact .pure fun _ hn => absurd hn List.not_mem_nil
  | succ n ih =>
    refine .bind fun code => .bind fun _ => ?_
    split
    · exact .fail
    · exact .bind fun _ => .bind fun _ => .bind_of (local_readNodeFields _) fun _ hnode => .bind fun _ =>
        .bind_of (ih _) fun _ hnodes => .pure (List.forall_mem_cons.2 ⟨hnode, hnodes⟩)

theorem local_readPnextChain (context : PNextContext) : Local (readPnextChain context) :=
  .bind fun _ => .bind fun _ => .bind fun _ => .bind_of (local_readNodes context _ []) fun _ hnodes =>
    .bind fun _ => .pure (inArena_ofNodes hnodes)

theorem inArena_zero (t : NodeType) : (Node.zero t).InArena := by
  cases t with
  | renderPassMultiviewCreateInfo => exact ⟨trivial, trivial, trivial⟩
  | timelineSemaphoreSubmitInfo => exact ⟨trivial, trivial⟩
  | _ => trivial

theorem local_readTopologyNodes (context : PNextContext) (n : ℕ) (seen : List UInt32) :
    Local (readTopologyNodes context n seen) := by
  induction n generalizing seen with
  | zero => exact .pure fun _ hn => absurd hn List.not_mem_nil
  | succ n ih =>
    refine .bind fun code => .bind fun _ => ?_
    split
    · exact .fail
    · exact .bind fun _ => .bind fun _ => .bind_of (ih _) fun _ hnodes =>
        .pure (List.forall_mem_cons.2 ⟨inArena_zero _, hnodes⟩)

theorem local_readPnextOutputTopology (context : PNextContext) : Local (readPnextOutputTopology context) :=
  .bind fun _ => .bind fun _ => .bind fun _ => .bind_of (local_readTopologyNodes context _ []) fun _ hnodes =>
    .bind fun _ => .pure hnodes

/-! ### Decoders that replace every pointer -/

theorem local_readSpecializationInfo : Local readSpecializationInfo :=
  .bind fun _ => .bind_of (local_readPodArray 16 _) fun _ hentries =>
    .bind_of (local_readBytesToArena _) fun _ hdata => .pure ⟨hentries, hdata⟩

theorem local_readSubpassDescription : Local readSubpassDescription :=
  .bind fun _ => .bind_of (local_readPodArray 8 _) fun _ hinputs =>
    .bind_of (local_readPodArray 8 _) fun _ hcolors => .bind_of (local_readOptPodArray 8 _) fun _ hresolves =>
    .bind_of (local_readOptPod 8) fun _ hdepth => .bind_of (local_readPodArray 4 _) fun _ hpreserves =>
    .pure ⟨hinputs, hcolors, hresolves, hdepth, hpreserves⟩

theorem local_readRenderPassCreateInfo : Local readRenderPassCreateInfo :=
  .bind fun _ => .bind_of (local_readPnextChain _) fun _ hnext =>
    .bind_of (local_readPodArray 36 _) fun _ hattachments => .bind fun _ =>
    .bind_of (local_array local_readSubpassDescription _ 72) fun _ hsubpasses =>
    .bind_of (local_readPodArray 28 _) fun _ hdependencies =>
    .pure ⟨hnext, hattachments, hsubpasses, hdependencies⟩

theorem local_readExtended (n : ℕ) (type : UInt32) : Local (readExtended n type) :=
  .bind fun _ => .bind fun _ => .bind fun _ => .bind fun _ => .pure trivial

theorem local_readSubpassDescription2 : Local readSubpassDescription2 :=
  .bind fun _ => .bind fun _ => .bind fun _ => .bind fun _ => .bind fun _ => .bind fun _ =>
    .bind_of (local_readPnextChain _) fun _ hnext =>
    .bind_of (local_readBounded local_readAttachmentReference2 16 32) fun ⟨_, _⟩ hinputs =>
    .bind_of (local_readBounded local_readAttachmentReference2 16 32) fun ⟨_, _⟩ hcolors =>
    .bind_of (local_readFlagged (local_array local_readAttachmentReference2 _ 32)) fun _ hresolves =>
    .bind_of (local_readFlagged
      (.bind fun _ => .bind_of local_readAttachmentReference2 fun _ ha => .pure ha)) fun _ hdepth =>
    .bind_of (local_readBounded (local_plain fun _ => trivial) 4 4) fun ⟨_, _⟩ hpreserves =>
    .bind fun _ => .pure ⟨hnext, hinputs, hcolors, hresolves, hdepth, hpreserves⟩

theorem local_readRenderPassCreateInfo2 : Local readRenderPassCreateInfo2 :=
  .bind fun _ => .bind fun _ => .bind fun _ => .bind fun _ => .bind_of (local_readPnextChain _) fun _ hnext =>
    .bind_of (local_readBounded (local_readExtended 9 _) 40 56) fun ⟨_, _⟩ hattachments =>
    .bind_of (local_readCounted local_readSubpassDescription2 88) fun ⟨_, _⟩ hsubpasses =>
    .bind_of (local_readBounded (local_readExtended 8 _) 36 48) fun ⟨_, _⟩ hdependencies =>
    .bind_of (local_readBounded (local_plain fun _ => trivial) 4 4) fun ⟨_, _⟩ hmasks =>
    .bind fun _ => .pure ⟨hnext, hattachments, hsubpasses, hdependencies, hmasks⟩

theorem local_readShaderModuleCreateInfo : Local readShaderModuleCreateInfo :=
  .bind fun _ => .bind fun _ => .bind fun _ => .bind fun _ => .bind_of (local_readPnextChain _) fun _ hnext =>
    .bind fun _ => .bind fun _ => .bind fun _ => .bind fun _ =>
    .bind_of (local_array (local_plain fun _ => trivial) _ 4) fun _ hcode =>
    .bind fun _ => .bind fun _ => .bind fun _ => .pure ⟨hnext, hcode⟩

theorem local_readFramebufferCreateInfo : Local readFramebufferCreateInfo :=
  .bind fun _ => .bind_of (local_readPnextChain _) fun _ hnext =>
    .bind_of (.ite (local_readHandleArray .imageView _) (.pure trivial)) fun _ hattachments =>
    .bind fun _ => .pure ⟨hnext, hattachments⟩

theorem local_readRenderPassBeginInfo : Local readRenderPassBeginInfo :=
  .bind fun _ => .bind_of (local_readPnextChain _) fun _ hnext =>
    .bind_of (local_readPodArray 16 _) fun _ hvalues => .bind fun _ => .bind fun _ => .pure ⟨hnext, hvalues⟩

theorem local_readSubpassBeginInfo : Local readSubpassBeginInfo :=
  .bind fun _ => .bind fun _ => .bind fun _ => .bind fun _ =>
    .bind_of (local_readPnextChain _) fun _ hnext => .pure hnext

theorem local_readSubpassEndInfo : Local readSubpassEndInfo :=
  .bind fun _ => .bind fun _ => .bind fun _ => .bind_of (local_readPnextChain _) fun _ hnext => .pure hnext

theorem local_readInheritanceInfo : Local readInheritanceInfo :=
  .bind fun _ => .bind fun _ => .bind fun _ => .bind fun _ => .bind fun _ => .bind fun _ => .bind fun _ =>
    .bind fun _ => .bind fun _ => .bind fun _ => .bind fun _ => .bind fun _ => .bind fun _ => .pure trivial

theorem local_readCommandBufferBeginInfo : Local readCommandBufferBeginInfo :=
  .bind fun _ => .bind fun _ => .bind fun _ => .bind fun _ => .bind fun _ => .bind fun _ =>
    .ite (.pure ⟨trivial, trivial⟩)
      (.bind fun _ => .bind_of local_readInheritanceInfo fun _ hi => .pure ⟨trivial, hi⟩)

theorem local_readDescriptorUpdateTemplateCreateInfo : Local readDescriptorUpdateTemplateCreateInfo :=
  .bind fun _ => .bind fun _ => .bind fun _ => .bind fun _ => .bind fun _ => .bind fun _ =>
    .bind_of (local_array (local_plain fun _ => trivial) _ 32) fun _ hentries =>
    .bind fun _ => .bind fun _ => .bind fun _ => .bind fun _ => .bind fun _ => .bind fun _ => .bind fun _ =>
    .bind fun _ => .pure ⟨trivial, hentries⟩

theorem local_readDependencyInfo : Local readDependencyInfo :=
  .bind fun _ =>
    .bind_of (local_readBacked (.bind fun _ => .pure trivial) 32 48) fun ⟨_, _⟩ hmemory =>
    .bind_of (local_readBacked (.bind fun _ => .bind fun _ => .bind fun _ => .bind fun _ => .bind fun _ =>
      .bind fun _ => .pure trivial) 64 80) fun ⟨_, _⟩ hbuffers =>
    .bind_of (local_readBacked (.bind fun _ => .bind fun _ => .bind fun _ => .bind fun _ => .bind fun _ =>
      .bind fun _ => .pure trivial) 76 96) fun ⟨_, _⟩ himages =>
    .bind fun _ => .pure ⟨trivial, hmemory, hbuffers, himages⟩

theorem local_readSemaphoreSubmitInfo : Local readSemaphoreSubmitInfo :=
  .bind fun _ => .bind fun _ => .bind fun _ => .bind fun _ => .pure trivial

theorem local_readSubmitInfo2 : Local readSubmitInfo2 :=
  .bind fun _ =>
    .bind_of (local_readBacked local_readSemaphoreSubmitInfo 28 48) fun ⟨_, _⟩ hwaits =>
    .bind_of (local_readBacked (.bind fun _ => .bind fun _ => .bind fun _ => .bind fun _ => .pure trivial) 12 32)
      fun ⟨_, _⟩ hcommandBuffers =>
    .bind_of (local_readBacked local_readSemaphoreSubmitInfo 28 48) fun ⟨_, _⟩ hsignals =>
    .bind fun _ => .pure ⟨trivial, hwaits, hcommandBuffers, hsignals⟩

theorem local_readImageViewCreateInfo : Local readImageViewCreateInfo :=
  .bind fun _ => .bind_of (local_readPnextChain _) fun _ hnext => .bind fun _ => .pure hnext

theorem local_readBufferCreateInfo : Local readBufferCreateInfo :=
  .bind fun _ => .bind_of (local_readPnextChain _) fun _ hnext =>
    .bind_of (local_readPodArray 4 _) fun _ hindices => .pure ⟨hnext, hindices⟩

theorem local_readImageCreateInfo : Local readImageCreateInfo :=
  .bind fun _ => .bind_of (local_readPnextChain _) fun _ hnext =>
    .bind_of (local_readPodArray 4 _) fun _ hindices => .pure ⟨hnext, hindices⟩

theorem local_readBufferViewCreateInfo : Local readBufferViewCreateInfo :=
  .bind fun _ => .bind fun _ => .bind fun _ => .bind fun _ => .bind fun _ => .bind fun _ => .bind fun _ =>
    .bind fun _ => .bind fun _ => .pure trivial

theorem local_readChained (n gap : ℕ) (context : PNextContext) : Local (readChained n gap context) :=
  .bind fun _ => .bind_of (local_readPnextChain context) fun _ hnext => .pure hnext

theorem local_readQueryPoolCreateInfo : Local readQueryPoolCreateInfo :=
  .bind fun _ => .bind fun _ => .bind fun _ => .bind fun _ => .bind fun _ => .bind fun _ => .bind fun _ =>
    .bind fun _ => .pure trivial

theorem local_readEventCreateInfo : Local readEventCreateInfo :=
  .bind fun _ => .bind fun _ => .bind fun _ => .bind fun _ => .bind fun _ => .pure trivial

theorem local_readSamplerYcbcrConversionCreateInfo : Local readSamplerYcbcrConversionCreateInfo :=
  .bind fun _ => .bind fun _ => .bind fun _ => .bind fun _ => .pure trivial

/-! ### Decoders that leave a `pNext` as it came

Where the words that stay lie in a message: in front of each structure that is copied and keeps its `pNext`, the
decoder is at the bytes that are copied. -/

/-- The word at the place of `pNext` in a structure that starts with `sType` and `pNext`. -/
def pNextWord (image : List UInt8) : UInt64 := (Record.ofBytes [.u32, .pad 4, .u64] image).2.1

/-- Structures that start so. -/
class StartsChain (α : Type) [Raw α] where
  pNext : α → PNext
  ofImage_pNext : ∀ image : List UInt8, pNext (Raw.ofImage image) = PNext.ofBits (pNextWord image)

/-- The `pNext` of the structure that comes next in the message. -/
def peekNext : Decode UInt64 := fun hr s => ((bytes Reader.noBound hr s).1.map pNextWord, s)

/-- The word that a decoder of one structure leaves. -/
def leaves {α : Type} (m : Decode α) : Decode (List UInt64) := do
  let word ← peekNext
  let _ ← m
  return [word]

/-- The words that the elements of an array leave. -/
def leavesArray (count size : ℕ) (m : Decode (List UInt64)) : Decode (List UInt64) := do
  allocate count size
  let words ← times count m
  return words.toList.flatten

/-- Those of a structure that may be absent. -/
def leavesPresent (size : ℕ) (m : Decode (List UInt64)) : Decode (List UInt64) := do
  let present ← u32
  requireOk
  if present = 0 then return []
  else do
    allocate 1 size
    m

/-- Those of `read_opt_pod`. -/
def leavesOptPod (α : Type) [Raw α] : Decode (List UInt64) := do
  let present ← u32
  requireOk
  if present = 0 then return []
  else do
    let word ← peekNext
    let _ ← bytes Reader.noBound
    allocate 1 (Raw.sizeof α)
    return [word]

/-- Each element of `pQueueCreateInfos` leaves one. -/
def deviceCreateInfoLeaves : Decode (List UInt64) := do
  let s ← readRaw VkDeviceCreateInfo
  let _ ← readPnextChain .deviceCreate
  leavesArray s.queueCreateInfoCount.toNat 40 (leaves readDeviceQueueCreateInfo)

/-- Each stage leaves one and so do all states but the one for tessellation. -/
def graphicsPipelineLeaves : Decode (List UInt64) := do
  let s ← readRaw VkGraphicsPipelineCreateInfo
  let stages ← leavesArray s.stageCount.toNat 48 (leaves readPipelineShaderStageCreateInfo)
  let vertexInput ← leavesPresent 48 (leaves readVertexInputState)
  let inputAssembly ← leavesOptPod VkPipelineInputAssemblyStateCreateInfo
  let _ ← readOptPod VkPipelineTessellationStateCreateInfo
  let viewport ← leavesPresent 48 (leaves readViewportState)
  let rasterization ← leavesOptPod VkPipelineRasterizationStateCreateInfo
  let multisample ← leavesPresent 48 (leaves readMultisampleState)
  let depthStencil ← leavesOptPod VkPipelineDepthStencilStateCreateInfo
  let colorBlend ← leavesPresent 56 (leaves readColorBlendState)
  let dynamic ← leavesPresent 32 (leaves readDynamicState)
  return stages ++ vertexInput ++ inputAssembly ++ viewport ++ rasterization ++ multisample ++ depthStencil ++
    colorBlend ++ dynamic

/-- The words of a message that stay in what is decoded from it. -/
def Decoder.leaves (d : Decoder) : Decode (List UInt64) :=
  match d with
  | .deviceCreateInfo => deviceCreateInfoLeaves
  | .graphicsPipelineCreateInfo => graphicsPipelineLeaves
  | .deviceQueueCreateInfo => Marshal.leaves readDeviceQueueCreateInfo
  | .swapchainCreateInfoKHR => Marshal.leaves readSwapchainCreateInfoKHR
  | .pipelineShaderStageCreateInfo => Marshal.leaves readPipelineShaderStageCreateInfo
  | .pipelineLayoutCreateInfo => Marshal.leaves readPipelineLayoutCreateInfo
  | .commandBufferAllocateInfo => Marshal.leaves readCommandBufferAllocateInfo
  | .descriptorSetLayoutCreateInfo => Marshal.leaves readDescriptorSetLayoutCreateInfo
  | .descriptorPoolCreateInfo => Marshal.leaves readDescriptorPoolCreateInfo
  | .descriptorSetAllocateInfo => Marshal.leaves readDescriptorSetAllocateInfo
  | .writeDescriptorSet => Marshal.leaves readWriteDescriptorSet
  | .copyDescriptorSet => Marshal.leaves readCopyDescriptorSet
  | .imageMemoryBarrier => Marshal.leaves readImageMemoryBarrier
  | .bufferMemoryBarrier => Marshal.leaves readBufferMemoryBarrier
  | .memoryBarrier => Marshal.leaves readMemoryBarrier
  | .fenceCreateInfo => Marshal.leaves readFenceCreateInfo
  | .commandPoolCreateInfo => Marshal.leaves readCommandPoolCreateInfo
  | .pipelineCacheCreateInfo => Marshal.leaves readPipelineCacheCreateInfo
  | _ => Pure.pure []

/-- What a run returns is in the arena just if the words are zero that `words` finds in the same place. -/
def Decode.Leaves {α : Type} [HasPointers α] (m : Decode α) (words : Decode (List UInt64)) : Prop :=
  ∀ hr s a s', m hr s = (some a, s') → ∃ ws, words hr s = (some ws, s') ∧ (InArena a ↔ ∀ w ∈ ws, w = 0)

theorem inArena_ofBits {w : UInt64} : (PNext.ofBits w).InArena ↔ w = 0 := by
  unfold PNext.ofBits
  split_ifs with h
  · exact iff_of_true trivial h
  · exact iff_of_false id h

section

variable {α β : Type}

theorem of_readRaw [Raw α] {hr : Resolver} {s s' : DecodeState} {a : α}
    (h : readRaw α hr s = (some a, s')) :
    ∃ buf, bytes Reader.noBound hr s = (some buf, s') ∧ a = Raw.ofImage buf := by
  obtain ⟨buf, t, hbytes, hrest⟩ := of_bind h
  obtain ⟨_, t', hsize, hpure⟩ := of_bind hrest
  obtain ⟨ha, rfl⟩ := Prod.mk.inj hpure
  obtain ⟨-, rfl⟩ := of_require hsize
  exact ⟨buf, hbytes, (Option.some.inj ha).symm⟩

theorem peekNext_of_bytes {hr : Resolver} {s s' : DecodeState} {buf : List UInt8}
    (h : bytes Reader.noBound hr s = (some buf, s')) : peekNext hr s = (some (pNextWord buf), s) := by
  unfold peekNext
  rw [h]
  rfl

/-- A structure that is copied, with everything but `pNext` replaced. -/
theorem leaves_bind [Raw α] [StartsChain α] [HasPointers β] {k : α → Decode β}
    (hk : ∀ a, (k a).Yields fun b => InArena b ↔ (StartsChain.pNext a).InArena) :
    Leaves (readRaw α >>= k) (leaves (readRaw α >>= k)) := by
  intro hr s b s' hrun
  obtain ⟨a, t, hraw, hrest⟩ := of_bind hrun
  obtain ⟨buf, hbytes, rfl⟩ := of_readRaw hraw
  refine ⟨[pNextWord buf], ?_, ?_⟩
  · rw [leaves, Marshal.bind_of (peekNext_of_bytes hbytes), Marshal.bind_of hrun]
    rfl
  · refine (hk _ hr t b s' hrest).trans ?_
    rw [StartsChain.ofImage_pNext, inArena_ofBits, List.forall_mem_singleton]

/-- A structure that is copied, and that is all. -/
theorem leaves_readRaw [Raw α] [StartsChain α] [HasPointers α]
    (h : ∀ a : α, InArena a ↔ (StartsChain.pNext a).InArena) : Leaves (readRaw α) (leaves (readRaw α)) := by
  intro hr s a s' hrun
  obtain ⟨buf, hbytes, rfl⟩ := of_readRaw hrun
  refine ⟨[pNextWord buf], ?_, ?_⟩
  · rw [leaves, Marshal.bind_of (peekNext_of_bytes hbytes), Marshal.bind_of hrun]
    rfl
  · rw [h, StartsChain.ofImage_pNext, inArena_ofBits, List.forall_mem_singleton]

variable [HasPointers α] {m : Decode α} {words : Decode (List UInt64)}

theorem leaves_times (h : Leaves m words) (n : ℕ) {hr : Resolver} {s s' : DecodeState} {v : Elements α n}
    (hrun : times n m hr s = (some v, s')) :
    ∃ wss, times n words hr s = (some wss, s') ∧ (InArena v ↔ ∀ w ∈ wss.toList.flatten, w = 0) := by
  induction n generalizing s with
  | zero =>
    obtain ⟨hv, rfl⟩ := Prod.mk.inj hrun
    obtain rfl := Option.some.inj hv
    exact ⟨List.Vector.nil, rfl, iff_of_true (fun a ha => absurd ha List.not_mem_nil)
      fun w hw => absurd hw List.not_mem_nil⟩
  | succ n ih =>
    obtain ⟨a, t, ha, hrun⟩ := of_bind hrun
    obtain ⟨rest, t', hrest, hrun⟩ := of_bind hrun
    obtain ⟨hv, rfl⟩ := Prod.mk.inj hrun
    obtain rfl := Option.some.inj hv
    obtain ⟨ws, hws, hfirst⟩ := h hr s a t ha
    obtain ⟨wss, hwss, hothers⟩ := ih hrest
    refine ⟨ws ::ᵥ wss, ?_, ?_⟩
    · rw [times, Marshal.bind_of hws, Marshal.bind_of hwss]
      rfl
    · rw [List.Vector.toList_cons, List.flatten_cons, List.forall_mem_append, ← hfirst, ← hothers]
      exact List.forall_mem_cons

theorem leaves_array (h : Leaves m words) (count size : ℕ) :
    Leaves (array count size m) (leavesArray count size words) := by
  intro hr s p s' hrun
  obtain ⟨u, t, hallocate, hrest⟩ := of_bind hrun
  obtain ⟨v, t', htimes, hpure⟩ := of_bind hrest
  obtain ⟨hp, rfl⟩ := Prod.mk.inj hpure
  obtain rfl := Option.some.inj hp
  obtain ⟨wss, hwss, hiff⟩ := leaves_times h count htimes
  refine ⟨wss.toList.flatten, ?_, ?_⟩
  · rw [leavesArray, Marshal.bind_of hallocate, Marshal.bind_of hwss]
    rfl
  · by_cases hcount : count = 0
    · subst hcount
      have hnone : wss.toList = [] := List.length_eq_zero_iff.1 wss.toList_length
      rw [if_pos rfl, hnone]
      exact iff_of_true trivial fun w hw => absurd hw List.not_mem_nil
    · rw [if_neg hcount]
      exact hiff

theorem leaves_readPresent (h : Leaves m words) (size : ℕ) :
    Leaves (readPresent size m) (leavesPresent size words) := by
  intro hr s p s' hrun
  obtain ⟨present, t, hpresent, hrest⟩ := of_bind hrun
  obtain ⟨u, t', hok, hbranch⟩ := of_bind hrest
  by_cases hzero : present = 0
  · rw [if_pos hzero] at hbranch
    obtain ⟨hp, rfl⟩ := Prod.mk.inj hbranch
    obtain rfl := Option.some.inj hp
    refine ⟨[], ?_, iff_of_true trivial fun w hw => absurd hw List.not_mem_nil⟩
    rw [leavesPresent, Marshal.bind_of hpresent, Marshal.bind_of hok, if_pos hzero]
    rfl
  · rw [if_neg hzero] at hbranch
    obtain ⟨u', t₁, hallocate, hrest⟩ := of_bind hbranch
    obtain ⟨a, t₂, ha, hpure⟩ := of_bind hrest
    obtain ⟨hp, rfl⟩ := Prod.mk.inj hpure
    obtain rfl := Option.some.inj hp
    obtain ⟨ws, hws, hiff⟩ := h hr t₁ a t₂ ha
    refine ⟨ws, ?_, hiff⟩
    rw [leavesPresent, Marshal.bind_of hpresent, Marshal.bind_of hok, if_neg hzero, Marshal.bind_of hallocate]
    exact hws

theorem leaves_readOptPod [Raw α] [StartsChain α] (h : ∀ a : α, InArena a ↔ (StartsChain.pNext a).InArena) :
    Leaves (readOptPod α) (leavesOptPod α) := by
  intro hr s p s' hrun
  obtain ⟨present, t, hpresent, hrest⟩ := of_bind hrun
  obtain ⟨u, t', hok, hbranch⟩ := of_bind hrest
  by_cases hzero : present = 0
  · rw [if_pos hzero] at hbranch
    obtain ⟨hp, rfl⟩ := Prod.mk.inj hbranch
    obtain rfl := Option.some.inj hp
    refine ⟨[], ?_, iff_of_true trivial fun w hw => absurd hw List.not_mem_nil⟩
    rw [leavesOptPod, Marshal.bind_of hpresent, Marshal.bind_of hok, if_pos hzero]
    rfl
  · rw [if_neg hzero] at hbranch
    obtain ⟨buf, t₁, hbytes, hrest⟩ := of_bind hbranch
    obtain ⟨u₁, t₂, hsize, hrest'⟩ := of_bind hrest
    obtain ⟨u₂, t₃, hallocate, hpure⟩ := of_bind hrest'
    obtain ⟨hp, rfl⟩ := Prod.mk.inj hpure
    obtain rfl := Option.some.inj hp
    obtain ⟨-, rfl⟩ := of_require hsize
    refine ⟨[pNextWord buf], ?_, ?_⟩
    · rw [leavesOptPod, Marshal.bind_of hpresent, Marshal.bind_of hok, if_neg hzero,
        Marshal.bind_of (peekNext_of_bytes hbytes), Marshal.bind_of hbytes, Marshal.bind_of hallocate]
      rfl
    · refine (h _).trans ?_
      rw [StartsChain.ofImage_pNext, inArena_ofBits, List.forall_mem_singleton]

end

instance : StartsChain VkDeviceQueueCreateInfo := ⟨fun s => s.pNext, fun _ => rfl⟩

instance : StartsChain VkSwapchainCreateInfoKHR := ⟨fun s => s.pNext, fun _ => rfl⟩

instance : StartsChain VkPipelineShaderStageCreateInfo := ⟨fun s => s.pNext, fun _ => rfl⟩

instance : StartsChain VkPipelineVertexInputStateCreateInfo := ⟨fun s => s.pNext, fun _ => rfl⟩

instance (n gap : ℕ) : StartsChain (PlainState n gap) := ⟨fun s => s.pNext, fun _ => rfl⟩

instance : StartsChain VkPipelineViewportStateCreateInfo := ⟨fun s => s.pNext, fun _ => rfl⟩

instance : StartsChain VkPipelineMultisampleStateCreateInfo := ⟨fun s => s.pNext, fun _ => rfl⟩

instance : StartsChain VkPipelineColorBlendStateCreateInfo := ⟨fun s => s.pNext, fun _ => rfl⟩

instance : StartsChain VkPipelineDynamicStateCreateInfo := ⟨fun s => s.pNext, fun _ => rfl⟩

instance : StartsChain VkPipelineLayoutCreateInfo := ⟨fun s => s.pNext, fun _ => rfl⟩

instance : StartsChain VkPipelineCacheCreateInfo := ⟨fun s => s.pNext, fun _ => rfl⟩

instance : StartsChain VkCommandBufferAllocateInfo := ⟨fun s => s.pNext, fun _ => rfl⟩

instance : StartsChain VkDescriptorSetLayoutCreateInfo := ⟨fun s => s.pNext, fun _ => rfl⟩

instance : StartsChain VkDescriptorPoolCreateInfo := ⟨fun s => s.pNext, fun _ => rfl⟩

instance : StartsChain VkDescriptorSetAllocateInfo := ⟨fun s => s.pNext, fun _ => rfl⟩

instance : StartsChain VkWriteDescriptorSet := ⟨fun s => s.pNext, fun _ => rfl⟩

instance : StartsChain VkCopyDescriptorSet := ⟨fun s => s.pNext, fun _ => rfl⟩

instance : StartsChain VkImageMemoryBarrier := ⟨fun s => s.pNext, fun _ => rfl⟩

instance : StartsChain VkBufferMemoryBarrier := ⟨fun s => s.pNext, fun _ => rfl⟩

theorem leaves_readDeviceQueueCreateInfo : Leaves readDeviceQueueCreateInfo (leaves readDeviceQueueCreateInfo) :=
  leaves_bind fun _ => .bind_of (local_readPodArray 4 _) fun _ hpriorities => .pure (and_iff_left hpriorities)

theorem leaves_readSwapchainCreateInfoKHR :
    Leaves readSwapchainCreateInfoKHR (leaves readSwapchainCreateInfoKHR) :=
  leaves_bind fun _ => .bind_of (local_readPodArray 4 _) fun _ hindices => .bind fun _ => .bind fun _ =>
    .pure (and_iff_left hindices)

theorem leaves_readPipelineShaderStageCreateInfo :
    Leaves readPipelineShaderStageCreateInfo (leaves readPipelineShaderStageCreateInfo) :=
  leaves_bind fun _ => .bind_of local_readString fun _ hname =>
    .bind_of (local_readPresent local_readSpecializationInfo 32) fun _ hinfo => .bind fun _ => .bind fun _ =>
    .pure (and_iff_left ⟨hname, hinfo⟩)

theorem leaves_readVertexInputState : Leaves readVertexInputState (leaves readVertexInputState) :=
  leaves_bind fun _ => .bind_of (local_readPodArray 12 _) fun _ hbindings =>
    .bind_of (local_readPodArray 16 _) fun _ hattributes => .pure (and_iff_left ⟨hbindings, hattributes⟩)

theorem leaves_readViewportState : Leaves readViewportState (leaves readViewportState) :=
  leaves_bind fun _ => .bind_of (local_readOptPodArray 24 _) fun _ hviewports =>
    .bind_of (local_readOptPodArray 16 _) fun _ hscissors => .pure (and_iff_left ⟨hviewports, hscissors⟩)

theorem leaves_readMultisampleState : Leaves readMultisampleState (leaves readMultisampleState) :=
  leaves_bind fun _ => .bind fun _ => .bind_of (local_readOptPodArray 4 _) fun _ hmask =>
    .pure (and_iff_left hmask)

theorem leaves_readColorBlendState : Leaves readColorBlendState (leaves readColorBlendState) :=
  leaves_bind fun _ => .bind_of (local_readPodArray 32 _) fun _ hattachments => .pure (and_iff_left hattachments)

theorem leaves_readDynamicState : Leaves readDynamicState (leaves readDynamicState) :=
  leaves_bind fun _ => .bind_of (local_readPodArray 4 _) fun _ hstates => .pure (and_iff_left hstates)

theorem leaves_readPipelineLayoutCreateInfo :
    Leaves readPipelineLayoutCreateInfo (leaves readPipelineLayoutCreateInfo) :=
  leaves_bind fun _ => .bind_of (local_readHandleArray .descriptorSetLayout _) fun _ hlayouts =>
    .bind_of (local_readPodArray 12 _) fun _ hranges => .pure (and_iff_left ⟨hlayouts, hranges⟩)

theorem leaves_readPipelineCacheCreateInfo :
    Leaves readPipelineCacheCreateInfo (leaves readPipelineCacheCreateInfo) :=
  leaves_bind fun _ => .bind_of (local_readBytesToArena _) fun _ hdata => .pure (and_iff_left hdata)

theorem leaves_readCommandBufferAllocateInfo :
    Leaves readCommandBufferAllocateInfo (leaves readCommandBufferAllocateInfo) :=
  leaves_bind fun _ => .bind fun _ => .bind fun _ => .pure Iff.rfl

theorem local_readSetLayoutBinding : Local readSetLayoutBinding :=
  .bind fun _ => .bind fun _ => .bind fun _ =>
    .bind_of (.ite (local_readHandleArray .sampler _) (.pure trivial)) fun _ hsamplers => .pure hsamplers

theorem leaves_readDescriptorSetLayoutCreateInfo :
    Leaves readDescriptorSetLayoutCreateInfo (leaves readDescriptorSetLayoutCreateInfo) :=
  leaves_bind fun _ => .bind fun _ => .bind fun _ =>
    .bind_of (local_array local_readSetLayoutBinding _ 24) fun _ hbindings => .pure (and_iff_left hbindings)

theorem leaves_readDescriptorPoolCreateInfo :
    Leaves readDescriptorPoolCreateInfo (leaves readDescriptorPoolCreateInfo) :=
  leaves_bind fun _ => .bind_of (local_readPodArray 8 _) fun _ hsizes => .pure (and_iff_left hsizes)

theorem leaves_readDescriptorSetAllocateInfo :
    Leaves readDescriptorSetAllocateInfo (leaves readDescriptorSetAllocateInfo) :=
  leaves_bind fun _ => .bind fun _ => .bind_of (local_readHandleArray .descriptorSetLayout _) fun _ hlayouts =>
    .bind fun _ => .bind fun _ => .bind fun _ => .pure (and_iff_left hlayouts)

theorem leaves_readWriteDescriptorSet : Leaves readWriteDescriptorSet (leaves readWriteDescriptorSet) :=
  leaves_bind fun _ => .bind fun _ => .bind fun _ => .bind fun _ => .bind fun _ => .bind fun _ =>
    .bind_of (.ite (local_array (local_plain fun _ => trivial) _ 24) (.pure trivial)) fun _ himages =>
    .bind_of (.ite (local_array (local_plain fun _ => trivial) _ 24) (.pure trivial)) fun _ hbuffers =>
    .bind_of (.ite (local_array (local_plain fun _ => trivial) _ 8) (.pure trivial)) fun _ hviews =>
    .bind fun _ => .bind fun _ => .pure (and_iff_left ⟨himages, hbuffers, hviews⟩)

theorem leaves_readCopyDescriptorSet : Leaves readCopyDescriptorSet (leaves readCopyDescriptorSet) :=
  leaves_bind fun _ => .bind fun _ => .bind fun _ => .bind fun _ => .pure Iff.rfl

theorem leaves_readBufferMemoryBarrier : Leaves readBufferMemoryBarrier (leaves readBufferMemoryBarrier) :=
  leaves_bind fun _ => .bind fun _ => .pure Iff.rfl

theorem leaves_readImageMemoryBarrier : Leaves readImageMemoryBarrier (leaves readImageMemoryBarrier) :=
  leaves_bind fun _ => .bind fun _ => .pure Iff.rfl

theorem leaves_readMemoryBarrier : Leaves readMemoryBarrier (leaves readMemoryBarrier) :=
  leaves_readRaw fun _ => Iff.rfl

theorem leaves_readFenceCreateInfo : Leaves readFenceCreateInfo (leaves readFenceCreateInfo) :=
  leaves_readRaw fun _ => Iff.rfl

theorem leaves_readCommandPoolCreateInfo : Leaves readCommandPoolCreateInfo (leaves readCommandPoolCreateInfo) :=
  leaves_readRaw fun _ => Iff.rfl

/-- As `Leaves`, but wherever the two runs end. -/
def Decode.Keeps {α : Type} [HasPointers α] (m : Decode α) (words : Decode (List UInt64)) : Prop :=
  ∀ hr s a s', m hr s = (some a, s') → ∃ ws, (words hr s).1 = some ws ∧ (InArena a ↔ ∀ w ∈ ws, w = 0)

/-- Runs that succeed leave the state as it was. -/
def Decode.Guard {α : Type} (m : Decode α) : Prop := ∀ hr s a s', m hr s = (some a, s') → s' = s

theorem guard_requireOk : Guard requireOk := fun _ _ _ _ h => (Prod.mk.inj h).2.symm

theorem guard_remaining : Guard remaining := fun _ _ _ _ h => (Prod.mk.inj h).2.symm

theorem guard_require (p : Prop) [Decidable p] : Guard (require p) := fun _ _ _ _ h => (of_require h).2

namespace Decode.Keeps

variable {α β : Type} [HasPointers α] [HasPointers β] {m : Decode β} {k : β → Decode α}
  {words : Decode (List UInt64)}

theorem of_leaves {m : Decode α} (h : Leaves m words) : Keeps m words := by
  intro hr s a s' hrun
  obtain ⟨ws, hws, hiff⟩ := h hr s a s' hrun
  exact ⟨ws, congrArg Prod.fst hws, hiff⟩

theorem of_yields {m : Decode α} {ws : List UInt64} (h : m.Yields fun a => InArena a ↔ ∀ w ∈ ws, w = 0) :
    Keeps m (Pure.pure ws) := fun hr s a s' hrun => ⟨ws, rfl, h hr s a s' hrun⟩

theorem of_local {m : Decode α} (h : Local m) : Keeps m (Pure.pure []) :=
  of_yields fun hr s a s' hrun => iff_of_true (h hr s a s' hrun) fun _ hw => absurd hw List.not_mem_nil

theorem guard {γ : Type} {m : Decode γ} {k : γ → Decode α} (hm : Guard m) (hk : ∀ c, Keeps (k c) words) :
    Keeps (m >>= k) words := by
  intro hr s a s' hrun
  obtain ⟨c, t, hfirst, hrest⟩ := of_bind hrun
  obtain rfl := hm hr s c t hfirst
  exact hk c hr t a s' hrest

/-- Both read the same. -/
theorem same {γ : Type} {m : Decode γ} {P : γ → Prop} (hm : m.Yields P) {k : γ → Decode α}
    {words : γ → Decode (List UInt64)} (hk : ∀ c, P c → Keeps (k c) (words c)) :
    Keeps (m >>= k) (m >>= words) := by
  intro hr s a s' hrun
  obtain ⟨c, t, hfirst, hrest⟩ := of_bind hrun
  rw [Marshal.bind_of hfirst]
  exact hk c (hm hr s c t hfirst) hr t a s' hrest

theorem bind {words' : List UInt64 → Decode (List UInt64)} (hm : Leaves m words)
    (hk : ∀ b ws, (InArena b ↔ ∀ w ∈ ws, w = 0) → Keeps (k b) (words' ws)) :
    Keeps (m >>= k) (words >>= words') := by
  intro hr s a s' hrun
  obtain ⟨b, t, hfirst, hrest⟩ := of_bind hrun
  obtain ⟨ws, hws, hiff⟩ := hm hr s b t hfirst
  rw [Marshal.bind_of hws]
  exact hk b ws hiff hr t a s' hrest

/-- What comes after the first part adds nothing. -/
theorem last (hm : Leaves m words) (hk : ∀ b, (k b).Yields fun a => InArena a ↔ InArena b) :
    Keeps (m >>= k) words := by
  intro hr s a s' hrun
  obtain ⟨b, t, hfirst, hrest⟩ := of_bind hrun
  obtain ⟨ws, hws, hiff⟩ := hm hr s b t hfirst
  exact ⟨ws, congrArg Prod.fst hws, (hk b hr t a s' hrest).trans hiff⟩

end Decode.Keeps

theorem yields_any {α : Type} (m : Decode α) : m.Yields fun _ => True := fun _ _ _ _ _ => trivial

/-- The queues keep theirs. -/
theorem keeps_readDeviceCreateInfo : Keeps readDeviceCreateInfo deviceCreateInfoLeaves :=
  .same (yields_any _) fun _ _ => .same (local_readPnextChain _) fun _ hnext => .guard (guard_require _) fun _ =>
    .last (leaves_array leaves_readDeviceQueueCreateInfo _ 40) fun _ =>
    .bind_of (local_readStringArray _) fun _ hlayers => .bind_of (local_readStringArray _) fun _ hextensions =>
    .bind_of (local_readOptPod 220) fun _ hfeatures =>
    .pure ((and_iff_right hnext).trans (and_iff_left ⟨hlayers, hextensions, hfeatures⟩))

theorem yields_readOptPod (α : Type) [Raw α] : (readOptPod α).Yields fun p => p = .null ∨ ∃ a, p = .arena a :=
  .bind fun _ => .bind fun _ =>
    .ite (.pure (.inl rfl)) (.bind fun _ => .bind fun _ => .bind fun _ => .pure (.inr ⟨_, rfl⟩))

/-- Whatever came with the bytes of a tessellation state is replaced. -/
theorem local_readTessellationChain {p : Ptr VkPipelineTessellationStateCreateInfo}
    (h : p = .null ∨ ∃ t, p = .arena t) : Local (readTessellationChain p) := by
  rcases h with rfl | ⟨t, rfl⟩
  · exact .pure trivial
  · exact .bind_of (local_readPnextChain _) fun _ hnext => .pure hnext

/-- The stages keep theirs, and so do all states that are there but the one for tessellation. -/
theorem keeps_readGraphicsPipelineCreateInfo : Keeps readGraphicsPipelineCreateInfo graphicsPipelineLeaves := by
  refine .same (yields_any _) fun s _ => .guard guard_requireOk fun _ => .guard guard_remaining fun _ =>
    .guard (guard_require _) fun _ => ?_
  refine .bind (leaves_array leaves_readPipelineShaderStageCreateInfo _ 48) fun pStages _ hstages => ?_
  refine .bind (leaves_readPresent leaves_readVertexInputState 48) fun _ _ hvertexInput => ?_
  refine .bind (leaves_readOptPod fun _ => Iff.rfl) fun _ _ hinputAssembly => ?_
  refine .same (yields_readOptPod _) fun _ htessellation => ?_
  refine .bind (leaves_readPresent leaves_readViewportState 48) fun _ _ hviewport => ?_
  refine .bind (leaves_readOptPod fun _ => Iff.rfl) fun _ _ hrasterization => ?_
  refine .bind (leaves_readPresent leaves_readMultisampleState 48) fun _ _ hmultisample => ?_
  refine .bind (leaves_readOptPod fun _ => Iff.rfl) fun _ _ hdepthStencil => ?_
  refine .bind (leaves_readPresent leaves_readColorBlendState 56) fun _ _ hcolorBlend => ?_
  refine .bind (leaves_readPresent leaves_readDynamicState 32) fun _ _ hdynamic => ?_
  refine .of_yields (.bind_of (local_readPnextChain _) fun _ hnext =>
    .bind_of (local_readTessellationChain htessellation) fun _ htessellation =>
    .bind fun _ => .bind fun _ => .bind fun _ => .bind fun _ => .pure ?_)
  simp only [List.forall_mem_append, ← hstages, ← hvertexInput, ← hinputAssembly, ← hviewport,
    ← hrasterization, ← hmultisample, ← hdepthStencil, ← hcolorBlend, ← hdynamic]
  constructor
  · rintro ⟨-, hs, hv, hi, -, hp, hr, hm, hd, hc, hy⟩
    exact ⟨⟨⟨⟨⟨⟨⟨⟨hs, hv⟩, hi⟩, hp⟩, hr⟩, hm⟩, hd⟩, hc⟩, hy⟩
  · rintro ⟨⟨⟨⟨⟨⟨⟨⟨hs, hv⟩, hi⟩, hp⟩, hr⟩, hm⟩, hd⟩, hc⟩, hy⟩
    exact ⟨hnext, hs, hv, hi, htessellation, hp, hr, hm, hd, hc, hy⟩

/-- Only its own `pNext` comes from the message. -/
theorem yields_readPipelineShaderStageCreateInfo : readPipelineShaderStageCreateInfo.Yields fun s =>
    s.pName.InArena ∧ s.pSpecializationInfo.InArena :=
  .bind fun _ => .bind_of local_readString fun _ hname =>
    .bind_of (local_readPresent local_readSpecializationInfo 32) fun _ hinfo => .bind fun _ => .bind fun _ =>
    .pure ⟨hname, hinfo⟩

/-- Both pointers that a copy would keep are set to null. -/
theorem local_readComputePipelineCreateInfo : Local readComputePipelineCreateInfo :=
  .bind fun _ => .bind_of yields_readPipelineShaderStageCreateInfo fun _ hstage => .bind fun _ => .bind fun _ =>
    .bind fun _ => .pure ⟨trivial, trivial, hstage⟩

theorem Decoder.keeps (d : Decoder) : Keeps d.code d.leaves := by
  cases d with
  | deviceCreateInfo => exact keeps_readDeviceCreateInfo
  | graphicsPipelineCreateInfo => exact keeps_readGraphicsPipelineCreateInfo
  | deviceQueueCreateInfo => exact .of_leaves leaves_readDeviceQueueCreateInfo
  | swapchainCreateInfoKHR => exact .of_leaves leaves_readSwapchainCreateInfoKHR
  | pipelineShaderStageCreateInfo => exact .of_leaves leaves_readPipelineShaderStageCreateInfo
  | pipelineLayoutCreateInfo => exact .of_leaves leaves_readPipelineLayoutCreateInfo
  | commandBufferAllocateInfo => exact .of_leaves leaves_readCommandBufferAllocateInfo
  | descriptorSetLayoutCreateInfo => exact .of_leaves leaves_readDescriptorSetLayoutCreateInfo
  | descriptorPoolCreateInfo => exact .of_leaves leaves_readDescriptorPoolCreateInfo
  | descriptorSetAllocateInfo => exact .of_leaves leaves_readDescriptorSetAllocateInfo
  | writeDescriptorSet => exact .of_leaves leaves_readWriteDescriptorSet
  | copyDescriptorSet => exact .of_leaves leaves_readCopyDescriptorSet
  | imageMemoryBarrier => exact .of_leaves leaves_readImageMemoryBarrier
  | bufferMemoryBarrier => exact .of_leaves leaves_readBufferMemoryBarrier
  | memoryBarrier => exact .of_leaves leaves_readMemoryBarrier
  | fenceCreateInfo => exact .of_leaves leaves_readFenceCreateInfo
  | commandPoolCreateInfo => exact .of_leaves leaves_readCommandPoolCreateInfo
  | pipelineCacheCreateInfo => exact .of_leaves leaves_readPipelineCacheCreateInfo
  | pnextChain context => exact .of_local (local_readPnextChain context)
  | imageViewCreateInfo => exact .of_local local_readImageViewCreateInfo
  | renderPassCreateInfo => exact .of_local local_readRenderPassCreateInfo
  | renderPassCreateInfo2 => exact .of_local local_readRenderPassCreateInfo2
  | shaderModuleCreateInfo => exact .of_local local_readShaderModuleCreateInfo
  | computePipelineCreateInfo => exact .of_local local_readComputePipelineCreateInfo
  | framebufferCreateInfo => exact .of_local local_readFramebufferCreateInfo
  | bufferViewCreateInfo => exact .of_local local_readBufferViewCreateInfo
  | queryPoolCreateInfo => exact .of_local local_readQueryPoolCreateInfo
  | eventCreateInfo => exact .of_local local_readEventCreateInfo
  | commandBufferBeginInfo => exact .of_local local_readCommandBufferBeginInfo
  | renderPassBeginInfo => exact .of_local local_readRenderPassBeginInfo
  | subpassBeginInfo => exact .of_local local_readSubpassBeginInfo
  | subpassEndInfo => exact .of_local local_readSubpassEndInfo
  | descriptorUpdateTemplateCreateInfo => exact .of_local local_readDescriptorUpdateTemplateCreateInfo
  | samplerYcbcrConversionCreateInfo => exact .of_local local_readSamplerYcbcrConversionCreateInfo
  | dependencyInfo => exact .of_local local_readDependencyInfo
  | submitInfo2 => exact .of_local local_readSubmitInfo2
  | bufferCreateInfo => exact .of_local local_readBufferCreateInfo
  | imageCreateInfo => exact .of_local local_readImageCreateInfo
  | memoryAllocateInfo => exact .of_local (local_readChained _ _ _)
  | samplerCreateInfo => exact .of_local (local_readChained _ _ _)
  | semaphoreCreateInfo => exact .of_local (local_readChained _ _ _)
  | bufferImageCopy => exact .of_local (local_plain fun _ => trivial)
  | imageCopy => exact .of_local (local_plain fun _ => trivial)
  | imageBlit => exact .of_local (local_plain fun _ => trivial)
  | bufferCopy => exact .of_local (local_plain fun _ => trivial)
  | viewport => exact .of_local (local_plain fun _ => trivial)
  | rect2D => exact .of_local (local_plain fun _ => trivial)
  | memoryRequirements => exact .of_local (local_plain fun _ => trivial)
  | subresourceLayout => exact .of_local (local_plain fun _ => trivial)
  | surfaceCapabilitiesKHR => exact .of_local (local_plain fun _ => trivial)
  | extensionProperties => exact .of_local (local_plain fun _ => trivial)

/-- What is decoded from a message, if it is accepted. -/
def Decoder.result (d : Decoder) (hr : Resolver) (message : List UInt8) : Option d.Result :=
  (d.code hr { reader := ⟨message, false⟩ }).1

/-- What `read_pnext_output_topology` makes of it. -/
def outputTopology (context : PNextContext) (hr : Resolver) (message : List UInt8) : Option (List Node) :=
  (readPnextOutputTopology context hr { reader := ⟨message, false⟩ }).1

/-- The words of the message that stay. -/
def Decoder.kept (d : Decoder) (hr : Resolver) (message : List UInt8) : List UInt64 :=
  (d.leaves hr { reader := ⟨message, false⟩ }).1.getD []

/-- Of what is decoded from any message, all pointers are null or lead to the arena just if the message has
zero at every `pNext` that is copied and not replaced. -/
theorem decoded_pointers (hr : Resolver) (message : List UInt8) :
    (∀ (d : Decoder) (v : d.Result), d.result hr message = some v →
      (InArena v ↔ ∀ w ∈ d.kept hr message, w = 0)) ∧
    ∀ context nodes, outputTopology context hr message = some nodes → InArena nodes := by
  constructor
  · intro d v hv
    obtain ⟨ws, hws, hiff⟩ := d.keeps hr _ v _ (Prod.ext hv rfl)
    rw [Decoder.kept, hws]
    exact hiff
  · intro context nodes hnodes
    exact local_readPnextOutputTopology context hr _ nodes _ (Prod.ext hnodes rfl)

/-- A `VkFenceCreateInfo` as it goes over the wire. -/
def fenceMessage (pNext : UInt64) : List UInt8 :=
  Writer.bytes (Record.bytes [.u32, .pad 4, .u64, .u32, .pad 4] (8, pNext, 0, ()) (.zeros _))

/-- A pointer of the client's own, and none. -/
theorem decoded_pointers_fences :
    (∃ v, Decoder.fenceCreateInfo.result (fun _ id => id) (fenceMessage 0x4141414141414141) = some v ∧ ¬ InArena v) ∧
      ∃ v, Decoder.fenceCreateInfo.result (fun _ id => id) (fenceMessage 0) = some v ∧ InArena v := by
  have hiff : ∀ pNext v, Decoder.fenceCreateInfo.result (fun _ id => id) (fenceMessage pNext) = some v →
      (InArena v ↔ ∀ w ∈ Decoder.fenceCreateInfo.kept (fun _ id => id) (fenceMessage pNext), w = 0) :=
    fun pNext v => (decoded_pointers (fun _ id => id) (fenceMessage pNext)).1 .fenceCreateInfo v
  have htaken : Decoder.fenceCreateInfo.kept (fun _ id => id) (fenceMessage 0x4141414141414141) =
      [0x4141414141414141] := rfl
  refine ⟨⟨_, rfl, fun h => ?_⟩, _, rfl, (hiff 0 _ rfl).2 (List.forall_mem_singleton.2 rfl)⟩
  have hzero := (hiff 0x4141414141414141 _ rfl).1 h
  rw [htaken] at hzero
  cases hzero _ List.mem_cons_self

/-- The client decides what the driver finds at the end of `pNext`. -/
theorem fence_pNext_taken : ¬ ∀ (hr : Resolver) (message : List UInt8) (d : Decoder) (v : d.Result),
    d.result hr message = some v → InArena v := by
  intro h
  have hkept : (StartsChain.pNext (Raw.ofImage ((fenceMessage 0x4141414141414141).drop 4) :
      VkFenceCreateInfo)).InArena :=
    h (fun _ id => id) (fenceMessage 0x4141414141414141) .fenceCreateInfo _ rfl
  rw [StartsChain.ofImage_pNext, inArena_ofBits] at hkept
  have hword : pNextWord ((fenceMessage 0x4141414141414141).drop 4) = 0x4141414141414141 := rfl
  rw [hword] at hkept
  cases hkept

end VkRemote.Marshal
