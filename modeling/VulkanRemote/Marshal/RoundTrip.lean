import VulkanRemote.Marshal.Addresses
import VulkanRemote.Marshal.QueueRequests

/-! Every structure that an encoder takes arrives as itself: with the server's handles, and with its pointers into
the arena. -/

namespace VkRemote.Marshal
open Lib Wire Decode

namespace CreateInfo

/-- The decoder makes sure that nothing comes after the bytes. -/
def toEnd : CreateInfo → Bool
  | shaderModuleCreateInfo _ => true
  | _ => false

/-- What has to be in order with a structure beyond what its encoder looks at: pointers that lead somewhere,
counted arrays that are there and no longer than `kMaxArrayElements`, byte arrays whose length fits the wire, and
what the decoder asks of its type and its chain. -/
def Whole : CreateInfo → Prop
  | pnextChain _ head => head.Whole
  | deviceQueueCreateInfo s => s.Whole
  | deviceCreateInfo s => s.Whole
  | swapchainCreateInfoKHR s => s.Whole
  | imageViewCreateInfo s => s.pNext.Whole
  | renderPassCreateInfo s => s.Whole
  | renderPassCreateInfo2 s => s.Whole
  | shaderModuleCreateInfo s => s.Whole
  | pipelineShaderStageCreateInfo s => s.Whole
  | pipelineLayoutCreateInfo s => s.Whole
  | graphicsPipelineCreateInfo s => s.Whole
  | computePipelineCreateInfo s => s.stage.Whole
  | framebufferCreateInfo s => s.Whole
  | queryPoolCreateInfo s => s.Whole
  | eventCreateInfo s => s.Whole
  | commandBufferAllocateInfo s => s.commandBufferCount.toNat ≤ kMaxArrayElements
  | commandBufferBeginInfo s => s.Whole
  | renderPassBeginInfo s => s.Whole
  | subpassBeginInfo s => s.pNext.Whole
  | subpassEndInfo s => s.pNext.Whole
  | descriptorSetLayoutCreateInfo s => s.Whole
  | descriptorUpdateTemplateCreateInfo s => s.pDescriptorUpdateEntries.Real
  | samplerYcbcrConversionCreateInfo s => s.sType = samplerYcbcrConversionCreateInfoType
  | descriptorPoolCreateInfo s => s.Whole
  | descriptorSetAllocateInfo s => s.Whole
  | writeDescriptorSet s => s.Whole
  | dependencyInfo s => s.Whole
  | submitInfo2 s => s.Whole
  | bufferCreateInfo s => s.Whole
  | imageCreateInfo s => s.Whole
  | memoryAllocateInfo s => s.pNext.Sent .memoryAllocate
  | samplerCreateInfo s => s.pNext.Sent .samplerCreate
  | semaphoreCreateInfo s => s.pNext.Sent .semaphoreCreate
  | pipelineCacheCreateInfo s => s.Whole
  | extensionProperties s => s.extensionName.length < kMaxExtensionNameSize
  | _ => True

section

variable (commandBufferId : UInt64 → UInt64) (hr : Resolver)

/-- The handles that the decoder does not do without resolve. -/
def Finds : CreateInfo → Prop
  | pipelineShaderStageCreateInfo s => s.Finds hr
  | graphicsPipelineCreateInfo s => s.Finds hr
  | computePipelineCreateInfo s => s.Finds hr
  | bufferViewCreateInfo s => hr.Knows .buffer s.buffer
  | commandBufferBeginInfo s => s.Finds hr
  | descriptorSetAllocateInfo s => s.Finds hr
  | writeDescriptorSet s => s.Finds hr
  | copyDescriptorSet s => s.Finds hr
  | dependencyInfo s => s.Finds hr
  | submitInfo2 s => s.Finds commandBufferId hr
  | _ => True

/-- The structure as it arrives. -/
def received : (c : CreateInfo) → c.decoder.Result
  | pnextChain context head => head.received context hr
  | deviceQueueCreateInfo s => s.received
  | deviceCreateInfo s => s.received hr
  | swapchainCreateInfoKHR s => s.received hr
  | imageViewCreateInfo s => s.received hr
  | renderPassCreateInfo s => s.received hr
  | renderPassCreateInfo2 s => s.received hr
  | shaderModuleCreateInfo s => s.received hr
  | pipelineShaderStageCreateInfo s => s.received hr
  | pipelineLayoutCreateInfo s => s.received hr
  | graphicsPipelineCreateInfo s => s.received hr
  | computePipelineCreateInfo s => s.received hr
  | framebufferCreateInfo s => s.received hr
  | bufferViewCreateInfo s => s.received hr
  | queryPoolCreateInfo s => s
  | eventCreateInfo s => s
  | commandBufferAllocateInfo s => s.received hr
  | commandBufferBeginInfo s => s.received hr
  | renderPassBeginInfo s => s.received hr
  | subpassBeginInfo s => s.received hr
  | subpassEndInfo s => s.received hr
  | descriptorSetLayoutCreateInfo s => s.received hr
  | descriptorUpdateTemplateCreateInfo s => s.received hr
  | samplerYcbcrConversionCreateInfo s => s.received
  | descriptorPoolCreateInfo s => s.received
  | descriptorSetAllocateInfo s => s.received hr
  | writeDescriptorSet s => s.received hr
  | copyDescriptorSet s => s.received hr
  | imageMemoryBarrier s => s.received hr
  | bufferMemoryBarrier s => s.received hr
  | memoryBarrier s => s.bare
  | dependencyInfo s => s.received hr
  | submitInfo2 s => s.received commandBufferId hr
  | bufferCreateInfo s => s.received hr
  | imageCreateInfo s => s.received hr
  | memoryAllocateInfo s => s.received .memoryAllocate hr
  | samplerCreateInfo s => s.received .samplerCreate hr
  | fenceCreateInfo s => s.bare
  | semaphoreCreateInfo s => s.received .semaphoreCreate hr
  | commandPoolCreateInfo s => s.bare
  | pipelineCacheCreateInfo s => s.received
  | bufferImageCopy s => s
  | imageCopy s => s
  | imageBlit s => s
  | bufferCopy s => s
  | viewport s => s
  | rect2D s => s
  | memoryRequirements s => s
  | subresourceLayout s => s
  | surfaceCapabilitiesKHR s => s
  | extensionProperties s => s

end

variable {commandBufferId queues : UInt64 → UInt64} {hr : Resolver}

/-- All decoders but one stop where their structure ends. -/
theorem reads_createInfo {c : CreateInfo} {bytes : List UInt8} (hw : c.write commandBufferId = some bytes)
    (h : c.Whole) (hnull : hr.KeepsNull) (hfinds : c.Finds commandBufferId hr) (hopen : c.toEnd = false) :
    Reads c.decoder.code hr bytes (c.received commandBufferId hr) := by
  cases c with
  | pnextChain context head => exact reads_chain hw h
  | deviceQueueCreateInfo s =>
    obtain rfl := Option.some.inj hw
    exact reads_deviceQueueCreateInfo h
  | deviceCreateInfo s => exact reads_deviceCreateInfo hw h
  | swapchainCreateInfoKHR s =>
    obtain rfl := Option.some.inj hw
    exact reads_swapchainCreateInfoKHR h
  | imageViewCreateInfo s => exact reads_imageViewCreateInfo hw h
  | renderPassCreateInfo s => exact reads_renderPassCreateInfo hw h
  | renderPassCreateInfo2 s => exact reads_renderPassCreateInfo2 hw h
  | shaderModuleCreateInfo s => cases hopen
  | pipelineShaderStageCreateInfo s =>
    obtain rfl := Option.some.inj hw
    exact reads_pipelineShaderStageCreateInfo h hfinds
  | pipelineLayoutCreateInfo s =>
    obtain rfl := Option.some.inj hw
    exact reads_pipelineLayoutCreateInfo h
  | graphicsPipelineCreateInfo s => exact reads_graphicsPipelineCreateInfo hw h hfinds
  | computePipelineCreateInfo s =>
    obtain rfl := Option.some.inj hw
    exact reads_computePipelineCreateInfo h hfinds
  | framebufferCreateInfo s => exact reads_framebufferCreateInfo hw h
  | bufferViewCreateInfo s => exact reads_bufferViewCreateInfo hw hfinds
  | queryPoolCreateInfo s =>
    obtain rfl := Option.some.inj hw
    exact reads_queryPoolCreateInfo h
  | eventCreateInfo s =>
    obtain rfl := Option.some.inj hw
    exact reads_eventCreateInfo h
  | commandBufferAllocateInfo s =>
    obtain rfl := Option.some.inj hw
    exact reads_commandBufferAllocateInfo h
  | commandBufferBeginInfo s =>
    obtain rfl := Option.some.inj hw
    exact reads_commandBufferBeginInfo h hfinds
  | renderPassBeginInfo s => exact reads_renderPassBeginInfo hw h
  | subpassBeginInfo s => exact reads_subpassBeginInfo hw h
  | subpassEndInfo s => exact reads_subpassEndInfo hw h
  | descriptorSetLayoutCreateInfo s =>
    obtain rfl := Option.some.inj hw
    exact reads_descriptorSetLayoutCreateInfo h
  | descriptorUpdateTemplateCreateInfo s => exact reads_descriptorUpdateTemplateCreateInfo hw h
  | samplerYcbcrConversionCreateInfo s =>
    obtain rfl := Option.some.inj hw
    exact reads_samplerYcbcrConversionCreateInfo h
  | descriptorPoolCreateInfo s =>
    obtain rfl := Option.some.inj hw
    exact reads_descriptorPoolCreateInfo h
  | descriptorSetAllocateInfo s =>
    obtain rfl := Option.some.inj hw
    exact reads_descriptorSetAllocateInfo h hfinds
  | writeDescriptorSet s => exact reads_writeDescriptorSet hw h hfinds
  | copyDescriptorSet s =>
    obtain rfl := Option.some.inj hw
    exact reads_copyDescriptorSet hfinds
  | imageMemoryBarrier s =>
    obtain rfl := Option.some.inj hw
    exact reads_imageMemoryBarrier
  | bufferMemoryBarrier s =>
    obtain rfl := Option.some.inj hw
    exact reads_bufferMemoryBarrier
  | memoryBarrier s =>
    obtain rfl := Option.some.inj hw
    exact reads_plainState (by decide)
  | dependencyInfo s => exact reads_dependencyInfo hw h hnull hfinds
  | submitInfo2 s => exact reads_submitInfo2 hw h hnull hfinds
  | bufferCreateInfo s =>
    obtain rfl := Option.some.inj hw
    exact reads_bufferCreateInfo h
  | imageCreateInfo s => exact reads_imageCreateInfo hw h
  | memoryAllocateInfo s =>
    obtain rfl := Option.some.inj hw
    exact reads_chained (by decide) h
  | samplerCreateInfo s =>
    obtain rfl := Option.some.inj hw
    exact reads_chained (by decide) h
  | fenceCreateInfo s =>
    obtain rfl := Option.some.inj hw
    exact reads_plainState (by decide)
  | semaphoreCreateInfo s =>
    obtain rfl := Option.some.inj hw
    exact reads_chained (by decide) h
  | commandPoolCreateInfo s =>
    obtain rfl := Option.some.inj hw
    exact reads_plainState (by decide)
  | pipelineCacheCreateInfo s =>
    obtain rfl := Option.some.inj hw
    exact reads_pipelineCacheCreateInfo h
  | bufferImageCopy s =>
    obtain rfl := Option.some.inj hw
    exact .raw s (by decide)
  | imageCopy s =>
    obtain rfl := Option.some.inj hw
    exact .raw s (by decide)
  | imageBlit s =>
    obtain rfl := Option.some.inj hw
    exact .raw s (by decide)
  | bufferCopy s =>
    obtain rfl := Option.some.inj hw
    exact .raw s (by decide)
  | viewport s =>
    obtain rfl := Option.some.inj hw
    exact .raw s (by decide)
  | rect2D s =>
    obtain rfl := Option.some.inj hw
    exact .raw s (by decide)
  | memoryRequirements s =>
    obtain rfl := Option.some.inj hw
    exact .raw s (by decide)
  | subresourceLayout s =>
    obtain rfl := Option.some.inj hw
    exact .raw s (by decide)
  | surfaceCapabilitiesKHR s =>
    obtain rfl := Option.some.inj hw
    exact .raw s (by decide)
  | extensionProperties s =>
    obtain rfl := Option.some.inj hw
    exact reads_extensionProperties h

theorem takes_createInfo {c : CreateInfo} {bytes : List UInt8} (hw : c.write commandBufferId = some bytes)
    (h : c.Whole) (hnull : hr.KeepsNull) (hfinds : c.Finds commandBufferId hr) :
    Takes c.decoder.code hr bytes (c.received commandBufferId hr) := by
  cases htoEnd : c.toEnd with
  | false => exact .of_reads (reads_createInfo hw h hnull hfinds htoEnd)
  | true =>
    cases c with
    | shaderModuleCreateInfo s => exact takes_shaderModuleCreateInfo hw h
    | _ => cases htoEnd

end CreateInfo

variable {commandBufferId queues : UInt64 → UInt64} {hr : Resolver}

/-- The decoder of a structure takes exactly the bytes that its encoder wrote, and makes the structure of them
again. -/
theorem encoded_readBack (hnull : hr.KeepsNull) :
    (∀ (c : CreateInfo) (bytes : List UInt8), c.write commandBufferId = some bytes → c.Whole →
      c.Finds commandBufferId hr → Takes c.decoder.code hr bytes (c.received commandBufferId hr) ∧
        (c.toEnd = false → Reads c.decoder.code hr bytes (c.received commandBufferId hr))) ∧
    (∀ (q : QueueSubmit) (bytes : List UInt8), writeQueueSubmit commandBufferId q = some bytes → q.Whole →
      q.Finds commandBufferId queues hr →
        Takes (readQueueSubmit queues) hr bytes (q.received commandBufferId queues hr)) ∧
    ∀ q : QueuePresent, q.Whole → q.Finds queues hr →
      Takes (readQueuePresentKHR queues) hr (writeQueuePresentKHR q) (q.received queues hr) :=
  ⟨fun _ _ hw h hfinds => ⟨CreateInfo.takes_createInfo hw h hnull hfinds,
      CreateInfo.reads_createInfo hw h hnull hfinds⟩,
    fun _ _ hw h hfinds => takes_queueSubmit hw h hnull hfinds,
    fun _ h hfinds => .of_reads (reads_queuePresentKHR h hnull hfinds)⟩

theorem block_nonzero : ∀ i : Fin 4, UInt64.ofNat (4096 * (i.val + 1)) ≠ 0 := by decide

/-- Places in the client. -/
def block (i : Fin 4) : Address := ⟨UInt64.ofNat (4096 * (i.val + 1)), block_nonzero i⟩

/-- One command buffer that waits for a semaphore. -/
def waitingSubmit : VkSubmitInfo2 where
  sType := submitInfo2Type
  pNext := .null
  flags := 0
  waitSemaphoreInfoCount := 1
  pWaitSemaphoreInfos := .host (block 0) (⟨semaphoreSubmitInfoType, .null, 3, (5, 1024, 0, ())⟩ ::ᵥ .nil)
  commandBufferInfoCount := 1
  pCommandBufferInfos := .host (block 1) (⟨commandBufferSubmitInfoType, .null, 7, 0⟩ ::ᵥ .nil)
  signalSemaphoreInfoCount := 0
  pSignalSemaphoreInfos := .null

/-- The same for `QueueSubmit`. -/
def waitingBatch : QueueSubmit where
  queue := 1
  fence := 0
  submitCount := 1
  pSubmits := .host (block 0)
    ({ sType := submitInfoType, pNext := .null, waitSemaphoreCount := 1,
       pWaitSemaphores := .host (block 1) (3 ::ᵥ .nil), pWaitDstStageMask := .host (block 2) (1024 ::ᵥ .nil),
       commandBufferCount := 1, pCommandBuffers := .host (block 3) (7 ::ᵥ .nil), signalSemaphoreCount := 0,
       pSignalSemaphores := .null } ::ᵥ .nil)

def onePresent : QueuePresent where
  queue := 1
  info := { sType := presentInfoType, pNext := .null, waitSemaphoreCount := 1,
            pWaitSemaphores := .host (block 0) (3 ::ᵥ .nil), swapchainCount := 1,
            pSwapchains := .host (block 1) (9 ::ᵥ .nil), pImageIndices := .host (block 2) (2 ::ᵥ .nil) }

theorem waitingBatch_encodable :
    validArray waitingBatch.pSubmits ∧ ∀ s ∈ waitingBatch.pSubmits.items, s.encodable := by
  refine ⟨⟨by decide, fun _ => rfl⟩, List.forall_mem_singleton.2 ?_⟩
  exact ⟨rfl, ⟨by decide, fun _ => rfl⟩, ⟨by decide, fun _ => rfl⟩, ⟨by decide, fun _ => rfl⟩,
    ⟨by decide, fun h => absurd rfl h⟩, List.forall_mem_singleton.2 (by decide),
    List.forall_mem_singleton.2 (by decide), fun id hid => (List.not_mem_nil hid).elim⟩

theorem encoded_readBack_waiting :
    Takes readSubmitInfo2 (fun _ id => id) ((writeSubmitInfo2 id waitingSubmit).getD [])
      (waitingSubmit.received id fun _ id => id) ∧
    Takes (readQueueSubmit id) (fun _ id => id) ((writeQueueSubmit id waitingBatch).getD [])
      (waitingBatch.received id id fun _ id => id) ∧
    Takes (readQueuePresentKHR id) (fun _ id => id) (writeQueuePresentKHR onePresent)
      (onePresent.received id fun _ id => id) := by
  have hnone : ∀ {α : Type} {p : α → Prop}, ∀ x ∈ ([] : List α), p x := fun x hx => (List.not_mem_nil hx).elim
  have hone : ∀ {α : Type} {p : α → Prop} {a : α}, p a → ∀ x ∈ [a], p x := List.forall_mem_singleton.2
  have hwritten : writeQueueSubmit id waitingBatch = some ((writeQueueSubmit id waitingBatch).getD []) := by
    rw [writeQueueSubmit, if_pos waitingBatch_encodable]
    rfl
  obtain ⟨hcreate, hsubmit, hpresent⟩ := @encoded_readBack id id (fun _ id => id) fun _ => rfl
  refine ⟨(hcreate (.submitInfo2 waitingSubmit) _ rfl ?_ ?_).1, hsubmit waitingBatch _ hwritten ?_ ?_,
    hpresent onePresent ?_ ?_⟩
  · exact ⟨trivial, trivial, trivial⟩
  · exact ⟨hone (.inr (by decide)), hone (.inr (by decide)), hnone⟩
  · exact ⟨trivial, hone ⟨⟨trivial, hnone⟩, trivial, trivial, trivial, trivial⟩⟩
  · exact ⟨by decide, .inl rfl, hone ⟨hone (by decide), hone (by decide), hnone⟩⟩
  · exact ⟨⟨trivial, fun _ => rfl⟩, ⟨trivial, fun _ => rfl⟩, ⟨trivial, fun _ => rfl⟩⟩
  · exact ⟨by decide, hone ⟨by decide, by decide⟩, hone ⟨by decide, by decide⟩⟩

theorem deviceGroup_unknown (t : NodeType) : t.code ≠ 1000060004 := by
  cases t with
  | plain t => cases t <;> decide
  | _ => decide

/-- A begin info with a `VkDeviceGroupCommandBufferBeginInfo` behind it. -/
def groupBegin : VkCommandBufferBeginInfo where
  sType := commandBufferBeginInfoType
  pNext := .host (block 0) (.other 1000060004 deviceGroup_unknown) .null
  flags := 0
  pInheritanceInfo := .null

/-- The encoder says that there is a chain, and the decoder refuses it. -/
theorem begin_not_readBack : ¬ ∀ (c : CreateInfo) (bytes : List UInt8) (hr : Resolver), hr.KeepsNull →
    c.write id = some bytes → ∃ a, Takes c.decoder.code hr bytes a := by
  intro h
  obtain ⟨a, htakes⟩ := h (.commandBufferBeginInfo groupBegin) _ (fun _ id => id) (fun _ => rfl) rfl
  obtain ⟨s, hrun, -⟩ := htakes { reader := ⟨writeCommandBufferBeginInfo groupBegin, false⟩ } rfl
  have hrefused : none = some a := congrArg Prod.fst hrun
  cases hrefused

end VkRemote.Marshal
