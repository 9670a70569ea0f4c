import VulkanRemote.Marshal.Resources

/-! All decoders that take a resolver, and what comes of a message. -/

namespace VkRemote.Marshal

open Lib Wire

/-- The decoders that take a resolver. -/
inductive Decoder
  | pnextChain (context : PNextContext)
  | deviceQueueCreateInfo
  | deviceCreateInfo
  | swapchainCreateInfoKHR
  | imageViewCreateInfo
  | renderPassCreateInfo
  | renderPassCreateInfo2
  | shaderModuleCreateInfo
  | pipelineShaderStageCreateInfo
  | pipelineLayoutCreateInfo
  | graphicsPipelineCreateInfo
  | computePipelineCreateInfo
  | framebufferCreateInfo
  | bufferViewCreateInfo
  | queryPoolCreateInfo
  | eventCreateInfo
  | commandBufferAllocateInfo
  | commandBufferBeginInfo
  | renderPassBeginInfo
  | subpassBeginInfo
  | subpassEndInfo
  | descriptorSetLayoutCreateInfo
  | descriptorUpdateTemplateCreateInfo
  | samplerYcbcrConversionCreateInfo
  | descriptorPoolCreateInfo
  | descriptorSetAllocateInfo
  | writeDescriptorSet
  | copyDescriptorSet
  | imageMemoryBarrier
  | bufferMemoryBarrier
  | memoryBarrier
  | dependencyInfo
  | submitInfo2
  | bufferCreateInfo
  | imageCreateInfo
  | memoryAllocateInfo
  | samplerCreateInfo
  | fenceCreateInfo
  | semaphoreCreateInfo
  | commandPoolCreateInfo
  | pipelineCacheCreateInfo
  | bufferImageCopy
  | imageCopy
  | imageBlit
  | bufferCopy
  | viewport
  | rect2D
  | memoryRequirements
  | subresourceLayout
  | surfaceCapabilitiesKHR
  | extensionProperties
  deriving DecidableEq

namespace Decoder

def Result : Decoder → Type
  | pnextChain _ => PNext
  | deviceQueueCreateInfo => VkDeviceQueueCreateInfo
  | deviceCreateInfo => VkDeviceCreateInfo
  | swapchainCreateInfoKHR => VkSwapchainCreateInfoKHR
  | imageViewCreateInfo => VkImageViewCreateInfo
  | renderPassCreateInfo => VkRenderPassCreateInfo
  | renderPassCreateInfo2 => VkRenderPassCreateInfo2
  | shaderModuleCreateInfo => VkShaderModuleCreateInfo
  | pipelineShaderStageCreateInfo => VkPipelineShaderStageCreateInfo
  | pipelineLayoutCreateInfo => VkPipelineLayoutCreateInfo
  | graphicsPipelineCreateInfo => VkGraphicsPipelineCreateInfo
  | computePipelineCreateInfo => VkComputePipelineCreateInfo
  | framebufferCreateInfo => VkFramebufferCreateInfo
  | bufferViewCreateInfo => VkBufferViewCreateInfo
  | queryPoolCreateInfo => VkQueryPoolCreateInfo
  | eventCreateInfo => VkEventCreateInfo
  | commandBufferAllocateInfo => VkCommandBufferAllocateInfo
  | commandBufferBeginInfo => VkCommandBufferBeginInfo
  | renderPassBeginInfo => VkRenderPassBeginInfo
  | subpassBeginInfo => VkSubpassBeginInfo
  | subpassEndInfo => VkSubpassEndInfo
  | descriptorSetLayoutCreateInfo => VkDescriptorSetLayoutCreateInfo
  | descriptorUpdateTemplateCreateInfo => VkDescriptorUpdateTemplateCreateInfo
  | samplerYcbcrConversionCreateInfo => VkSamplerYcbcrConversionCreateInfo
  | descriptorPoolCreateInfo => VkDescriptorPoolCreateInfo
  | descriptorSetAllocateInfo => VkDescriptorSetAllocateInfo
  | writeDescriptorSet => VkWriteDescriptorSet
  | copyDescriptorSet => VkCopyDescriptorSet
  | imageMemoryBarrier => VkImageMemoryBarrier
  | bufferMemoryBarrier => VkBufferMemoryBarrier
  | memoryBarrier => VkMemoryBarrier
  | dependencyInfo => VkDependencyInfo
  | submitInfo2 => VkSubmitInfo2
  | bufferCreateInfo => VkBufferCreateInfo
  | imageCreateInfo => VkImageCreateInfo
  | memoryAllocateInfo => VkMemoryAllocateInfo
  | samplerCreateInfo => VkSamplerCreateInfo
  | fenceCreateInfo => VkFenceCreateInfo
  | semaphoreCreateInfo => VkSemaphoreCreateInfo
  | commandPoolCreateInfo => VkCommandPoolCreateInfo
  | pipelineCacheCreateInfo => VkPipelineCacheCreateInfo
  | bufferImageCopy => VkBufferImageCopy
  | imageCopy => VkImageCopy
  | imageBlit => VkImageBlit
  | bufferCopy => VkBufferCopy
  | viewport => VkViewport
  | rect2D => VkRect2D
  | memoryRequirements => VkMemoryRequirements
  | subresourceLayout => VkSubresourceLayout
  | surfaceCapabilitiesKHR => VkSurfaceCapabilitiesKHR
  | extensionProperties => VkExtensionProperties

def code : (d : Decoder) → Decode d.Result
  | pnextChain context => readPnextChain context
  | deviceQueueCreateInfo => readDeviceQueueCreateInfo
  | deviceCreateInfo => readDeviceCreateInfo
  | swapchainCreateInfoKHR => readSwapchainCreateInfoKHR
  | imageViewCreateInfo => readImageViewCreateInfo
  | renderPassCreateInfo => readRenderPassCreateInfo
  | renderPassCreateInfo2 => readRenderPassCreateInfo2
  | shaderModuleCreateInfo => readShaderModuleCreateInfo
  | pipelineShaderStageCreateInfo => readPipelineShaderStageCreateInfo
  | pipelineLayoutCreateInfo => readPipelineLayoutCreateInfo
  | graphicsPipelineCreateInfo => readGraphicsPipelineCreateInfo
  | computePipelineCreateInfo => readComputePipelineCreateInfo
  | framebufferCreateInfo => readFramebufferCreateInfo
  | bufferViewCreateInfo => readBufferViewCreateInfo
  | queryPoolCreateInfo => readQueryPoolCreateInfo
  | eventCreateInfo => readEventCreateInfo
  | commandBufferAllocateInfo => readCommandBufferAllocateInfo
  | commandBufferBeginInfo => readCommandBufferBeginInfo
  | renderPassBeginInfo => readRenderPassBeginInfo
  | subpassBeginInfo => readSubpassBeginInfo
  | subpassEndInfo => readSubpassEndInfo
  | descriptorSetLayoutCreateInfo => readDescriptorSetLayoutCreateInfo
  | descriptorUpdateTemplateCreateInfo => readDescriptorUpdateTemplateCreateInfo
  | samplerYcbcrConversionCreateInfo => readSamplerYcbcrConversionCreateInfo
  | descriptorPoolCreateInfo => readDescriptorPoolCreateInfo
  | descriptorSetAllocateInfo => readDescriptorSetAllocateInfo
  | writeDescriptorSet => readWriteDescriptorSet
  | copyDescriptorSet => readCopyDescriptorSet
  | imageMemoryBarrier => readImageMemoryBarrier
  | bufferMemoryBarrier => readBufferMemoryBarrier
  | memoryBarrier => readMemoryBarrier
  | dependencyInfo => readDependencyInfo
  | submitInfo2 => readSubmitInfo2
  | bufferCreateInfo => readBufferCreateInfo
  | imageCreateInfo => readImageCreateInfo
  | memoryAllocateInfo => readMemoryAllocateInfo
  | samplerCreateInfo => readSamplerCreateInfo
  | fenceCreateInfo => readFenceCreateInfo
  | semaphoreCreateInfo => readSemaphoreCreateInfo
  | commandPoolCreateInfo => readCommandPoolCreateInfo
  | pipelineCacheCreateInfo => readPipelineCacheCreateInfo
  | bufferImageCopy => readBufferImageCopy
  | imageCopy => readImageCopy
  | imageBlit => readImageBlit
  | bufferCopy => readBufferCopy
  | viewport => readViewport
  | rect2D => readRect2D
  | memoryRequirements => readMemoryRequirements
  | subresourceLayout => readSubresourceLayout
  | surfaceCapabilitiesKHR => readSurfaceCapabilitiesKHR
  | extensionProperties => readExtensionProperties

end Decoder

/-- Whether a message was accepted, and what the resolver was asked about. -/
structure Outcome where
  accepted : Bool
  lookups : List Lookup
  deriving DecidableEq

def Decode.outcome {α : Type} (m : Decode α) (hr : Resolver) (message : List UInt8) : Outcome :=
  let (result, s) := m hr { reader := ⟨message, false⟩ }
  ⟨result.isSome, s.lookups⟩

def Decoder.decode (d : Decoder) : Resolver → List UInt8 → Outcome := d.code.outcome

end VkRemote.Marshal
