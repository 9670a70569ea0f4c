import VulkanRemote.Lib.Record

/-! The extension structures that may travel in a `pNext` chain, and where each of them may. -/

namespace VkRemote.Marshal

open Lib

/-- Structures of plain fields: `write_node_fields` and `read_node_fields` go through them in the order in
which they are declared. -/
inductive PlainType
  | physicalDeviceFeatures2
  | physicalDeviceVulkan11Features
  | physicalDeviceVulkan11Properties
  | physicalDeviceVulkan12Features
  | physicalDeviceVulkan12Properties
  | physicalDeviceHostQueryResetFeatures
  | physicalDeviceTimelineSemaphoreFeatures
  | physicalDeviceSynchronization2Features
  | physicalDeviceTimelineSemaphoreProperties
  | physicalDeviceBufferDeviceAddressFeatures
  | physicalDeviceDescriptorIndexingFeatures
  | physicalDeviceDescriptorIndexingProperties
  | physicalDeviceSeparateDepthStencilLayoutsFeatures
  | physicalDeviceDepthStencilResolveProperties
  | physicalDeviceProtectedMemoryFeatures
  | physicalDeviceSamplerYcbcrConversionFeatures
  | physicalDeviceSubgroupProperties
  | physicalDeviceIdProperties
  | physicalDeviceProtectedMemoryProperties
  | physicalDeviceMaintenance3Properties
  | physicalDeviceFragmentShadingRateFeatures
  | physicalDeviceFragmentShadingRateProperties
  | physicalDeviceImagelessFramebufferFeatures
  | physicalDeviceMultiviewFeatures
  | physicalDeviceMultiviewProperties
  | physicalDevicePointClippingProperties
  | pipelineFragmentShadingRateStateCreateInfo
  | pipelineTessellationDomainOriginStateCreateInfo
  | imageViewUsageCreateInfo
  | samplerYcbcrConversionImageFormatProperties
  | imagePlaneMemoryRequirementsInfo
  | memoryDedicatedRequirements
  | bindImagePlaneMemoryInfo
  | semaphoreTypeCreateInfo
  | bufferOpaqueCaptureAddressCreateInfo
  deriving DecidableEq

namespace PlainType

/-- The `VkStructureType`. -/
def code : PlainType → UInt32
  | physicalDeviceFeatures2 => 1000059000
  | physicalDeviceVulkan11Features => 49
  | physicalDeviceVulkan11Properties => 50
  | physicalDeviceVulkan12Features => 51
  | physicalDeviceVulkan12Properties => 52
  | physicalDeviceHostQueryResetFeatures => 1000261000
  | physicalDeviceTimelineSemaphoreFeatures => 1000207000
  | physicalDeviceSynchronization2Features => 1000314007
  | physicalDeviceTimelineSemaphoreProperties => 1000207001
  | physicalDeviceBufferDeviceAddressFeatures => 1000257000
  | physicalDeviceDescriptorIndexingFeatures => 1000161001
  | physicalDeviceDescriptorIndexingProperties => 1000161002
  | physicalDeviceSeparateDepthStencilLayoutsFeatures => 1000241000
  | physicalDeviceDepthStencilResolveProperties => 1000199000
  | physicalDeviceProtectedMemoryFeatures => 1000145001
  | physicalDeviceSamplerYcbcrConversionFeatures => 1000156004
  | physicalDeviceSubgroupProperties => 1000094000
  | physicalDeviceIdProperties => 1000071004
  | physicalDeviceProtectedMemoryProperties => 1000145002
  | physicalDeviceMaintenance3Properties => 1000168000
  | physicalDeviceFragmentShadingRateFeatures => 1000226003
  | physicalDeviceFragmentShadingRateProperties => 1000226002
  | physicalDeviceImagelessFramebufferFeatures => 1000108000
  | physicalDeviceMultiviewFeatures => 1000053001
  | physicalDeviceMultiviewProperties => 1000053002
  | physicalDevicePointClippingProperties => 1000117000
  | pipelineFragmentShadingRateStateCreateInfo => 1000226001
  | pipelineTessellationDomainOriginStateCreateInfo => 1000117003
  | imageViewUsageCreateInfo => 1000117002
  | samplerYcbcrConversionImageFormatProperties => 1000156005
  | imagePlaneMemoryRequirementsInfo => 1000156003
  | memoryDedicatedRequirements => 1000127000
  | bindImagePlaneMemoryInfo => 1000156002
  | semaphoreTypeCreateInfo => 1000207002
  | bufferOpaqueCaptureAddressCreateInfo => 1000257002

/-- The fields behind `sType` and `pNext`. The features of Vulkan 1.2 are taken as an array of `VkBool32`
up to the end of the structure, which is one more than there are. -/
def fields : PlainType → List Slot
  | physicalDeviceFeatures2 => List.replicate 55 .u32
  | physicalDeviceVulkan11Features => List.replicate 12 .u32
  | physicalDeviceVulkan11Properties =>
    [.blob 16, .blob 16, .blob 8] ++ List.replicate 11 .u32 ++ [.u64]
  | physicalDeviceVulkan12Features => List.replicate 48 .u32
  | physicalDeviceVulkan12Properties => [.blob 720]
  | physicalDeviceHostQueryResetFeatures => [.u32]
  | physicalDeviceTimelineSemaphoreFeatures => [.u32]
  | physicalDeviceSynchronization2Features => [.u32]
  | physicalDeviceTimelineSemaphoreProperties => [.u64]
  | physicalDeviceBufferDeviceAddressFeatures => List.replicate 3 .u32
  | physicalDeviceDescriptorIndexingFeatures => List.replicate 20 .u32
  | physicalDeviceDescriptorIndexingProperties => [.blob 96]
  | physicalDeviceSeparateDepthStencilLayoutsFeatures => [.u32]
  | physicalDeviceDepthStencilResolveProperties => List.replicate 4 .u32
  | physicalDeviceProtectedMemoryFeatures => [.u32]
  | physicalDeviceSamplerYcbcrConversionFeatures => [.u32]
  | physicalDeviceSubgroupProperties => List.replicate 4 .u32
  | physicalDeviceIdProperties => [.blob 16, .blob 16, .blob 8, .u32, .u32]
  | physicalDeviceProtectedMemoryProperties => [.u32]
  | physicalDeviceMaintenance3Properties => [.u32, .u64]
  | physicalDeviceFragmentShadingRateFeatures => List.replicate 3 .u32
  | physicalDeviceFragmentShadingRateProperties => List.replicate 20 .u32
  | physicalDeviceImagelessFramebufferFeatures => [.u32]
  | physicalDeviceMultiviewFeatures => List.replicate 3 .u32
  | physicalDeviceMultiviewProperties => List.replicate 2 .u32
  | physicalDevicePointClippingProperties => [.u32]
  | pipelineFragmentShadingRateStateCreateInfo => List.replicate 4 .u32
  | pipelineTessellationDomainOriginStateCreateInfo => [.u32]
  | imageViewUsageCreateInfo => [.u32]
  | samplerYcbcrConversionImageFormatProperties => [.u32]
  | imagePlaneMemoryRequirementsInfo => [.u32]
  | memoryDedicatedRequirements => List.replicate 2 .u32
  | bindImagePlaneMemoryInfo => [.u32]
  | semaphoreTypeCreateInfo => [.u32, .u64]
  | bufferOpaqueCaptureAddressCreateInfo => [.u64]

/-- The positions of the fields that are written as zero whatever they hold: all features of Vulkan 1.1 but
multiview and the sampler conversion, what `apply_vulkan12_feature_policy`,
`apply_descriptor_indexing_feature_policy` and `apply_buffer_address_feature_policy` clear, protected
memory, and the limits of descriptor indexing. -/
def masked : PlainType → List ℕ
  | physicalDeviceVulkan11Features => [0, 1, 2, 3, 7, 8, 9, 11]
  | physicalDeviceVulkan11Properties => [12]
  | physicalDeviceVulkan12Features => [20, 21, 22, 23, 24, 25, 26, 27, 28, 29, 39, 40]
  | physicalDeviceBufferDeviceAddressFeatures => [1, 2]
  | physicalDeviceDescriptorIndexingFeatures => [10, 11, 12, 13, 14, 15, 16, 17, 18, 19]
  | physicalDeviceDescriptorIndexingProperties => [0]
  | physicalDeviceProtectedMemoryFeatures => [0]
  | physicalDeviceProtectedMemoryProperties => [0]
  | _ => []

end PlainType

/-- All structures of `pnext_node_size`. -/
inductive NodeType
  | plain (type : PlainType)
  | renderPassInputAttachmentAspectCreateInfo
  | renderPassMultiviewCreateInfo
  | fragmentShadingRateAttachmentInfo
  | imageFormatListCreateInfo
  | samplerYcbcrConversionInfo
  | framebufferAttachmentsCreateInfo
  | renderPassAttachmentBeginInfo
  | timelineSemaphoreSubmitInfo
  | memoryAllocateFlagsInfo
  deriving DecidableEq

/-- `VK_STRUCTURE_TYPE_LOADER_DEVICE_CREATE_INFO`. -/
def loaderDeviceCreateInfo : UInt32 := 48

namespace NodeType

def code : NodeType → UInt32
  | plain type => type.code
  | renderPassInputAttachmentAspectCreateInfo => 1000117001
  | renderPassMultiviewCreateInfo => 1000053000
  | fragmentShadingRateAttachmentInfo => 1000226000
  | imageFormatListCreateInfo => 1000147000
  | samplerYcbcrConversionInfo => 1000156001
  | framebufferAttachmentsCreateInfo => 1000108001
  | renderPassAttachmentBeginInfo => 1000108003
  | timelineSemaphoreSubmitInfo => 1000207003
  | memoryAllocateFlagsInfo => 1000060000

/-- `pnext_node_size`. -/
def nodeSize : NodeType → ℕ
  | plain type => (16 + Record.size type.fields + 7) / 8 * 8
  | renderPassInputAttachmentAspectCreateInfo => 32
  | renderPassMultiviewCreateInfo => 64
  | fragmentShadingRateAttachmentInfo => 32
  | imageFormatListCreateInfo => 32
  | samplerYcbcrConversionInfo => 24
  | framebufferAttachmentsCreateInfo => 32
  | renderPassAttachmentBeginInfo => 32
  | timelineSemaphoreSubmitInfo => 48
  | memoryAllocateFlagsInfo => 24

end NodeType

inductive PNextContext
  | queryFeaturesOutput
  | queryPropertiesOutput
  | imageFormatPropertiesOutput
  | deviceCreate
  | renderPass
  | renderPass2
  | graphicsPipeline
  | tessellationState
  | imageCreate
  | imageViewCreate
  | samplerCreate
  | memoryRequirements2
  | bindBufferMemory2
  | bindImageMemory2
  | descriptorSetLayoutSupport
  | framebufferCreate
  | renderPassBegin
  | semaphoreCreate
  | submit
  | bufferCreate
  | memoryAllocate
  | shaderModule
  deriving DecidableEq

/-- The features that may be queried, and be asked for with a device. -/
def featureTypes : List PlainType :=
  [.physicalDeviceFragmentShadingRateFeatures, .physicalDeviceImagelessFramebufferFeatures,
    .physicalDeviceMultiviewFeatures, .physicalDeviceVulkan11Features, .physicalDeviceVulkan12Features,
    .physicalDeviceHostQueryResetFeatures, .physicalDeviceTimelineSemaphoreFeatures,
    .physicalDeviceSynchronization2Features, .physicalDeviceBufferDeviceAddressFeatures,
    .physicalDeviceDescriptorIndexingFeatures, .physicalDeviceSeparateDepthStencilLayoutsFeatures,
    .physicalDeviceProtectedMemoryFeatures, .physicalDeviceSamplerYcbcrConversionFeatures]

/-- `pnext_allowed`. -/
def pnextAllowed : PNextContext → List NodeType
  | .queryFeaturesOutput => featureTypes.map .plain
  | .imageFormatPropertiesOutput => [.plain .samplerYcbcrConversionImageFormatProperties]
  | .queryPropertiesOutput =>
    [.plain .physicalDeviceFragmentShadingRateProperties, .plain .physicalDeviceMultiviewProperties,
      .plain .physicalDevicePointClippingProperties, .plain .physicalDeviceVulkan11Properties,
      .plain .physicalDeviceVulkan12Properties, .plain .physicalDeviceTimelineSemaphoreProperties,
      .plain .physicalDeviceDepthStencilResolveProperties,
      .plain .physicalDeviceDescriptorIndexingProperties, .plain .physicalDeviceSubgroupProperties,
      .plain .physicalDeviceIdProperties, .plain .physicalDeviceProtectedMemoryProperties,
      .plain .physicalDeviceMaintenance3Properties]
  | .deviceCreate => .plain .physicalDeviceFeatures2 :: featureTypes.map .plain
  | .renderPass => [.renderPassInputAttachmentAspectCreateInfo, .renderPassMultiviewCreateInfo]
  | .renderPass2 => [.fragmentShadingRateAttachmentInfo]
  | .graphicsPipeline => [.plain .pipelineFragmentShadingRateStateCreateInfo]
  | .tessellationState => [.plain .pipelineTessellationDomainOriginStateCreateInfo]
  | .imageCreate => [.imageFormatListCreateInfo]
  | .imageViewCreate => [.plain .imageViewUsageCreateInfo, .samplerYcbcrConversionInfo]
  | .samplerCreate => [.samplerYcbcrConversionInfo]
  | .memoryRequirements2 =>
    [.plain .imagePlaneMemoryRequirementsInfo, .plain .memoryDedicatedRequirements]
  | .bindBufferMemory2 => []
  | .bindImageMemory2 => [.plain .bindImagePlaneMemoryInfo]
  | .descriptorSetLayoutSupport => []
  | .framebufferCreate => [.framebufferAttachmentsCreateInfo]
  | .renderPassBegin => [.renderPassAttachmentBeginInfo]
  | .semaphoreCreate => [.plain .semaphoreTypeCreateInfo]
  | .submit => [.timelineSemaphoreSubmitInfo]
  | .bufferCreate => [.plain .bufferOpaqueCaptureAddressCreateInfo]
  | .memoryAllocate => [.memoryAllocateFlagsInfo]
  | .shaderModule => []

end VkRemote.Marshal
