import VulkanRemote.Marshal.Submission

/-! Devices, swapchains, memory and what lies in it, and the structures with no pointer in them. -/

namespace VkRemote.Marshal

open Lib Wire Decode

structure VkDeviceQueueCreateInfo where
  sType : UInt32
  pNext : PNext
  flags : UInt32
  queueFamilyIndex : UInt32
  queueCount : UInt32
  pQueuePriorities : Ptr (Elements (Blob 4) queueCount.toNat)
  gaps : Gaps [.pad 4, .pad 4] := .zeros _

instance : Raw VkDeviceQueueCreateInfo where
  slots := [.u32, .pad 4, .u64, .u32, .u32, .u32, .pad 4, .u64]
  record s := (s.sType, s.pNext.bits, s.flags, s.queueFamilyIndex, s.queueCount, s.pQueuePriorities.bits, ())
  gaps s := s.gaps
  ofRecord := fun (sType, pNext, flags, family, n, priorities, _) gaps =>
    { sType, pNext := .ofBits pNext, flags, queueFamilyIndex := family, queueCount := n,
      pQueuePriorities := .ofBits priorities, gaps }

def writeDeviceQueueCreateInfo (s : VkDeviceQueueCreateInfo) : List UInt8 :=
  writeRaw { s with pNext := .null, pQueuePriorities := .null } ++ writePodArray s.pQueuePriorities

def readDeviceQueueCreateInfo : Decode VkDeviceQueueCreateInfo := do
  let s ← readRaw VkDeviceQueueCreateInfo
  let pQueuePriorities ← readPodArray 4 s.queueCount.toNat
  return { s with pQueuePriorities }

structure VkDeviceCreateInfo where
  sType : UInt32
  pNext : PNext
  flags : UInt32
  queueCreateInfoCount : UInt32
  pQueueCreateInfos : Ptr (Elements VkDeviceQueueCreateInfo queueCreateInfoCount.toNat)
  enabledLayerCount : UInt32
  ppEnabledLayerNames : Ptr (Elements (Ptr (List UInt8)) enabledLayerCount.toNat)
  enabledExtensionCount : UInt32
  ppEnabledExtensionNames : Ptr (Elements (Ptr (List UInt8)) enabledExtensionCount.toNat)
  pEnabledFeatures : Ptr (Blob 220)
  gaps : Gaps [.pad 4, .pad 4, .pad 4] := .zeros _

instance : Raw VkDeviceCreateInfo where
  slots := [.u32, .pad 4, .u64, .u32, .u32, .u64, .u32, .pad 4, .u64, .u32, .pad 4, .u64, .u64]
  record s := (s.sType, s.pNext.bits, s.flags, s.queueCreateInfoCount, s.pQueueCreateInfos.bits,
    s.enabledLayerCount, s.ppEnabledLayerNames.bits, s.enabledExtensionCount,
    s.ppEnabledExtensionNames.bits, s.pEnabledFeatures.bits, ())
  gaps s := s.gaps
  ofRecord := fun (sType, pNext, flags, nq, queues, nl, layers, ne, extensions, features, _) gaps =>
    { sType, pNext := .ofBits pNext, flags, queueCreateInfoCount := nq, pQueueCreateInfos := .ofBits queues,
      enabledLayerCount := nl, ppEnabledLayerNames := .ofBits layers, enabledExtensionCount := ne,
      ppEnabledExtensionNames := .ofBits extensions, pEnabledFeatures := .ofBits features, gaps }

def writeDeviceCreateInfo (s : VkDeviceCreateInfo) : Option (List UInt8) := do
  let chain ← writePnextChain .deviceCreate s.pNext
  return writeRaw { s with pNext := .null, pQueueCreateInfos := .null, ppEnabledLayerNames := .null,
                           ppEnabledExtensionNames := .null, pEnabledFeatures := .null } ++
    chain ++ s.pQueueCreateInfos.items.flatMap writeDeviceQueueCreateInfo ++
    writeStringArray s.ppEnabledLayerNames ++ writeStringArray s.ppEnabledExtensionNames ++
    writeOptPod s.pEnabledFeatures

def readDeviceCreateInfo : Decode VkDeviceCreateInfo := do
  let s ← readRaw VkDeviceCreateInfo
  let pNext ← readPnextChain .deviceCreate
  require (s.queueCreateInfoCount.toNat ≤ kMaxArrayElements)
  let pQueueCreateInfos ← array s.queueCreateInfoCount.toNat 40 readDeviceQueueCreateInfo
  let ppEnabledLayerNames ← readStringArray s.enabledLayerCount.toNat
  let ppEnabledExtensionNames ← readStringArray s.enabledExtensionCount.toNat
  let pEnabledFeatures ← readOptPod (Blob 220)
  return { s with pNext, pQueueCreateInfos, ppEnabledLayerNames, ppEnabledExtensionNames, pEnabledFeatures }

/-- `format` is the image count and what the images are, `present` what lies between the indices and the old
swapchain. -/
structure VkSwapchainCreateInfoKHR where
  sType : UInt32
  pNext : PNext
  flags : UInt32
  surface : UInt64
  format : Blob 32
  queueFamilyIndexCount : UInt32
  pQueueFamilyIndices : Ptr (Elements (Blob 4) queueFamilyIndexCount.toNat)
  present : Blob 16
  oldSwapchain : UInt64
  gaps : Gaps [.pad 4, .pad 4, .pad 4] := .zeros _

instance : Raw VkSwapchainCreateInfoKHR where
  slots := [.u32, .pad 4, .u64, .u32, .pad 4, .u64, .blob 32, .u32, .pad 4, .u64, .blob 16, .u64]
  record s := (s.sType, s.pNext.bits, s.flags, s.surface, s.format, s.queueFamilyIndexCount,
    s.pQueueFamilyIndices.bits, s.present, s.oldSwapchain, ())
  gaps s := s.gaps
  ofRecord := fun (sType, pNext, flags, surface, format, n, indices, present, oldSwapchain, _) gaps =>
    { sType, pNext := .ofBits pNext, flags, surface, format, queueFamilyIndexCount := n,
      pQueueFamilyIndices := .ofBits indices, present, oldSwapchain, gaps }

def writeSwapchainCreateInfoKHR (s : VkSwapchainCreateInfoKHR) : List UInt8 :=
  writeRaw { s with pNext := .null, pQueueFamilyIndices := .null } ++ writePodArray s.pQueueFamilyIndices

def readSwapchainCreateInfoKHR : Decode VkSwapchainCreateInfoKHR := do
  let s ← readRaw VkSwapchainCreateInfoKHR
  let pQueueFamilyIndices ← readPodArray 4 s.queueFamilyIndexCount.toNat
  let surface ← patchHandle .surface s.surface
  let oldSwapchain ← patchHandle .swapchain s.oldSwapchain
  return { s with pQueueFamilyIndices, surface, oldSwapchain }

/-- `view` is the view type, the format, the components and the subresource range. -/
structure VkImageViewCreateInfo where
  sType : UInt32
  pNext : PNext
  flags : UInt32
  image : UInt64
  view : Blob 44
  gaps : Gaps [.pad 4, .pad 4, .pad 4] := .zeros _

instance : Raw VkImageViewCreateInfo where
  slots := [.u32, .pad 4, .u64, .u32, .pad 4, .u64, .blob 44, .pad 4]
  record s := (s.sType, s.pNext.bits, s.flags, s.image, s.view, ())
  gaps s := s.gaps
  ofRecord := fun (sType, pNext, flags, image, view, _) gaps =>
    { sType, pNext := .ofBits pNext, flags, image, view, gaps }

def writeImageViewCreateInfo (s : VkImageViewCreateInfo) : Option (List UInt8) := do
  let chain ← writePnextChain .imageViewCreate s.pNext
  return writeRaw { s with pNext := .null } ++ chain

def readImageViewCreateInfo : Decode VkImageViewCreateInfo := do
  let s ← readRaw VkImageViewCreateInfo
  let pNext ← readPnextChain .imageViewCreate
  let image ← patchHandle .image s.image
  return { s with pNext, image }

/-- `usage` is the size, the usage and the sharing mode. -/
structure VkBufferCreateInfo where
  sType : UInt32
  pNext : PNext
  flags : UInt32
  usage : Blob 16
  queueFamilyIndexCount : UInt32
  pQueueFamilyIndices : Ptr (Elements (Blob 4) queueFamilyIndexCount.toNat)
  gaps : Gaps [.pad 4, .pad 4, .pad 4] := .zeros _

instance : Raw VkBufferCreateInfo where
  slots := [.u32, .pad 4, .u64, .u32, .pad 4, .blob 16, .u32, .pad 4, .u64]
  record s := (s.sType, s.pNext.bits, s.flags, s.usage, s.queueFamilyIndexCount, s.pQueueFamilyIndices.bits, ())
  gaps s := s.gaps
  ofRecord := fun (sType, pNext, flags, usage, n, indices, _) gaps =>
    { sType, pNext := .ofBits pNext, flags, usage, queueFamilyIndexCount := n,
      pQueueFamilyIndices := .ofBits indices, gaps }

/-- Nothing is written where the chain is refused. -/
def writeBufferCreateInfo (s : VkBufferCreateInfo) : List UInt8 :=
  match writePnextChain .bufferCreate s.pNext with
  | none => []
  | some chain =>
    writeRaw { s with pNext := .null, pQueueFamilyIndices := .null } ++ chain ++
      writePodArray s.pQueueFamilyIndices

def readBufferCreateInfo : Decode VkBufferCreateInfo := do
  let s ← readRaw VkBufferCreateInfo
  let pNext ← readPnextChain .bufferCreate
  let pQueueFamilyIndices ← readPodArray 4 s.queueFamilyIndexCount.toNat
  return { s with pNext, pQueueFamilyIndices }

/-- `image` is everything from the flags to the sharing mode. -/
structure VkImageCreateInfo where
  sType : UInt32
  pNext : PNext
  image : Blob 48
  queueFamilyIndexCount : UInt32
  pQueueFamilyIndices : Ptr (Elements (Blob 4) queueFamilyIndexCount.toNat)
  initialLayout : UInt32
  gaps : Gaps [.pad 4, .pad 4, .pad 4] := .zeros _

instance : Raw VkImageCreateInfo where
  slots := [.u32, .pad 4, .u64, .blob 48, .u32, .pad 4, .u64, .u32, .pad 4]
  record s := (s.sType, s.pNext.bits, s.image, s.queueFamilyIndexCount, s.pQueueFamilyIndices.bits,
    s.initialLayout, ())
  gaps s := s.gaps
  ofRecord := fun (sType, pNext, image, n, indices, initialLayout, _) gaps =>
    { sType, pNext := .ofBits pNext, image, queueFamilyIndexCount := n,
      pQueueFamilyIndices := .ofBits indices, initialLayout, gaps }

def writeImageCreateInfo (s : VkImageCreateInfo) : Option (List UInt8) := do
  let chain ← writePnextChain .imageCreate s.pNext
  return writeRaw { s with pNext := .null, pQueueFamilyIndices := .null } ++ chain ++
    writePodArray s.pQueueFamilyIndices

def readImageCreateInfo : Decode VkImageCreateInfo := do
  let s ← readRaw VkImageCreateInfo
  let pNext ← readPnextChain .imageCreate
  let pQueueFamilyIndices ← readPodArray 4 s.queueFamilyIndexCount.toNat
  return { s with pNext, pQueueFamilyIndices }

structure VkBufferViewCreateInfo where
  sType : UInt32
  pNext : Ptr Unit
  flags : UInt32
  buffer : UInt64
  format : UInt32
  offset : UInt64
  range : UInt64

def bufferViewCreateInfoType : UInt32 := 13

def writeBufferViewCreateInfo (s : VkBufferViewCreateInfo) : Option (List UInt8) :=
  if s.sType = bufferViewCreateInfoType ∧ s.pNext.isNull then
    some (Writer.i32 s.sType ++ Writer.u32 s.flags ++ Writer.handle s.buffer ++ Writer.i32 s.format ++
      Writer.u64 s.offset ++ Writer.u64 s.range)
  else none

def readBufferViewCreateInfo : Decode VkBufferViewCreateInfo := do
  let sType ← i32
  let flags ← u32
  let bufferId ← handle
  let format ← i32
  let offset ← u64
  let range ← u64
  let buffer ← patchHandle .buffer bufferId
  requireOk
  require (sType = bufferViewCreateInfoType ∧ buffer ≠ 0)
  return { sType, pNext := .null, flags, buffer, format, offset, range }

/-- Nothing is written where the chain is refused. -/
def writeChained {n gap : ℕ} (context : PNextContext) (s : PlainState n gap) : List UInt8 :=
  match writePnextChain context s.pNext with
  | none => []
  | some chain => writePlainState s ++ chain

def readChained (n gap : ℕ) (context : PNextContext) : Decode (PlainState n gap) := do
  let s ← readRaw (PlainState n gap)
  let pNext ← readPnextChain context
  return { s with pNext }

abbrev VkMemoryAllocateInfo := PlainState 12 4

def writeMemoryAllocateInfo : VkMemoryAllocateInfo → List UInt8 := writeChained .memoryAllocate

def readMemoryAllocateInfo : Decode VkMemoryAllocateInfo := readChained 12 4 .memoryAllocate

abbrev VkSamplerCreateInfo := PlainState 64 0

def writeSamplerCreateInfo : VkSamplerCreateInfo → List UInt8 := writeChained .samplerCreate

def readSamplerCreateInfo : Decode VkSamplerCreateInfo := readChained 64 0 .samplerCreate

abbrev VkSemaphoreCreateInfo := PlainState 4 4

def writeSemaphoreCreateInfo : VkSemaphoreCreateInfo → List UInt8 := writeChained .semaphoreCreate

def readSemaphoreCreateInfo : Decode VkSemaphoreCreateInfo := readChained 4 4 .semaphoreCreate

abbrev VkFenceCreateInfo := PlainState 4 4

def writeFenceCreateInfo : VkFenceCreateInfo → List UInt8 := writePlainState

def readFenceCreateInfo : Decode VkFenceCreateInfo := readRaw VkFenceCreateInfo

abbrev VkCommandPoolCreateInfo := PlainState 8 0

def writeCommandPoolCreateInfo : VkCommandPoolCreateInfo → List UInt8 := writePlainState

def readCommandPoolCreateInfo : Decode VkCommandPoolCreateInfo := readRaw VkCommandPoolCreateInfo

structure VkQueryPoolCreateInfo where
  sType : UInt32
  pNext : PNext
  flags : UInt32
  queryType : UInt32
  queryCount : UInt32
  pipelineStatistics : UInt32

def queryPoolCreateInfoType : UInt32 := 11

def writeQueryPoolCreateInfo (s : VkQueryPoolCreateInfo) : List UInt8 :=
  Writer.i32 s.sType ++ Writer.u32 s.flags ++ Writer.i32 s.queryType ++ Writer.u32 s.queryCount ++
    Writer.u32 s.pipelineStatistics ++ Writer.u32 (presence s.pNext.isNull)

def readQueryPoolCreateInfo : Decode VkQueryPoolCreateInfo := do
  let sType ← i32
  let flags ← u32
  let queryType ← i32
  let queryCount ← u32
  let pipelineStatistics ← u32
  let hasPnext ← u32
  requireOk
  require (sType = queryPoolCreateInfoType ∧ hasPnext = 0 ∧ queryCount ≠ 0 ∧
    queryCount.toNat ≤ kMaxArrayElements)
  return { sType, pNext := .null, flags, queryType, queryCount, pipelineStatistics }

structure VkEventCreateInfo where
  sType : UInt32
  pNext : PNext
  flags : UInt32

def eventCreateInfoType : UInt32 := 10

def writeEventCreateInfo (s : VkEventCreateInfo) : List UInt8 :=
  Writer.i32 s.sType ++ Writer.u32 s.flags ++ Writer.u32 (presence s.pNext.isNull)

def readEventCreateInfo : Decode VkEventCreateInfo := do
  let sType ← i32
  let flags ← u32
  let hasPnext ← u32
  requireOk
  require (sType = eventCreateInfoType ∧ hasPnext = 0)
  return { sType, pNext := .null, flags }

abbrev VkBufferImageCopy := Blob 56

def writeBufferImageCopy : VkBufferImageCopy → List UInt8 := writeRaw

def readBufferImageCopy : Decode VkBufferImageCopy := readRaw VkBufferImageCopy

abbrev VkImageCopy := Blob 68

def writeImageCopy : VkImageCopy → List UInt8 := writeRaw

def readImageCopy : Decode VkImageCopy := readRaw VkImageCopy

abbrev VkImageBlit := Blob 80

def writeImageBlit : VkImageBlit → List UInt8 := writeRaw

def readImageBlit : Decode VkImageBlit := readRaw VkImageBlit

abbrev VkBufferCopy := Blob 24

def writeBufferCopy : VkBufferCopy → List UInt8 := writeRaw

def readBufferCopy : Decode VkBufferCopy := readRaw VkBufferCopy

abbrev VkViewport := Blob 24

def writeViewport : VkViewport → List UInt8 := writeRaw

def readViewport : Decode VkViewport := readRaw VkViewport

abbrev VkRect2D := Blob 16

def writeRect2D : VkRect2D → List UInt8 := writeRaw

def readRect2D : Decode VkRect2D := readRaw VkRect2D

structure VkMemoryRequirements where
  size : UInt64
  alignment : UInt64
  memoryTypeBits : UInt32
  gaps : Gaps [.pad 4] := .zeros _

instance : Raw VkMemoryRequirements where
  slots := [.u64, .u64, .u32, .pad 4]
  record s := (s.size, s.alignment, s.memoryTypeBits, ())
  gaps s := s.gaps
  ofRecord := fun (size, alignment, memoryTypeBits, _) gaps => { size, alignment, memoryTypeBits, gaps }

def writeMemoryRequirements : VkMemoryRequirements → List UInt8 := writeRaw

def readMemoryRequirements : Decode VkMemoryRequirements := readRaw VkMemoryRequirements

abbrev VkSubresourceLayout := Blob 40

def writeSubresourceLayout : VkSubresourceLayout → List UInt8 := writeRaw

def readSubresourceLayout : Decode VkSubresourceLayout := readRaw VkSubresourceLayout

abbrev VkSurfaceCapabilitiesKHR := Blob 52

def writeSurfaceCapabilitiesKHR : VkSurfaceCapabilitiesKHR → List UInt8 := writeRaw

def readSurfaceCapabilitiesKHR : Decode VkSurfaceCapabilitiesKHR := readRaw VkSurfaceCapabilitiesKHR

structure VkExtensionProperties where
  extensionName : List UInt8
  specVersion : UInt32

def kMaxExtensionNameSize : ℕ := 256

def writeExtensionProperties (s : VkExtensionProperties) : List UInt8 :=
  Writer.string s.extensionName ++ Writer.u32 s.specVersion

def readExtensionProperties : Decode VkExtensionProperties := do
  let name ← bytes Reader.noBound
  require (name.length < kMaxExtensionNameSize)
  let specVersion ← u32
  requireOk
  return { extensionName := name, specVersion }

end VkRemote.Marshal
