import VulkanRemote.Marshal.Pipelines

/-! Render passes of both versions, framebuffers, and what begins and ends a pass or a command buffer. -/

namespace VkRemote.Marshal

open Lib Wire Decode

/-- A count that what is unread can back at `wire` bytes an element, and the array. -/
def readBounded {α : Type} (wire size : ℕ) (m : Decode α) :
    Decode ((count : UInt32) × Ptr (Elements α count.toNat)) := do
  let count ← u32
  requireOk
  let left ← remaining
  require (count.toNat ≤ kMaxArrayElements ∧ count.toNat ≤ left / wire)
  let p ← array count.toNat size m
  return ⟨count, p⟩

/-- A flag that is zero or one, and what follows one. -/
def readFlagged {α : Type} (m : Decode (Ptr α)) : Decode (Ptr α) := do
  let present ← u32
  requireOk
  require (present ≤ 1)
  if present = 0 then return .null
  else m

/-- An attachment reference is 8 bytes. -/
structure VkSubpassDescription where
  flags : UInt32
  pipelineBindPoint : UInt32
  inputAttachmentCount : UInt32
  pInputAttachments : Ptr (Elements (Blob 8) inputAttachmentCount.toNat)
  colorAttachmentCount : UInt32
  pColorAttachments : Ptr (Elements (Blob 8) colorAttachmentCount.toNat)
  pResolveAttachments : Ptr (Elements (Blob 8) colorAttachmentCount.toNat)
  pDepthStencilAttachment : Ptr (Blob 8)
  preserveAttachmentCount : UInt32
  pPreserveAttachments : Ptr (Elements (Blob 4) preserveAttachmentCount.toNat)
  gaps : Gaps [.pad 4, .pad 4, .pad 4] := .zeros _

instance : Raw VkSubpassDescription where
  slots := [.u32, .u32, .u32, .pad 4, .u64, .u32, .pad 4, .u64, .u64, .u64, .u32, .pad 4, .u64]
  record s := (s.flags, s.pipelineBindPoint, s.inputAttachmentCount, s.pInputAttachments.bits,
    s.colorAttachmentCount, s.pColorAttachments.bits, s.pResolveAttachments.bits,
    s.pDepthStencilAttachment.bits, s.preserveAttachmentCount, s.pPreserveAttachments.bits, ())
  gaps s := s.gaps
  ofRecord := fun (flags, bindPoint, ni, inputs, nc, colors, resolves, depth, np, preserves, _) gaps =>
    { flags, pipelineBindPoint := bindPoint, inputAttachmentCount := ni, pInputAttachments := .ofBits inputs,
      colorAttachmentCount := nc, pColorAttachments := .ofBits colors,
      pResolveAttachments := .ofBits resolves, pDepthStencilAttachment := .ofBits depth,
      preserveAttachmentCount := np, pPreserveAttachments := .ofBits preserves, gaps }

def writeSubpassDescription (s : VkSubpassDescription) : List UInt8 :=
  writeRaw { s with pInputAttachments := .null, pColorAttachments := .null, pResolveAttachments := .null,
                    pDepthStencilAttachment := .null, pPreserveAttachments := .null } ++
    writePodArray s.pInputAttachments ++ writePodArray s.pColorAttachments ++
    writeOptPodArray s.pResolveAttachments ++ writeOptPod s.pDepthStencilAttachment ++
    writePodArray s.pPreserveAttachments

def readSubpassDescription : Decode VkSubpassDescription := do
  let s ← readRaw VkSubpassDescription
  let pInputAttachments ← readPodArray 8 s.inputAttachmentCount.toNat
  let pColorAttachments ← readPodArray 8 s.colorAttachmentCount.toNat
  let pResolveAttachments ← readOptPodArray 8 s.colorAttachmentCount.toNat
  let pDepthStencilAttachment ← readOptPod (Blob 8)
  let pPreserveAttachments ← readPodArray 4 s.preserveAttachmentCount.toNat
  return { s with pInputAttachments, pColorAttachments, pResolveAttachments, pDepthStencilAttachment,
                  pPreserveAttachments }

structure VkRenderPassCreateInfo where
  sType : UInt32
  pNext : PNext
  flags : UInt32
  attachmentCount : UInt32
  pAttachments : Ptr (Elements (Blob 36) attachmentCount.toNat)
  subpassCount : UInt32
  pSubpasses : Ptr (Elements VkSubpassDescription subpassCount.toNat)
  dependencyCount : UInt32
  pDependencies : Ptr (Elements (Blob 28) dependencyCount.toNat)
  gaps : Gaps [.pad 4, .pad 4, .pad 4] := .zeros _

instance : Raw VkRenderPassCreateInfo where
  slots := [.u32, .pad 4, .u64, .u32, .u32, .u64, .u32, .pad 4, .u64, .u32, .pad 4, .u64]
  record s := (s.sType, s.pNext.bits, s.flags, s.attachmentCount, s.pAttachments.bits, s.subpassCount,
    s.pSubpasses.bits, s.dependencyCount, s.pDependencies.bits, ())
  gaps s := s.gaps
  ofRecord := fun (sType, pNext, flags, na, attachments, ns, subpasses, nd, dependencies, _) gaps =>
    { sType, pNext := .ofBits pNext, flags, attachmentCount := na, pAttachments := .ofBits attachments,
      subpassCount := ns, pSubpasses := .ofBits subpasses, dependencyCount := nd,
      pDependencies := .ofBits dependencies, gaps }

def writeRenderPassCreateInfo (s : VkRenderPassCreateInfo) : Option (List UInt8) := do
  let chain ← writePnextChain .renderPass s.pNext
  return writeRaw { s with pNext := .null, pAttachments := .null, pSubpasses := .null,
                           pDependencies := .null } ++
    chain ++ writePodArray s.pAttachments ++ s.pSubpasses.items.flatMap writeSubpassDescription ++
    writePodArray s.pDependencies

def readRenderPassCreateInfo : Decode VkRenderPassCreateInfo := do
  let s ← readRaw VkRenderPassCreateInfo
  let pNext ← readPnextChain .renderPass
  let pAttachments ← readPodArray 36 s.attachmentCount.toNat
  require (s.subpassCount.toNat ≤ kMaxArrayElements)
  let pSubpasses ← array s.subpassCount.toNat 72 readSubpassDescription
  let pDependencies ← readPodArray 28 s.dependencyCount.toNat
  return { s with pNext, pAttachments, pSubpasses, pDependencies }

/-- A structure whose `pNext` must be null, with `n` integers behind it. -/
structure Extended (n : ℕ) where
  sType : UInt32
  pNext : Ptr Unit
  fields : Record (List.replicate n .u32)

abbrev VkAttachmentDescription2 := Extended 9

abbrev VkSubpassDependency2 := Extended 8

def attachmentDescription2Type : UInt32 := 1000109000

def subpassDependency2Type : UInt32 := 1000109003

def writeExtended {n : ℕ} (type : UInt32) (s : Extended n) : Option (List UInt8) :=
  if s.sType = type ∧ s.pNext.isNull then some (Writer.i32 s.sType ++ writeFields _ s.fields) else none

def readExtended (n : ℕ) (type : UInt32) : Decode (Extended n) := do
  let sType ← i32
  let fields ← readFields (List.replicate n .u32)
  requireOk
  require (sType = type)
  return { sType, pNext := .null, fields }

/-- `write_attachment_reference2_full`. -/
def writeAttachmentReference2Full (s : VkAttachmentReference2) : Option (List UInt8) :=
  if s.sType = attachmentReference2Type ∧ s.pNext.isNull then some (writeAttachmentReference2 s) else none

structure VkSubpassDescription2 where
  sType : UInt32
  pNext : PNext
  flags : UInt32
  pipelineBindPoint : UInt32
  viewMask : UInt32
  inputAttachmentCount : UInt32
  pInputAttachments : Ptr (Elements VkAttachmentReference2 inputAttachmentCount.toNat)
  colorAttachmentCount : UInt32
  pColorAttachments : Ptr (Elements VkAttachmentReference2 colorAttachmentCount.toNat)
  pResolveAttachments : Ptr (Elements VkAttachmentReference2 colorAttachmentCount.toNat)
  pDepthStencilAttachment : Ptr VkAttachmentReference2
  preserveAttachmentCount : UInt32
  pPreserveAttachments : Ptr (Elements UInt32 preserveAttachmentCount.toNat)

def subpassDescription2Type : UInt32 := 1000109002

/-- `write_subpass_description2`. -/
def writeSubpassDescription2 (s : VkSubpassDescription2) : Option (List UInt8) :=
  if s.sType = subpassDescription2Type ∧ validArray s.pInputAttachments ∧ validArray s.pColorAttachments ∧
      validArray s.pPreserveAttachments then do
    let chain ← writePnextChain .renderPass2 s.pNext
    let inputs ← writeAll writeAttachmentReference2Full s.pInputAttachments.items
    let colors ← writeAll writeAttachmentReference2Full s.pColorAttachments.items
    let resolves ← writeAll writeAttachmentReference2Full s.pResolveAttachments.items
    let depth ← writeAll writeAttachmentReference2Full s.pDepthStencilAttachment.target.toList
    return Writer.i32 s.sType ++ Writer.u32 s.flags ++ Writer.i32 s.pipelineBindPoint ++
      Writer.u32 s.viewMask ++ chain ++ Writer.u32 s.inputAttachmentCount ++ inputs ++
      Writer.u32 s.colorAttachmentCount ++ colors ++
      Writer.u32 (if s.pResolveAttachments.isNull then 0 else 1) ++ resolves ++
      Writer.u32 (if s.pDepthStencilAttachment.isNull then 0 else 1) ++ depth ++
      Writer.u32 s.preserveAttachmentCount ++ writeU32s s.pPreserveAttachments
  else none

/-- `read_subpass_description2`. -/
def readSubpassDescription2 : Decode VkSubpassDescription2 := do
  let sType ← i32
  let flags ← u32
  let pipelineBindPoint ← i32
  let viewMask ← u32
  requireOk
  require (sType = subpassDescription2Type)
  let pNext ← readPnextChain .renderPass2
  let ⟨inputAttachmentCount, pInputAttachments⟩ ← readBounded 16 32 readAttachmentReference2
  let ⟨colorAttachmentCount, pColorAttachments⟩ ← readBounded 16 32 readAttachmentReference2
  let pResolveAttachments ← readFlagged (array colorAttachmentCount.toNat 32 readAttachmentReference2)
  let pDepthStencilAttachment ← readFlagged (do
    allocate 1 32
    let a ← readAttachmentReference2
    return .arena a)
  let ⟨preserveAttachmentCount, pPreserveAttachments⟩ ← readBounded 4 4 u32
  requireOk
  return { sType, pNext, flags, pipelineBindPoint, viewMask, inputAttachmentCount, pInputAttachments,
           colorAttachmentCount, pColorAttachments, pResolveAttachments, pDepthStencilAttachment,
           preserveAttachmentCount, pPreserveAttachments }

structure VkRenderPassCreateInfo2 where
  sType : UInt32
  pNext : PNext
  flags : UInt32
  attachmentCount : UInt32
  pAttachments : Ptr (Elements VkAttachmentDescription2 attachmentCount.toNat)
  subpassCount : UInt32
  pSubpasses : Ptr (Elements VkSubpassDescription2 subpassCount.toNat)
  dependencyCount : UInt32
  pDependencies : Ptr (Elements VkSubpassDependency2 dependencyCount.toNat)
  correlatedViewMaskCount : UInt32
  pCorrelatedViewMasks : Ptr (Elements UInt32 correlatedViewMaskCount.toNat)

def renderPassCreateInfo2Type : UInt32 := 1000109004

def writeRenderPassCreateInfo2 (s : VkRenderPassCreateInfo2) : Option (List UInt8) :=
  if s.sType = renderPassCreateInfo2Type ∧ validArray s.pAttachments ∧ validArray s.pSubpasses ∧
      validArray s.pDependencies ∧ validArray s.pCorrelatedViewMasks then do
    let chain ← writePnextChain .renderPass s.pNext
    let attachments ← writeAll (writeExtended attachmentDescription2Type) s.pAttachments.items
    let subpasses ← writeAll writeSubpassDescription2 s.pSubpasses.items
    let dependencies ← writeAll (writeExtended subpassDependency2Type) s.pDependencies.items
    return Writer.i32 s.sType ++ Writer.u32 s.flags ++ chain ++ Writer.u32 s.attachmentCount ++ attachments ++
      Writer.u32 s.subpassCount ++ subpasses ++ Writer.u32 s.dependencyCount ++ dependencies ++
      Writer.u32 s.correlatedViewMaskCount ++ writeU32s s.pCorrelatedViewMasks
  else none

def readRenderPassCreateInfo2 : Decode VkRenderPassCreateInfo2 := do
  let sType ← i32
  let flags ← u32
  requireOk
  require (sType = renderPassCreateInfo2Type)
  let pNext ← readPnextChain .renderPass
  let ⟨attachmentCount, pAttachments⟩ ← readBounded 40 56 (readExtended 9 attachmentDescription2Type)
  let ⟨subpassCount, pSubpasses⟩ ← readCounted 88 readSubpassDescription2
  let ⟨dependencyCount, pDependencies⟩ ← readBounded 36 48 (readExtended 8 subpassDependency2Type)
  let ⟨correlatedViewMaskCount, pCorrelatedViewMasks⟩ ← readBounded 4 4 u32
  requireOk
  return { sType, pNext, flags, attachmentCount, pAttachments, subpassCount, pSubpasses, dependencyCount,
           pDependencies, correlatedViewMaskCount, pCorrelatedViewMasks }

/-- `extent` is width, height and layers. -/
structure VkFramebufferCreateInfo where
  sType : UInt32
  pNext : PNext
  flags : UInt32
  renderPass : UInt64
  attachmentCount : UInt32
  pAttachments : Ptr (Elements UInt64 attachmentCount.toNat)
  extent : Blob 12
  gaps : Gaps [.pad 4, .pad 4, .pad 4, .pad 4] := .zeros _

instance : Raw VkFramebufferCreateInfo where
  slots := [.u32, .pad 4, .u64, .u32, .pad 4, .u64, .u32, .pad 4, .u64, .blob 12, .pad 4]
  record s := (s.sType, s.pNext.bits, s.flags, s.renderPass, s.attachmentCount, s.pAttachments.bits,
    s.extent, ())
  gaps s := s.gaps
  ofRecord := fun (sType, pNext, flags, renderPass, n, attachments, extent, _) gaps =>
    { sType, pNext := .ofBits pNext, flags, renderPass, attachmentCount := n,
      pAttachments := .ofBits attachments, extent, gaps }

/-- `VK_FRAMEBUFFER_CREATE_IMAGELESS_BIT`. -/
def imageless (flags : UInt32) : Prop := flags &&& 1 ≠ 0

instance (flags : UInt32) : Decidable (imageless flags) := inferInstanceAs (Decidable (_ ≠ _))

def writeFramebufferCreateInfo (s : VkFramebufferCreateInfo) : Option (List UInt8) := do
  let chain ← writePnextChain .framebufferCreate s.pNext
  return writeRaw { s with pNext := .null, pAttachments := .null } ++ chain ++
    if imageless s.flags then [] else writeHandleArray s.pAttachments

def readFramebufferCreateInfo : Decode VkFramebufferCreateInfo := do
  let s ← readRaw VkFramebufferCreateInfo
  let pNext ← readPnextChain .framebufferCreate
  let pAttachments ←
    whenUsed (¬ imageless s.flags) .null (readHandleArray .imageView s.attachmentCount.toNat)
  let renderPass ← patchHandle .renderPass s.renderPass
  return { s with pNext, pAttachments, renderPass }

structure VkRenderPassBeginInfo where
  sType : UInt32
  pNext : PNext
  renderPass : UInt64
  framebuffer : UInt64
  renderArea : Blob 16
  clearValueCount : UInt32
  pClearValues : Ptr (Elements (Blob 16) clearValueCount.toNat)
  gaps : Gaps [.pad 4, .pad 4] := .zeros _

instance : Raw VkRenderPassBeginInfo where
  slots := [.u32, .pad 4, .u64, .u64, .u64, .blob 16, .u32, .pad 4, .u64]
  record s := (s.sType, s.pNext.bits, s.renderPass, s.framebuffer, s.renderArea, s.clearValueCount,
    s.pClearValues.bits, ())
  gaps s := s.gaps
  ofRecord := fun (sType, pNext, renderPass, framebuffer, renderArea, n, values, _) gaps =>
    { sType, pNext := .ofBits pNext, renderPass, framebuffer, renderArea, clearValueCount := n,
      pClearValues := .ofBits values, gaps }

def writeRenderPassBeginInfo (s : VkRenderPassBeginInfo) : Option (List UInt8) := do
  let chain ← writePnextChain .renderPassBegin s.pNext
  return writeRaw { s with pNext := .null, pClearValues := .null } ++ chain ++ writePodArray s.pClearValues

def readRenderPassBeginInfo : Decode VkRenderPassBeginInfo := do
  let s ← readRaw VkRenderPassBeginInfo
  let pNext ← readPnextChain .renderPassBegin
  let pClearValues ← readPodArray 16 s.clearValueCount.toNat
  let renderPass ← patchHandle .renderPass s.renderPass
  let framebuffer ← patchHandle .framebuffer s.framebuffer
  return { s with pNext, pClearValues, renderPass, framebuffer }

def subpassBeginInfoType : UInt32 := 1000109005

def subpassEndInfoType : UInt32 := 1000109006

structure VkSubpassBeginInfo where
  sType : UInt32
  pNext : PNext
  contents : UInt32

def writeSubpassBeginInfo (s : VkSubpassBeginInfo) : Option (List UInt8) :=
  if s.sType = subpassBeginInfoType then do
    let chain ← writePnextChain .renderPass2 s.pNext
    return Writer.i32 s.sType ++ Writer.i32 s.contents ++ chain
  else none

def readSubpassBeginInfo : Decode VkSubpassBeginInfo := do
  let sType ← i32
  let contents ← i32
  requireOk
  require (sType = subpassBeginInfoType)
  let pNext ← readPnextChain .renderPass2
  return { sType, pNext, contents }

structure VkSubpassEndInfo where
  sType : UInt32
  pNext : PNext

def writeSubpassEndInfo (s : VkSubpassEndInfo) : Option (List UInt8) :=
  if s.sType = subpassEndInfoType then do
    let chain ← writePnextChain .renderPass2 s.pNext
    return Writer.i32 s.sType ++ chain
  else none

def readSubpassEndInfo : Decode VkSubpassEndInfo := do
  let sType ← i32
  requireOk
  require (sType = subpassEndInfoType)
  let pNext ← readPnextChain .renderPass2
  return { sType, pNext }

structure VkCommandBufferAllocateInfo where
  sType : UInt32
  pNext : PNext
  commandPool : UInt64
  level : UInt32
  commandBufferCount : UInt32
  gaps : Gaps [.pad 4] := .zeros _

instance : Raw VkCommandBufferAllocateInfo where
  slots := [.u32, .pad 4, .u64, .u64, .u32, .u32]
  record s := (s.sType, s.pNext.bits, s.commandPool, s.level, s.commandBufferCount, ())
  gaps s := s.gaps
  ofRecord := fun (sType, pNext, commandPool, level, n, _) gaps =>
    { sType, pNext := .ofBits pNext, commandPool, level, commandBufferCount := n, gaps }

def writeCommandBufferAllocateInfo (s : VkCommandBufferAllocateInfo) : List UInt8 :=
  writeRaw { s with pNext := .null }

def readCommandBufferAllocateInfo : Decode VkCommandBufferAllocateInfo := do
  let s ← readRaw VkCommandBufferAllocateInfo
  require (s.commandBufferCount.toNat ≤ kMaxArrayElements)
  let commandPool ← patchHandle .commandPool s.commandPool
  return { s with commandPool }

structure VkCommandBufferInheritanceInfo where
  sType : UInt32
  pNext : PNext
  renderPass : UInt64
  subpass : UInt32
  framebuffer : UInt64
  occlusionQueryEnable : UInt32
  queryFlags : UInt32
  pipelineStatistics : UInt32

structure VkCommandBufferBeginInfo where
  sType : UInt32
  pNext : PNext
  flags : UInt32
  pInheritanceInfo : Ptr VkCommandBufferInheritanceInfo

def commandBufferBeginInfoType : UInt32 := 42

def commandBufferInheritanceInfoType : UInt32 := 41

/-- Zero for null. -/
def presence (isNull : Bool) : UInt32 := if isNull then 0 else 1

def writeInheritanceInfo (i : VkCommandBufferInheritanceInfo) : List UInt8 :=
  Writer.i32 i.sType ++ Writer.u32 (presence i.pNext.isNull) ++ Writer.handle i.renderPass ++
    Writer.u32 i.subpass ++ Writer.handle i.framebuffer ++ Writer.u32 i.occlusionQueryEnable ++
    Writer.u32 i.queryFlags ++ Writer.u32 i.pipelineStatistics

def writeCommandBufferBeginInfo (s : VkCommandBufferBeginInfo) : List UInt8 :=
  Writer.i32 s.sType ++ Writer.u32 s.flags ++ Writer.u32 (presence s.pNext.isNull) ++
    writePresent writeInheritanceInfo s.pInheritanceInfo

def readInheritanceInfo : Decode VkCommandBufferInheritanceInfo := do
  let sType ← i32
  let hasPnext ← u32
  let renderPassId ← handle
  let subpass ← u32
  let framebufferId ← handle
  let occlusionQueryEnable ← u32
  let queryFlags ← u32
  let pipelineStatistics ← u32
  requireOk
  require (sType = commandBufferInheritanceInfoType ∧ hasPnext = 0)
  let renderPass ← patchHandle .renderPass renderPassId
  let framebuffer ← patchHandle .framebuffer framebufferId
  require ((renderPassId = 0 ∨ renderPass ≠ 0) ∧ (framebufferId = 0 ∨ framebuffer ≠ 0))
  return { sType, pNext := .null, renderPass, subpass, framebuffer, occlusionQueryEnable, queryFlags,
           pipelineStatistics }

def readCommandBufferBeginInfo : Decode VkCommandBufferBeginInfo := do
  let sType ← i32
  let flags ← u32
  let hasPnext ← u32
  let hasInheritance ← u32
  requireOk
  require (sType = commandBufferBeginInfoType ∧ hasPnext = 0 ∧ hasInheritance ≤ 1)
  if hasInheritance = 0 then return { sType, pNext := .null, flags, pInheritanceInfo := .null }
  else do
    allocate 1 56
    let i ← readInheritanceInfo
    return { sType, pNext := .null, flags, pInheritanceInfo := .arena i }

end VkRemote.Marshal
