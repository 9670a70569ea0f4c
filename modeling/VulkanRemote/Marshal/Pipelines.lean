import VulkanRemote.Marshal.Chain

/-! Pipelines, their stages and states, shader modules, pipeline layouts and caches. Of a structure that is
copied as it lies in memory, fields that nothing looks at are kept together as bytes. -/

namespace VkRemote.Marshal

open Lib Wire Decode

/-- `(n, what follows)` where a sub-structure is there. -/
def writePresent {α : Type} (f : α → List UInt8) (p : Ptr α) : List UInt8 :=
  match p.target with
  | none => Writer.u32 0
  | some a => Writer.u32 1 ++ f a

/-- `present` and then a structure of `size` bytes from the arena. -/
def readPresent {α : Type} (size : ℕ) (m : Decode α) : Decode (Ptr α) := do
  let present ← u32
  requireOk
  if present = 0 then return .null
  else do
    allocate 1 size
    let a ← m
    return .arena a

/-- An entry of the map is 16 bytes. -/
structure VkSpecializationInfo where
  mapEntryCount : UInt32
  pMapEntries : Ptr (Elements (Blob 16) mapEntryCount.toNat)
  dataSize : UInt64
  pData : Ptr (Elements UInt8 dataSize.toNat)
  gaps : Gaps [.pad 4] := .zeros _

instance : Raw VkSpecializationInfo where
  slots := [.u32, .pad 4, .u64, .u64, .u64]
  record s := (s.mapEntryCount, s.pMapEntries.bits, s.dataSize, s.pData.bits, ())
  gaps s := s.gaps
  ofRecord := fun (count, entries, size, data, _) gaps =>
    { mapEntryCount := count, pMapEntries := .ofBits entries, dataSize := size, pData := .ofBits data, gaps }

def writeSpecializationInfo (s : VkSpecializationInfo) : List UInt8 :=
  writeRaw { s with pMapEntries := .null, pData := .null } ++ writePodArray s.pMapEntries ++
    Writer.bytes s.pData.items

def readSpecializationInfo : Decode VkSpecializationInfo := do
  let s ← readRaw VkSpecializationInfo
  let pMapEntries ← readPodArray 16 s.mapEntryCount.toNat
  let pData ← readBytesToArena s.dataSize.toNat
  return { s with pMapEntries, pData }

structure VkPipelineShaderStageCreateInfo where
  sType : UInt32
  pNext : PNext
  flags : UInt32
  stage : UInt32
  module : UInt64
  pName : Ptr (List UInt8)
  pSpecializationInfo : Ptr VkSpecializationInfo
  gaps : Gaps [.pad 4] := .zeros _

instance : Raw VkPipelineShaderStageCreateInfo where
  slots := [.u32, .pad 4, .u64, .u32, .u32, .u64, .u64, .u64]
  record s := (s.sType, s.pNext.bits, s.flags, s.stage, s.module, s.pName.bits, s.pSpecializationInfo.bits, ())
  gaps s := s.gaps
  ofRecord := fun (sType, pNext, flags, stage, module, name, info, _) gaps =>
    { sType, pNext := .ofBits pNext, flags, stage, module, pName := .ofBits name,
      pSpecializationInfo := .ofBits info, gaps }

def writePipelineShaderStageCreateInfo (s : VkPipelineShaderStageCreateInfo) : List UInt8 :=
  writeRaw { s with pNext := .null, pName := .null, pSpecializationInfo := .null } ++
    Writer.string (s.pName.target.getD []) ++ writePresent writeSpecializationInfo s.pSpecializationInfo

/-- The `pNext` that came with the bytes stays. -/
def readPipelineShaderStageCreateInfo : Decode VkPipelineShaderStageCreateInfo := do
  let s ← readRaw VkPipelineShaderStageCreateInfo
  let pName ← readString
  let pSpecializationInfo ← readPresent 32 readSpecializationInfo
  let module ← patchHandle .shaderModule s.module
  require (s.module = 0 ∨ module ≠ 0)
  return { s with pName, pSpecializationInfo, module }

structure VkPipelineVertexInputStateCreateInfo where
  sType : UInt32
  pNext : PNext
  flags : UInt32
  vertexBindingDescriptionCount : UInt32
  pVertexBindingDescriptions : Ptr (Elements (Blob 12) vertexBindingDescriptionCount.toNat)
  vertexAttributeDescriptionCount : UInt32
  pVertexAttributeDescriptions : Ptr (Elements (Blob 16) vertexAttributeDescriptionCount.toNat)
  gaps : Gaps [.pad 4, .pad 4] := .zeros _

instance : Raw VkPipelineVertexInputStateCreateInfo where
  slots := [.u32, .pad 4, .u64, .u32, .u32, .u64, .u32, .pad 4, .u64]
  record s := (s.sType, s.pNext.bits, s.flags, s.vertexBindingDescriptionCount,
    s.pVertexBindingDescriptions.bits, s.vertexAttributeDescriptionCount,
    s.pVertexAttributeDescriptions.bits, ())
  gaps s := s.gaps
  ofRecord := fun (sType, pNext, flags, nb, bindings, na, attributes, _) gaps =>
    { sType, pNext := .ofBits pNext, flags, vertexBindingDescriptionCount := nb,
      pVertexBindingDescriptions := .ofBits bindings, vertexAttributeDescriptionCount := na,
      pVertexAttributeDescriptions := .ofBits attributes, gaps }

def writeVertexInputState (s : VkPipelineVertexInputStateCreateInfo) : List UInt8 :=
  writeRaw { s with pNext := .null, pVertexBindingDescriptions := .null,
                    pVertexAttributeDescriptions := .null } ++
    writePodArray s.pVertexBindingDescriptions ++ writePodArray s.pVertexAttributeDescriptions

def readVertexInputState : Decode VkPipelineVertexInputStateCreateInfo := do
  let s ← readRaw VkPipelineVertexInputStateCreateInfo
  let pVertexBindingDescriptions ← readPodArray 12 s.vertexBindingDescriptionCount.toNat
  let pVertexAttributeDescriptions ← readPodArray 16 s.vertexAttributeDescriptionCount.toNat
  return { s with pVertexBindingDescriptions, pVertexAttributeDescriptions }

/-- A state with nothing behind `pNext` but plain fields, `n` bytes of them and a gap of `gap`. -/
structure PlainState (n gap : ℕ) where
  sType : UInt32
  pNext : PNext
  fields : Blob n
  gaps : Gaps [.pad 4, .pad gap] := .zeros _

instance (n gap : ℕ) : Raw (PlainState n gap) where
  slots := [.u32, .pad 4, .u64, .blob n, .pad gap]
  record s := (s.sType, s.pNext.bits, s.fields, ())
  gaps s := s.gaps
  ofRecord := fun (sType, pNext, fields, _) gaps => { sType, pNext := .ofBits pNext, fields, gaps }

def writePlainState {n gap : ℕ} (s : PlainState n gap) : List UInt8 :=
  writeRaw (α := PlainState n gap) { s with pNext := .null }

abbrev VkPipelineInputAssemblyStateCreateInfo := PlainState 12 4

abbrev VkPipelineTessellationStateCreateInfo := PlainState 8 0

abbrev VkPipelineRasterizationStateCreateInfo := PlainState 44 4

abbrev VkPipelineDepthStencilStateCreateInfo := PlainState 88 0

structure VkPipelineViewportStateCreateInfo where
  sType : UInt32
  pNext : PNext
  flags : UInt32
  viewportCount : UInt32
  pViewports : Ptr (Elements (Blob 24) viewportCount.toNat)
  scissorCount : UInt32
  pScissors : Ptr (Elements (Blob 16) scissorCount.toNat)
  gaps : Gaps [.pad 4, .pad 4] := .zeros _

instance : Raw VkPipelineViewportStateCreateInfo where
  slots := [.u32, .pad 4, .u64, .u32, .u32, .u64, .u32, .pad 4, .u64]
  record s := (s.sType, s.pNext.bits, s.flags, s.viewportCount, s.pViewports.bits, s.scissorCount,
    s.pScissors.bits, ())
  gaps s := s.gaps
  ofRecord := fun (sType, pNext, flags, nv, viewports, ns, scissors, _) gaps =>
    { sType, pNext := .ofBits pNext, flags, viewportCount := nv, pViewports := .ofBits viewports,
      scissorCount := ns, pScissors := .ofBits scissors, gaps }

def writeViewportState (s : VkPipelineViewportStateCreateInfo) : List UInt8 :=
  writeRaw { s with pNext := .null, pViewports := .null, pScissors := .null } ++
    writeOptPodArray s.pViewports ++ writeOptPodArray s.pScissors

def readViewportState : Decode VkPipelineViewportStateCreateInfo := do
  let s ← readRaw VkPipelineViewportStateCreateInfo
  let pViewports ← readOptPodArray 24 s.viewportCount.toNat
  let pScissors ← readOptPodArray 16 s.scissorCount.toNat
  return { s with pViewports, pScissors }

/-- One bit of 1 to 64. -/
def validSamples (n : UInt32) : Prop := 1 ≤ n ∧ n ≤ 64 ∧ n &&& (n - 1) = 0

instance (n : UInt32) : Decidable (validSamples n) := inferInstanceAs (Decidable (_ ∧ _ ∧ _))

structure VkPipelineMultisampleStateCreateInfo where
  sType : UInt32
  pNext : PNext
  flags : UInt32
  rasterizationSamples : UInt32
  sampleShading : Blob 8
  pSampleMask : Ptr (Elements (Blob 4) ((rasterizationSamples.toNat + 31) / 32))
  alphaToCoverageEnable : UInt32
  alphaToOneEnable : UInt32
  gaps : Gaps [.pad 4] := .zeros _

instance : Raw VkPipelineMultisampleStateCreateInfo where
  slots := [.u32, .pad 4, .u64, .u32, .u32, .blob 8, .u64, .u32, .u32]
  record s := (s.sType, s.pNext.bits, s.flags, s.rasterizationSamples, s.sampleShading, s.pSampleMask.bits,
    s.alphaToCoverageEnable, s.alphaToOneEnable, ())
  gaps s := s.gaps
  ofRecord := fun (sType, pNext, flags, samples, shading, mask, coverage, one, _) gaps =>
    { sType, pNext := .ofBits pNext, flags, rasterizationSamples := samples, sampleShading := shading,
      pSampleMask := .ofBits mask, alphaToCoverageEnable := coverage, alphaToOneEnable := one, gaps }

def writeMultisampleState (s : VkPipelineMultisampleStateCreateInfo) : List UInt8 :=
  writeRaw { s with pNext := .null, pSampleMask := .null } ++ writeOptPodArray s.pSampleMask

def readMultisampleState : Decode VkPipelineMultisampleStateCreateInfo := do
  let s ← readRaw VkPipelineMultisampleStateCreateInfo
  require (validSamples s.rasterizationSamples)
  let pSampleMask ← readOptPodArray 4 ((s.rasterizationSamples.toNat + 31) / 32)
  return { s with pSampleMask }

/-- `blend` is `logicOpEnable` and `logicOp`. -/
structure VkPipelineColorBlendStateCreateInfo where
  sType : UInt32
  pNext : PNext
  flags : UInt32
  blend : Blob 8
  attachmentCount : UInt32
  pAttachments : Ptr (Elements (Blob 32) attachmentCount.toNat)
  blendConstants : Blob 16
  gaps : Gaps [.pad 4] := .zeros _

instance : Raw VkPipelineColorBlendStateCreateInfo where
  slots := [.u32, .pad 4, .u64, .u32, .blob 8, .u32, .u64, .blob 16]
  record s := (s.sType, s.pNext.bits, s.flags, s.blend, s.attachmentCount, s.pAttachments.bits,
    s.blendConstants, ())
  gaps s := s.gaps
  ofRecord := fun (sType, pNext, flags, blend, n, attachments, constants, _) gaps =>
    { sType, pNext := .ofBits pNext, flags, blend, attachmentCount := n, pAttachments := .ofBits attachments,
      blendConstants := constants, gaps }

def writeColorBlendState (s : VkPipelineColorBlendStateCreateInfo) : List UInt8 :=
  writeRaw { s with pNext := .null, pAttachments := .null } ++ writePodArray s.pAttachments

def readColorBlendState : Decode VkPipelineColorBlendStateCreateInfo := do
  let s ← readRaw VkPipelineColorBlendStateCreateInfo
  let pAttachments ← readPodArray 32 s.attachmentCount.toNat
  return { s with pAttachments }

structure VkPipelineDynamicStateCreateInfo where
  sType : UInt32
  pNext : PNext
  flags : UInt32
  dynamicStateCount : UInt32
  pDynamicStates : Ptr (Elements (Blob 4) dynamicStateCount.toNat)
  gaps : Gaps [.pad 4] := .zeros _

instance : Raw VkPipelineDynamicStateCreateInfo where
  slots := [.u32, .pad 4, .u64, .u32, .u32, .u64]
  record s := (s.sType, s.pNext.bits, s.flags, s.dynamicStateCount, s.pDynamicStates.bits, ())
  gaps s := s.gaps
  ofRecord := fun (sType, pNext, flags, n, states, _) gaps =>
    { sType, pNext := .ofBits pNext, flags, dynamicStateCount := n, pDynamicStates := .ofBits states, gaps }

def writeDynamicState (s : VkPipelineDynamicStateCreateInfo) : List UInt8 :=
  writeRaw { s with pNext := .null, pDynamicStates := .null } ++ writePodArray s.pDynamicStates

def readDynamicState : Decode VkPipelineDynamicStateCreateInfo := do
  let s ← readRaw VkPipelineDynamicStateCreateInfo
  let pDynamicStates ← readPodArray 4 s.dynamicStateCount.toNat
  return { s with pDynamicStates }

structure VkGraphicsPipelineCreateInfo where
  sType : UInt32
  pNext : PNext
  flags : UInt32
  stageCount : UInt32
  pStages : Ptr (Elements VkPipelineShaderStageCreateInfo stageCount.toNat)
  pVertexInputState : Ptr VkPipelineVertexInputStateCreateInfo
  pInputAssemblyState : Ptr VkPipelineInputAssemblyStateCreateInfo
  pTessellationState : Ptr VkPipelineTessellationStateCreateInfo
  pViewportState : Ptr VkPipelineViewportStateCreateInfo
  pRasterizationState : Ptr VkPipelineRasterizationStateCreateInfo
  pMultisampleState : Ptr VkPipelineMultisampleStateCreateInfo
  pDepthStencilState : Ptr VkPipelineDepthStencilStateCreateInfo
  pColorBlendState : Ptr VkPipelineColorBlendStateCreateInfo
  pDynamicState : Ptr VkPipelineDynamicStateCreateInfo
  layout : UInt64
  renderPass : UInt64
  subpass : UInt32
  basePipelineHandle : UInt64
  basePipelineIndex : UInt32
  gaps : Gaps [.pad 4, .pad 4, .pad 4] := .zeros _

instance : Raw VkGraphicsPipelineCreateInfo where
  slots := [.u32, .pad 4, .u64, .u32, .u32, .u64, .u64, .u64, .u64, .u64, .u64, .u64, .u64, .u64, .u64, .u64,
    .u64, .u32, .pad 4, .u64, .u32, .pad 4]
  record s := (s.sType, s.pNext.bits, s.flags, s.stageCount, s.pStages.bits, s.pVertexInputState.bits,
    s.pInputAssemblyState.bits, s.pTessellationState.bits, s.pViewportState.bits,
    s.pRasterizationState.bits, s.pMultisampleState.bits, s.pDepthStencilState.bits,
    s.pColorBlendState.bits, s.pDynamicState.bits, s.layout, s.renderPass, s.subpass,
    s.basePipelineHandle, s.basePipelineIndex, ())
  gaps s := s.gaps
  ofRecord := fun (sType, pNext, flags, n, stages, vertexInput, assembly, tessellation, viewport, raster,
      multisample, depthStencil, colorBlend, dynamic, layout, renderPass, subpass, base, index, _) gaps =>
    { sType, pNext := .ofBits pNext, flags, stageCount := n, pStages := .ofBits stages,
      pVertexInputState := .ofBits vertexInput, pInputAssemblyState := .ofBits assembly,
      pTessellationState := .ofBits tessellation, pViewportState := .ofBits viewport,
      pRasterizationState := .ofBits raster, pMultisampleState := .ofBits multisample,
      pDepthStencilState := .ofBits depthStencil, pColorBlendState := .ofBits colorBlend,
      pDynamicState := .ofBits dynamic, layout, renderPass, subpass, basePipelineHandle := base,
      basePipelineIndex := index, gaps }

/-- The copy that goes ahead, with no pointer in it. -/
def VkGraphicsPipelineCreateInfo.header (s : VkGraphicsPipelineCreateInfo) : VkGraphicsPipelineCreateInfo :=
  { s with pNext := .null, pStages := .null, pVertexInputState := .null, pInputAssemblyState := .null,
           pTessellationState := .null, pViewportState := .null, pRasterizationState := .null,
           pMultisampleState := .null, pDepthStencilState := .null, pColorBlendState := .null,
           pDynamicState := .null }

/-- What the encoder checks of a state that is there. -/
def whenPresent {α : Type} (p : Ptr α) (c : α → Prop) : Prop := ∀ a ∈ p.target, c a

instance {α : Type} (p : Ptr α) (c : α → Prop) [DecidablePred c] : Decidable (whenPresent p c) :=
  inferInstanceAs (Decidable (∀ a ∈ p.target, c a))

/-- The condition of `write_GraphicsPipelineCreateInfo`. -/
def VkGraphicsPipelineCreateInfo.encodable (s : VkGraphicsPipelineCreateInfo) : Prop :=
  validArray s.pStages ∧
    whenPresent s.pVertexInputState (fun v =>
      validArray v.pVertexBindingDescriptions ∧ validArray v.pVertexAttributeDescriptions) ∧
    whenPresent s.pViewportState (fun v =>
      v.viewportCount.toNat ≤ kMaxArrayElements ∧ v.scissorCount.toNat ≤ kMaxArrayElements) ∧
    whenPresent s.pMultisampleState (fun m => validSamples m.rasterizationSamples) ∧
    whenPresent s.pColorBlendState (fun c => validArray c.pAttachments) ∧
    whenPresent s.pDynamicState (fun d => validArray d.pDynamicStates)

instance (s : VkGraphicsPipelineCreateInfo) : Decidable s.encodable :=
  inferInstanceAs (Decidable (_ ∧ _ ∧ _ ∧ _ ∧ _ ∧ _))

/-- The chain of a tessellation state; nothing where there is none. -/
def writeTessellationChain (p : Ptr VkPipelineTessellationStateCreateInfo) : Option (List UInt8) :=
  match p.target with
  | none => some []
  | some t => writePnextChain .tessellationState t.pNext

/-- Four of the states are copied with their `pNext`. -/
def writeGraphicsPipelineCreateInfo (s : VkGraphicsPipelineCreateInfo) : Option (List UInt8) :=
  if s.encodable then do
    let chain ← writePnextChain .graphicsPipeline s.pNext
    let tessellationChain ← writeTessellationChain s.pTessellationState
    return writeRaw s.header ++ s.pStages.items.flatMap writePipelineShaderStageCreateInfo ++
      writePresent writeVertexInputState s.pVertexInputState ++ writeOptPod s.pInputAssemblyState ++
      writeOptPod s.pTessellationState ++ writePresent writeViewportState s.pViewportState ++
      writeOptPod s.pRasterizationState ++ writePresent writeMultisampleState s.pMultisampleState ++
      writeOptPod s.pDepthStencilState ++ writePresent writeColorBlendState s.pColorBlendState ++
      writePresent writeDynamicState s.pDynamicState ++ chain ++ tessellationChain
  else none

/-- The chain of the tessellation state, which replaces the `pNext` that came with its bytes. -/
def readTessellationChain :
    Ptr VkPipelineTessellationStateCreateInfo → Decode (Ptr VkPipelineTessellationStateCreateInfo)
  | .arena t => do
    let pNext ← readPnextChain .tessellationState
    return .arena { t with pNext }
  | p => pure p

def readGraphicsPipelineCreateInfo : Decode VkGraphicsPipelineCreateInfo := do
  let s ← readRaw VkGraphicsPipelineCreateInfo
  requireOk
  let left ← remaining
  require (s.stageCount.toNat ≤ kMaxArrayElements ∧ s.stageCount.toNat ≤ left / 12)
  let pStages ← array s.stageCount.toNat 48 readPipelineShaderStageCreateInfo
  let pVertexInputState ← readPresent 48 readVertexInputState
  let pInputAssemblyState ← readOptPod VkPipelineInputAssemblyStateCreateInfo
  let pTessellationState ← readOptPod VkPipelineTessellationStateCreateInfo
  let pViewportState ← readPresent 48 readViewportState
  let pRasterizationState ← readOptPod VkPipelineRasterizationStateCreateInfo
  let pMultisampleState ← readPresent 48 readMultisampleState
  let pDepthStencilState ← readOptPod VkPipelineDepthStencilStateCreateInfo
  let pColorBlendState ← readPresent 56 readColorBlendState
  let pDynamicState ← readPresent 32 readDynamicState
  let pNext ← readPnextChain .graphicsPipeline
  let pTessellationState ← readTessellationChain pTessellationState
  let layout ← patchHandle .pipelineLayout s.layout
  let renderPass ← patchHandle .renderPass s.renderPass
  let basePipelineHandle ← patchHandle .pipeline s.basePipelineHandle
  require ((s.layout = 0 ∨ layout ≠ 0) ∧ (s.renderPass = 0 ∨ renderPass ≠ 0) ∧
    (s.basePipelineHandle = 0 ∨ basePipelineHandle ≠ 0))
  return { s with pStages, pVertexInputState, pInputAssemblyState, pTessellationState, pViewportState,
                  pRasterizationState, pMultisampleState, pDepthStencilState, pColorBlendState,
                  pDynamicState, pNext, layout, renderPass, basePipelineHandle }

structure VkComputePipelineCreateInfo where
  sType : UInt32
  pNext : PNext
  flags : UInt32
  stage : VkPipelineShaderStageCreateInfo
  layout : UInt64
  basePipelineHandle : UInt64
  basePipelineIndex : UInt32
  gaps : Gaps [.pad 4, .pad 4, .pad 4] := .zeros _

/-- Two of the gaps lie before the stage, the third one behind it. -/
instance : Raw VkComputePipelineCreateInfo where
  slots := [.u32, .pad 4, .u64, .u32, .pad 4, .u32, .pad 4, .u64, .u32, .u32, .u64, .u64, .u64, .u64, .u64,
    .u32, .pad 4]
  record s := (s.sType, s.pNext.bits, s.flags, s.stage.sType, s.stage.pNext.bits, s.stage.flags,
    s.stage.stage, s.stage.module, s.stage.pName.bits, s.stage.pSpecializationInfo.bits, s.layout,
    s.basePipelineHandle, s.basePipelineIndex, ())
  gaps s := (s.gaps.1, s.gaps.2.1, s.stage.gaps.1, s.gaps.2.2.1, ())
  ofRecord := fun (sType, pNext, flags, stageType, stageNext, stageFlags, stage, module, name, info, layout,
      base, index, _) (type, beforeStage, inStage, tail, _) =>
    { sType, pNext := .ofBits pNext, flags,
      stage := { sType := stageType, pNext := .ofBits stageNext, flags := stageFlags, stage, module,
                 pName := .ofBits name, pSpecializationInfo := .ofBits info, gaps := (inStage, ()) },
      layout, basePipelineHandle := base, basePipelineIndex := index, gaps := (type, beforeStage, tail, ()) }

/-- The stage goes twice, the first time as it lies in memory. -/
def writeComputePipelineCreateInfo (s : VkComputePipelineCreateInfo) : List UInt8 :=
  writeRaw { s with pNext := .null } ++ writePipelineShaderStageCreateInfo s.stage

def readComputePipelineCreateInfo : Decode VkComputePipelineCreateInfo := do
  let s ← readRaw VkComputePipelineCreateInfo
  let stage ← readPipelineShaderStageCreateInfo
  let layout ← patchHandle .pipelineLayout s.layout
  let basePipelineHandle ← patchHandle .pipeline s.basePipelineHandle
  require ((s.stage.module = 0 ∨ stage.module ≠ 0) ∧ (s.layout = 0 ∨ layout ≠ 0) ∧
    (s.basePipelineHandle = 0 ∨ basePipelineHandle ≠ 0))
  return { s with pNext := .null, stage := { stage with pNext := .null }, layout, basePipelineHandle }

def kMaxShaderCodeBytes : ℕ := 16 * 1024 * 1024

def shaderModuleCreateInfoType : UInt32 := 16

structure VkShaderModuleCreateInfo where
  sType : UInt32
  pNext : PNext
  flags : UInt32
  codeSize : UInt64
  pCode : Ptr (Elements UInt32 (codeSize.toNat / 4))

def writeShaderModuleCreateInfo (s : VkShaderModuleCreateInfo) : Option (List UInt8) :=
  if s.sType ≠ shaderModuleCreateInfoType ∨ s.codeSize = 0 ∨ s.codeSize.toNat % 4 ≠ 0 ∨
      kMaxShaderCodeBytes < s.codeSize.toNat ∨ s.pCode.isNull ∨ s.pCode.bits.toNat % 4 ≠ 0 then none
  else do
    let chain ← writePnextChain .shaderModule s.pNext
    return Writer.i32 s.sType ++ Writer.u32 s.flags ++ chain ++ Writer.u64 s.codeSize ++ writeU32s s.pCode

def readShaderModuleCreateInfo : Decode VkShaderModuleCreateInfo := do
  let sType ← i32
  let flags ← u32
  requireOk
  require (sType = shaderModuleCreateInfoType)
  let pNext ← readPnextChain .shaderModule
  let codeSize ← u64
  requireOk
  let left ← remaining
  require (codeSize ≠ 0 ∧ codeSize.toNat % 4 = 0 ∧ codeSize.toNat ≤ kMaxShaderCodeBytes ∧
    codeSize.toNat = left)
  let pCode ← array (codeSize.toNat / 4) 4 u32
  requireOk
  let left ← remaining
  require (left = 0)
  return { sType, pNext, flags, codeSize, pCode }

structure VkPipelineLayoutCreateInfo where
  sType : UInt32
  pNext : PNext
  flags : UInt32
  setLayoutCount : UInt32
  pSetLayouts : Ptr (Elements UInt64 setLayoutCount.toNat)
  pushConstantRangeCount : UInt32
  pPushConstantRanges : Ptr (Elements (Blob 12) pushConstantRangeCount.toNat)
  gaps : Gaps [.pad 4, .pad 4] := .zeros _

instance : Raw VkPipelineLayoutCreateInfo where
  slots := [.u32, .pad 4, .u64, .u32, .u32, .u64, .u32, .pad 4, .u64]
  record s := (s.sType, s.pNext.bits, s.flags, s.setLayoutCount, s.pSetLayouts.bits,
    s.pushConstantRangeCount, s.pPushConstantRanges.bits, ())
  gaps s := s.gaps
  ofRecord := fun (sType, pNext, flags, n, layouts, m, ranges, _) gaps =>
    { sType, pNext := .ofBits pNext, flags, setLayoutCount := n, pSetLayouts := .ofBits layouts,
      pushConstantRangeCount := m, pPushConstantRanges := .ofBits ranges, gaps }

def writePipelineLayoutCreateInfo (s : VkPipelineLayoutCreateInfo) : List UInt8 :=
  writeRaw { s with pNext := .null, pSetLayouts := .null, pPushConstantRanges := .null } ++
    writeHandleArray s.pSetLayouts ++ writePodArray s.pPushConstantRanges

def readPipelineLayoutCreateInfo : Decode VkPipelineLayoutCreateInfo := do
  let s ← readRaw VkPipelineLayoutCreateInfo
  let pSetLayouts ← readHandleArray .descriptorSetLayout s.setLayoutCount.toNat
  let pPushConstantRanges ← readPodArray 12 s.pushConstantRangeCount.toNat
  return { s with pSetLayouts, pPushConstantRanges }

structure VkPipelineCacheCreateInfo where
  sType : UInt32
  pNext : PNext
  flags : UInt32
  initialDataSize : UInt64
  pInitialData : Ptr (Elements UInt8 initialDataSize.toNat)
  gaps : Gaps [.pad 4, .pad 4] := .zeros _

instance : Raw VkPipelineCacheCreateInfo where
  slots := [.u32, .pad 4, .u64, .u32, .pad 4, .u64, .u64]
  record s := (s.sType, s.pNext.bits, s.flags, s.initialDataSize, s.pInitialData.bits, ())
  gaps s := s.gaps
  ofRecord := fun (sType, pNext, flags, size, data, _) gaps =>
    { sType, pNext := .ofBits pNext, flags, initialDataSize := size, pInitialData := .ofBits data, gaps }

def writePipelineCacheCreateInfo (s : VkPipelineCacheCreateInfo) : List UInt8 :=
  writeRaw { s with pNext := .null, pInitialData := .null } ++ Writer.bytes s.pInitialData.items

def readPipelineCacheCreateInfo : Decode VkPipelineCacheCreateInfo := do
  let s ← readRaw VkPipelineCacheCreateInfo
  let pInitialData ← readBytesToArena s.initialDataSize.toNat
  return { s with pInitialData }

end VkRemote.Marshal
