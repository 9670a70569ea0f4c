import VulkanRemote.Marshal.Exposed

/-! What the encoders put on the wire besides contents: addresses of the client, and bytes in gaps. -/

namespace VkRemote.Marshal

open Lib Wire

namespace VkGraphicsPipelineCreateInfo

def contents (s : VkGraphicsPipelineCreateInfo) : VkGraphicsPipelineCreateInfo :=
  { s with pNext := s.pNext.contents,
           pStages := s.pStages.contents (List.Vector.map VkPipelineShaderStageCreateInfo.contents),
           pVertexInputState := s.pVertexInputState.contents VkPipelineVertexInputStateCreateInfo.contents,
           pInputAssemblyState := s.pInputAssemblyState.contents PlainState.contents,
           pTessellationState := s.pTessellationState.contents PlainState.contents,
           pViewportState := s.pViewportState.contents VkPipelineViewportStateCreateInfo.contents,
           pRasterizationState := s.pRasterizationState.contents PlainState.contents,
           pMultisampleState := s.pMultisampleState.contents VkPipelineMultisampleStateCreateInfo.contents,
           pDepthStencilState := s.pDepthStencilState.contents PlainState.contents,
           pColorBlendState := s.pColorBlendState.contents VkPipelineColorBlendStateCreateInfo.contents,
           pDynamicState := s.pDynamicState.contents VkPipelineDynamicStateCreateInfo.contents }

/-- What is written around the four states that are copied as they lie in memory. -/
def writeAround (s : VkGraphicsPipelineCreateInfo) (assembly tessellation raster depthStencil : List UInt8) :
    Option (List UInt8) :=
  if s.encodable then do
    let chain ← writePnextChain .graphicsPipeline s.pNext
    let tessellationChain ← writeTessellationChain s.pTessellationState
    return writeRaw s.header ++ s.pStages.items.flatMap writePipelineShaderStageCreateInfo ++
      writePresent writeVertexInputState s.pVertexInputState ++ assembly ++ tessellation ++
      writePresent writeViewportState s.pViewportState ++ raster ++
      writePresent writeMultisampleState s.pMultisampleState ++ depthStencil ++
      writePresent writeColorBlendState s.pColorBlendState ++
      writePresent writeDynamicState s.pDynamicState ++ chain ++ tessellationChain
  else none

theorem write_eq_writeAround (s : VkGraphicsPipelineCreateInfo) :
    writeGraphicsPipelineCreateInfo s =
      s.writeAround (writeOptPod s.pInputAssemblyState) (writeOptPod s.pTessellationState)
        (writeOptPod s.pRasterizationState) (writeOptPod s.pDepthStencilState) := rfl

theorem encodable_contents (s : VkGraphicsPipelineCreateInfo) : s.contents.encodable ↔ s.encodable := by
  have hvertex := whenPresent_contents (c := VkPipelineVertexInputStateCreateInfo.contents)
    (q := fun v => validArray v.pVertexBindingDescriptions ∧ validArray v.pVertexAttributeDescriptions)
    (fun v => by simp [VkPipelineVertexInputStateCreateInfo.contents]) s.pVertexInputState
  have hviewport := whenPresent_contents (c := VkPipelineViewportStateCreateInfo.contents)
    (q := fun v => v.viewportCount.toNat ≤ kMaxArrayElements ∧ v.scissorCount.toNat ≤ kMaxArrayElements)
    (fun v => Iff.rfl) s.pViewportState
  have hmultisample := whenPresent_contents (c := VkPipelineMultisampleStateCreateInfo.contents)
    (q := fun m => validSamples m.rasterizationSamples) (fun m => Iff.rfl) s.pMultisampleState
  have hblend := whenPresent_contents (c := VkPipelineColorBlendStateCreateInfo.contents)
    (q := fun c => validArray c.pAttachments)
    (fun c => by simp [VkPipelineColorBlendStateCreateInfo.contents]) s.pColorBlendState
  have hdynamic := whenPresent_contents (c := VkPipelineDynamicStateCreateInfo.contents)
    (q := fun d => validArray d.pDynamicStates)
    (fun d => by simp [VkPipelineDynamicStateCreateInfo.contents]) s.pDynamicState
  simp only [encodable, contents, validArray_contents, hvertex, hviewport, hmultisample, hblend, hdynamic]

theorem writeAround_contents (s : VkGraphicsPipelineCreateInfo) (w x y z : List UInt8) :
    s.contents.writeAround w x y z = s.writeAround w x y z := by
  have htessellation : writeTessellationChain s.contents.pTessellationState =
      writeTessellationChain s.pTessellationState := by
    cases hp : s.pTessellationState <;>
      simp [writeTessellationChain, contents, hp, Ptr.contents, Ptr.target, PlainState.contents]
  have hheader : s.contents.header = s.header := rfl
  simp only [writeAround, encodable_contents, htessellation, hheader]
  simp [contents, List.flatMap_map, writePresent_contents writeVertexInputState_contents,
    writePresent_contents writeViewportState_contents, writePresent_contents writeMultisampleState_contents,
    writePresent_contents writeColorBlendState_contents, writePresent_contents writeDynamicState_contents]

def gapless (s : VkGraphicsPipelineCreateInfo) : VkGraphicsPipelineCreateInfo :=
  { s with pStages := s.pStages.contents (List.Vector.map VkPipelineShaderStageCreateInfo.gapless),
           pVertexInputState := s.pVertexInputState.contents VkPipelineVertexInputStateCreateInfo.gapless,
           pInputAssemblyState := s.pInputAssemblyState.contents PlainState.gapless,
           pTessellationState := s.pTessellationState.contents PlainState.gapless,
           pViewportState := s.pViewportState.contents VkPipelineViewportStateCreateInfo.gapless,
           pRasterizationState := s.pRasterizationState.contents PlainState.gapless,
           pMultisampleState := s.pMultisampleState.contents VkPipelineMultisampleStateCreateInfo.gapless,
           pDepthStencilState := s.pDepthStencilState.contents PlainState.gapless,
           pColorBlendState := s.pColorBlendState.contents VkPipelineColorBlendStateCreateInfo.gapless,
           pDynamicState := s.pDynamicState.contents VkPipelineDynamicStateCreateInfo.gapless,
           gaps := .zeros _ }

/-- What is exposed around the four states. -/
def exposedAround (s : VkGraphicsPipelineCreateInfo) (assembly tessellation raster depthStencil : List UInt8) :
    List UInt8 :=
  Raw.padding s ++ s.pStages.items.flatMap VkPipelineShaderStageCreateInfo.exposed ++
    s.pVertexInputState.exposed Raw.padding ++ assembly ++ tessellation ++ s.pViewportState.exposed Raw.padding ++
    raster ++ s.pMultisampleState.exposed Raw.padding ++ depthStencil ++ s.pColorBlendState.exposed Raw.padding ++
    s.pDynamicState.exposed Raw.padding

theorem encodable_gapless (s : VkGraphicsPipelineCreateInfo) : s.gapless.encodable ↔ s.encodable := by
  have hvertex := whenPresent_contents (c := VkPipelineVertexInputStateCreateInfo.gapless)
    (q := fun v => validArray v.pVertexBindingDescriptions ∧ validArray v.pVertexAttributeDescriptions)
    (fun v => Iff.rfl) s.pVertexInputState
  have hviewport := whenPresent_contents (c := VkPipelineViewportStateCreateInfo.gapless)
    (q := fun v => v.viewportCount.toNat ≤ kMaxArrayElements ∧ v.scissorCount.toNat ≤ kMaxArrayElements)
    (fun v => Iff.rfl) s.pViewportState
  have hmultisample := whenPresent_contents (c := VkPipelineMultisampleStateCreateInfo.gapless)
    (q := fun m => validSamples m.rasterizationSamples) (fun m => Iff.rfl) s.pMultisampleState
  have hblend := whenPresent_contents (c := VkPipelineColorBlendStateCreateInfo.gapless)
    (q := fun c => validArray c.pAttachments) (fun c => Iff.rfl) s.pColorBlendState
  have hdynamic := whenPresent_contents (c := VkPipelineDynamicStateCreateInfo.gapless)
    (q := fun d => validArray d.pDynamicStates) (fun d => Iff.rfl) s.pDynamicState
  simp only [encodable, gapless, validArray_contents, hvertex, hviewport, hmultisample, hblend, hdynamic]

theorem tells_around {s t : VkGraphicsPipelineCreateInfo} (h : s.gapless = t.gapless)
    {w x y z w' x' y' z' gw gx gy gz gw' gx' gy' gz' : List UInt8} (hw : Exposes w w' gw gw')
    (hx : Exposes x x' gx gx') (hy : Exposes y y' gy gy') (hz : Exposes z z' gz gz') :
    Tells (s.writeAround w x y z) (t.writeAround w' x' y' z') (s.exposedAround gw gx gy gz)
      (t.exposedAround gw' gx' gy' gz') := by
  have hencodable : s.encodable ↔ t.encodable := by rw [← encodable_gapless, h, encodable_gapless]
  have hheader : Exposes (writeRaw s.header) (writeRaw t.header) (Raw.padding s) (Raw.padding t) :=
    .raw (congrArg (fun s : VkGraphicsPipelineCreateInfo => Raw.record s.header) h :)
  have hchain : writePnextChain .graphicsPipeline s.pNext = writePnextChain .graphicsPipeline t.pNext :=
    (congrArg (fun s : VkGraphicsPipelineCreateInfo => writePnextChain .graphicsPipeline s.pNext) h :)
  have htessellation : writeTessellationChain s.pTessellationState =
      writeTessellationChain t.pTessellationState := by
    have hsame : ∀ p : Ptr VkPipelineTessellationStateCreateInfo,
        writeTessellationChain (p.contents PlainState.gapless) = writeTessellationChain p := fun p => by
      cases p <;> rfl
    rw [← hsame, ← hsame t.pTessellationState]
    exact (congrArg (fun s : VkGraphicsPipelineCreateInfo => writeTessellationChain s.pTessellationState) h :)
  have hstages := congrArg (fun s : VkGraphicsPipelineCreateInfo => s.pStages.items) h
  simp only [gapless, Ptr.items_contents] at hstages
  have hvertex : s.pVertexInputState.contents VkPipelineVertexInputStateCreateInfo.gapless =
      t.pVertexInputState.contents VkPipelineVertexInputStateCreateInfo.gapless := (congrArg pVertexInputState h :)
  have hviewport : s.pViewportState.contents VkPipelineViewportStateCreateInfo.gapless =
      t.pViewportState.contents VkPipelineViewportStateCreateInfo.gapless := (congrArg pViewportState h :)
  have hmultisample : s.pMultisampleState.contents VkPipelineMultisampleStateCreateInfo.gapless =
      t.pMultisampleState.contents VkPipelineMultisampleStateCreateInfo.gapless := (congrArg pMultisampleState h :)
  have hblend : s.pColorBlendState.contents VkPipelineColorBlendStateCreateInfo.gapless =
      t.pColorBlendState.contents VkPipelineColorBlendStateCreateInfo.gapless := (congrArg pColorBlendState h :)
  have hdynamic : s.pDynamicState.contents VkPipelineDynamicStateCreateInfo.gapless =
      t.pDynamicState.contents VkPipelineDynamicStateCreateInfo.gapless := (congrArg pDynamicState h :)
  unfold writeAround
  simp only [hencodable, hchain, htessellation]
  refine .guarded ?_
  intro hsome
  cases hg : writePnextChain .graphicsPipeline t.pNext with
  | none => simp [hg] at hsome
  | some chain =>
    refine Tells.chained (fun tessellationChain => ?_) (by simpa [hg] using hsome)
    refine .followed (.followed ?_)
    exact hheader.append (.flatMap (fun _ _ => exposes_pipelineShaderStageCreateInfo) hstages)
      |>.append (exposes_present (fun _ _ => exposes_vertexInputState) hvertex) |>.append hw |>.append hx
      |>.append (exposes_present (fun _ _ => exposes_viewportState) hviewport) |>.append hy
      |>.append (exposes_present (fun _ _ => exposes_multisampleState) hmultisample) |>.append hz
      |>.append (exposes_present (fun _ _ => exposes_colorBlendState) hblend)
      |>.append (exposes_present (fun _ _ => exposes_dynamicState) hdynamic)

end VkGraphicsPipelineCreateInfo

/-- An address as it lies in memory. -/
def addressBytes (bits : UInt64) : List UInt8 := toLE 8 bits.toNat

theorem length_addressBytes (bits : UInt64) : (addressBytes bits).length = 8 := length_toLE 8 bits.toNat

theorem addressBytes_inj {bits bits' : UInt64} : addressBytes bits = addressBytes bits' ↔ bits = bits' := by
  refine ⟨fun h => ?_, congrArg _⟩
  rw [← ofLE_toLE_u64 bits, ← ofLE_toLE_u64 bits']
  exact congrArg (fun bs => UInt64.ofNat (ofLE bs)) h

section

variable {n gap : ℕ}

/-- A state that is copied as it is goes with its `pNext`. -/
def PlainState.exposedCopy (s : PlainState n gap) : List UInt8 := addressBytes s.pNext.bits ++ Raw.padding s

theorem exposes_copy {a b : PlainState n gap} (h : a.contents.gapless = b.contents.gapless) :
    Exposes (writeRaw a) (writeRaw b) a.exposedCopy b.exposedCopy := by
  have htype : a.sType = b.sType := (congrArg PlainState.sType h :)
  have hfields : a.fields = b.fields := (congrArg PlainState.fields h :)
  refine .copy ((length_addressBytes _).trans (length_addressBytes _).symm) ?_
  rw [addressBytes_inj]
  constructor
  · exact fun hrecord => congrArg (fun r => r.2.1) hrecord
  · intro hbits
    change (a.sType, a.pNext.bits, a.fields, ()) = (b.sType, b.pNext.bits, b.fields, ())
    rw [htype, hbits, hfields]

theorem exposes_optPod {p q : Ptr (PlainState n gap)}
    (h : (p.contents PlainState.contents).contents PlainState.gapless =
      (q.contents PlainState.contents).contents PlainState.gapless) :
    Exposes (writeOptPod p) (writeOptPod q) (p.exposed PlainState.exposedCopy)
      (q.exposed PlainState.exposedCopy) := by
  rw [Ptr.contents_contents, Ptr.contents_contents] at h
  exact exposes_present (fun _ _ => exposes_copy) h

end

namespace VkGraphicsPipelineCreateInfo

/-- Four of the states go with the address in `pNext`. -/
def exposed (s : VkGraphicsPipelineCreateInfo) : List UInt8 :=
  s.exposedAround (s.pInputAssemblyState.exposed PlainState.exposedCopy)
    (s.pTessellationState.exposed PlainState.exposedCopy) (s.pRasterizationState.exposed PlainState.exposedCopy)
    (s.pDepthStencilState.exposed PlainState.exposedCopy)

theorem exposedAround_contents (s : VkGraphicsPipelineCreateInfo) (w x y z : List UInt8) :
    s.contents.exposedAround w x y z = s.exposedAround w x y z := by
  have hstages : s.contents.pStages.items.flatMap VkPipelineShaderStageCreateInfo.exposed =
      s.pStages.items.flatMap VkPipelineShaderStageCreateInfo.exposed := by
    simp only [contents, Ptr.items_contents, List.flatMap_map,
      VkPipelineShaderStageCreateInfo.exposed_contents]
  have hvertex : s.contents.pVertexInputState.exposed Raw.padding = s.pVertexInputState.exposed Raw.padding :=
    Ptr.exposed_contents (fun _ => rfl) _
  have hviewport : s.contents.pViewportState.exposed Raw.padding = s.pViewportState.exposed Raw.padding :=
    Ptr.exposed_contents (fun _ => rfl) _
  have hmultisample : s.contents.pMultisampleState.exposed Raw.padding =
      s.pMultisampleState.exposed Raw.padding := Ptr.exposed_contents (fun _ => rfl) _
  have hblend : s.contents.pColorBlendState.exposed Raw.padding = s.pColorBlendState.exposed Raw.padding :=
    Ptr.exposed_contents (fun _ => rfl) _
  have hdynamic : s.contents.pDynamicState.exposed Raw.padding = s.pDynamicState.exposed Raw.padding :=
    Ptr.exposed_contents (fun _ => rfl) _
  rw [exposedAround, hstages, hvertex, hviewport, hmultisample, hblend, hdynamic]
  rfl

theorem tells_graphicsPipelineCreateInfo {a b : VkGraphicsPipelineCreateInfo}
    (h : a.contents.gapless = b.contents.gapless) :
    Tells (writeGraphicsPipelineCreateInfo a) (writeGraphicsPipelineCreateInfo b) a.exposed b.exposed := by
  have hassembly := exposes_optPod (congrArg (fun s : VkGraphicsPipelineCreateInfo => s.pInputAssemblyState) h :)
  have htessellation :=
    exposes_optPod (congrArg (fun s : VkGraphicsPipelineCreateInfo => s.pTessellationState) h :)
  have hraster := exposes_optPod (congrArg (fun s : VkGraphicsPipelineCreateInfo => s.pRasterizationState) h :)
  have hdepth := exposes_optPod (congrArg (fun s : VkGraphicsPipelineCreateInfo => s.pDepthStencilState) h :)
  rw [write_eq_writeAround, write_eq_writeAround, ← writeAround_contents, ← writeAround_contents b, exposed,
    exposed, ← exposedAround_contents, ← exposedAround_contents b]
  exact tells_around h hassembly htessellation hraster hdepth

end VkGraphicsPipelineCreateInfo

namespace VkComputePipelineCreateInfo

def contents (s : VkComputePipelineCreateInfo) : VkComputePipelineCreateInfo :=
  { s with pNext := s.pNext.contents, stage := s.stage.contents }

def gapless (s : VkComputePipelineCreateInfo) : VkComputePipelineCreateInfo :=
  { s with stage := s.stage.gapless, gaps := .zeros _ }

/-- The pointers of the stage, which goes as it lies in memory. -/
def addresses (s : VkComputePipelineCreateInfo) : List UInt8 :=
  addressBytes s.stage.pNext.bits ++ (addressBytes s.stage.pName.bits ++
    addressBytes s.stage.pSpecializationInfo.bits)

def exposed (s : VkComputePipelineCreateInfo) : List UInt8 := s.addresses ++ Raw.padding s ++ s.stage.exposed

theorem length_addresses (s : VkComputePipelineCreateInfo) : s.addresses.length = 24 := by
  simp only [addresses, List.length_append, length_addressBytes]

theorem addresses_inj {a b : VkComputePipelineCreateInfo} : a.addresses = b.addresses ↔
    a.stage.pNext.bits = b.stage.pNext.bits ∧ a.stage.pName.bits = b.stage.pName.bits ∧
      a.stage.pSpecializationInfo.bits = b.stage.pSpecializationInfo.bits := by
  constructor
  · intro h
    obtain ⟨hnext, hrest⟩ := List.append_inj h (by rw [length_addressBytes, length_addressBytes])
    obtain ⟨hname, hinfo⟩ := List.append_inj hrest (by rw [length_addressBytes, length_addressBytes])
    exact ⟨addressBytes_inj.1 hnext, addressBytes_inj.1 hname, addressBytes_inj.1 hinfo⟩
  · rintro ⟨hnext, hname, hinfo⟩
    rw [addresses, hnext, hname, hinfo, addresses]

theorem exposes_computePipelineCreateInfo {a b : VkComputePipelineCreateInfo}
    (h : a.contents.gapless = b.contents.gapless) :
    Exposes (writeComputePipelineCreateInfo a) (writeComputePipelineCreateInfo b) a.exposed b.exposed := by
  have hcopy : Exposes (writeRaw { a with pNext := .null }) (writeRaw { b with pNext := .null })
      (a.addresses ++ Raw.padding a) (b.addresses ++ Raw.padding b) := by
    refine .copy ((length_addresses a).trans (length_addresses b).symm) ?_
    rw [addresses_inj]
    constructor
    · intro hrecord
      exact ⟨congrArg (fun r => r.2.2.2.2.1) hrecord, congrArg (fun r => r.2.2.2.2.2.2.2.2.1) hrecord,
        congrArg (fun r => r.2.2.2.2.2.2.2.2.2.1) hrecord⟩
    · rintro ⟨hnext, hname, hinfo⟩
      -- the fields that are no pointers are those of the contents
      have hrecord := congrArg (fun s : VkComputePipelineCreateInfo =>
        Raw.record { s with pNext := .null, stage.pNext := .wire b.stage.pNext.bits,
                            stage.pName := .wire b.stage.pName.bits,
                            stage.pSpecializationInfo := .wire b.stage.pSpecializationInfo.bits }) h
      change (a.sType, (0 : UInt64), a.flags, a.stage.sType, a.stage.pNext.bits, a.stage.flags, a.stage.stage,
        a.stage.module, a.stage.pName.bits, a.stage.pSpecializationInfo.bits, a.layout, a.basePipelineHandle,
        a.basePipelineIndex, ()) = _
      rw [hnext, hname, hinfo]
      exact hrecord
  have hstage : a.stage.contents.gapless = b.stage.contents.gapless := (congrArg stage h :)
  have hsecond := exposes_pipelineShaderStageCreateInfo hstage
  rw [writePipelineShaderStageCreateInfo_contents, writePipelineShaderStageCreateInfo_contents,
    VkPipelineShaderStageCreateInfo.exposed_contents, VkPipelineShaderStageCreateInfo.exposed_contents] at hsecond
  exact hcopy.append hsecond

end VkComputePipelineCreateInfo

/-- What the encoders are given. -/
inductive CreateInfo
  | pnextChain (context : PNextContext) (head : PNext)
  | deviceQueueCreateInfo (s : VkDeviceQueueCreateInfo)
  | deviceCreateInfo (s : VkDeviceCreateInfo)
  | swapchainCreateInfoKHR (s : VkSwapchainCreateInfoKHR)
  | imageViewCreateInfo (s : VkImageViewCreateInfo)
  | renderPassCreateInfo (s : VkRenderPassCreateInfo)
  | renderPassCreateInfo2 (s : VkRenderPassCreateInfo2)
  | shaderModuleCreateInfo (s : VkShaderModuleCreateInfo)
  | pipelineShaderStageCreateInfo (s : VkPipelineShaderStageCreateInfo)
  | pipelineLayoutCreateInfo (s : VkPipelineLayoutCreateInfo)
  | graphicsPipelineCreateInfo (s : VkGraphicsPipelineCreateInfo)
  | computePipelineCreateInfo (s : VkComputePipelineCreateInfo)
  | framebufferCreateInfo (s : VkFramebufferCreateInfo)
  | bufferViewCreateInfo (s : VkBufferViewCreateInfo)
  | queryPoolCreateInfo (s : VkQueryPoolCreateInfo)
  | eventCreateInfo (s : VkEventCreateInfo)
  | commandBufferAllocateInfo (s : VkCommandBufferAllocateInfo)
  | commandBufferBeginInfo (s : VkCommandBufferBeginInfo)
  | renderPassBeginInfo (s : VkRenderPassBeginInfo)
  | subpassBeginInfo (s : VkSubpassBeginInfo)
  | subpassEndInfo (s : VkSubpassEndInfo)
  | descriptorSetLayoutCreateInfo (s : VkDescriptorSetLayoutCreateInfo)
  | descriptorUpdateTemplateCreateInfo (s : VkDescriptorUpdateTemplateCreateInfo)
  | samplerYcbcrConversionCreateInfo (s : VkSamplerYcbcrConversionCreateInfo)
  | descriptorPoolCreateInfo (s : VkDescriptorPoolCreateInfo)
  | descriptorSetAllocateInfo (s : VkDescriptorSetAllocateInfo)
  | writeDescriptorSet (s : VkWriteDescriptorSet)
  | copyDescriptorSet (s : VkCopyDescriptorSet)
  | imageMemoryBarrier (s : VkImageMemoryBarrier)
  | bufferMemoryBarrier (s : VkBufferMemoryBarrier)
  | memoryBarrier (s : VkMemoryBarrier)
  | dependencyInfo (s : VkDependencyInfo)
  | submitInfo2 (s : VkSubmitInfo2)
  | bufferCreateInfo (s : VkBufferCreateInfo)
  | imageCreateInfo (s : VkImageCreateInfo)
  | memoryAllocateInfo (s : VkMemoryAllocateInfo)
  | samplerCreateInfo (s : VkSamplerCreateInfo)
  | fenceCreateInfo (s : VkFenceCreateInfo)
  | semaphoreCreateInfo (s : VkSemaphoreCreateInfo)
  | commandPoolCreateInfo (s : VkCommandPoolCreateInfo)
  | pipelineCacheCreateInfo (s : VkPipelineCacheCreateInfo)
  | bufferImageCopy (s : VkBufferImageCopy)
  | imageCopy (s : VkImageCopy)
  | imageBlit (s : VkImageBlit)
  | bufferCopy (s : VkBufferCopy)
  | viewport (s : VkViewport)
  | rect2D (s : VkRect2D)
  | memoryRequirements (s : VkMemoryRequirements)
  | subresourceLayout (s : VkSubresourceLayout)
  | surfaceCapabilitiesKHR (s : VkSurfaceCapabilitiesKHR)
  | extensionProperties (s : VkExtensionProperties)

namespace CreateInfo

section

variable (commandBufferId : UInt64 → UInt64)

/-- What is written; `none` where the encoder refuses. -/
def write : CreateInfo → Option (List UInt8)
  | pnextChain context head => writePnextChain context head
  | deviceQueueCreateInfo s => some (writeDeviceQueueCreateInfo s)
  | deviceCreateInfo s => writeDeviceCreateInfo s
  | swapchainCreateInfoKHR s => some (writeSwapchainCreateInfoKHR s)
  | imageViewCreateInfo s => writeImageViewCreateInfo s
  | renderPassCreateInfo s => writeRenderPassCreateInfo s
  | renderPassCreateInfo2 s => writeRenderPassCreateInfo2 s
  | shaderModuleCreateInfo s => writeShaderModuleCreateInfo s
  | pipelineShaderStageCreateInfo s => some (writePipelineShaderStageCreateInfo s)
  | pipelineLayoutCreateInfo s => some (writePipelineLayoutCreateInfo s)
  | graphicsPipelineCreateInfo s => writeGraphicsPipelineCreateInfo s
  | computePipelineCreateInfo s => some (writeComputePipelineCreateInfo s)
  | framebufferCreateInfo s => writeFramebufferCreateInfo s
  | bufferViewCreateInfo s => writeBufferViewCreateInfo s
  | queryPoolCreateInfo s => some (writeQueryPoolCreateInfo s)
  | eventCreateInfo s => some (writeEventCreateInfo s)
  | commandBufferAllocateInfo s => some (writeCommandBufferAllocateInfo s)
  | commandBufferBeginInfo s => some (writeCommandBufferBeginInfo s)
  | renderPassBeginInfo s => writeRenderPassBeginInfo s
  | subpassBeginInfo s => writeSubpassBeginInfo s
  | subpassEndInfo s => writeSubpassEndInfo s
  | descriptorSetLayoutCreateInfo s => some (writeDescriptorSetLayoutCreateInfo s)
  | descriptorUpdateTemplateCreateInfo s => writeDescriptorUpdateTemplateCreateInfo s
  | samplerYcbcrConversionCreateInfo s => some (writeSamplerYcbcrConversionCreateInfo s)
  | descriptorPoolCreateInfo s => some (writeDescriptorPoolCreateInfo s)
  | descriptorSetAllocateInfo s => some (writeDescriptorSetAllocateInfo s)
  | writeDescriptorSet s => writeWriteDescriptorSet s
  | copyDescriptorSet s => some (writeCopyDescriptorSet s)
  | imageMemoryBarrier s => some (writeImageMemoryBarrier s)
  | bufferMemoryBarrier s => some (writeBufferMemoryBarrier s)
  | memoryBarrier s => some (writeMemoryBarrier s)
  | dependencyInfo s => writeDependencyInfo s
  | submitInfo2 s => writeSubmitInfo2 commandBufferId s
  | bufferCreateInfo s => some (writeBufferCreateInfo s)
  | imageCreateInfo s => writeImageCreateInfo s
  | memoryAllocateInfo s => some (writeMemoryAllocateInfo s)
  | samplerCreateInfo s => some (writeSamplerCreateInfo s)
  | fenceCreateInfo s => some (writeFenceCreateInfo s)
  | semaphoreCreateInfo s => some (writeSemaphoreCreateInfo s)
  | commandPoolCreateInfo s => some (writeCommandPoolCreateInfo s)
  | pipelineCacheCreateInfo s => some (writePipelineCacheCreateInfo s)
  | bufferImageCopy s => some (writeBufferImageCopy s)
  | imageCopy s => some (writeImageCopy s)
  | imageBlit s => some (writeImageBlit s)
  | bufferCopy s => some (writeBufferCopy s)
  | viewport s => some (writeViewport s)
  | rect2D s => some (writeRect2D s)
  | memoryRequirements s => some (writeMemoryRequirements s)
  | subresourceLayout s => some (writeSubresourceLayout s)
  | surfaceCapabilitiesKHR s => some (writeSurfaceCapabilitiesKHR s)
  | extensionProperties s => some (writeExtensionProperties s)

/-- The same up to the addresses of what its pointers point at; bytes in gaps stay. -/
def contents : CreateInfo → CreateInfo
  | pnextChain context head => pnextChain context head.contents
  | deviceQueueCreateInfo s => deviceQueueCreateInfo s.contents
  | deviceCreateInfo s => deviceCreateInfo s.contents
  | swapchainCreateInfoKHR s => swapchainCreateInfoKHR s.contents
  | imageViewCreateInfo s => imageViewCreateInfo s.contents
  | renderPassCreateInfo s => renderPassCreateInfo s.contents
  | renderPassCreateInfo2 s => renderPassCreateInfo2 s.contents
  | shaderModuleCreateInfo s => shaderModuleCreateInfo s.contents
  | pipelineShaderStageCreateInfo s => pipelineShaderStageCreateInfo s.contents
  | pipelineLayoutCreateInfo s => pipelineLayoutCreateInfo s.contents
  | graphicsPipelineCreateInfo s => graphicsPipelineCreateInfo s.contents
  | computePipelineCreateInfo s => computePipelineCreateInfo s.contents
  | framebufferCreateInfo s => framebufferCreateInfo s.contents
  | bufferViewCreateInfo s => bufferViewCreateInfo s.contents
  | queryPoolCreateInfo s => queryPoolCreateInfo s.contents
  | eventCreateInfo s => eventCreateInfo s.contents
  | commandBufferAllocateInfo s => commandBufferAllocateInfo s.contents
  | commandBufferBeginInfo s => commandBufferBeginInfo s.contents
  | renderPassBeginInfo s => renderPassBeginInfo s.contents
  | subpassBeginInfo s => subpassBeginInfo s.upToAddresses
  | subpassEndInfo s => subpassEndInfo s.contents
  | descriptorSetLayoutCreateInfo s => descriptorSetLayoutCreateInfo s.contents
  | descriptorUpdateTemplateCreateInfo s => descriptorUpdateTemplateCreateInfo s.contents
  | samplerYcbcrConversionCreateInfo s => samplerYcbcrConversionCreateInfo s.contents
  | descriptorPoolCreateInfo s => descriptorPoolCreateInfo s.contents
  | descriptorSetAllocateInfo s => descriptorSetAllocateInfo s.contents
  | writeDescriptorSet s => writeDescriptorSet s.contents
  | copyDescriptorSet s => copyDescriptorSet s.contents
  | imageMemoryBarrier s => imageMemoryBarrier s.contents
  | bufferMemoryBarrier s => bufferMemoryBarrier s.contents
  | memoryBarrier s => memoryBarrier s.contents
  | dependencyInfo s => dependencyInfo s.contents
  | submitInfo2 s => submitInfo2 (s.contents commandBufferId)
  | bufferCreateInfo s => bufferCreateInfo s.contents
  | imageCreateInfo s => imageCreateInfo s.contents
  | memoryAllocateInfo s => memoryAllocateInfo s.contents
  | samplerCreateInfo s => samplerCreateInfo s.contents
  | fenceCreateInfo s => fenceCreateInfo s.contents
  | semaphoreCreateInfo s => semaphoreCreateInfo s.contents
  | commandPoolCreateInfo s => commandPoolCreateInfo s.contents
  | pipelineCacheCreateInfo s => pipelineCacheCreateInfo s.contents
  | bufferImageCopy s => bufferImageCopy s
  | imageCopy s => imageCopy s
  | imageBlit s => imageBlit s
  | bufferCopy s => bufferCopy s
  | viewport s => viewport s
  | rect2D s => rect2D s
  | memoryRequirements s => memoryRequirements s
  | subresourceLayout s => subresourceLayout s
  | surfaceCapabilitiesKHR s => surfaceCapabilitiesKHR s
  | extensionProperties s => extensionProperties s

end

/-- The decoder that the bytes are for. -/
def decoder : CreateInfo → Decoder
  | pnextChain context _ => .pnextChain context
  | deviceQueueCreateInfo _ => .deviceQueueCreateInfo
  | deviceCreateInfo _ => .deviceCreateInfo
  | swapchainCreateInfoKHR _ => .swapchainCreateInfoKHR
  | imageViewCreateInfo _ => .imageViewCreateInfo
  | renderPassCreateInfo _ => .renderPassCreateInfo
  | renderPassCreateInfo2 _ => .renderPassCreateInfo2
  | shaderModuleCreateInfo _ => .shaderModuleCreateInfo
  | pipelineShaderStageCreateInfo _ => .pipelineShaderStageCreateInfo
  | pipelineLayoutCreateInfo _ => .pipelineLayoutCreateInfo
  | graphicsPipelineCreateInfo _ => .graphicsPipelineCreateInfo
  | computePipelineCreateInfo _ => .computePipelineCreateInfo
  | framebufferCreateInfo _ => .framebufferCreateInfo
  | bufferViewCreateInfo _ => .bufferViewCreateInfo
  | queryPoolCreateInfo _ => .queryPoolCreateInfo
  | eventCreateInfo _ => .eventCreateInfo
  | commandBufferAllocateInfo _ => .commandBufferAllocateInfo
  | commandBufferBeginInfo _ => .commandBufferBeginInfo
  | renderPassBeginInfo _ => .renderPassBeginInfo
  | subpassBeginInfo _ => .subpassBeginInfo
  | subpassEndInfo _ => .subpassEndInfo
  | descriptorSetLayoutCreateInfo _ => .descriptorSetLayoutCreateInfo
  | descriptorUpdateTemplateCreateInfo _ => .descriptorUpdateTemplateCreateInfo
  | samplerYcbcrConversionCreateInfo _ => .samplerYcbcrConversionCreateInfo
  | descriptorPoolCreateInfo _ => .descriptorPoolCreateInfo
  | descriptorSetAllocateInfo _ => .descriptorSetAllocateInfo
  | writeDescriptorSet _ => .writeDescriptorSet
  | copyDescriptorSet _ => .copyDescriptorSet
  | imageMemoryBarrier _ => .imageMemoryBarrier
  | bufferMemoryBarrier _ => .bufferMemoryBarrier
  | memoryBarrier _ => .memoryBarrier
  | dependencyInfo _ => .dependencyInfo
  | submitInfo2 _ => .submitInfo2
  | bufferCreateInfo _ => .bufferCreateInfo
  | imageCreateInfo _ => .imageCreateInfo
  | memoryAllocateInfo _ => .memoryAllocateInfo
  | samplerCreateInfo _ => .samplerCreateInfo
  | fenceCreateInfo _ => .fenceCreateInfo
  | semaphoreCreateInfo _ => .semaphoreCreateInfo
  | commandPoolCreateInfo _ => .commandPoolCreateInfo
  | pipelineCacheCreateInfo _ => .pipelineCacheCreateInfo
  | bufferImageCopy _ => .bufferImageCopy
  | imageCopy _ => .imageCopy
  | imageBlit _ => .imageBlit
  | bufferCopy _ => .bufferCopy
  | viewport _ => .viewport
  | rect2D _ => .rect2D
  | memoryRequirements _ => .memoryRequirements
  | subresourceLayout _ => .subresourceLayout
  | surfaceCapabilitiesKHR _ => .surfaceCapabilitiesKHR
  | extensionProperties _ => .extensionProperties

/-- What is in it, as its decoder returns such things. -/
def info : (c : CreateInfo) → c.decoder.Result
  | pnextChain _ head => head
  | deviceQueueCreateInfo s | deviceCreateInfo s | swapchainCreateInfoKHR s | imageViewCreateInfo s
  | renderPassCreateInfo s | renderPassCreateInfo2 s | shaderModuleCreateInfo s
  | pipelineShaderStageCreateInfo s | pipelineLayoutCreateInfo s | graphicsPipelineCreateInfo s
  | computePipelineCreateInfo s | framebufferCreateInfo s | bufferViewCreateInfo s | queryPoolCreateInfo s
  | eventCreateInfo s | commandBufferAllocateInfo s | commandBufferBeginInfo s | renderPassBeginInfo s
  | subpassBeginInfo s | subpassEndInfo s | descriptorSetLayoutCreateInfo s
  | descriptorUpdateTemplateCreateInfo s | samplerYcbcrConversionCreateInfo s | descriptorPoolCreateInfo s
  | descriptorSetAllocateInfo s | writeDescriptorSet s | copyDescriptorSet s | imageMemoryBarrier s
  | bufferMemoryBarrier s | memoryBarrier s | dependencyInfo s | submitInfo2 s | bufferCreateInfo s
  | imageCreateInfo s | memoryAllocateInfo s | samplerCreateInfo s | fenceCreateInfo s | semaphoreCreateInfo s
  | commandPoolCreateInfo s | pipelineCacheCreateInfo s | bufferImageCopy s | imageCopy s | imageBlit s
  | bufferCopy s | viewport s | rect2D s | memoryRequirements s | subresourceLayout s
  | surfaceCapabilitiesKHR s | extensionProperties s => s

/-- What an encoder is given to send what a decoder returns. -/
def of : (d : Decoder) → d.Result → CreateInfo
  | .pnextChain context, head => pnextChain context head
  | .deviceQueueCreateInfo, s => deviceQueueCreateInfo s
  | .deviceCreateInfo, s => deviceCreateInfo s
  | .swapchainCreateInfoKHR, s => swapchainCreateInfoKHR s
  | .imageViewCreateInfo, s => imageViewCreateInfo s
  | .renderPassCreateInfo, s => renderPassCreateInfo s
  | .renderPassCreateInfo2, s => renderPassCreateInfo2 s
  | .shaderModuleCreateInfo, s => shaderModuleCreateInfo s
  | .pipelineShaderStageCreateInfo, s => pipelineShaderStageCreateInfo s
  | .pipelineLayoutCreateInfo, s => pipelineLayoutCreateInfo s
  | .graphicsPipelineCreateInfo, s => graphicsPipelineCreateInfo s
  | .computePipelineCreateInfo, s => computePipelineCreateInfo s
  | .framebufferCreateInfo, s => framebufferCreateInfo s
  | .bufferViewCreateInfo, s => bufferViewCreateInfo s
  | .queryPoolCreateInfo, s => queryPoolCreateInfo s
  | .eventCreateInfo, s => eventCreateInfo s
  | .commandBufferAllocateInfo, s => commandBufferAllocateInfo s
  | .commandBufferBeginInfo, s => commandBufferBeginInfo s
  | .renderPassBeginInfo, s => renderPassBeginInfo s
  | .subpassBeginInfo, s => subpassBeginInfo s
  | .subpassEndInfo, s => subpassEndInfo s
  | .descriptorSetLayoutCreateInfo, s => descriptorSetLayoutCreateInfo s
  | .descriptorUpdateTemplateCreateInfo, s => descriptorUpdateTemplateCreateInfo s
  | .samplerYcbcrConversionCreateInfo, s => samplerYcbcrConversionCreateInfo s
  | .descriptorPoolCreateInfo, s => descriptorPoolCreateInfo s
  | .descriptorSetAllocateInfo, s => descriptorSetAllocateInfo s
  | .writeDescriptorSet, s => writeDescriptorSet s
  | .copyDescriptorSet, s => copyDescriptorSet s
  | .imageMemoryBarrier, s => imageMemoryBarrier s
  | .bufferMemoryBarrier, s => bufferMemoryBarrier s
  | .memoryBarrier, s => memoryBarrier s
  | .dependencyInfo, s => dependencyInfo s
  | .submitInfo2, s => submitInfo2 s
  | .bufferCreateInfo, s => bufferCreateInfo s
  | .imageCreateInfo, s => imageCreateInfo s
  | .memoryAllocateInfo, s => memoryAllocateInfo s
  | .samplerCreateInfo, s => samplerCreateInfo s
  | .fenceCreateInfo, s => fenceCreateInfo s
  | .semaphoreCreateInfo, s => semaphoreCreateInfo s
  | .commandPoolCreateInfo, s => commandPoolCreateInfo s
  | .pipelineCacheCreateInfo, s => pipelineCacheCreateInfo s
  | .bufferImageCopy, s => bufferImageCopy s
  | .imageCopy, s => imageCopy s
  | .imageBlit, s => imageBlit s
  | .bufferCopy, s => bufferCopy s
  | .viewport, s => viewport s
  | .rect2D, s => rect2D s
  | .memoryRequirements, s => memoryRequirements s
  | .subresourceLayout, s => subresourceLayout s
  | .surfaceCapabilitiesKHR, s => surfaceCapabilitiesKHR s
  | .extensionProperties, s => extensionProperties s

/-- The same with zeros in the gaps. -/
def gapless : CreateInfo → CreateInfo
  | deviceQueueCreateInfo s => deviceQueueCreateInfo s.gapless
  | deviceCreateInfo s => deviceCreateInfo s.gapless
  | swapchainCreateInfoKHR s => swapchainCreateInfoKHR { s with gaps := .zeros _ }
  | imageViewCreateInfo s => imageViewCreateInfo { s with gaps := .zeros _ }
  | renderPassCreateInfo s => renderPassCreateInfo s.gapless
  | pipelineShaderStageCreateInfo s => pipelineShaderStageCreateInfo s.gapless
  | pipelineLayoutCreateInfo s => pipelineLayoutCreateInfo { s with gaps := .zeros _ }
  | graphicsPipelineCreateInfo s => graphicsPipelineCreateInfo s.gapless
  | computePipelineCreateInfo s => computePipelineCreateInfo s.gapless
  | framebufferCreateInfo s => framebufferCreateInfo { s with gaps := .zeros _ }
  | commandBufferAllocateInfo s => commandBufferAllocateInfo { s with gaps := .zeros _ }
  | renderPassBeginInfo s => renderPassBeginInfo { s with gaps := .zeros _ }
  | descriptorSetLayoutCreateInfo s => descriptorSetLayoutCreateInfo { s with gaps := .zeros _ }
  | descriptorPoolCreateInfo s => descriptorPoolCreateInfo { s with gaps := .zeros _ }
  | descriptorSetAllocateInfo s => descriptorSetAllocateInfo { s with gaps := .zeros _ }
  | writeDescriptorSet s => writeDescriptorSet { s with gaps := .zeros _ }
  | copyDescriptorSet s => copyDescriptorSet { s with gaps := .zeros _ }
  | imageMemoryBarrier s => imageMemoryBarrier { s with gaps := .zeros _ }
  | bufferMemoryBarrier s => bufferMemoryBarrier { s with gaps := .zeros _ }
  | memoryBarrier s => memoryBarrier s.gapless
  | bufferCreateInfo s => bufferCreateInfo s.gapless
  | imageCreateInfo s => imageCreateInfo { s with gaps := .zeros _ }
  | memoryAllocateInfo s => memoryAllocateInfo s.gapless
  | samplerCreateInfo s => samplerCreateInfo s.gapless
  | fenceCreateInfo s => fenceCreateInfo s.gapless
  | semaphoreCreateInfo s => semaphoreCreateInfo s.gapless
  | commandPoolCreateInfo s => commandPoolCreateInfo s.gapless
  | pipelineCacheCreateInfo s => pipelineCacheCreateInfo { s with gaps := .zeros _ }
  | memoryRequirements s => memoryRequirements { s with gaps := .zeros _ }
  | c => c

theorem exists_of (c : CreateInfo) : ∃ d s, c = of d s := ⟨c.decoder, c.info, by cases c <;> rfl⟩

theorem decoder_of (d : Decoder) (s : d.Result) : (of d s).decoder = d := by
  cases d <;> rfl

theorem decoder_gapless (c : CreateInfo) : c.gapless.decoder = c.decoder := by
  cases c <;> rfl

/-- The structures that are written with addresses in them. -/
def leaky : CreateInfo → Bool
  | graphicsPipelineCreateInfo _ => true
  | computePipelineCreateInfo _ => true
  | _ => false

/-- What goes out with the bytes besides the contents: what lies in the gaps of everything that is copied, and the
addresses that are not cleared. -/
def exposed : CreateInfo → List UInt8
  | deviceQueueCreateInfo s => Raw.padding s
  | deviceCreateInfo s => s.exposed
  | swapchainCreateInfoKHR s => Raw.padding s
  | imageViewCreateInfo s => Raw.padding s
  | renderPassCreateInfo s => s.exposed
  | pipelineShaderStageCreateInfo s => s.exposed
  | pipelineLayoutCreateInfo s => Raw.padding s
  | graphicsPipelineCreateInfo s => s.exposed
  | computePipelineCreateInfo s => s.exposed
  | framebufferCreateInfo s => Raw.padding s
  | commandBufferAllocateInfo s => Raw.padding s
  | renderPassBeginInfo s => Raw.padding s
  | descriptorSetLayoutCreateInfo s =>
    if s.pNext.isNull = false ∨ updateAfterBind s.flags then [] else Raw.padding s
  | descriptorPoolCreateInfo s => if s.pNext.isNull = false ∨ updateAfterBind s.flags then [] else Raw.padding s
  | descriptorSetAllocateInfo s => if s.pNext.isNull = false then [] else Raw.padding s
  | writeDescriptorSet s => Raw.padding s
  | copyDescriptorSet s => Raw.padding s
  | imageMemoryBarrier s => Raw.padding s
  | bufferMemoryBarrier s => Raw.padding s
  | memoryBarrier s => Raw.padding s
  | bufferCreateInfo s => s.exposed
  | imageCreateInfo s => Raw.padding s
  | memoryAllocateInfo s => s.exposed .memoryAllocate
  | samplerCreateInfo s => s.exposed .samplerCreate
  | fenceCreateInfo s => Raw.padding s
  | semaphoreCreateInfo s => s.exposed .semaphoreCreate
  | commandPoolCreateInfo s => Raw.padding s
  | pipelineCacheCreateInfo s => Raw.padding s
  | memoryRequirements s => Raw.padding s
  | _ => []

/-- Structures that are the same but for gaps are written the same just if the gaps that go out agree. -/
theorem tells_of {d : Decoder} {s t : d.Result} (hleaky : (of d s).leaky = false)
    (h : (of d s).gapless = (of d t).gapless) :
    Tells ((of d s).write id) ((of d t).write id) (of d s).exposed (of d t).exposed := by
  cases d with
  | deviceQueueCreateInfo => exact .some (exposes_deviceQueueCreateInfo (deviceQueueCreateInfo.inj h))
  | deviceCreateInfo => exact tells_deviceCreateInfo (deviceCreateInfo.inj h)
  | swapchainCreateInfoKHR =>
    cases s
    cases t
    cases h
    exact .some (.followed (.raw rfl))
  | imageViewCreateInfo =>
    cases s
    cases t
    cases h
    exact .chained fun _ => .followed (.raw rfl)
  | renderPassCreateInfo => exact tells_renderPassCreateInfo (renderPassCreateInfo.inj h)
  | pipelineShaderStageCreateInfo =>
    exact .some (exposes_pipelineShaderStageCreateInfo (pipelineShaderStageCreateInfo.inj h))
  | pipelineLayoutCreateInfo =>
    cases s
    cases t
    cases h
    exact .some (.followed (.followed (.raw rfl)))
  | graphicsPipelineCreateInfo => exact nomatch hleaky
  | computePipelineCreateInfo => exact nomatch hleaky
  | framebufferCreateInfo =>
    cases s
    cases t
    cases h
    exact .chained fun _ => .followed (.followed (.raw rfl))
  | commandBufferAllocateInfo =>
    cases s
    cases t
    cases h
    exact .some (.raw rfl)
  | renderPassBeginInfo =>
    cases s
    cases t
    cases h
    exact .chained fun _ => .followed (.followed (.raw rfl))
  | descriptorSetLayoutCreateInfo =>
    cases s
    cases t
    cases h
    exact .some (.guarded (.followed (.raw rfl)))
  | descriptorPoolCreateInfo =>
    cases s
    cases t
    cases h
    exact .some (.guarded (.followed (.raw rfl)))
  | descriptorSetAllocateInfo =>
    cases s
    cases t
    cases h
    exact .some (.guarded (.followed (.raw rfl)))
  | writeDescriptorSet =>
    cases s
    cases t
    cases h
    exact .guarded (.chained fun _ => .followed (.followed (.raw rfl)))
  | copyDescriptorSet =>
    cases s
    cases t
    cases h
    exact .some (.raw rfl)
  | imageMemoryBarrier =>
    cases s
    cases t
    cases h
    exact .some (.raw rfl)
  | bufferMemoryBarrier =>
    cases s
    cases t
    cases h
    exact .some (.raw rfl)
  | memoryBarrier => exact .some (exposes_plainState (memoryBarrier.inj h))
  | bufferCreateInfo => exact .some (exposes_bufferCreateInfo (bufferCreateInfo.inj h))
  | imageCreateInfo =>
    cases s
    cases t
    cases h
    exact .chained fun _ => .followed (.followed (.raw rfl))
  | memoryAllocateInfo => exact .some (exposes_chained _ (memoryAllocateInfo.inj h))
  | samplerCreateInfo => exact .some (exposes_chained _ (samplerCreateInfo.inj h))
  | fenceCreateInfo => exact .some (exposes_plainState (fenceCreateInfo.inj h))
  | semaphoreCreateInfo => exact .some (exposes_chained _ (semaphoreCreateInfo.inj h))
  | commandPoolCreateInfo => exact .some (exposes_plainState (commandPoolCreateInfo.inj h))
  | pipelineCacheCreateInfo =>
    cases s
    cases t
    cases h
    exact .some (.followed (.raw rfl))
  | memoryRequirements =>
    cases s
    cases t
    cases h
    exact .some (.raw rfl)
  -- nothing is copied
  | _ =>
    cases h
    exact fun _ => iff_of_true rfl rfl

theorem tells {c c' : CreateInfo} (hleaky : c.leaky = false) (h : c.gapless = c'.gapless) :
    Tells (c.write id) (c'.write id) c.exposed c'.exposed := by
  have hdecoder : c.decoder = c'.decoder := by rw [← decoder_gapless, h, decoder_gapless]
  obtain ⟨d, s, rfl⟩ := exists_of c
  obtain ⟨d', t, rfl⟩ := exists_of c'
  rw [decoder_of, decoder_of] at hdecoder
  subst hdecoder
  exact tells_of hleaky h

section

variable {commandBufferId : UInt64 → UInt64}

theorem leaky_contents (c : CreateInfo) : (c.contents commandBufferId).leaky = c.leaky := by
  cases c <;> rfl

theorem leaky_gapless (c : CreateInfo) : c.gapless.leaky = c.leaky := by
  cases c <;> rfl

/-- The bytes of a structure that does not leak are those of its contents. -/
theorem write_contents {c : CreateInfo} (h : c.leaky = false) {bs : List UInt8}
    (hc : c.write commandBufferId = some bs) : (c.contents commandBufferId).write id = some bs := by
  cases c with
  | graphicsPipelineCreateInfo s => exact nomatch h
  | computePipelineCreateInfo s => exact nomatch h
  | shaderModuleCreateInfo s => exact writeShaderModuleCreateInfo_contents hc
  | submitInfo2 s => simpa [write, contents] using hc
  | memoryBarrier s => exact hc
  | memoryAllocateInfo s => simpa [write, contents, writeMemoryAllocateInfo] using hc
  | samplerCreateInfo s => simpa [write, contents, writeSamplerCreateInfo] using hc
  | semaphoreCreateInfo s => simpa [write, contents, writeSemaphoreCreateInfo] using hc
  | fenceCreateInfo s => exact hc
  | commandPoolCreateInfo s => exact hc
  | _ => simpa [write, contents] using hc

theorem exposed_contents {c : CreateInfo} (h : c.leaky = false) :
    (c.contents commandBufferId).exposed = c.exposed := by
  cases c with
  | graphicsPipelineCreateInfo s => exact nomatch h
  | computePipelineCreateInfo s => exact nomatch h
  | deviceCreateInfo s => exact s.exposed_contents
  | renderPassCreateInfo s => exact s.exposed_contents
  | pipelineShaderStageCreateInfo s => exact s.exposed_contents
  | bufferCreateInfo s => exact s.exposed_contents
  | memoryAllocateInfo s => exact s.exposed_contents _
  | samplerCreateInfo s => exact s.exposed_contents _
  | semaphoreCreateInfo s => exact s.exposed_contents _
  | descriptorSetLayoutCreateInfo s =>
    simp only [contents, exposed, VkDescriptorSetLayoutCreateInfo.contents, PNext.isNull_contents]
    rfl
  | descriptorPoolCreateInfo s =>
    simp only [contents, exposed, VkDescriptorPoolCreateInfo.contents, PNext.isNull_contents]
    rfl
  | descriptorSetAllocateInfo s =>
    simp only [contents, exposed, VkDescriptorSetAllocateInfo.contents, PNext.isNull_contents]
    rfl
  | _ => rfl

/-- Two structures with the same contents are written the same exactly if what lies in their gaps and at the
addresses that are not cleared agrees. -/
theorem write_eq_iff {a b : CreateInfo}
    (h : (a.contents commandBufferId).gapless = (b.contents commandBufferId).gapless)
    (ha : (a.write commandBufferId).isSome) (hb : (b.write commandBufferId).isSome) :
    a.write commandBufferId = b.write commandBufferId ↔ a.exposed = b.exposed := by
  cases hleaky : a.leaky with
  | false =>
    have hleaky' : b.leaky = false := by
      rw [← leaky_contents, ← leaky_gapless, ← h, leaky_gapless, leaky_contents, hleaky]
    obtain ⟨bs, hbs⟩ := Option.isSome_iff_exists.1 ha
    obtain ⟨bs', hbs'⟩ := Option.isSome_iff_exists.1 hb
    have hcontents := write_contents hleaky hbs
    have htells := tells ((leaky_contents a).trans hleaky) h (hcontents ▸ rfl)
    rwa [hcontents, write_contents hleaky' hbs', exposed_contents hleaky, exposed_contents hleaky', ← hbs,
      ← hbs'] at htells
  | true =>
    cases a with
    | graphicsPipelineCreateInfo s =>
      cases b with
      | graphicsPipelineCreateInfo t =>
        exact VkGraphicsPipelineCreateInfo.tells_graphicsPipelineCreateInfo (graphicsPipelineCreateInfo.inj h) ha
      | _ => exact nomatch h
    | computePipelineCreateInfo s =>
      cases b with
      | computePipelineCreateInfo t =>
        have hexposes :=
          VkComputePipelineCreateInfo.exposes_computePipelineCreateInfo (computePipelineCreateInfo.inj h)
        exact Option.some_inj.trans hexposes.iff
      | _ => exact nomatch h
    | _ => exact nomatch hleaky

end

/-- A fence with a byte in the gap behind its type. -/
def gapFence (byte : UInt8) : VkFenceCreateInfo :=
  { sType := 8, pNext := .null, fields := Blob.ofBytes 4 [], gaps := (Blob.ofBytes 4 [byte], Blob.ofBytes 4 [], ()) }

example : (gapFence 0).gapless = (gapFence 1).gapless ∧
    writeFenceCreateInfo (gapFence 0) ≠ writeFenceCreateInfo (gapFence 1) := ⟨rfl, by decide⟩

/-- A compute pipeline whose entry point is named at an address. -/
def computeAt (address : Address) : CreateInfo :=
  computePipelineCreateInfo
    { sType := 29, pNext := .null, flags := 0,
      stage := { sType := 18, pNext := .null, flags := 0, stage := 32, module := 1,
                 pName := .host address [0x6d, 0x61, 0x69, 0x6e], pSpecializationInfo := .null },
      layout := 2, basePipelineHandle := 0, basePipelineIndex := 0 }

/-- Two addresses of the name `main`, and different bytes. -/
theorem address_on_wire :
    (computeAt ⟨0x1000, by decide⟩).contents id = (computeAt ⟨0x2000, by decide⟩).contents id ∧
      ((computeAt ⟨0x1000, by decide⟩).write id).isSome ∧ ((computeAt ⟨0x2000, by decide⟩).write id).isSome ∧
      (computeAt ⟨0x1000, by decide⟩).write id ≠ (computeAt ⟨0x2000, by decide⟩).write id := by
  refine ⟨rfl, rfl, rfl, ?_⟩
  decide

theorem write_eq_iff_two_names :
    (computeAt ⟨0x1000, by decide⟩).write id = (computeAt ⟨0x2000, by decide⟩).write id ↔
      (computeAt ⟨0x1000, by decide⟩).exposed = (computeAt ⟨0x2000, by decide⟩).exposed :=
  write_eq_iff rfl rfl rfl

end CreateInfo

end VkRemote.Marshal
