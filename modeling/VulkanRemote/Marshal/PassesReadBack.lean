import VulkanRemote.Marshal.Pieces

/-! Pipelines and render passes as they arrive. Of each structure: what has to be in order with it, what its
decoder makes of it, and that the decoder takes exactly what the encoder wrote. -/

namespace VkRemote.Marshal
open Lib Wire Decode

/-- The id resolves, or is that of no handle. -/
def Resolver.Finds (hr : Resolver) (kind : HandleKind) (id : UInt64) : Prop := id = 0 ∨ hr kind id ≠ 0

/-- A chain of real pointers whose attachment references say what they are. -/
def PNext.Whole (chain : PNext) : Prop := chain.Real ∧ ∀ node ∈ chain.nodes, node.Typed

section

variable {hr : Resolver}

theorem resolved_ne {kind : HandleKind} {id : UInt64} (h : hr.Finds kind id) :
    id = 0 ∨ resolved hr kind id ≠ 0 := by
  unfold resolved
  split
  · next hid => exact .inl hid
  · next hid => exact .inr (h.resolve_left hid)

theorem reads_chain {context : PNextContext} {chain : PNext} {bytes : List UInt8}
    (hw : writePnextChain context chain = some bytes) (h : chain.Whole) :
    Reads (readPnextChain context) hr bytes (chain.received context hr) := reads_pnextChain hw h.1 h.2

def VkSpecializationInfo.Whole (s : VkSpecializationInfo) : Prop :=
  s.mapEntryCount.toNat ≤ kMaxArrayElements ∧ s.pMapEntries.Whole ∧ s.dataSize.toNat < 2 ^ 32 ∧ s.pData.Whole

def VkSpecializationInfo.received (s : VkSpecializationInfo) : VkSpecializationInfo :=
  { s with pMapEntries := s.pMapEntries.received id, pData := s.pData.received id }

theorem reads_specializationInfo {s : VkSpecializationInfo} (h : s.Whole) :
    Reads readSpecializationInfo hr (writeSpecializationInfo s) s.received := by
  obtain ⟨hcount, hentries, hsize, hdata⟩ := h
  unfold writeSpecializationInfo
  rw [List.append_assoc]
  exact .bind (.raw _ (by decide)) (.bind (.podArray hentries hcount (by decide))
    (.last (.bytesToArena hdata hsize) .pure))

/-- A string that is there. -/
def namedBy (p : Ptr (List UInt8)) : Prop := ∃ name ∈ p.target, name.length < 2 ^ 32

theorem reads_name {p : Ptr (List UInt8)} (h : namedBy p) :
    Reads readString hr (Writer.string (p.target.getD [])) (p.contents id) := by
  obtain ⟨name, htarget, hlength⟩ := h
  cases p with
  | host address n =>
    obtain rfl := Option.some.inj htarget
    exact .string hlength
  | arena n =>
    obtain rfl := Option.some.inj htarget
    exact .string hlength
  | _ => cases htarget

namespace VkPipelineShaderStageCreateInfo

def Whole (s : VkPipelineShaderStageCreateInfo) : Prop :=
  namedBy s.pName ∧ s.pSpecializationInfo.Real ∧ whenPresent s.pSpecializationInfo VkSpecializationInfo.Whole

def Finds (hr : Resolver) (s : VkPipelineShaderStageCreateInfo) : Prop := hr.Finds .shaderModule s.module

/-- No chain is sent with a stage. -/
def received (hr : Resolver) (s : VkPipelineShaderStageCreateInfo) : VkPipelineShaderStageCreateInfo :=
  { s with pNext := .null, module := resolved hr .shaderModule s.module, pName := s.pName.contents id,
           pSpecializationInfo := s.pSpecializationInfo.contents VkSpecializationInfo.received }

end VkPipelineShaderStageCreateInfo

theorem reads_pipelineShaderStageCreateInfo {s : VkPipelineShaderStageCreateInfo} (h : s.Whole)
    (hfinds : s.Finds hr) :
    Reads readPipelineShaderStageCreateInfo hr (writePipelineShaderStageCreateInfo s) (s.received hr) := by
  obtain ⟨hname, hreal, hinfo⟩ := h
  unfold writePipelineShaderStageCreateInfo
  rw [List.append_assoc]
  exact .bind (.raw _ (by decide)) (.bind (reads_name hname)
    (.last (.present hreal (fun a ha => reads_specializationInfo (hinfo a ha)) 32)
      (.skip (.patchHandle _ _) (.skip (.require (resolved_ne hfinds)) .pure))))

theorem le_length_stage (s : VkPipelineShaderStageCreateInfo) :
    12 ≤ (writePipelineShaderStageCreateInfo s).length := by
  have hsize : Raw.sizeof VkPipelineShaderStageCreateInfo = 48 := rfl
  unfold writePipelineShaderStageCreateInfo
  rw [List.append_assoc, List.length_append, length_writeRaw, hsize]
  omega

namespace VkPipelineVertexInputStateCreateInfo

def Whole (s : VkPipelineVertexInputStateCreateInfo) : Prop :=
  s.pVertexBindingDescriptions.Real ∧ s.pVertexAttributeDescriptions.Real

def received (s : VkPipelineVertexInputStateCreateInfo) : VkPipelineVertexInputStateCreateInfo :=
  { s with pNext := .null, pVertexBindingDescriptions := s.pVertexBindingDescriptions.received id,
           pVertexAttributeDescriptions := s.pVertexAttributeDescriptions.received id }

end VkPipelineVertexInputStateCreateInfo

theorem reads_vertexInputState {s : VkPipelineVertexInputStateCreateInfo} (h : s.Whole)
    (hb : validArray s.pVertexBindingDescriptions) (ha : validArray s.pVertexAttributeDescriptions) :
    Reads readVertexInputState hr (writeVertexInputState s) s.received := by
  unfold writeVertexInputState
  rw [List.append_assoc]
  exact .bind (.raw _ (by decide)) (.bind (.podArray (whole_of_validArray hb h.1) hb.1 (by decide))
    (.last (.podArray (whole_of_validArray ha h.2) ha.1 (by decide)) .pure))

/-- A state that is copied with its `pNext`, which has to be null. -/
def PlainState.Bare {n gap : ℕ} (s : PlainState n gap) : Prop := s.pNext.isNull = true

theorem PNext.isNull_iff {p : PNext} : p.isNull = true ↔ p = .null := by
  cases p with
  | null => exact iff_of_true rfl rfl
  | _ => exact iff_of_false Bool.false_ne_true nofun

theorem reads_bareState {n gap : ℕ} {p : Ptr (PlainState n gap)} (hreal : p.Real)
    (hbare : whenPresent p PlainState.Bare) (hsize : Raw.sizeof (PlainState n gap) < 2 ^ 32) :
    Reads (readOptPod (PlainState n gap)) hr (writeOptPod p) (p.contents id) := by
  have hcopy : p.contents Raw.copied = p.contents id := by
    have hsame : ∀ a ∈ p.target, Raw.copied a = a := by
      rintro ⟨sType, pNext, fields, gaps⟩ ha
      obtain rfl : pNext = .null := PNext.isNull_iff.1 (hbare _ ha)
      rfl
    cases p with
    | host address a => exact congrArg Ptr.arena (hsame a rfl)
    | arena a => exact congrArg Ptr.arena (hsame a rfl)
    | _ => rfl
  rw [← hcopy]
  exact .optPod hreal hsize

namespace VkPipelineViewportStateCreateInfo

def Whole (s : VkPipelineViewportStateCreateInfo) : Prop := s.pViewports.Real ∧ s.pScissors.Real

def received (s : VkPipelineViewportStateCreateInfo) : VkPipelineViewportStateCreateInfo :=
  { s with pNext := .null, pViewports := s.pViewports.received id, pScissors := s.pScissors.received id }

end VkPipelineViewportStateCreateInfo

theorem reads_viewportState {s : VkPipelineViewportStateCreateInfo} (h : s.Whole)
    (hv : s.viewportCount.toNat ≤ kMaxArrayElements) (hs : s.scissorCount.toNat ≤ kMaxArrayElements) :
    Reads readViewportState hr (writeViewportState s) s.received := by
  unfold writeViewportState
  rw [List.append_assoc]
  exact .bind (.raw _ (by decide)) (.bind (.optPodArray h.1 hv (by decide))
    (.last (.optPodArray h.2 hs (by decide)) .pure))

def VkPipelineMultisampleStateCreateInfo.Whole (s : VkPipelineMultisampleStateCreateInfo) : Prop :=
  s.pSampleMask.Real

def VkPipelineMultisampleStateCreateInfo.received (s : VkPipelineMultisampleStateCreateInfo) :
    VkPipelineMultisampleStateCreateInfo :=
  { s with pNext := .null, pSampleMask := s.pSampleMask.received id }

theorem reads_multisampleState {s : VkPipelineMultisampleStateCreateInfo} (h : s.Whole)
    (hsamples : validSamples s.rasterizationSamples) :
    Reads readMultisampleState hr (writeMultisampleState s) s.received := by
  have hwords : (s.rasterizationSamples.toNat + 31) / 32 ≤ kMaxArrayElements := by
    have hmost : s.rasterizationSamples.toNat ≤ 64 := hsamples.2.1
    unfold kMaxArrayElements
    omega
  exact .bind (.raw _ (by decide)) (.skip (.require hsamples)
    (.last (.optPodArray h hwords (by decide)) .pure))

def VkPipelineColorBlendStateCreateInfo.Whole (s : VkPipelineColorBlendStateCreateInfo) : Prop :=
  s.pAttachments.Real

def VkPipelineColorBlendStateCreateInfo.received (s : VkPipelineColorBlendStateCreateInfo) :
    VkPipelineColorBlendStateCreateInfo :=
  { s with pNext := .null, pAttachments := s.pAttachments.received id }

theorem reads_colorBlendState {s : VkPipelineColorBlendStateCreateInfo} (h : s.Whole)
    (hvalid : validArray s.pAttachments) : Reads readColorBlendState hr (writeColorBlendState s) s.received :=
  .bind (.raw _ (by decide)) (.last (.podArray (whole_of_validArray hvalid h) hvalid.1 (by decide)) .pure)

def VkPipelineDynamicStateCreateInfo.Whole (s : VkPipelineDynamicStateCreateInfo) : Prop := s.pDynamicStates.Real

def VkPipelineDynamicStateCreateInfo.received (s : VkPipelineDynamicStateCreateInfo) :
    VkPipelineDynamicStateCreateInfo :=
  { s with pNext := .null, pDynamicStates := s.pDynamicStates.received id }

theorem reads_dynamicState {s : VkPipelineDynamicStateCreateInfo} (h : s.Whole)
    (hvalid : validArray s.pDynamicStates) : Reads readDynamicState hr (writeDynamicState s) s.received :=
  .bind (.raw _ (by decide)) (.last (.podArray (whole_of_validArray hvalid h) hvalid.1 (by decide)) .pure)

/-- The state of the tessellation with the chain that came for it. -/
def receivedTessellation (hr : Resolver) (s : VkPipelineTessellationStateCreateInfo) :
    VkPipelineTessellationStateCreateInfo := { s with pNext := s.pNext.received .tessellationState hr }

namespace VkGraphicsPipelineCreateInfo

/-- Beyond what the encoder looks at. -/
structure Whole (s : VkGraphicsPipelineCreateInfo) : Prop where
  chain : s.pNext.Whole
  stages : s.pStages.Real ∧ ∀ stage ∈ s.pStages.items, stage.Whole
  vertexInput : s.pVertexInputState.Real ∧
    whenPresent s.pVertexInputState VkPipelineVertexInputStateCreateInfo.Whole
  inputAssembly : s.pInputAssemblyState.Real ∧ whenPresent s.pInputAssemblyState PlainState.Bare
  tessellation : s.pTessellationState.Real ∧ whenPresent s.pTessellationState fun t => t.pNext.Whole
  viewport : s.pViewportState.Real ∧ whenPresent s.pViewportState VkPipelineViewportStateCreateInfo.Whole
  rasterization : s.pRasterizationState.Real ∧ whenPresent s.pRasterizationState PlainState.Bare
  multisample : s.pMultisampleState.Real ∧
    whenPresent s.pMultisampleState VkPipelineMultisampleStateCreateInfo.Whole
  depthStencil : s.pDepthStencilState.Real ∧ whenPresent s.pDepthStencilState PlainState.Bare
  colorBlend : s.pColorBlendState.Real ∧ whenPresent s.pColorBlendState VkPipelineColorBlendStateCreateInfo.Whole
  dynamic : s.pDynamicState.Real ∧ whenPresent s.pDynamicState VkPipelineDynamicStateCreateInfo.Whole

def Finds (hr : Resolver) (s : VkGraphicsPipelineCreateInfo) : Prop :=
  (∀ stage ∈ s.pStages.items, stage.Finds hr) ∧ hr.Finds .pipelineLayout s.layout ∧
    hr.Finds .renderPass s.renderPass ∧ hr.Finds .pipeline s.basePipelineHandle

def received (hr : Resolver) (s : VkGraphicsPipelineCreateInfo) : VkGraphicsPipelineCreateInfo :=
  { s with pNext := s.pNext.received .graphicsPipeline hr,
           pStages := s.pStages.received (VkPipelineShaderStageCreateInfo.received hr),
           pVertexInputState := s.pVertexInputState.contents VkPipelineVertexInputStateCreateInfo.received,
           pInputAssemblyState := s.pInputAssemblyState.contents id,
           pTessellationState := s.pTessellationState.contents (receivedTessellation hr),
           pViewportState := s.pViewportState.contents VkPipelineViewportStateCreateInfo.received,
           pRasterizationState := s.pRasterizationState.contents id,
           pMultisampleState := s.pMultisampleState.contents VkPipelineMultisampleStateCreateInfo.received,
           pDepthStencilState := s.pDepthStencilState.contents id,
           pColorBlendState := s.pColorBlendState.contents VkPipelineColorBlendStateCreateInfo.received,
           pDynamicState := s.pDynamicState.contents VkPipelineDynamicStateCreateInfo.received,
           layout := resolved hr .pipelineLayout s.layout, renderPass := resolved hr .renderPass s.renderPass,
           basePipelineHandle := resolved hr .pipeline s.basePipelineHandle }

end VkGraphicsPipelineCreateInfo

/-- The chain goes behind everything else and replaces the address that was copied with the state. -/
theorem reads_tessellationChain {p : Ptr VkPipelineTessellationStateCreateInfo} {bytes : List UInt8}
    (hw : writeTessellationChain p = some bytes) (hreal : p.Real) (h : whenPresent p fun t => t.pNext.Whole) :
    Reads (readTessellationChain (p.contents Raw.copied)) hr bytes
      (p.contents (receivedTessellation hr)) := by
  cases p with
  | null =>
    obtain rfl := Option.some.inj hw
    exact .pure
  | host address t => exact .last (reads_chain hw (h t rfl)) .pure
  | arena t => exact .last (reads_chain hw (h t rfl)) .pure
  | wire bits => exact hreal.elim

theorem reads_graphicsPipelineCreateInfo {s : VkGraphicsPipelineCreateInfo} {bytes : List UInt8}
    (hw : writeGraphicsPipelineCreateInfo s = some bytes) (h : s.Whole) (hfinds : s.Finds hr) :
    Reads readGraphicsPipelineCreateInfo hr bytes (s.received hr) := by
  obtain ⟨hencodable, hw⟩ := Option.ite_none_right_eq_some.1 hw
  obtain ⟨chain, hchain, hw⟩ := Option.bind_eq_some_iff.1 hw
  obtain ⟨tessellationChain, htessellation, hw⟩ := Option.bind_eq_some_iff.1 hw
  obtain rfl := Option.some.inj hw
  obtain ⟨hstages, hvertex, hviewport, hmultisample, hblend, hdynamic⟩ := hencodable
  obtain ⟨hmodules, hlayout, hpass, hbase⟩ := hfinds
  have hstage : ∀ stage ∈ s.pStages.items, Reads readPipelineShaderStageCreateInfo hr
      (writePipelineShaderStageCreateInfo stage) (stage.received hr) := fun stage hmem =>
    reads_pipelineShaderStageCreateInfo (h.stages.2 stage hmem) (hmodules stage hmem)
  have hbacked : ∀ {left : ℕ}, (s.pStages.items.flatMap writePipelineShaderStageCreateInfo).length ≤ left →
      s.stageCount.toNat ≤ left / 12 := fun hleft =>
    Reads.le_div_wire (whole_of_validArray hstages h.stages.1) (by decide) (fun stage _ => le_length_stage stage)
      hleft
  simp only [List.append_assoc]
  refine .bind (.raw _ (by decide)) (.skip .requireOk (.remaining fun left hleft => ?_))
  rw [List.length_append] at hleft
  refine .skip (.require ⟨hstages.1, hbacked ((Nat.le_add_right _ _).trans hleft)⟩) ?_
  refine .bind (.array ⟨h.stages.1, hstages.2⟩ hstage 48) ?_
  refine .bind (.present h.vertexInput.1 (fun v hv =>
    reads_vertexInputState (h.vertexInput.2 v hv) (hvertex v hv).1 (hvertex v hv).2) 48) ?_
  refine .bind (reads_bareState h.inputAssembly.1 h.inputAssembly.2 (by decide)) ?_
  refine .bind (.optPod h.tessellation.1 (by decide)) ?_
  refine .bind (.present h.viewport.1 (fun v hv =>
    reads_viewportState (h.viewport.2 v hv) (hviewport v hv).1 (hviewport v hv).2) 48) ?_
  refine .bind (reads_bareState h.rasterization.1 h.rasterization.2 (by decide)) ?_
  refine .bind (.present h.multisample.1 (fun m hm =>
    reads_multisampleState (h.multisample.2 m hm) (hmultisample m hm)) 48) ?_
  refine .bind (reads_bareState h.depthStencil.1 h.depthStencil.2 (by decide)) ?_
  refine .bind (.present h.colorBlend.1 (fun c hc =>
    reads_colorBlendState (h.colorBlend.2 c hc) (hblend c hc)) 56) ?_
  refine .bind (.present h.dynamic.1 (fun d hd => reads_dynamicState (h.dynamic.2 d hd) (hdynamic d hd)) 32) ?_
  refine .bind (reads_chain hchain h.chain) ?_
  refine .last (reads_tessellationChain htessellation h.tessellation.1 h.tessellation.2) ?_
  exact .skip (.patchHandle _ _) (.skip (.patchHandle _ _) (.skip (.patchHandle _ _)
    (.skip (.require ⟨resolved_ne hlayout, resolved_ne hpass, resolved_ne hbase⟩) .pure)))

namespace VkComputePipelineCreateInfo

def Finds (hr : Resolver) (s : VkComputePipelineCreateInfo) : Prop :=
  s.stage.Finds hr ∧ hr.Finds .pipelineLayout s.layout ∧ hr.Finds .pipeline s.basePipelineHandle

/-- No chain is sent. -/
def received (hr : Resolver) (s : VkComputePipelineCreateInfo) : VkComputePipelineCreateInfo :=
  { s with pNext := .null, stage := s.stage.received hr, layout := resolved hr .pipelineLayout s.layout,
           basePipelineHandle := resolved hr .pipeline s.basePipelineHandle }

end VkComputePipelineCreateInfo

/-- The copy of the stage in front is not looked at. -/
theorem reads_computePipelineCreateInfo {s : VkComputePipelineCreateInfo} (h : s.stage.Whole)
    (hfinds : s.Finds hr) :
    Reads readComputePipelineCreateInfo hr (writeComputePipelineCreateInfo s) (s.received hr) :=
  .bind (.raw _ (by decide)) (.last (reads_pipelineShaderStageCreateInfo h hfinds.1)
    (.skip (.patchHandle _ _) (.skip (.patchHandle _ _)
      (.skip (.require ⟨resolved_ne hfinds.1, resolved_ne hfinds.2.1, resolved_ne hfinds.2.2⟩) .pure))))

namespace VkPipelineLayoutCreateInfo

def Whole (s : VkPipelineLayoutCreateInfo) : Prop :=
  s.setLayoutCount.toNat ≤ kMaxArrayElements ∧ s.pSetLayouts.Whole ∧
    s.pushConstantRangeCount.toNat ≤ kMaxArrayElements ∧ s.pPushConstantRanges.Whole

def received (hr : Resolver) (s : VkPipelineLayoutCreateInfo) : VkPipelineLayoutCreateInfo :=
  { s with pNext := .null, pSetLayouts := s.pSetLayouts.received (resolved hr .descriptorSetLayout),
           pPushConstantRanges := s.pPushConstantRanges.received id }

end VkPipelineLayoutCreateInfo

theorem reads_pipelineLayoutCreateInfo {s : VkPipelineLayoutCreateInfo} (h : s.Whole) :
    Reads readPipelineLayoutCreateInfo hr (writePipelineLayoutCreateInfo s) (s.received hr) := by
  obtain ⟨hlayoutCount, hlayouts, hrangeCount, hranges⟩ := h
  unfold writePipelineLayoutCreateInfo
  rw [List.append_assoc]
  exact .bind (.raw _ (by decide)) (.bind
    (.handles (validArray_of_whole hlayouts hlayoutCount) hlayouts.1 .descriptorSetLayout)
    (.last (.podArray hranges hrangeCount (by decide)) .pure))

def VkPipelineCacheCreateInfo.Whole (s : VkPipelineCacheCreateInfo) : Prop :=
  s.initialDataSize.toNat < 2 ^ 32 ∧ s.pInitialData.Whole

def VkPipelineCacheCreateInfo.received (s : VkPipelineCacheCreateInfo) : VkPipelineCacheCreateInfo :=
  { s with pNext := .null, pInitialData := s.pInitialData.received id }

theorem reads_pipelineCacheCreateInfo {s : VkPipelineCacheCreateInfo} (h : s.Whole) :
    Reads readPipelineCacheCreateInfo hr (writePipelineCacheCreateInfo s) s.received :=
  .bind (.raw _ (by decide)) (.last (.bytesToArena h.2 h.1) .pure)

def VkShaderModuleCreateInfo.Whole (s : VkShaderModuleCreateInfo) : Prop := s.pNext.Whole ∧ s.pCode.Real

def VkShaderModuleCreateInfo.received (hr : Resolver) (s : VkShaderModuleCreateInfo) : VkShaderModuleCreateInfo :=
  { s with pNext := s.pNext.received .shaderModule hr, pCode := s.pCode.received id }

theorem length_writeU32s {n : ℕ} {p : Ptr (Elements UInt32 n)} (hp : p.Whole) : (writeU32s p).length = 4 * n := by
  have hitems : ∀ l : List UInt32, (l.flatMap Writer.u32).length = 4 * l.length := by
    intro l
    induction l with
    | nil => rfl
    | cons v l ih =>
      rw [List.flatMap_cons, List.length_append, ih, Writer.length_u32, List.length_cons]
      ring
  rw [writeU32s, hitems, length_items hp]

/-- The code goes up to the end of the message. -/
theorem takes_shaderModuleCreateInfo {s : VkShaderModuleCreateInfo} {bytes : List UInt8}
    (hw : writeShaderModuleCreateInfo s = some bytes) (h : s.Whole) :
    Takes readShaderModuleCreateInfo hr bytes (s.received hr) := by
  obtain ⟨hvalid, hw⟩ := Option.ite_none_left_eq_some.1 hw
  obtain ⟨chain, hchain, hw⟩ := Option.bind_eq_some_iff.1 hw
  obtain rfl := Option.some.inj hw
  simp only [not_or, not_not, not_lt, Bool.not_eq_true] at hvalid
  obtain ⟨htype, hsize, hwords, hmost, hcode, -⟩ := hvalid
  have hwhole : s.pCode.Whole := ⟨h.2, fun _ => hcode⟩
  have hlength : (writeU32s s.pCode).length = s.codeSize.toNat := by
    rw [length_writeU32s hwhole]
    omega
  simp only [List.append_assoc]
  refine .bind .u32 (.bind .u32 (.skip .requireOk (.skip (.require htype) (.bind (reads_chain hchain h.1)
    (.bind .u64 (.skip .requireOk (.remaining (.skip (.require ⟨hsize, hwords, hmost, hlength.symm⟩) ?_))))))))
  rw [← List.append_nil (writeU32s s.pCode)]
  exact .bind (.array hwhole (fun _ _ => .u32) 4) (.skip .requireOk (.remaining (.skip (.require rfl)
    (.of_reads .pure))))

namespace VkSubpassDescription

structure Whole (s : VkSubpassDescription) : Prop where
  inputs : s.pInputAttachments.Whole
  colors : s.pColorAttachments.Whole
  resolves : s.pResolveAttachments.Real
  depth : s.pDepthStencilAttachment.Real
  preserves : s.pPreserveAttachments.Whole
  inputCount : s.inputAttachmentCount.toNat ≤ kMaxArrayElements
  colorCount : s.colorAttachmentCount.toNat ≤ kMaxArrayElements
  preserveCount : s.preserveAttachmentCount.toNat ≤ kMaxArrayElements

def received (s : VkSubpassDescription) : VkSubpassDescription :=
  { s with pInputAttachments := s.pInputAttachments.received id,
           pColorAttachments := s.pColorAttachments.received id,
           pResolveAttachments := s.pResolveAttachments.received id,
           pDepthStencilAttachment := s.pDepthStencilAttachment.contents id,
           pPreserveAttachments := s.pPreserveAttachments.received id }

end VkSubpassDescription

theorem reads_subpassDescription {s : VkSubpassDescription} (h : s.Whole) :
    Reads readSubpassDescription hr (writeSubpassDescription s) s.received := by
  unfold writeSubpassDescription
  simp only [List.append_assoc]
  exact .bind (.raw _ (by decide)) (.bind (.podArray h.inputs h.inputCount (by decide))
    (.bind (.podArray h.colors h.colorCount (by decide)) (.bind (.optPodArray h.resolves h.colorCount (by decide))
    (.bind (.optPod h.depth (by decide)) (.last (.podArray h.preserves h.preserveCount (by decide)) .pure)))))

namespace VkRenderPassCreateInfo

structure Whole (s : VkRenderPassCreateInfo) : Prop where
  chain : s.pNext.Whole
  attachments : s.pAttachments.Whole
  subpasses : s.pSubpasses.Whole
  each : ∀ subpass ∈ s.pSubpasses.items, subpass.Whole
  dependencies : s.pDependencies.Whole
  attachmentCount : s.attachmentCount.toNat ≤ kMaxArrayElements
  subpassCount : s.subpassCount.toNat ≤ kMaxArrayElements
  dependencyCount : s.dependencyCount.toNat ≤ kMaxArrayElements

def received (hr : Resolver) (s : VkRenderPassCreateInfo) : VkRenderPassCreateInfo :=
  { s with pNext := s.pNext.received .renderPass hr, pAttachments := s.pAttachments.received id,
           pSubpasses := s.pSubpasses.received VkSubpassDescription.received,
           pDependencies := s.pDependencies.received id }

end VkRenderPassCreateInfo

theorem reads_renderPassCreateInfo {s : VkRenderPassCreateInfo} {bytes : List UInt8}
    (hw : writeRenderPassCreateInfo s = some bytes) (h : s.Whole) :
    Reads readRenderPassCreateInfo hr bytes (s.received hr) := by
  obtain ⟨chain, hchain, hw⟩ := Option.bind_eq_some_iff.1 hw
  obtain rfl := Option.some.inj hw
  simp only [List.append_assoc]
  exact .bind (.raw _ (by decide)) (.bind (reads_chain hchain h.chain)
    (.bind (.podArray h.attachments h.attachmentCount (by decide)) (.skip (.require h.subpassCount)
    (.bind (.array h.subpasses (fun subpass hmem => reads_subpassDescription (h.each subpass hmem)) 72)
    (.last (.podArray h.dependencies h.dependencyCount (by decide)) .pure)))))

theorem reads_extended {n : ℕ} {type : UInt32} {s : Extended n} {bytes : List UInt8}
    (hw : writeExtended type s = some bytes) : Reads (readExtended n type) hr bytes s := by
  obtain ⟨⟨htype, hnext⟩, hw⟩ := Option.ite_none_right_eq_some.1 hw
  obtain rfl := Option.some.inj hw
  have hsize : ∀ x ∈ List.replicate n Slot.u32, x.size < 2 ^ 32 := by
    intro x hx
    rw [List.eq_of_mem_replicate hx]
    decide
  obtain ⟨sType, pNext, fields⟩ := s
  obtain rfl := isNull_iff.1 hnext
  exact .bind .u32 (.last (.fields hsize) (.skip .requireOk (.skip (.require htype) .pure)))

theorem size_u32s (n : ℕ) : Record.size (List.replicate n .u32) = 4 * n := by
  induction n with
  | zero => rfl
  | succ n ih =>
    rw [List.replicate_succ, Record.size_cons, ih, Slot.size]
    ring

theorem le_length_extended {n : ℕ} {type : UInt32} {s : Extended n} {bytes : List UInt8}
    (hw : writeExtended type s = some bytes) : 4 + 4 * n ≤ bytes.length := by
  obtain ⟨-, hw⟩ := Option.ite_none_right_eq_some.1 hw
  obtain rfl := Option.some.inj hw
  have hwritten : ∀ x ∈ List.replicate n Slot.u32, Slot.written x = true := by
    intro x hx
    rw [List.eq_of_mem_replicate hx]
    rfl
  have hfields := size_le_length_writeFields hwritten s.fields
  rw [size_u32s] at hfields
  rw [List.length_append, Writer.i32, Writer.length_u32]
  omega

theorem reads_attachmentReference2Full {a : VkAttachmentReference2} {bytes : List UInt8}
    (hw : writeAttachmentReference2Full a = some bytes) : Reads readAttachmentReference2 hr bytes a := by
  obtain ⟨⟨htype, hnext⟩, hw⟩ := Option.ite_none_right_eq_some.1 hw
  obtain rfl := Option.some.inj hw
  exact reads_attachmentReference2 hnext htype

theorem length_attachmentReference2Full {a : VkAttachmentReference2} {bytes : List UInt8}
    (hw : writeAttachmentReference2Full a = some bytes) : bytes.length = 16 := by
  obtain ⟨-, hw⟩ := Option.ite_none_right_eq_some.1 hw
  obtain rfl := Option.some.inj hw
  simp [writeAttachmentReference2, Writer.i32, Writer.length_u32]

section

variable {α : Type} {m : Decode α} {w : α → Option (List UInt8)} {f : α → α}

/-- An array whose presence is told by a flag. -/
theorem reads_flaggedArray {n : ℕ} {p : Ptr (Elements α n)} {bytes : List UInt8}
    (hw : writeAll w p.items = some bytes) (hreal : p.Real)
    (h : ∀ a bs, w a = some bs → Reads m hr bs (f a)) (size : ℕ) :
    Reads (readFlagged (array n size m)) hr (Writer.u32 (if p.isNull then 0 else 1) ++ bytes) (p.received f) := by
  obtain ⟨hall, rfl⟩ := writeAll_eq_some hw
  by_cases hnull : p.isNull = true
  · obtain rfl := isNull_iff.1 hnull
    rw [Ptr.received_null]
    exact .absent
  · rw [if_neg hnull]
    exact .flagged (.array ⟨hreal, fun _ => Bool.not_eq_true _ ▸ hnull⟩ (fun a ha => h a _ (hall a ha)) size)

/-- One structure whose presence is told by a flag. -/
theorem reads_flaggedOne {p : Ptr α} {bytes : List UInt8} (hw : writeAll w p.target.toList = some bytes)
    (hreal : p.Real) (h : ∀ a bs, w a = some bs → Reads m hr bs (f a)) (size : ℕ) :
    Reads (readFlagged (do allocate 1 size; let a ← m; return .arena a)) hr
      (Writer.u32 (if p.isNull then 0 else 1) ++ bytes) (p.contents f) := by
  obtain ⟨hall, rfl⟩ := writeAll_eq_some hw
  have hone : ∀ a, w a = some ((w a).getD []) →
      Reads (readFlagged (do allocate 1 size; let a ← m; return .arena a)) hr
        (Writer.u32 1 ++ [a].flatMap fun a => (w a).getD []) (.arena (f a)) := fun a ha => by
    rw [List.flatMap_singleton]
    exact .flagged (.skip (.allocate 1 size) (.last (h a _ ha) .pure))
  cases p with
  | null => exact .absent
  | host address a => exact hone a (hall a List.mem_cons_self)
  | arena a => exact hone a (hall a List.mem_cons_self)
  | wire bits => exact hreal.elim

end

namespace VkSubpassDescription2

structure Whole (s : VkSubpassDescription2) : Prop where
  chain : s.pNext.Whole
  inputs : s.pInputAttachments.Real
  colors : s.pColorAttachments.Real
  resolves : s.pResolveAttachments.Real
  depth : s.pDepthStencilAttachment.Real
  preserves : s.pPreserveAttachments.Real

def received (hr : Resolver) (s : VkSubpassDescription2) : VkSubpassDescription2 :=
  { s with pNext := s.pNext.received .renderPass2 hr, pInputAttachments := s.pInputAttachments.received id,
           pColorAttachments := s.pColorAttachments.received id,
           pResolveAttachments := s.pResolveAttachments.received id,
           pDepthStencilAttachment := s.pDepthStencilAttachment.contents id,
           pPreserveAttachments := s.pPreserveAttachments.received id }

end VkSubpassDescription2

theorem reads_subpassDescription2 {s : VkSubpassDescription2} {bytes : List UInt8}
    (hw : writeSubpassDescription2 s = some bytes) (h : s.Whole) :
    Reads readSubpassDescription2 hr bytes (s.received hr) := by
  obtain ⟨⟨htype, hinputs, hcolors, hpreserves⟩, hw⟩ := Option.ite_none_right_eq_some.1 hw
  obtain ⟨chain, hchain, hw⟩ := Option.bind_eq_some_iff.1 hw
  obtain ⟨inputs, hwi, hw⟩ := Option.bind_eq_some_iff.1 hw
  obtain ⟨colors, hwc, hw⟩ := Option.bind_eq_some_iff.1 hw
  obtain ⟨resolves, hwr, hw⟩ := Option.bind_eq_some_iff.1 hw
  obtain ⟨depth, hwd, hw⟩ := Option.bind_eq_some_iff.1 hw
  obtain rfl := Option.some.inj hw
  obtain ⟨halli, rfl⟩ := writeAll_eq_some hwi
  obtain ⟨hallc, rfl⟩ := writeAll_eq_some hwc
  simp only [List.append_assoc]
  refine .bind .u32 (.bind .u32 (.bind .u32 (.bind .u32 (.skip .requireOk (.skip (.require htype)
    (.bind (reads_chain hchain h.chain) ?_))))))
  refine .bindTwo (.bounded hinputs h.inputs (fun a ha => reads_attachmentReference2Full (halli a ha)) (by decide)
    (fun a ha => (length_attachmentReference2Full (halli a ha)).ge) 32) ?_
  refine .bindTwo (.bounded hcolors h.colors (fun a ha => reads_attachmentReference2Full (hallc a ha)) (by decide)
    (fun a ha => (length_attachmentReference2Full (hallc a ha)).ge) 32) ?_
  refine .bindTwo (reads_flaggedArray hwr h.resolves (fun a bs hw => reads_attachmentReference2Full hw) 32) ?_
  refine .bindTwo (reads_flaggedOne hwd h.depth (fun a bs hw => reads_attachmentReference2Full hw) 32) ?_
  exact .last (.bounded hpreserves h.preserves u32s (by decide) (fun a _ => (Writer.length_u32 a).ge) 4)
    (.skip .requireOk .pure)

namespace VkRenderPassCreateInfo2

structure Whole (s : VkRenderPassCreateInfo2) : Prop where
  chain : s.pNext.Whole
  attachments : s.pAttachments.Real
  subpasses : s.pSubpasses.Real
  each : ∀ subpass ∈ s.pSubpasses.items, subpass.Whole
  dependencies : s.pDependencies.Real
  masks : s.pCorrelatedViewMasks.Real

def received (hr : Resolver) (s : VkRenderPassCreateInfo2) : VkRenderPassCreateInfo2 :=
  { s with pNext := s.pNext.received .renderPass hr, pAttachments := s.pAttachments.received id,
           pSubpasses := s.pSubpasses.received (VkSubpassDescription2.received hr),
           pDependencies := s.pDependencies.received id,
           pCorrelatedViewMasks := s.pCorrelatedViewMasks.received id }

end VkRenderPassCreateInfo2

theorem reads_renderPassCreateInfo2 {s : VkRenderPassCreateInfo2} {bytes : List UInt8}
    (hw : writeRenderPassCreateInfo2 s = some bytes) (h : s.Whole) :
    Reads readRenderPassCreateInfo2 hr bytes (s.received hr) := by
  obtain ⟨⟨htype, hattachments, hsubpasses, hdependencies, hmasks⟩, hw⟩ := Option.ite_none_right_eq_some.1 hw
  obtain ⟨chain, hchain, hw⟩ := Option.bind_eq_some_iff.1 hw
  obtain ⟨attachments, hwa, hw⟩ := Option.bind_eq_some_iff.1 hw
  obtain ⟨subpasses, hws, hw⟩ := Option.bind_eq_some_iff.1 hw
  obtain ⟨dependencies, hwd, hw⟩ := Option.bind_eq_some_iff.1 hw
  obtain rfl := Option.some.inj hw
  obtain ⟨halla, rfl⟩ := writeAll_eq_some hwa
  obtain ⟨halls, rfl⟩ := writeAll_eq_some hws
  obtain ⟨halld, rfl⟩ := writeAll_eq_some hwd
  simp only [List.append_assoc]
  refine .bind .u32 (.bind .u32 (.skip .requireOk (.skip (.require htype)
    (.bind (reads_chain hchain h.chain) ?_))))
  refine .bindTwo (.bounded hattachments h.attachments (fun a ha => reads_extended (halla a ha)) (by decide)
    (fun a ha => le_length_extended (halla a ha)) 56) ?_
  refine .bindTwo (.counted hsubpasses h.subpasses
    (fun a ha => reads_subpassDescription2 (halls a ha) (h.each a ha)) 88) ?_
  refine .bindTwo (.bounded hdependencies h.dependencies (fun a ha => reads_extended (halld a ha)) (by decide)
    (fun a ha => le_length_extended (halld a ha)) 48) ?_
  exact .last (.bounded hmasks h.masks u32s (by decide) (fun a _ => (Writer.length_u32 a).ge) 4)
    (.skip .requireOk .pure)

namespace VkFramebufferCreateInfo

def Whole (s : VkFramebufferCreateInfo) : Prop :=
  s.pNext.Whole ∧ (¬ imageless s.flags → s.attachmentCount.toNat ≤ kMaxArrayElements ∧ s.pAttachments.Whole)

/-- Views are only sent where the framebuffer has them. -/
def received (hr : Resolver) (s : VkFramebufferCreateInfo) : VkFramebufferCreateInfo :=
  { s with pNext := s.pNext.received .framebufferCreate hr,
           pAttachments :=
             if imageless s.flags then .null else s.pAttachments.received (resolved hr .imageView),
           renderPass := resolved hr .renderPass s.renderPass }

end VkFramebufferCreateInfo

theorem reads_framebufferCreateInfo {s : VkFramebufferCreateInfo} {bytes : List UInt8}
    (hw : writeFramebufferCreateInfo s = some bytes) (h : s.Whole) :
    Reads readFramebufferCreateInfo hr bytes (s.received hr) := by
  obtain ⟨chain, hchain, hw⟩ := Option.bind_eq_some_iff.1 hw
  obtain rfl := Option.some.inj hw
  have hviews : Reads
      (whenUsed (¬ imageless s.flags) .null (readHandleArray .imageView s.attachmentCount.toNat)) hr
      (if imageless s.flags then [] else writeHandleArray s.pAttachments)
      (if imageless s.flags then .null else s.pAttachments.received (resolved hr .imageView)) := by
    by_cases himageless : imageless s.flags
    · rw [if_pos himageless, if_pos himageless]
      exact .unused (not_not.2 himageless)
    · obtain ⟨hcount, hviews⟩ := h.2 himageless
      rw [if_neg himageless, if_neg himageless]
      exact .used himageless (.handles (validArray_of_whole hviews hcount) hviews.1 .imageView)
  rw [List.append_assoc]
  exact .bind (.raw _ (by decide)) (.bind (reads_chain hchain h.1) (.last hviews (.skip (.patchHandle _ _) .pure)))

namespace VkRenderPassBeginInfo

def Whole (s : VkRenderPassBeginInfo) : Prop :=
  s.pNext.Whole ∧ s.clearValueCount.toNat ≤ kMaxArrayElements ∧ s.pClearValues.Whole

def received (hr : Resolver) (s : VkRenderPassBeginInfo) : VkRenderPassBeginInfo :=
  { s with pNext := s.pNext.received .renderPassBegin hr, pClearValues := s.pClearValues.received id,
           renderPass := resolved hr .renderPass s.renderPass,
           framebuffer := resolved hr .framebuffer s.framebuffer }

end VkRenderPassBeginInfo

theorem reads_renderPassBeginInfo {s : VkRenderPassBeginInfo} {bytes : List UInt8}
    (hw : writeRenderPassBeginInfo s = some bytes) (h : s.Whole) :
    Reads readRenderPassBeginInfo hr bytes (s.received hr) := by
  obtain ⟨chain, hchain, hw⟩ := Option.bind_eq_some_iff.1 hw
  obtain rfl := Option.some.inj hw
  rw [List.append_assoc]
  exact .bind (.raw _ (by decide)) (.bind (reads_chain hchain h.1) (.last (.podArray h.2.2 h.2.1 (by decide))
    (.skip (.patchHandle _ _) (.skip (.patchHandle _ _) .pure))))

def VkSubpassBeginInfo.received (hr : Resolver) (s : VkSubpassBeginInfo) : VkSubpassBeginInfo :=
  { s with pNext := s.pNext.received .renderPass2 hr }

theorem reads_subpassBeginInfo {s : VkSubpassBeginInfo} {bytes : List UInt8}
    (hw : writeSubpassBeginInfo s = some bytes) (h : s.pNext.Whole) :
    Reads readSubpassBeginInfo hr bytes (s.received hr) := by
  obtain ⟨htype, hw⟩ := Option.ite_none_right_eq_some.1 hw
  obtain ⟨chain, hchain, hw⟩ := Option.bind_eq_some_iff.1 hw
  obtain rfl := Option.some.inj hw
  rw [List.append_assoc]
  exact .bind .u32 (.bind .u32 (.skip .requireOk (.skip (.require htype) (.last (reads_chain hchain h) .pure))))

def VkSubpassEndInfo.received (hr : Resolver) (s : VkSubpassEndInfo) : VkSubpassEndInfo :=
  { s with pNext := s.pNext.received .renderPass2 hr }

theorem reads_subpassEndInfo {s : VkSubpassEndInfo} {bytes : List UInt8}
    (hw : writeSubpassEndInfo s = some bytes) (h : s.pNext.Whole) :
    Reads readSubpassEndInfo hr bytes (s.received hr) := by
  obtain ⟨htype, hw⟩ := Option.ite_none_right_eq_some.1 hw
  obtain ⟨chain, hchain, hw⟩ := Option.bind_eq_some_iff.1 hw
  obtain rfl := Option.some.inj hw
  exact .bind .u32 (.skip .requireOk (.skip (.require htype) (.last (reads_chain hchain h) .pure)))

def VkCommandBufferAllocateInfo.received (hr : Resolver) (s : VkCommandBufferAllocateInfo) :
    VkCommandBufferAllocateInfo :=
  { s with pNext := .null, commandPool := resolved hr .commandPool s.commandPool }

theorem reads_commandBufferAllocateInfo {s : VkCommandBufferAllocateInfo}
    (h : s.commandBufferCount.toNat ≤ kMaxArrayElements) :
    Reads readCommandBufferAllocateInfo hr (writeCommandBufferAllocateInfo s) (s.received hr) :=
  .last (.raw _ (by decide)) (.skip (.require h) (.skip (.patchHandle _ _) .pure))

/-- What the decoder asks of an inheritance info. -/
def VkCommandBufferInheritanceInfo.Whole (i : VkCommandBufferInheritanceInfo) : Prop :=
  i.sType = commandBufferInheritanceInfoType ∧ i.pNext.isNull = true

def VkCommandBufferInheritanceInfo.Finds (hr : Resolver) (i : VkCommandBufferInheritanceInfo) : Prop :=
  hr.Finds .renderPass i.renderPass ∧ hr.Finds .framebuffer i.framebuffer

def VkCommandBufferInheritanceInfo.received (hr : Resolver) (i : VkCommandBufferInheritanceInfo) :
    VkCommandBufferInheritanceInfo :=
  { i with renderPass := resolved hr .renderPass i.renderPass,
           framebuffer := resolved hr .framebuffer i.framebuffer }

theorem reads_inheritanceInfo {i : VkCommandBufferInheritanceInfo} (h : i.Whole) (hfinds : i.Finds hr) :
    Reads readInheritanceInfo hr (writeInheritanceInfo i) (i.received hr) := by
  obtain ⟨sType, pNext, renderPass, subpass, framebuffer, occlusionQueryEnable, queryFlags, statistics⟩ := i
  obtain ⟨htype, hnext⟩ := h
  obtain rfl := PNext.isNull_iff.1 hnext
  unfold writeInheritanceInfo
  simp only [List.append_assoc]
  exact .bind .u32 (.bind .u32 (.bind .u64 (.bind .u32 (.bind .u64 (.bind .u32 (.bind .u32 (.last .u32
    (.skip .requireOk (.skip (.require ⟨htype, rfl⟩) (.skip (.patchHandle _ _) (.skip (.patchHandle _ _)
    (.skip (.require ⟨resolved_ne hfinds.1, resolved_ne hfinds.2⟩) .pure))))))))))))

namespace VkCommandBufferBeginInfo

def Whole (s : VkCommandBufferBeginInfo) : Prop :=
  s.sType = commandBufferBeginInfoType ∧ s.pNext.isNull = true ∧ s.pInheritanceInfo.Real ∧
    whenPresent s.pInheritanceInfo VkCommandBufferInheritanceInfo.Whole

def Finds (hr : Resolver) (s : VkCommandBufferBeginInfo) : Prop :=
  whenPresent s.pInheritanceInfo (VkCommandBufferInheritanceInfo.Finds hr)

def received (hr : Resolver) (s : VkCommandBufferBeginInfo) : VkCommandBufferBeginInfo :=
  { s with pInheritanceInfo := s.pInheritanceInfo.contents (VkCommandBufferInheritanceInfo.received hr) }

end VkCommandBufferBeginInfo

theorem reads_commandBufferBeginInfo {s : VkCommandBufferBeginInfo} (h : s.Whole) (hfinds : s.Finds hr) :
    Reads readCommandBufferBeginInfo hr (writeCommandBufferBeginInfo s) (s.received hr) := by
  obtain ⟨sType, pNext, flags, info⟩ := s
  obtain ⟨htype, hnext, hreal, hinfo⟩ := h
  obtain rfl := PNext.isNull_iff.1 hnext
  unfold writeCommandBufferBeginInfo
  simp only [List.append_assoc]
  have hpresent : ∀ i : VkCommandBufferInheritanceInfo, i.Whole → i.Finds hr →
      Reads readCommandBufferBeginInfo hr
        (Writer.i32 sType ++ (Writer.u32 flags ++ (Writer.u32 0 ++ (Writer.u32 1 ++ writeInheritanceInfo i))))
        ⟨sType, .null, flags, .arena (i.received hr)⟩ := fun i hi hfound =>
    .bind .u32 (.bind .u32 (.bind .u32 (.bind .u32 (.skip .requireOk (.skip (.require ⟨htype, rfl, by decide⟩)
      (.skip (.allocate 1 56) (.last (reads_inheritanceInfo hi hfound) .pure)))))))
  cases info with
  | null =>
    exact .bind .u32 (.bind .u32 (.bind .u32 (.last .u32 (.skip .requireOk
      (.skip (.require ⟨htype, rfl, by decide⟩) .pure)))))
  | host address i => exact hpresent i (hinfo i rfl) (hfinds i rfl)
  | arena i => exact hpresent i (hinfo i rfl) (hfinds i rfl)
  | wire bits => exact hreal.elim

end

end VkRemote.Marshal
