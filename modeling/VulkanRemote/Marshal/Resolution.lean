import VulkanRemote.Marshal.Lookups

/-! Which decoders refuse an id that does not resolve, and which ask about id 0. -/

namespace VkRemote.Marshal

open Lib Wire Decode Layout

/-- Structures with no handle in them. -/
def handleFree (t : NodeType) : Prop := t ≠ .samplerYcbcrConversionInfo ∧ t ≠ .renderPassAttachmentBeginInfo

instance (t : NodeType) : Decidable (handleFree t) := inferInstanceAs (Decidable (_ ∧ _))

/-- Contexts in which no chain carries a handle. -/
def handleFreeContext (context : PNextContext) : Prop := ∀ t ∈ pnextAllowed context, handleFree t

instance (context : PNextContext) : Decidable (handleFreeContext context) :=
  inferInstanceAs (Decidable (∀ t ∈ pnextAllowed context, handleFree t))

theorem quiet_readAttachmentReference2 : Quiet readAttachmentReference2 :=
  .bind .u32 fun _ => .bind .u32 fun _ => .bind .u32 fun _ => .bind .u32 fun _ =>
    .bind .requireOk fun _ => .bind (.require _) fun _ => .pure _

theorem quiet_readShadingRateAttachment : Quiet readShadingRateAttachment :=
  .bind .u32 fun _ => .bind .requireOk fun _ => .bind (.require _) fun _ =>
    .ite (.pure _) (.bind (.allocate _ _) fun _ => .bind quiet_readAttachmentReference2 fun _ => .pure _)

theorem quiet_readAttachmentImageInfo : Quiet readAttachmentImageInfo :=
  .bind .u32 fun _ => .bind .u32 fun _ => .bind .u32 fun _ => .bind .u32 fun _ => .bind .u32 fun _ =>
    .bind (.readCounted .u32 _) fun _ => .pure _

theorem quiet_readNodeFields {t : NodeType} (h : handleFree t) : Quiet (readNodeFields t) := by
  cases t with
  | plain t => exact .bind (.readFields _) fun _ => .pure _
  | renderPassInputAttachmentAspectCreateInfo => exact .bind (.readCounted (.readFields _) _) fun _ => .pure _
  | renderPassMultiviewCreateInfo =>
    exact .bind (.readCounted .u32 _) fun _ => .bind (.readCounted .u32 _) fun _ =>
      .bind (.readCounted .u32 _) fun _ => .pure _
  | fragmentShadingRateAttachmentInfo =>
    exact .bind quiet_readShadingRateAttachment fun _ => .bind .u32 fun _ => .bind .u32 fun _ => .pure _
  | imageFormatListCreateInfo => exact .bind (.readCounted .u32 _) fun _ => .pure _
  | samplerYcbcrConversionInfo => exact absurd rfl h.1
  | framebufferAttachmentsCreateInfo =>
    exact .bind (.readCounted quiet_readAttachmentImageInfo _) fun _ => .pure _
  | renderPassAttachmentBeginInfo => exact absurd rfl h.2
  | timelineSemaphoreSubmitInfo =>
    exact .bind (.readCounted .u64 _) fun _ => .bind (.readCounted .u64 _) fun _ => .pure _
  | memoryAllocateFlagsInfo =>
    exact .bind .u32 fun _ => .bind .u32 fun _ => .bind (.require _) fun _ => .pure _

theorem quiet_readNodes {context : PNextContext} (h : handleFreeContext context) :
    (n : ℕ) → (seen : List UInt32) → Quiet (readNodes context n seen)
  | 0, _ => .pure _
  | n + 1, seen => by
    refine .bind .u32 fun code => .bind .requireOk fun _ => ?_
    cases ht : allowedType context code with
    | none => exact .fail
    | some t =>
      have hfree : handleFree t := h t (List.mem_of_find?_eq_some ht)
      exact .bind (.require _) fun _ => .bind (.allocate _ _) fun _ => .bind (quiet_readNodeFields hfree) fun _ =>
        .bind .requireOk fun _ => .bind (quiet_readNodes h n _) fun _ => .pure _

theorem quiet_readPnextChain {context : PNextContext} (h : handleFreeContext context) :
    Quiet (readPnextChain context) :=
  .bind .u32 fun _ => .bind .requireOk fun _ => .bind (.require _) fun _ => .bind (quiet_readNodes h _ _) fun _ =>
    .bind .requireOk fun _ => .pure _

section

variable {hr : Resolver}

theorem noZero_readNodeFields (t : NodeType) : NoZero hr (readNodeFields t) := by
  by_cases h : handleFree t
  · exact .quiet (quiet_readNodeFields h)
  · cases t with
    | samplerYcbcrConversionInfo => exact .after .u64 fun _ => .patch fun _ => .pure
    | renderPassAttachmentBeginInfo =>
      exact .after .u32 fun _ => .after .requireOk fun _ => .after (.require _) fun _ =>
        (NoZero.readHandleArray _ _).bind fun _ => .pure
    | _ => exact absurd ⟨nofun, nofun⟩ h

theorem alike_readNodeFields (t : NodeType) : Alike hr (readNodeFields t) (layoutNode t) := by
  cases t with
  | samplerYcbcrConversionInfo => exact .after .u64 fun _ => .placed (.patch fun _ => .pure)
  | renderPassAttachmentBeginInfo =>
    exact .after .u32 fun _ => .past .requireOk fun _ => .past (.require _) fun _ =>
      (Alike.readHandleArray _ _).last fun _ => .pure
  | _ => exact .skip (quiet_readNodeFields ⟨nofun, nofun⟩)

theorem strict_readNodeFields {t : NodeType} (h : handleFree t) : Strict hr (readNodeFields t) (layoutNode t) := by
  have hquiet := quiet_readNodeFields h
  cases t with
  | samplerYcbcrConversionInfo => exact absurd rfl h.1
  | renderPassAttachmentBeginInfo => exact absurd rfl h.2
  | _ => exact Strict.skip hquiet

theorem noZero_readNodes (context : PNextContext) :
    (n : ℕ) → (seen : List UInt32) → NoZero hr (readNodes context n seen)
  | 0, _ => .pure
  | n + 1, seen => by
    refine .after .u32 fun code => .after .requireOk fun _ => ?_
    cases allowedType context code with
    | none => exact .quiet .fail
    | some t =>
      exact .after (.require _) fun _ => .after (.allocate _ _) fun _ => (noZero_readNodeFields t).bind fun _ =>
        .after .requireOk fun _ => (noZero_readNodes context n _).bind fun _ => .pure

theorem alike_readNodes (context : PNextContext) :
    (n : ℕ) → (seen : List UInt32) → Alike hr (readNodes context n seen) (layoutNodes context n seen)
  | 0, _ => .pure
  | n + 1, seen => by
    refine .after .u32 fun code => .past .requireOk fun _ => ?_
    cases allowedType context code with
    | none => exact fun _ => ⟨rfl, rfl⟩
    | some t =>
      exact .past (.require _) fun _ => .allocate _ _ ((alike_readNodeFields t).bind fun _ _ =>
        .past .requireOk fun _ => (alike_readNodes context n _).last fun _ => .pure)

theorem strict_readNodes {context : PNextContext} (h : handleFreeContext context) :
    (n : ℕ) → (seen : List UInt32) → Strict hr (readNodes context n seen) (layoutNodes context n seen)
  | 0, _ => .pure
  | n + 1, seen => by
    refine .after .u32 fun code => .past .requireOk fun _ => ?_
    cases ht : allowedType context code with
    | none => exact fun _ _ hfail => nomatch hfail
    | some t =>
      have hfree : handleFree t := h t (List.mem_of_find?_eq_some ht)
      exact .past (.require _) fun _ => .check (allocate_reader _ _ hr) fun _ =>
        Strict.bind (strict_readNodeFields hfree) fun _ _ => .past .requireOk fun _ =>
          Strict.last (strict_readNodes h n _) fun _ => .pure

theorem noZero_readPnextChain (context : PNextContext) : NoZero hr (readPnextChain context) :=
  .after .u32 fun _ => .after .requireOk fun _ => .after (.require _) fun _ =>
    (noZero_readNodes context _ _).bind fun _ => .after .requireOk fun _ => .pure

theorem alike_readPnextChain (context : PNextContext) :
    Alike hr (readPnextChain context) (layoutPnextChain context) :=
  .after .u32 fun _ => .past .requireOk fun _ => .past (.require _) fun _ =>
    (alike_readNodes context _ _).bind fun _ _ => .last (.skip .requireOk) fun _ => .pure

theorem strict_readPnextChain {context : PNextContext} (h : handleFreeContext context) :
    Strict hr (readPnextChain context) (layoutPnextChain context) :=
  .after .u32 fun _ => .past .requireOk fun _ => .past (.require _) fun _ =>
    Strict.bind (strict_readNodes h _ _) fun _ _ => .ends .requireOk fun _ => .pure (resolved_nil hr)

end

/-! ### Decoders that ask nothing -/

theorem quiet_readSpecializationInfo : Quiet readSpecializationInfo :=
  .bind (.readRaw _) fun _ => .bind (.readPodArray _ _) fun _ => .bind (.readBytesToArena _) fun _ => .pure _

theorem quiet_readVertexInputState : Quiet readVertexInputState :=
  .bind (.readRaw _) fun _ => .bind (.readPodArray _ _) fun _ => .bind (.readPodArray _ _) fun _ => .pure _

theorem quiet_readViewportState : Quiet readViewportState :=
  .bind (.readRaw _) fun _ => .bind (.readOptPodArray _ _) fun _ => .bind (.readOptPodArray _ _) fun _ => .pure _

theorem quiet_readMultisampleState : Quiet readMultisampleState :=
  .bind (.readRaw _) fun _ => .bind (.require _) fun _ => .bind (.readOptPodArray _ _) fun _ => .pure _

theorem quiet_readColorBlendState : Quiet readColorBlendState :=
  .bind (.readRaw _) fun _ => .bind (.readPodArray _ _) fun _ => .pure _

theorem quiet_readDynamicState : Quiet readDynamicState :=
  .bind (.readRaw _) fun _ => .bind (.readPodArray _ _) fun _ => .pure _

theorem quiet_readTessellationChain (p : Ptr VkPipelineTessellationStateCreateInfo) :
    Quiet (readTessellationChain p) := by
  cases p with
  | arena t => exact .bind (quiet_readPnextChain (by decide)) fun _ => .pure _
  | _ => exact .pure _

theorem quiet_readShaderModuleCreateInfo : Quiet readShaderModuleCreateInfo :=
  .bind .u32 fun _ => .bind .u32 fun _ => .bind .requireOk fun _ => .bind (.require _) fun _ =>
    .bind (quiet_readPnextChain (by decide)) fun _ => .bind .u64 fun _ => .bind .requireOk fun _ =>
    .bind .remaining fun _ => .bind (.require _) fun _ => .bind (.array .u32 _ _) fun _ =>
    .bind .requireOk fun _ => .bind .remaining fun _ => .bind (.require _) fun _ => .pure _

theorem quiet_readPipelineCacheCreateInfo : Quiet readPipelineCacheCreateInfo :=
  .bind (.readRaw _) fun _ => .bind (.readBytesToArena _) fun _ => .pure _

theorem quiet_readSubpassDescription : Quiet readSubpassDescription :=
  .bind (.readRaw _) fun _ => .bind (.readPodArray _ _) fun _ => .bind (.readPodArray _ _) fun _ =>
    .bind (.readOptPodArray _ _) fun _ => .bind (.readOptPod _) fun _ => .bind (.readPodArray _ _) fun _ =>
    .pure _

theorem quiet_readRenderPassCreateInfo : Quiet readRenderPassCreateInfo :=
  .bind (.readRaw _) fun _ => .bind (quiet_readPnextChain (by decide)) fun _ => .bind (.readPodArray _ _) fun _ =>
    .bind (.require _) fun _ => .bind (.array quiet_readSubpassDescription _ _) fun _ =>
    .bind (.readPodArray _ _) fun _ => .pure _

theorem quiet_readExtended (n : ℕ) (type : UInt32) : Quiet (readExtended n type) :=
  .bind .u32 fun _ => .bind (.readFields _) fun _ => .bind .requireOk fun _ => .bind (.require _) fun _ => .pure _

theorem quiet_readSubpassDescription2 : Quiet readSubpassDescription2 :=
  have depth : Quiet (do allocate 1 32; let a ← readAttachmentReference2; return Ptr.arena a) :=
    .bind (.allocate _ _) fun _ => .bind quiet_readAttachmentReference2 fun _ => .pure _
  .bind .u32 fun _ => .bind .u32 fun _ => .bind .u32 fun _ => .bind .u32 fun _ => .bind .requireOk fun _ =>
    .bind (.require _) fun _ => .bind (quiet_readPnextChain (by decide)) fun _ =>
    .bind (.readBounded quiet_readAttachmentReference2 _ _) fun _ =>
    .bind (.readBounded quiet_readAttachmentReference2 _ _) fun _ =>
    .bind (.readFlagged (.array quiet_readAttachmentReference2 _ _)) fun _ =>
    .bind (.readFlagged depth) fun _ => .bind (.readBounded .u32 _ _) fun _ => .bind .requireOk fun _ => .pure _

theorem quiet_readRenderPassCreateInfo2 : Quiet readRenderPassCreateInfo2 :=
  .bind .u32 fun _ => .bind .u32 fun _ => .bind .requireOk fun _ => .bind (.require _) fun _ =>
    .bind (quiet_readPnextChain (by decide)) fun _ => .bind (.readBounded (quiet_readExtended _ _) _ _) fun _ =>
    .bind (.readCounted quiet_readSubpassDescription2 _) fun _ =>
    .bind (.readBounded (quiet_readExtended _ _) _ _) fun _ => .bind (.readBounded .u32 _ _) fun _ =>
    .bind .requireOk fun _ => .pure _

theorem quiet_readSubpassBeginInfo : Quiet readSubpassBeginInfo :=
  .bind .u32 fun _ => .bind .u32 fun _ => .bind .requireOk fun _ => .bind (.require _) fun _ =>
    .bind (quiet_readPnextChain (by decide)) fun _ => .pure _

theorem quiet_readSubpassEndInfo : Quiet readSubpassEndInfo :=
  .bind .u32 fun _ => .bind .requireOk fun _ => .bind (.require _) fun _ =>
    .bind (quiet_readPnextChain (by decide)) fun _ => .pure _

theorem quiet_readDescriptorPoolCreateInfo : Quiet readDescriptorPoolCreateInfo :=
  .bind (.readRaw _) fun _ => .bind (.readPodArray _ _) fun _ => .pure _

theorem quiet_readSamplerYcbcrConversionCreateInfo : Quiet readSamplerYcbcrConversionCreateInfo :=
  .bind .u32 fun _ => .bind (.readFields _) fun _ => .bind .requireOk fun _ => .bind (.require _) fun _ => .pure _

theorem quiet_readDeviceQueueCreateInfo : Quiet readDeviceQueueCreateInfo :=
  .bind (.readRaw _) fun _ => .bind (.readPodArray _ _) fun _ => .pure _

theorem quiet_readDeviceCreateInfo : Quiet readDeviceCreateInfo :=
  .bind (.readRaw _) fun _ => .bind (quiet_readPnextChain (by decide)) fun _ => .bind (.require _) fun _ =>
    .bind (.array quiet_readDeviceQueueCreateInfo _ _) fun _ => .bind (.readStringArray _) fun _ =>
    .bind (.readStringArray _) fun _ => .bind (.readOptPod _) fun _ => .pure _

theorem quiet_readBufferCreateInfo : Quiet readBufferCreateInfo :=
  .bind (.readRaw _) fun _ => .bind (quiet_readPnextChain (by decide)) fun _ => .bind (.readPodArray _ _) fun _ =>
    .pure _

theorem quiet_readImageCreateInfo : Quiet readImageCreateInfo :=
  .bind (.readRaw _) fun _ => .bind (quiet_readPnextChain (by decide)) fun _ => .bind (.readPodArray _ _) fun _ =>
    .pure _

theorem quiet_readChained (n gap : ℕ) {context : PNextContext} (h : handleFreeContext context) :
    Quiet (readChained n gap context) :=
  .bind (.readRaw _) fun _ => .bind (quiet_readPnextChain h) fun _ => .pure _

theorem quiet_readQueryPoolCreateInfo : Quiet readQueryPoolCreateInfo :=
  .bind .u32 fun _ => .bind .u32 fun _ => .bind .u32 fun _ => .bind .u32 fun _ => .bind .u32 fun _ =>
    .bind .u32 fun _ => .bind .requireOk fun _ => .bind (.require _) fun _ => .pure _

theorem quiet_readEventCreateInfo : Quiet readEventCreateInfo :=
  .bind .u32 fun _ => .bind .u32 fun _ => .bind .u32 fun _ => .bind .requireOk fun _ =>
    .bind (.require _) fun _ => .pure _

theorem quiet_readExtensionProperties : Quiet readExtensionProperties :=
  .bind (.bytes _) fun _ => .bind (.require _) fun _ => .bind .u32 fun _ => .bind .requireOk fun _ => .pure _

theorem quiet_readMemoryBarrier2 : Quiet readMemoryBarrier2 := .bind (.readFields _) fun _ => .pure _

/-! ### Decoders that give up where an id is dead -/

section

variable {hr : Resolver}

theorem noZero_readPipelineShaderStageCreateInfo : NoZero hr readPipelineShaderStageCreateInfo :=
  .after (.readRaw _) fun _ => .after .readString fun _ =>
    .after (.readPresent quiet_readSpecializationInfo _) fun _ => .patch fun _ => .after (.require _) fun _ => .pure

theorem strict_readPipelineShaderStageCreateInfo :
    Strict hr readPipelineShaderStageCreateInfo layoutPipelineShaderStageCreateInfo :=
  .after (.readRaw _) fun _ => .place (.past .readString fun _ =>
    .ends (.readPresent quiet_readSpecializationInfo _) fun _ => .patch (.require fun h =>
      .pure (resolved_one.2 (not_dead h))))

theorem noZero_readGraphicsPipelineCreateInfo : NoZero hr readGraphicsPipelineCreateInfo :=
  .after (.readRaw _) fun _ => .after .requireOk fun _ => .after .remaining fun _ => .after (.require _) fun _ =>
    (noZero_readPipelineShaderStageCreateInfo.array _ _).bind fun _ =>
    .after (.readPresent quiet_readVertexInputState _) fun _ => .after (.readOptPod _) fun _ =>
    .after (.readOptPod _) fun _ => .after (.readPresent quiet_readViewportState _) fun _ =>
    .after (.readOptPod _) fun _ => .after (.readPresent quiet_readMultisampleState _) fun _ =>
    .after (.readOptPod _) fun _ => .after (.readPresent quiet_readColorBlendState _) fun _ =>
    .after (.readPresent quiet_readDynamicState _) fun _ => .after (quiet_readPnextChain (by decide)) fun _ =>
    .after (quiet_readTessellationChain _) fun _ => .patch fun _ => .patch fun _ => .patch fun _ =>
    .after (.require _) fun _ => .pure

theorem strict_readGraphicsPipelineCreateInfo :
    Strict hr readGraphicsPipelineCreateInfo layoutGraphicsPipelineCreateInfo := by
  refine .after (.readRaw _) fun _ => .place (.place (.place (.check (fun _ => rfl) fun _ =>
    .check (fun _ => rfl) fun _ => .require fun _ =>
    Guards.bind (Strict.array strict_readPipelineShaderStageCreateInfo _ _) fun _ _ stages hstages =>
    .past (.readPresent quiet_readVertexInputState _) fun _ => .past (.readOptPod _) fun _ =>
    .after (.readOptPod _) fun _ => .past (.readPresent quiet_readViewportState _) fun _ =>
    .past (.readOptPod _) fun _ => .past (.readPresent quiet_readMultisampleState _) fun _ =>
    .past (.readOptPod _) fun _ => .past (.readPresent quiet_readColorBlendState _) fun _ =>
    .past (.readPresent quiet_readDynamicState _) fun _ => .past (quiet_readPnextChain (by decide)) fun _ =>
    .ends (quiet_readTessellationChain _) fun _ => .patch (.patch (.patch (.require fun h => .pure ?_))))))
  obtain ⟨hlayout, hrenderPass, hbase⟩ := h
  rw [List.append_nil, resolved_cons, resolved_cons, resolved_cons]
  exact ⟨not_dead hlayout, not_dead hrenderPass, not_dead hbase, hstages⟩

theorem noZero_readComputePipelineCreateInfo : NoZero hr readComputePipelineCreateInfo :=
  .after (.readRaw _) fun _ => noZero_readPipelineShaderStageCreateInfo.bind fun _ => .patch fun _ =>
    .patch fun _ => .after (.require _) fun _ => .pure

theorem strict_readComputePipelineCreateInfo :
    Strict hr readComputePipelineCreateInfo layoutComputePipelineCreateInfo := by
  refine .after (.readRaw _) fun _ => .place (.place (.last strict_readPipelineShaderStageCreateInfo
    fun _ stage hstage => .patch (.patch (.require fun h => .pure ?_))))
  rw [List.append_nil, resolved_cons, resolved_cons]
  exact ⟨not_dead h.2.1, not_dead h.2.2, hstage⟩

theorem noZero_readBufferViewCreateInfo : NoZero hr readBufferViewCreateInfo :=
  .after .u32 fun _ => .after .u32 fun _ => .after .u64 fun _ => .after .u32 fun _ => .after .u64 fun _ =>
    .after .u64 fun _ => .patch fun _ => .after .requireOk fun _ => .after (.require _) fun _ => .pure

theorem strict_readBufferViewCreateInfo : Strict hr readBufferViewCreateInfo layoutBufferViewCreateInfo :=
  .past .u32 fun _ => .past .u32 fun _ => .after .u64 fun _ => .place (.past .u32 fun _ => .past .u64 fun _ =>
    .ends .u64 fun _ => .patch (.check (fun _ => rfl) fun _ => .require fun h =>
      .pure (resolved_one.2 (not_dead (.inr h.2)))))

theorem noZero_readInheritanceInfo : NoZero hr readInheritanceInfo :=
  .after .u32 fun _ => .after .u32 fun _ => .after .u64 fun _ => .after .u32 fun _ => .after .u64 fun _ =>
    .after .u32 fun _ => .after .u32 fun _ => .after .u32 fun _ => .after .requireOk fun _ =>
    .after (.require _) fun _ => .patch fun _ => .patch fun _ => .after (.require _) fun _ => .pure

theorem strict_readInheritanceInfo : Strict hr readInheritanceInfo layoutInheritanceInfo := by
  refine .past .u32 fun _ => .past .u32 fun _ => .after .u64 fun _ => .place (.past .u32 fun _ =>
    .after .u64 fun _ => .place (.past .u32 fun _ => .past .u32 fun _ => .ends .u32 fun _ =>
    .check (fun _ => rfl) fun _ => .require fun _ => .patch (.patch (.require fun h => .pure ?_))))
  rw [resolved_cons, resolved_one]
  exact ⟨not_dead h.1, not_dead h.2⟩

theorem noZero_readCommandBufferBeginInfo : NoZero hr readCommandBufferBeginInfo :=
  .after .u32 fun _ => .after .u32 fun _ => .after .u32 fun _ => .after .u32 fun _ => .after .requireOk fun _ =>
    .after (.require _) fun _ => .ite .pure (.after (.allocate _ _) fun _ =>
      noZero_readInheritanceInfo.bind fun _ => .pure)

theorem strict_readCommandBufferBeginInfo :
    Strict hr readCommandBufferBeginInfo layoutCommandBufferBeginInfo := by
  refine .past .u32 fun _ => .past .u32 fun _ => .past .u32 fun _ => .after .u32 fun hasInheritance =>
    .check (fun _ => rfl) fun _ => .require fun _ => ?_
  unfold onlyIf
  by_cases h : hasInheritance = 0
  · rw [if_pos h, if_neg (not_not_intro h)]
    exact .pure (resolved_nil hr)
  · rw [if_neg h, if_pos h]
    exact .check (allocate_reader _ _ hr) fun _ => Strict.last strict_readInheritanceInfo fun _ => .pure

/-- A handle that is looked up only where the descriptor type uses it, and is then required to resolve. -/
theorem guards_whenUsed (p : Prop) [Decidable p] (kind : HandleKind) (id : UInt64) :
    Guards hr (whenUsed p 0 (patchHandle kind id)) (onlyIf p (place kind id))
      fun h new => (p → id ≠ 0 ∧ h ≠ 0) → Resolved hr new := by
  refine .ite (fun hp s h hh => ?_) fun _ => .pure fun _ => resolved_nil hr
  rw [patchHandle_eq] at hh ⊢
  obtain rfl := Option.some.inj hh
  exact ⟨rfl, rfl, fun hchecked => resolved_one.2 (not_dead (.inr (hchecked hp).2))⟩

theorem noZero_readImageInfo (type : UInt32) : NoZero hr (readImageInfo type) :=
  .after .u64 fun _ => .after .u64 fun _ => .after .u32 fun _ => .after .requireOk fun _ =>
    (NoZero.whenUsed (.patchHandle _ _) _).bind fun _ => (NoZero.whenUsed (.patchHandle _ _) _).bind fun _ =>
    .after (.require _) fun _ => .pure

theorem strict_readImageInfo (type : UInt32) : Strict hr (readImageInfo type) (layoutImageInfo type) := by
  refine .after .u64 fun _ => .after .u64 fun _ => .past .u32 fun _ => .check (fun _ => rfl) fun _ =>
    Guards.bind (guards_whenUsed _ _ _) fun _ _ _ hsampler =>
    .last (guards_whenUsed _ _ _) fun _ _ hview => .require fun h => .pure ?_
  rw [List.append_nil, resolved_append]
  exact ⟨hsampler h.1, hview h.2⟩

theorem noZero_readBufferInfo : NoZero hr readBufferInfo :=
  .after .u64 fun _ => .after .u64 fun _ => .after .u64 fun _ => .after .requireOk fun _ => .patch fun _ =>
    .after (.require _) fun _ => .pure

theorem strict_readBufferInfo : Strict hr readBufferInfo layoutBufferInfo :=
  .after .u64 fun _ => .place (.past .u64 fun _ => .ends .u64 fun _ => .check (fun _ => rfl) fun _ =>
    .patch (.require fun h => .pure (resolved_one.2 (not_dead (.inr h.2)))))

theorem noZero_readTexelBufferView : NoZero hr readTexelBufferView := by
  refine .after .u64 fun id => .after .requireOk fun _ => .require fun hid => ?_
  -- behind the check for zero a lookup is a patched handle
  have hpatch : lookup .bufferView id = patchHandle .bufferView id := (if_neg hid).symm
  rw [hpatch]
  exact .patch fun _ => .after (.require _) fun _ => .patchHandle _ _

theorem strict_readTexelBufferView : Strict hr readTexelBufferView layoutTexelBufferView := by
  refine .after .u64 fun id => .placed (.check (fun _ => rfl) fun _ => .require fun hid => ?_)
  have hpatch : lookup .bufferView id = patchHandle .bufferView id := (if_neg hid).symm
  rw [hpatch]
  refine .patch (.require fun h s _ _ => ⟨rfl, ?_, resolved_one.2 (not_dead (.inr h))⟩)
  rw [patchHandle_eq]
  rfl

theorem noZero_readWriteDescriptorSet : NoZero hr readWriteDescriptorSet :=
  .after (.readRaw _) fun _ => .after (.require _) fun _ => .after .u32 fun _ => .after (.require _) fun _ =>
    .after .requireOk fun _ => .after (.require _) fun _ =>
    (NoZero.whenUsed ((noZero_readImageInfo _).array _ _) _).bind fun _ =>
    (NoZero.whenUsed (noZero_readBufferInfo.array _ _) _).bind fun _ =>
    (NoZero.whenUsed (noZero_readTexelBufferView.array _ _) _).bind fun _ =>
    .patch fun _ => .after (.require _) fun _ => .pure

theorem strict_readWriteDescriptorSet : Strict hr readWriteDescriptorSet layoutWriteDescriptorSet := by
  refine .after (.readRaw _) fun _ => .place (.require fun _ => .after .u32 fun _ => .require fun _ =>
    .check (fun _ => rfl) fun _ => .require fun _ =>
    Guards.bind (Strict.whenUsed (Strict.array (strict_readImageInfo _) _ _) _) fun _ _ _ himages =>
    Guards.bind (Strict.whenUsed (Strict.array strict_readBufferInfo _ _) _) fun _ _ _ hbuffers =>
    .last (Strict.whenUsed (Strict.array strict_readTexelBufferView _ _) _) fun _ _ hviews =>
    .patch (.require fun h => .pure ?_))
  rw [List.append_nil, resolved_cons, resolved_append, resolved_append]
  exact ⟨not_dead (.inr h.2), himages, hbuffers, hviews⟩

theorem noZero_readCopyDescriptorSet : NoZero hr readCopyDescriptorSet :=
  .after (.readRaw _) fun _ => .patch fun _ => .patch fun _ => .after (.require _) fun _ => .pure

theorem strict_readCopyDescriptorSet : Strict hr readCopyDescriptorSet layoutCopyDescriptorSet := by
  refine .after (.readRaw _) fun _ => .place (.placed (.patch (.patch (.require fun h => .pure ?_))))
  rw [resolved_cons, resolved_one]
  exact ⟨not_dead (.inr h.2.1), not_dead (.inr h.2.2.2)⟩

/-- An array of handles none of which is null. -/
theorem guards_readHandleArray (kind : HandleKind) (count : ℕ) :
    Guards hr (readHandleArray kind count) (layoutHandles kind count)
      fun p new => (∀ h ∈ p.items, h ≠ 0) → Resolved hr new := by
  have hone : Guards hr (readHandle kind) (layoutHandle kind) fun h new => h ≠ 0 → Resolved hr new := by
    refine .after .u64 fun id => .past .requireOk fun _ => .placed fun s h hh => ?_
    rw [patchHandle_eq] at hh ⊢
    obtain rfl := Option.some.inj hh
    exact ⟨rfl, rfl, fun h => resolved_one.2 (not_dead (.inr h))⟩
  have htimes : ∀ n, Guards hr (times n (readHandle kind)) (repeated n (layoutHandle kind))
      fun v new => (∀ h ∈ v.toList, h ≠ 0) → Resolved hr new := by
    intro n
    induction n with
    | zero => exact .pure fun _ => resolved_nil hr
    | succ n ih =>
      refine Guards.bind hone fun a _ new hnew => .last ih fun v more hmore => .pure fun hall => ?_
      rw [List.Vector.toList_cons] at hall
      obtain ⟨ha, hv⟩ := List.forall_mem_cons.1 hall
      rw [List.append_nil, resolved_append]
      exact ⟨hnew ha, hmore hv⟩
  refine .ite (fun _ => .pure fun _ => resolved_nil hr) fun hcount => .past (.require _) fun _ =>
    .check (allocate_reader _ _ hr) fun _ => .last (htimes count) fun v new hnew => .pure ?_
  rw [if_neg hcount, List.append_nil]
  exact hnew

theorem noZero_readDescriptorSetAllocateInfo : NoZero hr readDescriptorSetAllocateInfo :=
  .after (.readRaw _) fun _ => .after (.require _) fun _ => (NoZero.readHandleArray _ _).bind fun _ =>
    .after (.require _) fun _ => .patch fun _ => .after (.require _) fun _ => .pure

theorem strict_readDescriptorSetAllocateInfo :
    Strict hr readDescriptorSetAllocateInfo layoutDescriptorSetAllocateInfo := by
  refine .after (.readRaw _) fun s => .place (.require fun _ => .last (guards_readHandleArray _ _)
    fun p new hnew => .require fun hall => .patch (.require fun h => .pure ?_))
  have hall' : ∀ layout ∈ p.items, layout ≠ 0 := by simpa using hall
  rw [List.append_nil, resolved_cons]
  exact ⟨not_dead (.inr h.2), hnew hall'⟩

/-! ### Decoders that take what the resolver answers -/

theorem noZero_readSwapchainCreateInfoKHR : NoZero hr readSwapchainCreateInfoKHR :=
  .after (.readRaw _) fun _ => .after (.readPodArray _ _) fun _ => .patch fun _ => .patch fun _ => .pure

theorem alike_readSwapchainCreateInfoKHR : Alike hr readSwapchainCreateInfoKHR layoutSwapchainCreateInfoKHR :=
  .after (.readRaw _) fun _ => .place (.place (.last (.skip (.readPodArray _ _)) fun _ => .patch fun _ =>
    .patch fun _ => .pure))

theorem noZero_readImageViewCreateInfo : NoZero hr readImageViewCreateInfo :=
  .after (.readRaw _) fun _ => (noZero_readPnextChain _).bind fun _ => .patch fun _ => .pure

theorem alike_readImageViewCreateInfo : Alike hr readImageViewCreateInfo layoutImageViewCreateInfo :=
  .after (.readRaw _) fun _ => .place (.last (alike_readPnextChain _) fun _ => .patch fun _ => .pure)

theorem noZero_readSamplerCreateInfo : NoZero hr readSamplerCreateInfo :=
  .after (.readRaw _) fun _ => (noZero_readPnextChain _).bind fun _ => .pure

theorem alike_readSamplerCreateInfo : Alike hr readSamplerCreateInfo layoutSamplerCreateInfo :=
  .past (.readRaw _) fun _ => .last (alike_readPnextChain _) fun _ => .pure

theorem noZero_readPipelineLayoutCreateInfo : NoZero hr readPipelineLayoutCreateInfo :=
  .after (.readRaw _) fun _ => (NoZero.readHandleArray _ _).bind fun _ => .after (.readPodArray _ _) fun _ => .pure

theorem alike_readPipelineLayoutCreateInfo :
    Alike hr readPipelineLayoutCreateInfo layoutPipelineLayoutCreateInfo :=
  .after (.readRaw _) fun _ => .bind (.readHandleArray _ _) fun _ _ => .last (.skip (.readPodArray _ _)) fun _ =>
    .pure

theorem noZero_readFramebufferCreateInfo : NoZero hr readFramebufferCreateInfo :=
  .after (.readRaw _) fun _ => (noZero_readPnextChain _).bind fun _ =>
    (NoZero.whenUsed (.readHandleArray _ _) _).bind fun _ => .patch fun _ => .pure

theorem alike_readFramebufferCreateInfo : Alike hr readFramebufferCreateInfo layoutFramebufferCreateInfo :=
  .after (.readRaw _) fun _ => .place (.bind (alike_readPnextChain _) fun _ _ =>
    .last (.whenUsed (.readHandleArray _ _) _) fun _ => .patch fun _ => .pure)

theorem noZero_readRenderPassBeginInfo : NoZero hr readRenderPassBeginInfo :=
  .after (.readRaw _) fun _ => (noZero_readPnextChain _).bind fun _ => .after (.readPodArray _ _) fun _ =>
    .patch fun _ => .patch fun _ => .pure

theorem alike_readRenderPassBeginInfo : Alike hr readRenderPassBeginInfo layoutRenderPassBeginInfo :=
  .after (.readRaw _) fun _ => .place (.place (.bind (alike_readPnextChain _) fun _ _ =>
    .last (.skip (.readPodArray _ _)) fun _ => .patch fun _ => .patch fun _ => .pure))

theorem noZero_readCommandBufferAllocateInfo : NoZero hr readCommandBufferAllocateInfo :=
  .after (.readRaw _) fun _ => .after (.require _) fun _ => .patch fun _ => .pure

theorem alike_readCommandBufferAllocateInfo :
    Alike hr readCommandBufferAllocateInfo layoutCommandBufferAllocateInfo :=
  .after (.readRaw _) fun _ => .place (.last (.skip (.require _)) fun _ => .patch fun _ => .pure)

theorem noZero_readSetLayoutBinding : NoZero hr readSetLayoutBinding :=
  .after (.readRaw _) fun _ => .after .u32 fun _ => .after .requireOk fun _ =>
    (NoZero.whenUsed (.readHandleArray _ _) _).bind fun _ => .pure

theorem alike_readSetLayoutBinding : Alike hr readSetLayoutBinding layoutSetLayoutBinding :=
  .after (.readRaw _) fun _ => .after .u32 fun _ => .past .requireOk fun _ =>
    .last (.whenUsed (.readHandleArray _ _) _) fun _ => .pure

theorem noZero_readDescriptorSetLayoutCreateInfo : NoZero hr readDescriptorSetLayoutCreateInfo :=
  .after (.readRaw _) fun _ => .after .remaining fun _ => .after (.require _) fun _ =>
    (noZero_readSetLayoutBinding.array _ _).bind fun _ => .pure

theorem alike_readDescriptorSetLayoutCreateInfo :
    Alike hr readDescriptorSetLayoutCreateInfo layoutDescriptorSetLayoutCreateInfo :=
  .after (.readRaw _) fun _ => .after .remaining fun _ => .past (.require _) fun _ =>
    .last (alike_readSetLayoutBinding.array _ _) fun _ => .pure

theorem quiet_readTemplateEntry : Quiet readTemplateEntry :=
  .bind .u32 fun _ => .bind .u32 fun _ => .bind .u32 fun _ => .bind .u32 fun _ => .bind .u64 fun _ =>
    .bind .u64 fun _ => .pure _

theorem noZero_readDescriptorUpdateTemplateCreateInfo : NoZero hr readDescriptorUpdateTemplateCreateInfo :=
  .after .u32 fun _ => .after .u32 fun _ => .after .u32 fun _ => .after .requireOk fun _ =>
    .after .remaining fun _ => .after (.require _) fun _ => .after (.array quiet_readTemplateEntry _ _) fun _ =>
    .after .u32 fun _ => .after .u64 fun _ => .patch fun _ => .after .u32 fun _ => .after .u64 fun _ =>
    .patch fun _ => .after .u32 fun _ => .after .requireOk fun _ => .pure

theorem alike_readDescriptorUpdateTemplateCreateInfo :
    Alike hr readDescriptorUpdateTemplateCreateInfo layoutDescriptorUpdateTemplateCreateInfo :=
  .after .u32 fun _ => .past .u32 fun _ => .after .u32 fun _ => .past .requireOk fun _ =>
    .after .remaining fun _ => .past (.require _) fun _ => .past (.array quiet_readTemplateEntry _ _) fun _ =>
    .past .u32 fun _ => .after .u64 fun _ => .place (.patch fun _ => .past .u32 fun _ => .after .u64 fun _ =>
    .place (.patch fun _ => .past .u32 fun _ => .last (.skip .requireOk) fun _ => .pure))

theorem noZero_readBufferMemoryBarrier : NoZero hr readBufferMemoryBarrier :=
  .after (.readRaw _) fun _ => .patch fun _ => .pure

theorem alike_readBufferMemoryBarrier : Alike hr readBufferMemoryBarrier layoutBufferMemoryBarrier :=
  .after (.readRaw _) fun _ => .placed (.patch fun _ => .pure)

theorem noZero_readImageMemoryBarrier : NoZero hr readImageMemoryBarrier :=
  .after (.readRaw _) fun _ => .patch fun _ => .pure

theorem alike_readImageMemoryBarrier : Alike hr readImageMemoryBarrier layoutImageMemoryBarrier :=
  .after (.readRaw _) fun _ => .placed (.patch fun _ => .pure)

/-! ### Decoders that ask about id 0 -/

theorem follows_readBufferMemoryBarrier2 : Follows hr readBufferMemoryBarrier2 layoutBufferMemoryBarrier2 :=
  .past (.readFields _) fun _ => .past (.readFields _) fun _ => .after .u64 fun _ => .ask _ _ (.readFields _) _

theorem follows_readImageMemoryBarrier2 : Follows hr readImageMemoryBarrier2 layoutImageMemoryBarrier2 :=
  .past (.readFields _) fun _ => .past (.readFields _) fun _ => .after .u64 fun _ => .ask _ _ (.readFields _) _

theorem follows_readDependencyInfo : Follows hr readDependencyInfo layoutDependencyInfo :=
  .past .u32 fun _ => .past (.readBacked quiet_readMemoryBarrier2 _ _) fun _ =>
    .bind (.readBacked follows_readBufferMemoryBarrier2 _ _) fun _ _ =>
    .bind (.readBacked follows_readImageMemoryBarrier2 _ _) fun _ _ => .last (.skip .requireOk) fun _ => .pure

theorem follows_readSemaphoreSubmitInfo : Follows hr readSemaphoreSubmitInfo layoutSemaphoreSubmitInfo :=
  .after .u64 fun _ => .ask _ _ (.readFields _) _

theorem follows_readCommandBufferSubmitInfo :
    Follows hr readCommandBufferSubmitInfo layoutCommandBufferSubmitInfo :=
  .after .u64 fun _ => .ask _ _ .u32 _

theorem follows_readSubmitInfo2 : Follows hr readSubmitInfo2 layoutSubmitInfo2 :=
  .past .u32 fun _ => .bind (.readBacked follows_readSemaphoreSubmitInfo _ _) fun _ _ =>
    .bind (.readBacked follows_readCommandBufferSubmitInfo _ _) fun _ _ =>
    .bind (.readBacked follows_readSemaphoreSubmitInfo _ _) fun _ _ => .last (.skip .requireOk) fun _ => .pure

end

/-- The decoders that take whatever the resolver answers. -/
def Decoder.takesAnything : Decoder → Bool
  | pnextChain context => ¬ handleFreeContext context
  | swapchainCreateInfoKHR | imageViewCreateInfo | samplerCreateInfo | pipelineLayoutCreateInfo
  | framebufferCreateInfo | renderPassBeginInfo | commandBufferAllocateInfo | descriptorSetLayoutCreateInfo
  | descriptorUpdateTemplateCreateInfo | bufferMemoryBarrier | imageMemoryBarrier => true
  | _ => false

/-- The decoders that ask about every id. -/
def Decoder.asksAboutZero : Decoder → Bool
  | dependencyInfo | submitInfo2 => true
  | _ => false

namespace Decoder

variable {hr : Resolver}

theorem noZero_code {d : Decoder} (h : d.asksAboutZero = false) : NoZero hr d.code := by
  cases d with
  | pnextChain context => exact noZero_readPnextChain context
  | deviceQueueCreateInfo => exact .quiet quiet_readDeviceQueueCreateInfo
  | deviceCreateInfo => exact .quiet quiet_readDeviceCreateInfo
  | swapchainCreateInfoKHR => exact noZero_readSwapchainCreateInfoKHR
  | imageViewCreateInfo => exact noZero_readImageViewCreateInfo
  | renderPassCreateInfo => exact .quiet quiet_readRenderPassCreateInfo
  | renderPassCreateInfo2 => exact .quiet quiet_readRenderPassCreateInfo2
  | shaderModuleCreateInfo => exact .quiet quiet_readShaderModuleCreateInfo
  | pipelineShaderStageCreateInfo => exact noZero_readPipelineShaderStageCreateInfo
  | pipelineLayoutCreateInfo => exact noZero_readPipelineLayoutCreateInfo
  | graphicsPipelineCreateInfo => exact noZero_readGraphicsPipelineCreateInfo
  | computePipelineCreateInfo => exact noZero_readComputePipelineCreateInfo
  | framebufferCreateInfo => exact noZero_readFramebufferCreateInfo
  | bufferViewCreateInfo => exact noZero_readBufferViewCreateInfo
  | queryPoolCreateInfo => exact .quiet quiet_readQueryPoolCreateInfo
  | eventCreateInfo => exact .quiet quiet_readEventCreateInfo
  | commandBufferAllocateInfo => exact noZero_readCommandBufferAllocateInfo
  | commandBufferBeginInfo => exact noZero_readCommandBufferBeginInfo
  | renderPassBeginInfo => exact noZero_readRenderPassBeginInfo
  | subpassBeginInfo => exact .quiet quiet_readSubpassBeginInfo
  | subpassEndInfo => exact .quiet quiet_readSubpassEndInfo
  | descriptorSetLayoutCreateInfo => exact noZero_readDescriptorSetLayoutCreateInfo
  | descriptorUpdateTemplateCreateInfo => exact noZero_readDescriptorUpdateTemplateCreateInfo
  | samplerYcbcrConversionCreateInfo => exact .quiet quiet_readSamplerYcbcrConversionCreateInfo
  | descriptorPoolCreateInfo => exact .quiet quiet_readDescriptorPoolCreateInfo
  | descriptorSetAllocateInfo => exact noZero_readDescriptorSetAllocateInfo
  | writeDescriptorSet => exact noZero_readWriteDescriptorSet
  | copyDescriptorSet => exact noZero_readCopyDescriptorSet
  | imageMemoryBarrier => exact noZero_readImageMemoryBarrier
  | bufferMemoryBarrier => exact noZero_readBufferMemoryBarrier
  | memoryBarrier => exact .quiet (.readRaw VkMemoryBarrier)
  | dependencyInfo | submitInfo2 => exact absurd h Bool.noConfusion
  | bufferCreateInfo => exact .quiet quiet_readBufferCreateInfo
  | imageCreateInfo => exact .quiet quiet_readImageCreateInfo
  | memoryAllocateInfo => exact .quiet (quiet_readChained _ _ (by decide))
  | samplerCreateInfo => exact noZero_readSamplerCreateInfo
  | fenceCreateInfo => exact .quiet (.readRaw VkFenceCreateInfo)
  | semaphoreCreateInfo => exact .quiet (quiet_readChained _ _ (by decide))
  | commandPoolCreateInfo => exact .quiet (.readRaw VkCommandPoolCreateInfo)
  | pipelineCacheCreateInfo => exact .quiet quiet_readPipelineCacheCreateInfo
  | bufferImageCopy => exact .quiet (.readRaw VkBufferImageCopy)
  | imageCopy => exact .quiet (.readRaw VkImageCopy)
  | imageBlit => exact .quiet (.readRaw VkImageBlit)
  | bufferCopy => exact .quiet (.readRaw VkBufferCopy)
  | viewport => exact .quiet (.readRaw VkViewport)
  | rect2D => exact .quiet (.readRaw VkRect2D)
  | memoryRequirements => exact .quiet (.readRaw VkMemoryRequirements)
  | subresourceLayout => exact .quiet (.readRaw VkSubresourceLayout)
  | surfaceCapabilitiesKHR => exact .quiet (.readRaw VkSurfaceCapabilitiesKHR)
  | extensionProperties => exact .quiet quiet_readExtensionProperties

theorem alike_code {d : Decoder} (h : d.takesAnything = true) : Alike hr d.code d.layout := by
  cases d with
  | pnextChain context => exact alike_readPnextChain context
  | swapchainCreateInfoKHR => exact alike_readSwapchainCreateInfoKHR
  | imageViewCreateInfo => exact alike_readImageViewCreateInfo
  | samplerCreateInfo => exact alike_readSamplerCreateInfo
  | pipelineLayoutCreateInfo => exact alike_readPipelineLayoutCreateInfo
  | framebufferCreateInfo => exact alike_readFramebufferCreateInfo
  | renderPassBeginInfo => exact alike_readRenderPassBeginInfo
  | commandBufferAllocateInfo => exact alike_readCommandBufferAllocateInfo
  | descriptorSetLayoutCreateInfo => exact alike_readDescriptorSetLayoutCreateInfo
  | descriptorUpdateTemplateCreateInfo => exact alike_readDescriptorUpdateTemplateCreateInfo
  | bufferMemoryBarrier => exact alike_readBufferMemoryBarrier
  | imageMemoryBarrier => exact alike_readImageMemoryBarrier
  | _ => exact absurd h Bool.noConfusion

theorem follows_code {d : Decoder} (h : d.asksAboutZero = true) : Follows hr d.code d.layout := by
  cases d with
  | dependencyInfo => exact follows_readDependencyInfo
  | submitInfo2 => exact follows_readSubmitInfo2
  | _ => exact absurd h Bool.noConfusion

theorem resolved_of_strict {d : Decoder} {message : List UInt8} (h : Strict hr d.code d.layout)
    (haccepted : (d.decode hr message).accepted) : Resolved hr (d.named message) := by
  obtain ⟨a, ha⟩ := Option.isSome_iff_exists.1 haccepted
  exact (h { reader := ⟨message, false⟩ } a ha).2.2

/-- The other decoders take no message with a dead id in it. -/
theorem resolved_of_accepted {d : Decoder} (h : d.takesAnything = false) (hzero : d.asksAboutZero = false)
    {message : List UInt8} (haccepted : (d.decode hr message).accepted) : Resolved hr (d.named message) := by
  cases d with
  | pnextChain context =>
    exact resolved_of_strict (strict_readPnextChain (by simpa [takesAnything] using h)) haccepted
  | pipelineShaderStageCreateInfo => exact resolved_of_strict strict_readPipelineShaderStageCreateInfo haccepted
  | graphicsPipelineCreateInfo => exact resolved_of_strict strict_readGraphicsPipelineCreateInfo haccepted
  | computePipelineCreateInfo => exact resolved_of_strict strict_readComputePipelineCreateInfo haccepted
  | bufferViewCreateInfo => exact resolved_of_strict strict_readBufferViewCreateInfo haccepted
  | commandBufferBeginInfo => exact resolved_of_strict strict_readCommandBufferBeginInfo haccepted
  | descriptorSetAllocateInfo => exact resolved_of_strict strict_readDescriptorSetAllocateInfo haccepted
  | writeDescriptorSet => exact resolved_of_strict strict_readWriteDescriptorSet haccepted
  | copyDescriptorSet => exact resolved_of_strict strict_readCopyDescriptorSet haccepted
  | dependencyInfo | submitInfo2 => exact absurd hzero Bool.noConfusion
  | swapchainCreateInfoKHR | imageViewCreateInfo | samplerCreateInfo | pipelineLayoutCreateInfo
  | framebufferCreateInfo | renderPassBeginInfo | commandBufferAllocateInfo | descriptorSetLayoutCreateInfo
  | descriptorUpdateTemplateCreateInfo | bufferMemoryBarrier | imageMemoryBarrier =>
    exact absurd h Bool.noConfusion
  -- no id in the layout
  | _ => exact resolved_nil hr

/-- No id asked about is zero, and no message is accepted with an id in it that does not resolve. -/
def Sound (d : Decoder) (hr : Resolver) (message : List UInt8) : Prop :=
  (∀ l ∈ (d.decode hr message).lookups, l.id ≠ 0) ∧
    ((d.decode hr message).accepted → Resolved hr (d.named message))

instance (d : Decoder) (hr : Resolver) (message : List UInt8) : Decidable (d.Sound hr message) :=
  inferInstanceAs (Decidable (_ ∧ _))

/-- A decoder that takes anything must be given ids that resolve, unless the message is malformed. One that
asks about every id must not come to a zero before a dead one. -/
def Heeded (d : Decoder) (hr : Resolver) (message : List UInt8) : Prop :=
  (d.takesAnything → d.laidOut message → Resolved hr (d.named message)) ∧
    (d.asksAboutZero → ∀ l ∈ upToDead hr (d.named message), l.id ≠ 0)

end Decoder

/-- Exactly then a decoder does what the header promises of resolvers. -/
theorem decoder_sound_iff (d : Decoder) (hr : Resolver) (message : List UInt8) :
    d.Sound hr message ↔ d.Heeded hr message := by
  rw [Decoder.Sound, Decoder.Heeded]
  cases hzero : d.asksAboutZero with
  | true =>
    have htakes : d.takesAnything = false := by cases d <;> first | rfl | exact absurd hzero Bool.noConfusion
    rw [htakes]
    have hfollows : Follows hr d.code d.layout := d.follows_code hzero
    rcases hfollows { reader := ⟨message, false⟩ } with ⟨hlayout, -, -, hasked⟩ | ⟨-, hnone, hasked⟩
    · have hresolved : Resolved hr (d.named message) := hlayout
      have hlookups : (d.decode hr message).lookups = d.named message := hasked
      rw [hlookups, upToDead_of_resolved hresolved]
      exact ⟨fun h => ⟨nofun, fun _ => h.1⟩, fun h => ⟨h.2 rfl, fun _ => hresolved⟩⟩
    · have hlookups : (d.decode hr message).lookups = upToDead hr (d.named message) := hasked
      have haccepted : (d.decode hr message).accepted = false := congrArg Option.isSome hnone
      rw [hlookups, haccepted]
      exact ⟨fun h => ⟨nofun, fun _ => h.1⟩, fun h => ⟨h.2 rfl, nofun⟩⟩
  | false =>
    have hnoZero : NoZero hr d.code := d.noZero_code hzero
    obtain ⟨new, hnew, hnonzero⟩ := hnoZero { reader := ⟨message, false⟩ }
    have hlookups : (d.decode hr message).lookups = new := hnew.trans (List.nil_append _)
    rw [hlookups]
    cases htakes : d.takesAnything with
    | true =>
      have haccepted : (d.decode hr message).accepted = d.laidOut message :=
        (d.alike_code htakes { reader := ⟨message, false⟩ }).1
      rw [haccepted]
      exact ⟨fun h => ⟨fun _ => h.2, nofun⟩, fun h => ⟨hnonzero, h.1 rfl⟩⟩
    | false => exact ⟨fun _ => ⟨nofun, nofun⟩, fun _ => ⟨hnonzero, d.resolved_of_accepted htakes hzero⟩⟩

/-- A barrier of the buffer 5. -/
def danglingBarrier : List UInt8 :=
  writeBufferMemoryBarrier
    { sType := 44, pNext := .null, scope := Blob.ofBytes 16 [], buffer := 5, range := Blob.ofBytes 16 [] }

/-- A submission that waits for nothing, runs nothing and signals the null handle. -/
def nullSignal : List UInt8 :=
  Writer.u32 0 ++ Writer.u32 0 ++ Writer.u32 0 ++ Writer.u32 1 ++ Writer.handle 0 ++ Writer.u64 0 ++
    Writer.u64 0 ++ Writer.u32 0

/-- The barrier is accepted although there is no such buffer, and the submission asks about id 0. -/
theorem decoder_unsound :
    ¬ Decoder.Sound .bufferMemoryBarrier nothing danglingBarrier ∧
      ¬ Decoder.Sound .submitInfo2 nothing nullSignal := by
  decide +kernel

end VkRemote.Marshal
