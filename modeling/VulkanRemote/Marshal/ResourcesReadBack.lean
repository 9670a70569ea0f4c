import VulkanRemote.Marshal.PassesReadBack

/-! Descriptors, barriers, submissions and resources as they arrive. -/

namespace VkRemote.Marshal
open Lib Wire Decode

/-- The id is one of a handle, and resolves. -/
def Resolver.Knows (hr : Resolver) (kind : HandleKind) (id : UInt64) : Prop := id ≠ 0 ∧ hr kind id ≠ 0

section

variable {hr : Resolver}

theorem resolved_of_knows {kind : HandleKind} {id : UInt64} (h : hr.Knows kind id) : resolved hr kind id ≠ 0 := by
  unfold resolved
  rw [if_neg h.1]
  exact h.2

namespace VkDescriptorSetLayoutBinding

def Whole (b : VkDescriptorSetLayoutBinding) : Prop :=
  b.pImmutableSamplers.Real ∧
    (b.pImmutableSamplers.isNull = false → b.descriptorCount.toNat ≤ kMaxArrayElements)

def received (hr : Resolver) (b : VkDescriptorSetLayoutBinding) : VkDescriptorSetLayoutBinding :=
  { b with pImmutableSamplers := b.pImmutableSamplers.received (resolved hr .sampler) }

end VkDescriptorSetLayoutBinding

theorem reads_setLayoutBinding {b : VkDescriptorSetLayoutBinding} (h : b.Whole) :
    Reads readSetLayoutBinding hr (writeSetLayoutBinding b) (b.received hr) := by
  obtain ⟨binding, type, count, stageFlags, samplers⟩ := b
  obtain ⟨hreal, hcount⟩ := h
  unfold writeSetLayoutBinding
  rw [List.append_assoc]
  refine .bind (.raw _ (by decide)) ?_
  by_cases hnull : samplers.isNull = true
  · obtain rfl := isNull_iff.1 hnull
    rw [VkDescriptorSetLayoutBinding.received, Ptr.received_null]
    exact .bind .u32 (.skip .requireOk (.skip (.unused (not_not.2 rfl)) .pure))
  · have hpresent := Bool.not_eq_true _ ▸ hnull
    have hwhole : samplers.Whole := ⟨hreal, fun _ => hpresent⟩
    have hflag : presence samplers.isNull ≠ 0 := by
      rw [hpresent]
      decide
    exact .bind .u32 (.skip .requireOk (.last
      (.used hflag (.handles (validArray_of_whole hwhole (hcount hpresent)) hreal .sampler)) .pure))

theorem le_length_setLayoutBinding (b : VkDescriptorSetLayoutBinding) : 4 ≤ (writeSetLayoutBinding b).length := by
  unfold writeSetLayoutBinding
  rw [List.append_assoc, List.length_append, length_writeRaw]
  omega

namespace VkDescriptorSetLayoutCreateInfo

structure Whole (s : VkDescriptorSetLayoutCreateInfo) : Prop where
  sent : ¬ (s.pNext.isNull = false ∨ updateAfterBind s.flags)
  count : s.bindingCount.toNat ≤ kMaxArrayElements
  bindings : s.pBindings.Whole
  each : ∀ b ∈ s.pBindings.items, b.Whole

def received (hr : Resolver) (s : VkDescriptorSetLayoutCreateInfo) : VkDescriptorSetLayoutCreateInfo :=
  { s with pNext := .null, pBindings := s.pBindings.received (VkDescriptorSetLayoutBinding.received hr) }

end VkDescriptorSetLayoutCreateInfo

theorem reads_descriptorSetLayoutCreateInfo {s : VkDescriptorSetLayoutCreateInfo} (h : s.Whole) :
    Reads readDescriptorSetLayoutCreateInfo hr (writeDescriptorSetLayoutCreateInfo s) (s.received hr) := by
  unfold writeDescriptorSetLayoutCreateInfo
  rw [if_neg h.sent]
  refine .bind (.raw _ (by decide)) (.remaining fun left hleft => ?_)
  have hbacked : s.bindingCount.toNat ≤ left / 4 :=
    Reads.le_div_wire h.bindings (by decide) (fun b _ => le_length_setLayoutBinding b) hleft
  exact .skip (.require ⟨h.count, hbacked⟩)
    (.last (.array h.bindings (fun b hb => reads_setLayoutBinding (h.each b hb)) 24) .pure)

namespace VkDescriptorPoolCreateInfo

structure Whole (s : VkDescriptorPoolCreateInfo) : Prop where
  sent : ¬ (s.pNext.isNull = false ∨ updateAfterBind s.flags)
  count : s.poolSizeCount.toNat ≤ kMaxArrayElements
  sizes : s.pPoolSizes.Whole

def received (s : VkDescriptorPoolCreateInfo) : VkDescriptorPoolCreateInfo :=
  { s with pNext := .null, pPoolSizes := s.pPoolSizes.received id }

end VkDescriptorPoolCreateInfo

theorem reads_descriptorPoolCreateInfo {s : VkDescriptorPoolCreateInfo} (h : s.Whole) :
    Reads readDescriptorPoolCreateInfo hr (writeDescriptorPoolCreateInfo s) s.received := by
  unfold writeDescriptorPoolCreateInfo
  rw [if_neg h.sent]
  exact .bind (.raw _ (by decide)) (.last (.podArray h.sizes h.count (by decide)) .pure)

namespace VkDescriptorSetAllocateInfo

structure Whole (s : VkDescriptorSetAllocateInfo) : Prop where
  sent : ¬ s.pNext.isNull = false
  count : s.descriptorSetCount.toNat ≤ kMaxArrayElements
  layouts : s.pSetLayouts.Whole

def Finds (hr : Resolver) (s : VkDescriptorSetAllocateInfo) : Prop :=
  (∀ id ∈ s.pSetLayouts.items, hr.Knows .descriptorSetLayout id) ∧ hr.Knows .descriptorPool s.descriptorPool

def received (hr : Resolver) (s : VkDescriptorSetAllocateInfo) : VkDescriptorSetAllocateInfo :=
  { s with pNext := .null, pSetLayouts := s.pSetLayouts.received (resolved hr .descriptorSetLayout),
           descriptorPool := resolved hr .descriptorPool s.descriptorPool }

end VkDescriptorSetAllocateInfo

theorem reads_descriptorSetAllocateInfo {s : VkDescriptorSetAllocateInfo} (h : s.Whole) (hfinds : s.Finds hr) :
    Reads readDescriptorSetAllocateInfo hr (writeDescriptorSetAllocateInfo s) (s.received hr) := by
  obtain ⟨hlayouts, hpool⟩ := hfinds
  have hresolved : ((s.pSetLayouts.received (resolved hr .descriptorSetLayout)).items.all (· ≠ 0)) = true := by
    rw [items_received, List.all_eq_true]
    intro native hmem
    obtain ⟨id, hid, rfl⟩ := List.mem_map.1 hmem
    exact decide_eq_true (resolved_of_knows (hlayouts id hid))
  unfold writeDescriptorSetAllocateInfo
  rw [if_neg h.sent]
  exact .bind (.raw _ (by decide)) (.skip (.require h.count) (.last
    (.handles (validArray_of_whole h.layouts h.count) h.layouts.1 .descriptorSetLayout)
    (.skip (.require hresolved) (.skip (.patchHandle _ _)
      (.skip (.require ⟨hpool.1, resolved_of_knows hpool⟩) .pure)))))

namespace VkDescriptorImageInfo

def Finds (hr : Resolver) (type : UInt32) (i : VkDescriptorImageInfo) : Prop :=
  (samplerUsed type → hr .sampler i.sampler ≠ 0) ∧ (viewUsed type → hr .imageView i.imageView ≠ 0)

/-- What the descriptor type does not use arrives as no handle. -/
def received (hr : Resolver) (type : UInt32) (i : VkDescriptorImageInfo) : VkDescriptorImageInfo :=
  { i with sampler := if samplerUsed type then resolved hr .sampler i.sampler else 0,
           imageView := if viewUsed type then resolved hr .imageView i.imageView else 0 }

end VkDescriptorImageInfo

theorem reads_usedHandle {p : Prop} [Decidable p] (kind : HandleKind) (id : UInt64) :
    Reads (whenUsed p 0 (patchHandle kind (if p then id else 0))) hr []
      (if p then resolved hr kind id else 0) := by
  by_cases hp : p
  · rw [if_pos hp, if_pos hp]
    exact .used hp (.patchHandle kind id)
  · rw [if_neg hp, if_neg hp]
    exact .unused hp

theorem used_resolved {p : Prop} [Decidable p] {kind : HandleKind} {id : UInt64} (hid : p → id ≠ 0)
    (hfinds : p → hr kind id ≠ 0) :
    p → (if p then id else 0) ≠ 0 ∧ (if p then resolved hr kind id else 0) ≠ 0 := by
  intro hp
  rw [if_pos hp, if_pos hp]
  exact ⟨hid hp, resolved_of_knows ⟨hid hp, hfinds hp⟩⟩

theorem reads_imageInfo {type : UInt32} {i : VkDescriptorImageInfo} {bytes : List UInt8}
    (hw : writeImageInfo type i = some bytes) (hfinds : i.Finds hr type) :
    Reads (readImageInfo type) hr bytes (i.received hr type) := by
  obtain ⟨hids, hw⟩ := Option.ite_none_left_eq_some.1 hw
  obtain rfl := Option.some.inj hw
  obtain ⟨hsampler, hview⟩ := not_or.1 hids
  have hfound : (samplerUsed type → _) ∧ (viewUsed type → _) :=
    ⟨used_resolved (fun hused => (not_and.1 hsampler) hused) hfinds.1,
      used_resolved (fun hused => (not_and.1 hview) hused) hfinds.2⟩
  simp only [List.append_assoc]
  exact .bind .u64 (.bind .u64 (.last .u32 (.skip .requireOk (.skip (reads_usedHandle .sampler i.sampler)
    (.skip (reads_usedHandle .imageView i.imageView) (.skip (.require hfound) .pure))))))

def VkDescriptorBufferInfo.received (hr : Resolver) (i : VkDescriptorBufferInfo) : VkDescriptorBufferInfo :=
  { i with buffer := resolved hr .buffer i.buffer }

theorem reads_bufferInfo {i : VkDescriptorBufferInfo} {bytes : List UInt8}
    (hw : writeBufferInfo i = some bytes) (hfinds : hr .buffer i.buffer ≠ 0) :
    Reads readBufferInfo hr bytes (i.received hr) := by
  obtain ⟨hid, hw⟩ := Option.ite_none_left_eq_some.1 hw
  obtain rfl := Option.some.inj hw
  simp only [List.append_assoc]
  exact .bind .u64 (.bind .u64 (.last .u64 (.skip .requireOk (.skip (.patchHandle _ _)
    (.skip (.require ⟨hid, resolved_of_knows ⟨hid, hfinds⟩⟩) .pure)))))

theorem reads_texelBufferView {view : UInt64} {bytes : List UInt8} (hw : writeTexelBufferView view = some bytes)
    (hfinds : hr .bufferView view ≠ 0) :
    Reads readTexelBufferView hr bytes (resolved hr .bufferView view) := by
  obtain ⟨hid, hw⟩ := Option.ite_none_left_eq_some.1 hw
  obtain rfl := Option.some.inj hw
  rw [resolved, if_neg hid]
  exact .last .u64 (.skip .requireOk (.skip (.require hid) (.skip (.lookup _ _)
    (.skip (.require hfinds) (.lookup _ _)))))

namespace VkWriteDescriptorSet

def Whole (s : VkWriteDescriptorSet) : Prop :=
  s.pImageInfo.Real ∧ s.pBufferInfo.Real ∧ s.pTexelBufferView.Real

/-- The descriptors that the type is about, and the set. -/
structure Finds (hr : Resolver) (s : VkWriteDescriptorSet) : Prop where
  images : descriptorKind s.descriptorType = 1 → ∀ i ∈ s.pImageInfo.items, i.Finds hr s.descriptorType
  buffers : descriptorKind s.descriptorType = 2 → ∀ i ∈ s.pBufferInfo.items, hr .buffer i.buffer ≠ 0
  views : descriptorKind s.descriptorType = 3 → ∀ view ∈ s.pTexelBufferView.items, hr .bufferView view ≠ 0
  set : hr .descriptorSet s.dstSet ≠ 0

/-- An array that the descriptor type does not use is not sent. -/
def received (hr : Resolver) (s : VkWriteDescriptorSet) : VkWriteDescriptorSet :=
  { s with pNext := .null,
           pImageInfo := if descriptorKind s.descriptorType = 1 then
             s.pImageInfo.received (VkDescriptorImageInfo.received hr s.descriptorType) else .null,
           pBufferInfo := if descriptorKind s.descriptorType = 2 then
             s.pBufferInfo.received (VkDescriptorBufferInfo.received hr) else .null,
           pTexelBufferView := if descriptorKind s.descriptorType = 3 then
             s.pTexelBufferView.received (resolved hr .bufferView) else .null,
           dstSet := resolved hr .descriptorSet s.dstSet }

end VkWriteDescriptorSet

/-- An array of descriptors, of which each is refused or written. -/
theorem reads_infos {α : Type} {n : ℕ} {p : Ptr (Elements α n)} {m : Decode α} {w : α → Option (List UInt8)}
    {f : α → α} {bytes : List UInt8} (hvalid : validArray p) (hreal : p.Real)
    (hw : writeAll w p.items = some bytes) (h : ∀ a ∈ p.items, ∀ bs, w a = some bs → Reads m hr bs (f a))
    (size : ℕ) : Reads (array n size m) hr bytes (p.received f) := by
  obtain ⟨hall, rfl⟩ := writeAll_eq_some hw
  exact .array ⟨hreal, hvalid.2⟩ (fun a ha => h a ha _ (hall a ha)) size

theorem reads_writeDescriptorSet {s : VkWriteDescriptorSet} {bytes : List UInt8}
    (hw : writeWriteDescriptorSet s = some bytes) (h : s.Whole) (hfinds : s.Finds hr) :
    Reads readWriteDescriptorSet hr bytes (s.received hr) := by
  obtain ⟨⟨hcount, hset⟩, hw⟩ := Option.ite_none_right_eq_some.1 hw
  obtain ⟨infos, hinfos, hw⟩ := Option.bind_eq_some_iff.1 hw
  obtain rfl := Option.some.inj hw
  obtain ⟨hrealImages, hrealBuffers, hrealViews⟩ := h
  have hend : resolved hr .descriptorSet s.dstSet ≠ 0 := resolved_of_knows ⟨hset, hfinds.set⟩
  unfold VkWriteDescriptorSet.writeInfos at hinfos
  rw [List.append_assoc]
  rw [VkWriteDescriptorSet.received]
  refine .bind (.raw _ (by decide)) (.skip (.require hcount) (.bind .u32 ?_))
  by_cases himages : descriptorKind s.descriptorType = 1
  · have hkind : descriptorKind s.descriptorType ≠ 2 ∧ descriptorKind s.descriptorType ≠ 3 := by
      rw [himages]
      decide
    rw [if_pos himages] at hinfos ⊢
    rw [if_neg hkind.1, if_neg hkind.2]
    obtain ⟨hvalid, hinfos⟩ := Option.ite_none_right_eq_some.1 hinfos
    have hknown : descriptorKind s.descriptorType ≠ 0 := by
      rw [himages]
      decide
    refine .skip (.require hknown) (.skip .requireOk (.skip (.require rfl) ?_))
    exact .last (.used himages (reads_infos hvalid hrealImages hinfos
        (fun i hi bs hw => reads_imageInfo hw (hfinds.images himages i hi)) 24))
      (.skip (.unused hkind.1) (.skip (.unused hkind.2)
        (.skip (.patchHandle _ _) (.skip (.require ⟨hset, hend⟩) .pure))))
  rw [if_neg himages] at hinfos ⊢
  by_cases hbuffers : descriptorKind s.descriptorType = 2
  · have hkind : descriptorKind s.descriptorType ≠ 0 ∧ descriptorKind s.descriptorType ≠ 3 := by
      rw [hbuffers]
      decide
    rw [if_pos hbuffers] at hinfos ⊢
    rw [if_neg hkind.2]
    obtain ⟨hvalid, hinfos⟩ := Option.ite_none_right_eq_some.1 hinfos
    refine .skip (.require hkind.1) (.skip .requireOk (.skip (.require rfl) (.skip (.unused himages) ?_)))
    exact .last (.used hbuffers (reads_infos hvalid hrealBuffers hinfos
        (fun i hi bs hw => reads_bufferInfo hw (hfinds.buffers hbuffers i hi)) 24))
      (.skip (.unused hkind.2) (.skip (.patchHandle _ _) (.skip (.require ⟨hset, hend⟩) .pure)))
  rw [if_neg hbuffers] at hinfos ⊢
  obtain ⟨hviews, hinfos⟩ := Option.ite_none_right_eq_some.1 hinfos
  obtain ⟨hvalid, hinfos⟩ := Option.ite_none_right_eq_some.1 hinfos
  have hknown : descriptorKind s.descriptorType ≠ 0 := by
    rw [hviews]
    decide
  rw [if_pos hviews]
  refine .skip (.require hknown) (.skip .requireOk (.skip (.require rfl) (.skip (.unused himages)
    (.skip (.unused hbuffers) ?_))))
  exact .last (.used hviews (reads_infos hvalid hrealViews hinfos
      (fun view hview bs hw => reads_texelBufferView hw (hfinds.views hviews view hview)) 8))
    (.skip (.patchHandle _ _) (.skip (.require ⟨hset, hend⟩) .pure))

namespace VkCopyDescriptorSet

def Finds (hr : Resolver) (s : VkCopyDescriptorSet) : Prop :=
  hr.Knows .descriptorSet s.srcSet ∧ hr.Knows .descriptorSet s.dstSet

def received (hr : Resolver) (s : VkCopyDescriptorSet) : VkCopyDescriptorSet :=
  { s with pNext := .null, srcSet := resolved hr .descriptorSet s.srcSet,
           dstSet := resolved hr .descriptorSet s.dstSet }

end VkCopyDescriptorSet

theorem reads_copyDescriptorSet {s : VkCopyDescriptorSet} (hfinds : s.Finds hr) :
    Reads readCopyDescriptorSet hr (writeCopyDescriptorSet s) (s.received hr) := by
  obtain ⟨hsrc, hdst⟩ := hfinds
  exact .last (.raw _ (by decide)) (.skip (.patchHandle _ _) (.skip (.patchHandle _ _)
    (.skip (.require ⟨hsrc.1, resolved_of_knows hsrc, hdst.1, resolved_of_knows hdst⟩) .pure)))

theorem reads_templateEntry (x : VkDescriptorUpdateTemplateEntry) :
    Reads readTemplateEntry hr (writeTemplateEntry x) x := by
  unfold writeTemplateEntry
  simp only [List.append_assoc]
  exact .bind .u32 (.bind .u32 (.bind .u32 (.bind .u32 (.bind .u64 (.last .u64 .pure)))))

theorem length_templateEntry (x : VkDescriptorUpdateTemplateEntry) : (writeTemplateEntry x).length = 32 := by
  simp [writeTemplateEntry, Writer.i32, Writer.length_u32, Writer.length_u64]

namespace VkDescriptorUpdateTemplateCreateInfo

def received (hr : Resolver) (s : VkDescriptorUpdateTemplateCreateInfo) : VkDescriptorUpdateTemplateCreateInfo :=
  { s with pDescriptorUpdateEntries := s.pDescriptorUpdateEntries.received id,
           descriptorSetLayout := resolved hr .descriptorSetLayout s.descriptorSetLayout,
           pipelineLayout := resolved hr .pipelineLayout s.pipelineLayout }

end VkDescriptorUpdateTemplateCreateInfo

theorem reads_descriptorUpdateTemplateCreateInfo {s : VkDescriptorUpdateTemplateCreateInfo} {bytes : List UInt8}
    (hw : writeDescriptorUpdateTemplateCreateInfo s = some bytes) (h : s.pDescriptorUpdateEntries.Real) :
    Reads readDescriptorUpdateTemplateCreateInfo hr bytes (s.received hr) := by
  obtain ⟨⟨htype, hnext, hvalid⟩, hw⟩ := Option.ite_none_right_eq_some.1 hw
  obtain rfl := Option.some.inj hw
  obtain ⟨sType, pNext, flags, count, entries, templateType, layout, bindPoint, pipelineLayout, set⟩ := s
  obtain rfl := PNext.isNull_iff.1 hnext
  have hwhole : entries.Whole := ⟨h, hvalid.2⟩
  simp only [List.append_assoc]
  refine .bind .u32 (.bind .u32 (.bind .u32 (.skip .requireOk (.remaining fun left hleft => ?_))))
  rw [List.length_append] at hleft
  have hbacked : count.toNat ≤ left / 32 := Reads.le_div_wire hwhole (by decide)
    (fun x _ => (length_templateEntry x).ge) ((Nat.le_add_right _ _).trans hleft)
  exact .skip (.require ⟨htype, hvalid.1, hbacked⟩) (.bind (.array hwhole (fun x _ => reads_templateEntry x) 32)
    (.bind .u32 (.bind .u64 (.skip (.patchHandle _ _) (.bind .u32 (.bind .u64 (.skip (.patchHandle _ _)
      (.last .u32 (.skip .requireOk .pure)))))))))

def VkSamplerYcbcrConversionCreateInfo.received (s : VkSamplerYcbcrConversionCreateInfo) :
    VkSamplerYcbcrConversionCreateInfo := { s with pNext := .null }

theorem reads_samplerYcbcrConversionCreateInfo {s : VkSamplerYcbcrConversionCreateInfo}
    (h : s.sType = samplerYcbcrConversionCreateInfoType) :
    Reads readSamplerYcbcrConversionCreateInfo hr (writeSamplerYcbcrConversionCreateInfo s) s.received :=
  .bind .u32 (.last (.fields (by decide)) (.skip .requireOk (.skip (.require h) .pure)))

/-- No chain is sent with it. -/
def PlainState.bare {n gap : ℕ} (s : PlainState n gap) : PlainState n gap := { s with pNext := .null }

theorem reads_plainState {n gap : ℕ} {s : PlainState n gap} (hsize : Raw.sizeof (PlainState n gap) < 2 ^ 32) :
    Reads (readRaw (PlainState n gap)) hr (writePlainState s) s.bare := .raw _ hsize

def VkBufferMemoryBarrier.received (hr : Resolver) (s : VkBufferMemoryBarrier) : VkBufferMemoryBarrier :=
  { s with pNext := .null, buffer := resolved hr .buffer s.buffer }

theorem reads_bufferMemoryBarrier {s : VkBufferMemoryBarrier} :
    Reads readBufferMemoryBarrier hr (writeBufferMemoryBarrier s) (s.received hr) :=
  .last (.raw _ (by decide)) (.skip (.patchHandle _ _) .pure)

def VkImageMemoryBarrier.received (hr : Resolver) (s : VkImageMemoryBarrier) : VkImageMemoryBarrier :=
  { s with pNext := .null, image := resolved hr .image s.image }

theorem reads_imageMemoryBarrier {s : VkImageMemoryBarrier} :
    Reads readImageMemoryBarrier hr (writeImageMemoryBarrier s) (s.received hr) :=
  .last (.raw _ (by decide)) (.skip (.patchHandle _ _) .pure)

/-- No handle is one for the server too. -/
def Resolver.KeepsNull (hr : Resolver) : Prop := ∀ kind, hr kind 0 = 0

theorem resolved_of_keepsNull (h : hr.KeepsNull) (kind : HandleKind) (id : UInt64) :
    resolved hr kind id = hr kind id := by
  unfold resolved
  split
  · next hid => rw [hid, h kind]
  · rfl

theorem reads_lookup (h : hr.KeepsNull) (kind : HandleKind) (id : UInt64) :
    Reads (lookup kind id) hr [] (resolved hr kind id) := by
  rw [resolved_of_keepsNull h]
  exact .lookup kind id

theorem reads_memoryBarrier2 {b : VkMemoryBarrier2} {bytes : List UInt8}
    (hw : writeMemoryBarrier2 b = some bytes) : Reads readMemoryBarrier2 hr bytes b := by
  obtain ⟨⟨htype, hnext⟩, hw⟩ := Option.ite_none_right_eq_some.1 hw
  obtain rfl := Option.some.inj hw
  obtain ⟨sType, pNext, masks⟩ := b
  obtain rfl := isNull_iff.1 hnext
  obtain rfl := htype
  exact .last (.fields (by decide)) .pure

def VkBufferMemoryBarrier2.received (hr : Resolver) (b : VkBufferMemoryBarrier2) : VkBufferMemoryBarrier2 :=
  { b with buffer := resolved hr .buffer b.buffer }

theorem reads_bufferMemoryBarrier2 {b : VkBufferMemoryBarrier2} {bytes : List UInt8}
    (hw : writeBufferMemoryBarrier2 b = some bytes) (hnull : hr.KeepsNull) (hfinds : hr.Finds .buffer b.buffer) :
    Reads readBufferMemoryBarrier2 hr bytes (b.received hr) := by
  obtain ⟨⟨htype, hnext⟩, hw⟩ := Option.ite_none_right_eq_some.1 hw
  obtain rfl := Option.some.inj hw
  obtain ⟨sType, pNext, masks, families, buffer, range⟩ := b
  obtain rfl := isNull_iff.1 hnext
  obtain rfl := htype
  simp only [List.append_assoc]
  exact .bind (.fields (by decide)) (.bind (.fields (by decide)) (.bind .u64 (.skip (reads_lookup hnull _ _)
    (.last (.fields (by decide)) (.skip (.require (resolved_ne hfinds)) .pure)))))

def VkImageMemoryBarrier2.received (hr : Resolver) (b : VkImageMemoryBarrier2) : VkImageMemoryBarrier2 :=
  { b with image := resolved hr .image b.image }

theorem reads_imageMemoryBarrier2 {b : VkImageMemoryBarrier2} {bytes : List UInt8}
    (hw : writeImageMemoryBarrier2 b = some bytes) (hnull : hr.KeepsNull) (hfinds : hr.Finds .image b.image) :
    Reads readImageMemoryBarrier2 hr bytes (b.received hr) := by
  obtain ⟨⟨htype, hnext⟩, hw⟩ := Option.ite_none_right_eq_some.1 hw
  obtain rfl := Option.some.inj hw
  obtain ⟨sType, pNext, masks, transition, image, range⟩ := b
  obtain rfl := isNull_iff.1 hnext
  obtain rfl := htype
  simp only [List.append_assoc]
  exact .bind (.fields (by decide)) (.bind (.fields (by decide)) (.bind .u64 (.skip (reads_lookup hnull _ _)
    (.last (.fields (by decide)) (.skip (.require (resolved_ne hfinds)) .pure)))))

theorem le_length_memoryBarrier2 {b : VkMemoryBarrier2} {bytes : List UInt8}
    (hw : writeMemoryBarrier2 b = some bytes) : 32 ≤ bytes.length := by
  obtain ⟨-, hw⟩ := Option.ite_none_right_eq_some.1 hw
  obtain rfl := Option.some.inj hw
  exact size_le_length_writeFields (by decide) b.masks

theorem le_length_bufferMemoryBarrier2 {b : VkBufferMemoryBarrier2} {bytes : List UInt8}
    (hw : writeBufferMemoryBarrier2 b = some bytes) : 64 ≤ bytes.length := by
  obtain ⟨-, hw⟩ := Option.ite_none_right_eq_some.1 hw
  obtain rfl := Option.some.inj hw
  have hmasks : 32 ≤ _ := size_le_length_writeFields (by decide) b.masks
  have hfamilies : 8 ≤ _ := size_le_length_writeFields (by decide) b.families
  have hrange : 16 ≤ _ := size_le_length_writeFields (by decide) b.range
  simp only [List.length_append, Writer.handle, Writer.length_u64]
  omega

theorem le_length_imageMemoryBarrier2 {b : VkImageMemoryBarrier2} {bytes : List UInt8}
    (hw : writeImageMemoryBarrier2 b = some bytes) : 76 ≤ bytes.length := by
  obtain ⟨-, hw⟩ := Option.ite_none_right_eq_some.1 hw
  obtain rfl := Option.some.inj hw
  have hmasks : 32 ≤ _ := size_le_length_writeFields (by decide) b.masks
  have htransition : 16 ≤ _ := size_le_length_writeFields (by decide) b.transition
  have hrange : 20 ≤ _ := size_le_length_writeFields (by decide) b.subresourceRange
  simp only [List.length_append, Writer.handle, Writer.length_u64]
  omega

namespace VkDependencyInfo

def Whole (s : VkDependencyInfo) : Prop :=
  s.pMemoryBarriers.Real ∧ s.pBufferMemoryBarriers.Real ∧ s.pImageMemoryBarriers.Real

def Finds (hr : Resolver) (s : VkDependencyInfo) : Prop :=
  (∀ b ∈ s.pBufferMemoryBarriers.items, hr.Finds .buffer b.buffer) ∧
    ∀ b ∈ s.pImageMemoryBarriers.items, hr.Finds .image b.image

def received (hr : Resolver) (s : VkDependencyInfo) : VkDependencyInfo :=
  { s with pMemoryBarriers := s.pMemoryBarriers.received id,
           pBufferMemoryBarriers := s.pBufferMemoryBarriers.received (VkBufferMemoryBarrier2.received hr),
           pImageMemoryBarriers := s.pImageMemoryBarriers.received (VkImageMemoryBarrier2.received hr) }

end VkDependencyInfo

theorem reads_dependencyInfo {s : VkDependencyInfo} {bytes : List UInt8} (hw : writeDependencyInfo s = some bytes)
    (h : s.Whole) (hnull : hr.KeepsNull) (hfinds : s.Finds hr) :
    Reads readDependencyInfo hr bytes (s.received hr) := by
  obtain ⟨⟨htype, hnext, hmemory, hbuffers, himages⟩, hw⟩ := Option.ite_none_right_eq_some.1 hw
  obtain ⟨memory, hwm, hw⟩ := Option.bind_eq_some_iff.1 hw
  obtain ⟨buffers, hwb, hw⟩ := Option.bind_eq_some_iff.1 hw
  obtain ⟨images, hwi, hw⟩ := Option.bind_eq_some_iff.1 hw
  obtain rfl := Option.some.inj hw
  obtain ⟨hallm, rfl⟩ := writeAll_eq_some hwm
  obtain ⟨hallb, rfl⟩ := writeAll_eq_some hwb
  obtain ⟨halli, rfl⟩ := writeAll_eq_some hwi
  obtain ⟨sType, pNext, flags, nm, pm, nb, pb, ni, pi⟩ := s
  obtain ⟨hrealm, hrealb, hreali⟩ := h
  obtain ⟨hfindb, hfindi⟩ := hfinds
  obtain rfl := isNull_iff.1 hnext
  obtain rfl := htype
  simp only [List.append_assoc]
  refine .bind .u32 ?_
  refine .bindTwo (.backed hmemory hrealm (fun b hb => reads_memoryBarrier2 (hallm b hb)) (by decide)
    (fun b hb => le_length_memoryBarrier2 (hallm b hb)) 48) ?_
  refine .bindTwo (.backed hbuffers hrealb
    (fun b hb => reads_bufferMemoryBarrier2 (hallb b hb) hnull (hfindb b hb)) (by decide)
    (fun b hb => le_length_bufferMemoryBarrier2 (hallb b hb)) 80) ?_
  exact .last (.backed himages hreali (fun b hb => reads_imageMemoryBarrier2 (halli b hb) hnull (hfindi b hb))
    (by decide) (fun b hb => le_length_imageMemoryBarrier2 (halli b hb)) 96) (.skip .requireOk .pure)

def VkSemaphoreSubmitInfo.received (hr : Resolver) (x : VkSemaphoreSubmitInfo) : VkSemaphoreSubmitInfo :=
  { x with semaphore := resolved hr .semaphore x.semaphore }

theorem reads_semaphoreSubmitInfo {x : VkSemaphoreSubmitInfo} {bytes : List UInt8}
    (hw : writeSemaphoreSubmitInfo x = some bytes) (hnull : hr.KeepsNull)
    (hfinds : hr.Finds .semaphore x.semaphore) :
    Reads readSemaphoreSubmitInfo hr bytes (x.received hr) := by
  obtain ⟨⟨htype, hnext⟩, hw⟩ := Option.ite_none_right_eq_some.1 hw
  obtain rfl := Option.some.inj hw
  obtain ⟨sType, pNext, semaphore, params⟩ := x
  obtain rfl := isNull_iff.1 hnext
  obtain rfl := htype
  exact .bind .u64 (.skip (reads_lookup hnull _ _) (.last (.fields (by decide))
    (.skip (.require (resolved_ne hfinds)) .pure)))

theorem le_length_semaphoreSubmitInfo {x : VkSemaphoreSubmitInfo} {bytes : List UInt8}
    (hw : writeSemaphoreSubmitInfo x = some bytes) : 28 ≤ bytes.length := by
  obtain ⟨-, hw⟩ := Option.ite_none_right_eq_some.1 hw
  obtain rfl := Option.some.inj hw
  have hparams : 20 ≤ _ := size_le_length_writeFields (by decide) x.params
  simp only [List.length_append, Writer.handle, Writer.length_u64]
  omega

section

variable {commandBufferId : UInt64 → UInt64}

def VkCommandBufferSubmitInfo.received (commandBufferId : UInt64 → UInt64) (hr : Resolver)
    (x : VkCommandBufferSubmitInfo) : VkCommandBufferSubmitInfo :=
  { x with commandBuffer := resolved hr .commandBuffer (commandBufferId x.commandBuffer) }

theorem reads_commandBufferSubmitInfo {x : VkCommandBufferSubmitInfo} {bytes : List UInt8}
    (hw : writeCommandBufferSubmitInfo commandBufferId x = some bytes) (hnull : hr.KeepsNull)
    (hfinds : hr.Finds .commandBuffer (commandBufferId x.commandBuffer)) :
    Reads readCommandBufferSubmitInfo hr bytes (x.received commandBufferId hr) := by
  obtain ⟨⟨htype, hnext⟩, hw⟩ := Option.ite_none_right_eq_some.1 hw
  obtain rfl := Option.some.inj hw
  obtain ⟨sType, pNext, commandBuffer, deviceMask⟩ := x
  obtain rfl := isNull_iff.1 hnext
  obtain rfl := htype
  exact .bind .u64 (.skip (reads_lookup hnull _ _) (.last .u32 (.skip (.require (resolved_ne hfinds)) .pure)))

theorem length_commandBufferSubmitInfo {x : VkCommandBufferSubmitInfo} {bytes : List UInt8}
    (hw : writeCommandBufferSubmitInfo commandBufferId x = some bytes) : bytes.length = 12 := by
  obtain ⟨-, hw⟩ := Option.ite_none_right_eq_some.1 hw
  obtain rfl := Option.some.inj hw
  rw [List.length_append, Writer.handle, Writer.length_u64, Writer.length_u32]

namespace VkSubmitInfo2

def Whole (s : VkSubmitInfo2) : Prop :=
  s.pWaitSemaphoreInfos.Real ∧ s.pCommandBufferInfos.Real ∧ s.pSignalSemaphoreInfos.Real

structure Finds (commandBufferId : UInt64 → UInt64) (hr : Resolver) (s : VkSubmitInfo2) : Prop where
  waits : ∀ x ∈ s.pWaitSemaphoreInfos.items, hr.Finds .semaphore x.semaphore
  commandBuffers : ∀ x ∈ s.pCommandBufferInfos.items, hr.Finds .commandBuffer (commandBufferId x.commandBuffer)
  signals : ∀ x ∈ s.pSignalSemaphoreInfos.items, hr.Finds .semaphore x.semaphore

def received (commandBufferId : UInt64 → UInt64) (hr : Resolver) (s : VkSubmitInfo2) : VkSubmitInfo2 :=
  { s with pWaitSemaphoreInfos := s.pWaitSemaphoreInfos.received (VkSemaphoreSubmitInfo.received hr),
           pCommandBufferInfos :=
             s.pCommandBufferInfos.received (VkCommandBufferSubmitInfo.received commandBufferId hr),
           pSignalSemaphoreInfos := s.pSignalSemaphoreInfos.received (VkSemaphoreSubmitInfo.received hr) }

end VkSubmitInfo2

theorem reads_submitInfo2 {s : VkSubmitInfo2} {bytes : List UInt8}
    (hw : writeSubmitInfo2 commandBufferId s = some bytes) (h : s.Whole) (hnull : hr.KeepsNull)
    (hfinds : s.Finds commandBufferId hr) : Reads readSubmitInfo2 hr bytes (s.received commandBufferId hr) := by
  obtain ⟨⟨htype, hnext, hwaits, hcommands, hsignals⟩, hw⟩ := Option.ite_none_right_eq_some.1 hw
  obtain ⟨waits, hww, hw⟩ := Option.bind_eq_some_iff.1 hw
  obtain ⟨commands, hwc, hw⟩ := Option.bind_eq_some_iff.1 hw
  obtain ⟨signals, hws, hw⟩ := Option.bind_eq_some_iff.1 hw
  obtain rfl := Option.some.inj hw
  obtain ⟨hallw, rfl⟩ := writeAll_eq_some hww
  obtain ⟨hallc, rfl⟩ := writeAll_eq_some hwc
  obtain ⟨halls, rfl⟩ := writeAll_eq_some hws
  obtain ⟨sType, pNext, flags, nw, pw, nc, pc, ns, ps⟩ := s
  obtain ⟨hrealw, hrealc, hreals⟩ := h
  obtain ⟨hfindw, hfindc, hfinds⟩ := hfinds
  obtain rfl := isNull_iff.1 hnext
  obtain rfl := htype
  simp only [List.append_assoc]
  refine .bind .u32 ?_
  refine .bindTwo (.backed hwaits hrealw (fun x hx => reads_semaphoreSubmitInfo (hallw x hx) hnull (hfindw x hx))
    (by decide) (fun x hx => le_length_semaphoreSubmitInfo (hallw x hx)) 48) ?_
  refine .bindTwo (.backed hcommands hrealc
    (fun x hx => reads_commandBufferSubmitInfo (hallc x hx) hnull (hfindc x hx))
    (by decide) (fun x hx => (length_commandBufferSubmitInfo (hallc x hx)).ge) 32) ?_
  exact .last (.backed hsignals hreals (fun x hx => reads_semaphoreSubmitInfo (halls x hx) hnull (hfinds x hx))
    (by decide) (fun x hx => le_length_semaphoreSubmitInfo (halls x hx)) 48) (.skip .requireOk .pure)

end

def VkDeviceQueueCreateInfo.Whole (s : VkDeviceQueueCreateInfo) : Prop :=
  s.queueCount.toNat ≤ kMaxArrayElements ∧ s.pQueuePriorities.Whole

def VkDeviceQueueCreateInfo.received (s : VkDeviceQueueCreateInfo) : VkDeviceQueueCreateInfo :=
  { s with pNext := .null, pQueuePriorities := s.pQueuePriorities.received id }

theorem reads_deviceQueueCreateInfo {s : VkDeviceQueueCreateInfo} (h : s.Whole) :
    Reads readDeviceQueueCreateInfo hr (writeDeviceQueueCreateInfo s) s.received :=
  .bind (.raw _ (by decide)) (.last (.podArray h.2 h.1 (by decide)) .pure)

namespace VkDeviceCreateInfo

structure Whole (s : VkDeviceCreateInfo) : Prop where
  chain : s.pNext.Whole
  queues : s.pQueueCreateInfos.Whole
  each : ∀ queue ∈ s.pQueueCreateInfos.items, queue.Whole
  layers : s.ppEnabledLayerNames.Whole
  layerNames : ∀ name ∈ s.ppEnabledLayerNames.items, namedBy name
  extensions : s.ppEnabledExtensionNames.Whole
  extensionNames : ∀ name ∈ s.ppEnabledExtensionNames.items, namedBy name
  features : s.pEnabledFeatures.Real
  queueCount : s.queueCreateInfoCount.toNat ≤ kMaxArrayElements
  layerCount : s.enabledLayerCount.toNat ≤ kMaxArrayElements
  extensionCount : s.enabledExtensionCount.toNat ≤ kMaxArrayElements

def received (hr : Resolver) (s : VkDeviceCreateInfo) : VkDeviceCreateInfo :=
  { s with pNext := s.pNext.received .deviceCreate hr,
           pQueueCreateInfos := s.pQueueCreateInfos.received VkDeviceQueueCreateInfo.received,
           ppEnabledLayerNames := s.ppEnabledLayerNames.received (Ptr.contents id),
           ppEnabledExtensionNames := s.ppEnabledExtensionNames.received (Ptr.contents id),
           pEnabledFeatures := s.pEnabledFeatures.contents id }

end VkDeviceCreateInfo

theorem reads_deviceCreateInfo {s : VkDeviceCreateInfo} {bytes : List UInt8}
    (hw : writeDeviceCreateInfo s = some bytes) (h : s.Whole) :
    Reads readDeviceCreateInfo hr bytes (s.received hr) := by
  obtain ⟨chain, hchain, hw⟩ := Option.bind_eq_some_iff.1 hw
  obtain rfl := Option.some.inj hw
  simp only [List.append_assoc]
  refine .bind (.raw _ (by decide)) (.bind (reads_chain hchain h.chain) (.skip (.require h.queueCount) ?_))
  refine .bind (.array h.queues (fun queue hmem => reads_deviceQueueCreateInfo (h.each queue hmem)) 40) ?_
  exact .bind (.stringArray h.layers h.layerCount fun name hmem => reads_name (h.layerNames name hmem))
    (.bind (.stringArray h.extensions h.extensionCount fun name hmem => reads_name (h.extensionNames name hmem))
      (.last (.optPod h.features (by decide)) .pure))

namespace VkSwapchainCreateInfoKHR

def Whole (s : VkSwapchainCreateInfoKHR) : Prop :=
  s.queueFamilyIndexCount.toNat ≤ kMaxArrayElements ∧ s.pQueueFamilyIndices.Whole

def received (hr : Resolver) (s : VkSwapchainCreateInfoKHR) : VkSwapchainCreateInfoKHR :=
  { s with pNext := .null, pQueueFamilyIndices := s.pQueueFamilyIndices.received id,
           surface := resolved hr .surface s.surface, oldSwapchain := resolved hr .swapchain s.oldSwapchain }

end VkSwapchainCreateInfoKHR

theorem reads_swapchainCreateInfoKHR {s : VkSwapchainCreateInfoKHR} (h : s.Whole) :
    Reads readSwapchainCreateInfoKHR hr (writeSwapchainCreateInfoKHR s) (s.received hr) :=
  .bind (.raw _ (by decide)) (.last (.podArray h.2 h.1 (by decide))
    (.skip (.patchHandle _ _) (.skip (.patchHandle _ _) .pure)))

def VkImageViewCreateInfo.received (hr : Resolver) (s : VkImageViewCreateInfo) : VkImageViewCreateInfo :=
  { s with pNext := s.pNext.received .imageViewCreate hr, image := resolved hr .image s.image }

theorem reads_imageViewCreateInfo {s : VkImageViewCreateInfo} {bytes : List UInt8}
    (hw : writeImageViewCreateInfo s = some bytes) (h : s.pNext.Whole) :
    Reads readImageViewCreateInfo hr bytes (s.received hr) := by
  obtain ⟨chain, hchain, hw⟩ := Option.bind_eq_some_iff.1 hw
  obtain rfl := Option.some.inj hw
  exact .bind (.raw _ (by decide)) (.last (reads_chain hchain h) (.skip (.patchHandle _ _) .pure))

/-- The chain is one that is sent, and its pointers are real. -/
def PNext.Sent (context : PNextContext) (chain : PNext) : Prop :=
  (writePnextChain context chain).isSome ∧ chain.Whole

namespace VkBufferCreateInfo

def Whole (s : VkBufferCreateInfo) : Prop :=
  s.pNext.Sent .bufferCreate ∧ s.queueFamilyIndexCount.toNat ≤ kMaxArrayElements ∧ s.pQueueFamilyIndices.Whole

def received (hr : Resolver) (s : VkBufferCreateInfo) : VkBufferCreateInfo :=
  { s with pNext := s.pNext.received .bufferCreate hr, pQueueFamilyIndices := s.pQueueFamilyIndices.received id }

end VkBufferCreateInfo

theorem reads_bufferCreateInfo {s : VkBufferCreateInfo} (h : s.Whole) :
    Reads readBufferCreateInfo hr (writeBufferCreateInfo s) (s.received hr) := by
  obtain ⟨⟨hsent, hchain⟩, hcount, hindices⟩ := h
  obtain ⟨chain, hwrite⟩ := Option.isSome_iff_exists.1 hsent
  unfold writeBufferCreateInfo
  rw [hwrite]
  simp only [List.append_assoc]
  exact .bind (.raw _ (by decide)) (.bind (reads_chain hwrite hchain)
    (.last (.podArray hindices hcount (by decide)) .pure))

namespace VkImageCreateInfo

def Whole (s : VkImageCreateInfo) : Prop :=
  s.pNext.Whole ∧ s.queueFamilyIndexCount.toNat ≤ kMaxArrayElements ∧ s.pQueueFamilyIndices.Whole

def received (hr : Resolver) (s : VkImageCreateInfo) : VkImageCreateInfo :=
  { s with pNext := s.pNext.received .imageCreate hr, pQueueFamilyIndices := s.pQueueFamilyIndices.received id }

end VkImageCreateInfo

theorem reads_imageCreateInfo {s : VkImageCreateInfo} {bytes : List UInt8}
    (hw : writeImageCreateInfo s = some bytes) (h : s.Whole) :
    Reads readImageCreateInfo hr bytes (s.received hr) := by
  obtain ⟨chain, hchain, hw⟩ := Option.bind_eq_some_iff.1 hw
  obtain rfl := Option.some.inj hw
  simp only [List.append_assoc]
  exact .bind (.raw _ (by decide)) (.bind (reads_chain hchain h.1)
    (.last (.podArray h.2.2 h.2.1 (by decide)) .pure))

def VkBufferViewCreateInfo.received (hr : Resolver) (s : VkBufferViewCreateInfo) : VkBufferViewCreateInfo :=
  { s with buffer := resolved hr .buffer s.buffer }

theorem reads_bufferViewCreateInfo {s : VkBufferViewCreateInfo} {bytes : List UInt8}
    (hw : writeBufferViewCreateInfo s = some bytes) (hfinds : hr.Knows .buffer s.buffer) :
    Reads readBufferViewCreateInfo hr bytes (s.received hr) := by
  obtain ⟨⟨htype, hnext⟩, hw⟩ := Option.ite_none_right_eq_some.1 hw
  obtain rfl := Option.some.inj hw
  obtain ⟨sType, pNext, flags, buffer, format, offset, range⟩ := s
  obtain rfl := isNull_iff.1 hnext
  simp only [List.append_assoc]
  exact .bind .u32 (.bind .u32 (.bind .u64 (.bind .u32 (.bind .u64 (.last .u64 (.skip (.patchHandle _ _)
    (.skip .requireOk (.skip (.require ⟨htype, resolved_of_knows hfinds⟩) .pure))))))))

section

variable {n gap : ℕ}

def PlainState.received (context : PNextContext) (hr : Resolver) (s : PlainState n gap) : PlainState n gap :=
  { s with pNext := s.pNext.received context hr }

theorem reads_chained {context : PNextContext} {s : PlainState n gap}
    (hsize : Raw.sizeof (PlainState n gap) < 2 ^ 32) (h : s.pNext.Sent context) :
    Reads (readChained n gap context) hr (writeChained context s) (s.received context hr) := by
  obtain ⟨chain, hwrite⟩ := Option.isSome_iff_exists.1 h.1
  unfold writeChained
  rw [hwrite]
  exact .bind (reads_plainState hsize) (.last (reads_chain hwrite h.2) .pure)

end

/-- What the decoder asks of a query pool. -/
structure VkQueryPoolCreateInfo.Whole (s : VkQueryPoolCreateInfo) : Prop where
  type : s.sType = queryPoolCreateInfoType
  chain : s.pNext.isNull = true
  nonempty : s.queryCount ≠ 0
  count : s.queryCount.toNat ≤ kMaxArrayElements

theorem reads_queryPoolCreateInfo {s : VkQueryPoolCreateInfo} (h : s.Whole) :
    Reads readQueryPoolCreateInfo hr (writeQueryPoolCreateInfo s) s := by
  obtain ⟨sType, pNext, flags, queryType, queryCount, statistics⟩ := s
  obtain ⟨htype, hnext, hsome, hcount⟩ := h
  obtain rfl := PNext.isNull_iff.1 hnext
  unfold writeQueryPoolCreateInfo
  simp only [List.append_assoc]
  exact .bind .u32 (.bind .u32 (.bind .u32 (.bind .u32 (.bind .u32 (.last .u32 (.skip .requireOk
    (.skip (.require ⟨htype, rfl, hsome, hcount⟩) .pure)))))))

def VkEventCreateInfo.Whole (s : VkEventCreateInfo) : Prop :=
  s.sType = eventCreateInfoType ∧ s.pNext.isNull = true

theorem reads_eventCreateInfo {s : VkEventCreateInfo} (h : s.Whole) :
    Reads readEventCreateInfo hr (writeEventCreateInfo s) s := by
  obtain ⟨sType, pNext, flags⟩ := s
  obtain ⟨htype, hnext⟩ := h
  obtain rfl := PNext.isNull_iff.1 hnext
  unfold writeEventCreateInfo
  simp only [List.append_assoc]
  exact .bind .u32 (.bind .u32 (.last .u32 (.skip .requireOk (.skip (.require ⟨htype, rfl⟩) .pure))))

theorem reads_extensionProperties {s : VkExtensionProperties}
    (h : s.extensionName.length < kMaxExtensionNameSize) :
    Reads readExtensionProperties hr (writeExtensionProperties s) s :=
  .bind (.bytes (h.trans (by decide))) (.skip (.require h) (.last .u32 (.skip .requireOk .pure)))

end

end VkRemote.Marshal
