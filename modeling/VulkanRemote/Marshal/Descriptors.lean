import VulkanRemote.Marshal.RenderPasses

/-! Descriptor set layouts, pools and sets, what is written into them, and update templates. -/

namespace VkRemote.Marshal

open Lib Wire Decode

structure VkDescriptorSetLayoutBinding where
  binding : UInt32
  descriptorType : UInt32
  descriptorCount : UInt32
  stageFlags : UInt32
  pImmutableSamplers : Ptr (Elements UInt64 descriptorCount.toNat)

instance : Raw VkDescriptorSetLayoutBinding where
  slots := [.u32, .u32, .u32, .u32, .u64]
  record b := (b.binding, b.descriptorType, b.descriptorCount, b.stageFlags, b.pImmutableSamplers.bits, ())
  gaps _ := ()
  ofRecord := fun (binding, type, n, stageFlags, samplers, _) _ =>
    { binding, descriptorType := type, descriptorCount := n, stageFlags, pImmutableSamplers := .ofBits samplers }

def writeSetLayoutBinding (b : VkDescriptorSetLayoutBinding) : List UInt8 :=
  writeRaw { b with pImmutableSamplers := .null } ++
    Writer.u32 (presence b.pImmutableSamplers.isNull) ++ writeHandleArray b.pImmutableSamplers

def readSetLayoutBinding : Decode VkDescriptorSetLayoutBinding := do
  let b ← readRaw VkDescriptorSetLayoutBinding
  let present ← u32
  requireOk
  let pImmutableSamplers ← whenUsed (present ≠ 0) .null (readHandleArray .sampler b.descriptorCount.toNat)
  return { b with pImmutableSamplers }

structure VkDescriptorSetLayoutCreateInfo where
  sType : UInt32
  pNext : PNext
  flags : UInt32
  bindingCount : UInt32
  pBindings : Ptr (Elements VkDescriptorSetLayoutBinding bindingCount.toNat)
  gaps : Gaps [.pad 4] := .zeros _

instance : Raw VkDescriptorSetLayoutCreateInfo where
  slots := [.u32, .pad 4, .u64, .u32, .u32, .u64]
  record s := (s.sType, s.pNext.bits, s.flags, s.bindingCount, s.pBindings.bits, ())
  gaps s := s.gaps
  ofRecord := fun (sType, pNext, flags, n, bindings, _) gaps =>
    { sType, pNext := .ofBits pNext, flags, bindingCount := n, pBindings := .ofBits bindings, gaps }

/-- The bit of `UPDATE_AFTER_BIND`, in the flags of layouts and of pools. -/
def updateAfterBind (flags : UInt32) : Prop := flags &&& 2 ≠ 0

instance (flags : UInt32) : Decidable (updateAfterBind flags) := inferInstanceAs (Decidable (_ ≠ _))

/-- Nothing is written for what the protocol does not carry. -/
def writeDescriptorSetLayoutCreateInfo (s : VkDescriptorSetLayoutCreateInfo) : List UInt8 :=
  if s.pNext.isNull = false ∨ updateAfterBind s.flags then []
  else writeRaw { s with pNext := .null, pBindings := .null } ++ s.pBindings.items.flatMap writeSetLayoutBinding

def readDescriptorSetLayoutCreateInfo : Decode VkDescriptorSetLayoutCreateInfo := do
  let s ← readRaw VkDescriptorSetLayoutCreateInfo
  let left ← remaining
  require (s.bindingCount.toNat ≤ kMaxArrayElements ∧ s.bindingCount.toNat ≤ left / 4)
  let pBindings ← array s.bindingCount.toNat 24 readSetLayoutBinding
  return { s with pBindings }

structure VkDescriptorPoolCreateInfo where
  sType : UInt32
  pNext : PNext
  flags : UInt32
  maxSets : UInt32
  poolSizeCount : UInt32
  pPoolSizes : Ptr (Elements (Blob 8) poolSizeCount.toNat)
  gaps : Gaps [.pad 4, .pad 4] := .zeros _

instance : Raw VkDescriptorPoolCreateInfo where
  slots := [.u32, .pad 4, .u64, .u32, .u32, .u32, .pad 4, .u64]
  record s := (s.sType, s.pNext.bits, s.flags, s.maxSets, s.poolSizeCount, s.pPoolSizes.bits, ())
  gaps s := s.gaps
  ofRecord := fun (sType, pNext, flags, maxSets, n, sizes, _) gaps =>
    { sType, pNext := .ofBits pNext, flags, maxSets, poolSizeCount := n, pPoolSizes := .ofBits sizes, gaps }

def writeDescriptorPoolCreateInfo (s : VkDescriptorPoolCreateInfo) : List UInt8 :=
  if s.pNext.isNull = false ∨ updateAfterBind s.flags then []
  else writeRaw { s with pNext := .null, pPoolSizes := .null } ++ writePodArray s.pPoolSizes

def readDescriptorPoolCreateInfo : Decode VkDescriptorPoolCreateInfo := do
  let s ← readRaw VkDescriptorPoolCreateInfo
  let pPoolSizes ← readPodArray 8 s.poolSizeCount.toNat
  return { s with pPoolSizes }

structure VkDescriptorSetAllocateInfo where
  sType : UInt32
  pNext : PNext
  descriptorPool : UInt64
  descriptorSetCount : UInt32
  pSetLayouts : Ptr (Elements UInt64 descriptorSetCount.toNat)
  gaps : Gaps [.pad 4, .pad 4] := .zeros _

instance : Raw VkDescriptorSetAllocateInfo where
  slots := [.u32, .pad 4, .u64, .u64, .u32, .pad 4, .u64]
  record s := (s.sType, s.pNext.bits, s.descriptorPool, s.descriptorSetCount, s.pSetLayouts.bits, ())
  gaps s := s.gaps
  ofRecord := fun (sType, pNext, descriptorPool, n, layouts, _) gaps =>
    { sType, pNext := .ofBits pNext, descriptorPool, descriptorSetCount := n, pSetLayouts := .ofBits layouts,
      gaps }

def writeDescriptorSetAllocateInfo (s : VkDescriptorSetAllocateInfo) : List UInt8 :=
  if s.pNext.isNull = false then []
  else writeRaw { s with pNext := .null, pSetLayouts := .null } ++ writeHandleArray s.pSetLayouts

def readDescriptorSetAllocateInfo : Decode VkDescriptorSetAllocateInfo := do
  let s ← readRaw VkDescriptorSetAllocateInfo
  require (s.descriptorSetCount.toNat ≤ kMaxArrayElements)
  let pSetLayouts ← readHandleArray .descriptorSetLayout s.descriptorSetCount.toNat
  require (pSetLayouts.items.all (· ≠ 0))
  let descriptorPool ← patchHandle .descriptorPool s.descriptorPool
  require (s.descriptorPool ≠ 0 ∧ descriptorPool ≠ 0)
  return { s with pSetLayouts, descriptorPool }

structure VkDescriptorImageInfo where
  sampler : UInt64
  imageView : UInt64
  imageLayout : UInt32

structure VkDescriptorBufferInfo where
  buffer : UInt64
  offset : UInt64
  range : UInt64

structure VkWriteDescriptorSet where
  sType : UInt32
  pNext : PNext
  dstSet : UInt64
  dstBinding : UInt32
  dstArrayElement : UInt32
  descriptorCount : UInt32
  descriptorType : UInt32
  pImageInfo : Ptr (Elements VkDescriptorImageInfo descriptorCount.toNat)
  pBufferInfo : Ptr (Elements VkDescriptorBufferInfo descriptorCount.toNat)
  pTexelBufferView : Ptr (Elements UInt64 descriptorCount.toNat)
  gaps : Gaps [.pad 4] := .zeros _

instance : Raw VkWriteDescriptorSet where
  slots := [.u32, .pad 4, .u64, .u64, .u32, .u32, .u32, .u32, .u64, .u64, .u64]
  record s := (s.sType, s.pNext.bits, s.dstSet, s.dstBinding, s.dstArrayElement, s.descriptorCount,
    s.descriptorType, s.pImageInfo.bits, s.pBufferInfo.bits, s.pTexelBufferView.bits, ())
  gaps s := s.gaps
  ofRecord := fun (sType, pNext, dstSet, dstBinding, dstArrayElement, n, type, images, buffers, views, _) gaps =>
    { sType, pNext := .ofBits pNext, dstSet, dstBinding, dstArrayElement, descriptorCount := n,
      descriptorType := type, pImageInfo := .ofBits images, pBufferInfo := .ofBits buffers,
      pTexelBufferView := .ofBits views, gaps }

/-- Which of the three arrays a descriptor type uses: 1 images, 2 buffers, 3 texel buffers; 0 for a type
that is not known. -/
def descriptorKind (type : UInt32) : UInt32 :=
  if type ∈ [0, 1, 2, 3, 10] then 1 else if type ∈ [6, 7, 8, 9] then 2 else if type ∈ [4, 5] then 3 else 0

/-- `SAMPLER` and `COMBINED_IMAGE_SAMPLER`. -/
def samplerUsed (type : UInt32) : Prop := type = 0 ∨ type = 1

instance (type : UInt32) : Decidable (samplerUsed type) := inferInstanceAs (Decidable (_ ∨ _))

/-- Every image descriptor but `SAMPLER`. -/
def viewUsed (type : UInt32) : Prop := type ≠ 0

instance (type : UInt32) : Decidable (viewUsed type) := inferInstanceAs (Decidable (_ ≠ _))

def writeImageInfo (type : UInt32) (info : VkDescriptorImageInfo) : Option (List UInt8) :=
  if (samplerUsed type ∧ info.sampler = 0) ∨ (viewUsed type ∧ info.imageView = 0) then none
  else some (Writer.handle (if samplerUsed type then info.sampler else 0) ++
    Writer.handle (if viewUsed type then info.imageView else 0) ++ Writer.i32 info.imageLayout)

def writeBufferInfo (info : VkDescriptorBufferInfo) : Option (List UInt8) :=
  if info.buffer = 0 then none
  else some (Writer.handle info.buffer ++ Writer.u64 info.offset ++ Writer.u64 info.range)

def writeTexelBufferView (view : UInt64) : Option (List UInt8) :=
  if view = 0 then none else some (Writer.handle view)

/-- The array that the descriptor type uses. -/
def VkWriteDescriptorSet.writeInfos (s : VkWriteDescriptorSet) : Option (List UInt8) :=
  if descriptorKind s.descriptorType = 1 then
    if validArray s.pImageInfo then writeAll (writeImageInfo s.descriptorType) s.pImageInfo.items else none
  else if descriptorKind s.descriptorType = 2 then
    if validArray s.pBufferInfo then writeAll writeBufferInfo s.pBufferInfo.items else none
  else if descriptorKind s.descriptorType = 3 then
    if validArray s.pTexelBufferView then writeAll writeTexelBufferView s.pTexelBufferView.items else none
  else none

def writeWriteDescriptorSet (s : VkWriteDescriptorSet) : Option (List UInt8) :=
  if s.descriptorCount.toNat ≤ kMaxArrayElements ∧ s.dstSet ≠ 0 then do
    let infos ← s.writeInfos
    return writeRaw { s with pNext := .null, pImageInfo := .null, pBufferInfo := .null,
                             pTexelBufferView := .null } ++
      Writer.u32 (descriptorKind s.descriptorType) ++ infos
  else none

/-- An id at a place that the descriptor type does not use is not looked at. -/
def readImageInfo (type : UInt32) : Decode VkDescriptorImageInfo := do
  let samplerId ← handle
  let viewId ← handle
  let imageLayout ← i32
  requireOk
  let sampler ← whenUsed (samplerUsed type) 0 (patchHandle .sampler samplerId)
  let imageView ← whenUsed (viewUsed type) 0 (patchHandle .imageView viewId)
  require ((samplerUsed type → samplerId ≠ 0 ∧ sampler ≠ 0) ∧ (viewUsed type → viewId ≠ 0 ∧ imageView ≠ 0))
  return { sampler, imageView, imageLayout }

def readBufferInfo : Decode VkDescriptorBufferInfo := do
  let id ← handle
  let offset ← u64
  let range ← u64
  requireOk
  let buffer ← patchHandle .buffer id
  require (id ≠ 0 ∧ buffer ≠ 0)
  return { buffer, offset, range }

/-- The resolver is asked twice. -/
def readTexelBufferView : Decode UInt64 := do
  let id ← handle
  requireOk
  require (id ≠ 0)
  let view ← lookup .bufferView id
  require (view ≠ 0)
  lookup .bufferView id

def readWriteDescriptorSet : Decode VkWriteDescriptorSet := do
  let s ← readRaw VkWriteDescriptorSet
  require (s.descriptorCount.toNat ≤ kMaxArrayElements)
  let kind ← u32
  require (descriptorKind s.descriptorType ≠ 0)
  requireOk
  require (kind = descriptorKind s.descriptorType)
  let pImageInfo ←
    whenUsed (kind = 1) .null (array s.descriptorCount.toNat 24 (readImageInfo s.descriptorType))
  let pBufferInfo ← whenUsed (kind = 2) .null (array s.descriptorCount.toNat 24 readBufferInfo)
  let pTexelBufferView ← whenUsed (kind = 3) .null (array s.descriptorCount.toNat 8 readTexelBufferView)
  let dstSet ← patchHandle .descriptorSet s.dstSet
  require (s.dstSet ≠ 0 ∧ dstSet ≠ 0)
  return { s with pImageInfo, pBufferInfo, pTexelBufferView, dstSet }

/-- The bindings, elements and count stay as bytes. -/
structure VkCopyDescriptorSet where
  sType : UInt32
  pNext : PNext
  srcSet : UInt64
  source : Blob 8
  dstSet : UInt64
  destination : Blob 12
  gaps : Gaps [.pad 4, .pad 4] := .zeros _

instance : Raw VkCopyDescriptorSet where
  slots := [.u32, .pad 4, .u64, .u64, .blob 8, .u64, .blob 12, .pad 4]
  record s := (s.sType, s.pNext.bits, s.srcSet, s.source, s.dstSet, s.destination, ())
  gaps s := s.gaps
  ofRecord := fun (sType, pNext, srcSet, source, dstSet, destination, _) gaps =>
    { sType, pNext := .ofBits pNext, srcSet, source, dstSet, destination, gaps }

def writeCopyDescriptorSet (s : VkCopyDescriptorSet) : List UInt8 := writeRaw { s with pNext := .null }

def readCopyDescriptorSet : Decode VkCopyDescriptorSet := do
  let s ← readRaw VkCopyDescriptorSet
  let srcSet ← patchHandle .descriptorSet s.srcSet
  let dstSet ← patchHandle .descriptorSet s.dstSet
  require (s.srcSet ≠ 0 ∧ srcSet ≠ 0 ∧ s.dstSet ≠ 0 ∧ dstSet ≠ 0)
  return { s with srcSet, dstSet }

structure VkDescriptorUpdateTemplateEntry where
  dstBinding : UInt32
  dstArrayElement : UInt32
  descriptorCount : UInt32
  descriptorType : UInt32
  offset : UInt64
  stride : UInt64

structure VkDescriptorUpdateTemplateCreateInfo where
  sType : UInt32
  pNext : PNext
  flags : UInt32
  descriptorUpdateEntryCount : UInt32
  pDescriptorUpdateEntries : Ptr (Elements VkDescriptorUpdateTemplateEntry descriptorUpdateEntryCount.toNat)
  templateType : UInt32
  descriptorSetLayout : UInt64
  pipelineBindPoint : UInt32
  pipelineLayout : UInt64
  set : UInt32

def descriptorUpdateTemplateCreateInfoType : UInt32 := 1000085000

def writeTemplateEntry (x : VkDescriptorUpdateTemplateEntry) : List UInt8 :=
  Writer.u32 x.dstBinding ++ Writer.u32 x.dstArrayElement ++ Writer.u32 x.descriptorCount ++
    Writer.i32 x.descriptorType ++ Writer.u64 x.offset ++ Writer.u64 x.stride

def writeDescriptorUpdateTemplateCreateInfo (s : VkDescriptorUpdateTemplateCreateInfo) : Option (List UInt8) :=
  if s.sType = descriptorUpdateTemplateCreateInfoType ∧ s.pNext.isNull ∧
      validArray s.pDescriptorUpdateEntries then
    some (Writer.i32 s.sType ++ Writer.u32 s.flags ++ Writer.u32 s.descriptorUpdateEntryCount ++
      s.pDescriptorUpdateEntries.items.flatMap writeTemplateEntry ++ Writer.i32 s.templateType ++
      Writer.handle s.descriptorSetLayout ++ Writer.i32 s.pipelineBindPoint ++
      Writer.handle s.pipelineLayout ++ Writer.u32 s.set)
  else none

def readTemplateEntry : Decode VkDescriptorUpdateTemplateEntry := do
  let dstBinding ← u32
  let dstArrayElement ← u32
  let descriptorCount ← u32
  let descriptorType ← i32
  let offset ← u64
  let stride ← u64
  return { dstBinding, dstArrayElement, descriptorCount, descriptorType, offset, stride }

def readDescriptorUpdateTemplateCreateInfo : Decode VkDescriptorUpdateTemplateCreateInfo := do
  let sType ← i32
  let flags ← u32
  let count ← u32
  requireOk
  let left ← remaining
  require (sType = descriptorUpdateTemplateCreateInfoType ∧ count.toNat ≤ kMaxArrayElements ∧
    count.toNat ≤ left / 32)
  let entries ← array count.toNat 32 readTemplateEntry
  let templateType ← i32
  let layoutId ← handle
  let descriptorSetLayout ← patchHandle .descriptorSetLayout layoutId
  let pipelineBindPoint ← i32
  let pipelineId ← handle
  let pipelineLayout ← patchHandle .pipelineLayout pipelineId
  let set ← u32
  requireOk
  return { sType, pNext := .null, flags, descriptorUpdateEntryCount := count,
           pDescriptorUpdateEntries := entries, templateType, descriptorSetLayout, pipelineBindPoint,
           pipelineLayout, set }

/-- `fields` are the eleven integers from the format to `forceExplicitReconstruction`. -/
structure VkSamplerYcbcrConversionCreateInfo where
  sType : UInt32
  pNext : PNext
  fields : Record (List.replicate 11 .u32)

def samplerYcbcrConversionCreateInfoType : UInt32 := 1000156000

def writeSamplerYcbcrConversionCreateInfo (s : VkSamplerYcbcrConversionCreateInfo) : List UInt8 :=
  Writer.i32 s.sType ++ writeFields _ s.fields

def readSamplerYcbcrConversionCreateInfo : Decode VkSamplerYcbcrConversionCreateInfo := do
  let sType ← i32
  let fields ← readFields (List.replicate 11 .u32)
  requireOk
  require (sType = samplerYcbcrConversionCreateInfoType)
  return { sType, pNext := .null, fields }

end VkRemote.Marshal
