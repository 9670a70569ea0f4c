import VulkanRemote.Client.Replies
import VulkanRemote.Commands.Replay

/-! The requests that make objects: what `device.cpp` and `commands.cpp` send, what the handlers read, and what the
client makes of the reply. -/

namespace VkRemote.Commands

open Lib Wire Marshal Decode
open Client (roundTrip)
open Client.VkResult (success errorInitializationFailed)

/-! ### Objects that are made one at a time -/

inductive Created
  | buffer
  | image
  | imageView
  | bufferView
  | event
  | queryPool
  | sampler
  | samplerYcbcrConversion
  | shaderModule
  | pipelineCache
  | pipelineLayout
  | renderPass
  | renderPass2
  | framebuffer
  | descriptorSetLayout
  | descriptorPool
  | commandPool
  | fence
  | semaphore
  deriving DecidableEq

namespace Created

def decoder : Created → Decoder
  | buffer => .bufferCreateInfo
  | image => .imageCreateInfo
  | imageView => .imageViewCreateInfo
  | bufferView => .bufferViewCreateInfo
  | event => .eventCreateInfo
  | queryPool => .queryPoolCreateInfo
  | sampler => .samplerCreateInfo
  | samplerYcbcrConversion => .samplerYcbcrConversionCreateInfo
  | shaderModule => .shaderModuleCreateInfo
  | pipelineCache => .pipelineCacheCreateInfo
  | pipelineLayout => .pipelineLayoutCreateInfo
  | renderPass => .renderPassCreateInfo
  | renderPass2 => .renderPassCreateInfo2
  | framebuffer => .framebufferCreateInfo
  | descriptorSetLayout => .descriptorSetLayoutCreateInfo
  | descriptorPool => .descriptorPoolCreateInfo
  | commandPool => .commandPoolCreateInfo
  | fence => .fenceCreateInfo
  | semaphore => .semaphoreCreateInfo

abbrev Info (o : Created) : Type := o.decoder.Result

def createInfo : (o : Created) → o.Info → CreateInfo
  | buffer, s => .bufferCreateInfo s
  | image, s => .imageCreateInfo s
  | imageView, s => .imageViewCreateInfo s
  | bufferView, s => .bufferViewCreateInfo s
  | event, s => .eventCreateInfo s
  | queryPool, s => .queryPoolCreateInfo s
  | sampler, s => .samplerCreateInfo s
  | samplerYcbcrConversion, s => .samplerYcbcrConversionCreateInfo s
  | shaderModule, s => .shaderModuleCreateInfo s
  | pipelineCache, s => .pipelineCacheCreateInfo s
  | pipelineLayout, s => .pipelineLayoutCreateInfo s
  | renderPass, s => .renderPassCreateInfo s
  | renderPass2, s => .renderPassCreateInfo2 s
  | framebuffer, s => .framebufferCreateInfo s
  | descriptorSetLayout, s => .descriptorSetLayoutCreateInfo s
  | descriptorPool, s => .descriptorPoolCreateInfo s
  | commandPool, s => .commandPoolCreateInfo s
  | fence, s => .fenceCreateInfo s
  | semaphore, s => .semaphoreCreateInfo s

/-- The table that it goes into. -/
def kind : Created → HandleKind
  | buffer => .buffer
  | image => .image
  | imageView => .imageView
  | bufferView => .bufferView
  | event => .event
  | queryPool => .queryPool
  | sampler => .sampler
  | samplerYcbcrConversion => .samplerYcbcrConversion
  | shaderModule => .shaderModule
  | pipelineCache => .pipelineCache
  | pipelineLayout => .pipelineLayout
  | renderPass => .renderPass
  | renderPass2 => .renderPass
  | framebuffer => .framebuffer
  | descriptorSetLayout => .descriptorSetLayout
  | descriptorPool => .descriptorPool
  | commandPool => .commandPool
  | fence => .fence
  | semaphore => .semaphore

/-- The functions of which a handler needs one; the others are linked. -/
def functions : Created → List String
  | renderPass2 => ["vkCreateRenderPass2", "vkCreateRenderPass2KHR"]
  | samplerYcbcrConversion => ["vkCreateSamplerYcbcrConversion"]
  | _ => []

/-- What the client refuses before it writes anything. -/
def sends : (o : Created) → o.Info → Bool
  | descriptorSetLayout, s => s.pNext.isNull && ¬ updateAfterBind s.flags
  | samplerYcbcrConversion, s => s.pNext.isNull
  | _, _ => true

/-- Clients that ask whether the reply was long enough. -/
def checksReply (o : Created) : Bool := o = bufferView || o = samplerYcbcrConversion || o = shaderModule

/-- What the client answers, and the id that it hands out. -/
def answer (o : Created) (payload : List UInt8) : Client.Answer UInt64 :=
  match roundTrip payload with
  | none => { result := errorInitializationFailed }
  | some r =>
    let (result, r) := r.i32
    let (id, r) := r.handle
    if o.checksReply && !r.ok then { result := errorInitializationFailed }
    else { result, stores := if result = success then [(id, 0)] else [] }

/-- The structure as it arrives. -/
def received (hr : Resolver) : (o : Created) → o.Info → o.Info
  | buffer, s => s.received hr
  | image, s => s.received hr
  | imageView, s => s.received hr
  | bufferView, s => s.received hr
  | event, s => s
  | queryPool, s => s
  | sampler, s => s.received .samplerCreate hr
  | samplerYcbcrConversion, s => s.received
  | shaderModule, s => s.received hr
  | pipelineCache, s => s.received
  | pipelineLayout, s => s.received hr
  | renderPass, s => s.received hr
  | renderPass2, s => s.received hr
  | framebuffer, s => s.received hr
  | descriptorSetLayout, s => s.received hr
  | descriptorPool, s => s.received
  | commandPool, s => s.bare
  | fence, s => s.bare
  | semaphore, s => s.received .semaphoreCreate hr

end Created

/-! ### All requests that make objects -/

inductive Making
  | one (o : Created) (info : o.Info)
  | graphicsPipelines (cache : UInt64) (count : UInt32)
      (infos : Ptr (Elements VkGraphicsPipelineCreateInfo count.toNat))
  | computePipelines (cache : UInt64) (count : UInt32)
      (infos : Ptr (Elements VkComputePipelineCreateInfo count.toNat))
  | commandBuffers (info : VkCommandBufferAllocateInfo)
  | descriptorSets (info : VkDescriptorSetAllocateInfo)

/-- Which handler the request is for. -/
inductive MakeOpcode
  | one (o : Created)
  | graphicsPipelines
  | computePipelines
  | commandBuffers
  | descriptorSets
  deriving DecidableEq

def MakeOpcode.functions : MakeOpcode → List String
  | one o => o.functions
  | _ => []

namespace Making

def opcode : Making → MakeOpcode
  | one o _ => .one o
  | graphicsPipelines _ _ _ => .graphicsPipelines
  | computePipelines _ _ _ => .computePipelines
  | commandBuffers _ => .commandBuffers
  | descriptorSets _ => .descriptorSets

def kind : Making → HandleKind
  | one o _ => o.kind
  | graphicsPipelines _ _ _ => .pipeline
  | computePipelines _ _ _ => .pipeline
  | commandBuffers _ => .commandBuffer
  | descriptorSets _ => .descriptorSet

/-- How many are asked for; a single object has no count. -/
def counted : Making → Option UInt32
  | one _ _ => none
  | graphicsPipelines _ count _ => some count
  | computePipelines _ count _ => some count
  | commandBuffers info => some info.commandBufferCount
  | descriptorSets info => some info.descriptorSetCount

def count (m : Making) : ℕ := m.counted.elim 1 UInt32.toNat

/-- What follows the device; `none` where the function returns and sends nothing. -/
def write : Making → Option (List UInt8)
  | one o info => if o.sends info then (o.createInfo info).write id else none
  | graphicsPipelines cache count infos =>
    if validArray infos then do
      let bytes ← writeAll writeGraphicsPipelineCreateInfo infos.items
      return Writer.handle cache ++ Writer.u32 count ++ bytes
    else none
  | computePipelines cache count infos =>
    some (Writer.handle cache ++ Writer.u32 count ++ infos.items.flatMap writeComputePipelineCreateInfo)
  | commandBuffers info => some (writeCommandBufferAllocateInfo info)
  | descriptorSets info =>
    if info.descriptorPool ≠ 0 ∧ validArray info.pSetLayouts ∧ NoneNull info.pSetLayouts.items then
      some (writeDescriptorSetAllocateInfo info)
    else none

/-- What the client answers, and the ids that it hands out. -/
def answer : Making → List UInt8 → Client.Answer UInt64
  | one o _ => o.answer
  | graphicsPipelines _ count _ => Client.createGraphicsPipelines count
  | computePipelines _ count _ => Client.createComputePipelines count
  | commandBuffers info => Client.allocateCommandBuffers info.commandBufferCount
  | descriptorSets info => Client.allocateDescriptorSets info.descriptorSetCount

/-- Whether an object is kept: a pipeline may have been made where the call as a whole failed. -/
def keeps : Making → UInt32 → UInt64 → Bool
  | graphicsPipelines _ _ _, _, native => native ≠ 0
  | computePipelines _ _ _, _, native => native ≠ 0
  | _, result, _ => result = success

/-- What has to be in order beyond what the function looks at. -/
def Whole : Making → Prop
  | one o info => (o.createInfo info).Whole
  | graphicsPipelines _ _ infos => infos.Real ∧ ∀ info ∈ infos.items, info.Whole
  | computePipelines _ count infos =>
    count.toNat ≤ kMaxArrayElements ∧ infos.Whole ∧ ∀ info ∈ infos.items, info.stage.Whole
  | commandBuffers info => info.commandBufferCount.toNat ≤ kMaxArrayElements
  | descriptorSets info => info.Whole

section

variable (hr : Resolver)

def Finds : Making → Prop
  | one o info => (o.createInfo info).Finds id hr
  | graphicsPipelines cache _ infos => hr.Finds .pipelineCache cache ∧ ∀ info ∈ infos.items, info.Finds hr
  | computePipelines cache _ infos => hr.Finds .pipelineCache cache ∧ ∀ info ∈ infos.items, info.Finds hr
  | commandBuffers _ => True
  | descriptorSets info => info.Finds hr

def received : Making → Making
  | one o info => one o (o.received hr info)
  | graphicsPipelines cache count infos =>
    graphicsPipelines (resolved hr .pipelineCache cache) count
      (infos.received (VkGraphicsPipelineCreateInfo.received hr))
  | computePipelines cache count infos =>
    computePipelines (resolved hr .pipelineCache cache) count
      (infos.received (VkComputePipelineCreateInfo.received hr))
  | commandBuffers info => commandBuffers (info.received hr)
  | descriptorSets info => descriptorSets (info.received hr)

end

end Making

/-- Nothing comes after what was read. -/
def atEnd : Decode Unit := do
  requireOk
  let left ← remaining
  require (left = 0)

/-- Structures of which each begins with a copy of itself. -/
def readInfos {α : Type} (size : ℕ) (m : Decode α) : Decode ((count : UInt32) × Ptr (Elements α count.toNat)) := do
  let count ← u32
  let left ← remaining
  require (count.toNat ≤ kMaxArrayElements ∧ count.toNat ≤ left / 4)
  requireOk
  let p ← array count.toNat size m
  return ⟨count, p⟩

def readCache : Decode UInt64 := do
  let id ← handle
  let cache ← lookup .pipelineCache id
  require (id = 0 ∨ cache ≠ 0)
  return cache

def MakeOpcode.read : MakeOpcode → Decode Making
  | .one o => do
    let info ← o.decoder.code
    whenUsed (o = .shaderModule) () atEnd
    return .one o info
  | .graphicsPipelines => do
    let cache ← readCache
    let ⟨count, infos⟩ ← readInfos 144 readGraphicsPipelineCreateInfo
    return .graphicsPipelines cache count infos
  | .computePipelines => do
    let cache ← readCache
    let ⟨count, infos⟩ ← readInfos 96 readComputePipelineCreateInfo
    return .computePipelines cache count infos
  | .commandBuffers => do
    let info ← readCommandBufferAllocateInfo
    return .commandBuffers info
  | .descriptorSets => do
    let info ← readDescriptorSetAllocateInfo
    return .descriptorSets info

/-! ### What was sent is what is made -/

section

variable {hr : Resolver}

theorem takes_then {α β : Type} {m : Decode α} {k : α → Decode β} {bs : List UInt8} {a : α} {b : β}
    (hm : Takes m hr bs a) (hk : Takes (k a) hr [] b) : Takes (m >>= k) hr bs b := by
  intro s hs
  obtain ⟨s₁, hfirst, h₁⟩ := hm s hs
  obtain ⟨s₂, hrest, h₂⟩ := hk s₁ h₁
  exact ⟨s₂, (Marshal.bind_of hfirst).trans hrest, h₂⟩

theorem takes_atEnd : Takes atEnd hr [] () := .skip .requireOk (.remaining (.of_reads (.require rfl)))

theorem takes_info {o : Created} {info : o.Info} {bytes : List UInt8}
    (hw : (o.createInfo info).write id = some bytes) (h : (o.createInfo info).Whole)
    (hnull : hr.KeepsNull) (hfinds : (o.createInfo info).Finds id hr) :
    Takes o.decoder.code hr bytes (o.received hr info) := by
  have htakes := CreateInfo.takes_createInfo hw h hnull hfinds
  cases o <;> exact htakes

theorem takes_one {o : Created} {info : o.Info} {bytes : List UInt8}
    (hw : (o.createInfo info).write id = some bytes) (h : (o.createInfo info).Whole)
    (hnull : hr.KeepsNull) (hfinds : (o.createInfo info).Finds id hr) :
    Takes (MakeOpcode.one o).read hr bytes (.one o (o.received hr info)) := by
  have hend : Takes (whenUsed (o = .shaderModule) () atEnd) hr [] () := by
    unfold whenUsed
    split
    · exact takes_atEnd
    · exact .of_reads .pure
  exact takes_then (takes_info hw h hnull hfinds) (takes_then hend (.of_reads .pure))

theorem reads_cache {cache : UInt64} (hnull : hr.KeepsNull) (hfinds : hr.Finds .pipelineCache cache) :
    Reads readCache hr (Writer.handle cache) (resolved hr .pipelineCache cache) :=
  .last .u64 (.skip (reads_lookup hnull .pipelineCache cache) (.skip (.require (resolved_ne hfinds)) .pure))

theorem reads_readInfos {α β : Type} {count : UInt32} {p : Ptr (Elements α count.toNat)} {m : Decode β}
    {w : α → List UInt8} {f : α → β} (hcount : count.toNat ≤ kMaxArrayElements) (hp : p.Whole)
    (h : ∀ a ∈ p.items, Reads m hr (w a) (f a)) (hw : ∀ a ∈ p.items, 4 ≤ (w a).length) (size : ℕ) :
    Reads (readInfos size m) hr (writeCounted w count p) ⟨count, p.received f⟩ :=
  .bind .u32 (.remaining fun _ hleft => .skip (.require ⟨hcount, Reads.le_div_wire hp (by decide) hw hleft⟩)
    (.skip .requireOk (.last (.array hp h size) .pure)))

theorem le_length_graphicsPipeline {s : VkGraphicsPipelineCreateInfo} {bytes : List UInt8}
    (hw : writeGraphicsPipelineCreateInfo s = some bytes) : 4 ≤ bytes.length := by
  obtain ⟨-, hw⟩ := Option.ite_none_right_eq_some.1 hw
  obtain ⟨chain, -, hw⟩ := Option.bind_eq_some_iff.1 hw
  obtain ⟨tessellation, -, hw⟩ := Option.bind_eq_some_iff.1 hw
  obtain rfl := Option.some.inj hw
  simp only [List.length_append, length_writeRaw]
  omega

theorem le_length_computePipeline (s : VkComputePipelineCreateInfo) :
    4 ≤ (writeComputePipelineCreateInfo s).length := by
  unfold writeComputePipelineCreateInfo
  rw [List.length_append, length_writeRaw]
  omega

theorem takes_graphicsPipelines {cache : UInt64} {count : UInt32}
    {infos : Ptr (Elements VkGraphicsPipelineCreateInfo count.toNat)} {bytes : List UInt8}
    (hvalid : validArray infos) (hw : writeAll writeGraphicsPipelineCreateInfo infos.items = some bytes)
    (hreal : infos.Real) (h : ∀ info ∈ infos.items, info.Whole) (hnull : hr.KeepsNull)
    (hcache : hr.Finds .pipelineCache cache) (hfinds : ∀ info ∈ infos.items, info.Finds hr) :
    Takes MakeOpcode.graphicsPipelines.read hr (Writer.handle cache ++ Writer.u32 count ++ bytes)
      ((Making.graphicsPipelines cache count infos).received hr) := by
  obtain ⟨hall, rfl⟩ := writeAll_eq_some hw
  have hone : ∀ info ∈ infos.items, Reads readGraphicsPipelineCreateInfo hr
      ((writeGraphicsPipelineCreateInfo info).getD []) (info.received hr) := fun info hmem =>
    reads_graphicsPipelineCreateInfo (hall info hmem) (h info hmem) (hfinds info hmem)
  rw [List.append_assoc]
  have hinfos := reads_readInfos hvalid.1 (whole_of_validArray hvalid hreal) hone
    (fun info hmem => le_length_graphicsPipeline (hall info hmem)) 144
  exact .of_reads (.bind (reads_cache hnull hcache) (.last hinfos .pure))

theorem takes_making {m : Making} {bytes : List UInt8} (hw : m.write = some bytes) (h : m.Whole)
    (hnull : hr.KeepsNull) (hfinds : m.Finds hr) : Takes m.opcode.read hr bytes (m.received hr) := by
  cases m with
  | one o info =>
    obtain ⟨-, hw⟩ := Option.ite_none_right_eq_some.1 hw
    exact takes_one hw h hnull hfinds
  | graphicsPipelines cache count infos =>
    obtain ⟨hvalid, hw⟩ := Option.ite_none_right_eq_some.1 hw
    obtain ⟨bytes, hinfos, hw⟩ := Option.bind_eq_some_iff.1 hw
    obtain rfl := Option.some.inj hw
    exact takes_graphicsPipelines hvalid hinfos h.1 h.2 hnull hfinds.1 hfinds.2
  | computePipelines cache count infos =>
    obtain rfl := Option.some.inj hw
    obtain ⟨hcount, hwhole, hstages⟩ := h
    rw [List.append_assoc]
    exact .of_reads (.bind (reads_cache hnull hfinds.1) (.last (reads_readInfos hcount hwhole
      (fun info hmem => reads_computePipelineCreateInfo (hstages info hmem) (hfinds.2 info hmem))
      (fun info _ => le_length_computePipeline info) 96) .pure))
  | commandBuffers info =>
    obtain rfl := Option.some.inj hw
    exact .of_reads (.last (reads_commandBufferAllocateInfo h) .pure)
  | descriptorSets info =>
    obtain ⟨-, hw⟩ := Option.ite_none_right_eq_some.1 hw
    obtain rfl := Option.some.inj hw
    exact .of_reads (.last (reads_descriptorSetAllocateInfo h hfinds) .pure)

end

end VkRemote.Commands
