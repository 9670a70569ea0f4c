import VulkanRemote.Marshal.Decode
import VulkanRemote.Marshal.NodeTypes

/-! `write_pnext_chain` and `read_pnext_chain`: chains of extension structures, field by field. No caller
nests a chain in a node, so the depth is always zero here. -/

namespace VkRemote.Marshal

open Lib Wire

def kMaxPNextNodes : ℕ := 16

structure VkAttachmentReference2 where
  sType : UInt32
  pNext : Ptr Unit
  attachment : UInt32
  layout : UInt32
  aspectMask : UInt32
  deriving DecidableEq

structure VkFramebufferAttachmentImageInfo where
  sType : UInt32
  pNext : Ptr Unit
  flags : UInt32
  usage : UInt32
  width : UInt32
  height : UInt32
  layerCount : UInt32
  viewFormatCount : UInt32
  pViewFormats : Ptr (Elements UInt32 viewFormatCount.toNat)

def attachmentReference2Type : UInt32 := 1000109001

def framebufferAttachmentImageInfoType : UInt32 := 1000108002

/-- `VkInputAttachmentAspectReference`: subpass, attachment index, aspects. -/
abbrev AspectReference := Record [.u32, .u32, .u32]

/-- One structure of a chain. `other` is any structure that this driver does not know. -/
inductive Node
  | plain (type : PlainType) (fields : Record type.fields)
  | renderPassInputAttachmentAspect (count : UInt32) (pAspectReferences : Ptr (Elements AspectReference count.toNat))
  | renderPassMultiview (subpassCount : UInt32) (pViewMasks : Ptr (Elements UInt32 subpassCount.toNat))
      (dependencyCount : UInt32) (pViewOffsets : Ptr (Elements UInt32 dependencyCount.toNat))
      (correlationMaskCount : UInt32) (pCorrelationMasks : Ptr (Elements UInt32 correlationMaskCount.toNat))
  | fragmentShadingRateAttachment (pAttachment : Ptr VkAttachmentReference2) (width height : UInt32)
  | imageFormatList (viewFormatCount : UInt32) (pViewFormats : Ptr (Elements UInt32 viewFormatCount.toNat))
  | samplerYcbcrConversion (conversion : UInt64)
  | framebufferAttachments (count : UInt32)
      (pAttachmentImageInfos : Ptr (Elements VkFramebufferAttachmentImageInfo count.toNat))
  | renderPassAttachmentBegin (attachmentCount : UInt32)
      (pAttachments : Ptr (Elements UInt64 attachmentCount.toNat))
  | timelineSemaphoreSubmit (waitCount : UInt32) (pWaitValues : Ptr (Elements UInt64 waitCount.toNat))
      (signalCount : UInt32) (pSignalValues : Ptr (Elements UInt64 signalCount.toNat))
  | memoryAllocateFlags (flags deviceMask : UInt32)
  | other (sType : UInt32) (unknown : ∀ t : NodeType, t.code ≠ sType)

/-- The linked list that a `pNext` field starts. -/
inductive PNext
  | null
  | host (address : Address) (node : Node) (next : PNext)
  | arena (node : Node) (next : PNext)
  | wire (bits : UInt64)

namespace Node

def type : Node → Option NodeType
  | plain t _ => some (.plain t)
  | renderPassInputAttachmentAspect .. => some .renderPassInputAttachmentAspectCreateInfo
  | renderPassMultiview .. => some .renderPassMultiviewCreateInfo
  | fragmentShadingRateAttachment .. => some .fragmentShadingRateAttachmentInfo
  | imageFormatList .. => some .imageFormatListCreateInfo
  | samplerYcbcrConversion _ => some .samplerYcbcrConversionInfo
  | framebufferAttachments .. => some .framebufferAttachmentsCreateInfo
  | renderPassAttachmentBegin .. => some .renderPassAttachmentBeginInfo
  | timelineSemaphoreSubmit .. => some .timelineSemaphoreSubmitInfo
  | memoryAllocateFlags .. => some .memoryAllocateFlagsInfo
  | other .. => none

def sType : Node → UInt32
  | other s _ => s
  | n => (n.type.map NodeType.code).getD 0

/-- `pnext_allowed` of the node's type. -/
def allowed (context : PNextContext) (n : Node) : Bool :=
  n.type.any fun t => t ∈ pnextAllowed context

end Node

namespace PNext

def bits : PNext → UInt64
  | null => 0
  | host a _ _ => a.bits
  | arena _ _ => 0
  | wire b => b

/-- The `pNext` of a structure that was copied from a message. -/
def ofBits (b : UInt64) : PNext := if b = 0 then null else wire b

def isNull : PNext → Bool
  | null => true
  | _ => false

def nodes : PNext → List Node
  | null => []
  | host _ n next => n :: next.nodes
  | arena n next => n :: next.nodes
  | wire _ => []

def ofNodes : List Node → PNext
  | [] => null
  | n :: ns => arena n (ofNodes ns)

end PNext

/-- The fields at the positions `masked` are set to zero. -/
def maskFields : (ss : List Slot) → List ℕ → ℕ → Record ss → Record ss
  | [], _, _, r => r
  | .u32 :: ss, masked, i, (v, r) => (if i ∈ masked then 0 else v, maskFields ss masked (i + 1) r)
  | .u64 :: ss, masked, i, (v, r) => (if i ∈ masked then 0 else v, maskFields ss masked (i + 1) r)
  | .blob n :: ss, masked, i, (b, r) =>
    (if i ∈ masked then Blob.ofBytes n [] else b, maskFields ss masked (i + 1) r)
  | .pad _ :: ss, masked, i, r => maskFields ss masked i r

/-- Integers as they are, byte arrays behind their length. -/
def writeFields : (ss : List Slot) → Record ss → List UInt8
  | [], _ => []
  | .u32 :: ss, (v, r) => Writer.u32 v ++ writeFields ss r
  | .u64 :: ss, (v, r) => Writer.u64 v ++ writeFields ss r
  | .blob _ :: ss, (b, r) => Writer.bytes b.val ++ writeFields ss r
  | .pad _ :: ss, r => writeFields ss r

/-- A count that `valid_count` accepts for an array that is there. -/
def validArray {α : Type} {n : ℕ} (p : Ptr (Elements α n)) : Prop :=
  n ≤ kMaxArrayElements ∧ (n ≠ 0 → p.isNull = false)

instance {α : Type} {n : ℕ} (p : Ptr (Elements α n)) : Decidable (validArray p) :=
  inferInstanceAs (Decidable (_ ∧ _))

def writeU32s {n : ℕ} (p : Ptr (Elements UInt32 n)) : List UInt8 := p.items.flatMap Writer.u32

def writeU64s {n : ℕ} (p : Ptr (Elements UInt64 n)) : List UInt8 := p.items.flatMap Writer.u64

/-- `write_attachment_reference2`. -/
def writeAttachmentReference2 (s : VkAttachmentReference2) : List UInt8 :=
  Writer.i32 s.sType ++ Writer.u32 s.attachment ++ Writer.i32 s.layout ++ Writer.u32 s.aspectMask

def writeAttachmentImageInfo (a : VkFramebufferAttachmentImageInfo) : Option (List UInt8) :=
  if a.sType = framebufferAttachmentImageInfoType ∧ a.pNext.isNull ∧ validArray a.pViewFormats then
    some (Writer.u32 a.flags ++ Writer.u32 a.usage ++ Writer.u32 a.width ++ Writer.u32 a.height ++
      Writer.u32 a.layerCount ++ Writer.u32 a.viewFormatCount ++ writeU32s a.pViewFormats)
  else none

/-- Everything one after another, unless one of them is refused. -/
def writeAll {α : Type} (f : α → Option (List UInt8)) : List α → Option (List UInt8)
  | [] => some []
  | a :: as => do
    let x ← f a
    let xs ← writeAll f as
    return x ++ xs

/-- `VK_MEMORY_ALLOCATE_DEVICE_ADDRESS_BIT` is the only flag that may travel. -/
def validAllocateFlags (flags deviceMask : UInt32) : Prop := flags &&& ~~~2 = 0 ∧ deviceMask = 0

instance (flags deviceMask : UInt32) : Decidable (validAllocateFlags flags deviceMask) :=
  inferInstanceAs (Decidable (_ ∧ _))

/-- `write_node_fields`. -/
def writeNodeFields : Node → Option (List UInt8)
  | .plain t r => some (writeFields t.fields (maskFields t.fields t.masked 0 r))
  | .renderPassInputAttachmentAspect count p =>
    if validArray p then
      some (Writer.u32 count ++ p.items.flatMap (writeFields [.u32, .u32, .u32]))
    else none
  | .renderPassMultiview ns ps nd pd nc pc =>
    if validArray ps ∧ validArray pd ∧ validArray pc then
      some (Writer.u32 ns ++ writeU32s ps ++ Writer.u32 nd ++ writeU32s pd ++ Writer.u32 nc ++ writeU32s pc)
    else none
  | .fragmentShadingRateAttachment p width height => do
    let attachment ← match p.target with
      | none => some (Writer.u32 0)
      | some a => if a.pNext.isNull then some (Writer.u32 1 ++ writeAttachmentReference2 a) else none
    return attachment ++ Writer.u32 width ++ Writer.u32 height
  | .imageFormatList count p =>
    if validArray p then some (Writer.u32 count ++ writeU32s p) else none
  | .samplerYcbcrConversion conversion => some (Writer.handle conversion)
  | .framebufferAttachments count p =>
    if validArray p then do
      let infos ← writeAll writeAttachmentImageInfo p.items
      return Writer.u32 count ++ infos
    else none
  | .renderPassAttachmentBegin count p =>
    if validArray p then some (Writer.u32 count ++ writeHandleArray p) else none
  | .timelineSemaphoreSubmit nw pw ns ps =>
    if validArray pw ∧ validArray ps then
      some (Writer.u32 nw ++ writeU64s pw ++ Writer.u32 ns ++ writeU64s ps)
    else none
  | .memoryAllocateFlags flags deviceMask =>
    if validAllocateFlags flags deviceMask then some (Writer.u32 flags ++ Writer.u32 deviceMask) else none
  | .other .. => none

/-- The loop of `collect_chain`. -/
def collectChain (context : PNextContext) : List Node → List Node → Option (List Node)
  | [], nodes => some nodes
  | node :: rest, nodes =>
    if context = .deviceCreate ∧ node.sType = loaderDeviceCreateInfo then collectChain context rest nodes
    else if nodes.length = kMaxPNextNodes ∨ ¬ node.allowed context then none
    else if ∃ previous ∈ nodes, previous.sType = node.sType then none
    else collectChain context rest (nodes ++ [node])

def writeNode (node : Node) : Option (List UInt8) := do
  let fields ← writeNodeFields node
  return Writer.i32 node.sType ++ fields

/-- `write_pnext_chain`. -/
def writePnextChain (context : PNextContext) (head : PNext) : Option (List UInt8) := do
  let nodes ← collectChain context head.nodes []
  let encoded ← writeAll writeNode nodes
  return Writer.u32 (UInt32.ofNat nodes.length) ++ encoded

open Decode

def readFields : (ss : List Slot) → Decode (Record ss)
  | [] => pure ()
  | .u32 :: ss => do
    let v ← u32
    let r ← readFields ss
    return (v, r)
  | .u64 :: ss => do
    let v ← u64
    let r ← readFields ss
    return (v, r)
  | .blob n :: ss => do
    let b ← bytes n
    require (b.length = n)
    let r ← readFields ss
    return (Blob.ofBytes n b, r)
  | .pad _ :: ss => readFields ss

/-- A count of elements of `size` bytes and the array, as all nodes but one read them. -/
def readCounted {α : Type} (size : ℕ) (m : Decode α) :
    Decode ((count : UInt32) × Ptr (Elements α count.toNat)) := do
  let count ← u32
  requireOk
  require (count.toNat ≤ kMaxArrayElements)
  let p ← array count.toNat size m
  return ⟨count, p⟩

/-- `read_attachment_reference2`. -/
def readAttachmentReference2 : Decode VkAttachmentReference2 := do
  let sType ← i32
  let attachment ← u32
  let layout ← i32
  let aspectMask ← u32
  requireOk
  require (sType = attachmentReference2Type)
  return { sType, pNext := .null, attachment, layout, aspectMask }

/-- The attachment of `FRAGMENT_SHADING_RATE_ATTACHMENT_INFO_KHR`, which may be absent. -/
def readShadingRateAttachment : Decode (Ptr VkAttachmentReference2) := do
  let present ← u32
  requireOk
  require (present ≤ 1)
  if present = 0 then return .null
  else do
    allocate 1 32
    let a ← readAttachmentReference2
    return .arena a

def readAttachmentImageInfo : Decode VkFramebufferAttachmentImageInfo := do
  let flags ← u32
  let usage ← u32
  let width ← u32
  let height ← u32
  let layerCount ← u32
  let ⟨count, p⟩ ← readCounted 4 i32
  return { sType := framebufferAttachmentImageInfoType, pNext := .null, flags, usage, width, height,
           layerCount, viewFormatCount := count, pViewFormats := p }

/-- `read_node_fields`. -/
def readNodeFields : NodeType → Decode Node
  | .plain t => do
    let r ← readFields t.fields
    return .plain t r
  | .renderPassInputAttachmentAspectCreateInfo => do
    let ⟨count, p⟩ ← readCounted 12 (readFields [.u32, .u32, .u32])
    return .renderPassInputAttachmentAspect count p
  | .renderPassMultiviewCreateInfo => do
    let ⟨ns, ps⟩ ← readCounted 4 u32
    let ⟨nd, pd⟩ ← readCounted 4 i32
    let ⟨nc, pc⟩ ← readCounted 4 u32
    return .renderPassMultiview ns ps nd pd nc pc
  | .fragmentShadingRateAttachmentInfo => do
    let p ← readShadingRateAttachment
    let width ← u32
    let height ← u32
    return .fragmentShadingRateAttachment p width height
  | .imageFormatListCreateInfo => do
    let ⟨count, p⟩ ← readCounted 4 i32
    return .imageFormatList count p
  | .samplerYcbcrConversionInfo => do
    let id ← handle
    let conversion ← patchHandle .samplerYcbcrConversion id
    return .samplerYcbcrConversion conversion
  | .framebufferAttachmentsCreateInfo => do
    let ⟨count, p⟩ ← readCounted 48 readAttachmentImageInfo
    return .framebufferAttachments count p
  | .renderPassAttachmentBeginInfo => do
    let count ← u32
    requireOk
    require (count.toNat ≤ kMaxArrayElements)
    let p ← readHandleArray .imageView count.toNat
    return .renderPassAttachmentBegin count p
  | .timelineSemaphoreSubmitInfo => do
    let ⟨nw, pw⟩ ← readCounted 8 u64
    let ⟨ns, ps⟩ ← readCounted 8 u64
    return .timelineSemaphoreSubmit nw pw ns ps
  | .memoryAllocateFlagsInfo => do
    let flags ← u32
    let deviceMask ← u32
    require (validAllocateFlags flags deviceMask)
    return .memoryAllocateFlags flags deviceMask

/-- The structure of the context that a code names. -/
def allowedType (context : PNextContext) (code : UInt32) : Option NodeType :=
  (pnextAllowed context).find? fun t => t.code == code

/-- The loop of `read_pnext_chain`; `seen` are the codes that came before. -/
def readNodes (context : PNextContext) : ℕ → List UInt32 → Decode (List Node)
  | 0, _ => pure []
  | n + 1, seen => do
    let code ← i32
    requireOk
    match allowedType context code with
    | none => fun _ s => (none, s)
    | some t => do
      require (code ∉ seen)
      allocate 1 t.nodeSize
      let node ← readNodeFields t
      requireOk
      let nodes ← readNodes context n (seen ++ [code])
      return node :: nodes

/-- `read_pnext_chain`. -/
def readPnextChain (context : PNextContext) : Decode PNext := do
  let count ← u32
  requireOk
  require (count.toNat ≤ kMaxPNextNodes)
  let nodes ← readNodes context count.toNat []
  requireOk
  return PNext.ofNodes nodes

end VkRemote.Marshal
