import VulkanRemote.Marshal.Descriptors

/-! Barriers of both versions, and what is submitted to a queue. -/

namespace VkRemote.Marshal

open Lib Wire Decode

abbrev VkMemoryBarrier := PlainState 8 0

def writeMemoryBarrier : VkMemoryBarrier → List UInt8 := writePlainState

def readMemoryBarrier : Decode VkMemoryBarrier := readRaw VkMemoryBarrier

/-- `scope` is the access masks and the queue families, `range` the offset and the size. -/
structure VkBufferMemoryBarrier where
  sType : UInt32
  pNext : PNext
  scope : Blob 16
  buffer : UInt64
  range : Blob 16
  gaps : Gaps [.pad 4] := .zeros _

instance : Raw VkBufferMemoryBarrier where
  slots := [.u32, .pad 4, .u64, .blob 16, .u64, .blob 16]
  record s := (s.sType, s.pNext.bits, s.scope, s.buffer, s.range, ())
  gaps s := s.gaps
  ofRecord := fun (sType, pNext, scope, buffer, range, _) gaps =>
    { sType, pNext := .ofBits pNext, scope, buffer, range, gaps }

def writeBufferMemoryBarrier (s : VkBufferMemoryBarrier) : List UInt8 := writeRaw { s with pNext := .null }

def readBufferMemoryBarrier : Decode VkBufferMemoryBarrier := do
  let s ← readRaw VkBufferMemoryBarrier
  let buffer ← patchHandle .buffer s.buffer
  return { s with buffer }

/-- `scope` is the access masks, the layouts and the queue families. -/
structure VkImageMemoryBarrier where
  sType : UInt32
  pNext : PNext
  scope : Blob 24
  image : UInt64
  subresourceRange : Blob 20
  gaps : Gaps [.pad 4, .pad 4] := .zeros _

instance : Raw VkImageMemoryBarrier where
  slots := [.u32, .pad 4, .u64, .blob 24, .u64, .blob 20, .pad 4]
  record s := (s.sType, s.pNext.bits, s.scope, s.image, s.subresourceRange, ())
  gaps s := s.gaps
  ofRecord := fun (sType, pNext, scope, image, range, _) gaps =>
    { sType, pNext := .ofBits pNext, scope, image, subresourceRange := range, gaps }

def writeImageMemoryBarrier (s : VkImageMemoryBarrier) : List UInt8 := writeRaw { s with pNext := .null }

def readImageMemoryBarrier : Decode VkImageMemoryBarrier := do
  let s ← readRaw VkImageMemoryBarrier
  let image ← patchHandle .image s.image
  return { s with image }

/-- A count that what is unread can back, as the readers below check it: they go on when the message has
ended, with a count of zero. -/
def readBacked {α : Type} (wire size : ℕ) (m : Decode α) :
    Decode ((count : UInt32) × Ptr (Elements α count.toNat)) := do
  let count ← u32
  let left ← remaining
  require (count.toNat ≤ kMaxArrayElements ∧ count.toNat ≤ left / wire)
  let p ← array count.toNat size m
  return ⟨count, p⟩

/-- The stage and access masks of a barrier. -/
abbrev Masks := Record (List.replicate 4 .u64)

structure VkMemoryBarrier2 where
  sType : UInt32
  pNext : Ptr Unit
  masks : Masks

/-- `families` are the source and the destination. -/
structure VkBufferMemoryBarrier2 where
  sType : UInt32
  pNext : Ptr Unit
  masks : Masks
  families : Record [.u32, .u32]
  buffer : UInt64
  range : Record [.u64, .u64]

/-- `transition` is the layouts and the queue families. -/
structure VkImageMemoryBarrier2 where
  sType : UInt32
  pNext : Ptr Unit
  masks : Masks
  transition : Record (List.replicate 4 .u32)
  image : UInt64
  subresourceRange : Record (List.replicate 5 .u32)

structure VkDependencyInfo where
  sType : UInt32
  pNext : Ptr Unit
  dependencyFlags : UInt32
  memoryBarrierCount : UInt32
  pMemoryBarriers : Ptr (Elements VkMemoryBarrier2 memoryBarrierCount.toNat)
  bufferMemoryBarrierCount : UInt32
  pBufferMemoryBarriers : Ptr (Elements VkBufferMemoryBarrier2 bufferMemoryBarrierCount.toNat)
  imageMemoryBarrierCount : UInt32
  pImageMemoryBarriers : Ptr (Elements VkImageMemoryBarrier2 imageMemoryBarrierCount.toNat)

def memoryBarrier2Type : UInt32 := 1000314000

def bufferMemoryBarrier2Type : UInt32 := 1000314001

def imageMemoryBarrier2Type : UInt32 := 1000314002

def dependencyInfoType : UInt32 := 1000314003

def writeMemoryBarrier2 (b : VkMemoryBarrier2) : Option (List UInt8) :=
  if b.sType = memoryBarrier2Type ∧ b.pNext.isNull then some (writeFields _ b.masks) else none

def writeBufferMemoryBarrier2 (b : VkBufferMemoryBarrier2) : Option (List UInt8) :=
  if b.sType = bufferMemoryBarrier2Type ∧ b.pNext.isNull then
    some (writeFields _ b.masks ++ writeFields [.u32, .u32] b.families ++ Writer.handle b.buffer ++
      writeFields [.u64, .u64] b.range)
  else none

def writeImageMemoryBarrier2 (b : VkImageMemoryBarrier2) : Option (List UInt8) :=
  if b.sType = imageMemoryBarrier2Type ∧ b.pNext.isNull then
    some (writeFields _ b.masks ++ writeFields _ b.transition ++ Writer.handle b.image ++
      writeFields _ b.subresourceRange)
  else none

/-- A refusal in the middle leaves what was written before it; no caller sends that. -/
def writeDependencyInfo (s : VkDependencyInfo) : Option (List UInt8) :=
  if s.sType = dependencyInfoType ∧ s.pNext.isNull ∧ validArray s.pMemoryBarriers ∧
      validArray s.pBufferMemoryBarriers ∧ validArray s.pImageMemoryBarriers then do
    let memory ← writeAll writeMemoryBarrier2 s.pMemoryBarriers.items
    let buffers ← writeAll writeBufferMemoryBarrier2 s.pBufferMemoryBarriers.items
    let images ← writeAll writeImageMemoryBarrier2 s.pImageMemoryBarriers.items
    return Writer.u32 s.dependencyFlags ++ Writer.u32 s.memoryBarrierCount ++ memory ++
      Writer.u32 s.bufferMemoryBarrierCount ++ buffers ++ Writer.u32 s.imageMemoryBarrierCount ++ images
  else none

def readMemoryBarrier2 : Decode VkMemoryBarrier2 := do
  let masks ← readFields (List.replicate 4 .u64)
  return { sType := memoryBarrier2Type, pNext := .null, masks }

/-- The resolver is asked before the rest is read, and about id 0 too. -/
def readBufferMemoryBarrier2 : Decode VkBufferMemoryBarrier2 := do
  let masks ← readFields (List.replicate 4 .u64)
  let families ← readFields [.u32, .u32]
  let id ← handle
  let buffer ← lookup .buffer id
  let range ← readFields [.u64, .u64]
  require (id = 0 ∨ buffer ≠ 0)
  return { sType := bufferMemoryBarrier2Type, pNext := .null, masks, families, buffer, range }

def readImageMemoryBarrier2 : Decode VkImageMemoryBarrier2 := do
  let masks ← readFields (List.replicate 4 .u64)
  let transition ← readFields (List.replicate 4 .u32)
  let id ← handle
  let image ← lookup .image id
  let subresourceRange ← readFields (List.replicate 5 .u32)
  require (id = 0 ∨ image ≠ 0)
  return { sType := imageMemoryBarrier2Type, pNext := .null, masks, transition, image, subresourceRange }

def readDependencyInfo : Decode VkDependencyInfo := do
  let dependencyFlags ← u32
  let ⟨memoryBarrierCount, pMemoryBarriers⟩ ← readBacked 32 48 readMemoryBarrier2
  let ⟨bufferMemoryBarrierCount, pBufferMemoryBarriers⟩ ← readBacked 64 80 readBufferMemoryBarrier2
  let ⟨imageMemoryBarrierCount, pImageMemoryBarriers⟩ ← readBacked 76 96 readImageMemoryBarrier2
  requireOk
  return { sType := dependencyInfoType, pNext := .null, dependencyFlags, memoryBarrierCount,
           pMemoryBarriers, bufferMemoryBarrierCount, pBufferMemoryBarriers, imageMemoryBarrierCount,
           pImageMemoryBarriers }

/-- `params` are the value, the stage mask and the device index. -/
structure VkSemaphoreSubmitInfo where
  sType : UInt32
  pNext : Ptr Unit
  semaphore : UInt64
  params : Record [.u64, .u64, .u32]

structure VkCommandBufferSubmitInfo where
  sType : UInt32
  pNext : Ptr Unit
  commandBuffer : UInt64
  deviceMask : UInt32

structure VkSubmitInfo2 where
  sType : UInt32
  pNext : Ptr Unit
  flags : UInt32
  waitSemaphoreInfoCount : UInt32
  pWaitSemaphoreInfos : Ptr (Elements VkSemaphoreSubmitInfo waitSemaphoreInfoCount.toNat)
  commandBufferInfoCount : UInt32
  pCommandBufferInfos : Ptr (Elements VkCommandBufferSubmitInfo commandBufferInfoCount.toNat)
  signalSemaphoreInfoCount : UInt32
  pSignalSemaphoreInfos : Ptr (Elements VkSemaphoreSubmitInfo signalSemaphoreInfoCount.toNat)

def submitInfo2Type : UInt32 := 1000314004

def semaphoreSubmitInfoType : UInt32 := 1000314005

def commandBufferSubmitInfoType : UInt32 := 1000314006

def writeSemaphoreSubmitInfo (x : VkSemaphoreSubmitInfo) : Option (List UInt8) :=
  if x.sType = semaphoreSubmitInfoType ∧ x.pNext.isNull then
    some (Writer.handle x.semaphore ++ writeFields [.u64, .u64, .u32] x.params)
  else none

section

-- The id of a command buffer, whose handle is an address in the client.
variable (commandBufferId : UInt64 → UInt64)

def writeCommandBufferSubmitInfo (x : VkCommandBufferSubmitInfo) : Option (List UInt8) :=
  if x.sType = commandBufferSubmitInfoType ∧ x.pNext.isNull then
    some (Writer.handle (commandBufferId x.commandBuffer) ++ Writer.u32 x.deviceMask)
  else none

def writeSubmitInfo2 (s : VkSubmitInfo2) : Option (List UInt8) :=
  if s.sType = submitInfo2Type ∧ s.pNext.isNull ∧ validArray s.pWaitSemaphoreInfos ∧
      validArray s.pCommandBufferInfos ∧ validArray s.pSignalSemaphoreInfos then do
    let waits ← writeAll writeSemaphoreSubmitInfo s.pWaitSemaphoreInfos.items
    let commandBuffers ← writeAll (writeCommandBufferSubmitInfo commandBufferId) s.pCommandBufferInfos.items
    let signals ← writeAll writeSemaphoreSubmitInfo s.pSignalSemaphoreInfos.items
    return Writer.u32 s.flags ++ Writer.u32 s.waitSemaphoreInfoCount ++ waits ++
      Writer.u32 s.commandBufferInfoCount ++ commandBuffers ++ Writer.u32 s.signalSemaphoreInfoCount ++ signals
  else none

end

def readSemaphoreSubmitInfo : Decode VkSemaphoreSubmitInfo := do
  let id ← handle
  let semaphore ← lookup .semaphore id
  let params ← readFields [.u64, .u64, .u32]
  require (id = 0 ∨ semaphore ≠ 0)
  return { sType := semaphoreSubmitInfoType, pNext := .null, semaphore, params }

def readCommandBufferSubmitInfo : Decode VkCommandBufferSubmitInfo := do
  let id ← handle
  let commandBuffer ← lookup .commandBuffer id
  let deviceMask ← u32
  require (id = 0 ∨ commandBuffer ≠ 0)
  return { sType := commandBufferSubmitInfoType, pNext := .null, commandBuffer, deviceMask }

def readSubmitInfo2 : Decode VkSubmitInfo2 := do
  let flags ← u32
  let ⟨waitSemaphoreInfoCount, pWaitSemaphoreInfos⟩ ← readBacked 28 48 readSemaphoreSubmitInfo
  let ⟨commandBufferInfoCount, pCommandBufferInfos⟩ ← readBacked 12 32 readCommandBufferSubmitInfo
  let ⟨signalSemaphoreInfoCount, pSignalSemaphoreInfos⟩ ← readBacked 28 48 readSemaphoreSubmitInfo
  requireOk
  return { sType := submitInfo2Type, pNext := .null, flags, waitSemaphoreInfoCount, pWaitSemaphoreInfos,
           commandBufferInfoCount, pCommandBufferInfos, signalSemaphoreInfoCount, pSignalSemaphoreInfos }

end VkRemote.Marshal
