import VulkanRemote.Commands.Making

/-! The other requests about a device's objects: calls of plain arguments, updates of descriptor sets, and
submissions. -/

namespace VkRemote.Commands

open Lib Wire Marshal Decode

inductive DeviceCommand
  | resetCommandPool
  | trimCommandPool
  | bindBufferMemory
  | bindImageMemory
  | getEventStatus
  | setEvent
  | resetEvent
  | getFenceStatus
  | signalSemaphore
  | resetQueryPool
  deriving DecidableEq

namespace DeviceCommand

/-- What follows the device. -/
def params : DeviceCommand → List Param
  | resetCommandPool => [.handle .commandPool true, .u32]
  | trimCommandPool => [.handle .commandPool true, .u32]
  | bindBufferMemory => [.handle .buffer false, .handle .memory false, .u64]
  | bindImageMemory => [.handle .image false, .handle .memory false, .u64]
  | getEventStatus => [.handle .event true]
  | setEvent => [.handle .event true]
  | resetEvent => [.handle .event true]
  | getFenceStatus => [.handle .fence true]
  | signalSemaphore => [.handle .semaphore true, .u64]
  | resetQueryPool => [.handle .queryPool true, .u32, .u32]

/-- `GetFenceStatus` returns for a null fence. -/
def sends : (c : DeviceCommand) → Args c.params → Bool
  | getFenceStatus, (fence, _) => fence ≠ 0
  | _, _ => true

/-- The others are sent and forgotten. -/
def replies (c : DeviceCommand) : Bool := c ≠ trimCommandPool && c ≠ resetQueryPool

/-- Whether the request has to end with the arguments. -/
def toEnd (c : DeviceCommand) : Bool := c = getFenceStatus

def functions : DeviceCommand → List String
  | trimCommandPool => ["vkTrimCommandPool"]
  | signalSemaphore => ["vkSignalSemaphore"]
  | resetQueryPool => ["vkResetQueryPool"]
  | _ => []

def read (c : DeviceCommand) : Decode (Args c.params) := do
  let args ← readArgs c.params
  requireOk
  let left ← remaining
  require (complete c.params args = true ∧ (c.toEnd = true → left = 0))
  return args

end DeviceCommand

/-- The arguments of `UpdateDescriptorSets` behind the device. -/
structure SetUpdates where
  writeCount : UInt32
  pWrites : Ptr (Elements VkWriteDescriptorSet writeCount.toNat)
  copyCount : UInt32
  pCopies : Ptr (Elements VkCopyDescriptorSet copyCount.toNat)

namespace SetUpdates

def write (u : SetUpdates) : Option (List UInt8) :=
  if validArray u.pWrites ∧ validArray u.pCopies ∧ ∀ c ∈ u.pCopies.items, c.srcSet ≠ 0 ∧ c.dstSet ≠ 0 then do
    let writes ← writeAll writeWriteDescriptorSet u.pWrites.items
    return Writer.u32 u.writeCount ++ writes ++ writeCounted writeCopyDescriptorSet u.copyCount u.pCopies
  else none

structure Whole (u : SetUpdates) : Prop where
  writes : u.pWrites.Real
  each : ∀ w ∈ u.pWrites.items, w.Whole
  copies : u.pCopies.Real

structure Finds (hr : Resolver) (u : SetUpdates) : Prop where
  writes : ∀ w ∈ u.pWrites.items, w.Finds hr
  copies : ∀ c ∈ u.pCopies.items, c.Finds hr

def received (hr : Resolver) (u : SetUpdates) : SetUpdates :=
  { u with pWrites := u.pWrites.received (VkWriteDescriptorSet.received hr),
           pCopies := u.pCopies.received (VkCopyDescriptorSet.received hr) }

def read : Decode SetUpdates := do
  let ⟨writeCount, pWrites⟩ ← readInfos 64 readWriteDescriptorSet
  let ⟨copyCount, pCopies⟩ ← readBacked 4 56 readCopyDescriptorSet
  atEnd
  return { writeCount, pWrites, copyCount, pCopies }

end SetUpdates

/-- The arguments of `QueueSubmit2`, the queue by its id. -/
structure QueueSubmit2 where
  queue : UInt64
  fence : UInt64
  submitCount : UInt32
  pSubmits : Ptr (Elements VkSubmitInfo2 submitCount.toNat)

/-- What `QueueSubmit2` checks before it writes anything. -/
def VkSubmitInfo2.complete (s : VkSubmitInfo2) : Prop :=
  (∀ x ∈ s.pWaitSemaphoreInfos.items, x.semaphore ≠ 0) ∧ (∀ x ∈ s.pCommandBufferInfos.items, x.commandBuffer ≠ 0) ∧
    ∀ x ∈ s.pSignalSemaphoreInfos.items, x.semaphore ≠ 0

instance (s : VkSubmitInfo2) : Decidable (VkSubmitInfo2.complete s) := inferInstanceAs (Decidable (_ ∧ _))

namespace QueueSubmit2

def write (q : QueueSubmit2) : Option (List UInt8) :=
  if validArray q.pSubmits ∧ ∀ s ∈ q.pSubmits.items, VkSubmitInfo2.complete s then do
    let submits ← writeAll (writeSubmitInfo2 id) q.pSubmits.items
    return Writer.handle q.queue ++ Writer.handle q.fence ++ Writer.u32 q.submitCount ++ submits
  else none

def Whole (q : QueueSubmit2) : Prop := q.pSubmits.Real ∧ ∀ s ∈ q.pSubmits.items, s.Whole

structure Finds (queues : UInt64 → UInt64) (hr : Resolver) (q : QueueSubmit2) : Prop where
  queue : queues q.queue ≠ 0
  fence : hr.Finds .fence q.fence
  each : ∀ s ∈ q.pSubmits.items, s.Finds id hr

def received (queues : UInt64 → UInt64) (hr : Resolver) (q : QueueSubmit2) : QueueSubmit2 :=
  { q with queue := queues q.queue, fence := resolved hr .fence q.fence,
           pSubmits := q.pSubmits.received (VkSubmitInfo2.received id hr) }

/-- The decoding half of `handle_QueueSubmit2`. -/
def read (queues : UInt64 → UInt64) : Decode QueueSubmit2 := do
  let queueId ← handle
  let fenceId ← handle
  let fence ← lookup .fence fenceId
  let submitCount ← u32
  let left ← remaining
  require (queues queueId ≠ 0 ∧ (fenceId = 0 ∨ fence ≠ 0) ∧ submitCount.toNat ≤ kMaxArrayElements ∧
    submitCount.toNat ≤ left / 16)
  let pSubmits ← array submitCount.toNat 64 readSubmitInfo2
  atEnd
  return { queue := queues queueId, fence, submitCount, pSubmits }

end QueueSubmit2

inductive Submission
  | submit (q : QueueSubmit)
  | submit2 (q : QueueSubmit2)

inductive SubmitOpcode
  | submit
  | submit2
  deriving DecidableEq

namespace Submission

def opcode : Submission → SubmitOpcode
  | submit _ => .submit
  | submit2 _ => .submit2

def queue : Submission → UInt64
  | submit q => q.queue
  | submit2 q => q.queue

def write : Submission → Option (List UInt8)
  | submit q => writeQueueSubmit id q
  | submit2 q => q.write

def Whole : Submission → Prop
  | submit q => q.Whole
  | submit2 q => q.Whole

section

variable (queues : UInt64 → UInt64) (hr : Resolver)

def Finds : Submission → Prop
  | submit q => q.Finds id queues hr
  | submit2 q => q.Finds queues hr

def received : Submission → Submission
  | submit q => submit (q.received id queues hr)
  | submit2 q => submit2 (q.received queues hr)

end

end Submission

/-- Functions of the queue's device. -/
def SubmitOpcode.functions : SubmitOpcode → List String
  | submit => []
  | submit2 => ["vkQueueSubmit2KHR"]

def SubmitOpcode.read (queues : UInt64 → UInt64) : SubmitOpcode → Decode Submission
  | submit => do
    let q ← readQueueSubmit queues
    return .submit q
  | submit2 => do
    let q ← QueueSubmit2.read queues
    return .submit2 q

/-! ### What was sent is what arrives -/

section

variable {hr : Resolver} {queues : UInt64 → UInt64}

theorem takes_deviceCommand (c : DeviceCommand) {args : Args c.params} (hnull : hr.KeepsNull)
    (hneeded : ∀ u ∈ usesOfArgs true c.params args, hr u.kind u.id ≠ 0) :
    Takes c.read hr (writeArgs c.params args) (receivedArgs hr c.params args) := by
  have hchecks : complete c.params (receivedArgs hr c.params args) = true ∧ (c.toEnd = true → 0 = 0) :=
    ⟨complete_received hnull hneeded, fun _ => rfl⟩
  rw [← List.append_nil (writeArgs c.params args)]
  exact .bind (reads_args hnull c.params args) (takes_end hchecks)

theorem le_length_writeDescriptorSet {w : VkWriteDescriptorSet} {bytes : List UInt8}
    (hw : writeWriteDescriptorSet w = some bytes) : 4 ≤ bytes.length := by
  obtain ⟨-, hw⟩ := Option.ite_none_right_eq_some.1 hw
  obtain ⟨infos, -, hw⟩ := Option.bind_eq_some_iff.1 hw
  obtain rfl := Option.some.inj hw
  simp only [List.length_append, length_writeRaw]
  omega

theorem le_length_copyDescriptorSet (c : VkCopyDescriptorSet) : 4 ≤ (writeCopyDescriptorSet c).length := by
  unfold writeCopyDescriptorSet
  rw [length_writeRaw]
  exact Nat.le_add_right _ _

theorem takes_setUpdates {u : SetUpdates} {bytes : List UInt8} (hw : u.write = some bytes) (h : u.Whole)
    (hfinds : u.Finds hr) : Takes SetUpdates.read hr bytes (u.received hr) := by
  obtain ⟨⟨hwrites, hcopies, -⟩, hw⟩ := Option.ite_none_right_eq_some.1 hw
  obtain ⟨writes, hwritten, hw⟩ := Option.bind_eq_some_iff.1 hw
  obtain rfl := Option.some.inj hw
  obtain ⟨hall, rfl⟩ := writeAll_eq_some hwritten
  have hone : ∀ w ∈ u.pWrites.items, Reads readWriteDescriptorSet hr ((writeWriteDescriptorSet w).getD [])
      (w.received hr) := fun w hmem =>
    reads_writeDescriptorSet (hall w hmem) (h.each w hmem) (hfinds.writes w hmem)
  refine .bind (reads_readInfos hwrites.1 (whole_of_validArray hwrites h.writes) hone
    (fun w hmem => le_length_writeDescriptorSet (hall w hmem)) 64) ?_
  rw [← List.append_nil (writeCounted writeCopyDescriptorSet u.copyCount u.pCopies)]
  exact .bind (reads_backed hcopies.1 (whole_of_validArray hcopies h.copies)
    (fun c hmem => reads_copyDescriptorSet (hfinds.copies c hmem)) (by decide)
    (fun c _ => le_length_copyDescriptorSet c) 56) (takes_then takes_atEnd (.of_reads .pure))

theorem le_length_submitInfo2 {s : VkSubmitInfo2} {bytes : List UInt8} (hw : writeSubmitInfo2 id s = some bytes) :
    16 ≤ bytes.length := by
  obtain ⟨-, hw⟩ := Option.ite_none_right_eq_some.1 hw
  obtain ⟨waits, -, hw⟩ := Option.bind_eq_some_iff.1 hw
  obtain ⟨commandBuffers, -, hw⟩ := Option.bind_eq_some_iff.1 hw
  obtain ⟨signals, -, hw⟩ := Option.bind_eq_some_iff.1 hw
  obtain rfl := Option.some.inj hw
  simp only [List.length_append, Writer.length_u32]
  omega

theorem takes_queueSubmit2 {q : QueueSubmit2} {bytes : List UInt8} (hw : q.write = some bytes) (h : q.Whole)
    (hnull : hr.KeepsNull) (hfinds : q.Finds queues hr) :
    Takes (QueueSubmit2.read queues) hr bytes (q.received queues hr) := by
  obtain ⟨⟨hvalid, -⟩, hw⟩ := Option.ite_none_right_eq_some.1 hw
  obtain ⟨submits, hsubmits, hw⟩ := Option.bind_eq_some_iff.1 hw
  obtain rfl := Option.some.inj hw
  obtain ⟨hall, rfl⟩ := writeAll_eq_some hsubmits
  have hwhole := whole_of_validArray hvalid h.1
  have hread : ∀ s ∈ q.pSubmits.items, Reads readSubmitInfo2 hr ((writeSubmitInfo2 id s).getD [])
      (s.received id hr) := fun s hs => reads_submitInfo2 (hall s hs) (h.2 s hs) hnull (hfinds.each s hs)
  have hbacked := Reads.le_div_wire hwhole (by decide) (fun s hs => le_length_submitInfo2 (hall s hs)) le_rfl
  simp only [List.append_assoc]
  refine .bind .u64 (.bind .u64 (.skip (reads_lookup hnull .fence q.fence) (.bind .u32 (.remaining ?_))))
  refine .skip (.require ⟨hfinds.queue, resolved_ne hfinds.fence, hvalid.1, hbacked⟩) ?_
  rw [← List.append_nil (q.pSubmits.items.flatMap _)]
  exact .bind (.array hwhole hread 64) (takes_then takes_atEnd (.of_reads .pure))

theorem takes_submission {q : Submission} {bytes : List UInt8} (hw : q.write = some bytes) (h : q.Whole)
    (hnull : hr.KeepsNull) (hfinds : q.Finds queues hr) :
    Takes (q.opcode.read queues) hr bytes (q.received queues hr) := by
  cases q with
  | submit q => exact takes_then (takes_queueSubmit hw h hnull hfinds) (.of_reads .pure)
  | submit2 q => exact takes_then (takes_queueSubmit2 hw h hnull hfinds) (.of_reads .pure)

end

end VkRemote.Commands
