import VulkanRemote.Marshal.ResourcesReadBack

/-! What `QueueSubmit` and `QueuePresentKHR` write into their requests themselves, and their handlers read. The
vectors of the handlers stand for blocks of the arena. -/

namespace VkRemote.Marshal
open Lib Wire Decode

structure VkSubmitInfo where
  sType : UInt32
  pNext : PNext
  waitSemaphoreCount : UInt32
  pWaitSemaphores : Ptr (Elements UInt64 waitSemaphoreCount.toNat)
  pWaitDstStageMask : Ptr (Elements UInt32 waitSemaphoreCount.toNat)
  commandBufferCount : UInt32
  pCommandBuffers : Ptr (Elements UInt64 commandBufferCount.toNat)
  signalSemaphoreCount : UInt32
  pSignalSemaphores : Ptr (Elements UInt64 signalSemaphoreCount.toNat)

/-- The arguments of `QueueSubmit`, the queue by its id. -/
structure QueueSubmit where
  queue : UInt64
  fence : UInt64
  submitCount : UInt32
  pSubmits : Ptr (Elements VkSubmitInfo submitCount.toNat)

def submitInfoType : UInt32 := 4

/-- What `QueueSubmit` checks before it writes anything. -/
def VkSubmitInfo.encodable (s : VkSubmitInfo) : Prop :=
  s.sType = submitInfoType ∧ validArray s.pWaitSemaphores ∧ validArray s.pWaitDstStageMask ∧
    validArray s.pCommandBuffers ∧ validArray s.pSignalSemaphores ∧
    (∀ id ∈ s.pWaitSemaphores.items, id ≠ 0) ∧ (∀ handle ∈ s.pCommandBuffers.items, handle ≠ 0) ∧
    ∀ id ∈ s.pSignalSemaphores.items, id ≠ 0

instance (s : VkSubmitInfo) : Decidable s.encodable := inferInstanceAs (Decidable (_ ∧ _))

/-- A semaphore and the stages that wait for it. -/
def writeWait (wait : UInt64 × UInt32) : List UInt8 := Writer.handle wait.1 ++ Writer.u32 wait.2

section

variable (commandBufferId : UInt64 → UInt64)

def writeSubmitInfo (s : VkSubmitInfo) : Option (List UInt8) := do
  let chain ← writePnextChain .submit s.pNext
  return chain ++ Writer.u32 s.waitSemaphoreCount ++
    (s.pWaitSemaphores.items.zip s.pWaitDstStageMask.items).flatMap writeWait ++
    Writer.u32 s.commandBufferCount ++
    s.pCommandBuffers.items.flatMap (fun handle => Writer.handle (commandBufferId handle)) ++
    Writer.u32 s.signalSemaphoreCount ++ s.pSignalSemaphores.items.flatMap Writer.handle

def writeQueueSubmit (q : QueueSubmit) : Option (List UInt8) :=
  if validArray q.pSubmits ∧ ∀ s ∈ q.pSubmits.items, s.encodable then do
    let submits ← writeAll (writeSubmitInfo commandBufferId) q.pSubmits.items
    return Writer.handle q.queue ++ Writer.handle q.fence ++ Writer.u32 q.submitCount ++ submits
  else none

end

def readKnown (kind : HandleKind) : Decode UInt64 := do
  let id ← handle
  let native ← lookup kind id
  require (native ≠ 0)
  return native

def readWait : Decode (UInt64 × UInt32) := do
  let id ← handle
  let semaphore ← lookup .semaphore id
  let stages ← u32
  require (semaphore ≠ 0)
  return (semaphore, stages)

def readSubmitInfo : Decode VkSubmitInfo := do
  let pNext ← readPnextChain .submit
  let ⟨waitSemaphoreCount, waits⟩ ← readBacked 12 16 readWait
  let ⟨commandBufferCount, pCommandBuffers⟩ ← readBacked 8 8 (readKnown .commandBuffer)
  let ⟨signalSemaphoreCount, pSignalSemaphores⟩ ← readBacked 8 8 (readKnown .semaphore)
  requireOk
  return { sType := submitInfoType, pNext, waitSemaphoreCount,
           pWaitSemaphores := waits.contents (List.Vector.map Prod.fst),
           pWaitDstStageMask := waits.contents (List.Vector.map Prod.snd), commandBufferCount,
           pCommandBuffers, signalSemaphoreCount, pSignalSemaphores }

section

-- The server's table of queues, which is none of the resolver's.
variable (queues : UInt64 → UInt64)

/-- The decoding half of `handle_QueueSubmit`. -/
def readQueueSubmit : Decode QueueSubmit := do
  let queueId ← handle
  let fenceId ← handle
  let fence ← lookup .fence fenceId
  let submitCount ← u32
  let left ← remaining
  require (submitCount.toNat ≤ kMaxArrayElements ∧ submitCount.toNat ≤ left / 16)
  requireOk
  require (queues queueId ≠ 0 ∧ (fenceId = 0 ∨ fence ≠ 0))
  let pSubmits ← array submitCount.toNat 72 readSubmitInfo
  let left ← remaining
  require (left = 0)
  return { queue := queues queueId, fence, submitCount, pSubmits }

end

/-- Without `pResults`, which the reply fills in. -/
structure VkPresentInfoKHR where
  sType : UInt32
  pNext : PNext
  waitSemaphoreCount : UInt32
  pWaitSemaphores : Ptr (Elements UInt64 waitSemaphoreCount.toNat)
  swapchainCount : UInt32
  pSwapchains : Ptr (Elements UInt64 swapchainCount.toNat)
  pImageIndices : Ptr (Elements UInt32 swapchainCount.toNat)

/-- The arguments of `QueuePresentKHR`, the queue by its id. -/
structure QueuePresent where
  queue : UInt64
  info : VkPresentInfoKHR

def presentInfoType : UInt32 := 1000001001

/-- A swapchain and the index of the image. -/
def writePresented (image : UInt64 × UInt32) : List UInt8 := Writer.handle image.1 ++ Writer.u32 image.2

def writeQueuePresentKHR (q : QueuePresent) : List UInt8 :=
  Writer.handle q.queue ++ Writer.u32 q.info.waitSemaphoreCount ++
    q.info.pWaitSemaphores.items.flatMap Writer.handle ++ Writer.u32 q.info.swapchainCount ++
    (q.info.pSwapchains.items.zip q.info.pImageIndices.items).flatMap writePresented

/-- A count that what is unread can back. -/
def readFitting {α : Type} (wire size : ℕ) (m : Decode α) :
    Decode ((count : UInt32) × Ptr (Elements α count.toNat)) := do
  let count ← u32
  let left ← remaining
  require (count.toNat ≤ left / wire)
  let p ← array count.toNat size m
  return ⟨count, p⟩

/-- An id with what it resolves to; it is judged at the end. -/
def readJudgedLater (kind : HandleKind) : Decode (UInt64 × UInt64) := do
  let id ← handle
  let native ← lookup kind id
  return (id, native)

def readPresented : Decode ((UInt64 × UInt64) × UInt32) := do
  let swapchain ← readJudgedLater .swapchain
  let index ← u32
  return (swapchain, index)

/-- `handles_valid`. -/
def handleValid (handle : UInt64 × UInt64) : Bool := handle.1 ≠ 0 ∧ handle.2 ≠ 0

/-- The decoding half of `handle_QueuePresentKHR`. -/
def readQueuePresentKHR (queues : UInt64 → UInt64) : Decode QueuePresent := do
  let queueId ← handle
  let ⟨waitSemaphoreCount, waits⟩ ← readFitting 8 16 (readJudgedLater .semaphore)
  let ⟨swapchainCount, images⟩ ← readFitting 12 24 readPresented
  requireOk
  require (queues queueId ≠ 0 ∧ waits.items.all handleValid ∧ images.items.all fun image => handleValid image.1)
  return { queue := queues queueId,
           info := { sType := presentInfoType, pNext := .null, waitSemaphoreCount,
                     pWaitSemaphores := waits.contents (List.Vector.map Prod.snd), swapchainCount,
                     pSwapchains := images.contents (List.Vector.map fun image => image.1.2),
                     pImageIndices := images.contents (List.Vector.map Prod.snd) } }

section

variable {α β γ δ : Type} {n : ℕ}

/-- Two arrays as one of pairs. -/
theorem exists_zip {p : Ptr (Elements α n)} {q : Ptr (Elements β n)} (hp : p.Whole) (hq : q.Whole) :
    ∃ z : Ptr (Elements (α × β) n), z.Whole ∧ z.items = p.items.zip q.items ∧ ∀ (f : α → γ) (g : β → δ),
      (z.received (Prod.map f g)).contents (List.Vector.map Prod.fst) = p.received f ∧
      (z.received (Prod.map f g)).contents (List.Vector.map Prod.snd) = q.received g := by
  by_cases hn : n = 0
  · subst hn
    refine ⟨.null, ⟨trivial, fun h => absurd rfl h⟩, ?_, fun f g => ⟨rfl, rfl⟩⟩
    rw [Reads.items_of_empty p]
    rfl
  · obtain ⟨v, hpitems, hp⟩ := exists_elements hp hn
    obtain ⟨w, hqitems, hq⟩ := exists_elements hq hn
    have hlength : (v.toList.zip w.toList).length = n := by
      rw [List.length_zip, v.toList_length, w.toList_length, min_self]
    let pairs : Elements (α × β) n := ⟨v.toList.zip w.toList, hlength⟩
    refine ⟨.arena pairs, ⟨trivial, fun _ => rfl⟩, ?_, fun f g => ?_⟩
    · rw [hpitems, hqitems]
      rfl
    · have hfst : (pairs.map (Prod.map f g)).map Prod.fst = v.map f := by
        apply Subtype.ext
        change List.map Prod.fst (List.map (Prod.map f g) (v.toList.zip w.toList)) = List.map f v.toList
        rw [← List.zip_map, List.map_fst_zip]
        simp
      have hsnd : (pairs.map (Prod.map f g)).map Prod.snd = w.map g := by
        apply Subtype.ext
        change List.map Prod.snd (List.map (Prod.map f g) (v.toList.zip w.toList)) = List.map g w.toList
        rw [← List.zip_map, List.map_snd_zip]
        simp
      rw [hp, hq, ← hfst, ← hsnd, Ptr.received, if_neg hn]
      exact ⟨rfl, rfl⟩

end

section

variable {hr : Resolver} {commandBufferId queues : UInt64 → UInt64}

theorem reads_known {kind : HandleKind} {id : UInt64} (hnull : hr.KeepsNull) (hfinds : hr kind id ≠ 0) :
    Reads (readKnown kind) hr (Writer.handle id) (resolved hr kind id) := by
  rw [resolved_of_keepsNull hnull]
  exact .last .u64 (.skip (.lookup kind id) (.skip (.require hfinds) .pure))

theorem reads_wait {wait : UInt64 × UInt32} (hnull : hr.KeepsNull) (hfinds : hr .semaphore wait.1 ≠ 0) :
    Reads readWait hr (writeWait wait) (Prod.map (resolved hr .semaphore) id wait) := by
  rw [Prod.map, resolved_of_keepsNull hnull]
  exact .bind .u64 (.skip (.lookup .semaphore wait.1) (.last .u32 (.skip (.require hfinds) .pure)))

namespace VkSubmitInfo

/-- Beyond what `QueueSubmit` checks. -/
structure Whole (s : VkSubmitInfo) : Prop where
  chain : s.pNext.Whole
  waits : s.pWaitSemaphores.Real
  stages : s.pWaitDstStageMask.Real
  commandBuffers : s.pCommandBuffers.Real
  signals : s.pSignalSemaphores.Real

structure Finds (commandBufferId : UInt64 → UInt64) (hr : Resolver) (s : VkSubmitInfo) : Prop where
  waits : ∀ id ∈ s.pWaitSemaphores.items, hr .semaphore id ≠ 0
  commandBuffers : ∀ handle ∈ s.pCommandBuffers.items, hr .commandBuffer (commandBufferId handle) ≠ 0
  signals : ∀ id ∈ s.pSignalSemaphores.items, hr .semaphore id ≠ 0

def received (commandBufferId : UInt64 → UInt64) (hr : Resolver) (s : VkSubmitInfo) : VkSubmitInfo :=
  { s with pNext := s.pNext.received .submit hr,
           pWaitSemaphores := s.pWaitSemaphores.received (resolved hr .semaphore),
           pWaitDstStageMask := s.pWaitDstStageMask.received id,
           pCommandBuffers :=
             s.pCommandBuffers.received fun handle => resolved hr .commandBuffer (commandBufferId handle),
           pSignalSemaphores := s.pSignalSemaphores.received (resolved hr .semaphore) }

end VkSubmitInfo

theorem length_writeWait (wait : UInt64 × UInt32) : (writeWait wait).length = 12 := by
  rw [writeWait, List.length_append, Writer.handle, Writer.length_u64, Writer.length_u32]

theorem length_handle (id : UInt64) : (Writer.handle id).length = 8 := Writer.length_u64 id

theorem reads_submitInfo {s : VkSubmitInfo} {bytes : List UInt8}
    (hw : writeSubmitInfo commandBufferId s = some bytes) (hencodable : s.encodable) (h : s.Whole)
    (hnull : hr.KeepsNull) (hfinds : s.Finds commandBufferId hr) :
    Reads readSubmitInfo hr bytes (s.received commandBufferId hr) := by
  obtain ⟨chain, hchain, hw⟩ := Option.bind_eq_some_iff.1 hw
  obtain rfl := Option.some.inj hw
  obtain ⟨htype, hwaits, hstages, hcommands, hsignals, -⟩ := hencodable
  obtain ⟨sType, pNext, nw, semaphores, stages, nc, commands, ns, signals⟩ := s
  obtain rfl := htype
  obtain ⟨waits, hwhole, hitems, hreceived⟩ :=
    exists_zip (whole_of_validArray hwaits h.waits) (whole_of_validArray hstages h.stages)
  obtain ⟨hsemaphore, hstage⟩ := hreceived (resolved hr .semaphore) (id : UInt32 → UInt32)
  have hwait : ∀ wait ∈ waits.items, Reads readWait hr (writeWait wait)
      (Prod.map (resolved hr .semaphore) id wait) := by
    intro wait hmem
    rw [hitems] at hmem
    exact reads_wait hnull (hfinds.waits _ (List.of_mem_zip hmem).1)
  rw [VkSubmitInfo.received, ← hsemaphore, ← hstage, ← hitems]
  simp only [List.append_assoc]
  refine .bind (reads_chain hchain h.chain) ?_
  refine .bindTwo (.backed (validArray_of_whole hwhole hwaits.1) hwhole.1 hwait (by decide)
    (fun wait _ => (length_writeWait wait).ge) 16) ?_
  refine .bindTwo (.backed hcommands h.commandBuffers
    (fun handle hmem => reads_known hnull (hfinds.commandBuffers handle hmem)) (by decide)
    (fun handle _ => (length_handle _).ge) 8) ?_
  exact .last (.backed hsignals h.signals (fun id hmem => reads_known hnull (hfinds.signals id hmem)) (by decide)
    (fun id _ => (length_handle id).ge) 8) (.skip .requireOk .pure)

theorem le_length_chain {context : PNextContext} {chain : PNext} {bytes : List UInt8}
    (hw : writePnextChain context chain = some bytes) : 4 ≤ bytes.length := by
  obtain ⟨nodes, -, hw⟩ := Option.bind_eq_some_iff.1 hw
  obtain ⟨encoded, -, hw⟩ := Option.bind_eq_some_iff.1 hw
  obtain rfl := Option.some.inj hw
  rw [List.length_append, Writer.length_u32]
  omega

/-- An empty chain and three counts. -/
theorem le_length_submitInfo {s : VkSubmitInfo} {bytes : List UInt8}
    (hw : writeSubmitInfo commandBufferId s = some bytes) : 16 ≤ bytes.length := by
  obtain ⟨chain, hchain, hw⟩ := Option.bind_eq_some_iff.1 hw
  obtain rfl := Option.some.inj hw
  have hshort := le_length_chain hchain
  simp only [List.length_append, Writer.length_u32]
  omega

namespace QueueSubmit

def Whole (q : QueueSubmit) : Prop := q.pSubmits.Real ∧ ∀ s ∈ q.pSubmits.items, s.Whole

structure Finds (commandBufferId queues : UInt64 → UInt64) (hr : Resolver) (q : QueueSubmit) : Prop where
  queue : queues q.queue ≠ 0
  fence : hr.Finds .fence q.fence
  each : ∀ s ∈ q.pSubmits.items, s.Finds commandBufferId hr

def received (commandBufferId queues : UInt64 → UInt64) (hr : Resolver) (q : QueueSubmit) : QueueSubmit :=
  { q with queue := queues q.queue, fence := resolved hr .fence q.fence,
           pSubmits := q.pSubmits.received (VkSubmitInfo.received commandBufferId hr) }

end QueueSubmit

theorem takes_queueSubmit {q : QueueSubmit} {bytes : List UInt8}
    (hw : writeQueueSubmit commandBufferId q = some bytes) (h : q.Whole) (hnull : hr.KeepsNull)
    (hfinds : q.Finds commandBufferId queues hr) :
    Takes (readQueueSubmit queues) hr bytes (q.received commandBufferId queues hr) := by
  obtain ⟨⟨hvalid, hencodable⟩, hw⟩ := Option.ite_none_right_eq_some.1 hw
  obtain ⟨submits, hsubmits, hw⟩ := Option.bind_eq_some_iff.1 hw
  obtain rfl := Option.some.inj hw
  obtain ⟨hall, rfl⟩ := writeAll_eq_some hsubmits
  have hwhole := whole_of_validArray hvalid h.1
  have hread : ∀ s ∈ q.pSubmits.items, Reads readSubmitInfo hr ((writeSubmitInfo commandBufferId s).getD [])
      (s.received commandBufferId hr) := fun s hs =>
    reads_submitInfo (hall s hs) (hencodable s hs) (h.2 s hs) hnull (hfinds.each s hs)
  have hbacked := Reads.le_div_wire hwhole (by decide) (fun s hs => le_length_submitInfo (hall s hs)) le_rfl
  simp only [List.append_assoc]
  refine .bind .u64 (.bind .u64 (.skip (reads_lookup hnull .fence q.fence) (.bind .u32 (.remaining ?_))))
  refine .skip (.require ⟨hvalid.1, hbacked⟩) (.skip .requireOk
    (.skip (.require ⟨hfinds.queue, resolved_ne hfinds.fence⟩) ?_))
  rw [← List.append_nil (q.pSubmits.items.flatMap _)]
  exact .bind (.array hwhole hread 72) (.remaining (.skip (.require rfl) (.of_reads .pure)))

theorem reads_fitting {α β : Type} {count : UInt32} {p : Ptr (Elements α count.toNat)} {m : Decode β}
    {w : α → List UInt8} {f : α → β} {wire : ℕ} (hp : p.Whole) (h : ∀ a ∈ p.items, Reads m hr (w a) (f a))
    (hwire : 0 < wire) (hw : ∀ a ∈ p.items, wire ≤ (w a).length) (size : ℕ) :
    Reads (readFitting wire size m) hr (Writer.u32 count ++ p.items.flatMap w) ⟨count, p.received f⟩ :=
  .bind .u32 (.remaining fun _ hleft => .skip (.require (Reads.le_div_wire hp hwire hw hleft))
    (.last (.array hp h size) .pure))

theorem contents_received {α β γ : Type} {n : ℕ} (f : α → β) (g : β → γ) (p : Ptr (Elements α n)) :
    (p.received f).contents (List.Vector.map g) = p.received (g ∘ f) := by
  unfold Ptr.received
  split
  · rfl
  · rw [Ptr.contents_contents]
    congr 1
    funext v
    exact Subtype.ext (List.map_map ..)

theorem reads_judgedLater {kind : HandleKind} {id : UInt64} (hnull : hr.KeepsNull) :
    Reads (readJudgedLater kind) hr (Writer.handle id) (id, resolved hr kind id) := by
  rw [resolved_of_keepsNull hnull]
  exact .last .u64 (.skip (.lookup kind id) .pure)

theorem reads_presented {image : UInt64 × UInt32} (hnull : hr.KeepsNull) :
    Reads readPresented hr (writePresented image)
      (Prod.map (fun id => (id, resolved hr .swapchain id)) id image) :=
  .bind (reads_judgedLater hnull) (.last .u32 .pure)

theorem handleValid_of_knows {kind : HandleKind} {id : UInt64} (h : hr.Knows kind id) :
    handleValid (id, resolved hr kind id) = true := decide_eq_true ⟨h.1, resolved_of_knows h⟩

namespace QueuePresent

structure Whole (q : QueuePresent) : Prop where
  waits : q.info.pWaitSemaphores.Whole
  swapchains : q.info.pSwapchains.Whole
  indices : q.info.pImageIndices.Whole

structure Finds (queues : UInt64 → UInt64) (hr : Resolver) (q : QueuePresent) : Prop where
  queue : queues q.queue ≠ 0
  waits : ∀ id ∈ q.info.pWaitSemaphores.items, hr.Knows .semaphore id
  swapchains : ∀ id ∈ q.info.pSwapchains.items, hr.Knows .swapchain id

/-- Neither the type nor a chain is sent. -/
def received (queues : UInt64 → UInt64) (hr : Resolver) (q : QueuePresent) : QueuePresent where
  queue := queues q.queue
  info := { q.info with sType := presentInfoType, pNext := .null,
                        pWaitSemaphores := q.info.pWaitSemaphores.received (resolved hr .semaphore),
                        pSwapchains := q.info.pSwapchains.received (resolved hr .swapchain),
                        pImageIndices := q.info.pImageIndices.received id }

end QueuePresent

theorem reads_queuePresentKHR {q : QueuePresent} (h : q.Whole) (hnull : hr.KeepsNull)
    (hfinds : q.Finds queues hr) :
    Reads (readQueuePresentKHR queues) hr (writeQueuePresentKHR q) (q.received queues hr) := by
  obtain ⟨queue, sType, pNext, nw, semaphores, nc, swapchains, indices⟩ := q
  obtain ⟨images, hwhole, hitems, hreceived⟩ := exists_zip h.swapchains h.indices
  obtain ⟨hswapchain, hindex⟩ :=
    hreceived (fun id => (id, resolved hr .swapchain id)) (id : UInt32 → UInt32)
  have hwaits :
      ((semaphores.received fun id => (id, resolved hr .semaphore id)).items.all handleValid) = true := by
    rw [items_received, List.all_map, List.all_eq_true]
    exact fun id hmem => handleValid_of_knows (hfinds.waits id hmem)
  have himages : ((images.received (Prod.map (fun id => (id, resolved hr .swapchain id)) id)).items.all
      fun image => handleValid image.1) = true := by
    rw [items_received, List.all_map, List.all_eq_true]
    intro image hmem
    rw [hitems] at hmem
    exact handleValid_of_knows (hfinds.swapchains _ (List.of_mem_zip hmem).1)
  have hnative : (images.received (Prod.map (fun id => (id, resolved hr .swapchain id)) id)).contents
      (List.Vector.map fun image => image.1.2) = swapchains.received (resolved hr .swapchain) := by
    calc (images.received (Prod.map (fun id => (id, resolved hr .swapchain id)) id)).contents
          (List.Vector.map fun image => image.1.2)
      _ = ((images.received (Prod.map (fun id => (id, resolved hr .swapchain id)) id)).contents
            (List.Vector.map Prod.fst)).contents (List.Vector.map Prod.snd) := by
          rw [contents_received, contents_received, contents_received]
          rfl
      _ = (swapchains.received fun id => (id, resolved hr .swapchain id)).contents (List.Vector.map Prod.snd) := by
          rw [hswapchain]
      _ = swapchains.received (resolved hr .swapchain) := contents_received ..
  have hsemaphore : (semaphores.received fun id => (id, resolved hr .semaphore id)).contents
      (List.Vector.map Prod.snd) = semaphores.received (resolved hr .semaphore) := contents_received ..
  unfold writeQueuePresentKHR QueuePresent.received
  dsimp only
  rw [← hnative, ← hsemaphore, ← hindex, ← hitems]
  simp only [List.append_assoc]
  refine .bind .u64 ?_
  refine .bindTwo (reads_fitting h.waits (fun id _ => reads_judgedLater hnull) (by decide)
    (fun id _ => (length_handle id).ge) 16) ?_
  exact .last (reads_fitting hwhole (fun image _ => reads_presented hnull) (by decide)
    (fun image _ => (length_writeWait image).ge) 24)
    (.skip .requireOk (.skip (.require ⟨hfinds.queue, hwaits, himages⟩) .pure))

end

end VkRemote.Marshal
