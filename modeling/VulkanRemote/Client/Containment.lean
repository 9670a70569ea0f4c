import VulkanRemote.Client.Replies

/-! What a reply can make the client do to the memory of the application and to its own: where a call stores,
and how much it allocates on the word of the server. -/

namespace VkRemote.Client

open Wire Marshal VkResult

variable {α β : Type}

/-- Nothing is stored past the end of the array, and the rest of the reply could hold what is allocated. -/
structure Answer.Safe (capacity : ℕ) (a : Answer α) : Prop where
  stores : ∀ s ∈ a.stores, s.2 < capacity
  allocations : ∀ x ∈ a.allocations, x.Backed

/-- A null array has no room. -/
def capacityOf (room : Option UInt32) : ℕ := room.elim 0 UInt32.toNat

/-- The calls, with the room that the application gives them. -/
inductive ReplyCall
  | getPhysicalDeviceSurfaceFormatsKHR (room : Option UInt32)
  | getPhysicalDeviceSurfacePresentModesKHR (room : Option UInt32)
  | getSwapchainImagesKHR (room : Option UInt32)
  | queuePresentKHR (swapchainCount : UInt32) (results : Bool)
  | enumeratePhysicalDevices (known : List UInt64) (room : Option UInt32)
  | enumeratePhysicalDeviceGroups (known : List UInt64) (room : Option UInt32)
  | getPhysicalDeviceQueueFamilyProperties (room : Option UInt32)
  | getPhysicalDeviceQueueFamilyProperties2 (room : Option UInt32)
  | getPhysicalDeviceSparseImageFormatProperties (room : Option UInt32)
  | getPhysicalDeviceSparseImageFormatProperties2 (room : Option UInt32)
  | getPhysicalDeviceFragmentShadingRatesKHR (room : Option UInt32)
  | enumerateDeviceExtensionProperties (room : Option UInt32)
  | getImageSparseMemoryRequirements (room : Option UInt32)
  | getImageSparseMemoryRequirements2 (room : Option UInt32)
  | getQueryPoolResults (dataSize : UInt64) (buffer : Bool)
  | getPipelineCacheData (room : Option UInt64)
  | createGraphicsPipelines (createInfoCount : UInt32)
  | createComputePipelines (createInfoCount : UInt32)
  | allocateDescriptorSets (descriptorSetCount : UInt32)
  | allocateCommandBuffers (commandBufferCount : UInt32)

namespace ReplyCall

/-- The call stays within its bounds on this reply. -/
def SafeOn (payload : List UInt8) : ReplyCall → Prop
  | getPhysicalDeviceSurfaceFormatsKHR room =>
    (Client.getPhysicalDeviceSurfaceFormatsKHR room payload).Safe (capacityOf room)
  | getPhysicalDeviceSurfacePresentModesKHR room =>
    (Client.getPhysicalDeviceSurfacePresentModesKHR room payload).Safe (capacityOf room)
  | getSwapchainImagesKHR room => (Client.getSwapchainImagesKHR room payload).Safe (capacityOf room)
  | queuePresentKHR swapchainCount results =>
    (Client.queuePresentKHR results payload).Safe (if results then swapchainCount.toNat else 0)
  | enumeratePhysicalDevices known room =>
    (Client.enumeratePhysicalDevices known room payload).Safe (capacityOf room)
  | enumeratePhysicalDeviceGroups known room =>
    (Client.enumeratePhysicalDeviceGroups known room payload).Safe (capacityOf room)
  | getPhysicalDeviceQueueFamilyProperties room =>
    (Client.getPhysicalDeviceQueueFamilyProperties room payload).Safe (capacityOf room)
  | getPhysicalDeviceQueueFamilyProperties2 room =>
    (Client.getPhysicalDeviceQueueFamilyProperties2 room payload).Safe (capacityOf room)
  | getPhysicalDeviceSparseImageFormatProperties room =>
    (Client.getPhysicalDeviceSparseImageFormatProperties room payload).Safe (capacityOf room)
  | getPhysicalDeviceSparseImageFormatProperties2 room =>
    (Client.getPhysicalDeviceSparseImageFormatProperties2 room payload).Safe (capacityOf room)
  | getPhysicalDeviceFragmentShadingRatesKHR room =>
    (Client.getPhysicalDeviceFragmentShadingRatesKHR room payload).Safe (capacityOf room)
  | enumerateDeviceExtensionProperties room =>
    (Client.enumerateDeviceExtensionProperties room payload).Safe (capacityOf room)
  | getImageSparseMemoryRequirements room =>
    (Client.getImageSparseMemoryRequirements room payload).Safe (capacityOf room)
  | getImageSparseMemoryRequirements2 room =>
    (Client.getImageSparseMemoryRequirements2 room payload).Safe (capacityOf room)
  | getQueryPoolResults dataSize buffer =>
    (Client.getQueryPoolResults dataSize buffer payload).Safe (if buffer then dataSize.toNat else 0)
  | getPipelineCacheData room => (Client.getPipelineCacheData room payload).Safe (room.elim 0 UInt64.toNat)
  | createGraphicsPipelines count => (Client.createGraphicsPipelines count payload).Safe count.toNat
  | createComputePipelines count => (Client.createComputePipelines count payload).Safe count.toNat
  | allocateDescriptorSets count => (Client.allocateDescriptorSets count payload).Safe count.toNat
  | allocateCommandBuffers count => (Client.allocateCommandBuffers count payload).Safe count.toNat

/-- Where the client does not check what the server says, the server says what it can stand by. -/
def Fits (payload : List UInt8) : ReplyCall → Prop
  | getPhysicalDeviceSurfacePresentModesKHR _ =>
    ∀ r ∈ roundTrip payload, ((readHeader r).allocation 4).Backed
  | getSwapchainImagesKHR _ => ∀ r ∈ roundTrip payload, ((readHeader r).allocation 8).Backed
  | queuePresentKHR swapchainCount results =>
    ∀ r ∈ roundTrip payload, results → (readHeader r).count ≤ swapchainCount
  | getPhysicalDeviceQueueFamilyProperties _ => ∀ r ∈ roundTrip payload, ((readCount r).allocation 24).Backed
  | enumerateDeviceExtensionProperties _ =>
    ∀ r ∈ roundTrip payload, (readHeader r).result = success → (readHeader r).bounded →
      ((readHeader r).allocation 8).Backed
  | getImageSparseMemoryRequirements _ => ∀ r ∈ roundTrip payload, ((readCount r).allocation 48).Backed
  | getImageSparseMemoryRequirements2 _ =>
    ∀ r ∈ roundTrip payload, (readCount r).bounded → ((readCount r).allocation 48).Backed
  | getPipelineCacheData room =>
    ∀ r ∈ roundTrip payload, ∀ data ∈ (readCacheData r).data, ∀ size ∈ room, data.length ≤ size.toNat
  | _ => True

end ReplyCall

/-! ### The parts that the calls are made of -/

theorem length_readElements (read : Reader → α × Reader) (n : ℕ) (r : Reader) :
    (readElements read n r).1.length = n := by
  induction n generalizing r with
  | zero => rfl
  | succ n ih => exact congrArg (· + 1) (ih _)

namespace Answer

variable {capacity : ℕ}

theorem safe_of_untouched {a : Answer α} (hstores : a.stores = []) (hallocations : a.allocations = []) :
    a.Safe capacity where
  stores s hs := by
    rw [hstores] at hs
    exact absurd hs List.not_mem_nil
  allocations x hx := by
    rw [hallocations] at hx
    exact absurd hx List.not_mem_nil

/-- Values that are stored from the start of the array on. -/
theorem safe_iff_length_le {a : Answer α} {values : List α} (hstores : a.stores = values.zipIdx)
    (hallocations : ∀ x ∈ a.allocations, x.Backed) : a.Safe capacity ↔ values.length ≤ capacity := by
  constructor
  · intro h
    by_contra hlong
    have hlt : capacity < values.length := not_le.1 hlong
    have hmem : (values[capacity], capacity) ∈ a.stores := by
      rw [hstores, List.mem_zipIdx_iff_getElem?]
      exact List.getElem?_eq_getElem hlt
    exact lt_irrefl _ (h.stores _ hmem)
  · intro h
    refine ⟨fun s hs => ?_, hallocations⟩
    rw [hstores] at hs
    exact (List.snd_lt_of_mem_zipIdx hs).trans_le h

end Answer

/-- An enumeration gives no more than there is room for. -/
theorem handOver_safe (room : Option UInt32) (values : List α) (whole cut : UInt32) :
    (handOver room values whole cut).Safe (capacityOf room) := by
  cases room with
  | none => exact Answer.safe_of_untouched rfl rfl
  | some room =>
    have hshort : (values.take (min room.toNat values.length)).length ≤ room.toNat :=
      (List.length_take_le _ _).trans (Nat.min_le_left _ _)
    exact (Answer.safe_iff_length_le rfl fun x hx => absurd hx List.not_mem_nil).2 hshort

namespace Header

variable {capacity : ℕ} (h : Header)

/-- The guard is the bound. -/
theorem backed_of_backs {elementBytes : ℕ} (hguard : h.backs elementBytes) : (h.allocation elementBytes).Backed :=
  (Nat.mul_le_mul_right _ (of_decide_eq_true hguard)).trans (Nat.div_mul_le_self _ _)

/-- What a vector of values adds to a call is its own size. -/
theorem values_safe_iff {read : Reader → α × Reader} {elementBytes : ℕ} {lost : Answer β}
    {done : List α → Answer β} (hlost : lost.Safe capacity) (hdone : ∀ values, (done values).Safe capacity) :
    (h.values read elementBytes lost done).Safe capacity ↔ (h.allocation elementBytes).Backed := by
  have hanswer (b : Bool) (values : List α) : (if b then done values else lost).Safe capacity := by
    cases b
    · exact hlost
    · exact hdone values
  constructor
  · exact fun hsafe => hsafe.allocations _ List.mem_cons_self
  · intro hbacked
    refine ⟨(hanswer _ _).stores, fun x hx => ?_⟩
    cases List.mem_cons.1 hx with
    | inl hx => exact hx ▸ hbacked
    | inr hx => exact (hanswer _ _).allocations x hx

/-- Where a guard comes before the vector, any reply will do. -/
theorem guarded_safe {read : Reader → α × Reader} {elementBytes : ℕ} {lost : Answer β}
    {done : List α → Answer β} {guard : Bool} (hguard : guard → h.backs elementBytes) (hlost : lost.Safe capacity)
    (hdone : h.backs elementBytes → ∀ values, (done values).Safe capacity) :
    (if guard then h.values read elementBytes lost done else lost).Safe capacity := by
  split
  · next hg => exact (h.values_safe_iff hlost (hdone (hguard hg))).2 (h.backed_of_backs (hguard hg))
  · exact hlost

end Header

/-- Behind the length, `Reader::bytes` finds all that it returns. -/
theorem bytesAllocation_backed {r : Reader} {maxSize : ℕ} {data : List UInt8}
    (h : (r.bytes maxSize).1 = some data) : (bytesAllocation r data).Backed ∧ data.length ≤ maxSize := by
  unfold Reader.bytes at h
  dsimp only at h
  split at h
  · exact nomatch h
  · next hfits =>
    push Not at hfits
    obtain ⟨hok, hmax, hlen⟩ := hfits
    obtain rfl := Option.some.inj h
    have hremaining : r.u32.2.remaining = r.u32.2.rest.length := by rw [Reader.remaining, if_neg hok]
    simp only [Allocation.Backed, bytesAllocation, hremaining, List.length_take, mul_one]
    omega

/-- A call that touches nothing without a reply is as safe as what it makes of one. -/
theorem safe_of_reply_iff {capacity : ℕ} {payload : List UInt8} {lost : Answer α} {f : Reader → Answer α}
    {P : Reader → Prop} (hlost : lost.Safe capacity) (hf : ∀ r, (f r).Safe capacity ↔ P r) :
    (match roundTrip payload with
      | none => lost
      | some r => f r).Safe capacity ↔ ∀ r ∈ roundTrip payload, P r := by
  cases roundTrip payload with
  | none => exact iff_of_true hlost fun r hr => nomatch hr
  | some r => exact (hf r).trans ⟨fun h r' hr' => Option.some.inj hr' ▸ h, fun h => h r rfl⟩

/-! ### The calls that check -/

section

variable {payload : List UInt8} {capacity : ℕ}

theorem safe_of_reply {lost : Answer α} {f : Reader → Answer α} (hlost : lost.Safe capacity)
    (hf : ∀ r, (f r).Safe capacity) :
    (match roundTrip payload with
      | none => lost
      | some r => f r).Safe capacity :=
  (safe_of_reply_iff (P := fun _ => True) hlost fun r => iff_true_intro (hf r)).2 fun _ _ => trivial

variable (payload) (room : Option UInt32)

theorem getPhysicalDeviceSurfaceFormatsKHR_safe :
    (getPhysicalDeviceSurfaceFormatsKHR room payload).Safe (capacityOf room) :=
  safe_of_reply (Answer.safe_of_untouched rfl rfl) fun r =>
    (readHeader r).guarded_safe id (Answer.safe_of_untouched rfl rfl) fun _ values => handOver_safe room values _ _

theorem enumeratePhysicalDevices_safe (known : List UInt64) :
    (enumeratePhysicalDevices known room payload).Safe (capacityOf room) := by
  unfold enumeratePhysicalDevices
  dsimp only
  split
  · exact handOver_safe room _ _ _
  · exact Answer.safe_of_untouched rfl rfl

theorem getPhysicalDeviceQueueFamilyProperties2_safe :
    (getPhysicalDeviceQueueFamilyProperties2 room payload).Safe (capacityOf room) :=
  safe_of_reply (Answer.safe_of_untouched rfl rfl) fun r =>
    (readCount r).guarded_safe (fun h => (Bool.and_eq_true_iff.1 h).2) (Answer.safe_of_untouched rfl rfl)
      fun _ values => handOver_safe room values _ _

theorem getPhysicalDeviceSparseImageFormatProperties_safe :
    (getPhysicalDeviceSparseImageFormatProperties room payload).Safe (capacityOf room) :=
  safe_of_reply (Answer.safe_of_untouched rfl rfl) fun r =>
    (readCount r).guarded_safe (fun h => (Bool.and_eq_true_iff.1 h).2) (Answer.safe_of_untouched rfl rfl)
      fun _ values => handOver_safe room values _ _

/-- The second vector is as large as the first. -/
theorem getPhysicalDeviceFragmentShadingRatesKHR_safe :
    (getPhysicalDeviceFragmentShadingRatesKHR room payload).Safe (capacityOf room) := by
  refine safe_of_reply (Answer.safe_of_untouched rfl rfl) fun r => ?_
  refine (readHeader r).guarded_safe (fun h => (Bool.and_eq_true_iff.1 h).2) (Answer.safe_of_untouched rfl rfl) ?_
  intro hbacks values
  split
  · exact Answer.safe_of_untouched rfl rfl
  · have hbacked := (readHeader r).backed_of_backs hbacks
    exact ⟨(handOver_safe room values _ _).stores, fun x hx => List.mem_singleton.1 hx ▸ hbacked⟩

theorem getQueryPoolResults_safe (dataSize : UInt64) (buffer : Bool) :
    (getQueryPoolResults dataSize buffer payload).Safe (if buffer then dataSize.toNat else 0) := by
  generalize hcapacity : (if buffer then dataSize.toNat else 0) = capacity
  unfold getQueryPoolResults
  split
  · exact Answer.safe_of_untouched rfl rfl
  · next hbuffer =>
    push Not at hbuffer
    have hroom : dataSize.toNat ≤ capacity := by
      by_cases hzero : dataSize = 0
      · exact hzero ▸ Nat.zero_le _
      · rw [← hcapacity, if_pos (Bool.eq_true_of_not_eq_false (hbuffer.2 hzero))]
    refine safe_of_reply (Answer.safe_of_untouched rfl rfl) fun r => ?_
    dsimp only
    split
    · exact Answer.safe_of_untouched rfl rfl
    · next data hdata =>
      obtain ⟨hbacked, hlen⟩ := bytesAllocation_backed hdata
      have hall : ∀ x ∈ [bytesAllocation r.i32.2 data], x.Backed := fun x hx => List.mem_singleton.1 hx ▸ hbacked
      split
      · exact ⟨fun s hs => absurd hs List.not_mem_nil, hall⟩
      · exact (Answer.safe_iff_length_le rfl hall).2 (hlen.trans hroom)

theorem takeIds_safe (asked lost : UInt32) : (takeIds asked lost payload).Safe asked.toNat := by
  unfold takeIds
  split
  · exact Answer.safe_of_untouched rfl rfl
  · refine safe_of_reply (Answer.safe_of_untouched rfl rfl) fun r => ?_
    dsimp only
    split
    · next hguard =>
      simp only [Bool.and_eq_true, decide_eq_true_eq] at hguard
      refine (Answer.safe_iff_length_le rfl fun x hx => absurd hx List.not_mem_nil).2 ?_
      rw [length_readElements, hguard.1.2]
    · exact Answer.safe_of_untouched rfl rfl

theorem createComputePipelines_safe (createInfoCount : UInt32) :
    (createComputePipelines createInfoCount payload).Safe createInfoCount.toNat := by
  refine safe_of_reply (Answer.safe_of_untouched rfl rfl) fun r => ?_
  refine (Answer.safe_iff_length_le rfl fun x hx => absurd hx List.not_mem_nil).2 ?_
  exact (length_readElements _ _ _).trans_le (Nat.min_le_right _ _)

theorem allocateCommandBuffers_safe (commandBufferCount : UInt32) :
    (allocateCommandBuffers commandBufferCount payload).Safe commandBufferCount.toNat := by
  refine safe_of_reply (Answer.safe_of_untouched rfl rfl) fun r => ?_
  refine (Answer.safe_iff_length_le rfl fun x hx => absurd hx List.not_mem_nil).2 ?_
  exact (length_readElements _ _ _).trans_le (Nat.min_le_right _ _)

end

/-! ### The calls that take the server's word -/

section

variable (payload : List UInt8) (room : Option UInt32)

theorem getPhysicalDeviceSurfacePresentModesKHR_safe_iff :
    (getPhysicalDeviceSurfacePresentModesKHR room payload).Safe (capacityOf room) ↔
      ∀ r ∈ roundTrip payload, ((readHeader r).allocation 4).Backed :=
  safe_of_reply_iff (Answer.safe_of_untouched rfl rfl) fun r =>
    (readHeader r).values_safe_iff (Answer.safe_of_untouched rfl rfl) fun values => handOver_safe room values _ _

theorem getSwapchainImagesKHR_safe_iff :
    (getSwapchainImagesKHR room payload).Safe (capacityOf room) ↔
      ∀ r ∈ roundTrip payload, ((readHeader r).allocation 8).Backed :=
  safe_of_reply_iff (Answer.safe_of_untouched rfl rfl) fun r =>
    (readHeader r).values_safe_iff (Answer.safe_of_untouched rfl rfl) fun values => handOver_safe room values _ _

theorem getPhysicalDeviceQueueFamilyProperties_safe_iff :
    (getPhysicalDeviceQueueFamilyProperties room payload).Safe (capacityOf room) ↔
      ∀ r ∈ roundTrip payload, ((readCount r).allocation 24).Backed :=
  safe_of_reply_iff (Answer.safe_of_untouched rfl rfl) fun r =>
    (readCount r).values_safe_iff (Answer.safe_of_untouched rfl rfl) fun values => handOver_safe room values _ _

/-- The application has an array of results for its swapchains, the loop runs over the server's count. -/
theorem queuePresentKHR_safe_iff (swapchainCount : UInt32) (results : Bool) :
    (queuePresentKHR results payload).Safe (if results then swapchainCount.toNat else 0) ↔
      ∀ r ∈ roundTrip payload, results → (readHeader r).count ≤ swapchainCount := by
  refine safe_of_reply_iff (Answer.safe_of_untouched rfl rfl) fun r => ?_
  cases results with
  | false => exact iff_of_true (Answer.safe_of_untouched rfl rfl) fun h => nomatch h
  | true =>
    refine (Answer.safe_iff_length_le rfl fun x hx => absurd hx List.not_mem_nil).trans ?_
    rw [length_readElements]
    exact ⟨fun h _ => UInt32.le_iff_toNat_le.2 h, fun h => UInt32.le_iff_toNat_le.1 (h rfl)⟩

theorem enumerateDeviceExtensionProperties_safe_iff :
    (enumerateDeviceExtensionProperties room payload).Safe (capacityOf room) ↔
      ∀ r ∈ roundTrip payload, (readHeader r).result = success → (readHeader r).bounded →
        ((readHeader r).allocation 8).Backed := by
  refine safe_of_reply_iff (Answer.safe_of_untouched rfl rfl) fun r => ?_
  dsimp only
  split
  · next hresult => exact iff_of_true (Answer.safe_of_untouched rfl rfl) fun h => absurd h hresult
  · next hresult =>
    have hresult := not_not.1 hresult
    split
    · next hbounded =>
      refine ((readHeader r).values_safe_iff (Answer.safe_of_untouched rfl rfl) fun values => ?_).trans ?_
      · exact handOver_safe room values _ _
      · exact ⟨fun h _ _ => h, fun h => h hresult hbounded⟩
    · next hbounded => exact iff_of_true (Answer.safe_of_untouched rfl rfl) fun _ h => absurd h hbounded

/-- Too large a count is allocated as well, and then refused. -/
theorem getImageSparseMemoryRequirements_safe_iff :
    (getImageSparseMemoryRequirements room payload).Safe (capacityOf room) ↔
      ∀ r ∈ roundTrip payload, ((readCount r).allocation 48).Backed := by
  refine safe_of_reply_iff (Answer.safe_of_untouched rfl rfl) fun r => ?_
  dsimp only
  split
  · exact (readCount r).values_safe_iff (Answer.safe_of_untouched rfl rfl) fun values =>
      handOver_safe room values _ _
  · refine ⟨fun h => h.allocations _ (List.mem_singleton.2 rfl), fun h => ?_⟩
    exact ⟨fun s hs => absurd hs List.not_mem_nil, fun x hx => List.mem_singleton.1 hx ▸ h⟩

theorem getImageSparseMemoryRequirements2_safe_iff :
    (getImageSparseMemoryRequirements2 room payload).Safe (capacityOf room) ↔
      ∀ r ∈ roundTrip payload, (readCount r).bounded → ((readCount r).allocation 48).Backed := by
  refine safe_of_reply_iff (Answer.safe_of_untouched rfl rfl) fun r => ?_
  dsimp only
  split
  · next hbounded =>
    refine ((readCount r).values_safe_iff (Answer.safe_of_untouched rfl rfl) fun values => ?_).trans ?_
    · exact handOver_safe room values _ _
    · exact ⟨fun h _ => h, fun h => h hbounded⟩
  · next hbounded => exact iff_of_true (Answer.safe_of_untouched rfl rfl) fun h => absurd h hbounded

theorem readCacheData_backed (r : Reader) : ∀ x ∈ (readCacheData r).allocations, x.Backed := by
  intro x hx
  obtain ⟨data, hdata, rfl⟩ := List.mem_map.1 hx
  exact (bytesAllocation_backed (Option.mem_toList.1 hdata)).1

/-- The data is copied at its own length. -/
theorem getPipelineCacheData_safe_iff (room : Option UInt64) :
    (getPipelineCacheData room payload).Safe (room.elim 0 UInt64.toNat) ↔
      ∀ r ∈ roundTrip payload, ∀ data ∈ (readCacheData r).data, ∀ size ∈ room, data.length ≤ size.toNat := by
  refine safe_of_reply_iff (Answer.safe_of_untouched rfl rfl) fun r => ?_
  dsimp only
  split
  · next hdata =>
    refine iff_of_true (Answer.safe_of_untouched rfl rfl) fun data h => ?_
    exact nomatch (Option.mem_def.1 h).symm.trans hdata
  · next data hdata =>
    have hall := readCacheData_backed r
    cases room with
    | none => exact iff_of_true ⟨fun s hs => absurd hs List.not_mem_nil, hall⟩ fun _ _ size h => nomatch h
    | some size =>
      refine (Answer.safe_iff_length_le rfl hall).trans ?_
      refine ⟨fun h data' hdata' size' hsize => ?_, fun h => h data hdata size rfl⟩
      obtain rfl := Option.some.inj (hdata.symm.trans hdata')
      obtain rfl := Option.some.inj hsize
      exact h

end

/-- For each call, when a reply cannot make it store or allocate too much. -/
theorem ReplyCall.safeOn_iff (c : ReplyCall) (payload : List UInt8) : c.SafeOn payload ↔ c.Fits payload := by
  cases c with
  | getPhysicalDeviceSurfaceFormatsKHR room =>
    exact iff_true_intro (getPhysicalDeviceSurfaceFormatsKHR_safe payload room)
  | getPhysicalDeviceSurfacePresentModesKHR room =>
    exact getPhysicalDeviceSurfacePresentModesKHR_safe_iff payload room
  | getSwapchainImagesKHR room => exact getSwapchainImagesKHR_safe_iff payload room
  | queuePresentKHR swapchainCount results => exact queuePresentKHR_safe_iff payload swapchainCount results
  | enumeratePhysicalDevices known room => exact iff_true_intro (enumeratePhysicalDevices_safe payload room known)
  | enumeratePhysicalDeviceGroups known room =>
    exact iff_true_intro (enumeratePhysicalDevices_safe payload room known)
  | getPhysicalDeviceQueueFamilyProperties room => exact getPhysicalDeviceQueueFamilyProperties_safe_iff payload room
  | getPhysicalDeviceQueueFamilyProperties2 room =>
    exact iff_true_intro (getPhysicalDeviceQueueFamilyProperties2_safe payload room)
  | getPhysicalDeviceSparseImageFormatProperties room =>
    exact iff_true_intro (getPhysicalDeviceSparseImageFormatProperties_safe payload room)
  | getPhysicalDeviceSparseImageFormatProperties2 room =>
    exact iff_true_intro (getPhysicalDeviceSparseImageFormatProperties_safe payload room)
  | getPhysicalDeviceFragmentShadingRatesKHR room =>
    exact iff_true_intro (getPhysicalDeviceFragmentShadingRatesKHR_safe payload room)
  | enumerateDeviceExtensionProperties room => exact enumerateDeviceExtensionProperties_safe_iff payload room
  | getImageSparseMemoryRequirements room => exact getImageSparseMemoryRequirements_safe_iff payload room
  | getImageSparseMemoryRequirements2 room => exact getImageSparseMemoryRequirements2_safe_iff payload room
  | getQueryPoolResults dataSize buffer => exact iff_true_intro (getQueryPoolResults_safe payload dataSize buffer)
  | getPipelineCacheData room => exact getPipelineCacheData_safe_iff payload room
  | createGraphicsPipelines count => exact iff_true_intro (takeIds_safe payload count _)
  | createComputePipelines count => exact iff_true_intro (createComputePipelines_safe payload count)
  | allocateDescriptorSets count => exact iff_true_intro (takeIds_safe payload count _)
  | allocateCommandBuffers count => exact iff_true_intro (allocateCommandBuffers_safe payload count)

/-- Two results for the one swapchain of the application. -/
theorem ReplyCall.queuePresent_overrun :
    ¬ (ReplyCall.queuePresentKHR 1 true).SafeOn
      (Writer.u32 0 ++ Writer.i32 0 ++ Writer.u32 2 ++ Writer.i32 0 ++ Writer.i32 0) := by
  intro h
  have hlt := h.stores (0, 1) (by decide)
  exact absurd hlt (by decide)

end VkRemote.Client
