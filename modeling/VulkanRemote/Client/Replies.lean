import VulkanRemote.Client.Connection
import VulkanRemote.Marshal.Resources

/-! The calls that fill an array or a buffer of the application's from a reply. The reply is any string of
bytes. -/

namespace VkRemote.Client

open Wire Marshal

namespace VkResult

def success : UInt32 := 0

def incomplete : UInt32 := 5

def errorOutOfHostMemory : UInt32 := -1

def errorInitializationFailed : UInt32 := -3

def errorDeviceLost : UInt32 := -4

def errorSurfaceLost : UInt32 := -1000000000

def errorOutOfPoolMemory : UInt32 := -1000069000

end VkResult

open VkResult

/-- A container that is sized from a number in the reply, and how much of the reply is behind that number. -/
structure Allocation where
  count : ℕ
  elementBytes : ℕ
  remaining : ℕ
  deriving DecidableEq

/-- The rest of the reply could hold the elements. -/
def Allocation.Backed (a : Allocation) : Prop := a.count * a.elementBytes ≤ a.remaining

/-- What a call does: its result, which a void call leaves at success, the count that it hands back, what it
stores at which index of the caller's array, and what it allocates. -/
structure Answer (α : Type) where
  result : UInt32 := success
  count : Option ℕ := none
  stores : List (α × ℕ) := []
  allocations : List Allocation := []

/-- `round_trip`, and the reader behind the status that it has looked at. -/
def roundTrip (payload : List UInt8) : Option Reader :=
  if Connection.replyOk payload then some (Reader.u32 ⟨payload, false⟩).2 else none

/-- Where a reply begins with a result and a count. -/
structure Header where
  result : UInt32 := success
  count : UInt32
  rest : Reader

def readHeader (r : Reader) : Header :=
  let (result, r) := r.i32
  let (count, r) := r.u32
  { result, count, rest := r }

/-- Where it has no result. -/
def readCount (r : Reader) : Header :=
  let (count, r) := r.u32
  { count, rest := r }

namespace Header

def allocation (h : Header) (elementBytes : ℕ) : Allocation := ⟨h.count.toNat, elementBytes, h.rest.remaining⟩

/-- The guards of the calls that have one; `kMaxArrayElements` bounds some counts as well. -/
def backs (h : Header) (elementBytes : ℕ) : Bool := h.count.toNat ≤ h.rest.remaining / elementBytes

def bounded (h : Header) : Bool := h.count.toNat ≤ kMaxArrayElements

end Header

variable {α β : Type}

/-- A reader that has failed yields zeros. -/
def readElements (read : Reader → α × Reader) : ℕ → Reader → List α × Reader
  | 0, r => ([], r)
  | n + 1, r =>
    let next := read r
    let others := readElements read n next.2
    (next.1 :: others.1, others.2)

/-- Reads as many elements as the header says into a vector of that size, and goes on with them. -/
def Header.values (h : Header) (read : Reader → α × Reader) (elementBytes : ℕ) (lost : Answer β)
    (done : List α → Answer β) : Answer β :=
  let got := readElements read h.count.toNat h.rest
  let answer := if got.2.ok then done got.1 else lost
  { answer with allocations := h.allocation elementBytes :: answer.allocations }

/-- How an enumeration ends. `room` is the caller's count, if there is an array for it. -/
def handOver (room : Option UInt32) (values : List α) (whole cut : UInt32) : Answer α :=
  match room with
  | none => { result := whole, count := some values.length }
  | some room =>
    let n := min room.toNat values.length
    { result := if n < values.length then cut else whole, count := some n, stores := (values.take n).zipIdx }

structure VkSurfaceFormatKHR where
  format : UInt32
  colorSpace : UInt32
  deriving DecidableEq

def readSurfaceFormatKHR (r : Reader) : VkSurfaceFormatKHR × Reader :=
  let (format, r) := r.i32
  let (colorSpace, r) := r.i32
  ({ format, colorSpace }, r)

def getPhysicalDeviceSurfaceFormatsKHR (room : Option UInt32) (payload : List UInt8) :
    Answer VkSurfaceFormatKHR :=
  let lost : Answer VkSurfaceFormatKHR := { result := errorSurfaceLost, count := some 0 }
  match roundTrip payload with
  | none => lost
  | some r =>
    let h := readHeader r
    if h.backs 8 then
      h.values readSurfaceFormatKHR 8 lost fun formats => handOver room formats h.result incomplete
    else lost

def getPhysicalDeviceSurfacePresentModesKHR (room : Option UInt32) (payload : List UInt8) : Answer UInt32 :=
  let lost : Answer UInt32 := { result := errorSurfaceLost, count := some 0 }
  match roundTrip payload with
  | none => lost
  | some r =>
    let h := readHeader r
    h.values Reader.i32 4 lost fun modes => handOver room modes h.result incomplete

def getSwapchainImagesKHR (room : Option UInt32) (payload : List UInt8) : Answer UInt64 :=
  let lost : Answer UInt64 := { result := errorDeviceLost }
  match roundTrip payload with
  | none => lost
  | some r =>
    let h := readHeader r
    h.values Reader.handle 8 lost fun ids => handOver room ids h.result incomplete

/-- `results` says whether the application wants a result for each swapchain. -/
def queuePresentKHR (results : Bool) (payload : List UInt8) : Answer UInt32 :=
  match roundTrip payload with
  | none => { result := errorDeviceLost }
  | some r =>
    let h := readHeader r
    let perSwapchain := readElements Reader.i32 h.count.toNat h.rest
    { result := if perSwapchain.2.ok then h.result else errorDeviceLost
      stores := if results then perSwapchain.1.zipIdx else [] }

/-- The devices of the instance after the first `n` ids of a reply, and whether they were all there. -/
def addPhysicalDevices (devices : List UInt64) : ℕ → Reader → List UInt64 × Bool
  | 0, _ => (devices, true)
  | n + 1, r =>
    let (id, r) := r.handle
    if r.ok then addPhysicalDevices (devices ++ [id]) n r else (devices, false)

/-- The instance asks once. `known` are its devices before the call. -/
def physicalDevices (known : List UInt64) (payload : List UInt8) : List UInt64 × Bool :=
  if known = [] then
    match roundTrip payload with
    | none => ([], false)
    | some r =>
      let h := readHeader r
      addPhysicalDevices [] h.count.toNat h.rest
  else (known, true)

def enumeratePhysicalDevices (known : List UInt64) (room : Option UInt32) (payload : List UInt8) :
    Answer UInt64 :=
  let devices := physicalDevices known payload
  if devices.2 then handOver room devices.1 success incomplete else { result := errorInitializationFailed }

/-- One group for each device. The function enumerates twice, and the second time the devices are known. -/
def enumeratePhysicalDeviceGroups (known : List UInt64) (room : Option UInt32) (payload : List UInt8) :
    Answer UInt64 :=
  enumeratePhysicalDevices known room payload

structure VkExtent3D where
  width : UInt32
  height : UInt32
  depth : UInt32
  deriving DecidableEq

def readExtent3D (r : Reader) : VkExtent3D × Reader :=
  let (width, r) := r.u32
  let (height, r) := r.u32
  let (depth, r) := r.u32
  ({ width, height, depth }, r)

structure VkQueueFamilyProperties where
  queueFlags : UInt32
  queueCount : UInt32
  timestampValidBits : UInt32
  minImageTransferGranularity : VkExtent3D
  deriving DecidableEq

def readQueueFamilyProperties (r : Reader) : VkQueueFamilyProperties × Reader :=
  let (queueFlags, r) := r.u32
  let (queueCount, r) := r.u32
  let (timestampValidBits, r) := r.u32
  let (minImageTransferGranularity, r) := readExtent3D r
  ({ queueFlags, queueCount, timestampValidBits, minImageTransferGranularity }, r)

def getPhysicalDeviceQueueFamilyProperties (room : Option UInt32) (payload : List UInt8) :
    Answer VkQueueFamilyProperties :=
  let lost : Answer VkQueueFamilyProperties := { count := some 0 }
  match roundTrip payload with
  | none => lost
  | some r =>
    (readCount r).values readQueueFamilyProperties 24 lost fun families => handOver room families success success

def getPhysicalDeviceQueueFamilyProperties2 (room : Option UInt32) (payload : List UInt8) :
    Answer VkQueueFamilyProperties :=
  let lost : Answer VkQueueFamilyProperties := { count := some 0 }
  match roundTrip payload with
  | none => lost
  | some r =>
    let h := readCount r
    if h.bounded && h.backs 24 then
      h.values readQueueFamilyProperties 24 lost fun families => handOver room families success success
    else lost

structure VkSparseImageFormatProperties where
  aspectMask : UInt32
  imageGranularity : VkExtent3D
  flags : UInt32
  deriving DecidableEq

def readSparseImageFormatProperties (r : Reader) : VkSparseImageFormatProperties × Reader :=
  let (aspectMask, r) := r.u32
  let (imageGranularity, r) := readExtent3D r
  let (flags, r) := r.u32
  ({ aspectMask, imageGranularity, flags }, r)

def getPhysicalDeviceSparseImageFormatProperties (room : Option UInt32) (payload : List UInt8) :
    Answer VkSparseImageFormatProperties :=
  let lost : Answer VkSparseImageFormatProperties := { count := some 0 }
  match roundTrip payload with
  | none => lost
  | some r =>
    let h := readCount r
    if h.bounded && h.backs 20 then
      h.values readSparseImageFormatProperties 20 lost fun values => handOver room values success success
    else lost

/-- The loop is the same; what differs is the array's element around the values. -/
def getPhysicalDeviceSparseImageFormatProperties2 (room : Option UInt32) (payload : List UInt8) :
    Answer VkSparseImageFormatProperties :=
  getPhysicalDeviceSparseImageFormatProperties room payload

structure VkPhysicalDeviceFragmentShadingRateKHR where
  sampleCounts : UInt32
  width : UInt32
  height : UInt32
  deriving DecidableEq

def readRate (r : Reader) : VkPhysicalDeviceFragmentShadingRateKHR × Reader :=
  let (sampleCounts, r) := r.u32
  let (width, r) := r.u32
  let (height, r) := r.u32
  ({ sampleCounts, width, height }, r)

/-- The values are copied into a second vector of the same size. -/
def getPhysicalDeviceFragmentShadingRatesKHR (room : Option UInt32) (payload : List UInt8) :
    Answer VkPhysicalDeviceFragmentShadingRateKHR :=
  let lost : Answer VkPhysicalDeviceFragmentShadingRateKHR := { result := errorInitializationFailed }
  match roundTrip payload with
  | none => lost
  | some r =>
    let h := readHeader r
    if h.bounded && h.backs 12 then
      h.values readRate 12 lost fun values =>
        if h.result ≠ success then { result := h.result }
        else { handOver room values success incomplete with allocations := [h.allocation 12] }
    else lost

/-- A name that has no room in the array of the structure ends the loop as a failed read does. -/
def readExtensionName (r : Reader) : List UInt8 × Reader :=
  match r.string with
  | (some name, r) => if name.length < kMaxExtensionNameSize then (name, r) else ([], { r with failed := true })
  | (none, r) => ([], r)

def readExtension (r : Reader) : VkExtensionProperties × Reader :=
  let (extensionName, r) := readExtensionName r
  let (specVersion, r) := r.u32
  ({ extensionName, specVersion }, r)

/-- An extension takes eight bytes if its name is empty. -/
def enumerateDeviceExtensionProperties (room : Option UInt32) (payload : List UInt8) :
    Answer VkExtensionProperties :=
  let lost : Answer VkExtensionProperties := { result := errorInitializationFailed, count := some 0 }
  match roundTrip payload with
  | none => { count := some 0 }
  | some r =>
    let h := readHeader r
    if h.result ≠ success then { result := h.result, count := some 0 }
    else if h.bounded then
      h.values readExtension 8 lost fun exts => handOver room exts success incomplete
    else lost

structure VkSparseImageMemoryRequirements where
  formatProperties : VkSparseImageFormatProperties
  imageMipTailFirstLod : UInt32
  imageMipTailSize : UInt64
  imageMipTailOffset : UInt64
  imageMipTailStride : UInt64
  deriving DecidableEq

def readSparseImageMemoryRequirements (r : Reader) : VkSparseImageMemoryRequirements × Reader :=
  let (formatProperties, r) := readSparseImageFormatProperties r
  let (imageMipTailFirstLod, r) := r.u32
  let (imageMipTailSize, r) := r.u64
  let (imageMipTailOffset, r) := r.u64
  let (imageMipTailStride, r) := r.u64
  ({ formatProperties, imageMipTailFirstLod, imageMipTailSize, imageMipTailOffset, imageMipTailStride }, r)

/-- The vector is there before the count is looked at. -/
def getImageSparseMemoryRequirements (room : Option UInt32) (payload : List UInt8) :
    Answer VkSparseImageMemoryRequirements :=
  let lost : Answer VkSparseImageMemoryRequirements := { count := some 0 }
  match roundTrip payload with
  | none => lost
  | some r =>
    let h := readCount r
    if h.bounded then
      h.values readSparseImageMemoryRequirements 48 lost fun values => handOver room values success success
    else { lost with allocations := [h.allocation 48] }

def getImageSparseMemoryRequirements2 (room : Option UInt32) (payload : List UInt8) :
    Answer VkSparseImageMemoryRequirements :=
  let lost : Answer VkSparseImageMemoryRequirements := { count := some 0 }
  match roundTrip payload with
  | none => lost
  | some r =>
    let h := readCount r
    if h.bounded then
      h.values readSparseImageMemoryRequirements 48 lost fun values => handOver room values success success
    else lost

/-- What `Reader::bytes` makes room for once it has found the bytes to be there. -/
def bytesAllocation (r : Reader) (data : List UInt8) : Allocation := ⟨data.length, 1, r.u32.2.remaining⟩

/-- `buffer` says whether there is one; the call is refused if it is missing and would be filled. -/
def getQueryPoolResults (dataSize : UInt64) (buffer : Bool) (payload : List UInt8) : Answer UInt8 :=
  if Reader.noBound < dataSize.toNat ∨ (dataSize ≠ 0 ∧ buffer = false) then { result := errorOutOfHostMemory }
  else
    match roundTrip payload with
    | none => { result := errorDeviceLost }
    | some r =>
      let (result, r) := r.i32
      match (r.bytes dataSize.toNat).1 with
      | none => { result := errorDeviceLost }
      | some data =>
        let allocations := [bytesAllocation r data]
        if data.length ≠ dataSize.toNat then { result := errorDeviceLost, allocations }
        else { result, stores := data.zipIdx, allocations }

/-- The size that the driver reports, and the data. -/
structure CacheData where
  result : UInt32
  required : UInt64
  data : Option (List UInt8)
  allocations : List Allocation

def readCacheData (r : Reader) : CacheData :=
  let (result, r) := r.i32
  let (required, r) := r.u64
  let data := (r.bytes Reader.noBound).1
  { result, required, data, allocations := data.toList.map (bytesAllocation r) }

/-- `room` is the size of the buffer, if there is one. No size is over `SIZE_MAX`, which has 64 bits. -/
def getPipelineCacheData (room : Option UInt64) (payload : List UInt8) : Answer UInt8 :=
  match roundTrip payload with
  | none => { result := errorDeviceLost }
  | some r =>
    let c := readCacheData r
    match c.data with
    | none => { result := errorDeviceLost }
    | some data =>
      { result := c.result, count := some c.required.toNat, stores := if room = none then [] else data.zipIdx,
        allocations := c.allocations }

/-! ### Objects of which the application asks for a number -/

/-- The two calls that take as many ids as they have asked for and nothing else. An id of zero becomes the
null handle. -/
def takeIds (asked lost : UInt32) (payload : List UInt8) : Answer UInt64 :=
  if kMaxArrayElements < asked.toNat then { result := errorInitializationFailed }
  else
    match roundTrip payload with
    | none => { result := lost }
    | some r =>
      let h := readHeader r
      if h.rest.ok && h.bounded && h.count = asked && h.backs 8 then
        let ids := readElements Reader.handle h.count.toNat h.rest
        { result := if ids.2.ok && ids.2.remaining = 0 then h.result else errorInitializationFailed
          stores := ids.1.zipIdx }
      else { result := errorInitializationFailed }

def createGraphicsPipelines (createInfoCount : UInt32) (payload : List UInt8) : Answer UInt64 :=
  takeIds createInfoCount errorInitializationFailed payload

def allocateDescriptorSets (descriptorSetCount : UInt32) (payload : List UInt8) : Answer UInt64 :=
  takeIds descriptorSetCount errorOutOfPoolMemory payload

def createComputePipelines (createInfoCount : UInt32) (payload : List UInt8) : Answer UInt64 :=
  match roundTrip payload with
  | none => { result := errorInitializationFailed }
  | some r =>
    let h := readHeader r
    let ids := readElements Reader.handle (min h.count.toNat createInfoCount.toNat) h.rest
    { result := if ids.2.ok && h.count = createInfoCount then h.result else errorInitializationFailed
      stores := ids.1.zipIdx }

/-- Every command buffer is an object of its own; nothing is sized from the count. -/
def allocateCommandBuffers (commandBufferCount : UInt32) (payload : List UInt8) : Answer UInt64 :=
  match roundTrip payload with
  | none => { result := errorOutOfHostMemory }
  | some r =>
    let h := readHeader r
    let ids := readElements Reader.handle (min h.count.toNat commandBufferCount.toNat) h.rest
    { result := h.result, stores := ids.1.zipIdx }

end VkRemote.Client
