import VulkanRemote.Wire.Limits

/-! The handlers whose replies carry data: query results, what a pipeline cache holds, and memory that is
downloaded. What the driver does is a parameter. -/

namespace VkRemote.Server

open Lib Wire

/-- `ServerMemory`, as far as transfers look at it. -/
structure ServerMemory where
  handle : UInt64
  owner : UInt64
  size : UInt64
  hostVisible : Bool
  hostCoherent : Bool
  mapAlignment : UInt64
  nonCoherentAtomSize : UInt64

/-- Native handles by their ids, zero for an id that names nothing. -/
structure Tables where
  devices : UInt64 → UInt64
  queryPools : UInt64 → UInt64
  pipelineCaches : UInt64 → UInt64
  memoryMetadata : UInt64 → Option ServerMemory

/-- What the driver does in one request: results, the size it puts in place of a capacity, and the bytes
that are found in a buffer or a mapping afterwards. -/
structure Driver where
  getQueryPoolResults : (device pool : UInt64) → (first count : UInt32) → (size stride : UInt64) →
    (flags : UInt32) → UInt32 × (ℕ → UInt8)
  getPipelineCacheData : (device cache capacity : UInt64) → (data : Bool) → UInt32 × UInt64 × (ℕ → UInt8)
  mapMemory : (device memory offset : UInt64) → UInt32 × (ℕ → UInt8)
  invalidateRange : (device memory offset : UInt64) → (size : Option UInt64) → UInt32

def statusOk : UInt32 := 0

def statusDecodeError : UInt32 := 2

/-- `vk_success`. -/
def success : UInt32 := 0

/-- `reply_status`. -/
def replyStatus (status : UInt32) : List UInt8 := Writer.u32 status

/-- The cap that the two handlers below put on a size that the client asks for. -/
def kMaxDataSize : ℕ := 64 * 1024 * 1024

def bufferBytes (contents : ℕ → UInt8) (size : ℕ) : List UInt8 := (List.range size).map contents

structure QueryResultsRequest where
  device : UInt64
  pool : UInt64
  first : UInt32
  count : UInt32
  size : UInt64
  stride : UInt64
  flags : UInt32
  ok : Bool

def readQueryResultsRequest (tables : Tables) (r : Reader) : QueryResultsRequest :=
  let (device, r) := r.handle
  let (pool, r) := r.handle
  let (first, r) := r.u32
  let (count, r) := r.u32
  let (size, r) := r.u64
  let (stride, r) := r.u64
  let (flags, r) := r.u32
  { device := tables.devices device, pool := tables.queryPools pool, first, count, size, stride, flags,
    ok := r.ok }

namespace QueryResultsRequest

/-- The request is not answered with `DecodeError`. -/
def Served (q : QueryResultsRequest) : Prop :=
  q.ok ∧ q.device ≠ 0 ∧ q.pool ≠ 0 ∧ q.size.toNat ≤ kMaxDataSize

instance (q : QueryResultsRequest) : Decidable q.Served := inferInstanceAs (Decidable (_ ∧ _ ∧ _ ∧ _))

end QueryResultsRequest

def handleGetQueryPoolResults (tables : Tables) (driver : Driver) (request : List UInt8) : List UInt8 :=
  let q := readQueryResultsRequest tables ⟨request, false⟩
  if q.Served then
    let results := driver.getQueryPoolResults q.device q.pool q.first q.count q.size q.stride q.flags
    Writer.u32 statusOk ++ Writer.i32 results.1 ++ Writer.bytes (bufferBytes results.2 q.size.toNat)
  else replyStatus statusDecodeError

structure CacheDataRequest where
  device : UInt64
  cache : UInt64
  capacity : UInt64
  wantData : Bool
  ok : Bool

def readCacheDataRequest (tables : Tables) (r : Reader) : CacheDataRequest :=
  let (device, r) := r.handle
  let (cache, r) := r.handle
  let (capacity, r) := r.u64
  let (wantData, r) := r.u32
  { device := tables.devices device, cache := tables.pipelineCaches cache, capacity, wantData := wantData ≠ 0,
    ok := r.ok }

namespace CacheDataRequest

def Served (q : CacheDataRequest) : Prop :=
  q.ok ∧ q.device ≠ 0 ∧ q.cache ≠ 0 ∧ q.capacity.toNat ≤ kMaxDataSize

instance (q : CacheDataRequest) : Decidable q.Served := inferInstanceAs (Decidable (_ ∧ _ ∧ _ ∧ _))

/-- The bytes that are sent: the buffer, cut to the size that the driver says. -/
def dataSize (q : CacheDataRequest) (size : UInt64) : ℕ :=
  if q.wantData then min q.capacity.toNat size.toNat else 0

end CacheDataRequest

def handleGetPipelineCacheData (tables : Tables) (driver : Driver) (request : List UInt8) : List UInt8 :=
  let q := readCacheDataRequest tables ⟨request, false⟩
  if q.Served then
    let answer := driver.getPipelineCacheData q.device q.cache q.capacity (q.wantData && q.capacity ≠ 0)
    Writer.u32 statusOk ++ Writer.i32 answer.1 ++ Writer.u64 answer.2.1 ++
      Writer.bytes (bufferBytes answer.2.2 (q.dataSize answer.2.1))
  else replyStatus statusDecodeError

def kMaxMappedChunk : ℕ := 64 * 1024 * 1024 - 64

def alignDown (value alignment : UInt64) : UInt64 := value &&& ~~~(alignment - 1)

/-- `validate_transfer`. -/
def validateTransfer (tables : Tables) (device memory offset size : UInt64) : Option ServerMemory := do
  let m ← tables.memoryMetadata memory
  if tables.devices device = 0 ∨ m.owner ≠ tables.devices device ∨ ¬ m.hostVisible ∨ size = 0 ∨
      kMaxMappedChunk < size.toNat ∨ m.size < offset ∨ m.size - offset < size then none
  else some m

/-- What the offset of a mapping is aligned to. -/
def ServerMemory.nativeAlignment (m : ServerMemory) : UInt64 :=
  if m.nonCoherentAtomSize < m.mapAlignment then m.mapAlignment else m.nonCoherentAtomSize

/-- The range that is invalidated; `none` is `VK_WHOLE_SIZE`. -/
def nativeRange (m : ServerMemory) (offset size : UInt64) : UInt64 × Option UInt64 :=
  let start := alignDown offset m.nonCoherentAtomSize
  let stop := offset + size
  if stop = m.size then (start, none)
  else (start, some (alignDown (stop + m.nonCoherentAtomSize - 1) m.nonCoherentAtomSize - start))

/-- `map_transfer` for a download: the result and the bytes, of which there are none if it failed. -/
def mapTransfer (driver : Driver) (m : ServerMemory) (offset size : UInt64) : UInt32 × List UInt8 :=
  let mapOffset := alignDown offset m.nativeAlignment
  let mapping := driver.mapMemory m.owner m.handle mapOffset
  if mapping.1 ≠ success then (mapping.1, [])
  else
    let range := nativeRange m offset size
    let result := if m.hostCoherent then success else driver.invalidateRange m.owner m.handle range.1 range.2
    if result ≠ success then (result, [])
    else (result, bufferBytes (fun i => mapping.2 ((offset - mapOffset).toNat + i)) size.toNat)

def handleDownloadMappedMemory (tables : Tables) (driver : Driver) (request : List UInt8) : List UInt8 :=
  let r : Reader := ⟨request, false⟩
  let (device, r) := r.handle
  let (memory, r) := r.handle
  let (offset, r) := r.u64
  let (size, r) := r.u64
  match if r.ok then validateTransfer tables device memory offset size else none with
  | none => replyStatus statusDecodeError
  | some m =>
    let transfer := mapTransfer driver m offset size
    Writer.u32 statusOk ++ Writer.i32 transfer.1 ++ Writer.bytes transfer.2

/-! ### How large the replies are -/

section

variable {tables : Tables} {driver : Driver} {request : List UInt8}

theorem length_bufferBytes (contents : ℕ → UInt8) (size : ℕ) : (bufferBytes contents size).length = size := by
  rw [bufferBytes, List.length_map, List.length_range]

theorem length_replyStatus (status : UInt32) : (replyStatus status).length = 4 := Writer.length_u32 status

/-- The three fields around the results take twelve bytes. -/
theorem getQueryPoolResults_fits_iff :
    (handleGetQueryPoolResults tables driver request).length ≤ kMaxPayload ↔
      ((readQueryResultsRequest tables ⟨request, false⟩).Served →
        12 + (readQueryResultsRequest tables ⟨request, false⟩).size.toNat ≤ kMaxPayload) := by
  unfold handleGetQueryPoolResults
  dsimp only
  split
  · next h =>
    simp only [List.length_append, Writer.length_u32, Writer.length_bytes, length_bufferBytes, h, forall_const]
    omega
  · next h =>
    rw [length_replyStatus]
    exact ⟨fun _ hserved => absurd hserved h, fun _ => by decide⟩

/-- What the driver leaves of the size of a cache, when it is asked for the data of a request. -/
def cacheSize (driver : Driver) (q : CacheDataRequest) : UInt64 :=
  (driver.getPipelineCacheData q.device q.cache q.capacity (q.wantData && q.capacity ≠ 0)).2.1

/-- The four fields around the data take twenty. -/
theorem getPipelineCacheData_fits_iff :
    (handleGetPipelineCacheData tables driver request).length ≤ kMaxPayload ↔
      ((readCacheDataRequest tables ⟨request, false⟩).Served →
        20 + (readCacheDataRequest tables ⟨request, false⟩).dataSize
          (cacheSize driver (readCacheDataRequest tables ⟨request, false⟩)) ≤ kMaxPayload) := by
  unfold handleGetPipelineCacheData
  dsimp only
  split
  · next h =>
    simp only [List.length_append, Writer.length_u32, Writer.length_u64, Writer.length_bytes,
      length_bufferBytes, h, forall_const, cacheSize]
    omega
  · next h =>
    rw [length_replyStatus]
    exact ⟨fun _ hserved => absurd hserved h, fun _ => by decide⟩

theorem size_le_of_validateTransfer {device memory offset size : UInt64} {m : ServerMemory}
    (h : validateTransfer tables device memory offset size = some m) : size.toNat ≤ kMaxMappedChunk := by
  obtain ⟨m', -, h⟩ := Option.bind_eq_some_iff.1 h
  split at h
  · exact nomatch h
  · next hvalid =>
    push Not at hvalid
    exact hvalid.2.2.2.2.1

theorem length_mapTransfer (driver : Driver) (m : ServerMemory) (offset size : UInt64) :
    (mapTransfer driver m offset size).2.length ≤ size.toNat := by
  unfold mapTransfer
  dsimp only
  by_cases hmap : (driver.mapMemory m.owner m.handle (alignDown offset m.nativeAlignment)).1 ≠ success
  · rw [if_pos hmap]
    exact Nat.zero_le _
  · rw [if_neg hmap]
    generalize (if m.hostCoherent = true then success else _) = result
    by_cases hresult : result ≠ success
    · rw [if_pos hresult]
      exact Nat.zero_le _
    · rw [if_neg hresult]
      exact (length_bufferBytes _ _).le

/-- A download stays under the cap, the fields around it included. -/
theorem downloadMappedMemory_fits :
    (handleDownloadMappedMemory tables driver request).length ≤ kMaxPayload := by
  unfold handleDownloadMappedMemory
  dsimp only
  split
  · rw [length_replyStatus]
    decide
  · next m hm =>
    split at hm
    · have hsize := size_le_of_validateTransfer hm
      generalize htransfer : mapTransfer driver m _ _ = transfer
      have hdata : transfer.2.length ≤ kMaxMappedChunk := htransfer ▸ (length_mapTransfer driver m _ _).trans hsize
      simp only [List.length_append, Writer.length_u32, Writer.length_bytes]
      unfold kMaxMappedChunk at hdata
      unfold kMaxPayload
      omega
    · exact nomatch hm

end
end VkRemote.Server
