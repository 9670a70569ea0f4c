import VulkanRemote.Client.Replies
import VulkanRemote.Client.Requests
import VulkanRemote.Lib.Overlay
import VulkanRemote.Server.DataReplies

/-! The two calls that bring what a driver writes into a buffer of the application's, from end to end,
against the same calls on the driver itself. -/

namespace VkRemote

open Wire Client Server Lib

/-- The reply that a call gets to read: one over the cap of `recv_message` ends the connection. -/
def received (reply : List UInt8) : Option (List UInt8) :=
  if reply.length ≤ kMaxPayload then some reply else none

/-- What a call does to its caller: the result, the count and the stores. -/
def Client.Answer.outcome {α : Type} (a : Answer α) : UInt32 × Option ℕ × List (α × ℕ) :=
  (a.result, a.count, a.stores)

/-- A connection that is gone. -/
def lost : Answer UInt8 := { result := VkResult.errorDeviceLost }

/-- The status that the server puts before its results. -/
theorem roundTrip_ok (tail : List UInt8) :
    roundTrip (Writer.u32 statusOk ++ tail) = some ⟨tail, false⟩ := by
  have hok : Connection.replyOk (Writer.u32 statusOk ++ tail) = true := rfl
  rw [roundTrip, Reader.u32_writer, if_pos hok]

theorem roundTrip_decodeError : roundTrip (replyStatus statusDecodeError) = none := by
  decide

section

variable {contents : ℕ → UInt8} {data : List UInt8}

theorem bufferBytes_eq (h : ∀ i (hi : i < data.length), contents i = data[i]) :
    bufferBytes contents data.length = data := by
  refine List.ext_getElem (length_bufferBytes _ _) fun i _ hi => ?_
  simp [bufferBytes, h i hi]

end

/-- How much a cache holds, and what a buffer of a given size gets of it. -/
structure PipelineCache where
  size : UInt64
  bytes : UInt64 → List UInt8
  length_le_capacity : ∀ capacity, (bytes capacity).length ≤ capacity.toNat
  length_le_size : ∀ capacity, (bytes capacity).length ≤ size.toNat
  whole : ∀ capacity, size ≤ capacity → (bytes capacity).length = size.toNat

namespace PipelineCache

/-- The call on the driver: `room` is the size of the buffer, if there is one. -/
def native (c : PipelineCache) : Option UInt64 → Answer UInt8
  | none => { count := some c.size.toNat }
  | some capacity =>
    { result := if (c.bytes capacity).length < c.size.toNat then VkResult.incomplete else VkResult.success
      count := some (c.bytes capacity).length
      stores := (c.bytes capacity).zipIdx }

/-- The buffers with which the call gets across the connection as it is. -/
def Carried (c : PipelineCache) : Option UInt64 → Prop
  | none => True
  | some capacity =>
    capacity.toNat ≤ kMaxDataSize ∧ 20 + (c.bytes capacity).length ≤ kMaxPayload ∧ (capacity = 0 → c.size = 0)

instance (c : PipelineCache) : (room : Option UInt64) → Decidable (c.Carried room)
  | none => inferInstanceAs (Decidable True)
  | some _ => inferInstanceAs (Decidable (_ ∧ _ ∧ (_ → _)))

theorem lost_ne_native (c : PipelineCache) (room : Option UInt64) :
    lost.outcome ≠ (c.native room).outcome := by
  cases room <;> exact fun h => nomatch congrArg (fun o => o.2.1) h

end PipelineCache

/-- The driver answers for a cache as the cache says. -/
structure Server.Driver.Holds (driver : Driver) (device cache : UInt64) (c : PipelineCache) : Prop where
  size : ∀ capacity, let answer := driver.getPipelineCacheData device cache capacity false
    answer.1 = VkResult.success ∧ answer.2.1 = c.size
  data : ∀ capacity, let answer := driver.getPipelineCacheData device cache capacity true
    answer.1 = (c.native (some capacity)).result ∧ answer.2.1.toNat = (c.bytes capacity).length ∧
      ∀ i (hi : i < (c.bytes capacity).length), answer.2.2 i = (c.bytes capacity)[i]

/-- `GetPipelineCacheData` on both sides of the connection. -/
def cacheDataCall (tables : Tables) (driver : Driver) (device cache : UInt64) (room : Option UInt64) :
    Answer UInt8 :=
  let request := getPipelineCacheDataRequest device cache room
  match received (handleGetPipelineCacheData tables driver request.payload) with
  | none => lost
  | some reply => getPipelineCacheData room reply

section

variable {tables : Tables} {driver : Driver} {device cache : UInt64} {room : Option UInt64}
variable {c : PipelineCache}

theorem readCacheDataRequest_request :
    readCacheDataRequest tables ⟨(getPipelineCacheDataRequest device cache room).payload, false⟩ =
      { device := tables.devices device, cache := tables.pipelineCaches cache, capacity := room.getD 0,
        wantData := room.isSome, ok := true } := by
  unfold readCacheDataRequest getPipelineCacheDataRequest
  simp only [List.append_assoc, Reader.u64_writer, Reader.u32_writer_last]
  cases room <;> simp [Reader.ok]

/-- What the client makes of a reply that it gets. -/
theorem getPipelineCacheData_reply {result : UInt32} {required : UInt64} {data : List UInt8}
    (hdata : data.length < 2 ^ 32) :
    (getPipelineCacheData room
      (Writer.u32 statusOk ++ Writer.i32 result ++ Writer.u64 required ++ Writer.bytes data)).outcome =
      (result, some required.toNat, if room = none then [] else data.zipIdx) := by
  have hread : Reader.bytes Reader.noBound ⟨Writer.bytes data, false⟩ = (some data, ⟨[], false⟩) :=
    Reader.bytes_writer_last hdata (Nat.le_sub_one_of_lt hdata)
  simp only [getPipelineCacheData, List.append_assoc, roundTrip_ok, readCacheData,
    Reader.u32_writer, Reader.u64_writer, hread, Answer.outcome]

/-- The request that the server refuses. -/
theorem cacheDataCall_of_large {capacity : UInt64} (h : kMaxDataSize < capacity.toNat) :
    cacheDataCall tables driver device cache (some capacity) = lost := by
  have hrefused : handleGetPipelineCacheData tables driver
      (getPipelineCacheDataRequest device cache (some capacity)).payload = replyStatus statusDecodeError := by
    unfold handleGetPipelineCacheData
    dsimp only
    rw [readCacheDataRequest_request, if_neg fun hserved => absurd hserved.2.2.2 (not_le.2 h)]
  have hreceived : received (replyStatus statusDecodeError) = some (replyStatus statusDecodeError) := by
    rw [received, if_pos]
    rw [length_replyStatus]
    decide
  simp only [cacheDataCall, hrefused, hreceived, getPipelineCacheData, roundTrip_decodeError]
  rfl

/-- The request that it serves, with what the driver says. -/
theorem handleGetPipelineCacheData_served (driver : Driver) (room : Option UInt64)
    (hdevice : tables.devices device ≠ 0) (hcache : tables.pipelineCaches cache ≠ 0)
    (hroom : (room.getD 0).toNat ≤ kMaxDataSize) :
    handleGetPipelineCacheData tables driver (getPipelineCacheDataRequest device cache room).payload =
      let answer := driver.getPipelineCacheData (tables.devices device) (tables.pipelineCaches cache)
        (room.getD 0) (room.isSome && room.getD 0 ≠ 0)
      let data := bufferBytes answer.2.2 (if room.isSome then min (room.getD 0).toNat answer.2.1.toNat else 0)
      Writer.u32 statusOk ++ Writer.i32 answer.1 ++ Writer.u64 answer.2.1 ++ Writer.bytes data := by
  unfold handleGetPipelineCacheData
  dsimp only
  rw [readCacheDataRequest_request, if_pos ⟨rfl, hdevice, hcache, hroom⟩]
  rfl

section

variable {result : UInt32} {required : UInt64} {data : List UInt8}

/-- The four fields around the data take twenty bytes. -/
theorem received_cacheData : received
    (Writer.u32 statusOk ++ Writer.i32 result ++ Writer.u64 required ++ Writer.bytes data) =
      if 20 + data.length ≤ kMaxPayload then
        some (Writer.u32 statusOk ++ Writer.i32 result ++ Writer.u64 required ++ Writer.bytes data)
      else none := by
  have hlength : (Writer.u32 statusOk ++ Writer.i32 result ++ Writer.u64 required ++
      Writer.bytes data).length = 20 + data.length := by
    simp only [List.length_append, Writer.length_u32, Writer.length_u64, Writer.length_bytes]
    omega
  rw [received, hlength]

/-- The call is as good as its reply. -/
theorem cacheDataCall_of_reply
    (h : handleGetPipelineCacheData tables driver (getPipelineCacheDataRequest device cache room).payload =
      Writer.u32 statusOk ++ Writer.i32 result ++ Writer.u64 required ++ Writer.bytes data) :
    (cacheDataCall tables driver device cache room).outcome =
      if 20 + data.length ≤ kMaxPayload then
        (result, some required.toNat, if room = none then [] else data.zipIdx)
      else lost.outcome := by
  simp only [cacheDataCall, h, received_cacheData]
  by_cases hfits : 20 + data.length ≤ kMaxPayload
  · have hsize : data.length < 2 ^ 32 := by
      unfold kMaxPayload at hfits
      omega
    simp only [if_pos hfits, getPipelineCacheData_reply hsize]
  · simp only [if_neg hfits]

end

section

variable (hdevice : tables.devices device ≠ 0) (hcache : tables.pipelineCaches cache ≠ 0)
variable (hold : driver.Holds (tables.devices device) (tables.pipelineCaches cache) c)

include hdevice hcache hold

/-- A query for the size, and also what the server makes of a buffer of no bytes. -/
theorem cacheDataCall_size (hroom : room.getD 0 = 0) :
    (cacheDataCall tables driver device cache room).outcome = (VkResult.success, some c.size.toNat, []) := by
  have hnone : (room.getD 0).toNat ≤ kMaxDataSize := by
    rw [hroom]
    decide
  have hserved := handleGetPipelineCacheData_served driver room hdevice hcache hnone
  obtain ⟨hresult, hsize⟩ := hold.size 0
  simp only [hroom, ne_eq, not_true_eq_false, decide_false, Bool.and_false, hresult, hsize] at hserved
  rw [cacheDataCall_of_reply hserved]
  simp [bufferBytes, kMaxPayload]

/-- A buffer that is no larger than the server allows. -/
theorem cacheDataCall_data {capacity : UInt64} (hpos : capacity ≠ 0) (hcap : capacity.toNat ≤ kMaxDataSize) :
    (cacheDataCall tables driver device cache (some capacity)).outcome =
      if 20 + (c.bytes capacity).length ≤ kMaxPayload then (c.native (some capacity)).outcome
      else lost.outcome := by
  have hserved := handleGetPipelineCacheData_served driver (some capacity) hdevice hcache hcap
  obtain ⟨hresult, hsize, hbytes⟩ := hold.data capacity
  have hwant : decide (capacity ≠ 0) = true := decide_eq_true hpos
  simp only [Option.isSome_some, if_true, Option.getD_some, hwant, Bool.and_self, hresult, hsize,
    Nat.min_eq_right (c.length_le_capacity capacity), bufferBytes_eq hbytes] at hserved
  rw [cacheDataCall_of_reply hserved, hsize]
  rfl

/-- The server asks for the size where the application has a buffer of no bytes. -/
theorem cacheDataCall_empty_iff :
    (cacheDataCall tables driver device cache (some 0)).outcome = (c.native (some 0)).outcome ↔ c.size = 0 := by
  have hbytes : c.bytes 0 = [] := List.length_eq_zero_iff.1 (Nat.le_zero.1 (c.length_le_capacity 0))
  rw [cacheDataCall_size hdevice hcache hold rfl]
  constructor
  · intro h
    have hcount : some c.size.toNat = some (c.bytes 0).length := congrArg (fun o => o.2.1) h
    rw [hbytes] at hcount
    exact UInt64.toNat_inj.1 (Option.some.inj hcount)
  · intro h
    simp [PipelineCache.native, Answer.outcome, hbytes, h]

/-- The call answers like the driver exactly where it carries the buffer. -/
theorem cacheDataCall_outcome_iff :
    (cacheDataCall tables driver device cache room).outcome = (c.native room).outcome ↔ c.Carried room := by
  cases room with
  | none =>
    rw [cacheDataCall_size hdevice hcache hold rfl]
    exact iff_true_intro rfl
  | some capacity =>
    by_cases hcap : capacity.toNat ≤ kMaxDataSize
    · by_cases hzero : capacity = 0
      · subst hzero
        have hfits : 20 + (c.bytes 0).length ≤ kMaxPayload :=
          (Nat.add_le_add_left (c.length_le_capacity 0) 20).trans (by decide)
        rw [cacheDataCall_empty_iff hdevice hcache hold]
        exact ⟨fun h => ⟨hcap, hfits, fun _ => h⟩, fun h => h.2.2 rfl⟩
      · rw [cacheDataCall_data hdevice hcache hold hzero hcap]
        by_cases hfits : 20 + (c.bytes capacity).length ≤ kMaxPayload
        · rw [if_pos hfits]
          exact iff_of_true rfl ⟨hcap, hfits, fun h => absurd h hzero⟩
        · rw [if_neg hfits]
          exact iff_of_false (c.lost_ne_native _) fun h => hfits h.2.1
    · rw [cacheDataCall_of_large (not_le.1 hcap)]
      exact iff_of_false (c.lost_ne_native _) fun h => hcap h.1

end

/-- A cache of four bytes, and a server on whose driver it is the only one. -/
def fourBytes : PipelineCache where
  size := 4
  bytes capacity := [1, 2, 3, 4].take capacity.toNat
  length_le_capacity capacity := List.length_take_le _ _
  length_le_size capacity := List.length_take_le' _ _
  whole capacity h := by
    have hfour : 4 ≤ capacity.toNat := UInt64.le_iff_toNat_le.1 h
    rw [List.take_of_length_le hfour]
    rfl

def onlyObjects : Tables where
  devices id := if id = 1 then 10 else 0
  queryPools id := if id = 2 then 20 else 0
  pipelineCaches id := if id = 3 then 30 else 0
  memoryMetadata _ := none

def fourByteDriver : Driver where
  getQueryPoolResults _ _ _ _ _ _ _ := (0, fun _ => 0)
  getPipelineCacheData _ _ capacity data :=
    let bytes := fourBytes.bytes capacity
    if data then ((fourBytes.native (some capacity)).result, UInt64.ofNat bytes.length, fun i => bytes.getD i 0)
    else (VkResult.success, 4, fun _ => 0)
  mapMemory _ _ _ := (0, fun _ => 0)
  invalidateRange _ _ _ _ := 0

theorem fourByteDriver_holds (device cache : UInt64) : fourByteDriver.Holds device cache fourBytes where
  size _ := ⟨rfl, rfl⟩
  data capacity := by
    have hlength : (fourBytes.bytes capacity).length < 2 ^ 64 :=
      (fourBytes.length_le_size capacity).trans_lt (by decide)
    refine ⟨rfl, UInt64.toNat_ofNat_of_lt' hlength, fun i hi => ?_⟩
    change (fourBytes.bytes capacity).getD i 0 = _
    rw [List.getD_eq_getElem?_getD, List.getElem?_eq_getElem hi, Option.getD_some]

/-- A buffer of no bytes: the driver reports an incomplete answer of no bytes, the call a complete one of
four. -/
theorem cacheDataCall_empty_buffer :
    fourByteDriver.Holds 10 30 fourBytes ∧
      (cacheDataCall onlyObjects fourByteDriver 1 3 (some 0)).outcome = (VkResult.success, some 4, []) ∧
      (fourBytes.native (some 0)).outcome = (VkResult.incomplete, some 0, []) ∧
      ¬ ∀ room, (cacheDataCall onlyObjects fourByteDriver 1 3 room).outcome = (fourBytes.native room).outcome := by
  have hcall : (cacheDataCall onlyObjects fourByteDriver 1 3 (some 0)).outcome =
      (VkResult.success, some 4, []) := cacheDataCall_size (by decide) (by decide) (fourByteDriver_holds _ _) rfl
  refine ⟨fourByteDriver_holds 10 30, hcall, by decide, fun h => ?_⟩
  have hzero := hcall.symm.trans (h (some 0))
  revert hzero
  decide

/-- Room for one byte of four, and for none. -/
theorem cacheDataCall_outcome_iff_one :
    (cacheDataCall onlyObjects fourByteDriver 1 3 (some 1)).outcome = (VkResult.incomplete, some 1, [(1, 0)]) ∧
      (cacheDataCall onlyObjects fourByteDriver 1 3 (some 0)).outcome ≠ (fourBytes.native (some 0)).outcome := by
  have hcall : ∀ room, (cacheDataCall onlyObjects fourByteDriver 1 3 room).outcome = (fourBytes.native room).outcome ↔
      fourBytes.Carried room := fun room => cacheDataCall_outcome_iff (by decide) (by decide) (fourByteDriver_holds _ _)
  exact ⟨(hcall (some 1)).2 (by decide), mt (hcall (some 0)).1 (by decide)⟩

end

/-- `GetQueryPoolResults` on both sides of the connection; the application has a buffer. -/
def queryResultsCall (tables : Tables) (driver : Driver) (device pool : UInt64) (first count : UInt32)
    (size stride : UInt64) (flags : UInt32) : Answer UInt8 :=
  match getQueryPoolResultsRequest device pool first count size stride flags with
  | none => { result := VkResult.errorOutOfHostMemory }
  | some request =>
    match received (handleGetQueryPoolResults tables driver request.payload) with
    | none => lost
    | some reply => getQueryPoolResults size true reply

/-- A buffer after the stores of a call. -/
def Client.Answer.buffer (a : Answer UInt8) (before : ℕ → UInt8) : ℕ → UInt8 :=
  storeAll before (a.stores.map Prod.swap)

/-- What a buffer of a call may hold before it, if the call leaves it as the driver would: zeros wherever
nothing is written, as the server's vector does, and where no reply comes back already what is written. -/
def KeepsBuffer (size : UInt64) (before : ℕ → UInt8) (writes : ℕ → Option UInt8) : Prop :=
  if 12 + size.toNat ≤ kMaxPayload then ∀ i < size.toNat, writes i = none → before i = 0
  else ∀ i < size.toNat, ∀ b ∈ writes i, before i = b

section

variable {tables : Tables} {driver : Driver} {device pool : UInt64} {first count : UInt32}
variable {size stride : UInt64} {flags : UInt32}

theorem readQueryResultsRequest_request {request : Frame}
    (h : getQueryPoolResultsRequest device pool first count size stride flags = some request) :
    readQueryResultsRequest tables ⟨request.payload, false⟩ =
      { device := tables.devices device, pool := tables.queryPools pool, first, count, size, stride, flags,
        ok := true } := by
  unfold getQueryPoolResultsRequest at h
  split at h
  · exact nomatch h
  · obtain rfl := Option.some.inj h
    unfold readQueryResultsRequest
    simp only [List.append_assoc, Reader.u64_writer, Reader.u32_writer, Reader.u32_writer_last]
    rfl

/-- A reply of results as large as the buffer. -/
theorem getQueryPoolResults_reply {result : UInt32} {data : List UInt8} (hdata : data.length = size.toNat)
    (hsize : size.toNat < 2 ^ 32) :
    (getQueryPoolResults size true (Writer.u32 statusOk ++ Writer.i32 result ++ Writer.bytes data)).outcome =
      (result, none, data.zipIdx) := by
  have hguard : ¬ (Reader.noBound < size.toNat ∨ size ≠ 0 ∧ true = false) := by
    rintro (hlarge | ⟨-, hbuffer⟩)
    · exact absurd hlarge (not_lt.2 (Nat.le_sub_one_of_lt hsize))
    · exact nomatch hbuffer
  have hread := Reader.bytes_writer_last (hdata.trans_lt hsize) hdata.le
  simp only [getQueryPoolResults, if_neg hguard, List.append_assoc, roundTrip_ok, Reader.u32_writer, hread,
    hdata, ne_eq, not_true_eq_false, if_false, Answer.outcome]

section

variable (hdevice : tables.devices device ≠ 0) (hpool : tables.queryPools pool ≠ 0)
variable (hsize : size.toNat ≤ kMaxDataSize)

include hdevice hpool hsize

theorem handleGetQueryPoolResults_served (driver : Driver) {request : Frame}
    (h : getQueryPoolResultsRequest device pool first count size stride flags = some request) :
    handleGetQueryPoolResults tables driver request.payload =
      let results := driver.getQueryPoolResults (tables.devices device) (tables.queryPools pool) first count
        size stride flags
      Writer.u32 statusOk ++ Writer.i32 results.1 ++ Writer.bytes (bufferBytes results.2 size.toNat) := by
  unfold handleGetQueryPoolResults
  dsimp only
  rw [readQueryResultsRequest_request h, if_pos ⟨rfl, hdevice, hpool, hsize⟩]

/-- The stores are the server's buffer, unless the reply is over the cap. -/
theorem queryResultsCall_stores :
    (queryResultsCall tables driver device pool first count size stride flags).stores =
      if 12 + size.toNat ≤ kMaxPayload then
        (bufferBytes (driver.getQueryPoolResults (tables.devices device) (tables.queryPools pool) first count
          size stride flags).2 size.toNat).zipIdx
      else [] := by
  have hword : size.toNat < 2 ^ 32 := hsize.trans_lt (by decide)
  obtain ⟨request, hrequest⟩ : ∃ request, getQueryPoolResultsRequest device pool first count size stride
      flags = some request := ⟨_, if_neg (not_le.2 hword)⟩
  have hhandled := handleGetQueryPoolResults_served hdevice hpool hsize driver hrequest
  generalize hresults : driver.getQueryPoolResults (tables.devices device) (tables.queryPools pool) first
    count size stride flags = results at hhandled ⊢
  have hlength : (Writer.u32 statusOk ++ Writer.i32 results.1 ++
      Writer.bytes (bufferBytes results.2 size.toNat)).length = 12 + size.toNat := by
    simp only [List.length_append, Writer.length_u32, Writer.length_bytes, length_bufferBytes]
    omega
  simp only [queryResultsCall, hrequest, hhandled, received, hlength]
  by_cases hfits : 12 + size.toNat ≤ kMaxPayload
  · simp only [if_pos hfits]
    exact congrArg (fun o => o.2.2) (getQueryPoolResults_reply (length_bufferBytes _ _) hword)
  · simp only [if_neg hfits]
    rfl

end

/-- The buffer that the application had is kept where the driver writes nothing, and the bytes that it
writes arrive, exactly for these buffers. -/
theorem queryResultsCall_keeps_iff {before : ℕ → UInt8} {writes : ℕ → Option UInt8}
    (hdevice : tables.devices device ≠ 0) (hpool : tables.queryPools pool ≠ 0)
    (hsize : size.toNat ≤ kMaxDataSize)
    (hwrites : ∀ i < size.toNat, (driver.getQueryPoolResults (tables.devices device) (tables.queryPools pool)
      first count size stride flags).2 i = (writes i).getD 0) :
    (∀ i < size.toNat, (queryResultsCall tables driver device pool first count size stride flags).buffer
      before i = (writes i).getD (before i)) ↔ KeepsBuffer size before writes := by
  unfold Answer.buffer KeepsBuffer
  rw [queryResultsCall_stores hdevice hpool hsize]
  by_cases hfits : 12 + size.toNat ≤ kMaxPayload
  · rw [if_pos hfits, if_pos hfits]
    refine forall₂_congr fun i hi => ?_
    rw [storeAll_zipIdx, if_pos (Nat.zero_le i), bufferBytes, List.getElem?_map, Nat.sub_zero,
      List.getElem?_range hi, Option.map_some, Option.getD_some, hwrites i hi]
    cases writes i with
    | none => exact ⟨fun h _ => h.symm, fun h => (h rfl).symm⟩
    | some b => exact iff_of_true rfl fun h => absurd h (Option.some_ne_none b)
  · rw [if_neg hfits, if_neg hfits]
    refine forall₂_congr fun i hi => ?_
    cases hb : writes i with
    | none => simp [storeAll]
    | some b => simp [storeAll]

end

/-- One query of a pool: its values, and whether they are there. -/
structure Query where
  values : List UInt64
  available : Bool

def VK_QUERY_RESULT_64_BIT : UInt32 := 1

def VK_QUERY_RESULT_WAIT_BIT : UInt32 := 2

def VK_QUERY_RESULT_WITH_AVAILABILITY_BIT : UInt32 := 4

def VK_QUERY_RESULT_PARTIAL_BIT : UInt32 := 8

namespace Query

/-- The integers of one query, `none` where the driver writes none. -/
def words (flags : UInt32) (q : Query) : List (Option UInt64) :=
  let written := q.available || flags &&& (VK_QUERY_RESULT_WAIT_BIT ||| VK_QUERY_RESULT_PARTIAL_BIT) ≠ 0
  q.values.map (fun v => if written then some v else none) ++
    if flags &&& VK_QUERY_RESULT_WITH_AVAILABILITY_BIT ≠ 0 then [some (if q.available then 1 else 0)] else []

def width (flags : UInt32) : ℕ := if flags &&& VK_QUERY_RESULT_64_BIT ≠ 0 then 8 else 4

/-- The bytes of one query from its place on. -/
def bytes (flags : UInt32) (place : ℕ) (q : Query) : List (ℕ × UInt8) :=
  (words flags q).zipIdx.flatMap fun w =>
    w.1.elim [] fun v =>
      ((toLE (width flags) v.toNat).zipIdx (place + w.2 * width flags)).map Prod.swap

/-- What the driver writes for the queries of a range, each a stride behind the one before. -/
def writes (flags : UInt32) (stride : ℕ) (queries : List Query) : ℕ → Option UInt8 :=
  putAll (fun _ => none) (queries.zipIdx.flatMap fun q => bytes flags (q.2 * stride) q.1)

end Query

def VK_NOT_READY : UInt32 := 1

/-- A driver whose queries are these, and which does not wait. -/
def queryDriver (queries : List Query) : Driver :=
  { fourByteDriver with
    getQueryPoolResults := fun _ _ _ _ _ stride flags =>
      (if queries.all Query.available then VkResult.success else VK_NOT_READY,
       fun i => (Query.writes flags stride.toNat queries i).getD 0) }

/-- Two queries of 64 bits, sixteen bytes apart, the second of them not available. -/
def twoQueries : List Query := [⟨[5], true⟩, ⟨[9], false⟩]

/-- The gap behind the first result and the place of the second are zeros after the call. -/
theorem queryResultsCall_zeroes :
    Query.writes 1 16 twoQueries 8 = none ∧ Query.writes 1 16 twoQueries 16 = none ∧
      ¬ ∀ i < 24, (queryResultsCall onlyObjects (queryDriver twoQueries) 1 2 0 2 24 16 1).buffer (fun _ => 7) i =
        (Query.writes 1 16 twoQueries i).getD 7 := by
  refine ⟨by decide, by decide, fun h => ?_⟩
  have hgap := h 8 (by decide)
  revert hgap
  decide

/-- A buffer that is cleared where nothing is written. -/
def clearedBuffer (i : ℕ) : UInt8 := if Query.writes 1 16 twoQueries i = none then 0 else 7

/-- Such a buffer is as the driver would leave it, one full of sevens is not. -/
theorem queryResultsCall_keeps_iff_cleared :
    (∀ i < 24, (queryResultsCall onlyObjects (queryDriver twoQueries) 1 2 0 2 24 16 1).buffer clearedBuffer i =
      (Query.writes 1 16 twoQueries i).getD (clearedBuffer i)) ∧
    ¬ ∀ i < 24, (queryResultsCall onlyObjects (queryDriver twoQueries) 1 2 0 2 24 16 1).buffer (fun _ => 7) i =
      (Query.writes 1 16 twoQueries i).getD 7 := by
  have hcall : ∀ before, (∀ i < (24 : UInt64).toNat,
      (queryResultsCall onlyObjects (queryDriver twoQueries) 1 2 0 2 24 16 1).buffer before i =
        (Query.writes 1 16 twoQueries i).getD (before i)) ↔ KeepsBuffer 24 before (Query.writes 1 16 twoQueries) :=
    fun before => queryResultsCall_keeps_iff (by decide) (by decide) (by decide) fun _ _ => rfl
  have hfits : 12 + (24 : UInt64).toNat ≤ kMaxPayload := by decide
  refine ⟨(hcall clearedBuffer).2 ?_, fun h => ?_⟩
  · rw [KeepsBuffer, if_pos hfits]
    exact fun i _ hi => if_pos hi
  · have hkeeps := (hcall fun _ => 7).1 h
    rw [KeepsBuffer, if_pos hfits] at hkeeps
    cases hkeeps 8 (by decide) (by decide)

end VkRemote
