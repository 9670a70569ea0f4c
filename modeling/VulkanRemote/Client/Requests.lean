import VulkanRemote.Client.Transfer
import VulkanRemote.Marshal.Resources
import VulkanRemote.Wire.Limits

/-! The requests with data in them that the client sends: chunks of mapped memory, shader code, and what a
pipeline cache starts with. The loops are those of the transfers, with what they send as the result. -/

namespace VkRemote.Client

open Lib Wire Marshal

/-- `count` bytes of the shadow from `start`. -/
def MappedRange.shadowBytes (m : MappedRange) (start count : ℕ) : List UInt8 :=
  (List.range count).map fun i => m.shadow (start + i)

/-- The device, the memory and the chunk that it is about. -/
def chunkHeader (device : UInt64) (m : MappedRange) (start chunk : ℕ) : List UInt8 :=
  Writer.handle device ++ Writer.handle (UInt64.ofNat m.memoryId) ++ Writer.u64 (UInt64.ofNat (m.offset + start)) ++
    Writer.u64 (UInt64.ofNat chunk)

def flushRequest (device : UInt64) (m : MappedRange) (start chunk : ℕ) : Frame :=
  ⟨.flushMappedMemory, chunkHeader device m start chunk ++ Writer.bytes (m.shadowBytes start chunk)⟩

def downloadRequest (device : UInt64) (m : MappedRange) (start chunk : ℕ) : Frame :=
  ⟨.downloadMappedMemory, chunkHeader device m start chunk⟩

namespace Transfer

section

variable (device : UInt64)

def publishChunkRequests (t : Transfer) (stores : Stores) (done stop : ℕ) : ℕ → List Frame
  | 0 => []
  | fuel + 1 =>
    if done < stop then
      let chunk := min maxMappedChunk (stop - done)
      flushRequest device t.m done chunk ::
        match t.upload done chunk with
        | (t', true) =>
          publishChunkRequests ((t'.storeAll (stores done)).settle done chunk) stores (done + chunk) stop fuel
        | (_, false) => []
    else []

def publishRunRequests (t : Transfer) (stores : Stores) (start : ℕ) : ℕ → List Frame
  | 0 => []
  | fuel + 1 =>
    if start < t.m.size then
      let first := t.m.skipClean start
      if first = t.m.size then []
      else
        let stop := t.m.runEnd t.m.size (first + 1)
        publishChunkRequests device t stores first stop t.m.size ++
          match t.publishChunks stores first stop t.m.size with
          | (t', true) => publishRunRequests t' stores stop fuel
          | (_, false) => []
    else []

def publishRequests (t : Transfer) (stores : Stores) : List Frame :=
  if t.m.live then publishRunRequests device t stores 0 t.m.size else []

def acquireChunkRequests (t : Transfer) (done : ℕ) : ℕ → List Frame
  | 0 => []
  | fuel + 1 =>
    if done < t.m.size then
      let chunk := min maxMappedChunk (t.m.size - done)
      downloadRequest device t.m done chunk ::
        match t.download with
        | (t', true) => acquireChunkRequests (t'.merge done chunk) (done + chunk) fuel
        | (_, false) => []
    else []

def acquireRequests (ids : Option (Finset MemoryId)) (t : Transfer) : List Frame :=
  if t.m.live ∧ ∀ s ∈ ids, t.m.memoryId ∈ s then acquireChunkRequests device t 0 t.m.size else []

def flushRequests (t : Transfer) (atom : Option ℕ) (start size done : ℕ) : ℕ → List Frame
  | 0 => []
  | fuel + 1 =>
    if done < size then
      match chunkSize atom (size - done) with
      | none => []
      | some chunk =>
        flushRequest device t.m (start + done) chunk ::
          match t.upload (start + done) chunk with
          | (t', true) => flushRequests t' atom start size (done + chunk) fuel
          | (_, false) => []
    else []

def downloadRequests (t : Transfer) (atom : Option ℕ) (start size done : ℕ) : ℕ → List Frame
  | 0 => []
  | fuel + 1 =>
    if done < size then
      match chunkSize atom (size - done) with
      | none => []
      | some chunk =>
        downloadRequest device t.m (start + done) chunk ::
          match t.download with
          | (t', true) =>
            downloadRequests (t'.overwrite (start + done) chunk) atom start size (done + chunk) fuel
          | (_, false) => []
    else []

end
end Transfer

namespace MappedDevice

/-- What an operation sends, next to the operation. -/
structure Sending where
  op : Op
  requests : MappedDevice → List Outcome → List Frame

def requestsAt (k : ℕ) (f : Transfer → List Frame) (d : MappedDevice) (net : List Outcome) : List Frame :=
  match d.mapped[k]? with
  | none => []
  | some m => f { m := m, server := d.server m.memoryId, net := net }

/-- As `inOrder`: nothing is sent behind an operation that fails. -/
def requestsInOrder : List Sending → MappedDevice → List Outcome → List Frame
  | [], _, _ => []
  | s :: ss, d, net =>
    s.requests d net ++
      let a := s.op d net
      if a.ok then requestsInOrder ss a.device a.net else []

section

variable (device : UInt64)

def publishCoherentRequests (stores : MemoryId → Stores) (d : MappedDevice) (net : List Outcome) :
    List Frame :=
  requestsInOrder ((List.range d.mapped.length).map fun k =>
    ⟨runAt k fun t => t.publishMapping (stores t.m.memoryId),
      requestsAt k fun t => t.publishRequests device (stores t.m.memoryId)⟩) d net

def acquireCoherentRequests (ids : Option (Finset MemoryId)) (d : MappedDevice) (net : List Outcome) :
    List Frame :=
  requestsInOrder ((List.range d.mapped.length).map fun k =>
    ⟨runAt k (Transfer.acquireMapping ids), requestsAt k (Transfer.acquireRequests device ids)⟩) d net

def flushRangeRequests (r : MemoryRange) (d : MappedDevice) (net : List Outcome) : List Frame :=
  match d.resolveRange r with
  | none => []
  | some (k, start, size) =>
    requestsAt k (fun t => Transfer.flushRequests device t (d.atomSize r.memory) start size 0 size) d net

def flushMappedRequests (ranges : List MemoryRange) : MappedDevice → List Outcome → List Frame :=
  requestsInOrder (ranges.map fun r => ⟨flushRange r, flushRangeRequests device r⟩)

def downloadRangeRequests (r : MemoryRange) (d : MappedDevice) (net : List Outcome) : List Frame :=
  match d.resolveRange r with
  | none => []
  | some (k, start, size) =>
    requestsAt k (fun t => Transfer.downloadRequests device t (d.atomSize r.memory) start size 0 size) d net

def downloadMappedRequests (ranges : List MemoryRange) : MappedDevice → List Outcome → List Frame :=
  requestsInOrder (ranges.map fun r => ⟨downloadRange r, downloadRangeRequests device r⟩)

end
end MappedDevice

section

variable (device : UInt64)

/-- `CreateShaderModule`; nothing is sent where the encoder refuses. -/
def createShaderModuleRequest (info : VkShaderModuleCreateInfo) : Option Frame :=
  (writeShaderModuleCreateInfo info).map fun bs => ⟨.createShaderModule, Writer.handle device ++ bs⟩

/-- `CreatePipelineCache`. -/
def createPipelineCacheRequest (info : VkPipelineCacheCreateInfo) : Frame :=
  ⟨.createPipelineCache, Writer.handle device ++ writePipelineCacheCreateInfo info⟩

/-- `GetQueryPoolResults`; more than 32 bits of data are refused. -/
def getQueryPoolResultsRequest (pool : UInt64) (firstQuery queryCount : UInt32) (dataSize stride : UInt64)
    (flags : UInt32) : Option Frame :=
  if 2 ^ 32 ≤ dataSize.toNat then none
  else some ⟨.getQueryPoolResults, Writer.handle device ++ Writer.handle pool ++ Writer.u32 firstQuery ++
    Writer.u32 queryCount ++ Writer.u64 dataSize ++ Writer.u64 stride ++ Writer.u32 flags⟩

/-- `GetPipelineCacheData`; `none` asks for the size. -/
def getPipelineCacheDataRequest (cache : UInt64) (dataSize : Option UInt64) : Frame :=
  ⟨.getPipelineCacheData, Writer.handle device ++ Writer.handle cache ++ Writer.u64 (dataSize.getD 0) ++
    Writer.u32 (if dataSize.isSome then 1 else 0)⟩

end
/-! ### How large the requests are -/

section

variable {device : UInt64}

theorem length_flushRequest (m : MappedRange) (start chunk : ℕ) :
    (flushRequest device m start chunk).payload.length = 36 + chunk := by
  simp [flushRequest, chunkHeader, MappedRange.shadowBytes]
  omega

theorem length_downloadRequest (m : MappedRange) (start chunk : ℕ) :
    (downloadRequest device m start chunk).payload.length = 32 := by
  simp [downloadRequest, chunkHeader]

/-- A chunk and the fields around it stay under the cap. -/
theorem flushRequest_accepted {m : MappedRange} {start chunk : ℕ} (h : chunk ≤ maxMappedChunk) :
    (flushRequest device m start chunk).Accepted := by
  rw [Frame.accepted_iff, length_flushRequest]
  unfold maxMappedChunk at h
  unfold kMaxPayload
  omega

theorem downloadRequest_accepted (m : MappedRange) (start chunk : ℕ) :
    (downloadRequest device m start chunk).Accepted := by
  rw [Frame.accepted_iff, length_downloadRequest]
  decide

/-- All of these frames are accepted. -/
def AllAccepted (fs : List Frame) : Prop := ∀ f ∈ fs, f.Accepted

theorem allAccepted_nil : AllAccepted [] := by
  simp [AllAccepted]

theorem allAccepted_append {fs gs : List Frame} : AllAccepted (fs ++ gs) ↔ AllAccepted fs ∧ AllAccepted gs := by
  simp only [AllAccepted, List.mem_append]
  constructor
  · exact fun h => ⟨fun f hf => h f (.inl hf), fun f hf => h f (.inr hf)⟩
  · rintro ⟨h, h'⟩ f (hf | hf)
    exacts [h f hf, h' f hf]

theorem AllAccepted.cons {f : Frame} {fs : List Frame} (h : f.Accepted) (h' : AllAccepted fs) :
    AllAccepted (f :: fs) := by
  intro g hg
  rcases List.mem_cons.1 hg with rfl | hg
  exacts [h, h' g hg]

namespace Transfer

theorem chunkSize_le {atom : Option ℕ} {left chunk : ℕ} (h : chunkSize atom left = some chunk) :
    chunk ≤ maxMappedChunk := by
  unfold chunkSize at h
  dsimp only at h
  split at h
  · split at h
    · exact nomatch h
    · split at h
      · exact nomatch h
      · have hcut := Option.some.inj h
        omega
  · exact Option.some.inj h ▸ Nat.min_le_left _ _

theorem publishChunkRequests_accepted (stores : Stores) (t : Transfer) (done stop fuel : ℕ) :
    AllAccepted (publishChunkRequests device t stores done stop fuel) := by
  induction fuel generalizing t done with
  | zero => exact allAccepted_nil
  | succ fuel ih =>
    unfold publishChunkRequests
    split
    · refine .cons (flushRequest_accepted (Nat.min_le_left _ _)) ?_
      split
      · exact ih _ _
      · exact allAccepted_nil
    · exact allAccepted_nil

theorem publishRunRequests_accepted (stores : Stores) (t : Transfer) (start fuel : ℕ) :
    AllAccepted (publishRunRequests device t stores start fuel) := by
  induction fuel generalizing t start with
  | zero => exact allAccepted_nil
  | succ fuel ih =>
    unfold publishRunRequests
    split
    · dsimp only
      split
      · exact allAccepted_nil
      · refine allAccepted_append.2 ⟨publishChunkRequests_accepted _ _ _ _ _, ?_⟩
        split
        · exact ih _ _
        · exact allAccepted_nil
    · exact allAccepted_nil

theorem publishRequests_accepted (stores : Stores) (t : Transfer) :
    AllAccepted (publishRequests device t stores) := by
  unfold publishRequests
  split
  exacts [publishRunRequests_accepted _ _ _ _, allAccepted_nil]

theorem acquireChunkRequests_accepted (t : Transfer) (done fuel : ℕ) :
    AllAccepted (acquireChunkRequests device t done fuel) := by
  induction fuel generalizing t done with
  | zero => exact allAccepted_nil
  | succ fuel ih =>
    unfold acquireChunkRequests
    split
    · refine .cons (downloadRequest_accepted _ _ _) ?_
      split
      · exact ih _ _
      · exact allAccepted_nil
    · exact allAccepted_nil

theorem acquireRequests_accepted (ids : Option (Finset MemoryId)) (t : Transfer) :
    AllAccepted (acquireRequests device ids t) := by
  unfold acquireRequests
  split
  exacts [acquireChunkRequests_accepted _ _ _, allAccepted_nil]

theorem flushRequests_accepted (t : Transfer) (atom : Option ℕ) (start size done fuel : ℕ) :
    AllAccepted (flushRequests device t atom start size done fuel) := by
  induction fuel generalizing t done with
  | zero => exact allAccepted_nil
  | succ fuel ih =>
    unfold flushRequests
    split
    · split
      · exact allAccepted_nil
      · next chunk hchunk =>
        refine .cons (flushRequest_accepted (chunkSize_le hchunk)) ?_
        split
        · exact ih _ _
        · exact allAccepted_nil
    · exact allAccepted_nil

theorem downloadRequests_accepted (t : Transfer) (atom : Option ℕ) (start size done fuel : ℕ) :
    AllAccepted (downloadRequests device t atom start size done fuel) := by
  induction fuel generalizing t done with
  | zero => exact allAccepted_nil
  | succ fuel ih =>
    unfold downloadRequests
    split
    · split
      · exact allAccepted_nil
      · refine .cons (downloadRequest_accepted _ _ _) ?_
        split
        · exact ih _ _
        · exact allAccepted_nil
    · exact allAccepted_nil

end Transfer

namespace MappedDevice

theorem requestsAt_accepted {f : Transfer → List Frame} (h : ∀ t, AllAccepted (f t)) (k : ℕ)
    (d : MappedDevice) (net : List Outcome) : AllAccepted (requestsAt k f d net) := by
  unfold requestsAt
  split
  exacts [allAccepted_nil, h _]

theorem requestsInOrder_accepted {ss : List Sending} (h : ∀ s ∈ ss, ∀ d net, AllAccepted (s.requests d net))
    (d : MappedDevice) (net : List Outcome) : AllAccepted (requestsInOrder ss d net) := by
  induction ss generalizing d net with
  | nil => exact allAccepted_nil
  | cons s ss ih =>
    refine allAccepted_append.2 ⟨h s List.mem_cons_self d net, ?_⟩
    dsimp only
    split
    · exact ih (fun s' hs' => h s' (List.mem_cons_of_mem _ hs')) _ _
    · exact allAccepted_nil

theorem publishCoherentRequests_accepted (stores : MemoryId → Stores) (d : MappedDevice)
    (net : List Outcome) : AllAccepted (publishCoherentRequests device stores d net) := by
  refine requestsInOrder_accepted (fun s hs d net => ?_) d net
  obtain ⟨k, -, rfl⟩ := List.mem_map.1 hs
  exact requestsAt_accepted (fun t => Transfer.publishRequests_accepted (stores t.m.memoryId) t) k d net

theorem acquireCoherentRequests_accepted (ids : Option (Finset MemoryId)) (d : MappedDevice)
    (net : List Outcome) : AllAccepted (acquireCoherentRequests device ids d net) := by
  refine requestsInOrder_accepted (fun s hs d net => ?_) d net
  obtain ⟨k, -, rfl⟩ := List.mem_map.1 hs
  exact requestsAt_accepted (Transfer.acquireRequests_accepted ids) k d net

theorem flushMappedRequests_accepted (ranges : List MemoryRange) (d : MappedDevice) (net : List Outcome) :
    AllAccepted (flushMappedRequests device ranges d net) := by
  refine requestsInOrder_accepted (fun s hs d net => ?_) d net
  obtain ⟨r, -, rfl⟩ := List.mem_map.1 hs
  change AllAccepted (flushRangeRequests device r d net)
  unfold flushRangeRequests
  split
  · exact allAccepted_nil
  · exact requestsAt_accepted (fun t => Transfer.flushRequests_accepted t _ _ _ _ _) _ d net

theorem downloadMappedRequests_accepted (ranges : List MemoryRange) (d : MappedDevice) (net : List Outcome) :
    AllAccepted (downloadMappedRequests device ranges d net) := by
  refine requestsInOrder_accepted (fun s hs d net => ?_) d net
  obtain ⟨r, -, rfl⟩ := List.mem_map.1 hs
  change AllAccepted (downloadRangeRequests device r d net)
  unfold downloadRangeRequests
  split
  · exact allAccepted_nil
  · exact requestsAt_accepted (fun t => Transfer.downloadRequests_accepted t _ _ _ _ _) _ d net

end MappedDevice

/-- No chain may hang on a shader module, so its code is all there is. -/
theorem length_writePnextChain_shaderModule {head : PNext} {bs : List UInt8}
    (h : writePnextChain .shaderModule head = some bs) : bs.length = 4 := by
  unfold writePnextChain at h
  cases hnodes : head.nodes with
  | nil =>
    rw [hnodes] at h
    obtain rfl := Option.some.inj h
    rfl
  | cons node rest =>
    have hnone : collectChain .shaderModule (node :: rest) [] = none := by
      have hallowed : node.allowed .shaderModule = false := by
        cases htype : node.type <;> simp [Node.allowed, htype, pnextAllowed]
      simp [collectChain, hallowed]
    rw [hnodes, hnone] at h
    exact nomatch h

theorem length_writeU32s_le {n : ℕ} (p : Ptr (Elements UInt32 n)) : (writeU32s p).length ≤ 4 * n := by
  have hflat : ∀ vs : List UInt32, (vs.flatMap Writer.u32).length = 4 * vs.length := by
    intro vs
    induction vs with
    | nil => rfl
    | cons v vs ih =>
      rw [List.flatMap_cons, List.length_append, ih, Writer.length_u32, List.length_cons]
      omega
  rw [writeU32s, hflat, Ptr.items]
  cases p.target with
  | none => exact Nat.mul_le_mul_left 4 (Nat.zero_le n)
  | some v => exact Nat.mul_le_mul_left 4 v.2.le

theorem createShaderModuleRequest_accepted {info : VkShaderModuleCreateInfo} {f : Frame}
    (h : createShaderModuleRequest device info = some f) : f.Accepted := by
  obtain ⟨bs, hbs, rfl⟩ := Option.map_eq_some_iff.1 h
  rw [Frame.accepted_iff]
  unfold writeShaderModuleCreateInfo at hbs
  split at hbs
  · exact nomatch hbs
  · next hvalid =>
    push Not at hvalid
    have hmax := hvalid.2.2.2.1
    obtain ⟨chain, hchain, hbs⟩ := Option.bind_eq_some_iff.1 hbs
    obtain rfl := Option.some.inj hbs
    have hcode := length_writeU32s_le info.pCode
    have hlength := length_writePnextChain_shaderModule hchain
    simp only [List.length_append, Writer.length_u64, Writer.length_u32, hlength]
    unfold kMaxShaderCodeBytes at hmax
    unfold kMaxPayload
    omega

theorem length_createPipelineCacheRequest (info : VkPipelineCacheCreateInfo) :
    (createPipelineCacheRequest device info).payload.length = 56 + info.pInitialData.items.length := by
  have hsize : Raw.sizeof VkPipelineCacheCreateInfo = 40 := rfl
  simp only [createPipelineCacheRequest, writePipelineCacheCreateInfo, List.length_append, Writer.length_u64,
    length_writeRaw, hsize, Writer.length_bytes]
  omega

theorem createPipelineCacheRequest_accepted_iff (info : VkPipelineCacheCreateInfo) :
    (createPipelineCacheRequest device info).Accepted ↔ 56 + info.pInitialData.items.length ≤ kMaxPayload := by
  rw [Frame.accepted_iff, length_createPipelineCacheRequest]

theorem getQueryPoolResultsRequest_accepted {pool : UInt64} {firstQuery queryCount : UInt32}
    {dataSize stride : UInt64} {flags : UInt32} {f : Frame}
    (h : getQueryPoolResultsRequest device pool firstQuery queryCount dataSize stride flags = some f) :
    f.Accepted := by
  unfold getQueryPoolResultsRequest at h
  split at h
  · exact nomatch h
  · obtain rfl := Option.some.inj h
    rw [Frame.accepted_iff]
    simp only [List.length_append, Writer.length_u64, Writer.length_u32]
    decide

theorem getPipelineCacheDataRequest_accepted (cache : UInt64) (dataSize : Option UInt64) :
    (getPipelineCacheDataRequest device cache dataSize).Accepted := by
  rw [Frame.accepted_iff]
  simp only [getPipelineCacheDataRequest, List.length_append, Writer.length_u64, Writer.length_u32]
  decide

end
end VkRemote.Client
