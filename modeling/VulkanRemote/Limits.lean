import VulkanRemote.Client.Requests
import VulkanRemote.Server.DataReplies

/-! The cap of `recv_message` against what the endpoints send. The client's mapped memory and the server's
tables may change in any way between two of the calls below. -/

namespace VkRemote

open Wire Client Server Marshal

inductive Handler
  | getQueryPoolResults
  | getPipelineCacheData
  | downloadMappedMemory
  deriving DecidableEq

def Handler.reply (tables : Tables) (driver : Driver) (request : List UInt8) : Handler → Frame
  | getQueryPoolResults => ⟨.getQueryPoolResults, handleGetQueryPoolResults tables driver request⟩
  | getPipelineCacheData => ⟨.getPipelineCacheData, handleGetPipelineCacheData tables driver request⟩
  | downloadMappedMemory => ⟨.downloadMappedMemory, handleDownloadMappedMemory tables driver request⟩

/-- Both ends of a connection, and all frames that were handed to it. -/
structure Link where
  device : MappedDevice := {}
  tables : Tables
  sent : List Frame := []

/-- Calls on the client, a request that the server handles, and whatever else happens. `net` is what
becomes of the round trips of one call. -/
inductive Action
  | flushMapped (device : UInt64) (ranges : List MemoryRange) (net : List Client.Outcome)
  | downloadMapped (device : UInt64) (ranges : List MemoryRange) (net : List Client.Outcome)
  | publishCoherentMapped (device : UInt64) (stores : MemoryId → Stores) (net : List Client.Outcome)
  | acquireCoherentMapped (device : UInt64) (ids : Option (Finset MemoryId)) (net : List Client.Outcome)
  | createShaderModule (device : UInt64) (info : VkShaderModuleCreateInfo)
  | createPipelineCache (device : UInt64) (info : VkPipelineCacheCreateInfo)
  | getQueryPoolResults (device pool : UInt64) (firstQuery queryCount : UInt32) (dataSize stride : UInt64)
      (flags : UInt32)
  | getPipelineCacheData (device cache : UInt64) (dataSize : Option UInt64)
  | serve (handler : Handler) (driver : Driver) (request : List UInt8)
  | elsewhere (device : MappedDevice) (tables : Tables)

namespace Link

/-- What an action sends. -/
def emits (l : Link) : Action → List Frame
  | .flushMapped device ranges net => MappedDevice.flushMappedRequests device ranges l.device net
  | .downloadMapped device ranges net => MappedDevice.downloadMappedRequests device ranges l.device net
  | .publishCoherentMapped device stores net =>
    MappedDevice.publishCoherentRequests device stores l.device net
  | .acquireCoherentMapped device ids net => MappedDevice.acquireCoherentRequests device ids l.device net
  | .createShaderModule device info => (createShaderModuleRequest device info).toList
  | .createPipelineCache device info => [createPipelineCacheRequest device info]
  | .getQueryPoolResults device pool firstQuery queryCount dataSize stride flags =>
    (getQueryPoolResultsRequest device pool firstQuery queryCount dataSize stride flags).toList
  | .getPipelineCacheData device cache dataSize => [getPipelineCacheDataRequest device cache dataSize]
  | .serve handler driver request => [handler.reply l.tables driver request]
  | .elsewhere _ _ => []

/-- The mapped memory that the transfers leave behind. -/
def deviceAfter (l : Link) : Action → MappedDevice
  | .flushMapped _ ranges net => (MappedDevice.flushMapped ranges l.device net).device
  | .downloadMapped _ ranges net => (MappedDevice.downloadMapped ranges l.device net).device
  | .publishCoherentMapped _ stores net => (MappedDevice.publishCoherentMapped stores l.device net).device
  | .acquireCoherentMapped _ ids net => (MappedDevice.acquireCoherentMapped ids l.device net).device
  | .elsewhere device _ => device
  | _ => l.device

def tablesAfter (l : Link) : Action → Tables
  | .elsewhere _ tables => tables
  | _ => l.tables

def step (l : Link) (a : Action) : Option Link :=
  some { device := l.deviceAfter a, tables := l.tablesAfter a, sent := l.sent ++ l.emits a }

/-- The size of the data leaves room for the fields around it. -/
def Fits (l : Link) : Action → Prop
  | .createPipelineCache _ info => 56 + info.pInitialData.items.length ≤ kMaxPayload
  | .serve .getQueryPoolResults _ request =>
    let q := readQueryResultsRequest l.tables ⟨request, false⟩
    q.Served → 12 + q.size.toNat ≤ kMaxPayload
  | .serve .getPipelineCacheData driver request =>
    let q := readCacheDataRequest l.tables ⟨request, false⟩
    q.Served → 20 + q.dataSize (cacheSize driver q) ≤ kMaxPayload
  | _ => True

theorem allAccepted_singleton {f : Frame} : AllAccepted [f] ↔ f.Accepted := by
  simp [AllAccepted]

/-- Every emitter at its limit. -/
theorem emits_accepted_iff (l : Link) (a : Action) : AllAccepted (l.emits a) ↔ l.Fits a := by
  cases a with
  | flushMapped device ranges net =>
    exact iff_true_intro (MappedDevice.flushMappedRequests_accepted ranges l.device net)
  | downloadMapped device ranges net =>
    exact iff_true_intro (MappedDevice.downloadMappedRequests_accepted ranges l.device net)
  | publishCoherentMapped device stores net =>
    exact iff_true_intro (MappedDevice.publishCoherentRequests_accepted stores l.device net)
  | acquireCoherentMapped device ids net =>
    exact iff_true_intro (MappedDevice.acquireCoherentRequests_accepted ids l.device net)
  | createShaderModule device info =>
    exact iff_true_intro fun f hf => createShaderModuleRequest_accepted (Option.mem_toList.1 hf)
  | createPipelineCache device info =>
    exact allAccepted_singleton.trans (createPipelineCacheRequest_accepted_iff info)
  | getQueryPoolResults device pool firstQuery queryCount dataSize stride flags =>
    exact iff_true_intro fun f hf => getQueryPoolResultsRequest_accepted (Option.mem_toList.1 hf)
  | getPipelineCacheData device cache dataSize =>
    exact iff_true_intro (allAccepted_singleton.2 (getPipelineCacheDataRequest_accepted cache dataSize))
  | serve handler driver request =>
    refine allAccepted_singleton.trans ((Frame.accepted_iff _).trans ?_)
    cases handler with
    | getQueryPoolResults => exact getQueryPoolResults_fits_iff
    | getPipelineCacheData => exact getPipelineCacheData_fits_iff
    | downloadMappedMemory => exact iff_true_intro downloadMappedMemory_fits
  | elsewhere device tables => exact iff_true_intro allAccepted_nil

/-- All frames of a run are accepted exactly if every step of it fits. -/
theorem run_accepted_iff {l l' : Link} {as : List Action} (hl : l.sent = []) (h : Lib.Run step l as l') :
    AllAccepted l'.sent ↔ Lib.RunWhere step Fits l as l' := by
  induction h with
  | nil =>
    rw [hl]
    exact ⟨fun _ => .nil, fun _ => allAccepted_nil⟩
  | @snoc evs l₁ l₂ a hrun hstep ih =>
    have hsent : l₂.sent = l₁.sent ++ l₁.emits a := by rw [← Option.some.inj hstep]
    rw [Lib.runWhere_snoc_iff hrun hstep, ← ih, ← emits_accepted_iff, hsent, allAccepted_append]

/-- A server on which every id names an object. -/
def busy : Link where
  tables := { devices := fun id => id, queryPools := fun id => id, pipelineCaches := fun id => id,
              memoryMetadata := fun _ => none }

/-- A driver that does nothing. -/
def idle : Driver where
  getQueryPoolResults _ _ _ _ _ _ _ := (0, fun _ => 0)
  getPipelineCacheData _ _ _ _ := (0, 0, fun _ => 0)
  mapMemory _ _ _ := (0, fun _ => 0)
  invalidateRange _ _ _ _ := 0

/-- Query results of 64 MiB. -/
def fullQuery : Action :=
  .serve .getQueryPoolResults idle
    (Writer.handle 1 ++ Writer.handle 1 ++ Writer.u32 0 ++ Writer.u32 8388608 ++ Writer.u64 67108864 ++
      Writer.u64 8 ++ Writer.u32 1)

/-- The server takes the request and sends a reply that the client refuses. -/
theorem fullQuery_refused :
    ∃ l, Lib.Run step busy [fullQuery] l ∧ ¬ AllAccepted l.sent := by
  refine ⟨_, .snoc (.nil) rfl, ?_⟩
  change ¬ AllAccepted ([] ++ busy.emits fullQuery)
  rw [List.nil_append, emits_accepted_iff]
  intro h
  have hfits := h (by decide)
  revert hfits
  decide

/-- Query results that leave just the room for the fields around them. -/
def largestQuery : Action :=
  .serve .getQueryPoolResults idle
    (Writer.handle 1 ++ Writer.handle 1 ++ Writer.u32 0 ++ Writer.u32 8388606 ++ Writer.u64 67108852 ++
      Writer.u64 8 ++ Writer.u32 1)

/-- The reply of the greatest size that the client takes. -/
theorem run_accepted_iff_largest : ∃ l, Lib.Run step busy [largestQuery] l ∧ AllAccepted l.sent := by
  have hrun : Lib.Run step busy ([] ++ [largestQuery]) _ := .snoc .nil rfl
  refine ⟨_, hrun, (run_accepted_iff rfl hrun).2 ((Lib.runWhere_snoc_iff .nil rfl).2 ⟨.nil, fun _ => ?_⟩)⟩
  decide

end Link
end VkRemote
