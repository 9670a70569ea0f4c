import Mathlib.Data.Finset.Lattice.Basic
import VulkanRemote.Client.Recording

/-! The write attribution a device keeps under `metadata_mutex`: which memories the work on each
queue, behind each fence and behind each semaphore may have written. A submit plans under the
lock, goes to the server without it, and commits under it again. -/

namespace VkRemote.Client

abbrev QueueId := ℕ
abbrev SemaphoreId := ℕ
abbrev FenceId := ℕ
abbrev Writes := Finset MemoryId

structure TimelineSignalWrites where
  value : ℕ
  queueId : QueueId
  submissionSerial : ℕ
  memoryIds : Writes
  deriving DecidableEq

structure PendingSemaphoreWait where
  value : ℕ
  queueId : QueueId
  submissionSerial : ℕ
  downstreamSemaphores : List SemaphoreId
  deriving DecidableEq

structure SemaphoreProvenance where
  timeline : Bool := false
  binarySignaled : Bool := false
  binaryQueueId : QueueId := 0
  binarySubmissionSerial : ℕ := 0
  binaryWrites : Writes := ∅
  timelineWrites : List TimelineSignalWrites := []
  acquiredTimelineValue : ℕ := 0
  acquiredTimelineWrites : Writes := ∅
  pendingWaits : List PendingSemaphoreWait := []
  deriving DecidableEq

structure PendingCoherentWrites where
  queueId : QueueId
  submissionSerial : ℕ
  memoryIds : Writes
  deriving DecidableEq

/-- The attribution maps of `RemoteDevice`. -/
structure Metadata where
  semaphores : SemaphoreId → Option SemaphoreProvenance := fun _ => none
  nextSubmissionSerial : ℕ := 1
  queueWrites : QueueId → Writes := fun _ => ∅
  fenceWrites : FenceId → Option PendingCoherentWrites := fun _ => none

/-- A semaphore a batch waits for. `value` is the timeline value given for it, if any;
`otherwise` is what the pending wait remembers where that value does not count. -/
structure SemaphoreWait where
  semaphore : SemaphoreId
  value : Option ℕ
  otherwise : ℕ := 0

structure SemaphoreSignal where
  semaphore : SemaphoreId
  value : Option ℕ

/-- One batch of a submit. -/
structure Submit where
  waits : List SemaphoreWait := []
  commandBuffers : List (List PrimaryCommand) := []
  signals : List SemaphoreSignal := []

/-- `VkBindSparseInfo`, as far as the attribution looks at it. -/
structure BindInfo where
  waits : List SemaphoreWait := []
  signals : List SemaphoreSignal := []

structure PlannedSignal where
  semaphoreId : SemaphoreId
  timeline : Bool
  value : ℕ
  submissionSerial : ℕ
  memoryIds : Writes
  deriving DecidableEq

structure PlannedWait where
  semaphoreId : SemaphoreId
  wait : PendingSemaphoreWait
  deriving DecidableEq

/-- What the planning half of a submit hands to the committing half. -/
structure Plan where
  nextQueueWrites : Writes
  consumedBinary : List SemaphoreId := []
  plannedWaits : List PlannedWait := []
  plannedSignals : List PlannedSignal := []
  deriving DecidableEq

/-- A record of the queue, from `afterSerial` on, gains the writes. -/
def TimelineSignalWrites.insert (queueId : QueueId) (afterSerial : ℕ) (writes : Writes)
    (r : TimelineSignalWrites) : TimelineSignalWrites :=
  if r.queueId = queueId ∧ afterSerial ≤ r.submissionSerial then
    { r with memoryIds := r.memoryIds ∪ writes }
  else r

namespace SemaphoreProvenance

def isTimeline (s : Option SemaphoreProvenance) : Bool := s.any SemaphoreProvenance.timeline

/-- The record of `timeline_writes` a wait for `value` takes: the first that reaches it. -/
def firstReaching (s : SemaphoreProvenance) (value : ℕ) : Option TimelineSignalWrites :=
  s.timelineWrites.find? fun r => value ≤ r.value

/-- What a wait learns: the writes behind it and whether its signal is known already. -/
def waitFor (s : SemaphoreProvenance) (value : Option ℕ) : Writes × Bool :=
  match s.timeline, value with
  | true, some v =>
    if v ≤ s.acquiredTimelineValue then (s.acquiredTimelineWrites, true)
    else match s.firstReaching v with
      | some r => (s.acquiredTimelineWrites ∪ r.memoryIds, true)
      | none => (s.acquiredTimelineWrites, false)
  | true, none => (∅, false)
  | false, _ => (s.binaryWrites, s.binarySignaled)

/-- `wait_value` of a wait that stays pending. -/
def pendingValue (s : SemaphoreProvenance) (w : SemaphoreWait) : ℕ :=
  if s.timeline then w.value.getD w.otherwise else w.otherwise

/-- The part of `propagate_queue_writes_locked` for one semaphore. -/
def propagate (queueId : QueueId) (afterSerial : ℕ) (writes : Writes) (s : SemaphoreProvenance) :
    SemaphoreProvenance :=
  { s with
    binaryWrites :=
      if s.binarySignaled ∧ s.binaryQueueId = queueId ∧ afterSerial ≤ s.binarySubmissionSerial then
        s.binaryWrites ∪ writes
      else s.binaryWrites
    timelineWrites :=
      s.timelineWrites.map (TimelineSignalWrites.insert queueId afterSerial writes) }

/-- The loop over `downstream_semaphores`, for one of them. -/
def propagateDownstream (wait : PendingSemaphoreWait) (writes : Writes)
    (s : SemaphoreProvenance) : SemaphoreProvenance :=
  if s.timeline then
    { s with
      timelineWrites := s.timelineWrites.map
        (TimelineSignalWrites.insert wait.queueId wait.submissionSerial writes) }
  else if s.binarySignaled ∧ s.binaryQueueId = wait.queueId ∧
      wait.submissionSerial ≤ s.binarySubmissionSerial then
    { s with binaryWrites := s.binaryWrites ∪ writes }
  else s

/-- The record a signal leaves. -/
def signal (queueId : QueueId) (p : PlannedSignal) (s : SemaphoreProvenance) :
    SemaphoreProvenance :=
  if p.timeline then
    { s with timelineWrites := s.timelineWrites ++
        [{ value := p.value, queueId := queueId, submissionSerial := p.submissionSerial
           memoryIds := p.memoryIds }] }
  else
    { s with
      binaryWrites := p.memoryIds
      binarySignaled := true
      binaryQueueId := queueId
      binarySubmissionSerial := p.submissionSerial }

/-- A wait the signal does not release. -/
def outlasts (p : PlannedSignal) (w : PendingSemaphoreWait) : Bool :=
  p.timeline && decide (p.value < w.value)

def dropReleased (p : PlannedSignal) (s : SemaphoreProvenance) : SemaphoreProvenance :=
  { s with pendingWaits := s.pendingWaits.filter (outlasts p) }

def consume (s : SemaphoreProvenance) : SemaphoreProvenance :=
  { s with
    binaryWrites := ∅
    binarySignaled := false
    binaryQueueId := 0
    binarySubmissionSerial := 0 }

def addWait (wait : PendingSemaphoreWait) (s : SemaphoreProvenance) : SemaphoreProvenance :=
  { s with pendingWaits := s.pendingWaits ++ [wait] }

end SemaphoreProvenance

namespace Metadata

/-- `device->semaphores[id]`, changed; an unknown id is created by the subscript. -/
def update (md : Metadata) (id : SemaphoreId)
    (f : SemaphoreProvenance → SemaphoreProvenance) : Metadata :=
  { md with semaphores :=
      Function.update md.semaphores id (some (f ((md.semaphores id).getD {}))) }

def setQueueWrites (md : Metadata) (queueId : QueueId) (writes : Writes) : Metadata :=
  { md with queueWrites := Function.update md.queueWrites queueId writes }

/-- `propagate_queue_writes_locked`. -/
def propagateQueueWrites (md : Metadata) (queueId : QueueId) (afterSerial : ℕ)
    (writes : Writes) : Metadata :=
  { md with
    queueWrites := Function.update md.queueWrites queueId (md.queueWrites queueId ∪ writes)
    fenceWrites := fun f => (md.fenceWrites f).map fun p =>
      if p.queueId = queueId ∧ afterSerial ≤ p.submissionSerial then
        { p with memoryIds := p.memoryIds ∪ writes }
      else p
    semaphores := fun s => (md.semaphores s).map
      (SemaphoreProvenance.propagate queueId afterSerial writes) }

/-- A pending wait whose signal has come: its queue, and all that was derived from it there,
learns what is behind the signal. -/
def release (md : Metadata) (writes : Writes) (wait : PendingSemaphoreWait) : Metadata :=
  wait.downstreamSemaphores.foldl
    (fun md id => md.update id (SemaphoreProvenance.propagateDownstream wait writes))
    (md.propagateQueueWrites wait.queueId wait.submissionSerial writes)

/-- The wait half of planning one batch. -/
structure PlannedWaits where
  writes : Writes
  consumed : List SemaphoreId := []
  pending : List PlannedWait := []

def planWait (md : Metadata) (queueId : QueueId) (serial : ℕ) (downstream : List SemaphoreId)
    (p : PlannedWaits) (w : SemaphoreWait) : PlannedWaits :=
  match md.semaphores w.semaphore with
  | none => p
  | some s =>
    let (writes, resolved) := s.waitFor w.value
    { writes := p.writes ∪ writes
      consumed := if s.timeline then p.consumed else p.consumed ++ [w.semaphore]
      pending := if resolved then p.pending else p.pending ++
        [{ semaphoreId := w.semaphore
           wait := { value := s.pendingValue w, queueId := queueId, submissionSerial := serial
                     downstreamSemaphores := downstream } }] }

def planWaits (md : Metadata) (queueId : QueueId) (serial : ℕ) (writes : Writes) (b : Submit) :
    PlannedWaits :=
  b.waits.foldl (planWait md queueId serial (b.signals.map SemaphoreSignal.semaphore))
    { writes := writes }

def planSignal (md : Metadata) (serial : ℕ) (writes : Writes) (g : SemaphoreSignal) :
    PlannedSignal :=
  let timeline := SemaphoreProvenance.isTimeline (md.semaphores g.semaphore)
  { semaphoreId := g.semaphore, timeline := timeline
    value := if timeline then g.value.getD 0 else 0
    submissionSerial := serial, memoryIds := writes }

/-- `submit_writes` of the command buffers of a batch. -/
def commandBufferWrites (t : ResourceTables) (b : Submit) : Writes :=
  b.commandBuffers.foldl
    (fun writes cb => writes ∪ (CommandBuffer.recordPrimaries t cb).submitWrites t) ∅

/-- One turn of the planning loop. -/
def planBatch (t : ResourceTables) (md : Metadata) (queueId : QueueId) (serial : ℕ) (p : Plan)
    (b : Submit) : Plan :=
  let waits := planWaits md queueId serial (commandBufferWrites t b) b
  let next := p.nextQueueWrites ∪ waits.writes
  { nextQueueWrites := next
    consumedBinary := p.consumedBinary ++ waits.consumed
    plannedWaits := p.plannedWaits ++ waits.pending
    plannedSignals := p.plannedSignals ++ b.signals.map (planSignal md serial next) }

/-- The planning loop of `QueueSubmit` and `QueueSubmit2`. -/
def planBatches (t : ResourceTables) (md : Metadata) (queueId : QueueId) :
    ℕ → Plan → List Submit → Plan
  | _, p, [] => p
  | serial, p, b :: bs => planBatches t md queueId (serial + 1) (planBatch t md queueId serial p b) bs

def plan (t : ResourceTables) (md : Metadata) (queueId : QueueId) (submits : List Submit) : Plan :=
  planBatches t md queueId md.nextSubmissionSerial { nextQueueWrites := md.queueWrites queueId }
    submits

/-- `device->next_submission_serial += submitCount ? submitCount : 1;` -/
def takeSerials (md : Metadata) (submits : List Submit) : Metadata :=
  { md with nextSubmissionSerial := md.nextSubmissionSerial + max submits.length 1 }

/-- One turn of the loop over `planned_signals`. -/
def commitSignal (queueId : QueueId) (md : Metadata) (p : PlannedSignal) : Metadata :=
  let md := md.update p.semaphoreId (SemaphoreProvenance.signal queueId p)
  let waits := ((md.semaphores p.semaphoreId).getD {}).pendingWaits
  let md := (waits.filter fun w => !SemaphoreProvenance.outlasts p w).foldl
    (fun md w => md.release p.memoryIds w) md
  md.update p.semaphoreId (SemaphoreProvenance.dropReleased p)

/-- `device->fence_writes[id_from_handle(fence)] = …`, unless the fence is null. -/
def setFence (md : Metadata) (fence : Option FenceId) (writes : PendingCoherentWrites) :
    Metadata :=
  match fence with
  | none => md
  | some f => { md with fenceWrites := Function.update md.fenceWrites f (some writes) }

/-- What the successful reply of a submit is followed by; `lastSerial` is the serial of the last
batch, or the one an empty submit has taken. -/
def commit (md : Metadata) (queueId : QueueId) (p : Plan) (lastSerial : ℕ)
    (fence : Option FenceId) : Metadata :=
  let md := md.setQueueWrites queueId p.nextQueueWrites
  let md := p.plannedWaits.foldl
    (fun md w => md.update w.semaphoreId (SemaphoreProvenance.addWait w.wait)) md
  let md := p.consumedBinary.foldl (fun md id => md.update id SemaphoreProvenance.consume) md
  let md := p.plannedSignals.foldl (commitSignal queueId) md
  md.setFence fence
    { queueId := queueId, submissionSerial := lastSerial, memoryIds := p.nextQueueWrites }

def lastSerial (md : Metadata) (submits : List Submit) : ℕ :=
  md.nextSubmissionSerial + (submits.length - 1)

/-- A submit nothing comes between: plan, a reply of `VK_SUCCESS`, commit. -/
def queueSubmit (t : ResourceTables) (md : Metadata) (queueId : QueueId) (submits : List Submit)
    (fence : Option FenceId) : Metadata :=
  (md.takeSerials submits).commit queueId (md.plan t queueId submits) (md.lastSerial submits) fence

/-- A wait of `QueueBindSparse`, resolved in place. -/
def bindWait (queueId : QueueId) (serial : ℕ) (downstream : List SemaphoreId) (md : Metadata)
    (w : SemaphoreWait) : Metadata :=
  match md.semaphores w.semaphore with
  | none => md
  | some s =>
    let (writes, resolved) :=
      if s.timeline || s.binarySignaled then s.waitFor w.value else (∅, false)
    let md := md.setQueueWrites queueId (md.queueWrites queueId ∪ writes)
    let md := if !s.timeline && s.binarySignaled then
      md.update w.semaphore fun s => { s with binarySignaled := false, binaryWrites := ∅ } else md
    if resolved then md
    else md.update w.semaphore (SemaphoreProvenance.addWait
      { value := s.pendingValue w, queueId := queueId, submissionSerial := serial
        downstreamSemaphores := downstream })

/-- A signal of `QueueBindSparse`; a timeline signal without a value leaves no record. -/
def bindSignal (queueId : QueueId) (serial : ℕ) (md : Metadata) (g : SemaphoreSignal) : Metadata :=
  let p := planSignal md serial (md.queueWrites queueId) g
  let md := md.update g.semaphore
    (if p.timeline && g.value.isNone then id else SemaphoreProvenance.signal queueId p)
  let waits := ((md.semaphores g.semaphore).getD {}).pendingWaits
  let md := (waits.filter fun w => !SemaphoreProvenance.outlasts p w).foldl
    (fun md w => md.release (md.queueWrites queueId) w) md
  md.update g.semaphore (SemaphoreProvenance.dropReleased p)

def bindBatch (queueId : QueueId) (serial : ℕ) (md : Metadata) (b : BindInfo) : Metadata :=
  b.signals.foldl (bindSignal queueId serial)
    (b.waits.foldl (bindWait queueId serial (b.signals.map SemaphoreSignal.semaphore)) md)

/-- `QueueBindSparse` after a reply of `VK_SUCCESS`; one serial serves the whole call. -/
def queueBindSparse (md : Metadata) (queueId : QueueId) (infos : List BindInfo)
    (fence : Option FenceId) : Metadata :=
  let serial := md.nextSubmissionSerial
  let md := infos.foldl (bindBatch queueId serial) { md with nextSubmissionSerial := serial + 1 }
  md.setFence fence
    { queueId := queueId, submissionSerial := serial, memoryIds := md.queueWrites queueId }

/-- What `QueueWaitIdle` clears after it has acquired the queue's writes. -/
def clearQueue (md : Metadata) (queueId : QueueId) : Metadata := md.setQueueWrites queueId ∅

/-- What `DeviceWaitIdle` clears after it has acquired every mapping. -/
def clearAll (md : Metadata) : Metadata :=
  { md with queueWrites := fun _ => ∅, fenceWrites := fun _ => none }

/-- The set `WaitForFences` and `GetFenceStatus` acquire for the fences found signaled. -/
def fenceSet (md : Metadata) (fences : List FenceId) : Writes :=
  fences.foldl (fun ws f => ws ∪ ((md.fenceWrites f).map PendingCoherentWrites.memoryIds).getD ∅) ∅

/-- `fence_writes.erase`, after the acquire, on a reset and on a destruction. -/
def dropFences (md : Metadata) (fences : List FenceId) : Metadata :=
  { md with fenceWrites := fun f => if f ∈ fences then none else md.fenceWrites f }

/-- The set `acquire_timeline_writes` acquires. -/
def timelineSet (md : Metadata) (id : SemaphoreId) (value : ℕ) : Writes :=
  match md.semaphores id with
  | none => ∅
  | some s => (s.timelineWrites.filter fun r => r.value ≤ value).foldl
      (fun ws r => ws ∪ r.memoryIds) s.acquiredTimelineWrites

/-- What `acquire_timeline_writes` notes once `completed` is acquired. -/
def noteTimeline (md : Metadata) (id : SemaphoreId) (value : ℕ) (completed : Writes) : Metadata :=
  match md.semaphores id with
  | none => md
  | some _ => md.update id fun s => { s with
      acquiredTimelineValue := max s.acquiredTimelineValue value
      acquiredTimelineWrites := s.acquiredTimelineWrites ∪ completed
      timelineWrites := s.timelineWrites.filter fun r => !decide (r.value ≤ value) }

def createSemaphore (md : Metadata) (id : SemaphoreId) (timeline : Bool) : Metadata :=
  md.update id fun s => { s with timeline := timeline }

def destroySemaphore (md : Metadata) (id : SemaphoreId) : Metadata :=
  { md with semaphores := Function.update md.semaphores id none }

/-- `SignalSemaphore` after a reply of `VK_SUCCESS`. -/
def signalSemaphore (md : Metadata) (id : SemaphoreId) (value : ℕ) : Metadata :=
  match md.semaphores id with
  | none => md
  | some _ => md.update id fun s =>
      { s with pendingWaits := s.pendingWaits.filter fun w => !decide (w.value ≤ value) }

end Metadata

end VkRemote.Client
