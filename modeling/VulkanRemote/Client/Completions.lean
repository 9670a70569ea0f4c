import VulkanRemote.Client.Attribution
import VulkanRemote.Client.Binding
import VulkanRemote.Lib.Run

/-! Runs of the client's queue operations. At each completion the host observes, the set handed to
`acquire_coherent_mapped` is compared with the writes that are due by then. -/

namespace VkRemote.Client

open Lib Metadata History

inductive QueueOp
  | createSemaphore (s : SemaphoreId) (timeline : Bool) (initialValue : ℕ)
  | destroySemaphore (s : SemaphoreId)
  /-- `QueueSubmit` and `QueueSubmit2`. -/
  | queueSubmit (q : QueueId) (submits : List Submit) (fence : Option FenceId) (accepted : Bool)
  | queueBindSparse (q : QueueId) (infos : List BindInfo) (fence : Option FenceId)
      (accepted : Bool)
  | signalSemaphore (s : SemaphoreId) (value : ℕ) (accepted : Bool)
  | acquireNextImage (s : Option SemaphoreId) (fence : Option FenceId)
  | queuePresent (waits : List SemaphoreId)
  | queueWaitIdle (q : QueueId)
  | deviceWaitIdle
  /-- `WaitForFences` and `GetFenceStatus`, for the fences found signaled. -/
  | fencesSignaled (fences : List FenceId)
  /-- `WaitSemaphores` and `GetSemaphoreCounterValue`, for one semaphore. -/
  | timelineReached (s : SemaphoreId) (value : ℕ)
  /-- `ResetFences` and `DestroyFence`. -/
  | resetFences (fences : List FenceId)

/-- The sets of the client, and what has been submitted. -/
structure QueueWorld where
  client : Metadata := {}
  history : History := {}

namespace History

/-- An empty submit completes when all earlier work on the queue has: it is a batch of nothing. -/
def batchesOf (bs : List Submit) : List Submit := if bs.isEmpty then [{}] else bs

def createSemaphore (h : History) (s : SemaphoreId) (timeline : Bool) (value : ℕ) : History :=
  { h with
    live := Function.update h.live s (some timeline)
    hostSignals := if timeline then h.hostSignals ++ [(s, value)] else h.hostSignals }

def destroySemaphore (h : History) (s : SemaphoreId) : History :=
  { h with live := Function.update h.live s none }

def signalSemaphore (h : History) (s : SemaphoreId) (value : ℕ) : History :=
  { h with hostSignals := h.hostSignals ++ [(s, value)] }

def acquireNextImage (h : History) (s : Option SemaphoreId) (fence : Option FenceId) : History :=
  { h with
    acquiring := fun s' => h.acquiring s' || decide (s = some s')
    fences := fun f => if fence = some f then none else h.fences f }

/-- The presentation engine takes the signals it waits for. -/
def queuePresent (h : History) (waits : List SemaphoreId) : History :=
  { h with
    signaled := fun s => if s ∈ waits then none else h.signaled s
    acquiring := fun s => h.acquiring s && decide (s ∉ waits) }

def resetFences (h : History) (fences : List FenceId) : History :=
  { h with fences := fun f => if f ∈ fences then none else h.fences f }

/-- The batches of a sparse binding, one after the other; they share a serial. -/
def addBindings (q : QueueId) (serial : ℕ) (h : History) (infos : List BindInfo) : History :=
  infos.foldl (fun h b => h.addBatches q serial [b.toSubmit]) h

def bindingsOf (infos : List BindInfo) : List BindInfo := if infos.isEmpty then [{}] else infos

/-- Nothing has named the semaphore. -/
def Unnamed (h : History) (s : SemaphoreId) : Prop :=
  h.live s = none ∧ h.signaled s = none ∧ (∀ e ∈ h.hostSignals, e.1 ≠ s) ∧
    (∀ e ∈ h.waiting, e.1 ≠ s) ∧
    ∀ b ∈ h.batches, (∀ e ∈ b.waits, e.1 ≠ s) ∧ ∀ e ∈ b.signals, e.1 ≠ s

end History

namespace QueueWorld

variable (t : ResourceTables)

/-- The batches an observation shows to be complete. -/
def completed (w : QueueWorld) : QueueOp → List ℕ
  | .queueWaitIdle q => w.history.onQueue q
  | .deviceWaitIdle => List.range w.history.batches.length
  | .fencesSignaled fences => fences.filterMap w.history.fences
  | .timelineReached s value => w.history.reached s value
  | _ => []

/-- The set handed to `acquire_coherent_mapped`; `none` stands for every mapping. -/
def handed (w : QueueWorld) : QueueOp → Option Writes
  | .queueWaitIdle q => some (w.client.queueWrites q)
  | .deviceWaitIdle => none
  | .fencesSignaled fences => some (w.client.fenceSet fences)
  | .timelineReached s value => some (w.client.timelineSet s value)
  | _ => some ∅

def clientAfter (w : QueueWorld) : QueueOp → Metadata
  | .createSemaphore s timeline _ => w.client.createSemaphore s timeline
  | .destroySemaphore s => w.client.destroySemaphore s
  | .queueSubmit q submits fence accepted =>
    if accepted then w.client.queueSubmit t q submits fence else w.client.takeSerials submits
  | .queueBindSparse q infos fence accepted =>
    if accepted then w.client.queueBindSparse q infos fence else w.client
  | .signalSemaphore s value accepted =>
    if accepted then w.client.signalSemaphore s value else w.client
  | .queueWaitIdle q => w.client.clearQueue q
  | .deviceWaitIdle => w.client.clearAll
  | .fencesSignaled fences => w.client.dropFences fences
  | .timelineReached s value =>
    w.client.noteTimeline s value (w.client.timelineSet s value)
  | .resetFences fences => w.client.dropFences fences
  | .acquireNextImage _ _ | .queuePresent _ => w.client

def historyAfter (w : QueueWorld) : QueueOp → History
  | .createSemaphore s timeline value => w.history.createSemaphore s timeline value
  | .destroySemaphore s => w.history.destroySemaphore s
  | .queueSubmit q submits fence accepted =>
    if accepted then (w.history.addBatches q w.client.nextSubmissionSerial
      (batchesOf submits)).setFence fence else w.history
  | .queueBindSparse q infos fence accepted =>
    if accepted then (w.history.addBindings q w.client.nextSubmissionSerial
      (bindingsOf infos)).setFence fence else w.history
  | .signalSemaphore s value accepted =>
    if accepted then w.history.signalSemaphore s value else w.history
  | .acquireNextImage s fence => w.history.acquireNextImage s fence
  | .queuePresent waits => w.history.queuePresent waits
  | .resetFences fences => w.history.resetFences fences
  | op => w.history.observe (w.completed op) (w.handed op)

/-- A server names a semaphore once, an application names what exists, and only a batch that can
complete is reported complete. -/
def Enabled (w : QueueWorld) : QueueOp → Prop
  | .createSemaphore s _ _ => (w.client.semaphores s).isNone = true ∧ w.history.Unnamed s
  | .destroySemaphore s => (w.history.live s).isSome = true
  | .queueSubmit _ submits _ _ => w.history.Named submits
  | .queueBindSparse _ infos _ _ => w.history.Named (infos.map BindInfo.toSubmit)
  | .signalSemaphore s _ _ => w.history.live s = some true
  | .timelineReached s value => w.history.live s = some true ∧
      ∀ z ∈ w.history.reached s value, w.history.Completable z
  | op => ∀ z ∈ w.completed op, w.history.Completable z

instance {h : History} {n : ℕ} : Decidable (h.Completable n) :=
  decidable_of_iff (∀ r ≤ n, ∀ a ∈ h.batches[r]?, (∃ b ∈ h.batches[n]?, a.queue = b.queue) →
    (∀ e ∈ a.waits, ∃ e' ∈ h.hostSignals ++ h.batches.flatMap Batch.signals,
      e'.1 = e.1 ∧ e.2 ≤ e'.2) ∧ ∀ e ∈ h.waiting, e.2 ≠ r) <| by
  have hsig : ∀ s v, (∃ e' ∈ h.hostSignals ++ h.batches.flatMap Batch.signals,
      e'.1 = s ∧ v ≤ e'.2) ↔ ∃ u, h.Signals s u ∧ v ≤ u := by
    intro s v
    simp only [List.mem_append, List.mem_flatMap, Signals]
    constructor
    · rintro ⟨⟨s', u⟩, hmem, rfl, hle⟩
      exact ⟨u, hmem, hle⟩
    · rintro ⟨u, hmem, hle⟩
      exact ⟨(s, u), hmem, rfl, hle⟩
  simp only [hsig, Prod.forall, Option.mem_def]
  constructor
  · rintro hall r a ha ⟨a', b, ha', hb, hq⟩ hle
    obtain rfl := Option.some.inj (ha.symm.trans ha')
    obtain ⟨h1, h2⟩ := hall r hle a ha ⟨b, hb, hq⟩
    exact ⟨fun s v => h1 s v, fun s hs => h2 s r hs rfl⟩
  · rintro hall r hle a ha ⟨b, hb, hq⟩
    obtain ⟨h1, h2⟩ := hall r a ha ⟨a, b, ha, hb, hq⟩ hle
    exact ⟨fun s v => h1 s v, fun s z hs hz => h2 s (hz ▸ hs)⟩

instance {h : History} {bs : List Submit} : Decidable (h.Named bs) := by
  unfold Named
  infer_instance

instance {h : History} {s : SemaphoreId} : Decidable (h.Unnamed s) := by
  unfold Unnamed
  infer_instance

instance {w : QueueWorld} {op : QueueOp} : Decidable (w.Enabled op) := by
  cases op <;> unfold Enabled <;> infer_instance

def step (w : QueueWorld) (op : QueueOp) : Option QueueWorld :=
  if w.Enabled op then some ⟨w.clientAfter t op, w.historyAfter op⟩ else none

/-- The property of an observation: what is due by it is acquired now, or was before. -/
def Sound (w : QueueWorld) (op : QueueOp) : Prop :=
  ∀ z ∈ w.completed op, ∀ m mem, w.history.Due t m mem z →
    (∀ ws ∈ w.handed op, mem ∈ ws) ∨ w.history.acquired m mem

/-- Every write made visible to the host is made visible by its own command buffer, and by a barrier that
names one of the host's own accesses. -/
def LocalBarriers (h : History) : Prop :=
  ∀ m i x n, h.MadeVisible t m i x n → ∃ a cb, h.batches[m]? = some a ∧
    a.commandBuffers[i]? = some cb ∧ x ∈ locallyExposed t cb

/-- The calls of a sparse binding, batch by batch. -/
def BindingsOk (q : QueueId) (serial : ℕ) : Metadata → History → List BindInfo → Prop
  | _, _, [] => True
  | md, h, b :: bs =>
    CallOk md h (h.addBatches q serial [b.toSubmit]) [b.toSubmit] ∧
      BindingsOk q serial (md.bindBatch q serial b) (h.addBatches q serial [b.toSubmit]) bs

/-- Where the attribution is right. -/
def Attributed (w : QueueWorld) : QueueOp → Prop
  | .queueSubmit q submits _ true => CallOk w.client w.history
      (w.history.addBatches q w.client.nextSubmissionSerial (batchesOf submits))
      (batchesOf submits)
  | .queueBindSparse q infos _ true =>
    BindingsOk q w.client.nextSubmissionSerial
      { w.client with nextSubmissionSerial := w.client.nextSubmissionSerial + 1 } w.history
      (bindingsOf infos)
  | .timelineReached s value => w.history.Signals s value ∧ LocalBarriers t w.history
  | .queueWaitIdle _ | .deviceWaitIdle | .fencesSignaled _ => LocalBarriers t w.history
  | _ => True

end QueueWorld

end VkRemote.Client
