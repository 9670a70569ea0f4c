import VulkanRemote.Marshal.Decode
import VulkanRemote.Server.Session
import VulkanRemote.Server.Table

/-! The control lane and the workers of one session, as far as the objects go that a wait names: what is
created, taken out of the tables and destroyed, and which native objects each driver call of a worker
uses. -/

namespace VkRemote.Server

open Lib Wire
open Marshal (kMaxArrayElements)

/-- The driver names each object it makes afresh. -/
inductive Native
  | device (n : ℕ)
  | fence (n : ℕ)
  | semaphore (n : ℕ)
  deriving DecidableEq

def Native.number : Native → ℕ
  | .device n | .fence n | .semaphore n => n

/-- A queue is made and destroyed with its device. -/
structure NativeQueue where
  device : ℕ
  family : UInt32
  index : UInt32
  deriving DecidableEq

/-- The jobs of the fast paths, with the native handles the control lane resolved. -/
inductive Wait
  | queueWaitIdle (queue : NativeQueue)
  | deviceWaitIdle (device : ℕ)
  | waitForFences (device : ℕ) (fences : List ℕ) (waitAll : Bool) (timeout : UInt64)
  | waitSemaphores (device : ℕ) (flags : UInt32) (semaphores : List (ℕ × UInt64)) (timeout : UInt64)

namespace Wait

/-- The native objects that a driver call of the job uses. -/
def uses : Wait → List Native
  | queueWaitIdle queue => [.device queue.device]
  | deviceWaitIdle device => [.device device]
  | waitForFences device fences _ _ => .device device :: fences.map .fence
  | waitSemaphores device _ semaphores _ => .device device :: semaphores.map fun s => .semaphore s.1

/-- The job waits in slices of 100 ms and looks at `closing` before each. -/
def sliced : Wait → Bool
  | waitForFences .. => true
  | waitSemaphores .. => true
  | _ => false

end Wait

inductive Entry
  | called (objects : List Native)
  | destroyed (object : Native)
  deriving DecidableEq

/-- `created` counts what the driver has made, `returned` holds the tickets of the jobs whose `run` has
returned, and `log` keeps the driver calls of the workers and what was passed to a `vkDestroy` call; the
code has none of them. -/
structure Lanes where
  devices : Table ℕ ℕ := {}
  queues : Table ℕ NativeQueue := {}
  fences : Table ℕ ℕ := {}
  semaphores : Table ℕ ℕ := {}
  created : ℕ := 0
  workers : RequestWorkers Wait := {}
  returned : Finset ℕ := ∅
  closing : Bool := false
  left : Bool := false
  tornDown : Bool := false
  log : List Entry := []

/-- A request that touches these tables. `made` says whether the rest of the payload decodes and the
driver creates the object, `found` whether the driver has the queue or the command. -/
inductive LaneRequest
  | createDevice (made : Bool)
  | destroyDevice (payload : List UInt8)
  | getDeviceQueue (payload : List UInt8) (found : Bool)
  | getDeviceQueue2 (payload : List UInt8) (found : Bool)
  | createFence (payload : List UInt8) (made : Bool)
  | destroyFence (payload : List UInt8)
  | createSemaphore (payload : List UInt8) (made : Bool)
  | destroySemaphore (payload : List UInt8)
  | queueWaitIdle (requestId : ℕ) (payload : List UInt8)
  | deviceWaitIdle (requestId : ℕ) (payload : List UInt8)
  | waitForFences (requestId : ℕ) (payload : List UInt8)
  | waitSemaphores (requestId : ℕ) (payload : List UInt8) (found : Bool)
  deriving DecidableEq

/-- `count_fits`. -/
def countFits (r : Reader) (count : UInt32) (minWireBytes : ℕ) : Bool :=
  count.toNat ≤ r.remaining / (if minWireBytes = 0 then 1 else minWireBytes)

/-- The loop over the fences of a wait; it ends at the first that is not there. -/
def readFences (t : Table ℕ ℕ) : ℕ → Reader → Option (List ℕ) × Reader
  | 0, r => (some [], r)
  | n + 1, r =>
    let (id, r) := r.handle
    match t.get id.toNat with
    | none => (none, r)
    | some fence =>
      let (fences, r) := readFences t n r
      (fences.map (fence :: ·), r)

/-- The same over the semaphores and their values. -/
def readSemaphores (t : Table ℕ ℕ) : ℕ → Reader → Option (List (ℕ × UInt64)) × Reader
  | 0, r => (some [], r)
  | n + 1, r =>
    let (id, r) := r.handle
    let (value, r) := r.u64
    match t.get id.toNat with
    | none => (none, r)
    | some semaphore =>
      let (semaphores, r) := readSemaphores t n r
      (semaphores.map ((semaphore, value) :: ·), r)

namespace Lanes

def destroy (s : Lanes) (objects : List Native) : Lanes :=
  { s with log := s.log ++ objects.map .destroyed }

/-- What `destroy_device_objects` passes to `vkDestroy` calls. -/
def deviceObjects (s : Lanes) (device : ℕ) : List Native :=
  (s.fences.takeOwned device).1.map .fence ++ (s.semaphores.takeOwned device).1.map .semaphore ++
    [.device device]

def destroyDeviceObjects (s : Lanes) (device : ℕ) : Lanes :=
  { s.destroy (s.deviceObjects device) with
    fences := (s.fences.takeOwned device).2
    semaphores := (s.semaphores.takeOwned device).2
    queues := s.queues.retireOwned device }

def handleCreateDevice (s : Lanes) (made : Bool) : Lanes :=
  if made then { s with devices := (s.devices.add (some s.created) none).1, created := s.created + 1 } else s

def handleDestroyDevice (s : Lanes) (payload : List UInt8) : Lanes :=
  let (id, r) := (Reader.mk payload false).handle
  let (device, devices) := s.devices.take id.toNat
  let s := { s with devices := devices }
  match device with
  | some device => if r.ok then s.destroyDeviceObjects device else s
  | none => s

def handleGetDeviceQueue (s : Lanes) (payload : List UInt8) (found : Bool) : Lanes :=
  let (id, r) := (Reader.mk payload false).handle
  let (family, r) := r.u32
  let (index, r) := r.u32
  match s.devices.get id.toNat with
  | some device =>
    if r.ok then
      let queue := if found then some ⟨device, family, index⟩ else none
      { s with queues := (s.queues.addUnique queue (some device)).1 }
    else s
  | none => s

/-- `flags` go to the driver only. -/
def handleGetDeviceQueue2 (s : Lanes) (payload : List UInt8) (found : Bool) : Lanes :=
  let (id, r) := (Reader.mk payload false).handle
  let (_, r) := r.u32
  let (family, r) := r.u32
  let (index, r) := r.u32
  match s.devices.get id.toNat with
  | some device =>
    if r.ok ∧ found then
      { s with queues := (s.queues.addUnique (some ⟨device, family, index⟩) (some device)).1 }
    else s
  | none => s

def handleCreateFence (s : Lanes) (payload : List UInt8) (made : Bool) : Lanes :=
  let (id, _) := (Reader.mk payload false).handle
  match s.devices.get id.toNat with
  | some device =>
    if made then
      { s with fences := (s.fences.add (some s.created) (some device)).1, created := s.created + 1 }
    else s
  | none => s

/-- The fence leaves the table before the request is found well formed. -/
def handleDestroyFence (s : Lanes) (payload : List UInt8) : Lanes :=
  let (deviceId, r) := (Reader.mk payload false).handle
  let (fenceId, r) := r.handle
  let (fence, fences) := s.fences.take fenceId.toNat
  let s := { s with fences := fences }
  if r.ok ∧ (s.devices.get deviceId.toNat).isSome then s.destroy (fence.toList.map .fence) else s

def handleCreateSemaphore (s : Lanes) (payload : List UInt8) (made : Bool) : Lanes :=
  let (id, _) := (Reader.mk payload false).handle
  match s.devices.get id.toNat with
  | some device =>
    if made then
      { s with semaphores := (s.semaphores.add (some s.created) (some device)).1, created := s.created + 1 }
    else s
  | none => s

def handleDestroySemaphore (s : Lanes) (payload : List UInt8) : Lanes :=
  let (deviceId, r) := (Reader.mk payload false).handle
  let (id, r) := r.handle
  let (semaphore, semaphores) := s.semaphores.take id.toNat
  let s := { s with semaphores := semaphores }
  if r.ok ∧ (s.devices.get deviceId.toNat).isSome then s.destroy (semaphore.toList.map .semaphore) else s

/-- A job the workers refuse is gone. -/
def enqueue (s : Lanes) (requestId : ℕ) (wait : Wait) (lane : ℕ) : Lanes :=
  { s with workers := (s.workers.submit requestId wait lane).1 }

/-- `lane` is the native handle of the queue. -/
def serveQueueWaitIdle (s : Lanes) (lane : NativeQueue → ℕ) (requestId : ℕ) (payload : List UInt8) : Lanes :=
  let (id, r) := (Reader.mk payload false).handle
  match s.queues.get id.toNat with
  | some queue =>
    if requestId ≠ 0 ∧ r.ok ∧ r.remaining = 0 then s.enqueue requestId (.queueWaitIdle queue) (lane queue) else s
  | none => s

def serveDeviceWaitIdle (s : Lanes) (requestId : ℕ) (payload : List UInt8) : Lanes :=
  let (id, r) := (Reader.mk payload false).handle
  match s.devices.get id.toNat with
  | some device =>
    if requestId ≠ 0 ∧ r.ok ∧ r.remaining = 0 then s.enqueue requestId (.deviceWaitIdle device) 0 else s
  | none => s

def serveWaitForFences (s : Lanes) (requestId : ℕ) (payload : List UInt8) : Lanes :=
  let (id, r) := (Reader.mk payload false).handle
  let (waitAll, r) := r.u32
  let (count, r) := r.u32
  match s.devices.get id.toNat with
  | some device =>
    if requestId ≠ 0 ∧ count ≠ 0 ∧ count.toNat ≤ kMaxArrayElements ∧ countFits r count 8 then
      match readFences s.fences count.toNat r with
      | (some fences, r) =>
        let (timeout, r) := r.u64
        if r.ok ∧ r.remaining = 0 then
          s.enqueue requestId (.waitForFences device fences (waitAll ≠ 0) timeout) 0
        else s
      | (none, _) => s
    else s
  | none => s

def serveWaitSemaphores (s : Lanes) (requestId : ℕ) (payload : List UInt8) (found : Bool) : Lanes :=
  if requestId = 0 then s
  else
    let (id, r) := (Reader.mk payload false).handle
    let (flags, r) := r.u32
    let (count, r) := r.u32
    match s.devices.get id.toNat with
    | some device =>
      if count.toNat ≤ kMaxArrayElements ∧ countFits r count 16 then
        match readSemaphores s.semaphores count.toNat r with
        | (some semaphores, r) =>
          let (timeout, r) := r.u64
          if r.ok ∧ r.remaining = 0 ∧ found then
            s.enqueue requestId (.waitSemaphores device flags semaphores timeout) 0
          else s
        | (none, _) => s
      else s
    | none => s

def serve (s : Lanes) (lane : NativeQueue → ℕ) : LaneRequest → Lanes
  | .createDevice made => s.handleCreateDevice made
  | .destroyDevice payload => s.handleDestroyDevice payload
  | .getDeviceQueue payload found => s.handleGetDeviceQueue payload found
  | .getDeviceQueue2 payload found => s.handleGetDeviceQueue2 payload found
  | .createFence payload made => s.handleCreateFence payload made
  | .destroyFence payload => s.handleDestroyFence payload
  | .createSemaphore payload made => s.handleCreateSemaphore payload made
  | .destroySemaphore payload => s.handleDestroySemaphore payload
  | .queueWaitIdle requestId payload => s.serveQueueWaitIdle lane requestId payload
  | .deviceWaitIdle requestId payload => s.serveDeviceWaitIdle requestId payload
  | .waitForFences requestId payload => s.serveWaitForFences requestId payload
  | .waitSemaphores requestId payload found => s.serveWaitSemaphores requestId payload found

/-- The driver call of a job's turn, and whether the job will take another. -/
def slice (s : Lanes) (job : Job Wait) (again : Bool) : Lanes :=
  if job.run.sliced ∧ s.closing then { s with returned := insert job.ticket s.returned }
  else
    let s := { s with log := s.log ++ [.called job.run.uses] }
    if job.run.sliced ∧ again then s else { s with returned := insert job.ticket s.returned }

/-- `destroy_session_objects`, without the surfaces. -/
def destroySessionObjects (s : Lanes) : Lanes :=
  let (devices, rest) := s.devices.takeAll
  devices.foldl destroyDeviceObjects { s with devices := rest }

/-- A request on the control lane, a turn of a worker, or the end of the session. `again` says that a wait
timed out and has time left; a job that raises an exception sets `closing`. -/
inductive Action
  | request (r : LaneRequest)
  | take
  | slice (i : ℕ) (again : Bool)
  | raise (i : ℕ)
  | file (i : ℕ)
  | leave
  | tearDown
  deriving DecidableEq

/-- `workers.stop()` returns when no thread runs a job. -/
def step (lane : NativeQueue → ℕ) (s : Lanes) : Action → Option Lanes
  | .request r => if s.left then none else some (s.serve lane r)
  | .take => (s.workers.take Session.workerThreads).map fun w => { s with workers := w }
  | .slice i again =>
    match s.workers.running[i]? with
    | none => none
    | some job => if job.ticket ∈ s.returned then none else some (s.slice job again)
  | .raise i =>
    match s.workers.running[i]? with
    | none => none
    | some job =>
      if job.ticket ∈ s.returned then none
      else some { s with returned := insert job.ticket s.returned, closing := true }
  | .file i =>
    match s.workers.running[i]? with
    | none => none
    | some job =>
      if job.ticket ∈ s.returned then (s.workers.file i).map fun w => { s with workers := w } else none
  | .leave => if s.left then none else some { s with left := true, closing := true, workers := s.workers.stop }
  | .tearDown =>
    if s.left ∧ s.workers.running = [] ∧ ¬ s.tornDown then some (destroySessionObjects { s with tornDown := true })
    else none

end Lanes

end VkRemote.Server
