import Mathlib.Data.Finset.Card
import Mathlib.Data.List.Perm.Basic
import Mathlib.Logic.Function.Basic
import VulkanRemote.Lib.Execution

/-! `RequestWorkers`, the server's pool of threads for blocking requests: one event per critical
section of its mutex. The control lane submits and stops; a worker takes the front job, runs it
outside the lock and then files it as finished, which hands its lane to the next job. -/

namespace VkRemote.Server

open VkRemote.Lib

variable {β : Type}

/-- The most jobs the pool accepts before one of them is finished. -/
def kMaxJobs : ℕ := 64

/-- `ticket` says how many jobs the pool had accepted before; the code has no such field. -/
structure Job (β : Type) where
  ticket : ℕ
  requestId : ℕ
  lane : ℕ
  run : β
  deriving DecidableEq

/-- `running` holds what the busy threads have taken and not filed yet. `accepted`, `started` and
`finished` keep the past, in order; the code has none of them. -/
structure RequestWorkers (β : Type) where
  jobs : List (Job β) := []
  laneJobs : ℕ → List (Job β) := fun _ => []
  activeLanes : Finset ℕ := ∅
  activeIds : Finset ℕ := ∅
  stopping : Bool := false
  running : List (Job β) := []
  accepted : List (Job β) := []
  started : List (Job β) := []
  finished : List (Job β) := []

namespace RequestWorkers

def submit (w : RequestWorkers β) (requestId : ℕ) (run : β) (lane : ℕ) : RequestWorkers β × Bool :=
  if w.stopping ∨ requestId ∈ w.activeIds ∨ kMaxJobs ≤ w.activeIds.card then (w, false)
  else
    let job : Job β := ⟨w.accepted.length, requestId, lane, run⟩
    let w := { w with activeIds := insert requestId w.activeIds, accepted := w.accepted ++ [job] }
    if lane = 0 ∨ lane ∉ w.activeLanes then
      ({ w with
          activeLanes := if lane = 0 then w.activeLanes else insert lane w.activeLanes
          jobs := w.jobs ++ [job] }, true)
    else
      ({ w with laneJobs := Function.update w.laneJobs lane (w.laneJobs lane ++ [job]) }, true)

/-- The first critical section of a worker's loop; it blocks unless a job is queued. -/
def take (threads : ℕ) (w : RequestWorkers β) : Option (RequestWorkers β) :=
  if w.stopping then none
  else if w.running.length < threads then
    match w.jobs with
    | [] => none
    | job :: rest =>
      some { w with jobs := rest, running := w.running ++ [job], started := w.started ++ [job] }
  else none

/-- The job leaves its thread and its id is free again. -/
def retire (w : RequestWorkers β) (i : ℕ) (job : Job β) : RequestWorkers β :=
  { w with
    running := w.running.eraseIdx i
    finished := w.finished ++ [job]
    activeIds := w.activeIds.erase job.requestId }

/-- The lane of a finished job goes to the next job that waits for it. An empty deque and a missing
entry of `lane_jobs_` are the same here: the code erases a deque it empties. -/
def handOver (w : RequestWorkers β) (lane : ℕ) : RequestWorkers β :=
  if lane = 0 then w
  else
    match w.laneJobs lane with
    | next :: rest =>
      { w with jobs := w.jobs ++ [next], laneJobs := Function.update w.laneJobs lane rest }
    | [] => { w with activeLanes := w.activeLanes.erase lane }

/-- The second critical section, by the thread that ran `running[i]`. -/
def file (w : RequestWorkers β) (i : ℕ) : Option (RequestWorkers β) :=
  match w.running[i]? with
  | none => none
  | some job => some ((w.retire i job).handOver job.lane)

def stop (w : RequestWorkers β) : RequestWorkers β :=
  if w.stopping then w else { w with stopping := true, jobs := [], laneJobs := fun _ => [] }

inductive Event (β : Type)
  | submit (requestId : ℕ) (run : β) (lane : ℕ)
  | take
  | file (i : ℕ)
  | stop

def step (threads : ℕ) (w : RequestWorkers β) : Event β → Option (RequestWorkers β)
  | .submit requestId run lane => some (w.submit requestId run lane).1
  | .take => w.take threads
  | .file i => w.file i
  | .stop => some w.stop

end RequestWorkers

end VkRemote.Server
