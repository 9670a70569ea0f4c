import VulkanRemote.Server.Scheduling

/-! One client's session on the server, as far as the one-way error count goes: what the control lane
of `Server::serve` and the workers' jobs do with `oneway_errors`, and the replies they send. What
a payload decodes to and what a Vulkan call returns are left to the event. -/

namespace VkRemote.Server

inductive Status
  | ok
  | unsupportedCommand
  | decodeError
  deriving DecidableEq

inductive Command
  | queueSubmit
  | queueSubmit2
  | queueBindSparse
  | queueWaitIdle
  | deviceWaitIdle
  | waitForFences
  | waitSemaphores
  deriving DecidableEq

/-- A reply as it is handed to the socket: the status word, the `VkResult` and the error count. -/
structure Reply where
  requestId : ℕ
  command : Command
  status : Status
  result : Option ℤ := none
  errors : Option UInt32 := none
  deriving DecidableEq

/-- What a job on the workers does; a device idle carries the count taken when it was queued. -/
inductive Work
  | queueWaitIdle
  | deviceWaitIdle (errors : UInt32)
  | waitForFences
  | waitSemaphores
  deriving DecidableEq

def Work.command : Work → Command
  | .queueWaitIdle => .queueWaitIdle
  | .deviceWaitIdle _ => .deviceWaitIdle
  | .waitForFences => .waitForFences
  | .waitSemaphores => .waitSemaphores

def Work.errors : Work → Option UInt32
  | .deviceWaitIdle errors => some errors
  | _ => none

/-- `served` holds the tickets of the jobs whose `run` has returned and `marked` counts the errors
marked so far; the code has neither. -/
structure Session where
  onewayErrors : UInt32 := 0
  workers : RequestWorkers Work := {}
  replies : List Reply := []
  served : Finset ℕ := ∅
  marked : ℕ := 0

namespace Session

/-- `send_message` under the reply mutex. -/
def send (s : Session) (r : Reply) : Session :=
  { s with replies := s.replies ++ [r] }

/-- `Session::reply`: a request without an id gets no answer. -/
def reply (s : Session) (r : Reply) : Session :=
  if r.requestId = 0 then s else s.send r

/-- `mark_oneway_error` and the validation callback, `n` times during one request. -/
def markOnewayError (s : Session) (n : ℕ) : Session :=
  { s with onewayErrors := s.onewayErrors + UInt32.ofNat n, marked := s.marked + n }

/-- What a submit finds in its payload and gets from the driver. -/
inductive Submitted
  | undecodable
  | unsupported
  | ran (result : ℤ)
  deriving DecidableEq

/-- The end of the three submits: the call comes first, then the count is replied and cleared. -/
def collect (s : Session) (command : Command) (requestId : ℕ) : Submitted → Session
  | .undecodable => s.reply ⟨requestId, command, .decodeError, none, none⟩
  | .unsupported => s.reply ⟨requestId, command, .unsupportedCommand, none, none⟩
  | .ran result =>
    { s with onewayErrors := 0 }.reply ⟨requestId, command, .ok, some result, some s.onewayErrors⟩

def handleQueueSubmit (s : Session) (requestId : ℕ) (outcome : Submitted) : Session :=
  s.collect .queueSubmit requestId outcome

def handleQueueSubmit2 (s : Session) (requestId : ℕ) (outcome : Submitted) : Session :=
  s.collect .queueSubmit2 requestId outcome

def handleQueueBindSparse (s : Session) (requestId : ℕ) (outcome : Submitted) : Session :=
  s.collect .queueBindSparse requestId outcome

/-- Hand a job to the workers; if they refuse, say so. -/
def enqueue (s : Session) (requestId : ℕ) (work : Work) (lane : ℕ) : Session :=
  let (workers, submitted) := s.workers.submit requestId work lane
  if submitted then { s with workers := workers }
  else s.send ⟨requestId, work.command, .decodeError, none, none⟩

/-- `queue` is what the payload names, `VK_NULL_HANDLE` (0) also if it does not decode. The native
handle is the job's lane. -/
def serveQueueWaitIdle (s : Session) (requestId queue : ℕ) : Session :=
  if requestId ≠ 0 ∧ queue ≠ 0 then s.enqueue requestId .queueWaitIdle queue
  else s.reply ⟨requestId, .queueWaitIdle, .decodeError, none, none⟩

/-- The count is taken and cleared before the job is queued. -/
def serveDeviceWaitIdle (s : Session) (requestId device : ℕ) : Session :=
  if requestId ≠ 0 ∧ device ≠ 0 then
    { s with onewayErrors := 0 }.enqueue requestId (.deviceWaitIdle s.onewayErrors) 0
  else s.reply ⟨requestId, .deviceWaitIdle, .decodeError, none, none⟩

def serveWaitForFences (s : Session) (requestId : ℕ) (decoded : Bool) : Session :=
  if requestId ≠ 0 ∧ decoded then s.enqueue requestId .waitForFences 0
  else s.reply ⟨requestId, .waitForFences, .decodeError, none, none⟩

/-- `found` says whether the device has `vkWaitSemaphores`. -/
def serveWaitSemaphores (s : Session) (requestId : ℕ) (decoded found : Bool) : Session :=
  if requestId = 0 then s.reply ⟨requestId, .waitSemaphores, .decodeError, none, none⟩
  else if decoded ∧ found then s.enqueue requestId .waitSemaphores 0
  else
    s.reply ⟨requestId, .waitSemaphores, if decoded then .unsupportedCommand else .decodeError,
      none, none⟩

/-- The job in `running[i]` runs: it replies, or an exception ends it with nothing sent. -/
def work (s : Session) (i : ℕ) (result : Option ℤ) : Option Session :=
  match s.workers.running[i]? with
  | none => none
  | some job =>
    if job.ticket ∈ s.served then none
    else
      let s := { s with served := insert job.ticket s.served }
      match result with
      | some result => some (s.send ⟨job.requestId, job.run.command, .ok, some result, job.run.errors⟩)
      | none => some s

/-- A job is filed when its `run` has returned. -/
def file (s : Session) (i : ℕ) : Option Session :=
  match s.workers.running[i]? with
  | none => none
  | some job =>
    if job.ticket ∈ s.served then (s.workers.file i).map fun w => { s with workers := w } else none

/-- One request on the control lane, one critical section of a worker, or one job's `run`. `command`
is any request whose handler leaves the count alone but for marking; `marks` counts the errors
marked before a submit's reply. -/
inductive Event
  | command (marks : ℕ)
  | queueSubmit (requestId : ℕ) (outcome : Submitted) (marks : ℕ)
  | queueSubmit2 (requestId : ℕ) (outcome : Submitted) (marks : ℕ)
  | queueBindSparse (requestId : ℕ) (outcome : Submitted) (marks : ℕ)
  | queueWaitIdle (requestId queue : ℕ)
  | deviceWaitIdle (requestId device : ℕ)
  | waitForFences (requestId : ℕ) (decoded : Bool)
  | waitSemaphores (requestId : ℕ) (decoded found : Bool)
  | take
  | work (i : ℕ) (result : Option ℤ)
  | file (i : ℕ)
  | stop

/-- `serve` runs its workers on eight threads. -/
def workerThreads : ℕ := 8

def step (s : Session) : Event → Option Session
  | .command marks => some (s.markOnewayError marks)
  | .queueSubmit requestId outcome marks =>
    some ((s.markOnewayError marks).handleQueueSubmit requestId outcome)
  | .queueSubmit2 requestId outcome marks =>
    some ((s.markOnewayError marks).handleQueueSubmit2 requestId outcome)
  | .queueBindSparse requestId outcome marks =>
    some ((s.markOnewayError marks).handleQueueBindSparse requestId outcome)
  | .queueWaitIdle requestId queue => some (s.serveQueueWaitIdle requestId queue)
  | .deviceWaitIdle requestId device => some (s.serveDeviceWaitIdle requestId device)
  | .waitForFences requestId decoded => some (s.serveWaitForFences requestId decoded)
  | .waitSemaphores requestId decoded found => some (s.serveWaitSemaphores requestId decoded found)
  | .take => (s.workers.take workerThreads).map fun w => { s with workers := w }
  | .work i result => s.work i result
  | .file i => s.file i
  | .stop => some { s with workers := s.workers.stop }

end Session

end VkRemote.Server
