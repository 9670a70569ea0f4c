import Mathlib.Data.UInt
import Mathlib.Logic.Function.Basic
import VulkanRemote.Lib.Assoc
import VulkanRemote.Lib.Run

/-! The client's `Connection` as a transition system: any number of calling threads in
`round_trip` and `try_round_trip`, the watchdog's heartbeat, the receiver thread and
`fail_all`, one action per critical section or per send. The wire carries requests to the
peer and replies back; the peer answers sent requests in any order. -/

namespace VkRemote.Client

abbrev RequestId := UInt64
abbrev Opcode := UInt32
/-- Position of a `Pending` object in the order the objects are made. -/
abbrev WaiterId := Nat

/-- `Opcode::Ping`, the last of the four opcodes the protocol adds before the Vulkan commands. -/
def opcodePing : Opcode := 5

inductive CallKind
  | roundTrip
  | tryRoundTrip
  | heartbeat
  deriving DecidableEq

/-- Where the calling thread stands between its critical sections. -/
inductive Phase
  | registered
  | waiting
  | failing
  | withdrawing
  | returned (ok : Bool)
  deriving DecidableEq

/-- A request as the peer received it. `waiter` says which call sent it and is not on the wire. -/
structure Request where
  id : RequestId
  opcode : Opcode
  waiter : WaiterId
  deriving DecidableEq

/-- A reply on its way to the client, with the request it answers. -/
structure Reply where
  id : RequestId
  opcode : Opcode
  payload : List UInt8
  answers : WaiterId
  deriving DecidableEq

/-- `Connection::Pending` with its calling thread. `wakes` counts how often `done` was set and
`got` keeps the reply it was set with; the code has neither. -/
structure Pending where
  kind : CallKind
  opcode : Opcode
  requestId : RequestId
  phase : Phase := .registered
  reply : List UInt8 := []
  done : Bool := false
  ok : Bool := false
  wakes : Nat := 0
  got : Option Reply := none
  deriving DecidableEq

/-- The receiver thread: reading the socket, holding a waiter between its two critical
sections, out of the loop but before `fail_all`, or gone. -/
inductive Receiver
  | reading
  | delivering (w : WaiterId) (r : Reply)
  | broken
  | ended
  deriving DecidableEq

structure Connection where
  pending : List (RequestId × WaiterId) := []
  nextRequestId : RequestId := 1
  failed : Bool := false
  stopping : Bool := false
  fdValid : Bool := true
  heartbeatEnabled : Bool := false
  applicationPending : Nat := 0
  heartbeatId : RequestId := 0
  receiver : Receiver := .reading
  /-- Waiters `fail_all` took out of `pending` and has not woken yet. -/
  broadcast : List WaiterId := []
  waiters : WaiterId → Option Pending := fun _ => none
  created : Nat := 0
  /-- Requests the peer has received and not answered. -/
  sent : List Request := []
  replies : List Reply := []

namespace Connection

def keys (c : Connection) : List RequestId := c.pending.map Prod.fst

/-- `do { id = next_request_id++; } while (id == 0 || pending.count(id));` -/
def allocateId (taken : List RequestId) : Nat → RequestId → Option (RequestId × RequestId)
  | 0, _ => none
  | fuel + 1, next =>
    if next = 0 ∨ next ∈ taken then allocateId taken fuel (next + 1)
    else some (next, next + 1)

def setWaiter (c : Connection) (w : WaiterId) (p : Pending) : Connection :=
  { c with waiters := Function.update c.waiters w (some p) }

/-- Status word of a reply: `payload.size() >= 4` and the first four bytes are `Status::Ok`. -/
def replyOk : List UInt8 → Bool
  | b₀ :: b₁ :: b₂ :: b₃ :: _ => b₀ = 0 && b₁ = 0 && b₂ = 0 && b₃ = 0
  | _ => false

/-- The registration every kind of call makes under `pending_mutex`. -/
def register (c : Connection) (kind : CallKind) (opcode : Opcode) : Option Connection :=
  (allocateId c.keys (c.pending.length + 2) c.nextRequestId).map fun (id, next) =>
    { c with
      nextRequestId := next
      pending := c.pending ++ [(id, c.created)]
      waiters := Function.update c.waiters c.created
        (some { kind := kind, opcode := opcode, requestId := id })
      created := c.created + 1
      applicationPending :=
        if kind = .heartbeat then c.applicationPending else c.applicationPending + 1
      heartbeatId := if kind = .heartbeat then id else c.heartbeatId }

/-- First critical section of `fail_all`; the waiters it collected are woken one by one. -/
def failAll (c : Connection) : Connection :=
  if c.failed then c
  else
    { c with
      failed := true
      stopping := true
      applicationPending := 0
      heartbeatId := 0
      broadcast := c.broadcast ++ c.pending.map Prod.snd
      pending := [] }

/-- Removal of a matched entry in `receive_loop`, with the two counters it settles. -/
def takeEntry (c : Connection) (id : RequestId) : Connection :=
  { c with
    pending := Lib.eraseKey id c.pending
    heartbeatId := if id = c.heartbeatId then 0 else c.heartbeatId
    applicationPending :=
      if id = c.heartbeatId then c.applicationPending else c.applicationPending - 1 }

/-- `waiter->done = true` with its reply, and the notification. -/
def wake (p : Pending) (ok : Bool) (got : Option Reply) : Pending :=
  { p with
    done := true
    ok := ok
    reply := (got.map Reply.payload).getD p.reply
    got := got
    wakes := p.wakes + 1 }

end Connection

/-- One critical section, send or arrival. -/
inductive Action
  /-- `round_trip` or `try_round_trip` registers its waiter. -/
  | call (kind : CallKind) (opcode : Opcode)
  /-- The watchdog finds application work outstanding for a whole interval. -/
  | heartbeat
  | enableHeartbeat
  /-- The send section: whether the send lock was had, and whether the message went out. -/
  | send (w : WaiterId) (owned delivered : Bool)
  /-- A call whose send failed runs `fail_all` and returns false. -/
  | giveUp (w : WaiterId)
  /-- `try_round_trip` that never got the send lock takes its entry back. -/
  | withdraw (w : WaiterId)
  /-- A one-way send failed, the instance is shut down. -/
  | fail
  /-- The watchdog finds its heartbeat unanswered while work is outstanding. -/
  | heartbeatLost
  | wakeNext
  | answer (i : Nat) (payload : List UInt8)
  | receive
  | hangUp
  | deliver
  | receiverFails
  /-- `shutdown` drops the socket once every waiter has been failed. -/
  | closeFd
  /-- The waiting thread sees `done` and returns. -/
  | collect (w : WaiterId)
  deriving DecidableEq

open Connection in
/-- One action; `none` where the action is not enabled. -/
def step (c : Connection) : Action → Option Connection
  | .call kind opcode =>
    if kind = .heartbeat ∨ c.failed ∨ 1024 ≤ c.pending.length then none
    else c.register kind opcode
  | .heartbeat =>
    if c.stopping ∨ c.failed ∨ ¬ c.heartbeatEnabled ∨ c.heartbeatId ≠ 0 ∨
        c.applicationPending = 0 then none
    else c.register .heartbeat opcodePing
  | .enableHeartbeat => some { c with heartbeatEnabled := true }
  | .send w owned delivered => do
    let p ← c.waiters w
    if p.phase ≠ .registered then none
    -- only `try_round_trip` can fail to get the lock
    else if p.kind = .tryRoundTrip ∧ (¬ owned ∨ c.failed ∨ ¬ c.fdValid) then
      some (c.setWaiter w { p with phase := .withdrawing })
    else if c.failed ∨ ¬ c.fdValid ∨ ¬ delivered then
      some (c.setWaiter w { p with phase := .failing })
    else
      some { c.setWaiter w { p with phase := .waiting } with
        sent := c.sent ++ [⟨p.requestId, p.opcode, w⟩] }
  | .giveUp w => do
    let p ← c.waiters w
    if p.phase = .failing then
      some (c.failAll.setWaiter w { p with phase := .returned false })
    else none
  | .withdraw w => do
    let p ← c.waiters w
    if p.phase = .withdrawing then
      some { c.setWaiter w { p with phase := .returned false } with
        pending := Lib.eraseKey p.requestId c.pending
        applicationPending := c.applicationPending - 1 }
    else none
  | .fail => some c.failAll
  | .heartbeatLost =>
    if c.heartbeatId = 0 ∨ c.applicationPending = 0 ∨ c.stopping ∨ c.failed then none
    else some c.failAll
  | .wakeNext =>
    match c.broadcast with
    | [] => none
    | w :: rest => do
      let p ← c.waiters w
      some { c.setWaiter w (wake p false none) with broadcast := rest }
  | .answer i payload => do
    let q ← c.sent[i]?
    some { c with
      sent := c.sent.eraseIdx i
      replies := c.replies ++ [⟨q.id, q.opcode, payload, q.waiter⟩] }
  | .receive =>
    match c.receiver, c.replies with
    | .reading, r :: rest =>
      match c.pending.find? (fun e => e.1 = r.id) with
      | none => some { c with replies := rest, receiver := .broken }
      | some e => do
        let p ← c.waiters e.2
        if r.id = 0 ∨ r.opcode ≠ p.opcode then
          some { c with replies := rest, receiver := .broken }
        else some { c.takeEntry r.id with replies := rest, receiver := .delivering e.2 r }
    | _, _ => none
  | .hangUp => if c.receiver = .reading then some { c with receiver := .broken } else none
  | .deliver =>
    match c.receiver with
    | .delivering w r => do
      let p ← c.waiters w
      some { c.setWaiter w (wake p (replyOk r.payload) (some r)) with receiver := .reading }
    | _ => none
  | .receiverFails =>
    if c.receiver = .broken then some { c.failAll with receiver := .ended } else none
  | .closeFd => if c.failed then some { c with fdValid := false } else none
  | .collect w => do
    let p ← c.waiters w
    if p.phase = .waiting ∧ p.done then
      some (c.setWaiter w { p with phase := .returned p.ok })
    else none

/-- The actions that run `fail_all`. -/
def Action.Fails : Action → Prop
  | .giveUp _ | .fail | .heartbeatLost | .receiverFails => True
  | _ => False

/-- The connection after `start_receiver`. -/
def initial : Connection := {}

end VkRemote.Client
