import Mathlib.Logic.Function.Basic
import VulkanRemote.Lib.Run
import VulkanRemote.Wire.Message

/-! The senders of one end of a connection, one action per call of `send`. The mutex is held for a whole
message; what a failed send is followed by depends on the caller. -/

namespace VkRemote.Wire

/-- On the client `send_oneway`, `round_trip`, `try_round_trip` and the heartbeat of `watchdog_loop`; on
the server any reply, of the control lane, of a Ping or of a worker. -/
inductive Caller
  | sendOneway
  | roundTrip
  | tryRoundTrip
  | heartbeat
  | reply
  deriving DecidableEq

/-- A sender inside `send_message`, with what is left of the header and of the payload, or after it, with
the mutex released and `fail_all` still to come. `midway` says that a part of its message was handed over;
the code does not keep that. -/
inductive Phase
  | sending (caller : Caller) (m : Message) (header payload : List UInt8)
  | failing (midway : Bool)
  deriving DecidableEq

/-- `sent` is what was handed to the peer, `begun` the messages of which it has a byte, and `cut` says that
one of them was given up midway. The code has none of the three. -/
structure Endpoint where
  server : Bool
  failed : Bool := false
  fdValid : Bool := true
  sendMutex : Option ℕ := none
  threads : ℕ → Option Phase := fun _ => none
  sent : List UInt8 := []
  begun : List Message := []
  cut : Bool := false

/-- What one call of `send` reports: that it took `n` bytes, an interruption, or an error. -/
inductive Outcome
  | taken (n : ℕ)
  | interrupted
  | error
  deriving DecidableEq

inductive SendAction
  | enter (t : ℕ) (caller : Caller) (m : Message)
  | send (t : ℕ) (outcome : Outcome)
  | failAll (t : Option ℕ)
  | shutdown

namespace Endpoint

variable {s s' : Endpoint} {t : ℕ} {caller : Caller} {m : Message} {header payload : List UInt8}

def setThread (s : Endpoint) (t : ℕ) (phase : Option Phase) : Endpoint :=
  { s with threads := Function.update s.threads t phase }

/-- The mutex is taken and, by the client, the connection checked. Where it has failed `round_trip` and
the heartbeat go on to `fail_all`, the others return. -/
def enter (s : Endpoint) (t : ℕ) (caller : Caller) (m : Message) : Endpoint :=
  if caller ≠ .reply ∧ (s.failed ∨ ¬ s.fdValid) then
    if caller = .roundTrip ∨ caller = .heartbeat then s.setThread t (some (.failing false)) else s
  else { s.setThread t (some (.sending caller m m.header m.payload)) with sendMutex := some t }

/-- `send` took the first `n` bytes of the buffer of `write_all`. -/
def advance (s : Endpoint) (t : ℕ) (caller : Caller) (m : Message) (header payload : List UInt8)
    (n : ℕ) : Endpoint :=
  let buffer := if header = [] then payload else header
  let header' := header.drop n
  let payload' := if header = [] then payload.drop n else payload
  let s := { s with
    sent := s.sent ++ buffer.take n
    begun := if header.length = headerSize then s.begun ++ [m] else s.begun }
  if header' = [] ∧ payload' = [] then { s.setThread t none with sendMutex := none }
  else s.setThread t (some (.sending caller m header' payload'))

/-- `send` reported an error. `send_oneway` marks the connection before it gives up the mutex, the other
calls of the client after, and the server does not look at what `send_message` returned. -/
def giveUp (s : Endpoint) (t : ℕ) (caller : Caller) (header : List UInt8) : Endpoint :=
  let midway := decide (header.length < headerSize)
  let s := { s with sendMutex := none, cut := s.cut || midway }
  match caller with
  | .sendOneway => { s.setThread t none with failed := true }
  | .reply => s.setThread t none
  | _ => s.setThread t (some (.failing midway))

def step (s : Endpoint) : SendAction → Option Endpoint
  | .enter t caller m =>
    if s.threads t = none ∧ s.sendMutex = none ∧ (caller = .reply ↔ s.server = true) then
      some (s.enter t caller m)
    else none
  | .send t outcome =>
    match s.threads t with
    | some (.sending caller m header payload) =>
      match outcome with
      | .taken n =>
        if 0 < n ∧ n ≤ (if header = [] then payload else header).length then
          some (s.advance t caller m header payload n)
        else none
      | .interrupted => some s
      | .error => some (s.giveUp t caller header)
    | _ => none
  | .failAll none => if s.server then none else some { s with failed := true }
  | .failAll (some t) =>
    match s.threads t with
    | some (.failing _) => some { s.setThread t none with failed := true }
    | _ => none
  | .shutdown => if s.server then none else some { s with fdValid := false }

def start (server : Bool) : Endpoint := { server := server }

/-- A sender of the client enters while no call whose message was cut is between the mutex and `fail_all`, a
reply of the server after no reply that was cut; the size of the payload fits the header. -/
def Uncut (s : Endpoint) : SendAction → Prop
  | .enter _ caller m => (∀ t, s.threads t ≠ some (.failing true)) ∧ (caller = .reply → s.cut = false) ∧
      m.payload.length < 2 ^ 32
  | _ => True

end Endpoint
end VkRemote.Wire
