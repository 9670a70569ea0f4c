import Mathlib.Logic.Function.Basic
import VulkanRemote.Lib.Run
import VulkanRemote.Tools.Trace
import VulkanRemote.Wire.Message

/-! `record_connection`: two threads, each of which receives a message, records it under the lock and sends
it on with the lock released. A call of `recv` or `send` is a step, with as many bytes as it happens to
move. -/

namespace VkRemote.Tools

open Wire (Message headerSize headerOpcode headerSizeField headerRequestId)

inductive Direction
  | clientToServer
  | serverToClient
  deriving DecidableEq

def Direction.code : Direction → ℤ
  | .clientToServer => Tools.clientToServer
  | .serverToClient => Tools.serverToClient

/-- Where a relay thread is. `recv_exact` has got some bytes of a header or of a payload, `sendall` has some
left to send; the lock is taken between the two. -/
inductive Phase
  | top
  | header (got : List UInt8)
  | payload (header got : List UInt8)
  | recording (m : Message)
  | sending (m : Message) (rest : List UInt8)
  | finished
  | failed
  deriving DecidableEq

namespace Phase

/-- How many bytes the next `recv` asks for. -/
def wanted : Phase → ℕ
  | header got => headerSize - got.length
  | payload h got => headerSizeField h - got.length
  | _ => 0

/-- The thread is in a call that can time out or fail. -/
def blocked : Phase → Bool
  | header _ | payload _ _ | sending _ _ => true
  | _ => false

def ended : Phase → Bool
  | finished | failed => true
  | _ => false

end Phase

/-- One thread with its source and its destination: all the source has written, the part of it that is not
yet received, whether the source has closed, and all that has been sent on. -/
structure Relay where
  phase : Phase := .top
  written : List UInt8 := []
  pending : List UInt8 := []
  closed : Bool := false
  delivered : List UInt8 := []
  deriving DecidableEq

structure Recorder where
  records : List Record := []
  encodedSize : ℕ
  errors : List Error := []
  stop : Bool := false
  relays : Direction → Relay := fun _ => {}

/-- `sys.maxsize`: a list holds no more. -/
def maxsize : ℕ := 2 ^ 63 - 1

/-- `record_connection` up to its threads. -/
def recordConnection (limits : Limits) (initialTraceBytes : ℕ) : Except Error Recorder :=
  if initialTraceBytes < fileHeaderSize + trailerSize then
    .error (.trace "initial trace size is smaller than fixed trace overhead")
  else if limits.maxTraceBytes < initialTraceBytes then
    .error (.trace s!"trace exceeds {limits.maxTraceBytes} bytes before recording")
  else .ok { encodedSize := initialTraceBytes }

/-- `run_record` up to the threads: what it checks of the metadata before it opens a socket. -/
def runRecord (limits : Limits) (metadata : List UInt8) : Except Error Recorder :=
  if limits.maxMetadata < metadata.length then
    .error (.trace s!"metadata exceeds {limits.maxMetadata} bytes")
  else if limits.maxTraceBytes < fileHeaderSize + metadata.length + trailerSize then
    .error (.trace s!"trace exceeds {limits.maxTraceBytes} bytes before recording")
  else recordConnection limits (fileHeaderSize + metadata.length + trailerSize)

/-- A header has come in whole. -/
def afterHeader (limits : Limits) (h : List UInt8) : Except Error Phase :=
  if limits.maxPayload < headerSizeField h then
    .error (.trace s!"wire payload {headerSizeField h} exceeds {limits.maxPayload} bytes")
  else if headerSizeField h = 0 then .ok (.recording ⟨headerOpcode h, headerRequestId h, []⟩)
  else .ok (.payload h [])

def received (limits : Limits) (chunk : List UInt8) : Phase → Except Error Phase
  | .header got =>
    if (got ++ chunk).length = headerSize then afterHeader limits (got ++ chunk)
    else .ok (.header (got ++ chunk))
  | .payload h got =>
    if (got ++ chunk).length = headerSizeField h then
      .ok (.recording ⟨headerOpcode h, headerRequestId h, got ++ chunk⟩)
    else .ok (.payload h (got ++ chunk))
  | phase => .ok phase

namespace Recorder

def setRelay (s : Recorder) (d : Direction) (r : Relay) : Recorder :=
  { s with relays := Function.update s.relays d r }

def setPhase (s : Recorder) (d : Direction) (p : Phase) : Recorder :=
  s.setRelay d { s.relays d with phase := p }

/-- The thread of `d` fails: both sockets are shut down. -/
def raise (s : Recorder) (d : Direction) (e : Error) : Recorder :=
  { s with
    errors := s.errors ++ [e]
    stop := true
    relays := fun x =>
      { s.relays x with closed := true, phase := if x = d then .failed else (s.relays x).phase } }

def record (s : Recorder) (d : Direction) (m : Message) : Record where
  sequence := s.records.length
  direction := d.code
  opcode := m.opcode.toNat
  payload := m.payload
  requestId := m.requestId.toNat

/-- What is done under the lock. -/
def append (limits : Limits) (s : Recorder) (d : Direction) (m : Message) : Recorder :=
  if limits.maxRecords ≤ s.records.length then
    s.raise d (.trace s!"connection exceeds {limits.maxRecords} records")
  else if limits.maxTraceBytes < s.encodedSize + (recordHeaderSize + m.payload.length) then
    s.raise d (.trace s!"connection trace exceeds {limits.maxTraceBytes} bytes")
  else if maxsize ≤ s.records.length then
    s.raise d (.builtin "cannot add more objects to list")
  else
    { s with
      records := s.records ++ [s.record d m]
      encodedSize := s.encodedSize + (recordHeaderSize + m.payload.length)
      relays := Function.update s.relays d { s.relays d with phase := .sending m m.bytes } }

end Recorder

inductive Action
  | write (d : Direction) (bytes : List UInt8)
  | close (d : Direction)
  | enter (d : Direction)
  | recv (d : Direction) (n : ℕ)
  | eof (d : Direction)
  | append (d : Direction)
  | send (d : Direction) (n : ℕ)
  | fail (d : Direction) (e : Error)
  deriving DecidableEq

/-- The peers write and close; the threads enter their loop, receive, find the end of the stream, record,
send, or fail in a call. -/
def step (limits : Limits) (s : Recorder) : Action → Option Recorder
  | .write d bytes =>
    if (s.relays d).closed then none
    else some (s.setRelay d { s.relays d with
      written := (s.relays d).written ++ bytes
      pending := (s.relays d).pending ++ bytes })
  | .close d => some (s.setRelay d { s.relays d with closed := true })
  | .enter d =>
    if (s.relays d).phase = .top then some (s.setPhase d (if s.stop then .finished else .header []))
    else none
  | .recv d n =>
    if 0 < n ∧ n ≤ (s.relays d).phase.wanted ∧ n ≤ (s.relays d).pending.length then
      let s' := s.setRelay d { s.relays d with pending := (s.relays d).pending.drop n }
      match received limits ((s.relays d).pending.take n) (s.relays d).phase with
      | .ok p => some (s'.setPhase d p)
      | .error e => some (s'.raise d e)
    else none
  | .eof d =>
    if (s.relays d).pending = [] ∧ (s.relays d).closed = true then
      match (s.relays d).phase with
      | .header got =>
        if got = [] then some (s.setPhase d .finished)
        else some (s.raise d (.trace "connection closed during wire header"))
      | .payload _ _ => some (s.raise d (.trace "connection closed during wire payload"))
      | _ => none
    else none
  | .append d =>
    match (s.relays d).phase with
    | .recording m => some (s.append limits d m)
    | _ => none
  | .send d n =>
    match (s.relays d).phase with
    | .sending m rest =>
      if 0 < n ∧ n ≤ rest.length then
        some (s.setRelay d { s.relays d with
          delivered := (s.relays d).delivered ++ rest.take n
          phase := if rest.drop n = [] then .top else .sending m (rest.drop n) })
      else none
    | _ => none
  | .fail d e => if (s.relays d).phase.blocked then some (s.raise d e) else none

/-- What `record_connection` returns or raises once both threads are joined. -/
def Recorder.result (s : Recorder) : Option (Except Error (List Record)) :=
  if (s.relays .clientToServer).phase.ended && (s.relays .serverToClient).phase.ended then
    match s.errors with
    | [] => some (.ok s.records)
    | .trace m :: _ => some (.error (.trace m))
    | .builtin m :: _ => some (.error (.trace s!"proxy failed: {m}"))
  else none

end VkRemote.Tools
