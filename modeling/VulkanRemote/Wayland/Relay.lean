import VulkanRemote.Lib.Run
import VulkanRemote.Wayland.ClientHalf

/-! An application, the two halves of the proxy and libwayland with the compositor behind it, from the moment the
server half has accepted the link. Sockets are queues of bytes, and every read and write moves any number of
them. -/

namespace VkRemote.Wayland

open Lib

/-- The objects a message creates, with their interfaces. -/
def creations (args : List DecodedArg) : List (UInt32 × Name) :=
  (args.filter (·.type = .newId)).map fun arg => (arg.u32, arg.str)

/-- A request as the application means it: its bytes, the interface of the object it is for, what it creates and
whether it destroys the object. -/
structure Request where
  bytes : List UInt8
  interface : Name
  creates : List (UInt32 × Name) := []
  destroys : Bool := false
  deriving DecidableEq

def Request.object (r : Request) : UInt32 := objectField r.bytes

structure AppObject where
  interface : Name
  destroyed : Bool := false
  deriving DecidableEq

/-- The application and its Wayland library: the objects it has a name for, the requests it wrote and the events
it read. -/
structure App where
  objects : UInt32 → Option AppObject
  written : List Request := []
  read : List (List UInt8) := []

namespace App

def start : App where
  objects := Function.update (fun _ => none) 1 (some ⟨displayName, false⟩)

/-- A Wayland library does not take an id for a new object that is in use. -/
def give (objects : UInt32 → Option AppObject) (c : UInt32 × Name) : UInt32 → Option AppObject :=
  if (objects c.1).isSome then objects else Function.update objects c.1 (some ⟨c.2, false⟩)

def insert (objects : UInt32 → Option AppObject) (created : List (UInt32 × Name)) : UInt32 → Option AppObject :=
  created.foldl give objects

/-- Ids an application may give: never used before, not the server's, all different. The display is the one
object that is not made. -/
def Fresh (app : App) (created : List (UInt32 × Name)) : Prop :=
  (∀ c ∈ created, c.1 ≠ 0 ∧ c.1 < firstServerSideId ∧ app.objects c.1 = none ∧ c.2 ≠ displayName) ∧
    (created.map Prod.fst).Nodup

instance (app : App) (created : List (UInt32 × Name)) : Decidable (app.Fresh created) :=
  inferInstanceAs (Decidable (_ ∧ _))

instance (message : List UInt8) : Decidable (WholeMessage message) := inferInstanceAs (Decidable (_ ∧ _))

/-- What a well-behaved application may write: a whole message on an object it knows and has not destroyed. Of a
request that is not in the tables nothing more is said, as the client half reads nothing after it. A request whose
arguments do not decode is not well behaved here, be it one with a null string: the client half ends on it as on a
malformed one, and no run has that end. -/
def request (t : Tables) (app : App) (bytes : List UInt8) : Option Request :=
  match app.objects (objectField bytes) with
  | none => none
  | some object =>
    if object.destroyed ∨ ¬ WholeMessage bytes then none
    else
      match t.request object.interface (opcodeField bytes) with
      | none => some { bytes, interface := object.interface }
      | some spec =>
        match decodeMessage spec.args (bytes.drop 8) with
        | none => none
        | some args =>
          if countFdArgs spec = 0 ∧ app.Fresh (creations args) then
            some { bytes, interface := object.interface, creates := creations args, destroys := spec.isDestructor }
          else none

def write (app : App) (r : Request) : App :=
  { app with
    written := app.written ++ [r]
    objects := insert
      (if r.destroys then Function.update app.objects r.object (some ⟨r.interface, true⟩) else app.objects) r.creates }

/-- The new objects in an event, and what `delete_id` takes away. -/
def learn (t : Tables) (objects : UInt32 → Option AppObject) (bytes : List UInt8) : UInt32 → Option AppObject :=
  match objects (objectField bytes) with
  | none => objects
  | some object =>
    match t.event object.interface (opcodeField bytes) with
    | none => objects
    | some spec =>
      match decodeMessage spec.args (bytes.drop 8) with
      | none => objects
      | some args =>
        match WaylandProxy.isDeleteId object.interface spec, args with
        | true, arg :: _ => Function.update objects arg.u32 none
        | _, _ => insert objects (creations args)

def hear (t : Tables) (app : App) (bytes : List UInt8) : App :=
  { app with read := app.read ++ [bytes], objects := learn t app.objects bytes }

end App

/-- An event as the server half sent it: the frame, the interface its object has there and what it creates. -/
structure Told where
  frame : LinkFrame
  interface : Name
  creates : List (UInt32 × Name)
  deriving DecidableEq

def Told.object (e : Told) : UInt32 := objectField e.frame.wireBytes

/-- What the dispatcher of `proxy` puts into the buffer. -/
def WaylandProxy.told (t : Tables) (s : WaylandProxy) (proxy : Proxy) (id : UInt32) (event : Event) : Option Told :=
  (t.event proxy.interface event.opcode).bind fun spec =>
    let packed := eventArgs spec.args event.args proxy.origin s
    (encodeMessage id event.opcode packed.1).map fun wireBytes =>
      ⟨{ wireBytes, fdBlobs := packed.2.1 }, proxy.interface, creations packed.1⟩

/-- The lists say where each request and each event is: requests not yet taken by the client half, on the link,
applied, and events on the link and gone through the client half. No code reads them. -/
structure Relay where
  app : App := .start
  appSocket : List UInt8 := []
  client : ProxyClient := {}
  ended : Option Ending := none
  up : List UInt8 := []
  server : WaylandProxy := WaylandProxy.start.acceptLink
  down : List UInt8 := []
  refused : Option WaylandProxy.Refusal := none
  unsent : List Request := []
  requests : List Request := []
  applied : List Request := []
  events : List Told := []
  passed : List Told := []

/-- libwayland makes the proxies in an event with the interfaces the signature declares. -/
def Typed : List ArgSpec → List WlArgument → Bool
  | [], _ => true
  | spec :: specs, args =>
    (spec.type ≠ .newId || some (args.headD {}).n.1 = spec.interface) && Typed specs args.tail

namespace Relay

inductive Action
  | write (bytes : List UInt8)
  /-- the client half reads from the application, takes a request, writes to the link -/
  | recvApp (n : ℕ) | request | sendLink (n : ℕ)
  /-- the client half reads from the link, takes an event, writes to the application -/
  | recvLink (n : ℕ) | event (made : Bool) | sendApp (n : ℕ)
  /-- a socket of the client half fails -/
  | fail
  | dispatch (event : Event)
  | recv (n : Option ℕ) | frame (created : Bool) | send (n : Option ℕ)
  deriving DecidableEq

def turned (s : Relay) (next : ProxyClient → Relay) : Turn → Option Relay
  | .wait => none
  | .ended why => some { s with ended := some why }
  | .on c => some (next c)

def clientStep (t : Tables) (s : Relay) : Action → Option Relay
  | .recvApp n => some { s with
      client := { s.client with rxApp := s.client.rxApp ++ s.appSocket.take n }
      appSocket := s.appSocket.drop n }
  | .request => s.turned (fun c => { s with
      client := c
      unsent := s.unsent.tail
      requests := s.requests ++ s.unsent.head?.toList }) (s.client.extractAndForwardRequest t)
  | .sendLink n => some { s with
      client := { s.client with txLink := s.client.txLink.drop n }
      up := s.up ++ s.client.txLink.take n }
  | .recvLink n => some { s with
      client := { s.client with rxLink := s.client.rxLink ++ s.down.take n }
      down := s.down.drop n }
  | .event made => s.turned (fun c => { s with
      client := c
      events := s.events.tail
      passed := s.passed ++ s.events.head?.toList }) (s.client.extractAndForwardEvent t made)
  | .sendApp n => (s.client.flushTxApp n).map fun r =>
      { s with client := r.1, app := r.2.elim s.app (s.app.hear t) }
  | .fail => some { s with ended := some .socket }
  | _ => none

/-- One turn of the server half's loop over what it has received. -/
def frameStep (t : Tables) (s : Relay) (created : Bool) : Option Relay :=
  (s.server.step t (.frame created)).map fun server =>
    match takeLinkFrame s.server.rxBuf with
    | .ok frame rest =>
      match ({ s.server with rxBuf := rest }.handleRequestFrame t frame created).1 with
      | none => { s with
          server
          requests := s.requests.tail
          applied := s.applied ++ s.requests.head?.toList }
      | some refusal => { s with server, refused := some refusal }
    | _ => { s with server }

/-- The event is sent if there is a link, and there still is after it. -/
def dispatchStep (t : Tables) (s : Relay) (event : Event) : Option Relay :=
  match s.server.proxies event.target with
  | none => none
  | some proxy =>
    match proxy.id with
    | none => none
    | some id =>
      if (t.event proxy.interface event.opcode).all fun spec => Typed spec.args event.args then
        (s.server.step t (.dispatch event)).map fun server =>
          { s with
            server
            events := if server.linked then s.events ++ (s.server.told t proxy id event).toList else s.events }
      else none

def step (t : Tables) (s : Relay) : Action → Option Relay
  | .write bytes => (s.app.request t bytes).map fun r => { s with
      app := s.app.write r
      appSocket := s.appSocket ++ bytes
      unsent := s.unsent ++ [r] }
  | .dispatch event => s.dispatchStep t event
  | .recv n => (s.server.step t (.recv (n.map s.up.take))).map fun server =>
      { s with server, up := s.up.drop (n.getD 0) }
  | .frame created => s.frameStep t created
  | .send n => (s.server.step t (.send n)).map fun server =>
      { s with server, down := s.down ++ ((s.server.txBuf.take (n.getD 0)).map (·.byte)) }
  | a => if s.ended.isSome then none else s.clientStep t a

end Relay

/-! ### What is asked of the tables -/

/-- What every protocol description keeps to: a request creates one object at most, an event declares the
interfaces of what it creates, and nothing creates the display. -/
structure Tables.Protocol (t : Tables) : Prop where
  requests : ∀ i ∈ t.wire, ∀ m ∈ i.requests, (m.args.filter (·.type = .newId)).length ≤ 1
  events : ∀ i ∈ t.wire, ∀ m ∈ i.events, m.args.length < 2 ^ 16 ∧
    ∀ a ∈ m.args, a.type = .newId → a.interface ≠ none ∧ a.interface ≠ some displayName

theorem findMessage_mem {table : List InterfaceSpec} {n : Name} {isEvent : Bool} {opcode : UInt16}
    {spec : MessageSpec} (h : findMessage (findInterface table n) isEvent opcode = some spec) :
    ∃ i ∈ table, spec ∈ if isEvent then i.events else i.requests := by
  obtain ⟨i, hi, hspec⟩ := Option.bind_eq_some_iff.1 h
  exact ⟨i, List.mem_of_find?_eq_some hi, List.mem_of_getElem? hspec⟩

end VkRemote.Wayland
