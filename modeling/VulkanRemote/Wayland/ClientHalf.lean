import VulkanRemote.Wayland.ServerHalf

/-! `ProxyClient`, the half the application is connected to. Each turn of its two loops is a step of its own, and
so is everything that reads from a socket or writes to one. -/

namespace VkRemote.Wayland

structure ObjectInfo where
  interface : Name
  version : UInt32
  deriving DecidableEq

abbrev ObjectTable := UInt32 → Option ObjectInfo

def objectTable : ObjectTable := Function.update (fun _ => none) 1 (some ⟨displayName, 1⟩)

/-- The entry a `new_id` argument makes. -/
def DecodedArg.info (arg : DecodedArg) : ObjectInfo :=
  ⟨arg.str, if arg.newIdVersion ≠ 0 then arg.newIdVersion else 1⟩

def insertNewIds (table : ObjectTable) (args : List DecodedArg) : ObjectTable :=
  args.foldl (fun table arg =>
    if arg.type = .newId then Function.update table arg.u32 (some arg.info) else table) table

def trackObjectLifetime (table : ObjectTable) (interface : Name) (isEvent : Bool) (msg : MessageSpec)
    (args : List DecodedArg) : ObjectTable :=
  match isEvent && WaylandProxy.isDeleteId interface msg, args with
  | true, arg :: _ => Function.update table arg.u32 none
  | _, _ => insertNewIds table args

/-- `fds` are the contents of the descriptors that go with the message, and `offset` is how much of it has been
sent. -/
structure PendingAppMessage where
  bytes : List UInt8
  fds : List (List UInt8)
  offset : ℕ := 0
  deriving DecidableEq

structure ProxyClient where
  objects : ObjectTable := objectTable
  rxApp : List UInt8 := []
  rxLink : List UInt8 := []
  txLink : List UInt8 := []
  pendingApp : List PendingAppMessage := []

/-- Why the client half ends. -/
inductive Ending
  | malformedRequest | unknownObject | unknownRequest | refusedFd
  | malformedEvent | truncatedEvent | unknownEvent | fdMismatch | noMemfd
  | socket
  deriving DecidableEq

/-- One turn of a loop: it waits for more, it ends the program, or it goes on. -/
inductive Turn
  | wait
  | ended (why : Ending)
  | on (c : ProxyClient)

namespace ProxyClient

def extractAndForwardRequest (t : Tables) (c : ProxyClient) : Turn :=
  match takeWireMessage c.rxApp with
  | .needMoreData => .wait
  | .malformed => .ended .malformedRequest
  | .ok whole rest =>
    match c.objects (objectField whole) with
    | none => .ended .unknownObject
    | some obj =>
      match t.request obj.interface (opcodeField whole) with
      | none => .ended .unknownRequest
      | some spec =>
        if 0 < countFdArgs spec then .ended .refusedFd
        else
          match decodeMessage spec.args (whole.drop 8) with
          | none => .ended .malformedRequest
          | some args =>
            .on { c with
              rxApp := rest
              objects := trackObjectLifetime c.objects obj.interface false spec args
              txLink := c.txLink ++ writeLinkFrame { wireBytes := whole } }

/-- `made` says whether the descriptors for the application could be made. -/
def extractAndForwardEvent (t : Tables) (c : ProxyClient) (made : Bool) : Turn :=
  match takeLinkFrame c.rxLink with
  | .needMoreData => .wait
  | .malformed => .ended .malformedEvent
  | .ok frame rest =>
    if frame.wireBytes.length < 8 then .ended .truncatedEvent
    else
      match c.objects (objectField frame.wireBytes) with
      | none => .ended .unknownObject
      | some obj =>
        match t.event obj.interface (opcodeField frame.wireBytes) with
        | none => .ended .unknownEvent
        | some spec =>
          if countFdArgs spec ≠ frame.fdBlobs.length then .ended .fdMismatch
          else
            match decodeMessage spec.args (frame.wireBytes.drop 8) with
            | none => .ended .malformedEvent
            | some args =>
              if frame.fdBlobs ≠ [] ∧ made = false then .ended .noMemfd
              else
                .on { c with
                  rxLink := rest
                  objects := trackObjectLifetime c.objects obj.interface true spec args
                  pendingApp := c.pendingApp ++ [{ bytes := frame.wireBytes, fds := frame.fdBlobs }] }

/-- `sendmsg` takes `n` bytes of the first pending message. What comes with it is the message, if that was the
last of it. -/
def flushTxApp (c : ProxyClient) (n : ℕ) : Option (ProxyClient × Option (List UInt8)) :=
  match c.pendingApp with
  | [] => none
  | pending :: rest =>
    if n = 0 ∨ pending.bytes.length < pending.offset + n then none
    else if pending.offset + n = pending.bytes.length then some ({ c with pendingApp := rest }, some pending.bytes)
    else some ({ c with pendingApp := { pending with offset := pending.offset + n } :: rest }, none)

end ProxyClient

end VkRemote.Wayland
