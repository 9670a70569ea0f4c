import Mathlib.Logic.Function.Basic
import VulkanRemote.Wayland.Frames

/-! `WaylandProxy`, the half of the proxy that owns a connection to the compositor. `poll` takes the steps
below in a fixed order; here they come in any. Of libwayland the model has the live proxies. -/

namespace VkRemote.Wayland

/-- What `generate_protocol.py` writes out: the wire tables of both halves, and the interfaces beside the core
ones that the server half can make a proxy of. -/
structure Tables where
  wire : List InterfaceSpec
  extensions : List Name

def coreInterfaces : List Name :=
  ["wl_display", "wl_registry", "wl_callback", "wl_compositor", "wl_shm_pool", "wl_shm", "wl_buffer",
    "wl_data_offer", "wl_data_source", "wl_data_device", "wl_data_device_manager", "wl_shell",
    "wl_shell_surface", "wl_surface", "wl_seat", "wl_pointer", "wl_keyboard", "wl_touch", "wl_output",
    "wl_region", "wl_subcompositor", "wl_subsurface"].map name

def Tables.lookupWlInterface (t : Tables) (n : Name) : Bool :=
  coreInterfaces.contains n || t.extensions.contains n

theorem Tables.lookupWlInterface_core (t : Tables) {n : Name} (h : coreInterfaces.contains n = true) :
    t.lookupWlInterface n = true := by
  rw [lookupWlInterface, h, Bool.true_or]

def Tables.request (t : Tables) (interface : Name) (opcode : UInt16) : Option MessageSpec :=
  findMessage (findInterface t.wire interface) false opcode

def Tables.event (t : Tables) (interface : Name) (opcode : UInt16) : Option MessageSpec :=
  findMessage (findInterface t.wire interface) true opcode

/-- A live `wl_proxy`. `id` is the user data of the generic dispatcher, where that is installed, and `origin`
the number of the link its object came with: no code reads that. -/
structure Proxy where
  interface : Name
  version : UInt32
  id : Option UInt32
  origin : ℕ
  deriving DecidableEq

/-- `proxy` is none for an inert stub. -/
structure ObjectEntry where
  interface : Name
  version : UInt32
  proxy : Option ℕ
  deriving DecidableEq

/-- A `wl_argument`: which field means something is for the signature to say. `n` is the interface and version
of the proxy libwayland has made for a `new_id`, `h` what can be read from a descriptor. -/
structure WlArgument where
  i : Int32 := 0
  u : UInt32 := 0
  s : Option Name := none
  o : Option ℕ := none
  n : Name × UInt32 := ([], 0)
  a : Option (List UInt8) := none
  h : List UInt8 := []
  deriving DecidableEq

/-- The arguments of a call of `wl_proxy_marshal_array_flags`. -/
structure MarshalCall where
  proxy : ℕ
  opcode : UInt16
  interface : Option Name
  version : UInt32
  destroy : Bool
  args : List WlArgument
  deriving DecidableEq

/-- An event libwayland hands to the dispatcher of a proxy. -/
structure Event where
  target : ℕ
  opcode : UInt16
  args : List WlArgument
  deriving DecidableEq

/-- A byte of `tx_buf_`, with the link that the object it tells of came with. -/
structure TxByte where
  byte : UInt8
  origin : ℕ
  deriving DecidableEq

def firstServerSideId : UInt32 := 0xff000000

def displayName : Name := name "wl_display"

/-- `made` counts the proxies there ever were, `links` the links; `sent` and `marshalled` are what went out to
either side. -/
structure WaylandProxy where
  objects : UInt32 → Option ObjectEntry
  nextServerSideId : UInt32 := firstServerSideId
  linked : Bool := false
  rxBuf : List UInt8 := []
  txBuf : List TxByte := []
  proxies : ℕ → Option Proxy
  made : ℕ := 1
  links : ℕ := 0
  sent : List (ℕ × TxByte) := []
  marshalled : List MarshalCall := []

namespace WaylandProxy

def displayOnly : UInt32 → Option ObjectEntry :=
  Function.update (fun _ => none) 1 (some ⟨displayName, 1, some 0⟩)

/-- The display has a listener of its own, and keeps it: `wl_proxy_add_dispatcher` refuses it another one. -/
def start : WaylandProxy where
  objects := displayOnly
  proxies := Function.update (fun _ => none) 0 (some ⟨displayName, 1, none, 0⟩)

def acceptLink (s : WaylandProxy) : WaylandProxy := { s with linked := true, links := s.links + 1 }

def dropLink (s : WaylandProxy) : WaylandProxy := { s with linked := false, rxBuf := [], txBuf := [] }

def surfaceForClientId (s : WaylandProxy) (id : UInt32) : Option ℕ :=
  match s.objects id with
  | none => none
  | some entry => if entry.interface ≠ name "wl_surface" then none else entry.proxy

/-- A new proxy with the generic dispatcher on it, under the id the application knows it by. -/
def register (s : WaylandProxy) (id : UInt32) (interface : Name) (version : UInt32) (origin : ℕ)
    (registered : Name) : WaylandProxy :=
  { s with
    proxies := Function.update s.proxies s.made (some ⟨interface, version, some id, origin⟩)
    made := s.made + 1
    objects := Function.update s.objects id (some ⟨registered, version, some s.made⟩) }

def erase (s : WaylandProxy) (id : UInt32) : WaylandProxy :=
  { s with objects := Function.update s.objects id none }

/-- One argument of an event: how it is packed, what its descriptor holds, and the state after it. A new object
takes the next server-side id. -/
def eventArg (spec : ArgSpec) (arg : WlArgument) (origin : ℕ) (s : WaylandProxy) :
    DecodedArg × List (List UInt8) × WaylandProxy :=
  match spec.type with
  | .int | .fixed => ({ type := spec.type, i32 := arg.i }, [], s)
  | .uint => ({ type := .uint, u32 := arg.u }, [], s)
  | .string => ({ type := .string, str := arg.s.getD [] }, [], s)
  | .array => ({ type := .array, array := arg.a.getD [] }, [], s)
  | .object => ({ type := .object, u32 := ((arg.o.bind s.proxies).bind Proxy.id).getD 0 }, [], s)
  | .newId =>
    ({ type := .newId, str := spec.interface.getD [], u32 := s.nextServerSideId }, [],
      { s with nextServerSideId := s.nextServerSideId + 1 }.register s.nextServerSideId arg.n.1 arg.n.2 origin
        (spec.interface.getD []))
  | .fd => ({ type := .fd }, [arg.h], s)

def eventArgs : List ArgSpec → List WlArgument → ℕ → WaylandProxy →
    List DecodedArg × List (List UInt8) × WaylandProxy
  | [], _, _, s => ([], [], s)
  | spec :: specs, args, origin, s =>
    let first := eventArg spec (args.headD {}) origin s
    let others := eventArgs specs args.tail origin first.2.2
    (first.1 :: others.1, first.2.1 ++ others.2.1, others.2.2)

def isDeleteId (interface : Name) (spec : MessageSpec) : Bool :=
  interface = displayName && spec.name = name "delete_id"

/-- The dispatcher of `proxy`, which has `id` for its user data. The frame goes into the buffer whether or not
there is a link. -/
def genericDispatcher (t : Tables) (s : WaylandProxy) (proxy : Proxy) (id : UInt32) (event : Event) :
    WaylandProxy :=
  match t.event proxy.interface event.opcode with
  | none => s.dropLink
  | some spec =>
    let packed := eventArgs spec.args event.args proxy.origin s
    let s := packed.2.2
    match encodeMessage id event.opcode packed.1 with
    | none => s.dropLink
    | some wireBytes =>
      let s := match isDeleteId proxy.interface spec, packed.1 with
        | true, arg :: _ => s.erase arg.u32
        | _, _ => s
      { s with txBuf := s.txBuf ++ (writeLinkFrame { wireBytes, fdBlobs := packed.2.1 }).map (⟨·, proxy.origin⟩) }

/-- Why a request frame ends the link. -/
inductive Refusal
  | truncated | badSize | unknownObject | unknownRequest | malformed | carriesFd | notCreated
  deriving DecidableEq

/-- What the loop over a request's arguments has gathered for libwayland. -/
structure Gathered where
  args : List WlArgument := []
  interface : Option Name := none
  version : UInt32
  newId : UInt32 := 0

/-- A string for libwayland ends at its first NUL. -/
def cStr (s : Name) : Name := s.takeWhile (· ≠ 0)

/-- The error is the stub for an object of an interface there is no `wl_interface` for: the loop ends there. -/
def gatherArg (t : Tables) (s : WaylandProxy) (version : UInt32) (g : Gathered) (arg : DecodedArg) :
    Except (UInt32 × ObjectEntry) Gathered :=
  match arg.type with
  | .int | .fixed => .ok { g with args := g.args ++ [{ i := arg.i32 }] }
  | .uint => .ok { g with args := g.args ++ [{ u := arg.u32 }] }
  | .string => .ok { g with args := g.args ++ [{ s := some (cStr arg.str) }] }
  | .array => .ok { g with args := g.args ++ [{ a := some arg.array }] }
  | .object =>
    .ok { g with args := g.args ++ [{ o := if arg.u32 ≠ 0 then (s.objects arg.u32).bind (·.proxy) else none }] }
  | .newId =>
    let dynamicBind := arg.newIdVersion ≠ 0
    let version := if dynamicBind then arg.newIdVersion else version
    if t.lookupWlInterface arg.str then
      let bound : List WlArgument :=
        if dynamicBind then [{ s := some (cStr arg.str) }, { u := arg.newIdVersion }] else []
      .ok { args := g.args ++ bound ++ [{}], interface := some arg.str, version, newId := arg.u32 }
    else .error (arg.u32, ⟨arg.str, version, none⟩)
  | .fd => .ok g

/-- What libwayland keeps of a call: the request, and whether the proxy is still there. -/
def called (s : WaylandProxy) (call : MarshalCall) : WaylandProxy :=
  { s with
    marshalled := s.marshalled ++ [call]
    proxies := if call.destroy then Function.update s.proxies call.proxy none else s.proxies }

/-- The end of `handle_request_frame`: the call into libwayland and the entries that change with it. `created`
says whether libwayland makes the proxy it is asked for. -/
def marshal (s : WaylandProxy) (objectId : UInt32) (proxy : ℕ) (opcode : UInt16) (isDestructor : Bool)
    (g : Gathered) (created : Bool) : Option Refusal × WaylandProxy :=
  let s := s.called ⟨proxy, opcode, g.interface, g.version, isDestructor, g.args⟩
  match g.interface with
  | none => (none, if isDestructor then s.erase objectId else s)
  | some interface =>
    if created then
      let s := s.register g.newId interface g.version s.links interface
      (none, if isDestructor then s.erase objectId else s)
    else (some .notCreated, s)

def handleRequestFrame (t : Tables) (s : WaylandProxy) (frame : LinkFrame) (created : Bool) :
    Option Refusal × WaylandProxy :=
  let objectId := objectField frame.wireBytes
  let opcode := opcodeField frame.wireBytes
  if frame.wireBytes.length < 8 then (some .truncated, s)
  else if (sizeField frame.wireBytes).toNat ≠ frame.wireBytes.length then (some .badSize, s)
  else
    match s.objects objectId with
    | none => (some .unknownObject, s)
    | some entry =>
      match entry.proxy with
      | none => (none, if (t.request entry.interface opcode).any (·.isDestructor) then s.erase objectId else s)
      | some proxy =>
        match t.request entry.interface opcode with
        | none => (some .unknownRequest, s)
        | some spec =>
          match decodeMessage spec.args (frame.wireBytes.drop 8) with
          | none => (some .malformed, s)
          | some args =>
            if frame.fdBlobs ≠ [] ∨ 0 < countFdArgs spec then (some .carriesFd, s)
            else
              let version := ((s.proxies proxy).map Proxy.version).getD 0
              match args.foldlM (gatherArg t s version) { version } with
              | .error stub => (none, { s with objects := Function.update s.objects stub.1 (some stub.2) })
              | .ok g => s.marshal objectId proxy opcode spec.isDestructor g created

inductive Action
  /-- libwayland runs the dispatcher of a live proxy -/
  | dispatch (event : Event)
  | accept
  /-- `recv` gives bytes, or ends or fails -/
  | recv (data : Option (List UInt8))
  /-- one turn of the loop over what has been received -/
  | frame (created : Bool)
  /-- `send` takes some bytes, or fails -/
  | send (n : Option ℕ)
  deriving DecidableEq

def step (t : Tables) (s : WaylandProxy) : Action → Option WaylandProxy
  | .dispatch event =>
    match s.proxies event.target with
    | none => none
    | some proxy =>
      match proxy.id with
      | none => none
      | some id => some (s.genericDispatcher t proxy id event)
  | .accept => if s.linked then none else some s.acceptLink
  | .recv data =>
    if s.linked then
      match data with
      | some data => some { s with rxBuf := s.rxBuf ++ data }
      | none => some s.dropLink
    else none
  | .frame created =>
    if s.linked then
      match takeLinkFrame s.rxBuf with
      | .needMoreData => none
      | .malformed => some s.dropLink
      | .ok frame rest =>
        match { s with rxBuf := rest }.handleRequestFrame t frame created with
        | (some _, s) => some s.dropLink
        | (none, s) => some s
    else none
  | .send n =>
    if s.linked ∧ s.txBuf ≠ [] then
      match n with
      | some (n + 1) => some { s with
          txBuf := s.txBuf.drop (n + 1)
          sent := s.sent ++ (s.txBuf.take (n + 1)).map (s.links, ·) }
      | _ => some s.dropLink
    else none

/-! ### What handling a request comes to -/

section

variable {t : Tables} {s s' : WaylandProxy} {frame : LinkFrame} {created : Bool} {r : Option Refusal}

/-- The request is for an object with a proxy, and libwayland could be called with `args`. -/
structure Understood (t : Tables) (s : WaylandProxy) (frame : LinkFrame) (entry : ObjectEntry) (proxy : ℕ)
    (spec : MessageSpec) (args : List DecodedArg) : Prop where
  long : 8 ≤ frame.wireBytes.length
  sized : (sizeField frame.wireBytes).toNat = frame.wireBytes.length
  found : s.objects (objectField frame.wireBytes) = some entry
  live : entry.proxy = some proxy
  known : t.request entry.interface (opcodeField frame.wireBytes) = some spec
  decoded : decodeMessage spec.args (frame.wireBytes.drop 8) = some args
  noFds : frame.fdBlobs = [] ∧ countFdArgs spec = 0

/-- The loop over the arguments of a request. -/
def gather (t : Tables) (s : WaylandProxy) (proxy : ℕ) (args : List DecodedArg) :
    Except (UInt32 × ObjectEntry) Gathered :=
  args.foldlM (gatherArg t s (((s.proxies proxy).map Proxy.version).getD 0))
    { version := ((s.proxies proxy).map Proxy.version).getD 0 }

/-- The ways a request can end. -/
inductive Handles (t : Tables) (s : WaylandProxy) (frame : LinkFrame) (created : Bool) :
    Option Refusal → WaylandProxy → Prop
  | refused (r : Refusal) : Handles t s frame created (some r) s
  | onStub {entry : ObjectEntry} (found : s.objects (objectField frame.wireBytes) = some entry)
      (stub : entry.proxy = none) :
      Handles t s frame created none
        (if (t.request entry.interface (opcodeField frame.wireBytes)).any (·.isDestructor) then
          s.erase (objectField frame.wireBytes) else s)
  | makesStub {entry : ObjectEntry} {proxy : ℕ} {spec : MessageSpec} {args : List DecodedArg}
      {stub : UInt32 × ObjectEntry} (u : Understood t s frame entry proxy spec args)
      (unknown : gather t s proxy args = .error stub) :
      Handles t s frame created none { s with objects := Function.update s.objects stub.1 (some stub.2) }
  | marshals {entry : ObjectEntry} {proxy : ℕ} {spec : MessageSpec} {args : List DecodedArg} {g : Gathered}
      (u : Understood t s frame entry proxy spec args) (gathered : gather t s proxy args = .ok g) :
      Handles t s frame created
        (s.marshal (objectField frame.wireBytes) proxy (opcodeField frame.wireBytes) spec.isDestructor g created).1
        (s.marshal (objectField frame.wireBytes) proxy (opcodeField frame.wireBytes) spec.isDestructor g created).2

theorem handles (t : Tables) (s : WaylandProxy) (frame : LinkFrame) (created : Bool) :
    Handles t s frame created (handleRequestFrame t s frame created).1
      (handleRequestFrame t s frame created).2 := by
  unfold handleRequestFrame
  dsimp only
  split
  · exact .refused _
  next hlong =>
  split
  · exact .refused _
  next hsize =>
  split
  · exact .refused _
  next entry hentry =>
  split
  · next hstub => exact .onStub hentry hstub
  next proxy hproxy =>
  split
  · exact .refused _
  next spec hspec =>
  split
  · exact .refused _
  next args hargs =>
  split
  · exact .refused _
  next hfds =>
  have u : Understood t s frame entry proxy spec args :=
    ⟨Nat.le_of_not_lt hlong, not_not.1 hsize, hentry, hproxy, hspec, hargs, by
      rw [not_or, not_not] at hfds
      exact ⟨hfds.1, Nat.eq_zero_of_not_pos hfds.2⟩⟩
  split
  · next stub hg => exact .makesStub u hg
  · next g hg => exact .marshals u hg

end

end WaylandProxy

def newIdOf (interface : String) : ArgSpec := ⟨.newId, some (name interface)⟩

def excerpt : Tables where
  wire := [
    ⟨displayName, [⟨name "sync", [newIdOf "wl_callback"], false⟩,
        ⟨name "get_registry", [newIdOf "wl_registry"], false⟩],
      [⟨name "error", [⟨.object, none⟩, ⟨.uint, none⟩, ⟨.string, none⟩], false⟩,
        ⟨name "delete_id", [⟨.uint, none⟩], false⟩]⟩,
    ⟨name "wl_registry", [⟨name "bind", [⟨.uint, none⟩, ⟨.newId, none⟩], false⟩],
      [⟨name "global", [⟨.uint, none⟩, ⟨.string, none⟩, ⟨.uint, none⟩], false⟩,
        ⟨name "global_remove", [⟨.uint, none⟩], false⟩]⟩,
    ⟨name "wl_callback", [], [⟨name "done", [⟨.uint, none⟩], true⟩]⟩,
    ⟨name "wl_compositor", [⟨name "create_surface", [newIdOf "wl_surface"], false⟩,
        ⟨name "create_region", [newIdOf "wl_region"], false⟩], []⟩,
    ⟨name "wl_surface", [⟨name "destroy", [], true⟩,
        ⟨name "attach", [⟨.object, some (name "wl_buffer")⟩, ⟨.int, none⟩, ⟨.int, none⟩], false⟩], []⟩,
    ⟨name "wl_data_device_manager", [⟨name "create_data_source", [newIdOf "wl_data_source"], false⟩,
        ⟨name "get_data_device", [newIdOf "wl_data_device", ⟨.object, some (name "wl_seat")⟩], false⟩], []⟩,
    ⟨name "wl_data_device", [], [⟨name "data_offer", [newIdOf "wl_data_offer"], false⟩]⟩,
    ⟨name "wl_data_offer", [⟨name "accept", [⟨.uint, none⟩, ⟨.string, none⟩], false⟩], []⟩]
  extensions := []

/-- The message a Wayland library writes for a request on `objectId`. -/
def requestBytes (objectId : UInt32) (opcode : UInt16) (args : List DecodedArg) : List UInt8 :=
  (encodeMessage objectId opcode args).getD []

end VkRemote.Wayland
