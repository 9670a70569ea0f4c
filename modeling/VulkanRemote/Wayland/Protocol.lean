import Mathlib.Data.List.Basic
import Mathlib.Data.UInt

/-! The tables both halves of the Wayland proxy share: what arguments a message has, which messages an
interface has, and which interface an object id names. The tables themselves are generated from protocol
XML, so every function takes the one it looks into. -/

namespace VkRemote.Wayland

/-- A `std::string`: any bytes. -/
abbrev Name := List UInt8

-- `decide` sees through a name only with every definition unfolded: the bytes are read off by an irreducible one.
def name (s : String) : Name := s.toUTF8.toList

inductive ArgType
  | int | uint | fixed | string | object | newId | array | fd
  deriving DecidableEq

/-- `interface` is `none` where the XML does not say, as for the `new_id` of `wl_registry.bind`. -/
structure ArgSpec where
  type : ArgType
  interface : Option Name := none
  deriving DecidableEq

structure MessageSpec where
  name : Name
  args : List ArgSpec
  isDestructor : Bool := false
  deriving DecidableEq

structure InterfaceSpec where
  name : Name
  requests : List MessageSpec
  events : List MessageSpec
  deriving DecidableEq

def findInterface (table : List InterfaceSpec) (n : Name) : Option InterfaceSpec :=
  table.find? (·.name = n)

/-- The opcode is the message's place in the list. -/
def findMessage (iface : Option InterfaceSpec) (isEvent : Bool) (opcode : UInt16) : Option MessageSpec :=
  iface.bind fun i => (if isEvent then i.events else i.requests)[opcode.toNat]?

def countFdArgs (msg : MessageSpec) : ℕ :=
  (msg.args.filter (·.type = .fd)).length

/-- Which fields mean something depends on `type`; the others keep their defaults. -/
structure DecodedArg where
  type : ArgType
  i32 : Int32 := 0
  u32 : UInt32 := 0
  str : Name := []
  newIdVersion : UInt32 := 0
  array : List UInt8 := []
  fd : Int32 := -1
  deriving DecidableEq

/-- What travels in the byte stream: all of the argument but its descriptor. -/
def DecodedArg.inBand (a : DecodedArg) : DecodedArg := { a with fd := -1 }

/-- The argument with only the fields its kind has a use for. A `new_id` whose interface the table knows has
that interface and no version of its own. -/
def ArgSpec.restrict (spec : ArgSpec) (a : DecodedArg) : DecodedArg :=
  match spec.type with
  | .int | .fixed => { type := spec.type, i32 := a.i32 }
  | .uint | .object => { type := spec.type, u32 := a.u32 }
  | .string => { type := spec.type, str := a.str }
  | .array => { type := spec.type, array := a.array }
  | .fd => { type := spec.type, fd := a.fd }
  | .newId =>
    match spec.interface with
    | some i => { type := spec.type, u32 := a.u32, str := i }
    | none => { type := spec.type, u32 := a.u32, str := a.str, newIdVersion := a.newIdVersion }

/-- An argument of the kind the signature declares, with nothing set that its kind has no use for. -/
def ArgSpec.Matches (spec : ArgSpec) (a : DecodedArg) : Prop := spec.restrict a = a

instance (spec : ArgSpec) (a : DecodedArg) : Decidable (spec.Matches a) :=
  inferInstanceAs (Decidable (_ = _))

end VkRemote.Wayland
