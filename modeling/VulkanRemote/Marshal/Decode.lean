import VulkanRemote.Marshal.Pointer

/-! The decoders' common parts. A decoder reads from a `Reader`, asks a `HandleResolver` for native handles
and takes blocks from an `Arena`; it gives up as a whole. -/

namespace VkRemote.Marshal

open Lib Wire

def kMaxArrayElements : ℕ := 2 ^ 20

inductive HandleKind
  | buffer
  | image
  | imageView
  | bufferView
  | memory
  | renderPass
  | framebuffer
  | shaderModule
  | pipeline
  | pipelineLayout
  | pipelineCache
  | descriptorSetLayout
  | descriptorPool
  | descriptorSet
  | sampler
  | samplerYcbcrConversion
  | semaphore
  | fence
  | event
  | queryPool
  | surface
  | swapchain
  | commandPool
  | commandBuffer
  deriving DecidableEq

/-- `HandleResolver`: the native handle that an id names, with zero for `VK_NULL_HANDLE`. -/
abbrev Resolver := HandleKind → UInt64 → UInt64

/-- One call of a method of the resolver. -/
structure Lookup where
  kind : HandleKind
  id : UInt64
  deriving DecidableEq

/-- One call of `Arena::array`, with the bytes that were unread then. -/
structure Allocation where
  count : ℕ
  size : ℕ
  remaining : ℕ
  deriving DecidableEq

/-- The code keeps neither log. -/
structure DecodeState where
  reader : Reader
  lookups : List Lookup := []
  allocations : List Allocation := []

/-- `none` stands for `return false`. -/
def Decode (α : Type) := Resolver → DecodeState → Option α × DecodeState

namespace Decode

variable {α β : Type}

instance : Monad Decode where
  pure a := fun _ s => (some a, s)
  bind m k := fun hr s =>
    match m hr s with
    | (some a, s) => k a hr s
    | (none, s) => (none, s)

def ofReader (f : Reader → α × Reader) : Decode α :=
  fun _ s => (some (f s.reader).1, { s with reader := (f s.reader).2 })

def u32 : Decode UInt32 := ofReader Reader.u32

def u64 : Decode UInt64 := ofReader Reader.u64

abbrev i32 : Decode UInt32 := u32

abbrev handle : Decode UInt64 := u64

def bytes (maxSize : ℕ) : Decode (List UInt8) :=
  fun _ s => ((s.reader.bytes maxSize).1, { s with reader := (s.reader.bytes maxSize).2 })

def remaining : Decode ℕ := fun _ s => (some s.reader.remaining, s)

/-- `if (!p) return false;` -/
def require (p : Prop) [Decidable p] : Decode Unit := fun _ s => (if p then some () else none, s)

/-- `if (!r.ok()) return false;` -/
def requireOk : Decode Unit := fun _ s => (if s.reader.ok then some () else none, s)

/-- What is read only where `p` holds. -/
def whenUsed (p : Prop) [Decidable p] (otherwise : α) (m : Decode α) : Decode α :=
  if p then m else pure otherwise

def lookup (kind : HandleKind) (id : UInt64) : Decode UInt64 :=
  fun hr s => (some (hr kind id), { s with lookups := s.lookups ++ [⟨kind, id⟩] })

/-- `arena.array<T>(count)`; nothing is allocated for no elements. -/
def allocate (count size : ℕ) : Decode Unit :=
  fun _ s =>
    (some (), if count = 0 then s else
      { s with allocations := s.allocations ++ [⟨count, size, s.reader.remaining⟩] })

/-- One element after another. -/
def times : (n : ℕ) → Decode α → Decode (Elements α n)
  | 0, _ => pure List.Vector.nil
  | n + 1, m => do
    let a ← m
    let v ← times n m
    return a ::ᵥ v

/-- An array from the arena, null where it is empty. -/
def array (count size : ℕ) (m : Decode α) : Decode (Ptr (Elements α count)) := do
  allocate count size
  let v ← times count m
  return if count = 0 then .null else .arena v

/-- `patch_handle`: a zero id is not looked up. -/
def patchHandle (kind : HandleKind) (id : UInt64) : Decode UInt64 :=
  if id = 0 then pure 0 else lookup kind id

/-- `read_raw`. -/
def readRaw (α : Type) [Raw α] : Decode α := do
  let buf ← bytes Reader.noBound
  require (buf.length = Raw.sizeof α)
  return Raw.ofImage buf

def podsOf (n count : ℕ) (buf : List UInt8) : Elements (Blob n) count :=
  List.Vector.ofFn fun i => Blob.ofBytes n (buf.drop (i.val * n))

/-- `read_pod_array`; the blob is on the wire even for no elements. -/
def readPodArray (n : ℕ) (count : ℕ) : Decode (Ptr (Elements (Blob n) count)) := do
  require (count ≤ kMaxArrayElements)
  let buf ← bytes Reader.noBound
  require (buf.length = count * n)
  if count = 0 then return .null
  else do
    allocate count n
    return .arena (podsOf n count buf)

/-- `read_opt_pod_array`. -/
def readOptPodArray (n : ℕ) (count : ℕ) : Decode (Ptr (Elements (Blob n) count)) := do
  let present ← u32
  requireOk
  require (count ≤ kMaxArrayElements)
  if present = 0 then return .null
  else readPodArray n count

/-- `read_opt_pod`. -/
def readOptPod (α : Type) [Raw α] : Decode (Ptr α) := do
  let present ← u32
  requireOk
  if present = 0 then return .null
  else do
    let buf ← bytes Reader.noBound
    require (buf.length = Raw.sizeof α)
    allocate 1 (Raw.sizeof α)
    return .arena (Raw.ofImage buf)

/-- One id of a handle array. -/
def readHandle (kind : HandleKind) : Decode UInt64 := do
  let id ← handle
  requireOk
  patchHandle kind id

/-- `read_handle_array`. -/
def readHandleArray (kind : HandleKind) (count : ℕ) : Decode (Ptr (Elements UInt64 count)) :=
  if count = 0 then pure .null
  else do
    require (count ≤ kMaxArrayElements)
    array count 8 (readHandle kind)

def readString : Decode (Ptr (List UInt8)) := do
  let s ← bytes Reader.noBound
  allocate (s.length + 1) 1
  return .arena s

/-- `read_string_array`. -/
def readStringArray (count : ℕ) : Decode (Ptr (Elements (Ptr (List UInt8)) count)) :=
  if count = 0 then pure .null
  else do
    require (count ≤ kMaxArrayElements)
    array count 8 readString

/-- `read_bytes_to_arena`. -/
def readBytesToArena (size : ℕ) : Decode (Ptr (Elements UInt8 size)) := do
  let buf ← bytes Reader.noBound
  require (buf.length = size)
  if size = 0 then return .null
  else do
    allocate size 1
    return .arena (List.Vector.ofFn fun i => buf.getD i 0)

/-! ### What a successful decoder has read -/

theorem of_bind {m : Decode α} {k : α → Decode β} {hr : Resolver} {s s' : DecodeState} {b : β}
    (h : (m >>= k) hr s = (some b, s')) : ∃ a s₁, m hr s = (some a, s₁) ∧ k a hr s₁ = (some b, s') := by
  simp only [Bind.bind] at h
  cases hm : m hr s with
  | mk a s₁ =>
    rw [hm] at h
    cases a with
    | none => cases h
    | some a => exact ⟨a, s₁, rfl, h⟩

theorem of_require {p : Prop} [Decidable p] {hr : Resolver} {s s' : DecodeState} {u : Unit}
    (h : require p hr s = (some u, s')) : p ∧ s' = s := by
  unfold require at h
  split at h
  · next hp => exact ⟨hp, (Prod.mk.inj h).2.symm⟩
  · cases h

end Decode
end VkRemote.Marshal
