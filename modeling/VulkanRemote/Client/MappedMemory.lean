import Mathlib.Data.UInt
import Mathlib.Data.Nat.Basic
import Mathlib.Data.Finset.Basic
import VulkanRemote.Lib.Run
import VulkanRemote.Lib.Scan

/-! Mapped memory on the client: the shadow the application writes through, the baseline a
coherent mapping is compared against, and the transfers that keep the server's allocation in
step. Every operation runs under `mapped_mutex`; a round trip may fail with or without the
server having applied it. The host's stores take no lock. A publish reads a byte twice, for the
request and for the baseline, so what the host stores in between is an input of it. The other
operations read or replace each byte of the shadow once: a store that falls inside one of them is
the same as a store before or after it (comparing and replacing a byte counts as one step). -/

namespace VkRemote.Client
open Lib

abbrev Byte := UInt8
abbrev MemoryId := ℕ

/-- `kMaxMappedChunk`. -/
def maxMappedChunk : ℕ := 64 * 1024 * 1024 - 64

/-- The longest clean gap `publish_coherent_mapped` sends along with the runs around it. -/
def coalesceGap : ℕ := 4096

structure MemoryAllocation where
  size : ℕ
  nonCoherentAtomSize : ℕ := 1
  hostVisible : Bool := true
  emulatedCoherent : Bool := false

structure MappedRange where
  memoryId : MemoryId
  offset : ℕ
  size : ℕ
  emulatedCoherent : Bool
  transferReady : Bool
  shadow : ℕ → Byte
  baseline : ℕ → Byte

/-- What becomes of one `FlushMappedMemory` or `DownloadMappedMemory` round trip. -/
inductive Outcome
  | ok
  | failed (applied : Bool)
  deriving DecidableEq

/-- What the host stores into a mapping while the round trip of the chunk at a position is under way. -/
abbrev Stores := ℕ → List (ℕ × Byte)

def Stores.none : Stores := fun _ => []

/-- `VkMappedMemoryRange`; `none` is `VK_WHOLE_SIZE`. -/
structure MemoryRange where
  memory : MemoryId
  offset : ℕ
  size : Option ℕ
  deriving DecidableEq

/-- One mapping and the server's copy of its allocation while an operation is at work on them.
`applied` and `pulled` list the intervals of the mapping that went up and came down. -/
structure Transfer where
  m : MappedRange
  server : ℕ → Byte
  net : List Outcome
  applied : List (ℕ × ℕ) := []
  pulled : List (ℕ × ℕ) := []

namespace MappedRange

def clean (m : MappedRange) (i : ℕ) : Prop := m.shadow i = m.baseline i

instance (m : MappedRange) (i : ℕ) : Decidable (m.clean i) :=
  inferInstanceAs (Decidable (m.shadow i = m.baseline i))

/-- `emulated_coherent && transfer_ready`. -/
def live (m : MappedRange) : Prop := m.emulatedCoherent = true ∧ m.transferReady = true

instance (m : MappedRange) : Decidable m.live :=
  inferInstanceAs (Decidable (m.emulatedCoherent = true ∧ m.transferReady = true))

/-- `while (begin < size && shadow[begin] == baseline[begin]) ++begin;` -/
def skipClean (m : MappedRange) (start : ℕ) : ℕ :=
  skipWhile (fun i => i < m.size ∧ m.clean i) m.size start

/-- `while (end < size && shadow[end] != baseline[end]) ++end;` -/
def skipDirty (m : MappedRange) (stop : ℕ) : ℕ :=
  skipWhile (fun i => i < m.size ∧ ¬ m.clean i) m.size stop

/-- `while (end < size && shadow[end] == baseline[end] && end - gap_begin < 4096) ++end;` -/
def skipGap (m : MappedRange) (gapBegin : ℕ) : ℕ :=
  skipWhile (fun i => i < m.size ∧ m.clean i ∧ i - gapBegin < coalesceGap) m.size gapBegin

/-- The `while (end < size)` loop: where the run that starts before `stop` ends. -/
def runEnd (m : MappedRange) : ℕ → ℕ → ℕ
  | 0, stop => stop
  | fuel + 1, stop =>
    if stop < m.size then
      let stop' := m.skipGap stop
      if stop' = m.size ∨ stop' - stop = coalesceGap then stop
      else runEnd m fuel (m.skipDirty stop')
    else stop

end MappedRange

namespace Transfer

def writeServer (t : Transfer) (at_ n : ℕ) : Transfer :=
  { t with
    server := fun j =>
      if t.m.offset + at_ ≤ j ∧ j < t.m.offset + at_ + n then t.m.shadow (j - t.m.offset)
      else t.server j
    applied := (at_, n) :: t.applied }

/-- One `FlushMappedMemory` round trip with the bytes of the shadow. -/
def upload (t : Transfer) (at_ n : ℕ) : Transfer × Bool :=
  match t.net with
  | [] => (t.writeServer at_ n, true)
  | .ok :: net => ({ t.writeServer at_ n with net := net }, true)
  | .failed true :: net => ({ t.writeServer at_ n with net := net }, false)
  | .failed false :: net => ({ t with net := net }, false)

/-- `memcpy(baseline + done, shadow + done, chunk)`. -/
def settle (t : Transfer) (at_ n : ℕ) : Transfer :=
  { t with m := { t.m with
      baseline := fun i => if at_ ≤ i ∧ i < at_ + n then t.m.shadow i else t.m.baseline i } }

def storeAll (t : Transfer) (l : List (ℕ × Byte)) : Transfer :=
  { t with m := { t.m with shadow := l.foldl (fun bytes e => Function.update bytes e.1 e.2) t.m.shadow } }

/-- The chunk loop of `publish_coherent_mapped` over `[done, stop)`. The request is built before the round
trip, the baseline is set after it. -/
def publishChunks (t : Transfer) (stores : Stores) (done stop : ℕ) : ℕ → Transfer × Bool
  | 0 => (t, true)
  | fuel + 1 =>
    if done < stop then
      let chunk := min maxMappedChunk (stop - done)
      match t.upload done chunk with
      | (t', true) =>
        publishChunks ((t'.storeAll (stores done)).settle done chunk) stores (done + chunk) stop fuel
      | (t', false) => (t'.storeAll (stores done), false)
    else (t, true)

/-- The `while (begin < mapping.size)` loop. -/
def publishRuns (t : Transfer) (stores : Stores) (start : ℕ) : ℕ → Transfer × Bool
  | 0 => (t, true)
  | fuel + 1 =>
    if start < t.m.size then
      let first := t.m.skipClean start
      if first = t.m.size then (t, true)
      else
        let stop := t.m.runEnd t.m.size (first + 1)
        match t.publishChunks stores first stop t.m.size with
        | (t', true) => publishRuns t' stores stop fuel
        | (t', false) => (t', false)
    else (t, true)

def publishMapping (t : Transfer) (stores : Stores) : Transfer × Bool :=
  if t.m.live then t.publishRuns stores 0 t.m.size else (t, true)

/-- The reply of one `DownloadMappedMemory`, or `none`. -/
def download (t : Transfer) : Transfer × Bool :=
  match t.net with
  | [] => (t, true)
  | .ok :: net => ({ t with net := net }, true)
  | .failed _ :: net => ({ t with net := net }, false)

/-- `if (shadow[i] == baseline[i]) shadow[i] = bytes[i]; baseline[i] = bytes[i];` -/
def merge (t : Transfer) (at_ n : ℕ) : Transfer :=
  { t with
    m := { t.m with
      shadow := fun i =>
        if (at_ ≤ i ∧ i < at_ + n) ∧ t.m.clean i then t.server (t.m.offset + i)
        else t.m.shadow i
      baseline := fun i =>
        if at_ ≤ i ∧ i < at_ + n then t.server (t.m.offset + i) else t.m.baseline i }
    pulled := (at_, n) :: t.pulled }

/-- The chunk loop of `acquire_coherent_mapped`. -/
def acquireChunks (t : Transfer) (done : ℕ) : ℕ → Transfer × Bool
  | 0 => (t, true)
  | fuel + 1 =>
    if done < t.m.size then
      let chunk := min maxMappedChunk (t.m.size - done)
      match t.download with
      | (t', true) => acquireChunks (t'.merge done chunk) (done + chunk) fuel
      | (t', false) => (t', false)
    else (t, true)

def acquireMapping (ids : Option (Finset MemoryId)) (t : Transfer) : Transfer × Bool :=
  if t.m.live ∧ ∀ s ∈ ids, t.m.memoryId ∈ s then t.acquireChunks 0 t.m.size else (t, true)

/-- A chunk that is not the last is cut to the allocation's atom size; an empty one gives up. -/
def chunkSize (atom : Option ℕ) (left : ℕ) : Option ℕ :=
  let chunk := min maxMappedChunk left
  if chunk < left then
    match atom with
    | none => none
    | some a => if chunk - chunk % a = 0 then none else some (chunk - chunk % a)
  else some chunk

/-- The chunk loop of `flush_mapped`; the baseline is left as it is. -/
def flushChunks (t : Transfer) (atom : Option ℕ) (start size done : ℕ) : ℕ → Transfer × Bool
  | 0 => (t, true)
  | fuel + 1 =>
    if done < size then
      match chunkSize atom (size - done) with
      | none => (t, false)
      | some chunk =>
        match t.upload (start + done) chunk with
        | (t', true) => flushChunks t' atom start size (done + chunk) fuel
        | (t', false) => (t', false)
    else (t, true)

/-- `memcpy` of the downloaded bytes over the shadow and, for a coherent mapping, the baseline. -/
def overwrite (t : Transfer) (at_ n : ℕ) : Transfer :=
  { t with
    m := { t.m with
      shadow := fun i =>
        if at_ ≤ i ∧ i < at_ + n then t.server (t.m.offset + i) else t.m.shadow i
      baseline := fun i =>
        if (at_ ≤ i ∧ i < at_ + n) ∧ t.m.emulatedCoherent then t.server (t.m.offset + i)
        else t.m.baseline i }
    pulled := (at_, n) :: t.pulled }

/-- The chunk loop of `download_mapped`. -/
def downloadChunks (t : Transfer) (atom : Option ℕ) (start size done : ℕ) : ℕ → Transfer × Bool
  | 0 => (t, true)
  | fuel + 1 =>
    if done < size then
      match chunkSize atom (size - done) with
      | none => (t, false)
      | some chunk =>
        match t.download with
        | (t', true) =>
          downloadChunks (t'.overwrite (start + done) chunk) atom start size (done + chunk) fuel
        | (t', false) => (t', false)
    else (t, true)

end Transfer

/-- Bytes `[offset, offset + size)` of an allocation. -/
structure Interval where
  memory : MemoryId
  offset : ℕ
  size : ℕ
  deriving DecidableEq

/-- An interval of positions in a mapping as one of the allocation. -/
def MappedRange.interval (m : MappedRange) (v : ℕ × ℕ) : Interval :=
  ⟨m.memoryId, m.offset + v.1, v.2⟩

def Interval.covers (v : Interval) (mem : MemoryId) (j : ℕ) : Bool :=
  v.memory = mem && v.offset ≤ j && j < v.offset + v.size

structure MappedDevice where
  mapped : List MappedRange := []
  memories : MemoryId → Option MemoryAllocation := fun _ => none
  server : MemoryId → ℕ → Byte := fun _ _ => 0

/-- What an operation leaves behind: the device, the rest of the network's script, its result
and the intervals that went up to the server and came down from it. -/
structure Done where
  device : MappedDevice
  net : List Outcome
  ok : Bool := true
  up : List Interval := []
  down : List Interval := []

namespace MappedDevice

abbrev Op := MappedDevice → List Outcome → Done

/-- Run `f` on the mapping at position `k` of `mapped`. -/
def runAt (k : ℕ) (f : Transfer → Transfer × Bool) : Op := fun d net =>
  match d.mapped[k]? with
  | none => { device := d, net := net }
  | some m =>
    let r := f { m := m, server := d.server m.memoryId, net := net }
    { device := { d with
        mapped := d.mapped.set k r.1.m
        server := Function.update d.server m.memoryId r.1.server }
      net := r.1.net
      ok := r.2
      up := r.1.applied.map m.interval
      down := r.1.pulled.map m.interval }

/-- One operation after another, up to the first that fails. -/
def inOrder : List Op → Op
  | [] => fun d net => { device := d, net := net }
  | op :: ops => fun d net =>
    let a := op d net
    if a.ok then
      let b := inOrder ops a.device a.net
      { b with up := a.up ++ b.up, down := a.down ++ b.down }
    else a

/-- `stores` is what the host stores into each mapping meanwhile. -/
def publishCoherentMapped (stores : MemoryId → Stores) : Op := fun d net =>
  inOrder ((List.range d.mapped.length).map fun k =>
    runAt k fun t => t.publishMapping (stores t.m.memoryId)) d net

def acquireCoherentMapped (ids : Option (Finset MemoryId)) : Op := fun d net =>
  inOrder ((List.range d.mapped.length).map fun k => runAt k (Transfer.acquireMapping ids)) d net

/-- `resolve_range`: the mapping a range falls into, with its offset there and its size. -/
def resolveRange (d : MappedDevice) (r : MemoryRange) : Option (ℕ × ℕ × ℕ) := do
  let k ← d.mapped.findIdx? (fun m => m.memoryId = r.memory)
  let m ← d.mapped[k]?
  if r.offset < m.offset then none
  else
    let start := r.offset - m.offset
    if m.size < start then none
    else
      let available := m.size - start
      let size := r.size.getD available
      if available < size then none else some (k, start, size)

def atomSize (d : MappedDevice) (mem : MemoryId) : Option ℕ :=
  (d.memories mem).map MemoryAllocation.nonCoherentAtomSize

def flushRange (r : MemoryRange) : Op := fun d net =>
  match d.resolveRange r with
  | none => { device := d, net := net, ok := false }
  | some (k, start, size) =>
    runAt k (fun t => t.flushChunks (d.atomSize r.memory) start size 0 size) d net

def flushMapped (ranges : List MemoryRange) : Op := inOrder (ranges.map flushRange)

def downloadRange (r : MemoryRange) : Op := fun d net =>
  match d.resolveRange r with
  | none => { device := d, net := net, ok := false }
  | some (k, start, size) =>
    runAt k (fun t => t.downloadChunks (d.atomSize r.memory) start size 0 size) d net

def downloadMapped (ranges : List MemoryRange) : Op := inOrder (ranges.map downloadRange)

/-- `resolve_allocation_range`. -/
def resolveAllocationRange (allocationSize offset : ℕ) : Option ℕ → Option ℕ
  | none => if allocationSize ≤ offset then none else some (allocationSize - offset)
  | some requested =>
    if allocationSize ≤ offset ∨ requested = 0 ∨ allocationSize - offset < requested then none
    else some requested

/-- `validate_explicit_ranges`. -/
def validateRange (d : MappedDevice) (r : MemoryRange) : Bool :=
  match d.memories r.memory with
  | none => false
  | some a =>
    match resolveAllocationRange a.size r.offset r.size with
    | none => false
    | some size =>
      a.emulatedCoherent ||
        !(a.nonCoherentAtomSize = 0 || r.offset % a.nonCoherentAtomSize ≠ 0) &&
          (r.offset + size = a.size || size % a.nonCoherentAtomSize = 0)

def flushMappedMemoryRanges (ranges : List MemoryRange) : Op := fun d net =>
  if ranges.all d.validateRange then flushMapped ranges d net
  else { device := d, net := net, ok := false }

def invalidateMappedMemoryRanges (ranges : List MemoryRange) : Op := fun d net =>
  if ranges.all d.validateRange then downloadMapped ranges d net
  else { device := d, net := net, ok := false }

def dropMapping (d : MappedDevice) (mem : MemoryId) : MappedDevice :=
  { d with mapped := d.mapped.eraseP (fun m => m.memoryId = mem) }

/-- `MapMemory`; `heap` is what the fresh shadow happens to hold. -/
def mapMemory (mem : MemoryId) (offset : ℕ) (size : Option ℕ) (heap : ℕ → Byte) : Op :=
  fun d net =>
  let refused : Done := { device := d, net := net, ok := false }
  match d.memories mem with
  | none => refused
  | some a =>
    match resolveAllocationRange a.size offset size with
    | none => refused
    | some n =>
      if !a.hostVisible || d.mapped.any (fun m => m.memoryId = mem) then refused
      else
        let mapping : MappedRange := {
          memoryId := mem, offset := offset, size := n, emulatedCoherent := a.emulatedCoherent
          transferReady := !a.emulatedCoherent, shadow := heap, baseline := fun _ => 0 }
        let d' := { d with mapped := d.mapped ++ [mapping] }
        if !a.emulatedCoherent then { device := d', net := net }
        else
          let r := downloadMapped [⟨mem, offset, some n⟩] d' net
          if r.ok then
            { r with device := { r.device with mapped := r.device.mapped.map fun m =>
                if m.memoryId = mem then { m with baseline := m.shadow, transferReady := true }
                else m } }
          else { r with device := r.device.dropMapping mem }

/-- `UnmapMemory`: a coherent mapping is flushed whole, and the result of that is ignored. -/
def unmapMemory (mem : MemoryId) : Op := fun d net =>
  let r : Done :=
    match d.mapped.find? (fun m => m.memoryId = mem && m.emulatedCoherent) with
    | some m => flushMapped [⟨mem, m.offset, some m.size⟩] d net
    | none => { device := d, net := net }
  { r with device := r.device.dropMapping mem, ok := true }

end MappedDevice

end VkRemote.Client
