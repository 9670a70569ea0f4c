import Mathlib.Data.List.Forall2
import VulkanRemote.Wire.Codec

/-! `Writer` and `Reader` with the machine's integers: a reader is a position in a buffer it does not own, and
its checks are sums and differences of `size_t`. It refines the reader that keeps what is left as a list, so
what was written is read back; and it stays within the buffer whatever the bytes are. -/

namespace VkRemote.Wire
open Lib

/-- The bytes a reader is given. No object is larger than `PTRDIFF_MAX`. -/
structure Buffer where
  data : List UInt8
  fits : data.length < 2 ^ 63

/-- `m_size`. -/
def Buffer.size (b : Buffer) : UInt64 := UInt64.ofNat b.data.length

/-- A `memcpy` or `assign` out of a buffer. -/
structure Access where
  start : UInt64
  length : UInt64

def Access.Within (a : Access) (b : Buffer) : Prop := a.start.toNat + a.length.toNat ≤ b.data.length

/-- What a C string points at: bytes up to a zero, and whatever comes after it. -/
structure CString where
  memory : List UInt8
  terminated : 0 ∈ memory

/-- The characters `strlen` counts. -/
def CString.chars (s : CString) : List UInt8 := s.memory.takeWhile (· ≠ 0)

/-- The calls of a `Writer`; a `float` is its bit pattern. -/
inductive WriteOp
  | u32 (v : UInt32)
  | u64 (v : UInt64)
  | i32 (v : Int32)
  | f32 (v : UInt32)
  | handle (v : UInt64)
  | bytes (data : List UInt8)
  | string (s : Option CString)

/-- The calls of a `Reader`. -/
inductive ReadOp
  | u32
  | u64
  | i32
  | f32
  | handle
  | bytes (maxSize : UInt64)
  | string
  deriving DecidableEq

inductive Value
  | u32 (v : UInt32)
  | u64 (v : UInt64)
  | i32 (v : Int32)
  | f32 (v : UInt32)
  | handle (v : UInt64)
  | bytes (data : List UInt8)
  | string (s : List UInt8)
  | refused
  deriving DecidableEq

namespace WriteOp

/-- A null string is written as an empty one. -/
def written : WriteOp → List UInt8
  | u32 v => Writer.u32 v
  | u64 v => Writer.u64 v
  | i32 v => Writer.i32 v.toUInt32
  | f32 v => Writer.f32 v
  | handle v => Writer.handle v
  | bytes data => Writer.bytes data
  | string none => Writer.bytes []
  | string (some s) => Writer.string s.chars

def value : WriteOp → Value
  | u32 v => .u32 v
  | u64 v => .u64 v
  | i32 v => .i32 v
  | f32 v => .f32 v
  | handle v => .handle v
  | bytes data => .bytes data
  | string none => .string []
  | string (some s) => .string s.chars

end WriteOp

/-- The read that goes with a write. Lengths are below `2^32` and within the bound the reader gives. -/
inductive ReadsBack : WriteOp → ReadOp → Prop
  | u32 (v : UInt32) : ReadsBack (.u32 v) .u32
  | u64 (v : UInt64) : ReadsBack (.u64 v) .u64
  | i32 (v : Int32) : ReadsBack (.i32 v) .i32
  | f32 (v : UInt32) : ReadsBack (.f32 v) .f32
  | handle (v : UInt64) : ReadsBack (.handle v) .handle
  | bytes {data : List UInt8} {maxSize : UInt64} (h : data.length < 2 ^ 32) (hmax : data.length ≤ maxSize.toNat) :
      ReadsBack (.bytes data) (.bytes maxSize)
  | null : ReadsBack (.string none) .string
  | string {s : CString} (h : s.chars.length < 2 ^ 32) : ReadsBack (.string (some s)) .string

/-- `m_pos` and `m_failed`; `accesses` records what was read of the buffer, the last one first. -/
structure Cursor (b : Buffer) where
  pos : UInt64 := 0
  failed : Bool := false
  accesses : List Access := []

namespace Cursor

variable {b : Buffer}

def remaining (c : Cursor b) : UInt64 := if c.failed then 0 else b.size - c.pos

/-- The next `length` bytes. -/
def next (length : UInt64) (c : Cursor b) : List UInt8 := (b.data.drop c.pos.toNat).take length.toNat

/-- They are copied out and passed. -/
def advance (length : UInt64) (c : Cursor b) : Cursor b :=
  { c with pos := c.pos + length, accesses := ⟨c.pos, length⟩ :: c.accesses }

/-- `m_failed = true`. -/
def fail (c : Cursor b) : Cursor b := { c with failed := true }

/-- `read<T>`, with `width` for `sizeof(T)`. -/
def read (width : UInt64) (c : Cursor b) : ℕ × Cursor b :=
  if c.failed = true ∨ b.size < c.pos + width then (0, c.fail)
  else (ofLE (c.next width), c.advance width)

def u32 (c : Cursor b) : UInt32 × Cursor b := (UInt32.ofNat (c.read 4).1, (c.read 4).2)

def u64 (c : Cursor b) : UInt64 × Cursor b := (UInt64.ofNat (c.read 8).1, (c.read 8).2)

def i32 (c : Cursor b) : Int32 × Cursor b := (c.u32.1.toInt32, c.u32.2)

def f32 (c : Cursor b) : UInt32 × Cursor b := c.u32

def handle (c : Cursor b) : UInt64 × Cursor b := c.u64

/-- The length moves the position even where the bytes behind it are refused. -/
def bytes (maxSize : UInt64) (c : Cursor b) : Option (List UInt8) × Cursor b :=
  let size := c.u32.1.toUInt64
  let c := c.u32.2
  if c.failed = true ∨ maxSize < size ∨ b.size - c.pos < size then (none, c.fail)
  else (some (c.next size), c.advance size)

/-- `UINT32_MAX` is the bound of a string. -/
def string (c : Cursor b) : Option (List UInt8) × Cursor b := c.bytes 0xFFFFFFFF

def perform : ReadOp → Cursor b → Value × Cursor b
  | .u32, c => (.u32 c.u32.1, c.u32.2)
  | .u64, c => (.u64 c.u64.1, c.u64.2)
  | .i32, c => (.i32 c.i32.1, c.i32.2)
  | .f32, c => (.f32 c.f32.1, c.f32.2)
  | .handle, c => (.handle c.handle.1, c.handle.2)
  | .bytes maxSize, c => (((c.bytes maxSize).1.map Value.bytes).getD .refused, (c.bytes maxSize).2)
  | .string, c => ((c.string.1.map Value.string).getD .refused, c.string.2)

/-- `Reader(data, size)`. -/
def start (b : Buffer) : Cursor b := {}

def run : List ReadOp → Cursor b → List Value × Cursor b
  | [], c => ([], c)
  | op :: ops, c => ((c.perform op).1 :: (run ops (c.perform op).2).1, (run ops (c.perform op).2).2)

/-- What is left of a fresh reader by some calls. -/
def after (b : Buffer) (ops : List ReadOp) : Cursor b := ((start b).run ops).2

/-- The position is in the buffer, and so is everything that was read. -/
structure Sound (c : Cursor b) : Prop where
  pos : c.pos.toNat ≤ b.data.length
  accesses : ∀ a ∈ c.accesses, a.Within b

/-- The reader over what is left. -/
def view (c : Cursor b) : Reader := ⟨b.data.drop c.pos.toNat, c.failed⟩

end Cursor

/-- What an operation returns that fails. -/
def ReadOp.zero : ReadOp → Value
  | u32 => .u32 0
  | u64 => .u64 0
  | i32 => .i32 0
  | f32 => .f32 0
  | handle => .handle 0
  | bytes _ => .refused
  | string => .refused

/-- The operation is one that the bytes left allow: they hold its integer, or a length within the bound and as many
bytes as it says. -/
def ReadOp.Fits (rest : List UInt8) : ReadOp → Prop
  | u32 | i32 | f32 => 4 ≤ rest.length
  | u64 | handle => 8 ≤ rest.length
  | bytes maxSize => 4 ≤ rest.length ∧ ofLE (rest.take 4) ≤ maxSize.toNat ∧ 4 + ofLE (rest.take 4) ≤ rest.length
  | string => 4 ≤ rest.length ∧ 4 + ofLE (rest.take 4) ≤ rest.length

/-! ### Reading what was written

The calls over the list of what is left, on which the round trip goes by induction. -/

namespace ReadOp

def onReader : ReadOp → Reader → Value × Reader
  | u32, r => (.u32 r.u32.1, r.u32.2)
  | u64, r => (.u64 r.u64.1, r.u64.2)
  | i32, r => (.i32 r.i32.1.toInt32, r.i32.2)
  | f32, r => (.f32 r.f32.1, r.f32.2)
  | handle, r => (.handle r.handle.1, r.handle.2)
  | bytes maxSize, r => (((r.bytes maxSize.toNat).1.map Value.bytes).getD .refused, (r.bytes maxSize.toNat).2)
  | string, r => ((r.string.1.map Value.string).getD .refused, r.string.2)

def runReader : List ReadOp → Reader → List Value × Reader
  | [], r => ([], r)
  | op :: ops, r => ((op.onReader r).1 :: (runReader ops (op.onReader r).2).1, (runReader ops (op.onReader r).2).2)

theorem onReader_written {w : WriteOp} {op : ReadOp} (h : ReadsBack w op) (tail : List UInt8) :
    op.onReader ⟨w.written ++ tail, false⟩ = (w.value, ⟨tail, false⟩) := by
  cases h with
  | u32 v => simp [onReader, WriteOp.written, WriteOp.value]
  | u64 v => simp [onReader, WriteOp.written, WriteOp.value]
  | i32 v => simp [onReader, WriteOp.written, WriteOp.value]
  | f32 v => simp [onReader, WriteOp.written, WriteOp.value]
  | handle v => simp [onReader, WriteOp.written, WriteOp.value]
  | bytes h hmax => simp [onReader, WriteOp.written, WriteOp.value, Reader.bytes_writer tail h hmax]
  | null =>
    have hempty : ([] : List UInt8).length < 2 ^ 32 := Nat.two_pow_pos 32
    rw [onReader, WriteOp.written, Reader.string_writer tail hempty]; rfl
  | string h => rw [onReader, WriteOp.written, Reader.string_writer tail h]; rfl

theorem runReader_written {ws : List WriteOp} {ops : List ReadOp} (h : List.Forall₂ ReadsBack ws ops)
    (tail : List UInt8) :
    runReader ops ⟨ws.flatMap WriteOp.written ++ tail, false⟩ = (ws.map WriteOp.value, ⟨tail, false⟩) := by
  induction h with
  | nil => rfl
  | cons hmatch _ ih =>
    rw [List.flatMap_cons, List.append_assoc, runReader, onReader_written hmatch, ih]
    rfl

/-- An operation fails exactly if the reader has failed already or what is left does not allow it. -/
theorem onReader_failed_iff (op : ReadOp) (r : Reader) :
    (op.onReader r).2.failed = true ↔ r.failed = true ∨ ¬ op.Fits r.rest := by
  cases op with
  | u32 | i32 | f32 => exact r.read_failed_iff 4
  | u64 | handle => exact r.read_failed_iff 8
  | bytes maxSize => exact r.bytes_failed_iff maxSize.toNat
  | string =>
    refine (r.bytes_failed_iff Reader.noBound).trans (or_congr_right (not_congr (and_congr_right fun _ => ?_)))
    exact and_iff_right (Nat.le_sub_one_of_lt (ofLE_take_lt 4 r.rest))

/-- What is refused has failed. -/
theorem onReader_refused {op : ReadOp} {r : Reader} (h : (op.onReader r).1 = .refused) :
    (op.onReader r).2.failed = true := by
  cases op with
  | u32 | u64 | i32 | f32 | handle => cases h
  | bytes maxSize => exact Reader.failed_of_bytes_none (by simpa [onReader, Option.getD_eq_iff] using h)
  | string => exact Reader.failed_of_bytes_none (by simpa [onReader, Option.getD_eq_iff, Reader.string] using h)

end ReadOp

theorem Buffer.toNat_size (b : Buffer) : b.size.toNat = b.data.length :=
  UInt64.toNat_ofNat_of_lt' (b.fits.trans (by decide))

namespace Cursor

variable {b : Buffer} {c : Cursor b} {width maxSize : UInt64}

/-- An operation of the cursor does what the one of the reader does, and leaves it sound. -/
structure Refines {α : Type} (r : α × Cursor b) (r' : α × Reader) : Prop where
  sound : r.2.Sound
  value : r.1 = r'.1
  view : r.2.view = r'.2

theorem toNat_left (h : c.Sound) : (b.size - c.pos).toNat = b.data.length - c.pos.toNat := by
  have hle : c.pos ≤ b.size := by
    rw [UInt64.le_iff_toNat_le, b.toNat_size]
    exact h.pos
  rw [UInt64.toNat_sub_of_le _ _ hle, b.toNat_size]

theorem length_view (c : Cursor b) : c.view.rest.length = b.data.length - c.pos.toNat := List.length_drop

/-- A sum of the position and the size of an integer does not wrap. -/
theorem toNat_pos_add (h : c.Sound) (hwidth : width.toNat ≤ 2 ^ 32) :
    (c.pos + width).toNat = c.pos.toNat + width.toNat := by
  have hpos := h.pos
  have hfits := b.fits
  rw [UInt64.toNat_add, Nat.mod_eq_of_lt]
  omega

/-- What is read past the position is in the buffer when it is no longer than what is left. -/
theorem sound_advance (h : c.Sound) (hwidth : width.toNat ≤ 2 ^ 32)
    (hleft : width.toNat ≤ b.data.length - c.pos.toNat) : (c.advance width).Sound where
  pos := by
    have hpos := h.pos
    have hsum := toNat_pos_add h hwidth
    dsimp only [advance]
    omega
  accesses a ha := by
    rcases List.mem_cons.1 ha with rfl | ha
    · have hpos := h.pos
      unfold Access.Within
      dsimp only
      omega
    · exact h.accesses a ha

theorem view_advance (h : c.Sound) (hwidth : width.toNat ≤ 2 ^ 32) :
    (c.advance width).view = { c.view with rest := c.view.rest.drop width.toNat } := by
  simp [view, advance, toNat_pos_add h hwidth, List.drop_drop]

theorem sound_fail (h : c.Sound) : c.fail.Sound := ⟨h.pos, h.accesses⟩

theorem read_refines (h : c.Sound) (hwidth : width.toNat ≤ 2 ^ 32) :
    Refines (c.read width) (c.view.read width.toNat) := by
  -- the check in words is the check on what is left
  have hguard : b.size < c.pos + width ↔ c.view.rest.length < width.toNat := by
    have hpos := h.pos
    rw [UInt64.lt_iff_toNat_lt, b.toNat_size, toNat_pos_add h hwidth, length_view]
    omega
  by_cases hfail : c.failed = true ∨ b.size < c.pos + width
  · have hfail' : c.view.failed = true ∨ c.view.rest.length < width.toNat := hfail.imp_right hguard.1
    rw [read, if_pos hfail, Reader.read, if_pos hfail']
    exact ⟨sound_fail h, rfl, rfl⟩
  · have hfail' : ¬ (c.view.failed = true ∨ c.view.rest.length < width.toNat) :=
      fun hor => hfail (hor.imp_right hguard.2)
    rw [read, if_neg hfail, Reader.read, if_neg hfail']
    have hleft : width.toNat ≤ b.data.length - c.pos.toNat := by
      rw [← length_view]
      exact Nat.not_lt.1 fun hlt => hfail' (.inr hlt)
    exact ⟨sound_advance h hwidth hleft, rfl, view_advance h hwidth⟩

theorem u32_refines (h : c.Sound) : Refines c.u32 c.view.u32 := by
  have hread := @read_refines _ c 4 h (by decide)
  exact ⟨hread.sound, congrArg UInt32.ofNat hread.value, hread.view⟩

theorem u64_refines (h : c.Sound) : Refines c.u64 c.view.u64 := by
  have hread := @read_refines _ c 8 h (by decide)
  exact ⟨hread.sound, congrArg UInt64.ofNat hread.value, hread.view⟩

theorem bytes_refines (h : c.Sound) (maxSize : UInt64) :
    Refines (c.bytes maxSize) (c.view.bytes maxSize.toNat) := by
  obtain ⟨hsound, hsize, hview⟩ := u32_refines h
  unfold bytes Reader.bytes
  dsimp only
  rw [← hsize, ← hview]
  generalize c.u32.2 = d at hsound ⊢
  generalize c.u32.1 = size
  have hwidth : size.toUInt64.toNat ≤ 2 ^ 32 := by
    rw [UInt32.toNat_toUInt64]
    exact size.toNat_lt.le
  have hguard : (maxSize < size.toUInt64 ∨ b.size - d.pos < size.toUInt64) ↔
      (maxSize.toNat < size.toNat ∨ d.view.rest.length < size.toNat) := by
    rw [UInt64.lt_iff_toNat_lt, UInt64.lt_iff_toNat_lt, toNat_left hsound, UInt32.toNat_toUInt64, length_view]
  by_cases hfail : d.failed = true ∨ maxSize < size.toUInt64 ∨ b.size - d.pos < size.toUInt64
  · have hfail' : d.view.failed = true ∨ maxSize.toNat < size.toNat ∨ d.view.rest.length < size.toNat :=
      hfail.imp_right hguard.1
    rw [if_pos hfail, if_pos hfail']
    exact ⟨sound_fail hsound, rfl, rfl⟩
  · have hfail' : ¬ (d.view.failed = true ∨ maxSize.toNat < size.toNat ∨ d.view.rest.length < size.toNat) :=
      fun hor => hfail (hor.imp_right hguard.2)
    rw [if_neg hfail, if_neg hfail']
    have hleft : size.toUInt64.toNat ≤ b.data.length - d.pos.toNat := by
      rw [UInt32.toNat_toUInt64, ← length_view]
      exact Nat.not_lt.1 fun hlt => hfail' (.inr (.inr hlt))
    refine ⟨sound_advance hsound hwidth hleft, ?_, ?_⟩
    · dsimp only [next]
      rw [UInt32.toNat_toUInt64]
      rfl
    · rw [view_advance hsound hwidth, UInt32.toNat_toUInt64]

theorem perform_refines (h : c.Sound) (op : ReadOp) : Refines (c.perform op) (op.onReader c.view) := by
  have hu32 := u32_refines h
  have hu64 := u64_refines h
  cases op with
  | u32 => exact ⟨hu32.sound, congrArg Value.u32 hu32.value, hu32.view⟩
  | u64 => exact ⟨hu64.sound, congrArg Value.u64 hu64.value, hu64.view⟩
  | i32 => exact ⟨hu32.sound, congrArg (fun v : UInt32 => Value.i32 v.toInt32) hu32.value, hu32.view⟩
  | f32 => exact ⟨hu32.sound, congrArg Value.f32 hu32.value, hu32.view⟩
  | handle => exact ⟨hu64.sound, congrArg Value.handle hu64.value, hu64.view⟩
  | bytes maxSize =>
    have hbytes := bytes_refines h maxSize
    exact ⟨hbytes.sound, congrArg (fun v => (v.map Value.bytes).getD .refused) hbytes.value, hbytes.view⟩
  | string =>
    have hbytes := bytes_refines h 0xFFFFFFFF
    exact ⟨hbytes.sound, congrArg (fun v => (v.map Value.string).getD .refused) hbytes.value, hbytes.view⟩

theorem run_refines (h : c.Sound) (ops : List ReadOp) : Refines (c.run ops) (ReadOp.runReader ops c.view) := by
  induction ops generalizing c with
  | nil => exact ⟨h, rfl, rfl⟩
  | cons op ops ih =>
    have hop := perform_refines h op
    have hrest := ih hop.sound
    rw [hop.view] at hrest
    exact ⟨hrest.sound, congrArg₂ List.cons hop.value hrest.value, hrest.view⟩

theorem sound_start (b : Buffer) : (start b).Sound := ⟨Nat.zero_le _, fun _ ha => absurd ha List.not_mem_nil⟩

theorem sound_after (b : Buffer) (ops : List ReadOp) : (after b ops).Sound :=
  (run_refines (sound_start b) ops).sound

/-- What was written into the buffer is read back, up to its last byte. -/
theorem run_written {ws : List WriteOp} {ops : List ReadOp} (h : List.Forall₂ ReadsBack ws ops)
    (hdata : b.data = ws.flatMap WriteOp.written) :
    ((start b).run ops).1 = ws.map WriteOp.value ∧ (after b ops).failed = false ∧
      (after b ops).pos.toNat = b.data.length := by
  have hrun := run_refines (sound_start b) ops
  have hview : (start b).view = ⟨ws.flatMap WriteOp.written ++ [], false⟩ := by
    rw [List.append_nil, ← hdata]
    rfl
  rw [hview, ReadOp.runReader_written h] at hrun
  have hend : (after b ops).view = ⟨[], false⟩ := hrun.view
  refine ⟨hrun.value, congrArg Reader.failed hend, ?_⟩
  have hlength := (after b ops).length_view
  have hpos := hrun.sound.pos
  rw [hend, List.length_nil] at hlength
  exact hpos.antisymm (Nat.le_of_sub_eq_zero hlength.symm)

theorem fail_eq (h : c.failed = true) : c.fail = c := by
  unfold fail
  rw [← h]

theorem read_failed (h : c.failed = true) (width : UInt64) : c.read width = (0, c) := by
  rw [read, if_pos (.inl h), fail_eq h]

theorem read_zero (h : (c.read width).2.failed = true) : (c.read width).1 = 0 := by
  unfold read at h ⊢
  split_ifs at h ⊢ with hfail
  · rfl
  · exact absurd (.inl h) hfail

theorem bytes_failed (h : c.failed = true) (maxSize : UInt64) : c.bytes maxSize = (none, c) := by
  have hread := read_failed h 4
  have hu32 : c.u32.2 = c := congrArg Prod.snd hread
  unfold bytes
  dsimp only
  rw [hu32, if_pos (.inl h), fail_eq h]

theorem bytes_none (h : (c.bytes maxSize).2.failed = true) : (c.bytes maxSize).1 = none := by
  unfold bytes at h ⊢
  dsimp only at h ⊢
  split_ifs at h ⊢ with hfail
  · rfl
  · exact absurd (.inl h) hfail

/-- A reader that has failed refuses everything and stays as it is. -/
theorem perform_failed (h : c.failed = true) (op : ReadOp) : c.perform op = (op.zero, c) := by
  have hread := read_failed h
  cases op with
  | u32 => simp [perform, u32, ReadOp.zero, hread]
  | u64 => simp [perform, u64, ReadOp.zero, hread]
  | i32 => simp [perform, i32, u32, ReadOp.zero, hread]
  | f32 => simp [perform, f32, u32, ReadOp.zero, hread]
  | handle => simp [perform, handle, u64, ReadOp.zero, hread]
  | bytes maxSize => simp [perform, ReadOp.zero, bytes_failed h]
  | string => simp [perform, string, ReadOp.zero, bytes_failed h]

theorem run_failed (h : c.failed = true) (ops : List ReadOp) : c.run ops = (ops.map ReadOp.zero, c) := by
  induction ops with
  | nil => rfl
  | cons op ops ih =>
    rw [run, perform_failed h, ih]
    rfl

/-- The operation that fails returns zero or false itself. -/
theorem perform_zero {op : ReadOp} (h : (c.perform op).2.failed = true) : (c.perform op).1 = op.zero := by
  cases op with
  | u32 => exact congrArg (fun n => Value.u32 (UInt32.ofNat n)) (read_zero h)
  | u64 => exact congrArg (fun n => Value.u64 (UInt64.ofNat n)) (read_zero h)
  | i32 => exact congrArg (fun n => Value.i32 (UInt32.ofNat n).toInt32) (read_zero h)
  | f32 => exact congrArg (fun n => Value.f32 (UInt32.ofNat n)) (read_zero h)
  | handle => exact congrArg (fun n => Value.handle (UInt64.ofNat n)) (read_zero h)
  | bytes maxSize => exact congrArg (fun v => (v.map Value.bytes).getD .refused) (bytes_none h)
  | string => exact congrArg (fun v => (v.map Value.string).getD .refused) (bytes_none h)

theorem remaining_failed (h : c.failed = true) : c.remaining = 0 := by rw [remaining, if_pos h]

/-- An operation fails exactly if the reader has failed already or the bytes from the position on do not allow it. -/
theorem perform_failed_iff (h : c.Sound) (op : ReadOp) :
    (c.perform op).2.failed = true ↔ c.failed = true ∨ ¬ op.Fits (b.data.drop c.pos.toNat) := by
  have hview := congrArg Reader.failed (perform_refines h op).view
  rw [show (c.perform op).2.failed = _ from hview]
  exact op.onReader_failed_iff c.view

theorem perform_refused (h : c.Sound) {op : ReadOp} (hrefused : (c.perform op).1 = .refused) :
    (c.perform op).2.failed = true := by
  obtain ⟨-, hvalue, hview⟩ := perform_refines h op
  rw [show (c.perform op).2.failed = _ from congrArg Reader.failed hview]
  exact ReadOp.onReader_refused (hvalue.symm.trans hrefused)

/-- Over bytes that were written, the reads that go with the writes return what was written and leave nothing.
Over any bytes, no read leaves the buffer; one that what is left does not allow, or that returns false, fails,
and the first that fails is the end of it. -/
theorem written_and_untrusted (b : Buffer) :
    (∀ ws ops, List.Forall₂ ReadsBack ws ops → b.data = ws.flatMap WriteOp.written →
      ((start b).run ops).1 = ws.map WriteOp.value ∧ (after b ops).failed = false ∧
        (after b ops).pos.toNat = b.data.length) ∧
      ∀ ops, (after b ops).Sound ∧
        ∀ op, (((after b ops).perform op).2.failed = true ↔
            (after b ops).failed = true ∨ ¬ op.Fits (b.data.drop (after b ops).pos.toNat)) ∧
          (((after b ops).perform op).1 = .refused → ((after b ops).perform op).2.failed = true) ∧
          (((after b ops).perform op).2.failed = true →
            ((after b ops).perform op).1 = op.zero ∧ ((after b ops).perform op).2.remaining = 0 ∧
              ∀ later, ((after b ops).perform op).2.run later =
                (later.map ReadOp.zero, ((after b ops).perform op).2)) := by
  refine ⟨fun ws ops h hdata => run_written h hdata, fun ops => ?_⟩
  have hsound := sound_after b ops
  refine ⟨hsound, fun op => ⟨perform_failed_iff hsound op, perform_refused hsound, fun h => ?_⟩⟩
  exact ⟨perform_zero h, remaining_failed h, run_failed h⟩

/-- A number, three bytes and a null string. -/
def smallMessage : Buffer := ⟨[WriteOp.u32 7, .bytes [1, 2, 3], .string none].flatMap WriteOp.written, by decide⟩

theorem smallMessage_read :
    ((start smallMessage).run [.u32, .bytes 16, .string]).1 = [.u32 7, .bytes [1, 2, 3], .string []] :=
  ((written_and_untrusted smallMessage).1 _ _
    (.cons (.u32 7) (.cons (.bytes (by decide) (by decide)) (.cons .null .nil))) rfl).1

end Cursor
end VkRemote.Wire
