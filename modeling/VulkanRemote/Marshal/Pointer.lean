import Mathlib.Data.Vector.Basic
import VulkanRemote.Lib.Record
import VulkanRemote.Wire.Codec

/-! The pointer fields of native structures, and structures as they lie in memory. -/

namespace VkRemote.Marshal

open Lib Wire

/-- Where something lies in the application's memory. -/
structure Address where
  bits : UInt64
  nonzero : bits ≠ 0
  deriving DecidableEq

/-- A pointer to something of the application, to a block of a decoder's `Arena`, or a pattern of bits that
came with a message. The blocks of an arena have no address here, as no encoder is given one. -/
inductive Ptr (α : Type)
  | null
  | host (address : Address) (target : α)
  | arena (target : α)
  | wire (bits : UInt64)
  deriving DecidableEq

/-- An array of the length that its structure says. -/
abbrev Elements (α : Type) (n : ℕ) := List.Vector α n

namespace Ptr

variable {α β : Type}

def bits : Ptr α → UInt64
  | null => 0
  | host a _ => a.bits
  | arena _ => 0
  | wire b => b

/-- A pointer field of a structure that was copied from a message. -/
def ofBits (b : UInt64) : Ptr α := if b = 0 then null else wire b

def isNull : Ptr α → Bool
  | null => true
  | _ => false

def target : Ptr α → Option α
  | null => none
  | host _ a => some a
  | arena a => some a
  | wire _ => none

/-- What a pointer stands for, apart from the address. -/
def contents (f : α → β) : Ptr α → Ptr β
  | null => null
  | host _ a => arena (f a)
  | arena a => arena (f a)
  | wire b => wire b

/-- The elements an encoder finds; a null array has none. -/
def items {n : ℕ} (p : Ptr (Elements α n)) : List α :=
  match p.target with
  | some v => v.toList
  | none => []

@[simp] theorem isNull_contents (f : α → β) (p : Ptr α) : (p.contents f).isNull = p.isNull := by
  cases p <;> rfl

@[simp] theorem target_contents (f : α → β) (p : Ptr α) :
    (p.contents f).target = p.target.map f := by
  cases p <;> rfl

@[simp] theorem items_contents {n : ℕ} (f : α → β) (p : Ptr (Elements α n)) :
    (p.contents (List.Vector.map f)).items = p.items.map f := by
  cases p <;> simp [items, contents, target]

@[simp] theorem items_contents_id {n : ℕ} (p : Ptr (Elements α n)) : (p.contents id).items = p.items := by
  cases p <;> rfl

theorem contents_contents {γ : Type} (f : α → β) (g : β → γ) (p : Ptr α) :
    (p.contents f).contents g = p.contents (g ∘ f) := by
  cases p <;> rfl

end Ptr

/-- A structure that is copied to and from messages as it lies in memory, gaps included. -/
class Raw (α : Type) where
  slots : List Slot
  record : α → Record slots
  gaps : α → Gaps slots
  ofRecord : Record slots → Gaps slots → α

namespace Raw

variable {α : Type} [Raw α]

def sizeof (α : Type) [Raw α] : ℕ := Record.size (slots α)

def image (a : α) : List UInt8 := Record.bytes (slots α) (record a) (gaps a)

def ofImage (bs : List UInt8) : α := ofRecord (Record.ofBytes (slots α) bs) (Gaps.ofBytes (slots α) bs)

/-- What a raw copy keeps: pointers become patterns of bits. -/
def copied (a : α) : α := ofRecord (record a) (gaps a)

/-- What lies in the gaps, as bytes. -/
def padding (a : α) : List UInt8 := (gaps a).bytes

@[simp] theorem length_image (a : α) : (image a).length = sizeof α := Record.length_bytes _ _ _

theorem ofImage_image (a : α) : ofImage (image a) = copied a := by
  rw [ofImage, image, Record.ofBytes_bytes, Record.gaps_ofBytes_bytes, copied]

theorem image_inj {a b : α} : image a = image b ↔ record a = record b ∧ gaps a = gaps b := by
  constructor
  · intro h
    have hrecord := congrArg (Record.ofBytes (slots α)) h
    have hgaps := congrArg (Gaps.ofBytes (slots α)) h
    rw [image, image, Record.ofBytes_bytes, Record.ofBytes_bytes] at hrecord
    rw [image, image, Record.gaps_ofBytes_bytes, Record.gaps_ofBytes_bytes] at hgaps
    exact ⟨hrecord, hgaps⟩
  · rintro ⟨hrecord, hgaps⟩
    rw [image, hrecord, hgaps, image]

end Raw

/-- A plain structure with no pointer in it: its bytes are copied and never looked at. -/
instance (n : ℕ) : Raw (Blob n) where
  slots := [.blob n]
  record b := (b, ())
  gaps _ := ()
  ofRecord r _ := r.1

/-- `w.bytes(&tmp, sizeof(tmp))`. -/
def writeRaw {α : Type} [Raw α] (a : α) : List UInt8 := Writer.bytes (Raw.image a)

theorem length_writeRaw {α : Type} [Raw α] (a : α) : (writeRaw a).length = 4 + Raw.sizeof α := by
  rw [writeRaw, Writer.length_bytes, Raw.length_image]

theorem writeRaw_inj {α : Type} [Raw α] {a b : α} :
    writeRaw a = writeRaw b ↔ Raw.record a = Raw.record b ∧ Raw.gaps a = Raw.gaps b := by
  rw [writeRaw, writeRaw, Writer.bytes, Writer.bytes, Raw.length_image, Raw.length_image,
    List.append_cancel_left_eq, Raw.image_inj]

/-- `write_pod_array`. -/
def writePodArray {n k : ℕ} (p : Ptr (Elements (Blob n) k)) : List UInt8 :=
  Writer.bytes (p.items.flatMap Subtype.val)

/-- `write_opt_pod_array`. -/
def writeOptPodArray {n k : ℕ} (p : Ptr (Elements (Blob n) k)) : List UInt8 :=
  if p.isNull then Writer.u32 0 else Writer.u32 1 ++ writePodArray p

/-- `write_opt_pod`. -/
def writeOptPod {α : Type} [Raw α] (p : Ptr α) : List UInt8 :=
  match p.target with
  | none => Writer.u32 0
  | some a => Writer.u32 1 ++ writeRaw a

/-- `write_handle_array`. -/
def writeHandleArray {n : ℕ} (p : Ptr (Elements UInt64 n)) : List UInt8 :=
  p.items.flatMap Writer.handle

/-- `write_string_array`. -/
def writeStringArray {n : ℕ} (p : Ptr (Elements (Ptr (List UInt8)) n)) : List UInt8 :=
  p.items.flatMap fun s => Writer.string (s.target.getD [])

section

variable {n k : ℕ}

@[simp] theorem writePodArray_contents (p : Ptr (Elements (Blob n) k)) :
    writePodArray (p.contents id) = writePodArray p := by
  rw [writePodArray, Ptr.items_contents_id, writePodArray]

@[simp] theorem writeOptPodArray_contents (p : Ptr (Elements (Blob n) k)) :
    writeOptPodArray (p.contents id) = writeOptPodArray p := by
  rw [writeOptPodArray, writePodArray_contents, Ptr.isNull_contents, writeOptPodArray]

@[simp] theorem writeOptPod_contents {α : Type} [Raw α] (p : Ptr α) :
    writeOptPod (p.contents id) = writeOptPod p := by
  cases p <;> rfl

@[simp] theorem writeHandleArray_contents (p : Ptr (Elements UInt64 n)) :
    writeHandleArray (p.contents id) = writeHandleArray p := by
  rw [writeHandleArray, Ptr.items_contents_id, writeHandleArray]

@[simp] theorem writeStringArray_contents (p : Ptr (Elements (Ptr (List UInt8)) n)) :
    writeStringArray (p.contents (List.Vector.map (Ptr.contents id))) = writeStringArray p := by
  rw [writeStringArray, Ptr.items_contents, List.flatMap_map, writeStringArray]
  congr 1
  funext s
  rw [Ptr.target_contents, Option.map_id]
  rfl

end
end VkRemote.Marshal
