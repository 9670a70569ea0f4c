import Mathlib.Data.UInt
import VulkanRemote.Lib.LittleEndian

/-! Records as they lie in memory: one slot after another, little-endian, with the gaps that alignment
leaves. A record is the tuple of its slots' values; what lies in the gaps stands apart from it. -/

namespace VkRemote.Lib

/-- Bytes of a fixed number. -/
abbrev Blob (n : ℕ) := {bs : List UInt8 // bs.length = n}

/-- `pad` is a gap; it has no value, but bytes lie in it. -/
inductive Slot
  | u32
  | u64
  | blob (n : ℕ)
  | pad (n : ℕ)
  deriving DecidableEq

namespace Slot

def size : Slot → ℕ
  | u32 => 4
  | u64 => 8
  | blob n => n
  | pad n => n

end Slot

/-- The first `n` bytes, with zeros where there are fewer. -/
def Blob.ofBytes (n : ℕ) (bs : List UInt8) : Blob n :=
  ⟨(bs ++ List.replicate n 0).take n, by simp⟩

theorem Blob.ofBytes_append {n : ℕ} (b : Blob n) (tail : List UInt8) :
    Blob.ofBytes n (b.val ++ tail) = b := by
  apply Subtype.ext
  change List.take n (b.val ++ tail ++ List.replicate n 0) = b.val
  rw [List.append_assoc]
  exact List.take_left' b.property

@[reducible] def Record : List Slot → Type
  | [] => Unit
  | .u32 :: ss => UInt32 × Record ss
  | .u64 :: ss => UInt64 × Record ss
  | .blob n :: ss => Blob n × Record ss
  | .pad _ :: ss => Record ss

/-- What lies in the gaps. -/
@[reducible] def Gaps : List Slot → Type
  | [] => Unit
  | .u32 :: ss => Gaps ss
  | .u64 :: ss => Gaps ss
  | .blob _ :: ss => Gaps ss
  | .pad n :: ss => Blob n × Gaps ss

namespace Gaps

def zeros : (ss : List Slot) → Gaps ss
  | [] => ()
  | .u32 :: ss => zeros ss
  | .u64 :: ss => zeros ss
  | .blob _ :: ss => zeros ss
  | .pad n :: ss => (Blob.ofBytes n [], zeros ss)

/-- What the bytes of a record have in its gaps. -/
def ofBytes : (ss : List Slot) → List UInt8 → Gaps ss
  | [], _ => ()
  | .u32 :: ss, bs => ofBytes ss (bs.drop 4)
  | .u64 :: ss, bs => ofBytes ss (bs.drop 8)
  | .blob n :: ss, bs => ofBytes ss (bs.drop n)
  | .pad n :: ss, bs => (Blob.ofBytes n bs, ofBytes ss (bs.drop n))

/-- The bytes, gap after gap. -/
def bytes : {ss : List Slot} → Gaps ss → List UInt8
  | [], _ => []
  | .u32 :: ss, g => @bytes ss g
  | .u64 :: ss, g => @bytes ss g
  | .blob _ :: ss, g => @bytes ss g
  | .pad _ :: ss, (b, g) => b.val ++ @bytes ss g

theorem length_bytes {ss : List Slot} (g g' : Gaps ss) : g.bytes.length = g'.bytes.length := by
  induction ss with
  | nil => rfl
  | cons s ss ih =>
    cases s with
    | pad n =>
      have hlength : (g.1.val ++ @bytes ss g.2).length = (g'.1.val ++ @bytes ss g'.2).length := by
        rw [List.length_append, List.length_append, g.1.property, g'.1.property, ih]
      exact hlength
    | _ => exact ih g g'

theorem bytes_inj {ss : List Slot} {g g' : Gaps ss} : g.bytes = g'.bytes ↔ g = g' := by
  refine ⟨fun h => ?_, congrArg _⟩
  induction ss with
  | nil => rfl
  | cons s ss ih =>
    cases s with
    | pad n =>
      obtain ⟨hblob, hrest⟩ := List.append_inj h (g.1.property.trans g'.1.property.symm)
      exact Prod.ext (Subtype.ext hblob) (ih hrest)
    | _ => exact ih h

end Gaps

namespace Record

def size (ss : List Slot) : ℕ := (ss.map Slot.size).sum

@[simp] theorem size_nil : size [] = 0 := rfl

@[simp] theorem size_cons (s : Slot) (ss : List Slot) : size (s :: ss) = s.size + size ss := by
  rw [size, List.map_cons, List.sum_cons, size]

def bytes : (ss : List Slot) → Record ss → Gaps ss → List UInt8
  | [], _, _ => []
  | .u32 :: ss, (v, r), g => toLE 4 v.toNat ++ bytes ss r g
  | .u64 :: ss, (v, r), g => toLE 8 v.toNat ++ bytes ss r g
  | .blob _ :: ss, (b, r), g => b.val ++ bytes ss r g
  | .pad _ :: ss, r, (b, g) => b.val ++ bytes ss r g

/-- What the bytes hold; bytes that are missing count as zeros. -/
def ofBytes : (ss : List Slot) → List UInt8 → Record ss
  | [], _ => ()
  | .u32 :: ss, bs => (UInt32.ofNat (ofLE (bs.take 4)), ofBytes ss (bs.drop 4))
  | .u64 :: ss, bs => (UInt64.ofNat (ofLE (bs.take 8)), ofBytes ss (bs.drop 8))
  | .blob n :: ss, bs => (Blob.ofBytes n bs, ofBytes ss (bs.drop n))
  | .pad n :: ss, bs => ofBytes ss (bs.drop n)

@[simp] theorem length_bytes (ss : List Slot) (r : Record ss) (g : Gaps ss) :
    (bytes ss r g).length = size ss := by
  induction ss with
  | nil => rfl
  | cons s ss ih =>
    cases s with
    | u32 => simp [bytes, ih, Slot.size]
    | u64 => simp [bytes, ih, Slot.size]
    | blob n => simp [bytes, ih, Slot.size, r.1.property]
    | pad n => simp [bytes, ih, Slot.size, g.1.property]

/-- A record is read back from its bytes. -/
theorem ofBytes_bytes (ss : List Slot) (r : Record ss) (g : Gaps ss) : ofBytes ss (bytes ss r g) = r := by
  induction ss with
  | nil => rfl
  | cons s ss ih =>
    cases s with
    | u32 =>
      have htake : (toLE 4 r.1.toNat ++ bytes ss r.2 g).take 4 = toLE 4 r.1.toNat :=
        List.take_left' (length_toLE 4 r.1.toNat)
      have hdrop : (toLE 4 r.1.toNat ++ bytes ss r.2 g).drop 4 = bytes ss r.2 g :=
        List.drop_left' (length_toLE 4 r.1.toNat)
      simp only [bytes, ofBytes, htake, hdrop, ih, ofLE_toLE_u32]
    | u64 =>
      have htake : (toLE 8 r.1.toNat ++ bytes ss r.2 g).take 8 = toLE 8 r.1.toNat :=
        List.take_left' (length_toLE 8 r.1.toNat)
      have hdrop : (toLE 8 r.1.toNat ++ bytes ss r.2 g).drop 8 = bytes ss r.2 g :=
        List.drop_left' (length_toLE 8 r.1.toNat)
      simp only [bytes, ofBytes, htake, hdrop, ih, ofLE_toLE_u64]
    | blob n =>
      have hdrop : (r.1.val ++ bytes ss r.2 g).drop n = bytes ss r.2 g := List.drop_left' r.1.property
      simp only [bytes, ofBytes, Blob.ofBytes_append, hdrop, ih]
    | pad n =>
      have hdrop : (g.1.val ++ bytes ss r g.2).drop n = bytes ss r g.2 := List.drop_left' g.1.property
      simp only [bytes, ofBytes, hdrop, ih]

/-- So are the gaps. -/
theorem gaps_ofBytes_bytes (ss : List Slot) (r : Record ss) (g : Gaps ss) :
    Gaps.ofBytes ss (bytes ss r g) = g := by
  induction ss with
  | nil => rfl
  | cons s ss ih =>
    cases s with
    | u32 =>
      have hdrop : (toLE 4 r.1.toNat ++ bytes ss r.2 g).drop 4 = bytes ss r.2 g :=
        List.drop_left' (length_toLE 4 r.1.toNat)
      simp only [bytes, Gaps.ofBytes, hdrop, ih]
    | u64 =>
      have hdrop : (toLE 8 r.1.toNat ++ bytes ss r.2 g).drop 8 = bytes ss r.2 g :=
        List.drop_left' (length_toLE 8 r.1.toNat)
      simp only [bytes, Gaps.ofBytes, hdrop, ih]
    | blob n =>
      have hdrop : (r.1.val ++ bytes ss r.2 g).drop n = bytes ss r.2 g := List.drop_left' r.1.property
      simp only [bytes, Gaps.ofBytes, hdrop, ih]
    | pad n =>
      have hdrop : (g.1.val ++ bytes ss r g.2).drop n = bytes ss r g.2 := List.drop_left' g.1.property
      simp only [bytes, Gaps.ofBytes, Blob.ofBytes_append, hdrop, ih]

end Record
end VkRemote.Lib
