import Mathlib.Data.UInt
import VulkanRemote.Lib.LittleEndian

/-! `Writer` and `Reader`: integers little-endian, byte strings behind a length of 32 bits. A reader that
has failed once fails for ever. Signed integers and floats travel as their bit patterns. -/

namespace VkRemote.Wire

open Lib

/-- What one call of a `Writer` appends. -/
def Writer.u32 (v : UInt32) : List UInt8 := toLE 4 v.toNat

def Writer.u64 (v : UInt64) : List UInt8 := toLE 8 v.toNat

abbrev Writer.i32 : UInt32 → List UInt8 := Writer.u32

abbrev Writer.f32 : UInt32 → List UInt8 := Writer.u32

abbrev Writer.handle : UInt64 → List UInt8 := Writer.u64

/-- The length is cut to 32 bits, the data is not. -/
def Writer.bytes (data : List UInt8) : List UInt8 :=
  Writer.u32 (UInt32.ofNat data.length) ++ data

abbrev Writer.string : List UInt8 → List UInt8 := Writer.bytes

namespace Writer

@[simp] theorem length_u32 (v : UInt32) : (u32 v).length = 4 := length_toLE _ _

@[simp] theorem length_u64 (v : UInt64) : (u64 v).length = 8 := length_toLE _ _

@[simp] theorem length_bytes (data : List UInt8) : (bytes data).length = 4 + data.length := by
  simp [bytes]

end Writer

/-- `rest` is what is not yet consumed. -/
structure Reader where
  rest : List UInt8
  failed : Bool := false
  deriving DecidableEq

namespace Reader

def ok (r : Reader) : Bool := !r.failed

def remaining (r : Reader) : ℕ := if r.failed then 0 else r.rest.length

/-- The integer in the next `n` bytes. -/
def read (n : ℕ) (r : Reader) : ℕ × Reader :=
  if r.failed = true ∨ r.rest.length < n then (0, { r with failed := true })
  else (ofLE (r.rest.take n), { r with rest := r.rest.drop n })

def u32 (r : Reader) : UInt32 × Reader := ((UInt32.ofNat (r.read 4).1), (r.read 4).2)

def u64 (r : Reader) : UInt64 × Reader := ((UInt64.ofNat (r.read 8).1), (r.read 8).2)

abbrev i32 : Reader → UInt32 × Reader := u32

abbrev f32 : Reader → UInt32 × Reader := u32

abbrev handle : Reader → UInt64 × Reader := u64

/-- `UINT32_MAX`, the bound `bytes` has where the caller gives none. -/
def noBound : ℕ := 2 ^ 32 - 1

def bytes (maxSize : ℕ) (r : Reader) : Option (List UInt8) × Reader :=
  let (size, r) := r.u32
  if r.failed = true ∨ maxSize < size.toNat ∨ r.rest.length < size.toNat then
    (none, { r with failed := true })
  else (some (r.rest.take size.toNat), { r with rest := r.rest.drop size.toNat })

def string (r : Reader) : Option (List UInt8) × Reader := r.bytes noBound

/-! ### Reading what was written -/

section

variable (tail : List UInt8)

@[simp] theorem u32_writer (v : UInt32) : u32 ⟨Writer.u32 v ++ tail, false⟩ = (v, ⟨tail, false⟩) := by
  have htake : (toLE 4 v.toNat ++ tail).take 4 = toLE 4 v.toNat := List.take_left' (length_toLE 4 v.toNat)
  have hdrop : (toLE 4 v.toNat ++ tail).drop 4 = tail := List.drop_left' (length_toLE 4 v.toNat)
  simp [u32, read, Writer.u32, htake, hdrop, ofLE_toLE_u32]

@[simp] theorem u64_writer (v : UInt64) : u64 ⟨Writer.u64 v ++ tail, false⟩ = (v, ⟨tail, false⟩) := by
  have htake : (toLE 8 v.toNat ++ tail).take 8 = toLE 8 v.toNat := List.take_left' (length_toLE 8 v.toNat)
  have hdrop : (toLE 8 v.toNat ++ tail).drop 8 = tail := List.drop_left' (length_toLE 8 v.toNat)
  simp [u64, read, Writer.u64, htake, hdrop, ofLE_toLE_u64]

theorem bytes_writer {data : List UInt8} {maxSize : ℕ} (h : data.length < 2 ^ 32)
    (hmax : data.length ≤ maxSize) :
    bytes maxSize ⟨Writer.bytes data ++ tail, false⟩ = (some data, ⟨tail, false⟩) := by
  have hlen : (UInt32.ofNat data.length).toNat = data.length := UInt32.toNat_ofNat_of_lt' h
  rw [Writer.bytes, List.append_assoc]
  simp [bytes, hlen, not_lt.2 hmax]

theorem string_writer {data : List UInt8} (h : data.length < 2 ^ 32) :
    string ⟨Writer.string data ++ tail, false⟩ = (some data, ⟨tail, false⟩) :=
  bytes_writer tail h (Nat.le_sub_one_of_lt h)

theorem u32_writer_last (v : UInt32) : u32 ⟨Writer.u32 v, false⟩ = (v, ⟨[], false⟩) := by
  have hread := u32_writer [] v
  rwa [List.append_nil] at hread

theorem u64_writer_last (v : UInt64) : u64 ⟨Writer.u64 v, false⟩ = (v, ⟨[], false⟩) := by
  have hread := u64_writer [] v
  rwa [List.append_nil] at hread

theorem bytes_writer_last {data : List UInt8} {maxSize : ℕ} (h : data.length < 2 ^ 32)
    (hmax : data.length ≤ maxSize) : bytes maxSize ⟨Writer.bytes data, false⟩ = (some data, ⟨[], false⟩) := by
  have hread := bytes_writer [] h hmax
  rwa [List.append_nil] at hread

end

/-! ### What a reader does to any bytes -/

section

variable (r : Reader)

theorem read_failed_iff (n : ℕ) : (r.read n).2.failed = true ↔ r.failed = true ∨ ¬ n ≤ r.rest.length := by
  unfold read
  split_ifs with h
  · rw [Nat.not_le]
    exact iff_of_true rfl h
  · rw [Nat.not_le]
    exact iff_of_false (fun hfailed => h (.inl hfailed)) h

theorem bytes_failed_iff (maxSize : ℕ) : (r.bytes maxSize).2.failed = true ↔ r.failed = true ∨
    ¬ (4 ≤ r.rest.length ∧ ofLE (r.rest.take 4) ≤ maxSize ∧ 4 + ofLE (r.rest.take 4) ≤ r.rest.length) := by
  unfold bytes u32
  dsimp only
  by_cases h : r.failed = true ∨ r.rest.length < 4
  · have hread : r.read 4 = (0, { r with failed := true }) := if_pos h
    rw [hread, if_pos (.inl rfl)]
    exact iff_of_true rfl (h.imp_right fun hshort hfits => Nat.not_le.2 hshort hfits.1)
  · have hread : r.read 4 = (ofLE (r.rest.take 4), { r with rest := r.rest.drop 4 }) := if_neg h
    have hsize : (UInt32.ofNat (ofLE (r.rest.take 4))).toNat = ofLE (r.rest.take 4) :=
      UInt32.toNat_ofNat_of_lt' (ofLE_take_lt 4 r.rest)
    push Not at h
    rw [hread]
    dsimp only
    rw [hsize, List.length_drop]
    split_ifs with hfail
    · refine iff_of_true rfl (.inr fun hfits => ?_)
      rcases hfail with hfailed | hbound | hshort
      · exact h.1 hfailed
      · omega
      · omega
    · push Not at hfail
      refine iff_of_false h.1 ?_
      rintro (hfailed | hfits)
      · exact h.1 hfailed
      · exact hfits ⟨h.2, by omega, by omega⟩

theorem failed_of_bytes_none {maxSize : ℕ} {r : Reader} (h : (r.bytes maxSize).1 = none) :
    (r.bytes maxSize).2.failed = true := by
  unfold bytes at h ⊢
  dsimp only at h ⊢
  split_ifs at h ⊢
  rfl

theorem remaining_le : r.remaining ≤ r.rest.length := by
  unfold remaining
  split <;> simp

end
end Reader
end VkRemote.Wire
