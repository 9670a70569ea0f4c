import Mathlib.Algebra.Order.Group.Int
import Mathlib.Data.Int.Order.Basic
import VulkanRemote.Lib.Digest
import VulkanRemote.Lib.LittleEndian

/-! The trace container: a header, the metadata, the records and a trailer with the count and a digest of
all before it. `write_trace` bounds every part as it goes; `writeTrace_isOk_iff` says what passes. Limits are
naturals: the command line takes no negative ones. -/

namespace VkRemote.Tools

open Lib

/-- A `TraceError`, or an exception of Python's own. -/
inductive Error
  | trace (message : String)
  | builtin (message : String)
  deriving DecidableEq

def magic : List UInt8 := "VRTRACE".toUTF8.toList ++ [0]

def version : ℤ := 2

def recordTag : List UInt8 := "RECD".toUTF8.toList

def trailerTag : List UInt8 := "DONE".toUTF8.toList

-- The bytes of a string are read off by an irreducible function, which `decide` has to be told to unfold.
theorem length_magic : magic.length = 8 := by with_unfolding_all decide

theorem length_recordTag : recordTag.length = 4 := by with_unfolding_all decide

theorem length_trailerTag : trailerTag.length = 4 := by with_unfolding_all decide

def clientToServer : ℤ := 0

def serverToClient : ℤ := 1

/-- `FILE_HEADER.size`, `RECORD_HEADER.size` and `TRAILER.size`. -/
def fileHeaderSize : ℕ := 16

def recordHeaderSize : ℕ := 36

def trailerSize : ℕ := 44

structure Limits where
  maxMetadata : ℕ := 64 * 1024
  maxPayload : ℕ := 64 * 1024 * 1024
  maxRecords : ℕ := 1000000
  maxTraceBytes : ℕ := 1024 * 1024 * 1024
  deriving DecidableEq

structure Record where
  sequence : ℤ
  direction : ℤ
  opcode : ℤ
  payload : List UInt8
  requestId : ℤ := 0
  deriving DecidableEq

/-- One unsigned field of `struct.pack`, which refuses what does not fit. -/
def pack (w : ℕ) (n : ℤ) : Except Error (List UInt8) :=
  if 0 ≤ n ∧ n < 256 ^ w then .ok (toLE w n.toNat) else .error (.builtin "argument out of range")

def fileHeader (metadata : List UInt8) : Except Error (List UInt8) :=
  (pack 4 version).bind fun v => (pack 4 metadata.length).bind fun n => .ok (magic ++ v ++ n)

def recordHeader (count : ℕ) (r : Record) : Except Error (List UInt8) :=
  (pack 8 count).bind fun c => (pack 1 r.direction).bind fun d => (pack 4 r.opcode).bind fun o =>
    (pack 4 r.payload.length).bind fun n => (pack 8 r.requestId).bind fun i =>
      (pack 4 (crc32 r.payload).toNat).bind fun crc =>
        .ok (recordTag ++ c ++ d ++ [0, 0, 0] ++ o ++ n ++ i ++ crc)

def trailer (count : ℕ) (written : List UInt8) : Except Error (List UInt8) :=
  (pack 8 count).bind fun c => .ok (trailerTag ++ c ++ sha256 written)

def checkedLimits (limits : Limits) : Except Error Unit :=
  if limits.maxTraceBytes < fileHeaderSize + trailerSize then
    .error (.trace "maximum trace size is too small for an empty trace")
  else .ok ()

section

variable (limits : Limits)

/-- `emit`: room for the trailer is kept at every step. -/
def emit (written data : List UInt8) : Except Error (List UInt8) :=
  if limits.maxTraceBytes < (written ++ data).length + trailerSize then
    .error (.trace s!"trace exceeds {limits.maxTraceBytes} bytes")
  else .ok (written ++ data)

def writeRecord (count : ℕ) (r : Record) (written : List UInt8) : Except Error (List UInt8) :=
  if limits.maxRecords ≤ count then .error (.trace s!"trace exceeds {limits.maxRecords} records")
  else if r.sequence ≠ count then
    .error (.trace s!"record sequence {r.sequence} is not expected {count}")
  else if r.direction ≠ clientToServer ∧ r.direction ≠ serverToClient then
    .error (.trace s!"record {count} has invalid direction {r.direction}")
  else if ¬(0 ≤ r.opcode ∧ r.opcode ≤ 0xffffffff) then
    .error (.trace s!"record {count} has invalid opcode {r.opcode}")
  else if limits.maxPayload < r.payload.length then
    .error (.trace s!"record {count} payload exceeds {limits.maxPayload} bytes")
  else
    (recordHeader count r).bind fun h =>
      (emit limits written h).bind fun written => emit limits written r.payload

def writeRecords : ℕ → List Record → List UInt8 → Except Error (List UInt8)
  | _, [], written => .ok written
  | count, r :: rs, written =>
    (writeRecord limits count r written).bind fun written => writeRecords (count + 1) rs written

/-- What `write_trace` writes to the temporary file. -/
def writeFile (metadata : List UInt8) (records : List Record) : Except Error (List UInt8) :=
  (fileHeader metadata).bind fun h =>
    (emit limits [] h).bind fun written =>
      (emit limits written metadata).bind fun written =>
        (writeRecords limits 0 records written).bind fun written =>
          (trailer records.length written).bind fun t =>
            if limits.maxTraceBytes < (written ++ t).length then
              .error (.trace s!"trace exceeds {limits.maxTraceBytes} bytes")
            else .ok (written ++ t)

/-- The bytes `write_trace` puts at its path. `metadata` is the canonical JSON; `occupied` says that the path
exists and may not be replaced. -/
def writeTrace (occupied : Bool) (metadata : List UInt8) (records : List Record) :
    Except Error (List UInt8) :=
  (checkedLimits limits).bind fun _ =>
    if limits.maxMetadata < metadata.length then
      .error (.trace s!"metadata exceeds {limits.maxMetadata} bytes")
    else if occupied then .error (.trace "trace already exists")
    else writeFile limits metadata records

end

/-! ### What passes -/

theorem Except.bind_eq_ok_iff {ε α β : Type*} {x : Except ε α} {f : α → Except ε β} {b : β} :
    x.bind f = .ok b ↔ ∃ a, x = .ok a ∧ f a = .ok b := by
  cases x with
  | error e => simp [Except.bind]
  | ok a => simp [Except.bind]

theorem pack_eq_ok_iff {w : ℕ} {n : ℤ} {bytes : List UInt8} :
    pack w n = .ok bytes ↔ (0 ≤ n ∧ n < 256 ^ w) ∧ toLE w n.toNat = bytes := by
  unfold pack
  split
  · next h => simp [h]
  · next h => simp [h]

theorem fileHeader_eq_ok_iff {metadata h : List UInt8} :
    fileHeader metadata = .ok h ↔
      metadata.length < 2 ^ 32 ∧ magic ++ toLE 4 2 ++ toLE 4 metadata.length = h := by
  simp only [fileHeader, Except.bind_eq_ok_iff, pack_eq_ok_iff, version]
  constructor
  · rintro ⟨v, ⟨-, rfl⟩, n, ⟨hn, rfl⟩, hh⟩
    exact ⟨by omega, by simpa using hh⟩
  · rintro ⟨hn, hh⟩
    exact ⟨_, ⟨by omega, rfl⟩, _, ⟨by omega, rfl⟩, by simpa using hh⟩

/-- The fields of a record are in the range of their place in the header. -/
structure Packable (count : ℕ) (r : Record) : Prop where
  count_lt : count < 2 ^ 64
  direction : 0 ≤ r.direction ∧ r.direction < 2 ^ 8
  opcode : 0 ≤ r.opcode ∧ r.opcode < 2 ^ 32
  payload : r.payload.length < 2 ^ 32
  requestId : 0 ≤ r.requestId ∧ r.requestId < 2 ^ 64

def recordHeaderBytes (count : ℕ) (r : Record) : List UInt8 :=
  recordTag ++ toLE 8 count ++ toLE 1 r.direction.toNat ++ [0, 0, 0] ++ toLE 4 r.opcode.toNat ++
    toLE 4 r.payload.length ++ toLE 8 r.requestId.toNat ++ toLE 4 (crc32 r.payload).toNat

variable {limits : Limits} {count : ℕ} {r : Record} {rs : List Record}
variable {written out data metadata : List UInt8}

theorem recordHeader_eq_ok_iff {h : List UInt8} : recordHeader count r = .ok h ↔
    Packable count r ∧ recordHeaderBytes count r = h := by
  have hcrc := (crc32 r.payload).toNat_lt
  simp only [recordHeader, Except.bind_eq_ok_iff, pack_eq_ok_iff, Except.ok.injEq]
  constructor
  · rintro ⟨c, ⟨hc, rfl⟩, d, ⟨hd, rfl⟩, o, ⟨ho, rfl⟩, n, ⟨hn, rfl⟩, i, ⟨hi, rfl⟩, crc, ⟨-, rfl⟩, hh⟩
    exact ⟨⟨by omega, by omega, by omega, by omega, by omega⟩, by simpa [recordHeaderBytes] using hh⟩
  · rintro ⟨hp, hh⟩
    exact ⟨_, ⟨by have := hp.count_lt; omega, rfl⟩, _, ⟨by have := hp.direction; omega, rfl⟩,
      _, ⟨by have := hp.opcode; omega, rfl⟩, _, ⟨by have := hp.payload; omega, rfl⟩,
      _, ⟨by have := hp.requestId; omega, rfl⟩, _, ⟨by omega, rfl⟩, by simpa [recordHeaderBytes] using hh⟩

@[simp] theorem length_recordHeaderBytes : (recordHeaderBytes count r).length = recordHeaderSize := by
  simp [recordHeaderBytes, length_recordTag, recordHeaderSize]

theorem emit_eq_ok_iff : emit limits written data = .ok out ↔
    written.length + data.length + trailerSize ≤ limits.maxTraceBytes ∧ written ++ data = out := by
  unfold emit
  rw [List.length_append]
  split
  · next h => simp [Nat.not_le.2 h]
  · next h => simp [Nat.not_lt.1 h]

/-- A record `write_trace` takes at place `count`, room for its bytes aside. -/
structure Acceptable (limits : Limits) (count : ℕ) (r : Record) : Prop extends Packable count r where
  within : count < limits.maxRecords
  sequence : r.sequence = count
  either : r.direction = clientToServer ∨ r.direction = serverToClient
  bounded : r.payload.length ≤ limits.maxPayload

def recordBytes (count : ℕ) (r : Record) : List UInt8 :=
  recordHeaderBytes count r ++ r.payload

theorem writeRecord_eq_ok_iff : writeRecord limits count r written = .ok out ↔
    Acceptable limits count r ∧
      written.length + recordHeaderSize + r.payload.length + trailerSize ≤ limits.maxTraceBytes ∧
      written ++ recordBytes count r = out := by
  have hguards : writeRecord limits count r written = .ok out ↔
      count < limits.maxRecords ∧ r.sequence = count ∧
        (r.direction = clientToServer ∨ r.direction = serverToClient) ∧
        (0 ≤ r.opcode ∧ r.opcode ≤ 0xffffffff) ∧ r.payload.length ≤ limits.maxPayload ∧
        ((recordHeader count r).bind fun h =>
          (emit limits written h).bind fun written => emit limits written r.payload) = .ok out := by
    unfold writeRecord
    split_ifs with h₁ h₂ h₃ h₄ h₅
    · simp [Nat.not_lt.2 h₁]
    · simp [h₂]
    · simp [h₃]
    · simp [Nat.not_le.2 h₅]
    · have hdir : r.direction = clientToServer ∨ r.direction = serverToClient := by
        by_contra hne
        exact h₃ (not_or.1 hne)
      exact ⟨fun h => ⟨Nat.not_le.1 h₁, not_not.1 h₂, hdir, h₄, Nat.not_lt.1 h₅, h⟩, fun h => h.2.2.2.2.2⟩
    · simp [h₄]
  rw [hguards]
  simp only [Except.bind_eq_ok_iff, recordHeader_eq_ok_iff, emit_eq_ok_iff]
  constructor
  · rintro ⟨hin, hseq, hdir, -, hpay, h, ⟨hp, rfl⟩, w, ⟨-, rfl⟩, hroom, hout⟩
    rw [List.length_append, length_recordHeaderBytes] at hroom
    exact ⟨⟨hp, hin, hseq, hdir, hpay⟩, hroom, by rw [recordBytes, ← List.append_assoc, hout]⟩
  · rintro ⟨ha, hroom, hout⟩
    refine ⟨ha.within, ha.sequence, ha.either, ?_, ha.bounded, _, ⟨ha.toPackable, rfl⟩, _, ⟨?_, rfl⟩, ?_, ?_⟩
    · have := ha.opcode
      omega
    · rw [length_recordHeaderBytes]
      omega
    · rw [List.length_append, length_recordHeaderBytes]
      exact hroom
    · rw [List.append_assoc, ← recordBytes, hout]

def recordsBytes : ℕ → List Record → List UInt8
  | _, [] => []
  | count, r :: rs => recordBytes count r ++ recordsBytes (count + 1) rs

/-- What the records of a trace take in its file. -/
def recordsSize : List Record → ℕ
  | [] => 0
  | r :: rs => recordHeaderSize + r.payload.length + recordsSize rs

theorem length_recordsBytes : (recordsBytes count rs).length = recordsSize rs := by
  induction rs generalizing count with
  | nil => rfl
  | cons r rs ih =>
    rw [recordsBytes, List.length_append, recordBytes, List.length_append, length_recordHeaderBytes, ih,
      recordsSize]

def AllAcceptable (limits : Limits) : ℕ → List Record → Prop
  | _, [] => True
  | count, r :: rs => Acceptable limits count r ∧ AllAcceptable limits (count + 1) rs

/-- The bound each step keeps is the one the last step needs. -/
theorem writeRecords_eq_ok_iff (hroom : written.length + trailerSize ≤ limits.maxTraceBytes) :
    writeRecords limits count rs written = .ok out ↔
      AllAcceptable limits count rs ∧
        written.length + recordsSize rs + trailerSize ≤ limits.maxTraceBytes ∧
        written ++ recordsBytes count rs = out := by
  induction rs generalizing count written with
  | nil => simp [writeRecords, AllAcceptable, recordsSize, recordsBytes, hroom]
  | cons r rs ih =>
    have hlen : (written ++ recordBytes count r).length =
        written.length + recordHeaderSize + r.payload.length := by
      rw [List.length_append, recordBytes, List.length_append, length_recordHeaderBytes, Nat.add_assoc]
    simp only [writeRecords, Except.bind_eq_ok_iff, writeRecord_eq_ok_iff, AllAcceptable, recordsSize,
      recordsBytes]
    constructor
    · rintro ⟨w, ⟨ha, hr, rfl⟩, hrest⟩
      rw [ih (by rw [hlen]; exact hr), hlen] at hrest
      exact ⟨⟨ha, hrest.1⟩, by omega, by rw [← List.append_assoc, hrest.2.2]⟩
    · rintro ⟨⟨ha, has⟩, hr, hout⟩
      refine ⟨_, ⟨ha, by omega, rfl⟩, ?_⟩
      rw [ih (by rw [hlen]; omega), hlen]
      exact ⟨has, by omega, by rw [List.append_assoc, hout]⟩

def traceSize (metadata : List UInt8) (rs : List Record) : ℕ :=
  fileHeaderSize + metadata.length + recordsSize rs + trailerSize

theorem trailer_isOk_iff : (∃ t, trailer count written = .ok t) ↔ count < 2 ^ 64 := by
  simp only [trailer, Except.bind_eq_ok_iff, pack_eq_ok_iff]
  constructor
  · rintro ⟨t, c, ⟨hc, -⟩, -⟩
    omega
  · intro h
    exact ⟨_, _, ⟨by omega, rfl⟩, rfl⟩

theorem length_trailer {t : List UInt8} (h : trailer count written = .ok t) :
    t.length = trailerSize := by
  simp only [trailer, Except.bind_eq_ok_iff, pack_eq_ok_iff, Except.ok.injEq] at h
  obtain ⟨c, ⟨-, rfl⟩, rfl⟩ := h
  simp [length_trailerTag, length_sha256, trailerSize]

theorem writeFile_isOk_iff : (∃ file, writeFile limits metadata rs = .ok file) ↔
    metadata.length < 2 ^ 32 ∧ rs.length < 2 ^ 64 ∧ AllAcceptable limits 0 rs ∧
      traceSize metadata rs ≤ limits.maxTraceBytes := by
  have hfixed (n : ℕ) : (magic ++ toLE 4 2 ++ toLE 4 n).length = fileHeaderSize := by
    simp [length_magic, fileHeaderSize]
  simp only [writeFile, Except.bind_eq_ok_iff, fileHeader_eq_ok_iff, emit_eq_ok_iff, List.nil_append]
  constructor
  · rintro ⟨file, h, ⟨hwide, rfl⟩, w, ⟨-, rfl⟩, w, ⟨hroom, rfl⟩, w, hrecords, t, ht, -⟩
    rw [hfixed] at hroom
    rw [writeRecords_eq_ok_iff (by rw [List.length_append, hfixed]; exact hroom), List.length_append,
      hfixed] at hrecords
    exact ⟨hwide, trailer_isOk_iff.1 ⟨t, ht⟩, hrecords.1, hrecords.2.1⟩
  · rintro ⟨hwide, hcount, hall, hsize⟩
    unfold traceSize at hsize
    obtain ⟨t, ht⟩ : ∃ t, trailer rs.length (magic ++ toLE 4 2 ++ toLE 4 metadata.length ++
        metadata ++ recordsBytes 0 rs) = .ok t := trailer_isOk_iff.2 hcount
    refine ⟨_, _, ⟨hwide, rfl⟩, _, ⟨?_, rfl⟩, _, ⟨?_, rfl⟩, _, ?_, t, ht, if_neg ?_⟩
    · rw [hfixed, List.length_nil]
      omega
    · rw [hfixed]
      omega
    · rw [writeRecords_eq_ok_iff (by rw [List.length_append, hfixed]; omega), List.length_append, hfixed]
      exact ⟨hall, hsize, rfl⟩
    · rw [List.length_append, length_trailer ht, List.length_append, List.length_append, hfixed,
        length_recordsBytes]
      omega

/-- `write_trace` accepts what fits its fields and its limits. -/
theorem writeTrace_isOk_iff : (∃ file, writeTrace limits false metadata rs = .ok file) ↔
    metadata.length ≤ limits.maxMetadata ∧ metadata.length < 2 ^ 32 ∧ rs.length < 2 ^ 64 ∧
      AllAcceptable limits 0 rs ∧ traceSize metadata rs ≤ limits.maxTraceBytes := by
  have hroom (h : traceSize metadata rs ≤ limits.maxTraceBytes) :
      fileHeaderSize + trailerSize ≤ limits.maxTraceBytes := by
    unfold traceSize at h
    omega
  rw [← writeFile_isOk_iff]
  simp only [writeTrace, checkedLimits, Except.bind_eq_ok_iff]
  constructor
  · rintro ⟨file, _, hlimits, hfile⟩
    by_cases hmeta : limits.maxMetadata < metadata.length
    · rw [if_pos hmeta] at hfile
      cases hfile
    · rw [if_neg hmeta] at hfile
      exact ⟨Nat.not_lt.1 hmeta, file, hfile⟩
  · rintro ⟨hmeta, file, hfile⟩
    have hsize := hroom (writeFile_isOk_iff.1 ⟨file, hfile⟩).2.2.2
    refine ⟨file, (), if_neg (Nat.not_lt.2 hsize), ?_⟩
    rw [if_neg (Nat.not_lt.2 hmeta)]
    exact hfile

end VkRemote.Tools
