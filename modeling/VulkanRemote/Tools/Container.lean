import VulkanRemote.Lib.Json
import VulkanRemote.Tools.Trace

/-! `read_trace`, and `write_trace` with the metadata it is given. What one writes the other reads; a file that
is read is the one that would be written; and no part of such a file is a trace. -/

namespace VkRemote.Tools

open Lib

/-- The keys of `PROTOCOL_METADATA`. -/
def protocolMetadata : List String := ["wire_schema", "registry_sha256", "wire_abi", "command_digest"]

def isText {F : Type} : Option (Json F) → Bool
  | some (.string s) => s ≠ []
  | _ => false

/-- `[0-9a-f]{n}`. -/
def isHex {F : Type} (n : ℕ) : Option (Json F) → Bool
  | some (.string s) => s.length = n && s.all fun c => isDigit c || ('a'.toNat ≤ c && c ≤ 'f'.toNat)
  | _ => false

/-- The checks on the values of the keys. -/
def validateKeys {F : Type} (get : String → Option (Json F)) : Except Error Unit :=
  let missing := protocolMetadata.filter fun key => (get key).isNone
  if missing ≠ [] then
    .error (.trace ("metadata missing required keys: " ++ ", ".intercalate missing))
  else
    match protocolMetadata.find? fun key => !isText (get key) with
    | some key => .error (.trace s!"metadata {key} must be a non-empty string")
    | none =>
      if isHex 64 (get "registry_sha256") = false then
        .error (.trace "metadata registry_sha256 must be 64 lowercase hex characters")
      else if isHex 16 (get "command_digest") = false then
        .error (.trace "metadata command_digest must be 16 lowercase hex characters")
      else .ok ()

def validateMetadata {F : Type} : Json F → Except Error Unit
  | .dict items => validateKeys fun key => items.lookup (lit key)
  | _ => .error (.trace "metadata must be a JSON object")

def canonicalMetadata {F : Type} [PyFloat F] (metadata : Json F) : Except Error (List UInt8) :=
  (validateMetadata metadata).bind fun _ =>
    match metadata.dumps with
    | .error _ => .error (.trace "metadata is not canonical JSON")
    | .ok text =>
      match utf8Encode text with
      | none => .error (.trace "metadata is not canonical JSON")
      | some bytes => .ok bytes

/-- A `ValueError` for an integer that is too long is not caught. -/
def loadMetadata {F : Type} [PyFloat F] (bytes : List UInt8) : Except Error (Json F) :=
  match utf8Decode bytes with
  | none => .error (.trace "invalid metadata JSON")
  | some text =>
    match Json.loads text with
    | .error .decode => .error (.trace "invalid metadata JSON")
    | .error .value => .error (.builtin "integer string conversion")
    | .ok metadata => .ok metadata

/-- `write_trace` from the metadata on. -/
def writeTraceOf {F : Type} [PyFloat F] (limits : Limits) (occupied : Bool) (metadata : Json F)
    (records : List Record) : Except Error (List UInt8) :=
  (checkedLimits limits).bind fun _ =>
    (canonicalMetadata metadata).bind fun bytes => writeTrace limits occupied bytes records

/-- `_read_exact`: the bytes, and what is left of the file. -/
def readExact (size : ℕ) (what : String) (file : List UInt8) : Except Error (List UInt8 × List UInt8) :=
  if file.length < size then
    .error (.trace s!"truncated {what}: expected {size} bytes, got {file.length}")
  else .ok (file.take size, file.drop size)

/-- The fields of `RECORD_HEADER` behind the tag. -/
structure RecordHeader where
  sequence : ℕ
  direction : ℕ
  reserved : ℕ
  opcode : ℕ
  payloadSize : ℕ
  requestId : ℕ
  crc : ℕ

/-- An integer of `w` bytes at an offset. -/
def field (bytes : List UInt8) (offset w : ℕ) : ℕ := ofLE ((bytes.drop offset).take w)

def RecordHeader.unpack (bytes : List UInt8) : RecordHeader where
  sequence := field bytes 0 8
  direction := field bytes 8 1
  reserved := field bytes 9 3
  opcode := field bytes 12 4
  payloadSize := field bytes 16 4
  requestId := field bytes 20 8
  crc := field bytes 28 4

def RecordHeader.bytes (h : RecordHeader) : List UInt8 :=
  toLE 8 h.sequence ++ (toLE 1 h.direction ++ (toLE 3 h.reserved ++ (toLE 4 h.opcode ++
    (toLE 4 h.payloadSize ++ (toLE 8 h.requestId ++ toLE 4 h.crc)))))

def RecordHeader.record (h : RecordHeader) (payload : List UInt8) : Record where
  sequence := h.sequence
  direction := h.direction
  opcode := h.opcode
  payload := payload
  requestId := h.requestId

/-- A record behind its tag: what it is, its bytes, and what is left. -/
def readRecord (limits : Limits) (expected : ℕ) (file : List UInt8) :
    Except Error (Record × List UInt8 × List UInt8) :=
  (readExact (recordHeaderSize - 4) s!"record {expected} header" file).bind fun header =>
    let h := RecordHeader.unpack header.1
    if h.reserved ≠ 0 then .error (.trace s!"record {expected} has non-zero reserved bytes")
    else if h.sequence ≠ expected then
      .error (.trace s!"record sequence {h.sequence} is not expected {expected}")
    else if (h.direction : ℤ) ≠ clientToServer ∧ (h.direction : ℤ) ≠ serverToClient then
      .error (.trace s!"record {h.sequence} has invalid direction {h.direction}")
    else if limits.maxPayload < h.payloadSize then
      .error (.trace s!"record {h.sequence} payload exceeds {limits.maxPayload} bytes")
    else
      (readExact h.payloadSize s!"record {h.sequence} payload" header.2).bind fun payload =>
        if (crc32 payload.1).toNat ≠ h.crc then .error (.trace s!"record {h.sequence} CRC mismatch")
        else .ok (h.record payload.1, header.1 ++ payload.1, payload.2)

/-- The trailer behind its tag. -/
def readTrailer (expected : ℕ) (seen file : List UInt8) : Except Error Unit :=
  (readExact (trailerSize - 4) "trailer" file).bind fun p =>
    if field p.1 0 8 ≠ expected then
      .error (.trace s!"trailer count {field p.1 0 8} does not match {expected} records")
    else if p.1.drop 8 ≠ sha256 seen then .error (.trace "trace SHA-256 mismatch")
    else if p.2 ≠ [] then .error (.trace "trailing data after trace trailer")
    else .ok ()

/-- The loop over the chunks; `seen` is what the digest has seen. Every turn takes bytes, so the fuel does not
run out before the file does. -/
def readChunks (limits : Limits) : ℕ → ℕ → List UInt8 → List UInt8 → Except Error (List Record)
  | 0, _, _, _ => .error (.trace "truncated record or trailer tag")
  | n + 1, expected, seen, file =>
    (readExact 4 "record or trailer tag" file).bind fun tag =>
      if tag.1 = trailerTag then (readTrailer expected seen tag.2).map fun _ => []
      else if tag.1 ≠ recordTag then .error (.trace "unknown chunk tag")
      else if limits.maxRecords ≤ expected then .error (.trace s!"trace exceeds {limits.maxRecords} records")
      else
        (readRecord limits expected tag.2).bind fun r =>
          (readChunks limits n (expected + 1) (seen ++ (tag.1 ++ r.2.1)) r.2.2).map (r.1 :: ·)

/-- `read_trace` of a file whose size is in bounds. -/
def readFile {F : Type} [PyFloat F] (limits : Limits) (file : List UInt8) : Except Error (Json F × List Record) :=
  (readExact fileHeaderSize "file header" file).bind fun header =>
    if header.1.take 8 ≠ magic then .error (.trace "bad trace magic")
    else if (field header.1 8 4 : ℤ) ≠ version then
      .error (.trace s!"unsupported trace version {field header.1 8 4}")
    else if limits.maxMetadata < field header.1 12 4 then
      .error (.trace s!"metadata exceeds {limits.maxMetadata} bytes")
    else
      (readExact (field header.1 12 4) "metadata" header.2).bind fun bytes =>
        (loadMetadata bytes.1).bind fun metadata =>
          (canonicalMetadata metadata).bind fun canonical =>
            if canonical ≠ bytes.1 then .error (.trace "metadata JSON is not in canonical form")
            else
              (readChunks limits (bytes.2.length + 1) 0 (header.1 ++ bytes.1) bytes.2).map fun records =>
                (metadata, records)

def readTrace {F : Type} [PyFloat F] (limits : Limits) (file : List UInt8) : Except Error (Json F × List Record) :=
  (checkedLimits limits).bind fun _ =>
    if limits.maxTraceBytes < file.length then
      .error (.trace s!"trace is {file.length} bytes; limit is {limits.maxTraceBytes}")
    else if file.length < fileHeaderSize + trailerSize then .error (.trace "trace is too short")
    else readFile limits file

variable {size expected n : ℕ} {what : String} {seen file more bytes : List UInt8} {limits : Limits}

theorem readExact_eq_ok_iff {p : List UInt8 × List UInt8} :
    readExact size what file = .ok p ↔ p.1.length = size ∧ p.1 ++ p.2 = file := by
  unfold readExact
  split
  · next h =>
    constructor
    · intro hp
      cases hp
    · rintro ⟨hlength, rfl⟩
      rw [List.length_append] at h
      omega
  · next h =>
    constructor
    · intro hp
      obtain rfl := Except.ok.inj hp
      exact ⟨List.length_take_of_le (Nat.not_lt.1 h), List.take_append_drop _ _⟩
    · rintro ⟨rfl, rfl⟩
      rw [List.take_left, List.drop_left]

/-- A field is the slice that was cut out, written again. -/
theorem toLE_field (bytes : List UInt8) (offset w : ℕ) (h : offset + w ≤ bytes.length) :
    toLE w (field bytes offset w) ++ bytes.drop (offset + w) = bytes.drop offset := by
  have hlength : ((bytes.drop offset).take w).length = w := by
    rw [List.length_take, List.length_drop]
    omega
  have hbytes := toLE_ofLE ((bytes.drop offset).take w)
  rw [hlength] at hbytes
  rw [field, hbytes, ← List.drop_drop, List.take_append_drop]

theorem field_lt (bytes : List UInt8) (offset w : ℕ) : field bytes offset w < 256 ^ w :=
  Nat.lt_of_lt_of_le (ofLE_lt _) (Nat.pow_le_pow_right (by decide) (List.length_take_le _ _))

/-- Every field is in the range of its place. -/
structure RecordHeader.Fits (h : RecordHeader) : Prop where
  sequence : h.sequence < 256 ^ 8
  direction : h.direction < 256 ^ 1
  reserved : h.reserved < 256 ^ 3
  opcode : h.opcode < 256 ^ 4
  payloadSize : h.payloadSize < 256 ^ 4
  requestId : h.requestId < 256 ^ 8
  crc : h.crc < 256 ^ 4

namespace RecordHeader

theorem fits_unpack (bytes : List UInt8) : (unpack bytes).Fits where
  sequence := field_lt _ _ _
  direction := field_lt _ _ _
  reserved := field_lt _ _ _
  opcode := field_lt _ _ _
  payloadSize := field_lt _ _ _
  requestId := field_lt _ _ _
  crc := field_lt _ _ _

@[simp] theorem length_bytes (h : RecordHeader) : h.bytes.length = 32 := by
  simp [RecordHeader.bytes]

theorem bytes_unpack (h : bytes.length = 32) : (unpack bytes).bytes = bytes := by
  have hend : bytes.drop 32 = [] := List.drop_eq_nil_of_le h.le
  have hcrc := toLE_field bytes 28 4 (by omega)
  rw [hend, List.append_nil] at hcrc
  simp only [RecordHeader.bytes, unpack, hcrc]
  rw [toLE_field bytes 20 8 (by omega), toLE_field bytes 16 4 (by omega), toLE_field bytes 12 4 (by omega),
    toLE_field bytes 9 3 (by omega), toLE_field bytes 8 1 (by omega), toLE_field bytes 0 8 (by omega),
    List.drop_zero]

theorem toLE_inj {w a b : ℕ} (ha : a < 256 ^ w) (hb : b < 256 ^ w) (h : toLE w a = toLE w b) : a = b := by
  rw [← ofLE_toLE ha, h, ofLE_toLE hb]

theorem bytes_inj {g h : RecordHeader} (hg : g.Fits) (hh : h.Fits) (heq : g.bytes = h.bytes) : g = h := by
  simp only [RecordHeader.bytes] at heq
  obtain ⟨h₁, heq⟩ := List.append_inj heq (by simp)
  obtain ⟨h₂, heq⟩ := List.append_inj heq (by simp)
  obtain ⟨h₃, heq⟩ := List.append_inj heq (by simp)
  obtain ⟨h₄, heq⟩ := List.append_inj heq (by simp)
  obtain ⟨h₅, heq⟩ := List.append_inj heq (by simp)
  obtain ⟨h₆, h₇⟩ := List.append_inj heq (by simp)
  cases g
  cases h
  simp only [mk.injEq]
  exact ⟨toLE_inj hg.sequence hh.sequence h₁, toLE_inj hg.direction hh.direction h₂,
    toLE_inj hg.reserved hh.reserved h₃, toLE_inj hg.opcode hh.opcode h₄,
    toLE_inj hg.payloadSize hh.payloadSize h₅, toLE_inj hg.requestId hh.requestId h₆,
    toLE_inj hg.crc hh.crc h₇⟩

theorem unpack_bytes {h : RecordHeader} (hh : h.Fits) : unpack h.bytes = h :=
  bytes_inj (fits_unpack _) hh (bytes_unpack h.length_bytes)

/-- The header of a record. -/
def ofRecord (count : ℕ) (r : Record) : RecordHeader where
  sequence := count
  direction := r.direction.toNat
  reserved := 0
  opcode := r.opcode.toNat
  payloadSize := r.payload.length
  requestId := r.requestId.toNat
  crc := (crc32 r.payload).toNat

theorem recordHeaderBytes_eq (count : ℕ) (r : Record) :
    recordHeaderBytes count r = recordTag ++ (ofRecord count r).bytes := by
  simp [recordHeaderBytes, RecordHeader.bytes, ofRecord, toLE]

theorem fits_ofRecord {count : ℕ} {r : Record} (h : Packable count r) : (ofRecord count r).Fits where
  sequence := h.count_lt
  direction := by
    have := h.direction
    simp only [ofRecord]
    omega
  reserved := Nat.pow_pos (by decide)
  opcode := by
    have := h.opcode
    simp only [ofRecord]
    omega
  payloadSize := h.payload
  requestId := by
    have := h.requestId
    simp only [ofRecord]
    omega
  crc := (crc32 r.payload).toNat_lt

end RecordHeader

/-- What `write_trace` checks of a record, except that there is room for it. -/
def Sound (limits : Limits) (expected : ℕ) (r : Record) : Prop :=
  Packable expected r ∧ r.sequence = expected ∧
    (r.direction = clientToServer ∨ r.direction = serverToClient) ∧ r.payload.length ≤ limits.maxPayload

theorem acceptable_iff {r : Record} :
    Acceptable limits expected r ↔ expected < limits.maxRecords ∧ Sound limits expected r :=
  ⟨fun h => ⟨h.within, h.toPackable, h.sequence, h.either, h.bounded⟩,
    fun ⟨hw, hp, hs, he, hb⟩ => { hp with within := hw, sequence := hs, either := he, bounded := hb }⟩

/-- A record behind its tag is read as what was written. -/
theorem readRecord_of_sound {r : Record} (h : Sound limits expected r) (rest : List UInt8) :
    readRecord limits expected ((RecordHeader.ofRecord expected r).bytes ++ (r.payload ++ rest)) =
      .ok (r, (RecordHeader.ofRecord expected r).bytes ++ r.payload, rest) := by
  obtain ⟨hp, hseq, heither, hbound⟩ := h
  have hheader (what : String) : readExact (recordHeaderSize - 4) what
      ((RecordHeader.ofRecord expected r).bytes ++ (r.payload ++ rest)) =
        .ok ((RecordHeader.ofRecord expected r).bytes, r.payload ++ rest) :=
    readExact_eq_ok_iff.2 ⟨RecordHeader.length_bytes _, rfl⟩
  have hpayload (what : String) : readExact r.payload.length what (r.payload ++ rest) = .ok (r.payload, rest) :=
    readExact_eq_ok_iff.2 ⟨rfl, rfl⟩
  have hdirection : ((r.direction.toNat : ℕ) : ℤ) = r.direction := Int.toNat_of_nonneg hp.direction.1
  have hopcode : ((r.opcode.toNat : ℕ) : ℤ) = r.opcode := Int.toNat_of_nonneg hp.opcode.1
  have hid : ((r.requestId.toNat : ℕ) : ℤ) = r.requestId := Int.toNat_of_nonneg hp.requestId.1
  have hrecord : (RecordHeader.ofRecord expected r).record r.payload = r := by
    cases r
    simp only [RecordHeader.record, RecordHeader.ofRecord, Record.mk.injEq]
    exact ⟨hseq.symm, hdirection, hopcode, trivial, hid⟩
  unfold readRecord
  rw [hheader]
  simp only [Except.bind, RecordHeader.unpack_bytes (RecordHeader.fits_ofRecord hp)]
  rw [if_neg (by simp [RecordHeader.ofRecord]), if_neg (by simp [RecordHeader.ofRecord]), if_neg, if_neg]
  · have hsize : (RecordHeader.ofRecord expected r).payloadSize = r.payload.length := rfl
    have hcrc : (RecordHeader.ofRecord expected r).crc = (crc32 r.payload).toNat := rfl
    rw [hsize, hpayload]
    simp only [hcrc, ne_eq, not_true_eq_false, if_false, hrecord]
  · exact Nat.not_lt.2 hbound
  · simp only [RecordHeader.ofRecord, hdirection]
    tauto

/-- Nothing else is read as a record. -/
theorem sound_of_readRecord {r : Record} {raw rest : List UInt8}
    (h : readRecord limits expected file = .ok (r, raw, rest)) :
    Sound limits expected r ∧ raw = (RecordHeader.ofRecord expected r).bytes ++ r.payload ∧ file = raw ++ rest := by
  obtain ⟨header, hheader, hbody⟩ := Except.bind_eq_ok_iff.1 h
  obtain ⟨hlength, hfile⟩ := readExact_eq_ok_iff.1 hheader
  have hfits := RecordHeader.fits_unpack header.1
  have hbytes := RecordHeader.bytes_unpack hlength
  dsimp only at hbody
  generalize RecordHeader.unpack header.1 = g at hbody hfits hbytes
  split_ifs at hbody with hreserved hsequence hdirection hbound
  obtain ⟨payload, hpayload, hbody⟩ := Except.bind_eq_ok_iff.1 hbody
  obtain ⟨hsize, hrest⟩ := readExact_eq_ok_iff.1 hpayload
  split_ifs at hbody with hcrc
  obtain ⟨rfl, rfl, rfl⟩ : g.record payload.1 = r ∧ header.1 ++ payload.1 = raw ∧ payload.2 = rest := by
    simpa using hbody
  rw [not_not] at hreserved hsequence hcrc
  have hgeq : RecordHeader.ofRecord expected (g.record payload.1) = g := by
    obtain ⟨sequence, direction, reserved, opcode, payloadSize, requestId, crc⟩ := g
    simp only at hreserved hsequence hcrc hsize
    simp [RecordHeader.ofRecord, RecordHeader.record, hreserved, hsequence, hcrc, hsize]
  refine ⟨⟨⟨hsequence ▸ hfits.sequence, ?_, ?_, ?_, ?_⟩, ?_, ?_, ?_⟩, ?_, ?_⟩
  · exact ⟨Int.natCast_nonneg _, by have := hfits.direction; simp only [RecordHeader.record]; omega⟩
  · exact ⟨Int.natCast_nonneg _, by have := hfits.opcode; simp only [RecordHeader.record]; omega⟩
  · exact hsize ▸ hfits.payloadSize
  · exact ⟨Int.natCast_nonneg _, by have := hfits.requestId; simp only [RecordHeader.record]; omega⟩
  · exact congrArg Nat.cast hsequence
  · by_contra hne
    exact hdirection (not_or.1 hne)
  · exact hsize ▸ Nat.not_lt.1 hbound
  · rw [hgeq, hbytes]
    rfl
  · rw [List.append_assoc, hrest, hfile]

theorem readTrailer_eq_ok_iff : readTrailer expected seen file = .ok () ↔
    expected < 2 ^ 64 ∧ file = toLE 8 expected ++ sha256 seen := by
  constructor
  · intro h
    obtain ⟨p, hp, hbody⟩ := Except.bind_eq_ok_iff.1 h
    obtain ⟨hlength, rfl⟩ := readExact_eq_ok_iff.1 hp
    split_ifs at hbody with hcount hdigest hrest
    rw [not_not] at hcount hdigest hrest
    have hcut := toLE_field p.1 0 8 (by rw [hlength]; decide)
    rw [hcount, List.drop_zero, Nat.zero_add, hdigest] at hcut
    exact ⟨hcount ▸ field_lt _ _ _, by rw [hrest, List.append_nil, hcut]⟩
  · rintro ⟨hcount, rfl⟩
    have hread : readExact (trailerSize - 4) "trailer" (toLE 8 expected ++ sha256 seen) =
        .ok (toLE 8 expected ++ sha256 seen, []) :=
      readExact_eq_ok_iff.2 ⟨by simp [trailerSize], List.append_nil _⟩
    have hfield : field (toLE 8 expected ++ sha256 seen) 0 8 = expected := by
      rw [field, List.drop_zero, List.take_left' (length_toLE _ _), ofLE_toLE hcount]
    have hdigest : (toLE 8 expected ++ sha256 seen).drop 8 = sha256 seen := List.drop_left' (length_toLE _ _)
    simp only [readTrailer, hread, Except.bind, hfield, hdigest, ne_eq, not_true_eq_false, if_false]

theorem recordTag_ne_trailerTag : recordTag ≠ trailerTag := by with_unfolding_all decide

/-- Records and trailer of a file, as they follow what the digest has seen. -/
def chunks (expected : ℕ) (seen : List UInt8) (rs : List Record) : List UInt8 :=
  recordsBytes expected rs ++
    (trailerTag ++ (toLE 8 (expected + rs.length) ++ sha256 (seen ++ recordsBytes expected rs)))

theorem chunks_cons (expected : ℕ) (seen : List UInt8) (r : Record) (rs : List Record) :
    chunks expected seen (r :: rs) = recordTag ++ ((RecordHeader.ofRecord expected r).bytes ++ (r.payload ++
      chunks (expected + 1) (seen ++ (recordTag ++ ((RecordHeader.ofRecord expected r).bytes ++ r.payload))) rs)) := by
  have hcount : expected + (r :: rs).length = expected + 1 + rs.length := by
    rw [List.length_cons]
    omega
  simp only [chunks, recordsBytes, recordBytes, RecordHeader.recordHeaderBytes_eq, hcount, List.append_assoc]

/-- The loop reads the records that were written and the trailer behind them, and nothing else. -/
theorem readChunks_eq_ok_iff {rs : List Record} : readChunks limits n expected seen file = .ok rs ↔
    rs.length < n ∧ AllAcceptable limits expected rs ∧ expected + rs.length < 2 ^ 64 ∧
      file = chunks expected seen rs := by
  constructor
  · induction n generalizing expected seen file rs with
    | zero =>
      intro h
      cases h
    | succ n ih =>
      intro h
      obtain ⟨tag, htag, hbody⟩ := Except.bind_eq_ok_iff.1 h
      obtain ⟨-, rfl⟩ := readExact_eq_ok_iff.1 htag
      split_ifs at hbody with hend hrec hlimit
      · cases ht : readTrailer expected seen tag.2 with
        | error e =>
          rw [ht] at hbody
          cases hbody
        | ok u =>
          rw [ht] at hbody
          obtain rfl : [] = rs := Except.ok.inj hbody
          obtain ⟨hcount, hrest⟩ := readTrailer_eq_ok_iff.1 ht
          refine ⟨Nat.succ_pos n, trivial, hcount, ?_⟩
          rw [hend, hrest, chunks, recordsBytes, List.append_nil]
          rfl
      · obtain ⟨⟨r, raw, rest⟩, hread, hmore⟩ := Except.bind_eq_ok_iff.1 hbody
        obtain ⟨hsound, rfl, hrest⟩ := sound_of_readRecord hread
        cases hloop : readChunks limits n (expected + 1)
            (seen ++ (tag.1 ++ ((RecordHeader.ofRecord expected r).bytes ++ r.payload))) rest with
        | error e =>
          simp only [hloop] at hmore
          cases hmore
        | ok rs' =>
          simp only [hloop] at hmore
          obtain rfl : r :: rs' = rs := Except.ok.inj hmore
          obtain ⟨hlength, hall, hcount, hfile⟩ := ih hloop
          rw [not_not] at hrec
          refine ⟨Nat.succ_lt_succ hlength, ⟨acceptable_iff.2 ⟨Nat.not_le.1 hlimit, hsound⟩, hall⟩, ?_, ?_⟩
          · rw [List.length_cons]
            omega
          · rw [chunks_cons, hrest, hfile, hrec, List.append_assoc]
  · rintro ⟨hlength, hall, hcount, rfl⟩
    induction rs generalizing n expected seen with
    | nil =>
      obtain ⟨n, rfl⟩ : ∃ m, n = m + 1 := ⟨n - 1, by omega⟩
      have htag : readExact 4 "record or trailer tag" (chunks expected seen []) =
          .ok (trailerTag, toLE 8 expected ++ sha256 (seen ++ [])) := readExact_eq_ok_iff.2 ⟨length_trailerTag, rfl⟩
      rw [List.append_nil] at htag
      have hread : readTrailer expected seen (toLE 8 expected ++ sha256 seen) = .ok () :=
        readTrailer_eq_ok_iff.2 ⟨hcount, rfl⟩
      rw [readChunks, htag]
      simp only [Except.bind, if_true]
      rw [hread, Except.map]
    | cons r rs ih =>
      obtain ⟨n, rfl⟩ : ∃ m, n = m + 1 := ⟨n - 1, by omega⟩
      obtain ⟨hlimit, hsound⟩ := acceptable_iff.1 hall.1
      have htag : readExact 4 "record or trailer tag" (chunks expected seen (r :: rs)) = .ok (recordTag, _) :=
        readExact_eq_ok_iff.2 ⟨length_recordTag, (chunks_cons expected seen r rs).symm⟩
      have hloop := @ih (expected + 1) n
        (seen ++ (recordTag ++ ((RecordHeader.ofRecord expected r).bytes ++ r.payload)))
        (Nat.lt_of_succ_lt_succ hlength) hall.2 (by rw [List.length_cons] at hcount; omega)
      rw [readChunks, htag]
      simp only [Except.bind, recordTag_ne_trailerTag, if_false, ne_eq, not_true_eq_false, Nat.not_le.2 hlimit,
        readRecord_of_sound hsound, hloop, Except.map]

/-- What is before the chunks. -/
def fileStart (metadata : List UInt8) : List UInt8 :=
  magic ++ toLE 4 2 ++ toLE 4 metadata.length ++ metadata

/-- The file of a trace. -/
def traceFile (metadata : List UInt8) (rs : List Record) : List UInt8 :=
  fileStart metadata ++ chunks 0 (fileStart metadata) rs

theorem length_traceFile (metadata : List UInt8) (rs : List Record) :
    (traceFile metadata rs).length = traceSize metadata rs := by
  simp only [traceFile, fileStart, chunks, List.length_append, length_magic, length_toLE, length_recordsBytes,
    length_trailerTag, length_sha256, traceSize, fileHeaderSize, trailerSize]
  omega

/-- `write_trace` writes that file, if it writes one. -/
theorem writeTrace_eq_ok_iff {metadata : List UInt8} {rs : List Record} :
    writeTrace limits false metadata rs = .ok file ↔
      (metadata.length ≤ limits.maxMetadata ∧ metadata.length < 2 ^ 32 ∧ rs.length < 2 ^ 64 ∧
        AllAcceptable limits 0 rs ∧ traceSize metadata rs ≤ limits.maxTraceBytes) ∧
      file = traceFile metadata rs := by
  have hlayout {file : List UInt8} (h : writeTrace limits false metadata rs = .ok file) :
      file = traceFile metadata rs := by
    obtain ⟨_, -, h⟩ := Except.bind_eq_ok_iff.1 h
    split_ifs at h with hmeta
    simp only [writeFile, Except.bind_eq_ok_iff, fileHeader_eq_ok_iff, emit_eq_ok_iff, List.nil_append] at h
    obtain ⟨_, ⟨-, rfl⟩, _, ⟨-, rfl⟩, _, ⟨hroom, rfl⟩, w, hrecords, t, ht, hfile⟩ := h
    rw [writeRecords_eq_ok_iff (by rw [List.length_append]; exact hroom)] at hrecords
    obtain ⟨-, -, rfl⟩ := hrecords
    simp only [trailer, Except.bind_eq_ok_iff, pack_eq_ok_iff, Except.ok.injEq] at ht
    obtain ⟨_, ⟨-, rfl⟩, rfl⟩ := ht
    split_ifs at hfile
    obtain rfl := Except.ok.inj hfile
    simp [traceFile, fileStart, chunks, List.append_assoc]
  constructor
  · exact fun h => ⟨writeTrace_isOk_iff.1 ⟨file, h⟩, hlayout h⟩
  · rintro ⟨hok, rfl⟩
    obtain ⟨file, h⟩ := writeTrace_isOk_iff.2 hok
    exact hlayout h ▸ h

/-- The fields of a file header that was written. -/
theorem field_fileHeader {size : ℕ} (h : size < 2 ^ 32) :
    (magic ++ (toLE 4 2 ++ toLE 4 size)).take 8 = magic ∧
      field (magic ++ (toLE 4 2 ++ toLE 4 size)) 8 4 = 2 ∧
      field (magic ++ (toLE 4 2 ++ toLE 4 size)) 12 4 = size := by
  have hafter : (magic ++ (toLE 4 2 ++ toLE 4 size)).drop 8 = toLE 4 2 ++ toLE 4 size :=
    List.drop_left' length_magic
  refine ⟨List.take_left' length_magic, ?_, ?_⟩
  · rw [field, hafter, List.take_left' (length_toLE _ _), ofLE_toLE (by decide)]
  · rw [field, show 12 = 8 + 4 from rfl, ← List.drop_drop, hafter, List.drop_left' (length_toLE _ _),
      List.take_of_length_le (length_toLE _ _).le, ofLE_toLE h]

/-- A file header with these fields is the one that was written. -/
theorem fileHeader_of_fields {header : List UInt8} (hlength : header.length = fileHeaderSize)
    (hmagic : header.take 8 = magic) (hversion : field header 8 4 = 2) :
    header = magic ++ (toLE 4 2 ++ toLE 4 (field header 12 4)) := by
  have h₁ := toLE_field header 8 4 (by rw [hlength]; decide)
  have h₂ := toLE_field header 12 4 (by rw [hlength]; decide)
  rw [List.drop_eq_nil_of_le (by rw [hlength]; decide), List.append_nil] at h₂
  rw [h₂, ← hversion, h₁, ← hmagic, List.take_append_drop]

section

variable {F : Type} [PyFloat F] {metadata : Json F} {rs : List Record}

omit [PyFloat F] in
theorem length_le_recordsSize (rs : List Record) : rs.length ≤ recordsSize rs := by
  induction rs with
  | nil => exact Nat.zero_le _
  | cons r rs ih =>
    rw [List.length_cons, recordsSize, recordHeaderSize]
    omega

/-- A file in bounds is read if its metadata is the canonical text of what it says and the rest is as written. -/
theorem readFile_eq_ok_iff : readFile limits file = .ok (metadata, rs) ↔
    ∃ bytes, loadMetadata bytes = .ok metadata ∧ canonicalMetadata metadata = .ok bytes ∧
      bytes.length ≤ limits.maxMetadata ∧ bytes.length < 2 ^ 32 ∧ rs.length < 2 ^ 64 ∧
      AllAcceptable limits 0 rs ∧ file = traceFile bytes rs := by
  constructor
  · intro h
    obtain ⟨header, hheader, hbody⟩ := Except.bind_eq_ok_iff.1 h
    obtain ⟨hlength, rfl⟩ := readExact_eq_ok_iff.1 hheader
    split_ifs at hbody with htag hversion hlimit
    rw [not_not] at htag hversion
    obtain ⟨bytes, hbytes, hbody⟩ := Except.bind_eq_ok_iff.1 hbody
    obtain ⟨hsize, hrest⟩ := readExact_eq_ok_iff.1 hbytes
    obtain ⟨m, hload, hbody⟩ := Except.bind_eq_ok_iff.1 hbody
    obtain ⟨canonical, hcanonical, hbody⟩ := Except.bind_eq_ok_iff.1 hbody
    split_ifs at hbody with hsame
    rw [not_not] at hsame
    subst hsame
    cases hchunks : readChunks limits (bytes.2.length + 1) 0 (header.1 ++ bytes.1) bytes.2 with
    | error e =>
      rw [hchunks] at hbody
      cases hbody
    | ok rs' =>
      rw [hchunks] at hbody
      obtain ⟨rfl, rfl⟩ : m = metadata ∧ rs' = rs := by simpa [Except.map] using hbody
      obtain ⟨-, hall, hcount, hfile⟩ := readChunks_eq_ok_iff.1 hchunks
      have hversion' : field header.1 8 4 = 2 := Int.ofNat_inj.1 hversion
      have hstart : header.1 ++ bytes.1 = fileStart bytes.1 := by
        rw [fileHeader_of_fields hlength htag hversion', ← hsize, fileStart]
        simp only [List.append_assoc]
      refine ⟨bytes.1, hload, hcanonical, ?_, ?_, by omega, hall, ?_⟩
      · exact hsize ▸ Nat.not_lt.1 hlimit
      · exact hsize ▸ field_lt _ _ _
      · rw [traceFile, ← hstart, ← hfile, List.append_assoc, hrest]
  · rintro ⟨bytes, hload, hcanonical, hmax, hwide, hcount, hall, rfl⟩
    obtain ⟨hmagic, hversion, hsize⟩ := field_fileHeader hwide
    have hsplit : traceFile bytes rs =
        (magic ++ (toLE 4 2 ++ toLE 4 bytes.length)) ++ (bytes ++ chunks 0 (fileStart bytes) rs) := by
      simp only [traceFile, fileStart, List.append_assoc]
    have hheader : readExact fileHeaderSize "file header" (traceFile bytes rs) =
        .ok (magic ++ (toLE 4 2 ++ toLE 4 bytes.length), bytes ++ chunks 0 (fileStart bytes) rs) :=
      readExact_eq_ok_iff.2 ⟨by simp [length_magic, fileHeaderSize], hsplit.symm⟩
    have hbytes : readExact bytes.length "metadata" (bytes ++ chunks 0 (fileStart bytes) rs) =
        .ok (bytes, chunks 0 (fileStart bytes) rs) := readExact_eq_ok_iff.2 ⟨rfl, rfl⟩
    have hstart : magic ++ (toLE 4 2 ++ toLE 4 bytes.length) ++ bytes = fileStart bytes := by
      simp only [fileStart, List.append_assoc]
    have hfuel : rs.length < (chunks 0 (fileStart bytes) rs).length + 1 := by
      have := length_le_recordsSize rs
      simp only [chunks, List.length_append, length_recordsBytes]
      omega
    have hchunks : readChunks limits ((chunks 0 (fileStart bytes) rs).length + 1) 0 (fileStart bytes)
        (chunks 0 (fileStart bytes) rs) = .ok rs := readChunks_eq_ok_iff.2 ⟨hfuel, hall, by omega, rfl⟩
    rw [readFile, hheader]
    simp only [Except.bind, hmagic, hversion, hsize, hbytes, hload, hcanonical, hstart, hchunks, ne_eq,
      not_true_eq_false, if_false, Nat.not_lt.2 hmax]
    rfl

theorem readTrace_eq_ok_iff : readTrace limits file = .ok (metadata, rs) ↔
    ∃ bytes, loadMetadata bytes = .ok metadata ∧ canonicalMetadata metadata = .ok bytes ∧
      writeTrace limits false bytes rs = .ok file := by
  simp only [writeTrace_eq_ok_iff]
  constructor
  · intro h
    obtain ⟨_, -, h⟩ := Except.bind_eq_ok_iff.1 h
    split_ifs at h with hlimit hshort
    obtain ⟨bytes, hload, hcanonical, hmax, hwide, hcount, hall, rfl⟩ := readFile_eq_ok_iff.1 h
    refine ⟨bytes, hload, hcanonical, ⟨hmax, hwide, hcount, hall, ?_⟩, rfl⟩
    rw [← length_traceFile]
    exact Nat.not_lt.1 hlimit
  · rintro ⟨bytes, hload, hcanonical, ⟨hmax, hwide, hcount, hall, hroom⟩, rfl⟩
    have hread := readFile_eq_ok_iff.2 ⟨bytes, hload, hcanonical, hmax, hwide, hcount, hall, rfl⟩
    have hleast : fileHeaderSize + trailerSize ≤ traceSize bytes rs := by
      unfold traceSize
      omega
    have hlimits : checkedLimits limits = .ok () := if_neg (by omega)
    rw [readTrace, hlimits]
    simp only [Except.bind, length_traceFile, Nat.not_lt.2 hroom, Nat.not_lt.2 hleast, if_false, hread]

/-! ### Metadata that is written and read back -/

omit [PyFloat F] in
theorem isText_map_sorted (v : Option (Json F)) : isText (v.map Json.sorted) = isText v := by
  cases v with
  | none => rfl
  | some v => cases v <;> rfl

omit [PyFloat F] in
theorem isHex_map_sorted (n : ℕ) (v : Option (Json F)) : isHex n (v.map Json.sorted) = isHex n v := by
  cases v with
  | none => rfl
  | some v => cases v <;> rfl

omit [PyFloat F] in
theorem validateKeys_map_sorted (get : String → Option (Json F)) :
    validateKeys (fun key => (get key).map Json.sorted) = validateKeys get := by
  simp only [validateKeys, isText_map_sorted, isHex_map_sorted, Option.isNone_map]

omit [PyFloat F] in
theorem lookup_eq_some_iff_mem {α : Type} {items : List (Str × α)} (h : (items.map Prod.fst).Nodup) {k : Str}
    {v : α} : items.lookup k = some v ↔ (k, v) ∈ items := by
  induction items with
  | nil => simp
  | cons e items ih =>
    rw [List.map_cons, List.nodup_cons] at h
    obtain ⟨k', v'⟩ := e
    by_cases hk : k = k'
    · subst hk
      have hnot : (k, v) ∉ items := fun hm => h.1 (List.mem_map.2 ⟨_, hm, rfl⟩)
      simp [hnot, eq_comm]
    · have hbeq : (k == k') = false := by simpa using hk
      rw [List.lookup_cons, hbeq, ih h.2]
      simp [hk]

omit [PyFloat F] in
/-- Sorting the items changes no value but in its own order. -/
theorem lookup_sortItems {items : List (Str × Json F)} (h : (items.map Prod.fst).Nodup) (k : Str) :
    (Json.sortItems (items.map fun e => (e.1, e.2.sorted))).lookup k = (items.lookup k).map Json.sorted := by
  have hnodup : ((Json.sortItems (items.map fun e => (e.1, e.2.sorted))).map Prod.fst).Nodup := by
    refine ((List.perm_insertionSort _ _).map Prod.fst).nodup_iff.2 ?_
    rw [List.map_map]
    exact h
  refine Option.ext fun v => ?_
  rw [lookup_eq_some_iff_mem hnodup, Json.mem_sortItems, Option.map_eq_some_iff, List.mem_map]
  constructor
  · rintro ⟨e, he, heq⟩
    obtain ⟨rfl, rfl⟩ := Prod.mk.inj heq
    exact ⟨e.2, (lookup_eq_some_iff_mem h).2 he, rfl⟩
  · rintro ⟨w, hw, rfl⟩
    exact ⟨(k, w), (lookup_eq_some_iff_mem h).1 hw, rfl⟩

omit [PyFloat F] in
theorem validateMetadata_sorted (h : metadata.Distinct) :
    validateMetadata metadata.sorted = validateMetadata metadata := by
  cases metadata with
  | dict items =>
    rw [Json.sorted_dict, validateMetadata, validateMetadata]
    simp only [lookup_sortItems h.1, validateKeys_map_sorted]
  | _ => rfl

theorem canonicalMetadata_sorted (h : metadata.Distinct) :
    canonicalMetadata metadata.sorted = canonicalMetadata metadata := by
  rw [canonicalMetadata, canonicalMetadata, validateMetadata_sorted h, Json.dumps_sorted]

theorem canonicalMetadata_eq_ok {bytes : List UInt8} (h : canonicalMetadata metadata = .ok bytes) :
    ∃ text, metadata.dumps = .ok text ∧ utf8Encode text = some bytes := by
  obtain ⟨_, -, h⟩ := Except.bind_eq_ok_iff.1 h
  cases hdumps : metadata.dumps with
  | error e =>
    rw [hdumps] at h
    cases h
  | ok text =>
    cases hbytes : utf8Encode text with
    | none =>
      simp only [hdumps, hbytes] at h
      cases h
    | some bytes' =>
      simp only [hdumps, hbytes] at h
      exact ⟨text, rfl, by rw [hbytes, Except.ok.inj h]⟩

/-- Metadata that was written is read back, with its items in the order of their keys. -/
theorem loadMetadata_of_canonical [Json.LawfulPyFloat F] (hd : metadata.Distinct) {bytes : List UInt8}
    (h : canonicalMetadata metadata = .ok bytes) : loadMetadata bytes = .ok metadata.sorted := by
  obtain ⟨text, hdumps, hbytes⟩ := canonicalMetadata_eq_ok h
  rw [loadMetadata, utf8Decode_of_utf8Encode hbytes]
  simp only [Json.loads_of_dumps hd hdumps]

omit [PyFloat F] in
theorem readExact_append {p : List UInt8 × List UInt8} (h : readExact size what file = .ok p)
    (more : List UInt8) : readExact size what (file ++ more) = .ok (p.1, p.2 ++ more) := by
  obtain ⟨hlength, rfl⟩ := readExact_eq_ok_iff.1 h
  exact readExact_eq_ok_iff.2 ⟨hlength, (List.append_assoc _ _ _).symm⟩

omit [PyFloat F] in
theorem readRecord_append {r : Record} {raw rest : List UInt8}
    (h : readRecord limits expected file = .ok (r, raw, rest)) (more : List UInt8) :
    readRecord limits expected (file ++ more) = .ok (r, raw, rest ++ more) := by
  obtain ⟨hsound, rfl, rfl⟩ := sound_of_readRecord h
  simp only [List.append_assoc]
  exact readRecord_of_sound hsound (rest ++ more)

omit [PyFloat F] in
/-- The loop ends at the end of the file: no other file goes on. -/
theorem readChunks_append {n' : ℕ} {rs rs' : List Record} (h : readChunks limits n expected seen file = .ok rs)
    (h' : readChunks limits n' expected seen (file ++ more) = .ok rs') : more = [] := by
  induction n generalizing n' expected seen file rs rs' with
  | zero => cases h
  | succ n ih =>
    cases n' with
    | zero => cases h'
    | succ n' =>
      obtain ⟨tag, htag, hbody⟩ := Except.bind_eq_ok_iff.1 h
      rw [readChunks, readExact_append htag] at h'
      simp only [Except.bind] at h'
      split_ifs at hbody h' with hend hrec hlimit
      · cases ht : readTrailer expected seen tag.2 with
        | error e =>
          rw [ht] at hbody
          cases hbody
        | ok u =>
          cases ht' : readTrailer expected seen (tag.2 ++ more) with
          | error e =>
            rw [ht'] at h'
            cases h'
          | ok u' =>
            have hfile := (readTrailer_eq_ok_iff.1 ht).2
            have hfile' := (readTrailer_eq_ok_iff.1 ht').2
            exact List.append_right_eq_self.1 (hfile'.trans hfile.symm)
      · obtain ⟨⟨r, raw, rest⟩, hread, hloop⟩ := Except.bind_eq_ok_iff.1 hbody
        simp only [readRecord_append hread more] at h'
        cases hmore : readChunks limits n (expected + 1) (seen ++ (tag.1 ++ raw)) rest with
        | error e =>
          simp only [hmore] at hloop
          cases hloop
        | ok rs₁ =>
          cases hmore' : readChunks limits n' (expected + 1) (seen ++ (tag.1 ++ raw)) (rest ++ more) with
          | error e =>
            simp only [hmore'] at h'
            cases h'
          | ok rs₂ => exact ih hmore hmore'

/-- A trace is no proper part of another one from the start on. -/
theorem readTrace_append {r r' : Json F × List Record} (h : readTrace limits file = .ok r)
    (h' : readTrace limits (file ++ more) = .ok r') : more = [] := by
  obtain ⟨bytes, -, -, hwrite⟩ := readTrace_eq_ok_iff.1 h
  obtain ⟨bytes', -, -, hwrite'⟩ := readTrace_eq_ok_iff.1 h'
  obtain ⟨⟨-, hwide, hcount, hall, -⟩, rfl⟩ := writeTrace_eq_ok_iff.1 hwrite
  obtain ⟨⟨-, hwide', hcount', hall', -⟩, hfile⟩ := writeTrace_eq_ok_iff.1 hwrite'
  simp only [traceFile, fileStart, List.append_assoc] at hfile
  obtain ⟨hsize, hrest⟩ := List.append_inj (List.append_cancel_left (List.append_cancel_left hfile)) (by simp)
  obtain ⟨rfl, hchunks⟩ := List.append_inj hrest (RecordHeader.toLE_inj hwide hwide' hsize)
  have hread : readChunks limits (r.2.length + 1) 0 (fileStart bytes) (chunks 0 (fileStart bytes) r.2) =
      .ok r.2 := readChunks_eq_ok_iff.2 ⟨Nat.lt_succ_self _, hall, by omega, rfl⟩
  have hread' : readChunks limits (r'.2.length + 1) 0 (fileStart bytes)
      (chunks 0 (fileStart bytes) r.2 ++ more) = .ok r'.2 :=
    readChunks_eq_ok_iff.2 ⟨Nat.lt_succ_self _, hall', by omega, by
      simpa only [chunks, fileStart, List.append_assoc] using hchunks⟩
  exact readChunks_append hread hread'

theorem writeTraceOf_eq_ok_iff : writeTraceOf limits false metadata rs = .ok file ↔
    ∃ bytes, canonicalMetadata metadata = .ok bytes ∧ writeTrace limits false bytes rs = .ok file := by
  simp only [writeTraceOf, Except.bind_eq_ok_iff]
  constructor
  · rintro ⟨_, -, h⟩
    exact h
  · rintro ⟨bytes, hbytes, h⟩
    obtain ⟨u, hu, -⟩ := Except.bind_eq_ok_iff.1 h
    exact ⟨u, hu, bytes, hbytes, h⟩

theorem readTrace_of_writeTraceOf [Json.LawfulPyFloat F] (hd : metadata.Distinct)
    (h : writeTraceOf limits false metadata rs = .ok file) :
    readTrace limits file = .ok (metadata.sorted, rs) := by
  obtain ⟨bytes, hbytes, hwrite⟩ := writeTraceOf_eq_ok_iff.1 h
  refine readTrace_eq_ok_iff.2 ⟨bytes, loadMetadata_of_canonical hd hbytes, ?_, hwrite⟩
  rw [canonicalMetadata_sorted hd, hbytes]

theorem writeTraceOf_of_readTrace (h : readTrace limits file = .ok (metadata, rs)) :
    writeTraceOf limits false metadata rs = .ok file := by
  obtain ⟨bytes, -, hbytes, hwrite⟩ := readTrace_eq_ok_iff.1 h
  exact writeTraceOf_eq_ok_iff.2 ⟨bytes, hbytes, hwrite⟩

variable (F) in
/-- What is written is read back; what is read is what would be written; and neither a beginning of a trace nor
a longer file is one. -/
theorem trace_container [Json.LawfulPyFloat F] (limits : Limits) :
    (∀ (metadata : Json F) (rs : List Record) (file : List UInt8), metadata.Distinct →
      writeTraceOf limits false metadata rs = .ok file →
      ∃ loaded : Json F, readTrace limits file = .ok (loaded, rs) ∧ loaded.Same metadata) ∧
    (∀ (file : List UInt8) (metadata : Json F) (rs : List Record),
      readTrace limits file = .ok (metadata, rs) → writeTraceOf limits false metadata rs = .ok file) ∧
    (∀ (file more : List UInt8) (r r' : Json F × List Record),
      readTrace limits file = .ok r → more ≠ [] → readTrace limits (file ++ more) ≠ .ok r') := by
  refine ⟨fun metadata rs file hd h => ?_, fun file metadata rs h => ?_, fun file more r r' h hmore h' => ?_⟩
  · exact ⟨metadata.sorted, readTrace_of_writeTraceOf hd h, Json.same_sorted metadata⟩
  · exact writeTraceOf_of_readTrace h
  · exact hmore (readTrace_append h h')

end

section

/-- The floats of a run that has only 0.5. -/
inductive Half
  | half
  | infinite
  deriving DecidableEq

instance : PyFloat Half where
  isFinite x := x = .half
  repr x := match x with
    | .half => lit "0.5"
    | .infinite => lit "inf"
  ofText s := if s = lit "0.5" then .half else .infinite

instance : Json.LawfulPyFloat Half where
  number x hx := by
    obtain rfl : x = .half := by simpa [PyFloat.isFinite] using hx
    exact ⟨⟨lit "0", lit ".5", [], []⟩, by decide, rfl, by decide⟩
  ofText_repr x hx := by
    obtain rfl : x = .half := by simpa [PyFloat.isFinite] using hx
    rfl

def sampleMetadata : Json Half :=
  .dict [(lit "wire_schema", .string (lit "3")), (lit "registry_sha256", .string (List.replicate 64 'a'.toNat)),
    (lit "wire_abi", .string (lit "lp64")), (lit "command_digest", .string (List.replicate 16 'b'.toNat)),
    (lit "custom", .list [.float .half, .int (-12), .dict [(lit "b", .null), (lit "a", .bool true)]])]

def sampleRecords : List Record :=
  [{ sequence := 0, direction := 0, opcode := 1, payload := "request".toUTF8.toList },
    { sequence := 1, direction := 1, opcode := 1, payload := [], requestId := 9 }]

theorem trace_container_sample : ∃ file, writeTraceOf {} false sampleMetadata sampleRecords = .ok file ∧
    ∃ loaded : Json Half, readTrace {} file = .ok (loaded, sampleRecords) ∧ loaded.Same sampleMetadata := by
  have hd : sampleMetadata.Distinct :=
    ⟨by decide, trivial, trivial, trivial, trivial,
      ⟨trivial, trivial, ⟨by decide, trivial, trivial, trivial⟩, trivial⟩, trivial⟩
  have hshort : (canonicalMetadata sampleMetadata).toOption.any (fun bytes => bytes.length ≤ 1000) = true := by
    decide +kernel
  have hall : AllAcceptable {} 0 sampleRecords :=
    ⟨acceptable_iff.2 ⟨by decide, ⟨by decide, by decide, by decide, by decide +kernel, by decide⟩, rfl, .inl rfl,
        by decide +kernel⟩,
      acceptable_iff.2 ⟨by decide, ⟨by decide, by decide, by decide, by decide, by decide⟩, rfl, .inr rfl,
        by decide⟩,
      trivial⟩
  obtain ⟨file, h⟩ : ∃ file, writeTraceOf {} false sampleMetadata sampleRecords = .ok file := by
    cases hc : canonicalMetadata sampleMetadata with
    | error e =>
      rw [hc] at hshort
      cases hshort
    | ok bytes =>
      rw [hc] at hshort
      have hlength : bytes.length ≤ 1000 := of_decide_eq_true hshort
      have hrecords : recordsSize sampleRecords = 79 := by decide +kernel
      have hroom : traceSize bytes sampleRecords ≤ Limits.maxTraceBytes {} := by
        rw [traceSize, hrecords, fileHeaderSize, trailerSize]
        exact Nat.le_trans (by omega : 16 + bytes.length + 79 + 44 ≤ 1139) (by decide)
      obtain ⟨file, hfile⟩ := writeTrace_isOk_iff.2
        ⟨Nat.le_trans hlength (by decide), by omega, by decide, hall, hroom⟩
      exact ⟨file, writeTraceOf_eq_ok_iff.2 ⟨bytes, hc, hfile⟩⟩
  exact ⟨file, h, (trace_container Half {}).1 sampleMetadata sampleRecords file hd h⟩

end

end VkRemote.Tools
