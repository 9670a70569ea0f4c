import VulkanRemote.Lib.LittleEndian
import VulkanRemote.Wayland.Protocol

/-! `decode_message` and `encode_message`, and when one undoes the other. Both are compared with `OnWire`,
the wire form the format gives an argument, in which padding may hold anything. -/

namespace VkRemote.Wayland

open Lib

def putU32 (v : UInt32) : List UInt8 := toLE 4 v.toNat

@[simp] theorem length_putU32 (v : UInt32) : (putU32 v).length = 4 := length_toLE _ _

/-- The integer in the next four bytes, and what follows them. -/
def readU32 (data : List UInt8) : Option (UInt32 × List UInt8) :=
  if data.length < 4 then none else some (UInt32.ofNat (ofLE (data.take 4)), data.drop 4)

/-- `(blob_len + 3) & ~3`, in 32 bits. -/
def paddedLength (blobLen : UInt32) : ℕ := (blobLen + 3).toNat / 4 * 4

def readBlob (data : List UInt8) : Option (List UInt8 × List UInt8) :=
  (readU32 data).bind fun r =>
    if r.2.length < r.1.toNat then none
    else if r.2.length < paddedLength r.1 then none
    else some (r.2.take r.1.toNat, r.2.drop (paddedLength r.1))

/-- A blob that ends in NUL, less the NUL. -/
def readString (data : List UInt8) : Option (Name × List UInt8) :=
  (readBlob data).bind fun r =>
    if r.1.getLast? = some 0 then some (r.1.dropLast, r.2) else none

def decodeArg (spec : ArgSpec) (data : List UInt8) : Option (DecodedArg × List UInt8) :=
  match spec.type with
  | .int | .fixed => (readU32 data).map fun r => ({ type := spec.type, i32 := r.1.toInt32 }, r.2)
  | .uint | .object => (readU32 data).map fun r => ({ type := spec.type, u32 := r.1 }, r.2)
  | .string => (readString data).map fun r => ({ type := spec.type, str := r.1 }, r.2)
  | .array => (readBlob data).map fun r => ({ type := spec.type, array := r.1 }, r.2)
  | .fd => some ({ type := spec.type }, data)
  | .newId =>
    match spec.interface with
    | some i => (readU32 data).map fun r => ({ type := spec.type, u32 := r.1, str := i }, r.2)
    | none =>
      (readString data).bind fun s =>
        (readU32 s.2).bind fun v =>
          (readU32 v.2).map fun r =>
            ({ type := spec.type, u32 := r.1, str := s.1, newIdVersion := v.1 }, r.2)

def decodeArgs : List ArgSpec → List UInt8 → Option (List DecodedArg × List UInt8)
  | [], data => some ([], data)
  | spec :: specs, data =>
    (decodeArg spec data).bind fun r => (decodeArgs specs r.2).map fun rs => (r.1 :: rs.1, rs.2)

/-- All declared arguments and nothing behind them. -/
def decodeMessage (specs : List ArgSpec) (payload : List UInt8) : Option (List DecodedArg) :=
  (decodeArgs specs payload).bind fun r => if r.2 = [] then some r.1 else none

def putBlob (data : List UInt8) : List UInt8 :=
  putU32 (UInt32.ofNat data.length) ++ data ++
    List.replicate ((data.length + 3) / 4 * 4 - data.length) 0

def encodeArg (a : DecodedArg) : List UInt8 :=
  match a.type with
  | .int | .fixed => putU32 a.i32.toUInt32
  | .uint | .object => putU32 a.u32
  | .string => putBlob (a.str ++ [0])
  | .array => putBlob a.array
  | .newId =>
    (if a.str ≠ [] ∧ a.newIdVersion ≠ 0 then putBlob (a.str ++ [0]) ++ putU32 a.newIdVersion else []) ++
      putU32 a.u32
  | .fd => []

def encodeBody (args : List DecodedArg) : List UInt8 := args.flatMap encodeArg

/-- The second word of a header: the size above the opcode, in 32 bits. -/
def header2 (bodySize : ℕ) (opcode : UInt16) : UInt32 :=
  UInt32.ofNat (bodySize + 8) <<< 16 ||| opcode.toUInt32

/-- The bound is put on the body, the field holds the body and the header. -/
def encodeMessage (objectId : UInt32) (opcode : UInt16) (args : List DecodedArg) : Option (List UInt8) :=
  if 0xffff < (encodeBody args).length then none
  else some (putU32 objectId ++ putU32 (header2 (encodeBody args).length opcode) ++ encodeBody args)

/-- The words of a message's header, as its readers take them apart. -/
def objectField (message : List UInt8) : UInt32 := UInt32.ofNat (ofLE (message.take 4))

def header2Field (message : List UInt8) : UInt32 := UInt32.ofNat (ofLE ((message.drop 4).take 4))

def opcodeField (message : List UInt8) : UInt16 := (header2Field message &&& 0xffff).toUInt16

def sizeField (message : List UInt8) : UInt16 := (header2Field message >>> 16).toUInt16

theorem toNat_header2 (n : ℕ) (opcode : UInt16) :
    (header2 n opcode).toNat = (n + 8) % 2 ^ 16 * 2 ^ 16 + opcode.toNat := by
  have hop : opcode.toNat < 2 ^ 16 := opcode.toNat_lt
  have hshift : ((n + 8) % 2 ^ 32) <<< 16 % 2 ^ 32 = ((n + 8) % 2 ^ 16) <<< 16 := by
    rw [Nat.shiftLeft_eq, Nat.shiftLeft_eq]
    omega
  have hor := Nat.shiftLeft_add_eq_or_of_lt hop ((n + 8) % 2 ^ 16)
  rw [← Nat.shiftLeft_eq, hor, ← hshift]
  simp [header2]

theorem sizeField_header2 (n : ℕ) (opcode : UInt16) :
    (header2 n opcode >>> 16).toUInt16 = UInt16.ofNat (n + 8) := by
  have hop : opcode.toNat < 2 ^ 16 := opcode.toNat_lt
  have h : (header2 n opcode).toNat / 2 ^ 16 % 2 ^ 16 = (n + 8) % 2 ^ 16 := by
    rw [toNat_header2]
    omega
  apply UInt16.toNat_inj.1
  simpa [Nat.shiftRight_eq_div_pow] using h

theorem opcodeField_header2 (n : ℕ) (opcode : UInt16) :
    (header2 n opcode &&& 0xffff).toUInt16 = opcode := by
  have hop : opcode.toNat < 2 ^ 16 := opcode.toNat_lt
  have hand := Nat.and_two_pow_sub_one_eq_mod (header2 n opcode).toNat 16
  have h : (header2 n opcode).toNat % 2 ^ 16 = opcode.toNat := by
    rw [toNat_header2]
    omega
  apply UInt16.toNat_inj.1
  rw [UInt32.toNat_toUInt16, UInt32.toNat_and]
  exact (congrArg (· % 2 ^ 16) (hand.trans h)).trans (Nat.mod_eq_of_lt hop)

theorem ofLE_putU32 (v : UInt32) : UInt32.ofNat (ofLE (putU32 v)) = v := ofLE_toLE_u32 v

section

variable {objectId : UInt32} {opcode : UInt16} {args : List DecodedArg} {out : List UInt8}

theorem encodeMessage_eq_some_iff :
    encodeMessage objectId opcode args = some out ↔ (encodeBody args).length ≤ 0xffff ∧
      out = putU32 objectId ++ putU32 (header2 (encodeBody args).length opcode) ++ encodeBody args := by
  unfold encodeMessage
  split
  · next h => simp [Nat.not_le.2 h]
  · next h => simp [Nat.not_lt.1 h, eq_comm]

theorem objectField_encodeMessage (h : encodeMessage objectId opcode args = some out) :
    objectField out = objectId := by
  obtain ⟨-, rfl⟩ := encodeMessage_eq_some_iff.1 h
  rw [objectField, List.append_assoc, List.take_left' (length_putU32 _), ofLE_putU32]

theorem header2Field_encodeMessage (h : encodeMessage objectId opcode args = some out) :
    header2Field out = header2 (encodeBody args).length opcode := by
  obtain ⟨-, rfl⟩ := encodeMessage_eq_some_iff.1 h
  rw [header2Field, List.append_assoc, List.drop_left' (length_putU32 _), List.take_left' (length_putU32 _),
    ofLE_putU32]

theorem opcodeField_encodeMessage (h : encodeMessage objectId opcode args = some out) :
    opcodeField out = opcode := by
  rw [opcodeField, header2Field_encodeMessage h, opcodeField_header2]

theorem sizeField_encodeMessage (h : encodeMessage objectId opcode args = some out) :
    sizeField out = UInt16.ofNat ((encodeBody args).length + 8) := by
  rw [sizeField, header2Field_encodeMessage h, sizeField_header2]

theorem body_encodeMessage (h : encodeMessage objectId opcode args = some out) :
    out.drop 8 = encodeBody args := by
  obtain ⟨-, rfl⟩ := encodeMessage_eq_some_iff.1 h
  exact List.drop_left' (by simp)

theorem length_encodeMessage (h : encodeMessage objectId opcode args = some out) :
    out.length = (encodeBody args).length + 8 := by
  obtain ⟨-, rfl⟩ := encodeMessage_eq_some_iff.1 h
  simp
  omega

end

/-- Room for `n` bytes: a length, the bytes, and padding to a multiple of four. -/
def blobSize (n : ℕ) : ℕ := 4 + (n + 3) / 4 * 4

/-- `content` behind its length, padded with bytes of any value. -/
inductive BlobOnWire (content : List UInt8) : List UInt8 → Prop
  | mk {padding : List UInt8} (hsize : content.length + 4 < 2 ^ 32)
      (hpad : 4 + content.length + padding.length = blobSize content.length) :
      BlobOnWire content (putU32 (UInt32.ofNat content.length) ++ content ++ padding)

/-- The wire form of one argument: what the format says, whatever the padding holds. -/
def ArgOnWire (spec : ArgSpec) (a : DecodedArg) (bytes : List UInt8) : Prop :=
  spec.Matches a ∧
  match spec.type with
  | .int | .fixed => bytes = putU32 a.i32.toUInt32
  | .uint | .object => bytes = putU32 a.u32
  | .string => BlobOnWire (a.str ++ [0]) bytes
  | .array => BlobOnWire a.array bytes
  | .fd => a.fd = -1 ∧ bytes = []
  | .newId =>
    match spec.interface with
    | some _ => bytes = putU32 a.u32
    | none => ∃ blob, BlobOnWire (a.str ++ [0]) blob ∧
        bytes = blob ++ (putU32 a.newIdVersion ++ putU32 a.u32)

/-- The wire form of a body. -/
inductive OnWire : List ArgSpec → List DecodedArg → List UInt8 → Prop
  | nil : OnWire [] [] []
  | cons {spec : ArgSpec} {specs : List ArgSpec} {a : DecodedArg} {args : List DecodedArg}
      {bytes rest : List UInt8} :
      ArgOnWire spec a bytes → OnWire specs args rest →
      OnWire (spec :: specs) (a :: args) (bytes ++ rest)

/-! ### What the decoder accepts -/

section

variable {spec : ArgSpec} {specs : List ArgSpec} {a : DecodedArg} {args : List DecodedArg}
variable {content bytes data tail : List UInt8} {v : UInt32}

theorem BlobOnWire.length_eq (h : BlobOnWire content bytes) : bytes.length = blobSize content.length := by
  cases h with
  | mk _ hpad => simpa [Nat.add_assoc] using hpad

theorem readU32_putU32 (v : UInt32) : readU32 (putU32 v ++ tail) = some (v, tail) := by
  have htake : (putU32 v ++ tail).take 4 = putU32 v := List.take_left' (length_putU32 v)
  have hdrop : (putU32 v ++ tail).drop 4 = tail := List.drop_left' (length_putU32 v)
  simp [readU32, htake, hdrop, ofLE_putU32]

theorem paddedLength_ofNat {n : ℕ} (h : n + 4 < 2 ^ 32) :
    paddedLength (UInt32.ofNat n) = (n + 3) / 4 * 4 := by
  have hsum : (UInt32.ofNat n + 3).toNat = n + 3 := by
    rw [UInt32.toNat_add, UInt32.toNat_ofNat', Nat.mod_eq_of_lt (by omega : n < 2 ^ 32)]
    exact Nat.mod_eq_of_lt (show n + 3 < 2 ^ 32 by omega)
  rw [paddedLength, hsum]

theorem readBlob_of_onWire (h : BlobOnWire content bytes) (tail : List UInt8) :
    readBlob (bytes ++ tail) = some (content, tail) := by
  cases h with
  | @mk padding hsize hpad =>
    have hlen : (UInt32.ofNat content.length).toNat = content.length :=
      UInt32.toNat_ofNat_of_lt' (show content.length < 2 ^ 32 by omega)
    have hroom : paddedLength (UInt32.ofNat content.length) = content.length + padding.length := by
      rw [paddedLength_ofNat hsize]
      unfold blobSize at hpad
      omega
    have hdrop : (content ++ (padding ++ tail)).drop (content.length + padding.length) = tail := by
      rw [← List.append_assoc]
      exact List.drop_left' (by simp)
    simp only [readBlob, List.append_assoc, readU32_putU32, Option.bind_some, hlen, hroom, hdrop]
    rw [if_neg (by simp), if_neg (by simp [← Nat.add_assoc]), List.take_left]

theorem readString_of_onWire {s : Name} (h : BlobOnWire (s ++ [0]) bytes) (tail : List UInt8) :
    readString (bytes ++ tail) = some (s, tail) := by
  simp [readString, readBlob_of_onWire h]

theorem decodeArg_of_onWire (h : ArgOnWire spec a bytes) (tail : List UInt8) :
    decodeArg spec (bytes ++ tail) = some (a, tail) := by
  obtain ⟨type, interface⟩ := spec
  obtain ⟨hm, hw⟩ := h
  rw [← hm]
  cases type with
  | int | fixed | uint | object =>
    obtain rfl := hw
    simp [decodeArg, ArgSpec.restrict, readU32_putU32]
  | string => simp [decodeArg, ArgSpec.restrict, readString_of_onWire hw]
  | array => simp [decodeArg, ArgSpec.restrict, readBlob_of_onWire hw]
  | fd =>
    obtain ⟨hfd, rfl⟩ := hw
    simp [decodeArg, ArgSpec.restrict, hfd]
  | newId =>
    cases interface with
    | some i =>
      obtain rfl := hw
      simp [decodeArg, ArgSpec.restrict, readU32_putU32]
    | none =>
      obtain ⟨blob, hb, rfl⟩ := hw
      simp [decodeArg, ArgSpec.restrict, readString_of_onWire hb, readU32_putU32]

theorem decodeArgs_of_onWire (h : OnWire specs args bytes) (tail : List UInt8) :
    decodeArgs specs (bytes ++ tail) = some (args, tail) := by
  induction h with
  | nil => rfl
  | cons ha _ ih => simp [decodeArgs, decodeArg_of_onWire ha, ih]

theorem decodeMessage_of_onWire (h : OnWire specs args bytes) : decodeMessage specs bytes = some args := by
  have hd := decodeArgs_of_onWire h []
  rw [List.append_nil] at hd
  simp [decodeMessage, hd]

/-! Whatever the decoder accepts is the wire form of what it returns. -/

theorem readU32_eq_some (h : readU32 data = some (v, tail)) : data = putU32 v ++ tail := by
  unfold readU32 at h
  split at h
  · cases h
  · next hlen =>
    simp only [Option.some.injEq, Prod.mk.injEq] at h
    obtain ⟨rfl, rfl⟩ := h
    have h4 : (data.take 4).length = 4 := by
      rw [List.length_take]
      omega
    have hlt := ofLE_lt (data.take 4)
    rw [h4] at hlt
    have hback := toLE_ofLE (data.take 4)
    rw [h4] at hback
    rw [putU32, UInt32.toNat_ofNat_of_lt' hlt, hback, List.take_append_drop]

theorem blobOnWire_of_readBlob (h : readBlob data = some (content, tail)) (hsize : data.length < 2 ^ 32) :
    ∃ bytes, data = bytes ++ tail ∧ BlobOnWire content bytes := by
  obtain ⟨⟨v, rest⟩, hv, hcut⟩ := Option.bind_eq_some_iff.1 h
  obtain rfl := readU32_eq_some hv
  split at hcut
  · cases hcut
  split at hcut
  · cases hcut
  next hc hp =>
  simp only [Option.some.injEq, Prod.mk.injEq] at hcut hc hp
  obtain ⟨rfl, rfl⟩ := hcut
  have hlen : (rest.take v.toNat).length = v.toNat := by
    rw [List.length_take]
    omega
  have hv4 : v.toNat + 4 < 2 ^ 32 := by
    simp only [List.length_append, length_putU32] at hsize
    omega
  have hpad : paddedLength v = (v.toNat + 3) / 4 * 4 := by
    rw [← paddedLength_ofNat hv4, UInt32.ofNat_toNat]
  have hmid : v.toNat ≤ paddedLength v := by omega
  refine ⟨putU32 v ++ rest.take v.toNat ++ (rest.drop v.toNat).take (paddedLength v - v.toNat), ?_, ?_⟩
  · have hsplit : rest.take v.toNat ++ (rest.drop v.toNat).take (paddedLength v - v.toNat) =
        rest.take (paddedLength v) := by
      rw [← List.take_add, Nat.add_sub_cancel' hmid]
    rw [List.append_assoc, List.append_assoc, ← List.append_assoc (rest.take _), hsplit,
      List.take_append_drop]
  · have hv' : putU32 v = putU32 (UInt32.ofNat (rest.take v.toNat).length) := by
      rw [hlen, UInt32.ofNat_toNat]
    rw [hv']
    refine .mk (by omega) ?_
    rw [hlen, List.length_take, List.length_drop, blobSize]
    omega

theorem readString_eq_some {s : Name} (h : readString data = some (s, tail)) (hsize : data.length < 2 ^ 32) :
    ∃ bytes, data = bytes ++ tail ∧ BlobOnWire (s ++ [0]) bytes := by
  unfold readString at h
  obtain ⟨⟨blob, rest⟩, hb, h⟩ := Option.bind_eq_some_iff.1 h
  split at h
  · next hnul =>
    simp only [Option.some.injEq, Prod.mk.injEq] at h
    obtain ⟨rfl, rfl⟩ := h
    rw [List.dropLast_append_getLast? 0 hnul]
    exact blobOnWire_of_readBlob hb hsize
  · cases h

theorem onWire_of_decodeArg (h : decodeArg spec data = some (a, tail)) (hsize : data.length < 2 ^ 32) :
    ∃ bytes, data = bytes ++ tail ∧ ArgOnWire spec a bytes := by
  obtain ⟨type, interface⟩ := spec
  cases type with
  | int | fixed =>
    simp only [decodeArg, Option.map_eq_some_iff, Prod.exists, Prod.mk.injEq] at h
    obtain ⟨v, rest, hv, rfl, rfl⟩ := h
    exact ⟨_, readU32_eq_some hv, rfl, by simp⟩
  | uint | object =>
    simp only [decodeArg, Option.map_eq_some_iff, Prod.exists, Prod.mk.injEq] at h
    obtain ⟨v, rest, hv, rfl, rfl⟩ := h
    exact ⟨_, readU32_eq_some hv, rfl, rfl⟩
  | string =>
    simp only [decodeArg, Option.map_eq_some_iff, Prod.exists, Prod.mk.injEq] at h
    obtain ⟨s, rest, hs, rfl, rfl⟩ := h
    obtain ⟨bytes, rfl, hb⟩ := readString_eq_some hs hsize
    exact ⟨bytes, rfl, rfl, hb⟩
  | array =>
    simp only [decodeArg, Option.map_eq_some_iff, Prod.exists, Prod.mk.injEq] at h
    obtain ⟨s, rest, hs, rfl, rfl⟩ := h
    obtain ⟨bytes, rfl, hb⟩ := blobOnWire_of_readBlob hs hsize
    exact ⟨bytes, rfl, rfl, hb⟩
  | fd =>
    simp only [decodeArg, Option.some.injEq, Prod.mk.injEq] at h
    obtain ⟨rfl, rfl⟩ := h
    exact ⟨[], rfl, rfl, rfl, rfl⟩
  | newId =>
    cases interface with
    | some i =>
      simp only [decodeArg, Option.map_eq_some_iff, Prod.exists, Prod.mk.injEq] at h
      obtain ⟨v, rest, hv, rfl, rfl⟩ := h
      exact ⟨_, readU32_eq_some hv, rfl, rfl⟩
    | none =>
      simp only [decodeArg, Option.bind_eq_some_iff, Option.map_eq_some_iff, Prod.exists,
        Prod.mk.injEq] at h
      obtain ⟨s, rest, hs, v, rest', hv, u, rest'', hu, rfl, rfl⟩ := h
      obtain ⟨bytes, rfl, hb⟩ := readString_eq_some hs hsize
      obtain rfl := readU32_eq_some hv
      obtain rfl := readU32_eq_some hu
      exact ⟨_, by simp [List.append_assoc], rfl, bytes, hb, rfl⟩

theorem onWire_of_decodeArgs (h : decodeArgs specs data = some (args, tail)) (hsize : data.length < 2 ^ 32) :
    ∃ bytes, data = bytes ++ tail ∧ OnWire specs args bytes := by
  induction specs generalizing data args with
  | nil =>
    simp only [decodeArgs, Option.some.injEq, Prod.mk.injEq] at h
    obtain ⟨rfl, rfl⟩ := h
    exact ⟨[], rfl, .nil⟩
  | cons spec specs ih =>
    simp only [decodeArgs, Option.bind_eq_some_iff, Option.map_eq_some_iff, Prod.exists, Prod.mk.injEq] at h
    obtain ⟨a, rest, ha, args', tail', has, rfl, rfl⟩ := h
    obtain ⟨bytes, rfl, hb⟩ := onWire_of_decodeArg ha hsize
    have hrest : rest.length < 2 ^ 32 := by
      rw [List.length_append] at hsize
      omega
    obtain ⟨bytes', rfl, hbs⟩ := ih has hrest
    exact ⟨_, (List.append_assoc _ _ _).symm, .cons hb hbs⟩

/-- The decoder accepts exactly the wire forms, and returns what they carry. -/
theorem decodeMessage_eq_some_iff {payload : List UInt8} (hsize : payload.length < 2 ^ 32) :
    decodeMessage specs payload = some args ↔ OnWire specs args payload := by
  refine ⟨fun h => ?_, decodeMessage_of_onWire⟩
  unfold decodeMessage at h
  obtain ⟨⟨args', tail⟩, hd, h⟩ := Option.bind_eq_some_iff.1 h
  split at h
  · next htail =>
    obtain rfl := Option.some.inj h
    obtain rfl : tail = [] := htail
    obtain ⟨bytes, rfl, hb⟩ := onWire_of_decodeArgs hd hsize
    simpa using hb
  · cases h

end

end VkRemote.Wayland
