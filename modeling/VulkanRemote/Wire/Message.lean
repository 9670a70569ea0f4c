import VulkanRemote.Lib.LittleEndian

/-! One message of the protocol: a header of sixteen bytes and a payload. `recv_message` reads both with
`read_all`, which takes whatever the socket hands over until it has what it asked for. -/

namespace VkRemote.Wire

open Lib

structure Message where
  opcode : UInt32
  requestId : UInt64
  payload : List UInt8
  deriving DecidableEq

def kMaxPayload : ℕ := 64 * 1024 * 1024

/-- `sizeof(MessageHeader)`. -/
def headerSize : ℕ := 16

namespace Message

/-- `MessageHeader`; the size of the payload is cut to 32 bits. -/
def header (m : Message) : List UInt8 :=
  toLE 4 m.opcode.toNat ++ toLE 4 m.payload.length ++ toLE 8 m.requestId.toNat

def bytes (m : Message) : List UInt8 := m.header ++ m.payload

@[simp] theorem length_header (m : Message) : m.header.length = headerSize := by
  simp [header, headerSize]

theorem length_bytes (m : Message) : m.bytes.length = headerSize + m.payload.length := by
  rw [bytes, List.length_append, length_header]

end Message

/-- What the next `recv` finds: bytes, at least one, or a signal that interrupts it. -/
inductive Arrival
  | data (b : UInt8) (bs : List UInt8)
  | interrupted
  deriving DecidableEq

namespace Arrival

def bytes : Arrival → List UInt8
  | data b bs => b :: bs
  | interrupted => []

end Arrival

/-- The bytes that are on their way, however they are cut. -/
def content (as : List Arrival) : List UInt8 := as.flatMap Arrival.bytes

def pushBack : List UInt8 → List Arrival → List Arrival
  | [], as => as
  | b :: bs, as => .data b bs :: as

/-- `read_all`; where nothing arrives any more the peer has closed the connection. -/
def readAll : ℕ → List Arrival → Option (List UInt8 × List Arrival)
  | 0, as => some ([], as)
  | _ + 1, [] => none
  | size + 1, .interrupted :: as => readAll (size + 1) as
  | size + 1, .data b bs :: as =>
    if bs.length ≤ size then
      (readAll (size - bs.length) as).map fun (got, rest) => (b :: bs ++ got, rest)
    else some (b :: bs.take size, pushBack (bs.drop size) as)

/-- The fields of a header that was read. -/
def headerOpcode (h : List UInt8) : UInt32 := UInt32.ofNat (ofLE (h.take 4))

def headerSizeField (h : List UInt8) : ℕ := ofLE ((h.drop 4).take 4)

def headerRequestId (h : List UInt8) : UInt64 := UInt64.ofNat (ofLE (h.drop 8))

def recvMessage (as : List Arrival) : Option (Message × List Arrival) := do
  let (h, as) ← readAll headerSize as
  if kMaxPayload < headerSizeField h then none
  else do
    let (payload, as) ← readAll (headerSizeField h) as
    return ({ opcode := headerOpcode h, requestId := headerRequestId h, payload := payload }, as)

@[simp] theorem content_pushBack (bs : List UInt8) (as : List Arrival) :
    content (pushBack bs as) = bs ++ content as := by
  cases bs <;> rfl

/-- What `read_all` returns does not depend on how the bytes arrive. -/
theorem readAll_spec (size : ℕ) (as : List Arrival) :
    if size ≤ (content as).length then
      ∃ rest, readAll size as = some ((content as).take size, rest) ∧
        content rest = (content as).drop size
    else readAll size as = none := by
  induction as generalizing size with
  | nil =>
    cases size with
    | zero => simp [readAll, content]
    | succ size => simp [readAll, content]
  | cons a as ih =>
    cases size with
    | zero => simp [readAll]
    | succ size =>
      cases a with
      | interrupted => exact ih (size + 1)
      | data b bs =>
        have hcontent : content (.data b bs :: as) = b :: (bs ++ content as) := rfl
        rw [hcontent, readAll]
        by_cases hle : bs.length ≤ size
        · have hrest := ih (size - bs.length)
          simp only [hle, if_true, List.length_cons, List.length_append, List.take_succ_cons,
            List.drop_succ_cons, List.take_append, List.drop_append, List.take_of_length_le hle,
            List.drop_of_length_le hle, List.nil_append]
          split at hrest
          · obtain ⟨rest, hread, hcut⟩ := hrest
            rw [if_pos (by omega), hread]
            exact ⟨rest, rfl, hcut⟩
          · rw [if_neg (by omega), hrest]
            rfl
        · have hlt : size < bs.length := by omega
          simp only [hle, if_false, List.length_cons, List.length_append, List.take_succ_cons,
            List.drop_succ_cons, List.take_append_of_le_length hlt.le,
            List.drop_append_of_le_length hlt.le]
          rw [if_pos (by omega)]
          exact ⟨_, rfl, content_pushBack _ _⟩

theorem readAll_of_le {size : ℕ} {as : List Arrival} (h : size ≤ (content as).length) :
    ∃ rest, readAll size as = some ((content as).take size, rest) ∧
      content rest = (content as).drop size := by
  have hspec := readAll_spec size as
  rwa [if_pos h] at hspec

theorem readAll_of_lt {size : ℕ} {as : List Arrival} (h : (content as).length < size) :
    readAll size as = none := by
  have hspec := readAll_spec size as
  rwa [if_neg (by omega)] at hspec

/-! ### A message that was sent -/

section

variable {m : Message} {as : List Arrival} {tail : List UInt8}

theorem headerOpcode_header (m : Message) : headerOpcode m.header = m.opcode := by
  have htake : m.header.take 4 = toLE 4 m.opcode.toNat := by
    rw [Message.header, List.append_assoc, List.take_left' (length_toLE 4 _)]
  rw [headerOpcode, htake, ofLE_toLE m.opcode.toNat_lt, UInt32.ofNat_toNat]

theorem headerSizeField_header (h : m.payload.length < 2 ^ 32) :
    headerSizeField m.header = m.payload.length := by
  have htake : (m.header.drop 4).take 4 = toLE 4 m.payload.length := by
    rw [Message.header, List.append_assoc, List.drop_left' (length_toLE 4 _),
      List.take_left' (length_toLE 4 _)]
  rw [headerSizeField, htake, ofLE_toLE h]

theorem headerRequestId_header (m : Message) : headerRequestId m.header = m.requestId := by
  have hdrop : m.header.drop 8 = toLE 8 m.requestId.toNat := by
    rw [Message.header]
    exact List.drop_left' (by simp)
  rw [headerRequestId, hdrop, ofLE_toLE m.requestId.toNat_lt, UInt64.ofNat_toNat]

/-- A message with a payload up to the cap is received as it was sent, in whatever pieces it comes. -/
theorem recvMessage_bytes (hm : m.payload.length ≤ kMaxPayload) (h : content as = m.bytes ++ tail) :
    ∃ rest, recvMessage as = some (m, rest) ∧ content rest = tail := by
  have hsize : m.payload.length < 2 ^ 32 := hm.trans_lt (by decide)
  have hlen : (content as).length = headerSize + m.payload.length + tail.length := by
    rw [h, List.length_append, Message.length_bytes]
  have hhead : headerSize ≤ (content as).length := by omega
  obtain ⟨rest, hread, hrest⟩ := readAll_of_le hhead
  rw [h, Message.bytes, List.append_assoc, List.take_left' m.length_header] at hread
  rw [h, Message.bytes, List.append_assoc, List.drop_left' m.length_header] at hrest
  have hpayload : m.payload.length ≤ (content rest).length := by
    rw [hrest, List.length_append]
    omega
  obtain ⟨rest', hread', hrest'⟩ := readAll_of_le hpayload
  rw [hrest, List.take_left' rfl] at hread'
  rw [hrest, List.drop_left' rfl] at hrest'
  refine ⟨rest', ?_, hrest'⟩
  simp only [recvMessage, hread, Option.bind_eq_bind, Option.bind_some, headerSizeField_header hsize,
    not_lt.2 hm, if_false, hread', headerOpcode_header, headerRequestId_header]
  rfl

/-- A larger one is refused as soon as its header is read. -/
theorem recvMessage_too_large (hm : kMaxPayload < m.payload.length) (hsize : m.payload.length < 2 ^ 32)
    (h : content as = m.bytes ++ tail) : recvMessage as = none := by
  have hlen : (content as).length = headerSize + m.payload.length + tail.length := by
    rw [h, List.length_append, Message.length_bytes]
  have hhead : headerSize ≤ (content as).length := by omega
  obtain ⟨rest, hread, -⟩ := readAll_of_le hhead
  rw [h, Message.bytes, List.append_assoc, List.take_left' m.length_header] at hread
  simp only [recvMessage, hread, Option.bind_eq_bind, Option.bind_some, headerSizeField_header hsize, hm,
    if_true]

/-- The rest of a message never comes. -/
theorem recvMessage_cut (hsize : m.payload.length < 2 ^ 32) (hpre : content as <+: m.bytes)
    (hne : content as ≠ m.bytes) : recvMessage as = none := by
  obtain ⟨rest, hrest⟩ := hpre
  have hshort : (content as).length < headerSize + m.payload.length := by
    have hlen := congrArg List.length hrest
    rw [List.length_append, Message.length_bytes] at hlen
    have hpos : 0 < rest.length := by
      rcases rest with - | ⟨b, rest⟩
      · exact absurd (by simpa using hrest) hne
      · exact Nat.succ_pos _
    omega
  by_cases hhead : headerSize ≤ (content as).length
  · obtain ⟨rest', hread, hrest'⟩ := readAll_of_le hhead
    have htake : (content as).take headerSize = m.header := by
      have hpart : (content as ++ rest).take headerSize = (content as).take headerSize :=
        List.take_append_of_le_length hhead
      rw [← hpart, hrest, Message.bytes, List.take_left' m.length_header]
    have hnone : readAll m.payload.length rest' = none := by
      refine readAll_of_lt ?_
      rw [hrest', List.length_drop]
      omega
    simp only [recvMessage, hread, Option.bind_eq_bind, Option.bind_some, htake,
      headerSizeField_header hsize, hnone, Option.bind_none, ite_self]
  · simp only [recvMessage, readAll_of_lt (not_le.1 hhead), Option.bind_eq_bind, Option.bind_none]

end

theorem recvMessage_shorter {as rest : List Arrival} {m : Message} (h : recvMessage as = some (m, rest)) :
    (content rest).length < (content as).length := by
  have hread : ∀ {size : ℕ} {as : List Arrival} {got : List UInt8} {rest : List Arrival},
      readAll size as = some (got, rest) → (content rest).length + size = (content as).length := by
    intro size as got rest hr
    by_cases hle : size ≤ (content as).length
    · obtain ⟨rest', hr', hcut⟩ := readAll_of_le hle
      obtain ⟨-, rfl⟩ := Prod.mk.inj (Option.some.inj (hr.symm.trans hr'))
      rw [hcut, List.length_drop]
      omega
    · rw [readAll_of_lt (not_le.1 hle)] at hr
      cases hr
  simp only [recvMessage, Option.bind_eq_bind, Option.bind_eq_some_iff] at h
  obtain ⟨⟨head, as₁⟩, hhead, h⟩ := h
  have h₁ := hread hhead
  dsimp only at h
  split at h
  · cases h
  · obtain ⟨⟨payload, as₂⟩, hpay, h⟩ := Option.bind_eq_some_iff.1 h
    obtain ⟨-, rfl⟩ := Prod.mk.inj (Option.some.inj h)
    have h₂ := hread hpay
    unfold headerSize at h₁
    dsimp only
    omega

/-- `recv_message` until it fails. -/
def receiveAll (as : List Arrival) : List Message :=
  match _h : recvMessage as with
  | none => []
  | some (m, rest) => m :: receiveAll rest
termination_by (content as).length
decreasing_by exact recvMessage_shorter _h

theorem receiveAll_of_none {as : List Arrival} (h : recvMessage as = none) : receiveAll as = [] := by
  rw [receiveAll]
  split
  · rfl
  · next hsome => rw [h] at hsome; cases hsome

theorem receiveAll_of_some {as rest : List Arrival} {m : Message}
    (h : recvMessage as = some (m, rest)) : receiveAll as = m :: receiveAll rest := by
  rw [receiveAll]
  split
  · next hnone => rw [h] at hnone; cases hnone
  · next hsome =>
    obtain ⟨rfl, rfl⟩ := Prod.mk.inj (Option.some.inj (h.symm.trans hsome))
    rfl

/-- Whole messages and at most a part of one more, in any pieces: what is received is the messages, up to
the first that is larger than the cap. -/
theorem receiveAll_stream {ms : List Message} {m : Message} {part : List UInt8} {as : List Arrival}
    (hsize : ∀ x ∈ m :: ms, x.payload.length < 2 ^ 32) (hpart : part <+: m.bytes) (hne : part ≠ m.bytes)
    (h : content as = ms.flatMap Message.bytes ++ part) :
    receiveAll as = ms.takeWhile fun x => x.payload.length ≤ kMaxPayload := by
  induction ms generalizing as with
  | nil =>
    rw [List.flatMap_nil, List.nil_append] at h
    exact receiveAll_of_none (recvMessage_cut (hsize m List.mem_cons_self) (h ▸ hpart) (h ▸ hne))
  | cons x ms ih =>
    rw [List.flatMap_cons, List.append_assoc] at h
    by_cases hx : x.payload.length ≤ kMaxPayload
    · obtain ⟨rest, hrecv, hrest⟩ := recvMessage_bytes hx h
      rw [receiveAll_of_some hrecv, List.takeWhile_cons_of_pos (by simpa using hx)]
      exact congrArg _ (ih (fun y hy => hsize y (by
        rcases List.mem_cons.1 hy with rfl | hy
        · simp
        · simp [hy])) hrest)
    · rw [List.takeWhile_cons_of_neg (by simpa using hx)]
      exact receiveAll_of_none (recvMessage_too_large (not_le.1 hx) (hsize x (by simp)) h)

end VkRemote.Wire
