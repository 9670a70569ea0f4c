import VulkanRemote.Wire.Codec
import VulkanRemote.Wire.Message

/-! What `recv_message` takes of what was sent: everything up to the cap, and nothing else. -/

namespace VkRemote.Wire

/-- The commands whose requests or replies carry data of any size. -/
inductive DataCommand
  | flushMappedMemory
  | downloadMappedMemory
  | createShaderModule
  | createPipelineCache
  | getQueryPoolResults
  | getPipelineCacheData
  deriving DecidableEq

/-- A message as its sender hands it to `send_message`; the id of the request comes with the round trip. -/
structure Frame where
  command : DataCommand
  payload : List UInt8
  deriving DecidableEq

/-- However it arrives and whatever follows, `recv_message` returns the message. -/
def Message.Accepted (m : Message) : Prop :=
  ∀ as tail, content as = m.bytes ++ tail → ∃ rest, recvMessage as = some (m, rest) ∧ content rest = tail

theorem length_le_of_readAll {size : ℕ} {as rest : List Arrival} {got : List UInt8}
    (h : readAll size as = some (got, rest)) : got.length ≤ size := by
  by_cases hle : size ≤ (content as).length
  · obtain ⟨rest', hread, -⟩ := readAll_of_le hle
    obtain ⟨rfl, -⟩ := Prod.mk.inj (Option.some.inj (h.symm.trans hread))
    exact List.length_take_le _ _
  · rw [readAll_of_lt (not_le.1 hle)] at h
    exact nomatch h

/-- The receiver takes no payload over the cap. -/
theorem length_le_of_recvMessage {as rest : List Arrival} {m : Message}
    (h : recvMessage as = some (m, rest)) : m.payload.length ≤ kMaxPayload := by
  simp only [recvMessage, Option.bind_eq_bind, Option.bind_eq_some_iff] at h
  obtain ⟨⟨head, as₁⟩, -, h⟩ := h
  dsimp only at h
  split at h
  · cases h
  · next hcap =>
    obtain ⟨⟨payload, as₂⟩, hpayload, h⟩ := Option.bind_eq_some_iff.1 h
    obtain ⟨rfl, -⟩ := Prod.mk.inj (Option.some.inj h)
    exact (length_le_of_readAll hpayload).trans (not_lt.1 hcap)

theorem Message.accepted_iff (m : Message) : m.Accepted ↔ m.payload.length ≤ kMaxPayload := by
  constructor
  · intro h
    have hcontent : content (pushBack m.bytes []) = m.bytes ++ [] := content_pushBack _ _
    obtain ⟨rest, hrecv, -⟩ := h _ _ hcontent
    exact length_le_of_recvMessage hrecv
  · exact fun h as tail has => recvMessage_bytes h has

namespace Frame

/-- The frame is accepted under every opcode's number and every request id. -/
def Accepted (f : Frame) : Prop := ∀ opcode requestId, (Message.mk opcode requestId f.payload).Accepted

theorem accepted_iff (f : Frame) : f.Accepted ↔ f.payload.length ≤ kMaxPayload := by
  simp only [Accepted, Message.accepted_iff, forall_const]

end Frame
end VkRemote.Wire
