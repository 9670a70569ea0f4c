import VulkanRemote.Lib.Incremental
import VulkanRemote.Wayland.Codec

/-! The frames on the link between the two halves, and the messages on the application's socket: how they are
written, and how a reader takes the first one off what has arrived so far. -/

namespace VkRemote.Wayland

open Lib

/-- One message and the contents of its descriptors. -/
structure LinkFrame where
  wireBytes : List UInt8
  fdBlobs : List (List UInt8) := []
  deriving DecidableEq

abbrev FrameResult (α : Type) := Taken UInt8 α

def maxFrameBytes : ℕ := 16 * 1024 * 1024

/-- Bytes behind their length. -/
def putSized (bytes : List UInt8) : List UInt8 := putU32 (UInt32.ofNat bytes.length) ++ bytes

def writeLinkFrame (frame : LinkFrame) : List UInt8 :=
  putSized frame.wireBytes ++ (putU32 (UInt32.ofNat frame.fdBlobs.length) ++ frame.fdBlobs.flatMap putSized)

def getU32 (data : List UInt8) : FrameResult UInt32 :=
  match readU32 data with
  | none => .needMoreData
  | some (v, rest) => .ok v rest

/-- `len` bytes, unless that is an absurd number. -/
def takeBytes (len : UInt32) (data : List UInt8) : FrameResult (List UInt8) :=
  if maxFrameBytes < len.toNat then .malformed else takeExactly len.toNat data

def takeSized (data : List UInt8) : FrameResult (List UInt8) := (getU32 data).bind takeBytes

def takeBlobs : ℕ → List UInt8 → FrameResult (List (List UInt8))
  | 0, data => .ok [] data
  | n + 1, data => (takeSized data).bind fun blob rest =>
      (takeBlobs n rest).bind fun blobs rest => .ok (blob :: blobs) rest

/-- Wayland messages take few descriptors. -/
def takeFds (fdCount : UInt32) (data : List UInt8) : FrameResult (List (List UInt8)) :=
  if 16 < fdCount.toNat then .malformed else takeBlobs fdCount.toNat data

def takeLinkFrame (buffer : List UInt8) : FrameResult LinkFrame :=
  (takeSized buffer).bind fun wireBytes rest => (getU32 rest).bind fun fdCount rest =>
    (takeFds fdCount rest).bind fun fdBlobs rest => .ok { wireBytes, fdBlobs } rest

def takeWireMessage (buffer : List UInt8) : FrameResult (List UInt8) :=
  if buffer.length < 8 then .needMoreData
  else if (header2Field buffer >>> 16).toNat < 8 ∨ maxFrameBytes < (header2Field buffer >>> 16).toNat then
    .malformed
  else takeExactly (header2Field buffer >>> 16).toNat buffer

/-! ### Both readers are incremental -/

theorem incremental_getU32 : Incremental getU32 := by
  intro data more h
  unfold getU32 at h ⊢
  rcases hr : readU32 data with _ | ⟨v, rest⟩
  · rw [hr] at h
    exact absurd rfl h
  · obtain rfl := readU32_eq_some hr
    rw [List.append_assoc, readU32_putU32]
    rfl

theorem incremental_takeBytes (len : UInt32) : Incremental (takeBytes len) :=
  incremental_malformed.ite (incremental_takeExactly _)

theorem incremental_takeSized : Incremental takeSized := incremental_getU32.bind incremental_takeBytes

theorem incremental_takeBlobs (n : ℕ) : Incremental (takeBlobs n) := by
  induction n with
  | zero => exact incremental_ok _
  | succ n ih => exact incremental_takeSized.bind fun _ => ih.bind fun _ => incremental_ok _

theorem incremental_takeFds (fdCount : UInt32) : Incremental (takeFds fdCount) :=
  incremental_malformed.ite (incremental_takeBlobs _)

theorem incremental_takeLinkFrame : Incremental takeLinkFrame :=
  incremental_takeSized.bind fun _ => incremental_getU32.bind fun _ =>
    (incremental_takeFds _).bind fun _ => incremental_ok _

theorem header2Field_append {data : List UInt8} (h : 8 ≤ data.length) (more : List UInt8) :
    header2Field (data ++ more) = header2Field data := by
  rw [header2Field, header2Field, List.drop_append_of_le_length (by omega),
    List.take_append_of_le_length (by rw [List.length_drop]; omega)]

theorem incremental_takeWireMessage : Incremental takeWireMessage := by
  intro data more h
  unfold takeWireMessage at h ⊢
  by_cases hlen : data.length < 8
  · rw [if_pos hlen] at h
    exact absurd rfl h
  · rw [if_neg hlen] at h ⊢
    rw [if_neg (by rw [List.length_append]; omega), header2Field_append (Nat.le_of_not_lt hlen)]
    split
    · rfl
    · next hsize =>
      rw [if_neg hsize] at h
      exact incremental_takeExactly _ data more h

/-! ### What they take is what was written -/

section

variable {bytes rest : List UInt8} {frame : LinkFrame}

/-- Everything in the frame has a length that 32 bits hold. -/
def LinkFrame.Sized (frame : LinkFrame) : Prop :=
  frame.wireBytes.length < 2 ^ 32 ∧ frame.fdBlobs.length < 2 ^ 32 ∧ ∀ b ∈ frame.fdBlobs, b.length < 2 ^ 32

theorem getU32_putU32 (v : UInt32) (rest : List UInt8) : getU32 (putU32 v ++ rest) = .ok v rest := by
  rw [getU32, readU32_putU32]

theorem takeSized_putSized (h : bytes.length < 2 ^ 32) (rest : List UInt8) :
    takeSized (putSized bytes ++ rest) = .ok bytes rest ∨ takeSized (putSized bytes ++ rest) = .malformed := by
  have hlen : (UInt32.ofNat bytes.length).toNat = bytes.length := UInt32.toNat_ofNat_of_lt' h
  rw [takeSized, putSized, List.append_assoc, getU32_putU32, Taken.bind_ok, takeBytes, hlen]
  by_cases hbig : maxFrameBytes < bytes.length
  · exact .inr (if_pos hbig)
  · rw [if_neg hbig]
    exact .inl (takeExactly_append rfl rest)

theorem takeBlobs_flatMap {blobs : List (List UInt8)} (h : ∀ b ∈ blobs, b.length < 2 ^ 32) (rest : List UInt8) :
    takeBlobs blobs.length (blobs.flatMap putSized ++ rest) = .ok blobs rest ∨
      takeBlobs blobs.length (blobs.flatMap putSized ++ rest) = .malformed := by
  induction blobs with
  | nil => exact .inl rfl
  | cons b blobs ih =>
    rw [List.flatMap_cons, List.append_assoc, List.length_cons, takeBlobs]
    rcases takeSized_putSized (h b List.mem_cons_self) (blobs.flatMap putSized ++ rest) with hb | hb
    · rw [hb, Taken.bind_ok]
      rcases ih fun b hb => h b (List.mem_cons_of_mem _ hb) with hbs | hbs
      · exact .inl (by rw [hbs]; rfl)
      · exact .inr (by rw [hbs]; rfl)
    · exact .inr (by rw [hb]; rfl)

theorem writeLinkFrame_ne_nil (frame : LinkFrame) : writeLinkFrame frame ≠ [] := by
  intro h
  have hlen := congrArg List.length h
  simp [writeLinkFrame, putSized] at hlen

/-- A frame whose lengths fit is read back, or refused for its size. -/
theorem reads_writeLinkFrame (h : frame.Sized) : Reads takeLinkFrame writeLinkFrame frame := by
  refine ⟨writeLinkFrame_ne_nil frame, fun rest => ?_⟩
  obtain ⟨hwire, hcount, hblobs⟩ := h
  rw [writeLinkFrame, takeLinkFrame, List.append_assoc, List.append_assoc]
  rcases takeSized_putSized hwire (putU32 (UInt32.ofNat frame.fdBlobs.length) ++
    (frame.fdBlobs.flatMap putSized ++ rest)) with hw | hw
  · rw [hw, Taken.bind_ok, getU32_putU32, Taken.bind_ok, takeFds, UInt32.toNat_ofNat_of_lt' hcount]
    by_cases hmany : 16 < frame.fdBlobs.length
    · exact .inr (by rw [if_pos hmany]; rfl)
    · rw [if_neg hmany]
      rcases takeBlobs_flatMap hblobs rest with hb | hb
      · exact .inl (by rw [hb]; rfl)
      · exact .inr (by rw [hb]; rfl)
  · exact .inr (by rw [hw]; rfl)

/-- A message as a Wayland library puts it on its socket: the size field says how long it is. -/
def WholeMessage (message : List UInt8) : Prop :=
  8 ≤ message.length ∧ (sizeField message).toNat = message.length

theorem toNat_sizeField (message : List UInt8) :
    (sizeField message).toNat = (header2Field message >>> 16).toNat := by
  have hlt : (header2Field message >>> 16).toNat < 2 ^ 16 := by
    have := (header2Field message).toNat_lt
    rw [UInt32.toNat_shiftRight, Nat.shiftRight_eq_div_pow]
    exact Nat.div_lt_of_lt_mul this
  rw [sizeField, UInt32.toNat_toUInt16, Nat.mod_eq_of_lt hlt]

theorem reads_message {message : List UInt8} (h : WholeMessage message) :
    Reads takeWireMessage id message := by
  obtain ⟨hlen, hsize⟩ := h
  refine ⟨fun h => ?_, fun rest => ?_⟩
  · obtain rfl : message = [] := h
    exact absurd hlen (by decide)
  have hsmall : (sizeField message).toNat < 2 ^ 16 := (sizeField message).toNat_lt
  have hmax : maxFrameBytes = 16777216 := rfl
  rw [id_eq, takeWireMessage, if_neg (by rw [List.length_append]; omega), header2Field_append hlen,
    ← toNat_sizeField, hsize, if_neg (by omega)]
  exact .inl (takeExactly_append rfl rest)

end

end VkRemote.Wayland
