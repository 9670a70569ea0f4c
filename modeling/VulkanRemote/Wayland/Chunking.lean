import VulkanRemote.Wayland.Frames

/-! The readers of both streams against the chunks in which a stream arrives. -/

namespace VkRemote.Wayland

open Lib

/-- The codes of `FrameResult`. -/
inductive FrameStatus
  | ok
  | needMoreData
  | malformed
  deriving DecidableEq

/-- A call of `take_link_frame` or `take_wire_message`: its code, and the buffer and the output after it. -/
def take {α : Type} (read : List UInt8 → FrameResult α) (buffer : List UInt8) (out : α) :
    FrameStatus × List UInt8 × α :=
  match read buffer with
  | .needMoreData => (.needMoreData, buffer, out)
  | .malformed => (.malformed, buffer, out)
  | .ok out rest => (.ok, rest, out)

/-- A frame that its reader does not refuse for its size. -/
def LinkFrame.WithinCaps (frame : LinkFrame) : Prop :=
  frame.wireBytes.length ≤ maxFrameBytes ∧ frame.fdBlobs.length ≤ 16 ∧
    ∀ b ∈ frame.fdBlobs, b.length ≤ maxFrameBytes

instance (frame : LinkFrame) : Decidable frame.WithinCaps := inferInstanceAs (Decidable (_ ∧ _ ∧ _))

/-! ### What is read has been taken off the buffer -/

section

variable {data rest : List UInt8}

theorem shrinks_getU32 {v : UInt32} (h : getU32 data = .ok v rest) : rest.length < data.length := by
  unfold getU32 at h
  cases hread : readU32 data with
  | none =>
    rw [hread] at h
    exact nomatch h
  | some r =>
    rw [hread] at h
    obtain ⟨rfl, rfl⟩ := Taken.ok.inj h
    rw [readU32_eq_some hread, List.length_append, length_putU32]
    omega

theorem le_takeExactly {n : ℕ} {out : List UInt8} (h : takeExactly n data = .ok out rest) :
    rest.length = data.length - n ∧ n ≤ data.length := by
  unfold takeExactly at h
  split at h
  · exact nomatch h
  · next hlen =>
    obtain ⟨-, rfl⟩ := Taken.ok.inj h
    exact ⟨List.length_drop, Nat.le_of_not_lt hlen⟩

theorem le_takeBytes {len : UInt32} {out : List UInt8} (h : takeBytes len data = .ok out rest) :
    rest.length ≤ data.length := by
  unfold takeBytes at h
  split at h
  · exact nomatch h
  · rw [(le_takeExactly h).1]
    exact Nat.sub_le _ _

theorem shrinks_takeSized {out : List UInt8} (h : takeSized data = .ok out rest) :
    rest.length < data.length := by
  obtain ⟨len, between, hlen, hbytes⟩ := Taken.bind_eq_ok h
  exact (le_takeBytes hbytes).trans_lt (shrinks_getU32 hlen)

theorem le_takeBlobs {n : ℕ} {blobs : List (List UInt8)} (h : takeBlobs n data = .ok blobs rest) :
    rest.length ≤ data.length := by
  induction n generalizing data blobs with
  | zero =>
    obtain ⟨-, rfl⟩ := Taken.ok.inj h
    exact le_rfl
  | succ n ih =>
    obtain ⟨blob, between, hblob, hothers⟩ := Taken.bind_eq_ok h
    obtain ⟨others, left, hrest, hdone⟩ := Taken.bind_eq_ok hothers
    obtain ⟨-, rfl⟩ := Taken.ok.inj hdone
    exact (ih hrest).trans (shrinks_takeSized hblob).le

theorem le_takeFds {fdCount : UInt32} {blobs : List (List UInt8)} (h : takeFds fdCount data = .ok blobs rest) :
    rest.length ≤ data.length := by
  unfold takeFds at h
  split at h
  · exact nomatch h
  · exact le_takeBlobs h

theorem shrinks_takeLinkFrame {frame : LinkFrame} (h : takeLinkFrame data = .ok frame rest) :
    rest.length < data.length := by
  obtain ⟨wireBytes, rest₁, hwire, h⟩ := Taken.bind_eq_ok h
  obtain ⟨fdCount, rest₂, hcount, h⟩ := Taken.bind_eq_ok h
  obtain ⟨fdBlobs, rest₃, hblobs, h⟩ := Taken.bind_eq_ok h
  obtain ⟨-, rfl⟩ := Taken.ok.inj h
  calc
    rest₃.length ≤ rest₂.length := le_takeFds hblobs
    _ < rest₁.length := shrinks_getU32 hcount
    _ < data.length := shrinks_takeSized hwire

theorem shrinks_takeWireMessage {message : List UInt8} (h : takeWireMessage data = .ok message rest) :
    rest.length < data.length := by
  unfold takeWireMessage at h
  split at h
  · exact nomatch h
  · split at h
    · exact nomatch h
    · next hlen hsize =>
      obtain ⟨hrest, hle⟩ := le_takeExactly h
      push Not at hsize
      omega

end

/-- `take_link_frame` on its buffer. -/
def linkFrameReader : FrameReader UInt8 LinkFrame where
  read := takeLinkFrame
  incremental := incremental_takeLinkFrame
  shrinks _ _ _ := shrinks_takeLinkFrame

/-- `take_wire_message` on its buffer. -/
def wireMessageReader : FrameReader UInt8 (List UInt8) where
  read := takeWireMessage
  incremental := incremental_takeWireMessage
  shrinks _ _ _ := shrinks_takeWireMessage

/-! ### What is within the caps is read as it was written -/

section

variable {bytes : List UInt8} {blobs : List (List UInt8)} {frame : LinkFrame}

theorem takeSized_of_le (h : bytes.length ≤ maxFrameBytes) (rest : List UInt8) :
    takeSized (putSized bytes ++ rest) = .ok bytes rest := by
  have hword : bytes.length < 2 ^ 32 := h.trans_lt (by decide)
  have hlen : (UInt32.ofNat bytes.length).toNat = bytes.length := UInt32.toNat_ofNat_of_lt' hword
  rw [takeSized, putSized, List.append_assoc, getU32_putU32, Taken.bind_ok, takeBytes, hlen, if_neg (not_lt.2 h)]
  exact takeExactly_append rfl rest

theorem takeBlobs_of_le (h : ∀ b ∈ blobs, b.length ≤ maxFrameBytes) (rest : List UInt8) :
    takeBlobs blobs.length (blobs.flatMap putSized ++ rest) = .ok blobs rest := by
  induction blobs with
  | nil => rfl
  | cons b blobs ih =>
    have hothers := ih fun b hb => h b (List.mem_cons_of_mem _ hb)
    rw [List.flatMap_cons, List.append_assoc, List.length_cons, takeBlobs,
      takeSized_of_le (h b List.mem_cons_self), Taken.bind_ok, hothers]
    rfl

theorem exact_writeLinkFrame (h : frame.WithinCaps) : linkFrameReader.Exact writeLinkFrame frame := by
  intro rest
  obtain ⟨hwire, hcount, hblobs⟩ := h
  have hword : frame.fdBlobs.length < 2 ^ 32 := hcount.trans_lt (by decide)
  change takeLinkFrame _ = _
  rw [writeLinkFrame, takeLinkFrame, List.append_assoc, List.append_assoc, takeSized_of_le hwire, Taken.bind_ok,
    getU32_putU32, Taken.bind_ok, takeFds, UInt32.toNat_ofNat_of_lt' hword, if_neg (not_lt.2 hcount),
    takeBlobs_of_le hblobs]
  rfl

theorem exact_message {message : List UInt8} (h : WholeMessage message) :
    wireMessageReader.Exact id message := by
  intro rest
  obtain ⟨hlen, hsize⟩ := h
  have hsmall : (sizeField message).toNat < 2 ^ 16 := (sizeField message).toNat_lt
  have hmax : maxFrameBytes = 16777216 := rfl
  have hlong : ¬ (message ++ rest).length < 8 := by
    rw [List.length_append]
    omega
  change takeWireMessage _ = _
  rw [id_eq, takeWireMessage, if_neg hlong, header2Field_append hlen, ← toNat_sizeField, hsize,
    if_neg (by omega)]
  exact takeExactly_append rfl rest

end

/-! ### One call after the other

Both halves call their reader in a loop, with a fresh output each time, until a call does not return `ok`. -/

/-- What such a loop gets out of its buffer, the code of the last call, and the buffer after it. -/
structure Calls (α : Type) where
  values : List α := []
  status : FrameStatus
  buffer : List UInt8
  deriving DecidableEq

section

variable {α : Type} {read : List UInt8 → FrameResult α} {buffer rest : List UInt8} {out a : α}

theorem read_of_ok (h : take read buffer out = (.ok, rest, a)) : read buffer = .ok a rest := by
  unfold take at h
  cases hread : read buffer with
  | needMoreData => simp [hread] at h
  | malformed => simp [hread] at h
  | ok b left =>
    obtain ⟨rfl, rfl⟩ : left = rest ∧ b = a := by simpa [hread] using h
    rfl

theorem read_of_malformed (h : (take read buffer out).1 = .malformed) : read buffer = .malformed := by
  unfold take at h
  cases hread : read buffer with
  | needMoreData => simp [hread] at h
  | malformed => rfl
  | ok a rest => simp [hread] at h

end

section

variable {α : Type} (r : FrameReader UInt8 α) (fresh : α)

def takes (buffer : List UInt8) : Calls α :=
  match _h : take r.read buffer fresh with
  | (.ok, rest, out) => { takes rest with values := out :: (takes rest).values }
  | (status, rest, _) => { status, buffer := rest }
termination_by buffer.length
decreasing_by all_goals exact r.shrinks buffer out rest (read_of_ok _h)

/-- Such a loop after every chunk; a malformed stream is not read on. -/
def receives : List UInt8 → List (List UInt8) → Calls α
  | buffer, [] => { status := .needMoreData, buffer }
  | buffer, chunk :: chunks =>
    let c := takes r fresh (buffer ++ chunk)
    if c.status = .malformed then c
    else
      let later := receives c.buffer chunks
      { later with values := c.values ++ later.values }

end

/-- What a reader owes to a stream, however it is cut: every value in order and an empty buffer, nothing
touched while it waits, and no giving up on what such a stream begins with. -/
structure ChunkIndependent {α : Type} (r : FrameReader UInt8 α) (write : α → List UInt8) (P : α → Prop) :
    Prop where
  yields : ∀ (fresh : α) (xs : List α) (chunks : List (List UInt8)), (∀ x ∈ xs, P x) →
    chunks.flatten = xs.flatMap write →
    receives r fresh [] chunks = { values := xs, status := .needMoreData, buffer := [] }
  untouched : ∀ buffer out, (take r.read buffer out).1 = .needMoreData → (take r.read buffer out).2 = (buffer, out)
  begins : ∀ buffer out, (take r.read buffer out).1 = .malformed →
    ∀ xs : List α, (∀ x ∈ xs, P x) → ¬ buffer <+: xs.flatMap write

section

variable {α : Type} {r : FrameReader UInt8 α} {write : α → List UInt8} {P : α → Prop}

/-- What the drained buffer says in codes. -/
def Calls.ofDrained (d : Drained UInt8 α) : Calls α where
  values := d.values
  status := if d.malformed then .malformed else .needMoreData
  buffer := d.rest

theorem takes_eq (fresh : α) (buffer : List UInt8) :
    takes r fresh buffer = Calls.ofDrained (r.drain buffer) := by
  induction hlen : buffer.length using Nat.strong_induction_on generalizing buffer with
  | _ n ih =>
    rw [takes]
    cases hread : r.read buffer with
    | needMoreData =>
      have htake : take r.read buffer fresh = (.needMoreData, buffer, fresh) := by rw [take, hread]
      rw [FrameReader.drain_needMoreData hread]
      split
      · next h => cases htake.symm.trans h
      · next h =>
        cases htake.symm.trans h
        rfl
    | malformed =>
      have htake : take r.read buffer fresh = (.malformed, buffer, fresh) := by rw [take, hread]
      rw [FrameReader.drain_malformed hread]
      split
      · next h => cases htake.symm.trans h
      · next h =>
        cases htake.symm.trans h
        rfl
    | ok a rest =>
      have htake : take r.read buffer fresh = (.ok, rest, a) := by rw [take, hread]
      rw [FrameReader.drain_ok hread]
      split
      · next h =>
        cases htake.symm.trans h
        rw [ih rest.length (hlen ▸ r.shrinks _ _ _ hread) rest rfl]
        rfl
      · next hno h =>
        cases htake.symm.trans h
        exact absurd rfl hno

theorem receives_eq (fresh : α) (buffer : List UInt8) (chunks : List (List UInt8)) :
    receives r fresh buffer chunks = Calls.ofDrained (r.receive buffer chunks) := by
  induction chunks generalizing buffer with
  | nil => rfl
  | cons chunk chunks ih =>
    rw [receives, FrameReader.receive, takes_eq]
    dsimp only
    by_cases hbad : (r.drain (buffer ++ chunk)).malformed = true
    · rw [if_pos hbad, if_pos (by rw [Calls.ofDrained, if_pos hbad])]
    · rw [if_neg hbad, if_neg (by rw [Calls.ofDrained, if_neg hbad]; simp), ih]
      rfl

theorem chunkIndependent_of_exact (hnil : r.read [] = .needMoreData) (h : ∀ x, P x → r.Exact write x) :
    ChunkIndependent r write P where
  yields fresh xs chunks hxs hstream := by
    rw [receives_eq, FrameReader.receive_stream hnil (fun x hx => h x (hxs x hx)) hnil hstream]
    rfl
  untouched buffer out hwait := by
    unfold take at hwait ⊢
    cases hread : r.read buffer with
    | needMoreData => rfl
    | malformed => simp [hread] at hwait
    | ok a rest => simp [hread] at hwait
  begins buffer out hbad xs hxs hprefix :=
    FrameReader.not_malformed_of_prefix hnil (fun x hx => h x (hxs x hx)) hprefix (read_of_malformed hbad)

end

/-- The frames of the link and the messages of the application. -/
theorem framing_independent_of_chunks :
    ChunkIndependent linkFrameReader writeLinkFrame LinkFrame.WithinCaps ∧
      ChunkIndependent wireMessageReader id WholeMessage :=
  ⟨chunkIndependent_of_exact rfl fun _ => exact_writeLinkFrame,
   chunkIndependent_of_exact rfl fun _ => exact_message⟩

end VkRemote.Wayland
