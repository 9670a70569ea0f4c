import VulkanRemote.Marshal.Decoders
import VulkanRemote.Marshal.ReadBack

/-! Reading back the parts that structures are made of: raw copies, arrays of plain structures, strings, optional
structures, and counts that what is unread has to back. -/

namespace VkRemote.Marshal
open Lib Wire Decode

theorem exists_elements {α : Type} {n : ℕ} {p : Ptr (Elements α n)} (hp : p.Whole) (hn : n ≠ 0) :
    ∃ v : Elements α n, p.items = v.toList ∧ ∀ {β : Type} (f : α → β), p.received f = .arena (v.map f) := by
  have hreceived : ∀ {β : Type} (f : α → β), p.received f = p.contents (List.Vector.map f) := fun f => if_neg hn
  cases p with
  | null => cases hp.2 hn
  | host address v => exact ⟨v, rfl, hreceived⟩
  | arena v => exact ⟨v, rfl, hreceived⟩
  | wire bits => exact hp.1.elim

theorem length_items {α : Type} {n : ℕ} {p : Ptr (Elements α n)} (h : p.Whole) : p.items.length = n := by
  by_cases hn : n = 0
  · subst hn
    rw [Decode.Reads.items_of_empty]
    rfl
  · obtain ⟨v, hitems, -⟩ := exists_elements h hn
    rw [hitems, v.toList_length]

theorem validArray_of_whole {α : Type} {n : ℕ} {p : Ptr (Elements α n)} (h : p.Whole)
    (hcount : n ≤ kMaxArrayElements) : validArray p := ⟨hcount, h.2⟩

theorem whole_of_validArray {α : Type} {n : ℕ} {p : Ptr (Elements α n)} (h : validArray p) (hreal : p.Real) :
    p.Whole := ⟨hreal, h.2⟩

theorem Ptr.received_null {α β : Type} {n : ℕ} (f : α → β) :
    Ptr.received f (.null : Ptr (Elements α n)) = .null := by
  unfold Ptr.received
  split <;> rfl

theorem ofBytes_drop {n : ℕ} {bs : List (Blob n)} {i : ℕ} (hi : i < bs.length) :
    Blob.ofBytes n ((bs.flatMap Subtype.val).drop (i * n)) = bs[i] := by
  induction bs generalizing i with
  | nil => cases hi
  | cons b bs ih =>
    rw [List.flatMap_cons]
    cases i with
    | zero =>
      rw [Nat.zero_mul, List.drop_zero]
      exact Blob.ofBytes_append b _
    | succ j =>
      have hplace : (j + 1) * n = b.val.length + j * n := by
        rw [b.property]
        ring
      rw [hplace, List.drop_append, List.drop_of_length_le (Nat.le_add_right _ _), List.nil_append,
        Nat.add_sub_cancel_left]
      exact ih (Nat.lt_of_succ_lt_succ hi)

theorem podsOf_flatMap {n count : ℕ} (v : Elements (Blob n) count) :
    podsOf n count (v.toList.flatMap Subtype.val) = v := by
  obtain ⟨bs, rfl⟩ := v
  apply List.Vector.ext
  intro i
  rw [podsOf, List.Vector.get_ofFn]
  exact ofBytes_drop i.isLt

theorem length_flatMap_val {n : ℕ} (bs : List (Blob n)) : (bs.flatMap Subtype.val).length = bs.length * n := by
  induction bs with
  | nil => simp
  | cons b bs ih =>
    rw [List.flatMap_cons, List.length_append, ih, b.property, List.length_cons]
    ring

theorem le_length_flatMap {α : Type} {w : α → List UInt8} {k : ℕ} {as : List α} (h : ∀ a ∈ as, k ≤ (w a).length) :
    as.length * k ≤ (as.flatMap w).length := by
  induction as with
  | nil => simp
  | cons a as ih =>
    obtain ⟨ha, has⟩ := List.forall_mem_cons.1 h
    have hrest := ih has
    rw [List.flatMap_cons, List.length_append, List.length_cons, Nat.succ_mul]
    omega

namespace Decode.Reads

variable {α β : Type} {hr : Resolver} {bs cs : List UInt8} {a : α} {b : β}

theorem bytes {data : List UInt8} (h : data.length < 2 ^ 32) :
    Reads (Decode.bytes Reader.noBound) hr (Writer.bytes data) data := by
  intro s tail hs
  refine ⟨{ s with reader := ⟨tail, false⟩ }, ?_, rfl⟩
  unfold Decode.bytes
  rw [hs, Reader.bytes_writer tail h (by unfold Reader.noBound; omega)]

/-- A raw copy loses what is behind the pointers. -/
theorem raw [Raw α] (a : α) (hsize : Raw.sizeof α < 2 ^ 32) :
    Reads (readRaw α) hr (writeRaw a) (Raw.copied a) := by
  have hlength := Raw.length_image a
  rw [← Raw.ofImage_image]
  exact last (bytes (hlength.trans_lt hsize)) (skip (require hlength) pure)

theorem lookup (kind : HandleKind) (id : UInt64) : Reads (Decode.lookup kind id) hr [] (hr kind id) :=
  fun _ _ h => ⟨_, rfl, h⟩

/-- What is unread is at least what is about to be read. -/
theorem remaining {k : ℕ → Decode α} (h : ∀ left, bs.length ≤ left → Reads (k left) hr bs a) :
    Reads (Decode.remaining >>= k) hr bs a := by
  intro s tail hs
  have hleft : bs.length ≤ s.reader.remaining := by
    rw [hs, Reader.remaining, List.length_append]
    exact Nat.le_add_right _ _
  exact h _ hleft s tail hs

section

variable {n count : ℕ} {p : Ptr (Elements (Blob n) count)}

theorem podArray (hp : p.Whole) (hcount : count ≤ kMaxArrayElements) (hn : n ≤ 256) :
    Reads (readPodArray n count) hr (writePodArray p) (p.received id) := by
  have hlength : (p.items.flatMap Subtype.val).length = count * n := by rw [length_flatMap_val, length_items hp]
  have hbound : (p.items.flatMap Subtype.val).length < 2 ^ 32 := by
    rw [hlength]
    unfold kMaxArrayElements at hcount
    have hproduct := Nat.mul_le_mul hcount hn
    omega
  refine skip (require hcount) (last (bytes hbound) (skip (require hlength) ?_))
  by_cases hcount : count = 0
  · rw [if_pos hcount, Ptr.received, if_pos hcount]
    exact pure
  · obtain ⟨v, hitems, hreceived⟩ := exists_elements hp hcount
    rw [if_neg hcount, hreceived, List.Vector.map_id, hitems, podsOf_flatMap]
    exact skip (allocate count n) pure

/-- An array that may be left out. -/
theorem optPodArray (hp : p.Real) (hcount : count ≤ kMaxArrayElements) (hn : n ≤ 256) :
    Reads (readOptPodArray n count) hr (writeOptPodArray p) (p.received id) := by
  unfold writeOptPodArray
  by_cases hnull : p.isNull = true
  · obtain rfl := isNull_iff.1 hnull
    rw [Ptr.received_null]
    exact last u32 (skip requireOk (skip (require hcount) pure))
  · rw [if_neg hnull]
    have hwhole : p.Whole := ⟨hp, fun _ => Bool.not_eq_true _ ▸ hnull⟩
    exact bind u32 (skip requireOk (skip (require hcount) (podArray hwhole hcount hn)))

end

/-- A structure that may be left out; a raw copy of it is sent. -/
theorem optPod [Raw α] {p : Ptr α} (hp : p.Real) (hsize : Raw.sizeof α < 2 ^ 32) :
    Reads (readOptPod α) hr (writeOptPod p) (p.contents Raw.copied) := by
  have hpresent : ∀ a : α, Reads (readOptPod α) hr (Writer.u32 1 ++ writeRaw a) (.arena (Raw.copied a)) := by
    intro a
    have hlength := Raw.length_image a
    rw [← Raw.ofImage_image]
    exact bind u32 (skip requireOk (last (bytes (hlength.trans_lt hsize))
      (skip (require hlength) (skip (allocate 1 _) pure))))
  cases p with
  | null => exact last u32 (skip requireOk pure)
  | host address a => exact hpresent a
  | arena a => exact hpresent a
  | wire bits => exact hp.elim

/-- A structure that may be left out. -/
theorem present {p : Ptr α} {m : Decode β} {w : α → List UInt8} {f : α → β} (hp : p.Real)
    (h : ∀ a ∈ p.target, Reads m hr (w a) (f a)) (size : ℕ) :
    Reads (readPresent size m) hr (writePresent w p) (p.contents f) := by
  have hpresent : ∀ a, Reads m hr (w a) (f a) →
      Reads (readPresent size m) hr (Writer.u32 1 ++ w a) (.arena (f a)) := fun a ha =>
    bind u32 (skip requireOk (skip (allocate 1 size) (last ha pure)))
  cases p with
  | null => exact last u32 (skip requireOk pure)
  | host address a => exact hpresent a (h a rfl)
  | arena a => exact hpresent a (h a rfl)
  | wire bits => exact hp.elim

theorem string {s : List UInt8} (h : s.length < 2 ^ 32) : Reads readString hr (Writer.string s) (.arena s) :=
  last (bytes h) (skip (allocate _ 1) pure)

theorem stringArray {n : ℕ} {p : Ptr (Elements (Ptr (List UInt8)) n)} {f : Ptr (List UInt8) → Ptr (List UInt8)}
    (hp : p.Whole) (hcount : n ≤ kMaxArrayElements)
    (h : ∀ s ∈ p.items, Reads readString hr (Writer.string (s.target.getD [])) (f s)) :
    Reads (readStringArray n) hr (writeStringArray p) (p.received f) := by
  unfold readStringArray writeStringArray
  split
  · next hn =>
    subst hn
    rw [items_of_empty, Ptr.received, if_pos rfl]
    exact pure
  · exact skip (require hcount) (array hp h 8)

theorem bytesToArena {size : ℕ} {p : Ptr (Elements UInt8 size)} (hp : p.Whole) (hsize : size < 2 ^ 32) :
    Reads (readBytesToArena size) hr (Writer.bytes p.items) (p.received id) := by
  have hlength := length_items hp
  refine last (bytes (hlength.trans_lt hsize)) (skip (require hlength) ?_)
  have hsame : ∀ v : Elements UInt8 size, (List.Vector.ofFn fun i => v.toList.getD i 0) = v := by
    intro v
    apply List.Vector.ext
    intro i
    obtain ⟨l, rfl⟩ := v
    rw [List.Vector.get_ofFn]
    change l.getD i 0 = l[i]
    rw [List.getD_eq_getElem?_getD, List.getElem?_eq_getElem i.isLt]
    rfl
  by_cases hsome : size = 0
  · rw [if_pos hsome, Ptr.received, if_pos hsome]
    exact pure
  · obtain ⟨v, hitems, hreceived⟩ := exists_elements hp hsome
    rw [if_neg hsome, hreceived, List.Vector.map_id, hitems, hsame]
    exact skip (allocate size 1) pure

section

variable {count : UInt32} {p : Ptr (Elements α count.toNat)} {m : Decode β} {w : α → List UInt8} {f : α → β}
  {wire : ℕ}

/-- The count is one that the elements themselves can back. -/
theorem le_div_wire (hp : p.Whole) (hwire : 0 < wire) (hw : ∀ a ∈ p.items, wire ≤ (w a).length) {left : ℕ}
    (hleft : (p.items.flatMap w).length ≤ left) : count.toNat ≤ left / wire := by
  rw [Nat.le_div_iff_mul_le hwire, ← length_items hp]
  exact (le_length_flatMap hw).trans hleft

theorem bounded (hvalid : validArray p) (hreal : p.Real) (h : ∀ a ∈ p.items, Reads m hr (w a) (f a))
    (hwire : 0 < wire) (hw : ∀ a ∈ p.items, wire ≤ (w a).length) (size : ℕ) :
    Reads (readBounded wire size m) hr (Writer.u32 count ++ p.items.flatMap w) ⟨count, p.received f⟩ :=
  bind u32 (skip requireOk (remaining fun _ hleft =>
    skip (require ⟨hvalid.1, le_div_wire ⟨hreal, hvalid.2⟩ hwire hw hleft⟩)
      (last (array ⟨hreal, hvalid.2⟩ h size) pure)))

theorem backed (hvalid : validArray p) (hreal : p.Real) (h : ∀ a ∈ p.items, Reads m hr (w a) (f a))
    (hwire : 0 < wire) (hw : ∀ a ∈ p.items, wire ≤ (w a).length) (size : ℕ) :
    Reads (readBacked wire size m) hr (Writer.u32 count ++ p.items.flatMap w) ⟨count, p.received f⟩ :=
  bind u32 (remaining fun _ hleft =>
    skip (require ⟨hvalid.1, le_div_wire ⟨hreal, hvalid.2⟩ hwire hw hleft⟩)
      (last (array ⟨hreal, hvalid.2⟩ h size) pure))

end

section

variable {p : Prop} [Decidable p] {m : Decode α}

theorem used (hp : p) (h : Reads m hr bs a) {b : α} : Reads (whenUsed p b m) hr bs a := by
  unfold whenUsed
  rw [if_pos hp]
  exact h

theorem unused (hp : ¬ p) : Reads (whenUsed p a m) hr [] a := by
  unfold whenUsed
  rw [if_neg hp]
  exact pure

end

/-- What is read in one step was written in two. -/
theorem bindTwo {m : Decode β} {k : β → Decode α} {ds : List UInt8} (hm : Reads m hr (bs ++ cs) b)
    (hk : Reads (k b) hr ds a) : Reads (m >>= k) hr (bs ++ (cs ++ ds)) a := by
  rw [← List.append_assoc]
  exact bind hm hk

theorem absent {α : Type} {m : Decode (Ptr α)} : Reads (readFlagged m) hr (Writer.u32 0) .null :=
  last u32 (skip requireOk (skip (require (by decide)) pure))

theorem flagged {α : Type} {m : Decode (Ptr α)} {q : Ptr α} (h : Reads m hr bs q) :
    Reads (readFlagged m) hr (Writer.u32 1 ++ bs) q :=
  bind u32 (skip requireOk (skip (require (by decide)) h))

end Decode.Reads

/-- The bytes are the whole message, and it is taken for `a`. -/
def Decode.Takes {α : Type} (m : Decode α) (hr : Resolver) (bs : List UInt8) (a : α) : Prop :=
  ∀ s, s.has bs → ∃ s', m hr s = (some a, s') ∧ s'.has []

namespace Decode.Takes

variable {α β : Type} {hr : Resolver} {bs cs : List UInt8} {a : α} {b : β}

theorem of_reads {m : Decode α} (h : Reads m hr bs a) : Takes m hr bs a := by
  intro s hs
  rw [← List.append_nil bs] at hs
  exact h s [] hs

theorem bind {m : Decode β} {k : β → Decode α} (hm : Reads m hr bs b) (hk : Takes (k b) hr cs a) :
    Takes (m >>= k) hr (bs ++ cs) a := by
  intro s h
  obtain ⟨s₁, hfirst, h₁⟩ := hm s cs h
  obtain ⟨s₂, hrest, h₂⟩ := hk s₁ h₁
  exact ⟨s₂, (Marshal.bind_of hfirst).trans hrest, h₂⟩

theorem skip {m : Decode β} {k : β → Decode α} (hm : Reads m hr [] b) (hk : Takes (k b) hr bs a) :
    Takes (m >>= k) hr bs a := bind hm hk

theorem remaining {k : ℕ → Decode α} (h : Takes (k bs.length) hr bs a) :
    Takes (Decode.remaining >>= k) hr bs a := by
  intro s hs
  have hleft : s.reader.remaining = bs.length := by
    rw [hs]
    rfl
  obtain ⟨s', hrun, hs'⟩ := h s hs
  exact ⟨s', by rw [← hrun, ← hleft]; rfl, hs'⟩

end Decode.Takes

/-- Slots that are written. -/
def Slot.written : Slot → Bool
  | .pad _ => false
  | _ => true

/-- No field is written in fewer bytes than it has. -/
theorem size_le_length_writeFields {ss : List Slot} (h : ∀ x ∈ ss, Slot.written x = true) (r : Record ss) :
    Record.size ss ≤ (writeFields ss r).length := by
  induction ss with
  | nil => exact Nat.zero_le _
  | cons x ss ih =>
    obtain ⟨hx, hss⟩ := List.forall_mem_cons.1 h
    rw [Record.size_cons]
    cases x with
    | u32 =>
      obtain ⟨v, r⟩ := r
      have hrest := ih hss r
      simp only [writeFields, List.length_append, Writer.length_u32, Slot.size]
      omega
    | u64 =>
      obtain ⟨v, r⟩ := r
      have hrest := ih hss r
      simp only [writeFields, List.length_append, Writer.length_u64, Slot.size]
      omega
    | blob n =>
      obtain ⟨v, r⟩ := r
      have hrest := ih hss r
      simp only [writeFields, List.length_append, Writer.length_bytes, v.property, Slot.size]
      omega
    | pad n => cases hx

end VkRemote.Marshal
