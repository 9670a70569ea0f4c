import VulkanRemote.Marshal.Layouts

/-! What decoders ask the resolver, against the ids in the message. `Quiet` decoders ask nothing, `NoZero` ones not
about zero; `Alike`, `Guards` and `Follows` compare a decoder with the layout of what it reads. -/

namespace VkRemote.Marshal

open Lib Wire

namespace Lookup

/-- A nonzero id that does not resolve. -/
def Dead (hr : Resolver) (l : Lookup) : Prop := l.id ≠ 0 ∧ hr l.kind l.id = 0

instance (hr : Resolver) (l : Lookup) : Decidable (l.Dead hr) := inferInstanceAs (Decidable (_ ∧ _))

end Lookup

/-- No id of these is dead. -/
def Resolved (hr : Resolver) (ls : List Lookup) : Prop := ∀ l ∈ ls, ¬ l.Dead hr

instance (hr : Resolver) (ls : List Lookup) : Decidable (Resolved hr ls) :=
  inferInstanceAs (Decidable (∀ l ∈ ls, ¬ l.Dead hr))

section

variable {hr : Resolver}

theorem resolved_nil (hr : Resolver) : Resolved hr [] := by
  simp [Resolved]

theorem resolved_append {ls ls' : List Lookup} :
    Resolved hr (ls ++ ls') ↔ Resolved hr ls ∧ Resolved hr ls' := by
  simp only [Resolved, List.mem_append]
  constructor
  · exact fun h => ⟨fun l hl => h l (.inl hl), fun l hl => h l (.inr hl)⟩
  · rintro ⟨h, h'⟩ l (hl | hl)
    exacts [h l hl, h' l hl]

theorem resolved_cons {l : Lookup} {ls : List Lookup} : Resolved hr (l :: ls) ↔ ¬ l.Dead hr ∧ Resolved hr ls :=
  List.forall_mem_cons

theorem resolved_one {l : Lookup} : Resolved hr [l] ↔ ¬ l.Dead hr :=
  resolved_cons.trans (and_iff_left (resolved_nil hr))

/-- The result of `patchHandle`. -/
def answer (hr : Resolver) (kind : HandleKind) (id : UInt64) : UInt64 := if id = 0 then 0 else hr kind id

theorem not_dead {kind : HandleKind} {id : UInt64} (h : id = 0 ∨ answer hr kind id ≠ 0) :
    ¬ Lookup.Dead hr ⟨kind, id⟩ := by
  rintro ⟨hid, hdead⟩
  exact h.elim hid fun hanswer => hanswer ((if_neg hid).trans hdead)

end

namespace Decode

variable {α β : Type}

theorem bind_some {m : Decode α} {k : α → Decode β} {hr : Resolver} {s : DecodeState} {a : α}
    (h : (m hr s).1 = some a) : (m >>= k) hr s = k a hr (m hr s).2 := by
  have hm : m hr s = (some a, (m hr s).2) := Prod.ext h rfl
  simp only [bind]
  rw [hm]

theorem bind_none {m : Decode α} {k : α → Decode β} {hr : Resolver} {s : DecodeState}
    (h : (m hr s).1 = none) : (m >>= k) hr s = (none, (m hr s).2) := by
  have hm : m hr s = (none, (m hr s).2) := Prod.ext h rfl
  simp only [bind]
  rw [hm]

theorem patchHandle_eq (kind : HandleKind) (id : UInt64) (hr : Resolver) (s : DecodeState) :
    patchHandle kind id hr s =
      (some (answer hr kind id), { s with lookups := s.lookups ++ if id = 0 then [] else [⟨kind, id⟩] }) := by
  unfold patchHandle answer
  by_cases h : id = 0
  · simp only [if_pos h, List.append_nil]
    rfl
  · simp only [if_neg h]
    rfl

theorem allocate_reader (count size : ℕ) (hr : Resolver) (s : DecodeState) :
    (allocate count size hr s).2.reader = s.reader := by
  unfold allocate
  split <;> rfl

/-! ### Decoders that ask nothing -/

/-- A run is that of the piece, whatever the resolver, and asks nothing. -/
def Quiet (m : Decode α) : Prop :=
  ∀ hr s, ((m hr s).1, (m hr s).2.reader) = (Layout.piece m s.reader).1 ∧ (m hr s).2.lookups = s.lookups

namespace Quiet

theorem result {m : Decode α} (h : Quiet m) (hr : Resolver) (s : DecodeState) :
    (m hr s).1 = (Layout.piece m s.reader).1.1 := (Prod.mk.inj (h hr s).1).1

theorem reader {m : Decode α} (h : Quiet m) (hr : Resolver) (s : DecodeState) :
    (m hr s).2.reader = (Layout.piece m s.reader).1.2 := (Prod.mk.inj (h hr s).1).2

theorem pure (a : α) : Quiet (Pure.pure a : Decode α) := fun _ _ => ⟨rfl, rfl⟩

theorem bind {m : Decode α} {k : α → Decode β} (hm : Quiet m) (hk : ∀ a, Quiet (k a)) : Quiet (m >>= k) := by
  intro hr s
  have hlookups := (hm hr s).2
  have hresult : (m hr s).1 = (m nothing { reader := s.reader }).1 := hm.result hr s
  have hreader : (m hr s).2.reader = (m nothing { reader := s.reader }).2.reader := hm.reader hr s
  unfold Layout.piece
  cases h : (m hr s).1 with
  | none =>
    rw [bind_none h, bind_none (hresult.symm.trans h), hreader]
    exact ⟨rfl, hlookups⟩
  | some a =>
    rw [bind_some h, bind_some (hresult.symm.trans h)]
    obtain ⟨hrest, hmore⟩ := hk a hr (m hr s).2
    obtain ⟨hsame, -⟩ := hk a nothing (m nothing { reader := s.reader }).2
    refine ⟨?_, hmore.trans hlookups⟩
    rw [hrest, hsame]
    exact congrArg (fun r => (Layout.piece (k a) r).1) hreader

theorem ite {p : Prop} [Decidable p] {m m' : Decode α} (h : Quiet m) (h' : Quiet m') :
    Quiet (if p then m else m') := by
  split
  exacts [h, h']

theorem ofReader (f : Reader → α × Reader) : Quiet (Decode.ofReader f) := fun _ _ => ⟨rfl, rfl⟩

theorem u32 : Quiet Decode.u32 := ofReader _

theorem u64 : Quiet Decode.u64 := ofReader _

theorem bytes (n : ℕ) : Quiet (Decode.bytes n) := fun _ _ => ⟨rfl, rfl⟩

theorem remaining : Quiet Decode.remaining := fun _ _ => ⟨rfl, rfl⟩

theorem require (p : Prop) [Decidable p] : Quiet (Decode.require p) := fun _ _ => ⟨rfl, rfl⟩

theorem requireOk : Quiet Decode.requireOk := fun _ _ => ⟨rfl, rfl⟩

theorem fail : Quiet (fun _ s => (none, s) : Decode α) := fun _ _ => ⟨rfl, rfl⟩

theorem allocate (count size : ℕ) : Quiet (Decode.allocate count size) := by
  intro hr s
  unfold Decode.allocate Layout.piece
  split
  exacts [⟨rfl, rfl⟩, ⟨rfl, rfl⟩]

theorem times {m : Decode α} (h : Quiet m) : (n : ℕ) → Quiet (Decode.times n m)
  | 0 => .pure _
  | n + 1 => .bind h fun _ => .bind (times h n) fun _ => .pure _

theorem array {m : Decode α} (h : Quiet m) (count size : ℕ) : Quiet (Decode.array count size m) :=
  .bind (.allocate _ _) fun _ => .bind (h.times _) fun _ => .pure _

theorem readRaw (α : Type) [Raw α] : Quiet (Decode.readRaw α) :=
  .bind (.bytes _) fun _ => .bind (.require _) fun _ => .pure _

theorem readPodArray (n count : ℕ) : Quiet (Decode.readPodArray n count) :=
  .bind (.require _) fun _ => .bind (.bytes _) fun _ => .bind (.require _) fun _ =>
    .ite (.pure _) (.bind (.allocate _ _) fun _ => .pure _)

theorem readOptPodArray (n count : ℕ) : Quiet (Decode.readOptPodArray n count) :=
  .bind .u32 fun _ => .bind .requireOk fun _ => .bind (.require _) fun _ =>
    .ite (.pure _) (.readPodArray _ _)

theorem readOptPod (α : Type) [Raw α] : Quiet (Decode.readOptPod α) :=
  .bind .u32 fun _ => .bind .requireOk fun _ =>
    .ite (.pure _) (.bind (.bytes _) fun _ => .bind (.require _) fun _ => .bind (.allocate _ _) fun _ =>
      .pure _)

theorem readString : Quiet Decode.readString :=
  .bind (.bytes _) fun _ => .bind (.allocate _ _) fun _ => .pure _

theorem readStringArray (count : ℕ) : Quiet (Decode.readStringArray count) :=
  .ite (.pure _) (.bind (.require _) fun _ => readString.array _ _)

theorem readBytesToArena (size : ℕ) : Quiet (Decode.readBytesToArena size) :=
  .bind (.bytes _) fun _ => .bind (.require _) fun _ =>
    .ite (.pure _) (.bind (.allocate _ _) fun _ => .pure _)

theorem readFields : (ss : List Slot) → Quiet (Marshal.readFields ss)
  | [] => .pure _
  | .u32 :: ss => .bind .u32 fun _ => .bind (readFields ss) fun _ => .pure _
  | .u64 :: ss => .bind .u64 fun _ => .bind (readFields ss) fun _ => .pure _
  | .blob _ :: ss => .bind (.bytes _) fun _ => .bind (.require _) fun _ => .bind (readFields ss) fun _ => .pure _
  | .pad _ :: ss => readFields ss

theorem readCounted {m : Decode α} (h : Quiet m) (size : ℕ) : Quiet (Marshal.readCounted size m) :=
  .bind .u32 fun _ => .bind .requireOk fun _ => .bind (.require _) fun _ => .bind (h.array _ _) fun _ =>
    .pure _

theorem readBounded {m : Decode α} (h : Quiet m) (wire size : ℕ) : Quiet (Marshal.readBounded wire size m) :=
  .bind .u32 fun _ => .bind .requireOk fun _ => .bind .remaining fun _ => .bind (.require _) fun _ =>
    .bind (h.array _ _) fun _ => .pure _

theorem readBacked {m : Decode α} (h : Quiet m) (wire size : ℕ) : Quiet (Marshal.readBacked wire size m) :=
  .bind .u32 fun _ => .bind .remaining fun _ => .bind (.require _) fun _ => .bind (h.array _ _) fun _ =>
    .pure _

theorem readPresent {m : Decode α} (h : Quiet m) (size : ℕ) : Quiet (Marshal.readPresent size m) :=
  .bind .u32 fun _ => .bind .requireOk fun _ =>
    .ite (.pure _) (.bind (.allocate _ _) fun _ => .bind h fun _ => .pure _)

theorem readFlagged {m : Decode (Ptr α)} (h : Quiet m) : Quiet (Marshal.readFlagged m) :=
  .bind .u32 fun _ => .bind .requireOk fun _ => .bind (.require _) fun _ => .ite (.pure _) h

end Quiet

/-! ### Decoders that do not ask about zero -/

def NoZero (hr : Resolver) (m : Decode α) : Prop :=
  ∀ s, ∃ new, (m hr s).2.lookups = s.lookups ++ new ∧ ∀ l ∈ new, l.id ≠ 0

namespace NoZero

variable {hr : Resolver}

theorem quiet {m : Decode α} (h : Quiet m) : NoZero hr m := fun s =>
  ⟨[], by rw [(h hr s).2, List.append_nil], fun _ hl => absurd hl List.not_mem_nil⟩

theorem pure {a : α} : NoZero hr (Pure.pure a) := quiet (.pure a)

theorem bind {m : Decode α} {k : α → Decode β} (hm : NoZero hr m) (hk : ∀ a, NoZero hr (k a)) :
    NoZero hr (m >>= k) := by
  intro s
  obtain ⟨new, hnew, hzero⟩ := hm s
  cases h : (m hr s).1 with
  | none =>
    rw [bind_none h]
    exact ⟨new, hnew, hzero⟩
  | some a =>
    rw [bind_some h]
    obtain ⟨more, hmore, hmoreZero⟩ := hk a (m hr s).2
    refine ⟨new ++ more, by rw [hmore, hnew, List.append_assoc], ?_⟩
    intro l hl
    exact (List.mem_append.1 hl).elim (hzero l) (hmoreZero l)

theorem after {m : Decode α} {k : α → Decode β} (hm : Quiet m) (hk : ∀ a, NoZero hr (k a)) :
    NoZero hr (m >>= k) := bind (quiet hm) hk

/-- What is required holds behind. -/
theorem require {p : Prop} [Decidable p] {k : Unit → Decode β} (hk : p → NoZero hr (k ())) :
    NoZero hr (Decode.require p >>= k) := by
  by_cases h : p
  · exact after (.require p) fun _ => hk h
  · intro s
    have hnone : (Decode.require p hr s).1 = none := if_neg h
    rw [bind_none hnone]
    exact ⟨[], (List.append_nil _).symm, fun _ hl => absurd hl List.not_mem_nil⟩

theorem ite {p : Prop} [Decidable p] {m m' : Decode α} (h : NoZero hr m) (h' : NoZero hr m') :
    NoZero hr (if p then m else m') := by
  split
  exacts [h, h']

theorem patchHandle (kind : HandleKind) (id : UInt64) : NoZero hr (Decode.patchHandle kind id) := by
  intro s
  rw [patchHandle_eq]
  refine ⟨_, rfl, fun l hl => ?_⟩
  split at hl
  · exact absurd hl List.not_mem_nil
  · next hid => exact List.mem_singleton.1 hl ▸ hid

/-- One patched handle, and what follows it. -/
theorem patch {kind : HandleKind} {id : UInt64} {k : UInt64 → Decode β} (hk : ∀ h, NoZero hr (k h)) :
    NoZero hr (Decode.patchHandle kind id >>= k) := (patchHandle kind id).bind hk

theorem whenUsed {p : Prop} [Decidable p] {m : Decode α} (h : NoZero hr m) (otherwise : α) :
    NoZero hr (Decode.whenUsed p otherwise m) := h.ite .pure

theorem times {m : Decode α} (h : NoZero hr m) : (n : ℕ) → NoZero hr (Decode.times n m)
  | 0 => .pure
  | n + 1 => h.bind fun _ => (times h n).bind fun _ => .pure

theorem array {m : Decode α} (h : NoZero hr m) (count size : ℕ) : NoZero hr (Decode.array count size m) :=
  .after (.allocate _ _) fun _ => (h.times _).bind fun _ => .pure

theorem readHandleArray (kind : HandleKind) (count : ℕ) : NoZero hr (Decode.readHandleArray kind count) :=
  .ite .pure (.after (.require _) fun _ =>
    NoZero.array (.after .u64 fun _ => .after .requireOk fun _ => patchHandle _ _) _ _)

end NoZero

/-- Both come to an end or not, and at the same place: the answers of the resolver steer nothing. -/
def Alike (hr : Resolver) (m : Decode α) (l : Layout β) : Prop :=
  ∀ s, (m hr s).1.isSome = (l s.reader).1.1.isSome ∧ (m hr s).2.reader = (l s.reader).1.2

namespace Alike

variable {γ δ : Type} {hr : Resolver}

theorem pure {a : α} {b : β} : Alike hr (Pure.pure a) (Pure.pure b) := fun _ => ⟨rfl, rfl⟩

theorem bind {m : Decode α} {l : Layout β} {k : α → Decode γ} {k' : β → Layout δ} (hm : Alike hr m l)
    (hk : ∀ a b, Alike hr (k a) (k' b)) : Alike hr (m >>= k) (l >>= k') := by
  intro s
  obtain ⟨hsome, hreader⟩ := hm s
  cases h : (m hr s).1 with
  | none =>
    rw [h] at hsome
    rw [bind_none h, Layout.bind_none (Option.isNone_iff_eq_none.1 (by simpa using hsome.symm))]
    exact ⟨rfl, hreader⟩
  | some a =>
    rw [h] at hsome
    obtain ⟨b, h'⟩ := Option.isSome_iff_exists.1 hsome.symm
    rw [bind_some h, Layout.bind_some h', ← hreader]
    exact hk a b (m hr s).2

/-- A piece is the same on both sides. -/
theorem after {m : Decode α} {k : α → Decode γ} {k' : α → Layout δ} (hm : Quiet m)
    (hk : ∀ a, Alike hr (k a) (k' a)) : Alike hr (m >>= k) (Layout.piece m >>= k') := by
  intro s
  have hresult := hm.result hr s
  have hreader := hm.reader hr s
  cases h : (m hr s).1 with
  | none =>
    rw [bind_none h, Layout.bind_none (hresult.symm.trans h)]
    exact ⟨rfl, hreader⟩
  | some a =>
    rw [bind_some h, Layout.piece_bind (hresult.symm.trans h), ← hreader]
    exact hk a (m hr s).2

theorem skip {m : Decode α} (hm : Quiet m) : Alike hr m (Layout.skip m) := by
  intro s
  rw [Layout.skip_eq, hm.result hr s]
  exact ⟨Option.isSome_map.symm, hm.reader hr s⟩

theorem past {m : Decode α} {k : α → Decode γ} {k' : Unit → Layout δ} (hm : Quiet m)
    (hk : ∀ a, Alike hr (k a) (k' ())) : Alike hr (m >>= k) (Layout.skip m >>= k') :=
  bind (skip hm) fun a _ => hk a

/-- The layout is at its end. -/
theorem last {m : Decode α} {k : α → Decode γ} {l : Layout Unit} (hm : Alike hr m l)
    (hk : ∀ a, Alike hr (k a) (Pure.pure () : Layout Unit)) : Alike hr (m >>= k) l := by
  rw [← Layout.bind_unit l]
  exact bind hm fun a _ => hk a

theorem place {m : Decode α} {kind : HandleKind} {id : UInt64} {k' : Unit → Layout δ}
    (h : Alike hr m (k' ())) : Alike hr m (Layout.place kind id >>= k') := h

theorem placed {m : Decode α} {kind : HandleKind} {id : UInt64} (h : Alike hr m (Pure.pure () : Layout Unit)) :
    Alike hr m (Layout.place kind id) := h

theorem patch {kind : HandleKind} {id : UInt64} {k : UInt64 → Decode γ} {l : Layout δ}
    (hk : ∀ h, Alike hr (k h) l) : Alike hr (patchHandle kind id >>= k) l := by
  intro s
  have hsome : (patchHandle kind id hr s).1 = some (answer hr kind id) := by rw [patchHandle_eq]
  rw [bind_some hsome, patchHandle_eq]
  exact hk _ { s with lookups := s.lookups ++ _ }

theorem ite {p : Prop} [Decidable p] {m m' : Decode α} {l l' : Layout β} (h : Alike hr m l)
    (h' : Alike hr m' l') : Alike hr (if p then m else m') (if p then l else l') := by
  split
  exacts [h, h']

theorem whenUsed {p : Prop} [Decidable p] {m : Decode α} {l : Layout Unit} (h : Alike hr m l) (otherwise : α) :
    Alike hr (Decode.whenUsed p otherwise m) (Layout.onlyIf p l) := ite h .pure

theorem allocate (count size : ℕ) {k : Unit → Decode γ} {l : Layout δ} (hk : Alike hr (k ()) l) :
    Alike hr (Decode.allocate count size >>= k) l := by
  intro s
  have hsome : (Decode.allocate count size hr s).1 = some () := rfl
  rw [bind_some hsome, ← allocate_reader count size hr s]
  exact hk _

theorem times {m : Decode α} {l : Layout Unit} (h : Alike hr m l) :
    (n : ℕ) → Alike hr (Decode.times n m) (Layout.repeated n l)
  | 0 => .pure
  | n + 1 => h.bind fun _ _ => (times h n).last fun _ => .pure

theorem array {m : Decode α} {l : Layout Unit} (h : Alike hr m l) (n size : ℕ) :
    Alike hr (Decode.array n size m) (Layout.repeated n l) :=
  allocate n size ((h.times n).last fun _ => .pure)

theorem readHandle (kind : HandleKind) : Alike hr (Decode.readHandle kind) (layoutHandle kind) := by
  refine after .u64 fun id => past .requireOk fun _ => fun s => ?_
  rw [patchHandle_eq]
  exact ⟨rfl, rfl⟩

theorem readHandleArray (kind : HandleKind) (count : ℕ) :
    Alike hr (Decode.readHandleArray kind count) (layoutHandles kind count) :=
  ite .pure (past (.require _) fun _ => (readHandle kind).array _ _)

end Alike

/-- What is accepted is laid out so, and `Q` holds of the result and the ids. -/
def Guards (hr : Resolver) (m : Decode α) (l : Layout β) (Q : α → List Lookup → Prop) : Prop :=
  ∀ s a, (m hr s).1 = some a →
    (l s.reader).1.1.isSome ∧ (m hr s).2.reader = (l s.reader).1.2 ∧ Q a (l s.reader).2

namespace Guards

variable {γ δ : Type} {hr : Resolver} {Q : α → List Lookup → Prop} {Q' : γ → List Lookup → Prop}

theorem pure {a : α} {b : β} (h : Q a []) : Guards hr (Pure.pure a) (Pure.pure b) Q := fun _ _ ha =>
  ⟨rfl, rfl, Option.some.inj ha ▸ h⟩

theorem bind {m : Decode α} {l : Layout β} {k : α → Decode γ} {k' : β → Layout δ} (hm : Guards hr m l Q)
    (hk : ∀ a b new, Q a new → Guards hr (k a) (k' b) fun c more => Q' c (new ++ more)) :
    Guards hr (m >>= k) (l >>= k') Q' := by
  intro s c hc
  cases h : (m hr s).1 with
  | none =>
    rw [bind_none h] at hc
    exact nomatch hc
  | some a =>
    obtain ⟨hsome, hreader, hQ⟩ := hm s a h
    obtain ⟨b, hb⟩ := Option.isSome_iff_exists.1 hsome
    rw [bind_some h] at hc ⊢
    rw [Layout.bind_some hb, ← hreader]
    exact hk a b _ hQ (m hr s).2 c hc

theorem after {m : Decode α} {k : α → Decode γ} {k' : α → Layout δ} (hm : Quiet m)
    (hk : ∀ a, Guards hr (k a) (k' a) Q') : Guards hr (m >>= k) (Layout.piece m >>= k') Q' := by
  intro s c hc
  cases h : (m hr s).1 with
  | none =>
    rw [bind_none h] at hc
    exact nomatch hc
  | some a =>
    rw [bind_some h] at hc ⊢
    rw [Layout.piece_bind ((hm.result hr s).symm.trans h), ← hm.reader hr s]
    exact hk a (m hr s).2 c hc

theorem skip {m : Decode α} (hm : Quiet m) : Guards hr m (Layout.skip m) fun _ new => new = [] := by
  intro s a ha
  rw [Layout.skip_eq, ← hm.result hr s, ha]
  exact ⟨rfl, hm.reader hr s, rfl⟩

theorem past {m : Decode α} {k : α → Decode γ} {k' : Unit → Layout δ} (hm : Quiet m)
    (hk : ∀ a, Guards hr (k a) (k' ()) Q') : Guards hr (m >>= k) (Layout.skip m >>= k') Q' :=
  bind (skip hm) fun a _ _ hnew => hnew ▸ hk a

/-- The layout is at its end. -/
theorem last {m : Decode α} {k : α → Decode γ} {l : Layout Unit} (hm : Guards hr m l Q)
    (hk : ∀ a new, Q a new → Guards hr (k a) (Pure.pure () : Layout Unit) fun c more => Q' c (new ++ more)) :
    Guards hr (m >>= k) l Q' := by
  rw [← Layout.bind_unit l]
  exact bind hm fun a _ => hk a

/-- The last piece of a layout. -/
theorem ends {m : Decode α} {k : α → Decode γ} (hm : Quiet m)
    (hk : ∀ a, Guards hr (k a) (Pure.pure () : Layout Unit) Q') : Guards hr (m >>= k) (Layout.skip m) Q' :=
  last (skip hm) fun a _ hnew => hnew ▸ hk a

theorem place {m : Decode α} {kind : HandleKind} {id : UInt64} {k' : Unit → Layout δ}
    (h : Guards hr m (k' ()) fun a more => Q a (⟨kind, id⟩ :: more)) :
    Guards hr m (Layout.place kind id >>= k') Q := h

/-- The last id of a layout. -/
theorem placed {m : Decode α} {kind : HandleKind} {id : UInt64}
    (h : Guards hr m (Pure.pure () : Layout Unit) fun a more => Q a (⟨kind, id⟩ :: more)) :
    Guards hr m (Layout.place kind id) Q := by
  rw [← Layout.bind_unit (Layout.place kind id)]
  exact place h

theorem patch {kind : HandleKind} {id : UInt64} {k : UInt64 → Decode γ} {l : Layout δ}
    (hk : Guards hr (k (answer hr kind id)) l Q') : Guards hr (patchHandle kind id >>= k) l Q' := by
  intro s c hc
  have hsome : (patchHandle kind id hr s).1 = some (answer hr kind id) := by rw [patchHandle_eq]
  rw [bind_some hsome, patchHandle_eq] at hc ⊢
  exact hk { s with lookups := s.lookups ++ _ } c hc

/-- A step of the decoder alone, which takes no bytes. -/
theorem check {m : Decode α} {k : α → Decode γ} {l : Layout δ} (hm : ∀ s, (m hr s).2.reader = s.reader)
    (hk : ∀ a, Guards hr (k a) l Q') : Guards hr (m >>= k) l Q' := by
  intro s c hc
  cases h : (m hr s).1 with
  | none =>
    rw [bind_none h] at hc
    exact nomatch hc
  | some a =>
    rw [bind_some h] at hc ⊢
    rw [← hm s]
    exact hk a (m hr s).2 c hc

/-- What is required holds behind. -/
theorem require {p : Prop} [Decidable p] {k : Unit → Decode γ} {l : Layout δ}
    (hk : p → Guards hr (k ()) l Q') : Guards hr (Decode.require p >>= k) l Q' := by
  by_cases h : p
  · exact check (fun _ => rfl) fun _ => hk h
  · intro s c hc
    have hnone : (Decode.require p hr s).1 = none := if_neg h
    rw [bind_none hnone] at hc
    exact nomatch hc

theorem ite {p : Prop} [Decidable p] {m m' : Decode α} {l l' : Layout β} (h : p → Guards hr m l Q)
    (h' : ¬ p → Guards hr m' l' Q) : Guards hr (if p then m else m') (if p then l else l') Q := by
  split
  · next hp => exact h hp
  · next hp => exact h' hp

end Guards

/-- A decoder that gives up where an id is dead. -/
abbrev Strict (hr : Resolver) (m : Decode α) (l : Layout β) : Prop := Guards hr m l fun _ new => Resolved hr new

namespace Strict

variable {γ δ : Type} {hr : Resolver}

theorem pure {a : α} {b : β} : Strict hr (Pure.pure a) (Pure.pure b) := Guards.pure (resolved_nil hr)

theorem bind {m : Decode α} {l : Layout β} {k : α → Decode γ} {k' : β → Layout δ} (hm : Strict hr m l)
    (hk : ∀ a b, Strict hr (k a) (k' b)) : Strict hr (m >>= k) (l >>= k') :=
  Guards.bind hm fun a b _ hnew s c hc =>
    have ⟨hsome, hreader, hmore⟩ := hk a b s c hc
    ⟨hsome, hreader, resolved_append.2 ⟨hnew, hmore⟩⟩

theorem skip {m : Decode α} (hm : Quiet m) : Strict hr m (Layout.skip m) := fun s a ha =>
  have ⟨hsome, hreader, hnew⟩ := Guards.skip hm s a ha
  ⟨hsome, hreader, hnew ▸ resolved_nil hr⟩

theorem last {m : Decode α} {k : α → Decode γ} {l : Layout Unit} (hm : Strict hr m l)
    (hk : ∀ a, Strict hr (k a) (Pure.pure () : Layout Unit)) : Strict hr (m >>= k) l := by
  rw [← Layout.bind_unit l]
  exact bind hm fun a _ => hk a

theorem whenUsed {p : Prop} [Decidable p] {m : Decode α} {l : Layout Unit} (h : Strict hr m l) (otherwise : α) :
    Strict hr (Decode.whenUsed p otherwise m) (Layout.onlyIf p l) := Guards.ite (fun _ => h) fun _ => pure

theorem times {m : Decode α} {l : Layout Unit} (h : Strict hr m l) :
    (n : ℕ) → Strict hr (Decode.times n m) (Layout.repeated n l)
  | 0 => .pure
  | n + 1 => h.bind fun _ _ => (times h n).last fun _ => .pure

theorem array {m : Decode α} {l : Layout Unit} (h : Strict hr m l) (n size : ℕ) :
    Strict hr (Decode.array n size m) (Layout.repeated n l) :=
  Guards.check (allocate_reader n size hr) fun _ => (h.times n).last fun _ => .pure

end Strict

/-- What is asked about up to the first dead id, that one included. -/
def upToDead (hr : Resolver) : List Lookup → List Lookup
  | [] => []
  | l :: ls => if l.Dead hr then [l] else l :: upToDead hr ls

theorem upToDead_append {hr : Resolver} {ls : List Lookup} (h : Resolved hr ls) (ls' : List Lookup) :
    upToDead hr (ls ++ ls') = ls ++ upToDead hr ls' := by
  induction ls with
  | nil => rfl
  | cons l ls ih =>
    obtain ⟨hl, hls⟩ := resolved_cons.1 h
    rw [List.cons_append, upToDead, if_neg hl, ih hls, List.cons_append]

theorem upToDead_append_dead {hr : Resolver} {ls : List Lookup} (h : ¬ Resolved hr ls) (ls' : List Lookup) :
    upToDead hr (ls ++ ls') = upToDead hr ls := by
  induction ls with
  | nil => exact absurd (resolved_nil hr) h
  | cons l ls ih =>
    rw [List.cons_append, upToDead, upToDead]
    by_cases hl : l.Dead hr
    · rw [if_pos hl, if_pos hl]
    · rw [if_neg hl, if_neg hl, ih fun hls => h (resolved_cons.2 ⟨hl, hls⟩)]

theorem upToDead_of_resolved {hr : Resolver} {ls : List Lookup} (h : Resolved hr ls) :
    upToDead hr ls = ls := by
  simpa only [List.append_nil, upToDead] using upToDead_append h []

/-- The decoder asks about every id as the layout passes it, up to the first dead one, and gives up there. -/
def Follows (hr : Resolver) (m : Decode α) (l : Layout β) : Prop :=
  ∀ s, (Resolved hr (l s.reader).2 ∧ (m hr s).1.isSome = (l s.reader).1.1.isSome ∧
      (m hr s).2.reader = (l s.reader).1.2 ∧ (m hr s).2.lookups = s.lookups ++ (l s.reader).2) ∨
    (¬ Resolved hr (l s.reader).2 ∧ (m hr s).1 = none ∧
      (m hr s).2.lookups = s.lookups ++ upToDead hr (l s.reader).2)

namespace Follows

variable {γ δ : Type} {hr : Resolver}

theorem pure {a : α} {b : β} : Follows hr (Pure.pure a) (Pure.pure b) := fun _ =>
  .inl ⟨resolved_nil hr, rfl, rfl, (List.append_nil _).symm⟩

theorem bind {m : Decode α} {l : Layout β} {k : α → Decode γ} {k' : β → Layout δ} (hm : Follows hr m l)
    (hk : ∀ a b, Follows hr (k a) (k' b)) : Follows hr (m >>= k) (l >>= k') := by
  intro s
  rcases hm s with ⟨hresolved, hsome, hreader, hasked⟩ | ⟨hdead, hnone, hasked⟩
  · cases h : (m hr s).1 with
    | none =>
      rw [h] at hsome
      rw [bind_none h, Layout.bind_none (Option.isNone_iff_eq_none.1 (by simpa using hsome.symm))]
      exact .inl ⟨hresolved, rfl, hreader, hasked⟩
    | some a =>
      rw [h] at hsome
      obtain ⟨b, h'⟩ := Option.isSome_iff_exists.1 hsome.symm
      rw [bind_some h, Layout.bind_some h', ← hreader]
      rcases hk a b (m hr s).2 with ⟨hmore, hsome, hreader, hmoreAsked⟩ | ⟨hmore, hnone, hmoreAsked⟩
      · refine .inl ⟨resolved_append.2 ⟨hresolved, hmore⟩, hsome, hreader, ?_⟩
        rw [hmoreAsked, hasked, List.append_assoc]
      · refine .inr ⟨fun hall => hmore (resolved_append.1 hall).2, hnone, ?_⟩
        rw [hmoreAsked, hasked, upToDead_append hresolved, List.append_assoc]
  · refine .inr ?_
    rw [bind_none hnone]
    -- what lies behind the dead id is no longer asked about
    cases h : (l s.reader).1.1 with
    | none =>
      rw [Layout.bind_none h]
      exact ⟨hdead, rfl, hasked⟩
    | some b =>
      rw [Layout.bind_some h, upToDead_append_dead hdead]
      exact ⟨fun hall => hdead (resolved_append.1 hall).1, rfl, hasked⟩

theorem after {m : Decode α} {k : α → Decode γ} {k' : α → Layout δ} (hm : Quiet m)
    (hk : ∀ a, Follows hr (k a) (k' a)) : Follows hr (m >>= k) (Layout.piece m >>= k') := by
  intro s
  have hlookups := (hm hr s).2
  have hresult := hm.result hr s
  have hreader := hm.reader hr s
  cases h : (m hr s).1 with
  | none =>
    rw [bind_none h, Layout.bind_none (hresult.symm.trans h)]
    exact .inl ⟨resolved_nil hr, rfl, hreader, hlookups.trans (List.append_nil _).symm⟩
  | some a =>
    rw [bind_some h, Layout.piece_bind (hresult.symm.trans h), ← hreader, ← hlookups]
    exact hk a (m hr s).2

theorem skip {m : Decode α} (hm : Quiet m) : Follows hr m (Layout.skip m) := by
  intro s
  rw [Layout.skip_eq, hm.result hr s]
  exact .inl ⟨resolved_nil hr, Option.isSome_map.symm, hm.reader hr s,
    (hm hr s).2.trans (List.append_nil _).symm⟩

theorem past {m : Decode α} {k : α → Decode γ} {k' : Unit → Layout δ} (hm : Quiet m)
    (hk : ∀ a, Follows hr (k a) (k' ())) : Follows hr (m >>= k) (Layout.skip m >>= k') :=
  bind (skip hm) fun a _ => hk a

theorem last {m : Decode α} {k : α → Decode γ} {l : Layout Unit} (hm : Follows hr m l)
    (hk : ∀ a, Follows hr (k a) (Pure.pure () : Layout Unit)) : Follows hr (m >>= k) l := by
  rw [← Layout.bind_unit l]
  exact bind hm fun a _ => hk a

/-- A check behind a decoder decides whether there is a result, and changes nothing. -/
theorem run_checked (hr : Resolver) (rest : Decode α) (p : Prop) [Decidable p] (g : α → γ) (t : DecodeState) :
    (do let x ← rest; require p; return g x : Decode γ) hr t =
      (if p then (rest hr t).1.map g else none, (rest hr t).2) := by
  cases h : (rest hr t).1 with
  | none => rw [bind_none h, Option.map_none, ite_self]
  | some x =>
    rw [bind_some h]
    by_cases hp : p
    · have hsome : (require p hr (rest hr t).2).1 = some () := if_pos hp
      rw [bind_some hsome, if_pos hp]
      rfl
    · have hnone : (require p hr (rest hr t).2).1 = none := if_neg hp
      rw [bind_none hnone, if_neg hp]
      rfl

/-- The way in which the readers of barriers and submissions handle an id: they ask, read on, and give up
if the id is dead. -/
theorem ask (kind : HandleKind) (id : UInt64) {rest : Decode α} (hrest : Quiet rest) (f : UInt64 → α → γ) :
    Follows hr (do let h ← lookup kind id; let x ← rest; require (id = 0 ∨ h ≠ 0); return f h x)
      (do Layout.place kind id; Layout.skip rest) := by
  intro s
  set t : DecodeState := { s with lookups := s.lookups ++ [⟨kind, id⟩] }
  have hlookups : (rest hr t).2.lookups = s.lookups ++ [⟨kind, id⟩] := (hrest hr t).2
  have hrun : (do let h ← lookup kind id; let x ← rest; require (id = 0 ∨ h ≠ 0); return f h x) hr s =
      (if id = 0 ∨ hr kind id ≠ 0 then (rest hr t).1.map (f (hr kind id)) else none, (rest hr t).2) :=
    run_checked hr rest _ _ t
  have hlayout : (do Layout.place kind id; Layout.skip rest) s.reader =
      (((Layout.piece rest s.reader).1.1.map fun _ => (), (Layout.piece rest s.reader).1.2), [⟨kind, id⟩]) := by
    change ((Layout.skip rest s.reader).1, [⟨kind, id⟩] ++ (Layout.skip rest s.reader).2) = _
    rw [Layout.skip_eq]
    rfl
  rw [hrun, hlayout]
  by_cases hdead : Lookup.Dead hr ⟨kind, id⟩
  · refine .inr ⟨fun hall => hall _ (List.mem_singleton_self _) hdead, ?_, ?_⟩
    · exact if_neg fun h => h.elim hdead.1 (· hdead.2)
    · rw [upToDead, if_pos hdead]
      exact hlookups
  · have halive : id = 0 ∨ hr kind id ≠ 0 := by
      by_contra h
      exact hdead ⟨fun hid => h (.inl hid), by_contra fun hh => h (.inr hh)⟩
    refine .inl ⟨fun l hl => List.mem_singleton.1 hl ▸ hdead, ?_, hrest.reader hr t, hlookups⟩
    rw [if_pos halive, Option.isSome_map, Option.isSome_map, hrest.result hr t]

theorem times {m : Decode α} {l : Layout Unit} (h : Follows hr m l) :
    (n : ℕ) → Follows hr (Decode.times n m) (Layout.repeated n l)
  | 0 => .pure
  | n + 1 => h.bind fun _ _ => (times h n).last fun _ => .pure

theorem array {m : Decode α} {l : Layout Unit} (h : Follows hr m l) (n size : ℕ) :
    Follows hr (Decode.array n size m) (Layout.repeated n l) := by
  have hstart : Follows hr (allocate n size) (Pure.pure () : Layout Unit) := fun s => by
    refine .inl ⟨resolved_nil hr, rfl, ?_⟩
    unfold allocate
    split
    exacts [⟨rfl, (List.append_nil _).symm⟩, ⟨rfl, (List.append_nil _).symm⟩]
  exact bind hstart fun _ _ => (h.times n).last fun _ => .pure

theorem readBacked {m : Decode α} {l : Layout Unit} (h : Follows hr m l) (wire size : ℕ) :
    Follows hr (Marshal.readBacked wire size m) (layoutBacked wire l) :=
  after .u32 fun _ => after .remaining fun _ => past (.require _) fun _ => (h.array _ _).last fun _ => .pure

end Follows
end Decode
end VkRemote.Marshal
