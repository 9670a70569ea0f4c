import VulkanRemote.Marshal.OutputChain

/-! Decoding what was encoded: the decoder of a chain takes exactly the bytes of its encoder, and finds in them
what they were made of. -/

namespace VkRemote.Marshal
open Lib Wire Decode

/-! ### Reading what was written -/

/-- The decoder takes these bytes, whatever comes after them, and returns `a`. -/
def Decode.Reads {α : Type} (m : Decode α) (hr : Resolver) (bs : List UInt8) (a : α) : Prop :=
  ∀ s tail, s.has (bs ++ tail) → ∃ s', m hr s = (some a, s') ∧ s'.has tail

/-- A pointer that leads somewhere, or null. -/
def Ptr.Real {α : Type} : Ptr α → Prop
  | .wire _ => False
  | _ => True

/-- A counted array that is there. -/
def Ptr.Whole {α : Type} {n : ℕ} (p : Ptr (Elements α n)) : Prop := p.Real ∧ (n ≠ 0 → p.isNull = false)

/-- An array as it arrives: null if it has no elements. -/
def Ptr.received {α β : Type} {n : ℕ} (f : α → β) (p : Ptr (Elements α n)) : Ptr (Elements β n) :=
  if n = 0 then .null else p.contents (List.Vector.map f)

/-- What an id stands for, and zero for no handle. -/
def resolved (hr : Resolver) (kind : HandleKind) (id : UInt64) : UInt64 := if id = 0 then 0 else hr kind id

namespace Decode.Reads

variable {α β : Type} {hr : Resolver} {bs cs : List UInt8} {a : α} {b : β}

theorem pure : Reads (Pure.pure a) hr [] a := fun s _ h => ⟨s, rfl, h⟩

theorem bind {m : Decode β} {k : β → Decode α} (hm : Reads m hr bs b) (hk : Reads (k b) hr cs a) :
    Reads (m >>= k) hr (bs ++ cs) a := by
  intro s tail h
  rw [List.append_assoc] at h
  obtain ⟨s₁, hfirst, h₁⟩ := hm s (cs ++ tail) h
  obtain ⟨s₂, hrest, h₂⟩ := hk s₁ tail h₁
  exact ⟨s₂, (Marshal.bind_of hfirst).trans hrest, h₂⟩

/-- After a step that takes no bytes. -/
theorem skip {m : Decode β} {k : β → Decode α} (hm : Reads m hr [] b) (hk : Reads (k b) hr bs a) :
    Reads (m >>= k) hr bs a := bind hm hk

/-- Before steps that take no bytes. -/
theorem last {m : Decode β} {k : β → Decode α} (hm : Reads m hr bs b) (hk : Reads (k b) hr [] a) :
    Reads (m >>= k) hr bs a := by
  rw [← List.append_nil bs]
  exact bind hm hk

theorem u32 {v : UInt32} : Reads Decode.u32 hr (Writer.u32 v) v := fun _ _ h => u32_has hr h

theorem u64 {v : UInt64} : Reads Decode.u64 hr (Writer.u64 v) v := fun _ _ h => u64_has hr h

theorem requireOk : Reads Decode.requireOk hr [] () := fun s _ h => ⟨s, requireOk_has h, h⟩

theorem require {p : Prop} [Decidable p] (h : p) : Reads (Decode.require p) hr [] () :=
  fun s _ hs => ⟨s, require_pos h, hs⟩

theorem allocate (count size : ℕ) : Reads (Decode.allocate count size) hr [] () := fun _ _ h =>
  allocate_has hr h count size

theorem fields {ss : List Slot} (hsize : ∀ x ∈ ss, x.size < 2 ^ 32) {r : Record ss} :
    Reads (readFields ss) hr (writeFields ss r) r := fun _ _ h => readFields_has hr ss hsize r h

theorem patchHandle (kind : HandleKind) (id : UInt64) :
    Reads (Decode.patchHandle kind id) hr [] (resolved hr kind id) := by
  intro s tail h
  unfold Decode.patchHandle resolved
  split
  · exact ⟨s, rfl, h⟩
  · exact ⟨_, rfl, h⟩

theorem readHandle (kind : HandleKind) {id : UInt64} :
    Reads (Decode.readHandle kind) hr (Writer.handle id) (resolved hr kind id) :=
  last u64 (skip requireOk (patchHandle kind id))

section

variable {n : ℕ} {m : Decode β} {w : α → List UInt8} {f : α → β}

theorem times (v : Elements α n) (h : ∀ a ∈ v.toList, Reads m hr (w a) (f a)) :
    Reads (Decode.times n m) hr (v.toList.flatMap w) (v.map f) := by
  induction n with
  | zero =>
    obtain rfl := v.eq_nil
    exact pure
  | succ n ih =>
    obtain ⟨a, v, rfl⟩ := v.exists_eq_cons
    rw [List.Vector.toList_cons] at h ⊢
    obtain ⟨ha, hv⟩ := List.forall_mem_cons.1 h
    rw [List.flatMap_cons, List.Vector.map_cons]
    exact bind ha (last (ih v hv) pure)

theorem items_of_empty (p : Ptr (Elements α 0)) : p.items = [] := by
  unfold Ptr.items
  split
  · next v _ => exact List.length_eq_zero_iff.1 v.toList_length
  · rfl

theorem array {p : Ptr (Elements α n)} (hp : p.Whole) (h : ∀ a ∈ p.items, Reads m hr (w a) (f a)) (size : ℕ) :
    Reads (Decode.array n size m) hr (p.items.flatMap w) (p.received f) := by
  refine skip (allocate n size) ?_
  by_cases hn : n = 0
  · subst hn
    rw [items_of_empty, Ptr.received, if_pos rfl]
    exact pure
  · have hpresent := hp.2 hn
    rw [Ptr.received, if_neg hn]
    cases p with
    | null => cases hpresent
    | wire bits => exact hp.1.elim
    | host address v =>
      refine last (times v h) ?_
      rw [if_neg hn]
      exact pure
    | arena v =>
      refine last (times v h) ?_
      rw [if_neg hn]
      exact pure

theorem counted {count : UInt32} {p : Ptr (Elements α count.toNat)} (hvalid : validArray p) (hreal : p.Real)
    (h : ∀ a ∈ p.items, Reads m hr (w a) (f a)) (size : ℕ) :
    Reads (readCounted size m) hr (Writer.u32 count ++ p.items.flatMap w) ⟨count, p.received f⟩ :=
  bind u32 (skip requireOk (skip (require hvalid.1) (last (array ⟨hreal, hvalid.2⟩ h size) pure)))

end

theorem handles {n : ℕ} {p : Ptr (Elements UInt64 n)} (hvalid : validArray p) (hreal : p.Real)
    (kind : HandleKind) :
    Reads (readHandleArray kind n) hr (writeHandleArray p) (p.received (resolved hr kind)) := by
  unfold readHandleArray writeHandleArray
  split
  · next hn =>
    subst hn
    rw [items_of_empty, Ptr.received, if_pos rfl]
    exact pure
  · exact skip (require hvalid.1) (array ⟨hreal, hvalid.2⟩ (fun _ _ => readHandle kind) 8)

end Decode.Reads

def VkFramebufferAttachmentImageInfo.received (a : VkFramebufferAttachmentImageInfo) :
    VkFramebufferAttachmentImageInfo :=
  { a with pViewFormats := a.pViewFormats.received id }

/-- A structure as it arrives: what is masked is zero, handles are those of the server, pointers lead to the
arena. -/
def Node.received (hr : Resolver) : Node → Node
  | .plain t r => .plain t (maskFields t.fields t.masked 0 r)
  | .renderPassInputAttachmentAspect count p => .renderPassInputAttachmentAspect count (p.received id)
  | .renderPassMultiview ns ps nd pd nc pc =>
    .renderPassMultiview ns (ps.received id) nd (pd.received id) nc (pc.received id)
  | .fragmentShadingRateAttachment p width height => .fragmentShadingRateAttachment (p.contents id) width height
  | .imageFormatList count p => .imageFormatList count (p.received id)
  | .samplerYcbcrConversion conversion =>
    .samplerYcbcrConversion (resolved hr .samplerYcbcrConversion conversion)
  | .framebufferAttachments count p =>
    .framebufferAttachments count (p.received VkFramebufferAttachmentImageInfo.received)
  | .renderPassAttachmentBegin count p => .renderPassAttachmentBegin count (p.received (resolved hr .imageView))
  | .timelineSemaphoreSubmit nw pw ns ps => .timelineSemaphoreSubmit nw (pw.received id) ns (ps.received id)
  | .memoryAllocateFlags flags deviceMask => .memoryAllocateFlags flags deviceMask
  | .other sType unknown => .other sType unknown

/-- All pointers of the structure are real. -/
def Node.Real : Node → Prop
  | .renderPassInputAttachmentAspect _ p => p.Real
  | .renderPassMultiview _ ps _ pd _ pc => ps.Real ∧ pd.Real ∧ pc.Real
  | .fragmentShadingRateAttachment p _ _ => p.Real
  | .imageFormatList _ p => p.Real
  | .framebufferAttachments _ p => p.Real ∧ ∀ a ∈ p.items, a.pViewFormats.Real
  | .renderPassAttachmentBegin _ p => p.Real
  | .timelineSemaphoreSubmit _ pw _ ps => pw.Real ∧ ps.Real
  | _ => True

/-- A `VkAttachmentReference2` in it says that it is one. -/
def Node.Typed : Node → Prop
  | .fragmentShadingRateAttachment p _ _ => ∀ a ∈ p.target, a.sType = attachmentReference2Type
  | _ => True

theorem isNull_iff {α : Type} {p : Ptr α} : p.isNull = true ↔ p = .null := by
  cases p with
  | null => exact iff_of_true rfl rfl
  | _ => exact iff_of_false Bool.false_ne_true nofun

theorem writeAll_eq_some {α : Type} {f : α → Option (List UInt8)} {as : List α} {bs : List UInt8}
    (h : writeAll f as = some bs) :
    (∀ a ∈ as, f a = some ((f a).getD [])) ∧ bs = as.flatMap fun a => (f a).getD [] := by
  induction as generalizing bs with
  | nil => exact ⟨fun a ha => absurd ha List.not_mem_nil, (Option.some.inj h).symm⟩
  | cons a as ih =>
    obtain ⟨x, hx, h⟩ := Option.bind_eq_some_iff.1 h
    obtain ⟨xs, hxs, h⟩ := Option.bind_eq_some_iff.1 h
    obtain ⟨hall, rfl⟩ := ih hxs
    obtain rfl := Option.some.inj h
    rw [List.flatMap_cons, hx]
    exact ⟨List.forall_mem_cons.2 ⟨by rw [hx]; rfl, hall⟩, rfl⟩

section

variable {hr : Resolver}

theorem u32s {n : ℕ} {p : Ptr (Elements UInt32 n)} : ∀ a ∈ p.items, Reads u32 hr (Writer.u32 a) (id a) :=
  fun _ _ => .u32

theorem u64s {n : ℕ} {p : Ptr (Elements UInt64 n)} : ∀ a ∈ p.items, Reads u64 hr (Writer.u64 a) (id a) :=
  fun _ _ => .u64

theorem reads_attachmentReference2 {a : VkAttachmentReference2} (hnext : a.pNext.isNull = true)
    (htype : a.sType = attachmentReference2Type) :
    Reads readAttachmentReference2 hr (writeAttachmentReference2 a) a := by
  unfold writeAttachmentReference2
  simp only [List.append_assoc]
  refine .bind .u32 (.bind .u32 (.bind .u32 (.last .u32 (.skip .requireOk (.skip (.require htype) ?_)))))
  obtain ⟨sType, pNext, attachment, layout, aspectMask⟩ := a
  obtain rfl := isNull_iff.1 hnext
  exact .pure

theorem reads_attachmentImageInfo {a : VkFramebufferAttachmentImageInfo} {bs : List UInt8}
    (hw : writeAttachmentImageInfo a = some bs) (hreal : a.pViewFormats.Real) :
    Reads readAttachmentImageInfo hr bs a.received := by
  obtain ⟨⟨htype, hnext, hformats⟩, hw⟩ := Option.ite_none_right_eq_some.1 hw
  obtain rfl := Option.some.inj hw
  simp only [List.append_assoc]
  refine .bind .u32 (.bind .u32 (.bind .u32 (.bind .u32 (.bind .u32
    (.last (.counted hformats hreal u32s 4) ?_)))))
  obtain ⟨sType, pNext, flags, usage, width, height, layerCount, viewFormatCount, pViewFormats⟩ := a
  obtain rfl := isNull_iff.1 hnext
  obtain rfl := htype
  exact .pure

theorem reads_noAttachment : Reads readShadingRateAttachment hr (Writer.u32 0) .null :=
  .last .u32 (.skip .requireOk (.skip (.require (by decide)) .pure))

theorem reads_attachment {a : VkAttachmentReference2} (hnext : a.pNext.isNull = true)
    (htype : a.sType = attachmentReference2Type) :
    Reads readShadingRateAttachment hr (Writer.u32 1 ++ writeAttachmentReference2 a) (.arena a) :=
  .bind .u32 (.skip .requireOk (.skip (.require (by decide))
    (.skip (.allocate 1 32) (.last (reads_attachmentReference2 hnext htype) .pure))))

/-- The attachment is there and says what it is, or there is none. -/
theorem reads_shadingRate {p : Ptr VkAttachmentReference2} {width height : UInt32} {bs : List UInt8}
    (hw : writeNodeFields (.fragmentShadingRateAttachment p width height) = some bs) (hreal : p.Real)
    (htyped : ∀ a ∈ p.target, a.sType = attachmentReference2Type) :
    Reads (readNodeFields .fragmentShadingRateAttachmentInfo) hr bs
      (.fragmentShadingRateAttachment (p.contents id) width height) := by
  have hextent : ∀ {q : Ptr VkAttachmentReference2} {attachment : List UInt8},
      Reads readShadingRateAttachment hr attachment q →
      Reads (readNodeFields .fragmentShadingRateAttachmentInfo) hr
        (attachment ++ Writer.u32 width ++ Writer.u32 height) (.fragmentShadingRateAttachment q width height) := by
    intro q attachment h
    rw [List.append_assoc]
    exact .bind h (.bind .u32 (.last .u32 .pure))
  have hpresent : ∀ a : VkAttachmentReference2, a.sType = attachmentReference2Type →
      writeNodeFields (.fragmentShadingRateAttachment (.arena a) width height) = some bs →
      Reads (readNodeFields .fragmentShadingRateAttachmentInfo) hr bs
        (.fragmentShadingRateAttachment (.arena a) width height) := by
    intro a htype hw
    obtain ⟨hnext, hw⟩ | ⟨-, hw⟩ := ite_eq_iff.1 hw
    · obtain rfl := Option.some.inj hw
      exact hextent (reads_attachment hnext htype)
    · cases hw
  cases p with
  | null =>
    obtain rfl := Option.some.inj hw
    exact hextent reads_noAttachment
  | host address a => exact hpresent a (htyped a rfl) hw
  | arena a => exact hpresent a (htyped a rfl) hw
  | wire bits => exact hreal.elim

/-- `read_node_fields` takes what `write_node_fields` wrote. -/
theorem reads_nodeFields {node : Node} {t : NodeType} {bs : List UInt8} (ht : node.type = some t)
    (hw : writeNodeFields node = some bs) (hreal : node.Real) (htyped : node.Typed) :
    Reads (readNodeFields t) hr bs (node.received hr) := by
  cases node with
  | plain t r =>
    obtain rfl := Option.some.inj ht
    obtain rfl := Option.some.inj hw
    exact .last (.fields (slot_size t)) .pure
  | renderPassInputAttachmentAspect count p =>
    obtain rfl := Option.some.inj ht
    obtain ⟨hvalid, hw⟩ := Option.ite_none_right_eq_some.1 hw
    obtain rfl := Option.some.inj hw
    exact .last (.counted hvalid hreal (fun _ _ => .fields (by decide)) 12) .pure
  | renderPassMultiview ns ps nd pd nc pc =>
    obtain rfl := Option.some.inj ht
    obtain ⟨⟨hs, hd, hc⟩, hw⟩ := Option.ite_none_right_eq_some.1 hw
    obtain rfl := Option.some.inj hw
    obtain ⟨hrs, hrd, hrc⟩ := hreal
    simp only [List.append_assoc]
    simp only [← List.append_assoc (Writer.u32 ns), ← List.append_assoc (Writer.u32 nd)]
    exact .bind (.counted hs hrs u32s 4) (.bind (.counted hd hrd u32s 4) (.last (.counted hc hrc u32s 4) .pure))
  | fragmentShadingRateAttachment p width height =>
    obtain rfl := Option.some.inj ht
    exact reads_shadingRate hw hreal htyped
  | imageFormatList count p =>
    obtain rfl := Option.some.inj ht
    obtain ⟨hvalid, hw⟩ := Option.ite_none_right_eq_some.1 hw
    obtain rfl := Option.some.inj hw
    exact .last (.counted hvalid hreal u32s 4) .pure
  | samplerYcbcrConversion conversion =>
    obtain rfl := Option.some.inj ht
    obtain rfl := Option.some.inj hw
    exact .last .u64 (.skip (.patchHandle .samplerYcbcrConversion conversion) .pure)
  | framebufferAttachments count p =>
    obtain rfl := Option.some.inj ht
    obtain ⟨hvalid, hw⟩ := Option.ite_none_right_eq_some.1 hw
    obtain ⟨infos, hinfos, hw⟩ := Option.bind_eq_some_iff.1 hw
    obtain rfl := Option.some.inj hw
    obtain ⟨hall, rfl⟩ := writeAll_eq_some hinfos
    have hread : ∀ a ∈ p.items, Reads readAttachmentImageInfo hr ((writeAttachmentImageInfo a).getD [])
        a.received := fun a ha => reads_attachmentImageInfo (hall a ha) (hreal.2 a ha)
    exact .last (.counted hvalid hreal.1 hread 48) .pure
  | renderPassAttachmentBegin count p =>
    obtain rfl := Option.some.inj ht
    obtain ⟨hvalid, hw⟩ := Option.ite_none_right_eq_some.1 hw
    obtain rfl := Option.some.inj hw
    exact .bind .u32 (.skip .requireOk (.skip (.require hvalid.1)
      (.last (.handles hvalid hreal .imageView) .pure)))
  | timelineSemaphoreSubmit nw pw ns ps =>
    obtain rfl := Option.some.inj ht
    obtain ⟨⟨hwaits, hsignals⟩, hw⟩ := Option.ite_none_right_eq_some.1 hw
    obtain rfl := Option.some.inj hw
    rw [List.append_assoc (Writer.u32 nw ++ writeU64s pw)]
    exact .bind (.counted hwaits hreal.1 u64s 8) (.last (.counted hsignals hreal.2 u64s 8) .pure)
  | memoryAllocateFlags flags deviceMask =>
    obtain rfl := Option.some.inj ht
    obtain ⟨hvalid, hw⟩ := Option.ite_none_right_eq_some.1 hw
    obtain rfl := Option.some.inj hw
    exact .bind .u32 (.last .u32 (.skip (.require hvalid) .pure))
  | other sType unknown => cases ht

end

/-- The nodes that are sent: those of the loader in the chain of a device stay at home. -/
def PNext.sent (context : PNextContext) (chain : PNext) : List Node :=
  chain.nodes.filter fun node => !node.skipped context

/-- A chain as it arrives. -/
def PNext.received (context : PNextContext) (hr : Resolver) (chain : PNext) : PNext :=
  PNext.ofNodes ((chain.sent context).map (Node.received hr))

/-- All pointers of the chain are real. -/
def PNext.Real : PNext → Prop
  | .null => True
  | .host _ node next => node.Real ∧ next.Real
  | .arena node next => node.Real ∧ next.Real
  | .wire _ => False

theorem PNext.Real.nodes {chain : PNext} (h : chain.Real) : ∀ node ∈ chain.nodes, node.Real := by
  induction chain with
  | null => exact fun node hnode => absurd hnode List.not_mem_nil
  | host address node next ih => exact List.forall_mem_cons.2 ⟨h.1, ih h.2⟩
  | arena node next ih => exact List.forall_mem_cons.2 ⟨h.1, ih h.2⟩
  | wire bits => exact h.elim

theorem PNext.nodes_ofNodes (ns : List Node) : (PNext.ofNodes ns).nodes = ns := by
  induction ns with
  | nil => rfl
  | cons n ns ih => exact congrArg (n :: ·) ih

section

variable {context : PNextContext} {hr : Resolver}

theorem not_skipped {node : Node} (h : node.allowed context = true) :
    ¬ (context = .deviceCreate ∧ node.sType = loaderDeviceCreateInfo) := by
  rintro ⟨rfl, hloader⟩
  obtain ⟨t, ht, hmem⟩ := allowed_iff.1 h
  have hcode : ∀ t ∈ pnextAllowed .deviceCreate, t.code ≠ loaderDeviceCreateInfo := by decide
  exact hcode t hmem (sType_of_type ht ▸ hloader)

/-- Nodes that may be sent together are taken as they are. -/
theorem collectChain_all {ns seen : List Node} (hallowed : ∀ n ∈ ns, n.allowed context = true)
    (hnodup : ((seen ++ ns).map Node.sType).Nodup) (hlen : (seen ++ ns).length ≤ kMaxPNextNodes) :
    collectChain context ns seen = some (seen ++ ns) := by
  induction ns generalizing seen with
  | nil => rw [collectChain, List.append_nil]
  | cons n ns ih =>
    obtain ⟨hn, hns⟩ := List.forall_mem_cons.1 hallowed
    have happend : seen ++ n :: ns = (seen ++ [n]) ++ ns := by rw [List.append_assoc, List.singleton_append]
    have hroom : seen.length ≠ kMaxPNextNodes := by
      rw [List.length_append, List.length_cons] at hlen
      omega
    have hfresh : ¬ ∃ previous ∈ seen, previous.sType = n.sType := by
      rintro ⟨previous, hprevious, heq⟩
      rw [List.map_append, List.map_cons] at hnodup
      exact List.disjoint_of_nodup_append hnodup (List.mem_map_of_mem hprevious)
        (heq ▸ List.mem_cons_self)
    rw [collectChain, if_neg (not_skipped hn), if_neg (not_or.2 ⟨hroom, not_not.2 hn⟩), if_neg hfresh, happend]
    rw [happend] at hnodup hlen
    exact ih hns hnodup hlen

theorem writeNode_eq_some {node : Node} {bs : List UInt8} (h : writeNode node = some bs) :
    ∃ fields, writeNodeFields node = some fields ∧ bs = Writer.i32 node.sType ++ fields := by
  obtain ⟨fields, hfields, h⟩ := Option.bind_eq_some_iff.1 h
  exact ⟨fields, hfields, (Option.some.inj h).symm⟩

/-- The loop of `read_pnext_chain`. -/
theorem reads_nodes {ns : List Node} {seen : List UInt32} {bs : List UInt8}
    (hallowed : ∀ n ∈ ns, n.allowed context = true) (hnodup : (ns.map Node.sType).Nodup)
    (hseen : ∀ n ∈ ns, n.sType ∉ seen) (hw : writeAll writeNode ns = some bs) (hreal : ∀ n ∈ ns, n.Real)
    (htyped : ∀ n ∈ ns, n.Typed) :
    Reads (readNodes context ns.length seen) hr bs (ns.map (Node.received hr)) := by
  induction ns generalizing seen bs with
  | nil =>
    obtain rfl := Option.some.inj hw
    exact .pure
  | cons n ns ih =>
    obtain ⟨x, hx, hw⟩ := Option.bind_eq_some_iff.1 hw
    obtain ⟨xs, hxs, hw⟩ := Option.bind_eq_some_iff.1 hw
    obtain rfl := Option.some.inj hw
    obtain ⟨fields, hfields, rfl⟩ := writeNode_eq_some hx
    obtain ⟨hn, hns⟩ := List.forall_mem_cons.1 hallowed
    obtain ⟨t, ht, hmem⟩ := allowed_iff.1 hn
    have htype : allowedType context n.sType = some t := by rw [sType_of_type ht, allowedType_code hmem]
    rw [List.map_cons, List.nodup_cons] at hnodup
    have hfresh : ∀ m ∈ ns, m.sType ∉ seen ++ [n.sType] := by
      intro m hm
      rw [List.mem_append, List.mem_singleton, not_or]
      exact ⟨hseen m (List.mem_cons_of_mem _ hm), fun heq => hnodup.1 (heq ▸ List.mem_map_of_mem hm)⟩
    have hrest := ih hns hnodup.2 hfresh hxs (fun m hm => hreal m (List.mem_cons_of_mem _ hm))
      fun m hm => htyped m (List.mem_cons_of_mem _ hm)
    rw [List.append_assoc]
    refine .bind .u32 (.skip .requireOk ?_)
    rw [htype]
    exact .skip (.require (hseen n List.mem_cons_self)) (.skip (.allocate 1 t.nodeSize)
      (.bind (reads_nodeFields ht hfields (hreal n List.mem_cons_self) (htyped n List.mem_cons_self))
        (.skip .requireOk (.last hrest .pure))))

theorem reads_pnextChain {chain : PNext} {bytes : List UInt8} (hw : writePnextChain context chain = some bytes)
    (hreal : chain.Real) (htyped : ∀ n ∈ chain.nodes, n.Typed) :
    Reads (readPnextChain context) hr bytes (chain.received context hr) := by
  obtain ⟨ns, hns, hw⟩ := Option.bind_eq_some_iff.1 hw
  obtain ⟨encoded, hencoded, hw⟩ := Option.bind_eq_some_iff.1 hw
  obtain rfl := Option.some.inj hw
  obtain ⟨hallowed, hnodup, hlen⟩ := collectChain_spec hns (by simp) (by simp) (by simp)
  obtain rfl : ns = chain.sent context := collectChain_eq hns
  have hcount : (UInt32.ofNat (chain.sent context).length).toNat = (chain.sent context).length := by
    apply UInt32.toNat_ofNat_of_lt'
    unfold kMaxPNextNodes at hlen
    norm_num
    omega
  have hmem : ∀ n ∈ chain.sent context, n ∈ chain.nodes := fun n hn => List.mem_of_mem_filter hn
  refine .bind .u32 (.skip .requireOk (.skip (.require (hcount.trans_le hlen))
    (.last ?_ (.skip .requireOk .pure))))
  rw [hcount]
  exact reads_nodes hallowed hnodup (fun _ _ => List.not_mem_nil) hencoded
    (fun n hn => hreal.nodes n (hmem n hn)) fun n hn => htyped n (hmem n hn)

/-! ### Encoding what was decoded -/

@[simp] theorem type_received (node : Node) : (node.received hr).type = node.type := by
  cases node <;> rfl

@[simp] theorem sType_received (node : Node) : (node.received hr).sType = node.sType := by
  cases node <;> rfl

theorem map_sType_received (ns : List Node) : (ns.map (Node.received hr)).map Node.sType = ns.map Node.sType := by
  rw [List.map_map]
  exact List.map_congr_left fun n _ => sType_received n

theorem allowed_received (node : Node) : (node.received hr).allowed context = node.allowed context := by
  rw [Node.allowed, type_received, Node.allowed]

theorem maskFields_maskFields (ss : List Slot) (masked : List ℕ) (i : ℕ) (r : Record ss) :
    maskFields ss masked i (maskFields ss masked i r) = maskFields ss masked i r := by
  induction ss generalizing i with
  | nil => rfl
  | cons x ss ih =>
    cases x with
    | u32 =>
      obtain ⟨v, r⟩ := r
      simp only [maskFields, ih]
      split <;> rfl
    | u64 =>
      obtain ⟨v, r⟩ := r
      simp only [maskFields, ih]
      split <;> rfl
    | blob n =>
      obtain ⟨b, r⟩ := r
      simp only [maskFields, ih]
      split <;> rfl
    | pad n => exact ih i r

section

variable {α β γ : Type} {n : ℕ} {f : α → β} {p : Ptr (Elements α n)}

theorem real_received (hreal : p.Real) : (p.received f).Real := by
  unfold Ptr.received
  split
  · trivial
  · cases p <;> trivial

theorem validArray_received (hvalid : validArray p) : validArray (p.received f) := by
  refine ⟨hvalid.1, fun hn => ?_⟩
  rw [Ptr.received, if_neg hn, Ptr.isNull_contents]
  exact hvalid.2 hn

theorem received_received {g : β → γ} {h : α → γ} (hcomp : ∀ a ∈ p.items, g (f a) = h a) :
    (p.received f).received g = p.received h := by
  have hmap : ∀ v : Elements α n, p.items = v.toList → (v.map f).map g = v.map h := by
    intro v hv
    apply List.Vector.toList_injective
    rw [List.Vector.toList_map, List.Vector.toList_map, List.Vector.toList_map, List.map_map, ← hv]
    exact List.map_congr_left hcomp
  unfold Ptr.received
  split
  · rfl
  · cases p with
    | null => rfl
    | host address v => exact congrArg Ptr.arena (hmap v rfl)
    | arena v => exact congrArg Ptr.arena (hmap v rfl)
    | wire bits => rfl

theorem items_received : (p.received f).items = p.items.map f := by
  unfold Ptr.received
  split
  · next hn =>
    subst hn
    rw [Reads.items_of_empty p]
    rfl
  · exact Ptr.items_contents f p

end

theorem exists_writeAll {α : Type} {f : α → Option (List UInt8)} {as : List α}
    (h : ∀ a ∈ as, ∃ bs, f a = some bs) : ∃ bs, writeAll f as = some bs := by
  induction as with
  | nil => exact ⟨[], rfl⟩
  | cons a as ih =>
    obtain ⟨ha, has⟩ := List.forall_mem_cons.1 h
    obtain ⟨x, hx⟩ := ha
    obtain ⟨xs, hxs⟩ := ih has
    exact ⟨x ++ xs, by rw [writeAll, hx, hxs]; rfl⟩

theorem attachmentImageInfo_received {a : VkFramebufferAttachmentImageInfo} {bs : List UInt8}
    (hw : writeAttachmentImageInfo a = some bs) : ∃ bs', writeAttachmentImageInfo a.received = some bs' := by
  obtain ⟨⟨htype, hnext, hformats⟩, -⟩ := Option.ite_none_right_eq_some.1 hw
  exact ⟨_, if_pos ⟨htype, hnext, validArray_received hformats⟩⟩

/-- What was encoded is encoded again when it has arrived. -/
theorem writeNodeFields_received {node : Node} {bs : List UInt8} (hw : writeNodeFields node = some bs) :
    ∃ bs', writeNodeFields (node.received hr) = some bs' := by
  cases node with
  | plain t r => exact ⟨_, rfl⟩
  | renderPassInputAttachmentAspect count p =>
    obtain ⟨hvalid, -⟩ := Option.ite_none_right_eq_some.1 hw
    exact ⟨_, if_pos (validArray_received hvalid)⟩
  | renderPassMultiview ns ps nd pd nc pc =>
    obtain ⟨⟨hs, hd, hc⟩, -⟩ := Option.ite_none_right_eq_some.1 hw
    exact ⟨_, if_pos ⟨validArray_received hs, validArray_received hd, validArray_received hc⟩⟩
  | fragmentShadingRateAttachment p width height => cases p <;> exact ⟨bs, hw⟩
  | imageFormatList count p =>
    obtain ⟨hvalid, -⟩ := Option.ite_none_right_eq_some.1 hw
    exact ⟨_, if_pos (validArray_received hvalid)⟩
  | samplerYcbcrConversion conversion => exact ⟨_, rfl⟩
  | framebufferAttachments count p =>
    obtain ⟨hvalid, hw⟩ := Option.ite_none_right_eq_some.1 hw
    obtain ⟨infos, hinfos, -⟩ := Option.bind_eq_some_iff.1 hw
    have hall : ∀ a ∈ (p.received VkFramebufferAttachmentImageInfo.received).items,
        ∃ bs', writeAttachmentImageInfo a = some bs' := by
      intro a ha
      rw [items_received] at ha
      obtain ⟨b, hb, rfl⟩ := List.mem_map.1 ha
      exact attachmentImageInfo_received ((writeAll_eq_some hinfos).1 b hb)
    obtain ⟨infos', hinfos'⟩ := exists_writeAll hall
    refine ⟨Writer.u32 count ++ infos', ?_⟩
    rw [Node.received, writeNodeFields, if_pos (validArray_received hvalid), hinfos']
    rfl
  | renderPassAttachmentBegin count p =>
    obtain ⟨hvalid, -⟩ := Option.ite_none_right_eq_some.1 hw
    exact ⟨_, if_pos (validArray_received hvalid)⟩
  | timelineSemaphoreSubmit nw pw ns ps =>
    obtain ⟨⟨hwaits, hsignals⟩, -⟩ := Option.ite_none_right_eq_some.1 hw
    exact ⟨_, if_pos ⟨validArray_received hwaits, validArray_received hsignals⟩⟩
  | memoryAllocateFlags flags deviceMask => exact ⟨bs, hw⟩
  | other sType unknown => cases hw

theorem Node.Real.received {node : Node} (h : node.Real) : (node.received hr).Real := by
  cases node with
  | renderPassInputAttachmentAspect count p => exact real_received h
  | renderPassMultiview ns ps nd pd nc pc => exact ⟨real_received h.1, real_received h.2.1, real_received h.2.2⟩
  | fragmentShadingRateAttachment p width height => cases p <;> exact h
  | imageFormatList count p => exact real_received h
  | framebufferAttachments count p =>
    refine ⟨real_received h.1, fun a ha => ?_⟩
    rw [items_received] at ha
    obtain ⟨b, hb, rfl⟩ := List.mem_map.1 ha
    exact real_received (h.2 b hb)
  | renderPassAttachmentBegin count p => exact real_received h
  | timelineSemaphoreSubmit nw pw ns ps => exact ⟨real_received h.1, real_received h.2⟩
  | _ => trivial

theorem Node.Typed.received {node : Node} (h : node.Typed) : (node.received hr).Typed := by
  cases node with
  | fragmentShadingRateAttachment p width height => cases p <;> exact h
  | _ => trivial

/-- A resolver that leaves the handles of another one alone. -/
def Resolver.Fixes (hr' hr : Resolver) : Prop := ∀ kind id, hr' kind (hr kind id) = hr kind id

theorem resolved_resolved {hr' : Resolver} (hfix : hr'.Fixes hr) (kind : HandleKind) (id : UInt64) :
    resolved hr' kind (resolved hr kind id) = resolved hr kind id := by
  by_cases hid : id = 0
  · simp only [resolved, if_pos hid]
    rfl
  · rw [resolved, resolved, if_neg hid, hfix kind id]
    exact ite_eq_right_iff.2 fun h => h.symm

/-- What has arrived arrives as it is. -/
theorem Node.received_received {hr' : Resolver} (hfix : hr'.Fixes hr) (node : Node) :
    (node.received hr).received hr' = node.received hr := by
  have hsame : ∀ {α : Type} {n : ℕ} (p : Ptr (Elements α n)), (p.received id).received id = p.received id :=
    fun p => Marshal.received_received fun _ _ => rfl
  cases node with
  | plain t r => exact congrArg (Node.plain t) (maskFields_maskFields t.fields t.masked 0 r)
  | fragmentShadingRateAttachment p width height => cases p <;> rfl
  | samplerYcbcrConversion conversion => exact congrArg _ (resolved_resolved hfix _ conversion)
  | framebufferAttachments count p =>
    refine congrArg _ (Marshal.received_received fun a _ => ?_)
    rw [VkFramebufferAttachmentImageInfo.received, VkFramebufferAttachmentImageInfo.received, hsame]
  | renderPassAttachmentBegin count p =>
    exact congrArg _ (Marshal.received_received fun a _ => resolved_resolved hfix .imageView a)
  | _ => simp only [Node.received, hsame]

theorem sent_received (chain : PNext) (hw : (writePnextChain context chain).isSome) :
    (chain.received context hr).sent context = (chain.sent context).map (Node.received hr) := by
  obtain ⟨bytes, hw⟩ := Option.isSome_iff_exists.1 hw
  obtain ⟨ns, hns, -⟩ := Option.bind_eq_some_iff.1 hw
  obtain ⟨hallowed, -, -⟩ := collectChain_spec hns (by simp) (by simp) (by simp)
  obtain rfl : ns = chain.sent context := collectChain_eq hns
  rw [PNext.sent, PNext.received, PNext.nodes_ofNodes]
  apply List.filter_eq_self.2
  intro node hnode
  obtain ⟨m, hm, rfl⟩ := List.mem_map.1 hnode
  rw [Bool.not_eq_true', ← Bool.not_eq_true, skipped_iff]
  exact not_skipped ((allowed_received m).trans (hallowed m hm))

theorem real_ofNodes {ns : List Node} (h : ∀ n ∈ ns, n.Real) : (PNext.ofNodes ns).Real := by
  induction ns with
  | nil => trivial
  | cons n ns ih =>
    obtain ⟨hn, hns⟩ := List.forall_mem_cons.1 h
    exact ⟨hn, ih hns⟩

/-- A chain that was encoded is encoded again when it has arrived. -/
theorem writePnextChain_received {chain : PNext} {bytes : List UInt8}
    (hw : writePnextChain context chain = some bytes) :
    ∃ bytes', writePnextChain context (chain.received context hr) = some bytes' := by
  obtain ⟨ns, hns, hw⟩ := Option.bind_eq_some_iff.1 hw
  obtain ⟨encoded, hencoded, -⟩ := Option.bind_eq_some_iff.1 hw
  obtain ⟨hallowed, hnodup, hlen⟩ := collectChain_spec hns (by simp) (by simp) (by simp)
  obtain rfl : ns = chain.sent context := collectChain_eq hns
  have hcollect : collectChain context (chain.received context hr).nodes [] =
      some ((chain.sent context).map (Node.received hr)) := by
    rw [PNext.received, PNext.nodes_ofNodes]
    refine collectChain_all (fun n hn => ?_) ?_ ?_
    · obtain ⟨m, hm, rfl⟩ := List.mem_map.1 hn
      exact (allowed_received m).trans (hallowed m hm)
    · rw [List.nil_append, map_sType_received]
      exact hnodup
    · rw [List.nil_append, List.length_map]
      exact hlen
  have hall : ∀ n ∈ (chain.sent context).map (Node.received hr), ∃ bs', writeNode n = some bs' := by
    intro n hn
    obtain ⟨m, hm, rfl⟩ := List.mem_map.1 hn
    obtain ⟨fields, hfields, -⟩ := writeNode_eq_some ((writeAll_eq_some hencoded).1 m hm)
    obtain ⟨fields', hfields'⟩ := writeNodeFields_received hfields
    exact ⟨_, by rw [writeNode, hfields']; rfl⟩
  obtain ⟨encoded', hencoded'⟩ := exists_writeAll hall
  exact ⟨_, by rw [writePnextChain, hcollect, Option.bind_eq_bind, Option.bind_some, hencoded']; rfl⟩

/-- `read_pnext_chain` takes exactly what `write_pnext_chain` wrote and returns the chain as it arrives: the
types that were sent in their order, and their fields. This chain is encoded again, and whoever leaves its
handles alone gets it back. -/
theorem pnextChain_readBack {chain : PNext} {bytes : List UInt8}
    (hw : writePnextChain context chain = some bytes) (hreal : chain.Real) (htyped : ∀ n ∈ chain.nodes, n.Typed)
    (hr hr' : Resolver) (hfix : hr'.Fixes hr) :
    Reads (readPnextChain context) hr bytes (chain.received context hr) ∧
      (chain.received context hr).nodes.map Node.sType = (chain.sent context).map Node.sType ∧
      ∃ bytes', writePnextChain context (chain.received context hr) = some bytes' ∧
        Reads (readPnextChain context) hr' bytes' (chain.received context hr) := by
  refine ⟨reads_pnextChain hw hreal htyped, ?_, ?_⟩
  · rw [PNext.received, PNext.nodes_ofNodes, map_sType_received]
  · have hwritten : ∃ bytes', writePnextChain context (chain.received context hr) = some bytes' :=
      writePnextChain_received hw
    obtain ⟨bytes', hw'⟩ := hwritten
    have hmem : ∀ n ∈ chain.sent context, n ∈ chain.nodes := fun n hn => List.mem_of_mem_filter hn
    have hagain : (chain.received context hr).received context hr' = chain.received context hr := by
      rw [PNext.received, sent_received chain (Option.isSome_iff_exists.2 ⟨bytes, hw⟩), List.map_map]
      exact congrArg PNext.ofNodes (List.map_congr_left fun m _ => Node.received_received hfix m)
    have hreads : Reads (readPnextChain context) hr' bytes' _ := reads_pnextChain hw'
      (real_ofNodes fun n hn => by
        obtain ⟨m, hm, rfl⟩ := List.mem_map.1 hn
        exact (hreal.nodes m (hmem m hm)).received)
      (fun n hn => by
        rw [PNext.received, PNext.nodes_ofNodes] at hn
        obtain ⟨m, hm, rfl⟩ := List.mem_map.1 hn
        exact (htyped m (hmem m hm)).received)
    rw [hagain] at hreads
    exact ⟨bytes', hw', hreads⟩

end

/-- A view of usage 4 (sampled), with the conversion of id 7 after it. -/
def viewChain : PNext :=
  .host ⟨0x1000, by decide⟩ (.plain .imageViewUsageCreateInfo (4, ()))
    (.host ⟨0x2000, by decide⟩ (.samplerYcbcrConversion 7) .null)

def viewBytes : List UInt8 :=
  Writer.u32 2 ++ (Writer.u32 1000117002 ++ (Writer.u32 4 ++ (Writer.u32 1000156001 ++ Writer.handle 7)))

/-- Both kinds arrive in their order, with the native handle of the conversion, and stay so when they are sent on. -/
theorem pnextChain_readBack_view :
    let chain : PNext := .arena (.plain .imageViewUsageCreateInfo (4, ())) (.arena (.samplerYcbcrConversion 1007) .null)
    Reads (readPnextChain .imageViewCreate) (fun _ id => id + 1000) viewBytes chain ∧
      ∃ bytes', writePnextChain .imageViewCreate chain = some bytes' ∧
        Reads (readPnextChain .imageViewCreate) (fun _ id => id) bytes' chain := by
  have hw : writePnextChain .imageViewCreate viewChain = some viewBytes := rfl
  have hreal : viewChain.Real := ⟨trivial, trivial, trivial⟩
  have htyped : ∀ n ∈ viewChain.nodes, n.Typed := by
    refine List.forall_mem_cons.2 ⟨trivial, List.forall_mem_singleton.2 trivial⟩
  obtain ⟨hreads, -, hagain⟩ :=
    pnextChain_readBack hw hreal htyped (fun _ id => id + 1000) (fun _ id => id) fun _ _ => rfl
  exact ⟨hreads, hagain⟩

theorem loader_unknown (t : NodeType) : t.code ≠ loaderDeviceCreateInfo := by
  cases t with
  | plain t => cases t <;> decide
  | _ => decide

/-- The chain that a loader passes to `vkCreateDevice`. -/
def loaderChain : PNext := .host ⟨0x1000, by decide⟩ (.other loaderDeviceCreateInfo loader_unknown) .null

/-- What belongs to the loader does not arrive. -/
theorem loader_not_readBack : ¬ ∀ (context : PNextContext) (chain : PNext) (bytes : List UInt8) (hr : Resolver),
    writePnextChain context chain = some bytes → ∃ chain', Reads (readPnextChain context) hr bytes chain' ∧
      chain'.nodes.map Node.sType = chain.nodes.map Node.sType := by
  intro h
  obtain ⟨chain', hreads, htypes⟩ := h .deviceCreate loaderChain (Writer.u32 0) (fun _ id => id) rfl
  obtain ⟨s, hrun, -⟩ := hreads { reader := ⟨Writer.u32 0, false⟩ } [] rfl
  obtain rfl : PNext.null = chain' := Option.some.inj (congrArg Prod.fst hrun)
  cases htypes

end VkRemote.Marshal
