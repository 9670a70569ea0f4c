import VulkanRemote.Marshal.Chain

/-! Chains that a query fills in: the client sends the types of its caller's structures, the server builds a
chain of them and answers with their values, and the client copies these into the caller's structures one
after another while it still reads the reply. -/

namespace VkRemote.Marshal

open Lib Wire Decode

/-- A structure of the caller: where its `pNext` points, and its type and fields. -/
structure ChainNode where
  pNext : UInt64
  node : Node

/-- `collect_chain` passes over it. -/
def Node.skipped (context : PNextContext) (n : Node) : Bool :=
  context = .deviceCreate && n.sType = loaderDeviceCreateInfo

/-- `write_pnext_output_topology`. -/
def writePnextOutputTopology (context : PNextContext) (nodes : List Node) : Option (List UInt8) := do
  let nodes ← collectChain context nodes []
  return Writer.u32 (UInt32.ofNat nodes.length) ++ nodes.flatMap fun n => Writer.i32 n.sType

/-- A structure of the type whose fields are all zero. -/
def Node.zero : NodeType → Node
  | .plain t => .plain t (Record.ofBytes t.fields [])
  | .renderPassInputAttachmentAspectCreateInfo => .renderPassInputAttachmentAspect 0 .null
  | .renderPassMultiviewCreateInfo => .renderPassMultiview 0 .null 0 .null 0 .null
  | .fragmentShadingRateAttachmentInfo => .fragmentShadingRateAttachment .null 0 0
  | .imageFormatListCreateInfo => .imageFormatList 0 .null
  | .samplerYcbcrConversionInfo => .samplerYcbcrConversion 0
  | .framebufferAttachmentsCreateInfo => .framebufferAttachments 0 .null
  | .renderPassAttachmentBeginInfo => .renderPassAttachmentBegin 0 .null
  | .timelineSemaphoreSubmitInfo => .timelineSemaphoreSubmit 0 .null 0 .null
  | .memoryAllocateFlagsInfo => .memoryAllocateFlags 0 0

/-- The loop of `read_pnext_output_topology`. -/
def readTopologyNodes (context : PNextContext) : ℕ → List UInt32 → Decode (List Node)
  | 0, _ => pure []
  | n + 1, seen => do
    let code ← i32
    requireOk
    match allowedType context code with
    | none => fun _ s => (none, s)
    | some t => do
      require (code ∉ seen)
      allocate 1 t.nodeSize
      let nodes ← readTopologyNodes context n (seen ++ [code])
      return Node.zero t :: nodes

/-- `read_pnext_output_topology`. -/
def readPnextOutputTopology (context : PNextContext) : Decode (List Node) := do
  let count ← u32
  requireOk
  require (count.toNat ≤ kMaxPNextNodes)
  let nodes ← readTopologyNodes context count.toNat []
  requireOk
  return nodes

/-- `write_pnext_output_values`. -/
def writePnextOutputValues (context : PNextContext) (nodes : List Node) : Option (List UInt8) :=
  writePnextChain context (PNext.ofNodes nodes)

/-- The types that have a case in the switch of `apply_pnext_output_values`. -/
def outputTypes : List PlainType :=
  [.physicalDeviceFragmentShadingRateFeatures, .physicalDeviceVulkan11Features,
    .physicalDeviceVulkan12Features, .physicalDeviceHostQueryResetFeatures,
    .physicalDeviceTimelineSemaphoreFeatures, .physicalDeviceSynchronization2Features,
    .physicalDeviceBufferDeviceAddressFeatures, .physicalDeviceDescriptorIndexingFeatures,
    .physicalDeviceSeparateDepthStencilLayoutsFeatures, .physicalDeviceVulkan11Properties,
    .physicalDeviceVulkan12Properties, .physicalDeviceTimelineSemaphoreProperties,
    .physicalDeviceDepthStencilResolveProperties, .physicalDeviceDescriptorIndexingProperties,
    .physicalDeviceProtectedMemoryFeatures, .physicalDeviceSamplerYcbcrConversionFeatures,
    .physicalDeviceSubgroupProperties, .physicalDeviceIdProperties, .physicalDeviceProtectedMemoryProperties,
    .physicalDeviceMaintenance3Properties, .physicalDeviceFragmentShadingRateProperties,
    .physicalDeviceImagelessFramebufferFeatures, .physicalDeviceMultiviewFeatures,
    .physicalDeviceMultiviewProperties, .physicalDevicePointClippingProperties, .memoryDedicatedRequirements,
    .samplerYcbcrConversionImageFormatProperties]

/-- The structure is one that is copied back. -/
def Node.copied : Node → Bool
  | .plain t _ => t ∈ outputTypes
  | _ => false

/-- One turn of the loop of `apply_pnext_output_values`, up to the copy: the structure decoded into
temporary storage. -/
def readOutput (caller : Node) : Decode Node := do
  let type ← i32
  requireOk
  require (type = caller.sType)
  match caller.type with
  | none => fun _ s => (none, s)
  | some t => do
    allocate 1 t.nodeSize
    let temp ← readNodeFields t
    requireOk
    require (caller.copied = true)
    return temp

/-- `NullResolver`. -/
def nullResolver : Resolver := fun _ _ => 0

/-- `COPY_OUTPUT`. -/
def copyOutput (dst : ChainNode) (src : Node) : ChainNode :=
  let copy : ChainNode := ⟨0, src⟩
  { copy with pNext := dst.pNext }

/-- The loop of `apply_pnext_output_values`: the caller's structures as it leaves them, and whether it came
to the end. -/
def applyNodes (context : PNextContext) : List ChainNode → DecodeState → (List ChainNode × Bool) × DecodeState
  | [], s => (([], true), s)
  | c :: rest, s =>
    if c.node.skipped context then
      let r := applyNodes context rest s
      ((c :: r.1.1, r.1.2), r.2)
    else match readOutput c.node nullResolver s with
      | (some temp, s) =>
        let r := applyNodes context rest s
        ((copyOutput c temp :: r.1.1, r.1.2), r.2)
      | (none, s) => ((c :: rest, false), s)

/-- The count of the reply has to be the number of structures. -/
def readOutputCount (n : ℕ) : Decode Unit := do
  let count ← u32
  requireOk
  require (count.toNat = n ∧ count.toNat ≤ kMaxPNextNodes)

/-- `apply_pnext_output_values`. -/
def applyPnextOutputValues (context : PNextContext) (caller : List ChainNode) (s : DecodeState) :
    (List ChainNode × Bool) × DecodeState :=
  match collectChain context (caller.map ChainNode.node) [] with
  | none => ((caller, false), s)
  | some nodes =>
    match readOutputCount nodes.length nullResolver s with
    | (none, s) => ((caller, false), s)
    | (some _, s) =>
      let r := applyNodes context caller s
      ((r.1.1, r.1.2 && r.2.reader.ok), r.2)

section

variable {context : PNextContext}

theorem skipped_iff {n : Node} :
    n.skipped context = true ↔ context = .deviceCreate ∧ n.sType = loaderDeviceCreateInfo := by
  rw [Node.skipped, Bool.and_eq_true, decide_eq_true_eq, decide_eq_true_eq]

/-- What `collect_chain` takes is the chain without the structures it passes over. -/
theorem collectChain_eq {nodes seen ns : List Node} (h : collectChain context nodes seen = some ns) :
    ns = seen ++ nodes.filter fun n => !n.skipped context := by
  induction nodes generalizing seen with
  | nil =>
    rw [collectChain, Option.some.injEq] at h
    rw [← h, List.filter_nil, List.append_nil]
  | cons n nodes ih =>
    unfold collectChain at h
    split at h
    · next hskip =>
      rw [List.filter_cons_of_neg (by rw [skipped_iff.2 hskip]; decide)]
      exact ih h
    · next hskip =>
      split at h
      · cases h
      · split at h
        · cases h
        · have hkept : n.skipped context = false := by
            rw [← Bool.not_eq_true, skipped_iff]
            exact hskip
          rw [List.filter_cons_of_pos (by rw [hkept]; decide), ih h, List.append_assoc]
          rfl

/-- The structures taken are allowed, of different types, and few. -/
theorem collectChain_spec {nodes seen ns : List Node} (h : collectChain context nodes seen = some ns)
    (hallowed : ∀ n ∈ seen, n.allowed context = true) (hnodup : (seen.map Node.sType).Nodup)
    (hlen : seen.length ≤ kMaxPNextNodes) :
    (∀ n ∈ ns, n.allowed context = true) ∧ (ns.map Node.sType).Nodup ∧ ns.length ≤ kMaxPNextNodes := by
  induction nodes generalizing seen with
  | nil =>
    obtain rfl := Option.some.inj h
    exact ⟨hallowed, hnodup, hlen⟩
  | cons n nodes ih =>
    unfold collectChain at h
    split at h
    · exact ih h hallowed hnodup hlen
    · split at h
      · cases h
      · next hroom =>
        split at h
        · cases h
        · next hdup =>
          obtain ⟨hlt, hn⟩ := not_or.1 hroom
          apply ih h
          · intro m hm
            rcases List.mem_append.1 hm with hm | hm
            · exact hallowed m hm
            · rw [List.mem_singleton.1 hm]
              exact of_not_not hn
          · rw [List.map_append, List.map_singleton, List.nodup_append_comm, List.singleton_append,
              List.nodup_cons]
            exact ⟨fun hm => hdup (List.mem_map.1 hm), hnodup⟩
          · rw [List.length_append, List.length_singleton]
            exact Nat.lt_of_le_of_ne hlen hlt

/-- No two structures of a context have the same code. -/
theorem code_inj {t t' : NodeType} (h : t ∈ pnextAllowed context) (h' : t' ∈ pnextAllowed context)
    (hcode : t.code = t'.code) : t = t' := by
  have hnodup : ((pnextAllowed context).map NodeType.code).Nodup := by cases context <;> decide
  exact List.inj_on_of_nodup_map hnodup h h' hcode

theorem allowed_iff {n : Node} :
    n.allowed context = true ↔ ∃ t, n.type = some t ∧ t ∈ pnextAllowed context := by
  rw [Node.allowed, Option.any_eq_true]
  simp only [decide_eq_true_eq]

theorem sType_of_type {n : Node} {t : NodeType} (h : n.type = some t) : n.sType = t.code := by
  cases n with
  | other s unknown => cases h
  | _ =>
    obtain rfl := Option.some.inj h
    rfl

theorem allowedType_code {t : NodeType} (h : t ∈ pnextAllowed context) : allowedType context t.code = some t := by
  unfold allowedType
  cases hfind : (pnextAllowed context).find? fun t' => t'.code == t.code with
  | none => exact absurd (List.find?_eq_none.1 hfind t h) (by simp)
  | some t' =>
    have hcode : t'.code = t.code := by simpa using List.find?_some hfind
    rw [code_inj (List.mem_of_find?_eq_some hfind) h hcode]

end

/-! ### Decoding what was written -/

section

variable {context : PNextContext} {hr : Resolver} {s : DecodeState}

/-- The state has the bytes to read, and has not failed. -/
def DecodeState.has (s : DecodeState) (bs : List UInt8) : Prop := s.reader = ⟨bs, false⟩

theorem u32_has (hr : Resolver) {v : UInt32} {tail : List UInt8} (h : s.has (Writer.u32 v ++ tail)) :
    ∃ s', u32 hr s = (some v, s') ∧ s'.has tail := by
  refine ⟨{ s with reader := ⟨tail, false⟩ }, ?_, rfl⟩
  unfold u32 ofReader
  rw [h, Reader.u32_writer]

theorem u64_has (hr : Resolver) {v : UInt64} {tail : List UInt8} (h : s.has (Writer.u64 v ++ tail)) :
    ∃ s', u64 hr s = (some v, s') ∧ s'.has tail := by
  refine ⟨{ s with reader := ⟨tail, false⟩ }, ?_, rfl⟩
  unfold u64 ofReader
  rw [h, Reader.u64_writer]

theorem bytes_has (hr : Resolver) {n : ℕ} {b : Blob n} {tail : List UInt8} (hn : n < 2 ^ 32)
    (h : s.has (Writer.bytes b.val ++ tail)) : ∃ s', bytes n hr s = (some b.val, s') ∧ s'.has tail := by
  refine ⟨{ s with reader := ⟨tail, false⟩ }, ?_, rfl⟩
  have hlen := b.property
  unfold Decode.bytes
  rw [h, Reader.bytes_writer tail (by omega) (by omega)]

theorem requireOk_has {bs : List UInt8} (h : s.has bs) : requireOk hr s = (some (), s) := by
  unfold requireOk
  rw [h]
  rfl

theorem require_pos {p : Prop} [Decidable p] (h : p) : require p hr s = (some (), s) := by
  unfold require
  rw [if_pos h]

theorem allocate_has (hr : Resolver) {bs : List UInt8} (h : s.has bs) (count size : ℕ) :
    ∃ s', allocate count size hr s = (some (), s') ∧ s'.has bs := by
  unfold allocate
  split
  · exact ⟨s, rfl, h⟩
  · exact ⟨_, rfl, h⟩

theorem bind_of {α β : Type} {m : Decode α} {k : α → Decode β} {s' : DecodeState} {a : α}
    (h : m hr s = (some a, s')) : (m >>= k) hr s = k a hr s' := by
  simp only [Bind.bind, h]

/-- Fields are read back as they were written. -/
theorem readFields_has (hr : Resolver) (ss : List Slot) (hsize : ∀ x ∈ ss, x.size < 2 ^ 32) (r : Record ss)
    {tail : List UInt8} (h : s.has (writeFields ss r ++ tail)) :
    ∃ s', readFields ss hr s = (some r, s') ∧ s'.has tail := by
  induction ss generalizing s with
  | nil => exact ⟨s, rfl, h⟩
  | cons x ss ih =>
    have hrest := fun y hy => hsize y (List.mem_cons_of_mem _ hy)
    cases x with
    | u32 =>
      obtain ⟨v, r⟩ := r
      rw [writeFields, List.append_assoc] at h
      obtain ⟨s₁, hv, h₁⟩ := u32_has hr h
      obtain ⟨s₂, hr₂, h₂⟩ := ih hrest r h₁
      exact ⟨s₂, by rw [readFields, bind_of hv, bind_of hr₂]; rfl, h₂⟩
    | u64 =>
      obtain ⟨v, r⟩ := r
      rw [writeFields, List.append_assoc] at h
      obtain ⟨s₁, hv, h₁⟩ := u64_has hr h
      obtain ⟨s₂, hr₂, h₂⟩ := ih hrest r h₁
      exact ⟨s₂, by rw [readFields, bind_of hv, bind_of hr₂]; rfl, h₂⟩
    | blob n =>
      obtain ⟨b, r⟩ := r
      rw [writeFields, List.append_assoc] at h
      have hn : n < 2 ^ 32 := hsize (.blob n) List.mem_cons_self
      obtain ⟨s₁, hb, h₁⟩ := bytes_has hr hn h
      obtain ⟨s₂, hr₂, h₂⟩ := ih hrest r h₁
      have hblob : Blob.ofBytes n b.val = b := by
        have := Blob.ofBytes_append b []
        rwa [List.append_nil] at this
      refine ⟨s₂, ?_, h₂⟩
      rw [readFields, bind_of hb, bind_of (require_pos b.property), bind_of hr₂, hblob]
      rfl
    | pad n => exact ih hrest r h

theorem readTopologyNodes_has (hr : Resolver) {ns : List Node} {seen : List UInt32} {tail : List UInt8}
    (hallowed : ∀ n ∈ ns, n.allowed context = true) (hnodup : (ns.map Node.sType).Nodup)
    (hseen : ∀ n ∈ ns, n.sType ∉ seen)
    (h : s.has ((ns.flatMap fun n => Writer.i32 n.sType) ++ tail)) :
    ∃ zs s', readTopologyNodes context ns.length seen hr s = (some zs, s') ∧
      zs.map Node.type = ns.map Node.type ∧ s'.has tail := by
  induction ns generalizing s seen with
  | nil => exact ⟨[], s, rfl, rfl, h⟩
  | cons n ns ih =>
    obtain ⟨t, ht, hmem⟩ := allowed_iff.1 (hallowed n List.mem_cons_self)
    rw [List.flatMap_cons, List.append_assoc] at h
    obtain ⟨s₁, hcode, h₁⟩ := u32_has hr h
    obtain ⟨s₂, halloc, h₂⟩ := allocate_has hr h₁ 1 t.nodeSize
    rw [List.map_cons, List.nodup_cons] at hnodup
    have hfresh : ∀ m ∈ ns, m.sType ∉ seen ++ [n.sType] := by
      intro m hm
      rw [List.mem_append, List.mem_singleton, not_or]
      exact ⟨hseen m (List.mem_cons_of_mem _ hm), fun heq => hnodup.1 (heq ▸ List.mem_map_of_mem hm)⟩
    obtain ⟨zs, s₃, hzs, htypes, h₃⟩ := ih (fun m hm => hallowed m (List.mem_cons_of_mem _ hm)) hnodup.2
      hfresh h₂
    have htype : allowedType context n.sType = some t := by rw [sType_of_type ht, allowedType_code hmem]
    refine ⟨Node.zero t :: zs, s₃, ?_, ?_, h₃⟩
    · rw [List.length_cons, readTopologyNodes, bind_of hcode, bind_of (requireOk_has h₁), htype]
      dsimp only
      rw [bind_of (require_pos (hseen n List.mem_cons_self)), bind_of halloc, bind_of hzs]
      rfl
    · have hzero : (Node.zero t).type = some t := by cases t <;> rfl
      rw [List.map_cons, List.map_cons, hzero, ht, htypes]

/-- The server chain has the types that were collected from the caller's. -/
theorem readPnextOutputTopology_has (hr : Resolver) {nodes ns : List Node} (h : collectChain context nodes [] = some ns)
    {topology : List UInt8} (hw : writePnextOutputTopology context nodes = some topology)
    (hs : s.has topology) :
    ∃ zs s', readPnextOutputTopology context hr s = (some zs, s') ∧ zs.map Node.type = ns.map Node.type := by
  obtain ⟨hallowed, hnodup, hlen⟩ := collectChain_spec h (by simp) (by simp) (by simp)
  have hcount : (UInt32.ofNat ns.length).toNat = ns.length := by
    apply UInt32.toNat_ofNat_of_lt'
    unfold kMaxPNextNodes at hlen
    norm_num
    omega
  simp only [writePnextOutputTopology, h, Option.bind_eq_bind, Option.bind_some, Option.pure_def,
    Option.some.injEq] at hw
  rw [← hw, ← List.append_nil (ns.flatMap _)] at hs
  obtain ⟨s₁, hread, h₁⟩ := u32_has hr hs
  have hfresh : ∀ n ∈ ns, n.sType ∉ ([] : List UInt32) := fun _ _ => List.not_mem_nil
  obtain ⟨zs, s₂, hzs, htypes, h₂⟩ := readTopologyNodes_has hr hallowed hnodup hfresh h₁
  refine ⟨zs, s₂, ?_, htypes⟩
  rw [readPnextOutputTopology, bind_of hread, bind_of (requireOk_has h₁), hcount, bind_of (require_pos hlen),
    bind_of hzs, bind_of (requireOk_has h₂)]
  rfl

/-- What the value encoding lets out of a structure: the fields that are withheld are zero. -/
def Node.output : Node → Node
  | .plain t r => .plain t (maskFields t.fields t.masked 0 r)
  | n => n

theorem slot_size (t : PlainType) : ∀ x ∈ t.fields, x.size < 2 ^ 32 := by
  cases t <;> decide

/-- The caller's structure and the server's are of the same type, one that is copied. -/
theorem readOutput_has (hr : Resolver) {caller server : Node} (htype : server.type = caller.type)
    (hcopied : caller.copied = true) {bs tail : List UInt8} (hw : writeNode server = some bs)
    (h : s.has (bs ++ tail)) : ∃ s', readOutput caller hr s = (some server.output, s') ∧ s'.has tail := by
  cases caller with
  | plain t r =>
    cases server with
    | plain t' r' =>
      obtain rfl : t' = t := by injection (Option.some.inj htype)
      simp only [writeNode, writeNodeFields, Option.bind_eq_bind, Option.bind_some, Option.pure_def,
        Option.some.injEq] at hw
      rw [← hw, List.append_assoc] at h
      obtain ⟨s₁, hcode, h₁⟩ := u32_has hr h
      obtain ⟨s₂, halloc, h₂⟩ := allocate_has hr h₁ 1 (NodeType.plain t').nodeSize
      obtain ⟨s₃, hfields, h₃⟩ := readFields_has hr t'.fields (slot_size t') _ h₂
      refine ⟨s₃, ?_, h₃⟩
      have hnode : readNodeFields (.plain t') hr s₂ = (some (Node.plain t' r').output, s₃) := by
        rw [readNodeFields, bind_of hfields]
        rfl
      have hsame : (Node.plain t' r').sType = (Node.plain t' r).sType := rfl
      rw [readOutput, bind_of hcode, bind_of (requireOk_has h₁), bind_of (require_pos hsame)]
      dsimp only [Node.type]
      rw [bind_of halloc, bind_of hnode, bind_of (requireOk_has h₃), bind_of (require_pos hcopied)]
      rfl
    | _ => cases htype
  | _ => cases hcopied

theorem of_requireOk {s' : DecodeState} {u : Unit} (h : requireOk hr s = (some u, s')) :
    s.reader.ok = true ∧ s' = s := by
  unfold requireOk at h
  split at h
  · next hok => exact ⟨hok, (Prod.mk.inj h).2.symm⟩
  · cases h

/-- Only a structure that is copied is decoded to the end, into one of its type. -/
theorem of_readOutput {caller temp : Node} {s' : DecodeState} (h : readOutput caller hr s = (some temp, s')) :
    caller.copied = true ∧ temp.type = caller.type ∧ s'.reader.ok = true := by
  unfold readOutput at h
  obtain ⟨code, s₁, -, h⟩ := of_bind h
  obtain ⟨_, s₂, -, h⟩ := of_bind h
  obtain ⟨_, s₃, -, h⟩ := of_bind h
  cases ht : caller.type with
  | none =>
    simp only [ht] at h
    cases h
  | some t =>
    simp only [ht] at h
    obtain ⟨_, s₄, -, h⟩ := of_bind h
    obtain ⟨n, s₅, hn, h⟩ := of_bind h
    obtain ⟨_, s₆, hok, h⟩ := of_bind h
    obtain ⟨_, s₇, hreq, h⟩ := of_bind h
    obtain ⟨hcopied, hs₇⟩ := of_require hreq
    obtain ⟨hok, hs₆⟩ := of_requireOk hok
    have h : ((some n, s₇) : Option Node × DecodeState) = (some temp, s') := h
    obtain ⟨htemp, rfl⟩ := Prod.mk.inj h
    obtain rfl : n = temp := Option.some.inj htemp
    rw [← hs₆, ← hs₇] at hok
    refine ⟨hcopied, ?_, hok⟩
    cases caller with
    | plain t' r =>
      obtain rfl : t = .plain t' := (Option.some.inj ht).symm
      unfold readNodeFields at hn
      obtain ⟨r', s₈, -, hn⟩ := of_bind hn
      rw [← Option.some.inj (Prod.mk.inj hn).1]
      rfl
    | _ => cases hcopied

/-- The structures that `collect_chain` takes. -/
def visited (context : PNextContext) (caller : List ChainNode) : List Node :=
  (caller.map ChainNode.node).filter fun n => !n.skipped context

/-- What the reply has for the structures, up to the first that it does not fit. -/
def readable : List Node → DecodeState → List Node
  | [], _ => []
  | n :: rest, s =>
    match readOutput n nullResolver s with
    | (some temp, s) => temp :: readable rest s
    | (none, _) => []

theorem visited_skip {c : ChainNode} {rest : List ChainNode} (h : c.node.skipped context = true) :
    visited context (c :: rest) = visited context rest := by
  rw [visited, List.map_cons, List.filter_cons_of_neg (by rw [h]; decide), visited]

theorem visited_cons {c : ChainNode} {rest : List ChainNode} (h : c.node.skipped context = false) :
    visited context (c :: rest) = c.node :: visited context rest := by
  rw [visited, List.map_cons, List.filter_cons_of_pos (by rw [h]; decide), visited]

theorem applyNodes_skip {c : ChainNode} {rest : List ChainNode} (h : c.node.skipped context = true) :
    applyNodes context (c :: rest) s =
      ((c :: (applyNodes context rest s).1.1, (applyNodes context rest s).1.2), (applyNodes context rest s).2) := by
  rw [applyNodes, if_pos h]

theorem applyNodes_stop {c : ChainNode} {rest : List ChainNode} (h : c.node.skipped context = false)
    {s' : DecodeState} (hread : readOutput c.node nullResolver s = (none, s')) :
    applyNodes context (c :: rest) s = ((c :: rest, false), s') := by
  rw [applyNodes, if_neg (by rw [h]; decide), hread]

theorem applyNodes_copy {c : ChainNode} {rest : List ChainNode} (h : c.node.skipped context = false)
    {temp : Node} {s' : DecodeState} (hread : readOutput c.node nullResolver s = (some temp, s')) :
    applyNodes context (c :: rest) s =
      ((copyOutput c temp :: (applyNodes context rest s').1.1, (applyNodes context rest s').1.2),
        (applyNodes context rest s').2) := by
  rw [applyNodes, if_neg (by rw [h]; decide), hread]

theorem readable_stop {n : Node} {rest : List Node} {s' : DecodeState}
    (hread : readOutput n nullResolver s = (none, s')) : readable (n :: rest) s = [] := by
  rw [readable, hread]

theorem readable_copy {n temp : Node} {rest : List Node} {s' : DecodeState}
    (hread : readOutput n nullResolver s = (some temp, s')) :
    readable (n :: rest) s = temp :: readable rest s' := by
  rw [readable, hread]

theorem sType_copied {n temp : Node} (hcopied : n.copied = true) (htype : temp.type = n.type) :
    temp.sType = n.sType := by
  cases n with
  | plain t r => exact sType_of_type htype
  | _ => cases hcopied

/-- A structure that is passed over, one that the reply does not fit, and one that it does. -/
theorem turn (context : PNextContext) (c : ChainNode) (s : DecodeState) :
    c.node.skipped context = true ∨ c.node.skipped context = false ∧
      ((∃ s', readOutput c.node nullResolver s = (none, s')) ∨
        ∃ temp s', readOutput c.node nullResolver s = (some temp, s')) := by
  cases c.node.skipped context with
  | true => exact .inl rfl
  | false =>
    refine .inr ⟨rfl, ?_⟩
    cases readOutput c.node nullResolver s with
    | mk o s' =>
      cases o with
      | none => exact .inl ⟨s', rfl⟩
      | some temp => exact .inr ⟨temp, s', rfl⟩

/-- The links and the types stay. -/
theorem applyNodes_links (caller : List ChainNode) (s : DecodeState) :
    (applyNodes context caller s).1.1.map ChainNode.pNext = caller.map ChainNode.pNext ∧
      (applyNodes context caller s).1.1.map (fun c => c.node.sType) = caller.map fun c => c.node.sType := by
  induction caller generalizing s with
  | nil => exact ⟨rfl, rfl⟩
  | cons c rest ih =>
    rcases turn context c s with hskip | ⟨hskip, ⟨s', hread⟩ | ⟨temp, s', hread⟩⟩
    · rw [applyNodes_skip hskip]
      exact ⟨congrArg (c.pNext :: ·) (ih s).1, congrArg (c.node.sType :: ·) (ih s).2⟩
    · rw [applyNodes_stop hskip hread]
      exact ⟨rfl, rfl⟩
    · obtain ⟨hcopied, htype, -⟩ := of_readOutput hread
      rw [applyNodes_copy hskip hread]
      refine ⟨congrArg (c.pNext :: ·) (ih s').1, ?_⟩
      rw [List.map_cons, List.map_cons, (ih s').2]
      exact congrArg (· :: _) (sType_copied hcopied htype)

/-- The loop comes to the end if the reply fits every structure. -/
theorem applyNodes_ok_iff (caller : List ChainNode) (s : DecodeState) :
    (applyNodes context caller s).1.2 = true ↔
      (readable (visited context caller) s).length = (visited context caller).length := by
  induction caller generalizing s with
  | nil => exact ⟨fun _ => rfl, fun _ => rfl⟩
  | cons c rest ih =>
    rcases turn context c s with hskip | ⟨hskip, ⟨s', hread⟩ | ⟨temp, s', hread⟩⟩
    · rw [applyNodes_skip hskip, visited_skip hskip]
      exact ih s
    · rw [applyNodes_stop hskip hread, visited_cons hskip, readable_stop hread]
      simp
    · rw [applyNodes_copy hskip hread, visited_cons hskip, readable_copy hread, List.length_cons,
        List.length_cons, Nat.add_right_cancel_iff]
      exact ih s'

/-- Nothing has changed exactly if what the reply has up to there is what the structures held. -/
theorem applyNodes_same_iff (caller : List ChainNode) (s : DecodeState) :
    (applyNodes context caller s).1.1 = caller ↔
      readable (visited context caller) s <+: visited context caller := by
  induction caller generalizing s with
  | nil => exact ⟨fun _ => List.prefix_refl _, fun _ => rfl⟩
  | cons c rest ih =>
    rcases turn context c s with hskip | ⟨hskip, ⟨s', hread⟩ | ⟨temp, s', hread⟩⟩
    · rw [applyNodes_skip hskip, visited_skip hskip, ← ih s]
      exact List.cons_inj_right c
    · rw [applyNodes_stop hskip hread, visited_cons hskip, readable_stop hread]
      exact ⟨fun _ => List.nil_prefix, fun _ => rfl⟩
    · rw [applyNodes_copy hskip hread, visited_cons hskip, readable_copy hread, List.cons_prefix_cons,
        ← ih s', List.cons.injEq]
      refine and_congr_left fun _ => ⟨fun h => congrArg ChainNode.node h, fun h => ?_⟩
      rw [h]
      rfl

/-- At the end every structure has been copied, and the reader has not failed. -/
theorem of_applyNodes_ok {caller : List ChainNode} {s : DecodeState} (hok : s.reader.ok = true)
    (h : (applyNodes context caller s).1.2 = true) :
    (∀ n ∈ visited context caller, n.copied = true) ∧ (applyNodes context caller s).2.reader.ok = true := by
  induction caller generalizing s with
  | nil =>
    refine ⟨fun n hn => ?_, hok⟩
    cases hn
  | cons c rest ih =>
    rcases turn context c s with hskip | ⟨hskip, ⟨s', hread⟩ | ⟨temp, s', hread⟩⟩
    · rw [applyNodes_skip hskip] at h ⊢
      rw [visited_skip hskip]
      exact ih hok h
    · rw [applyNodes_stop hskip hread] at h
      cases h
    · obtain ⟨hcopied, -, hok'⟩ := of_readOutput hread
      rw [applyNodes_copy hskip hread] at h ⊢
      obtain ⟨hall, hend⟩ := ih hok' h
      rw [visited_cons hskip]
      exact ⟨List.forall_mem_cons.2 ⟨hcopied, hall⟩, hend⟩

/-- A reply that was written for structures of the same types, all of them copied, is taken over. -/
theorem applyNodes_has {caller : List ChainNode} {server : List Node} {s : DecodeState} {bs tail : List UInt8}
    (htypes : server.map Node.type = (visited context caller).map Node.type)
    (hcopied : ∀ n ∈ visited context caller, n.copied = true) (hw : writeAll writeNode server = some bs)
    (h : s.has (bs ++ tail)) :
    (applyNodes context caller s).1.2 = true ∧
      visited context (applyNodes context caller s).1.1 = server.map Node.output ∧
      (applyNodes context caller s).2.has tail := by
  induction caller generalizing server s bs with
  | nil =>
    obtain rfl : server = [] := List.map_eq_nil_iff.1 htypes
    obtain rfl : bs = [] := (Option.some.inj hw).symm
    exact ⟨rfl, rfl, h⟩
  | cons c rest ih =>
    cases hskip : c.node.skipped context with
    | true =>
      rw [visited_skip hskip] at htypes hcopied
      rw [applyNodes_skip hskip]
      obtain ⟨hok, hnodes, hend⟩ := ih htypes hcopied hw h
      exact ⟨hok, by rw [visited_skip hskip]; exact hnodes, hend⟩
    | false =>
      rw [visited_cons hskip] at htypes hcopied
      cases server with
      | nil => cases htypes
      | cons n server =>
        rw [List.map_cons, List.map_cons, List.cons.injEq] at htypes
        rw [List.forall_mem_cons] at hcopied
        simp only [writeAll, Option.bind_eq_bind, Option.bind_eq_some_iff, Option.pure_def,
          Option.some.injEq] at hw
        obtain ⟨x, hx, xs, hxs, rfl⟩ := hw
        rw [List.append_assoc] at h
        obtain ⟨s', hread, h'⟩ := readOutput_has nullResolver htypes.1 hcopied.1 hx h
        obtain ⟨hok, hnodes, hend⟩ := ih htypes.2 hcopied.2 hxs h'
        obtain ⟨-, htype, -⟩ := of_readOutput hread
        have hkept : (copyOutput c n.output).node.skipped context = false := by
          rw [← hskip, Node.skipped, Node.skipped, copyOutput, sType_copied hcopied.1 htype]
        rw [applyNodes_copy hskip hread]
        refine ⟨hok, ?_, hend⟩
        rw [visited_cons hkept, List.map_cons, hnodes]
        rfl

end

/-- A chain of the server whose structures are those of the topology that the client sends for its caller's;
the driver may have filled in any fields. -/
def BuiltFrom (context : PNextContext) (caller server : List Node) : Prop :=
  ∃ topology zeroed s', writePnextOutputTopology context caller = some topology ∧
    readPnextOutputTopology context nullResolver { reader := ⟨topology, false⟩ } = (some zeroed, s') ∧
    server.map Node.type = zeroed.map Node.type

/-- The reply is the encoding of a chain that was built from the caller's topology, with `tail` behind it. -/
structure Encodes (context : PNextContext) (caller : List ChainNode) (reply : Reader) (server : List Node)
    (tail : List UInt8) : Prop where
  built : BuiltFrom context (caller.map ChainNode.node) server
  written : ∃ bs, writePnextOutputValues context server = some bs ∧ reply = ⟨bs ++ tail, false⟩

/-- The caller's chain and the reader after `apply_pnext_output_values`. -/
def applied (context : PNextContext) (caller : List ChainNode) (reply : Reader) :
    (List ChainNode × Bool) × DecodeState :=
  applyPnextOutputValues context caller { reader := reply }

/-- The values of the server's chain arrive, the links and types stay, and a failure changes nothing. -/
structure Delivered (context : PNextContext) (caller : List ChainNode) (reply : Reader) : Prop where
  faithful : ∀ server tail, Encodes context caller reply server tail →
    (applied context caller reply).1.2 = true ∧
      visited context (applied context caller reply).1.1 = server.map Node.output ∧
      (applied context caller reply).2.has tail
  links : (applied context caller reply).1.1.map ChainNode.pNext = caller.map ChainNode.pNext
  types : (applied context caller reply).1.1.map (fun c => c.node.sType) = caller.map fun c => c.node.sType
  atomic : (applied context caller reply).1.2 = false → (applied context caller reply).1.1 = caller

/-- Where the reply encodes such a chain, its structures are ones that are copied back; and a reply whose
count is right fits every structure, or it has for those ahead of the first that it does not fit what they
hold already. -/
structure Fitting (context : PNextContext) (caller : List ChainNode) (reply : Reader) : Prop where
  outputs : ∀ server tail, Encodes context caller reply server tail →
    ∀ n ∈ visited context caller, n.copied = true
  whole : ∀ nodes s, collectChain context (caller.map ChainNode.node) [] = some nodes →
    readOutputCount nodes.length nullResolver { reader := reply } = (some (), s) →
      (readable nodes s).length = nodes.length ∨ readable nodes s <+: nodes

section

variable {context : PNextContext} {caller : List ChainNode} {reply : Reader} {nodes : List Node}

theorem nodes_ofNodes (ns : List Node) : (PNext.ofNodes ns).nodes = ns := by
  induction ns with
  | nil => rfl
  | cons n ns ih => rw [PNext.ofNodes, PNext.nodes, ih]

theorem collected_visited (h : collectChain context (caller.map ChainNode.node) [] = some nodes) :
    nodes = visited context caller := by
  rw [collectChain_eq h, List.nil_append, visited]

theorem map_sType {ns ns' : List Node} (h : ns.map Node.type = ns'.map Node.type)
    (hknown : ∀ n ∈ ns', ∃ t, n.type = some t) : ns.map Node.sType = ns'.map Node.sType := by
  induction ns generalizing ns' with
  | nil =>
    rw [List.map_nil, eq_comm, List.map_eq_nil_iff] at h
    rw [h]
  | cons n ns ih =>
    cases ns' with
    | nil => cases h
    | cons n' ns' =>
      rw [List.map_cons, List.map_cons, List.cons.injEq] at h
      rw [List.forall_mem_cons] at hknown
      obtain ⟨⟨t, ht⟩, hrest⟩ := hknown
      rw [List.map_cons, List.map_cons, ih h.2 hrest, sType_of_type ht, sType_of_type (h.1.trans ht)]

/-- The server's chain passes the checks that the caller's has passed, and is written as a whole. -/
theorem Encodes.spec {server : List Node} {tail : List UInt8} (h : Encodes context caller reply server tail) :
    collectChain context (caller.map ChainNode.node) [] = some (visited context caller) ∧
      server.map Node.type = (visited context caller).map Node.type ∧
      ∃ bs, writeAll writeNode server = some bs ∧
        reply = ⟨Writer.u32 (UInt32.ofNat (visited context caller).length) ++ (bs ++ tail), false⟩ := by
  obtain ⟨⟨topology, zeroed, s', hw, hread, htypes⟩, bs, hbs, hreply⟩ := h
  cases hcollect : collectChain context (caller.map ChainNode.node) [] with
  | none =>
    rw [writePnextOutputTopology, hcollect] at hw
    cases hw
  | some nodes =>
    obtain ⟨zs, s'', hzs, hztypes⟩ := readPnextOutputTopology_has nullResolver
      (s := { reader := ⟨topology, false⟩ }) hcollect hw rfl
    rw [hread, Prod.mk.injEq, Option.some.injEq] at hzs
    obtain ⟨rfl, -⟩ := hzs
    have hsame := htypes.trans hztypes
    obtain rfl := collected_visited hcollect
    obtain ⟨hallowed, -, -⟩ := collectChain_spec hcollect (by simp) (by simp) (by simp)
    have hsTypes := map_sType hsame fun n hn => by
      obtain ⟨t, ht, -⟩ := allowed_iff.1 (hallowed n hn)
      exact ⟨t, ht⟩
    refine ⟨rfl, hsame, ?_⟩
    simp only [writePnextOutputValues, writePnextChain, nodes_ofNodes, Option.bind_eq_bind,
      Option.bind_eq_some_iff, Option.pure_def, Option.some.injEq] at hbs
    obtain ⟨ns, hns, encoded, hencoded, rfl⟩ := hbs
    have hkept : ∀ n ∈ server, (!n.skipped context) = true := by
      intro n hn
      obtain ⟨m, hm, hs⟩ := List.mem_map.1 (hsTypes ▸ List.mem_map_of_mem hn)
      have hmkept := (List.mem_filter.1 hm).2
      rw [Node.skipped, hs] at hmkept
      exact hmkept
    rw [collectChain_eq hns, List.nil_append, List.filter_eq_self.2 hkept] at hencoded hreply
    have hlen := congrArg List.length hsame
    rw [List.length_map, List.length_map] at hlen
    exact ⟨encoded, hencoded, by rw [hreply, hlen, List.append_assoc]⟩

theorem applied_none (h : collectChain context (caller.map ChainNode.node) [] = none) :
    (applied context caller reply).1 = (caller, false) := by
  rw [applied, applyPnextOutputValues, h]

theorem applied_miscounted {s : DecodeState}
    (h : collectChain context (caller.map ChainNode.node) [] = some nodes)
    (hcount : readOutputCount nodes.length nullResolver { reader := reply } = (none, s)) :
    (applied context caller reply).1 = (caller, false) := by
  rw [applied, applyPnextOutputValues, h]
  dsimp only
  rw [hcount]

theorem applied_counted {s : DecodeState}
    (h : collectChain context (caller.map ChainNode.node) [] = some nodes)
    (hcount : readOutputCount nodes.length nullResolver { reader := reply } = (some (), s)) :
    applied context caller reply =
      (((applyNodes context caller s).1.1,
        (applyNodes context caller s).1.2 && (applyNodes context caller s).2.reader.ok),
        (applyNodes context caller s).2) := by
  rw [applied, applyPnextOutputValues, h]
  dsimp only
  rw [hcount]

theorem counted_ok {n : ℕ} {s s' : DecodeState} (h : readOutputCount n nullResolver s = (some (), s')) :
    s'.reader.ok = true := by
  obtain ⟨count, s₁, -, hrest⟩ := of_bind h
  obtain ⟨_, s₂, hread, hrequire⟩ := of_bind hrest
  obtain ⟨hok, hs₂⟩ := of_requireOk hread
  obtain ⟨-, hs'⟩ := of_require hrequire
  rw [hs', hs₂]
  exact hok

/-- The three ways a call can go. -/
theorem applied_cases (context : PNextContext) (caller : List ChainNode) (reply : Reader) :
    (applied context caller reply).1 = (caller, false) ∨
      ∃ s, collectChain context (caller.map ChainNode.node) [] = some (visited context caller) ∧
        readOutputCount (visited context caller).length nullResolver { reader := reply } = (some (), s) := by
  cases h : collectChain context (caller.map ChainNode.node) [] with
  | none => exact .inl (applied_none h)
  | some nodes =>
    obtain rfl := collected_visited h
    cases hcount : readOutputCount (visited context caller).length nullResolver { reader := reply } with
    | mk o s =>
      cases o with
      | none => exact .inl (applied_miscounted h hcount)
      | some u => exact .inr ⟨s, rfl, rfl⟩

end

/-- A reply is delivered faithfully, and not in part, exactly if it is a fitting one. -/
theorem delivered_iff (context : PNextContext) (caller : List ChainNode) (reply : Reader) :
    Delivered context caller reply ↔ Fitting context caller reply := by
  constructor
  · intro h
    refine ⟨fun server tail henc => ?_, fun nodes s hcollect hcount => ?_⟩
    · obtain ⟨hok, -, -⟩ := h.faithful server tail henc
      rcases applied_cases context caller reply with hfail | ⟨s, hcollect, hcount⟩
      · rw [hfail] at hok
        cases hok
      · rw [applied_counted hcollect hcount, Bool.and_eq_true] at hok
        exact (of_applyNodes_ok (counted_ok hcount) hok.1).1
    · obtain rfl := collected_visited hcollect
      rw [← applyNodes_ok_iff, ← applyNodes_same_iff, or_iff_not_imp_left, Bool.not_eq_true]
      intro hfail
      have hatomic := h.atomic
      rw [applied_counted hcollect hcount] at hatomic
      exact hatomic (by rw [hfail, Bool.false_and])
  · intro h
    refine ⟨fun server tail henc => ?_, ?_, ?_, fun hfail => ?_⟩
    · obtain ⟨hcollect, htypes, bs, hbs, hreply⟩ := henc.spec
      have hcopied := h.outputs server tail henc
      obtain ⟨-, -, hlen⟩ := collectChain_spec hcollect (by simp) (by simp) (by simp)
      have hcount : (UInt32.ofNat (visited context caller).length).toNat = (visited context caller).length := by
        apply UInt32.toNat_ofNat_of_lt'
        unfold kMaxPNextNodes at hlen
        norm_num
        omega
      obtain ⟨s, hread, hs⟩ := u32_has nullResolver (s := { reader := reply }) hreply
      have hcounted : readOutputCount (visited context caller).length nullResolver { reader := reply } =
          (some (), s) := by
        rw [readOutputCount, bind_of hread, bind_of (requireOk_has hs), hcount, require_pos ⟨rfl, hlen⟩]
      obtain ⟨hok, hnodes, hend⟩ := applyNodes_has htypes hcopied hbs hs
      rw [applied_counted hcollect hcounted]
      refine ⟨?_, hnodes, hend⟩
      rw [hok, hend]
      rfl
    · rcases applied_cases context caller reply with hfail | ⟨s, hcollect, hcount⟩
      · rw [hfail]
      · rw [applied_counted hcollect hcount]
        exact (applyNodes_links caller s).1
    · rcases applied_cases context caller reply with hfail | ⟨s, hcollect, hcount⟩
      · rw [hfail]
      · rw [applied_counted hcollect hcount]
        exact (applyNodes_links caller s).2
    · rcases applied_cases context caller reply with hearly | ⟨s, hcollect, hcount⟩
      · rw [hearly]
      · rw [applied_counted hcollect hcount] at hfail ⊢
        rcases h.whole _ s hcollect hcount with hwhole | hprefix
        · have hok := (applyNodes_ok_iff caller s).2 hwhole
          rw [hok, (of_applyNodes_ok (counted_ok hcount) hok).2] at hfail
          cases hfail
        · exact (applyNodes_same_iff caller s).2 hprefix

/-- Two features, neither of them supported so far as the caller knows. -/
def twoFeatures : List ChainNode :=
  [⟨4096, .plain .physicalDeviceHostQueryResetFeatures (0, ())⟩,
    ⟨0, .plain .physicalDeviceTimelineSemaphoreFeatures (0, ())⟩]

/-- A reply that has the first of them and then no structure of the chain. -/
def brokenReply : List UInt8 :=
  Writer.u32 2 ++ Writer.i32 1000261000 ++ Writer.u32 1 ++ Writer.i32 0

/-- The first of the features, as the chain holds it. -/
def firstFeature (chain : List ChainNode) : Option UInt32 :=
  match chain.map ChainNode.node with
  | .plain .physicalDeviceHostQueryResetFeatures r :: _ => some r.1
  | _ => none

/-- The call fails, and the first structure has changed. -/
theorem half_updated :
    (applied .queryFeaturesOutput twoFeatures ⟨brokenReply, false⟩).1.2 = false ∧
      firstFeature twoFeatures = some 0 ∧
      firstFeature (applied .queryFeaturesOutput twoFeatures ⟨brokenReply, false⟩).1.1 = some 1 ∧
      ¬ Delivered .queryFeaturesOutput twoFeatures ⟨brokenReply, false⟩ := by
  have hfail : (applied .queryFeaturesOutput twoFeatures ⟨brokenReply, false⟩).1.2 = false := by
    decide
  have hbefore : firstFeature twoFeatures = some 0 := by decide
  have hafter : firstFeature (applied .queryFeaturesOutput twoFeatures ⟨brokenReply, false⟩).1.1 = some 1 := by
    decide
  refine ⟨hfail, hbefore, hafter, fun h => ?_⟩
  rw [h.atomic hfail, hbefore] at hafter
  exact absurd hafter (by decide)

end VkRemote.Marshal
