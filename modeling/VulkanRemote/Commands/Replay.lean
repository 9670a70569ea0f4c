import VulkanRemote.Commands.Uses

/-! A command that was sent is the call that the driver gets: each handler takes exactly what the function of its
name wrote. -/

namespace VkRemote.Commands

open Lib Wire Marshal Decode

section

variable {hr : Resolver} {commandBufferId : UInt64 → UInt64}

theorem reads_native {kind : HandleKind} {id : UInt64} (hnull : hr.KeepsNull) :
    Reads (readNative kind) hr (Writer.handle id) (resolved hr kind id) :=
  .last .u64 (reads_lookup hnull kind id)

theorem reads_args (hnull : hr.KeepsNull) (ps : List Param) (args : Args ps) :
    Reads (readArgs ps) hr (writeArgs ps args) (receivedArgs hr ps args) := by
  induction ps with
  | nil => exact .pure
  | cons p ps ih =>
    cases p with
    | u32 => exact .bind .u32 (.last (ih args.2) .pure)
    | u64 => exact .bind .u64 (.last (ih args.2) .pure)
    | handle kind needed => exact .bind (reads_native hnull) (.last (ih args.2) .pure)

/-- Handles that resolve are complete when they have arrived. -/
theorem complete_received (hnull : hr.KeepsNull) {ps : List Param} {args : Args ps}
    (h : ∀ u ∈ usesOfArgs true ps args, hr u.kind u.id ≠ 0) : complete ps (receivedArgs hr ps args) = true := by
  induction ps with
  | nil => rfl
  | cons p ps ih =>
    cases p with
    | u32 => exact ih h
    | u64 => exact ih h
    | handle kind needed =>
      have hrest := ih fun u hu => h u (List.mem_append_right _ hu)
      have hfirst : (!needed || resolved hr kind args.1 ≠ 0) = true := by
        cases needed with
        | false => rfl
        | true =>
          rw [resolved_of_keepsNull hnull]
          exact decide_eq_true (h ⟨kind, args.1⟩ (List.mem_append_left _ (List.mem_singleton_self _)))
      exact Bool.and_eq_true_iff.2 ⟨hfirst, hrest⟩

/-- No check is about a handle. -/
theorem valid_received (c : PlainCommand) (args : Args c.params) :
    c.valid (receivedArgs hr c.params args) = c.valid args := by
  cases c <;> rfl

section

variable {α β γ : Type} {count : UInt32} {p : Ptr (Elements α count.toNat)} {m : Decode β} {w : α → List UInt8}
  {f : α → β}

theorem reads_regions (hp : p.Whole) (h : ∀ a ∈ p.items, Reads m hr (w a) (f a))
    (hw : ∀ a ∈ p.items, 4 ≤ (w a).length) (size : ℕ) :
    Reads (readRegions size m) hr (writeCounted w count p) ⟨count, p.received f⟩ :=
  .bind .u32 (.remaining fun _ hleft => .skip (.require (Reads.le_div_wire hp (by decide) hw hleft))
    (.skip .requireOk (.last (.array hp h size) .pure)))

theorem reads_backed {wire : ℕ} (hcount : count.toNat ≤ kMaxArrayElements) (hp : p.Whole)
    (h : ∀ a ∈ p.items, Reads m hr (w a) (f a)) (hwire : 0 < wire) (hw : ∀ a ∈ p.items, wire ≤ (w a).length)
    (size : ℕ) : Reads (readBacked wire size m) hr (writeCounted w count p) ⟨count, p.received f⟩ :=
  .backed (validArray_of_whole hp hcount) hp.1 h hwire hw size

/-- Copies of plain structures. -/
theorem reads_raws [Raw α] {p : Ptr (Elements α count.toNat)} {f : α → α} (hp : p.Whole)
    (hsize : Raw.sizeof α < 2 ^ 32) (hf : ∀ a, Raw.copied a = f a) (size : ℕ) :
    Reads (readRegions size (readRaw α)) hr (writeCounted writeRaw count p) ⟨count, p.received f⟩ :=
  reads_regions hp (fun a _ => hf a ▸ .raw a hsize)
    (fun a _ => (Nat.le_add_right 4 _).trans_eq (length_writeRaw a).symm) size

theorem le_length_barrier {n gap : ℕ} (s : PlainState n gap) : 4 ≤ (writePlainState s).length := by
  unfold writePlainState
  rw [length_writeRaw]
  exact Nat.le_add_right _ _

theorem le_length_bufferBarrier (s : VkBufferMemoryBarrier) : 4 ≤ (writeBufferMemoryBarrier s).length := by
  unfold writeBufferMemoryBarrier
  rw [length_writeRaw]
  exact Nat.le_add_right _ _

theorem le_length_imageBarrier (s : VkImageMemoryBarrier) : 4 ≤ (writeImageMemoryBarrier s).length := by
  unfold writeImageMemoryBarrier
  rw [length_writeRaw]
  exact Nat.le_add_right _ _

end

theorem reads_imagePair {src dst : UInt64} {srcLayout dstLayout : UInt32} (hnull : hr.KeepsNull) :
    Reads readImagePair hr (writeImagePair src srcLayout dst dstLayout)
      (resolved hr .image src, srcLayout, resolved hr .image dst, dstLayout) := by
  unfold writeImagePair
  simp only [List.append_assoc]
  exact .bind (reads_native hnull) (.bind .u32 (.bind (reads_native hnull) (.last .u32 .pure)))

theorem reads_subresourceRange (s : VkImageSubresourceRange) :
    Reads readSubresourceRange hr (writeFields _ s.fields) s :=
  .last (.fields (by decide)) .pure

/-- Bytes that are fewer than the bound. -/
theorem reads_bytes {data : List UInt8} {bound : ℕ} (h : data.length ≤ bound) (hbound : bound < 2 ^ 32) :
    Reads (bytes bound) hr (Writer.bytes data) data := by
  intro s tail hs
  refine ⟨{ s with reader := ⟨tail, false⟩ }, ?_, rfl⟩
  unfold bytes
  rw [hs, Reader.bytes_writer tail (h.trans_lt hbound) h]

theorem dataOf_toList {n : ℕ} (v : Elements UInt8 n) : dataOf n v.toList = .arena v := by
  unfold dataOf
  congr 1
  apply List.Vector.ext
  intro i
  obtain ⟨l, rfl⟩ := v
  rw [List.Vector.get_ofFn]
  change l.getD i 0 = l[i]
  rw [List.getD_eq_getElem?_getD, List.getElem?_eq_getElem i.isLt]
  rfl

theorem contents_of_target {α β : Type} {p : Ptr α} {a : α} (h : p.target = some a) (f : α → β) :
    p.contents f = .arena (f a) := by
  cases p with
  | host address b =>
    obtain rfl := Option.some.inj h
    rfl
  | arena b =>
    obtain rfl := Option.some.inj h
    rfl
  | _ => cases h

theorem dependency_finds {info : VkDependencyInfo} (h : ∀ u ∈ dependencyUses info, hr.Finds u.kind u.id) :
    info.Finds hr :=
  ⟨fun _ hb => h _ (List.mem_append_left _ (List.mem_map_of_mem hb)),
    fun _ hb => h _ (List.mem_append_right _ (List.mem_map_of_mem hb))⟩

theorem needed_all {kind : HandleKind} {ids : List UInt64}
    (h : ∀ u ∈ ids.map (Use.mk kind), hr u.kind u.id ≠ 0) : ∀ id ∈ ids, hr kind id ≠ 0 :=
  fun _ hid => h _ (List.mem_map_of_mem hid)

theorem needed_one {kind : HandleKind} {id : UInt64} (h : ∀ u ∈ [Use.mk kind id], hr u.kind u.id ≠ 0) :
    hr kind id ≠ 0 := h _ (List.mem_singleton_self _)

theorem resolved_needed (hnull : hr.KeepsNull) {kind : HandleKind} {id : UInt64} (h : hr kind id ≠ 0) :
    resolved hr kind id ≠ 0 := by
  rw [resolved_of_keepsNull hnull]
  exact h

/-- Both images of a copy. -/
theorem needed_pair (hnull : hr.KeepsNull) {src dst : UInt64}
    (h : ∀ u ∈ [Use.mk .image src, Use.mk .image dst], hr u.kind u.id ≠ 0) :
    resolved hr .image src ≠ 0 ∧ resolved hr .image dst ≠ 0 := by
  obtain ⟨hsrc, hdst⟩ := List.forall_mem_cons.1 h
  exact ⟨resolved_needed hnull hsrc, resolved_needed hnull (needed_one hdst)⟩

/-- The rest of a request that is taken whole. -/
theorem takes_end {α : Type} {p : ℕ → Prop} [∀ n, Decidable (p n)] {a : α} (h : p 0) :
    Takes (do requireOk; let left ← remaining; require (p left); return a) hr [] a :=
  .skip .requireOk (.remaining (.skip (.require h) (.of_reads .pure)))

section

variable {cb : UInt64}

theorem takes_plain (c : PlainCommand) {args : Args c.params} (hnull : hr.KeepsNull) (hcb : cb ≠ 0)
    (hvalid : c.valid args = true) (hneeded : ∀ u ∈ usesOfArgs true c.params args, hr u.kind u.id ≠ 0) :
    Takes (readCall cb (.plain c)) hr (writeArgs c.params args) (.plain c (receivedArgs hr c.params args)) := by
  have hchecks : cb ≠ 0 ∧ complete c.params (receivedArgs hr c.params args) = true ∧
      c.valid (receivedArgs hr c.params args) = true ∧ (c.toEnd = true → 0 = 0) :=
    ⟨hcb, complete_received hnull hneeded, (valid_received c args).trans hvalid, fun _ => rfl⟩
  rw [← List.append_nil (writeArgs c.params args)]
  exact .bind (reads_args hnull c.params args) (takes_end hchecks)

theorem takes_bindDescriptorSets {bindPoint firstSet setCount offsetCount : UInt32} {layout : UInt64}
    {sets : Ptr (Elements UInt64 setCount.toNat)} {offsets : Ptr (Elements UInt32 offsetCount.toNat)}
    (hnull : hr.KeepsNull) (hcb : cb ≠ 0) (hvalids : validArray sets) (hvalido : validArray offsets)
    (hreals : sets.Real) (hrealo : offsets.Real) (hpoint : bindPoint = 0 ∨ bindPoint = 1)
    (hlayout : hr .pipelineLayout layout ≠ 0) (hsets : ∀ id ∈ sets.items, hr .descriptorSet id ≠ 0) :
    Takes (readCall cb .cmdBindDescriptorSets) hr
      (Writer.i32 bindPoint ++ Writer.handle layout ++ Writer.u32 firstSet ++
        writeCounted Writer.handle setCount sets ++ writeCounted Writer.u32 offsetCount offsets)
      (.cmdBindDescriptorSets bindPoint (resolved hr .pipelineLayout layout) firstSet setCount
        (sets.received (resolved hr .descriptorSet)) offsetCount (offsets.received id)) := by
  have harrived : NoneNull (sets.received (resolved hr .descriptorSet)).items := by
    intro set hmem
    rw [items_received] at hmem
    obtain ⟨id, hid, rfl⟩ := List.mem_map.1 hmem
    exact resolved_needed hnull (hsets id hid)
  have hlayout' := resolved_needed hnull hlayout
  simp only [List.append_assoc]
  refine .bind .u32 (.bind (reads_native hnull) (.bind .u32 ?_))
  refine .bind (reads_backed hvalids.1 (whole_of_validArray hvalids hreals) (fun _ _ => reads_native hnull)
    (by decide) (fun id _ => (length_handle id).ge) 8) ?_
  rw [← List.append_nil (writeCounted Writer.u32 offsetCount offsets)]
  exact .bind (reads_backed hvalido.1 (whole_of_validArray hvalido hrealo) u32s (by decide)
    (fun v _ => (Writer.length_u32 v).ge) 4) (takes_end ⟨rfl, hcb, hlayout', hpoint, harrived⟩)

theorem length_writeVertexBuffer (binding : UInt64 × UInt64) : (writeVertexBuffer binding).length = 16 := by
  rw [writeVertexBuffer, List.length_append, length_handle, Writer.length_u64]

theorem reads_bindVertexBuffers {first count : UInt32} {buffers offsets : Ptr (Elements UInt64 count.toNat)}
    (hnull : hr.KeepsNull) (hcb : cb ≠ 0) (hvalidb : validArray buffers) (hvalido : validArray offsets)
    (hrealb : buffers.Real) (hrealo : offsets.Real) (hbuffers : ∀ id ∈ buffers.items, hr .buffer id ≠ 0) :
    Reads (readCall cb .cmdBindVertexBuffers) hr
      (Writer.u32 first ++ Writer.u32 count ++ (buffers.items.zip offsets.items).flatMap writeVertexBuffer)
      (.cmdBindVertexBuffers first count (buffers.received (resolved hr .buffer)) (offsets.received id)) := by
  obtain ⟨bindings, hwhole, hitems, hreceived⟩ :=
    exists_zip (whole_of_validArray hvalidb hrealb) (whole_of_validArray hvalido hrealo)
  obtain ⟨hbuffer, hoffset⟩ := hreceived (resolved hr .buffer) (id : UInt64 → UInt64)
  have hone : ∀ binding ∈ bindings.items, Reads readVertexBuffer hr (writeVertexBuffer binding)
      (Prod.map (resolved hr .buffer) id binding) := fun _ _ => .bind (reads_native hnull) (.last .u64 .pure)
  have harrived : NoneNull ((bindings.received (Prod.map (resolved hr .buffer) id)).items.map Prod.fst) := by
    intro native hmem
    rw [items_received, List.map_map] at hmem
    obtain ⟨sent, hsent, rfl⟩ := List.mem_map.1 hmem
    rw [hitems] at hsent
    exact resolved_needed hnull (hbuffers _ (List.of_mem_zip hsent).1)
  rw [← hbuffer, ← hoffset, ← hitems, List.append_assoc]
  exact .bind .u32 (.last (reads_backed hvalidb.1 hwhole hone (by decide)
    (fun binding _ => (length_writeVertexBuffer binding).ge) 16)
    (.skip .requireOk (.skip (.require ⟨hcb, harrived⟩) .pure)))

theorem takes_barrier2 {info : VkDependencyInfo} {bytes : List UInt8} (hw : writeDependencyInfo info = some bytes)
    (h : info.Whole) (hnull : hr.KeepsNull) (hcb : cb ≠ 0) (hfinds : info.Finds hr) :
    Takes (readCall cb .cmdPipelineBarrier2) hr bytes (.cmdPipelineBarrier2 (.arena (info.received hr))) := by
  rw [← List.append_nil bytes]
  exact .skip (.require hcb) (.bind (reads_dependencyInfo hw h hnull hfinds) (takes_end rfl))

theorem takes_setEvent2 {event : UInt64} {info : VkDependencyInfo} {bytes : List UInt8}
    (hw : writeDependencyInfo info = some bytes) (h : info.Whole) (hnull : hr.KeepsNull) (hcb : cb ≠ 0)
    (hevent : hr .event event ≠ 0) (hfinds : info.Finds hr) :
    Takes (readCall cb .cmdSetEvent2) hr (Writer.handle event ++ bytes)
      (.cmdSetEvent2 (resolved hr .event event) (.arena (info.received hr))) := by
  have hevent' := resolved_needed hnull hevent
  rw [← List.append_nil bytes]
  exact .bind (reads_native hnull) (.skip (.require ⟨hcb, hevent'⟩)
    (.bind (reads_dependencyInfo hw h hnull hfinds) (takes_end rfl)))

/-- The flags and three counts. -/
theorem le_length_dependencyInfo {info : VkDependencyInfo} {bytes : List UInt8}
    (hw : writeDependencyInfo info = some bytes) : 16 ≤ bytes.length := by
  obtain ⟨-, hw⟩ := Option.ite_none_right_eq_some.1 hw
  obtain ⟨memory, -, hw⟩ := Option.bind_eq_some_iff.1 hw
  obtain ⟨buffers, -, hw⟩ := Option.bind_eq_some_iff.1 hw
  obtain ⟨images, -, hw⟩ := Option.bind_eq_some_iff.1 hw
  obtain rfl := Option.some.inj hw
  simp only [List.length_append, Writer.length_u32]
  omega

theorem le_length_eventWait {wait : UInt64 × VkDependencyInfo} {bytes : List UInt8}
    (hw : writeEventWait wait = some bytes) : 12 ≤ bytes.length := by
  obtain ⟨info, hinfo, hw⟩ := Option.bind_eq_some_iff.1 hw
  obtain rfl := Option.some.inj hw
  have hshort := le_length_dependencyInfo hinfo
  rw [List.length_append]
  omega

theorem reads_eventWait {wait : UInt64 × VkDependencyInfo} {bytes : List UInt8}
    (hw : writeEventWait wait = some bytes) (h : wait.2.Whole) (hnull : hr.KeepsNull)
    (hevent : hr .event wait.1 ≠ 0) (hfinds : wait.2.Finds hr) :
    Reads readEventWait hr bytes (Prod.map (resolved hr .event) (VkDependencyInfo.received hr) wait) := by
  obtain ⟨info, hinfo, hw⟩ := Option.bind_eq_some_iff.1 hw
  obtain rfl := Option.some.inj hw
  have hevent' := resolved_needed hnull hevent
  exact .bind (reads_native hnull) (.skip (.require hevent')
    (.last (reads_dependencyInfo hinfo h hnull hfinds) .pure))

theorem takes_waitEvents2 {count : UInt32} {events : Ptr (Elements UInt64 count.toNat)}
    {infos : Ptr (Elements VkDependencyInfo count.toNat)} {waits : List UInt8} (hvalide : validArray events)
    (hvalidi : validArray infos) (hw : writeAll writeEventWait (events.items.zip infos.items) = some waits)
    (hreale : events.Real) (hreali : infos.Real) (h : ∀ info ∈ infos.items, info.Whole) (hnull : hr.KeepsNull)
    (hcb : cb ≠ 0) (hevents : ∀ id ∈ events.items, hr .event id ≠ 0)
    (hfinds : ∀ info ∈ infos.items, info.Finds hr) :
    Takes (readCall cb .cmdWaitEvents2) hr (Writer.u32 count ++ waits)
      (.cmdWaitEvents2 count (events.received (resolved hr .event))
        (infos.received (VkDependencyInfo.received hr))) := by
  obtain ⟨pairs, hwhole, hitems, hreceived⟩ :=
    exists_zip (whole_of_validArray hvalide hreale) (whole_of_validArray hvalidi hreali)
  obtain ⟨hevent, hinfo⟩ := hreceived (resolved hr .event) (VkDependencyInfo.received hr)
  obtain ⟨hall, rfl⟩ := writeAll_eq_some hw
  rw [← hitems] at hall ⊢
  have hone : ∀ wait ∈ pairs.items, Reads readEventWait hr ((writeEventWait wait).getD [])
      (Prod.map (resolved hr .event) (VkDependencyInfo.received hr) wait) := by
    intro wait hmem
    have hzip := hmem
    rw [hitems] at hzip
    obtain ⟨hleft, hright⟩ := List.of_mem_zip hzip
    exact reads_eventWait (hall wait hmem) (h _ hright) hnull (hevents _ hleft) (hfinds _ hright)
  have hbytes : Writer.u32 count ++ pairs.items.flatMap (fun wait => (writeEventWait wait).getD []) =
      writeCounted (fun wait => (writeEventWait wait).getD []) count pairs ++ [] := (List.append_nil _).symm
  rw [← hevent, ← hinfo, hbytes]
  exact .skip (.require hcb) (.bind (reads_backed hvalide.1 hwhole hone (by decide)
    (fun wait hmem => le_length_eventWait (hall wait hmem)) 72) (takes_end rfl))

theorem reads_updateBuffer {dst dstOffset dataSize : UInt64} {data : Ptr (Elements UInt8 dataSize.toNat)}
    (hnull : hr.KeepsNull) (hcb : cb ≠ 0) (hdst : hr .buffer dst ≠ 0) (hoffset : dstOffset &&& 3 = 0)
    (hsome : dataSize ≠ 0) (hsize : dataSize.toNat ≤ maxUpdate) (hwords : dataSize &&& 3 = 0) (h : data.Whole) :
    Reads (readCall cb .cmdUpdateBuffer) hr
      (Writer.handle dst ++ Writer.u64 dstOffset ++ Writer.u64 dataSize ++ Writer.bytes (updateBytes data))
      (.cmdUpdateBuffer (resolved hr .buffer dst) dstOffset dataSize (data.received id)) := by
  have hpositive : dataSize.toNat ≠ 0 := fun h0 => hsome (UInt64.toNat_inj.1 h0)
  obtain ⟨v, hitems, hreceived⟩ := exists_elements h hpositive
  have hsent : updateBytes data = v.toList := (if_pos ⟨hsome, hsize, hwords, h.2 hpositive⟩).trans hitems
  have hdst' := resolved_needed hnull hdst
  rw [hsent, hreceived, List.Vector.map_id, ← dataOf_toList v]
  simp only [List.append_assoc]
  exact .bind (reads_native hnull) (.bind .u64 (.bind .u64
    (.last (reads_bytes (v.toList_length.trans_le hsize) (by decide)) (.skip .requireOk
      (.skip (.require ⟨hcb, hdst', hoffset, hsome, hsize, hwords, v.toList_length⟩) .pure)))))

theorem mod_four_of_aligned {n : UInt32} (h : n &&& 3 = 0) : n.toNat % 4 = 0 := by
  have hbits : n.toNat &&& (2 ^ 2 - 1) = 0 := by
    have hand := congrArg UInt32.toNat h
    rwa [UInt32.toNat_and] at hand
  rwa [Nat.and_two_pow_sub_one_eq_mod] at hbits

theorem takes_pushConstants {layout : UInt64} {stages offset size : UInt32}
    {values : Ptr (Elements UInt8 size.toNat)} (hnull : hr.KeepsNull) (hcb : cb ≠ 0)
    (hlayout : hr .pipelineLayout layout ≠ 0) (hsome : size ≠ 0) (hsize : size.toNat ≤ kMaxPushConstantBytes)
    (hoffset : offset &&& 3 = 0) (hwords : size &&& 3 = 0) (h : values.Whole) :
    Takes (readCall cb .cmdPushConstants) hr
      (Writer.handle layout ++ Writer.u32 stages ++ Writer.u32 offset ++ Writer.bytes values.items)
      (.cmdPushConstants (resolved hr .pipelineLayout layout) stages offset size (values.received id)) := by
  have hpositive : size.toNat ≠ 0 := fun h0 => hsome (UInt32.toNat_inj.1 h0)
  obtain ⟨v, hitems, hreceived⟩ := exists_elements h hpositive
  have hlayout' := resolved_needed hnull hlayout
  have hvalues : v.toList ≠ [] := by
    intro hnil
    have hlength := v.toList_length
    rw [hnil] at hlength
    exact hpositive hlength.symm
  have haligned : v.toList.length % 4 = 0 := by
    rw [v.toList_length]
    exact mod_four_of_aligned hwords
  have hcount : size = UInt32.ofNat v.toList.length := by
    rw [v.toList_length, UInt32.ofNat_toNat]
  -- the size that the driver gets is the length of what was sent
  have hsame : ∀ n, size = n → Call.cmdPushConstants (resolved hr .pipelineLayout layout) stages offset size
      (dataOf _ v.toList) = .cmdPushConstants (resolved hr .pipelineLayout layout) stages offset n
      (dataOf _ v.toList) := by
    rintro _ rfl
    rfl
  rw [hitems, hreceived, List.Vector.map_id, ← dataOf_toList v, hsame _ hcount]
  simp only [List.append_assoc]
  refine .bind (reads_native hnull) (.bind .u32 (.bind .u32 ?_))
  rw [← List.append_nil (Writer.bytes v.toList)]
  exact .bind (reads_bytes (v.toList_length.trans_le hsize) (by decide))
    (takes_end ⟨rfl, hcb, hlayout', hvalues, hoffset, haligned⟩)

theorem reads_barriers {memoryCount bufferCount imageCount : UInt32}
    {memory : Ptr (Elements VkMemoryBarrier memoryCount.toNat)}
    {buffers : Ptr (Elements VkBufferMemoryBarrier bufferCount.toNat)}
    {images : Ptr (Elements VkImageMemoryBarrier imageCount.toNat)} {src dst flags : UInt32} (hcb : cb ≠ 0)
    (hmemory : memory.Whole) (hbuffers : buffers.Whole) (himages : images.Whole) :
    Reads (readCall cb .cmdPipelineBarrier) hr
      (Writer.u32 src ++ Writer.u32 dst ++ Writer.u32 flags ++ writeBarriers memory buffers images)
      (.cmdPipelineBarrier src dst flags memoryCount (memory.received PlainState.bare) bufferCount
        (buffers.received (VkBufferMemoryBarrier.received hr)) imageCount
        (images.received (VkImageMemoryBarrier.received hr))) := by
  unfold writeBarriers
  simp only [List.append_assoc]
  refine .bind .u32 (.bind .u32 (.bind .u32 ?_))
  refine .bind (reads_regions hmemory (fun _ _ => reads_plainState (by decide))
    (fun s _ => le_length_barrier s) 24) ?_
  refine .bind (reads_regions hbuffers (fun _ _ => reads_bufferMemoryBarrier)
    (fun s _ => le_length_bufferBarrier s) 56) ?_
  exact .last (reads_regions himages (fun _ _ => reads_imageMemoryBarrier)
    (fun s _ => le_length_imageBarrier s) 72) (.skip (.require hcb) .pure)

theorem reads_waitEvents {eventCount memoryCount bufferCount imageCount : UInt32}
    {events : Ptr (Elements UInt64 eventCount.toNat)}
    {memory : Ptr (Elements VkMemoryBarrier memoryCount.toNat)}
    {buffers : Ptr (Elements VkBufferMemoryBarrier bufferCount.toNat)}
    {images : Ptr (Elements VkImageMemoryBarrier imageCount.toNat)} {src dst : UInt32} (hnull : hr.KeepsNull)
    (hcb : cb ≠ 0)
    (h : (Call.cmdWaitEvents eventCount events src dst memoryCount memory bufferCount buffers imageCount
      images).Whole) :
    Reads (readCall cb .cmdWaitEvents) hr
      (writeCounted Writer.handle eventCount events ++ Writer.u32 src ++ Writer.u32 dst ++
        writeBarriers memory buffers images)
      (.cmdWaitEvents eventCount (events.received (resolved hr .event)) src dst memoryCount
        (memory.received PlainState.bare) bufferCount (buffers.received (VkBufferMemoryBarrier.received hr))
        imageCount (images.received (VkImageMemoryBarrier.received hr))) := by
  obtain ⟨⟨hcount, hevents⟩, ⟨hcountm, hmemory⟩, ⟨hcountb, hbuffers⟩, hcounti, himages⟩ := h
  unfold writeBarriers
  simp only [List.append_assoc]
  refine .bind (reads_backed hcount hevents (fun _ _ => reads_native hnull) (by decide)
    (fun id _ => (length_handle id).ge) 8) (.bind .u32 (.bind .u32 ?_))
  refine .bind (reads_backed hcountm hmemory (fun _ _ => reads_plainState (by decide)) (by decide)
    (fun s _ => le_length_barrier s) 24) ?_
  refine .bind (reads_backed hcountb hbuffers (fun _ _ => reads_bufferMemoryBarrier) (by decide)
    (fun s _ => le_length_bufferBarrier s) 56) ?_
  exact .last (reads_backed hcounti himages (fun _ _ => reads_imageMemoryBarrier) (by decide)
    (fun s _ => le_length_imageBarrier s) 72) (.skip .requireOk (.skip (.require hcb) .pure))

theorem length_fields {ss : List Slot} (h : ∀ x ∈ ss, Slot.written x = true) {n : ℕ} (hn : n ≤ Record.size ss)
    (r : Record ss) : n ≤ (writeFields ss r).length := hn.trans (size_le_length_writeFields h r)

theorem reads_clearAttachments {attachmentCount rectCount : UInt32}
    {attachments : Ptr (Elements VkClearAttachment attachmentCount.toNat)}
    {rects : Ptr (Elements VkClearRect rectCount.toNat)} (hcb : cb ≠ 0)
    (hcounta : attachmentCount.toNat ≤ kMaxArrayElements) (hattachments : attachments.Whole)
    (hcountr : rectCount.toNat ≤ kMaxArrayElements) (hrects : rects.Whole) :
    Reads (readCall cb .cmdClearAttachments) hr
      (writeCounted (writeFields [.u32, .u32, .blob 16]) attachmentCount attachments ++
        writeCounted (writeFields (List.replicate 6 .u32)) rectCount rects)
      (.cmdClearAttachments attachmentCount (attachments.received id) rectCount (rects.received id)) := by
  refine .bind (reads_backed hcounta hattachments (fun _ _ => .fields (by decide)) (by decide)
    (fun a _ => length_fields (by decide) (by decide) a) 24) ?_
  exact .last (reads_backed hcountr hrects (fun _ _ => .fields (by decide)) (by decide)
    (fun r _ => length_fields (by decide) (by decide) r) 24) (.skip .requireOk (.skip (.require hcb) .pure))

/-- The handlers of copies and clears between two images. -/
theorem reads_between {src dst : UInt64} {srcLayout dstLayout : UInt32} {β : Type} {k : UInt64 × UInt32 ×
    UInt64 × UInt32 → Decode β} {bs : List UInt8} {b : β} (hnull : hr.KeepsNull)
    (h : Reads (k (resolved hr .image src, srcLayout, resolved hr .image dst, dstLayout)) hr bs b) :
    Reads (readImagePair >>= k) hr (writeImagePair src srcLayout dst dstLayout ++ bs) b :=
  .bind (reads_imagePair hnull) h

theorem takes_call {call : Call} {arguments : List UInt8} (hw : call.write commandBufferId = some arguments)
    (h : call.Whole) (hnull : hr.KeepsNull) (hcb : cb ≠ 0) (hneeded : ∀ u ∈ call.needed, hr u.kind u.id ≠ 0)
    (hoptional : ∀ u ∈ call.optional, hr.Finds u.kind u.id) :
    Takes (readCall cb call.opcode) hr arguments (call.received commandBufferId hr) := by
  cases call with
  | plain c args =>
    obtain ⟨-, hw⟩ := Option.ite_none_right_eq_some.1 hw
    obtain rfl := Option.some.inj hw
    exact takes_plain c hnull hcb h hneeded
  | beginCommandBuffer info =>
    obtain rfl := Option.some.inj hw
    have hfinds : info.Finds hr := fun i hi =>
      ⟨hoptional ⟨.renderPass, i.renderPass⟩
          (List.mem_flatMap.2 ⟨i, Option.mem_toList.2 hi, by simp [inheritanceUses]⟩),
        hoptional ⟨.framebuffer, i.framebuffer⟩
          (List.mem_flatMap.2 ⟨i, Option.mem_toList.2 hi, by simp [inheritanceUses]⟩)⟩
    exact .of_reads (.skip .requireOk (.skip (.require hcb) (.last (reads_commandBufferBeginInfo h hfinds) .pure)))
  | cmdBeginRenderPass info contents =>
    obtain ⟨bytes, hinfo, hw⟩ := Option.bind_eq_some_iff.1 hw
    obtain rfl := Option.some.inj hw
    exact .of_reads (.skip .requireOk (.skip (.require hcb) (.bind (reads_renderPassBeginInfo hinfo h)
      (.last .u32 (.skip .requireOk .pure)))))
  | cmdBeginRenderPass2 info subpass =>
    obtain ⟨bytes, hinfo, hw⟩ := Option.bind_eq_some_iff.1 hw
    obtain ⟨begun, hsubpass, hw⟩ := Option.bind_eq_some_iff.1 hw
    obtain rfl := Option.some.inj hw
    exact .of_reads (.skip .requireOk (.skip (.require hcb) (.bind (reads_renderPassBeginInfo hinfo h.1)
      (.last (reads_subpassBeginInfo hsubpass h.2) .pure))))
  | cmdNextSubpass2 first last =>
    obtain ⟨begun, hfirst, hw⟩ := Option.bind_eq_some_iff.1 hw
    obtain ⟨ended, hlast, hw⟩ := Option.bind_eq_some_iff.1 hw
    obtain rfl := Option.some.inj hw
    exact .of_reads (.skip .requireOk (.skip (.require hcb) (.bind (reads_subpassBeginInfo hfirst h.1)
      (.last (reads_subpassEndInfo hlast h.2) .pure))))
  | cmdEndRenderPass2 last =>
    exact .of_reads (.skip .requireOk (.skip (.require hcb) (.last (reads_subpassEndInfo hw h) .pure)))
  | cmdSetFragmentShadingRateKHR pFragmentSize combinerOps =>
    obtain ⟨size, hsize, hw⟩ := Option.bind_eq_some_iff.1 hw
    obtain ⟨ops, hops, hw⟩ := Option.bind_eq_some_iff.1 hw
    obtain rfl := Option.some.inj hw
    rw [Call.received, contents_of_target hsize, contents_of_target hops]
    exact .of_reads (.bind (.fields (by decide)) (.last (.fields (by decide)) (.skip .requireOk
      (.skip (.require hcb) .pure))))
  | cmdBindDescriptorSets bindPoint layout firstSet setCount sets offsetCount offsets =>
    obtain ⟨⟨-, hvalids, hvalido, -⟩, hw⟩ := Option.ite_none_right_eq_some.1 hw
    obtain rfl := Option.some.inj hw
    obtain ⟨hlayout, hsets⟩ := List.forall_mem_cons.1 hneeded
    exact takes_bindDescriptorSets hnull hcb hvalids hvalido h.2.1 h.2.2 h.1 hlayout (needed_all hsets)
  | cmdBindVertexBuffers first count buffers offsets =>
    obtain ⟨⟨hvalidb, hvalido⟩, hw⟩ := Option.ite_none_right_eq_some.1 hw
    obtain rfl := Option.some.inj hw
    exact .of_reads (reads_bindVertexBuffers hnull hcb hvalidb hvalido h.1 h.2 (needed_all hneeded))
  | cmdSetViewport first count viewports =>
    obtain rfl := Option.some.inj hw
    exact .of_reads (.bind .u32 (.last (reads_raws h (by decide) (fun _ => rfl) 24) (.skip (.require hcb) .pure)))
  | cmdSetScissor first count scissors =>
    obtain rfl := Option.some.inj hw
    exact .of_reads (.bind .u32 (.last (reads_raws h (by decide) (fun _ => rfl) 16) (.skip (.require hcb) .pure)))
  | cmdPipelineBarrier src dst flags memoryCount memory bufferCount buffers imageCount images =>
    obtain rfl := Option.some.inj hw
    exact .of_reads (reads_barriers hcb h.1 h.2.1 h.2.2)
  | cmdPipelineBarrier2 info =>
    obtain ⟨dependency, htarget, hw⟩ := Option.bind_eq_some_iff.1 hw
    rw [Call.received, contents_of_target htarget]
    exact takes_barrier2 hw (h _ htarget) hnull hcb (dependency_finds fun u hu =>
      hoptional u (List.mem_flatMap.2 ⟨dependency, Option.mem_toList.2 htarget, hu⟩))
  | cmdSetEvent2 event info =>
    obtain ⟨dependency, htarget, hw⟩ := Option.bind_eq_some_iff.1 hw
    obtain ⟨bytes, hdependency, hw⟩ := Option.bind_eq_some_iff.1 hw
    obtain rfl := Option.some.inj hw
    rw [Call.received, contents_of_target htarget]
    exact takes_setEvent2 hdependency (h _ htarget) hnull hcb (needed_one hneeded)
      (dependency_finds fun u hu =>
        hoptional u (List.mem_flatMap.2 ⟨dependency, Option.mem_toList.2 htarget, hu⟩))
  | cmdWaitEvents2 count events infos =>
    obtain ⟨⟨hvalide, hvalidi⟩, hw⟩ := Option.ite_none_right_eq_some.1 hw
    obtain ⟨waits, hwaits, hw⟩ := Option.bind_eq_some_iff.1 hw
    obtain rfl := Option.some.inj hw
    exact takes_waitEvents2 hvalide hvalidi hwaits h.1 h.2.1 h.2.2 hnull hcb (needed_all hneeded)
      fun info hinfo => dependency_finds fun u hu => hoptional u (List.mem_flatMap.2 ⟨info, hinfo, hu⟩)
  | cmdCopyBuffer src dst count regions =>
    obtain rfl := Option.some.inj hw
    simp only [List.append_assoc]
    exact .of_reads (.bind (reads_native hnull) (.bind (reads_native hnull)
      (.last (reads_raws h (by decide) (fun _ => rfl) 24) (.skip (.require hcb) .pure))))
  | cmdCopyBufferToImage src dst layout count regions =>
    obtain rfl := Option.some.inj hw
    simp only [List.append_assoc]
    exact .of_reads (.bind (reads_native hnull) (.bind (reads_native hnull) (.bind .u32
      (.last (reads_raws h (by decide) (fun _ => rfl) 56) (.skip (.require hcb) .pure)))))
  | cmdCopyImageToBuffer src layout dst count regions =>
    obtain rfl := Option.some.inj hw
    simp only [List.append_assoc]
    exact .of_reads (.bind (reads_native hnull) (.bind .u32 (.bind (reads_native hnull)
      (.last (reads_raws h (by decide) (fun _ => rfl) 56) (.skip (.require hcb) .pure)))))
  | cmdCopyImage src srcLayout dst dstLayout count regions =>
    obtain rfl := Option.some.inj hw
    obtain ⟨hsrc, hdst⟩ := needed_pair hnull hneeded
    exact .of_reads (reads_between hnull (.last (reads_raws h.2 (by decide) (fun _ => rfl) 68)
      (.skip (.require ⟨h.1, hcb, hsrc, hdst⟩) .pure)))
  | cmdBlitImage src srcLayout dst dstLayout count regions filter =>
    obtain rfl := Option.some.inj hw
    obtain ⟨hsrc, hdst⟩ := needed_pair hnull hneeded
    rw [List.append_assoc]
    exact .of_reads (reads_between hnull (.bind (reads_raws h.2 (by decide) (fun _ => rfl) 80) (.last .u32
      (.skip .requireOk
        (.skip (.require ⟨h.1, hcb, hsrc, hdst⟩) .pure)))))
  | cmdUpdateBuffer dst dstOffset dataSize data =>
    obtain rfl := Option.some.inj hw
    obtain ⟨hoffset, hsome, hsize, hwords, hdata⟩ := h
    exact .of_reads (reads_updateBuffer hnull hcb (needed_one hneeded) hoffset hsome hsize hwords
      hdata)
  | cmdClearColorImage image layout color count ranges =>
    obtain rfl := Option.some.inj hw
    simp only [List.append_assoc]
    exact .of_reads (.bind (reads_native hnull) (.bind .u32 (.bind (.raw color (by decide))
      (.last (reads_fitting h (fun range _ => .raw range (by decide)) (by decide)
        (fun range _ => (Nat.le_add_right 4 _).trans_eq (length_writeRaw range).symm) 20)
        (.skip .requireOk (.skip (.require hcb) .pure))))))
  | cmdClearDepthStencilImage image layout pValue count ranges =>
    obtain ⟨value, hvalue, hw⟩ := Option.bind_eq_some_iff.1 hw
    obtain rfl := Option.some.inj hw
    rw [Call.received, contents_of_target hvalue]
    simp only [List.append_assoc]
    exact .of_reads (.bind (reads_native hnull) (.bind .u32 (.bind (.fields (by decide))
      (.last (reads_backed h.1 h.2 (fun range _ => reads_subresourceRange range) (by decide)
        (fun range _ => length_fields (by decide) (by decide) range.fields) 20)
        (.skip .requireOk (.skip
          (.require ⟨hcb, resolved_needed hnull (needed_one hneeded)⟩) .pure))))))
  | cmdClearAttachments attachmentCount attachments rectCount rects =>
    obtain rfl := Option.some.inj hw
    exact .of_reads (reads_clearAttachments hcb h.1.1 h.1.2 h.2.1 h.2.2)
  | cmdResolveImage src srcLayout dst dstLayout count regions =>
    obtain rfl := Option.some.inj hw
    obtain ⟨hsrc, hdst⟩ := needed_pair hnull hneeded
    exact .of_reads (reads_between hnull (.last (reads_backed h.1 h.2 (fun _ _ => .fields (by decide)) (by decide)
      (fun r _ => length_fields (by decide) (by decide) r) 68) (.skip .requireOk
      (.skip (.require ⟨hcb, hsrc, hdst⟩) .pure))))
  | cmdWaitEvents eventCount events src dst memoryCount memory bufferCount buffers imageCount images =>
    obtain rfl := Option.some.inj hw
    exact .of_reads (reads_waitEvents hnull hcb h)
  | cmdPushConstants layout stages offset size values =>
    obtain ⟨⟨-, hsome, hsize, hoffset, hwords, hpresent⟩, hw⟩ := Option.ite_none_right_eq_some.1 hw
    obtain rfl := Option.some.inj hw
    exact takes_pushConstants hnull hcb (needed_one hneeded) hsome hsize hoffset hwords
      ⟨h, fun _ => hpresent⟩
  | cmdExecuteCommands count commandBuffers =>
    obtain rfl := Option.some.inj hw
    exact .of_reads (.last (reads_backed h.1 h.2 (fun _ _ => reads_native hnull) (by decide)
      (fun handle _ => (length_handle _).ge) 8) (.skip .requireOk (.skip (.require hcb) .pure)))

end

theorem takes_command {c : Command} {request : List UInt8} (hw : c.write commandBufferId = some request)
    (h : c.call.Whole) (hnull : hr.KeepsNull) (hfinds : c.Finds commandBufferId hr) :
    Takes c.call.opcode.read hr request (c.received commandBufferId hr) := by
  obtain ⟨arguments, harguments, hw⟩ := Option.bind_eq_some_iff.1 hw
  obtain rfl := Option.some.inj hw
  have hcall := takes_call harguments h hnull (resolved_needed hnull hfinds.commandBuffer) hfinds.needed
    hfinds.optional
  refine .bind (reads_native hnull) fun s hs => ?_
  obtain ⟨s', hrun, hs'⟩ := hcall s hs
  exact ⟨s', Marshal.bind_of hrun, hs'⟩

end

/-- The handler of a command that was sent makes the call of the application, with the driver's handles for
the ids, and it fails only where the device does not have the function. -/
theorem handled_command {commandBufferId : UInt64 → UInt64} {hr : Resolver} {c : Command} {request : List UInt8}
    (env : Functions) (hw : c.write commandBufferId = some request) (h : c.call.Whole) (hnull : hr.KeepsNull)
    (hfinds : c.Finds commandBufferId hr) :
    c.call.opcode.handle env hr request =
      if env.reach (c.received commandBufferId hr).commandBuffer c.call.opcode.function then
        some (c.received commandBufferId hr)
      else none := by
  obtain ⟨s, hrun, -⟩ := takes_command hw h hnull hfinds { reader := ⟨request, false⟩ } rfl
  unfold Opcode.handle
  rw [hrun]

theorem updateBase_nonzero : (4096 : UInt64) ≠ 0 := by decide

def updateBase : Address := ⟨4096, updateBase_nonzero⟩

/-- Four bytes for a buffer. -/
def updateOne : Command where
  commandBuffer := 7
  call := .cmdUpdateBuffer 3 8 4 (.host updateBase (1 ::ᵥ 2 ::ᵥ 3 ::ᵥ 4 ::ᵥ .nil))

theorem handled_command_updateOne :
    Opcode.handle .cmdUpdateBuffer ⟨fun _ => none, fun _ _ => false⟩ (fun _ id => id)
      ((updateOne.write id).getD []) = some (updateOne.received id fun _ id => id) := by
  have hfinds : updateOne.Finds id fun _ id => id :=
    ⟨by decide, List.forall_mem_singleton.2 (by decide), fun u hu => (List.not_mem_nil hu).elim⟩
  have hwhole : updateOne.call.Whole :=
    ⟨by decide, by decide, by decide, by decide, trivial, fun _ => rfl⟩
  exact handled_command (c := updateOne) ⟨fun _ => none, fun _ _ => false⟩ rfl hwhole (fun _ => rfl) hfinds

end VkRemote.Commands
