import VulkanRemote.Client.DescriptorUpdates

/-! `UpdateDescriptorSetWithTemplate` on the client: a loop of its own, over the entries of a template and the
application's data, next to the one of `UpdateDescriptorSets` over writes. -/

namespace VkRemote.Client

open Lib Wire Marshal

structure DescriptorTemplateMetadata where
  templateType : UInt32
  entries : List VkDescriptorUpdateTemplateEntry
  count : entries.length ≤ kMaxArrayElements

/-- What `CreateDescriptorUpdateTemplate` keeps of a template that it could encode. -/
def DescriptorTemplateMetadata.ofInfo (info : VkDescriptorUpdateTemplateCreateInfo)
    (h : (writeDescriptorUpdateTemplateCreateInfo info).isSome) : DescriptorTemplateMetadata where
  templateType := info.templateType
  entries := info.pDescriptorUpdateEntries.items
  count := by
    have hvalid : validArray info.pDescriptorUpdateEntries := by
      by_contra hnot
      simp [writeDescriptorUpdateTemplateCreateInfo, hnot] at h
    cases hp : info.pDescriptorUpdateEntries <;> simp [Ptr.items, Ptr.target, hvalid.1]

/-- The gap behind the layout is never looked at. -/
instance : Raw VkDescriptorImageInfo where
  slots := [.u64, .u64, .u32, .pad 4]
  record s := (s.sampler, s.imageView, s.imageLayout, ())
  gaps _ := .zeros _
  ofRecord := fun (sampler, imageView, imageLayout, _) _ => { sampler, imageView, imageLayout }

instance : Raw VkDescriptorBufferInfo where
  slots := [.u64, .u64, .u64]
  record s := (s.buffer, s.offset, s.range, ())
  gaps _ := ()
  ofRecord := fun (buffer, offset, range, _) _ => { buffer, offset, range }

/-- A handle. -/
instance : Raw UInt64 where
  slots := [.u64]
  record h := (h, ())
  gaps _ := ()
  ofRecord := fun (h, _) _ => h

/-- The application's data, byte by byte. -/
abbrev TemplateData := UInt64 → UInt8

/-- The structure that lies at an offset. -/
def TemplateData.read (data : TemplateData) (α : Type) [Raw α] (p : UInt64) : α :=
  Raw.ofImage ((List.range (Raw.sizeof α)).map fun i => data (p + .ofNat i))

/-- One descriptor: what is sent for it, and what is kept of it. -/
def templateDescriptor (type : UInt32) (data : TemplateData) (p : UInt64) : List UInt8 × DescriptorResource :=
  if type ∈ [0, 1, 2, 3, 10] then
    let x := data.read VkDescriptorImageInfo p
    (Writer.handle x.sampler ++ Writer.handle x.imageView ++ Writer.i32 x.imageLayout,
      ⟨.ofVk type, if type = 3 then x.imageView.toNat else 0⟩)
  else if type ∈ [4, 5] then
    let view := data.read UInt64 p
    (Writer.handle view, ⟨.ofVk type, if type = 5 then view.toNat else 0⟩)
  else
    let x := data.read VkDescriptorBufferInfo p
    (Writer.handle x.buffer ++ Writer.u64 x.offset ++ Writer.u64 x.range,
      ⟨.ofVk type, if type = 7 ∨ type = 9 then x.buffer.toNat else 0⟩)

/-- The request so far, and `updates`. -/
abbrev TemplateProgress := List UInt8 × (UInt64 → Option DescriptorResource)

/-- The loop over the descriptors of an entry, from `i` on while `n` are left. -/
def templateDescriptors (e : VkDescriptorUpdateTemplateEntry) (data : TemplateData) :
    ℕ → ℕ → DescriptorSlotCursor → TemplateProgress → TemplateProgress
  | 0, _, _, p => p
  | n + 1, i, cursor, p =>
    let x := templateDescriptor e.descriptorType data (e.offset + .ofNat i * e.stride)
    let key := cursor.current.getD (descriptorSlotKey e.dstBinding (e.dstArrayElement + .ofNat i))
    templateDescriptors e data n (i + 1) cursor.advance (p.1 ++ x.1, Function.update p.2 key (some x.2))

def templateEntry (layout : Option SetLayout) (data : TemplateData) (p : TemplateProgress)
    (e : VkDescriptorUpdateTemplateEntry) : TemplateProgress :=
  templateDescriptors e data e.descriptorCount.toNat 0 (descriptorCursor layout e.dstBinding e.dstArrayElement)
    (p.1 ++ Writer.u32 e.descriptorCount ++ Writer.i32 e.descriptorType, p.2)

/-- What was collected for one of the sets. -/
def touchedSet (set : SetId) (updates : UInt64 → Option DescriptorResource) : Touched := fun k =>
  if k.1 = set then updates k.2 else none

/-- `UpdateDescriptorSetWithTemplate`: the metadata after it, and the request that is sent. A layout without
bindings counts as none. -/
def updateDescriptorSetWithTemplate (d : DescriptorTables)
    (templates : UInt64 → Option DescriptorTemplateMetadata) (remoteId set template : UInt64)
    (data : Option TemplateData) : DescriptorTables × Option (List UInt8) :=
  match data, templates template with
  | some data, some metadata =>
    let layout := (d.layouts set.toNat).filter fun l => !l.bindings.isEmpty
    let start := Writer.handle remoteId ++ Writer.handle set ++ Writer.handle template ++
      Writer.u32 (.ofNat metadata.entries.length)
    let p := metadata.entries.foldl (templateEntry layout data) (start, fun _ => none)
    (d.apply (touchedSet set.toNat p.2), some p.1)
  | _, _ => (d, none)

/-! ### The writes that a template and its data denote -/

/-- The elements of an entry, each at its own offset. -/
def templateElements (e : VkDescriptorUpdateTemplateEntry) (data : TemplateData) (α : Type) [Raw α] :
    Elements α e.descriptorCount.toNat :=
  ⟨(List.range e.descriptorCount.toNat).map fun i => data.read α (e.offset + .ofNat i * e.stride), by simp⟩

/-- An entry as a write, with the array that its type uses at an address of the application. -/
def templateWrite (a : Address) (set : UInt64) (data : TemplateData) (e : VkDescriptorUpdateTemplateEntry) :
    VkWriteDescriptorSet where
  sType := 35
  pNext := .null
  dstSet := set
  dstBinding := e.dstBinding
  dstArrayElement := e.dstArrayElement
  descriptorCount := e.descriptorCount
  descriptorType := e.descriptorType
  pImageInfo := if descriptorKind e.descriptorType = 1 then .host a (templateElements e data _) else .null
  pBufferInfo := if descriptorKind e.descriptorType = 2 then .host a (templateElements e data _) else .null
  pTexelBufferView := if descriptorKind e.descriptorType = 3 then .host a (templateElements e data _) else .null

namespace DescriptorTemplateMetadata

theorem toNat_count (m : DescriptorTemplateMetadata) : (UInt32.ofNat m.entries.length).toNat = m.entries.length :=
  UInt32.toNat_ofNat_of_lt' (Nat.lt_of_le_of_lt m.count (by decide))

/-- The call of `UpdateDescriptorSets` with one write for each entry, in order. -/
def writes (m : DescriptorTemplateMetadata) (a : Address) (set : UInt64) (data : TemplateData) :
    DescriptorUpdates where
  writeCount := .ofNat m.entries.length
  pWrites := .host a ⟨m.entries.map (templateWrite a set data), by rw [List.length_map, m.toNat_count]⟩
  copyCount := 0
  pCopies := .null

end DescriptorTemplateMetadata

namespace DescriptorUpdates

/-- What the writes put, slot by slot. -/
def puts (layouts : SetId → Option SetLayout) (u : DescriptorUpdates) :
    List ((SetId × UInt64) × DescriptorResource) :=
  u.pWrites.items.flatMap fun w =>
    ((descriptorKeys (layouts w.dstSet.toNat) w.dstBinding w.dstArrayElement w.descriptorCount.toNat).zip
      (writtenResources w)).map fun e => ((w.dstSet.toNat, e.1), e.2)

/-- Every slot has already what the last descriptor written to it says. -/
def Recorded (u : DescriptorUpdates) (d : DescriptorTables) : Prop :=
  ∀ k, ∀ r ∈ (u.puts d.layouts).reverse.lookup k, d.resources k = r.kept

end DescriptorUpdates

/-- The handles that the type of a descriptor uses are not null. -/
def HandlesNamed (type : UInt32) (data : TemplateData) (p : UInt64) : Prop :=
  if type ∈ [0, 1, 2, 3, 10] then
    (samplerUsed type → (data.read VkDescriptorImageInfo p).sampler ≠ 0) ∧
      (viewUsed type → (data.read VkDescriptorImageInfo p).imageView ≠ 0)
  else if type ∈ [4, 5] then data.read UInt64 p ≠ 0
  else (data.read VkDescriptorBufferInfo p).buffer ≠ 0

instance (type : UInt32) (data : TemplateData) (p : UInt64) : Decidable (HandlesNamed type data p) :=
  inferInstanceAs (Decidable (if type ∈ [0, 1, 2, 3, 10] then (samplerUsed type → _ ≠ _) ∧ (viewUsed type → _ ≠ _)
    else if type ∈ [4, 5] then _ ≠ _ else _ ≠ _))

/-- Where descriptor `i` of an entry lies. -/
def templateOffset (e : VkDescriptorUpdateTemplateEntry) (i : ℕ) : UInt64 := e.offset + .ofNat i * e.stride

/-- An entry and data that `UpdateDescriptorSets` does not refuse: the set and all handles that are used are
there, the type is known and there are not too many descriptors. -/
structure Writable (set : UInt64) (data : TemplateData) (e : VkDescriptorUpdateTemplateEntry) : Prop where
  set : set ≠ 0
  count : e.descriptorCount.toNat ≤ kMaxArrayElements
  type : descriptorKind e.descriptorType ≠ 0
  handles : ∀ i < e.descriptorCount.toNat, HandlesNamed e.descriptorType data (templateOffset e i)

instance (set : UInt64) (data : TemplateData) (e : VkDescriptorUpdateTemplateEntry) :
    Decidable (Writable set data e) :=
  decidable_of_iff
    (set ≠ 0 ∧ e.descriptorCount.toNat ≤ kMaxArrayElements ∧ descriptorKind e.descriptorType ≠ 0 ∧
      ∀ i < e.descriptorCount.toNat, HandlesNamed e.descriptorType data (templateOffset e i))
    ⟨fun h => ⟨h.1, h.2.1, h.2.2.1, h.2.2.2⟩, fun h => ⟨h.set, h.count, h.type, h.handles⟩⟩

/-! ### Both loops touch the same -/

section

variable (a : Address) (set : UInt64) (data : TemplateData) (e : VkDescriptorUpdateTemplateEntry)

theorem descriptorCursor_filter (layout : Option SetLayout) (binding element : UInt32) :
    descriptorCursor (layout.filter fun l => !l.bindings.isEmpty) binding element =
      descriptorCursor layout binding element := by
  cases layout with
  | none => rfl
  | some l =>
    by_cases hempty : l.bindings = []
    · simp [descriptorCursor, Option.filter, hempty]
    · simp [Option.filter, hempty]

theorem ofVk_eq_other_iff (type : UInt32) :
    DescriptorType.ofVk type = .other ↔ type ≠ 3 ∧ type ≠ 5 ∧ type ≠ 7 ∧ type ≠ 9 := by
  unfold DescriptorType.ofVk
  split_ifs <;> simp_all

/-- What is kept of a descriptor of a template is what is kept of the same descriptor of a write. -/
theorem writtenResources_templateWrite :
    writtenResources (templateWrite a set data e) = (List.range e.descriptorCount.toNat).map fun i =>
      (templateDescriptor e.descriptorType data (templateOffset e i)).2 := by
  by_cases hother : DescriptorType.ofVk e.descriptorType = .other
  · obtain ⟨h3, h5, h7, h9⟩ := (ofVk_eq_other_iff _).1 hother
    have hnone : ∀ p, (templateDescriptor e.descriptorType data p).2 = ⟨.other, 0⟩ := by
      intro p
      unfold templateDescriptor
      split_ifs <;> simp_all
    simp [writtenResources, templateWrite, hother, hnone]
  · have hkind : e.descriptorType = 3 ∨ e.descriptorType = 5 ∨ e.descriptorType = 7 ∨ e.descriptorType = 9 := by
      rw [ofVk_eq_other_iff] at hother
      tauto
    rcases hkind with ht | ht | ht | ht
    all_goals
      simp [writtenResources, templateWrite, ht, DescriptorType.ofVk, descriptorKind, templateDescriptor,
        templateOffset, Ptr.items, Ptr.target, templateElements]

theorem templateDescriptors_snd (n i : ℕ) (cursor : DescriptorSlotCursor) (p : TemplateProgress) :
    (templateDescriptors e data n i cursor p).2 =
      putAll p.2 ((cursor.keys e.dstBinding n (e.dstArrayElement + .ofNat i)).zip ((List.range' i n).map fun j =>
        (templateDescriptor e.descriptorType data (templateOffset e j)).2)) := by
  induction n generalizing i cursor p with
  | zero => rfl
  | succ n ih =>
    have hnext : e.dstArrayElement + .ofNat (i + 1) = e.dstArrayElement + .ofNat i + 1 := by
      rw [UInt32.ofNat_add, UInt32.add_assoc]
      rfl
    rw [templateDescriptors, ih, hnext]
    rfl

theorem touchedSet_update (updates : UInt64 → Option DescriptorResource) (key : UInt64) (r : DescriptorResource) :
    touchedSet set.toNat (Function.update updates key (some r)) =
      Function.update (touchedSet set.toNat updates) (set.toNat, key) (some r) := by
  funext k
  obtain ⟨s, key'⟩ := k
  by_cases hs : s = set.toNat
  · by_cases hk : key' = key
    · simp [touchedSet, hs, hk]
    · simp [touchedSet, hs, hk]
  · simp [touchedSet, hs]

theorem touchedSet_putAll (updates : UInt64 → Option DescriptorResource)
    (puts : List (UInt64 × DescriptorResource)) :
    touchedSet set.toNat (putAll updates puts) =
      putAll (touchedSet set.toNat updates) (puts.map fun x => ((set.toNat, x.1), x.2)) := by
  induction puts generalizing updates with
  | nil => rfl
  | cons x puts ih => rw [putAll_cons, ih, touchedSet_update, List.map_cons, putAll_cons]

/-- One entry touches what its write touches. -/
theorem touchedSet_templateEntry (layouts : SetId → Option SetLayout) (p : TemplateProgress) :
    touchedSet set.toNat
        (templateEntry ((layouts set.toNat).filter fun l => !l.bindings.isEmpty) data p e).2 =
      touchWrite layouts (touchedSet set.toNat p.2) (templateWrite a set data e) := by
  have hzero : e.dstArrayElement + .ofNat 0 = e.dstArrayElement := UInt32.add_zero _
  rw [templateEntry, templateDescriptors_snd, touchedSet_putAll, descriptorCursor_filter, hzero,
    ← List.range_eq_range', ← writtenResources_templateWrite a set]
  rfl

theorem touchedSet_entries (layouts : SetId → Option SetLayout) (es : List VkDescriptorUpdateTemplateEntry)
    (p : TemplateProgress) :
    touchedSet set.toNat
        (es.foldl (templateEntry ((layouts set.toNat).filter fun l => !l.bindings.isEmpty) data) p).2 =
      (es.map (templateWrite a set data)).foldl (touchWrite layouts) (touchedSet set.toNat p.2) := by
  induction es generalizing p with
  | nil => rfl
  | cons e es ih =>
    rw [List.foldl_cons, ih, touchedSet_templateEntry a]
    rfl

end

/-- The template leaves what its writes touch, whether they can be encoded or not. -/
theorem updateDescriptorSetWithTemplate_fst (d : DescriptorTables)
    {templates : UInt64 → Option DescriptorTemplateMetadata} {template : UInt64} {m : DescriptorTemplateMetadata}
    (h : templates template = some m) (remoteId set : UInt64) (data : TemplateData) (a : Address) :
    (updateDescriptorSetWithTemplate d templates remoteId set template (some data)).1 =
      d.apply ((m.writes a set data).pWrites.items.foldl (touchWrite d.layouts) fun _ => none) := by
  have hnothing : touchedSet set.toNat (fun _ => none) = fun _ => none := by
    funext k
    simp [touchedSet]
  simp only [updateDescriptorSetWithTemplate, h]
  rw [touchedSet_entries a, hnothing]
  rfl

/-! ### What is refused -/

theorem isSome_writeAll {α : Type} (f : α → Option (List UInt8)) (as : List α) :
    (writeAll f as).isSome ↔ ∀ x ∈ as, (f x).isSome := by
  induction as with
  | nil => simp [writeAll]
  | cons x as ih =>
    rw [List.forall_mem_cons, ← ih, writeAll]
    cases f x <;> cases writeAll f as <;> simp

section

variable (a : Address) (set : UInt64) (data : TemplateData) (e : VkDescriptorUpdateTemplateEntry)

theorem isSome_writeImageInfo (type : UInt32) (info : VkDescriptorImageInfo) :
    (writeImageInfo type info).isSome ↔
      (samplerUsed type → info.sampler ≠ 0) ∧ (viewUsed type → info.imageView ≠ 0) := by
  by_cases h : (samplerUsed type ∧ info.sampler = 0) ∨ (viewUsed type ∧ info.imageView = 0)
  · rw [writeImageInfo, if_pos h]
    simp only [Option.isSome_none, Bool.false_eq_true, false_iff]
    tauto
  · rw [writeImageInfo, if_neg h]
    simp only [Option.isSome_some, true_iff]
    tauto

theorem forall_mem_elements {α : Type} [Raw α] (P : α → Prop) :
    (∀ x ∈ (templateElements e data α).toList, P x) ↔
      ∀ i < e.descriptorCount.toNat, P (data.read α (templateOffset e i)) := by
  simp [templateElements, templateOffset, List.Vector.toList]

/-- All elements of an array that a write denotes can be encoded. -/
theorem isSome_writeElements {α : Type} [Raw α] (hcount : e.descriptorCount.toNat ≤ kMaxArrayElements)
    (f : α → Option (List UInt8)) :
    (if validArray (.host a (templateElements e data α)) then
        writeAll f (Ptr.host a (templateElements e data α)).items else none).isSome ↔
      ∀ i < e.descriptorCount.toNat, (f (data.read α (templateOffset e i))).isSome := by
  have hvalid : validArray (.host a (templateElements e data α)) := ⟨hcount, fun _ => rfl⟩
  rw [if_pos hvalid, isSome_writeAll]
  exact forall_mem_elements data e fun x => (f x).isSome

theorem isSome_writeInfos (hcount : e.descriptorCount.toNat ≤ kMaxArrayElements) :
    (templateWrite a set data e).writeInfos.isSome ↔
      descriptorKind e.descriptorType ≠ 0 ∧
        ∀ i < e.descriptorCount.toNat, HandlesNamed e.descriptorType data (templateOffset e i) := by
  by_cases himage : e.descriptorType ∈ [0, 1, 2, 3, 10]
  · have hkind : descriptorKind e.descriptorType = 1 := by rw [descriptorKind, if_pos himage]
    simp only [VkWriteDescriptorSet.writeInfos, templateWrite, hkind, if_true]
    rw [isSome_writeElements a data e hcount]
    simp [isSome_writeImageInfo, HandlesNamed, himage]
  · by_cases hbuffer : e.descriptorType ∈ [6, 7, 8, 9]
    · have hkind : descriptorKind e.descriptorType = 2 := by
        rw [descriptorKind, if_neg himage, if_pos hbuffer]
      have htexel : e.descriptorType ∉ [4, 5] := by
        intro h
        revert hbuffer
        rcases List.mem_pair.1 h with h | h <;> rw [h] <;> decide
      have hne : ¬ (2 : UInt32) = 1 := by decide
      simp only [VkWriteDescriptorSet.writeInfos, templateWrite, hkind, if_true, hne, if_false]
      rw [isSome_writeElements a data e hcount]
      simp [writeBufferInfo, HandlesNamed, himage, htexel]
    · by_cases htexel : e.descriptorType ∈ [4, 5]
      · have hkind : descriptorKind e.descriptorType = 3 := by
          rw [descriptorKind, if_neg himage, if_neg hbuffer, if_pos htexel]
        have hne1 : ¬ (3 : UInt32) = 1 := by decide
        have hne2 : ¬ (3 : UInt32) = 2 := by decide
        simp only [VkWriteDescriptorSet.writeInfos, templateWrite, hkind, if_true, hne1, hne2, if_false]
        rw [isSome_writeElements a data e hcount]
        simp [writeTexelBufferView, HandlesNamed, himage, htexel]
      · have hkind : descriptorKind e.descriptorType = 0 := by
          rw [descriptorKind, if_neg himage, if_neg hbuffer, if_neg htexel]
        simp [VkWriteDescriptorSet.writeInfos, templateWrite, hkind]

theorem isSome_writeWriteDescriptorSet :
    (writeWriteDescriptorSet (templateWrite a set data e)).isSome ↔ Writable set data e := by
  by_cases hok : e.descriptorCount.toNat ≤ kMaxArrayElements ∧ set ≠ 0
  · have hsome : (writeWriteDescriptorSet (templateWrite a set data e)).isSome ↔
        (templateWrite a set data e).writeInfos.isSome := by
      have hok' : (templateWrite a set data e).descriptorCount.toNat ≤ kMaxArrayElements ∧
        (templateWrite a set data e).dstSet ≠ 0 := hok
      rw [writeWriteDescriptorSet, if_pos hok']
      cases (templateWrite a set data e).writeInfos <;> simp
    rw [hsome, isSome_writeInfos a set data e hok.1]
    exact ⟨fun h => ⟨hok.2, hok.1, h.1, h.2⟩, fun h => ⟨h.type, h.handles⟩⟩
  · have hnone : writeWriteDescriptorSet (templateWrite a set data e) = none := if_neg hok
    rw [hnone]
    exact ⟨fun h => by simp at h, fun h => absurd ⟨h.count, h.set⟩ hok⟩

end

theorem encodable_writes_iff (m : DescriptorTemplateMetadata) (a : Address) (set : UInt64) (data : TemplateData) :
    (m.writes a set data).Encodable ↔ ∀ e ∈ m.entries, Writable set data e := by
  have hitems : (m.writes a set data).pWrites.items = m.entries.map (templateWrite a set data) := rfl
  constructor
  · intro h e he
    refine (isSome_writeWriteDescriptorSet a set data e).1 (h.write _ ?_)
    rw [hitems]
    exact List.mem_map_of_mem he
  · intro h
    refine ⟨⟨?_, fun _ => rfl⟩, ⟨Nat.zero_le _, fun h0 => absurd rfl h0⟩, ?_,
      fun c hc => absurd hc List.not_mem_nil⟩
    · have hcount := m.count
      rwa [← m.toNat_count] at hcount
    · intro w hw
      rw [hitems, List.mem_map] at hw
      obtain ⟨e, he, rfl⟩ := hw
      exact (isSome_writeWriteDescriptorSet a set data e).2 (h e he)

theorem foldl_touchWrite (layouts : SetId → Option SetLayout) (u : DescriptorUpdates) (touched : Touched) :
    u.pWrites.items.foldl (touchWrite layouts) touched = putAll touched (u.puts layouts) := by
  rw [DescriptorUpdates.puts]
  generalize u.pWrites.items = ws
  induction ws generalizing touched with
  | nil => rfl
  | cons w ws ih =>
    rw [List.foldl_cons, ih, List.flatMap_cons, putAll_append]
    rfl

theorem DescriptorTables.apply_eq_self_iff (d : DescriptorTables) (touched : Touched) :
    d.apply touched = d ↔ ∀ k, ∀ r ∈ touched k, d.resources k = r.kept := by
  rw [← overlay_eq_self_iff]
  constructor
  · exact fun h => congrArg DescriptorTables.resources h
  · intro h
    cases d
    simpa [DescriptorTables.apply] using h

/-- A template leaves what `UpdateDescriptorSets` leaves after its writes exactly if these are not refused, or
put nothing new. -/
theorem updateDescriptorSetWithTemplate_eq_iff (d : DescriptorTables)
    {templates : UInt64 → Option DescriptorTemplateMetadata} {template : UInt64} {m : DescriptorTemplateMetadata}
    (h : templates template = some m) (remoteId set : UInt64) (data : TemplateData) (a : Address) :
    (updateDescriptorSetWithTemplate d templates remoteId set template (some data)).1 =
        (updateDescriptorSets d remoteId (m.writes a set data)).1 ↔
      (∀ e ∈ m.entries, Writable set data e) ∨ (m.writes a set data).Recorded d := by
  rw [updateDescriptorSetWithTemplate_fst d h remoteId set data a, ← encodable_writes_iff m a]
  by_cases he : (m.writes a set data).Encodable
  · obtain ⟨request, hupdate⟩ := updateDescriptorSets_of_encodable he d remoteId
    rw [hupdate]
    exact iff_of_true rfl (.inl he)
  · rw [updateDescriptorSets_of_not he, d.apply_eq_self_iff, foldl_touchWrite]
    simp only [putAll_apply, Option.or_none, he, false_or]
    rfl

/-! ### A combined image sampler whose sampler is immutable -/

/-- Set 1 has a combined image sampler at binding 0 and a storage buffer at binding 1. -/
def samplerAndBuffer : DescriptorTables where
  layouts set := if set = 1 then some ⟨[⟨0, 1⟩, ⟨1, 1⟩], by decide⟩ else none
  resources _ := none
  live _ _ h := by cases h

def samplerAndBufferTemplate : DescriptorTemplateMetadata where
  templateType := 0
  entries := [⟨0, 0, 1, 1, 0, 0⟩, ⟨1, 0, 1, 7, 24, 0⟩]
  count := by decide

/-- Image view 6 with the sampler that is given, and buffer 9. -/
def samplerAndBufferData (sampler : UInt64) : TemplateData := fun p =>
  let image := Raw.image (VkDescriptorImageInfo.mk sampler 6 5) ++ Raw.image (VkDescriptorBufferInfo.mk 9 0 16)
  image[p.toNat]?.getD 0

theorem updateDescriptorSetWithTemplate_sampler :
    (updateDescriptorSetWithTemplate samplerAndBuffer (fun _ => some samplerAndBufferTemplate) 5 1 3
      (some (samplerAndBufferData 4))).1 =
    (updateDescriptorSets samplerAndBuffer 5
      (samplerAndBufferTemplate.writes ⟨8, by decide⟩ 1 (samplerAndBufferData 4))).1 :=
  (updateDescriptorSetWithTemplate_eq_iff samplerAndBuffer rfl 5 1 (samplerAndBufferData 4) ⟨8, by decide⟩).2
    (.inl (by decide))

/-- Without a sampler the writes are refused as a whole, while the template records the buffer. -/
theorem null_sampler_recorded :
    (updateDescriptorSetWithTemplate samplerAndBuffer (fun _ => some samplerAndBufferTemplate) 5 1 3
      (some (samplerAndBufferData 0))).1.resources (1, descriptorSlotKey 1 0) = some ⟨.storageBuffer, 9⟩ ∧
    (updateDescriptorSets samplerAndBuffer 5
      (samplerAndBufferTemplate.writes ⟨8, by decide⟩ 1 (samplerAndBufferData 0))).1.resources
        (1, descriptorSlotKey 1 0) = none := by
  decide

end VkRemote.Client
