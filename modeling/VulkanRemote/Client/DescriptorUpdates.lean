import Mathlib.Data.List.Zip
import VulkanRemote.Client.Recording
import VulkanRemote.Lib.Overlay
import VulkanRemote.Marshal.Descriptors

/-! `UpdateDescriptorSets` on the client: a cursor walks from the slot that an update names over the bindings
of the layout, what is written and copied is collected apart from the metadata, and applied to it in the end. -/

namespace VkRemote.Client

open Lib Wire Marshal

structure DescriptorBindingMetadata where
  binding : UInt32
  descriptorCount : UInt32
  deriving DecidableEq

/-- The bindings of a layout, in the order of their numbers. -/
structure SetLayout where
  bindings : List DescriptorBindingMetadata
  sorted : bindings.Pairwise fun a b => a.binding ≤ b.binding

/-- What `CreateDescriptorSetLayout` keeps of the bindings of a layout. -/
def SetLayout.ofBindings (pBindings : List VkDescriptorSetLayoutBinding) : SetLayout where
  bindings := (pBindings.map fun b => ⟨b.binding, b.descriptorCount⟩).insertionSort
    fun a b => a.binding ≤ b.binding
  sorted :=
    haveI : Std.Total fun a b : DescriptorBindingMetadata => a.binding ≤ b.binding := ⟨fun _ _ => UInt32.le_total _ _⟩
    haveI : IsTrans DescriptorBindingMetadata fun a b => a.binding ≤ b.binding := ⟨fun _ _ _ => UInt32.le_trans⟩
    List.pairwise_insertionSort _ _

/-- `descriptor_slot_key`. -/
def descriptorSlotKey (binding element : UInt32) : UInt64 := binding.toUInt64 <<< 32 ||| element.toUInt64

/-- `DescriptorSlotCursor`, with the bindings from `binding_index` on. Without a layout there are none. -/
structure DescriptorSlotCursor where
  bindings : List DescriptorBindingMetadata
  element : UInt32

namespace DescriptorSlotCursor

def current (c : DescriptorSlotCursor) : Option UInt64 :=
  match c.bindings with
  | [] => none
  | b :: _ => if c.element < b.descriptorCount then some (descriptorSlotKey b.binding c.element) else none

def advance (c : DescriptorSlotCursor) : DescriptorSlotCursor :=
  match c.bindings with
  | [] => c
  | b :: rest =>
    if c.element + 1 < b.descriptorCount then { c with element := c.element + 1 }
    else { bindings := rest.dropWhile (·.descriptorCount = 0), element := 0 }

/-- The keys in a loop over `n` descriptors; where the cursor has none, `key` stays what it was set to. -/
def keys (binding : UInt32) : ℕ → UInt32 → DescriptorSlotCursor → List UInt64
  | 0, _, _ => []
  | n + 1, element, c =>
    c.current.getD (descriptorSlotKey binding element) :: keys binding n (element + 1) c.advance

end DescriptorSlotCursor

def descriptorCursor (layout : Option SetLayout) (binding element : UInt32) : DescriptorSlotCursor :=
  match (layout.elim [] SetLayout.bindings).dropWhile (·.binding < binding) with
  | [] => ⟨[], element⟩
  | b :: rest => if b.binding = binding then ⟨b :: rest, element⟩ else ⟨[], element⟩

/-- The keys of the `n` descriptors of an update. -/
def descriptorKeys (layout : Option SetLayout) (binding element : UInt32) (n : ℕ) : List UInt64 :=
  (descriptorCursor layout binding element).keys binding n element

def DescriptorType.ofVk (type : UInt32) : DescriptorType :=
  if type = 3 then .storageImage else if type = 5 then .storageTexelBuffer
  else if type = 7 then .storageBuffer else if type = 9 then .storageBufferDynamic else .other

/-- What is kept of a resource: nothing if it has no id. -/
def DescriptorResource.kept (r : DescriptorResource) : Option DescriptorResource :=
  if r.resourceId ≠ 0 then some r else none

/-- A resource for each descriptor of the write; only those that a shader can write through have an id. -/
def writtenResources (w : VkWriteDescriptorSet) : List DescriptorResource :=
  match DescriptorType.ofVk w.descriptorType with
  | .storageBuffer | .storageBufferDynamic =>
    w.pBufferInfo.items.map fun i => ⟨.ofVk w.descriptorType, i.buffer.toNat⟩
  | .storageImage => w.pImageInfo.items.map fun i => ⟨.ofVk w.descriptorType, i.imageView.toNat⟩
  | .storageTexelBuffer => w.pTexelBufferView.items.map fun v => ⟨.ofVk w.descriptorType, v.toNat⟩
  | .other => List.replicate w.descriptorCount.toNat ⟨.other, 0⟩

/-- `VkCopyDescriptorSet`. -/
structure CopyDescriptorSet where
  sType : UInt32 := 36
  pNext : PNext := .null
  srcSet : UInt64
  srcBinding : UInt32
  srcArrayElement : UInt32
  dstSet : UInt64
  dstBinding : UInt32
  dstArrayElement : UInt32
  descriptorCount : UInt32

/-- As it lies in memory. -/
def CopyDescriptorSet.raw (c : CopyDescriptorSet) : VkCopyDescriptorSet where
  sType := c.sType
  pNext := c.pNext
  srcSet := c.srcSet
  source := ⟨Writer.u32 c.srcBinding ++ Writer.u32 c.srcArrayElement, by simp⟩
  dstSet := c.dstSet
  destination := ⟨Writer.u32 c.dstBinding ++ Writer.u32 c.dstArrayElement ++ Writer.u32 c.descriptorCount,
    by simp⟩

/-- The arguments of a call. -/
structure DescriptorUpdates where
  writeCount : UInt32
  pWrites : Ptr (Elements VkWriteDescriptorSet writeCount.toNat)
  copyCount : UInt32
  pCopies : Ptr (Elements CopyDescriptorSet copyCount.toNat)

/-- `descriptor_set_layouts` and `descriptor_resources` of a device. Only resources with an id are kept. -/
structure DescriptorTables where
  layouts : SetId → Option SetLayout
  resources : SetId × UInt64 → Option DescriptorResource
  live : ∀ k r, resources k = some r → r.resourceId ≠ 0

/-- `touched_resources`. -/
abbrev Touched := SetId × UInt64 → Option DescriptorResource

def touchWrite (layouts : SetId → Option SetLayout) (touched : Touched) (w : VkWriteDescriptorSet) : Touched :=
  let keys := descriptorKeys (layouts w.dstSet.toNat) w.dstBinding w.dstArrayElement w.descriptorCount.toNat
  putAll touched ((keys.zip (writtenResources w)).map fun e => ((w.dstSet.toNat, e.1), e.2))

/-- The snapshot is of the metadata with what was touched before; then the slots of the destination are put
one after the other. -/
def touchCopy (d : DescriptorTables) (touched : Touched) (c : CopyDescriptorSet) : Touched :=
  let source := descriptorKeys (d.layouts c.srcSet.toNat) c.srcBinding c.srcArrayElement c.descriptorCount.toNat
  let snapshot := source.map fun key =>
    (overlay DescriptorResource.kept d.resources touched (c.srcSet.toNat, key)).getD ⟨.other, 0⟩
  let keys := descriptorKeys (d.layouts c.dstSet.toNat) c.dstBinding c.dstArrayElement c.descriptorCount.toNat
  putAll touched ((keys.zip snapshot).map fun e => ((c.dstSet.toNat, e.1), e.2))

/-- The loop over the writes, with the request and what was touched so far. -/
def touchWrites (layouts : SetId → Option SetLayout) :
    List VkWriteDescriptorSet → List UInt8 × Touched → Option (List UInt8 × Touched)
  | [], p => some p
  | w :: ws, p => do
    let bytes ← writeWriteDescriptorSet w
    touchWrites layouts ws (p.1 ++ bytes, touchWrite layouts p.2 w)

/-- The loop over the copies. -/
def touchCopies (d : DescriptorTables) :
    List CopyDescriptorSet → List UInt8 × Touched → Option (List UInt8 × Touched)
  | [], p => some p
  | c :: cs, p =>
    if c.srcSet = 0 ∨ c.dstSet = 0 then none
    else touchCopies d cs (p.1 ++ writeCopyDescriptorSet c.raw, touchCopy d p.2 c)

def touchAll (d : DescriptorTables) (remoteId : UInt64) (u : DescriptorUpdates) :
    Option (List UInt8 × Touched) := do
  let p ← touchWrites d.layouts u.pWrites.items (Writer.handle remoteId ++ Writer.u32 u.writeCount, fun _ => none)
  touchCopies d u.pCopies.items (p.1 ++ Writer.u32 u.copyCount, p.2)

/-- What was touched is set where it has an id, and erased where it has none. -/
def DescriptorTables.apply (d : DescriptorTables) (touched : Touched) : DescriptorTables where
  layouts := d.layouts
  resources := overlay DescriptorResource.kept d.resources touched
  live := by
    intro k r h
    unfold overlay at h
    split at h
    · next b _ =>
      by_cases hb : b.resourceId = 0
      · simp [DescriptorResource.kept, hb] at h
      · simp only [DescriptorResource.kept, ne_eq, hb, not_false_eq_true, if_true, Option.some.injEq] at h
        exact h ▸ hb
    · exact d.live k r h

/-- `UpdateDescriptorSets`: the metadata after it, and the request that is sent. -/
def updateDescriptorSets (d : DescriptorTables) (remoteId : UInt64) (u : DescriptorUpdates) :
    DescriptorTables × Option (List UInt8) :=
  if validArray u.pWrites ∧ validArray u.pCopies then
    match touchAll d remoteId u with
    | none => (d, none)
    | some (request, touched) => (d.apply touched, some request)
  else (d, none)

/-! ### What an update means -/

structure DescriptorSlot where
  binding : UInt32
  element : UInt32
  deriving DecidableEq

def DescriptorSlot.key (s : DescriptorSlot) : UInt64 := descriptorSlotKey s.binding s.element

/-- A slot of one of the sets. -/
abbrev Place := SetId × DescriptorSlot

/-- The slots of one binding; none if it is empty. -/
def DescriptorBindingMetadata.slots (b : DescriptorBindingMetadata) : List DescriptorSlot :=
  (List.range b.descriptorCount.toNat).map fun e => ⟨b.binding, .ofNat e⟩

/-- The slots of a binding and of all that come after it, if the layout has the binding. -/
def SetLayout.slotsFrom (l : SetLayout) (binding : UInt32) : List DescriptorSlot :=
  if binding ∈ l.bindings.map (·.binding) then
    (l.bindings.filter (binding ≤ ·.binding)).flatMap DescriptorBindingMetadata.slots
  else []

/-- The slot of descriptor `j` of an update, which goes on into the next bindings. A slot that no layout tells
is the one that the update names. -/
def slotOf (layout : Option SetLayout) (binding element : UInt32) (j : ℕ) : DescriptorSlot :=
  ((layout.elim [] (·.slotsFrom binding))[element.toNat + j]?).getD ⟨binding, element + .ofNat j⟩

def updatedSlots (layout : Option SetLayout) (binding element : UInt32) (n : ℕ) : List DescriptorSlot :=
  (List.range n).map (slotOf layout binding element)

/-- The metadata, slot by slot. -/
abbrev Slots := Place → Option DescriptorResource

def DescriptorTables.slots (d : DescriptorTables) : Slots := fun p => d.resources (p.1, p.2.key)

section

variable (layouts : SetId → Option SetLayout)

def writePuts (w : VkWriteDescriptorSet) : List (Place × Option DescriptorResource) :=
  let slots := updatedSlots (layouts w.dstSet.toNat) w.dstBinding w.dstArrayElement w.descriptorCount.toNat
  (slots.zip (writtenResources w)).map fun e => ((w.dstSet.toNat, e.1), e.2.kept)

/-- Source and destination of each descriptor of a copy. -/
def copyPlaces (c : CopyDescriptorSet) : List (Place × Place) :=
  let sources := updatedSlots (layouts c.srcSet.toNat) c.srcBinding c.srcArrayElement c.descriptorCount.toNat
  let slots := updatedSlots (layouts c.dstSet.toNat) c.dstBinding c.dstArrayElement c.descriptorCount.toNat
  (sources.zip slots).map fun e => ((c.srcSet.toNat, e.1), (c.dstSet.toNat, e.2))

namespace DescriptorUpdates

variable (u : DescriptorUpdates)

/-- All writes in order. -/
def afterWrites (m : Slots) : Slots := u.pWrites.items.foldl (fun m w => storeAll m (writePuts layouts w)) m

/-- All writes in order, then all copies in order, one descriptor at a time. -/
def sequential (m : Slots) : Slots :=
  u.pCopies.items.foldl (fun m c => copyEach m (copyPlaces layouts c)) (u.afterWrites layouts m)

/-- Likewise, but a copy reads all its descriptors before it puts the first. -/
def readFirst (m : Slots) : Slots :=
  u.pCopies.items.foldl (fun m c => copyTogether m (copyPlaces layouts c)) (u.afterWrites layouts m)

/-- No copy reads a slot after it has put it. -/
def Disjoint : Prop :=
  ∀ c ∈ u.pCopies.items, (copyPlaces layouts c).Pairwise fun e e' => e.2 ≠ e'.1

instance : Decidable (u.Disjoint layouts) := inferInstanceAs (Decidable (∀ _ ∈ _, List.Pairwise _ _))

/-- The updates that are encoded: no count is too large, no array or handle that is used is null. -/
structure Encodable : Prop where
  writes : validArray u.pWrites
  copies : validArray u.pCopies
  write : ∀ w ∈ u.pWrites.items, (writeWriteDescriptorSet w).isSome
  copy : ∀ c ∈ u.pCopies.items, c.srcSet ≠ 0 ∧ c.dstSet ≠ 0

instance : Decidable u.Encodable :=
  decidable_of_iff
    (validArray u.pWrites ∧ validArray u.pCopies ∧
      (∀ w ∈ u.pWrites.items, (writeWriteDescriptorSet w).isSome) ∧
      ∀ c ∈ u.pCopies.items, c.srcSet ≠ 0 ∧ c.dstSet ≠ 0)
    ⟨fun h => ⟨h.1, h.2.1, h.2.2.1, h.2.2.2⟩, fun h => ⟨h.writes, h.copies, h.write, h.copy⟩⟩

end DescriptorUpdates

/-- An update starts at an element that its binding has, if the layout has the binding. -/
def StartsInside (layout : Option SetLayout) (binding element : UInt32) : Prop :=
  ∀ l ∈ layout, ∀ b ∈ l.bindings.find? (·.binding = binding), element < b.descriptorCount

instance (layout : Option SetLayout) (binding element : UInt32) :
    Decidable (StartsInside layout binding element) :=
  inferInstanceAs (Decidable (∀ _ ∈ _, ∀ _ ∈ _, _ < _))

/-- All writes and copies start at elements that their bindings have. -/
structure DescriptorUpdates.Inside (u : DescriptorUpdates) : Prop where
  write : ∀ w ∈ u.pWrites.items, StartsInside (layouts w.dstSet.toNat) w.dstBinding w.dstArrayElement
  source : ∀ c ∈ u.pCopies.items, StartsInside (layouts c.srcSet.toNat) c.srcBinding c.srcArrayElement
  destination : ∀ c ∈ u.pCopies.items, StartsInside (layouts c.dstSet.toNat) c.dstBinding c.dstArrayElement

end

theorem toNat_descriptorSlotKey (binding element : UInt32) :
    (descriptorSlotKey binding element).toNat = binding.toNat * 2 ^ 32 + element.toNat := by
  have hb := binding.toNat_lt
  have he := element.toNat_lt
  rw [descriptorSlotKey, UInt64.toNat_or, UInt64.toNat_shiftLeft, UInt32.toNat_toUInt64, UInt32.toNat_toUInt64,
    Nat.shiftLeft_eq]
  rw [show (32 : UInt64).toNat % 64 = 32 from rfl, Nat.mod_eq_of_lt (by omega)]
  rw [← Nat.shiftLeft_eq, Nat.shiftLeft_add_eq_or_of_lt he]

theorem DescriptorSlot.key_injective : Function.Injective DescriptorSlot.key := by
  intro s s' h
  have hn := congrArg UInt64.toNat h
  have he := s.element.toNat_lt
  have he' := s'.element.toNat_lt
  simp only [key, toNat_descriptorSlotKey] at hn
  obtain ⟨b, e⟩ := s
  obtain ⟨b', e'⟩ := s'
  simp only [mk.injEq, ← UInt32.toNat_inj] at hn he he' ⊢
  omega

namespace DescriptorSlotCursor

/-- The slots from the cursor on. -/
def remaining (c : DescriptorSlotCursor) : List DescriptorSlot :=
  (c.bindings.flatMap DescriptorBindingMetadata.slots).drop c.element.toNat

/-- The element is one of the binding the cursor is at. -/
def Normal (c : DescriptorSlotCursor) : Prop := ∀ b ∈ c.bindings.head?, c.element < b.descriptorCount

@[simp] theorem length_slots (b : DescriptorBindingMetadata) : b.slots.length = b.descriptorCount.toNat := by
  simp [DescriptorBindingMetadata.slots]

theorem slots_of_empty {b : DescriptorBindingMetadata} (h : b.descriptorCount = 0) : b.slots = [] := by
  simp [DescriptorBindingMetadata.slots, h]

/-- Empty bindings that are skipped have no slots. -/
theorem flatMap_dropWhile_slots (l : List DescriptorBindingMetadata) :
    (l.dropWhile (·.descriptorCount = 0)).flatMap DescriptorBindingMetadata.slots =
      l.flatMap DescriptorBindingMetadata.slots := by
  induction l with
  | nil => rfl
  | cons b l ih =>
    by_cases hb : b.descriptorCount = 0
    · simp [hb, ih, slots_of_empty hb]
    · simp [hb]

variable {c : DescriptorSlotCursor}

theorem current_eq (h : c.Normal) : c.current = c.remaining.head?.map DescriptorSlot.key := by
  obtain ⟨bindings, element⟩ := c
  cases bindings with
  | nil => simp [current, remaining]
  | cons b rest =>
    have hlt : element < b.descriptorCount := h b rfl
    have hn : element.toNat < b.slots.length := by simpa using UInt32.lt_iff_toNat_lt.1 hlt
    have hslot : b.slots[element.toNat] = ⟨b.binding, element⟩ := by
      simp [DescriptorBindingMetadata.slots]
    simp only [current, hlt, if_true, remaining, List.flatMap_cons]
    rw [List.drop_append_of_le_length hn.le, List.drop_eq_getElem_cons hn, hslot]
    rfl

theorem toNat_succ {e n : UInt32} (h : e < n) : (e + 1).toNat = e.toNat + 1 := by
  have hn := n.toNat_lt
  have hlt := UInt32.lt_iff_toNat_lt.1 h
  rw [UInt32.toNat_add, UInt32.toNat_one, Nat.mod_eq_of_lt (by omega)]

theorem remaining_advance (h : c.Normal) : c.advance.remaining = c.remaining.tail := by
  obtain ⟨bindings, element⟩ := c
  cases bindings with
  | nil => simp [advance, remaining]
  | cons b rest =>
    have hlt : element < b.descriptorCount := h b rfl
    have hsucc := toNat_succ hlt
    by_cases hnext : element + 1 < b.descriptorCount
    · simp [advance, remaining, hnext, hsucc]
    · -- the last element: the next slot is the first of the next binding that is not empty
      have hlast : b.slots.length = element.toNat + 1 := by
        have := UInt32.lt_iff_toNat_lt.1 hlt
        have := mt UInt32.lt_iff_toNat_lt.2 hnext
        rw [length_slots]
        omega
      simp only [advance, hnext, if_false, remaining, UInt32.toNat_zero, List.drop_zero,
        flatMap_dropWhile_slots, List.flatMap_cons, List.tail_drop]
      rw [← hlast, List.drop_left]

theorem Normal.advance (h : c.Normal) : c.advance.Normal := by
  obtain ⟨bindings, element⟩ := c
  cases bindings with
  | nil => exact h
  | cons b rest =>
    by_cases hnext : element + 1 < b.descriptorCount
    · intro b' hb'
      simp only [DescriptorSlotCursor.advance, hnext, if_true, List.head?_cons, Option.mem_some_iff] at hb' ⊢
      exact hb' ▸ hnext
    · intro b' hb'
      simp only [DescriptorSlotCursor.advance, hnext, if_false] at hb' ⊢
      have hne := List.head?_dropWhile_not (fun b : DescriptorBindingMetadata => b.descriptorCount = 0) rest
      rw [Option.mem_def.1 hb'] at hne
      exact UInt32.pos_iff_ne_zero.2 (by simpa using hne)

/-- The loop names the slots from the cursor on, and after the last one what the update names. -/
theorem keys_eq (binding : UInt32) (n : ℕ) (element : UInt32) (h : c.Normal) :
    c.keys binding n element =
      (List.range n).map fun j => ((c.remaining[j]?).getD ⟨binding, element + .ofNat j⟩).key := by
  induction n generalizing c element with
  | zero => rfl
  | succ n ih =>
    have hfirst : c.current.getD (descriptorSlotKey binding element) =
        DescriptorSlot.key ((c.remaining[0]?).getD ⟨binding, element + .ofNat 0⟩) := by
      rw [current_eq h, List.head?_eq_getElem?]
      cases c.remaining[0]? with
      | none => simp [DescriptorSlot.key]
      | some s => rfl
    have hrest : ∀ j, DescriptorSlot.key ((c.advance.remaining[j]?).getD ⟨binding, element + 1 + .ofNat j⟩) =
        DescriptorSlot.key ((c.remaining[j + 1]?).getD ⟨binding, element + .ofNat (j + 1)⟩) := by
      intro j
      rw [remaining_advance h, List.getElem?_tail, UInt32.ofNat_add, UInt32.add_assoc,
        UInt32.add_comm (.ofNat j)]
      rfl
    simp only [keys, ih (element + 1) h.advance, hfirst, hrest, List.range_succ_eq_map, List.map_cons,
      List.map_map]
    rfl

end DescriptorSlotCursor

/-- The bindings that the cursor does not pass by are those from the number on. -/
theorem SetLayout.dropWhile_bindings (l : SetLayout) (binding : UInt32) :
    l.bindings.dropWhile (·.binding < binding) = l.bindings.filter (binding ≤ ·.binding) := by
  obtain ⟨bindings, sorted⟩ := l
  induction bindings with
  | nil => rfl
  | cons b rest ih =>
    obtain ⟨hfirst, hrest⟩ := List.pairwise_cons.1 sorted
    by_cases hb : b.binding < binding
    · simpa [hb, UInt32.not_le.2 hb] using ih hrest
    · have hle := UInt32.not_lt.1 hb
      have hall : ∀ b' ∈ rest, binding ≤ b'.binding := fun b' hb' => UInt32.le_trans hle (hfirst b' hb')
      simp only [List.dropWhile_cons, hb, decide_false, if_false, List.filter_cons, hle, decide_true, if_true,
        Bool.false_eq_true]
      rw [List.filter_eq_self.2 fun b' hb' => by simpa using hall b' hb']

theorem find?_dropWhile_binding (l : List DescriptorBindingMetadata) (binding : UInt32) :
    (l.dropWhile (·.binding < binding)).find? (·.binding = binding) = l.find? (·.binding = binding) := by
  induction l with
  | nil => rfl
  | cons b l ih =>
    by_cases hb : b.binding < binding
    · have hne : b.binding ≠ binding := fun h => UInt32.lt_irrefl _ (h ▸ hb)
      simpa [hb, hne] using ih
    · simp [hb]

/-- The first binding from a number on has that number if one has. -/
theorem SetLayout.head_of_mem (l : SetLayout) {binding : UInt32} {b : DescriptorBindingMetadata}
    {rest : List DescriptorBindingMetadata} (h : l.bindings.filter (binding ≤ ·.binding) = b :: rest) :
    binding ∈ l.bindings.map (·.binding) ↔ b.binding = binding := by
  have hb : b ∈ l.bindings.filter (binding ≤ ·.binding) := h ▸ List.mem_cons_self
  obtain ⟨hmem, hle⟩ := List.mem_filter.1 hb
  constructor
  · intro hbinding
    obtain ⟨b', hb', rfl⟩ := List.mem_map.1 hbinding
    have hrest : b' ∈ b :: rest := h ▸ List.mem_filter.2 ⟨hb', by simp⟩
    have hsorted := h ▸ List.Pairwise.filter (fun x : DescriptorBindingMetadata => decide (b'.binding ≤ x.binding)) l.sorted
    rcases List.mem_cons.1 hrest with rfl | hrest
    · rfl
    · exact UInt32.le_antisymm ((List.pairwise_cons.1 hsorted).1 b' hrest) (by simpa using hle)
  · rintro rfl
    exact List.mem_map.2 ⟨b, hmem, rfl⟩

theorem remaining_descriptorCursor (layout : Option SetLayout) (binding element : UInt32) :
    (descriptorCursor layout binding element).remaining =
      (layout.elim [] (·.slotsFrom binding)).drop element.toNat := by
  cases layout with
  | none => simp [descriptorCursor, DescriptorSlotCursor.remaining]
  | some l =>
    simp only [descriptorCursor, Option.elim_some, l.dropWhile_bindings, SetLayout.slotsFrom]
    cases h : l.bindings.filter (binding ≤ ·.binding) with
    | nil => simp [DescriptorSlotCursor.remaining]
    | cons b rest =>
      by_cases hb : b.binding = binding
      · simp only [hb, if_true, (l.head_of_mem h).2 hb, DescriptorSlotCursor.remaining]
      · have hmem := mt (l.head_of_mem h).1 hb
        simp only [hb, if_false, hmem, DescriptorSlotCursor.remaining, List.flatMap_nil]

theorem normal_descriptorCursor {layout : Option SetLayout} {binding element : UInt32}
    (h : StartsInside layout binding element) : (descriptorCursor layout binding element).Normal := by
  cases layout with
  | none =>
    intro b hb
    simp [descriptorCursor] at hb
  | some l =>
    have hfind := find?_dropWhile_binding l.bindings binding
    simp only [descriptorCursor, Option.elim_some]
    cases hrest : l.bindings.dropWhile (·.binding < binding) with
    | nil =>
      intro b hb
      simp at hb
    | cons b rest =>
      by_cases hb : b.binding = binding
      · rw [hrest, List.find?_cons_of_pos (by simpa using hb)] at hfind
        intro b' hb'
        simp only [hb, if_true, List.head?_cons, Option.mem_some_iff] at hb' ⊢
        exact hb' ▸ h l rfl b hfind.symm
      · intro b' hb'
        simp [hb] at hb'

/-- The keys are those of the slots that the update is for. -/
theorem descriptorKeys_eq {layout : Option SetLayout} {binding element : UInt32}
    (h : StartsInside layout binding element) (n : ℕ) :
    descriptorKeys layout binding element n = (updatedSlots layout binding element n).map DescriptorSlot.key := by
  rw [descriptorKeys, DescriptorSlotCursor.keys_eq _ _ _ (normal_descriptorCursor h),
    remaining_descriptorCursor, updatedSlots, List.map_map]
  refine List.map_congr_left fun j _ => ?_
  simp only [Function.comp, slotOf, List.getElem?_drop]

/-! ### What is touched, slot by slot -/

/-- How a slot is named in the metadata. -/
def Place.entry (p : Place) : SetId × UInt64 := (p.1, p.2.key)

theorem Place.entry_injective : Function.Injective Place.entry := by
  intro p q h
  simp only [entry, Prod.mk.injEq] at h
  exact Prod.ext h.1 (DescriptorSlot.key_injective h.2)

namespace DescriptorTables

/-- The metadata with what was touched laid over it. -/
def seen (d : DescriptorTables) (touched : Touched) : Slots :=
  overlay DescriptorResource.kept d.resources touched ∘ Place.entry

variable (d : DescriptorTables) (touched : Touched)

theorem slots_apply : (d.apply touched).slots = d.seen touched := rfl

theorem seen_nothing : d.seen (fun _ => none) = d.slots := rfl

theorem seen_putAll (puts : List (Place × DescriptorResource)) :
    d.seen (putAll touched (puts.map fun e => (e.1.entry, e.2))) =
      storeAll (d.seen touched) (puts.map fun e => (e.1, e.2.kept)) := by
  have hover := overlay_putAll DescriptorResource.kept d.resources touched
    (puts.map fun e => (e.1.entry, e.2))
  have hcomp := storeAll_comp Place.entry_injective (overlay DescriptorResource.kept d.resources touched)
    (puts.map fun e => (e.1, e.2.kept))
  simp only [List.map_map, Function.comp_def] at hover hcomp
  simp only [seen, hover]
  exact hcomp

theorem seen_touchWrite {w : VkWriteDescriptorSet}
    (h : StartsInside (d.layouts w.dstSet.toNat) w.dstBinding w.dstArrayElement) :
    d.seen (touchWrite d.layouts touched w) = storeAll (d.seen touched) (writePuts d.layouts w) := by
  have hput := d.seen_putAll touched
    (((updatedSlots (d.layouts w.dstSet.toNat) w.dstBinding w.dstArrayElement w.descriptorCount.toNat).zip
      (writtenResources w)).map fun e => ((w.dstSet.toNat, e.1), e.2))
  simp only [List.map_map, Function.comp_def] at hput
  simp only [touchWrite, descriptorKeys_eq h, List.zip_map_left, List.map_map]
  exact hput

/-- What the snapshot holds for a slot is what is seen there. -/
theorem kept_snapshot (p : Place) :
    DescriptorResource.kept ((overlay DescriptorResource.kept d.resources touched p.entry).getD ⟨.other, 0⟩) =
      d.seen touched p := by
  have hlive := (d.apply touched).live p.entry
  simp only [apply] at hlive
  simp only [seen, Function.comp]
  cases h : overlay DescriptorResource.kept d.resources touched p.entry with
  | none => simp [DescriptorResource.kept]
  | some r => simp [DescriptorResource.kept, hlive r h]

theorem seen_touchCopy {c : CopyDescriptorSet}
    (hsource : StartsInside (d.layouts c.srcSet.toNat) c.srcBinding c.srcArrayElement)
    (hdestination : StartsInside (d.layouts c.dstSet.toNat) c.dstBinding c.dstArrayElement) :
    d.seen (touchCopy d touched c) = copyTogether (d.seen touched) (copyPlaces d.layouts c) := by
  generalize hs : updatedSlots (d.layouts c.srcSet.toNat) c.srcBinding c.srcArrayElement
    c.descriptorCount.toNat = sources
  generalize ht : updatedSlots (d.layouts c.dstSet.toNat) c.dstBinding c.dstArrayElement
    c.descriptorCount.toNat = targets
  have hput := d.seen_putAll touched ((sources.zip targets).map fun e => ((c.dstSet.toNat, e.2),
    (overlay DescriptorResource.kept d.resources touched (Place.entry (c.srcSet.toNat, e.1))).getD ⟨.other, 0⟩))
  simp only [List.map_map, Function.comp_def, d.kept_snapshot touched] at hput
  simp only [touchCopy, descriptorKeys_eq hsource, descriptorKeys_eq hdestination, hs, ht]
  rw [← List.zip_swap, copyTogether, copyPlaces, hs, ht]
  simp only [List.map_map, List.zip_map_left, List.zip_map_right, Function.comp_def]
  exact hput

theorem seen_writes {ws : List VkWriteDescriptorSet}
    (h : ∀ w ∈ ws, StartsInside (d.layouts w.dstSet.toNat) w.dstBinding w.dstArrayElement) :
    d.seen (ws.foldl (touchWrite d.layouts) touched) =
      ws.foldl (fun m w => storeAll m (writePuts d.layouts w)) (d.seen touched) := by
  induction ws generalizing touched with
  | nil => rfl
  | cons w ws ih =>
    simp only [List.foldl_cons]
    rw [ih _ fun w' hw' => h w' (List.mem_cons_of_mem w hw'), d.seen_touchWrite touched (h w List.mem_cons_self)]

theorem seen_copies {cs : List CopyDescriptorSet}
    (hsource : ∀ c ∈ cs, StartsInside (d.layouts c.srcSet.toNat) c.srcBinding c.srcArrayElement)
    (hdestination : ∀ c ∈ cs, StartsInside (d.layouts c.dstSet.toNat) c.dstBinding c.dstArrayElement) :
    d.seen (cs.foldl (touchCopy d) touched) =
      cs.foldl (fun m c => copyTogether m (copyPlaces d.layouts c)) (d.seen touched) := by
  induction cs generalizing touched with
  | nil => rfl
  | cons c cs ih =>
    simp only [List.foldl_cons]
    rw [ih _ (fun c' hc' => hsource c' (List.mem_cons_of_mem c hc'))
        fun c' hc' => hdestination c' (List.mem_cons_of_mem c hc'),
      d.seen_touchCopy touched (hsource c List.mem_cons_self) (hdestination c List.mem_cons_self)]

end DescriptorTables

theorem touchWrites_some (layouts : SetId → Option SetLayout) {ws : List VkWriteDescriptorSet}
    (h : ∀ w ∈ ws, (writeWriteDescriptorSet w).isSome) (p : List UInt8 × Touched) :
    ∃ request, touchWrites layouts ws p = some (request, ws.foldl (touchWrite layouts) p.2) := by
  induction ws generalizing p with
  | nil => exact ⟨p.1, rfl⟩
  | cons w ws ih =>
    obtain ⟨bytes, hbytes⟩ := Option.isSome_iff_exists.1 (h w List.mem_cons_self)
    obtain ⟨request, hrest⟩ := ih (fun w' hw' => h w' (List.mem_cons_of_mem w hw'))
      (p.1 ++ bytes, touchWrite layouts p.2 w)
    exact ⟨request, by simp [touchWrites, hbytes, hrest]⟩

theorem touchWrites_isSome {layouts : SetId → Option SetLayout} {ws : List VkWriteDescriptorSet}
    {p : List UInt8 × Touched} (h : (touchWrites layouts ws p).isSome) :
    ∀ w ∈ ws, (writeWriteDescriptorSet w).isSome := by
  induction ws generalizing p with
  | nil => simp
  | cons w ws ih =>
    cases hbytes : writeWriteDescriptorSet w with
    | none => simp [touchWrites, hbytes] at h
    | some bytes =>
      have hrest := ih (p := (p.1 ++ bytes, touchWrite layouts p.2 w)) (by simpa [touchWrites, hbytes] using h)
      simpa [hbytes] using hrest

theorem touchCopies_some (d : DescriptorTables) {cs : List CopyDescriptorSet}
    (h : ∀ c ∈ cs, c.srcSet ≠ 0 ∧ c.dstSet ≠ 0) (p : List UInt8 × Touched) :
    ∃ request, touchCopies d cs p = some (request, cs.foldl (touchCopy d) p.2) := by
  induction cs generalizing p with
  | nil => exact ⟨p.1, rfl⟩
  | cons c cs ih =>
    obtain ⟨hsource, hdestination⟩ := h c List.mem_cons_self
    obtain ⟨request, hrest⟩ := ih (fun c' hc' => h c' (List.mem_cons_of_mem c hc'))
      (p.1 ++ writeCopyDescriptorSet c.raw, touchCopy d p.2 c)
    exact ⟨request, by simp [touchCopies, hsource, hdestination, hrest]⟩

theorem touchCopies_isSome {d : DescriptorTables} {cs : List CopyDescriptorSet} {p : List UInt8 × Touched}
    (h : (touchCopies d cs p).isSome) : ∀ c ∈ cs, c.srcSet ≠ 0 ∧ c.dstSet ≠ 0 := by
  induction cs generalizing p with
  | nil => simp
  | cons c cs ih =>
    by_cases hnull : c.srcSet = 0 ∨ c.dstSet = 0
    · simp [touchCopies, hnull] at h
    · have hrest := ih (p := (p.1 ++ writeCopyDescriptorSet c.raw, touchCopy d p.2 c))
        (by simpa [touchCopies, hnull] using h)
      simpa [not_or.1 hnull] using hrest

theorem touchAll_some {u : DescriptorUpdates} (h : u.Encodable) (d : DescriptorTables) (remoteId : UInt64) :
    ∃ request, touchAll d remoteId u = some (request, u.pCopies.items.foldl (touchCopy d)
      (u.pWrites.items.foldl (touchWrite d.layouts) fun _ => none)) := by
  obtain ⟨written, hwritten⟩ := touchWrites_some d.layouts h.write
    (Writer.handle remoteId ++ Writer.u32 u.writeCount, fun _ => none)
  obtain ⟨request, hrequest⟩ := touchCopies_some d h.copy (written ++ Writer.u32 u.copyCount,
    u.pWrites.items.foldl (touchWrite d.layouts) fun _ => none)
  exact ⟨request, by rw [touchAll, hwritten]; exact hrequest⟩

theorem touchAll_none {d : DescriptorTables} {remoteId : UInt64} {u : DescriptorUpdates} (hw : validArray u.pWrites)
    (hc : validArray u.pCopies) (h : ¬ u.Encodable) : touchAll d remoteId u = none := by
  by_contra hne
  refine h ⟨hw, hc, ?_, ?_⟩
  all_goals
    obtain ⟨p, hp⟩ := Option.ne_none_iff_exists'.1 hne
    obtain ⟨written, hwritten, hcopied⟩ := Option.bind_eq_some_iff.1 hp
  · exact touchWrites_isSome (by rw [hwritten]; rfl)
  · exact touchCopies_isSome (by rw [hcopied]; rfl)

theorem updateDescriptorSets_of_encodable {u : DescriptorUpdates} (h : u.Encodable) (d : DescriptorTables)
    (remoteId : UInt64) :
    ∃ request, updateDescriptorSets d remoteId u = (d.apply (u.pCopies.items.foldl (touchCopy d)
      (u.pWrites.items.foldl (touchWrite d.layouts) fun _ => none)), some request) := by
  obtain ⟨request, hall⟩ := touchAll_some h d remoteId
  exact ⟨request, by rw [updateDescriptorSets, if_pos ⟨h.writes, h.copies⟩, hall]⟩

/-- A call that returns early changes nothing. -/
theorem updateDescriptorSets_of_not {u : DescriptorUpdates} (h : ¬ u.Encodable) (d : DescriptorTables)
    (remoteId : UInt64) : updateDescriptorSets d remoteId u = (d, none) := by
  unfold updateDescriptorSets
  split
  · next hvalid => rw [touchAll_none hvalid.1 hvalid.2 h]
  · rfl

namespace DescriptorUpdates

variable {layouts : SetId → Option SetLayout} {u : DescriptorUpdates}

theorem sequential_eq_readFirst (h : u.Disjoint layouts) (m : Slots) :
    u.sequential layouts m = u.readFirst layouts m :=
  List.foldl_ext _ _ _ fun _ c hc => copyEach_eq_copyTogether (h c hc)

end DescriptorUpdates

/-- An update is sent if it is encoded, and then one that starts at elements which are there leaves what its writes and
copies mean, slot by slot; a copy reads before it writes. One that is not encoded leaves everything. -/
theorem updateDescriptorSets_eq (d : DescriptorTables) (remoteId : UInt64) (u : DescriptorUpdates) :
    (u.Encodable →
      (updateDescriptorSets d remoteId u).2.isSome ∧
      (updateDescriptorSets d remoteId u).1.layouts = d.layouts ∧
      (u.Inside d.layouts →
        (updateDescriptorSets d remoteId u).1.slots = u.readFirst d.layouts d.slots ∧
        (u.Disjoint d.layouts → (updateDescriptorSets d remoteId u).1.slots = u.sequential d.layouts d.slots))) ∧
    (¬ u.Encodable → updateDescriptorSets d remoteId u = (d, none)) := by
  refine ⟨fun he => ?_, fun he => updateDescriptorSets_of_not he d remoteId⟩
  obtain ⟨request, hupdate⟩ := updateDescriptorSets_of_encodable he d remoteId
  refine ⟨by rw [hupdate]; rfl, by rw [hupdate]; rfl, fun h => ?_⟩
  have hslots : (updateDescriptorSets d remoteId u).1.slots = u.readFirst d.layouts d.slots := by
    rw [hupdate, DescriptorTables.slots_apply, d.seen_copies _ h.source h.destination, d.seen_writes _ h.write,
      DescriptorTables.seen_nothing]
    rfl
  refine ⟨hslots, fun hdisjoint => ?_⟩
  rw [hslots, DescriptorUpdates.sequential_eq_readFirst hdisjoint]

/-- Set 1 has three storage buffers at binding 0, and two at binding 1; the first is buffer 7. -/
def fiveBuffers : DescriptorTables where
  layouts set := if set = 1 then some ⟨[⟨0, 3⟩, ⟨1, 2⟩], by decide⟩ else none
  resources k := if k = (1, descriptorSlotKey 0 0) then some ⟨.storageBuffer, 7⟩ else none
  live k r h := by
    split at h
    · obtain rfl := Option.some.inj h
      decide
    · cases h

/-- A storage buffer written at binding 0 of set 1, and the one behind it. -/
def writeTwo (element : UInt32) : VkWriteDescriptorSet where
  sType := 35
  pNext := .null
  dstSet := 1
  dstBinding := 0
  dstArrayElement := element
  descriptorCount := 2
  descriptorType := 7
  pImageInfo := .null
  pBufferInfo := .host ⟨128, by decide⟩ ⟨[⟨8, 0, 4⟩, ⟨9, 0, 4⟩], rfl⟩
  pTexelBufferView := .null

/-- Two buffers of set 1 copied within binding 0. -/
def copyTwo (source destination : UInt32) : CopyDescriptorSet where
  srcSet := 1
  srcBinding := 0
  srcArrayElement := source
  dstSet := 1
  dstBinding := 0
  dstArrayElement := destination
  descriptorCount := 2

/-- One write and one copy. -/
def DescriptorUpdates.two (w : VkWriteDescriptorSet) (c : CopyDescriptorSet) : DescriptorUpdates where
  writeCount := 1
  pWrites := .host ⟨64, by decide⟩ ⟨[w], rfl⟩
  copyCount := 1
  pCopies := .host ⟨96, by decide⟩ ⟨[c], rfl⟩

theorem inside_two : (DescriptorUpdates.two (writeTwo 2) (copyTwo 2 0)).Inside fiveBuffers.layouts where
  write w hw := by
    obtain rfl : w = writeTwo 2 := List.mem_singleton.1 hw
    decide
  source c hc := by
    obtain rfl : c = copyTwo 2 0 := List.mem_singleton.1 hc
    decide
  destination c hc := by
    obtain rfl : c = copyTwo 2 0 := List.mem_singleton.1 hc
    decide

theorem updateDescriptorSets_two :
    (updateDescriptorSets fiveBuffers 5 (.two (writeTwo 2) (copyTwo 2 0))).1.slots =
      (DescriptorUpdates.two (writeTwo 2) (copyTwo 2 0)).sequential fiveBuffers.layouts fiveBuffers.slots :=
  (((updateDescriptorSets_eq fiveBuffers 5 _).1 (by decide)).2.2 inside_two).2 (by decide)

/-- A copy that reads what it has put itself, and a write that starts behind the elements of its binding. -/
theorem shifted_copy_and_write_behind :
    (DescriptorUpdates.two (writeTwo 1) (copyTwo 0 1)).Encodable ∧
    (updateDescriptorSets fiveBuffers 5 (.two (writeTwo 1) (copyTwo 0 1))).1.slots (1, ⟨0, 2⟩) =
      some ⟨.storageBuffer, 8⟩ ∧
    (DescriptorUpdates.two (writeTwo 1) (copyTwo 0 1)).sequential fiveBuffers.layouts fiveBuffers.slots
      (1, ⟨0, 2⟩) = some ⟨.storageBuffer, 7⟩ ∧
    (DescriptorUpdates.two (writeTwo 3) (copyTwo 0 0)).Encodable ∧
    (updateDescriptorSets fiveBuffers 5 (.two (writeTwo 3) (copyTwo 0 0))).1.slots (1, ⟨1, 1⟩) = none ∧
    (DescriptorUpdates.two (writeTwo 3) (copyTwo 0 0)).sequential fiveBuffers.layouts fiveBuffers.slots
      (1, ⟨1, 1⟩) = some ⟨.storageBuffer, 9⟩ := by
  decide

end VkRemote.Client
