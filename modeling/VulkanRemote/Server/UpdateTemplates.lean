import VulkanRemote.Marshal.Descriptors
import VulkanRemote.Server.DataReplies
import VulkanRemote.Server.Table

/-! Descriptor update templates on the server: the entries are kept as the client sent them, and an update
fills a payload whose size is computed from them in 64 bit words. -/

namespace VkRemote.Server

open Lib Wire Marshal

abbrev TemplateEntry := VkDescriptorUpdateTemplateEntry

/-- The part of a session that creating and updating through templates use; null handles are zero. -/
structure TemplateSession where
  devices : UInt64 → UInt64
  resolver : Resolver
  templates : Table UInt64 UInt64 := {}
  owners : ℕ → Option UInt64 := fun _ => none
  entries : ℕ → Option (List TemplateEntry) := fun _ => none

def TemplateSession.template (c : TemplateSession) (id : UInt64) : UInt64 := (c.templates.get id.toNat).getD 0

def statusUnsupportedCommand : UInt32 := 1

/-- What `vkGetDeviceProcAddr` finds for a device. -/
abbrev DeviceCommands (α : Type) := UInt64 → Option α

/-- `handle_CreateDescriptorUpdateTemplate`: the reply, and the session after it. -/
def handleCreateDescriptorUpdateTemplate
    (commands : DeviceCommands (VkDescriptorUpdateTemplateCreateInfo → UInt32 × UInt64)) (c : TemplateSession)
    (request : List UInt8) : List UInt8 × TemplateSession :=
  let (id, r) := Reader.handle ⟨request, false⟩
  let d := c.devices id
  match if d = 0 then none else (readDescriptorUpdateTemplateCreateInfo c.resolver ⟨r, [], []⟩).1 with
  | none => (replyStatus statusDecodeError, c)
  | some info =>
    match commands d with
    | none => (replyStatus statusUnsupportedCommand, c)
    | some fn =>
      let (result, object) := fn info
      let reply := fun id : UInt64 => Writer.u32 statusOk ++ Writer.i32 result ++ Writer.handle id
      if result = success then
        let (templates, id) := c.templates.add (some object) (some d)
        (reply (.ofNat id), { c with
          templates := templates
          owners := Function.update c.owners id (some d)
          entries := Function.update c.entries id (some info.pDescriptorUpdateEntries.items) })
      else (reply 0, c)

def descriptorTypeUniformTexelBuffer : UInt32 := 4

def descriptorTypeStorageTexelBuffer : UInt32 := 5

def descriptorTypeInputAttachment : UInt32 := 10

def texelBufferTypes : List UInt32 := [descriptorTypeUniformTexelBuffer, descriptorTypeStorageTexelBuffer]

/-- Samplers, combined image samplers, sampled and storage images, and input attachments. -/
def imageTypes : List UInt32 := [0, 1, 2, 3, descriptorTypeInputAttachment]

/-- Uniform and storage buffers, with and without a dynamic offset. -/
def bufferTypes : List UInt32 := [6, 7, 8, 9]

def sizeofBufferView : UInt64 := 8

def sizeofDescriptorImageInfo : UInt64 := 24

def sizeofDescriptorBufferInfo : UInt64 := 24

def TemplateEntry.elementSize (e : TemplateEntry) : UInt64 :=
  if e.descriptorType ∈ texelBufferTypes then sizeofBufferView
  else if e.descriptorType ≤ descriptorTypeInputAttachment ∧ e.descriptorType ∉ bufferTypes then
    sizeofDescriptorImageInfo
  else sizeofDescriptorBufferInfo

/-- `(e.descriptorCount - 1) * e.stride`, in words. -/
def TemplateEntry.lastOffset (e : TemplateEntry) : UInt64 := (e.descriptorCount - 1).toUInt64 * e.stride

def sizeMax : UInt64 := 0xFFFFFFFFFFFFFFFF

/-- The check of one entry that is not empty. -/
def TemplateEntry.Overflows (e : TemplateEntry) : Prop :=
  sizeMax - e.lastOffset < e.offset ∨ sizeMax - e.elementSize < e.offset + e.lastOffset

instance (e : TemplateEntry) : Decidable e.Overflows := inferInstanceAs (Decidable (_ ∨ _))

/-- Where the entry ends, as it is computed. -/
def TemplateEntry.stop (e : TemplateEntry) : UInt64 :=
  if e.descriptorCount = 0 then e.offset else e.offset + e.lastOffset + e.elementSize

/-- The loop over the entries that computes `size`. -/
def payloadSize : List TemplateEntry → UInt64 → Option UInt64
  | [], size => some size
  | e :: es, size =>
    if kMaxArrayElements < e.descriptorCount.toNat then none
    else if e.descriptorCount ≠ 0 ∧ e.Overflows then none
    else payloadSize es (if size < e.stop then e.stop else size)

inductive Descriptor
  | bufferView (view : UInt64)
  | imageInfo (sampler imageView : UInt64) (imageLayout : UInt32)
  | bufferInfo (buffer offset range : UInt64)

def readDescriptor (type : UInt32) : Decode Descriptor :=
  if type ∈ texelBufferTypes then do
    let view ← Decode.handle
    return .bufferView (← Decode.lookup .bufferView view)
  else if type ∈ imageTypes then do
    let id ← Decode.handle
    let sampler ← Decode.lookup .sampler id
    let id ← Decode.handle
    let imageView ← Decode.lookup .imageView id
    return .imageInfo sampler imageView (← Decode.i32)
  else do
    let id ← Decode.handle
    let buffer ← Decode.lookup .buffer id
    let offset ← Decode.u64
    let range ← Decode.u64
    return .bufferInfo buffer offset range

/-- A descriptor and where it is stored, from the start of the payload on. -/
abbrev Store := UInt64 × Descriptor

/-- The loop that fills the payload. -/
def readStores : List TemplateEntry → Decode (List Store)
  | [] => pure []
  | e :: es => do
    let count ← Decode.u32
    let type ← Decode.i32
    Decode.require (count = e.descriptorCount ∧ type = e.descriptorType)
    let ds ← Decode.times count.toNat (readDescriptor type)
    let rest ← readStores es
    return ds.toList.mapIdx (fun i d => (e.offset + .ofNat i * e.stride, d)) ++ rest

/-- The call of `vkUpdateDescriptorSetWithTemplate`, with the entries that the driver has for the template. -/
structure TemplateUpdate where
  device : UInt64
  set : UInt64
  template : UInt64
  entries : List TemplateEntry
  size : UInt64
  stores : List Store

/-- The cap on the payload. -/
def kMaxPayloadSize : UInt64 := 64 * 1024 * 1024

/-- `handle_UpdateDescriptorSetWithTemplate`; an error is marked where it gives up. -/
def handleUpdateDescriptorSetWithTemplate (commands : DeviceCommands Unit) (c : TemplateSession) :
    Decode TemplateUpdate := do
  let device := c.devices (← Decode.handle)
  let set ← Decode.lookup .descriptorSet (← Decode.handle)
  let id ← Decode.handle
  let n ← Decode.u32
  let entries := (c.entries id.toNat).getD []
  Decode.require (device ≠ 0 ∧ set ≠ 0 ∧ c.template id ≠ 0 ∧ (c.entries id.toNat).isSome ∧
    n.toNat = entries.length)
  let size ← fun _ s => (payloadSize entries 0, s)
  Decode.require (size ≤ kMaxPayloadSize)
  let stores ← readStores entries
  Decode.requireOk
  let left ← Decode.remaining
  Decode.require (left = 0 ∧ (commands device).isSome)
  return { device, set, template := c.template id, entries, size, stores }

/-! ### Where the descriptors lie -/

namespace TemplateEntry

/-- Every descriptor of the entry lies in a payload of `size` bytes, in exact arithmetic. -/
def Inside (e : TemplateEntry) (size : UInt64) : Prop :=
  ∀ i < e.descriptorCount.toNat, e.offset.toNat + i * e.stride.toNat + e.elementSize.toNat ≤ size.toNat

/-- The product of the number of descriptors behind the first and the stride is a word. -/
def Representable (e : TemplateEntry) : Prop :=
  (e.descriptorCount.toNat - 1) * e.stride.toNat < 2 ^ 64

instance (e : TemplateEntry) : Decidable e.Representable := inferInstanceAs (Decidable (_ < _))

variable {e : TemplateEntry}

theorem toNat_lastOffset (h : e.descriptorCount ≠ 0) :
    e.lastOffset.toNat = (e.descriptorCount.toNat - 1) * e.stride.toNat % 2 ^ 64 := by
  have hone : (1 : UInt32) ≤ e.descriptorCount := by
    rw [UInt32.le_iff_toNat_le, UInt32.toNat_one]
    exact Nat.one_le_iff_ne_zero.2 fun h0 => h (UInt32.toNat_inj.1 h0)
  rw [lastOffset, UInt64.toNat_mul, UInt32.toNat_toUInt64, UInt32.toNat_sub_of_le _ _ hone, UInt32.toNat_one]

/-- The two checks keep the additions from wrapping around. -/
theorem toNat_stop (h : e.descriptorCount ≠ 0) (hok : ¬ e.Overflows) :
    e.stop.toNat = e.offset.toNat + e.lastOffset.toNat + e.elementSize.toNat := by
  have hmax : sizeMax.toNat = 2 ^ 64 - 1 := rfl
  have hlast := e.lastOffset.toNat_lt
  have helem := e.elementSize.toNat_lt
  obtain ⟨hfirst, hsecond⟩ := not_or.1 hok
  rw [UInt64.lt_iff_toNat_lt, UInt64.toNat_sub_of_le _ _ (UInt64.le_iff_toNat_le.2 (by omega)), hmax] at hfirst
  rw [UInt64.lt_iff_toNat_lt, UInt64.toNat_sub_of_le _ _ (UInt64.le_iff_toNat_le.2 (by omega)), hmax,
    UInt64.toNat_add, Nat.mod_eq_of_lt (by omega)] at hsecond
  rw [stop, if_neg h, UInt64.toNat_add, UInt64.toNat_add, Nat.mod_eq_of_lt (a := e.offset.toNat + _) (by omega),
    Nat.mod_eq_of_lt (by omega)]

theorem inside_of_representable {size : UInt64} (hok : e.descriptorCount = 0 ∨ ¬ e.Overflows)
    (hstop : e.stop.toNat ≤ size.toNat) (hrep : e.Representable) : e.Inside size := by
  intro i hi
  have hne : e.descriptorCount ≠ 0 := by
    rintro h0
    rw [h0] at hi
    exact absurd hi (Nat.not_lt_zero i)
  rw [toNat_stop hne (hok.resolve_left hne), toNat_lastOffset hne, Nat.mod_eq_of_lt hrep] at hstop
  have hmul : i * e.stride.toNat ≤ (e.descriptorCount.toNat - 1) * e.stride.toNat :=
    Nat.mul_le_mul_right _ (by omega)
  omega

/-- A product that is no word puts the last descriptor outside every payload. -/
theorem representable_of_inside {size : UInt64} (h : e.Inside size) : e.Representable := by
  rcases Nat.eq_zero_or_pos e.descriptorCount.toNat with h0 | hpos
  · simp [Representable, h0]
  · have hlast := h (e.descriptorCount.toNat - 1) (by omega)
    have hsize := size.toNat_lt
    unfold Representable
    omega

end TemplateEntry

/-- What the size of a payload says about each entry. -/
theorem payloadSize_spec {es : List TemplateEntry} {size total : UInt64} (h : payloadSize es size = some total) :
    size.toNat ≤ total.toNat ∧
      ∀ e ∈ es, (e.descriptorCount = 0 ∨ ¬ e.Overflows) ∧ e.stop.toNat ≤ total.toNat := by
  induction es generalizing size with
  | nil =>
    obtain rfl := Option.some.inj h
    exact ⟨le_rfl, by simp⟩
  | cons e es ih =>
    unfold payloadSize at h
    split_ifs at h with hcount hover hlt
    all_goals
      obtain ⟨hle, hall⟩ := ih h
      have hok : e.descriptorCount = 0 ∨ ¬ e.Overflows := by tauto
      simp only [UInt64.lt_iff_toNat_lt] at hlt
      refine ⟨by omega, fun e' he' => ?_⟩
      rcases List.mem_cons.1 he' with rfl | he'
      · exact ⟨hok, by omega⟩
      · exact hall e' he'

theorem size_of_update {commands : DeviceCommands Unit} {c : TemplateSession} {hr : Resolver} {s s' : DecodeState}
    {u : TemplateUpdate} (h : handleUpdateDescriptorSetWithTemplate commands c hr s = (some u, s')) :
    payloadSize u.entries 0 = some u.size := by
  unfold handleUpdateDescriptorSetWithTemplate at h
  obtain ⟨device, s₁, -, h⟩ := Decode.of_bind h
  obtain ⟨setId, s₂, -, h⟩ := Decode.of_bind h
  obtain ⟨set, s₃, -, h⟩ := Decode.of_bind h
  obtain ⟨id, s₄, -, h⟩ := Decode.of_bind h
  obtain ⟨n, s₅, -, h⟩ := Decode.of_bind h
  obtain ⟨_, s₆, -, h⟩ := Decode.of_bind h
  obtain ⟨size, s₇, hsize, h⟩ := Decode.of_bind h
  obtain ⟨_, s₈, -, h⟩ := Decode.of_bind h
  obtain ⟨stores, s₉, -, h⟩ := Decode.of_bind h
  obtain ⟨_, s₁₀, -, h⟩ := Decode.of_bind h
  obtain ⟨left, s₁₁, -, h⟩ := Decode.of_bind h
  obtain ⟨_, s₁₂, -, h⟩ := Decode.of_bind h
  obtain rfl := Option.some.inj (Prod.mk.inj h).1
  exact (Prod.mk.inj hsize).1

/-- The descriptors of an accepted update lie in its payload exactly if no entry's stride, times the number
of its descriptors behind the first, leaves the words. -/
theorem update_inside_iff {commands : DeviceCommands Unit} {c : TemplateSession} {hr : Resolver} {s s' : DecodeState}
    {u : TemplateUpdate} (h : handleUpdateDescriptorSetWithTemplate commands c hr s = (some u, s')) :
    (∀ e ∈ u.entries, e.Inside u.size) ↔ ∀ e ∈ u.entries, e.Representable := by
  obtain ⟨-, hall⟩ := payloadSize_spec (size_of_update h)
  constructor
  · exact fun hin e he => TemplateEntry.representable_of_inside (hin e he)
  · intro hrep e he
    obtain ⟨hok, hstop⟩ := hall e he
    exact TemplateEntry.inside_of_representable hok hstop (hrep e he)

deriving instance DecidableEq for VkDescriptorUpdateTemplateEntry

def threeBuffers (stride : UInt64) : TemplateEntry where
  dstBinding := 0
  dstArrayElement := 0
  descriptorCount := 3
  descriptorType := 7
  offset := 0
  stride := stride

/-- Device 1, and a driver that makes object 9. -/
def emptyTemplates : TemplateSession where
  devices id := if id = 1 then 3 else 0
  resolver := fun _ id => id

def createThreeBuffers (stride : UInt64) : List UInt8 :=
  Writer.handle 1 ++ Writer.i32 descriptorUpdateTemplateCreateInfoType ++ Writer.u32 0 ++ Writer.u32 1 ++
    writeTemplateEntry (threeBuffers stride) ++ Writer.i32 0 ++ Writer.handle 5 ++ Writer.i32 0 ++
    Writer.handle 0 ++ Writer.u32 0

def threeBuffersSession (stride : UInt64) : TemplateSession :=
  (handleCreateDescriptorUpdateTemplate (fun _ => some fun _ => (success, 9)) emptyTemplates
    (createThreeBuffers stride)).2

/-- Set 2 is updated through the template, with buffers 4, 5 and 6. -/
def updateThreeBuffers : List UInt8 :=
  Writer.handle 1 ++ Writer.handle 2 ++ Writer.handle 1 ++ Writer.u32 1 ++ Writer.u32 3 ++ Writer.i32 7 ++
    [4, 5, 6].flatMap fun buffer => Writer.handle buffer ++ Writer.u64 0 ++ Writer.u64 16

def updatedThreeBuffers (stride : UInt64) : Option TemplateUpdate × DecodeState :=
  handleUpdateDescriptorSetWithTemplate (fun _ => some ()) (threeBuffersSession stride)
    (threeBuffersSession stride).resolver ⟨⟨updateThreeBuffers, false⟩, [], []⟩

theorem accepted_of_map {updated : Option TemplateUpdate × DecodeState} {entries : List TemplateEntry}
    {size : UInt64} (h : updated.1.map (fun u => (u.entries, u.size)) = some (entries, size)) :
    ∃ u s', updated = (some u, s') ∧ u.entries = entries ∧ u.size = size := by
  obtain ⟨o, s'⟩ := updated
  obtain ⟨u, hu, heq⟩ := Option.map_eq_some_iff.1 h
  obtain rfl : o = some u := hu
  exact ⟨u, s', rfl, (Prod.mk.inj heq).1, (Prod.mk.inj heq).2⟩

theorem packed_accepted : (updatedThreeBuffers 24).1.map (fun u => (u.entries, u.size)) =
    some ([threeBuffers 24], 72) := by decide +kernel

theorem wide_accepted : (updatedThreeBuffers (2 ^ 63)).1.map (fun u => (u.entries, u.size)) =
    some ([threeBuffers (2 ^ 63)], 24) := by decide +kernel

theorem update_inside_packed : ∃ u s', updatedThreeBuffers 24 = (some u, s') ∧ u.size = 72 ∧
    ∀ e ∈ u.entries, e.Inside u.size := by
  obtain ⟨u, s', hu, hentries, hsize⟩ := accepted_of_map packed_accepted
  refine ⟨u, s', hu, hsize, ?_⟩
  unfold updatedThreeBuffers at hu
  refine (update_inside_iff hu).2 ?_
  rw [hentries]
  decide

/-- With a stride of 2 ^ 63 the product is zero: a payload of 24 bytes is accepted for three descriptors. -/
theorem wide_stride_outside : ∃ u s', updatedThreeBuffers (2 ^ 63) = (some u, s') ∧ u.size = 24 ∧
    u.entries = [threeBuffers (2 ^ 63)] ∧ ¬ ∀ e ∈ u.entries, e.Inside u.size := by
  obtain ⟨u, s', hu, hentries, hsize⟩ := accepted_of_map wide_accepted
  refine ⟨u, s', hu, hsize, hentries, fun hall => ?_⟩
  have hin := hall _ (hentries ▸ List.mem_cons_self) 1 (by decide)
  rw [hsize] at hin
  exact absurd hin (by decide +kernel)

end VkRemote.Server
