import VulkanRemote.Commands.World

/-! What the handlers do to a session's tables, in terms of the world that the tables stand for. -/

namespace VkRemote.Commands

open Lib Wire Marshal Decode Server

/-! ### Tables against the world -/

section Put

variable (t : ObjectTables UInt64) (table : NativeTable) (kind : HandleKind)

def kindOn : Shelf → Option HandleKind
  | .owned table => some (kindOfOwned table)
  | .descriptorPools => some .descriptorPool
  | .descriptorSets => some .descriptorSet
  | .samplerYcbcrConversions => some .samplerYcbcrConversion
  | .semaphores => some .semaphore
  | .fences => some .fence
  | .commandBuffers => some .commandBuffer
  | .memories => some .memory
  | .surfaces => some .surface
  | .swapchains => some .swapchain
  | _ => none

theorem kindOn_placeOf (kind : HandleKind) : kindOn (placeOf kind) = some kind := by
  cases kind <;> rfl

theorem placeOf_ne {kind other : HandleKind} (h : other ≠ kind) : placeOf other ≠ placeOf kind := fun heq =>
  h (Option.some.inj (by rw [← kindOn_placeOf other, heq, kindOn_placeOf]))

/-- What is known of each table changes for one of them. -/
theorem each_put {β : Type} (f : NativeTable → β) :
    (fun other => f ((t.put table (placeOf kind)).shelf (placeOf other))) =
      Function.update (fun other => f (t.shelf (placeOf other))) kind (f table) := by
  funext other
  rw [ObjectTables.shelf_put]
  by_cases h : other = kind
  · subst h
    rw [Function.update_self, Function.update_self]
  · rw [Function.update_of_ne h, Function.update_of_ne (placeOf_ne h)]

@[simp] theorem put_devices : (t.put table (placeOf kind)).devices = t.devices := by cases kind <;> rfl

@[simp] theorem put_queues : (t.put table (placeOf kind)).queues = t.queues := by cases kind <;> rfl

@[simp] theorem put_commandBufferDevices :
    (t.put table (placeOf kind)).commandBufferDevices = t.commandBufferDevices := by cases kind <;> rfl

@[simp] theorem put_descriptorSetOwners :
    (t.put table (placeOf kind)).descriptorSetOwners = t.descriptorSetOwners := by cases kind <;> rfl

@[simp] theorem put_conversionOwners :
    (t.put table (placeOf kind)).samplerYcbcrConversionOwners = t.samplerYcbcrConversionOwners := by
  cases kind <;> rfl

end Put

section

variable {σ : Type} {D : Driver σ} {s : Machine σ}

theorem world_put (s : Machine σ) (kind : HandleKind) (table : NativeTable) :
    ({ s with tables := s.tables.put table (placeOf kind) } : Machine σ).world =
      { s.world with
        objects := Function.update s.world.objects kind table.entry
        issued := Function.update s.world.issued kind table.slots.length } := by
  ext1
  case objects => exact each_put s.tables table kind Table.entry
  case issued => exact each_put s.tables table kind fun table => table.slots.length
  all_goals simp [Machine.world]

/-- An object is taken out of its table. -/
theorem world_take (s : Machine σ) (kind : HandleKind) (id : ℕ) :
    ({ s with tables := s.tables.put ((s.tables.shelf (placeOf kind)).take id).2 (placeOf kind) } :
      Machine σ).world = s.world.put kind id none := by
  rw [world_put, Table.entry_take, Table.length_take]
  have hissued : Function.update s.world.issued kind (s.tables.shelf (placeOf kind)).slots.length =
      s.world.issued := Function.update_eq_self kind _
  rw [hissued]
  rfl

theorem world_noteMade (s : Machine σ) (device native : UInt64) (id : ℕ) (m : Making) :
    ({ s with tables := noteMade device native id s.tables m } : Machine σ).world =
      s.world.note device native id m := by
  cases m with
  | one o info => cases o <;> rfl
  | _ => rfl

theorem world_keepOne (s : Machine σ) (device : UInt64) (m : Making) (native : UInt64) :
    ({ s with tables := (keepOne device m s.tables native).1 } : Machine σ).world =
        (s.world.grant device m native).1 ∧
      (keepOne device m s.tables native).2 = (s.world.grant device m native).2 := by
  refine ⟨?_, rfl⟩
  have hadded := world_put s m.kind
    ((s.tables.shelf (placeOf m.kind)).add (notNull native) (some device)).1
  have hnoted := world_noteMade
    { s with
      tables := s.tables.put ((s.tables.shelf (placeOf m.kind)).add (notNull native) (some device)).1
        (placeOf m.kind) }
    device native ((s.tables.shelf (placeOf m.kind)).add (notNull native) (some device)).2 m
  refine hnoted.trans ?_
  rw [hadded, Table.entry_add]
  have hlength : ((s.tables.shelf (placeOf m.kind)).add (notNull native) (some device)).1.slots.length =
      (s.tables.shelf (placeOf m.kind)).slots.length + 1 := List.length_append
  rw [hlength]
  rfl

/-- Every object of an array is granted as it is kept. -/
theorem world_keepAll (s : Machine σ) (device : UInt64) (m : Making) (result : UInt32) (natives : List UInt64) :
    ({ s with tables := (keepAll device m result natives s.tables).1 } : Machine σ).world =
        (World.grantAll device m result natives s.world).1 ∧
      (keepAll device m result natives s.tables).2 = (World.grantAll device m result natives s.world).2 := by
  induction natives generalizing s with
  | nil => exact ⟨rfl, rfl⟩
  | cons native natives ih =>
    unfold keepAll World.grantAll
    split
    · obtain ⟨hworld, hid⟩ := world_keepOne s device m native
      obtain ⟨hrest, hids⟩ := ih { s with tables := (keepOne device m s.tables native).1 }
      rw [hworld] at hrest hids
      exact ⟨hrest, congrArg₂ List.cons hid hids⟩
    · obtain ⟨hrest, hids⟩ := ih s
      exact ⟨hrest, congrArg (List.cons 0) hids⟩

theorem noted_keepOne {device : UInt64} {m : Making} {native : UInt64} (h : s.Noted) :
    ({ s with tables := (keepOne device m s.tables native).1 } : Machine σ).Noted := by
  by_cases hkind : m.kind = .samplerYcbcrConversion
  · have hone : ∃ info, m = .one .samplerYcbcrConversion info := by
      cases m with
      | one o info => cases o <;> first | exact ⟨info, rfl⟩ | cases hkind
      | _ => cases hkind
    obtain ⟨info, rfl⟩ := hone
    intro id native' device' hentry
    have hupdate := congrFun (Table.entry_add s.tables.samplerYcbcrConversions (notNull native) (some device)) id
    replace hentry := hupdate.symm.trans hentry
    by_cases hid : id = s.tables.samplerYcbcrConversions.slots.length + 1
    · subst hid
      rw [Function.update_self] at hentry
      obtain ⟨value, -, heq⟩ := Option.map_eq_some_iff.1 hentry
      obtain ⟨-, howner⟩ := Prod.mk.inj heq
      exact (Function.update_self ..).trans howner
    · rw [Function.update_of_ne hid] at hentry
      exact (Function.update_of_ne hid ..).trans (h id native' device' hentry)
  · have htable : (keepOne device m s.tables native).1.samplerYcbcrConversions =
        s.tables.samplerYcbcrConversions := by
      have hshelf := congrFun (ObjectTables.shelf_put s.tables
        ((s.tables.shelf (placeOf m.kind)).add (notNull native) (some device)).1 (placeOf m.kind))
        (placeOf .samplerYcbcrConversion)
      rw [Function.update_of_ne (placeOf_ne (Ne.symm hkind))] at hshelf
      refine Eq.trans ?_ hshelf
      cases m with
      | one o info => cases o <;> rfl
      | _ => rfl
    have howners : (keepOne device m s.tables native).1.samplerYcbcrConversionOwners =
        s.tables.samplerYcbcrConversionOwners := by
      cases m with
      | one o info => cases o <;> first | rfl | exact absurd rfl hkind
      | _ => rfl
    intro id native' device' hentry
    have hbefore := h id native' device' ((congrArg (fun table => table.entry id) htable).symm.trans hentry)
    exact (congrFun howners id).trans hbefore

theorem noted_keepAll {device : UInt64} {m : Making} {result : UInt32} {natives : List UInt64} (h : s.Noted) :
    ({ s with tables := (keepAll device m result natives s.tables).1 } : Machine σ).Noted := by
  induction natives generalizing s with
  | nil => exact h
  | cons native natives ih =>
    unfold keepAll
    split
    · exact ih (s := { s with tables := (keepOne device m s.tables native).1 }) (noted_keepOne h)
    · exact ih h

/-! ### Objects that go -/

theorem Destroyed.placeOf_kind (d : Destroyed) : placeOf d.kind = d.shelf := by
  cases d with
  | owned table => cases table <;> rfl
  | _ => rfl

theorem world_dropSet (s : Machine σ) (id : UInt64) :
    ({ s with tables := s.tables.dropSet id.toNat } : Machine σ).world = s.world.forgetSet id := by
  have htaken := world_take s .descriptorSet id.toNat
  unfold World.forgetSet
  rw [← htaken]
  rfl

theorem world_dropSets (s : Machine σ) (ids : List UInt64) :
    ({ s with tables := ids.foldl (fun t id => t.dropSet id.toNat) s.tables } : Machine σ).world = ids.foldl World.forgetSet s.world := by
  induction ids generalizing s with
  | nil => rfl
  | cons id ids ih =>
    have hrest := ih { s with tables := s.tables.dropSet id.toNat }
    rw [world_dropSet] at hrest
    exact hrest

theorem world_dropSetsOf (s : Machine σ) (pool : UInt64) :
    ({ s with tables := s.tables.dropSetsOf pool } : Machine σ).world = s.world.forgetSetsOf pool := by
  let table : NativeTable := ⟨s.tables.descriptorSets.slots.mapIdx fun i slot =>
    if (s.tables.descriptorSetOwners (i + 1)).any (·.pool = pool) then (none, none) else slot⟩
  have hentry : table.entry = fun id =>
      if (s.tables.descriptorSetOwners id).any (·.pool = pool) then none
      else s.tables.descriptorSets.entry id := by
    funext id
    unfold Table.entry
    by_cases h0 : id = 0
    · simp [h0]
    · have hid : id - 1 + 1 = id := by omega
      simp only [if_neg h0, table, List.getElem?_mapIdx, hid]
      cases s.tables.descriptorSets.slots[id - 1]? with
      | none => simp
      | some slot => split <;> simp_all
  have hlength : table.slots.length = s.tables.descriptorSets.slots.length := List.length_mapIdx
  have hset := world_put s .descriptorSet table
  rw [hentry, hlength] at hset
  have hissued : Function.update s.world.issued .descriptorSet s.tables.descriptorSets.slots.length =
      s.world.issued := Function.update_eq_self HandleKind.descriptorSet _
  rw [hissued] at hset
  have hobjects := congrArg World.objects hset
  have hcounts := congrArg World.issued hset
  ext1
  case objects => exact hobjects
  case issued => exact hcounts
  all_goals rfl

theorem world_takeCommandBuffer (s : Machine σ) (id : UInt64) :
    ({ s with tables := s.tables.takeCommandBuffer id.toNat } : Machine σ).world =
      s.world.forgetCommandBuffer id := by
  have htaken := world_take s .commandBuffer id.toNat
  have hnative : (s.tables.commandBuffers.take id.toNat).1 =
      (s.world.objects .commandBuffer id.toNat).map Prod.fst :=
    (Table.take_fst ..).trans (Table.get_eq_entry ..)
  unfold World.forgetCommandBuffer
  rw [← htaken, ← hnative]
  rfl

theorem readIds_write (device object : UInt64) (tail : List UInt8) :
    ObjectTables.readIds (Writer.handle device ++ (Writer.handle object ++ tail)) =
      (device.toNat, object.toNat, ⟨tail, false⟩) := by
  unfold ObjectTables.readIds
  simp only [Reader.handle, Writer.handle, Reader.u64_writer]

theorem get_device {id : UInt64} (h : s.world.deviceOf id ≠ 0) :
    s.tables.devices.get id.toNat = some (s.world.deviceOf id) := by
  cases hget : s.tables.devices.get id.toNat with
  | none =>
    have hworld : s.world.device id.toNat = none := hget
    exact absurd (by rw [World.deviceOf, hworld]; rfl) h
  | some native =>
    have hworld : s.world.device id.toNat = some native := hget
    rw [World.deviceOf, hworld]
    rfl

theorem get_object {kind : HandleKind} {id native : UInt64} {owner : Option UInt64}
    (h : s.world.objects kind id.toNat = some (native, owner)) :
    (s.tables.shelf (placeOf kind)).get id.toNat = some native ∧
      (s.tables.shelf (placeOf kind)).owner id.toNat = owner :=
  ⟨(Table.get_eq_entry ..).trans (congrArg (Option.map Prod.fst) h), Table.owner_of_entry _ h⟩

/-- A conversion takes its note along. -/
theorem noted_takeConversion (hnoted : s.Noted) (id : ℕ) :
    ({ s with
      tables := { s.tables with
        samplerYcbcrConversions := (s.tables.samplerYcbcrConversions.take id).2
        samplerYcbcrConversionOwners := Function.update s.tables.samplerYcbcrConversionOwners id none } } :
      Machine σ).Noted := by
  intro other native device hentry
  have htaken := congrFun (Table.entry_take s.tables.samplerYcbcrConversions id) other
  replace hentry := htaken.symm.trans hentry
  by_cases h : other = id
  · subst h
    rw [Function.update_self] at hentry
    cases hentry
  · rw [Function.update_of_ne h] at hentry
    exact (Function.update_of_ne h ..).trans (hnoted other native device hentry)

/-- A descriptor pool goes with its sets. -/
theorem world_takePool (s : Machine σ) {id native : UInt64} {owner : Option UInt64}
    (h : s.world.objects .descriptorPool id.toNat = some (native, owner)) :
    ({ s with
      tables := (s.tables.put (s.tables.descriptorPools.take id.toNat).2 .descriptorPools).dropSetsOf
        native } : Machine σ).world = s.world.forget .descriptorPool id := by
  have htaken := world_take s .descriptorPool id.toNat
  have hdropped := world_dropSetsOf
    { s with tables := s.tables.put (s.tables.descriptorPools.take id.toNat).2 .descriptorPools } native
  have hname : s.world.names .descriptorPool id = native := by
    rw [World.names, h]
    rfl
  refine hdropped.trans ?_
  rw [World.forget, hname, ← htaken]
  rfl

/-- The handler of a call to destroy a live object is content. -/
theorem handle_destroy {device object : UInt64} {d : Destroyed}
    (hadmits : s.world.Admits D (.destroy device d object)) (hnoted : s.Noted) :
    ∃ tables,
      d.handler.handle D.lookedUp s.tables (Writer.handle device ++ Writer.handle object) = (tables, false) ∧
      ({ s with tables := tables } : Machine σ).world = s.world.forget d object ∧
      ({ s with tables := tables } : Machine σ).Noted := by
  obtain ⟨hdevice, ⟨native, hobject⟩, hfound⟩ := hadmits
  have hids := readIds_write device object []
  rw [List.append_nil] at hids
  have hget := get_device hdevice
  obtain ⟨hnative, howner⟩ := get_object hobject
  have htaken := world_take s (d.kind) object.toNat
  rw [Destroyed.placeOf_kind] at hnative howner htaken
  cases d with
  | owned table =>
    have hnative : (s.tables.owned table).get object.toNat = some native := hnative
    have howner : (s.tables.owned table).owner object.toNat = some (s.world.deviceOf device) := howner
    refine ⟨s.tables.put ((s.tables.owned table).take object.toNat).2 (.owned table), ?_, htaken, hnoted⟩
    simp [Destroyed.handler, DestroyRequest.handle, ObjectTables.handleDestroyOwned, hids, hget, Table.ownedBy,
      hnative, howner, Reader.ok, ObjectTables.put]
  | fence =>
    refine ⟨s.tables.put (s.tables.fences.take object.toNat).2 .fences, ?_, htaken, hnoted⟩
    simp [Destroyed.handler, DestroyRequest.handle, ObjectTables.handleDestroyFence, hids, hget, Reader.ok,
      ObjectTables.put]
  | semaphore =>
    refine ⟨s.tables.put (s.tables.semaphores.take object.toNat).2 .semaphores, ?_, htaken, hnoted⟩
    simp [Destroyed.handler, DestroyRequest.handle, ObjectTables.handleDestroySemaphore, hids, hget, Reader.ok,
      ObjectTables.put]
  | descriptorPool =>
    have hnative : s.tables.descriptorPools.get object.toNat = some native := hnative
    refine ⟨_, ?_, world_takePool s hobject, hnoted⟩
    simp [Destroyed.handler, DestroyRequest.handle, ObjectTables.handleDestroyDescriptorPool, hids, hget, hnative,
      Reader.ok, Reader.remaining, ObjectTables.dropSetsOf, ObjectTables.put]
    rfl
  | samplerYcbcrConversion =>
    have hnative : s.tables.samplerYcbcrConversions.get object.toNat = some native := hnative
    have hnote := hnoted object.toNat native (s.world.deviceOf device) hobject
    refine ⟨_, ?_, ?_, noted_takeConversion hnoted object.toNat⟩
    case refine_2 => exact htaken
    simp [Destroyed.handler, DestroyRequest.handle, ObjectTables.handleDestroySamplerYcbcrConversion,
      ObjectTables.destroyLookedUp, hids, hget, hnote, hfound rfl, Table.take_fst, hnative, Reader.ok]

/-! ### Command buffers that are freed -/

theorem readHandles_write (ids : List UInt64) (tail : List UInt8) :
    readHandles ids.length ⟨ids.flatMap Writer.handle ++ tail, false⟩ = ids.map UInt64.toNat := by
  induction ids with
  | nil => rfl
  | cons id ids ih =>
    have hfirst : Reader.handle ⟨Writer.handle id ++ (ids.flatMap Writer.handle ++ tail), false⟩ =
        (id, ⟨ids.flatMap Writer.handle ++ tail, false⟩) := Reader.u64_writer ..
    rw [List.length_cons, List.flatMap_cons, List.append_assoc, readHandles, hfirst, ih, List.map_cons]

theorem takeCommandBuffers_write (ids : List UInt64) (t : ObjectTables UInt64) (tail : List UInt8) :
    ObjectTables.takeCommandBuffers ids.length (t, ⟨ids.flatMap Writer.handle ++ tail, false⟩) =
      (ids.foldl (fun t id => t.takeCommandBuffer id.toNat) t, ⟨tail, false⟩) := by
  induction ids generalizing t with
  | nil => rfl
  | cons id ids ih =>
    have hfirst : Reader.handle ⟨Writer.handle id ++ (ids.flatMap Writer.handle ++ tail), false⟩ =
        (id, ⟨ids.flatMap Writer.handle ++ tail, false⟩) := Reader.u64_writer ..
    rw [List.length_cons, List.flatMap_cons, List.append_assoc, ObjectTables.takeCommandBuffers, hfirst, ih]
    rfl

/-- Different command buffers are taken independently of each other. -/
theorem takenCommandBuffers_of_nodup {ids : List ℕ} (hnodup : ids.Nodup) (t : ObjectTables UInt64) :
    takenCommandBuffers ids t = ids.map fun id => (t.commandBuffers.get id).getD 0 := by
  induction ids generalizing t with
  | nil => rfl
  | cons id ids ih =>
    obtain ⟨hnew, hnodup⟩ := List.nodup_cons.1 hnodup
    rw [takenCommandBuffers, ih hnodup, List.map_cons]
    refine congrArg _ (List.map_congr_left fun other hother => ?_)
    have hne : other ≠ id := fun heq => hnew (heq ▸ hother)
    have hentry : (t.commandBuffers.take id).2.entry other = t.commandBuffers.entry other := by
      rw [Table.entry_take, Function.update_of_ne hne]
    exact congrArg (fun native => Option.getD native 0)
      ((Table.get_eq_entry ..).trans ((congrArg (Option.map Prod.fst) hentry).trans (Table.get_eq_entry ..).symm))

theorem world_takeCommandBuffers (s : Machine σ) (ids : List UInt64) :
    ({ s with tables := ids.foldl (fun t id => t.takeCommandBuffer id.toNat) s.tables } : Machine σ).world =
      ids.foldl World.forgetCommandBuffer s.world := by
  induction ids generalizing s with
  | nil => rfl
  | cons id ids ih =>
    have hrest := ih { s with tables := s.tables.takeCommandBuffer id.toNat }
    rw [world_takeCommandBuffer] at hrest
    exact hrest

/-- What leaves the conversions alone leaves their notes. -/
theorem noted_fold {f : ObjectTables UInt64 → UInt64 → ObjectTables UInt64}
    (hf : ∀ t id, (f t id).samplerYcbcrConversions = t.samplerYcbcrConversions ∧
      (f t id).samplerYcbcrConversionOwners = t.samplerYcbcrConversionOwners) (ids : List UInt64) (h : s.Noted) :
    ({ s with tables := ids.foldl f s.tables } : Machine σ).Noted := by
  induction ids generalizing s with
  | nil => exact h
  | cons id ids ih =>
    refine ih (s := { s with tables := f s.tables id }) fun other native device hentry => ?_
    obtain ⟨htable, howners⟩ := hf s.tables id
    have hbefore := h other native device ((congrArg (fun table => table.entry other) htable).symm.trans hentry)
    exact (congrFun howners other).trans hbefore

theorem handle_free {device pool : UInt64} {ids : List UInt64} (hdevice : s.world.deviceOf device ≠ 0)
    (hlength : ids.length < 2 ^ 32) :
    s.tables.handleFreeCommandBuffers (Writer.handle device ++ (Writer.handle pool ++
        (Writer.u32 (UInt32.ofNat ids.length) ++ ids.flatMap Writer.handle))) =
      (ids.foldl (fun t id => t.takeCommandBuffer id.toNat) s.tables, false) := by
  have hcount : (UInt32.ofNat ids.length).toNat = ids.length := UInt32.toNat_ofNat_of_lt' hlength
  have hbytes : (ids.flatMap Writer.handle).length = 8 * ids.length := by
    simp [List.length_flatMap, Writer.handle, Writer.length_u64, Nat.mul_comm]
  have htaken := takeCommandBuffers_write ids s.tables []
  rw [List.append_nil] at htaken
  simp [ObjectTables.handleFreeCommandBuffers, readIds_write, Reader.remaining, hbytes, hcount, htaken,
    get_device hdevice, Reader.ok]

theorem freed_write {device pool : UInt64} {ids : List UInt64} (hlength : ids.length < 2 ^ 32) :
    freedCommandBuffers (Writer.handle device ++ (Writer.handle pool ++
      (Writer.u32 (UInt32.ofNat ids.length) ++ ids.flatMap Writer.handle))) = ids.map UInt64.toNat := by
  have hcount : (UInt32.ofNat ids.length).toNat = ids.length := UInt32.toNat_ofNat_of_lt' hlength
  have hbytes : (ids.flatMap Writer.handle).length = 8 * ids.length := by
    simp [List.length_flatMap, Writer.handle, Writer.length_u64, Nat.mul_comm]
  have hread := readHandles_write ids []
  rw [List.append_nil] at hread
  simp [freedCommandBuffers, readIds_write, Reader.remaining, hbytes, hcount, hread]

end

end VkRemote.Commands
