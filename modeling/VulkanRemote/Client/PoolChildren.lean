import Mathlib.Data.List.ReduceOption
import VulkanRemote.Client.Replies
import VulkanRemote.Client.TemplateUpdates

/-! What the client keeps of the children of pools: a wrapper for each command buffer, and the layout, pool and
resources of each descriptor set. Beside it stands what is alive by the calls that were made. -/

namespace VkRemote.Client

open Lib Wire Marshal VkResult

/-- The address of a wrapper. -/
abbrev Wrapper := ℕ

structure RemoteCommandBuffer where
  remoteId : UInt64
  commandPoolId : UInt64
  recorded : CommandBuffer := {}

/-- What is recorded is dropped if the buffer is of the pool. -/
def RemoteCommandBuffer.clearOf (cb : RemoteCommandBuffer) (pool : UInt64) : RemoteCommandBuffer :=
  if cb.commandPoolId = pool then { cb with recorded := {} } else cb

structure PoolDevice where
  remoteId : UInt64
  commandBuffers : List Wrapper := []
  heap : Wrapper → Option RemoteCommandBuffer := fun _ => none
  tables : DescriptorTables
  descriptorSetPools : SetId → Option UInt64 := fun _ => none

/-- The sets that are gone are erased. -/
def DescriptorTables.erase (d : DescriptorTables) (gone : SetId → Bool) : DescriptorTables where
  layouts s := if gone s then none else d.layouts s
  resources k := if gone k.1 then none else d.resources k
  live k r h := by
    cases hgone : gone k.1 with
    | true => simp [hgone] at h
    | false =>
      simp only [hgone, Bool.false_eq_true, if_false] at h
      exact d.live k r h

/-- What `ResetCommandPool` returns. -/
def resetCommandPoolResult (payload : List UInt8) : UInt32 :=
  match roundTrip payload with
  | none => errorDeviceLost
  | some r => if r.i32.2.ok then r.i32.1 else errorDeviceLost

/-- What a call returns whose reply is a result and nothing else. -/
def onlyResult (payload : List UInt8) : UInt32 :=
  match roundTrip payload with
  | none => errorDeviceLost
  | some r => if r.i32.2.ok && r.i32.2.remaining = 0 then r.i32.1 else errorDeviceLost

namespace PoolDevice

/-- One turn of the loop of `AllocateCommandBuffers`, with the address that `new` returns. -/
def newCommandBuffer (pool : UInt64) (new : ℕ → Wrapper) (d : PoolDevice) (store : UInt64 × ℕ) : PoolDevice :=
  { d with
    commandBuffers := d.commandBuffers ++ [new store.2]
    heap := Function.update d.heap (new store.2) (some { remoteId := store.1, commandPoolId := pool }) }

def allocateCommandBuffers (d : PoolDevice) (pool : UInt64) (count : UInt32) (new : ℕ → Wrapper)
    (payload : List UInt8) : PoolDevice :=
  (Client.allocateCommandBuffers count payload).stores.foldl (newCommandBuffer pool new) d

/-- `delete`, which has no meaning for what is not there. -/
def delete (heap : Wrapper → Option RemoteCommandBuffer) (p : Wrapper) :
    Option (Wrapper → Option RemoteCommandBuffer) :=
  if (heap p).isSome then some (Function.update heap p none) else none

/-- The id of an element goes into the request: a null element is read through. -/
def remoteIdOf (d : PoolDevice) (p : Option Wrapper) : Option UInt64 := do
  let cb ← d.heap (← p)
  return cb.remoteId

def freeCommandBuffers (d : PoolDevice) (array : List (Option Wrapper)) : Option PoolDevice := do
  let _ ← array.mapM d.remoteIdOf
  let retired ← array.mapM id
  let heap ← retired.foldlM delete d.heap
  return { d with commandBuffers := d.commandBuffers.filter (· ∉ retired), heap }

/-- Every wrapper of the list is looked at. -/
def resetCommandPool (d : PoolDevice) (pool : UInt64) (payload : List UInt8) : Option PoolDevice :=
  if resetCommandPoolResult payload = success then
    if ∀ p ∈ d.commandBuffers, (d.heap p).isSome then
      some { d with
        heap := fun p => if p ∈ d.commandBuffers then (d.heap p).map (·.clearOf pool) else d.heap p }
    else none
  else some d

/-- Nothing but the request. -/
def destroyCommandPool (d : PoolDevice) (_ : UInt64) : PoolDevice := d

/-- The sets that are handed out, each with the handle of its layout. -/
def allocatedSets (layouts : List UInt64) (payload : List UInt8) : List (SetId × UInt64) :=
  let ids := (Client.allocateDescriptorSets (.ofNat layouts.length) payload).stores.map Prod.fst
  ((ids.zip layouts).filter (·.1 ≠ 0)).map fun e => (e.1.toNat, e.2)

/-- The arguments are checked before the request is sent. -/
def allocateDescriptorSetsResult (pool : UInt64) (layouts : List UInt64) (payload : List UInt8) : UInt32 :=
  if pool = 0 ∨ kMaxArrayElements < layouts.length ∨ 0 ∈ layouts then errorInitializationFailed
  else (Client.allocateDescriptorSets (.ofNat layouts.length) payload).result

/-- `descriptor_layouts` is what is known of layouts. -/
def newDescriptorSet (descriptorLayouts : UInt64 → Option SetLayout) (pool : UInt64) (d : PoolDevice)
    (set : SetId × UInt64) : PoolDevice :=
  { d with
    tables := match descriptorLayouts set.2 with
      | none => d.tables
      | some layout => { d.tables with layouts := Function.update d.tables.layouts set.1 (some layout) }
    descriptorSetPools := Function.update d.descriptorSetPools set.1 (some pool) }

def allocateDescriptorSets (d : PoolDevice) (descriptorLayouts : UInt64 → Option SetLayout) (pool : UInt64)
    (layouts : List UInt64) (payload : List UInt8) : PoolDevice :=
  if allocateDescriptorSetsResult pool layouts payload = success then
    (allocatedSets layouts payload).foldl (newDescriptorSet descriptorLayouts pool) d
  else d

def eraseSets (d : PoolDevice) (gone : SetId → Bool) : PoolDevice :=
  { d with
    tables := d.tables.erase gone
    descriptorSetPools := fun s => if gone s then none else d.descriptorSetPools s }

def freeDescriptorSetsResult (pool : UInt64) (sets : List UInt64) (payload : List UInt8) : UInt32 :=
  if pool = 0 ∨ kMaxArrayElements < sets.length ∨ 0 ∈ sets then errorInitializationFailed
  else onlyResult payload

def freeDescriptorSets (d : PoolDevice) (pool : UInt64) (sets : List UInt64) (payload : List UInt8) :
    PoolDevice :=
  if freeDescriptorSetsResult pool sets payload = success then
    d.eraseSets fun s => s ∈ sets.map UInt64.toNat
  else d

def resetDescriptorPoolResult (pool : UInt64) (payload : List UInt8) : UInt32 :=
  if pool = 0 then errorInitializationFailed else onlyResult payload

def resetDescriptorPool (d : PoolDevice) (pool : UInt64) (payload : List UInt8) : PoolDevice :=
  if resetDescriptorPoolResult pool payload = success then
    d.eraseSets fun s => d.descriptorSetPools s = some pool
  else d

def destroyDescriptorPool (d : PoolDevice) (pool : UInt64) : PoolDevice :=
  if pool = 0 then d else d.eraseSets fun s => d.descriptorSetPools s = some pool

end PoolDevice

/-! ### Calls, and what is alive by them -/

/-- The calls on pools and their children, with the replies; recording into a command buffer; and updates of
descriptor sets. Layouts and templates may come and go in between. -/
inductive PoolCall
  | allocateCommandBuffers (pool : UInt64) (count : UInt32) (new : ℕ → Wrapper) (payload : List UInt8)
  | freeCommandBuffers (array : List (Option Wrapper))
  | resetCommandPool (pool : UInt64) (payload : List UInt8)
  | destroyCommandPool (pool : UInt64)
  | record (cb : Wrapper) (recorded : CommandBuffer)
  | allocateDescriptorSets (descriptorLayouts : UInt64 → Option SetLayout) (pool : UInt64)
      (layouts : List UInt64) (payload : List UInt8)
  | freeDescriptorSets (pool : UInt64) (sets : List UInt64) (payload : List UInt8)
  | resetDescriptorPool (pool : UInt64) (payload : List UInt8)
  | destroyDescriptorPool (pool : UInt64)
  | updateDescriptorSets (u : DescriptorUpdates)
  | updateDescriptorSetWithTemplate (templates : UInt64 → Option DescriptorTemplateMetadata)
      (set template : UInt64) (data : Option TemplateData)

/-- One call; `none` where memory is used that is not there. -/
def PoolDevice.step (d : PoolDevice) : PoolCall → Option PoolDevice
  | .allocateCommandBuffers pool count new payload => some (d.allocateCommandBuffers pool count new payload)
  | .freeCommandBuffers array => d.freeCommandBuffers array
  | .resetCommandPool pool payload => d.resetCommandPool pool payload
  | .destroyCommandPool pool => some (d.destroyCommandPool pool)
  | .record cb recorded => (d.heap cb).map fun b =>
    { d with heap := Function.update d.heap cb (some { b with recorded := recorded }) }
  | .allocateDescriptorSets descriptorLayouts pool layouts payload =>
    some (d.allocateDescriptorSets descriptorLayouts pool layouts payload)
  | .freeDescriptorSets pool sets payload => some (d.freeDescriptorSets pool sets payload)
  | .resetDescriptorPool pool payload => some (d.resetDescriptorPool pool payload)
  | .destroyDescriptorPool pool => some (d.destroyDescriptorPool pool)
  | .updateDescriptorSets u => some { d with tables := (Client.updateDescriptorSets d.tables d.remoteId u).1 }
  | .updateDescriptorSetWithTemplate templates set template data =>
    some { d with
      tables := (Client.updateDescriptorSetWithTemplate d.tables templates d.remoteId set template data).1 }

/-- The live command buffers, each with its pool and what is recorded in it, and the live sets with their pools. -/
structure Alive where
  buffers : Wrapper → Option (UInt64 × CommandBuffer) := fun _ => none
  sets : SetId → Option UInt64 := fun _ => none

namespace Alive

/-- What a call that succeeds means: children are born with an allocation and end when they are freed or their
pool is destroyed, descriptor sets also when it is reset; a command pool that is reset drops what is recorded. -/
def after (l : Alive) : PoolCall → Alive
  | .allocateCommandBuffers pool count new payload =>
    let born := (Client.allocateCommandBuffers count payload).stores.map fun store => new store.2
    { l with buffers := fun p => if p ∈ born then some (pool, {}) else l.buffers p }
  | .freeCommandBuffers array => { l with buffers := fun p => if some p ∈ array then none else l.buffers p }
  | .resetCommandPool pool payload =>
    if resetCommandPoolResult payload = success then
      { l with buffers := fun p => (l.buffers p).map fun b => if b.1 = pool then (b.1, {}) else b }
    else l
  | .destroyCommandPool pool =>
    if pool = 0 then l else { l with buffers := fun p => (l.buffers p).filter fun b => b.1 ≠ pool }
  | .record cb recorded =>
    { l with buffers := fun p => if p = cb then (l.buffers p).map fun b => (b.1, recorded) else l.buffers p }
  | .allocateDescriptorSets _ pool layouts payload =>
    if PoolDevice.allocateDescriptorSetsResult pool layouts payload = success then
      { l with sets := fun s =>
          if s ∈ (PoolDevice.allocatedSets layouts payload).map Prod.fst then some pool else l.sets s }
    else l
  | .freeDescriptorSets pool sets payload =>
    if PoolDevice.freeDescriptorSetsResult pool sets payload = success then
      { l with sets := fun s => if s ∈ sets.map UInt64.toNat then none else l.sets s }
    else l
  | .resetDescriptorPool pool payload =>
    if PoolDevice.resetDescriptorPoolResult pool payload = success then
      { l with sets := fun s => (l.sets s).filter (· ≠ pool) }
    else l
  | .destroyDescriptorPool pool => if pool = 0 then l else { l with sets := fun s => (l.sets s).filter (· ≠ pool) }
  | _ => l

/-- Nothing ends with a command pool that has no live command buffer. -/
theorem after_destroyCommandPool {l : Alive} {pool : UInt64}
    (hchildren : pool = 0 ∨ ∀ p b, l.buffers p = some b → b.1 ≠ pool) :
    l.after (.destroyCommandPool pool) = l := by
  rw [after]
  split_ifs with h0
  · rfl
  · have hnone := hchildren.resolve_left h0
    have hfilter : (fun p => (l.buffers p).filter fun b => b.1 ≠ pool) = l.buffers := by
      funext p
      cases hp : l.buffers p with
      | none => rfl
      | some b => simp [Option.filter, hnone p b hp]
    rw [hfilter]

end Alive

/-- The list of a device holds exactly the wrappers of the live command buffers, each with its pool and what is
recorded; and there are entries only for live sets. -/
structure Bookkeeping (d : PoolDevice) (l : Alive) : Prop where
  nodup : d.commandBuffers.Nodup
  buffers : ∀ p, p ∈ d.commandBuffers ↔ (l.buffers p).isSome
  wrappers : ∀ p, (d.heap p).map (fun cb => (cb.commandPoolId, cb.recorded)) = l.buffers p
  layouts : ∀ s, d.tables.layouts s ≠ none → l.sets s ≠ none
  pools : ∀ s, d.descriptorSetPools s ≠ none → l.sets s ≠ none
  resources : ∀ k, d.tables.resources k ≠ none → l.sets k.1 ≠ none

/-- Calls as an application may make them. Allocations of command buffers succeed, with addresses that are not
in use; what is freed is live and named once, beside null handles; what is recorded into or updated is live. -/
def PoolCall.Allowed (d : PoolDevice) (l : Alive) : PoolCall → Prop
  | .allocateCommandBuffers _ count new payload =>
    (Client.allocateCommandBuffers count payload).result = success ∧ Function.Injective new ∧
      ∀ i, d.heap (new i) = none
  | .freeCommandBuffers array =>
    array.reduceOption.Nodup ∧ ∀ p ∈ array.reduceOption, (l.buffers p).isSome
  | .record cb _ => (l.buffers cb).isSome
  | .updateDescriptorSets u =>
    (∀ w ∈ u.pWrites.items, l.sets w.dstSet.toNat ≠ none) ∧ ∀ c ∈ u.pCopies.items, l.sets c.dstSet.toNat ≠ none
  | .updateDescriptorSetWithTemplate _ set _ _ => l.sets set.toNat ≠ none
  | _ => True

/-- No null handle among command buffers to be freed, and no command pool destroyed that has a live one. -/
def PoolCall.Tracked (l : Alive) : PoolCall → Prop
  | .freeCommandBuffers array => none ∉ array
  | .destroyCommandPool pool => pool = 0 ∨ ∀ p b, l.buffers p = some b → b.1 ≠ pool
  | _ => True

/-- The pool of every live set is known as well. -/
structure PoolInv (d : PoolDevice) (l : Alive) : Prop extends Bookkeeping d l where
  setPools : d.descriptorSetPools = l.sets

namespace PoolDevice

section

variable {pool : UInt64} {new : ℕ → Wrapper}

/-- The pool of a wrapper and what is recorded in it. -/
def seen (heap : Wrapper → Option RemoteCommandBuffer) (p : Wrapper) : Option (UInt64 × CommandBuffer) :=
  (heap p).map fun cb => (cb.commandPoolId, cb.recorded)

theorem commandBuffers_foldl (stores : List (UInt64 × ℕ)) (d : PoolDevice) :
    (stores.foldl (newCommandBuffer pool new) d).commandBuffers =
      d.commandBuffers ++ stores.map fun store => new store.2 := by
  induction stores generalizing d with
  | nil => simp
  | cons store stores ih =>
    rw [List.foldl_cons, ih, List.map_cons]
    simp [newCommandBuffer]

theorem seen_foldl (stores : List (UInt64 × ℕ)) (d : PoolDevice) (p : Wrapper) :
    seen (stores.foldl (newCommandBuffer pool new) d).heap p =
      if p ∈ stores.map (fun store => new store.2) then some (pool, {}) else seen d.heap p := by
  induction stores generalizing d with
  | nil => simp
  | cons store stores ih =>
    rw [List.foldl_cons, ih, List.map_cons]
    by_cases hp : p = new store.2
    · simp [hp, newCommandBuffer, seen]
    · simp only [List.mem_cons, hp, false_or]
      simp [hp, newCommandBuffer, seen]

theorem rest_foldl (stores : List (UInt64 × ℕ)) (d : PoolDevice) :
    (stores.foldl (newCommandBuffer pool new) d).tables = d.tables ∧
      (stores.foldl (newCommandBuffer pool new) d).descriptorSetPools = d.descriptorSetPools := by
  induction stores generalizing d with
  | nil => exact ⟨rfl, rfl⟩
  | cons store stores ih => exact ih (newCommandBuffer pool new d store)

end

/-- The elements of an array are deleted one after the other. -/
theorem delete_foldlM {heap : Wrapper → Option RemoteCommandBuffer} {ps : List Wrapper} (hnodup : ps.Nodup)
    (h : ∀ p ∈ ps, (heap p).isSome) :
    ps.foldlM delete heap = some fun p => if p ∈ ps then none else heap p := by
  induction ps generalizing heap with
  | nil => simp
  | cons p ps ih =>
    obtain ⟨hnotMem, hnodup⟩ := List.nodup_cons.1 hnodup
    have hrest : ∀ q ∈ ps, (Function.update heap p none q).isSome := by
      intro q hq
      rw [Function.update_of_ne (ne_of_mem_of_not_mem hq hnotMem)]
      exact h q (List.mem_cons_of_mem p hq)
    rw [List.foldlM_cons, delete, if_pos (h p List.mem_cons_self)]
    simp only [Option.bind_eq_bind, Option.bind_some]
    rw [ih hnodup hrest]
    congr 1
    funext q
    by_cases hq : q = p
    · simp [hq]
    · simp [hq]

theorem freeCommandBuffers_null {d : PoolDevice} {array : List (Option Wrapper)} (h : none ∈ array) :
    d.freeCommandBuffers array = none := by
  have hread : array.mapM d.remoteIdOf = none := by
    induction array with
    | nil => cases h
    | cons p array ih =>
      rcases List.mem_cons.1 h with rfl | h
      · rfl
      · rw [List.mapM_cons, ih h]
        cases d.remoteIdOf p <;> rfl
  rw [freeCommandBuffers, hread]
  rfl

theorem freeCommandBuffers_some {d : PoolDevice} {ps : List Wrapper} (hnodup : ps.Nodup)
    (h : ∀ p ∈ ps, (d.heap p).isSome) :
    d.freeCommandBuffers (ps.map some) = some { d with
      commandBuffers := d.commandBuffers.filter (· ∉ ps)
      heap := fun p => if p ∈ ps then none else d.heap p } := by
  have hread : ∃ ids, (ps.map some).mapM d.remoteIdOf = some ids := by
    induction ps with
    | nil => exact ⟨[], rfl⟩
    | cons p ps ih =>
      obtain ⟨ids, hids⟩ := ih (List.nodup_cons.1 hnodup).2 fun q hq => h q (List.mem_cons_of_mem p hq)
      obtain ⟨cb, hcb⟩ := Option.isSome_iff_exists.1 (h p List.mem_cons_self)
      refine ⟨cb.remoteId :: ids, ?_⟩
      rw [List.map_cons, List.mapM_cons, hids]
      simp [remoteIdOf, hcb]
  have hretired : ∀ ps : List Wrapper, (ps.map some).mapM id = some ps := by
    intro ps
    induction ps with
    | nil => rfl
    | cons p ps ih =>
      rw [List.map_cons, List.mapM_cons, ih]
      rfl
  obtain ⟨ids, hids⟩ := hread
  rw [freeCommandBuffers, hids, hretired]
  simp [delete_foldlM hnodup h]

section

variable {descriptorLayouts : UInt64 → Option SetLayout} {pool : UInt64}

theorem descriptorSetPools_foldl (sets : List (SetId × UInt64)) (d : PoolDevice) :
    (sets.foldl (newDescriptorSet descriptorLayouts pool) d).descriptorSetPools =
      fun s => if s ∈ sets.map Prod.fst then some pool else d.descriptorSetPools s := by
  induction sets generalizing d with
  | nil => simp
  | cons set sets ih =>
    rw [List.foldl_cons, ih, List.map_cons]
    funext s
    by_cases hs : s = set.1
    · simp [hs, newDescriptorSet]
    · simp only [List.mem_cons, hs, false_or]
      simp [hs, newDescriptorSet]

/-- A layout is set for what is allocated, and resources are not touched. -/
theorem tables_foldl (sets : List (SetId × UInt64)) (d : PoolDevice) :
    (sets.foldl (newDescriptorSet descriptorLayouts pool) d).tables.resources = d.tables.resources ∧
      ∀ s, (sets.foldl (newDescriptorSet descriptorLayouts pool) d).tables.layouts s ≠ none →
        s ∈ sets.map Prod.fst ∨ d.tables.layouts s ≠ none := by
  induction sets generalizing d with
  | nil => exact ⟨rfl, fun s h => .inr h⟩
  | cons set sets ih =>
    obtain ⟨hresources, hlayouts⟩ := ih (newDescriptorSet descriptorLayouts pool d set)
    rw [List.foldl_cons]
    refine ⟨hresources.trans ?_, fun s hs => ?_⟩
    · simp only [newDescriptorSet]
      cases descriptorLayouts set.2 <;> rfl
    · rcases hlayouts s hs with hmem | hold
      · exact .inl (List.mem_cons_of_mem _ hmem)
      · by_cases hset : s = set.1
        · exact .inl (hset ▸ List.mem_cons_self)
        · refine .inr fun hnone => hold ?_
          simp only [newDescriptorSet]
          cases descriptorLayouts set.2 with
          | none => exact hnone
          | some layout => exact (Function.update_of_ne hset _ _).trans hnone

theorem commandBuffers_sets_foldl (sets : List (SetId × UInt64)) (d : PoolDevice) :
    (sets.foldl (newDescriptorSet descriptorLayouts pool) d).commandBuffers = d.commandBuffers ∧
      (sets.foldl (newDescriptorSet descriptorLayouts pool) d).heap = d.heap := by
  induction sets generalizing d with
  | nil => exact ⟨rfl, rfl⟩
  | cons set sets ih => exact ih (newDescriptorSet descriptorLayouts pool d set)

end

end PoolDevice

/-! ### Updates touch the sets they name -/

theorem touchWrite_ne_none {layouts : SetId → Option SetLayout} {touched : Touched} {w : VkWriteDescriptorSet}
    {k : SetId × UInt64} (h : touchWrite layouts touched w k ≠ none) : touched k ≠ none ∨ k.1 = w.dstSet.toNat := by
  refine (mem_of_putAll_ne_none h).imp_right fun hmem => ?_
  simp only [List.map_map, List.mem_map] at hmem
  obtain ⟨e, -, rfl⟩ := hmem
  rfl

theorem touchCopy_ne_none {d : DescriptorTables} {touched : Touched} {c : CopyDescriptorSet} {k : SetId × UInt64}
    (h : touchCopy d touched c k ≠ none) : touched k ≠ none ∨ k.1 = c.dstSet.toNat := by
  refine (mem_of_putAll_ne_none h).imp_right fun hmem => ?_
  simp only [List.map_map, List.mem_map] at hmem
  obtain ⟨e, -, rfl⟩ := hmem
  rfl

/-- What is touched in a fold was touched before or is of one of the sets. -/
theorem foldl_ne_none {α : Type} {touch : Touched → α → Touched} {dstSet : α → SetId}
    (h : ∀ touched a k, touch touched a k ≠ none → touched k ≠ none ∨ k.1 = dstSet a) (as : List α)
    {touched : Touched} {k : SetId × UInt64} (hk : as.foldl touch touched k ≠ none) :
    touched k ≠ none ∨ ∃ a ∈ as, k.1 = dstSet a := by
  induction as generalizing touched with
  | nil => exact .inl hk
  | cons a as ih =>
    rcases ih hk with hfirst | ⟨a', ha', hset⟩
    · exact (h touched a k hfirst).imp_right fun hset => ⟨a, List.mem_cons_self, hset⟩
    · exact .inr ⟨a', List.mem_cons_of_mem a ha', hset⟩

theorem apply_ne_none {d : DescriptorTables} {touched : Touched} {k : SetId × UInt64}
    (h : (d.apply touched).resources k ≠ none) : touched k ≠ none ∨ d.resources k ≠ none := by
  by_contra hnot
  obtain ⟨htouched, hold⟩ := not_or.1 hnot
  refine h ?_
  simp only [DescriptorTables.apply, overlay, not_not.1 htouched]
  exact not_not.1 hold

/-- An update leaves the layouts, and resources only for the sets it names and those that had some. -/
theorem updateDescriptorSets_frame (d : DescriptorTables) (remoteId : UInt64) (u : DescriptorUpdates) :
    (updateDescriptorSets d remoteId u).1.layouts = d.layouts ∧
      ∀ k, (updateDescriptorSets d remoteId u).1.resources k ≠ none → d.resources k ≠ none ∨
        (∃ w ∈ u.pWrites.items, k.1 = w.dstSet.toNat) ∨ ∃ c ∈ u.pCopies.items, k.1 = c.dstSet.toNat := by
  by_cases he : u.Encodable
  · obtain ⟨request, hupdate⟩ := updateDescriptorSets_of_encodable he d remoteId
    rw [hupdate]
    refine ⟨rfl, fun k hk => ?_⟩
    have hwrites : ∀ touched w k, touchWrite d.layouts touched w k ≠ none →
        touched k ≠ none ∨ k.1 = w.dstSet.toNat := fun _ _ _ => touchWrite_ne_none
    have hcopies : ∀ touched c k, touchCopy d touched c k ≠ none →
        touched k ≠ none ∨ k.1 = c.dstSet.toNat := fun _ _ _ => touchCopy_ne_none
    rcases apply_ne_none hk with htouched | hold
    · refine .inr ?_
      rcases foldl_ne_none hcopies _ htouched with hwritten | hcopy
      · rcases foldl_ne_none hwrites _ hwritten with hnothing | hwrite
        · exact absurd rfl hnothing
        · exact .inl hwrite
      · exact .inr hcopy
    · exact .inl hold
  · rw [updateDescriptorSets_of_not he]
    exact ⟨rfl, fun k hk => .inl hk⟩

theorem updateDescriptorSetWithTemplate_frame (d : DescriptorTables)
    (templates : UInt64 → Option DescriptorTemplateMetadata) (remoteId set template : UInt64)
    (data : Option TemplateData) :
    (updateDescriptorSetWithTemplate d templates remoteId set template data).1.layouts = d.layouts ∧
      ∀ k, (updateDescriptorSetWithTemplate d templates remoteId set template data).1.resources k ≠ none →
        d.resources k ≠ none ∨ k.1 = set.toNat := by
  cases data with
  | none => exact ⟨rfl, fun k hk => .inl hk⟩
  | some data =>
    cases hm : templates template with
    | none =>
      have hsame : updateDescriptorSetWithTemplate d templates remoteId set template (some data) = (d, none) := by
        simp only [updateDescriptorSetWithTemplate, hm]
      rw [hsame]
      exact ⟨rfl, fun k hk => .inl hk⟩
    | some m =>
      simp only [updateDescriptorSetWithTemplate, hm]
      refine ⟨rfl, fun k hk => ?_⟩
      rcases apply_ne_none hk with htouched | hold
      · refine .inr ?_
        by_contra hne
        exact htouched (if_neg hne)
      · exact .inl hold

namespace PoolInv

variable {d d' : PoolDevice} {l l' : Alive}

/-- A call on command buffers. -/
theorem ofBuffers (h : PoolInv d l) (htables : d'.tables = d.tables)
    (hpools : d'.descriptorSetPools = d.descriptorSetPools) (hsets : l'.sets = l.sets)
    (hnodup : d'.commandBuffers.Nodup) (hbuffers : ∀ p, p ∈ d'.commandBuffers ↔ (l'.buffers p).isSome)
    (hwrappers : ∀ p, PoolDevice.seen d'.heap p = l'.buffers p) : PoolInv d' l' where
  nodup := hnodup
  buffers := hbuffers
  wrappers := hwrappers
  layouts := by
    rw [htables, hsets]
    exact h.layouts
  pools := by
    rw [hpools, hsets]
    exact h.pools
  resources := by
    rw [htables, hsets]
    exact h.resources
  setPools := hpools.trans (h.setPools.trans hsets.symm)

/-- A call on descriptor sets. -/
theorem ofSets (h : PoolInv d l) (hlist : d'.commandBuffers = d.commandBuffers) (hheap : d'.heap = d.heap)
    (hbuffers : l'.buffers = l.buffers) (hsetPools : d'.descriptorSetPools = l'.sets)
    (hlayouts : ∀ s, d'.tables.layouts s ≠ none → l'.sets s ≠ none)
    (hresources : ∀ k, d'.tables.resources k ≠ none → l'.sets k.1 ≠ none) : PoolInv d' l' where
  nodup := hlist ▸ h.nodup
  buffers := by
    rw [hlist, hbuffers]
    exact h.buffers
  wrappers := by
    rw [hheap, hbuffers]
    exact h.wrappers
  layouts := hlayouts
  pools := fun s hs => by rwa [hsetPools] at hs
  resources := hresources
  setPools := hsetPools

theorem isSome_heap (h : PoolInv d l) {p : Wrapper} (hp : (l.buffers p).isSome) : (d.heap p).isSome := by
  rw [← h.wrappers, Option.isSome_map] at hp
  exact hp

theorem allocateCommandBuffers (h : PoolInv d l) {pool : UInt64} {count : UInt32} {new : ℕ → Wrapper}
    {payload : List UInt8} (hnew : Function.Injective new) (hfree : ∀ i, d.heap (new i) = none) :
    PoolInv (d.allocateCommandBuffers pool count new payload)
      (l.after (.allocateCommandBuffers pool count new payload)) := by
  have hindices : ((Client.allocateCommandBuffers count payload).stores.map Prod.snd).Nodup := by
    unfold Client.allocateCommandBuffers
    cases roundTrip payload with
    | none => exact List.nodup_nil
    | some r =>
      rw [List.zipIdx_map_snd]
      exact List.nodup_range'
  have hborn : ((Client.allocateCommandBuffers count payload).stores.map fun store => new store.2).Nodup := by
    have hmap := hindices.map hnew
    rwa [List.map_map] at hmap
  obtain ⟨htables, hpools⟩ : (d.allocateCommandBuffers pool count new payload).tables = d.tables ∧
      (d.allocateCommandBuffers pool count new payload).descriptorSetPools = d.descriptorSetPools :=
    PoolDevice.rest_foldl _ d
  refine h.ofBuffers htables hpools rfl ?_ (fun p => ?_) fun p => ?_
  · rw [PoolDevice.allocateCommandBuffers, PoolDevice.commandBuffers_foldl]
    refine List.nodup_append'.2 ⟨h.nodup, hborn, fun p hold hmem => ?_⟩
    obtain ⟨store, -, rfl⟩ := List.mem_map.1 hmem
    have hheap := h.isSome_heap ((h.buffers _).1 hold)
    rw [hfree] at hheap
    cases hheap
  · rw [PoolDevice.allocateCommandBuffers, PoolDevice.commandBuffers_foldl, List.mem_append, h.buffers]
    simp only [Alive.after]
    split_ifs with hmem
    · simp [hmem]
    · simp [hmem]
  · rw [PoolDevice.allocateCommandBuffers, PoolDevice.seen_foldl]
    simp only [Alive.after]
    split_ifs with hmem
    · rfl
    · exact h.wrappers p

theorem freeCommandBuffers (h : PoolInv d l) {array : List (Option Wrapper)} (hnull : none ∉ array)
    (hnodup : array.reduceOption.Nodup) (hlive : ∀ p ∈ array.reduceOption, (l.buffers p).isSome) :
    ∃ d', d.freeCommandBuffers array = some d' ∧ PoolInv d' (l.after (.freeCommandBuffers array)) := by
  have harray : array = array.reduceOption.map some := by
    clear hnodup hlive
    induction array with
    | nil => rfl
    | cons p array ih =>
      rw [List.mem_cons, not_or] at hnull
      cases p with
      | none => exact absurd rfl hnull.1
      | some p =>
        rw [List.reduceOption_cons_of_some, List.map_cons, ← ih hnull.2]
  have hmem : ∀ p, some p ∈ array ↔ p ∈ array.reduceOption := fun p => List.reduceOption_mem_iff.symm
  have hfree := PoolDevice.freeCommandBuffers_some hnodup fun p hp => h.isSome_heap (hlive p hp)
  rw [← harray] at hfree
  refine ⟨_, hfree, h.ofBuffers rfl rfl rfl (h.nodup.filter _) (fun p => ?_) fun p => ?_⟩
  · rw [List.mem_filter, h.buffers]
    simp only [Alive.after, hmem, decide_not, Bool.not_eq_true', decide_eq_false_iff_not]
    split_ifs with hp
    · simp [hp]
    · simp [hp]
  · simp only [Alive.after, hmem, PoolDevice.seen]
    split_ifs with hp
    · rfl
    · exact h.wrappers p

theorem resetCommandPool (h : PoolInv d l) (pool : UInt64) (payload : List UInt8) :
    ∃ d', d.resetCommandPool pool payload = some d' ∧ PoolInv d' (l.after (.resetCommandPool pool payload)) := by
  by_cases hresult : resetCommandPoolResult payload = success
  · have hall : ∀ p ∈ d.commandBuffers, (d.heap p).isSome := fun p hp => h.isSome_heap ((h.buffers p).1 hp)
    rw [PoolDevice.resetCommandPool, if_pos hresult, if_pos hall, Alive.after, if_pos hresult]
    refine ⟨_, rfl, h.ofBuffers rfl rfl rfl h.nodup (fun p => ?_) fun p => ?_⟩
    · rw [Option.isSome_map]
      exact h.buffers p
    · dsimp only
      rw [← h.wrappers p]
      by_cases hp : p ∈ d.commandBuffers
      · cases hheap : d.heap p with
        | none => simp [PoolDevice.seen, hheap]
        | some cb =>
          by_cases hpool : cb.commandPoolId = pool
          · simp [PoolDevice.seen, hp, hheap, RemoteCommandBuffer.clearOf, hpool]
          · simp [PoolDevice.seen, hp, hheap, RemoteCommandBuffer.clearOf, hpool]
      · have hnone : d.heap p = none := by
          rw [h.buffers, ← h.wrappers, Option.isSome_map, Bool.not_eq_true, Option.isSome_eq_false_iff,
            Option.isNone_iff_eq_none] at hp
          exact hp
        simp [PoolDevice.seen, hp, hnone]
  · rw [PoolDevice.resetCommandPool, if_neg hresult, Alive.after, if_neg hresult]
    exact ⟨d, rfl, h⟩

/-- A pool without live command buffers ends. -/
theorem destroyCommandPool (h : PoolInv d l) {pool : UInt64}
    (hchildren : pool = 0 ∨ ∀ p b, l.buffers p = some b → b.1 ≠ pool) :
    PoolInv d (l.after (.destroyCommandPool pool)) := by
  rwa [Alive.after_destroyCommandPool hchildren]

theorem record (h : PoolInv d l) {cb : Wrapper} (hlive : (l.buffers cb).isSome) (recorded : CommandBuffer) :
    ∃ d', d.step (.record cb recorded) = some d' ∧ PoolInv d' (l.after (.record cb recorded)) := by
  obtain ⟨b, hb⟩ := Option.isSome_iff_exists.1 (h.isSome_heap hlive)
  rw [PoolDevice.step, hb]
  refine ⟨_, rfl, h.ofBuffers rfl rfl rfl h.nodup (fun p => ?_) fun p => ?_⟩
  · rw [h.buffers]
    simp only [Alive.after]
    split_ifs with hp
    · rw [Option.isSome_map]
    · rfl
  · simp only [Alive.after, PoolDevice.seen]
    by_cases hp : p = cb
    · subst hp
      simp [← h.wrappers p, hb]
    · simp only [hp, if_false, ne_eq, not_false_eq_true, Function.update_of_ne]
      exact h.wrappers p

theorem allocateDescriptorSets (h : PoolInv d l) (descriptorLayouts : UInt64 → Option SetLayout) (pool : UInt64)
    (layouts : List UInt64) (payload : List UInt8) :
    PoolInv (d.allocateDescriptorSets descriptorLayouts pool layouts payload)
      (l.after (.allocateDescriptorSets descriptorLayouts pool layouts payload)) := by
  rw [PoolDevice.allocateDescriptorSets, Alive.after]
  split_ifs with hresult
  · generalize PoolDevice.allocatedSets layouts payload = sets
    obtain ⟨hlist, hheap⟩ : (sets.foldl (PoolDevice.newDescriptorSet descriptorLayouts pool) d).commandBuffers =
        d.commandBuffers ∧ (sets.foldl (PoolDevice.newDescriptorSet descriptorLayouts pool) d).heap = d.heap :=
      PoolDevice.commandBuffers_sets_foldl sets d
    refine h.ofSets hlist hheap rfl ?_ (fun s hs => ?_) fun k hk => ?_
    · rw [PoolDevice.descriptorSetPools_foldl, h.setPools]
    · dsimp only
      split_ifs with hmem
      · exact Option.some_ne_none pool
      · exact h.layouts s (((PoolDevice.tables_foldl sets d).2 s hs).resolve_left hmem)
    · dsimp only
      split_ifs with hmem
      · exact Option.some_ne_none pool
      · rw [(PoolDevice.tables_foldl sets d).1] at hk
        exact h.resources k hk
  · exact h

/-- Sets that end are erased everywhere. -/
theorem eraseSets (h : PoolInv d l) {gone : SetId → Bool} {sets : SetId → Option UInt64}
    (hsets : ∀ s, sets s = if gone s then none else l.sets s) :
    PoolInv (d.eraseSets gone) { l with sets := sets } := by
  refine h.ofSets rfl rfl rfl ?_ (fun s hs => ?_) fun k hk => ?_
  · funext s
    simp only [PoolDevice.eraseSets, hsets, h.setPools]
  · simp only [PoolDevice.eraseSets, DescriptorTables.erase] at hs
    dsimp only
    rw [hsets]
    cases hgone : gone s with
    | true => simp [hgone] at hs
    | false =>
      simp only [hgone, Bool.false_eq_true, if_false] at hs ⊢
      exact h.layouts s hs
  · simp only [PoolDevice.eraseSets, DescriptorTables.erase] at hk
    dsimp only
    rw [hsets]
    cases hgone : gone k.1 with
    | true => simp [hgone] at hk
    | false =>
      simp only [hgone, Bool.false_eq_true, if_false] at hk ⊢
      exact h.resources k hk

/-- The sets of a pool are found by the pool that is kept for each. -/
theorem eraseSets_of_pool (h : PoolInv d l) (pool : UInt64) :
    PoolInv (d.eraseSets fun s => d.descriptorSetPools s = some pool)
      { l with sets := fun s => (l.sets s).filter (· ≠ pool) } := by
  refine h.eraseSets fun s => ?_
  rw [h.setPools]
  cases hs : l.sets s with
  | none => simp
  | some p =>
    by_cases hp : p = pool
    · simp [hp, Option.filter]
    · simp [hp, Option.filter]

theorem updateDescriptorSets (h : PoolInv d l) {u : DescriptorUpdates}
    (hwrites : ∀ w ∈ u.pWrites.items, l.sets w.dstSet.toNat ≠ none)
    (hcopies : ∀ c ∈ u.pCopies.items, l.sets c.dstSet.toNat ≠ none) :
    PoolInv { d with tables := (Client.updateDescriptorSets d.tables d.remoteId u).1 } l := by
  obtain ⟨hlayouts, hresources⟩ := updateDescriptorSets_frame d.tables d.remoteId u
  refine h.ofSets rfl rfl rfl h.setPools (fun s hs => ?_) fun k hk => ?_
  · rw [hlayouts] at hs
    exact h.layouts s hs
  · rcases hresources k hk with hold | ⟨w, hw, hset⟩ | ⟨c, hc, hset⟩
    · exact h.resources k hold
    · rw [hset]
      exact hwrites w hw
    · rw [hset]
      exact hcopies c hc

theorem updateDescriptorSetWithTemplate (h : PoolInv d l)
    (templates : UInt64 → Option DescriptorTemplateMetadata) {set : UInt64} (hset : l.sets set.toNat ≠ none)
    (template : UInt64) (data : Option TemplateData) :
    PoolInv { d with
      tables := (Client.updateDescriptorSetWithTemplate d.tables templates d.remoteId set template data).1 } l := by
  obtain ⟨hlayouts, hresources⟩ :=
    updateDescriptorSetWithTemplate_frame d.tables templates d.remoteId set template data
  refine h.ofSets rfl rfl rfl h.setPools (fun s hs => ?_) fun k hk => ?_
  · rw [hlayouts] at hs
    exact h.layouts s hs
  · rcases hresources k hk with hold | hsame
    · exact h.resources k hold
    · rwa [hsame]

/-- A call that is tracked keeps the books. -/
theorem step (h : PoolInv d l) {c : PoolCall} (hallowed : c.Allowed d l) (htracked : c.Tracked l) :
    ∃ d', d.step c = some d' ∧ PoolInv d' (l.after c) := by
  cases c with
  | allocateCommandBuffers pool count new payload =>
    exact ⟨_, rfl, h.allocateCommandBuffers hallowed.2.1 hallowed.2.2⟩
  | freeCommandBuffers array => exact h.freeCommandBuffers htracked hallowed.1 hallowed.2
  | resetCommandPool pool payload => exact h.resetCommandPool pool payload
  | destroyCommandPool pool => exact ⟨d, rfl, h.destroyCommandPool htracked⟩
  | record cb recorded => exact h.record hallowed recorded
  | allocateDescriptorSets descriptorLayouts pool layouts payload =>
    exact ⟨_, rfl, h.allocateDescriptorSets descriptorLayouts pool layouts payload⟩
  | freeDescriptorSets pool sets payload =>
    refine ⟨_, rfl, ?_⟩
    rw [PoolDevice.freeDescriptorSets, Alive.after]
    split_ifs with hresult
    · exact h.eraseSets fun s => by simp
    · exact h
  | resetDescriptorPool pool payload =>
    refine ⟨_, rfl, ?_⟩
    rw [PoolDevice.resetDescriptorPool, Alive.after]
    split_ifs with hresult
    · exact h.eraseSets_of_pool pool
    · exact h
  | destroyDescriptorPool pool =>
    refine ⟨_, rfl, ?_⟩
    rw [PoolDevice.destroyDescriptorPool, Alive.after]
    split_ifs with h0
    · exact h
    · exact h.eraseSets_of_pool pool
  | updateDescriptorSets u => exact ⟨_, rfl, h.updateDescriptorSets hallowed.1 hallowed.2⟩
  | updateDescriptorSetWithTemplate templates set template data =>
    exact ⟨_, rfl, h.updateDescriptorSetWithTemplate templates hallowed template data⟩

/-- One that is not reads through a null handle, or leaves wrappers of command buffers that are gone. -/
theorem tracked_of_step (h : PoolInv d l) {c : PoolCall} (hstep : d.step c = some d')
    (hafter : Bookkeeping d' (l.after c)) : c.Tracked l := by
  cases c with
  | freeCommandBuffers array =>
    intro hnull
    have hfree : d.freeCommandBuffers array = some d' := hstep
    rw [PoolDevice.freeCommandBuffers_null hnull] at hfree
    cases hfree
  | destroyCommandPool pool =>
    by_contra hnot
    obtain ⟨h0, hchildren⟩ := not_or.1 hnot
    push Not at hchildren
    obtain ⟨p, b, hb, hpool⟩ := hchildren
    obtain rfl : d = d' := Option.some.inj hstep
    have hmem : p ∈ d.commandBuffers := (h.buffers p).2 (by rw [hb]; rfl)
    rw [hafter.buffers, Alive.after, if_neg h0] at hmem
    simp [hb, Option.filter, hpool] at hmem
  | _ => trivial

end PoolInv

/-- Every call of a run is allowed where it is made. -/
def AllAllowed : PoolDevice → Alive → List PoolCall → Prop
  | _, _, [] => True
  | d, l, c :: cs => c.Allowed d l ∧ ∀ d', d.step c = some d' → AllAllowed d' (l.after c) cs

def AllTracked : Alive → List PoolCall → Prop
  | _, [] => True
  | l, c :: cs => c.Tracked l ∧ AllTracked (l.after c) cs

/-- The run goes through, and the books are right after every call. -/
def AllKept : PoolDevice → Alive → List PoolCall → Prop
  | d, l, [] => Bookkeeping d l
  | d, l, c :: cs => Bookkeeping d l ∧ ∃ d', d.step c = some d' ∧ AllKept d' (l.after c) cs

theorem AllKept.first {d : PoolDevice} {l : Alive} {cs : List PoolCall} (h : AllKept d l cs) : Bookkeeping d l := by
  cases cs with
  | nil => exact h
  | cons c cs => exact h.1

theorem PoolInv.allKept_iff {d : PoolDevice} {l : Alive} (h : PoolInv d l) {cs : List PoolCall}
    (hallowed : AllAllowed d l cs) : AllKept d l cs ↔ AllTracked l cs := by
  induction cs generalizing d l with
  | nil => exact iff_of_true h.toBookkeeping trivial
  | cons c cs ih =>
    constructor
    · rintro ⟨-, d', hstep, hkept⟩
      have htracked := h.tracked_of_step hstep hkept.first
      obtain ⟨d'', hstep', hinv⟩ := h.step hallowed.1 htracked
      obtain rfl : d' = d'' := Option.some.inj (hstep.symm.trans hstep')
      exact ⟨htracked, (ih hinv (hallowed.2 d' hstep)).1 hkept⟩
    · rintro ⟨htracked, hrest⟩
      obtain ⟨d', hstep, hinv⟩ := h.step hallowed.1 htracked
      exact ⟨h.toBookkeeping, d', hstep, (ih hinv (hallowed.2 d' hstep)).2 hrest⟩

theorem live_nothing (_ : SetId × UInt64) (r : DescriptorResource) (h : none = some r) : r.resourceId ≠ 0 :=
  absurd h.symm (Option.some_ne_none r)

/-- A device that was just created. -/
def PoolDevice.created (remoteId : UInt64) : PoolDevice where
  remoteId := remoteId
  tables := ⟨fun _ => none, fun _ => none, live_nothing⟩

theorem poolInv_created (remoteId : UInt64) : PoolInv (.created remoteId) {} where
  nodup := List.nodup_nil
  buffers p := by simp [PoolDevice.created]
  wrappers p := rfl
  layouts s hs := absurd rfl hs
  pools s hs := absurd rfl hs
  resources k hk := absurd rfl hk
  setPools := rfl

/-- The books are right through a run of calls exactly if all of them are tracked. -/
theorem bookkeeping_iff (remoteId : UInt64) {cs : List PoolCall} (hallowed : AllAllowed (.created remoteId) {} cs) :
    AllKept (.created remoteId) {} cs ↔ AllTracked {} cs :=
  (poolInv_created remoteId).allKept_iff hallowed

/-- Pool 3 and one command buffer of it, which gets id 4. -/
def allocateOne : PoolCall :=
  .allocateCommandBuffers 3 1 id (Writer.u32 0 ++ Writer.i32 success ++ Writer.u32 1 ++ Writer.handle 4)

theorem alive_allocateOne : ((({} : Alive).after allocateOne).buffers 0).map Prod.fst = some 3 := by
  decide

theorem allowed_allocateOne {c : PoolCall} (h : ∀ d, c.Allowed d (({} : Alive).after allocateOne)) :
    AllAllowed (.created 1) {} [allocateOne, c] :=
  ⟨⟨by decide, Function.injective_id, fun _ => rfl⟩, fun d _ => ⟨h d, fun _ _ => trivial⟩⟩

theorem allowed_freeOne {array : List (Option Wrapper)} (h : array.reduceOption = [0]) (d : PoolDevice) :
    (PoolCall.freeCommandBuffers array).Allowed d (({} : Alive).after allocateOne) := by
  rw [PoolCall.Allowed, h]
  refine ⟨List.nodup_singleton 0, fun p hp => ?_⟩
  obtain rfl := List.mem_singleton.1 hp
  rw [← Option.isSome_map (f := Prod.fst), alive_allocateOne]
  rfl

theorem bookkeeping_freed : AllKept (.created 1) {} [allocateOne, .freeCommandBuffers [some 0]] :=
  (bookkeeping_iff 1 (allowed_allocateOne (allowed_freeOne rfl))).2
    ⟨trivial, by simp [PoolCall.Tracked], trivial⟩

/-- The buffer is freed beside a null handle, or its pool is destroyed. -/
theorem null_handle_and_destroyed_pool :
    (AllAllowed (.created 1) {} [allocateOne, .freeCommandBuffers [none, some 0]] ∧
      ¬ AllKept (.created 1) {} [allocateOne, .freeCommandBuffers [none, some 0]]) ∧
    AllAllowed (.created 1) {} [allocateOne, .destroyCommandPool 3] ∧
      ¬ AllKept (.created 1) {} [allocateOne, .destroyCommandPool 3] := by
  have hfree : AllAllowed (.created 1) {} [allocateOne, .freeCommandBuffers [none, some 0]] :=
    allowed_allocateOne (allowed_freeOne rfl)
  have hdestroy : AllAllowed (.created 1) {} [allocateOne, .destroyCommandPool 3] :=
    allowed_allocateOne fun _ => trivial
  refine ⟨⟨hfree, fun h => ?_⟩, hdestroy, fun h => ?_⟩
  · have htracked := ((poolInv_created 1).allKept_iff hfree).1 h
    exact htracked.2.1 List.mem_cons_self
  · have htracked := ((poolInv_created 1).allKept_iff hdestroy).1 h
    obtain ⟨b, hb, hpool⟩ := Option.map_eq_some_iff.1 alive_allocateOne
    exact (htracked.2.1.resolve_left (by decide)) 0 b hb hpool

end VkRemote.Client
