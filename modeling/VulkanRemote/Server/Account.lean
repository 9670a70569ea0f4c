import VulkanRemote.Server.Stock

/-! A session from its first request to the end of its connection, with a ledger of what comes into its tables and how
it leaves them. -/

namespace VkRemote.Server

open Lib Wire Marshal

/-- A table, and an id in it. -/
abbrev Key := Shelf × ℕ

/-- An object with its owner. -/
abbrev Item (H : Type) := H × Option H

/-- How an object leaves its table. -/
inductive How (H : Type)
  /-- It is passed to its `vkDestroy` call or to `vkFreeMemory`, with a device or with the instance. -/
  | ended (device : Option H)
  /-- It is given back to its pool. -/
  | freed
  /-- The driver is not told. -/
  | dropped
  deriving DecidableEq

/-- What a handler does with an object that it has taken before it looked at the rest. -/
def How.handed {H : Type} (ok : Bool) : Option H → How H
  | some device => if ok then .ended (some device) else .dropped
  | none => .dropped

abbrev Log (H : Type) := List (Posting Key (Item H) (How H))

namespace ObjectTables

variable {H : Type}

def stock (t : ObjectTables H) : Key → Option (Item H) := fun k => (t.shelf k.1).entry k.2

/-- What stands under the new ids of a table. -/
def arrivals (t t' : ObjectTables H) (s : Shelf) : Log H :=
  entering t'.stock ((List.range' ((t.shelf s).slots.length + 1)
    ((t'.shelf s).slots.length - (t.shelf s).slots.length)).map fun id => (s, id))

variable [DecidableEq H]

/-- `DESTROY_OWNED` for one table. -/
def endedOn (t : ObjectTables H) (device : H) (s : Shelf) : List (Key × How H) :=
  ((t.shelf s).ownedIds device).map fun id => ((s, id), .ended (some device))

def retiredOn (t : ObjectTables H) (device : H) (s : Shelf) : List (Key × How H) :=
  ((t.shelf s).ownedIds device).map fun id => ((s, id), .dropped)

/-- What `destroy_device_objects` destroys before the images of the swapchains are retired. -/
def endedFirst : List Shelf :=
  [.owned .framebuffers, .owned .pipelines, .descriptorPools, .descriptorUpdateTemplates, .owned .imageViews,
    .owned .bufferViews, .owned .samplers, .owned .shaderModules, .owned .pipelineLayouts,
    .owned .descriptorSetLayouts, .owned .renderPasses, .owned .pipelineCaches, .owned .queryPools, .owned .events,
    .fences, .semaphores, .samplerYcbcrConversions, .owned .commandPools, .owned .buffers]

def endedLast : List Shelf := [.owned .images, .swapchains, .memories]

/-- What goes with its parents. -/
def retired : List Shelf := [.commandBuffers, .descriptorSets, .queues]

/-- The objects that `destroy_device_objects` takes out, in its order. -/
def teardown (t : ObjectTables H) (device : H) : List (Key × How H) :=
  endedFirst.flatMap (t.endedOn device) ++
    ((t.swapchainImagesOf device).map fun id => ((.owned .images, id), .dropped)) ++
    endedLast.flatMap (t.endedOn device) ++ retired.flatMap (t.retiredOn device)

/-- The objects of a device, and then the device. -/
def endDevice (t : ObjectTables H) (id : ℕ) (device : H) : List (Key × How H) :=
  t.teardown device ++ [((.devices, id), .ended none)]

end ObjectTables

/-! ### What the requests take out -/

section Departures

variable {H : Type} [DecidableEq H] (t : ObjectTables H) (request : List UInt8)

/-- What `destroyLookedUp` takes out. -/
def lookedUpDepartures (k : Key) (owner : Option H) (found : H → Bool) : List (Key × How H) :=
  let p := ObjectTables.readIds request
  match t.devices.get p.1 with
  | none => []
  | some device => if !p.2.2.ok || owner ≠ some device then [] else [(k, .handed (found device) (some device))]

/-- A device leaves in the log after the objects it owned, with which `handle_DestroyDevice` is done only after it has
taken the device out of its table. The two are one message. -/
def DestroyRequest.departures (found : LookedUp → H → Bool) : DestroyRequest → List (Key × How H)
  | destroyDevice =>
    let id := Reader.handle ⟨request, false⟩
    match t.devices.get id.1.toNat with
    | none => []
    | some device => if id.2.ok then t.endDevice id.1.toNat device else [((.devices, id.1.toNat), .dropped)]
  | destroyFence =>
    let p := ObjectTables.readIds request
    [((.fences, p.2.1), .handed p.2.2.ok (t.devices.get p.1))]
  | destroySemaphore =>
    let p := ObjectTables.readIds request
    [((.semaphores, p.2.1), .handed p.2.2.ok (t.devices.get p.1))]
  | freeCommandBuffers =>
    let how := if (t.handleFreeCommandBuffers request).2 then How.dropped else .freed
    (freedCommandBuffers request).map fun id => ((.commandBuffers, id), how)
  | destroyOwned table =>
    let p := ObjectTables.readIds request
    match t.devices.get p.1 with
    | none => []
    | some device =>
      if !p.2.2.ok || !(t.owned table).ownedBy p.2.1 device then []
      else [((.owned table, p.2.1), .ended (some device))]
  | destroyDescriptorPool =>
    let p := ObjectTables.readIds request
    match t.devices.get p.1, t.descriptorPools.get p.2.1 with
    | some device, some pool =>
      if !p.2.2.ok || p.2.2.remaining ≠ 0 then []
      else ((t.setsOf pool).map fun id => ((.descriptorSets, id), .dropped)) ++
        [((.descriptorPools, p.2.1), .ended (some device))]
    | _, _ => []
  | freeMemory =>
    let p := ObjectTables.readIds request
    match t.devices.get p.1 with
    | none => []
    | some device =>
      if !p.2.2.ok || t.memoryMetadata p.2.1 ≠ some device then []
      else [((.memories, p.2.1), .ended (some device))]
  | destroySurface =>
    let id := Reader.handle ⟨request, false⟩
    [((.surfaces, id.1.toNat), if id.2.ok then .ended none else .dropped)]
  | destroySwapchain =>
    let p := ObjectTables.readIds request
    match t.devices.get p.1, t.swapchains.get p.2.1 with
    | some device, some swapchain =>
      if !p.2.2.ok || t.swapchainDevices swapchain ≠ some device then [((.swapchains, p.2.1), .dropped)]
      else ((.swapchains, p.2.1), .ended (some device)) ::
        ((t.swapchainImageIds p.2.1).getD []).map fun id => ((.owned .images, id), .dropped)
    | _, _ => [((.swapchains, p.2.1), .dropped)]
  | destroyDescriptorUpdateTemplate =>
    let id := (ObjectTables.readIds request).2.1
    lookedUpDepartures t request (.descriptorUpdateTemplates, id) (t.descriptorUpdateTemplateOwners id)
      (found .destroyDescriptorUpdateTemplate)
  | destroySamplerYcbcrConversion =>
    let id := (ObjectTables.readIds request).2.1
    lookedUpDepartures t request (.samplerYcbcrConversions, id) (t.samplerYcbcrConversionOwners id)
      (found .destroySamplerYcbcrConversion)

/-- What `vkFreeDescriptorSets` gives back. -/
def freedDepartures (a : Findings H) : List (Key × How H) :=
  match t.freedSets request with
  | none => []
  | some ids => if a.success then ids.map fun id => ((.descriptorSets, id), .freed) else []

def resetDepartures (a : Findings H) : List (Key × How H) :=
  match t.resetPool request with
  | none => []
  | some pool => if a.success then (t.setsOf pool).map fun id => ((.descriptorSets, id), .dropped) else []

end Departures

structure TableSession (H : Type) where
  tables : ObjectTables H := {}
  log : Log H := []
  closed : Bool := false

inductive Action (H : Type)
  | create (c : CreateRequest H) (request : List UInt8) (a : Findings H)
  | destroy (d : DestroyRequest) (request : List UInt8)
  | freeDescriptorSets (request : List UInt8) (a : Findings H)
  | resetDescriptorPool (request : List UInt8) (a : Findings H)
  | disconnect

namespace TableSession

variable {H : Type} [DecidableEq H] (s : TableSession H)

def arrive (t : ObjectTables H) (shelf : Shelf) : TableSession H :=
  { s with tables := t, log := s.log ++ s.tables.arrivals t shelf }

def depart (t : ObjectTables H) (ks : List (Key × How H)) : TableSession H :=
  { s with tables := t, log := s.log ++ leaving s.tables.stock ks }

/-- One turn of the first loop of `destroy_session_objects`. -/
def closeDevice (id : ℕ) : TableSession H :=
  match s.tables.devices.get id with
  | none => s
  | some device =>
    s.depart ({ s.tables with devices := (s.tables.devices.take id).2 }.destroyDeviceObjects device)
      (s.tables.endDevice id device)

/-- The second loop. The tables are gone right after it. -/
def closeSurfaces : TableSession H :=
  s.depart { s.tables with surfaces := s.tables.surfaces.takeAll.2 }
    ((List.range' 1 s.tables.surfaces.slots.length).map fun id => ((.surfaces, id), .ended none))

/-- `destroy_session_objects`. -/
def close : TableSession H :=
  { ((List.range' 1 s.tables.devices.slots.length).foldl closeDevice s).closeSurfaces with closed := true }

def step (found : LookedUp → H → Bool) (s : TableSession H) : Action H → Option (TableSession H)
  | .create c request a => if s.closed then none else s.arrive (c.handle s.tables request a) c.shelf
  | .destroy d request =>
    if s.closed then none
    else s.depart (d.handle found s.tables request).1 (d.departures s.tables request found)
  | .freeDescriptorSets request a =>
    if s.closed then none
    else s.depart (s.tables.handleFreeDescriptorSets request a) (freedDepartures s.tables request a)
  | .resetDescriptorPool request a =>
    if s.closed then none
    else s.depart (s.tables.handleResetDescriptorPool request a) (resetDepartures s.tables request a)
  | .disconnect => if s.closed then none else s.close

/-- What an action leaves of an open session. -/
def next (found : LookedUp → H → Bool) (s : TableSession H) : Action H → TableSession H
  | .create c request a => s.arrive (c.handle s.tables request a) c.shelf
  | .destroy d request => s.depart (d.handle found s.tables request).1 (d.departures s.tables request found)
  | .freeDescriptorSets request a =>
    s.depart (s.tables.handleFreeDescriptorSets request a) (freedDepartures s.tables request a)
  | .resetDescriptorPool request a =>
    s.depart (s.tables.handleResetDescriptorPool request a) (resetDepartures s.tables request a)
  | .disconnect => s.close

theorem step_eq_some {found : LookedUp → H → Bool} {s s' : TableSession H} {a : Action H} :
    s.step found a = some s' ↔ s.closed = false ∧ s.next found a = s' := by
  cases a <;> simp [step, next]

end TableSession

end VkRemote.Server
