import VulkanRemote.Commands.Serving
import VulkanRemote.Lib.Forward

/-! What an application is promised: its calls made on a driver where it runs, its objects under numbers that
it was given for them. -/

namespace VkRemote.Commands

open Lib Wire Marshal Server

/-- A driver, and what is known of an application's objects: the driver's handle and the device of each, and
how many of a kind there have been. -/
@[ext]
structure World (σ : Type) where
  driver : σ
  device : ℕ → Option UInt64
  queue : ℕ → Option UInt64
  queueDevice : ℕ → Option UInt64
  objects : HandleKind → ℕ → Option (UInt64 × Option UInt64)
  issued : HandleKind → ℕ
  commandBufferDevice : Option UInt64 → Option UInt64
  setOwner : ℕ → Option (DescriptorSetOwner UInt64)
  errors : UInt32

/-- A call with the driver's handles for the ids. -/
def Request.received (device queue : UInt64 → UInt64) (hr : Resolver) : Request → Request
  | make d m => make (device d) (m.received hr)
  | destroy d what object => destroy (device d) what (hr (what.kind) object)
  | freeCommandBuffers d pool commandBuffers =>
    freeCommandBuffers (device d) (hr .commandPool pool) (commandBuffers.map (hr .commandBuffer))
  | record c => record (c.received id hr)
  | update d u => update (device d) (u.received hr)
  | operate d c args => operate (device d) c (receivedArgs hr c.params args)
  | freeDescriptorSets d pool count pSets =>
    freeDescriptorSets (device d) (hr .descriptorPool pool) count (pSets.received (hr .descriptorSet))
  | resetDescriptorPool d pool flags => resetDescriptorPool (device d) (hr .descriptorPool pool) flags
  | submit q => submit (q.received queue hr)

/-- What is put into the caller's array: a single object only where there is one. -/
def Making.handed (m : Making) (result : UInt32) (ids : List UInt64) : List (UInt64 × ℕ) :=
  match m with
  | one _ _ => if result = Server.success then ids.zipIdx else []
  | _ => ids.zipIdx

namespace World

variable {σ : Type} (D : Driver σ) (w : World σ)

def deviceOf (id : UInt64) : UInt64 := (w.device id.toNat).getD 0

def queueOf (id : UInt64) : UInt64 := (w.queue id.toNat).getD 0

def names : Resolver := fun kind id => ((w.objects kind id.toNat).map Prod.fst).getD 0

def functions : Functions where
  device cb := w.commandBufferDevice (notNull cb)
  found := D.found

def put (kind : HandleKind) (id : ℕ) (e : Option (UInt64 × Option UInt64)) : World σ :=
  { w with objects := Function.update w.objects kind (Function.update (w.objects kind) id e) }

def note (device native : UInt64) (id : ℕ) : Making → World σ
  | .commandBuffers _ =>
    { w with commandBufferDevice := Function.update w.commandBufferDevice (notNull native) (some device) }
  | .descriptorSets info =>
    { w with setOwner := Function.update w.setOwner id (some ⟨device, info.descriptorPool⟩) }
  | _ => w

/-- The next number goes to a new object. -/
def grant (device : UInt64) (m : Making) (native : UInt64) : World σ × UInt64 :=
  let id := w.issued m.kind + 1
  (({ w with issued := Function.update w.issued m.kind id }.put m.kind id
    ((notNull native).map (·, some device))).note device native id m, UInt64.ofNat id)

def grantAll (device : UInt64) (m : Making) (result : UInt32) : List UInt64 → World σ → World σ × List UInt64
  | [], w => (w, [])
  | native :: natives, w =>
    if m.keeps result native then
      let granted := w.grant device m native
      let others := grantAll device m result natives granted.1
      (others.1, granted.2 :: others.2)
    else
      let others := grantAll device m result natives w
      (others.1, 0 :: others.2)

def forgetCommandBuffer (w : World σ) (id : UInt64) : World σ :=
  { w.put .commandBuffer id.toNat none with
    commandBufferDevice :=
      Function.update w.commandBufferDevice ((w.objects .commandBuffer id.toNat).map Prod.fst) none }

def forgetSet (w : World σ) (id : UInt64) : World σ :=
  { w.put .descriptorSet id.toNat none with setOwner := Function.update w.setOwner id.toNat none }

/-- The sets of a pool go at once. -/
def forgetSetsOf (pool : UInt64) : World σ :=
  { w with
    objects := Function.update w.objects .descriptorSet fun id =>
      if (w.setOwner id).any (·.pool = pool) then none else w.objects .descriptorSet id
    setOwner := fun id => (w.setOwner id).filter (·.pool ≠ pool) }

def forget (d : Destroyed) (id : UInt64) : World σ :=
  match d with
  | .descriptorPool => (w.put .descriptorPool id.toNat none).forgetSetsOf (w.names .descriptorPool id)
  | d => w.put (d.kind) id.toNat none

/-- A call on the driver. Recording answers at once, and what the driver refuses of it is counted until the next
submission. -/
def call (r : Request) : World σ × Outcome :=
  let done := D.call w.driver (r.received w.deviceOf w.queueOf w.names)
  let after : World σ := { w with driver := done.1 }
  match r with
  | .make device m =>
    let granted := grantAll (w.deviceOf device) (m.received w.names) done.2.1
      ((List.range (m.received w.names).count).map done.2.2) after
    (granted.1, { result := done.2.1, ids := m.handed done.2.1 granted.2 })
  | .destroy _ d object => (after.forget d object, {})
  | .freeCommandBuffers _ _ commandBuffers => (commandBuffers.foldl forgetCommandBuffer after, {})
  | .record c =>
    (if c.call.opcode.checked && done.2.1 ≠ Server.success then { after with errors := w.errors + 1 }
      else after, {})
  | .update _ _ => (after, {})
  | .operate _ c _ => (after, if c.replies then { result := done.2.1 } else {})
  | .freeDescriptorSets _ _ _ pSets =>
    (if done.2.1 = Server.success then pSets.items.foldl forgetSet after else after, { result := done.2.1 })
  | .resetDescriptorPool _ pool _ =>
    (if done.2.1 = Server.success then after.forgetSetsOf (w.names .descriptorPool pool) else after,
      { result := done.2.1 })
  | .submit _ => ({ after with errors := 0 }, { result := done.2.1, errors := some w.errors })

def service : Service (World σ) Request Outcome where
  call w r := w.call D r

/-- A call as an application has to make it: of a live device and live objects of it, well formed, and of a
function that the device has. -/
def Admits : Request → Prop
  | .make device m =>
    w.deviceOf device ≠ 0 ∧ m.Whole ∧ m.Finds w.names ∧ m.asks = true ∧
      D.has (w.deviceOf device) m.opcode.functions = true
  | .destroy device d object =>
    w.deviceOf device ≠ 0 ∧
      (∃ native, w.objects (d.kind) object.toNat = some (native, some (w.deviceOf device))) ∧
      (d = .samplerYcbcrConversion → D.lookedUp .destroySamplerYcbcrConversion (w.deviceOf device) = true)
  | .freeCommandBuffers device _ commandBuffers =>
    w.deviceOf device ≠ 0 ∧ commandBuffers.length < 2 ^ 32 ∧ commandBuffers.Nodup
  | .record c =>
    c.call.Whole ∧ c.Finds id w.names ∧
      (w.functions D).reach (w.names .commandBuffer c.commandBuffer) c.call.opcode.function = true
  | .update device u => w.deviceOf device ≠ 0 ∧ u.Whole ∧ u.Finds w.names
  | .operate device c args =>
    w.deviceOf device ≠ 0 ∧ (∀ u ∈ usesOfArgs true c.params args, w.names u.kind u.id ≠ 0) ∧
      D.has (w.deviceOf device) c.functions = true
  | .freeDescriptorSets device pool _ pSets =>
    w.deviceOf device ≠ 0 ∧ w.names .descriptorPool pool ≠ 0 ∧ pSets.Real ∧
      ∀ id ∈ pSets.items, (w.objects .descriptorSet id.toNat).isSome ∧
        w.setOwner id.toNat = some ⟨w.deviceOf device, w.names .descriptorPool pool⟩
  | .resetDescriptorPool device pool _ => w.deviceOf device ≠ 0 ∧ w.names .descriptorPool pool ≠ 0
  | .submit q =>
    q.Whole ∧ q.Finds w.queueOf w.names ∧
      Machine.reaches D q.opcode.functions (w.queueDevice q.queue.toNat) = true

end World

/-! ### The world that a session's tables stand for -/

namespace Machine

variable {σ : Type} (s : Machine σ)

def world : World σ where
  driver := s.driver
  device := s.tables.devices.get
  queue := s.tables.queues.get
  queueDevice := s.tables.queues.owner
  objects kind := (s.tables.shelf (placeOf kind)).entry
  issued kind := (s.tables.shelf (placeOf kind)).slots.length
  commandBufferDevice := s.tables.commandBufferDevices
  setOwner := s.tables.descriptorSetOwners
  errors := s.errors

/-- The handler that destroys a conversion looks into the side map for its device. -/
def Noted : Prop :=
  ∀ id native device, s.tables.samplerYcbcrConversions.entry id = some (native, some device) →
    s.tables.samplerYcbcrConversionOwners id = some device

end Machine

end VkRemote.Commands
