import VulkanRemote.Server.Lanes
import VulkanRemote.Server.Scheduling

/-! A worker uses no object that was passed to a `vkDestroy` call, as long as no request destroys what an
outstanding wait uses. The end of a session is safe without that: the workers are gone by then. -/

namespace VkRemote.Server.Lanes

open Lib Wire

/-- No driver call of a worker comes after the end of an object it uses. -/
def Safe (log : List Entry) : Prop :=
  ∀ pre o post, log = pre ++ .destroyed o :: post → ∀ os, Entry.called os ∈ post → o ∉ os

theorem safe_nil : Safe [] := fun pre o post h => by simp at h

theorem Safe.call {log : List Entry} (h : Safe log) {os : List Native} (hos : ∀ o ∈ os, .destroyed o ∉ log) :
    Safe (log ++ [.called os]) := by
  intro pre o post heq os' hos'
  rcases List.eq_nil_or_concat post with rfl | ⟨post', e, rfl⟩
  · cases hos'
  · rw [List.concat_eq_append, ← List.cons_append, ← List.append_assoc] at heq
    obtain ⟨hlog, he⟩ := List.append_inj' heq rfl
    rw [List.concat_eq_append, List.mem_append] at hos'
    rcases hos' with hos' | hos'
    · exact h pre o post' hlog os' hos'
    · have hcalled := (List.mem_singleton.1 hos').trans (List.singleton_inj.1 he).symm
      obtain rfl := Entry.called.inj hcalled
      intro ho
      refine hos o ho ?_
      rw [hlog]
      exact List.mem_append_right _ List.mem_cons_self

theorem Safe.destroy {log : List Entry} (h : Safe log) (os : List Native) :
    Safe (log ++ os.map .destroyed) := by
  induction os generalizing log with
  | nil =>
    rw [List.map_nil, List.append_nil]
    exact h
  | cons o os ih =>
    have hone : Safe (log ++ [.destroyed o]) := by
      intro pre o' post heq os' hos'
      rcases List.eq_nil_or_concat post with rfl | ⟨post', e, rfl⟩
      · cases hos'
      · rw [List.concat_eq_append, ← List.cons_append, ← List.append_assoc] at heq
        obtain ⟨hlog, he⟩ := List.append_inj' heq rfl
        rw [List.concat_eq_append, List.mem_append] at hos'
        rcases hos' with hos' | hos'
        · exact h pre o' post' hlog os' hos'
        · have hne := (List.mem_singleton.1 hos').trans (List.singleton_inj.1 he).symm
          cases hne
    rw [List.map_cons, ← List.singleton_append, ← List.append_assoc]
    exact ih hone

/-- A table names each object once, and none that is destroyed or not made yet. -/
structure Kept (mk : ℕ → Native) (t : Table ℕ ℕ) (created : ℕ) (log : List Entry) : Prop where
  nodup : t.values.Nodup
  alive : ∀ n ∈ t.values, .destroyed (mk n) ∉ log
  made : ∀ n ∈ t.values, n < created

section Kept

variable {mk : ℕ → Native} {t t' : Table ℕ ℕ} {created : ℕ} {log : List Entry}

theorem Kept.mono (h : Kept mk t created log) : Kept mk t (created + 1) log :=
  ⟨h.nodup, h.alive, fun n hn => Nat.lt_succ_of_lt (h.made n hn)⟩

theorem Kept.add (h : Kept mk t created log) (hnew : .destroyed (mk created) ∉ log) (owner : Option ℕ) :
    Kept mk (t.add (some created) owner).1 (created + 1) log := by
  refine ⟨?_, fun n hn => ?_, fun n hn => ?_⟩
  · rw [Table.values_add]
    refine List.nodup_append'.2 ⟨h.nodup, List.nodup_singleton _, fun n hn hmem => ?_⟩
    obtain rfl := List.mem_singleton.1 hmem
    exact absurd (h.made _ hn) (lt_irrefl _)
  · rw [Table.values_add, List.mem_append, List.mem_singleton] at hn
    rcases hn with hn | rfl
    · exact h.alive n hn
    · exact hnew
  · rw [Table.values_add, List.mem_append, List.mem_singleton] at hn
    rcases hn with hn | rfl
    · exact Nat.lt_succ_of_lt (h.made n hn)
    · exact Nat.lt_succ_self _

theorem Kept.clear (h : Kept mk t created log) (hclear : Table.Clears t.slots t'.slots) :
    Kept mk t' created log := by
  have hsub : t'.values.Sublist t.values := hclear.sublist
  exact ⟨h.nodup.sublist hsub, fun n hn => h.alive n (hsub.subset hn), fun n hn => h.made n (hsub.subset hn)⟩

theorem Kept.call (h : Kept mk t created log) (os : List Native) :
    Kept mk t created (log ++ [.called os]) :=
  ⟨h.nodup, fun n hn hmem => h.alive n hn (by simpa using hmem), h.made⟩

theorem Kept.destroy (h : Kept mk t created log) {os : List Native} (hos : ∀ n ∈ t.values, mk n ∉ os) :
    Kept mk t created (log ++ os.map .destroyed) :=
  ⟨h.nodup, fun n hn hmem => by
    rcases List.mem_append.1 hmem with hmem | hmem
    · exact h.alive n hn hmem
    · obtain ⟨o, ho, heq⟩ := List.mem_map.1 hmem
      exact hos n hn (Entry.destroyed.inj heq ▸ ho), h.made⟩

end Kept

/-! ### What every step keeps -/

structure Inv (s : Lanes) : Prop where
  pool : RequestWorkers.Inv s.workers
  devices : Kept .device s.devices s.created s.log
  fences : Kept .fence s.fences s.created s.log
  semaphores : Kept .semaphore s.semaphores s.created s.log
  queues : ∀ q o, (some q, o) ∈ s.queues.slots → o = some q.device ∧ .destroyed (.device q.device) ∉ s.log
  numbered : ∀ o, .destroyed o ∈ s.log → o.number < s.created
  jobs : s.tornDown = false → ∀ j ∈ s.workers.accepted, j.ticket ∉ s.returned →
    ∀ o ∈ j.run.uses, .destroyed o ∉ s.log
  ended : s.left = true → s.workers.stopping = true
  torn : s.tornDown = true → s.left = true ∧ s.workers.running = []
  safe : Safe s.log

/-- What a request passes to `vkDestroy` calls. -/
def dooms (s : Lanes) : LaneRequest → List Native
  | .destroyDevice payload =>
    let (id, r) := (Reader.mk payload false).handle
    match s.devices.get id.toNat with
    | some device => if r.ok then s.deviceObjects device else []
    | none => []
  | .destroyFence payload =>
    let (deviceId, r) := (Reader.mk payload false).handle
    let (id, r) := r.handle
    if r.ok ∧ (s.devices.get deviceId.toNat).isSome then (s.fences.get id.toNat).toList.map .fence else []
  | .destroySemaphore payload =>
    let (deviceId, r) := (Reader.mk payload false).handle
    let (id, r) := r.handle
    if r.ok ∧ (s.devices.get deviceId.toNat).isSome then (s.semaphores.get id.toNat).toList.map .semaphore
    else []
  | _ => []

/-- No request destroys what an accepted wait that has not returned uses. -/
def Spares (s : Lanes) : Action → Prop
  | .request r => ∀ j ∈ s.workers.accepted, j.ticket ∉ s.returned → ∀ o ∈ j.run.uses, o ∉ s.dooms r
  | _ => True

theorem inv_initial : Inv {} where
  pool := RequestWorkers.inv_initial
  devices := ⟨List.nodup_nil, by simp [Table.values], by simp [Table.values]⟩
  fences := ⟨List.nodup_nil, by simp [Table.values], by simp [Table.values]⟩
  semaphores := ⟨List.nodup_nil, by simp [Table.values], by simp [Table.values]⟩
  queues q o h := by cases h
  numbered o h := by cases h
  jobs _ j h := by cases h
  ended h := by cases h
  torn h := by cases h
  safe := safe_nil

section Steps

variable {s s' : Lanes}

theorem Inv.fresh (inv : Inv s) {o : Native} (ho : o.number = s.created) : .destroyed o ∉ s.log :=
  fun hmem => absurd (inv.numbered o hmem) (by omega)

/-- Objects leave the tables and are destroyed. -/
theorem Inv.destroy (inv : Inv s) {os : List Native} {devices fences semaphores : Table ℕ ℕ}
    {queues : Table ℕ NativeQueue} (hd : Table.Clears s.devices.slots devices.slots)
    (hf : Table.Clears s.fences.slots fences.slots) (hs : Table.Clears s.semaphores.slots semaphores.slots)
    (hq : Table.Clears s.queues.slots queues.slots) (hdevice : ∀ n ∈ devices.values, .device n ∉ os)
    (hfence : ∀ n ∈ fences.values, .fence n ∉ os) (hsemaphore : ∀ n ∈ semaphores.values, .semaphore n ∉ os)
    (hqueue : ∀ q o, (some q, o) ∈ queues.slots → .device q.device ∉ os)
    (hmade : ∀ o ∈ os, o.number < s.created)
    (hspared : s.tornDown = false → ∀ j ∈ s.workers.accepted, j.ticket ∉ s.returned → ∀ o ∈ j.run.uses, o ∉ os) :
    Inv { s with
      devices := devices
      fences := fences
      semaphores := semaphores
      queues := queues
      log := s.log ++ os.map .destroyed } := by
  have hended : ∀ o, .destroyed o ∈ s.log ++ os.map .destroyed → .destroyed o ∈ s.log ∨ o ∈ os := by
    intro o hmem
    refine (List.mem_append.1 hmem).imp_right fun hmem => ?_
    obtain ⟨o', ho', heq⟩ := List.mem_map.1 hmem
    exact Entry.destroyed.inj heq ▸ ho'
  refine ⟨inv.pool, (inv.devices.clear hd).destroy hdevice, (inv.fences.clear hf).destroy hfence,
    (inv.semaphores.clear hs).destroy hsemaphore, fun q o hmem => ?_, fun o hmem => ?_,
    fun htorn j hj hret o ho hmem => ?_, inv.ended, inv.torn, inv.safe.destroy os⟩
  · obtain ⟨howner, halive⟩ := inv.queues q o (hq.mem hmem)
    exact ⟨howner, fun hdead => (hended _ hdead).elim halive (hqueue q o hmem)⟩
  · exact (hended o hmem).elim (inv.numbered o) (hmade o)
  · exact (hended o hmem).elim (inv.jobs htorn j hj hret o ho) (hspared htorn j hj hret o ho)

theorem inv_destroyDeviceObjects (inv : Inv s) {device : ℕ} {devices : Table ℕ ℕ}
    (hd : Table.Clears s.devices.slots devices.slots) (hgone : device ∉ devices.values)
    (hmade : device < s.created)
    (hspared : s.tornDown = false → ∀ j ∈ s.workers.accepted, j.ticket ∉ s.returned →
      ∀ o ∈ j.run.uses, o ∉ s.deviceObjects device) :
    Inv (destroyDeviceObjects { s with devices := devices } device) := by
  refine inv.destroy hd (Table.clears_takeOwned _ _) (Table.clears_takeOwned _ _) (Table.clears_takeOwned _ _)
    (fun n hn hmem => ?_) (fun n hn hmem => ?_) (fun n hn hmem => ?_)
    (fun q o hmem hdead => ?_) (fun o ho => ?_) hspared
  · have heq : n = device := by simpa [deviceObjects] using hmem
    exact hgone (heq ▸ hn)
  · have htaken : n ∈ (s.fences.takeOwned device).1 := by simpa [deviceObjects] using hmem
    exact Table.takeOwned_gone inv.fences.nodup htaken hn
  · have htaken : n ∈ (s.semaphores.takeOwned device).1 := by simpa [deviceObjects] using hmem
    exact Table.takeOwned_gone inv.semaphores.nodup htaken hn
  · have heq : q.device = device := by simpa [deviceObjects] using hdead
    have howner := (inv.queues q o ((Table.clears_takeOwned _ _).mem hmem)).1
    exact Table.owner_takeOwned hmem (howner.trans (congrArg some heq))
  · unfold deviceObjects at ho
    rw [List.mem_append, List.mem_append, List.mem_map, List.mem_map, List.mem_singleton] at ho
    rcases ho with (⟨n, hn, rfl⟩ | ⟨n, hn, rfl⟩) | rfl
    · exact inv.fences.made n (Table.mem_values.2 ⟨_, Table.mem_takeOwned.1 hn⟩)
    · exact inv.semaphores.made n (Table.mem_values.2 ⟨_, Table.mem_takeOwned.1 hn⟩)
    · exact hmade

/-- A single object leaves its table. -/
theorem Inv.destroyFence (inv : Inv s) (id : ℕ) {os : List Native}
    (hos : ∀ o ∈ os, ∃ n, s.fences.get id = some n ∧ o = .fence n)
    (hspared : s.tornDown = false → ∀ j ∈ s.workers.accepted, j.ticket ∉ s.returned → ∀ o ∈ j.run.uses, o ∉ os) :
    Inv { s with fences := (s.fences.take id).2, log := s.log ++ os.map .destroyed } := by
  refine inv.destroy (.refl _) (Table.clears_take _ _) (.refl _) (.refl _) (fun n hn hmem => ?_)
    (fun n hn hmem => ?_) (fun n hn hmem => ?_) (fun q o hmem hdead => ?_) (fun o ho => ?_) hspared
  · obtain ⟨m, -, heq⟩ := hos _ hmem
    cases heq
  · obtain ⟨m, hget, heq⟩ := hos _ hmem
    obtain rfl := Native.fence.inj heq
    exact Table.take_gone inv.fences.nodup hget hn
  · obtain ⟨m, -, heq⟩ := hos _ hmem
    cases heq
  · obtain ⟨m, -, heq⟩ := hos _ hdead
    cases heq
  · obtain ⟨m, hget, rfl⟩ := hos o ho
    exact inv.fences.made m (Table.mem_values_of_get hget)

theorem Inv.destroySemaphore (inv : Inv s) (id : ℕ) {os : List Native}
    (hos : ∀ o ∈ os, ∃ n, s.semaphores.get id = some n ∧ o = .semaphore n)
    (hspared : s.tornDown = false → ∀ j ∈ s.workers.accepted, j.ticket ∉ s.returned → ∀ o ∈ j.run.uses, o ∉ os) :
    Inv { s with semaphores := (s.semaphores.take id).2, log := s.log ++ os.map .destroyed } := by
  refine inv.destroy (.refl _) (.refl _) (Table.clears_take _ _) (.refl _) (fun n hn hmem => ?_)
    (fun n hn hmem => ?_) (fun n hn hmem => ?_) (fun q o hmem hdead => ?_) (fun o ho => ?_) hspared
  · obtain ⟨m, -, heq⟩ := hos _ hmem
    cases heq
  · obtain ⟨m, -, heq⟩ := hos _ hmem
    cases heq
  · obtain ⟨m, hget, heq⟩ := hos _ hmem
    obtain rfl := Native.semaphore.inj heq
    exact Table.take_gone inv.semaphores.nodup hget hn
  · obtain ⟨m, -, heq⟩ := hos _ hdead
    cases heq
  · obtain ⟨m, hget, rfl⟩ := hos o ho
    exact inv.semaphores.made m (Table.mem_values_of_get hget)

theorem inv_createDevice (inv : Inv s) (made : Bool) : Inv (s.handleCreateDevice made) := by
  unfold handleCreateDevice
  split
  · exact ⟨inv.pool, inv.devices.add (inv.fresh rfl) none, inv.fences.mono, inv.semaphores.mono, inv.queues,
      fun o ho => Nat.lt_succ_of_lt (inv.numbered o ho), inv.jobs, inv.ended, inv.torn, inv.safe⟩
  · exact inv

theorem inv_createFence (inv : Inv s) (payload : List UInt8) (made : Bool) :
    Inv (s.handleCreateFence payload made) := by
  unfold handleCreateFence
  dsimp only
  split
  · split
    · exact ⟨inv.pool, inv.devices.mono, inv.fences.add (inv.fresh rfl) _, inv.semaphores.mono, inv.queues,
        fun o ho => Nat.lt_succ_of_lt (inv.numbered o ho), inv.jobs, inv.ended, inv.torn, inv.safe⟩
    · exact inv
  · exact inv

theorem inv_createSemaphore (inv : Inv s) (payload : List UInt8) (made : Bool) :
    Inv (s.handleCreateSemaphore payload made) := by
  unfold handleCreateSemaphore
  dsimp only
  split
  · split
    · exact ⟨inv.pool, inv.devices.mono, inv.fences.mono, inv.semaphores.add (inv.fresh rfl) _, inv.queues,
        fun o ho => Nat.lt_succ_of_lt (inv.numbered o ho), inv.jobs, inv.ended, inv.torn, inv.safe⟩
    · exact inv
  · exact inv

theorem mem_addUnique {t : Table ℕ NativeQueue} {value : Option NativeQueue} {owner o : Option ℕ} {q : NativeQueue}
    (h : (some q, o) ∈ (t.addUnique value owner).1.slots) :
    (some q, o) ∈ t.slots ∨ value = some q ∧ o = owner := by
  unfold Table.addUnique at h
  split at h
  · exact .inl h
  · rcases List.mem_append.1 h with h | h
    · exact .inl h
    · obtain ⟨hvalue, howner⟩ := Prod.mk.inj (List.mem_singleton.1 h)
      exact .inr ⟨hvalue.symm, howner⟩

theorem Inv.addQueue (inv : Inv s) {device id : ℕ} (hget : s.devices.get id = some device)
    {value : Option NativeQueue} (hvalue : ∀ q, value = some q → q.device = device) :
    Inv { s with queues := (s.queues.addUnique value (some device)).1 } := by
  refine ⟨inv.pool, inv.devices, inv.fences, inv.semaphores, fun q o hmem => ?_, inv.numbered, inv.jobs,
    inv.ended, inv.torn, inv.safe⟩
  rcases mem_addUnique hmem with hold | ⟨hnew, rfl⟩
  · exact inv.queues q o hold
  · have hdevice := hvalue q hnew
    exact ⟨congrArg some hdevice.symm, hdevice ▸ inv.devices.alive device (Table.mem_values_of_get hget)⟩

theorem inv_getDeviceQueue (inv : Inv s) (payload : List UInt8) (found : Bool) :
    Inv (s.handleGetDeviceQueue payload found) := by
  unfold handleGetDeviceQueue
  dsimp only
  split
  · next device hget =>
    split
    · refine inv.addQueue hget fun q hq => ?_
      split at hq
      · exact (Option.some.inj hq) ▸ rfl
      · cases hq
    · exact inv
  · exact inv

theorem inv_getDeviceQueue2 (inv : Inv s) (payload : List UInt8) (found : Bool) :
    Inv (s.handleGetDeviceQueue2 payload found) := by
  unfold handleGetDeviceQueue2
  dsimp only
  split
  · next device hget =>
    split
    · exact inv.addQueue hget fun q hq => (Option.some.inj hq) ▸ rfl
    · exact inv
  · exact inv

theorem inv_destroyDevice (inv : Inv s) {payload : List UInt8}
    (hspared : Spares s (.request (.destroyDevice payload))) : Inv (s.handleDestroyDevice payload) := by
  have htaken : ∀ id, Inv { s with devices := (s.devices.take id).2 } := fun id =>
    ⟨inv.pool, inv.devices.clear (Table.clears_take _ _), inv.fences, inv.semaphores, inv.queues, inv.numbered,
      inv.jobs, inv.ended, inv.torn, inv.safe⟩
  unfold handleDestroyDevice
  unfold Spares dooms at hspared
  dsimp only at hspared ⊢
  rw [Table.take_fst]
  cases hget : s.devices.get (Reader.mk payload false).handle.1.toNat with
  | none => exact htaken _
  | some device =>
    rw [hget] at hspared
    dsimp only at hspared ⊢
    split
    · next hok =>
      rw [if_pos hok] at hspared
      exact inv_destroyDeviceObjects inv (Table.clears_take _ _) (Table.take_gone inv.devices.nodup hget)
        (inv.devices.made device (Table.mem_values_of_get hget)) fun _ => hspared
    · exact htaken _

theorem inv_destroyFence (inv : Inv s) {payload : List UInt8}
    (hspared : Spares s (.request (.destroyFence payload))) : Inv (s.handleDestroyFence payload) := by
  unfold handleDestroyFence
  unfold Spares dooms at hspared
  dsimp only at hspared ⊢
  rw [Table.take_fst]
  split
  · next hvalid =>
    rw [if_pos hvalid] at hspared
    refine inv.destroyFence _ (fun o ho => ?_) fun _ => hspared
    obtain ⟨n, hn, rfl⟩ := List.mem_map.1 ho
    exact ⟨n, Option.mem_toList.1 hn, rfl⟩
  · exact ⟨inv.pool, inv.devices, inv.fences.clear (Table.clears_take _ _), inv.semaphores, inv.queues,
      inv.numbered, inv.jobs, inv.ended, inv.torn, inv.safe⟩

theorem inv_destroySemaphore (inv : Inv s) {payload : List UInt8}
    (hspared : Spares s (.request (.destroySemaphore payload))) : Inv (s.handleDestroySemaphore payload) := by
  unfold handleDestroySemaphore
  unfold Spares dooms at hspared
  dsimp only at hspared ⊢
  rw [Table.take_fst]
  split
  · next hvalid =>
    rw [if_pos hvalid] at hspared
    refine inv.destroySemaphore _ (fun o ho => ?_) fun _ => hspared
    obtain ⟨n, hn, rfl⟩ := List.mem_map.1 ho
    exact ⟨n, Option.mem_toList.1 hn, rfl⟩
  · exact ⟨inv.pool, inv.devices, inv.fences, inv.semaphores.clear (Table.clears_take _ _), inv.queues,
      inv.numbered, inv.jobs, inv.ended, inv.torn, inv.safe⟩

theorem Inv.enqueue (inv : Inv s) (hleft : s.left = false) {requestId lane : ℕ} {wait : Wait}
    (huses : ∀ o ∈ wait.uses, .destroyed o ∉ s.log) : Inv (s.enqueue requestId wait lane) := by
  by_cases hacc : RequestWorkers.Accepts s.workers requestId
  · refine ⟨RequestWorkers.inv_submit inv.pool _ _ _, inv.devices, inv.fences, inv.semaphores, inv.queues,
      inv.numbered, fun htorn j hj hret o ho => ?_, fun h => absurd (hleft.symm.trans h) Bool.false_ne_true,
      fun h => absurd (hleft.symm.trans (inv.torn h).1) Bool.false_ne_true, inv.safe⟩
    unfold Lanes.enqueue at hj
    dsimp only at hj
    rw [RequestWorkers.submit_accepted lane wait hacc, List.mem_append, List.mem_singleton] at hj
    rcases hj with hj | rfl
    · exact inv.jobs htorn j hj hret o ho
    · exact huses o ho
  · unfold Lanes.enqueue
    rw [RequestWorkers.submit_refused _ _ hacc]
    exact inv

theorem Inv.device_alive (inv : Inv s) {id device : ℕ} (h : s.devices.get id = some device) :
    .destroyed (.device device) ∉ s.log :=
  inv.devices.alive device (Table.mem_values_of_get h)

theorem readFences_values {t : Table ℕ ℕ} {n : ℕ} {r : Reader} {fences : List ℕ}
    (h : (readFences t n r).1 = some fences) : ∀ f ∈ fences, f ∈ t.values := by
  induction n generalizing r fences with
  | zero =>
    obtain rfl := Option.some.inj h
    simp
  | succ n ih =>
    unfold readFences at h
    dsimp only at h
    split at h
    · cases h
    · next fence hget =>
      obtain ⟨rest, hrest, rfl⟩ := Option.map_eq_some_iff.1 h
      intro f hf
      rcases List.mem_cons.1 hf with rfl | hf
      · exact Table.mem_values_of_get hget
      · exact ih hrest f hf

theorem readSemaphores_values {t : Table ℕ ℕ} {n : ℕ} {r : Reader} {semaphores : List (ℕ × UInt64)}
    (h : (readSemaphores t n r).1 = some semaphores) : ∀ p ∈ semaphores, p.1 ∈ t.values := by
  induction n generalizing r semaphores with
  | zero =>
    obtain rfl := Option.some.inj h
    simp
  | succ n ih =>
    unfold readSemaphores at h
    dsimp only at h
    split at h
    · cases h
    · next semaphore hget =>
      obtain ⟨rest, hrest, rfl⟩ := Option.map_eq_some_iff.1 h
      intro p hp
      rcases List.mem_cons.1 hp with rfl | hp
      · exact Table.mem_values_of_get hget
      · exact ih hrest p hp

theorem inv_queueWaitIdle (inv : Inv s) (hleft : s.left = false) (lane : NativeQueue → ℕ) (requestId : ℕ)
    (payload : List UInt8) : Inv (s.serveQueueWaitIdle lane requestId payload) := by
  unfold serveQueueWaitIdle
  dsimp only
  split
  · next queue hget =>
    split
    · refine inv.enqueue hleft fun o ho => ?_
      obtain ⟨owner, hslot⟩ := Table.mem_of_get hget
      obtain rfl := List.mem_singleton.1 ho
      exact (inv.queues queue owner hslot).2
    · exact inv
  · exact inv

theorem inv_deviceWaitIdle (inv : Inv s) (hleft : s.left = false) (requestId : ℕ) (payload : List UInt8) :
    Inv (s.serveDeviceWaitIdle requestId payload) := by
  unfold serveDeviceWaitIdle
  dsimp only
  split
  · next device hget =>
    split
    · refine inv.enqueue hleft fun o ho => ?_
      obtain rfl := List.mem_singleton.1 ho
      exact inv.device_alive hget
    · exact inv
  · exact inv

theorem inv_waitForFences (inv : Inv s) (hleft : s.left = false) (requestId : ℕ) (payload : List UInt8) :
    Inv (s.serveWaitForFences requestId payload) := by
  unfold serveWaitForFences
  dsimp only
  split
  · next device hget =>
    split
    · split
      · next fences r hread =>
        split
        · refine inv.enqueue hleft fun o ho => ?_
          rcases List.mem_cons.1 ho with rfl | ho
          · exact inv.device_alive hget
          · obtain ⟨f, hf, rfl⟩ := List.mem_map.1 ho
            exact inv.fences.alive f (readFences_values (congrArg Prod.fst hread) f hf)
        · exact inv
      · exact inv
    · exact inv
  · exact inv

theorem inv_waitSemaphores (inv : Inv s) (hleft : s.left = false) (requestId : ℕ) (payload : List UInt8)
    (found : Bool) : Inv (s.serveWaitSemaphores requestId payload found) := by
  unfold serveWaitSemaphores
  split
  · exact inv
  · dsimp only
    split
    · next device hget =>
      split
      · split
        · next semaphores r hread =>
          split
          · refine inv.enqueue hleft fun o ho => ?_
            rcases List.mem_cons.1 ho with rfl | ho
            · exact inv.device_alive hget
            · obtain ⟨p, hp, rfl⟩ := List.mem_map.1 ho
              exact inv.semaphores.alive p.1 (readSemaphores_values (congrArg Prod.fst hread) p hp)
          · exact inv
        · exact inv
      · exact inv
    · exact inv

theorem inv_serve (inv : Inv s) (hleft : s.left = false) (lane : NativeQueue → ℕ) (r : LaneRequest)
    (hspared : Spares s (.request r)) : Inv (s.serve lane r) := by
  cases r with
  | createDevice made => exact inv_createDevice inv made
  | destroyDevice payload => exact inv_destroyDevice inv hspared
  | getDeviceQueue payload found => exact inv_getDeviceQueue inv payload found
  | getDeviceQueue2 payload found => exact inv_getDeviceQueue2 inv payload found
  | createFence payload made => exact inv_createFence inv payload made
  | destroyFence payload => exact inv_destroyFence inv hspared
  | createSemaphore payload made => exact inv_createSemaphore inv payload made
  | destroySemaphore payload => exact inv_destroySemaphore inv hspared
  | queueWaitIdle requestId payload => exact inv_queueWaitIdle inv hleft lane requestId payload
  | deviceWaitIdle requestId payload => exact inv_deviceWaitIdle inv hleft requestId payload
  | waitForFences requestId payload => exact inv_waitForFences inv hleft requestId payload
  | waitSemaphores requestId payload found => exact inv_waitSemaphores inv hleft requestId payload found

/-- The session is not torn down while a job runs. -/
theorem Inv.not_torn (inv : Inv s) {i : ℕ} {job : Job Wait} (hi : s.workers.running[i]? = some job) :
    s.tornDown = false := by
  by_contra hno
  rw [(inv.torn (by simpa using hno)).2] at hi
  cases hi

/-- A job returns. -/
theorem Inv.return (inv : Inv s) (ticket : ℕ) (closing : Bool) :
    Inv { s with returned := insert ticket s.returned, closing := closing } :=
  ⟨inv.pool, inv.devices, inv.fences, inv.semaphores, inv.queues, inv.numbered,
    fun htorn j hj hret => inv.jobs htorn j hj fun hmem => hret (Finset.mem_insert_of_mem hmem), inv.ended,
    inv.torn, inv.safe⟩

theorem Inv.call (inv : Inv s) {os : List Native} (hos : ∀ o ∈ os, .destroyed o ∉ s.log) :
    Inv { s with log := s.log ++ [.called os] } := by
  have hsame : ∀ o, .destroyed o ∈ s.log ++ [.called os] → .destroyed o ∈ s.log := fun o hmem => by
    simpa using hmem
  exact ⟨inv.pool, inv.devices.call os, inv.fences.call os, inv.semaphores.call os,
    fun q o hmem => ⟨(inv.queues q o hmem).1, fun hdead => (inv.queues q o hmem).2 (hsame _ hdead)⟩,
    fun o hmem => inv.numbered o (hsame o hmem),
    fun htorn j hj hret o ho hmem => inv.jobs htorn j hj hret o ho (hsame o hmem), inv.ended, inv.torn,
    inv.safe.call hos⟩

theorem inv_slice (inv : Inv s) {i : ℕ} {job : Job Wait} (hi : s.workers.running[i]? = some job)
    (hret : job.ticket ∉ s.returned) (again : Bool) : Inv (s.slice job again) := by
  have hjob : job ∈ s.workers.accepted :=
    inv.pool.started_subset (inv.pool.mem_started.2 (.inl (List.mem_of_getElem? hi)))
  have hcall := inv.call (inv.jobs (inv.not_torn hi) job hjob hret)
  unfold slice
  split
  · exact inv.return job.ticket s.closing
  · dsimp only
    split
    · exact hcall
    · exact hcall.return job.ticket s.closing

/-- The pool goes on without accepting anything. -/
theorem Inv.move (inv : Inv s) {w : RequestWorkers Wait} (hpool : RequestWorkers.Inv w)
    (haccepted : w.accepted = s.workers.accepted) (hstop : s.left = true → w.stopping = true)
    (htorn : s.tornDown = true → w.running = []) : Inv { s with workers := w } :=
  ⟨hpool, inv.devices, inv.fences, inv.semaphores, inv.queues, inv.numbered,
    fun h j hj => inv.jobs h j (haccepted ▸ hj), hstop, fun h => ⟨(inv.torn h).1, htorn h⟩, inv.safe⟩

theorem inv_file (inv : Inv s) {i : ℕ} {job : Job Wait} (hi : s.workers.running[i]? = some job)
    {w : RequestWorkers Wait} (hw : s.workers.file i = some w) : Inv { s with workers := w } := by
  have hstill : w.stopping = s.workers.stopping := by
    obtain ⟨j, -, rfl⟩ := RequestWorkers.file_cases hw
    rcases RequestWorkers.handOver_cases (s.workers.retire i j) j.lane with ⟨-, heq⟩ | ⟨-, next, rest, -, heq⟩ |
      ⟨-, -, heq⟩ <;> rw [heq] <;> rfl
  refine inv.move (RequestWorkers.inv_file inv.pool hw) (RequestWorkers.file_accepted hw)
    (fun h => hstill.trans (inv.ended h)) fun h => ?_
  exact absurd ((inv.not_torn hi).symm.trans h) Bool.false_ne_true

theorem inv_tearDown (inv : Inv s) (hleft : s.left = true) (hrunning : s.workers.running = []) :
    Inv (destroySessionObjects { s with tornDown := true }) := by
  have hfold : ∀ (ds : List ℕ) (s : Lanes), (∀ d ∈ ds, d < s.created) → s.devices.values = [] →
      s.tornDown = true → Inv s → Inv (ds.foldl destroyDeviceObjects s) := by
    intro ds
    induction ds with
    | nil => exact fun s _ _ _ inv => inv
    | cons d ds ih =>
      intro s hmade hvalues htorn inv
      refine ih _ (fun d' hd' => hmade d' (List.mem_cons_of_mem _ hd')) hvalues htorn ?_
      exact inv_destroyDeviceObjects inv (.refl _) (hvalues ▸ List.not_mem_nil) (hmade d List.mem_cons_self)
        fun hno => absurd (hno.symm.trans htorn) Bool.false_ne_true
  have hempty : (s.devices.takeAll.2).values = [] := by
    rw [Table.values, Table.takeAll, List.filterMap_eq_nil_iff]
    intro slot hslot
    obtain ⟨-, -, rfl⟩ := List.mem_map.1 hslot
    rfl
  have hkept : Kept .device s.devices.takeAll.2 s.created s.log := by
    refine ⟨hempty ▸ List.nodup_nil, ?_, ?_⟩ <;> rw [hempty] <;> exact fun n hn => by cases hn
  refine hfold _ _ (fun d hd => inv.devices.made d hd) hempty rfl ?_
  exact ⟨inv.pool, hkept, inv.fences, inv.semaphores, inv.queues, inv.numbered, fun h => Bool.noConfusion h,
    inv.ended, fun _ => ⟨hleft, hrunning⟩, inv.safe⟩

theorem inv_step (lane : NativeQueue → ℕ) (a : Action) (inv : Inv s) (hspared : Spares s a)
    (h : step lane s a = some s') : Inv s' := by
  cases a with
  | request r =>
    unfold step at h
    dsimp only at h
    split at h
    · cases h
    · next hleft =>
      obtain rfl := Option.some.inj h
      exact inv_serve inv (Bool.eq_false_iff.2 hleft) lane r hspared
  | take =>
    obtain ⟨w, hw, rfl⟩ := Option.map_eq_some_iff.1 h
    have hopen := (RequestWorkers.take_cases hw).1
    refine inv.move (RequestWorkers.inv_take inv.pool hw) (RequestWorkers.take_accepted hw) (fun hl => ?_)
      fun ht => ?_
    · exact absurd (hopen.symm.trans (inv.ended hl)) Bool.false_ne_true
    · exact absurd (hopen.symm.trans (inv.ended (inv.torn ht).1)) Bool.false_ne_true
  | slice i again =>
    unfold step at h
    dsimp only at h
    split at h
    · cases h
    · next job hi =>
      split at h
      · cases h
      · next hret =>
        obtain rfl := Option.some.inj h
        exact inv_slice inv hi hret again
  | raise i =>
    unfold step at h
    dsimp only at h
    split at h
    · cases h
    · next job hi =>
      split at h
      · cases h
      · obtain rfl := Option.some.inj h
        exact inv.return job.ticket true
  | file i =>
    unfold step at h
    dsimp only at h
    split at h
    · cases h
    · next job hi =>
      split at h
      · obtain ⟨w, hw, rfl⟩ := Option.map_eq_some_iff.1 h
        exact inv_file inv hi hw
      · cases h
  | leave =>
    unfold step at h
    dsimp only at h
    split at h
    · cases h
    · next hleft =>
      obtain rfl := Option.some.inj h
      have hstop : s.workers.stop.stopping = true := by
        unfold RequestWorkers.stop
        split
        · next hs => exact hs
        · rfl
      have hnot : s.tornDown = true → s.workers.stop.running = [] := fun ht => absurd (inv.torn ht).1 hleft
      exact ⟨RequestWorkers.inv_stop inv.pool, inv.devices, inv.fences, inv.semaphores, inv.queues, inv.numbered,
        fun ht j hj => inv.jobs ht j (RequestWorkers.stop_accepted s.workers ▸ hj), fun _ => hstop,
        fun ht => ⟨rfl, hnot ht⟩, inv.safe⟩
  | tearDown =>
    unfold step at h
    dsimp only at h
    split at h
    · next hdone =>
      obtain rfl := Option.some.inj h
      exact inv_tearDown inv hdone.1 hdone.2.1
    · cases h

end Steps

/-- What a request dooms it does destroy, and nothing of the workers changes. -/
theorem serve_dooms {s : Lanes} (lane : NativeQueue → ℕ) {r : LaneRequest} {o : Native} (ho : o ∈ s.dooms r) :
    .destroyed o ∈ (s.serve lane r).log ∧ (s.serve lane r).workers = s.workers ∧
      (s.serve lane r).returned = s.returned ∧ (s.serve lane r).closing = s.closing := by
  have hlog : ∀ os : List Native, o ∈ os → .destroyed o ∈ s.log ++ os.map .destroyed := fun os h =>
    List.mem_append_right _ (List.mem_map_of_mem h)
  cases r with
  | destroyDevice payload =>
    unfold serve handleDestroyDevice
    unfold dooms at ho
    dsimp only at ho ⊢
    rw [Table.take_fst]
    revert ho
    rcases s.devices.get (Reader.mk payload false).u64.1.toNat with _ | device
    · intro ho
      cases ho
    · intro ho
      dsimp only at ho ⊢
      split at ho
      · next hok =>
        rw [if_pos hok]
        exact ⟨hlog _ ho, rfl, rfl, rfl⟩
      · cases ho
  | destroyFence payload =>
    unfold serve handleDestroyFence
    unfold dooms at ho
    dsimp only at ho ⊢
    rw [Table.take_fst]
    split at ho
    · next hvalid =>
      rw [if_pos hvalid]
      exact ⟨hlog _ ho, rfl, rfl, rfl⟩
    · cases ho
  | destroySemaphore payload =>
    unfold serve handleDestroySemaphore
    unfold dooms at ho
    dsimp only at ho ⊢
    rw [Table.take_fst]
    split at ho
    · next hvalid =>
      rw [if_pos hvalid]
      exact ⟨hlog _ ho, rfl, rfl, rfl⟩
    · cases ho
  | _ => cases ho

/-- A worker that has a wait in hand goes on with what a request has destroyed meanwhile. -/
theorem unspared_unsafe {s : Lanes} (lane : NativeQueue → ℕ) {as : List Action} (h : Run (step lane) {} as s)
    (hleft : s.left = false) (hclosing : s.closing = false) {i : ℕ} {job : Job Wait}
    (hi : s.workers.running[i]? = some job) (hret : job.ticket ∉ s.returned) {r : LaneRequest} {o : Native}
    (huse : o ∈ job.run.uses) (ho : o ∈ s.dooms r) :
    ∃ s', Run (step lane) {} (as ++ [.request r] ++ [.slice i false]) s' ∧ ¬ Safe s'.log := by
  obtain ⟨hdead, hworkers, hreturned, hstill⟩ := serve_dooms lane ho
  have hfirst : step lane s (.request r) = some (s.serve lane r) :=
    if_neg fun hl => Bool.false_ne_true (hleft.symm.trans hl)
  have hsecond : step lane (s.serve lane r) (.slice i false) = some ((s.serve lane r).slice job false) := by
    unfold step
    dsimp only
    rw [hworkers, hi]
    dsimp only
    rw [hreturned, if_neg hret]
  refine ⟨_, (h.snoc hfirst).snoc hsecond, fun hsafe => ?_⟩
  obtain ⟨pre, post, hlog⟩ := List.append_of_mem hdead
  have hslice : ((s.serve lane r).slice job false).log = (s.serve lane r).log ++ [.called job.run.uses] := by
    unfold slice
    rw [hstill, hclosing]
    simp
  rw [hslice, hlog, List.append_assoc, List.cons_append] at hsafe
  exact hsafe pre o _ rfl _ (List.mem_append_right _ (List.mem_singleton_self _)) huse

/-- In a run in which no request destroys what an outstanding wait uses, no worker uses a destroyed object,
whatever the interleaving and wherever the session ends. A request that destroys what a worker is waiting
for breaks this. -/
theorem run_safe_iff_spared (lane : NativeQueue → ℕ) :
    (∀ as s, RunWhere (step lane) Spares {} as s → Safe s.log) ∧
    ∀ as s, Run (step lane) {} as s → s.left = false → s.closing = false →
      ∀ r i job o, s.workers.running[i]? = some job → job.ticket ∉ s.returned → o ∈ job.run.uses →
        o ∈ s.dooms r → ∃ s', Run (step lane) {} (as ++ [.request r] ++ [.slice i false]) s' ∧ ¬ Safe s'.log := by
  refine ⟨fun as s h => ?_, fun as s h hleft hclosing r i job o hi hret huse ho => ?_⟩
  · exact (h.invariant inv_initial fun _ a _ inv hspared hstep => inv_step lane a inv hspared hstep).safe
  · exact unspared_unsafe lane h hleft hclosing hi hret huse ho

instance (s : Lanes) (a : Action) : Decidable (Spares s a) :=
  match a with
  | .request r => inferInstanceAs (Decidable (∀ j ∈ s.workers.accepted, j.ticket ∉ s.returned →
      ∀ o ∈ j.run.uses, o ∉ s.dooms r))
  | .take => .isTrue trivial
  | .slice _ _ => .isTrue trivial
  | .raise _ => .isTrue trivial
  | .file _ => .isTrue trivial
  | .leave => .isTrue trivial
  | .tearDown => .isTrue trivial

/-- The fence 1 of the device 1. -/
def fencePayload : List UInt8 := Writer.handle 1 ++ Writer.handle 1

/-- A wait for the fence without end. -/
def waitPayload : List UInt8 :=
  Writer.handle 1 ++ Writer.u32 1 ++ Writer.u32 1 ++ Writer.handle 1 ++ Writer.u64 0xFFFFFFFFFFFFFFFF

/-- A fence is waited for in one slice that times out. -/
def waiting : List Action :=
  [.request (.createDevice true), .request (.createFence (Writer.handle 1) true),
    .request (.waitForFences 7 waitPayload), .take, .slice 0 true]

/-- The wait is over before the fence is destroyed and the session ends. -/
def orderly : List Action :=
  waiting ++ [.slice 0 false, .file 0, .request (.destroyFence fencePayload), .leave, .tearDown]

theorem run_safe_iff_spared_orderly :
    (∃ s, RunWhere (step fun _ => 1) Spares {} orderly s ∧ Safe s.log ∧ .destroyed (.device 0) ∈ s.log) ∧
    ∃ s', Run (step fun _ => 1) {} (waiting ++ [.request (.destroyFence fencePayload)] ++ [.slice 0 false]) s' ∧
      ¬ Safe s'.log := by
  have horderly : ((runList (checked (step fun _ => 1) Spares) {} orderly).elim false fun s =>
      decide (Entry.destroyed (.device 0) ∈ s.log)) = true := by decide
  have hwaiting : ((runList (step fun _ => 1) {} waiting).elim false fun s =>
      !s.left && !s.closing && decide (Native.fence 1 ∈ s.dooms (.destroyFence fencePayload)) &&
      s.workers.running[0]?.elim false fun job =>
        decide (job.ticket ∉ s.returned ∧ Native.fence 1 ∈ job.run.uses)) = true := by decide
  refine ⟨?_, ?_⟩
  · cases hs : runList (checked (step fun _ => 1) Spares) {} orderly with
    | none =>
      rw [hs] at horderly
      cases horderly
    | some s =>
      rw [hs, Option.elim_some, decide_eq_true_eq] at horderly
      have hrun := runWhere_of_checked hs
      exact ⟨s, hrun, (run_safe_iff_spared fun _ => 1).1 orderly s hrun, horderly⟩
  · cases hs : runList (step fun _ => 1) {} waiting with
    | none =>
      rw [hs] at hwaiting
      cases hwaiting
    | some s =>
      rw [hs, Option.elim_some, Bool.and_eq_true, Bool.and_eq_true, Bool.and_eq_true] at hwaiting
      obtain ⟨⟨⟨hleft, hclosing⟩, hdoomed⟩, hjob⟩ := hwaiting
      cases hi : s.workers.running[0]? with
      | none =>
        rw [hi] at hjob
        cases hjob
      | some job =>
        rw [hi, Option.elim_some, decide_eq_true_eq] at hjob
        exact (run_safe_iff_spared fun _ => 1).2 waiting s (run_of_runList hs) (by simpa using hleft)
          (by simpa using hclosing) _ 0 job (.fence 1) hi hjob.1 hjob.2 (of_decide_eq_true hdoomed)

/-- The fence is destroyed while a worker waits for it in slices. -/
theorem destroyed_fence_used : ¬ ∀ as s, Run (step fun _ => 1) {} as s → Safe s.log := by
  intro hall
  have hlog : (runList (step fun _ => 1) {}
      (waiting ++ [.request (.destroyFence fencePayload), .slice 0 false])).map Lanes.log =
      some [.called [.device 0, .fence 1], .destroyed (.fence 1), .called [.device 0, .fence 1]] := by
    decide
  obtain ⟨s, hs, hsafe⟩ := Option.map_eq_some_iff.1 hlog
  have hbad := hall _ s (run_of_runList hs)
  rw [hsafe] at hbad
  exact hbad [.called [.device 0, .fence 1]] (.fence 1) [.called [.device 0, .fence 1]] rfl _
    List.mem_cons_self (by decide)

end VkRemote.Server.Lanes
