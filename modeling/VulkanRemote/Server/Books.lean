import VulkanRemote.Server.Teardown

/-! The ledger of a session over whole runs: an id lives once, what is in a table belongs to a device that is there,
and a device goes last. -/

namespace VkRemote.Server

open Lib Wire Marshal

variable {H : Type}

/-! ### What comes in -/

/-- Objects of one owner have been put at the end of one table. -/
structure Extends (t t' : ObjectTables H) (s : Shelf) (owner : Option H) : Prop where
  self : ∃ objects : List (Option H), (t'.shelf s).slots = (t.shelf s).slots ++ objects.map (·, owner)
  others : ∀ s' ≠ s, t'.shelf s' = t.shelf s'

namespace Extends

variable {t t' t'' : ObjectTables H} {s : Shelf} {owner : Option H}

theorem refl (t : ObjectTables H) (s : Shelf) (owner : Option H) : Extends t t s owner :=
  ⟨⟨[], (List.append_nil _).symm⟩, fun _ _ => rfl⟩

theorem trans (h : Extends t t' s owner) (h' : Extends t' t'' s owner) : Extends t t'' s owner := by
  obtain ⟨objects, hself⟩ := h.self
  obtain ⟨objects', hself'⟩ := h'.self
  refine ⟨⟨objects ++ objects', ?_⟩, fun s' hs => (h'.others s' hs).trans (h.others s' hs)⟩
  rw [hself', hself, List.map_append, List.append_assoc]

/-- The side maps do not matter. -/
theorem congr (h : Extends t t' s owner) (heq : t''.shelf = t'.shelf) : Extends t t'' s owner :=
  ⟨by rw [heq]; exact h.self, by rw [heq]; exact h.others⟩

theorem keep (t : ObjectTables H) (s : Shelf) (object owner : Option H) :
    Extends t (t.keep s object owner) s owner := by
  unfold ObjectTables.keep
  constructor
  · rw [ObjectTables.shelf_put, Function.update_self]
    exact ⟨[object], rfl⟩
  · intro s' hs
    rw [ObjectTables.shelf_put, Function.update_of_ne hs]

theorem foldl {α : Type} {f : ObjectTables H → α → ObjectTables H} (hone : ∀ t a, Extends t (f t a) s owner)
    (as : List α) (t : ObjectTables H) : Extends t (as.foldl f t) s owner := by
  induction as generalizing t with
  | nil => exact refl t s owner
  | cons a as ih => exact (hone t a).trans (ih (f t a))

theorem entry_of_le (h : Extends t t' s owner) {s' : Shelf} {id : ℕ} (hid : id ≤ (t.shelf s').slots.length) :
    (t'.shelf s').entry id = (t.shelf s').entry id := by
  by_cases hs : s' = s
  · subst hs
    obtain ⟨objects, hself⟩ := h.self
    rcases id with _ | i
    · rfl
    · rw [Table.entry_succ, Table.entry_succ, hself, List.getElem?_append_left (by omega)]
  · rw [h.others s' hs]

theorem length_le (h : Extends t t' s owner) (s' : Shelf) :
    (t.shelf s').slots.length ≤ (t'.shelf s').slots.length := by
  by_cases hs : s' = s
  · subst hs
    obtain ⟨objects, hself⟩ := h.self
    rw [hself, List.length_append]
    exact Nat.le_add_right ..
  · rw [h.others s' hs]

/-- What is new is in the one table, under a new id, and belongs to the owner. -/
theorem new (h : Extends t t' s owner) {s' : Shelf} {id : ℕ} {item : Item H}
    (hitem : (t'.shelf s').entry id = some item) (hid : (t.shelf s').slots.length < id) :
    s' = s ∧ item.2 = owner := by
  have hs : s' = s := by
    by_contra hs
    rw [h.others s' hs, Table.entry_of_lt _ hid] at hitem
    cases hitem
  subst hs
  obtain ⟨objects, hself⟩ := h.self
  obtain ⟨object, owner'⟩ := item
  obtain ⟨-, hslot⟩ := Table.entry_eq_some.1 hitem
  rw [hself, List.getElem?_append_right (by omega), List.getElem?_map] at hslot
  obtain ⟨object', -, heq⟩ := Option.map_eq_some_iff.1 hslot
  exact ⟨rfl, (congrArg Prod.snd heq).symm⟩

theorem posts (h : Extends t t' s owner) : Posts t.stock (t.arrivals t' s) t'.stock := by
  unfold ObjectTables.arrivals
  set ids := List.range' ((t.shelf s).slots.length + 1) ((t'.shelf s).slots.length - (t.shelf s).slots.length)
    with hids
  have hfree : ∀ k ∈ ids.map fun id => (s, id), t.stock k = none := by
    intro k hk
    obtain ⟨id, hid, rfl⟩ := List.mem_map.1 hk
    rw [hids, List.mem_range'_1] at hid
    exact Table.entry_of_lt _ hid.1
  have hnodup : (ids.map fun id => (s, id)).Nodup :=
    List.Nodup.map (fun _ _ heq => congrArg Prod.snd heq) List.nodup_range'
  have hposts := posts_entering (f := t'.stock) (η := How H) hfree hnodup
  convert hposts using 1
  funext ⟨s', id⟩
  split
  · rfl
  · next hnot =>
    unfold ObjectTables.stock
    dsimp only
    rcases Nat.lt_or_ge (t.shelf s').slots.length id with hlt | hle
    · rw [Table.entry_of_lt (t.shelf s') hlt]
      by_contra hne
      obtain ⟨item, hitem⟩ := Option.ne_none_iff_exists'.1 hne
      obtain ⟨rfl, -⟩ := h.new hitem hlt
      refine hnot (List.mem_map.2 ⟨id, ?_, rfl⟩)
      have hbound : ¬ (t'.shelf s').slots.length < id := fun hbeyond => by
        rw [Table.entry_of_lt _ hbeyond] at hitem
        cases hitem
      rw [hids, List.mem_range'_1]
      omega
    · exact h.entry_of_le hle

end Extends

/-- An object may belong to a device that is in its table; devices and surfaces belong to nobody. -/
def Rightful (t : ObjectTables H) (s : Shelf) (owner : Option H) : Prop :=
  if s.hasOwners then ∃ device id, owner = some device ∧ t.devices.get id = some device else owner = none

theorem rightful_device {t : ObjectTables H} {s : Shelf} {device : H} {id : ℕ} (hs : s.hasOwners = true)
    (hget : t.devices.get id = some device) : Rightful t s (some device) := by
  rw [Rightful, if_pos hs]
  exact ⟨device, id, rfl, hget⟩

section Creates

variable [DecidableEq H] {t : ObjectTables H} {request : List UInt8} {a : Findings H}

omit [DecidableEq H] in
theorem get_of_deviceFor {device : H} (h : t.deviceFor request a = some device) :
    ∃ id, t.devices.get id = some device := by
  unfold ObjectTables.deviceFor at h
  split at h
  · exact ⟨_, h⟩
  · cases h

/-- Either nothing happens, or one table grows by what rightfully belongs there. -/
def Grows (t t' : ObjectTables H) (s : Shelf) : Prop :=
  t' = t ∨ ∃ owner, Extends t t' s owner ∧ Rightful t s owner

omit [DecidableEq H] in
theorem grows_for {f : H → ObjectTables H} {s : Shelf} (hs : s.hasOwners = true)
    (h : ∀ device, Extends t (f device) s (some device)) :
    Grows t (match t.deviceFor request a with | none => t | some device => f device) s := by
  cases hdevice : t.deviceFor request a with
  | none => exact .inl rfl
  | some device =>
    obtain ⟨id, hget⟩ := get_of_deviceFor hdevice
    exact .inr ⟨some device, h device, rightful_device hs hget⟩

omit [DecidableEq H] in
theorem extends_ite {c : Prop} [Decidable c] {t' : ObjectTables H} {s : Shelf} {owner : Option H}
    (h : Extends t t' s owner) : Extends t (if c then t' else t) s owner := by
  split
  · exact h
  · exact .refl t s owner

omit [DecidableEq H] in
theorem grows_handleCreate {s : Shelf} (hs : s.hasOwners = true) : Grows t (t.handleCreate s request a) s :=
  grows_for hs fun device => extends_ite (.keep t s a.object (some device))

theorem extends_keepQueue (queue : Option H) (device : H) :
    Extends t (t.keepQueue queue device) .queues (some device) := by
  unfold ObjectTables.keepQueue Table.addUnique
  split
  · exact .refl t _ _
  · exact ⟨⟨[queue], rfl⟩, fun s hs => by cases s <;> first | rfl | exact absurd rfl hs⟩

theorem extends_keepCommandBuffer (device : H) (t : ObjectTables H) (commandBuffer : Option H) :
    Extends t (ObjectTables.keepCommandBuffer device t commandBuffer) .commandBuffers (some device) :=
  (Extends.keep t .commandBuffers commandBuffer (some device)).congr (by funext s; cases s <;> rfl)

omit [DecidableEq H] in
theorem extends_keepDescriptorSet (owner : DescriptorSetOwner H) (t : ObjectTables H) (set : Option H) :
    Extends t (ObjectTables.keepDescriptorSet owner t set) .descriptorSets (some owner.device) :=
  (Extends.keep t .descriptorSets set (some owner.device)).congr (by funext s; cases s <;> rfl)

omit [DecidableEq H] in
theorem grows_getSwapchainImages : Grows t (t.handleGetSwapchainImages request a) (.owned .images) := by
  unfold ObjectTables.handleGetSwapchainImages
  dsimp only
  cases hdevice : t.devices.get (ObjectTables.readIds request).1 with
  | none => exact .inl rfl
  | some device =>
    cases t.swapchains.get (ObjectTables.readIds request).2.1 with
    | none => exact .inl rfl
    | some swapchain =>
      dsimp only
      split
      · exact .inl rfl
      · split
        · exact .inl rfl
        · have himages := Extends.foldl (fun t image => Extends.keep t (.owned .images) image (some device))
            a.objects t
          exact .inr ⟨some device, himages.congr (by funext s; cases s <;> rfl), rightful_device rfl hdevice⟩

theorem grows_createDevice (physical : Option H) : Grows t (t.handleCreateDevice physical a) .devices := by
  cases physical with
  | none => exact .inl rfl
  | some physical =>
    refine .inr ⟨none, extends_ite ?_, rfl⟩
    exact (Extends.keep t .devices a.object none).congr (by funext s; cases s <;> rfl)

theorem grows_createSwapchain (surface : Option H) :
    Grows t (t.handleCreateSwapchain surface request a) .swapchains := by
  unfold ObjectTables.handleCreateSwapchain
  cases hdevice : t.deviceFor request a with
  | none => exact .inl rfl
  | some device =>
    cases a.object with
    | none => exact .inl rfl
    | some swapchain =>
      obtain ⟨id, hget⟩ := get_of_deviceFor hdevice
      refine .inr ⟨some device, extends_ite ?_, rightful_device rfl hget⟩
      exact (Extends.keep t .swapchains (some swapchain) (some device)).congr (by funext s; cases s <;> rfl)

theorem grows_handle (c : CreateRequest H) : Grows t (c.handle t request a) c.shelf := by
  cases c with
  | createDevice physical => exact grows_createDevice physical
  | getDeviceQueue => exact grows_for rfl fun device => extends_keepQueue a.object device
  | getDeviceQueue2 => exact grows_for rfl fun device => extends_ite (extends_keepQueue a.object device)
  | createOwned table => exact grows_handleCreate rfl
  | createFence => exact grows_handleCreate rfl
  | createSemaphore => exact grows_handleCreate rfl
  | createDescriptorPool => exact grows_handleCreate rfl
  | createPipelines =>
    exact grows_for rfl fun device =>
      .foldl (fun t pipeline => extends_ite (.keep t (.owned .pipelines) pipeline (some device))) a.objects t
  | allocateCommandBuffers =>
    exact grows_for rfl fun device => extends_ite (.foldl (extends_keepCommandBuffer device) a.objects t)
  | allocateDescriptorSets pool =>
    exact grows_for rfl fun device =>
      extends_ite (.foldl (extends_keepDescriptorSet ⟨device, pool⟩) a.objects t)
  | allocateMemory =>
    exact grows_for rfl fun device => extends_ite
      ((Extends.keep t .memories a.object (some device)).congr (by funext s; cases s <;> rfl))
  | createDescriptorUpdateTemplate entries =>
    exact grows_for rfl fun device => extends_ite
      ((Extends.keep t .descriptorUpdateTemplates a.object (some device)).congr (by funext s; cases s <;> rfl))
  | createSamplerYcbcrConversion =>
    exact grows_for rfl fun device => extends_ite
      ((Extends.keep t .samplerYcbcrConversions a.object (some device)).congr (by funext s; cases s <;> rfl))
  | createSurface => exact .inr ⟨none, extends_ite (.keep t .surfaces a.object none), rfl⟩
  | createSwapchain surface => exact grows_createSwapchain surface
  | getSwapchainImages => exact grows_getSwapchainImages

end Creates

/-- When a device goes, nothing of it is there. -/
def Orderly (log : Log H) : Prop :=
  ∀ pre id device owner how post stock, log = pre ++ .left (.devices, id) (device, owner) how :: post →
    Posts (fun _ => none) pre stock → ∀ k item, stock k = some item → item.2 ≠ some device

theorem orderly_nil : Orderly ([] : Log H) := fun pre _ _ _ _ _ _ h => by
  cases pre <;> cases h

theorem Orderly.append {log es : Log H} (h : Orderly log)
    (hno : ∀ id item how, .left (.devices, id) item how ∉ es) : Orderly (log ++ es) := by
  intro pre id device owner how post stock heq hposts
  rcases List.append_eq_append_iff.1 heq with ⟨mid, rfl, hes⟩ | ⟨mid, hlog, hpost⟩
  · refine absurd ?_ (hno id (device, owner) how)
    rw [hes]
    exact List.mem_append_right _ List.mem_cons_self
  · cases mid with
    | nil =>
      refine absurd ?_ (hno id (device, owner) how)
      rw [← show _ :: post = es from hpost]
      exact List.mem_cons_self
    | cons e mid =>
      obtain ⟨rfl, -⟩ := List.cons.inj hpost
      exact h pre id device owner how mid stock hlog hposts

theorem Orderly.snoc {log : Log H} {id : ℕ} {device : H} {owner : Option H} {how : How H}
    {stock : Key → Option (Item H)} (h : Orderly log) (hposts : Posts (fun _ => none) log stock)
    (hgone : ∀ k item, stock k = some item → item.2 ≠ some device) :
    Orderly (log ++ [.left (.devices, id) (device, owner) how]) := by
  intro pre id' device' owner' how' post stock' heq hposts'
  rcases List.eq_nil_or_concat post with rfl | ⟨post, e, rfl⟩
  · obtain ⟨rfl, hlast⟩ := List.append_inj' heq rfl
    obtain ⟨-, hitem, -⟩ := Posting.left.inj (List.singleton_inj.1 hlast)
    obtain rfl := congrArg Prod.fst hitem
    obtain rfl := hposts.unique hposts'
    exact hgone
  · rw [List.concat_eq_append, ← List.cons_append, ← List.append_assoc] at heq
    exact h pre id' device' owner' how' post stock' (List.append_inj' heq rfl).1 hposts'

/-! ### What every request keeps -/

structure Booked (s : TableSession H) : Prop where
  posts : Posts (fun _ => none) s.log s.tables.stock
  once : (enteredKeys s.log).Nodup
  given : ∀ k ∈ enteredKeys s.log, k.2 ≤ (s.tables.shelf k.1).slots.length
  rightful : ∀ k item, s.tables.stock k = some item → Rightful s.tables k.1 item.2
  orderly : Orderly s.log

theorem booked_initial : Booked ({} : TableSession H) where
  posts := by
    have hempty : ({} : ObjectTables H).stock = fun _ => none := by
      funext ⟨s, id⟩
      exact Table.entry_of_empty _ (by cases s <;> rfl)
    rw [hempty]
    exact .nil _
  once := List.nodup_nil
  given k hk := by cases hk
  rightful := by
    rintro ⟨s, id⟩ item hitem
    cases hitem.symm.trans (Table.entry_of_empty _ (by cases s <;> rfl))
  orderly := orderly_nil

section Steps

variable [DecidableEq H] {s : TableSession H}

omit [DecidableEq H] in
theorem Rightful.mono {t t' : ObjectTables H} {shelf : Shelf} {owner : Option H} (h : Rightful t shelf owner)
    (hdevices : ∀ id device, t.devices.get id = some device → t'.devices.get id = some device) :
    Rightful t' shelf owner := by
  unfold Rightful at h ⊢
  split at h
  · next hs =>
    obtain ⟨device, id, howner, hget⟩ := h
    rw [if_pos hs]
    exact ⟨device, id, howner, hdevices id device hget⟩
  · next hs =>
    rw [if_neg hs]
    exact h

omit [DecidableEq H] in
theorem Booked.arrive {t : ObjectTables H} {shelf : Shelf} (h : Booked s) (hgrows : Grows s.tables t shelf) :
    Booked (s.arrive t shelf) := by
  rcases hgrows with rfl | ⟨owner, hext, howner⟩
  · -- the table has not grown, so there are no new ids
    have hnone : s.tables.arrivals s.tables shelf = [] := by
      unfold ObjectTables.arrivals
      rw [Nat.sub_self]
      rfl
    have hsame : s.arrive s.tables shelf = s := by
      unfold TableSession.arrive
      rw [hnone, List.append_nil]
    rw [hsame]
    exact h
  · have hkeys := enteredKeys_entering (η := How H) t.stock ((List.range' ((s.tables.shelf shelf).slots.length + 1)
      ((t.shelf shelf).slots.length - (s.tables.shelf shelf).slots.length)).map fun id => (shelf, id))
    have hnew : ∀ k ∈ enteredKeys (s.tables.arrivals t shelf), k.1 = shelf ∧
        (s.tables.shelf shelf).slots.length < k.2 ∧ k.2 ≤ (t.shelf shelf).slots.length := by
      intro k hk
      obtain ⟨id, hid, rfl⟩ := List.mem_map.1 (hkeys.subset hk)
      rw [List.mem_range'_1] at hid
      refine ⟨rfl, hid.1, ?_⟩
      have hle := hext.length_le shelf
      have hlt := hid.2
      dsimp only
      omega
    refine ⟨h.posts.append hext.posts, ?_, ?_, ?_, h.orderly.append fun id item how hmem => ?_⟩
    · refine (enteredKeys_append ..).symm ▸ List.nodup_append'.2 ⟨h.once, ?_, fun k hold hk => ?_⟩
      · refine hkeys.nodup (List.Nodup.map (fun _ _ heq => congrArg Prod.snd heq) List.nodup_range')
      · obtain ⟨rfl, hlt, -⟩ := hnew k hk
        exact absurd (h.given k hold) (Nat.not_le.2 hlt)
    · intro k hk
      rcases List.mem_append.1 (enteredKeys_append .. ▸ hk) with hk | hk
      · exact (h.given k hk).trans (hext.length_le k.1)
      · obtain ⟨rfl, -, hle⟩ := hnew k hk
        exact hle
    · rintro ⟨shelf', id⟩ item hitem
      have hdevices : ∀ id device, s.tables.devices.get id = some device → t.devices.get id = some device := by
        intro id device hget
        obtain ⟨owner, hentry⟩ := Table.exists_entry_of_get _ hget
        have hle : id ≤ (s.tables.shelf .devices).slots.length := by
          by_contra hlt
          cases hentry.symm.trans (Table.entry_of_lt s.tables.devices (Nat.not_le.1 hlt))
        exact Table.get_of_entry _ ((hext.entry_of_le hle).trans hentry)
      rcases Nat.lt_or_ge (s.tables.shelf shelf').slots.length id with hlt | hle
      · obtain ⟨rfl, howned⟩ := hext.new hitem hlt
        rw [howned]
        exact howner.mono hdevices
      · have hold : s.tables.stock (shelf', id) = some item := (hext.entry_of_le hle).symm.trans hitem
        exact (h.rightful _ _ hold).mono hdevices
    · obtain ⟨k, a, heq, -⟩ := mem_entering hmem
      cases heq

/-- No device is among what goes. -/
def KeepsDevices (ks : List (Key × How H)) : Prop := ∀ e ∈ ks, e.1.1 ≠ .devices

omit [DecidableEq H] in
theorem without_eq_some {κ α : Type} [DecidableEq κ] {f : κ → Option α} {ks : List κ} {k : κ} {a : α}
    (h : without f ks k = some a) : k ∉ ks ∧ f k = some a := by
  unfold without at h
  split at h
  · cases h
  · next hnot => exact ⟨hnot, h⟩

omit [DecidableEq H] in
theorem Departs.get_devices {t t' : ObjectTables H} {ks : List (Key × How H)} (h : Departs t t' ks)
    (hkeeps : KeepsDevices ks) (id : ℕ) : t'.devices.get id = t.devices.get id := by
  have hstock := congrFun h.stock (.devices, id)
  have hnot : ((Shelf.devices, id) : Key) ∉ ks.map Prod.fst := fun hmem => by
    obtain ⟨e, he, heq⟩ := List.mem_map.1 hmem
    exact hkeeps e he (congrArg Prod.fst heq)
  unfold without at hstock
  rw [if_neg hnot] at hstock
  rw [Table.get_eq_entry, Table.get_eq_entry]
  exact congrArg (Option.map Prod.fst) hstock

omit [DecidableEq H] in
theorem KeepsDevices.noDevice {ks : List (Key × How H)} (h : KeepsDevices ks) (stock : Key → Option (Item H))
    (id : ℕ) (item : Item H) (how : How H) : .left (.devices, id) item how ∉ leaving stock ks :=
  fun hmem => h _ (mem_leaving hmem).1 rfl

omit [DecidableEq H] in
/-- Everything but the order survives any departure after which the owners are still there. -/
theorem Booked.depart_of {t : ObjectTables H} {ks : List (Key × How H)} (h : Booked s)
    (hdeparts : Departs s.tables t ks)
    (hrightful : ∀ k item, t.stock k = some item → Rightful t k.1 item.2)
    (horderly : Orderly (s.log ++ leaving s.tables.stock ks)) : Booked (s.depart t ks) := by
  have hkeys : enteredKeys (s.log ++ leaving s.tables.stock ks) = enteredKeys s.log := by
    rw [enteredKeys_append, enteredKeys_leaving, List.append_nil]
  refine ⟨?_, ?_, fun k hk => ?_, hrightful, horderly⟩
  · refine h.posts.append ?_
    have hposts := posts_leaving s.tables.stock ks
    rw [← hdeparts.stock] at hposts
    exact hposts
  · exact hkeys.symm ▸ h.once
  · exact (h.given k (hkeys ▸ hk)).trans_eq (hdeparts.length k.1).symm

omit [DecidableEq H] in
theorem Booked.depart {t : ObjectTables H} {ks : List (Key × How H)} (h : Booked s)
    (hdeparts : Departs s.tables t ks) (hkeeps : KeepsDevices ks) : Booked (s.depart t ks) := by
  refine h.depart_of hdeparts (fun k item hitem => ?_) (h.orderly.append (hkeeps.noDevice s.tables.stock))
  rw [hdeparts.stock] at hitem
  refine (h.rightful k item (without_eq_some hitem).2).mono fun id device hget => ?_
  rw [hdeparts.get_devices hkeeps]
  exact hget

theorem keepsDevices_teardown (t : ObjectTables H) (device : H) : KeepsDevices (t.teardown device) := by
  rintro ⟨⟨shelf, id⟩, how⟩ hmem
  rintro rfl
  have hkey := List.mem_map_of_mem (f := Prod.fst) hmem
  rw [mem_teardown] at hkey
  rcases hkey with ⟨hhas, -⟩ | ⟨heq, -⟩
  · cases hhas
  · cases heq

/-- After `destroy_device_objects` nothing belongs to the device. -/
theorem owner_of_departed {t t' : ObjectTables H} {device : H} (h : Departs t t' (t.teardown device))
    (hrightful : ∀ k item, t.stock k = some item → Rightful t k.1 item.2) {k : Key} {item : Item H}
    (hitem : t'.stock k = some item) : item.2 ≠ some device := by
  obtain ⟨shelf, id⟩ := k
  obtain ⟨object, owner⟩ := item
  rintro rfl
  rw [h.stock] at hitem
  obtain ⟨hnot, hold⟩ := without_eq_some hitem
  have hright := hrightful _ _ hold
  unfold Rightful at hright
  split at hright
  · next hhas =>
    exact hnot ((mem_teardown t device).2 (.inl ⟨hhas, (Table.mem_ownedIds _ device).2 ⟨object, hold⟩⟩))
  · cases hright

theorem Booked.endDevice {id : ℕ} {device : H} (h : Booked s) (hget : s.tables.devices.get id = some device) :
    Booked (s.depart ({ s.tables with devices := (s.tables.devices.take id).2 }.destroyDeviceObjects device)
      (s.tables.endDevice id device)) := by
  have hchildren := departs_teardown s.tables device
  have hdeparts := departs_endDevice s.tables id device
  have hgone : ∀ k item, (s.tables.destroyDeviceObjects device).stock k = some item → item.2 ≠ some device :=
    fun k item => owner_of_departed hchildren h.rightful
  obtain ⟨owner, hentry⟩ := Table.exists_entry_of_get _ hget
  have hlog : leaving s.tables.stock (s.tables.endDevice id device) =
      leaving s.tables.stock (s.tables.teardown device) ++
        [.left (.devices, id) (device, owner) (.ended none)] := by
    unfold ObjectTables.endDevice
    rw [leaving_append, ← hchildren.stock]
    have hstill : (s.tables.destroyDeviceObjects device).stock (.devices, id) = some (device, owner) := hentry
    unfold leaving
    rw [hstill]
    rfl
  refine h.depart_of hdeparts (fun k item hitem => ?_) ?_
  · rw [hdeparts.stock, ObjectTables.endDevice, List.map_append, without_append, ← hchildren.stock] at hitem
    obtain ⟨hnot, hleft⟩ := without_eq_some hitem
    have hother := hgone k item hleft
    rw [hchildren.stock] at hleft
    have hright := h.rightful k item (without_eq_some hleft).2
    unfold Rightful at hright ⊢
    split at hright
    · next hhas =>
      obtain ⟨device', id', howner, hget'⟩ := hright
      rw [if_pos hhas]
      refine ⟨device', id', howner, ?_⟩
      have hne : id' ≠ id := by
        rintro rfl
        rw [hget] at hget'
        exact hother (howner.trans hget'.symm)
      have hdevices : (({ s.tables with
          devices := (s.tables.devices.take id).2 }).destroyDeviceObjects device).devices.get id' =
          (s.tables.devices.take id).2.get id' := rfl
      rw [hdevices, Table.get_eq_entry, Table.entry_take, Function.update_of_ne hne, ← Table.get_eq_entry]
      exact hget'
    · next hhas =>
      rw [if_neg hhas]
      exact hright
  · rw [hlog, ← List.append_assoc]
    have hbefore := h.orderly.append ((keepsDevices_teardown s.tables device).noDevice s.tables.stock)
    refine hbefore.snoc ?_ hgone
    refine h.posts.append ?_
    have hposts := posts_leaving s.tables.stock (s.tables.teardown device)
    rw [← hchildren.stock] at hposts
    exact hposts

end Steps

end VkRemote.Server
