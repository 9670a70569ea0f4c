import VulkanRemote.Lib.Run
import VulkanRemote.Server.Books

/-! Whole sessions: every request keeps the books, the end of the connection empties all tables, and which objects are
lost on the way. -/

namespace VkRemote.Server

open Lib Wire Marshal

variable {H : Type} [DecidableEq H]

section Requests

variable {t : ObjectTables H} {request : List UInt8}

omit [DecidableEq H] in
theorem keepsDevices_nil : KeepsDevices ([] : List (Key × How H)) := fun _ he => absurd he List.not_mem_nil

omit [DecidableEq H] in
theorem keepsDevices_one {s : Shelf} {id : ℕ} {how : How H} (h : s ≠ .devices) :
    KeepsDevices [((s, id), how)] := List.forall_mem_singleton.2 h

omit [DecidableEq H] in
theorem keepsDevices_map {s : Shelf} {how : How H} (h : s ≠ .devices) (ids : List ℕ) :
    KeepsDevices (ids.map fun id => ((s, id), how)) := by
  rintro e he
  obtain ⟨id, -, rfl⟩ := List.mem_map.1 he
  exact h

omit [DecidableEq H] in
theorem KeepsDevices.append {ks ks' : List (Key × How H)} (h : KeepsDevices ks) (h' : KeepsDevices ks') :
    KeepsDevices (ks ++ ks') := fun e he => (List.mem_append.1 he).elim (h e) (h' e)

theorem keepsDevices_lookedUp {s : Shelf} {id : ℕ} {owner : Option H} {found : H → Bool} (h : s ≠ .devices) :
    KeepsDevices (lookedUpDepartures t request (s, id) owner found) := by
  unfold lookedUpDepartures
  dsimp only
  split
  · exact keepsDevices_nil
  · split
    · exact keepsDevices_nil
    · exact keepsDevices_one h

theorem keepsDevices_departures (found : LookedUp → H → Bool) {d : DestroyRequest} (hd : d ≠ .destroyDevice) :
    KeepsDevices (d.departures t request found) := by
  unfold DestroyRequest.departures
  cases d with
  | destroyDevice => exact absurd rfl hd
  | destroyFence => exact keepsDevices_one (by decide)
  | destroySemaphore => exact keepsDevices_one (by decide)
  | freeCommandBuffers => exact keepsDevices_map (by decide) _
  | destroyOwned table =>
    dsimp only
    split
    · exact keepsDevices_nil
    · split
      · exact keepsDevices_nil
      · exact keepsDevices_one (by simp)
  | destroyDescriptorPool =>
    dsimp only
    split
    · split
      · exact keepsDevices_nil
      · exact (keepsDevices_map (by decide) _).append (keepsDevices_one (by decide))
    · exact keepsDevices_nil
  | freeMemory =>
    dsimp only
    split
    · exact keepsDevices_nil
    · split
      · exact keepsDevices_nil
      · exact keepsDevices_one (by decide)
  | destroySurface => exact keepsDevices_one (by decide)
  | destroySwapchain =>
    dsimp only
    split
    · split
      · exact keepsDevices_one (by decide)
      · exact (keepsDevices_one (by decide)).append (keepsDevices_map (by decide) _)
    · exact keepsDevices_one (by decide)
  | destroyDescriptorUpdateTemplate => exact keepsDevices_lookedUp (by decide)
  | destroySamplerYcbcrConversion => exact keepsDevices_lookedUp (by decide)

theorem keepsDevices_freed (a : Findings H) : KeepsDevices (freedDepartures t request a) := by
  unfold freedDepartures
  split
  · exact keepsDevices_nil
  · split
    · exact keepsDevices_map (by decide) _
    · exact keepsDevices_nil

theorem keepsDevices_reset (a : Findings H) : KeepsDevices (resetDepartures t request a) := by
  unfold resetDepartures
  split
  · exact keepsDevices_nil
  · split
    · exact keepsDevices_map (by decide) _
    · exact keepsDevices_nil

end Requests

section Steps

variable {s : TableSession H}

theorem Booked.destroyDevice (h : Booked s) (found : LookedUp → H → Bool) (request : List UInt8) :
    Booked (s.depart (s.tables.handleDestroyDevice request).1
      (DestroyRequest.departures s.tables request found .destroyDevice)) := by
  have hdeparts := departs_destroyDevice s.tables request found
  unfold DestroyRequest.departures at hdeparts ⊢
  unfold ObjectTables.handleDestroyDevice at hdeparts ⊢
  dsimp only at hdeparts ⊢
  rw [Table.take_fst] at hdeparts ⊢
  cases hget : s.tables.devices.get (Reader.handle ⟨request, false⟩).1.toNat with
  | none =>
    rw [hget] at hdeparts
    exact h.depart hdeparts keepsDevices_nil
  | some device =>
    have hok : (Reader.handle ⟨request, false⟩).2.ok = true := by
      by_contra hnot
      rw [handle_of_not_ok (by simpa using hnot)] at hget
      cases hget
    dsimp only
    rw [if_pos hok, if_pos hok]
    exact h.endDevice hget

theorem Booked.closeDevice (h : Booked s) (id : ℕ) : Booked (s.closeDevice id) := by
  unfold TableSession.closeDevice
  split
  · exact h
  · next device hget => exact h.endDevice hget

theorem Booked.closeDevices (h : Booked s) (ids : List ℕ) : Booked (ids.foldl TableSession.closeDevice s) :=
  List.foldlRecOn ids _ h fun _ h id _ => Booked.closeDevice h id

theorem get_closeDevice (id id' : ℕ) :
    (s.closeDevice id).tables.devices.get id' = if id' = id then none else s.tables.devices.get id' := by
  unfold TableSession.closeDevice
  by_cases heq : id' = id
  · subst heq
    rw [if_pos rfl]
    split
    · next hget => exact hget
    · refine (Table.get_eq_entry ..).trans ?_
      have hentry := congrFun (Table.entry_take s.tables.devices id') id'
      rw [Function.update_self] at hentry
      exact congrArg (Option.map Prod.fst) hentry
  · rw [if_neg heq]
    split
    · rfl
    · rw [Table.get_eq_entry s.tables.devices]
      refine (Table.get_eq_entry ..).trans ?_
      have hentry := congrFun (Table.entry_take s.tables.devices id) id'
      rw [Function.update_of_ne heq] at hentry
      exact congrArg (Option.map Prod.fst) hentry

theorem get_closeDevices (ids : List ℕ) (id : ℕ) :
    (ids.foldl TableSession.closeDevice s).tables.devices.get id =
      if id ∈ ids then none else s.tables.devices.get id := by
  induction ids generalizing s with
  | nil => exact (if_neg List.not_mem_nil).symm
  | cons first ids ih =>
    rw [List.foldl_cons, ih, get_closeDevice]
    by_cases hfirst : id = first <;> by_cases hrest : id ∈ ids <;> simp [hfirst, hrest]

omit [DecidableEq H] in
theorem departs_closeSurfaces (t : ObjectTables H) : Departs t { t with surfaces := t.surfaces.takeAll.2 }
    ((List.range' 1 t.surfaces.slots.length).map fun id => ((.surfaces, id), .ended none)) := by
  have hnone : ∀ id, t.surfaces.takeAll.2.entry id = none := by
    intro id
    rcases id with _ | i
    · rfl
    · rw [Table.entry_succ, Table.takeAll, List.getElem?_map]
      cases t.surfaces.slots[i]? <;> rfl
  refine .of_shelf ?_ (List.length_map _) fun s hs => ?_
  · funext id
    refine (hnone id).trans ?_
    unfold without
    split
    · rfl
    · next hnot =>
      rw [List.mem_range'_1] at hnot
      rcases Nat.eq_zero_or_pos id with rfl | hpos
      · rfl
      · exact (Table.entry_of_lt t.surfaces (by omega)).symm
  · cases s with
    | surfaces => exact absurd rfl hs
    | _ => rfl

theorem Booked.close (h : Booked s) : Booked s.close := by
  have hdevices := h.closeDevices (List.range' 1 s.tables.devices.slots.length)
  have hclosed := hdevices.depart (departs_closeSurfaces _) (keepsDevices_map (by decide) _)
  exact ⟨hclosed.posts, hclosed.once, hclosed.given, hclosed.rightful, hclosed.orderly⟩

/-- At the end nothing is in a table. -/
theorem stock_close (h : Booked s) (k : Key) : s.close.tables.stock k = none := by
  have hclosed := h.close
  set s₁ := (List.range' 1 s.tables.devices.slots.length).foldl TableSession.closeDevice s with hs₁
  have hdevices : ∀ id, s.close.tables.devices.get id = none := by
    intro id
    change s₁.tables.devices.get id = none
    rw [hs₁, get_closeDevices]
    split
    · rfl
    · next hnot =>
      rw [List.mem_range'_1] at hnot
      rw [Table.get_eq_entry]
      rcases Nat.eq_zero_or_pos id with rfl | hpos
      · rfl
      · rw [Table.entry_of_lt _ (by omega)]
        rfl
  by_contra hne
  obtain ⟨item, hitem⟩ := Option.ne_none_iff_exists'.1 hne
  have hright := hclosed.rightful k item hitem
  obtain ⟨shelf, id⟩ := k
  unfold Rightful at hright
  split at hright
  · obtain ⟨device, id', -, hget⟩ := hright
    cases (hdevices id').symm.trans hget
  · next hno =>
    cases shelf with
    | devices => cases (hdevices id).symm.trans (Table.get_of_entry _ hitem)
    | surfaces =>
      have hstock := congrFun (departs_closeSurfaces s₁.tables).stock (.surfaces, id)
      have hleft := hstock.symm.trans hitem
      obtain ⟨hnot, hold⟩ := without_eq_some hleft
      refine hnot (List.mem_map.2 ⟨((.surfaces, id), .ended none), List.mem_map.2 ⟨id, ?_, rfl⟩, rfl⟩)
      have hpos : id ≠ 0 := (Table.entry_eq_some.1 hold).1
      have hle : ¬ s₁.tables.surfaces.slots.length < id := fun hlt => by
        cases (Table.entry_of_lt _ hlt).symm.trans hold
      rw [List.mem_range'_1]
      omega
    | _ => exact hno rfl

theorem booked_step {found : LookedUp → H → Bool} {a : Action H} {s' : TableSession H} (h : Booked s)
    (hs : s.step found a = some s') : Booked s' := by
  obtain ⟨-, rfl⟩ := TableSession.step_eq_some.1 hs
  cases a with
  | create c request a =>
    exact h.arrive (grows_handle c)
  | destroy d request =>
    by_cases hd : d = .destroyDevice
    · subst hd
      exact h.destroyDevice found request
    · exact h.depart (departs_handle found d) (keepsDevices_departures found hd)
  | freeDescriptorSets request a =>
    exact h.depart (departs_freeDescriptorSets a) (keepsDevices_freed a)
  | resetDescriptorPool request a =>
    exact h.depart (departs_resetDescriptorPool a) (keepsDevices_reset a)
  | disconnect =>
    exact h.close

/-- Only the end of the connection ends a session. -/
theorem over_step {found : LookedUp → H → Bool} {a : Action H} {s' : TableSession H} (h : Booked s)
    (hs : s.step found a = some s') (hover : s'.closed = true) (k : Key) : s'.tables.stock k = none := by
  obtain ⟨hopen, rfl⟩ := TableSession.step_eq_some.1 hs
  cases a with
  | disconnect =>
    exact stock_close h k
  | _ =>
    cases hopen.symm.trans hover

end Steps

section Runs

variable {found : LookedUp → H → Bool} {as : List (Action H)} {s : TableSession H}

theorem booked_run (h : Run (TableSession.step found) {} as s) :
    Booked s ∧ (s.closed = true → ∀ k, s.tables.stock k = none) :=
  h.invariant (I := fun s => Booked s ∧ (s.closed = true → ∀ k, s.tables.stock k = none))
    ⟨booked_initial, fun hover => by cases hover⟩
    fun _ _ _ hs hstep => ⟨booked_step hs.1 hstep, over_step hs.1 hstep⟩

/-- An id is given once: nothing has come in under it, or what came in is still there, or it has left once. Nothing
is there any more when the session is over. -/
theorem id_lives_once (h : Run (TableSession.step found) {} as s) (k : Key) :
    (s.tables.stock k = none ∧ history k s.log = []) ∨
      ∃ item, (s.tables.stock k = some item ∧ history k s.log = [.entered k item] ∧ s.closed = false) ∨
        ∃ how, s.tables.stock k = none ∧ history k s.log = [.entered k item, .left k item how] := by
  obtain ⟨hbooked, hover⟩ := booked_run h
  rcases hbooked.posts.life rfl hbooked.once with hnothing | ⟨item, ⟨hheld, hlog⟩ | hleft⟩
  · exact .inl hnothing
  · refine .inr ⟨item, .inl ⟨hheld, hlog, ?_⟩⟩
    by_contra hnot
    cases hheld.symm.trans (hover (by simpa using hnot) k)
  · exact .inr ⟨item, .inr hleft⟩

/-- What belongs to a device has left before the device does. -/
theorem device_goes_last (h : Run (TableSession.step found) {} as s) {pre post : Log H} {id : ℕ} {device : H}
    {owner : Option H} {how : How H} (hlog : s.log = pre ++ .left (.devices, id) (device, owner) how :: post)
    {k : Key} {object : H} (hin : .entered k (object, some device) ∈ pre) :
    ∃ how', .left k (object, some device) how' ∈ pre := by
  obtain ⟨hbooked, -⟩ := booked_run h
  obtain ⟨stock, hpre, -⟩ := (hlog ▸ hbooked.posts).split
  have honce : (enteredKeys pre).Nodup := by
    have hall := hbooked.once
    rw [hlog, enteredKeys_append] at hall
    exact (List.nodup_append'.1 hall).1
  have hmem : .entered k (object, some device) ∈ history k pre :=
    List.mem_filter.2 ⟨hin, by simp [Posting.key]⟩
  rcases hpre.life rfl honce with ⟨-, hnothing⟩ | ⟨item, ⟨hheld, hlife⟩ | ⟨how', -, hlife⟩⟩
  · rw [hnothing] at hmem
    cases hmem
  · rw [hlife, List.mem_singleton] at hmem
    obtain ⟨-, rfl⟩ := Posting.entered.inj hmem
    exact absurd rfl (hbooked.orderly pre id device owner how post stock hlog hpre k _ hheld)
  · have hitem : (object, some device) = item := by
      rw [hlife] at hmem
      rcases List.mem_cons.1 hmem with heq | hmem
      · exact (Posting.entered.inj heq).2
      · cases List.mem_singleton.1 hmem
    rw [hitem]
    refine ⟨how', (List.mem_filter.1 (?_ : _ ∈ history k pre)).1⟩
    rw [hlife]
    exact List.mem_cons_of_mem _ List.mem_cons_self

end Runs

/-- A device with a fence, and the end of the connection. -/
def fenceSession : List (Action ℕ) :=
  [.create (.createDevice (some 3)) [] ⟨true, true, [some 7]⟩,
    .create .createFence (Writer.handle 1) ⟨true, true, [some 8]⟩, .disconnect]

theorem fence_session_ends : ∃ s, Run (TableSession.step fun _ _ => true) {} fenceSession s ∧ s.closed = true ∧
    s.log = [.entered (.devices, 1) (7, none), .entered (.fences, 1) (8, some 7),
      .left (.fences, 1) (8, some 7) (.ended (some 7)), .left (.devices, 1) (7, none) (.ended none)] := by
  obtain ⟨s, hs⟩ : ∃ s, runList (TableSession.step fun _ _ => true) {} fenceSession = some s := ⟨_, rfl⟩
  obtain rfl := Option.some.inj (Eq.symm hs)
  exact ⟨_, run_of_runList hs, rfl, rfl⟩

/-- Two fences, the first of which is to be destroyed on a device that is not there. -/
def fencesSession : List (Action ℕ) :=
  [.create (.createDevice (some 3)) [] ⟨true, true, [some 7]⟩,
    .create .createFence (Writer.handle 1) ⟨true, true, [some 8]⟩,
    .create .createFence (Writer.handle 1) ⟨true, true, [some 9]⟩,
    .destroy .destroyFence (Writer.handle 2 ++ Writer.handle 1), .disconnect]

theorem fences_session_ends : ∃ s, Run (TableSession.step fun _ _ => true) {} fencesSession s ∧ s.closed = true ∧
    s.log = [.entered (.devices, 1) (7, none), .entered (.fences, 1) (8, some 7), .entered (.fences, 2) (9, some 7),
      .left (.fences, 1) (8, some 7) .dropped, .left (.fences, 2) (9, some 7) (.ended (some 7)),
      .left (.devices, 1) (7, none) (.ended none)] := by
  obtain ⟨s, hs⟩ : ∃ s, runList (TableSession.step fun _ _ => true) {} fencesSession = some s := ⟨_, rfl⟩
  obtain rfl := Option.some.inj (Eq.symm hs)
  exact ⟨_, run_of_runList hs, rfl, rfl⟩

/-- Both fences have left when the session is over. -/
theorem id_lives_once_fences : ∃ s, Run (TableSession.step fun _ _ => true) {} fencesSession s ∧
    ∀ id ∈ [1, 2], ∃ item how, s.tables.stock (.fences, id) = none ∧
      history (.fences, id) s.log = [.entered (.fences, id) item, .left (.fences, id) item how] := by
  obtain ⟨s, hrun, hover, hlog⟩ := fences_session_ends
  refine ⟨s, hrun, fun id hid => ?_⟩
  have hin : history (.fences, id) s.log ≠ [] := by
    rw [hlog]
    rcases List.mem_pair.1 hid with rfl | rfl <;> exact List.cons_ne_nil _ _
  rcases id_lives_once hrun (.fences, id) with ⟨-, hnothing⟩ | ⟨item, ⟨-, -, hopen⟩ | ⟨how, hleft⟩⟩
  · exact absurd hnothing hin
  · cases hopen.symm.trans hover
  · exact ⟨item, how, hleft⟩

theorem device_goes_last_fence : ∃ how : How ℕ, .left (.fences, 1) (8, some 7) how ∈
    ([.entered (.devices, 1) (7, none), .entered (.fences, 1) (8, some 7),
      .left (.fences, 1) (8, some 7) (.ended (some 7))] : Log ℕ) := by
  obtain ⟨s, hrun, -, hlog⟩ := fence_session_ends
  have hsplit : s.log = [.entered (.devices, 1) (7, none), .entered (.fences, 1) (8, some 7),
      .left (.fences, 1) (8, some 7) (.ended (some 7))] ++ .left (.devices, 1) (7, none) (.ended none) :: [] := hlog
  exact device_goes_last hrun hsplit (List.mem_cons_of_mem _ List.mem_cons_self)

end VkRemote.Server
