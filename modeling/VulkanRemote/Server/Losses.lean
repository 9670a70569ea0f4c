import VulkanRemote.Server.SessionRuns

/-! Which objects a session loses: those that a request takes out of their table before it finds that it has to refuse.
Everything else is passed to its destroy call once. -/

namespace VkRemote.Server

open Lib Wire Marshal

variable {H : Type} [DecidableEq H]

/-- The tables of objects that have a destroy call of their own. Images are left out: those of swapchains have none. -/
def Shelf.isOwn : Shelf → Bool
  | .queues => false
  | .commandBuffers => false
  | .descriptorSets => false
  | .owned .images => false
  | _ => true

def Drops (es : Log H) : Prop := ∃ k item, k.1.isOwn = true ∧ .left k item .dropped ∈ es

/-- What is taken out of the table is passed on to the driver. -/
def DestroyRequest.Forwards (found : LookedUp → H → Bool) (t : ObjectTables H) (request : List UInt8) :
    DestroyRequest → Prop
  | destroyFence =>
    let p := ObjectTables.readIds request
    (t.devices.get p.1).isSome ∨ t.fences.get p.2.1 = none
  | destroySemaphore =>
    let p := ObjectTables.readIds request
    (t.devices.get p.1).isSome ∨ t.semaphores.get p.2.1 = none
  | destroySwapchain =>
    let p := ObjectTables.readIds request
    ∀ swapchain, t.swapchains.get p.2.1 = some swapchain →
      ∃ device, t.devices.get p.1 = some device ∧ t.swapchainDevices swapchain = some device
  | destroyDescriptorUpdateTemplate =>
    let p := ObjectTables.readIds request
    ∀ device, t.devices.get p.1 = some device → t.descriptorUpdateTemplateOwners p.2.1 = some device →
      (t.descriptorUpdateTemplates.get p.2.1).isSome → found .destroyDescriptorUpdateTemplate device
  | destroySamplerYcbcrConversion =>
    let p := ObjectTables.readIds request
    ∀ device, t.devices.get p.1 = some device → t.samplerYcbcrConversionOwners p.2.1 = some device →
      (t.samplerYcbcrConversions.get p.2.1).isSome → found .destroySamplerYcbcrConversion device
  | _ => True

section Drops

variable {t : ObjectTables H} {request : List UInt8} {found : LookedUp → H → Bool}

omit [DecidableEq H] in
theorem drops_append {es es' : Log H} : Drops (es ++ es') ↔ Drops es ∨ Drops es' := by
  unfold Drops
  constructor
  · rintro ⟨k, item, hk, hmem⟩
    exact (List.mem_append.1 hmem).imp (⟨k, item, hk, ·⟩) (⟨k, item, hk, ·⟩)
  · rintro (⟨k, item, hk, hmem⟩ | ⟨k, item, hk, hmem⟩)
    · exact ⟨k, item, hk, List.mem_append_left _ hmem⟩
    · exact ⟨k, item, hk, List.mem_append_right _ hmem⟩

omit [DecidableEq H] in
theorem not_drops_leaving {stock : Key → Option (Item H)} {ks : List (Key × How H)}
    (h : ∀ e ∈ ks, e.2 = .dropped → e.1.1.isOwn = false) : ¬ Drops (leaving stock ks) := by
  rintro ⟨k, item, hk, hmem⟩
  cases hk.symm.trans (h _ (mem_leaving hmem).1 rfl)

omit [DecidableEq H] in
theorem drops_one {stock : Key → Option (Item H)} {k : Key} {how : How H} (hk : k.1.isOwn = true) :
    Drops (leaving stock [(k, how)]) ↔ how = .dropped ∧ (stock k).isSome := by
  have hleaving : leaving stock [(k, how)] = (stock k).toList.map (Posting.left k · how) := by
    unfold leaving
    cases stock k <;> rfl
  unfold Drops
  rw [hleaving]
  cases hstock : stock k with
  | none => simp
  | some item =>
    simp only [Option.toList_some, List.map_cons, List.map_nil, List.mem_singleton, Posting.left.injEq,
      Option.isSome_some, and_true]
    constructor
    · rintro ⟨_, _, -, -, -, heq⟩
      exact heq.symm
    · rintro rfl
      exact ⟨k, item, hk, rfl, rfl, rfl⟩

omit [DecidableEq H] in
theorem handed_eq_dropped {ok : Bool} {device : Option H} :
    How.handed ok device = .dropped ↔ ok = false ∨ device = none := by
  cases ok <;> cases device <;> simp [How.handed]

omit [DecidableEq H] in
theorem isSome_stock (s : Shelf) (id : ℕ) : (t.stock (s, id)).isSome = ((t.shelf s).get id).isSome := by
  rw [Table.get_eq_entry, Option.isSome_map]
  rfl

omit [DecidableEq H] in
/-- A handler that takes its object before it knows the device. -/
theorem drops_handed {s : Shelf} (hs : s.isOwn = true) {device : Option H} {id : ℕ} {ok : Bool}
    (hok : ok = false → id = 0) :
    Drops (leaving t.stock [((s, id), .handed ok device)]) ↔
      ¬ (device.isSome ∨ (t.shelf s).get id = none) := by
  rw [drops_one hs, handed_eq_dropped, isSome_stock]
  cases ok with
  | false =>
    rw [hok rfl]
    simp [Table.get]
  | true =>
    rw [Option.isSome_iff_ne_none]
    cases device <;> simp

/-- A handler that asks for the command after it has taken the object. -/
theorem drops_lookedUp {s : Shelf} (hs : s.isOwn = true) {owner : Option H} {asked : H → Bool} :
    Drops (leaving t.stock (lookedUpDepartures t request (s, (ObjectTables.readIds request).2.1) owner asked)) ↔
      ¬ ∀ d, t.devices.get (ObjectTables.readIds request).1 = some d → owner = some d →
        ((t.shelf s).get (ObjectTables.readIds request).2.1).isSome → asked d := by
  unfold lookedUpDepartures
  dsimp only
  cases t.devices.get (ObjectTables.readIds request).1 with
  | none => exact iff_of_false (not_drops_leaving fun e he => absurd he List.not_mem_nil) (by simp)
  | some device =>
    dsimp only
    cases hok : (ObjectTables.readIds request).2.2.ok with
    | false =>
      rw [readIds_of_not_ok hok]
      exact iff_of_false (not_drops_leaving fun e he => absurd he List.not_mem_nil) (by simp [Table.get])
    | true =>
      by_cases howner : owner = some device
      · rw [if_neg (by simp [howner]), drops_one hs, handed_eq_dropped, isSome_stock]
        cases hasked : asked device <;> simp [howner, hasked, Option.isSome_iff_ne_none]
      · rw [if_pos (by simp [howner])]
        refine iff_of_false (not_drops_leaving fun e he => absurd he List.not_mem_nil) (not_not_intro ?_)
        rintro d heq howned
        exact absurd (howned.trans heq.symm) howner

theorem drops_freeCommandBuffers :
    ¬ Drops (leaving t.stock (DestroyRequest.departures t request found .freeCommandBuffers)) := by
  refine not_drops_leaving fun e he _ => ?_
  obtain ⟨id, -, rfl⟩ := List.mem_map.1 he
  rfl

theorem drops_endDevice (id : ℕ) (device : H) : ¬ Drops (leaving t.stock (t.endDevice id device)) := by
  refine not_drops_leaving ?_
  unfold ObjectTables.endDevice ObjectTables.teardown ObjectTables.endedOn ObjectTables.retiredOn
  rintro ⟨⟨s, id'⟩, how⟩ he hdropped
  obtain rfl : how = .dropped := hdropped
  simp only [List.mem_append, List.mem_flatMap, List.mem_map, Prod.mk.injEq, List.mem_singleton, reduceCtorEq,
    and_false, exists_false, false_or, or_false] at he
  rcases he with ⟨_, -, ⟨rfl, -⟩, -⟩ | ⟨s', hs', _, -, ⟨rfl, -⟩, -⟩
  · rfl
  · have hretired : ∀ s ∈ ObjectTables.retired, s.isOwn = false := by decide
    exact hretired s' hs'

theorem drops_departures_iff (d : DestroyRequest) :
    Drops (leaving t.stock (d.departures t request found)) ↔ ¬ d.Forwards found t request := by
  cases d with
  | destroyDevice =>
    refine iff_of_false ?_ (not_not_intro trivial)
    unfold DestroyRequest.departures
    dsimp only
    split
    · exact not_drops_leaving fun e he => absurd he List.not_mem_nil
    · next device hget =>
      split
      · exact drops_endDevice _ device
      · next hnot =>
        rw [handle_of_not_ok (by simpa using hnot)] at hget
        cases hget
  | destroyFence => exact drops_handed (s := .fences) rfl readIds_of_not_ok
  | destroySemaphore => exact drops_handed (s := .semaphores) rfl readIds_of_not_ok
  | freeCommandBuffers => exact iff_of_false drops_freeCommandBuffers (not_not_intro trivial)
  | destroyOwned table =>
    refine iff_of_false (not_drops_leaving ?_) (not_not_intro trivial)
    unfold DestroyRequest.departures
    dsimp only
    split
    · simp
    · split <;> simp
  | destroyDescriptorPool =>
    refine iff_of_false (not_drops_leaving ?_) (not_not_intro trivial)
    unfold DestroyRequest.departures
    dsimp only
    split
    · split
      · simp
      · intro e he hdropped
        rcases List.mem_append.1 he with he | he
        · obtain ⟨id, -, rfl⟩ := List.mem_map.1 he
          rfl
        · rw [List.mem_singleton.1 he] at hdropped
          cases hdropped
    · simp
  | freeMemory =>
    refine iff_of_false (not_drops_leaving ?_) (not_not_intro trivial)
    unfold DestroyRequest.departures
    dsimp only
    split
    · simp
    · split <;> simp
  | destroySurface =>
    refine iff_of_false ?_ (not_not_intro trivial)
    unfold DestroyRequest.departures
    dsimp only
    rw [drops_one rfl]
    rintro ⟨hdropped, hsome⟩
    split at hdropped
    · cases hdropped
    · next hnot =>
      rw [handle_of_not_ok (by simpa using hnot)] at hsome
      cases hsome
  | destroySwapchain =>
    unfold DestroyRequest.departures DestroyRequest.Forwards
    dsimp only
    have hone : Drops (leaving t.stock [((.swapchains, (ObjectTables.readIds request).2.1), .dropped)]) ↔
        How.dropped = (.dropped : How H) ∧ (t.stock (.swapchains, (ObjectTables.readIds request).2.1)).isSome :=
      drops_one rfl
    rw [isSome_stock] at hone
    change _ ↔ _ ∧ (t.swapchains.get (ObjectTables.readIds request).2.1).isSome = true at hone
    cases hdevice : t.devices.get (ObjectTables.readIds request).1 with
    | none =>
      dsimp only
      rw [hone]
      cases t.swapchains.get (ObjectTables.readIds request).2.1 <;> simp
    | some device =>
      cases hswapchain : t.swapchains.get (ObjectTables.readIds request).2.1 with
      | none =>
        dsimp only
        rw [hone, hswapchain]
        simp
      | some swapchain =>
        have hok : (ObjectTables.readIds request).2.2.ok = true := by
          by_contra hnot
          rw [readIds_of_not_ok (by simpa using hnot)] at hswapchain
          cases hswapchain
        dsimp only
        by_cases howner : t.swapchainDevices swapchain = some device
        · rw [if_neg (by simp [hok, howner])]
          refine iff_of_false (not_drops_leaving fun e he hdropped => ?_) (by simp [howner])
          rcases List.mem_cons.1 he with rfl | he
          · cases hdropped
          · obtain ⟨id, -, rfl⟩ := List.mem_map.1 he
            rfl
        · rw [if_pos (by simp [howner]), hone, hswapchain]
          refine iff_of_true ⟨rfl, rfl⟩ fun h => ?_
          obtain ⟨device', hdevice', howner'⟩ := h swapchain rfl
          exact howner (howner'.trans hdevice'.symm)
  | destroyDescriptorUpdateTemplate =>
    exact drops_lookedUp (s := .descriptorUpdateTemplates) rfl
  | destroySamplerYcbcrConversion =>
    exact drops_lookedUp (s := .samplerYcbcrConversions) rfl

/-- Only command buffers and descriptor sets are given back. -/
def NeverFreed (es : Log H) : Prop := ∀ k item, .left k item .freed ∈ es → k.1.isOwn = false

omit [DecidableEq H] in
theorem neverFreed_leaving {stock : Key → Option (Item H)} {ks : List (Key × How H)}
    (h : ∀ e ∈ ks, e.2 = .freed → e.1.1.isOwn = false) : NeverFreed (leaving stock ks) :=
  fun _ _ hmem => h _ (mem_leaving hmem).1 rfl

omit [DecidableEq H] in
theorem handed_ne_freed (ok : Bool) (device : Option H) : How.handed ok device ≠ .freed := by
  cases ok <;> cases device <;> simp [How.handed]

theorem endDevice_ne_freed (id : ℕ) (device : H) : ∀ e ∈ t.endDevice id device, e.2 ≠ .freed := by
  unfold ObjectTables.endDevice ObjectTables.teardown ObjectTables.endedOn ObjectTables.retiredOn
  rintro ⟨⟨s, id'⟩, how⟩ he rfl
  simp at he

theorem lookedUp_ne_freed {k : Key} {owner : Option H} {asked : H → Bool} :
    ∀ e ∈ lookedUpDepartures t request k owner asked, e.2 ≠ .freed := by
  unfold lookedUpDepartures
  dsimp only
  repeat' split
  all_goals simp [handed_ne_freed]

theorem departures_ne_freed {d : DestroyRequest} (hd : d ≠ .freeCommandBuffers) :
    ∀ e ∈ d.departures t request found, e.2 ≠ .freed := by
  unfold DestroyRequest.departures
  cases d with
  | freeCommandBuffers => exact absurd rfl hd
  | destroyDevice =>
    dsimp only
    split
    · simp
    · split
      · exact endDevice_ne_freed _ _
      · simp
  | destroyFence => exact List.forall_mem_singleton.2 (handed_ne_freed _ _)
  | destroySemaphore => exact List.forall_mem_singleton.2 (handed_ne_freed _ _)
  | destroySurface =>
    refine List.forall_mem_singleton.2 ?_
    dsimp only
    split <;> simp
  | destroyDescriptorPool =>
    dsimp only
    repeat' split
    all_goals simp
    all_goals rintro _ _ (⟨_, _, _, rfl⟩ | ⟨_, rfl⟩) <;> simp
  | destroySwapchain =>
    dsimp only
    repeat' split
    all_goals simp
  | destroyDescriptorUpdateTemplate => exact lookedUp_ne_freed
  | destroySamplerYcbcrConversion => exact lookedUp_ne_freed
  | _ =>
    dsimp only
    repeat' split
    all_goals simp

theorem neverFreed_departures (d : DestroyRequest) :
    NeverFreed (leaving t.stock (d.departures t request found)) := by
  by_cases hfree : d = .freeCommandBuffers
  · subst hfree
    refine neverFreed_leaving fun e he _ => ?_
    obtain ⟨id, -, rfl⟩ := List.mem_map.1 he
    rfl
  · exact neverFreed_leaving fun e he hfreed => absurd hfreed (departures_ne_freed hfree e he)

end Drops

/-- Every object that a request takes out is passed on. -/
def Spared (found : LookedUp → H → Bool) (s : TableSession H) : Action H → Prop
  | .destroy d request => d.Forwards found s.tables request
  | _ => True

section Lost

variable {found : LookedUp → H → Bool} {as : List (Action H)} {s : TableSession H}

/-- What one part of a request writes into the ledger. -/
structure Adds (s s' : TableSession H) (lost : Prop) : Prop where
  log : ∃ es, s'.log = s.log ++ es ∧ (Drops es ↔ lost) ∧ NeverFreed es

omit [DecidableEq H] in
theorem Adds.trans {s' s'' : TableSession H} (h : Adds s s' False) (h' : Adds s' s'' False) : Adds s s'' False := by
  obtain ⟨es, hlog, hdrops, hfreed⟩ := h.log
  obtain ⟨es', hlog', hdrops', hfreed'⟩ := h'.log
  refine ⟨es ++ es', by rw [hlog', hlog, List.append_assoc], ?_, fun k item hmem => ?_⟩
  · rw [drops_append, hdrops, hdrops', or_self]
  · exact (List.mem_append.1 hmem).elim (hfreed k item) (hfreed' k item)

theorem adds_closeDevice (id : ℕ) : Adds s (s.closeDevice id) False := by
  unfold TableSession.closeDevice
  split
  · exact ⟨[], (List.append_nil _).symm, by simp [Drops], fun _ _ hmem => absurd hmem List.not_mem_nil⟩
  · refine ⟨_, rfl, iff_false_intro (drops_endDevice id _), ?_⟩
    exact neverFreed_leaving fun e he hfreed => absurd hfreed (endDevice_ne_freed id _ e he)

theorem adds_closeDevices (ids : List ℕ) : Adds s (ids.foldl TableSession.closeDevice s) False := by
  induction ids generalizing s with
  | nil => exact ⟨[], (List.append_nil _).symm, by simp [Drops], fun _ _ hmem => absurd hmem List.not_mem_nil⟩
  | cons id ids ih => exact (adds_closeDevice id).trans ih

omit [DecidableEq H] in
theorem adds_closeSurfaces : Adds s s.closeSurfaces False := by
  refine ⟨_, rfl, iff_false_intro (not_drops_leaving fun e he hdropped => ?_),
    neverFreed_leaving fun e he hfreed => ?_⟩
  all_goals obtain ⟨id, -, rfl⟩ := List.mem_map.1 he
  · cases hdropped
  · cases hfreed

theorem adds_close : Adds s s.close False :=
  ⟨((adds_closeDevices (List.range' 1 s.tables.devices.slots.length)).trans adds_closeSurfaces).log⟩

omit [DecidableEq H] in
theorem adds_depart {t : ObjectTables H} {ks : List (Key × How H)} (h : ∀ e ∈ ks, e.1.1.isOwn = false) :
    Adds s (s.depart t ks) False :=
  ⟨_, rfl, iff_false_intro (not_drops_leaving fun e he _ => h e he), neverFreed_leaving fun e he _ => h e he⟩

theorem adds_step {a : Action H} {s' : TableSession H} (hs : s.step found a = some s') :
    Adds s s' (¬ Spared found s a) := by
  obtain ⟨-, rfl⟩ := TableSession.step_eq_some.1 hs
  cases a with
  | create c request a =>
    refine ⟨_, rfl, iff_of_false ?_ (not_not_intro trivial), fun k item hmem => ?_⟩
    · rintro ⟨k, item, -, hmem⟩
      obtain ⟨_, _, heq, -⟩ := mem_entering hmem
      cases heq
    · obtain ⟨_, _, heq, -⟩ := mem_entering hmem
      cases heq
  | destroy d request =>
    exact ⟨_, rfl, drops_departures_iff d, neverFreed_departures d⟩
  | freeDescriptorSets request a =>
    have hlost : (¬ Spared found s (.freeDescriptorSets request a)) = False := by simp [Spared]
    rw [hlost]
    refine adds_depart ?_
    unfold freedDepartures
    split
    · simp
    · split <;> simp [Shelf.isOwn]
  | resetDescriptorPool request a =>
    have hlost : (¬ Spared found s (.resetDescriptorPool request a)) = False := by simp [Spared]
    rw [hlost]
    refine adds_depart ?_
    unfold resetDepartures
    split
    · simp
    · split <;> simp [Shelf.isOwn]
  | disconnect =>
    have hlost : (¬ Spared found s .disconnect) = False := by simp [Spared]
    rw [hlost]
    exact adds_close

/-- An object of its own is lost in a run exactly if a request of the run does not pass it on. -/
theorem drops_run_iff (h : Run (TableSession.step found) {} as s) :
    (Drops s.log ↔ ¬ RunWhere (TableSession.step found) (Spared found) {} as s) ∧ NeverFreed s.log := by
  induction h with
  | nil =>
    refine ⟨iff_of_false ?_ (not_not_intro .nil), fun k item hmem => absurd hmem List.not_mem_nil⟩
    rintro ⟨k, item, -, hmem⟩
    exact absurd hmem List.not_mem_nil
  | snoc hrun hstep ih =>
    obtain ⟨hdrops, hfreed⟩ := ih
    obtain ⟨es, hlog, hlost, hnever⟩ := (adds_step hstep).log
    rw [hlog, runWhere_snoc_iff hrun hstep, drops_append, hdrops, hlost, not_and_or]
    refine ⟨Iff.rfl, fun k item hmem => ?_⟩
    exact (List.mem_append.1 hmem).elim (hfreed k item) (hnever k item)

/-- When a session is over, each object with a destroy call of its own has been passed to it once, exactly if every
request of the session passed on what it took. -/
theorem objects_ended_iff (h : Run (TableSession.step found) {} as s) (hover : s.closed = true) :
    (∀ k item, k.1.isOwn = true → .entered k item ∈ s.log →
      ∃ device, history k s.log = [.entered k item, .left k item (.ended device)]) ↔
      RunWhere (TableSession.step found) (Spared found) {} as s := by
  obtain ⟨hdrops, hfreed⟩ := drops_run_iff h
  obtain ⟨hbooked, hempty⟩ := booked_run h
  rw [← not_iff_not, ← hdrops]
  constructor
  · intro hnot
    push Not at hnot
    obtain ⟨k, item, hk, hin, hlife⟩ := hnot
    have hmem : .entered k item ∈ history k s.log := List.mem_filter.2 ⟨hin, by simp [Posting.key]⟩
    rcases hbooked.posts.life rfl hbooked.once with ⟨-, hnothing⟩ | ⟨item', ⟨hheld, -⟩ | ⟨how, -, hleft⟩⟩
    · rw [hnothing] at hmem
      cases hmem
    · cases (hempty hover k).symm.trans hheld
    · have hitem : item = item' := by
        rw [hleft] at hmem
        rcases List.mem_cons.1 hmem with heq | hmem
        · exact (Posting.entered.inj heq).2
        · cases List.mem_singleton.1 hmem
      subst hitem
      have hgone : .left k item how ∈ s.log := by
        refine (List.mem_filter.1 (?_ : _ ∈ history k s.log)).1
        rw [hleft]
        exact List.mem_cons_of_mem _ List.mem_cons_self
      cases how with
      | ended device => exact absurd hleft (hlife device)
      | freed => cases hk.symm.trans (hfreed k item hgone)
      | dropped => exact ⟨k, item, hk, hgone⟩
  · rintro ⟨k, item, hk, hgone⟩ hall
    have hmem : .left k item .dropped ∈ history k s.log := List.mem_filter.2 ⟨hgone, by simp [Posting.key]⟩
    rcases hbooked.posts.life rfl hbooked.once with ⟨-, hnothing⟩ | ⟨item', ⟨-, honly⟩ | ⟨how, -, hleft⟩⟩
    · rw [hnothing] at hmem
      cases hmem
    · rw [honly] at hmem
      cases List.mem_singleton.1 hmem
    · have hin : .entered k item' ∈ s.log := by
        refine (List.mem_filter.1 (?_ : _ ∈ history k s.log)).1
        rw [hleft]
        exact List.mem_cons_self
      obtain ⟨device, hended⟩ := hall k item' hk hin
      rw [hended] at hmem
      rcases List.mem_cons.1 hmem with heq | hmem
      · cases heq
      · cases List.mem_singleton.1 hmem

end Lost

/-- The fence of the one session is destroyed when it ends; in the other the first of two fences is lost. -/
theorem objects_ended_iff_fences :
    (∃ s, Run (TableSession.step fun _ _ => true) {} fenceSession s ∧ ∀ k item, k.1.isOwn = true →
      .entered k item ∈ s.log → ∃ device, history k s.log = [.entered k item, .left k item (.ended device)]) ∧
    ∃ s, Run (TableSession.step fun _ _ => true) {} fencesSession s ∧
      ¬ RunWhere (TableSession.step fun _ _ => true) (Spared fun _ _ => true) {} fencesSession s := by
  constructor
  · obtain ⟨s, hrun, hover, -⟩ := fence_session_ends
    refine ⟨s, hrun, (objects_ended_iff hrun hover).2 ?_⟩
    obtain ⟨s', hs'⟩ : ∃ s', runList (TableSession.step fun _ _ => true) {} fenceSession = some s' := ⟨_, rfl⟩
    obtain rfl := hrun.unique (run_of_runList hs')
    refine runWhere_of_runList hs' fun k a s₁ ha _ => ?_
    have hspared : ∀ a ∈ fenceSession, ∀ s₁, Spared (fun _ _ => true) s₁ a := by
      simp [fenceSession, Spared]
    exact hspared a (List.mem_of_getElem? ha) s₁
  · obtain ⟨s, hrun, hover, hlog⟩ := fences_session_ends
    refine ⟨s, hrun, fun hspared => ?_⟩
    have hin : .entered (.fences, 1) (8, some 7) ∈ s.log := by
      rw [hlog]
      exact List.mem_cons_of_mem _ List.mem_cons_self
    obtain ⟨device, hended⟩ := (objects_ended_iff hrun hover).2 hspared (.fences, 1) (8, some 7) rfl hin
    have hlost : history (.fences, 1) s.log =
        [.entered (.fences, 1) (8, some 7), .left (.fences, 1) (8, some 7) .dropped] := by
      rw [hlog]
      rfl
    cases hlost.symm.trans hended

end VkRemote.Server
