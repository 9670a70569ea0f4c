import Mathlib.Data.List.Perm.Basic
import Mathlib.Data.Set.BooleanAlgebra
import Mathlib.Order.CompletePartialOrder
import VulkanRemote.Server.Workers

/-! What every interleaving of the pool's critical sections keeps, and that a pool nobody stops
gets through all it accepted. -/

namespace VkRemote.Server

open VkRemote.Lib

namespace RequestWorkers

variable {β : Type} {threads : ℕ} {w w' : RequestWorkers β}

def onLane (l : ℕ) (js : List (Job β)) : List (Job β) :=
  js.filter fun j => j.lane = l

@[simp] theorem onLane_nil (l : ℕ) : onLane l ([] : List (Job β)) = [] := rfl

@[simp] theorem onLane_append (l : ℕ) (js js' : List (Job β)) :
    onLane l (js ++ js') = onLane l js ++ onLane l js' := List.filter_append js js'

theorem onLane_cons (l : ℕ) (j : Job β) (js : List (Job β)) :
    onLane l (j :: js) = if j.lane = l then j :: onLane l js else onLane l js := by
  simp [onLane, List.filter_cons]

theorem mem_onLane {l : ℕ} {j : Job β} {js : List (Job β)} :
    j ∈ onLane l js ↔ j ∈ js ∧ j.lane = l := by
  simp [onLane]

/-- Lanes part a list of jobs. -/
theorem nodup_of_onLane {js : List (Job β)} (h : ∀ l, (onLane l js).Nodup) : js.Nodup := by
  induction js with
  | nil => exact List.nodup_nil
  | cons j js ih =>
    have hj := h j.lane
    rw [onLane_cons, if_pos rfl, List.nodup_cons, mem_onLane] at hj
    refine List.nodup_cons.2 ⟨fun hmem => hj.1 ⟨hmem, rfl⟩, ih fun l => ?_⟩
    exact (h l).sublist ((List.sublist_cons_self j js).filter _)

/-- The ids of the accepted jobs that are not finished are the active ones, each id one job's. -/
structure Ids (accepted finished : List (Job β)) (activeIds : Finset ℕ) : Prop where
  tickets : accepted.map Job.ticket = List.range accepted.length
  active : ∀ id, id ∈ activeIds ↔ ∃ j ∈ accepted, j ∉ finished ∧ j.requestId = id
  unique : ∀ j ∈ accepted, j ∉ finished → ∀ j' ∈ accepted, j' ∉ finished →
    j.requestId = j'.requestId → j = j'
  limit : activeIds.card ≤ kMaxJobs

/-- `order` is the bookkeeping of a lane: what has started, what is queued and what waits are the
accepted jobs of the lane in the order they came. -/
structure Lanes (w : RequestWorkers β) : Prop where
  order : w.stopping = false → ∀ l, onLane l (w.started ++ w.jobs) ++ w.laneJobs l = onLane l w.accepted
  startedOrder : ∀ l, onLane l w.started <+: onLane l w.accepted
  holder : w.stopping = false → ∀ l, l ≠ 0 →
    (onLane l (w.running ++ w.jobs)).length = if l ∈ w.activeLanes then 1 else 0
  exclusive : ∀ l, l ≠ 0 → (onLane l (w.running ++ w.jobs)).length ≤ 1
  idle : ∀ l, l = 0 ∨ l ∉ w.activeLanes → w.laneJobs l = []
  nonzero : 0 ∉ w.activeLanes

structure Inv (w : RequestWorkers β) : Prop where
  ids : Ids w.accepted w.finished w.activeIds
  lanes : Lanes w
  ran : w.started.Perm (w.running ++ w.finished)
  stopped : w.stopping = true → w.jobs = [] ∧ ∀ l, w.laneJobs l = []

theorem inv_initial : Inv ({} : RequestWorkers β) where
  ids := ⟨rfl, by simp, by simp, Nat.zero_le _⟩
  lanes := ⟨fun _ _ => rfl, fun _ => List.prefix_refl _, fun _ _ _ => rfl, fun _ _ => Nat.zero_le _,
    fun _ _ => rfl, Finset.notMem_empty 0⟩
  ran := List.Perm.refl _
  stopped _ := ⟨rfl, fun _ => rfl⟩

theorem Ids.nodup {accepted finished : List (Job β)} {activeIds : Finset ℕ}
    (h : Ids accepted finished activeIds) : accepted.Nodup :=
  List.Nodup.of_map Job.ticket (h.tickets ▸ List.nodup_range)

section Facts

variable (inv : Inv w)
include inv

theorem Inv.started_subset {j : Job β} (h : j ∈ w.started) : j ∈ w.accepted :=
  (mem_onLane.1 ((inv.lanes.startedOrder j.lane).subset (mem_onLane.2 ⟨h, rfl⟩))).1

theorem Inv.mem_started {j : Job β} : j ∈ w.started ↔ j ∈ w.running ∨ j ∈ w.finished := by
  rw [inv.ran.mem_iff, List.mem_append]

/-- A job that has not started is queued or waits in its lane. -/
theorem Inv.mem_accepted (hs : w.stopping = false) {j : Job β} :
    j ∈ w.accepted ↔ j ∈ w.started ∨ j ∈ w.jobs ∨ j ∈ w.laneJobs j.lane := by
  have h : j ∈ onLane j.lane w.accepted ↔ j ∈ w.accepted := by simp [mem_onLane]
  rw [← h, ← inv.lanes.order hs j.lane]
  simp [mem_onLane]

theorem Inv.lane_nodup (hs : w.stopping = false) (l : ℕ) :
    (onLane l (w.started ++ w.jobs) ++ w.laneJobs l).Nodup := by
  rw [inv.lanes.order hs l]
  exact inv.ids.nodup.filter _

theorem Inv.mem_laneJobs (hs : w.stopping = false) {l : ℕ} {j : Job β} (h : j ∈ w.laneJobs l) :
    j ∈ w.accepted ∧ j.lane = l := by
  have h' : j ∈ onLane l w.accepted := by
    rw [← inv.lanes.order hs l]
    exact List.mem_append_right _ h
  exact mem_onLane.1 h'

theorem Inv.started_nodup : w.started.Nodup :=
  nodup_of_onLane fun l => (inv.ids.nodup.filter _).sublist (inv.lanes.startedOrder l).sublist

theorem Inv.pipeline_nodup (hs : w.stopping = false) : (w.started ++ w.jobs).Nodup :=
  nodup_of_onLane fun l => (inv.lane_nodup hs l).of_append_left

theorem Inv.running_finished_nodup : (w.running ++ w.finished).Nodup :=
  inv.ran.nodup_iff.1 inv.started_nodup

theorem Inv.not_finished_of_running {j : Job β} (h : j ∈ w.running) : j ∉ w.finished :=
  fun hf => List.disjoint_of_nodup_append inv.running_finished_nodup h hf

theorem Inv.not_finished_of_unstarted {j : Job β} (h : j ∉ w.started) : j ∉ w.finished :=
  fun hf => h (inv.mem_started.2 (.inr hf))

theorem Inv.pipeline_of_held {j : Job β} (h : j ∈ w.running ++ w.jobs) : j ∈ w.started ++ w.jobs :=
  List.mem_append.2 ((List.mem_append.1 h).imp_left fun hr => inv.mem_started.2 (.inl hr))

theorem Inv.not_finished_of_held (hs : w.stopping = false) {j : Job β} (h : j ∈ w.running ++ w.jobs) :
    j ∉ w.finished := by
  rcases List.mem_append.1 h with hr | hq
  · exact inv.not_finished_of_running hr
  · exact inv.not_finished_of_unstarted fun hst =>
      List.disjoint_of_nodup_append (inv.pipeline_nodup hs) hst hq

end Facts

section Ids

variable {accepted finished : List (Job β)} {activeIds : Finset ℕ}

theorem Ids.ticket_lt (h : Ids accepted finished activeIds) {j : Job β} (hj : j ∈ accepted) :
    j.ticket < accepted.length := by
  have hmem := List.mem_map_of_mem (f := Job.ticket) hj
  rwa [h.tickets, List.mem_range] at hmem

theorem Ids.ticket_inj (h : Ids accepted finished activeIds) {j k : Job β} (hj : j ∈ accepted)
    (hk : k ∈ accepted) (heq : j.ticket = k.ticket) : j = k :=
  List.inj_on_of_nodup_map (h.tickets ▸ List.nodup_range) hj hk heq

theorem Ids.accept (h : Ids accepted finished activeIds) (hsub : ∀ j ∈ finished, j ∈ accepted)
    {j : Job β} (hticket : j.ticket = accepted.length) (hfresh : j.requestId ∉ activeIds)
    (hroom : activeIds.card < kMaxJobs) :
    Ids (accepted ++ [j]) finished (insert j.requestId activeIds) := by
  have hnew : j ∉ accepted := fun hj => (h.ticket_lt hj).ne hticket
  have hother : ∀ k ∈ accepted, k ∉ finished → k.requestId ≠ j.requestId := fun k hk hkf heq =>
    hfresh ((h.active _).2 ⟨k, hk, hkf, heq⟩)
  refine ⟨?_, fun id => ?_, ?_, ?_⟩
  · simp [h.tickets, hticket, List.range_succ]
  · rw [Finset.mem_insert, h.active]
    constructor
    · rintro (rfl | ⟨k, hk, hkf, rfl⟩)
      · exact ⟨j, by simp, fun hf => hnew (hsub j hf), rfl⟩
      · exact ⟨k, List.mem_append_left _ hk, hkf, rfl⟩
    · rintro ⟨k, hk, hkf, rfl⟩
      rcases List.mem_append.1 hk with hk | hk
      · exact .inr ⟨k, hk, hkf, rfl⟩
      · exact .inl (by rw [List.mem_singleton.1 hk])
  · intro k hk hkf k' hk' hkf' heq
    rcases List.mem_append.1 hk with hk | hk <;> rcases List.mem_append.1 hk' with hk' | hk'
    · exact h.unique k hk hkf k' hk' hkf' heq
    · exact absurd (List.mem_singleton.1 hk' ▸ heq) (hother k hk hkf)
    · exact absurd (List.mem_singleton.1 hk ▸ heq.symm) (hother k' hk' hkf')
    · rw [List.mem_singleton.1 hk, List.mem_singleton.1 hk']
  · exact (Finset.card_insert_le _ _).trans hroom

theorem Ids.retire (h : Ids accepted finished activeIds) {j : Job β} (hj : j ∈ accepted)
    (hjf : j ∉ finished) : Ids accepted (finished ++ [j]) (activeIds.erase j.requestId) := by
  refine ⟨h.tickets, fun id => ?_, fun k hk hkf k' hk' hkf' => ?_, ?_⟩
  · rw [Finset.mem_erase, h.active]
    constructor
    · rintro ⟨hne, k, hk, hkf, rfl⟩
      refine ⟨k, hk, fun hmem => ?_, rfl⟩
      rcases List.mem_append.1 hmem with hmem | hmem
      · exact hkf hmem
      · exact hne (by rw [List.mem_singleton.1 hmem])
    · rintro ⟨k, hk, hkf, rfl⟩
      have hkf' : k ∉ finished := fun hmem => hkf (List.mem_append_left _ hmem)
      refine ⟨fun heq => hkf ?_, k, hk, hkf', rfl⟩
      rw [h.unique k hk hkf' j hj hjf heq]
      simp
  · exact h.unique k hk (fun hmem => hkf (List.mem_append_left _ hmem)) k' hk'
      fun hmem => hkf' (List.mem_append_left _ hmem)
  · exact (Finset.card_le_card (Finset.erase_subset _ _)).trans h.limit

end Ids

theorem onLane_singleton (l : ℕ) (j : Job β) : onLane l [j] = if j.lane = l then [j] else [] := by
  rw [onLane_cons, onLane_nil]

theorem Lanes.enqueue (h : Lanes w) (hs : w.stopping = false) {j : Job β} (ids : Finset ℕ)
    (hfree : j.lane = 0 ∨ j.lane ∉ w.activeLanes) :
    Lanes { w with
      activeIds := ids
      accepted := w.accepted ++ [j]
      activeLanes := if j.lane = 0 then w.activeLanes else insert j.lane w.activeLanes
      jobs := w.jobs ++ [j] } := by
  have hholder : ∀ l, l ≠ 0 → (onLane l (w.running ++ (w.jobs ++ [j]))).length =
      if l ∈ (if j.lane = 0 then w.activeLanes else insert j.lane w.activeLanes) then 1 else 0 := by
    intro l hl
    rw [← List.append_assoc, onLane_append, onLane_singleton, List.length_append, h.holder hs l hl]
    by_cases hjl : j.lane = l
    · subst hjl
      have hidle := hfree.resolve_left hl
      simp [hl, hidle]
    · have hlj : l ≠ j.lane := fun heq => hjl heq.symm
      by_cases hj0 : j.lane = 0 <;> simp [hjl, hlj, hj0, hl.symm]
  refine ⟨fun _ l => ?_, fun l => ?_, fun _ => hholder, fun l hl => ?_, fun l hl => ?_, ?_⟩
  · dsimp only
    by_cases hjl : j.lane = l
    · have hnil : w.laneJobs l = [] := h.idle l (hjl ▸ hfree)
      have horder := h.order hs l
      rw [hnil, List.append_nil] at horder ⊢
      rw [← List.append_assoc, onLane_append, horder, onLane_append]
    · rw [← List.append_assoc, onLane_append l _ [j], onLane_append l w.accepted, onLane_singleton,
        if_neg hjl, List.append_nil, List.append_nil, h.order hs l]
  · exact (h.startedOrder l).trans ((List.prefix_append _ _).filter _)
  · exact (hholder l hl).le.trans (by split_ifs <;> omega)
  · refine h.idle l (hl.imp_right fun hmem hw => hmem ?_)
    dsimp only
    split
    · exact hw
    · exact Finset.mem_insert_of_mem hw
  · dsimp only
    split
    · exact h.nonzero
    · next hj0 => exact fun hmem => (Finset.mem_insert.1 hmem).elim (fun heq => hj0 heq.symm) h.nonzero

theorem Lanes.park (h : Lanes w) {j : Job β} (ids : Finset ℕ) (hj0 : j.lane ≠ 0)
    (hheld : j.lane ∈ w.activeLanes) :
    Lanes { w with
      activeIds := ids
      accepted := w.accepted ++ [j]
      laneJobs := Function.update w.laneJobs j.lane (w.laneJobs j.lane ++ [j]) } := by
  refine ⟨fun hs l => ?_, fun l => ?_, h.holder, h.exclusive, fun l hl => ?_, h.nonzero⟩
  · dsimp only
    rw [onLane_append l w.accepted, onLane_singleton]
    by_cases hjl : j.lane = l
    · subst hjl
      rw [Function.update_self, ← List.append_assoc, h.order hs, if_pos rfl]
    · rw [Function.update_of_ne (Ne.symm hjl), h.order hs, if_neg hjl, List.append_nil]
  · exact (h.startedOrder l).trans ((List.prefix_append _ _).filter _)
  · have hjl : l ≠ j.lane := by
      rintro rfl
      exact hl.elim hj0 fun hno => hno hheld
    exact (Function.update_of_ne hjl _ _).trans (h.idle l hl)

theorem Lanes.take (h : Lanes w) (hs : w.stopping = false) {j : Job β} {rest : List (Job β)}
    (hjobs : w.jobs = j :: rest) :
    Lanes { w with jobs := rest, running := w.running ++ [j], started := w.started ++ [j] } := by
  have hpipe : w.started ++ [j] ++ rest = w.started ++ w.jobs := by rw [hjobs]; simp
  have hheld : w.running ++ [j] ++ rest = w.running ++ w.jobs := by rw [hjobs]; simp
  refine ⟨fun _ l => ?_, fun l => ?_, fun _ l hl => ?_, fun l hl => ?_, h.idle, h.nonzero⟩
  · simpa only [hpipe] using h.order hs l
  · rw [← h.order hs l, ← hpipe, onLane_append l _ rest, List.append_assoc]
    exact List.prefix_append _ _
  · simpa only [hheld] using h.holder hs l hl
  · simpa only [hheld] using h.exclusive l hl

/-- The jobs queued or running of a lane, one of which leaves its thread. -/
theorem length_onLane_eraseIdx {i : ℕ} {j : Job β} (hi : w.running[i]? = some j) (l : ℕ) :
    (onLane l (w.running ++ w.jobs)).length =
      (onLane l (w.running.eraseIdx i ++ w.jobs)).length + if j.lane = l then 1 else 0 := by
  obtain ⟨hlt, rfl⟩ := List.getElem?_eq_some_iff.1 hi
  have hperm := ((List.getElem_cons_eraseIdx_perm hlt).append_right w.jobs).filter
    fun k => k.lane = l
  have hlen := hperm.length_eq
  rw [onLane, ← hlen]
  change (onLane l (w.running[i] :: (w.running.eraseIdx i ++ w.jobs))).length = _
  rw [onLane_cons]
  split <;> simp

theorem Lanes.retire_zero (h : Lanes w) {i : ℕ} {j : Job β} (hi : w.running[i]? = some j)
    (hj0 : j.lane = 0) : Lanes (w.retire i j) := by
  have hlen : ∀ l, l ≠ 0 → (onLane l (w.running.eraseIdx i ++ w.jobs)).length =
      (onLane l (w.running ++ w.jobs)).length := fun l hl => by
    have hne : j.lane ≠ l := fun heq => hl (heq ▸ hj0)
    rw [length_onLane_eraseIdx hi l, if_neg hne, Nat.add_zero]
  exact ⟨h.order, h.startedOrder, fun hs l hl => (hlen l hl).trans (h.holder hs l hl),
    fun l hl => (hlen l hl).trans_le (h.exclusive l hl), h.idle, h.nonzero⟩

theorem Lanes.handOver (h : Lanes w) (hs : w.stopping = false) {i : ℕ} {j next : Job β}
    {rest : List (Job β)} (hi : w.running[i]? = some j)
    (hwait : w.laneJobs j.lane = next :: rest) (hnext : next.lane = j.lane) :
    Lanes { w.retire i j with
      jobs := w.jobs ++ [next], laneJobs := Function.update w.laneJobs j.lane rest } := by
  have hlen : ∀ l, (onLane l (w.running.eraseIdx i ++ (w.jobs ++ [next]))).length =
      (onLane l (w.running ++ w.jobs)).length := fun l => by
    rw [length_onLane_eraseIdx hi l, ← List.append_assoc, onLane_append l _ [next],
      onLane_singleton, hnext, List.length_append]
    split <;> rfl
  refine ⟨fun _ l => ?_, h.startedOrder, fun hs l hl => (hlen l).trans (h.holder hs l hl),
    fun l hl => (hlen l).trans_le (h.exclusive l hl), fun l hl => ?_, h.nonzero⟩
  · have horder := h.order hs l
    by_cases hjl : j.lane = l
    · subst hjl
      rw [hwait] at horder
      simpa [RequestWorkers.retire, onLane_singleton, hnext] using horder
    · have hnl : next.lane ≠ l := hnext ▸ hjl
      simpa [RequestWorkers.retire, onLane_singleton, hnl, Function.update_of_ne (Ne.symm hjl)] using horder
  · have hne : l ≠ j.lane := by
      rintro rfl
      have hnil := h.idle j.lane hl
      rw [hwait] at hnil
      cases hnil
    exact (Function.update_of_ne hne _ _).trans (h.idle l hl)

theorem Lanes.release (h : Lanes w) {i : ℕ} {j : Job β} (hi : w.running[i]? = some j)
    (hwait : w.laneJobs j.lane = []) :
    Lanes { w.retire i j with activeLanes := w.activeLanes.erase j.lane } := by
  refine ⟨h.order, h.startedOrder, fun hs l hl => ?_, fun l hl => ?_, fun l hl => ?_,
    fun hmem => h.nonzero (Finset.mem_of_mem_erase hmem)⟩
  · have hhold := h.holder hs l hl
    rw [length_onLane_eraseIdx hi l] at hhold
    by_cases hjl : j.lane = l
    · subst hjl
      rw [if_pos rfl] at hhold
      rw [if_neg (Finset.notMem_erase _ _)]
      split at hhold
      · exact Nat.succ.inj hhold
      · cases hhold
    · rw [if_neg hjl, Nat.add_zero] at hhold
      simpa [RequestWorkers.retire, Finset.mem_erase, Ne.symm hjl] using hhold
  · have hone := h.exclusive l hl
    rw [length_onLane_eraseIdx hi l] at hone
    exact (Nat.le_add_right _ _).trans hone
  · by_cases hjl : l = j.lane
    · exact hjl ▸ hwait
    · exact h.idle l (hl.imp_right fun hno hmem => hno (Finset.mem_erase.2 ⟨hjl, hmem⟩))

/-- What an accepting `submit` sees. -/
structure Accepts (w : RequestWorkers β) (requestId : ℕ) : Prop where
  unstopped : w.stopping = false
  fresh : requestId ∉ w.activeIds
  room : w.activeIds.card < kMaxJobs

theorem submit_refused {requestId : ℕ} (lane : ℕ) (run : β) (h : ¬ Accepts w requestId) :
    w.submit requestId run lane = (w, false) := by
  unfold submit
  rw [if_pos]
  by_contra hno
  push Not at hno
  exact h ⟨by simpa using hno.1, hno.2.1, hno.2.2⟩

theorem submit_accepts {requestId lane : ℕ} {run : β} :
    (w.submit requestId run lane).2 = true ↔ Accepts w requestId := by
  refine ⟨fun h => ?_, fun h => ?_⟩
  · by_contra hno
    rw [submit_refused _ _ hno] at h
    cases h
  · have hno : ¬ (w.stopping = true ∨ requestId ∈ w.activeIds ∨ kMaxJobs ≤ w.activeIds.card) := by
      simp [h.unstopped, h.fresh, h.room]
    unfold submit
    rw [if_neg hno]
    dsimp only
    split <;> rfl

/-- Everything an accepting `submit` can do. -/
theorem submit_cases {requestId : ℕ} (lane : ℕ) (run : β) (h : Accepts w requestId) :
    ((lane = 0 ∨ lane ∉ w.activeLanes) ∧ (w.submit requestId run lane).1 = { w with
      activeIds := insert requestId w.activeIds
      accepted := w.accepted ++ [⟨w.accepted.length, requestId, lane, run⟩]
      activeLanes := if lane = 0 then w.activeLanes else insert lane w.activeLanes
      jobs := w.jobs ++ [⟨w.accepted.length, requestId, lane, run⟩] }) ∨
    (lane ≠ 0 ∧ lane ∈ w.activeLanes ∧ (w.submit requestId run lane).1 = { w with
      activeIds := insert requestId w.activeIds
      accepted := w.accepted ++ [⟨w.accepted.length, requestId, lane, run⟩]
      laneJobs := Function.update w.laneJobs lane
        (w.laneJobs lane ++ [⟨w.accepted.length, requestId, lane, run⟩]) }) := by
  have hno : ¬ (w.stopping = true ∨ requestId ∈ w.activeIds ∨ kMaxJobs ≤ w.activeIds.card) := by
    simp [h.unstopped, h.fresh, h.room]
  unfold submit
  rw [if_neg hno]
  by_cases hfree : lane = 0 ∨ lane ∉ w.activeLanes
  · exact .inl ⟨hfree, congrArg Prod.fst (if_pos hfree)⟩
  · have hheld := not_or.1 hfree
    exact .inr ⟨hheld.1, not_not.1 hheld.2, congrArg Prod.fst (if_neg hfree)⟩

theorem take_cases (h : w.take threads = some w') :
    w.stopping = false ∧ w.running.length < threads ∧ ∃ j rest, w.jobs = j :: rest ∧
      w' = { w with jobs := rest, running := w.running ++ [j], started := w.started ++ [j] } := by
  unfold take at h
  split at h
  · cases h
  · next hs =>
    split at h
    · next hlt =>
      split at h
      · cases h
      · next j rest hjobs =>
        exact ⟨by simpa using hs, hlt, j, rest, hjobs, (Option.some.inj h).symm⟩
    · cases h

theorem file_cases {i : ℕ} (h : w.file i = some w') :
    ∃ j, w.running[i]? = some j ∧ w' = (w.retire i j).handOver j.lane := by
  unfold file at h
  split at h
  · cases h
  · next j hi => exact ⟨j, hi, (Option.some.inj h).symm⟩

theorem handOver_cases (w : RequestWorkers β) (lane : ℕ) :
    (lane = 0 ∧ w.handOver lane = w) ∨
    (lane ≠ 0 ∧ ∃ next rest, w.laneJobs lane = next :: rest ∧ w.handOver lane =
      { w with jobs := w.jobs ++ [next], laneJobs := Function.update w.laneJobs lane rest }) ∨
    (lane ≠ 0 ∧ w.laneJobs lane = [] ∧
      w.handOver lane = { w with activeLanes := w.activeLanes.erase lane }) := by
  unfold handOver
  split
  · next h0 => exact .inl ⟨h0, rfl⟩
  · next h0 =>
    cases hwait : w.laneJobs lane with
    | nil => exact .inr (.inr ⟨h0, rfl, rfl⟩)
    | cons next rest => exact .inr (.inl ⟨h0, next, rest, rfl, rfl⟩)

theorem take_accepted (h : w.take threads = some w') : w'.accepted = w.accepted := by
  obtain ⟨-, -, j, rest, -, rfl⟩ := take_cases h
  rfl

theorem file_accepted {i : ℕ} (h : w.file i = some w') : w'.accepted = w.accepted := by
  obtain ⟨j, -, rfl⟩ := file_cases h
  rcases handOver_cases (w.retire i j) j.lane with ⟨-, heq⟩ | ⟨-, next, rest, -, heq⟩ | ⟨-, -, heq⟩ <;>
    rw [heq] <;> rfl

theorem stop_accepted (w : RequestWorkers β) : w.stop.accepted = w.accepted := by
  unfold stop
  split <;> rfl

theorem submit_accepted {requestId : ℕ} (lane : ℕ) (run : β) (h : Accepts w requestId) :
    (w.submit requestId run lane).1.accepted =
      w.accepted ++ [⟨w.accepted.length, requestId, lane, run⟩] := by
  rcases submit_cases lane run h with ⟨-, heq⟩ | ⟨-, -, heq⟩ <;> rw [heq]

theorem inv_submit (inv : Inv w) (requestId : ℕ) (run : β) (lane : ℕ) :
    Inv (w.submit requestId run lane).1 := by
  by_cases h : Accepts w requestId
  · have hids : Ids (w.accepted ++ [⟨w.accepted.length, requestId, lane, run⟩]) w.finished
        (insert requestId w.activeIds) :=
      inv.ids.accept (fun j hj => inv.started_subset (inv.mem_started.2 (.inr hj))) rfl h.fresh h.room
    have hopen : w.stopping ≠ true := by simp [h.unstopped]
    rcases submit_cases lane run h with ⟨hfree, heq⟩ | ⟨hl0, hheld, heq⟩ <;> rw [heq]
    · exact ⟨hids, inv.lanes.enqueue (j := ⟨_, requestId, lane, run⟩) h.unstopped _ hfree, inv.ran,
        fun hs => absurd hs hopen⟩
    · exact ⟨hids, inv.lanes.park (j := ⟨_, requestId, lane, run⟩) _ hl0 hheld, inv.ran,
        fun hs => absurd hs hopen⟩
  · rw [submit_refused lane run h]
    exact inv

theorem inv_take (inv : Inv w) (h : w.take threads = some w') : Inv w' := by
  obtain ⟨hs, -, j, rest, hjobs, rfl⟩ := take_cases h
  refine ⟨inv.ids, inv.lanes.take hs hjobs, ?_, fun hs' => absurd hs' (by simp [hs])⟩
  calc (w.started ++ [j]).Perm (w.running ++ w.finished ++ [j]) := inv.ran.append_right _
    List.Perm _ (w.running ++ [j] ++ w.finished) := by
      rw [List.append_assoc, List.append_assoc]
      exact List.perm_append_comm.append_left _

theorem Lanes.stop (h : Lanes w) :
    Lanes { w with stopping := true, jobs := [], laneJobs := fun _ => [] } where
  order hs := Bool.noConfusion hs
  startedOrder := h.startedOrder
  holder hs := Bool.noConfusion hs
  exclusive l hl := by
    have hle := h.exclusive l hl
    rw [onLane_append, List.length_append] at hle
    simpa using (Nat.le_add_right _ _).trans hle
  idle _ _ := rfl
  nonzero := h.nonzero

theorem inv_stop (inv : Inv w) : Inv w.stop := by
  unfold stop
  split
  · exact inv
  · exact ⟨inv.ids, inv.lanes.stop, inv.ran, fun _ => ⟨rfl, fun _ => rfl⟩⟩

theorem inv_file (inv : Inv w) {i : ℕ} (h : w.file i = some w') : Inv w' := by
  obtain ⟨j, hi, rfl⟩ := file_cases h
  have hmem : j ∈ w.running := List.mem_of_getElem? hi
  have hids : Ids w.accepted (w.finished ++ [j]) (w.activeIds.erase j.requestId) :=
    inv.ids.retire (inv.started_subset (inv.mem_started.2 (.inl hmem))) (inv.not_finished_of_running hmem)
  have hran : w.started.Perm (w.running.eraseIdx i ++ (w.finished ++ [j])) := by
    obtain ⟨hlt, rfl⟩ := List.getElem?_eq_some_iff.1 hi
    calc w.started.Perm (w.running ++ w.finished) := inv.ran
      List.Perm _ (w.running[i] :: w.running.eraseIdx i ++ w.finished) :=
        (List.getElem_cons_eraseIdx_perm hlt).symm.append_right _
      List.Perm _ (w.running.eraseIdx i ++ (w.finished ++ [w.running[i]])) := by
        rw [← List.append_assoc]
        exact (List.perm_append_singleton _ _).symm
  rcases handOver_cases (w.retire i j) j.lane with ⟨h0, heq⟩ | ⟨h0, next, rest, hwait, heq⟩ |
    ⟨h0, hwait, heq⟩ <;> rw [heq]
  · exact ⟨hids, inv.lanes.retire_zero hi h0, hran, inv.stopped⟩
  · have hs : w.stopping = false := by
      by_contra hs
      exact List.cons_ne_nil _ _ (hwait.symm.trans ((inv.stopped (by simpa using hs)).2 j.lane))
    have hmem : next ∈ w.laneJobs j.lane := hwait.symm ▸ List.mem_cons_self
    have hnext := (inv.mem_laneJobs hs hmem).2
    exact ⟨hids, inv.lanes.handOver hs hi hwait hnext, hran,
      fun hs' => absurd hs' (Bool.eq_false_iff.1 hs)⟩
  · exact ⟨hids, inv.lanes.release hi hwait, hran, inv.stopped⟩

theorem inv_step (e : Event β) (inv : Inv w) (h : step threads w e = some w') : Inv w' := by
  cases e with
  | submit requestId run lane =>
    obtain rfl := Option.some.inj h
    exact inv_submit inv requestId run lane
  | take => exact inv_take inv h
  | file i => exact inv_file inv h
  | stop =>
    obtain rfl := Option.some.inj h
    exact inv_stop inv

/-- What no step takes back. Only a stop shortens the queue behind what has started. -/
structure Grows (w w' : RequestWorkers β) : Prop where
  accepted : w.accepted <+: w'.accepted
  started : w.started <+: w'.started
  finished : w.finished <+: w'.finished
  stopping : w'.stopping = false → w.stopping = false
  pipeline : w'.stopping = false → w.started ++ w.jobs <+: w'.started ++ w'.jobs

theorem Grows.refl (w : RequestWorkers β) : Grows w w :=
  ⟨List.prefix_refl _, List.prefix_refl _, List.prefix_refl _, id, fun _ => List.prefix_refl _⟩

theorem Grows.trans {w₁ w₂ w₃ : RequestWorkers β} (h : Grows w₁ w₂) (h' : Grows w₂ w₃) : Grows w₁ w₃ where
  accepted := h.accepted.trans h'.accepted
  started := h.started.trans h'.started
  finished := h.finished.trans h'.finished
  stopping hs := h.stopping (h'.stopping hs)
  pipeline hs := (h.pipeline (h'.stopping hs)).trans (h'.pipeline hs)

theorem grows_submit (w : RequestWorkers β) (requestId : ℕ) (run : β) (lane : ℕ) :
    Grows w (w.submit requestId run lane).1 := by
  by_cases h : Accepts w requestId
  · rcases submit_cases lane run h with ⟨-, heq⟩ | ⟨-, -, heq⟩ <;> rw [heq]
    · refine ⟨List.prefix_append _ _, List.prefix_refl _, List.prefix_refl _, id, fun _ => ?_⟩
      dsimp only
      rw [← List.append_assoc]
      exact List.prefix_append _ _
    · exact ⟨List.prefix_append _ _, List.prefix_refl _, List.prefix_refl _, id,
        fun _ => List.prefix_refl _⟩
  · rw [submit_refused lane run h]
    exact .refl w

theorem grows_take (h : w.take threads = some w') : Grows w w' := by
  obtain ⟨-, -, j, rest, hjobs, rfl⟩ := take_cases h
  refine ⟨List.prefix_refl _, List.prefix_append _ _, List.prefix_refl _, id, fun _ => ?_⟩
  dsimp only
  rw [hjobs, List.append_assoc, List.singleton_append]

theorem grows_file {i : ℕ} (h : w.file i = some w') : Grows w w' := by
  obtain ⟨j, -, rfl⟩ := file_cases h
  rcases handOver_cases (w.retire i j) j.lane with ⟨-, heq⟩ | ⟨-, next, rest, -, heq⟩ | ⟨-, -, heq⟩ <;>
    rw [heq]
  · exact ⟨List.prefix_refl _, List.prefix_refl _, List.prefix_append _ _, id, fun _ => List.prefix_refl _⟩
  · refine ⟨List.prefix_refl _, List.prefix_refl _, List.prefix_append _ _, id, fun _ => ?_⟩
    dsimp only
    rw [← List.append_assoc]
    exact List.prefix_append _ _
  · exact ⟨List.prefix_refl _, List.prefix_refl _, List.prefix_append _ _, id, fun _ => List.prefix_refl _⟩

theorem grows_stop (w : RequestWorkers β) : Grows w w.stop := by
  unfold stop
  split
  · exact .refl w
  · exact ⟨List.prefix_refl _, List.prefix_refl _, List.prefix_refl _, fun hs => Bool.noConfusion hs,
      fun hs => Bool.noConfusion hs⟩

theorem grows_step (e : Event β) (h : step threads w e = some w') : Grows w w' := by
  cases e with
  | submit requestId run lane =>
    obtain rfl := Option.some.inj h
    exact grows_submit w requestId run lane
  | take => exact grows_take h
  | file i => exact grows_file h
  | stop =>
    obtain rfl := Option.some.inj h
    exact grows_stop w

theorem busy_step (e : Event β) (hle : w.running.length ≤ threads)
    (h : step threads w e = some w') : w'.running.length ≤ threads := by
  cases e with
  | submit requestId run lane =>
    obtain rfl := Option.some.inj h
    by_cases hacc : Accepts w requestId
    · rcases submit_cases lane run hacc with ⟨-, heq⟩ | ⟨-, -, heq⟩ <;> rw [heq] <;>
        exact hle
    · rw [submit_refused lane run hacc]
      exact hle
  | take =>
    obtain ⟨-, hlt, j, rest, -, rfl⟩ := take_cases h
    exact (List.length_append ..).trans_le hlt
  | file i =>
    obtain ⟨j, -, rfl⟩ := file_cases h
    have herase : (w.running.eraseIdx i).length ≤ threads := (List.eraseIdx_sublist _ _).length_le.trans hle
    rcases handOver_cases (w.retire i j) j.lane with ⟨-, heq⟩ | ⟨-, next, rest, -, heq⟩ | ⟨-, -, heq⟩ <;>
      rw [heq] <;> exact herase
  | stop =>
    obtain rfl := Option.some.inj h
    unfold stop
    split <;> exact hle

/-- Every taken job returns, and a thread with nothing to do takes a queued job sooner or later. -/
structure Fair (threads : ℕ) (run : ℕ → RequestWorkers β) : Prop where
  takes : ∀ n, (run n).running.length < threads → (run n).jobs ≠ [] →
    ∃ m, n ≤ m ∧ ((run m).stopping = true ∨ (run n).started.length < (run m).started.length)
  returns : ∀ n, ∀ j ∈ (run n).running, ∃ m, n ≤ m ∧ j ∉ (run m).running

section Liveness

variable {run : ℕ → RequestWorkers β} (hrun : Execution (step threads) {} run) (fair : Fair threads run)
  (hthreads : 0 < threads) (hopen : ∀ n, (run n).stopping = false)
include hrun

theorem inv_at (n : ℕ) : Inv (run n) :=
  hrun.invariant inv_initial (fun _ e _ inv h => inv_step e inv h) n

theorem busy_at (n : ℕ) : (run n).running.length ≤ threads :=
  hrun.invariant (Nat.zero_le _) (fun _ e _ hle h => busy_step e hle h) n

theorem grows_between {n m : ℕ} (hnm : n ≤ m) : Grows (run n) (run m) :=
  hrun.mono Grows.refl (fun _ _ _ => Grows.trans) (fun _ e h => grows_step e h) hnm

include fair

/-- A started job is finished in the end. -/
theorem finishes {n : ℕ} {j : Job β} (hj : j ∈ (run n).started) : ∃ m, n ≤ m ∧ j ∈ (run m).finished := by
  rcases (inv_at hrun n).mem_started.1 hj with hrunning | hfin
  · obtain ⟨m, hm, hgone⟩ := fair.returns n j hrunning
    have hstarted := (grows_between hrun hm).started.subset hj
    exact ⟨m, hm, ((inv_at hrun m).mem_started.1 hstarted).resolve_left hgone⟩
  · exact ⟨n, le_rfl, hfin⟩

include hthreads hopen

/-- While a job is queued, some job starts: a thread is free, or one becomes free. -/
theorem starts_one {n : ℕ} (hjobs : (run n).jobs ≠ []) :
    ∃ m, n ≤ m ∧ (run n).started.length < (run m).started.length := by
  have htakes : ∀ k, (run k).running.length < threads → (run k).jobs ≠ [] →
      ∃ m, k ≤ m ∧ (run k).started.length < (run m).started.length := fun k hlt hne => by
    obtain ⟨m, hm, hstop | hmore⟩ := fair.takes k hlt hne
    · exact absurd hstop (Bool.eq_false_iff.1 (hopen m))
    · exact ⟨m, hm, hmore⟩
  by_cases hfree : (run n).running.length < threads
  · exact htakes n hfree hjobs
  · obtain ⟨r, hr⟩ := List.exists_mem_of_length_pos (hthreads.trans_le (not_lt.1 hfree))
    obtain ⟨m, hm, hrm⟩ := finishes hrun fair ((inv_at hrun n).mem_started.2 (.inl hr))
    have hgrows := grows_between hrun hm
    rcases hgrows.started.length_le.lt_or_eq with hlt | heq
    · exact ⟨m, hm, hlt⟩
    · -- nothing started up to `m`, so the thread that ran `r` is free and the job still queued
      have hsame := hgrows.started.eq_of_length heq
      have hfin : (run n).finished.length < (run m).finished.length := by
        refine hgrows.finished.length_le.lt_of_ne fun hlen => ?_
        rw [← hgrows.finished.eq_of_length hlen] at hrm
        exact (inv_at hrun n).not_finished_of_running hr hrm
      have hn := (inv_at hrun n).ran.length_eq
      have hm' := (inv_at hrun m).ran.length_eq
      rw [List.length_append] at hn hm'
      have hbusy := busy_at hrun n
      have hpipe := hgrows.pipeline (hopen m)
      rw [hsame, List.prefix_append_right_inj] at hpipe
      obtain ⟨m₂, hm₂, hmore⟩ := htakes m (by omega) fun hnil => hjobs (List.prefix_nil.1 (hnil ▸ hpipe))
      exact ⟨m₂, hm.trans hm₂, heq ▸ hmore⟩

/-- A queued job starts: everything before it in the queue does. -/
theorem starts {n : ℕ} {j : Job β} (hj : j ∈ (run n).jobs) : ∃ m, n ≤ m ∧ j ∈ (run m).started := by
  have hlen : 0 < (run n).jobs.length := List.length_pos_of_mem hj
  obtain ⟨m, hm, hlt⟩ := passes (f := fun m => (run m).started.length) (n := n)
    (k := (run n).started.length + (run n).jobs.length - 1) fun m hm hle => by
      refine starts_one hrun fair hthreads hopen fun hnil => ?_
      have hpipe := ((grows_between hrun hm).pipeline (hopen m)).length_le
      rw [hnil, List.append_nil, List.length_append] at hpipe
      omega
  have hpipe : (run n).started ++ (run n).jobs <+: (run m).started :=
    List.prefix_of_prefix_length_le ((grows_between hrun hm).pipeline (hopen m)) (List.prefix_append _ _)
      (by rw [List.length_append]; omega)
  exact ⟨m, hm, hpipe.subset (List.mem_append_right _ hj)⟩

/-- A lane with a waiting job moves on: its one job queued or running is finished in the end. -/
theorem lane_moves {n l : ℕ} (hwait : (run n).laneJobs l ≠ []) :
    ∃ m, n ≤ m ∧ (onLane l ((run n).started ++ (run n).jobs)).length <
      (onLane l ((run m).started ++ (run m).jobs)).length := by
  have inv := inv_at hrun n
  have hheld : ¬ (l = 0 ∨ l ∉ (run n).activeLanes) := fun hidle => hwait (inv.lanes.idle l hidle)
  obtain ⟨hl, hactive⟩ := not_or.1 hheld
  obtain ⟨r, hr⟩ : ∃ r, onLane l ((run n).running ++ (run n).jobs) = [r] := by
    rw [← List.length_eq_one_iff, inv.lanes.holder (hopen n) l hl, if_pos (not_not.1 hactive)]
  have hrmem : r ∈ (run n).running ∨ r ∈ (run n).jobs := by
    have hmem : r ∈ onLane l ((run n).running ++ (run n).jobs) := hr ▸ List.mem_singleton_self r
    exact List.mem_append.1 (mem_onLane.1 hmem).1
  obtain ⟨m₁, hm₁, hstarted⟩ : ∃ m, n ≤ m ∧ r ∈ (run m).started := by
    rcases hrmem with hr | hr
    · exact ⟨n, le_rfl, inv.mem_started.2 (.inl hr)⟩
    · exact starts hrun fair hthreads hopen hr
  obtain ⟨m, hm, hfin⟩ := finishes hrun fair hstarted
  have hnm := hm₁.trans hm
  have hgrows := grows_between hrun hnm
  have inv' := inv_at hrun m
  have hpipe : onLane l ((run n).started ++ (run n).jobs) <+: onLane l ((run m).started ++ (run m).jobs) :=
    (hgrows.pipeline (hopen m)).filter _
  rcases hpipe.length_le.lt_or_eq with hlt | heq
  · exact ⟨m, hnm, hlt⟩
  · -- otherwise the lane still has a job queued or running, one that was there before and is not `r`
    have hsame := hpipe.eq_of_length heq
    have hwait' : (run m).laneJobs l ≠ [] := by
      have hn := congrArg List.length (inv.lanes.order (hopen n) l)
      have hm' := congrArg List.length (inv'.lanes.order (hopen m) l)
      have hle : (onLane l (run n).accepted).length ≤ (onLane l (run m).accepted).length :=
        (hgrows.accepted.filter _).length_le
      have hpos := List.length_pos_iff.2 hwait
      rw [List.length_append] at hn hm'
      exact List.length_pos_iff.1 (by omega)
    have hactive' : l ∈ (run m).activeLanes := by
      by_contra hno
      exact hwait' (inv'.lanes.idle l (.inr hno))
    have hone := inv'.lanes.holder (hopen m) l hl
    rw [if_pos hactive'] at hone
    obtain ⟨r', hr'⟩ := List.length_eq_one_iff.1 hone
    have hr'mem : r' ∈ onLane l ((run m).running ++ (run m).jobs) := hr' ▸ List.mem_singleton_self r'
    obtain ⟨hr'held, hr'l⟩ := mem_onLane.1 hr'mem
    have hr'fin : r' ∉ (run m).finished := inv'.not_finished_of_held (hopen m) hr'held
    have hr'pipe : r' ∈ (run n).started ++ (run n).jobs := by
      have hmem : r' ∈ onLane l ((run m).started ++ (run m).jobs) :=
        mem_onLane.2 ⟨inv'.pipeline_of_held hr'held, hr'l⟩
      exact (mem_onLane.1 (hsame ▸ hmem)).1
    have hr'old : r' ∈ onLane l ((run n).running ++ (run n).jobs) := by
      refine mem_onLane.2 ⟨List.mem_append.2 ?_, hr'l⟩
      refine (List.mem_append.1 hr'pipe).imp_left fun hst => ?_
      exact (inv.mem_started.1 hst).resolve_right fun hf => hr'fin (hgrows.finished.subset hf)
    rw [hr, List.mem_singleton] at hr'old
    exact absurd (hr'old ▸ hfin) hr'fin

/-- Every accepted job starts. -/
theorem starts_accepted {n : ℕ} {j : Job β} (hj : j ∈ (run n).accepted) :
    ∃ m, n ≤ m ∧ j ∈ (run m).started := by
  have hjl : j ∈ onLane j.lane (run n).accepted := mem_onLane.2 ⟨hj, rfl⟩
  have hlen := List.length_pos_of_mem hjl
  have hacc : ∀ m, n ≤ m → onLane j.lane (run n).accepted <+: onLane j.lane (run m).accepted :=
    fun m hm => (grows_between hrun hm).accepted.filter _
  obtain ⟨m, hm, hlt⟩ := passes (n := n) (k := (onLane j.lane (run n).accepted).length - 1)
    (f := fun m => (onLane j.lane ((run m).started ++ (run m).jobs)).length) fun m hm hle => by
      obtain ⟨m', hm', hlt⟩ := lane_moves hrun fair hthreads hopen (n := m) (l := j.lane) fun hnil => by
        have horder := congrArg List.length ((inv_at hrun m).lanes.order (hopen m) j.lane)
        rw [hnil, List.append_nil] at horder
        have hle' := (hacc m hm).length_le
        omega
      exact ⟨m', hm', hlt⟩
  have hpipe : onLane j.lane (run n).accepted <+: onLane j.lane ((run m).started ++ (run m).jobs) := by
    refine List.prefix_of_prefix_length_le (hacc m hm) ?_ (by omega)
    rw [← (inv_at hrun m).lanes.order (hopen m) j.lane]
    exact List.prefix_append _ _
  rcases List.mem_append.1 (mem_onLane.1 (hpipe.subset hjl)).1 with hst | hjobs
  · exact ⟨m, hm, hst⟩
  · obtain ⟨m', hm', hst⟩ := starts hrun fair hthreads hopen hjobs
    exact ⟨m', hm.trans hm', hst⟩

end Liveness

/-! ### The pool schedules what it accepts -/

def queued (w : RequestWorkers β) : Set (Job β) := {j | j ∈ w.jobs}

def waiting (w : RequestWorkers β) : Set (Job β) := {j | ∃ l, j ∈ w.laneJobs l}

def executing (w : RequestWorkers β) : Set (Job β) := {j | j ∈ w.running}

structure Scheduled (w : RequestWorkers β) : Prop where
  active : w.stopping = false →
    (w.activeIds : Set ℕ) = Job.requestId '' (w.queued ∪ w.waiting ∪ w.executing)
  apart : Disjoint w.queued w.waiting ∧ Disjoint (w.queued ∪ w.waiting) w.executing
  ids : Set.InjOn Job.requestId (w.queued ∪ w.waiting ∪ w.executing)
  limit : w.activeIds.card ≤ kMaxJobs
  exclusive : ∀ l, l ≠ 0 → (onLane l (w.running ++ w.jobs)).length ≤ 1
  order : ∀ l, onLane l w.started <+: onLane l w.accepted
  once : w.started.Nodup ∧ w.finished.Nodup ∧ (w.running ++ w.jobs).Nodup ∧ ∀ l, (w.laneJobs l).Nodup
  kept : w.stopping = false → ∀ j ∈ w.accepted, j ∈ w.queued ∪ w.waiting ∪ w.executing ∨ j ∈ w.finished
  held : w.stopping = false → ∀ l ∈ w.activeLanes, ∃ j ∈ w.running ++ w.jobs, j.lane = l
  closed : w.stopping = true → w.queued = ∅ ∧ w.waiting = ∅ ∧ (∀ threads, w.take threads = none) ∧
    ∀ requestId run lane, w.submit requestId run lane = (w, false)

section Facts

variable (inv : Inv w)
include inv

theorem Inv.not_pipeline_of_waiting (hs : w.stopping = false) {j : Job β} (h : j ∈ w.waiting) :
    j ∉ w.started ++ w.jobs := by
  obtain ⟨l, hl⟩ := h
  intro hpipe
  have hlane := (inv.mem_laneJobs hs hl).2
  exact List.disjoint_of_nodup_append (inv.lane_nodup hs l) (mem_onLane.2 ⟨hpipe, hlane⟩) hl

/-- The jobs the pool still holds are the accepted ones that are not finished. -/
theorem Inv.mem_held (hs : w.stopping = false) {j : Job β} :
    j ∈ w.queued ∪ w.waiting ∪ w.executing ↔ j ∈ w.accepted ∧ j ∉ w.finished := by
  constructor
  · rintro ((hq | ⟨l, hl⟩) | hr)
    · exact ⟨(inv.mem_accepted hs).2 (.inr (.inl hq)),
        inv.not_finished_of_held hs (List.mem_append_right _ hq)⟩
    · have hnew := inv.not_pipeline_of_waiting hs ⟨l, hl⟩
      exact ⟨(inv.mem_laneJobs hs hl).1,
        inv.not_finished_of_unstarted fun hst => hnew (List.mem_append_left _ hst)⟩
    · exact ⟨inv.started_subset (inv.mem_started.2 (.inl hr)), inv.not_finished_of_running hr⟩
  · rintro ⟨hacc, hnf⟩
    rcases (inv.mem_accepted hs).1 hacc with hst | hq | hl
    · exact .inr ((inv.mem_started.1 hst).resolve_right hnf)
    · exact .inl (.inl hq)
    · exact .inl (.inr ⟨_, hl⟩)

/-- Stopped or not, what the pool holds is accepted and not finished. -/
theorem Inv.held_unfinished {j : Job β} (h : j ∈ w.queued ∪ w.waiting ∪ w.executing) :
    j ∈ w.accepted ∧ j ∉ w.finished := by
  cases hs : w.stopping with
  | false => exact (inv.mem_held hs).1 h
  | true =>
    obtain ⟨hjobs, hwait⟩ := inv.stopped hs
    rcases h with (hq | ⟨l, hl⟩) | hr
    · exact absurd (show j ∈ w.jobs from hq) (hjobs ▸ List.not_mem_nil)
    · exact absurd hl (hwait l ▸ List.not_mem_nil)
    · exact ⟨inv.started_subset (inv.mem_started.2 (.inl hr)), inv.not_finished_of_running hr⟩

theorem Inv.apart : Disjoint w.queued w.waiting ∧ Disjoint (w.queued ∪ w.waiting) w.executing := by
  cases hs : w.stopping with
  | false =>
    refine ⟨Set.disjoint_left.2 fun j hq hwait => ?_, Set.disjoint_left.2 fun j h hr => ?_⟩
    · exact inv.not_pipeline_of_waiting hs hwait (List.mem_append_right _ hq)
    · have hst := inv.mem_started.2 (.inl hr)
      rcases h with hq | hwait
      · exact List.disjoint_of_nodup_append (inv.pipeline_nodup hs) hst hq
      · exact inv.not_pipeline_of_waiting hs hwait (List.mem_append_left _ hst)
  | true =>
    obtain ⟨hjobs, hwait⟩ := inv.stopped hs
    simp [queued, waiting, hjobs, hwait]

theorem Inv.held_nodup : (w.running ++ w.jobs).Nodup := by
  refine List.nodup_append'.2 ⟨inv.running_finished_nodup.of_append_left, ?_, fun j hr hq => ?_⟩
  · cases hs : w.stopping with
    | false => exact (inv.pipeline_nodup hs).of_append_right
    | true => exact (inv.stopped hs).1 ▸ List.nodup_nil
  · exact Set.disjoint_left.1 inv.apart.2 (.inl hq) hr

theorem Inv.laneJobs_nodup (l : ℕ) : (w.laneJobs l).Nodup := by
  cases hs : w.stopping with
  | false => exact (inv.lane_nodup hs l).of_append_right
  | true => exact (inv.stopped hs).2 l ▸ List.nodup_nil

theorem Inv.lane_held (hs : w.stopping = false) {l : ℕ} (hl : l ∈ w.activeLanes) :
    ∃ j ∈ w.running ++ w.jobs, j.lane = l := by
  have hl0 : l ≠ 0 := fun h0 => inv.lanes.nonzero (h0 ▸ hl)
  have hone := inv.lanes.holder hs l hl0
  rw [if_pos hl] at hone
  obtain ⟨j, hj⟩ := List.exists_mem_of_length_pos (hone ▸ Nat.one_pos)
  exact ⟨j, mem_onLane.1 hj⟩

theorem Inv.scheduled : Scheduled w where
  active hs := by
    ext id
    rw [Finset.mem_coe, inv.ids.active]
    constructor
    · rintro ⟨j, hacc, hnf, rfl⟩
      exact ⟨j, (inv.mem_held hs).2 ⟨hacc, hnf⟩, rfl⟩
    · rintro ⟨j, hj, rfl⟩
      obtain ⟨hacc, hnf⟩ := (inv.mem_held hs).1 hj
      exact ⟨j, hacc, hnf, rfl⟩
  apart := inv.apart
  ids j hj j' hj' heq := by
    obtain ⟨hacc, hnf⟩ := inv.held_unfinished hj
    obtain ⟨hacc', hnf'⟩ := inv.held_unfinished hj'
    exact inv.ids.unique j hacc hnf j' hacc' hnf' heq
  limit := inv.ids.limit
  exclusive := inv.lanes.exclusive
  order := inv.lanes.startedOrder
  once := ⟨inv.started_nodup, inv.running_finished_nodup.of_append_right, inv.held_nodup,
    inv.laneJobs_nodup⟩
  kept hs j hacc := by
    by_cases hf : j ∈ w.finished
    · exact .inr hf
    · exact .inl ((inv.mem_held hs).2 ⟨hacc, hf⟩)
  held hs l hl := inv.lane_held hs hl
  closed hs := by
    obtain ⟨hjobs, hwait⟩ := inv.stopped hs
    refine ⟨by simp [queued, hjobs], by simp [waiting, hwait], fun threads => if_pos hs, ?_⟩
    exact fun requestId run lane => submit_refused lane run fun h => Bool.eq_false_iff.1 h.unstopped hs

end Facts

/-- Over every interleaving the pool keeps its books, and with a thread in the pool and fair threads
every accepted job is finished unless the pool is stopped. -/
theorem run_scheduled (threads : ℕ) :
    (∀ w : RequestWorkers β, Reachable (step threads) {} w → Scheduled w) ∧
    (0 < threads → ∀ run : ℕ → RequestWorkers β, Execution (step threads) {} run → Fair threads run →
      ∀ n, ∀ j ∈ (run n).accepted, ∃ m, n ≤ m ∧ (j ∈ (run m).finished ∨ (run m).stopping = true)) := by
  refine ⟨fun w ⟨_, h⟩ => ?_, fun hthreads run hrun fair n j hj => ?_⟩
  · exact (h.invariant inv_initial fun _ e _ inv h => inv_step e inv h).scheduled
  · by_cases hopen : ∀ m, (run m).stopping = false
    · obtain ⟨m₁, hm₁, hst⟩ := starts_accepted hrun fair hthreads hopen hj
      obtain ⟨m, hm, hfin⟩ := finishes hrun fair hst
      exact ⟨m, hm₁.trans hm, .inl hfin⟩
    · push Not at hopen
      obtain ⟨m, hm⟩ := hopen
      refine ⟨max n m, le_max_left _ _, .inr ?_⟩
      by_contra hno
      exact hm ((grows_between hrun (le_max_right n m)).stopping (by simpa using hno))

/-- Two jobs of one lane on one thread. -/
def twoOnOneLane : List (Event Unit) :=
  [.submit 1 () 5, .submit 2 () 5, .take, .file 0, .take, .file 0]

theorem fair_twoOnOneLane : Fair 1 (thenStill (step 1) {} twoOnOneLane) := by
  have hearly : ∀ n < 6, (thenStill (step 1) {} twoOnOneLane n).running.length < 1 →
      (thenStill (step 1) {} twoOnOneLane n).jobs ≠ [] →
      (thenStill (step 1) {} twoOnOneLane n).started.length < 2 := by decide
  refine ⟨fun n hfree hjobs => ?_, fun n j hj => ⟨max n 6, le_max_left _ _, ?_⟩⟩
  · rcases Nat.lt_or_ge n 6 with hlt | hge
    · exact ⟨6, hlt.le, .inr (hearly n hlt hfree hjobs)⟩
    · rw [thenStill_of_le _ _ hge] at hjobs
      exact absurd rfl hjobs
  · rw [thenStill_of_le _ _ (le_max_right n 6)]
    exact List.not_mem_nil

theorem run_scheduled_twoOnOneLane :
    (∃ w : RequestWorkers Unit, runList (step 1) {} (twoOnOneLane.take 3) = some w ∧ Scheduled w) ∧
    ∃ m, 2 ≤ m ∧ ((⟨1, 2, 5, ()⟩ : Job Unit) ∈ (thenStill (step 1) {} twoOnOneLane m).finished ∨
      (thenStill (step 1) {} twoOnOneLane m).stopping = true) :=
  ⟨⟨_, rfl, (run_scheduled 1).1 _ ⟨twoOnOneLane.take 3, run_of_runList rfl⟩⟩,
    (run_scheduled 1).2 Nat.one_pos _ (execution_thenStill rfl) fair_twoOnOneLane 2 ⟨1, 2, 5, ()⟩
      (by decide)⟩

/-- A stop drops the queued job but keeps its id and its lane. -/
theorem stop_keeps_books : ∃ w : RequestWorkers Unit, Reachable (step 8) {} w ∧
    1 ∈ w.activeIds ∧ w.queued ∪ w.waiting ∪ w.executing = ∅ ∧
    5 ∈ w.activeLanes ∧ w.running ++ w.jobs = [] := by
  refine ⟨_, ⟨[.submit 1 () 5, .stop], run_of_runList rfl⟩, ?_, ?_, ?_, rfl⟩
  · decide
  · refine Set.eq_empty_of_forall_notMem ?_
    rintro j ((hq | ⟨l, hl⟩) | hr)
    · exact absurd (show j ∈ ([] : List (Job Unit)) from hq) List.not_mem_nil
    · exact absurd (show j ∈ ([] : List (Job Unit)) from hl) List.not_mem_nil
    · exact absurd (show j ∈ ([] : List (Job Unit)) from hr) List.not_mem_nil
  · decide

end RequestWorkers

end VkRemote.Server
