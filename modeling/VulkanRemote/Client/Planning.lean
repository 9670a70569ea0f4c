import Mathlib.Tactic
import VulkanRemote.Client.Metadata
import VulkanRemote.Lib.Tagged

/-! What the planning half of a submit has gathered, batch by batch: the set the queue comes to
after each batch, the waits that stay pending, and a signal for each signal of each batch. -/

namespace VkRemote.Client

open Lib

/-- The record a signal of batch `e.1` of the call is planned to leave. -/
structure PlannedFor (md : Metadata) (serial : ℕ → ℕ) (N : ℕ → Writes)
    (e : ℕ × SemaphoreSignal) (p : PlannedSignal) : Prop where
  semaphoreId : p.semaphoreId = e.2.semaphore
  timeline : p.timeline = SemaphoreProvenance.isTimeline (md.semaphores e.2.semaphore)
  value : p.timeline = true → p.value = e.2.value.getD 0
  submissionSerial : p.submissionSerial = serial e.1
  memoryIds : N e.1 ⊆ p.memoryIds

/-- The batches `bs` on queue `q` were planned against `md`; `N i` is the set of the queue after
batch `i`. -/
structure Planned (t : ResourceTables) (md : Metadata) (q : QueueId) (serial : ℕ → ℕ)
    (bs : List Submit) (N : ℕ → Writes) (waits : List PlannedWait) (consumed : List SemaphoreId)
    (ps : List PlannedSignal) : Prop where
  mono : ∀ i j, i ≤ j → N i ⊆ N j
  start : ∀ i, md.queueWrites q ⊆ N i
  self : ∀ i b, bs[i]? = some b → Metadata.commandBufferWrites t b ⊆ N i
  learned : ∀ i b w e, bs[i]? = some b → w ∈ b.waits → md.semaphores w.semaphore = some e →
    e.timeline = true ∨ e.binarySignaled = true → (e.waitFor w.value).1 ⊆ N i
  unresolved : ∀ i b w e, bs[i]? = some b → w ∈ b.waits → md.semaphores w.semaphore = some e →
    (e.waitFor w.value).2 = false → ∃ downstream, ⟨w.semaphore, e.pendingValue w, q, serial i,
      downstream⟩ ∈ waits
  consumed : ∀ s ∈ consumed, ∃ b ∈ bs, ∃ w ∈ b.waits, w.semaphore = s
  signals : List.Forall₂ (PlannedFor md serial N) (tagged Submit.signals bs) ps

namespace Metadata

variable {t : ResourceTables} {md : Metadata} {q : QueueId} {serial : ℕ} {p : Plan}
  {b : Submit} {bs : List Submit}

theorem planWait_writes (md : Metadata) (q : QueueId) (serial : ℕ) (p : PlannedWaits) (downstream : List SemaphoreId) (w : SemaphoreWait) :
    p.writes ⊆ (planWait md q serial downstream p w).writes ∧
      p.pending ⊆ (planWait md q serial downstream p w).pending := by
  unfold planWait
  split
  · exact ⟨Finset.Subset.refl _, List.Subset.refl _⟩
  · refine ⟨Finset.subset_union_left, ?_⟩
    dsimp only
    split
    · exact List.Subset.refl _
    · exact List.subset_append_left _ _

theorem planWait_foldl_le (md : Metadata) (q : QueueId) (serial : ℕ) (downstream : List SemaphoreId) (ws : List SemaphoreWait)
    (p : PlannedWaits) :
    p.writes ⊆ (ws.foldl (planWait md q serial downstream) p).writes ∧
      p.pending ⊆ (ws.foldl (planWait md q serial downstream) p).pending := by
  induction ws generalizing p with
  | nil => exact ⟨Finset.Subset.refl _, List.Subset.refl _⟩
  | cons w ws ih =>
    obtain ⟨h1, h2⟩ := planWait_writes md q serial p downstream w
    exact ⟨h1.trans (ih _).1, List.Subset.trans h2 (ih _).2⟩

/-- A known semaphore waited for adds what is behind it, and a wait that is not resolved. -/
theorem planWait_foldl_mem {downstream : List SemaphoreId} {ws : List SemaphoreWait}
    {w : SemaphoreWait} {e : SemaphoreProvenance} (hw : w ∈ ws)
    (he : md.semaphores w.semaphore = some e) (p : PlannedWaits) :
    (e.waitFor w.value).1 ⊆ (ws.foldl (planWait md q serial downstream) p).writes ∧
      ((e.waitFor w.value).2 = false → ⟨w.semaphore, e.pendingValue w, q, serial, downstream⟩ ∈
        (ws.foldl (planWait md q serial downstream) p).pending) := by
  obtain ⟨pre, post, rfl⟩ := List.append_of_mem hw
  rw [List.foldl_append, List.foldl_cons]
  generalize pre.foldl (planWait md q serial downstream) p = p'
  obtain ⟨h1, h2⟩ := planWait_foldl_le md q serial downstream post
    (planWait md q serial downstream p' w)
  refine ⟨Finset.Subset.trans ?_ h1, fun hres => h2 ?_⟩
  · simp only [planWait, he]
    exact Finset.subset_union_right
  · simp [planWait, he, hres]

theorem planWaits_consumed {s : SemaphoreId} {ws : List SemaphoreWait} {p : PlannedWaits}
    {downstream : List SemaphoreId}
    (hs : s ∈ (ws.foldl (planWait md q serial downstream) p).consumed) :
    s ∈ p.consumed ∨ ∃ w ∈ ws, w.semaphore = s := by
  induction ws generalizing p with
  | nil => exact .inl hs
  | cons w ws ih =>
    rcases ih hs with hs | ⟨w', hw', hs⟩
    · have hone : s ∈ p.consumed ∨ s = w.semaphore := by
        unfold planWait at hs
        split at hs
        · exact .inl hs
        · dsimp only at hs
          split at hs
          · exact .inl hs
          · simpa using hs
      exact hone.imp_right fun h => ⟨w, by simp, h.symm⟩
    · exact .inr ⟨w', by simp [hw'], hs⟩

theorem planWait_foldl_consumed_le (md : Metadata) (q : QueueId) (serial : ℕ)
    (downstream : List SemaphoreId) (ws : List SemaphoreWait) (p : PlannedWaits) :
    p.consumed ⊆ (ws.foldl (planWait md q serial downstream) p).consumed := by
  induction ws generalizing p with
  | nil => exact List.Subset.refl _
  | cons w ws ih =>
    refine List.Subset.trans ?_ (ih _)
    unfold planWait
    split
    · exact List.Subset.refl _
    · dsimp only
      split
      · exact List.Subset.refl _
      · exact List.subset_append_left _ _

/-- A binary semaphore waited for is consumed. -/
theorem mem_planWaits_consumed {downstream : List SemaphoreId} {ws : List SemaphoreWait}
    {w : SemaphoreWait} {e : SemaphoreProvenance} (hw : w ∈ ws)
    (he : md.semaphores w.semaphore = some e) (ht : e.timeline = false) (p : PlannedWaits) :
    w.semaphore ∈ (ws.foldl (planWait md q serial downstream) p).consumed := by
  obtain ⟨pre, post, rfl⟩ := List.append_of_mem hw
  rw [List.foldl_append, List.foldl_cons]
  refine planWait_foldl_consumed_le md q serial downstream post _ ?_
  simp [planWait, he, ht]

/-- A wait is planned to stay pending only where what was known did not resolve it. -/
theorem mem_planWaits_pending {downstream : List SemaphoreId} {ws : List SemaphoreWait}
    {p : PlannedWaits} {x : PlannedWait}
    (hx : x ∈ (ws.foldl (planWait md q serial downstream) p).pending) :
    x ∈ p.pending ∨ ∃ w ∈ ws, ∃ e, md.semaphores w.semaphore = some e ∧
      (e.waitFor w.value).2 = false ∧ x.semaphoreId = w.semaphore ∧
      x.wait.value = e.pendingValue w := by
  induction ws generalizing p with
  | nil => exact .inl hx
  | cons w ws ih =>
    rcases ih hx with hx | ⟨w', hw', h⟩
    · unfold planWait at hx
      split at hx
      · exact .inl hx
      · next e he =>
        dsimp only at hx
        split at hx
        · exact .inl hx
        · next hres =>
          rcases List.mem_append.1 hx with hx | hx
          · exact .inl hx
          · obtain rfl := List.mem_singleton.1 hx
            exact .inr ⟨w, by simp, e, he, by simpa using hres, rfl, rfl⟩
    · exact .inr ⟨w', by simp [hw'], h⟩

theorem planBatches_append (as bs : List Submit) (serial : ℕ) (p : Plan) :
    planBatches t md q serial p (as ++ bs) =
      planBatches t md q (serial + as.length) (planBatches t md q serial p as) bs := by
  induction as generalizing serial p with
  | nil => rfl
  | cons a as ih =>
    rw [List.cons_append, planBatches, planBatches, ih, List.length_cons, Nat.add_assoc,
      Nat.add_comm 1]

theorem planBatches_le (bs : List Submit) (serial : ℕ) (p : Plan) :
    p.nextQueueWrites ⊆ (planBatches t md q serial p bs).nextQueueWrites ∧
      p.plannedWaits ⊆ (planBatches t md q serial p bs).plannedWaits := by
  induction bs generalizing serial p with
  | nil => exact ⟨Finset.Subset.refl _, List.Subset.refl _⟩
  | cons b bs ih =>
    obtain ⟨h1, h2⟩ := ih (serial + 1) (planBatch t md q serial p b)
    exact ⟨Finset.subset_union_left.trans h1, List.Subset.trans (List.subset_append_left _ _) h2⟩

/-- The set the queue comes to after batch `i`. -/
def nextAfter (t : ResourceTables) (md : Metadata) (q : QueueId) (serial : ℕ) (p : Plan)
    (bs : List Submit) (i : ℕ) : Writes :=
  (planBatches t md q serial p (bs.take (i + 1))).nextQueueWrites

theorem nextAfter_mono {i j : ℕ} (h : i ≤ j) :
    nextAfter t md q serial p bs i ⊆ nextAfter t md q serial p bs j := by
  obtain ⟨d, rfl⟩ := Nat.exists_eq_add_of_le h
  unfold nextAfter
  conv_rhs => rw [Nat.add_right_comm, List.take_add, planBatches_append]
  exact (planBatches_le _ _ _).1

theorem nextAfter_subset (i : ℕ) :
    nextAfter t md q serial p bs i ⊆ (planBatches t md q serial p bs).nextQueueWrites := by
  conv_rhs => rw [← List.take_append_drop (i + 1) bs, planBatches_append]
  exact (planBatches_le _ _ _).1

theorem take_succ_of_get {i : ℕ} (h : bs[i]? = some b) :
    bs.take (i + 1) = bs.take i ++ [b] ∧ (bs.take i).length = i := by
  obtain ⟨hlt, -⟩ := List.getElem?_eq_some_iff.1 h
  refine ⟨?_, by simp; omega⟩
  rw [List.take_add_one, h]
  rfl

theorem planWaits_subset_nextAfter {i : ℕ} (h : bs[i]? = some b) :
    (planWaits md q (serial + i) (commandBufferWrites t b) b).writes ⊆
      nextAfter t md q serial p bs i := by
  obtain ⟨htake, hlen⟩ := take_succ_of_get h
  rw [nextAfter, htake, planBatches_append, hlen]
  exact Finset.subset_union_right

theorem planWaits_pending_subset {i : ℕ} (h : bs[i]? = some b) :
    (planWaits md q (serial + i) (commandBufferWrites t b) b).pending ⊆
      (planBatches t md q serial p bs).plannedWaits := by
  obtain ⟨htake, hlen⟩ := take_succ_of_get h
  rw [← List.take_append_drop (i + 1) bs, planBatches_append, htake, planBatches_append, hlen]
  refine List.Subset.trans ?_ (planBatches_le _ _ _).2
  exact List.subset_append_right _ _

theorem planBatches_consumed {s : SemaphoreId}
    (hs : s ∈ (planBatches t md q serial p bs).consumedBinary) :
    s ∈ p.consumedBinary ∨ ∃ b ∈ bs, ∃ w ∈ b.waits, w.semaphore = s := by
  induction bs generalizing serial p with
  | nil => exact .inl hs
  | cons b bs ih =>
    rcases ih hs with hs | ⟨b', hb', hw⟩
    · rcases List.mem_append.1 hs with hs | hs
      · exact .inl hs
      · rcases planWaits_consumed hs with hs | hw
        · cases hs
        · exact .inr ⟨b, by simp, hw⟩
    · exact .inr ⟨b', by simp [hb'], hw⟩

theorem mem_planBatches_consumed {w : SemaphoreWait} {e : SemaphoreProvenance} (hb : b ∈ bs)
    (hw : w ∈ b.waits) (he : md.semaphores w.semaphore = some e) (ht : e.timeline = false)
    (serial : ℕ) (p : Plan) :
    w.semaphore ∈ (planBatches t md q serial p bs).consumedBinary := by
  have hle : ∀ (bs : List Submit) (serial : ℕ) (p : Plan),
      p.consumedBinary ⊆ (planBatches t md q serial p bs).consumedBinary := by
    intro bs
    induction bs with
    | nil => exact fun _ _ => List.Subset.refl _
    | cons b bs ih =>
      intro serial p
      have hfirst : p.consumedBinary ⊆ (planBatch t md q serial p b).consumedBinary :=
        List.subset_append_left _ _
      exact List.Subset.trans hfirst (ih _ _)
  induction bs generalizing serial p with
  | nil => cases hb
  | cons a bs ih =>
    rcases List.mem_cons.1 hb with rfl | hb
    · exact hle bs _ _ (List.mem_append_right _ (mem_planWaits_consumed hw he ht _))
    · exact ih hb _ _

theorem mem_planBatches_waits {x : PlannedWait}
    (hx : x ∈ (planBatches t md q serial p bs).plannedWaits) :
    x ∈ p.plannedWaits ∨ ∃ b ∈ bs, ∃ w ∈ b.waits, ∃ e, md.semaphores w.semaphore = some e ∧
      (e.waitFor w.value).2 = false ∧ x.semaphoreId = w.semaphore ∧
      x.wait.value = e.pendingValue w := by
  induction bs generalizing serial p with
  | nil => exact .inl hx
  | cons b bs ih =>
    rcases ih hx with hx | ⟨b', hb', h⟩
    · rcases List.mem_append.1 hx with hx | hx
      · exact .inl hx
      · rcases mem_planWaits_pending hx with hx | h
        · cases hx
        · exact .inr ⟨b, by simp, h⟩
    · exact .inr ⟨b', by simp [hb'], h⟩

theorem planBatches_signals (bs : List Submit) (serial : ℕ) (p : Plan) :
    (planBatches t md q serial p bs).plannedSignals = p.plannedSignals ++
      (tagged Submit.signals bs).map fun e =>
        planSignal md (serial + e.1) (nextAfter t md q serial p bs e.1) e.2 := by
  induction bs generalizing serial p with
  | nil => simp [planBatches, tagged]
  | cons b bs ih =>
    rw [planBatches, ih, tagged, List.map_append, List.map_map, List.map_map, ← List.append_assoc]
    congr 1
    refine List.map_congr_left fun e _ => ?_
    simp only [Function.comp, nextAfter, List.take_succ_cons, planBatches]
    rw [Nat.add_assoc, Nat.add_comm 1]

theorem planned_plan (t : ResourceTables) (md : Metadata) (q : QueueId) (bs : List Submit) :
    Planned t md q (fun i => md.nextSubmissionSerial + i) bs
      (nextAfter t md q md.nextSubmissionSerial { nextQueueWrites := md.queueWrites q } bs)
      (md.plan t q bs).plannedWaits (md.plan t q bs).consumedBinary
      (md.plan t q bs).plannedSignals where
  mono _ _ := nextAfter_mono
  start i := (planBatches_le (bs.take (i + 1)) _ { nextQueueWrites := md.queueWrites q }).1
  self i b hb := (planWait_foldl_le _ _ _ _ _ _).1.trans (planWaits_subset_nextAfter hb)
  learned i b w e hb hw he _ :=
    (planWait_foldl_mem hw he _).1.trans (planWaits_subset_nextAfter hb)
  unresolved i b w e hb hw he hres :=
    ⟨_, planWaits_pending_subset hb ((planWait_foldl_mem hw he _).2 hres)⟩
  consumed s hs := (planBatches_consumed hs).resolve_left fun h => by cases h
  signals := by
    rw [plan, planBatches_signals, List.nil_append, List.forall₂_map_right_iff,
      List.forall₂_same]
    exact fun e _ => ⟨rfl, rfl, fun ht => if_pos ht, rfl, Finset.Subset.refl _⟩

theorem nextAfter_plan (t : ResourceTables) (md : Metadata) (q : QueueId) (bs : List Submit)
    (i : ℕ) : nextAfter t md q md.nextSubmissionSerial { nextQueueWrites := md.queueWrites q } bs i
      ⊆ (md.plan t q bs).nextQueueWrites :=
  nextAfter_subset i

end Metadata

end VkRemote.Client
