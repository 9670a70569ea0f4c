import Mathlib.Tactic
import VulkanRemote.Client.Metadata

/-! The places where the client keeps a set of written memories (a queue, a fence, a binary
semaphore, a record of a timeline semaphore), and what the commit of a submit does to each: the
sets only grow, new records appear, and a released wait feeds the sets of its queue. -/

namespace VkRemote.Client

inductive Slot
  | queue (q : QueueId)
  | fence (f : FenceId)
  | binary (s : SemaphoreId)
  | timeline (s : SemaphoreId) (value : ℕ)
  deriving DecidableEq

/-- What a semaphore's entry says besides the writes. -/
structure Shape where
  timeline : Bool
  pending : List PendingSemaphoreWait
  acquiredValue : ℕ
  values : List ℕ

def SemaphoreProvenance.shape (s : SemaphoreProvenance) : Shape where
  timeline := s.timeline
  pending := s.pendingWaits
  acquiredValue := s.acquiredTimelineValue
  values := s.timelineWrites.map TimelineSignalWrites.value

/-- What a signal does to the entry of its semaphore, besides the writes. -/
def Shape.signal (p : PlannedSignal) (sh : Shape) : Shape :=
  { sh with
    pending := sh.pending.filter (SemaphoreProvenance.outlasts p)
    values := if p.timeline then sh.values ++ [p.value] else sh.values }

/-- Where a signal leaves its record. -/
def PlannedSignal.slot (p : PlannedSignal) : Slot :=
  if p.timeline then .timeline p.semaphoreId p.value else .binary p.semaphoreId

namespace Metadata

variable {md md' : Metadata} {c : Slot} {q q₀ : QueueId} {n a : ℕ} {ws ws' : Writes}
  {s : SemaphoreId}

/-- The slot belongs to the queue, at serial `n` or later, and holds `ws`. -/
def Carries (md : Metadata) (c : Slot) (q : QueueId) (n : ℕ) (ws : Writes) : Prop :=
  match c with
  | .queue q' => q' = q ∧ md.queueWrites q' = ws
  | .fence f => ∃ p, md.fenceWrites f = some p ∧ p.queueId = q ∧ n ≤ p.submissionSerial ∧
      p.memoryIds = ws
  | .binary s => ∃ p, md.semaphores s = some p ∧ p.binarySignaled = true ∧
      p.binaryQueueId = q ∧ n ≤ p.binarySubmissionSerial ∧ p.binaryWrites = ws
  | .timeline s u => ∃ p, md.semaphores s = some p ∧ ∃ r ∈ p.timelineWrites, r.value = u ∧
      r.queueId = q ∧ n ≤ r.submissionSerial ∧ r.memoryIds = ws

def shape (md : Metadata) (s : SemaphoreId) : Shape := ((md.semaphores s).getD {}).shape

/-- Every slot keeps what it holds, and those of the queue of a wait in `waits`, from the wait's
serial on, gain `ws`. -/
structure Feeds (md md' : Metadata) (ws : Writes) (waits : List PendingSemaphoreWait) : Prop where
  carries : ∀ c q n held, md.Carries c q n held → ∃ held', md'.Carries c q n held' ∧
    held ⊆ held' ∧ ∀ w ∈ waits, w.queueId = q → w.submissionSerial ≤ n → ws ⊆ held'
  shape : ∀ s, md'.shape s = md.shape s
  known : ∀ s, (md.semaphores s).isSome → (md'.semaphores s).isSome
  serial : md'.nextSubmissionSerial = md.nextSubmissionSerial

theorem Feeds.trans {md'' : Metadata} {waits waits' : List PendingSemaphoreWait}
    (h : Feeds md md' ws waits) (h' : Feeds md' md'' ws waits') :
    Feeds md md'' ws (waits ++ waits') where
  carries c q n held hc := by
    obtain ⟨held', hc', hle, hfed⟩ := h.carries c q n held hc
    obtain ⟨held'', hc'', hle', hfed'⟩ := h'.carries c q n held' hc'
    refine ⟨held'', hc'', hle.trans hle', fun w hw hq hn => ?_⟩
    rcases List.mem_append.1 hw with hw | hw
    · exact (hfed w hw hq hn).trans hle'
    · exact hfed' w hw hq hn
  shape s := (h'.shape s).trans (h.shape s)
  known s hs := h'.known s (h.known s hs)
  serial := h'.serial.trans h.serial

@[simp] theorem update_self (md : Metadata) (s : SemaphoreId)
    (f : SemaphoreProvenance → SemaphoreProvenance) :
    (md.update s f).semaphores s = some (f ((md.semaphores s).getD {})) := by
  simp [update]

theorem update_of_ne (md : Metadata) (f : SemaphoreProvenance → SemaphoreProvenance)
    {s s' : SemaphoreId} (h : s' ≠ s) : (md.update s f).semaphores s' = md.semaphores s' :=
  Function.update_of_ne h _ _

@[simp] theorem update_queueWrites (md : Metadata) (s : SemaphoreId)
    (f : SemaphoreProvenance → SemaphoreProvenance) :
    (md.update s f).queueWrites = md.queueWrites := rfl

@[simp] theorem update_fenceWrites (md : Metadata) (s : SemaphoreId)
    (f : SemaphoreProvenance → SemaphoreProvenance) :
    (md.update s f).fenceWrites = md.fenceWrites := rfl

@[simp] theorem update_nextSubmissionSerial (md : Metadata) (s : SemaphoreId)
    (f : SemaphoreProvenance → SemaphoreProvenance) :
    (md.update s f).nextSubmissionSerial = md.nextSubmissionSerial := rfl

theorem shape_update (md : Metadata) (s : SemaphoreId)
    (f : SemaphoreProvenance → SemaphoreProvenance) (s' : SemaphoreId) :
    (md.update s f).shape s' =
      if s' = s then (f ((md.semaphores s).getD {})).shape else md.shape s' := by
  unfold shape
  split
  · next h => simp [h]
  · next h => rw [update_of_ne _ _ h]

theorem shape_update_of_ne (md : Metadata) (f : SemaphoreProvenance → SemaphoreProvenance)
    {s s' : SemaphoreId} (h : s' ≠ s) : (md.update s f).shape s' = md.shape s' := by
  rw [shape_update, if_neg h]

theorem known_update (md : Metadata) (s : SemaphoreId)
    (f : SemaphoreProvenance → SemaphoreProvenance) (s' : SemaphoreId)
    (h : (md.semaphores s').isSome) : ((md.update s f).semaphores s').isSome := by
  by_cases hs : s' = s
  · simp [hs]
  · rwa [update_of_ne _ _ hs]

/-- A change of one semaphore's entry, as far as the slots see it. -/
theorem Carries.update {f : SemaphoreProvenance → SemaphoreProvenance} (h : md.Carries c q n ws)
    (hb : ∀ p, c = .binary s → md.semaphores s = some p → p.binarySignaled = true →
      (f p).binarySignaled = true ∧ (f p).binaryQueueId = p.binaryQueueId ∧
      (f p).binarySubmissionSerial = p.binarySubmissionSerial ∧
      p.binaryWrites ⊆ (f p).binaryWrites)
    (ht : ∀ p r, md.semaphores s = some p → r ∈ p.timelineWrites →
      ∃ r' ∈ (f p).timelineWrites, r'.value = r.value ∧ r'.queueId = r.queueId ∧
        r'.submissionSerial = r.submissionSerial ∧ r.memoryIds ⊆ r'.memoryIds) :
    ∃ ws', (md.update s f).Carries c q n ws' ∧ ws ⊆ ws' := by
  cases c with
  | queue q' => exact ⟨ws, h, Finset.Subset.refl _⟩
  | fence f' => exact ⟨ws, h, Finset.Subset.refl _⟩
  | binary s' =>
    by_cases hs : s' = s
    · subst hs
      obtain ⟨p, hp, hsig, hq, hn, rfl⟩ := h
      obtain ⟨h1, h2, h3, h4⟩ := hb p rfl hp hsig
      exact ⟨_, ⟨f p, by simp [hp], h1, h2.trans hq, h3 ▸ hn, rfl⟩, h4⟩
    · refine ⟨ws, ?_, Finset.Subset.refl _⟩
      simpa only [Carries, update_of_ne _ _ hs] using h
  | timeline s' u =>
    by_cases hs : s' = s
    · subst hs
      obtain ⟨p, hp, r, hr, hu, hq, hn, rfl⟩ := h
      obtain ⟨r', hr', h1, h2, h3, h4⟩ := ht p r hp hr
      exact ⟨_, ⟨f p, by simp [hp], r', hr', h1.trans hu, h2.trans hq, h3 ▸ hn, rfl⟩, h4⟩
    · refine ⟨ws, ?_, Finset.Subset.refl _⟩
      simpa only [Carries, update_of_ne _ _ hs] using h

/-- An update that leaves the writes of the entry alone. -/
theorem Carries.update_same {f : SemaphoreProvenance → SemaphoreProvenance}
    (h : md.Carries c q n ws)
    (hf : ∀ p, (f p).binarySignaled = p.binarySignaled ∧ (f p).binaryQueueId = p.binaryQueueId ∧
      (f p).binarySubmissionSerial = p.binarySubmissionSerial ∧
      (f p).binaryWrites = p.binaryWrites ∧ (f p).timelineWrites = p.timelineWrites) :
    ∃ ws', (md.update s f).Carries c q n ws' ∧ ws ⊆ ws' := by
  refine h.update (fun p _ _ hs => ?_) fun p r _ hr => ?_
  · obtain ⟨h1, h2, h3, h4, -⟩ := hf p
    exact ⟨h1.trans hs, h2, h3, h4.symm ▸ Finset.Subset.refl _⟩
  · exact ⟨r, (hf p).2.2.2.2.symm ▸ hr, rfl, rfl, rfl, Finset.Subset.refl _⟩

theorem insert_same (q : QueueId) (a : ℕ) (ws : Writes) (r : TimelineSignalWrites) :
    (r.insert q a ws).value = r.value ∧ (r.insert q a ws).queueId = r.queueId ∧
      (r.insert q a ws).submissionSerial = r.submissionSerial ∧
      r.memoryIds ⊆ (r.insert q a ws).memoryIds := by
  unfold TimelineSignalWrites.insert
  split
  · exact ⟨rfl, rfl, rfl, Finset.subset_union_left⟩
  · exact ⟨rfl, rfl, rfl, Finset.Subset.refl _⟩

theorem subset_insert {r : TimelineSignalWrites} (ha : a ≤ r.submissionSerial) :
    ws ⊆ (r.insert r.queueId a ws).memoryIds := by
  rw [TimelineSignalWrites.insert, if_pos ⟨rfl, ha⟩]
  exact Finset.subset_union_right

theorem map_insert_value (q : QueueId) (a : ℕ) (ws : Writes) (rs : List TimelineSignalWrites) :
    (rs.map (TimelineSignalWrites.insert q a ws)).map TimelineSignalWrites.value =
      rs.map TimelineSignalWrites.value := by
  rw [List.map_map]
  exact List.map_congr_left fun r _ => (insert_same q a ws r).1

theorem shape_propagate (q : QueueId) (a : ℕ) (ws : Writes) (p : SemaphoreProvenance) :
    (p.propagate q a ws).shape = p.shape := by
  simp only [SemaphoreProvenance.propagate, SemaphoreProvenance.shape, map_insert_value]

theorem semaphores_propagateQueueWrites {p : SemaphoreProvenance} (h : md.semaphores s = some p) :
    (md.propagateQueueWrites q a ws).semaphores s = some (p.propagate q a ws) := by
  simp [propagateQueueWrites, h]

theorem feeds_propagateQueueWrites (md : Metadata) (ws : Writes) (w : PendingSemaphoreWait) :
    Feeds md (md.propagateQueueWrites w.queueId w.submissionSerial ws) ws [w] := by
  refine ⟨fun c q n held h => ?_, fun s => ?_, fun s hs => ?_, rfl⟩
  · simp only [List.mem_singleton, forall_eq]
    cases c with
    | queue q' =>
      obtain ⟨rfl, rfl⟩ := h
      refine ⟨_, ⟨rfl, rfl⟩, ?_, ?_⟩
      · simp only [propagateQueueWrites]
        by_cases hq : q' = w.queueId
        · rw [hq, Function.update_self]
          exact Finset.subset_union_left
        · rw [Function.update_of_ne hq]
      · rintro rfl -
        simp [propagateQueueWrites]
    | fence f =>
      obtain ⟨p, hp, rfl, hn, rfl⟩ := h
      refine ⟨_, ⟨_, by simp only [propagateQueueWrites, hp]; rfl, ?_, ?_, rfl⟩, ?_, ?_⟩ <;>
        dsimp only
      · split <;> rfl
      · split <;> exact hn
      · split
        · exact Finset.subset_union_left
        · exact Finset.Subset.refl _
      · intro hq ha
        rw [if_pos ⟨hq.symm, ha.trans hn⟩]
        exact Finset.subset_union_right
    | binary s =>
      obtain ⟨p, hp, hsig, rfl, hn, rfl⟩ := h
      refine ⟨_, ⟨_, semaphores_propagateQueueWrites hp, hsig, rfl, hn, rfl⟩, ?_, ?_⟩
      · simp only [SemaphoreProvenance.propagate]
        split
        · exact Finset.subset_union_left
        · exact Finset.Subset.refl _
      · intro hq ha
        have hfed : (p.propagate w.queueId w.submissionSerial ws).binaryWrites =
            p.binaryWrites ∪ ws := if_pos ⟨hsig, hq.symm, ha.trans hn⟩
        exact hfed ▸ Finset.subset_union_right
    | timeline s u =>
      obtain ⟨p, hp, r, hr, rfl, rfl, hn, rfl⟩ := h
      obtain ⟨h1, h2, h3, h4⟩ := insert_same w.queueId w.submissionSerial ws r
      refine ⟨_, ⟨_, semaphores_propagateQueueWrites hp, _, List.mem_map_of_mem hr,
        h1, h2, h3 ▸ hn, rfl⟩, h4, ?_⟩
      intro hq ha
      exact hq ▸ subset_insert (ha.trans hn)
  · simp only [shape, propagateQueueWrites]
    cases md.semaphores s with
    | none => rfl
    | some p => exact shape_propagate _ _ ws p
  · simpa [propagateQueueWrites] using hs

theorem shape_propagateDownstream (w : PendingSemaphoreWait) (ws : Writes)
    (p : SemaphoreProvenance) : (p.propagateDownstream w ws).shape = p.shape := by
  unfold SemaphoreProvenance.propagateDownstream
  split
  · simp only [SemaphoreProvenance.shape, map_insert_value]
  · split <;> rfl

theorem feeds_propagateDownstream (md : Metadata) (ws : Writes) (w : PendingSemaphoreWait)
    (s : SemaphoreId) :
    Feeds md (md.update s (SemaphoreProvenance.propagateDownstream w ws)) ws [] := by
  refine ⟨fun c q n held h => ?_, fun s' => ?_, fun s' => known_update _ _ _ _, rfl⟩
  · simp only [List.not_mem_nil, false_implies, implies_true, and_true]
    refine h.update (fun p _ _ hsig => ?_) fun p r _ hr => ?_ <;>
      unfold SemaphoreProvenance.propagateDownstream
    · split
      · exact ⟨hsig, rfl, rfl, Finset.Subset.refl _⟩
      · split
        · exact ⟨hsig, rfl, rfl, Finset.subset_union_left⟩
        · exact ⟨hsig, rfl, rfl, Finset.Subset.refl _⟩
    · split
      · exact ⟨_, List.mem_map_of_mem hr, insert_same _ _ _ r⟩
      · split <;> exact ⟨r, hr, rfl, rfl, rfl, Finset.Subset.refl _⟩
  · rw [shape_update]
    split
    · next heq => rw [shape_propagateDownstream, heq]; rfl
    · rfl

theorem feeds_release (md : Metadata) (ws : Writes) (w : PendingSemaphoreWait) :
    Feeds md (md.release ws w) ws [w] := by
  have hall : ∀ (ids : List SemaphoreId) md', Feeds md md' ws [w] →
      Feeds md (ids.foldl (fun md id => md.update id
        (SemaphoreProvenance.propagateDownstream w ws)) md') ws [w] := by
    intro ids
    induction ids with
    | nil => exact fun md' h => h
    | cons id ids ih => exact fun md' h => ih _ (h.trans (feeds_propagateDownstream md' ws w id))
  exact hall _ _ (feeds_propagateQueueWrites md ws w)

theorem feeds_releases (md : Metadata) (ws : Writes) (waits : List PendingSemaphoreWait) :
    Feeds md (waits.foldl (fun md w => md.release ws w) md) ws waits := by
  induction waits generalizing md with
  | nil => exact ⟨fun c q n held h => ⟨held, h, Finset.Subset.refl _, by simp⟩, fun _ => rfl,
      fun _ => id, rfl⟩
  | cons w waits ih => exact (feeds_release md ws w).trans (ih _)

theorem carries_signal {p : PlannedSignal} (h : md.Carries c q₀ n ws)
    (hne : c = .binary p.semaphoreId → p.timeline = true) :
    ∃ held, (md.update p.semaphoreId (SemaphoreProvenance.signal q p)).Carries c q₀ n held ∧
      ws ⊆ held := by
  refine h.update (fun e hc _ hsig => ?_) fun e r _ hr => ?_
  · rw [SemaphoreProvenance.signal, if_pos (hne hc)]
    exact ⟨hsig, rfl, rfl, Finset.Subset.refl _⟩
  · unfold SemaphoreProvenance.signal
    split
    · exact ⟨r, List.mem_append_left _ hr, rfl, rfl, rfl, Finset.Subset.refl _⟩
    · exact ⟨r, hr, rfl, rfl, rfl, Finset.Subset.refl _⟩

theorem signal_carries (md : Metadata) (q : QueueId) (p : PlannedSignal) :
    (md.update p.semaphoreId (SemaphoreProvenance.signal q p)).Carries p.slot q
      p.submissionSerial p.memoryIds := by
  unfold PlannedSignal.slot
  split
  · next ht =>
    refine ⟨_, update_self _ _ _, ⟨p.value, q, p.submissionSerial, p.memoryIds⟩, ?_, rfl, rfl,
      le_rfl, rfl⟩
    simp [SemaphoreProvenance.signal, ht]
  · next ht =>
    refine ⟨_, update_self _ _ _, ?_⟩
    simp [SemaphoreProvenance.signal, ht]

theorem pending_signal (md : Metadata) (q : QueueId) (p : PlannedSignal) :
    (((md.update p.semaphoreId (SemaphoreProvenance.signal q p)).semaphores
      p.semaphoreId).getD {}).pendingWaits = (md.shape p.semaphoreId).pending := by
  simp only [update_self, Option.getD_some, SemaphoreProvenance.signal]
  split <;> rfl

theorem commitSignal_eq (md : Metadata) (q : QueueId) (p : PlannedSignal) :
    md.commitSignal q p = (((md.shape p.semaphoreId).pending.filter fun w =>
      !SemaphoreProvenance.outlasts p w).foldl (fun md w => md.release p.memoryIds w)
      (md.update p.semaphoreId (SemaphoreProvenance.signal q p))).update p.semaphoreId
      (SemaphoreProvenance.dropReleased p) := by
  rw [← pending_signal md q p]
  rfl

/-- What is carried after the record of a signal was left is carried on when its waits are
released, and fed by those of its queue. -/
theorem carries_releases {p : PlannedSignal}
    (h : (md.update p.semaphoreId (SemaphoreProvenance.signal q p)).Carries c q₀ n ws) :
    ∃ held, (md.commitSignal q p).Carries c q₀ n held ∧ ws ⊆ held ∧
      ∀ w ∈ (md.shape p.semaphoreId).pending, SemaphoreProvenance.outlasts p w = false →
        w.queueId = q₀ → w.submissionSerial ≤ n → p.memoryIds ⊆ held := by
  obtain ⟨held, hc, hle, hfed⟩ := (feeds_releases _ p.memoryIds
    ((md.shape p.semaphoreId).pending.filter fun w =>
      !SemaphoreProvenance.outlasts p w)).carries c q₀ n ws h
  obtain ⟨held', hc', hle'⟩ := hc.update_same (s := p.semaphoreId)
    (f := SemaphoreProvenance.dropReleased p) fun _ => ⟨rfl, rfl, rfl, rfl, rfl⟩
  refine ⟨held', ?_, hle.trans hle', fun w hw hout hq hn => (hfed w ?_ hq hn).trans hle'⟩
  · rw [commitSignal_eq]
    exact hc'
  · simp [hw, hout]

theorem carries_commitSignal {p : PlannedSignal} (h : md.Carries c q₀ n ws)
    (hne : c = .binary p.semaphoreId → p.timeline = true) :
    ∃ held, (md.commitSignal q p).Carries c q₀ n held ∧ ws ⊆ held ∧
      ∀ w ∈ (md.shape p.semaphoreId).pending, SemaphoreProvenance.outlasts p w = false →
        w.queueId = q₀ → w.submissionSerial ≤ n → p.memoryIds ⊆ held := by
  obtain ⟨held, hc, hle⟩ := carries_signal (q := q) h hne
  obtain ⟨held', hc', hle', hfed⟩ := carries_releases hc
  exact ⟨held', hc', hle.trans hle', hfed⟩

theorem commitSignal_carries (md : Metadata) (q : QueueId) (p : PlannedSignal) :
    ∃ held, (md.commitSignal q p).Carries p.slot q p.submissionSerial held ∧
      p.memoryIds ⊆ held := by
  obtain ⟨held, hc, hle, -⟩ := carries_releases (signal_carries md q p)
  exact ⟨held, hc, hle⟩

theorem shape_commitSignal (md : Metadata) (q : QueueId) (p : PlannedSignal) (s : SemaphoreId) :
    (md.commitSignal q p).shape s =
      if s = p.semaphoreId then (md.shape s).signal p else md.shape s := by
  have hrel := (feeds_releases (md.update p.semaphoreId (SemaphoreProvenance.signal q p))
    p.memoryIds ((md.shape p.semaphoreId).pending.filter fun w =>
      !SemaphoreProvenance.outlasts p w)).shape
  rw [commitSignal_eq, shape_update]
  split
  · next hs =>
    subst hs
    have hown := hrel p.semaphoreId
    rw [shape_update, if_pos rfl] at hown
    simp only [shape, SemaphoreProvenance.shape, SemaphoreProvenance.signal, Shape.mk.injEq] at hown
    simp only [shape, SemaphoreProvenance.shape, Shape.signal, SemaphoreProvenance.dropReleased,
      Shape.mk.injEq]
    obtain ⟨h1, h2, h3, h4⟩ := hown
    rw [h1, h2, h3, h4]
    split <;> simp
  · next hs => rw [hrel s, shape_update_of_ne _ _ hs]

theorem known_commitSignal (q : QueueId) (p : PlannedSignal)
    (h : (md.semaphores s).isSome) : ((md.commitSignal q p).semaphores s).isSome :=
  known_update _ _ _ _ ((feeds_releases _ _ _).known s (known_update _ _ _ _ h))

@[simp] theorem commitSignal_nextSubmissionSerial (md : Metadata) (q : QueueId)
    (p : PlannedSignal) : (md.commitSignal q p).nextSubmissionSerial = md.nextSubmissionSerial :=
  (feeds_releases (md.update p.semaphoreId (SemaphoreProvenance.signal q p)) _ _).serial

end Metadata

end VkRemote.Client
