import VulkanRemote.Client.Carriers

/-! What a whole commit leaves: the waits it adds, the signals it leaves records of, one after the
other, and the earlier waits these release. `QueueSubmit` and `QueueBindSparse` get there in
different ways, and what follows from it is proved once for both. -/

namespace VkRemote.Client

/-- The signal that releases a wait on the semaphore: the first the wait does not outlast. -/
def releaser (ps : List PlannedSignal) (s : SemaphoreId) (w : PendingSemaphoreWait) :
    Option PlannedSignal :=
  ps.find? fun p => p.semaphoreId = s && !SemaphoreProvenance.outlasts p w

namespace Metadata

variable {md md' : Metadata} {c : Slot} {q q₀ : QueueId} {n : ℕ} {ws : Writes} {s : SemaphoreId}
  {ps : List PlannedSignal} {w : PendingSemaphoreWait}

/-- From `md` to `md'`, queue `q` comes to `next`, waits are added, binary semaphores consumed,
and signals left. -/
structure Committed (md md' : Metadata) (q : QueueId) (next : Writes) (waits : List PlannedWait)
    (consumed : List SemaphoreId) (ps : List PlannedSignal) : Prop where
  carries : ∀ c q₀ n held, md.Carries c q₀ n held → c ≠ .queue q →
    (∀ s, c = .binary s → s ∉ consumed ∧ ∀ p ∈ ps, p.semaphoreId = s → p.timeline = true) →
    ∃ held', md'.Carries c q₀ n held' ∧ held ⊆ held' ∧
      ∀ s w p, (w ∈ (md.shape s).pending ∨ ⟨s, w⟩ ∈ waits) → releaser ps s w = some p →
        w.queueId = q₀ → w.submissionSerial ≤ n → p.memoryIds ⊆ held'
  queue : next ⊆ md'.queueWrites q
  slot : ∀ pre p post, ps = pre ++ p :: post →
    (p.timeline = false → ∀ p' ∈ post, p'.semaphoreId = p.semaphoreId → p'.timeline = true) →
    ∃ held, md'.Carries p.slot q p.submissionSerial held ∧ p.memoryIds ⊆ held
  pending : ∀ s w, w ∈ (md'.shape s).pending ↔
    (w ∈ (md.shape s).pending ∨ ⟨s, w⟩ ∈ waits) ∧ releaser ps s w = none
  values : ∀ s, (md'.shape s).values = (md.shape s).values ++
    (ps.filter fun p => p.semaphoreId = s && p.timeline).map PlannedSignal.value
  timeline : ∀ s, (md'.shape s).timeline = (md.shape s).timeline
  acquiredValue : ∀ s, (md'.shape s).acquiredValue = (md.shape s).acquiredValue
  known : ∀ s, (md.semaphores s).isSome → (md'.semaphores s).isSome
  serial : md'.nextSubmissionSerial = md.nextSubmissionSerial

theorem releaser_cons_none {p : PlannedSignal} :
    releaser (p :: ps) s w = none ↔
      (p.semaphoreId = s → SemaphoreProvenance.outlasts p w = true) ∧ releaser ps s w = none := by
  simp only [releaser, List.find?_eq_none, List.mem_cons, forall_eq_or_imp]
  simp

theorem mem_pending_commitSignal {p : PlannedSignal} :
    w ∈ ((md.commitSignal q p).shape s).pending ↔ w ∈ (md.shape s).pending ∧
      (p.semaphoreId = s → SemaphoreProvenance.outlasts p w = true) := by
  rw [shape_commitSignal]
  split
  · next h => simp [Shape.signal, h]
  · next h =>
    have hne : p.semaphoreId ≠ s := fun h' => h h'.symm
    simp [hne]

theorem mem_pending_signals :
    w ∈ ((ps.foldl (commitSignal q) md).shape s).pending ↔
      w ∈ (md.shape s).pending ∧ releaser ps s w = none := by
  induction ps generalizing md with
  | nil => simp [releaser]
  | cons p ps ih => rw [List.foldl_cons, ih, mem_pending_commitSignal, releaser_cons_none, and_assoc]

theorem values_signals :
    ((ps.foldl (commitSignal q) md).shape s).values = (md.shape s).values ++
      (ps.filter fun p => p.semaphoreId = s && p.timeline).map PlannedSignal.value := by
  induction ps generalizing md with
  | nil => simp
  | cons p ps ih =>
    rw [List.foldl_cons, ih, shape_commitSignal]
    by_cases hs : p.semaphoreId = s
    · by_cases ht : p.timeline <;> simp [Shape.signal, hs, ht]
    · have hs' : s ≠ p.semaphoreId := fun h => hs h.symm
      simp [hs, hs']

theorem flags_signals :
    ((ps.foldl (commitSignal q) md).shape s).timeline = (md.shape s).timeline ∧
      ((ps.foldl (commitSignal q) md).shape s).acquiredValue = (md.shape s).acquiredValue := by
  induction ps generalizing md with
  | nil => exact ⟨rfl, rfl⟩
  | cons p ps ih =>
    rw [List.foldl_cons, ih.1, ih.2, shape_commitSignal]
    split <;> exact ⟨rfl, rfl⟩

theorem known_signals (h : (md.semaphores s).isSome) :
    ((ps.foldl (commitSignal q) md).semaphores s).isSome := by
  induction ps generalizing md with
  | nil => exact h
  | cons p ps ih => exact ih (known_commitSignal q p h)

theorem serial_signals :
    (ps.foldl (commitSignal q) md).nextSubmissionSerial = md.nextSubmissionSerial := by
  induction ps generalizing md with
  | nil => rfl
  | cons p ps ih => exact ih.trans (commitSignal_nextSubmissionSerial md q p)

theorem carries_signals (q : QueueId) (ps : List PlannedSignal) (h : md.Carries c q₀ n ws)
    (hne : ∀ p ∈ ps, c = .binary p.semaphoreId → p.timeline = true) :
    ∃ held, (ps.foldl (commitSignal q) md).Carries c q₀ n held ∧ ws ⊆ held ∧
      ∀ s w p, w ∈ (md.shape s).pending → releaser ps s w = some p →
        w.queueId = q₀ → w.submissionSerial ≤ n → p.memoryIds ⊆ held := by
  induction ps generalizing md ws with
  | nil => exact ⟨ws, h, Finset.Subset.refl _, fun s w p _ hp => by simp [releaser] at hp⟩
  | cons p ps ih =>
    obtain ⟨held, hc, hle, hfed⟩ := carries_commitSignal (q := q) h (hne p (by simp))
    obtain ⟨held', hc', hle', hfed'⟩ := ih hc fun p' hp' => hne p' (by simp [hp'])
    refine ⟨held', hc', hle.trans hle', fun s w p' hw hp' hq hn => ?_⟩
    rw [releaser, List.find?_cons] at hp'
    split at hp'
    · next hrel =>
      obtain ⟨hs, hout⟩ : p.semaphoreId = s ∧ SemaphoreProvenance.outlasts p w = false := by
        simpa using hrel
      obtain rfl := Option.some.inj hp'
      exact (hfed w (hs ▸ hw) hout hq hn).trans hle'
    · next hrel =>
      refine hfed' s w p' (mem_pending_commitSignal.2 ⟨hw, fun hs => ?_⟩) hp' hq hn
      simpa [hs] using hrel

theorem signals_carries {pre post : List PlannedSignal} {p : PlannedSignal}
    (hps : ps = pre ++ p :: post)
    (hlast : p.timeline = false → ∀ p' ∈ post, p'.semaphoreId = p.semaphoreId →
      p'.timeline = true) :
    ∃ held, (ps.foldl (commitSignal q) md).Carries p.slot q p.submissionSerial held ∧
      p.memoryIds ⊆ held := by
  subst hps
  rw [List.foldl_append, List.foldl_cons]
  obtain ⟨held, hc, hle⟩ := commitSignal_carries (pre.foldl (commitSignal q) md) q p
  obtain ⟨held', hc', hle', -⟩ := carries_signals q post hc fun p' hp' hslot => by
    unfold PlannedSignal.slot at hslot
    split at hslot
    · cases hslot
    · next ht =>
      injection hslot with hs
      exact hlast (by simpa using ht) p' hp' hs.symm
  exact ⟨held', hc', hle.trans hle'⟩

theorem shape_setQueueWrites : (md.setQueueWrites q ws).shape s = md.shape s := rfl

/-- `Carries` of any slot but the queue's own looks past `queue_writes`. -/
theorem carries_setQueueWrites {ws' : Writes} (hc : c ≠ .queue q) :
    (md.setQueueWrites q ws').Carries c q₀ n ws ↔ md.Carries c q₀ n ws := by
  cases c with
  | queue q' =>
    have hq : q' ≠ q := fun h => hc (h ▸ rfl)
    simp [Carries, setQueueWrites, Function.update_of_ne hq]
  | fence f => rfl
  | binary s => rfl
  | timeline s u => rfl

/-- What adding the planned waits and consuming binary semaphores leave as it was. -/
structure Marked (md md' : Metadata) (waits : List PlannedWait) (consumed : List SemaphoreId) :
    Prop where
  carries : ∀ c q n held, md.Carries c q n held → (∀ s, c = .binary s → s ∉ consumed) →
    ∃ held', md'.Carries c q n held' ∧ held ⊆ held'
  queueWrites : md'.queueWrites = md.queueWrites
  pending : ∀ s w, w ∈ (md'.shape s).pending ↔ w ∈ (md.shape s).pending ∨ ⟨s, w⟩ ∈ waits
  values : ∀ s, (md'.shape s).values = (md.shape s).values
  timeline : ∀ s, (md'.shape s).timeline = (md.shape s).timeline
  acquiredValue : ∀ s, (md'.shape s).acquiredValue = (md.shape s).acquiredValue
  known : ∀ s, (md.semaphores s).isSome → (md'.semaphores s).isSome
  serial : md'.nextSubmissionSerial = md.nextSubmissionSerial

theorem Marked.trans {md'' : Metadata} {waits waits' : List PlannedWait}
    {consumed consumed' : List SemaphoreId} (h : Marked md md' waits consumed)
    (h' : Marked md' md'' waits' consumed') :
    Marked md md'' (waits ++ waits') (consumed ++ consumed') where
  carries c q n held hc hs := by
    obtain ⟨held', hc', hle⟩ := h.carries c q n held hc
      fun s hcs hmem => hs s hcs (List.mem_append_left _ hmem)
    obtain ⟨held'', hc'', hle'⟩ := h'.carries c q n held' hc'
      fun s hcs hmem => hs s hcs (List.mem_append_right _ hmem)
    exact ⟨held'', hc'', hle.trans hle'⟩
  queueWrites := h'.queueWrites.trans h.queueWrites
  pending s w := by rw [h'.pending, h.pending, List.mem_append, or_assoc]
  values s := (h'.values s).trans (h.values s)
  timeline s := (h'.timeline s).trans (h.timeline s)
  acquiredValue s := (h'.acquiredValue s).trans (h.acquiredValue s)
  known s hs := h'.known s (h.known s hs)
  serial := h'.serial.trans h.serial

theorem Marked.setQueueWrites {waits : List PlannedWait} {consumed : List SemaphoreId}
    (h : Marked md md' waits consumed) (q : QueueId) (ws : Writes) :
    Marked (md.setQueueWrites q ws) (md'.setQueueWrites q ws) waits consumed where
  carries c q₀ n held hc hs := by
    by_cases hq : c = .queue q
    · subst hq
      obtain ⟨rfl, hheld⟩ := hc
      exact ⟨held, ⟨rfl, by simpa [Metadata.setQueueWrites] using hheld⟩, Finset.Subset.refl _⟩
    · obtain ⟨held', hc', hle⟩ := h.carries c q₀ n held ((carries_setQueueWrites hq).1 hc) hs
      exact ⟨held', (carries_setQueueWrites hq).2 hc', hle⟩
  queueWrites := by simp only [Metadata.setQueueWrites, h.queueWrites]
  pending := h.pending
  values := h.values
  timeline := h.timeline
  acquiredValue := h.acquiredValue
  known := h.known
  serial := h.serial

theorem Marked.refl (md : Metadata) : Marked md md [] [] where
  carries c q n held hc _ := ⟨held, hc, Finset.Subset.refl _⟩
  queueWrites := rfl
  pending s w := by simp
  values _ := rfl
  timeline _ := rfl
  acquiredValue _ := rfl
  known _ := id
  serial := rfl

theorem marked_addWait (md : Metadata) (w : PlannedWait) :
    Marked md (md.update w.semaphoreId (SemaphoreProvenance.addWait w.wait)) [w] [] := by
  have hshape : ∀ s, (md.update w.semaphoreId (SemaphoreProvenance.addWait w.wait)).shape s =
      if s = w.semaphoreId then { md.shape s with pending := (md.shape s).pending ++ [w.wait] }
      else md.shape s := by
    intro s
    rw [shape_update]
    split
    · next hs => rw [hs]; rfl
    · rfl
  refine ⟨fun c q n held hc _ => hc.update_same fun _ => ⟨rfl, rfl, rfl, rfl, rfl⟩, rfl,
    fun s v => ?_, fun s => ?_, fun s => ?_, fun s => ?_, fun s => known_update _ _ _ _, rfl⟩ <;>
    rw [hshape] <;> obtain ⟨s', w⟩ := w <;> dsimp only
  · by_cases hs : s = s'
    · simp [hs]
    · simp [hs]
  all_goals split <;> rfl

/-- A change of the binary record of an entry. -/
theorem marked_binary {f : SemaphoreProvenance → SemaphoreProvenance} (md : Metadata)
    (s : SemaphoreId) (hf : ∀ p, (f p).shape = p.shape ∧ (f p).timelineWrites = p.timelineWrites) :
    Marked md (md.update s f) [] [s] := by
  have hshape : ∀ s', (md.update s f).shape s' = md.shape s' := by
    intro s'
    rw [shape_update]
    split
    · next hs => rw [hs, (hf _).1]; rfl
    · rfl
  refine ⟨fun c q n held hc hs => hc.update (fun p hcs _ _ => ?_) fun p r _ hr =>
      ⟨r, (hf p).2.symm ▸ hr, rfl, rfl, rfl, Finset.Subset.refl _⟩, rfl,
    fun s' v => by simp [hshape], fun s' => by rw [hshape], fun s' => by rw [hshape],
    fun s' => by rw [hshape], fun s' => known_update _ _ _ _, rfl⟩
  simpa using hs s hcs

theorem marked_consume (md : Metadata) (s : SemaphoreId) :
    Marked md (md.update s SemaphoreProvenance.consume) [] [s] :=
  marked_binary md s fun _ => ⟨rfl, rfl⟩

theorem marked_addWaits (md : Metadata) (waits : List PlannedWait) :
    Marked md (waits.foldl
      (fun md w => md.update w.semaphoreId (SemaphoreProvenance.addWait w.wait)) md) waits [] := by
  induction waits generalizing md with
  | nil => exact .refl md
  | cons w waits ih => exact (marked_addWait md w).trans (ih _)

theorem marked_consumes (md : Metadata) (consumed : List SemaphoreId) :
    Marked md (consumed.foldl (fun md id => md.update id SemaphoreProvenance.consume) md) []
      consumed := by
  induction consumed generalizing md with
  | nil => exact .refl md
  | cons s consumed ih => exact (marked_consume md s).trans (ih _)

/-- The queue's set is replaced, the marks are made, and the signals follow. -/
theorem committed_of_marked {waits : List PlannedWait} {consumed : List SemaphoreId} {next : Writes}
    (h : Marked (md.setQueueWrites q next) md' waits consumed) :
    Committed md (ps.foldl (commitSignal q) md') q next waits consumed ps where
  carries c q₀ n held hc hq hb := by
    obtain ⟨held', hc', hle⟩ := h.carries c q₀ n held ((carries_setQueueWrites hq).2 hc)
      fun s hs => (hb s hs).1
    obtain ⟨held'', hc'', hle', hfed⟩ := carries_signals q ps hc'
      fun p hp hs => (hb p.semaphoreId hs).2 p hp rfl
    exact ⟨held'', hc'', hle.trans hle', fun s w p hw => hfed s w p ((h.pending s w).2 hw)⟩
  queue := by
    have hq : md'.Carries (.queue q) q 0 next :=
      ⟨rfl, by rw [h.queueWrites]; exact Function.update_self ..⟩
    obtain ⟨held, ⟨-, hheld⟩, hle, -⟩ := carries_signals q ps hq
      fun _ _ hc => by cases hc
    exact hheld ▸ hle
  slot pre p post hps hlast := signals_carries hps hlast
  pending s w := by rw [mem_pending_signals, h.pending]; rfl
  values s := by rw [values_signals, h.values]; rfl
  timeline s := by rw [flags_signals.1, h.timeline]; rfl
  acquiredValue s := by rw [flags_signals.2, h.acquiredValue]; rfl
  known s hs := known_signals (h.known s hs)
  serial := serial_signals.trans h.serial

/-- A commit, up to its fence. -/
def commitQueue (md : Metadata) (q : QueueId) (p : Plan) : Metadata :=
  p.plannedSignals.foldl (commitSignal q) (p.consumedBinary.foldl
    (fun md id => md.update id SemaphoreProvenance.consume) (p.plannedWaits.foldl
      (fun md w => md.update w.semaphoreId (SemaphoreProvenance.addWait w.wait))
      (md.setQueueWrites q p.nextQueueWrites)))

theorem commit_eq (md : Metadata) (q : QueueId) (p : Plan) (last : ℕ) (fence : Option FenceId) :
    md.commit q p last fence = (md.commitQueue q p).setFence fence
      { queueId := q, submissionSerial := last, memoryIds := p.nextQueueWrites } := rfl

theorem committed_commitQueue (md : Metadata) (q : QueueId) (p : Plan) :
    Committed md (md.commitQueue q p) q p.nextQueueWrites p.plannedWaits p.consumedBinary
      p.plannedSignals := by
  have h := (marked_addWaits (md.setQueueWrites q p.nextQueueWrites) p.plannedWaits).trans
    (marked_consumes _ p.consumedBinary)
  rw [List.append_nil, List.nil_append] at h
  exact committed_of_marked h

end Metadata

end VkRemote.Client
