import VulkanRemote.Client.Commit
import VulkanRemote.Client.Planning

/-! `QueueBindSparse` resolves its waits and leaves its signals in place, one batch after the
other; for one batch this comes to the same as planning it and committing the plan. -/

namespace VkRemote.Client

open Lib

/-- The batch of a sparse binding, as far as semaphores go. -/
def BindInfo.toSubmit (b : BindInfo) : Submit where
  waits := b.waits
  signals := b.signals

namespace Metadata

variable {md md₀ : Metadata} {q : QueueId} {serial : ℕ} {downstream : List SemaphoreId}
  {done : List SemaphoreWait} {w : SemaphoreWait}

/-- What is left of the entry `e` once some waits of the batch are resolved. -/
structure Taken (e e' : SemaphoreProvenance) (ws : Writes) : Prop where
  timeline : e'.timeline = e.timeline
  acquiredTimelineValue : e'.acquiredTimelineValue = e.acquiredTimelineValue
  acquiredTimelineWrites : e'.acquiredTimelineWrites = e.acquiredTimelineWrites
  timelineWrites : e'.timelineWrites = e.timelineWrites
  binary : (e'.binarySignaled = e.binarySignaled ∧ e'.binaryWrites = e.binaryWrites) ∨
    (e'.binarySignaled = false ∧ e.binaryWrites ⊆ ws)

/-- The waits `done` of a batch are resolved in place, from `md₀` on. -/
structure Bound (md₀ md : Metadata) (q : QueueId) (serial : ℕ) (done : List SemaphoreWait) :
    Prop where
  marked : ∃ waits consumed, Marked (md₀.setQueueWrites q (md.queueWrites q)) md waits consumed ∧
    (∀ s ∈ consumed, ∃ w ∈ done, w.semaphore = s) ∧
    ∀ w ∈ done, ∀ e, md₀.semaphores w.semaphore = some e → (e.waitFor w.value).2 = false →
      ∃ downstream, ⟨w.semaphore, e.pendingValue w, q, serial, downstream⟩ ∈ waits
  queue : md₀.queueWrites q ⊆ md.queueWrites q
  taken : ∀ s e, md₀.semaphores s = some e →
    ∃ e', md.semaphores s = some e' ∧ Taken e e' (md.queueWrites q)
  learned : ∀ w ∈ done, ∀ e, md₀.semaphores w.semaphore = some e →
    e.timeline = true ∨ e.binarySignaled = true → (e.waitFor w.value).1 ⊆ md.queueWrites q

theorem Taken.mono {e e' : SemaphoreProvenance} {ws ws' : Writes} (h : Taken e e' ws)
    (hle : ws ⊆ ws') : Taken e e' ws' :=
  { h with binary := h.binary.imp_right fun ⟨h1, h2⟩ => ⟨h1, h2.trans hle⟩ }

theorem Bound.refl (md : Metadata) (q : QueueId) (serial : ℕ) : Bound md md q serial [] where
  marked := by
    refine ⟨[], [], ?_, by simp, by simp⟩
    have h := Marked.refl md
    have hself : md.setQueueWrites q (md.queueWrites q) = md := by
      simp only [setQueueWrites, Function.update_eq_self]
    rw [hself]
    exact h
  queue := Finset.Subset.refl _
  taken s e he := ⟨e, he, rfl, rfl, rfl, rfl, .inl ⟨rfl, rfl⟩⟩
  learned := by simp

/-- What a wait adds to the set of its queue, and whether it is resolved. -/
def bindLearns (s : SemaphoreProvenance) (w : SemaphoreWait) : Writes × Bool :=
  if s.timeline || s.binarySignaled then s.waitFor w.value else (∅, false)

/-- The binary record a wait takes. -/
def take (s : SemaphoreProvenance) : SemaphoreProvenance :=
  { s with binarySignaled := false, binaryWrites := ∅ }

theorem bindWait_some {e : SemaphoreProvenance} (he : md.semaphores w.semaphore = some e) :
    md.bindWait q serial downstream w =
      let md₁ := md.setQueueWrites q (md.queueWrites q ∪ (bindLearns e w).1)
      let md₂ := if !e.timeline && e.binarySignaled then md₁.update w.semaphore take else md₁
      if (bindLearns e w).2 then md₂
      else md₂.update w.semaphore
        (SemaphoreProvenance.addWait ⟨e.pendingValue w, q, serial, downstream⟩) := by
  simp only [bindWait, he]
  rfl

theorem setQueueWrites_twice (md : Metadata) (q : QueueId) (ws ws' : Writes) :
    (md.setQueueWrites q ws).setQueueWrites q ws' = md.setQueueWrites q ws' := by
  simp only [setQueueWrites, Function.update_idem]

theorem Taken.waitFor_timeline {e e' : SemaphoreProvenance} {ws : Writes} (h : Taken e e' ws)
    (ht : e.timeline = true) (v : Option ℕ) : e'.waitFor v = e.waitFor v := by
  simp only [SemaphoreProvenance.waitFor, SemaphoreProvenance.firstReaching, h.timeline, ht,
    h.acquiredTimelineValue, h.acquiredTimelineWrites, h.timelineWrites]
  cases v <;> rfl

/-- What an entry that waits of this batch have met before still teaches. -/
theorem Taken.learns {e e' : SemaphoreProvenance} {ws : Writes} (h : Taken e e' ws) :
    (e.timeline = true ∨ e.binarySignaled = true →
      (e.waitFor w.value).1 ⊆ ws ∪ (bindLearns e' w).1) ∧
    ((e.waitFor w.value).2 = false → (bindLearns e' w).2 = false) := by
  cases ht : e.timeline with
  | true =>
    have heq := h.waitFor_timeline ht w.value
    have ht' : e'.timeline = true := h.timeline.trans ht
    simp only [bindLearns, ht', Bool.true_or, if_true, heq]
    exact ⟨fun _ => Finset.subset_union_right, id⟩
  | false =>
    have ht' : e'.timeline = false := h.timeline.trans ht
    have hfor : e.waitFor w.value = (e.binaryWrites, e.binarySignaled) := by
      simp [SemaphoreProvenance.waitFor, ht]
    have hfor' : e'.waitFor w.value = (e'.binaryWrites, e'.binarySignaled) := by
      simp [SemaphoreProvenance.waitFor, ht']
    rw [hfor]
    rcases h.binary with ⟨hs, hw⟩ | ⟨hs, hw⟩
    · cases hsig : e.binarySignaled <;> simp [bindLearns, ht', hs, hsig, hfor', hw]
    · refine ⟨fun _ => hw.trans Finset.subset_union_left, fun _ => ?_⟩
      simp [bindLearns, ht', hs]

theorem marked_bindWait (q : QueueId) (serial : ℕ) (downstream : List SemaphoreId)
    {e : SemaphoreProvenance} (he : md.semaphores w.semaphore = some e) :
    ∃ waits consumed, Marked (md.setQueueWrites q (md.queueWrites q ∪ (bindLearns e w).1))
      (md.bindWait q serial downstream w) waits consumed ∧ (∀ s ∈ consumed, s = w.semaphore) ∧
      ((bindLearns e w).2 = false →
        ⟨w.semaphore, e.pendingValue w, q, serial, downstream⟩ ∈ waits) := by
  rw [bindWait_some he]
  dsimp only
  generalize md.setQueueWrites q (md.queueWrites q ∪ (bindLearns e w).1) = md₁
  have htake : ∃ consumed, Marked md₁ (if (!e.timeline && e.binarySignaled) = true then
      md₁.update w.semaphore take else md₁) [] consumed ∧ ∀ s ∈ consumed, s = w.semaphore := by
    split
    · exact ⟨_, marked_binary md₁ w.semaphore fun _ => ⟨rfl, rfl⟩, by simp⟩
    · exact ⟨_, Marked.refl md₁, by simp⟩
  obtain ⟨consumed, hm, hcons⟩ := htake
  generalize (if (!e.timeline && e.binarySignaled) = true then
      md₁.update w.semaphore take else md₁) = md₂ at hm ⊢
  split
  · next hres => exact ⟨_, _, hm, hcons, fun hf => by simp [hres] at hf⟩
  · refine ⟨_, _, hm.trans (marked_addWait md₂ ⟨w.semaphore, _⟩), fun s hs => ?_, fun _ => by simp⟩
    exact hcons s (by simpa using hs)

theorem taken_bindWait {e e' : SemaphoreProvenance} (he : md.semaphores w.semaphore = some e')
    (ht : Taken e e' (md.queueWrites q)) :
    ∃ e'', (md.bindWait q serial downstream w).semaphores w.semaphore = some e'' ∧
      Taken e e'' (md.queueWrites q ∪ (bindLearns e' w).1) := by
  have htake : Taken e (if (!e'.timeline && e'.binarySignaled) = true then take e' else e')
      (md.queueWrites q ∪ (bindLearns e' w).1) := by
    split
    · next hsig =>
      obtain ⟨htl, hsig⟩ : e'.timeline = false ∧ e'.binarySignaled = true := by simpa using hsig
      refine ⟨ht.timeline, ht.acquiredTimelineValue, ht.acquiredTimelineWrites, ht.timelineWrites,
        .inr ⟨rfl, ?_⟩⟩
      rcases ht.binary with ⟨-, hw⟩ | ⟨hf, -⟩
      · rw [← hw]
        simp [bindLearns, SemaphoreProvenance.waitFor, htl, hsig]
      · simp [hsig] at hf
    · exact ht.mono Finset.subset_union_left
  have hsem : ((if (!e'.timeline && e'.binarySignaled) = true then
      (md.setQueueWrites q (md.queueWrites q ∪ (bindLearns e' w).1)).update w.semaphore take
      else md.setQueueWrites q (md.queueWrites q ∪ (bindLearns e' w).1)).semaphores
        w.semaphore) = some (if (!e'.timeline && e'.binarySignaled) = true then take e' else e') := by
    split
    · rw [update_self]
      simp [setQueueWrites, he]
    · exact he
  rw [bindWait_some he]
  dsimp only
  split
  · exact ⟨_, hsem, htake⟩
  · refine ⟨_, update_self _ _ _, ?_⟩
    rw [hsem]
    exact { htake with }

theorem bindWait_of_ne {e : SemaphoreProvenance} {s : SemaphoreId}
    (he : md.semaphores w.semaphore = some e) (hs : s ≠ w.semaphore) :
    (md.bindWait q serial downstream w).semaphores s = md.semaphores s := by
  rw [bindWait_some he]
  dsimp only
  split <;> split <;> simp [update_of_ne _ _ hs, setQueueWrites]

theorem Bound.step (h : Bound md₀ md q serial done) :
    Bound md₀ (md.bindWait q serial downstream w) q serial (done ++ [w]) := by
  obtain ⟨waits, consumed, hm, hcons, hunres⟩ := h.marked
  cases he' : md.semaphores w.semaphore with
  | none =>
    have hnone : ∀ e, md₀.semaphores w.semaphore ≠ some e := by
      intro e he
      obtain ⟨e', he'', -⟩ := h.taken _ e he
      simp [he'] at he''
    have heq : md.bindWait q serial downstream w = md := by simp only [bindWait, he']
    rw [heq]
    refine ⟨⟨waits, consumed, hm, fun s hs => ?_, fun w' hw' e he => ?_⟩, h.queue, h.taken,
      fun w' hw' e he => ?_⟩
    · obtain ⟨w', hw', hs'⟩ := hcons s hs
      exact ⟨w', List.mem_append_left _ hw', hs'⟩
    all_goals
      rcases List.mem_append.1 hw' with hw' | hw'
    · exact hunres w' hw' e he
    · obtain rfl := List.mem_singleton.1 hw'
      exact absurd he (hnone e)
    · exact h.learned w' hw' e he
    · obtain rfl := List.mem_singleton.1 hw'
      exact absurd he (hnone e)
  | some e' =>
    obtain ⟨waits', consumed', hm', hcons', hunres'⟩ := marked_bindWait q serial
      downstream he'
    have hqueue : (md.bindWait q serial downstream w).queueWrites q =
        md.queueWrites q ∪ (bindLearns e' w).1 := by
      rw [hm'.queueWrites]
      exact Function.update_self ..
    have hmarked := (hm.setQueueWrites q (md.queueWrites q ∪ (bindLearns e' w).1)).trans hm'
    rw [setQueueWrites_twice] at hmarked
    refine ⟨⟨_, _, by rw [hqueue]; exact hmarked, fun s hs => ?_, fun w' hw' e he hres => ?_⟩,
      ?_, fun s e he => ?_, fun w' hw' e he hor => ?_⟩
    · rcases List.mem_append.1 hs with hs | hs
      · obtain ⟨w', hw', hs'⟩ := hcons s hs
        exact ⟨w', List.mem_append_left _ hw', hs'⟩
      · exact ⟨w, by simp, (hcons' s hs).symm⟩
    · rcases List.mem_append.1 hw' with hw' | hw'
      · obtain ⟨d, hd⟩ := hunres w' hw' e he hres
        exact ⟨d, List.mem_append_left _ hd⟩
      · obtain rfl := List.mem_singleton.1 hw'
        obtain ⟨e'', he'', ht⟩ := h.taken _ e he
        obtain rfl := Option.some.inj (he'.symm.trans he'')
        have hval : e.pendingValue w' = e'.pendingValue w' := by
          simp only [SemaphoreProvenance.pendingValue, ht.timeline]
        exact ⟨downstream, List.mem_append_right _ (hval ▸ hunres' (ht.learns.2 hres))⟩
    · rw [hqueue]
      exact h.queue.trans Finset.subset_union_left
    · obtain ⟨e₁, he₁, ht⟩ := h.taken s e he
      rw [hqueue]
      by_cases hs : s = w.semaphore
      · subst hs
        obtain rfl := Option.some.inj (he'.symm.trans he₁)
        exact taken_bindWait he' ht
      · exact ⟨e₁, (bindWait_of_ne he' hs).trans he₁, ht.mono Finset.subset_union_left⟩
    · rw [hqueue]
      rcases List.mem_append.1 hw' with hw' | hw'
      · exact (h.learned w' hw' e he hor).trans Finset.subset_union_left
      · obtain rfl := List.mem_singleton.1 hw'
        obtain ⟨e'', he'', ht⟩ := h.taken _ e he
        obtain rfl := Option.some.inj (he'.symm.trans he'')
        exact ht.learns.1 hor

theorem bound_waits (downstream : List SemaphoreId) (ws : List SemaphoreWait) (h : Bound md₀ md q serial done) :
    Bound md₀ (ws.foldl (bindWait q serial downstream) md) q serial (done ++ ws) := by
  induction ws generalizing md done with
  | nil => simpa using h
  | cons w ws ih => simpa using ih h.step

theorem release_queueWrites (md : Metadata) (q : QueueId) (wait : PendingSemaphoreWait) :
    (md.release (md.queueWrites q) wait).queueWrites q = md.queueWrites q := by
  have hdown : ∀ (ids : List SemaphoreId) (md' : Metadata),
      (ids.foldl (fun m id => m.update id
        (SemaphoreProvenance.propagateDownstream wait (md.queueWrites q))) md').queueWrites =
        md'.queueWrites := by
    intro ids
    induction ids with
    | nil => exact fun _ => rfl
    | cons id ids ih => exact fun md' => ih _
  rw [release, hdown]
  simp only [propagateQueueWrites]
  by_cases hq : q = wait.queueId
  · rw [← hq, Function.update_self, Finset.union_self]
  · rw [Function.update_of_ne hq]

/-- The set of the queue stays what it was while the waits of a signal are released from it. -/
theorem releases_queueWrites (waits : List PendingSemaphoreWait) (md : Metadata) :
    waits.foldl (fun md wait => md.release (md.queueWrites q) wait) md =
      waits.foldl (fun m wait => m.release (md.queueWrites q) wait) md := by
  have hall : ∀ (waits : List PendingSemaphoreWait) (m : Metadata),
      m.queueWrites q = md.queueWrites q →
      waits.foldl (fun md wait => md.release (md.queueWrites q) wait) m =
        waits.foldl (fun m wait => m.release (md.queueWrites q) wait) m := by
    intro waits
    induction waits with
    | nil => exact fun _ _ => rfl
    | cons wait waits ih =>
      intro m hm
      rw [List.foldl_cons, List.foldl_cons, hm]
      refine ih _ ?_
      rw [← hm]
      exact release_queueWrites m q wait
  exact hall waits md rfl

theorem bindSignal_eq (md : Metadata) (q : QueueId) (serial : ℕ) {g : SemaphoreSignal}
    (hg : SemaphoreProvenance.isTimeline (md.semaphores g.semaphore) = true →
      g.value.isSome = true) :
    md.bindSignal q serial g =
      md.commitSignal q (planSignal md serial (md.queueWrites q) g) := by
  have hval : ((planSignal md serial (md.queueWrites q) g).timeline && g.value.isNone) = false := by
    cases ht : SemaphoreProvenance.isTimeline (md.semaphores g.semaphore) with
    | false => simp [planSignal, ht]
    | true =>
      obtain ⟨v, hv⟩ := Option.isSome_iff_exists.1 (hg ht)
      simp [hv]
  unfold bindSignal commitSignal
  dsimp only
  rw [hval]
  simp only [Bool.false_eq_true, if_false]
  rw [releases_queueWrites]
  rfl

theorem isTimeline_eq (md : Metadata) (s : SemaphoreId) :
    SemaphoreProvenance.isTimeline (md.semaphores s) = (md.shape s).timeline := by
  rw [shape]
  cases md.semaphores s <;> rfl

/-- The signals of a batch are left one after the other, each from the set the queue has then. -/
theorem bindSignals_eq (q : QueueId) (serial : ℕ) (gs : List SemaphoreSignal)
    (hg : ∀ g ∈ gs, (md.shape g.semaphore).timeline = true → g.value.isSome = true) :
    ∃ ps, gs.foldl (bindSignal q serial) md = ps.foldl (commitSignal q) md ∧
      List.Forall₂ (fun g p => p.semaphoreId = g.semaphore ∧
        p.timeline = (md.shape g.semaphore).timeline ∧
        (p.timeline = true → p.value = g.value.getD 0) ∧ p.submissionSerial = serial ∧
        md.queueWrites q ⊆ p.memoryIds) gs ps := by
  induction gs generalizing md with
  | nil => exact ⟨[], rfl, .nil⟩
  | cons g gs ih =>
    have hone := bindSignal_eq md q serial (g := g)
      fun ht => hg g (by simp) ((isTimeline_eq md g.semaphore).symm.trans ht)
    have hshape : ∀ s, ((md.bindSignal q serial g).shape s).timeline = (md.shape s).timeline := by
      intro s
      rw [hone, shape_commitSignal]
      split <;> rfl
    have hqueue : md.queueWrites q ⊆ (md.bindSignal q serial g).queueWrites q := by
      have hc : md.Carries (.queue q) q 0 (md.queueWrites q) := ⟨rfl, rfl⟩
      obtain ⟨held, ⟨-, hheld⟩, hle, -⟩ := carries_commitSignal (q := q)
        (p := planSignal md serial (md.queueWrites q) g) hc fun h => by cases h
      rw [hone, hheld]
      exact hle
    obtain ⟨ps, hps, hfor⟩ := @ih (md.bindSignal q serial g) fun g' hg' ht =>
      hg g' (by simp [hg']) ((hshape _).symm.trans ht)
    refine ⟨planSignal md serial (md.queueWrites q) g :: ps, ?_, .cons ?_ ?_⟩
    · rw [List.foldl_cons, List.foldl_cons, hps, hone]
    · exact ⟨rfl, isTimeline_eq md g.semaphore, fun ht => if_pos ht, rfl, Finset.Subset.refl _⟩
    · refine hfor.imp fun g' p h => ⟨h.1, h.2.1.trans (hshape _), h.2.2.1, h.2.2.2.1,
        hqueue.trans h.2.2.2.2⟩

theorem bindBatch_spec (t : ResourceTables) (md : Metadata) (q : QueueId) (serial : ℕ)
    (b : BindInfo)
    (hg : ∀ g ∈ b.signals, (md.shape g.semaphore).timeline = true → g.value.isSome = true) :
    ∃ next waits consumed ps,
      Planned t md q (serial + ·) [b.toSubmit] (fun _ => next) waits consumed ps ∧
      Committed md (md.bindBatch q serial b) q next waits consumed ps := by
  have hb := bound_waits (b.signals.map SemaphoreSignal.semaphore) b.waits
    (Bound.refl md q serial)
  rw [List.nil_append] at hb
  obtain ⟨waits, consumed, hm, hcons, hunres⟩ := hb.marked
  obtain ⟨ps, hps, hfor⟩ := bindSignals_eq q serial b.signals
    fun g hgb ht => hg g hgb ((hm.timeline g.semaphore).symm.trans ht)
  have hget : ∀ {i : ℕ} {b' : Submit}, [b.toSubmit][i]? = some b' → i = 0 ∧ b' = b.toSubmit := by
    intro i b' hb'
    cases i with
    | zero => exact ⟨rfl, by simpa using hb'.symm⟩
    | succ i => simp at hb'
  refine ⟨_, waits, consumed, ps, ⟨fun _ _ _ => Finset.Subset.refl _, fun _ => hb.queue,
    fun i b' hb' => ?_, fun i b' w e hb' hw he hor => ?_, fun i b' w e hb' hw he hres => ?_,
    fun s hs => ?_, ?_⟩, ?_⟩
  · obtain ⟨-, rfl⟩ := hget hb'
    exact Finset.empty_subset _
  · obtain ⟨-, rfl⟩ := hget hb'
    exact hb.learned w hw e he hor
  · obtain ⟨rfl, rfl⟩ := hget hb'
    exact hunres w hw e he hres
  · obtain ⟨w, hw, hs'⟩ := hcons s hs
    exact ⟨b.toSubmit, by simp, w, hw, hs'⟩
  · have htag : tagged Submit.signals [b.toSubmit] = b.signals.map fun g => (0, g) := by
      simp [tagged, BindInfo.toSubmit]
    rw [htag, List.forall₂_map_left_iff]
    refine hfor.imp fun g p h => ⟨h.1, ?_, h.2.2.1, h.2.2.2.1, h.2.2.2.2⟩
    rw [isTimeline_eq, h.2.1]
    exact hm.timeline g.semaphore
  · rw [bindBatch, hps]
    exact committed_of_marked hm

end Metadata

end VkRemote.Client
