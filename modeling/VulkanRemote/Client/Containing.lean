import Mathlib.Data.List.Forall2
import VulkanRemote.Client.Metadata

/-! When the attribution of one run contains that of another, in which the serial numbers may have come
differently; every step of a submit and of a completion keeps it so. -/

namespace VkRemote.Client

/-- A serial number of a queue in the one run, and the one that stands for it in the other. -/
abbrev SerialMatch := QueueId → ℕ → ℕ → Prop

/-- On each queue the serial numbers come in the same order. -/
def SerialMatch.Ordered (L : SerialMatch) : Prop :=
  ∀ q a a' b b', L q a a' → L q b b' → (a ≤ b ↔ a' ≤ b')

structure TimelineSignalWrites.Contains (L : SerialMatch) (r r' : TimelineSignalWrites) : Prop where
  value : r.value = r'.value
  queueId : r.queueId = r'.queueId
  serial : L r.queueId r.submissionSerial r'.submissionSerial
  memoryIds : r'.memoryIds ⊆ r.memoryIds

structure PendingSemaphoreWait.Same (L : SerialMatch) (w w' : PendingSemaphoreWait) : Prop where
  value : w.value = w'.value
  queueId : w.queueId = w'.queueId
  serial : L w.queueId w.submissionSerial w'.submissionSerial
  downstreamSemaphores : w.downstreamSemaphores = w'.downstreamSemaphores

structure SemaphoreProvenance.Contains (L : SerialMatch) (e e' : SemaphoreProvenance) : Prop where
  timeline : e.timeline = e'.timeline
  binarySignaled : e.binarySignaled = e'.binarySignaled
  binaryQueueId : e.binarySignaled = true → e.binaryQueueId = e'.binaryQueueId
  binarySerial : e.binarySignaled = true →
    L e.binaryQueueId e.binarySubmissionSerial e'.binarySubmissionSerial
  binaryWrites : e'.binaryWrites ⊆ e.binaryWrites
  timelineWrites : List.Forall₂ (TimelineSignalWrites.Contains L) e.timelineWrites e'.timelineWrites
  acquiredTimelineValue : e.acquiredTimelineValue = e'.acquiredTimelineValue
  acquiredTimelineWrites : e'.acquiredTimelineWrites ⊆ e.acquiredTimelineWrites
  pendingWaits : List.Forall₂ (PendingSemaphoreWait.Same L) e.pendingWaits e'.pendingWaits

structure PendingCoherentWrites.Contains (L : SerialMatch) (p p' : PendingCoherentWrites) : Prop where
  queueId : p.queueId = p'.queueId
  serial : L p.queueId p.submissionSerial p'.submissionSerial
  memoryIds : p'.memoryIds ⊆ p.memoryIds

/-- `md` has at least what `md'` has, and the same waits are pending. -/
structure Metadata.Contains (L : SerialMatch) (md md' : Metadata) : Prop where
  queueWrites : ∀ q, md'.queueWrites q ⊆ md.queueWrites q
  fenceWrites : ∀ f p', md'.fenceWrites f = some p' → ∃ p, md.fenceWrites f = some p ∧ p.Contains L p'
  semaphores : ∀ s, Option.Rel (SemaphoreProvenance.Contains L) (md.semaphores s) (md'.semaphores s)

/-- A wait learns in `md` no more than it did in `planned`, and is resolved in both or in neither. -/
def Metadata.LearnsNoMore (planned md : Metadata) (w : SemaphoreWait) : Prop :=
  (planned.semaphores w.semaphore).isSome = (md.semaphores w.semaphore).isSome ∧
  ∀ e ∈ planned.semaphores w.semaphore, ∀ e' ∈ md.semaphores w.semaphore,
    (e'.waitFor w.value).1 ⊆ (e.waitFor w.value).1 ∧ (e.waitFor w.value).2 = (e'.waitFor w.value).2

instance (planned md : Metadata) (w : SemaphoreWait) : Decidable (planned.LearnsNoMore md w) :=
  inferInstanceAs (Decidable (_ ∧ _))

/-- The same semaphores are timelines. -/
def Metadata.SameKinds (md md' : Metadata) : Prop :=
  ∀ s, SemaphoreProvenance.isTimeline (md.semaphores s) = SemaphoreProvenance.isTimeline (md'.semaphores s)

structure PlannedSignal.Contains (L : SerialMatch) (q : QueueId) (p p' : PlannedSignal) : Prop where
  semaphoreId : p.semaphoreId = p'.semaphoreId
  timeline : p.timeline = p'.timeline
  value : p.value = p'.value
  serial : L q p.submissionSerial p'.submissionSerial
  memoryIds : p'.memoryIds ⊆ p.memoryIds

structure PlannedWait.Same (L : SerialMatch) (w w' : PlannedWait) : Prop where
  semaphoreId : w.semaphoreId = w'.semaphoreId
  wait : w.wait.Same L w'.wait

structure Metadata.PlannedWaits.Contains (L : SerialMatch) (p p' : Metadata.PlannedWaits) : Prop where
  writes : p'.writes ⊆ p.writes
  consumed : p.consumed = p'.consumed
  pending : List.Forall₂ (PlannedWait.Same L) p.pending p'.pending

structure Plan.Contains (L : SerialMatch) (q : QueueId) (p p' : Plan) : Prop where
  nextQueueWrites : p'.nextQueueWrites ⊆ p.nextQueueWrites
  consumedBinary : p.consumedBinary = p'.consumedBinary
  plannedWaits : List.Forall₂ (PlannedWait.Same L) p.plannedWaits p'.plannedWaits
  plannedSignals : List.Forall₂ (PlannedSignal.Contains L q) p.plannedSignals p'.plannedSignals

section

variable {L L' : SerialMatch} {md md' : Metadata} {q : QueueId} {ws ws' : Writes}

theorem TimelineSignalWrites.Contains.insert {r r' : TimelineSignalWrites} {a a' : ℕ} (h : r.Contains L r')
    (hordered : L.Ordered) (ha : L q a a') (hws : ws' ⊆ ws) :
    (r.insert q a ws).Contains L (r'.insert q a' ws') := by
  by_cases hq : r.queueId = q
  · have hle : a ≤ r.submissionSerial ↔ a' ≤ r'.submissionSerial :=
      hordered q a a' _ _ ha (hq ▸ h.serial)
    by_cases hserial : a ≤ r.submissionSerial
    · rw [TimelineSignalWrites.insert, if_pos ⟨hq, hserial⟩, TimelineSignalWrites.insert,
        if_pos ⟨h.queueId ▸ hq, hle.1 hserial⟩]
      exact ⟨h.value, h.queueId, h.serial, Finset.union_subset_union h.memoryIds hws⟩
    · rw [TimelineSignalWrites.insert, if_neg fun hc => hserial hc.2, TimelineSignalWrites.insert,
        if_neg fun hc => hserial (hle.2 hc.2)]
      exact h
  · rw [TimelineSignalWrites.insert, if_neg fun hc => hq hc.1, TimelineSignalWrites.insert,
      if_neg fun hc => hq (h.queueId.trans hc.1)]
    exact h

theorem TimelineSignalWrites.Contains.reached {r r' : TimelineSignalWrites} (h : r.Contains L r') (v : ℕ) :
    decide (r.value ≤ v) = decide (r'.value ≤ v) := by
  rw [h.value]

theorem contains_insertAll {rs rs' : List TimelineSignalWrites} {a a' : ℕ}
    (h : List.Forall₂ (TimelineSignalWrites.Contains L) rs rs') (hordered : L.Ordered) (ha : L q a a')
    (hws : ws' ⊆ ws) : List.Forall₂ (TimelineSignalWrites.Contains L)
      (rs.map (TimelineSignalWrites.insert q a ws)) (rs'.map (TimelineSignalWrites.insert q a' ws')) := by
  rw [List.forall₂_map_left_iff, List.forall₂_map_right_iff]
  exact h.imp fun _ _ hr => hr.insert hordered ha hws

namespace SemaphoreProvenance.Contains

variable {e e' : SemaphoreProvenance} {a a' : ℕ}

theorem start (L : SerialMatch) : Contains L {} {} where
  timeline := rfl
  binarySignaled := rfl
  binaryQueueId h := Bool.noConfusion h
  binarySerial h := Bool.noConfusion h
  binaryWrites := Finset.Subset.refl _
  timelineWrites := .nil
  acquiredTimelineValue := rfl
  acquiredTimelineWrites := Finset.Subset.refl _
  pendingWaits := .nil

/-- Whether a propagation reaches what is behind a binary semaphore is the same in both. -/
theorem reaches_iff (h : e.Contains L e') (hordered : L.Ordered) (ha : L q a a') :
    (e.binarySignaled = true ∧ e.binaryQueueId = q ∧ a ≤ e.binarySubmissionSerial) ↔
      (e'.binarySignaled = true ∧ e'.binaryQueueId = q ∧ a' ≤ e'.binarySubmissionSerial) := by
  rw [← h.binarySignaled]
  refine and_congr_right fun hsignaled => ?_
  rw [← h.binaryQueueId hsignaled]
  refine and_congr_right fun hq => ?_
  exact hordered q a a' _ _ ha (hq ▸ h.binarySerial hsignaled)

theorem propagate (h : e.Contains L e') (hordered : L.Ordered) (ha : L q a a') (hws : ws' ⊆ ws) :
    (e.propagate q a ws).Contains L (e'.propagate q a' ws') where
  timeline := h.timeline
  binarySignaled := h.binarySignaled
  binaryQueueId := h.binaryQueueId
  binarySerial := h.binarySerial
  binaryWrites := by
    have hiff := h.reaches_iff hordered ha
    dsimp only [SemaphoreProvenance.propagate]
    by_cases hreach : e.binarySignaled = true ∧ e.binaryQueueId = q ∧ a ≤ e.binarySubmissionSerial
    · rw [if_pos (hiff.1 hreach), if_pos hreach]
      exact Finset.union_subset_union h.binaryWrites hws
    · rw [if_neg fun hc => hreach (hiff.2 hc), if_neg hreach]
      exact h.binaryWrites
  timelineWrites := contains_insertAll h.timelineWrites hordered ha hws
  acquiredTimelineValue := h.acquiredTimelineValue
  acquiredTimelineWrites := h.acquiredTimelineWrites
  pendingWaits := h.pendingWaits

theorem propagateDownstream {w w' : PendingSemaphoreWait} (h : e.Contains L e') (hordered : L.Ordered)
    (hw : w.Same L w') (hws : ws' ⊆ ws) :
    (e.propagateDownstream w ws).Contains L (e'.propagateDownstream w' ws') := by
  unfold SemaphoreProvenance.propagateDownstream
  rw [← hw.queueId]
  have hsame := h.timeline
  by_cases htimeline : e.timeline = true
  · have htimeline' : e'.timeline = true := hsame ▸ htimeline
    rw [if_pos htimeline, if_pos htimeline']
    exact { h with timelineWrites := contains_insertAll h.timelineWrites hordered hw.serial hws }
  · have htimeline' : ¬ e'.timeline = true := hsame ▸ htimeline
    rw [if_neg htimeline, if_neg htimeline']
    have hiff := h.reaches_iff hordered hw.serial
    by_cases hreach : e.binarySignaled = true ∧ e.binaryQueueId = w.queueId ∧
        w.submissionSerial ≤ e.binarySubmissionSerial
    · rw [if_pos hreach, if_pos (hiff.1 hreach)]
      exact { h with binaryWrites := Finset.union_subset_union h.binaryWrites hws }
    · rw [if_neg hreach, if_neg fun hc => hreach (hiff.2 hc)]
      exact h

theorem signal {p p' : PlannedSignal} (h : e.Contains L e') (hp : p.Contains L q p') :
    (e.signal q p).Contains L (e'.signal q p') := by
  unfold SemaphoreProvenance.signal
  rw [← hp.timeline]
  by_cases htimeline : p.timeline = true
  · rw [if_pos htimeline, if_pos htimeline]
    have hrecord : TimelineSignalWrites.Contains L ⟨p.value, q, p.submissionSerial, p.memoryIds⟩
        ⟨p'.value, q, p'.submissionSerial, p'.memoryIds⟩ := ⟨hp.value, rfl, hp.serial, hp.memoryIds⟩
    exact { h with timelineWrites := List.rel_append h.timelineWrites (.cons hrecord .nil) }
  · rw [if_neg htimeline, if_neg htimeline]
    exact { h with
      binarySignaled := rfl
      binaryQueueId := fun _ => rfl
      binarySerial := fun _ => hp.serial
      binaryWrites := hp.memoryIds }

theorem outlasts_eq {p p' : PlannedSignal} {w w' : PendingSemaphoreWait} (hp : p.Contains L q p')
    (hw : w.Same L w') : outlasts p w = outlasts p' w' := by
  rw [outlasts, outlasts, hp.timeline, hp.value, hw.value]

theorem dropReleased {p p' : PlannedSignal} (h : e.Contains L e') (hp : p.Contains L q p') :
    (e.dropReleased p).Contains L (e'.dropReleased p') :=
  { h with pendingWaits := List.rel_filter (fun {_ _} hw => Bool.coe_iff_coe.2 (outlasts_eq hp hw)) h.pendingWaits }

theorem consume (h : e.Contains L e') : e.consume.Contains L e'.consume :=
  { h with
    binarySignaled := rfl
    binaryQueueId := fun hc => Bool.noConfusion hc
    binarySerial := fun hc => Bool.noConfusion hc
    binaryWrites := Finset.Subset.refl _ }

theorem addWait {w w' : PendingSemaphoreWait} (h : e.Contains L e') (hw : w.Same L w') :
    (e.addWait w).Contains L (e'.addWait w') :=
  { h with pendingWaits := List.rel_append h.pendingWaits (.cons hw .nil) }

/-- The record that a wait takes. -/
theorem firstReaching (h : e.Contains L e') (v : ℕ) :
    Option.Rel (TimelineSignalWrites.Contains L) (e.firstReaching v) (e'.firstReaching v) := by
  have hrecords := h.timelineWrites
  unfold SemaphoreProvenance.firstReaching
  generalize e.timelineWrites = rs at hrecords ⊢
  generalize e'.timelineWrites = rs' at hrecords ⊢
  induction hrecords with
  | nil => exact .none
  | cons hr _ ih =>
    rw [List.find?_cons, List.find?_cons, hr.value]
    split
    · exact .some hr
    · exact ih

theorem waitFor (h : e.Contains L e') (v : Option ℕ) :
    (e'.waitFor v).1 ⊆ (e.waitFor v).1 ∧ (e.waitFor v).2 = (e'.waitFor v).2 := by
  unfold SemaphoreProvenance.waitFor
  rw [← h.timeline, ← h.acquiredTimelineValue]
  cases htimeline : e.timeline with
  | false => exact ⟨h.binaryWrites, h.binarySignaled⟩
  | true =>
    cases v with
    | none => exact ⟨Finset.Subset.refl _, rfl⟩
    | some v =>
      dsimp only
      by_cases hacquired : v ≤ e.acquiredTimelineValue
      · rw [if_pos hacquired, if_pos hacquired]
        exact ⟨h.acquiredTimelineWrites, rfl⟩
      · rw [if_neg hacquired, if_neg hacquired]
        have hfirst := h.firstReaching v
        generalize e.firstReaching v = r at hfirst ⊢
        generalize e'.firstReaching v = r' at hfirst ⊢
        cases hfirst with
        | none => exact ⟨h.acquiredTimelineWrites, rfl⟩
        | some hr => exact ⟨Finset.union_subset_union h.acquiredTimelineWrites hr.memoryIds, rfl⟩

end SemaphoreProvenance.Contains

namespace Metadata.Contains

/-- More serial numbers may be matched. -/
theorem mono (h : md.Contains L md') (hL : ∀ q a a', L q a a' → L' q a a') : md.Contains L' md' where
  queueWrites := h.queueWrites
  fenceWrites f p' hp' := by
    obtain ⟨p, hp, hc⟩ := h.fenceWrites f p' hp'
    exact ⟨p, hp, hc.queueId, hL _ _ _ hc.serial, hc.memoryIds⟩
  semaphores s := by
    have hs := h.semaphores s
    generalize md.semaphores s = e at hs ⊢
    generalize md'.semaphores s = e' at hs ⊢
    cases hs with
    | none => exact .none
    | some hc => exact .some { hc with
        binarySerial := fun hsignaled => hL _ _ _ (hc.binarySerial hsignaled)
        timelineWrites := hc.timelineWrites.imp fun _ _ hr => { hr with serial := hL _ _ _ hr.serial }
        pendingWaits := hc.pendingWaits.imp fun _ _ hw => { hw with serial := hL _ _ _ hw.serial } }

/-- A loop, each turn of which keeps the one within the other. -/
theorem foldl {α : Type} {R : α → α → Prop} {f f' : Metadata → α → Metadata} {l l' : List α}
    (h : md.Contains L md') (hl : List.Forall₂ R l l')
    (hf : ∀ m m' a a', m.Contains L m' → R a a' → (f m a).Contains L (f' m' a')) :
    (l.foldl f md).Contains L (l'.foldl f' md') := by
  induction hl generalizing md md' with
  | nil => exact h
  | cons ha _ ih => exact ih (hf _ _ _ _ h ha)

theorem foldl_same {α : Type} {f f' : Metadata → α → Metadata} (h : md.Contains L md') (l : List α)
    (hf : ∀ m m' a, m.Contains L m' → (f m a).Contains L (f' m' a)) :
    (l.foldl f md).Contains L (l.foldl f' md') := by
  refine h.foldl (R := Eq) (List.forall₂_refl l) fun m m' a a' hm ha => ?_
  obtain rfl := ha
  exact hf m m' a hm

/-- What `device->semaphores[id]` finds or makes. -/
theorem subscript (h : md.Contains L md') (s : SemaphoreId) :
    ((md.semaphores s).getD {}).Contains L ((md'.semaphores s).getD {}) := by
  have hs := h.semaphores s
  generalize md.semaphores s = e at hs ⊢
  generalize md'.semaphores s = e' at hs ⊢
  cases hs with
  | none => exact .start L
  | some hc => exact hc

theorem update {f f' : SemaphoreProvenance → SemaphoreProvenance} (h : md.Contains L md') (id : SemaphoreId)
    (hf : ∀ e e', e.Contains L e' → (f e).Contains L (f' e')) : (md.update id f).Contains L (md'.update id f') where
  queueWrites := h.queueWrites
  fenceWrites := h.fenceWrites
  semaphores s := by
    unfold Metadata.update
    by_cases hs : s = id
    · subst hs
      dsimp only
      rw [Function.update_self, Function.update_self]
      exact .some (hf _ _ (h.subscript s))
    · dsimp only
      rw [Function.update_of_ne hs, Function.update_of_ne hs]
      exact h.semaphores s

theorem setQueueWrites (h : md.Contains L md') (q : QueueId) (hws : ws' ⊆ ws) :
    (md.setQueueWrites q ws).Contains L (md'.setQueueWrites q ws') where
  queueWrites q' := by
    unfold Metadata.setQueueWrites
    by_cases hq : q' = q
    · subst hq
      dsimp only
      rw [Function.update_self, Function.update_self]
      exact hws
    · dsimp only
      rw [Function.update_of_ne hq, Function.update_of_ne hq]
      exact h.queueWrites q'
  fenceWrites := h.fenceWrites
  semaphores := h.semaphores

theorem propagateQueueWrites {a a' : ℕ} (h : md.Contains L md') (hordered : L.Ordered) (ha : L q a a')
    (hws : ws' ⊆ ws) :
    (md.propagateQueueWrites q a ws).Contains L (md'.propagateQueueWrites q a' ws') where
  queueWrites := (h.setQueueWrites q (Finset.union_subset_union (h.queueWrites q) hws)).queueWrites
  fenceWrites f p' hp' := by
    obtain ⟨p₀', hp₀', rfl⟩ := Option.map_eq_some_iff.1 hp'
    obtain ⟨p, hp, hc⟩ := h.fenceWrites f p₀' hp₀'
    refine ⟨_, Option.map_eq_some_iff.2 ⟨p, hp, rfl⟩, ?_⟩
    by_cases hq : p.queueId = q
    · have hle : a ≤ p.submissionSerial ↔ a' ≤ p₀'.submissionSerial := hordered q a a' _ _ ha (hq ▸ hc.serial)
      by_cases hserial : a ≤ p.submissionSerial
      · rw [if_pos ⟨hq, hserial⟩, if_pos ⟨hc.queueId ▸ hq, hle.1 hserial⟩]
        exact ⟨hc.queueId, hc.serial, Finset.union_subset_union hc.memoryIds hws⟩
      · rw [if_neg fun hreach => hserial hreach.2, if_neg fun hreach => hserial (hle.2 hreach.2)]
        exact hc
    · rw [if_neg fun hreach => hq hreach.1, if_neg fun hreach => hq (hc.queueId.trans hreach.1)]
      exact hc
  semaphores s := by
    have hs := h.semaphores s
    unfold Metadata.propagateQueueWrites
    dsimp only
    generalize md.semaphores s = e at hs ⊢
    generalize md'.semaphores s = e' at hs ⊢
    cases hs with
    | none => exact .none
    | some hc => exact .some (hc.propagate hordered ha hws)

theorem release {w w' : PendingSemaphoreWait} (h : md.Contains L md') (hordered : L.Ordered) (hw : w.Same L w')
    (hws : ws' ⊆ ws) : (md.release ws w).Contains L (md'.release ws' w') := by
  have hstart : (md.propagateQueueWrites w.queueId w.submissionSerial ws).Contains L
      (md'.propagateQueueWrites w'.queueId w'.submissionSerial ws') :=
    hw.queueId ▸ h.propagateQueueWrites hordered hw.serial hws
  unfold Metadata.release
  rw [← hw.downstreamSemaphores]
  refine hstart.foldl_same _ fun m m' s hm => ?_
  exact hm.update s fun e e' hc => hc.propagateDownstream hordered hw hws

theorem commitSignal {p p' : PlannedSignal} (h : md.Contains L md') (hordered : L.Ordered)
    (hp : p.Contains L q p') : (md.commitSignal q p).Contains L (md'.commitSignal q p') := by
  unfold Metadata.commitSignal
  rw [← hp.semaphoreId]
  have hstart := h.update p.semaphoreId fun e e' hc => hc.signal hp
  have hwaits := (hstart.subscript p.semaphoreId).pendingWaits
  generalize md.update p.semaphoreId (SemaphoreProvenance.signal q p) = m at hstart hwaits ⊢
  generalize md'.update p.semaphoreId (SemaphoreProvenance.signal q p') = m' at hstart hwaits ⊢
  dsimp only
  have hreleased := List.rel_filter (p := fun w => !SemaphoreProvenance.outlasts p w)
    (q := fun w => !SemaphoreProvenance.outlasts p' w)
    (fun {_ _} hw => Bool.coe_iff_coe.2 (congrArg _ (SemaphoreProvenance.Contains.outlasts_eq hp hw))) hwaits
  refine Metadata.Contains.update ?_ p.semaphoreId fun e e' hc => hc.dropReleased hp
  exact hstart.foldl hreleased fun m m' w w' hm hw => hm.release hordered hw hp.memoryIds

theorem setFence {f : Option FenceId} {p p' : PendingCoherentWrites} (h : md.Contains L md')
    (hp : p.Contains L p') : (md.setFence f p).Contains L (md'.setFence f p') := by
  cases f with
  | none => exact h
  | some f =>
    refine ⟨h.queueWrites, fun g p₀' hp₀' => ?_, h.semaphores⟩
    by_cases hg : g = f
    · subst hg
      have hp₀' : Function.update md'.fenceWrites g (some p') g = some p₀' := hp₀'
      rw [Function.update_self] at hp₀'
      obtain rfl := Option.some.inj hp₀'
      refine ⟨p, ?_, hp⟩
      show Function.update md.fenceWrites g (some p) g = some p
      rw [Function.update_self]
    · have hp₀' : Function.update md'.fenceWrites f (some p') g = some p₀' := hp₀'
      rw [Function.update_of_ne hg] at hp₀'
      obtain ⟨p₀, hp₀, hc⟩ := h.fenceWrites g p₀' hp₀'
      refine ⟨p₀, ?_, hc⟩
      show Function.update md.fenceWrites f (some p) g = some p₀
      rw [Function.update_of_ne hg, hp₀]

/-- What a commit leaves. -/
theorem commit {p p' : Plan} {n n' : ℕ} {fence : Option FenceId} (h : md.Contains L md') (hordered : L.Ordered)
    (hp : p.Contains L q p') (hn : L q n n') :
    (md.commit q p n fence).Contains L (md'.commit q p' n' fence) := by
  unfold Metadata.commit
  dsimp only
  refine Metadata.Contains.setFence ?_ ⟨rfl, hn, hp.nextQueueWrites⟩
  refine Metadata.Contains.foldl ?_ hp.plannedSignals fun m m' s s' hm hs => hm.commitSignal hordered hs
  rw [← hp.consumedBinary]
  refine Metadata.Contains.foldl_same ?_ _ fun m m' s hm => hm.update s fun e e' hc => hc.consume
  · refine (h.setQueueWrites q hp.nextQueueWrites).foldl hp.plannedWaits fun m m' w w' hm hw => ?_
    rw [← hw.semaphoreId]
    exact hm.update w.semaphoreId fun e e' hc => hc.addWait hw.wait

theorem clearQueue (h : md.Contains L md') (q : QueueId) : (md.clearQueue q).Contains L (md'.clearQueue q) :=
  h.setQueueWrites q (Finset.Subset.refl _)

theorem clearAll (h : md.Contains L md') : md.clearAll.Contains L md'.clearAll where
  queueWrites _ := Finset.Subset.refl _
  fenceWrites _ _ hp' := absurd hp' (Option.some_ne_none _).symm
  semaphores := h.semaphores

/-- Fewer fences may be dropped. -/
theorem dropFences {fs fs' : List FenceId} (h : md.Contains L md') (hfs : fs ⊆ fs') :
    (md.dropFences fs).Contains L (md'.dropFences fs') where
  queueWrites := h.queueWrites
  fenceWrites f p' hp' := by
    unfold Metadata.dropFences at hp' ⊢
    dsimp only at hp' ⊢
    by_cases hf : f ∈ fs'
    · rw [if_pos hf] at hp'
      exact absurd hp' (Option.some_ne_none _).symm
    · rw [if_neg hf] at hp'
      rw [if_neg fun hmem => hf (hfs hmem)]
      exact h.fenceWrites f p' hp'
  semaphores := h.semaphores

theorem timelineSet (h : md.Contains L md') (s : SemaphoreId) (v : ℕ) : md'.timelineSet s v ⊆ md.timelineSet s v := by
  have hs := h.semaphores s
  unfold Metadata.timelineSet
  generalize md.semaphores s = e at hs ⊢
  generalize md'.semaphores s = e' at hs ⊢
  cases hs with
  | none => exact Finset.Subset.refl _
  | some hc =>
    have hrecords := List.rel_filter (p := fun r : TimelineSignalWrites => decide (r.value ≤ v))
      (q := fun r => decide (r.value ≤ v)) (fun {_ _} hr => Bool.coe_iff_coe.2 (hr.reached v)) hc.timelineWrites
    exact List.rel_foldl (P := fun a b : Writes => b ⊆ a)
      (fun _ _ hws _ _ hr => Finset.union_subset_union hws hr.memoryIds) hc.acquiredTimelineWrites hrecords

theorem noteTimeline {completed completed' : Writes} (h : md.Contains L md') (s : SemaphoreId) (v : ℕ)
    (hcompleted : completed' ⊆ completed) :
    (md.noteTimeline s v completed).Contains L (md'.noteTimeline s v completed') := by
  have hs := h.semaphores s
  unfold Metadata.noteTimeline
  cases he : md.semaphores s with
  | none =>
    cases he' : md'.semaphores s with
    | none => exact h
    | some e' =>
      rw [he, he'] at hs
      exact absurd hs (by rintro ⟨⟩)
  | some e =>
    cases he' : md'.semaphores s with
    | none =>
      rw [he, he'] at hs
      exact absurd hs (by rintro ⟨⟩)
    | some e' =>
      refine h.update s fun e e' hc => { hc with
        acquiredTimelineValue := congrArg (max · v) hc.acquiredTimelineValue
        acquiredTimelineWrites := Finset.union_subset_union hc.acquiredTimelineWrites hcompleted
        timelineWrites := List.rel_filter
          (fun {_ _} hr => Bool.coe_iff_coe.2 (congrArg Bool.not (hr.reached v))) hc.timelineWrites }

theorem learnsNoMore (h : md.Contains L md') (w : SemaphoreWait) : md.LearnsNoMore md' w := by
  have hs := h.semaphores w.semaphore
  unfold Metadata.LearnsNoMore
  generalize md.semaphores w.semaphore = e at hs ⊢
  generalize md'.semaphores w.semaphore = e' at hs ⊢
  cases hs with
  | none => exact ⟨rfl, fun e he => absurd he (Option.not_mem_none e)⟩
  | some hc =>
    refine ⟨rfl, fun e he e' he' => ?_⟩
    obtain rfl := Option.some.inj he
    obtain rfl := Option.some.inj he'
    exact hc.waitFor w.value

theorem sameKinds (h : md.Contains L md') : md.SameKinds md' := by
  intro s
  have hs := h.semaphores s
  generalize md.semaphores s = e at hs ⊢
  generalize md'.semaphores s = e' at hs ⊢
  cases hs with
  | none => rfl
  | some hc => exact hc.timeline

end Metadata.Contains

theorem Metadata.LearnsNoMore.trans {md₁ md₂ md₃ : Metadata} {w : SemaphoreWait} (h : md₁.LearnsNoMore md₂ w)
    (h' : md₂.LearnsNoMore md₃ w) : md₁.LearnsNoMore md₃ w := by
  refine ⟨h.1.trans h'.1, fun e he e'' he'' => ?_⟩
  obtain ⟨e', he'⟩ : ∃ e', md₂.semaphores w.semaphore = some e' :=
    Option.isSome_iff_exists.1 (h.1 ▸ Option.isSome_of_mem he)
  have hfirst := h.2 e he e' he'
  have hsecond := h'.2 e' he' e'' he''
  exact ⟨hsecond.1.trans hfirst.1, hfirst.2.trans hsecond.2⟩

namespace Metadata

variable {t : ResourceTables} {serial serial' : ℕ} {b : Submit} {bs : List Submit}

theorem planWait_contains {p p' : PlannedWaits} {w : SemaphoreWait} {downstream : List SemaphoreId}
    (hkinds : md.SameKinds md') (hw : md.LearnsNoMore md' w) (hserial : L q serial serial') (hp : p.Contains L p') :
    (md.planWait q serial downstream p w).Contains L (md'.planWait q serial' downstream p' w) := by
  unfold planWait
  have hkind := hkinds w.semaphore
  obtain ⟨hsome, hlearn⟩ := hw
  cases he : md.semaphores w.semaphore with
  | none =>
    rw [he] at hsome
    rw [Option.isSome_eq_false_iff.1 hsome.symm |> Option.isNone_iff_eq_none.1]
    exact hp
  | some e =>
    obtain ⟨e', he'⟩ : ∃ e', md'.semaphores w.semaphore = some e' :=
      Option.isSome_iff_exists.1 (hsome ▸ he ▸ rfl)
    rw [he, he'] at hkind
    have htimeline : e.timeline = e'.timeline := hkind
    obtain ⟨hwrites, hresolved⟩ := hlearn e he e' he'
    rw [he']
    dsimp only
    refine ⟨Finset.union_subset_union hp.writes hwrites, ?_, ?_⟩
    · rw [htimeline, hp.consumed]
    · dsimp only
      rw [hresolved]
      by_cases hres : (e'.waitFor w.value).2 = true
      · rw [if_pos hres, if_pos hres]
        exact hp.pending
      · rw [if_neg hres, if_neg hres]
        have hvalue : e.pendingValue w = e'.pendingValue w := by
          rw [SemaphoreProvenance.pendingValue, SemaphoreProvenance.pendingValue, htimeline]
        have hwait : PlannedWait.Same L ⟨w.semaphore, e.pendingValue w, q, serial, downstream⟩
            ⟨w.semaphore, e'.pendingValue w, q, serial', downstream⟩ := ⟨rfl, hvalue, rfl, hserial, rfl⟩
        exact List.rel_append hp.pending (.cons hwait .nil)

theorem planWaits_contains (hkinds : md.SameKinds md') (hwaits : ∀ w ∈ b.waits, md.LearnsNoMore md' w)
    (hserial : L q serial serial') (ws : Writes) :
    (md.planWaits q serial ws b).Contains L (md'.planWaits q serial' ws b) := by
  unfold planWaits
  have hstart : PlannedWaits.Contains L { writes := ws } { writes := ws } := ⟨Finset.Subset.refl _, rfl, .nil⟩
  generalize b.signals.map SemaphoreSignal.semaphore = downstream
  generalize b.waits = waits at hwaits ⊢
  have hall : ∀ p p' : PlannedWaits, p.Contains L p' →
      (waits.foldl (md.planWait q serial downstream) p).Contains L
        (waits.foldl (md'.planWait q serial' downstream) p') := by
    induction waits with
    | nil => exact fun _ _ hp => hp
    | cons w rest ih =>
      intro p p' hp
      exact ih (fun w' hw' => hwaits w' (List.mem_cons_of_mem w hw')) _ _
        (planWait_contains hkinds (hwaits w List.mem_cons_self) hserial hp)
  exact hall _ _ hstart

theorem planBatch_contains {p p' : Plan} (hkinds : md.SameKinds md')
    (hwaits : ∀ w ∈ b.waits, md.LearnsNoMore md' w) (hserial : L q serial serial') (hp : p.Contains L q p') :
    (planBatch t md q serial p b).Contains L q (planBatch t md' q serial' p' b) := by
  have hw := planWaits_contains hkinds hwaits hserial (commandBufferWrites t b)
  have hnext := Finset.union_subset_union hp.nextQueueWrites hw.writes
  refine ⟨hnext, ?_, List.rel_append hp.plannedWaits hw.pending, List.rel_append hp.plannedSignals ?_⟩
  · show p.consumedBinary ++ _ = p'.consumedBinary ++ _
    rw [hp.consumedBinary, hw.consumed]
  · rw [List.forall₂_map_left_iff, List.forall₂_map_right_iff, List.forall₂_same]
    intro g _
    have hkind := hkinds g.semaphore
    refine ⟨rfl, hkind, ?_, hserial, hnext⟩
    show (if _ then _ else _) = if _ then _ else _
    rw [hkind]

/-- A call that has read more plans more. -/
theorem planBatches_contains {p p' : Plan} (hkinds : md.SameKinds md')
    (hwaits : ∀ b ∈ bs, ∀ w ∈ b.waits, md.LearnsNoMore md' w)
    (hserial : ∀ i < bs.length, L q (serial + i) (serial' + i)) (hp : p.Contains L q p') :
    (planBatches t md q serial p bs).Contains L q (planBatches t md' q serial' p' bs) := by
  induction bs generalizing serial serial' p p' with
  | nil => exact hp
  | cons b bs ih =>
    refine ih (fun b' hb' => hwaits b' (List.mem_cons_of_mem b hb')) (fun i hi => ?_)
      (planBatch_contains hkinds (hwaits b List.mem_cons_self) (hserial 0 (Nat.succ_pos _)) hp)
    rw [Nat.add_assoc, Nat.add_assoc, Nat.add_comm 1]
    exact hserial (i + 1) (Nat.succ_lt_succ hi)

end Metadata

end

end VkRemote.Client
