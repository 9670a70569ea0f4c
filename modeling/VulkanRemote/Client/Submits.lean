import VulkanRemote.Client.Commit

/-! `QueueSubmit` and `QueueSubmit2` given the same batches. Each plans in a loop of its own; they leave
the same metadata up to the value that a pending wait on a binary semaphore remembers. -/

namespace VkRemote.Client

/-- `VkTimelineSemaphoreSubmitInfo`. -/
structure TimelineSemaphoreSubmitInfo where
  waitSemaphoreValues : List ℕ
  signalSemaphoreValues : List ℕ

/-- `VkSubmitInfo`, with the timeline values of its `pNext` chain. -/
structure SubmitInfo where
  waitSemaphores : List SemaphoreId := []
  commandBuffers : List (List PrimaryCommand) := []
  signalSemaphores : List SemaphoreId := []
  timeline : Option TimelineSemaphoreSubmitInfo := none

/-- `VkSemaphoreSubmitInfo`. -/
structure SemaphoreSubmitInfo where
  semaphore : SemaphoreId
  value : ℕ

/-- `VkSubmitInfo2`. -/
structure SubmitInfo2 where
  waitSemaphoreInfos : List SemaphoreSubmitInfo := []
  commandBuffers : List (List PrimaryCommand) := []
  signalSemaphoreInfos : List SemaphoreSubmitInfo := []

/-- Each semaphore with the value at its index, if there are that many. -/
def withValues : List SemaphoreId → List ℕ → List (SemaphoreId × Option ℕ)
  | [], _ => []
  | id :: ids, [] => (id, none) :: withValues ids []
  | id :: ids, v :: values => (id, some v) :: withValues ids values

namespace SubmitInfo

variable (s : SubmitInfo)

def waitValues : List ℕ := (s.timeline.map TimelineSemaphoreSubmitInfo.waitSemaphoreValues).getD []

def signalValues : List ℕ := (s.timeline.map TimelineSemaphoreSubmitInfo.signalSemaphoreValues).getD []

/-- There is a timeline value for every wait and every signal. -/
structure Supplied : Prop where
  waits : s.waitSemaphores.length ≤ s.waitValues.length
  signals : s.signalSemaphores.length ≤ s.signalValues.length

/-- The batch as `QueueSubmit` reads it: without a value that counts a wait is for 0. -/
def batch : Submit where
  waits := (withValues s.waitSemaphores s.waitValues).map fun e => { semaphore := e.1, value := e.2 }
  commandBuffers := s.commandBuffers
  signals := (withValues s.signalSemaphores s.signalValues).map fun e => { semaphore := e.1, value := e.2 }

/-- The same batch for `QueueSubmit2`. -/
def submitInfo2 : SubmitInfo2 where
  waitSemaphoreInfos := (withValues s.waitSemaphores s.waitValues).map fun e => ⟨e.1, e.2.getD 0⟩
  commandBuffers := s.commandBuffers
  signalSemaphoreInfos := (withValues s.signalSemaphores s.signalValues).map fun e => ⟨e.1, e.2.getD 0⟩

end SubmitInfo

namespace SemaphoreProvenance

/-- One turn of the loop over `timeline_writes`, which goes on after the wait is resolved. -/
def learn (value : ℕ) (p : Writes × Bool) (signal : TimelineSignalWrites) : Writes × Bool :=
  if p.2 = true ∨ signal.value < value then p else (p.1 ∪ signal.memoryIds, true)

/-- What a wait of `QueueSubmit2` learns. -/
def waitFor2 (s : SemaphoreProvenance) (value : ℕ) : Writes × Bool :=
  if s.timeline then
    s.timelineWrites.foldl (learn value) (s.acquiredTimelineWrites, decide (value ≤ s.acquiredTimelineValue))
  else (s.binaryWrites, s.binarySignaled)

end SemaphoreProvenance

namespace Metadata

def planWait2 (md : Metadata) (queueId : QueueId) (serial : ℕ) (downstream : List SemaphoreId)
    (p : PlannedWaits) (w : SemaphoreSubmitInfo) : PlannedWaits :=
  match md.semaphores w.semaphore with
  | none => p
  | some s =>
    let (writes, resolved) := s.waitFor2 w.value
    { writes := p.writes ∪ writes
      consumed := if s.timeline then p.consumed else p.consumed ++ [w.semaphore]
      pending := if resolved then p.pending else p.pending ++
        [{ semaphoreId := w.semaphore
           wait := { value := w.value, queueId := queueId, submissionSerial := serial
                     downstreamSemaphores := downstream } }] }

def planSignal2 (md : Metadata) (serial : ℕ) (writes : Writes) (g : SemaphoreSubmitInfo) : PlannedSignal :=
  let timeline := SemaphoreProvenance.isTimeline (md.semaphores g.semaphore)
  { semaphoreId := g.semaphore, timeline := timeline
    value := if timeline then g.value else 0
    submissionSerial := serial, memoryIds := writes }

/-- The attribution of the command buffers of a batch of `QueueSubmit2`. -/
def commandBufferWrites2 (t : ResourceTables) (b : SubmitInfo2) : Writes :=
  b.commandBuffers.foldl
    (fun writes cb => writes ∪ (CommandBuffer.recordPrimaries t cb).submitWrites t) ∅

/-- One turn of the planning loop of `QueueSubmit2`. -/
def planBatch2 (t : ResourceTables) (md : Metadata) (queueId : QueueId) (serial : ℕ) (p : Plan)
    (b : SubmitInfo2) : Plan :=
  let downstream := b.signalSemaphoreInfos.map SemaphoreSubmitInfo.semaphore
  let waits := b.waitSemaphoreInfos.foldl (planWait2 md queueId serial downstream)
    { writes := commandBufferWrites2 t b }
  let next := p.nextQueueWrites ∪ waits.writes
  { nextQueueWrites := next
    consumedBinary := p.consumedBinary ++ waits.consumed
    plannedWaits := p.plannedWaits ++ waits.pending
    plannedSignals := p.plannedSignals ++ b.signalSemaphoreInfos.map (planSignal2 md serial next) }

def planBatches2 (t : ResourceTables) (md : Metadata) (queueId : QueueId) :
    ℕ → Plan → List SubmitInfo2 → Plan
  | _, p, [] => p
  | serial, p, b :: bs => planBatches2 t md queueId (serial + 1) (planBatch2 t md queueId serial p b) bs

def plan2 (t : ResourceTables) (md : Metadata) (queueId : QueueId) (submits : List SubmitInfo2) : Plan :=
  planBatches2 t md queueId md.nextSubmissionSerial { nextQueueWrites := md.queueWrites queueId } submits

/-- `QueueSubmit2` after a reply of `VK_SUCCESS`; its commit is that of `QueueSubmit` line by line. -/
def queueSubmit2 (t : ResourceTables) (md : Metadata) (queueId : QueueId) (submits : List SubmitInfo2)
    (fence : Option FenceId) : Metadata :=
  Metadata.commit { md with nextSubmissionSerial := md.nextSubmissionSerial + max submits.length 1 }
    queueId (plan2 t md queueId submits) (md.nextSubmissionSerial + (submits.length - 1)) fence

end Metadata

/-! ### Waits without the value that does not count -/

/-- A wait on a binary semaphore is for no value. -/
def PendingSemaphoreWait.counted (timeline : Bool) (w : PendingSemaphoreWait) : PendingSemaphoreWait :=
  if timeline then w else { w with value := 0 }

def SemaphoreProvenance.counted (timeline : Bool) (s : SemaphoreProvenance) : SemaphoreProvenance :=
  { s with pendingWaits := s.pendingWaits.map (PendingSemaphoreWait.counted timeline) }

def PlannedWait.counted (timeline : SemaphoreId → Bool) (w : PlannedWait) : PlannedWait :=
  { w with wait := w.wait.counted (timeline w.semaphoreId) }

def Plan.counted (timeline : SemaphoreId → Bool) (p : Plan) : Plan :=
  { p with plannedWaits := p.plannedWaits.map (PlannedWait.counted timeline) }

def Metadata.counted (timeline : SemaphoreId → Bool) (md : Metadata) : Metadata :=
  { md with semaphores := fun s => (md.semaphores s).map (SemaphoreProvenance.counted (timeline s)) }

section

variable {timeline : SemaphoreId → Bool} {b : Bool} {w : PendingSemaphoreWait} {p : PlannedSignal}

@[simp] theorem counted_true : w.counted true = w := rfl

@[simp] theorem counted_counted : (w.counted b).counted b = w.counted b := by
  cases b <;> rfl

/-- A signal looks at the value of a wait only where it counts. -/
theorem outlasts_counted (h : p.timeline = b) :
    SemaphoreProvenance.outlasts p (w.counted b) = SemaphoreProvenance.outlasts p w := by
  cases b with
  | true => rfl
  | false => rw [SemaphoreProvenance.outlasts, SemaphoreProvenance.outlasts, h, Bool.false_and, Bool.false_and]

namespace Metadata

variable {md : Metadata} {q : QueueId}

theorem counted_update {s : SemaphoreId} {f f' : SemaphoreProvenance → SemaphoreProvenance}
    (h : ∀ e, (f e).counted (timeline s) = f' (e.counted (timeline s))) :
    (md.update s f).counted timeline = (md.counted timeline).update s f' := by
  unfold update counted
  congr 1
  funext s'
  dsimp only
  by_cases hs : s' = s
  · subst hs
    rw [Function.update_self, Function.update_self, Option.map_some, h]
    cases md.semaphores s' <;> rfl
  · rw [Function.update_of_ne hs, Function.update_of_ne hs]

theorem counted_propagateQueueWrites (n : ℕ) (ws : Writes) :
    (md.propagateQueueWrites q n ws).counted timeline = (md.counted timeline).propagateQueueWrites q n ws := by
  unfold propagateQueueWrites counted
  congr 1
  funext s
  rw [Option.map_map, Option.map_map]
  rfl

theorem counted_release (ws : Writes) (w : PendingSemaphoreWait) :
    (md.release ws w).counted timeline = (md.counted timeline).release ws w := by
  unfold release
  rw [← counted_propagateQueueWrites]
  generalize md.propagateQueueWrites w.queueId w.submissionSerial ws = md'
  induction w.downstreamSemaphores generalizing md' with
  | nil => rfl
  | cons s downstream ih =>
    rw [List.foldl_cons, List.foldl_cons, ih, counted_update]
    intro e
    unfold SemaphoreProvenance.propagateDownstream SemaphoreProvenance.counted
    dsimp only
    split
    · rfl
    · split <;> rfl

theorem counted_releases (ws : Writes) (waits : List PendingSemaphoreWait) :
    (waits.foldl (fun md w => md.release ws w) md).counted timeline =
      waits.foldl (fun md w => md.release ws w) (md.counted timeline) := by
  induction waits generalizing md with
  | nil => rfl
  | cons w waits ih => rw [List.foldl_cons, ih, counted_release, List.foldl_cons]

theorem release_counted (ws : Writes) : md.release ws (w.counted b) = md.release ws w := by
  cases b <;> rfl

theorem pending_counted (md : Metadata) (s : SemaphoreId) :
    (((md.counted timeline).semaphores s).getD {}).pendingWaits =
      ((md.semaphores s).getD {}).pendingWaits.map (PendingSemaphoreWait.counted (timeline s)) := by
  unfold counted
  dsimp only
  cases md.semaphores s <;> rfl

/-- A signal does the same to waits that differ in a value that does not count. -/
theorem counted_commitSignal (h : p.timeline = timeline p.semaphoreId) :
    (md.commitSignal q p).counted timeline = (md.counted timeline).commitSignal q p := by
  have hfilter : ∀ waits : List PendingSemaphoreWait,
      (waits.map (PendingSemaphoreWait.counted (timeline p.semaphoreId))).filter
          (fun w => !SemaphoreProvenance.outlasts p w) =
        (waits.filter fun w => !SemaphoreProvenance.outlasts p w).map
          (PendingSemaphoreWait.counted (timeline p.semaphoreId)) := by
    intro waits
    rw [List.filter_map]
    congr 1
    exact List.filter_congr fun w _ => by rw [Function.comp_apply, outlasts_counted h]
  have hsignal : (md.update p.semaphoreId (SemaphoreProvenance.signal q p)).counted timeline =
      (md.counted timeline).update p.semaphoreId (SemaphoreProvenance.signal q p) := by
    apply counted_update
    intro e
    unfold SemaphoreProvenance.signal SemaphoreProvenance.counted
    split <;> rfl
  have hdrop : ∀ e, ((SemaphoreProvenance.dropReleased p e).counted (timeline p.semaphoreId)) =
      SemaphoreProvenance.dropReleased p (e.counted (timeline p.semaphoreId)) := by
    intro e
    unfold SemaphoreProvenance.dropReleased SemaphoreProvenance.counted
    dsimp only
    congr 1
    rw [List.filter_map]
    congr 1
    exact List.filter_congr fun w _ => by rw [Function.comp_apply, outlasts_counted h]
  unfold commitSignal
  dsimp only
  rw [counted_update hdrop, counted_releases, ← hsignal]
  generalize md.update p.semaphoreId (SemaphoreProvenance.signal q p) = md'
  rw [pending_counted, hfilter, List.foldl_map]
  simp only [release_counted]

theorem counted_signals (ps : List PlannedSignal) (h : ∀ p ∈ ps, p.timeline = timeline p.semaphoreId) :
    (ps.foldl (commitSignal q) md).counted timeline = ps.foldl (commitSignal q) (md.counted timeline) := by
  induction ps generalizing md with
  | nil => rfl
  | cons p ps ih =>
    rw [List.foldl_cons, ih fun p' hp' => h p' (List.mem_cons_of_mem _ hp'),
      counted_commitSignal (h p List.mem_cons_self), List.foldl_cons]

theorem counted_addWaits (waits : List PlannedWait) :
    (waits.foldl (fun md w => md.update w.semaphoreId (SemaphoreProvenance.addWait w.wait)) md).counted
        timeline =
      (waits.map (PlannedWait.counted timeline)).foldl
        (fun md w => md.update w.semaphoreId (SemaphoreProvenance.addWait w.wait)) (md.counted timeline) := by
  induction waits generalizing md with
  | nil => rfl
  | cons w waits ih =>
    rw [List.foldl_cons, ih, List.map_cons, List.foldl_cons]
    congr 1
    apply counted_update
    intro e
    unfold SemaphoreProvenance.addWait SemaphoreProvenance.counted PlannedWait.counted
    simp only [List.map_append, List.map_cons, List.map_nil]

theorem counted_consumes (consumed : List SemaphoreId) :
    (consumed.foldl (fun md id => md.update id SemaphoreProvenance.consume) md).counted timeline =
      consumed.foldl (fun md id => md.update id SemaphoreProvenance.consume) (md.counted timeline) := by
  induction consumed generalizing md with
  | nil => rfl
  | cons s consumed ih =>
    rw [List.foldl_cons, ih, List.foldl_cons]
    congr 1
    exact counted_update fun _ => rfl

/-- Committing forgets no more and no less than the plan did. -/
theorem counted_commit (plan : Plan) (last : ℕ) (fence : Option FenceId)
    (h : ∀ p ∈ plan.plannedSignals, p.timeline = timeline p.semaphoreId) :
    (md.commit q plan last fence).counted timeline =
      (md.counted timeline).commit q (plan.counted timeline) last fence := by
  have hfence : ∀ (md : Metadata) ws, (md.setFence fence ws).counted timeline =
      (md.counted timeline).setFence fence ws := by
    intro md ws
    cases fence <;> rfl
  rw [commit_eq, commit_eq, hfence, commitQueue, commitQueue, counted_signals _ h, counted_consumes,
    counted_addWaits]
  rfl

/-- Nothing but the waits of binary semaphores was forgotten. -/
theorem eq_of_counted {md' : Metadata} (h : md.counted timeline = md'.counted timeline)
    (hpending : ∀ s, (md.shape s).pending = (md'.shape s).pending) : md = md' := by
  simp only [counted, mk.injEq] at h
  obtain ⟨hsem, hserial, hqueue, hfence⟩ := h
  have heq : md.semaphores = md'.semaphores := by
    funext s
    have hs := congrFun hsem s
    have hp := hpending s
    unfold shape SemaphoreProvenance.shape at hp
    cases he : md.semaphores s with
    | none =>
      cases he' : md'.semaphores s with
      | none => rfl
      | some e' => rw [he, he'] at hs; cases hs
    | some e =>
      cases he' : md'.semaphores s with
      | none => rw [he, he'] at hs; cases hs
      | some e' =>
        rw [he, he', Option.map_some, Option.map_some, Option.some.injEq] at hs
        rw [he, he'] at hp
        cases e
        cases e'
        simp only [SemaphoreProvenance.counted, SemaphoreProvenance.mk.injEq] at hs
        simp only [Option.getD_some] at hp
        simp [hs, hp]
  cases md
  cases md'
  simp only at heq hserial hqueue hfence
  rw [heq, hserial, hqueue, hfence]

/-! ### What stays pending -/

theorem pending_signals (ps : List PlannedSignal) (s : SemaphoreId) :
    ((ps.foldl (commitSignal q) md).shape s).pending =
      (md.shape s).pending.filter fun w => (releaser ps s w).isNone := by
  induction ps generalizing md with
  | nil => exact (List.filter_eq_self.2 fun _ _ => rfl).symm
  | cons p ps ih =>
    rw [List.foldl_cons, ih, shape_commitSignal]
    split
    · next hs =>
      rw [Shape.signal, List.filter_filter]
      refine List.filter_congr fun w _ => ?_
      rw [Bool.eq_iff_iff, Bool.and_eq_true, Option.isNone_iff_eq_none, Option.isNone_iff_eq_none,
        releaser_cons_none]
      exact ⟨fun h => ⟨fun _ => h.2, h.1⟩, fun h => ⟨h.2, h.1 hs.symm⟩⟩
    · next hs =>
      refine List.filter_congr fun w _ => ?_
      rw [Bool.eq_iff_iff, Option.isNone_iff_eq_none, Option.isNone_iff_eq_none, releaser_cons_none]
      exact ⟨fun h => ⟨fun heq => absurd heq.symm hs, h⟩, fun h => h.2⟩

/-- The planned waits on the semaphore. -/
def waitsOn (waits : List PlannedWait) (s : SemaphoreId) : List PendingSemaphoreWait :=
  (waits.filter fun w => w.semaphoreId = s).map PlannedWait.wait

theorem pending_addWaits (waits : List PlannedWait) (s : SemaphoreId) :
    ((waits.foldl (fun md w => md.update w.semaphoreId (SemaphoreProvenance.addWait w.wait)) md).shape
        s).pending = (md.shape s).pending ++ waitsOn waits s := by
  induction waits generalizing md with
  | nil => exact (List.append_nil _).symm
  | cons w waits ih =>
    rw [List.foldl_cons, ih, shape_update]
    unfold waitsOn
    split
    · next hs =>
      rw [List.filter_cons_of_pos (by simp [hs]), List.map_cons]
      subst hs
      exact List.append_assoc _ [w.wait] _
    · next hs => rw [List.filter_cons_of_neg (by simpa using fun h => hs h.symm)]

theorem pending_consumes (consumed : List SemaphoreId) (s : SemaphoreId) :
    ((consumed.foldl (fun md id => md.update id SemaphoreProvenance.consume) md).shape s).pending =
      (md.shape s).pending := by
  induction consumed generalizing md with
  | nil => rfl
  | cons s' consumed ih =>
    rw [List.foldl_cons, ih, shape_update]
    split
    · next hs => subst hs; rfl
    · rfl

theorem pending_commit (plan : Plan) (last : ℕ) (fence : Option FenceId) (s : SemaphoreId) :
    ((md.commit q plan last fence).shape s).pending =
      ((md.shape s).pending ++ waitsOn plan.plannedWaits s).filter
        fun w => (releaser plan.plannedSignals s w).isNone := by
  have hfence : ∀ (md : Metadata) ws, (md.setFence fence ws).shape s = md.shape s := by
    intro md ws
    cases fence <;> rfl
  rw [commit_eq, hfence, commitQueue, pending_signals, pending_consumes, pending_addWaits,
    shape_setQueueWrites]

theorem waitsOn_counted (waits : List PlannedWait) (s : SemaphoreId) :
    waitsOn (waits.map (PlannedWait.counted timeline)) s =
      (waitsOn waits s).map (PendingSemaphoreWait.counted (timeline s)) := by
  unfold waitsOn
  rw [List.filter_map, List.map_map, List.map_map]
  refine List.map_congr_left fun w hw => ?_
  have hs : w.semaphoreId = s := of_decide_eq_true (List.mem_filter.1 hw).2
  rw [Function.comp_apply, Function.comp_apply, PlannedWait.counted, hs]

/-- A signal of a binary semaphore releases every wait on it, and no other signal does. -/
theorem releaser_binary {ps : List PlannedSignal} (h : ∀ p ∈ ps, p.timeline = timeline p.semaphoreId)
    {s : SemaphoreId} (hs : timeline s = false) (w : PendingSemaphoreWait) :
    (releaser ps s w).isNone = true ↔ ∀ p ∈ ps, p.semaphoreId ≠ s := by
  rw [Option.isNone_iff_eq_none, releaser, List.find?_eq_none]
  refine forall₂_congr fun p hp => ?_
  have hout : p.semaphoreId = s → SemaphoreProvenance.outlasts p w = false := by
    rintro rfl
    rw [SemaphoreProvenance.outlasts, h p hp, hs, Bool.false_and]
  constructor
  · intro hno heq
    exact hno (by simp [heq, hout heq])
  · intro hne
    simp [hne]

/-- Two commits, one of a plan that forgets the values which do not count, agree exactly if the other
keeps no such value. -/
theorem commit_counted_iff (plan : Plan) (last : ℕ) (fence : Option FenceId)
    (h : ∀ p ∈ plan.plannedSignals, p.timeline = timeline p.semaphoreId) :
    md.commit q (plan.counted timeline) last fence = md.commit q plan last fence ↔
      ∀ w ∈ plan.plannedWaits, timeline w.semaphoreId = false → w.wait.value ≠ 0 →
        ∃ p ∈ plan.plannedSignals, p.semaphoreId = w.semaphoreId := by
  have hkept : ∀ s, timeline s = false → (∀ p ∈ plan.plannedSignals, p.semaphoreId ≠ s) →
      ∀ waits : List PendingSemaphoreWait,
        waits.filter (fun w => (releaser plan.plannedSignals s w).isNone) = waits :=
    fun s hs hno waits => List.filter_eq_self.2 fun w _ => (releaser_binary h hs w).2 hno
  constructor
  · intro heq w hw hbinary hvalue
    by_contra hno
    push Not at hno
    have hpending := congrArg (fun md : Metadata => (md.shape w.semaphoreId).pending) heq
    simp only [pending_commit] at hpending
    rw [Plan.counted, hkept _ hbinary hno, hkept _ hbinary hno, List.append_cancel_left_eq,
      waitsOn_counted] at hpending
    have hsame := List.map_inj_left.1 (hpending.trans (List.map_id _).symm)
    have hmem : w.wait ∈ waitsOn plan.plannedWaits w.semaphoreId :=
      List.mem_map.2 ⟨w, List.mem_filter.2 ⟨hw, by simp⟩, rfl⟩
    have hzero := congrArg PendingSemaphoreWait.value (hsame _ hmem)
    rw [hbinary] at hzero
    exact hvalue hzero.symm
  · intro hall
    have hcounted : (plan.counted timeline).counted timeline = plan.counted timeline := by
      simp only [Plan.counted, List.map_map]
      congr 1
      exact List.map_congr_left fun w _ => by
        simp only [Function.comp_apply, PlannedWait.counted, counted_counted]
    have hsame : (md.commit q (plan.counted timeline) last fence).counted timeline =
        (md.commit q plan last fence).counted timeline := by
      rw [counted_commit (plan.counted timeline) last fence h, counted_commit plan last fence h, hcounted]
    apply eq_of_counted hsame
    · intro s
      rw [pending_commit, pending_commit, Plan.counted, waitsOn_counted]
      dsimp only
      cases hs : timeline s with
      | true => rw [List.map_congr_left fun _ _ => counted_true, List.map_id']
      | false =>
        by_cases hsignal : ∃ p ∈ plan.plannedSignals, p.semaphoreId = s
        · obtain ⟨p, hp, heq⟩ := hsignal
          have hdrop : ∀ waits : List PendingSemaphoreWait,
              waits.filter (fun w => (releaser plan.plannedSignals s w).isNone) = [] := by
            intro waits
            rw [List.filter_eq_nil_iff]
            exact fun w _ hnone => (releaser_binary h hs w).1 hnone p hp heq
          rw [hdrop, hdrop]
        · push Not at hsignal
          congr 2
          refine (List.map_congr_left fun w hw => ?_).trans (List.map_id _)
          obtain ⟨w', hw', rfl⟩ := List.mem_map.1 hw
          obtain ⟨hmem, heq⟩ := List.mem_filter.1 hw'
          have heq : w'.semaphoreId = s := of_decide_eq_true heq
          have hzero : w'.wait.value = 0 := by
            by_contra hvalue
            obtain ⟨p, hp, hps⟩ := hall w' hmem (heq ▸ hs) hvalue
            exact hsignal p hp (hps.trans heq)
          unfold PendingSemaphoreWait.counted
          rw [← hzero]
          rfl

end Metadata

end

/-- The loop that goes on takes what the loop that stops at the first record takes. -/
theorem foldl_learn (value : ℕ) (l : List TimelineSignalWrites) (ws : Writes) (resolved : Bool) :
    l.foldl (SemaphoreProvenance.learn value) (ws, resolved) =
      if resolved = true then (ws, true)
      else match l.find? fun r => value ≤ r.value with
        | some r => (ws ∪ r.memoryIds, true)
        | none => (ws, false) := by
  induction l generalizing ws resolved with
  | nil => cases resolved <;> rfl
  | cons r l ih =>
    rw [List.foldl_cons, SemaphoreProvenance.learn]
    cases resolved with
    | true => rw [if_pos (.inl rfl), ih, if_pos rfl, if_pos rfl]
    | false =>
      by_cases hlt : r.value < value
      · rw [if_pos (.inr hlt), ih, List.find?_cons_of_neg (by simpa using hlt)]
      · rw [if_neg (by simpa using hlt), ih, List.find?_cons_of_pos (by simpa using hlt), if_pos rfl]
        rfl

theorem SemaphoreProvenance.waitFor2_eq (s : SemaphoreProvenance) (value : ℕ) :
    s.waitFor2 value = s.waitFor (some value) := by
  unfold waitFor2 waitFor firstReaching
  cases s.timeline with
  | false => rfl
  | true =>
    rw [if_pos rfl, foldl_learn]
    by_cases hle : value ≤ s.acquiredTimelineValue
    · exact (if_pos (decide_eq_true hle)).trans (if_pos hle).symm
    · refine (if_neg (by simpa using hle)).trans (Eq.trans ?_ (if_neg hle).symm)
      cases s.timelineWrites.find? fun r => value ≤ r.value <;> rfl

theorem withValues_supplied {ids values : List ℕ} (h : ids.length ≤ values.length) :
    ∀ e ∈ withValues ids values, e.2 = some (e.2.getD 0) := by
  induction ids generalizing values with
  | nil => intro e he; cases he
  | cons id ids ih =>
    cases values with
    | nil => exact absurd h (by simp)
    | cons v values =>
      rintro e (_ | ⟨_, he⟩)
      · rfl
      · exact ih (by simpa using h) e he

theorem map_withValues (ids values : List ℕ) : (withValues ids values).map Prod.fst = ids := by
  induction ids generalizing values with
  | nil => rfl
  | cons id ids ih => cases values <;> rw [withValues, List.map_cons, ih]

namespace Metadata

variable {t : ResourceTables} (md : Metadata) (q : QueueId)

/-- The semaphores known to be timeline semaphores. -/
def timelines (s : SemaphoreId) : Bool := SemaphoreProvenance.isTimeline (md.semaphores s)

def PlannedWaits.counted (timeline : SemaphoreId → Bool) (p : PlannedWaits) : PlannedWaits :=
  { p with pending := p.pending.map (PlannedWait.counted timeline) }

theorem planWait_counted (serial : ℕ) (downstream : List SemaphoreId) (p : PlannedWaits)
    {e : SemaphoreId × Option ℕ} (h : e.2 = some (e.2.getD 0)) :
    planWait md q serial downstream (p.counted md.timelines) { semaphore := e.1, value := e.2 } =
      (planWait2 md q serial downstream p ⟨e.1, e.2.getD 0⟩).counted md.timelines := by
  obtain ⟨s, value⟩ := e
  dsimp only at h ⊢
  rw [h, Option.getD_some]
  generalize value.getD 0 = v
  unfold planWait planWait2
  dsimp only
  cases hs : md.semaphores s with
  | none => rfl
  | some entry =>
    have ht : md.timelines s = entry.timeline := by rw [timelines, hs]; rfl
    have hwait : PlannedWait.counted md.timelines ⟨s, v, q, serial, downstream⟩ =
        ⟨s, entry.pendingValue { semaphore := s, value := some v }, q, serial, downstream⟩ := by
      unfold PlannedWait.counted PendingSemaphoreWait.counted SemaphoreProvenance.pendingValue
      dsimp only
      rw [ht]
      cases entry.timeline <;> rfl
    dsimp only
    rw [entry.waitFor2_eq]
    unfold PlannedWaits.counted
    dsimp only
    rw [apply_ite (List.map _), List.map_append, List.map_cons, hwait]
    rfl

theorem planWaits_counted (serial : ℕ) (downstream : List SemaphoreId) (es : List (SemaphoreId × Option ℕ))
    (h : ∀ e ∈ es, e.2 = some (e.2.getD 0)) (p : PlannedWaits) :
    (es.map fun e => ({ semaphore := e.1, value := e.2 } : SemaphoreWait)).foldl
        (planWait md q serial downstream) (p.counted md.timelines) =
      ((es.map fun e => (⟨e.1, e.2.getD 0⟩ : SemaphoreSubmitInfo)).foldl
        (planWait2 md q serial downstream) p).counted md.timelines := by
  induction es generalizing p with
  | nil => rfl
  | cons e es ih =>
    rw [List.map_cons, List.map_cons, List.foldl_cons, List.foldl_cons,
      planWait_counted md q serial downstream p (h e List.mem_cons_self)]
    exact ih (fun e' he' => h e' (List.mem_cons_of_mem _ he')) _

theorem planSignals_eq (serial : ℕ) (ws : Writes) (es : List (SemaphoreId × Option ℕ)) :
    (es.map fun e => ({ semaphore := e.1, value := e.2 } : SemaphoreSignal)).map (planSignal md serial ws) =
      (es.map fun e => (⟨e.1, e.2.getD 0⟩ : SemaphoreSubmitInfo)).map (planSignal2 md serial ws) := by
  rw [List.map_map, List.map_map]
  rfl

theorem planBatch_counted (serial : ℕ) (p : Plan) {b : SubmitInfo} (h : b.Supplied) :
    planBatch t md q serial (p.counted md.timelines) b.batch =
      (planBatch2 t md q serial p b.submitInfo2).counted md.timelines := by
  have hdown : b.batch.signals.map SemaphoreSignal.semaphore = b.signalSemaphores := by
    rw [SubmitInfo.batch, List.map_map]
    exact map_withValues _ _
  have hdown2 : b.submitInfo2.signalSemaphoreInfos.map SemaphoreSubmitInfo.semaphore =
      b.signalSemaphores := by
    rw [SubmitInfo.submitInfo2, List.map_map]
    exact map_withValues _ _
  have hwaits : planWaits md q serial (commandBufferWrites t b.batch) b.batch =
      (b.submitInfo2.waitSemaphoreInfos.foldl (planWait2 md q serial b.signalSemaphores)
        { writes := commandBufferWrites2 t b.submitInfo2 }).counted md.timelines := by
    rw [planWaits, hdown]
    exact planWaits_counted md q serial b.signalSemaphores _ (withValues_supplied h.waits)
      { writes := commandBufferWrites t b.batch }
  unfold planBatch planBatch2
  dsimp only
  rw [hdown2, hwaits]
  generalize b.submitInfo2.waitSemaphoreInfos.foldl (planWait2 md q serial b.signalSemaphores)
    { writes := commandBufferWrites2 t b.submitInfo2 } = r
  have hsignals : b.batch.signals.map (planSignal md serial (p.nextQueueWrites ∪ r.writes)) =
      b.submitInfo2.signalSemaphoreInfos.map (planSignal2 md serial (p.nextQueueWrites ∪ r.writes)) :=
    planSignals_eq md serial _ _
  simp only [Plan.counted, PlannedWaits.counted, List.map_append, hsignals]

/-- `QueueSubmit` plans what `QueueSubmit2` does, without the values that do not count. -/
theorem planBatches_counted (submits : List SubmitInfo) (h : ∀ b ∈ submits, b.Supplied) (serial : ℕ)
    (p : Plan) :
    planBatches t md q serial (p.counted md.timelines) (submits.map SubmitInfo.batch) =
      (planBatches2 t md q serial p (submits.map SubmitInfo.submitInfo2)).counted md.timelines := by
  induction submits generalizing serial p with
  | nil => rfl
  | cons b submits ih =>
    rw [List.map_cons, List.map_cons, planBatches, planBatches2,
      planBatch_counted md q serial p (h b List.mem_cons_self)]
    exact ih (fun b' hb' => h b' (List.mem_cons_of_mem _ hb')) _ _

theorem plan_counted {submits : List SubmitInfo} (h : ∀ b ∈ submits, b.Supplied) :
    md.plan t q (submits.map SubmitInfo.batch) =
      (md.plan2 t q (submits.map SubmitInfo.submitInfo2)).counted md.timelines :=
  planBatches_counted md q submits h md.nextSubmissionSerial { nextQueueWrites := md.queueWrites q }

/-- The wait stays pending. -/
def unresolved (w : SemaphoreSubmitInfo) : Bool :=
  (md.semaphores w.semaphore).any fun s => !(s.waitFor2 w.value).2

theorem planWaits2_pending (serial : ℕ) (downstream : List SemaphoreId) (ws : List SemaphoreSubmitInfo)
    (p : PlannedWaits) :
    ((ws.foldl (planWait2 md q serial downstream) p).pending.map
        fun w => (⟨w.semaphoreId, w.wait.value⟩ : SemaphoreSubmitInfo)) =
      p.pending.map (fun w => ⟨w.semaphoreId, w.wait.value⟩) ++ ws.filter md.unresolved := by
  induction ws generalizing p with
  | nil => exact (List.append_nil _).symm
  | cons w ws ih =>
    rw [List.foldl_cons, ih, List.filter_cons]
    unfold planWait2 unresolved
    cases hs : md.semaphores w.semaphore with
    | none => simp
    | some e =>
      cases hr : (e.waitFor2 w.value).2 with
      | true => simp [hr]
      | false => simp [hr]

theorem planBatches2_pending (submits : List SubmitInfo2) (serial : ℕ) (p : Plan) :
    ((planBatches2 t md q serial p submits).plannedWaits.map
        fun w => (⟨w.semaphoreId, w.wait.value⟩ : SemaphoreSubmitInfo)) =
      p.plannedWaits.map (fun w => ⟨w.semaphoreId, w.wait.value⟩) ++
        submits.flatMap fun b => b.waitSemaphoreInfos.filter md.unresolved := by
  induction submits generalizing serial p with
  | nil => exact (List.append_nil _).symm
  | cons b submits ih =>
    rw [planBatches2, ih, List.flatMap_cons, ← List.append_assoc, planBatch2]
    dsimp only
    rw [List.map_append, planWaits2_pending]
    rfl

theorem planBatches2_signals (submits : List SubmitInfo2) (serial : ℕ) (p : Plan) :
    ((planBatches2 t md q serial p submits).plannedSignals.map
        fun p => (p.semaphoreId, p.timeline)) =
      p.plannedSignals.map (fun p => (p.semaphoreId, p.timeline)) ++
        submits.flatMap fun b => b.signalSemaphoreInfos.map fun g => (g.semaphore, md.timelines g.semaphore) := by
  induction submits generalizing serial p with
  | nil => exact (List.append_nil _).symm
  | cons b submits ih =>
    rw [planBatches2, ih, List.flatMap_cons, ← List.append_assoc, planBatch2]
    dsimp only
    rw [List.map_append, List.map_map]
    rfl

/-- No value comes with a wait on a binary semaphore that is not signaled, unless the call signals it. -/
def BinaryUnvalued (md : Metadata) (submits : List SubmitInfo) : Prop :=
  ∀ b ∈ submits, ∀ w ∈ b.submitInfo2.waitSemaphoreInfos, ∀ e, md.semaphores w.semaphore = some e →
    e.timeline = false → e.binarySignaled = false → w.value ≠ 0 →
      ∃ b' ∈ submits, w.semaphore ∈ b'.signalSemaphores

theorem unresolved_binary {w : SemaphoreSubmitInfo} :
    md.unresolved w = true ∧ md.timelines w.semaphore = false ↔
      ∃ e, md.semaphores w.semaphore = some e ∧ e.timeline = false ∧ e.binarySignaled = false := by
  unfold unresolved timelines SemaphoreProvenance.isTimeline SemaphoreProvenance.waitFor2
  cases md.semaphores w.semaphore with
  | none => simp
  | some e =>
    cases ht : e.timeline with
    | true => simp [ht]
    | false => simp [ht]

theorem plan2_signals {submits : List SubmitInfo} {s : SemaphoreId} :
    (∃ p ∈ (md.plan2 t q (submits.map SubmitInfo.submitInfo2)).plannedSignals, p.semaphoreId = s) ↔
      ∃ b ∈ submits, s ∈ b.signalSemaphores := by
  have heq := congrArg (List.map Prod.fst) (planBatches2_signals (t := t) md q
    (submits.map SubmitInfo.submitInfo2) md.nextSubmissionSerial { nextQueueWrites := md.queueWrites q })
  rw [List.map_nil, List.nil_append, List.map_map, List.map_flatMap, List.flatMap_map] at heq
  have hids : ∀ b : SubmitInfo, (b.submitInfo2.signalSemaphoreInfos.map
      fun g => (g.semaphore, md.timelines g.semaphore)).map Prod.fst = b.signalSemaphores := by
    intro b
    rw [SubmitInfo.submitInfo2, List.map_map, List.map_map]
    exact map_withValues _ _
  simp only [hids] at heq
  have hmem : s ∈ submits.flatMap SubmitInfo.signalSemaphores ↔ ∃ b ∈ submits, s ∈ b.signalSemaphores :=
    List.mem_flatMap
  rw [← hmem, ← heq, List.mem_map]
  rfl

theorem plan2_timelines (submits : List SubmitInfo2) :
    ∀ p ∈ (md.plan2 t q submits).plannedSignals, p.timeline = md.timelines p.semaphoreId := by
  intro p hp
  have hmem := List.mem_map_of_mem (f := fun p : PlannedSignal => (p.semaphoreId, p.timeline)) hp
  rw [plan2, planBatches2_signals, List.map_nil, List.nil_append, List.mem_flatMap] at hmem
  obtain ⟨b, -, hmem⟩ := hmem
  obtain ⟨g, -, heq⟩ := List.mem_map.1 hmem
  rw [Prod.mk.injEq] at heq
  rw [← heq.2, heq.1]

theorem plan2_waits {submits : List SubmitInfo} {w : SemaphoreSubmitInfo} :
    (∃ p ∈ (md.plan2 t q (submits.map SubmitInfo.submitInfo2)).plannedWaits,
        (⟨p.semaphoreId, p.wait.value⟩ : SemaphoreSubmitInfo) = w) ↔
      ∃ b ∈ submits, w ∈ b.submitInfo2.waitSemaphoreInfos ∧ md.unresolved w = true := by
  have heq := planBatches2_pending (t := t) md q (submits.map SubmitInfo.submitInfo2)
    md.nextSubmissionSerial { nextQueueWrites := md.queueWrites q }
  rw [List.map_nil, List.nil_append, List.flatMap_map] at heq
  have hmem : w ∈ submits.flatMap (fun b => b.submitInfo2.waitSemaphoreInfos.filter md.unresolved) ↔
      ∃ b ∈ submits, w ∈ b.submitInfo2.waitSemaphoreInfos ∧ md.unresolved w = true := by
    simp only [List.mem_flatMap, List.mem_filter]
  rw [← hmem, ← heq, List.mem_map]
  rfl

/-- The two submits leave the same metadata exactly if no value that does not count stays behind. -/
theorem queueSubmit_eq_iff (t : ResourceTables) (md : Metadata) (q : QueueId) (submits : List SubmitInfo)
    (fence : Option FenceId) (hsupplied : ∀ b ∈ submits, b.Supplied) :
    md.queueSubmit t q (submits.map SubmitInfo.batch) fence =
        md.queueSubmit2 t q (submits.map SubmitInfo.submitInfo2) fence ↔
      md.BinaryUnvalued submits := by
  have hcommit := @commit_counted_iff md.timelines
    { md with nextSubmissionSerial := md.nextSubmissionSerial + max submits.length 1 } q
    (md.plan2 t q (submits.map SubmitInfo.submitInfo2)) (md.nextSubmissionSerial + (submits.length - 1)) fence
    (plan2_timelines md q (submits.map SubmitInfo.submitInfo2))
  unfold queueSubmit queueSubmit2 takeSerials lastSerial
  rw [plan_counted md q hsupplied, List.length_map, List.length_map, hcommit]
  constructor
  · intro h b hb w hw e he ht hs hvalue
    obtain ⟨hunresolved, hbinary⟩ := (unresolved_binary md).2 ⟨e, he, ht, hs⟩
    obtain ⟨p, hp, rfl⟩ := (plan2_waits (t := t) md q).2 ⟨b, hb, hw, hunresolved⟩
    exact (plan2_signals md q).1 (h p hp hbinary hvalue)
  · intro h p hp hbinary hvalue
    obtain ⟨b, hb, hw, hunresolved⟩ := (plan2_waits md q).1 ⟨p, hp, rfl⟩
    obtain ⟨e, he, ht, hs⟩ := (unresolved_binary md).1 ⟨hunresolved, hbinary⟩
    exact (plan2_signals md q).2 (h b hb _ hw e he ht hs hvalue)

/-- Semaphore 5 is binary and not signaled. -/
def oneBinary : Metadata where
  semaphores s := if s = 5 then some {} else none

/-- A wait for the semaphore with the value `value`, which does not count. -/
def waitFor5 (value : ℕ) : SubmitInfo where
  waitSemaphores := [5]
  timeline := some ⟨[value], []⟩

theorem queueSubmit_eq_zero :
    oneBinary.queueSubmit {} 1 ([waitFor5 0].map SubmitInfo.batch) none =
      oneBinary.queueSubmit2 {} 1 ([waitFor5 0].map SubmitInfo.submitInfo2) none := by
  refine (queueSubmit_eq_iff {} oneBinary 1 [waitFor5 0] none fun b hb => ?_).2 fun b hb w hw e _ _ _ hv => ?_
  · obtain rfl := List.mem_singleton.1 hb
    exact ⟨by decide, by decide⟩
  · obtain rfl := List.mem_singleton.1 hb
    obtain rfl := List.mem_singleton.1 hw
    exact absurd rfl hv

/-- The value of a wait on a binary semaphore is kept by one and not by the other. -/
theorem binary_value_kept :
    (waitFor5 3).Supplied ∧
      ((oneBinary.queueSubmit {} 1 ([waitFor5 3].map SubmitInfo.batch) none).shape 5).pending =
        [⟨0, 1, 1, []⟩] ∧
      ((oneBinary.queueSubmit2 {} 1 ([waitFor5 3].map SubmitInfo.submitInfo2) none).shape 5).pending =
        [⟨3, 1, 1, []⟩] ∧
      oneBinary.queueSubmit {} 1 ([waitFor5 3].map SubmitInfo.batch) none ≠
        oneBinary.queueSubmit2 {} 1 ([waitFor5 3].map SubmitInfo.submitInfo2) none := by
  have hone : ((oneBinary.queueSubmit {} 1 ([waitFor5 3].map SubmitInfo.batch) none).shape 5).pending =
      [⟨0, 1, 1, []⟩] := by decide
  have htwo : ((oneBinary.queueSubmit2 {} 1 ([waitFor5 3].map SubmitInfo.submitInfo2) none).shape 5).pending =
      [⟨3, 1, 1, []⟩] := by decide
  refine ⟨⟨by decide, by decide⟩, hone, htwo, fun heq => ?_⟩
  rw [heq, htwo] at hone
  revert hone
  decide

end Metadata

end VkRemote.Client
