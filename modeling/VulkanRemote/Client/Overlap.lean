import VulkanRemote.Client.AttributedRuns
import VulkanRemote.Client.Binding
import VulkanRemote.Client.Containing
import VulkanRemote.Client.SemaphoreRuns

/-! Submits and completions of one device whose critical sections interleave: between the plan of a submit and
its commit, and between what a completion copies and what it clears, other calls have the lock. -/

namespace VkRemote.Client

open Lib

/-- A call that has come to its end. -/
inductive Call
  | submit (q : QueueId) (submits : List Submit) (fence : Option FenceId)
  | failedSubmit (submits : List Submit)
  | queueWaitIdle (q : QueueId)
  | deviceWaitIdle
  | waitForFences (signaled : List FenceId)
  | getFenceStatus (fence : FenceId)
  | waitTimeline (s : SemaphoreId) (value : ℕ)

/-- What the call does to the attribution when no other call comes between. -/
def Call.perform (t : ResourceTables) (md : Metadata) : Call → Metadata
  | .submit q submits fence => md.queueSubmit t q submits fence
  | .failedSubmit submits => md.takeSerials submits
  | .queueWaitIdle q => md.clearQueue q
  | .deviceWaitIdle => md.clearAll
  | .waitForFences signaled => md.dropFences signaled
  | .getFenceStatus fence => md.dropFences [fence]
  | .waitTimeline s value => md.noteTimeline s value (md.timelineSet s value)

/-- A submit that waits for its reply: its plan, its first serial number, and the metadata it planned from. -/
structure Submission where
  submits : List Submit
  fence : Option FenceId
  serial : ℕ
  plan : Plan
  planned : Metadata

/-- The call that has the mutex of a queue and is past its first critical section. -/
inductive Holder
  | submit (c : Submission)
  | idle (completed : Writes)

/-- A completion that is past its first critical section; a wait for fences looks at each of its own in one. -/
inductive Observer
  | fences (signaled found : List FenceId) (completed : Writes)
  | status (fence : FenceId) (completed : Writes)
  | timeline (s : SemaphoreId) (value : ℕ) (completed : Writes)

/-- The attribution, the calls under way, those that are finished, and the values that timeline semaphores were
given in the commits so far. -/
structure Overlap where
  md : Metadata
  holding : QueueId → Option Holder := fun _ => none
  observers : List Observer := []
  finished : List Call := []
  given : List (SemaphoreId × ℕ) := []

inductive OverlapAction
  | plan (q : QueueId) (submits : List Submit) (fence : Option FenceId)
  | commit (q : QueueId)
  | failSubmit (q : QueueId)
  | copyQueue (q : QueueId)
  | clearQueue (q : QueueId)
  | leaveQueue (q : QueueId)
  | deviceWaitIdle
  | beginFences
  | lookFence (i : ℕ) (fence : FenceId)
  | lookStatus (fence : FenceId)
  | copyTimeline (s : SemaphoreId) (value : ℕ)
  | clear (i : ℕ)
  | leave (i : ℕ)

/-- A wait without a value is for zero. -/
def Submit.Plain (b : Submit) : Prop := ∀ w ∈ b.waits, w.value = none → w.otherwise = 0

instance (b : Submit) : Decidable b.Plain := inferInstanceAs (Decidable (∀ w ∈ _, _ → _))

/-- The values that a plan gives to timeline semaphores. -/
def Plan.given (p : Plan) : List (SemaphoreId × ℕ) :=
  (p.plannedSignals.filter PlannedSignal.timeline).map fun g => (g.semaphoreId, g.value)

namespace Overlap

def start (md : Metadata) : Overlap := { md := md }

def setHolder (s : Overlap) (q : QueueId) (h : Option Holder) : Overlap :=
  { s with holding := Function.update s.holding q h }

/-- The first half of a submit, under `metadata_mutex`; the mutex of the queue is free. -/
def plan (t : ResourceTables) (s : Overlap) (q : QueueId) (submits : List Submit) (fence : Option FenceId) :
    Overlap :=
  { s.setHolder q (some (.submit
      { submits := submits, fence := fence, serial := s.md.nextSubmissionSerial
        plan := s.md.plan t q submits, planned := s.md })) with
    md := s.md.takeSerials submits }

/-- The second half of a submit, after a reply of `VK_SUCCESS`. -/
def commit (s : Overlap) (q : QueueId) (c : Submission) : Overlap :=
  { s.setHolder q none with
    md := s.md.commit q c.plan (c.serial + (c.submits.length - 1)) c.fence
    finished := s.finished ++ [.submit q c.submits c.fence]
    given := s.given ++ c.plan.given }

/-- What a completion does when it has acquired what it copied. -/
def Observer.clear (md : Metadata) : Observer → Metadata × Call
  | .fences signaled found _ => (md.dropFences found, .waitForFences signaled)
  | .status fence _ => (md.dropFences [fence], .getFenceStatus fence)
  | .timeline s value completed => (md.noteTimeline s value completed, .waitTimeline s value)

/-- A fence that is found signaled is looked up. -/
def Observer.look (md : Metadata) (fence : FenceId) : Observer → Option Observer
  | .fences signaled found completed => some (match md.fenceWrites fence with
    | none => .fences (signaled ++ [fence]) found completed
    | some p => .fences (signaled ++ [fence]) (found ++ [fence]) (completed ∪ p.memoryIds))
  | _ => none

def step (t : ResourceTables) (s : Overlap) : OverlapAction → Option Overlap
  | .plan q submits fence =>
    if (s.holding q).isNone ∧ ∀ b ∈ submits, b.Plain then some (s.plan t q submits fence) else none
  | .commit q =>
    match s.holding q with
    | some (.submit c) => some (s.commit q c)
    | _ => none
  | .failSubmit q =>
    match s.holding q with
    | some (.submit c) => some { s.setHolder q none with finished := s.finished ++ [.failedSubmit c.submits] }
    | _ => none
  | .copyQueue q =>
    match s.holding q with
    | none => some (s.setHolder q (some (.idle (s.md.queueWrites q))))
    | _ => none
  | .clearQueue q =>
    match s.holding q with
    | some (.idle _) =>
      some { s.setHolder q none with md := s.md.clearQueue q, finished := s.finished ++ [.queueWaitIdle q] }
    | _ => none
  | .leaveQueue q =>
    match s.holding q with
    | some (.idle _) => some (s.setHolder q none)
    | _ => none
  | .deviceWaitIdle => some { s with md := s.md.clearAll, finished := s.finished ++ [.deviceWaitIdle] }
  | .beginFences => some { s with observers := s.observers ++ [.fences [] [] ∅] }
  | .lookFence i fence =>
    match s.observers[i]? with
    | none => none
    | some o => (Observer.look s.md fence o).map fun o' => { s with observers := s.observers.set i o' }
  | .lookStatus fence => some { s with observers := s.observers ++ [.status fence (s.md.fenceSet [fence])] }
  | .copyTimeline sem value =>
    some { s with observers := s.observers ++ [.timeline sem value (s.md.timelineSet sem value)] }
  | .clear i =>
    match s.observers[i]? with
    | none => none
    | some o => some { s with
        md := (Observer.clear s.md o).1
        observers := s.observers.eraseIdx i
        finished := s.finished ++ [(Observer.clear s.md o).2] }
  | .leave i => if i < s.observers.length then some { s with observers := s.observers.eraseIdx i } else none

end Overlap

/-! ### What is asked, and when it is met -/

/-- `md` has at least what `md'` has, and the same waits are pending; the serial numbers of each queue may have
come differently, but in the same order. -/
def Metadata.AtLeast (md md' : Metadata) : Prop := ∃ L : SerialMatch, L.Ordered ∧ md.Contains L md'

/-- The attribution has what it has after some order of the same calls, and no wait is pending whose value has
been given. -/
structure Overlap.Sequential (t : ResourceTables) (md₀ : Metadata) (s : Overlap) : Prop where
  ordered : ∃ order : List Call, order.Perm s.finished ∧ s.md.AtLeast (order.foldl (Call.perform t) md₀)
  released : ∀ g ∈ s.given, (s.md.shape g.1).timeline = true → ∀ w ∈ (s.md.shape g.1).pending,
    w.value ≠ 0 → g.2 < w.value

/-- Since the plan nothing was added to what it read. -/
def Submission.Current (c : Submission) (md : Metadata) (q : QueueId) : Prop :=
  md.queueWrites q ⊆ c.planned.queueWrites q ∧ ∀ b ∈ c.submits, ∀ w ∈ b.waits, c.planned.LearnsNoMore md w

instance (c : Submission) (md : Metadata) (q : QueueId) : Decidable (c.Current md q) :=
  inferInstanceAs (Decidable (_ ∧ _))

def Holder.Current (md : Metadata) (q : QueueId) : Holder → Prop
  | .submit c => c.Current md q
  | .idle _ => True

instance (md : Metadata) (q : QueueId) : (h : Holder) → Decidable (h.Current md q)
  | .submit c => inferInstanceAs (Decidable (c.Current md q))
  | .idle _ => .isTrue trivial

/-- Since the copy nothing was added to what was acquired. -/
def Observer.Current (md : Metadata) : Observer → Prop
  | .timeline s value completed => md.timelineSet s value ⊆ completed
  | .fences _ _ _ => True
  | .status _ _ => True

instance (md : Metadata) : (o : Observer) → Decidable (o.Current md)
  | .timeline s value completed => inferInstanceAs (Decidable (md.timelineSet s value ⊆ completed))
  | .fences _ _ _ => .isTrue trivial
  | .status _ _ => .isTrue trivial

namespace Overlap

/-- What a commit and a wait for a timeline value are about to use is still all there is. -/
def Undisturbed (s : Overlap) : OverlapAction → Prop
  | .commit q => ∀ h ∈ s.holding q, h.Current s.md q
  | .clear i => ∀ o ∈ s.observers[i]?, o.Current s.md
  | _ => True

instance (s : Overlap) : (a : OverlapAction) → Decidable (s.Undisturbed a)
  | .commit _ => inferInstanceAs (Decidable (∀ h ∈ _, _))
  | .clear _ => inferInstanceAs (Decidable (∀ o ∈ _, _))
  | .plan _ _ _ => .isTrue trivial
  | .failSubmit _ => .isTrue trivial
  | .copyQueue _ => .isTrue trivial
  | .clearQueue _ => .isTrue trivial
  | .leaveQueue _ => .isTrue trivial
  | .deviceWaitIdle => .isTrue trivial
  | .beginFences => .isTrue trivial
  | .lookFence _ _ => .isTrue trivial
  | .lookStatus _ => .isTrue trivial
  | .copyTimeline _ _ => .isTrue trivial
  | .leave _ => .isTrue trivial

end Overlap

/-- The serial numbers in use are below the next one. -/
structure Metadata.SerialsBelow (md : Metadata) : Prop where
  fenceWrites : ∀ f p, md.fenceWrites f = some p → p.submissionSerial < md.nextSubmissionSerial
  binary : ∀ s e, md.semaphores s = some e → e.binarySignaled = true →
    e.binarySubmissionSerial < md.nextSubmissionSerial
  timelineWrites : ∀ s e, md.semaphores s = some e → ∀ r ∈ e.timelineWrites,
    r.submissionSerial < md.nextSubmissionSerial
  pendingWaits : ∀ s e, md.semaphores s = some e → ∀ w ∈ e.pendingWaits,
    w.submissionSerial < md.nextSubmissionSerial

/-! ### What holds of the kinds and of the next serial number -/

namespace Metadata

variable {md md' md'' : Metadata}

theorem SameKinds.trans (h : md.SameKinds md') (h' : md'.SameKinds md'') : md.SameKinds md'' := fun s =>
  (h s).trans (h' s)

theorem sameKinds_of_shape (h : ∀ s, (md'.shape s).timeline = (md.shape s).timeline) : md.SameKinds md' := fun s =>
  (isTimeline_eq md s).trans ((h s).symm.trans (isTimeline_eq md' s).symm)

theorem shape_setFence (md : Metadata) (f : Option FenceId) (p : PendingCoherentWrites) (s : SemaphoreId) :
    (md.setFence f p).shape s = md.shape s := by
  cases f <;> rfl

theorem setFence_nextSubmissionSerial (md : Metadata) (f : Option FenceId) (p : PendingCoherentWrites) :
    (md.setFence f p).nextSubmissionSerial = md.nextSubmissionSerial := by
  cases f <;> rfl

theorem shape_commit (md : Metadata) (q : QueueId) (p : Plan) (n : ℕ) (fence : Option FenceId) (s : SemaphoreId) :
    (md.commit q p n fence).shape s = (md.commitQueue q p).shape s := by
  rw [commit_eq, shape_setFence]

theorem commit_nextSubmissionSerial (md : Metadata) (q : QueueId) (p : Plan) (n : ℕ) (fence : Option FenceId) :
    (md.commit q p n fence).nextSubmissionSerial = md.nextSubmissionSerial := by
  rw [commit_eq, setFence_nextSubmissionSerial, (committed_commitQueue md q p).serial]

theorem noteTimeline_nextSubmissionSerial (md : Metadata) (s : SemaphoreId) (v : ℕ) (completed : Writes) :
    (md.noteTimeline s v completed).nextSubmissionSerial = md.nextSubmissionSerial := by
  unfold noteTimeline
  split <;> rfl

end Metadata

namespace Overlap

/-- The attribution after the finished calls, one after the other. -/
def twin (t : ResourceTables) (md₀ : Metadata) (s : Overlap) : Metadata := s.finished.foldl (Call.perform t) md₀

/-- What a submit has while it waits for its reply: its serial numbers come after all that were committed on
its queue. -/
structure Waiting (t : ResourceTables) (md : Metadata) (L : SerialMatch) (q : QueueId) (c : Submission) : Prop where
  plan : c.plan =
    Metadata.planBatches t c.planned q c.serial { nextQueueWrites := c.planned.queueWrites q } c.submits
  after : ∀ a a', L q a a' → a < c.serial
  room : c.serial + max c.submits.length 1 ≤ md.nextSubmissionSerial
  kinds : c.planned.SameKinds md
  plain : ∀ b ∈ c.submits, b.Plain

/-- Only fences that were looked at are found. -/
def Sound : Observer → Prop
  | .fences signaled found _ => found ⊆ signaled
  | .status _ _ => True
  | .timeline _ _ _ => True

structure Inv (t : ResourceTables) (md₀ : Metadata) (L : SerialMatch) (s : Overlap) : Prop where
  ordered : L.Ordered
  contains : s.md.Contains L (s.twin t md₀)
  below : ∀ q a a', L q a a' → a < s.md.nextSubmissionSerial ∧ a' < (s.twin t md₀).nextSubmissionSerial
  waiting : ∀ q c, s.holding q = some (.submit c) → Waiting t s.md L q c
  given : ∀ g ∈ s.given, g.2 ≤ (s.md.shape g.1).acquiredValue ∨ g.2 ∈ (s.md.shape g.1).values
  released : ∀ g ∈ s.given, (s.md.shape g.1).timeline = true → ∀ w ∈ (s.md.shape g.1).pending,
    w.value ≠ 0 → g.2 < w.value
  looked : ∀ o ∈ s.observers, Sound o

section

variable {t : ResourceTables} {md₀ : Metadata} {L : SerialMatch} {s s' : Overlap} {q : QueueId} {c : Submission}

theorem Inv.sequential (h : s.Inv t md₀ L) : s.Sequential t md₀ :=
  ⟨⟨s.finished, .refl _, L, h.ordered, h.contains⟩, h.released⟩

/-- A matching of the serial numbers below the next one with themselves. -/
def sameBelow (md : Metadata) : SerialMatch := fun _ a a' => a = a' ∧ a < md.nextSubmissionSerial

theorem inv_start (h : md₀.SerialsBelow) : (start md₀).Inv t md₀ (sameBelow md₀) where
  ordered := by
    rintro q a a' b b' ⟨rfl, -⟩ ⟨rfl, -⟩
    rfl
  contains := by
    refine ⟨fun q => Finset.Subset.refl _, fun f p hp => ⟨p, hp, rfl, ⟨rfl, h.fenceWrites f p hp⟩,
      Finset.Subset.refl _⟩, fun s => ?_⟩
    show Option.Rel _ (md₀.semaphores s) (md₀.semaphores s)
    cases he : md₀.semaphores s with
    | none => exact .none
    | some e => exact .some {
        timeline := rfl
        binarySignaled := rfl
        binaryQueueId := fun _ => rfl
        binarySerial := fun hsignaled => ⟨rfl, h.binary s e he hsignaled⟩
        binaryWrites := Finset.Subset.refl _
        timelineWrites := List.forall₂_same.2 fun r hr =>
          ⟨rfl, rfl, ⟨rfl, h.timelineWrites s e he r hr⟩, Finset.Subset.refl _⟩
        acquiredTimelineValue := rfl
        acquiredTimelineWrites := Finset.Subset.refl _
        pendingWaits := List.forall₂_same.2 fun w hw => ⟨rfl, rfl, ⟨rfl, h.pendingWaits s e he w hw⟩, rfl⟩ }
  below := by
    rintro q a a' ⟨rfl, hlt⟩
    exact ⟨hlt, hlt⟩
  waiting _ _ hc := absurd hc (Option.some_ne_none _).symm
  given _ hg := absurd hg List.not_mem_nil
  released _ hg := absurd hg List.not_mem_nil
  looked _ ho := absurd ho List.not_mem_nil

/-- What a completion and a failure leave of the semaphores: what was given is acquired or on record. -/
structure Leaves (md md' : Metadata) : Prop where
  timeline : ∀ s, (md'.shape s).timeline = (md.shape s).timeline
  pending : ∀ s, (md'.shape s).pending = (md.shape s).pending
  given : ∀ s v, v ≤ (md.shape s).acquiredValue ∨ v ∈ (md.shape s).values →
    v ≤ (md'.shape s).acquiredValue ∨ v ∈ (md'.shape s).values
  next : md'.nextSubmissionSerial = md.nextSubmissionSerial

theorem leaves_of_semaphores {md md' : Metadata} (h : md'.semaphores = md.semaphores)
    (hnext : md'.nextSubmissionSerial = md.nextSubmissionSerial) : Leaves md md' := by
  have hshape : md'.shape = md.shape := by
    funext s
    rw [Metadata.shape, Metadata.shape, h]
  exact ⟨fun s => by rw [hshape], fun s => by rw [hshape], fun s v hv => by rwa [hshape], hnext⟩

theorem leaves_noteTimeline (md : Metadata) (id : SemaphoreId) (value : ℕ) (completed : Writes) :
    Leaves md (md.noteTimeline id value completed) where
  timeline s := (SemaphoreWorld.noteTimeline_shape md id value completed s).1
  pending s := (SemaphoreWorld.noteTimeline_shape md id value completed s).2.1
  given s v hv := by
    obtain ⟨-, hacquired, hkept⟩ := (SemaphoreWorld.noteTimeline_shape md id value completed s).2.2 v
    rcases hv with hv | hv
    · exact .inl (hv.trans hacquired)
    · by_cases hlt : ((md.noteTimeline id value completed).shape s).acquiredValue < v
      · exact .inr (hkept hv hlt)
      · exact .inl (Nat.le_of_not_lt hlt)
  next := Metadata.noteTimeline_nextSubmissionSerial md id value completed

theorem Waiting.change {md md' : Metadata} (h : Waiting t md L q c) (hkinds : md.SameKinds md')
    (hnext : md.nextSubmissionSerial ≤ md'.nextSubmissionSerial) : Waiting t md' L q c :=
  { h with room := h.room.trans hnext, kinds := h.kinds.trans hkinds }

/-- Only what the calls under way remember changes. -/
theorem Inv.remember (h : s.Inv t md₀ L) (holding : QueueId → Option Holder) (observers : List Observer)
    (hholding : ∀ q c, holding q = some (.submit c) → s.holding q = some (.submit c))
    (hlooked : ∀ o ∈ observers, Sound o) : Inv t md₀ L { s with holding := holding, observers := observers } :=
  ⟨h.ordered, h.contains, h.below, fun q c hc => h.waiting q c (hholding q c hc), h.given, h.released, hlooked⟩

theorem twin_finish (t : ResourceTables) (md₀ md : Metadata) (holding : QueueId → Option Holder)
    (observers : List Observer) (given : List (SemaphoreId × ℕ)) (call : Call) :
    twin t md₀ ⟨md, holding, observers, s.finished ++ [call], given⟩ = call.perform t (s.twin t md₀) := by
  rw [twin, List.foldl_append]
  rfl

/-- A call is finished that is no submit. -/
theorem Inv.finish (h : s.Inv t md₀ L) {md : Metadata} {call : Call} (holding : QueueId → Option Holder)
    (observers : List Observer) (hleaves : Leaves s.md md)
    (hcontains : md.Contains L (call.perform t (s.twin t md₀)))
    (hnext : (s.twin t md₀).nextSubmissionSerial ≤ (call.perform t (s.twin t md₀)).nextSubmissionSerial)
    (hholding : ∀ q c, holding q = some (.submit c) → s.holding q = some (.submit c))
    (hlooked : ∀ o ∈ observers, Sound o) : Inv t md₀ L ⟨md, holding, observers, s.finished ++ [call], s.given⟩ := by
  refine ⟨h.ordered, ?_, fun q a a' ha => ?_, fun q c hc => ?_, fun g hg => ?_, fun g hg htimeline w hw => ?_,
    hlooked⟩
  · rw [twin_finish]
    exact hcontains
  · rw [twin_finish]
    obtain ⟨hlt, hlt'⟩ := h.below q a a' ha
    exact ⟨hleaves.next ▸ hlt, hlt'.trans_le hnext⟩
  · exact (h.waiting q c (hholding q c hc)).change (Metadata.sameKinds_of_shape hleaves.timeline)
      hleaves.next.ge
  · exact hleaves.given g.1 g.2 (h.given g hg)
  · exact h.released g hg (hleaves.timeline g.1 ▸ htimeline) w (hleaves.pending g.1 ▸ hw)

/-- A holder that is taken away or is no submit. -/
theorem holding_setHolder {holder : Option Holder} (hholder : ∀ c, holder ≠ some (.submit c)) (q q' : QueueId)
    (c : Submission) (hc : (s.setHolder q holder).holding q' = some (.submit c)) :
    s.holding q' = some (.submit c) := by
  have hc : Function.update s.holding q holder q' = some (.submit c) := hc
  by_cases hq : q' = q
  · subst hq
    rw [Function.update_self] at hc
    exact absurd hc (hholder c)
  · rwa [Function.update_of_ne hq] at hc

theorem Inv.plan (h : s.Inv t md₀ L) {submits : List Submit} (fence : Option FenceId)
    (hplain : ∀ b ∈ submits, b.Plain) : (s.plan t q submits fence).Inv t md₀ L where
  ordered := h.ordered
  contains := ⟨h.contains.queueWrites, h.contains.fenceWrites, h.contains.semaphores⟩
  below q₀ a a' ha := ⟨Nat.lt_add_right _ (h.below q₀ a a' ha).1, (h.below q₀ a a' ha).2⟩
  waiting q' c hc := by
    by_cases hq : q' = q
    · subst hq
      have hc : Function.update s.holding q' _ q' = some (.submit c) := hc
      rw [Function.update_self] at hc
      obtain rfl := Holder.submit.inj (Option.some.inj hc)
      exact ⟨rfl, fun a a' ha => (h.below q' a a' ha).1, le_rfl, fun _ => rfl, hplain⟩
    · have hc : Function.update s.holding q _ q' = some (.submit c) := hc
      rw [Function.update_of_ne hq] at hc
      exact (h.waiting q' c hc).change (fun _ => rfl) (Nat.le_add_right _ _)
  given := h.given
  released := h.released
  looked := h.looked

/-- The serial numbers of a submit are matched with those it takes when it comes last. -/
def grown (L : SerialMatch) (q : QueueId) (c : Submission) (next : ℕ) : SerialMatch := fun q₀ a a' =>
  L q₀ a a' ∨ q₀ = q ∧ ∃ i < max c.submits.length 1, a = c.serial + i ∧ a' = next + i

theorem ordered_grown {next : ℕ} (hordered : L.Ordered) (hafter : ∀ a a', L q a a' → a < c.serial ∧ a' < next) :
    (grown L q c next).Ordered := by
  rintro q₀ a a' b b' (ha | ⟨rfl, i, hi, rfl, rfl⟩) (hb | ⟨hq, j, hj, rfl, rfl⟩)
  · exact hordered q₀ a a' b b' ha hb
  · subst hq
    have := hafter a a' ha
    exact iff_of_true (by omega) (by omega)
  · have := hafter b b' hb
    exact iff_of_false (by omega) (by omega)
  · omega

/-- The call, planned from what it read, is at least the call made now from what the twin has. -/
theorem Waiting.plan_contains {md md' : Metadata} {next : ℕ} (h : Waiting t md L q c) (hcontains : md.Contains L md')
    (hcurrent : c.Current md q) (hnext : md'.nextSubmissionSerial = next) :
    c.plan.Contains (grown L q c next) q (md'.plan t q c.submits) := by
  rw [h.plan, Metadata.plan, hnext]
  refine Metadata.planBatches_contains (h.kinds.trans hcontains.sameKinds) (fun b hb w hw => ?_) (fun i hi => ?_)
    ⟨(hcontains.queueWrites q).trans hcurrent.1, rfl, .nil, .nil⟩
  · exact (hcurrent.2 b hb w hw).trans (hcontains.learnsNoMore w)
  · exact .inr ⟨rfl, i, lt_max_of_lt_left hi, rfl, rfl⟩

theorem commit_contains (h : s.Inv t md₀ L) (hc : s.holding q = some (.submit c)) (hcurrent : c.Current s.md q) :
    (s.commit q c).md.Contains (grown L q c (s.twin t md₀).nextSubmissionSerial)
      ((s.twin t md₀).queueSubmit t q c.submits c.fence) := by
  have hwaiting := h.waiting q c hc
  have hgrown : s.md.Contains (grown L q c (s.twin t md₀).nextSubmissionSerial)
      ((s.twin t md₀).takeSerials c.submits) := by
    have hmono : s.md.Contains (grown L q c (s.twin t md₀).nextSubmissionSerial) (s.twin t md₀) :=
      h.contains.mono fun _ _ _ ha => .inl ha
    exact ⟨hmono.queueWrites, hmono.fenceWrites, hmono.semaphores⟩
  have hordered := ordered_grown (c := c) h.ordered fun a a' ha => ⟨hwaiting.after a a' ha, (h.below q a a' ha).2⟩
  refine hgrown.commit hordered (hwaiting.plan_contains h.contains hcurrent rfl) (.inr ⟨rfl, ?_⟩)
  exact ⟨c.submits.length - 1, by omega, rfl, rfl⟩

/-- What was given before is below every wait that is planned now. -/
theorem given_lt_planned (h : s.Inv t md₀ L) (hc : s.holding q = some (.submit c)) (hcurrent : c.Current s.md q)
    {g : SemaphoreId × ℕ} (hg : g ∈ s.given) (htimeline : (s.md.shape g.1).timeline = true)
    {w : PendingSemaphoreWait} (hw : ⟨g.1, w⟩ ∈ c.plan.plannedWaits) (hvalue : w.value ≠ 0) : g.2 < w.value := by
  have hwaiting := h.waiting q c hc
  rw [hwaiting.plan] at hw
  rcases Metadata.mem_planBatches_waits hw with hnil | ⟨b, hb, x, hx, e, he, hres, hid, hval⟩
  · exact absurd hnil List.not_mem_nil
  obtain ⟨hsome, hlearn⟩ := hcurrent.2 b hb x hx
  obtain ⟨e', he'⟩ : ∃ e', s.md.semaphores x.semaphore = some e' :=
    Option.isSome_iff_exists.1 (hsome ▸ he ▸ rfl)
  have hres' := (hlearn e he e' he').2 ▸ hres
  have hid : g.1 = x.semaphore := hid
  have hshape : s.md.shape g.1 = e'.shape := by
    rw [Metadata.shape, hid, he']
    rfl
  rw [hshape] at htimeline
  have hkind : e.timeline = true := by
    have hkinds := hwaiting.kinds x.semaphore
    rw [he, he'] at hkinds
    exact hkinds.trans htimeline
  have hval : w.value = x.value.getD x.otherwise := by
    rw [show w.value = e.pendingValue x from hval, SemaphoreProvenance.pendingValue, if_pos hkind]
  cases hgiven : x.value with
  | none =>
    rw [hgiven, Option.getD_none, hwaiting.plain b hb x hx hgiven] at hval
    exact absurd hval hvalue
  | some v =>
    rw [hgiven, Option.getD_some] at hval
    rw [hgiven] at hres'
    have htimeline : e'.timeline = true := htimeline
    unfold SemaphoreProvenance.waitFor at hres'
    rw [htimeline] at hres'
    dsimp only at hres'
    by_cases hacquired : v ≤ e'.acquiredTimelineValue
    · rw [if_pos hacquired] at hres'
      exact Bool.noConfusion hres'
    · rw [if_neg hacquired] at hres'
      have hnone : e'.firstReaching v = none := by
        cases hfirst : e'.firstReaching v with
        | none => rfl
        | some r =>
          rw [hfirst] at hres'
          exact Bool.noConfusion hres'
      have hmem := h.given g hg
      rw [hshape] at hmem
      rw [hval]
      rcases hmem with hle | hmem
      · exact lt_of_le_of_lt hle (Nat.lt_of_not_le hacquired)
      · obtain ⟨r, hr, hrv⟩ := List.mem_map.1 hmem
        have hnot := List.find?_eq_none.1 hnone r hr
        rw [decide_eq_true_eq, Nat.not_le] at hnot
        rwa [← hrv]

/-- A wait that is pending after a commit was pending or planned, and outlasts every signal of the plan. -/
theorem pending_commit {id : SemaphoreId} {w : PendingSemaphoreWait} (hw : w ∈ ((s.commit q c).md.shape id).pending) :
    (w ∈ (s.md.shape id).pending ∨ ⟨id, w⟩ ∈ c.plan.plannedWaits) ∧
      ∀ p ∈ c.plan.plannedSignals, p.semaphoreId = id → SemaphoreProvenance.outlasts p w = true := by
  have hshape : (s.commit q c).md.shape id = (s.md.commitQueue q c.plan).shape id := Metadata.shape_commit ..
  rw [hshape, (Metadata.committed_commitQueue s.md q c.plan).pending] at hw
  refine ⟨hw.1, fun p hp hid => ?_⟩
  have hnone := List.find?_eq_none.1 hw.2 p hp
  simpa [hid] using hnone

theorem Inv.commit (h : s.Inv t md₀ L) (hc : s.holding q = some (.submit c)) (hcurrent : c.Current s.md q) :
    (s.commit q c).Inv t md₀ (grown L q c (s.twin t md₀).nextSubmissionSerial) := by
  have hwaiting := h.waiting q c hc
  have hcommitted := Metadata.committed_commitQueue s.md q c.plan
  have hshape : ∀ id, (s.commit q c).md.shape id = (s.md.commitQueue q c.plan).shape id := fun id =>
    Metadata.shape_commit ..
  have hnext : (s.commit q c).md.nextSubmissionSerial = s.md.nextSubmissionSerial :=
    Metadata.commit_nextSubmissionSerial ..
  have htwin : (s.commit q c).twin t md₀ = (s.twin t md₀).queueSubmit t q c.submits c.fence := twin_finish ..
  have htwinNext : ((s.commit q c).twin t md₀).nextSubmissionSerial =
      (s.twin t md₀).nextSubmissionSerial + max c.submits.length 1 := by
    rw [htwin, Metadata.queueSubmit, Metadata.commit_nextSubmissionSerial]
    rfl
  have htimeline : ∀ id, ((s.commit q c).md.shape id).timeline = (s.md.shape id).timeline := fun id => by
    rw [hshape, hcommitted.timeline]
  refine ⟨ordered_grown h.ordered fun a a' ha => ⟨hwaiting.after a a' ha, (h.below q a a' ha).2⟩,
    htwin ▸ commit_contains h hc hcurrent, fun q₀ a a' ha => ?_, fun q' c' hc' => ?_, fun g hg => ?_,
    fun g hg hkind w hw hvalue => ?_, h.looked⟩
  · rw [hnext, htwinNext]
    have hroom := hwaiting.room
    rcases ha with ha | ⟨-, i, hi, rfl, rfl⟩
    · have := h.below q₀ a a' ha
      omega
    · omega
  · have hq : q' ≠ q := by
      intro hq
      have hc' : Function.update s.holding q none q' = some (.submit c') := hc'
      rw [hq, Function.update_self] at hc'
      exact absurd hc' (Option.some_ne_none _).symm
    have hold := h.waiting q' c' (holding_setHolder (fun _ => (Option.some_ne_none _).symm) q q' c' hc')
    have hchanged := hold.change (Metadata.sameKinds_of_shape htimeline) hnext.ge
    refine { hchanged with after := fun a a' ha => ?_ }
    exact hold.after a a' (ha.resolve_right fun hnew => hq hnew.1)
  · rw [hshape, hcommitted.acquiredValue, hcommitted.values]
    rcases List.mem_append.1 hg with hg | hg
    · exact (h.given g hg).imp_right fun hmem => List.mem_append_left _ hmem
    · obtain ⟨p, hp, rfl⟩ := List.mem_map.1 hg
      obtain ⟨hp, hkind⟩ := List.mem_filter.1 hp
      refine .inr (List.mem_append_right _ (List.mem_map.2 ⟨p, List.mem_filter.2 ⟨hp, ?_⟩, rfl⟩))
      simp [hkind]
  · obtain ⟨hfrom, houtlasts⟩ := pending_commit hw
    rw [htimeline] at hkind
    rcases List.mem_append.1 hg with hg | hg
    · rcases hfrom with hold | hplanned
      · exact h.released g hg hkind w hold hvalue
      · exact given_lt_planned h hc hcurrent hg hkind hplanned hvalue
    · obtain ⟨p, hp, rfl⟩ := List.mem_map.1 hg
      have hout := houtlasts p (List.mem_filter.1 hp).1 rfl
      rw [SemaphoreProvenance.outlasts, Bool.and_eq_true, decide_eq_true_eq] at hout
      exact hout.2

theorem Inv.clear (h : s.Inv t md₀ L) {o : Observer} (hsound : Sound o) (hcurrent : o.Current s.md)
    {observers : List Observer} (hlooked : ∀ o ∈ observers, Sound o) :
    Inv t md₀ L ⟨(Observer.clear s.md o).1, s.holding, observers, s.finished ++ [(Observer.clear s.md o).2],
      s.given⟩ := by
  cases o with
  | fences signaled found completed =>
    exact h.finish _ _ (leaves_of_semaphores rfl rfl) (h.contains.dropFences hsound) le_rfl
      (fun _ _ hc => hc) hlooked
  | status fence completed =>
    exact h.finish _ _ (leaves_of_semaphores rfl rfl) (h.contains.dropFences (List.Subset.refl _)) le_rfl
      (fun _ _ hc => hc) hlooked
  | timeline id value completed =>
    refine h.finish _ _ (leaves_noteTimeline s.md id value completed) ?_ ?_ (fun _ _ hc => hc) hlooked
    · exact h.contains.noteTimeline id value ((h.contains.timelineSet id value).trans hcurrent)
    · exact (Metadata.noteTimeline_nextSubmissionSerial _ id value _).ge

theorem sound_look {md : Metadata} {fence : FenceId} {o o' : Observer} (h : Sound o)
    (hlook : Observer.look md fence o = some o') : Sound o' := by
  cases o with
  | fences signaled found completed =>
    have hlook := Option.some.inj hlook
    have hsub : found ⊆ signaled := h
    cases hf : md.fenceWrites fence with
    | none =>
      rw [hf] at hlook
      subst hlook
      exact List.Subset.trans hsub (List.subset_append_left _ _)
    | some p =>
      rw [hf] at hlook
      subst hlook
      exact List.append_subset.2 ⟨List.Subset.trans hsub (List.subset_append_left _ _), List.subset_append_right _ _⟩
  | status f completed => exact absurd hlook (Option.some_ne_none _).symm
  | timeline id value completed => exact absurd hlook (Option.some_ne_none _).symm

theorem Inv.looked_concat (h : s.Inv t md₀ L) {o : Observer} (ho : Sound o) : ∀ o' ∈ s.observers ++ [o], Sound o' := by
  intro o' ho'
  rcases List.mem_append.1 ho' with ho' | ho'
  · exact h.looked o' ho'
  · exact List.mem_singleton.1 ho' ▸ ho

theorem step_commit (h : s.step t (.commit q) = some s') :
    ∃ c, s.holding q = some (.submit c) ∧ s.commit q c = s' := by
  dsimp only [step] at h
  split at h
  · next c hc => exact ⟨c, hc, Option.some.inj h⟩
  · cases h

theorem step_failSubmit (h : s.step t (.failSubmit q) = some s') :
    ∃ c, s.holding q = some (.submit c) ∧
      { s.setHolder q none with finished := s.finished ++ [.failedSubmit c.submits] } = s' := by
  dsimp only [step] at h
  split at h
  · next c hc => exact ⟨c, hc, Option.some.inj h⟩
  · cases h

theorem step_copyQueue (h : s.step t (.copyQueue q) = some s') :
    s.setHolder q (some (.idle (s.md.queueWrites q))) = s' := by
  dsimp only [step] at h
  split at h
  · exact Option.some.inj h
  · cases h

theorem step_clearQueue (h : s.step t (.clearQueue q) = some s') :
    { s.setHolder q none with md := s.md.clearQueue q, finished := s.finished ++ [.queueWaitIdle q] } = s' := by
  dsimp only [step] at h
  split at h
  · exact Option.some.inj h
  · cases h

theorem step_leaveQueue (h : s.step t (.leaveQueue q) = some s') : s.setHolder q none = s' := by
  dsimp only [step] at h
  split at h
  · exact Option.some.inj h
  · cases h

theorem step_lookFence {i : ℕ} {fence : FenceId} (h : s.step t (.lookFence i fence) = some s') :
    ∃ o ∈ s.observers, ∃ o', Observer.look s.md fence o = some o' ∧
      { s with observers := s.observers.set i o' } = s' := by
  dsimp only [step] at h
  split at h
  · cases h
  · next o ho =>
    obtain ⟨o', hlook, hs⟩ := Option.map_eq_some_iff.1 h
    exact ⟨o, List.mem_of_getElem? ho, o', hlook, hs⟩

theorem inv_step {a : OverlapAction} (h : s.Inv t md₀ L) (hundisturbed : s.Undisturbed a)
    (hstep : s.step t a = some s') : ∃ L, s'.Inv t md₀ L := by
  cases a with
  | plan q submits fence =>
    obtain ⟨⟨-, hplain⟩, hs⟩ := Option.ite_none_right_eq_some.1 hstep
    exact ⟨L, Option.some.inj hs ▸ h.plan fence hplain⟩
  | commit q =>
    obtain ⟨c, hc, rfl⟩ := step_commit hstep
    exact ⟨_, h.commit hc (hundisturbed _ hc)⟩
  | failSubmit q =>
    obtain ⟨c, hc, rfl⟩ := step_failSubmit hstep
    refine ⟨L, h.finish _ _ (leaves_of_semaphores rfl rfl) ?_ (Nat.le_add_right _ _)
      (holding_setHolder (fun _ => (Option.some_ne_none _).symm) q) h.looked⟩
    exact ⟨h.contains.queueWrites, h.contains.fenceWrites, h.contains.semaphores⟩
  | copyQueue q =>
    obtain rfl := step_copyQueue hstep
    exact ⟨L, h.remember _ _ (holding_setHolder (fun c hc => Holder.noConfusion (Option.some.inj hc)) q) h.looked⟩
  | clearQueue q =>
    obtain rfl := step_clearQueue hstep
    exact ⟨L, h.finish _ _ (leaves_of_semaphores rfl rfl) (h.contains.clearQueue q) le_rfl
      (holding_setHolder (fun _ => (Option.some_ne_none _).symm) q) h.looked⟩
  | leaveQueue q =>
    obtain rfl := step_leaveQueue hstep
    exact ⟨L, h.remember _ _ (holding_setHolder (fun _ => (Option.some_ne_none _).symm) q) h.looked⟩
  | deviceWaitIdle =>
    obtain rfl := Option.some.inj hstep
    exact ⟨L, h.finish _ _ (leaves_of_semaphores rfl rfl) h.contains.clearAll le_rfl (fun _ _ hc => hc) h.looked⟩
  | beginFences =>
    obtain rfl := Option.some.inj hstep
    exact ⟨L, h.remember _ _ (fun _ _ hc => hc) (h.looked_concat (List.Subset.refl _))⟩
  | lookFence i fence =>
    obtain ⟨o, ho, o', hlook, rfl⟩ := step_lookFence hstep
    refine ⟨L, h.remember _ _ (fun _ _ hc => hc) fun o'' ho'' => ?_⟩
    rcases List.mem_or_eq_of_mem_set ho'' with ho'' | rfl
    · exact h.looked o'' ho''
    · exact sound_look (h.looked o ho) hlook
  | lookStatus fence =>
    obtain rfl := Option.some.inj hstep
    exact ⟨L, h.remember _ _ (fun _ _ hc => hc) (h.looked_concat trivial)⟩
  | copyTimeline id value =>
    obtain rfl := Option.some.inj hstep
    exact ⟨L, h.remember _ _ (fun _ _ hc => hc) (h.looked_concat trivial)⟩
  | clear i =>
    dsimp only [step] at hstep
    cases ho : s.observers[i]? with
    | none => rw [ho] at hstep; exact absurd hstep (Option.some_ne_none _).symm
    | some o =>
      rw [ho] at hstep
      obtain rfl := Option.some.inj hstep
      exact ⟨L, h.clear (h.looked o (List.mem_of_getElem? ho)) (hundisturbed o ho)
        fun o' ho' => h.looked o' (List.mem_of_mem_eraseIdx ho')⟩
  | leave i =>
    obtain ⟨-, hs⟩ := Option.ite_none_right_eq_some.1 hstep
    obtain rfl := Option.some.inj hs
    exact ⟨L, h.remember _ _ (fun _ _ hc => hc) fun o' ho' => h.looked o' (List.mem_of_mem_eraseIdx ho')⟩

/-- Whatever the order of the critical sections, as long as what a commit or a timeline wait uses is current. -/
theorem run_sequential {actions : List OverlapAction} (hstart : md₀.SerialsBelow)
    (hrun : RunWhere (step t) Undisturbed (start md₀) actions s) : s.Sequential t md₀ := by
  obtain ⟨L, h⟩ : ∃ L, s.Inv t md₀ L := by
    refine hrun.invariant (I := fun s => ∃ L, s.Inv t md₀ L) ⟨_, inv_start hstart⟩ ?_
    intro s₁ a s₂ ⟨L, h⟩ hundisturbed hstep
    exact inv_step h hundisturbed hstep
  exact h.sequential

end

/-! ### Runs with and without the condition -/

/-- Semaphore 6 is a timeline. -/
def oneTimeline : Metadata := Metadata.createSemaphore {} 6 true

theorem serialsBelow_oneTimeline : oneTimeline.SerialsBelow := by
  have hfresh : ∀ s e, oneTimeline.semaphores s = some e → e = { timeline := true } := by
    intro s e he
    by_cases hs : s = 6
    · subst hs
      exact (Option.some.inj he).symm
    · have hnone : oneTimeline.semaphores s = none := Function.update_of_ne hs _ _
      exact absurd (hnone.symm.trans he) (Option.some_ne_none e).symm
  refine ⟨fun f p hp => absurd hp (Option.some_ne_none p).symm, fun s e he hsignaled => ?_, fun s e he r hr => ?_,
    fun s e he w hw => ?_⟩
  · obtain rfl := hfresh s e he
    exact Bool.noConfusion hsignaled
  · obtain rfl := hfresh s e he
    exact absurd hr List.not_mem_nil
  · obtain rfl := hfresh s e he
    exact absurd hw List.not_mem_nil

/-- Memory 7 is written, and the semaphore is given 1. -/
def writing : Submit := { commandBuffers := [copyOut], signals := [⟨6, some 1⟩] }

def reading : Submit := { waits := [{ semaphore := 6, value := some 1 }] }

/-- The submits of two queues overlap, and so do a third one and a wait for the timeline. -/
def undisturbed : List OverlapAction :=
  [.plan 2 [writing] (some 9), .plan 3 [{}] none, .commit 3, .commit 2,
   .copyTimeline 6 1, .plan 1 [reading] none, .commit 1, .clear 0]

theorem run_sequential_undisturbed : ∃ s, RunWhere (step copyTables) Undisturbed (start oneTimeline) undisturbed s ∧
    s.finished.length = 4 ∧ 7 ∈ s.md.queueWrites 1 ∧ s.Sequential copyTables oneTimeline := by
  have hsome : (runList (checked (step copyTables) Undisturbed) (start oneTimeline) undisturbed).any
      (fun s => s.finished.length = 4 ∧ 7 ∈ s.md.queueWrites 1) = true := by decide
  obtain ⟨s, hs, hend⟩ := (Option.any_eq_true _ _).1 hsome
  obtain ⟨hlength, hmem⟩ := of_decide_eq_true hend
  have hrun := runWhere_of_checked hs
  exact ⟨s, hrun, hlength, hmem, run_sequential serialsBelow_oneTimeline hrun⟩

/-- Queue 1 learns of memory 7 while a submit of its own waits for its reply. -/
def overtaken : List OverlapAction :=
  [.plan 1 [reading] none, .commit 1, .plan 1 [{}] none, .plan 2 [writing] none, .commit 2, .commit 1]

/-- The signal is committed while the submit that waits for it waits for its reply. -/
def missed : List OverlapAction :=
  [.plan 1 [reading] none, .plan 2 [writing] none, .commit 2, .commit 1]

/-- The memory that the release gave to the queue is gone in the first run, though it is there whatever the order
of the three submits; in the second a wait stays that nothing is left to release. -/
theorem not_always_sequential :
    (∃ s, Run (step copyTables) (start oneTimeline) overtaken s ∧ 7 ∉ s.md.queueWrites 1 ∧
      (∀ order : List Call, order.Perm s.finished →
        7 ∈ (order.foldl (Call.perform copyTables) oneTimeline).queueWrites 1) ∧
      ¬ s.Sequential copyTables oneTimeline) ∧
    ∃ s, Run (step copyTables) (start oneTimeline) missed s ∧ (6, 1) ∈ s.given ∧
      (s.md.shape 6).pending.map PendingSemaphoreWait.value = [1] ∧ ¬ s.Sequential copyTables oneTimeline := by
  constructor
  · have hsome : (runList (step copyTables) (start oneTimeline) overtaken).any (fun s =>
        7 ∉ s.md.queueWrites 1 ∧ ∀ order ∈ s.finished.permutations',
          7 ∈ (order.foldl (Call.perform copyTables) oneTimeline).queueWrites 1) = true := by decide
    obtain ⟨s, hs, hend⟩ := (Option.any_eq_true _ _).1 hsome
    obtain ⟨hlost, horders⟩ := of_decide_eq_true hend
    have hthere : ∀ order : List Call, order.Perm s.finished →
        7 ∈ (order.foldl (Call.perform copyTables) oneTimeline).queueWrites 1 := fun order horder =>
      horders order (List.mem_permutations'.2 horder)
    refine ⟨s, run_of_runList hs, hlost, hthere, fun hsequential => ?_⟩
    obtain ⟨order, horder, L, -, hcontains⟩ := hsequential.ordered
    exact hlost (hcontains.queueWrites 1 (hthere order horder))
  · have hsome : (runList (step copyTables) (start oneTimeline) missed).any (fun s =>
        (6, 1) ∈ s.given ∧ (s.md.shape 6).timeline = true ∧
          (s.md.shape 6).pending.map PendingSemaphoreWait.value = [1]) = true := by decide
    obtain ⟨s, hs, hend⟩ := (Option.any_eq_true _ _).1 hsome
    obtain ⟨hgiven, htimeline, hpending⟩ := of_decide_eq_true hend
    refine ⟨s, run_of_runList hs, hgiven, hpending, fun hsequential => ?_⟩
    obtain ⟨w, hw, hvalue⟩ := List.mem_map.1 (hpending ▸ List.mem_singleton_self 1)
    have hlt := hsequential.released _ hgiven htimeline w hw (hvalue ▸ one_ne_zero)
    rw [hvalue] at hlt
    exact absurd hlt (lt_irrefl 1)

end Overlap

end VkRemote.Client
