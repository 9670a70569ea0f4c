import VulkanRemote.Client.Binding

/-! What a submit or a sparse binding does to the record of one semaphore, writes apart: whether it is
recorded as signaled, which timeline values it was given, and which waits on it stay pending. -/

namespace VkRemote.Client

open Lib

/-- What is done to a semaphore, on a queue, by the presentation engine or by the host. -/
inductive SemaphoreEvent
  | wait (value : Option ℕ)
  | signal (value : Option ℕ)
  | acquire
  | hostSignal (value : ℕ)
  deriving DecidableEq

/-- Events in submission order. -/
abbrev SemaphoreLog := List (SemaphoreId × SemaphoreEvent)

def Submit.waitEvents (b : Submit) : SemaphoreLog := b.waits.map fun w => (w.semaphore, .wait w.value)

def Submit.signalEvents (b : Submit) : SemaphoreLog :=
  b.signals.map fun g => (g.semaphore, .signal g.value)

def Submit.events (b : Submit) : SemaphoreLog := b.waitEvents ++ b.signalEvents

namespace SemaphoreLog

def last (es : SemaphoreLog) (s : SemaphoreId) : Option SemaphoreEvent :=
  (es.reverse.find? fun e => e.1 = s).map Prod.snd

theorem last_concat_self (es : SemaphoreLog) (s : SemaphoreId) (ev : SemaphoreEvent) :
    last (es ++ [(s, ev)]) s = some ev := by simp [last]

theorem last_concat_of_ne (es : SemaphoreLog) {s s' : SemaphoreId} (ev : SemaphoreEvent)
    (hs : s' ≠ s) : last (es ++ [(s', ev)]) s = last es s := by simp [last, hs]

theorem last_append (es es' : SemaphoreLog) (s : SemaphoreId) :
    last (es ++ es') s = (last es' s).or (last es s) := by
  simp only [last, List.reverse_append, List.find?_append]
  cases es'.reverse.find? fun e => e.1 = s <;> rfl

theorem mem_of_last {es : SemaphoreLog} {s : SemaphoreId} {ev : SemaphoreEvent}
    (h : last es s = some ev) : (s, ev) ∈ es := by
  obtain ⟨e, he, rfl⟩ := Option.map_eq_some_iff.1 h
  have hs : e.1 = s := by simpa using List.find?_some he
  rw [← hs]
  exact List.mem_reverse.1 (List.mem_of_find?_eq_some he)

theorem last_none_iff {es : SemaphoreLog} {s : SemaphoreId} :
    last es s = none ↔ ∀ ev, (s, ev) ∉ es := by
  constructor
  · intro h ev hev
    rw [last, Option.map_eq_none_iff, List.find?_eq_none] at h
    simpa using h _ (List.mem_reverse.2 hev)
  · intro h
    rw [last, Option.map_eq_none_iff, List.find?_eq_none]
    rintro ⟨s', ev⟩ he hs
    obtain rfl : s' = s := by simpa using hs
    exact h ev (List.mem_reverse.1 he)

def Waits (es : SemaphoreLog) (s : SemaphoreId) : Prop := ∃ v, (s, .wait v) ∈ es

def Signals (es : SemaphoreLog) (s : SemaphoreId) : Prop := ∃ v, (s, .signal v) ∈ es

end SemaphoreLog

namespace SemaphoreEvent

def isSignal : SemaphoreEvent → Bool
  | signal _ => true
  | _ => false

end SemaphoreEvent

namespace Metadata

variable {md md' md₁ : Metadata} {q : QueueId} {n : ℕ} {s : SemaphoreId} {es : SemaphoreLog}

def signaled (md : Metadata) (s : SemaphoreId) : Bool := ((md.semaphores s).getD {}).binarySignaled

/-- No signal the record knows of, and no value acquired, reaches `v`. -/
def Unreached (md : Metadata) (s : SemaphoreId) (v : ℕ) : Prop :=
  (md.shape s).acquiredValue < v ∧ ∀ u ∈ (md.shape s).values, u < v

/-- From `md` to `md'` the events `es` are settled, as far as the semaphore `s` goes. -/
structure Settled (md md' : Metadata) (es : SemaphoreLog) (s : SemaphoreId) : Prop where
  timeline : (md'.shape s).timeline = (md.shape s).timeline
  acquiredValue : (md'.shape s).acquiredValue = (md.shape s).acquiredValue
  known : (md.semaphores s).isSome → (md'.semaphores s).isSome
  values : (md.shape s).timeline = true → ∀ v,
    v ∈ (md'.shape s).values ↔ v ∈ (md.shape s).values ∨ (s, .signal (some v)) ∈ es
  outstanding : (md.shape s).timeline = true → ∀ v, (∃ p ∈ (md'.shape s).pending, p.value = v) ↔
    ((∃ p ∈ (md.shape s).pending, p.value = v) ∨ ((s, .wait (some v)) ∈ es ∧ md.Unreached s v)) ∧
      ∀ u, (s, .signal (some u)) ∈ es → u < v
  unmatched : (md.shape s).timeline = false → (md.shape s).pending = [] →
    ((md'.shape s).pending ≠ [] ↔ es.Waits s ∧ ¬ es.Signals s ∧ md.signaled s = false)

/-- The events of a batch: of known semaphores, and with a value where they are timelines. -/
structure Named (md : Metadata) (es : SemaphoreLog) : Prop where
  known : ∀ s ev, (s, ev) ∈ es → (md.semaphores s).isSome
  valued : ∀ s, (md.shape s).timeline = true → (s, .wait none) ∉ es ∧ (s, .signal none) ∉ es
  queued : ∀ s ev, (s, ev) ∈ es → ∃ v, ev = .wait v ∨ ev = .signal v

theorem signaled_update (md : Metadata) (s' : SemaphoreId)
    (f : SemaphoreProvenance → SemaphoreProvenance) (s : SemaphoreId) :
    (md.update s' f).signaled s =
      if s = s' then (f ((md.semaphores s').getD {})).binarySignaled else md.signaled s := by
  unfold signaled
  split
  · next hs => simp [hs]
  · next hs => rw [update_of_ne _ _ hs]

theorem signaled_update_same {f : SemaphoreProvenance → SemaphoreProvenance}
    (hf : ∀ e, (f e).binarySignaled = e.binarySignaled) (md : Metadata) (s' s : SemaphoreId) :
    (md.update s' f).signaled s = md.signaled s := by
  rw [signaled_update]
  split
  · next hs => rw [hf, hs]; rfl
  · rfl

theorem signaled_propagateQueueWrites (md : Metadata) (q : QueueId) (after : ℕ) (ws : Writes)
    (s : SemaphoreId) : (md.propagateQueueWrites q after ws).signaled s = md.signaled s := by
  simp only [signaled, propagateQueueWrites]
  cases md.semaphores s <;> rfl

theorem signaled_releases (waits : List PendingSemaphoreWait) (ws : Writes) (md : Metadata)
    (s : SemaphoreId) : (waits.foldl (fun md w => md.release ws w) md).signaled s = md.signaled s := by
  have hdown : ∀ (w : PendingSemaphoreWait) (ids : List SemaphoreId) (md : Metadata),
      (ids.foldl (fun md id => md.update id
        (SemaphoreProvenance.propagateDownstream w ws)) md).signaled s = md.signaled s := by
    intro w ids
    induction ids with
    | nil => exact fun _ => rfl
    | cons id ids ih =>
      intro md
      rw [List.foldl_cons, ih]
      refine signaled_update_same (fun e => ?_) md id s
      unfold SemaphoreProvenance.propagateDownstream
      split
      · rfl
      · split <;> rfl
  induction waits generalizing md with
  | nil => rfl
  | cons w waits ih =>
    rw [List.foldl_cons, ih, release, hdown, signaled_propagateQueueWrites]

theorem signaled_commitSignal (md : Metadata) (q : QueueId) (p : PlannedSignal) (s : SemaphoreId) :
    (md.commitSignal q p).signaled s =
      if s = p.semaphoreId ∧ p.timeline = false then true else md.signaled s := by
  rw [commitSignal_eq, signaled_update_same (f := SemaphoreProvenance.dropReleased p) fun _ => rfl,
    signaled_releases, signaled_update]
  by_cases hs : s = p.semaphoreId
  · cases ht : p.timeline <;> simp [SemaphoreProvenance.signal, hs, ht, signaled]
  · simp [hs]

theorem signaled_signals (q : QueueId) (ps : List PlannedSignal) (md : Metadata) (s : SemaphoreId) :
    (ps.foldl (commitSignal q) md).signaled s = true ↔
      (∃ p ∈ ps, p.semaphoreId = s ∧ p.timeline = false) ∨ md.signaled s = true := by
  induction ps generalizing md with
  | nil => simp
  | cons p ps ih =>
    rw [List.foldl_cons, ih, signaled_commitSignal]
    by_cases hp : s = p.semaphoreId ∧ p.timeline = false
    · simp [hp]
    · have hp' : ¬ (p.semaphoreId = s ∧ p.timeline = false) := fun h => hp ⟨h.1.symm, h.2⟩
      simp [hp, hp']

theorem signaled_consumes (consumed : List SemaphoreId) (md : Metadata) (s : SemaphoreId) :
    (consumed.foldl (fun md id => md.update id SemaphoreProvenance.consume) md).signaled s = true ↔
      s ∉ consumed ∧ md.signaled s = true := by
  induction consumed generalizing md with
  | nil => simp
  | cons id consumed ih =>
    rw [List.foldl_cons, ih, signaled_update]
    by_cases hs : s = id
    · simp [hs, SemaphoreProvenance.consume]
    · simp [hs]

theorem signaled_addWaits (waits : List PlannedWait) (md : Metadata) (s : SemaphoreId) :
    (waits.foldl (fun md w => md.update w.semaphoreId (SemaphoreProvenance.addWait w.wait))
      md).signaled s = md.signaled s := by
  induction waits generalizing md with
  | nil => rfl
  | cons w waits ih =>
    rw [List.foldl_cons, ih]
    exact signaled_update_same (f := SemaphoreProvenance.addWait w.wait) (fun _ => rfl) md _ s

theorem signaled_setFence (md : Metadata) (fence : Option FenceId) (ws : PendingCoherentWrites)
    (s : SemaphoreId) : (md.setFence fence ws).signaled s = md.signaled s := by
  cases fence <;> rfl

theorem signaled_commit (md : Metadata) (q : QueueId) (p : Plan) (last : ℕ) (fence : Option FenceId)
    (s : SemaphoreId) : (md.commit q p last fence).signaled s = true ↔
      (∃ g ∈ p.plannedSignals, g.semaphoreId = s ∧ g.timeline = false) ∨
        s ∉ p.consumedBinary ∧ md.signaled s = true := by
  rw [commit_eq, signaled_setFence, commitQueue, signaled_signals, signaled_consumes,
    signaled_addWaits]
  rfl

theorem shape_of_some {e : SemaphoreProvenance} (he : md.semaphores s = some e) :
    md.shape s = e.shape := by
  rw [shape, he]
  rfl

theorem unresolved_iff {e : SemaphoreProvenance} (he : md.semaphores s = some e)
    (ht : e.timeline = true) (v : ℕ) : (e.waitFor (some v)).2 = false ↔ md.Unreached s v := by
  rw [Unreached, shape_of_some he]
  simp only [SemaphoreProvenance.waitFor, ht, SemaphoreProvenance.shape]
  split
  · next hle => simp [Nat.not_lt.2 hle]
  · next hlt =>
    have hlt : e.acquiredTimelineValue < v := by omega
    split
    · next r hr =>
      have hmem := List.mem_of_find?_eq_some hr
      have hreach : v ≤ r.value := by simpa using List.find?_some hr
      simp only [Bool.true_eq_false, false_iff, not_and, not_forall]
      exact fun _ => ⟨r.value, List.mem_map_of_mem hmem, by omega⟩
    · next hnone =>
      simp only [true_iff]
      refine ⟨hlt, fun u hu => ?_⟩
      obtain ⟨r, hr, rfl⟩ := List.mem_map.1 hu
      simpa using List.find?_eq_none.1 hnone r hr

theorem wait_mem_batches {bs : List Submit} {v : Option ℕ} :
    (s, SemaphoreEvent.wait v) ∈ bs.flatMap Submit.events ↔
      ∃ b ∈ bs, ∃ w ∈ b.waits, w.semaphore = s ∧ w.value = v := by
  simp [Submit.events, Submit.waitEvents, Submit.signalEvents]

theorem signal_mem_batches {bs : List Submit} {v : Option ℕ} :
    (s, SemaphoreEvent.signal v) ∈ bs.flatMap Submit.events ↔
      ∃ b ∈ bs, ∃ g ∈ b.signals, g.semaphore = s ∧ g.value = v := by
  simp [Submit.events, Submit.waitEvents, Submit.signalEvents]

/-- The planned signals are the signals of the call. -/
theorem plan_signals (t : ResourceTables) (md : Metadata) (q : QueueId) (bs : List Submit) :
    (∀ p ∈ (md.plan t q bs).plannedSignals, ∃ v,
      (p.semaphoreId, SemaphoreEvent.signal v) ∈ bs.flatMap Submit.events ∧
      p.timeline = (md.shape p.semaphoreId).timeline ∧ (p.timeline = true → p.value = v.getD 0)) ∧
    ∀ s v, (s, SemaphoreEvent.signal v) ∈ bs.flatMap Submit.events →
      ∃ p ∈ (md.plan t q bs).plannedSignals, p.semaphoreId = s ∧
        p.timeline = (md.shape s).timeline ∧ (p.timeline = true → p.value = v.getD 0) := by
  have hps := (planned_plan t md q bs).signals
  refine ⟨fun p hp => ?_, fun s v hv => ?_⟩
  · obtain ⟨⟨i, g⟩, he, hfor⟩ := mem_forall₂ hps hp
    obtain ⟨b, hb, hg⟩ := mem_tagged.1 he
    refine ⟨g.value, signal_mem_batches.2 ⟨b, List.mem_of_getElem? hb, g, hg, hfor.semaphoreId.symm,
      rfl⟩, ?_, hfor.value⟩
    rw [hfor.timeline, hfor.semaphoreId]
    exact isTimeline_eq md g.semaphore
  · obtain ⟨b, hb, g, hg, rfl, rfl⟩ := signal_mem_batches.1 hv
    obtain ⟨i, hi⟩ := List.mem_iff_getElem?.1 hb
    obtain ⟨p, hp, hfor⟩ := mem_forall₂ hps.flip (mem_tagged.2 ⟨b, hi, hg⟩)
    exact ⟨p, hp, hfor.semaphoreId, hfor.timeline.trans (isTimeline_eq md g.semaphore), hfor.value⟩

theorem plan_waits {t : ResourceTables} {bs : List Submit} {x : PlannedWait}
    (hx : x ∈ (md.plan t q bs).plannedWaits) : ∃ b ∈ bs, ∃ w ∈ b.waits, ∃ e,
      md.semaphores w.semaphore = some e ∧ (e.waitFor w.value).2 = false ∧
        x.semaphoreId = w.semaphore ∧ x.wait.value = e.pendingValue w :=
  (mem_planBatches_waits hx).resolve_left fun h => by cases h

section Submit

variable {t : ResourceTables} {bs : List Submit} {fence : Option FenceId}

theorem queueSubmit_shape (s : SemaphoreId) :
    (md.queueSubmit t q bs fence).shape s =
      ((md.takeSerials bs).commitQueue q (md.plan t q bs)).shape s := by
  rw [queueSubmit, commit_eq]
  cases fence <;> rfl

/-- A signal of the call releases a wait on its semaphore, a timeline one if it reaches the value. -/
theorem releaser_plan (hn : md.Named (bs.flatMap Submit.events)) {w : PendingSemaphoreWait} :
    releaser (md.plan t q bs).plannedSignals s w = none ↔
      if (md.shape s).timeline then
        ∀ u, (s, SemaphoreEvent.signal (some u)) ∈ bs.flatMap Submit.events → u < w.value
      else ¬ SemaphoreLog.Signals (bs.flatMap Submit.events) s := by
  obtain ⟨hfrom, hto⟩ := plan_signals t md q bs
  have hnone : releaser (md.plan t q bs).plannedSignals s w = none ↔
      ∀ p ∈ (md.plan t q bs).plannedSignals, p.semaphoreId = s →
        SemaphoreProvenance.outlasts p w = true := by
    simp [releaser, List.find?_eq_none]
  rw [hnone]
  split
  · next ht =>
    constructor
    · intro hall u hu
      obtain ⟨p, hp, hs, hpt, hval⟩ := hto s _ hu
      have hpt' : p.timeline = true := hpt.trans ht
      have hout := hall p hp hs
      have hpv : p.value = u := hval hpt'
      rw [SemaphoreProvenance.outlasts, hpt', hpv] at hout
      simpa using hout
    · rintro hall p hp rfl
      obtain ⟨v, hv, hpt, hval⟩ := hfrom p hp
      have hpt' : p.timeline = true := hpt.trans ht
      cases v with
      | none => exact absurd hv (hn.valued _ ht).2
      | some u =>
        have hpv : p.value = u := hval hpt'
        simp [SemaphoreProvenance.outlasts, hpt', hpv, hall u hv]
  · next ht =>
    constructor
    · rintro hall ⟨v, hv⟩
      obtain ⟨p, hp, hs, hpt, -⟩ := hto s v hv
      have hout := hall p hp hs
      have hpt' : p.timeline = false := hpt.trans (by simpa using ht)
      rw [SemaphoreProvenance.outlasts, hpt'] at hout
      cases hout
    · rintro hno p hp rfl
      obtain ⟨v, hv, -⟩ := hfrom p hp
      exact absurd ⟨v, hv⟩ hno

theorem signaled_queueSubmit (hb : (md.shape s).timeline = false)
    (hn : md.Named (bs.flatMap Submit.events)) :
    (md.queueSubmit t q bs fence).signaled s = true ↔
      SemaphoreLog.Signals (bs.flatMap Submit.events) s ∨
        ¬ SemaphoreLog.Waits (bs.flatMap Submit.events) s ∧ md.signaled s = true := by
  obtain ⟨hfrom, hto⟩ := plan_signals t md q bs
  rw [queueSubmit, signaled_commit]
  refine or_congr ⟨?_, ?_⟩ (and_congr ⟨?_, ?_⟩ Iff.rfl)
  · rintro ⟨p, hp, rfl, -⟩
    obtain ⟨v, hv, -⟩ := hfrom p hp
    exact ⟨v, hv⟩
  · rintro ⟨v, hv⟩
    obtain ⟨p, hp, hs, hpt, -⟩ := hto s v hv
    exact ⟨p, hp, hs, hpt.trans hb⟩
  · rintro hnot ⟨v, hv⟩
    obtain ⟨b, hbs, w, hw, rfl, -⟩ := wait_mem_batches.1 hv
    obtain ⟨e, he⟩ := Option.isSome_iff_exists.1 (hn.known _ _ hv)
    rw [shape_of_some he] at hb
    exact hnot (mem_planBatches_consumed hbs hw he hb _ _)
  · intro hnot hs
    obtain ⟨b, hbs, w, hw, rfl⟩ := (planned_plan t md q bs).consumed s hs
    exact hnot ⟨w.value, wait_mem_batches.2 ⟨b, hbs, w, hw, rfl, rfl⟩⟩

theorem settled_queueSubmit (hn : md.Named (bs.flatMap Submit.events)) (s : SemaphoreId) :
    Settled md (md.queueSubmit t q bs fence) (bs.flatMap Submit.events) s := by
  have hc := committed_commitQueue (md.takeSerials bs) q (md.plan t q bs)
  obtain ⟨hfrom, hto⟩ := plan_signals t md q bs
  have hplan := planned_plan t md q bs
  refine ⟨?_, ?_, fun hs => ?_, fun ht v => ?_, fun ht v => ?_, fun hb hempty => ?_⟩
  · rw [queueSubmit_shape, hc.timeline]
    rfl
  · rw [queueSubmit_shape, hc.acquiredValue]
    rfl
  · have hknown := hc.known s hs
    rw [queueSubmit, commit_eq]
    cases fence <;> exact hknown
  · rw [queueSubmit_shape, hc.values, List.mem_append]
    refine or_congr Iff.rfl ⟨fun hv => ?_, fun hv => ?_⟩
    · obtain ⟨p, hp, rfl⟩ := List.mem_map.1 hv
      obtain ⟨hps, hsel⟩ := List.mem_filter.1 hp
      obtain ⟨rfl, hpt⟩ : p.semaphoreId = s ∧ p.timeline = true := by simpa using hsel
      obtain ⟨v, hv, -, hval⟩ := hfrom p hps
      cases v with
      | none => exact absurd hv (hn.valued _ ht).2
      | some u =>
        rw [hval hpt]
        exact hv
    · obtain ⟨p, hp, rfl, hpt, hval⟩ := hto s _ hv
      have hpt' := hpt.trans ht
      exact List.mem_map.2 ⟨p, List.mem_filter.2 ⟨hp, by simp [hpt']⟩, hval hpt'⟩
  · have hmem : ∀ p, p ∈ ((md.queueSubmit t q bs fence).shape s).pending ↔
        (p ∈ (md.shape s).pending ∨ ⟨s, p⟩ ∈ (md.plan t q bs).plannedWaits) ∧
          ∀ u, (s, SemaphoreEvent.signal (some u)) ∈ bs.flatMap Submit.events → u < p.value := by
      intro p
      rw [queueSubmit_shape, hc.pending, releaser_plan hn, if_pos ht]
      rfl
    constructor
    · rintro ⟨p, hp, rfl⟩
      obtain ⟨hold | hnew, hout⟩ := (hmem p).1 hp
      · exact ⟨.inl ⟨p, hold, rfl⟩, hout⟩
      · obtain ⟨b, hbs, w, hw, e, he, hres, hs, hval⟩ := plan_waits hnew
        dsimp only at hs hval
        subst hs
        have hte : e.timeline = true := by
          rw [shape_of_some he] at ht
          exact ht
        have hev := wait_mem_batches.2 ⟨b, hbs, w, hw, rfl, rfl⟩
        obtain ⟨v, hv⟩ : ∃ v, w.value = some v := by
          refine Option.ne_none_iff_exists'.1 fun hnone => ?_
          rw [hnone] at hev
          exact (hn.valued _ ht).1 hev
        have hpv : p.value = v := by
          rw [hval, SemaphoreProvenance.pendingValue, if_pos hte, hv]
          rfl
        rw [hv] at hev hres
        exact ⟨.inr ⟨hpv ▸ hev, hpv ▸ (unresolved_iff he hte v).1 hres⟩, hout⟩
    · rintro ⟨⟨p, hp, rfl⟩ | ⟨hev, hun⟩, hout⟩
      · exact ⟨p, (hmem p).2 ⟨.inl hp, hout⟩, rfl⟩
      · obtain ⟨b, hbs, w, hw, rfl, hv⟩ := wait_mem_batches.1 hev
        obtain ⟨e, he⟩ := Option.isSome_iff_exists.1 (hn.known _ _ hev)
        have hte : e.timeline = true := by
          rw [shape_of_some he] at ht
          exact ht
        obtain ⟨i, hi⟩ := List.mem_iff_getElem?.1 hbs
        obtain ⟨down, hdown⟩ := hplan.unresolved i b w e hi hw he
          (by rw [hv]; exact (unresolved_iff he hte v).2 hun)
        have hpv : e.pendingValue w = v := by
          rw [SemaphoreProvenance.pendingValue, if_pos hte, hv]
          rfl
        exact ⟨_, (hmem _).2 ⟨.inr hdown, hpv.symm ▸ hout⟩, hpv⟩
  · have hmem : ∀ p, p ∈ ((md.queueSubmit t q bs fence).shape s).pending ↔
        ⟨s, p⟩ ∈ (md.plan t q bs).plannedWaits ∧
          ¬ SemaphoreLog.Signals (bs.flatMap Submit.events) s := by
      intro p
      have hold : ((md.takeSerials bs).shape s).pending = [] := hempty
      rw [queueSubmit_shape, hc.pending, releaser_plan hn, hold, if_neg (by simp [hb])]
      simp
    rw [ne_eq, List.eq_nil_iff_forall_not_mem, not_forall]
    constructor
    · rintro ⟨p, hp⟩
      obtain ⟨hnew, hno⟩ := (hmem p).1 (not_not.1 hp)
      obtain ⟨b, hbs, w, hw, e, he, hres, hs, -⟩ := plan_waits hnew
      dsimp only at hs
      subst hs
      have hte : e.timeline = false := by
        rw [shape_of_some he] at hb
        exact hb
      refine ⟨⟨w.value, wait_mem_batches.2 ⟨b, hbs, w, hw, rfl, rfl⟩⟩, hno, ?_⟩
      rw [signaled, he]
      simpa [SemaphoreProvenance.waitFor, hte] using hres
    · rintro ⟨⟨v, hv⟩, hno, hsig⟩
      obtain ⟨b, hbs, w, hw, rfl, -⟩ := wait_mem_batches.1 hv
      obtain ⟨e, he⟩ := Option.isSome_iff_exists.1 (hn.known _ _ hv)
      have hte : e.timeline = false := by
        rw [shape_of_some he] at hb
        exact hb
      obtain ⟨i, hi⟩ := List.mem_iff_getElem?.1 hbs
      rw [signaled, he] at hsig
      obtain ⟨down, hdown⟩ := hplan.unresolved i b w e hi hw he
        (by simpa [SemaphoreProvenance.waitFor, hte] using hsig)
      exact ⟨_, not_not.2 ((hmem _).2 ⟨hdown, hno⟩)⟩

end Submit

/-- Settled event by event: what is recorded is what the last event left. -/
structure InPlace (md md' : Metadata) (es : SemaphoreLog) (s : SemaphoreId) : Prop
    extends Settled md md' es s where
  signaled : (md.shape s).timeline = false → (md'.signaled s = true ↔
    (∃ v, es.last s = some (.signal v)) ∨ es.last s = none ∧ md.signaled s = true)

theorem InPlace.refl (md : Metadata) (s : SemaphoreId) : InPlace md md [] s where
  timeline := rfl
  acquiredValue := rfl
  known := id
  values _ v := by simp
  outstanding _ v := by simp
  unmatched _ hempty := by simp [hempty, SemaphoreLog.Waits]
  signaled _ := by simp [SemaphoreLog.last]

/-- An event of another semaphore. -/
theorem InPlace.frame (h : InPlace md md₁ es s) (hshape : md'.shape s = md₁.shape s)
    (hsignaled : md'.signaled s = md₁.signaled s)
    (hknown : (md₁.semaphores s).isSome → (md'.semaphores s).isSome) {s' : SemaphoreId}
    (hs : s' ≠ s) (ev : SemaphoreEvent) : InPlace md md' (es ++ [(s', ev)]) s := by
  have hmem : ∀ ev', (s, ev') ∈ es ++ [(s', ev)] ↔ (s, ev') ∈ es := by
    intro ev'
    have hne : s ≠ s' := fun heq => hs heq.symm
    simp [hne]
  refine ⟨⟨hshape ▸ h.timeline, hshape ▸ h.acquiredValue, fun hk => hknown (h.known hk),
    fun ht v => ?_, fun ht v => ?_, fun hb hempty => ?_⟩, fun hb => ?_⟩
  · rw [hshape, h.values ht, hmem]
  · simp only [hshape, h.outstanding ht, hmem]
  · rw [hshape, h.unmatched hb hempty]
    simp only [SemaphoreLog.Waits, SemaphoreLog.Signals, hmem]
  · rw [hsignaled, h.signaled hb, SemaphoreLog.last_concat_of_ne _ _ hs]

theorem bindWait_self (q : QueueId) (serial : ℕ) (downstream : List SemaphoreId) {w : SemaphoreWait}
    {e : SemaphoreProvenance} (he : md.semaphores w.semaphore = some e) :
    ∃ e', (md.bindWait q serial downstream w).semaphores w.semaphore = some e' ∧
      e'.shape = { e.shape with
        pending := if (bindLearns e w).2 then e.pendingWaits
          else e.pendingWaits ++ [⟨e.pendingValue w, q, serial, downstream⟩] } ∧
      (e.timeline = false → e'.binarySignaled = false) := by
  have hsem : ((if (!e.timeline && e.binarySignaled) = true then
      (md.setQueueWrites q (md.queueWrites q ∪ (bindLearns e w).1)).update w.semaphore take
      else md.setQueueWrites q (md.queueWrites q ∪ (bindLearns e w).1)).semaphores w.semaphore) =
      some (if (!e.timeline && e.binarySignaled) = true then take e else e) := by
    split
    · rw [update_self]
      simp [setQueueWrites, he]
    · exact he
  have hshape : (if (!e.timeline && e.binarySignaled) = true then take e else e).shape = e.shape := by
    split <;> rfl
  have hoff : e.timeline = false →
      (if (!e.timeline && e.binarySignaled) = true then take e else e).binarySignaled = false := by
    intro ht
    cases hsig : e.binarySignaled <;> simp [ht, hsig, take]
  rw [bindWait_some he]
  dsimp only
  split
  · exact ⟨_, hsem, hshape, hoff⟩
  · refine ⟨_, update_self _ _ _, ?_, fun ht => ?_⟩ <;> rw [hsem, Option.getD_some]
    · generalize (if (!e.timeline && e.binarySignaled) = true then take e else e) = e' at hshape
      simp only [SemaphoreProvenance.shape, Shape.mk.injEq] at hshape
      obtain ⟨h1, h2, h3, h4⟩ := hshape
      simp only [SemaphoreProvenance.shape, SemaphoreProvenance.addWait, h1, h2, h3, h4]
    · exact hoff ht

/-- A wait for a binary semaphore that was waited for before in the call follows a signal of it. -/
def Alternates (md : Metadata) (es : SemaphoreLog) : Prop :=
  ∀ pre s v post, es = pre ++ (s, .wait v) :: post → (md.shape s).timeline = false →
    SemaphoreLog.Waits pre s → ∃ u, SemaphoreLog.last pre s = some (.signal u)

theorem bindWait_other {w : SemaphoreWait} (q : QueueId) (serial : ℕ) (downstream : List SemaphoreId)
    (hs : w.semaphore ≠ s) : (md.bindWait q serial downstream w).semaphores s = md.semaphores s := by
  cases he : md.semaphores w.semaphore with
  | none => simp only [bindWait, he]
  | some e => exact bindWait_of_ne he fun heq => hs heq.symm

/-- A timeline wait joins the pending ones unless it learns what it waits for. -/
theorem InPlace.wait_outstanding {w : SemaphoreWait} {e : SemaphoreProvenance}
    (h : InPlace md md₁ es w.semaphore) (serial : ℕ) (downstream : List SemaphoreId)
    (he : md₁.semaphores w.semaphore = some e) (hte : e.timeline = true)
    (ht : (md.shape w.semaphore).timeline = true) (hvalued : w.value ≠ none) (v : ℕ) :
    (∃ p ∈ ((md₁.bindWait q serial downstream w).shape w.semaphore).pending, p.value = v) ↔
      ((∃ p ∈ (md.shape w.semaphore).pending, p.value = v) ∨
        ((w.semaphore, .wait (some v)) ∈ es ++ [(w.semaphore, .wait w.value)] ∧ md.Unreached w.semaphore v)) ∧
        ∀ u, (w.semaphore, .signal (some u)) ∈ es ++ [(w.semaphore, .wait w.value)] → u < v := by
  obtain ⟨v₀, hv₀⟩ := Option.ne_none_iff_exists'.1 hvalued
  have hpv : e.pendingValue w = v₀ := by
    rw [SemaphoreProvenance.pendingValue, if_pos hte, hv₀]
    rfl
  have hlearns : (bindLearns e w).2 = false ↔ md.Unreached w.semaphore v₀ ∧
      ∀ u, (w.semaphore, SemaphoreEvent.signal (some u)) ∈ es → u < v₀ := by
    have hwait : bindLearns e w = e.waitFor (some v₀) := by simp [bindLearns, hte, hv₀]
    rw [hwait, unresolved_iff he hte, Unreached, Unreached, h.acquiredValue, and_assoc]
    refine and_congr Iff.rfl ?_
    constructor
    · intro hall
      exact ⟨fun u hu => hall u ((h.values ht u).2 (.inl hu)), fun u hu => hall u ((h.values ht u).2 (.inr hu))⟩
    · rintro ⟨hold, hnew⟩ u hu
      exact ((h.values ht u).1 hu).elim (hold u) (hnew u)
  have hpending : (∃ p ∈ ((md₁.bindWait q serial downstream w).shape w.semaphore).pending,
      p.value = v) ↔ (∃ p ∈ (md₁.shape w.semaphore).pending, p.value = v) ∨
        (bindLearns e w).2 = false ∧ v₀ = v := by
    obtain ⟨e', he', hshape, -⟩ := bindWait_self q serial downstream he
    rw [shape_of_some he', hshape, shape_of_some he, ← hpv]
    cases (bindLearns e w).2 <;> simp [SemaphoreProvenance.shape, or_and_right, exists_or]
  rw [hpending, h.outstanding ht, hlearns, hv₀]
  simp only [List.mem_append, List.mem_singleton, Prod.mk.injEq, true_and, reduceCtorEq, or_false,
    SemaphoreEvent.wait.injEq, Option.some.injEq]
  constructor
  · rintro (⟨hold | ⟨hmem, hun⟩, hout⟩ | ⟨⟨hun, hout⟩, rfl⟩)
    · exact ⟨.inl hold, hout⟩
    · exact ⟨.inr ⟨.inl hmem, hun⟩, hout⟩
    · exact ⟨.inr ⟨.inr rfl, hun⟩, hout⟩
  · rintro ⟨hold | ⟨hmem | rfl, hun⟩, hout⟩
    · exact .inl ⟨.inl hold, hout⟩
    · exact .inl ⟨.inr ⟨hmem, hun⟩, hout⟩
    · exact .inr ⟨⟨hun, hout⟩, rfl⟩

/-- A binary wait is pending unless it finds the signal recorded. -/
theorem InPlace.wait_unmatched {w : SemaphoreWait} {e : SemaphoreProvenance}
    (h : InPlace md md₁ es w.semaphore) (serial : ℕ) (downstream : List SemaphoreId)
    (hn : md.Named (es ++ [(w.semaphore, .wait w.value)]))
    (ha : md.Alternates (es ++ [(w.semaphore, .wait w.value)]))
    (he : md₁.semaphores w.semaphore = some e) (hte : e.timeline = false)
    (hb : (md.shape w.semaphore).timeline = false) (hempty : (md.shape w.semaphore).pending = []) :
    ((md₁.bindWait q serial downstream w).shape w.semaphore).pending ≠ [] ↔
      SemaphoreLog.Waits (es ++ [(w.semaphore, .wait w.value)]) w.semaphore ∧
        ¬ SemaphoreLog.Signals (es ++ [(w.semaphore, .wait w.value)]) w.semaphore ∧
        md.signaled w.semaphore = false := by
  have hsig : md₁.signaled w.semaphore = e.binarySignaled := by
    rw [Metadata.signaled, he]
    rfl
  have hlearns : (bindLearns e w).2 = e.binarySignaled := by
    cases hes : e.binarySignaled <;> simp [bindLearns, hte, hes, SemaphoreProvenance.waitFor]
  have hpending : ((md₁.bindWait q serial downstream w).shape w.semaphore).pending ≠ [] ↔
      (md₁.shape w.semaphore).pending ≠ [] ∨ e.binarySignaled = false := by
    obtain ⟨e', he', hshape, -⟩ := bindWait_self q serial downstream he
    rw [shape_of_some he', hshape, shape_of_some he, hlearns]
    cases e.binarySignaled <;> simp [SemaphoreProvenance.shape]
  have hwaits : SemaphoreLog.Waits (es ++ [(w.semaphore, .wait w.value)]) w.semaphore :=
    ⟨_, List.mem_append_right _ (List.mem_singleton.2 rfl)⟩
  have hsignals : SemaphoreLog.Signals (es ++ [(w.semaphore, .wait w.value)]) w.semaphore ↔
      SemaphoreLog.Signals es w.semaphore := by simp [SemaphoreLog.Signals]
  have hon := h.signaled hb
  rw [hsig] at hon
  rw [hpending, h.unmatched hb hempty, hsignals]
  simp only [hwaits, true_and]
  cases hl : es.last w.semaphore with
  | none =>
    have hnever := SemaphoreLog.last_none_iff.1 hl
    simp only [hl, reduceCtorEq, exists_false, true_and, false_or] at hon
    have hnowait : ¬ es.Waits w.semaphore := by
      rintro ⟨v, hv⟩
      exact hnever _ hv
    have hnosignal : ¬ es.Signals w.semaphore := by
      rintro ⟨v, hv⟩
      exact hnever _ hv
    simp only [hnowait, hnosignal, false_and, false_or, not_false_eq_true, true_and]
    rw [← Bool.not_eq_true, ← Bool.not_eq_true, hon]
  | some ev =>
    have hlast : ∃ v, es.last w.semaphore = some (.signal v) := by
      obtain ⟨v, rfl | rfl⟩ := hn.queued _ _ (List.mem_append_left _ (SemaphoreLog.mem_of_last hl))
      · exact ha es w.semaphore w.value [] rfl hb ⟨v, SemaphoreLog.mem_of_last hl⟩
      · exact ⟨v, hl⟩
    obtain ⟨v, hv⟩ := hlast
    have hsignal : es.Signals w.semaphore := ⟨v, SemaphoreLog.mem_of_last hv⟩
    have hset : e.binarySignaled = true := hon.2 (.inl ⟨v, hv⟩)
    simp [hsignal, hset]

theorem InPlace.wait {w : SemaphoreWait} (h : InPlace md md₁ es s) (serial : ℕ)
    (downstream : List SemaphoreId) (hn : md.Named (es ++ [(w.semaphore, .wait w.value)]))
    (ha : md.Alternates (es ++ [(w.semaphore, .wait w.value)])) :
    InPlace md (md₁.bindWait q serial downstream w) (es ++ [(w.semaphore, .wait w.value)]) s := by
  by_cases hs : w.semaphore = s
  · subst hs
    have hlast : (w.semaphore, SemaphoreEvent.wait w.value) ∈ es ++ [(w.semaphore, .wait w.value)] :=
      List.mem_append_right _ (List.mem_singleton.2 rfl)
    obtain ⟨e, he⟩ := Option.isSome_iff_exists.1 (h.known (hn.known _ _ hlast))
    obtain ⟨e', he', hshape, hoff⟩ := bindWait_self q serial downstream he
    rw [← shape_of_some he', ← shape_of_some he] at hshape
    have htl : e.timeline = (md.shape w.semaphore).timeline := by
      rw [← h.timeline, shape_of_some he]
      rfl
    refine ⟨⟨?_, ?_, fun _ => by rw [he']; rfl, fun ht v => ?_, fun ht v => ?_, fun hb hempty => ?_⟩,
      fun hb => ?_⟩
    · rw [hshape]
      exact h.timeline
    · rw [hshape]
      exact h.acquiredValue
    · rw [hshape]
      simpa using h.values ht v
    · have hvalued : w.value ≠ none := by
        intro hnone
        rw [hnone] at hlast hn
        exact (hn.valued _ ht).1 hlast
      exact h.wait_outstanding serial downstream he (htl.trans ht) ht hvalued v
    · exact h.wait_unmatched serial downstream hn ha he (htl.trans hb) hb hempty
    · rw [SemaphoreLog.last_concat_self, Metadata.signaled, he']
      simp [hoff (htl.trans hb)]
  · have hsame : (md₁.bindWait q serial downstream w).semaphores s = md₁.semaphores s :=
      bindWait_other q serial downstream hs
    refine h.frame ?_ ?_ ?_ hs _
    · rw [shape, hsame]
      rfl
    · rw [Metadata.signaled, hsame]
      rfl
    · rw [hsame]
      exact id

theorem InPlace.signal {g : SemaphoreSignal} (h : InPlace md md₁ es s) (serial : ℕ)
    (htl : ∀ s, (md₁.shape s).timeline = (md.shape s).timeline)
    (hn : md.Named (es ++ [(g.semaphore, .signal g.value)])) :
    InPlace md (md₁.bindSignal q serial g) (es ++ [(g.semaphore, .signal g.value)]) s := by
  have hlast : (g.semaphore, SemaphoreEvent.signal g.value) ∈ es ++ [(g.semaphore, .signal g.value)] := by
    simp
  have hvalue : (md.shape g.semaphore).timeline = true → ∃ v, g.value = some v := by
    intro ht
    refine Option.ne_none_iff_exists'.1 fun hnone => ?_
    rw [hnone] at hlast hn
    exact (hn.valued _ ht).2 hlast
  have heq := bindSignal_eq md₁ q serial (g := g) fun ht => by
    rw [isTimeline_eq, htl] at ht
    exact Option.isSome_iff_exists.2 (hvalue ht)
  have hpt : (planSignal md₁ serial (md₁.queueWrites q) g).timeline = (md.shape g.semaphore).timeline :=
    (isTimeline_eq md₁ g.semaphore).trans (htl g.semaphore)
  by_cases hs : g.semaphore = s
  · subst hs
    have hwait : ∀ v, (g.semaphore, SemaphoreEvent.wait v) ∈ es ++ [(g.semaphore, .signal g.value)] ↔
        (g.semaphore, SemaphoreEvent.wait v) ∈ es := by simp
    have hshape : (md₁.bindSignal q serial g).shape g.semaphore =
        (md₁.shape g.semaphore).signal (planSignal md₁ serial (md₁.queueWrites q) g) := by
      rw [heq, shape_commitSignal]
      exact if_pos rfl
    refine ⟨⟨?_, ?_, fun hk => ?_, fun ht v => ?_, fun ht v => ?_, fun hb _ => ?_⟩, fun hb => ?_⟩
    · rw [hshape]
      exact h.timeline
    · rw [hshape]
      exact h.acquiredValue
    · rw [heq]
      exact known_commitSignal q _ (h.known hk)
    · obtain ⟨v₀, hv₀⟩ := hvalue ht
      have hpv : (planSignal md₁ serial (md₁.queueWrites q) g).value = v₀ := by
        have hp := hpt.trans ht
        rw [planSignal] at hp ⊢
        rw [if_pos hp, hv₀]
        rfl
      rw [hshape, Shape.signal, if_pos (hpt.trans ht), hpv, List.mem_append, h.values ht, hv₀]
      simp [or_assoc]
    · obtain ⟨v₀, hv₀⟩ := hvalue ht
      have hpv : (planSignal md₁ serial (md₁.queueWrites q) g).value = v₀ := by
        have hp := hpt.trans ht
        rw [planSignal] at hp ⊢
        rw [if_pos hp, hv₀]
        rfl
      have hpending : (∃ p ∈ ((md₁.bindSignal q serial g).shape g.semaphore).pending, p.value = v) ↔
          (∃ p ∈ (md₁.shape g.semaphore).pending, p.value = v) ∧ v₀ < v := by
        rw [hshape]
        simp only [Shape.signal, List.mem_filter, SemaphoreProvenance.outlasts, hpt.trans ht, hpv,
          Bool.true_and, decide_eq_true_eq]
        constructor
        · rintro ⟨p, ⟨hp, hlt⟩, rfl⟩
          exact ⟨⟨p, hp, rfl⟩, hlt⟩
        · rintro ⟨⟨p, hp, rfl⟩, hlt⟩
          exact ⟨p, ⟨hp, hlt⟩, rfl⟩
      rw [hpending, h.outstanding ht, hwait, hv₀, and_assoc]
      refine and_congr Iff.rfl ?_
      simp only [List.mem_append, List.mem_singleton, Prod.mk.injEq, true_and,
        SemaphoreEvent.signal.injEq, Option.some.injEq]
      constructor
      · rintro ⟨hall, hlt⟩ u (hu | rfl)
        · exact hall u hu
        · exact hlt
      · exact fun hall => ⟨fun u hu => hall u (.inl hu), hall v₀ (.inr rfl)⟩
    · have hnone : ((md₁.bindSignal q serial g).shape g.semaphore).pending = [] := by
        rw [hshape]
        simp [Shape.signal, SemaphoreProvenance.outlasts, hpt.trans hb]
      have hsig : SemaphoreLog.Signals (es ++ [(g.semaphore, .signal g.value)]) g.semaphore := ⟨_, hlast⟩
      simp [hnone, hsig]
    · rw [SemaphoreLog.last_concat_self, heq, signaled_commitSignal, if_pos ⟨rfl, hpt.trans hb⟩]
      simp
  · have hother : s ≠ g.semaphore := fun heq => hs heq.symm
    refine h.frame ?_ ?_ ?_ hs _ <;> rw [heq]
    · rw [shape_commitSignal]
      exact if_neg hother
    · rw [signaled_commitSignal]
      exact if_neg fun h => hother h.1
    · exact known_commitSignal q _

theorem Named.mono {es' : SemaphoreLog} (hn : md.Named es) (hle : es' ⊆ es) : md.Named es' where
  known s ev hev := hn.known s ev (hle hev)
  valued s ht := ⟨fun h => (hn.valued s ht).1 (hle h), fun h => (hn.valued s ht).2 (hle h)⟩
  queued s ev hev := hn.queued s ev (hle hev)

theorem Alternates.left {es' : SemaphoreLog} (ha : md.Alternates (es ++ es')) : md.Alternates es := by
  rintro pre s v post rfl
  exact ha pre s v (post ++ es') (by simp)

theorem inPlace_waits {serial : ℕ} {downstream : List SemaphoreId} (ws : List SemaphoreWait)
    (h : ∀ s, InPlace md md₁ es s)
    (hn : md.Named (es ++ ws.map fun w => (w.semaphore, .wait w.value)))
    (ha : md.Alternates (es ++ ws.map fun w => (w.semaphore, .wait w.value))) (s : SemaphoreId) :
    InPlace md (ws.foldl (bindWait q serial downstream) md₁)
      (es ++ ws.map fun w => (w.semaphore, .wait w.value)) s := by
  induction ws generalizing md₁ es with
  | nil => simpa using h s
  | cons w ws ih =>
    have hsplit : es ++ (w :: ws).map (fun w => (w.semaphore, SemaphoreEvent.wait w.value)) =
        (es ++ [(w.semaphore, .wait w.value)]) ++
          ws.map fun w => (w.semaphore, SemaphoreEvent.wait w.value) := by simp
    rw [hsplit] at hn ha ⊢
    exact ih (fun s => (h s).wait serial downstream (hn.mono (List.subset_append_left _ _)) ha.left)
      hn ha

theorem inPlace_signals {serial : ℕ} (gs : List SemaphoreSignal) (h : ∀ s, InPlace md md₁ es s)
    (hn : md.Named (es ++ gs.map fun g => (g.semaphore, .signal g.value))) (s : SemaphoreId) :
    InPlace md (gs.foldl (bindSignal q serial) md₁)
      (es ++ gs.map fun g => (g.semaphore, .signal g.value)) s := by
  induction gs generalizing md₁ es with
  | nil => simpa using h s
  | cons g gs ih =>
    have hsplit : es ++ (g :: gs).map (fun g => (g.semaphore, SemaphoreEvent.signal g.value)) =
        (es ++ [(g.semaphore, .signal g.value)]) ++
          gs.map fun g => (g.semaphore, SemaphoreEvent.signal g.value) := by simp
    rw [hsplit] at hn ⊢
    exact ih (fun s => (h s).signal serial (fun s => (h s).timeline)
      (hn.mono (List.subset_append_left _ _))) hn

theorem inPlace_batches {serial : ℕ} (infos : List BindInfo) (h : ∀ s, InPlace md md₁ es s)
    (hn : md.Named (es ++ infos.flatMap fun b => b.toSubmit.events))
    (ha : md.Alternates (es ++ infos.flatMap fun b => b.toSubmit.events)) (s : SemaphoreId) :
    InPlace md (infos.foldl (bindBatch q serial) md₁)
      (es ++ infos.flatMap fun b => b.toSubmit.events) s := by
  induction infos generalizing md₁ es with
  | nil => simpa using h s
  | cons b infos ih =>
    have hsplit : es ++ (b :: infos).flatMap (fun b => b.toSubmit.events) =
        ((es ++ b.toSubmit.waitEvents) ++ b.toSubmit.signalEvents) ++
          infos.flatMap fun b => b.toSubmit.events := by simp [Submit.events]
    rw [hsplit] at hn ha ⊢
    have hn' := hn.mono (List.subset_append_left _ _)
    exact ih (inPlace_signals _ (inPlace_waits _ h (hn'.mono (List.subset_append_left _ _))
      ha.left.left) hn') hn ha

theorem inPlace_queueBindSparse (infos : List BindInfo) (fence : Option FenceId)
    (hn : md.Named (infos.flatMap fun b => b.toSubmit.events))
    (ha : md.Alternates (infos.flatMap fun b => b.toSubmit.events)) (s : SemaphoreId) :
    InPlace md (md.queueBindSparse q infos fence) (infos.flatMap fun b => b.toSubmit.events) s := by
  have hstart : ∀ s, InPlace md { md with nextSubmissionSerial := md.nextSubmissionSerial + 1 } [] s :=
    fun s => { InPlace.refl md s with }
  have hall : InPlace md (infos.foldl (bindBatch q md.nextSubmissionSerial)
      { md with nextSubmissionSerial := md.nextSubmissionSerial + 1 }) ([] ++ _) s :=
    inPlace_batches infos hstart hn ha s
  rw [List.nil_append] at hall
  rw [queueBindSparse]
  cases fence <;> exact { hall with }

end Metadata
end VkRemote.Client
