import VulkanRemote.Client.Call
import VulkanRemote.Client.Commit
import VulkanRemote.Client.Planning

/-! The invariant that ties the client's sets to the history: every slot that speaks for a batch
holds each memory whose write is due by then, unless an earlier observation acquired it. This
module proves that a call which plans against the current sets and commits keeps it. -/

namespace VkRemote.Client

open Lib Metadata

namespace History

/-- `ws` has every visible write ordered before batch `n` that was not acquired yet. -/
def Behind (t : ResourceTables) (h : History) (n : ℕ) (ws : Writes) : Prop :=
  ∀ m mem, h.Visible t m mem → h.Before m n → ¬ h.acquired m mem → mem ∈ ws

/-- The completion of batch `n` is what the slot is asked about. -/
def Speaks (h : History) : Slot → ℕ → Prop
  | .queue q, n => ∃ b, h.batches[n]? = some b ∧ b.queue = q
  | .fence f, n => h.fences f = some n
  | .binary s, n => h.live s = some false ∧ h.signaled s = some n
  | .timeline s u, n => h.live s = some true ∧ ∃ b, h.batches[n]? = some b ∧ (s, u) ∈ b.signals

/-- Nothing batch `n` has to wait for is still to be submitted: only such a batch completes. -/
def Completable (h : History) (n : ℕ) : Prop :=
  ∀ r a, h.batches[r]? = some a → h.SameQueue r n → r ≤ n →
    (∀ s v, (s, v) ∈ a.waits → ∃ u, h.Signals s u ∧ v ≤ u) ∧ ∀ s, (s, r) ∉ h.waiting

/-- The semaphores a call names exist. -/
def Named (h : History) (bs : List Submit) : Prop :=
  ∀ b ∈ bs, (∀ w ∈ b.waits, (h.live w.semaphore).isSome) ∧
    ∀ g ∈ b.signals, (h.live g.semaphore).isSome

/-- Where the attribution of a call is right: `h'` is the history with the call's batches. -/
structure CallOk (md : Metadata) (h h' : History) (bs : List Submit) : Prop where
  /-- The values given to a timeline semaphore ascend within the call, … -/
  ascending : (bs.flatMap Submit.signals).Pairwise fun g g' => g.semaphore = g'.semaphore →
    h.isTimeline g.semaphore = true → g.value.getD 0 < g'.value.getD 0
  /-- … from the values it was given before. -/
  above : ∀ b ∈ bs, ∀ g ∈ b.signals, h.isTimeline g.semaphore = true →
    ∀ u, h.Signals g.semaphore u → u < g.value.getD 0
  /-- A wait on a binary semaphore nobody has signaled finds no stale record of a signal. -/
  binaryWait : ∀ s z, (s, z) ∈ h'.waiting → h.batches.length ≤ z →
    (∀ e, md.semaphores s = some e → e.binarySignaled = false) ∧
      ∀ b ∈ bs, ∀ g ∈ b.signals, g.semaphore ≠ s
  /-- A signal that releases a batch submitted before it: from there on, that batch's queue has
  signaled to no other queue yet. -/
  oneHop : ∀ k r x z, h.batches.length ≤ k → r < h.batches.length → h'.Edge k r →
    h'.SameQueue r x → r ≤ x → h'.Edge x z →
    h'.SameQueue r z ∨ (h.batches.length ≤ z ∧ k ≤ z)

end History

open History

structure MetadataInv (t : ResourceTables) (md : Metadata) (h : History) : Prop where
  serial_lt : ∀ (n : ℕ) (b : Batch), h.batches[n]? = some b → b.serial < md.nextSubmissionSerial
  serial_mono : ∀ (m n : ℕ) (a b : Batch), h.batches[m]? = some a → h.batches[n]? = some b →
    m ≤ n → a.serial ≤ b.serial
  known : ∀ s tl, h.live s = some tl → ∃ e, md.semaphores s = some e ∧ e.timeline = tl
  covers : ∀ c (n : ℕ) (b : Batch), h.Speaks c n → h.batches[n]? = some b →
    n ∈ h.observed ∨ ∃ ws, md.Carries c b.queue b.serial ws ∧ h.Behind t n ws
  observed : ∀ n ∈ h.observed, n < h.batches.length ∧ h.Completable n ∧ h.Behind t n ∅
  values : ∀ s, h.live s = some true → (md.shape s).values.Pairwise (· < ·) ∧
    ∀ u ∈ (md.shape s).values, h.Signals s u
  acquiredValue : ∀ s, h.live s = some true →
    ((md.shape s).acquiredValue = 0 ∨ h.Signals s (md.shape s).acquiredValue) ∧
    ∀ (n : ℕ) (b : Batch) (u : ℕ), h.batches[n]? = some b → (s, u) ∈ b.signals →
      u ≤ (md.shape s).acquiredValue → n ∈ h.observed
  initial : ∀ s, h.live s = some true → ∃ u₀, (s, u₀) ∈ h.hostSignals ∧
    ∀ b ∈ h.batches, ∀ u, (s, u) ∈ b.signals → u₀ < u
  pendingTimeline : ∀ s, h.live s = some true → ∀ (z : ℕ) (b : Batch) (v : ℕ),
    h.batches[z]? = some b → (s, v) ∈ b.waits → (∀ u, h.Signals s u → u < v) →
    ∃ w ∈ (md.shape s).pending, w.value = v ∧ w.queueId = b.queue ∧ w.submissionSerial = b.serial
  pendingBinary : ∀ s, h.live s = some false → ∀ (z : ℕ) (b : Batch),
    h.batches[z]? = some b → (s, z) ∈ h.waiting →
    ∃ w ∈ (md.shape s).pending, w.queueId = b.queue ∧ w.submissionSerial = b.serial
  fence_lt : ∀ f n, h.fences f = some n → n < h.batches.length
  signaled_lt : ∀ s k, h.signaled s = some k → k < h.batches.length
  waiting_lt : ∀ s z, (s, z) ∈ h.waiting → z < h.batches.length
  matched_lt : ∀ k z, (k, z) ∈ h.matched → k < h.batches.length ∧ z < h.batches.length

variable {t : ResourceTables} {md md' : Metadata} {h : History} {q : QueueId} {s₀ : ℕ}
  {bs : List Submit} {N : ℕ → Writes} {waits : List PlannedWait} {consumed : List SemaphoreId}
  {ps : List PlannedSignal} {next : Writes} {m n x y i r : ℕ} {mem : MemoryId} {s : SemaphoreId}

theorem History.Before.lt (hb : h.Before m n) : m < h.batches.length ∧ n < h.batches.length := by
  induction hb with
  | queue hs _ => exact ⟨hs.symm.lt, hs.lt⟩
  | hop _ _ hs _ ih => exact ⟨ih.1, hs.lt⟩

theorem shape_of_some {e : SemaphoreProvenance} (he : md.semaphores s = some e) :
    md.shape s = e.shape := by
  rw [Metadata.shape, he]
  rfl

/-- The record a wait takes, where the values ascend. -/
theorem firstReaching_eq {e : SemaphoreProvenance} {v : ℕ} {r₀ : TimelineSignalWrites}
    (hsorted : (e.timelineWrites.map TimelineSignalWrites.value).Pairwise (· < ·))
    (hr₀ : r₀ ∈ e.timelineWrites) (hv : v ≤ r₀.value)
    (hleast : ∀ r ∈ e.timelineWrites, v ≤ r.value → r₀.value ≤ r.value) :
    e.firstReaching v = some r₀ := by
  obtain ⟨pre, post, hl⟩ := List.append_of_mem hr₀
  refine List.find?_eq_some_iff_append.2 ⟨by simpa using hv, pre, post, hl, fun r hr => ?_⟩
  rw [hl, List.map_append, List.pairwise_append] at hsorted
  have hlt : r.value < r₀.value := hsorted.2.2 _ (List.mem_map_of_mem hr) _ (by simp)
  simp only [Bool.not_eq_true', decide_eq_false_iff_not]
  exact fun hle => absurd (hleast r (by simp [hl, hr]) hle) (by omega)

theorem mem_commandBufferWrites {b : Submit} {cb : List PrimaryCommand} {x : Target}
    (hcb : cb ∈ b.commandBuffers) (hx : x ∈ locallyExposed t cb) (hm : x.memory t = some mem) :
    mem ∈ commandBufferWrites t b := by
  have hall : ∀ (l : List (List PrimaryCommand)) (ws : Writes),
      ws ⊆ l.foldl (fun ws cb => ws ∪ (CommandBuffer.recordPrimaries t cb).submitWrites t) ws := by
    intro l
    induction l with
    | nil => exact fun ws => Finset.Subset.refl _
    | cons c l ih => exact fun ws => Finset.subset_union_left.trans (ih _)
  obtain ⟨pre, post, hl⟩ := List.append_of_mem hcb
  rw [commandBufferWrites, hl, List.foldl_append, List.foldl_cons]
  exact hall post _ (Finset.mem_union_right _ (mem_submitWrites_of_locallyExposed hx hm))

theorem History.visible_old (hm : m < h.batches.length)
    (hv : (h.addBatches q s₀ bs).Visible t m mem) : h.Visible t m mem := by
  obtain ⟨a, ha, hx⟩ := hv
  exact ⟨a, ((extends_addBatches h q s₀ bs).get_old hm).symm.trans ha, hx⟩

namespace MetadataInv

/-- What an observed batch has before it is acquired. -/
theorem not_observed (hi : MetadataInv t md h) (hv : h.Visible t m mem) (hb : h.Before m n)
    (hacq : ¬ h.acquired m mem) : n ∉ h.observed := fun ho =>
  Finset.notMem_empty _ ((hi.observed n ho).2.2 m mem hv hb hacq)

/-- What stands in a slot before the call, for a write that is not acquired. -/
theorem carried (hi : MetadataInv t md h) {c : Slot} {b : Batch} (hc : h.Speaks c n)
    (hn : h.batches[n]? = some b) (hv : h.Visible t m mem) (hb : h.Before m n)
    (hacq : ¬ h.acquired m mem) : ∃ ws, md.Carries c b.queue b.serial ws ∧ mem ∈ ws := by
  rcases hi.covers c n b hc hn with ho | ⟨ws, hws, hbeh⟩
  · exact absurd ho (hi.not_observed hv hb hacq)
  · exact ⟨ws, hws, hbeh m mem hv hb hacq⟩

/-- A wait on a binary semaphore learns what its signal, submitted earlier, had behind it. -/
theorem learned_binary (hi : MetadataInv t md h) (hp : Planned t md q (s₀ + ·) bs N waits consumed ps)
    (hnamed : h.Named bs) (hm : (x, h.batches.length + i) ∈ (h.addBatches q s₀ bs).matched)
    (hx : x < h.batches.length) (hv : h.Visible t m mem) (hb : h.Before m x)
    (hacq : ¬ h.acquired m mem) : mem ∈ N i := by
  rcases (progress_addBatches h q s₀ bs).matched _ _ hm with hold | ⟨j, _, _, _, rfl, _⟩ |
    ⟨j, s, hij, hev, hs⟩ | ⟨j, s, rfl, -, -⟩
  · have := hi.matched_lt _ _ hold
    omega
  · omega
  · obtain rfl : i = j := by omega
    obtain ⟨b, hbs, w, hw, rfl, ht⟩ := wait_mem_events hev
    obtain ⟨tl, hlive⟩ := Option.isSome_iff_exists.1
      ((hnamed b (List.mem_of_getElem? hbs)).1 w hw)
    obtain rfl : tl = false := by simpa [History.isTimeline, hlive] using ht
    obtain ⟨a, ha⟩ : ∃ a, h.batches[x]? = some a := ⟨_, List.getElem?_eq_getElem hx⟩
    obtain ⟨ws, ⟨e, he, hsig, -, -, rfl⟩, hmem⟩ :=
      hi.carried (c := .binary w.semaphore) ⟨hlive, hs⟩ ha hv hb hacq
    obtain ⟨e', he', htl⟩ := hi.known _ _ hlive
    obtain rfl := Option.some.inj (he.symm.trans he')
    refine hp.learned i b w e hbs hw he (.inr hsig) ?_
    simpa [SemaphoreProvenance.waitFor, htl] using hmem
  · omega

/-- A wait on a timeline semaphore learns what the signal that satisfies it had behind it. -/
theorem learned_timeline (hi : MetadataInv t md h) (hp : Planned t md q (s₀ + ·) bs N waits consumed ps)
    (hedge : (h.addBatches q s₀ bs).TimelineEdge x (h.batches.length + i))
    (hx : x < h.batches.length) (hv : h.Visible t m mem) (hb : h.Before m x)
    (hacq : ¬ h.acquired m mem) : mem ∈ N i := by
  have hext := extends_addBatches h q s₀ bs
  obtain ⟨a, b', s, v, u, ha, hb', hw, hg, hle, hleast⟩ := hedge
  rw [hext.get_old hx] at ha
  rw [get_addBatches] at hb'
  obtain ⟨b, hbs, rfl⟩ := Option.map_eq_some_iff.1 hb'
  obtain ⟨w, hwb, ht, rfl, rfl⟩ := mem_waits_batchOf.1 hw
  have hlive : h.live w.semaphore = some true := by simpa [History.isTimeline] using ht
  obtain ⟨e, he, htl⟩ := hi.known _ _ hlive
  have hshape := shape_of_some he
  -- the value waited for is above the initial one, so it was given
  obtain ⟨u₀, hu₀, hinit⟩ := hi.initial _ hlive
  have hpos : u₀ < w.value.getD 0 := by
    by_contra hge
    have h1 := hleast u₀ (hext.signals (.inl hu₀)) (by omega)
    have h2 := hinit a (List.mem_of_getElem? ha) u hg
    omega
  obtain ⟨v, hv'⟩ : ∃ v, w.value = some v := by
    cases hw' : w.value with
    | none => simp [hw'] at hpos
    | some v => exact ⟨v, rfl⟩
  rw [hv', Option.getD_some] at hle hleast hpos
  refine hp.learned i b w e hbs hwb he (.inl htl) ?_
  have hnot : ¬ v ≤ e.acquiredTimelineValue := by
    intro hacqv
    obtain ⟨hval, hseen⟩ := hi.acquiredValue _ hlive
    rw [hshape] at hval hseen
    rcases hval with hzero | hsig
    · have : e.acquiredTimelineValue = 0 := hzero
      omega
    · exact hi.not_observed hv hb hacq
        (hseen x a u ha hg (hleast _ (hext.signals hsig) hacqv))
  obtain ⟨ws, ⟨e', he', r₀, hr₀, hr₀u, -, -, rfl⟩, hmem⟩ :=
    hi.carried (c := .timeline w.semaphore u) ⟨hlive, a, ha, hg⟩ ha hv hb hacq
  obtain rfl := Option.some.inj (he.symm.trans he')
  obtain ⟨hsorted, hvals⟩ := hi.values _ hlive
  rw [hshape] at hsorted hvals
  have hfirst : e.firstReaching v = some r₀ := firstReaching_eq hsorted hr₀ (by omega)
    fun r hr hvr => hr₀u ▸ hleast _ (hext.signals (hvals _ (List.mem_map_of_mem hr))) hvr
  simp [SemaphoreProvenance.waitFor, htl, hv', hnot, hfirst, hmem]

/-- An earlier wait that a signal of the call releases is pending, and that signal releases it. -/
structure Released (md : Metadata) (h : History) (N : ℕ → Writes) (ps : List PlannedSignal)
    (i r : ℕ) (a : Batch) : Prop where
  pending : ∃ s w p, w ∈ (md.shape s).pending ∧ releaser ps s w = some p ∧
    w.queueId = a.queue ∧ w.submissionSerial = a.serial ∧ N i ⊆ p.memoryIds
  incomplete : ∀ y, h.SameQueue r y → r ≤ y → ¬ h.Completable y

theorem released_binary (hi : MetadataInv t md h) (hp : Planned t md q (s₀ + ·) bs N waits consumed ps)
    (hnamed : h.Named bs) {a : Batch} (ha : h.batches[r]? = some a)
    (hm : (h.batches.length + i, r) ∈ (h.addBatches q s₀ bs).matched) :
    Released md h N ps i r a := by
  have hr : r < h.batches.length := (List.getElem?_eq_some_iff.1 ha).1
  rcases (progress_addBatches h q s₀ bs).matched _ _ hm with hold | ⟨_, _, j, _, _, _, rfl, _⟩ |
    ⟨j, s, rfl, -, -⟩ | ⟨j, s, hij, hw, hev⟩
  · have := hi.matched_lt _ _ hold
    omega
  · omega
  · omega
  · obtain rfl : i = j := by omega
    obtain ⟨ht, g, hg⟩ := find_first_signal hev
    obtain ⟨b, hbs, hgb⟩ := mem_tagged.1 (List.mem_of_find?_eq_some hg)
    have hgs : g.semaphore = s := by simpa using List.find?_some hg
    obtain ⟨tl, hlive⟩ := Option.isSome_iff_exists.1
      (hgs ▸ (hnamed b (List.mem_of_getElem? hbs)).2 g hgb)
    obtain rfl : tl = false := by simpa [History.isTimeline, hlive] using ht
    obtain ⟨w, hwp, hwq, hws⟩ := hi.pendingBinary s hlive r a ha hw
    obtain ⟨e, he, htl⟩ := hi.known _ _ hlive
    obtain ⟨p, hp', hfor⟩ := find?_forall₂
      (r := fun p => p.semaphoreId = s && !SemaphoreProvenance.outlasts p w) hp.signals
      (fun e' p' hfor => by
        by_cases hs : e'.2.semaphore = s
        · have htl' : p'.timeline = false := by
            rw [hfor.timeline, hs, he]
            exact htl
          simp [hfor.semaphoreId, hs, SemaphoreProvenance.outlasts, htl']
        · simp [hfor.semaphoreId, hs]) hg
    exact ⟨⟨s, w, p, hwp, hp', hwq, hws, hfor.memoryIds⟩,
      fun y hsame hle hc => (hc r a ha hsame hle).2 s hw⟩

theorem map_snd_tagged (bs : List Submit) :
    (tagged Submit.signals bs).map Prod.snd = bs.flatMap Submit.signals := by
  induction bs with
  | nil => rfl
  | cons b bs ih => simp [tagged, ih, Function.comp_def]

/-- The first signal of the call to reach a value, where it is the least to reach it. -/
theorem find_reaching {h' : History} (hok : CallOk md h h' bs) (ht : h.isTimeline s = true)
    {b : Submit} {g : SemaphoreSignal} {v : ℕ} (hbs : bs[i]? = some b) (hg : g ∈ b.signals)
    (hgs : g.semaphore = s) (hv : v ≤ g.value.getD 0)
    (hleast : ∀ e ∈ tagged Submit.signals bs, e.2.semaphore = s → v ≤ e.2.value.getD 0 →
      g.value.getD 0 ≤ e.2.value.getD 0) :
    (tagged Submit.signals bs).find?
      (fun e => e.2.semaphore = s && decide (v ≤ e.2.value.getD 0)) = some (i, g) := by
  have hasc := hok.ascending
  rw [← map_snd_tagged, List.pairwise_map] at hasc
  have hmem : (i, g) ∈ tagged Submit.signals bs := mem_tagged.2 ⟨b, hbs, hg⟩
  obtain ⟨pre, post, hl⟩ := List.append_of_mem hmem
  refine List.find?_eq_some_iff_append.2 ⟨by simp [hgs, hv], pre, post, hl, fun e he => ?_⟩
  rw [hl, List.pairwise_append] at hasc
  by_contra hcon
  obtain ⟨hes, hev⟩ : e.2.semaphore = s ∧ v ≤ e.2.value.getD 0 := by simpa using hcon
  have hlt : e.2.value.getD 0 < g.value.getD 0 :=
    hasc.2.2 e he (i, g) (by simp) (hes.trans hgs.symm) (hes ▸ ht)
  have hle := hleast e (by simp [hl, he]) hes hev
  omega

theorem released_timeline (hi : MetadataInv t md h)
    (hp : Planned t md q (s₀ + ·) bs N waits consumed ps)
    (hok : CallOk md h (h.addBatches q s₀ bs) bs) {a : Batch} (ha : h.batches[r]? = some a)
    (hedge : (h.addBatches q s₀ bs).TimelineEdge (h.batches.length + i) r) :
    Released md h N ps i r a := by
  have hext := extends_addBatches h q s₀ bs
  obtain ⟨a', b', s, v, u, ha', hb', hw, hg, hle, hleast⟩ := hedge
  rw [hext.get_old (List.getElem?_eq_some_iff.1 ha).1, ha] at hb'
  obtain rfl := Option.some.inj hb'
  rw [get_addBatches] at ha'
  obtain ⟨b, hbs, rfl⟩ := Option.map_eq_some_iff.1 ha'
  obtain ⟨g, hgb, ht, rfl, rfl⟩ := mem_signals_batchOf.1 hg
  have hlive : h.live g.semaphore = some true := by simpa [History.isTimeline] using ht
  -- no earlier signal reaches the value: the new one is above them all
  have hunmet : ∀ u', h.Signals g.semaphore u' → u' < v := by
    intro u' hu'
    by_contra hge
    have h1 := hleast u' (hext.signals hu') (by omega)
    have h2 := hok.above b (List.mem_of_getElem? hbs) g hgb ht u' hu'
    omega
  obtain ⟨w, hwp, hwv, hwq, hws⟩ := hi.pendingTimeline _ hlive r a v ha hw hunmet
  obtain ⟨e, he, htl⟩ := hi.known _ _ hlive
  have hnew : ∀ e' ∈ tagged Submit.signals bs, e'.2.semaphore = g.semaphore →
      v ≤ e'.2.value.getD 0 → g.value.getD 0 ≤ e'.2.value.getD 0 := by
    intro e' he' hs hv
    obtain ⟨b', hb', hg'⟩ := mem_tagged.1 he'
    exact hleast _ (hs ▸ signals_new hb' hg' (hs ▸ ht)) hv
  have hdec : ∀ u, decide (v ≤ u) = !decide (u < v) := fun u => by simp [← decide_not]
  obtain ⟨p, hp', hfor⟩ := find?_forall₂
    (r := fun p => p.semaphoreId = g.semaphore && !SemaphoreProvenance.outlasts p w) hp.signals
    (fun e' p' hfor => by
      by_cases hs : e'.2.semaphore = g.semaphore
      · have htl' : p'.timeline = true := by
          rw [hfor.timeline, hs, he]
          exact htl
        simp [hfor.semaphoreId, hs, SemaphoreProvenance.outlasts, htl', hfor.value htl', hwv,
          hdec]
      · simp [hfor.semaphoreId, hs]) (find_reaching hok ht hbs hgb rfl hle hnew)
  refine ⟨⟨_, w, p, hwp, hp', hwq, hws, hfor.memoryIds⟩, fun y hsame hle' hc => ?_⟩
  obtain ⟨u', hu', hvu⟩ := (hc r a ha hsame hle').1 _ _ hw
  have := hunmet u' hu'
  omega

theorem released (hi : MetadataInv t md h) (hp : Planned t md q (s₀ + ·) bs N waits consumed ps)
    (hnamed : h.Named bs) (hok : CallOk md h (h.addBatches q s₀ bs) bs) {a : Batch}
    (ha : h.batches[r]? = some a)
    (hedge : (h.addBatches q s₀ bs).Edge (h.batches.length + i) r) : Released md h N ps i r a := by
  rcases hedge.1 with hm | ht
  · exact hi.released_binary hp hnamed ha hm
  · exact hi.released_timeline hp hok ha ht

/-- What is ordered before a batch after the call: what was before, what the batch's own planned
set has, and what a signal of the call brings to a wait it releases. -/
theorem before_call (hi : MetadataInv t md h) (hp : Planned t md q (s₀ + ·) bs N waits consumed ps)
    (hnamed : h.Named bs) (hok : CallOk md h (h.addBatches q s₀ bs) bs)
    (hv : (h.addBatches q s₀ bs).Visible t m mem) (hacq : ¬ h.acquired m mem)
    (hb : (h.addBatches q s₀ bs).Before m y) :
    (y < h.batches.length → h.Before m y ∨ ∃ k r, h.batches.length ≤ k ∧
      k < (h.addBatches q s₀ bs).batches.length ∧ r < h.batches.length ∧
      (h.addBatches q s₀ bs).Edge k r ∧ mem ∈ N (k - h.batches.length) ∧
      (h.addBatches q s₀ bs).SameQueue r y ∧ r ≤ y) ∧
    (h.batches.length ≤ y → mem ∈ N (y - h.batches.length)) := by
  have hext := extends_addBatches h q s₀ bs
  refine hext.before (N := fun y => N (y - h.batches.length)) (fun y y' _ hle => ?_) (fun hm => ?_)
    (fun x y hx hy hs hbx => ?_) (fun x y hx hy hedge hbx => ?_) hok.oneHop hb
  · exact hp.mono _ _ (by omega)
  · obtain ⟨i, rfl⟩ := Nat.exists_eq_add_of_le hm
    obtain ⟨a, ha, cb, hcb, x, hx, hmem⟩ := hv
    rw [get_addBatches] at ha
    obtain ⟨b, hbs, rfl⟩ := Option.map_eq_some_iff.1 ha
    rw [Nat.add_sub_cancel_left]
    exact hp.self i b hbs (mem_commandBufferWrites hcb hx hmem)
  · have hvo := visible_old hbx.lt.1 hv
    obtain ⟨a, b, ha, hb', hq⟩ := hs
    rw [hext.get_old hx] at ha
    obtain ⟨ws, ⟨hqa, rfl⟩, hmem⟩ :=
      hi.carried (c := .queue a.queue) ⟨a, ha, rfl⟩ ha hvo hbx hacq
    exact hp.start _ (by rwa [← hext.queue_new hy hb', ← hq])
  · obtain ⟨i, rfl⟩ := Nat.exists_eq_add_of_le hy
    have hvo := visible_old hbx.lt.1 hv
    rw [Nat.add_sub_cancel_left]
    rcases hedge.1 with hm | ht
    · exact hi.learned_binary hp hnamed hm hx hvo hbx hacq
    · exact hi.learned_timeline hp ht hx hvo hbx hacq

end MetadataInv

/-- A call: planned against the current sets, and committed. -/
structure CallStep (t : ResourceTables) (md md' : Metadata) (h : History) (q : QueueId) (s₀ : ℕ)
    (bs : List Submit) (N : ℕ → Writes) (waits : List PlannedWait) (consumed : List SemaphoreId)
    (ps : List PlannedSignal) (next : Writes) : Prop where
  inv : MetadataInv t md h
  planned : Planned t md q (s₀ + ·) bs N waits consumed ps
  named : h.Named bs
  ok : CallOk md h (h.addBatches q s₀ bs) bs
  committed : Committed md md' q next waits consumed ps
  next : ∀ i, N i ⊆ next
  serial_le : ∀ (n : ℕ) (b : Batch), h.batches[n]? = some b → b.serial ≤ s₀
  serial_lt : ∀ i, i < bs.length → s₀ + i < md.nextSubmissionSerial

namespace CallStep

variable (k : CallStep t md md' h q s₀ bs N waits consumed ps next)
include k

theorem observed (ho : n ∈ h.observed) : n < (h.addBatches q s₀ bs).batches.length ∧
    (h.addBatches q s₀ bs).Completable n ∧ (h.addBatches q s₀ bs).Behind t n ∅ := by
  have hext := extends_addBatches h q s₀ bs
  obtain ⟨hlt, hcomp, hbeh⟩ := k.inv.observed n ho
  refine ⟨hlt.trans_le hext.length_le, fun r a ha hs hle => ?_, fun m mem hv hb hacq => ?_⟩
  · have hr : r < h.batches.length := by omega
    rw [hext.get_old hr] at ha
    obtain ⟨hw, hnot⟩ := hcomp r a ha ((hext.sameQueue_old hr hlt).1 hs) hle
    refine ⟨fun s v hsv => ?_, fun s hwait => ?_⟩
    · obtain ⟨u, hu, hvu⟩ := hw s v hsv
      exact ⟨u, hext.signals hu, hvu⟩
    · rcases (progress_addBatches h q s₀ bs).waiting s r hwait with ⟨hold, -⟩ | ⟨i, rfl, -⟩
      · exact hnot s hold
      · omega
  · rw [(progress_addBatches h q s₀ bs).acquired] at hacq
    rcases (k.inv.before_call k.planned k.named k.ok hv hacq hb).1 hlt with hold |
      ⟨k', r, hk', hkl, hr, hedge, -, hs, hle⟩
    · exact hbeh m mem (visible_old hold.lt.1 hv) hold hacq
    · obtain ⟨i, rfl⟩ := Nat.exists_eq_add_of_le hk'
      obtain ⟨a, ha⟩ : ∃ a, h.batches[r]? = some a := ⟨_, List.getElem?_eq_getElem hr⟩
      exact absurd hcomp ((k.inv.released k.planned k.named k.ok ha hedge).incomplete n
        ((hext.sameQueue_old hr hlt).1 hs) hle)

/-- The set the queue comes to is behind each of its batches. -/
theorem behind_next {b : Batch} (hb : (h.addBatches q s₀ bs).batches[n]? = some b)
    (hq : b.queue = q) : n ∈ h.observed ∨ (h.addBatches q s₀ bs).Behind t n next := by
  have hext := extends_addBatches h q s₀ bs
  refine or_iff_not_imp_left.2 fun hno m mem hv hbef hacq => ?_
  rw [(progress_addBatches h q s₀ bs).acquired] at hacq
  obtain ⟨hold, hnew⟩ := k.inv.before_call k.planned k.named k.ok hv hacq hbef
  rcases Nat.lt_or_ge n h.batches.length with hn | hn
  · rcases hold hn with hold | ⟨k', r, hk', hkl, hr, hedge, -, hs, hle⟩
    · rw [hext.get_old hn] at hb
      obtain ⟨ws, ⟨-, rfl⟩, hmem⟩ := k.inv.carried (c := .queue q) ⟨b, hb, hq⟩ hb
        (visible_old hold.lt.1 hv) hold hacq
      exact k.next 0 (k.planned.start 0 hmem)
    · -- the signal would come after the wait on one queue
      obtain ⟨a, b', ha, hb', hab⟩ := hs
      obtain rfl := Option.some.inj (hb.symm.trans hb')
      have hk : (h.addBatches q s₀ bs).SameQueue k' r :=
        ⟨_, a, List.getElem?_eq_getElem hkl, ha, by
          rw [hext.queue_new hk' (List.getElem?_eq_getElem hkl), hab, hq]⟩
      exact absurd ⟨hk, by omega⟩ hedge.2
  · exact k.next _ (hnew hn)

/-- A slot the call does not write keeps speaking for its batch. -/
theorem covers_old {c : Slot} {b : Batch} (hspeaks : h.Speaks c n) (hb : h.batches[n]? = some b)
    (hc : c ≠ .queue q)
    (hbin : ∀ s, c = .binary s → s ∉ consumed ∧ ∀ p ∈ ps, p.semaphoreId = s → p.timeline = true) :
    n ∈ h.observed ∨ ∃ ws, md'.Carries c b.queue b.serial ws ∧
      (h.addBatches q s₀ bs).Behind t n ws := by
  have hext := extends_addBatches h q s₀ bs
  have hn : n < h.batches.length := (List.getElem?_eq_some_iff.1 hb).1
  refine (k.inv.covers c n b hspeaks hb).imp_right ?_
  rintro ⟨ws, hws, hbeh⟩
  obtain ⟨held, hheld, hle, hfed⟩ := k.committed.carries c _ _ ws hws hc hbin
  refine ⟨held, hheld, fun m mem hv hbef hacq => ?_⟩
  rw [(progress_addBatches h q s₀ bs).acquired] at hacq
  rcases (k.inv.before_call k.planned k.named k.ok hv hacq hbef).1 hn with hold |
    ⟨k', r, hk', hkl, hr, hedge, hmem, hs, hrn⟩
  · exact hle (hbeh m mem (visible_old hold.lt.1 hv) hold hacq)
  · obtain ⟨i, rfl⟩ := Nat.exists_eq_add_of_le hk'
    rw [Nat.add_sub_cancel_left] at hmem
    obtain ⟨a, b', ha, hb', hab⟩ := (hext.sameQueue_old hr hn).1 hs
    obtain rfl := Option.some.inj (hb.symm.trans hb')
    obtain ⟨s, w, p, hw, hp, hwq, hws, hN⟩ :=
      (k.inv.released k.planned k.named k.ok ha hedge).pending
    exact hfed s w p (.inl hw) hp (hwq.trans hab)
      (hws.le.trans (k.inv.serial_mono r n a b ha hb hrn)) (hN hmem)

/-- A new batch has its planned set behind it. -/
theorem behind_new {ws : Writes} (hN : N i ⊆ ws) :
    (h.addBatches q s₀ bs).Behind t (h.batches.length + i) ws := by
  intro m mem hv hbef hacq
  rw [(progress_addBatches h q s₀ bs).acquired] at hacq
  have hmem := (k.inv.before_call k.planned k.named k.ok hv hacq hbef).2 (Nat.le_add_right _ _)
  rw [Nat.add_sub_cancel_left] at hmem
  exact hN hmem

theorem timeline_flag {e : ℕ × SemaphoreSignal} {p : PlannedSignal}
    (hfor : PlannedFor md (s₀ + ·) N e p) (he : e ∈ tagged Submit.signals bs) :
    p.timeline = h.isTimeline e.2.semaphore := by
  obtain ⟨b, hb, hg⟩ := mem_tagged.1 he
  obtain ⟨tl, hlive⟩ := Option.isSome_iff_exists.1
    ((k.named b (List.mem_of_getElem? hb)).2 e.2 hg)
  obtain ⟨e', he', htl⟩ := k.inv.known _ _ hlive
  rw [hfor.timeline, he', SemaphoreProvenance.isTimeline, Option.any_some, htl,
    History.isTimeline, hlive]
  cases tl <;> rfl

theorem covers_timeline {b : Submit} {g : SemaphoreSignal} (hb : bs[i]? = some b)
    (hg : g ∈ b.signals) (ht : h.isTimeline g.semaphore = true) :
    ∃ ws, md'.Carries (.timeline g.semaphore (g.value.getD 0)) q (s₀ + i) ws ∧
      (h.addBatches q s₀ bs).Behind t (h.batches.length + i) ws := by
  have hmem : (i, g) ∈ tagged Submit.signals bs := mem_tagged.2 ⟨b, hb, hg⟩
  have hsig := k.planned.signals
  obtain ⟨pre, post, hl⟩ := List.append_of_mem hmem
  rw [hl] at hsig
  obtain ⟨pre', p, post', hps, hfor, -⟩ := split_forall₂ hsig
  have htl : p.timeline = true := (k.timeline_flag hfor hmem).trans ht
  obtain ⟨held, hheld, hle⟩ := k.committed.slot pre' p post' hps fun hf => by simp [htl] at hf
  refine ⟨held, ?_, k.behind_new (hfor.memoryIds.trans hle)⟩
  rwa [PlannedSignal.slot, if_pos htl, hfor.semaphoreId, hfor.value htl, hfor.submissionSerial]
    at hheld

theorem covers_binary (hlast : (tagged h.binaryEvents bs).reverse.find?
      (fun e => e.2 = .signal s) = some (i, .signal s)) :
    ∃ ws, md'.Carries (.binary s) q (s₀ + i) ws ∧
      (h.addBatches q s₀ bs).Behind t (h.batches.length + i) ws := by
  obtain ⟨ht, g, hg⟩ := find_last_signal hlast
  obtain ⟨hgs, pre, post, hl, hpre⟩ := List.find?_eq_some_iff_append.1 hg
  have hgs : g.semaphore = s := by simpa using hgs
  have hl' : tagged Submit.signals bs = post.reverse ++ (i, g) :: pre.reverse := by
    rw [← List.reverse_reverse (tagged Submit.signals bs), hl]
    simp
  have hsig := k.planned.signals
  rw [hl'] at hsig
  obtain ⟨pre', p, post', hps, hfor, hpost⟩ := split_forall₂ hsig
  have htl : p.timeline = false := by
    rw [k.timeline_flag hfor (by simp [hl']), hgs, ht]
  obtain ⟨held, hheld, hle⟩ := k.committed.slot pre' p post' hps fun _ p' hp' hs => by
    obtain ⟨e, he, hfor'⟩ := mem_forall₂ hpost hp'
    have hne := hpre e (List.mem_reverse.1 he)
    rw [hfor.semaphoreId, hfor'.semaphoreId] at hs
    exact absurd (hs.trans hgs) (by simpa using hne)
  refine ⟨held, ?_, k.behind_new (hfor.memoryIds.trans hle)⟩
  rwa [PlannedSignal.slot, if_neg (by simp [htl]), hfor.semaphoreId, hfor.submissionSerial, hgs]
    at hheld

theorem covers {c : Slot} {b : Batch} (hspeaks : (h.addBatches q s₀ bs).Speaks c n)
    (hb : (h.addBatches q s₀ bs).batches[n]? = some b) :
    n ∈ h.observed ∨ ∃ ws, md'.Carries c b.queue b.serial ws ∧
      (h.addBatches q s₀ bs).Behind t n ws := by
  have hext := extends_addBatches h q s₀ bs
  have hprog := progress_addBatches h q s₀ bs
  cases c with
  | queue q' =>
    obtain ⟨b', hb', rfl⟩ := hspeaks
    obtain rfl := Option.some.inj (hb.symm.trans hb')
    by_cases hq : b.queue = q
    · refine (k.behind_next hb hq).imp_right fun hbeh => ⟨_, ⟨rfl, rfl⟩, fun m mem hv hbef hacq =>
        ?_⟩
      exact hq ▸ k.committed.queue (hbeh m mem hv hbef hacq)
    · rcases get_addBatches_cases hb with ⟨-, hold⟩ | ⟨i, b₀, -, -, rfl⟩
      · exact k.covers_old (c := .queue b.queue) ⟨b, hold, rfl⟩ hold (by simpa using hq)
          fun s hs => by cases hs
      · exact absurd rfl hq
  | fence f =>
    have hf : h.fences f = some n := by rw [← hprog.fences]; exact hspeaks
    rw [hext.get_old (k.inv.fence_lt f n hf)] at hb
    exact k.covers_old (c := .fence f) hf hb (by simp) fun s hs => by cases hs
  | binary s =>
    obtain ⟨hlive, hsig⟩ := hspeaks
    rw [live_addBatches] at hlive
    have ht : h.isTimeline s = false := by simp [History.isTimeline, hlive]
    rcases hprog.signaled s n hsig with ⟨hold, hnone⟩ | ⟨i, rfl, hlast⟩
    · rw [hext.get_old (k.inv.signaled_lt s n hold)] at hb
      refine k.covers_old (c := .binary s) ⟨hlive, hold⟩ hb (by simp) fun s' hs' => ?_
      obtain rfl : s = s' := by simpa using hs'
      constructor
      · intro hmem
        obtain ⟨b₀, hb₀, w, hw, rfl⟩ := k.planned.consumed s hmem
        obtain ⟨j, hj⟩ := List.mem_iff_getElem?.1 hb₀
        exact (hnone _ (wait_event hj hw ht)).1 rfl
      · intro p hp hs
        obtain ⟨e, he, hfor⟩ := mem_forall₂ k.planned.signals hp
        obtain ⟨b₀, hb₀, hg⟩ := mem_tagged.1 he
        have hes : e.2.semaphore = s := hfor.semaphoreId.symm.trans hs
        exact absurd (hes ▸ rfl) (hnone _ (signal_event hb₀ hg (hes ▸ ht))).2
    · refine .inr ?_
      obtain ⟨ws, hws, hbeh⟩ := k.covers_binary hlast
      rw [get_addBatches] at hb
      obtain ⟨b₀, -, rfl⟩ := Option.map_eq_some_iff.1 hb
      exact ⟨ws, hws, hbeh⟩
  | timeline s u =>
    obtain ⟨hlive, b', hb', hu⟩ := hspeaks
    rw [live_addBatches] at hlive
    obtain rfl := Option.some.inj (hb.symm.trans hb')
    rcases get_addBatches_cases hb with ⟨-, hold⟩ | ⟨i, b₀, rfl, hb₀, rfl⟩
    · exact k.covers_old (c := .timeline s u) ⟨hlive, b, hold, hu⟩ hold (by simp)
        fun s hs => by cases hs
    · obtain ⟨g, hg, ht, rfl, rfl⟩ := mem_signals_batchOf.1 hu
      exact .inr (k.covers_timeline hb₀ hg ht)

theorem values_above {p : PlannedSignal} (hp : p ∈ ps) (ht : p.timeline = true) :
    (∀ u, h.Signals p.semaphoreId u → u < p.value) ∧
      (h.addBatches q s₀ bs).Signals p.semaphoreId p.value := by
  obtain ⟨e, he, hfor⟩ := mem_forall₂ k.planned.signals hp
  obtain ⟨b, hb, hg⟩ := mem_tagged.1 he
  have htl : h.isTimeline e.2.semaphore = true := by rw [← k.timeline_flag hfor he, ht]
  rw [hfor.semaphoreId, hfor.value ht]
  exact ⟨k.ok.above b (List.mem_of_getElem? hb) e.2 hg htl, signals_new hb hg htl⟩

theorem values (hlive : h.live s = some true) :
    (md'.shape s).values.Pairwise (· < ·) ∧
      ∀ u ∈ (md'.shape s).values, (h.addBatches q s₀ bs).Signals s u := by
  obtain ⟨hsorted, hvals⟩ := k.inv.values s hlive
  have hnew : ∀ u ∈ (ps.filter fun p => p.semaphoreId = s && p.timeline).map PlannedSignal.value,
      (∀ u', h.Signals s u' → u' < u) ∧ (h.addBatches q s₀ bs).Signals s u := by
    intro u hu
    obtain ⟨p, hp, rfl⟩ := List.mem_map.1 hu
    obtain ⟨hp, hs, ht⟩ : p ∈ ps ∧ p.semaphoreId = s ∧ p.timeline = true := by
      simpa using List.mem_filter.1 hp
    exact hs ▸ k.values_above hp ht
  rw [k.committed.values]
  refine ⟨List.pairwise_append.2 ⟨hsorted, ?_, fun u hu u' hu' => (hnew u' hu').1 u (hvals u hu)⟩,
    fun u hu => ?_⟩
  · have hasc := k.ok.ascending
    rw [← MetadataInv.map_snd_tagged, List.pairwise_map] at hasc
    have hps : ps.Pairwise fun p p' => p.semaphoreId = p'.semaphoreId → p.timeline = true →
        p'.timeline = true → p.value < p'.value := by
      have hsig := k.planned.signals
      refine pairwise_forall₂ ((List.forall₂_and_left _ _).2 ⟨fun e he => he, hsig⟩) hasc
        fun e e' p p' he he' hlt hs ht ht' => ?_
      rw [he.2.value ht, he'.2.value ht']
      refine hlt ?_ ?_
      · rw [← he.2.semaphoreId, ← he'.2.semaphoreId, hs]
      · rw [← k.timeline_flag he.2 he.1, ht]
    rw [List.pairwise_map]
    refine (hps.filter _).imp_of_mem fun {p p'} hp hp' hlt => ?_
    obtain ⟨-, hs, ht⟩ : p ∈ ps ∧ p.semaphoreId = s ∧ p.timeline = true := by
      simpa using List.mem_filter.1 hp
    obtain ⟨-, hs', ht'⟩ : p' ∈ ps ∧ p'.semaphoreId = s ∧ p'.timeline = true := by
      simpa using List.mem_filter.1 hp'
    exact hlt (hs.trans hs'.symm) ht ht'
  · rcases List.mem_append.1 hu with hu | hu
    · exact (extends_addBatches h q s₀ bs).signals (hvals u hu)
    · exact (hnew u hu).2

/-- The records of a timeline semaphore stop short of a value it was never taken to. -/
theorem unresolved {w : SemaphoreWait} {e : SemaphoreProvenance}
    (hlive : h.live w.semaphore = some true) (he : md.semaphores w.semaphore = some e)
    (hunmet : ∀ u, h.Signals w.semaphore u → u < w.value.getD 0) :
    (e.waitFor w.value).2 = false ∧ e.pendingValue w = w.value.getD 0 := by
  obtain ⟨e', he', htl⟩ := k.inv.known _ _ hlive
  obtain rfl := Option.some.inj (he.symm.trans he')
  obtain ⟨u₀, hu₀, -⟩ := k.inv.initial _ hlive
  have hpos := hunmet u₀ (.inl hu₀)
  obtain ⟨v, hv⟩ : ∃ v, w.value = some v := by
    cases hw : w.value with
    | none => simp [hw] at hpos
    | some v => exact ⟨v, rfl⟩
  rw [hv, Option.getD_some] at hunmet hpos
  have hshape := shape_of_some he
  have hnot : ¬ v ≤ e.acquiredTimelineValue := by
    intro hle
    have hval := (k.inv.acquiredValue _ hlive).1
    rw [hshape] at hval
    rcases hval with hzero | hsig
    · have : e.acquiredTimelineValue = 0 := hzero
      omega
    · have : e.acquiredTimelineValue < v := hunmet _ hsig
      omega
  have hnone : e.firstReaching v = none := by
    refine List.find?_eq_none.2 fun r hr => ?_
    have hval := (k.inv.values _ hlive).2
    rw [hshape] at hval
    have := hunmet r.value (hval _ (List.mem_map_of_mem hr))
    simpa using this
  simp [SemaphoreProvenance.waitFor, SemaphoreProvenance.pendingValue, htl, hv, hnot, hnone]

/-- A wait on a timeline semaphore that no signal has satisfied is pending after the call. -/
theorem pendingTimeline (hlive : h.live s = some true) {b : Batch} {v : ℕ}
    (hb : (h.addBatches q s₀ bs).batches[n]? = some b) (hw : (s, v) ∈ b.waits)
    (hunmet : ∀ u, (h.addBatches q s₀ bs).Signals s u → u < v) :
    ∃ w ∈ (md'.shape s).pending, w.value = v ∧ w.queueId = b.queue ∧
      w.submissionSerial = b.serial := by
  have hext := extends_addBatches h q s₀ bs
  have hstays : ∀ w : PendingSemaphoreWait, w.value = v → releaser ps s w = none := by
    intro w hwv
    refine List.find?_eq_none.2 fun p hp => ?_
    by_cases hs : p.semaphoreId = s
    · subst hs
      by_cases ht : p.timeline = true
      · have := hunmet _ (k.values_above hp ht).2
        simp [SemaphoreProvenance.outlasts, ht, hwv, this]
      · obtain ⟨e, he, hfor⟩ := mem_forall₂ k.planned.signals hp
        rw [k.timeline_flag hfor he, ← hfor.semaphoreId] at ht
        simp [History.isTimeline, hlive] at ht
    · simp [hs]
  rcases get_addBatches_cases hb with ⟨-, hold⟩ | ⟨i, b₀, -, hb₀, rfl⟩
  · obtain ⟨w, hwp, hwv, hwq, hws⟩ := k.inv.pendingTimeline s hlive n b v hold hw
      fun u hu => hunmet u (hext.signals hu)
    exact ⟨w, (k.committed.pending s w).2 ⟨.inl hwp, hstays w hwv⟩, hwv, hwq, hws⟩
  · obtain ⟨w₀, hw₀, -, rfl, rfl⟩ := mem_waits_batchOf.1 hw
    obtain ⟨e, he, -⟩ := k.inv.known _ _ hlive
    obtain ⟨hres, hval⟩ := k.unresolved hlive he fun u hu => hunmet u (hext.signals hu)
    obtain ⟨downstream, hmem⟩ := k.planned.unresolved i b₀ w₀ e hb₀ hw₀ he hres
    exact ⟨_, (k.committed.pending _ _).2 ⟨.inr hmem, hstays _ hval⟩, hval, rfl, rfl⟩

theorem pendingBinary (hlive : h.live s = some false) {b : Batch}
    (hb : (h.addBatches q s₀ bs).batches[n]? = some b)
    (hw : (s, n) ∈ (h.addBatches q s₀ bs).waiting) :
    ∃ w ∈ (md'.shape s).pending, w.queueId = b.queue ∧ w.submissionSerial = b.serial := by
  have hext := extends_addBatches h q s₀ bs
  have ht : h.isTimeline s = false := by simp [History.isTimeline, hlive]
  have hstays : (∀ b ∈ bs, ∀ g ∈ b.signals, g.semaphore ≠ s) → ∀ w, releaser ps s w = none := by
    refine fun hnone w => List.find?_eq_none.2 fun p hp => ?_
    obtain ⟨e, he, hfor⟩ := mem_forall₂ k.planned.signals hp
    obtain ⟨b₀, hb₀, hg⟩ := mem_tagged.1 he
    simp [hfor.semaphoreId, hnone b₀ (List.mem_of_getElem? hb₀) e.2 hg]
  rcases (progress_addBatches h q s₀ bs).waiting s n hw with ⟨hold, hnone⟩ | ⟨i, rfl, hev⟩
  · rw [hext.get_old (k.inv.waiting_lt s n hold)] at hb
    obtain ⟨w, hwp, hwq, hws⟩ := k.inv.pendingBinary s hlive n b hb hold
    refine ⟨w, (k.committed.pending s w).2 ⟨.inl hwp, hstays (fun b₀ hb₀ g hg hgs => ?_) w⟩,
      hwq, hws⟩
    obtain ⟨j, hj⟩ := List.mem_iff_getElem?.1 hb₀
    exact hnone _ (signal_event hj hg (hgs ▸ ht)) (hgs ▸ rfl)
  · obtain ⟨b₀, hb₀, w₀, hw₀, rfl, -⟩ := wait_mem_events hev
    obtain ⟨e, he, htl⟩ := k.inv.known _ _ hlive
    obtain ⟨hsig, hnone⟩ := k.ok.binaryWait _ _ hw (Nat.le_add_right _ _)
    obtain ⟨downstream, hmem⟩ := k.planned.unresolved i b₀ w₀ e hb₀ hw₀ he
      (by simp [SemaphoreProvenance.waitFor, htl, hsig e he])
    rw [get_addBatches, hb₀] at hb
    obtain rfl := Option.some.inj hb
    exact ⟨_, (k.committed.pending _ _).2 ⟨.inr hmem, hstays hnone _⟩, rfl, rfl⟩

/-- A call keeps the invariant. -/
theorem after : MetadataInv t md' (h.addBatches q s₀ bs) := by
  have hext := extends_addBatches h q s₀ bs
  have hprog := progress_addBatches h q s₀ bs
  have hobs : (h.addBatches q s₀ bs).observed = h.observed := hprog.observed
  have hlive := live_addBatches h q s₀ bs
  have hlen := hext.length_le
  refine ⟨fun n b hb => ?_, fun m n a b ha hb hle => ?_, fun s tl hs => ?_, fun c n b hc hb => ?_,
    fun n hn => k.observed (hobs ▸ hn), fun s hs => k.values (hlive ▸ hs), fun s hs => ?_,
    fun s hs => ?_, fun s hs z b v hb hw hu => k.pendingTimeline (hlive ▸ hs) hb hw hu,
    fun s hs z b hb hw => k.pendingBinary (hlive ▸ hs) hb hw, fun f n hf => ?_, fun s y hy => ?_,
    fun s z hz => ?_, fun x z hm => ?_⟩
  · rw [k.committed.serial]
    rcases get_addBatches_cases hb with ⟨-, hold⟩ | ⟨i, b₀, -, hb₀, rfl⟩
    · exact k.inv.serial_lt n b hold
    · exact k.serial_lt i (List.getElem?_eq_some_iff.1 hb₀).1
  · rcases get_addBatches_cases ha with ⟨hm, ha⟩ | ⟨i, a₀, rfl, -, rfl⟩ <;>
      rcases get_addBatches_cases hb with ⟨hn, hb⟩ | ⟨j, b₀, rfl, -, rfl⟩
    · exact k.inv.serial_mono m n a b ha hb hle
    · exact (k.serial_le m a ha).trans (Nat.le_add_right _ _)
    · omega
    · simp only [History.batchOf]
      omega
  · obtain ⟨e, he, htl⟩ := k.inv.known s tl (hlive ▸ hs)
    obtain ⟨e', he'⟩ := Option.isSome_iff_exists.1 (k.committed.known s (by rw [he]; rfl))
    have hflag := k.committed.timeline s
    rw [shape_of_some he, shape_of_some he'] at hflag
    exact ⟨e', he', hflag.trans htl⟩
  · rw [hobs]
    exact k.covers hc hb
  · rw [k.committed.acquiredValue, hobs]
    obtain ⟨hval, hseen⟩ := k.inv.acquiredValue s (hlive ▸ hs)
    refine ⟨hval.imp_right hext.signals, fun n b u hb hu hle => ?_⟩
    rcases get_addBatches_cases hb with ⟨-, hold⟩ | ⟨i, b₀, -, hb₀, rfl⟩
    · exact hseen n b u hold hu hle
    · obtain ⟨g, hg, ht, rfl, rfl⟩ := mem_signals_batchOf.1 hu
      have habove := k.ok.above b₀ (List.mem_of_getElem? hb₀) g hg ht
      obtain ⟨u₀, hu₀, -⟩ := k.inv.initial _ (hlive ▸ hs)
      have hpos := habove u₀ (.inl hu₀)
      rcases hval with hzero | hsig
      · omega
      · have := habove _ hsig
        omega
  · obtain ⟨u₀, hu₀, hinit⟩ := k.inv.initial s (hlive ▸ hs)
    refine ⟨u₀, hext.hostSignals.symm ▸ hu₀, fun b hb u hu => ?_⟩
    obtain ⟨n, hn⟩ := List.mem_iff_getElem?.1 hb
    rcases get_addBatches_cases hn with ⟨-, hold⟩ | ⟨i, b₀, -, hb₀, rfl⟩
    · exact hinit b (List.mem_of_getElem? hold) u hu
    · obtain ⟨g, hg, ht, rfl, rfl⟩ := mem_signals_batchOf.1 hu
      exact k.ok.above b₀ (List.mem_of_getElem? hb₀) g hg ht u₀ (.inl hu₀)
  · exact (k.inv.fence_lt f n (hprog.fences ▸ hf)).trans_le hlen
  · rcases hprog.signaled s y hy with ⟨hold, -⟩ | ⟨i, rfl, hlast⟩
    · exact (k.inv.signaled_lt s y hold).trans_le hlen
    · exact lt_of_event (List.mem_reverse.1 (List.mem_of_find?_eq_some hlast))
  · rcases hprog.waiting s z hz with ⟨hold, -⟩ | ⟨i, rfl, hev⟩
    · exact (k.inv.waiting_lt s z hold).trans_le hlen
    · exact lt_of_event hev
  · rcases hprog.matched x z hm with hold | ⟨i, _, j, _, rfl, hi, rfl, hj⟩ |
      ⟨i, s, rfl, hev, hs⟩ | ⟨i, s, rfl, hw, hev⟩
    · obtain ⟨hx, hz⟩ := k.inv.matched_lt x z hold
      exact ⟨hx.trans_le hlen, hz.trans_le hlen⟩
    · exact ⟨lt_of_event hi, lt_of_event hj⟩
    · exact ⟨(k.inv.signaled_lt s x hs).trans_le hlen, lt_of_event hev⟩
    · exact ⟨lt_of_event (List.mem_of_find?_eq_some hev), (k.inv.waiting_lt s z hw).trans_le hlen⟩

end CallStep

end VkRemote.Client
