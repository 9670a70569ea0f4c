import Mathlib.Tactic
import VulkanRemote.Client.Ordering

/-! What one call of a queue operation adds to the history: its batches at the end, and for every
pair of a signal and a wait on a binary semaphore that it matches, where both stand. -/

namespace VkRemote.Client

open Lib

def BinaryEvent.signaled : BinaryEvent → Option SemaphoreId
  | .wait _ => none
  | .signal s => some s

namespace History

variable {h : History} {q : QueueId} {s₀ : ℕ} {bs : List Submit} {s : SemaphoreId} {i k n z : ℕ}

theorem progress_addBatches (h : History) (q : QueueId) (s₀ : ℕ) (bs : List Submit) :
    Progress h.batches.length
      { h with batches := h.batches ++ bs.mapIdx fun i b => h.batchOf q (s₀ + i) b }
      (tagged h.binaryEvents bs) (h.addBatches q s₀ bs) :=
  progress _ _ _

theorem batches_addBatches (h : History) (q : QueueId) (s₀ : ℕ) (bs : List Submit) :
    (h.addBatches q s₀ bs).batches =
      h.batches ++ bs.mapIdx fun i b => h.batchOf q (s₀ + i) b :=
  (progress_addBatches h q s₀ bs).batches

theorem get_addBatches (i : ℕ) :
    (h.addBatches q s₀ bs).batches[h.batches.length + i]? =
      (bs[i]?).map (h.batchOf q (s₀ + i)) := by
  rw [batches_addBatches, List.getElem?_append_right (by omega)]
  simp

theorem extends_addBatches (h : History) (q : QueueId) (s₀ : ℕ) (bs : List Submit) :
    Extends h (h.addBatches q s₀ bs) q where
  batches := by
    refine ⟨_, batches_addBatches h q s₀ bs, fun b hb => ?_⟩
    obtain ⟨i, hi, rfl⟩ := List.mem_mapIdx.1 hb
    rfl
  hostSignals := (progress_addBatches h q s₀ bs).hostSignals
  matched k z hm := by
    rcases (progress_addBatches h q s₀ bs).matched k z hm with hm | ⟨i, _, _, _, rfl, _⟩ |
      ⟨i, _, rfl, _⟩ | ⟨i, _, rfl, _⟩
    · exact .inl hm
    · exact .inr (.inl (Nat.le_add_right _ _))
    · exact .inr (.inr (Nat.le_add_right _ _))
    · exact .inr (.inl (Nat.le_add_right _ _))

theorem live_addBatches (h : History) (q : QueueId) (s₀ : ℕ) (bs : List Submit) :
    (h.addBatches q s₀ bs).live = h.live :=
  (progress_addBatches h q s₀ bs).live

/-- A batch of the extended history is an earlier one or one of the call's. -/
theorem get_addBatches_cases {b : Batch} (hb : (h.addBatches q s₀ bs).batches[n]? = some b) :
    (n < h.batches.length ∧ h.batches[n]? = some b) ∨
      ∃ i b₀, n = h.batches.length + i ∧ bs[i]? = some b₀ ∧ b = h.batchOf q (s₀ + i) b₀ := by
  rcases Nat.lt_or_ge n h.batches.length with hn | hn
  · exact .inl ⟨hn, ((extends_addBatches h q s₀ bs).get_old hn).symm.trans hb⟩
  · obtain ⟨i, rfl⟩ := Nat.exists_eq_add_of_le hn
    rw [get_addBatches] at hb
    obtain ⟨b₀, hb₀, rfl⟩ := Option.map_eq_some_iff.1 hb
    exact .inr ⟨i, b₀, rfl, hb₀, rfl⟩

theorem mem_waits_batchOf {b : Submit} {v : ℕ} :
    (s, v) ∈ (h.batchOf q s₀ b).waits ↔
      ∃ w ∈ b.waits, h.isTimeline s = true ∧ w.semaphore = s ∧ w.value.getD 0 = v := by
  simp only [batchOf, List.mem_map, List.mem_filter, Prod.mk.injEq]
  constructor
  · rintro ⟨w, ⟨hw, ht⟩, rfl, rfl⟩
    exact ⟨w, hw, ht, rfl, rfl⟩
  · rintro ⟨w, hw, ht, rfl, rfl⟩
    exact ⟨w, ⟨hw, ht⟩, rfl, rfl⟩

theorem mem_signals_batchOf {b : Submit} {u : ℕ} :
    (s, u) ∈ (h.batchOf q s₀ b).signals ↔
      ∃ g ∈ b.signals, h.isTimeline s = true ∧ g.semaphore = s ∧ g.value.getD 0 = u := by
  simp only [batchOf, List.mem_map, List.mem_filter, Prod.mk.injEq]
  constructor
  · rintro ⟨w, ⟨hw, ht⟩, rfl, rfl⟩
    exact ⟨w, hw, ht, rfl, rfl⟩
  · rintro ⟨w, hw, ht, rfl, rfl⟩
    exact ⟨w, ⟨hw, ht⟩, rfl, rfl⟩

theorem signals_new {b : Submit} {g : SemaphoreSignal} (hb : bs[i]? = some b) (hg : g ∈ b.signals)
    (ht : h.isTimeline g.semaphore = true) :
    (h.addBatches q s₀ bs).Signals g.semaphore (g.value.getD 0) := by
  refine .inr ⟨h.batchOf q (s₀ + i) b, ?_, mem_signals_batchOf.2 ⟨g, hg, ht, rfl, rfl⟩⟩
  refine List.mem_of_getElem? (i := h.batches.length + i) ?_
  rw [get_addBatches, hb, Option.map_some]

theorem wait_mem_events (he : (i, BinaryEvent.wait s) ∈ tagged h.binaryEvents bs) :
    ∃ b, bs[i]? = some b ∧ ∃ w ∈ b.waits, w.semaphore = s ∧ h.isTimeline s = false := by
  obtain ⟨b, hb, he⟩ := mem_tagged.1 he
  obtain ⟨⟨w, hw, hs⟩, ht⟩ : (∃ w ∈ b.waits, w.semaphore = s) ∧ h.isTimeline s = false := by
    simpa [binaryEvents, binaryWaits] using he
  exact ⟨b, hb, w, hw, hs, ht⟩

theorem wait_event {b : Submit} {w : SemaphoreWait} (hb : bs[i]? = some b) (hw : w ∈ b.waits)
    (ht : h.isTimeline w.semaphore = false) :
    (i, BinaryEvent.wait w.semaphore) ∈ tagged h.binaryEvents bs := by
  refine mem_tagged.2 ⟨b, hb, List.mem_append_left _ (List.mem_map_of_mem ?_)⟩
  simpa [binaryWaits, ht] using ⟨w, hw, rfl⟩

theorem signal_event {b : Submit} {g : SemaphoreSignal} (hb : bs[i]? = some b) (hg : g ∈ b.signals)
    (ht : h.isTimeline g.semaphore = false) :
    (i, BinaryEvent.signal g.semaphore) ∈ tagged h.binaryEvents bs := by
  refine mem_tagged.2 ⟨b, hb, List.mem_append_right _ (List.mem_map_of_mem ?_)⟩
  simpa [binarySignals, ht] using ⟨g, hg, rfl⟩

theorem lt_of_event {e : BinaryEvent} (he : (i, e) ∈ tagged h.binaryEvents bs) :
    h.batches.length + i < (h.addBatches q s₀ bs).batches.length := by
  obtain ⟨b, hb, -⟩ := mem_tagged.1 he
  have hget : (h.addBatches q s₀ bs).batches[h.batches.length + i]? =
      some (h.batchOf q (s₀ + i) b) := by rw [get_addBatches, hb, Option.map_some]
  exact (List.getElem?_eq_some_iff.1 hget).1

theorem signaled_binaryEvents (h : History) (b : Submit) :
    (h.binaryEvents b).filterMap BinaryEvent.signaled = h.binarySignals b := by
  simp [binaryEvents, List.filterMap_append, List.filterMap_map, Function.comp_def,
    BinaryEvent.signaled]

/-- The semaphore of a signal, if it is a binary one. -/
def binaryOf (h : History) (g : SemaphoreSignal) : Option SemaphoreId :=
  if h.isTimeline g.semaphore then none else some g.semaphore

theorem binaryOf_signals (h : History) (b : Submit) :
    b.signals.filterMap h.binaryOf = h.binarySignals b := by
  unfold binarySignals
  generalize b.signals = l
  induction l with
  | nil => rfl
  | cons g l ih =>
    cases ht : h.isTimeline g.semaphore <;> simp [binaryOf, ht, ih]

theorem find_of_filterMap {evs : List (ℕ × BinaryEvent)} {sigs : List (ℕ × SemaphoreSignal)}
    (heq : evs.filterMap (fun e => e.2.signaled.map fun s => (e.1, s)) =
      sigs.filterMap fun e => (h.binaryOf e.2).map fun s => (e.1, s))
    (he : evs.find? (fun e => e.2 = .signal s) = some (i, .signal s)) :
    h.isTimeline s = false ∧
      ∃ g, sigs.find? (fun e => e.2.semaphore = s) = some (i, g) := by
  have hfind := congrArg (List.find? fun e => decide (e.2 = s)) heq
  rw [List.find?_filterMap, List.find?_filterMap] at hfind
  have hevs : (fun e : ℕ × BinaryEvent => (e.2.signaled.map fun s => (e.1, s)).any
      fun e => decide (e.2 = s)) = fun e => decide (e.2 = .signal s) := by
    funext e
    obtain ⟨j, s' | s'⟩ := e <;> simp [BinaryEvent.signaled]
  rw [hevs, he] at hfind
  obtain ⟨⟨j, g⟩, hg, hbin⟩ := Option.bind_eq_some_iff.1 hfind.symm
  simp only [binaryOf, Option.map_eq_some_iff] at hbin
  split at hbin
  · simp at hbin
  · next ht =>
    obtain ⟨rfl, rfl⟩ : j = i ∧ g.semaphore = s := by simpa using hbin
    have ht' : h.isTimeline g.semaphore = false := by simpa using ht
    refine ⟨ht', g, ?_⟩
    rw [← hg]
    congr 1
    funext e
    by_cases hs : e.2.semaphore = g.semaphore
    · simp [binaryOf, hs, ht']
    · cases hte : h.isTimeline e.2.semaphore <;> simp [binaryOf, hs, hte]

theorem events_signals (h : History) (bs : List Submit) :
    (tagged h.binaryEvents bs).filterMap (fun e => e.2.signaled.map fun s => (e.1, s)) =
      (tagged Submit.signals bs).filterMap fun e => (h.binaryOf e.2).map fun s => (e.1, s) := by
  rw [tagged_filterMap (signaled_binaryEvents h), tagged_filterMap (binaryOf_signals h)]

theorem find_first_signal
    (he : (tagged h.binaryEvents bs).find? (fun e => e.2 = .signal s) = some (i, .signal s)) :
    h.isTimeline s = false ∧
      ∃ g, (tagged Submit.signals bs).find? (fun e => e.2.semaphore = s) = some (i, g) :=
  find_of_filterMap (events_signals h bs) he

theorem find_last_signal
    (he : (tagged h.binaryEvents bs).reverse.find? (fun e => e.2 = .signal s) =
      some (i, .signal s)) :
    h.isTimeline s = false ∧
      ∃ g, (tagged Submit.signals bs).reverse.find? (fun e => e.2.semaphore = s) = some (i, g) := by
  refine find_of_filterMap ?_ he
  rw [List.filterMap_reverse, List.filterMap_reverse, events_signals]

end History

end VkRemote.Client
