import Mathlib.Tactic
import VulkanRemote.Client.Exposure
import VulkanRemote.Client.Metadata
import VulkanRemote.Lib.Tagged

/-! What the application and the device know of the work that has been submitted: the batches in
submission order, the semaphore operations between them, and from these which batch comes before
which. None of it is kept by the client. -/

namespace VkRemote.Client

open Lib

/-- A submitted batch, with its waits and signals on timeline semaphores. -/
structure Batch where
  queue : QueueId
  serial : ℕ
  commandBuffers : List (List PrimaryCommand) := []
  waits : List (SemaphoreId × ℕ) := []
  signals : List (SemaphoreId × ℕ) := []

structure History where
  batches : List Batch := []
  /-- Initial values of timeline semaphores and values signaled by the host. -/
  hostSignals : List (SemaphoreId × ℕ) := []
  /-- Binary semaphores: which signal which wait has consumed. -/
  matched : List (ℕ × ℕ) := []
  /-- The batch whose signal of a binary semaphore is not consumed yet. -/
  signaled : SemaphoreId → Option ℕ := fun _ => none
  /-- Waits on a binary semaphore submitted before their signal. -/
  waiting : List (SemaphoreId × ℕ) := []
  /-- An image acquisition is to signal the semaphore, and nothing waits for that yet. -/
  acquiring : SemaphoreId → Bool := fun _ => false
  /-- The semaphores there are, `true` for a timeline one. -/
  live : SemaphoreId → Option Bool := fun _ => none
  used : List SemaphoreId := []
  fences : FenceId → Option ℕ := fun _ => none
  /-- Batches whose completion the host has observed. -/
  observed : List ℕ := []
  /-- The memory was acquired at an observation ordered after the batch. -/
  acquired : ℕ → MemoryId → Prop := fun _ _ => False

/-- A batch waits for a binary semaphore, or signals it. -/
inductive BinaryEvent
  | wait (s : SemaphoreId)
  | signal (s : SemaphoreId)
  deriving DecidableEq

namespace History

def SameQueue (h : History) (m n : ℕ) : Prop :=
  ∃ a b, h.batches[m]? = some a ∧ h.batches[n]? = some b ∧ a.queue = b.queue

/-- Some signal, of a batch or the host's, takes the timeline semaphore to this value. -/
def Signals (h : History) (s : SemaphoreId) (u : ℕ) : Prop :=
  (s, u) ∈ h.hostSignals ∨ ∃ b ∈ h.batches, (s, u) ∈ b.signals

/-- Batch `k` signals the least value that satisfies a wait of batch `z`. -/
def TimelineEdge (h : History) (k z : ℕ) : Prop :=
  ∃ a b s v u, h.batches[k]? = some a ∧ h.batches[z]? = some b ∧ (s, v) ∈ b.waits ∧
    (s, u) ∈ a.signals ∧ v ≤ u ∧ ∀ u', h.Signals s u' → v ≤ u' → u ≤ u'

/-- A signal of batch `k` satisfies a wait of batch `z`. A batch cannot be released by a signal
that comes after it on its own queue. -/
def Edge (h : History) (k z : ℕ) : Prop :=
  ((k, z) ∈ h.matched ∨ h.TimelineEdge k z) ∧ ¬ (h.SameQueue k z ∧ z ≤ k)

/-- Submission order on a queue, and any chain of signals and waits. -/
inductive Before (h : History) : ℕ → ℕ → Prop
  | queue {m n : ℕ} : h.SameQueue m n → m ≤ n → Before h m n
  | hop {m k z n : ℕ} : Before h m k → h.Edge k z → h.SameQueue z n → z ≤ n → Before h m n

/-- The batch writes this memory and makes it visible to the host within one command buffer, by a barrier
that names one of the host's own accesses. -/
def Visible (t : ResourceTables) (h : History) (m : ℕ) (mem : MemoryId) : Prop :=
  ∃ a, h.batches[m]? = some a ∧ ∃ cb ∈ a.commandBuffers, ∃ x ∈ locallyExposed t cb,
    x.memory t = some mem

/-- Command buffer `i` of batch `m` writes the target, and the write becomes visible to the host by a barrier, with
any access that includes the host's, that comes no later than batch `n`: in the same command buffer, or in a later
one that is ordered after it. -/
def MadeVisible (t : ResourceTables) (h : History) (m i : ℕ) (x : Target) (n : ℕ) : Prop :=
  ∃ a cb, h.batches[m]? = some a ∧ a.commandBuffers[i]? = some cb ∧
    ((x ∈ exposed t cb ∧ m = n) ∨
      (x ∈ written t cb ∧ h.Before m n ∧ ∃ b j cb', h.batches[n]? = some b ∧
        b.commandBuffers[j]? = some cb' ∧ (m = n → i < j) ∧ hasHostBarrier cb' x = true))

/-- A write of batch `m` that the completion of batch `z` shows to the host. -/
def Due (t : ResourceTables) (h : History) (m : ℕ) (mem : MemoryId) (z : ℕ) : Prop :=
  ∃ i x n, h.MadeVisible t m i x n ∧ x.memory t = some mem ∧ h.Before n z

def isTimeline (h : History) (s : SemaphoreId) : Bool := h.live s = some true

/-- A wait of batch `z` on a binary semaphore. -/
def waitBinary (z : ℕ) (h : History) (s : SemaphoreId) : History :=
  match h.signaled s with
  | some k => { h with
      matched := h.matched ++ [(k, z)], signaled := Function.update h.signaled s none }
  | none =>
    if h.acquiring s then { h with acquiring := Function.update h.acquiring s false }
    else { h with waiting := h.waiting ++ [(s, z)] }

/-- A signal of batch `k` on a binary semaphore. -/
def signalBinary (k : ℕ) (h : History) (s : SemaphoreId) : History :=
  let released := h.waiting.filter fun e => e.1 = s
  { h with
    matched := h.matched ++ released.map fun e => (k, e.2)
    waiting := h.waiting.filter fun e => e.1 ≠ s
    signaled := Function.update h.signaled s (if released.isEmpty then some k else none) }

def batchOf (h : History) (queue : QueueId) (serial : ℕ) (b : Submit) : Batch where
  queue := queue
  serial := serial
  commandBuffers := b.commandBuffers
  waits := (b.waits.filter fun w => h.isTimeline w.semaphore).map
    fun w => (w.semaphore, w.value.getD 0)
  signals := (b.signals.filter fun g => h.isTimeline g.semaphore).map
    fun g => (g.semaphore, g.value.getD 0)

def binaryWaits (h : History) (b : Submit) : List SemaphoreId :=
  (b.waits.map SemaphoreWait.semaphore).filter fun s => !h.isTimeline s

def binarySignals (h : History) (b : Submit) : List SemaphoreId :=
  (b.signals.map SemaphoreSignal.semaphore).filter fun s => !h.isTimeline s

/-- What a batch does to binary semaphores, in order. -/
def binaryEvents (h : History) (b : Submit) : List BinaryEvent :=
  (h.binaryWaits b).map BinaryEvent.wait ++ (h.binarySignals b).map BinaryEvent.signal

def event (n₀ : ℕ) (h : History) (e : ℕ × BinaryEvent) : History :=
  match e.2 with
  | .wait s => h.waitBinary (n₀ + e.1) s
  | .signal s => h.signalBinary (n₀ + e.1) s

/-- The batches of a call are submitted, the first with the given serial. -/
def addBatches (queue : QueueId) (serial : ℕ) (h : History) (bs : List Submit) : History :=
  (tagged h.binaryEvents bs).foldl (event h.batches.length)
    { h with batches := h.batches ++ bs.mapIdx fun i b => h.batchOf queue (serial + i) b }

/-- A fence, if one was given, for the last batch. -/
def setFence (h : History) (fence : Option FenceId) : History :=
  match fence with
  | none => h
  | some f => { h with fences := Function.update h.fences f (some (h.batches.length - 1)) }

/-- The host observes the completion of these batches and acquires this set; `none` stands for
every mapping. -/
def observe (h : History) (completed : List ℕ) (set : Option Writes) : History :=
  { h with
    observed := h.observed ++ completed
    acquired := fun m mem => h.acquired m mem ∨
      ((∀ ws ∈ set, mem ∈ ws) ∧ ∃ z ∈ completed, h.Before m z) }

/-- The batches on a queue. -/
def onQueue (h : History) (q : QueueId) : List ℕ :=
  (List.range h.batches.length).filter fun n => (h.batches[n]?).any fun b => b.queue = q

/-- The batches a timeline semaphore's counter shows to be complete when it has reached `v`:
those that signal no more than that, or the first value from there on. -/
def reached (h : History) (s : SemaphoreId) (v : ℕ) : List ℕ :=
  let values := h.hostSignals ++ h.batches.flatMap Batch.signals
  (List.range h.batches.length).filter fun n => (h.batches[n]?).any fun b =>
    b.signals.any fun e => e.1 = s && (e.2 ≤ v ||
      values.all fun e' => e'.1 ≠ s || e'.2 < v || e.2 ≤ e'.2)

variable {h h' : History} {m n k z y : ℕ}

theorem SameQueue.symm (hs : h.SameQueue m n) : h.SameQueue n m := by
  obtain ⟨a, b, ha, hb, hq⟩ := hs
  exact ⟨b, a, hb, ha, hq.symm⟩

theorem SameQueue.trans (hs : h.SameQueue m n) (hs' : h.SameQueue n z) : h.SameQueue m z := by
  obtain ⟨a, b, ha, hb, hq⟩ := hs
  obtain ⟨b', c, hb', hc, hq'⟩ := hs'
  obtain rfl := Option.some.inj (hb.symm.trans hb')
  exact ⟨a, c, ha, hc, hq.trans hq'⟩

theorem SameQueue.lt (hs : h.SameQueue m n) : n < h.batches.length := by
  obtain ⟨-, b, -, hb, -⟩ := hs
  exact (List.getElem?_eq_some_iff.1 hb).1

theorem Before.extend (hb : h.Before m n) (hs : h.SameQueue n z) (hle : n ≤ z) :
    h.Before m z := by
  cases hb with
  | queue hs' hle' => exact .queue (hs'.trans hs) (hle'.trans hle)
  | hop hb he hs' hle' => exact .hop hb he (hs'.trans hs) (hle'.trans hle)

theorem Before.trans (hb : h.Before m n) (hb' : h.Before n z) : h.Before m z := by
  induction hb' with
  | queue hs hle => exact hb.extend hs hle
  | hop _ he hs hle ih => exact .hop ih he hs hle

theorem Before.mono (hb : h'.Before m n) (hbatches : h'.batches = h.batches)
    (hedge : ∀ k z, h'.Edge k z → h.Edge k z) : h.Before m n := by
  have hsame : ∀ {a b}, h'.SameQueue a b → h.SameQueue a b := by
    intro a b hs
    simpa only [SameQueue, hbatches] using hs
  induction hb with
  | queue hs hle => exact .queue (hsame hs) hle
  | hop _ he hs hle ih => exact .hop ih (hedge _ _ he) (hsame hs) hle

/-- Further batches on one queue. -/
structure Extends (h h' : History) (q : QueueId) : Prop where
  batches : ∃ new, h'.batches = h.batches ++ new ∧ ∀ b ∈ new, b.queue = q
  hostSignals : h'.hostSignals = h.hostSignals
  matched : ∀ k z, (k, z) ∈ h'.matched →
    (k, z) ∈ h.matched ∨ h.batches.length ≤ k ∨ h.batches.length ≤ z

namespace Extends

variable {q : QueueId}

theorem get_old (he : Extends h h' q) (hlt : m < h.batches.length) :
    h'.batches[m]? = h.batches[m]? := by
  obtain ⟨new, hnew, -⟩ := he.batches
  rw [hnew, List.getElem?_append_left hlt]

theorem length_le (he : Extends h h' q) : h.batches.length ≤ h'.batches.length := by
  obtain ⟨new, hnew, -⟩ := he.batches
  simp [hnew]

theorem queue_new (he : Extends h h' q) {b : Batch} (hle : h.batches.length ≤ m)
    (hb : h'.batches[m]? = some b) : b.queue = q := by
  obtain ⟨new, hnew, hq⟩ := he.batches
  rw [hnew, List.getElem?_append_right hle] at hb
  exact hq b (List.mem_of_getElem? hb)

theorem sameQueue_old (he : Extends h h' q) (hm : m < h.batches.length)
    (hn : n < h.batches.length) : h'.SameQueue m n ↔ h.SameQueue m n := by
  simp only [SameQueue, he.get_old hm, he.get_old hn]

/-- Two new batches are on one queue. -/
theorem sameQueue_new (he : Extends h h' q) (hm : h.batches.length ≤ m)
    (hn : h.batches.length ≤ n) (hm' : m < h'.batches.length) (hn' : n < h'.batches.length) :
    h'.SameQueue m n := by
  refine ⟨h'.batches[m], h'.batches[n], List.getElem?_eq_getElem hm',
    List.getElem?_eq_getElem hn', ?_⟩
  rw [he.queue_new hm (List.getElem?_eq_getElem hm'), he.queue_new hn (List.getElem?_eq_getElem hn')]

theorem signals (he : Extends h h' q) {s : SemaphoreId} {u : ℕ} (hs : h.Signals s u) :
    h'.Signals s u := by
  obtain ⟨new, hnew, -⟩ := he.batches
  refine hs.imp (fun hs => he.hostSignals ▸ hs) ?_
  rintro ⟨b, hb, hsb⟩
  exact ⟨b, by simp [hnew, hb], hsb⟩

/-- No edge between earlier batches comes from a later one. -/
theorem edge_old (he : Extends h h' q) (hk : k < h.batches.length) (hz : z < h.batches.length)
    (hedge : h'.Edge k z) : h.Edge k z := by
  obtain ⟨hor, hback⟩ := hedge
  refine ⟨hor.imp (fun hm => ?_) ?_, fun hb => hback ⟨(he.sameQueue_old hk hz).2 hb.1, hb.2⟩⟩
  · rcases he.matched k z hm with hm | hm | hm
    · exact hm
    · omega
    · omega
  · rintro ⟨a, b, s, v, u, ha, hb, hw, hg, hle, hleast⟩
    rw [he.get_old hk] at ha
    rw [he.get_old hz] at hb
    exact ⟨a, b, s, v, u, ha, hb, hw, hg, hle, fun u' hs => hleast u' (he.signals hs)⟩

/-- A write ordered before a batch of the extended history was ordered before it already, or
comes to it through a signal that releases an earlier batch; the sets `N` of the new batches
hold every write ordered before them. -/
theorem before (he : Extends h h' q) {N : ℕ → Writes} {mem : MemoryId}
    (hmono : ∀ y y', h.batches.length ≤ y → y ≤ y' → N y ⊆ N y')
    (hself : h.batches.length ≤ m → mem ∈ N m)
    (hqueue : ∀ x y, x < h.batches.length → h.batches.length ≤ y → h'.SameQueue x y →
      h.Before m x → mem ∈ N y)
    (hwait : ∀ x y, x < h.batches.length → h.batches.length ≤ y → h'.Edge x y →
      h.Before m x → mem ∈ N y)
    (hlocal : ∀ k r x z, h.batches.length ≤ k → r < h.batches.length → h'.Edge k r →
      h'.SameQueue r x → r ≤ x → h'.Edge x z →
      h'.SameQueue r z ∨ (h.batches.length ≤ z ∧ k ≤ z))
    (hb : h'.Before m y) :
    (y < h.batches.length → h.Before m y ∨ ∃ k r, h.batches.length ≤ k ∧
      k < h'.batches.length ∧ r < h.batches.length ∧ h'.Edge k r ∧ mem ∈ N k ∧ h'.SameQueue r y ∧ r ≤ y) ∧
    (h.batches.length ≤ y → mem ∈ N y) := by
  -- a released batch is on another queue than the one that grows
  have hother : ∀ k r x, h.batches.length ≤ k → k < h'.batches.length → r < h.batches.length →
      h'.Edge k r → h'.SameQueue r x → h.batches.length ≤ x → False := by
    intro k r x hk hk' hr hedge hs hx
    have hsame := he.sameQueue_new hk hx hk' hs.lt
    exact hedge.2 ⟨hsame.trans hs.symm, by omega⟩
  have hlt : ∀ {k z}, h'.Before k z → z < h'.batches.length := by
    intro k z hb
    cases hb with
    | queue hs _ => exact hs.lt
    | hop _ _ hs _ => exact hs.lt
  induction hb with
  | @queue y hs hle =>
    refine ⟨fun hy => .inl ?_, fun hy => ?_⟩
    · have hm : m < h.batches.length := by omega
      exact .queue ((he.sameQueue_old hm hy).1 hs) hle
    · rcases Nat.lt_or_ge m h.batches.length with hm | hm
      · have hmm := (he.sameQueue_old hm hm).1 (hs.trans hs.symm)
        exact hqueue m y hm hy hs (.queue hmm le_rfl)
      · exact hmono m y hm hle (hself hm)
  | @hop k₀ z y hb hedge hs hle ih =>
    obtain ⟨ih1, ih2⟩ := ih
    have hk₀ := hlt hb
    refine ⟨fun hy => ?_, fun hy => ?_⟩
    · have hz : z < h.batches.length := by omega
      rcases Nat.lt_or_ge k₀ h.batches.length with hk | hk
      · rcases ih1 hk with hold | ⟨k, r, hk', hkl, hr, her, hmem, hsr, hrle⟩
        · exact .inl (.hop hold (he.edge_old hk hz hedge) ((he.sameQueue_old hz hy).1 hs) hle)
        · rcases hlocal k r k₀ z hk' hr her hsr hrle hedge with hsz | ⟨hz', -⟩
          · refine .inr ⟨k, r, hk', hkl, hr, her, hmem, hsz.trans hs, ?_⟩
            have hnot := hedge.2
            have hkz : h'.SameQueue k₀ z := hsr.symm.trans hsz
            have : k₀ < z := by
              by_contra hge
              exact hnot ⟨hkz, by omega⟩
            omega
          · omega
      · exact .inr ⟨k₀, z, hk, hk₀, hz, hedge, ih2 hk, hs, hle⟩
    · rcases Nat.lt_or_ge z h.batches.length with hz | hz
      · rcases Nat.lt_or_ge k₀ h.batches.length with hk | hk
        · rcases ih1 hk with hold | ⟨k, r, hk', hkl, hr, her, hmem, hsr, hrle⟩
          · have hzz := (he.sameQueue_old hz hz).1 (hs.trans hs.symm)
            exact hqueue z y hz hy hs (.hop hold (he.edge_old hk hz hedge) hzz le_rfl)
          · rcases hlocal k r k₀ z hk' hr her hsr hrle hedge with hsz | ⟨hz', -⟩
            · exact (hother k r y hk' hkl hr her (hsz.trans hs) hy).elim
            · omega
        · exact (hother k₀ z y hk hk₀ hz hedge hs hy).elim
      · have hny := hmono z y hz hle
        rcases Nat.lt_or_ge k₀ h.batches.length with hk | hk
        · rcases ih1 hk with hold | ⟨k, r, hk', hkl, hr, her, hmem, hsr, hrle⟩
          · exact hny (hwait k₀ z hk hz hedge hold)
          · rcases hlocal k r k₀ z hk' hr her hsr hrle hedge with hsz | ⟨-, hkz⟩
            · exact (hother k r z hk' hkl hr her hsz hz).elim
            · exact hny (hmono k z hk' hkz hmem)
        · have hkz : k₀ < z := by
            by_contra hge
            exact hedge.2 ⟨he.sameQueue_new hk hz hk₀ (hs.symm).lt, by omega⟩
          exact hny (hmono k₀ z hk hkz.le (ih2 hk))

end Extends

/-- What a call's events on binary semaphores have made of `h₀` so far. -/
structure Progress (n₀ : ℕ) (h₀ : History) (evs : List (ℕ × BinaryEvent)) (h : History) :
    Prop where
  batches : h.batches = h₀.batches
  hostSignals : h.hostSignals = h₀.hostSignals
  live : h.live = h₀.live
  fences : h.fences = h₀.fences
  observed : h.observed = h₀.observed
  acquired : h.acquired = h₀.acquired
  matched_old : ∀ e ∈ h₀.matched, e ∈ h.matched
  matched : ∀ k z, (k, z) ∈ h.matched → (k, z) ∈ h₀.matched ∨
    (∃ i e j e', k = n₀ + i ∧ (i, e) ∈ evs ∧ z = n₀ + j ∧ (j, e') ∈ evs) ∨
    (∃ i s, z = n₀ + i ∧ (i, BinaryEvent.wait s) ∈ evs ∧ h₀.signaled s = some k) ∨
    (∃ i s, k = n₀ + i ∧ (s, z) ∈ h₀.waiting ∧
      evs.find? (fun e => e.2 = .signal s) = some (i, .signal s))
  signaled : ∀ s y, h.signaled s = some y →
    (h₀.signaled s = some y ∧ ∀ e ∈ evs, e.2 ≠ .wait s ∧ e.2 ≠ .signal s) ∨
    ∃ i, y = n₀ + i ∧ evs.reverse.find? (fun e => e.2 = .signal s) = some (i, .signal s)
  waiting : ∀ s z, (s, z) ∈ h.waiting →
    ((s, z) ∈ h₀.waiting ∧ ∀ e ∈ evs, e.2 ≠ .signal s) ∨
    ∃ i, z = n₀ + i ∧ (i, BinaryEvent.wait s) ∈ evs

namespace Progress

variable {n₀ i : ℕ} {h₀ : History} {evs : List (ℕ × BinaryEvent)} {s : SemaphoreId}

theorem refl (n₀ : ℕ) (h₀ : History) : Progress n₀ h₀ [] h₀ where
  batches := rfl
  hostSignals := rfl
  live := rfl
  fences := rfl
  observed := rfl
  acquired := rfl
  matched_old _ := id
  matched _ _ := .inl
  signaled _ _ hs := .inl ⟨hs, by simp⟩
  waiting _ _ hw := .inl ⟨hw, by simp⟩

theorem matched_snoc (hp : Progress n₀ h₀ evs h) (e : ℕ × BinaryEvent) (hm : (k, z) ∈ h.matched) :
    (k, z) ∈ h₀.matched ∨
    (∃ i e₁ j e₂, k = n₀ + i ∧ (i, e₁) ∈ evs ++ [e] ∧ z = n₀ + j ∧ (j, e₂) ∈ evs ++ [e]) ∨
    (∃ i s, z = n₀ + i ∧ (i, BinaryEvent.wait s) ∈ evs ++ [e] ∧ h₀.signaled s = some k) ∨
    (∃ i s, k = n₀ + i ∧ (s, z) ∈ h₀.waiting ∧
      (evs ++ [e]).find? (fun e => e.2 = .signal s) = some (i, .signal s)) := by
  rcases hp.matched k z hm with hm | ⟨i, e₁, j, e₂, hk, he₁, hz, he₂⟩ | ⟨i, s, hz, hev, hs⟩ |
    ⟨i, s, hk, hw, hev⟩
  · exact .inl hm
  · exact .inr (.inl ⟨i, e₁, j, e₂, hk, List.mem_append_left _ he₁, hz,
      List.mem_append_left _ he₂⟩)
  · exact .inr (.inr (.inl ⟨i, s, hz, List.mem_append_left _ hev, hs⟩))
  · exact .inr (.inr (.inr ⟨i, s, hk, hw, by rw [List.find?_append, hev]; rfl⟩))

theorem signaled_snoc (hp : Progress n₀ h₀ evs h) {e : ℕ × BinaryEvent} {s : SemaphoreId} {y : ℕ}
    (hs : h.signaled s = some y) (hw : e.2 ≠ .wait s) (hg : e.2 ≠ .signal s) :
    (h₀.signaled s = some y ∧ ∀ e' ∈ evs ++ [e], e'.2 ≠ .wait s ∧ e'.2 ≠ .signal s) ∨
    ∃ i, y = n₀ + i ∧
      (evs ++ [e]).reverse.find? (fun e => e.2 = .signal s) = some (i, .signal s) := by
  refine (hp.signaled s y hs).imp (fun ⟨hs, hall⟩ => ⟨hs, fun e' he' => ?_⟩) fun ⟨i, hy, hev⟩ =>
    ⟨i, hy, by simp [hg, hev]⟩
  rcases List.mem_append.1 he' with he' | he'
  · exact hall e' he'
  · exact List.mem_singleton.1 he' ▸ ⟨hw, hg⟩

theorem waiting_snoc (hp : Progress n₀ h₀ evs h) {e : ℕ × BinaryEvent} {s : SemaphoreId} {z : ℕ}
    (hw : (s, z) ∈ h.waiting) (hg : e.2 ≠ .signal s) :
    ((s, z) ∈ h₀.waiting ∧ ∀ e' ∈ evs ++ [e], e'.2 ≠ .signal s) ∨
    ∃ i, z = n₀ + i ∧ (i, BinaryEvent.wait s) ∈ evs ++ [e] := by
  refine (hp.waiting s z hw).imp (fun ⟨hw, hall⟩ => ⟨hw, fun e' he' => ?_⟩) fun ⟨i, hz, hev⟩ =>
    ⟨i, hz, List.mem_append_left _ hev⟩
  rcases List.mem_append.1 he' with he' | he'
  · exact hall e' he'
  · exact List.mem_singleton.1 he' ▸ hg

theorem wait (hp : Progress n₀ h₀ evs h) :
    Progress n₀ h₀ (evs ++ [(i, .wait s)]) (h.waitBinary (n₀ + i) s) := by
  have hold : ∀ {s' y}, s' ≠ s → h.signaled s' = some y → _ := fun {s' y} hs hy =>
    hp.signaled_snoc (e := (i, .wait s)) hy (by simpa using fun h => hs h.symm) (by simp)
  have hwait : ∀ {s' z}, (s', z) ∈ h.waiting → _ := fun {s' z} hw =>
    hp.waiting_snoc (e := (i, .wait s)) hw (by simp)
  unfold waitBinary
  split
  · next k hk =>
    refine ⟨hp.batches, hp.hostSignals, hp.live, hp.fences, hp.observed, hp.acquired,
      fun e he => List.mem_append_left _ (hp.matched_old e he), fun k' z hm => ?_,
      fun s' y hy => ?_, fun s' z hw => hwait hw⟩
    · rcases List.mem_append.1 hm with hm | hm
      · exact hp.matched_snoc _ hm
      · obtain ⟨rfl, rfl⟩ : k' = k ∧ z = n₀ + i := by simpa using hm
        rcases hp.signaled s k' hk with ⟨hs, -⟩ | ⟨j, rfl, hlast⟩
        · exact .inr (.inr (.inl ⟨i, s, rfl, by simp, hs⟩))
        · have hj := List.mem_reverse.1 (List.mem_of_find?_eq_some hlast)
          exact .inr (.inl ⟨j, _, i, .wait s, rfl, List.mem_append_left _ hj, rfl, by simp⟩)
    · by_cases hs : s' = s
      · simp [hs] at hy
      · exact hold hs (by simpa [Function.update_of_ne hs] using hy)
  · next hk =>
    have hne : ∀ {s' y}, h.signaled s' = some y → s' ≠ s := by
      rintro s' y hy rfl
      simp [hk] at hy
    split
    · exact ⟨hp.batches, hp.hostSignals, hp.live, hp.fences, hp.observed, hp.acquired,
        hp.matched_old, fun k' z hm => hp.matched_snoc _ hm, fun s' y hy => hold (hne hy) hy,
        fun s' z hw => hwait hw⟩
    · refine ⟨hp.batches, hp.hostSignals, hp.live, hp.fences, hp.observed, hp.acquired,
        hp.matched_old, fun k' z hm => hp.matched_snoc _ hm, fun s' y hy => hold (hne hy) hy,
        fun s' z hw => ?_⟩
      rcases List.mem_append.1 hw with hw | hw
      · exact hwait hw
      · obtain ⟨rfl, rfl⟩ : s' = s ∧ z = n₀ + i := by simpa using hw
        exact .inr ⟨i, rfl, by simp⟩

theorem signal (hp : Progress n₀ h₀ evs h) :
    Progress n₀ h₀ (evs ++ [(i, .signal s)]) (h.signalBinary (n₀ + i) s) := by
  refine ⟨hp.batches, hp.hostSignals, hp.live, hp.fences, hp.observed, hp.acquired,
    fun e he => List.mem_append_left _ (hp.matched_old e he), fun k z hm => ?_,
    fun s' y hy => ?_, fun s' z hw => ?_⟩
  · rcases List.mem_append.1 hm with hm | hm
    · exact hp.matched_snoc _ hm
    · obtain ⟨hw, rfl⟩ : (s, z) ∈ h.waiting ∧ n₀ + i = k := by
        simpa [and_comm, and_assoc] using hm
      rcases hp.waiting s z hw with ⟨hw, hall⟩ | ⟨j, rfl, hj⟩
      · refine .inr (.inr (.inr ⟨i, s, rfl, hw, ?_⟩))
        have hnone : evs.find? (fun e => e.2 = .signal s) = none :=
          List.find?_eq_none.2 fun e he => by simpa using hall e he
        simp [List.find?_append, hnone]
      · exact .inr (.inl ⟨i, .signal s, j, _, rfl, by simp, rfl, List.mem_append_left _ hj⟩)
  · by_cases hs : s' = s
    · subst hs
      simp only [signalBinary, Function.update_self] at hy
      split at hy
      · exact .inr ⟨i, (Option.some.inj hy).symm, by simp⟩
      · cases hy
    · exact hp.signaled_snoc (by simpa [signalBinary, Function.update_of_ne hs] using hy) (by simp)
        (by simpa using fun h => hs h.symm)
  · obtain ⟨hw, hs⟩ : (s', z) ∈ h.waiting ∧ s' ≠ s := by simpa [signalBinary] using hw
    exact hp.waiting_snoc hw (by simpa using fun h => hs h.symm)

end Progress

theorem progress (n₀ : ℕ) (h₀ : History) (evs : List (ℕ × BinaryEvent)) :
    Progress n₀ h₀ evs (evs.foldl (event n₀) h₀) := by
  induction evs using List.reverseRecOn with
  | nil => exact .refl n₀ h₀
  | append_singleton evs e ih =>
    rw [List.foldl_append]
    obtain ⟨i, s | s⟩ := e
    · exact ih.wait
    · exact ih.signal

end History

end VkRemote.Client
