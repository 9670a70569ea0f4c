import Mathlib.Tactic
import VulkanRemote.Client.Transfer
import VulkanRemote.Lib.Assoc

/-! Host and device sharing a coherent mapping. The world adds to the client's state what
neither side knows: which bytes the host has stored and not yet handed over, which bytes the
device has written and not yet given back, and what the host stored last. -/

namespace VkRemote.Client
open Lib MappedDevice

structure World where
  device : MappedDevice := {}
  /-- Stored by the host through a coherent mapping since the byte was last synchronised. -/
  stored : MemoryId → ℕ → Bool := fun _ _ => false
  /-- Written by the device since the byte last came down. -/
  wrote : MemoryId → ℕ → Bool := fun _ _ => false
  last : MemoryId → ℕ → Byte := fun _ _ => 0

inductive MemoryAction
  | hostStore (mem : MemoryId) (i : ℕ) (v : Byte)
  | deviceWrite (mem : MemoryId) (j : ℕ) (v : Byte)
  | map (mem : MemoryId) (offset : ℕ) (size : Option ℕ) (heap : ℕ → Byte) (net : List Outcome)
  | unmap (mem : MemoryId) (net : List Outcome)
  /-- `stores` is what the host stores while the publish is at work. -/
  | publish (stores : MemoryId → Stores) (net : List Outcome)
  | acquire (ids : Option (Finset MemoryId)) (net : List Outcome)
  | flush (ranges : List MemoryRange) (net : List Outcome)
  | invalidate (ranges : List MemoryRange) (net : List Outcome)

def coveredBy (l : List Interval) (mem : MemoryId) (j : ℕ) : Bool := l.any fun v => v.covers mem j

/-- Byte `j` of the allocation lies in the mapping. -/
def MappedRange.spans (m : MappedRange) (mem : MemoryId) (j : ℕ) : Bool :=
  m.memoryId = mem && m.offset ≤ j && j < m.offset + m.size

/-- What a mapping shows of byte `j` of its allocation. -/
def MappedRange.shows (mem : MemoryId) (j : ℕ) (m : MappedRange) : Option Byte :=
  if m.spans mem j then some (m.shadow (j - m.offset)) else none

/-- What the host reads at byte `j` of an allocation, where a mapping shows it. -/
def MappedDevice.shadowAt (d : MappedDevice) (mem : MemoryId) (j : ℕ) : Option Byte :=
  d.mapped.findSome? (MappedRange.shows mem j)

namespace World

/-- A byte that went up is no longer owed by the host, one that came down not by the device. -/
def after (w : World) (r : Done) : World :=
  { w with
    device := r.device
    stored := fun mem j => w.stored mem j && !coveredBy r.up mem j
    wrote := fun mem j => w.wrote mem j && !coveredBy r.down mem j }

/-- A publish that succeeded synchronises every byte of every live mapping. -/
def published (w : World) : World :=
  { w with stored := fun mem j =>
      w.stored mem j && !w.device.mapped.any fun m => decide m.live && m.spans mem j }

/-- A store that fell inside the operation from `d` shows in a shadow, and the host owes its byte. -/
def noteStores (w : World) (d : MappedDevice) : World :=
  let hit := fun mem j => decide (w.device.shadowAt mem j ≠ d.shadowAt mem j)
  { w with
    stored := fun mem j => hit mem j || w.stored mem j
    last := fun mem j => if hit mem j then (w.device.shadowAt mem j).getD 0 else w.last mem j }

def step (w : World) : MemoryAction → Option World
  | .hostStore mem i v => do
    let k ← w.device.mapped.findIdx? (fun m => m.memoryId = mem)
    let m ← w.device.mapped[k]?
    if i < m.size then
      let m' := { m with shadow := Function.update m.shadow i v }
      let hit := fun mem' j => m.emulatedCoherent && mem' = mem && j = m.offset + i
      some { w with
        device := { w.device with mapped := w.device.mapped.set k m' }
        stored := fun mem' j => hit mem' j || w.stored mem' j
        last := fun mem' j => if hit mem' j then v else w.last mem' j }
    else none
  | .deviceWrite mem j v =>
    let hit := fun mem' j' => decide (mem' = mem ∧ j' = j)
    some { w with
      device := { w.device with
        server := fun mem' j' => if hit mem' j' then v else w.device.server mem' j' }
      wrote := fun mem' j' => hit mem' j' || w.wrote mem' j' }
  | .map mem offset size heap net => some (w.after (mapMemory mem offset size heap w.device net))
  | .unmap mem net => some (w.after (unmapMemory mem w.device net))
  | .publish stores net =>
    let r := publishCoherentMapped stores w.device net
    some ((if r.ok then (w.after r).published else w.after r).noteStores w.device)
  | .acquire ids net => some (w.after (acquireCoherentMapped ids w.device net))
  | .flush ranges net => some (w.after (flushMappedMemoryRanges ranges w.device net))
  | .invalidate ranges net => some (w.after (invalidateMappedMemoryRanges ranges w.device net))

end World

/-! ### What an operation does to no mapping -/

theorem inOrder_preserves {R : MappedDevice → MappedDevice → Prop} (refl : ∀ d, R d d)
    (trans : ∀ d₁ d₂ d₃, R d₁ d₂ → R d₂ d₃ → R d₁ d₃) {ops : List Op}
    (hops : ∀ op ∈ ops, ∀ d net, R d (op d net).device) (d : MappedDevice) (net : List Outcome) :
    R d (inOrder ops d net).device := by
  induction ops generalizing d net with
  | nil => exact refl d
  | cons op ops ih =>
    have hfirst := hops op List.mem_cons_self d net
    simp only [inOrder]
    split
    · exact trans _ _ _ hfirst (ih (fun op' hmem => hops op' (List.mem_cons_of_mem _ hmem)) _ _)
    · exact hfirst

/-- What `f` keeps of a mapping, the whole device keeps. -/
theorem map_runAt {α : Type*} {g : MappedRange → α} {f : Transfer → Transfer × Bool}
    (hf : ∀ t, g (f t).1.m = g t.m) (k : ℕ) (d : MappedDevice) (net : List Outcome) :
    (runAt k f d net).device.mapped.map g = d.mapped.map g := by
  cases hm : d.mapped[k]? with
  | none =>
    simp only [runAt, hm]
  | some m =>
    simp only [runAt, hm]
    exact map_set_of_eq hm (hf _)

theorem map_publishCoherentMapped {α : Type*} {g : MappedRange → α} {stores : MemoryId → Stores}
    (hg : ∀ t : Transfer, g (t.publishMapping (stores t.m.memoryId)).1.m = g t.m) (d : MappedDevice)
    (net : List Outcome) :
    (publishCoherentMapped stores d net).device.mapped.map g = d.mapped.map g := by
  refine inOrder_preserves (R := fun d d' => d'.mapped.map g = d.mapped.map g) (fun _ => rfl)
    (fun _ _ _ h h' => h'.trans h) (fun op hop d net => ?_) d net
  obtain ⟨k, -, rfl⟩ := List.mem_map.1 hop
  exact map_runAt hg k d net

theorem shadowAt_eq (d : MappedDevice) (mem : MemoryId) (j : ℕ) :
    d.shadowAt mem j = (d.mapped.map (MappedRange.shows mem j)).findSome? id := by
  rw [List.findSome?_map]
  rfl

/-- A publish alone changes no shadow. -/
theorem shadowAt_publish (d : MappedDevice) (net : List Outcome) (mem : MemoryId) (j : ℕ) :
    (publishCoherentMapped (fun _ => .none) d net).device.shadowAt mem j = d.shadowAt mem j := by
  rw [shadowAt_eq, shadowAt_eq]
  congr 1
  refine map_publishCoherentMapped (fun t => ?_) d net
  obtain ⟨_, hp, -⟩ := t.publishMapping_spec
  rw [hp.range]
  rfl

theorem World.noteStores_of_eq {w : World} {d : MappedDevice}
    (h : ∀ mem j, w.device.shadowAt mem j = d.shadowAt mem j) : w.noteStores d = w := by
  simp [World.noteStores, h]

/-- Shadow, baseline and server agree about a coherent mapping as far as the two sides'
unsynchronised writes let them. The ghost arguments are indexed by offset in the allocation. -/
structure Synced (m : MappedRange) (server : ℕ → Byte) (stored wrote : ℕ → Bool)
    (last : ℕ → Byte) : Prop where
  host : ∀ i, i < m.size → stored (m.offset + i) = true → m.shadow i = last (m.offset + i)
  device : ∀ i, i < m.size → wrote (m.offset + i) = true →
    m.clean i ∧ stored (m.offset + i) = false
  settled : ∀ i, i < m.size → wrote (m.offset + i) = false →
    m.clean i ∨ stored (m.offset + i) = false → server (m.offset + i) = m.shadow i

/-- Uploads of the shadow; what they replace on the server is another matter. -/
theorem Synced.push {t t' : Transfer} {new : List (ℕ × ℕ)} {stored wrote : ℕ → Bool}
    {last : ℕ → Byte} (h : Synced t.m t.server stored wrote last) (hp : Pushed t t' new)
    (stored' : ℕ → Bool)
    (hkept : ∀ i, ¬ Covered new i → stored' (t.m.offset + i) = stored (t.m.offset + i))
    (hless : ∀ j, stored' j = true → stored j = true) :
    Synced t'.m t'.server stored' wrote last := by
  have hclean : ∀ i, t.m.clean i → t'.m.clean i := by
    intro i hi
    rcases hp.baseline i with hb | ⟨-, hb⟩
    · rw [MappedRange.clean, hp.shadow, hb]
      exact hi
    · rw [MappedRange.clean, hp.shadow, hb]
  refine ⟨?_, ?_, ?_⟩
  · intro i hi hs
    rw [hp.offset] at hs ⊢
    rw [hp.size] at hi
    rw [hp.shadow]
    exact h.host i hi (hless _ hs)
  · intro i hi hw
    rw [hp.offset] at hw ⊢
    rw [hp.size] at hi
    obtain ⟨hc, hs⟩ := h.device i hi hw
    refine ⟨hclean i hc, ?_⟩
    by_contra hs'
    simp [hless _ (by simpa using hs')] at hs
  · intro i hi hw hcs
    rw [hp.offset] at hw hcs ⊢
    rw [hp.size] at hi
    rw [hp.shadow]
    by_cases hcov : Covered new i
    · exact hp.sent i hcov
    · rw [hp.kept _ fun k hk he => hcov (by obtain rfl : i = k := by omega
                                            exact hk)]
      refine h.settled i hi hw (hcs.imp ?_ ?_)
      · intro hc
        rcases hp.baseline i with hb | ⟨hc', -⟩
        · rwa [MappedRange.clean, hp.shadow, hb] at hc
        · exact absurd hc' hcov
      · intro hs
        rwa [hkept i hcov] at hs

/-- A byte the host has not stored keeps its value on the server where the device's writes
are spared. -/
theorem Synced.push_untouched {t t' : Transfer} {new : List (ℕ × ℕ)} {stored wrote : ℕ → Bool}
    {last : ℕ → Byte} (h : Synced t.m t.server stored wrote last) (hp : Pushed t t' new)
    (hin : ∀ i, Covered new i → i < t.m.size ∧
      (wrote (t.m.offset + i) = true → t.server (t.m.offset + i) = t.m.shadow i))
    {j : ℕ} (hj : stored j = false) : t'.server j = t.server j := by
  by_cases hcov : ∃ i, Covered new i ∧ j = t.m.offset + i
  · obtain ⟨i, hi, rfl⟩ := hcov
    obtain ⟨hlt, hw⟩ := hin i hi
    rw [hp.sent i hi]
    cases hwr : wrote (t.m.offset + i) with
    | true => exact (hw hwr).symm
    | false => exact (h.settled i hlt hwr (.inr hj)).symm
  · exact hp.kept j fun i hi he => hcov ⟨i, hi, he⟩

theorem Synced.pull {preserve : Prop} {t t' : Transfer} {new : List (ℕ × ℕ)}
    {stored wrote : ℕ → Bool} {last : ℕ → Byte}
    (h : Synced t.m t.server stored wrote last) (hp : Pulled preserve t t' new)
    (hco : t.m.emulatedCoherent = true)
    (hover : ∀ i, Covered new i → preserve ∨
      (stored (t.m.offset + i) = true → t.server (t.m.offset + i) = t.m.shadow i))
    (wrote' : ℕ → Bool)
    (hkept : ∀ i, ¬ Covered new i → wrote' (t.m.offset + i) = wrote (t.m.offset + i))
    (hless : ∀ i, Covered new i → wrote' (t.m.offset + i) = false) :
    Synced t'.m t'.server stored wrote' last := by
  refine ⟨?_, ?_, ?_⟩
  · intro i hi hs
    rw [hp.offset] at hs ⊢
    rw [hp.size] at hi
    by_cases hcov : Covered new i
    · by_cases hc : preserve → t.m.clean i
      · have hw : wrote (t.m.offset + i) = false := by
          by_contra hw
          have := (h.device i hi (by simpa using hw)).2
          simp [this] at hs
        rw [hp.fetched i hcov hc, ← h.host i hi hs]
        by_cases hpres : preserve
        · exact h.settled i hi hw (.inl (hc hpres))
        · exact (hover i hcov).resolve_left hpres hs
      · obtain ⟨hpres, hd⟩ := Classical.not_imp.1 hc
        rw [hp.preserved i hpres hd]
        exact h.host i hi hs
    · rw [(hp.kept i hcov).1]
      exact h.host i hi hs
  · intro i hi hw
    rw [hp.offset] at hw ⊢
    rw [hp.size] at hi
    have hcov : ¬ Covered new i := fun hc => by simp [hless i hc] at hw
    obtain ⟨hc, hs⟩ := h.device i hi (by rwa [hkept i hcov] at hw)
    refine ⟨?_, hs⟩
    rw [MappedRange.clean, (hp.kept i hcov).1, (hp.kept i hcov).2]
    exact hc
  · intro i hi hw hcs
    rw [hp.offset] at hw hcs ⊢
    rw [hp.size] at hi
    rw [hp.server]
    by_cases hcov : Covered new i
    · by_cases hc : preserve → t.m.clean i
      · rw [hp.fetched i hcov hc]
      · -- the host's byte was kept over what came down
        obtain ⟨hpres, hd⟩ := Classical.not_imp.1 hc
        have hw' : wrote (t.m.offset + i) = false := by
          by_contra hw'
          exact hd (h.device i hi (by simpa using hw')).1
        rcases hcs with hcl | hs
        · rw [hcl, hp.baseline hco i hcov]
        · rw [hp.preserved i hpres hd]
          exact h.settled i hi hw' (.inr hs)
    · rw [(hp.kept i hcov).1]
      refine h.settled i hi (by rwa [hkept i hcov] at hw) (hcs.imp ?_ id)
      intro hcl
      rwa [MappedRange.clean, (hp.kept i hcov).1, (hp.kept i hcov).2] at hcl

/-- The mapping of this allocation, if there is one, is coherent. -/
def Tracked (w : World) (mem : MemoryId) : Prop :=
  ∀ m ∈ w.device.mapped, m.memoryId = mem → m.emulatedCoherent = true

structure Consistent (w : World) : Prop where
  ids : (w.device.mapped.map MappedRange.memoryId).Nodup
  ready : ∀ m ∈ w.device.mapped, m.emulatedCoherent = true → m.transferReady = true
  synced : ∀ m ∈ w.device.mapped, m.emulatedCoherent = true →
    Synced m (w.device.server m.memoryId) (w.stored m.memoryId) (w.wrote m.memoryId)
      (w.last m.memoryId)
  owner : ∀ mem j, w.stored mem j = true →
    ∃ m ∈ w.device.mapped, m.emulatedCoherent = true ∧ m.spans mem j = true

/-- What a client operation may do: it replaces no byte the host has not stored, and a byte it
takes off the host's hands is on the server as last stored. -/
structure Advances (w w' : World) : Prop where
  consistent : Consistent w'
  tracked : ∀ mem, Tracked w mem → Tracked w' mem
  untouched : ∀ mem j, Tracked w mem → w.stored mem j = false →
    w'.device.server mem j = w.device.server mem j
  delivered : ∀ mem j, w.stored mem j = true → w'.stored mem j = false →
    w'.device.server mem j = w.last mem j
  last : w'.last = w.last
  less : ∀ mem j, w'.stored mem j = true → w.stored mem j = true

theorem Consistent.unique {w : World} (h : Consistent w) {m m' : MappedRange}
    (hm : m ∈ w.device.mapped) (hm' : m' ∈ w.device.mapped) (he : m.memoryId = m'.memoryId) :
    m = m' := List.inj_on_of_nodup_map h.ids hm hm' he

theorem Consistent.tracked_of_stored {w : World} (h : Consistent w) {mem : MemoryId} {j : ℕ}
    (hs : w.stored mem j = true) : Tracked w mem := by
  obtain ⟨m, hm, hco, hsp⟩ := h.owner mem j hs
  intro m' hm' he
  have hid : m.memoryId = mem := by
    simp only [MappedRange.spans, Bool.and_eq_true, decide_eq_true_eq] at hsp
    exact hsp.1.1
  rwa [h.unique hm' hm (he.trans hid.symm)]

namespace Advances

theorem refl {w : World} (h : Consistent w) : Advances w w :=
  ⟨h, fun _ ht => ht, fun _ _ _ _ => rfl, fun _ _ h1 h2 => by simp [h1] at h2, rfl,
    fun _ _ h => h⟩

theorem trans {a b c : World} (ha : Consistent a) (h : Advances a b) (h' : Advances b c) :
    Advances a c := by
  refine ⟨h'.consistent, fun mem ht => h'.tracked mem (h.tracked mem ht), ?_, ?_,
    h'.last.trans h.last, fun mem j hs => h.less mem j (h'.less mem j hs)⟩
  · intro mem j ht hs
    have hs' : b.stored mem j = false := by
      by_contra hb
      simp [h.less mem j (by simpa using hb)] at hs
    rw [h'.untouched mem j (h.tracked mem ht) hs', h.untouched mem j ht hs]
  · intro mem j hs hs'
    have ht := ha.tracked_of_stored hs
    cases hb : b.stored mem j with
    | true => rw [h'.delivered mem j hb hs', h.last]
    | false => rw [h'.untouched mem j (h.tracked mem ht) hb, h.delivered mem j hs hb]

end Advances

theorem coveredBy_interval {l : List (ℕ × ℕ)} {m : MappedRange} {mem : MemoryId} {j : ℕ} :
    coveredBy (l.map m.interval) mem j = true ↔
      mem = m.memoryId ∧ ∃ i, Covered l i ∧ j = m.offset + i := by
  have hone : ∀ v : ℕ × ℕ, (m.interval v).covers mem j = true ↔
      mem = m.memoryId ∧ m.offset + v.1 ≤ j ∧ j < m.offset + v.1 + v.2 := by
    intro v
    simp only [Interval.covers, Bool.and_eq_true, decide_eq_true_eq]
    exact ⟨fun h => ⟨h.1.1.symm, h.1.2, h.2⟩, fun h => ⟨⟨h.1.symm, h.2.1⟩, h.2.2⟩⟩
  simp only [coveredBy, List.any_map, List.any_eq_true, Function.comp, hone]
  constructor
  · rintro ⟨v, hv, rfl, h1, h2⟩
    exact ⟨rfl, j - m.offset, ⟨v, hv, by omega, by omega⟩, by omega⟩
  · rintro ⟨rfl, i, ⟨v, hv, h1, h2⟩, rfl⟩
    exact ⟨v, hv, rfl, by omega, by omega⟩

theorem not_coveredBy_of_ne {l : List (ℕ × ℕ)} {m : MappedRange} {mem : MemoryId} (j : ℕ)
    (hne : mem ≠ m.memoryId) : coveredBy (l.map m.interval) mem j = false := by
  by_contra hc
  exact hne (coveredBy_interval.1 (by simpa using hc)).1

theorem not_coveredBy_of_not {l : List (ℕ × ℕ)} {m : MappedRange} {i : ℕ}
    (hi : ¬ Covered l i) : coveredBy (l.map m.interval) m.memoryId (m.offset + i) = false := by
  by_contra hc
  obtain ⟨-, i', hi', he⟩ := coveredBy_interval.1 (by simpa using hc)
  obtain rfl : i = i' := by omega
  exact hi hi'

@[simp] theorem coveredBy_nil (mem : MemoryId) (j : ℕ) : coveredBy [] mem j = false := rfl

/-- The transfer an operation on the mapping at `k` starts from. -/
def World.transferOf (w : World) (m : MappedRange) (net : List Outcome) : Transfer :=
  { m := m, server := w.device.server m.memoryId, net := net }

theorem Consistent.at_set {w : World} (h : Consistent w) {k k' : ℕ} {m m' x : MappedRange}
    (hm : w.device.mapped[k]? = some m) (hx : (w.device.mapped.set k m')[k']? = some x) :
    (k' = k ∧ x = m') ∨
    (k' ≠ k ∧ w.device.mapped[k']? = some x ∧ x.memoryId ≠ m.memoryId) := by
  obtain ⟨hk, hget⟩ := List.getElem?_eq_some_iff.1 hm
  by_cases hne : k' = k
  · subst hne
    rw [List.getElem?_set_self hk] at hx
    exact .inl ⟨rfl, (Option.some.inj hx).symm⟩
  · rw [List.getElem?_set_ne (Ne.symm hne)] at hx
    obtain ⟨hk', hget'⟩ := List.getElem?_eq_some_iff.1 hx
    refine .inr ⟨hne, hx, fun heq => hne ?_⟩
    have hinj := List.nodup_iff_injective_getElem.1 h.ids
    have := @hinj ⟨k', by simpa using hk'⟩ ⟨k, by simpa using hk⟩ (by simp [hget, hget', heq])
    simpa using this

theorem Consistent.mem_set {w : World} (h : Consistent w) {k : ℕ} {m m' x : MappedRange}
    (hm : w.device.mapped[k]? = some m) (hx : x ∈ w.device.mapped.set k m') :
    x = m' ∨ (x ∈ w.device.mapped ∧ x.memoryId ≠ m.memoryId) := by
  obtain ⟨k', hk'⟩ := List.mem_iff_getElem?.1 hx
  rcases h.at_set hm hk' with ⟨-, rfl⟩ | ⟨-, hx', hne⟩
  · exact .inl rfl
  · exact .inr ⟨List.mem_of_getElem? hx', hne⟩

/-- Changing one mapping and the server's copy of its allocation, every other one's stays. -/
theorem Consistent.replace {w w' : World} (h : Consistent w) {k : ℕ} {m m' : MappedRange}
    (hm : w.device.mapped[k]? = some m) (hmapped : w'.device.mapped = w.device.mapped.set k m')
    (hid : m'.memoryId = m.memoryId) (hco : m'.emulatedCoherent = m.emulatedCoherent)
    (hready : m'.transferReady = m.transferReady)
    (hspan : m'.offset = m.offset ∧ m'.size = m.size)
    (hother : ∀ mem, mem ≠ m.memoryId → w'.device.server mem = w.device.server mem ∧
      w'.stored mem = w.stored mem ∧ w'.wrote mem = w.wrote mem ∧ w'.last mem = w.last mem)
    (hless : ∀ j, w'.stored m.memoryId j = true → w.stored m.memoryId j = true ∨
      (m.emulatedCoherent = true ∧ m.spans m.memoryId j = true))
    (hsync : m.emulatedCoherent = true → Synced m' (w'.device.server m.memoryId)
      (w'.stored m.memoryId) (w'.wrote m.memoryId) (w'.last m.memoryId)) :
    Consistent w' := by
  obtain ⟨hk, hget⟩ := List.getElem?_eq_some_iff.1 hm
  have hmem : m ∈ w.device.mapped := List.mem_of_getElem? hm
  have hids : w'.device.mapped.map MappedRange.memoryId =
      w.device.mapped.map MappedRange.memoryId := by
    rw [hmapped, List.map_set, hid, ← hget]
    rw [← List.getElem_map MappedRange.memoryId (h := by simpa using hk)]
    exact List.set_getElem_self _
  have hcases := fun x (hx : x ∈ w'.device.mapped) => h.mem_set hm (hmapped ▸ hx)
  have hm' : m' ∈ w'.device.mapped := by
    rw [hmapped]
    exact List.mem_iff_getElem.2 ⟨k, by simpa using hk, by simp⟩
  have hkeep : ∀ x ∈ w.device.mapped, x.memoryId ≠ m.memoryId → x ∈ w'.device.mapped := by
    intro x hx hne
    obtain ⟨i, hi, rfl⟩ := List.mem_iff_getElem.1 hx
    have hik : k ≠ i := by
      rintro rfl
      exact hne (by rw [hget])
    rw [hmapped]
    refine List.mem_iff_getElem.2 ⟨i, by simpa using hi, ?_⟩
    rw [List.getElem_set_of_ne hik]
  refine ⟨hids ▸ h.ids, ?_, ?_, ?_⟩
  · intro x hx hxco
    rcases hcases x hx with rfl | ⟨hx, -⟩
    · rw [hready]
      exact h.ready m hmem (hco ▸ hxco)
    · exact h.ready x hx hxco
  · intro x hx hxco
    rcases hcases x hx with rfl | ⟨hx, hne⟩
    · rw [hid]
      exact hsync (hco ▸ hxco)
    · obtain ⟨h1, h2, h3, h4⟩ := hother _ hne
      rw [h1, h2, h3, h4]
      exact h.synced x hx hxco
  · intro mem j hs
    have hspans : ∀ mem j, m'.spans mem j = m.spans mem j := by
      intro mem j
      simp only [MappedRange.spans, hid, hspan]
    by_cases hne : mem = m.memoryId
    · subst hne
      rcases hless j hs with hs | ⟨hc, hsp⟩
      · obtain ⟨x, hx, hxco, hxs⟩ := h.owner _ j hs
        have hxid : x.memoryId = m.memoryId := by
          simp only [MappedRange.spans, Bool.and_eq_true, decide_eq_true_eq] at hxs
          exact hxs.1.1
        obtain rfl := h.unique hx hmem hxid
        exact ⟨m', hm', hco.trans hxco, by rw [hspans]; exact hxs⟩
      · exact ⟨m', hm', hco.trans hc, by rw [hspans]; exact hsp⟩
    · rw [(hother mem hne).2.1] at hs
      obtain ⟨x, hx, hxco, hxs⟩ := h.owner mem j hs
      have hxid : x.memoryId = mem := by
        simp only [MappedRange.spans, Bool.and_eq_true, decide_eq_true_eq] at hxs
        exact hxs.1.1
      exact ⟨x, hkeep x hx (hxid ▸ hne), hxco, hxs⟩

theorem tracked_set {w w' : World} {k : ℕ} {m m' : MappedRange}
    (hm : w.device.mapped[k]? = some m) (hmapped : w'.device.mapped = w.device.mapped.set k m')
    (hid : m'.memoryId = m.memoryId) (hco : m'.emulatedCoherent = m.emulatedCoherent)
    {mem : MemoryId} (h : Tracked w mem) : Tracked w' mem := by
  intro x hx hxid
  rw [hmapped] at hx
  rcases List.mem_or_eq_of_mem_set hx with hx | rfl
  · exact h x hx hxid
  · rw [hco]
    exact h m (List.mem_of_getElem? hm) (hid.symm.trans hxid)

theorem runAt_eq {w : World} {k : ℕ} {m : MappedRange} (hm : w.device.mapped[k]? = some m)
    (f : Transfer → Transfer × Bool) (net : List Outcome) :
    runAt k f w.device net =
      { device := { w.device with
          mapped := w.device.mapped.set k (f (w.transferOf m net)).1.m
          server := Function.update w.device.server m.memoryId
            (f (w.transferOf m net)).1.server }
        net := (f (w.transferOf m net)).1.net
        ok := (f (w.transferOf m net)).2
        up := (f (w.transferOf m net)).1.applied.map m.interval
        down := (f (w.transferOf m net)).1.pulled.map m.interval } := by
  simp only [runAt, hm, World.transferOf]

/-- An upload from one mapping that spares what the device has written there. -/
theorem advances_push {w : World} (h : Consistent w) {k : ℕ} {net : List Outcome}
    {f : Transfer → Transfer × Bool} {new : List (ℕ × ℕ)} {m : MappedRange}
    (hm : w.device.mapped[k]? = some m)
    (hp : Pushed (w.transferOf m net) (f (w.transferOf m net)).1 new)
    (hin : m.emulatedCoherent = true → ∀ i, Covered new i → i < m.size ∧
      (w.wrote m.memoryId (m.offset + i) = true →
        w.device.server m.memoryId (m.offset + i) = m.shadow i)) :
    Advances w (w.after (runAt k f w.device net)) := by
  have hmem : m ∈ w.device.mapped := List.mem_of_getElem? hm
  have happ : (f (w.transferOf m net)).1.applied = new := by
    simpa [World.transferOf] using hp.applied
  have hpul : (f (w.transferOf m net)).1.pulled = [] := by
    simpa [World.transferOf] using hp.pulled
  rw [runAt_eq hm, happ, hpul]
  generalize (f (w.transferOf m net)).1 = t' at hp
  have hrange := hp.range
  simp only [World.transferOf] at hrange
  have hless : ∀ mem j, (w.stored mem j && !coveredBy (new.map m.interval) mem j) = true →
      w.stored mem j = true := fun mem j hs => (Bool.and_eq_true_iff.1 hs).1
  refine ⟨?_, ?_, ?_, ?_, rfl, hless⟩
  · refine h.replace hm rfl (by rw [hrange]) (by rw [hrange]) (by rw [hrange])
      (by rw [hrange]; exact ⟨rfl, rfl⟩) ?_ (fun j hs => .inl (hless _ j hs)) ?_
    · intro mem hne
      refine ⟨Function.update_of_ne hne _ _, ?_, ?_, rfl⟩
      · funext j
        simp [World.after, not_coveredBy_of_ne j hne]
      · funext j
        simp [World.after]
    · intro hco
      have hs := (h.synced m hmem hco).push (t := w.transferOf m net) hp
        (fun j => w.stored m.memoryId j && !coveredBy (new.map m.interval) m.memoryId j)
        (fun i hi => by simp [World.transferOf, not_coveredBy_of_not hi]) (hless _)
      simpa [World.after] using hs
  · intro mem ht
    exact tracked_set hm rfl (by rw [hrange]) (by rw [hrange]) ht
  · intro mem j ht hs
    by_cases hne : mem = m.memoryId
    · subst hne
      have hco := ht m hmem rfl
      have := (h.synced m hmem hco).push_untouched (t := w.transferOf m net) hp (hin hco) hs
      simpa [World.after, World.transferOf] using this
    · simp only [World.after, Function.update_of_ne hne]
  · intro mem j hs hs'
    simp only [World.after, hs, Bool.true_and, Bool.not_eq_false'] at hs'
    obtain ⟨rfl, i, hi, rfl⟩ := coveredBy_interval.1 hs'
    have hco := h.tracked_of_stored hs m hmem rfl
    have hsent := hp.sent i hi
    simp only [World.transferOf] at hsent
    simp only [World.after, Function.update_self, hsent]
    exact (h.synced m hmem hco).host i (hin hco i hi).1 hs

/-- A download into one mapping that spares what the host has stored there. -/
theorem advances_pull {w : World} (h : Consistent w) {k : ℕ} {net : List Outcome}
    {f : Transfer → Transfer × Bool} {preserve : Prop} {new : List (ℕ × ℕ)} {m : MappedRange}
    (hm : w.device.mapped[k]? = some m)
    (hp : Pulled preserve (w.transferOf m net) (f (w.transferOf m net)).1 new)
    (hover : m.emulatedCoherent = true → ∀ i, Covered new i → preserve ∨
      (w.stored m.memoryId (m.offset + i) = true →
        w.device.server m.memoryId (m.offset + i) = m.shadow i)) :
    Advances w (w.after (runAt k f w.device net)) := by
  have hmem : m ∈ w.device.mapped := List.mem_of_getElem? hm
  have happ : (f (w.transferOf m net)).1.applied = [] := by
    simpa [World.transferOf] using hp.applied
  have hpul : (f (w.transferOf m net)).1.pulled = new := by
    simpa [World.transferOf] using hp.pulled
  have hserver : (f (w.transferOf m net)).1.server = w.device.server m.memoryId := hp.server
  rw [runAt_eq hm, happ, hpul, hserver, Function.update_eq_self]
  generalize (f (w.transferOf m net)).1 = t' at hp hserver
  have hrange := hp.range
  simp only [World.transferOf] at hrange
  refine ⟨?_, ?_, fun _ _ _ _ => rfl, ?_, rfl, ?_⟩
  · refine h.replace hm rfl (by rw [hrange]) (by rw [hrange]) (by rw [hrange])
      (by rw [hrange]; exact ⟨rfl, rfl⟩) ?_ ?_ ?_
    · intro mem hne
      refine ⟨rfl, ?_, ?_, rfl⟩
      · funext j
        simp [World.after]
      · funext j
        simp [World.after, not_coveredBy_of_ne j hne]
    · intro j hs
      exact .inl (by simpa [World.after] using hs)
    · intro hco
      have hs := (h.synced m hmem hco).pull (t := w.transferOf m net) hp hco (hover hco)
        (fun j => w.wrote m.memoryId j && !coveredBy (new.map m.interval) m.memoryId j)
        (fun i hi => by simp [World.transferOf, not_coveredBy_of_not hi])
        (fun i hi => by simp [World.transferOf, coveredBy_interval.2 ⟨rfl, i, hi, rfl⟩])
      simpa [World.after, hserver] using hs
  · intro mem ht
    exact tracked_set hm rfl (by rw [hrange]) (by rw [hrange]) ht
  · intro mem j hs hs'
    simp [World.after, hs] at hs'
  · intro mem j hs
    simpa [World.after] using hs

end VkRemote.Client
