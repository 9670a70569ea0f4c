import VulkanRemote.Client.Coherence

/-! Every run of host stores, device writes and transfers in which the two sides do not race
and no transfer carries bytes the device has rewritten: the host's stores all arrive and the
client replaces nothing the host has not stored. -/

namespace VkRemote.Client
open Lib MappedDevice

/-- Byte `i` of the mapping lies in a range that falls into the mapping. -/
def MemoryRange.reaches (r : MemoryRange) (m : MappedRange) (i : ℕ) : Prop :=
  m.memoryId = r.memory ∧ m.offset ≤ r.offset ∧ r.offset ≤ m.offset + i ∧ i < m.size ∧
  ∀ n ∈ r.size, r.offset + n ≤ m.offset + m.size ∧ m.offset + i < r.offset + n

instance (r : MemoryRange) (m : MappedRange) (i : ℕ) : Decidable (r.reaches m i) :=
  inferInstanceAs (Decidable (_ ∧ _ ∧ _ ∧ _ ∧ _))

/-- What a Vulkan application guarantees: no byte is written by one side while the other side
still owes it. -/
def RaceFree (w : World) : MemoryAction → Prop
  | .hostStore mem i _ => ∀ m ∈ w.device.mapped, m.memoryId = mem → m.emulatedCoherent = true →
      w.wrote mem (m.offset + i) = false
  | .deviceWrite mem j _ => w.stored mem j = false
  | _ => True

instance (w : World) (a : MemoryAction) : Decidable (RaceFree w a) := by
  cases a <;> unfold RaceFree <;> infer_instance

/-- No byte that goes up without a store by the host, and none that comes down over one, has
been changed on the other side; no write falls on a byte a transfer has left dirty, and no store
falls inside a publish. -/
def Spared (w : World) : MemoryAction → Prop
  | .hostStore mem i v => ∀ m ∈ w.device.mapped, m.memoryId = mem → m.emulatedCoherent = true →
      v = m.baseline i → w.device.server mem (m.offset + i) = v
  | .deviceWrite mem j _ => ∀ m ∈ w.device.mapped, m.memoryId = mem →
      m.emulatedCoherent = true → ∀ i, i < m.size → m.offset + i = j → m.clean i
  | .publish stores _ => (stores = fun _ => .none) ∧
      ∀ m ∈ w.device.mapped, m.live → ∀ i, m.InGap i →
        w.device.server m.memoryId (m.offset + i) = m.shadow i
  | .flush ranges _ => ∀ r ∈ ranges, ∀ m ∈ w.device.mapped, m.emulatedCoherent = true →
      ∀ i, r.reaches m i → w.stored m.memoryId (m.offset + i) = false →
        w.device.server m.memoryId (m.offset + i) = m.shadow i
  | .invalidate ranges _ => ∀ r ∈ ranges, ∀ m ∈ w.device.mapped, m.emulatedCoherent = true →
      ∀ i, r.reaches m i → w.stored m.memoryId (m.offset + i) = true →
        w.device.server m.memoryId (m.offset + i) = m.shadow i
  | .unmap mem net => ∀ m ∈ w.device.mapped, m.memoryId = mem → m.emulatedCoherent = true →
      (∀ i, i < m.size → w.stored mem (m.offset + i) = false →
        w.device.server mem (m.offset + i) = m.shadow i) ∧
      (∀ o ∈ net, o = .ok) ∧
      (m.size ≤ maxMappedChunk ∨ ∃ a, w.device.memories mem = some a ∧
        0 < a.nonCoherentAtomSize ∧ a.nonCoherentAtomSize ≤ maxMappedChunk)
  | _ => True

/-- What the step from `w` to `w'` owes the two sides. -/
structure Sound (w : World) (a : MemoryAction) (w' : World) : Prop where
  untouched : ∀ mem j, Tracked w mem → w.stored mem j = false →
    (∀ v, a ≠ .deviceWrite mem j v) → w'.device.server mem j = w.device.server mem j
  delivered : ∀ mem j, w.stored mem j = true → w'.stored mem j = false →
    w'.device.server mem j = w.last mem j
  held : ∀ mem j, w'.stored mem j = true → ∃ m ∈ w'.device.mapped, ∃ i, i < m.size ∧
    m.memoryId = mem ∧ m.offset + i = j ∧ m.shadow i = w'.last mem j
  published : ∀ stores net, a = .publish stores net →
    (publishCoherentMapped stores w.device net).ok = true → ∀ mem j, w'.stored mem j = false

theorem Consistent.held {w : World} (h : Consistent w) {mem : MemoryId} {j : ℕ}
    (hs : w.stored mem j = true) : ∃ m ∈ w.device.mapped, ∃ i, i < m.size ∧
      m.memoryId = mem ∧ m.offset + i = j ∧ m.shadow i = w.last mem j := by
  obtain ⟨m, hm, hco, hsp⟩ := h.owner mem j hs
  simp only [MappedRange.spans, Bool.and_eq_true, decide_eq_true_eq] at hsp
  obtain ⟨⟨rfl, h1⟩, h2⟩ := hsp
  have hj : m.offset + (j - m.offset) = j := by omega
  refine ⟨m, hm, j - m.offset, by omega, rfl, hj, ?_⟩
  have := (h.synced m hm hco).host (j - m.offset) (by omega)
  rw [hj] at this
  exact this hs

theorem Advances.sound {w w' : World} (h : Advances w w') {a : MemoryAction}
    (hpub : ∀ stores net, a ≠ .publish stores net) : Sound w a w' where
  untouched mem j ht hs _ := h.untouched mem j ht hs
  delivered := h.delivered
  held _ _ hs := h.consistent.held hs
  published stores net ha := absurd ha (hpub stores net)

theorem after_after (w : World) (a b : Done) :
    (w.after a).after b = w.after { b with up := a.up ++ b.up, down := a.down ++ b.down } := by
  simp only [World.after, coveredBy, List.any_append, Bool.not_or, Bool.and_assoc]

theorem after_refl (w : World) (net : List Outcome) :
    w.after { device := w.device, net := net } = w := by
  simp [World.after]

/-- Operations in order: each advances under what its predecessors leave of `I`. -/
theorem advances_inOrder {ι : Type*} {f : ι → Op} {I : List ι → World → Prop}
    (hstep : ∀ x l w net, Consistent w → I (x :: l) w →
      Advances w (w.after (f x w.device net)) ∧
      ((f x w.device net).ok = true → I l (w.after (f x w.device net))))
    {l : List ι} {w : World} (net : List Outcome) (h : Consistent w) (hI : I l w) :
    Advances w (w.after (inOrder (l.map f) w.device net)) ∧
    ((inOrder (l.map f) w.device net).ok = true →
      I [] (w.after (inOrder (l.map f) w.device net))) := by
  induction l generalizing w net with
  | nil =>
    simp only [List.map_nil, inOrder, after_refl]
    exact ⟨.refl h, fun _ => hI⟩
  | cons x l ih =>
    obtain ⟨hadv, hnext⟩ := hstep x l w net h hI
    simp only [List.map_cons, inOrder]
    split
    · next hok =>
      have hrest := @ih (w.after (f x w.device net)) (f x w.device net).net
        hadv.consistent (hnext hok)
      rw [after_after] at hrest
      exact ⟨hadv.trans h hrest.1, hrest.2⟩
    · next hno => exact ⟨hadv, fun hok => absurd hok hno⟩

theorem inOrder_singleton (op : Op) (d : MappedDevice) (net : List Outcome) :
    inOrder [op] d net = op d net := by
  simp only [inOrder, List.append_nil]
  generalize op d net = r
  split
  · next hok =>
    cases r
    simp only at hok
    rw [hok]
  · rfl

theorem runAt_none {w : World} {k : ℕ} (hm : w.device.mapped[k]? = none)
    (f : Transfer → Transfer × Bool) (net : List Outcome) :
    runAt k f w.device net = { device := w.device, net := net } := by
  simp only [runAt, hm]

/-- A mapping after an operation on the one at `k`: that one, or another with the server's copy
and the host's marks as they were. -/
theorem at_after_runAt {w : World} (h : Consistent w) {k k' : ℕ} {m x : MappedRange}
    (hm : w.device.mapped[k]? = some m) {f : Transfer → Transfer × Bool} {net : List Outcome}
    (hx : (w.after (runAt k f w.device net)).device.mapped[k']? = some x) :
    (k' = k ∧ x = (f (w.transferOf m net)).1.m) ∨
    (k' ≠ k ∧ w.device.mapped[k']? = some x ∧ x.memoryId ≠ m.memoryId ∧
      (w.after (runAt k f w.device net)).device.server x.memoryId = w.device.server x.memoryId ∧
      ∀ j, (w.after (runAt k f w.device net)).stored x.memoryId j = w.stored x.memoryId j) := by
  simp only [runAt_eq hm, World.after] at hx ⊢
  refine (h.at_set hm hx).imp_right ?_
  rintro ⟨hne, hx', hid⟩
  exact ⟨hne, hx', hid, Function.update_of_ne hid _ _, fun j => by simp [not_coveredBy_of_ne j hid]⟩

/-- The mappings at `l` are still to be published, every other live one is clean. -/
structure Publishing (l : List ℕ) (w : World) : Prop where
  nodup : l.Nodup
  ahead : ∀ k ∈ l, ∀ m, w.device.mapped[k]? = some m → m.live → ∀ i, m.InGap i →
    w.device.server m.memoryId (m.offset + i) = m.shadow i
  done : ∀ k m, k ∉ l → w.device.mapped[k]? = some m → m.live → ∀ i, i < m.size → m.clean i

theorem publishMapping_clean {t : Transfer} (hlive : (t.publishMapping .none).1.m.live)
    (hok : (t.publishMapping .none).2 = true) {i : ℕ} (hi : i < (t.publishMapping .none).1.m.size) :
    (t.publishMapping .none).1.m.clean i := by
  obtain ⟨new, hp, -, hall⟩ := t.publishMapping_spec
  have hlive' : t.m.live := by
    have := hlive
    rw [hp.range] at this
    exact this
  rw [hp.size] at hi
  rw [MappedRange.clean, hp.shadow]
  by_cases hc : t.m.clean i
  · rcases hp.baseline i with hb | ⟨-, hb⟩
    · rw [hb]
      exact hc
    · rw [hb]
  · rw [(hall hok hlive' i hi hc).2]

theorem advances_publish_at {w : World} {k : ℕ} {l : List ℕ} {net : List Outcome}
    (h : Consistent w) (hI : Publishing (k :: l) w) :
    Advances w (w.after (runAt k (·.publishMapping .none) w.device net)) ∧
    ((runAt k (·.publishMapping .none) w.device net).ok = true →
      Publishing l (w.after (runAt k (·.publishMapping .none) w.device net))) := by
  have hnd := List.nodup_cons.1 hI.nodup
  cases hm : w.device.mapped[k]? with
  | none =>
    rw [runAt_none hm, after_refl]
    refine ⟨.refl h, fun _ => ⟨hnd.2, fun k' hk' => hI.ahead k' (by simp [hk']), ?_⟩⟩
    intro k' m hk' hm'
    refine hI.done k' m (fun hmem => ?_) hm'
    rcases List.mem_cons.1 hmem with rfl | hmem
    · simp [hm] at hm'
    · exact hk' hmem
  | some m =>
    obtain ⟨new, hp, hin, -⟩ := (w.transferOf m net).publishMapping_spec
    refine ⟨advances_push h hm hp fun hco i hi => ?_, fun hok => ⟨hnd.2, ?_, ?_⟩⟩
    · obtain ⟨hlive, hlt, hcase⟩ := hin i hi
      refine ⟨hlt, fun hw => ?_⟩
      rcases hcase with hd | hg
      · exact absurd ((h.synced m (List.mem_of_getElem? hm) hco).device i hlt hw).1 hd
      · exact hI.ahead k (by simp) m hm hlive i hg
    · intro k' hk' x hx hlive i hg
      rcases at_after_runAt h hm hx with ⟨rfl, -⟩ | ⟨-, hx', -, hserver, -⟩
      · exact absurd hk' hnd.1
      · rw [hserver]
        exact hI.ahead k' (by simp [hk']) x hx' hlive i hg
    · intro k' x hk' hx hlive i hi
      rcases at_after_runAt h hm hx with ⟨rfl, rfl⟩ | ⟨hne, hx', -⟩
      · rw [runAt_eq hm] at hok
        exact publishMapping_clean hlive hok hi
      · exact hI.done k' x (by simp [hne, hk']) hx' hlive i hi

/-- Once every live mapping is clean, nothing the host has stored is left to send. -/
theorem advances_published {w : World} (h : Consistent w)
    (hclean : ∀ m ∈ w.device.mapped, m.live → ∀ i, i < m.size → m.clean i) :
    Advances w w.published ∧ ∀ mem j, w.published.stored mem j = false := by
  have hnone : ∀ mem j, w.published.stored mem j = false := by
    intro mem j
    by_contra hs
    obtain ⟨hs, hno⟩ : w.stored mem j = true ∧
        ∀ m ∈ w.device.mapped, m.live → m.spans mem j = false := by
      simpa [World.published] using hs
    obtain ⟨m, hm, hco, hsp⟩ := h.owner mem j hs
    simp [hno m hm ⟨hco, h.ready m hm hco⟩] at hsp
  refine ⟨⟨⟨h.ids, h.ready, ?_, fun mem j hs => by simp [hnone] at hs⟩, fun _ ht => ht,
    fun _ _ _ _ => rfl, ?_, rfl, fun mem j hs => by simp [hnone] at hs⟩, hnone⟩
  · intro m hm hco
    have hsync := h.synced m hm hco
    have hcl := hclean m hm ⟨hco, h.ready m hm hco⟩
    exact ⟨fun i _ hs => by simp [hnone] at hs, fun i hi _ => ⟨hcl i hi, hnone _ _⟩,
      fun i hi hw _ => hsync.settled i hi hw (.inl (hcl i hi))⟩
  · intro mem j hs _
    obtain ⟨m, hm, hco, hsp⟩ := h.owner mem j hs
    simp only [MappedRange.spans, Bool.and_eq_true, decide_eq_true_eq] at hsp
    obtain ⟨⟨rfl, h1⟩, h2⟩ := hsp
    obtain ⟨i, rfl⟩ := Nat.exists_eq_add_of_le h1
    have hi : i < m.size := by omega
    have hsync := h.synced m hm hco
    have hw : w.wrote m.memoryId (m.offset + i) = false := by
      by_contra hw
      simp [(hsync.device i hi (by simpa using hw)).2] at hs
    rw [← hsync.host i hi hs]
    exact hsync.settled i hi hw (.inl (hclean m hm ⟨hco, h.ready m hm hco⟩ i hi))

theorem advances_publish {w : World} (h : Consistent w) (net : List Outcome)
    (hs : ∀ m ∈ w.device.mapped, m.live → ∀ i, m.InGap i →
      w.device.server m.memoryId (m.offset + i) = m.shadow i) :
    Advances w (w.after (publishCoherentMapped (fun _ => .none) w.device net)) ∧
    ((publishCoherentMapped (fun _ => .none) w.device net).ok = true →
      ∀ m ∈ (w.after (publishCoherentMapped (fun _ => .none) w.device net)).device.mapped, m.live →
        ∀ i, i < m.size → m.clean i) := by
  have hI : Publishing (List.range w.device.mapped.length) w := by
    refine ⟨List.nodup_range, fun k _ m hm => hs m (List.mem_of_getElem? hm), ?_⟩
    intro k m hk hm
    simp [(List.getElem?_eq_some_iff.1 hm).1] at hk
  obtain ⟨hadv, hend⟩ := advances_inOrder (I := Publishing)
    (f := fun k => runAt k (·.publishMapping .none))
    (fun k l w net h hI => advances_publish_at h hI) net h hI
  refine ⟨hadv, fun hok m hm => ?_⟩
  obtain ⟨k, hk⟩ := List.mem_iff_getElem?.1 hm
  exact (hend hok).done k m (by simp) hk

theorem sound_publish {w w' : World} (h : Consistent w) {stores : MemoryId → Stores} {net : List Outcome}
    (hc : Spared w (.publish stores net)) (hs : w.step (.publish stores net) = some w') :
    Consistent w' ∧ Sound w (.publish stores net) w' := by
  obtain ⟨rfl, hgap⟩ := hc
  obtain ⟨hadv, hclean⟩ := advances_publish h net hgap
  have hstep : w.step (.publish (fun _ => .none) net) =
      some (if (publishCoherentMapped (fun _ => .none) w.device net).ok then
        (w.after (publishCoherentMapped (fun _ => .none) w.device net)).published
        else w.after (publishCoherentMapped (fun _ => .none) w.device net)) := by
    refine congrArg some (World.noteStores_of_eq fun mem j => ?_)
    rw [← shadowAt_publish w.device net mem j]
    split <;> rfl
  rw [hstep] at hs
  obtain rfl := Option.some.inj hs
  split
  · next hok =>
    obtain ⟨hpub, hnone⟩ := advances_published hadv.consistent (hclean hok)
    have hall := hadv.trans h hpub
    exact ⟨hall.consistent, fun mem j ht hs _ => hall.untouched mem j ht hs, hall.delivered,
      fun _ _ hs => hall.consistent.held hs, fun _ _ _ _ => hnone⟩
  · next hno =>
    refine ⟨hadv.consistent, fun mem j ht hs _ => hadv.untouched mem j ht hs, hadv.delivered,
      fun _ _ hs => hadv.consistent.held hs, ?_⟩
    intro stores' net' he hok
    cases he
    exact absurd hok hno

theorem resolveRange_spec {d : MappedDevice} {r : MemoryRange} {k start size : ℕ}
    (h : d.resolveRange r = some (k, start, size)) :
    ∃ m, d.mapped[k]? = some m ∧ m.memoryId = r.memory ∧ start + size ≤ m.size ∧
      ∀ i, start ≤ i → i < start + size → r.reaches m i := by
  simp only [resolveRange, Option.bind_eq_bind, Option.bind_eq_some_iff] at h
  obtain ⟨k', hfind, m, hm, h⟩ := h
  split_ifs at h with h1 h2 h3
  simp only [Option.some.injEq, Prod.mk.injEq] at h
  obtain ⟨rfl, rfl, rfl⟩ := h
  obtain ⟨hk, hid, -⟩ := List.findIdx?_eq_some_iff_getElem.1 hfind
  have hget : d.mapped[k'] = m := (List.getElem?_eq_some_iff.1 hm).2
  have hid : m.memoryId = r.memory := by simpa [hget] using hid
  refine ⟨m, hm, hid, by omega, fun i hi1 hi2 => ⟨hid, by omega, by omega, by omega, ?_⟩⟩
  intro n hn
  have hn : r.size = some n := hn
  simp only [hn, Option.getD_some] at hi2 h3
  omega

/-- Where the host has stored nothing, the ranges hold what the server has. -/
def Flushable (ranges : List MemoryRange) (w : World) : Prop :=
  ∀ r ∈ ranges, ∀ m ∈ w.device.mapped, m.emulatedCoherent = true → ∀ i, r.reaches m i →
    w.stored m.memoryId (m.offset + i) = false →
    w.device.server m.memoryId (m.offset + i) = m.shadow i

theorem advances_flushRange {w : World} {r : MemoryRange} {l : List MemoryRange}
    {net : List Outcome} (h : Consistent w) (hI : Flushable (r :: l) w) :
    Advances w (w.after (flushRange r w.device net)) ∧
    ((flushRange r w.device net).ok = true →
      Flushable l (w.after (flushRange r w.device net))) := by
  unfold flushRange
  split
  · exact ⟨by simpa [World.after] using Advances.refl h, by simp⟩
  · next k start size hr =>
    obtain ⟨m, hm, -, hfit, hreach⟩ := resolveRange_spec hr
    have hmem := List.mem_of_getElem? hm
    set f : Transfer → Transfer × Bool :=
      fun t => t.flushChunks (w.device.atomSize r.memory) start size 0 size with hf
    obtain ⟨new, hp, hm', hin, -⟩ := (w.transferOf m net).flushChunks_spec
      (w.device.atomSize r.memory) start size 0 size (by omega) (by omega)
    have hin : ∀ i, Covered new i → start ≤ i ∧ i < start + size := by simpa using hin
    have hup : (runAt k f w.device net).up = new.map m.interval := by
      rw [runAt_eq hm]
      simpa [World.transferOf] using congrArg (List.map m.interval) hp.applied
    refine ⟨advances_push h hm hp fun hco i hi => ?_, fun _ r' hr' x hx hco i hi hs => ?_⟩
    · obtain ⟨h1, h2⟩ := hin i hi
      refine ⟨by omega, fun hw => hI r (by simp) m hmem hco i (hreach i h1 h2) ?_⟩
      exact ((h.synced m hmem hco).device i (by omega) hw).2
    · obtain ⟨k', hk'⟩ := List.mem_iff_getElem?.1 hx
      rcases at_after_runAt h hm hk' with ⟨-, rfl⟩ | ⟨-, hx', -, hserver, hstored⟩
      · have hxm : (f (w.transferOf m net)).1.m = m := hm'
        rw [hxm] at hi hs hco ⊢
        by_cases hc : Covered new i
        · have := hp.sent i hc
          simpa [World.after, runAt_eq hm, World.transferOf] using this
        · have hs : w.stored m.memoryId (m.offset + i) = false := by
            simpa [World.after, hup, not_coveredBy_of_not hc] using hs
          have hkept := hp.kept (m.offset + i) fun i' hi' he => hc (by
            obtain rfl : i = i' := by simp only [World.transferOf] at he; omega
            exact hi')
          rw [← hI r' (by simp [hr']) m hmem hco i hi hs]
          simpa [World.after, runAt_eq hm, World.transferOf] using hkept
      · rw [hserver]
        rw [hstored] at hs
        exact hI r' (by simp [hr']) x (List.mem_of_getElem? hx') hco i hi hs

/-- Where the host has stored something, the ranges hold what the server has. -/
def Invalidatable (ranges : List MemoryRange) (w : World) : Prop :=
  ∀ r ∈ ranges, ∀ m ∈ w.device.mapped, m.emulatedCoherent = true → ∀ i, r.reaches m i →
    w.stored m.memoryId (m.offset + i) = true →
    w.device.server m.memoryId (m.offset + i) = m.shadow i

theorem advances_downloadRange {w : World} {r : MemoryRange} {l : List MemoryRange}
    {net : List Outcome} (h : Consistent w) (hI : Invalidatable (r :: l) w) :
    Advances w (w.after (downloadRange r w.device net)) ∧
    ((downloadRange r w.device net).ok = true →
      Invalidatable l (w.after (downloadRange r w.device net))) := by
  unfold downloadRange
  split
  · exact ⟨by simpa [World.after] using Advances.refl h, by simp⟩
  · next k start size hr =>
    obtain ⟨m, hm, -, hfit, hreach⟩ := resolveRange_spec hr
    have hmem := List.mem_of_getElem? hm
    set f : Transfer → Transfer × Bool :=
      fun t => t.downloadChunks (w.device.atomSize r.memory) start size 0 size with hf
    obtain ⟨new, hp, hin, -⟩ := (w.transferOf m net).downloadChunks_spec
      (w.device.atomSize r.memory) start size 0 size (by omega) (by omega)
    have hin : ∀ i, Covered new i → start ≤ i ∧ i < start + size := by simpa using hin
    refine ⟨advances_pull h hm hp fun hco i hi => ?_, fun _ r' hr' x hx hco i hi hs => ?_⟩
    · obtain ⟨h1, h2⟩ := hin i hi
      exact .inr fun hs => hI r (by simp) m hmem hco i (hreach i h1 h2) hs
    · obtain ⟨k', hk'⟩ := List.mem_iff_getElem?.1 hx
      rcases at_after_runAt h hm hk' with ⟨-, rfl⟩ | ⟨-, hx', -, hserver, hstored⟩
      · have hrange : (f (w.transferOf m net)).1.m = { m with
            shadow := (f (w.transferOf m net)).1.m.shadow
            baseline := (f (w.transferOf m net)).1.m.baseline } := hp.range
        have hserver : (f (w.transferOf m net)).1.server = w.device.server m.memoryId :=
          hp.server
        rw [hrange] at hco hi hs ⊢
        simp only [World.after, runAt_eq hm, Function.update_self, hserver]
        have hi : r'.reaches m i := hi
        by_cases hc : Covered new i
        · exact (hp.fetched i hc False.elim).symm
        · have hs : w.stored m.memoryId (m.offset + i) = true := by
            simp only [World.after, Bool.and_eq_true] at hs
            exact hs.1
          refine (hI r' (by simp [hr']) m hmem hco i hi hs).trans ?_
          exact (hp.kept i hc).1.symm
      · rw [hserver]
        rw [hstored] at hs
        exact hI r' (by simp [hr']) x (List.mem_of_getElem? hx') hco i hi hs

theorem advances_acquire {w : World} (h : Consistent w) (ids : Option (Finset MemoryId))
    (net : List Outcome) : Advances w (w.after (acquireCoherentMapped ids w.device net)) := by
  refine (advances_inOrder (I := fun _ _ => True)
    (f := fun k => runAt k (Transfer.acquireMapping ids)) ?_ net h trivial).1
  intro k _ w net h _
  refine ⟨?_, fun _ => trivial⟩
  cases hm : w.device.mapped[k]? with
  | none =>
    rw [runAt_none hm, after_refl]
    exact .refl h
  | some m =>
    obtain ⟨new, hp, -⟩ := (w.transferOf m net).acquireMapping_spec ids
    exact advances_pull h hm hp fun _ _ _ => .inl trivial

theorem advances_flush {w : World} (h : Consistent w) {ranges : List MemoryRange}
    {net : List Outcome} (hs : Spared w (.flush ranges net)) :
    Advances w (w.after (flushMappedMemoryRanges ranges w.device net)) := by
  unfold flushMappedMemoryRanges
  split
  · exact (advances_inOrder (I := Flushable) (fun r l w net h hI => advances_flushRange h hI)
      net h hs).1
  · simpa [World.after] using Advances.refl h

theorem advances_invalidate {w : World} (h : Consistent w) {ranges : List MemoryRange}
    {net : List Outcome} (hs : Spared w (.invalidate ranges net)) :
    Advances w (w.after (invalidateMappedMemoryRanges ranges w.device net)) := by
  unfold invalidateMappedMemoryRanges
  split
  · exact (advances_inOrder (I := Invalidatable)
      (fun r l w net h hI => advances_downloadRange h hI) net h hs).1
  · simpa [World.after] using Advances.refl h

theorem Consistent.mem_dropMapping {w : World} (h : Consistent w) {mem : MemoryId}
    {x : MappedRange} : x ∈ (w.device.dropMapping mem).mapped ↔
      x ∈ w.device.mapped ∧ x.memoryId ≠ mem := by
  have hids := h.ids
  simp only [dropMapping]
  generalize w.device.mapped = l at hids
  induction l with
  | nil => simp
  | cons m l ih =>
    obtain ⟨hm, hnd⟩ := List.nodup_cons.1 (by simpa using hids : (m.memoryId ::
      l.map MappedRange.memoryId).Nodup)
    by_cases heq : m.memoryId = mem
    · rw [List.eraseP_cons_of_pos (by simpa using heq)]
      constructor
      · intro hx
        refine ⟨by simp [hx], fun hxe => hm ?_⟩
        exact List.mem_map.2 ⟨x, hx, hxe.trans heq.symm⟩
      · rintro ⟨hx, hne⟩
        rcases List.mem_cons.1 hx with rfl | hx
        · exact absurd heq hne
        · exact hx
    · rw [List.eraseP_cons_of_neg (by simpa using heq)]
      simp only [List.mem_cons, ih hnd]
      constructor
      · rintro (rfl | ⟨hx, hne⟩)
        · exact ⟨.inl rfl, heq⟩
        · exact ⟨.inr hx, hne⟩
      · rintro ⟨rfl | hx, hne⟩
        · exact .inl rfl
        · exact .inr ⟨hx, hne⟩

/-- A mapping goes once the host is owed nothing through it. -/
theorem advances_drop {w : World} (h : Consistent w) (mem : MemoryId)
    (hnone : ∀ j, w.stored mem j = false) :
    Advances w { w with device := w.device.dropMapping mem } := by
  refine ⟨⟨?_, ?_, ?_, ?_⟩, ?_, fun _ _ _ _ => rfl, fun _ _ h1 h2 => by simp [h1] at h2, rfl,
    fun _ _ hs => hs⟩
  · exact h.ids.sublist ((List.eraseP_sublist).map _)
  · exact fun m hm => h.ready m (h.mem_dropMapping.1 hm).1
  · exact fun m hm => h.synced m (h.mem_dropMapping.1 hm).1
  · intro mem' j hs
    obtain ⟨m, hm, hco, hsp⟩ := h.owner mem' j hs
    refine ⟨m, h.mem_dropMapping.2 ⟨hm, fun heq => ?_⟩, hco, hsp⟩
    simp only [MappedRange.spans, Bool.and_eq_true, decide_eq_true_eq] at hsp
    have hno : w.stored mem' j = false := by rw [← hsp.1.1, heq, hnone]
    simp [hno] at hs
  · exact fun mem' ht m hm => ht m (h.mem_dropMapping.1 hm).1

theorem resolveRange_whole {w : World} (h : Consistent w) {k : ℕ} {m : MappedRange}
    (hm : w.device.mapped[k]? = some m) :
    w.device.resolveRange ⟨m.memoryId, m.offset, some m.size⟩ = some (k, 0, m.size) := by
  obtain ⟨hk, hget⟩ := List.getElem?_eq_some_iff.1 hm
  have hfind : w.device.mapped.findIdx? (fun x => x.memoryId = m.memoryId) = some k := by
    refine List.findIdx?_eq_some_iff_getElem.2 ⟨hk, by simp [hget], fun j hj => ?_⟩
    have hinj := List.nodup_iff_injective_getElem.1 h.ids
    intro heq
    have := @hinj ⟨j, by simp; omega⟩ ⟨k, by simpa using hk⟩ (by simpa [hget] using heq)
    simp only [Fin.mk.injEq] at this
    omega
  simp only [resolveRange, hfind, Option.bind_eq_bind, Option.bind_some, hm]
  simp

/-- A whole mapping that goes up over a network that holds leaves nothing behind. -/
theorem flushed_whole {w : World} (h : Consistent w) {k : ℕ} {m : MappedRange}
    {net : List Outcome} (hm : w.device.mapped[k]? = some m) (hnet : ∀ o ∈ net, o = .ok)
    (hatom : m.size ≤ maxMappedChunk ∨ ∃ a, w.device.memories m.memoryId = some a ∧
      0 < a.nonCoherentAtomSize ∧ a.nonCoherentAtomSize ≤ maxMappedChunk) {i : ℕ}
    (hi : i < m.size) :
    (w.after (flushMapped [⟨m.memoryId, m.offset, some m.size⟩] w.device net)).stored
      m.memoryId (m.offset + i) = false := by
  set f : Transfer → Transfer × Bool :=
    fun t => t.flushChunks (w.device.atomSize m.memoryId) 0 m.size 0 m.size with hf
  have hone : flushMapped [⟨m.memoryId, m.offset, some m.size⟩] w.device net =
      runAt k f w.device net := by
    simp only [flushMapped, List.map_cons, List.map_nil, inOrder_singleton, flushRange,
      resolveRange_whole h hm, hf]
  obtain ⟨new, hp, -, -, hall⟩ := (w.transferOf m net).flushChunks_spec
    (w.device.atomSize m.memoryId) 0 m.size 0 m.size (by omega) (by omega)
  have hok : (f (w.transferOf m net)).2 = true := by
    refine Transfer.flushChunks_ok hnet (hatom.imp id ?_)
    rintro ⟨a, ha, hpos, hle⟩
    exact ⟨_, by simp only [atomSize, ha, Option.map_some], hpos, hle⟩
  have hup : (runAt k f w.device net).up = new.map m.interval := by
    rw [runAt_eq hm]
    simpa [World.transferOf] using congrArg (List.map m.interval) hp.applied
  have hcov : coveredBy (new.map m.interval) m.memoryId (m.offset + i) = true :=
    coveredBy_interval.2 ⟨rfl, i, hall hok i (by omega) (by omega), rfl⟩
  simp only [World.after, hone, hup, hcov, Bool.not_true, Bool.and_false]

theorem advances_unmap {w : World} (h : Consistent w) {mem : MemoryId} {net : List Outcome}
    (hs : Spared w (.unmap mem net)) : Advances w (w.after (unmapMemory mem w.device net)) := by
  unfold unmapMemory
  split
  · next m hfind =>
    have hm := List.mem_of_find?_eq_some hfind
    obtain ⟨rfl, hco⟩ : m.memoryId = mem ∧ m.emulatedCoherent = true := by
      simpa using List.find?_some hfind
    obtain ⟨k, hk⟩ := List.mem_iff_getElem?.1 hm
    obtain ⟨hsame, hnet, hatom⟩ := hs m hm rfl hco
    have hI : Flushable [⟨m.memoryId, m.offset, some m.size⟩] w := by
      intro r hr x hx hxco i hi hstored
      obtain rfl := List.mem_singleton.1 hr
      obtain rfl := h.unique hx hm hi.1
      exact hsame i hi.2.2.2.1 hstored
    have hadv := (advances_inOrder (I := Flushable)
      (fun r l w net h hI => advances_flushRange h hI) net h hI).1
    refine hadv.trans h (advances_drop hadv.consistent m.memoryId fun j => ?_)
    by_contra hj
    have hj : (w.after (flushMapped [⟨m.memoryId, m.offset, some m.size⟩] w.device net)).stored
      m.memoryId j = true := Bool.eq_true_of_not_eq_false hj
    obtain ⟨x, hx, i, hi, hid, rfl, -⟩ := h.held (hadv.less _ _ hj)
    obtain rfl := h.unique hx hm hid
    rw [flushed_whole h hk hnet hatom hi] at hj
    cases hj
  · next hfind =>
    have hnone := List.find?_eq_none.1 hfind
    have hdrop := advances_drop h mem fun j => by
      by_contra hj
      obtain ⟨m, hm, hco, hsp⟩ := h.owner mem j (by simpa using hj)
      simp only [MappedRange.spans, Bool.and_eq_true, decide_eq_true_eq] at hsp
      simpa [hsp.1.1, hco] using hnone m hm
    simpa [World.after] using hdrop

/-- The first download into a mapping that has just been added. -/
theorem download_appended {d : MappedDevice} {m : MappedRange}
    (hfree : ∀ x ∈ d.mapped, x.memoryId ≠ m.memoryId) (net : List Outcome) :
    let r := downloadMapped [⟨m.memoryId, m.offset, some m.size⟩]
      { d with mapped := d.mapped ++ [m] } net
    ∃ m' new, r.device = { d with mapped := d.mapped ++ [m'] } ∧ r.up = [] ∧
      r.down = new.map m.interval ∧
      m' = { m with shadow := m'.shadow, baseline := m'.baseline } ∧
      (r.ok = true → ∀ i, i < m.size →
        Covered new i ∧ m'.shadow i = d.server m.memoryId (m.offset + i)) := by
  have hget : (d.mapped ++ [m])[d.mapped.length]? = some m := by simp
  have hfind : (d.mapped ++ [m]).findIdx? (fun x => x.memoryId = m.memoryId) =
      some d.mapped.length := by
    refine List.findIdx?_eq_some_iff_getElem.2 ⟨by simp, by simp, fun j hj => ?_⟩
    rw [List.getElem_append_left hj]
    simpa using hfree _ (List.getElem_mem hj)
  have hresolve : ({ d with mapped := d.mapped ++ [m] } : MappedDevice).resolveRange
      ⟨m.memoryId, m.offset, some m.size⟩ = some (d.mapped.length, 0, m.size) := by
    simp only [resolveRange, hfind, Option.bind_eq_bind, Option.bind_some, hget]
    simp
  obtain ⟨new, hp, -, hall⟩ :=
    ({ m := m, server := d.server m.memoryId, net := net } : Transfer).downloadChunks_spec
      (d.atomSize m.memoryId) 0 m.size 0 m.size (by omega) (by omega)
  have hserver := hp.server
  have hatom : ({ d with mapped := d.mapped ++ [m] } : MappedDevice).atomSize m.memoryId =
      d.atomSize m.memoryId := rfl
  simp only [downloadMapped, List.map_cons, List.map_nil, inOrder_singleton, downloadRange,
    hresolve, runAt, hget, hatom]
  refine ⟨_, new, ?_, ?_, ?_, hp.range, fun hok i hi => ?_⟩
  · rw [hserver, Function.update_eq_self]
    simp
  · simpa using congrArg (List.map m.interval) hp.applied
  · simpa using congrArg (List.map m.interval) hp.pulled
  · have hcov := hall hok i (by omega) (by simpa using hi)
    exact ⟨hcov, hp.fetched i hcov False.elim⟩

/-- `MapMemory` leaves the mappings there are alone; a coherent one it adds holds what the
server has. -/
theorem mapMemory_spec (d : MappedDevice) (mem : MemoryId) (offset : ℕ) (size : Option ℕ)
    (heap : ℕ → Byte) (net : List Outcome) :
    let r := mapMemory mem offset size heap d net
    r.device.server = d.server ∧ r.up = [] ∧
    (∀ mem' j, coveredBy r.down mem' j = true → mem' = mem ∧ ∀ x ∈ d.mapped, x.memoryId ≠ mem) ∧
    (r.device.mapped = d.mapped ∨ ∃ m, r.device.mapped = d.mapped ++ [m] ∧ m.memoryId = mem ∧
      (∀ x ∈ d.mapped, x.memoryId ≠ mem) ∧
      (m.emulatedCoherent = true → m.transferReady = true ∧ ∀ i, i < m.size →
        m.clean i ∧ m.shadow i = d.server mem (m.offset + i) ∧
        coveredBy r.down mem (m.offset + i) = true)) := by
  dsimp only
  unfold mapMemory
  dsimp only
  split
  · exact ⟨rfl, rfl, by simp, .inl rfl⟩
  · next a ha =>
    split
    · exact ⟨rfl, rfl, by simp, .inl rfl⟩
    · next n hn =>
      split
      · exact ⟨rfl, rfl, by simp, .inl rfl⟩
      · next hfree =>
        have hfree : ∀ x ∈ d.mapped, x.memoryId ≠ mem := by
          intro x hx heq
          simp only [Bool.or_eq_true, List.any_eq_true, not_or, not_exists, not_and] at hfree
          exact hfree.2 x hx (by simpa using heq)
        split
        · next hco =>
          refine ⟨rfl, rfl, by simp, .inr ⟨_, rfl, rfl, hfree, fun h => ?_⟩⟩
          simp only at h
          simp [h] at hco
        · obtain ⟨m', new, hdev, hup, hdown, hrange, hall⟩ := download_appended (m := {
            memoryId := mem, offset := offset, size := n, emulatedCoherent := a.emulatedCoherent
            transferReady := !a.emulatedCoherent, shadow := heap, baseline := fun _ => 0 }) hfree net
          simp only at hdev hup hdown hall
          have hid : m'.memoryId = mem := by rw [hrange]
          have hoff : m'.offset = offset := by rw [hrange]
          have hsize : m'.size = n := by rw [hrange]
          refine ⟨by split <;> simp only [hdev, dropMapping], by split <;> exact hup,
            fun mem' j hj => ?_, ?_⟩
          · split at hj
            all_goals
              rw [hdown] at hj
              exact ⟨(coveredBy_interval.1 hj).1, hfree⟩
          · split
            · next hok =>
              refine .inr ⟨{ m' with baseline := m'.shadow, transferReady := true }, ?_, hid,
                hfree, fun _ => ⟨rfl, fun i (hi : i < m'.size) => ?_⟩⟩
              · simp only [hdev, List.map_append, List.map_cons, List.map_nil, hid, if_true]
                congr 1
                refine (List.map_congr_left fun x hx => ?_).trans (List.map_id _)
                simp only [hfree x hx, if_false, id]
              · obtain ⟨hcov, hval⟩ := hall hok i (by omega)
                refine ⟨rfl, by rw [hoff]; exact hval, ?_⟩
                rw [hdown]
                exact coveredBy_interval.2 ⟨rfl, i, hcov, by rw [hoff]⟩
            · refine .inl ?_
              simp only [hdev, dropMapping]
              rw [List.eraseP_append_right _ (fun x hx => by simpa using hfree x hx)]
              simp [hid]

theorem sound_map {w w' : World} (h : Consistent w) {mem : MemoryId} {offset : ℕ}
    {size : Option ℕ} {heap : ℕ → Byte} {net : List Outcome}
    (hs : w.step (.map mem offset size heap net) = some w') :
    Consistent w' ∧ Sound w (.map mem offset size heap net) w' := by
  obtain rfl := Option.some.inj hs
  obtain ⟨hserver, hup, hdown, hmapped⟩ := mapMemory_spec w.device mem offset size heap net
  generalize mapMemory mem offset size heap w.device net = r at hserver hup hdown hmapped
  have hstored : (w.after r).stored = w.stored := by
    funext mem' j
    simp [World.after, hup]
  have hold : ∀ x ∈ w.device.mapped, (w.after r).wrote x.memoryId = w.wrote x.memoryId := by
    intro x hx
    funext j
    have : coveredBy r.down x.memoryId j = false := by
      by_contra hc
      obtain ⟨heq, hne⟩ := hdown x.memoryId j (Bool.eq_true_of_not_eq_false hc)
      exact hne x hx heq
    simp [World.after, this]
  have hkeep : ∀ x ∈ w.device.mapped, x ∈ r.device.mapped := by
    intro x hx
    rcases hmapped with he | ⟨m, he, -⟩ <;> simp [he, hx]
  have hfresh : ∀ m ∈ r.device.mapped, m ∈ w.device.mapped ∨
      (m.memoryId = mem ∧ (∀ x ∈ w.device.mapped, x.memoryId ≠ mem) ∧
        (m.emulatedCoherent = true → m.transferReady = true ∧ ∀ i, i < m.size →
          m.clean i ∧ m.shadow i = w.device.server mem (m.offset + i) ∧
          coveredBy r.down mem (m.offset + i) = true)) := by
    intro m hm
    rcases hmapped with he | ⟨m', he, hid, hne, hco⟩
    · exact .inl (he ▸ hm)
    · rw [he] at hm
      rcases List.mem_append.1 hm with hm | hm
      · exact .inl hm
      · obtain rfl := List.mem_singleton.1 hm
        exact .inr ⟨hid, hne, hco⟩
  have hcons : Consistent (w.after r) := by
    refine ⟨?_, ?_, ?_, ?_⟩
    · rcases hmapped with he | ⟨m, he, hid, hne, -⟩
      · simpa [World.after, he] using h.ids
      · have : mem ∉ w.device.mapped.map MappedRange.memoryId := by simpa using hne
        simpa [World.after, he, List.nodup_append, h.ids, hid] using this
    · intro m hm hco
      rcases hfresh m hm with hm | ⟨-, -, hnew⟩
      · exact h.ready m hm hco
      · exact (hnew hco).1
    · intro m hm hco
      rw [hstored]
      rcases hfresh m hm with hm | ⟨rfl, hne, hnew⟩
      · rw [hold m hm]
        simpa [World.after, hserver] using h.synced m hm hco
      · have hnone : ∀ j, w.stored m.memoryId j = false := by
          intro j
          by_contra hj
          obtain ⟨x, hx, -, -, hid, -⟩ := h.held (Bool.eq_true_of_not_eq_false hj)
          exact hne x hx hid
        refine ⟨fun i _ hst => by simp [hnone] at hst, fun i hi hw => ?_, fun i hi _ _ => ?_⟩
        · simp [World.after, ((hnew hco).2 i hi).2.2] at hw
        · simpa [World.after, hserver] using ((hnew hco).2 i hi).2.1.symm
    · intro mem' j hst
      rw [hstored] at hst
      obtain ⟨m, hm, hco, hsp⟩ := h.owner mem' j hst
      exact ⟨m, hkeep m hm, hco, hsp⟩
  refine ⟨hcons, ?_, ?_, fun _ _ hst => hcons.held hst, by simp⟩
  · intro mem' j _ _ _
    simp only [World.after, hserver]
  · intro mem' j h1 h2
    rw [hstored, h1] at h2
    cases h2

theorem sound_hostStore {w w' : World} (h : Consistent w) {mem : MemoryId} {i : ℕ} {v : Byte}
    (hrace : RaceFree w (.hostStore mem i v)) (hc : Spared w (.hostStore mem i v))
    (hs : w.step (.hostStore mem i v) = some w') :
    Consistent w' ∧ Sound w (.hostStore mem i v) w' := by
  simp only [World.step, Option.bind_eq_bind, Option.bind_eq_some_iff] at hs
  obtain ⟨k, hfind, m, hm, hs⟩ := hs
  split_ifs at hs with hi
  have hmem := List.mem_of_getElem? hm
  obtain ⟨hk, hid, -⟩ := List.findIdx?_eq_some_iff_getElem.1 hfind
  rw [(List.getElem?_eq_some_iff.1 hm).2] at hid
  obtain rfl : m.memoryId = mem := by simpa using hid
  have hcons : Consistent w' := by
    obtain rfl := Option.some.inj hs
    refine h.replace hm rfl rfl rfl rfl ⟨rfl, rfl⟩ ?_ ?_ fun hco => ?_
    · exact fun mem' hne => ⟨rfl, by funext j; simp [hne], rfl, by funext j; simp [hne]⟩
    · intro j hst
      simp only [Bool.or_eq_true, Bool.and_eq_true, decide_eq_true_eq] at hst
      rcases hst with ⟨⟨hco, -⟩, rfl⟩ | hst
      · exact .inr ⟨hco, by simp [MappedRange.spans, hi]⟩
      · exact .inl hst
    · have hsync := h.synced m hmem hco
      have hw := hrace m hmem rfl hco
      refine ⟨fun i' hi' hst => ?_, fun i' hi' hw' => ?_, fun i' hi' hw' hcs => ?_⟩
      · by_cases heq : i' = i
        · subst heq
          simp [hco]
        · have hne : m.offset + i' ≠ m.offset + i := by omega
          simp only [hco, hne, decide_false, Bool.and_false, Bool.false_or] at hst
          simp only [Function.update_of_ne heq, hne, decide_false, Bool.and_false]
          exact hsync.host i' hi' hst
      · have heq : i' ≠ i := by
          rintro rfl
          simp [hw] at hw'
        have hne : m.offset + i' ≠ m.offset + i := by omega
        obtain ⟨hcl, hst⟩ := hsync.device i' hi' hw'
        exact ⟨by simpa [MappedRange.clean, Function.update_of_ne heq] using hcl,
          by simpa [hne, heq] using hst⟩
      · by_cases heq : i' = i
        · subst heq
          have hv : v = m.baseline i' := by simpa [MappedRange.clean, hco] using hcs
          simpa using hc m hmem rfl hco hv
        · have hne : m.offset + i' ≠ m.offset + i := by omega
          simp only [Function.update_of_ne heq]
          refine hsync.settled i' hi' hw' (hcs.imp (fun hcl => ?_) fun hst => ?_)
          · simpa [MappedRange.clean, Function.update_of_ne heq] using hcl
          · simpa [hne, heq] using hst
  refine ⟨hcons, ?_, ?_, fun _ _ hst => hcons.held hst, by simp⟩
  all_goals obtain rfl := Option.some.inj hs
  · exact fun _ _ _ _ _ => rfl
  · intro mem' j h1 h2
    simp [h1] at h2

theorem sound_deviceWrite {w w' : World} (h : Consistent w) {mem : MemoryId} {j : ℕ} {v : Byte}
    (hrace : RaceFree w (.deviceWrite mem j v)) (hc : Spared w (.deviceWrite mem j v))
    (hs : w.step (.deviceWrite mem j v) = some w') :
    Consistent w' ∧ Sound w (.deviceWrite mem j v) w' := by
  have hrace : w.stored mem j = false := hrace
  have hcons : Consistent w' := by
    obtain rfl := Option.some.inj hs
    refine ⟨h.ids, h.ready, fun m hm hco => ?_, h.owner⟩
    have hsync := h.synced m hm hco
    refine ⟨hsync.host, fun i hi hw => ?_, fun i hi hw hcs => ?_⟩
    · simp only [Bool.or_eq_true, decide_eq_true_eq] at hw
      rcases hw with ⟨hid, hj⟩ | hw
      · refine ⟨hc m hm hid hco i hi hj, ?_⟩
        rw [hid, hj]
        exact hrace
      · exact hsync.device i hi hw
    · simp only [Bool.or_eq_false_iff, decide_eq_false_iff_not] at hw
      simp only [decide_eq_true_eq, hw.1, if_false]
      exact hsync.settled i hi hw.2 hcs
  refine ⟨hcons, ?_, ?_, fun _ _ hst => hcons.held hst, by simp⟩
  all_goals obtain rfl := Option.some.inj hs
  · intro mem' j' _ _ hne
    have : ¬ (mem' = mem ∧ j' = j) := by
      rintro ⟨rfl, rfl⟩
      exact hne v rfl
    simp [this]
  · intro mem' j' h1 h2
    simp only at h2
    rw [h1] at h2
    cases h2

theorem sound_step {w w' : World} {a : MemoryAction} (h : Consistent w) (hrace : RaceFree w a)
    (hc : Spared w a) (hs : w.step a = some w') : Consistent w' ∧ Sound w a w' := by
  cases a with
  | hostStore mem i v => exact sound_hostStore h hrace hc hs
  | deviceWrite mem j v => exact sound_deviceWrite h hrace hc hs
  | map mem offset size heap net => exact sound_map h hs
  | unmap mem net =>
    obtain rfl := Option.some.inj hs
    exact ⟨(advances_unmap h hc).consistent, (advances_unmap h hc).sound (by simp)⟩
  | publish stores net => exact sound_publish h hc hs
  | acquire ids net =>
    obtain rfl := Option.some.inj hs
    have hadv := advances_acquire h ids net
    exact ⟨hadv.consistent, hadv.sound (by simp)⟩
  | flush ranges net =>
    obtain rfl := Option.some.inj hs
    exact ⟨(advances_flush h hc).consistent, (advances_flush h hc).sound (by simp)⟩
  | invalidate ranges net =>
    obtain rfl := Option.some.inj hs
    exact ⟨(advances_invalidate h hc).consistent, (advances_invalidate h hc).sound (by simp)⟩

theorem consistent_init {w : World} (hmapped : w.device.mapped = [])
    (hstored : ∀ mem j, w.stored mem j = false) : Consistent w := by
  refine ⟨by simp [hmapped], by simp [hmapped], by simp [hmapped], fun mem j hs => ?_⟩
  simp [hstored] at hs

/-- In a run without races whose steps spare what the other side has written, every byte the
host has stored and not yet handed over is in the shadow, and every further such step leaves
the server's other bytes alone and delivers the host's. -/
theorem run_coherent {w₀ w : World} {as : List MemoryAction} (hmapped : w₀.device.mapped = [])
    (hstored : ∀ mem j, w₀.stored mem j = false)
    (h : RunWhere World.step (fun w a => RaceFree w a ∧ Spared w a) w₀ as w) :
    (∀ mem j, w.stored mem j = true → ∃ m ∈ w.device.mapped, ∃ i, i < m.size ∧
      m.memoryId = mem ∧ m.offset + i = j ∧ m.shadow i = w.last mem j) ∧
    ∀ a w', RaceFree w a → Spared w a → w.step a = some w' → Sound w a w' := by
  have hcons : Consistent w := h.invariant (consistent_init hmapped hstored)
    fun _ _ _ h hc hs => (sound_step h hc.1 hc.2 hs).1
  exact ⟨fun _ _ => hcons.held, fun a w' hr hc hs => (sound_step hcons hr hc hs).2⟩

/-- Three bytes of coherent memory, with zeros on the server. -/
def threeBytes : World where
  device := { memories := fun mem =>
    if mem = 1 then some { size := 3, emulatedCoherent := true } else none }

theorem run_coherent_store : ∃ w w',
    RunWhere World.step (fun w a => RaceFree w a ∧ Spared w a) threeBytes
      [.map 1 0 none (fun _ => 0) [], .deviceWrite 1 1 9, .hostStore 1 0 7] w ∧
    w.step (.publish (fun _ => .none) []) = some w' ∧ Sound w (.publish (fun _ => .none) []) w' := by
  have hrun : ∃ w, RunWhere World.step (fun w a => RaceFree w a ∧ Spared w a) threeBytes
      [.map 1 0 none (fun _ => 0) [], .deviceWrite 1 1 9, .hostStore 1 0 7] w ∧
      ∀ m ∈ w.device.mapped, m.size = 3 ∧ ∀ b, b < 3 → ¬ m.clean b → b = 0 := by
    refine ⟨_, .snoc (.snoc (.snoc .nil ⟨trivial, trivial⟩ rfl) ⟨by decide, ?_⟩ rfl)
      ⟨by decide, ?_⟩ rfl, by decide⟩
    · unfold Spared
      decide
    · unfold Spared
      decide
  obtain ⟨w, hrun, hone⟩ := hrun
  refine ⟨w, _, hrun, rfl, (run_coherent rfl (fun _ _ => rfl) hrun).2 _ _ trivial ⟨rfl, ?_⟩ rfl⟩
  -- a gap needs two changed bytes
  rintro m hm - i ⟨-, a, b, -, hai, hib, hb, -, -, hdb, -⟩
  obtain ⟨hsize, hdirty⟩ := hone m hm
  have := hdirty b (hsize ▸ hb) hdb
  omega

/-- The host stores bytes 0 and 2, the device byte 1 between them, and a publish puts the
stale byte 1 back. -/
def gapRun : List MemoryAction :=
  [.map 1 0 none (fun _ => 0) [], .hostStore 1 0 7, .hostStore 1 2 7, .deviceWrite 1 1 9]

theorem gap_overwritten : ¬ ∀ w₀ w as a w', w₀.device.mapped = [] →
    (∀ mem j, w₀.stored mem j = false) → RunWhere World.step RaceFree w₀ as w →
    RaceFree w a → w.step a = some w' → Sound w a w' := by
  intro h
  obtain ⟨w, hw⟩ := Option.isSome_iff_exists.1
    (show (runList (checked World.step RaceFree) threeBytes gapRun).isSome from by decide)
  have hobs : (runList (checked World.step RaceFree) threeBytes gapRun).map (fun w =>
      (w.stored 1 1, w.device.server 1 1, w.device.mapped.all (·.emulatedCoherent),
        (w.step (.publish (fun _ => .none) [])).map fun w' => w'.device.server 1 1)) =
      some (false, 9, true, some 0) := by decide
  simp only [hw, Option.map_some, Option.some.injEq, Prod.mk.injEq, List.all_eq_true] at hobs
  obtain ⟨hstored, hnine, hco, hzero⟩ := hobs
  obtain ⟨w', hs, hzero⟩ := Option.map_eq_some_iff.1 hzero
  have hsound := h threeBytes w gapRun (.publish (fun _ => .none) []) w' rfl (fun _ _ => rfl)
    (runWhere_of_checked hw) trivial hs
  have := hsound.untouched 1 1 (fun m hm _ => hco m hm) hstored (by simp)
  rw [hnine, hzero] at this
  exact absurd this (by decide)

end VkRemote.Client
