import VulkanRemote.Client.Completions

/-! The invariant over whole runs, and from it that every observation acquires what is due. The
completions, and the operations on semaphores and fences outside a submit, only take edges and
slots away; a submit is a call, a sparse binding one call for each of its batches. -/

namespace VkRemote.Client

open Lib Metadata History

variable {t : ResourceTables} {md md' : Metadata} {h h' : History} {q : QueueId} {s : SemaphoreId}
  {ws ws' : Writes} {m n : ℕ} {mem : MemoryId} {w w' : QueueWorld} {op : QueueOp} {tl : Bool}

/-- Nothing is submitted: signals by the host and acquired writes may come, the rest may go. -/
structure Narrows (h h' : History) : Prop where
  batches : h'.batches = h.batches
  hostSignals : ∀ e ∈ h.hostSignals, e ∈ h'.hostSignals
  matched : ∀ e ∈ h'.matched, e ∈ h.matched
  waiting : ∀ e ∈ h'.waiting, e ∈ h.waiting
  observed : ∀ n ∈ h.observed, n ∈ h'.observed
  acquired : ∀ m mem, h.acquired m mem → h'.acquired m mem
  signaled : ∀ s k, h'.signaled s = some k → h.signaled s = some k

namespace Narrows

theorem refl (h : History) : Narrows h h :=
  ⟨rfl, fun _ => id, fun _ => id, fun _ => id, fun _ => id, fun _ _ => id, fun _ _ => id⟩

theorem signals (hn : Narrows h h') {u : ℕ} (hs : h.Signals s u) : h'.Signals s u :=
  hs.imp (hn.hostSignals _) fun ⟨b, hb, hu⟩ => ⟨b, hn.batches ▸ hb, hu⟩

theorem sameQueue (hn : Narrows h h') : h'.SameQueue m n ↔ h.SameQueue m n := by
  rw [SameQueue, SameQueue, hn.batches]

theorem before (hn : Narrows h h') (hb : h'.Before m n) : h.Before m n := by
  refine hb.mono hn.batches fun k z hedge => ⟨hedge.1.imp (hn.matched _) ?_, fun hback =>
    hedge.2 (hback.imp_left hn.sameQueue.2)⟩
  rintro ⟨a, b, s, v, u, ha, hb, hw, hg, hle, hleast⟩
  exact ⟨a, b, s, v, u, hn.batches ▸ ha, hn.batches ▸ hb, hw, hg, hle,
    fun u' hu' => hleast u' (hn.signals hu')⟩

theorem visible (hn : Narrows h h') : h'.Visible t m mem ↔ h.Visible t m mem := by
  rw [Visible, Visible, hn.batches]

theorem behind (hn : Narrows h h') (hle : ws ⊆ ws') (hb : h.Behind t n ws) :
    h'.Behind t n ws' := fun m mem hv hbef hacq =>
  hle (hb m mem (hn.visible.1 hv) (hn.before hbef) fun ha => hacq (hn.acquired m mem ha))

theorem completable (hn : Narrows h h') (hc : h.Completable n) : h'.Completable n := by
  intro r a ha hs hle
  obtain ⟨h1, h2⟩ := hc r a (hn.batches ▸ ha) (hn.sameQueue.1 hs) hle
  refine ⟨fun s v hsv => ?_, fun s hw => h2 s (hn.waiting _ hw)⟩
  obtain ⟨u, hu, hvu⟩ := h1 s v hsv
  exact ⟨u, hn.signals hu, hvu⟩

end Narrows

/-- The part of the invariant about one semaphore. -/
structure SemaphoreOk (md : Metadata) (h : History) (s : SemaphoreId) (tl : Bool) : Prop where
  known : ∃ e, md.semaphores s = some e ∧ e.timeline = tl
  values : tl = true → (md.shape s).values.Pairwise (· < ·) ∧
    ∀ u ∈ (md.shape s).values, h.Signals s u
  acquiredValue : tl = true →
    ((md.shape s).acquiredValue = 0 ∨ h.Signals s (md.shape s).acquiredValue) ∧
    ∀ (n : ℕ) (b : Batch) (u : ℕ), h.batches[n]? = some b → (s, u) ∈ b.signals →
      u ≤ (md.shape s).acquiredValue → n ∈ h.observed
  initial : tl = true → ∃ u₀, (s, u₀) ∈ h.hostSignals ∧
    ∀ b ∈ h.batches, ∀ u, (s, u) ∈ b.signals → u₀ < u
  pendingTimeline : tl = true → ∀ (z : ℕ) (b : Batch) (v : ℕ),
    h.batches[z]? = some b → (s, v) ∈ b.waits → (∀ u, h.Signals s u → u < v) →
    ∃ w ∈ (md.shape s).pending, w.value = v ∧ w.queueId = b.queue ∧ w.submissionSerial = b.serial
  pendingBinary : tl = false → ∀ (z : ℕ) (b : Batch),
    h.batches[z]? = some b → (s, z) ∈ h.waiting →
    ∃ w ∈ (md.shape s).pending, w.queueId = b.queue ∧ w.submissionSerial = b.serial

theorem MetadataInv.semaphoreOk (hi : MetadataInv t md h) (hs : h.live s = some tl) : SemaphoreOk md h s tl where
  known := hi.known s tl hs
  values ht := hi.values s (ht ▸ hs)
  acquiredValue ht := hi.acquiredValue s (ht ▸ hs)
  initial ht := hi.initial s (ht ▸ hs)
  pendingTimeline ht := hi.pendingTimeline s (ht ▸ hs)
  pendingBinary ht := hi.pendingBinary s (ht ▸ hs)

/-- An entry whose pending waits shrink no further than the waits met by now. -/
theorem SemaphoreOk.mono (hs : SemaphoreOk md h s tl) (hn : Narrows h h')
    (hknown : (md'.semaphores s).isSome = true) (htl : (md'.shape s).timeline = (md.shape s).timeline)
    (hval : (md'.shape s).values = (md.shape s).values)
    (hacq : (md'.shape s).acquiredValue = (md.shape s).acquiredValue)
    (hpending : ∀ w ∈ (md.shape s).pending,
      (tl = true → ∀ u, h'.Signals s u → u < w.value) → w ∈ (md'.shape s).pending) :
    SemaphoreOk md' h' s tl where
  known := by
    obtain ⟨e, he, rfl⟩ := hs.known
    obtain ⟨e', he'⟩ := Option.isSome_iff_exists.1 hknown
    rw [shape_of_some he, shape_of_some he'] at htl
    exact ⟨e', he', htl⟩
  values ht := by
    rw [hval]
    exact ⟨(hs.values ht).1, fun u hu => hn.signals ((hs.values ht).2 u hu)⟩
  acquiredValue ht := by
    rw [hacq]
    refine ⟨(hs.acquiredValue ht).1.imp_right hn.signals, fun n b u hb hu hle => ?_⟩
    exact hn.observed n ((hs.acquiredValue ht).2 n b u (hn.batches ▸ hb) hu hle)
  initial ht := by
    obtain ⟨u₀, hu₀, hinit⟩ := hs.initial ht
    exact ⟨u₀, hn.hostSignals _ hu₀, fun b hb => hinit b (hn.batches ▸ hb)⟩
  pendingTimeline ht z b v hb hv hunmet := by
    obtain ⟨w, hw, rfl, hq⟩ := hs.pendingTimeline ht z b v (hn.batches ▸ hb) hv
      fun u hu => hunmet u (hn.signals hu)
    exact ⟨w, hpending w hw fun _ => hunmet, rfl, hq⟩
  pendingBinary ht z b hb hz := by
    obtain ⟨w, hw, hq⟩ := hs.pendingBinary ht z b (hn.batches ▸ hb) (hn.waiting _ hz)
    exact ⟨w, hpending w hw fun h => by simp [h] at ht, hq⟩

theorem SemaphoreOk.same (hs : SemaphoreOk md h s tl) (hn : Narrows h h')
    (heq : md'.semaphores s = md.semaphores s) : SemaphoreOk md' h' s tl := by
  have hshape : md'.shape s = md.shape s := by rw [Metadata.shape, heq]; rfl
  obtain ⟨e, he, -⟩ := hs.known
  exact hs.mono hn (by rw [heq, he]; rfl) (by rw [hshape]) (by rw [hshape]) (by rw [hshape])
    fun w hw _ => hshape ▸ hw

/-- The invariant, where nothing is submitted. -/
theorem MetadataInv.change (hi : MetadataInv t md h) (hn : Narrows h h')
    (hserial : md.nextSubmissionSerial ≤ md'.nextSubmissionSerial)
    (hsem : ∀ s tl, h'.live s = some tl → SemaphoreOk md' h' s tl)
    (hslots : ∀ c (n : ℕ) (b : Batch), h'.Speaks c n → h.batches[n]? = some b →
      n ∈ h'.observed ∨ (h.Speaks c n ∧ ∀ q k ws, md.Carries c q k ws → md'.Carries c q k ws) ∨
        ∃ ws, md'.Carries c b.queue b.serial ws ∧ h'.Behind t n ws)
    (hfences : ∀ f n, h'.fences f = some n → n < h.batches.length)
    (hobs : ∀ n ∈ h'.observed, n ∈ h.observed ∨
      (n < h.batches.length ∧ h.Completable n ∧ h'.Behind t n ∅)) : MetadataInv t md' h' where
  serial_lt n b hb := (hi.serial_lt n b (hn.batches ▸ hb)).trans_le hserial
  serial_mono m n a b ha hb := hi.serial_mono m n a b (hn.batches ▸ ha) (hn.batches ▸ hb)
  known s tl hs := (hsem s tl hs).known
  covers c n b hc hb := by
    rw [hn.batches] at hb
    rcases hslots c n b hc hb with ho | ⟨hold, hcarries⟩ | hnew
    · exact .inl ho
    · refine (hi.covers c n b hold hb).imp (hn.observed n) fun ⟨ws, hws, hbeh⟩ => ?_
      exact ⟨ws, hcarries _ _ _ hws, hn.behind (Finset.Subset.refl _) hbeh⟩
    · exact .inr hnew
  observed n ho := by
    rw [hn.batches]
    rcases hobs n ho with ho | ⟨hlt, hc, hb⟩
    · obtain ⟨hlt, hc, hb⟩ := hi.observed n ho
      exact ⟨hlt, hn.completable hc, hn.behind (Finset.Subset.refl _) hb⟩
    · exact ⟨hlt, hn.completable hc, hb⟩
  values s hs := (hsem s true hs).values rfl
  acquiredValue s hs := (hsem s true hs).acquiredValue rfl
  initial s hs := (hsem s true hs).initial rfl
  pendingTimeline s hs := (hsem s true hs).pendingTimeline rfl
  pendingBinary s hs := (hsem s false hs).pendingBinary rfl
  fence_lt f n hf := by
    rw [hn.batches]
    exact hfences f n hf
  signaled_lt s k hs := by
    rw [hn.batches]
    exact hi.signaled_lt s k (hn.signaled s k hs)
  waiting_lt s z hz := by
    rw [hn.batches]
    exact hi.waiting_lt s z (hn.waiting _ hz)
  matched_lt k z hm := by
    rw [hn.batches]
    exact hi.matched_lt k z (hn.matched _ hm)

def Slot.semaphore : Slot → Option SemaphoreId
  | .binary s => some s
  | .timeline s _ => some s
  | _ => none

theorem carries_congr {c : Slot} {k : ℕ} (hc : md.Carries c q k ws)
    (hq : ∀ q, md'.queueWrites q = md.queueWrites q)
    (hf : ∀ f, md'.fenceWrites f = md.fenceWrites f)
    (hs : ∀ s, c.semaphore = some s → md'.semaphores s = md.semaphores s) :
    md'.Carries c q k ws := by
  cases c with
  | queue q' => exact hc.imp_right fun h => by rw [hq, h]
  | fence f =>
    simp only [Metadata.Carries, hf]
    exact hc
  | binary s =>
    simp only [Metadata.Carries, hs s rfl]
    exact hc
  | timeline s u =>
    simp only [Metadata.Carries, hs s rfl]
    exact hc

theorem speaks_live {c : Slot} (hc : h'.Speaks c n) (hb : ∀ k : ℕ, h'.batches[k]? = h.batches[k]?)
    (hf : ∀ f, h'.fences f = h.fences f) (hsig : ∀ s, h'.signaled s = h.signaled s)
    (hl : ∀ s, c.semaphore = some s → h'.live s = h.live s) : h.Speaks c n := by
  cases c with
  | queue q' =>
    simp only [Speaks, hb] at hc
    exact hc
  | fence f =>
    simp only [Speaks, hf] at hc
    exact hc
  | binary s =>
    simp only [Speaks, hsig, hl s rfl] at hc
    exact hc
  | timeline s u =>
    simp only [Speaks, hb, hl s rfl] at hc
    exact hc

theorem MetadataInv.createSemaphore (hi : MetadataInv t md h) (v : ℕ) (hnone : md.semaphores s = none)
    (hun : h.Unnamed s) : MetadataInv t (md.createSemaphore s tl) (h.createSemaphore s tl v) := by
  obtain ⟨-, hsignaled, -, hwaiting, hbatches⟩ := hun
  have hn : Narrows h (h.createSemaphore s tl v) := by
    refine ⟨rfl, fun e he => ?_, fun _ => id, fun _ => id, fun _ => id, fun _ _ => id,
      fun _ _ => id⟩
    simp only [History.createSemaphore]
    split
    · exact List.mem_append_left _ he
    · exact he
  have hnew : md.createSemaphore s tl = md.update s fun e => { e with timeline := tl } := rfl
  have hshape : (md.createSemaphore s tl).shape s = ⟨tl, [], 0, []⟩ := by
    rw [hnew, shape_update, if_pos rfl, hnone]
    rfl
  refine hi.change hn le_rfl (fun s' tl' hlive => ?_) (fun c n b hc hb => .inr (.inl ?_))
    hi.fence_lt (fun n ho => .inl ho)
  · by_cases hs : s' = s
    · subst hs
      obtain rfl : tl = tl' := by simpa [History.createSemaphore] using hlive
      refine ⟨⟨_, by rw [hnew, update_self], rfl⟩, fun _ => ?_, fun _ => ?_, fun ht => ⟨v, ?_, ?_⟩,
        fun _ z b v' hb hv => ?_, fun _ z b _ hz => ?_⟩
      · simp [hshape]
      · rw [hshape]
        refine ⟨.inl rfl, fun n b u hb hu => ?_⟩
        exact absurd rfl ((hbatches b (List.mem_of_getElem? hb)).2 _ hu)
      · simp [History.createSemaphore, ht]
      · exact fun b hb u hu => absurd rfl ((hbatches b hb).2 _ hu)
      · exact absurd rfl ((hbatches b (List.mem_of_getElem? hb)).1 _ hv)
      · exact absurd rfl (hwaiting _ hz)
    · have hlive' : h.live s' = some tl' := by
        simpa [History.createSemaphore, Function.update_of_ne hs] using hlive
      exact (hi.semaphoreOk hlive').same hn (update_of_ne _ _ hs)
  · have hne : ∀ s', c.semaphore = some s' → s' ≠ s := by
      rintro s' hs' rfl
      cases c with
      | queue q' => cases hs'
      | fence f => cases hs'
      | binary s =>
        obtain rfl := Option.some.inj hs'
        have := hc.2
        simp [History.createSemaphore, hsignaled] at this
      | timeline s u =>
        obtain rfl := Option.some.inj hs'
        obtain ⟨-, b', hb', hu⟩ := hc
        exact absurd rfl ((hbatches b' (List.mem_of_getElem? hb')).2 _ hu)
    exact ⟨speaks_live hc (fun _ => rfl) (fun _ => rfl) (fun _ => rfl)
        fun s' hs' => Function.update_of_ne (hne s' hs') _ _,
      fun q k ws hcar => carries_congr hcar (fun _ => rfl) (fun _ => rfl)
        fun s' hs' => update_of_ne _ _ (hne s' hs')⟩

theorem MetadataInv.destroySemaphore (hi : MetadataInv t md h) (s : SemaphoreId) :
    MetadataInv t (md.destroySemaphore s) (h.destroySemaphore s) := by
  have hn : Narrows h (h.destroySemaphore s) :=
    ⟨rfl, fun _ => id, fun _ => id, fun _ => id, fun _ => id, fun _ _ => id, fun _ _ => id⟩
  have hlive : ∀ {s' tl}, (h.destroySemaphore s).live s' = some tl → s' ≠ s := by
    rintro s' tl hs rfl
    simp [History.destroySemaphore] at hs
  refine hi.change hn le_rfl (fun s' tl hs => ?_) (fun c n b hc hb => .inr (.inl ?_))
    hi.fence_lt (fun n ho => .inl ho)
  · have hne := hlive hs
    have hs' : h.live s' = some tl := by
      simpa [History.destroySemaphore, Function.update_of_ne hne] using hs
    exact (hi.semaphoreOk hs').same hn (Function.update_of_ne hne _ _)
  · have hne : ∀ s', c.semaphore = some s' → s' ≠ s := by
      intro s' hs'
      cases c with
      | queue q' => cases hs'
      | fence f => cases hs'
      | binary s => exact Option.some.inj hs' ▸ hlive hc.1
      | timeline s u => exact Option.some.inj hs' ▸ hlive hc.1
    exact ⟨speaks_live hc (fun _ => rfl) (fun _ => rfl) (fun _ => rfl)
        fun s' hs' => Function.update_of_ne (hne s' hs') _ _,
      fun q k ws hcar => carries_congr hcar (fun _ => rfl) (fun _ => rfl)
        fun s' hs' => Function.update_of_ne (hne s' hs') _ _⟩

theorem MetadataInv.signalSemaphore (hi : MetadataInv t md h) (hs : h.live s = some true) (v : ℕ) :
    MetadataInv t (md.signalSemaphore s v) (h.signalSemaphore s v) := by
  have hn : Narrows h (h.signalSemaphore s v) :=
    ⟨rfl, fun e he => List.mem_append_left _ he, fun _ => id, fun _ => id, fun _ => id,
      fun _ _ => id, fun _ _ => id⟩
  obtain ⟨e, he, htl⟩ := hi.known s true hs
  have hnew : md.signalSemaphore s v = md.update s fun e =>
      { e with pendingWaits := e.pendingWaits.filter fun w => !decide (w.value ≤ v) } := by
    simp only [Metadata.signalSemaphore, he]
  refine hi.change hn (by rw [hnew]; exact le_rfl) (fun s' tl hs' => ?_) (fun c n b hc _ =>
    .inr (.inl ?_)) hi.fence_lt (fun n ho => .inl ho)
  · have hok := hi.semaphoreOk hs'
    by_cases hss : s' = s
    · subst hss
      have hshape : (md.signalSemaphore s' v).shape s' = { md.shape s' with
          pending := (md.shape s').pending.filter fun w => !decide (w.value ≤ v) } := by
        rw [hnew, shape_update, if_pos rfl]
        rfl
      obtain rfl : tl = true := Option.some.inj (hs'.symm.trans hs)
      refine hok.mono hn (by rw [hnew, update_self]; rfl) (by rw [hshape]) (by rw [hshape])
        (by rw [hshape]) fun w hw hunmet => ?_
      rw [hshape]
      have := hunmet rfl v (.inl (by simp [History.signalSemaphore]))
      simp [hw, this]
    · exact hok.same hn (by rw [hnew, update_of_ne _ _ hss])
  · refine ⟨speaks_live hc (fun _ => rfl) (fun _ => rfl) (fun _ => rfl) fun _ _ => rfl,
      fun q k ws hcar => ?_⟩
    rw [hnew]
    cases c with
    | queue q' => exact hcar
    | fence f => exact hcar
    | binary s' =>
      by_cases hss : s' = s
      · subst hss
        obtain ⟨p, hp, hrest⟩ := hcar
        exact ⟨_, update_self _ _ _, by simpa [hp] using hrest⟩
      · exact carries_congr hcar (fun _ => rfl) (fun _ => rfl) fun s'' hs'' =>
          update_of_ne _ _ (Option.some.inj hs'' ▸ hss)
    | timeline s' u =>
      by_cases hss : s' = s
      · subst hss
        obtain ⟨p, hp, hrest⟩ := hcar
        exact ⟨_, update_self _ _ _, by simpa [hp] using hrest⟩
      · exact carries_congr hcar (fun _ => rfl) (fun _ => rfl) fun s'' hs'' =>
          update_of_ne _ _ (Option.some.inj hs'' ▸ hss)

/-- The history alone, where signals and fences may only be taken away. -/
theorem MetadataInv.narrow (hi : MetadataInv t md h) (hn : Narrows h h') (hlive : h'.live = h.live)
    (hobs : h'.observed = h.observed) (hf : ∀ f n, h'.fences f = some n → h.fences f = some n) :
    MetadataInv t md h' := by
  refine hi.change hn le_rfl (fun s tl hs => (hi.semaphoreOk (hlive ▸ hs)).same hn rfl)
    (fun c n b hc _ => .inr (.inl ⟨?_, fun _ _ _ => id⟩))
    (fun f n hfn => hi.fence_lt f n (hf f n hfn)) (fun n ho => .inl (hobs ▸ ho))
  cases c with
  | queue q' =>
    simp only [Speaks, hn.batches] at hc
    exact hc
  | fence f => exact hf f n hc
  | binary s => exact ⟨hlive ▸ hc.1, hn.signaled s n hc.2⟩
  | timeline s u =>
    simp only [Speaks, hn.batches, hlive] at hc
    exact hc

theorem MetadataInv.setFence (hi : MetadataInv t md h) (fence : Option FenceId) {b : Batch}
    {p : PendingCoherentWrites} (hb : h.batches[h.batches.length - 1]? = some b)
    (hq : p.queueId = b.queue) (hserial : b.serial ≤ p.submissionSerial)
    (hbehind : h.batches.length - 1 ∈ h.observed ∨
      h.Behind t (h.batches.length - 1) p.memoryIds) :
    MetadataInv t (md.setFence fence p) (h.setFence fence) := by
  cases fence with
  | none => exact hi
  | some f =>
    have hn : Narrows h (h.setFence (some f)) :=
      ⟨rfl, fun _ => id, fun _ => id, fun _ => id, fun _ => id, fun _ _ => id, fun _ _ => id⟩
    refine hi.change hn le_rfl (fun s tl hs => (hi.semaphoreOk hs).same hn rfl)
      (fun c n b' hc hb' => ?_) (fun f' n hf => ?_) (fun n ho => .inl ho)
    · by_cases hcf : c = .fence f
      · subst hcf
        obtain rfl : n = h.batches.length - 1 := by
          have hf : Function.update h.fences f (some (h.batches.length - 1)) f = some n := hc
          simpa using hf.symm
        obtain rfl := Option.some.inj (hb.symm.trans hb')
        refine hbehind.imp id fun hbeh => .inr ⟨p.memoryIds, ⟨p, ?_, hq, hserial, rfl⟩,
          hn.behind (Finset.Subset.refl _) hbeh⟩
        simp [Metadata.setFence]
      · refine .inr (.inl ?_)
        cases c with
        | queue q' => exact ⟨hc, fun _ _ _ => id⟩
        | fence f' =>
          have hne : f' ≠ f := fun h => hcf (h ▸ rfl)
          simp only [Speaks, History.setFence, Function.update_of_ne hne] at hc
          refine ⟨hc, fun q k ws hcar => ?_⟩
          simp only [Metadata.Carries, Metadata.setFence, Function.update_of_ne hne]
          exact hcar
        | binary s => exact ⟨hc, fun _ _ _ => id⟩
        | timeline s u => exact ⟨hc, fun _ _ _ => id⟩
    · by_cases hff : f' = f
      · subst hff
        have hn' : n = h.batches.length - 1 := by
          simpa [History.setFence] using hf.symm
        have := (List.getElem?_eq_some_iff.1 hb).1
        omega
      · exact hi.fence_lt f' n (by simpa [History.setFence, Function.update_of_ne hff] using hf)

theorem MetadataInv.resetFences (hi : MetadataInv t md h) (fences : List FenceId) :
    MetadataInv t (md.dropFences fences) (h.resetFences fences) := by
  have hn : Narrows h (h.resetFences fences) :=
    ⟨rfl, fun _ => id, fun _ => id, fun _ => id, fun _ => id, fun _ _ => id, fun _ _ => id⟩
  have hkept : ∀ {f n}, (h.resetFences fences).fences f = some n → f ∉ fences ∧
      h.fences f = some n := by
    intro f n hf
    by_cases hmem : f ∈ fences <;> simp_all [History.resetFences]
  refine hi.change hn le_rfl (fun s tl hs => (hi.semaphoreOk hs).same hn rfl)
    (fun c n b hc _ => .inr (.inl ?_)) (fun f n hf => hi.fence_lt f n (hkept hf).2)
    (fun n ho => .inl ho)
  cases c with
  | fence f =>
    obtain ⟨hmem, hf⟩ := hkept hc
    refine ⟨hf, fun q k ws hcar => ?_⟩
    simp only [Metadata.Carries, dropFences, if_neg hmem]
    exact hcar
  | queue q' => exact ⟨hc, fun _ _ _ => id⟩
  | binary s => exact ⟨hc, fun _ _ _ => id⟩
  | timeline s u => exact ⟨hc, fun _ _ _ => id⟩

/-- What an observation leaves, once its set is acquired. -/
theorem MetadataInv.observe (hi : MetadataInv t md h) {completed : List ℕ} {set : Option Writes}
    (hc : ∀ z ∈ completed, z < h.batches.length ∧ h.Completable z)
    (hsound : ∀ z ∈ completed, ∀ m mem, h.Visible t m mem → h.Before m z →
      (∀ ws ∈ set, mem ∈ ws) ∨ h.acquired m mem)
    (hserial : md.nextSubmissionSerial ≤ md'.nextSubmissionSerial)
    (hsem : ∀ s tl, h.live s = some tl → SemaphoreOk md' (h.observe completed set) s tl)
    (hslots : ∀ c (n : ℕ) (b : Batch), h.Speaks c n → h.batches[n]? = some b →
      n ∈ completed ∨ ∀ q k ws, md.Carries c q k ws → md'.Carries c q k ws) :
    MetadataInv t md' (h.observe completed set) := by
  have hn : Narrows h (h.observe completed set) :=
    ⟨rfl, fun _ => id, fun _ => id, fun _ => id, fun n ho => List.mem_append_left _ ho,
      fun _ _ => .inl, fun _ _ => id⟩
  refine hi.change hn hserial hsem (fun c n b hspeaks hb => ?_) hi.fence_lt (fun n ho => ?_)
  · have hold : h.Speaks c n := speaks_live hspeaks (fun _ => rfl) (fun _ => rfl)
      (fun _ => rfl) fun _ _ => rfl
    exact (hslots c n b hold hb).imp (fun hz => List.mem_append_right _ hz)
      fun hcar => .inl ⟨hold, hcar⟩
  · refine (List.mem_append.1 ho).imp_right fun hz => ⟨(hc n hz).1, (hc n hz).2, ?_⟩
    intro m mem hv hbef hacq
    have hbef := hn.before hbef
    refine absurd ?_ hacq
    rcases hsound n hz m mem (hn.visible.1 hv) hbef with hmem | hacq'
    · exact .inr ⟨hmem, n, hz, hbef⟩
    · exact .inl hacq'

theorem mem_onQueue {z : ℕ} : z ∈ h.onQueue q ↔ ∃ b, h.batches[z]? = some b ∧ b.queue = q := by
  simp only [onQueue, List.mem_filter, List.mem_range, Option.any_eq_true, decide_eq_true_eq]
  constructor
  · exact fun hz => hz.2
  · rintro ⟨b, hb, hq⟩
    exact ⟨(List.getElem?_eq_some_iff.1 hb).1, b, hb, hq⟩

theorem mem_fenceSet {fences : List FenceId} {f : FenceId} {p : PendingCoherentWrites}
    (hf : f ∈ fences) (hp : md.fenceWrites f = some p) (hmem : mem ∈ p.memoryIds) :
    mem ∈ md.fenceSet fences := by
  have hle : ∀ (l : List FenceId) (ws : Writes), ws ⊆ l.foldl
      (fun ws f => ws ∪ ((md.fenceWrites f).map PendingCoherentWrites.memoryIds).getD ∅) ws := by
    intro l
    induction l with
    | nil => exact fun ws => Finset.Subset.refl _
    | cons f l ih => exact fun ws => Finset.subset_union_left.trans (ih _)
  obtain ⟨pre, post, rfl⟩ := List.append_of_mem hf
  rw [fenceSet, List.foldl_append, List.foldl_cons]
  refine hle post _ (Finset.mem_union_right _ ?_)
  simpa [hp] using hmem

theorem mem_timelineSet {e : SemaphoreProvenance} {r : TimelineSignalWrites} {v : ℕ}
    (he : md.semaphores s = some e) (hr : r ∈ e.timelineWrites) (hv : r.value ≤ v)
    (hmem : mem ∈ r.memoryIds) : mem ∈ md.timelineSet s v := by
  have hle : ∀ (l : List TimelineSignalWrites) (ws : Writes),
      ws ⊆ l.foldl (fun ws r => ws ∪ r.memoryIds) ws := by
    intro l
    induction l with
    | nil => exact fun ws => Finset.Subset.refl _
    | cons r l ih => exact fun ws => Finset.subset_union_left.trans (ih _)
  have hfil : r ∈ e.timelineWrites.filter fun r => r.value ≤ v := by simp [hr, hv]
  obtain ⟨pre, post, hl⟩ := List.append_of_mem hfil
  simp only [timelineSet, he]
  rw [hl, List.foldl_append, List.foldl_cons]
  exact hle post _ (Finset.mem_union_right _ hmem)

/-- Where the value waited for was given to the semaphore, the batches a reached counter shows to
be complete are those that signal no more. -/
theorem mem_reached {v z : ℕ} (hv : h.Signals s v) (hz : z ∈ h.reached s v) :
    ∃ b u, h.batches[z]? = some b ∧ (s, u) ∈ b.signals ∧ u ≤ v := by
  simp only [reached, List.mem_filter, Option.any_eq_true, List.any_eq_true] at hz
  obtain ⟨-, b, hb, ⟨s', u⟩, hu, hcond⟩ := hz
  simp only [Bool.and_eq_true, decide_eq_true_eq, Bool.or_eq_true, List.all_eq_true] at hcond
  obtain ⟨rfl, hcond⟩ := hcond
  refine ⟨b, u, hb, hu, hcond.elim id fun hall => ?_⟩
  have hmem : (s', v) ∈ h.hostSignals ++ h.batches.flatMap Batch.signals := by
    simpa [Signals] using hv
  simpa using hall (s', v) hmem

theorem reached_of_le {v z u : ℕ} {b : Batch} (hb : h.batches[z]? = some b)
    (hu : (s, u) ∈ b.signals) (hle : u ≤ v) : z ∈ h.reached s v := by
  simp only [reached, List.mem_filter, List.mem_range, Option.any_eq_true, List.any_eq_true]
  exact ⟨(List.getElem?_eq_some_iff.1 hb).1, b, hb, (s, u), hu, by simp [hle]⟩

theorem completed_lt (hi : MetadataInv t w.client w.history) {z : ℕ} (hz : z ∈ w.completed op) :
    z < w.history.batches.length := by
  cases op with
  | queueWaitIdle q =>
    obtain ⟨b, hb, -⟩ := mem_onQueue.1 hz
    exact (List.getElem?_eq_some_iff.1 hb).1
  | deviceWaitIdle => simpa [QueueWorld.completed] using hz
  | fencesSignaled fences =>
    obtain ⟨f, -, hf⟩ := List.mem_filterMap.1 hz
    exact hi.fence_lt f z hf
  | timelineReached s v =>
    have hz' := (List.mem_filter.1 hz).1
    simpa using hz'
  | _ => cases hz

/-- What is visible and ordered before a completed batch is handed over, or was acquired. -/
theorem handed_of_before (hi : MetadataInv t w.client w.history) (hok : w.Attributed t op)
    (he : w.Enabled op) {z : ℕ} (hz : z ∈ w.completed op) (hv : w.history.Visible t m mem)
    (hb : w.history.Before m z) :
    (∀ ws ∈ w.handed op, mem ∈ ws) ∨ w.history.acquired m mem := by
  refine or_iff_not_imp_right.2 fun hacq => ?_
  obtain ⟨b, hbz⟩ : ∃ b, w.history.batches[z]? = some b :=
    ⟨_, List.getElem?_eq_getElem (completed_lt hi hz)⟩
  cases op with
  | queueWaitIdle q =>
    obtain ⟨b', hb', rfl⟩ := mem_onQueue.1 hz
    obtain ⟨ws, ⟨-, rfl⟩, hmem⟩ :=
      hi.carried (c := .queue b'.queue) ⟨b', hb', rfl⟩ hb' hv hb hacq
    simpa [QueueWorld.handed] using hmem
  | deviceWaitIdle => simp [QueueWorld.handed]
  | fencesSignaled fences =>
    obtain ⟨f, hf, hfz⟩ := List.mem_filterMap.1 hz
    obtain ⟨ws, ⟨p, hp, -, -, rfl⟩, hmem⟩ := hi.carried (c := .fence f) hfz hbz hv hb hacq
    simpa [QueueWorld.handed] using mem_fenceSet hf hp hmem
  | timelineReached s v =>
    obtain ⟨b', u, hb', hu, hle⟩ := mem_reached hok.1 hz
    obtain ⟨ws, ⟨e, hes, r, hr, rfl, -, -, rfl⟩, hmem⟩ :=
      hi.carried (c := .timeline s u) ⟨he.1, b', hb', hu⟩ hb' hv hb hacq
    simpa [QueueWorld.handed] using mem_timelineSet hes hr hle hmem
  | _ => cases hz

theorem completable_of_enabled (he : w.Enabled op) {z : ℕ} (hz : z ∈ w.completed op) :
    w.history.Completable z := by
  cases op with
  | queueWaitIdle q => exact he z hz
  | deviceWaitIdle => exact he z hz
  | fencesSignaled fences => exact he z hz
  | timelineReached s v => exact he.2 z hz
  | _ => cases hz

theorem MetadataInv.noteTimeline (hi : MetadataInv t md h) {v : ℕ} (hlive : h.live s = some true)
    (hv : h.Signals s v) (hcomp : ∀ z ∈ h.reached s v, h.Completable z)
    (hsound : ∀ z ∈ h.reached s v, ∀ m mem, h.Visible t m mem → h.Before m z →
      (∀ ws ∈ some (md.timelineSet s v), mem ∈ ws) ∨ h.acquired m mem) :
    MetadataInv t (md.noteTimeline s v (md.timelineSet s v))
      (h.observe (h.reached s v) (some (md.timelineSet s v))) := by
  obtain ⟨e, he, htl⟩ := hi.known s true hlive
  have hnew : md.noteTimeline s v (md.timelineSet s v) = md.update s fun e => { e with
      acquiredTimelineValue := max e.acquiredTimelineValue v
      acquiredTimelineWrites := e.acquiredTimelineWrites ∪ md.timelineSet s v
      timelineWrites := e.timelineWrites.filter fun r => !decide (r.value ≤ v) } := by
    simp only [Metadata.noteTimeline, he]
  have hlt : ∀ z ∈ h.reached s v, z < h.batches.length := fun z hz => by
    simpa using (List.mem_filter.1 hz).1
  have hn : Narrows h (h.observe (h.reached s v) (some (md.timelineSet s v))) :=
    ⟨rfl, fun _ => id, fun _ => id, fun _ => id, fun n ho => List.mem_append_left _ ho,
      fun _ _ => .inl, fun _ _ => id⟩
  have hval : ((md.noteTimeline s v (md.timelineSet s v)).shape s).values =
      (md.shape s).values.filter fun u => !decide (u ≤ v) := by
    rw [hnew, shape_update, if_pos rfl, shape_of_some he]
    simp [he, SemaphoreProvenance.shape, List.filter_map, Function.comp_def]
  have hacq : ((md.noteTimeline s v (md.timelineSet s v)).shape s).acquiredValue =
      max (md.shape s).acquiredValue v := by
    rw [hnew, shape_update, if_pos rfl]
    rfl
  have hpend : ((md.noteTimeline s v (md.timelineSet s v)).shape s).pending =
      (md.shape s).pending := by
    rw [hnew, shape_update, if_pos rfl]
    rfl
  refine hi.observe (fun z hz => ⟨hlt z hz, hcomp z hz⟩) hsound (by rw [hnew]; exact le_rfl)
    (fun s' tl hs' => ?_) (fun c n b hc hb => ?_)
  · have hok := hi.semaphoreOk hs'
    by_cases hss : s' = s
    · subst hss
      obtain rfl : tl = true := Option.some.inj (hs'.symm.trans hlive)
      refine ⟨⟨_, by rw [hnew, update_self], by simpa [he] using htl⟩, fun _ => ?_, fun _ => ?_,
        fun _ => hi.initial s' hlive, fun _ z b v' hb hw hunmet => ?_, fun hf => by cases hf⟩
      · obtain ⟨hsorted, hvals⟩ := hi.values s' hlive
        rw [hval]
        exact ⟨hsorted.filter _, fun u hu => hn.signals (hvals u (List.mem_filter.1 hu).1)⟩
      · obtain ⟨hgiven, hseen⟩ := hi.acquiredValue s' hlive
        rw [hacq]
        refine ⟨?_, fun n b u hb hu hle => ?_⟩
        · rcases le_total (md.shape s').acquiredValue v with hle | hle
          · exact .inr (by rw [max_eq_right hle]; exact hn.signals hv)
          · rw [max_eq_left hle]
            exact hgiven.imp_right hn.signals
        · rcases le_max_iff.1 hle with hle | hle
          · exact List.mem_append_left _ (hseen n b u hb hu hle)
          · exact List.mem_append_right _ (reached_of_le hb hu hle)
      · rw [hpend]
        exact hi.pendingTimeline s' hlive z b v' hb hw hunmet
    · exact hok.same hn (by rw [hnew, update_of_ne _ _ hss])
  · by_cases hcs : c.semaphore = some s
    · cases c with
      | queue q' => cases hcs
      | fence f => cases hcs
      | binary s' =>
        obtain rfl := Option.some.inj hcs
        have := hc.1
        simp [hlive] at this
      | timeline s' u =>
        obtain rfl := Option.some.inj hcs
        obtain ⟨-, b', hb', hu⟩ := hc
        by_cases hle : u ≤ v
        · exact .inl (reached_of_le hb' hu hle)
        · refine .inr ?_
          rintro q k ws ⟨e', he', r, hr, hru, hrest⟩
          obtain rfl := Option.some.inj (he.symm.trans he')
          rw [hnew]
          refine ⟨_, update_self _ _ _, r, ?_, hru, hrest⟩
          simp only [he, Option.getD_some, List.mem_filter]
          exact ⟨hr, by simpa [hru] using hle⟩
    · refine .inr fun q k ws hcar => ?_
      rw [hnew]
      exact carries_congr hcar (fun _ => rfl) (fun _ => rfl) fun s' hs' =>
        update_of_ne _ _ fun h => hcs (h ▸ hs')

/-- A completion keeps the invariant. -/
theorem MetadataInv.completion (hi : MetadataInv t w.client w.history) (hok : w.Attributed t op)
    (he : w.Enabled op) (hop : w.historyAfter op = w.history.observe (w.completed op) (w.handed op))
    (hserial : w.client.nextSubmissionSerial ≤ (w.clientAfter t op).nextSubmissionSerial)
    (hsem : ∀ s, (w.clientAfter t op).semaphores s = w.client.semaphores s)
    (hslots : ∀ c (n : ℕ) (b : Batch), w.history.Speaks c n → w.history.batches[n]? = some b →
      n ∈ w.completed op ∨ ∀ q k ws, w.client.Carries c q k ws →
        (w.clientAfter t op).Carries c q k ws) :
    MetadataInv t (w.clientAfter t op) (w.historyAfter op) := by
  rw [hop]
  have hn : Narrows w.history (w.history.observe (w.completed op) (w.handed op)) :=
    ⟨rfl, fun _ => id, fun _ => id, fun _ => id, fun n ho => List.mem_append_left _ ho,
      fun _ _ => .inl, fun _ _ => id⟩
  exact hi.observe (fun z hz => ⟨completed_lt hi hz, completable_of_enabled he hz⟩)
    (fun z hz m mem hv hb => handed_of_before hi hok he hz hv hb) hserial
    (fun s tl hs => (hi.semaphoreOk hs).same hn (hsem s)) hslots

theorem MetadataInv.serials (hi : MetadataInv t md h) {md' : Metadata}
    (hserial : md.nextSubmissionSerial ≤ md'.nextSubmissionSerial)
    (hsem : ∀ s, md'.semaphores s = md.semaphores s) (hq : ∀ q, md'.queueWrites q = md.queueWrites q)
    (hf : ∀ f, md'.fenceWrites f = md.fenceWrites f) : MetadataInv t md' h :=
  hi.change (.refl h) hserial (fun s _ hs => (hi.semaphoreOk hs).same (.refl h) (hsem s))
    (fun _ _ _ hc _ => .inr (.inl ⟨hc, fun _ _ _ hcar => carries_congr hcar hq hf
      fun s _ => hsem s⟩)) hi.fence_lt fun _ => .inl

theorem batchesOf_ne_nil (bs : List Submit) : batchesOf bs ≠ [] := by
  unfold batchesOf
  split
  · simp
  · next h => simpa using h

theorem queueSubmit_batchesOf (t : ResourceTables) (md : Metadata) (q : QueueId)
    (bs : List Submit) (fence : Option FenceId) :
    md.queueSubmit t q bs fence = md.queueSubmit t q (batchesOf bs) fence := by
  unfold batchesOf
  split
  · next h =>
    obtain rfl : bs = [] := by simpa using h
    simp [queueSubmit, plan, planBatches, planBatch, planWaits, commandBufferWrites, takeSerials,
      lastSerial]
  · rfl

theorem queueBindSparse_bindingsOf (md : Metadata) (q : QueueId) (infos : List BindInfo)
    (fence : Option FenceId) :
    md.queueBindSparse q infos fence = md.queueBindSparse q (bindingsOf infos) fence := by
  unfold bindingsOf
  split
  · next h =>
    obtain rfl : infos = [] := by simpa using h
    rfl
  · rfl

theorem named_batchesOf {bs : List Submit} (hn : h.Named bs) : h.Named (batchesOf bs) := by
  unfold batchesOf
  split
  · intro b hb
    obtain rfl := List.mem_singleton.1 hb
    simp
  · exact hn

theorem MetadataInv.queueSubmit (hi : MetadataInv t md h) {bs : List Submit} (fence : Option FenceId)
    (hbs : bs ≠ []) (hnamed : h.Named bs)
    (hok : CallOk md h (h.addBatches q md.nextSubmissionSerial bs) bs) :
    MetadataInv t (md.queueSubmit t q bs fence)
      ((h.addBatches q md.nextSubmissionSerial bs).setFence fence) := by
  have hp := planned_plan t md q bs
  have hpos : 0 < bs.length := List.length_pos_iff.2 hbs
  have k : CallStep t (md.takeSerials bs) ((md.takeSerials bs).commitQueue q (md.plan t q bs)) h q
      md.nextSubmissionSerial bs _ _ _ _ (md.plan t q bs).nextQueueWrites := {
    inv := hi.serials (Nat.le_add_right _ _) (fun _ => rfl) (fun _ => rfl) fun _ => rfl
    planned := ⟨hp.mono, hp.start, hp.self, hp.learned, hp.unresolved, hp.consumed,
      hp.signals.imp fun _ _ hf => ⟨hf.semaphoreId, hf.timeline, hf.value, hf.submissionSerial,
        hf.memoryIds⟩⟩
    named := hnamed
    ok := ⟨hok.ascending, hok.above, hok.binaryWait, hok.oneHop⟩
    committed := committed_commitQueue _ _ _
    next := nextAfter_plan t md q bs
    serial_le := fun n b hb => (hi.serial_lt n b hb).le
    serial_lt := fun i hlt => by
      simp only [takeSerials]
      omega }
  have hlen : (h.addBatches q md.nextSubmissionSerial bs).batches.length - 1 =
      h.batches.length + (bs.length - 1) := by
    rw [batches_addBatches, List.length_append, List.length_mapIdx]
    omega
  obtain ⟨b, hb⟩ : ∃ b, bs[bs.length - 1]? = some b :=
    ⟨_, List.getElem?_eq_getElem (by omega)⟩
  have hlast : (h.addBatches q md.nextSubmissionSerial bs).batches[
      (h.addBatches q md.nextSubmissionSerial bs).batches.length - 1]? =
      some (h.batchOf q (md.nextSubmissionSerial + (bs.length - 1)) b) := by
    rw [hlen, get_addBatches, hb, Option.map_some]
  have hbehind := k.behind_next hlast rfl
  rw [← (progress_addBatches h q md.nextSubmissionSerial bs).observed] at hbehind
  exact k.after.setFence fence hlast rfl le_rfl hbehind

theorem MetadataInv.bindBatch (hi : MetadataInv t md h) {serial : ℕ} {b : BindInfo}
    (hnamed : h.Named [b.toSubmit])
    (hok : CallOk md h (h.addBatches q serial [b.toSubmit]) [b.toSubmit])
    (hle : ∀ (n : ℕ) (a : Batch), h.batches[n]? = some a → a.serial ≤ serial)
    (hlt : serial < md.nextSubmissionSerial) :
    MetadataInv t (md.bindBatch q serial b) (h.addBatches q serial [b.toSubmit]) ∧
      (md.bindBatch q serial b).nextSubmissionSerial = md.nextSubmissionSerial := by
  have hvalue : ∀ g ∈ b.signals, (md.shape g.semaphore).timeline = true → g.value.isSome = true := by
    intro g hg ht
    obtain ⟨tl, hlive⟩ := Option.isSome_iff_exists.1 ((hnamed b.toSubmit (by simp)).2 g hg)
    obtain ⟨e, he, htl⟩ := hi.known _ _ hlive
    rw [shape_of_some he] at ht
    obtain rfl : tl = true := htl.symm.trans ht
    obtain ⟨u₀, hu₀, -⟩ := hi.initial _ hlive
    have habove := hok.above b.toSubmit (by simp) g hg (by simp [History.isTimeline, hlive]) u₀
      (.inl hu₀)
    cases hv : g.value with
    | none => simp [hv] at habove
    | some v => rfl
  obtain ⟨next, waits, consumed, ps, hp, hc⟩ := bindBatch_spec t md q serial b hvalue
  have k : CallStep t md (md.bindBatch q serial b) h q serial [b.toSubmit] _ waits consumed ps
      next := {
    inv := hi
    planned := hp
    named := hnamed
    ok := hok
    committed := hc
    next := fun _ => Finset.Subset.refl _
    serial_le := hle
    serial_lt := fun i hi => by
      have : i < 1 := by simpa using hi
      omega }
  exact ⟨k.after, hc.serial⟩

theorem MetadataInv.queueBindSparse (hi : MetadataInv t md h) {infos : List BindInfo} (fence : Option FenceId)
    (hinfos : infos ≠ []) (hnamed : h.Named (infos.map BindInfo.toSubmit))
    (hok : QueueWorld.BindingsOk q md.nextSubmissionSerial
      { md with nextSubmissionSerial := md.nextSubmissionSerial + 1 } h infos) :
    MetadataInv t (md.queueBindSparse q infos fence)
      ((h.addBindings q md.nextSubmissionSerial infos).setFence fence) := by
  have hall : ∀ (infos : List BindInfo) (md' : Metadata) (h' : History), MetadataInv t md' h' →
      h'.live = h.live →
      md'.nextSubmissionSerial = md.nextSubmissionSerial + 1 →
      (∀ (n : ℕ) (a : Batch), h'.batches[n]? = some a → a.serial ≤ md.nextSubmissionSerial) →
      h.Named (infos.map BindInfo.toSubmit) →
      QueueWorld.BindingsOk q md.nextSubmissionSerial md' h' infos →
      (infos = [] → ∃ b : Batch, h'.batches[h'.batches.length - 1]? = some b ∧ b.queue = q) →
      MetadataInv t (infos.foldl (Metadata.bindBatch q md.nextSubmissionSerial) md')
        (h'.addBindings q md.nextSubmissionSerial infos) ∧
      ∃ b : Batch, (h'.addBindings q md.nextSubmissionSerial infos).batches[
          (h'.addBindings q md.nextSubmissionSerial infos).batches.length - 1]? = some b ∧
        b.queue = q ∧ b.serial ≤ md.nextSubmissionSerial := by
    intro infos
    induction infos with
    | nil =>
      intro md' h' hi' _ _ hle _ _ hlast
      obtain ⟨b, hb, hq⟩ := hlast rfl
      exact ⟨hi', b, hb, hq, hle _ b hb⟩
    | cons b infos ih =>
      intro md' h' hi' hlive hnext hle hnamed hok _
      have hnamed' : h'.Named [b.toSubmit] := by
        intro b' hb'
        obtain rfl := List.mem_singleton.1 hb'
        rw [hlive]
        exact hnamed b.toSubmit (by simp)
      obtain ⟨hafter, hserial⟩ := hi'.bindBatch hnamed' hok.1 hle (by omega)
      refine ih _ _ hafter ((live_addBatches _ _ _ _).trans hlive) (hserial.trans hnext)
        (fun n a ha => ?_) (fun b' hb' => hnamed b' (by simp_all)) hok.2 fun _ => ?_
      · rcases get_addBatches_cases ha with ⟨-, hold⟩ | ⟨i, b₀, -, hb₀, rfl⟩
        · exact hle n a hold
        · cases i with
          | zero => exact le_rfl
          | succ i => simp at hb₀
      · have hlen : (h'.addBatches q md.nextSubmissionSerial [b.toSubmit]).batches.length - 1 =
            h'.batches.length + 0 := by
          rw [batches_addBatches]
          simp
        exact ⟨_, by rw [hlen, get_addBatches]; rfl, rfl⟩
  obtain ⟨hafter, b, hb, hq, hserial⟩ := hall infos { md with
      nextSubmissionSerial := md.nextSubmissionSerial + 1 } h
    (hi.serials (Nat.le_succ _) (fun _ => rfl) (fun _ => rfl) fun _ => rfl) rfl rfl
    (fun n a ha => (hi.serial_lt n a ha).le) hnamed hok fun hnil => absurd hnil hinfos
  refine hafter.setFence fence hb hq.symm hserial ?_
  refine (hafter.covers (.queue q) _ b ⟨b, hb, hq⟩ hb).imp_right ?_
  rintro ⟨ws, ⟨-, rfl⟩, hbeh⟩
  exact hbeh

theorem metadataInv_initial (t : ResourceTables) : MetadataInv t {} {} where
  serial_lt n b hb := by cases hb
  serial_mono m n a b ha := by cases ha
  known s tl hs := by cases hs
  covers c n b _ hb := by cases hb
  observed n hn := by cases hn
  values s hs := by cases hs
  acquiredValue s hs := by cases hs
  initial s hs := by cases hs
  pendingTimeline s hs := by cases hs
  pendingBinary s hs := by cases hs
  fence_lt f n hf := by cases hf
  signaled_lt s k hs := by cases hs
  waiting_lt s z hz := by cases hz
  matched_lt k z hm := by cases hm

theorem QueueWorld.step_cases (hs : w.step t op = some w') :
    w.Enabled op ∧ w' = ⟨w.clientAfter t op, w.historyAfter op⟩ := by
  unfold QueueWorld.step at hs
  split at hs
  · next he => exact ⟨he, (Option.some.inj hs).symm⟩
  · cases hs

theorem metadataInv_step (hi : MetadataInv t w.client w.history) (hok : w.Attributed t op)
    (hs : w.step t op = some w') : MetadataInv t w'.client w'.history := by
  obtain ⟨he, rfl⟩ := QueueWorld.step_cases hs
  cases op with
  | createSemaphore s tl v =>
    exact hi.createSemaphore v (Option.isNone_iff_eq_none.1 he.1) he.2
  | destroySemaphore s => exact hi.destroySemaphore s
  | queueSubmit q submits fence accepted =>
    cases accepted with
    | true =>
      simp only [QueueWorld.clientAfter, QueueWorld.historyAfter, if_true, queueSubmit_batchesOf t _ q submits]
      exact hi.queueSubmit fence (batchesOf_ne_nil _) (named_batchesOf he) hok
    | false =>
      exact hi.serials (Nat.le_add_right _ _) (fun _ => rfl) (fun _ => rfl) fun _ => rfl
  | queueBindSparse q infos fence accepted =>
    cases accepted with
    | true =>
      simp only [QueueWorld.clientAfter, QueueWorld.historyAfter, if_true,
        queueBindSparse_bindingsOf _ q infos]
      refine hi.queueBindSparse fence (fun hnil => ?_) (fun b hb => ?_) hok
      · unfold bindingsOf at hnil
        split at hnil
        · cases hnil
        · next h => simp [hnil] at h
      · unfold bindingsOf at hb
        split at hb
        · obtain rfl : b = BindInfo.toSubmit {} := by simpa using hb
          simp [BindInfo.toSubmit]
        · exact he b hb
    | false => exact hi
  | signalSemaphore s v accepted =>
    cases accepted with
    | true => exact hi.signalSemaphore he v
    | false => exact hi
  | acquireNextImage s fence =>
    refine hi.narrow ⟨rfl, fun _ => id, fun _ => id, fun _ => id, fun _ => id, fun _ _ => id,
      fun _ _ => id⟩ rfl rfl fun f n hf => ?_
    by_cases hff : fence = some f <;>
      simp_all [QueueWorld.historyAfter, History.acquireNextImage]
  | queuePresent waits =>
    refine hi.narrow ⟨rfl, fun _ => id, fun _ => id, fun _ => id, fun _ => id, fun _ _ => id,
      fun s k hk => ?_⟩ rfl rfl fun _ _ => id
    by_cases hmem : s ∈ waits <;> simp_all [QueueWorld.historyAfter, History.queuePresent]
  | queueWaitIdle q =>
    refine hi.completion hok he rfl le_rfl (fun _ => rfl) fun c n b hc hb => ?_
    by_cases hcq : c = .queue q
    · subst hcq
      exact .inl (mem_onQueue.2 hc)
    · exact .inr fun q' k ws hcar => (carries_setQueueWrites hcq).2 hcar
  | deviceWaitIdle =>
    refine hi.completion hok he rfl le_rfl (fun _ => rfl) fun c n b hc hb => .inl ?_
    exact List.mem_range.2 (List.getElem?_eq_some_iff.1 hb).1
  | fencesSignaled fences =>
    refine hi.completion hok he rfl le_rfl (fun _ => rfl) fun c n b hc hb => ?_
    cases c with
    | fence f =>
      by_cases hf : f ∈ fences
      · exact .inl (List.mem_filterMap.2 ⟨f, hf, hc⟩)
      · refine .inr fun q k ws hcar => ?_
        simp only [Metadata.Carries, QueueWorld.clientAfter, dropFences, if_neg hf]
        exact hcar
    | queue q' => exact .inr fun _ _ _ => id
    | binary s => exact .inr fun _ _ _ => id
    | timeline s u => exact .inr fun _ _ _ => id
  | timelineReached s v =>
    exact hi.noteTimeline he.1 hok.1 he.2 fun z hz m mem hv hb =>
      handed_of_before hi hok he hz hv hb
  | resetFences fences => exact hi.resetFences fences

theorem sound_of_inv (hi : MetadataInv t w.client w.history) (hok : w.Attributed t op)
    (he : w.Enabled op) : w.Sound t op := by
  rintro z hz m mem ⟨i, x, n, hvis, hmem, hb⟩
  have hlocal : QueueWorld.LocalBarriers t w.history := by
    cases op with
    | queueWaitIdle q => exact hok
    | deviceWaitIdle => exact hok
    | fencesSignaled fences => exact hok
    | timelineReached s v => exact hok.2
    | _ => cases hz
  obtain ⟨a, cb, ha, hcb, hx⟩ := hlocal m i x n hvis
  refine handed_of_before hi hok he hz ⟨a, ha, cb, List.mem_of_getElem? hcb, x, hx, hmem⟩ ?_
  obtain ⟨a', cb', ha', -, ⟨-, rfl⟩ | ⟨-, hbef, -⟩⟩ := hvis
  · exact hb
  · exact hbef.trans hb

/-- In every run whose steps attribute right, every completion the host observes hands over what
is due by it, or has it from an earlier one. -/
theorem run_attributed (t : ResourceTables) {ops : List QueueOp} {w : QueueWorld} {op : QueueOp}
    (hrun : RunWhere (QueueWorld.step t) (QueueWorld.Attributed t) {} ops w) (hok : w.Attributed t op)
    (he : w.Enabled op) : w.Sound t op :=
  sound_of_inv (hrun.invariant (I := fun w => MetadataInv t w.client w.history) (metadataInv_initial t)
    fun _ _ _ hi hc hs => metadataInv_step hi hc hs) hok he

/-- The tables of an application with one buffer. -/
def copyTables : ResourceTables := { bufferBindings := fun b => if b = 1 then some 7 else none }

/-- A copy into the buffer, and the barrier that shows it to the host. -/
def copyOut : List PrimaryCommand :=
  [.own (.copyToBuffer 1), .own (.pipelineBarrier stageHost [accessHost] [] [])]

def directSubmits : List QueueOp :=
  [.createSemaphore 1 true 0,
    .queueSubmit 1 [{ commandBuffers := [copyOut], signals := [⟨1, some 1⟩] }] none true,
    .queueSubmit 2 [{ waits := [⟨1, some 1, 0⟩] }] (some 9) true]

def directWorld (k : ℕ) : QueueWorld :=
  (runList (QueueWorld.step copyTables) {} (directSubmits.take k)).getD {}

theorem callOk_direct : (directWorld 1).Attributed copyTables directSubmits[1] := by
  have hlen : (directWorld 1).history.batches.length = 0 := by decide
  have hhost : (directWorld 1).history.hostSignals = [(1, 0)] := by decide
  refine ⟨List.pairwise_singleton _ _, fun b hb g hg _ u hu => ?_, fun s z hz _ => ?_,
    fun k r x z _ hr => ?_⟩
  · obtain rfl : b = { commandBuffers := [copyOut], signals := [⟨1, some 1⟩] } := by
      simpa [batchesOf] using hb
    obtain rfl : g = ⟨1, some 1⟩ := by simpa using hg
    rcases hu with hu | ⟨b, hb, -⟩
    · rw [hhost] at hu
      obtain rfl : u = 0 := by simpa using hu
      exact Nat.zero_lt_one
    · rw [List.length_eq_zero_iff.1 hlen] at hb
      cases hb
  · have hwait : ((directWorld 1).history.addBatches 1 (directWorld 1).client.nextSubmissionSerial
        (batchesOf [{ commandBuffers := [copyOut], signals := [⟨1, some 1⟩] }])).waiting = [] := by
      decide
    rw [hwait] at hz
    cases hz
  · rw [hlen] at hr
    exact absurd hr (Nat.not_lt_zero r)

theorem callOk_relayed : (directWorld 2).Attributed copyTables directSubmits[2] := by
  have hlen : (directWorld 2).history.batches.length = 1 := by decide
  have hempty : (((directWorld 2).history.addBatches 2 (directWorld 2).client.nextSubmissionSerial
      (batchesOf [{ waits := [⟨1, some 1, 0⟩] }])).batches[0]?).map Batch.waits = some [] := by
    decide
  have hmatched : ((directWorld 2).history.addBatches 2
      (directWorld 2).client.nextSubmissionSerial
      (batchesOf [{ waits := [⟨1, some 1, 0⟩] }])).matched = [] := by decide
  have hwait : ((directWorld 2).history.addBatches 2 (directWorld 2).client.nextSubmissionSerial
      (batchesOf [{ waits := [⟨1, some 1, 0⟩] }])).waiting = [] := by decide
  refine ⟨List.Pairwise.nil, fun b hb g hg => ?_, fun s z hz _ => ?_, fun k r x z _ hr hedge => ?_⟩
  · obtain rfl : b = { waits := [⟨1, some 1, 0⟩] } := by simpa [batchesOf] using hb
    cases hg
  · rw [hwait] at hz
    cases hz
  · obtain rfl : r = 0 := by omega
    rcases hedge.1 with hm | ⟨a, b, s, v, u, -, hb, hw, -⟩
    · rw [hmatched] at hm
      cases hm
    · rw [hb, Option.map_some, Option.some_inj] at hempty
      rw [hempty] at hw
      cases hw

theorem localBarriers_direct : QueueWorld.LocalBarriers copyTables (directWorld 3).history := by
  have hlens : (directWorld 3).history.batches.map (fun b => b.commandBuffers.length) = [1, 0] := by
    decide
  have hshown : ((directWorld 3).history.batches[0]?).any (fun a =>
      a.commandBuffers.all fun cb => exposed copyTables cb = locallyExposed copyTables cb) = true := by
    decide
  have hfirst : ∀ {n j : ℕ} {b : Batch} {cb : List PrimaryCommand},
      (directWorld 3).history.batches[n]? = some b → b.commandBuffers[j]? = some cb →
      n = 0 ∧ j = 0 := by
    intro n j b cb hb hcb
    have hget := congrArg (fun l => l[n]?) hlens
    simp only [List.getElem?_map, hb, Option.map_some] at hget
    have hj := (List.getElem?_eq_some_iff.1 hcb).1
    match n, hget with
    | 0, hget =>
      have : b.commandBuffers.length = 1 := by simpa using hget
      exact ⟨rfl, by omega⟩
    | 1, hget =>
      have : b.commandBuffers.length = 0 := by simpa using hget
      omega
    | n + 2, hget => simp at hget
  rintro m i x n ⟨a, cb, ha, hcb, hor⟩
  obtain ⟨rfl, rfl⟩ := hfirst ha hcb
  refine ⟨a, cb, ha, hcb, ?_⟩
  rcases hor with ⟨hx, -⟩ | ⟨-, -, b, j, cb', hb, hcb', hlt, -⟩
  · rw [ha, Option.any_some, List.all_eq_true] at hshown
    have heq : exposed copyTables cb = locallyExposed copyTables cb := by
      simpa using hshown cb (List.mem_of_getElem? hcb)
    exact heq ▸ hx
  · obtain ⟨rfl, rfl⟩ := hfirst hb hcb'
    exact absurd (hlt rfl) (lt_irrefl 0)

theorem runWhere_direct : RunWhere (QueueWorld.step copyTables) (QueueWorld.Attributed copyTables) {}
    directSubmits (directWorld 3) := by
  have hsome : (runList (QueueWorld.step copyTables) {} directSubmits).isSome = true := by
    decide
  obtain ⟨w, hw⟩ := Option.isSome_iff_exists.1 hsome
  have hlast : directWorld 3 = w := by
    have htake : directSubmits.take 3 = directSubmits := rfl
    rw [directWorld, htake, hw, Option.getD_some]
  rw [hlast]
  refine runWhere_of_runList hw fun k op w₁ hop hk => ?_
  obtain rfl : directWorld k = w₁ := by rw [directWorld, hk, Option.getD_some]
  match k, hop with
  | 0, hop =>
    obtain rfl := Option.some.inj hop
    exact trivial
  | 1, hop =>
    obtain rfl := Option.some.inj hop
    exact callOk_direct
  | 2, hop =>
    obtain rfl := Option.some.inj hop
    exact callOk_relayed

theorem run_attributed_direct :
    (directWorld 3).Sound copyTables (.fencesSignaled [9]) ∧
      (directWorld 3).client.fenceSet [9] = {7} :=
  ⟨run_attributed copyTables runWhere_direct localBarriers_direct (by decide),
    by decide⟩

def QueueOp.observes : QueueOp → Bool
  | .queueWaitIdle _ | .deviceWaitIdle | .fencesSignaled _ | .timelineReached _ _ => true
  | _ => false

theorem addBindings_acquired (q : QueueId) (serial : ℕ) (h : History) (infos : List BindInfo) :
    (h.addBindings q serial infos).acquired = h.acquired := by
  unfold addBindings
  induction infos generalizing h with
  | nil => rfl
  | cons b infos ih => exact (ih _).trans (progress_addBatches h q serial [b.toSubmit]).acquired

theorem setFence_acquired (h : History) (fence : Option FenceId) :
    (h.setFence fence).acquired = h.acquired := by
  cases fence <;> rfl

theorem acquired_step (hs : w.step t op = some w') (hop : op.observes = false) :
    w'.history.acquired = w.history.acquired := by
  obtain ⟨-, rfl⟩ := QueueWorld.step_cases hs
  cases op with
  | queueSubmit q submits fence accepted =>
    cases accepted with
    | true => exact (setFence_acquired _ _).trans (progress_addBatches _ _ _ _).acquired
    | false => rfl
  | queueBindSparse q infos fence accepted =>
    cases accepted with
    | true => exact (setFence_acquired _ _).trans (addBindings_acquired _ _ _ _)
    | false => rfl
  | signalSemaphore s v accepted => cases accepted <;> rfl
  | queueWaitIdle q => cases hop
  | deviceWaitIdle => cases hop
  | fencesSignaled fences => cases hop
  | timelineReached s v => cases hop
  | _ => rfl

/-- Nothing is acquired without an observation. -/
theorem acquired_run {ops : List QueueOp} (hrun : Run (QueueWorld.step t) w ops w')
    (hops : ∀ op ∈ ops, op.observes = false) : w'.history.acquired = w.history.acquired := by
  induction hrun with
  | nil => rfl
  | snoc _ hs ih =>
    exact (acquired_step hs (hops _ (by simp))).trans (ih fun op hop => hops op (by simp [hop]))

/-- Queue 2 waits for what queue 1 submits last, queue 3 for queue 2. -/
def chainSubmits : List QueueOp :=
  [.createSemaphore 1 true 0, .createSemaphore 2 true 0,
    .queueSubmit 2 [{ waits := [⟨1, some 1, 0⟩], signals := [⟨2, some 1⟩] }] none true,
    .queueSubmit 3 [{ waits := [⟨2, some 1, 0⟩] }] (some 9) true,
    .queueSubmit 1 [{ commandBuffers := [copyOut], signals := [⟨1, some 1⟩] }] none true]

def chainWorld : QueueWorld := (runList (QueueWorld.step copyTables) {} chainSubmits).getD {}

theorem due_chain : chainWorld.history.Due copyTables 2 7 1 := by
  have hbatches : chainWorld.history.batches.map (fun b => (b.queue, b.waits, b.signals)) =
      [(2, [(1, 1)], [(2, 1)]), (3, [(2, 1)], []), (1, [], [(1, 1)])] := by decide
  have hshown : ((chainWorld.history.batches[2]?).bind fun b => b.commandBuffers[0]?).any
      (fun cb => Target.buffer 1 ∈ exposed copyTables cb) = true := by decide
  have hget : ∀ (n : ℕ) (b : Batch), chainWorld.history.batches[n]? = some b →
      [(2, [(1, 1)], [(2, 1)]), (3, [(2, 1)], []), (1, [], [(1, 1)])][n]? =
        some (b.queue, b.waits, b.signals) := by
    intro n b hb
    rw [← hbatches, List.getElem?_map, hb, Option.map_some]
  have hsome : ∀ n < 3, ∃ b, chainWorld.history.batches[n]? = some b := by
    have hlen : chainWorld.history.batches.length = 3 := by
      simpa using congrArg List.length hbatches
    exact fun n hn => ⟨_, List.getElem?_eq_getElem (by omega)⟩
  obtain ⟨b₀, h₀⟩ := hsome 0 (by omega)
  obtain ⟨b₁, h₁⟩ := hsome 1 (by omega)
  obtain ⟨b₂, h₂⟩ := hsome 2 (by omega)
  have e₀ := Option.some.inj (hget 0 b₀ h₀)
  have e₁ := Option.some.inj (hget 1 b₁ h₁)
  have e₂ := Option.some.inj (hget 2 b₂ h₂)
  simp only [Prod.mk.injEq] at e₀ e₁ e₂
  obtain ⟨q₀, w₀, g₀⟩ := e₀
  obtain ⟨q₁, w₁, -⟩ := e₁
  obtain ⟨q₂, -, g₂⟩ := e₂
  have hfirst : chainWorld.history.Edge 2 0 := by
    refine ⟨.inr ⟨b₂, b₀, 1, 1, 1, h₂, h₀, by simp [← w₀], by simp [← g₂], le_rfl,
      fun _ _ => id⟩, ?_⟩
    rintro ⟨⟨a, b, ha, hb, hq⟩, -⟩
    obtain rfl := Option.some.inj (h₂.symm.trans ha)
    obtain rfl := Option.some.inj (h₀.symm.trans hb)
    exact absurd (q₂.trans (hq.trans q₀.symm)) (by decide)
  have hsecond : chainWorld.history.Edge 0 1 := by
    refine ⟨.inr ⟨b₀, b₁, 2, 1, 1, h₀, h₁, by simp [← w₁], by simp [← g₀], le_rfl,
      fun _ _ => id⟩, ?_⟩
    rintro ⟨-, hle⟩
    omega
  have hsame : ∀ {n : ℕ} {b : Batch}, chainWorld.history.batches[n]? = some b →
      chainWorld.history.SameQueue n n := fun {n b} hb => ⟨b, b, hb, hb, rfl⟩
  obtain ⟨cb, hcb, hx⟩ := (Option.any_eq_true _ _).1 hshown
  rw [h₂, Option.bind_some] at hcb
  refine ⟨0, .buffer 1, 2, ⟨b₂, cb, h₂, hcb, .inl ⟨by simpa using hx, rfl⟩⟩, rfl, ?_⟩
  exact .hop (.hop (.queue (hsame h₂) le_rfl) hfirst (hsame h₀) le_rfl) hsecond (hsame h₁) le_rfl

/-- The fence of queue 3 misses the write: the release of queue 2 does not go on to queue 3. -/
theorem chain_missed : ¬ ∀ (t : ResourceTables) (ops : List QueueOp) (w : QueueWorld) (op : QueueOp),
    Run (QueueWorld.step t) {} ops w → w.Enabled op → w.Sound t op := by
  intro hall
  have hsome : (runList (QueueWorld.step copyTables) {} chainSubmits).isSome = true := by
    decide
  obtain ⟨w, hw⟩ := Option.isSome_iff_exists.1 hsome
  have hlast : chainWorld = w := by rw [chainWorld, hw, Option.getD_some]
  have hrun : Run (QueueWorld.step copyTables) {} chainSubmits chainWorld :=
    run_of_runList (hlast ▸ hw)
  have hfence : chainWorld.history.fences 9 = some 1 := by decide
  have hset : chainWorld.client.fenceSet [9] = ∅ := by decide
  have hsound := hall copyTables chainSubmits chainWorld (.fencesSignaled [9]) hrun
    (by decide) 1 (by simp [QueueWorld.completed, hfence]) 2 7 due_chain
  rcases hsound with hmem | hacq
  · have hmem := hmem _ rfl
    rw [hset] at hmem
    cases hmem
  · rw [acquired_run hrun (by decide)] at hacq
    exact hacq

end VkRemote.Client
