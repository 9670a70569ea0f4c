import VulkanRemote.Client.Barriers

/-! `CmdExecuteCommands` adds the record of a secondary to the one of the primary. Recording the
secondary's commands inline would also lead what the primary has written through the barriers of the
secondary; the two come to the same exactly if that shows nothing new. -/

namespace VkRemote.Client

/-- The parts of a record that say which memories are written, pending and visible. -/
structure SameAttribution (cb cb' : CommandBuffer) : Prop where
  pending : cb.pendingWrites = cb'.pendingWrites
  visible : cb.hostVisibleWrites = cb'.hostVisibleWrites
  writable : cb.writableDescriptorSets = cb'.writableDescriptorSets
  flag : cb.descriptorWritesHostVisible = cb'.descriptorWritesHostVisible

/-- What is left of the bound sets after other sets have been bound at `firstSet` and up. -/
def unboundBy (bound : List (ℕ × SetId)) (firstSet count : ℕ) : List (ℕ × SetId) :=
  bound.filter fun e => ¬ (firstSet ≤ e.1 ∧ e.1 < firstSet + count)

namespace CommandBuffer

/-- The primary's own part on its way through a command of the secondary: it meets the draws, the
dispatches and the barriers, and does not take on what the secondary writes and binds. -/
def carry (t : ResourceTables) (p : CommandBuffer) : Command → CommandBuffer
  | .copyToBuffer _ => p
  | .copyToImage _ => p
  | .beginRenderPass _ _ => p
  | .bindDescriptorSets true firstSet sets =>
    { p with boundComputeSets := unboundBy p.boundComputeSets firstSet sets.length }
  | .bindDescriptorSets false firstSet sets =>
    { p with boundGraphicsSets := unboundBy p.boundGraphicsSets firstSet sets.length }
  | c => p.record t c

def carryAll (t : ResourceTables) (p : CommandBuffer) (commands : List Command) : CommandBuffer :=
  commands.foldl (carry t) p

/-- All that the secondary's barriers show of what the primary had written, and all the sets of the
primary that the secondary draws with, are noted already: in the primary or by the secondary itself. -/
structure Settled (t : ResourceTables) (cb : CommandBuffer) (commands : List Command) : Prop where
  visible : (cb.carryAll t commands).hostVisibleWrites ⊆
    cb.hostVisibleWrites ∪ (recordAll t commands).hostVisibleWrites
  writable : (cb.carryAll t commands).writableDescriptorSets ⊆
    cb.writableDescriptorSets ∪ (recordAll t commands).writableDescriptorSets

end CommandBuffer

/-- Every set of `i` is the union of those of `p` and `s`. -/
structure Joined (p s i : CommandBuffer) : Prop where
  graphics : ∀ e, e ∈ i.boundGraphicsSets ↔ e ∈ p.boundGraphicsSets ∨ e ∈ s.boundGraphicsSets
  compute : ∀ e, e ∈ i.boundComputeSets ↔ e ∈ p.boundComputeSets ∨ e ∈ s.boundComputeSets
  pending : i.pendingWrites = p.pendingWrites ∪ s.pendingWrites
  writable : i.writableDescriptorSets = p.writableDescriptorSets ∪ s.writableDescriptorSets
  visible : i.hostVisibleWrites = p.hostVisibleWrites ∪ s.hostVisibleWrites
  flag : i.descriptorWritesHostVisible = (p.descriptorWritesHostVisible || s.descriptorWritesHostVisible)

section

variable {t : ResourceTables} {cb p s i : CommandBuffer}

theorem mem_unboundBy {bound : List (ℕ × SetId)} {k n : ℕ} {e : ℕ × SetId} :
    e ∈ unboundBy bound k n ↔ e ∈ bound ∧ ¬ (k ≤ e.1 ∧ e.1 < k + n) := by
  simp only [unboundBy, List.mem_filter, decide_eq_true_eq]

/-- What was bound before stays unless it is replaced, and what is bound now does not depend on it. -/
theorem mem_bindSets (bound : List (ℕ × SetId)) (k : ℕ) (sets : List SetId) {e : ℕ × SetId} :
    e ∈ bindSets bound k sets ↔
      e ∈ unboundBy bound k sets.length ∨ ∃ j, sets[j]? = some e.2 ∧ e.1 = k + j := by
  induction sets generalizing bound k with
  | nil => simp [bindSets, mem_unboundBy]
  | cons x sets ih =>
    rw [bindSets, ih, mem_unboundBy, mem_unboundBy, List.length_cons, List.mem_cons, List.mem_filter,
      decide_eq_true_eq]
    constructor
    · rintro (⟨rfl | ⟨he, hne⟩, hout⟩ | ⟨j, hj, hk⟩)
      · exact .inr ⟨0, rfl, rfl⟩
      · exact .inl ⟨he, by omega⟩
      · exact .inr ⟨j + 1, hj, by omega⟩
    · rintro (⟨he, hout⟩ | ⟨j, hj, hk⟩)
      · exact .inl ⟨.inr ⟨he, by omega⟩, by omega⟩
      · cases j with
        | zero =>
          obtain rfl : e = (k, x) := Prod.ext hk (Option.some.inj hj).symm
          exact .inl ⟨.inl rfl, by simp⟩
        | succ j => exact .inr ⟨j, hj, by omega⟩

/-- Binding on both sides: the primary's part only loses what is replaced. -/
theorem mem_bindSets_joined {bp bs bi : List (ℕ × SetId)} (h : ∀ e, e ∈ bi ↔ e ∈ bp ∨ e ∈ bs)
    (k : ℕ) (sets : List SetId) (e : ℕ × SetId) :
    e ∈ bindSets bi k sets ↔ e ∈ unboundBy bp k sets.length ∨ e ∈ bindSets bs k sets := by
  simp only [mem_bindSets, mem_unboundBy, h]
  tauto

theorem Joined.pend (h : Joined p s i) (memory : Option MemoryId) :
    Joined p (s.pend memory) (i.pend memory) where
  graphics := h.graphics
  compute := h.compute
  pending := by rw [CommandBuffer.pend, CommandBuffer.pend, h.pending, Finset.union_assoc]
  writable := h.writable
  visible := h.visible
  flag := h.flag

theorem Joined.markFramebufferWrites (h : Joined p s i) (framebuffer : FramebufferId)
    (attachments : Option (List ViewId)) :
    Joined p (s.markFramebufferWrites t framebuffer attachments)
      (i.markFramebufferWrites t framebuffer attachments) := by
  unfold CommandBuffer.markFramebufferWrites
  split
  · exact h
  · next f _ =>
    induction CommandBuffer.framebufferViews f attachments generalizing s i with
    | nil => exact h
    | cons view views ih => exact ih (h.pend _)

theorem Joined.markDescriptorWrites (h : Joined p s i) {bp bs bi : List (ℕ × SetId)}
    (hbound : ∀ e, e ∈ bi ↔ e ∈ bp ∨ e ∈ bs) :
    Joined (p.markDescriptorWrites bp) (s.markDescriptorWrites bs) (i.markDescriptorWrites bi) where
  graphics := h.graphics
  compute := h.compute
  pending := h.pending
  writable := by
    ext x
    simp only [CommandBuffer.markDescriptorWrites, h.writable, Finset.mem_union, List.mem_toFinset,
      List.mem_map, hbound, or_and_right, exists_or]
    exact or_or_or_comm
  visible := h.visible
  flag := h.flag

/-- A barrier need only be looked at for what it shows. -/
theorem Joined.reveal {p' s' i' : CommandBuffer} (h : Joined p s i) (hp : Reveals p p') (hs : Reveals s s')
    (hi : Reveals i i') (hvisible : i'.hostVisibleWrites = p'.hostVisibleWrites ∪ s'.hostVisibleWrites)
    (hflag : i'.descriptorWritesHostVisible =
      (p'.descriptorWritesHostVisible || s'.descriptorWritesHostVisible)) : Joined p' s' i' where
  graphics := by rw [hp.graphics, hs.graphics, hi.graphics]; exact h.graphics
  compute := by rw [hp.compute, hs.compute, hi.compute]; exact h.compute
  pending := by rw [hp.pending, hs.pending, hi.pending, h.pending]
  writable := by rw [hp.writable, hs.writable, hi.writable, h.writable]
  visible := hvisible
  flag := hflag

theorem Joined.exposeAll (h : Joined p s i) : Joined p.exposeAll s.exposeAll i.exposeAll := by
  apply h.reveal (.exposeAll p) (.exposeAll s) (.exposeAll i)
  · simp only [CommandBuffer.exposeAll, h.visible, h.pending]
    exact Finset.union_union_union_comm _ _ _ _
  · rfl

theorem Joined.expose (h : Joined p s i) (memory : Option MemoryId) :
    Joined (p.expose memory) (s.expose memory) (i.expose memory) := by
  apply h.reveal (.expose p memory) (.expose s memory) (.expose i memory)
  · simp only [CommandBuffer.expose, h.visible]
    exact Finset.union_union_distrib_right _ _ _
  · exact h.flag

theorem exposeWritten_flag (memory : Option MemoryId) (q : DescriptorResource → Bool) :
    (cb.exposeWritten t memory q).descriptorWritesHostVisible = cb.descriptorWritesHostVisible := by
  unfold CommandBuffer.exposeWritten
  split
  · rfl
  · split <;> rfl

theorem mem_exposeWritten_visible (memory : Option MemoryId) (q : DescriptorResource → Bool) {m : MemoryId} :
    m ∈ (cb.exposeWritten t memory q).hostVisibleWrites ↔
      m ∈ cb.hostVisibleWrites ∨ memory = some m ∧ (m ∈ cb.pendingWrites ∨ cb.names t q) := by
  unfold CommandBuffer.exposeWritten
  cases memory with
  | none => simp
  | some m' =>
    dsimp only
    split
    · next hfound =>
      rw [Finset.mem_insert, Option.some.injEq]
      constructor
      · rintro (rfl | hm)
        exacts [.inr ⟨rfl, hfound⟩, .inl hm]
      · rintro (hm | ⟨rfl, -⟩)
        exacts [.inr hm, .inl rfl]
    · next hno =>
      refine (or_iff_left ?_).symm
      rintro ⟨heq, hfound⟩
      obtain rfl := Option.some.inj heq
      exact hno hfound

theorem Joined.names (h : Joined p s i) (q : DescriptorResource → Bool) :
    i.names t q ↔ p.names t q ∨ s.names t q := by
  simp only [CommandBuffer.names, h.writable, Finset.mem_union, or_and_right, exists_or]

/-- The barrier finds a write in the whole where it finds one in a part. -/
theorem Joined.exposeWritten (h : Joined p s i) (memory : Option MemoryId) (q : DescriptorResource → Bool) :
    Joined (p.exposeWritten t memory q) (s.exposeWritten t memory q) (i.exposeWritten t memory q) := by
  apply h.reveal (.exposeWritten p memory q) (.exposeWritten s memory q) (.exposeWritten i memory q)
  · ext m
    rw [Finset.mem_union, mem_exposeWritten_visible, mem_exposeWritten_visible, mem_exposeWritten_visible,
      h.names, h.pending, h.visible, Finset.mem_union, Finset.mem_union]
    tauto
  · rw [exposeWritten_flag, exposeWritten_flag, exposeWritten_flag, h.flag]

theorem Joined.ite {p' s' i' : CommandBuffer} (h : Joined p s i) {c : Prop} [Decidable c]
    (h' : Joined p' s' i') : Joined (if c then p' else p) (if c then s' else s) (if c then i' else i) := by
  split
  · exact h'
  · exact h

theorem Joined.foldl {α : Type*} {f : CommandBuffer → α → CommandBuffer}
    (hf : ∀ {p s i} a, Joined p s i → Joined (f p a) (f s a) (f i a)) (l : List α) (h : Joined p s i) :
    Joined (l.foldl f p) (l.foldl f s) (l.foldl f i) := by
  induction l generalizing p s i with
  | nil => exact h
  | cons a l ih => exact ih (hf a h)

theorem Joined.pipelineBarrier (h : Joined p s i) (stage : UInt64) (memory : List UInt64)
    (buffers : List (BufferId × UInt64)) (images : List (ImageId × UInt64)) :
    Joined (p.pipelineBarrier t stage memory buffers images) (s.pipelineBarrier t stage memory buffers images)
      (i.pipelineBarrier t stage memory buffers images) := by
  unfold CommandBuffer.pipelineBarrier
  split
  · dsimp only
    refine Joined.foldl ?_ images (Joined.foldl ?_ buffers (Joined.foldl ?_ memory h))
    · exact fun x h => h.ite (h.exposeWritten _ _)
    · exact fun x h => h.ite (h.exposeWritten _ _)
    · exact fun a h => h.ite h.exposeAll
  · exact h

theorem Joined.pipelineBarrier2 (h : Joined p s i) (info : DependencyInfo) :
    Joined (p.pipelineBarrier2 t info) (s.pipelineBarrier2 t info) (i.pipelineBarrier2 t info) := by
  unfold CommandBuffer.pipelineBarrier2
  dsimp only
  refine Joined.foldl ?_ info.images (Joined.foldl ?_ info.buffers (h.ite h.exposeAll))
  · exact fun x h => h.ite (h.expose _)
  · exact fun x h => h.ite (h.expose _)

theorem Joined.step (h : Joined p s i) (c : Command) :
    Joined (p.carry t c) (s.record t c) (i.record t c) := by
  cases c with
  | copyToBuffer dst => exact h.pend _
  | copyToImage dst => exact h.pend _
  | beginRenderPass framebuffer attachments => exact h.markFramebufferWrites framebuffer attachments
  | bindDescriptorSets compute firstSet sets =>
    cases compute with
    | true => exact { h with compute := mem_bindSets_joined h.compute firstSet sets }
    | false => exact { h with graphics := mem_bindSets_joined h.graphics firstSet sets }
  | draw => exact h.markDescriptorWrites h.graphics
  | dispatch => exact h.markDescriptorWrites h.compute
  | pipelineBarrier stage memory buffers images => exact h.pipelineBarrier stage memory buffers images
  | pipelineBarrier2 info => exact h.pipelineBarrier2 info

/-- Recording inline keeps the primary's part and the secondary's record beside each other. -/
theorem joined_run (commands : List Command) (h : Joined p s i) :
    Joined (p.carryAll t commands) (commands.foldl (CommandBuffer.record t) s)
      (commands.foldl (CommandBuffer.record t) i) := by
  induction commands generalizing p s i with
  | nil => exact h
  | cons c commands ih => exact ih (h.step c)

theorem joined_start (cb : CommandBuffer) : Joined cb {} cb where
  graphics e := by simp
  compute e := by simp
  pending := (Finset.union_empty _).symm
  writable := (Finset.union_empty _).symm
  visible := (Finset.union_empty _).symm
  flag := (Bool.or_false _).symm

/-! ### What the primary keeps -/

/-- The command shows all that was written before it. -/
def Command.showsAll : Command → Bool
  | .pipelineBarrier stage memory _ _ => namesHostStage stage && memory.any namesHostAccess
  | .pipelineBarrier2 info => info.memory.any Barrier2.toHost
  | _ => false

theorem foldl_flag {α : Type*} {f : CommandBuffer → α → CommandBuffer} {g : α → Bool}
    (hf : ∀ cb a, (f cb a).descriptorWritesHostVisible = (cb.descriptorWritesHostVisible || g a))
    (l : List α) (cb : CommandBuffer) :
    (l.foldl f cb).descriptorWritesHostVisible = (cb.descriptorWritesHostVisible || l.any g) := by
  induction l generalizing cb with
  | nil => exact (Bool.or_false _).symm
  | cons a l ih => rw [List.foldl_cons, ih, hf, List.any_cons, Bool.or_assoc]

theorem foldl_flag_eq {α : Type*} {f : CommandBuffer → α → CommandBuffer}
    (hf : ∀ cb a, (f cb a).descriptorWritesHostVisible = cb.descriptorWritesHostVisible) (l : List α)
    (cb : CommandBuffer) :
    (l.foldl f cb).descriptorWritesHostVisible = cb.descriptorWritesHostVisible := by
  induction l generalizing cb with
  | nil => rfl
  | cons a l ih => rw [List.foldl_cons, ih, hf]

theorem pipelineBarrier_flag (stage : UInt64) (memory : List UInt64) (buffers : List (BufferId × UInt64))
    (images : List (ImageId × UInt64)) :
    (cb.pipelineBarrier t stage memory buffers images).descriptorWritesHostVisible =
      (cb.descriptorWritesHostVisible || (namesHostStage stage && memory.any namesHostAccess)) := by
  unfold CommandBuffer.pipelineBarrier
  split
  · next hstage =>
    dsimp only
    rw [foldl_flag_eq, foldl_flag_eq, foldl_flag (g := namesHostAccess), hstage, Bool.true_and]
    · intro cb a
      split
      · next ha => rw [ha, Bool.or_true, CommandBuffer.exposeAll]
      · next ha => rw [Bool.eq_false_iff.2 ha, Bool.or_false]
    · intro cb x
      split
      · exact exposeWritten_flag _ _
      · rfl
    · intro cb x
      split
      · exact exposeWritten_flag _ _
      · rfl
  · next hstage => rw [Bool.eq_false_iff.2 hstage, Bool.false_and, Bool.or_false]

theorem pipelineBarrier2_flag (info : DependencyInfo) :
    (cb.pipelineBarrier2 t info).descriptorWritesHostVisible =
      (cb.descriptorWritesHostVisible || info.memory.any Barrier2.toHost) := by
  unfold CommandBuffer.pipelineBarrier2
  dsimp only
  rw [foldl_flag_eq, foldl_flag_eq]
  · split
    · next h => rw [h, Bool.or_true, CommandBuffer.exposeAll]
    · next h => rw [Bool.eq_false_iff.2 h, Bool.or_false]
  · intro cb x
    split <;> rfl
  · intro cb x
    split <;> rfl

theorem record_flag (c : Command) :
    (cb.record t c).descriptorWritesHostVisible = (cb.descriptorWritesHostVisible || c.showsAll) := by
  cases c with
  | beginRenderPass framebuffer attachments =>
    refine Eq.trans ?_ (Bool.or_false _).symm
    rw [CommandBuffer.record]
    unfold CommandBuffer.markFramebufferWrites
    split
    · rfl
    · apply foldl_flag_eq
      exact fun _ _ => rfl
  | bindDescriptorSets compute firstSet sets => cases compute <;> exact (Bool.or_false _).symm
  | pipelineBarrier stage memory buffers images => exact pipelineBarrier_flag stage memory buffers images
  | pipelineBarrier2 info => exact pipelineBarrier2_flag info
  | copyToBuffer dst => exact (Bool.or_false _).symm
  | copyToImage dst => exact (Bool.or_false _).symm
  | draw => exact (Bool.or_false _).symm
  | dispatch => exact (Bool.or_false _).symm

/-- The primary's part `p` on its way through a secondary that has come to `s`. -/
structure Carries (cb p s : CommandBuffer) : Prop where
  pending : p.pendingWrites = cb.pendingWrites
  writable : cb.writableDescriptorSets ⊆ p.writableDescriptorSets
  visible : cb.hostVisibleWrites ⊆ p.hostVisibleWrites
  flag : p.descriptorWritesHostVisible = (cb.descriptorWritesHostVisible || s.descriptorWritesHostVisible)

/-- The command has no part in what the primary wrote. -/
theorem Carries.keep {s' p' : CommandBuffer} (h : Carries cb p s) (hpending : p'.pendingWrites = p.pendingWrites)
    (hwritable : p.writableDescriptorSets ⊆ p'.writableDescriptorSets)
    (hvisible : p.hostVisibleWrites ⊆ p'.hostVisibleWrites)
    {b : Bool} (hp : p'.descriptorWritesHostVisible = (p.descriptorWritesHostVisible || b))
    (hs : s'.descriptorWritesHostVisible = (s.descriptorWritesHostVisible || b)) : Carries cb p' s' where
  pending := hpending.trans h.pending
  writable := h.writable.trans hwritable
  visible := h.visible.trans hvisible
  flag := by rw [hp, hs, h.flag, Bool.or_assoc]

theorem Carries.step (h : Carries cb p s) (c : Command) : Carries cb (p.carry t c) (s.record t c) := by
  have hs : (s.record t c).descriptorWritesHostVisible = (s.descriptorWritesHostVisible || c.showsAll) :=
    record_flag c
  cases c with
  | copyToBuffer dst => exact h.keep rfl subset_rfl subset_rfl (Bool.or_false _).symm hs
  | copyToImage dst => exact h.keep rfl subset_rfl subset_rfl (Bool.or_false _).symm hs
  | beginRenderPass framebuffer attachments =>
    exact h.keep rfl subset_rfl subset_rfl (Bool.or_false _).symm hs
  | bindDescriptorSets compute firstSet sets =>
    cases compute <;> exact h.keep rfl subset_rfl subset_rfl (Bool.or_false _).symm hs
  | draw => exact h.keep rfl Finset.subset_union_left subset_rfl (Bool.or_false _).symm hs
  | dispatch => exact h.keep rfl Finset.subset_union_left subset_rfl (Bool.or_false _).symm hs
  | pipelineBarrier stage memory buffers images =>
    have hp := Reveals.pipelineBarrier (t := t) p stage memory buffers images
    exact h.keep hp.pending hp.writable.ge hp.visible (record_flag (.pipelineBarrier ..)) hs
  | pipelineBarrier2 info =>
    have hp := Reveals.pipelineBarrier2 (t := t) p info
    exact h.keep hp.pending hp.writable.ge hp.visible (record_flag (.pipelineBarrier2 info)) hs

theorem carries_run (commands : List Command) (h : Carries cb p s) :
    Carries cb (p.carryAll t commands) (commands.foldl (CommandBuffer.record t) s) := by
  induction commands generalizing p s with
  | nil => exact h
  | cons c commands ih => exact ih (h.step c)

theorem carries_start (cb : CommandBuffer) : Carries cb cb {} :=
  ⟨rfl, subset_rfl, subset_rfl, (Bool.or_false _).symm⟩

theorem union_eq_union_iff {a p s : Finset ℕ} (h : a ⊆ p) : a ∪ s = p ∪ s ↔ p ⊆ a ∪ s := by
  constructor
  · intro heq
    rw [heq]
    exact Finset.subset_union_left
  · intro hp
    apply Finset.Subset.antisymm
    · exact Finset.union_subset_union_left h
    · exact Finset.union_subset hp Finset.subset_union_right

end

open CommandBuffer in
/-- Executing a secondary leaves what recording its commands inline would leave exactly if its draws and
barriers find nothing new in what the primary has done; a barrier to the host recorded afterwards shows all
that the secondary wrote either way. -/
theorem executed_iff_inline (t : ResourceTables) (cb : CommandBuffer) (commands : List Command) :
    (SameAttribution (cb.recordPrimary t (.executeCommands [commands])) (commands.foldl (record t) cb) ↔
      cb.Settled t commands) ∧
    ∀ stage b, namesHostStage stage = true → b.global namesHostAccess →
      (recordAll t commands).writes t ⊆
        ((cb.recordPrimary t (.executeCommands [commands])).cmdPipelineBarrier t stage b).submitWrites t := by
  have hj := joined_run (t := t) commands (joined_start cb)
  have hc := carries_run (t := t) commands (carries_start cb)
  have hvisible := union_eq_union_iff (s := (recordAll t commands).hostVisibleWrites) hc.visible
  have hwritable := union_eq_union_iff (s := (recordAll t commands).writableDescriptorSets) hc.writable
  refine ⟨⟨fun h => ⟨?_, ?_⟩, fun h => ⟨?_, ?_, ?_, ?_⟩⟩, fun stage b hstage hb m hm => ?_⟩
  · exact hvisible.1 (h.visible.trans hj.visible)
  · exact hwritable.1 (h.writable.trans hj.writable)
  · rw [hj.pending, hc.pending]
    rfl
  · exact (hvisible.2 h.visible).trans hj.visible.symm
  · exact (hwritable.2 h.writable).trans hj.writable.symm
  · rw [hj.flag, hc.flag, Bool.or_assoc, Bool.or_self]
    rfl
  · refine (mem_pipelineBarrier hstage b).2 (.inr (.inl ⟨hb, ?_⟩))
    simp only [writes, descriptorWrites, recordPrimary, List.foldl_cons, List.foldl_nil, execute,
      Finset.mem_union, Finset.union_biUnion] at hm ⊢
    tauto

/-- The primary copies into a buffer and the secondary's barrier would publish the copy. -/
theorem barrier_in_secondary :
    ¬ SameAttribution
        (copied.recordPrimary oneBuffer (.executeCommands [[.pipelineBarrier stageHost [0x2000] [] []]]))
        ([Command.pipelineBarrier stageHost [0x2000] [] []].foldl (CommandBuffer.record oneBuffer) copied) ∧
      copied.pendingWrites = {7} ∧
      (copied.recordPrimary oneBuffer
        (.executeCommands [[.pipelineBarrier stageHost [0x2000] [] []]])).hostVisibleWrites = ∅ ∧
      ([Command.pipelineBarrier stageHost [0x2000] [] []].foldl
        (CommandBuffer.record oneBuffer) copied).hostVisibleWrites = {7} := by
  refine ⟨fun h => ?_, by decide, by decide, by decide⟩
  have := h.visible
  revert this
  decide

end VkRemote.Client
