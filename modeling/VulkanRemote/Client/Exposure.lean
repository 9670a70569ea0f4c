import Mathlib.Tactic
import VulkanRemote.Client.Recording

/-! Which buffers and images a command buffer writes and then makes visible to the host, in the
terms of the commands alone, and that the record kept for a command buffer names the memory of
every one of them. -/

namespace VkRemote.Client

inductive Target
  | buffer (b : BufferId)
  | image (i : ImageId)
  deriving DecidableEq

def Target.memory (t : ResourceTables) : Target → Option MemoryId
  | .buffer b => t.bufferBindings b
  | .image i => t.imageBindings i

/-- What a shader writes through a descriptor. -/
def DescriptorResource.target (t : ResourceTables) (r : DescriptorResource) : Option Target :=
  match r.type with
  | .storageBuffer | .storageBufferDynamic => some (.buffer r.resourceId)
  | .storageImage => (t.imageViewImages r.resourceId).map .image
  | .storageTexelBuffer => (t.bufferViewBuffers r.resourceId).map .buffer
  | .other => none

/-- The targets behind the sets bound at a bind point. -/
def boundTargets (t : ResourceTables) (sets : List (ℕ × SetId)) : Finset Target :=
  (sets.map Prod.snd).toFinset.biUnion fun s =>
    (t.descriptorResources s).toFinset.biUnion fun r => (r.target t).toFinset

/-- The images behind the attachments of a render pass instance. -/
def attachmentTargets (t : ResourceTables) (framebuffer : FramebufferId)
    (attachments : Option (List ViewId)) : Finset Target :=
  match t.framebuffers framebuffer with
  | none => ∅
  | some f => (CommandBuffer.framebufferViews f attachments).toFinset.biUnion fun v =>
      ((t.imageViewImages v).map Target.image).toFinset

/-- The barrier has the host stage as its destination, with such an access. -/
def Barrier2.isHost (access : UInt64 → Bool) (b : Barrier2) : Bool :=
  namesHostStage b.dstStageMask && access b.dstAccessMask

/-- The command is a barrier to the host stage, with such an access, that covers the target. The code looks
for the host's own bits (`namesHostAccess`); what the barrier does goes by `includesHostAccess`. -/
def Command.hostBarrier (access : UInt64 → Bool) (c : Command) (x : Target) : Bool :=
  match c, x with
  | .pipelineBarrier stage memory buffers _, .buffer b => namesHostStage stage &&
      (memory.any access || buffers.any fun e => e.1 = b && access e.2)
  | .pipelineBarrier stage memory _ images, .image i => namesHostStage stage &&
      (memory.any access || images.any fun e => e.1 = i && access e.2)
  | .pipelineBarrier2 info, .buffer b =>
      info.memory.any (Barrier2.isHost access) || info.buffers.any fun e => e.1 = b && e.2.isHost access
  | .pipelineBarrier2 info, .image i =>
      info.memory.any (Barrier2.isHost access) || info.images.any fun e => e.1 = i && e.2.isHost access
  | _, _ => false

/-- Written so far, and written before a barrier to the host. -/
structure Exposure where
  graphics : List (ℕ × SetId) := []
  compute : List (ℕ × SetId) := []
  dirty : Finset Target := ∅
  exposed : Finset Target := ∅

namespace Exposure

def writes (t : ResourceTables) (e : Exposure) : Command → Finset Target
  | .copyToBuffer dst => {.buffer dst}
  | .copyToImage dst => {.image dst}
  | .beginRenderPass framebuffer attachments => attachmentTargets t framebuffer attachments
  | .draw => boundTargets t e.graphics
  | .dispatch => boundTargets t e.compute
  | _ => ∅

def next (access : UInt64 → Bool) (t : ResourceTables) (e : Exposure) (c : Command) : Exposure where
  graphics := match c with
    | .bindDescriptorSets false firstSet sets => bindSets e.graphics firstSet sets
    | _ => e.graphics
  compute := match c with
    | .bindDescriptorSets true firstSet sets => bindSets e.compute firstSet sets
    | _ => e.compute
  dirty := e.dirty ∪ e.writes t c
  exposed := e.exposed ∪ e.dirty.filter fun x => c.hostBarrier access x = true

/-- The secondary's commands; with `inherit` its barriers also cover what was written before. -/
def execute (access : UInt64 → Bool) (t : ResourceTables) (inherit : Bool) (e : Exposure)
    (commands : List Command) : Exposure :=
  let s := commands.foldl (next access t) { dirty := if inherit then e.dirty else ∅ }
  { e with dirty := e.dirty ∪ s.dirty, exposed := e.exposed ∪ s.exposed }

def nextPrimary (access : UInt64 → Bool) (t : ResourceTables) (inherit : Bool) (e : Exposure) :
    PrimaryCommand → Exposure
  | .own c => e.next access t c
  | .executeCommands secondaries => secondaries.foldl (execute access t inherit) e

end Exposure

/-- The targets a command buffer writes. -/
def written (t : ResourceTables) (commands : List PrimaryCommand) : Finset Target :=
  (commands.foldl (Exposure.nextPrimary includesHostAccess t true) {}).dirty

/-- The targets it writes and makes visible to the host later on, by a barrier to the host stage with an
access that includes the host's. -/
def exposed (t : ResourceTables) (commands : List PrimaryCommand) : Finset Target :=
  (commands.foldl (Exposure.nextPrimary includesHostAccess t true) {}).exposed

/-- The barrier names one of the host's own accesses, and write and barrier are both directly in the
primary, both in one secondary, or the write is in a secondary and the barrier in the primary that
executes it. -/
def locallyExposed (t : ResourceTables) (commands : List PrimaryCommand) : Finset Target :=
  (commands.foldl (Exposure.nextPrimary namesHostAccess t false) {}).exposed

/-- Somewhere in the command buffer a host barrier covers the target. -/
def hasHostBarrier (commands : List PrimaryCommand) (x : Target) : Bool :=
  commands.any fun
    | .own c => c.hostBarrier includesHostAccess x
    | .executeCommands secondaries =>
      secondaries.any fun l => l.any fun c => c.hostBarrier includesHostAccess x

/-! ### The record covers the exposure -/

variable {t : ResourceTables}

theorem DescriptorResource.memory_eq (r : DescriptorResource) :
    r.memory t = (r.target t).bind (Target.memory t) := by
  obtain ⟨type, id⟩ := r
  cases type with
  | storageBuffer => rfl
  | storageBufferDynamic => rfl
  | storageImage =>
    simp only [memory, target]
    cases t.imageViewImages id <;> rfl
  | storageTexelBuffer =>
    simp only [memory, target]
    cases t.bufferViewBuffers id <;> rfl
  | other => rfl

theorem DescriptorResource.isBuffer_of_target {r : DescriptorResource} {b : BufferId}
    (h : r.target t = some (.buffer b)) : r.isBuffer t b = true := by
  obtain ⟨type, id⟩ := r
  cases type <;> simp_all [target, isBuffer]

theorem DescriptorResource.isImage_of_target {r : DescriptorResource} {i : ImageId}
    (h : r.target t = some (.image i)) : r.isImage t i = true := by
  obtain ⟨type, id⟩ := r
  cases type <;> simp_all [target, isImage]

/-- The set may be written through and one of its descriptors names the target. -/
def CommandBuffer.mayWrite (t : ResourceTables) (cb : CommandBuffer) (x : Target) : Prop :=
  ∃ s ∈ cb.writableDescriptorSets, ∃ r ∈ t.descriptorResources s, r.target t = some x

theorem mem_submitWrites_of_mayWrite {cb : CommandBuffer} {x : Target} {m : MemoryId}
    (hflag : cb.descriptorWritesHostVisible = true) (h : cb.mayWrite t x)
    (hm : x.memory t = some m) : m ∈ cb.submitWrites t := by
  obtain ⟨s, hs, r, hr, hx⟩ := h
  unfold CommandBuffer.submitWrites
  rw [if_pos hflag, Finset.mem_union, Finset.mem_biUnion]
  refine .inr ⟨s, hs, Finset.mem_biUnion.2 ⟨r, List.mem_toFinset.2 hr, ?_⟩⟩
  rw [r.memory_eq, hx]
  simp [hm]

/-- A barrier changes what is visible, and only adds to it. -/
structure Reveals (cb cb' : CommandBuffer) : Prop where
  graphics : cb'.boundGraphicsSets = cb.boundGraphicsSets
  compute : cb'.boundComputeSets = cb.boundComputeSets
  pending : cb'.pendingWrites = cb.pendingWrites
  writable : cb'.writableDescriptorSets = cb.writableDescriptorSets
  visible : cb.hostVisibleWrites ⊆ cb'.hostVisibleWrites
  flag : cb.descriptorWritesHostVisible = true → cb'.descriptorWritesHostVisible = true

namespace Reveals

theorem refl (cb : CommandBuffer) : Reveals cb cb :=
  ⟨rfl, rfl, rfl, rfl, Finset.Subset.refl _, id⟩

theorem trans {a b c : CommandBuffer} (h : Reveals a b) (h' : Reveals b c) : Reveals a c :=
  ⟨h'.graphics.trans h.graphics, h'.compute.trans h.compute, h'.pending.trans h.pending,
    h'.writable.trans h.writable, h.visible.trans h'.visible, h'.flag ∘ h.flag⟩

theorem mayWrite {cb cb' : CommandBuffer} (h : Reveals cb cb') {x : Target} :
    cb'.mayWrite t x ↔ cb.mayWrite t x := by
  simp only [CommandBuffer.mayWrite, h.writable]

theorem exposeAll (cb : CommandBuffer) : Reveals cb cb.exposeAll :=
  ⟨rfl, rfl, rfl, rfl, Finset.subset_union_left, fun _ => rfl⟩

theorem exposeWritten (cb : CommandBuffer) (memory : Option MemoryId)
    (names : DescriptorResource → Bool) : Reveals cb (cb.exposeWritten t memory names) := by
  unfold CommandBuffer.exposeWritten
  split
  · exact refl cb
  · split
    · exact ⟨rfl, rfl, rfl, rfl, Finset.subset_insert _ _, id⟩
    · exact refl cb

theorem expose (cb : CommandBuffer) (memory : Option MemoryId) : Reveals cb (cb.expose memory) :=
  ⟨rfl, rfl, rfl, rfl, Finset.subset_union_left, id⟩

/-- Barriers one after another. -/
theorem foldl {α : Type*} {f : CommandBuffer → α → CommandBuffer}
    (hf : ∀ cb a, Reveals cb (f cb a)) (l : List α) (cb : CommandBuffer) :
    Reveals cb (l.foldl f cb) := by
  induction l generalizing cb with
  | nil => exact refl cb
  | cons a l ih => exact (hf cb a).trans (ih (f cb a))

/-- What one of several barriers makes visible is visible after all of them. -/
theorem foldl_mem {α : Type*} {f : CommandBuffer → α → CommandBuffer}
    (hf : ∀ cb a, Reveals cb (f cb a)) {l : List α} {a : α} (ha : a ∈ l) (cb : CommandBuffer) :
    ∃ cb', Reveals cb cb' ∧ Reveals (f cb' a) (l.foldl f cb) := by
  induction l generalizing cb with
  | nil => cases ha
  | cons b l ih =>
    rcases List.mem_cons.1 ha with rfl | ha
    · exact ⟨cb, refl cb, foldl hf l _⟩
    · obtain ⟨cb', h, h'⟩ := ih ha (f cb b)
      exact ⟨cb', (hf cb b).trans h, h'⟩

end Reveals

/-- The memory of the target is visible in the record, by itself or through a descriptor. -/
def CommandBuffer.shows (t : ResourceTables) (cb : CommandBuffer) (x : Target) : Prop :=
  ∀ m, x.memory t = some m → m ∈ cb.hostVisibleWrites ∨
    (cb.descriptorWritesHostVisible = true ∧ cb.mayWrite t x)

/-- The record knows that the target has been written. -/
def CommandBuffer.noted (t : ResourceTables) (cb : CommandBuffer) (x : Target) : Prop :=
  ∀ m, x.memory t = some m → m ∈ cb.pendingWrites ∨ cb.mayWrite t x

theorem CommandBuffer.shows.mono {cb cb' : CommandBuffer} {x : Target} (h : cb.shows t x)
    (hr : Reveals cb cb') : cb'.shows t x := fun m hm =>
  (h m hm).imp (fun h => hr.visible h) fun h => ⟨hr.flag h.1, hr.mayWrite.2 h.2⟩

theorem shows_exposeAll {cb : CommandBuffer} {x : Target} (h : cb.noted t x) :
    cb.exposeAll.shows t x := fun m hm =>
  (h m hm).imp (fun h => Finset.mem_union_right _ h) fun h => ⟨rfl, h⟩

theorem shows_expose {cb : CommandBuffer} {x : Target} :
    (cb.expose (x.memory t)).shows t x := fun m hm => by
  simp [CommandBuffer.expose, hm]

theorem shows_exposeWritten {cb : CommandBuffer} {x : Target} {names : DescriptorResource → Bool}
    (h : cb.noted t x) (hnames : ∀ r, r.target t = some x → names r = true) :
    (cb.exposeWritten t (x.memory t) names).shows t x := by
  intro m hm
  unfold CommandBuffer.exposeWritten
  simp only [hm]
  have hcond : m ∈ cb.pendingWrites ∨
      ∃ s ∈ cb.writableDescriptorSets, ∃ r ∈ t.descriptorResources s, names r = true := by
    refine (h m hm).imp_right ?_
    rintro ⟨s, hs, r, hr, hx⟩
    exact ⟨s, hs, r, hr, hnames r hx⟩
  rw [if_pos hcond]
  exact .inl (Finset.mem_insert_self _ _)

theorem Reveals.noted {cb cb' : CommandBuffer} {x : Target} (h : Reveals cb cb')
    (hn : cb.noted t x) : cb'.noted t x := fun m hm =>
  (hn m hm).imp (fun hp => h.pending ▸ hp) h.mayWrite.2

/-- One barrier of several is enough. -/
theorem shows_foldl {α : Type*} {f : CommandBuffer → α → CommandBuffer}
    (hf : ∀ cb a, Reveals cb (f cb a)) {l : List α} {a : α} (ha : a ∈ l) {x : Target}
    (hshow : ∀ cb : CommandBuffer, cb.noted t x → (f cb a).shows t x) {cb : CommandBuffer}
    (hn : cb.noted t x) : (l.foldl f cb).shows t x := by
  obtain ⟨cb', h, h'⟩ := Reveals.foldl_mem hf ha cb
  exact (hshow cb' (h.noted hn)).mono h'

section Barriers

theorem reveals_memory (cb : CommandBuffer) (a : UInt64) :
    Reveals cb (if namesHostAccess a then cb.exposeAll else cb) := by
  split
  · exact .exposeAll cb
  · exact .refl cb

theorem reveals_buffer (cb : CommandBuffer) (b : BufferId × UInt64) :
    Reveals cb (if namesHostAccess b.2 then cb.exposeWritten t (t.bufferBindings b.1)
      (DescriptorResource.isBuffer t b.1) else cb) := by
  split
  · exact .exposeWritten cb _ _
  · exact .refl cb

theorem reveals_image (cb : CommandBuffer) (i : ImageId × UInt64) :
    Reveals cb (if namesHostAccess i.2 then cb.exposeWritten t (t.imageBindings i.1)
      (DescriptorResource.isImage t i.1) else cb) := by
  split
  · exact .exposeWritten cb _ _
  · exact .refl cb

theorem reveals_buffer2 (cb : CommandBuffer) (b : BufferId × Barrier2) :
    Reveals cb (if b.2.toHost then cb.expose (t.bufferBindings b.1) else cb) := by
  split
  · exact .expose cb _
  · exact .refl cb

theorem reveals_image2 (cb : CommandBuffer) (i : ImageId × Barrier2) :
    Reveals cb (if i.2.toHost then cb.expose (t.imageBindings i.1) else cb) := by
  split
  · exact .expose cb _
  · exact .refl cb

variable (cb : CommandBuffer)

theorem Reveals.pipelineBarrier (stage : UInt64) (memory : List UInt64)
    (buffers : List (BufferId × UInt64)) (images : List (ImageId × UInt64)) :
    Reveals cb (cb.pipelineBarrier t stage memory buffers images) := by
  unfold CommandBuffer.pipelineBarrier
  split
  · exact ((Reveals.foldl reveals_memory memory cb).trans
      (Reveals.foldl reveals_buffer buffers _)).trans (Reveals.foldl reveals_image images _)
  · exact .refl cb

theorem Reveals.pipelineBarrier2 (info : DependencyInfo) :
    Reveals cb (cb.pipelineBarrier2 t info) := by
  unfold CommandBuffer.pipelineBarrier2
  refine (Reveals.trans ?_ (Reveals.foldl reveals_buffer2 info.buffers _)).trans
    (Reveals.foldl reveals_image2 info.images _)
  split
  · exact .exposeAll cb
  · exact .refl cb

variable {cb} {x : Target}

/-- A barrier of `CmdPipelineBarrier` shows every noted target it covers. -/
theorem shows_pipelineBarrier {stage : UInt64} {memory : List UInt64}
    {buffers : List (BufferId × UInt64)} {images : List (ImageId × UInt64)}
    (hc : (Command.pipelineBarrier stage memory buffers images).hostBarrier namesHostAccess x = true)
    (hn : cb.noted t x) : (cb.pipelineBarrier t stage memory buffers images).shows t x := by
  have hcases : namesHostStage stage = true ∧ ((∃ a ∈ memory, namesHostAccess a = true) ∨
      (∃ b, x = .buffer b ∧ ∃ e ∈ buffers, e.1 = b ∧ namesHostAccess e.2 = true) ∨
      ∃ i, x = .image i ∧ ∃ e ∈ images, e.1 = i ∧ namesHostAccess e.2 = true) := by
    cases x <;> simpa [Command.hostBarrier] using hc
  obtain ⟨hstage, hcases⟩ := hcases
  have hmem := Reveals.foldl reveals_memory memory cb
  have hbuf := Reveals.foldl (reveals_buffer (t := t)) buffers (memory.foldl
    (fun cb a => if namesHostAccess a then cb.exposeAll else cb) cb)
  unfold CommandBuffer.pipelineBarrier
  rw [if_pos hstage]
  rcases hcases with ⟨a, ha, haccess⟩ | ⟨b, rfl, e, he, rfl, haccess⟩ | ⟨i, rfl, e, he, rfl, haccess⟩
  · refine CommandBuffer.shows.mono ?_ (hbuf.trans (Reveals.foldl reveals_image images _))
    refine shows_foldl reveals_memory ha (fun cb hn => ?_) hn
    rw [if_pos haccess]
    exact shows_exposeAll hn
  · refine CommandBuffer.shows.mono ?_ (Reveals.foldl reveals_image images _)
    refine shows_foldl reveals_buffer he (fun cb hn => ?_) (hmem.noted hn)
    rw [if_pos haccess]
    exact shows_exposeWritten hn fun r => DescriptorResource.isBuffer_of_target
  · refine shows_foldl reveals_image he (fun cb hn => ?_) (hbuf.noted (hmem.noted hn))
    rw [if_pos haccess]
    exact shows_exposeWritten hn fun r => DescriptorResource.isImage_of_target

/-- The same of `CmdPipelineBarrier2`. -/
theorem shows_pipelineBarrier2 {info : DependencyInfo}
    (hc : (Command.pipelineBarrier2 info).hostBarrier namesHostAccess x = true) (hn : cb.noted t x) :
    (cb.pipelineBarrier2 t info).shows t x := by
  have hcases : (info.memory.any Barrier2.toHost = true) ∨
      (∃ b, x = .buffer b ∧ ∃ e ∈ info.buffers, e.1 = b ∧ e.2.toHost = true) ∨
      ∃ i, x = .image i ∧ ∃ e ∈ info.images, e.1 = i ∧ e.2.toHost = true := by
    cases x <;> simpa [Command.hostBarrier, Barrier2.isHost, Barrier2.toHost] using hc
  have hmem : Reveals cb (if info.memory.any Barrier2.toHost then cb.exposeAll else cb) := by
    split
    · exact .exposeAll cb
    · exact .refl cb
  have hbuf := Reveals.foldl (reveals_buffer2 (t := t)) info.buffers
    (if info.memory.any Barrier2.toHost then cb.exposeAll else cb)
  unfold CommandBuffer.pipelineBarrier2
  rcases hcases with hall | ⟨b, rfl, e, he, rfl, hto⟩ | ⟨i, rfl, e, he, rfl, hto⟩
  · refine CommandBuffer.shows.mono ?_ (hbuf.trans (Reveals.foldl reveals_image2 info.images _))
    rw [if_pos hall]
    exact shows_exposeAll hn
  · refine CommandBuffer.shows.mono ?_ (Reveals.foldl reveals_image2 info.images _)
    refine shows_foldl reveals_buffer2 he (fun cb _ => ?_) (hmem.noted hn)
    rw [if_pos hto]
    exact shows_expose
  · refine shows_foldl reveals_image2 he (fun cb _ => ?_) (hbuf.noted (hmem.noted hn))
    rw [if_pos hto]
    exact shows_expose

end Barriers

/-- The record `cb` knows of everything in `e`. -/
structure Records (t : ResourceTables) (cb : CommandBuffer) (e : Exposure) : Prop where
  graphics : cb.boundGraphicsSets = e.graphics
  compute : cb.boundComputeSets = e.compute
  dirty : ∀ x ∈ e.dirty, cb.noted t x
  exposed : ∀ x ∈ e.exposed, cb.shows t x

/-- A write is noted beside what was noted before. -/
structure Notes (cb cb' : CommandBuffer) : Prop where
  pending : cb.pendingWrites ⊆ cb'.pendingWrites
  writable : cb.writableDescriptorSets ⊆ cb'.writableDescriptorSets
  visible : cb.hostVisibleWrites ⊆ cb'.hostVisibleWrites
  flag : cb.descriptorWritesHostVisible = true → cb'.descriptorWritesHostVisible = true

namespace Notes

variable {cb cb' : CommandBuffer} {x : Target}

theorem refl (cb : CommandBuffer) : Notes cb cb :=
  ⟨Finset.Subset.refl _, Finset.Subset.refl _, Finset.Subset.refl _, id⟩

theorem trans {a b c : CommandBuffer} (h : Notes a b) (h' : Notes b c) : Notes a c :=
  ⟨h.pending.trans h'.pending, h.writable.trans h'.writable, h.visible.trans h'.visible,
    h'.flag ∘ h.flag⟩

theorem mayWrite (h : Notes cb cb') (hx : cb.mayWrite t x) : cb'.mayWrite t x := by
  obtain ⟨s, hs, hr⟩ := hx
  exact ⟨s, h.writable hs, hr⟩

theorem noted (h : Notes cb cb') (hx : cb.noted t x) : cb'.noted t x := fun m hm =>
  (hx m hm).imp (fun hp => h.pending hp) h.mayWrite

theorem shows (h : Notes cb cb') (hx : cb.shows t x) : cb'.shows t x := fun m hm =>
  (hx m hm).imp (fun hv => h.visible hv) fun hd => ⟨h.flag hd.1, h.mayWrite hd.2⟩

theorem pend (cb : CommandBuffer) (memory : Option MemoryId) : Notes cb (cb.pend memory) :=
  ⟨Finset.subset_union_left, Finset.Subset.refl _, Finset.Subset.refl _, id⟩

theorem markDescriptorWrites (cb : CommandBuffer) (sets : List (ℕ × SetId)) :
    Notes cb (cb.markDescriptorWrites sets) :=
  ⟨Finset.Subset.refl _, Finset.subset_union_left, Finset.Subset.refl _, id⟩

theorem foldl_pend {α : Type*} (f : α → Option MemoryId) (l : List α) (cb : CommandBuffer) :
    Notes cb (l.foldl (fun cb a => cb.pend (f a)) cb) ∧
    (l.foldl (fun cb a => cb.pend (f a)) cb).boundGraphicsSets = cb.boundGraphicsSets ∧
    (l.foldl (fun cb a => cb.pend (f a)) cb).boundComputeSets = cb.boundComputeSets ∧
    ∀ a ∈ l, ∀ m, f a = some m →
      m ∈ (l.foldl (fun cb a => cb.pend (f a)) cb).pendingWrites := by
  induction l generalizing cb with
  | nil => exact ⟨refl cb, rfl, rfl, by simp⟩
  | cons b l ih =>
    obtain ⟨h1, h2, h3, h4⟩ := ih (cb.pend (f b))
    refine ⟨(pend cb _).trans h1, h2, h3, fun a ha m hm => ?_⟩
    rcases List.mem_cons.1 ha with rfl | ha
    · exact h1.pending (by simp [CommandBuffer.pend, hm])
    · exact h4 a ha m hm

end Notes

theorem noted_markFramebufferWrites (t : ResourceTables) (cb : CommandBuffer)
    (framebuffer : FramebufferId) (attachments : Option (List ViewId)) :
    Notes cb (cb.markFramebufferWrites t framebuffer attachments) ∧
    (cb.markFramebufferWrites t framebuffer attachments).boundGraphicsSets =
      cb.boundGraphicsSets ∧
    (cb.markFramebufferWrites t framebuffer attachments).boundComputeSets =
      cb.boundComputeSets ∧
    ∀ x ∈ attachmentTargets t framebuffer attachments,
      (cb.markFramebufferWrites t framebuffer attachments).noted t x := by
  unfold CommandBuffer.markFramebufferWrites attachmentTargets
  cases t.framebuffers framebuffer with
  | none => exact ⟨.refl cb, rfl, rfl, by simp⟩
  | some f =>
    obtain ⟨h1, h2, h3, h4⟩ := Notes.foldl_pend
      (fun v => (t.imageViewImages v).bind t.imageBindings)
      (CommandBuffer.framebufferViews f attachments) cb
    refine ⟨h1, h2, h3, fun x hx m hm => .inl ?_⟩
    simp only [Finset.mem_biUnion, List.mem_toFinset, Option.mem_toFinset,
      Option.mem_def, Option.map_eq_some_iff] at hx
    obtain ⟨v, hv, i, hi, rfl⟩ := hx
    exact h4 v hv m (by rw [hi]; exact hm)

theorem noted_markDescriptorWrites {cb : CommandBuffer} {sets : List (ℕ × SetId)} {x : Target}
    (hx : x ∈ boundTargets t sets) : (cb.markDescriptorWrites sets).noted t x := by
  simp only [boundTargets, Finset.mem_biUnion, List.mem_toFinset, Option.mem_toFinset,
    Option.mem_def] at hx
  obtain ⟨s, hs, r, hr, hx⟩ := hx
  exact fun _ _ => .inr ⟨s, Finset.mem_union_right _ (List.mem_toFinset.2 hs), r, hr, hx⟩

/-- A command that is no barrier: what it writes is noted, the rest stays. -/
theorem Records.write {cb cb' : CommandBuffer} {e : Exposure} {c : Command} (h : Records t cb e)
    (hn : Notes cb cb') (hg : cb'.boundGraphicsSets = (e.next namesHostAccess t c).graphics)
    (hc : cb'.boundComputeSets = (e.next namesHostAccess t c).compute)
    (hw : ∀ x ∈ e.writes t c, cb'.noted t x) (hbar : ∀ x, c.hostBarrier namesHostAccess x = false) :
    Records t cb' (e.next namesHostAccess t c) := by
  refine ⟨hg, hc, fun x hx => ?_, fun x hx => ?_⟩
  · rcases Finset.mem_union.1 hx with hx | hx
    · exact hn.noted (h.dirty x hx)
    · exact hw x hx
  · rcases Finset.mem_union.1 hx with hx | hx
    · exact hn.shows (h.exposed x hx)
    · simp [hbar] at hx

/-- A barrier: everything noted that it covers is shown. -/
theorem Records.reveal {cb cb' : CommandBuffer} {e : Exposure} {c : Command} (h : Records t cb e)
    (hr : Reveals cb cb') (hg : (e.next namesHostAccess t c).graphics = e.graphics)
    (hc : (e.next namesHostAccess t c).compute = e.compute) (hw : e.writes t c = ∅)
    (hshow : ∀ x, c.hostBarrier namesHostAccess x = true → cb.noted t x → cb'.shows t x) :
    Records t cb' (e.next namesHostAccess t c) := by
  refine ⟨by rw [hr.graphics, hg, h.graphics], by rw [hr.compute, hc, h.compute],
    fun x hx => ?_, fun x hx => ?_⟩
  · rcases Finset.mem_union.1 hx with hx | hx
    · exact hr.noted (h.dirty x hx)
    · simp [hw] at hx
  · rcases Finset.mem_union.1 hx with hx | hx
    · exact (h.exposed x hx).mono hr
    · obtain ⟨hx, hbar⟩ := Finset.mem_filter.1 hx
      exact hshow x hbar (h.dirty x hx)

theorem Records.record {cb : CommandBuffer} {e : Exposure} (h : Records t cb e) (c : Command) :
    Records t (cb.record t c) (e.next namesHostAccess t c) := by
  cases c with
  | copyToBuffer dst =>
    refine h.write (.pend cb _) h.graphics h.compute (fun x hx m hm => .inl ?_) fun x => ?_
    · obtain rfl := Finset.mem_singleton.1 hx
      have hm : t.bufferBindings dst = some m := hm
      simp [CommandBuffer.record, CommandBuffer.pend, hm]
    · cases x <;> rfl
  | copyToImage dst =>
    refine h.write (.pend cb _) h.graphics h.compute (fun x hx m hm => .inl ?_) fun x => ?_
    · obtain rfl := Finset.mem_singleton.1 hx
      have hm : t.imageBindings dst = some m := hm
      simp [CommandBuffer.record, CommandBuffer.pend, hm]
    · cases x <;> rfl
  | beginRenderPass framebuffer attachments =>
    obtain ⟨hn, hg, hc, hw⟩ := noted_markFramebufferWrites t cb framebuffer attachments
    exact h.write hn (hg.trans h.graphics) (hc.trans h.compute) hw fun x => by cases x <;> rfl
  | bindDescriptorSets compute firstSet sets =>
    cases compute with
    | true =>
      exact h.write ⟨Finset.Subset.refl _, Finset.Subset.refl _, Finset.Subset.refl _, id⟩ h.graphics
        (by simp only [CommandBuffer.record, h.compute]; rfl)
        (fun x hx => by simp [Exposure.writes] at hx) fun x => by cases x <;> rfl
    | false =>
      exact h.write ⟨Finset.Subset.refl _, Finset.Subset.refl _, Finset.Subset.refl _, id⟩
        (by simp only [CommandBuffer.record, h.graphics]; rfl) h.compute
        (fun x hx => by simp [Exposure.writes] at hx) fun x => by cases x <;> rfl
  | draw =>
    refine h.write (.markDescriptorWrites cb _) h.graphics h.compute (fun x hx => ?_)
      fun x => by cases x <;> rfl
    exact noted_markDescriptorWrites (h.graphics ▸ hx)
  | dispatch =>
    refine h.write (.markDescriptorWrites cb _) h.graphics h.compute (fun x hx => ?_)
      fun x => by cases x <;> rfl
    exact noted_markDescriptorWrites (h.compute ▸ hx)
  | pipelineBarrier stage memory buffers images =>
    exact h.reveal (.pipelineBarrier cb stage memory buffers images) rfl rfl rfl
      fun x => shows_pipelineBarrier
  | pipelineBarrier2 info =>
    exact h.reveal (.pipelineBarrier2 cb info) rfl rfl rfl fun x => shows_pipelineBarrier2

theorem Records.foldl {cb : CommandBuffer} {e : Exposure} (h : Records t cb e)
    (commands : List Command) :
    Records t (commands.foldl (CommandBuffer.record t) cb)
      (commands.foldl (Exposure.next namesHostAccess t) e) := by
  induction commands generalizing cb e with
  | nil => exact h
  | cons c commands ih => exact ih (h.record c)

theorem records_empty : Records t {} {} :=
  ⟨rfl, rfl, by simp, by simp⟩

theorem Records.execute {cb : CommandBuffer} {e : Exposure} (h : Records t cb e)
    (commands : List Command) :
    Records t (cb.execute (CommandBuffer.recordAll t commands)) (e.execute namesHostAccess t false commands) := by
  have hs : Records t (CommandBuffer.recordAll t commands)
      (commands.foldl (Exposure.next namesHostAccess t) { dirty := ∅ }) := records_empty.foldl commands
  unfold CommandBuffer.execute Exposure.execute
  generalize CommandBuffer.recordAll t commands = s at hs
  have hl : Notes cb (cb.execute s) :=
    ⟨Finset.subset_union_left, Finset.subset_union_left, Finset.subset_union_left,
      fun hf => by simp [CommandBuffer.execute, hf]⟩
  have hr : Notes s (cb.execute s) :=
    ⟨Finset.subset_union_right, Finset.subset_union_right, Finset.subset_union_right,
      fun hf => by simp [CommandBuffer.execute, hf]⟩
  refine ⟨h.graphics, h.compute, fun x hx => ?_, fun x hx => ?_⟩
  · rcases Finset.mem_union.1 hx with hx | hx
    · exact hl.noted (h.dirty x hx)
    · exact hr.noted (hs.dirty x hx)
  · rcases Finset.mem_union.1 hx with hx | hx
    · exact hl.shows (h.exposed x hx)
    · exact hr.shows (hs.exposed x hx)

theorem Records.recordPrimary {cb : CommandBuffer} {e : Exposure} (h : Records t cb e)
    (c : PrimaryCommand) : Records t (cb.recordPrimary t c) (e.nextPrimary namesHostAccess t false c) := by
  cases c with
  | own c => exact h.record c
  | executeCommands secondaries =>
    simp only [CommandBuffer.recordPrimary, Exposure.nextPrimary]
    induction secondaries generalizing cb e with
    | nil => exact h
    | cons commands secondaries ih => exact ih (h.execute commands)

/-- A submit attributes to a command buffer the memory of everything it writes and then makes
visible itself. -/
theorem mem_submitWrites_of_locallyExposed {commands : List PrimaryCommand} {x : Target}
    {m : MemoryId} (hx : x ∈ locallyExposed t commands) (hm : x.memory t = some m) :
    m ∈ (CommandBuffer.recordPrimaries t commands).submitWrites t := by
  have hall : ∀ (l : List PrimaryCommand) cb e, Records t cb e →
      Records t (l.foldl (CommandBuffer.recordPrimary t) cb)
        (l.foldl (Exposure.nextPrimary namesHostAccess t false) e) := by
    intro l
    induction l with
    | nil => exact fun cb e h => h
    | cons c l ih => exact fun cb e h => ih _ _ (h.recordPrimary c)
  rcases (hall commands {} {} records_empty).exposed x hx m hm with hv | ⟨hflag, hw⟩
  · exact Finset.mem_union_left _ hv
  · exact mem_submitWrites_of_mayWrite hflag hw hm

end VkRemote.Client
