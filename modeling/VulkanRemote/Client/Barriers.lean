import VulkanRemote.Client.Exposure

/-! The four commands that can make writes visible to the host, given the same barriers: what each of them
makes visible, when they agree, and when they show all that was written and is covered. -/

namespace VkRemote.Client

/-- Memory, buffer and image barriers with their destination access. -/
structure Barriers where
  memory : List UInt64
  buffers : List (BufferId × UInt64)
  images : List (ImageId × UInt64)

/-- The same barriers for the commands that give each its own destination stage. -/
def Barriers.dependencyInfo (b : Barriers) (stage : UInt64) : DependencyInfo where
  memory := b.memory.map fun a => ⟨stage, a⟩
  buffers := b.buffers.map fun x => (x.1, ⟨stage, x.2⟩)
  images := b.images.map fun x => (x.1, ⟨stage, x.2⟩)

/-- The barriers, in order, given to several events. -/
structure Barriers.Shared (b : Barriers) (stage : UInt64) (infos : List DependencyInfo) : Prop where
  memory : infos.flatMap DependencyInfo.memory = (b.dependencyInfo stage).memory
  buffers : infos.flatMap DependencyInfo.buffers = (b.dependencyInfo stage).buffers
  images : infos.flatMap DependencyInfo.images = (b.dependencyInfo stage).images

/-- `kMaxArrayElements`. -/
def maxBarriers : ℕ := 2 ^ 20

/-- What `write_DependencyInfo` checks of barriers without extensions. -/
def DependencyInfo.writable (d : DependencyInfo) : Bool :=
  d.memory.length ≤ maxBarriers && d.buffers.length ≤ maxBarriers && d.images.length ≤ maxBarriers

namespace CommandBuffer

variable (t : ResourceTables) (cb : CommandBuffer)

def cmdPipelineBarrier (stage : UInt64) (b : Barriers) : CommandBuffer :=
  cb.pipelineBarrier t stage b.memory b.buffers b.images

def cmdWaitEvents (stage : UInt64) (b : Barriers) : CommandBuffer :=
  cb.pipelineBarrier t stage b.memory b.buffers b.images

/-- `false` where the command gives up and sends nothing. -/
def cmdPipelineBarrier2 (info : DependencyInfo) : CommandBuffer × Bool :=
  if info.writable then (cb.pipelineBarrier2 t info, true) else (cb, false)

/-- One event of `CmdWaitEvents2`: every memory barrier is looked at by itself. -/
def waitEvent2 (info : DependencyInfo) : CommandBuffer :=
  let cb := info.memory.foldl (fun cb b => if b.toHost then cb.exposeAll else cb) cb
  let cb := info.buffers.foldl
    (fun cb b => if b.2.toHost then cb.expose (t.bufferBindings b.1) else cb) cb
  info.images.foldl (fun cb i => if i.2.toHost then cb.expose (t.imageBindings i.1) else cb) cb

/-- The loop over the events: one that cannot be written ends it, those before it have been attributed. -/
def waitEvents2 (t : ResourceTables) : CommandBuffer → List DependencyInfo → CommandBuffer × Bool
  | cb, [] => (cb, true)
  | cb, info :: infos =>
    if info.writable then waitEvents2 t (cb.waitEvent2 t info) infos else (cb, false)

def cmdWaitEvents2 (infos : List DependencyInfo) : CommandBuffer × Bool :=
  if maxBarriers < infos.length then (cb, false) else waitEvents2 t cb infos

/-- The memories that the recorded draws and dispatches may have written through descriptors. -/
def descriptorWrites : Finset MemoryId :=
  cb.writableDescriptorSets.biUnion fun s =>
    (t.descriptorResources s).toFinset.biUnion fun r => (r.memory t).toFinset

/-- The memories written so far. -/
def writes : Finset MemoryId := cb.pendingWrites ∪ cb.descriptorWrites t

/-- A set that may be written through names the resource. -/
def names (p : DescriptorResource → Bool) : Prop :=
  ∃ s ∈ cb.writableDescriptorSets, ∃ r ∈ t.descriptorResources s, p r = true

end CommandBuffer

namespace Barriers

variable (b : Barriers) (t : ResourceTables)

/-- A memory barrier has such an access. -/
def global (access : UInt64 → Bool) : Prop := ∃ a ∈ b.memory, access a = true

/-- A barrier with such an access is about a buffer or an image in the memory. -/
def resource (access : UInt64 → Bool) (m : MemoryId) : Prop :=
  (∃ x ∈ b.buffers, access x.2 = true ∧ t.bufferBindings x.1 = some m) ∨
    ∃ x ∈ b.images, access x.2 = true ∧ t.imageBindings x.1 = some m

/-- The barriers cover the memory with such an access. -/
def covers (access : UInt64 → Bool) (m : MemoryId) : Prop := b.global access ∨ b.resource t access m

/-- A barrier to the host is about a buffer or an image in the memory that the recording has written: by a
command, as far as the memory tells, or through a descriptor of its own. -/
def finds (cb : CommandBuffer) (m : MemoryId) : Prop :=
  (∃ x ∈ b.buffers, namesHostAccess x.2 = true ∧ t.bufferBindings x.1 = some m ∧
      (m ∈ cb.pendingWrites ∨ cb.names t (DescriptorResource.isBuffer t x.1))) ∨
    ∃ x ∈ b.images, namesHostAccess x.2 = true ∧ t.imageBindings x.1 = some m ∧
      (m ∈ cb.pendingWrites ∨ cb.names t (DescriptorResource.isImage t x.1))

end Barriers

/-! ### What each of them makes visible -/

section

variable {t : ResourceTables} {cb : CommandBuffer} {m : MemoryId}

theorem mem_submitWrites : m ∈ cb.submitWrites t ↔
    m ∈ cb.hostVisibleWrites ∨ cb.descriptorWritesHostVisible = true ∧ m ∈ cb.descriptorWrites t := by
  unfold CommandBuffer.submitWrites
  rw [Finset.mem_union]
  split
  · next h => simp only [h, true_and, CommandBuffer.descriptorWrites]
  · next h => simp only [h, Bool.false_eq_true, false_and, Finset.notMem_empty]

theorem Reveals.writes {cb' : CommandBuffer} (h : Reveals cb cb') : cb'.writes t = cb.writes t := by
  simp only [CommandBuffer.writes, CommandBuffer.descriptorWrites, h.pending, h.writable]

theorem Reveals.names {cb' : CommandBuffer} (h : Reveals cb cb') (p : DescriptorResource → Bool) :
    cb'.names t p ↔ cb.names t p := by
  simp only [CommandBuffer.names, h.writable]

theorem mem_exposeAll : m ∈ cb.exposeAll.submitWrites t ↔ m ∈ cb.submitWrites t ∨ m ∈ cb.writes t := by
  simp only [mem_submitWrites, CommandBuffer.exposeAll, CommandBuffer.writes, CommandBuffer.descriptorWrites,
    Finset.mem_union]
  tauto

theorem mem_expose (memory : Option MemoryId) :
    m ∈ (cb.expose memory).submitWrites t ↔ m ∈ cb.submitWrites t ∨ memory = some m := by
  simp only [mem_submitWrites, CommandBuffer.expose, CommandBuffer.descriptorWrites, Finset.mem_union,
    Option.mem_toFinset, Option.mem_def]
  tauto

theorem mem_exposeWritten (memory : Option MemoryId) (p : DescriptorResource → Bool) :
    m ∈ (cb.exposeWritten t memory p).submitWrites t ↔
      m ∈ cb.submitWrites t ∨ memory = some m ∧ (m ∈ cb.pendingWrites ∨ cb.names t p) := by
  unfold CommandBuffer.exposeWritten
  cases memory with
  | none => simp
  | some m' =>
    dsimp only
    split
    · next h =>
      simp only [mem_submitWrites, CommandBuffer.descriptorWrites, Finset.mem_insert, Option.some.injEq]
      have hfound : m = m' → m ∈ cb.pendingWrites ∨ cb.names t p := by
        rintro rfl
        exact h
      constructor
      · rintro ((rfl | hm) | hm)
        exacts [.inr ⟨rfl, hfound rfl⟩, .inl (.inl hm), .inl (.inr hm)]
      · rintro ((hm | hm) | ⟨rfl, -⟩)
        exacts [.inl (.inr hm), .inr hm, .inl (.inl rfl)]
    · next h =>
      have hno : ¬ (some m' = some m ∧ (m ∈ cb.pendingWrites ∨ cb.names t p)) := by
        rintro ⟨heq, hfound⟩
        obtain rfl := Option.some.inj heq
        exact h hfound
      rw [or_iff_left hno]

/-- Barriers one after another add up: none of them changes what the others look at. -/
theorem mem_foldl_barriers {α : Type*} {v : CommandBuffer → Finset MemoryId}
    {f : CommandBuffer → α → CommandBuffer} {P : α → Prop} (hreveals : ∀ cb a, Reveals cb (f cb a))
    (hf : ∀ cb' a, Reveals cb cb' → (m ∈ v (f cb' a) ↔ m ∈ v cb' ∨ P a)) (l : List α) {cb' : CommandBuffer}
    (h : Reveals cb cb') : m ∈ v (l.foldl f cb') ↔ m ∈ v cb' ∨ ∃ a ∈ l, P a := by
  induction l generalizing cb' with
  | nil => simp
  | cons a l ih =>
    rw [List.foldl_cons, ih (h.trans (hreveals cb' a)), hf cb' a h, or_assoc]
    simp only [List.mem_cons, exists_eq_or_imp]

theorem mem_ite_barrier {v : CommandBuffer → Finset MemoryId} {p : Prop} [Decidable p] {cb' : CommandBuffer}
    {Q : Prop} (h : m ∈ v cb' ↔ m ∈ v cb ∨ Q) :
    m ∈ v (if p then cb' else cb) ↔ m ∈ v cb ∨ p ∧ Q := by
  split
  · next hp => simp only [h, hp, true_and]
  · next hp => simp only [hp, false_and, or_false]

theorem mem_foldl_shown {α : Type*} {f : CommandBuffer → α → CommandBuffer} {P : α → Prop}
    (hreveals : ∀ cb a, Reveals cb (f cb a))
    (hf : ∀ cb' a, Reveals cb cb' → (m ∈ (f cb' a).submitWrites t ↔ m ∈ cb'.submitWrites t ∨ P a))
    (l : List α) {cb' : CommandBuffer} (h : Reveals cb cb') :
    m ∈ (l.foldl f cb').submitWrites t ↔ m ∈ cb'.submitWrites t ∨ ∃ a ∈ l, P a :=
  mem_foldl_barriers (v := (·.submitWrites t)) hreveals hf l h

theorem mem_ite_shown {p : Prop} [Decidable p] {cb' : CommandBuffer} {Q : Prop}
    (h : m ∈ cb'.submitWrites t ↔ m ∈ cb.submitWrites t ∨ Q) :
    m ∈ (if p then cb' else cb).submitWrites t ↔ m ∈ cb.submitWrites t ∨ p ∧ Q :=
  mem_ite_barrier (v := (·.submitWrites t)) h

/-- `CmdPipelineBarrier` looks for what was written. -/
theorem mem_pipelineBarrier {stage : UInt64} (hstage : namesHostStage stage = true) (b : Barriers) :
    m ∈ (cb.pipelineBarrier t stage b.memory b.buffers b.images).submitWrites t ↔
      m ∈ cb.submitWrites t ∨ b.global namesHostAccess ∧ m ∈ cb.writes t ∨ b.finds t cb m := by
  have hmem := Reveals.foldl reveals_memory b.memory cb
  have hbuf := hmem.trans (Reveals.foldl (reveals_buffer (t := t)) b.buffers _)
  have hnoted : ∀ {cb'} (p : DescriptorResource → Bool), Reveals cb cb' →
      (m ∈ cb'.pendingWrites ∨ cb'.names t p ↔ m ∈ cb.pendingWrites ∨ cb.names t p) :=
    fun p h => or_congr (by rw [h.pending]) (h.names p)
  unfold CommandBuffer.pipelineBarrier
  rw [if_pos hstage]
  dsimp only
  rw [mem_foldl_shown reveals_image (fun cb' x h => mem_ite_shown (by
      rw [mem_exposeWritten, hnoted _ h])) b.images hbuf,
    mem_foldl_shown reveals_buffer (fun cb' x h => mem_ite_shown (by
      rw [mem_exposeWritten, hnoted _ h])) b.buffers hmem,
    mem_foldl_shown reveals_memory (fun cb' a h => mem_ite_shown (by
      rw [mem_exposeAll, h.writes])) b.memory (.refl cb)]
  simp only [Barriers.finds, Barriers.global, or_assoc, ← exists_and_right, and_assoc]

/-- The barriers of `info` to the host that make the memory visible. -/
def DependencyInfo.shows (t : ResourceTables) (cb : CommandBuffer) (info : DependencyInfo) (m : MemoryId) :
    Prop :=
  (∃ b ∈ info.memory, b.toHost = true ∧ m ∈ cb.writes t) ∨
    (∃ x ∈ info.buffers, x.2.toHost = true ∧ t.bufferBindings x.1 = some m) ∨
    ∃ x ∈ info.images, x.2.toHost = true ∧ t.imageBindings x.1 = some m

theorem reveals_memory2 (cb : CommandBuffer) (b : Barrier2) :
    Reveals cb (if b.toHost then cb.exposeAll else cb) := by
  split
  · exact .exposeAll cb
  · exact .refl cb

/-- Looking for one general barrier first comes to the same as looking at each. -/
theorem mem_waitEvent2 {cb' : CommandBuffer} (h : Reveals cb cb') (info : DependencyInfo) :
    m ∈ (cb'.waitEvent2 t info).submitWrites t ↔ m ∈ cb'.submitWrites t ∨ info.shows t cb m := by
  have hmem := h.trans (Reveals.foldl reveals_memory2 info.memory cb')
  have hbuf := hmem.trans (Reveals.foldl (reveals_buffer2 (t := t)) info.buffers _)
  unfold CommandBuffer.waitEvent2
  dsimp only
  rw [mem_foldl_shown reveals_image2 (fun cb' x _ => mem_ite_shown (mem_expose _)) info.images hbuf,
    mem_foldl_shown reveals_buffer2 (fun cb' x _ => mem_ite_shown (mem_expose _)) info.buffers hmem,
    mem_foldl_shown reveals_memory2 (fun cb' b h => mem_ite_shown (by
      rw [mem_exposeAll, h.writes])) info.memory h]
  simp only [DependencyInfo.shows, or_assoc]

theorem mem_pipelineBarrier2 (info : DependencyInfo) :
    m ∈ (cb.pipelineBarrier2 t info).submitWrites t ↔ m ∈ cb.submitWrites t ∨ info.shows t cb m := by
  have hmem : Reveals cb (if info.memory.any Barrier2.toHost then cb.exposeAll else cb) := by
    split
    · exact .exposeAll cb
    · exact .refl cb
  have hbuf := hmem.trans (Reveals.foldl (reveals_buffer2 (t := t)) info.buffers _)
  unfold CommandBuffer.pipelineBarrier2
  dsimp only
  rw [mem_foldl_shown reveals_image2 (fun cb' x _ => mem_ite_shown (mem_expose _)) info.images hbuf,
    mem_foldl_shown reveals_buffer2 (fun cb' x _ => mem_ite_shown (mem_expose _)) info.buffers hmem,
    mem_ite_shown mem_exposeAll]
  simp only [DependencyInfo.shows, or_assoc, List.any_eq_true, ← exists_and_right, and_assoc]

theorem reveals_waitEvent2 (cb : CommandBuffer) (info : DependencyInfo) : Reveals cb (cb.waitEvent2 t info) :=
  ((Reveals.foldl reveals_memory2 info.memory cb).trans (Reveals.foldl reveals_buffer2 info.buffers _)).trans
    (Reveals.foldl reveals_image2 info.images _)

theorem mem_waitEvents2 (infos : List DependencyInfo) {cb' : CommandBuffer} (h : Reveals cb cb')
    (hsent : (cb'.waitEvents2 t infos).2 = true) :
    m ∈ (cb'.waitEvents2 t infos).1.submitWrites t ↔
      m ∈ cb'.submitWrites t ∨ ∃ info ∈ infos, info.shows t cb m := by
  induction infos generalizing cb' with
  | nil => simp [CommandBuffer.waitEvents2]
  | cons info infos ih =>
    unfold CommandBuffer.waitEvents2 at hsent ⊢
    split at hsent
    · next hw =>
      rw [if_pos hw, ih (h.trans (reveals_waitEvent2 cb' info)) hsent, mem_waitEvent2 h, or_assoc]
      simp only [List.mem_cons, exists_eq_or_imp]
    · cases hsent

/-- `CmdPipelineBarrier2` takes every resource it finds a memory for. -/
theorem shows_dependencyInfo {stage : UInt64} (hstage : namesHostStage stage = true) (b : Barriers) :
    (b.dependencyInfo stage).shows t cb m ↔
      b.global namesHostAccess ∧ m ∈ cb.writes t ∨ b.resource t namesHostAccess m := by
  have hhost : ∀ a, Barrier2.toHost ⟨stage, a⟩ = namesHostAccess a := fun a => by
    rw [Barrier2.toHost, hstage, Bool.true_and]
  simp only [DependencyInfo.shows, Barriers.dependencyInfo, List.mem_map, exists_exists_and_eq_and, hhost]
  simp only [Barriers.global, Barriers.resource, ← exists_and_right, and_assoc]

theorem shows_shared {b : Barriers} {stage : UInt64} {infos : List DependencyInfo} (h : b.Shared stage infos) :
    (∃ info ∈ infos, info.shows t cb m) ↔ (b.dependencyInfo stage).shows t cb m := by
  simp only [DependencyInfo.shows, ← h.memory, ← h.buffers, ← h.images, List.mem_flatMap]
  constructor
  · rintro ⟨info, hinfo, ⟨x, hx, hp⟩ | ⟨x, hx, hp⟩ | ⟨x, hx, hp⟩⟩
    · exact .inl ⟨x, ⟨info, hinfo, hx⟩, hp⟩
    · exact .inr (.inl ⟨x, ⟨info, hinfo, hx⟩, hp⟩)
    · exact .inr (.inr ⟨x, ⟨info, hinfo, hx⟩, hp⟩)
  · rintro (⟨x, ⟨info, hinfo, hx⟩, hp⟩ | ⟨x, ⟨info, hinfo, hx⟩, hp⟩ | ⟨x, ⟨info, hinfo, hx⟩, hp⟩)
    · exact ⟨info, hinfo, .inl ⟨x, hx, hp⟩⟩
    · exact ⟨info, hinfo, .inr (.inl ⟨x, hx, hp⟩)⟩
    · exact ⟨info, hinfo, .inr (.inr ⟨x, hx, hp⟩)⟩

theorem Barriers.finds.resource {b : Barriers} (h : b.finds t cb m) : b.resource t namesHostAccess m := by
  rcases h with ⟨x, hx, hhost, hm, -⟩ | ⟨x, hx, hhost, hm, -⟩
  · exact .inl ⟨x, hx, hhost, hm⟩
  · exact .inr ⟨x, hx, hhost, hm⟩

end

/-- The four commands make the same memories visible, and all that were written and are covered with an
access that includes the host's. -/
structure Barriers.Published (t : ResourceTables) (cb : CommandBuffer) (stage : UInt64) (b : Barriers)
    (infos : List DependencyInfo) : Prop where
  waitEvents : (cb.cmdWaitEvents t stage b).submitWrites t = (cb.cmdPipelineBarrier t stage b).submitWrites t
  pipelineBarrier2 : (cb.cmdPipelineBarrier2 t (b.dependencyInfo stage)).1.submitWrites t =
    (cb.cmdPipelineBarrier t stage b).submitWrites t
  waitEvents2 : (cb.cmdWaitEvents2 t infos).1.submitWrites t =
    (cb.cmdPipelineBarrier t stage b).submitWrites t
  covered : ∀ m ∈ cb.writes t, b.covers t includesHostAccess m →
    m ∈ (cb.cmdPipelineBarrier t stage b).submitWrites t

/-- What the barriers ask of the state they are recorded in: a resource barrier to the host is about memory
that is visible already, or that the older commands find written, and the accesses that stand for every
access cover no written memory that is neither visible nor covered by one of the host's own bits. -/
structure Barriers.Plain (t : ResourceTables) (cb : CommandBuffer) (b : Barriers) : Prop where
  found : ∀ m, b.resource t namesHostAccess m →
    m ∈ cb.submitWrites t ∨ b.global namesHostAccess ∧ m ∈ cb.writes t ∨ b.finds t cb m
  spelled : ∀ m ∈ cb.writes t, b.covers t includesHostAccess m →
    m ∈ cb.submitWrites t ∨ b.covers t namesHostAccess m

theorem published_iff {t : ResourceTables} {cb : CommandBuffer} {stage : UInt64} {b : Barriers}
    {infos : List DependencyInfo} (hstage : namesHostStage stage = true) (hshared : b.Shared stage infos)
    (hsent : (cb.cmdPipelineBarrier2 t (b.dependencyInfo stage)).2 = true)
    (hsent' : (cb.cmdWaitEvents2 t infos).2 = true) :
    b.Published t cb stage infos ↔ b.Plain t cb := by
  have hone : ∀ m, m ∈ (cb.cmdPipelineBarrier t stage b).submitWrites t ↔
      m ∈ cb.submitWrites t ∨ b.global namesHostAccess ∧ m ∈ cb.writes t ∨ b.finds t cb m :=
    fun m => mem_pipelineBarrier hstage b
  have htwo : ∀ m, m ∈ (cb.cmdPipelineBarrier2 t (b.dependencyInfo stage)).1.submitWrites t ↔
      m ∈ cb.submitWrites t ∨ b.global namesHostAccess ∧ m ∈ cb.writes t ∨ b.resource t namesHostAccess m := by
    intro m
    unfold CommandBuffer.cmdPipelineBarrier2 at hsent ⊢
    split at hsent
    · next hw => rw [if_pos hw, mem_pipelineBarrier2, shows_dependencyInfo hstage]
    · cases hsent
  have hevents : ∀ m, m ∈ (cb.cmdWaitEvents2 t infos).1.submitWrites t ↔
      m ∈ cb.submitWrites t ∨ b.global namesHostAccess ∧ m ∈ cb.writes t ∨ b.resource t namesHostAccess m := by
    intro m
    unfold CommandBuffer.cmdWaitEvents2 at hsent' ⊢
    split at hsent'
    · cases hsent'
    · next hcount =>
      rw [if_neg hcount, mem_waitEvents2 infos (.refl cb) hsent', shows_shared hshared,
        shows_dependencyInfo hstage]
  constructor
  · intro h
    refine ⟨fun m hm => ?_, fun m hw hc => ?_⟩
    · rw [← hone, ← h.pipelineBarrier2, htwo]
      exact .inr (.inr hm)
    · rcases (hone m).1 (h.covered m hw hc) with hv | ⟨hg, -⟩ | hf
      · exact .inl hv
      · exact .inr (.inl hg)
      · exact .inr (.inr hf.resource)
  · intro h
    have hsame : ∀ m, (m ∈ cb.submitWrites t ∨ b.global namesHostAccess ∧ m ∈ cb.writes t ∨
        b.resource t namesHostAccess m) ↔ m ∈ (cb.cmdPipelineBarrier t stage b).submitWrites t := by
      intro m
      rw [hone]
      constructor
      · rintro (hv | hg | hr)
        exacts [.inl hv, .inr (.inl hg), h.found m hr]
      · exact Or.imp_right (Or.imp_right Barriers.finds.resource)
    refine ⟨rfl, ?_, ?_, fun m hw hc => ?_⟩
    · exact Finset.ext fun m => (htwo m).trans (hsame m)
    · exact Finset.ext fun m => (hevents m).trans (hsame m)
    · rw [← hsame]
      rcases h.spelled m hw hc with hv | hg | hr
      exacts [.inl hv, .inr (.inl ⟨hg, hw⟩), .inr (.inr hr)]

/-- Buffer 1 lies in memory 7. -/
def oneBuffer : ResourceTables where
  bufferBindings b := if b = 1 then some 7 else none

/-- A copy into the buffer has been recorded. -/
def copied : CommandBuffer := CommandBuffer.recordAll oneBuffer [.copyToBuffer 1]

/-- A memory barrier with `VK_ACCESS_HOST_READ_BIT`. -/
def hostRead : Barriers := ⟨[0x2000], [], []⟩

/-- A memory barrier with `VK_ACCESS_MEMORY_READ_BIT`. -/
def memoryRead : Barriers := ⟨[0x8000], [], []⟩

/-- A barrier for the buffer with `VK_ACCESS_HOST_READ_BIT`. -/
def bufferRead : Barriers := ⟨[], [(1, 0x2000)], []⟩

theorem shared_single (b : Barriers) (stage : UInt64) : b.Shared stage [b.dependencyInfo stage] := by
  refine ⟨?_, ?_, ?_⟩ <;> exact List.append_nil _

theorem plain_hostRead : hostRead.Plain oneBuffer copied := by
  refine ⟨fun m hm => ?_, fun m _ _ => .inr (.inl ⟨0x2000, by decide, by decide⟩)⟩
  simp [Barriers.resource, hostRead] at hm

theorem published_hostRead :
    hostRead.Published oneBuffer copied stageHost [hostRead.dependencyInfo stageHost] :=
  (published_iff (by decide) (shared_single _ _) (by decide) (by decide)).2 plain_hostRead

/-- The copied bytes are not published by a barrier for every read, and only the newer commands publish a
buffer that nothing has written. -/
theorem memoryRead_unpublished :
    (7 ∈ copied.writes oneBuffer ∧ memoryRead.covers oneBuffer includesHostAccess 7 ∧
      7 ∉ (copied.cmdPipelineBarrier oneBuffer stageHost memoryRead).submitWrites oneBuffer ∧
      ¬ memoryRead.Published oneBuffer copied stageHost [memoryRead.dependencyInfo stageHost]) ∧
    (CommandBuffer.cmdPipelineBarrier oneBuffer {} stageHost bufferRead).submitWrites oneBuffer = ∅ ∧
      (CommandBuffer.cmdPipelineBarrier2 oneBuffer {} (bufferRead.dependencyInfo stageHost)).1.submitWrites
        oneBuffer = {7} := by
  have hwrites : 7 ∈ copied.writes oneBuffer := by decide
  have hcovers : memoryRead.covers oneBuffer includesHostAccess 7 := .inl ⟨0x8000, by decide, by decide⟩
  have hno : 7 ∉ (copied.cmdPipelineBarrier oneBuffer stageHost memoryRead).submitWrites oneBuffer := by decide
  exact ⟨⟨hwrites, hcovers, hno, fun h => hno (h.covered 7 hwrites hcovers)⟩, by decide, by decide⟩

end VkRemote.Client
