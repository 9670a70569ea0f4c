import VulkanRemote.Marshal.Contents

/-! What a raw copy takes along besides the values of the fields: the bytes in the gaps. `gapless` puts zeros
there. Two structures that are the same but for their gaps are written the same just if the gaps that are copied
agree. -/

namespace VkRemote.Marshal

open Lib Wire

/-- Two pieces of messages, as long as each other, and equal just if what they expose is. -/
structure Exposes (w w' g g' : List UInt8) : Prop where
  length : w.length = w'.length
  width : g.length = g'.length
  iff : w = w' ↔ g = g'

namespace Exposes

variable {α β : Type} {w w' v v' g g' e e' : List UInt8}

theorem nothing (w : List UInt8) : Exposes w w [] [] := ⟨rfl, rfl, iff_of_true rfl rfl⟩

theorem append (h : Exposes w w' g g') (h' : Exposes v v' e e') :
    Exposes (w ++ v) (w' ++ v') (g ++ e) (g' ++ e') where
  length := by rw [List.length_append, List.length_append, h.length, h'.length]
  width := by rw [List.length_append, List.length_append, h.width, h'.width]
  iff := by
    constructor
    · intro heq
      obtain ⟨hw, hv⟩ := List.append_inj heq h.length
      rw [h.iff.1 hw, h'.iff.1 hv]
    · intro heq
      obtain ⟨hg, he⟩ := List.append_inj heq h.width
      rw [h.iff.2 hg, h'.iff.2 he]

/-- Something that is the same follows. -/
theorem followed (h : Exposes w w' g g') : Exposes (w ++ v) (w' ++ v) g g' := by
  simpa only [List.append_nil] using h.append (nothing v)

theorem preceded (h : Exposes w w' g g') : Exposes (v ++ w) (v ++ w') g g' :=
  (nothing v).append h

/-- A raw copy of structures whose values differ just where these bytes do. -/
theorem copy [Raw α] {a b : α} (hlength : e.length = e'.length) (h : Raw.record a = Raw.record b ↔ e = e') :
    Exposes (writeRaw a) (writeRaw b) (e ++ Raw.padding a) (e' ++ Raw.padding b) where
  length := by rw [length_writeRaw, length_writeRaw]
  width := by
    rw [List.length_append, List.length_append, hlength, Raw.padding, Raw.padding, Gaps.length_bytes]
  iff := by
    rw [writeRaw_inj, h, ← Gaps.bytes_inj]
    constructor
    · rintro ⟨he, hgaps⟩
      rw [he, Raw.padding, hgaps, Raw.padding]
    · exact fun heq => List.append_inj heq hlength

theorem raw [Raw α] {a b : α} (h : Raw.record a = Raw.record b) :
    Exposes (writeRaw a) (writeRaw b) (Raw.padding a) (Raw.padding b) := by
  have hcopy : Exposes (writeRaw a) (writeRaw b) ([] ++ Raw.padding a) ([] ++ Raw.padding b) :=
    copy rfl (iff_of_true h rfl)
  exact hcopy

/-- Where it is written at all. -/
theorem guarded {p : Prop} [Decidable p] (h : Exposes w w' g g') :
    Exposes (if p then [] else w) (if p then [] else w') (if p then [] else g) (if p then [] else g') := by
  split
  exacts [nothing [], h]

theorem flatMap {c : α → β} {f k : α → List UInt8}
    (h : ∀ a b, c a = c b → Exposes (f a) (f b) (k a) (k b)) {as bs : List α} (hsame : as.map c = bs.map c) :
    Exposes (as.flatMap f) (bs.flatMap f) (as.flatMap k) (bs.flatMap k) := by
  induction as generalizing bs with
  | nil =>
    obtain rfl := List.map_eq_nil_iff.1 hsame.symm
    exact nothing []
  | cons a as ih =>
    cases bs with
    | nil => exact nomatch hsame
    | cons b bs =>
      obtain ⟨hhead, htail⟩ := List.cons.inj hsame
      rw [List.flatMap_cons, List.flatMap_cons, List.flatMap_cons, List.flatMap_cons]
      exact (h a b hhead).append (ih htail)

end Exposes

/-- What something that may be there exposes. -/
def Ptr.exposed {α : Type} (k : α → List UInt8) (p : Ptr α) : List UInt8 := p.target.toList.flatMap k

theorem Ptr.exposed_contents {α β : Type} {k : α → List UInt8} {k' : β → List UInt8} {c : α → β}
    (h : ∀ a, k' (c a) = k a) (p : Ptr α) : (p.contents c).exposed k' = p.exposed k := by
  cases p <;> simp [exposed, Ptr.contents, Ptr.target, h]

theorem exposes_present {α β : Type} {c : α → β} {f k : α → List UInt8}
    (h : ∀ a b, c a = c b → Exposes (f a) (f b) (k a) (k b)) {p q : Ptr α} (hsame : p.contents c = q.contents c) :
    Exposes (writePresent f p) (writePresent f q) (p.exposed k) (q.exposed k) := by
  have htarget : p.target.map c = q.target.map c := by rw [← Ptr.target_contents, hsame, Ptr.target_contents]
  unfold writePresent Ptr.exposed
  generalize p.target = x at htarget ⊢
  generalize q.target = y at htarget ⊢
  cases x with
  | none =>
    cases y with
    | none => exact .nothing _
    | some b => exact nomatch htarget
  | some a =>
    cases y with
    | none => exact nomatch htarget
    | some b =>
      simp only [Option.toList_some, List.flatMap_singleton]
      exact (h a b (Option.some.inj htarget)).preceded

/-- The same of encoders that may refuse. -/
def Tells (x x' : Option (List UInt8)) (g g' : List UInt8) : Prop := x.isSome → (x = x' ↔ g = g')

namespace Tells

variable {w w' g g' : List UInt8}

theorem some (h : Exposes w w' g g') : Tells (some w) (some w') g g' := fun _ =>
  Option.some_inj.trans h.iff

/-- With a chain that is the same. -/
theorem chained {chain : Option (List UInt8)} {f f' : List UInt8 → List UInt8}
    (h : ∀ c, Exposes (f c) (f' c) g g') :
    Tells (do let c ← chain; return f c) (do let c ← chain; return f' c) g g' := by
  intro hsome
  cases chain with
  | none => exact nomatch hsome
  | some c => exact Option.some_inj.trans (h c).iff

/-- Where it is taken at all. -/
theorem guarded {p : Prop} [Decidable p] {x x' : Option (List UInt8)} (h : Tells x x' g g') :
    Tells (if p then x else none) (if p then x' else none) g g' := by
  split
  · exact h
  · exact fun hsome => nomatch hsome

end Tells

def VkSpecializationInfo.gapless (s : VkSpecializationInfo) : VkSpecializationInfo := { s with gaps := .zeros _ }

theorem exposes_specializationInfo {a b : VkSpecializationInfo} (h : a.gapless = b.gapless) :
    Exposes (writeSpecializationInfo a) (writeSpecializationInfo b) (Raw.padding a) (Raw.padding b) := by
  cases a
  cases b
  cases h
  unfold writeSpecializationInfo
  exact .followed (.followed (.raw rfl))

namespace VkPipelineShaderStageCreateInfo

def gapless (s : VkPipelineShaderStageCreateInfo) : VkPipelineShaderStageCreateInfo :=
  { s with pSpecializationInfo := s.pSpecializationInfo.contents VkSpecializationInfo.gapless,
           gaps := .zeros _ }

def exposed (s : VkPipelineShaderStageCreateInfo) : List UInt8 :=
  Raw.padding s ++ s.pSpecializationInfo.exposed Raw.padding

@[simp] theorem exposed_contents (s : VkPipelineShaderStageCreateInfo) : s.contents.exposed = s.exposed := by
  have hinfo : s.contents.pSpecializationInfo.exposed Raw.padding = s.pSpecializationInfo.exposed Raw.padding :=
    Ptr.exposed_contents (fun _ => rfl) _
  rw [exposed, hinfo]
  rfl

end VkPipelineShaderStageCreateInfo

theorem exposes_pipelineShaderStageCreateInfo {a b : VkPipelineShaderStageCreateInfo}
    (h : a.gapless = b.gapless) :
    Exposes (writePipelineShaderStageCreateInfo a) (writePipelineShaderStageCreateInfo b) a.exposed b.exposed := by
  have hinfo : a.pSpecializationInfo.contents VkSpecializationInfo.gapless =
      b.pSpecializationInfo.contents VkSpecializationInfo.gapless :=
    congrArg VkPipelineShaderStageCreateInfo.pSpecializationInfo h
  have hname : Writer.string (a.pName.target.getD []) = Writer.string (b.pName.target.getD []) :=
    (congrArg (fun s : VkPipelineShaderStageCreateInfo => Writer.string (s.pName.target.getD [])) h :)
  have hcopy : Exposes
      (writeRaw { a with pNext := .null, pName := .null, pSpecializationInfo := .null })
      (writeRaw { b with pNext := .null, pName := .null, pSpecializationInfo := .null })
      (Raw.padding a) (Raw.padding b) :=
    .raw (congrArg (fun s : VkPipelineShaderStageCreateInfo =>
      Raw.record { s with pNext := .null, pName := .null, pSpecializationInfo := .null }) h :)
  rw [writePipelineShaderStageCreateInfo, writePipelineShaderStageCreateInfo, hname]
  exact hcopy.followed.append (exposes_present (fun _ _ => exposes_specializationInfo) hinfo)

def VkPipelineVertexInputStateCreateInfo.gapless (s : VkPipelineVertexInputStateCreateInfo) :
    VkPipelineVertexInputStateCreateInfo :=
  { s with gaps := .zeros _ }

theorem exposes_vertexInputState {a b : VkPipelineVertexInputStateCreateInfo} (h : a.gapless = b.gapless) :
    Exposes (writeVertexInputState a) (writeVertexInputState b) (Raw.padding a) (Raw.padding b) := by
  cases a
  cases b
  cases h
  unfold writeVertexInputState
  exact .followed (.followed (.raw rfl))

def VkPipelineViewportStateCreateInfo.gapless (s : VkPipelineViewportStateCreateInfo) :
    VkPipelineViewportStateCreateInfo :=
  { s with gaps := .zeros _ }

theorem exposes_viewportState {a b : VkPipelineViewportStateCreateInfo} (h : a.gapless = b.gapless) :
    Exposes (writeViewportState a) (writeViewportState b) (Raw.padding a) (Raw.padding b) := by
  cases a
  cases b
  cases h
  unfold writeViewportState
  exact .followed (.followed (.raw rfl))

def VkPipelineMultisampleStateCreateInfo.gapless (s : VkPipelineMultisampleStateCreateInfo) :
    VkPipelineMultisampleStateCreateInfo :=
  { s with gaps := .zeros _ }

theorem exposes_multisampleState {a b : VkPipelineMultisampleStateCreateInfo} (h : a.gapless = b.gapless) :
    Exposes (writeMultisampleState a) (writeMultisampleState b) (Raw.padding a) (Raw.padding b) := by
  cases a
  cases b
  cases h
  unfold writeMultisampleState
  exact .followed (.raw rfl)

def VkPipelineColorBlendStateCreateInfo.gapless (s : VkPipelineColorBlendStateCreateInfo) :
    VkPipelineColorBlendStateCreateInfo :=
  { s with gaps := .zeros _ }

theorem exposes_colorBlendState {a b : VkPipelineColorBlendStateCreateInfo} (h : a.gapless = b.gapless) :
    Exposes (writeColorBlendState a) (writeColorBlendState b) (Raw.padding a) (Raw.padding b) := by
  cases a
  cases b
  cases h
  unfold writeColorBlendState
  exact .followed (.raw rfl)

def VkPipelineDynamicStateCreateInfo.gapless (s : VkPipelineDynamicStateCreateInfo) :
    VkPipelineDynamicStateCreateInfo :=
  { s with gaps := .zeros _ }

theorem exposes_dynamicState {a b : VkPipelineDynamicStateCreateInfo} (h : a.gapless = b.gapless) :
    Exposes (writeDynamicState a) (writeDynamicState b) (Raw.padding a) (Raw.padding b) := by
  cases a
  cases b
  cases h
  unfold writeDynamicState
  exact .followed (.raw rfl)

def PlainState.gapless {n gap : ℕ} (s : PlainState n gap) : PlainState n gap := { s with gaps := .zeros _ }

theorem exposes_plainState {n gap : ℕ} {a b : PlainState n gap} (h : a.gapless = b.gapless) :
    Exposes (writePlainState a) (writePlainState b) (Raw.padding a) (Raw.padding b) := by
  cases a
  cases b
  cases h
  unfold writePlainState
  exact .raw rfl

def VkSubpassDescription.gapless (s : VkSubpassDescription) : VkSubpassDescription := { s with gaps := .zeros _ }

theorem exposes_subpassDescription {a b : VkSubpassDescription} (h : a.gapless = b.gapless) :
    Exposes (writeSubpassDescription a) (writeSubpassDescription b) (Raw.padding a) (Raw.padding b) := by
  cases a
  cases b
  cases h
  unfold writeSubpassDescription
  exact .followed (.followed (.followed (.followed (.followed (.raw rfl)))))

def VkDeviceQueueCreateInfo.gapless (s : VkDeviceQueueCreateInfo) :
    VkDeviceQueueCreateInfo :=
  { s with gaps := .zeros _ }

theorem exposes_deviceQueueCreateInfo {a b : VkDeviceQueueCreateInfo} (h : a.gapless = b.gapless) :
    Exposes (writeDeviceQueueCreateInfo a) (writeDeviceQueueCreateInfo b) (Raw.padding a) (Raw.padding b) := by
  cases a
  cases b
  cases h
  unfold writeDeviceQueueCreateInfo
  exact .followed (.raw rfl)

namespace VkDeviceCreateInfo

def gapless (s : VkDeviceCreateInfo) : VkDeviceCreateInfo :=
  { s with pQueueCreateInfos := s.pQueueCreateInfos.contents (List.Vector.map VkDeviceQueueCreateInfo.gapless),
           gaps := .zeros _ }

def exposed (s : VkDeviceCreateInfo) : List UInt8 :=
  Raw.padding s ++ s.pQueueCreateInfos.items.flatMap Raw.padding

theorem exposed_contents (s : VkDeviceCreateInfo) : s.contents.exposed = s.exposed := by
  have hqueues : s.contents.pQueueCreateInfos.items.flatMap Raw.padding =
      s.pQueueCreateInfos.items.flatMap Raw.padding := by
    rw [contents, Ptr.items_contents, List.flatMap_map]
    rfl
  rw [exposed, hqueues]
  rfl

/-- The copy that goes ahead. -/
def header (s : VkDeviceCreateInfo) : VkDeviceCreateInfo :=
  { s with pNext := .null, pQueueCreateInfos := .null, ppEnabledLayerNames := .null,
           ppEnabledExtensionNames := .null, pEnabledFeatures := .null }

end VkDeviceCreateInfo

theorem tells_deviceCreateInfo {a b : VkDeviceCreateInfo} (h : a.gapless = b.gapless) :
    Tells (writeDeviceCreateInfo a) (writeDeviceCreateInfo b) a.exposed b.exposed := by
  have hcopy : Exposes (writeRaw a.header) (writeRaw b.header) (Raw.padding a) (Raw.padding b) :=
    .raw (congrArg (fun s : VkDeviceCreateInfo => Raw.record s.header) h :)
  have hchain : writePnextChain .deviceCreate a.pNext = writePnextChain .deviceCreate b.pNext :=
    (congrArg (fun s : VkDeviceCreateInfo => writePnextChain .deviceCreate s.pNext) h :)
  have hqueues := congrArg (fun s : VkDeviceCreateInfo => s.pQueueCreateInfos.items) h
  have hlayers : writeStringArray a.ppEnabledLayerNames = writeStringArray b.ppEnabledLayerNames :=
    (congrArg (fun s : VkDeviceCreateInfo => writeStringArray s.ppEnabledLayerNames) h :)
  have hextensions : writeStringArray a.ppEnabledExtensionNames = writeStringArray b.ppEnabledExtensionNames :=
    (congrArg (fun s : VkDeviceCreateInfo => writeStringArray s.ppEnabledExtensionNames) h :)
  have hfeatures : writeOptPod a.pEnabledFeatures = writeOptPod b.pEnabledFeatures :=
    (congrArg (fun s : VkDeviceCreateInfo => writeOptPod s.pEnabledFeatures) h :)
  simp only [VkDeviceCreateInfo.gapless, Ptr.items_contents] at hqueues
  unfold writeDeviceCreateInfo
  rw [hchain, hlayers, hextensions, hfeatures]
  exact .chained fun chain => .followed (.followed (.followed (.append (.followed hcopy)
    (.flatMap (fun _ _ => exposes_deviceQueueCreateInfo) hqueues))))

namespace VkRenderPassCreateInfo

def gapless (s : VkRenderPassCreateInfo) : VkRenderPassCreateInfo :=
  { s with pSubpasses := s.pSubpasses.contents (List.Vector.map VkSubpassDescription.gapless), gaps := .zeros _ }

def exposed (s : VkRenderPassCreateInfo) : List UInt8 := Raw.padding s ++ s.pSubpasses.items.flatMap Raw.padding

theorem exposed_contents (s : VkRenderPassCreateInfo) : s.contents.exposed = s.exposed := by
  have hsubpasses : s.contents.pSubpasses.items.flatMap Raw.padding =
      s.pSubpasses.items.flatMap Raw.padding := by
    rw [contents, Ptr.items_contents, List.flatMap_map]
    rfl
  rw [exposed, hsubpasses]
  rfl

/-- The copy that goes ahead. -/
def header (s : VkRenderPassCreateInfo) : VkRenderPassCreateInfo :=
  { s with pNext := .null, pAttachments := .null, pSubpasses := .null, pDependencies := .null }

end VkRenderPassCreateInfo

theorem tells_renderPassCreateInfo {a b : VkRenderPassCreateInfo} (h : a.gapless = b.gapless) :
    Tells (writeRenderPassCreateInfo a) (writeRenderPassCreateInfo b) a.exposed b.exposed := by
  have hcopy : Exposes (writeRaw a.header) (writeRaw b.header) (Raw.padding a) (Raw.padding b) :=
    .raw (congrArg (fun s : VkRenderPassCreateInfo => Raw.record s.header) h :)
  have hchain : writePnextChain .renderPass a.pNext = writePnextChain .renderPass b.pNext :=
    (congrArg (fun s : VkRenderPassCreateInfo => writePnextChain .renderPass s.pNext) h :)
  have hattachments : writePodArray a.pAttachments = writePodArray b.pAttachments :=
    (congrArg (fun s : VkRenderPassCreateInfo => writePodArray s.pAttachments) h :)
  have hsubpasses := congrArg (fun s : VkRenderPassCreateInfo => s.pSubpasses.items) h
  have hdependencies : writePodArray a.pDependencies = writePodArray b.pDependencies :=
    (congrArg (fun s : VkRenderPassCreateInfo => writePodArray s.pDependencies) h :)
  simp only [VkRenderPassCreateInfo.gapless, Ptr.items_contents] at hsubpasses
  unfold writeRenderPassCreateInfo
  rw [hchain, hattachments, hdependencies]
  exact .chained fun chain => .followed (.append (.followed (.followed hcopy))
    (.flatMap (fun _ _ => exposes_subpassDescription) hsubpasses))

namespace VkBufferCreateInfo

def gapless (s : VkBufferCreateInfo) : VkBufferCreateInfo := { s with gaps := .zeros _ }

def exposed (s : VkBufferCreateInfo) : List UInt8 :=
  (writePnextChain .bufferCreate s.pNext).elim [] fun _ => Raw.padding s

theorem exposed_contents (s : VkBufferCreateInfo) : s.contents.exposed = s.exposed := by
  have hchain : writePnextChain .bufferCreate s.contents.pNext = writePnextChain .bufferCreate s.pNext :=
    writePnextChain_contents _ s.pNext
  rw [exposed, hchain]
  rfl

end VkBufferCreateInfo

theorem exposes_bufferCreateInfo {a b : VkBufferCreateInfo} (h : a.gapless = b.gapless) :
    Exposes (writeBufferCreateInfo a) (writeBufferCreateInfo b) a.exposed b.exposed := by
  cases a with
  | mk sType pNext =>
    cases b
    cases h
    unfold writeBufferCreateInfo VkBufferCreateInfo.exposed
    cases writePnextChain .bufferCreate pNext with
    | none => exact .nothing _
    | some chain => exact .followed (.followed (.raw rfl))

section

variable {n gap : ℕ} (context : PNextContext)

/-- What a plain structure with a chain exposes. -/
def PlainState.exposed (s : PlainState n gap) : List UInt8 :=
  (writePnextChain context s.pNext).elim [] fun _ => Raw.padding s

theorem PlainState.exposed_contents (s : PlainState n gap) : s.contents.exposed context = s.exposed context := by
  have hchain : writePnextChain context s.contents.pNext = writePnextChain context s.pNext :=
    writePnextChain_contents _ s.pNext
  rw [exposed, hchain]
  rfl

theorem exposes_chained {a b : PlainState n gap} (h : a.gapless = b.gapless) :
    Exposes (writeChained context a) (writeChained context b) (a.exposed context) (b.exposed context) := by
  have hnext : a.pNext = b.pNext := (congrArg PlainState.pNext h :)
  unfold writeChained PlainState.exposed
  rw [hnext]
  cases writePnextChain context b.pNext with
  | none => exact .nothing _
  | some chain => exact .followed (exposes_plainState h)

end

end VkRemote.Marshal
