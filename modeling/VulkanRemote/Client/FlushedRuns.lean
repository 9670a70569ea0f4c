import VulkanRemote.Client.CoherentRuns

/-! Mapping, storing, flushing and unmapping, without the device or a publish in between. A flush
sends whole ranges of the shadow, so it leaves the bytes the host has not stored alone exactly as
long as the shadow held the server's bytes when the mapping was made. -/

namespace VkRemote.Client
open Lib MappedDevice

/-- `stored` marks the bytes of an allocation the host has stored since it was last mapped and
`origin` is what the server held then; the code has neither. -/
structure MapWorld where
  device : MappedDevice
  stored : MemoryId → ℕ → Bool
  origin : MemoryId → ℕ → Byte

inductive MapAction
  | hostStore (mem : MemoryId) (i : ℕ) (v : Byte)
  | map (mem : MemoryId) (offset : ℕ) (size : Option ℕ) (heap : ℕ → Byte) (net : List Outcome)
  | unmap (mem : MemoryId) (net : List Outcome)
  | flush (ranges : List MemoryRange) (net : List Outcome)

namespace MapWorld

/-- Allocations with their contents on the server, none of them mapped. -/
def start (memories : MemoryId → Option MemoryAllocation) (server : MemoryId → ℕ → Byte) : MapWorld where
  device := { memories := memories, server := server }
  stored _ _ := false
  origin := server

def step (w : MapWorld) : MapAction → Option MapWorld
  | .hostStore mem i v => do
    let k ← w.device.mapped.findIdx? (fun m => m.memoryId = mem)
    let m ← w.device.mapped[k]?
    if i < m.size then
      some { w with
        device := { w.device with
          mapped := w.device.mapped.set k { m with shadow := Function.update m.shadow i v } }
        stored := Function.update w.stored mem (Function.update (w.stored mem) (m.offset + i) true) }
    else none
  | .map mem offset size heap net =>
    let r := mapMemory mem offset size heap w.device net
    some (if r.ok then
      { device := r.device
        stored := Function.update w.stored mem fun _ => false
        origin := Function.update w.origin mem (w.device.server mem) }
    else { w with device := r.device })
  | .unmap mem net => some { w with device := (unmapMemory mem w.device net).device }
  | .flush ranges net => some { w with device := (flushMappedMemoryRanges ranges w.device net).device }

/-- Bytes the host has not stored through the latest mapping are what they were when it was made, and
a mapping shows them. -/
structure Faithful (w : MapWorld) : Prop where
  kept : ∀ mem j, w.stored mem j = false → w.device.server mem j = w.origin mem j
  shown : ∀ m ∈ w.device.mapped, ∀ i, i < m.size → w.stored m.memoryId (m.offset + i) = false →
    m.shadow i = w.device.server m.memoryId (m.offset + i)

/-- A mapping that is made is of emulated coherent memory, or what the fresh shadow happens to hold is
what the server holds. -/
def Shown (w : MapWorld) : MapAction → Prop
  | .map mem offset size heap _ =>
    ∀ a n, w.device.memories mem = some a → a.hostVisible = true →
      resolveAllocationRange a.size offset size = some n → (∀ m ∈ w.device.mapped, m.memoryId ≠ mem) →
      a.emulatedCoherent = true ∨ ∀ i, i < n → heap i = w.device.server mem (offset + i)
  | _ => True

end MapWorld

/-- What an operation that only uploads does: a byte of the server changes to what a mapping shows. -/
structure Uploads (d d' : MappedDevice) : Prop where
  same : d' = { d with server := d'.server }
  sent : ∀ mem j, d'.server mem j = d.server mem j ∨
    ∃ m ∈ d.mapped, ∃ i, i < m.size ∧ m.memoryId = mem ∧ j = m.offset + i ∧ d'.server mem j = m.shadow i

theorem Uploads.refl (d : MappedDevice) : Uploads d d := ⟨rfl, fun _ _ => .inl rfl⟩

theorem Uploads.mapped {d d' : MappedDevice} (h : Uploads d d') : d'.mapped = d.mapped := by
  rw [h.same]

theorem Uploads.trans {d₁ d₂ d₃ : MappedDevice} (h : Uploads d₁ d₂) (h' : Uploads d₂ d₃) :
    Uploads d₁ d₃ := by
  refine ⟨by rw [h'.same, h.same], fun mem j => ?_⟩
  rcases h'.sent mem j with heq | hsent
  · rw [heq]
    exact h.sent mem j
  · exact .inr (h.mapped ▸ hsent)

theorem uploads_flushRange (r : MemoryRange) (d : MappedDevice) (net : List Outcome) :
    Uploads d (flushRange r d net).device := by
  unfold flushRange
  split
  · exact .refl d
  · next k start size hr =>
    obtain ⟨m, hm, -, hfit, -⟩ := resolveRange_spec hr
    obtain ⟨new, hp, hm', hin, -⟩ :=
      ({ m := m, server := d.server m.memoryId, net := net } : Transfer).flushChunks_spec
        (d.atomSize r.memory) start size 0 size (by omega) (by omega)
    have hset : d.mapped.set k m = d.mapped := by
      obtain ⟨hk, rfl⟩ := List.getElem?_eq_some_iff.1 hm
      exact List.set_getElem_self hk
    simp only [runAt, hm]
    refine ⟨by rw [hm', hset], fun mem j => ?_⟩
    by_cases hmem : mem = m.memoryId
    · subst hmem
      by_cases hcov : ∃ i, Covered new i ∧ j = m.offset + i
      · obtain ⟨i, hi, rfl⟩ := hcov
        have hlt := hin i hi
        exact .inr ⟨m, List.mem_of_getElem? hm, i, by omega, rfl, rfl,
          (congrFun (Function.update_self ..) _).trans (hp.sent i hi)⟩
      · exact .inl ((congrFun (Function.update_self ..) j).trans
          (hp.kept j fun i hi heq => hcov ⟨i, hi, heq⟩))
    · exact .inl (congrFun (Function.update_of_ne hmem _ _) j)

theorem uploads_flushMapped (ranges : List MemoryRange) (d : MappedDevice) (net : List Outcome) :
    Uploads d (flushMapped ranges d net).device := by
  refine inOrder_preserves Uploads.refl (fun _ _ _ => Uploads.trans) (fun op hop d net => ?_) d net
  obtain ⟨r, -, rfl⟩ := List.mem_map.1 hop
  exact uploads_flushRange r d net

theorem uploads_flushMappedMemoryRanges (ranges : List MemoryRange) (d : MappedDevice)
    (net : List Outcome) : Uploads d (flushMappedMemoryRanges ranges d net).device := by
  unfold flushMappedMemoryRanges
  split
  · exact uploads_flushMapped ranges d net
  · exact .refl d

/-- `MapMemory` either refuses and leaves the mappings as they were, or adds one that shows the server's
bytes if it is coherent and the heap's if it is not. -/
theorem mapMemory_cases (d : MappedDevice) (mem : MemoryId) (offset : ℕ) (size : Option ℕ)
    (heap : ℕ → Byte) (net : List Outcome) :
    let r := mapMemory mem offset size heap d net
    r.device.server = d.server ∧ r.device.memories = d.memories ∧
    ((r.ok = false ∧ r.device.mapped = d.mapped) ∨
      ∃ a m, d.memories mem = some a ∧ a.hostVisible = true ∧
        resolveAllocationRange a.size offset size = some m.size ∧ (∀ x ∈ d.mapped, x.memoryId ≠ mem) ∧
        r.ok = true ∧ r.device.mapped = d.mapped ++ [m] ∧ m.memoryId = mem ∧ m.offset = offset ∧
        if a.emulatedCoherent then ∀ i, i < m.size → m.shadow i = d.server mem (offset + i)
        else m.shadow = heap) := by
  dsimp only
  unfold mapMemory
  dsimp only
  split
  · exact ⟨rfl, rfl, .inl ⟨rfl, rfl⟩⟩
  · next a ha =>
    split
    · exact ⟨rfl, rfl, .inl ⟨rfl, rfl⟩⟩
    · next n hn =>
      split
      · exact ⟨rfl, rfl, .inl ⟨rfl, rfl⟩⟩
      · next hgo =>
        have hvisible : a.hostVisible = true := by
          by_contra hno
          exact hgo (by simp [hno])
        have hfree : ∀ x ∈ d.mapped, x.memoryId ≠ mem := by
          intro x hx heq
          exact hgo (by simp only [Bool.or_eq_true, List.any_eq_true]; exact .inr ⟨x, hx, by simpa using heq⟩)
        split
        · next hco =>
          have hco : a.emulatedCoherent = false := by simpa using hco
          exact ⟨rfl, rfl, .inr ⟨a, _, ha, hvisible, hn, hfree, rfl, rfl, rfl, rfl, by simp [hco]⟩⟩
        · next hco =>
          have hco : a.emulatedCoherent = true := by simpa using hco
          obtain ⟨m', new, hdev, -, -, hrange, hall⟩ := download_appended (m := {
            memoryId := mem, offset := offset, size := n, emulatedCoherent := a.emulatedCoherent
            transferReady := !a.emulatedCoherent, shadow := heap, baseline := fun _ => 0 }) hfree net
          simp only at hdev hall
          have hid : m'.memoryId = mem := by rw [hrange]
          have hoff : m'.offset = offset := by rw [hrange]
          have hsize : m'.size = n := by rw [hrange]
          split
          · next hok =>
            refine ⟨by simp only [hdev], by simp only [hdev], .inr ⟨a,
              { m' with baseline := m'.shadow, transferReady := true }, ha, hvisible, ?_, hfree, hok, ?_,
              hid, hoff, ?_⟩⟩
            · simpa only [hsize] using hn
            · simp only [hdev, List.map_append, List.map_cons, List.map_nil, hid, if_true]
              congr 1
              refine (List.map_congr_left fun x hx => ?_).trans (List.map_id _)
              simp only [hfree x hx, if_false, id]
            · rw [if_pos hco]
              exact fun i (hi : i < m'.size) => (hall hok i (hsize ▸ hi)).2
          · next hok =>
            refine ⟨by simp only [hdev, dropMapping], by simp only [hdev, dropMapping],
              .inl ⟨by simpa using hok, ?_⟩⟩
            simp only [hdev, dropMapping]
            rw [List.eraseP_append_right _ (fun x hx => by simpa using hfree x hx)]
            simp [hid]

namespace MapWorld

variable {w w' : MapWorld}

theorem faithful_start (memories : MemoryId → Option MemoryAllocation) (server : MemoryId → ℕ → Byte) :
    Faithful (start memories server) :=
  ⟨fun _ _ _ => rfl, fun _ hm => by cases hm⟩

/-- What the shadows show goes up, so nothing the host has not stored changes. -/
theorem Faithful.upload (h : Faithful w) {d : MappedDevice} (hu : Uploads w.device d) :
    Faithful { w with device := d } := by
  have hsame : ∀ mem j, w.stored mem j = false → d.server mem j = w.device.server mem j := by
    intro mem j hj
    rcases hu.sent mem j with heq | ⟨m, hm, i, hi, rfl, rfl, heq⟩
    · exact heq
    · rw [heq, h.shown m hm i hi hj]
  refine ⟨fun mem j hj => (hsame mem j hj).trans (h.kept mem j hj), fun m hm i hi hj => ?_⟩
  rw [hsame _ _ hj]
  exact h.shown m (hu.mapped ▸ hm) i hi hj

theorem Faithful.drop (h : Faithful w) (mem : MemoryId) :
    Faithful { w with device := w.device.dropMapping mem } :=
  ⟨h.kept, fun m hm => h.shown m (List.mem_of_mem_eraseP hm)⟩

theorem faithful_unmap (h : Faithful w) (mem : MemoryId) (net : List Outcome) :
    Faithful { w with device := (unmapMemory mem w.device net).device } := by
  unfold unmapMemory
  split
  · next m _ =>
    exact (h.upload (uploads_flushMapped [⟨mem, m.offset, some m.size⟩] w.device net)).drop mem
  · exact h.drop mem

theorem faithful_hostStore (h : Faithful w) {mem : MemoryId} {i : ℕ} {v : Byte}
    (hs : w.step (.hostStore mem i v) = some w') : Faithful w' := by
  simp only [step, Option.bind_eq_bind, Option.bind_eq_some_iff] at hs
  obtain ⟨k, hfind, m, hm, hs⟩ := hs
  split at hs
  · obtain rfl := Option.some.inj hs
    have hid : m.memoryId = mem := by
      obtain ⟨hk, hid, -⟩ := List.findIdx?_eq_some_iff_getElem.1 hfind
      simpa [(List.getElem?_eq_some_iff.1 hm).2] using hid
    have hless : ∀ mem' j, Function.update w.stored mem
        (Function.update (w.stored mem) (m.offset + i) true) mem' j = false →
        w.stored mem' j = false ∧ (mem' = mem → j ≠ m.offset + i) := by
      intro mem' j hj
      by_cases hmem : mem' = mem
      · subst hmem
        rw [Function.update_self] at hj
        by_cases hji : j = m.offset + i
        · subst hji
          rw [Function.update_self] at hj
          cases hj
        · rw [Function.update_of_ne hji] at hj
          exact ⟨hj, fun _ => hji⟩
      · rw [Function.update_of_ne hmem] at hj
        exact ⟨hj, fun heq => absurd heq hmem⟩
    refine ⟨fun mem' j hj => h.kept mem' j (hless mem' j hj).1, fun x hx i' hi' hj => ?_⟩
    obtain ⟨hj, hne⟩ := hless _ _ hj
    rcases List.mem_or_eq_of_mem_set hx with hx | rfl
    · exact h.shown x hx i' hi' hj
    · have hii : i' ≠ i := fun heq => hne hid (by rw [heq])
      dsimp only
      rw [Function.update_of_ne hii]
      exact h.shown m (List.mem_of_getElem? hm) i' hi' hj
  · cases hs

theorem faithful_map (h : Faithful w) {mem : MemoryId} {offset : ℕ} {size : Option ℕ}
    {heap : ℕ → Byte} {net : List Outcome} (hshown : Shown w (.map mem offset size heap net))
    (hs : w.step (.map mem offset size heap net) = some w') : Faithful w' := by
  obtain rfl := Option.some.inj hs
  obtain ⟨hserver, -, hno | ⟨a, m, ha, hvisible, hn, hfree, hok, hmapped, rfl, rfl, hval⟩⟩ :=
    mapMemory_cases w.device mem offset size heap net
  · rw [if_neg (by simp [hno.1])]
    refine ⟨fun mem' j hj => ?_, fun m hm i hi hj => ?_⟩ <;> dsimp only
    · rw [hserver]
      exact h.kept mem' j hj
    · rw [hserver]
      exact h.shown m (hno.2 ▸ hm) i hi hj
  · rw [if_pos hok]
    refine ⟨fun mem' j hj => ?_, fun x hx i hi hj => ?_⟩ <;> dsimp only
    · rw [hserver]
      by_cases hmem : mem' = m.memoryId
      · rw [hmem, Function.update_self]
      · rw [Function.update_of_ne hmem]
        exact h.kept mem' j ((congrFun (Function.update_of_ne hmem _ _) j).symm.trans hj)
    · rw [hserver]
      rcases List.mem_append.1 (hmapped ▸ hx) with hold | hnew
      · have hmem : x.memoryId ≠ m.memoryId := hfree x hold
        exact h.shown x hold i hi ((congrFun (Function.update_of_ne hmem _ _) _).symm.trans hj)
      · obtain rfl := List.mem_singleton.1 hnew
        split at hval
        · exact hval i hi
        · next hco =>
          rw [hval]
          exact (hshown a x.size ha hvisible hn hfree).resolve_left hco i hi

/-- A mapping that shows the server's bytes right after it was made met the condition. -/
theorem shown_of_faithful {mem : MemoryId} {offset : ℕ} {size : Option ℕ} {heap : ℕ → Byte}
    {net : List Outcome} (hs : w.step (.map mem offset size heap net) = some w') (h : Faithful w') :
    Shown w (.map mem offset size heap net) := by
  obtain rfl := Option.some.inj hs
  intro a n ha hvisible hn hfree
  refine or_iff_not_imp_left.2 fun hco i hi => ?_
  have hco : a.emulatedCoherent = false := by simpa using hco
  have hany : (w.device.mapped.any fun m => m.memoryId = mem) = false := by simpa using hfree
  obtain ⟨m, hmap, hid, hoff, hsize, hheap⟩ : ∃ m : MappedRange,
      mapMemory mem offset size heap w.device net =
        { device := { w.device with mapped := w.device.mapped ++ [m] }, net := net } ∧
      m.memoryId = mem ∧ m.offset = offset ∧ m.size = n ∧ m.shadow = heap := by
    refine ⟨{ memoryId := mem, offset := offset, size := n, emulatedCoherent := false
              transferReady := true, shadow := heap, baseline := fun _ => 0 }, ?_, rfl, rfl, rfl, rfl⟩
    simp only [mapMemory, ha, hn, hvisible, hany, hco, Bool.not_true, Bool.not_false, Bool.or_false,
      Bool.false_eq_true, if_false, if_true]
  simp only [hmap, if_true] at h
  have hstored : Function.update w.stored mem (fun _ => false) m.memoryId (m.offset + i) = false := by
    rw [hid, Function.update_self]
  have hshown := h.shown m (List.mem_append_right _ (List.mem_singleton_self m)) i (hsize.symm ▸ hi) hstored
  rw [hheap, hid, hoff] at hshown
  exact hshown

theorem faithful_step (h : Faithful w) {a : MapAction} (hshown : Shown w a) (hs : w.step a = some w') :
    Faithful w' := by
  cases a with
  | hostStore mem i v => exact faithful_hostStore h hs
  | map mem offset size heap net => exact faithful_map h hshown hs
  | unmap mem net =>
    obtain rfl := Option.some.inj hs
    exact faithful_unmap h mem net
  | flush ranges net =>
    obtain rfl := Option.some.inj hs
    exact h.upload (uploads_flushMappedMemoryRanges ranges w.device net)

theorem run_faithful {memories : MemoryId → Option MemoryAllocation} {server : MemoryId → ℕ → Byte}
    {as : List MapAction} {w : MapWorld} (h : Run step (start memories server) as w) :
    (∀ as' w', as' <+: as → Run step (start memories server) as' w' → Faithful w') ↔
      RunWhere step Shown (start memories server) as w := by
  constructor
  · intro hall
    induction h with
    | nil => exact .nil
    | @snoc as w₁ w₂ a hrun hs ih =>
      refine .snoc (ih fun as' w' hpre => hall as' w' (hpre.trans (List.prefix_append _ _))) ?_ hs
      have hlast := hall (as ++ [a]) w₂ (List.prefix_refl _) (hrun.snoc hs)
      cases a with
      | map mem offset size heap net => exact shown_of_faithful hs hlast
      | hostStore mem i v => trivial
      | unmap mem net => trivial
      | flush ranges net => trivial
  · intro hwhere as' w' hpre hrun
    exact (hwhere.of_prefix hpre hrun).invariant (faithful_start memories server)
      fun _ _ _ hf hshown hs => faithful_step hf hshown hs

/-- Two bytes of host memory, both 5 on the server. -/
def twoBytes (coherent : Bool) : MapWorld :=
  start (fun _ => some { size := 2, emulatedCoherent := coherent }) fun _ _ => 5

/-- Map, store the first byte, flush the whole. -/
def storeFirst : List MapAction :=
  [.map 1 0 none (fun _ => 0) [], .hostStore 1 0 7, .flush [⟨1, 0, none⟩] []]

theorem run_faithful_coherent : ∃ w, runList step (twoBytes true) storeFirst = some w ∧ Faithful w := by
  have hsome : (runList step (twoBytes true) storeFirst).isSome = true := by decide
  obtain ⟨w, hw⟩ := Option.isSome_iff_exists.1 hsome
  have hrun : Run step (start _ _) storeFirst w := run_of_runList hw
  refine ⟨w, hw, (run_faithful hrun).2 (runWhere_of_runList hw fun k a w' hk hw' => ?_) _ _
    (List.prefix_refl _) hrun⟩
  match k, hk with
  | 0, hk =>
    obtain rfl := Option.some.inj hk
    obtain rfl := Option.some.inj hw'
    exact fun a n ha _ _ _ => .inl (by cases ha; rfl)
  | 1, hk =>
    obtain rfl := Option.some.inj hk
    trivial
  | 2, hk =>
    obtain rfl := Option.some.inj hk
    trivial

theorem flush_overwrites : ∃ w, Run step (twoBytes false) storeFirst w ∧ w.stored 1 1 = false ∧
    w.origin 1 1 = 5 ∧ w.device.server 1 1 = 0 :=
  ⟨_, run_of_runList rfl, rfl, rfl, rfl⟩

end MapWorld

end VkRemote.Client
