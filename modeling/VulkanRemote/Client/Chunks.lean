import VulkanRemote.Client.Baseline
import VulkanRemote.Client.Requests
import VulkanRemote.Server.MappedRanges

/-! How `flush_mapped` and `download_mapped` cut a range into chunks, and what the server's check of a
transfer says to each of them. -/

namespace VkRemote.Client

open Lib MappedDevice

namespace Transfer

/-- The chunks of `[start + done, start + size)`, and whether the loop gets to the end. -/
def cuts (atom : Option ℕ) (start size done : ℕ) : ℕ → List (ℕ × ℕ) × Bool
  | 0 => ([], true)
  | fuel + 1 =>
    if done < size then
      match chunkSize atom (size - done) with
      | none => ([], false)
      | some chunk =>
        ((start + done, chunk) :: (cuts atom start size (done + chunk) fuel).1,
          (cuts atom start size (done + chunk) fuel).2)
    else ([], true)

section

variable {atom : Option ℕ} {start size done fuel : ℕ}

variable (atom start size done fuel) in
/-- The chunks that go up are the first ones, and all of them if nothing fails. -/
theorem flushChunks_cuts (t : Transfer) : ∃ sent,
    (t.flushChunks atom start size done fuel).1.applied = sent.reverse ++ t.applied ∧
    sent <+: (cuts atom start size done fuel).1 ∧
    ((∀ o ∈ t.net, o = .ok) → sent = (cuts atom start size done fuel).1 ∧
      (t.flushChunks atom start size done fuel).2 = (cuts atom start size done fuel).2) := by
  induction fuel generalizing t done with
  | zero => exact ⟨[], rfl, List.nil_prefix, fun _ => ⟨rfl, rfl⟩⟩
  | succ fuel ih =>
    unfold flushChunks cuts
    split
    · cases hchunk : chunkSize atom (size - done) with
      | none => exact ⟨[], rfl, List.nil_prefix, fun _ => ⟨rfl, rfl⟩⟩
      | some chunk =>
        obtain ⟨new, hpush, -, hnew, hok⟩ := t.upload_spec (start + done) chunk
        have happlied := hpush.applied
        dsimp only
        split
        · next t' heq =>
          rw [heq] at happlied hok
          obtain rfl := hok rfl
          obtain ⟨sent, hsent, hpre, hall⟩ := ih (done + chunk) t'
          refine ⟨(start + done, chunk) :: sent, ?_, List.cons_prefix_cons.2 ⟨rfl, hpre⟩, fun hnet => ?_⟩
          · rw [hsent, happlied, List.reverse_cons, List.append_assoc]
          · have hnet' := (upload_ok hnet (start + done) chunk).2
            rw [heq] at hnet'
            exact ⟨congrArg _ (hall hnet').1, (hall hnet').2⟩
        · next t' heq =>
          rw [heq] at happlied
          refine ⟨new, ?_, ?_, fun hnet => ?_⟩
          · rcases hnew with rfl | rfl <;> exact happlied
          · rcases hnew with rfl | rfl
            · exact List.nil_prefix
            · exact List.cons_prefix_cons.2 ⟨rfl, List.nil_prefix⟩
          · have hok' := (upload_ok hnet (start + done) chunk).1
            rw [heq] at hok'
            cases hok'
    · exact ⟨[], rfl, List.nil_prefix, fun _ => ⟨rfl, rfl⟩⟩

theorem download_ok {t : Transfer} (hnet : ∀ o ∈ t.net, o = .ok) :
    t.download.2 = true ∧ ∀ o ∈ t.download.1.net, o = .ok := by
  unfold download
  split
  · exact ⟨rfl, hnet⟩
  · next net h => exact ⟨rfl, fun o ho => hnet o (by rw [h]; exact .tail _ ho)⟩
  · next a net h => cases hnet (.failed a) (by rw [h]; exact .head _)

variable (atom start size done fuel) in
theorem downloadChunks_cuts (t : Transfer) : ∃ got,
    (t.downloadChunks atom start size done fuel).1.pulled = got.reverse ++ t.pulled ∧
    got <+: (cuts atom start size done fuel).1 ∧
    ((∀ o ∈ t.net, o = .ok) → got = (cuts atom start size done fuel).1 ∧
      (t.downloadChunks atom start size done fuel).2 = (cuts atom start size done fuel).2) := by
  induction fuel generalizing t done with
  | zero => exact ⟨[], rfl, List.nil_prefix, fun _ => ⟨rfl, rfl⟩⟩
  | succ fuel ih =>
    unfold downloadChunks cuts
    split
    · cases hchunk : chunkSize atom (size - done) with
      | none => exact ⟨[], rfl, List.nil_prefix, fun _ => ⟨rfl, rfl⟩⟩
      | some chunk =>
        obtain ⟨net, hdown⟩ := t.download_spec
        dsimp only
        split
        · next t' heq =>
          obtain rfl : t' = { t with net := net } := by rw [← hdown, heq]
          obtain ⟨got, hgot, hpre, hall⟩ :=
            ih (done + chunk) (({ t with net := net } : Transfer).overwrite (start + done) chunk)
          refine ⟨(start + done, chunk) :: got, ?_, List.cons_prefix_cons.2 ⟨rfl, hpre⟩, fun hnet => ?_⟩
          · rw [hgot, List.reverse_cons, List.append_assoc]
            rfl
          · have hnet' := (download_ok hnet).2
            rw [heq] at hnet'
            exact ⟨congrArg _ (hall hnet').1, (hall hnet').2⟩
        · next t' heq =>
          obtain rfl : t' = { t with net := net } := by rw [← hdown, heq]
          refine ⟨[], rfl, List.nil_prefix, fun hnet => ?_⟩
          have hok' := (download_ok hnet).1
          rw [heq] at hok'
          cases hok'
    · exact ⟨[], rfl, List.nil_prefix, fun _ => ⟨rfl, rfl⟩⟩

/-- A loop that gets to the end has cut the range end to end. -/
theorem tiles_cuts (hdone : done ≤ size) (hfuel : size - done ≤ fuel)
    (hok : (cuts atom start size done fuel).2 = true) :
    Tiles (start + done) (cuts atom start size done fuel).1 (start + size) := by
  induction fuel generalizing done with
  | zero =>
    obtain rfl : done = size := by omega
    exact rfl
  | succ fuel ih =>
    unfold cuts at hok ⊢
    split
    · next hlt =>
      cases hchunk : chunkSize atom (size - done) with
      | none => simp [hlt, hchunk] at hok
      | some chunk =>
        obtain ⟨hpos, hle⟩ := chunkSize_spec hchunk (by omega)
        simp only [hlt, if_true, hchunk] at hok
        exact ⟨rfl, hpos, by
          rw [Nat.add_assoc]
          exact ih (by omega) (by omega) hok⟩
    · obtain rfl : done = size := by omega
      exact rfl

theorem cuts_le {v : ℕ × ℕ} (hv : v ∈ (cuts atom start size done fuel).1) : v.2 ≤ maxMappedChunk := by
  induction fuel generalizing done with
  | zero => cases hv
  | succ fuel ih =>
    unfold cuts at hv
    split at hv
    · cases hchunk : chunkSize atom (size - done) with
      | none => simp [hchunk] at hv
      | some chunk =>
        simp only [hchunk] at hv
        rcases List.mem_cons.1 hv with rfl | hv
        · exact chunkSize_le hchunk
        · exact ih hv
    · cases hv

theorem cuts_ok (h : size - done ≤ maxMappedChunk ∨ ∃ a, atom = some a ∧ 0 < a ∧ a ≤ maxMappedChunk) :
    (cuts atom start size done fuel).2 = true := by
  induction fuel generalizing done with
  | zero => rfl
  | succ fuel ih =>
    unfold cuts
    split
    · obtain ⟨chunk, hchunk⟩ := Option.isSome_iff_exists.1 (chunkSize_isSome h)
      rw [hchunk]
      exact ih (h.imp_left fun h => by omega)
    · rfl

theorem cuts_done (h : size ≤ done) : (cuts atom start size done fuel).1 = [] := by
  cases fuel with
  | zero => rfl
  | succ fuel => rw [cuts, if_neg (by omega)]

/-- What fits one chunk is sent as one. -/
theorem cuts_single (h : size - done ≤ maxMappedChunk) {v : ℕ × ℕ}
    (hv : v ∈ (cuts atom start size done fuel).1) : v.1 + v.2 = start + size := by
  cases fuel with
  | zero => cases hv
  | succ fuel =>
    unfold cuts at hv
    split at hv
    · have hchunk : chunkSize atom (size - done) = some (size - done) := by
        simp only [chunkSize, min_eq_right h, lt_irrefl, if_false]
      simp only [hchunk, cuts_done (show size ≤ done + (size - done) by omega), List.mem_singleton] at hv
      subst hv
      simp only
      omega
    · cases hv

/-- A chunk with something behind it is a whole number of atoms. -/
theorem dvd_chunkSize {a left chunk : ℕ} (h : chunkSize (some a) left = some chunk) (hlt : chunk < left) :
    a ∣ chunk := by
  unfold chunkSize at h
  dsimp only at h
  split at h
  · split at h
    · cases h
    · exact Option.some.inj h ▸ Nat.dvd_sub_mod _
  · have := Option.some.inj h
    omega

/-- From an aligned start every boundary but the last is aligned. -/
theorem cuts_aligned {a base : ℕ} (hstart : a ∣ base + start + done) {v : ℕ × ℕ}
    (hv : v ∈ (cuts (some a) start size done fuel).1) (hinner : v.1 + v.2 ≠ start + size) :
    a ∣ base + (v.1 + v.2) := by
  induction fuel generalizing done with
  | zero => cases hv
  | succ fuel ih =>
    unfold cuts at hv
    split at hv
    · next hlt =>
      cases hchunk : chunkSize (some a) (size - done) with
      | none => simp [hchunk] at hv
      | some chunk =>
        obtain ⟨-, hle⟩ := chunkSize_spec hchunk (by omega)
        by_cases hlast : chunk = size - done
        · -- the chunk takes what is left, and the loop ends behind it
          simp only [hchunk, cuts_done (show size ≤ done + chunk by omega), List.mem_singleton] at hv
          subst hv
          simp only at hinner
          omega
        · have hdvd : a ∣ base + start + (done + chunk) := by
            rw [← Nat.add_assoc]
            exact Nat.dvd_add hstart (dvd_chunkSize hchunk (by omega))
          simp only [hchunk] at hv
          rcases List.mem_cons.1 hv with rfl | hv
          · simpa only [Nat.add_assoc] using hdvd
          · exact ih hdvd hv
    · cases hv

end
end Transfer

/-- What `AllocateMemory` leaves on the two sides: the server has the allocation the client knows of, with
the size and the atom size that the client has, and the client takes no atom size of zero. -/
structure Mirrored (tables : Server.Tables) (device : UInt64) (memories : MemoryId → Option MemoryAllocation) :
    Prop where
  device_ne : tables.devices device ≠ 0
  allocation : ∀ mem a, memories mem = some a → 0 < a.nonCoherentAtomSize ∧
    ∃ m, tables.memoryMetadata (.ofNat mem) = some m ∧ m.owner = tables.devices device ∧
      m.hostVisible = a.hostVisible ∧ m.size.toNat = a.size ∧
      m.nonCoherentAtomSize.toNat = a.nonCoherentAtomSize

/-- `validate_transfer` lets the chunk through. -/
def AcceptedBy (tables : Server.Tables) (device : UInt64) (v : Interval) : Prop :=
  (Server.validateTransfer tables device (.ofNat v.memory) (.ofNat v.offset) (.ofNat v.size)).isSome

/-- The chunks of a range of an allocation, in the order they are sent. -/
structure Split (tables : Server.Tables) (device : UInt64) (atom : ℕ) (range : Interval) (vs : List Interval) :
    Prop where
  memory : ∀ v ∈ vs, v.memory = range.memory
  tiles : Tiles range.offset (vs.map fun v => (v.offset, v.size)) (range.offset + range.size)
  small : ∀ v ∈ vs, v.size ≤ maxMappedChunk
  accepted : ∀ v ∈ vs, AcceptedBy tables device v
  aligned : ∀ v ∈ vs, v.offset + v.size ≠ range.offset + range.size → atom ∣ v.offset + v.size

/-- The chunks that `moved` lists, last one first, are the first ones of `vs`, and all of them, with
success, if no round trip fails. -/
def Follows (r : Done) (net : List Outcome) (moved : List Interval) (vs : List Interval) : Prop :=
  moved.reverse <+: vs ∧ ((∀ o ∈ net, o = .ok) → r.ok = true ∧ moved.reverse = vs)

/-- What both loops owe a range of `size` bytes that falls into mapping `k`. -/
structure Chunked (tables : Server.Tables) (device : UInt64) (d : MappedDevice) (r : MemoryRange)
    (k size : ℕ) : Prop where
  flush : ∃ atom vs, d.atomSize r.memory = some atom ∧ Split tables device atom ⟨r.memory, r.offset, size⟩ vs ∧
    ∀ net, Follows (flushRange r d net) net (flushRange r d net).up vs
  download : ∃ atom vs, d.atomSize r.memory = some atom ∧
    Split tables device atom ⟨r.memory, r.offset, size⟩ vs ∧
    ∀ net, Follows (downloadRange r d net) net (downloadRange r d net).down vs
  unchanged : ∀ net net' m, d.mapped[k]? = some m → (flushRange r d net).ok = true →
    ∃ m', (downloadRange r (flushRange r d net).device net').device.mapped[k]? = some m' ∧ m'.shadow = m.shadow

/-- Every mapping lies in an allocation that is host visible. -/
def Backed (d : MappedDevice) : Prop :=
  ∀ m ∈ d.mapped, ∃ a, d.memories m.memoryId = some a ∧ a.hostVisible = true ∧ m.offset + m.size ≤ a.size

section

variable {tables : Server.Tables} {device : UInt64} {d : MappedDevice} {r : MemoryRange} {k start size : ℕ}

theorem resolveRange_offset (h : d.resolveRange r = some (k, start, size)) :
    ∃ m, d.mapped[k]? = some m ∧ m.memoryId = r.memory ∧ m.offset + start = r.offset ∧
      start + size ≤ m.size := by
  obtain ⟨m, hm, hid, hfit, -⟩ := resolveRange_spec h
  refine ⟨m, hm, hid, ?_, hfit⟩
  simp only [resolveRange, Option.bind_eq_bind, Option.bind_eq_some_iff] at h
  obtain ⟨k', -, m', hm', h⟩ := h
  split_ifs at h with h1 h2 h3
  simp only [Option.some.injEq, Prod.mk.injEq] at h
  obtain ⟨rfl, rfl, rfl⟩ := h
  obtain rfl := Option.some.inj (hm.symm.trans hm')
  omega

theorem acceptedBy_of_mirrored (hmirror : Mirrored tables device d.memories) {a : MemoryAllocation}
    {v : Interval} (ha : d.memories v.memory = some a) (hvisible : a.hostVisible = true) (hpos : 0 < v.size)
    (hsmall : v.size ≤ maxMappedChunk) (hfits : v.offset + v.size ≤ a.size) : AcceptedBy tables device v := by
  obtain ⟨-, m, hm, howner, hvis, hsize, -⟩ := hmirror.allocation v.memory a ha
  have hword := m.size.toNat_lt
  have hoff : (UInt64.ofNat v.offset).toNat = v.offset := UInt64.toNat_ofNat_of_lt' (by
    simp only [UInt64.size]
    omega)
  have hsz : (UInt64.ofNat v.size).toNat = v.size := UInt64.toNat_ofNat_of_lt' (by
    simp only [UInt64.size]
    omega)
  have hle : UInt64.ofNat v.offset ≤ m.size := by
    rw [UInt64.le_iff_toNat_le, hoff]
    omega
  have hok : ¬ (tables.devices device = 0 ∨ m.owner ≠ tables.devices device ∨ ¬ m.hostVisible = true ∨
      UInt64.ofNat v.size = 0 ∨ Server.kMaxMappedChunk < (UInt64.ofNat v.size).toNat ∨
      m.size < UInt64.ofNat v.offset ∨ m.size - UInt64.ofNat v.offset < UInt64.ofNat v.size) := by
    push Not
    refine ⟨hmirror.device_ne, howner, hvis.trans hvisible, fun h0 => ?_, hsz.trans_le hsmall, ?_, ?_⟩
    · rw [h0] at hsz
      exact absurd hsz hpos.ne
    · exact UInt64.not_lt.2 hle
    · rw [UInt64.not_lt, UInt64.le_iff_toNat_le, UInt64.toNat_sub_of_le _ _ hle, hoff, hsz]
      omega
  unfold AcceptedBy Server.validateTransfer
  rw [hm, Option.bind_eq_bind, Option.bind_some, if_neg hok]
  rfl

/-- The chunks of the range, as intervals of the allocation. -/
def pieces (d : MappedDevice) (m : MappedRange) (r : MemoryRange) (start size : ℕ) : List Interval × Bool :=
  let c := Transfer.cuts (d.atomSize r.memory) start size 0 size
  (c.1.map m.interval, c.2)

theorem flushRange_pieces {m : MappedRange} (hr : d.resolveRange r = some (k, start, size))
    (hm : d.mapped[k]? = some m) (net : List Outcome) :
    (flushRange r d net).up.reverse <+: (pieces d m r start size).1 ∧ ((∀ o ∈ net, o = .ok) →
      (flushRange r d net).up.reverse = (pieces d m r start size).1 ∧
      (flushRange r d net).ok = (pieces d m r start size).2) := by
  obtain ⟨sent, happlied, hpre, hall⟩ := Transfer.flushChunks_cuts (d.atomSize r.memory) start size 0 size
    { m := m, server := d.server m.memoryId, net := net }
  have hup : (flushRange r d net).up.reverse = sent.map m.interval := by
    simp only [flushRange, hr, runAt, hm, happlied]
    simp
  rw [hup]
  refine ⟨hpre.map m.interval, fun hnet => ⟨congrArg _ (hall hnet).1, ?_⟩⟩
  simp only [flushRange, hr, runAt, hm]
  exact (hall hnet).2

theorem downloadRange_pieces {m : MappedRange} (hr : d.resolveRange r = some (k, start, size))
    (hm : d.mapped[k]? = some m) (net : List Outcome) :
    (downloadRange r d net).down.reverse <+: (pieces d m r start size).1 ∧ ((∀ o ∈ net, o = .ok) →
      (downloadRange r d net).down.reverse = (pieces d m r start size).1 ∧
      (downloadRange r d net).ok = (pieces d m r start size).2) := by
  obtain ⟨got, hpulled, hpre, hall⟩ := Transfer.downloadChunks_cuts (d.atomSize r.memory) start size 0 size
    { m := m, server := d.server m.memoryId, net := net }
  have hdown : (downloadRange r d net).down.reverse = got.map m.interval := by
    simp only [downloadRange, hr, runAt, hm, hpulled]
    simp
  rw [hdown]
  refine ⟨hpre.map m.interval, fun hnet => ⟨congrArg _ (hall hnet).1, ?_⟩⟩
  simp only [downloadRange, hr, runAt, hm]
  exact (hall hnet).2

/-- What a flush has sent comes back as it was. -/
theorem shadow_flush_download (hr : d.resolveRange r = some (k, start, size)) {m : MappedRange}
    (hm : d.mapped[k]? = some m) (net net' : List Outcome) (hok : (flushRange r d net).ok = true) :
    ∃ m', (downloadRange r (flushRange r d net).device net').device.mapped[k]? = some m' ∧
      m'.shadow = m.shadow := by
  obtain ⟨new, hpush, hsame, hin, hall⟩ :=
    ({ m := m, server := d.server m.memoryId, net := net } : Transfer).flushChunks_spec
      (d.atomSize r.memory) start size 0 size (by omega) (by omega)
  have hset : d.mapped.set k m = d.mapped := by
    obtain ⟨hk, rfl⟩ := List.getElem?_eq_some_iff.1 hm
    exact List.set_getElem_self hk
  have hflush := hok
  simp only [flushRange, hr, runAt, hm] at hflush
  obtain ⟨got, hpull, hrange, -⟩ :=
    ({ m := m, server := (flushRange r d net).device.server m.memoryId, net := net' } : Transfer).downloadChunks_spec
      (d.atomSize r.memory) start size 0 size (by omega) (by omega)
  have hdev : (flushRange r d net).device = { d with
      server := (flushRange r d net).device.server } := by
    simp only [flushRange, hr, runAt, hm, hsame, hset]
  have hr' : (flushRange r d net).device.resolveRange r = some (k, start, size) := by
    rw [hdev]
    exact hr
  have hm' : (flushRange r d net).device.mapped[k]? = some m := by
    rw [hdev]
    exact hm
  have hatom : (flushRange r d net).device.atomSize r.memory = d.atomSize r.memory := by
    rw [hdev]
    rfl
  obtain ⟨hk, -⟩ := List.getElem?_eq_some_iff.1 hm'
  refine ⟨_, by simp only [downloadRange, hr', runAt, hm', hatom]; exact List.getElem?_set_self hk, ?_⟩
  funext i
  by_cases hcov : Covered got i
  · have hi := hrange i hcov
    rw [hpull.fetched i hcov False.elim]
    have hsent := hpush.sent i (hall hflush i (by omega) (by omega))
    refine Eq.trans ?_ hsent
    simp only [flushRange, hr, runAt, hm, Function.update_self]
  · exact (hpull.kept i hcov).1

/-- An aligned start, or a range of one chunk, is cut as the server takes it. -/
theorem split_pieces (hmirror : Mirrored tables device d.memories) (hback : Backed d)
    (hr : d.resolveRange r = some (k, start, size)) {a : MemoryAllocation} (ha : d.memories r.memory = some a)
    (hcond : size ≤ maxMappedChunk ∨
      a.nonCoherentAtomSize ≤ maxMappedChunk ∧ a.nonCoherentAtomSize ∣ r.offset)
    {m : MappedRange} (hm : d.mapped[k]? = some m) :
    (pieces d m r start size).2 = true ∧
      Split tables device a.nonCoherentAtomSize ⟨r.memory, r.offset, size⟩ (pieces d m r start size).1 := by
  obtain ⟨m', hm', hid, hoff, hfit⟩ := resolveRange_offset hr
  obtain rfl := Option.some.inj (hm.symm.trans hm')
  have hatom : d.atomSize r.memory = some a.nonCoherentAtomSize := by
    rw [atomSize, ha, Option.map_some]
  have hpos := (hmirror.allocation r.memory a ha).1
  obtain ⟨a', ha', hvisible, hroom⟩ := hback m (List.mem_of_getElem? hm)
  rw [hid] at ha'
  obtain rfl := Option.some.inj (ha.symm.trans ha')
  have hok : (Transfer.cuts (d.atomSize r.memory) start size 0 size).2 = true :=
    Transfer.cuts_ok (hcond.imp (fun h => by omega) fun h => ⟨_, hatom, hpos, h.1⟩)
  have htiles := Transfer.tiles_cuts (Nat.zero_le size) (by omega) hok
  have hplace : ∀ v ∈ (pieces d m r start size).1, ∃ c ∈ (Transfer.cuts (d.atomSize r.memory) start size 0 size).1,
      v = m.interval c ∧ start ≤ c.1 ∧ 0 < c.2 ∧ c.1 + c.2 ≤ start + size ∧ c.2 ≤ maxMappedChunk := by
    intro v hv
    obtain ⟨c, hc, rfl⟩ := List.mem_map.1 hv
    obtain ⟨h1, h2, h3⟩ := htiles.mem hc
    exact ⟨c, hc, rfl, by omega, h2, h3, Transfer.cuts_le hc⟩
  refine ⟨hok, ?_, ?_, ?_, ?_, ?_⟩
  · intro v hv
    obtain ⟨c, -, rfl, -⟩ := hplace v hv
    exact hid
  · have hshift := htiles.shift m.offset
    simp only [Nat.add_zero, ← Nat.add_assoc, hoff] at hshift
    rw [pieces, List.map_map]
    exact hshift
  · intro v hv
    obtain ⟨c, -, rfl, -, -, -, hsmall⟩ := hplace v hv
    exact hsmall
  · intro v hv
    obtain ⟨c, -, rfl, hlow, hlen, hhigh, hsmall⟩ := hplace v hv
    refine acceptedBy_of_mirrored hmirror (a := a) ?_ hvisible hlen hsmall ?_
    · simp only [MappedRange.interval, hid, ha]
    · simp only [MappedRange.interval]
      omega
  · intro v hv hinner
    obtain ⟨c, hc, rfl, hlow, hlen, hhigh, hsmall⟩ := hplace v hv
    simp only [MappedRange.interval] at hinner ⊢
    rw [Nat.add_assoc]
    rw [hatom] at hc
    rcases hcond with hone | ⟨-, hdvd⟩
    · -- a range of one chunk has no inner boundary
      exact absurd (Transfer.cuts_single (by omega) hc) (by omega)
    · exact Transfer.cuts_aligned (by rw [Nat.add_zero, hoff]; exact hdvd) hc (by omega)

end

/-- The first boundary of a range that does not fit one chunk. -/
theorem Transfer.first_boundary {a start size : ℕ} (hsize : maxMappedChunk < size)
    (hok : (cuts (some a) start size 0 size).2 = true) : a ≤ maxMappedChunk ∧
      ∃ c, a ∣ c ∧ c < size ∧ (start, c) ∈ (cuts (some a) start size 0 size).1 := by
  obtain ⟨fuel, hfuel⟩ : ∃ fuel, size = fuel + 1 := ⟨size - 1, by omega⟩
  have hrun : cuts (some a) start size 0 size = cuts (some a) start size 0 (fuel + 1) :=
    congrArg _ hfuel
  rw [hrun] at hok ⊢
  unfold cuts at hok ⊢
  have hpos : 0 < size := by omega
  cases hchunk : chunkSize (some a) (size - 0) with
  | none =>
    rw [if_pos hpos, hchunk] at hok
    cases hok
  | some chunk =>
    have hle := chunkSize_le hchunk
    obtain ⟨hchunkpos, -⟩ := chunkSize_spec hchunk (by omega)
    have hdvd := dvd_chunkSize hchunk (by omega)
    rw [if_pos hpos]
    exact ⟨(Nat.le_of_dvd hchunkpos hdvd).trans hle, chunk, hdvd, by omega, List.mem_cons_self⟩

section

variable {tables : Server.Tables} {device : UInt64} {d : MappedDevice} {r : MemoryRange} {k start size : ℕ}

theorem chunked_iff (hmirror : Mirrored tables device d.memories) (hback : Backed d)
    (hr : d.resolveRange r = some (k, start, size)) {a : MemoryAllocation} (ha : d.memories r.memory = some a) :
    Chunked tables device d r k size ↔ size ≤ maxMappedChunk ∨
      a.nonCoherentAtomSize ≤ maxMappedChunk ∧ a.nonCoherentAtomSize ∣ r.offset := by
  obtain ⟨m, hm, -, hoff, -⟩ := resolveRange_offset hr
  have hatom : d.atomSize r.memory = some a.nonCoherentAtomSize := by
    rw [atomSize, ha, Option.map_some]
  constructor
  · intro hchunked
    obtain ⟨atom, vs, hatom', hsplit, hfollows⟩ := hchunked.flush
    obtain rfl := Option.some.inj (hatom.symm.trans hatom')
    refine or_iff_not_imp_left.2 fun hlarge => ?_
    -- with no failures the flush sends all the chunks, the first of them with a boundary behind it
    obtain ⟨hok, hall⟩ := (hfollows []).2 (by simp)
    obtain ⟨hup, hdone⟩ := (flushRange_pieces hr hm []).2 (by simp)
    rw [hup] at hall
    rw [hdone] at hok
    subst hall
    have hok : (Transfer.cuts (some a.nonCoherentAtomSize) start size 0 size).2 = true := hatom ▸ hok
    obtain ⟨hle, c, hdvd, hlt, hc⟩ := Transfer.first_boundary (by omega) hok
    refine ⟨hle, ?_⟩
    have hmem : m.interval (start, c) ∈ (pieces d m r start size).1 :=
      List.mem_map_of_mem (by rw [hatom]; exact hc)
    have hbound := hsplit.aligned _ hmem
    simp only [MappedRange.interval, hoff] at hbound
    exact (Nat.dvd_add_left hdvd).1 (hbound (by omega))
  · intro hcond
    obtain ⟨hok, hsplit⟩ := split_pieces hmirror hback hr ha hcond hm
    refine ⟨⟨_, _, hatom, hsplit, fun net => ?_⟩, ⟨_, _, hatom, hsplit, fun net => ?_⟩, ?_⟩
    · obtain ⟨hpre, hall⟩ := flushRange_pieces hr hm net
      exact ⟨hpre, fun hnet => ⟨(hall hnet).2.trans hok, (hall hnet).1⟩⟩
    · obtain ⟨hpre, hall⟩ := downloadRange_pieces hr hm net
      exact ⟨hpre, fun hnet => ⟨(hall hnet).2.trans hok, (hall hnet).1⟩⟩
    · intro net net' m' hm' hflush
      exact shadow_flush_download hr hm' net net' hflush

/-- An explicit range of memory that is not emulated starts at an atom, as `validate_explicit_ranges` checks. -/
theorem chunked_explicit (hmirror : Mirrored tables device d.memories) (hback : Backed d)
    (hr : d.resolveRange r = some (k, start, size)) {a : MemoryAllocation} (ha : d.memories r.memory = some a)
    (hplain : a.emulatedCoherent = false) (hatom : a.nonCoherentAtomSize ≤ maxMappedChunk)
    (hvalid : d.validateRange r = true) : Chunked tables device d r k size := by
  refine (chunked_iff hmirror hback hr ha).2 (.inr ⟨hatom, ?_⟩)
  unfold validateRange at hvalid
  rw [ha] at hvalid
  dsimp only at hvalid
  split at hvalid
  · cases hvalid
  · simp only [hplain, Bool.false_or, Bool.and_eq_true, Bool.not_eq_true', Bool.or_eq_false_iff,
      decide_eq_false_iff_not, not_not] at hvalid
    exact Nat.dvd_of_mod_eq_zero hvalid.1.2

end
def MappedRange.place (m : MappedRange) : MemoryId × ℕ × ℕ := (m.memoryId, m.offset, m.size)

/-- The same allocations, and the mappings in the same places. -/
def SamePlaces (d d' : MappedDevice) : Prop :=
  d'.memories = d.memories ∧ d'.mapped.map MappedRange.place = d.mapped.map MappedRange.place

theorem samePlaces_runAt {k : ℕ} {f : Transfer → Transfer × Bool}
    (hf : ∀ t, (f t).1.m.place = t.m.place) (d : MappedDevice) (net : List Outcome) :
    SamePlaces d (runAt k f d net).device := by
  refine ⟨?_, map_runAt hf k d net⟩
  unfold runAt
  split <;> rfl

theorem samePlaces_inOrder {ops : List Op} (hops : ∀ op ∈ ops, ∀ d net, SamePlaces d (op d net).device)
    (d : MappedDevice) (net : List Outcome) : SamePlaces d (inOrder ops d net).device :=
  inOrder_preserves (R := SamePlaces) (fun _ => ⟨rfl, rfl⟩)
    (fun _ _ _ h h' => ⟨h'.1.trans h.1, h'.2.trans h.2⟩) hops d net

theorem Pushed.place {t t' : Transfer} {new : List (ℕ × ℕ)} (h : Pushed t t' new) :
    t'.m.place = t.m.place := by rw [h.range, MappedRange.place, MappedRange.place]

theorem Pulled.place {preserve : Prop} {t t' : Transfer} {new : List (ℕ × ℕ)} (h : Pulled preserve t t' new) :
    t'.m.place = t.m.place := by rw [h.range, MappedRange.place, MappedRange.place]

theorem samePlaces_publishCoherentMapped (stores : MemoryId → Stores) (d : MappedDevice)
    (net : List Outcome) : SamePlaces d (publishCoherentMapped stores d net).device := by
  refine samePlaces_inOrder (fun op hop => ?_) d net
  obtain ⟨k, -, rfl⟩ := List.mem_map.1 hop
  refine samePlaces_runAt fun t => ?_
  rw [Transfer.publishMapping_range]
  rfl

theorem samePlaces_acquireCoherentMapped (ids : Option (Finset MemoryId)) (d : MappedDevice)
    (net : List Outcome) : SamePlaces d (acquireCoherentMapped ids d net).device := by
  refine samePlaces_inOrder (fun op hop => ?_) d net
  obtain ⟨k, -, rfl⟩ := List.mem_map.1 hop
  refine samePlaces_runAt fun t => ?_
  obtain ⟨_, hp, -⟩ := t.acquireMapping_spec ids
  exact hp.place

theorem samePlaces_flushRange (r : MemoryRange) (d : MappedDevice) (net : List Outcome) :
    SamePlaces d (flushRange r d net).device := by
  unfold flushRange
  split
  · exact ⟨rfl, rfl⟩
  · next k start size _ =>
    refine samePlaces_runAt (fun t => ?_) d net
    obtain ⟨_, hp, -⟩ := t.flushChunks_spec (d.atomSize r.memory) start size 0 size (by omega) (by omega)
    exact hp.place

theorem samePlaces_downloadRange (r : MemoryRange) (d : MappedDevice) (net : List Outcome) :
    SamePlaces d (downloadRange r d net).device := by
  unfold downloadRange
  split
  · exact ⟨rfl, rfl⟩
  · next k start size _ =>
    refine samePlaces_runAt (fun t => ?_) d net
    obtain ⟨_, hp, -⟩ := t.downloadChunks_spec (d.atomSize r.memory) start size 0 size (by omega) (by omega)
    exact hp.place

theorem samePlaces_flushMapped (ranges : List MemoryRange) (d : MappedDevice) (net : List Outcome) :
    SamePlaces d (flushMapped ranges d net).device := by
  refine samePlaces_inOrder (fun op hop d net => ?_) d net
  obtain ⟨r, -, rfl⟩ := List.mem_map.1 hop
  exact samePlaces_flushRange r d net

theorem samePlaces_downloadMapped (ranges : List MemoryRange) (d : MappedDevice) (net : List Outcome) :
    SamePlaces d (downloadMapped ranges d net).device := by
  refine samePlaces_inOrder (fun op hop d net => ?_) d net
  obtain ⟨r, -, rfl⟩ := List.mem_map.1 hop
  exact samePlaces_downloadRange r d net

theorem Backed.of_samePlaces {d d' : MappedDevice} (h : Backed d) (hsame : SamePlaces d d') : Backed d' := by
  intro m' hm'
  have hplace : m'.place ∈ d.mapped.map MappedRange.place := hsame.2 ▸ List.mem_map_of_mem hm'
  obtain ⟨m, hm, heq⟩ := List.mem_map.1 hplace
  obtain ⟨a, ha, hvisible, hfits⟩ := h m hm
  simp only [MappedRange.place, Prod.mk.injEq] at heq
  obtain ⟨hid, hoff, hsize⟩ := heq
  exact ⟨a, by rw [hsame.1, ← hid, ha], hvisible, by omega⟩

theorem Backed.dropMapping {d : MappedDevice} (h : Backed d) (mem : MemoryId) : Backed (d.dropMapping mem) :=
  fun m hm => h m (List.mem_of_mem_eraseP hm)

theorem backed_mapMemory {d : MappedDevice} (h : Backed d) (mem : MemoryId) (offset : ℕ) (size : Option ℕ)
    (heap : ℕ → Byte) (net : List Outcome) : Backed (mapMemory mem offset size heap d net).device := by
  obtain ⟨-, hmemories, ⟨-, hmapped⟩ | ⟨a, m, ha, hvisible, hresolve, -, -, hmapped, hid, hoff, -⟩⟩ :=
    mapMemory_cases d mem offset size heap net
  · intro m hm
    rw [hmemories]
    exact h m (hmapped ▸ hm)
  · intro x hx
    rw [hmapped] at hx
    rw [hmemories]
    rcases List.mem_append.1 hx with hx | hx
    · exact h x hx
    · obtain rfl := List.mem_singleton.1 hx
      refine ⟨a, by rw [hid, ha], hvisible, ?_⟩
      unfold resolveAllocationRange at hresolve
      split at hresolve
      all_goals
        split at hresolve
        · cases hresolve
        · have := Option.some.inj hresolve
          omega

theorem backed_step {w w' : World} {a : MemoryAction} (h : Backed w.device) (hs : w.step a = some w') :
    Backed w'.device ∧ w'.device.memories = w.device.memories := by
  have hkeep : ∀ {d}, SamePlaces w.device d → Backed d ∧ d.memories = w.device.memories :=
    fun hsame => ⟨h.of_samePlaces hsame, hsame.1⟩
  cases a with
  | hostStore mem i v =>
    simp only [World.step, Option.bind_eq_bind, Option.bind_eq_some_iff] at hs
    obtain ⟨k, -, m, hm, hs⟩ := hs
    split at hs
    · obtain rfl := Option.some.inj hs
      exact hkeep ⟨rfl, map_set_of_eq hm rfl⟩
    · cases hs
  | deviceWrite mem j v =>
    obtain rfl := Option.some.inj hs
    exact ⟨h, rfl⟩
  | map mem offset size heap net =>
    obtain rfl := Option.some.inj hs
    exact ⟨backed_mapMemory h mem offset size heap net, (mapMemory_cases w.device mem offset size heap net).2.1⟩
  | unmap mem net =>
    obtain rfl := Option.some.inj hs
    unfold World.after unmapMemory
    dsimp only
    split
    · next m _ =>
      obtain ⟨hback, hmem⟩ := hkeep (samePlaces_flushMapped [⟨mem, m.offset, some m.size⟩] w.device net)
      exact ⟨hback.dropMapping mem, hmem⟩
    · exact ⟨h.dropMapping mem, rfl⟩
  | publish stores net =>
    obtain rfl := Option.some.inj hs
    have hk := hkeep (samePlaces_publishCoherentMapped stores w.device net)
    unfold World.noteStores
    dsimp only
    split <;> exact hk
  | acquire ids net =>
    obtain rfl := Option.some.inj hs
    exact hkeep (samePlaces_acquireCoherentMapped ids w.device net)
  | flush ranges net =>
    obtain rfl := Option.some.inj hs
    refine hkeep ?_
    unfold World.after flushMappedMemoryRanges
    dsimp only
    split
    exacts [samePlaces_flushMapped ranges w.device net, ⟨rfl, rfl⟩]
  | invalidate ranges net =>
    obtain rfl := Option.some.inj hs
    refine hkeep ?_
    unfold World.after invalidateMappedMemoryRanges
    dsimp only
    split
    exacts [samePlaces_downloadMapped ranges w.device net, ⟨rfl, rfl⟩]

/-- In every reachable state both loops cut a range that falls into a mapping as they should exactly if it
fits one chunk, or starts at a multiple of an atom size that does. -/
theorem run_chunked_iff {tables : Server.Tables} {device : UInt64} {w₀ w : World} {as : List MemoryAction}
    (hmapped : w₀.device.mapped = []) (hmirror : Mirrored tables device w₀.device.memories)
    (h : Run World.step w₀ as w) {r : MemoryRange} {k start size : ℕ}
    (hr : w.device.resolveRange r = some (k, start, size)) :
    Chunked tables device w.device r k size ↔ size ≤ maxMappedChunk ∨ ∃ a, w.device.memories r.memory = some a ∧
      a.nonCoherentAtomSize ≤ maxMappedChunk ∧ a.nonCoherentAtomSize ∣ r.offset := by
  obtain ⟨hback, hmem⟩ : Backed w.device ∧ w.device.memories = w₀.device.memories :=
    h.invariant (I := fun w => Backed w.device ∧ w.device.memories = w₀.device.memories)
      ⟨fun m hm => by simp [hmapped] at hm, rfl⟩
      fun _ _ _ hi hs => ⟨(backed_step hi.1 hs).1, (backed_step hi.1 hs).2.trans hi.2⟩
  obtain ⟨m, hm, hid, -, -⟩ := resolveRange_offset hr
  obtain ⟨a, ha, -⟩ := hback m (List.mem_of_getElem? hm)
  rw [hid] at ha
  rw [chunked_iff (hmem ▸ hmirror) hback hr ha]
  refine or_congr_right ?_
  constructor
  · exact fun hcond => ⟨a, ha, hcond⟩
  · rintro ⟨a', ha', hcond⟩
    rwa [Option.some.inj (ha.symm.trans ha')]

/-! ### A mapping that starts within an atom -/

/-- One coherent allocation of 2 ^ 26 + 4 bytes in atoms of 64, as the client and the server know it. -/
def largeAllocation : MemoryAllocation where
  size := 2 ^ 26 + 4
  nonCoherentAtomSize := 64
  emulatedCoherent := true

def largeServerMemory : Server.ServerMemory where
  handle := 7
  owner := 3
  size := 2 ^ 26 + 4
  hostVisible := true
  hostCoherent := false
  mapAlignment := 64
  nonCoherentAtomSize := 64

def largeMemory : World where
  device := { memories := fun mem => if mem = 1 then some largeAllocation else none }

def largeTables : Server.Tables where
  devices id := if id = 1 then 3 else 0
  queryPools _ := 0
  pipelineCaches _ := 0
  memoryMetadata id := if id = 1 then some largeServerMemory else none

theorem mirrored_large : Mirrored largeTables 1 largeMemory.device.memories := by
  refine ⟨by decide, fun mem a ha => ?_⟩
  simp only [largeMemory] at ha
  split at ha
  · next heq =>
    obtain rfl := heq
    obtain rfl := Option.some.inj ha
    exact ⟨by decide, largeServerMemory, rfl, rfl, rfl, rfl, rfl⟩
  · cases ha

def mapAt (offset : ℕ) : MemoryAction := .map 1 offset none (fun _ => 0) []

def largeMapped (offset : ℕ) : World :=
  largeMemory.after (mapMemory 1 offset none (fun _ => 0) largeMemory.device [])

theorem run_mapLarge (offset : ℕ) : Run World.step largeMemory [mapAt offset] (largeMapped offset) :=
  .snoc .nil rfl

theorem backed_largeMapped (offset : ℕ) : Backed (largeMapped offset).device :=
  backed_mapMemory (fun m hm => by cases hm) 1 offset none (fun _ => 0) []

theorem memories_largeMapped (offset : ℕ) :
    (largeMapped offset).device.memories = largeMemory.device.memories :=
  (mapMemory_cases largeMemory.device 1 offset none (fun _ => 0) []).2.1

/-- Mapped from the start, the allocation is cut into two chunks at a multiple of the atom size. -/
theorem run_chunked_large : Chunked largeTables 1 (largeMapped 0).device ⟨1, 0, none⟩ 0 (2 ^ 26 + 4) := by
  have hr : (largeMapped 0).device.resolveRange ⟨1, 0, none⟩ = some (0, 0, 2 ^ 26 + 4) := by decide
  exact (run_chunked_iff rfl mirrored_large (run_mapLarge 0) hr).2
    (.inr ⟨largeAllocation, by rw [memories_largeMapped]; rfl, by decide, by decide⟩)

/-- Mapped from byte 4 on, it is cut at byte 4 + 67108800, which is no multiple of 64. -/
theorem cut_within_atom : ∃ w, Run World.step largeMemory [mapAt 4] w ∧
    Mirrored largeTables 1 largeMemory.device.memories ∧
    w.device.resolveRange ⟨1, 4, none⟩ = some (0, 0, 2 ^ 26) ∧
    (flushRange ⟨1, 4, none⟩ w.device []).up.reverse = [⟨1, 4, 67108800⟩, ⟨1, 67108804, 64⟩] ∧
    ¬ Chunked largeTables 1 w.device ⟨1, 4, none⟩ 0 (2 ^ 26) := by
  have hr : (largeMapped 4).device.resolveRange ⟨1, 4, none⟩ = some (0, 0, 2 ^ 26) := by decide
  have ha : (largeMapped 4).device.memories 1 = some largeAllocation := by
    rw [memories_largeMapped]
    rfl
  refine ⟨largeMapped 4, run_mapLarge 4, mirrored_large, hr, by decide, fun hchunked => ?_⟩
  rw [chunked_iff ((memories_largeMapped 4).symm ▸ mirrored_large) (backed_largeMapped 4) hr ha] at hchunked
  exact absurd hchunked (by decide)

end VkRemote.Client
