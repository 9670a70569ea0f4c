import VulkanRemote.Lib.Align
import VulkanRemote.Server.DataReplies

/-! The ranges that an accepted transfer hands to the driver: the offset of the mapping and, where the memory
is not coherent, the range that is flushed or invalidated. Flushes and downloads compute both alike. -/

namespace VkRemote.Server

open Lib

/-- `VK_WHOLE_SIZE`. -/
def wholeSize : UInt64 := 0xFFFFFFFFFFFFFFFF

/-- The offset given to `vkMapMemory`; the size given is `VK_WHOLE_SIZE`. -/
def ServerMemory.mapOffset (m : ServerMemory) (offset : UInt64) : UInt64 := alignDown offset m.nativeAlignment

/-- The range that is flushed or invalidated, where the memory is not coherent. -/
def transferRange (m : ServerMemory) (offset size : UInt64) : Option (UInt64 × Option UInt64) :=
  if m.hostCoherent then none else some (nativeRange m offset size)

/-- Where a range of the driver's ends in the allocation, without wrapping around. -/
def rangeStop (m : ServerMemory) (range : UInt64 × Option UInt64) : ℕ :=
  let size := range.2.getD wholeSize
  if size = wholeSize then m.size.toNat else range.1.toNat + size.toNat

/-- What a transfer needs of its mapping, which reaches to the end of the allocation. -/
structure MappingValid (m : ServerMemory) (offset size : UInt64) : Prop where
  pointer : (m.mapOffset offset).toNat + (offset - m.mapOffset offset).toNat = offset.toNat
  window : (offset - m.mapOffset offset).toNat + size.toNat ≤ m.size.toNat - (m.mapOffset offset).toNat

/-- What the specification asks of the range, which has to cover the transfer and lie in the mapping. -/
structure RangeValid (m : ServerMemory) (offset size : UInt64) (range : UInt64 × Option UInt64) : Prop where
  aligned : m.nonCoherentAtomSize.toNat ∣ range.1.toNat
  starts : range.1 ≤ offset
  covers : offset.toNat + size.toNat ≤ rangeStop m range
  within : rangeStop m range ≤ m.size.toNat
  ends : m.nonCoherentAtomSize.toNat ∣ rangeStop m range ∨ rangeStop m range = m.size.toNat
  mapped : m.mapOffset offset ≤ range.1

/-- The atom size and the alignment of mappings are powers of two, as they are in every device's limits. -/
structure ServerMemory.PowersOfTwo (m : ServerMemory) : Prop where
  atom : ∃ k, m.nonCoherentAtomSize.toNat = 2 ^ k
  alignment : ∃ k, m.mapAlignment.toNat = 2 ^ k

section

variable {tables : Tables} {device memory offset size : UInt64} {m : ServerMemory}

theorem validateTransfer_spec (h : validateTransfer tables device memory offset size = some m) :
    0 < size.toNat ∧ size.toNat ≤ kMaxMappedChunk ∧ offset.toNat + size.toNat ≤ m.size.toNat := by
  obtain ⟨m', -, h⟩ := Option.bind_eq_some_iff.1 h
  split at h
  · cases h
  · next hvalid =>
    cases h
    push Not at hvalid
    obtain ⟨-, -, -, hsize, hchunk, hoffset, hfits⟩ := hvalid
    rw [UInt64.lt_iff_toNat_lt, Nat.not_lt] at hoffset
    rw [UInt64.lt_iff_toNat_lt, UInt64.toNat_sub_of_le _ _ (UInt64.le_iff_toNat_le.2 hoffset)] at hfits
    have hpos : size.toNat ≠ 0 := fun h0 => hsize (UInt64.toNat_inj.1 h0)
    omega

theorem toNat_alignDown {value alignment : UInt64} (h : ∃ k, alignment.toNat = 2 ^ k) :
    (alignDown value alignment).toNat = roundDown alignment.toNat value.toNat := by
  obtain ⟨k, hk⟩ := h
  exact toNat_and_not_sub_one hk

/-- The larger of the two alignments is a multiple of the smaller one. -/
theorem ServerMemory.PowersOfTwo.native (h : m.PowersOfTwo) : (∃ k, m.nativeAlignment.toNat = 2 ^ k) ∧
    m.nonCoherentAtomSize.toNat ∣ m.nativeAlignment.toNat := by
  obtain ⟨⟨a, ha⟩, ⟨k, hk⟩⟩ := h
  unfold ServerMemory.nativeAlignment
  split
  · next hlt =>
    rw [UInt64.lt_iff_toNat_lt, ha, hk] at hlt
    refine ⟨⟨k, hk⟩, ?_⟩
    rw [ha, hk]
    exact Nat.pow_dvd_pow 2 ((Nat.pow_lt_pow_iff_right (by decide)).1 hlt).le
  · exact ⟨⟨a, ha⟩, dvd_rfl⟩

theorem ServerMemory.PowersOfTwo.atom_pos (h : m.PowersOfTwo) : 0 < m.nonCoherentAtomSize.toNat := by
  obtain ⟨k, hk⟩ := h.atom
  rw [hk]
  exact Nat.two_pow_pos k

/-- Words hold a whole number of atoms. -/
theorem ServerMemory.PowersOfTwo.atom_dvd (h : m.PowersOfTwo) : m.nonCoherentAtomSize.toNat ∣ 2 ^ 64 := by
  obtain ⟨k, hk⟩ := h.atom
  rw [hk]
  refine Nat.pow_dvd_pow 2 ?_
  have hlt := m.nonCoherentAtomSize.toNat_lt
  rw [hk] at hlt
  exact ((Nat.pow_lt_pow_iff_right (by decide)).1 hlt).le

theorem toNat_mapOffset (h : m.PowersOfTwo) (offset : UInt64) :
    (m.mapOffset offset).toNat = roundDown m.nativeAlignment.toNat offset.toNat :=
  toNat_alignDown h.native.1

theorem toNat_nativeRange_fst (h : m.PowersOfTwo) (offset size : UInt64) :
    (nativeRange m offset size).1.toNat = roundDown m.nonCoherentAtomSize.toNat offset.toNat := by
  have hstart : (nativeRange m offset size).1 = alignDown offset m.nonCoherentAtomSize := by
    unfold nativeRange
    dsimp only
    split <;> rfl
  rw [hstart, toNat_alignDown h.atom]

/-- The size that rounding leaves, as the subtraction of words computes it. -/
theorem nativeRange_snd (h : m.PowersOfTwo) (hfits : offset.toNat + size.toNat ≤ m.size.toNat)
    (hinner : offset.toNat + size.toNat ≠ m.size.toNat) :
    ∃ n, (nativeRange m offset size).2 = some n ∧
      n.toNat = (2 ^ 64 - roundDown m.nonCoherentAtomSize.toNat offset.toNat +
        roundDown m.nonCoherentAtomSize.toNat
          ((offset.toNat + size.toNat + m.nonCoherentAtomSize.toNat - 1) % 2 ^ 64)) % 2 ^ 64 := by
  have hpos := h.atom_pos
  have hatom := m.nonCoherentAtomSize.toNat_lt
  have hstop : (offset + size).toNat = offset.toNat + size.toNat := by
    rw [UInt64.toNat_add, Nat.mod_eq_of_lt (hfits.trans_lt m.size.toNat_lt)]
  have hne : offset + size ≠ m.size := fun heq => hinner (by rw [← hstop, heq])
  refine ⟨_, by unfold nativeRange; rw [if_neg hne], ?_⟩
  rw [UInt64.toNat_sub, toNat_alignDown h.atom, toNat_alignDown h.atom, UInt64.toNat_sub, UInt64.toNat_add, hstop]
  congr 3
  rw [UInt64.toNat_one]
  omega

/-- The size of an inner range is never taken for `VK_WHOLE_SIZE`. -/
theorem rangeStop_inner (h : m.PowersOfTwo) (hchunk : size.toNat ≤ kMaxMappedChunk)
    (hfits : offset.toNat + size.toNat ≤ m.size.toNat) (hinner : offset.toNat + size.toNat ≠ m.size.toNat) :
    rangeStop m (nativeRange m offset size) = roundDown m.nonCoherentAtomSize.toNat offset.toNat +
      (2 ^ 64 - roundDown m.nonCoherentAtomSize.toNat offset.toNat +
        roundDown m.nonCoherentAtomSize.toNat
          ((offset.toNat + size.toNat + m.nonCoherentAtomSize.toNat - 1) % 2 ^ 64)) % 2 ^ 64 := by
  obtain ⟨n, hn, hval⟩ := nativeRange_snd h hfits hinner
  have hwhole : n ≠ wholeSize := by
    rintro rfl
    have hdvd : m.nonCoherentAtomSize.toNat ∣ wholeSize.toNat := by
      rw [hval, Nat.dvd_mod_iff h.atom_dvd]
      exact Nat.dvd_add (Nat.dvd_sub h.atom_dvd (dvd_roundDown _ _)) (dvd_roundDown _ _)
    have hone : m.nonCoherentAtomSize.toNat = 1 :=
      Nat.dvd_one.1 ((Nat.dvd_add_right hdvd).1 (h.atom_dvd : _ ∣ wholeSize.toNat + 1))
    have := m.size.toNat_lt
    have hwide : wholeSize.toNat = 2 ^ 64 - 1 := rfl
    rw [hone, hwide, roundDown_of_dvd (one_dvd _), roundDown_of_dvd (one_dvd _)] at hval
    unfold kMaxMappedChunk at hchunk
    omega
  unfold rangeStop
  rw [hn]
  simp only [Option.getD_some, if_neg hwhole]
  rw [hval, toNat_nativeRange_fst h]

/-- The end that is rounded up stays a word exactly when it stays within the allocation's last whole atom. -/
theorem rangeStop_of_le (h : m.PowersOfTwo) (hchunk : size.toNat ≤ kMaxMappedChunk)
    (hinner : offset.toNat + size.toNat ≠ m.size.toNat)
    (hle : offset.toNat + size.toNat ≤ roundDown m.nonCoherentAtomSize.toNat m.size.toNat) :
    rangeStop m (nativeRange m offset size) =
      roundUp m.nonCoherentAtomSize.toNat (offset.toNat + size.toNat) := by
  have hsize := m.size.toNat_lt
  have hup := (roundUp_le_iff h.atom_pos).2 hle
  have hroom := add_unit_le_of_dvd (dvd_roundUp _ _) h.atom_dvd (hup.trans_lt hsize)
  have hge := le_roundUp h.atom_pos (offset.toNat + size.toNat)
  have hstart := roundDown_le m.nonCoherentAtomSize.toNat offset.toNat
  rw [rangeStop_inner h hchunk (hle.trans (roundDown_le _ _)) hinner,
    Nat.mod_eq_of_lt (a := offset.toNat + size.toNat + m.nonCoherentAtomSize.toNat - 1) (by omega)]
  change _ + (_ + roundUp m.nonCoherentAtomSize.toNat (offset.toNat + size.toNat)) % _ = _
  omega

theorem rangeStop_of_lt (h : m.PowersOfTwo) (hchunk : size.toNat ≤ kMaxMappedChunk) (hsize : 0 < size.toNat)
    (hfits : offset.toNat + size.toNat < m.size.toNat)
    (hlt : roundDown m.nonCoherentAtomSize.toNat m.size.toNat < offset.toNat + size.toNat) :
    rangeStop m (nativeRange m offset size) < offset.toNat + size.toNat ∨
      m.size.toNat < rangeStop m (nativeRange m offset size) := by
  have hword := m.size.toNat_lt
  have hup : m.size.toNat < roundUp m.nonCoherentAtomSize.toNat (offset.toNat + size.toNat) :=
    Nat.lt_of_not_le fun hle => Nat.not_lt.2 ((roundUp_le_iff h.atom_pos).1 hle) hlt
  have hstart := roundDown_le m.nonCoherentAtomSize.toNat offset.toNat
  rw [rangeStop_inner h hchunk hfits.le hfits.ne]
  rcases Nat.lt_or_ge (offset.toNat + size.toNat + m.nonCoherentAtomSize.toNat - 1) (2 ^ 64) with hno | hwrap
  · rw [Nat.mod_eq_of_lt hno]
    change _ ∨ _ < _ + (_ + roundUp m.nonCoherentAtomSize.toNat (offset.toNat + size.toNat)) % _
    have := roundDown_le m.nonCoherentAtomSize.toNat
      (offset.toNat + size.toNat + m.nonCoherentAtomSize.toNat - 1)
    change roundUp m.nonCoherentAtomSize.toNat (offset.toNat + size.toNat) ≤ _ at this
    omega
  · -- the sum wraps around, and what is left of it is less than one atom
    have hzero : roundDown m.nonCoherentAtomSize.toNat
        ((offset.toNat + size.toNat + m.nonCoherentAtomSize.toNat - 1) % 2 ^ 64) = 0 := by
      have hatom := m.nonCoherentAtomSize.toNat_lt
      unfold roundDown
      rw [Nat.mod_eq_of_lt (a := _ % 2 ^ 64) (by omega), Nat.sub_self]
    rw [hzero]
    omega

theorem mappingValid (h : validateTransfer tables device memory offset size = some m) (hpow : m.PowersOfTwo) :
    MappingValid m offset size := by
  obtain ⟨-, -, hfits⟩ := validateTransfer_spec h
  have hmap := toNat_mapOffset hpow offset
  have hmaple := roundDown_le m.nativeAlignment.toNat offset.toNat
  have hpointer : (offset - m.mapOffset offset).toNat = offset.toNat - (m.mapOffset offset).toNat :=
    UInt64.toNat_sub_of_le _ _ (UInt64.le_iff_toNat_le.2 (hmap ▸ hmaple))
  exact ⟨by omega, by omega⟩

/-- Where the end of the range lies decides alone, its start is always right. -/
theorem rangeValid_of_stop (hpow : m.PowersOfTwo)
    (hcovers : offset.toNat + size.toNat ≤ rangeStop m (nativeRange m offset size))
    (hwithin : rangeStop m (nativeRange m offset size) ≤ m.size.toNat)
    (hends : m.nonCoherentAtomSize.toNat ∣ rangeStop m (nativeRange m offset size) ∨
      rangeStop m (nativeRange m offset size) = m.size.toNat) :
    RangeValid m offset size (nativeRange m offset size) := by
  refine ⟨?_, ?_, hcovers, hwithin, hends, ?_⟩
  · rw [toNat_nativeRange_fst hpow]
    exact dvd_roundDown _ _
  · rw [UInt64.le_iff_toNat_le, toNat_nativeRange_fst hpow]
    exact roundDown_le _ _
  · rw [UInt64.le_iff_toNat_le, toNat_nativeRange_fst hpow, toNat_mapOffset hpow]
    exact roundDown_le_roundDown hpow.native.2 _

/-- The mapping of an accepted transfer is valid, and its range is exactly if the transfer ends with the
allocation, or before the allocation's last whole atom does. -/
theorem transferRange_valid_iff (h : validateTransfer tables device memory offset size = some m)
    (hcoherent : m.hostCoherent = false) (hpow : m.PowersOfTwo) :
    (MappingValid m offset size ∧
        ∃ range, transferRange m offset size = some range ∧ RangeValid m offset size range) ↔
      offset.toNat + size.toNat = m.size.toNat ∨
        offset.toNat + size.toNat ≤ m.size.toNat - m.size.toNat % m.nonCoherentAtomSize.toNat := by
  obtain ⟨hpos, hchunk, hfits⟩ := validateTransfer_spec h
  have hrange : transferRange m offset size = some (nativeRange m offset size) := by
    rw [transferRange, hcoherent, if_neg Bool.false_ne_true]
  constructor
  · rintro ⟨-, range, hr, hvalid⟩
    obtain rfl := Option.some.inj (hr.symm.trans hrange)
    by_contra hno
    push Not at hno
    have hcover := hvalid.covers
    have hwithin := hvalid.within
    have := rangeStop_of_lt hpow hchunk hpos (by omega) hno.2
    omega
  · intro hends
    refine ⟨mappingValid h hpow, _, hrange, ?_⟩
    by_cases hwhole : offset.toNat + size.toNat = m.size.toNat
    · have heq : offset + size = m.size := UInt64.toNat_inj.1 (by
        rw [UInt64.toNat_add, Nat.mod_eq_of_lt (hfits.trans_lt m.size.toNat_lt), hwhole])
      have hstop : rangeStop m (nativeRange m offset size) = m.size.toNat := by
        simp [rangeStop, nativeRange, heq]
      exact rangeValid_of_stop hpow (by omega) hstop.le (.inr hstop)
    · have hle := hends.resolve_left hwhole
      have hstop := rangeStop_of_le hpow hchunk hwhole hle
      refine rangeValid_of_stop hpow ?_ ?_ (.inl (hstop ▸ dvd_roundUp _ _))
      · rw [hstop]
        exact le_roundUp hpow.atom_pos _
      · rw [hstop]
        exact (roundUp_le_iff hpow.atom_pos).2 hle

end
/-! ### An allocation that ends within an atom -/

/-- Memory 1 of device 1: a hundred bytes in atoms of 64. -/
def hundredBytes : ServerMemory where
  handle := 7
  owner := 3
  size := 100
  hostVisible := true
  hostCoherent := false
  mapAlignment := 64
  nonCoherentAtomSize := 64

def hundredByteTables : Tables where
  devices id := if id = 1 then 3 else 0
  queryPools _ := 0
  pipelineCaches _ := 0
  memoryMetadata id := if id = 1 then some hundredBytes else none

theorem hundredBytes_powersOfTwo : hundredBytes.PowersOfTwo := ⟨⟨6, rfl⟩, ⟨6, rfl⟩⟩

theorem transferRange_valid_tail : MappingValid hundredBytes 64 36 ∧
    ∃ range, transferRange hundredBytes 64 36 = some range ∧ RangeValid hundredBytes 64 36 range := by
  have hvalid : validateTransfer hundredByteTables 1 1 64 36 = some hundredBytes := rfl
  exact (transferRange_valid_iff hvalid rfl hundredBytes_powersOfTwo).2 (.inl (by decide))

/-- Thirty bytes from 64 on are rounded up to 128, behind the end of the allocation. -/
theorem range_leaves_allocation : ∃ m, validateTransfer hundredByteTables 1 1 64 30 = some m ∧
    m.hostCoherent = false ∧ m.PowersOfTwo ∧ ∃ range, transferRange m 64 30 = some range ∧
      rangeStop m range = 128 ∧ m.size = 100 ∧ ¬ RangeValid m 64 30 range := by
  refine ⟨hundredBytes, rfl, rfl, hundredBytes_powersOfTwo, (64, some 64), by decide, by decide, rfl, ?_⟩
  intro hvalid
  exact absurd hvalid.within (by decide)

end VkRemote.Server
