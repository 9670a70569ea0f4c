import VulkanRemote.Client.MappedMemory
import VulkanRemote.Lib.Align

/-! Where `MapMemory` puts a shadow: anywhere in a block of `malloc` that is long enough for the mapping to
start at an address which agrees with the mapping's offset modulo the alignment. All of it is computed in
words of 64 bits, and some of the steps wrap. -/

namespace VkRemote.Client
open Lib

/-- `VK_WHOLE_SIZE`. -/
def vkWholeSize : UInt64 := 0xFFFFFFFFFFFFFFFF

/-- `std::numeric_limits<size_t>::max()`. -/
def sizeMax : UInt64 := 0xFFFFFFFFFFFFFFFF

/-- `alignof(void*)`. -/
def alignofPointer : UInt64 := 8

/-- `resolve_allocation_range`, in words. -/
def resolveAllocationWords (allocationSize offset requested : UInt64) : Option UInt64 :=
  if allocationSize ≤ offset then none
  else
    let available := allocationSize - offset
    if requested = vkWholeSize then some available
    else if requested = 0 ∨ available < requested then none
    else some requested

/-- `malloc`. A block it returns ends within the address space. -/
structure Malloc where
  call : UInt64 → Option UInt64
  fits : ∀ {n base}, call n = some base → base.toNat + n.toNat ≤ 2 ^ 64

inductive MapError
  | mapFailed
  | outOfHostMemory
  deriving DecidableEq

/-- What `MapMemory` puts in `mapped`, with the length it asked of `malloc`. -/
structure Shadow where
  offset : UInt64
  size : UInt64
  allocationBase : UInt64
  allocated : UInt64
  shadow : UInt64
  deriving DecidableEq

def shadowAlignment (mapAlignment : UInt64) : UInt64 :=
  if alignofPointer < mapAlignment then mapAlignment else alignofPointer

/-- `(residue - address) & (alignment - 1)`. -/
def shadowAdjustment (alignment offset address : UInt64) : UInt64 :=
  let residue := offset &&& (alignment - 1)
  (residue - address) &&& (alignment - 1)

def placeShadow (malloc : Malloc) (alignment offset realSize : UInt64) : Except MapError Shadow :=
  if sizeMax < realSize ∨ sizeMax - (alignment - 1) < realSize then .error .outOfHostMemory
  else
    match malloc.call (realSize + alignment - 1) with
    | none => .error .outOfHostMemory
    | some address => .ok {
        offset := offset
        size := realSize
        allocationBase := address
        allocated := realSize + alignment - 1
        shadow := address + shadowAdjustment alignment offset address }

/-- `MapMemory` up to the new entry of `mapped`, for memory that is host-visible and not mapped yet. -/
def mapShadow (malloc : Malloc) (mapAlignment allocationSize offset size : UInt64) : Except MapError Shadow :=
  match resolveAllocationWords allocationSize offset size with
  | none => .error .mapFailed
  | some realSize => placeShadow malloc (shadowAlignment mapAlignment) offset realSize

/-- What the application may rely on, in numbers that do not wrap. -/
structure Shadow.Placed (s : Shadow) (alignment : ℕ) : Prop where
  base_le : s.allocationBase.toNat ≤ s.shadow.toNat
  le_base : s.shadow.toNat ≤ s.allocationBase.toNat + (alignment - 1)
  dvd : (alignment : ℤ) ∣ s.shadow.toNat - s.offset.toNat
  allocated : s.allocated.toNat = s.size.toNat + alignment - 1
  inside : s.shadow.toNat + s.size.toNat ≤ s.allocationBase.toNat + s.allocated.toNat

/-- A size as the application gives it. -/
def requestedSize (size : UInt64) : Option ℕ := if size = vkWholeSize then none else some size.toNat

/-- In words the range is resolved as in numbers. -/
theorem resolveAllocationWords_toNat (allocationSize offset size : UInt64) :
    (resolveAllocationWords allocationSize offset size).map UInt64.toNat =
      MappedDevice.resolveAllocationRange allocationSize.toNat offset.toNat (requestedSize size) := by
  unfold resolveAllocationWords requestedSize
  by_cases hle : allocationSize ≤ offset
  · have hle' : allocationSize.toNat ≤ offset.toNat := UInt64.le_iff_toNat_le.1 hle
    by_cases hwhole : size = vkWholeSize <;>
      simp [hle, hle', hwhole, MappedDevice.resolveAllocationRange]
  · have hlt : offset.toNat < allocationSize.toNat := by
      rwa [UInt64.le_iff_toNat_le, Nat.not_le] at hle
    have havailable : (allocationSize - offset).toNat = allocationSize.toNat - offset.toNat :=
      UInt64.toNat_sub_of_le _ _ (UInt64.le_iff_toNat_le.2 hlt.le)
    by_cases hwhole : size = vkWholeSize
    · simp [hle, hwhole, hlt, havailable, MappedDevice.resolveAllocationRange]
    · have hzero : size = 0 ↔ size.toNat = 0 := by
        rw [← UInt64.toNat_inj, UInt64.toNat_zero]
      have hlarge : allocationSize - offset < size ↔ allocationSize.toNat - offset.toNat < size.toNat := by
        rw [UInt64.lt_iff_toNat_lt, havailable]
      simp only [hle, hwhole, if_false, hzero, hlarge, MappedDevice.resolveAllocationRange,
        Nat.not_le.2 hlt, false_or]
      split_ifs <;> simp

theorem resolveAllocationRange_bounds {allocationSize offset n : ℕ} {requested : Option ℕ}
    (h : MappedDevice.resolveAllocationRange allocationSize offset requested = some n) :
    0 < n ∧ offset + n ≤ allocationSize := by
  cases requested with
  | none =>
    simp only [MappedDevice.resolveAllocationRange] at h
    split_ifs at h
    cases h
    omega
  | some requested =>
    simp only [MappedDevice.resolveAllocationRange] at h
    split_ifs at h
    cases h
    omega

section

variable {malloc : Malloc} {mapAlignment alignment allocationSize offset size realSize address : UInt64}
  {s : Shadow} {k : ℕ}

theorem shadowAlignment_two_pow (h : mapAlignment.toNat = 2 ^ k) :
    ∃ j, (shadowAlignment mapAlignment).toNat = 2 ^ j := by
  unfold shadowAlignment
  split_ifs with hlarge
  · exact ⟨k, h⟩
  · exact ⟨3, rfl⟩

/-- A power of two below `alignof(void*)` divides it. -/
theorem dvd_shadowAlignment (h : mapAlignment.toNat = 2 ^ k) :
    mapAlignment.toNat ∣ (shadowAlignment mapAlignment).toNat := by
  unfold shadowAlignment
  split_ifs with hlarge
  · exact dvd_rfl
  · have hle : 2 ^ k ≤ 2 ^ 3 := by
      rw [← h]
      exact UInt64.le_iff_toNat_le.1 (UInt64.not_lt.1 hlarge)
    rw [h]
    exact Nat.pow_dvd_pow 2 ((Nat.pow_le_pow_iff_right Nat.one_lt_two).1 hle)

/-- The check before `malloc` refuses the lengths that do not fit in a word, and no others. -/
theorem guard_iff (h : 1 ≤ alignment) :
    (sizeMax < realSize ∨ sizeMax - (alignment - 1) < realSize) ↔
      2 ^ 64 ≤ realSize.toNat + alignment.toNat - 1 := by
  have hone : 1 ≤ alignment.toNat := UInt64.le_iff_toNat_le.1 h
  have hpred := toNat_sub_one h
  have hmax : sizeMax.toNat = 2 ^ 64 - 1 := rfl
  have halignment := alignment.toNat_lt
  have hsize := realSize.toNat_lt
  have hleft : (sizeMax - (alignment - 1)).toNat = 2 ^ 64 - 1 - (alignment.toNat - 1) := by
    rw [UInt64.toNat_sub_of_le, hmax, hpred]
    rw [UInt64.le_iff_toNat_le, hmax, hpred]
    omega
  rw [UInt64.lt_iff_toNat_lt, UInt64.lt_iff_toNat_lt, hleft, hmax]
  omega

/-- The sum before the subtraction may wrap to zero; the length asked of `malloc` does not. -/
theorem toNat_allocated (h : 1 ≤ alignment) (hfits : realSize.toNat + alignment.toNat - 1 < 2 ^ 64) :
    (realSize + alignment - 1).toNat = realSize.toNat + alignment.toNat - 1 := by
  have hone : 1 ≤ alignment.toNat := UInt64.le_iff_toNat_le.1 h
  rw [UInt64.toNat_sub, UInt64.toNat_add, UInt64.toNat_one]
  omega

theorem shadowAdjustment_lt (h : alignment.toNat = 2 ^ k) (offset address : UInt64) :
    (shadowAdjustment alignment offset address).toNat < alignment.toNat := by
  have hpos : 0 < alignment.toNat := h ▸ Nat.two_pow_pos k
  unfold shadowAdjustment
  rw [toNat_and_sub_one h]
  exact Nat.mod_lt _ hpos

theorem shadowAdjustment_modEq (h : alignment.toNat = 2 ^ k) (offset address : UInt64) :
    address.toNat + (shadowAdjustment alignment offset address).toNat ≡ offset.toNat [MOD alignment.toNat] := by
  have hresidue : (offset &&& (alignment - 1)).toNat ≡ offset.toNat [MOD alignment.toNat] := by
    rw [toNat_and_sub_one h]
    exact Nat.mod_modEq _ _
  exact (modEq_add_and_sub h address _).trans hresidue

theorem placeShadow_ok (h : placeShadow malloc alignment offset realSize = .ok s) :
    ¬ (sizeMax < realSize ∨ sizeMax - (alignment - 1) < realSize) ∧
      ∃ address, malloc.call (realSize + alignment - 1) = some address ∧
        s = ⟨offset, realSize, address, realSize + alignment - 1,
          address + shadowAdjustment alignment offset address⟩ := by
  unfold placeShadow at h
  split_ifs at h with hguard
  cases hcall : malloc.call (realSize + alignment - 1) with
  | none =>
    rw [hcall] at h
    cases h
  | some address =>
    rw [hcall] at h
    cases h
    exact ⟨hguard, address, rfl, rfl⟩

theorem placeShadow_placed (halignment : alignment.toNat = 2 ^ k) (hpos : 0 < realSize.toNat)
    (h : placeShadow malloc alignment offset realSize = .ok s) : s.Placed alignment.toNat := by
  obtain ⟨hguard, address, hcall, rfl⟩ := placeShadow_ok h
  have hone := one_le_of_two_pow halignment
  rw [guard_iff hone, Nat.not_le] at hguard
  have hallocated := toNat_allocated hone hguard
  have hblock := malloc.fits hcall
  have hlt := shadowAdjustment_lt halignment offset address
  -- the block ends within the address space and the mapping is not empty, so this sum stays below its end
  have hshadow : (address + shadowAdjustment alignment offset address).toNat =
      address.toNat + (shadowAdjustment alignment offset address).toNat := by
    rw [UInt64.toNat_add, Nat.mod_eq_of_lt]
    omega
  refine ⟨?_, ?_, ?_, hallocated, ?_⟩ <;> dsimp only
  · rw [hshadow]
    exact Nat.le_add_right _ _
  · rw [hshadow]
    omega
  · rw [hshadow]
    exact (Nat.modEq_iff_dvd.1 (shadowAdjustment_modEq halignment offset address).symm)
  · rw [hshadow, hallocated]
    omega

theorem mapShadow_ok (h : mapShadow malloc mapAlignment allocationSize offset size = .ok s) :
    MappedDevice.resolveAllocationRange allocationSize.toNat offset.toNat (requestedSize size) =
        some s.size.toNat ∧
      s.offset = offset ∧
      placeShadow malloc (shadowAlignment mapAlignment) offset s.size = .ok s := by
  unfold mapShadow at h
  cases hrange : resolveAllocationWords allocationSize offset size with
  | none =>
    rw [hrange] at h
    cases h
  | some realSize =>
    rw [hrange] at h
    dsimp only at h
    have hwords := resolveAllocationWords_toNat allocationSize offset size
    rw [hrange] at hwords
    obtain ⟨-, address, -, rfl⟩ := placeShadow_ok h
    exact ⟨hwords.symm, rfl, h⟩

/-- Every mapping that is accepted gets its shadow where it belongs, inside its own block, for any block that
`malloc` returns. -/
theorem mapShadow_placed (halignment : mapAlignment.toNat = 2 ^ k)
    (h : mapShadow malloc mapAlignment allocationSize offset size = .ok s) :
    (0 < s.size.toNat ∧ s.offset = offset ∧ offset.toNat + s.size.toNat ≤ allocationSize.toNat) ∧
      s.Placed (shadowAlignment mapAlignment).toNat ∧
      (mapAlignment.toNat : ℤ) ∣ s.shadow.toNat - offset.toNat := by
  obtain ⟨hrange, hoffset, hplace⟩ := mapShadow_ok h
  obtain ⟨hpos, hbound⟩ := resolveAllocationRange_bounds hrange
  obtain ⟨j, hj⟩ := shadowAlignment_two_pow halignment
  have hplaced := placeShadow_placed hj hpos hplace
  refine ⟨⟨hpos, hoffset, hbound⟩, hplaced, ?_⟩
  rw [← hoffset]
  exact (Int.natCast_dvd_natCast.2 (dvd_shadowAlignment halignment)).trans hplaced.dvd

end

/-- A heap with one block to give. -/
def oneBlock : Malloc where
  call n := if n.toNat ≤ 65536 then some 4112 else none
  fits {n base} h := by
    split_ifs at h with hn
    cases h
    have : (4112 : UInt64).toNat = 4112 := rfl
    omega

theorem mapShadow_placed_oneBlock :
    mapShadow oneBlock 64 4096 100 1000 = .ok ⟨100, 1000, 4112, 1063, 4132⟩ ∧
      (4132 : UInt64).toNat + (1000 : UInt64).toNat ≤ (4112 : UInt64).toNat + (1063 : UInt64).toNat ∧
      ((64 : UInt64).toNat : ℤ) ∣ (4132 : UInt64).toNat - (100 : UInt64).toNat := by
  have hmap : mapShadow oneBlock 64 4096 100 1000 = .ok ⟨100, 1000, 4112, 1063, 4132⟩ := by decide
  have hplaced := mapShadow_placed (k := 6) (by decide) hmap
  exact ⟨hmap, hplaced.2.1.inside, hplaced.2.2⟩

end VkRemote.Client
