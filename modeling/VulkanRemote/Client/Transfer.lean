import Mathlib.Tactic
import VulkanRemote.Client.MappedMemory

/-! What each transfer loop moves, position by position: which bytes go up, that nothing else
changes on the server, and that `publish_coherent_mapped` sends besides the bytes the host
changed only the short clean gaps between them. -/

namespace VkRemote.Client
open Lib

namespace MappedRange

/-- A clean byte in a gap, no longer than `publish_coherent_mapped` bridges, between two
changed bytes at or after `start`. -/
def GapFrom (m : MappedRange) (start i : ℕ) : Prop :=
  m.clean i ∧ ∃ a b, start ≤ a ∧ a < i ∧ i < b ∧ b < m.size ∧ b - a ≤ coalesceGap ∧
    ¬ m.clean a ∧ ¬ m.clean b ∧ ∀ k, a < k → k < b → m.clean k

def InGap (m : MappedRange) (i : ℕ) : Prop := m.GapFrom 0 i

theorem GapFrom.mono {m m' : MappedRange} {start start' i : ℕ} (h : m'.GapFrom start' i)
    (hle : start ≤ start') (hsize : m'.size = m.size)
    (hclean : ∀ k, start' ≤ k → (m'.clean k ↔ m.clean k)) : m.GapFrom start i := by
  obtain ⟨hi, a, b, ha, hai, hib, hb, hlen, hda, hdb, hall⟩ := h
  refine ⟨(hclean i (by omega)).1 hi, a, b, by omega, hai, hib, by omega, hlen,
    fun h => hda ((hclean a ha).2 h), fun h => hdb ((hclean b (by omega)).2 h), ?_⟩
  intro k h1 h2
  exact (hclean k (by omega)).1 (hall k h1 h2)

theorem skipClean_spec (m : MappedRange) {start : ℕ} (h : start ≤ m.size) :
    start ≤ m.skipClean start ∧ m.skipClean start ≤ m.size ∧
    (∀ k, start ≤ k → k < m.skipClean start → m.clean k) ∧
    (m.skipClean start < m.size → ¬ m.clean (m.skipClean start)) := by
  have hstop : ∀ k, (k < m.size ∧ m.clean k) → k < m.size := fun k hk => hk.1
  refine ⟨le_skipWhile _ _, skipWhile_le hstop h, ?_, ?_⟩
  · intro k h1 h2
    exact (of_lt_skipWhile h1 h2).2
  · intro hlt hc
    exact not_skipWhile hstop (Nat.sub_le _ _) ⟨hlt, hc⟩

theorem skipDirty_spec (m : MappedRange) {start : ℕ} (h : start ≤ m.size) :
    start ≤ m.skipDirty start ∧ m.skipDirty start ≤ m.size ∧
    (∀ k, start ≤ k → k < m.skipDirty start → ¬ m.clean k) ∧
    (start < m.size → ¬ m.clean start → start < m.skipDirty start) := by
  have hstop : ∀ k, (k < m.size ∧ ¬ m.clean k) → k < m.size := fun k hk => hk.1
  have hle : start ≤ m.skipDirty start := le_skipWhile _ _
  refine ⟨hle, skipWhile_le hstop h, ?_, ?_⟩
  · intro k h1 h2
    exact (of_lt_skipWhile h1 h2).2
  · intro hlt hd
    refine lt_of_le_of_ne hle fun heq => ?_
    have hno : ¬ (m.skipDirty start < m.size ∧ ¬ m.clean (m.skipDirty start)) :=
      not_skipWhile hstop (Nat.sub_le _ _)
    rw [← heq] at hno
    exact hno ⟨hlt, hd⟩

theorem skipGap_spec (m : MappedRange) {start : ℕ} (h : start ≤ m.size) :
    start ≤ m.skipGap start ∧ m.skipGap start ≤ m.size ∧
    (∀ k, start ≤ k → k < m.skipGap start → m.clean k) ∧
    (m.skipGap start < m.size → m.skipGap start - start ≠ coalesceGap →
      ¬ m.clean (m.skipGap start) ∧ m.skipGap start - start < coalesceGap) := by
  have hstop : ∀ k, (k < m.size ∧ m.clean k ∧ k - start < coalesceGap) → k < m.size :=
    fun k hk => hk.1
  have hle : start ≤ m.skipGap start := le_skipWhile _ _
  refine ⟨hle, skipWhile_le hstop h, ?_, ?_⟩
  · intro k h1 h2
    exact (of_lt_skipWhile h1 h2).2.1
  · intro hlt hne
    have hno := not_skipWhile (i := start) hstop (Nat.sub_le m.size start)
    have hshort : m.skipGap start - start < coalesceGap := by
      rcases Nat.eq_or_lt_of_le hle with heq | hgt
      · simp [← heq, coalesceGap]
      · have hlast : m.skipGap start - 1 < skipWhile
            (fun i => i < m.size ∧ m.clean i ∧ i - start < coalesceGap) m.size start := by
          change _ < m.skipGap start
          omega
        have := (of_lt_skipWhile (by omega) hlast).2.2
        omega
    exact ⟨fun hc => hno ⟨hlt, hc, hshort⟩, hshort⟩

/-- A run that starts at `first` and has been followed to `stop` ends behind a changed byte,
and everything it takes in on the way is changed or bridged. -/
theorem runEnd_spec (m : MappedRange) {start : ℕ} (fuel stop : ℕ) (hstart : start < stop)
    (hsize : stop ≤ m.size) (hfuel : m.size - stop ≤ fuel) (hdirty : ¬ m.clean (stop - 1)) :
    stop ≤ m.runEnd fuel stop ∧ m.runEnd fuel stop ≤ m.size ∧
    ∀ i, stop ≤ i → i < m.runEnd fuel stop → ¬ m.clean i ∨ m.GapFrom start i := by
  induction fuel generalizing stop with
  | zero =>
    refine ⟨le_rfl, hsize, fun i h1 h2 => ?_⟩
    simp only [runEnd] at h2
    omega
  | succ fuel ih =>
    unfold runEnd
    split
    · next hlt =>
      obtain ⟨hg1, hg2, hg3, hg4⟩ := m.skipGap_spec hsize
      dsimp only
      split
      · exact ⟨le_rfl, hsize, fun i h1 h2 => by omega⟩
      · next hgo =>
        obtain ⟨hgs, hgl⟩ := not_or.1 hgo
        obtain ⟨hgd, hgshort⟩ := hg4 (by omega) hgl
        obtain ⟨hd1, hd2, hd3, hd4⟩ := m.skipDirty_spec hg2
        have hd5 := hd4 (by omega) hgd
        have hlast : ¬ m.clean (m.skipDirty (m.skipGap stop) - 1) :=
          hd3 _ (by omega) (by omega)
        obtain ⟨h1, h2, h3⟩ := ih (m.skipDirty (m.skipGap stop)) (by omega) hd2
          (by omega) hlast
        refine ⟨by omega, h2, fun i hi1 hi2 => ?_⟩
        rcases Nat.lt_or_ge i (m.skipGap stop) with hgap | hgap
        · -- inside the gap: bridged by the changed byte before it and the one that ends it
          refine .inr ⟨hg3 i hi1 hgap, stop - 1, m.skipGap stop, by omega, by omega, hgap,
            by omega, by omega, hdirty, hgd, fun k hk1 hk2 => hg3 k (by omega) hk2⟩
        · rcases Nat.lt_or_ge i (m.skipDirty (m.skipGap stop)) with hrun | hrun
          · exact .inl (hd3 i hgap hrun)
          · exact h3 i hrun hi2
    · exact ⟨le_rfl, hsize, fun i h1 h2 => by omega⟩

end MappedRange

/-- From `t` to `t'` the bytes of the shadow at the positions `new` went up, and only those. -/
structure Pushed (t t' : Transfer) (new : List (ℕ × ℕ)) : Prop where
  range : t'.m = { t.m with baseline := t'.m.baseline }
  applied : t'.applied = new ++ t.applied
  pulled : t'.pulled = t.pulled
  sent : ∀ i, Covered new i → t'.server (t.m.offset + i) = t.m.shadow i
  kept : ∀ j, (∀ i, Covered new i → j ≠ t.m.offset + i) → t'.server j = t.server j
  baseline : ∀ i, t'.m.baseline i = t.m.baseline i ∨
    (Covered new i ∧ t'.m.baseline i = t.m.shadow i)

namespace Pushed

theorem refl (t : Transfer) : Pushed t t [] :=
  ⟨rfl, rfl, rfl, by simp, fun _ _ => rfl, fun _ => .inl rfl⟩

theorem shadow {t t' : Transfer} {new : List (ℕ × ℕ)} (h : Pushed t t' new) :
    t'.m.shadow = t.m.shadow := by rw [h.range]

theorem offset {t t' : Transfer} {new : List (ℕ × ℕ)} (h : Pushed t t' new) :
    t'.m.offset = t.m.offset := by rw [h.range]

theorem size {t t' : Transfer} {new : List (ℕ × ℕ)} (h : Pushed t t' new) :
    t'.m.size = t.m.size := by rw [h.range]

theorem trans {t t' t'' : Transfer} {new new' : List (ℕ × ℕ)} (h : Pushed t t' new)
    (h' : Pushed t' t'' new') : Pushed t t'' (new' ++ new) := by
  refine ⟨?_, ?_, h'.pulled.trans h.pulled, ?_, ?_, ?_⟩
  · rw [h'.range, h.range]
  · rw [h'.applied, h.applied, List.append_assoc]
  · intro i hi
    by_cases hnew : Covered new' i
    · have := h'.sent i hnew
      rwa [h.offset, h.shadow] at this
    · have hi := (covered_append.1 hi).resolve_left hnew
      rw [h'.kept, h.sent i hi]
      rintro k hk heq
      rw [h.offset] at heq
      obtain rfl : i = k := by omega
      exact hnew hk
  · intro j hj
    rw [h'.kept j, h.kept j]
    · exact fun i hi => hj i (covered_append.2 (.inr hi))
    · intro i hi
      rw [h.offset]
      exact hj i (covered_append.2 (.inl hi))
  · intro i
    rcases h'.baseline i with he | ⟨hc, he⟩
    · rcases h.baseline i with he' | ⟨hc', he'⟩
      · exact .inl (he.trans he')
      · exact .inr ⟨covered_append.2 (.inr hc'), he.trans he'⟩
    · exact .inr ⟨covered_append.2 (.inl hc), by rw [he, h.shadow]⟩

end Pushed

namespace Transfer

theorem pushed_writeServer (t : Transfer) (at_ n : ℕ) :
    Pushed t (t.writeServer at_ n) [(at_, n)] := by
  refine ⟨rfl, rfl, rfl, ?_, ?_, fun _ => .inl rfl⟩
  · intro i hi
    obtain ⟨h1, h2⟩ := covered_singleton.1 hi
    have : t.m.offset + at_ ≤ t.m.offset + i ∧ t.m.offset + i < t.m.offset + at_ + n := by
      simp only at h1 h2
      omega
    simp [writeServer, this]
  · intro j hj
    have : ¬ (t.m.offset + at_ ≤ j ∧ j < t.m.offset + at_ + n) := by
      rintro ⟨h1, h2⟩
      exact hj (j - t.m.offset) (covered_singleton.2 ⟨by simp only; omega, by simp only; omega⟩)
        (by omega)
    simp [writeServer, this]

/-- The network's script does not show in what went up. -/
theorem pushed_setNet {t t' : Transfer} {new : List (ℕ × ℕ)} (h : Pushed t t' new)
    (net : List Outcome) : Pushed t { t' with net := net } new :=
  ⟨h.range, h.applied, h.pulled, h.sent, h.kept, h.baseline⟩

theorem upload_spec (t : Transfer) (at_ n : ℕ) :
    ∃ new, Pushed t (t.upload at_ n).1 new ∧ (t.upload at_ n).1.m = t.m ∧
      (new = [] ∨ new = [(at_, n)]) ∧ ((t.upload at_ n).2 = true → new = [(at_, n)]) := by
  unfold upload
  split
  · exact ⟨_, t.pushed_writeServer at_ n, rfl, .inr rfl, fun _ => rfl⟩
  · exact ⟨_, pushed_setNet (t.pushed_writeServer at_ n) _, rfl, .inr rfl, fun _ => rfl⟩
  · exact ⟨_, pushed_setNet (t.pushed_writeServer at_ n) _, rfl, .inr rfl, by simp⟩
  · exact ⟨_, pushed_setNet (Pushed.refl t) _, rfl, .inl rfl, by simp⟩

/-- Settling bytes that have just gone up. -/
theorem pushed_settle {t t' : Transfer} {at_ n : ℕ} (h : Pushed t t' [(at_, n)])
    (hm : t'.m = t.m) : Pushed t (t'.settle at_ n) [(at_, n)] := by
  refine ⟨?_, h.applied, h.pulled, h.sent, h.kept, ?_⟩
  · simp [Transfer.settle, hm]
  · intro i
    simp only [Transfer.settle, hm]
    split
    · next hi => exact .inr ⟨covered_singleton.2 hi, rfl⟩
    · exact .inl rfl

@[simp] theorem storeAll_none (t : Transfer) (done : ℕ) : t.storeAll (Stores.none done) = t := rfl

/-- Whatever the host stores meanwhile, a publish moves no mapping. -/
theorem publishChunks_range (stores : Stores) (t : Transfer) (done stop fuel : ℕ) :
    (t.publishChunks stores done stop fuel).1.m = { t.m with
      shadow := (t.publishChunks stores done stop fuel).1.m.shadow
      baseline := (t.publishChunks stores done stop fuel).1.m.baseline } := by
  induction fuel generalizing t done with
  | zero => rfl
  | succ fuel ih =>
    unfold publishChunks
    split
    · obtain ⟨-, -, hm, -⟩ := t.upload_spec done (min maxMappedChunk (stop - done))
      dsimp only
      split
      · next t' heq =>
        rw [heq] at hm
        rw [ih]
        simp only [Transfer.settle, Transfer.storeAll, show t'.m = t.m from hm]
      · next t' heq =>
        rw [heq] at hm
        simp only [Transfer.storeAll, show t'.m = t.m from hm]
    · rfl

theorem publishRuns_range (stores : Stores) (t : Transfer) (start fuel : ℕ) :
    (t.publishRuns stores start fuel).1.m = { t.m with
      shadow := (t.publishRuns stores start fuel).1.m.shadow
      baseline := (t.publishRuns stores start fuel).1.m.baseline } := by
  induction fuel generalizing t start with
  | zero => rfl
  | succ fuel ih =>
    unfold publishRuns
    split
    · dsimp only
      split
      · rfl
      · have hrange := publishChunks_range stores t (t.m.skipClean start)
          (t.m.runEnd t.m.size (t.m.skipClean start + 1)) t.m.size
        split
        · next t' heq =>
          rw [heq] at hrange
          rw [ih, hrange]
        · next t' heq =>
          rw [heq] at hrange
          exact hrange
    · rfl

theorem publishMapping_range (stores : Stores) (t : Transfer) :
    (t.publishMapping stores).1.m = { t.m with
      shadow := (t.publishMapping stores).1.m.shadow
      baseline := (t.publishMapping stores).1.m.baseline } := by
  unfold publishMapping
  split
  · exact publishRuns_range stores t 0 t.m.size
  · rfl

theorem publishChunks_spec (t : Transfer) (done stop fuel : ℕ) (hfuel : stop - done ≤ fuel) :
    ∃ new, Pushed t (t.publishChunks .none done stop fuel).1 new ∧
      (∀ i, Covered new i → done ≤ i ∧ i < stop) ∧
      ((t.publishChunks .none done stop fuel).2 = true → ∀ i, done ≤ i → i < stop →
        Covered new i ∧ (t.publishChunks .none done stop fuel).1.m.baseline i = t.m.shadow i) := by
  induction fuel generalizing t done with
  | zero => exact ⟨[], Pushed.refl t, by simp, fun _ i h1 h2 => by omega⟩
  | succ fuel ih =>
    unfold publishChunks
    simp only [storeAll_none]
    split
    · next hlt =>
      have hchunk : 0 < min maxMappedChunk (stop - done) := by
        simp only [maxMappedChunk]
        omega
      generalize hc : min maxMappedChunk (stop - done) = chunk at hchunk
      have hle : chunk ≤ stop - done := hc ▸ min_le_right _ _
      obtain ⟨new, hpush, hm, hnew, hok⟩ := t.upload_spec done chunk
      have hin : ∀ i, Covered new i → done ≤ i ∧ i < stop := by
        rcases hnew with rfl | rfl
        · simp
        · intro i hi
          obtain ⟨h1, h2⟩ := covered_singleton.1 hi
          simp only at h1 h2
          omega
      split
      · next t' heq =>
        rw [heq] at hpush hm hok
        obtain rfl := hok rfl
        have hset := pushed_settle hpush hm
        obtain ⟨new', hpush', hin', hok'⟩ := ih (t'.settle done chunk) (done + chunk)
          (by omega)
        refine ⟨new' ++ [(done, chunk)], hset.trans hpush', ?_, ?_⟩
        · intro i hi
          rcases covered_append.1 hi with hi | hi
          · have := hin' i hi
            omega
          · exact hin i hi
        · intro hsucc i h1 h2
          rcases Nat.lt_or_ge i (done + chunk) with hlow | hhigh
          · have hcov : Covered [(done, chunk)] i := covered_singleton.2 ⟨h1, hlow⟩
            refine ⟨covered_append.2 (.inr hcov), ?_⟩
            rcases hpush'.baseline i with hb | ⟨-, hb⟩
            · have hm' : t'.m = t.m := hm
              rw [hb]
              simp [Transfer.settle, h1, hlow, hm']
            · rw [hb, hset.shadow]
          · obtain ⟨hcov, hb⟩ := hok' hsucc i hhigh h2
            exact ⟨covered_append.2 (.inl hcov), by rw [hb, hset.shadow]⟩
      · next t' heq =>
        rw [heq] at hpush
        exact ⟨new, hpush, hin, by simp⟩
    · exact ⟨[], Pushed.refl t, by simp, fun _ i h1 h2 => by omega⟩

theorem publishRuns_spec (t : Transfer) (start fuel : ℕ) (hstart : start ≤ t.m.size)
    (hfuel : t.m.size - start ≤ fuel) :
    ∃ new, Pushed t (t.publishRuns .none start fuel).1 new ∧
      (∀ i, Covered new i → start ≤ i ∧ i < t.m.size ∧
        (¬ t.m.clean i ∨ t.m.GapFrom start i)) ∧
      ((t.publishRuns .none start fuel).2 = true → ∀ i, start ≤ i → i < t.m.size → ¬ t.m.clean i →
        Covered new i ∧ (t.publishRuns .none start fuel).1.m.baseline i = t.m.shadow i) := by
  induction fuel generalizing t start with
  | zero => exact ⟨[], Pushed.refl t, by simp, fun _ i h1 h2 => by omega⟩
  | succ fuel ih =>
    unfold publishRuns
    split
    · next hlt =>
      obtain ⟨hf1, hf2, hf3, hf4⟩ := t.m.skipClean_spec hstart
      dsimp only
      split
      · next hend =>
        exact ⟨[], Pushed.refl t, by simp,
          fun _ i h1 h2 hd => absurd (hf3 i h1 (hend ▸ h2)) hd⟩
      · next hend =>
        generalize hfirst : t.m.skipClean start = first at *
        have hdirty := hf4 (by omega)
        obtain ⟨hr1, hr2, hr3⟩ := t.m.runEnd_spec t.m.size (first + 1)
          (Nat.lt_succ_self first) (by omega) (by omega) (by simpa using hdirty)
        generalize hstop : t.m.runEnd t.m.size (first + 1) = stop at *
        obtain ⟨new, hpush, hin, hok⟩ := t.publishChunks_spec first stop t.m.size (by omega)
        have hrun : ∀ i, Covered new i → start ≤ i ∧ i < t.m.size ∧
            (¬ t.m.clean i ∨ t.m.GapFrom start i) := by
          intro i hi
          obtain ⟨h1, h2⟩ := hin i hi
          refine ⟨by omega, by omega, ?_⟩
          rcases Nat.eq_or_lt_of_le h1 with rfl | hgt
          · exact .inl hdirty
          · exact (hr3 i hgt h2).imp_right fun hg => hg.mono (by omega) rfl fun _ _ => Iff.rfl
        split
        · next t' heq =>
          rw [heq] at hpush hok
          have hpush : Pushed t t' new := hpush
          have hclean : ∀ k, stop ≤ k → (t'.m.clean k ↔ t.m.clean k) := by
            intro k hk
            rcases hpush.baseline k with hb | ⟨hc, -⟩
            · simp only [MappedRange.clean, hpush.shadow, hb]
            · have := (hin k hc).2
              omega
          obtain ⟨new', hpush', hin', hok'⟩ := ih t' stop (by rw [hpush.size]; omega)
            (by rw [hpush.size]; omega)
          refine ⟨new' ++ new, hpush.trans hpush', ?_, ?_⟩
          · intro i hi
            rcases covered_append.1 hi with hi | hi
            · obtain ⟨h1, h2, h3⟩ := hin' i hi
              rw [hpush.size] at h2
              refine ⟨by omega, h2, h3.imp ?_ ?_⟩
              · exact fun hd hc => hd ((hclean i h1).2 hc)
              · exact fun hg => hg.mono (by omega) hpush.size hclean
            · exact hrun i hi
          · intro hsucc i h1 h2 hd
            rcases Nat.lt_or_ge i stop with hlow | hhigh
            · have hfi : first ≤ i := by
                by_contra hlt'
                exact hd (hf3 i h1 (by omega))
              obtain ⟨hcov, hb⟩ := hok rfl i hfi hlow
              refine ⟨covered_append.2 (.inr hcov), ?_⟩
              rcases hpush'.baseline i with hb' | ⟨-, hb'⟩
              · rw [hb']
                exact hb
              · rw [hb', hpush.shadow]
            · obtain ⟨hcov, hb⟩ := hok' hsucc i hhigh (by rw [hpush.size]; exact h2)
                (fun hc => hd ((hclean i hhigh).1 hc))
              exact ⟨covered_append.2 (.inl hcov), by rw [hb, hpush.shadow]⟩
        · next t' heq =>
          rw [heq] at hpush
          exact ⟨new, hpush, hrun, by simp⟩
    · exact ⟨[], Pushed.refl t, by simp, fun _ i h1 h2 => by omega⟩

/-- `publish_coherent_mapped` on one mapping, with no store meanwhile: what goes up was changed by the host
or bridges two changed bytes, and after a success every changed byte has gone up. -/
theorem publishMapping_spec (t : Transfer) :
    ∃ new, Pushed t (t.publishMapping .none).1 new ∧
      (∀ i, Covered new i → t.m.live ∧ i < t.m.size ∧ (¬ t.m.clean i ∨ t.m.InGap i)) ∧
      ((t.publishMapping .none).2 = true → t.m.live → ∀ i, i < t.m.size → ¬ t.m.clean i →
        Covered new i ∧ (t.publishMapping .none).1.m.baseline i = t.m.shadow i) := by
  unfold publishMapping
  split
  · next hlive =>
    obtain ⟨new, h1, h2, h3⟩ := t.publishRuns_spec 0 t.m.size
      (by omega) (by omega)
    exact ⟨new, h1, fun i hi => ⟨hlive, (h2 i hi).2⟩, fun hok _ i hi => h3 hok i (by omega) hi⟩
  · next hlive => exact ⟨[], Pushed.refl t, by simp, fun _ hl => absurd hl hlive⟩

theorem chunkSize_spec {atom : Option ℕ} {left chunk : ℕ} (h : chunkSize atom left = some chunk)
    (hleft : 0 < left) : 0 < chunk ∧ chunk ≤ left := by
  unfold chunkSize at h
  dsimp only at h
  split at h
  · split at h
    · cases h
    · next a =>
      split at h
      · cases h
      · cases h
        omega
  · obtain rfl := Option.some.inj h
    simp only [maxMappedChunk]
    omega

/-- `flush_mapped` sends the whole range, whatever the host has stored there. -/
theorem flushChunks_spec (t : Transfer) (atom : Option ℕ) (start size done fuel : ℕ)
    (hdone : done ≤ size) (hfuel : size - done ≤ fuel) :
    ∃ new, Pushed t (t.flushChunks atom start size done fuel).1 new ∧
      (t.flushChunks atom start size done fuel).1.m = t.m ∧
      (∀ i, Covered new i → start + done ≤ i ∧ i < start + size) ∧
      ((t.flushChunks atom start size done fuel).2 = true →
        ∀ i, start + done ≤ i → i < start + size → Covered new i) := by
  induction fuel generalizing t done with
  | zero => exact ⟨[], Pushed.refl t, rfl, by simp, fun _ i h1 h2 => by omega⟩
  | succ fuel ih =>
    unfold flushChunks
    split
    · next hlt =>
      split
      · exact ⟨[], Pushed.refl t, rfl, by simp, by simp⟩
      · next chunk hchunk =>
        obtain ⟨hpos, hle⟩ := chunkSize_spec hchunk (by omega)
        obtain ⟨new, hpush, hm, hnew, hok⟩ := t.upload_spec (start + done) chunk
        have hin : ∀ i, Covered new i → start + done ≤ i ∧ i < start + done + chunk := by
          rcases hnew with rfl | rfl
          · simp
          · exact fun i hi => covered_singleton.1 hi
        split
        · next t' heq =>
          rw [heq] at hpush hm hok
          obtain rfl := hok rfl
          have hpush : Pushed t t' [(start + done, chunk)] := hpush
          have hm : t'.m = t.m := hm
          obtain ⟨new', hpush', hm', hin', hok'⟩ := ih t' (done + chunk) (by omega)
            (by omega)
          refine ⟨new' ++ [(start + done, chunk)], hpush.trans hpush', hm'.trans hm, ?_, ?_⟩
          · intro i hi
            rcases covered_append.1 hi with hi | hi
            · have := hin' i hi
              omega
            · have := hin i hi
              omega
          · intro hsucc i h1 h2
            rcases Nat.lt_or_ge i (start + done + chunk) with hlow | hhigh
            · exact covered_append.2 (.inr (covered_singleton.2 ⟨h1, hlow⟩))
            · exact covered_append.2 (.inl (hok' hsucc i (by omega) h2))
        · next t' heq =>
          rw [heq] at hpush hm
          refine ⟨new, hpush, hm, fun i hi => ?_, by simp⟩
          have := hin i hi
          omega
    · exact ⟨[], Pushed.refl t, rfl, by simp, fun _ i h1 h2 => by omega⟩

theorem upload_ok {t : Transfer} (hnet : ∀ o ∈ t.net, o = .ok) (at_ n : ℕ) :
    (t.upload at_ n).2 = true ∧ ∀ o ∈ (t.upload at_ n).1.net, o = .ok := by
  unfold upload
  split
  · exact ⟨rfl, hnet⟩
  · next net h => exact ⟨rfl, fun o ho => hnet o (by rw [h]; exact .tail _ ho)⟩
  · next net h => cases hnet (.failed true) (by rw [h]; exact .head _)
  · next net h => cases hnet (.failed false) (by rw [h]; exact .head _)

/-- A range that fits one message, or an allocation whose atoms do, never stops the loop. -/
theorem chunkSize_isSome {atom : Option ℕ} {left : ℕ}
    (h : left ≤ maxMappedChunk ∨ ∃ a, atom = some a ∧ 0 < a ∧ a ≤ maxMappedChunk) :
    (chunkSize atom left).isSome := by
  unfold chunkSize
  dsimp only
  split
  · next hlt =>
    rcases h with h | ⟨a, rfl, hpos, hle⟩
    · omega
    · have hmod : min maxMappedChunk left % a < a := Nat.mod_lt _ hpos
      have hmin : min maxMappedChunk left = maxMappedChunk := by omega
      have hne : min maxMappedChunk left - min maxMappedChunk left % a ≠ 0 := by omega
      simp only [hne, if_false, Option.isSome_some]
  · rfl

theorem flushChunks_ok {atom : Option ℕ} {start size fuel done : ℕ} {t : Transfer}
    (hnet : ∀ o ∈ t.net, o = .ok)
    (hatom : size - done ≤ maxMappedChunk ∨ ∃ a, atom = some a ∧ 0 < a ∧ a ≤ maxMappedChunk) :
    (t.flushChunks atom start size done fuel).2 = true := by
  induction fuel generalizing t done with
  | zero => rfl
  | succ fuel ih =>
    unfold flushChunks
    split
    · obtain ⟨chunk, hchunk⟩ := Option.isSome_iff_exists.1 (chunkSize_isSome hatom)
      obtain ⟨hok, hnet'⟩ := upload_ok hnet (start + done) chunk
      rw [hchunk]
      dsimp only
      split
      · next t' heq =>
        rw [heq] at hnet'
        exact ih hnet' (hatom.imp_left fun h => by omega)
      · next t' heq =>
        rw [heq] at hok
        cases hok
    · rfl

end Transfer

/-- From `t` to `t'` the server's bytes at the positions `new` came down. With `preserve` a byte
that differs from the baseline keeps what the host stored. -/
structure Pulled (preserve : Prop) (t t' : Transfer) (new : List (ℕ × ℕ)) : Prop where
  range : t'.m = { t.m with shadow := t'.m.shadow, baseline := t'.m.baseline }
  server : t'.server = t.server
  applied : t'.applied = t.applied
  pulled : t'.pulled = new ++ t.pulled
  fetched : ∀ i, Covered new i → (preserve → t.m.clean i) →
    t'.m.shadow i = t.server (t.m.offset + i)
  preserved : ∀ i, preserve → ¬ t.m.clean i → t'.m.shadow i = t.m.shadow i
  baseline : t.m.emulatedCoherent = true → ∀ i, Covered new i →
    t'.m.baseline i = t.server (t.m.offset + i)
  kept : ∀ i, ¬ Covered new i → t'.m.shadow i = t.m.shadow i ∧ t'.m.baseline i = t.m.baseline i

namespace Pulled

variable {preserve : Prop} {t t' t'' : Transfer} {new new' : List (ℕ × ℕ)}

theorem refl (preserve : Prop) (t : Transfer) : Pulled preserve t t [] :=
  ⟨rfl, rfl, rfl, rfl, by simp, fun _ _ _ => rfl, by simp, fun _ _ => ⟨rfl, rfl⟩⟩

theorem offset (h : Pulled preserve t t' new) : t'.m.offset = t.m.offset := by rw [h.range]

theorem size (h : Pulled preserve t t' new) : t'.m.size = t.m.size := by rw [h.range]

theorem coherent (h : Pulled preserve t t' new) :
    t'.m.emulatedCoherent = t.m.emulatedCoherent := by rw [h.range]

theorem setNet (h : Pulled preserve t t' new) (net : List Outcome) :
    Pulled preserve t { t' with net := net } new :=
  ⟨h.range, h.server, h.applied, h.pulled, h.fetched, h.preserved, h.baseline, h.kept⟩

theorem trans (hc : preserve → t.m.emulatedCoherent = true) (h : Pulled preserve t t' new)
    (h' : Pulled preserve t' t'' new') : Pulled preserve t t'' (new' ++ new) := by
  -- a byte that has come down is clean, and one that was preserved keeps its value
  have hclean : ∀ i, (preserve → t.m.clean i) → preserve → t'.m.clean i := by
    intro i hi hp
    by_cases hn : Covered new i
    · rw [MappedRange.clean, h.fetched i hn hi, h.baseline (hc hp) i hn]
    · have := h.kept i hn
      rw [MappedRange.clean, this.1, this.2]
      exact hi hp
  refine ⟨?_, h'.server.trans h.server, h'.applied.trans h.applied, ?_, ?_, ?_, ?_, ?_⟩
  · rw [h'.range, h.range]
  · rw [h'.pulled, h.pulled, List.append_assoc]
  · intro i hi hi'
    by_cases hn : Covered new' i
    · rw [h'.fetched i hn (hclean i hi'), h.server, h.offset]
    · rw [(h'.kept i hn).1]
      exact h.fetched i ((covered_append.1 hi).resolve_left hn) hi'
  · intro i hp hd
    have hfirst := h.preserved i hp hd
    by_cases hcl : t'.m.clean i
    · by_cases hn : Covered new' i
      · rw [h'.fetched i hn fun _ => hcl, h.server, h.offset]
        by_cases hn' : Covered new i
        · -- it came down equal to what the host had stored
          rw [← h.baseline (hc hp) i hn', ← hcl, hfirst]
        · have := h.kept i hn'
          rw [MappedRange.clean, this.1, this.2] at hcl
          exact absurd hcl hd
      · rw [(h'.kept i hn).1, hfirst]
    · rw [h'.preserved i hp hcl, hfirst]
  · intro hco i hi
    by_cases hn : Covered new' i
    · rw [h'.baseline (h.coherent.trans hco) i hn, h.server, h.offset]
    · rw [(h'.kept i hn).2]
      exact h.baseline hco i ((covered_append.1 hi).resolve_left hn)
  · intro i hi
    obtain ⟨h1, h2⟩ := not_or.1 fun h => hi (covered_append.2 h)
    exact ⟨(h'.kept i h1).1.trans (h.kept i h2).1, (h'.kept i h1).2.trans (h.kept i h2).2⟩

end Pulled

namespace Transfer

theorem pulled_merge (t : Transfer) (at_ n : ℕ) : Pulled True t (t.merge at_ n) [(at_, n)] := by
  refine ⟨rfl, rfl, rfl, rfl, ?_, ?_, ?_, ?_⟩
  · intro i hi hcl
    have hi := covered_singleton.1 hi
    simp only at hi
    simp [merge, hi, hcl trivial]
  · intro i _ hd
    simp [merge, hd]
  · intro _ i hi
    have hi := covered_singleton.1 hi
    simp only at hi
    simp [merge, hi]
  · intro i hi
    have hi : ¬ (at_ ≤ i ∧ i < at_ + n) := fun h => hi (covered_singleton.2 h)
    simp [merge, hi]

theorem pulled_overwrite (t : Transfer) (at_ n : ℕ) :
    Pulled False t (t.overwrite at_ n) [(at_, n)] := by
  refine ⟨rfl, rfl, rfl, rfl, ?_, fun _ hf => hf.elim, ?_, ?_⟩
  · intro i hi _
    have hi := covered_singleton.1 hi
    simp only at hi
    simp [overwrite, hi]
  · intro hco i hi
    have hi := covered_singleton.1 hi
    simp only at hi
    simp [overwrite, hi, hco]
  · intro i hi
    have hi : ¬ (at_ ≤ i ∧ i < at_ + n) := fun h => hi (covered_singleton.2 h)
    simp [overwrite, hi]

/-- A download by itself changes nothing but the network's script. -/
theorem download_spec (t : Transfer) : ∃ net, t.download.1 = { t with net := net } := by
  unfold download
  split
  · exact ⟨t.net, rfl⟩
  · exact ⟨_, rfl⟩
  · exact ⟨_, rfl⟩

theorem acquireChunks_spec (t : Transfer) (done fuel : ℕ) (hco : t.m.emulatedCoherent = true)
    (hfuel : t.m.size - done ≤ fuel) :
    ∃ new, Pulled True t (t.acquireChunks done fuel).1 new ∧
      (∀ i, Covered new i → done ≤ i ∧ i < t.m.size) ∧
      ((t.acquireChunks done fuel).2 = true → ∀ i, done ≤ i → i < t.m.size → Covered new i) := by
  induction fuel generalizing t done with
  | zero => exact ⟨[], Pulled.refl _ t, by simp, fun _ i h1 h2 => by omega⟩
  | succ fuel ih =>
    unfold acquireChunks
    split
    · next hlt =>
      have hchunk : 0 < min maxMappedChunk (t.m.size - done) := by
        simp only [maxMappedChunk]
        omega
      generalize hc : min maxMappedChunk (t.m.size - done) = chunk at hchunk
      have hle : chunk ≤ t.m.size - done := hc ▸ min_le_right _ _
      obtain ⟨net, hnet⟩ := t.download_spec
      dsimp only
      split
      · next t' heq =>
        obtain rfl : t' = { t with net := net } := by rw [← hnet, heq]
        have hfirst : Pulled True t (({ t with net := net } : Transfer).merge done chunk)
            [(done, chunk)] := (t.pulled_merge done chunk).setNet net
        obtain ⟨new', hpull, hin, hok⟩ := ih
          (({ t with net := net } : Transfer).merge done chunk) (done + chunk) hco
          (by simp only [merge]; omega)
        refine ⟨new' ++ [(done, chunk)], hfirst.trans (fun _ => hco) hpull, ?_, ?_⟩
        · intro i hi
          rcases covered_append.1 hi with hi | hi
          · have := hin i hi
            simp only [merge] at this
            omega
          · have := covered_singleton.1 hi
            simp only at this
            omega
        · intro hsucc i h1 h2
          rcases Nat.lt_or_ge i (done + chunk) with hlow | hhigh
          · exact covered_append.2 (.inr (covered_singleton.2 ⟨h1, hlow⟩))
          · exact covered_append.2 (.inl (hok hsucc i hhigh h2))
      · next t' heq =>
        obtain rfl : t' = { t with net := net } := by rw [← hnet, heq]
        exact ⟨[], (Pulled.refl _ t).setNet net, by simp, by simp⟩
    · exact ⟨[], Pulled.refl _ t, by simp, fun _ i h1 h2 => by omega⟩

/-- `acquire_coherent_mapped` on one mapping. -/
theorem acquireMapping_spec (ids : Option (Finset MemoryId)) (t : Transfer) :
    ∃ new, Pulled True t (t.acquireMapping ids).1 new ∧
      (∀ i, Covered new i → t.m.live ∧ i < t.m.size) := by
  unfold acquireMapping
  split
  · next h =>
    obtain ⟨new, h1, h2, -⟩ := t.acquireChunks_spec 0 t.m.size h.1.1 (by omega)
    exact ⟨new, h1, fun i hi => ⟨h.1, (h2 i hi).2⟩⟩
  · exact ⟨[], Pulled.refl _ t, by simp⟩

theorem downloadChunks_spec (t : Transfer) (atom : Option ℕ) (start size done fuel : ℕ)
    (hdone : done ≤ size) (hfuel : size - done ≤ fuel) :
    ∃ new, Pulled False t (t.downloadChunks atom start size done fuel).1 new ∧
      (∀ i, Covered new i → start + done ≤ i ∧ i < start + size) ∧
      ((t.downloadChunks atom start size done fuel).2 = true →
        ∀ i, start + done ≤ i → i < start + size → Covered new i) := by
  induction fuel generalizing t done with
  | zero => exact ⟨[], Pulled.refl _ t, by simp, fun _ i h1 h2 => by omega⟩
  | succ fuel ih =>
    unfold downloadChunks
    split
    · next hlt =>
      split
      · exact ⟨[], Pulled.refl _ t, by simp, by simp⟩
      · next chunk hchunk =>
        obtain ⟨hpos, hle⟩ := chunkSize_spec hchunk (by omega)
        obtain ⟨net, hnet⟩ := t.download_spec
        split
        · next t' heq =>
          obtain rfl : t' = { t with net := net } := by rw [← hnet, heq]
          have hfirst : Pulled False t
              (({ t with net := net } : Transfer).overwrite (start + done) chunk)
              [(start + done, chunk)] := (t.pulled_overwrite (start + done) chunk).setNet net
          obtain ⟨new', hpull, hin, hok⟩ := ih
            (({ t with net := net } : Transfer).overwrite (start + done) chunk)
            (done + chunk) (by omega) (by omega)
          refine ⟨new' ++ [(start + done, chunk)], hfirst.trans False.elim hpull, ?_, ?_⟩
          · intro i hi
            rcases covered_append.1 hi with hi | hi
            · have := hin i hi
              omega
            · have := covered_singleton.1 hi
              simp only at this
              omega
          · intro hsucc i h1 h2
            rcases Nat.lt_or_ge i (start + done + chunk) with hlow | hhigh
            · exact covered_append.2 (.inr (covered_singleton.2 ⟨h1, hlow⟩))
            · exact covered_append.2 (.inl (hok hsucc i (by omega) h2))
        · next t' heq =>
          obtain rfl : t' = { t with net := net } := by rw [← hnet, heq]
          exact ⟨[], (Pulled.refl _ t).setNet net, by simp, by simp⟩
    · exact ⟨[], Pulled.refl _ t, by simp, fun _ i h1 h2 => by omega⟩

end Transfer

end VkRemote.Client
