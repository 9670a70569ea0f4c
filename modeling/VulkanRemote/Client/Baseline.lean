import VulkanRemote.Client.FlushedRuns

/-! The baseline of a coherent mapping is what the server and the client last exchanged. Every
transfer sets it over the range it moves, but for the one of `flush_mapped`. -/

namespace VkRemote.Client
open Lib MappedDevice

/-- The five operations that exchange bytes with the server. -/
inductive SyncOp
  | mapMemory (mem : MemoryId) (offset : ℕ) (size : Option ℕ) (heap : ℕ → Byte)
  | publishCoherentMapped (stores : MemoryId → Stores)
  | acquireCoherentMapped (ids : Option (Finset MemoryId))
  | downloadMapped (ranges : List MemoryRange)
  | flushMapped (ranges : List MemoryRange)

namespace SyncOp

def run : SyncOp → Op
  | .mapMemory mem offset size heap => MappedDevice.mapMemory mem offset size heap
  | .publishCoherentMapped stores => MappedDevice.publishCoherentMapped stores
  | .acquireCoherentMapped ids => MappedDevice.acquireCoherentMapped ids
  | .downloadMapped ranges => MappedDevice.downloadMapped ranges
  | .flushMapped ranges => MappedDevice.flushMapped ranges

/-- No host store falls inside the operation. -/
def Quiet : SyncOp → Prop
  | .publishCoherentMapped stores => stores = fun _ => .none
  | _ => True

/-- Only a flush asks for something: the bytes it sends are those of the baseline already. -/
def Settles (d : MappedDevice) : SyncOp → Prop
  | .flushMapped ranges => ∀ r ∈ ranges, ∀ m ∈ d.mapped, m.emulatedCoherent = true →
      ∀ i, r.reaches m i → m.clean i
  | _ => True

end SyncOp

/-- An operation moved byte `j` of the allocation, up or down. -/
def Done.moved (r : Done) (mem : MemoryId) (j : ℕ) : Prop :=
  coveredBy r.up mem j = true ∨ coveredBy r.down mem j = true

/-- Where an operation moved a byte of a coherent mapping, the baseline is the byte both sides have
seen: the operation leaves on the server what it sent or received. -/
def Agrees (r : Done) : Prop :=
  ∀ m ∈ r.device.mapped, m.emulatedCoherent = true → ∀ i, i < m.size →
    r.moved m.memoryId (m.offset + i) → m.baseline i = r.device.server m.memoryId (m.offset + i)

def Distinct (d : MappedDevice) : Prop := (d.mapped.map MappedRange.memoryId).Nodup

theorem Distinct.of_ids {d d' : MappedDevice} (h : Distinct d)
    (hids : d'.mapped.map MappedRange.memoryId = d.mapped.map MappedRange.memoryId) : Distinct d' := by
  rw [Distinct, hids]
  exact h

/-- From `t` to `t'` the bytes at the positions `new` were exchanged and the baseline has them. -/
structure Exchanged (t t' : Transfer) (new : List (ℕ × ℕ)) : Prop where
  range : t'.m = { t.m with shadow := t'.m.shadow, baseline := t'.m.baseline }
  moved : ∀ i, Covered (t'.applied ++ t'.pulled) i ↔ Covered (t.applied ++ t.pulled) i ∨ Covered new i
  settled : t.m.emulatedCoherent = true → ∀ i, Covered new i →
    t'.m.baseline i = t'.server (t.m.offset + i)
  kept : ∀ i, ¬ Covered new i →
    t'.m.baseline i = t.m.baseline i ∧ t'.server (t.m.offset + i) = t.server (t.m.offset + i)

theorem Pulled.exchanged {preserve : Prop} {t t' : Transfer} {new : List (ℕ × ℕ)}
    (h : Pulled preserve t t' new) : Exchanged t t' new := by
  refine ⟨h.range, fun i => ?_, fun hco i hi => ?_, fun i hi => ⟨(h.kept i hi).2, by rw [h.server]⟩⟩
  · rw [h.applied, h.pulled]
    simp only [covered_append]
    tauto
  · rw [h.server, h.baseline hco i hi]

theorem Pushed.exchanged {t t' : Transfer} {new : List (ℕ × ℕ)} (h : Pushed t t' new)
    (hsettled : ∀ i, Covered new i → t'.m.baseline i = t.m.shadow i) : Exchanged t t' new := by
  refine ⟨?_, fun i => ?_, fun _ i hi => ?_, fun i hi => ⟨?_, ?_⟩⟩
  · rw [h.range]
  · rw [h.applied, h.pulled]
    simp only [covered_append]
    tauto
  · rw [hsettled i hi, h.sent i hi]
  · exact (h.baseline i).resolve_right fun hc => hi hc.1
  · exact h.kept _ fun k hk heq => hi (by
      obtain rfl : i = k := by omega
      exact hk)

/-- After a publish that succeeded the baseline has every byte it sent. -/
theorem exchanged_publish {t : Transfer} (hok : (t.publishMapping .none).2 = true) :
    ∃ new, Exchanged t (t.publishMapping .none).1 new := by
  obtain ⟨new, hp, hin, hall⟩ := t.publishMapping_spec
  refine ⟨new, hp.exchanged fun i hi => ?_⟩
  obtain ⟨hlive, hlt, -⟩ := hin i hi
  by_cases hc : t.m.clean i
  · rcases hp.baseline i with hb | ⟨-, hb⟩
    · exact hb.trans hc.symm
    · exact hb
  · exact (hall hok hlive i hlt hc).2

/-- What a successful exchange does to all mappings. -/
structure Exchanges (d : MappedDevice) (r : Done) : Prop where
  ids : r.device.mapped.map MappedRange.memoryId = d.mapped.map MappedRange.memoryId
  agrees : Agrees r
  kept : ∀ m' ∈ r.device.mapped, ∃ m ∈ d.mapped, m'.memoryId = m.memoryId ∧ m'.offset = m.offset ∧
    m'.size = m.size ∧ m'.emulatedCoherent = m.emulatedCoherent ∧
    ∀ i, ¬ r.moved m.memoryId (m.offset + i) → m'.baseline i = m.baseline i ∧
      r.device.server m.memoryId (m.offset + i) = d.server m.memoryId (m.offset + i)

theorem Exchanges.refl (d : MappedDevice) (net : List Outcome) :
    Exchanges d { device := d, net := net } :=
  ⟨rfl, fun _ _ _ _ _ h => by simp [Done.moved] at h,
    fun m hm => ⟨m, hm, rfl, rfl, rfl, rfl, fun _ _ => ⟨rfl, rfl⟩⟩⟩

theorem moved_append {a b : Done} {mem : MemoryId} {j : ℕ} :
    ({ b with up := a.up ++ b.up, down := a.down ++ b.down } : Done).moved mem j ↔
      a.moved mem j ∨ b.moved mem j := by
  simp only [Done.moved, coveredBy, List.any_append, Bool.or_eq_true]
  tauto

theorem Exchanges.trans {d : MappedDevice} {a b : Done} (h : Exchanges d a) (h' : Exchanges a.device b) :
    Exchanges d { b with up := a.up ++ b.up, down := a.down ++ b.down } := by
  refine ⟨h'.ids.trans h.ids, fun m' hm' hco i hi hmoved => ?_, fun m' hm' => ?_⟩
  · obtain ⟨m, hm, hid, hoff, hsize, hcoh, hkept⟩ := h'.kept m' hm'
    by_cases hb : b.moved m'.memoryId (m'.offset + i)
    · exact h'.agrees m' hm' hco i hi hb
    · have ha := (moved_append.1 hmoved).resolve_right hb
      rw [hid, hoff] at ha hb ⊢
      obtain ⟨hbase, hserver⟩ := hkept i hb
      exact (hbase.trans (h.agrees m hm (hcoh ▸ hco) i (hsize ▸ hi) ha)).trans hserver.symm
  · obtain ⟨m₁, hm₁, hid₁, hoff₁, hsize₁, hco₁, hkept₁⟩ := h'.kept m' hm'
    obtain ⟨m, hm, hid, hoff, hsize, hco, hkept⟩ := h.kept m₁ hm₁
    refine ⟨m, hm, hid₁.trans hid, hoff₁.trans hoff, hsize₁.trans hsize, hco₁.trans hco, fun i hi => ?_⟩
    have hno := not_or.1 fun hor => hi (moved_append.2 hor)
    rw [hid, hoff] at hkept₁
    obtain ⟨hb₁, hs₁⟩ := hkept₁ i hno.2
    obtain ⟨hb, hs⟩ := hkept i hno.1
    exact ⟨hb₁.trans hb, hs₁.trans hs⟩

theorem Distinct.mem_set {d : MappedDevice} (hids : Distinct d) {k : ℕ} {m m' x : MappedRange}
    (hm : d.mapped[k]? = some m) (hx : x ∈ d.mapped.set k m') :
    x = m' ∨ (x ∈ d.mapped ∧ x.memoryId ≠ m.memoryId) := by
  obtain ⟨hk, hget⟩ := List.getElem?_eq_some_iff.1 hm
  obtain ⟨k', hk', hx⟩ := List.mem_iff_getElem.1 hx
  have hlen : k' < d.mapped.length := by simpa using hk'
  by_cases hne : k = k'
  · subst hne
    rw [List.getElem_set_self] at hx
    exact .inl hx.symm
  · rw [List.getElem_set_ne hne] at hx
    refine .inr ⟨hx ▸ List.getElem_mem hlen, fun heq => hne ?_⟩
    have hinj := List.nodup_iff_injective_getElem.1 hids
    have hkk := @hinj ⟨k, by simpa using hk⟩ ⟨k', by simpa using hlen⟩ (by simp [hget, hx, heq])
    simpa using hkk

theorem ids_set {d : MappedDevice} {k : ℕ} {m m' : MappedRange} (hm : d.mapped[k]? = some m)
    (hid : m'.memoryId = m.memoryId) :
    (d.mapped.set k m').map MappedRange.memoryId = d.mapped.map MappedRange.memoryId :=
  map_set_of_eq hm hid

/-- An exchange with the mapping at `k` leaves every other one alone. -/
theorem exchanges_runAt {d : MappedDevice} (hids : Distinct d) {k : ℕ} {net : List Outcome}
    {f : Transfer → Transfer × Bool}
    (hf : ∀ t, (f t).2 = true → ∃ new, Exchanged t (f t).1 new)
    (hok : (runAt k f d net).ok = true) : Exchanges d (runAt k f d net) := by
  cases hm : d.mapped[k]? with
  | none =>
    simp only [runAt, hm]
    exact .refl d net
  | some m =>
    simp only [runAt, hm] at hok ⊢
    obtain ⟨new, hx⟩ := hf { m := m, server := d.server m.memoryId, net := net } hok
    generalize (f { m := m, server := d.server m.memoryId, net := net }).1 = t' at hx
    obtain ⟨hrange, hmoved, hsettled, hkept⟩ := hx
    dsimp only at hrange hmoved hsettled hkept
    have hid : t'.m.memoryId = m.memoryId := by rw [hrange]
    have hoff : t'.m.offset = m.offset := by rw [hrange]
    have hsize : t'.m.size = m.size := by rw [hrange]
    have hco : t'.m.emulatedCoherent = m.emulatedCoherent := by rw [hrange]
    set r : Done := {
      device := { d with
        mapped := d.mapped.set k t'.m, server := Function.update d.server m.memoryId t'.server }
      net := _, ok := _, up := t'.applied.map m.interval, down := t'.pulled.map m.interval } with hr
    have hserver : r.device.server m.memoryId = t'.server := Function.update_self ..
    have hiff : ∀ i, r.moved m.memoryId (m.offset + i) ↔ Covered new i := by
      intro i
      have hone := hmoved i
      simp only [List.append_nil, covered_nil, false_or, covered_append] at hone
      simp only [← hone, Done.moved, hr, coveredBy_interval, true_and, Nat.add_left_cancel_iff]
      simp
    have hnever : ∀ mem j, mem ≠ m.memoryId → ¬ r.moved mem j := fun mem j hne hmov =>
      hmov.elim (fun h => hne (coveredBy_interval.1 h).1) fun h => hne (coveredBy_interval.1 h).1
    refine ⟨ids_set hm hid, fun x hmem hxco i hi hmov => ?_, fun x hmem => ?_⟩
    · rcases hids.mem_set hm hmem with rfl | ⟨-, hne⟩
      · rw [hid, hoff] at hmov ⊢
        rw [hserver]
        exact hsettled (hco ▸ hxco) i ((hiff i).1 hmov)
      · exact absurd hmov (hnever _ _ hne)
    · rcases hids.mem_set hm hmem with rfl | ⟨hold, hne⟩
      · refine ⟨m, List.mem_of_getElem? hm, hid, hoff, hsize, hco, fun i hi => ?_⟩
        rw [hserver]
        exact hkept i fun hc => hi ((hiff i).2 hc)
      · exact ⟨x, hold, rfl, rfl, rfl, rfl, fun i _ =>
          ⟨rfl, congrFun (Function.update_of_ne hne _ _) _⟩⟩

theorem exchanges_inOrder {ops : List Op} {d : MappedDevice} {net : List Outcome} (hids : Distinct d)
    (hops : ∀ op ∈ ops, ∀ d net, Distinct d → (op d net).ok = true → Exchanges d (op d net))
    (hok : (inOrder ops d net).ok = true) : Exchanges d (inOrder ops d net) := by
  induction ops generalizing d net with
  | nil => exact .refl d net
  | cons op ops ih =>
    simp only [inOrder] at hok ⊢
    split at hok
    · next hfirst =>
      have hx := hops op List.mem_cons_self d net hids hfirst
      rw [if_pos hfirst]
      exact hx.trans (ih (hids.of_ids hx.ids) (fun op' hmem => hops op' (List.mem_cons_of_mem _ hmem)) hok)
    · next hno => exact absurd hok hno

theorem exchanges_publishCoherentMapped {d : MappedDevice} {net : List Outcome} (hids : Distinct d)
    (hok : (publishCoherentMapped (fun _ => .none) d net).ok = true) :
    Exchanges d (publishCoherentMapped (fun _ => .none) d net) := by
  refine exchanges_inOrder hids (fun op hop d net hids hok => ?_) hok
  obtain ⟨k, -, rfl⟩ := List.mem_map.1 hop
  exact exchanges_runAt hids (fun t ht => exchanged_publish ht) hok

theorem exchanges_acquireCoherentMapped {d : MappedDevice} {net : List Outcome}
    {ids : Option (Finset MemoryId)} (hids : Distinct d)
    (hok : (acquireCoherentMapped ids d net).ok = true) :
    Exchanges d (acquireCoherentMapped ids d net) := by
  refine exchanges_inOrder hids (fun op hop d net hids hok => ?_) hok
  obtain ⟨k, -, rfl⟩ := List.mem_map.1 hop
  refine exchanges_runAt hids (fun t _ => ?_) hok
  obtain ⟨new, hp, -⟩ := t.acquireMapping_spec ids
  exact ⟨new, hp.exchanged⟩

theorem exchanges_downloadMapped {d : MappedDevice} {net : List Outcome} {ranges : List MemoryRange}
    (hids : Distinct d) (hok : (downloadMapped ranges d net).ok = true) :
    Exchanges d (downloadMapped ranges d net) := by
  refine exchanges_inOrder hids (fun op hop d net hids hok => ?_) hok
  obtain ⟨r, -, rfl⟩ := List.mem_map.1 hop
  unfold downloadRange at hok ⊢
  split at hok
  · cases hok
  · next k start size hr =>
    refine exchanges_runAt hids (fun t _ => ?_) hok
    obtain ⟨new, hp, -⟩ := t.downloadChunks_spec (d.atomSize r.memory) start size 0 size (by omega) (by omega)
    exact ⟨new, hp.exchanged⟩

theorem agrees_mapMemory (d : MappedDevice) (mem : MemoryId) (offset : ℕ) (size : Option ℕ)
    (heap : ℕ → Byte) (net : List Outcome) : Agrees (mapMemory mem offset size heap d net) := by
  obtain ⟨hserver, hup, hdown, hmapped⟩ := mapMemory_spec d mem offset size heap net
  intro x hx hco i hi hmoved
  have hdowned := hmoved.resolve_left (by simp [hup])
  obtain ⟨heq, hfree⟩ := hdown _ _ hdowned
  rcases hmapped with hsame | ⟨m, hsame, hid, -, hnew⟩
  · exact absurd heq (hfree x (hsame ▸ hx))
  · rcases List.mem_append.1 (hsame ▸ hx) with hold | hlast
    · exact absurd heq (hfree x hold)
    · obtain rfl := List.mem_singleton.1 hlast
      obtain ⟨hclean, hshadow, -⟩ := (hnew hco).2 i hi
      rw [hserver, hid, ← hshadow]
      exact hclean.symm

/-- What a flush sends is what the mappings show, and with success it has sent all of its ranges. -/
structure Flushes (ranges : List MemoryRange) (d : MappedDevice) (r : Done) : Prop where
  uploads : Uploads d r.device
  down : r.down = []
  sent : ∀ m ∈ d.mapped, ∀ i, r.moved m.memoryId (m.offset + i) →
    r.device.server m.memoryId (m.offset + i) = m.shadow i ∧ ∃ range ∈ ranges, range.reaches m i
  whole : r.ok = true → ∀ range ∈ ranges, ∀ m ∈ d.mapped, ∀ i, range.reaches m i →
    r.moved m.memoryId (m.offset + i)

theorem Distinct.unique {d : MappedDevice} (h : Distinct d) {m m' : MappedRange} (hm : m ∈ d.mapped)
    (hm' : m' ∈ d.mapped) (he : m.memoryId = m'.memoryId) : m = m' :=
  List.inj_on_of_nodup_map h hm hm' he

theorem resolveRange_reaches {d : MappedDevice} {range : MemoryRange} {k start size : ℕ}
    (h : d.resolveRange range = some (k, start, size)) {m : MappedRange} (hm : d.mapped[k]? = some m)
    {i : ℕ} (hreach : range.reaches m i) : start ≤ i ∧ i < start + size := by
  simp only [resolveRange, Option.bind_eq_bind, Option.bind_eq_some_iff] at h
  obtain ⟨k', -, m', hm', h⟩ := h
  split_ifs at h with h1 h2 h3
  simp only [Option.some.injEq, Prod.mk.injEq] at h
  obtain ⟨rfl, rfl, rfl⟩ := h
  obtain rfl : m = m' := Option.some.inj (hm.symm.trans hm')
  obtain ⟨-, hoff, hlow, hi, hsize⟩ := hreach
  refine ⟨by omega, ?_⟩
  cases hn : range.size with
  | none => simp only [Option.getD_none]; omega
  | some n =>
    have := hsize n hn
    simp only [Option.getD_some]
    omega

theorem flushes_flushRange {d : MappedDevice} (hids : Distinct d) (range : MemoryRange)
    (net : List Outcome) : Flushes [range] d (flushRange range d net) := by
  have hup := uploads_flushRange range d net
  unfold flushRange at hup ⊢
  split
  · exact ⟨.refl d, rfl, fun m _ i h => by simp [Done.moved] at h, fun h => by cases h⟩
  · next k start size hr =>
    obtain ⟨m, hm, hid, hfit, hreach⟩ := resolveRange_spec hr
    have hmem := List.mem_of_getElem? hm
    obtain ⟨new, hp, -, hin, hall⟩ :=
      ({ m := m, server := d.server m.memoryId, net := net } : Transfer).flushChunks_spec
        (d.atomSize range.memory) start size 0 size (by omega) (by omega)
    rw [hr] at hup
    simp only [runAt, hm] at hup ⊢
    generalize (({ m := m, server := d.server m.memoryId, net := net } : Transfer).flushChunks
      (d.atomSize range.memory) start size 0 size) = t' at hp hall hup
    have happ : t'.1.applied = new := by simpa using hp.applied
    have hpul : t'.1.pulled = [] := hp.pulled
    have hiff : ∀ i, coveredBy (t'.1.applied.map m.interval) m.memoryId (m.offset + i) = true ↔
        Covered new i := fun i => by
      rw [happ, coveredBy_interval]
      simp
    refine ⟨hup, by simp [hpul], fun x hx i hmoved => ?_, fun hok range' hrange x hx i hreaches => ?_⟩
    · have hmoved := hmoved.resolve_right (by simp [hpul])
      obtain rfl := hids.unique hx hmem (coveredBy_interval.1 hmoved).1
      have hc := (hiff i).1 hmoved
      have hlt := hin i hc
      exact ⟨(congrFun (Function.update_self ..) _).trans (hp.sent i hc), range, List.mem_singleton_self _,
        hreach i (by omega) hlt.2⟩
    · obtain rfl := List.mem_singleton.1 hrange
      obtain rfl := hids.unique hx hmem (hreaches.1.trans hid.symm)
      obtain ⟨hlow, hhigh⟩ := resolveRange_reaches hr hm hreaches
      exact .inl ((hiff i).2 (hall hok i (by omega) hhigh))

theorem flushes_flushMapped {d : MappedDevice} (hids : Distinct d) (ranges : List MemoryRange)
    (net : List Outcome) : Flushes ranges d (flushMapped ranges d net) := by
  unfold flushMapped
  induction ranges generalizing d net with
  | nil => exact ⟨.refl d, rfl, fun m _ i h => by simp [inOrder, Done.moved] at h, fun _ _ h => by cases h⟩
  | cons range ranges ih =>
    have hfirst := flushes_flushRange hids range net
    simp only [List.map_cons, inOrder]
    split
    · next hok =>
      have hsame := hfirst.uploads.mapped
      have hrest := ih (d := (flushRange range d net).device) (hids.of_ids (by rw [hsame]))
        (flushRange range d net).net
      generalize flushRange range d net = a at hfirst hok hsame hrest
      generalize inOrder (ranges.map flushRange) a.device a.net = b at hrest
      refine ⟨hfirst.uploads.trans hrest.uploads, by simp [hfirst.down, hrest.down],
        fun m hm i hmoved => ?_, fun hok' range' hmem m hm i hreaches => ?_⟩
      · rcases moved_append.1 hmoved with ha | hb
        · obtain ⟨hval, range', hmem, hreaches⟩ := hfirst.sent m hm i ha
          obtain rfl := List.mem_singleton.1 hmem
          refine ⟨?_, range', List.mem_cons_self, hreaches⟩
          rcases hrest.uploads.sent m.memoryId (m.offset + i) with hkeep | ⟨x, hx, i', -, hid, hoff, hnew⟩
          · exact hkeep.trans hval
          · obtain rfl := hids.unique (hsame ▸ hx) hm hid
            obtain rfl : i = i' := Nat.add_left_cancel hoff
            exact hnew
        · obtain ⟨hval, range', hmem, hreaches⟩ := hrest.sent m (hsame ▸ hm) i hb
          exact ⟨hval, range', List.mem_cons_of_mem _ hmem, hreaches⟩
      · rcases List.mem_cons.1 hmem with rfl | hmem
        · exact moved_append.2 (.inl (hfirst.whole hok _ (List.mem_singleton_self _) m hm i hreaches))
        · exact moved_append.2 (.inr (hrest.whole hok' range' hmem m (hsame ▸ hm) i hreaches))
    · next hno =>
      refine ⟨hfirst.uploads, hfirst.down, fun m hm i hmoved => ?_, fun hok => absurd hok hno⟩
      obtain ⟨hval, range', hmem, hreaches⟩ := hfirst.sent m hm i hmoved
      obtain rfl := List.mem_singleton.1 hmem
      exact ⟨hval, range', List.mem_cons_self, hreaches⟩

def SameIds (d d' : MappedDevice) : Prop :=
  d'.mapped.map MappedRange.memoryId = d.mapped.map MappedRange.memoryId

theorem sameIds_runAt {k : ℕ} {f : Transfer → Transfer × Bool}
    (hf : ∀ t, (f t).1.m.memoryId = t.m.memoryId) (d : MappedDevice) (net : List Outcome) :
    SameIds d (runAt k f d net).device :=
  map_runAt hf k d net

theorem sameIds_inOrder {ops : List Op} (hops : ∀ op ∈ ops, ∀ d net, SameIds d (op d net).device)
    (d : MappedDevice) (net : List Outcome) : SameIds d (inOrder ops d net).device :=
  inOrder_preserves (R := SameIds) (fun _ => rfl) (fun _ _ _ h h' => Eq.trans h' h) hops d net

theorem sameIds_publishCoherentMapped (stores : MemoryId → Stores) (d : MappedDevice)
    (net : List Outcome) : SameIds d (publishCoherentMapped stores d net).device :=
  map_publishCoherentMapped (fun t => by rw [Transfer.publishMapping_range]) d net

theorem sameIds_acquireCoherentMapped (ids : Option (Finset MemoryId)) (d : MappedDevice)
    (net : List Outcome) : SameIds d (acquireCoherentMapped ids d net).device := by
  refine sameIds_inOrder (fun op hop => ?_) d net
  obtain ⟨k, -, rfl⟩ := List.mem_map.1 hop
  refine sameIds_runAt fun t => ?_
  obtain ⟨_, hp, -⟩ := t.acquireMapping_spec ids
  rw [hp.range]

theorem sameIds_invalidate (ranges : List MemoryRange) (d : MappedDevice) (net : List Outcome) :
    SameIds d (invalidateMappedMemoryRanges ranges d net).device := by
  unfold invalidateMappedMemoryRanges
  split
  · refine sameIds_inOrder (fun op hop d net => ?_) d net
    obtain ⟨r, -, rfl⟩ := List.mem_map.1 hop
    unfold downloadRange
    split
    · rfl
    · next k start size _ =>
      refine sameIds_runAt (fun t => ?_) d net
      obtain ⟨_, hp, -⟩ :=
        t.downloadChunks_spec (d.atomSize r.memory) start size 0 size (by omega) (by omega)
      rw [hp.range]
  · rfl

theorem distinct_step {w w' : World} {a : MemoryAction} (h : Distinct w.device)
    (hs : w.step a = some w') : Distinct w'.device := by
  cases a with
  | hostStore mem i v =>
    simp only [World.step, Option.bind_eq_bind, Option.bind_eq_some_iff] at hs
    obtain ⟨k, -, m, hm, hs⟩ := hs
    split at hs
    · obtain rfl := Option.some.inj hs
      exact h.of_ids (ids_set hm rfl)
    · cases hs
  | deviceWrite mem j v =>
    obtain rfl := Option.some.inj hs
    exact h
  | map mem offset size heap net =>
    obtain rfl := Option.some.inj hs
    obtain ⟨-, -, -, hmapped⟩ := mapMemory_spec w.device mem offset size heap net
    rcases hmapped with hsame | ⟨m, hsame, hid, hfree, -⟩
    · exact h.of_ids (by rw [World.after, hsame])
    · have hnew : mem ∉ w.device.mapped.map MappedRange.memoryId := by simpa using hfree
      rw [Distinct, World.after, hsame, List.map_append, List.map_singleton, hid]
      exact List.nodup_append'.2 ⟨h, List.nodup_singleton _, fun _ hx hy => hnew (List.mem_singleton.1 hy ▸ hx)⟩
  | unmap mem net =>
    obtain rfl := Option.some.inj hs
    have hdrop : ∀ d, Distinct d → Distinct (d.dropMapping mem) := fun d hd =>
      hd.sublist (List.eraseP_sublist.map _)
    unfold World.after unmapMemory
    dsimp only
    split
    · next m _ =>
      refine hdrop _ (h.of_ids ?_)
      rw [(uploads_flushMapped [⟨mem, m.offset, some m.size⟩] w.device net).mapped]
    · exact hdrop _ h
  | publish stores net =>
    obtain rfl := Option.some.inj hs
    have hids := h.of_ids (sameIds_publishCoherentMapped stores w.device net)
    unfold World.noteStores
    dsimp only
    split <;> exact hids
  | acquire ids net =>
    obtain rfl := Option.some.inj hs
    exact h.of_ids (sameIds_acquireCoherentMapped ids w.device net)
  | flush ranges net =>
    obtain rfl := Option.some.inj hs
    refine h.of_ids ?_
    rw [World.after, (uploads_flushMappedMemoryRanges ranges w.device net).mapped]
  | invalidate ranges net =>
    obtain rfl := Option.some.inj hs
    exact h.of_ids (sameIds_invalidate ranges w.device net)

theorem agrees_iff {d : MappedDevice} (hids : Distinct d) (op : SyncOp) (net : List Outcome)
    (hquiet : op.Quiet) (hok : (op.run d net).ok = true) : Agrees (op.run d net) ↔ op.Settles d := by
  cases op with
  | mapMemory mem offset size heap =>
    exact iff_of_true (agrees_mapMemory d mem offset size heap net) trivial
  | publishCoherentMapped stores =>
    obtain rfl : stores = fun _ => .none := hquiet
    exact iff_of_true (exchanges_publishCoherentMapped hids hok).agrees trivial
  | acquireCoherentMapped ids => exact iff_of_true (exchanges_acquireCoherentMapped hids hok).agrees trivial
  | downloadMapped ranges => exact iff_of_true (exchanges_downloadMapped hids hok).agrees trivial
  | flushMapped ranges =>
    have hf := flushes_flushMapped hids ranges net
    change (flushMapped ranges d net).ok = true at hok
    change Agrees (flushMapped ranges d net) ↔ _
    constructor
    · intro hagrees range hrange m hm hco i hreaches
      have hmoved := hf.whole hok range hrange m hm i hreaches
      have hbase := hagrees m (hf.uploads.mapped ▸ hm) hco i hreaches.2.2.2.1 hmoved
      rw [(hf.sent m hm i hmoved).1] at hbase
      exact hbase.symm
    · intro hclean m hm hco i hi hmoved
      have hm : m ∈ d.mapped := hf.uploads.mapped ▸ hm
      obtain ⟨hval, range, hrange, hreaches⟩ := hf.sent m hm i hmoved
      rw [hval]
      exact (hclean range hrange m hm hco i hreaches).symm

/-- In every reachable state a successful exchange that no host store falls into leaves the baseline at
what was exchanged exactly if it is no flush of changed bytes. -/
theorem run_baseline {w₀ w : World} {as : List MemoryAction} (hmapped : w₀.device.mapped = [])
    (h : Run World.step w₀ as w) (op : SyncOp) (net : List Outcome) (hquiet : op.Quiet)
    (hok : (op.run w.device net).ok = true) : Agrees (op.run w.device net) ↔ op.Settles w.device := by
  have hids : Distinct w.device :=
    h.invariant (I := fun w => Distinct w.device) (by simp [Distinct, hmapped])
      fun _ _ _ hd hs => distinct_step hd hs
  exact agrees_iff hids op net hquiet hok

/-- The host maps three bytes of coherent memory and stores the first. -/
def mapAndStore : List MemoryAction :=
  [.map 1 0 none (fun _ => 0) [], .hostStore 1 0 7]

theorem run_baseline_publish : ∃ w, Run World.step threeBytes mapAndStore w ∧
    Agrees ((SyncOp.publishCoherentMapped fun _ => .none).run w.device []) := by
  have hrun : (runList World.step threeBytes mapAndStore).isSome = true := by decide
  obtain ⟨w, hw⟩ := Option.isSome_iff_exists.1 hrun
  have hok : ∀ w ∈ runList World.step threeBytes mapAndStore,
      ((SyncOp.publishCoherentMapped fun _ => .none).run w.device []).ok = true := by decide
  have hmapped : threeBytes.device.mapped = [] := rfl
  have hsettles := run_baseline hmapped (run_of_runList hw) (.publishCoherentMapped fun _ => .none) [] rfl
    (hok w hw)
  exact ⟨w, run_of_runList hw, hsettles.2 trivial⟩

/-- The host stores an 8 over the 7 while the 7 is on its way up: the baseline takes the 8. -/
def storeMeanwhile : MemoryId → Stores := fun _ done => if done = 0 then [(0, 8)] else []

/-- What the host stores during a publish is never sent: the baseline has it, the server does not. -/
theorem publish_hides_store : ∃ w, Run World.step threeBytes mapAndStore w ∧
    ((SyncOp.publishCoherentMapped storeMeanwhile).run w.device []).ok = true ∧
    ¬ Agrees ((SyncOp.publishCoherentMapped storeMeanwhile).run w.device []) := by
  have hrun : (runList World.step threeBytes mapAndStore).isSome = true := by decide
  obtain ⟨w, hw⟩ := Option.isSome_iff_exists.1 hrun
  have hobs : ∀ w ∈ runList World.step threeBytes mapAndStore,
      ((SyncOp.publishCoherentMapped storeMeanwhile).run w.device []).ok = true ∧
      ∃ m ∈ ((SyncOp.publishCoherentMapped storeMeanwhile).run w.device []).device.mapped,
        m.emulatedCoherent = true ∧ 0 < m.size ∧
        coveredBy ((SyncOp.publishCoherentMapped storeMeanwhile).run w.device []).up m.memoryId
          (m.offset + 0) = true ∧
        m.baseline 0 ≠ ((SyncOp.publishCoherentMapped storeMeanwhile).run w.device []).device.server
          m.memoryId (m.offset + 0) := by
    decide
  obtain ⟨hok, m, hm, hco, hsize, hmoved, hne⟩ := hobs w hw
  exact ⟨w, run_of_runList hw, hok, fun h => hne (h m hm hco 0 hsize (.inl hmoved))⟩

/-- After a flush of the whole mapping the server has the 7 and the baseline still a 0. -/
theorem flush_leaves_baseline : ∃ w, Run World.step threeBytes mapAndStore w ∧
    ((SyncOp.flushMapped [⟨1, 0, none⟩]).run w.device []).ok = true ∧
    ¬ Agrees ((SyncOp.flushMapped [⟨1, 0, none⟩]).run w.device []) := by
  have hrun : (runList World.step threeBytes mapAndStore).isSome = true := by decide
  obtain ⟨w, hw⟩ := Option.isSome_iff_exists.1 hrun
  have hobs : ∀ w ∈ runList World.step threeBytes mapAndStore,
      ((SyncOp.flushMapped [⟨1, 0, none⟩]).run w.device []).ok = true ∧
      ∃ m ∈ ((SyncOp.flushMapped [⟨1, 0, none⟩]).run w.device []).device.mapped,
        m.emulatedCoherent = true ∧ 0 < m.size ∧
        coveredBy ((SyncOp.flushMapped [⟨1, 0, none⟩]).run w.device []).up m.memoryId (m.offset + 0) = true ∧
        m.baseline 0 ≠
          ((SyncOp.flushMapped [⟨1, 0, none⟩]).run w.device []).device.server m.memoryId (m.offset + 0) := by
    decide
  obtain ⟨hok, m, hm, hco, hsize, hmoved, hne⟩ := hobs w hw
  exact ⟨w, run_of_runList hw, hok, fun h => hne (h m hm hco 0 hsize (.inl hmoved))⟩

end VkRemote.Client
