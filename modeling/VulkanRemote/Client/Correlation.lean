import Mathlib.Tactic
import VulkanRemote.Client.Connection

/-! Every reply reaches the call it answers. One invariant of the connection says where
each waiter is (outstanding, in the hands of the receiver or of `fail_all`, woken, or taken
back unsent) and what is on the wire; every action keeps it, so it holds along every run. -/

namespace VkRemote.Client
open Lib

namespace Connection

def Outstanding (c : Connection) (w : WaiterId) : Prop := ∃ id, (id, w) ∈ c.pending

/-- Taken out of `pending` by the thread that is about to wake it. -/
def InHand (c : Connection) (w : WaiterId) : Prop :=
  w ∈ c.broadcast ∨ ∃ r, c.receiver = .delivering w r

def onWire (c : Connection) : List WaiterId :=
  c.sent.map Request.waiter ++ c.replies.map Reply.answers

end Connection

open Connection

/-- What the calling thread can rely on about its own waiter. -/
structure Settled (failed : Bool) (w : WaiterId) (p : Pending) : Prop where
  once : p.wakes ≤ 1
  done_iff : p.done = true ↔ p.wakes = 1
  own : ∀ r, p.got = some r → p.done = true ∧ r.answers = w ∧ r.id = p.requestId ∧
    r.opcode = p.opcode ∧ p.reply = r.payload ∧ p.ok = replyOk r.payload
  failure : p.done = true → p.got = none → p.ok = false ∧ failed = true

theorem allocateId_spec {taken : List RequestId} {fuel : ℕ} {next id next' : RequestId}
    (h : allocateId taken fuel next = some (id, next')) : id ≠ 0 ∧ id ∉ taken := by
  induction fuel generalizing next with
  | zero => simp [allocateId] at h
  | succ fuel ih =>
    unfold allocateId at h
    split at h
    · exact ih h
    · next hn =>
      obtain ⟨rfl, -⟩ := Prod.mk.inj (Option.some.inj h)
      exact not_or.1 hn

theorem allocateId_isSome_of_free {taken : List RequestId} {fuel i : ℕ} {next : RequestId}
    (hi : i < fuel) (hz : next + UInt64.ofNat i ≠ 0) (ht : next + UInt64.ofNat i ∉ taken) :
    (allocateId taken fuel next).isSome := by
  induction fuel generalizing next i with
  | zero => omega
  | succ fuel ih =>
    unfold allocateId
    split
    · next hbad =>
      cases i with
      | zero =>
        have h0 : next + UInt64.ofNat 0 = next := by simp
        rw [h0] at hz ht
        exact absurd hbad (not_or.2 ⟨hz, ht⟩)
      | succ i =>
        have hshift : next + UInt64.ofNat (i + 1) = (next + 1) + UInt64.ofNat i := by
          rw [UInt64.ofNat_add, UInt64.add_assoc]
          congr 1
          exact UInt64.add_comm _ _
        rw [hshift] at hz ht
        exact ih (by omega) hz ht
    · simp

/-- The `do … while` loop ends, also where the counter wraps: with fewer than `2^64 - 2`
ids outstanding one of the next few values is free. -/
theorem allocateId_isSome (taken : List RequestId) (h : taken.length + 2 ≤ 2 ^ 64)
    (next : RequestId) : (allocateId taken (taken.length + 2) next).isSome := by
  have hinj : ∀ i j, i ≤ taken.length + 1 → j ≤ taken.length + 1 →
      next + UInt64.ofNat i = next + UInt64.ofNat j → i = j := by
    intro i j hi hj hij
    have hij : UInt64.ofNat i = UInt64.ofNat j := by simpa using hij
    have := congrArg UInt64.toNat hij
    rwa [UInt64.toNat_ofNat_of_lt' (by simp [UInt64.size]; omega),
      UInt64.toNat_ofNat_of_lt' (by simp [UInt64.size]; omega)] at this
  obtain ⟨i, hi, hfree⟩ := exists_notMem_of_injOn hinj (by simp : (0 :: taken).length ≤ taken.length + 1)
  obtain ⟨hz, ht⟩ := not_or.1 (fun hm => hfree (List.mem_cons.2 hm))
  exact allocateId_isSome_of_free (by omega) hz ht

structure Inv (c : Connection) : Prop where
  fresh : ∀ w, c.created ≤ w → c.waiters w = none
  nodup : c.keys.Nodup
  entry : ∀ id w, (id, w) ∈ c.pending →
    id ≠ 0 ∧ ∃ p, c.waiters w = some p ∧ p.requestId = id ∧ p.wakes = 0
  count : c.failed = false → c.applicationPending = (eraseKey c.heartbeatId c.pending).length
  heartbeat : c.heartbeatId ≠ 0 → ∃ w p, (c.heartbeatId, w) ∈ c.pending ∧
    c.waiters w = some p ∧ p.kind = .heartbeat
  emptied : c.failed = true → c.pending = [] ∧ c.applicationPending = 0 ∧ c.heartbeatId = 0
  hand : ∀ w ∈ c.broadcast, c.failed = true ∧ ∃ p, c.waiters w = some p ∧ p.wakes = 0
  handNodup : c.broadcast.Nodup
  delivering : ∀ w r, c.receiver = .delivering w r → w ∉ c.broadcast ∧ ¬ c.Outstanding w ∧
    r.answers = w ∧
    ∃ p, c.waiters w = some p ∧ p.wakes = 0 ∧ r.id = p.requestId ∧ r.opcode = p.opcode
  wire : c.failed = false → c.onWire.Nodup
  requests : c.failed = false → ∀ q ∈ c.sent, (q.id, q.waiter) ∈ c.pending ∧
    ∃ p, c.waiters q.waiter = some p ∧ p.opcode = q.opcode
  answered : c.failed = false → ∀ r ∈ c.replies, (r.id, r.answers) ∈ c.pending ∧
    ∃ p, c.waiters r.answers = some p ∧ p.opcode = r.opcode
  unsent : ∀ w p, c.waiters w = some p → p.phase = .registered ∨ p.phase = .withdrawing →
    c.failed = false → (p.requestId, w) ∈ c.pending ∧ w ∉ c.onWire
  withdrawing : ∀ w p, c.waiters w = some p → p.phase = .withdrawing → p.kind = .tryRoundTrip
  settled : ∀ w p, c.waiters w = some p → Settled c.failed w p
  success : ∀ w p, c.waiters w = some p → p.phase = .returned true → p.done = true ∧ p.ok = true
  kept : ∀ w p, c.waiters w = some p → p.wakes = 0 →
    c.Outstanding w ∨ c.InHand w ∨ p.phase = .returned false

theorem inv_initial : Inv initial := by
  constructor <;> simp [initial, keys, onWire, eraseKey]

/-- Two entries of one waiter are one entry. -/
theorem Inv.entry_unique {c : Connection} (h : Inv c) {id id' : RequestId} {w : WaiterId}
    (h₁ : (id, w) ∈ c.pending) (h₂ : (id', w) ∈ c.pending) : id = id' := by
  obtain ⟨-, p, hp, hid, -⟩ := h.entry id w h₁
  obtain ⟨-, p', hp', hid', -⟩ := h.entry id' w h₂
  rw [hp] at hp'
  cases hp'
  exact hid.symm.trans hid'

theorem Inv.waiters_nodup {c : Connection} (h : Inv c) : (c.pending.map Prod.snd).Nodup := by
  refine List.Nodup.map_on ?_ h.nodup.of_map
  rintro ⟨id, w⟩ h₁ ⟨id', w'⟩ h₂ rfl
  rw [h.entry_unique h₁ h₂]

/-- `fail_all` takes every waiter out of `pending` exactly once. -/
theorem Inv.failAll {c : Connection} (h : Inv c) : Inv c.failAll := by
  unfold Connection.failAll
  split
  · exact h
  · next hf =>
    have hb : c.broadcast = [] := by
      rcases hbc : c.broadcast with _ | ⟨w, rest⟩
      · rfl
      · exact absurd (h.hand w (by simp [hbc])).1 hf
    refine { h with
      nodup := by simp [keys]
      entry := by simp
      count := by simp
      heartbeat := by simp
      emptied := by simp
      hand := ?_
      handNodup := by simpa [hb] using h.waiters_nodup
      delivering := ?_
      wire := by simp
      requests := by simp
      answered := by simp
      unsent := by simp
      settled := ?_
      kept := ?_ }
    · intro w hw
      simp only [hb, List.nil_append, List.mem_map] at hw
      obtain ⟨⟨id, w'⟩, he, rfl⟩ := hw
      obtain ⟨-, p, hp, -, h0⟩ := h.entry id w' he
      exact ⟨rfl, p, hp, h0⟩
    · intro w r hr
      obtain ⟨-, hout, hrest⟩ := h.delivering w r hr
      refine ⟨?_, by simp [Outstanding], hrest⟩
      simp only [hb, List.nil_append, List.mem_map]
      rintro ⟨⟨id, w'⟩, he, rfl⟩
      exact hout ⟨id, he⟩
    · intro w p hp
      have := h.settled w p hp
      exact ⟨this.once, this.done_iff, this.own, fun hd hg => ⟨(this.failure hd hg).1, rfl⟩⟩
    · intro w p hp h0
      rcases h.kept w p hp h0 with ⟨id, ho⟩ | hh | hr
      · refine .inr (.inl (.inl ?_))
        simp only [hb, List.nil_append, List.mem_map]
        exact ⟨_, ho, rfl⟩
      · rcases hh with hh | hh
        · simp [hb] at hh
        · exact .inr (.inl (.inr hh))
      · exact .inr (.inr hr)

/-- Only the calling thread of one waiter moves on. -/
theorem Inv.setPhase {c : Connection} (h : Inv c) {w : WaiterId} {p : Pending} (ph : Phase)
    (hp : c.waiters w = some p) (hr : ph ≠ .registered)
    (hw : ph = .withdrawing → p.phase = .registered ∧ p.kind = .tryRoundTrip)
    (hk : p.wakes = 0 → p.phase = .returned false → ph = .returned false)
    (ht : ph = .returned true → p.done = true ∧ p.ok = true) :
    Inv (c.setWaiter w { p with phase := ph }) := by
  have key : ∀ w' q, (c.setWaiter w { p with phase := ph }).waiters w' = some q →
      ∃ q₀, c.waiters w' = some q₀ ∧
        (q = q₀ ∨ (w' = w ∧ q₀ = p ∧ q = { p with phase := ph })) := by
    intro w' q hq
    simp only [setWaiter, Function.update_apply] at hq
    split at hq
    · next hww => exact ⟨p, by rw [hww, hp], .inr ⟨hww, rfl, (Option.some.inj hq).symm⟩⟩
    · exact ⟨q, hq, .inl rfl⟩
  have back : ∀ w' q₀, c.waiters w' = some q₀ →
      ∃ q, (c.setWaiter w { p with phase := ph }).waiters w' = some q ∧
        q.requestId = q₀.requestId ∧ q.wakes = q₀.wakes ∧ q.opcode = q₀.opcode ∧
        q.kind = q₀.kind := by
    intro w' q₀ hq
    simp only [setWaiter, Function.update_apply]
    split
    · next hww =>
      rw [hww, hp] at hq
      cases hq
      exact ⟨_, rfl, rfl, rfl, rfl, rfl⟩
    · exact ⟨q₀, hq, rfl, rfl, rfl, rfl⟩
  refine { nodup := h.nodup, count := h.count, emptied := h.emptied, handNodup := h.handNodup,
           wire := h.wire, fresh := ?_, entry := ?_, heartbeat := ?_, hand := ?_,
           delivering := ?_, requests := ?_, answered := ?_, unsent := ?_, withdrawing := ?_,
           settled := ?_, success := ?_, kept := ?_ }
  · intro w' hw'
    have hne : w' ≠ w := by
      rintro rfl
      rw [h.fresh w' hw'] at hp
      cases hp
    simpa [setWaiter, hne] using h.fresh w' hw'
  · intro id w' he
    obtain ⟨hz, q₀, hq, hid, h0⟩ := h.entry id w' he
    obtain ⟨q, hq', h1, h2, -, -⟩ := back w' q₀ hq
    exact ⟨hz, q, hq', h1.trans hid, h2.trans h0⟩
  · intro hb
    obtain ⟨w', q₀, he, hq, hkind⟩ := h.heartbeat hb
    obtain ⟨q, hq', -, -, -, h4⟩ := back w' q₀ hq
    exact ⟨w', q, he, hq', h4.trans hkind⟩
  · intro w' hw'
    obtain ⟨hf, q₀, hq, h0⟩ := h.hand w' hw'
    obtain ⟨q, hq', -, h2, -, -⟩ := back w' q₀ hq
    exact ⟨hf, q, hq', h2.trans h0⟩
  · intro w' r hd
    obtain ⟨hb, ho, ha, q₀, hq, h0, hid, hop⟩ := h.delivering w' r hd
    obtain ⟨q, hq', h1, h2, h3, -⟩ := back w' q₀ hq
    exact ⟨hb, ho, ha, q, hq', h2.trans h0, hid.trans h1.symm, hop.trans h3.symm⟩
  · intro hf q hq
    obtain ⟨he, q₀, hw', hop⟩ := h.requests hf q hq
    obtain ⟨q', hq', -, -, h3, -⟩ := back _ q₀ hw'
    exact ⟨he, q', hq', h3.trans hop⟩
  · intro hf r hr'
    obtain ⟨he, q₀, hw', hop⟩ := h.answered hf r hr'
    obtain ⟨q', hq', -, -, h3, -⟩ := back _ q₀ hw'
    exact ⟨he, q', hq', h3.trans hop⟩
  · intro w' q hq hph hf
    obtain ⟨q₀, hq₀, rfl | ⟨rfl, rfl, rfl⟩⟩ := key w' q hq
    · exact h.unsent w' q hq₀ hph hf
    · rcases hph with hph | hph
      · exact absurd hph hr
      · exact h.unsent w' q₀ hp (.inl (hw hph).1) hf
  · intro w' q hq hph
    obtain ⟨q₀, hq₀, rfl | ⟨rfl, rfl, rfl⟩⟩ := key w' q hq
    · exact h.withdrawing w' q hq₀ hph
    · exact (hw hph).2
  · intro w' q hq
    obtain ⟨q₀, hq₀, rfl | ⟨rfl, rfl, rfl⟩⟩ := key w' q hq
    · exact h.settled w' q hq₀
    · have := h.settled w' q₀ hq₀
      exact ⟨this.once, this.done_iff, this.own, this.failure⟩
  · intro w' q hq hph
    obtain ⟨q₀, hq₀, rfl | ⟨rfl, rfl, rfl⟩⟩ := key w' q hq
    · exact h.success w' q hq₀ hph
    · exact ht hph
  · intro w' q hq h0
    obtain ⟨q₀, hq₀, rfl | ⟨rfl, rfl, rfl⟩⟩ := key w' q hq
    · exact h.kept w' q hq₀ h0
    · rcases h.kept w' q₀ hq₀ h0 with ho | hh | hret
      · exact .inl ho
      · exact .inr (.inl hh)
      · exact .inr (.inr (hk h0 hret))

/-- The thread holding `w` sets its `done`; `b` and `rc` are what is left in hand. -/
theorem Inv.wake {c : Connection} (h : Inv c) {w : WaiterId} {p : Pending} (ok : Bool)
    (got : Option Reply) (b : List WaiterId) (rc : Receiver)
    (hp : c.waiters w = some p) (h0 : p.wakes = 0) (hout : ¬ c.Outstanding w)
    (hb : b.Sublist c.broadcast) (hbw : ∀ w' ∈ c.broadcast, w' = w ∨ w' ∈ b) (hwb : w ∉ b)
    (hrc : ∀ w' r, rc = .delivering w' r → c.receiver = .delivering w' r ∧ w' ≠ w)
    (hrcw : ∀ w' r, c.receiver = .delivering w' r → w' = w ∨ rc = .delivering w' r)
    (hsome : ∀ r, got = some r → r.answers = w ∧ r.id = p.requestId ∧ r.opcode = p.opcode ∧
      ok = replyOk r.payload)
    (hnone : got = none → ok = false ∧ c.failed = true) :
    Inv { c.setWaiter w (Connection.wake p ok got) with broadcast := b, receiver := rc } := by
  have hother : ∀ w', w' ≠ w →
      (c.setWaiter w (Connection.wake p ok got)).waiters w' = c.waiters w' := by
    intro w' hne
    simp [setWaiter, hne]
  have hself : (c.setWaiter w (Connection.wake p ok got)).waiters w =
      some (Connection.wake p ok got) := by simp [setWaiter]
  have hne_out : ∀ id w', (id, w') ∈ c.pending → w' ≠ w := by
    rintro id w' he rfl
    exact hout ⟨id, he⟩
  refine { nodup := h.nodup, count := h.count, emptied := h.emptied,
           handNodup := h.handNodup.sublist hb, wire := h.wire, fresh := ?_, entry := ?_,
           heartbeat := ?_, hand := ?_, delivering := ?_, requests := ?_, answered := ?_,
           unsent := ?_, withdrawing := ?_, settled := ?_, success := ?_, kept := ?_ }
  · intro w' hw'
    have hne : w' ≠ w := by
      rintro rfl
      rw [h.fresh w' hw'] at hp
      cases hp
    exact (hother w' hne).trans (h.fresh w' hw')
  · intro id w' he
    obtain ⟨hz, q, hq⟩ := h.entry id w' he
    exact ⟨hz, q, (hother w' (hne_out id w' he)).trans hq.1, hq.2⟩
  · intro hhb
    obtain ⟨w', q, he, hq, hk⟩ := h.heartbeat hhb
    exact ⟨w', q, he, (hother w' (hne_out _ w' he)).trans hq, hk⟩
  · intro w' hw'
    obtain ⟨hf, q, hq, hq0⟩ := h.hand w' (hb.subset hw')
    have hne : w' ≠ w := by rintro rfl; exact hwb hw'
    exact ⟨hf, q, (hother w' hne).trans hq, hq0⟩
  · intro w' r hd
    obtain ⟨hd, hne⟩ := hrc w' r hd
    obtain ⟨hnb, ho, ha, q, hq, hrest⟩ := h.delivering w' r hd
    exact ⟨fun hm => hnb (hb.subset hm), ho, ha, q, (hother w' hne).trans hq, hrest⟩
  · intro hf q hq
    obtain ⟨he, q', hq', hop⟩ := h.requests hf q hq
    exact ⟨he, q', (hother _ (hne_out _ _ he)).trans hq', hop⟩
  · intro hf r hr
    obtain ⟨he, q', hq', hop⟩ := h.answered hf r hr
    exact ⟨he, q', (hother _ (hne_out _ _ he)).trans hq', hop⟩
  · intro w' q hq hph hf
    by_cases hne : w' = w
    · subst hne
      obtain rfl : Connection.wake p ok got = q := by simpa [hself] using hq
      exact absurd ⟨_, (h.unsent w' p hp hph hf).1⟩ hout
    · exact h.unsent w' q ((hother w' hne).symm.trans hq) hph hf
  · intro w' q hq hph
    by_cases hne : w' = w
    · subst hne
      obtain rfl : Connection.wake p ok got = q := by simpa [hself] using hq
      exact h.withdrawing w' p hp hph
    · exact h.withdrawing w' q ((hother w' hne).symm.trans hq) hph
  · intro w' q hq
    by_cases hne : w' = w
    · subst hne
      obtain rfl : Connection.wake p ok got = q := by simpa [hself] using hq
      refine ⟨by simp [Connection.wake, h0], by simp [Connection.wake, h0], ?_, ?_⟩
      · intro r hr
        simp only [Connection.wake] at hr
        obtain ⟨h1, h2, h3, h4⟩ := hsome r hr
        subst hr
        exact ⟨rfl, h1, h2, h3, rfl, h4⟩
      · intro _ hg
        exact hnone hg
    · exact h.settled w' q ((hother w' hne).symm.trans hq)
  · intro w' q hq hph
    by_cases hne : w' = w
    · subst hne
      obtain rfl : Connection.wake p ok got = q := by simpa [hself] using hq
      have hdone := (h.success w' p hp hph).1
      have := (h.settled w' p hp).done_iff.1 hdone
      omega
    · exact h.success w' q ((hother w' hne).symm.trans hq) hph
  · intro w' q hq hq0
    by_cases hne : w' = w
    · subst hne
      obtain rfl : Connection.wake p ok got = q := by simpa [hself] using hq
      simp [Connection.wake] at hq0
    · rcases h.kept w' q ((hother w' hne).symm.trans hq) hq0 with ho | (hh | ⟨r, hh⟩) | hret
      · exact .inl ho
      · exact .inr (.inl (.inl ((hbw w' hh).resolve_left hne)))
      · exact .inr (.inl (.inr ⟨r, (hrcw w' r hh).resolve_left hne⟩))
      · exact .inr (.inr hret)

/-- A new call enters `pending` under an id nobody else holds. -/
theorem Inv.register {c c' : Connection} (h : Inv c) {kind : CallKind} {op : Opcode}
    (hf : c.failed = false) (hb : kind = .heartbeat → c.heartbeatId = 0)
    (hreg : c.register kind op = some c') : Inv c' := by
  simp only [Connection.register, Option.map_eq_some_iff] at hreg
  obtain ⟨⟨id, next⟩, halloc, rfl⟩ := hreg
  obtain ⟨hz, hfree⟩ := allocateId_spec halloc
  have hnew : c.waiters c.created = none := h.fresh _ le_rfl
  have hne_old : ∀ w q, c.waiters w = some q → w ≠ c.created := by
    rintro w q hq rfl
    rw [hnew] at hq
    cases hq
  have hcreated : ∀ i, (i, c.created) ∉ c.pending := by
    intro i he
    obtain ⟨-, q, hq, -⟩ := h.entry i _ he
    exact hne_old _ q hq rfl
  have hnowire : c.created ∉ c.onWire := by
    simp only [onWire, List.mem_append, List.mem_map, not_or]
    constructor
    · rintro ⟨q, hq, hw⟩
      exact hcreated _ (hw ▸ (h.requests hf q hq).1)
    · rintro ⟨r, hr, hw⟩
      exact hcreated _ (hw ▸ (h.answered hf r hr).1)
  have hbid : c.heartbeatId ≠ id := by
    intro he
    by_cases hz' : c.heartbeatId = 0
    · exact hz (he ▸ hz')
    · obtain ⟨w, q, hm, -⟩ := h.heartbeat hz'
      exact hfree (List.mem_map.2 ⟨_, hm, he⟩)
  have hzero : eraseKey 0 c.pending = c.pending := by
    refine eraseKey_of_notMem ?_
    simp only [List.mem_map, not_exists, not_and]
    rintro ⟨i, w⟩ he
    exact (h.entry i w he).1
  have herase : eraseKey id c.pending = c.pending := eraseKey_of_notMem hfree
  have hget : ∀ w q, c.waiters w = some q →
      Function.update c.waiters c.created
        (some { kind := kind, opcode := op, requestId := id }) w = some q := by
    intro w q hq
    rw [Function.update_of_ne (hne_old w q hq)]
    exact hq
  have hcases : ∀ w q, Function.update c.waiters c.created
      (some { kind := kind, opcode := op, requestId := id }) w = some q →
      (w = c.created ∧ q = { kind := kind, opcode := op, requestId := id }) ∨
        c.waiters w = some q := by
    intro w q hq
    by_cases hw : w = c.created
    · subst hw
      rw [Function.update_self] at hq
      exact .inl ⟨rfl, (Option.some.inj hq).symm⟩
    · rw [Function.update_of_ne hw] at hq
      exact .inr hq
  refine { emptied := ?_, handNodup := h.handNodup, wire := fun _ => h.wire hf, fresh := ?_,
           nodup := ?_, entry := ?_, count := ?_, heartbeat := ?_, hand := ?_,
           delivering := ?_, requests := ?_, answered := ?_, unsent := ?_, withdrawing := ?_,
           settled := ?_, success := ?_, kept := ?_ }
  · intro w hw
    have hw : c.created < w := hw
    exact (Function.update_of_ne hw.ne' _ _).trans (h.fresh w hw.le)
  · simp only [keys, List.map_append, List.map_cons, List.map_nil]
    exact List.nodup_append.2 ⟨h.nodup, by simp, by
      rintro x hx y hy rfl
      simp only [List.mem_singleton] at hy
      exact hfree (hy ▸ hx)⟩
  · intro i w he
    rcases List.mem_append.1 he with he | he
    · obtain ⟨hi, q, hq, hrest⟩ := h.entry i w he
      exact ⟨hi, q, hget w q hq, hrest⟩
    · obtain ⟨rfl, rfl⟩ : i = id ∧ w = c.created := by simpa using he
      exact ⟨hz, _, Function.update_self .., rfl, rfl⟩
  · intro _
    by_cases hk : kind = .heartbeat
    · have hb0 := hb hk
      have hcount := h.count hf
      rw [hb0, hzero] at hcount
      simp only [hk, if_true, eraseKey_append, herase]
      simpa [eraseKey] using hcount
    · simp only [hk, if_false, eraseKey_append, h.count hf, List.length_append]
      simp [eraseKey, hbid.symm]
  · intro hb'
    by_cases hk : kind = .heartbeat
    · simp only [hk, if_true] at hb' ⊢
      exact ⟨c.created, _, by simp, Function.update_self .., rfl⟩
    · simp only [hk, if_false] at hb' ⊢
      obtain ⟨w, q, hm, hq, hkind⟩ := h.heartbeat hb'
      exact ⟨w, q, List.mem_append_left _ hm, hget w q hq, hkind⟩
  · intro hf'
    rw [hf] at hf'
    cases hf'
  · intro w hw
    exact absurd (h.hand w hw).1 (by simp [hf])
  · intro w r hd
    obtain ⟨hnb, ho, ha, q, hq, hrest⟩ := h.delivering w r hd
    refine ⟨hnb, ?_, ha, q, hget w q hq, hrest⟩
    rintro ⟨i, he⟩
    rcases List.mem_append.1 he with he | he
    · exact ho ⟨i, he⟩
    · exact hne_old w q hq (by simpa using (Prod.mk.inj (List.mem_singleton.1 he)).2)
  · intro _ q hq
    obtain ⟨he, q', hq', hop⟩ := h.requests hf q hq
    exact ⟨List.mem_append_left _ he, q', hget _ q' hq', hop⟩
  · intro _ r hr
    obtain ⟨he, q', hq', hop⟩ := h.answered hf r hr
    exact ⟨List.mem_append_left _ he, q', hget _ q' hq', hop⟩
  · intro w q hq hph _
    rcases hcases w q hq with ⟨rfl, rfl⟩ | hq
    · exact ⟨by simp, hnowire⟩
    · obtain ⟨he, ho⟩ := h.unsent w q hq hph hf
      exact ⟨List.mem_append_left _ he, ho⟩
  · intro w q hq hph
    rcases hcases w q hq with ⟨rfl, rfl⟩ | hq
    · cases hph
    · exact h.withdrawing w q hq hph
  · intro w q hq
    rcases hcases w q hq with ⟨rfl, rfl⟩ | hq
    · exact ⟨by simp, by simp, by simp, by simp⟩
    · exact h.settled w q hq
  · intro w q hq hph
    rcases hcases w q hq with ⟨rfl, rfl⟩ | hq
    · cases hph
    · exact h.success w q hq hph
  · intro w q hq h0
    rcases hcases w q hq with ⟨rfl, rfl⟩ | hq
    · exact .inl ⟨id, by simp⟩
    · rcases h.kept w q hq h0 with ⟨i, ho⟩ | hh | hret
      · exact .inl ⟨i, List.mem_append_left _ ho⟩
      · exact .inr (.inl hh)
      · exact .inr (.inr hret)

theorem Inv.setReceiver {c : Connection} (h : Inv c) (rc : Receiver)
    (hc : ∀ w r, c.receiver ≠ .delivering w r) (hrc : ∀ w r, rc ≠ .delivering w r) :
    Inv { c with receiver := rc } :=
  { h with
    delivering := fun w r hd => absurd hd (hrc w r)
    kept := by
      intro w p hp h0
      rcases h.kept w p hp h0 with ho | (hh | ⟨r, hh⟩) | hret
      · exact .inl ho
      · exact .inr (.inl (.inl hh))
      · exact absurd hh (hc w r)
      · exact .inr (.inr hret) }

/-- The request of a waiter that has just left the registered phase goes out. -/
theorem Inv.addSent {c : Connection} (h : Inv c) (hf : c.failed = false) {w : WaiterId}
    {p : Pending} (hp : c.waiters w = some p) (he : (p.requestId, w) ∈ c.pending)
    (hnw : w ∉ c.onWire) (hph : p.phase = .waiting) :
    Inv { c with sent := c.sent ++ [⟨p.requestId, p.opcode, w⟩] } := by
  have hperm : ((c.sent ++ [Request.mk p.requestId p.opcode w]).map Request.waiter ++
      c.replies.map Reply.answers).Perm (w :: c.onWire) := by
    simp [onWire]
  refine { h with wire := ?_, requests := ?_, unsent := ?_ }
  · intro _
    exact hperm.nodup_iff.2 (List.nodup_cons.2 ⟨hnw, h.wire hf⟩)
  · intro _ q hq
    rcases List.mem_append.1 hq with hq | hq
    · exact h.requests hf q hq
    · obtain rfl := List.mem_singleton.1 hq
      exact ⟨he, p, hp, rfl⟩
  · intro w' q hq hph' _
    obtain ⟨hm, ho⟩ := h.unsent w' q hq hph' hf
    refine ⟨hm, fun hw => ?_⟩
    rcases List.mem_cons.1 (hperm.mem_iff.1 hw) with rfl | hw
    · rw [hp] at hq
      cases hq
      simp [hph] at hph'
    · exact ho hw

/-- A call that never went out takes its entry back. -/
theorem Inv.erase {c : Connection} (h : Inv c) {w : WaiterId} {p : Pending}
    (hp : c.waiters w = some p) (hphase : p.phase = .returned false)
    (hkind : p.kind = .tryRoundTrip)
    (hun : c.failed = false → (p.requestId, w) ∈ c.pending ∧ w ∉ c.onWire) :
    Inv { c with
      pending := eraseKey p.requestId c.pending
      applicationPending := c.applicationPending - 1 } := by
  by_cases hf : c.failed = true
  · obtain ⟨hnil, happ, -⟩ := h.emptied hf
    have hp0 : eraseKey p.requestId c.pending = c.pending := by rw [hnil]; rfl
    have ha : c.applicationPending - 1 = c.applicationPending := by omega
    rw [hp0, ha]
    exact h
  · have hf : c.failed = false := by simpa using hf
    obtain ⟨hm, hnw⟩ := hun hf
    have hkeep : ∀ id w', (id, w') ∈ c.pending → w' ≠ w →
        (id, w') ∈ eraseKey p.requestId c.pending := by
      intro id w' he hne
      refine mem_eraseKey.2 ⟨he, ?_⟩
      rintro rfl
      exact hne (value_unique h.nodup he hm)
    have hhb : c.heartbeatId ≠ p.requestId := by
      intro heq
      obtain ⟨hz, -⟩ := h.entry _ _ hm
      obtain ⟨w', q, he, hq, hk⟩ := h.heartbeat (heq ▸ hz)
      obtain rfl := value_unique h.nodup (heq ▸ he) hm
      rw [hp] at hq
      cases hq
      rw [hkind] at hk
      cases hk
    refine { h with nodup := nodup_keys_eraseKey h.nodup, entry := ?_, count := ?_,
                    heartbeat := ?_, emptied := ?_, delivering := ?_, requests := ?_,
                    answered := ?_, unsent := ?_, kept := ?_ }
    · intro id w' he
      exact h.entry id w' (mem_eraseKey.1 he).1
    · intro _
      have hmem : (p.requestId, w) ∈ eraseKey c.heartbeatId c.pending :=
        mem_eraseKey.2 ⟨hm, hhb.symm⟩
      have := length_eraseKey (nodup_keys_eraseKey h.nodup) hmem
      simp only [h.count hf, eraseKey_comm c.heartbeatId]
      omega
    · intro hb
      obtain ⟨w', q, he, hq, hk⟩ := h.heartbeat hb
      exact ⟨w', q, mem_eraseKey.2 ⟨he, hhb⟩, hq, hk⟩
    · intro hf'
      rw [hf] at hf'
      cases hf'
    · intro w' r hd
      obtain ⟨hb, ho, hrest⟩ := h.delivering w' r hd
      exact ⟨hb, fun ⟨i, he⟩ => ho ⟨i, (mem_eraseKey.1 he).1⟩, hrest⟩
    · intro _ q hq
      obtain ⟨he, hrest⟩ := h.requests hf q hq
      refine ⟨hkeep _ _ he ?_, hrest⟩
      rintro rfl
      exact hnw (List.mem_append_left _ (List.mem_map.2 ⟨q, hq, rfl⟩))
    · intro _ r hr
      obtain ⟨he, hrest⟩ := h.answered hf r hr
      refine ⟨hkeep _ _ he ?_, hrest⟩
      rintro rfl
      exact hnw (List.mem_append_right _ (List.mem_map.2 ⟨r, hr, rfl⟩))
    · intro w' q hq hph _
      obtain ⟨he, ho⟩ := h.unsent w' q hq hph hf
      refine ⟨hkeep _ _ he ?_, ho⟩
      rintro rfl
      rw [hp] at hq
      cases hq
      simp [hphase] at hph
    · intro w' q hq h0
      rcases h.kept w' q hq h0 with ⟨i, ho⟩ | hh | hret
      · by_cases hne : w' = w
        · subst hne
          rw [hp] at hq
          cases hq
          exact .inr (.inr hphase)
        · exact .inl ⟨i, hkeep i w' ho hne⟩
      · exact .inr (.inl hh)
      · exact .inr (.inr hret)

/-- The receiver finds the waiter of the reply at the head of the stream. -/
theorem Inv.takeEntry {c : Connection} (h : Inv c) {r : Reply} {rest : List Reply}
    (hreading : c.receiver = .reading) (hreps : c.replies = r :: rest) {w : WaiterId}
    {p : Pending} (he : (r.id, w) ∈ c.pending) (hp : c.waiters w = some p)
    (hop : r.opcode = p.opcode) :
    Inv { c.takeEntry r.id with replies := rest, receiver := .delivering w r } := by
  have hf : c.failed = false := by
    cases hf : c.failed with
    | false => rfl
    | true => simp [(h.emptied hf).1] at he
  obtain ⟨hz, p', hp', hid, h0⟩ := h.entry _ _ he
  rw [hp] at hp'
  cases hp'
  obtain ⟨hown, -⟩ := h.answered hf r (by simp [hreps])
  have hans : r.answers = w := value_unique h.nodup hown he
  have hwire := h.wire hf
  have hperm : c.onWire.Perm (w :: (c.sent.map Request.waiter ++ rest.map Reply.answers)) := by
    simp [onWire, hreps, hans]
  obtain ⟨hnw, hwire⟩ := List.nodup_cons.1 (hperm.nodup_iff.1 hwire)
  have hkeep : ∀ id w', (id, w') ∈ c.pending → w' ≠ w → (id, w') ∈ eraseKey r.id c.pending := by
    intro id w' he' hne
    refine mem_eraseKey.2 ⟨he', ?_⟩
    rintro rfl
    exact hne (value_unique h.nodup he' he)
  have hnb : w ∉ c.broadcast := fun hm => by
    have := (h.hand w hm).1
    rw [hf] at this
    cases this
  refine { h with nodup := nodup_keys_eraseKey h.nodup, entry := ?_, count := ?_,
                  heartbeat := ?_, emptied := ?_, delivering := ?_, wire := fun _ => hwire,
                  requests := ?_, answered := ?_, unsent := ?_, kept := ?_ }
  · intro id w' he'
    exact h.entry id w' (mem_eraseKey.1 he').1
  · intro _
    simp only [Connection.takeEntry, h.count hf]
    by_cases hhb : r.id = c.heartbeatId
    · have hzero : (0 : RequestId) ∉ (eraseKey r.id c.pending).map Prod.fst := by
        simp only [List.mem_map, not_exists, not_and]
        rintro ⟨i, w'⟩ he'
        exact (h.entry i w' (mem_eraseKey.1 he').1).1
      simp only [hhb, if_true] at hzero ⊢
      rw [eraseKey_of_notMem hzero]
    · have hmem : (r.id, w) ∈ eraseKey c.heartbeatId c.pending := mem_eraseKey.2 ⟨he, hhb⟩
      have := length_eraseKey (nodup_keys_eraseKey h.nodup) hmem
      simp only [hhb, if_false, eraseKey_comm c.heartbeatId]
      omega
  · intro hb
    simp only [Connection.takeEntry] at hb ⊢
    by_cases hhb : r.id = c.heartbeatId
    · simp [hhb] at hb
    · simp only [hhb, if_false] at hb ⊢
      obtain ⟨w', q, he', hq, hk⟩ := h.heartbeat hb
      exact ⟨w', q, mem_eraseKey.2 ⟨he', Ne.symm hhb⟩, hq, hk⟩
  · intro hf'
    exact absurd (hf.symm.trans hf') (by simp)
  · intro w' r' hd
    obtain ⟨rfl, rfl⟩ := Receiver.delivering.inj hd
    refine ⟨hnb, ?_, hans, p, hp, h0, hid.symm, hop⟩
    rintro ⟨i, he'⟩
    obtain ⟨he', hne⟩ := mem_eraseKey.1 he'
    exact hne (h.entry_unique he' he)
  · intro _ q hq
    obtain ⟨he', hrest⟩ := h.requests hf q hq
    refine ⟨hkeep _ _ he' ?_, hrest⟩
    rintro rfl
    exact hnw (List.mem_append_left _ (List.mem_map.2 ⟨q, hq, rfl⟩))
  · intro _ r' hr'
    obtain ⟨he', hrest⟩ := h.answered hf r' (by rw [hreps]; exact List.mem_cons_of_mem _ hr')
    refine ⟨hkeep _ _ he' ?_, hrest⟩
    rintro rfl
    exact hnw (List.mem_append_right _ (List.mem_map.2 ⟨r', hr', rfl⟩))
  · intro w' q hq hph _
    obtain ⟨he', ho⟩ := h.unsent w' q hq hph hf
    have hne : w' ≠ w := by
      rintro rfl
      exact ho (hperm.mem_iff.2 (by simp))
    refine ⟨hkeep _ _ he' hne, fun hm => ho (hperm.mem_iff.2 (List.mem_cons_of_mem _ hm))⟩
  · intro w' q hq hq0
    by_cases hne : w' = w
    · subst hne
      exact .inr (.inl (.inr ⟨r, rfl⟩))
    · rcases h.kept w' q hq hq0 with ⟨i, ho⟩ | (hh | ⟨r', hh⟩) | hret
      · exact .inl ⟨i, hkeep i w' ho hne⟩
      · exact .inr (.inl (.inl hh))
      · rw [hreading] at hh
        cases hh
      · exact .inr (.inr hret)

/-- An answer moves its waiter from the requests to the replies. -/
theorem onWire_answer {c : Connection} {i : ℕ} {q : Request} (hq : c.sent[i]? = some q)
    (payload : List UInt8) :
    (onWire { c with
      sent := c.sent.eraseIdx i
      replies := c.replies ++ [⟨q.id, q.opcode, payload, q.waiter⟩] }).Perm c.onWire := by
  obtain ⟨hi, hget⟩ := List.getElem?_eq_some_iff.1 hq
  have hsent : c.sent.Perm (q :: c.sent.eraseIdx i) := by
    simpa [hget] using (List.getElem_cons_eraseIdx_perm hi).symm
  have h1 := (hsent.map Request.waiter).append_right (c.replies.map Reply.answers)
  refine List.Perm.trans ?_ h1.symm
  rw [onWire, List.map_append, ← List.append_assoc]
  exact List.perm_append_comm

/-- The peer answers one of the requests it has. -/
theorem Inv.answer {c : Connection} (h : Inv c) {i : ℕ} {q : Request} {payload : List UInt8}
    (hq : c.sent[i]? = some q) :
    Inv { c with
      sent := c.sent.eraseIdx i
      replies := c.replies ++ [⟨q.id, q.opcode, payload, q.waiter⟩] } := by
  have hmem : q ∈ c.sent := List.mem_of_getElem? hq
  have hperm := onWire_answer hq payload
  refine { h with wire := fun hf => hperm.nodup_iff.2 (h.wire hf), requests := ?_,
                  answered := ?_, unsent := ?_ }
  · intro hf q' hq'
    exact h.requests hf q' (List.mem_of_mem_eraseIdx hq')
  · intro hf r hr
    rcases List.mem_append.1 hr with hr | hr
    · exact h.answered hf r hr
    · obtain rfl := List.mem_singleton.1 hr
      exact h.requests hf q hmem
  · intro w p hp hph hf
    obtain ⟨he, ho⟩ := h.unsent w p hp hph hf
    exact ⟨he, fun hm => ho (hperm.mem_iff.1 hm)⟩

theorem Inv.send {c c' : Connection} (h : Inv c) {w : WaiterId} {owned delivered : Bool}
    (hs : step c (.send w owned delivered) = some c') : Inv c' := by
  simp only [step, Option.bind_eq_bind, Option.bind_eq_some_iff] at hs
  obtain ⟨p, hp, hs⟩ := hs
  split_ifs at hs with hreg htry hno
  · obtain rfl := Option.some.inj hs
    have hreg : p.phase = .registered := by simpa using hreg
    exact h.setPhase _ hp (by simp) (fun _ => ⟨hreg, htry.1⟩) (by simp [hreg]) (by simp)
  · obtain rfl := Option.some.inj hs
    have hreg : p.phase = .registered := by simpa using hreg
    exact h.setPhase _ hp (by simp) (by simp) (by simp [hreg]) (by simp)
  · obtain rfl := Option.some.inj hs
    have hreg : p.phase = .registered := by simpa using hreg
    have hf : c.failed = false := by simpa using (not_or.1 hno).1
    obtain ⟨he, hnw⟩ := h.unsent w p hp (.inl hreg) hf
    have h' := h.setPhase .waiting hp (by simp) (by simp) (by simp [hreg]) (by simp)
    exact h'.addSent hf (w := w) (p := { p with phase := .waiting })
      (by simp [setWaiter]) he hnw rfl

theorem Inv.withdraw {c c' : Connection} (h : Inv c) {w : WaiterId}
    (hs : step c (.withdraw w) = some c') : Inv c' := by
  simp only [step, Option.bind_eq_bind, Option.bind_eq_some_iff] at hs
  obtain ⟨p, hp, hs⟩ := hs
  split_ifs at hs with hph
  obtain rfl := Option.some.inj hs
  have hkind := h.withdrawing w p hp hph
  have hun := h.unsent w p hp (.inr hph)
  have h' := h.setPhase (.returned false) hp (by simp) (by simp) (by simp) (by simp)
  exact h'.erase (w := w) (p := { p with phase := .returned false })
    (by simp [setWaiter]) rfl hkind hun

theorem Inv.receive {c c' : Connection} (h : Inv c) (hs : step c .receive = some c') :
    Inv c' := by
  simp only [step] at hs
  split at hs
  next hreading hreps =>
    have hnone : ∀ w r, c.receiver ≠ .delivering w r := by simp [hreading]
    have hbroken : ∀ rest, (∀ r ∈ rest, r ∈ c.replies) → rest.Sublist c.replies →
        Inv { c with replies := rest, receiver := .broken } := by
      intro rest hsub hlist
      have h' := h.setReceiver .broken hnone (by simp)
      refine { h' with wire := ?_, answered := ?_, unsent := ?_ }
      · intro hf
        exact (h.wire hf).sublist (((hlist.map Reply.answers)).append_left _)
      · intro hf r hr
        exact h.answered hf r (hsub r hr)
      · intro w p hp hph hf
        obtain ⟨he, ho⟩ := h.unsent w p hp hph hf
        refine ⟨he, fun hm => ho ?_⟩
        exact ((hlist.map Reply.answers).append_left _).subset hm
    next r rest =>
    have htail := hbroken rest (by simp +contextual [hreps]) (by simp [hreps])
    split at hs
    · obtain rfl := Option.some.inj hs
      exact htail
    next e hfind =>
      simp only [Option.bind_eq_bind, Option.bind_eq_some_iff] at hs
      obtain ⟨p, hp, hs⟩ := hs
      have hid : e.1 = r.id := by simpa using List.find?_some hfind
      have hmem : (r.id, e.2) ∈ c.pending := hid ▸ List.mem_of_find?_eq_some hfind
      split_ifs at hs with hbad
      · obtain rfl := Option.some.inj hs
        exact htail
      · obtain rfl := Option.some.inj hs
        have hop : r.opcode = p.opcode := by simpa using (not_or.1 hbad).2
        exact h.takeEntry hreading hreps hmem hp hop
  · cases hs

theorem Inv.wakeNext {c c' : Connection} (h : Inv c) (hs : step c .wakeNext = some c') :
    Inv c' := by
  simp only [step] at hs
  split at hs
  · cases hs
  next w rest hb =>
    simp only [Option.bind_eq_bind, Option.bind_eq_some_iff] at hs
    obtain ⟨p, hp, hs⟩ := hs
    obtain rfl := Option.some.inj hs
    obtain ⟨hf, p', hp', h0⟩ := h.hand w (by simp [hb])
    rw [hp] at hp'
    cases hp'
    have hnd := h.handNodup
    rw [hb] at hnd
    have hw := (List.nodup_cons.1 hnd).1
    have := h.wake false none rest c.receiver hp h0
      (by simp [Outstanding, (h.emptied hf).1]) (by simp [hb])
      (by simp [hb]) hw ?_ (fun _ _ hr => .inr hr) (by simp) (by simp [hf])
    · exact this
    · intro w' r hr
      refine ⟨hr, ?_⟩
      rintro rfl
      exact (h.delivering w' r hr).1 (by simp [hb])

theorem Inv.deliver {c c' : Connection} (h : Inv c) (hs : step c .deliver = some c') :
    Inv c' := by
  simp only [step] at hs
  split at hs
  next w r hd =>
    simp only [Option.bind_eq_bind, Option.bind_eq_some_iff] at hs
    obtain ⟨p, hp, hs⟩ := hs
    obtain rfl := Option.some.inj hs
    obtain ⟨hb, ho, ha, p', hp', h0, hid, hop⟩ := h.delivering w r hd
    rw [hp] at hp'
    cases hp'
    refine h.wake _ (some r) c.broadcast .reading hp h0 ho
      (List.Sublist.refl _) (fun _ hw => .inr hw) hb (by simp) ?_ ?_ (by simp)
    · intro w' r' hr'
      rw [hd] at hr'
      cases hr'
      exact .inl rfl
    · intro r' hr'
      cases hr'
      exact ⟨ha, hid, hop, rfl⟩
  · cases hs

theorem inv_step (c : Connection) (a : Action) (c' : Connection) (h : Inv c)
    (hs : step c a = some c') : Inv c' := by
  cases a with
  | call kind op =>
    simp only [step] at hs
    split_ifs at hs with hno
    obtain ⟨hk, hf, -⟩ := by simpa only [not_or] using hno
    exact h.register (by simpa using hf) (fun he => absurd he hk) hs
  | heartbeat =>
    simp only [step] at hs
    split_ifs at hs with hno
    obtain ⟨-, hf, -, hb, -⟩ := by simpa only [not_or] using hno
    exact h.register (by simpa using hf) (fun _ => by simpa using hb) hs
  | enableHeartbeat =>
    obtain rfl := Option.some.inj hs
    exact { h with }
  | send w owned delivered => exact h.send hs
  | giveUp w =>
    simp only [step, Option.bind_eq_bind, Option.bind_eq_some_iff] at hs
    obtain ⟨p, hp, hs⟩ := hs
    split_ifs at hs
    obtain rfl := Option.some.inj hs
    have hp' : c.failAll.waiters w = some p := by
      unfold Connection.failAll
      split <;> exact hp
    exact h.failAll.setPhase _ hp' (by simp) (by simp) (by simp) (by simp)
  | withdraw w => exact h.withdraw hs
  | fail =>
    obtain rfl := Option.some.inj hs
    exact h.failAll
  | heartbeatLost =>
    simp only [step] at hs
    split_ifs at hs
    obtain rfl := Option.some.inj hs
    exact h.failAll
  | wakeNext => exact h.wakeNext hs
  | answer i payload =>
    simp only [step, Option.bind_eq_bind, Option.bind_eq_some_iff] at hs
    obtain ⟨q, hq, hs⟩ := hs
    obtain rfl := Option.some.inj hs
    exact h.answer hq
  | receive => exact h.receive hs
  | hangUp =>
    simp only [step] at hs
    split_ifs at hs with hr
    obtain rfl := Option.some.inj hs
    exact h.setReceiver _ (by simp [hr]) (by simp)
  | deliver => exact h.deliver hs
  | receiverFails =>
    simp only [step] at hs
    split_ifs at hs with hr
    obtain rfl := Option.some.inj hs
    have hr' : c.failAll.receiver = .broken := by
      unfold Connection.failAll
      split <;> exact hr
    exact h.failAll.setReceiver _ (by simp [hr']) (by simp)
  | closeFd =>
    simp only [step] at hs
    split_ifs at hs
    obtain rfl := Option.some.inj hs
    exact { h with }
  | collect w =>
    simp only [step, Option.bind_eq_bind, Option.bind_eq_some_iff] at hs
    obtain ⟨p, hp, hs⟩ := hs
    split_ifs at hs with hc
    obtain rfl := Option.some.inj hs
    exact h.setPhase _ hp (by simp) (by simp) (by simp [hc.1]) (fun hr => ⟨hc.2, by simpa using hr⟩)

/-- The invariant holds along every run, so in particular whatever the counter was wrapped to. -/
theorem inv_run {acts : List Action} {c : Connection} (h : Run step initial acts c) : Inv c :=
  h.invariant inv_initial inv_step

/-! ### Where an unanswered request is -/

/-- While the connection is up, what a waiting thread has sent is with the peer, its reply is in the
stream, or the receiver has it in hand. -/
def UnderWay (c : Connection) : Prop :=
  c.failed = false → ∀ w p, c.waiters w = some p → p.phase = .waiting → p.wakes = 0 →
    w ∈ c.onWire ∨ ∃ r, c.receiver = .delivering w r

/-- A waiter that waits unwoken after the step did so before it, or is on the wire now. -/
theorem UnderWay.frame {c c' : Connection} (hu : UnderWay c) (hf : c'.failed = false → c.failed = false)
    (hw : ∀ w p, c'.waiters w = some p → p.phase = .waiting → p.wakes = 0 →
      w ∈ c'.onWire ∨ ∃ q, c.waiters w = some q ∧ q.phase = .waiting ∧ q.wakes = 0)
    (hwire : ∀ w ∈ c.onWire, w ∈ c'.onWire)
    (hr : ∀ w r, c.receiver = .delivering w r → c'.receiver = .delivering w r) : UnderWay c' := by
  intro hf' w p hp hph h0
  rcases hw w p hp hph h0 with hon | ⟨q, hq, hqph, hq0⟩
  · exact .inl hon
  · exact (hu (hf hf') w q hq hqph hq0).imp (hwire w) fun ⟨r, hd⟩ => ⟨r, hr w r hd⟩

/-- A thread that does not wait after its own step leaves the others where they are. -/
theorem UnderWay.setWaiter {c : Connection} (hu : UnderWay c) {w : WaiterId} {p : Pending}
    (h : p.phase = .waiting → p.wakes = 0 → w ∈ c.onWire) : UnderWay (c.setWaiter w p) := by
  refine hu.frame id (fun w' q hq hph h0 => ?_) (fun _ hw => hw) (fun _ _ hr => hr)
  by_cases hne : w' = w
  · subst hne
    obtain rfl : p = q := by simpa [Connection.setWaiter] using hq
    exact .inl (h hph h0)
  · exact .inr ⟨q, by simpa [Connection.setWaiter, hne] using hq, hph, h0⟩

theorem failed_failAll (c : Connection) : c.failAll.failed = true := by
  unfold Connection.failAll
  split
  · assumption
  · rfl

theorem UnderWay.of_failed {c : Connection} (h : c.failed = true) : UnderWay c := by
  intro hf
  rw [h] at hf
  cases hf

theorem UnderWay.register {c c' : Connection} (hu : UnderWay c) {kind : CallKind} {op : Opcode}
    (hreg : c.register kind op = some c') : UnderWay c' := by
  simp only [Connection.register, Option.map_eq_some_iff] at hreg
  obtain ⟨⟨id, next⟩, -, rfl⟩ := hreg
  refine hu.frame (fun h => h) (fun w p hp hph h0 => ?_) (fun _ hw => hw) (fun _ _ hr => hr)
  have hp : Function.update c.waiters c.created (some { kind := kind, opcode := op, requestId := id }) w =
    some p := hp
  by_cases hw : w = c.created
  · subst hw
    rw [Function.update_self] at hp
    cases hp
    cases hph
  · rw [Function.update_of_ne hw] at hp
    exact .inr ⟨p, hp, hph, h0⟩

theorem UnderWay.send {c c' : Connection} (hu : UnderWay c) {w : WaiterId} {owned delivered : Bool}
    (hs : step c (.send w owned delivered) = some c') : UnderWay c' := by
  simp only [step, Option.bind_eq_bind, Option.bind_eq_some_iff] at hs
  obtain ⟨p, hp, hs⟩ := hs
  split_ifs at hs
  · obtain rfl := Option.some.inj hs
    exact hu.setWaiter (by simp)
  · obtain rfl := Option.some.inj hs
    exact hu.setWaiter (by simp)
  · obtain rfl := Option.some.inj hs
    refine hu.frame (fun h => h) (fun w' q hq hph h0 => ?_)
      (fun w' hw' => by simp only [onWire, List.map_append, List.mem_append] at hw' ⊢; tauto)
      (fun _ _ hr => hr)
    by_cases hne : w' = w
    · subst hne
      exact .inl (by simp [onWire])
    · exact .inr ⟨q, by simpa [Connection.setWaiter, hne] using hq, hph, h0⟩

theorem UnderWay.answer {c : Connection} (hu : UnderWay c) {i : ℕ} {q : Request} {payload : List UInt8}
    (hq : c.sent[i]? = some q) :
    UnderWay { c with
      sent := c.sent.eraseIdx i
      replies := c.replies ++ [⟨q.id, q.opcode, payload, q.waiter⟩] } := by
  refine hu.frame (fun h => h) (fun w p hp hph h0 => .inr ⟨p, hp, hph, h0⟩)
    (fun w hw => (onWire_answer hq payload).mem_iff.2 hw) (fun _ _ hr => hr)

/-- The head of the stream is always the reply of an outstanding request, so the receiver takes it. -/
theorem Inv.receives {c : Connection} (h : Inv c) (hf : c.failed = false)
    (hreading : c.receiver = .reading) {r : Reply} {rest : List Reply} (hreps : c.replies = r :: rest) :
    step c .receive =
      some { c.takeEntry r.id with replies := rest, receiver := .delivering r.answers r } := by
  obtain ⟨he, p, hp, hop⟩ := h.answered hf r (by simp [hreps])
  obtain ⟨e, hfind⟩ : ∃ e, c.pending.find? (fun e => e.1 = r.id) = some e :=
    Option.isSome_iff_exists.1 (List.find?_isSome.2 ⟨_, he, by simp⟩)
  have hid : e.1 = r.id := by simpa using List.find?_some hfind
  have hw : e.2 = r.answers :=
    value_unique h.nodup (hid ▸ List.mem_of_find?_eq_some hfind : (r.id, e.2) ∈ c.pending) he
  have hok : ¬ (r.id = 0 ∨ r.opcode ≠ p.opcode) := by
    simp [(h.entry _ _ he).1, hop]
  simp [step, hreading, hreps, hfind, hw, hp, hok]

theorem UnderWay.receive {c c' : Connection} (h : Inv c) (hu : UnderWay c)
    (hs : step c .receive = some c') : UnderWay c' := by
  cases hf : c.failed with
  | true =>
    refine .of_failed ?_
    simp only [step] at hs
    split at hs
    · split at hs
      · exact Option.some.inj hs ▸ hf
      next e hfind => simp [(h.emptied hf).1] at hfind
    · cases hs
  | false =>
    obtain ⟨r, rest, hreading, hreps⟩ : ∃ r rest, c.receiver = .reading ∧ c.replies = r :: rest := by
      simp only [step] at hs
      split at hs
      next hreading hreps => exact ⟨_, _, hreading, hreps⟩
      · cases hs
    rw [h.receives hf hreading hreps] at hs
    obtain rfl := Option.some.inj hs
    intro _ w p hp hph h0
    rcases hu hf w p hp hph h0 with hon | ⟨r', hd⟩
    · simp only [onWire, hreps, List.map_cons, List.mem_append, List.mem_cons] at hon ⊢
      rcases hon with hon | rfl | hon
      · exact .inl (.inl hon)
      · exact .inr ⟨r, rfl⟩
      · exact .inl (.inr hon)
    · rw [hreading] at hd
      cases hd

theorem UnderWay.deliver {c c' : Connection} (hu : UnderWay c) (hs : step c .deliver = some c') :
    UnderWay c' := by
  simp only [step] at hs
  split at hs
  next w r hd =>
    simp only [Option.bind_eq_bind, Option.bind_eq_some_iff] at hs
    obtain ⟨p, hp, hs⟩ := hs
    obtain rfl := Option.some.inj hs
    intro hf w' q hq hph h0
    have hne : w' ≠ w := by
      rintro rfl
      obtain rfl : Connection.wake p (replyOk r.payload) (some r) = q := by
        simpa [Connection.setWaiter] using hq
      simp [Connection.wake] at h0
    have hq' : c.waiters w' = some q := by simpa [Connection.setWaiter, hne] using hq
    rcases hu hf w' q hq' hph h0 with hon | ⟨r', hd'⟩
    · exact .inl hon
    · rw [hd] at hd'
      exact absurd (Receiver.delivering.inj hd').1.symm hne
  · cases hs

theorem underWay_step (c : Connection) (a : Action) (c' : Connection) (h : Inv c) (hu : UnderWay c)
    (hs : step c a = some c') : UnderWay c' := by
  cases a with
  | call kind op =>
    simp only [step] at hs
    split_ifs at hs
    exact hu.register hs
  | heartbeat =>
    simp only [step] at hs
    split_ifs at hs
    exact hu.register hs
  | enableHeartbeat =>
    obtain rfl := Option.some.inj hs
    exact hu
  | send w owned delivered => exact hu.send hs
  | giveUp w =>
    simp only [step, Option.bind_eq_bind, Option.bind_eq_some_iff] at hs
    obtain ⟨p, -, hs⟩ := hs
    split_ifs at hs
    obtain rfl := Option.some.inj hs
    exact .of_failed (failed_failAll c)
  | withdraw w =>
    simp only [step, Option.bind_eq_bind, Option.bind_eq_some_iff] at hs
    obtain ⟨p, -, hs⟩ := hs
    split_ifs at hs
    obtain rfl := Option.some.inj hs
    exact hu.setWaiter (p := { p with phase := .returned false }) (by simp)
  | fail =>
    obtain rfl := Option.some.inj hs
    exact .of_failed (failed_failAll c)
  | heartbeatLost =>
    simp only [step] at hs
    split_ifs at hs
    obtain rfl := Option.some.inj hs
    exact .of_failed (failed_failAll c)
  | wakeNext =>
    simp only [step] at hs
    split at hs
    · cases hs
    next w rest hb =>
      simp only [Option.bind_eq_bind, Option.bind_eq_some_iff] at hs
      obtain ⟨p, -, hs⟩ := hs
      obtain rfl := Option.some.inj hs
      exact .of_failed (h.hand w (by simp [hb])).1
  | answer i payload =>
    simp only [step, Option.bind_eq_bind, Option.bind_eq_some_iff] at hs
    obtain ⟨q, hq, hs⟩ := hs
    obtain rfl := Option.some.inj hs
    exact hu.answer hq
  | receive => exact hu.receive h hs
  | hangUp =>
    simp only [step] at hs
    split_ifs at hs with hr
    obtain rfl := Option.some.inj hs
    exact hu.frame (fun h => h) (fun w p hp hph h0 => .inr ⟨p, hp, hph, h0⟩) (fun _ hw => hw)
      (by simp [hr])
  | deliver => exact hu.deliver hs
  | receiverFails =>
    simp only [step] at hs
    split_ifs at hs
    obtain rfl := Option.some.inj hs
    exact .of_failed (failed_failAll c)
  | closeFd =>
    simp only [step] at hs
    split_ifs at hs with hf
    exact .of_failed (Option.some.inj hs ▸ hf)
  | collect w =>
    simp only [step, Option.bind_eq_bind, Option.bind_eq_some_iff] at hs
    obtain ⟨p, -, hs⟩ := hs
    split_ifs at hs
    obtain rfl := Option.some.inj hs
    exact hu.setWaiter (by simp)

theorem underWay_run {acts : List Action} {c : Connection} (h : Run step initial acts c) : UnderWay c :=
  (h.invariant (I := fun c => Inv c ∧ UnderWay c) ⟨inv_initial, fun _ w p hp => by cases hp⟩
    fun c a c' ⟨hi, hu⟩ hs => ⟨inv_step c a c' hi hs, underWay_step c a c' hi hu hs⟩).2

/-- A waiter on the wire is there with its own id and opcode. -/
theorem Inv.wire_own {c : Connection} (h : Inv c) (hf : c.failed = false) {w : WaiterId} {p : Pending}
    (hp : c.waiters w = some p) (hw : w ∈ c.onWire) :
    (p.requestId, w) ∈ c.pending ∧ (⟨p.requestId, p.opcode, w⟩ ∈ c.sent ∨
      ∃ r ∈ c.replies, r.id = p.requestId ∧ r.opcode = p.opcode ∧ r.answers = w) := by
  have hown : ∀ id, (id, w) ∈ c.pending → id = p.requestId := by
    intro id he
    obtain ⟨-, p', hp', hid, -⟩ := h.entry id w he
    rw [hp] at hp'
    cases hp'
    exact hid.symm
  rcases List.mem_append.1 hw with hw | hw
  · obtain ⟨⟨id, op, w'⟩, hq, rfl⟩ := List.mem_map.1 hw
    obtain ⟨he, p', hp', hop⟩ := h.requests hf _ hq
    rw [hp] at hp'
    cases hp'
    cases hown id he
    cases hop
    exact ⟨he, .inl hq⟩
  · obtain ⟨r, hr, rfl⟩ := List.mem_map.1 hw
    obtain ⟨he, p', hp', hop⟩ := h.answered hf r hr
    rw [hp] at hp'
    cases hp'
    have hid := hown r.id he
    exact ⟨hid ▸ he, .inr ⟨r, hr, hid, hop.symm, rfl⟩⟩

/-! ### What a failure does -/

theorem pending_of_failed {c c' : Connection} {a : Action} (h : Inv c') (ha : a.Fails)
    (hs : step c a = some c') : c'.failed = true ∧ c'.pending = [] := by
  have hf : c'.failed = true := by
    cases a with
    | giveUp w =>
      simp only [step, Option.bind_eq_bind, Option.bind_eq_some_iff] at hs
      obtain ⟨p, -, hs⟩ := hs
      split_ifs at hs
      exact Option.some.inj hs ▸ failed_failAll c
    | fail => exact Option.some.inj hs ▸ failed_failAll c
    | heartbeatLost =>
      simp only [step] at hs
      split_ifs at hs
      exact Option.some.inj hs ▸ failed_failAll c
    | receiverFails =>
      simp only [step] at hs
      split_ifs at hs
      exact Option.some.inj hs ▸ failed_failAll c
    | _ => exact ha.elim
  exact ⟨hf, (h.emptied hf).1⟩

/-- The thread in `fail_all` can wake all it has collected, whatever the others have done. -/
theorem wakesAll {c : Connection} (h : Inv c) :
    ∃ c', runList step c (List.replicate c.broadcast.length .wakeNext) = some c' ∧ c'.broadcast = [] ∧
      c'.failed = c.failed ∧ Inv c' := by
  generalize hn : c.broadcast.length = n
  induction n generalizing c with
  | zero => exact ⟨c, rfl, List.length_eq_zero_iff.1 hn, rfl, h⟩
  | succ n ih =>
    obtain ⟨w, rest, hb⟩ := List.exists_cons_of_length_eq_add_one hn
    obtain ⟨-, p, hp, -⟩ := h.hand w (by simp [hb])
    have hs : step c .wakeNext =
        some { c.setWaiter w (Connection.wake p false none) with broadcast := rest } := by
      simp [step, hb, hp]
    obtain ⟨c', hrun, hrest⟩ := ih (h.wakeNext hs) (by simpa [hb] using hn)
    exact ⟨c', by rw [List.replicate_succ, runList, hs]; exact hrun, hrest⟩

/-! ### What the callers rely on -/

/-- Request correlation in one state, read from the calling threads' side. -/
structure Correlated (c : Connection) : Prop where
  distinct : c.keys.Nodup
  nonzero : (0 : RequestId) ∉ c.keys
  /-- A waiter is woken at most once, and once woken nothing can wake it again. -/
  once : ∀ w p, c.waiters w = some p → (p.done = true ↔ p.wakes = 1) ∧ p.wakes ≤ 1 ∧
    (p.wakes = 1 → ¬ c.Outstanding w ∧ ¬ c.InHand w)
  /-- A thread still waiting is never forgotten: the thread that took its entry is about to wake it, or
  the connection is up, its entry stands, and its own request is with the peer or the reply to it in the
  stream. -/
  owed : ∀ w p, c.waiters w = some p → p.phase = .waiting → p.wakes = 0 →
    c.InHand w ∨ (c.failed = false ∧ (p.requestId, w) ∈ c.pending ∧ (⟨p.requestId, p.opcode, w⟩ ∈ c.sent ∨
      ∃ r ∈ c.replies, r.id = p.requestId ∧ r.opcode = p.opcode ∧ r.answers = w))
  /-- A reply at the head of the stream goes to the waiter whose request it answers, and wakes it. -/
  delivers : c.failed = false → c.receiver = .reading → ∀ r rest, c.replies = r :: rest →
    ∃ c' p, runList step c [.receive, .deliver] = some c' ∧ c'.waiters r.answers = some p ∧
      p.got = some r ∧ p.wakes = 1
  /-- Every `fail_all` fails the connection, and once it has woken what it collected, nobody else is
  left unwoken: only a call that took its own entry back, or one whose reply the receiver has in hand. -/
  fails : ∀ a c', a.Fails → step c a = some c' → c'.failed = true ∧ c'.pending = [] ∧
    ∃ c'', runList step c' (List.replicate c'.broadcast.length .wakeNext) = some c'' ∧
      ∀ w p, c''.waiters w = some p → p.wakes = 1 ∨ p.phase = .returned false ∨
        ∃ r, c''.receiver = .delivering w r
  /-- After a failure every waiting thread has been woken once the hands are empty. -/
  drained : c.failed = true → (∀ w, ¬ c.InHand w) → ∀ w p, c.waiters w = some p →
    p.phase = .waiting → p.wakes = 1
  /-- What a waiter was woken with is the answer to its own request, or the failure. -/
  own : ∀ w p, c.waiters w = some p → p.done = true →
    (∃ r, p.got = some r ∧ r.answers = w ∧ r.id = p.requestId ∧ r.opcode = p.opcode ∧
      p.reply = r.payload ∧ p.ok = replyOk r.payload) ∨
    (p.got = none ∧ p.ok = false ∧ c.failed = true)
  success : ∀ w p, c.waiters w = some p → p.phase = .returned true →
    ∃ r, p.got = some r ∧ r.answers = w ∧ p.reply = r.payload
  counter : c.failed = false →
    c.applicationPending + (if c.heartbeatId = 0 then 0 else 1) = c.pending.length
  /-- A call that is let in finds an id, whatever the counter has come to. -/
  registers : c.failed = false → c.pending.length < 1024 → ∀ kind op, kind ≠ .heartbeat →
    ∃ c', step c (.call kind op) = some c'

theorem call_enabled {c : Connection} (hf : c.failed = false) (hlen : c.pending.length < 1024)
    {kind : CallKind} (hk : kind ≠ .heartbeat) (op : Opcode) :
    ∃ c', step c (.call kind op) = some c' := by
  have hkeys : c.keys.length = c.pending.length := List.length_map ..
  have hsome := allocateId_isSome c.keys (by omega) c.nextRequestId
  rw [hkeys] at hsome
  have hcond : ¬ (kind = .heartbeat ∨ c.failed = true ∨ 1024 ≤ c.pending.length) := by
    simp only [hk, hf, not_or]
    exact ⟨not_false, by simp, by omega⟩
  exact Option.isSome_iff_exists.1 (by
    simp only [step, if_neg hcond, Connection.register, Option.isSome_map]
    exact hsome)

theorem Inv.counter {c : Connection} (h : Inv c) (hf : c.failed = false) :
    c.applicationPending + (if c.heartbeatId = 0 then 0 else 1) = c.pending.length := by
  rw [h.count hf]
  split
  · next hb =>
    have hzero : (0 : RequestId) ∉ c.keys := by
      simp only [keys, List.mem_map, not_exists, not_and]
      rintro ⟨i, w⟩ he
      exact (h.entry i w he).1
    rw [hb, eraseKey_of_notMem hzero, Nat.add_zero]
  · next hb =>
    obtain ⟨w, p, he, -, -⟩ := h.heartbeat hb
    exact length_eraseKey h.nodup he

theorem Inv.own {c : Connection} (h : Inv c) {w : WaiterId} {p : Pending}
    (hp : c.waiters w = some p) (hd : p.done = true) :
    (∃ r, p.got = some r ∧ r.answers = w ∧ r.id = p.requestId ∧ r.opcode = p.opcode ∧
      p.reply = r.payload ∧ p.ok = replyOk r.payload) ∨
    (p.got = none ∧ p.ok = false ∧ c.failed = true) := by
  have hs := h.settled w p hp
  cases hg : p.got with
  | none => exact .inr ⟨rfl, hs.failure hd hg⟩
  | some r => exact .inl ⟨r, rfl, (hs.own r hg).2⟩

theorem Inv.not_taken {c : Connection} (h : Inv c) {w : WaiterId} {p : Pending}
    (hp : c.waiters w = some p) (h1 : p.wakes = 1) : ¬ c.Outstanding w ∧ ¬ c.InHand w := by
  have hzero : ∀ q, c.waiters w = some q → q.wakes ≠ 0 := by
    intro q hq
    rw [hp] at hq
    cases hq
    omega
  constructor
  · rintro ⟨i, he⟩
    obtain ⟨-, q, hq, -, h0⟩ := h.entry i w he
    exact hzero q hq h0
  · rintro (hb | ⟨r, hd⟩)
    · obtain ⟨-, q, hq, h0⟩ := h.hand w hb
      exact hzero q hq h0
    · obtain ⟨-, -, -, q, hq, h0, -⟩ := h.delivering w r hd
      exact hzero q hq h0

theorem Inv.owed {c : Connection} (h : Inv c) (hu : UnderWay c) {w : WaiterId} {p : Pending}
    (hp : c.waiters w = some p) (hph : p.phase = .waiting) (h0 : p.wakes = 0) :
    c.InHand w ∨ (c.failed = false ∧ (p.requestId, w) ∈ c.pending ∧ (⟨p.requestId, p.opcode, w⟩ ∈ c.sent ∨
      ∃ r ∈ c.replies, r.id = p.requestId ∧ r.opcode = p.opcode ∧ r.answers = w)) := by
  cases hf : c.failed with
  | false =>
    rcases hu hf w p hp hph h0 with hon | ⟨r, hd⟩
    · exact .inr ⟨rfl, h.wire_own hf hp hon⟩
    · exact .inl (.inr ⟨r, hd⟩)
  | true =>
    rcases h.kept w p hp h0 with ⟨i, ho⟩ | hh | hr
    · simp [(h.emptied hf).1] at ho
    · exact .inl hh
    · rw [hph] at hr
      cases hr

theorem Inv.delivers {c : Connection} (h : Inv c) (hf : c.failed = false)
    (hreading : c.receiver = .reading) {r : Reply} {rest : List Reply} (hreps : c.replies = r :: rest) :
    ∃ c' p, runList step c [.receive, .deliver] = some c' ∧ c'.waiters r.answers = some p ∧
      p.got = some r ∧ p.wakes = 1 := by
  obtain ⟨he, p, hp, -⟩ := h.answered hf r (by simp [hreps])
  obtain ⟨-, p', hp', -, h0⟩ := h.entry _ _ he
  rw [hp] at hp'
  cases hp'
  have hget : (c.takeEntry r.id).waiters r.answers = some p := hp
  have hrun : runList step c [.receive, .deliver] =
      some { c.takeEntry r.id with
        replies := rest
        receiver := .reading
        waiters := Function.update c.waiters r.answers
          (some (Connection.wake p (replyOk r.payload) (some r))) } := by
    rw [runList, h.receives hf hreading hreps]
    simp only [Option.bind_some, runList, step, hget]
    rfl
  exact ⟨_, _, hrun, Function.update_self .., rfl, by simp [Connection.wake, h0]⟩

theorem Inv.fails {c c' : Connection} (h : Inv c') {a : Action} (ha : a.Fails) (hs : step c a = some c') :
    c'.failed = true ∧ c'.pending = [] ∧
      ∃ c'', runList step c' (List.replicate c'.broadcast.length .wakeNext) = some c'' ∧
        ∀ w p, c''.waiters w = some p → p.wakes = 1 ∨ p.phase = .returned false ∨
          ∃ r, c''.receiver = .delivering w r := by
  obtain ⟨hf, hnil⟩ := pending_of_failed h ha hs
  obtain ⟨c'', hrun, hb, hf'', hi⟩ := wakesAll h
  refine ⟨hf, hnil, c'', hrun, fun w p hp => ?_⟩
  rcases Nat.eq_zero_or_pos p.wakes with h0 | h0
  · rcases hi.kept w p hp h0 with ⟨i, ho⟩ | (hh | hh) | hret
    · simp [(hi.emptied (hf''.trans hf)).1] at ho
    · simp [hb] at hh
    · exact .inr (.inr hh)
    · exact .inr (.inl hret)
  · have := (hi.settled w p hp).once
    exact .inl (by omega)

/-- Every state of every run of the connection correlates requests with replies. -/
theorem run_correlated {acts : List Action} {c : Connection} (h : Run step initial acts c) :
    Correlated c := by
  have hi := inv_run h
  have howed := fun w p (hp : c.waiters w = some p) => hi.owed (underWay_run h) hp
  refine ⟨hi.nodup, ?_, ?_, howed, fun hf hr r rest hreps => hi.delivers hf hr hreps,
    fun a c' ha hs => (inv_step c a c' hi hs).fails ha hs, ?_, fun w p hp hd => hi.own hp hd, ?_, hi.counter,
    fun hf hlen kind op hk => call_enabled hf hlen hk op⟩
  · simp only [keys, List.mem_map, not_exists, not_and]
    rintro ⟨i, w⟩ he
    exact (hi.entry i w he).1
  · intro w p hp
    have hs := hi.settled w p hp
    exact ⟨hs.done_iff, hs.once, hi.not_taken hp⟩
  · intro hf hhand w p hp hph
    have hle := (hi.settled w p hp).once
    rcases Nat.eq_zero_or_pos p.wakes with h0 | h0
    · rcases howed w p hp hph h0 with hh | ⟨hup, -⟩
      · exact absurd hh (hhand w)
      · rw [hf] at hup
        cases hup
    · omega
  · intro w p hp hph
    obtain ⟨hd, hok⟩ := hi.success w p hp hph
    rcases hi.own hp hd with ⟨r, hg, ha, -, -, hrep, -⟩ | ⟨-, hno, -⟩
    · exact ⟨r, hg, ha, hrep⟩
    · rw [hok] at hno
      cases hno

/-- Two calls answered out of order while a heartbeat is in flight. -/
def crossedReplies : List Action :=
  [.enableHeartbeat, .call .roundTrip 7, .call .tryRoundTrip 9, .send 1 true true,
   .send 0 true true, .heartbeat, .answer 0 [0, 0, 0, 0, 1], .send 2 true true,
   .answer 0 [0, 0, 0, 0, 2], .receive, .deliver, .collect 1]

theorem run_correlated_crossedReplies :
    ∃ c, runList step initial crossedReplies = some c ∧ c.pending.length = 2 ∧ Correlated c := by
  obtain ⟨c, hc⟩ : ∃ c, runList step initial crossedReplies = some c :=
    Option.isSome_iff_exists.1 (by decide)
  have hlen : (runList step initial crossedReplies).map (fun c => c.pending.length) = some 2 := by
    decide
  rw [hc] at hlen
  exact ⟨c, hc, Option.some.inj hlen, run_correlated (run_of_runList hc)⟩

end VkRemote.Client
