import VulkanRemote.Wire.Endpoint

/-! What the peer gets from one end of a connection: whole messages and at most a part of one more, as
long as no sender gets in behind a message that was cut. -/

namespace VkRemote.Wire
open Lib Endpoint

namespace Endpoint

/-- What an action can do. -/
inductive Acted (s : Endpoint) : SendAction → Endpoint → Prop
  | enter (t : ℕ) (c : Caller) (m : Message) : s.threads t = none → s.sendMutex = none →
      (c = .reply ↔ s.server = true) → Acted s (.enter t c m) (s.enter t c m)
  | taken {t : ℕ} {c : Caller} {m : Message} {h p : List UInt8} {n : ℕ} :
      s.threads t = some (.sending c m h p) → 0 < n → n ≤ (if h = [] then p else h).length →
      Acted s (.send t (.taken n)) (s.advance t c m h p n)
  | interrupted {t : ℕ} : Acted s (.send t .interrupted) s
  | error {t : ℕ} {c : Caller} {m : Message} {h p : List UInt8} :
      s.threads t = some (.sending c m h p) → Acted s (.send t .error) (s.giveUp t c h)
  | failed : Acted s (.failAll none) { s with failed := true }
  | marked {t : ℕ} {midway : Bool} : s.threads t = some (.failing midway) →
      Acted s (.failAll (some t)) { s.setThread t none with failed := true }
  | shutdown : Acted s .shutdown { s with fdValid := false }

variable {s s' : Endpoint} {t : ℕ} {c : Caller} {m : Message} {h p done : List UInt8} {n : ℕ}
  {ms : List Message}

/-- The bytes are whole messages and a part of one more that is begun last. -/
structure Framed (s : Endpoint) (ms : List Message) (part : List UInt8) : Prop where
  sent : s.sent = ms.flatMap Message.bytes ++ part
  begun : part = [] ∧ s.begun = ms ∨
    part ≠ [] ∧ ∃ m, s.begun = ms ++ [m] ∧ part <+: m.bytes ∧ part ≠ m.bytes

/-- Of `m` the bytes `done` are handed over and `h` and `p` are left. -/
structure Handing (s : Endpoint) (m : Message) (h p : List UInt8) (ms : List Message)
    (done : List UInt8) : Prop where
  split : done ++ h ++ p = m.bytes
  left : h = [] → p ≠ []
  header : h.length = headerSize - done.length
  sent : s.sent = ms.flatMap Message.bytes ++ done
  begun : s.begun = if done = [] then ms else ms ++ [m]

structure Inv (s : Endpoint) : Prop where
  only : ∀ t c m h p, s.threads t = some (.sending c m h p) → s.sendMutex = some t
  sending : ∀ t c m h p, s.threads t = some (.sending c m h p) → s.cut = false ∧
    m.payload.length < 2 ^ 32 ∧ (c = .reply ↔ s.server = true) ∧ ∃ ms done, Handing s m h p ms done
  held : ∀ t, s.sendMutex = some t → ∃ c m h p, s.threads t = some (.sending c m h p)
  idle : s.sendMutex = none → s.cut = false → s.sent = s.begun.flatMap Message.bytes
  given : s.cut = true → s.sendMutex = none ∧ (∃ ms part, part ≠ [] ∧ Framed s ms part) ∧
    (s.server = false → s.failed = true ∨ ∃ t, s.threads t = some (.failing true))
  sizes : ∀ m ∈ s.begun, m.payload.length < 2 ^ 32

theorem inv_start (server : Bool) : Inv (start server) where
  only _ _ _ _ _ h := by cases h
  sending _ _ _ _ _ h := by cases h
  held _ h := by cases h
  idle _ _ := rfl
  given h := by cases h
  sizes _ h := by cases h

theorem Handing.fresh_iff (hh : Handing s m h p ms done) : h.length = headerSize ↔ done = [] := by
  have hlen := hh.header
  unfold headerSize at hlen ⊢
  constructor
  · intro h16
    exact List.eq_nil_of_length_eq_zero (by omega)
  · rintro rfl
    simpa using hlen

/-- What is begun is whole messages and a part of the last. -/
theorem Handing.framed (hh : Handing s m h p ms done) : Framed s ms done := by
  refine ⟨hh.sent, ?_⟩
  have hbegun := hh.begun
  by_cases hd : done = []
  · rw [if_pos hd] at hbegun
    exact .inl ⟨hd, hbegun⟩
  · rw [if_neg hd] at hbegun
    refine .inr ⟨hd, m, hbegun, ⟨h ++ p, by rw [← hh.split, List.append_assoc]⟩, fun heq => ?_⟩
    have hnil : h ++ p = [] := by
      have hsplit := hh.split
      rw [List.append_assoc, heq] at hsplit
      simpa using hsplit
    exact hh.left (List.append_eq_nil_iff.1 hnil).1 (List.append_eq_nil_iff.1 hnil).2

theorem Inv.framed (hi : Inv s) : ∃ ms part, Framed s ms part := by
  cases hm : s.sendMutex with
  | some t =>
    obtain ⟨c, m, h, p, ht⟩ := hi.held t hm
    obtain ⟨-, -, -, ms, done, hh⟩ := hi.sending t c m h p ht
    exact ⟨ms, done, hh.framed⟩
  | none =>
    cases hc : s.cut with
    | false => exact ⟨s.begun, [], by rw [List.append_nil]; exact hi.idle hm hc, .inl ⟨rfl, rfl⟩⟩
    | true =>
      obtain ⟨-, ⟨ms, part, -, hf⟩, -⟩ := hi.given hc
      exact ⟨ms, part, hf⟩

theorem Handing.advance (hh : Handing s m h p ms done) (hn : 0 < n)
    (hle : n ≤ (if h = [] then p else h).length) :
    ∃ done', done' ≠ [] ∧ done' ++ h.drop n ++ (if h = [] then p.drop n else p) = m.bytes ∧
      (h.drop n).length = headerSize - done'.length ∧
      s.sent ++ (if h = [] then p else h).take n = ms.flatMap Message.bytes ++ done' ∧
      (if h.length = headerSize then s.begun ++ [m] else s.begun) = ms ++ [m] := by
  have hbegun : (if h.length = headerSize then s.begun ++ [m] else s.begun) = ms ++ [m] := by
    rw [hh.begun]
    by_cases hd : done = []
    · rw [if_pos (hh.fresh_iff.2 hd), if_pos hd]
    · rw [if_neg fun h16 => hd (hh.fresh_iff.1 h16), if_neg hd]
  have hlen := hh.header
  refine ⟨done ++ (if h = [] then p else h).take n, ?_, ?_, ?_, ?_, hbegun⟩
  · intro hnil
    have htake := congrArg List.length (List.append_eq_nil_iff.1 hnil).2
    rw [List.length_take, List.length_nil] at htake
    omega
  · rw [← hh.split]
    by_cases hnil : h = []
    · subst hnil
      simp
    · rw [if_neg hnil, if_neg hnil, List.append_assoc done, List.take_append_drop]
  · rw [List.length_drop, List.length_append, List.length_take, hlen]
    by_cases hnil : h = []
    · subst hnil
      rw [List.length_nil] at hlen
      omega
    · rw [if_neg hnil] at hle ⊢
      omega
  · rw [hh.sent, List.append_assoc]

theorem inv_advance (hi : Inv s) (ht : s.threads t = some (.sending c m h p)) (hn : 0 < n)
    (hle : n ≤ (if h = [] then p else h).length) : Inv (s.advance t c m h p n) := by
  obtain ⟨hcut, hsize, hside, ms, done, hh⟩ := hi.sending t c m h p ht
  obtain ⟨done', hne, hsplit, hlen, hsent, hbegun⟩ := hh.advance hn hle
  have hlock := hi.only t c m h p ht
  have hsizes : ∀ x ∈ ms ++ [m], x.payload.length < 2 ^ 32 := by
    intro x hx
    rw [← hbegun] at hx
    split at hx
    · rcases List.mem_append.1 hx with hx | hx
      · exact hi.sizes x hx
      · exact List.mem_singleton.1 hx ▸ hsize
    · exact hi.sizes x hx
  have hother : ∀ t' c' m' h' p', t' ≠ t → s.threads t' ≠ some (.sending c' m' h' p') :=
    fun t' c' m' h' p' hne' heq =>
      hne' (Option.some.inj ((hi.only t' c' m' h' p' heq).symm.trans hlock))
  unfold Endpoint.advance
  dsimp only
  rw [hsent, hbegun]
  generalize h.drop n = h₁ at hsplit hlen ⊢
  generalize (if h = [] then p.drop n else p) = p₁ at hsplit ⊢
  split
  · next hdone =>
    rw [hdone.1, hdone.2, List.append_nil, List.append_nil] at hsplit
    refine ⟨fun t' c' m' h' p' heq => ?_, fun t' c' m' h' p' heq => ?_, fun t' heq => (nomatch heq),
      fun _ _ => ?_, fun heq => ?_, hsizes⟩
    · by_cases htt : t' = t
      · subst htt
        simp [setThread] at heq
      · exact absurd (by simpa [setThread, htt] using heq) (hother t' c' m' h' p' htt)
    · by_cases htt : t' = t
      · subst htt
        simp [setThread] at heq
      · exact absurd (by simpa [setThread, htt] using heq) (hother t' c' m' h' p' htt)
    · simp [setThread, hsplit]
    · simp [setThread, hcut] at heq
  · next hmore =>
    refine ⟨fun t' c' m' h' p' heq => ?_, fun t' c' m' h' p' heq => ?_, fun t' heq => ?_,
      fun heq => ?_, fun heq => ?_, hsizes⟩
    · by_cases htt : t' = t
      · exact htt ▸ hlock
      · exact absurd (by simpa [setThread, htt] using heq) (hother t' c' m' h' p' htt)
    · by_cases htt : t' = t
      · subst htt
        simp only [setThread, Function.update_self, Option.some.injEq, Phase.sending.injEq] at heq
        obtain ⟨rfl, rfl, rfl, rfl⟩ := heq
        refine ⟨hcut, hsize, hside, ms, done', hsplit, fun hnil hnil' => hmore ⟨hnil, hnil'⟩, hlen, rfl, ?_⟩
        rw [if_neg hne]
        rfl
      · exact absurd (by simpa [setThread, htt] using heq) (hother t' c' m' h' p' htt)
    · have htt : t' = t := Option.some.inj (heq.symm.trans hlock)
      subst htt
      exact ⟨c, m, h₁, p₁, by simp [setThread]⟩
    · simp [setThread, hlock] at heq
    · simp [setThread, hcut] at heq

theorem inv_giveUp (hi : Inv s) (ht : s.threads t = some (.sending c m h p)) :
    Inv (s.giveUp t c h) := by
  obtain ⟨hcut, hsize, hside, ms, done, hh⟩ := hi.sending t c m h p ht
  have hlock := hi.only t c m h p ht
  have hother : ∀ t' c' m' h' p', t' ≠ t → s.threads t' ≠ some (.sending c' m' h' p') :=
    fun t' c' m' h' p' hne' heq =>
      hne' (Option.some.inj ((hi.only t' c' m' h' p' heq).symm.trans hlock))
  have hfresh : decide (h.length < headerSize) = false → done = [] := by
    intro hd
    have hge := of_decide_eq_false hd
    have hlen := hh.header
    exact hh.fresh_iff.1 (by omega)
  have hmid : decide (h.length < headerSize) = true → done ≠ [] := by
    rintro hd rfl
    have hlt := of_decide_eq_true hd
    have hlen := hh.header
    simp at hlen
    omega
  obtain ⟨phase, failed, hgive, hphase, hfailed⟩ : ∃ phase failed, s.giveUp t c h =
      { s.setThread t phase with
        sendMutex := none, cut := decide (h.length < headerSize), failed := failed } ∧
      (∀ c' m' h' p', phase ≠ some (.sending c' m' h' p')) ∧
      (decide (h.length < headerSize) = true → s.server = false →
        failed = true ∨ phase = some (.failing true)) := by
    cases c with
    | sendOneway =>
      exact ⟨none, true, by simp [giveUp, setThread, hcut], by simp, fun _ _ => .inl rfl⟩
    | reply =>
      refine ⟨none, s.failed, by simp [giveUp, setThread, hcut], by simp, fun _ hno => ?_⟩
      rw [hside.1 rfl] at hno
      cases hno
    | roundTrip =>
      exact ⟨some (.failing (decide (h.length < headerSize))), s.failed,
        by simp [giveUp, setThread, hcut], by simp, fun hd _ => .inr (by rw [hd])⟩
    | tryRoundTrip =>
      exact ⟨some (.failing (decide (h.length < headerSize))), s.failed,
        by simp [giveUp, setThread, hcut], by simp, fun hd _ => .inr (by rw [hd])⟩
    | heartbeat =>
      exact ⟨some (.failing (decide (h.length < headerSize))), s.failed,
        by simp [giveUp, setThread, hcut], by simp, fun hd _ => .inr (by rw [hd])⟩
  rw [hgive]
  refine ⟨fun t' c' m' h' p' heq => ?_, fun t' c' m' h' p' heq => ?_, fun t' heq => (nomatch heq),
    fun _ hno => ?_, fun hyes => ⟨rfl, ⟨ms, done, hmid hyes, hh.framed.1, hh.framed.2⟩, fun hc => ?_⟩,
    hi.sizes⟩
  · by_cases htt : t' = t
    · subst htt
      exact absurd (by simpa [setThread] using heq) (hphase c' m' h' p')
    · exact absurd (by simpa [setThread, htt] using heq) (hother t' c' m' h' p' htt)
  · by_cases htt : t' = t
    · subst htt
      exact absurd (by simpa [setThread] using heq) (hphase c' m' h' p')
    · exact absurd (by simpa [setThread, htt] using heq) (hother t' c' m' h' p' htt)
  · have hd := hfresh hno
    have hsent := hh.sent
    have hbegun := hh.begun
    rw [hd, List.append_nil] at hsent
    rw [if_pos hd] at hbegun
    simp [setThread, hsent, hbegun]
  · exact (hfailed hyes hc).imp_right fun hp => ⟨t, by simp [setThread, hp]⟩

theorem inv_enter (hi : Inv s) (hfree : s.threads t = none) (hlock : s.sendMutex = none)
    (hside : c = .reply ↔ s.server = true) (hu : Uncut s (.enter t c m)) : Inv (s.enter t c m) := by
  obtain ⟨hnone, hreply, hsize⟩ := hu
  unfold Endpoint.enter
  split
  · have hstay : ∀ {phase : Option Phase}, (∀ c' m' h' p', phase ≠ some (.sending c' m' h' p')) →
        Inv (s.setThread t phase) := by
      intro phase hphase
      refine ⟨fun t' c' m' h' p' heq => ?_, fun t' c' m' h' p' heq => ?_, fun t' heq => ?_,
        hi.idle, fun hc => ?_, hi.sizes⟩
      · by_cases htt : t' = t
        · subst htt
          exact absurd (by simpa [setThread] using heq) (hphase c' m' h' p')
        · exact hi.only t' c' m' h' p' (by simpa [setThread, htt] using heq)
      · by_cases htt : t' = t
        · subst htt
          exact absurd (by simpa [setThread] using heq) (hphase c' m' h' p')
        · obtain ⟨h1, h2, h3, ms, done, hh⟩ :=
            hi.sending t' c' m' h' p' (by simpa [setThread, htt] using heq)
          exact ⟨h1, h2, h3, ms, done, { hh with }⟩
      · exact absurd (hlock.symm.trans heq) (by simp)
      · obtain ⟨h1, ⟨ms, part, hne, hf⟩, h3⟩ := hi.given hc
        refine ⟨h1, ⟨ms, part, hne, { hf with }⟩, fun hcl => (h3 hcl).imp_right fun ⟨t', ht'⟩ => ⟨t', ?_⟩⟩
        have htt : t' ≠ t := by
          rintro rfl
          rw [hfree] at ht'
          cases ht'
        simpa [setThread, htt] using ht'
    split
    · exact hstay (by simp)
    · exact hi
  · next hgo =>
    have hcut : s.cut = false := by
      by_contra hc
      have hc : s.cut = true := by simpa using hc
      obtain ⟨-, -, hmark⟩ := hi.given hc
      by_cases hcr : c = .reply
      · rw [hreply hcr] at hc
        cases hc
      · have hcl : s.server = false := by
          by_contra hs
          exact hcr (hside.2 (by simpa using hs))
        rcases hmark hcl with hf | ⟨t', ht'⟩
        · exact hgo ⟨hcr, .inl hf⟩
        · exact hnone t' ht'
    have hnobody : ∀ t' c' m' h' p', s.threads t' ≠ some (.sending c' m' h' p') := by
      intro t' c' m' h' p' heq
      exact absurd ((hi.only t' c' m' h' p' heq).symm.trans hlock) (by simp)
    have hhead : m.header ≠ [] := by
      intro hnil
      have hlen := m.length_header
      rw [hnil] at hlen
      cases hlen
    refine ⟨fun t' c' m' h' p' heq => ?_, fun t' c' m' h' p' heq => ?_, fun t' heq => ?_,
      fun heq => (nomatch heq), fun hc => ?_, hi.sizes⟩
    · by_cases htt : t' = t
      · exact congrArg some htt.symm
      · exact absurd (by simpa [setThread, htt] using heq) (hnobody t' c' m' h' p')
    · by_cases htt : t' = t
      · subst htt
        simp only [setThread, Function.update_self, Option.some.injEq, Phase.sending.injEq] at heq
        obtain ⟨rfl, rfl, rfl, rfl⟩ := heq
        refine ⟨hcut, hsize, hside, s.begun, [], rfl, fun hnil => absurd hnil hhead, by simp, ?_, rfl⟩
        rw [List.append_nil]
        exact hi.idle hlock hcut
      · exact absurd (by simpa [setThread, htt] using heq) (hnobody t' c' m' h' p')
    · obtain rfl : t = t' := Option.some.inj heq
      exact ⟨c, m, m.header, m.payload, by simp [setThread]⟩
    · exact absurd (hcut.symm.trans hc) (by simp)

theorem acted_of_step {a : SendAction} (hs : s.step a = some s') : Acted s a s' := by
  cases a with
  | enter t c m =>
    simp only [step, Option.ite_none_right_eq_some, Option.some.injEq] at hs
    obtain ⟨⟨h1, h2, h3⟩, rfl⟩ := hs
    exact .enter t c m h1 h2 h3
  | send t outcome =>
    simp only [step] at hs
    split at hs
    · next c m h p ht =>
      cases outcome with
      | taken n =>
        simp only [Option.ite_none_right_eq_some, Option.some.injEq] at hs
        obtain ⟨⟨h1, h2⟩, rfl⟩ := hs
        exact .taken ht h1 h2
      | interrupted =>
        obtain rfl := Option.some.inj hs
        exact .interrupted
      | error =>
        obtain rfl := Option.some.inj hs
        exact .error ht
    · cases hs
  | failAll who =>
    cases who with
    | none =>
      simp only [step, Option.ite_none_left_eq_some, Option.some.injEq] at hs
      obtain ⟨-, rfl⟩ := hs
      exact .failed
    | some t =>
      simp only [step] at hs
      split at hs
      · next midway ht =>
        obtain rfl := Option.some.inj hs
        exact .marked ht
      · cases hs
  | shutdown =>
    simp only [step, Option.ite_none_left_eq_some, Option.some.injEq] at hs
    obtain ⟨-, rfl⟩ := hs
    exact .shutdown

theorem inv_marked (hi : Inv s) {midway : Bool} (ht : s.threads t = some (.failing midway)) :
    Inv { s.setThread t none with failed := true } := by
  have hkeep : ∀ t' c m h p, (s.setThread t none).threads t' = some (.sending c m h p) →
      s.threads t' = some (.sending c m h p) := by
    intro t' c m h p heq
    by_cases htt : t' = t
    · subst htt
      simp [setThread] at heq
    · simpa [setThread, htt] using heq
  refine ⟨fun t' c m h p heq => hi.only t' c m h p (hkeep t' c m h p heq),
    fun t' c m h p heq => ?_, fun t' heq => ?_, hi.idle, fun hc => ?_, hi.sizes⟩
  · obtain ⟨h1, h2, h3, ms, done, hh⟩ := hi.sending t' c m h p (hkeep t' c m h p heq)
    exact ⟨h1, h2, h3, ms, done, { hh with }⟩
  · obtain ⟨c, m, h, p, ht'⟩ := hi.held t' heq
    have htt : t' ≠ t := by
      rintro rfl
      rw [ht] at ht'
      cases ht'
    exact ⟨c, m, h, p, by simpa [setThread, htt] using ht'⟩
  · obtain ⟨h1, ⟨ms, part, hne, hf⟩, -⟩ := hi.given hc
    exact ⟨h1, ⟨ms, part, hne, { hf with }⟩, fun _ => .inl rfl⟩

/-- The flags of the connection alone say nothing of the stream. -/
theorem inv_flags (hi : Inv s) {failed fdValid : Bool} (hf : s.failed = true → failed = true) :
    Inv { s with failed := failed, fdValid := fdValid } where
  only := hi.only
  sending t c m h p ht := by
    obtain ⟨h1, h2, h3, ms, done, hh⟩ := hi.sending t c m h p ht
    exact ⟨h1, h2, h3, ms, done, { hh with }⟩
  held := hi.held
  idle := hi.idle
  given hc := by
    obtain ⟨h1, ⟨ms, part, hne, hfr⟩, h3⟩ := hi.given hc
    exact ⟨h1, ⟨ms, part, hne, { hfr with }⟩, fun hcl => (h3 hcl).imp_left hf⟩
  sizes := hi.sizes

theorem inv_step (hi : Inv s) {a : SendAction} (hu : Uncut s a) (hs : s.step a = some s') : Inv s' := by
  cases acted_of_step hs with
  | enter t c m hfree hlock hside => exact inv_enter hi hfree hlock hside hu
  | taken ht hn hle => exact inv_advance hi ht hn hle
  | interrupted => exact hi
  | error ht => exact inv_giveUp hi ht
  | failed => exact inv_flags hi fun _ => rfl
  | marked ht => exact inv_marked hi ht
  | shutdown => exact inv_flags hi id

/-- Behind a message that was cut nothing is handed over any more. -/
theorem silent_step (hi : Inv s) (hc : s.cut = true) {a : SendAction} (hu : Uncut s a)
    (hs : s.step a = some s') : s'.cut = true ∧ s'.sent = s.sent := by
  obtain ⟨hlock, -, hmark⟩ := hi.given hc
  have hnobody : ∀ t c m h p, s.threads t ≠ some (.sending c m h p) := fun t c m h p ht =>
    absurd ((hi.only t c m h p ht).symm.trans hlock) (by simp)
  cases acted_of_step hs with
  | enter t c m _ _ hside =>
    have hrefused : c ≠ .reply ∧ (s.failed = true ∨ ¬ s.fdValid = true) := by
      have hcr : c ≠ .reply := by
        intro hcr
        rw [hu.2.1 hcr] at hc
        cases hc
      have hcl : s.server = false := by
        by_contra hsrv
        exact hcr (hside.2 (by simpa using hsrv))
      exact ⟨hcr, .inl ((hmark hcl).resolve_right fun ⟨t', ht'⟩ => hu.1 t' ht')⟩
    rw [Endpoint.enter, if_pos hrefused]
    split <;> exact ⟨hc, rfl⟩
  | taken ht => exact absurd ht (hnobody _ _ _ _ _)
  | interrupted => exact ⟨hc, rfl⟩
  | error ht => exact absurd ht (hnobody _ _ _ _ _)
  | failed => exact ⟨hc, rfl⟩
  | marked => exact ⟨hc, rfl⟩
  | shutdown => exact ⟨hc, rfl⟩

theorem run_inv {server : Bool} {acts : List SendAction} (hr : RunWhere step Uncut (start server) acts s) :
    Inv s :=
  hr.invariant (inv_start server) fun _ _ _ hi hu hs => inv_step hi hu hs

theorem run_silent {server : Bool} {acts acts₁ acts₂ : List SendAction} {s₁ : Endpoint}
    (hr : RunWhere step Uncut (start server) acts s) (heq : acts = acts₁ ++ acts₂)
    (hr₁ : Run step (start server) acts₁ s₁) (hc : s₁.cut = true) : s.cut = true ∧ s.sent = s₁.sent := by
  induction hr generalizing acts₂ with
  | nil =>
    obtain ⟨rfl, -⟩ := List.append_eq_nil_iff.1 heq.symm
    obtain rfl := hr₁.unique .nil
    cases hc
  | @snoc acts s₂ s₃ a hrun hu hs ih =>
    rcases List.eq_nil_or_concat acts₂ with rfl | ⟨acts₂, a', rfl⟩
    · rw [List.append_nil] at heq
      obtain rfl := hr₁.unique (heq ▸ hrun.run.snoc hs)
      exact ⟨hc, rfl⟩
    · rw [List.concat_eq_append, ← List.append_assoc] at heq
      obtain ⟨hcut, hsent⟩ := ih (List.append_inj' heq rfl).1
      obtain ⟨hcut', hsent'⟩ := silent_step (run_inv hrun) hcut hu hs
      exact ⟨hcut', hsent'.trans hsent⟩

/-- Whole messages, at most a part of one more, nothing behind it; and the peer receives the messages, up
to the first that is larger than the cap. -/
theorem run_framed {server : Bool} {acts : List SendAction} {s : Endpoint}
    (hr : RunWhere step Uncut (start server) acts s) :
    (∃ ms part, Framed s ms part ∧ ∀ as, content as = s.sent →
      receiveAll as = ms.takeWhile fun m => m.payload.length ≤ kMaxPayload) ∧
    ∀ acts₁ acts₂ s₁, acts = acts₁ ++ acts₂ → Run step (start server) acts₁ s₁ → s₁.cut = true →
      s.sent = s₁.sent := by
  have hi := run_inv hr
  refine ⟨?_, fun acts₁ acts₂ s₁ heq hr₁ hc => (run_silent hr heq hr₁ hc).2⟩
  obtain ⟨ms, part, hf⟩ := hi.framed
  refine ⟨ms, part, hf, fun as has => ?_⟩
  rw [hf.sent] at has
  rcases hf.begun with ⟨rfl, hbegun⟩ | ⟨-, m, hbegun, hpre, hne⟩
  · refine receiveAll_stream (m := ⟨0, 0, []⟩) (fun x hx => ?_) (List.nil_prefix) (by simp [Message.bytes, Message.header, toLE]) has
    rcases List.mem_cons.1 hx with rfl | hx
    · simp
    · exact hi.sizes x (hbegun ▸ hx)
  · refine receiveAll_stream (fun x hx => hi.sizes x ?_) hpre hne has
    rw [hbegun]
    rcases List.mem_cons.1 hx with rfl | hx
    · simp
    · exact List.mem_append_left _ hx

/-- A Ping, and a request with a payload. -/
def ping : Message := { opcode := 5, requestId := 7, payload := [] }

def request : Message := { opcode := 40, requestId := 0, payload := [1, 2, 3] }

/-- A request goes out in pieces, and then a heartbeat that is cut. -/
def inPieces : List SendAction :=
  [.enter 0 .sendOneway request, .send 0 (.taken 5), .send 0 .interrupted, .send 0 (.taken 11),
    .send 0 (.taken 3), .enter 0 .heartbeat ping, .send 0 (.taken 9), .send 0 .error, .failAll (some 0)]

theorem run_framed_inPieces : ∃ s, runList step (start false) inPieces = some s ∧
    ∃ ms part, Framed s ms part ∧ ∀ as, content as = s.sent →
      receiveAll as = ms.takeWhile fun m => m.payload.length ≤ kMaxPayload := by
  have hsome : (runList step (start false) inPieces).isSome = true := by decide
  obtain ⟨s, hs⟩ := Option.isSome_iff_exists.1 hsome
  refine ⟨s, hs, (run_framed (runWhere_of_runList hs fun k a s' hk hs' => ?_)).1⟩
  match k, hk with
  | 0, hk =>
    obtain rfl := Option.some.inj hk
    obtain rfl := Option.some.inj hs'
    exact ⟨fun t => by simp [start], fun h => absurd h (by decide), by decide⟩
  | 5, hk =>
    obtain rfl := Option.some.inj hk
    obtain rfl := Option.some.inj hs'
    refine ⟨fun t ht => ?_, fun h => absurd h (by decide), by decide⟩
    cases t with
    | zero => cases ht
    | succ t => cases ht
  | 1, hk | 2, hk | 3, hk | 4, hk | 6, hk | 7, hk | 8, hk =>
    obtain rfl := Option.some.inj hk
    trivial

/-- A round trip is cut, and before it gets to `fail_all` another sender finds the mutex free and the
connection not failed. On the server every reply after the one that was cut goes out. -/
def lateSender (server : Bool) : List SendAction :=
  [.enter 0 (if server then .reply else .roundTrip) request, .send 0 (.taken 16), .send 0 .error,
    .enter 1 (if server then .reply else .sendOneway) ping, .send 1 (.taken 16)]

theorem lateSender_not_framed (server : Bool) : ∃ s, Run step (start server) (lateSender server) s ∧
    s.sent = request.header ++ ping.bytes ∧ ¬ ∃ ms part, Framed s ms part := by
  have hrun : ∃ s, runList step (start server) (lateSender server) = some s ∧
      s.sent = request.header ++ ping.bytes ∧ s.begun = [request, ping] := by
    cases server <;> exact ⟨_, rfl, rfl, rfl⟩
  obtain ⟨s, hs, hsent, hbegun⟩ := hrun
  refine ⟨s, run_of_runList hs, hsent, ?_⟩
  rintro ⟨ms, part, hsplit, ⟨rfl, hms⟩ | ⟨-, m, hms, -⟩⟩ <;> rw [hsent] at hsplit <;>
    rw [hbegun] at hms
  · subst hms
    have hlen := congrArg List.length hsplit
    revert hlen
    decide
  · obtain ⟨rfl, -⟩ := List.append_inj' (show [request] ++ [ping] = ms ++ [m] from hms) rfl
    have htail : ping.bytes = request.payload ++ part := by
      rw [List.flatMap_singleton, show request.bytes = request.header ++ request.payload from rfl, List.append_assoc] at hsplit
      exact List.append_cancel_left hsplit
    have hfirst : (some 5 : Option UInt8) = some 1 := congrArg List.head? htail
    cases hfirst

theorem late_sender_breaks :
    (∃ s, Run step (start false) (lateSender false) s ∧ s.sent = request.header ++ ping.bytes ∧
      ¬ ∃ ms part, Framed s ms part) ∧
    ∃ s, Run step (start true) (lateSender true) s ∧ s.sent = request.header ++ ping.bytes ∧
      ¬ ∃ ms part, Framed s ms part :=
  ⟨lateSender_not_framed false, lateSender_not_framed true⟩

end Endpoint
end VkRemote.Wire
