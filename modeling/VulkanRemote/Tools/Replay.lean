import Mathlib.Data.List.Nodup
import VulkanRemote.Lib.Assoc
import VulkanRemote.Tools.Recorded

/-! `run_replay`: the recorded requests are sent and the recorded responses are waited for, one after the
other in the order of the recording. What it is connected to is any `Target`; `Answers` is the one that
sends the recorded replies, in an order of its own. -/

namespace VkRemote.Tools

open Lib
open Wire (Message)

inductive Verify
  | outputs
  | exact
  deriving DecidableEq

def status (payload : List UInt8) (sequence : ℤ) : Except Error ℕ :=
  if payload.length < 4 then
    .error (.trace s!"response {sequence}: payload is too short for protocol status")
  else .ok (ofLE (payload.take 4))

def handshakeDigest (payload : List UInt8) (sequence : ℤ) : Except Error String :=
  (status payload sequence).bind fun _ =>
    if payload.length < 8 then .error (.trace s!"response {sequence}: handshake has no identity string")
    else if payload.length < 8 + ofLE ((payload.drop 4).take 4) then
      .error (.trace s!"response {sequence}: truncated handshake identity string")
    else
      match String.fromUTF8? ⟨((payload.drop 8).take (ofLE ((payload.drop 4).take 4))).toArray⟩ with
      | none => .error (.trace s!"response {sequence}: handshake identity is not UTF-8")
      | some digest => .ok digest

/-- Where two payloads begin to differ. -/
def mismatch : List UInt8 → List UInt8 → ℕ
  | x :: xs, y :: ys => if x = y then mismatch xs ys + 1 else 0
  | _, _ => 0

def verifyResponse (record : Record) (actual : Message) (mode : Verify) (commandDigest : String) :
    Except Error Unit :=
  let sequence := record.sequence
  if (actual.opcode.toNat : ℤ) ≠ record.opcode then
    .error (.trace s!"response {sequence}: opcode mismatch: expected {record.opcode}, got {actual.opcode}")
  else if mode = .exact ∨ record.opcode = 3 then
    if actual.payload ≠ record.payload then
      let index := mismatch record.payload actual.payload
      .error (.trace (s!"response {sequence}: payload mismatch at byte {index}; expected " ++
        s!"{record.payload.length} bytes, got {actual.payload.length}"))
    else .ok ()
  else
    (status record.payload sequence).bind fun expectedStatus =>
      (status actual.payload sequence).bind fun actualStatus =>
        if actualStatus ≠ expectedStatus then
          .error (.trace (s!"response {sequence}: status mismatch: expected " ++
            s!"{expectedStatus}, got {actualStatus}"))
        else if record.opcode = 1 then
          (handshakeDigest record.payload sequence).bind fun expectedDigest =>
            (handshakeDigest actual.payload sequence).bind fun actualDigest =>
              if expectedDigest ≠ commandDigest then
                .error (.trace (s!"response {sequence}: recorded handshake identity " ++
                  s!"'{expectedDigest}' does not match trace metadata '{commandDigest}'"))
              else if actualDigest ≠ commandDigest then
                .error (.trace (s!"response {sequence}: handshake identity mismatch: expected " ++
                  s!"'{commandDigest}', got '{actualDigest}'"))
              else .ok ()
        else .ok ()

/-- The server a trace is replayed against: what becomes of it when a request is sent, and what the next
`recv_wire_message` finds (a message, the end of the stream, or an error such as a timeout). The flag says
that the replay has shut down its sending side. -/
structure Target (σ : Type) where
  send : σ → Message → Except Error σ
  next : Bool → σ → Except Error (Option Message) × σ

section

variable {σ : Type} (target : Target σ) (maxPayload : ℕ)

def recvWireMessage (shut : Bool) (s : σ) : Except Error (Option Message) :=
  (target.next shut s).1.bind fun found =>
    match found with
    | none => .ok none
    | some m =>
      if maxPayload < m.payload.length then
        .error (.trace s!"wire payload {m.payload.length} exceeds {maxPayload} bytes")
      else .ok (some m)

variable (mode : Verify) (commandDigest : String)

/-- The loop over the records; it returns the pairs that were compared. -/
def replayRecords : List Record → σ → Except Error (List (Record × Message) × σ)
  | [], s => .ok ([], s)
  | r :: rs, s =>
    if r.direction = clientToServer then (target.send s r.message).bind (replayRecords rs)
    else
      (recvWireMessage target maxPayload false s).bind fun actual =>
        match actual with
        | none => .error (.trace s!"response {r.sequence}: target closed before opcode {r.opcode}")
        | some m =>
          if (m.requestId.toNat : ℤ) ≠ r.requestId then
            .error (.trace (s!"response {r.sequence}: request ID mismatch: expected " ++
              s!"{r.requestId}, got {m.requestId}"))
          else
            (verifyResponse r m mode commandDigest).bind fun _ =>
              (replayRecords rs (target.next false s).2).bind fun done =>
                .ok ((r, m) :: done.1, done.2)

def runReplay (records : List Record) (s : σ) : Except Error (List (Record × Message)) :=
  (replayRecords target maxPayload mode commandDigest records s).bind fun done =>
    (recvWireMessage target maxPayload true done.2).bind fun unexpected =>
      match unexpected with
      | some m =>
        .error (.trace (s!"unexpected response after trace: opcode {m.opcode}, " ++
          s!"request ID {m.requestId}, {m.payload.length} bytes"))
      | none => .ok done.1

end

/-! ### What a success means -/

/-- The conversation of a replay: the requests go out as recorded, and `ms` is all that comes back. -/
inductive Conversed {σ : Type} (target : Target σ) : σ → List Record → List Message → σ → Prop
  | nil {s : σ} : Conversed target s [] [] s
  | send {s s₁ s₂ : σ} {r : Record} {rs : List Record} {ms : List Message} :
      r.direction = clientToServer → target.send s r.message = .ok s₁ → Conversed target s₁ rs ms s₂ →
      Conversed target s (r :: rs) ms s₂
  | recv {s s₁ s₂ : σ} {r : Record} {rs : List Record} {m : Message} {ms : List Message} :
      r.direction ≠ clientToServer → target.next false s = (.ok (some m), s₁) →
      Conversed target s₁ rs ms s₂ → Conversed target s (r :: rs) (m :: ms) s₂

def responses (rs : List Record) : List Record := rs.filter (·.direction ≠ clientToServer)

/-- The reply is the one the record asks for, as far as it is verified. -/
def Compared (mode : Verify) (commandDigest : String) (p : Record × Message) : Prop :=
  (p.2.requestId.toNat : ℤ) = p.1.requestId ∧ (p.2.opcode.toNat : ℤ) = p.1.opcode ∧
    verifyResponse p.1 p.2 mode commandDigest = .ok ()

section

variable {σ : Type} {target : Target σ} {maxPayload : ℕ} {mode : Verify} {commandDigest : String}
variable {rs : List Record} {s s' : σ} {pairs : List (Record × Message)}

theorem opcode_of_verified {r : Record} {m : Message} (h : verifyResponse r m mode commandDigest = .ok ()) :
    (m.opcode.toNat : ℤ) = r.opcode := by
  by_contra hne
  rw [verifyResponse, if_pos hne] at h
  cases h

theorem recvWireMessage_eq_some {shut : Bool} {m : Message}
    (h : recvWireMessage target maxPayload shut s = .ok (some m)) : (target.next shut s).1 = .ok (some m) := by
  obtain ⟨found, hfound, hm⟩ := Except.bind_eq_ok_iff.1 h
  cases found with
  | none => cases hm
  | some x =>
    dsimp only at hm
    split at hm
    · cases hm
    · rwa [Option.some.inj (Except.ok.inj hm)] at hfound

theorem recvWireMessage_eq_none {shut : Bool} (h : recvWireMessage target maxPayload shut s = .ok none) :
    (target.next shut s).1 = .ok none := by
  obtain ⟨found, hfound, hm⟩ := Except.bind_eq_ok_iff.1 h
  cases found with
  | none => exact hfound
  | some x =>
    dsimp only at hm
    split at hm <;> cases hm

theorem replayRecords_ok
    (h : replayRecords target maxPayload mode commandDigest rs s = .ok (pairs, s')) :
    Conversed target s rs (pairs.map Prod.snd) s' ∧ pairs.map Prod.fst = responses rs ∧
      ∀ p ∈ pairs, Compared mode commandDigest p := by
  induction rs generalizing s pairs with
  | nil =>
    obtain ⟨rfl, rfl⟩ := Prod.mk.inj (Except.ok.inj h)
    exact ⟨.nil, rfl, fun p hp => by cases hp⟩
  | cons r rs ih =>
    rw [replayRecords] at h
    by_cases hdir : r.direction = clientToServer
    · rw [if_pos hdir] at h
      obtain ⟨s₁, hs₁, hrest⟩ := Except.bind_eq_ok_iff.1 h
      obtain ⟨hconv, hfst, hall⟩ := ih hrest
      exact ⟨.send hdir hs₁ hconv, by rw [hfst]; simp [responses, hdir], hall⟩
    · rw [if_neg hdir] at h
      obtain ⟨actual, hactual, h⟩ := Except.bind_eq_ok_iff.1 h
      cases actual with
      | none => cases h
      | some m =>
        dsimp only at h
        split at h
        · cases h
        · next hid =>
          obtain ⟨_, hv, h⟩ := Except.bind_eq_ok_iff.1 h
          obtain ⟨⟨pairs', s₂⟩, hrest, h⟩ := Except.bind_eq_ok_iff.1 h
          obtain ⟨rfl, rfl⟩ := Prod.mk.inj (Except.ok.inj h)
          obtain ⟨hconv, hfst, hall⟩ := ih hrest
          have hnext := recvWireMessage_eq_some hactual
          refine ⟨.recv hdir (Prod.ext hnext rfl) hconv, ?_, ?_⟩
          · rw [List.map_cons, hfst]
            simp [responses, hdir]
          · intro p hp
            rcases List.mem_cons.1 hp with rfl | hp
            · exact ⟨not_not.1 hid, opcode_of_verified hv, hv⟩
            · exact hall p hp

/-- A replay that succeeds compared every recorded response with one reply, with the same id and opcode, and
every reply it got with a response; then the stream ended. -/
theorem runReplay_ok {records : List Record}
    (h : runReplay target maxPayload mode commandDigest records s = .ok pairs) :
    ∃ s', Conversed target s records (pairs.map Prod.snd) s' ∧ (target.next true s').1 = .ok none ∧
      pairs.map Prod.fst = responses records ∧ ∀ p ∈ pairs, Compared mode commandDigest p := by
  obtain ⟨⟨pairs', s'⟩, hdone, h⟩ := Except.bind_eq_ok_iff.1 h
  obtain ⟨unexpected, hun, h⟩ := Except.bind_eq_ok_iff.1 h
  cases unexpected with
  | some m => cases h
  | none =>
    obtain rfl := Except.ok.inj h
    obtain ⟨hconv, hfst, hall⟩ := replayRecords_ok hdone
    exact ⟨s', hconv, recvWireMessage_eq_none hun, hfst, hall⟩

end

/-! ### A server that answers with the recorded replies -/

/-- The replies that are owed, and which of them goes out at each turn. -/
structure Answers where
  owed : List Message := []
  choices : List ℕ := []
  deriving DecidableEq

def replyTo (records : List Record) (id : UInt64) : Option Message :=
  ((responses records).find? fun r => r.message.requestId = id).map Record.message

/-- Each request is answered with the recorded reply for its id, in any order; the stream is ended once
nothing is owed and the replay has shut down its side. The target goes on taking requests while its replies are
unread: only so does every `sendall` come to an end. -/
def answers (records : List Record) : Target Answers where
  send s m := .ok { s with owed := s.owed ++ (replyTo records m.requestId).toList }
  next shut s :=
    match s.owed with
    | [] => (if shut then .ok none else .error (.trace "timed out reading wire header"), s)
    | m :: ms =>
      let i := s.choices.headD 0 % (m :: ms).length
      (.ok ((m :: ms)[i]?), { owed := (m :: ms).eraseIdx i, choices := s.choices.tail })

/-- Whenever a response was recorded its request was the only answered one outstanding. -/
def Serial (records : List Record) : List Message → List Record → Prop
  | owed, [] => owed = []
  | owed, r :: rs =>
    if r.direction = clientToServer then
      Serial records (owed ++ (replyTo records r.message.requestId).toList) rs
    else owed = [r.message] ∧ Serial records [] rs

/-- The ids of the requests that the recording has a reply for. -/
def answeredIds (records rs : List Record) : List UInt64 :=
  ((rs.filter (·.direction = clientToServer)).map fun r => r.message.requestId).filter fun id =>
    (replyTo records id).isSome

/-- A recorded connection: what `read_trace` returns, with an id for each request that is answered and one
reply for each id. -/
structure Connection (limits : Limits) (records : List Record) : Prop where
  acceptable : AllAcceptable limits 0 records
  requests : (answeredIds records records).Nodup
  replies : ((responses records).map fun r => r.message.requestId).Nodup

section

variable {limits : Limits} {mode : Verify} {commandDigest : String} {records rs : List Record}
variable {owed : List Message} {choices : List ℕ} {r : Record} {m : Message}

theorem requestId_of_replyTo {id : UInt64} (h : replyTo records id = some m) : m.requestId = id := by
  obtain ⟨r, hr, rfl⟩ := Option.map_eq_some_iff.1 h
  simpa using List.find?_some hr

theorem replyTo_response (hc : Connection limits records) (hr : r ∈ responses records) :
    replyTo records r.message.requestId = some r.message := by
  have hfind : (responses records).find? (fun x => x.message.requestId = r.message.requestId) = some r :=
    find?_of_nodup hc.replies hr
  rw [replyTo, hfind]
  rfl

/-- What is owed at a point of the recording with `rs` to come. -/
structure Owing (records rs : List Record) (owed : List Message) : Prop where
  distinct : (owed.map (·.requestId) ++ answeredIds records rs).Nodup
  recorded : ∀ m ∈ owed, replyTo records m.requestId = some m

theorem Owing.request (ho : Owing records (r :: rs) owed) (hdir : r.direction = clientToServer) :
    Owing records rs (owed ++ (replyTo records r.message.requestId).toList) := by
  obtain ⟨hd, hrec⟩ := ho
  cases hreply : replyTo records r.message.requestId with
  | none =>
    have hids : answeredIds records (r :: rs) = answeredIds records rs := by
      simp [answeredIds, hdir, hreply]
    rw [hids] at hd
    simpa using ⟨hd, hrec⟩
  | some m =>
    have hm := requestId_of_replyTo hreply
    have hids : answeredIds records (r :: rs) = m.requestId :: answeredIds records rs := by
      simp [answeredIds, hdir, hreply, hm]
    rw [hids] at hd
    refine ⟨by simpa using hd, fun x hx => ?_⟩
    rcases List.mem_append.1 hx with hx | hx
    · exact hrec x hx
    · obtain rfl : x = m := by simpa using hx
      rw [hm]
      exact hreply

theorem Owing.response (ho : Owing records (r :: rs) owed) (hdir : r.direction ≠ clientToServer) :
    Owing records rs [] := by
  have hids : answeredIds records (r :: rs) = answeredIds records rs := by simp [answeredIds, hdir]
  have hd := ho.distinct
  rw [hids] at hd
  exact ⟨(List.nodup_append.1 hd).2.1, fun m hm => by cases hm⟩

theorem requestId_message' {i : ℕ} (ha : Acceptable limits i r) (hid : (m.requestId.toNat : ℤ) = r.requestId) :
    m.requestId = r.message.requestId := by
  have hmsg := requestId_message ha
  apply UInt64.toNat_inj.1
  omega

theorem bounded_of_replyTo (hc : Connection limits records) {id : UInt64} (h : replyTo records id = some m) :
    m.payload.length ≤ limits.maxPayload := by
  obtain ⟨r, hr, rfl⟩ := Option.map_eq_some_iff.1 h
  obtain ⟨i, ha⟩ := acceptable_of_mem hc.acceptable (List.mem_filter.1 (List.mem_of_find?_eq_some hr)).1
  exact ha.bounded

theorem next_answers {shut : Bool} (hne : owed ≠ []) : ((answers records).next shut ⟨owed, choices⟩) =
    (.ok owed[choices.headD 0 % owed.length]?,
      ⟨owed.eraseIdx (choices.headD 0 % owed.length), choices.tail⟩) := by
  cases owed with
  | nil => exact absurd rfl hne
  | cons m ms => rfl

/-- The replay goes on exactly where the reply that comes is the one for the next response. -/
theorem replay_response (hc : Connection limits records) (ho : Owing records (r :: rs) owed)
    (hr : r ∈ records) (hdir : r.direction ≠ clientToServer) {pairs : List (Record × Message)}
    {s' : Answers} :
    replayRecords (answers records) limits.maxPayload mode commandDigest (r :: rs) ⟨owed, choices⟩ =
        .ok (pairs, s') ↔
      owed[choices.headD 0 % owed.length]? = some r.message ∧
        verifyResponse r r.message mode commandDigest = .ok () ∧
        ∃ pairs', replayRecords (answers records) limits.maxPayload mode commandDigest rs
            ⟨owed.eraseIdx (choices.headD 0 % owed.length), choices.tail⟩ = .ok (pairs', s') ∧
          (r, r.message) :: pairs' = pairs := by
  obtain ⟨i, ha⟩ := acceptable_of_mem hc.acceptable hr
  rw [replayRecords, if_neg hdir]
  by_cases hne : owed = []
  · subst hne
    simp [recvWireMessage, answers, Except.bind]
  · have hlt : choices.headD 0 % owed.length < owed.length := Nat.mod_lt _ (List.length_pos_of_ne_nil hne)
    obtain ⟨x, hx⟩ : ∃ x, owed[choices.headD 0 % owed.length]? = some x :=
      ⟨_, List.getElem?_eq_getElem hlt⟩
    have hrec := ho.recorded x (List.mem_of_getElem? hx)
    have hcap : ¬ limits.maxPayload < x.payload.length := Nat.not_lt.2 (bounded_of_replyTo hc hrec)
    have hrecv : recvWireMessage (answers records) limits.maxPayload false ⟨owed, choices⟩ = .ok (some x) := by
      rw [recvWireMessage, next_answers hne, hx]
      exact if_neg hcap
    rw [hrecv, next_answers hne, hx]
    simp only [Except.bind_eq_ok_iff]
    constructor
    · rintro ⟨actual, hactual, h⟩
      obtain rfl := Except.ok.inj hactual
      dsimp only at h
      split at h
      · cases h
      · next hid =>
        have hmsg : x = r.message := by
          have heq := requestId_message' ha (not_not.1 hid)
          rw [heq] at hrec
          exact Option.some.inj (hrec.symm.trans (replyTo_response hc (List.mem_filter.2 ⟨hr, by simpa using hdir⟩)))
        subst hmsg
        obtain ⟨_, hv, h⟩ := Except.bind_eq_ok_iff.1 h
        obtain ⟨⟨pairs', s₂⟩, hrest, h⟩ := Except.bind_eq_ok_iff.1 h
        obtain ⟨hp, rfl⟩ := Prod.mk.inj (Except.ok.inj h)
        exact ⟨rfl, hv, pairs', hrest, hp⟩
    · rintro ⟨hmsg, hv, pairs', hrest, rfl⟩
      obtain rfl := Option.some.inj hmsg
      refine ⟨_, rfl, ?_⟩
      dsimp only
      rw [if_neg (not_not.2 (requestId_message ha)), hv]
      exact Except.bind_eq_ok_iff.2 ⟨(), rfl, Except.bind_eq_ok_iff.2 ⟨(pairs', s'), hrest, rfl⟩⟩

/-- With two replies owed the one that is not asked for may come first. -/
theorem owed_eq_singleton (hd : (owed.map (·.requestId)).Nodup)
    (h : ∀ c : ℕ, owed[c % owed.length]? = some m) : owed = [m] := by
  have h0 := h 0
  rw [Nat.zero_mod] at h0
  cases owed with
  | nil => cases h0
  | cons x xs =>
    obtain rfl : x = m := by simpa using h0
    cases xs with
    | nil => rfl
    | cons y ys =>
      have h1 := h 1
      rw [Nat.mod_eq_of_lt (by simp)] at h1
      obtain rfl : y = x := by simpa using h1
      simp at hd

theorem replayRecords_all_iff (hc : Connection limits records) (ho : Owing records rs owed)
    (hsub : ∀ r ∈ rs, r ∈ records) :
    (∀ choices, ∃ pairs s', replayRecords (answers records) limits.maxPayload mode commandDigest rs
        ⟨owed, choices⟩ = .ok (pairs, s') ∧ s'.owed = []) ↔
      Serial records owed rs ∧ ∀ r ∈ responses rs, verifyResponse r r.message mode commandDigest = .ok () := by
  induction rs generalizing owed with
  | nil =>
    constructor
    · intro h
      obtain ⟨pairs, s', hs', hnil⟩ := h []
      obtain ⟨-, rfl⟩ := Prod.mk.inj (Except.ok.inj hs')
      exact ⟨hnil, fun r hr => by cases hr⟩
    · rintro ⟨rfl, -⟩ choices
      exact ⟨[], _, rfl, rfl⟩
  | cons r rs ih =>
    have hsub' : ∀ x ∈ rs, x ∈ records := fun x hx => hsub x (List.mem_cons_of_mem _ hx)
    by_cases hdir : r.direction = clientToServer
    · have hresp : responses (r :: rs) = responses rs := by simp [responses, hdir]
      rw [hresp, Serial, if_pos hdir, ← ih (ho.request hdir) hsub']
      simp only [replayRecords, if_pos hdir]
      rfl
    · have hresp : responses (r :: rs) = r :: responses rs := by simp [responses, hdir]
      have hr := hsub r List.mem_cons_self
      rw [hresp, Serial, if_neg hdir, List.forall_mem_cons]
      have hrest := ih (ho.response hdir) hsub'
      simp only [replay_response hc ho hr hdir]
      constructor
      · intro h
        have howed : owed = [r.message] := by
          refine owed_eq_singleton (List.nodup_append.1 ho.distinct).1 fun c => ?_
          obtain ⟨_, _, ⟨hc, -⟩, -⟩ := h [c]
          exact hc
        have hv : verifyResponse r r.message mode commandDigest = .ok () := by
          obtain ⟨_, _, ⟨-, hv, -⟩, -⟩ := h []
          exact hv
        have hnext : ∀ choices, ∃ pairs s', replayRecords (answers records) limits.maxPayload mode
            commandDigest rs ⟨[], choices⟩ = .ok (pairs, s') ∧ s'.owed = [] := by
          intro choices
          obtain ⟨_, s', ⟨-, -, pairs', hpairs, -⟩, hnil⟩ := h (0 :: choices)
          rw [howed] at hpairs
          exact ⟨pairs', s', hpairs, hnil⟩
        obtain ⟨hserial, hall⟩ := hrest.1 hnext
        exact ⟨⟨howed, hserial⟩, hv, hall⟩
      · rintro ⟨⟨rfl, hserial⟩, hv, hall⟩ choices
        obtain ⟨pairs', s', hpairs, hnil⟩ := hrest.2 ⟨hserial, hall⟩ choices.tail
        refine ⟨_, s', ⟨?_, hv, pairs', ?_, rfl⟩, hnil⟩
        · rw [List.length_singleton, Nat.mod_one]
          rfl
        · rw [List.length_singleton, Nat.mod_one]
          exact hpairs

theorem runReplay_isOk_iff {s : Answers} :
    (∃ pairs, runReplay (answers records) limits.maxPayload mode commandDigest records s = .ok pairs) ↔
      ∃ pairs s', replayRecords (answers records) limits.maxPayload mode commandDigest records s =
        .ok (pairs, s') ∧ s'.owed = [] := by
  constructor
  · rintro ⟨pairs, h⟩
    obtain ⟨⟨pairs', s'⟩, hdone, h⟩ := Except.bind_eq_ok_iff.1 h
    obtain ⟨unexpected, hun, h⟩ := Except.bind_eq_ok_iff.1 h
    refine ⟨pairs', s', hdone, ?_⟩
    cases unexpected with
    | some m => cases h
    | none =>
      by_contra hne
      have hnext := recvWireMessage_eq_none hun
      have hlt : s'.choices.headD 0 % s'.owed.length < s'.owed.length :=
        Nat.mod_lt _ (List.length_pos_of_ne_nil hne)
      rw [next_answers hne, List.getElem?_eq_getElem hlt] at hnext
      cases hnext
  · rintro ⟨pairs, s', hdone, hnil⟩
    have hun : recvWireMessage (answers records) limits.maxPayload true s' = .ok none := by
      obtain ⟨owed, choices⟩ := s'
      obtain rfl : owed = [] := hnil
      rfl
    refine ⟨pairs, Except.bind_eq_ok_iff.2 ⟨_, hdone, Except.bind_eq_ok_iff.2 ⟨none, hun, rfl⟩⟩⟩

end

/-- Replay against a server that answers every request with its recorded reply succeeds in whatever order
the replies come exactly where no response was recorded with another answered request outstanding (and the
recorded responses pass their own verification). Whatever it is replayed against, a success compared each
recorded response with one reply of its id and opcode and left none over. -/
theorem replay_order (limits : Limits) (records : List Record) (mode : Verify) (commandDigest : String) :
    (Connection limits records →
      ((∀ choices, ∃ pairs, runReplay (answers records) limits.maxPayload mode commandDigest records
          ⟨[], choices⟩ = .ok pairs) ↔
        Serial records [] records ∧
          ∀ r ∈ responses records, verifyResponse r r.message mode commandDigest = .ok ())) ∧
    ∀ (σ : Type) (target : Target σ) (s : σ) (pairs : List (Record × Message)),
      runReplay target limits.maxPayload mode commandDigest records s = .ok pairs →
        ∃ s', Conversed target s records (pairs.map Prod.snd) s' ∧ (target.next true s').1 = .ok none ∧
          pairs.map Prod.fst = responses records ∧ ∀ p ∈ pairs, Compared mode commandDigest p := by
  refine ⟨fun hc => ?_, fun σ target s pairs => runReplay_ok⟩
  have ho : Owing records records [] := ⟨by simpa using hc.requests, fun m hm => by cases hm⟩
  rw [← replayRecords_all_iff hc ho fun r hr => hr]
  exact forall_congr' fun choices => runReplay_isOk_iff

/-- A record of a small request or reply is one `read_trace` returns. -/
theorem acceptable_small {count : ℕ} {r : Record} (hseq : r.sequence = count) (hcount : count < 4)
    (hdir : r.direction = clientToServer ∨ r.direction = serverToClient)
    (hop : 0 ≤ r.opcode ∧ r.opcode < 100) (hpay : r.payload.length ≤ 4)
    (hid : 0 ≤ r.requestId ∧ r.requestId < 100) : Acceptable {} count r where
  count_lt := by omega
  direction := by
    unfold clientToServer serverToClient at hdir
    omega
  opcode := by omega
  payload := by omega
  requestId := by omega
  within := Nat.lt_trans hcount (by decide)
  sequence := hseq
  either := hdir
  bounded := hpay.trans (by decide)

theorem exchanged_connection : Connection {} exchanged where
  acceptable := ⟨acceptable_small rfl (by decide) (.inl rfl) (by decide) (by decide) (by decide),
    acceptable_small rfl (by decide) (.inr rfl) (by decide) (by decide) (by decide), trivial⟩
  requests := by decide
  replies := by decide

theorem exchanged_serial : Serial exchanged [] exchanged := ⟨by decide, rfl⟩

theorem replay_order_exchanged :
    (∀ choices, ∃ pairs, runReplay (answers exchanged) (64 * 1024 * 1024) .outputs "" exchanged
      ⟨[], choices⟩ = .ok pairs) ∧
    ∃ s', Conversed (answers exchanged) ⟨[], []⟩ exchanged [response] s' ∧
      ((answers exchanged).next true s').1 = .ok none := by
  have hverify : ∀ r ∈ responses exchanged, verifyResponse r r.message .outputs "" = .ok () := by
    intro r hr
    obtain rfl : r = ⟨1, serverToClient, 40, [0, 0, 0, 0], 7⟩ := by
      simpa [responses, exchanged, clientToServer, serverToClient] using hr
    rfl
  have hok : runReplay (answers exchanged) (64 * 1024 * 1024) .outputs "" exchanged ⟨[], []⟩ =
      .ok [(⟨1, serverToClient, 40, [0, 0, 0, 0], 7⟩, response)] := rfl
  obtain ⟨hiff, hsuccess⟩ := replay_order {} exchanged .outputs ""
  obtain ⟨s', hconv, hend, -⟩ := hsuccess Answers (answers exchanged) ⟨[], []⟩ _ hok
  exact ⟨(hiff exchanged_connection).2 ⟨exchanged_serial, hverify⟩, s', hconv, hend⟩

/-- Two requests go out before the first reply. -/
def twoOutstanding : List Record :=
  [⟨0, clientToServer, 40, [1], 7⟩, ⟨1, clientToServer, 40, [2], 8⟩,
    ⟨2, serverToClient, 40, [0, 0, 0, 0], 7⟩, ⟨3, serverToClient, 40, [0, 0, 0, 0], 8⟩]

/-- With both outstanding the server may answer the second one first, and the replay fails. -/
theorem replay_fails_reordered : Connection {} twoOutstanding ∧
    (∀ r ∈ responses twoOutstanding, verifyResponse r r.message .outputs "" = .ok ()) ∧
    ∀ pairs, runReplay (answers twoOutstanding) (64 * 1024 * 1024) .outputs "" twoOutstanding
      ⟨[], [1]⟩ ≠ .ok pairs := by
  refine ⟨⟨⟨?_, ?_, ?_, ?_, trivial⟩, by decide, by decide⟩, fun r hr => ?_, fun pairs h => ?_⟩
  · exact acceptable_small rfl (by decide) (.inl rfl) (by decide) (by decide) (by decide)
  · exact acceptable_small rfl (by decide) (.inl rfl) (by decide) (by decide) (by decide)
  · exact acceptable_small rfl (by decide) (.inr rfl) (by decide) (by decide) (by decide)
  · exact acceptable_small rfl (by decide) (.inr rfl) (by decide) (by decide) (by decide)
  · obtain rfl | rfl : r = ⟨2, serverToClient, 40, [0, 0, 0, 0], 7⟩ ∨
        r = ⟨3, serverToClient, 40, [0, 0, 0, 0], 8⟩ := by
      simpa [responses, twoOutstanding, clientToServer, serverToClient] using hr
    · rfl
    · rfl
  · cases h

end VkRemote.Tools
