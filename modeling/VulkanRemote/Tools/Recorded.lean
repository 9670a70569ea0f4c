import VulkanRemote.Lib.PrefixCode
import VulkanRemote.Tools.Recording

/-! What a finished recording holds: every message that was sent on, in order, each response behind its
request, and nothing `write_trace` would refuse for its size. -/

namespace VkRemote.Tools

open Lib
open Wire (Message headerSize headerOpcode headerSizeField headerRequestId)

/-- A header says which message it begins. -/
theorem bytes_prefixFree : PrefixFree Message.bytes fun m => m.payload.length < 2 ^ 32 := by
  intro a b s t ha hb h
  rw [Message.bytes, Message.bytes, List.append_assoc, List.append_assoc] at h
  obtain ⟨hhead, hrest⟩ := List.append_inj h (by rw [Message.length_header, Message.length_header])
  have hsize := congrArg headerSizeField hhead
  rw [Wire.headerSizeField_header ha, Wire.headerSizeField_header hb] at hsize
  obtain ⟨hpayload, htail⟩ := List.append_inj hrest hsize
  have hop := congrArg headerOpcode hhead
  rw [Wire.headerOpcode_header, Wire.headerOpcode_header] at hop
  have hid := congrArg headerRequestId hhead
  rw [Wire.headerRequestId_header, Wire.headerRequestId_header] at hid
  cases a
  cases b
  simp_all

theorem bytes_ne_nil (m : Message) : m.bytes ≠ [] := by
  intro h
  have hlen := congrArg List.length h
  rw [Message.length_bytes] at hlen
  unfold headerSize at hlen
  simp at hlen

/-- What was read as a header and a payload is a message's bytes. -/
theorem bytes_of_parts {h payload : List UInt8} (hh : h.length = headerSize)
    (hp : payload.length = headerSizeField h) :
    (Message.mk (headerOpcode h) (headerRequestId h) payload).bytes = h ++ payload := by
  have hfour (k : ℕ) (hk : k + 4 ≤ 16) : toLE 4 (ofLE ((h.drop k).take 4)) = (h.drop k).take 4 := by
    have hlen : ((h.drop k).take 4).length = 4 := by
      rw [List.length_take, List.length_drop, hh, headerSize]
      omega
    have hback := toLE_ofLE ((h.drop k).take 4)
    rwa [hlen] at hback
  have hid : toLE 8 (headerRequestId h).toNat = h.drop 8 := by
    have hlen : (h.drop 8).length = 8 := by
      rw [List.length_drop, hh, headerSize]
    have hlt := ofLE_lt (h.drop 8)
    have hback := toLE_ofLE (h.drop 8)
    rw [hlen] at hlt hback
    rw [headerRequestId, UInt64.toNat_ofNat_of_lt' hlt, hback]
  have hop : toLE 4 (headerOpcode h).toNat = h.take 4 := by
    have hlt := ofLE_lt (h.take 4)
    rw [List.length_take, hh, headerSize] at hlt
    have hback := hfour 0 (by decide)
    rw [List.drop_zero] at hback
    rw [headerOpcode, UInt32.toNat_ofNat_of_lt' hlt, hback]
  have hsplit : h.take 4 ++ (h.drop 4).take 4 ++ h.drop 8 = h := by
    have htake : h.take 4 ++ (h.drop 4).take 4 = h.take 8 := (List.take_add (i := 4) (j := 4)).symm
    rw [htake, List.take_append_drop]
  rw [Message.bytes, Message.header, hop, hid, hp, headerSizeField, hfour 4 (by decide), hsplit]

theorem headerSizeField_lt (h : List UInt8) : headerSizeField h < 2 ^ 32 := by
  have hlt := ofLE_lt ((h.drop 4).take 4)
  have hlen : ((h.drop 4).take 4).length ≤ 4 := List.length_take_le _ _
  have hpow : 256 ^ ((h.drop 4).take 4).length ≤ 256 ^ 4 := Nat.pow_le_pow_right (by decide) hlen
  exact lt_of_lt_of_le hlt hpow

/-- The message a record was made from. -/
def Record.message (r : Record) : Message where
  opcode := UInt32.ofNat r.opcode.toNat
  requestId := UInt64.ofNat r.requestId.toNat
  payload := r.payload

@[simp] theorem message_record (s : Recorder) (d : Direction) (m : Message) : (s.record d m).message = m := by
  simp [Recorder.record, Record.message]

def recordsOf (d : Direction) (rs : List Record) : List Record := rs.filter (·.direction = d.code)

/-- The records of one direction as they travelled. -/
def wire (d : Direction) (rs : List Record) : List UInt8 := (recordsOf d rs).flatMap fun r => r.message.bytes

theorem wire_append_same (s : Recorder) (d : Direction) (m : Message) (rs : List Record) :
    wire d (rs ++ [s.record d m]) = wire d rs ++ m.bytes := by
  simp [wire, recordsOf, Recorder.record, Record.message]

theorem wire_append_other (s : Recorder) {d x : Direction} (m : Message) (rs : List Record) (hx : x ≠ d) :
    wire x (rs ++ [s.record d m]) = wire x rs := by
  have hcode : d.code ≠ x.code := by
    cases d <;> cases x <;> simp_all [Direction.code, clientToServer, serverToClient]
  simp [wire, recordsOf, Recorder.record, hcode]

/-- What a thread has received of a message and not yet recorded, and what it has recorded and not sent. -/
def Phase.consumed : Phase → List UInt8
  | .header got => got
  | .payload h got => h ++ got
  | .recording m => m.bytes
  | _ => []

def Phase.unsent : Phase → List UInt8
  | .sending _ rest => rest
  | _ => []

def Phase.Valid (limits : Limits) : Phase → Prop
  | .header got => got.length < headerSize
  | .payload h got => h.length = headerSize ∧ got.length < headerSizeField h ∧
      headerSizeField h ≤ limits.maxPayload
  | .recording m => m.payload.length ≤ limits.maxPayload ∧ m.payload.length < 2 ^ 32
  | _ => True

/-- The thread has lost nothing: `bytes` is what its direction has recorded, `raised` that some thread has
failed. -/
structure Kept (limits : Limits) (bytes : List UInt8) (raised : Prop) (r : Relay) : Prop where
  received : r.phase ≠ .failed → r.written = bytes ++ r.phase.consumed ++ r.pending
  sent : ∃ rest, r.delivered ++ rest = bytes ∧ (r.phase ≠ .failed → rest = r.phase.unsent)
  valid : r.phase.Valid limits
  failed : r.phase = .failed → raised
  finished : r.phase = .finished → raised ∨ (r.pending = [] ∧ r.closed = true)

section

variable {limits : Limits} {bytes : List UInt8} {raised : Prop} {r : Relay}

theorem kept_start : Kept limits [] raised {} where
  received _ := rfl
  sent := ⟨[], rfl, fun _ => rfl⟩
  valid := trivial
  failed h := by cases h
  finished h := by cases h

theorem Kept.write (hk : Kept limits bytes raised r) (ho : r.closed = false) (data : List UInt8) :
    Kept limits bytes raised { r with written := r.written ++ data, pending := r.pending ++ data } where
  received h := by
    show r.written ++ data = bytes ++ r.phase.consumed ++ (r.pending ++ data)
    rw [hk.received h, List.append_assoc]
  sent := hk.sent
  valid := hk.valid
  failed := hk.failed
  finished h := (hk.finished h).imp_right fun hp => by rw [ho] at hp; cases hp.2

theorem Kept.close (hk : Kept limits bytes raised r) : Kept limits bytes raised { r with closed := true } where
  received := hk.received
  sent := hk.sent
  valid := hk.valid
  failed := hk.failed
  finished h := (hk.finished h).imp_right fun hp => ⟨hp.1, rfl⟩

/-- A move that takes in no byte and sends none. -/
theorem Kept.move (hk : Kept limits bytes raised r) {p : Phase} (hne : r.phase ≠ .failed)
    (hc : p.consumed = r.phase.consumed) (hu : p.unsent = r.phase.unsent) (hv : p.Valid limits)
    (hf : p ≠ .failed) (hfin : p = .finished → raised ∨ (r.pending = [] ∧ r.closed = true)) :
    Kept limits bytes raised { r with phase := p } where
  received _ := by rw [hk.received hne, hc]
  sent := by
    obtain ⟨rest, hrest, hun⟩ := hk.sent
    exact ⟨rest, hrest, fun _ => (hun hne).trans hu.symm⟩
  valid := hv
  failed h := absurd h hf
  finished := hfin

/-- A failing thread keeps what it has sent; the other one goes on. -/
theorem Kept.raise (hk : Kept limits bytes raised r) (fails : Bool) : Kept limits bytes True
    { r with closed := true, phase := if fails then .failed else r.phase } := by
  cases fails with
  | false => exact ⟨hk.received, hk.sent, hk.valid, fun _ => trivial, fun _ => .inl trivial⟩
  | true =>
    obtain ⟨rest, hrest, -⟩ := hk.sent
    exact ⟨fun h => absurd rfl h, ⟨rest, hrest, fun h => absurd rfl h⟩, trivial, fun _ => trivial,
      fun _ => .inl trivial⟩

/-- A chunk takes the thread on by just its bytes. -/
theorem received_ok {p p' : Phase} {chunk : List UInt8} (hv : p.Valid limits) (hpos : 0 < chunk.length)
    (hle : chunk.length ≤ p.wanted) (h : Tools.received limits chunk p = .ok p') :
    p'.consumed = p.consumed ++ chunk ∧ p'.unsent = p.unsent ∧ p'.Valid limits ∧
      p' ≠ .failed ∧ p' ≠ .finished := by
  cases p with
  | header got =>
    simp only [Tools.received] at h
    split at h
    · next hlen =>
      unfold afterHeader at h
      split at h
      · cases h
      · next hmax =>
        split at h
        · next hzero =>
          obtain rfl := Except.ok.inj h
          have hb : (Message.mk (headerOpcode (got ++ chunk)) (headerRequestId (got ++ chunk)) []).bytes =
              got ++ chunk ++ [] := bytes_of_parts hlen hzero.symm
          rw [List.append_nil] at hb
          exact ⟨hb, rfl, ⟨Nat.zero_le _, Nat.two_pow_pos 32⟩, by simp, by simp⟩
        · next hzero =>
          obtain rfl := Except.ok.inj h
          exact ⟨List.append_nil _, rfl, ⟨hlen, Nat.pos_of_ne_zero hzero, Nat.not_lt.1 hmax⟩, by simp,
            by simp⟩
    · next hlen =>
      obtain rfl := Except.ok.inj h
      refine ⟨rfl, rfl, ?_, by simp, by simp⟩
      have hv' : got.length < headerSize := hv
      have hle' : chunk.length ≤ headerSize - got.length := hle
      rw [List.length_append] at hlen
      show (got ++ chunk).length < headerSize
      rw [List.length_append]
      omega
  | payload hd got =>
    obtain ⟨hh, hgot, hmax⟩ := hv
    have hle' : chunk.length ≤ headerSizeField hd - got.length := hle
    simp only [Tools.received] at h
    split at h
    · next hlen =>
      obtain rfl := Except.ok.inj h
      refine ⟨(bytes_of_parts hh hlen).trans (List.append_assoc _ _ _).symm, rfl, ⟨?_, ?_⟩, by simp, by simp⟩
      · exact hlen.trans_le hmax
      · exact hlen.trans_lt (headerSizeField_lt hd)
    · next hlen =>
      obtain rfl := Except.ok.inj h
      refine ⟨(List.append_assoc _ _ _).symm, rfl, ⟨hh, ?_, hmax⟩, by simp, by simp⟩
      rw [List.length_append] at hlen ⊢
      omega
  | top | recording m | sending m rest | finished | failed =>
    have hzero : chunk.length ≤ 0 := hle
    omega

theorem Kept.recv (hk : Kept limits bytes raised r) {n : ℕ} (hpos : 0 < n) (hw : n ≤ r.phase.wanted)
    (hn : n ≤ r.pending.length) {p : Phase} (h : Tools.received limits (r.pending.take n) r.phase = .ok p) :
    Kept limits bytes raised { r with pending := r.pending.drop n, phase := p } := by
  have hlen : (r.pending.take n).length = n := by
    rw [List.length_take]
    omega
  obtain ⟨hc, hu, hv, hf, hfin⟩ := received_ok hk.valid (by omega) (by omega) h
  have hne : r.phase ≠ .failed := by
    intro heq
    rw [heq] at hw
    exact absurd hw (Nat.not_le.2 hpos)
  obtain ⟨rest, hrest, hun⟩ := hk.sent
  refine ⟨fun _ => ?_, ⟨rest, hrest, fun _ => (hun hne).trans hu.symm⟩, hv, fun h => absurd h hf,
    fun h => absurd h hfin⟩
  show r.written = bytes ++ p.consumed ++ r.pending.drop n
  rw [hk.received hne, hc, ← List.append_assoc, List.append_assoc _ (r.pending.take n),
    List.take_append_drop]

theorem Kept.send (hk : Kept limits bytes raised r) {m : Message} {rest : List UInt8} {n : ℕ}
    (hp : r.phase = .sending m rest) : Kept limits bytes raised
      { r with
        delivered := r.delivered ++ rest.take n
        phase := if rest.drop n = [] then .top else .sending m (rest.drop n) } := by
  have hne : r.phase ≠ .failed := by simp [hp]
  have hrec := hk.received hne
  obtain ⟨left, hleft, hun⟩ := hk.sent
  have hun' : left = rest := by simpa [hp, Phase.unsent] using hun hne
  rw [hp] at hrec
  refine ⟨fun _ => ?_, ⟨rest.drop n, ?_, fun _ => ?_⟩, ?_, fun h => ?_, fun h => ?_⟩
  · rw [hrec]
    split <;> rfl
  · rw [List.append_assoc, List.take_append_drop, ← hun', hleft]
  · dsimp only
    split
    · assumption
    · rfl
  · dsimp only
    split <;> trivial
  · dsimp only at h
    split at h <;> cases h
  · dsimp only at h
    split at h <;> cases h

end

theorem recordsSize_append (rs : List Record) (r : Record) :
    recordsSize (rs ++ [r]) = recordsSize rs + (recordHeaderSize + r.payload.length) := by
  induction rs with
  | nil => simp [recordsSize]
  | cons x rs ih =>
    rw [List.cons_append, recordsSize, ih, recordsSize]
    omega

theorem allAcceptable_append {limits : Limits} {count : ℕ} {rs : List Record} {r : Record}
    (h : AllAcceptable limits count rs) (hr : Acceptable limits (count + rs.length) r) :
    AllAcceptable limits count (rs ++ [r]) := by
  induction rs generalizing count with
  | nil => exact ⟨hr, trivial⟩
  | cons x rs ih =>
    refine ⟨h.1, ih h.2 ?_⟩
    rw [List.length_cons] at hr
    rwa [Nat.add_assoc, Nat.add_comm 1]

/-- What an action can do. -/
inductive Stepped (limits : Limits) (s : Recorder) : Action → Recorder → Prop
  | write {d : Direction} (bytes : List UInt8) : (s.relays d).closed = false →
      Stepped limits s (.write d bytes) (s.setRelay d { s.relays d with
        written := (s.relays d).written ++ bytes
        pending := (s.relays d).pending ++ bytes })
  | close (d : Direction) : Stepped limits s (.close d) (s.setRelay d { s.relays d with closed := true })
  | enter {d : Direction} : (s.relays d).phase = .top →
      Stepped limits s (.enter d) (s.setPhase d (if s.stop then .finished else .header []))
  | recv {d : Direction} {n : ℕ} {p : Phase} : 0 < n → n ≤ (s.relays d).phase.wanted →
      n ≤ (s.relays d).pending.length →
      received limits ((s.relays d).pending.take n) (s.relays d).phase = .ok p →
      Stepped limits s (.recv d n)
        (s.setRelay d { s.relays d with pending := (s.relays d).pending.drop n, phase := p })
  | refused {d : Direction} {n : ℕ} (e : Error) : Stepped limits s (.recv d n)
      ((s.setRelay d { s.relays d with pending := (s.relays d).pending.drop n }).raise d e)
  | ended {d : Direction} : (s.relays d).pending = [] → (s.relays d).closed = true →
      (s.relays d).phase = .header [] → Stepped limits s (.eof d) (s.setPhase d .finished)
  | cut {d : Direction} (e : Error) : Stepped limits s (.eof d) (s.raise d e)
  | append {d : Direction} {m : Message} : (s.relays d).phase = .recording m →
      Stepped limits s (.append d) (s.append limits d m)
  | send {d : Direction} {m : Message} {rest : List UInt8} (n : ℕ) :
      (s.relays d).phase = .sending m rest →
      Stepped limits s (.send d n) (s.setRelay d { s.relays d with
        delivered := (s.relays d).delivered ++ rest.take n
        phase := if rest.drop n = [] then .top else .sending m (rest.drop n) })
  | failed {d : Direction} (e : Error) : Stepped limits s (.fail d e) (s.raise d e)

theorem setPhase_setRelay (s : Recorder) (d : Direction) (r : Relay) (p : Phase) :
    (s.setRelay d r).setPhase d p = s.setRelay d { r with phase := p } := by
  simp [Recorder.setPhase, Recorder.setRelay]

theorem stepped_of_step {limits : Limits} {s s' : Recorder} {a : Action} (h : step limits s a = some s') :
    Stepped limits s a s' := by
  cases a with
  | write d bytes =>
    simp only [step] at h
    split at h
    · cases h
    · next hc =>
      obtain rfl := Option.some.inj h
      exact .write bytes (by simpa using hc)
  | close d =>
    obtain rfl := Option.some.inj h
    exact .close d
  | enter d =>
    simp only [step] at h
    split at h
    · next hp =>
      obtain rfl := Option.some.inj h
      exact .enter hp
    · cases h
  | recv d n =>
    simp only [step] at h
    split at h
    · next hg =>
      split at h
      · next p hp =>
        obtain rfl := Option.some.inj h
        rw [setPhase_setRelay]
        exact .recv hg.1 hg.2.1 hg.2.2 hp
      · obtain rfl := Option.some.inj h
        exact .refused _
    · cases h
  | eof d =>
    simp only [step] at h
    split at h
    · next hg =>
      split at h
      · next got hp =>
        split at h
        · next hgot =>
          obtain rfl := Option.some.inj h
          rw [hgot] at hp
          exact .ended hg.1 hg.2 hp
        · obtain rfl := Option.some.inj h
          exact .cut _
      · obtain rfl := Option.some.inj h
        exact .cut _
      · cases h
    · cases h
  | append d =>
    simp only [step] at h
    split at h
    · next m hm =>
      obtain rfl := Option.some.inj h
      exact .append hm
    · cases h
  | send d n =>
    simp only [step] at h
    split at h
    · next m rest hm =>
      split at h
      · obtain rfl := Option.some.inj h
        exact .send n hm
      · cases h
    · cases h
  | fail d e =>
    simp only [step] at h
    split at h
    · obtain rfl := Option.some.inj h
      exact .failed e
    · cases h

/-- Both threads lose nothing, and the size kept under the lock is that of the trace so far. -/
structure Recorder.Inv (limits : Limits) (initial : ℕ) (s : Recorder) : Prop where
  relay : ∀ d, Kept limits (wire d s.records) (s.errors ≠ []) (s.relays d)
  stopped : s.stop = true → s.errors ≠ []
  size : s.encodedSize = initial + recordsSize s.records
  room : s.encodedSize ≤ limits.maxTraceBytes
  acceptable : AllAcceptable limits 0 s.records
  count : s.records.length ≤ maxsize

section

variable {limits : Limits} {initial : ℕ} {s s' : Recorder} {d : Direction} {a : Action}

theorem inv_start (h : initial ≤ limits.maxTraceBytes) : Recorder.Inv limits initial { encodedSize := initial } where
  relay _ := kept_start
  stopped h := by cases h
  size := rfl
  room := h
  acceptable := trivial
  count := Nat.zero_le _

theorem Recorder.Inv.setRelay (hi : s.Inv limits initial) {r : Relay}
    (hr : Kept limits (wire d s.records) (s.errors ≠ []) r) : (s.setRelay d r).Inv limits initial where
  relay x := by
    by_cases hx : x = d
    · subst hx
      simpa [Recorder.setRelay] using hr
    · simpa [Recorder.setRelay, hx] using hi.relay x
  stopped := hi.stopped
  size := hi.size
  room := hi.room
  acceptable := hi.acceptable
  count := hi.count

theorem Recorder.Inv.raise (hi : s.Inv limits initial) (d : Direction) (e : Error) :
    (s.raise d e).Inv limits initial where
  relay x := by
    have hk := (hi.relay x).raise (decide (x = d))
    have hne : (s.errors ++ [e] ≠ []) = True := by simp
    simpa [Recorder.raise, hne] using hk
  stopped _ := by simp [Recorder.raise]
  size := hi.size
  room := hi.room
  acceptable := hi.acceptable
  count := hi.count

/-- The refused chunk is dropped with its connection. -/
theorem Kept.drop {bytes : List UInt8} {raised : Prop} {r : Relay} (hk : Kept limits bytes raised r) (n : ℕ) :
    Kept limits bytes True { r with pending := r.pending.drop n, closed := true, phase := .failed } where
  received h := absurd rfl h
  sent := by
    obtain ⟨rest, hrest, -⟩ := hk.sent
    exact ⟨rest, hrest, fun h => absurd rfl h⟩
  valid := trivial
  failed _ := trivial
  finished _ := .inl trivial

theorem Recorder.Inv.refused (hi : s.Inv limits initial) (n : ℕ) (e : Error) :
    ((s.setRelay d { s.relays d with pending := (s.relays d).pending.drop n }).raise d e).Inv limits
      initial where
  relay x := by
    have hne : (s.errors ++ [e] ≠ []) = True := by simp
    by_cases hx : x = d
    · subst hx
      simpa [Recorder.raise, Recorder.setRelay, hne] using (hi.relay x).drop n
    · simpa [Recorder.raise, Recorder.setRelay, hne, hx] using (hi.relay x).raise false
  stopped _ := by simp [Recorder.raise]
  size := hi.size
  room := hi.room
  acceptable := hi.acceptable
  count := hi.count

theorem acceptable_record (hi : s.Inv limits initial) {m : Message} (hp : (s.relays d).phase = .recording m)
    (hcount : s.records.length < limits.maxRecords) : Acceptable limits s.records.length (s.record d m) := by
  have hv := (hi.relay d).valid
  rw [hp] at hv
  have hmax := hi.count
  have hop : m.opcode.toNat < 2 ^ 32 := m.opcode.toNat_lt
  have hid : m.requestId.toNat < 2 ^ 64 := m.requestId.toNat_lt
  have hcode : d.code = clientToServer ∨ d.code = serverToClient := by
    cases d
    · exact .inl rfl
    · exact .inr rfl
  have hbyte : 0 ≤ d.code ∧ d.code < 2 ^ 8 := by cases d <;> decide
  unfold maxsize at hmax
  exact {
    count_lt := by omega
    direction := hbyte
    opcode := ⟨Int.natCast_nonneg _, Int.ofNat_lt.2 hop⟩
    payload := hv.2
    requestId := ⟨Int.natCast_nonneg _, Int.ofNat_lt.2 hid⟩
    within := hcount
    sequence := rfl
    either := hcode
    bounded := hv.1 }

theorem Recorder.Inv.append (hi : s.Inv limits initial) {m : Message}
    (hp : (s.relays d).phase = .recording m) : (s.append limits d m).Inv limits initial := by
  unfold Recorder.append
  split
  · exact hi.raise d _
  split
  · exact hi.raise d _
  split
  · exact hi.raise d _
  next hcount hroom hmax =>
  refine ⟨fun x => ?_, hi.stopped, ?_, Nat.not_lt.1 hroom, ?_, ?_⟩
  · by_cases hx : x = d
    · subst hx
      have hk := hi.relay x
      have hne : (s.relays x).phase ≠ .failed := by simp [hp]
      obtain ⟨rest, hrest, hun⟩ := hk.sent
      have hrest' : rest = [] := by simpa [hp, Phase.unsent] using hun hne
      have hrec := hk.received hne
      rw [hp] at hrec
      rw [wire_append_same]
      simp only [Function.update_self]
      refine ⟨fun _ => ?_, ⟨m.bytes, ?_, fun _ => rfl⟩, trivial, ?_, ?_⟩
      · rw [hrec]
        simp [Phase.consumed]
      · rw [← hrest, hrest', List.append_nil]
      · intro hphase
        cases hphase
      · intro hphase
        cases hphase
    · rw [wire_append_other _ _ _ hx]
      simpa [Function.update_of_ne hx] using hi.relay x
  · rw [recordsSize_append, hi.size]
    simp [Recorder.record, Nat.add_assoc]
  · refine allAcceptable_append hi.acceptable ?_
    rw [Nat.zero_add]
    exact acceptable_record hi hp (Nat.not_le.1 hcount)
  · rw [List.length_append]
    exact Nat.not_le.1 hmax

theorem inv_step (hi : s.Inv limits initial) (h : step limits s a = some s') : s'.Inv limits initial := by
  cases stepped_of_step h with
  | write bytes ho => exact hi.setRelay ((hi.relay _).write ho bytes)
  | close d => exact hi.setRelay (hi.relay d).close
  | enter hp =>
    refine hi.setRelay ((hi.relay _).move (by simp [hp]) ?_ ?_ ?_ ?_ fun hfin => ?_)
    · rw [hp]
      split <;> rfl
    · rw [hp]
      split <;> rfl
    · split
      · trivial
      · exact Nat.zero_lt_succ _
    · split <;> simp
    · split at hfin
      · next hstop => exact .inl (hi.stopped hstop)
      · cases hfin
  | recv hpos hw hn hp => exact hi.setRelay ((hi.relay _).recv hpos hw hn hp)
  | refused e => exact hi.refused _ e
  | ended hpend hclosed hp =>
    exact hi.setRelay ((hi.relay _).move (by simp [hp]) (by rw [hp]; rfl) (by rw [hp]; rfl) trivial (by simp)
      fun _ => .inr ⟨hpend, hclosed⟩)
  | cut e => exact hi.raise _ e
  | append hp => exact hi.append hp
  | send n hp => exact hi.setRelay ((hi.relay _).send hp)
  | failed e => exact hi.raise _ e

theorem run_inv {acts : List Action} {s₀ : Recorder} (hi : s₀.Inv limits initial)
    (hr : Run (step limits) s₀ acts s) : s.Inv limits initial :=
  hr.invariant hi fun _ _ _ => inv_step

end

/-- `m` is among the messages the bytes begin with. -/
def Whole (data : List UInt8) (m : Message) : Prop :=
  ∃ ms : List Message, (∀ x ∈ ms, x.payload.length < 2 ^ 32) ∧ ms.flatMap Message.bytes <+: data ∧ m ∈ ms

/-- The server begins no message before it has got a request with its id. -/
def Answering (s : Recorder) (a : Action) : Prop :=
  ∀ bytes, a = .write .serverToClient bytes →
    ∀ m, Whole ((s.relays .serverToClient).written ++ bytes) m →
      ∃ q, Whole (s.relays .clientToServer).delivered q ∧ q.requestId = m.requestId

section

variable {limits : Limits} {initial : ℕ} {s s' : Recorder} {d : Direction} {a : Action}

theorem acceptable_of_getElem {count i : ℕ} {rs : List Record} {r : Record}
    (h : AllAcceptable limits count rs) (hr : rs[i]? = some r) : Acceptable limits (count + i) r := by
  induction rs generalizing count i with
  | nil => simp at hr
  | cons x rs ih =>
    cases i with
    | zero =>
      obtain rfl : x = r := by simpa using hr
      exact h.1
    | succ i =>
      have hi := ih h.2 (by simpa using hr)
      rwa [Nat.add_assoc, Nat.add_comm 1] at hi

theorem acceptable_of_mem {rs : List Record} {r : Record} (h : AllAcceptable limits 0 rs) (hr : r ∈ rs) :
    ∃ i, Acceptable limits i r := by
  obtain ⟨i, hi⟩ := List.mem_iff_getElem?.1 hr
  exact ⟨_, acceptable_of_getElem h hi⟩

theorem requestId_message {i : ℕ} {r : Record} (h : Acceptable limits i r) :
    (r.message.requestId.toNat : ℤ) = r.requestId := by
  have hid := h.requestId
  have hlt : r.requestId.toNat < 2 ^ 64 := by omega
  rw [Record.message, UInt64.toNat_ofNat_of_lt' hlt, Int.toNat_of_nonneg hid.1]

theorem wire_eq (d : Direction) (rs : List Record) :
    wire d rs = ((recordsOf d rs).map Record.message).flatMap Message.bytes := by
  rw [wire, List.flatMap_map]

/-- A message that has been sent on whole is recorded. -/
theorem recorded_of_whole (hi : s.Inv limits initial) {m : Message} (h : Whole (s.relays d).delivered m) :
    ∃ q ∈ s.records, q.direction = d.code ∧ q.requestId = m.requestId.toNat := by
  obtain ⟨ms, hms, hpre, hm⟩ := h
  obtain ⟨rest, hrest, -⟩ := (hi.relay d).sent
  have hwire : ms.flatMap Message.bytes <+: ((recordsOf d s.records).map Record.message).flatMap Message.bytes := by
    rw [← wire_eq, ← hrest]
    exact hpre.trans (List.prefix_append _ _)
  have hfit : ∀ x ∈ (recordsOf d s.records).map Record.message, x.payload.length < 2 ^ 32 := by
    intro x hx
    obtain ⟨q, hq, rfl⟩ := List.mem_map.1 hx
    obtain ⟨i, ha⟩ := acceptable_of_mem hi.acceptable (List.mem_filter.1 hq).1
    exact ha.payload
  have hmem := (bytes_prefixFree.flatMap_prefix bytes_ne_nil hms hfit hwire).subset hm
  obtain ⟨q, hq, rfl⟩ := List.mem_map.1 hmem
  obtain ⟨hq, hcode⟩ := List.mem_filter.1 hq
  obtain ⟨i, ha⟩ := acceptable_of_mem hi.acceptable hq
  exact ⟨q, hq, by simpa using hcode, (requestId_message ha).symm⟩

/-- The message a thread is about to record is one its source has written whole. -/
theorem whole_recording (hi : s.Inv limits initial) {m : Message} (hp : (s.relays d).phase = .recording m) :
    Whole (s.relays d).written m := by
  have hrec := (hi.relay d).received (by simp [hp])
  have hv := (hi.relay d).valid
  rw [hp] at hrec hv
  refine ⟨(recordsOf d s.records).map Record.message ++ [m], ?_, ?_, by simp⟩
  · intro x hx
    rcases List.mem_append.1 hx with hx | hx
    · obtain ⟨q, hq, rfl⟩ := List.mem_map.1 hx
      obtain ⟨i, ha⟩ := acceptable_of_mem hi.acceptable (List.mem_filter.1 hq).1
      exact ha.payload
    · obtain rfl := List.mem_singleton.1 hx
      exact hv.2
  · rw [hrec, List.flatMap_append, ← wire_eq, List.flatMap_singleton]
    exact List.prefix_append _ _

/-- Every message of the server answers a recorded request, and is recorded behind it. -/
structure Causal (s : Recorder) : Prop where
  asked : ∀ m, Whole (s.relays .serverToClient).written m →
    ∃ q ∈ s.records, q.direction = clientToServer ∧ q.requestId = m.requestId.toNat
  ordered : ∀ (i : ℕ) (r : Record), s.records[i]? = some r → r.direction = serverToClient →
    ∃ (j : ℕ) (q : Record), j < i ∧ s.records[j]? = some q ∧ q.direction = clientToServer ∧ q.requestId = r.requestId

theorem Causal.of_same (hc : Causal s) (hrec : s'.records = s.records)
    (hw : (s'.relays .serverToClient).written = (s.relays .serverToClient).written) : Causal s' where
  asked := by
    rw [hrec, hw]
    exact hc.asked
  ordered := by
    rw [hrec]
    exact hc.ordered

theorem Causal.setRelay (hc : Causal s) {r : Relay} (hw : r.written = (s.relays d).written) :
    Causal (s.setRelay d r) := by
  refine hc.of_same rfl ?_
  by_cases hd : Direction.serverToClient = d
  · subst hd
    simpa [Recorder.setRelay] using hw
  · simp [Recorder.setRelay, hd]

theorem Causal.raise (hc : Causal s) (d : Direction) (e : Error) : Causal (s.raise d e) :=
  hc.of_same rfl rfl

theorem causal_start : Causal { encodedSize := initial } where
  asked m h := by
    obtain ⟨ms, -, hpre, hm⟩ := h
    have hnil := List.flatMap_eq_nil_iff.1 (List.prefix_nil.1 hpre) m hm
    exact absurd hnil (bytes_ne_nil m)
  ordered i r h := by simp at h

theorem Causal.append (hc : Causal s) (hi : s.Inv limits initial) {m : Message}
    (hp : (s.relays d).phase = .recording m) : Causal (s.append limits d m) := by
  unfold Recorder.append
  split
  · exact hc.raise d _
  split
  · exact hc.raise d _
  split
  · exact hc.raise d _
  refine ⟨fun x hx => ?_, fun i r hr hdir => ?_⟩
  · have hx' : Whole (s.relays .serverToClient).written x := by
      by_cases hd : Direction.serverToClient = d
      · subst hd
        simpa using hx
      · simpa [hd] using hx
    obtain ⟨q, hq, hrest⟩ := hc.asked x hx'
    exact ⟨q, List.mem_append_left _ hq, hrest⟩
  · rcases Nat.lt_or_ge i s.records.length with hlt | hge
    · rw [List.getElem?_append_left hlt] at hr
      obtain ⟨j, q, hj, hq, hrest⟩ := hc.ordered i r hr hdir
      exact ⟨j, q, hj, by rwa [List.getElem?_append_left (hj.trans hlt)], hrest⟩
    · -- the record that is new: a response answers a request that is recorded by now
      have hlen := (List.getElem?_eq_some_iff.1 hr).1
      simp only [List.length_append, List.length_singleton] at hlen
      obtain rfl : i = s.records.length := by omega
      obtain rfl : s.record d m = r := by simpa using hr
      have hd : d = .serverToClient := by
        cases d with
        | clientToServer => cases hdir
        | serverToClient => rfl
      subst hd
      obtain ⟨q, hq, hqdir, hqid⟩ := hc.asked m (whole_recording hi hp)
      obtain ⟨j, hj, hjq⟩ := List.mem_iff_getElem.1 hq
      exact ⟨j, q, hj, by rw [List.getElem?_append_left hj, List.getElem?_eq_getElem hj, hjq], hqdir, hqid⟩

theorem causal_step (hc : Causal s) (hi : s.Inv limits initial) (hans : Answering s a)
    (h : step limits s a = some s') : Causal s' := by
  cases stepped_of_step h with
  | @write d bytes ho =>
    cases d with
    | clientToServer => exact hc.of_same rfl (by simp [Recorder.setRelay])
    | serverToClient =>
      refine ⟨fun m hm => ?_, hc.ordered⟩
      have hm' : Whole ((s.relays .serverToClient).written ++ bytes) m := by
        simpa [Recorder.setRelay] using hm
      obtain ⟨q, hq, hid⟩ := hans bytes rfl m hm'
      obtain ⟨r, hr, hdir, hrid⟩ := recorded_of_whole hi hq
      exact ⟨r, hr, hdir, by rw [hrid, hid]⟩
  | close d => exact hc.setRelay rfl
  | enter hp => exact hc.setRelay rfl
  | recv hpos hw hn hp => exact hc.setRelay rfl
  | @refused d n e =>
    have hdrop : Causal (s.setRelay d { s.relays d with pending := (s.relays d).pending.drop n }) :=
      hc.setRelay rfl
    exact hdrop.raise d e
  | ended hpend hclosed hp => exact hc.setRelay rfl
  | cut e => exact hc.raise _ e
  | append hp => exact hc.append hi hp
  | send n hp => exact hc.setRelay rfl
  | failed e => exact hc.raise _ e

theorem run_causal {acts : List Action} {s₀ : Recorder} (hi : s₀.Inv limits initial) (hc : Causal s₀)
    (hr : RunWhere (step limits) Answering s₀ acts s) : Causal s := by
  have hboth : s.Inv limits initial ∧ Causal s := by
    refine hr.invariant (I := fun s => s.Inv limits initial ∧ Causal s) ⟨hi, hc⟩ ?_
    intro s₁ a s₂ h hans hs
    exact ⟨inv_step h.1 hs, causal_step h.2 h.1 hans hs⟩
  exact hboth.2

end

section

variable {limits : Limits} {metadata : List UInt8} {s₀ s : Recorder} {records : List Record}

theorem runRecord_eq_ok (h : runRecord limits metadata = .ok s₀) :
    metadata.length ≤ limits.maxMetadata ∧
      fileHeaderSize + metadata.length + trailerSize ≤ limits.maxTraceBytes ∧
      s₀ = { encodedSize := fileHeaderSize + metadata.length + trailerSize } := by
  unfold runRecord recordConnection at h
  split_ifs at h with h₁ h₂ h₃
  exact ⟨Nat.not_lt.1 h₁, Nat.not_lt.1 h₂, (Except.ok.inj h).symm⟩

/-- A thread that came to the end of its stream has sent all of it on. -/
theorem Kept.ended {bytes : List UInt8} {r : Relay} (hk : Kept limits bytes False r)
    (he : r.phase.ended = true) : r.delivered = bytes ∧ r.written = bytes := by
  have hne : r.phase ≠ .failed := fun h => hk.failed h
  have hp : r.phase = .finished := by
    cases hphase : r.phase with
    | finished => rfl
    | failed => exact absurd hphase hne
    | _ => simp [hphase, Phase.ended] at he
  obtain ⟨rest, hrest, hun⟩ := hk.sent
  have hrec := hk.received hne
  have hpend := ((hk.finished hp).resolve_left id).1
  rw [hp] at hrec hun
  have hrest' : rest = [] := hun (by simp)
  rw [hrest', List.append_nil] at hrest
  rw [hpend, List.append_nil] at hrec
  exact ⟨hrest, hrec.trans (List.append_nil _)⟩

theorem result_eq_ok (h : s.result = some (.ok records)) : s.errors = [] ∧ records = s.records ∧
    ∀ d, (s.relays d).phase.ended = true := by
  unfold Recorder.result at h
  split at h
  · next hended =>
    rw [Bool.and_eq_true] at hended
    split at h
    · next herr =>
      refine ⟨herr, (Except.ok.inj (Option.some.inj h)).symm, fun d => ?_⟩
      cases d
      · exact hended.1
      · exact hended.2
    · cases h
    · cases h
  · cases h

/-- A recording that ends normally holds what each side wrote, all of which was sent on, numbered in order
and each response behind a request with its id; `write_trace` takes it unless the metadata is too long for
the file header. -/
theorem finished_recording (hstart : runRecord limits metadata = .ok s₀)
    {acts : List Action} (hrun : Run (step limits) s₀ acts s) (hret : s.result = some (.ok records)) :
    (∀ d, (s.relays d).delivered = wire d records ∧ (s.relays d).written = wire d records) ∧
    (∀ (i : ℕ) (r : Record), records[i]? = some r → r.sequence = i) ∧
    (RunWhere (step limits) Answering s₀ acts s →
      ∀ (i : ℕ) (r : Record), records[i]? = some r → r.direction = serverToClient →
        ∃ (j : ℕ) (q : Record), j < i ∧ records[j]? = some q ∧ q.direction = clientToServer ∧
          q.requestId = r.requestId) ∧
    ((∃ file, writeTrace limits false metadata records = .ok file) ↔ metadata.length < 2 ^ 32) := by
  obtain ⟨hmeta, hroom, rfl⟩ := runRecord_eq_ok hstart
  obtain ⟨herr, rfl, hended⟩ := result_eq_ok hret
  have hi := run_inv (inv_start hroom) hrun
  refine ⟨fun d => ?_, fun i r hr => ?_, fun hans => ?_, ?_⟩
  · have hk := hi.relay d
    rw [herr, show (([] : List Error) ≠ []) = False by simp] at hk
    exact hk.ended (hended d)
  · have ha := (acceptable_of_getElem hi.acceptable hr).sequence
    rwa [Nat.zero_add] at ha
  · exact (run_causal (inv_start hroom) causal_start hans).ordered
  · rw [writeTrace_isOk_iff]
    have hsize : traceSize metadata s.records ≤ limits.maxTraceBytes := by
      have hs := hi.size
      have hr := hi.room
      unfold traceSize
      omega
    have hcount := hi.count
    unfold maxsize at hcount
    exact ⟨fun h => h.2.1, fun h => ⟨hmeta, h, by omega, hi.acceptable, hsize⟩⟩

end

/-! ### An exchange, and a recording that is lost -/

def request : Message := { opcode := 40, requestId := 7, payload := [1] }

def response : Message := { opcode := 40, requestId := 7, payload := [0, 0, 0, 0] }

/-- A request comes in two chunks and goes out in two; the response follows, and both sides close. -/
def exchange : List Action :=
  [.enter .clientToServer, .enter .serverToClient, .write .clientToServer request.bytes,
    .recv .clientToServer 10, .recv .clientToServer 6, .recv .clientToServer 1, .append .clientToServer,
    .send .clientToServer 9, .send .clientToServer 8, .write .serverToClient response.bytes,
    .recv .serverToClient 16, .recv .serverToClient 4, .append .serverToClient, .enter .clientToServer,
    .send .serverToClient 20, .enter .serverToClient, .close .clientToServer, .eof .clientToServer,
    .close .serverToClient, .eof .serverToClient]

def exchanged : List Record :=
  [⟨0, clientToServer, 40, [1], 7⟩, ⟨1, serverToClient, 40, [0, 0, 0, 0], 7⟩]

theorem finished_recording_exchange : ∃ s : Recorder,
    s.result = some (.ok exchanged) ∧ (∀ d, (s.relays d).delivered = wire d exchanged) ∧
      ∃ file, writeTrace {} false [123, 125] exchanged = .ok file := by
  have hstart : runRecord {} [123, 125] = .ok { encodedSize := 62 } := rfl
  have hrun : ∃ s, runList (step {}) { encodedSize := 62 } exchange = some s ∧
      s.result = some (.ok exchanged) := ⟨_, rfl, rfl⟩
  obtain ⟨s, hs, hret⟩ := hrun
  have hfin := finished_recording hstart (run_of_runList hs) hret
  exact ⟨s, hret, fun d => (hfin.1 d).1, hfin.2.2.2.2 (by decide)⟩

/-- Limits that let metadata of any length up to `2 ^ 32` through. -/
def wideLimits : Limits := { maxMetadata := 2 ^ 32, maxTraceBytes := 2 ^ 33 }

def nothingSent : List Action :=
  [.enter .clientToServer, .enter .serverToClient, .close .clientToServer, .eof .clientToServer,
    .close .serverToClient, .eof .serverToClient]

theorem lost_of_length {metadata : List UInt8} (h : metadata.length = 2 ^ 32) : ∃ s₀ s,
    runRecord wideLimits metadata = .ok s₀ ∧ Run (step wideLimits) s₀ nothingSent s ∧
      s.result = some (.ok []) ∧ ∀ file, writeTrace wideLimits false metadata [] ≠ .ok file := by
  have hrun (n : ℕ) : ∃ s, runList (step wideLimits) { encodedSize := n } nothingSent = some s ∧
      s.result = some (.ok []) := ⟨_, rfl, rfl⟩
  obtain ⟨s, hs, hret⟩ := hrun (fileHeaderSize + metadata.length + trailerSize)
  refine ⟨_, s, ?_, run_of_runList hs, hret, fun file hfile => ?_⟩
  · have hmeta : ¬ wideLimits.maxMetadata < metadata.length := by
      rw [h]
      exact Nat.lt_irrefl _
    have hroom : ¬ wideLimits.maxTraceBytes < fileHeaderSize + metadata.length + trailerSize := by
      rw [h]
      decide
    have hfixed : ¬ fileHeaderSize + metadata.length + trailerSize < fileHeaderSize + trailerSize := by omega
    rw [runRecord, if_neg hmeta, if_neg hroom, recordConnection, if_neg hfixed, if_neg hroom]
  · have hlt := (writeTrace_isOk_iff.1 ⟨file, hfile⟩).2.1
    rw [h] at hlt
    exact Nat.lt_irrefl _ hlt

/-- Metadata of `2 ^ 32` bytes passes every check made before the recording, and the recording of an empty
connection ends normally; `write_trace` then cannot pack its length. -/
theorem recording_lost : ∃ (metadata : List UInt8) (s₀ s : Recorder), metadata.length = 2 ^ 32 ∧
    runRecord wideLimits metadata = .ok s₀ ∧ Run (step wideLimits) s₀ nothingSent s ∧
      s.result = some (.ok []) ∧ ∀ file, writeTrace wideLimits false metadata [] ≠ .ok file := by
  obtain ⟨metadata, hlen⟩ : ∃ l : List UInt8, l.length = 2 ^ 32 := ⟨List.replicate _ 32, List.length_replicate⟩
  obtain ⟨s₀, s, hlost⟩ := lost_of_length hlen
  exact ⟨metadata, s₀, s, hlen, hlost⟩

end VkRemote.Tools
