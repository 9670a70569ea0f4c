import VulkanRemote.Server.Gate

/-! Both ends of a connection up to the handshake: what `vkCreateInstance` offers and accepts, and that
the two ends agree on the capabilities. -/

namespace VkRemote

open Lib Wire Server
open Client.Connection (replyOk)

variable {σ : Type}

/-- The capability words of a handshake. -/
structure Offer where
  supported : UInt32
  required : UInt32

/-- The words of `vkCreateInstance`; other peers may offer others. -/
def createInstanceOffer (coherent : Bool) : Offer := ⟨capabilitiesOf coherent, 0⟩

/-- A client process on its way to an instance. -/
structure Guest where
  contract : Contract
  offer : Offer
  requestedApiVersion : UInt32

/-- What an instance keeps of the handshake. -/
structure Instance where
  serverLoaderApiVersion : UInt32
  capabilities : UInt32
  negotiatedApiVersion : UInt32
  deriving DecidableEq

/-- `VK_API_VERSION_1_2`. -/
def apiVersion12 : UInt32 := 0x00402000

namespace Guest

variable (g : Guest)

def handshakeRequest : List UInt8 :=
  Writer.string g.contract.wireSchemaRevision ++ Writer.string g.contract.registrySha256 ++
    Writer.string g.contract.wireAbi ++ Writer.string g.contract.commandSetDigest ++
    Writer.u32 g.offer.supported ++ Writer.u32 g.offer.required

/-- What the client makes of the reply; a reply that is not `ok` has already failed in `round_trip`. -/
def readWelcome (reply : List UInt8) : Option Instance :=
  if replyOk reply then
    let (_, r) := (Reader.mk reply false).u32
    let (digest, r) := r.string
    let (_, r) := r.u32
    let (loader, r) := r.u32
    let (capabilities, r) := r.u32
    if r.ok ∧ r.remaining = 0 ∧ digest.getD [] = g.contract.commandSetDigest ∧
        Within capabilities g.offer.supported then
      some ⟨loader, capabilities, min (min g.requestedApiVersion loader) apiVersion12⟩
    else none
  else none

/-- The first message of a connection. -/
def hello : Message := ⟨opcodeHandshake, 1, g.handshakeRequest⟩

end Guest

theorem string_text (s : Text) (tail : List UInt8) :
    Reader.string ⟨Writer.string s ++ tail, false⟩ = (some s.1, ⟨tail, false⟩) :=
  Reader.string_writer tail s.2

theorem readHello_request (g : Guest) : readHello g.handshakeRequest =
    ⟨g.contract.wireSchemaRevision, g.contract.registrySha256, g.contract.wireAbi, g.contract.commandSetDigest,
      g.offer.supported, g.offer.required, true⟩ := by
  unfold readHello Guest.handshakeRequest
  simp only [List.append_assoc, string_text, Reader.u32_writer, Reader.u32_writer_last]
  rfl

theorem within_and_left (a b : UInt32) : Within (a &&& b) a := by
  unfold Within
  rw [UInt32.and_comm a b, UInt32.and_assoc, UInt32.and_not_self, UInt32.and_zero]

theorem within_and_right (a b : UInt32) : Within (a &&& b) b := by
  unfold Within
  rw [UInt32.and_assoc, UInt32.and_not_self, UInt32.and_zero]

/-- An accepted reply is that of a matching handshake, and carries the selected capabilities. -/
theorem readWelcome_reply {host : Host} {hello : Hello} {g : Guest} {i : Instance}
    (h : g.readWelcome (host.handshakeReply hello) = some i) :
    host.Matches hello ∧ i.capabilities = host.selected hello := by
  have hmatch : host.Matches hello := by
    by_contra hno
    have hrefused : replyOk (host.handshakeReply hello) = false := by
      simp [Host.handshakeReply, hno, Status.code, Writer.u32, toLE, replyOk]
    unfold Guest.readWelcome at h
    rw [hrefused] at h
    cases h
  unfold Guest.readWelcome Host.handshakeReply at h
  simp only [hmatch, if_true, List.append_assoc, string_text, Reader.u32_writer, Reader.u32_writer_last] at h
  split at h
  · split at h
    · obtain rfl := Option.some.inj h
      exact ⟨hmatch, rfl⟩
    · cases h
  · cases h

/-- Where the client stands. -/
inductive Peer
  | idle
  | waiting
  | ready (i : Instance)
  | refused
  deriving DecidableEq

/-- Both ends; `wire` is on its way to the server, and the client has read the first `read` replies. -/
structure World (σ : Type) where
  peer : Peer := .idle
  wire : List Message := []
  server : Serving σ
  read : ℕ := 0

namespace World

/-- Once it has an instance the client may send anything. -/
inductive Action
  | createInstance
  | request (m : Message)
  | deliver
  | server (a : Serving.Action)
  | receive

def step (commands : Commands σ) (host : Host) (g : Guest) (w : World σ) : Action → Option (World σ)
  | .createInstance =>
    if w.peer = .idle then some { w with peer := .waiting, wire := w.wire ++ [g.hello] } else none
  | .request m =>
    match w.peer with
    | .ready _ => some { w with wire := w.wire ++ [m] }
    | _ => none
  | .deliver =>
    match w.wire with
    | [] => none
    | m :: rest => (w.server.step commands host (.receive m)).map fun s => { w with wire := rest, server := s }
  | .server a =>
    match a with
    | .receive _ => none
    | a => (w.server.step commands host a).map fun s => { w with server := s }
  | .receive =>
    match w.server.sent[w.read]?, w.peer with
    | some r, .waiting =>
      some { w with
        read := w.read + 1
        peer :=
          if r.opcode = opcodeHandshake ∧ r.requestId = g.hello.requestId then
            (g.readWelcome r.payload).elim .refused .ready
          else .refused }
    | some _, .ready _ => some { w with read := w.read + 1 }
    | _, _ => none

/-- The first message is the client's handshake, and its instance comes from the answer to that. -/
structure Inv (host : Host) (g : Guest) (w : World σ) : Prop where
  gated : Serving.Gated host w.server
  idle : w.peer = .idle → w.server.received ++ w.wire = []
  hello : w.peer ≠ .idle → ∃ rest, w.server.received ++ w.wire = g.hello :: rest
  unread : w.peer = .idle ∨ w.peer = .waiting → w.read = 0
  ready : ∀ i, w.peer = .ready i → g.readWelcome (host.handshakeReply (readHello g.handshakeRequest)) = some i

section Steps

variable {commands : Commands σ} {host : Host} {g : Guest} {w w' : World σ}

theorem inv_start (rest : σ) : Inv host g ({ server := { rest := rest } } : World σ) where
  gated := Serving.gated_start rest
  idle _ := rfl
  hello h := absurd rfl h
  unread _ := rfl
  ready i h := by cases h

/-- The server moves; what came and what is on its way stays the same. -/
theorem Inv.move (inv : Inv host g w) {a : Serving.Action} {s : Serving σ} {wire : List Message}
    (hs : w.server.step commands host a = some s)
    (hreceived : s.received ++ wire = w.server.received ++ w.wire) :
    Inv host g { w with wire := wire, server := s } :=
  ⟨Serving.gated_step a inv.gated hs, fun h => hreceived.trans (inv.idle h), fun h => by
    obtain ⟨rest, hrest⟩ := inv.hello h
    exact ⟨rest, hreceived.trans hrest⟩, inv.unread, inv.ready⟩

theorem inv_deliver (inv : Inv host g w) (h : step commands host g w .deliver = some w') : Inv host g w' := by
  unfold step at h
  dsimp only at h
  split at h
  · cases h
  · next m rest hwire =>
    obtain ⟨s, hs, rfl⟩ := Option.map_eq_some_iff.1 h
    refine inv.move hs ?_
    rw [Serving.received_step _ hs, hwire, Serving.Action.messages, List.append_assoc, List.singleton_append]

theorem inv_server (inv : Inv host g w) {a : Serving.Action} (h : step commands host g w (.server a) = some w') :
    Inv host g w' := by
  have hmove : ∀ a : Serving.Action, a.messages = [] →
      ((w.server.step commands host a).map fun s => { w with server := s }) = some w' → Inv host g w' := by
    intro a ha h
    obtain ⟨s, hs, rfl⟩ := Option.map_eq_some_iff.1 h
    refine inv.move hs ?_
    rw [Serving.received_step _ hs, ha, List.append_nil]
  cases a with
  | receive m => cases h
  | hangUp => exact hmove _ rfl h
  | take => exact hmove _ rfl h
  | work i payload => exact hmove _ rfl h
  | file i => exact hmove _ rfl h

/-- The reply the waiting client reads is that to its own handshake. -/
theorem Inv.first_reply (inv : Inv host g w) (hpeer : w.peer = .waiting) {r : Message}
    (hr : w.server.sent[w.read]? = some r) :
    r.payload = host.handshakeReply (readHello g.handshakeRequest) := by
  rw [inv.unread (.inr hpeer), ← List.head?_eq_getElem?] at hr
  obtain ⟨m, hm, -, rfl⟩ := inv.gated.first r hr
  obtain ⟨rest, hrest⟩ := inv.hello (by rw [hpeer]; exact Peer.noConfusion)
  obtain ⟨ms, hms⟩ := List.head?_eq_some_iff.1 hm
  rw [hms, List.cons_append] at hrest
  rw [(List.cons.inj hrest).1]
  rfl

theorem inv_receive (inv : Inv host g w) (h : step commands host g w .receive = some w') : Inv host g w' := by
  unfold step at h
  dsimp only at h
  split at h
  · next r hr hpeer =>
    obtain rfl := Option.some.inj h
    have hpayload := inv.first_reply hpeer hr
    have hnew : ∀ i, (if r.opcode = opcodeHandshake ∧ r.requestId = g.hello.requestId then
        (g.readWelcome r.payload).elim Peer.refused Peer.ready else Peer.refused) = .ready i →
        g.readWelcome r.payload = some i := by
      intro i hi
      split at hi
      · cases hread : g.readWelcome r.payload with
        | none =>
          rw [hread] at hi
          cases hi
        | some j =>
          rw [hread] at hi
          exact congrArg some (Peer.ready.inj hi)
      · cases hi
    have hdone : ∀ p : Peer, p = .idle ∨ p = .waiting → p ≠ (if r.opcode = opcodeHandshake ∧
        r.requestId = g.hello.requestId then (g.readWelcome r.payload).elim Peer.refused Peer.ready
        else Peer.refused) := by
      intro p hp
      split
      · cases g.readWelcome r.payload <;> rcases hp with rfl | rfl <;> exact Peer.noConfusion
      · rcases hp with rfl | rfl <;> exact Peer.noConfusion
    refine ⟨inv.gated, fun hidle => absurd hidle.symm (hdone _ (.inl rfl)), fun _ => ?_, fun hp => ?_,
      fun i hi => hpayload ▸ hnew i hi⟩
    · exact inv.hello (by rw [hpeer]; exact Peer.noConfusion)
    · rcases hp with hp | hp
      · exact absurd hp.symm (hdone _ (.inl rfl))
      · exact absurd hp.symm (hdone _ (.inr rfl))
  · next r i hr hpeer =>
    obtain rfl := Option.some.inj h
    refine ⟨inv.gated, inv.idle, inv.hello, fun hp => ?_, inv.ready⟩
    rcases hp with hp | hp <;> rw [hpeer] at hp <;> cases hp
  · cases h

theorem inv_step (a : Action) (inv : Inv host g w) (h : step commands host g w a = some w') : Inv host g w' := by
  cases a with
  | createInstance =>
    unfold step at h
    dsimp only at h
    split at h
    · next hidle =>
      obtain rfl := Option.some.inj h
      refine ⟨inv.gated, fun hp => Peer.noConfusion hp, fun _ => ⟨[], ?_⟩, fun _ => inv.unread (.inl hidle),
        fun i hi => Peer.noConfusion hi⟩
      dsimp only
      rw [← List.append_assoc, inv.idle hidle, List.nil_append]
    · cases h
  | request m =>
    unfold step at h
    dsimp only at h
    split at h
    · next i hpeer =>
      obtain rfl := Option.some.inj h
      refine ⟨inv.gated, fun hp => ?_, fun hp => ?_, inv.unread, inv.ready⟩
      · rw [hpeer] at hp
        cases hp
      · obtain ⟨rest, hrest⟩ := inv.hello hp
        refine ⟨rest ++ [m], ?_⟩
        dsimp only
        rw [← List.append_assoc, hrest, List.cons_append]
    · cases h
  | deliver => exact inv_deliver inv h
  | server a => exact inv_server inv h
  | receive => exact inv_receive inv h

/-- The ends agree once both have the handshake behind them. -/
theorem Inv.agreed (inv : Inv host g w) {i : Instance} (hpeer : w.peer = .ready i)
    (hopen : w.server.handshakeComplete = true) :
    i.capabilities = w.server.capabilities ∧ Within i.capabilities g.offer.supported ∧
      Within i.capabilities (capabilitiesOf host.coherent) ∧ Within g.offer.required i.capabilities := by
  obtain ⟨hmatch, hcaps⟩ := readWelcome_reply (inv.ready i hpeer)
  obtain ⟨m, rest, hreceived, -, hserver, -⟩ := inv.gated.opened hopen
  obtain ⟨rest', hrest'⟩ := inv.hello (by rw [hpeer]; exact Peer.noConfusion)
  rw [hreceived, List.cons_append] at hrest'
  rw [(List.cons.inj hrest').1] at hserver
  have hselected : host.selected (readHello g.handshakeRequest) =
      g.offer.supported &&& capabilitiesOf host.coherent := by
    rw [readHello_request]
    rfl
  have hrequired := hmatch.capabilities.requiredSelected
  rw [← hcaps, readHello_request] at hrequired
  refine ⟨hcaps.trans hserver.symm, ?_, ?_, hrequired⟩
  · rw [hcaps, hselected]
    exact within_and_left _ _
  · rw [hcaps, hselected]
    exact within_and_right _ _

end Steps

end World

/-- No message but an acceptable handshake gets past the gate of a session, once; and a client and a server
session that both have the handshake behind them have the same capabilities. -/
theorem handshake_gate (commands : Commands σ) (host : Host) (rest : σ) :
    (∀ s, Reachable (Serving.step commands host) { rest := rest } s →
      Serving.Gated host s ∧
      ∀ m s', s.step commands host (.receive m) = some s' →
        (s.handshakeComplete = false →
          (Serving.Accepted host m ∧ s'.handshakeComplete = true) ∨
          (¬ Serving.Accepted host m ∧ s'.handshakeComplete = false ∧ s'.ended = true)) ∧
        (s.handshakeComplete = true → m.opcode = opcodeHandshake →
          s'.ended = true ∧ s'.sent = s.sent ∧ s'.ran = s.ran)) ∧
    (∀ s : Serving σ, s.ended = true → ∀ m, s.step commands host (.receive m) = none) ∧
    ∀ g w, Reachable (World.step commands host g) { server := { rest := rest } } w →
      ∀ i, w.peer = .ready i → w.server.handshakeComplete = true →
        i.capabilities = w.server.capabilities ∧ Within i.capabilities g.offer.supported ∧
        Within i.capabilities (capabilitiesOf host.coherent) ∧ Within g.offer.required i.capabilities := by
  refine ⟨fun s hs => ⟨Serving.gated_of_reachable hs, fun m s' hstep => ?_⟩,
    fun s hended m => Serving.receive_ended hended, fun g w hw i hpeer hopen => ?_⟩
  · exact ⟨fun hclosed => Serving.receive_closed hclosed hstep,
      fun hopen hm => Serving.receive_second hopen hm hstep⟩
  · obtain ⟨as, hrun⟩ := hw
    have inv : World.Inv host g w := hrun.invariant (World.inv_start rest) fun _ a _ => World.inv_step a
    exact inv.agreed hpeer hopen

/-- Two builds of one contract, both with `VK_REMOTING_EXPERIMENTAL_COHERENT` set. -/
def sameBuild : Contract := ⟨⟨[1], by decide⟩, ⟨[2], by decide⟩, ⟨[3], by decide⟩, ⟨[4], by decide⟩⟩

def coherentHost : Host := ⟨sameBuild, true, 1, apiVersion12⟩

def coherentGuest : Guest := ⟨sameBuild, createInstanceOffer true, apiVersion12⟩

/-- A server that knows no command but the handshake and the ping. -/
def noCommands : Commands Unit := ⟨fun _ => none, fun _ => false, fun _ _ => ((), .error .decodeError)⟩

def handshaken : List World.Action := [.createInstance, .deliver, .receive]

theorem handshake_gate_coherent :
    (∃ s, runList (Serving.step noCommands coherentHost) { rest := () } [.receive coherentGuest.hello] = some s ∧
      Serving.Gated coherentHost s ∧ s.handshakeComplete = true) ∧
    ∃ w, runList (World.step noCommands coherentHost coherentGuest) { server := { rest := () } } handshaken = some w ∧
      ∃ i, w.peer = .ready i ∧ i.capabilities = w.server.capabilities ∧ w.server.capabilities = 1 := by
  have hserved : ((runList (Serving.step noCommands coherentHost) { rest := () }
      [.receive coherentGuest.hello]).elim false fun s => s.handshakeComplete) = true := by decide
  have hran : ((runList (World.step noCommands coherentHost coherentGuest) { server := { rest := () } }
      handshaken).elim false fun w => w.server.handshakeComplete && w.server.capabilities == 1 &&
        decide (w.peer = .ready ⟨apiVersion12, 1, apiVersion12⟩)) = true := by decide
  have hgate := handshake_gate noCommands coherentHost ()
  refine ⟨?_, ?_⟩
  · cases hs : runList (Serving.step noCommands coherentHost) { rest := () } [.receive coherentGuest.hello] with
    | none =>
      rw [hs] at hserved
      cases hserved
    | some s =>
      rw [hs] at hserved
      exact ⟨s, rfl, (hgate.1 s ⟨_, run_of_runList hs⟩).1, hserved⟩
  · cases hw : runList (World.step noCommands coherentHost coherentGuest) { server := { rest := () } }
        handshaken with
    | none =>
      rw [hw] at hran
      cases hran
    | some w =>
      rw [hw, Option.elim_some, Bool.and_eq_true, Bool.and_eq_true] at hran
      obtain ⟨⟨hopen, hcaps⟩, hpeer⟩ := hran
      have hready := of_decide_eq_true hpeer
      exact ⟨w, rfl, _, hready, (hgate.2.2 _ w ⟨_, run_of_runList hw⟩ _ hready hopen).1, beq_iff_eq.1 hcaps⟩

end VkRemote
