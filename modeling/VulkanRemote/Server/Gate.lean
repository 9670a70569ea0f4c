import VulkanRemote.Client.Connection
import VulkanRemote.Server.Session
import VulkanRemote.Wire.Codec
import VulkanRemote.Wire.Message

/-! The gate of `Server::serve`: which message reaches a handler, what a handshake must say, and what the
session sends. The other handlers and the waits are parameters, so they may do anything. -/

namespace VkRemote.Server

open Lib Wire
open Client (opcodePing)

variable {σ : Type}

def opcodeHandshake : UInt32 := 1

def kCapabilityWholeCopyHostCoherent : UInt32 := (1 : UInt32) <<< 0

def kKnownCapabilities : UInt32 := kCapabilityWholeCopyHostCoherent

def Status.code : Status → UInt32
  | ok => 0
  | unsupportedCommand => 1
  | decodeError => 2

/-- A string constant of a build. -/
abbrev Text := {s : List UInt8 // s.length < 2 ^ 32}

/-- What the generator writes into both ends of a build. -/
structure Contract where
  wireSchemaRevision : Text
  registrySha256 : Text
  wireAbi : Text
  commandSetDigest : Text

/-- A server process; `coherent` says whether `VK_REMOTING_EXPERIMENTAL_COHERENT` is set. -/
structure Host where
  contract : Contract
  coherent : Bool
  physicalDeviceCount : ℕ
  loaderApiVersion : UInt32

/-- What both ends derive from the environment. -/
def capabilitiesOf (coherent : Bool) : UInt32 := if coherent then kCapabilityWholeCopyHostCoherent else 0

/-- A handshake as it was read; `clean` says that the reader is well and at the end. -/
structure Hello where
  schema : List UInt8
  registry : List UInt8
  abi : List UInt8
  digest : List UInt8
  supported : UInt32
  required : UInt32
  clean : Bool
  deriving DecidableEq

def readHello (payload : List UInt8) : Hello :=
  let (schema, r) := (Reader.mk payload false).string
  let (registry, r) := r.string
  let (abi, r) := r.string
  let (digest, r) := r.string
  let (supported, r) := r.u32
  let (required, r) := r.u32
  ⟨schema.getD [], registry.getD [], abi.getD [], digest.getD [], supported, required,
    r.ok && r.remaining == 0⟩

/-- No bit of `a` is outside `b`. -/
def Within (a b : UInt32) : Prop := a &&& ~~~b = 0

instance (a b : UInt32) : Decidable (Within a b) := inferInstanceAs (Decidable (_ = _))

namespace Host

variable (h : Host)

def selected (hello : Hello) : UInt32 := hello.supported &&& capabilitiesOf h.coherent

structure CapabilitiesValid (hello : Hello) : Prop where
  supportedKnown : Within hello.supported kKnownCapabilities
  requiredKnown : Within hello.required kKnownCapabilities
  requiredSupported : Within hello.required hello.supported
  requiredSelected : Within hello.required (h.selected hello)

/-- `match` of the handler. -/
structure Matches (hello : Hello) : Prop where
  clean : hello.clean = true
  capabilities : h.CapabilitiesValid hello
  schema : hello.schema = h.contract.wireSchemaRevision
  registry : hello.registry = h.contract.registrySha256
  abi : hello.abi = h.contract.wireAbi
  digest : hello.digest = h.contract.commandSetDigest

instance (hello : Hello) : Decidable (h.CapabilitiesValid hello) :=
  decidable_of_iff (Within hello.supported kKnownCapabilities ∧ Within hello.required kKnownCapabilities ∧
      Within hello.required hello.supported ∧ Within hello.required (h.selected hello))
    ⟨fun ⟨a, b, c, d⟩ => ⟨a, b, c, d⟩, fun ⟨a, b, c, d⟩ => ⟨a, b, c, d⟩⟩

instance (hello : Hello) : Decidable (h.Matches hello) :=
  decidable_of_iff (hello.clean = true ∧ h.CapabilitiesValid hello ∧
      hello.schema = h.contract.wireSchemaRevision ∧ hello.registry = h.contract.registrySha256 ∧
      hello.abi = h.contract.wireAbi ∧ hello.digest = h.contract.commandSetDigest)
    ⟨fun ⟨a, b, c, d, e, f⟩ => ⟨a, b, c, d, e, f⟩, fun ⟨a, b, c, d, e, f⟩ => ⟨a, b, c, d, e, f⟩⟩

/-- The reply of `handle_Handshake`, to a matching handshake or to another. -/
def handshakeReply (hello : Hello) : List UInt8 :=
  Writer.u32 (if h.Matches hello then Status.ok.code else Status.decodeError.code) ++
    Writer.string h.contract.commandSetDigest ++ Writer.u32 (UInt32.ofNat h.physicalDeviceCount) ++
    Writer.u32 h.loaderApiVersion ++ Writer.u32 (if h.Matches hello then h.selected hello else 0)

end Host

/-- What a handler leaves behind; it replies at most once. -/
structure Handled (σ : Type) where
  rest : σ
  reply : Option (List UInt8)
  close : Bool

/-- The other commands, on the state `σ` of the session's tables. A handler may read the capabilities. A
wait is refused with a status or becomes a job in a lane. -/
structure Commands (σ : Type) where
  find : UInt32 → Option (UInt32 → σ → Message → Handled σ)
  isWait : UInt32 → Bool
  wait : σ → Message → σ × Except Status ℕ

/-- `received` and `ran` keep the messages that came and the opcodes that were executed, `served` the
tickets of the jobs whose `run` has returned; the code has none of them. -/
structure Serving (σ : Type) where
  rest : σ
  capabilities : UInt32 := 0
  handshakeComplete : Bool := false
  ended : Bool := false
  workers : RequestWorkers Message := {}
  served : Finset ℕ := ∅
  sent : List Message := []
  received : List Message := []
  ran : List UInt32 := []

namespace Serving

def note (s : Serving σ) (m : Message) : Serving σ := { s with received := s.received ++ [m] }

def send (s : Serving σ) (m : Message) (payload : List UInt8) : Serving σ :=
  { s with sent := s.sent ++ [⟨m.opcode, m.requestId, payload⟩] }

def reply (s : Serving σ) (m : Message) (payload : List UInt8) : Serving σ :=
  if m.requestId = 0 then s else s.send m payload

/-- The loop is left, and the workers are stopped. -/
def finish (s : Serving σ) : Serving σ := { s with ended := true, workers := s.workers.stop }

def run (s : Serving σ) (m : Message) : Serving σ := { s with ran := s.ran ++ [m.opcode] }

def handleHandshake (host : Host) (s : Serving σ) (m : Message) : Serving σ :=
  let hello := readHello m.payload
  let s := (s.run m).reply m (host.handshakeReply hello)
  if host.Matches hello then { s with capabilities := host.selected hello, handshakeComplete := true }
  else s.finish

/-- The idle, fence and semaphore waits. -/
def serveWait (commands : Commands σ) (s : Serving σ) (m : Message) : Serving σ :=
  match commands.wait s.rest m with
  | (rest, .error status) => { s with rest := rest }.reply m (Writer.u32 status.code)
  | (rest, .ok lane) =>
    let (workers, submitted) := s.workers.submit m.requestId.toNat m lane
    if submitted then { s.run m with rest := rest, workers := workers }
    else { s with rest := rest }.send m (Writer.u32 Status.decodeError.code)

def handle (s : Serving σ) (handler : UInt32 → σ → Message → Handled σ) (m : Message) : Serving σ :=
  let handled := handler s.capabilities s.rest m
  let s := { s.run m with rest := handled.rest }
  let s := handled.reply.elim s fun payload => s.reply m payload
  if handled.close then s.finish else s

/-- One round of the loop. -/
def serve (commands : Commands σ) (host : Host) (s : Serving σ) (m : Message) : Serving σ :=
  if s.handshakeComplete = false ∧ m.opcode ≠ opcodeHandshake then s.finish
  else if s.handshakeComplete = true ∧ m.opcode = opcodeHandshake then s.finish
  else if m.opcode = opcodeHandshake ∧ m.requestId = 0 then s.finish
  else if m.opcode = opcodePing then
    s.reply m (Writer.u32 (if m.requestId ≠ 0 ∧ m.payload = [] then Status.ok.code
      else Status.decodeError.code))
  else if m.opcode = opcodeHandshake then s.handleHandshake host m
  else
    match commands.find m.opcode with
    | none => s.reply m (Writer.u32 Status.unsupportedCommand.code)
    | some handler => if commands.isWait m.opcode then s.serveWait commands m else s.handle handler m

/-- A message the peer sent, the end of its stream, or a worker's part. -/
inductive Action
  | receive (m : Message)
  | hangUp
  | take
  | work (i : ℕ) (payload : Option (List UInt8))
  | file (i : ℕ)

def Action.messages : Action → List Message
  | receive m => [m]
  | _ => []

def step (commands : Commands σ) (host : Host) (s : Serving σ) : Action → Option (Serving σ)
  | .receive m =>
    if s.ended then none else some ((s.note m).serve commands host m)
  | .hangUp => if s.ended then none else some s.finish
  | .take => (s.workers.take Session.workerThreads).map fun w => { s with workers := w }
  | .work i payload =>
    match s.workers.running[i]? with
    | none => none
    | some job =>
      if job.ticket ∈ s.served then none
      else
        let s := { s with served := insert job.ticket s.served }
        some (payload.elim s fun payload => s.send job.run payload)
  | .file i =>
    match s.workers.running[i]? with
    | none => none
    | some job => if job.ticket ∈ s.served then (s.workers.file i).map fun w => { s with workers := w } else none

/-! ### What a session keeps -/

/-- A message that opens the session. -/
structure Accepted (host : Host) (m : Message) : Prop where
  opcode : m.opcode = opcodeHandshake
  answered : m.requestId ≠ 0
  matching : host.Matches (readHello m.payload)

/-- `s'` goes on from `s` and executes no handshake. -/
structure Extends (s s' : Serving σ) : Prop where
  handshakeComplete : s'.handshakeComplete = s.handshakeComplete
  capabilities : s'.capabilities = s.capabilities
  received : s'.received = s.received
  sent : s.sent <+: s'.sent
  ran : ∃ os, s'.ran = s.ran ++ os ∧ opcodeHandshake ∉ os

/-- A session before its handshake; once a message has come it has ended. -/
structure Closed (s : Serving σ) : Prop where
  accepted : s.workers.accepted = []
  capabilities : s.capabilities = 0
  untouched : s.ended = false → s.received = [] ∧ s.ran = [] ∧ s.sent = []
  ran : ∀ o ∈ s.ran, o = opcodeHandshake
  sent : ∀ r ∈ s.sent, r.opcode = opcodeHandshake

/-- Nothing but a handshake is executed or answered before one has succeeded; the first message is the
handshake that opened the session and chose its capabilities. -/
structure Gated (host : Host) (s : Serving σ) : Prop where
  pool : RequestWorkers.Inv s.workers
  closed : s.handshakeComplete = false → Closed s
  opened : s.handshakeComplete = true → ∃ m rest, s.received = m :: rest ∧ Accepted host m ∧
    s.capabilities = host.selected (readHello m.payload) ∧ s.sent ≠ []
  ran : ∀ o ∈ s.ran.tail, o ≠ opcodeHandshake
  first : ∀ r ∈ s.sent.head?, ∃ m ∈ s.received.head?, m.opcode = opcodeHandshake ∧
    r = ⟨m.opcode, m.requestId, host.handshakeReply (readHello m.payload)⟩

section Steps

variable {commands : Commands σ} {host : Host} {s s₁ s₂ : Serving σ} {m : Message}

theorem gated_start (rest : σ) : Gated host ({ rest := rest } : Serving σ) where
  pool := RequestWorkers.inv_initial
  closed _ := ⟨rfl, rfl, fun _ => ⟨rfl, rfl, rfl⟩, by simp, by simp⟩
  opened h := by cases h
  ran := by simp
  first := by simp

theorem Extends.refl (s : Serving σ) : Extends s s :=
  ⟨rfl, rfl, rfl, List.prefix_refl _, [], (List.append_nil _).symm, List.not_mem_nil⟩

theorem Extends.trans {s₃ : Serving σ} (h : Extends s s₂) (h' : Extends s₂ s₃) : Extends s s₃ := by
  obtain ⟨os, hos, hno⟩ := h.ran
  obtain ⟨os', hos', hno'⟩ := h'.ran
  refine ⟨h'.handshakeComplete.trans h.handshakeComplete, h'.capabilities.trans h.capabilities,
    h'.received.trans h.received, h.sent.trans h'.sent, os ++ os', ?_, ?_⟩
  · rw [hos', hos, List.append_assoc]
  · exact fun hmem => (List.mem_append.1 hmem).elim hno hno'

theorem extends_reply (s : Serving σ) (m : Message) (payload : List UInt8) : Extends s (s.reply m payload) := by
  unfold reply
  split
  · exact .refl s
  · exact ⟨rfl, rfl, rfl, List.prefix_append _ _, [], (List.append_nil _).symm, List.not_mem_nil⟩

theorem extends_finish (s : Serving σ) : Extends s s.finish :=
  ⟨rfl, rfl, rfl, List.prefix_refl _, [], (List.append_nil _).symm, List.not_mem_nil⟩

theorem extends_serveWait (s : Serving σ) (hm : m.opcode ≠ opcodeHandshake) :
    Extends s (s.serveWait commands m) := by
  unfold serveWait
  split
  · next rest status _ =>
    have hrest : Extends s { s with rest := rest } :=
      ⟨rfl, rfl, rfl, List.prefix_refl _, [], (List.append_nil _).symm, List.not_mem_nil⟩
    exact hrest.trans (extends_reply _ m _)
  · next rest lane _ =>
    dsimp only
    split
    · exact ⟨rfl, rfl, rfl, List.prefix_refl _, [m.opcode], rfl, fun h => hm (List.mem_singleton.1 h).symm⟩
    · exact ⟨rfl, rfl, rfl, List.prefix_append _ _, [], (List.append_nil _).symm, List.not_mem_nil⟩

theorem extends_handle (s : Serving σ) (handler : UInt32 → σ → Message → Handled σ)
    (hm : m.opcode ≠ opcodeHandshake) : Extends s (s.handle handler m) := by
  have hrun : Extends s { s.run m with rest := (handler s.capabilities s.rest m).rest } :=
    ⟨rfl, rfl, rfl, List.prefix_refl _, [m.opcode], rfl, fun h => hm (List.mem_singleton.1 h).symm⟩
  have hreply : Extends s ((handler s.capabilities s.rest m).reply.elim
      { s.run m with rest := (handler s.capabilities s.rest m).rest }
      fun payload => reply { s.run m with rest := (handler s.capabilities s.rest m).rest } m payload) := by
    cases (handler s.capabilities s.rest m).reply with
    | none => exact hrun
    | some payload => exact hrun.trans (extends_reply _ m payload)
  unfold handle
  dsimp only
  split
  · exact hreply.trans (extends_finish _)
  · exact hreply

/-- Before the handshake the gate lets one thing through. -/
theorem serve_closed (h : s.handshakeComplete = false) : s.serve commands host m =
    if m.opcode = opcodeHandshake ∧ m.requestId ≠ 0 then s.handleHandshake host m else s.finish := by
  unfold serve
  by_cases hm : m.opcode = opcodeHandshake
  · have hping : m.opcode ≠ opcodePing := by
      rw [hm]
      decide
    by_cases hid : m.requestId = 0
    · simp [h, hm, hid]
    · rw [if_neg fun hc => hc.2 hm, if_neg fun hc => Bool.false_ne_true (h.symm.trans hc.1),
        if_neg fun hc => hid hc.2, if_neg hping, if_pos hm, if_pos ⟨hm, hid⟩]
  · rw [if_pos ⟨h, hm⟩, if_neg fun hc => hm hc.1]

theorem serve_second (h : s.handshakeComplete = true) (hm : m.opcode = opcodeHandshake) :
    s.serve commands host m = s.finish := by
  unfold serve
  rw [if_neg fun hc => hc.2 hm, if_pos ⟨h, hm⟩]

theorem extends_serve_open (h : s.handshakeComplete = true) : Extends s (s.serve commands host m) := by
  by_cases hm : m.opcode = opcodeHandshake
  · rw [serve_second h hm]
    exact extends_finish s
  · unfold serve
    rw [if_neg fun hc => Bool.false_ne_true (hc.1.symm.trans h), if_neg fun hc => hm hc.2,
      if_neg fun hc => hm hc.1]
    split
    · exact extends_reply s m _
    · split
      · exact extends_reply s m _
      · split
        · exact extends_serveWait s hm
        · exact extends_handle s _ hm

@[simp] theorem reply_workers (s : Serving σ) (m : Message) (payload : List UInt8) :
    (s.reply m payload).workers = s.workers := by
  unfold reply
  split <;> rfl

theorem pool_finish (h : RequestWorkers.Inv s.workers) : RequestWorkers.Inv s.finish.workers :=
  RequestWorkers.inv_stop h

theorem pool_handleHandshake (h : RequestWorkers.Inv s.workers) :
    RequestWorkers.Inv (s.handleHandshake host m).workers := by
  unfold handleHandshake
  dsimp only
  split
  · rw [reply_workers]
    exact h
  · refine pool_finish ?_
    rw [reply_workers]
    exact h

theorem pool_serveWait (h : RequestWorkers.Inv s.workers) :
    RequestWorkers.Inv (s.serveWait commands m).workers := by
  unfold serveWait
  split
  · rw [reply_workers]
    exact h
  · next rest lane _ =>
    dsimp only
    split
    · exact RequestWorkers.inv_submit h _ _ _
    · exact h

theorem pool_handle (handler : UInt32 → σ → Message → Handled σ) (h : RequestWorkers.Inv s.workers) :
    RequestWorkers.Inv (s.handle handler m).workers := by
  have hreply : RequestWorkers.Inv ((handler s.capabilities s.rest m).reply.elim
      { s.run m with rest := (handler s.capabilities s.rest m).rest }
      fun payload => reply { s.run m with rest := (handler s.capabilities s.rest m).rest } m payload).workers := by
    cases (handler s.capabilities s.rest m).reply with
    | none => exact h
    | some payload =>
      rw [Option.elim_some, reply_workers]
      exact h
  unfold handle
  dsimp only
  split
  · exact pool_finish hreply
  · exact hreply

theorem pool_serve (h : RequestWorkers.Inv s.workers) : RequestWorkers.Inv (s.serve commands host m).workers := by
  unfold serve
  split
  · exact pool_finish h
  · split
    · exact pool_finish h
    · split
      · exact pool_finish h
      · split
        · rw [reply_workers]
          exact h
        · split
          · exact pool_handleHandshake h
          · split
            · rw [reply_workers]
              exact h
            · split
              · exact pool_serveWait h
              · exact pool_handle _ h

theorem Gated.extend (h : Gated host s) (hext : Extends s s₂) (hpool : RequestWorkers.Inv s₂.workers)
    (hopen : s.handshakeComplete = true) : Gated host s₂ := by
  obtain ⟨os, hos, hno⟩ := hext.ran
  obtain ⟨m, rest, hreceived, haccepted, hcaps, hsent⟩ := h.opened hopen
  obtain ⟨r, rs, hrs⟩ := List.exists_cons_of_ne_nil hsent
  obtain ⟨rs', hrs'⟩ := hext.sent
  have hstill := hext.handshakeComplete.trans hopen
  refine ⟨hpool, fun hc => absurd (hc.symm.trans hstill) Bool.false_ne_true, fun _ => ?_, fun o ho => ?_, ?_⟩
  · refine ⟨m, rest, hext.received.trans hreceived, haccepted, hext.capabilities.trans hcaps, ?_⟩
    rw [← hrs', hrs]
    exact List.cons_ne_nil _ _
  · rw [hos] at ho
    cases hran : s.ran with
    | nil =>
      rw [hran, List.nil_append] at ho
      exact fun heq => hno (heq ▸ List.mem_of_mem_tail ho)
    | cons o₁ os₁ =>
      have hold := h.ran o
      rw [hran, List.cons_append, List.tail_cons, List.mem_append] at ho
      rw [hran, List.tail_cons] at hold
      rcases ho with ho | ho
      · exact hold ho
      · exact fun heq => hno (heq ▸ ho)
  · rw [hext.received, ← hrs', hrs]
    have hfirst := h.first
    rwa [hrs] at hfirst

theorem gated_finish (h : Gated host s) : Gated host s.finish := by
  refine ⟨pool_finish h.pool, fun hc => ?_, h.opened, h.ran, h.first⟩
  have hclosed := h.closed hc
  exact ⟨(RequestWorkers.stop_accepted _).trans hclosed.accepted, hclosed.capabilities,
    fun he => Bool.noConfusion he, hclosed.ran, hclosed.sent⟩

theorem reply_first (hran : s.ran = []) (hsent : s.sent = []) (hid : m.requestId ≠ 0) (payload : List UInt8) :
    (s.run m).reply m payload = { s with ran := [m.opcode], sent := [⟨m.opcode, m.requestId, payload⟩] } := by
  simp [reply, run, send, hid, hran, hsent]

/-- The first message either opens the session or ends it. -/
theorem gated_first (h : Gated host s) (hc : s.handshakeComplete = false) (hlive : s.ended = false) :
    Gated host ((s.note m).serve commands host m) := by
  have hclosed := h.closed hc
  obtain ⟨hreceived, hran, hsent⟩ := hclosed.untouched hlive
  have haccepted : ∀ s' : Serving σ, s'.workers = s.workers.stop → s'.workers.accepted = [] :=
    fun s' hs' => (congrArg _ hs').trans ((RequestWorkers.stop_accepted _).trans hclosed.accepted)
  rw [serve_closed (s := s.note m) hc]
  split
  · next hm =>
    unfold handleHandshake
    dsimp only
    rw [reply_first (s := s.note m) hran hsent hm.2]
    have hfirst : ∀ r ∈ [(⟨m.opcode, m.requestId, host.handshakeReply (readHello m.payload)⟩ : Message)].head?,
        ∃ m' ∈ (s.note m).received.head?, m'.opcode = opcodeHandshake ∧
          r = ⟨m'.opcode, m'.requestId, host.handshakeReply (readHello m'.payload)⟩ := by
      intro r hr
      obtain rfl := Option.some.inj hr
      exact ⟨m, by simp [note, hreceived], hm.1, rfl⟩
    split
    · next hmatch =>
      refine ⟨h.pool, fun hno => Bool.noConfusion hno, fun _ => ?_, by simp, hfirst⟩
      exact ⟨m, [], by simp [note, hreceived], ⟨hm.1, hm.2, hmatch⟩, rfl, List.cons_ne_nil _ _⟩
    · refine ⟨pool_finish h.pool, fun _ => ?_, fun hno => absurd (hc.symm.trans hno) Bool.false_ne_true,
        by simp [finish], hfirst⟩
      exact ⟨haccepted _ rfl, hclosed.capabilities, fun he => Bool.noConfusion he, by simp [finish, hm.1],
        by simp [finish, hm.1]⟩
  · refine ⟨pool_finish h.pool, fun _ => ?_, fun hno => absurd (hc.symm.trans hno) Bool.false_ne_true, ?_, ?_⟩
    · exact ⟨haccepted _ rfl, hclosed.capabilities, fun he => Bool.noConfusion he, hclosed.ran, hclosed.sent⟩
    · exact h.ran
    · simp [finish, note, hsent]

theorem gated_receive (h : Gated host s) (hlive : s.ended = false) :
    Gated host ((s.note m).serve commands host m) := by
  rcases Bool.eq_false_or_eq_true s.handshakeComplete with hc | hc
  · obtain ⟨m₀, rest, hreceived, haccepted, hcaps, hsent⟩ := h.opened hc
    have hnew : Gated host (s.note m) := by
      refine ⟨h.pool, fun hno => absurd (hno.symm.trans hc) Bool.false_ne_true, fun _ => ?_, h.ran, ?_⟩
      · refine ⟨m₀, rest ++ [m], ?_, haccepted, hcaps, hsent⟩
        rw [note, hreceived]
        rfl
      · have hfirst := h.first
        rw [hreceived] at hfirst
        rw [note, hreceived]
        exact hfirst
    exact hnew.extend (extends_serve_open hc) (pool_serve h.pool) hc
  · exact gated_first h hc hlive

/-- The workers have nothing to do before the handshake. -/
theorem Gated.idle (h : Gated host s) (hclosed : s.handshakeComplete = false) :
    s.workers.running = [] ∧ s.workers.jobs = [] := by
  have haccepted := (h.closed hclosed).accepted
  have hstarted : s.workers.started = [] := List.eq_nil_iff_forall_not_mem.2 fun j hj => by
    have hmem := h.pool.started_subset hj
    rw [haccepted] at hmem
    cases hmem
  refine ⟨?_, ?_⟩
  · refine List.eq_nil_iff_forall_not_mem.2 fun j hj => ?_
    have hmem := h.pool.mem_started.2 (.inl hj)
    rw [hstarted] at hmem
    cases hmem
  · refine List.eq_nil_iff_forall_not_mem.2 fun j hj => ?_
    have hmem := (h.pool.held_unfinished (.inl (.inl hj))).1
    rw [haccepted] at hmem
    cases hmem

theorem extends_workers (s : Serving σ) (w : RequestWorkers Message) : Extends s { s with workers := w } :=
  ⟨rfl, rfl, rfl, List.prefix_refl _, [], (List.append_nil _).symm, List.not_mem_nil⟩

theorem gated_step (a : Action) (h : Gated host s) (hs : step commands host s a = some s₂) : Gated host s₂ := by
  cases a with
  | receive m =>
    unfold step at hs
    dsimp only at hs
    split at hs
    · cases hs
    · next hlive =>
      obtain rfl := Option.some.inj hs
      exact gated_receive h (Bool.eq_false_iff.2 hlive)
  | hangUp =>
    unfold step at hs
    dsimp only at hs
    split at hs
    · cases hs
    · obtain rfl := Option.some.inj hs
      exact gated_finish h
  | take =>
    obtain ⟨w, hw, rfl⟩ := Option.map_eq_some_iff.1 hs
    obtain ⟨-, -, j, rest, hjobs, -⟩ := RequestWorkers.take_cases hw
    rcases Bool.eq_false_or_eq_true s.handshakeComplete with hc | hc
    · exact h.extend (extends_workers s w) (RequestWorkers.inv_take h.pool hw) hc
    · rw [(h.idle hc).2] at hjobs
      cases hjobs
  | work i payload =>
    unfold step at hs
    dsimp only at hs
    split at hs
    · cases hs
    · next job hi =>
      split at hs
      · cases hs
      · rcases Bool.eq_false_or_eq_true s.handshakeComplete with hc | hc
        · obtain rfl := Option.some.inj hs
          cases payload with
          | none =>
            exact h.extend ⟨rfl, rfl, rfl, List.prefix_refl _, [], (List.append_nil _).symm,
              List.not_mem_nil⟩ h.pool hc
          | some payload =>
            exact h.extend ⟨rfl, rfl, rfl, List.prefix_append _ _, [], (List.append_nil _).symm,
              List.not_mem_nil⟩ h.pool hc
        · rw [(h.idle hc).1] at hi
          cases hi
  | file i =>
    unfold step at hs
    dsimp only at hs
    split at hs
    · cases hs
    · next job hi =>
      split at hs
      · rcases Bool.eq_false_or_eq_true s.handshakeComplete with hc | hc
        · obtain ⟨w, hw, rfl⟩ := Option.map_eq_some_iff.1 hs
          exact h.extend (extends_workers s w) (RequestWorkers.inv_file h.pool hw) hc
        · rw [(h.idle hc).1] at hi
          cases hi
      · cases hs

theorem gated_of_reachable {rest : σ} (h : Reachable (step commands host) { rest := rest } s) :
    Gated host s := by
  obtain ⟨as, hrun⟩ := h
  exact hrun.invariant (gated_start rest) fun _ a _ => gated_step a

theorem serve_received (s : Serving σ) (m : Message) : (s.serve commands host m).received = s.received := by
  rcases Bool.eq_false_or_eq_true s.handshakeComplete with hc | hc
  · exact (extends_serve_open hc).received
  · rw [serve_closed hc]
    split
    · unfold handleHandshake
      dsimp only
      have hreply := (extends_reply (s.run m) m (host.handshakeReply (readHello m.payload))).received
      split <;> exact hreply
    · rfl

theorem received_step (a : Action) (hs : step commands host s a = some s₂) :
    s₂.received = s.received ++ a.messages := by
  cases a with
  | receive m =>
    unfold step at hs
    dsimp only at hs
    split at hs
    · cases hs
    · obtain rfl := Option.some.inj hs
      exact serve_received _ m
  | hangUp =>
    unfold step at hs
    dsimp only at hs
    split at hs
    · cases hs
    · obtain rfl := Option.some.inj hs
      exact (List.append_nil _).symm
  | take =>
    obtain ⟨w, -, rfl⟩ := Option.map_eq_some_iff.1 hs
    exact (List.append_nil _).symm
  | work i payload =>
    unfold step at hs
    dsimp only at hs
    split at hs
    · cases hs
    · split at hs
      · cases hs
      · obtain rfl := Option.some.inj hs
        cases payload <;> exact (List.append_nil _).symm
  | file i =>
    unfold step at hs
    dsimp only at hs
    split at hs
    · cases hs
    · split at hs
      · obtain ⟨w, -, rfl⟩ := Option.map_eq_some_iff.1 hs
        exact (List.append_nil _).symm
      · cases hs

/-- Before the handshake a message opens the session or ends it. -/
theorem receive_closed (hclosed : s.handshakeComplete = false)
    (hs : step commands host s (.receive m) = some s₂) :
    (Accepted host m ∧ s₂.handshakeComplete = true) ∨
      (¬ Accepted host m ∧ s₂.handshakeComplete = false ∧ s₂.ended = true) := by
  unfold step at hs
  dsimp only at hs
  split at hs
  · cases hs
  · obtain rfl := Option.some.inj hs
    rw [serve_closed (s := s.note m) hclosed]
    split
    · next hm =>
      unfold handleHandshake
      dsimp only
      split
      · next hmatch => exact .inl ⟨⟨hm.1, hm.2, hmatch⟩, rfl⟩
      · next hmatch =>
        refine .inr ⟨fun h => hmatch h.matching, ?_, rfl⟩
        exact (extends_reply _ m _).handshakeComplete.trans hclosed
    · next hm => exact .inr ⟨fun h => hm ⟨h.opcode, h.answered⟩, hclosed, rfl⟩

/-- A second handshake ends the session, and is neither executed nor answered. -/
theorem receive_second (hopen : s.handshakeComplete = true) (hm : m.opcode = opcodeHandshake)
    (hs : step commands host s (.receive m) = some s₂) :
    s₂.ended = true ∧ s₂.sent = s.sent ∧ s₂.ran = s.ran := by
  unfold step at hs
  dsimp only at hs
  split at hs
  · cases hs
  · obtain rfl := Option.some.inj hs
    rw [serve_second (s := s.note m) hopen hm]
    exact ⟨rfl, rfl, rfl⟩

theorem receive_ended (hended : s.ended = true) : step commands host s (.receive m) = none :=
  if_pos hended

end Steps

end Serving

end VkRemote.Server
