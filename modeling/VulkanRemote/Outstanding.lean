import VulkanRemote.Client.Correlation
import VulkanRemote.Server.OnewayErrors

/-! Both ends of a connection, as far as blocking waits go: the client's table of outstanding requests
with its limit, the wire, the session with its workers, and the replies on their way back. -/

namespace VkRemote

open Lib Server
open Client (RequestId)
open Client.Connection (allocateId)
open Server.RequestWorkers (Accepts submit_accepted submit_cases)

/-- A well-formed wait on live objects; the native handles are not `VK_NULL_HANDLE`. -/
inductive Wait
  | queueWaitIdle (queue : {handle : ℕ // handle ≠ 0})
  | deviceWaitIdle (device : {handle : ℕ // handle ≠ 0})
  | waitForFences
  | waitSemaphores
  deriving DecidableEq

namespace Wait

def command : Wait → Command
  | queueWaitIdle _ => .queueWaitIdle
  | deviceWaitIdle _ => .deviceWaitIdle
  | waitForFences => .waitForFences
  | waitSemaphores => .waitSemaphores

/-- What the control lane makes of the wait. -/
def event (id : RequestId) : Wait → Session.Event
  | queueWaitIdle queue => .queueWaitIdle id.toNat queue
  | deviceWaitIdle device => .deviceWaitIdle id.toNat device
  | waitForFences => .waitForFences id.toNat true
  | waitSemaphores => .waitSemaphores id.toNat true true

end Wait

/-- `room` says whether fewer than `kMaxJobs` jobs were unfinished when the request came. -/
structure Arrival where
  id : RequestId
  wait : Wait
  room : Bool
  deriving DecidableEq

/-- What a refused request is told. -/
def Arrival.refusal (a : Arrival) : Server.Reply :=
  ⟨a.id.toNat, a.wait.command, .decodeError, none, none⟩

/-- `unsent` holds what the calling threads have registered and not sent yet, `received` counts the
replies the receiver has matched. `issued`, `arrived` and `driven` keep the past: the ids given out, the requests
taken off the wire, and what the driver's wait returned for the job with a ticket. The code has none of them. -/
structure Endpoints where
  pending : List RequestId := []
  nextRequestId : RequestId := 1
  unsent : List (RequestId × Wait) := []
  wire : List (RequestId × Wait) := []
  session : Session := {}
  received : ℕ := 0
  issued : List RequestId := []
  arrived : List Arrival := []
  driven : List (ℕ × ℤ) := []

namespace Endpoints

/-- A critical section or a send of a calling thread, a request the control lane takes off the wire, a
critical section of a worker or a job's `run`, or a reply the receiver matches. -/
inductive Action
  | issue (wait : Wait)
  | send (i : ℕ)
  | arrive
  | command (marks : ℕ)
  | take
  | work (i : ℕ) (result : ℤ)
  | file (i : ℕ)
  | receive
  deriving DecidableEq

def serve (s : Endpoints) (e : Session.Event) : Option Endpoints :=
  (s.session.step e).map fun session => { s with session := session }

def hasRoom (s : Endpoints) : Bool := s.session.workers.activeIds.card < kMaxJobs

/-- `limit` is the client's bound on its outstanding requests. The driver returns from every wait, with any
result. -/
def step (limit : ℕ) (s : Endpoints) : Action → Option Endpoints
  | .issue wait =>
    if limit ≤ s.pending.length then none
    else
      (allocateId s.pending (s.pending.length + 2) s.nextRequestId).map fun (id, next) =>
        { s with
          nextRequestId := next
          pending := s.pending ++ [id]
          unsent := s.unsent ++ [(id, wait)]
          issued := s.issued ++ [id] }
  | .send i =>
    match s.unsent[i]? with
    | none => none
    | some m => some { s with unsent := s.unsent.eraseIdx i, wire := s.wire ++ [m] }
  | .arrive =>
    match s.wire with
    | [] => none
    | (id, wait) :: rest =>
      serve { s with wire := rest, arrived := s.arrived ++ [⟨id, wait, s.hasRoom⟩] } (wait.event id)
  | .command marks => s.serve (.command marks)
  | .take => s.serve .take
  | .work i result =>
    match s.session.workers.running[i]? with
    | none => none
    | some job => serve { s with driven := s.driven ++ [(job.ticket, result)] } (.work i (some result))
  | .file i => s.serve (.file i)
  | .receive =>
    match s.session.replies[s.received]? with
    | none => none
    | some r =>
      some { s with
        pending := s.pending.erase (.ofNat r.requestId)
        received := s.received + 1 }

/-- The accepted jobs that have not run. -/
def unserved (s : Session) : List (Job Work) :=
  s.workers.accepted.filter fun j => j.ticket ∉ s.served

def jobId (j : Job Work) : RequestId := .ofNat j.requestId

def replyId (r : Server.Reply) : RequestId := .ofNat r.requestId

/-- The reply to a job that ran: what the driver returned for this job, and the count it was queued with. -/
structure Answers (driven : List (ℕ × ℤ)) (r : Server.Reply) (j : Job Work) : Prop where
  id : r.requestId = j.requestId
  command : r.command = j.run.command
  ok : r.status = .ok
  result : ∃ v, (j.ticket, v) ∈ driven ∧ r.result = some v
  errors : r.errors = j.run.errors

/-- The requests that found room, and no others, became jobs; the driver's wait is made once for a job that ran,
which is answered with its result, and the requests that found no room are refused. -/
structure Books (s : Session) (arrived : List Arrival) (driven : List (ℕ × ℤ)) : Prop where
  accepted : (s.workers.accepted.map fun j => (j.requestId, j.run.command)) =
    (arrived.filter Arrival.room).map fun a => (a.id.toNat, a.wait.command)
  refused : (s.replies.filter fun r => r.status ≠ .ok) =
    (arrived.filter fun a => !a.room).map Arrival.refusal
  ran : ∀ t, t ∈ driven.map Prod.fst ↔ t ∈ s.served
  ranOnce : (driven.map Prod.fst).Nodup
  answers : ∀ r ∈ s.replies, r.status = .ok → ∃ j ∈ s.workers.accepted, j.ticket ∈ s.served ∧ Answers driven r j
  answered : ∀ j ∈ s.workers.accepted, j.ticket ∈ s.served → ∃ r ∈ s.replies, Answers driven r j
  owed : (arrived.map Arrival.id).Perm ((unserved s).map jobId ++ s.replies.map replyId)

structure Inv (limit : ℕ) (s : Endpoints) : Prop where
  session : Session.Inv s.session
  unstopped : s.session.workers.stopping = false
  busy : s.session.workers.running.length ≤ Session.workerThreads
  filed : ∀ j ∈ s.session.workers.finished, j.ticket ∈ s.session.served
  books : Books s.session s.arrived s.driven
  issued : s.issued.Perm (s.unsent.map Prod.fst ++ s.wire.map Prod.fst ++ s.arrived.map Arrival.id)
  nonzero : ∀ id ∈ s.issued, id ≠ 0
  pending : s.pending.Perm (s.unsent.map Prod.fst ++ s.wire.map Prod.fst ++
    ((unserved s.session).map jobId ++ (s.session.replies.drop s.received).map replyId))
  within : s.pending.length ≤ limit
  received : s.received ≤ s.session.replies.length

theorem inv_initial (limit : ℕ) : Inv limit {} where
  session := Session.inv_initial
  unstopped := rfl
  busy := Nat.zero_le _
  filed := by simp
  books := ⟨rfl, rfl, by simp, List.nodup_nil, by simp, by simp, .refl _⟩
  issued := .refl _
  nonzero := by simp
  pending := .refl _
  within := Nat.zero_le _
  received := Nat.zero_le _

section Session

variable {s s' : Session} {arrived : List Arrival} {driven : List (ℕ × ℤ)}

theorem Answers.mono {driven' : List (ℕ × ℤ)} {r : Server.Reply} {j : Job Work} (h : Answers driven r j)
    (hsub : driven ⊆ driven') : Answers driven' r j :=
  { h with result := h.result.imp fun _ hv => ⟨hsub hv.1, hv.2⟩ }

theorem Books.same (h : Books s arrived driven) (haccepted : s'.workers.accepted = s.workers.accepted)
    (hserved : s'.served = s.served) (hreplies : s'.replies = s.replies) : Books s' arrived driven := by
  have hunserved : unserved s' = unserved s := by rw [unserved, unserved, haccepted, hserved]
  refine ⟨?_, ?_, hserved ▸ h.ran, h.ranOnce, ?_, ?_, ?_⟩
  · rw [haccepted]
    exact h.accepted
  · rw [hreplies]
    exact h.refused
  · rw [haccepted, hserved, hreplies]
    exact h.answers
  · rw [haccepted, hserved, hreplies]
    exact h.answered
  · rw [hunserved, hreplies]
    exact h.owed

/-- A wait ends in `enqueue`, under its own id and with its own command. -/
theorem step_event {id : RequestId} (hid : id ≠ 0) (wait : Wait) :
    ∃ (base : Session) (work : Work) (lane : ℕ), base.workers = s.workers ∧ base.replies = s.replies ∧
      base.served = s.served ∧ work.command = wait.command ∧
      s.step (wait.event id) = some (base.enqueue id.toNat work lane) := by
  have hid' : id.toNat ≠ 0 := fun h => hid (UInt64.toNat_inj.1 h)
  cases wait with
  | queueWaitIdle queue =>
    refine ⟨s, .queueWaitIdle, queue, rfl, rfl, rfl, rfl, ?_⟩
    exact congrArg some (if_pos ⟨hid', queue.2⟩)
  | deviceWaitIdle device =>
    refine ⟨{ s with onewayErrors := 0 }, .deviceWaitIdle s.onewayErrors, 0, rfl, rfl, rfl, rfl, ?_⟩
    exact congrArg some (if_pos ⟨hid', device.2⟩)
  | waitForFences =>
    refine ⟨s, .waitForFences, 0, rfl, rfl, rfl, rfl, ?_⟩
    exact congrArg some (if_pos ⟨hid', rfl⟩)
  | waitSemaphores =>
    refine ⟨s, .waitSemaphores, 0, rfl, rfl, rfl, rfl, ?_⟩
    exact congrArg some ((if_neg hid').trans (if_pos ⟨rfl, rfl⟩))

/-- What an arriving wait does to the session. -/
theorem arrive_cases {id : RequestId} (hid : id ≠ 0) (wait : Wait)
    (h : s.step (wait.event id) = some s') :
    (Accepts s.workers id.toNat ∧ ∃ job : Job Work, job.ticket = s.workers.accepted.length ∧
      job.requestId = id.toNat ∧ job.run.command = wait.command ∧
      s'.workers.accepted = s.workers.accepted ++ [job] ∧ s'.workers.running = s.workers.running ∧
      s'.workers.finished = s.workers.finished ∧ s'.workers.stopping = s.workers.stopping ∧
      s'.served = s.served ∧ s'.replies = s.replies) ∨
    (¬ Accepts s.workers id.toNat ∧ s'.workers = s.workers ∧ s'.served = s.served ∧
      s'.replies = s.replies ++ [⟨id.toNat, wait.command, .decodeError, none, none⟩]) := by
  obtain ⟨base, work, lane, hworkers, hreplies, hserved, hcommand, hstep⟩ := step_event (s := s) hid wait
  obtain rfl := Option.some.inj (hstep.symm.trans h)
  by_cases hacc : Accepts s.workers id.toNat
  · refine .inl ⟨hacc, ⟨s.workers.accepted.length, id.toNat, lane, work⟩, rfl, rfl, hcommand, ?_⟩
    rw [Session.enqueue_of_accepts (hworkers.symm ▸ hacc)]
    dsimp only
    rw [hworkers]
    refine ⟨submit_accepted lane work hacc, ?_, ?_, ?_, hserved, hreplies⟩ <;>
      rcases submit_cases lane work hacc with ⟨-, heq⟩ | ⟨-, -, heq⟩ <;> rw [heq]
  · rw [Session.enqueue_of_refuses (hworkers.symm ▸ hacc), hcommand]
    refine .inr ⟨hacc, hworkers, hserved, ?_⟩
    rw [Session.send, hreplies]

theorem work_cases {i : ℕ} {result : ℤ} (h : s.work i (some result) = some s') :
    ∃ j, s.workers.running[i]? = some j ∧ j.ticket ∉ s.served ∧ s'.workers = s.workers ∧
      s'.served = insert j.ticket s.served ∧
      s'.replies = s.replies ++ [⟨j.requestId, j.run.command, .ok, some result, j.run.errors⟩] := by
  unfold Session.work at h
  split at h
  · cases h
  · next j hi =>
    split at h
    · cases h
    · next hserved =>
      obtain rfl := Option.some.inj h
      exact ⟨j, hi, hserved, rfl, rfl, rfl⟩

/-- The job that runs leaves the unserved ones. -/
theorem unserved_perm (inv : Session.Inv s) {j : Job Work} (hj : j ∈ s.workers.accepted)
    (hserved : j.ticket ∉ s.served) (hworkers : s'.workers = s.workers)
    (hs' : s'.served = insert j.ticket s.served) : (unserved s).Perm (j :: unserved s') := by
  have hgone : j ∉ unserved s' := by simp [unserved, hs']
  refine (List.perm_ext_iff_of_nodup (inv.pool.ids.nodup.filter _)
    (List.nodup_cons.2 ⟨hgone, (hworkers ▸ inv.pool.ids.nodup).filter _⟩)).2 fun k => ?_
  rw [List.mem_cons]
  constructor
  · intro hk
    obtain ⟨hacc, hnot⟩ := List.mem_filter.1 hk
    by_cases heq : k = j
    · exact .inl heq
    · refine .inr (List.mem_filter.2 ⟨hworkers ▸ hacc, ?_⟩)
      have hticket : k.ticket ≠ j.ticket := fun h => heq (inv.pool.ids.ticket_inj hacc hj h)
      simpa [hs', hticket] using hnot
  · intro h
    rcases h with rfl | hk
    · exact List.mem_filter.2 ⟨hj, by simpa using hserved⟩
    · obtain ⟨hacc, hnot⟩ := List.mem_filter.1 hk
      refine List.mem_filter.2 ⟨hworkers ▸ hacc, ?_⟩
      simp only [hs', Finset.mem_insert, not_or, decide_eq_true_eq] at hnot ⊢
      exact hnot.2

theorem Books.work (h : Books s arrived driven) (inv : Session.Inv s) {i : ℕ} {job : Job Work} {result : ℤ}
    (hi : s.workers.running[i]? = some job) (hwork : s.work i (some result) = some s') :
    Books s' arrived (driven ++ [(job.ticket, result)]) := by
  obtain ⟨j, hj, hserved, hworkers, hs', hreplies⟩ := work_cases hwork
  obtain rfl : job = j := Option.some.inj (hi.symm.trans hj)
  have hjob : job ∈ s.workers.accepted :=
    inv.pool.started_subset (inv.pool.mem_started.2 (.inl (List.mem_of_getElem? hi)))
  have hnew : Answers (driven ++ [(job.ticket, result)])
      ⟨job.requestId, job.run.command, .ok, some result, job.run.errors⟩ job :=
    ⟨rfl, rfl, rfl, ⟨result, List.mem_append_right _ (List.mem_singleton_self _), rfl⟩, rfl⟩
  have hsub : driven ⊆ driven ++ [(job.ticket, result)] := List.subset_append_left _ _
  refine ⟨?_, ?_, fun t => ?_, ?_, fun r hr hok => ?_, fun k hk hkserved => ?_, ?_⟩
  · rw [hworkers]
    exact h.accepted
  · rw [hreplies, List.filter_append, h.refused]
    simp
  · rw [List.map_append, List.mem_append, h.ran, List.map_singleton, List.mem_singleton, hs', Finset.mem_insert]
    exact or_comm
  · rw [List.map_append, List.map_singleton, ← List.concat_eq_append]
    exact h.ranOnce.concat fun hold => hserved ((h.ran _).1 hold)
  · rw [hreplies, List.mem_append, List.mem_singleton] at hr
    rw [hworkers, hs']
    rcases hr with hr | rfl
    · obtain ⟨k, hk, hkserved, hans⟩ := h.answers r hr hok
      exact ⟨k, hk, Finset.mem_insert_of_mem hkserved, hans.mono hsub⟩
    · exact ⟨job, hjob, Finset.mem_insert_self _ _, hnew⟩
  · rw [hworkers] at hk
    rw [hreplies]
    by_cases hold : k.ticket ∈ s.served
    · obtain ⟨r, hr, hans⟩ := h.answered k hk hold
      exact ⟨r, List.mem_append_left _ hr, hans.mono hsub⟩
    · rw [hs', Finset.mem_insert] at hkserved
      obtain rfl := inv.pool.ids.ticket_inj hk hjob (hkserved.resolve_right hold)
      exact ⟨_, List.mem_append_right _ (List.mem_singleton_self _), hnew⟩
  · rw [hreplies, List.map_append]
    refine h.owed.trans ?_
    calc ((unserved s).map jobId ++ s.replies.map replyId).Perm
          (jobId job :: ((unserved s').map jobId ++ s.replies.map replyId)) :=
        ((unserved_perm inv hjob hserved hworkers hs').map jobId).append_right _
      List.Perm _ ((unserved s').map jobId ++ (s.replies.map replyId ++ [jobId job])) := by
        rw [← List.append_assoc]
        exact (List.perm_append_singleton _ _).symm

theorem Books.accept (h : Books s arrived driven) (inv : Session.Inv s) {id : RequestId} {wait : Wait} {job : Job Work}
    (hticket : job.ticket = s.workers.accepted.length) (hid : job.requestId = id.toNat)
    (hcommand : job.run.command = wait.command)
    (haccepted : s'.workers.accepted = s.workers.accepted ++ [job]) (hserved : s'.served = s.served)
    (hreplies : s'.replies = s.replies) : Books s' (arrived ++ [⟨id, wait, true⟩]) driven := by
  have hnew : job.ticket ∉ s.served := hticket ▸ inv.fresh_ticket
  refine ⟨?_, ?_, hserved ▸ h.ran, h.ranOnce, fun r hr hok => ?_, fun k hk hkserved => ?_, ?_⟩
  · rw [haccepted, List.map_append, h.accepted, List.filter_append, List.map_append]
    simp [hid, hcommand]
  · rw [hreplies, h.refused, List.filter_append]
    simp
  · obtain ⟨k, hk, hkserved, hans⟩ := h.answers r (hreplies ▸ hr) hok
    exact ⟨k, haccepted ▸ List.mem_append_left _ hk, hserved.symm ▸ hkserved, hans⟩
  · rw [hserved] at hkserved
    rw [haccepted, List.mem_append, List.mem_singleton] at hk
    rcases hk with hk | rfl
    · rw [hreplies]
      exact h.answered k hk hkserved
    · exact absurd hkserved hnew
  · have hunserved : unserved s' = unserved s ++ [job] := by
      rw [unserved, haccepted, hserved, List.filter_append, unserved]
      simp [hnew]
    rw [hunserved, hreplies]
    simp only [List.map_append, List.map_singleton, jobId, hid, UInt64.ofNat_toNat]
    calc (arrived.map Arrival.id ++ [id]).Perm
          ((unserved s).map jobId ++ s.replies.map replyId ++ [id]) := h.owed.append_right _
      List.Perm _ ((unserved s).map jobId ++ [id] ++ s.replies.map replyId) := by
        rw [List.append_assoc, List.append_assoc]
        exact List.perm_append_comm.append_left _

theorem Books.refuse (h : Books s arrived driven) {id : RequestId} {wait : Wait} (hworkers : s'.workers = s.workers)
    (hserved : s'.served = s.served)
    (hreplies : s'.replies = s.replies ++ [⟨id.toNat, wait.command, .decodeError, none, none⟩]) :
    Books s' (arrived ++ [⟨id, wait, false⟩]) driven := by
  have hunserved : unserved s' = unserved s := by rw [unserved, unserved, hworkers, hserved]
  refine ⟨?_, ?_, hserved ▸ h.ran, h.ranOnce, fun r hr hok => ?_, fun k hk hkserved => ?_, ?_⟩
  · rw [hworkers, h.accepted, List.filter_append]
    simp
  · rw [hreplies, List.filter_append, h.refused, List.filter_append, List.map_append]
    simp [Arrival.refusal]
  · rw [hreplies, List.mem_append, List.mem_singleton] at hr
    rw [hworkers, hserved]
    rcases hr with hr | rfl
    · exact h.answers r hr hok
    · cases hok
  · rw [hworkers] at hk
    rw [hserved] at hkserved
    obtain ⟨r, hr, hans⟩ := h.answered k hk hkserved
    exact ⟨r, hreplies ▸ List.mem_append_left _ hr, hans⟩
  · rw [hunserved, hreplies, List.map_append, List.map_append, ← List.append_assoc]
    have hlast : [replyId ⟨id.toNat, wait.command, .decodeError, none, none⟩] = [id] := by
      simp [replyId]
    rw [List.map_singleton, List.map_singleton, hlast]
    exact h.owed.append_right _

end Session

/-- What reaches the session without a wait arriving or the driver returning from one. -/
inductive Local : Session.Event → Prop
  | command (marks : ℕ) : Local (.command marks)
  | take : Local .take
  | file (i : ℕ) : Local (.file i)

/-- Everything a step can do. -/
inductive Effect (limit : ℕ) (s : Endpoints) : Endpoints → Prop
  | issue {wait : Wait} {id next : RequestId} (hlimit : s.pending.length < limit)
      (halloc : allocateId s.pending (s.pending.length + 2) s.nextRequestId = some (id, next)) :
      Effect limit s { s with
        nextRequestId := next
        pending := s.pending ++ [id]
        unsent := s.unsent ++ [(id, wait)]
        issued := s.issued ++ [id] }
  | send {i : ℕ} {m : RequestId × Wait} (hi : s.unsent[i]? = some m) :
      Effect limit s { s with unsent := s.unsent.eraseIdx i, wire := s.wire ++ [m] }
  | arrive {id : RequestId} {wait : Wait} {rest : List (RequestId × Wait)} {session : Session}
      (hwire : s.wire = (id, wait) :: rest) (hstep : s.session.step (wait.event id) = some session) :
      Effect limit s { s with
        wire := rest
        arrived := s.arrived ++ [⟨id, wait, s.hasRoom⟩]
        session := session }
  | work {i : ℕ} {job : Job Work} {result : ℤ} {session : Session} (hi : s.session.workers.running[i]? = some job)
      (hstep : s.session.step (.work i (some result)) = some session) :
      Effect limit s { s with driven := s.driven ++ [(job.ticket, result)], session := session }
  | serve {e : Session.Event} {session : Session} (hlocal : Local e) (hstep : s.session.step e = some session) :
      Effect limit s { s with session := session }
  | receive {r : Server.Reply} (hr : s.session.replies[s.received]? = some r) :
      Effect limit s { s with pending := s.pending.erase (replyId r), received := s.received + 1 }

section Steps

variable {limit : ℕ} {s s' : Endpoints}

theorem serve_cases {e : Session.Event} (h : s.serve e = some s') :
    ∃ session, s.session.step e = some session ∧ s' = { s with session := session } := by
  obtain ⟨session, hstep, rfl⟩ := Option.map_eq_some_iff.1 h
  exact ⟨session, hstep, rfl⟩

theorem effect_serve {e : Session.Event} (hlocal : Local e) (h : s.serve e = some s') :
    Effect limit s s' := by
  obtain ⟨session, hstep, rfl⟩ := serve_cases h
  exact .serve hlocal hstep

theorem step_effect {a : Action} (h : step limit s a = some s') : Effect limit s s' := by
  cases a with
  | issue wait =>
    unfold step at h
    dsimp only at h
    split at h
    · cases h
    · next hlimit =>
      obtain ⟨⟨id, next⟩, halloc, rfl⟩ := Option.map_eq_some_iff.1 h
      exact .issue (not_le.1 hlimit) halloc
  | send i =>
    unfold step at h
    dsimp only at h
    split at h
    · cases h
    · next m hi =>
      obtain rfl := Option.some.inj h
      exact .send hi
  | arrive =>
    unfold step at h
    dsimp only at h
    split at h
    · cases h
    · next id wait rest hwire =>
      obtain ⟨session, hstep, rfl⟩ := serve_cases h
      exact .arrive hwire hstep
  | command marks => exact effect_serve (.command marks) h
  | take => exact effect_serve .take h
  | work i result =>
    unfold step at h
    dsimp only at h
    split at h
    · cases h
    · next job hi =>
      obtain ⟨session, hstep, rfl⟩ := serve_cases h
      exact .work hi hstep
  | file i => exact effect_serve (.file i) h
  | receive =>
    unfold step at h
    dsimp only at h
    split at h
    · cases h
    · next r hr =>
      obtain rfl := Option.some.inj h
      exact .receive hr

theorem Inv.on_wire (inv : Inv limit s) {id : RequestId} {wait : Wait} {rest : List (RequestId × Wait)}
    (hwire : s.wire = (id, wait) :: rest) : id ∈ s.issued := by
  refine inv.issued.mem_iff.2 (List.mem_append_left _ (List.mem_append_right _ ?_))
  rw [hwire]
  exact List.mem_cons_self

theorem Inv.fresh (inv : Inv limit s) (hnodup : s.issued.Nodup) {id : RequestId} {wait : Wait}
    {rest : List (RequestId × Wait)} (hwire : s.wire = (id, wait) :: rest) :
    id.toNat ∉ s.session.workers.activeIds := by
  intro hactive
  obtain ⟨j, hj, -, hid⟩ := (inv.session.pool.ids.active _).1 hactive
  have hpair : (j.requestId, j.run.command) ∈
      s.session.workers.accepted.map fun j => (j.requestId, j.run.command) := List.mem_map_of_mem hj
  rw [inv.books.accepted] at hpair
  obtain ⟨a, ha, heq⟩ := List.mem_map.1 hpair
  have haid : a.id = id := UInt64.toNat_inj.1 ((congrArg Prod.fst heq).trans hid)
  have harrived : id ∈ s.arrived.map Arrival.id :=
    List.mem_map.2 ⟨a, (List.mem_filter.1 ha).1, haid⟩
  have hwired : id ∈ s.unsent.map Prod.fst ++ s.wire.map Prod.fst := by
    rw [hwire]
    exact List.mem_append_right _ List.mem_cons_self
  exact List.disjoint_of_nodup_append (inv.issued.nodup_iff.1 hnodup) hwired harrived

/-- The pool turns a wait away for want of room only. -/
theorem Inv.accepts_iff (inv : Inv limit s) (hnodup : s.issued.Nodup) {id : RequestId} {wait : Wait}
    {rest : List (RequestId × Wait)} (hwire : s.wire = (id, wait) :: rest) :
    Accepts s.session.workers id.toNat ↔ s.hasRoom = true := by
  constructor
  · intro h
    exact decide_eq_true h.room
  · intro h
    exact ⟨inv.unstopped, inv.fresh hnodup hwire, of_decide_eq_true h⟩

/-- An id leaves the front of one queue for another. -/
theorem perm_moved {α : Type*} (u r x y : List α) (a : α) :
    (u ++ a :: r ++ (x ++ y)).Perm (u ++ r ++ (x ++ a :: y)) := by
  calc (u ++ a :: r ++ (x ++ y)).Perm (a :: (u ++ r ++ (x ++ y))) := List.perm_middle.append_right _
    List.Perm _ (u ++ r ++ (x ++ a :: y)) := by
      rw [← List.append_assoc _ x y, ← List.append_assoc _ x (a :: y)]
      exact List.perm_middle.symm

theorem inv_issue {wait : Wait} {id next : RequestId} (inv : Inv limit s) (hlimit : s.pending.length < limit)
    (halloc : allocateId s.pending (s.pending.length + 2) s.nextRequestId = some (id, next)) :
    Inv limit { s with
      nextRequestId := next
      pending := s.pending ++ [id]
      unsent := s.unsent ++ [(id, wait)]
      issued := s.issued ++ [id] } := by
  have hid := (Client.allocateId_spec halloc).1
  have hmove : ∀ b c : List RequestId,
      (s.unsent.map Prod.fst ++ b ++ c ++ [id]).Perm ((s.unsent ++ [(id, wait)]).map Prod.fst ++ b ++ c) := by
    intro b c
    rw [List.map_append, List.append_assoc _ b c, List.append_assoc _ _ b, List.append_assoc,
      List.append_assoc _ _ c, List.append_assoc, List.append_assoc, ← List.append_assoc b]
    exact List.perm_append_comm.append_left _
  refine ⟨inv.session, inv.unstopped, inv.busy, inv.filed, inv.books, ?_, fun i hi => ?_, ?_, ?_,
    inv.received⟩
  · exact (inv.issued.append_right _).trans (hmove _ _)
  · rcases List.mem_append.1 hi with hi | hi
    · exact inv.nonzero i hi
    · exact List.mem_singleton.1 hi ▸ hid
  · exact (inv.pending.append_right _).trans (hmove _ _)
  · exact (List.length_append ..).trans_le hlimit

theorem inv_send {i : ℕ} {m : RequestId × Wait} (inv : Inv limit s) (hi : s.unsent[i]? = some m) :
    Inv limit { s with unsent := s.unsent.eraseIdx i, wire := s.wire ++ [m] } := by
  obtain ⟨hlt, rfl⟩ := List.getElem?_eq_some_iff.1 hi
  have hmove : (s.unsent.map Prod.fst ++ s.wire.map Prod.fst).Perm
      ((s.unsent.eraseIdx i).map Prod.fst ++ (s.wire ++ [s.unsent[i]]).map Prod.fst) := by
    rw [← List.map_append, ← List.map_append]
    refine List.Perm.map _ ?_
    calc (s.unsent ++ s.wire).Perm (s.unsent[i] :: (s.unsent.eraseIdx i ++ s.wire)) :=
        (List.getElem_cons_eraseIdx_perm hlt).symm.append_right _
      List.Perm _ (s.unsent.eraseIdx i ++ (s.wire ++ [s.unsent[i]])) := by
        rw [← List.append_assoc]
        exact (List.perm_append_singleton _ _).symm
  exact ⟨inv.session, inv.unstopped, inv.busy, inv.filed, inv.books, inv.issued.trans (hmove.append_right _),
    inv.nonzero, inv.pending.trans (hmove.append_right _), inv.within, inv.received⟩

theorem inv_receive {r : Server.Reply} (inv : Inv limit s) (hr : s.session.replies[s.received]? = some r) :
    Inv limit { s with pending := s.pending.erase (replyId r), received := s.received + 1 } := by
  obtain ⟨hlt, rfl⟩ := List.getElem?_eq_some_iff.1 hr
  have hperm := inv.pending
  rw [List.drop_eq_getElem_cons hlt, List.map_cons] at hperm
  have hfront := hperm.trans ((List.perm_middle.append_left _).trans List.perm_middle)
  have herase := hfront.erase (replyId s.session.replies[s.received])
  rw [List.erase_cons_head] at herase
  exact ⟨inv.session, inv.unstopped, inv.busy, inv.filed, inv.books, inv.issued, inv.nonzero, herase,
    List.length_erase_le.trans inv.within, hlt⟩

/-- The workers' bookkeeping: no job has run and nothing was replied. -/
theorem Inv.quiet (inv : Inv limit s) {e : Session.Event} {session : Session}
    (hstep : s.session.step e = some session)
    (haccepted : session.workers.accepted = s.session.workers.accepted)
    (hserved : session.served = s.session.served) (hreplies : session.replies = s.session.replies)
    (hopen : session.workers.stopping = s.session.workers.stopping)
    (hbusy : session.workers.running.length ≤ Session.workerThreads)
    (hfiled : ∀ j ∈ session.workers.finished, j.ticket ∈ s.session.served) :
    Inv limit { s with session := session } := by
  have hunserved : unserved session = unserved s.session := by
    rw [unserved, unserved, haccepted, hserved]
  refine ⟨Session.inv_step e inv.session hstep, hopen.trans inv.unstopped, hbusy, hserved.symm ▸ hfiled,
    inv.books.same haccepted hserved hreplies, inv.issued, inv.nonzero, ?_, inv.within,
    hreplies.symm ▸ inv.received⟩
  dsimp only
  rw [hunserved, hreplies]
  exact inv.pending

theorem inv_work {i : ℕ} {job : Job Work} {result : ℤ} {session : Session} (inv : Inv limit s)
    (hjob : s.session.workers.running[i]? = some job)
    (hstep : s.session.step (.work i (some result)) = some session) :
    Inv limit { s with driven := s.driven ++ [(job.ticket, result)], session := session } := by
  obtain ⟨j, hi, hserved, hworkers, hs', hreplies⟩ := work_cases hstep
  have hj : j ∈ s.session.workers.accepted :=
    inv.session.pool.started_subset
      (inv.session.pool.mem_started.2 (.inl (List.mem_of_getElem? hi)))
  refine ⟨Session.inv_step _ inv.session hstep, (congrArg _ hworkers).trans inv.unstopped, hworkers ▸ inv.busy,
    ?_, inv.books.work inv.session hjob hstep, inv.issued, inv.nonzero, ?_, inv.within, ?_⟩
  · dsimp only
    rw [hworkers, hs']
    exact fun k hk => Finset.mem_insert_of_mem (inv.filed k hk)
  · dsimp only
    rw [hreplies, List.drop_append_of_le_length inv.received, List.map_append]
    refine inv.pending.trans (List.Perm.append_left _ ?_)
    calc ((unserved s.session).map jobId ++ (s.session.replies.drop s.received).map replyId).Perm
          (jobId j :: ((unserved session).map jobId ++ (s.session.replies.drop s.received).map replyId)) :=
        ((unserved_perm inv.session hj hserved hworkers hs').map jobId).append_right _
      List.Perm _ ((unserved session).map jobId ++
          ((s.session.replies.drop s.received).map replyId ++ [jobId j])) := by
        rw [← List.append_assoc]
        exact (List.perm_append_singleton _ _).symm
  · exact inv.received.trans (hreplies ▸ List.prefix_append _ _ : _ <+: _).length_le

theorem file_effects {w w' : RequestWorkers Work} {i : ℕ} (h : w.file i = some w') :
    ∃ j, w.running[i]? = some j ∧ w'.finished = w.finished ++ [j] ∧ w'.stopping = w.stopping := by
  obtain ⟨j, hi, rfl⟩ := RequestWorkers.file_cases h
  refine ⟨j, hi, ?_⟩
  rcases RequestWorkers.handOver_cases (w.retire i j) j.lane with ⟨-, heq⟩ | ⟨-, next, rest, -, heq⟩ |
    ⟨-, -, heq⟩ <;> rw [heq] <;> exact ⟨rfl, rfl⟩

theorem inv_serve {e : Session.Event} {session : Session} (inv : Inv limit s) (hlocal : Local e)
    (hstep : s.session.step e = some session) : Inv limit { s with session := session } := by
  cases hlocal with
  | command marks =>
    obtain rfl := Option.some.inj hstep
    exact inv.quiet hstep rfl rfl rfl rfl inv.busy inv.filed
  | take =>
    obtain ⟨w, hw, rfl⟩ := Option.map_eq_some_iff.1 hstep
    have hbusy := RequestWorkers.busy_step .take inv.busy hw
    obtain ⟨-, -, j, rest, -, rfl⟩ := RequestWorkers.take_cases hw
    exact inv.quiet hstep rfl rfl rfl rfl hbusy inv.filed
  | file i =>
    obtain ⟨j, w, hi, hserved, hw, rfl⟩ := Session.file_cases hstep
    obtain ⟨k, hk, hfinished, hopen⟩ := file_effects hw
    obtain rfl : j = k := Option.some.inj (hi.symm.trans hk)
    refine inv.quiet hstep (RequestWorkers.file_accepted hw) rfl rfl hopen
      (RequestWorkers.busy_step (.file i) inv.busy hw) fun l hl => ?_
    dsimp only at hl
    rw [hfinished, List.mem_append, List.mem_singleton] at hl
    rcases hl with hl | rfl
    · exact inv.filed l hl
    · exact hserved

theorem inv_arrive {id : RequestId} {wait : Wait} {rest : List (RequestId × Wait)} {session : Session}
    (inv : Inv limit s) (hnodup : s.issued.Nodup) (hwire : s.wire = (id, wait) :: rest)
    (hstep : s.session.step (wait.event id) = some session) :
    Inv limit { s with
      wire := rest
      arrived := s.arrived ++ [⟨id, wait, s.hasRoom⟩]
      session := session } := by
  have hid := inv.nonzero id (inv.on_wire hwire)
  have hroom := inv.accepts_iff hnodup hwire
  have hsession := Session.inv_step _ inv.session hstep
  have hissued : s.issued.Perm (s.unsent.map Prod.fst ++ rest.map Prod.fst ++
      (s.arrived ++ [(⟨id, wait, s.hasRoom⟩ : Arrival)]).map Arrival.id) := by
    have hmoved := perm_moved (s.unsent.map Prod.fst) (rest.map Prod.fst) (s.arrived.map Arrival.id) [] id
    rw [List.append_nil] at hmoved
    rw [List.map_append]
    refine inv.issued.trans ?_
    rw [hwire]
    exact hmoved
  have hpending := inv.pending
  rw [hwire, List.map_cons] at hpending
  rcases arrive_cases hid wait hstep with ⟨hacc, job, hticket, hjob, hcommand, haccepted, hrunning,
    hfinished, hopen, hserved, hreplies⟩ | ⟨hfull, hworkers, hserved, hreplies⟩
  · have hbooks := inv.books.accept inv.session hticket hjob hcommand haccepted hserved hreplies
    have hunserved : (unserved session).map jobId = (unserved s.session).map jobId ++ [id] := by
      have hnew : job.ticket ∉ s.session.served := hticket ▸ inv.session.fresh_ticket
      rw [unserved, haccepted, hserved, List.filter_append, unserved]
      simp [hnew, jobId, hjob]
    rw [hroom.1 hacc] at hissued ⊢
    refine ⟨hsession, hopen.trans inv.unstopped, hrunning ▸ inv.busy, ?_, hbooks, hissued, inv.nonzero, ?_,
      inv.within, hreplies ▸ inv.received⟩
    · rw [hfinished, hserved]
      exact inv.filed
    · dsimp only
      rw [hunserved, hreplies, List.append_assoc _ [id]]
      exact hpending.trans (perm_moved _ _ _ _ _)
  · have hbooks : Books session (s.arrived ++ [⟨id, wait, false⟩]) s.driven :=
      inv.books.refuse hworkers hserved hreplies
    have hroom' : s.hasRoom = false := Bool.eq_false_iff.2 fun hr => hfull (hroom.2 hr)
    have hunserved : unserved session = unserved s.session := by
      rw [unserved, unserved, hworkers, hserved]
    rw [hroom'] at hissued ⊢
    refine ⟨hsession, (congrArg _ hworkers).trans inv.unstopped, hworkers ▸ inv.busy, ?_, hbooks, hissued,
      inv.nonzero, ?_, inv.within, ?_⟩
    · rw [hworkers, hserved]
      exact inv.filed
    · dsimp only
      have hlast : replyId ⟨id.toNat, wait.command, .decodeError, none, none⟩ = id := by simp [replyId]
      have hmoved := perm_moved (s.unsent.map Prod.fst) (rest.map Prod.fst)
        ((unserved s.session).map jobId ++ (s.session.replies.drop s.received).map replyId) [] id
      rw [List.append_nil] at hmoved
      rw [hunserved, hreplies, List.drop_append_of_le_length inv.received, List.map_append,
        List.map_singleton, hlast, ← List.append_assoc ((unserved s.session).map jobId)]
      exact hpending.trans hmoved
    · rw [hreplies]
      exact inv.received.trans (List.prefix_append _ _).length_le

theorem inv_step (inv : Inv limit s) (hnodup : s.issued.Nodup) (h : Effect limit s s') : Inv limit s' := by
  cases h with
  | issue hlimit halloc => exact inv_issue inv hlimit halloc
  | send hi => exact inv_send inv hi
  | arrive hwire hstep => exact inv_arrive inv hnodup hwire hstep
  | work hi hstep => exact inv_work inv hi hstep
  | serve hlocal hstep => exact inv_serve inv hlocal hstep
  | receive hr => exact inv_receive inv hr

theorem issued_step (h : Effect limit s s') : s.issued <+: s'.issued := by
  cases h with
  | issue hlimit halloc => exact List.prefix_append _ _
  | send hi => exact List.prefix_refl _
  | arrive hwire hstep => exact List.prefix_refl _
  | work hi hstep => exact List.prefix_refl _
  | serve hlocal hstep => exact List.prefix_refl _
  | receive hr => exact List.prefix_refl _

theorem inv_of_reachable (h : Reachable (step limit) {} s) (hnodup : s.issued.Nodup) : Inv limit s := by
  obtain ⟨as, hrun⟩ := h
  refine hrun.invariant (I := fun s => s.issued.Nodup → Inv limit s) (fun _ => inv_initial limit)
    (fun s₁ a s₂ ih hstep hnodup => ?_) hnodup
  have heffect := step_effect hstep
  have hold := hnodup.sublist (issued_step heffect).sublist
  exact inv_step (ih hold) hold heffect

/-- A job is active until it is filed, and of those that have run only the busy threads' are not. -/
theorem Inv.active_le (inv : Inv limit s) : s.session.workers.activeIds.card ≤
    (unserved s.session).length + s.session.workers.running.length := by
  have hsub : s.session.workers.activeIds ⊆
      ((unserved s.session ++ s.session.workers.running).map Job.requestId).toFinset := by
    intro id hid
    obtain ⟨j, hj, hunfinished, rfl⟩ := (inv.session.pool.ids.active id).1 hid
    refine List.mem_toFinset.2 (List.mem_map_of_mem (List.mem_append.2 ?_))
    by_cases hserved : j.ticket ∈ s.session.served
    · obtain ⟨k, hk, hticket⟩ := inv.session.ran _ hserved
      obtain rfl := inv.session.pool.ids.ticket_inj (inv.session.pool.started_subset hk) hj hticket
      exact .inr ((inv.session.pool.mem_started.1 hk).resolve_right hunfinished)
    · exact .inl (List.mem_filter.2 ⟨hj, by simpa using hserved⟩)
  calc s.session.workers.activeIds.card
      ≤ ((unserved s.session ++ s.session.workers.running).map Job.requestId).toFinset.card :=
        Finset.card_le_card hsub
    _ ≤ ((unserved s.session ++ s.session.workers.running).map Job.requestId).length :=
        List.toFinset_card_le _
    _ = (unserved s.session).length + s.session.workers.running.length := by
        rw [List.length_map, List.length_append]

/-- While the client stays this far below the pool's size, a wait on the wire finds room. -/
theorem Inv.hasRoom (inv : Inv limit s) (hlimit : limit + Session.workerThreads ≤ kMaxJobs)
    (hwire : s.wire ≠ []) : s.hasRoom = true := by
  have hpending := inv.pending.length_eq
  simp only [List.length_append, List.length_map] at hpending
  have hpos := List.length_pos_iff.2 hwire
  have hwithin := inv.within
  have hbusy := inv.busy
  have hactive := inv.active_le
  exact decide_eq_true (by omega)

theorem room_step (inv : Inv limit s) (hlimit : limit + Session.workerThreads ≤ kMaxJobs)
    (hroom : ∀ a ∈ s.arrived, a.room = true) (h : Effect limit s s') : ∀ a ∈ s'.arrived, a.room = true := by
  cases h with
  | issue hlimit halloc => exact hroom
  | send hi => exact hroom
  | arrive hwire hstep =>
    intro a ha
    rcases List.mem_append.1 ha with ha | ha
    · exact hroom a ha
    · obtain rfl := List.mem_singleton.1 ha
      exact inv.hasRoom hlimit (hwire ▸ List.cons_ne_nil _ _)
  | work hi hstep => exact hroom
  | serve hlocal hstep => exact hroom
  | receive hr => exact hroom

theorem room_of_reachable (h : Reachable (step limit) {} s) (hnodup : s.issued.Nodup)
    (hlimit : limit + Session.workerThreads ≤ kMaxJobs) : ∀ a ∈ s.arrived, a.room = true := by
  obtain ⟨as, hrun⟩ := h
  induction hrun with
  | nil => simp
  | snoc hrun hstep ih =>
    have heffect := step_effect hstep
    have hold := hnodup.sublist (issued_step heffect).sublist
    exact room_step (inv_of_reachable ⟨_, hrun⟩ hold) hlimit (ih hold) heffect

/-- A step of both ends is a step of the pool, or nothing to it. -/
theorem workers_step (inv : Inv limit s) (h : Effect limit s s') :
    s'.session.workers = s.session.workers ∨
    ∃ e, RequestWorkers.step Session.workerThreads s.session.workers e = some s'.session.workers := by
  cases h with
  | issue hlimit halloc => exact .inl rfl
  | send hi => exact .inl rfl
  | @arrive id wait rest session hwire hstep =>
    have hid := inv.nonzero id (inv.on_wire hwire)
    obtain ⟨base, work, lane, hworkers, -, -, -, hevent⟩ := step_event (s := s.session) hid wait
    obtain rfl := Option.some.inj (hevent.symm.trans hstep)
    refine .inr ⟨.submit id.toNat work lane, congrArg some ?_⟩
    dsimp only
    rw [← hworkers]
    by_cases hacc : Accepts base.workers id.toNat
    · rw [Session.enqueue_of_accepts hacc]
    · rw [Session.enqueue_of_refuses hacc, RequestWorkers.submit_refused _ _ hacc]
      rfl
  | work hi hstep =>
    obtain ⟨j, -, -, hworkers, -⟩ := work_cases hstep
    exact .inl hworkers
  | serve hlocal hstep =>
    cases hlocal with
    | command marks =>
      obtain rfl := Option.some.inj hstep
      exact .inl rfl
    | take =>
      obtain ⟨w, hw, rfl⟩ := Option.map_eq_some_iff.1 hstep
      exact .inr ⟨.take, hw⟩
    | file i =>
      obtain ⟨j, w, -, -, hw, rfl⟩ := Session.file_cases hstep
      exact .inr ⟨.file i, hw⟩
  | receive hr => exact .inl rfl

end Steps

/-- The job of a wait that found room is filed in the end, so the wait is answered. -/
theorem answered_in_the_end {limit : ℕ} {run : ℕ → Endpoints} (hrun : Execution (step limit) {} run)
    (hnodup : ∀ n, (run n).issued.Nodup)
    (fair : RequestWorkers.Fair Session.workerThreads fun n => (run n).session.workers) {n : ℕ} {a : Arrival}
    (ha : a ∈ (run n).arrived) (hroom : a.room = true) :
    ∃ m, n ≤ m ∧ ∃ r ∈ (run m).session.replies, ∃ j ∈ (run m).session.workers.accepted,
      j.requestId = a.id.toNat ∧ j.run.command = a.wait.command ∧ Answers (run m).driven r j := by
  have inv : ∀ n, Inv limit (run n) := fun n => inv_of_reachable (hrun.reachable n) (hnodup n)
  have hworkers : Execution (RequestWorkers.step Session.workerThreads) {} fun n => (run n).session.workers := by
    refine ⟨congrArg (fun s => s.session.workers) hrun.start, fun n => ?_⟩
    rcases hrun.next n with heq | ⟨e, he⟩
    · exact .inl (congrArg (fun s => s.session.workers) heq)
    · exact workers_step (inv n) (step_effect he)
  have hpair : (a.id.toNat, a.wait.command) ∈
      (run n).session.workers.accepted.map fun j => (j.requestId, j.run.command) := by
    rw [(inv n).books.accepted]
    exact List.mem_map_of_mem (List.mem_filter.2 ⟨ha, hroom⟩)
  obtain ⟨j, hj, heq⟩ := List.mem_map.1 hpair
  obtain ⟨hid, hcommand⟩ := Prod.mk.inj heq
  have hopen : ∀ m, (run m).session.workers.stopping = false := fun m => (inv m).unstopped
  obtain ⟨m₁, hm₁, hst⟩ := RequestWorkers.starts_accepted hworkers fair (by decide) hopen hj
  obtain ⟨m, hm, hfinished⟩ := RequestWorkers.finishes hworkers fair hst
  have hstarted := (inv m).session.pool.mem_started.2 (.inr hfinished)
  have haccepted := (inv m).session.pool.started_subset hstarted
  obtain ⟨r, hr, hans⟩ := (inv m).books.answered j haccepted ((inv m).filed j hfinished)
  exact ⟨m, hm₁.trans hm, r, hr, j, haccepted, hid, hcommand, hans⟩

theorem Books.once {s : Session} {arrived : List Arrival} {driven : List (ℕ × ℤ)} (h : Books s arrived driven)
    (hnodup : (arrived.map Arrival.id).Nodup) : (s.replies.map Server.Reply.requestId).Nodup := by
  have hids : (s.replies.map replyId).Nodup := (h.owed.nodup_iff.1 hnodup).of_append_right
  refine List.Nodup.of_map UInt64.ofNat ?_
  rwa [List.map_map]

/-- With distinct ids, a wait becomes a job exactly if fewer than 64 jobs are unfinished when it comes, is
refused otherwise, and in the end its job is answered, once and with what the driver returned for it. A client
that stayed eight below the pool's size would never be refused. -/
theorem waits_served (limit : ℕ) :
    (∀ s, Reachable (step limit) {} s → s.issued.Nodup →
      Books s.session s.arrived s.driven ∧ (s.session.replies.map Server.Reply.requestId).Nodup ∧
      (limit + Session.workerThreads ≤ kMaxJobs → ∀ a ∈ s.arrived, a.room = true)) ∧
    ∀ run : ℕ → Endpoints, Execution (step limit) {} run → (∀ n, (run n).issued.Nodup) →
      (RequestWorkers.Fair Session.workerThreads fun n => (run n).session.workers) →
      ∀ n, ∀ a ∈ (run n).arrived, a.room = true →
        ∃ m, n ≤ m ∧ ∃ r ∈ (run m).session.replies, ∃ j ∈ (run m).session.workers.accepted,
          j.requestId = a.id.toNat ∧ j.run.command = a.wait.command ∧ Answers (run m).driven r j := by
  refine ⟨fun s hs hnodup => ?_, fun run hrun hnodup fair n a ha hroom => ?_⟩
  · have inv := inv_of_reachable hs hnodup
    have harrived := (inv.issued.nodup_iff.1 hnodup).of_append_right
    exact ⟨inv.books, inv.books.once harrived, room_of_reachable hs hnodup⟩
  · exact answered_in_the_end hrun hnodup fair ha hroom

/-- The limit of `round_trip`. -/
def kMaxPending : ℕ := 1024

/-- One wait from its call to its reply; the driver's time has run out (`VK_TIMEOUT`). -/
def oneWait : List Action :=
  [.issue .waitForFences, .send 0, .arrive, .take, .work 0 2, .file 0, .receive]

theorem fair_oneWait : RequestWorkers.Fair Session.workerThreads
    fun n => (thenStill (step kMaxPending) {} oneWait n).session.workers := by
  have hearly : ∀ n < 7, (thenStill (step kMaxPending) {} oneWait n).session.workers.jobs ≠ [] →
      (thenStill (step kMaxPending) {} oneWait n).session.workers.started.length < 1 := by decide
  refine ⟨fun n _ hjobs => ?_, fun n j hj => ⟨max n 7, le_max_left _ _, ?_⟩⟩
  · rcases Nat.lt_or_ge n 7 with hlt | hge
    · exact ⟨7, hlt.le, .inr (hearly n hlt hjobs)⟩
    · rw [thenStill_of_le _ _ hge] at hjobs
      exact absurd rfl hjobs
  · rw [thenStill_of_le _ _ (le_max_right n 7)]
    exact List.not_mem_nil

theorem distinct_oneWait (n : ℕ) : (thenStill (step kMaxPending) {} oneWait n).issued.Nodup := by
  have hearly : ∀ n < 8, (thenStill (step kMaxPending) {} oneWait n).issued.Nodup := by decide
  rcases Nat.lt_or_ge n 8 with hlt | hge
  · exact hearly n hlt
  · rw [thenStill_of_le _ _ (Nat.le_of_succ_le hge)]
    exact hearly 7 (by omega)

theorem waits_served_oneWait :
    (∃ s, runList (step kMaxPending) {} oneWait = some s ∧ Books s.session s.arrived s.driven) ∧
    ∃ m, 3 ≤ m ∧ ∃ r ∈ (thenStill (step kMaxPending) {} oneWait m).session.replies,
      ∃ j ∈ (thenStill (step kMaxPending) {} oneWait m).session.workers.accepted,
        j.requestId = 1 ∧ j.run.command = .waitForFences ∧
          Answers (thenStill (step kMaxPending) {} oneWait m).driven r j := by
  have hrun : (runList (step kMaxPending) {} oneWait).isSome := by decide
  obtain ⟨s, hs⟩ := Option.isSome_iff_exists.1 hrun
  have hlast : s = thenStill (step kMaxPending) {} oneWait 7 := (congrArg (Option.getD · {}) hs).symm
  have harrived : ((⟨1, .waitForFences, true⟩ : Arrival)) ∈
      (thenStill (step kMaxPending) {} oneWait 3).arrived := by decide
  refine ⟨⟨s, hs, ((waits_served kMaxPending).1 s ⟨oneWait, run_of_runList hs⟩ ?_).1⟩, ?_⟩
  · rw [hlast]
    exact distinct_oneWait 7
  · exact (waits_served kMaxPending).2 _ (execution_thenStill hs) distinct_oneWait fair_oneWait 3 _ harrived rfl

/-- `n` waits that no worker has taken. -/
def waits (n : ℕ) : List Action :=
  (List.replicate n [Action.issue .waitForFences, .send 0, .arrive]).flatten

/-- The client's limit lets a 65th wait through, and the pool turns it away. -/
theorem wait_refused : ¬ ∀ s, Reachable (step kMaxPending) {} s → s.issued.Nodup →
    ∀ r ∈ s.session.replies, r.status = .ok := by
  intro hall
  have hrun : (runList (step kMaxPending) {} (waits 65)).isSome := by decide +kernel
  obtain ⟨s, hs⟩ := Option.isSome_iff_exists.1 hrun
  have hbad : ((runList (step kMaxPending) {} (waits 65)).elim false fun s => decide s.issued.Nodup &&
      s.session.replies.any fun r => decide (r.status = .decodeError)) = true := by decide +kernel
  rw [hs, Option.elim_some, Bool.and_eq_true, List.any_eq_true] at hbad
  obtain ⟨hnodup, r, hr, hstatus⟩ := hbad
  have hok := hall s ⟨_, run_of_runList hs⟩ (of_decide_eq_true hnodup) r hr
  rw [of_decide_eq_true hstatus] at hok
  cases hok

end Endpoints
end VkRemote
