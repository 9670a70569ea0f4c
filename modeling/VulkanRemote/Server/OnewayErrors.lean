import Mathlib.Algebra.BigOperators.Group.List.Lemmas
import Mathlib.Algebra.GroupWithZero.Nat
import VulkanRemote.Server.Session

/-! Where the marked one-way errors are at any moment: reported in a reply, or pending in the counter
or in a job that has not replied, or lost. A step loses errors exactly where its condition fails. -/

namespace VkRemote.Server.Session

open VkRemote.Lib RequestWorkers

def errorCount (errors : Option UInt32) : ℕ :=
  (errors.map UInt32.toNat).getD 0

@[simp] theorem errorCount_none : errorCount none = 0 := rfl

@[simp] theorem errorCount_some (errors : UInt32) : errorCount (some errors) = errors.toNat := rfl

/-- What a job still owes: its count until it has run. -/
def owes (served : Finset ℕ) (j : Job Work) : ℕ :=
  if j.ticket ∈ served then 0 else errorCount j.run.errors

def owed (served : Finset ℕ) (js : List (Job Work)) : ℕ :=
  (js.map (owes served)).sum

@[simp] theorem owed_nil (served : Finset ℕ) : owed served [] = 0 := rfl

@[simp] theorem owed_append (served : Finset ℕ) (js js' : List (Job Work)) :
    owed served (js ++ js') = owed served js + owed served js' := by
  simp [owed]

@[simp] theorem owed_singleton (served : Finset ℕ) (j : Job Work) : owed served [j] = owes served j := by
  simp [owed]

theorem owed_cons (served : Finset ℕ) (j : Job Work) (js : List (Job Work)) :
    owed served (j :: js) = owes served j + owed served js := by
  simp [owed]

theorem owed_perm {served : Finset ℕ} {js js' : List (Job Work)} (h : js.Perm js') :
    owed served js = owed served js' :=
  (h.map _).sum_eq

/-- The errors reported so far. -/
def reported (s : Session) : ℕ :=
  (s.replies.map fun r => errorCount r.errors).sum

/-- The errors a later reply may still report. -/
def pending (s : Session) : ℕ :=
  s.onewayErrors.toNat + owed s.served (s.workers.running ++ s.workers.jobs)

/-- Every error marked so far is reported once or pending. -/
def Conserved (s : Session) : Prop :=
  s.reported + s.pending = s.marked

/-- What a counter of 32 bits loses by `marks` more errors. -/
def wrapped (s : Session) (marks : ℕ) : ℕ :=
  (s.onewayErrors.toNat + marks) / 2 ^ 32 * 2 ^ 32

/-- What a submit without a request id clears and reports to nobody. -/
def unsent (s : Session) (requestId : ℕ) : Submitted → ℕ
  | .ran _ => if requestId = 0 then s.onewayErrors.toNat else 0
  | _ => 0

/-- What a step loses. -/
def lost (s : Session) : Event → ℕ
  | .command marks => s.wrapped marks
  | .queueSubmit requestId outcome marks | .queueSubmit2 requestId outcome marks
  | .queueBindSparse requestId outcome marks =>
    s.wrapped marks + (s.markOnewayError marks).unsent requestId outcome
  | .deviceWaitIdle requestId device =>
    if requestId ≠ 0 ∧ device ≠ 0 ∧ (s.workers.submit requestId (.deviceWaitIdle s.onewayErrors) 0).2 = false
    then s.onewayErrors.toNat else 0
  | .work i none => errorCount ((s.workers.running[i]?).bind fun j => j.run.errors)
  | .stop => if s.workers.stopping then 0 else owed s.served s.workers.jobs
  | _ => 0

structure Inv (s : Session) : Prop where
  pool : RequestWorkers.Inv s.workers
  laned : ∀ j ∈ s.workers.accepted, j.lane ≠ 0 → j.run.errors = none
  ran : ∀ t ∈ s.served, ∃ j ∈ s.workers.started, j.ticket = t

theorem inv_initial : Inv {} := ⟨RequestWorkers.inv_initial, by simp, by simp⟩

/-- `s'` accounts for what `s` did and what was marked since, but for `n` lost errors. -/
structure Accounts (s s' : Session) (n : ℕ) : Prop where
  balance : s'.reported + s'.pending + n + s.marked = s.reported + s.pending + s'.marked

theorem Accounts.trans {s₁ s₂ s₃ : Session} {n m : ℕ} (h : Accounts s₁ s₂ n) (h' : Accounts s₂ s₃ m) :
    Accounts s₁ s₃ (n + m) := by
  have h₁ := h.balance
  have h₂ := h'.balance
  exact ⟨by omega⟩

theorem accounts_mark (s : Session) (n : ℕ) :
    Accounts s (s.markOnewayError n) (s.wrapped n) := by
  have hwrap : (s.onewayErrors + UInt32.ofNat n).toNat = (s.onewayErrors.toNat + n) % 2 ^ 32 := by
    simp
  have hsplit := Nat.div_add_mod' (s.onewayErrors.toNat + n) (2 ^ 32)
  refine ⟨?_⟩
  simp only [markOnewayError, reported, pending, wrapped, hwrap]
  omega

theorem accounts_send (s : Session) {r : Reply} (h : r.errors = none) : Accounts s (s.send r) 0 := by
  refine ⟨?_⟩
  simp only [send, reported, pending, List.map_append, List.sum_append, List.map_singleton,
    List.sum_singleton, h, errorCount_none]
  omega

theorem accounts_reply (s : Session) {r : Reply} (h : r.errors = none) : Accounts s (s.reply r) 0 := by
  unfold reply
  split
  · exact ⟨by omega⟩
  · exact accounts_send s h

theorem accounts_collect (s : Session) (command : Command) (requestId : ℕ) (outcome : Submitted) :
    Accounts s (s.collect command requestId outcome) (s.unsent requestId outcome) := by
  cases outcome with
  | undecodable => exact accounts_reply s rfl
  | unsupported => exact accounts_reply s rfl
  | ran result =>
    refine ⟨?_⟩
    unfold collect unsent reply
    dsimp only
    split
    · simp only [reported, pending, UInt32.toNat_zero]
      omega
    · simp only [send, reported, pending, List.map_append, List.sum_append, List.map_singleton,
        List.sum_singleton, errorCount_some, UInt32.toNat_zero]
      omega

section Pool

variable {s s' : Session} (inv : Inv s)
include inv

theorem Inv.fresh_ticket : s.workers.accepted.length ∉ s.served := by
  intro hmem
  obtain ⟨j, hj, hticket⟩ := inv.ran _ hmem
  exact (inv.pool.ids.ticket_lt (inv.pool.started_subset hj)).ne hticket

theorem Inv.waiting_owes {l : ℕ} {j : Job Work} (h : j ∈ s.workers.laneJobs l) : owes s.served j = 0 := by
  have hs : s.workers.stopping = false := by
    by_contra hs
    rw [(inv.pool.stopped (by simpa using hs)).2 l] at h
    cases h
  obtain ⟨hacc, hlane⟩ := inv.pool.mem_laneJobs hs h
  have hl0 : j.lane ≠ 0 := fun h0 => by
    rw [inv.pool.lanes.idle l (.inl (hlane.symm.trans h0))] at h
    cases h
  simp [owes, inv.laned j hacc hl0]

theorem owed_submit {requestId : ℕ} (lane : ℕ) (work : Work) (hlane : lane ≠ 0 → work.errors = none)
    (h : Accepts s.workers requestId) :
    owed s.served ((s.workers.submit requestId work lane).1.running ++
      (s.workers.submit requestId work lane).1.jobs) =
    owed s.served (s.workers.running ++ s.workers.jobs) + errorCount work.errors := by
  rcases submit_cases lane work h with ⟨-, heq⟩ | ⟨hl0, -, heq⟩ <;> rw [heq]
  · have hnew : owes s.served ⟨s.workers.accepted.length, requestId, lane, work⟩ =
        errorCount work.errors := if_neg inv.fresh_ticket
    rw [← List.append_assoc, owed_append, owed_singleton, hnew]
  · rw [hlane hl0, errorCount_none, Nat.add_zero]

omit inv in
theorem owed_take {w : RequestWorkers Work} (h : s.workers.take workerThreads = some w) :
    owed s.served (w.running ++ w.jobs) = owed s.served (s.workers.running ++ s.workers.jobs) := by
  obtain ⟨-, -, j, rest, hjobs, rfl⟩ := take_cases h
  rw [hjobs, List.append_assoc, List.singleton_append]

/-- Filing a job that has run changes no debt: its own is paid, and who gets its lane has none. -/
theorem owed_file {w : RequestWorkers Work} {i : ℕ} {j : Job Work}
    (hi : s.workers.running[i]? = some j) (hserved : j.ticket ∈ s.served)
    (h : s.workers.file i = some w) :
    owed s.served (w.running ++ w.jobs) = owed s.served (s.workers.running ++ s.workers.jobs) := by
  obtain ⟨j', hi', rfl⟩ := RequestWorkers.file_cases h
  obtain rfl : j = j' := Option.some.inj (hi.symm.trans hi')
  have herase : owed s.served (s.workers.running.eraseIdx i) = owed s.served s.workers.running := by
    obtain ⟨hlt, rfl⟩ := List.getElem?_eq_some_iff.1 hi
    rw [← owed_perm (List.getElem_cons_eraseIdx_perm hlt), owed_cons]
    simp [owes, hserved]
  rcases handOver_cases (s.workers.retire i j) j.lane with ⟨-, heq⟩ | ⟨-, next, rest, hwait, heq⟩ |
    ⟨-, -, heq⟩ <;> rw [heq]
  · simp only [retire, owed_append, herase]
  · have hnext : owes s.served next = 0 := inv.waiting_owes (l := j.lane) (by
      rw [show s.workers.laneJobs j.lane = next :: rest from hwait]
      exact List.mem_cons_self)
    simp only [retire, owed_append, herase, owed_singleton, hnext, Nat.add_zero]
  · simp only [retire, owed_append, herase]

/-- A job that runs pays its debt and no other. -/
theorem owed_serve {i : ℕ} {j : Job Work} (hi : s.workers.running[i]? = some j)
    (hserved : j.ticket ∉ s.served) :
    owed (insert j.ticket s.served) (s.workers.running ++ s.workers.jobs) + errorCount j.run.errors =
    owed s.served (s.workers.running ++ s.workers.jobs) := by
  obtain ⟨hlt, hij⟩ := List.getElem?_eq_some_iff.1 hi
  have hperm : (j :: (s.workers.running.eraseIdx i ++ s.workers.jobs)).Perm
      (s.workers.running ++ s.workers.jobs) :=
    hij ▸ (List.getElem_cons_eraseIdx_perm hlt).append_right s.workers.jobs
  have hnodup := hperm.nodup_iff.2 inv.pool.held_nodup
  have haccepted : ∀ k ∈ s.workers.running ++ s.workers.jobs, k ∈ s.workers.accepted := fun k hk =>
    (inv.pool.held_unfinished ((List.mem_append.1 hk).elim .inr fun hq => .inl (.inl hq))).1
  have hsame : owed (insert j.ticket s.served) (s.workers.running.eraseIdx i ++ s.workers.jobs) =
      owed s.served (s.workers.running.eraseIdx i ++ s.workers.jobs) := by
    refine congrArg List.sum (List.map_congr_left fun k hk => ?_)
    have hne : k.ticket ≠ j.ticket := fun heq => by
      have hkacc := haccepted k (hperm.subset (List.mem_cons_of_mem _ hk))
      have hjacc := haccepted j (hperm.subset List.mem_cons_self)
      exact (List.nodup_cons.1 hnodup).1 (inv.pool.ids.ticket_inj hkacc hjacc heq ▸ hk)
    simp [owes, hne]
  rw [← owed_perm hperm, ← owed_perm hperm, owed_cons, owed_cons, hsame]
  simp [owes, hserved, Nat.add_comm]

end Pool

theorem enqueue_of_accepts {s : Session} {requestId lane : ℕ} {work : Work}
    (h : Accepts s.workers requestId) :
    s.enqueue requestId work lane = { s with workers := (s.workers.submit requestId work lane).1 } := by
  unfold enqueue
  rw [← Prod.eta (s.workers.submit requestId work lane)]
  exact if_pos (submit_accepts.2 h)

theorem enqueue_of_refuses {s : Session} {requestId lane : ℕ} {work : Work}
    (h : ¬ Accepts s.workers requestId) :
    s.enqueue requestId work lane = s.send ⟨requestId, work.command, .decodeError, none, none⟩ := by
  unfold enqueue
  rw [submit_refused _ _ h]
  rfl

/-- A job without a count leaves the books alone. -/
theorem accounts_enqueue {s : Session} (inv : Inv s) {requestId lane : ℕ} {work : Work}
    (h : work.errors = none) : Accounts s (s.enqueue requestId work lane) 0 := by
  by_cases hacc : Accepts s.workers requestId
  · have howed := owed_submit inv lane _ (fun _ => h) hacc
    rw [h, errorCount_none, Nat.add_zero] at howed
    rw [enqueue_of_accepts hacc]
    refine ⟨?_⟩
    simp only [reported, pending, howed]
    omega
  · rw [enqueue_of_refuses hacc]
    exact accounts_send s rfl

theorem accounts_deviceWaitIdle {s : Session} (inv : Inv s) (requestId device : ℕ) :
    Accounts s (s.serveDeviceWaitIdle requestId device) (s.lost (.deviceWaitIdle requestId device)) := by
  unfold serveDeviceWaitIdle
  split
  · next hvalid =>
    have inv' : Inv { s with onewayErrors := 0 } := ⟨inv.pool, inv.laned, inv.ran⟩
    by_cases hacc : Accepts s.workers requestId
    · have howed := owed_submit inv 0 (.deviceWaitIdle s.onewayErrors)
        (fun h => absurd rfl h) hacc
      rw [show errorCount (Work.deviceWaitIdle s.onewayErrors).errors = s.onewayErrors.toNat from rfl]
        at howed
      have hsnd : (s.workers.submit requestId (.deviceWaitIdle s.onewayErrors) 0).2 = true :=
        submit_accepts.2 hacc
      rw [enqueue_of_accepts (s := { s with onewayErrors := 0 }) hacc]
      refine ⟨?_⟩
      simp only [lost, reported, pending, howed, hsnd, Bool.true_eq_false, and_false, if_false,
        UInt32.toNat_zero]
      omega
    · rw [enqueue_of_refuses (s := { s with onewayErrors := 0 }) hacc]
      have hsnd := congrArg Prod.snd (submit_refused 0
        (Work.deviceWaitIdle s.onewayErrors) hacc)
      refine ⟨?_⟩
      simp only [lost, hvalid, hsnd, ne_eq, not_false_eq_true, and_self, if_true, send, reported, pending,
        List.map_append, List.sum_append, List.map_singleton, List.sum_singleton, errorCount_none,
        UInt32.toNat_zero]
      omega
  · next hinvalid =>
    have hlost : s.lost (.deviceWaitIdle requestId device) = 0 :=
      if_neg fun h => hinvalid ⟨h.1, h.2.1⟩
    rw [hlost]
    exact accounts_reply s rfl

theorem accounts_idle {s s' : Session} {w : RequestWorkers Work}
    (howed : owed s.served (w.running ++ w.jobs) = owed s.served (s.workers.running ++ s.workers.jobs))
    (hs' : s' = { s with workers := w }) : Accounts s s' 0 := by
  subst hs'
  refine ⟨?_⟩
  simp only [reported, pending, howed]
  omega

theorem accounts_work {s s' : Session} (inv : Inv s) {i : ℕ} {result : Option ℤ}
    (h : s.work i result = some s') : Accounts s s' (s.lost (.work i result)) := by
  unfold work at h
  split at h
  · cases h
  · next j hi =>
    split at h
    · cases h
    · next hserved =>
      have howed := owed_serve inv hi hserved
      cases result with
      | none =>
        obtain rfl := Option.some.inj h
        have hlost : s.lost (.work i none) = errorCount j.run.errors := by simp [lost, hi]
        rw [hlost]
        refine ⟨?_⟩
        simp only [reported, pending]
        omega
      | some result =>
        obtain rfl := Option.some.inj h
        refine ⟨?_⟩
        simp only [lost, send, reported, pending, List.map_append, List.sum_append, List.map_singleton,
          List.sum_singleton]
        omega

theorem file_cases {s s' : Session} {i : ℕ} (h : s.file i = some s') :
    ∃ j w, s.workers.running[i]? = some j ∧ j.ticket ∈ s.served ∧ s.workers.file i = some w ∧
      s' = { s with workers := w } := by
  unfold file at h
  split at h
  · cases h
  · next j hi =>
    split at h
    · next hserved =>
      obtain ⟨w, hw, rfl⟩ := Option.map_eq_some_iff.1 h
      exact ⟨j, w, hi, hserved, hw, rfl⟩
    · cases h

theorem accounts_stop (s : Session) : Accounts s { s with workers := s.workers.stop } (s.lost .stop) := by
  refine ⟨?_⟩
  unfold stop
  by_cases hs : s.workers.stopping = true
  · rw [if_pos hs, show s.lost .stop = 0 from if_pos hs]
    simp only [reported, pending]
    omega
  · rw [if_neg hs, show s.lost .stop = owed s.served s.workers.jobs from if_neg hs]
    simp only [reported, pending, owed_append, owed_nil]
    omega

theorem accounts_step {s s' : Session} (inv : Inv s) (e : Event) (h : step s e = some s') :
    Accounts s s' (s.lost e) := by
  cases e with
  | command marks =>
    obtain rfl := Option.some.inj h
    exact accounts_mark s marks
  | queueSubmit requestId outcome marks =>
    obtain rfl := Option.some.inj h
    exact (accounts_mark s marks).trans (accounts_collect _ _ requestId outcome)
  | queueSubmit2 requestId outcome marks =>
    obtain rfl := Option.some.inj h
    exact (accounts_mark s marks).trans (accounts_collect _ _ requestId outcome)
  | queueBindSparse requestId outcome marks =>
    obtain rfl := Option.some.inj h
    exact (accounts_mark s marks).trans (accounts_collect _ _ requestId outcome)
  | queueWaitIdle requestId queue =>
    obtain rfl := Option.some.inj h
    unfold serveQueueWaitIdle
    split
    · exact accounts_enqueue inv rfl
    · exact accounts_reply s rfl
  | deviceWaitIdle requestId device =>
    obtain rfl := Option.some.inj h
    exact accounts_deviceWaitIdle inv requestId device
  | waitForFences requestId decoded =>
    obtain rfl := Option.some.inj h
    unfold serveWaitForFences
    split
    · exact accounts_enqueue inv rfl
    · exact accounts_reply s rfl
  | waitSemaphores requestId decoded found =>
    obtain rfl := Option.some.inj h
    unfold serveWaitSemaphores
    split
    · exact accounts_reply s rfl
    · split
      · exact accounts_enqueue inv rfl
      · exact accounts_reply s rfl
  | take =>
    obtain ⟨w, hw, rfl⟩ := Option.map_eq_some_iff.1 h
    exact accounts_idle (owed_take hw) rfl
  | work i result => exact accounts_work inv h
  | file i =>
    obtain ⟨j, w, hi, hserved, hw, rfl⟩ := file_cases h
    exact accounts_idle (owed_file inv hi hserved hw) rfl
  | stop =>
    obtain rfl := Option.some.inj h
    exact accounts_stop s

theorem Inv.same {s s' : Session} (inv : Inv s) (hw : s'.workers = s.workers) (hserved : s'.served = s.served) :
    Inv s' :=
  ⟨hw ▸ inv.pool, hw ▸ inv.laned, fun t ht => hw ▸ inv.ran t (hserved ▸ ht)⟩

theorem inv_reply {s : Session} (inv : Inv s) (r : Reply) : Inv (s.reply r) := by
  unfold reply
  split
  · exact inv
  · exact inv.same rfl rfl

theorem inv_collect {s : Session} (inv : Inv s) (command : Command) (requestId : ℕ)
    (outcome : Submitted) : Inv (s.collect command requestId outcome) := by
  cases outcome with
  | undecodable => exact inv_reply inv _
  | unsupported => exact inv_reply inv _
  | ran result => exact inv_reply (s := { s with onewayErrors := 0 }) (inv.same rfl rfl) _

/-- The pool moves on and accepts nothing new. -/
theorem Inv.move {s : Session} (inv : Inv s) {w : RequestWorkers Work} (hpool : RequestWorkers.Inv w)
    (hgrows : Grows s.workers w) (haccepted : w.accepted = s.workers.accepted) :
    Inv { s with workers := w } := by
  refine ⟨hpool, fun j hj => inv.laned j (haccepted ▸ hj), fun t ht => ?_⟩
  obtain ⟨j, hj, hticket⟩ := inv.ran t ht
  exact ⟨j, hgrows.started.subset hj, hticket⟩

theorem inv_enqueue {s : Session} (inv : Inv s) {requestId lane : ℕ} {work : Work}
    (hlane : lane ≠ 0 → work.errors = none) : Inv (s.enqueue requestId work lane) := by
  by_cases hacc : Accepts s.workers requestId
  · rw [enqueue_of_accepts hacc]
    have haccepted := submit_accepted lane work hacc
    refine ⟨inv_submit inv.pool requestId work lane, fun j hj hl => ?_, fun t ht => ?_⟩
    · rcases List.mem_append.1 (haccepted ▸ hj) with hold | hnew
      · exact inv.laned j hold hl
      · obtain rfl := List.mem_singleton.1 hnew
        exact hlane hl
    · obtain ⟨j, hj, hticket⟩ := inv.ran t ht
      exact ⟨j, (grows_submit s.workers requestId work lane).started.subset hj, hticket⟩
  · rw [enqueue_of_refuses hacc]
    exact inv.same rfl rfl

theorem inv_work {s s' : Session} (inv : Inv s) {i : ℕ} {result : Option ℤ}
    (h : s.work i result = some s') : Inv s' := by
  unfold work at h
  split at h
  · cases h
  · next j hi =>
    have hstarted : j ∈ s.workers.started := inv.pool.mem_started.2 (.inl (List.mem_of_getElem? hi))
    have hserved : Inv { s with served := insert j.ticket s.served } := by
      refine ⟨inv.pool, inv.laned, fun t ht => ?_⟩
      rcases Finset.mem_insert.1 ht with rfl | ht
      · exact ⟨j, hstarted, rfl⟩
      · exact inv.ran t ht
    split at h
    · cases h
    · cases result with
      | none =>
        obtain rfl := Option.some.inj h
        exact hserved
      | some result =>
        obtain rfl := Option.some.inj h
        exact hserved.same rfl rfl

theorem inv_step {s s' : Session} (e : Event) (inv : Inv s) (h : step s e = some s') : Inv s' := by
  cases e with
  | command marks =>
    obtain rfl := Option.some.inj h
    exact inv.same rfl rfl
  | queueSubmit requestId outcome marks =>
    obtain rfl := Option.some.inj h
    exact inv_collect (s := s.markOnewayError marks) (inv.same rfl rfl) _ requestId outcome
  | queueSubmit2 requestId outcome marks =>
    obtain rfl := Option.some.inj h
    exact inv_collect (s := s.markOnewayError marks) (inv.same rfl rfl) _ requestId outcome
  | queueBindSparse requestId outcome marks =>
    obtain rfl := Option.some.inj h
    exact inv_collect (s := s.markOnewayError marks) (inv.same rfl rfl) _ requestId outcome
  | queueWaitIdle requestId queue =>
    obtain rfl := Option.some.inj h
    unfold serveQueueWaitIdle
    split
    · exact inv_enqueue inv fun _ => rfl
    · exact inv_reply inv _
  | deviceWaitIdle requestId device =>
    obtain rfl := Option.some.inj h
    unfold serveDeviceWaitIdle
    split
    · exact inv_enqueue (s := { s with onewayErrors := 0 }) (inv.same rfl rfl) fun h0 => absurd rfl h0
    · exact inv_reply inv _
  | waitForFences requestId decoded =>
    obtain rfl := Option.some.inj h
    unfold serveWaitForFences
    split
    · exact inv_enqueue inv fun _ => rfl
    · exact inv_reply inv _
  | waitSemaphores requestId decoded found =>
    obtain rfl := Option.some.inj h
    unfold serveWaitSemaphores
    split
    · exact inv_reply inv _
    · split
      · exact inv_enqueue inv fun _ => rfl
      · exact inv_reply inv _
  | take =>
    obtain ⟨w, hw, rfl⟩ := Option.map_eq_some_iff.1 h
    exact inv.move (inv_take inv.pool hw) (grows_take hw) (take_accepted hw)
  | work i result => exact inv_work inv h
  | file i =>
    obtain ⟨_, w, -, -, hw, rfl⟩ := file_cases h
    exact inv.move (inv_file inv.pool hw) (grows_file hw) (file_accepted hw)
  | stop =>
    obtain rfl := Option.some.inj h
    exact inv.move (inv_stop inv.pool) (grows_stop _) (stop_accepted _)

/-! ### Nothing is lost -/

/-- The condition: the counter does not wrap, a submit that runs answers somebody, the pool accepts a
device idle that takes errors along, and no job that carries errors is dropped or dies. -/
def Keeps (s : Session) : Event → Prop
  | .command marks => s.onewayErrors.toNat + marks < 2 ^ 32
  | .queueSubmit requestId outcome marks | .queueSubmit2 requestId outcome marks
  | .queueBindSparse requestId outcome marks =>
    s.onewayErrors.toNat + marks < 2 ^ 32 ∧
      (∀ result, outcome = .ran result → requestId ≠ 0 ∨ s.onewayErrors.toNat + marks = 0)
  | .deviceWaitIdle requestId device =>
    requestId ≠ 0 → device ≠ 0 → Accepts s.workers requestId ∨ s.onewayErrors = 0
  | .work i none => ∀ j, s.workers.running[i]? = some j → errorCount j.run.errors = 0
  | .stop => s.workers.stopping = false → ∀ j ∈ s.workers.jobs, errorCount j.run.errors = 0
  | _ => True

theorem wrapped_eq_zero {s : Session} {marks : ℕ} :
    s.wrapped marks = 0 ↔ s.onewayErrors.toNat + marks < 2 ^ 32 := by
  unfold wrapped
  omega

theorem unsent_eq_zero {s : Session} {requestId : ℕ} {outcome : Submitted} :
    s.unsent requestId outcome = 0 ↔
      ∀ result, outcome = .ran result → requestId ≠ 0 ∨ s.onewayErrors.toNat = 0 := by
  cases outcome with
  | undecodable => simp [unsent]
  | unsupported => simp [unsent]
  | ran result =>
    by_cases h0 : requestId = 0 <;> simp [unsent, h0]

theorem keeps_submit_iff (s : Session) (requestId : ℕ) (outcome : Submitted) (marks : ℕ) :
    (s.onewayErrors.toNat + marks < 2 ^ 32 ∧
      (∀ result, outcome = .ran result → requestId ≠ 0 ∨ s.onewayErrors.toNat + marks = 0)) ↔
    s.wrapped marks + (s.markOnewayError marks).unsent requestId outcome = 0 := by
  rw [Nat.add_eq_zero_iff (n := s.wrapped marks), wrapped_eq_zero, unsent_eq_zero]
  refine and_congr_right fun hlt => ?_
  have hcount : (s.markOnewayError marks).onewayErrors.toNat = s.onewayErrors.toNat + marks := by
    simpa [markOnewayError] using Nat.mod_eq_of_lt hlt
  rw [hcount]

/-- No queued job has run. -/
theorem Inv.queued_unserved {s : Session} (inv : Inv s) {j : Job Work} (hj : j ∈ s.workers.jobs) :
    j.ticket ∉ s.served := by
  intro hserved
  have hs : s.workers.stopping = false := by
    by_contra hs
    rw [(inv.pool.stopped (by simpa using hs)).1] at hj
    cases hj
  obtain ⟨k, hk, hticket⟩ := inv.ran _ hserved
  have hacc : j ∈ s.workers.accepted := (inv.pool.mem_accepted hs).2 (.inr (.inl hj))
  have heq := inv.pool.ids.ticket_inj (inv.pool.started_subset hk) hacc hticket
  exact List.disjoint_of_nodup_append (inv.pool.pipeline_nodup hs) (heq ▸ hk) hj

theorem Inv.owed_jobs_eq_zero {s : Session} (inv : Inv s) :
    owed s.served s.workers.jobs = 0 ↔ ∀ j ∈ s.workers.jobs, errorCount j.run.errors = 0 := by
  rw [owed, List.sum_eq_zero_iff_forall_eq_nat]
  simp only [List.mem_map, forall_exists_index, and_imp, forall_apply_eq_imp_iff₂]
  refine forall₂_congr fun j hj => ?_
  rw [owes, if_neg (inv.queued_unserved hj)]

theorem keeps_iff {s : Session} (inv : Inv s) (e : Event) : Keeps s e ↔ s.lost e = 0 := by
  cases e with
  | command marks => exact wrapped_eq_zero.symm
  | queueSubmit requestId outcome marks => exact keeps_submit_iff s requestId outcome marks
  | queueSubmit2 requestId outcome marks => exact keeps_submit_iff s requestId outcome marks
  | queueBindSparse requestId outcome marks => exact keeps_submit_iff s requestId outcome marks
  | deviceWaitIdle requestId device =>
    unfold Keeps lost
    by_cases hacc : Accepts s.workers requestId
    · have hsnd : (s.workers.submit requestId (.deviceWaitIdle s.onewayErrors) 0).2 = true :=
        submit_accepts.2 hacc
      simp [hacc, hsnd]
    · have hsnd := congrArg Prod.snd (submit_refused 0
        (Work.deviceWaitIdle s.onewayErrors) hacc)
      have hzero : s.onewayErrors.toNat = 0 ↔ s.onewayErrors = 0 := UInt32.toNat_inj (b := 0)
      simp [hacc, hsnd, hzero]
  | work i result =>
    cases result with
    | some result => exact iff_of_true trivial rfl
    | none => cases hi : s.workers.running[i]? <;> simp [Keeps, lost, hi]
  | stop =>
    cases hs : s.workers.stopping with
    | false => simp [Keeps, lost, hs, inv.owed_jobs_eq_zero]
    | true => simp [Keeps, lost, hs]
  | queueWaitIdle requestId queue => exact iff_of_true trivial rfl
  | waitForFences requestId decoded => exact iff_of_true trivial rfl
  | waitSemaphores requestId decoded found => exact iff_of_true trivial rfl
  | take => exact iff_of_true trivial rfl
  | file i => exact iff_of_true trivial rfl

/-- Over every run the errors reported and pending are the errors marked exactly if every step keeps
them. -/
theorem run_conserved {es : List Event} {s : Session} (h : Run step {} es s) :
    Conserved s ↔ RunWhere step Keeps {} es s := by
  suffices hex : ∃ n, Accounts {} s n ∧ (n = 0 ↔ RunWhere step Keeps {} es s) by
    obtain ⟨n, hn, hiff⟩ := hex
    have hbal := hn.balance
    rw [← hiff]
    unfold Conserved
    have hzero : reported {} + pending {} = marked {} := rfl
    have hmarked : marked {} = 0 := rfl
    omega
  induction h with
  | nil => exact ⟨0, ⟨by omega⟩, iff_of_true rfl .nil⟩
  | @snoc es s₁ s₂ e hrun hs ih =>
    obtain ⟨n, hn, hiff⟩ := ih
    have inv : Inv s₁ := hrun.invariant inv_initial fun _ e _ inv hs => inv_step e inv hs
    refine ⟨n + s₁.lost e, hn.trans (accounts_step inv e hs), ?_⟩
    rw [runWhere_snoc_iff hrun hs, ← hiff, keeps_iff inv]
    omega

/-- Two errors, a device idle that reports them and a submit that finds none. -/
def reportedOnce : List Event :=
  [.command 2, .deviceWaitIdle 1 7, .take, .work 0 (some 0), .file 0, .queueSubmit 2 (.ran 0) 0]

theorem run_conserved_reportedOnce :
    ∃ s, runList step {} reportedOnce = some s ∧ RunWhere step Keeps {} reportedOnce s :=
  ⟨_, rfl, (run_conserved (run_of_runList rfl)).1 (show _ = _ by decide)⟩

/-- An error, then a device idle that 64 fence waits in flight keep out of the pool. -/
def fullPool : List Event :=
  .command 1 :: (List.range 64).map (fun i => .waitForFences (i + 1) true) ++ [.deviceWaitIdle 65 7]

theorem full_pool_drops : ∃ s, Reachable step {} s ∧ ¬ Conserved s := by
  have hrun : (runList step {} fullPool).isSome = true := by decide
  obtain ⟨s, hs⟩ := Option.isSome_iff_exists.1 hrun
  have hdrop : ∀ s' ∈ runList step {} fullPool, s'.reported + s'.pending ≠ s'.marked := by
    decide +kernel
  exact ⟨s, ⟨fullPool, run_of_runList hs⟩, hdrop s hs⟩

end VkRemote.Server.Session
