import VulkanRemote.Client.WindowMessages

/-! The threads of a Windows client that poll for the events of one window. Each fetches a batch and then posts
it, and between the two another may do the same. -/

namespace VkRemote.Client

open Lib Server

/-- What a reply asks of the client, in order. -/
inductive Item
  | reset
  | event (e : QueuedEvent)
  deriving DecidableEq

structure PollReply where
  overflowed : Bool
  events : List QueuedEvent
  deriving DecidableEq

def PollReply.items (r : PollReply) : List Item := (if r.overflowed then [.reset] else []) ++ r.events.map .event

/-- A call that has its reply, and the window that it looked up before. -/
structure Answered where
  hwnd : UInt64
  reply : PollReply
  deriving DecidableEq

/-- What was posted, and for what. -/
structure Posted where
  cause : Item
  messages : List Message
  deriving DecidableEq

/-- One surface: the queue of its window at the server, what the client keeps for it, the calls that wait for
a reply, and those that have one, in the order in which the server gave them. `fetched` and `posted` are the
history of both steps. -/
structure Polling where
  server : Server.History := {}
  window : Option UInt64
  isWindow : Bool := true
  input : SurfaceInput := {}
  asking : List UInt64 := []
  answered : List Answered := []
  fetched : List Item := []
  posted : List Posted := []
  deriving DecidableEq

/-- The limit of `handle_PollWindowEvents`. -/
def pollLimit (requested : UInt32) : UInt32 := if requested < 256 then requested else 256

/-- How many events a call asks for. -/
def kPollEvents : UInt32 := 128

section

variable (sys : WindowSystem) (hwnd : UInt64) (isWindow : Bool)

/-- At an overflow everything is released and forgotten. -/
def postItem (p : SurfaceInput × List Posted) : Item → SurfaceInput × List Posted
  | .reset => ({ p.1 with buttons := 0, pressedKeys := [] }, p.2 ++ [⟨.reset, resetMessages sys hwnd p.1⟩])
  | .event e =>
    let out := postWindowEvent sys hwnd p.1 isWindow e.event
    (out.1, p.2 ++ [⟨.event e, out.2⟩])

def postItems (p : SurfaceInput × List Posted) (items : List Item) : SurfaceInput × List Posted :=
  items.foldl (postItem sys hwnd isWindow) p

end

/-- What the threads do, and what happens beside them. A call goes on by its place among those that wait, or
among those that have a reply. -/
inductive PollAction
  | recordInput (e : RecordedInput)
  | lookUp
  | fetch (i : ℕ)
  | fail (i : ℕ)
  | post (i : ℕ)
  | destroySurface
  | closeWindow
  deriving DecidableEq

namespace Polling

def start (hwnd : UInt64) : Polling := { window := some hwnd }

/-- The first section under the lock: without a window there is nothing to poll for. -/
def lookUp (s : Polling) : Polling :=
  match s.window with
  | none => s
  | some hwnd => { s with asking := s.asking ++ [hwnd] }

/-- The server answers. -/
def fetch (s : Polling) (i : ℕ) : Option Polling :=
  match s.asking[i]? with
  | none => none
  | some hwnd =>
    let out := (s.server.queue.takeInputEvents (pollLimit kPollEvents)).1
    let reply : PollReply := ⟨out.2, out.1⟩
    some { s with
      server := s.server.take (pollLimit kPollEvents)
      asking := s.asking.eraseIdx i
      answered := s.answered ++ [⟨hwnd, reply⟩]
      fetched := s.fetched ++ reply.items }

/-- The round trip fails, or is not tried. -/
def fail (s : Polling) (i : ℕ) : Option Polling :=
  if i < s.asking.length then some { s with asking := s.asking.eraseIdx i } else none

/-- The second section under the lock. -/
def post (sys : WindowSystem) (s : Polling) (i : ℕ) : Option Polling :=
  match s.answered[i]? with
  | none => none
  | some call =>
    let s' := { s with answered := s.answered.eraseIdx i }
    if kPollEvents.toNat < call.reply.events.length then some s'
    else if s.window ≠ some call.hwnd then some s'
    else
      let out := postItems sys call.hwnd s.isWindow (s.input, s.posted) call.reply.items
      some { s' with input := out.1, posted := out.2 }

def step (sys : WindowSystem) (s : Polling) : PollAction → Option Polling
  | .recordInput e => some { s with server := s.server.record e }
  | .lookUp => some s.lookUp
  | .fetch i => s.fetch i
  | .fail i => s.fail i
  | .post i => s.post sys i
  | .destroySurface => some { s with window := none, input := {} }
  | .closeWindow => some { s with isWindow := false }

/-- A batch that holds anything is posted when everything fetched before it has been, to the window that the
call looked up, which is still there for what has a message. -/
def InTurn (s : Polling) : PollAction → Prop
  | .post i => ∀ call ∈ s.answered[i]?, call.reply.items ≠ [] →
      (∀ earlier ∈ s.answered.take i, earlier.reply.items = []) ∧ s.window = some call.hwnd ∧
      ∀ e ∈ call.reply.events, HasMessage e.event → call.hwnd ≠ 0 ∧ s.isWindow = true
  | _ => True

instance (s : Polling) : (a : PollAction) → Decidable (s.InTurn a)
  | .post _ => inferInstanceAs (Decidable (∀ call ∈ _, _ → _))
  | .recordInput _ => .isTrue trivial
  | .lookUp => .isTrue trivial
  | .fetch _ => .isTrue trivial
  | .fail _ => .isTrue trivial
  | .destroySurface => .isTrue trivial
  | .closeWindow => .isTrue trivial

end Polling

/-- The event of an item. -/
def Item.event? : Item → Option QueuedEvent
  | .reset => none
  | .event e => some e

/-- The events after the last overflow. -/
def sinceReset (items : List Item) : List QueuedEvent :=
  items.foldl (fun events item => item.event?.elim [] fun e => events ++ [e]) []

/-- What the items since the last overflow were recorded as. -/
def inputsSince (items : List Item) : List RecordedInput := (sinceReset items).map QueuedEvent.event

/-- What is asked of the client: what was fetched is posted in its order and once, which is the order in which
it was recorded; an event has its one message; the client takes to be held what it has posted as pressed since
the last overflow, and that is what an overflow releases. -/
structure Polling.InOrder (sys : WindowSystem) (s : Polling) : Prop where
  once : s.posted.map Posted.cause ++ (s.answered.map fun call => call.reply.items).flatten = s.fetched
  recorded : sinceReset s.fetched <+: s.server.stream
  increasing : s.server.count < 2 ^ 64 →
    (s.fetched.filterMap Item.event?).Pairwise fun x y => x.sequence < y.sequence
  each : ∀ p ∈ s.posted, ∀ e, p.cause = .event e → p.messages.length = if HasMessage e.event then 1 else 0
  tracked : s.window ≠ none → s.input.Tracks (inputsSince (s.posted.map Posted.cause))
  released : ∀ before p after, s.posted = before ++ p :: after → p.cause = .reset →
    ∃ hwnd input, p.messages = resetMessages sys hwnd input ∧
      input.Tracks (inputsSince (before.map Posted.cause))

section

variable {items more : List Item} {e : QueuedEvent} {events : List QueuedEvent}

@[simp] theorem sinceReset_nil : sinceReset [] = [] := rfl

theorem sinceReset_append_reset (items : List Item) : sinceReset (items ++ [.reset]) = [] := by
  rw [sinceReset, List.foldl_append]
  rfl

theorem sinceReset_append_event (items : List Item) (e : QueuedEvent) :
    sinceReset (items ++ [.event e]) = sinceReset items ++ [e] := by
  rw [sinceReset, List.foldl_append]
  rfl

theorem sinceReset_append_events (items : List Item) (events : List QueuedEvent) :
    sinceReset (items ++ events.map .event) = sinceReset items ++ events := by
  induction events using List.reverseRecOn with
  | nil => rw [List.map_nil, List.append_nil, List.append_nil]
  | append_singleton events e ih =>
    rw [List.map_append, List.map_singleton, ← List.append_assoc, sinceReset_append_event, ih, List.append_assoc]

theorem inputsSince_append_event (items : List Item) (e : QueuedEvent) :
    inputsSince (items ++ [.event e]) = inputsSince items ++ [e.event] := by
  rw [inputsSince, sinceReset_append_event, List.map_append, List.map_singleton, inputsSince]

theorem filterMap_event? (events : List QueuedEvent) : (events.map Item.event).filterMap Item.event? = events := by
  rw [List.filterMap_map]
  exact List.filterMap_some

end

theorem mem_events_of_mem_items {r : PollReply} {e : QueuedEvent} (h : .event e ∈ r.items) : e ∈ r.events := by
  rcases List.mem_append.1 h with h | h
  · split at h
    · exact absurd h (by simp)
    · exact absurd h List.not_mem_nil
  · obtain ⟨e', he', hsame⟩ := List.mem_map.1 h
    exact Item.event.inj hsame ▸ he'

/-- What holds of the state of the client and of what was posted, whatever is still to come. -/
structure Accounted (sys : WindowSystem) (p : SurfaceInput × List Posted) : Prop where
  each : ∀ q ∈ p.2, ∀ e, q.cause = .event e → q.messages.length = if HasMessage e.event then 1 else 0
  tracked : p.1.Tracks (inputsSince (p.2.map Posted.cause))
  released : ∀ before q after, p.2 = before ++ q :: after → q.cause = .reset →
    ∃ hwnd input, q.messages = resetMessages sys hwnd input ∧
      input.Tracks (inputsSince (before.map Posted.cause))

section

variable {sys : WindowSystem} {hwnd : UInt64} {isWindow : Bool} {p : SurfaceInput × List Posted}

/-- What is put at the end is the last thing, or what was there stays as it was. -/
theorem split_concat {α : Type*} {l before after : List α} {a b : α} (h : l ++ [a] = before ++ b :: after) :
    (l = before ∧ a = b) ∨ ∃ after', l = before ++ b :: after' := by
  rcases List.eq_nil_or_concat after with rfl | ⟨after', c, rfl⟩
  · obtain ⟨rfl, hab⟩ := List.append_inj' h rfl
    exact .inl ⟨rfl, (List.cons.inj hab).1⟩
  · rw [List.concat_eq_append, ← List.cons_append, ← List.append_assoc] at h
    exact .inr ⟨after', (List.append_inj' h rfl).1⟩

theorem causes_postItem (item : Item) :
    (postItem sys hwnd isWindow p item).2.map Posted.cause = p.2.map Posted.cause ++ [item] := by
  cases item with
  | reset => exact List.map_append
  | event e => exact List.map_append

theorem causes_postItems (items : List Item) :
    (postItems sys hwnd isWindow p items).2.map Posted.cause = p.2.map Posted.cause ++ items := by
  induction items generalizing p with
  | nil => exact (List.append_nil _).symm
  | cons item items ih =>
    show (postItems sys hwnd isWindow (postItem sys hwnd isWindow p item) items).2.map Posted.cause = _
    rw [ih, causes_postItem, List.append_assoc, List.singleton_append]

theorem Accounted.reset (h : Accounted sys p) : Accounted sys (postItem sys hwnd isWindow p .reset) where
  each q hq e hcause := by
    rcases List.mem_append.1 hq with hq | hq
    · exact h.each q hq e hcause
    · rw [List.mem_singleton.1 hq] at hcause
      exact Item.noConfusion hcause
  tracked := by
    rw [causes_postItem, inputsSince, sinceReset_append_reset]
    exact ⟨by simp [postItem, pressedButtons_zero, heldButtons], rfl, List.nodup_nil⟩
  released before q after hposted hcause := by
    rcases split_concat hposted with ⟨rfl, rfl⟩ | ⟨after', hposted⟩
    · exact ⟨hwnd, p.1, rfl, h.tracked⟩
    · exact h.released before q after' hposted hcause

theorem Accounted.event (h : Accounted sys p) {e : QueuedEvent}
    (hthere : HasMessage e.event → hwnd ≠ 0 ∧ isWindow = true) :
    Accounted sys (postItem sys hwnd isWindow p (.event e)) where
  each q hq e' hcause := by
    rcases List.mem_append.1 hq with hq | hq
    · exact h.each q hq e' hcause
    · rw [List.mem_singleton.1 hq] at hcause ⊢
      obtain rfl := Item.event.inj hcause
      exact length_postWindowEvent hthere
  tracked := by
    rw [causes_postItem, inputsSince_append_event]
    exact h.tracked.postWindowEvent hthere
  released before q after hposted hcause := by
    rcases split_concat hposted with ⟨rfl, rfl⟩ | ⟨after', hposted⟩
    · exact Item.noConfusion hcause
    · exact h.released before q after' hposted hcause

theorem Accounted.postItems {items : List Item} (h : Accounted sys p)
    (hthere : ∀ e, .event e ∈ items → HasMessage e.event → hwnd ≠ 0 ∧ isWindow = true) :
    Accounted sys (postItems sys hwnd isWindow p items) := by
  induction items generalizing p with
  | nil => exact h
  | cons item items ih =>
    have hrest := fun e he => hthere e (List.mem_cons_of_mem item he)
    cases item with
    | reset => exact ih h.reset hrest
    | event e => exact ih (h.event (hthere e List.mem_cons_self)) hrest

end

namespace Polling

/-- The numbers of what was fetched are in order, and all before the front of the queue. -/
def Numbered (s : Polling) : Prop :=
  ∃ numbers : List ℕ, (s.fetched.filterMap Item.event?).map QueuedEvent.sequence = numbers.map UInt64.ofNat ∧
    numbers.Pairwise (· < ·) ∧ ∀ n ∈ numbers, n ≤ s.server.front

structure Inv (sys : WindowSystem) (s : Polling) : Prop where
  server : s.server.Inv
  once : s.posted.map Posted.cause ++ (s.answered.map fun call => call.reply.items).flatten = s.fetched
  returned : sinceReset s.fetched = s.server.returned
  numbered : s.Numbered
  small : ∀ call ∈ s.answered, call.reply.events.length ≤ kPollEvents.toNat
  each : ∀ p ∈ s.posted, ∀ e, p.cause = .event e → p.messages.length = if HasMessage e.event then 1 else 0
  tracked : s.window ≠ none → s.input.Tracks (inputsSince (s.posted.map Posted.cause))
  released : ∀ before p after, s.posted = before ++ p :: after → p.cause = .reset →
    ∃ hwnd input, p.messages = resetMessages sys hwnd input ∧
      input.Tracks (inputsSince (before.map Posted.cause))

section

variable {sys : WindowSystem} {s s' : Polling} {i : ℕ}

theorem inv_start (sys : WindowSystem) (hwnd : UInt64) : (start hwnd).Inv sys where
  server := Server.History.inv_start
  once := rfl
  returned := rfl
  numbered := ⟨[], rfl, List.Pairwise.nil, fun _ hn => absurd hn List.not_mem_nil⟩
  small _ hcall := absurd hcall List.not_mem_nil
  each _ hp := absurd hp List.not_mem_nil
  tracked _ := tracks_start
  released before _ _ hposted := absurd hposted (by simp [start])

theorem Inv.inOrder (h : s.Inv sys) : s.InOrder sys where
  once := h.once
  recorded := by
    obtain ⟨lost, hstream, -⟩ := h.server.split
    rw [h.returned, hstream, List.append_assoc]
    exact List.prefix_append _ _
  increasing hcount := by
    obtain ⟨numbers, hnumbers, hpairwise, hfront⟩ := h.numbered
    have hsize : UInt64.size = 2 ^ 64 := rfl
    have hwaiting := h.server.waiting
    rw [← List.pairwise_map (f := QueuedEvent.sequence) (R := (· < ·)), hnumbers, List.pairwise_map]
    refine hpairwise.imp_of_mem fun ha hb hlt => ?_
    have ha := hfront _ ha
    have hb := hfront _ hb
    rw [UInt64.lt_iff_toNat_lt, UInt64.toNat_ofNat_of_lt' (by omega), UInt64.toNat_ofNat_of_lt' (by omega)]
    exact hlt
  each := h.each
  tracked := h.tracked
  released := h.released

theorem Inv.recordInput (h : s.Inv sys) (e : RecordedInput) : Inv sys { s with server := s.server.record e } where
  server := h.server.recordInput
  once := h.once
  returned := h.returned.trans (Server.History.returned_record s.server e).symm
  numbered := by
    obtain ⟨numbers, hnumbers, hpairwise, hfront⟩ := h.numbered
    exact ⟨numbers, hnumbers, hpairwise, fun n hn => (hfront n hn).trans (h.server.front_le_record e)⟩
  small := h.small
  each := h.each
  tracked := h.tracked
  released := h.released

/-- The calls that wait for a reply are of no account. -/
theorem Inv.of_asking (h : s.Inv sys) (asking : List UInt64) : Inv sys { s with asking := asking } :=
  ⟨h.server, h.once, h.returned, h.numbered, h.small, h.each, h.tracked, h.released⟩

theorem Inv.lookUp (h : s.Inv sys) : s.lookUp.Inv sys := by
  unfold Polling.lookUp
  split
  · exact h
  · exact h.of_asking _

/-- What the server gives out comes after everything that it has given out. -/
theorem Inv.numbered_take (h : s.Inv sys) (n : ℕ) :
    ∃ numbers : List ℕ, ((s.fetched ++ (s.server.queue.events.take n).map Item.event).filterMap
        Item.event?).map QueuedEvent.sequence = numbers.map UInt64.ofNat ∧
      numbers.Pairwise (· < ·) ∧ ∀ k ∈ numbers, k ≤ s.server.front + (s.server.queue.events.take n).length := by
  obtain ⟨numbers, hnumbers, hpairwise, hfront⟩ := h.numbered
  refine ⟨numbers ++ (List.range' (s.server.front + 1) s.server.queue.events.length).take n, ?_, ?_, ?_⟩
  · rw [List.filterMap_append, filterMap_event?, List.map_append, hnumbers, List.map_append, List.map_take,
      h.server.queue_numbered, List.map_take]
  · refine List.pairwise_append.2 ⟨hpairwise, List.Pairwise.take List.pairwise_lt_range', fun a ha b hb => ?_⟩
    have ha := hfront a ha
    have hb := List.mem_range'_1.1 (List.mem_of_mem_take hb)
    omega
  · intro k hk
    rcases List.mem_append.1 hk with hk | hk
    · exact Nat.le_add_right_of_le (hfront k hk)
    · rw [List.take_eq_take_min, List.length_range', List.take_range'_of_length_ge (Nat.min_le_right _ _)] at hk
      have hk := List.mem_range'_1.1 hk
      rw [List.length_take]
      omega

theorem Inv.fetch (h : s.Inv sys) (hstep : s.fetch i = some s') : s'.Inv sys := by
  unfold Polling.fetch at hstep
  cases hasking : s.asking[i]? with
  | none =>
    rw [hasking] at hstep
    exact absurd hstep (Option.some_ne_none _).symm
  | some hwnd =>
    rw [hasking] at hstep
    obtain rfl := Option.some.inj hstep
    have honce : ∀ reply : PollReply, s.posted.map Posted.cause ++ ((s.answered ++ [(⟨hwnd, reply⟩ : Answered)]).map
        fun call => call.reply.items).flatten = s.fetched ++ reply.items := by
      intro reply
      rw [List.map_append, List.flatten_append, ← List.append_assoc, h.once, List.map_singleton,
        List.flatten_singleton]
    cases hflag : s.server.queue.overflowed with
    | false =>
      have hout : (s.server.queue.takeInputEvents (pollLimit kPollEvents)).1 =
          (s.server.queue.events.take (pollLimit kPollEvents).toNat, false) := by
        rw [InputQueue.takeInputEvents, if_neg (ne_true_of_eq_false hflag)]
      rw [hout, Server.History.take_of_not_overflowed _ hflag]
      refine ⟨Server.History.take_of_not_overflowed (pollLimit kPollEvents) hflag ▸ h.server.take hflag, honce _, ?_,
        h.numbered_take _, ?_, h.each, h.tracked, h.released⟩
      · show sinceReset (s.fetched ++ (s.server.queue.events.take _).map Item.event) = _
        rw [sinceReset_append_events, h.returned]
      · intro call hcall
        rcases List.mem_append.1 hcall with hcall | hcall
        · exact h.small call hcall
        · rw [List.mem_singleton.1 hcall]
          exact List.length_take_le _ _
    | true =>
      have hout : (s.server.queue.takeInputEvents (pollLimit kPollEvents)).1 = ([], true) := by
        rw [InputQueue.takeInputEvents, if_pos hflag]
      rw [hout, Server.History.take_of_overflowed _ hflag]
      refine ⟨Server.History.take_of_overflowed (pollLimit kPollEvents) hflag ▸ h.server.report hflag, honce _,
        sinceReset_append_reset _, ?_, ?_, h.each, h.tracked, h.released⟩
      · obtain ⟨numbers, hnumbers, hpairwise, hfront⟩ := h.numbered
        have hwaiting := h.server.waiting
        refine ⟨numbers, ?_, hpairwise, fun n hn => ?_⟩
        · rw [← hnumbers, List.filterMap_append]
          exact congrArg _ (List.append_nil _)
        · have := hfront n hn
          show n ≤ s.server.count
          omega
      · intro call hcall
        rcases List.mem_append.1 hcall with hcall | hcall
        · exact h.small call hcall
        · rw [List.mem_singleton.1 hcall]
          exact Nat.zero_le _

theorem Inv.fail (h : s.Inv sys) (hstep : s.fail i = some s') : s'.Inv sys := by
  unfold Polling.fail at hstep
  split at hstep
  · obtain rfl := Option.some.inj hstep
    exact h.of_asking _
  · exact absurd hstep (Option.some_ne_none _).symm

/-- What all the calls hold together, around one of them. -/
theorem items_eraseIdx {call : Answered} (hcall : s.answered[i]? = some call) :
    (s.answered.map fun call => call.reply.items).flatten =
      ((s.answered.take i).map fun call => call.reply.items).flatten ++ call.reply.items ++
        ((s.answered.drop (i + 1)).map fun call => call.reply.items).flatten := by
  obtain ⟨hi, rfl⟩ := List.getElem?_eq_some_iff.1 hcall
  conv_lhs => rw [← List.take_append_drop i s.answered, List.drop_eq_getElem_cons hi]
  rw [List.map_append, List.flatten_append, List.map_cons, List.flatten_cons, List.append_assoc]

theorem Inv.post (h : s.Inv sys) (hturn : s.InTurn (.post i)) (hstep : s.post sys i = some s') : s'.Inv sys := by
  unfold Polling.post at hstep
  cases hcall : s.answered[i]? with
  | none =>
    rw [hcall] at hstep
    exact absurd hstep (Option.some_ne_none _).symm
  | some call =>
    rw [hcall] at hstep
    have hsmall := h.small call (List.mem_of_getElem? hcall)
    have hrest : ∀ other ∈ s.answered.eraseIdx i, other.reply.events.length ≤ kPollEvents.toNat :=
      fun other hother => h.small other (List.mem_of_mem_eraseIdx hother)
    have hitems := items_eraseIdx hcall
    dsimp only at hstep
    rw [if_neg (Nat.not_lt.2 hsmall)] at hstep
    by_cases hnone : call.reply.items = []
    · have honce : s.posted.map Posted.cause ++ ((s.answered.eraseIdx i).map fun call =>
          call.reply.items).flatten = s.fetched := by
        rw [← h.once, hitems, hnone, List.append_nil, List.eraseIdx_eq_take_drop_succ, List.map_append,
          List.flatten_append]
      have hposted : postItems sys call.hwnd s.isWindow (s.input, s.posted) call.reply.items =
          (s.input, s.posted) := by
        rw [hnone]
        rfl
      rw [hposted] at hstep
      split at hstep
      · obtain rfl := Option.some.inj hstep
        exact ⟨h.server, honce, h.returned, h.numbered, hrest, h.each, h.tracked, h.released⟩
      · obtain rfl := Option.some.inj hstep
        exact ⟨h.server, honce, h.returned, h.numbered, hrest, h.each, h.tracked, h.released⟩
    · obtain ⟨hfirst, hwindow, hthere⟩ := hturn call hcall hnone
      rw [if_neg (not_not_intro hwindow)] at hstep
      obtain rfl := Option.some.inj hstep
      have haccounted : Accounted sys (s.input, s.posted) :=
        ⟨h.each, h.tracked (by simp [hwindow]), h.released⟩
      have hafter : Accounted sys (postItems sys call.hwnd s.isWindow (s.input, s.posted) call.reply.items) :=
        haccounted.postItems fun e he hmessage => hthere e (mem_events_of_mem_items he) hmessage
      refine ⟨h.server, ?_, h.returned, h.numbered, hrest, hafter.each, fun _ => hafter.tracked, hafter.released⟩
      have hnil : ((s.answered.take i).map fun call => call.reply.items).flatten = [] := by
        rw [List.flatten_eq_nil_iff]
        intro items hmem
        obtain ⟨earlier, hearlier, rfl⟩ := List.mem_map.1 hmem
        exact hfirst earlier hearlier
      show (postItems sys call.hwnd s.isWindow (s.input, s.posted) call.reply.items).2.map Posted.cause ++ _ = _
      rw [causes_postItems, ← h.once, hitems, hnil, List.eraseIdx_eq_take_drop_succ, List.map_append,
        List.flatten_append, hnil, List.nil_append, List.nil_append, List.append_assoc]

theorem inv_step {a : PollAction} (h : s.Inv sys) (hturn : s.InTurn a) (hstep : s.step sys a = some s') :
    s'.Inv sys := by
  cases a with
  | recordInput e =>
    obtain rfl := Option.some.inj hstep
    exact h.recordInput e
  | lookUp =>
    obtain rfl := Option.some.inj hstep
    exact h.lookUp
  | fetch i => exact h.fetch hstep
  | fail i => exact h.fail hstep
  | post i => exact h.post hturn hstep
  | destroySurface =>
    obtain rfl := Option.some.inj hstep
    exact ⟨h.server, h.once, h.returned, h.numbered, h.small, h.each, fun hwindow => absurd rfl hwindow,
      h.released⟩
  | closeWindow =>
    obtain rfl := Option.some.inj hstep
    exact ⟨h.server, h.once, h.returned, h.numbered, h.small, h.each, h.tracked, h.released⟩

/-- Whatever the threads do, as long as each batch is posted in its turn. -/
theorem run_inOrder {hwnd : UInt64} {actions : List PollAction}
    (hrun : RunWhere (step sys) InTurn (start hwnd) actions s) : s.InOrder sys :=
  (hrun.invariant (inv_start sys hwnd) fun _ _ _ => inv_step).inOrder

end

/-- A window system that knows one place and one scan code. -/
def flatSystem : WindowSystem := ⟨id, fun _ point => point⟩

/-- Two threads, one after the other: Enter and then a button of the mouse, both pressed. -/
def inTurnActions : List PollAction :=
  [.recordInput ⟨keyEvent 28 1, 0, 0⟩, .lookUp, .lookUp, .fetch 0, .recordInput ⟨buttonEvent 0x110 1, 0, 0⟩,
    .post 0, .fetch 0, .post 0]

theorem run_inOrder_two : ∃ s, RunWhere (step flatSystem) InTurn (start 1) inTurnActions s ∧
    s.posted.length = 2 ∧ s.input = ⟨1, 0, [vkReturn]⟩ ∧ s.InOrder flatSystem := by
  have hend : (runList (checked (step flatSystem) InTurn) (start 1) inTurnActions).map
      (fun s => (s.posted.length, s.input)) = some (2, ⟨1, 0, [vkReturn]⟩) := by decide
  obtain ⟨s, hs, hpair⟩ := Option.map_eq_some_iff.1 hend
  obtain ⟨hlength, hinput⟩ := Prod.mk.inj hpair
  have hrun := runWhere_of_checked hs
  exact ⟨s, hrun, hlength, hinput, run_inOrder hrun⟩

/-- The release is fetched after the press and posted before it: the client goes on holding the button. -/
def outOfTurnActions : List PollAction :=
  [.recordInput ⟨buttonEvent 0x110 1, 0, 0⟩, .lookUp, .lookUp, .fetch 0, .recordInput ⟨buttonEvent 0x110 0, 0, 0⟩,
    .fetch 0, .post 1, .post 0]

theorem not_always_inOrder : ∃ s, Run (step flatSystem) (start 1) outOfTurnActions s ∧
    s.input.buttons = 1 ∧ ¬ s.InOrder flatSystem := by
  have hend : (runList (step flatSystem) (start 1) outOfTurnActions).map
      (fun s => (s.input.buttons, s.posted.map Posted.cause, s.answered, s.fetched)) =
      some (1, [.event ⟨2, buttonEvent 0x110 0, 0, 0⟩, .event ⟨1, buttonEvent 0x110 1, 0, 0⟩], [],
        [.event ⟨1, buttonEvent 0x110 1, 0, 0⟩, .event ⟨2, buttonEvent 0x110 0, 0, 0⟩]) := by decide
  obtain ⟨s, hs, hparts⟩ := Option.map_eq_some_iff.1 hend
  obtain ⟨hbuttons, hrest⟩ := Prod.mk.inj hparts
  obtain ⟨hposted, hrest⟩ := Prod.mk.inj hrest
  obtain ⟨hanswered, hfetched⟩ := Prod.mk.inj hrest
  refine ⟨s, run_of_runList hs, hbuttons, fun h => ?_⟩
  have honce := h.once
  rw [hposted, hanswered, hfetched] at honce
  exact absurd honce (by decide)

end Polling

end VkRemote.Client
