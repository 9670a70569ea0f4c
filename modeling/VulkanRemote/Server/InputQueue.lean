import Mathlib.Data.UInt
import VulkanRemote.Server.OwnWindow

/-! The queue between what a window records and what its client fetches: motions are merged, and when it is
full everything in it is given up and the client told so. -/

namespace VkRemote.Server

open Lib

/-- The arguments of `record_input` with the two that no callback gives. -/
structure RecordedInput extends InputEvent where
  c : UInt32 := 0
  d : UInt32 := 0
  deriving DecidableEq

/-- `InputEvent` as it stands in the queue. -/
structure QueuedEvent where
  sequence : UInt64
  event : RecordedInput
  deriving DecidableEq

structure InputQueue where
  events : List QueuedEvent := []
  nextSequence : UInt64 := 1
  overflowed : Bool := false
  deriving DecidableEq

def kMaxInputEvents : ℕ := 1024

/-- The new position goes into the event that is there. -/
def QueuedEvent.moveTo (last : QueuedEvent) (e : RecordedInput) : QueuedEvent :=
  { last with event := { last.event with a := e.a, b := e.b } }

/-- The last event of a list, moved. -/
def mergeLast : List QueuedEvent → RecordedInput → List QueuedEvent
  | [], _ => []
  | [last], e => [last.moveTo e]
  | first :: rest, e => first :: mergeLast rest e

namespace InputQueue

/-- The event goes into the motion at the end of the queue. -/
def Merges (q : InputQueue) (e : RecordedInput) : Prop :=
  e.type = .motion ∧ ∃ last ∈ q.events.getLast?, last.event.type = .motion

instance (q : InputQueue) (e : RecordedInput) : Decidable (q.Merges e) :=
  inferInstanceAs (Decidable (_ ∧ _))

def Full (q : InputQueue) : Prop := kMaxInputEvents ≤ q.events.length

instance (q : InputQueue) : Decidable q.Full := inferInstanceAs (Decidable (_ ≤ _))

/-- Mark the batch unusable and let the client reset held state instead. -/
def giveUp (q : InputQueue) : InputQueue := if q.Full then { q with events := [], overflowed := true } else q

def push (q : InputQueue) (e : RecordedInput) : InputQueue :=
  { q with events := q.events ++ [⟨q.nextSequence, e⟩], nextSequence := q.nextSequence + 1 }

def recordInput (q : InputQueue) (e : RecordedInput) : InputQueue :=
  if q.Merges e then { q with events := mergeLast q.events e } else q.giveUp.push e

/-- The batch, what goes to `overflowed`, and the queue. -/
def takeInputEvents (q : InputQueue) (maxEvents : UInt32) : (List QueuedEvent × Bool) × InputQueue :=
  if q.overflowed then (([], true), { q with events := [], overflowed := false })
  else ((q.events.take maxEvents.toNat, false), { q with events := q.events.drop maxEvents.toNat })

end InputQueue

inductive QueueAction
  | recordInput (e : RecordedInput)
  | takeInputEvents (maxEvents : UInt32)
  deriving DecidableEq

/-- What can be said of events by the order in which they entered the queue: that one has, that it was
discarded, and what a call returned. -/
inductive Seen
  | entered (n : ℕ)
  | discarded (n : ℕ)
  | call (batch : List ℕ) (overflowed : Bool)
  deriving DecidableEq

/-- The queue and its history: how many events have entered it, which of them is at its front, and since the
last report of an overflow (when `first` events had entered) what was returned and what was recorded, each
motion merged into a motion that was last in the queue. -/
structure History where
  queue : InputQueue := {}
  count : ℕ := 0
  front : ℕ := 0
  first : ℕ := 0
  returned : List QueuedEvent := []
  stream : List QueuedEvent := []
  trace : List Seen := []
  deriving DecidableEq

namespace History

/-- The events of a list, the first of which is at the front of the queue. -/
def places (h : History) (events : List QueuedEvent) : List ℕ := (events.zipIdx h.front).map Prod.snd

def record (h : History) (e : RecordedInput) : History :=
  if h.queue.Merges e then
    { h with queue := h.queue.recordInput e, stream := mergeLast h.stream e }
  else
    { h with
      queue := h.queue.recordInput e
      count := h.count + 1
      front := if h.queue.Full then h.count else h.front
      stream := h.stream ++ [⟨h.queue.nextSequence, e⟩]
      trace := h.trace ++ (if h.queue.Full then (h.places h.queue.events).map .discarded else []) ++
        [.entered h.count] }

def take (h : History) (maxEvents : UInt32) : History :=
  let out := h.queue.takeInputEvents maxEvents
  if out.1.2 then
    { h with
      queue := out.2
      front := h.count
      first := h.count
      returned := []
      stream := []
      trace := h.trace ++ (h.places h.queue.events).map .discarded ++ [.call (h.places out.1.1) out.1.2] }
  else
    { h with
      queue := out.2
      front := h.front + out.1.1.length
      returned := h.returned ++ out.1.1
      trace := h.trace ++ [.call (h.places out.1.1) out.1.2] }

def step (h : History) : QueueAction → Option History
  | .recordInput e => some (h.record e)
  | .takeInputEvents maxEvents => some (h.take maxEvents)

end History

/-- A call has reported an overflow, with an empty batch, since the event entered the queue. -/
def ReportedAfter (n : ℕ) (trace : List Seen) : Prop :=
  ∃ earlier later, trace = earlier ++ .entered n :: later ∧ .call [] true ∈ later

/-- What is asked of the queue. Between what was returned and what is in the queue, events are missing only
while an overflow waits to be reported. -/
structure History.Reliable (h : History) : Prop where
  delivered : ∃ lost, h.returned ++ lost ++ h.queue.events = h.stream ∧ (h.queue.overflowed = false → lost = [])
  increasing : h.count < 2 ^ 64 → h.stream.Pairwise fun x y => x.sequence < y.sequence
  bounded : h.queue.events.length ≤ kMaxInputEvents
  reported : ∀ before batch overflowed after, h.trace = before ++ .call batch overflowed :: after →
    ∀ y ∈ batch, ∀ x < y, .discarded x ∈ h.trace → ReportedAfter x before

section

variable {events : List QueuedEvent} {e : RecordedInput}

@[simp] theorem length_mergeLast (events : List QueuedEvent) (e : RecordedInput) :
    (mergeLast events e).length = events.length := by
  fun_induction mergeLast events e with
  | case1 => rfl
  | case2 => rfl
  | case3 first rest e hrest ih => rw [List.length_cons, List.length_cons, ih]

/-- Only the last event is touched. -/
theorem mergeLast_append (earlier : List QueuedEvent) (h : events ≠ []) :
    mergeLast (earlier ++ events) e = earlier ++ mergeLast events e := by
  induction earlier with
  | nil => rfl
  | cons x earlier ih =>
    obtain ⟨y, rest, hrest⟩ := List.exists_cons_of_ne_nil (List.append_ne_nil_of_right_ne_nil earlier h)
    rw [List.cons_append, hrest, mergeLast, ← hrest, ih, List.cons_append]
    exact fun h => nomatch h

theorem sequence_mergeLast (events : List QueuedEvent) (e : RecordedInput) :
    (mergeLast events e).map QueuedEvent.sequence = events.map QueuedEvent.sequence := by
  fun_induction mergeLast events e with
  | case1 => rfl
  | case2 => rfl
  | case3 first rest e hrest ih => rw [List.map_cons, List.map_cons, ih]

end

theorem InputQueue.events_ne_nil_of_merges {q : InputQueue} {e : RecordedInput} (h : q.Merges e) :
    q.events ≠ [] := by
  obtain ⟨-, last, hlast, -⟩ := h
  intro hnil
  rw [hnil] at hlast
  exact nomatch hlast

section

variable {n : ℕ} {trace : List Seen}

theorem ReportedAfter.append (h : ReportedAfter n trace) (more : List Seen) : ReportedAfter n (trace ++ more) := by
  obtain ⟨earlier, later, rfl, hreport⟩ := h
  exact ⟨earlier, later ++ more, by simp, List.mem_append_left _ hreport⟩

theorem reportedAfter_of_entered (h : .entered n ∈ trace) (more : List Seen) :
    ReportedAfter n (trace ++ more ++ [.call [] true]) := by
  obtain ⟨earlier, later, rfl⟩ := List.append_of_mem h
  refine ⟨earlier, later ++ more ++ [.call [] true], by simp, ?_⟩
  exact List.mem_append_right _ (List.mem_singleton_self _)

end

namespace History

variable {h : History}

theorem places_eq (h : History) (events : List QueuedEvent) :
    h.places events = List.range' h.front events.length := List.zipIdx_map_snd h.front events

theorem mem_places {events : List QueuedEvent} {n : ℕ} :
    n ∈ h.places events ↔ h.front ≤ n ∧ n < h.front + events.length := by
  rw [places_eq, List.mem_range'_1]

/-- What lies between the events that were returned and those in the queue has been given up, and only while an
overflow waits to be reported; whatever left the queue was in front of what is in it; and nothing was
discarded without a report unless one is due. -/
structure Inv (h : History) : Prop where
  split : ∃ lost, h.stream = h.returned ++ lost ++ h.queue.events ∧ (h.queue.overflowed = false → lost = [])
  bounded : h.queue.events.length ≤ kMaxInputEvents
  waiting : h.front + h.queue.events.length = h.count
  next : h.queue.nextSequence = UInt64.ofNat (h.count + 1)
  length : h.first + h.stream.length = h.count
  numbered : h.stream.map QueuedEvent.sequence =
    (List.range' (h.first + 1) h.stream.length).map UInt64.ofNat
  entered : ∀ n < h.count, .entered n ∈ h.trace
  discarded : ∀ n, .discarded n ∈ h.trace → n < h.front
  called : ∀ batch overflowed, .call batch overflowed ∈ h.trace → ∀ n ∈ batch, n < h.front
  due : h.queue.overflowed = false → ∀ n, .discarded n ∈ h.trace → ReportedAfter n h.trace
  reported : ∀ before batch overflowed after, h.trace = before ++ .call batch overflowed :: after →
    ∀ y ∈ batch, ∀ x < y, .discarded x ∈ h.trace → ReportedAfter x before

theorem inv_start : Inv {} where
  split := ⟨[], rfl, fun _ => rfl⟩
  bounded := Nat.zero_le _
  waiting := rfl
  next := by decide
  length := rfl
  numbered := rfl
  entered n hn := absurd hn (Nat.not_lt_zero n)
  discarded n hn := absurd hn List.not_mem_nil
  called _ _ hcall := absurd hcall List.not_mem_nil
  due _ n hn := absurd hn List.not_mem_nil
  reported before _ _ _ htrace := absurd htrace (by simp)

/-- Sequence numbers that count up are in order while they do not wrap. -/
theorem pairwise_of_numbered {events : List QueuedEvent} {first : ℕ}
    (h : events.map QueuedEvent.sequence = (List.range' (first + 1) events.length).map UInt64.ofNat)
    (hcount : first + events.length < 2 ^ 64) : events.Pairwise fun x y => x.sequence < y.sequence := by
  rw [← List.pairwise_map (f := QueuedEvent.sequence) (R := (· < ·)), h, List.pairwise_map]
  refine List.Pairwise.imp_of_mem (fun ha hb hlt => ?_) List.pairwise_lt_range'
  rw [List.mem_range'_1] at ha hb
  have hsize : UInt64.size = 2 ^ 64 := rfl
  rw [UInt64.lt_iff_toNat_lt, UInt64.toNat_ofNat_of_lt' (by omega), UInt64.toNat_ofNat_of_lt' (by omega)]
  exact hlt

theorem Inv.reliable (h' : h.Inv) : h.Reliable where
  delivered := by
    obtain ⟨lost, hstream, hlost⟩ := h'.split
    exact ⟨lost, hstream.symm, hlost⟩
  increasing hcount := pairwise_of_numbered h'.numbered (h'.length ▸ hcount)
  bounded := h'.bounded
  reported := h'.reported

theorem Inv.merge {e : RecordedInput} (hinv : h.Inv) (hmerges : h.queue.Merges e) : (h.record e).Inv := by
  have hne := InputQueue.events_ne_nil_of_merges hmerges
  have hrecord : h.record e = { h with
      queue := { h.queue with events := mergeLast h.queue.events e }, stream := mergeLast h.stream e } := by
    rw [record, if_pos hmerges, InputQueue.recordInput, if_pos hmerges]
  rw [hrecord]
  obtain ⟨lost, hstream, hlost⟩ := hinv.split
  refine ⟨⟨lost, ?_, hlost⟩, ?_, ?_, hinv.next, ?_, ?_, hinv.entered, hinv.discarded, hinv.called, hinv.due,
    hinv.reported⟩
  · rw [hstream]
    exact mergeLast_append _ hne
  · exact (length_mergeLast _ e).le.trans hinv.bounded
  · rw [length_mergeLast]
    exact hinv.waiting
  · rw [length_mergeLast]
    exact hinv.length
  · rw [sequence_mergeLast, length_mergeLast]
    exact hinv.numbered

/-- Reports stay in time when the trace grows: what is newly discarded was behind everything returned before. -/
theorem Inv.reported_append (hinv : h.Inv) {more : List Seen} (hnew : ∀ n, .discarded n ∈ more → h.front ≤ n)
    (hmore : ∀ before batch overflowed after, more = before ++ .call batch overflowed :: after →
      ∀ y ∈ batch, ∀ x < y, .discarded x ∈ h.trace ++ more → ReportedAfter x (h.trace ++ before))
    {before after : List Seen} {batch : List ℕ} {overflowed : Bool}
    (htrace : h.trace ++ more = before ++ .call batch overflowed :: after) {x y : ℕ} (hy : y ∈ batch) (hx : x < y)
    (hmem : .discarded x ∈ h.trace ++ more) : ReportedAfter x before := by
  rcases List.append_eq_append_iff.1 htrace with ⟨rest, hbefore, hrest⟩ | ⟨rest, hbefore, hrest⟩
  · rw [hbefore]
    exact hmore rest batch overflowed after hrest y hy x hx hmem
  · cases rest with
    | nil =>
      have := hmore [] batch overflowed after hrest.symm y hy x hx hmem
      rwa [hbefore, List.append_nil, List.append_nil] at this
    | cons s rest =>
      obtain ⟨rfl, -⟩ := List.cons.inj hrest
      have hfront : y < h.front := hinv.called batch overflowed (by rw [hbefore]; simp) y hy
      have hold : .discarded x ∈ h.trace := by
        refine (List.mem_append.1 hmem).resolve_right fun hin => ?_
        have := hnew x hin
        omega
      exact hinv.reported before batch overflowed rest hbefore y hy x hx hold

/-- Sequence numbers go on counting up. -/
theorem Inv.numbered_push (hinv : h.Inv) (e : RecordedInput) :
    (h.stream ++ [(⟨h.queue.nextSequence, e⟩ : QueuedEvent)]).map QueuedEvent.sequence =
      (List.range' (h.first + 1) (h.stream.length + 1)).map UInt64.ofNat := by
  have hlast : h.first + 1 + h.stream.length = h.count + 1 := by
    have := hinv.length
    omega
  rw [List.map_append, hinv.numbered, List.range'_concat, List.map_append, List.map_singleton, List.map_singleton,
    hinv.next, Nat.one_mul, hlast]

theorem next_add_one {n : ℕ} {next : UInt64} (h : next = UInt64.ofNat (n + 1)) :
    next + 1 = UInt64.ofNat (n + 1 + 1) := by
  rw [h, UInt64.ofNat_add (n + 1) 1]
  rfl

theorem record_of_not_full {e : RecordedInput} (hmerges : ¬ h.queue.Merges e) (hfull : ¬ h.queue.Full) :
    h.record e = { h with
      queue := h.queue.push e
      count := h.count + 1
      stream := h.stream ++ [⟨h.queue.nextSequence, e⟩]
      trace := h.trace ++ [.entered h.count] } := by
  rw [record, if_neg hmerges, InputQueue.recordInput, if_neg hmerges, InputQueue.giveUp, if_neg hfull,
    if_neg hfull, if_neg hfull, List.append_nil]

theorem record_of_full {e : RecordedInput} (hmerges : ¬ h.queue.Merges e) (hfull : h.queue.Full) :
    h.record e = { h with
      queue := { h.queue with events := [], overflowed := true }.push e
      count := h.count + 1
      front := h.count
      stream := h.stream ++ [⟨h.queue.nextSequence, e⟩]
      trace := h.trace ++ (h.places h.queue.events).map .discarded ++ [.entered h.count] } := by
  rw [record, if_neg hmerges, InputQueue.recordInput, if_neg hmerges, InputQueue.giveUp, if_pos hfull,
    if_pos hfull, if_pos hfull]

theorem Inv.push {e : RecordedInput} (hinv : h.Inv) (hmerges : ¬ h.queue.Merges e) (hfull : ¬ h.queue.Full) :
    (h.record e).Inv := by
  rw [record_of_not_full hmerges hfull]
  obtain ⟨lost, hstream, hlost⟩ := hinv.split
  have hlength : (h.queue.push e).events.length = h.queue.events.length + 1 := List.length_append
  refine ⟨⟨lost, ?_, hlost⟩, ?_, ?_, next_add_one hinv.next, ?_, ?_, ?_, ?_, ?_, ?_, ?_⟩
  · rw [hstream, InputQueue.push, List.append_assoc, List.append_assoc]
  · rw [hlength]
    exact Nat.succ_le_of_lt (Nat.lt_of_not_le hfull)
  · rw [hlength, ← Nat.add_assoc, hinv.waiting]
  · rw [List.length_append, List.length_singleton, ← Nat.add_assoc, hinv.length]
  · rw [List.length_append, List.length_singleton]
    exact hinv.numbered_push e
  · intro n hn
    rcases Nat.lt_succ_iff_lt_or_eq.1 hn with hn | rfl
    · exact List.mem_append_left _ (hinv.entered n hn)
    · exact List.mem_append_right _ (List.mem_singleton_self _)
  · intro n hn
    exact hinv.discarded n (by simpa using hn)
  · intro batch overflowed hcall
    exact hinv.called batch overflowed (by simpa using hcall)
  · intro hflag n hn
    exact (hinv.due hflag n (by simpa using hn)).append _
  · intro before batch overflowed after htrace y hy x hx hmem
    refine hinv.reported_append (fun n hn => absurd hn (by simp)) (fun _ _ _ _ hmore => ?_) htrace hy hx hmem
    exact absurd hmore (by simp [List.singleton_eq_append_iff])

/-- The queue is full: everything in it goes. -/
theorem Inv.overflow {e : RecordedInput} (hinv : h.Inv) (hmerges : ¬ h.queue.Merges e) (hfull : h.queue.Full) :
    (h.record e).Inv := by
  rw [record_of_full hmerges hfull]
  obtain ⟨lost, hstream, -⟩ := hinv.split
  have hwaiting := hinv.waiting
  refine ⟨⟨lost ++ h.queue.events, ?_, fun hflag => Bool.noConfusion hflag⟩, ?_, rfl, next_add_one hinv.next, ?_,
    ?_, ?_, ?_, ?_, fun hflag => Bool.noConfusion hflag, ?_⟩
  · show h.stream ++ [_] = h.returned ++ (lost ++ h.queue.events) ++ [_]
    rw [hstream, List.append_assoc h.returned]
  · exact Nat.le_add_left 1 1023
  · rw [List.length_append, List.length_singleton, ← Nat.add_assoc, hinv.length]
  · rw [List.length_append, List.length_singleton]
    exact hinv.numbered_push e
  · intro n hn
    rcases Nat.lt_succ_iff_lt_or_eq.1 hn with hn | rfl
    · exact List.mem_append_left _ (List.mem_append_left _ (hinv.entered n hn))
    · exact List.mem_append_right _ (List.mem_singleton_self _)
  · intro n hn
    have hn : .discarded n ∈ h.trace ∨ n ∈ h.places h.queue.events := by simpa using hn
    show n < h.count
    rcases hn with hn | hn
    · have := hinv.discarded n hn
      omega
    · rw [← hwaiting]
      exact (mem_places.1 hn).2
  · intro batch overflowed hcall n hn
    have hlt := hinv.called batch overflowed (by simpa using hcall) n hn
    show n < h.count
    omega
  · intro before batch overflowed after htrace y hy x hx hmem
    rw [List.append_assoc] at htrace hmem
    refine hinv.reported_append (fun n hn => ?_) (fun _ batch flag _ hmore => ?_) htrace hy hx hmem
    · have hn : n ∈ h.places h.queue.events := by simpa using hn
      exact (mem_places.1 hn).1
    · have hcall : Seen.call batch flag ∈ (h.places h.queue.events).map Seen.discarded ++ [.entered h.count] := by
        rw [hmore]
        exact List.mem_append_right _ List.mem_cons_self
      exact absurd hcall (by simp)

theorem Inv.recordInput {e : RecordedInput} (hinv : h.Inv) : (h.record e).Inv := by
  by_cases hmerges : h.queue.Merges e
  · exact hinv.merge hmerges
  · by_cases hfull : h.queue.Full
    · exact hinv.overflow hmerges hfull
    · exact hinv.push hmerges hfull

theorem take_of_not_overflowed (maxEvents : UInt32) (hflag : h.queue.overflowed = false) :
    h.take maxEvents = { h with
      queue := { h.queue with events := h.queue.events.drop maxEvents.toNat }
      front := h.front + (h.queue.events.take maxEvents.toNat).length
      returned := h.returned ++ h.queue.events.take maxEvents.toNat
      trace := h.trace ++ [.call (h.places (h.queue.events.take maxEvents.toNat)) false] } := by
  rw [History.take, InputQueue.takeInputEvents, if_neg (ne_true_of_eq_false hflag)]
  rfl

theorem take_of_overflowed (maxEvents : UInt32) (hflag : h.queue.overflowed = true) :
    h.take maxEvents = { h with
      queue := { h.queue with events := [], overflowed := false }
      front := h.count
      first := h.count
      returned := []
      stream := []
      trace := h.trace ++ (h.places h.queue.events).map .discarded ++ [.call [] true] } := by
  rw [History.take, InputQueue.takeInputEvents, if_pos hflag]
  rfl

theorem Inv.take {maxEvents : UInt32} (hinv : h.Inv) (hflag : h.queue.overflowed = false) :
    (h.take maxEvents).Inv := by
  rw [take_of_not_overflowed maxEvents hflag]
  obtain ⟨lost, hstream, hlost⟩ := hinv.split
  obtain rfl := hlost hflag
  have hwaiting := hinv.waiting
  refine ⟨⟨[], ?_, fun _ => rfl⟩, ?_, ?_, hinv.next, hinv.length, hinv.numbered, ?_, ?_, ?_, ?_, ?_⟩
  · rw [hstream, List.append_nil, List.append_nil, List.append_assoc, List.take_append_drop]
  · rw [List.length_drop]
    exact (Nat.sub_le _ _).trans hinv.bounded
  · rw [← hwaiting, Nat.add_assoc, ← List.length_append, List.take_append_drop]
  · intro n hn
    exact List.mem_append_left _ (hinv.entered n hn)
  · intro n hn
    exact Nat.lt_add_right _ (hinv.discarded n (by simpa using hn))
  · intro batch overflowed hcall n hn
    show n < h.front + _
    rcases List.mem_append.1 hcall with hcall | hcall
    · exact Nat.lt_add_right _ (hinv.called batch overflowed hcall n hn)
    · obtain ⟨rfl, rfl⟩ := Seen.call.inj (List.mem_singleton.1 hcall)
      exact (mem_places.1 hn).2
  · intro _ n hn
    exact (hinv.due hflag n (by simpa using hn)).append _
  · intro before batch overflowed after htrace y hy x hx hmem
    refine hinv.reported_append (fun n hn => absurd hn (by simp)) (fun before' _ _ _ hmore => ?_) htrace hy hx hmem
    intro y hy x hx hmem
    obtain rfl : before' = [] := by
      rcases List.singleton_eq_append_iff.1 hmore with ⟨hnil, -⟩ | ⟨-, hnil⟩
      · exact hnil
      · exact absurd hnil (List.cons_ne_nil _ _)
    rw [List.append_nil]
    exact hinv.due hflag x (by simpa using hmem)

/-- The report: from here on nothing is owed. -/
theorem Inv.report {maxEvents : UInt32} (hinv : h.Inv) (hflag : h.queue.overflowed = true) :
    (h.take maxEvents).Inv := by
  rw [take_of_overflowed maxEvents hflag]
  have hwaiting := hinv.waiting
  have hplace : ∀ n, .discarded n ∈ h.trace ++ (h.places h.queue.events).map .discarded ++ [.call [] true] →
      n < h.count := by
    intro n hn
    have hn : .discarded n ∈ h.trace ∨ n ∈ h.places h.queue.events := by simpa using hn
    rcases hn with hn | hn
    · have := hinv.discarded n hn
      omega
    · rw [← hwaiting]
      exact (mem_places.1 hn).2
  refine ⟨⟨[], rfl, fun _ => rfl⟩, Nat.zero_le _, rfl, hinv.next, rfl, rfl, ?_, hplace, ?_, ?_, ?_⟩
  · intro n hn
    exact List.mem_append_left _ (List.mem_append_left _ (hinv.entered n hn))
  · intro batch overflowed hcall n hn
    show n < h.count
    have hcall : .call batch overflowed ∈ h.trace ∨ batch = [] ∧ overflowed = true := by simpa using hcall
    rcases hcall with hcall | ⟨rfl, -⟩
    · have := hinv.called batch overflowed hcall n hn
      omega
    · exact absurd hn List.not_mem_nil
  · intro _ n hn
    exact reportedAfter_of_entered (hinv.entered n (hplace n hn)) _
  · intro before batch overflowed after htrace y hy x hx hmem
    rw [List.append_assoc] at htrace hmem
    refine hinv.reported_append (fun n hn => ?_) (fun _ batch flag _ hmore => ?_) htrace hy hx hmem
    · have hn : n ∈ h.places h.queue.events := by simpa using hn
      exact (mem_places.1 hn).1
    · have hcall : Seen.call batch flag ∈ (h.places h.queue.events).map Seen.discarded ++ [.call [] true] := by
        rw [hmore]
        exact List.mem_append_right _ List.mem_cons_self
      obtain ⟨rfl, -⟩ : batch = [] ∧ flag = true := by simpa using hcall
      intro y hy
      exact absurd hy List.not_mem_nil

theorem returned_record (h : History) (e : RecordedInput) : (h.record e).returned = h.returned := by
  unfold record
  split <;> rfl

theorem Inv.front_le_record (hinv : h.Inv) (e : RecordedInput) : h.front ≤ (h.record e).front := by
  have hwaiting := hinv.waiting
  unfold record
  split
  · exact le_rfl
  · show h.front ≤ if h.queue.Full then h.count else h.front
    split <;> omega

/-- The numbers of the events in the queue go on from those before its front. -/
theorem Inv.queue_numbered (hinv : h.Inv) : h.queue.events.map QueuedEvent.sequence =
    (List.range' (h.front + 1) h.queue.events.length).map UInt64.ofNat := by
  obtain ⟨lost, hstream, -⟩ := hinv.split
  have hlength := hinv.length
  have hwaiting := hinv.waiting
  have hnumbered := hinv.numbered
  have hsum : h.stream.length = (h.returned ++ lost).length + h.queue.events.length := by
    rw [hstream, List.length_append]
  rw [hsum, List.range'_append_1.symm, hstream, List.map_append, List.map_append (f := UInt64.ofNat)] at hnumbered
  have htail := (List.append_inj' hnumbered (by simp)).2
  rw [htail, show h.first + 1 + (h.returned ++ lost).length = h.front + 1 by omega]

theorem inv_step {h' : History} {a : QueueAction} (hinv : h.Inv) (hstep : h.step a = some h') : h'.Inv := by
  cases a with
  | recordInput e =>
    obtain rfl := Option.some.inj hstep
    exact hinv.recordInput
  | takeInputEvents maxEvents =>
    obtain rfl := Option.some.inj hstep
    cases hflag : h.queue.overflowed with
    | false => exact hinv.take hflag
    | true => exact hinv.report hflag

/-- Whatever the order of the calls and however many events each asks for. -/
theorem run_reliable {actions : List QueueAction} {h' : History} (hrun : Run step {} actions h') : h'.Reliable :=
  (hrun.invariant inv_start fun _ _ _ => inv_step).reliable

/-- Two motions and a key, of which one call fetches the first. -/
theorem run_reliable_motions : ∃ h, Run step {} [.recordInput ⟨motionEvent 256 512, 0, 0⟩,
    .recordInput ⟨motionEvent 768 1024, 0, 0⟩, .recordInput ⟨keyEvent 30 1, 0, 0⟩, .takeInputEvents 1] h ∧
    h.returned = [⟨1, motionEvent 768 1024, 0, 0⟩] ∧ h.Reliable := by
  have hrun : Run step {} [.recordInput ⟨motionEvent 256 512, 0, 0⟩, .recordInput ⟨motionEvent 768 1024, 0, 0⟩,
      .recordInput ⟨keyEvent 30 1, 0, 0⟩, .takeInputEvents 1]
      ((((({} : History).record ⟨motionEvent 256 512, 0, 0⟩).record ⟨motionEvent 768 1024, 0, 0⟩).record
        ⟨keyEvent 30 1, 0, 0⟩).take 1) := run_of_runList rfl
  exact ⟨_, hrun, by decide, run_reliable hrun⟩

/-! ### Where nothing is fetched, and where the numbers run out -/

theorem not_merges_key (q : InputQueue) (key state : UInt32) : ¬ q.Merges ⟨keyEvent key state, 0, 0⟩ := fun h =>
  InputType.noConfusion h.1

/-- Keys that nobody fetches. -/
theorem run_keys {n : ℕ} (hn : n ≤ kMaxInputEvents) : ∃ h,
    Run step {} (.replicate n (.recordInput ⟨keyEvent 30 1, 0, 0⟩)) h ∧
    h.returned = [] ∧ h.queue.events.length = n ∧ h.stream.length = n := by
  induction n with
  | zero => exact ⟨{}, .nil, rfl, rfl, rfl⟩
  | succ n ih =>
    obtain ⟨h, hrun, hreturned, hlength, hstream⟩ := ih (Nat.le_of_succ_le hn)
    have hmerges := not_merges_key h.queue 30 1
    have hfull : ¬ h.queue.Full := by
      rw [InputQueue.Full, hlength]
      exact Nat.not_le.2 hn
    refine ⟨h.record ⟨keyEvent 30 1, 0, 0⟩, ?_, ?_, ?_, ?_⟩
    · rw [List.replicate_succ']
      exact hrun.snoc rfl
    · rw [record_of_not_full hmerges hfull, hreturned]
    · rw [record_of_not_full hmerges hfull, InputQueue.push, List.length_append, hlength, List.length_singleton]
    · rw [record_of_not_full hmerges hfull, List.length_append, hstream, List.length_singleton]

/-- Keys that are fetched one by one. -/
theorem run_fetched (n : ℕ) : ∃ h,
    Run step {} (List.replicate n [.recordInput ⟨keyEvent 30 1, 0, 0⟩, .takeInputEvents 1]).flatten h ∧
    h.queue.events = [] ∧ h.queue.overflowed = false ∧ h.first = 0 ∧ h.count = n := by
  induction n with
  | zero => exact ⟨{}, .nil, rfl, rfl, rfl, rfl⟩
  | succ n ih =>
    obtain ⟨h, hrun, hevents, hflag, hfirst, hcount⟩ := ih
    have hmerges := not_merges_key h.queue 30 1
    have hfull : ¬ h.queue.Full := by
      rw [InputQueue.Full, hevents]
      exact Nat.not_le.2 (Nat.zero_lt_succ 1023)
    have hqueue : (h.record ⟨keyEvent 30 1, 0, 0⟩).queue =
        { h.queue with
          events := [⟨h.queue.nextSequence, ⟨keyEvent 30 1, 0, 0⟩⟩]
          nextSequence := h.queue.nextSequence + 1 } := by
      rw [record_of_not_full hmerges hfull, InputQueue.push, hevents, List.nil_append]
    have hnone : ((h.record ⟨keyEvent 30 1, 0, 0⟩).queue.takeInputEvents 1).1.2 ≠ true := by
      rw [hqueue, InputQueue.takeInputEvents, if_neg (ne_true_of_eq_false hflag)]
      exact Bool.false_ne_true
    refine ⟨(h.record ⟨keyEvent 30 1, 0, 0⟩).take 1, ?_, ?_, ?_, ?_, ?_⟩
    · rw [List.replicate_succ', List.flatten_append, List.flatten_singleton]
      exact hrun.append (run_of_runList rfl)
    · rw [History.take, if_neg hnone, hqueue, InputQueue.takeInputEvents, if_neg (ne_true_of_eq_false hflag)]
      rfl
    · rw [History.take, if_neg hnone, hqueue, InputQueue.takeInputEvents, if_neg (ne_true_of_eq_false hflag)]
      exact hflag
    · rw [History.take, if_neg hnone, History.record, if_neg hmerges]
      exact hfirst
    · rw [History.take, if_neg hnone, History.record, if_neg hmerges, hcount]

/-- Once a number has wrapped to zero the order is lost. -/
theorem Inv.not_pairwise (hinv : h.Inv) (hfirst : h.first = 0) (hcount : 1 < h.count)
    (hwrap : UInt64.ofNat h.count = 0) : ¬ h.stream.Pairwise fun x y => x.sequence < y.sequence := by
  intro hpairwise
  have hlength : h.stream.length = h.count := by
    have := hinv.length
    omega
  have hnumbered := hinv.numbered
  rw [hlength, hfirst] at hnumbered
  rw [← List.pairwise_map (f := QueuedEvent.sequence) (R := (· < ·)), hnumbered,
    List.pairwise_iff_getElem] at hpairwise
  have hlast := hpairwise 0 (h.count - 1) (by simp; omega) (by simp; omega) (by omega)
  rw [List.getElem_map, List.getElem_map, List.getElem_range', List.getElem_range'] at hlast
  rw [show 0 + 1 + 1 * (h.count - 1) = h.count by omega, hwrap] at hlast
  exact absurd hlast (UInt64.not_lt_zero)

/-- The queue of 1025 keys is one key long, and the numbers of 2 ^ 64 keys end at zero. -/
theorem not_always_delivered :
    (∃ h, Run step {} (.replicate 1025 (.recordInput ⟨keyEvent 30 1, 0, 0⟩)) h ∧
      h.returned ++ h.queue.events ≠ h.stream) ∧
    ∃ h, Run step {} (List.replicate (2 ^ 64) [.recordInput ⟨keyEvent 30 1, 0, 0⟩, .takeInputEvents 1]).flatten h ∧
      ¬ h.stream.Pairwise fun x y => x.sequence < y.sequence := by
  constructor
  · obtain ⟨h, hrun, hreturned, hlength, hstream⟩ := run_keys le_rfl
    have hmerges := not_merges_key h.queue 30 1
    have hfull : h.queue.Full := hlength.ge
    have hlast : Run step {} (.replicate (kMaxInputEvents + 1) (.recordInput ⟨keyEvent 30 1, 0, 0⟩))
        (h.record ⟨keyEvent 30 1, 0, 0⟩) := by
      rw [List.replicate_succ']
      exact hrun.snoc rfl
    refine ⟨h.record ⟨keyEvent 30 1, 0, 0⟩, hlast, fun hsame => ?_⟩
    have hsame := congrArg List.length hsame
    rw [record_of_full hmerges hfull] at hsame
    have hsame : (h.returned ++ [_]).length = (h.stream ++ [_]).length := hsame
    rw [hreturned, List.length_append, List.length_append, hstream] at hsame
    exact absurd (show 0 + 1 = kMaxInputEvents + 1 from hsame) (by decide)
  · obtain ⟨h, hrun, -, -, hfirst, hcount⟩ := run_fetched (2 ^ 64)
    have hinv := hrun.invariant inv_start fun _ _ _ => inv_step
    refine ⟨h, hrun, hinv.not_pairwise hfirst ?_ ?_⟩
    · rw [hcount]
      decide
    · rw [hcount]
      rfl

end History

end VkRemote.Server
