import Mathlib.Tactic.IntervalCases
import VulkanRemote.Server.Windows

/-! The windows of the server over whole runs, whatever the connections do in between each other's steps: no window is
used after its end, each surface has its own, and none is left behind. -/

namespace VkRemote.Server

open Lib

variable {H : Type} [DecidableEq H]

/-- Who has a window. -/
inductive Holder (H : Type)
  | thread (i : ℕ)
  | surface (surface : H)
  deriving DecidableEq

/-- Where a surface is: with the thread that has made it, or in the table of a connection. -/
inductive Place
  | made (i window : ℕ)
  | kept (i : ℕ) (window : Option ℕ)
  deriving DecidableEq

/-- Neither a surface that was made nor one that was destroyed. -/
def Doing.plain {H : Type} : Doing H → Bool
  | .surfaced .. => false
  | .destroyed .. => false
  | _ => true

theorem lookup_append_one {α β : Type} [DecidableEq α] {l : List (α × β)} {a : α} (h : l.lookup a = none) (b : β)
    (a' : α) : (l ++ [(a, b)]).lookup a' = if a' = a then some b else l.lookup a' := by
  rw [List.lookup_append]
  by_cases heq : a' = a
  · rw [heq, h, if_pos rfl]
    simp
  · rw [if_neg heq]
    simp [List.lookup_cons, beq_false_of_ne heq]

theorem lookup_filter_ne {α β : Type} [DecidableEq α] (l : List (α × β)) (a a' : α) :
    (l.filter (·.1 ≠ a)).lookup a' = if a' = a then none else l.lookup a' := by
  induction l with
  | nil => simp
  | cons e l ih =>
    obtain ⟨b, c⟩ := e
    by_cases hb : b = a
    · rw [List.filter_cons_of_neg (by simp [hb]), ih, List.lookup_cons]
      grind
    · rw [List.filter_cons_of_pos (by simp [hb]), List.lookup_cons, ih, List.lookup_cons]
      grind

namespace Windows

/-- Every surface of the driver is in one place; `pending` are the surfaces that are gone and whose windows have yet to
be released. -/
structure Places (t : Windows H) (place : H → Option Place) (pending : H → Option (ℕ × Option ℕ)) : Prop where
  kept : ∀ i s o, (t.connections i).surfaces.lookup s = some o ↔ place s = some (.kept i o)
  made : ∀ i s w, (t.connections i).doing = .surfaced w s ↔ place s = some (.made i w)
  live : ∀ s, s ∈ t.live ↔ place s ≠ none
  pend : ∀ i s o, (t.connections i).doing = .destroyed s o ↔ pending s = some (i, o)
  settled : ∀ s i o, pending s ≠ none → place s ≠ some (.kept i o)

section Places

variable {t t' : Windows H} {place : H → Option Place} {pending : H → Option (ℕ × Option ℕ)} {i : ℕ} {c : WindowClient H}

theorem Places.turn (h : Places t place pending) (hbefore : Doing.plain (t.connections i).doing)
    (hsurfaces : c.surfaces = (t.connections i).surfaces) (hafter : Doing.plain c.doing) :
    Places (t.set i c) place pending where
  kept j s o := by grind [h.kept j s o]
  made j s w := by grind [h.made j s w, Doing.plain]
  live s := h.live s
  pend j s o := by grind [h.pend j s o, Doing.plain]
  settled := h.settled

theorem Places.make {w : ℕ} {s : H} (h : Places t place pending) (hdoing : (t.connections i).doing = .opened w)
    (hs : s ∉ t.live) :
    Places ({ t with live := insert s t.live }.turn i (.surfaced w s)) (Function.update place s (some (.made i w)))
      pending where
  kept j s' o := by grind [h.kept j s' o, h.live s, Windows.turn, Function.update_apply]
  made j s' w' := by grind [h.made j s' w', h.live s, Windows.turn, Function.update_apply]
  live s' := by grind [h.live s', Windows.turn, Function.update_apply]
  pend j s' o := by grind [h.pend j s' o, Windows.turn]
  settled s' j o := by grind [h.settled s' j o, Function.update_apply]

theorem Places.put {s : H} {o : Option ℕ} (h : Places t place pending)
    (hthere : place s = none ∨ ∃ w, place s = some (.made i w)) (hclean : pending s = none)
    (hdoing : ∀ s' w, (t.connections i).doing = .surfaced w s' → s' = s)
    (hdone : ∀ s' o', (t.connections i).doing ≠ .destroyed s' o') :
    Places ({ t with live := insert s t.live }.set i
        { t.connections i with surfaces := (t.connections i).surfaces ++ [(s, o)], doing := .nothing })
      (Function.update place s (some (.kept i o))) pending := by
  have hnew : ∀ j, (t.connections j).surfaces.lookup s = none := by
    intro j
    refine Option.eq_none_iff_forall_ne_some.2 fun o' ho' => ?_
    have hplace := (h.kept j s o').1 ho'
    grind
  have hold : ∀ j w, (t.connections j).doing = .surfaced w s → j = i := by
    intro j w hj
    have hplace := (h.made j s w).1 hj
    grind
  exact {
    kept := fun j s' o' => by
      have hlookup := lookup_append_one (hnew i) o s'
      grind [h.kept j s' o', Function.update_apply]
    made := fun j s' w => by
      have hmade := hold j w
      grind [h.made j s' w, Function.update_apply]
    live := fun s' => by grind [h.live s', Function.update_apply]
    pend := fun j s' o' => by grind [h.pend j s' o']
    settled := fun s' j o' => by grind [h.settled s' j o', Function.update_apply] }

theorem Places.take {s : H} {o : Option ℕ} (h : Places t place pending)
    (hkept : (t.connections i).surfaces.lookup s = some o) (hdoing : (t.connections i).doing = .nothing) :
    Places ({ t with live := t.live.erase s }.set i { t.connections i with
        surfaces := (t.connections i).surfaces.filter (·.1 ≠ s), doing := .destroyed s o })
      (Function.update place s none) (Function.update pending s (some (i, o))) := by
  have hplace := (h.kept i s o).1 hkept
  have hfree : pending s = none := by
    by_contra hne
    exact h.settled s i o hne hplace
  exact {
    kept := fun j s' o' => by
      have hlookup := lookup_filter_ne (t.connections i).surfaces s s'
      grind [h.kept j s' o', Function.update_apply]
    made := fun j s' w => by grind [h.made j s' w, Function.update_apply]
    live := fun s' => by grind [h.live s', Function.update_apply]
    pend := fun j s' o' => by grind [h.pend j s' o', Function.update_apply]
    settled := fun s' j o' => by grind [h.settled s' j o', Function.update_apply] }

theorem Places.release {s : H} {o : Option ℕ} (h : Places t place pending)
    (hdoing : (t.connections i).doing = .destroyed s o) :
    Places (t.turn i .nothing) place (Function.update pending s none) where
  kept j s' o' := by grind [h.kept j s' o', Windows.turn]
  made j s' w := by grind [h.made j s' w, Windows.turn]
  live s' := h.live s'
  pend j s' o' := by grind [h.pend j s' o', h.pend i s o, Windows.turn, Function.update_apply]
  settled s' j o' := by grind [h.settled s' j o', Function.update_apply]

end Places

/-- The life of each window: with the thread that opened it, then with a surface, and freed. -/
structure Lives (t : Windows H) (holder : ℕ → Option (Holder H)) : Prop where
  threads : ∀ i w, (t.connections i).doing.window = some w ↔ holder w = some (.thread i)
  mapped : ∀ s w, t.surfaceWindows s = some w ↔ holder w = some (.surface s)
  own : ∀ w, w ∈ t.ownWindows ↔ holder w ≠ none
  nodup : t.ownWindows.Nodup
  bound : ∀ w, holder w ≠ none → w < t.opened
  freed : ∀ w, .freed w ∈ t.log ↔ w < t.opened ∧ holder w = none

section Lives

variable {t : Windows H} {holder : ℕ → Option (Holder H)} {i : ℕ} {c : WindowClient H}

omit [DecidableEq H] in
theorem Lives.turn (h : Lives t holder) (hdoing : c.doing.window = (t.connections i).doing.window) :
    Lives (t.set i c) holder where
  threads j w := by grind [h.threads j w]
  mapped := h.mapped
  own := h.own
  nodup := h.nodup
  bound := h.bound
  freed := h.freed

omit [DecidableEq H] in
theorem Lives.createOwnWindow (h : Lives t holder) (hdoing : (t.connections i).doing.window = none) :
    Lives (t.createOwnWindow.turn i (.opened t.opened)) (Function.update holder t.opened (some (.thread i))) := by
  have hfresh : holder t.opened = none := by
    by_contra hne
    exact lt_irrefl _ (h.bound _ hne)
  exact {
    threads := fun j w => by
      grind [h.threads j w, Windows.turn, Windows.createOwnWindow, Doing.window, Function.update_apply]
    mapped := fun s w => by
      grind [h.mapped s w, Windows.turn, Windows.createOwnWindow, Windows.set, Function.update_apply]
    own := fun w => by
      grind [h.own w, Windows.turn, Windows.createOwnWindow, Windows.set, Function.update_apply]
    nodup := by grind [h.nodup, h.own t.opened, Windows.turn, Windows.createOwnWindow, Windows.set]
    bound := fun w => by
      have hbound := h.bound w
      grind [Windows.turn, Windows.createOwnWindow, Windows.set, Function.update_apply]
    freed := fun w => by
      have hbound := h.bound w
      grind [h.freed w, Windows.turn, Windows.createOwnWindow, Windows.set, Function.update_apply] }

theorem Lives.associate {s : H} {w : ℕ} (h : Lives t holder) (hdoing : (t.connections i).doing = .surfaced w s)
    (hfree : t.surfaceWindows s = none) (hc : c.doing = .nothing) :
    Lives ((t.associateSurface s w).set i c) (Function.update holder w (some (.surface s))) := by
  have hw : holder w = some (.thread i) := (h.threads i w).1 (by rw [hdoing]; rfl)
  exact {
    threads := fun j w' => by grind [h.threads j w', Windows.associateSurface, Doing.window, Function.update_apply]
    mapped := fun s' w' => by
      rw [surfaceWindows_set, surfaceWindows_associateSurface, Function.update_apply]
      grind [h.mapped s' w', h.mapped s w']
    own := fun w' => by grind [h.own w', Windows.associateSurface, Windows.set, Function.update_apply]
    nodup := h.nodup
    bound := fun w' => by
      have hbound := h.bound w'
      grind [Windows.associateSurface, Windows.set, Function.update_apply]
    freed := fun w' => by grind [h.freed w', Windows.associateSurface, Windows.set, Function.update_apply] }

omit [DecidableEq H] in
theorem Lives.use (h : Lives t holder) (o : Option ℕ) : Lives (t.use o) holder where
  threads := h.threads
  mapped := h.mapped
  own := h.own
  nodup := h.nodup
  bound := h.bound
  freed w := by
    refine Iff.trans ?_ (h.freed w)
    cases o <;> simp [Windows.use]

omit [DecidableEq H] in
theorem Lives.free {t' : Windows H} {w : ℕ} (h : Lives t holder) (hw : holder w ≠ none)
    (hthreads : ∀ j w', (t'.connections j).doing.window = some w' ↔
      (t.connections j).doing.window = some w' ∧ w' ≠ w)
    (hmapped : ∀ s w', t'.surfaceWindows s = some w' ↔ t.surfaceWindows s = some w' ∧ w' ≠ w)
    (hown : t'.ownWindows = t.ownWindows.erase w) (hopened : t'.opened = t.opened)
    (hlog : t'.log = t.log ++ [.freed w]) : Lives t' (Function.update holder w none) where
  threads j w' := by
    rw [hthreads, h.threads, Function.update_apply]
    grind
  mapped s w' := by
    rw [hmapped, h.mapped, Function.update_apply]
    grind
  own w' := by
    rw [hown, h.nodup.mem_erase_iff, h.own, Function.update_apply]
    grind
  nodup := by
    rw [hown]
    exact h.nodup.erase w
  bound w' hne := by
    rw [Function.update_apply] at hne
    have hbound := h.bound w'
    grind
  freed w' := by
    have hfreed := h.freed w'
    have hbound := h.bound w hw
    rw [hlog, hopened, Function.update_apply]
    grind

omit [DecidableEq H] in
theorem discardOwnWindow_eq {w : ℕ} (h : Lives t holder) (hw : holder w ≠ none) : t.discardOwnWindow w =
    { t with ownWindows := t.ownWindows.erase w, log := t.log ++ [.freed w] } := if_pos ((h.own w).2 hw)

end Lives

/-- A window is not used after its end, and ends once. -/
def Sound (log : List WindowEvent) : Prop :=
  log.Pairwise fun e e' => ∀ w, e = .freed w → e' ≠ .used w ∧ e' ≠ .freed w

/-- A surface keeps the window that it was made for until that is released. -/
structure Kept (t : Windows H) (place : H → Option Place) (pending : H → Option (ℕ × Option ℕ))
    (holder : ℕ → Option (Holder H)) : Prop where
  places : Places t place pending
  lives : Lives t holder
  mine : ∀ i s o, place s = some (.kept i o) → t.surfaceWindows s = o
  leftover : ∀ i s o, pending s = some (i, o) → t.surfaceWindows s = o
  anchored : ∀ s w, t.surfaceWindows s = some w → (∃ i o, place s = some (.kept i o)) ∨ pending s ≠ none
  looking : ∀ i w, (t.connections i).doing = .looking (some w) →
    ∃ s, (t.connections i).surfaces.lookup s = some (some w)
  absent : ∀ i, (t.connections i).there = false →
    (t.connections i).surfaces = [] ∧ (t.connections i).doing = .nothing
  sound : Sound t.log

/-- A surface goes into a table only when no other thread has yet to release the window of an earlier surface with the
same handle. -/
def Settled (t : Windows H) : Action H → Prop
  | .associate i => ∀ w s, (t.connections i).doing = .surfaced w s → ∀ j o, (t.connections j).doing ≠ .destroyed s o
  | .createProxied _ s => ∀ j o, (t.connections j).doing ≠ .destroyed s o
  | _ => True

section Steps

variable {t t' : Windows H} {place : H → Option Place} {pending : H → Option (ℕ × Option ℕ)}
  {holder : ℕ → Option (Holder H)} {i : ℕ}

/-- A thread goes on to something that has no window or surface of its own. -/
theorem Kept.turn {c : WindowClient H} (h : Kept t place pending holder)
    (hbefore : Doing.plain (t.connections i).doing) (hafter : Doing.plain c.doing)
    (hsurfaces : c.surfaces = (t.connections i).surfaces)
    (hwindow : c.doing.window = (t.connections i).doing.window)
    (hlooking : ∀ w, c.doing = .looking (some w) → ∃ s, (t.connections i).surfaces.lookup s = some (some w))
    (habsent : c.there = false → c.surfaces = [] ∧ c.doing = .nothing) :
    Kept (t.set i c) place pending holder where
  places := h.places.turn hbefore hsurfaces hafter
  lives := h.lives.turn hwindow
  mine := h.mine
  leftover := h.leftover
  anchored := h.anchored
  looking j w := by
    have hold := h.looking j w
    have hnew := hlooking w
    grind
  absent j := by
    have hold := h.absent j
    grind
  sound := h.sound

theorem Kept.use {o : Option ℕ} (h : Kept t place pending holder) (ho : ∀ w, o = some w → holder w ≠ none) :
    Kept (t.use o) place pending holder where
  places := ⟨h.places.kept, h.places.made, h.places.live, h.places.pend, h.places.settled⟩
  lives := h.lives.use o
  mine := h.mine
  leftover := h.leftover
  anchored := h.anchored
  looking := h.looking
  absent := h.absent
  sound := by
    unfold Windows.use Sound
    refine List.pairwise_append.2 ⟨h.sound, ?_, ?_⟩
    · cases o <;> simp
    · intro e he e' he' w hfreed
      subst hfreed
      cases o with
      | none => cases he'
      | some w' =>
        obtain rfl := List.mem_singleton.1 he'
        have hgone := ((h.lives.freed w).1 he).2
        have hhere := ho w'
        grind

theorem Kept.openWindow (h : Kept t place pending holder) (hi : t.Idle i) :
    Kept (t.createOwnWindow.turn i (.opened t.opened)) place pending
      (Function.update holder t.opened (some (.thread i))) where
  places := by
    have hplain : Doing.plain (t.connections i).doing := by rw [hi.2.2]; rfl
    have hturn := h.places.turn (c := { t.connections i with doing := .opened t.opened }) hplain rfl rfl
    exact ⟨hturn.kept, hturn.made, hturn.live, hturn.pend, hturn.settled⟩
  lives := h.lives.createOwnWindow (by rw [hi.2.2]; rfl)
  mine := h.mine
  leftover := h.leftover
  anchored := h.anchored
  looking j w := by
    have hold := h.looking j w
    grind [Windows.turn]
  absent j := by
    have hold := h.absent j
    grind [Windows.turn, Windows.Idle]
  sound := h.sound

theorem Kept.make {w : ℕ} {s : H} (h : Kept t place pending holder) (hdoing : (t.connections i).doing = .opened w)
    (hs : s ∉ t.live) :
    Kept ({ t with live := insert s t.live }.turn i (.surfaced w s)) (Function.update place s (some (.made i w)))
      pending holder where
  places := h.places.make hdoing hs
  lives := by
    have hturn := h.lives.turn (c := { t.connections i with doing := .surfaced w s }) (by rw [hdoing]; rfl)
    exact ⟨hturn.threads, hturn.mapped, hturn.own, hturn.nodup, hturn.bound, hturn.freed⟩
  mine j s' o hplace := by
    refine h.mine j s' o ?_
    grind [Function.update_apply]
  leftover := h.leftover
  anchored s' w' hmapped := by
    have hnone : place s = none := by grind [h.places.live s]
    have hold := h.anchored s' w' hmapped
    grind [Function.update_apply]
  looking j w' := by
    have hold := h.looking j w'
    grind [Windows.turn]
  absent j := by
    have hold := h.absent j
    grind [Windows.turn]
  sound := h.sound

theorem Kept.associate {w : ℕ} {s : H} (h : Kept t place pending holder)
    (hdoing : (t.connections i).doing = .surfaced w s) (hclean : ∀ j o, (t.connections j).doing ≠ .destroyed s o) :
    Kept ((t.associateSurface s w).set i { t.connections i with
        surfaces := (t.connections i).surfaces ++ [(s, some w)], doing := .nothing })
      (Function.update place s (some (.kept i (some w)))) pending
      (Function.update holder w (some (.surface s))) := by
  have hmade := (h.places.made i s w).1 hdoing
  have hpending : pending s = none := by
    by_contra hne
    obtain ⟨⟨j, o⟩, hj⟩ := Option.ne_none_iff_exists'.1 hne
    exact hclean j o ((h.places.pend j s o).2 hj)
  have hfree : t.surfaceWindows s = none := by
    by_contra hne
    obtain ⟨w', hw'⟩ := Option.ne_none_iff_exists'.1 hne
    rcases h.anchored s w' hw' with ⟨j, o, hkept⟩ | hpend
    · cases hkept.symm.trans hmade
    · exact hpend hpending
  have hput := h.places.put (o := some w) (.inr ⟨w, hmade⟩) hpending (by grind) (by grind)
  have hlive : insert s t.live = t.live := Finset.insert_eq_of_mem ((h.places.live s).2 (by simp [hmade]))
  rw [hlive] at hput
  exact {
    places := ⟨hput.kept, hput.made, hput.live, hput.pend, hput.settled⟩
    lives := h.lives.associate hdoing hfree rfl
    mine := fun j s' o => by
      have hold := h.mine j s' o
      rw [surfaceWindows_set, surfaceWindows_associateSurface, Function.update_apply]
      grind
    leftover := fun j s' o => by
      have hold := h.leftover j s' o
      rw [surfaceWindows_set, surfaceWindows_associateSurface]
      grind
    anchored := fun s' w' => by
      have hold := h.anchored s' w'
      rw [surfaceWindows_set, surfaceWindows_associateSurface, Function.update_apply]
      grind
    looking := fun j w' => by
      have hold := h.looking j w'
      grind
    absent := fun j => by
      have hold := h.absent j
      grind
    sound := h.sound }

theorem Kept.proxied {s : H} (h : Kept t place pending holder) (hi : t.Idle i) (hs : s ∉ t.live)
    (hclean : ∀ j o, (t.connections j).doing ≠ .destroyed s o) :
    Kept ({ t with live := insert s t.live }.set i
        { t.connections i with surfaces := (t.connections i).surfaces ++ [(s, none)] })
      (Function.update place s (some (.kept i none))) pending holder := by
  have hnone : place s = none := by grind [h.places.live s]
  have hpending : pending s = none := by
    by_contra hne
    obtain ⟨⟨j, o⟩, hj⟩ := Option.ne_none_iff_exists'.1 hne
    exact hclean j o ((h.places.pend j s o).2 hj)
  have hfree : t.surfaceWindows s = none := by
    by_contra hne
    obtain ⟨w', hw'⟩ := Option.ne_none_iff_exists'.1 hne
    have hanchored := h.anchored s w' hw'
    grind
  have hput := h.places.put (o := none) (i := i) (.inl hnone) hpending (by grind [Windows.Idle])
    (by grind [Windows.Idle])
  rw [← hi.2.2] at hput
  exact {
    places := hput
    lives := by
      have hturn := h.lives.turn (i := i)
        (c := { t.connections i with surfaces := (t.connections i).surfaces ++ [(s, none)] }) rfl
      exact ⟨hturn.threads, hturn.mapped, hturn.own, hturn.nodup, hturn.bound, hturn.freed⟩
    mine := fun j s' o hplace => by
      have hold := h.mine j s' o
      change t.surfaceWindows s' = o
      grind [Function.update_apply]
    leftover := h.leftover
    anchored := fun s' w' hmapped => by
      have hold := h.anchored s' w' hmapped
      grind [Function.update_apply]
    looking := fun j w' => by
      have hold := h.looking j w'
      grind [Windows.Idle]
    absent := fun j => by
      have hold := h.absent j
      grind [Windows.Idle]
    sound := h.sound }

theorem Kept.take {s : H} {o : Option ℕ} (h : Kept t place pending holder)
    (hkept : (t.connections i).surfaces.lookup s = some o) (hdoing : (t.connections i).doing = .nothing) :
    Kept ({ t with live := t.live.erase s }.set i { t.connections i with
        surfaces := (t.connections i).surfaces.filter (·.1 ≠ s), doing := .destroyed s o })
      (Function.update place s none) (Function.update pending s (some (i, o))) holder := by
  have hplace := (h.places.kept i s o).1 hkept
  have hmine := h.mine i s o hplace
  exact {
    places := h.places.take hkept hdoing
    lives := by
      have hturn := h.lives.turn (i := i) (c := { t.connections i with
        surfaces := (t.connections i).surfaces.filter (·.1 ≠ s), doing := .destroyed s o }) (by rw [hdoing]; rfl)
      exact ⟨hturn.threads, hturn.mapped, hturn.own, hturn.nodup, hturn.bound, hturn.freed⟩
    mine := fun j s' o' hplace' => by
      have hold := h.mine j s' o'
      change t.surfaceWindows s' = o'
      grind [Function.update_apply]
    leftover := fun j s' o' hpending => by
      have hold := h.leftover j s' o'
      change t.surfaceWindows s' = o'
      grind [Function.update_apply]
    anchored := fun s' w' hmapped => by
      have hold := h.anchored s' w' hmapped
      grind [Function.update_apply]
    looking := fun j w' => by
      have hold := h.looking j w'
      grind
    absent := fun j => by
      have hold := h.absent j
      grind
    sound := h.sound }

omit [DecidableEq H] in
/-- What is freed was there, so it has not been freed before. -/
theorem Sound.free {w : ℕ} {log : List WindowEvent} (h : Sound log) (hw : .freed w ∉ log) :
    Sound (log ++ [.freed w]) := by
  refine List.pairwise_append.2 ⟨h, List.pairwise_singleton .., fun e he e' he' w' hfreed => ?_⟩
  obtain rfl := List.mem_singleton.1 he'
  subst hfreed
  grind

theorem Kept.discard {w : ℕ} (h : Kept t place pending holder) (hdoing : (t.connections i).doing = .refused w) :
    Kept ((t.discardOwnWindow w).turn i .nothing) place pending (Function.update holder w none) := by
  have hw : holder w = some (.thread i) := (h.lives.threads i w).1 (by rw [hdoing]; rfl)
  have hne : holder w ≠ none := by simp [hw]
  have hunmapped : ∀ s, t.surfaceWindows s ≠ some w := by
    intro s hs
    cases ((h.lives.mapped s w).1 hs).symm.trans hw
  rw [discardOwnWindow_eq h.lives hne]
  have hplain : Doing.plain (t.connections i).doing := by rw [hdoing]; rfl
  have hturn := h.places.turn (c := { t.connections i with doing := .nothing }) hplain rfl rfl
  exact {
    places := ⟨hturn.kept, hturn.made, hturn.live, hturn.pend, hturn.settled⟩
    lives := h.lives.free hne
      (fun j w' => by
        have hthread := h.lives.threads j w'
        grind [Windows.turn, Doing.window])
      (fun s w' => by
        have hother := hunmapped s
        change t.surfaceWindows s = some w' ↔ _
        grind) rfl rfl rfl
    mine := h.mine
    leftover := h.leftover
    anchored := h.anchored
    looking := fun j w' => by
      have hold := h.looking j w'
      grind [Windows.turn]
    absent := fun j => by
      have hold := h.absent j
      grind [Windows.turn]
    sound := h.sound.free fun hmem => hne ((h.lives.freed w).1 hmem).2 }

theorem Kept.release {s : H} {o : Option ℕ} (h : Kept t place pending holder)
    (hdoing : (t.connections i).doing = .destroyed s o) :
    ∃ holder', Kept ((t.releaseSurfaceWindow s).turn i .nothing) place (Function.update pending s none) holder' := by
  have hpending := (h.places.pend i s o).1 hdoing
  have hleft := h.leftover i s o hpending
  have hplaces := h.places.release hdoing
  have hmoved : ∀ j o', place s ≠ some (.kept j o') := fun j o' => h.places.settled s j o' (by simp [hpending])
  unfold releaseSurfaceWindow
  cases ho : t.surfaceWindows s with
  | none =>
    dsimp only
    exact ⟨holder, {
      places := hplaces
      lives := h.lives.turn (by rw [hdoing]; rfl)
      mine := h.mine
      leftover := fun j s' o' hs' => by
        have hold := h.leftover j s' o'
        change t.surfaceWindows s' = o'
        grind [Function.update_apply]
      anchored := fun s' w' hmapped => by
        have hold := h.anchored s' w' hmapped
        have hs : t.surfaceWindows s' = some w' := hmapped
        grind [Function.update_apply]
      looking := fun j w' => by
        have hold := h.looking j w'
        grind [Windows.turn]
      absent := fun j => by
        have hold := h.absent j
        grind [Windows.turn]
      sound := h.sound }⟩
  | some w =>
    have hw : holder w = some (.surface s) := (h.lives.mapped s w).1 ho
    have hne : holder w ≠ none := by simp [hw]
    have hunmapped : ∀ s', t.surfaceWindows s' = some w → s' = s := by
      intro s' hs'
      exact Holder.surface.inj (Option.some.inj (((h.lives.mapped s' w).1 hs').symm.trans hw))
    have hunheld : ∀ j, (t.connections j).doing.window ≠ some w := by
      intro j hj
      cases ((h.lives.threads j w).1 hj).symm.trans hw
    dsimp only
    have hown : w ∈ t.ownWindows := (h.lives.own w).2 hne
    have hdiscard : ({ t with surfaceWindows := Function.update t.surfaceWindows s none } :
        Windows H).discardOwnWindow w = { t with
          surfaceWindows := Function.update t.surfaceWindows s none
          ownWindows := t.ownWindows.erase w
          log := t.log ++ [.freed w] } := if_pos hown
    rw [hdiscard]
    have hsurface : ∀ s', (Function.update t.surfaceWindows s none) s' = if s' = s then none else t.surfaceWindows s' :=
      fun s' => Function.update_apply ..
    exact ⟨Function.update holder w none, {
      places := ⟨hplaces.kept, hplaces.made, hplaces.live, hplaces.pend, hplaces.settled⟩
      lives := h.lives.free hne
        (fun j w' => by
          have hthread := hunheld j
          grind [Windows.turn, Doing.window])
        (fun s' w' => by
          have hother := hunmapped s'
          change Function.update t.surfaceWindows s none s' = some w' ↔ _
          grind) rfl rfl rfl
      mine := fun j s' o' hplace => by
        have hold := h.mine j s' o' hplace
        have hmove := hmoved j o'
        change Function.update t.surfaceWindows s none s' = o'
        grind
      leftover := fun j s' o' hs' => by
        have hold := h.leftover j s' o'
        change Function.update t.surfaceWindows s none s' = o'
        grind [Function.update_apply]
      anchored := fun s' w' hmapped => by
        change Function.update t.surfaceWindows s none s' = some w' at hmapped
        have hold := h.anchored s' w'
        grind [Function.update_apply]
      looking := fun j w' => by
        have hold := h.looking j w'
        grind [Windows.turn]
      absent := fun j => by
        have hold := h.absent j
        grind [Windows.turn]
      sound := h.sound.free fun hmem => hne ((h.lives.freed w).1 hmem).2 }⟩

/-- What the server looks up for a surface of the connection is a window that is still there. -/
theorem Kept.named {s : H} (h : Kept t place pending holder) (hs : t.Names i s) :
    (t.connections i).surfaces.lookup s = some (t.surfaceWindows s) := by
  obtain ⟨o, ho⟩ := Option.isSome_iff_exists.1 hs.2
  rw [ho, h.mine i s o ((h.places.kept i s o).1 ho)]

theorem Kept.held {s : H} (h : Kept t place pending holder) (w : ℕ) (hw : t.surfaceWindows s = some w) :
    holder w ≠ none := by
  rw [(h.lives.mapped s w).1 hw]
  exact Option.some_ne_none _

theorem kept_step {a : Action H} (h : Kept t place pending holder) (hc : Settled t a) (hstep : t.step a = some t') :
    ∃ place' pending' holder', Kept t' place' pending' holder' := by
  cases a with
  | connect i =>
    simp only [step, Option.ite_none_left_eq_some, Option.some.injEq] at hstep
    obtain ⟨hthere, rfl⟩ := hstep
    obtain ⟨hsurfaces, hdoing⟩ := h.absent i (by simpa using hthere)
    have hplain : Doing.plain (t.connections i).doing := by rw [hdoing]; rfl
    exact ⟨place, pending, holder, h.turn hplain rfl hsurfaces.symm (by rw [hdoing]) (by simp) (by simp)⟩
  | openWindow i =>
    simp only [step, Option.ite_none_right_eq_some, Option.some.injEq] at hstep
    obtain ⟨hidle, rfl⟩ := hstep
    exact ⟨_, _, _, h.openWindow hidle⟩
  | createSurface i surface =>
    simp only [step] at hstep
    split at hstep
    · next window hdoing =>
      obtain rfl := Option.some.inj hstep
      refine ⟨place, pending, holder, h.turn ?_ rfl rfl ?_ (by simp) fun hthere => ?_⟩
      · rw [hdoing]; rfl
      · rw [hdoing]; rfl
      · cases (h.absent i hthere).2.symm.trans hdoing
    · next window surface hdoing =>
      simp only [Option.ite_none_left_eq_some, Option.some.injEq] at hstep
      obtain ⟨hfresh, rfl⟩ := hstep
      exact ⟨_, _, _, h.make hdoing hfresh⟩
    · cases hstep
  | associate i =>
    simp only [step] at hstep
    split at hstep
    · next window surface hdoing =>
      obtain rfl := Option.some.inj hstep
      exact ⟨_, _, _, h.associate hdoing (hc window surface hdoing)⟩
    · cases hstep
  | discard i =>
    simp only [step] at hstep
    split at hstep
    · next window hdoing =>
      obtain rfl := Option.some.inj hstep
      exact ⟨_, _, _, h.discard hdoing⟩
    · cases hstep
  | createProxied i surface =>
    simp only [step, Option.ite_none_right_eq_some, Option.some.injEq] at hstep
    obtain ⟨⟨hidle, hfresh⟩, rfl⟩ := hstep
    exact ⟨_, _, _, h.proxied hidle hfresh hc⟩
  | destroySurface i surface =>
    simp only [step] at hstep
    split at hstep
    · cases hstep
    · next window hlookup =>
      simp only [Option.ite_none_right_eq_some, Option.some.injEq] at hstep
      obtain ⟨hdoing, rfl⟩ := hstep
      exact ⟨_, _, _, h.take hlookup hdoing⟩
  | release i =>
    simp only [step] at hstep
    split at hstep
    · next surface window hdoing =>
      obtain rfl := Option.some.inj hstep
      obtain ⟨holder', hkept⟩ := h.release hdoing
      exact ⟨_, _, holder', hkept⟩
    · cases hstep
  | poll i surface =>
    simp only [step, Option.ite_none_right_eq_some, Option.some.injEq] at hstep
    obtain ⟨-, rfl⟩ := hstep
    exact ⟨_, _, _, h.use h.held⟩
  | look i surface =>
    simp only [step, Option.ite_none_right_eq_some, Option.some.injEq] at hstep
    obtain ⟨hnames, rfl⟩ := hstep
    have hnamed := h.named hnames
    refine ⟨place, pending, holder, h.turn ?_ rfl rfl ?_ (fun w hw => ?_) fun hthere => ?_⟩
    · rw [hnames.1.2.2]; rfl
    · rw [hnames.1.2.2]; rfl
    · exact ⟨surface, hnamed.trans (congrArg some (Doing.looking.inj hw))⟩
    · cases hthere.symm.trans hnames.1.1
  | readSize i =>
    simp only [step] at hstep
    split at hstep
    · next window hdoing =>
      obtain rfl := Option.some.inj hstep
      have hheld : ∀ w, window = some w → holder w ≠ none := by
        intro w hw
        obtain ⟨s, hs⟩ := h.looking i w (hdoing.trans (congrArg _ hw))
        exact h.held w (h.mine i s _ ((h.places.kept i s _).1 hs))
      refine ⟨place, pending, holder, (h.use hheld).turn ?_ rfl rfl ?_ (by simp) fun hthere => ?_⟩
      · change Doing.plain (t.connections i).doing = true
        rw [hdoing]; rfl
      · change _ = (t.connections i).doing.window
        rw [hdoing]; rfl
      · cases (h.absent i hthere).2.symm.trans hdoing
    · cases hstep
  | leave i =>
    simp only [step, Option.ite_none_right_eq_some, Option.some.injEq] at hstep
    obtain ⟨⟨hthere, -, hdoing⟩, rfl⟩ := hstep
    have hplain : Doing.plain (t.connections i).doing := by rw [hdoing]; rfl
    exact ⟨_, _, _, h.turn hplain hplain rfl rfl (h.looking i) (h.absent i)⟩
  | gone i =>
    simp only [step, Option.ite_none_right_eq_some, Option.some.injEq] at hstep
    obtain ⟨⟨-, hdoing, hsurfaces⟩, rfl⟩ := hstep
    have hplain : Doing.plain (t.connections i).doing := by rw [hdoing]; rfl
    exact ⟨place, pending, holder, h.turn hplain rfl hsurfaces.symm (by rw [hdoing]) (by simp) (by simp)⟩

end Steps

theorem kept_init : Kept ({} : Windows H) (fun _ => none) (fun _ => none) fun _ => none where
  places := ⟨by simp, by simp, by simp, by simp, by simp⟩
  lives := ⟨by simp [Doing.window], by simp, by simp, List.nodup_nil, by simp, by simp⟩
  mine := by simp
  leftover := by simp
  anchored := by simp
  looking := by simp
  absent := by simp
  sound := List.Pairwise.nil

theorem kept_run {as : List (Action H)} {t : Windows H} (h : RunWhere Windows.step Settled {} as t) :
    ∃ place pending holder, Kept t place pending holder :=
  h.invariant (I := fun t => ∃ place pending holder, Kept t place pending holder) ⟨_, _, _, kept_init⟩
    fun _ _ _ ⟨_, _, _, hkept⟩ hc hs => kept_step hkept hc hs

/-- However the connections interleave, no window is used after its end or ends twice, each surface of a connection has
the window that it was made for, and when the last connection is gone every window is. -/
theorem windows_follow_surfaces {as : List (Action H)} {t : Windows H} (h : RunWhere Windows.step Settled {} as t) :
    Sound t.log ∧
    (∀ i surface window, (t.connections i).surfaces.lookup surface = some window →
      t.surfaceWindows surface = window ∧ ∀ w, window = some w →
        w ∈ t.ownWindows ∧ ∀ other, t.surfaceWindows other = some w → other = surface) ∧
    ((∀ i, (t.connections i).there = false) → t.ownWindows = [] ∧ (∀ surface, t.surfaceWindows surface = none) ∧
      ∀ w < t.opened, .freed w ∈ t.log) := by
  obtain ⟨place, pending, holder, hkept⟩ := kept_run h
  refine ⟨hkept.sound, fun i surface window hlookup => ?_, fun hgone => ?_⟩
  · have hmine := hkept.mine i surface window ((hkept.places.kept i surface window).1 hlookup)
    refine ⟨hmine, fun w hw => ?_⟩
    have hholder := (hkept.lives.mapped surface w).1 (hmine.trans hw)
    refine ⟨(hkept.lives.own w).2 (by simp [hholder]), fun other hother => ?_⟩
    exact Holder.surface.inj (Option.some.inj (((hkept.lives.mapped other w).1 hother).symm.trans hholder))
  · have hunmapped : ∀ surface, t.surfaceWindows surface = none := by
      intro surface
      by_contra hne
      obtain ⟨w, hw⟩ := Option.ne_none_iff_exists'.1 hne
      rcases hkept.anchored surface w hw with ⟨i, o, hplace⟩ | hpending
      · have hlookup := (hkept.places.kept i surface o).2 hplace
        rw [(hkept.absent i (hgone i)).1] at hlookup
        cases hlookup
      · obtain ⟨⟨i, o⟩, hi⟩ := Option.ne_none_iff_exists'.1 hpending
        cases (hkept.absent i (hgone i)).2.symm.trans ((hkept.places.pend i surface o).2 hi)
    have hfree : ∀ w, holder w = none := by
      intro w
      cases hw : holder w with
      | none => rfl
      | some who =>
        cases who with
        | thread i =>
          have hdoing := (hkept.lives.threads i w).2 hw
          rw [(hkept.absent i (hgone i)).2] at hdoing
          cases hdoing
        | surface s => cases (hunmapped s).symm.trans ((hkept.lives.mapped s w).2 hw)
    refine ⟨List.eq_nil_iff_forall_not_mem.2 fun w hw => (hkept.lives.own w).1 hw (hfree w), hunmapped, fun w hw => ?_⟩
    exact (hkept.lives.freed w).2 ⟨hw, hfree w⟩

end Windows

/-- A second connection opens a window and is refused its surface while the first one looks at its own. -/
def windowVisit : List (Windows.Action ℕ) :=
  [.connect 0, .connect 1, .openWindow 0, .openWindow 1, .createSurface 1 none, .createSurface 0 (some 5), .associate 0,
    .discard 1, .look 0 5, .leave 1, .gone 1, .readSize 0, .leave 0, .destroySurface 0 5, .release 0, .gone 0]

open Windows in
theorem window_visit : ∃ t, RunWhere Windows.step Settled {} windowVisit t ∧
    (∀ i, (t.connections i).there = false) ∧ t.opened = 2 ∧ t.log = [.freed 1, .used 0, .freed 0] := by
  obtain ⟨t, ht⟩ : ∃ t, runList Windows.step {} windowVisit = some t := ⟨_, rfl⟩
  refine ⟨t, runWhere_of_runList ht fun k a t' ha ht' => ?_, ?_⟩
  · cases a with
    | associate i =>
      have hk : k = 6 := by
        have hlt := (List.getElem?_eq_some_iff.1 ha).1
        change k < 16 at hlt
        interval_cases k <;> simp [windowVisit] at ha ⊢
      subst hk
      obtain rfl := Option.some.inj (Eq.symm ht')
      intro w s _ j o
      by_cases h0 : j = 0
      · subst h0
        simp [Windows.turn, Windows.set]
      · by_cases h1 : j = 1
        · subst h1
          simp [Windows.turn, Windows.set]
        · simp [Windows.turn, Windows.set, Windows.createOwnWindow, h0, h1]
    | createProxied i s => exact absurd (List.mem_of_getElem? ha) (by simp [windowVisit])
    | _ => trivial
  · obtain rfl := Option.some.inj (Eq.symm ht)
    refine ⟨fun i => ?_, rfl, rfl⟩
    by_cases h0 : i = 0
    · subst h0
      rfl
    · by_cases h1 : i = 1
      · subst h1
        rfl
      · simp [turn, Windows.set, use, createOwnWindow, associateSurface, releaseSurfaceWindow, discardOwnWindow,
          h0, h1]

open Windows in
theorem windows_follow_surfaces_visit : ∃ t, RunWhere Windows.step Settled {} windowVisit t ∧ Sound t.log ∧
    t.ownWindows = [] ∧ .freed 0 ∈ t.log ∧ .freed 1 ∈ t.log := by
  obtain ⟨t, hrun, hgone, hopened, -⟩ := window_visit
  obtain ⟨hsound, -, hend⟩ := windows_follow_surfaces hrun
  obtain ⟨hown, -, hfreed⟩ := hend hgone
  exact ⟨t, hrun, hsound, hown, hfreed 0 (by omega), hfreed 1 (by omega)⟩

end VkRemote.Server
