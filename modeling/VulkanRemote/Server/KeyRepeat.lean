import VulkanRemote.Server.OwnWindow

/-! The thread that repeats a key, against the callbacks of the keyboard: one takes a step wherever the other
is not inside a section under the same mutex. -/

namespace VkRemote.Server

open Lib

/-- Where the repeat thread is: in one of its waits, between its test of a key and the record of the repeat,
or behind the record. It ends when it is told to, or by the division by a rate that has become zero. -/
inductive RepeatThread
  | waiting
  | delaying (key : UInt32)
  | recording (key : UInt32)
  | recorded (key : UInt32)
  | pausing (key : UInt32)
  | ended
  deriving DecidableEq

/-- The window, how far the running callback is, and the repeat thread. -/
structure Threads where
  window : OwnWindow := {}
  done : List Op := []
  todo : List Op := []
  thread : RepeatThread := .waiting
  stopRepeat : Bool := false
  deriving DecidableEq

/-- `callback` is the next section of the callback that has begun; `waited` is the end of a wait or another
step of the repeat thread. -/
inductive KeyAction
  | begin (c : Callback)
  | callback
  | waited
  | stop
  deriving DecidableEq

namespace Threads

/-- The condition of the inner loop. -/
def Repeats (t : Threads) (key : UInt32) : Prop :=
  t.stopRepeat = false ∧ t.window.repeatingKey = key ∧ 0 < t.window.repeatRate

instance (t : Threads) (key : UInt32) : Decidable (t.Repeats key) := inferInstanceAs (Decidable (_ ∧ _ ∧ _))

/-- Both waits with a time limit end in the same test, whether the time is over or the key has changed. -/
def test (t : Threads) (key : UInt32) : Threads :=
  { t with thread := if t.Repeats key then .recording key else .waiting }

def repeatStep (t : Threads) : Option Threads :=
  match t.thread with
  | .waiting =>
    if t.stopRepeat then some { t with thread := .ended }
    else if t.window.repeatingKey ≠ 0 ∧ 0 < t.window.repeatRate then
      some { t with thread := .delaying t.window.repeatingKey }
    else none
  | .delaying key => some (t.test key)
  | .recording key =>
    some { t with window := t.window.apply (.record (keyEvent key 2)), thread := .recorded key }
  | .recorded key => some { t with thread := if t.window.repeatRate = 0 then .ended else .pausing key }
  | .pausing key => some (t.test key)
  | .ended => none

def step (t : Threads) : KeyAction → Option Threads
  | .begin c =>
    if t.todo = [] ∧ t.window.Lists c then some { t with done := [], todo := t.window.ops c } else none
  | .callback =>
    match t.todo with
    | [] => none
    | op :: ops => some { t with window := t.window.apply op, done := t.done ++ [op], todo := ops }
  | .waited => t.repeatStep
  | .stop => some { t with stopRepeat := true }

end Threads

/-! ### What is asked of the record -/

/-- A press of the key is recorded, and no release since. -/
def Down (key : UInt32) (es : List InputEvent) : Prop :=
  ∃ earlier state between, es = earlier ++ keyEvent key state :: between ∧ state ≠ 0 ∧ state ≠ 2 ∧
    keyEvent key 0 ∉ between

/-- Every recorded repeat lies between a press of its key and the next release. -/
def RepeatsHeld (es : List InputEvent) : Prop :=
  ∀ key before, before ++ [keyEvent key 2] <+: es → Down key before

/-- The key that a section records as released. -/
def Op.releases : Op → Option UInt32
  | .record e => if e.type = .key ∧ e.b = 0 then some e.a else none
  | _ => none

/-- The key that is tested at the end of a wait. -/
def RepeatThread.tested : RepeatThread → Option UInt32
  | .delaying key | .pausing key => some key
  | _ => none

namespace Threads

/-- The keys whose release the running callback has recorded. -/
def released (t : Threads) : Finset UInt32 := (t.done.filterMap Op.releases).toFinset

/-- The repeat thread does not test a key that the running callback has recorded as released, and no release
of a key is recorded between its test and its record. The compositor, too, repeats only pressed keys. -/
def Apart (t : Threads) : KeyAction → Prop
  | .begin (.keyboardKey key state _) =>
    t.window.keyboardFocused = true → state = 2 → key ∈ t.window.pressedKeys
  | .callback => ∀ key ∈ t.todo.head?.bind Op.releases, t.thread ≠ .recording key
  | .waited => ∀ key ∈ t.thread.tested, t.Repeats key → key ∉ t.released
  | _ => True

instance (t : Threads) : (a : KeyAction) → Decidable (t.Apart a)
  | .begin (.keyboardKey key state _) =>
    inferInstanceAs (Decidable (t.window.keyboardFocused = true → state = 2 → key ∈ t.window.pressedKeys))
  | .callback => Option.decidableForallMem (p := fun key => t.thread ≠ .recording key) _
  | .waited => Option.decidableForallMem (p := fun key => t.Repeats key → key ∉ t.released) _
  | .stop => .isTrue trivial
  | .begin (.registryGlobal _) | .begin (.registryGlobalRemove _ _) | .begin (.seatCapabilities _ _)
  | .begin (.pointerEnter _ _ _) | .begin .pointerLeave | .begin (.pointerMotion _ _)
  | .begin (.pointerButton _ _) | .begin (.pointerFrame _) | .begin (.keyboardEnter _ _)
  | .begin (.keyboardLeave _) | .begin (.keyboardRepeatInfo _) => .isTrue trivial

end Threads

section

variable {es : List InputEvent} {e : InputEvent} {key : UInt32}

theorem Down.concat (h : Down key es) (he : e ≠ keyEvent key 0) : Down key (es ++ [e]) := by
  obtain ⟨earlier, state, between, rfl, hzero, htwo, hbetween⟩ := h
  refine ⟨earlier, state, between ++ [e], by simp, hzero, htwo, fun hmem => ?_⟩
  rcases List.mem_append.1 hmem with hold | hnew
  · exact hbetween hold
  · exact he (List.mem_singleton.1 hnew).symm

theorem heldIn_concat_key (es : List InputEvent) (key state : UInt32) :
    heldIn .key (es ++ [keyEvent key state]) = hold (heldIn .key es) ⟨key, state ≠ 0⟩ :=
  heldIn_concat .key es key state

/-- Only its own release takes a key away. -/
theorem mem_heldIn_append {more : List InputEvent} (h : key ∈ heldIn .key es)
    (hrelease : keyEvent key 0 ∉ more) : key ∈ heldIn .key (es ++ more) := by
  induction more using List.reverseRecOn with
  | nil => rwa [List.append_nil]
  | append_singleton more e ih =>
    have hbefore := ih fun hmem => hrelease (List.mem_append_left _ hmem)
    rw [← List.append_assoc]
    by_cases hkey : e.type = .key
    · obtain ⟨type, a, b⟩ := e
      obtain rfl : type = .key := hkey
      rw [heldIn_concat]
      by_cases hb : b = 0
      · subst hb
        refine Finset.mem_erase.2 ⟨fun heq => hrelease ?_, hbefore⟩
        exact List.mem_append_right _ (List.mem_singleton.2 (heq ▸ rfl))
      · rw [decide_eq_true hb]
        exact Finset.mem_insert_of_mem hbefore
    · rw [heldIn_concat_of_ne hkey]
      exact hbefore

theorem Down.held (h : Down key es) : key ∈ heldIn .key es := by
  obtain ⟨earlier, state, between, rfl, hzero, -, hbetween⟩ := h
  rw [List.append_cons]
  refine mem_heldIn_append ?_ hbetween
  rw [heldIn_concat_key, decide_eq_true hzero]
  exact Finset.mem_insert_self _ _

/-- The record is in order, and what it leaves pressed is down. -/
structure Ordered (es : List InputEvent) : Prop where
  repeats : RepeatsHeld es
  down : ∀ key ∈ heldIn .key es, Down key es

theorem ordered_nil : Ordered [] where
  repeats key before h := absurd (List.prefix_nil.1 h) (by simp)
  down key h := absurd h (Finset.notMem_empty key)

theorem Ordered.record (h : Ordered es) (he : ∀ key, e = keyEvent key 2 → key ∈ heldIn .key es) :
    Ordered (es ++ [e]) where
  repeats key before hprefix := by
    rcases List.prefix_concat_iff.1 hprefix with hlast | hprefix
    · obtain ⟨rfl, hnew⟩ := List.append_inj' hlast rfl
      exact h.down key (he key (List.singleton_inj.1 hnew).symm)
    · exact h.repeats key before hprefix
  down key hmem := by
    by_cases hkey : e.type = .key
    · obtain ⟨type, a, b⟩ := e
      obtain rfl : type = .key := hkey
      change key ∈ heldIn .key (es ++ [keyEvent a b]) at hmem
      rw [heldIn_concat_key] at hmem
      by_cases hb : b = 0
      · subst hb
        obtain ⟨hne, hold⟩ := Finset.mem_erase.1 hmem
        refine (h.down key hold).concat fun heq => hne ?_
        exact (congrArg InputEvent.a heq).symm
      · rw [decide_eq_true hb, hold_down, Finset.mem_insert] at hmem
        have hother : keyEvent a b ≠ keyEvent key 0 := fun heq => hb (congrArg InputEvent.b heq)
        by_cases hdown : key ∈ heldIn .key es
        · exact (h.down key hdown).concat hother
        · obtain rfl := hmem.resolve_right hdown
          have htwo : b ≠ 2 := fun h2 => hdown (he key (h2 ▸ rfl))
          exact ⟨es, b, [], rfl, hb, htwo, List.not_mem_nil⟩
    · rw [heldIn_concat_of_ne hkey] at hmem
      exact (h.down key hmem).concat fun heq => hkey (congrArg InputEvent.type heq)

end

/-- What the record leaves pressed, what the window tracks, which key repeats, and the releases that the
running callback has recorded. -/
structure KeyView where
  down : Finset UInt32
  pressed : Finset UInt32
  repeating : UInt32
  released : Finset UInt32 := ∅

namespace KeyView

def step (v : KeyView) : Op → KeyView
  | .record e =>
    if e.type = .key then
      { v with down := hold v.down ⟨e.a, e.b ≠ 0⟩
               released := if e.b = 0 then insert e.a v.released else v.released }
    else v
  | .insertKey key => { v with pressed := insert key v.pressed }
  | .eraseKey key => { v with pressed := v.pressed.erase key }
  | .clearKeys => { v with pressed := ∅ }
  | .repeatKey key state repeats =>
    if state ≠ 0 ∧ repeats then { v with repeating := key }
    else if state = 0 ∧ v.repeating = key then { v with repeating := 0 }
    else v
  | .stopRepeat => { v with repeating := 0 }
  | _ => v

/-- The key that repeats is down, or the running callback is about to stop it. -/
def Ok (v : KeyView) : Prop := v.repeating ≠ 0 → v.repeating ∈ v.down ∨ v.repeating ∈ v.released

/-- Between two callbacks the record and the tracked keys agree, and the key that repeats is one of them. -/
def Quiet (v : KeyView) : Prop := v.down = v.pressed ∧ (v.repeating ≠ 0 → v.repeating ∈ v.down)

/-- The rest of a callback keeps the key that repeats in order, section by section. -/
def Sound : KeyView → List Op → Prop
  | v, [] => v.Quiet
  | v, op :: ops =>
    v.Ok ∧ (∀ key, op = .record (keyEvent key 2) → key ∈ v.down) ∧ Sound (v.step op) ops

end KeyView

/-- A section that has nothing to do with keys. -/
def Op.Plain : Op → Prop
  | .record e => e.type ≠ .key
  | .setFocused _ | .setInside _ | .setButtons _ | .setSeat _ _ | .setPointer _ | .setKeyboard _ | .setRate _ =>
    True
  | _ => False

namespace KeyView

variable {v : KeyView} {ops : List Op}

theorem step_plain {op : Op} (h : op.Plain) : v.step op = v := by
  cases op with
  | record e => exact if_neg h
  | insertKey | eraseKey | clearKeys | repeatKey | stopRepeat => exact h.elim
  | _ => rfl

theorem Quiet.ok (h : v.Quiet) : v.Ok := fun hne => .inl (h.2 hne)

theorem Sound.ok (h : v.Sound ops) : v.Ok := by
  cases ops with
  | nil => exact h.ok
  | cons op ops => exact h.1

theorem sound_plain {plain : List Op} (hplain : ∀ op ∈ plain, op.Plain) (h : v.Sound ops) :
    v.Sound (plain ++ ops) := by
  induction plain with
  | nil => exact h
  | cons op plain ih =>
    obtain ⟨hop, hrest⟩ := List.forall_mem_cons.1 hplain
    refine ⟨h.ok, fun key hkey => ?_, ?_⟩
    · subst hkey
      exact absurd rfl hop
    · rw [step_plain hop]
      exact ih hrest

theorem sound_plain_nil {plain : List Op} (hplain : ∀ op ∈ plain, op.Plain) (h : v.Quiet) : v.Sound plain := by
  rw [← List.append_nil plain]
  exact sound_plain hplain h

/-- Releases that are recorded one after the other. -/
theorem sound_releases {order : List UInt32} (hok : v.Ok)
    (h : Sound { v with down := v.down \ order.toFinset, released := order.toFinset ∪ v.released } ops) :
    v.Sound (order.map (fun key => .record (keyEvent key 0)) ++ ops) := by
  induction order generalizing v with
  | nil => simpa using h
  | cons key order ih =>
    have hstep : v.step (.record (keyEvent key 0)) =
        { v with down := v.down.erase key, released := insert key v.released } := rfl
    refine ⟨hok, fun k hk => ?_, ?_⟩
    · have htwo : (0 : UInt32) = 2 := congrArg InputEvent.b (Op.record.inj hk)
      exact absurd htwo (by decide)
    · rw [hstep]
      refine ih (fun hne => ?_) ?_
      · by_cases heq : v.repeating = key
        · exact .inr (heq ▸ Finset.mem_insert_self _ _)
        · rcases hok hne with hdown | hreleased
          · exact .inl (Finset.mem_erase.2 ⟨heq, hdown⟩)
          · exact .inr (Finset.mem_insert_of_mem hreleased)
      · have hdown : v.down.erase key \ order.toFinset = v.down \ (key :: order).toFinset := by
          ext k
          simp only [List.toFinset_cons, Finset.mem_sdiff, Finset.mem_erase, Finset.mem_insert]
          tauto
        have hreleased : order.toFinset ∪ insert key v.released = (key :: order).toFinset ∪ v.released := by
          rw [List.toFinset_cons, Finset.union_insert, Finset.insert_union]
        rw [hdown, hreleased]
        exact h

/-- When the keyboard goes, nothing is down and nothing repeats. -/
theorem sound_releaseKeys {order : List UInt32} {plain : List Op} (hq : v.Quiet)
    (horder : order.toFinset = v.pressed) (hplain : ∀ op ∈ plain, op.Plain) :
    v.Sound (releaseKeys order ++ plain) := by
  have hempty : v.down \ order.toFinset = ∅ := by
    rw [hq.1, horder, sdiff_self]
    rfl
  rw [releaseKeys, List.append_assoc]
  refine sound_releases hq.ok ?_
  rw [hempty]
  -- until the repeat is stopped, the key that repeats is among the released ones
  have hrepeating : v.repeating ≠ 0 → v.repeating ∈ order.toFinset ∪ v.released := fun hne =>
    Finset.mem_union_left _ (horder ▸ hq.1 ▸ hq.2 hne)
  refine ⟨fun hne => .inr (hrepeating hne), fun _ h => Op.noConfusion h, fun hne => .inr (hrepeating hne),
    fun _ h => Op.noConfusion h, ?_⟩
  have hfocus : ∀ op ∈ [Op.setFocused false, .record (focusEvent false)], op.Plain := by
    simp [Op.Plain, focusEvent]
  change KeyView.Sound _ ([.setFocused false, .record (focusEvent false)] ++ plain)
  exact sound_plain hfocus (sound_plain_nil hplain ⟨rfl, fun hne => absurd rfl hne⟩)

theorem plain_releaseButtons (mask : UInt32) : ∀ op ∈ releaseButtons mask, op.Plain := by
  refine List.forall_mem_append.2 ⟨fun op hop => ?_, by simp [Op.Plain]⟩
  obtain ⟨button, -, rfl⟩ := List.mem_map.1 hop
  exact InputType.noConfusion

theorem plain_losePointer (w : OwnWindow) : ∀ op ∈ w.losePointer, op.Plain := by
  unfold OwnWindow.losePointer
  split
  · exact List.forall_mem_append.2 ⟨plain_releaseButtons _, List.forall_mem_singleton.2 trivial⟩
  · exact List.forall_mem_nil _

theorem sound_loseKeyboard {w : OwnWindow} {order : List UInt32} {plain : List Op} (hq : v.Quiet)
    (horder : order.toFinset = v.pressed) (hplain : ∀ op ∈ plain, op.Plain) :
    v.Sound (w.loseKeyboard order ++ plain) := by
  unfold OwnWindow.loseKeyboard
  split
  · rw [List.append_assoc]
    exact sound_releaseKeys hq horder (List.forall_mem_cons.2 ⟨trivial, hplain⟩)
  · exact sound_plain_nil hplain hq

theorem sound_enterKeys {keys : List UInt32} (hq : v.Quiet) : v.Sound (enterKeys v.pressed keys) := by
  induction keys generalizing v with
  | nil => exact hq
  | cons key keys ih =>
    rw [enterKeys]
    split
    · exact ih hq
    · have hpressed : KeyView.Quiet { v with down := insert key v.down, pressed := insert key v.pressed } :=
        ⟨congrArg (insert key) hq.1, fun hne => Finset.mem_insert_of_mem (hq.2 hne)⟩
      refine ⟨hq.ok, fun _ h => Op.noConfusion h, hq.ok, fun k hk => ?_, ih hpressed⟩
      have htwo : (1 : UInt32) = 2 := congrArg InputEvent.b (Op.record.inj hk)
      exact absurd htwo (by decide)

theorem sound_keyReleased {key : UInt32} {repeats : Bool} (hq : v.Quiet) :
    v.Sound [.eraseKey key, .record (keyEvent key 0), .repeatKey key 0 repeats] := by
  have hkept : v.repeating ≠ 0 → v.repeating ≠ key → v.repeating ∈ v.down.erase key := fun hne hother =>
    Finset.mem_erase.2 ⟨hother, hq.2 hne⟩
  have hreleased : KeyView.Ok { v with pressed := v.pressed.erase key, down := v.down.erase key,
                                       released := insert key v.released } := by
    intro hne
    by_cases hsame : v.repeating = key
    · exact .inr (hsame ▸ Finset.mem_insert_self _ _)
    · exact .inl (hkept hne hsame)
  refine ⟨hq.ok, fun _ h => Op.noConfusion h, hq.ok, fun k hk => ?_, hreleased, fun _ h => Op.noConfusion h, ?_⟩
  · have htwo : (0 : UInt32) = 2 := congrArg InputEvent.b (Op.record.inj hk)
    exact absurd htwo (by decide)
  · have hdown : v.down.erase key = v.pressed.erase key := congrArg (Finset.erase · key) hq.1
    have hrecord : (v.step (.eraseKey key)).step (.record (keyEvent key 0)) =
        { v with pressed := v.pressed.erase key, down := v.down.erase key,
                 released := insert key v.released } := rfl
    rw [hrecord]
    dsimp only [step]
    split
    · next hpress => exact absurd rfl hpress.1
    · split
      · exact ⟨hdown, fun hne => absurd rfl hne⟩
      · next hother => exact ⟨hdown, fun hne => hkept hne fun hsame => hother ⟨rfl, hsame⟩⟩

theorem sound_keyPressed {key state : UInt32} {repeats : Bool} (hq : v.Quiet) (hstate : state ≠ 0)
    (htwo : state = 2 → key ∈ v.down) :
    v.Sound [.insertKey key, .record (keyEvent key state), .repeatKey key state repeats] := by
  have hrecord : (v.step (.insertKey key)).step (.record (keyEvent key state)) =
      { v with pressed := insert key v.pressed, down := insert key v.down } := by
    have hdown : hold v.down ⟨key, state ≠ 0⟩ = insert key v.down := by
      rw [decide_eq_true hstate, hold_down]
    dsimp only [step, keyEvent]
    rw [if_pos rfl, if_neg hstate, hdown]
  refine ⟨hq.ok, fun _ h => Op.noConfusion h, hq.ok, fun k hk => ?_, ?_⟩
  · have heq := Op.record.inj hk
    obtain rfl : key = k := congrArg InputEvent.a heq
    exact htwo (congrArg InputEvent.b heq)
  · rw [hrecord]
    have hdown : insert key v.down = insert key v.pressed := congrArg (insert key) hq.1
    have hold : v.repeating ≠ 0 → v.repeating ∈ insert key v.down := fun hne =>
      Finset.mem_insert_of_mem (hq.2 hne)
    refine ⟨fun hne => .inl (hold hne), fun _ h => Op.noConfusion h, ?_⟩
    dsimp only [step]
    split
    · exact ⟨hdown, fun _ => Finset.mem_insert_self _ _⟩
    · split
      · next hzero => exact absurd hzero.1 hstate
      · exact ⟨hdown, hold⟩

/-- Every callback is sound in the state that it finds. -/
theorem sound_ops {w : OwnWindow} {c : Callback} (hq : v.Quiet) (hpressed : v.pressed = w.pressedKeys)
    (hlists : w.Lists c)
    (htwo : ∀ key repeats, c = .keyboardKey key 2 repeats → w.keyboardFocused = true → key ∈ w.pressedKeys) :
    v.Sound (w.ops c) := by
  have horder : ∀ order ∈ c.releaseOrder, order.toFinset = v.pressed := fun order h =>
    (hlists order h).2.trans hpressed.symm
  cases c with
  | registryGlobal name =>
    dsimp only [OwnWindow.ops]
    split
    · exact hq
    · exact sound_plain_nil (by simp [Op.Plain]) hq
  | registryGlobalRemove name order =>
    dsimp only [OwnWindow.ops]
    split
    · exact hq
    · refine sound_loseKeyboard hq (horder order rfl) ?_
      exact List.forall_mem_append.2 ⟨plain_losePointer w, by simp [Op.Plain]⟩
  | seatCapabilities capabilities order =>
    dsimp only [OwnWindow.ops]
    refine sound_plain ?_ ?_
    · split
      · split
        · exact List.forall_mem_nil _
        · simp [Op.Plain]
      · exact plain_losePointer w
    · split
      · split
        · exact hq
        · exact sound_plain_nil (by simp [Op.Plain]) hq
      · rw [← List.append_nil (w.loseKeyboard order)]
        exact sound_loseKeyboard hq (horder order rfl) (List.forall_mem_nil _)
  | pointerEnter own x y =>
    refine sound_plain_nil ?_ hq
    dsimp only [OwnWindow.ops]
    split <;> simp [Op.Plain, motionEvent]
  | pointerLeave => exact sound_plain_nil (plain_releaseButtons _) hq
  | pointerMotion x y =>
    refine sound_plain_nil ?_ hq
    dsimp only [OwnWindow.ops]
    split <;> simp [Op.Plain, motionEvent]
  | pointerButton button state =>
    refine sound_plain_nil ?_ hq
    dsimp only [OwnWindow.ops]
    split <;> simp [Op.Plain, buttonEvent]
  | pointerFrame detents =>
    refine sound_plain_nil (fun op hop => ?_) hq
    obtain ⟨d, -, rfl⟩ := List.mem_map.1 hop
    exact InputType.noConfusion
  | keyboardEnter own keys =>
    have hfocus : ∀ op ∈ [Op.setFocused own, .record (focusEvent own)], op.Plain := by
      simp [Op.Plain, focusEvent]
    have hkeys : v.Sound (if own = true then enterKeys w.pressedKeys keys else []) := by
      rw [← hpressed]
      split
      · exact sound_enterKeys hq
      · exact hq
    exact sound_plain hfocus hkeys
  | keyboardLeave order =>
    dsimp only [OwnWindow.ops]
    rw [← List.append_nil (releaseKeys order)]
    exact sound_releaseKeys hq (horder order rfl) (List.forall_mem_nil _)
  | keyboardKey key state repeats =>
    dsimp only [OwnWindow.ops]
    split
    · next hfocused =>
      by_cases hstate : state = 0
      · subst hstate
        exact sound_keyReleased hq
      · rw [if_pos hstate]
        refine sound_keyPressed hq hstate fun h2 => ?_
        subst h2
        rw [hq.1, hpressed]
        exact htwo key repeats rfl hfocused
    · exact hq
  | keyboardRepeatInfo rate => exact sound_plain_nil (by simp [OwnWindow.ops, Op.Plain]) hq

end KeyView

/-- The key that the repeat thread works on. -/
def RepeatThread.key : RepeatThread → Option UInt32
  | .delaying key | .recording key | .recorded key | .pausing key => some key
  | _ => none

namespace Threads

def view (t : Threads) : KeyView where
  down := heldIn .key t.window.recorded
  pressed := t.window.pressedKeys
  repeating := t.window.repeatingKey
  released := t.released

structure Inv (t : Threads) : Prop where
  sound : t.view.Sound t.todo
  key_ne_zero : ∀ key ∈ t.thread.key, key ≠ 0
  recording : ∀ key, t.thread = .recording key → key ∈ heldIn .key t.window.recorded
  ordered : Ordered t.window.recorded

theorem inv_start : Inv {} where
  sound := ⟨rfl, fun hne => absurd rfl hne⟩
  key_ne_zero _ h := absurd h (by simp [RepeatThread.key])
  recording _ h := RepeatThread.noConfusion h
  ordered := ordered_nil

variable {t t' : Threads}

theorem released_of_some {op : Op} {key : UInt32} (h : op.releases = some key) :
    ((t.done ++ [op]).filterMap Op.releases).toFinset = insert key t.released := by
  rw [List.filterMap_append, List.toFinset_append, List.filterMap_cons_some h, Finset.union_comm]
  rfl

theorem released_of_none {op : Op} (h : op.releases = none) :
    ((t.done ++ [op]).filterMap Op.releases).toFinset = t.released := by
  rw [List.filterMap_append, List.toFinset_append, List.filterMap_cons_none h]
  exact Finset.union_empty _

/-- A section of the callback does to the view what it does to the window. -/
theorem view_callback (t : Threads) (op : Op) (ops : List Op) :
    view { t with window := t.window.apply op, done := t.done ++ [op], todo := ops } = t.view.step op := by
  unfold view released
  cases op with
  | record e =>
    have hreleases : (Op.record e).releases = if e.type = .key ∧ e.b = 0 then some e.a else none := rfl
    dsimp only [OwnWindow.apply, KeyView.step]
    by_cases hkey : e.type = .key
    · have hdown : heldIn .key (t.window.recorded ++ [e]) =
          hold (heldIn .key t.window.recorded) ⟨e.a, e.b ≠ 0⟩ := by
        rw [← hkey]
        exact heldIn_concat e.type _ e.a e.b
      rw [if_pos hkey, hdown]
      by_cases hzero : e.b = 0
      · rw [released_of_some (hreleases.trans (if_pos ⟨hkey, hzero⟩)), if_pos hzero]
        rfl
      · rw [released_of_none (hreleases.trans (if_neg fun h => hzero h.2)), if_neg hzero]
        rfl
    · rw [if_neg hkey, heldIn_concat_of_ne hkey, 
        released_of_none (hreleases.trans (if_neg fun h => hkey h.1))]
      rfl
  | repeatKey key state repeats =>
    rw [released_of_none rfl]
    dsimp only [OwnWindow.apply, KeyView.step]
    split
    · rfl
    · split <;> rfl
  | _ =>
    rw [released_of_none rfl]
    rfl

/-- A repeat of a key that is down changes nothing for the callback. -/
theorem view_repeat {key : UInt32} (thread : RepeatThread) (h : key ∈ heldIn .key t.window.recorded) :
    view { t with window := t.window.apply (.record (keyEvent key 2)), thread } = t.view := by
  have hdown : heldIn .key (t.window.recorded ++ [keyEvent key 2]) = heldIn .key t.window.recorded :=
    (heldIn_concat_key _ _ _).trans (hold_of_mem h)
  unfold view
  dsimp only [OwnWindow.apply]
  rw [hdown]
  rfl

theorem Inv.begin {c : Callback} (h : t.Inv) (hc : t.Apart (.begin c)) (htodo : t.todo = [])
    (hlists : t.window.Lists c) : Inv { t with done := [], todo := t.window.ops c } := by
  have hquiet : t.view.Quiet := by
    have hsound := h.sound
    rw [htodo] at hsound
    exact hsound
  refine ⟨?_, h.key_ne_zero, h.recording, h.ordered⟩
  refine KeyView.sound_ops ⟨hquiet.1, hquiet.2⟩ rfl hlists fun key repeats heq hfocused => ?_
  subst heq
  exact hc hfocused rfl

theorem Inv.callback {op : Op} {ops : List Op} (h : t.Inv) (hc : t.Apart .callback) (htodo : t.todo = op :: ops) :
    Inv { t with window := t.window.apply op, done := t.done ++ [op], todo := ops } := by
  have hsound := h.sound
  rw [htodo] at hsound
  obtain ⟨-, hrepeat, hrest⟩ := hsound
  have hapart : ∀ key ∈ op.releases, t.thread ≠ .recording key := fun key hkey =>
    hc key (by rw [htodo]; exact hkey)
  refine ⟨by rw [view_callback]; exact hrest, h.key_ne_zero, fun key hthread => ?_, ?_⟩
  · have hdown := h.recording key hthread
    cases op with
    | record e =>
      refine mem_heldIn_append hdown fun hmem => hapart key ?_ hthread
      rw [← List.mem_singleton.1 hmem]
      rfl
    | repeatKey k state repeats =>
      dsimp only [OwnWindow.apply]
      split
      · exact hdown
      · split <;> exact hdown
    | _ => exact hdown
  · cases op with
    | record e => exact h.ordered.record fun key heq => hrepeat key (congrArg Op.record heq)
    | repeatKey k state repeats =>
      dsimp only [OwnWindow.apply]
      split
      · exact h.ordered
      · split <;> exact h.ordered
    | _ => exact h.ordered

/-- A key that passes the test is down. -/
theorem Inv.test {key : UInt32} (h : t.Inv) (hc : t.Apart .waited)
    (htested : t.thread.tested = some key) (hkey : key ≠ 0) : (t.test key).Inv := by
  unfold Threads.test
  split
  · next hrepeats =>
    refine ⟨h.sound, fun k hk => ?_, fun k hk => ?_, h.ordered⟩
    · obtain rfl := Option.some.inj hk
      exact hkey
    · obtain rfl := RepeatThread.recording.inj hk
      have hrepeating : t.view.repeating = key := hrepeats.2.1
      rcases h.sound.ok (by rw [hrepeating]; exact hkey) with hdown | hreleased
      · exact hrepeating ▸ hdown
      · exact absurd (hrepeating ▸ hreleased) (hc key htested hrepeats)
  · exact ⟨h.sound, fun k hk => (nomatch hk), fun k hk => RepeatThread.noConfusion hk, h.ordered⟩

theorem Inv.waited (h : t.Inv) (hc : t.Apart .waited) (hs : t.repeatStep = some t') : t'.Inv := by
  unfold repeatStep at hs
  cases hthread : t.thread with
  | waiting =>
    simp only [hthread] at hs
    split at hs
    · obtain rfl := Option.some.inj hs
      exact ⟨h.sound, fun k hk => (nomatch hk), fun k hk => RepeatThread.noConfusion hk, h.ordered⟩
    · split at hs
      · next hkey =>
        obtain rfl := Option.some.inj hs
        refine ⟨h.sound, fun k hk => ?_, fun k hk => RepeatThread.noConfusion hk, h.ordered⟩
        obtain rfl := Option.some.inj hk
        exact hkey.1
      · exact nomatch hs
  | delaying key =>
    simp only [hthread] at hs
    obtain rfl := Option.some.inj hs
    exact h.test hc (hthread ▸ rfl) (h.key_ne_zero key (hthread ▸ rfl))
  | recording key =>
    simp only [hthread] at hs
    obtain rfl := Option.some.inj hs
    have hdown := h.recording key hthread
    refine ⟨?_, fun k hk => ?_, fun k hk => RepeatThread.noConfusion hk, ?_⟩
    · rw [view_repeat _ hdown]
      exact h.sound
    · exact h.key_ne_zero k (by rw [hthread]; exact hk)
    · refine h.ordered.record fun k heq => ?_
      obtain rfl : key = k := congrArg InputEvent.a heq
      exact hdown
  | recorded key =>
    simp only [hthread] at hs
    obtain rfl := Option.some.inj hs
    refine ⟨h.sound, fun k hk => ?_, fun k hk => ?_, h.ordered⟩
    · split at hk
      · exact nomatch hk
      · exact h.key_ne_zero k (by rw [hthread]; exact hk)
    · split at hk <;> exact RepeatThread.noConfusion hk
  | pausing key =>
    simp only [hthread] at hs
    obtain rfl := Option.some.inj hs
    exact h.test hc (hthread ▸ rfl) (h.key_ne_zero key (hthread ▸ rfl))
  | ended =>
    simp only [hthread] at hs
    exact nomatch hs

theorem inv_step {a : KeyAction} (h : t.Inv) (hc : t.Apart a) (hs : t.step a = some t') : t'.Inv := by
  cases a with
  | begin c =>
    unfold step at hs
    dsimp only at hs
    split at hs
    · next hbegin =>
      obtain rfl := Option.some.inj hs
      exact h.begin hc hbegin.1 hbegin.2
    · exact nomatch hs
  | callback =>
    unfold step at hs
    dsimp only at hs
    cases htodo : t.todo with
    | nil =>
      simp only [htodo] at hs
      exact nomatch hs
    | cons op ops =>
      simp only [htodo] at hs
      obtain rfl := Option.some.inj hs
      exact h.callback hc htodo
  | waited => exact h.waited hc hs
  | stop =>
    obtain rfl := Option.some.inj hs
    exact ⟨h.sound, h.key_ne_zero, h.recording, h.ordered⟩

/-- In every interleaving in which the two keep apart, every repeat lies between a press and the release. -/
theorem run_repeats_held {as : List KeyAction} (h : RunWhere step Apart {} as t) :
    RepeatsHeld t.window.recorded :=
  (h.invariant inv_start fun _ _ _ ht hc hs => inv_step ht hc hs).ordered.repeats

/-- A key is pressed and released, and the repeat thread has tested it before the release. -/
def lateRepeat : List KeyAction :=
  [.begin (.registryGlobal 7), .callback, .begin (.seatCapabilities 2 []), .callback,
   .begin (.keyboardEnter true []), .callback, .callback, .begin (.keyboardRepeatInfo 25), .callback,
   .begin (.keyboardKey 30 1 true), .callback, .callback, .callback, .waited, .waited,
   .begin (.keyboardKey 30 0 true), .callback, .callback, .callback, .waited]

def afterLateRepeat : Threads where
  window :=
    { seatName := 7, seat := true, keyboard := true, keyboardFocused := true, repeatRate := 25
      recorded := [focusEvent true, keyEvent 30 1, keyEvent 30 0, keyEvent 30 2] }
  done := [.eraseKey 30, .record (keyEvent 30 0), .repeatKey 30 0 true]
  thread := .recorded 30

/-- The repeat is recorded behind the release. -/
theorem repeat_after_release :
    Run step {} lateRepeat afterLateRepeat ∧ ¬ RepeatsHeld afterLateRepeat.window.recorded := by
  refine ⟨run_of_runList (by decide), fun h => ?_⟩
  have hdown : Down 30 [focusEvent true, keyEvent 30 1, keyEvent 30 0] := h 30 _ ⟨[], rfl⟩
  have hheld := hdown.held
  revert hheld
  decide

/-- The key is repeated once, and released when the thread is behind the record. -/
def timelyRepeat : List KeyAction := lateRepeat.take 15 ++ [.waited, .waited] ++ (lateRepeat.drop 15).take 4

def afterTimelyRepeat : Threads where
  window :=
    { seatName := 7, seat := true, keyboard := true, keyboardFocused := true, repeatRate := 25
      recorded := [focusEvent true, keyEvent 30 1, keyEvent 30 2, keyEvent 30 0] }
  done := [.eraseKey 30, .record (keyEvent 30 0), .repeatKey 30 0 true]
  thread := .pausing 30

theorem run_repeats_held_timely :
    RunWhere step Apart {} timelyRepeat afterTimelyRepeat ∧ RepeatsHeld afterTimelyRepeat.window.recorded :=
  have hrun : RunWhere step Apart {} timelyRepeat afterTimelyRepeat := runWhere_of_checked (by decide)
  ⟨hrun, run_repeats_held hrun⟩

end Threads

end VkRemote.Server
